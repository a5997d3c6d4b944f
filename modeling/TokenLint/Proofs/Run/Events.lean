import TokenLint.Proofs.Run.PassStep

/-!
# The log of a pass

What happens in a pass, in order: a rule is called, it reports, edits, and opens, ends and drops
changesets, and the call is left. Played from the start of the pass, the log gives the pass with its
calls and failures, so what holds after any number of its events holds throughout the pass.

An operation that is refused is in the log too, and leaves the pass as it is. A rule that goes on
after a refusal is one that looks at the pass first.
-/

namespace TokenLint

/-- What happens to a pass: a rule is entered and left, and in between its program reports and
edits. -/
inductive PassEvent where
  | enter (call : RuleCall)
  | report (ruleId : String) (made : Report)
  | begin
  | finish
  | rollback
  | edit (place : EditPlace) (index : Int) (text : String)
  | leave (failure : Option RuleFailure)

namespace PassEvent

/-- Whether an event is an operation of the rule that is being called. -/
def isAction : PassEvent → Bool
  | enter _ | leave _ => false
  | _ => true

/-- Whether an event is a change of a token. -/
def isEdit : PassEvent → Bool
  | edit .. => true
  | _ => false

/-- Whether an event leaves a changeset open. -/
def staysOpen : PassEvent → Bool
  | report .. | begin | edit .. => true
  | _ => false

/-- Whether a log that begins in a call, or between two, is one of calls that are entered and left
one after the other. -/
def orderly (inCall : Bool) : List PassEvent → Bool
  | [] => !inCall
  | enter _ :: rest => !inCall && orderly true rest
  | leave _ :: rest => inCall && orderly false rest
  | _ :: rest => inCall && orderly inCall rest

end PassEvent

namespace Pass

/-- A pass after one more event. What is refused leaves it as it is, and leaving a rule settles what
its call has left open. -/
def next (pass : Pass) : PassEvent → Pass
  | .enter _ => pass
  | .report ruleId made =>
    match pass.report ruleId made with
    | .ok (after, _) => after
    | .error _ => pass
  | .begin =>
    match pass.ledger.begin with
    | .ok ledger => { pass with ledger }
    | .error _ => pass
  | .finish =>
    match pass.ledger.finish with
    | .ok commitment => pass.take commitment
    | .error _ => pass
  | .rollback => { pass with ledger := pass.ledger.rollback }
  | .edit place index text =>
    match pass.ledger.edit place index text with
    | .ok commitment => pass.take commitment
    | .error _ => pass
  | .leave none => pass.betweenCalls
  | .leave (some failure) => pass.betweenCalls.reportFailure failure

/-- A pass after the events of a log. -/
def replay (pass : Pass) (log : List PassEvent) : Pass := log.foldl next pass

@[simp]
theorem replay_nil (pass : Pass) : pass.replay [] = pass := rfl

@[simp]
theorem replay_cons (pass : Pass) (event : PassEvent) (log : List PassEvent) :
    pass.replay (event :: log) = (pass.next event).replay log := rfl

@[simp]
theorem replay_append (pass : Pass) (first second : List PassEvent) :
    pass.replay (first ++ second) = (pass.replay first).replay second :=
  List.foldl_append

end Pass

namespace PassTrace

/-- The trace of a pass after one more event: entering a rule lists the call, and leaving it by a
failure lists the failure. -/
def next (trace : PassTrace) (event : PassEvent) : PassTrace where
  pass := trace.pass.next event
  calls :=
    match event with
    | .enter call => trace.calls.push call
    | _ => trace.calls
  failures :=
    match event with
    | .leave (some failure) => trace.failures.push failure
    | _ => trace.failures

/-- The trace of a pass after the events of a log. -/
def replay (trace : PassTrace) (log : List PassEvent) : PassTrace := log.foldl next trace

variable (trace : PassTrace)

@[simp]
theorem replay_cons (event : PassEvent) (log : List PassEvent) :
    trace.replay (event :: log) = (trace.next event).replay log := rfl

@[simp]
theorem replay_append (first second : List PassEvent) :
    trace.replay (first ++ second) = (trace.replay first).replay second :=
  List.foldl_append

theorem pass_replay (log : List PassEvent) : (trace.replay log).pass = trace.pass.replay log := by
  induction log generalizing trace with
  | nil => rfl
  | cons event rest ih => exact ih (trace.next event)

/-- Operations of a rule leave the calls and the failures of a trace alone. -/
theorem replay_of_actions {log : List PassEvent} (actions : ∀ event ∈ log, event.isAction = true) :
    trace.replay log = { trace with pass := trace.pass.replay log } := by
  induction log generalizing trace with
  | nil => rfl
  | cons event rest ih =>
      have next_eq : trace.next event = { trace with pass := trace.pass.next event } := by
        cases event with
        | enter call => cases actions _ List.mem_cons_self
        | leave failure => cases actions _ List.mem_cons_self
        | _ => rfl
      have later := ih { trace with pass := trace.pass.next event } fun event member =>
        actions event (List.mem_cons_of_mem _ member)
      rw [replay_cons, next_eq, later]
      rfl

end PassTrace

theorem Pass.steps_next (pass : Pass) (event : PassEvent) : Steps pass (pass.next event) := by
  cases event with
  | enter call => exact .refl
  | report ruleId made =>
      simp only [next]
      split
      · rename_i after fixNow reported
        exact steps_report reported
      · exact .refl
  | begin =>
      simp only [next]
      split
      · rename_i ledger opened
        exact .single (.begin opened)
      · exact .refl
  | finish =>
      simp only [next]
      split
      · rename_i commitment closed
        exact .single (.finish closed)
      · exact .refl
  | rollback => exact .single (.rollback pass)
  | edit place index text =>
      simp only [next]
      split
      · rename_i commitment edited
        exact .single (.edit edited)
      · exact .refl
  | leave failure =>
      cases failure with
      | none => exact steps_betweenCalls pass
      | some failure => exact (steps_betweenCalls pass).trans (steps_reportFailure _ failure)

theorem Pass.steps_replay (pass : Pass) (log : List PassEvent) : Steps pass (pass.replay log) := by
  induction log generalizing pass with
  | nil => exact .refl
  | cons event rest ih => exact (pass.steps_next event).trans (ih (pass.next event))

namespace RuleProgram

/-- The events of a program, up to where it ends or a report of it cannot be made. -/
def events {α : Type} (ruleId : String) : RuleProgram α → RuleState → List PassEvent
  | done _, _ => []
  | fail _, _ => []
  | report made next, state =>
    .report ruleId made :: match state.pass.report ruleId made with
      | .ok (pass, fixNow) => (next fixNow).events ruleId { state with pass }
      | .error _ => []
  | begin next, state =>
    .begin :: match state.pass.ledger.begin with
      | .ok ledger => next.events ruleId { state with pass := { state.pass with ledger } }
      | .error _ => []
  | finish next, state =>
    .finish :: match state.pass.ledger.finish with
      | .ok commitment =>
        (next commitment.accepted).events ruleId { state with pass := state.pass.take commitment }
      | .error _ => []
  | rollback next, state =>
    .rollback :: next.events ruleId { state with
      pass := { state.pass with ledger := state.pass.ledger.rollback } }
  | edit place index text next, state =>
    .edit place index text :: match state.pass.ledger.edit place index text with
      | .ok commitment =>
        (next commitment.accepted).events ruleId { state with pass := state.pass.take commitment }
      | .error _ => []
  | inspect next, state => (next state.pass).events ruleId state
  | consult next, state => (next state.memory).events ruleId state
  | remember memory next, state => next.events ruleId { state with memory }

variable {α : Type} (ruleId : String)

/-- The events of a program lead to the pass that it leaves, also when it fails. -/
theorem replay_events (program : RuleProgram α) (pass : Pass) (memory : Memory) :
    pass.replay (program.events ruleId ⟨pass, memory⟩) =
      (program.run ruleId ⟨pass, memory⟩).state.pass := by
  induction program generalizing pass memory with
  | done result => rfl
  | fail fault => rfl
  | report made next ih =>
      cases outcome : pass.report ruleId made with
      | error refusal => simp [events, run, Pass.next, outcome]
      | ok accepted =>
          simp only [events, run, Pass.replay_cons, Pass.next, outcome]
          exact ih _ _ _
  | begin next ih =>
      cases outcome : pass.ledger.begin with
      | error refusal => simp [events, run, Pass.next, outcome]
      | ok opened =>
          simp only [events, run, Pass.replay_cons, Pass.next, outcome]
          exact ih _ _
  | finish next ih =>
      cases outcome : pass.ledger.finish with
      | error refusal => simp [events, run, Pass.next, outcome]
      | ok commitment =>
          simp only [events, run, Pass.replay_cons, Pass.next, outcome]
          exact ih _ _ _
  | rollback next ih => exact ih _ _
  | edit place index text next ih =>
      cases outcome : pass.ledger.edit place index text with
      | error refusal => simp [events, run, Pass.next, outcome]
      | ok commitment =>
          simp only [events, run, Pass.replay_cons, Pass.next, outcome]
          exact ih _ _ _
  | inspect next ih => exact ih _ _ _
  | consult next ih => exact ih _ _ _
  | remember memory next ih => exact ih _ _

theorem isAction_of_mem_events {program : RuleProgram α} {state : RuleState} {event : PassEvent}
    (member : event ∈ program.events ruleId state) : event.isAction = true := by
  induction program generalizing state with
  | done result => cases member
  | fail fault => cases member
  | report made next ih =>
      rw [events] at member
      rcases List.mem_cons.mp member with rfl | later
      · rfl
      · split at later
        · exact ih _ later
        · cases later
  | begin next ih =>
      rw [events] at member
      rcases List.mem_cons.mp member with rfl | later
      · rfl
      · split at later
        · exact ih later
        · cases later
  | finish next ih =>
      rw [events] at member
      rcases List.mem_cons.mp member with rfl | later
      · rfl
      · split at later
        · exact ih _ later
        · cases later
  | rollback next ih =>
      rcases List.mem_cons.mp member with rfl | later
      · rfl
      · exact ih later
  | edit place index text next ih =>
      rw [events] at member
      rcases List.mem_cons.mp member with rfl | later
      · rfl
      · split at later
        · exact ih _ later
        · cases later
  | inspect next ih => exact ih _ member
  | consult next ih => exact ih _ member
  | remember memory next ih => exact ih member

end RuleProgram

namespace RuleSlot

variable (slot : RuleSlot) (index : Nat)

/-- The failure of a call on a token, if it has failed. -/
def failure? (result : Except RuleFault (Option Int)) : Option RuleFailure :=
  match result with
  | .ok _ => none
  | .error fault => some ⟨slot.rule.id, index, fault⟩

/-- The events of a call, from entering the rule to leaving it. -/
def events (pass : Pass) : List PassEvent :=
  let program := slot.rule.process pass.stream index slot.options
  let state : RuleState := ⟨pass, slot.memory⟩
  .enter ⟨slot.rule.id, index⟩ :: (program.events slot.rule.id state ++
    [.leave (slot.failure? index (program.run slot.rule.id state).result)])

theorem replay_events (trace : PassTrace) :
    trace.replay (slot.events index trace.pass) = (slot.visit index trace).2 := by
  have entered : (trace.next (.enter ⟨slot.rule.id, index⟩)).pass = trace.pass := rfl
  simp only [events, PassTrace.replay_cons, PassTrace.replay_append]
  rw [PassTrace.replay_of_actions _ fun event => RuleProgram.isAction_of_mem_events _, entered,
    RuleProgram.replay_events]
  simp only [visit, failure?]
  cases (RuleProgram.run slot.rule.id (slot.rule.process trace.pass.stream index slot.options)
    ⟨trace.pass, slot.memory⟩).result <;> rfl

end RuleSlot

/-- The events of all calls on a token, by rules in their order. -/
def eventsAll (token : Token) (trace : PassTrace) : List RuleSlot → List PassEvent
  | [] => []
  | slot :: rest =>
    if slot.wants token then
      slot.events token.index trace.pass ++ eventsAll token (slot.visit token.index trace).2 rest
    else eventsAll token trace rest

theorem replay_eventsAll (token : Token) (slots : List RuleSlot) (trace : PassTrace) :
    trace.replay (eventsAll token trace slots) = (visitAll token trace slots).2 := by
  induction slots generalizing trace with
  | nil => rfl
  | cons slot rest ih =>
      by_cases wanted : slot.wants token
      · simp only [eventsAll, visitAll, wanted, if_true, PassTrace.replay_append]
        rw [slot.replay_events, ih]
      · simp only [eventsAll, visitAll, wanted, Bool.false_eq_true, if_false]
        exact ih trace

/-- The events of all calls on some tokens, in their order. -/
def eventsFrom : List Token → List RuleSlot × PassTrace → List PassEvent
  | [], _ => []
  | token :: rest, (slots, trace) =>
    eventsAll token trace slots ++ eventsFrom rest (visitAll token trace slots)

theorem replay_eventsFrom (tokens : List Token) (state : List RuleSlot × PassTrace) :
    state.2.replay (eventsFrom tokens state) =
      (tokens.foldl (fun state token => visitAll token state.2 state.1) state).2 := by
  induction tokens generalizing state with
  | nil => rfl
  | cons token rest ih =>
      simp only [eventsFrom, PassTrace.replay_append, List.foldl_cons]
      rw [replay_eventsAll, ih]

namespace PassEvent

theorem isAction_of_staysOpen {event : PassEvent} (stays : event.staysOpen = true) :
    event.isAction = true := by
  cases event <;> first | rfl | cases stays

/-- Between two calls the next event is the entry of a call. -/
theorem orderly_between {event : PassEvent} {rest : List PassEvent}
    (ordered : orderly false (event :: rest) = true) :
    ∃ call, event = enter call ∧ orderly true rest = true := by
  cases event with
  | enter call => exact ⟨call, rfl, ordered⟩
  | _ => cases ordered

/-- In a call the next event is an operation, or the call is left. -/
theorem orderly_inCall {event : PassEvent} {rest : List PassEvent}
    (ordered : orderly true (event :: rest) = true) :
    (event.isAction = true ∧ orderly true rest = true) ∨
      ∃ failure, event = leave failure ∧ orderly false rest = true := by
  cases event with
  | enter call => cases ordered
  | leave failure => exact .inr ⟨failure, rfl, ordered⟩
  | _ => exact .inl ⟨rfl, ordered⟩

theorem orderly_actions {actions : List PassEvent} (acts : ∀ event ∈ actions, event.isAction = true)
    (rest : List PassEvent) : orderly true (actions ++ rest) = orderly true rest := by
  induction actions with
  | nil => rfl
  | cons event actions ih =>
      have later := ih fun event member => acts event (List.mem_cons_of_mem _ member)
      cases event with
      | enter call => cases acts _ List.mem_cons_self
      | leave failure => cases acts _ List.mem_cons_self
      | _ => exact later

theorem orderly_events (slot : RuleSlot) (index : Nat) (pass : Pass) (rest : List PassEvent) :
    orderly false (slot.events index pass ++ rest) = orderly false rest := by
  rw [RuleSlot.events, List.cons_append, List.append_assoc]
  exact orderly_actions (fun event => RuleProgram.isAction_of_mem_events _) _

theorem orderly_eventsAll (token : Token) (slots : List RuleSlot) (trace : PassTrace)
    (rest : List PassEvent) :
    orderly false (eventsAll token trace slots ++ rest) = orderly false rest := by
  induction slots generalizing trace with
  | nil => rfl
  | cons slot slots ih =>
      by_cases wanted : slot.wants token
      · simp only [eventsAll, wanted, if_true, List.append_assoc]
        rw [orderly_events, ih]
      · simp only [eventsAll, wanted, Bool.false_eq_true, if_false]
        exact ih trace

theorem orderly_eventsFrom (tokens : List Token) (state : List RuleSlot × PassTrace) :
    orderly false (eventsFrom tokens state) = true := by
  induction tokens generalizing state with
  | nil => rfl
  | cons token rest ih =>
      rw [eventsFrom, orderly_eventsAll]
      exact ih _

end PassEvent

namespace Dispatcher

variable (dispatcher : Dispatcher) (stream : TokenStream) (fixing : Bool)

/-- The log of a pass over a stream. -/
def events : List PassEvent :=
  eventsFrom stream.tokens.toList (dispatcher.slots, ⟨.start stream fixing, #[], #[]⟩)

/-- The log of a pass leads to the pass, with its calls and its failures. -/
theorem replay_events :
    (PassTrace.mk (.start stream fixing) #[] #[]).replay (dispatcher.events stream fixing) =
      (dispatcher.dispatch stream fixing).2 :=
  replay_eventsFrom stream.tokens.toList (dispatcher.slots, ⟨.start stream fixing, #[], #[]⟩)

theorem orderly_events : PassEvent.orderly false (dispatcher.events stream fixing) = true :=
  PassEvent.orderly_eventsFrom _ _

end Dispatcher

end TokenLint
