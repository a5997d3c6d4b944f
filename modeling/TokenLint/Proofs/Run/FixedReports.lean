import TokenLint.Proofs.Run.Bindings

/-!
# Fixes throughout a pass

What the log of a pass says about fixes: each place and code is offered once, a report is changed
only by an operation of the call that made it, and a changeset that a call leaves open, because it
failed or forgot to close it, is gone with all its edits.
-/

namespace TokenLint

namespace Pass

variable {pass after : Pass} {event : PassEvent}

/-- The code and the token of the report that an event puts on offer. -/
def offered? (pass : Pass) : PassEvent → Option (String × Int)
  | .report ruleId made =>
    match pass.report ruleId made with
    | .ok (_, true) => some (ruleId ++ "." ++ made.shortCode, made.index)
    | _ => none
  | _ => none

/-- The codes and tokens of the reports that are put on offer, in order. -/
def offeredIn (pass : Pass) : List PassEvent → List (String × Int)
  | [] => []
  | event :: rest => (pass.offered? event).toList ++ (pass.next event).offeredIn rest

theorem Step.seen_subset (step : Step pass after) : pass.seen ⊆ after.seen := by
  cases step with
  | accept key message severity fixable =>
      simp only [Pass.accept]
      split
      · exact List.Subset.refl _
      · exact List.subset_cons_self _ _
  | finish closed => rw [seen_take]; exact List.Subset.refl _
  | edit edited => rw [seen_take]; exact List.Subset.refl _
  | _ => exact List.Subset.refl _

theorem Steps.seen_subset (steps : Steps pass after) : pass.seen ⊆ after.seen := by
  induction steps with
  | refl => exact List.Subset.refl _
  | tail _ step ih => exact List.Subset.trans ih step.seen_subset

theorem seen_offered {key : String × Int} (offered : pass.offered? event = some key) :
    (⟨key.1, key.2, ""⟩ : ReportKey) ∉ pass.seen ∧
      (⟨key.1, key.2, ""⟩ : ReportKey) ∈ (pass.next event).seen := by
  cases event with
  | report ruleId made =>
      simp only [offered?] at offered
      split at offered
      · rename_i after reported
        cases offered
        rcases pass.report_cases reported with ⟨message, ⟨⟨⟩, -⟩ | ⟨-, fresh, rfl⟩⟩
        refine ⟨fresh, ?_⟩
        have unknown : ¬pass.seen.contains
            ⟨ruleId ++ "." ++ made.shortCode, made.index, ""⟩ = true := by simpa using fresh
        simp only [next, reported, accept, if_neg unknown]
        exact List.mem_cons_self
      · cases offered
  | _ => cases offered

/-- What is offered was not reported before, and is offered once. -/
theorem offeredIn_fresh (pass : Pass) (log : List PassEvent) :
    (pass.offeredIn log).Nodup ∧
      ∀ key ∈ pass.offeredIn log, (⟨key.1, key.2, ""⟩ : ReportKey) ∉ pass.seen := by
  induction log generalizing pass with
  | nil => simp [offeredIn]
  | cons event rest ih =>
      rcases ih (pass.next event) with ⟨nodup, fresh⟩
      have later : ∀ key ∈ (pass.next event).offeredIn rest,
          (⟨key.1, key.2, ""⟩ : ReportKey) ∉ pass.seen := fun key member known =>
        fresh key member ((pass.steps_next event).seen_subset known)
      rw [offeredIn]
      cases offered : pass.offered? event with
      | none => exact ⟨nodup, later⟩
      | some key =>
          rcases seen_offered offered with ⟨unseen, seen⟩
          constructor
          · apply List.nodup_cons.mpr ⟨fun again => fresh key again seen, nodup⟩
          · intro other member
            rcases List.mem_cons.mp member with rfl | among
            · exact unseen
            · exact later other among

theorem staged_next_finish (pass : Pass) : (pass.next .finish).ledger.staged = none := by
  simp only [next]
  split
  · rename_i commitment closed
    rcases pass.ledger.eq_commit_of_finish closed with ⟨edits, -, rfl⟩
    rw [ledger_take]
    exact (pass.ledger.rollback.open_commit edits pass.ledger.bound).1
  · rename_i refusal closed
    simp only [Ledger.finish] at closed
    split at closed
    · assumption
    · cases closed

/-- A changeset that is open was opened in the call at hand, and only reports, edits and vain
attempts to open another one came after that. -/
theorem Binding.exists_begin (binding : pass.Binding none) {before after : List PassEvent}
    (ordered : PassEvent.orderly false (before ++ after) = true)
    (staged : (pass.replay before).ledger.staged.isSome = true) :
    ∃ earlier actions, before = earlier ++ .begin :: actions ∧
      (pass.replay earlier).ledger.staged = none ∧
      ∀ action ∈ actions, action.staysOpen = true := by
  induction before using List.reverseRecOn generalizing after with
  | nil =>
      rw [replay_nil, binding.settled.1] at staged
      cases staged
  | append_singleton before event ih =>
      have shorter : PassEvent.orderly false (before ++ ([event] ++ after)) = true := by
        rwa [← List.append_assoc]
      rw [replay_append, replay_cons, replay_nil] at staged
      cases stays : event.staysOpen with
      | true =>
          have extend : (pass.replay before).ledger.staged.isSome = true →
              ∃ earlier actions, before ++ [event] = earlier ++ .begin :: actions ∧
                (pass.replay earlier).ledger.staged = none ∧
                ∀ action ∈ actions, action.staysOpen = true := by
            intro still
            rcases ih shorter still with ⟨earlier, actions, rfl, closed, stay⟩
            refine ⟨earlier, actions ++ [event], by simp, closed, ?_⟩
            intro action member
            rcases List.mem_append.mp member with among | last
            · exact stay action among
            · rw [List.mem_singleton.mp last]
              exact stays
          cases turn_next _ (PassEvent.isAction_of_staysOpen stays) with
          | kept _ _ staged_eq => exact extend (staged_eq ▸ staged)
          | offered _ _ _ _ _ staged_eq => exact extend (staged_eq ▸ staged)
          | opened event_eq closed =>
              subst event_eq
              exact ⟨before, [], rfl, closed, by simp⟩
          | closed _ _ staged_eq =>
              rw [staged_eq] at staged
              cases staged
      | false =>
          -- Any other event leaves no changeset open, and a call is entered with none.
          cases event with
          | enter call =>
              rcases binding.replay_cases shorter with ⟨between, -⟩ | ⟨rest, -⟩
              · rw [next, between.settled.1] at staged
                cases staged
              · cases rest
          | finish =>
              rw [staged_next_finish] at staged
              cases staged
          | rollback => cases staged
          | leave failure =>
              rcases binding.exists_replay shorter with ⟨entry, reached⟩
              rw [(reached.leave failure).settled.1] at staged
              cases staged
          | _ => cases stays

/-- A pass without the edits of its open changeset. -/
def withoutEdits (pass : Pass) : Pass :=
  { pass with ledger := { pass.ledger with staged := some [] } }

theorem accept_withoutEdits (pass : Pass) (key : ReportKey) (message : String)
    (severity : Severity) (fixable : Bool) :
    pass.withoutEdits.accept key message severity fixable =
      ((pass.accept key message severity fixable).1.withoutEdits,
        (pass.accept key message severity fixable).2) := by
  have seen_eq : pass.withoutEdits.seen = pass.seen := rfl
  by_cases known : pass.seen.contains key = true
  · simp only [accept, seen_eq, if_pos known]
  · simp only [accept, seen_eq, if_neg known]
    rfl

theorem report_withoutEdits (pass : Pass) (ruleId : String) (made : Report) :
    pass.withoutEdits.report ruleId made =
      (pass.report ruleId made).map fun outcome => (outcome.1.withoutEdits, outcome.2) := by
  have fixing_eq : pass.withoutEdits.fixing = pass.fixing := rfl
  simp only [report, accept_withoutEdits, fixing_eq, bind, Except.bind, pure, Except.pure]
  cases renderTemplate made.template made.arguments with
  | error error => rfl
  | ok message =>
      dsimp only
      rcases pass.accept ⟨ruleId ++ "." ++ made.shortCode, made.index, ""⟩ message made.severity
        made.fixable with ⟨accepted, _ | number⟩
      · rfl
      · cases made.fixable && pass.fixing <;> rfl

/-- What an event does while a changeset stays open: an edit only adds to the changeset, and nothing
else depends on its edits. -/
theorem next_of_staged (stays : event.staysOpen = true)
    (staged : pass.ledger.staged.isSome = true) :
    (pass.next event).ledger.staged.isSome = true ∧
      (pass.next event).ledger.rollback.clearOffer = pass.ledger.rollback.clearOffer ∧
      (pass.next event).withoutEdits =
        if event.isEdit then pass.withoutEdits else pass.withoutEdits.next event := by
  cases event with
  | report ruleId made =>
      simp only [next, report_withoutEdits, PassEvent.isEdit]
      cases reported : pass.report ruleId made with
      | error refusal => exact ⟨staged, rfl, rfl⟩
      | ok outcome =>
          rcases outcome with ⟨after, fixNow⟩
          refine ⟨?_, ?_, rfl⟩
          · rcases pass.report_cases reported with ⟨message, ⟨-, rfl⟩ | ⟨-, -, rfl⟩⟩
            · rwa [ledger_accept]
            · simpa [Ledger.offer] using staged
          · rcases pass.report_cases reported with ⟨message, ⟨-, rfl⟩ | ⟨-, -, rfl⟩⟩
            · rw [ledger_accept]
            · simp [Ledger.offer, Ledger.clearOffer, Ledger.rollback]
  | begin =>
      have refused : pass.ledger.begin = .error .alreadyOpen := if_pos staged
      simp only [next, refused, PassEvent.isEdit]
      exact ⟨staged, trivial, rfl⟩
  | edit place index text =>
      simp only [next, PassEvent.isEdit]
      cases edited : pass.ledger.edit place index text with
      | error refusal => exact ⟨staged, rfl, rfl⟩
      | ok commitment =>
          rcases (pass.ledger.eq_of_edit edited).2 with ⟨edits, -, rfl⟩ | ⟨closed, rfl⟩
          · exact ⟨by simp, rfl, rfl⟩
          · rw [closed] at staged
            cases staged
  | _ => cases stays

theorem replay_of_staged (pass : Pass) {actions : List PassEvent}
    (stay : ∀ action ∈ actions, action.staysOpen = true)
    (staged : pass.ledger.staged.isSome = true) :
    (pass.replay actions).ledger.rollback.clearOffer = pass.ledger.rollback.clearOffer ∧
      (pass.replay actions).withoutEdits =
        pass.withoutEdits.replay (actions.filter fun action => !action.isEdit) := by
  induction actions generalizing pass with
  | nil => exact ⟨rfl, rfl⟩
  | cons action rest ih =>
      rcases next_of_staged (stay action List.mem_cons_self) staged with ⟨still, cleared, without⟩
      have later := fun other member => stay other (List.mem_cons_of_mem _ member)
      rcases ih (pass.next action) later still with ⟨clearedRest, withoutRest⟩
      refine ⟨clearedRest.trans cleared, withoutRest.trans ?_⟩
      rw [without, List.filter_cons]
      cases edits : action.isEdit with
      | true => rfl
      | false => rfl

/-- A pass with a changeset opened, which is bound to what was on offer. -/
def opened (pass : Pass) : Pass :=
  { pass with ledger := { pass.ledger with
      staged := some []
      bound := pass.ledger.offered
      offered := none } }

theorem next_begin (closed : pass.ledger.staged = none) : pass.next .begin = pass.opened := by
  have began : pass.ledger.begin = .ok pass.opened.ledger :=
    if_neg (by simp [Ledger.inChangeset, closed])
  simp only [next, began]
  rfl

theorem cleared_opened (closed : pass.ledger.staged = none) (unbound : pass.ledger.bound = none) :
    pass.opened.ledger.rollback.clearOffer = pass.ledger.clearOffer := by
  simp only [opened, Ledger.rollback, Ledger.clearOffer]
  rw [← closed, ← unbound]

theorem ledger_next_leave (pass : Pass) (failure : Option RuleFailure) :
    (pass.next (.leave failure)).ledger = pass.ledger.rollback.clearOffer := by
  cases failure with
  | none => rfl
  | some failure => exact ledger_accept _ _ _ _ _

/-- When a call is left the edits of its open changeset are gone. -/
theorem next_leave_withoutEdits (pass : Pass) (failure : Option RuleFailure) :
    pass.withoutEdits.next (.leave failure) = pass.next (.leave failure) := by
  cases failure <;> rfl

/-- What the log of a pass says about fixes. -/
structure Binds (start : Pass) (log : List PassEvent) : Prop where
  /-- A call is entered with no changeset open and nothing on offer. -/
  settled (before after : List PassEvent) (call : RuleCall) :
    log = before ++ .enter call :: after →
      (start.replay before).ledger.staged = none ∧ (start.replay before).ledger.offered = none ∧
        (start.replay before).ledger.bound = none
  /-- An event that changes a report is an operation of a call that was entered before the report
  was made. -/
  changes (before after : List PassEvent) (event : PassEvent) (number : Nat)
    (report : Diagnostic) :
    log = before ++ event :: after → (start.replay before).reports[number]? = some report →
      (start.replay (before ++ [event])).reports[number]? ≠ some report →
        ∃ earlier call actions, before = earlier ++ .enter call :: actions ∧
          (∀ action ∈ actions ++ [event], action.isAction = true) ∧
          (start.replay earlier).reports.size ≤ number
  /-- Nothing is offered twice. -/
  offers : (start.offeredIn log).Nodup
  /-- The list of fixed reports has those in state fixed, once each. -/
  fixed_iff (before after : List PassEvent) :
    log = before ++ after → (start.replay before).ledger.fixed.Nodup ∧
      ∀ number, number ∈ (start.replay before).ledger.fixed ↔
        (start.replay before).reports[number]?.map Diagnostic.fixState = some .fixed
  /-- A fixed report never changes again. -/
  stays (before middle after : List PassEvent) (number : Nat) (report : Diagnostic) :
    log = before ++ middle ++ after → (start.replay before).reports[number]? = some report →
      report.fixState = .fixed → (start.replay (before ++ middle)).reports[number]? = some report
  /-- A changeset that is open when its call is left leaves no trace: the ledger is the one before
  it was opened, but for the offer, and the pass ends as if its edits had not been made. -/
  discards (before after : List PassEvent) (failure : Option RuleFailure) (edits : List Edit) :
    log = before ++ .leave failure :: after → (start.replay before).ledger.staged = some edits →
      ∃ earlier actions, before = earlier ++ .begin :: actions ∧
        (∀ action ∈ actions, action.staysOpen = true) ∧
        (start.replay (before ++ [.leave failure])).ledger =
          (start.replay earlier).ledger.clearOffer ∧
        (start.replay (before ++ [.leave failure])).contents = (start.replay earlier).contents ∧
        start.replay log = start.replay (earlier ++ .begin ::
          actions.filter (fun action => !action.isEdit) ++ .leave failure :: after)

namespace Binding

theorem binds_settled (binding : pass.Binding none) {before after : List PassEvent}
    {call : RuleCall}
    (ordered : PassEvent.orderly false (before ++ .enter call :: after) = true) :
    (pass.replay before).ledger.staged = none ∧ (pass.replay before).ledger.offered = none ∧
      (pass.replay before).ledger.bound = none := by
  rcases binding.replay_cases ordered with ⟨between, -⟩ | ⟨rest, -⟩
  · exact between.settled
  · cases rest

theorem binds_changes (binding : pass.Binding none) {before after : List PassEvent}
    (ordered : PassEvent.orderly false (before ++ event :: after) = true) {number : Nat}
    {report : Diagnostic} (present : (pass.replay before).reports[number]? = some report)
    (changed : (pass.replay (before ++ [event])).reports[number]? ≠ some report) :
    ∃ earlier call actions, before = earlier ++ .enter call :: actions ∧
      (∀ action ∈ actions ++ [event], action.isAction = true) ∧
      (pass.replay earlier).reports.size ≤ number := by
  rw [replay_append] at changed
  rcases (effect_next _ event).of_changed present changed with ⟨acts, pending, -⟩
  rcases binding.replay_cases ordered with
    ⟨between, -⟩ | ⟨-, earlier, call, actions, before_eq, allAct, reached⟩
  · rcases between.pending number pending with ⟨_, ⟨⟩, -⟩
  · rcases reached.pending number pending with ⟨_, ⟨⟩, later, -⟩
    refine ⟨earlier, call, actions, before_eq, ?_, later⟩
    intro action member
    rcases List.mem_append.mp member with among | last
    · exact allAct action among
    · rw [List.mem_singleton.mp last]
      exact acts

theorem binds_discards (binding : pass.Binding none) {before after : List PassEvent}
    {failure : Option RuleFailure} {edits : List Edit}
    (ordered : PassEvent.orderly false (before ++ .leave failure :: after) = true)
    (staged : (pass.replay before).ledger.staged = some edits) :
    ∃ earlier actions, before = earlier ++ .begin :: actions ∧
      (∀ action ∈ actions, action.staysOpen = true) ∧
      (pass.replay (before ++ [.leave failure])).ledger = (pass.replay earlier).ledger.clearOffer ∧
      (pass.replay (before ++ [.leave failure])).contents = (pass.replay earlier).contents ∧
      pass.replay (before ++ .leave failure :: after) = pass.replay (earlier ++ .begin ::
        actions.filter (fun action => !action.isEdit) ++ .leave failure :: after) := by
  rcases binding.exists_begin ordered (by rw [staged]; rfl) with
    ⟨earlier, actions, rfl, closed, stay⟩
  have shorter : PassEvent.orderly false
      (earlier ++ (.begin :: actions ++ .leave failure :: after)) = true := by
    simpa using ordered
  rcases binding.exists_replay shorter with ⟨entry, reached⟩
  have unbound := reached.unbound closed
  rcases replay_of_staged (pass.replay earlier).opened stay rfl with ⟨cleared, without⟩
  have before_eq : pass.replay (earlier ++ .begin :: actions) =
      (pass.replay earlier).opened.replay actions := by
    rw [replay_append, replay_cons, next_begin closed]
  have ledger_eq : (pass.replay (earlier ++ .begin :: actions ++ [.leave failure])).ledger =
      (pass.replay earlier).ledger.clearOffer := by
    rw [replay_append, before_eq, replay_cons, replay_nil, ledger_next_leave, cleared,
      cleared_opened closed unbound]
  refine ⟨earlier, actions, rfl, stay, ledger_eq, ?_, ?_⟩
  · rw [contents, ledger_eq, (pass.steps_replay _).stream_eq, contents,
      (pass.steps_replay earlier).stream_eq]
    rfl
  · rw [replay_append, replay_cons, before_eq, ← next_leave_withoutEdits, without]
    simp only [replay_append, replay_cons, next_begin closed]
    rfl

end Binding

/-- The log of calls that are entered and left one after the other binds fixes to reports. -/
theorem Binding.binds (binding : pass.Binding none) {log : List PassEvent}
    (ordered : PassEvent.orderly false log = true) : pass.Binds log where
  settled before after call log_eq := binding.binds_settled (log_eq ▸ ordered)
  changes before after event number report log_eq present changed :=
    binding.binds_changes (log_eq ▸ ordered) present changed
  offers := (pass.offeredIn_fresh log).1
  fixed_iff before after log_eq := by
    rcases binding.exists_replay (log_eq ▸ ordered) with ⟨entry, reached⟩
    exact ⟨reached.nodup, reached.fixed_iff⟩
  stays before middle after number report log_eq present fixed :=
    binding.replay_of_fixed (log_eq ▸ ordered) present fixed
  discards before after failure edits log_eq staged := by
    subst log_eq
    exact binding.binds_discards ordered staged

end Pass

namespace Dispatcher

/-- The log of a pass leads to the pass with its calls and failures, and it binds fixes to reports,
whatever the rules do. -/
theorem fixes_bound_to_reports (dispatcher : Dispatcher) (stream : TokenStream) (fixing : Bool) :
    let log := dispatcher.events stream fixing
    (PassTrace.mk (.start stream fixing) #[] #[]).replay log =
        (dispatcher.dispatch stream fixing).2 ∧
      (Pass.start stream fixing).replay log = (dispatcher.dispatch stream fixing).2.pass ∧
      (Pass.start stream fixing).Binds log := by
  intro log
  have trace_eq := dispatcher.replay_events stream fixing
  refine ⟨trace_eq, ?_, ?_⟩
  · rw [← trace_eq, PassTrace.pass_replay]
  · exact (Pass.Binding.start stream fixing).binds (dispatcher.orderly_events stream fixing)

end Dispatcher

end TokenLint
