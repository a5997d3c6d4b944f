import TokenLint.Proofs.Rule.KeyLiteral
import TokenLint.Proofs.Run.FixedReports
import TokenLint.Proofs.Run.Lint
import TokenLint.Proofs.Run.LoopState
import TokenLint.Proofs.Run.Replies

/-!
# When built-in rules fail

The failures of a pass of built-in rules without options are known from its stream alone: the rule
that compares the keys of array literals fails at each literal that holds a key too long to be read,
and no other call fails, whether the pass fixes or not. A pass reports an error of the program
exactly if a call has failed in it.
-/

namespace TokenLint

/-- The failures of a built-in rule on a token. -/
def Rule.failuresOn (rule : Rule) (stream : TokenStream) (token : Token) : List RuleFailure :=
  if rule.id = duplicateKey.id ∧ rule.interest.contains token.kind then
    ((stream.unreadKey? token.index).map fun digits =>
      ⟨rule.id, token.index, .numeral digits⟩).toList
  else []

theorem Rule.eq_duplicateKey {rule : Rule} (builtin : rule ∈ Rule.builtin)
    (same : rule.id = duplicateKey.id) : rule = duplicateKey := by
  have distinct : (Rule.builtin.map Rule.id).Nodup := by decide
  exact List.inj_on_of_nodup_map distinct builtin (by simp [Rule.builtin]) same

theorem Rule.failuresOn_ne_nil_iff {rule : Rule} (builtin : rule ∈ Rule.builtin)
    {stream : TokenStream} {token : Token} :
    rule.failuresOn stream token ≠ [] ↔
      rule = duplicateKey ∧ (token.kind = .kwArray ∨ token.kind = .openShortArray) ∧
        stream.HoldsLongKey token.index := by
  rw [← TokenStream.isSome_unreadKey?_iff]
  by_cases compares : rule.id = duplicateKey.id
  · rw [Rule.eq_duplicateKey builtin compares]
    have interested : (duplicateKey.interest.contains token.kind = true) ↔
        token.kind = .kwArray ∨ token.kind = .openShortArray := by simp [duplicateKey]
    by_cases kind : token.kind = .kwArray ∨ token.kind = .openShortArray
    · simp only [failuresOn, interested, kind, and_self, if_true]
      cases stream.unreadKey? token.index <;> simp
    · simp only [failuresOn, interested, kind, and_false, if_false]
      simp
  · have differs : rule ≠ duplicateKey := fun same => compares (congrArg Rule.id same)
    simp [failuresOn, compares, differs]

/-- A built-in rule in a pass, without options. The rule that compares keys never asks to skip
tokens. -/
structure RuleSlot.Plain (slot : RuleSlot) : Prop where
  builtin : slot.rule ∈ Rule.builtin
  options_eq : slot.options = []
  resume_eq : slot.rule.id = Rule.duplicateKey.id → slot.resume = 0

section Calls

variable {stream : TokenStream} {token : Token}

namespace RuleSlot.Plain

variable {slot : RuleSlot}

/-- How a call ends. -/
theorem ends (plain : slot.Plain) (stream : TokenStream) (token : Token) :
    ∃ result, (slot.rule.process stream token.index slot.options).Ends slot.rule.id result ∧
      (slot.rule.id = Rule.duplicateKey.id → result =
        match stream.unreadKey? token.index with
        | some digits => .error (.numeral digits)
        | none => .ok none) ∧
      (slot.rule.id ≠ Rule.duplicateKey.id → ∃ answer, result = .ok answer) := by
  rw [plain.options_eq]
  by_cases compares : slot.rule.id = Rule.duplicateKey.id
  · rw [Rule.eq_duplicateKey plain.builtin compares]
    exact ⟨_, Rule.ends_duplicateKey [], fun _ => rfl, fun differs => absurd rfl differs⟩
  · rcases Rule.answers_of_mem_builtin plain.builtin compares token.index with ⟨answer, ends⟩
    exact ⟨_, ends, fun same => absurd same compares, fun _ => ⟨answer, rfl⟩⟩

theorem visit {trace : PassTrace} (plain : slot.Plain) (bounded : stream.Bounded)
    (inside : token.index < stream.size) (wanted : slot.wants token)
    (keeps : trace.pass.Keeps stream fun _ => True) :
    (slot.visit token.index trace).1.Plain ∧
      (slot.visit token.index trace).2.pass.Keeps stream (fun _ => True) ∧
      (slot.visit token.index trace).2.failures.toList =
        trace.failures.toList ++ slot.rule.failuresOn stream token := by
  have proposes := Rule.proposes_of_mem_builtin plain.builtin bounded inside slot.options
  have left := (proposes.run_keeps (fun _ _ _ _ _ _ => trivial) (fun _ covers => covers)
    slot.rule.id slot.memory keeps).betweenCalls
  have interested := (Bool.and_eq_true_iff.mp wanted).1
  rcases plain.ends stream token with ⟨result, ends, compared, answered⟩
  have called := proposes.result_run (fun _ covers => covers) ends keeps slot.memory
  simp only [RuleSlot.visit, keeps.stream_eq, called, Rule.failuresOn, interested, and_true]
  by_cases compares : slot.rule.id = Rule.duplicateKey.id
  · have still : slot.resume = 0 := plain.resume_eq compares
    rw [compared compares]
    cases stream.unreadKey? token.index with
    | none => exact ⟨⟨plain.builtin, plain.options_eq, fun _ => still⟩, left, by simp⟩
    | some digits =>
        exact ⟨⟨plain.builtin, plain.options_eq, fun _ => still⟩, left.accept _ _ _ _,
          by simp [compares]⟩
  · rcases answered compares with ⟨answer, rfl⟩
    exact ⟨⟨plain.builtin, plain.options_eq, fun same => absurd same compares⟩, left,
      by simp [compares]⟩

/-- A call that is not made would not fail. -/
theorem failuresOn_eq_nil (plain : slot.Plain) (unwanted : slot.wants token = false) :
    slot.rule.failuresOn stream token = [] := by
  refine if_neg ?_
  rintro ⟨compares, interested⟩
  rw [RuleSlot.wants, interested, plain.resume_eq compares, Bool.true_and] at unwanted
  exact absurd (Int.natCast_nonneg token.index) (of_decide_eq_false unwanted)

end RuleSlot.Plain

theorem plain_visitAll {slots : List RuleSlot} {trace : PassTrace}
    (plain : ∀ slot ∈ slots, slot.Plain) (bounded : stream.Bounded)
    (inside : token.index < stream.size) (keeps : trace.pass.Keeps stream fun _ => True) :
    (∀ slot ∈ (visitAll token trace slots).1, slot.Plain) ∧
      (visitAll token trace slots).2.pass.Keeps stream (fun _ => True) ∧
      (visitAll token trace slots).2.failures.toList =
        trace.failures.toList ++ slots.flatMap fun slot => slot.rule.failuresOn stream token := by
  induction slots generalizing trace with
  | nil => exact ⟨plain, keeps, by simp [visitAll]⟩
  | cons slot rest ih =>
      rcases List.forall_mem_cons.mp plain with ⟨slotPlain, restPlain⟩
      cases wanted : slot.wants token with
      | true =>
          rcases slotPlain.visit bounded inside wanted keeps with ⟨visited, keeps, failures_eq⟩
          rcases ih restPlain keeps with ⟨others, keeps, rest_eq⟩
          simp only [visitAll, wanted, if_true]
          refine ⟨List.forall_mem_cons.mpr ⟨visited, others⟩, keeps, ?_⟩
          rw [rest_eq, failures_eq, List.flatMap_cons, List.append_assoc]
      | false =>
          rcases ih restPlain keeps with ⟨others, keeps, rest_eq⟩
          simp only [visitAll, wanted, Bool.false_eq_true, if_false]
          refine ⟨List.forall_mem_cons.mpr ⟨slotPlain, others⟩, keeps, ?_⟩
          rw [rest_eq, List.flatMap_cons, slotPlain.failuresOn_eq_nil wanted, List.nil_append]

theorem failures_foldl_visitAll {tokens : List Token} {slots : List RuleSlot} {trace : PassTrace}
    (plain : ∀ slot ∈ slots, slot.Plain) (bounded : stream.Bounded)
    (inside : ∀ token ∈ tokens, token.index < stream.size)
    (keeps : trace.pass.Keeps stream fun _ => True) :
    (tokens.foldl (fun state token => visitAll token state.2 state.1)
        (slots, trace)).2.failures.toList =
      trace.failures.toList ++ tokens.flatMap fun token =>
        (slots.map fun slot => slot.rule).flatMap fun rule => rule.failuresOn stream token := by
  induction tokens generalizing slots trace with
  | nil => simp
  | cons token rest ih =>
      rcases List.forall_mem_cons.mp inside with ⟨here, later⟩
      rcases plain_visitAll plain bounded here keeps with ⟨visited, keeps, failures_eq⟩
      rw [List.foldl_cons, ih visited later keeps, map_rule_visitAll, failures_eq,
        List.flatMap_cons, List.flatMap_map, List.append_assoc]

end Calls

namespace Dispatcher

variable {rules : List Rule} {options : Value} {dispatcher : Dispatcher} {stream : TokenStream}

theorem plain_slots (builtin : ∀ rule ∈ rules, rule ∈ Rule.builtin)
    (bare : options.isTrue = false) (made : ofRules rules options = .ok dispatcher) :
    ∀ slot ∈ dispatcher.slots, slot.Plain := by
  have readable : ∀ id, optionsFor options id = .ok [] := fun id => by
    rw [optionsFor, bare, if_neg Bool.false_ne_true]
  rw [ofRules_of_optionsFor (nodup_of_ofRules made) readable] at made
  cases made
  intro slot member
  rcases List.mem_map.mp member with ⟨context, among, rfl⟩
  rcases List.mem_map.mp among with ⟨rule, listed, rfl⟩
  exact ⟨builtin rule (List.mem_mergeSort.mp listed), rfl, fun _ => rfl⟩

/-- Without options, the failures of built-in rules are known from the stream, and do not depend on
whether the pass fixes. -/
theorem failures_dispatch (plain : ∀ slot ∈ dispatcher.slots, slot.Plain)
    (bounded : stream.Bounded) (fixing : Bool) :
    (dispatcher.dispatch stream fixing).2.failures.toList =
      stream.tokens.toList.flatMap fun token =>
        dispatcher.rules.flatMap fun rule => rule.failuresOn stream token := by
  have started : (Pass.start stream fixing).Keeps stream fun _ => True :=
    ⟨rfl, by simp [Pass.start, Ledger.size, Ledger.empty], rfl, trivial⟩
  have failures_eq : (stream.tokens.toList.foldl (fun state token => visitAll token state.2 state.1)
      (dispatcher.slots, ⟨.start stream fixing, #[], #[]⟩)).2.failures.toList = _ :=
    failures_foldl_visitAll plain bounded (fun _ member => bounded.index_lt member) started
  rw [slots, List.map_map] at failures_eq
  exact failures_eq

/-- A pass of built-in rules without options has a failure exactly if keys of array literals are
compared and one of them cannot be read. -/
theorem failures_dispatch_ne_nil_iff (builtin : ∀ rule ∈ rules, rule ∈ Rule.builtin)
    (bare : options.isTrue = false) (made : ofRules rules options = .ok dispatcher)
    (bounded : stream.Bounded) (fixing : Bool) :
    (dispatcher.dispatch stream fixing).2.failures.toList ≠ [] ↔
      Rule.duplicateKey ∈ rules ∧ stream.LacksKey := by
  have active : ∀ rule, rule ∈ dispatcher.rules ↔ rule ∈ rules := fun rule => by
    rw [rules_of_ofRules made]
    exact List.mem_mergeSort
  rw [failures_dispatch (plain_slots builtin bare made) bounded, ne_eq, List.flatMap_eq_nil_iff]
  simp only [List.flatMap_eq_nil_iff, not_forall]
  constructor
  · rintro ⟨token, member, rule, among, fails⟩
    have listed := (active rule).mp among
    rcases (Rule.failuresOn_ne_nil_iff (builtin rule listed)).mp fails with ⟨rfl, kind, holds⟩
    exact ⟨listed, token, member, kind, holds⟩
  · rintro ⟨listed, token, member, kind, holds⟩
    refine ⟨token, member, _, (active _).mpr listed, ?_⟩
    exact (Rule.failuresOn_ne_nil_iff (builtin _ listed)).mpr ⟨rfl, kind, holds⟩

end Dispatcher

section Told

/-- The codes of the reports of a pass, in order. -/
def Pass.codes (pass : Pass) : List String := pass.reports.toList.map Diagnostic.code

/-- Whether each report of a pass has been noted, and nothing else. -/
def Pass.Noted (pass : Pass) : Prop := pass.codes = (pass.seen.map ReportKey.code).reverse

variable {pass after : Pass}

theorem Pass.codes_take (commitment : Commitment) : (pass.take commitment).codes = pass.codes := by
  have kept : ∀ (reports : Array Diagnostic) (number : Nat) (mark : Diagnostic → Diagnostic),
      (∀ diagnostic, (mark diagnostic).code = diagnostic.code) →
        (reports.modify number mark).toList.map Diagnostic.code =
          reports.toList.map Diagnostic.code := by
    intro reports number mark same
    rw [Array.toList_modify]
    refine List.ext_getElem? fun place => ?_
    simp only [List.getElem?_map, List.getElem?_modify]
    cases reports.toList[place]? with
    | none => rfl
    | some diagnostic =>
        by_cases here : number = place
        · simp [here, same]
        · simp [here]
  simp only [codes, Pass.take, Pass.settle]
  cases commitment.verdict with
  | nothing => rfl
  | fixed report => exact kept _ _ _ fun _ => rfl
  | conflicted report conflict => exact kept _ _ _ fun _ => rfl

theorem Pass.Step.noted (step : Step pass after) (noted : pass.Noted) : after.Noted := by
  cases step with
  | accept key message severity fixable =>
      simp only [Pass.accept]
      split
      · exact noted
      · simp only [Noted, codes] at noted ⊢
        simp [noted]
  | finish closed => rw [Noted, codes_take, seen_take]; exact noted
  | edit edited => rw [Noted, codes_take, seen_take]; exact noted
  | _ => exact noted

theorem Pass.Steps.noted (steps : Steps pass after) (noted : pass.Noted) : after.Noted := by
  induction steps with
  | refl => exact noted
  | tail _ step ih => exact step.noted ih

/-- What a rule's program adds to the codes of a pass begins with the identifier of the rule. -/
theorem RuleProgram.code_of_mem_seen_run {α : Type} {ruleId : String} {program : RuleProgram α}
    {state : RuleState} {key : ReportKey}
    (seen : key ∈ (program.run ruleId state).state.pass.seen) :
    key ∈ state.pass.seen ∨ ∃ shortCode, key.code = ruleId ++ "." ++ shortCode := by
  -- A step that changes only the ledger or the memory leaves what was seen; its state differs from
  -- the one of the statement all the same, so the induction hypothesis is taken at that state
  -- first.
  induction program generalizing state with
  | done result => exact .inl seen
  | fail fault => exact .inl seen
  | report made next ih =>
      simp only [run] at seen
      split at seen
      · rename_i pass fixNow reported
        rcases state.pass.report_cases reported with ⟨message, accepted⟩
        have added : ∀ other ∈ pass.seen, other ∈ state.pass.seen ∨
            ∃ shortCode, other.code = ruleId ++ "." ++ shortCode := by
          intro other member
          have among : other ∈ (state.pass.accept ⟨ruleId ++ "." ++ made.shortCode, made.index, ""⟩
              message made.severity made.fixable).1.seen := by
            rcases accepted with ⟨-, rfl⟩ | ⟨-, -, rfl⟩
            · exact member
            · exact member
          simp only [Pass.accept] at among
          split at among
          · exact .inl among
          · rcases List.mem_cons.mp among with rfl | among
            · exact .inr ⟨made.shortCode, rfl⟩
            · exact .inl among
        rcases ih _ seen with before | own
        · exact added key before
        · exact .inr own
      · exact .inl seen
  | begin next ih =>
      simp only [run] at seen
      split at seen
      · have later := ih seen
        exact later
      · exact .inl seen
  | finish next ih =>
      simp only [run] at seen
      split at seen
      · have later := ih _ seen
        rw [Pass.seen_take] at later
        exact later
      · exact .inl seen
  | rollback next ih =>
      rw [run] at seen
      have later := ih seen
      exact later
  | edit place index text next ih =>
      simp only [run] at seen
      split at seen
      · have later := ih _ seen
        rw [Pass.seen_take] at later
        exact later
      · exact .inl seen
  | inspect next ih => exact ih _ seen
  | consult next ih => exact ih _ seen
  | remember memory next ih =>
      rw [run] at seen
      have later := ih seen
      exact later

/-- Whether a pass has noted an error of the program exactly if a call has failed. -/
def PassTrace.Tells (trace : PassTrace) : Prop :=
  Diagnostic.ruleErrorCode ∈ trace.pass.seen.map ReportKey.code ↔ trace.failures.toList ≠ []

theorem Pass.mem_seen_accept (pass : Pass) (key : ReportKey) (message : String)
    (severity : Severity) (fixable : Bool) :
    key ∈ (pass.accept key message severity fixable).1.seen := by
  simp only [accept]
  split
  · rename_i known
    exact List.elem_iff.mp known
  · exact List.mem_cons_self ..

theorem RuleSlot.tells_visit {slot : RuleSlot} (wellNamed : slot.rule.WellNamed) (index : Nat)
    {trace : PassTrace} (tells : trace.Tells) : (slot.visit index trace).2.Tells := by
  have called := RuleProgram.steps_run slot.rule.id
    (slot.rule.process trace.pass.stream index slot.options) ⟨trace.pass, slot.memory⟩
  have noted_iff : Diagnostic.ruleErrorCode ∈ ((slot.rule.process trace.pass.stream index
      slot.options).run slot.rule.id ⟨trace.pass, slot.memory⟩).state.pass.betweenCalls.seen.map
        ReportKey.code ↔ Diagnostic.ruleErrorCode ∈ trace.pass.seen.map ReportKey.code := by
    constructor
    · intro noted
      rcases List.mem_map.mp noted with ⟨key, seen, code_eq⟩
      rcases RuleProgram.code_of_mem_seen_run seen with before | ⟨shortCode, own⟩
      · exact List.mem_map.mpr ⟨key, before, code_eq⟩
      · exact absurd (own.symm.trans code_eq) (Remark.code_ne_ruleErrorCode wellNamed shortCode)
    · intro noted
      rcases List.mem_map.mp noted with ⟨key, seen, code_eq⟩
      exact List.mem_map.mpr ⟨key, called.seen_subset seen, code_eq⟩
  simp only [visit]
  split
  · exact noted_iff.trans tells
  · rename_i fault _
    refine iff_of_true ?_ (by simp)
    exact List.mem_map.mpr ⟨_, Pass.mem_seen_accept _ _ _ _ _, rfl⟩

theorem tells_visitAll {token : Token} {slots : List RuleSlot} {trace : PassTrace}
    (wellNamed : ∀ slot ∈ slots, slot.rule.WellNamed) (tells : trace.Tells) :
    (visitAll token trace slots).2.Tells := by
  induction slots generalizing trace with
  | nil => exact tells
  | cons slot rest ih =>
      rcases List.forall_mem_cons.mp wellNamed with ⟨slotNamed, restNamed⟩
      by_cases wanted : slot.wants token
      · simp only [visitAll, wanted, if_true]
        exact ih restNamed (RuleSlot.tells_visit slotNamed token.index tells)
      · simp only [visitAll, wanted, Bool.false_eq_true, if_false]
        exact ih restNamed tells

/-- A pass reports an error of the program exactly if a call has failed. -/
theorem Dispatcher.ruleErrorCode_mem_codes_iff {dispatcher : Dispatcher}
    (wellNamed : ∀ rule ∈ dispatcher.rules, rule.WellNamed) (stream : TokenStream)
    (fixing : Bool) :
    Diagnostic.ruleErrorCode ∈ (dispatcher.dispatch stream fixing).2.pass.codes ↔
      (dispatcher.dispatch stream fixing).2.failures.toList ≠ [] := by
  have noted : (dispatcher.dispatch stream fixing).2.pass.Noted :=
    (dispatcher.steps_dispatch stream fixing).noted rfl
  have walked := dispatcher.invariant_dispatch stream fixing
    (motive := fun slots trace =>
      (∀ slot ∈ slots, slot.rule ∈ dispatcher.rules) ∧ trace.Tells)
    ⟨fun _ member => rule_mem_of_mem_slots member, by simp [PassTrace.Tells, Pass.start]⟩
    (by
      rintro token - slots trace ⟨active, tells⟩
      refine ⟨fun slot member => ?_, tells_visitAll (fun slot member =>
        wellNamed _ (active slot member)) tells⟩
      rcases exists_slot_of_mem_visitAll member with ⟨before, among, rule_eq, -⟩
      exact rule_eq ▸ active before among)
  rcases walked with ⟨-, -, -, tells⟩
  rw [noted, List.mem_reverse]
  exact tells

end Told

section Passes

variable {dispatcher : Dispatcher}

/-- Whether a record is that of a pass of a dispatcher over a source that can be read. -/
def PassRecord.IsPassOf (record : PassRecord) (dispatcher : Dispatcher) : Prop :=
  ∃ stream fixing, tokenize record.source = .ok stream ∧
    record.trace = (dispatcher.dispatch stream fixing).2

theorem History.isPassOf {source : String} {records : List PassRecord}
    (history : History dispatcher source records) :
    ∀ record ∈ records, record.IsPassOf dispatcher := by
  induction history with
  | start => simp
  | pass fixing _ read ih =>
      intro record member
      rcases List.mem_append.mp member with before | last
      · exact ih record before
      · rw [List.mem_singleton.mp last]
        exact ⟨_, fixing, read, rfl⟩

namespace LoopState

/-- Whether the fix loop has only made passes of a dispatcher, and will make the next one. -/
structure Follows (dispatcher : Dispatcher) (state : LoopState) : Prop where
  slots_eq : state.dispatcher.slots = dispatcher.slots
  made : ∀ record ∈ state.records, record.IsPassOf dispatcher
  ready : ∀ stream, state.phase = .dispatching stream → tokenize state.current = .ok stream

variable {settings : LintSettings} {state next : LoopState}

theorem Follows.step (follows : state.Follows dispatcher)
    (stepped : state.step settings = .ok next) : next.Follows dispatcher := by
  rcases follows with ⟨slots_eq, made, ready⟩
  rcases step_cases stepped with
    ⟨phase_eq, ⟨stream, read, rfl⟩ | ⟨error, -, ⟨-, rfl⟩ | ⟨-, rfl⟩⟩⟩ |
      ⟨stream, phase_eq, rfl⟩ | ⟨record, -, rfl⟩ | ⟨-, rfl⟩
  · refine ⟨slots_eq, made, fun other same => ?_⟩
    cases same
    exact read
  · exact ⟨slots_eq, made, fun _ same => nomatch same⟩
  · exact ⟨slots_eq, made, fun _ same => nomatch phase_eq.symm.trans same⟩
  · refine ⟨(Dispatcher.slots_dispatch _ _ _).trans slots_eq, fun record member => ?_, ?_⟩
    · rcases List.mem_append.mp member with before | last
      · exact made record before
      · rw [List.mem_singleton.mp last]
        exact ⟨stream, state.fixing, ready stream phase_eq,
          Dispatcher.trace_dispatch_congr _ _ slots_eq⟩
    · intro other same
      rcases @phase_dispatch_cases settings state stream with ⟨-, ended⟩ | ended
      · rw [ended] at same
        cases same
      · rw [ended] at same
        cases same
  · exact ⟨slots_eq, made, fun _ same => nomatch same⟩
  · exact ⟨slots_eq, made, ready⟩

theorem Follows.after (follows : state.Follows dispatcher) {count : Nat}
    (reached : state.after settings count = .ok next) : next.Follows dispatcher := by
  induction count generalizing state with
  | zero =>
      cases reached
      exact follows
  | succ count ih =>
      rcases after_succ reached with ⟨middle, stepped, rest⟩
      exact ih (follows.step stepped) rest

end LoopState

end Passes

/-- Whether the rule that compares keys is active and the source of a pass has a literal with a key
that cannot be read. -/
def PassRecord.LacksKey (record : PassRecord) (rules : List Rule) : Prop :=
  Rule.duplicateKey ∈ rules ∧ ∃ stream, tokenize record.source = .ok stream ∧ stream.LacksKey

namespace PassRecord

/-- Whether a call has failed in a pass. -/
def Failed (record : PassRecord) : Prop := record.trace.failures ≠ #[]

/-- Whether a pass reports an error of the program. -/
def ReportsError (record : PassRecord) : Prop :=
  ∃ diagnostic ∈ record.trace.pass.reports, diagnostic.code = Diagnostic.ruleErrorCode

theorem IsPassOf.failed_iff {record : PassRecord} {rules : List Rule} {options : Value}
    {dispatcher : Dispatcher} (isPass : record.IsPassOf dispatcher)
    (builtin : ∀ rule ∈ rules, rule ∈ Rule.builtin) (bare : options.isTrue = false)
    (made : Dispatcher.ofRules rules options = .ok dispatcher) :
    (record.Failed ↔ record.LacksKey rules) ∧ (record.ReportsError ↔ record.LacksKey rules) := by
  rcases isPass with ⟨stream, fixing, read, trace_eq⟩
  have bounded := TokenStream.bounded_of_tokenize read
  have failed_iff : record.Failed ↔ record.trace.failures.toList ≠ [] := by
    rw [Failed, ne_eq, ne_eq, Array.toList_eq_nil_iff]
  have lacks_iff : record.LacksKey rules ↔ Rule.duplicateKey ∈ rules ∧ stream.LacksKey := by
    simp only [LacksKey, read, Except.ok.injEq, exists_eq_left']
  have reports_iff : record.ReportsError ↔
      Diagnostic.ruleErrorCode ∈ record.trace.pass.codes := by
    simp [ReportsError, Pass.codes]
  have wellNamed : ∀ rule ∈ dispatcher.rules, rule.WellNamed := by
    intro rule member
    rw [Dispatcher.rules_of_ofRules made] at member
    exact Rule.wellNamed_of_mem_builtin (builtin rule (List.mem_mergeSort.mp member))
  have fails := Dispatcher.failures_dispatch_ne_nil_iff builtin bare made bounded fixing
  have told := Dispatcher.ruleErrorCode_mem_codes_iff wellNamed stream fixing
  rw [failed_iff, reports_iff, lacks_iff, trace_eq]
  exact ⟨fails, told.trans fails⟩

end PassRecord

namespace LintSettings

/-- Without options, a pass of built-in rules has a call that fails, and reports an error of the
program, exactly if the rule that compares keys is active and an array literal of its source has a
key that is a string of digits too long to be read. That is so of every pass that the fix loop
makes, whether its run comes to an end or not. -/
theorem failed_iff_lacksKey {settings : LintSettings}
    (builtin : ∀ rule ∈ settings.rules, rule ∈ Rule.builtin)
    (distinct : (settings.rules.map Rule.id).Nodup) (bare : settings.options.isTrue = false)
    (source : String) :
    (∀ count state,
      (LoopState.start (.ofOptions settings.rules fun _ => []) settings.fix source).after settings
        count = .ok state →
      ∀ record ∈ state.records, (record.Failed ↔ record.LacksKey settings.rules) ∧
        (record.ReportsError ↔ record.LacksKey settings.rules)) ∧
    ∀ path run, settings.lint path source = .ok run →
      ∀ record ∈ run.records, (record.Failed ↔ record.LacksKey settings.rules) ∧
        (record.ReportsError ↔ record.LacksKey settings.rules) := by
  have readable : ∀ id, Dispatcher.optionsFor settings.options id = .ok [] := fun id => by
    rw [Dispatcher.optionsFor, bare, if_neg Bool.false_ne_true]
  have made : Dispatcher.ofRules settings.rules settings.options =
      .ok (.ofOptions settings.rules fun _ => []) :=
    Dispatcher.ofRules_of_optionsFor distinct readable
  constructor
  · intro count state reached record member
    have follows : (LoopState.start (.ofOptions settings.rules fun _ => []) settings.fix
        source).Follows (.ofOptions settings.rules fun _ => []) := by
      refine ⟨rfl, fun _ among => ?_, fun _ same => ?_⟩
      · cases among
      · cases same
    exact ((follows.after reached).made record member).failed_iff builtin bare made
  · intro path run finished record member
    rcases lint_cases finished with
      ⟨dispatcher, dispatched, ⟨error, -, rfl⟩ | ⟨stream, passes, read, ended, rfl⟩⟩
    · cases member
    · exact ((sound_passes read ended).history.isPassOf record member).failed_iff builtin bare
        dispatched

/-- No call fails in the two passes that replace a function. -/
theorem failed_iff_lacksKey_replaceRandom :
    ∃ run, replaceRandom.lint "a" "<?php rand();" = .ok run ∧ run.records.length = 2 ∧
      ∀ record ∈ run.records, ¬record.Failed ∧ ¬record.ReportsError := by
  have outcome : (replaceRandom.lint "a" "<?php rand();").toOption.map
      (fun run => run.records.length) = some 2 := by decide +kernel
  rcases exists_lint_of_map_toOption outcome with ⟨run, finished, passes⟩
  have builtin : ∀ rule ∈ replaceRandom.rules, rule ∈ Rule.builtin := by
    simp [replaceRandom, Rule.builtin]
  have inactive : ∀ record : PassRecord, ¬record.LacksKey replaceRandom.rules := by
    rintro record ⟨active, -⟩
    have same : Rule.duplicateKey.id = Rule.olderRandom.id :=
      congrArg Rule.id (List.mem_singleton.mp active)
    exact absurd same (by decide)
  refine ⟨run, finished, passes, fun record member => ?_⟩
  have account := (failed_iff_lacksKey builtin (by decide) rfl "<?php rand();").2 "a" run finished
    record member
  exact ⟨fun failed => inactive record (account.1.mp failed),
    fun reports => inactive record (account.2.mp reports)⟩

/-- Settings that only compare the keys of array literals. -/
def compareKeys : LintSettings := ⟨[.duplicateKey], .null, false, 1⟩

/-- A check makes one pass over its source. -/
theorem exists_record_of_checking {settings : LintSettings} {dispatcher : Dispatcher}
    {source : String} {stream : TokenStream} (checking : settings.fix = false)
    (made : Dispatcher.ofRules settings.rules settings.options = .ok dispatcher)
    (read : tokenize source = .ok stream) (path : String) :
    ∃ run record, settings.lint path source = .ok run ∧ run.records = [record] ∧
      record.source = source ∧ record.IsPassOf dispatcher := by
  let progress : FixProgress := .start dispatcher source stream
  have ended : settings.passes progress =
      .ok (progress.finish (progress.pass false).2 true false none) := by
    rw [LintSettings.passes, checking, if_neg Bool.false_ne_true]
  exact ⟨_, (progress.pass false).2, lint_eq_of_passes made read ended, rfl, rfl, stream, false,
    read, rfl⟩

/-- A check of a literal with a key of more digits than can be read has a call that fails. -/
theorem exists_failed_keyLiteral {digits : List Char}
    (digital : ∀ digit ∈ digits, digit.isDigit = true) (proper : digits.head? ≠ some '0')
    (long : maxDecimalDigits < digits.length) (path : String) :
    ∃ run, compareKeys.lint path (keyLiteral digits) = .ok run ∧
      ∃ record ∈ run.records, record.Failed ∧ record.ReportsError := by
  have distinct : (compareKeys.rules.map Rule.id).Nodup := by decide
  have builtin : ∀ rule ∈ compareKeys.rules, rule ∈ Rule.builtin := by
    simp [compareKeys, Rule.builtin]
  have made := Dispatcher.ofRules_null distinct
  rcases exists_tokenize_keyLiteral digital with ⟨place, read⟩
  rcases exists_record_of_checking rfl made read path with
    ⟨run, record, finished, records_eq, source_eq, isPass⟩
  have lacksKey : record.LacksKey compareKeys.rules :=
    ⟨List.mem_singleton_self _, _, source_eq ▸ read, lacksKey_keyLexemes place digital proper long⟩
  have account := isPass.failed_iff builtin rfl made
  exact ⟨run, finished, record, by simp [records_eq], account.1.mpr lacksKey,
    account.2.mpr lacksKey⟩

/-- One digit more than can be read makes the rule fail. -/
theorem exists_failed_longKey :
    ∃ run, compareKeys.lint "a.php" (keyLiteral (List.replicate 4301 '1')) = .ok run ∧
      ∃ record ∈ run.records, record.Failed ∧ record.ReportsError := by
  refine exists_failed_keyLiteral ?_ ?_ ?_ "a.php"
  · intro digit member
    rw [List.eq_of_mem_replicate member]
    rfl
  · rw [List.head?_replicate]
    decide
  · rw [List.length_replicate]
    decide

end LintSettings

end TokenLint
