import TokenLint.Proofs.Run.Apart
import TokenLint.Proofs.Run.Batch
import TokenLint.Proofs.Run.Idle
import TokenLint.Proofs.Run.LoopResult

/-!
# Passes that fix all they report

Where at most one rule has something to say about each token, offers a batch of edits that fixes the
problem, and no two batches share a token, a fixing pass makes all of these batches and leaves
nothing to be done about its own reports. If the output of such passes can be read and is new each
time, a run ends with the first pass that the rules have nothing to say in.
-/

namespace TokenLint

open Ledger

/-- Whether a program reports a token and, if asked to, makes a batch of edits that fixes the
problem. -/
inductive RuleProgram.Mends (index : Nat) : RuleProgram (Option Int) → List Edit → Prop where
  | together {made : Report} {edits : List Edit} (about : made.index = index)
      (fixable : made.fixable = true) (renders : made.Renders) (nonempty : edits ≠ []) :
      Mends index (Rule.reportAndFix made edits) edits
  | alone {made : Report} {text : String} (about : made.index = index)
      (fixable : made.fixable = true) (renders : made.Renders) :
      Mends index (Rule.reportAndReplace made index text) [⟨.replace, index, text⟩]

/-- Whether a rule has nothing to say about a token, whatever its options. -/
def Rule.Quiet (rule : Rule) (stream : TokenStream) (token : Token) : Prop :=
  rule.interest.contains token.kind = true →
    ∀ options, rule.process stream token.index options = .done none

/-- Whether a rule reports a token and offers a batch of edits for it, whatever its options. -/
def Rule.Mends (rule : Rule) (stream : TokenStream) (token : Token) (edits : List Edit) : Prop :=
  rule.interest.contains token.kind = true ∧
    ∀ options, (rule.process stream token.index options).Mends token.index edits

/-- A fixing pass that reported some tokens, one report each, and made some edits that fix all that
was reported. -/
structure Pass.Mended (stream : TokenStream) (reported : List Nat) (edits : List Edit)
    (pass : Pass) : Prop where
  fixing : pass.fixing = true
  stream_eq : pass.stream = stream
  size_eq : pass.ledger.size = stream.size
  closed : pass.ledger.staged = none
  reports_eq : pass.reports.toList.map (fun diagnostic =>
    (diagnostic.tokenIndex, diagnostic.fixState)) =
      reported.map fun (index : Nat) => ((index : Int), FixState.fixed)
  placed : ∀ diagnostic ∈ pass.reports.toList,
    diagnostic.position = pass.positionOf diagnostic.tokenIndex
  fixed_eq : pass.ledger.fixed = List.range pass.reports.size
  seen : ∀ key ∈ pass.seen, ∃ index ∈ reported, key.index = (index : Int)
  conflicts_eq : pass.ledger.conflicts = []
  commitCount_eq : pass.ledger.commitCount = reported.length
  patch?_eq : ∀ index < stream.size,
    pass.ledger.patch? index = (editsAt edits index).foldl enter none

variable {stream : TokenStream} {reported : List Nat} {edits batch : List Edit} {pass : Pass}

theorem modify_push {α : Type} (items : Array α) (last : α) (change : α → α) :
    (items.push last).modify items.size change = items.push (change last) := by
  apply Array.ext_getElem?
  intro index
  simp only [Array.getElem?_modify, Array.getElem?_push]
  split <;> simp_all [eq_comm]

namespace Pass.Mended

theorem start (stream : TokenStream) : (Pass.start stream true).Mended stream [] [] where
  fixing := rfl
  stream_eq := rfl
  size_eq := Array.size_replicate
  closed := rfl
  reports_eq := rfl
  placed := by simp [Pass.start]
  fixed_eq := rfl
  seen := by simp [Pass.start]
  conflicts_eq := rfl
  commitCount_eq := rfl
  patch?_eq := fun index _ => patch?_of_patches_eq_replicate rfl index

theorem betweenCalls (mended : pass.Mended stream reported edits) :
    pass.betweenCalls.Mended stream reported edits :=
  ⟨mended.fixing, mended.stream_eq, mended.size_eq, rfl, mended.reports_eq, mended.placed,
    mended.fixed_eq, mended.seen, mended.conflicts_eq, mended.commitCount_eq, mended.patch?_eq⟩

/-- A report about a token that nothing was said about is accepted and offered for fixing. -/
theorem report_eq (mended : pass.Mended stream reported edits) {made : Report} {index : Nat}
    (about : made.index = index) (fixable : made.fixable = true) (renders : made.Renders)
    (new : index ∉ reported) (ruleId : String) :
    ∃ (diagnostic : Diagnostic) (key : ReportKey), diagnostic.tokenIndex = index ∧
      diagnostic.position = pass.positionOf diagnostic.tokenIndex ∧ key.index = index ∧
      pass.report ruleId made = .ok ({ pass with
        reports := pass.reports.push diagnostic
        seen := key :: pass.seen
        ledger := pass.ledger.offer ⟨pass.reports.size, key.code⟩ }, true) := by
  rcases renders with ⟨message, rendered⟩
  let key : ReportKey := ⟨ruleId ++ "." ++ made.shortCode, made.index, ""⟩
  have unknown : ¬pass.seen.contains key = true := by
    intro known
    rcases mended.seen key (List.contains_iff_mem.mp known) with ⟨earlier, among, same⟩
    have index_eq : earlier = index := by exact_mod_cast same.symm.trans about
    exact new (index_eq ▸ among)
  refine ⟨{
    code := key.code
    severity := made.severity
    message
    tokenIndex := key.index
    position := pass.positionOf key.index
    fixable := made.fixable
    fixState := .unfixed
    note := none }, key, about, rfl, about, ?_⟩
  simp only [report, rendered, bind, Except.bind, accept]
  rw [if_neg unknown]
  simp only [fixable, mended.fixing, Bool.and_self, if_true]
  rfl

section Batch

variable {ledger : Ledger} (patches_eq : ledger.patches = pass.ledger.patches)
  (apart : ∀ edit ∈ edits, ∀ other ∈ batch, edit.index ≠ other.index)

include patches_eq apart

/-- A batch clashes with nothing if it shares no token with the ones before it. -/
theorem clashing_eq_nil (mended : pass.Mended stream reported edits) :
    ledger.clashing batch = [] := by
  rw [clashing_eq_nil_iff]
  intro edit member inRange
  rw [Ledger.size, patches_eq] at inRange
  rw [isTouched, patch?, patches_eq, ← patch?, mended.patch?_eq _ (mended.size_eq ▸ inRange),
    editsAt_eq_nil_of_apart apart member]
  rfl

/-- Such a batch is added to what the ones before it did. -/
theorem patch?_commit (mended : pass.Mended stream reported edits) (offer : Option Offer)
    {place : Nat} (inside : place < stream.size) :
    (ledger.commit batch offer).ledger.patch? place =
      (editsAt (edits ++ batch) place).foldl enter none := by
  have within : place < ledger.size := by
    rw [Ledger.size, patches_eq, ← Ledger.size, mended.size_eq]
    exact inside
  rw [patch?_commit_of_clear _ within (mended.clashing_eq_nil patches_eq apart), patch?,
    patches_eq, ← patch?, mended.patch?_eq _ inside, editsAt_append, List.foldl_append]

end Batch

/-- A batch that shares no token with the ones before it is made, and fixes its report. -/
theorem commit (mended : pass.Mended stream reported edits) {diagnostic : Diagnostic}
    {key : ReportKey} {index : Nat} (about : diagnostic.tokenIndex = index)
    (here : diagnostic.position = pass.positionOf diagnostic.tokenIndex)
    (keyed : key.index = index) (offered ledger : Ledger)
    (patches_eq : ledger.patches = pass.ledger.patches) (closed : ledger.staged = none)
    (kept : ledger.fixed = pass.ledger.fixed ∧ ledger.conflicts = pass.ledger.conflicts ∧
      ledger.commitCount = pass.ledger.commitCount)
    (nonempty : batch ≠ [])
    (apart : ∀ edit ∈ edits, ∀ other ∈ batch, edit.index ≠ other.index) :
    (({ pass with
      reports := pass.reports.push diagnostic
      seen := key :: pass.seen
      ledger := offered } : Pass).take
        (ledger.commit batch (some ⟨pass.reports.size, key.code⟩))).Mended stream
          (reported ++ [index]) (edits ++ batch) := by
  have size_eq : ledger.size = stream.size := by
    rw [Ledger.size, patches_eq]
    exact mended.size_eq
  have clear := mended.clashing_eq_nil patches_eq apart
  have open_eq : ledger.openOffer (some ⟨pass.reports.size, key.code⟩) =
      some ⟨pass.reports.size, key.code⟩ := by
    simp [openOffer, kept.1, mended.fixed_eq]
  have commit_eq := ledger.commit_of_clear (some ⟨pass.reports.size, key.code⟩) nonempty clear
  rw [open_eq] at commit_eq
  simp only [Option.map_some, Option.toList_some, Option.getD_some] at commit_eq
  have reports_size : pass.reports.size = reported.length := by
    simpa using congrArg List.length mended.reports_eq
  have staged_eq : (ledger.commit batch (some ⟨pass.reports.size, key.code⟩)).ledger.staged =
      none := by rw [staged_commit, closed]
  have size_commit_eq : (ledger.commit batch (some ⟨pass.reports.size, key.code⟩)).ledger.size =
      stream.size := by rw [size_commit, size_eq]
  constructor
  · rw [fixing_take]
    exact mended.fixing
  · rw [stream_take]
    exact mended.stream_eq
  · rw [ledger_take, size_commit_eq]
  · rw [ledger_take, staged_eq]
  · rw [commit_eq]
    simp only [take, settle]
    rw [modify_push, Array.toList_push, List.map_append, List.map_append, mended.reports_eq]
    simp [about]
  · rw [commit_eq]
    simp only [take, settle]
    rw [modify_push, Array.toList_push]
    intro other member
    rcases List.mem_append.mp member with before | last
    · exact mended.placed other before
    · rw [List.mem_singleton.mp last]
      exact here
  · rw [commit_eq]
    simp [take, settle, kept.1, mended.fixed_eq, List.range_succ]
  · rw [seen_take]
    intro other member
    rcases List.mem_cons.mp member with rfl | before
    · exact ⟨index, List.mem_append_right _ (List.mem_singleton_self _), keyed⟩
    · rcases mended.seen other before with ⟨earlier, among, same⟩
      exact ⟨earlier, List.mem_append_left _ among, same⟩
  · rw [ledger_take, commit_eq, ← mended.conflicts_eq]
    exact kept.2.1
  · rw [ledger_take, commit_eq, List.length_append, ← mended.commitCount_eq]
    exact congrArg (· + 1) kept.2.2
  · rw [ledger_take]
    exact fun place inside => mended.patch?_commit patches_eq apart _ inside

/-- A program that fixes what it reports makes its batch. -/
theorem run (mended : pass.Mended stream reported edits) {program : RuleProgram (Option Int)}
    {index : Nat} (mends : program.Mends index batch) (new : index ∉ reported)
    (covers : stream.Covers batch)
    (apart : ∀ edit ∈ edits, ∀ other ∈ batch, edit.index ≠ other.index) (ruleId : String)
    (memory : Memory) :
    ∃ after : Pass, program.run ruleId ⟨pass, memory⟩ = ⟨⟨after, memory⟩, .ok none⟩ ∧
      after.Mended stream (reported ++ [index]) (edits ++ batch) := by
  cases mends with
  | together about fixable renders nonempty =>
      rcases mended.report_eq about fixable renders new ruleId with
        ⟨diagnostic, key, told, here, keyed, report_eq⟩
      have inRange : ∀ edit ∈ batch,
          edit.index < (pass.ledger.offer ⟨pass.reports.size, key.code⟩).size :=
        fun edit member => Nat.lt_of_lt_of_eq (covers edit member) mended.size_eq.symm
      have made := mended.commit told here keyed (pass.ledger.offer ⟨pass.reports.size, key.code⟩)
        (pass.ledger.offer ⟨pass.reports.size, key.code⟩).rollback.clearOffer rfl rfl
        ⟨rfl, rfl, rfl⟩ nonempty apart
      refine ⟨_, ?_, made⟩
      rw [Rule.reportAndFix, RuleProgram.run_report_ok report_eq, if_pos rfl,
        RuleProgram.run_changeTogether inRange mended.closed]
      rfl
  | alone about fixable renders =>
      rename_i made text
      rcases mended.report_eq about fixable renders new ruleId with
        ⟨diagnostic, key, told, here, keyed, report_eq⟩
      have inRange : index < (pass.ledger.offer ⟨pass.reports.size, key.code⟩).size :=
        Nat.lt_of_lt_of_eq (covers _ (List.mem_singleton_self _)) mended.size_eq.symm
      have made := mended.commit told here keyed (pass.ledger.offer ⟨pass.reports.size, key.code⟩)
        (pass.ledger.offer ⟨pass.reports.size, key.code⟩) rfl mended.closed
        ⟨rfl, rfl, rfl⟩ (List.cons_ne_nil _ _) apart
      refine ⟨_, ?_, made⟩
      rw [Rule.reportAndReplace, RuleProgram.run_report_ok report_eq, if_pos rfl,
        RuleProgram.run_replacement inRange mended.closed]
      rfl

/-- All that was reported is fixed. -/
theorem fixed_reports (mended : pass.Mended stream reported edits) :
    pass.fixed = pass.reports.toList := by
  rw [Pass.fixed, mended.fixed_eq]
  simpa using filterMap_getElem?_range pass.reports.toList

theorem map_tokenIndex_fixed (mended : pass.Mended stream reported edits) :
    pass.fixed.map Diagnostic.tokenIndex = reported.map fun (index : Nat) => (index : Int) := by
  have told := congrArg (List.map Prod.fst) mended.reports_eq
  rw [mended.fixed_reports]
  simpa [Function.comp_def] using told

/-- What is compared with other passes has the places of the tokens that were reported. -/
theorem mem_map_position_signature (mended : pass.Mended stream reported edits)
    {position : Position} :
    position ∈ pass.signature.map Diagnostic.Signature.position ↔
      ∃ index ∈ reported, pass.positionOf (index : Int) = position := by
  have told : pass.reports.toList.map Diagnostic.tokenIndex =
      reported.map fun (index : Nat) => (index : Int) := by
    rw [← mended.fixed_reports]
    exact mended.map_tokenIndex_fixed
  have positions_eq : pass.reports.toList.map Diagnostic.position =
      reported.map fun (index : Nat) => pass.positionOf (index : Int) := by
    rw [List.map_congr_left mended.placed, ← Function.comp_def pass.positionOf,
      ← List.map_map, told, List.map_map]
    rfl
  have among : position ∈ pass.signature.map Diagnostic.Signature.position ↔
      position ∈ pass.reports.toList.map Diagnostic.position := by
    simp [Pass.signature, Pass.sorted, Diagnostic.sorted, List.mem_mergeSort,
      Diagnostic.signature]
  rw [among, positions_eq, List.mem_map]

/-- Nothing that was reported is left. -/
theorem remaining_eq_nil (mended : pass.Mended stream reported edits) :
    (pass.sorted.filter fun diagnostic => diagnostic.fixState ≠ .fixed) = [] := by
  rw [List.filter_eq_nil_iff]
  intro diagnostic member
  have among : diagnostic ∈ pass.reports.toList := List.mem_mergeSort.mp member
  have state := List.mem_map_of_mem (f := fun diagnostic : Diagnostic =>
    (diagnostic.tokenIndex, diagnostic.fixState)) among
  rw [mended.reports_eq] at state
  rcases List.mem_map.mp state with ⟨index, -, same⟩
  simp [(Prod.mk.inj same).2.symm]

theorem changed_iff (mended : pass.Mended stream reported edits) :
    pass.ledger.changed = true ↔ reported ≠ [] := by
  rw [Ledger.changed, mended.commitCount_eq, decide_eq_true_eq, List.length_pos_iff]

theorem unchanged (mended : pass.Mended stream [] edits) : pass.ledger.changed = false := by
  rw [Bool.eq_false_iff]
  exact fun moved => mended.changed_iff.mp moved rfl

end Pass.Mended

/-! ### Calls -/

section Calls

variable {token : Token} {slot : RuleSlot} {slots : List RuleSlot} {trace : PassTrace}

theorem visitAll_of_quiet (quiet : ∀ slot ∈ slots, slot.rule.Quiet stream token)
    (mended : trace.pass.Mended stream reported edits) :
    (visitAll token trace slots).1 = slots ∧
      (visitAll token trace slots).2.pass.Mended stream reported edits := by
  induction slots generalizing trace with
  | nil => exact ⟨rfl, mended⟩
  | cons slot rest ih =>
      have restQuiet : ∀ slot ∈ rest, slot.rule.Quiet stream token := fun other among =>
        quiet other (List.mem_cons_of_mem _ among)
      by_cases wanted : slot.wants token = true
      · have still := quiet slot (List.mem_cons_self ..) (Bool.and_eq_true_iff.mp wanted).1
          slot.options
        simp only [visitAll, wanted, if_true, RuleSlot.visit, mended.stream_eq, still]
        have called : (⟨trace.pass.betweenCalls, trace.calls.push ⟨slot.rule.id, token.index⟩,
            trace.failures⟩ : PassTrace).pass.Mended stream reported edits := mended.betweenCalls
        rcases ih restQuiet called with ⟨slots_eq, mended⟩
        exact ⟨congrArg (List.cons slot) slots_eq, mended⟩
      · simp only [visitAll, wanted, Bool.false_eq_true, if_false]
        rcases ih restQuiet mended with ⟨slots_eq, mended⟩
        exact ⟨congrArg (List.cons slot) slots_eq, mended⟩

/-- A call that fixes what it reports makes its batch. -/
theorem visitAll_of_mends (resumed : slot.resume = 0)
    (mends : slot.rule.Mends stream token batch)
    (mended : trace.pass.Mended stream reported edits) (new : token.index ∉ reported)
    (covers : stream.Covers batch)
    (apart : ∀ edit ∈ edits, ∀ other ∈ batch, edit.index ≠ other.index) :
    (visitAll token trace [slot]).1 = [slot] ∧
      (visitAll token trace [slot]).2.pass.Mended stream (reported ++ [token.index])
        (edits ++ batch) := by
  have wanted : slot.wants token = true := by
    rw [RuleSlot.wants, mends.1, resumed]
    simp
  rcases mended.run (mends.2 slot.options) new covers apart slot.rule.id slot.memory with
    ⟨after, run_eq, mended'⟩
  simp only [visitAll, wanted, if_true, RuleSlot.visit, mended.stream_eq, run_eq]
  exact ⟨rfl, mended'.betweenCalls⟩

end Calls

/-- Whether the batches for the tokens of a stream stay inside it and share no token. -/
structure TokenStream.Separates (stream : TokenStream) (batch : Nat → List Edit) : Prop where
  covers : ∀ token ∈ stream.tokens.toList, stream.Covers (batch token.index)
  apart : ∀ first < stream.size, ∀ second < stream.size, first ≠ second →
    ∀ edit ∈ batch first, ∀ other ∈ batch second, edit.index ≠ other.index

/-- Whether at most one rule has something to say about each token of a stream and then fixes it by
the batch for this token, and no two batches share a token. -/
structure Dispatcher.Mends (dispatcher : Dispatcher) (stream : TokenStream)
    (batch : Nat → List Edit) : Prop extends stream.Separates batch where
  said : ∀ token ∈ stream.tokens.toList,
    (batch token.index = [] ∧
      ∀ context ∈ dispatcher.contexts, context.rule.Quiet stream token) ∨
    batch token.index ≠ [] ∧ ∃ before context after,
      dispatcher.contexts = before ++ context :: after ∧
      context.rule.Mends stream token (batch token.index) ∧
      ∀ other ∈ before ++ after, other.rule.Quiet stream token

/-- Rules with nothing to say mend a stream by no edits at all. -/
theorem Dispatcher.mends_of_quiet {dispatcher : Dispatcher} {stream : TokenStream}
    (quiet : ∀ token ∈ stream.tokens.toList, ∀ context ∈ dispatcher.contexts,
      context.rule.Quiet stream token) : dispatcher.Mends stream fun _ => [] where
  said token member := .inl ⟨rfl, quiet token member⟩
  covers token member edit made := by cases made
  apart first first_lt second second_lt differs edit made := by cases made

/-- The tokens for which there are batches. -/
def concerned (batch : Nat → List Edit) (tokens : List Token) : List Nat :=
  (tokens.filter fun token => batch token.index ≠ []).map Token.index

theorem mem_concerned_iff {batch : Nat → List Edit} {tokens : List Token} {index : Nat} :
    index ∈ concerned batch tokens ↔
      batch index ≠ [] ∧ ∃ token ∈ tokens, token.index = index := by
  simp only [concerned, List.mem_map, List.mem_filter, decide_eq_true_eq]
  constructor
  · rintro ⟨token, ⟨member, something⟩, rfl⟩
    exact ⟨something, token, member, rfl⟩
  · rintro ⟨something, token, member, rfl⟩
    exact ⟨token, ⟨member, something⟩, rfl⟩

theorem TokenStream.Bounded.map_index (bounded : stream.Bounded) :
    stream.tokens.toList.map Token.index = List.range stream.size := by
  apply List.ext_getElem
  · simp [TokenStream.size]
  · intro index inside _
    rw [List.getElem_map, List.getElem_range, Array.getElem_toList]
    exact bounded.index_eq (Array.getElem?_eq_getElem _)

theorem concerned_eq_filter (bounded : stream.Bounded) (batch : Nat → List Edit) :
    concerned batch stream.tokens.toList =
      (List.range stream.size).filter fun index => batch index ≠ [] := by
  rw [← bounded.map_index, List.filter_map]
  rfl

/-- The edits of all batches. -/
def allEdits (batch : Nat → List Edit) (tokens : List Token) : List Edit :=
  tokens.flatMap fun token => batch token.index

theorem concerned_concat (batch : Nat → List Edit) (done : List Token) (token : Token) :
    concerned batch (done ++ [token]) =
      concerned batch done ++ if batch token.index = [] then [] else [token.index] := by
  by_cases nothing : batch token.index = [] <;> simp [concerned, List.filter_append, nothing]

theorem allEdits_concat (batch : Nat → List Edit) (done : List Token) (token : Token) :
    allEdits batch (done ++ [token]) = allEdits batch done ++ batch token.index := by
  simp [allEdits]

section Separates

variable {batch : Nat → List Edit} {token : Token} {place : Nat}

/-- There is no batch for a token among those for the tokens in front of it. -/
theorem not_mem_concerned (bounded : stream.Bounded) {done rest : List Token}
    (tokens_eq : stream.tokens.toList = done ++ token :: rest) :
    token.index ∉ concerned batch done := by
  intro among
  rcases (mem_concerned_iff.mp among).2 with ⟨earlier, inside, same⟩
  have ordered := bounded.pairwise_index
  rw [tokens_eq, List.pairwise_append] at ordered
  exact Nat.ne_of_lt (ordered.2.2 earlier inside token (List.mem_cons_self ..)) same

namespace TokenStream.Separates

/-- The batch for a token shares no token with those for the tokens in front of it. -/
theorem apart_allEdits (separates : stream.Separates batch) (bounded : stream.Bounded)
    {done rest : List Token} (tokens_eq : stream.tokens.toList = done ++ token :: rest) :
    ∀ edit ∈ allEdits batch done, ∀ other ∈ batch token.index, edit.index ≠ other.index := by
  intro edit made
  rcases List.mem_flatMap.mp made with ⟨earlier, among, edit_mem⟩
  have member : token ∈ stream.tokens.toList := by simp [tokens_eq]
  have ordered := bounded.pairwise_index
  rw [tokens_eq, List.pairwise_append] at ordered
  have earlier_lt := ordered.2.2 earlier among token (List.mem_cons_self ..)
  have token_lt := bounded.index_lt member
  exact separates.apart _ (Nat.lt_trans earlier_lt token_lt) _ token_lt (Nat.ne_of_lt earlier_lt)
    edit edit_mem

/-- What one batch does to a place is all that is done to it. -/
theorem editsAt_allEdits (separates : stream.Separates batch) (bounded : stream.Bounded)
    (member : token ∈ stream.tokens.toList)
    (touches : editsAt (batch token.index) place ≠ []) :
    editsAt (allEdits batch stream.tokens.toList) place = editsAt (batch token.index) place := by
  have ordered := bounded.pairwise_index
  rcases List.append_of_mem member with ⟨before, after, tokens_eq⟩
  rcases List.exists_mem_of_ne_nil _ touches with ⟨edit, here⟩
  rcases List.mem_filter.mp here with ⟨edit_mem, at_place⟩
  have elsewhere : ∀ others : List Token, (∀ other ∈ others, other ∈ stream.tokens.toList ∧
      other.index ≠ token.index) → editsAt (allEdits batch others) place = [] := by
    intro others apart
    rw [editsAt, List.filter_eq_nil_iff]
    intro edit' member'
    rcases List.mem_flatMap.mp member' with ⟨other, among, made⟩
    have differs := separates.apart _ (bounded.index_lt (apart other among).1) _
      (bounded.index_lt member) (apart other among).2 edit' made edit edit_mem
    rw [of_decide_eq_true at_place] at differs
    simpa using differs
  rw [tokens_eq, List.pairwise_append, List.pairwise_cons] at ordered
  have before_eq := elsewhere before fun other among =>
    ⟨by simp [tokens_eq, among],
      Nat.ne_of_lt (ordered.2.2 other among token (List.mem_cons_self ..))⟩
  have after_eq := elsewhere after fun other among =>
    ⟨by simp [tokens_eq, among], (Nat.ne_of_lt (ordered.2.1.1 other among)).symm⟩
  have edits_eq : allEdits batch stream.tokens.toList =
      allEdits batch before ++ (batch token.index ++ allEdits batch after) := by
    simp [allEdits, tokens_eq]
  rw [edits_eq, editsAt_append, editsAt_append, before_eq, after_eq, List.nil_append,
    List.append_nil]

end TokenStream.Separates

namespace Pass.Mended

/-- A pass that made all batches did to a place what the batch that touches it says. -/
theorem patch?_of_touched
    (mended : pass.Mended stream reported (allEdits batch stream.tokens.toList))
    (separates : stream.Separates batch) (bounded : stream.Bounded)
    (member : token ∈ stream.tokens.toList) (inside : place < stream.size)
    (touches : editsAt (batch token.index) place ≠ []) :
    pass.ledger.patch? place = (editsAt (batch token.index) place).foldl enter none := by
  rw [mended.patch?_eq place inside, separates.editsAt_allEdits bounded member touches]

/-- A pass that made all batches left a place alone that no batch touches. -/
theorem patch?_of_untouched
    (mended : pass.Mended stream reported (allEdits batch stream.tokens.toList))
    (inside : place < stream.size)
    (untouched : ∀ token ∈ stream.tokens.toList, editsAt (batch token.index) place = []) :
    pass.ledger.patch? place = none := by
  have none_here : editsAt (allEdits batch stream.tokens.toList) place = [] := by
    rw [editsAt, List.filter_eq_nil_iff]
    intro edit member
    rcases List.mem_flatMap.mp member with ⟨token, among, made⟩
    exact List.filter_eq_nil_iff.mp (untouched token among) edit made
  rw [mended.patch?_eq place inside, none_here]
  rfl

end Pass.Mended

end Separates

namespace Dispatcher.Mends

variable {dispatcher : Dispatcher} {batch : Nat → List Edit}

/-- The calls on a token make the batch for it. -/
theorem visitAll (mends : dispatcher.Mends stream batch) {done : List Token} {token : Token}
    {trace : PassTrace} (member : token ∈ stream.tokens.toList)
    (mended : trace.pass.Mended stream (concerned batch done) (allEdits batch done))
    (new : token.index ∉ concerned batch done)
    (apart : ∀ edit ∈ allEdits batch done, ∀ other ∈ batch token.index,
      edit.index ≠ other.index) :
    (TokenLint.visitAll token trace dispatcher.slots).1 = dispatcher.slots ∧
      (TokenLint.visitAll token trace dispatcher.slots).2.pass.Mended stream
        (concerned batch (done ++ [token])) (allEdits batch (done ++ [token])) := by
  have quietSlots : ∀ contexts : List RuleContext,
      (∀ context ∈ contexts, context.rule.Quiet stream token) →
        ∀ slot ∈ contexts.map RuleContext.startPass, slot.rule.Quiet stream token := by
    intro contexts quiet slot among
    rcases List.mem_map.mp among with ⟨context, inside, rfl⟩
    exact quiet context inside
  rw [concerned_concat, allEdits_concat]
  rcases mends.said token member with ⟨none_said, quiet⟩ | ⟨said, before, context, after,
    contexts_eq, fixes, quiet⟩
  · rw [none_said, if_pos rfl, List.append_nil, List.append_nil]
    exact visitAll_of_quiet (quietSlots _ quiet) mended
  · have slots_eq : dispatcher.slots = before.map RuleContext.startPass ++
        ([context.startPass] ++ after.map RuleContext.startPass) := by
      simp [slots, contexts_eq]
    rcases visitAll_of_quiet (quietSlots before fun other among =>
      quiet other (List.mem_append_left _ among)) mended with ⟨before_eq, mendedBefore⟩
    have resumed : context.startPass.resume = 0 := rfl
    rcases visitAll_of_mends resumed fixes mendedBefore new (mends.covers token member) apart
      with ⟨here_eq, mendedHere⟩
    rcases visitAll_of_quiet (quietSlots after fun other among =>
      quiet other (List.mem_append_right _ among)) mendedHere with ⟨after_eq, mendedAfter⟩
    rw [slots_eq, if_neg said, visitAll_append, visitAll_append]
    exact ⟨by rw [before_eq, here_eq, after_eq], mendedAfter⟩

/-- A fixing pass makes all batches. -/
theorem dispatch (mends : dispatcher.Mends stream batch) (bounded : stream.Bounded) :
    (dispatcher.dispatch stream true).2.pass.Mended stream
      (concerned batch stream.tokens.toList) (allEdits batch stream.tokens.toList) := by
  have reached : ∀ done rest : List Token, stream.tokens.toList = done ++ rest →
      (done.foldl (fun state token => TokenLint.visitAll token state.2 state.1)
        (dispatcher.slots, ⟨.start stream true, #[], #[]⟩)).1 = dispatcher.slots ∧
      (done.foldl (fun state token => TokenLint.visitAll token state.2 state.1)
        (dispatcher.slots, ⟨.start stream true, #[], #[]⟩)).2.pass.Mended stream
          (concerned batch done) (allEdits batch done) := by
    intro done
    induction done using List.reverseRecOn with
    | nil => exact fun _ _ => ⟨rfl, .start stream⟩
    | append_singleton done token ih =>
        intro rest tokens_eq
        rw [List.append_assoc, List.singleton_append] at tokens_eq
        have member : token ∈ stream.tokens.toList := by simp [tokens_eq]
        rcases ih _ tokens_eq with ⟨slots_eq, mended⟩
        rw [List.foldl_append, List.foldl_cons, List.foldl_nil, slots_eq]
        exact mends.visitAll member mended (not_mem_concerned bounded tokens_eq)
          (mends.apart_allEdits bounded tokens_eq)
  exact (reached _ [] (List.append_nil _).symm).2

/-- A fixing pass does to a place what the batch that touches it says. -/
theorem patch?_of_touched (mends : dispatcher.Mends stream batch) (bounded : stream.Bounded)
    {token : Token} (member : token ∈ stream.tokens.toList) {place : Nat}
    (inside : place < stream.size) (touches : editsAt (batch token.index) place ≠ []) :
    (dispatcher.dispatch stream true).2.pass.ledger.patch? place =
      (editsAt (batch token.index) place).foldl enter none :=
  (mends.dispatch bounded).patch?_of_touched mends.toSeparates bounded member inside touches

/-- A fixing pass leaves a place alone that no batch touches. -/
theorem patch?_of_untouched (mends : dispatcher.Mends stream batch) (bounded : stream.Bounded)
    {place : Nat} (inside : place < stream.size)
    (untouched : ∀ token ∈ stream.tokens.toList, editsAt (batch token.index) place = []) :
    (dispatcher.dispatch stream true).2.pass.ledger.patch? place = none :=
  (mends.dispatch bounded).patch?_of_untouched inside untouched

end Dispatcher.Mends

/-- Fixing passes of which each makes all its batches, until one has none to make: how many there
are, which tokens they fix, and the text they leave. The text of every pass is new, and so are its
reports. -/
inductive Dispatcher.Settling (dispatcher : Dispatcher) : List String →
    Option (List Diagnostic.Signature) → TokenStream → Nat → List Nat → String → Prop where
  | still {seen : List String} {previous : Option (List Diagnostic.Signature)}
      {stream : TokenStream} {edits : List Edit}
      (mended : (dispatcher.dispatch stream true).2.pass.Mended stream [] edits) :
      Settling dispatcher seen previous stream 1 [] stream.source
  | moved {seen : List String} {previous : Option (List Diagnostic.Signature)}
      {stream after : TokenStream} {reported later : List Nat} {edits : List Edit} {passes : Nat}
      {text : String}
      (mended : (dispatcher.dispatch stream true).2.pass.Mended stream reported edits)
      (something : reported ≠ [])
      (differs : previous ≠ some (dispatcher.dispatch stream true).2.pass.signature)
      (new : (dispatcher.dispatch stream true).2.pass.contents ∉ seen)
      (read : tokenize (dispatcher.dispatch stream true).2.pass.contents = .ok after)
      (rest : Settling dispatcher ((dispatcher.dispatch stream true).2.pass.contents :: seen)
        (some (dispatcher.dispatch stream true).2.pass.signature) after passes later text) :
      Settling dispatcher seen previous stream (passes + 1) (reported ++ later) text

/-- How a loop ended that fixed all that it reported: the passes and the fixes that came to those
before them. -/
structure FixRun.Settled (run : FixRun) (progress : FixProgress) (passes : Nat)
    (reported : List Nat) (text : String) : Prop where
  converged : run.converged = true
  inBudget : run.budgetExceeded = false
  kept : run.rejection = none
  source_eq : run.source = text
  records_eq : ∃ records, run.records = progress.records ++ records ∧ records.length = passes ∧
    ∀ record ∈ records, record.trace.pass.ledger.conflicts = []
  fixed_eq : run.fixed.map Diagnostic.tokenIndex =
    progress.fixed.map Diagnostic.tokenIndex ++ reported.map fun (index : Nat) => (index : Int)
  clean : (run.last.trace.pass.sorted.filter fun diagnostic => diagnostic.fixState ≠ .fixed) = []

/-- A loop that goes on after a pass ends with what this pass fixed in front of the rest. -/
theorem FixRun.Settled.of_advance {run : FixRun} {progress : FixProgress} {dispatcher : Dispatcher}
    {record : PassRecord} {after : TokenStream} {passes : Nat} {later : List Nat} {text : String}
    (settled : run.Settled (progress.advance dispatcher record after) passes later text)
    (conflicts_eq : record.trace.pass.ledger.conflicts = [])
    (fixed_eq : record.trace.pass.fixed.map Diagnostic.tokenIndex =
      reported.map fun (index : Nat) => (index : Int)) :
    run.Settled progress (passes + 1) (reported ++ later) text := by
  refine ⟨settled.converged, settled.inBudget, settled.kept, settled.source_eq, ?_, ?_,
    settled.clean⟩
  · rcases settled.records_eq with ⟨records, records_eq, length_eq, clear⟩
    refine ⟨record :: records, ?_, by rw [List.length_cons, length_eq], ?_⟩
    · rw [records_eq]
      exact List.append_assoc _ _ _
    · intro other member
      rcases List.mem_cons.mp member with rfl | among
      · exact conflicts_eq
      · exact clear other among
  · rw [settled.fixed_eq, FixProgress.advance, List.map_append, fixed_eq, List.map_append,
      List.append_assoc]

namespace Dispatcher.Settling

variable {dispatcher : Dispatcher} {progress : FixProgress} {passes : Nat} {text : String}

theorem passes_pos {seen : List String} {previous : Option (List Diagnostic.Signature)}
    (settling : dispatcher.Settling seen previous stream passes reported text) : 0 < passes := by
  cases settling <;> exact Nat.succ_pos _

/-- The loop makes passes that settle as long as it may. -/
theorem exists_fixFrom
    (settling : dispatcher.Settling progress.seen progress.previous progress.stream passes reported
      text)
    (slots_eq : progress.dispatcher.slots = dispatcher.slots)
    (read : tokenize progress.source = .ok progress.stream) {budget : Nat}
    (allowed : passes ≤ budget + 1) :
    ∃ run, fixFrom budget progress = .ok run ∧ run.Settled progress passes reported text := by
  generalize seen_eq : progress.seen = seen at settling
  generalize previous_eq : progress.previous = previous at settling
  generalize stream_eq : progress.stream = stream at settling
  -- Every pass starts with the slots of the first one, so it is a pass of the dispatcher.
  have pass_eq : (progress.pass true).2 =
      ⟨progress.source, (dispatcher.dispatch stream true).2⟩ := by
    rw [← stream_eq]
    exact congrArg (PassRecord.mk progress.source)
      (Dispatcher.trace_dispatch_congr progress.stream true slots_eq)
  induction settling generalizing progress budget with
  | @still seen previous stream edits mended =>
      refine ⟨_, fixFrom_of_unchanged (by rw [pass_eq]; exact mended.unchanged), rfl, rfl, rfl,
        ?_, ⟨_, rfl, rfl, ?_⟩, (List.append_nil _).symm, ?_⟩
      · rw [← stream_eq, source_of_tokenize read]
        rfl
      · intro record member
        rw [List.mem_singleton.mp member, pass_eq]
        exact mended.conflicts_eq
      · rw [pass_eq]
        exact mended.remaining_eq_nil
  | @moved seen previous stream after reported later edits passes text mended something differs new
      readNext rest ih =>
      have fresh : progress.repeats (progress.pass true).2 = false := by
        rw [pass_eq, FixProgress.repeats, previous_eq, seen_eq, Bool.or_eq_false_iff]
        exact ⟨beq_eq_false_iff_ne.mpr differs.symm, by simpa [PassRecord.output] using new⟩
      have moved : (progress.pass true).2.trace.pass.ledger.changed = true := by
        rw [pass_eq]
        exact mended.changed_iff.mpr something
      have readOutput : tokenize (progress.pass true).2.output = .ok after := by
        rw [pass_eq]
        exact readNext
      have left := rest.passes_pos
      rcases Nat.exists_eq_add_of_le' (show 1 ≤ budget by omega) with ⟨budget, rfl⟩
      let next := progress.advance (progress.pass true).1 (progress.pass true).2 after
      have next_slots : next.dispatcher.slots = dispatcher.slots :=
        (Dispatcher.slots_dispatch _ _ _).trans slots_eq
      have next_seen : next.seen = (dispatcher.dispatch stream true).2.pass.contents :: seen := by
        rw [← seen_eq]
        exact congrArg (· :: progress.seen) (congrArg PassRecord.output pass_eq)
      have next_previous : next.previous =
          some (dispatcher.dispatch stream true).2.pass.signature :=
        congrArg (fun record : PassRecord => some record.trace.pass.signature) pass_eq
      have next_pass : (next.pass true).2 =
          ⟨next.source, (dispatcher.dispatch after true).2⟩ :=
        congrArg (PassRecord.mk next.source)
          (Dispatcher.trace_dispatch_congr after true next_slots)
      have few : passes ≤ budget + 1 := by omega
      rcases ih next_slots readOutput few next_seen next_previous rfl next_pass with
        ⟨run, run_eq, settled⟩
      refine ⟨run, ?_, settled.of_advance ?_ ?_⟩
      · rw [LoopState.fixFrom_of_read moved readOutput]
        simp only [fresh, Bool.false_eq_true, if_false]
        rw [if_neg (Nat.succ_ne_zero budget)]
        exact run_eq
      · rw [pass_eq]
        exact mended.conflicts_eq
      · rw [pass_eq]
        exact mended.map_tokenIndex_fixed

end Dispatcher.Settling

/-- The first pass that the loop makes is one over the source that it stands at. -/
theorem FixRun.exists_records_fixFrom {budget : Nat} {progress : FixProgress} {run : FixRun}
    (finished : fixFrom budget progress = .ok run) :
    ∃ later, run.records = progress.records ++ (progress.pass true).2 :: later := by
  induction budget using Nat.strongRecOn generalizing progress with
  | ind budget ih =>
      rcases fixFrom_cases finished with ⟨-, rfl⟩ | ⟨-, ⟨error, -, rfl⟩ |
        ⟨stream, -, ⟨-, rfl⟩ | ⟨-, ⟨-, rfl⟩ | ⟨rest, rfl, finishedRest⟩⟩⟩⟩
      · exact ⟨[], rfl⟩
      · exact ⟨_, List.append_assoc ..⟩
      · exact ⟨_, List.append_assoc ..⟩
      · exact ⟨_, List.append_assoc ..⟩
      · rcases ih rest (Nat.lt_succ_self rest) finishedRest with ⟨later, records_eq⟩
        exact ⟨_, records_eq.trans (List.append_assoc ..)⟩

/-- Whether a run fixed all that it reported in a number of passes at most, and left a clean
text. -/
structure FileRun.Settles (run : FileRun) (most : Nat) (reported : List Nat) (text : String) :
    Prop where
  done : run.result.state = .done
  converged : run.result.converged = true
  passes_le : run.result.passes ≤ most
  clean : run.result.diagnostics = []
  fixedSource_eq : run.result.fixedSource = text
  fixed_eq : run.result.fixed.map Diagnostic.tokenIndex =
    reported.map fun (index : Nat) => (index : Int)
  settled : ∀ record ∈ run.records, record.trace.pass.ledger.conflicts = []

namespace LintSettings

variable {settings : LintSettings} {source : String} {dispatcher : Dispatcher}
  {after : TokenStream} {batch : Nat → List Edit} {others : List Edit} {passes most : Nat}
  {text : String}

/-- A run that fixes starts with a fixing pass over the source that it is given. -/
theorem exists_records_lint (fixes : settings.fix = true)
    (made : Dispatcher.ofRules settings.rules settings.options = .ok dispatcher)
    (read : tokenize source = .ok stream) {path : String} {run : FileRun}
    (finished : settings.lint path source = .ok run) :
    ∃ later, run.records = ⟨source, (dispatcher.dispatch stream true).2⟩ :: later := by
  simp only [lint, made, read, passes, if_pos fixes] at finished
  cases ended : fixFrom (settings.maxIterations - 1) (.start dispatcher source stream) with
  | error fault =>
      rw [ended] at finished
      cases finished
  | ok passes =>
      rw [ended] at finished
      cases finished
      exact FixRun.exists_records_fixFrom ended

/-- A run with passes that settle ends with the last of them. -/
theorem lint_of_settling (fixes : settings.fix = true)
    (made : Dispatcher.ofRules settings.rules settings.options = .ok dispatcher)
    (read : tokenize source = .ok stream)
    (settling : dispatcher.Settling [source] none stream passes reported text)
    (few : passes ≤ most) (allowed : most ≤ settings.maxIterations) (path : String) :
    ∃ run, settings.lint path source = .ok run ∧ run.Settles most reported text := by
  have left := settling.passes_pos
  have within : passes ≤ settings.maxIterations - 1 + 1 := by omega
  have begun : (FixProgress.start dispatcher source stream).dispatcher.slots = dispatcher.slots :=
    rfl
  rcases settling.exists_fixFrom begun read within with ⟨run, run_eq, settled⟩
  have ended : settings.passes (.start dispatcher source stream) = .ok run := by
    rw [LintSettings.passes, if_pos fixes]
    exact run_eq
  rcases settled.records_eq with ⟨records, records_eq, length_eq, unrefused⟩
  have records_eq : run.records = records := records_eq
  refine ⟨_, lint_eq_of_passes made read ended, rfl, settled.converged, ?_, ?_, settled.source_eq,
    settled.fixed_eq, ?_⟩
  · rw [← length_eq, ← records_eq] at few
    exact few
  · exact (FixRun.remaining_of_clean settings.maxIterations settled.inBudget settled.kept).trans
      settled.clean
  · intro record member
    exact unrefused record (records_eq ▸ member)

/-- A run ends with the pass after one that fixes all it reports, or with this one if it has nothing
to report. -/
theorem lint_of_mended (fixes : settings.fix = true) (allowed : 2 ≤ settings.maxIterations)
    (made : Dispatcher.ofRules settings.rules settings.options = .ok dispatcher)
    (read : tokenize source = .ok stream)
    (mended : (dispatcher.dispatch stream true).2.pass.Mended stream reported edits)
    (readAgain : tokenize (dispatcher.dispatch stream true).2.pass.contents = .ok after)
    (still : (dispatcher.dispatch after true).2.pass.Mended after [] others)
    (moves : reported ≠ [] → (dispatcher.dispatch stream true).2.pass.contents ≠ source)
    (path : String) :
    ∃ run, settings.lint path source = .ok run ∧
      run.Settles 2 reported (dispatcher.dispatch stream true).2.pass.contents := by
  by_cases something : reported = []
  · rw [something] at mended ⊢
    rw [(dispatcher.unchanged_dispatch stream true mended.unchanged).2]
    exact lint_of_settling fixes made read (.still mended) (Nat.le_succ 1) allowed path
  · have settling : dispatcher.Settling [source] none stream 2 (reported ++ []) after.source :=
      .moved mended something nofun (by simpa using moves something) readAgain (.still still)
    rw [List.append_nil, source_of_tokenize readAgain] at settling
    exact lint_of_settling fixes made read settling (Nat.le_refl 2) allowed path

/-- A run ends with the pass after the one that makes all batches, or with this pass if there are
none. -/
theorem lint_of_mends (fixes : settings.fix = true) (allowed : 2 ≤ settings.maxIterations)
    (made : Dispatcher.ofRules settings.rules settings.options = .ok dispatcher)
    (read : tokenize source = .ok stream) (mends : dispatcher.Mends stream batch)
    (readAgain : tokenize (dispatcher.dispatch stream true).2.pass.contents = .ok after)
    (clean : dispatcher.Mends after fun _ => [])
    (moves : concerned batch stream.tokens.toList ≠ [] →
      (dispatcher.dispatch stream true).2.pass.contents ≠ source) (path : String) :
    ∃ run, settings.lint path source = .ok run ∧
      run.Settles 2 (concerned batch stream.tokens.toList)
        (dispatcher.dispatch stream true).2.pass.contents := by
  have still := clean.dispatch (TokenStream.bounded_of_tokenize readAgain)
  have none_concerned : concerned (fun _ => []) after.tokens.toList = [] := by
    simp [concerned]
  rw [none_concerned] at still
  exact lint_of_mended fixes allowed made read
    (mends.dispatch (TokenStream.bounded_of_tokenize read)) readAgain still moves path

end LintSettings

end TokenLint
