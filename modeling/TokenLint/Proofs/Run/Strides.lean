import TokenLint.Proofs.Run.Findings
import TokenLint.Proofs.Run.Mending
import Mathlib.Data.List.Nodup

/-!
# Rules that go on behind what they have seen

A rule may answer with an index before which it wants to see no more tokens. If the tokens that it
wants to see lie in stretches, and it answers with the stop of a stretch where the stretch begins,
then a pass calls it just once for each stretch. All that it says and all that it fixes is decided
by where the stretches begin.
-/

namespace TokenLint

open Ledger

theorem RuleProgram.run_bind_of_ok {α β : Type} {ruleId : String} {program : RuleProgram α}
    {next : α → RuleProgram β} {state after : RuleState} {result : α}
    (run_eq : program.run ruleId state = ⟨after, .ok result⟩) :
    (program.bind next).run ruleId state = (next result).run ruleId after := by
  induction program generalizing state with
  | done answer =>
      cases run_eq
      rfl
  | fail fault => cases run_eq
  | report made rest ih | finish rest ih | edit place index text rest ih =>
      simp only [bind, run] at run_eq ⊢
      split at run_eq
      · exact ih _ run_eq
      · cases run_eq
  | «begin» rest ih =>
      simp only [bind, run] at run_eq ⊢
      split at run_eq
      · exact ih run_eq
      · cases run_eq
  | rollback rest ih | remember memory rest ih => exact ih run_eq
  | inspect rest ih | consult rest ih => exact ih _ run_eq

/-! ### Where a rule goes on -/

section Resuming

variable {begins : Nat → Prop} {stop : Nat → Nat} {resume : Int} {index : Nat}

/-- Whether an index is where a rule goes on after the tokens in front of some place: behind all the
stretches that begin there. -/
structure Resumes (begins : Nat → Prop) (stop : Nat → Nat) (resume : Int) (place : Nat) : Prop where
  latest : resume = 0 ∨ ∃ first < place, begins first ∧ resume = stop first
  behind : ∀ first < place, begins first → (stop first : Int) ≤ resume

namespace Resumes

theorem start (begins : Nat → Prop) (stop : Nat → Nat) : Resumes begins stop 0 0 :=
  ⟨.inl rfl, fun _ before => absurd before (Nat.not_lt_zero _)⟩

/-- A place where no stretch begins is passed by. -/
theorem skip (resumes : Resumes begins stop resume index) (other : ¬begins index) :
    Resumes begins stop resume (index + 1) where
  latest := resumes.latest.imp_right fun ⟨first, before, begun, resume_eq⟩ =>
    ⟨first, Nat.lt_succ_of_lt before, begun, resume_eq⟩
  behind first before begun := by
    rcases Nat.eq_or_lt_of_le (Nat.le_of_lt_succ before) with rfl | earlier
    · exact absurd begun other
    · exact resumes.behind first earlier begun

/-- Where a stretch begins, the rule answers with its stop. -/
theorem call (begun : begins index) (after : index < stop index)
    (apart : ∀ first < index, begins first → stop first ≤ index) :
    Resumes begins stop (stop index) (index + 1) where
  latest := .inr ⟨index, Nat.lt_succ_self _, begun, rfl⟩
  behind first before begun := by
    rcases Nat.eq_or_lt_of_le (Nat.le_of_lt_succ before) with rfl | earlier
    · exact Int.le_refl _
    · exact_mod_cast Nat.le_of_lt (Nat.lt_of_le_of_lt (apart first earlier begun) after)

theorem le_of_begins (resumes : Resumes begins stop resume index)
    (apart : ∀ first < index, begins first → stop first ≤ index) : resume ≤ index := by
  rcases resumes.latest with rfl | ⟨first, before, begun, rfl⟩
  · exact Int.natCast_nonneg index
  · exact_mod_cast apart first before begun

theorem lt_of_covered (resumes : Resumes begins stop resume index) {first : Nat}
    (before : first < index) (begun : begins first) (inside : index < stop first) :
    (index : Int) < resume := by
  have behind := resumes.behind first before begun
  omega

end Resumes

end Resuming

theorem TokenStream.Bounded.length_eq_index {stream : TokenStream} (bounded : stream.Bounded)
    {done rest : List Token} {token : Token}
    (tokens_eq : stream.tokens.toList = done ++ token :: rest) : done.length = token.index := by
  refine (bounded.index_eq ?_).symm
  rw [token?, ← Array.getElem?_toList, tokens_eq]
  simp

theorem nodup_concerned {stream : TokenStream} (bounded : stream.Bounded)
    (batch : Nat → List Edit) : (concerned batch stream.tokens.toList).Nodup := by
  rw [concerned_eq_filter bounded]
  exact List.nodup_range.filter _

theorem fresh_eq_self {seen : List ReportKey} {remarks : List Remark}
    (distinct : (remarks.map Remark.key).Nodup) (new : ∀ remark ∈ remarks, remark.key ∉ seen) :
    fresh seen remarks = remarks := by
  induction remarks generalizing seen with
  | nil => rfl
  | cons first rest ih =>
      rw [List.map_cons, List.nodup_cons] at distinct
      rw [fresh, if_neg (new first List.mem_cons_self), ih distinct.2]
      intro remark member known
      rcases List.mem_cons.mp known with same | before
      · exact distinct.1 (same ▸ List.mem_map_of_mem member)
      · exact new remark (List.mem_cons_of_mem _ member) before

/-- Whether the tokens that a rule wants to see lie in stretches that share no token, and all the
rule does where a stretch begins is to make a report with the batch of edits that fixes it, or
nothing if there is no batch, and to answer with the stop of the stretch. -/
structure Rule.Strides (rule : Rule) (stream : TokenStream) (begins : Nat → Prop)
    (stop : Nat → Nat) (made : Nat → Report) (batch : Nat → List Edit) : Prop where
  wanted : ∀ token ∈ stream.tokens.toList, begins token.index →
    rule.interest.contains token.kind = true
  after : ∀ index, begins index → index < stop index
  apart : ∀ index other, begins index → begins other → index < other → stop index ≤ other
  covered : ∀ token ∈ stream.tokens.toList, rule.interest.contains token.kind = true →
    ¬begins token.index → ∃ first < token.index, begins first ∧ token.index < stop first
  quiet : ∀ index, ¬begins index → batch index = []
  said : ∀ index, begins index → ∀ options,
    batch index = [] ∧ rule.process stream index options = .done (some (stop index : Int)) ∨
    batch index ≠ [] ∧ rule.process stream index options =
      (reportAndFix (made index) (batch index)).bind fun _ => .done (some (stop index : Int))
  about : ∀ index, (made index).index = index
  fixable : ∀ index, (made index).fixable = true
  renders : ∀ index, (made index).Renders

namespace Rule.Strides

variable {rule : Rule} {stream : TokenStream} {begins : Nat → Prop} {stop : Nat → Nat}
  {made : Nat → Report} {batch : Nat → List Edit} {slot : RuleSlot} {token : Token}
  {reported : List Nat} {edits : List Edit}

theorem wants_iff (strides : rule.Strides stream begins stop made batch)
    (rule_eq : slot.rule = rule) (resumes : Resumes begins stop slot.resume token.index)
    (member : token ∈ stream.tokens.toList) : slot.wants token = true ↔ begins token.index := by
  rw [RuleSlot.wants, rule_eq, Bool.and_eq_true, decide_eq_true_eq]
  constructor
  · rintro ⟨interested, awaited⟩
    by_contra other
    rcases strides.covered token member interested other with ⟨first, before, begun, inside⟩
    exact absurd (resumes.lt_of_covered before begun inside) (Int.not_lt.mpr awaited)
  · intro begun
    refine ⟨strides.wanted token member begun, ?_⟩
    exact resumes.le_of_begins fun first before other => strides.apart _ _ other begun before

theorem resumeAfter_eq (strides : rule.Strides stream begins stop made batch)
    (begun : begins token.index) :
    slot.resumeAfter token.index (some (stop token.index)) = stop token.index := by
  have after : (token.index : Int) < stop token.index := by
    exact_mod_cast strides.after _ begun
  rw [RuleSlot.resumeAfter, if_pos after]

/-- After a call the rule goes on behind the stretch. -/
theorem resumes_call (strides : rule.Strides stream begins stop made batch)
    (begun : begins token.index) :
    Resumes begins stop (slot.resumeAfter token.index (some (stop token.index)))
      (token.index + 1) := by
  rw [strides.resumeAfter_eq begun]
  exact .call begun (strides.after _ begun) fun first before other =>
    strides.apart _ _ other begun before

/-! ### Checking passes -/

/-- What the rule says where a stretch begins. -/
theorem exists_speech? (strides : rule.Strides stream begins stop made batch)
    (rule_eq : slot.rule = rule) (begun : begins token.index) :
    (slot.speech stream token).result = .ok (some (stop token.index)) ∧
      (slot.speech stream token).remarks.map Remark.key =
        if batch token.index = [] then [] else [(made token.index).key rule.id] := by
  rw [RuleSlot.speech, rule_eq]
  rcases strides.said token.index begun slot.options with
    ⟨nothing, program_eq⟩ | ⟨something, program_eq⟩
  · rw [program_eq, if_pos nothing]
    exact ⟨rfl, rfl⟩
  · rcases strides.renders token.index with ⟨message, rendered⟩
    have remark_eq : (made token.index).remark rule.id = .ok ⟨(made token.index).key rule.id,
        message, (made token.index).severity, (made token.index).fixable⟩ := by
      rw [Report.remark, rendered]
      rfl
    rw [program_eq, if_neg something]
    simp only [reportAndFix, RuleProgram.bind, RuleProgram.speech?, remark_eq,
      Bool.false_eq_true, if_false, Option.map_some, Option.getD_some, List.map_cons,
      List.map_nil, and_self]

/-- A checking pass says something about the tokens for which there are batches. -/
theorem keys_remarksFrom (strides : rule.Strides stream begins stop made batch)
    {done rest : List Token} (bounded : stream.Bounded)
    (tokens_eq : stream.tokens.toList = done ++ rest) (rule_eq : slot.rule = rule)
    (resumes : Resumes begins stop slot.resume done.length) :
    (remarksFrom stream [slot] rest).map Remark.key =
      (concerned batch rest).map fun index => (made index).key rule.id := by
  induction rest generalizing done slot with
  | nil => rfl
  | cons token rest ih =>
      have member : token ∈ stream.tokens.toList := by simp [tokens_eq]
      have index_eq : done.length = token.index := bounded.length_eq_index tokens_eq
      rw [index_eq] at resumes
      have split : stream.tokens.toList = (done ++ [token]) ++ rest := by simp [tokens_eq]
      have wants_iff := strides.wants_iff rule_eq resumes member
      have concerned_eq : concerned batch (token :: rest) =
          (if batch token.index = [] then [] else [token.index]) ++ concerned batch rest := by
        by_cases nothing : batch token.index = [] <;> simp [concerned, nothing]
      rw [remarksFrom, List.map_append, List.map_singleton, List.flatMap_singleton, concerned_eq,
        List.map_append]
      have rule_eq' : (slot.moved stream token).rule = rule := by
        rw [RuleSlot.rule_moved, rule_eq]
      by_cases begun : begins token.index
      · rcases strides.exists_speech? rule_eq begun with ⟨result_eq, keys_eq⟩
        have resumesNext : Resumes begins stop (slot.moved stream token).resume
            (done ++ [token]).length := by
          rw [RuleSlot.moved, if_pos (wants_iff.mpr begun), result_eq, List.length_append,
            List.length_singleton, index_eq]
          exact strides.resumes_call begun
        rw [ih split rule_eq' resumesNext, RuleSlot.remarks, if_pos (wants_iff.mpr begun),
          result_eq, keys_eq]
        by_cases nothing : batch token.index = [] <;> simp [nothing]
      · have unwanted := mt wants_iff.mp begun
        have resumesNext : Resumes begins stop (slot.moved stream token).resume
            (done ++ [token]).length := by
          rw [RuleSlot.moved, if_neg unwanted, List.length_append, List.length_singleton, index_eq]
          exact resumes.skip begun
        rw [ih split rule_eq' resumesNext, RuleSlot.remarks, if_neg unwanted,
          if_pos (strides.quiet _ begun)]
        rfl

/-- A check with such a rule finds one problem where each stretch begins that there is a batch
for. -/
theorem exists_findings (strides : rule.Strides stream begins stop made batch)
    {source : String} (known : rule.BuiltinOrFailing) (read : tokenize source = .ok stream)
    (options : List (String × Table)) (maxIterations : Nat) (path : String) :
    ∃ found, (LintSettings.checking [rule] options maxIterations).findings path source =
        .ok found ∧
      (found.map fun diagnostic => (diagnostic.code, diagnostic.tokenIndex)).Perm
        ((concerned batch stream.tokens.toList).map fun index =>
          (rule.id ++ "." ++ (made index).shortCode, (index : Int))) := by
  have bounded := TokenStream.bounded_of_tokenize read
  refine ⟨_, LintSettings.findings_checking (by simpa using known) (by simp) read, ?_⟩
  let slot : RuleSlot := ⟨⟨rule, (options.lookup rule.id).getD [], []⟩, 0⟩
  have keys_eq : (remarksFrom stream [slot] stream.tokens.toList).map Remark.key =
      (concerned batch stream.tokens.toList).map fun index => (made index).key rule.id :=
    strides.keys_remarksFrom bounded (List.nil_append _).symm rfl (.start begins stop)
  have distinct : ((remarksFrom stream [slot] stream.tokens.toList).map Remark.key).Nodup := by
    rw [keys_eq]
    refine List.Nodup.map_on (fun index _ other _ same => ?_) (nodup_concerned bounded batch)
    rw [Report.key, Report.key, strides.about, strides.about, ReportKey.mk.injEq] at same
    exact_mod_cast same.2.1
  have heard_eq : (Dispatcher.ofOptions [rule] fun id => (options.lookup id).getD []).heard stream =
      remarksFrom stream [slot] stream.tokens.toList := by
    rw [Dispatcher.heard, Dispatcher.slots_ofOptions, List.mergeSort_singleton, List.map_singleton]
    exact fresh_eq_self distinct fun _ _ => List.not_mem_nil
  have told : (remarksFrom stream [slot] stream.tokens.toList).map
      (fun remark => (remark.key.code, remark.key.index)) =
        (concerned batch stream.tokens.toList).map fun index =>
          (rule.id ++ "." ++ (made index).shortCode, (index : Int)) := by
    have told := congrArg (List.map fun key : ReportKey => (key.code, key.index)) keys_eq
    rw [List.map_map, List.map_map] at told
    refine told.trans (List.map_congr_left fun index _ => ?_)
    rw [Function.comp_apply, Report.key, strides.about]
  rw [heard_eq, ← told]
  refine ((List.mergeSort_perm _ _).map _).trans ?_
  rw [List.map_map]
  exact .refl _

/-! ### Fixing passes -/

/-- The call on a token, if there is one, makes the batch for it. -/
theorem exists_visitAll (strides : rule.Strides stream begins stop made batch)
    (rule_eq : slot.rule = rule) (resumes : Resumes begins stop slot.resume token.index)
    (member : token ∈ stream.tokens.toList) {trace : PassTrace}
    (mended : trace.pass.Mended stream reported edits) (new : token.index ∉ reported)
    (covers : stream.Covers (batch token.index))
    (apart : ∀ edit ∈ edits, ∀ other ∈ batch token.index, edit.index ≠ other.index) :
    ∃ next : RuleSlot, (visitAll token trace [slot]).1 = [next] ∧ next.rule = rule ∧
      Resumes begins stop next.resume (token.index + 1) ∧
      (visitAll token trace [slot]).2.pass.Mended stream
        (reported ++ if batch token.index = [] then [] else [token.index])
        (edits ++ batch token.index) := by
  subst rule_eq
  by_cases begun : begins token.index
  · have wanted := (strides.wants_iff rfl resumes member).mpr begun
    rcases strides.said token.index begun slot.options with
      ⟨nothing, program_eq⟩ | ⟨something, program_eq⟩
    · refine ⟨{ slot with
        resume := slot.resumeAfter token.index (some (stop token.index)) }, ?_, rfl,
        strides.resumes_call begun, ?_⟩
      all_goals
        simp only [visitAll, wanted, if_true, RuleSlot.visit, mended.stream_eq,
          program_eq, RuleProgram.run]
      rw [if_pos nothing, nothing, List.append_nil, List.append_nil]
      exact mended.betweenCalls
    · rcases mended.run (.together (strides.about _) (strides.fixable _) (strides.renders _)
        something) new covers apart slot.rule.id slot.memory with ⟨after, run_eq, mendedAfter⟩
      refine ⟨{ slot with
        resume := slot.resumeAfter token.index (some (stop token.index)) }, ?_, rfl,
        strides.resumes_call begun, ?_⟩
      all_goals
        simp only [visitAll, wanted, if_true, RuleSlot.visit, mended.stream_eq,
          program_eq, RuleProgram.run_bind_of_ok run_eq, RuleProgram.run]
      rw [if_neg something]
      exact mendedAfter.betweenCalls
  · have unwanted := mt (strides.wants_iff rfl resumes member).mp begun
    refine ⟨slot, ?_, rfl, resumes.skip begun, ?_⟩
    all_goals simp only [visitAll, unwanted, Bool.false_eq_true, if_false]
    rw [strides.quiet _ begun, if_pos rfl, List.append_nil, List.append_nil]
    exact mended

/-- A fixing pass of such a rule makes all batches. -/
theorem dispatch (strides : rule.Strides stream begins stop made batch)
    (separates : stream.Separates batch) (bounded : stream.Bounded) {dispatcher : Dispatcher}
    {context : RuleContext} (sole : dispatcher.contexts = [context])
    (rule_eq : context.rule = rule) :
    (dispatcher.dispatch stream true).2.pass.Mended stream
      (concerned batch stream.tokens.toList) (allEdits batch stream.tokens.toList) := by
  have reached : ∀ done rest : List Token, stream.tokens.toList = done ++ rest →
      ∃ slot : RuleSlot, (done.foldl (fun state token => visitAll token state.2 state.1)
          (dispatcher.slots, ⟨.start stream true, #[], #[]⟩)).1 = [slot] ∧ slot.rule = rule ∧
        Resumes begins stop slot.resume done.length ∧
        (done.foldl (fun state token => visitAll token state.2 state.1)
          (dispatcher.slots, ⟨.start stream true, #[], #[]⟩)).2.pass.Mended stream
            (concerned batch done) (allEdits batch done) := by
    intro done
    induction done using List.reverseRecOn with
    | nil =>
        refine fun _ _ => ⟨context.startPass, ?_, rule_eq, .start begins stop, .start stream⟩
        rw [List.foldl_nil, Dispatcher.slots, sole, List.map_singleton]
    | append_singleton done token ih =>
        intro rest tokens_eq
        rw [List.append_assoc, List.singleton_append] at tokens_eq
        have member : token ∈ stream.tokens.toList := by simp [tokens_eq]
        have index_eq : done.length = token.index := bounded.length_eq_index tokens_eq
        rcases ih _ tokens_eq with ⟨slot, slots_eq, slot_rule, resumes, mended⟩
        rw [index_eq] at resumes
        rw [List.foldl_append, List.foldl_cons, List.foldl_nil, slots_eq, List.length_append,
          List.length_singleton, index_eq, concerned_concat, allEdits_concat]
        exact strides.exists_visitAll slot_rule resumes member mended
          (not_mem_concerned bounded tokens_eq) (separates.covers token member)
          (separates.apart_allEdits bounded tokens_eq)
  rcases reached _ [] (List.append_nil _).symm with ⟨-, -, -, -, mended⟩
  exact mended

end Rule.Strides

end TokenLint
