import TokenLint.Proofs.Lexer.Steps
import TokenLint.Proofs.Run.Lint
import TokenLint.Proofs.Run.Owners

/-!
# Rules do not disturb each other

A check with several rules finds what the checks with each of them alone find, listed
together. Which rules are active, in which order they are given and where one of them
fails makes no difference to what another one finds. A rule may fail at any point of any
call: it then says less, and the failure is one more thing that it says.
-/

namespace TokenLint

namespace RuleProgram

/-- A program that does what another one does, but may fail at any point. -/
inductive CutsShort {α : Type} : RuleProgram α → RuleProgram α → Prop where
  | whole (program : RuleProgram α) : CutsShort program program
  | fail (fault : RuleFault) (program : RuleProgram α) : CutsShort (.fail fault) program
  | report {made : Report} {cut next : Bool → RuleProgram α}
      (rest : ∀ fixNow, CutsShort (cut fixNow) (next fixNow)) :
      CutsShort (.report made cut) (.report made next)
  | begin {cut next : RuleProgram α} (rest : CutsShort cut next) :
      CutsShort (.begin cut) (.begin next)
  | finish {cut next : Bool → RuleProgram α}
      (rest : ∀ accepted, CutsShort (cut accepted) (next accepted)) :
      CutsShort (.finish cut) (.finish next)
  | rollback {cut next : RuleProgram α} (rest : CutsShort cut next) :
      CutsShort (.rollback cut) (.rollback next)
  | edit {place : EditPlace} {index : Int} {text : String} {cut next : Bool → RuleProgram α}
      (rest : ∀ accepted, CutsShort (cut accepted) (next accepted)) :
      CutsShort (.edit place index text cut) (.edit place index text next)
  | inspect {cut next : Pass → RuleProgram α} (rest : ∀ pass, CutsShort (cut pass) (next pass)) :
      CutsShort (.inspect cut) (.inspect next)
  | consult {cut next : Memory → RuleProgram α}
      (rest : ∀ memory, CutsShort (cut memory) (next memory)) :
      CutsShort (.consult cut) (.consult next)
  | remember {memory : Memory} {cut next : RuleProgram α} (rest : CutsShort cut next) :
      CutsShort (.remember memory cut) (.remember memory next)

/-- A program that only reports does so until it fails. -/
theorem CutsShort.isSome_speech? {ruleId : String} {cut whole : RuleProgram (Option Int)}
    (short : cut.CutsShort whole) (speaks : (whole.speech? ruleId).isSome) :
    (cut.speech? ruleId).isSome := by
  induction short with
  | whole program => exact speaks
  | fail fault program => rfl
  | report rest ih =>
      simp only [speech?] at speaks ⊢
      split
      · rename_i remark rendered
        simp only [rendered, Option.isSome_map] at speaks ⊢
        exact ih false speaks
      · rfl
  | _ => cases speaks

end RuleProgram

namespace Rule

/-- A rule that is the same as another one, but may fail at any point of any call. -/
structure CutsShort (rule whole : Rule) : Prop where
  same : rule = { whole with process := rule.process }
  process : ∀ stream index options,
    (rule.process stream index options).CutsShort (whole.process stream index options)

/-- A built-in rule, or one that fails where the built-in rule would not. -/
def BuiltinOrFailing (rule : Rule) : Prop := ∃ whole ∈ Rule.builtin, rule.CutsShort whole

theorem CutsShort.refl (rule : Rule) : rule.CutsShort rule := ⟨rfl, fun _ _ _ => .whole _⟩

theorem BuiltinOrFailing.wellNamed {rule : Rule} (known : rule.BuiltinOrFailing) :
    rule.WellNamed := by
  rcases known with ⟨whole, builtin, short⟩
  rcases wellNamed_of_mem_builtin builtin with ⟨nonempty, dotless, external⟩
  rw [short.same]
  exact ⟨nonempty, dotless, external⟩

theorem BuiltinOrFailing.speaks {rule : Rule} (known : rule.BuiltinOrFailing)
    {stream : TokenStream} (bounded : stream.Bounded) : rule.Speaks stream := by
  rcases known with ⟨whole, builtin, short⟩
  intro index inside options
  apply (short.process stream index options).isSome_speech?
  exact (proposes_of_mem_builtin builtin bounded inside options).isSome_speech? rule.id

theorem pairwise_id_mergeSort (rules : List Rule) :
    (rules.mergeSort fun left right => left.id ≤ right.id).Pairwise fun left right =>
      left.id ≤ right.id := by
  have trans : ∀ first second third : Rule, decide (first.id ≤ second.id) →
      decide (second.id ≤ third.id) → decide (first.id ≤ third.id) := by
    intro first second third before after
    simp only [decide_eq_true_eq] at before after ⊢
    exact String.le_trans before after
  have total : ∀ first second : Rule,
      decide (first.id ≤ second.id) || decide (second.id ≤ first.id) := by
    intro first second
    simpa using String.le_total first.id second.id
  simpa using List.pairwise_mergeSort trans total rules

theorem filter_id_eq_singleton {rules : List Rule} {rule : Rule}
    (distinct : (rules.map Rule.id).Nodup) (member : rule ∈ rules) :
    (rules.filter fun other => other.id = rule.id) = [rule] := by
  induction rules with
  | nil => cases member
  | cons head rest ih =>
      simp only [List.map_cons, List.nodup_cons, List.mem_map, not_exists, not_and] at distinct
      rcases List.mem_cons.mp member with rfl | later
      · have none : (rest.filter fun other => other.id = rule.id) = [] := by
          simpa [List.filter_eq_nil_iff] using distinct.1
        simp [none]
      · have other : head.id ≠ rule.id := fun same => distinct.1 rule later same.symm
        simp [other, ih distinct.2 later]

end Rule

/-- The options of rules by their identifiers. -/
def Value.ofOptions (options : List (String × Table)) : Value :=
  .table (options.map fun entry => (entry.1, .table entry.2))

namespace Dispatcher

theorem optionsFor_ofOptions (options : List (String × Table)) (id : String) :
    optionsFor (.ofOptions options) id = .ok ((options.lookup id).getD []) := by
  have own_eq : (options.map fun entry => (entry.1, Value.table entry.2)).lookup id =
      (options.lookup id).map Value.table := by
    induction options with
    | nil => rfl
    | cons first rest ih =>
        rw [List.map_cons, List.lookup_cons, List.lookup_cons, ih]
        split <;> rfl
  cases options with
  | nil => rfl
  | cons first rest =>
      have entered : (Value.ofOptions (first :: rest)).isTrue := rfl
      rw [optionsFor, if_pos entered]
      simp only [Value.ofOptions, Value.entriesFor, Table.get?, bind, Except.bind, own_eq]
      cases List.lookup id (first :: rest) with
      | none => rfl
      | some own => rfl

/-- The dispatcher of some rules with their options. -/
def ofOptions (rules : List Rule) (own : String → Table) : Dispatcher :=
  ⟨(rules.mergeSort fun left right => left.id ≤ right.id).map fun rule => ⟨rule, own rule.id, []⟩⟩

variable {rules : List Rule} {own : String → Table} {stream : TokenStream} {source : String}

theorem slots_ofOptions (rules : List Rule) (own : String → Table) :
    (ofOptions rules own).slots = (rules.mergeSort fun left right => left.id ≤ right.id).map
      fun rule => ⟨⟨rule, own rule.id, []⟩, 0⟩ := by
  rw [slots, ofOptions, List.map_map]
  rfl

theorem forall_slots_ofOptions {property : Rule → Prop} (holds : ∀ rule ∈ rules, property rule) :
    ∀ slot ∈ (ofOptions rules own).slots, property slot.rule := by
  intro slot member
  rw [slots_ofOptions] at member
  rcases List.mem_map.mp member with ⟨rule, sortedMem, rfl⟩
  exact holds rule (List.mem_mergeSort.mp sortedMem)

/-- What belongs to a rule of all that a pass keeps is what a pass of this rule alone keeps. -/
theorem filter_owner_heard (distinct : (rules.map Rule.id).Nodup)
    (wellNamed : ∀ rule ∈ rules, rule.WellNamed) {rule : Rule} (member : rule ∈ rules) :
    (((ofOptions rules own).heard stream).filter fun remark => remark.owner = rule.id) =
      (ofOptions [rule] own).heard stream := by
  have lone : ((ofOptions rules own).slots.filter fun slot => slot.rule.id = rule.id) =
      (ofOptions [rule] own).slots := by
    rw [slots_ofOptions, slots_ofOptions, List.filter_map, List.mergeSort_singleton]
    exact congrArg (List.map _) (Rule.filter_id_eq_singleton (nodup_map_id_mergeSort distinct)
      (List.mem_mergeSort.mpr member))
  rw [heard, filter_owner_fresh, filter_owner_remarksFrom (forall_slots_ofOptions wellNamed), lone]
  rfl

/-- Rules that meet at one place and code of a pass take turns in the order of their identifiers. -/
theorem pairwise_owner_heard (wellNamed : ∀ rule ∈ rules, rule.WellNamed)
    (read : tokenize source = .ok stream) :
    ((ofOptions rules own).heard stream).Pairwise fun first second =>
      (Pass.start stream false).positionOf first.key.index =
          (Pass.start stream false).positionOf second.key.index →
        first.key.code = second.key.code → first.owner ≤ second.owner := by
  have bounded := TokenStream.bounded_of_tokenize read
  have inOrder : (ofOptions rules own).slots.Pairwise fun first second =>
      first.rule.id ≤ second.rule.id := by
    rw [slots_ofOptions, List.pairwise_map]
    exact Rule.pairwise_id_mergeSort rules
  have apart : stream.tokens.toList.Pairwise fun first second =>
      (Pass.start stream false).positionOf first.index ≠
        (Pass.start stream false).positionOf second.index := by
    have before := TokenStream.pairwise_before_of_tokenize read
    rw [List.pairwise_map] at before
    refine before.imp_of_mem fun {first second} firstMem secondMem earlier => ?_
    rw [Pass.positionOf_index bounded firstMem, Pass.positionOf_index bounded secondMem]
    exact earlier.ne
  exact (pairwise_owner_remarksFrom (forall_slots_ofOptions wellNamed) inOrder apart).sublist
    (fresh_sublist [] _)

theorem owner_mem_of_mem_heard (wellNamed : ∀ rule ∈ rules, rule.WellNamed) {remark : Remark}
    (member : remark ∈ (ofOptions rules own).heard stream) :
    remark.owner ∈ (rules.mergeSort fun left right => left.id ≤ right.id).map Rule.id := by
  rcases exists_by_of_mem_remarksFrom ((fresh_sublist [] _).subset member) with
    ⟨slot, among, token, -, made⟩
  rw [made.owner_eq (forall_slots_ofOptions wellNamed slot among)]
  rw [slots_ofOptions] at among
  rcases List.mem_map.mp among with ⟨rule, sortedMem, rfl⟩
  exact List.mem_map_of_mem sortedMem

end Dispatcher

namespace LintSettings

variable {settings : LintSettings} {path source : String} {dispatcher : Dispatcher}
  {stream : TokenStream}

/-- What a run over one source finds, fixed problems apart. -/
def findings (settings : LintSettings) (path source : String) :
    Except RunFault (List Diagnostic) :=
  (settings.lint path source).map fun run => run.result.diagnostics

theorem findings_of_speaks (checking : settings.fix = false)
    (made : Dispatcher.ofRules settings.rules settings.options = .ok dispatcher)
    (read : tokenize source = .ok stream)
    (speaks : ∀ rule ∈ dispatcher.rules, rule.Speaks stream) :
    settings.findings path source = .ok (Diagnostic.sorted
      ((dispatcher.heard stream).map (Pass.start stream false).diagnosticOf)) := by
  have ended : settings.passes (.start dispatcher source stream) =
      .ok ((FixProgress.start dispatcher source stream).finish
        ((FixProgress.start dispatcher source stream).pass false).2 true false none) := by
    simp [passes, checking]
  have reports_eq := Dispatcher.reports_dispatch_of_speaks speaks
    (TokenStream.bounded_of_tokenize read)
  rw [findings, lint_eq_of_passes made read ended]
  have found_eq : (dispatcher.dispatch stream false).2.pass.sorted = Diagnostic.sorted
      ((dispatcher.heard stream).map (Pass.start stream false).diagnosticOf) := by
    rw [Pass.sorted, reports_eq]
  refine congrArg Except.ok ((FixRun.remaining_of_clean settings.maxIterations rfl rfl).trans ?_)
  refine Eq.trans ?_ found_eq
  apply List.filter_eq_self.mpr
  intro diagnostic member
  have reported : diagnostic ∈
      (dispatcher.heard stream).map (Pass.start stream false).diagnosticOf := by
    rw [← reports_eq]
    exact List.mem_mergeSort.mp member
  rcases List.mem_map.mp reported with ⟨remark, -, rfl⟩
  simp [Pass.diagnosticOf]

/-- Settings that only look for problems. -/
def checking (rules : List Rule) (options : List (String × Table)) (maxIterations : Nat) :
    LintSettings :=
  ⟨rules, .ofOptions options, false, maxIterations⟩

/-- A check finds what its pass keeps. -/
theorem findings_checking {rules : List Rule} {options : List (String × Table)}
    {maxIterations : Nat} {path source : String} {stream : TokenStream}
    (known : ∀ rule ∈ rules, rule.BuiltinOrFailing) (distinct : (rules.map Rule.id).Nodup)
    (read : tokenize source = .ok stream) :
    (checking rules options maxIterations).findings path source = .ok (Diagnostic.sorted
      (((Dispatcher.ofOptions rules fun id => (options.lookup id).getD []).heard stream).map
        (Pass.start stream false).diagnosticOf)) := by
  have made : Dispatcher.ofRules rules (.ofOptions options) =
      .ok (.ofOptions rules fun id => (options.lookup id).getD []) :=
    Dispatcher.ofRules_of_optionsFor distinct (Dispatcher.optionsFor_ofOptions options)
  have active := Dispatcher.rules_of_ofRules made
  apply findings_of_speaks rfl made read
  intro rule member
  rw [active] at member
  exact (known rule (List.mem_mergeSort.mp member)).speaks (TokenStream.bounded_of_tokenize read)

/-- A check with several rules finds what the checks with each of them alone find, by line, column
and code, and with the rules in the order of their identifiers where these agree. What a rule finds
alone does not depend on the others: not on which they are, nor on their order, nor on where they
fail. -/
theorem check_merges_alone {source : String} {stream : TokenStream}
    (read : tokenize source = .ok stream) (options : List (String × Table)) (maxIterations : Nat)
    (path : String) :
    ∃ alone : Rule → List Diagnostic, ∀ rules : List Rule,
      (∀ rule ∈ rules, rule.BuiltinOrFailing) → (rules.map Rule.id).Nodup →
        (∀ rule ∈ rules,
          (checking [rule] options maxIterations).findings path source = .ok (alone rule)) ∧
        (checking rules options maxIterations).findings path source = .ok (Diagnostic.sorted
          ((rules.mergeSort fun left right => left.id ≤ right.id).flatMap alone)) := by
  let own : String → Table := fun id => (options.lookup id).getD []
  let diagnosticOf := (Pass.start stream false).diagnosticOf
  refine ⟨fun rule => Diagnostic.sorted
    (((Dispatcher.ofOptions [rule] own).heard stream).map diagnosticOf), ?_⟩
  intro rules known distinct
  refine ⟨?_, ?_⟩
  · intro rule member
    apply findings_checking _ (by simp) read
    intro other only
    rw [List.mem_singleton.mp only]
    exact known rule member
  · have wellNamed : ∀ rule ∈ rules, rule.WellNamed := fun rule member =>
      (known rule member).wellNamed
    have merged := sorted_flatMap_filter_owner (Dispatcher.nodup_map_id_mergeSort distinct)
      (List.pairwise_map.mpr (Rule.pairwise_id_mergeSort rules))
      (fun remark => Dispatcher.owner_mem_of_mem_heard wellNamed)
      (@Dispatcher.pairwise_owner_heard rules own stream source wellNamed read)
    rw [List.flatMap_map] at merged
    rw [findings_checking known distinct read, ← merged]
    -- Rule by rule, what the joint pass keeps is what the pass of the rule alone keeps.
    refine congrArg (fun found => Except.ok (Diagnostic.sorted found)) ?_
    refine List.flatMap_congr fun rule sortedMem => ?_
    rw [Dispatcher.filter_owner_heard distinct wellNamed (List.mem_mergeSort.mp sortedMem)]

/-- A rule about arrays that fails on every token that it wants to see. -/
def brokenLongArray : Rule where
  __ := Rule.longArray
  process _ _ _ := .fail (.raised "RuntimeError" "broken")

/-- A rule that fails beside another one leaves the other's findings as they are. -/
theorem check_merges_alone_failing :
    let rules : List Rule := [.olderRandom, brokenLongArray]
    ∃ alone : Rule → List Diagnostic,
      (alone .olderRandom).map Diagnostic.code =
        ["random_are_not_mersenne_twister.ReplacementMissing"] ∧
      (alone brokenLongArray).map Diagnostic.code = [Diagnostic.ruleErrorCode] ∧
      (checking [.olderRandom] [] 1).findings "a" "<?php rand(array());" =
        .ok (alone .olderRandom) ∧
      (checking rules [] 1).findings "a" "<?php rand(array());" = .ok (Diagnostic.sorted
        ((rules.mergeSort fun left right => left.id ≤ right.id).flatMap alone)) := by
  intro rules
  have readable : (tokenize "<?php rand(array());").isOk = true := by decide +kernel
  have known : ∀ rule ∈ rules, rule.BuiltinOrFailing := by
    intro rule member
    simp only [rules, List.mem_cons, List.not_mem_nil, or_false] at member
    rcases member with rfl | rfl
    · exact ⟨.olderRandom, by simp [Rule.builtin], .refl .olderRandom⟩
    · exact ⟨.longArray, by simp [Rule.builtin], rfl, fun _ _ _ => .fail _ _⟩
  have distinct : (rules.map Rule.id).Nodup := by decide
  have randomCodes : ((checking [.olderRandom] [] 1).findings "a"
      "<?php rand(array());").toOption.map (List.map Diagnostic.code) =
        some ["random_are_not_mersenne_twister.ReplacementMissing"] := by decide +kernel
  have brokenCodes : ((checking [brokenLongArray] [] 1).findings "a"
      "<?php rand(array());").toOption.map (List.map Diagnostic.code) =
        some [Diagnostic.ruleErrorCode] := by decide +kernel
  cases read : tokenize "<?php rand(array());" with
  | error failure =>
      rw [read] at readable
      cases readable
  | ok stream =>
      rcases check_merges_alone read [] 1 "a" with ⟨alone, merges⟩
      rcases merges rules known distinct with ⟨lone, together⟩
      have random := lone .olderRandom (by simp [rules])
      have broken := lone brokenLongArray (by simp [rules])
      rw [random] at randomCodes
      rw [broken] at brokenCodes
      exact ⟨alone, Option.some.inj randomCodes, Option.some.inj brokenCodes, random, together⟩

end LintSettings

end TokenLint
