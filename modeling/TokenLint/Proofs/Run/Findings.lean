import TokenLint.Proofs.Rule.Rendering
import TokenLint.Proofs.Run.Separate

/-!
# What a check finds at a token

A check lists each code at most once for each token, however often a rule reports it there. How
often a rule's code is found at a token is therefore decided by whether the rule says it at all, in
a pass of this rule alone.
-/

namespace TokenLint

/-- Of the remarks with one key the first is kept, unless the key has come up before. -/
theorem countP_key_fresh (seen : List ReportKey) (remarks : List Remark) (key : ReportKey) :
    (fresh seen remarks).countP (fun remark => remark.key = key) =
      if key ∉ seen ∧ key ∈ remarks.map Remark.key then 1 else 0 := by
  induction remarks generalizing seen with
  | nil => simp [fresh]
  | cons first rest ih =>
      by_cases known : first.key ∈ seen
      · have unseen_iff : key ∉ seen ∧ key ∈ (first :: rest).map Remark.key ↔
            key ∉ seen ∧ key ∈ rest.map Remark.key := by
          refine and_congr_right fun unseen => ?_
          have other : key ≠ first.key := by
            rintro rfl
            exact unseen known
          simp [other]
        rw [fresh, if_pos known, ih, if_congr unseen_iff rfl rfl]
      · rw [fresh, if_neg known, List.countP_cons, ih]
        by_cases same : first.key = key
        · subst same
          simp [known]
        · simp [same, Ne.symm same]

/-- The key under which a rule's report is said. -/
def Report.key (ruleId : String) (made : Report) : ReportKey :=
  ⟨ruleId ++ "." ++ made.shortCode, made.index, ""⟩

/-- Reports that are made one after the other are said under their keys. -/
theorem RuleProgram.exists_speech?_reportAll {reports : List Report}
    (renders : ∀ made ∈ reports, made.Renders) (ruleId : String) :
    ∃ remarks, (Rule.reportAll reports).speech? ruleId = some ⟨remarks, .ok none⟩ ∧
      remarks.map Remark.key = reports.map (Report.key ruleId) := by
  induction reports with
  | nil => exact ⟨[], rfl, rfl⟩
  | cons first rest ih =>
      rcases renders first (List.mem_cons_self ..) with ⟨message, rendered⟩
      rcases ih fun made member => renders made (List.mem_cons_of_mem _ member) with
        ⟨remarks, spoken, keys_eq⟩
      refine ⟨_, by rw [Rule.reportAll, speech?, Report.remark, rendered, spoken]; rfl, ?_⟩
      rw [List.map_cons, List.map_cons, keys_eq]
      rfl

/-- A rule that is never moved on says what it says about each token. -/
theorem remarksFrom_of_unmoved {stream : TokenStream} {slot : RuleSlot} {tokens : List Token}
    (unmoved : ∀ token ∈ tokens, slot.moved stream token = slot) :
    remarksFrom stream [slot] tokens = tokens.flatMap (slot.remarks stream) := by
  induction tokens with
  | nil => rfl
  | cons token rest ih =>
      rw [remarksFrom, List.map_singleton, unmoved token (List.mem_cons_self ..),
        ih fun other member => unmoved other (List.mem_cons_of_mem _ member),
        List.flatMap_singleton, List.flatMap_cons]

/-- How often a code is found at a token. -/
def Diagnostic.timesFound (found : List Diagnostic) (code : String) (index : Int) : Nat :=
  found.countP fun diagnostic => diagnostic.code = code && diagnostic.tokenIndex = index

theorem Diagnostic.timesFound_pos {found : List Diagnostic} {diagnostic : Diagnostic}
    (member : diagnostic ∈ found) :
    0 < timesFound found diagnostic.code diagnostic.tokenIndex :=
  List.countP_pos_iff.mpr ⟨diagnostic, member, by simp⟩

/-- A report of a well-named rule is told from all other remarks by its code and its place. -/
theorem Remark.By.key_eq_iff {rule other : Rule} {index : Nat} {remark : Remark}
    {shortCode : String} {place : Int} (made : remark.By other index) (wellNamed : rule.WellNamed) :
    remark.key = ⟨rule.id ++ "." ++ shortCode, place, ""⟩ ↔
      remark.key.code = rule.id ++ "." ++ shortCode ∧ remark.key.index = place := by
  rcases made with ⟨otherCode, otherPlace, key_eq⟩ | key_eq
  · simp [key_eq]
  · have apart := Remark.code_ne_ruleErrorCode wellNamed shortCode
    simp [key_eq, apart.symm]

namespace LintSettings

variable {rules : List Rule} {options : List (String × Table)} {maxIterations : Nat}
  {path source : String} {stream : TokenStream}

/-- What a rule says about the tokens of a stream in a pass of its own. -/
def saysAlone (rule : Rule) (options : List (String × Table)) (stream : TokenStream) :
    List Remark :=
  remarksFrom stream [⟨⟨rule, (options.lookup rule.id).getD [], []⟩, 0⟩] stream.tokens.toList

/-- A rule that makes some reports on each token that it wants to see, and nothing else, says all of
them. -/
theorem keys_saysAlone {rule : Rule} {reports : Nat → List Report}
    (process_eq : ∀ index options,
      rule.process stream index options = Rule.reportAll (reports index))
    (renders : ∀ index, ∀ made ∈ reports index, made.Renders) :
    (saysAlone rule options stream).map Remark.key =
      (stream.tokens.toList.filter fun token => rule.interest.contains token.kind).flatMap
        fun token => (reports token.index).map (Report.key rule.id) := by
  let slot : RuleSlot := ⟨⟨rule, (options.lookup rule.id).getD [], []⟩, 0⟩
  have spoken : ∀ token : Token, (slot.speech stream token).result = .ok none ∧
      (slot.speech stream token).remarks.map Remark.key =
        (reports token.index).map (Report.key rule.id) := by
    intro token
    rcases RuleProgram.exists_speech?_reportAll (renders token.index) rule.id with
      ⟨remarks, spoken, keys_eq⟩
    rw [RuleSlot.speech, process_eq, spoken]
    exact ⟨rfl, keys_eq⟩
  have wants_eq : ∀ token : Token, slot.wants token = rule.interest.contains token.kind := by
    intro token
    simp [slot, RuleSlot.wants]
  have unmoved : ∀ token ∈ stream.tokens.toList, slot.moved stream token = slot := by
    intro token _
    rw [RuleSlot.moved, (spoken token).1]
    exact ite_self slot
  rw [saysAlone, remarksFrom_of_unmoved unmoved, List.map_flatMap]
  generalize stream.tokens.toList = tokens
  induction tokens with
  | nil => rfl
  | cons token rest ih =>
      rw [List.flatMap_cons, ih, List.filter_cons, RuleSlot.remarks, wants_eq, (spoken token).1]
      split
      · rw [List.flatMap_cons, (spoken token).2]
      · rfl

/-- What belongs to a rule of all that is said in a pass is what it says alone. -/
theorem filter_owner_eq_saysAlone (distinct : (rules.map Rule.id).Nodup)
    (wellNamed : ∀ rule ∈ rules, rule.WellNamed) {rule : Rule} (member : rule ∈ rules) :
    (remarksFrom stream (Dispatcher.ofOptions rules fun id => (options.lookup id).getD []).slots
        stream.tokens.toList).filter (fun remark => remark.owner = rule.id) =
      saysAlone rule options stream := by
  rw [filter_owner_remarksFrom (Dispatcher.forall_slots_ofOptions wellNamed),
    Dispatcher.slots_ofOptions, List.filter_map]
  exact congrArg (fun rules : List Rule => remarksFrom stream (rules.map _) _)
    (Rule.filter_id_eq_singleton (Dispatcher.nodup_map_id_mergeSort distinct)
      (List.mem_mergeSort.mpr member))

/-- A check finds a rule's code at a token once if the rule says it there, and not at all
otherwise. -/
theorem exists_findings_checking (known : ∀ rule ∈ rules, rule.BuiltinOrFailing)
    (distinct : (rules.map Rule.id).Nodup) (read : tokenize source = .ok stream) :
    ∃ found, (checking rules options maxIterations).findings path source = .ok found ∧
      ∀ rule ∈ rules, ∀ (shortCode : String) (index : Int),
        Diagnostic.timesFound found (rule.id ++ "." ++ shortCode) index =
          if ⟨rule.id ++ "." ++ shortCode, index, ""⟩ ∈
            (saysAlone rule options stream).map Remark.key then 1 else 0 := by
  refine ⟨_, findings_checking known distinct read, ?_⟩
  intro rule member shortCode index
  have wellNamed : ∀ rule ∈ rules, rule.WellNamed :=
    fun rule member => (known rule member).wellNamed
  have alone := @filter_owner_eq_saysAlone rules options stream distinct wellNamed rule member
  generalize (fun id => (options.lookup id).getD [] : String → Table) = own at alone
  have counted : Diagnostic.timesFound (Diagnostic.sorted
        (((Dispatcher.ofOptions rules own).heard stream).map
          (Pass.start stream false).diagnosticOf))
          (rule.id ++ "." ++ shortCode) index =
      ((Dispatcher.ofOptions rules own).heard stream).countP fun remark =>
        remark.key = ⟨rule.id ++ "." ++ shortCode, index, ""⟩ := by
    rw [Diagnostic.timesFound, Diagnostic.sorted, (List.mergeSort_perm _ _).countP_eq,
      List.countP_map]
    refine List.countP_congr fun remark among => ?_
    rcases exists_by_of_mem_remarksFrom ((fresh_sublist [] _).subset among) with
      ⟨slot, -, token, -, made⟩
    rw [decide_eq_true_eq, made.key_eq_iff (wellNamed rule member), Function.comp_apply,
      Bool.and_eq_true]
    exact and_congr decide_eq_true_iff decide_eq_true_iff
  have said_iff : (⟨rule.id ++ "." ++ shortCode, index, ""⟩ : ReportKey) ∈
        (remarksFrom stream (Dispatcher.ofOptions rules own).slots
          stream.tokens.toList).map Remark.key ↔
      ⟨rule.id ++ "." ++ shortCode, index, ""⟩ ∈
        (saysAlone rule options stream).map Remark.key := by
    simp only [← alone, List.mem_map, List.mem_filter, decide_eq_true_eq]
    constructor
    · rintro ⟨remark, among, key_eq⟩
      have made : remark.By rule 0 := .report shortCode index key_eq
      exact ⟨remark, ⟨among, made.owner_eq (wellNamed rule member)⟩, key_eq⟩
    · rintro ⟨remark, ⟨among, -⟩, key_eq⟩
      exact ⟨remark, among, key_eq⟩
  rw [counted, Dispatcher.heard, countP_key_fresh]
  simp [said_iff]

end LintSettings

end TokenLint
