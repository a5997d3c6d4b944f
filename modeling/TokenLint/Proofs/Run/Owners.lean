import TokenLint.Proofs.Diagnostic.Order
import TokenLint.Proofs.Run.Remarks

/-!
# Whose remark it is

The key of a remark tells which rule made it, so one rule's remarks are never taken for
another's. What belongs to a rule of all that is said in a checking pass is therefore what
is said in a pass of this rule alone. Two rules meet at one place and code only by failing
on one token; there they take turns in the order of their identifiers.
-/

namespace TokenLint

/-- The identifier of the rule that a key belongs to: where the origin is left open, the part of
the code before its first dot. -/
def ReportKey.owner (key : ReportKey) : String :=
  if key.origin = "" then String.ofList (key.code.toList.takeWhile (· ≠ '.')) else key.origin

/-- A rule whose codes and failures cannot be taken for those of another rule or of the program. -/
structure Rule.WellNamed (rule : Rule) : Prop where
  nonempty : rule.id ≠ ""
  dotless : '.' ∉ rule.id.toList
  external : rule.id ≠ "internal"

theorem Rule.wellNamed_of_mem_builtin {rule : Rule} (builtin : rule ∈ Rule.builtin) :
    rule.WellNamed := by
  have named : ∀ rule ∈ Rule.builtin,
      rule.id ≠ "" ∧ '.' ∉ rule.id.toList ∧ rule.id ≠ "internal" := by decide
  rcases named rule builtin with ⟨nonempty, dotless, external⟩
  exact ⟨nonempty, dotless, external⟩

namespace Remark

/-- A remark that a rule made about some token, or about its failure on the token at an index. -/
inductive By (rule : Rule) (index : Nat) (remark : Remark) : Prop where
  | report (shortCode : String) (place : Int)
      (key_eq : remark.key = ⟨rule.id ++ "." ++ shortCode, place, ""⟩)
  | failure (key_eq : remark.key = ⟨Diagnostic.ruleErrorCode, index, rule.id⟩)

/-- The rule that a remark is made by. -/
def owner (remark : Remark) : String := remark.key.owner

variable {rule other : Rule} {index later : Nat} {first second : Remark}

theorem takeWhile_code (wellNamed : rule.WellNamed) (shortCode : String) :
    String.ofList ((rule.id ++ "." ++ shortCode).toList.takeWhile (· ≠ '.')) = rule.id := by
  have dotless : ∀ char ∈ rule.id.toList, decide (char ≠ '.') := by
    intro char member
    simp only [decide_eq_true_eq]
    rintro rfl
    exact wellNamed.dotless member
  rw [String.toList_append, String.toList_append, List.append_assoc,
    List.takeWhile_append_of_pos dotless]
  simp

/-- The key of a remark tells which rule made it. -/
theorem By.owner_eq (made : first.By rule index) (wellNamed : rule.WellNamed) :
    first.owner = rule.id := by
  rcases made with ⟨shortCode, place, key_eq⟩ | key_eq
  · simp only [owner, ReportKey.owner, key_eq, if_true]
    exact takeWhile_code wellNamed shortCode
  · simp only [owner, ReportKey.owner, key_eq, wellNamed.nonempty, if_false]

theorem code_ne_ruleErrorCode (wellNamed : rule.WellNamed) (shortCode : String) :
    rule.id ++ "." ++ shortCode ≠ Diagnostic.ruleErrorCode := by
  intro same
  have owner_eq := takeWhile_code wellNamed shortCode
  rw [same] at owner_eq
  exact wellNamed.external (owner_eq.symm.trans (by decide))

/-- Two remarks with one code at one place are in the order of their rules, unless they tell of
failures at different places. -/
theorem By.owner_le {positionOf : Int → Position} (firstMade : first.By rule index)
    (secondMade : second.By other later) (firstNamed : rule.WellNamed)
    (secondNamed : other.WellNamed)
    (turn : rule.id ≤ other.id ∨ positionOf index ≠ positionOf later)
    (place : positionOf first.key.index = positionOf second.key.index)
    (code : first.key.code = second.key.code) : first.owner ≤ second.owner := by
  rw [firstMade.owner_eq firstNamed, secondMade.owner_eq secondNamed]
  -- Equal codes leave two reports of one rule, or two failures.
  rcases firstMade with ⟨shortCode, firstPlace, firstKey⟩ | firstKey
  · rcases secondMade with ⟨secondCode, secondPlace, secondKey⟩ | secondKey
    · rw [firstKey, secondKey] at code
      have same : rule.id = other.id := by
        rw [← takeWhile_code firstNamed shortCode, ← takeWhile_code secondNamed secondCode]
        exact congrArg (fun code : String => String.ofList (code.toList.takeWhile (· ≠ '.'))) code
      simp only [same, String.le_refl]
    · rw [firstKey, secondKey] at code
      exact absurd code (code_ne_ruleErrorCode firstNamed shortCode)
  · rcases secondMade with ⟨secondCode, secondPlace, secondKey⟩ | secondKey
    · rw [firstKey, secondKey] at code
      exact absurd code.symm (code_ne_ruleErrorCode secondNamed secondCode)
    · rw [firstKey, secondKey] at place
      exact turn.resolve_right fun apart => apart place

end Remark

theorem RuleProgram.by_of_speech? {rule : Rule} {program : RuleProgram (Option Int)}
    {speech : Speech} (spoken : program.speech? rule.id = some speech) (index : Nat) :
    ∀ remark ∈ speech.remarks, remark.By rule index := by
  induction program generalizing speech with
  | done answer =>
      cases spoken
      simp
  | fail fault =>
      cases spoken
      simp
  | report made next ih =>
      simp only [speech?] at spoken
      split at spoken
      · rename_i remark rendered
        rcases Option.map_eq_some_iff.mp spoken with ⟨rest, restSpoken, rfl⟩
        intro other member
        rcases List.mem_cons.mp member with rfl | later
        · simp only [Report.remark, Except.map] at rendered
          split at rendered
          · cases rendered
          · cases rendered
            exact .report made.shortCode made.index rfl
        · exact ih false restSpoken other later
      · cases spoken
        simp
  | _ => cases spoken

section Slots

variable {stream : TokenStream} {token : Token} {slots : List RuleSlot} {tokens : List Token}

theorem RuleSlot.by_of_mem_remarks {slot : RuleSlot} {remark : Remark}
    (member : remark ∈ slot.remarks stream token) : remark.By slot.rule token.index := by
  have spokenBy : ∀ remark ∈ (slot.speech stream token).remarks,
      remark.By slot.rule token.index := by
    intro remark among
    simp only [speech] at among
    cases spoken : (slot.rule.process stream token.index slot.options).speech? slot.rule.id with
    | none =>
        rw [spoken] at among
        cases among
    | some speech =>
        rw [spoken] at among
        exact RuleProgram.by_of_speech? spoken token.index remark among
  simp only [remarks] at member
  split at member
  · split at member
    · exact spokenBy remark member
    · rcases List.mem_append.mp member with among | last
      · exact spokenBy remark among
      · rw [List.mem_singleton.mp last]
        exact .failure rfl
  · cases member

theorem exists_by_of_mem_remarksFrom {remark : Remark}
    (member : remark ∈ remarksFrom stream slots tokens) :
    ∃ slot ∈ slots, ∃ token ∈ tokens, remark.By slot.rule token.index := by
  induction tokens generalizing slots with
  | nil => cases member
  | cons token rest ih =>
      rcases List.mem_append.mp member with now | later
      · rcases List.mem_flatMap.mp now with ⟨slot, among, made⟩
        exact ⟨slot, among, token, List.mem_cons_self .., slot.by_of_mem_remarks made⟩
      · rcases ih later with ⟨moved, movedMem, token, tokenMem, made⟩
        rcases List.mem_map.mp movedMem with ⟨slot, among, rfl⟩
        rw [RuleSlot.rule_moved] at made
        exact ⟨slot, among, token, List.mem_cons_of_mem _ tokenMem, made⟩

theorem wellNamed_map_moved (wellNamed : ∀ slot ∈ slots, slot.rule.WellNamed) :
    ∀ slot ∈ slots.map (RuleSlot.moved stream token), slot.rule.WellNamed := by
  intro slot member
  rcases List.mem_map.mp member with ⟨before, among, rfl⟩
  rw [RuleSlot.rule_moved]
  exact wellNamed before among

/-- What belongs to a rule of all that is said about a token is what the rule says about it. -/
theorem filter_owner_flatMap_remarks (wellNamed : ∀ slot ∈ slots, slot.rule.WellNamed)
    (id : String) :
    ((slots.flatMap (RuleSlot.remarks stream token)).filter fun remark => remark.owner = id) =
      (slots.filter fun slot => slot.rule.id = id).flatMap (RuleSlot.remarks stream token) := by
  induction slots with
  | nil => rfl
  | cons slot rest ih =>
      have owned : ∀ remark ∈ slot.remarks stream token, remark.owner = slot.rule.id := by
        intro remark member
        exact (slot.by_of_mem_remarks member).owner_eq (wellNamed slot (List.mem_cons_self ..))
      have others := ih fun other member => wellNamed other (List.mem_cons_of_mem _ member)
      rw [List.flatMap_cons, List.filter_append, others]
      by_cases own : slot.rule.id = id
      · have all : ((slot.remarks stream token).filter fun remark => remark.owner = id) =
            slot.remarks stream token := by
          rw [List.filter_eq_self]
          intro remark member
          simp [owned remark member, own]
        simp [all, own]
      · have none : ((slot.remarks stream token).filter fun remark => remark.owner = id) = [] := by
          rw [List.filter_eq_nil_iff]
          intro remark member
          simp [owned remark member, own]
        simp [none, own]

/-- What belongs to a rule of all that is said in a pass is what it says alone. -/
theorem filter_owner_remarksFrom (wellNamed : ∀ slot ∈ slots, slot.rule.WellNamed) (id : String) :
    ((remarksFrom stream slots tokens).filter fun remark => remark.owner = id) =
      remarksFrom stream (slots.filter fun slot => slot.rule.id = id) tokens := by
  induction tokens generalizing slots with
  | nil => rfl
  | cons token rest ih =>
      have moved_eq : ((slots.map (RuleSlot.moved stream token)).filter fun slot =>
          slot.rule.id = id) =
            (slots.filter fun slot => slot.rule.id = id).map (RuleSlot.moved stream token) := by
        rw [List.filter_map]
        simp [Function.comp_def]
      simp only [remarksFrom, List.filter_append]
      rw [filter_owner_flatMap_remarks wellNamed, ih (wellNamed_map_moved wellNamed), moved_eq]

/-- Rules that meet at one place and code take turns in the order of their identifiers. -/
theorem pairwise_owner_remarksFrom {positionOf : Int → Position}
    (wellNamed : ∀ slot ∈ slots, slot.rule.WellNamed)
    (inOrder : slots.Pairwise fun first second => first.rule.id ≤ second.rule.id)
    (apart : tokens.Pairwise fun first second =>
      positionOf first.index ≠ positionOf second.index) :
    (remarksFrom stream slots tokens).Pairwise fun first second =>
      positionOf first.key.index = positionOf second.key.index →
        first.key.code = second.key.code → first.owner ≤ second.owner := by
  induction tokens generalizing slots with
  | nil => exact .nil
  | cons token rest ih =>
      rw [remarksFrom, List.pairwise_append, List.pairwise_flatMap]
      -- Two remarks may come from one call, from two calls on this token, both from later tokens,
      -- or one from this token and one from a later one.
      refine ⟨⟨?_, ?_⟩, ?_, ?_⟩
      · intro slot member
        refine List.pairwise_of_forall_mem_list fun first firstMem second secondMem => ?_
        exact (slot.by_of_mem_remarks firstMem).owner_le (slot.by_of_mem_remarks secondMem)
          (wellNamed slot member) (wellNamed slot member) (.inl (String.le_refl slot.rule.id))
      · refine inOrder.imp_of_mem fun {slot other} member otherMember turn => ?_
        intro first firstMem second secondMem
        exact (slot.by_of_mem_remarks firstMem).owner_le (other.by_of_mem_remarks secondMem)
          (wellNamed slot member) (wellNamed other otherMember) (.inl turn)
      · apply ih (wellNamed_map_moved wellNamed)
        · rw [List.pairwise_map]
          simpa using inOrder
        · exact apart.of_cons
      · intro first firstMem second secondMem
        rcases List.mem_flatMap.mp firstMem with ⟨slot, member, made⟩
        rcases exists_by_of_mem_remarksFrom secondMem with
          ⟨other, otherMember, later, laterMem, laterMade⟩
        have apartHere := List.rel_of_pairwise_cons apart laterMem
        exact (slot.by_of_mem_remarks made).owner_le laterMade (wellNamed slot member)
          (wellNamed_map_moved wellNamed other otherMember) (.inr apartHere)

end Slots

/-- One rule's remarks are kept or dropped whatever the others have said. -/
theorem filter_owner_fresh (seen : List ReportKey) (remarks : List Remark) (id : String) :
    ((fresh seen remarks).filter fun remark => remark.owner = id) =
      fresh seen (remarks.filter fun remark => remark.owner = id) := by
  induction remarks generalizing seen with
  | nil => rfl
  | cons first rest ih =>
      by_cases own : first.owner = id
      · by_cases known : first.key ∈ seen
        · simp [fresh, own, known, ih]
        · simp [fresh, own, known, ih]
      · by_cases known : first.key ∈ seen
        · simp [fresh, own, known, ih]
        · -- The key is now known, but it belongs to another rule and does not come up again.
          have unused : ∀ remark ∈ rest.filter fun remark => remark.owner = id,
              remark.key ∈ first.key :: seen ↔ remark.key ∈ seen := by
            intro remark member
            have owned : remark.owner = id := by simpa using (List.mem_filter.mp member).2
            have other : remark.key ≠ first.key := fun same =>
              own ((congrArg ReportKey.owner same).symm.trans owned)
            simp [other]
          simp [fresh, own, known, ih, fresh_congr unused]

/-- The remarks that a pass keeps may be listed rule by rule and then listed together. -/
theorem sorted_flatMap_filter_owner {pass : Pass} {remarks : List Remark} {ids : List String}
    (distinct : ids.Nodup) (inOrder : ids.Pairwise (· ≤ ·))
    (owned : ∀ remark ∈ remarks, remark.owner ∈ ids)
    (turns : remarks.Pairwise fun first second =>
      pass.positionOf first.key.index = pass.positionOf second.key.index →
        first.key.code = second.key.code → first.owner ≤ second.owner) :
    Diagnostic.sorted (ids.flatMap fun id => Diagnostic.sorted
        ((remarks.filter fun remark => remark.owner = id).map pass.diagnosticOf)) =
      Diagnostic.sorted (remarks.map pass.diagnosticOf) := by
  have sorted_map : ∀ part : List Remark, Diagnostic.sorted (part.map pass.diagnosticOf) =
      (part.mergeSort fun first second =>
        (pass.diagnosticOf first).listedBefore (pass.diagnosticOf second)).map
          pass.diagnosticOf := by
    intro part
    symm
    apply List.map_mergeSort
    intro first _ second _
    rfl
  simp only [sorted_map, ← List.map_flatMap]
  refine congrArg (List.map pass.diagnosticOf) (mergeSort_flatMap_filter_owner ?_ ?_ distinct
    inOrder owned ?_)
  · intro first second third
    exact Diagnostic.listedBefore_trans
  · intro first second
    exact Diagnostic.listedBefore_total _ _
  · refine turns.imp fun turn before after => ?_
    rcases Diagnostic.position_code_eq_of_listedBefore before after with ⟨place, code⟩
    exact turn place code

end TokenLint
