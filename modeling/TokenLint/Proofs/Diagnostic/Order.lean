import TokenLint.Diagnostic.Basic
import Mathlib.Data.List.Basic

/-!
# The order of diagnostics

Sorting keeps the order of diagnostics that are listed at the same place: those with the
same position and code. A sorted list is therefore fixed by what it has at each place and
in which order. So the list can be split among owners, each part sorted, and the parts
sorted together again without a change, as long as the owners that meet at a place take
turns in their own order there.
-/

namespace TokenLint

section StableSort

variable {α : Type} {le : α → α → Bool}

/-- Elements that are in order among themselves are not reordered by sorting. -/
theorem filter_mergeSort {chosen : α → Bool} {list : List α}
    (trans : ∀ a b c, le a b → le b c → le a c) (total : ∀ a b, le a b || le b a)
    (inOrder : (list.filter chosen).Pairwise fun a b => le a b) :
    (list.mergeSort le).filter chosen = list.filter chosen := by
  have kept : (list.filter chosen).Sublist (list.mergeSort le) :=
    List.sublist_mergeSort trans total inOrder List.filter_sublist
  have filtered := kept.filter chosen
  simp only [List.filter_filter, Bool.and_self] at filtered
  refine (filtered.eq_of_length ?_).symm
  exact ((List.mergeSort_perm list le).symm.filter chosen).length_eq

/-- Elements that stand at one place are in order, whatever their order is. -/
theorem pairwise_filter_alike (trans : ∀ a b c, le a b → le b c → le a c) (element : α)
    (list : List α) :
    (list.filter fun other => le element other && le other element).Pairwise fun a b => le a b := by
  rw [List.pairwise_filter]
  refine List.pairwise_of_forall fun first second firstAlike secondAlike => ?_
  simp only [Bool.and_eq_true] at firstAlike secondAlike
  exact trans _ _ _ firstAlike.2 secondAlike.1

theorem mem_of_filter_alike_eq (refl : ∀ a, le a a) {first second : List α}
    (alike : ∀ element, (first.filter fun other => le element other && le other element) =
      second.filter fun other => le element other && le other element)
    {element : α} (member : element ∈ first) : element ∈ second := by
  have place : element ∈ first.filter fun other => le element other && le other element := by
    simp [member, refl element]
  rw [alike element] at place
  exact (List.mem_filter.mp place).1

/-- Sorted lists that have the same elements at each place, in the same order, are equal. -/
theorem eq_of_filter_alike_eq (refl : ∀ a, le a a) {first second : List α}
    (firstSorted : first.Pairwise fun a b => le a b)
    (secondSorted : second.Pairwise fun a b => le a b)
    (alike : ∀ element, (first.filter fun other => le element other && le other element) =
      second.filter fun other => le element other && le other element) : first = second := by
  induction first generalizing second with
  | nil =>
      refine (List.eq_nil_iff_forall_not_mem.mpr fun element member => ?_).symm
      cases mem_of_filter_alike_eq refl (fun element => (alike element).symm) member
  | cons head rest ih =>
      have headMem := mem_of_filter_alike_eq refl alike (List.mem_cons_self ..)
      rcases List.exists_cons_of_ne_nil (List.ne_nil_of_mem headMem) with ⟨other, others, rfl⟩
      have otherMem := mem_of_filter_alike_eq refl (fun element => (alike element).symm)
        (List.mem_cons_self : other ∈ other :: others)
      -- The two heads stand at one place, which is the first of both lists.
      have forth : le head other := by
        rcases List.mem_cons.mp otherMem with rfl | later
        · exact refl other
        · exact List.rel_of_pairwise_cons firstSorted later
      have back : le other head := by
        rcases List.mem_cons.mp headMem with rfl | later
        · exact refl head
        · exact List.rel_of_pairwise_cons secondSorted later
      have heads := alike head
      simp only [List.filter_cons, refl head, forth, back, Bool.and_self, if_true] at heads
      cases (List.cons.inj heads).1
      refine congrArg (head :: ·) (ih firstSorted.of_cons secondSorted.of_cons fun element => ?_)
      have place := alike element
      simp only [List.filter_cons] at place
      split at place
      · exact (List.cons.inj place).2
      · exact place

/-- Lists that have the same elements at each place, in the same order, are sorted alike. -/
theorem mergeSort_eq_of_filter_alike_eq (trans : ∀ a b c, le a b → le b c → le a c)
    (total : ∀ a b, le a b || le b a) {first second : List α}
    (alike : ∀ element, (first.filter fun other => le element other && le other element) =
      second.filter fun other => le element other && le other element) :
    first.mergeSort le = second.mergeSort le := by
  have refl : ∀ a, le a a := fun a => by simpa using total a a
  refine eq_of_filter_alike_eq refl (List.pairwise_mergeSort trans total first)
    (List.pairwise_mergeSort trans total second) fun element => ?_
  rw [filter_mergeSort trans total (pairwise_filter_alike trans element first),
    filter_mergeSort trans total (pairwise_filter_alike trans element second), alike element]

/-- Lists are sorted alike exactly if they have the same elements at each place, in the same
order. -/
theorem mergeSort_eq_iff (trans : ∀ a b c, le a b → le b c → le a c)
    (total : ∀ a b, le a b || le b a) {first second : List α} :
    first.mergeSort le = second.mergeSort le ↔
      ∀ element, (first.filter fun other => le element other && le other element) =
        second.filter fun other => le element other && le other element := by
  refine ⟨fun same element => ?_, mergeSort_eq_of_filter_alike_eq trans total⟩
  rw [← filter_mergeSort trans total (pairwise_filter_alike trans element first),
    ← filter_mergeSort trans total (pairwise_filter_alike trans element second), same]

end StableSort

section Owners

variable {α : Type} {owner : α → String}

theorem filter_append_filter_not {chosen : α → Bool} {list : List α}
    (front : list.Pairwise fun a b => chosen b → chosen a) :
    (list.filter chosen ++ list.filter fun element => !chosen element) = list := by
  induction list with
  | nil => rfl
  | cons head rest ih =>
      have split := ih front.of_cons
      by_cases taken : chosen head
      · simp [taken, split]
      · have untaken : ∀ element ∈ rest, ¬chosen element := fun element member =>
          mt (List.rel_of_pairwise_cons front member) taken
        have taken_eq : rest.filter chosen = [] := List.filter_eq_nil_iff.mpr untaken
        have left_eq : (rest.filter fun element => !chosen element) = rest :=
          List.filter_eq_self.mpr (by simpa using untaken)
        simp [taken, taken_eq, left_eq]

/-- A list whose owners take turns in their own order consists of their parts. -/
theorem flatMap_filter_owner {owners : List String} {list : List α} (distinct : owners.Nodup)
    (inOrder : owners.Pairwise (· ≤ ·)) (owned : ∀ element ∈ list, owner element ∈ owners)
    (turns : list.Pairwise fun a b => owner a ≤ owner b) :
    (owners.flatMap fun name => list.filter fun element => owner element = name) = list := by
  induction owners generalizing list with
  | nil =>
      refine (List.eq_nil_iff_forall_not_mem.mpr fun element member => ?_).symm
      cases owned element member
  | cons name rest ih =>
      rw [List.nodup_cons] at distinct
      have first : ∀ element ∈ list, name ≤ owner element := by
        intro element member
        rcases List.mem_cons.mp (owned element member) with same | later
        · simp only [same, String.le_refl]
        · exact List.rel_of_pairwise_cons inOrder later
      have front : list.Pairwise fun a b => decide (owner b = name) → decide (owner a = name) := by
        refine turns.imp_of_mem fun {a b} aMem _ turn bOwned => ?_
        simp only [decide_eq_true_eq] at bOwned ⊢
        exact String.le_antisymm (bOwned ▸ turn) (first a aMem)
      have others := @ih (list.filter fun element => !decide (owner element = name))
        distinct.2 inOrder.of_cons ?_ (turns.filter _)
      · have parts : (rest.flatMap fun later => (list.filter fun element =>
            !decide (owner element = name)).filter fun element => owner element = later) =
              rest.flatMap fun later => list.filter fun element => owner element = later := by
          refine List.flatMap_congr fun later member => ?_
          rw [List.filter_filter]
          refine List.filter_congr fun element _ => ?_
          have : later ≠ name := fun same => distinct.1 (same ▸ member)
          grind
        rw [List.flatMap_cons, ← parts, others]
        exact filter_append_filter_not front
      · intro element member
        simp only [List.mem_filter, Bool.not_eq_true', decide_eq_false_iff_not] at member
        exact (List.mem_cons.mp (owned element member.1)).resolve_left member.2

/-- A list may be split among owners, each part sorted, and the parts sorted together, if owners
that meet at a place take turns in their own order there. -/
theorem mergeSort_flatMap_filter_owner {le : α → α → Bool} {owners : List String} {list : List α}
    (trans : ∀ a b c, le a b → le b c → le a c) (total : ∀ a b, le a b || le b a)
    (distinct : owners.Nodup) (inOrder : owners.Pairwise (· ≤ ·))
    (owned : ∀ element ∈ list, owner element ∈ owners)
    (turns : list.Pairwise fun a b => le a b → le b a → owner a ≤ owner b) :
    (owners.flatMap fun name =>
        (list.filter fun element => owner element = name).mergeSort le).mergeSort le =
      list.mergeSort le := by
  refine mergeSort_eq_of_filter_alike_eq trans total fun element => ?_
  have sorted : ∀ part : List α,
      ((part.mergeSort le).filter fun other => le element other && le other element) =
        part.filter fun other => le element other && le other element := fun part =>
    filter_mergeSort trans total (pairwise_filter_alike trans element part)
  have placeOwned : ∀ other ∈ list.filter fun other => le element other && le other element,
      owner other ∈ owners := by
    intro other member
    exact owned other (List.mem_filter.mp member).1
  have placeTurns : (list.filter fun other => le element other && le other element).Pairwise
      fun a b => owner a ≤ owner b := by
    rw [List.pairwise_filter]
    refine turns.imp fun {a b} turn aAlike bAlike => ?_
    simp only [Bool.and_eq_true] at aAlike bAlike
    exact turn (trans _ _ _ aAlike.2 bAlike.1) (trans _ _ _ bAlike.2 aAlike.1)
  simp only [List.filter_flatMap, sorted, List.filter_filter]
  refine Eq.trans ?_ (flatMap_filter_owner distinct inOrder placeOwned placeTurns)
  refine List.flatMap_congr fun name _ => ?_
  rw [List.filter_filter]
  refine List.filter_congr fun other _ => ?_
  exact Bool.and_comm ..

end Owners

namespace Diagnostic

variable {first second third : Diagnostic}

theorem listedBefore_iff : first.listedBefore second ↔
    first.position.line < second.position.line ∨
      first.position.line = second.position.line ∧
        (first.position.column < second.position.column ∨
          first.position.column = second.position.column ∧ first.code ≤ second.code) := by
  simp only [listedBefore]
  grind

theorem listedBefore_trans (before : first.listedBefore second)
    (after : second.listedBefore third) : first.listedBefore third := by
  rw [listedBefore_iff] at before after ⊢
  rcases before with earlier | ⟨line, earlier | ⟨column, code⟩⟩
  · omega
  · omega
  · rcases after with later | ⟨line', later | ⟨column', code'⟩⟩
    · omega
    · omega
    · exact .inr ⟨line.trans line', .inr ⟨column.trans column', String.le_trans code code'⟩⟩

theorem listedBefore_total (first second : Diagnostic) :
    first.listedBefore second || second.listedBefore first := by
  have codes := String.le_total first.code second.code
  simp only [Bool.or_eq_true, listedBefore_iff]
  grind

/-- Two diagnostics are listed at the same place only if they agree in position and code. -/
theorem position_code_eq_of_listedBefore (before : first.listedBefore second)
    (after : second.listedBefore first) :
    first.position = second.position ∧ first.code = second.code := by
  rw [listedBefore_iff] at before after
  have line : first.position.line = second.position.line := by omega
  have column : first.position.column = second.position.column := by omega
  have forth : first.code ≤ second.code := by grind
  have back : second.code ≤ first.code := by grind
  exact ⟨congrArg₂ Position.mk line column, String.le_antisymm forth back⟩

end Diagnostic

end TokenLint
