import TokenLint.Text.Blank
import Mathlib.Data.List.TakeWhile

/-!
# Trimming around solid text

A text is solid if it neither begins nor ends with a blank. Trimming a text that holds a solid one
trims what stands in front of it and what stands behind it.
-/

namespace TokenLint

open Text

variable {inSet : Char → Bool} {chars before middle after : List Char}

/-- Whether a list of characters begins and ends with characters outside of a set. -/
structure IsSolid (inSet : Char → Bool) (chars : List Char) : Prop where
  first : ∃ char, chars.head? = some char ∧ inSet char = false
  last : ∃ char, chars.getLast? = some char ∧ inSet char = false

theorem IsSolid.reverse (solid : IsSolid inSet chars) : IsSolid inSet chars.reverse := by
  refine ⟨?_, ?_⟩
  · simpa using solid.last
  · simpa using solid.first

theorem IsSolid.first_append (solid : IsSolid inSet middle) (after : List Char) :
    ∃ char, (middle ++ after).head? = some char ∧ inSet char = false := by
  rcases solid.first with ⟨char, head_eq, outside⟩
  refine ⟨char, ?_, outside⟩
  rw [List.head?_append, head_eq]
  rfl

theorem IsSolid.not_mem_last (solid : IsSolid inSet chars) :
    ∀ char ∈ chars.getLast?, inSet char = false := by
  rcases solid.last with ⟨last, last_eq, outside⟩
  rw [last_eq]
  rintro _ ⟨⟩
  exact outside

theorem IsSolid.dropWhile_append (solid : IsSolid inSet middle) (before after : List Char) :
    (before ++ (middle ++ after)).dropWhile inSet =
      before.dropWhile inSet ++ (middle ++ after) := by
  rcases solid.first with ⟨char, head_eq, outside⟩
  rcases List.head?_eq_some_iff.mp head_eq with ⟨rest, rfl⟩
  rw [List.dropWhile_append]
  split
  · rename_i emptied
    rw [List.isEmpty_iff.mp emptied, List.cons_append, List.dropWhile_cons, outside]
    rfl
  · rfl

/-- Trimming does not get past solid text. -/
theorem IsSolid.trimChars_append (solid : IsSolid inSet middle) (before after : List Char) :
    trimChars inSet (before ++ middle ++ after) =
      before.dropWhile inSet ++ middle ++ (after.reverse.dropWhile inSet).reverse := by
  rw [trimChars, List.append_assoc, solid.dropWhile_append, List.reverse_append,
    List.reverse_append, List.append_assoc, solid.reverse.dropWhile_append]
  simp

/-- Trimming leaves exactly the solid text in the middle if and only if all the rest is blank. -/
theorem IsSolid.trimChars_eq_iff (solid : IsSolid inSet middle) :
    trimChars inSet (before ++ middle ++ after) = middle ↔
      (∀ char ∈ before, inSet char = true) ∧ ∀ char ∈ after, inSet char = true := by
  rw [solid.trimChars_append]
  constructor
  · intro trimmed
    have length_eq := congrArg List.length trimmed
    simp only [List.length_append, List.length_reverse] at length_eq
    refine ⟨List.dropWhile_eq_nil_iff.mp (List.length_eq_zero_iff.mp (by omega)), ?_⟩
    have nothing_behind : after.reverse.dropWhile inSet = [] :=
      List.length_eq_zero_iff.mp (by omega)
    intro char member
    exact List.dropWhile_eq_nil_iff.mp nothing_behind char (List.mem_reverse.mpr member)
  · rintro ⟨before_blank, after_blank⟩
    have nothing_before : before.dropWhile inSet = [] := List.dropWhile_eq_nil_iff.mpr before_blank
    have nothing_behind : after.reverse.dropWhile inSet = [] :=
      List.dropWhile_eq_nil_iff.mpr fun char member =>
        after_blank char (List.mem_reverse.mp member)
    simp [nothing_before, nothing_behind]

/-- Trimming takes characters of the set from both ends. -/
theorem exists_trimChars (inSet : Char → Bool) (chars : List Char) :
    ∃ before after, chars = before ++ trimChars inSet chars ++ after ∧
      (∀ char ∈ before, inSet char = true) ∧ ∀ char ∈ after, inSet char = true := by
  have front := List.takeWhile_append_dropWhile (p := inSet) (l := chars)
  have back := List.takeWhile_append_dropWhile (p := inSet) (l := (chars.dropWhile inSet).reverse)
  refine ⟨chars.takeWhile inSet, ((chars.dropWhile inSet).reverse.takeWhile inSet).reverse, ?_, ?_,
    ?_⟩
  · rw [trimChars, List.append_assoc, ← List.reverse_append, back, List.reverse_reverse, front]
  · exact fun char member => List.mem_takeWhile_imp member
  · exact fun char member => List.mem_takeWhile_imp (List.mem_reverse.mp member)

/-- What trimming leaves is solid. -/
theorem isSolid_trimChars (nonempty : trimChars inSet chars ≠ []) :
    IsSolid inSet (trimChars inSet chars) := by
  have outside : ∀ {text : List Char}, text.dropWhile inSet ≠ [] →
      ∃ char, (text.dropWhile inSet).head? = some char ∧ inSet char = false := by
    intro text nonempty
    refine ⟨_, List.head?_eq_some_head nonempty, ?_⟩
    have := List.head_dropWhile_not inSet nonempty
    simpa using this
  have left : (chars.dropWhile inSet).reverse.dropWhile inSet ≠ [] := by
    simpa [trimChars] using nonempty
  refine ⟨?_, ?_⟩
  · have solid : chars.dropWhile inSet ≠ [] := by
      intro empty
      rw [empty] at left
      exact left rfl
    rcases outside solid with ⟨char, head_eq, char_outside⟩
    refine ⟨char, ?_, char_outside⟩
    -- The end that is dropped does not reach the first character that is kept.
    have kept := List.takeWhile_append_dropWhile (p := inSet)
      (l := (chars.dropWhile inSet).reverse)
    have whole := congrArg List.reverse kept
    rw [List.reverse_append, List.reverse_reverse] at whole
    rw [← whole, List.head?_append] at head_eq
    cases first : ((chars.dropWhile inSet).reverse.dropWhile inSet).reverse.head? with
    | none => exact absurd (List.head?_eq_none_iff.mp first) (by simpa using left)
    | some other =>
        rw [first] at head_eq
        rw [trimChars, first]
        exact head_eq
  · rcases outside left with ⟨char, head_eq, char_outside⟩
    exact ⟨char, by rw [trimChars, List.getLast?_reverse]; exact head_eq, char_outside⟩

end TokenLint
