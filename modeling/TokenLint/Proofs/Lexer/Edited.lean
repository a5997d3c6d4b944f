import TokenLint.Proofs.Lexer.Stable

/-!
# Edits of pieces

`Edited` takes the pieces that a scan cuts off to new ones, by the two edits that `Similar`
allows. Every piece is cut off before a text that is similar to the one before which its
new form has to be cut off, so the joined new pieces are cut into these pieces again.
-/

namespace TokenLint.Lexer

open Text

/-- Where a text begins with a neutral letter, a name is cut off. -/
theorem stride?_neutral {first : Char} (neutral : first ∈ neutralChars) (rest : List Char) :
    stride? .code (first :: rest) = some (nameLength (first :: rest), .code) := by
  have positive : 0 < nameLength (first :: rest) := by
    have starts : ∀ char ∈ neutralChars, isNameStart char = true := by decide
    exact nameLength_pos_iff.mpr (starts first neutral)
  have digits : digitRunLength (first :: rest) = 0 := by
    have others : ∀ char ∈ neutralChars, isDigit char = false := by decide
    simp [digitRunLength, others first neutral]
  have noFloat : floatLength (first :: rest) = 0 := by
    have others : ∀ char ∈ neutralChars, char ≠ '.' := by decide
    simp [floatLength, digits, others first neutral]
  have noInteger : integerLength (first :: rest) = 0 := by
    have nonzero : ∀ char ∈ neutralChars, char ≠ '0' := by decide
    rw [integerLength_of_nonzero (by simp [nonzero first neutral]), digits]
  simp only [neutralChars, List.mem_cons, List.not_mem_nil, or_false] at neutral
  rcases neutral with rfl | rfl | rfl | rfl | rfl | rfl | rfl | rfl | rfl | rfl <;>
    simp [stride?, closeTagLength, codeLength?, List.isPrefixOf, whitespaceLength, runLength,
      isSpaceOrTab, lineBreakLength, lineCommentLength, wordLength?, variableLength, cast?, noFloat,
      noInteger, stringLength, positive]

/-- Pairs of characters of which the first one is an operator of its own. -/
def loneOperators : List (Char × Char) := [('?', ':'), ('<', '?'), ('.', ' ')]

/-- Such an operator is cut off alone. -/
theorem stride?_of_loneOperator {first second : Char} (lone : (first, second) ∈ loneOperators)
    (rest : List Char) : stride? .code (first :: second :: rest) = some (1, .code) := by
  simp only [loneOperators, List.mem_cons, Prod.mk.injEq, List.not_mem_nil, or_false] at lone
  have operator : operatorLength? (first :: second :: rest) = some 1 := by
    simp only [operatorLength?, operators, List.find?]
    rcases lone with ⟨rfl, rfl⟩ | ⟨rfl, rfl⟩ | ⟨rfl, rfl⟩ <;> rfl
  have noFloat : floatLength (first :: second :: rest) = 0 := by
    rcases lone with ⟨rfl, rfl⟩ | ⟨rfl, rfl⟩ | ⟨rfl, rfl⟩ <;>
      simp [floatLength, digitRunLength, isDigit, digitValue?, exponentLength]
  rcases lone with ⟨rfl, rfl⟩ | ⟨rfl, rfl⟩ | ⟨rfl, rfl⟩ <;>
    simp [stride?, closeTagLength, codeLength?, List.isPrefixOf, whitespaceLength, runLength,
      isSpaceOrTab, lineBreakLength, lineCommentLength, wordLength?, variableLength, cast?, noFloat,
      integerLength, digitRunLength, isDigit, digitValue?, stringLength, nameLength, isNameStart,
      operator]

/-- Where a name that may be exchanged is cut off, nothing goes on with it and the code does. -/
theorem Exchange.stops_of_stride? {oldName newName rest : List Char} {next : Mode}
    (names : Exchange oldName newName)
    (cut : stride? .code (oldName ++ rest) = some (oldName.length, next)) :
    Stops isNamePart rest ∧ next = .code := by
  rcases names.exists_cons with ⟨first, neutral, _, _, oldTail, _, rfl, -⟩
  rw [List.cons_append, stride?_neutral neutral, Option.some.injEq, Prod.mk.injEq] at cut
  exact ⟨(exists_name_of_length (List.cons_ne_nil _ _) cut.1).2, cut.2.symm⟩

/-- A single character never closes a tag. -/
theorem eq_code_of_stride?_one {text : List Char} {next : Mode}
    (cut : stride? .code text = some (1, next)) : next = .code := by
  by_cases closes : 0 < closeTagLength text
  · rcases List.isPrefixOf_iff_prefix.mp (closeTagLength_pos_iff.mp closes) with ⟨rest, rfl⟩
    have long : 1 < closeTagLength (['?', '>'] ++ rest) := by
      rw [List.cons_append, List.cons_append, closeTagLength_closesTag]
      omega
    simp only [stride?, closes, if_true, Option.some.injEq, Prod.mk.injEq] at cut
    omega
  · simp only [stride?, closes, if_false, Option.map_eq_some_iff, Prod.mk.injEq] at cut
    rcases cut with ⟨length, -, -, mode_eq⟩
    exact mode_eq.symm

/-- Whether a scan in a mode cuts off the old pieces, and the new ones are made from them by
exchanging names and by dropping the pieces between the marks of a ternary. -/
inductive Edited : Mode → List (List Char) → List (List Char) → Prop where
  | nil (mode : Mode) : Edited mode [] []
  | keep {mode next : Mode} {piece : List Char} {old new : List (List Char)}
      (cut : stride? mode (piece ++ old.flatten) = some (piece.length, next))
      (rest : Edited next old new) : Edited mode (piece :: old) (piece :: new)
  | exchange {oldName newName : List Char} {old new : List (List Char)}
      (names : Exchange oldName newName)
      (cut : stride? .code (oldName ++ old.flatten) = some (oldName.length, .code))
      (rest : Edited .code old new) : Edited .code (oldName :: old) (newName :: new)
  | drop {dropped old new : List (List Char)}
      (cut : stride? .code ('?' :: (dropped ++ [':'] :: old).flatten) = some (1, .code))
      (rest : Edited .code ([':'] :: old) ([':'] :: new)) :
      Edited .code (['?'] :: (dropped ++ [':'] :: old)) (['?'] :: [':'] :: new)

namespace Edited

variable {mode : Mode} {old new : List (List Char)}

theorem similar (edited : Edited mode old new) : Similar old.flatten new.flatten := by
  induction edited with
  | nil mode => exact .nil
  | @keep mode next piece old new cut rest ih => exact ih.append piece
  | @exchange oldName newName old new names cut rest ih =>
      exact .exchange names (names.stops_of_stride? cut).1 ih
  | @drop dropped old new cut rest ih =>
      have text_eq : (dropped ++ [':'] :: old).flatten = dropped.flatten ++ ':' :: old.flatten := by
        simp
      rcases ih.of_cons_left (by decide) with ⟨after, after_eq, tails⟩
      cases after_eq
      rw [text_eq] at cut
      have opens :
          ['?', '>'].isPrefixOf ('?' :: (dropped.flatten ++ ':' :: old.flatten)) = false := by
        by_contra closes
        rw [Bool.not_eq_false, ← closeTagLength_pos_iff] at closes
        simp [stride?, closes] at cut
      rw [List.flatten_cons, text_eq]
      exact .drop dropped.flatten opens tails

/-- Markup is not edited, so a tag that opens after it opens in the new text as well. -/
theorem openTagLength_pos (edited : Edited .markup old new)
    (opens : 0 < openTagLength old.flatten) : 0 < openTagLength new.flatten := by
  cases edited with
  | nil mode => exact opens
  | @keep _ next piece old new cut rest =>
      rw [List.flatten_cons] at opens ⊢
      simp only [stride?, opens, if_true, Option.some.injEq, Prod.mk.injEq] at cut
      rw [rest.similar.openTagLength_append opens cut.1]
      omega

/-- The new pieces are the ones that a scan of their text cuts off. -/
theorem cuts (edited : Edited mode old new) : Cuts mode new := by
  induction edited with
  | nil mode => exact .nil mode
  | @keep mode next piece old new cut rest ih =>
      have nonempty : piece ≠ [] := List.length_pos_iff.mp (stride?_pos cut)
      refine .cons (rest.similar.stride?_append nonempty ?_ cut) ih
      rintro rfl
      exact rest.openTagLength_pos
  | @exchange oldName newName old new names cut rest ih =>
      refine .cons ?_ ih
      have stops := rest.similar.stops_namePart_iff.mp (names.stops_of_stride? cut).1
      rcases names.exists_cons with ⟨_, _, second, neutral, _, newTail, -, rfl⟩
      rw [List.cons_append, stride?_neutral neutral, ← List.cons_append,
        nameLength_append names.new_name stops]
  | @drop dropped old new cut rest ih =>
      refine .cons ?_ ih
      exact stride?_of_loneOperator (by decide) new.flatten

end Edited

end TokenLint.Lexer
