import TokenLint.Proofs.Lexer.ReadKinds
import TokenLint.Proofs.Lexer.Swap

/-!
# What takes the place of negations

A chain of negations is exchanged for a single one, or for a cast. A negation may be part of a
comparison: equality signs and greater-than signs that stand together, with or without a negation in
front of them, are cut off operator by operator, whatever stands behind them. None of these
operators says anything about the next word or sign, and neither does the cast.
-/

namespace TokenLint.Lexer

open Text

/-- Whether a character is a sign that operators of comparison are made of. -/
def isComparing (char : Char) : Bool := char == '=' || char == '>'

/-- What an operator of comparison begins with. -/
def comparingStarts : List Char := ['!', '=', '>']

/-- Whether a text consists of signs of comparison, with or without a negation in front. -/
def IsComparison : List Char → Prop
  | first :: tail => first ∈ comparingStarts ∧ ∀ char ∈ tail, isComparing char = true
  | [] => False

/-- The operators that begin with such a sign. -/
def comparisons : List (String × TokenKind) :=
  operators.filter fun entry => entry.1.toList.head?.any (comparingStarts.contains ·)

variable {text rest : List Char}

theorem comparing_of_mem : ∀ entry ∈ operators,
    (∃ first ∈ comparingStarts, entry.1.toList.head? = some first) →
      ∀ char ∈ entry.1.toList.tail, isComparing char = true := by decide

theorem isPrefixOf_append_of_stops {accepts : Char → Bool} {sign : List Char}
    (accepted : ∀ char ∈ sign, accepts char = true) (stops : Stops accepts rest) :
    sign.isPrefixOf (text ++ rest) = sign.isPrefixOf text := by
  induction sign generalizing text with
  | nil => rfl
  | cons first sign ih =>
      cases text with
      | nil =>
          cases rest with
          | nil => rfl
          | cons next rest =>
              have apart : first ≠ next := by
                rintro rfl
                have refused := stops_cons.mp stops
                rw [accepted first List.mem_cons_self] at refused
                cases refused
              simp [List.isPrefixOf, apart]
      | cons char text =>
          have later := @ih text fun char member => accepted char (List.mem_cons_of_mem _ member)
          simp only [List.cons_append, List.isPrefixOf, later]

namespace IsComparison

/-- What stands behind the signs has no part in the operator that they begin with. -/
theorem operatorLength?_append (comparison : IsComparison text) (stops : Stops isComparing rest) :
    operatorLength? (text ++ rest) = operatorLength? text := by
  cases text with
  | nil => exact comparison.elim
  | cons first tail =>
      simp only [operatorLength?]
      rw [List.find?_congr]
      intro entry member
      cases spelled : entry.1.toList with
      | nil => rfl
      | cons head sign =>
          by_cases same : head = first
          · have accepted := comparing_of_mem entry member
              ⟨head, same ▸ comparison.1, by rw [spelled]; rfl⟩
            rw [spelled, List.tail_cons] at accepted
            simp only [List.cons_append, List.isPrefixOf, isPrefixOf_append_of_stops accepted stops]
          · simp only [List.cons_append, List.isPrefixOf, beq_eq_false_iff_ne.mpr same,
              Bool.false_and]

/-- Some operator begins the signs. -/
theorem exists_operator (comparison : IsComparison text) :
    ∃ entry ∈ comparisons, entry.1.toList <+: text ∧
      operatorLength? text = some entry.1.toList.length := by
  cases text with
  | nil => exact comparison.elim
  | cons first tail =>
      have single : ∀ first ∈ comparingStarts, ∃ entry ∈ operators, entry.1.toList = [first] := by
        decide
      rcases single first comparison.1 with ⟨entry, listed, spelled⟩
      cases found : operators.find? fun entry => entry.1.toList.isPrefixOf (first :: tail) with
      | none =>
          have absent := List.find?_eq_none.mp found entry listed
          simp [spelled, List.isPrefixOf] at absent
      | some other =>
          have proper : ∀ entry ∈ operators, entry.1.toList ≠ [] := by decide
          have member := List.mem_of_find?_eq_some found
          have starts : other.1.toList <+: first :: tail := by
            have starts := List.find?_some found
            rwa [List.isPrefixOf_iff_prefix] at starts
          refine ⟨other, List.mem_filter.mpr ⟨member, ?_⟩, starts, ?_⟩
          · rcases List.exists_cons_of_ne_nil (proper other member) with ⟨head, sign, spelled⟩
            rw [spelled] at starts ⊢
            rw [(List.cons_prefix_cons.mp starts).1]
            simpa using comparison.1
          · rw [operatorLength?, found, Option.map_some, String.length_toList]

/-- In code, the signs are cut off operator by operator. -/
theorem stride?_eq (comparison : IsComparison text) (rest : List Char) :
    stride? .code (text ++ rest) = (operatorLength? (text ++ rest)).map (·, .code) := by
  cases text with
  | nil => exact comparison.elim
  | cons first tail =>
      have starts := comparison.1
      simp only [comparingStarts, List.mem_cons, List.not_mem_nil, or_false] at starts
      have noFloat : floatLength (first :: (tail ++ rest)) = 0 := by
        rcases starts with rfl | rfl | rfl <;>
          simp [floatLength, digitRunLength, isDigit, digitValue?, exponentLength]
      rw [List.cons_append]
      rcases starts with rfl | rfl | rfl <;>
        simp [stride?, closeTagLength, codeLength?, List.isPrefixOf, whitespaceLength, runLength,
          isSpaceOrTab, lineBreakLength, lineCommentLength, wordLength?, variableLength, cast?,
          noFloat, integerLength, digitRunLength, isDigit, digitValue?, stringLength, nameLength,
          isNameStart]

end IsComparison

/-- What an operator of comparison is read as, and that it has no part in what comes behind it. -/
theorem comparisons_plain : ∀ entry ∈ comparisons, entry.2.isTrivia = false ∧
    keepsNesting entry.2 = true ∧ signOf? entry.2 = none ∧ keepsName entry.2 = false ∧
    startsNullable entry.2 = false ∧ isIndexable entry.2 = false := by decide

theorem Scanner.kindAlone_of_comparison {scanner : Scanner} (code : scanner.mode = .code) :
    ∀ entry ∈ comparisons, scanner.kindAlone entry.1.toList = entry.2 := by
  rcases scanner with ⟨mode, nesting, position, emitted⟩
  cases code
  have listed : comparisons = [(">>=", .shiftRightEqual), ("===", .isIdentical),
      ("!==", .isNotIdentical), ("==", .isEqual), ("!=", .isNotEqual), (">=", .greaterOrEqual),
      ("=>", .doubleArrow), (">>", .shiftRight), ("=", .equal), ("!", .booleanNot),
      (">", .greaterThan)] := by decide
  rw [listed]
  simp only [List.forall_mem_cons, List.not_mem_nil, false_implies, implies_true, and_true]
  exact ⟨rfl, rfl, rfl, rfl, rfl, rfl, rfl, rfl, rfl, rfl, rfl⟩

/-! ### The cast to a boolean -/

theorem stride?_boolCast (rest : List Char) :
    stride? .code ("(bool)".toList ++ rest) = some (6, .code) := by
  have cast : cast? (castNames.map Prod.fst) ('(' :: 'b' :: 'o' :: 'o' :: 'l' :: ')' :: rest) =
      some ("bool", 6) := rfl
  have known : castNames.lookup (lower "bool") = some .boolCast := by decide +kernel
  have text_eq : "(bool)".toList ++ rest = '(' :: 'b' :: 'o' :: 'o' :: 'l' :: ')' :: rest := rfl
  rw [text_eq]
  simp only [stride?, closeTagLength, codeLength?, List.isPrefixOf, whitespaceLength, runLength,
    lineBreakLength, lineCommentLength, wordLength?, variableLength, cast, known]
  rfl

theorem Scanner.kindAlone_boolCast {scanner : Scanner} (code : scanner.mode = .code) :
    scanner.kindAlone "(bool)".toList = .boolCast := by
  rcases scanner with ⟨mode, nesting, position, emitted⟩
  cases code
  rfl

end TokenLint.Lexer
