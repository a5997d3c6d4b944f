import TokenLint.Proofs.Lexer.Stride

/-!
# No shape is longer than its text

Every measuring function of the scan counts characters that stand in its text, so a step
never takes more than what is left.
-/

namespace TokenLint.Lexer

open Text

theorem runLength_le (inRun : Char → Bool) (chars : List Char) :
    runLength inRun chars ≤ chars.length :=
  (List.takeWhile_prefix _).length_le

theorem nameLength_le (chars : List Char) : nameLength chars ≤ chars.length := by
  cases chars with
  | nil => exact Nat.le_refl _
  | cons first rest =>
      have := runLength_le isNamePart rest
      simp only [nameLength, List.length_cons]
      split <;> omega

theorem lineBreakLength_le (chars : List Char) : lineBreakLength chars ≤ chars.length := by
  simp only [lineBreakLength]
  split <;> simp

theorem whitespaceLength_le (chars : List Char) : whitespaceLength chars ≤ chars.length := by
  have blanks := runLength_le isSpaceOrTab chars
  have lineBreak := lineBreakLength_le (chars.drop (runLength isSpaceOrTab chars))
  simp only [whitespaceLength, List.length_drop] at *
  omega

theorem lengthToCommentEnd?_le {chars : List Char} {length : Nat}
    (found : lengthToCommentEnd? chars = some length) : length ≤ chars.length := by
  fun_induction lengthToCommentEnd? chars generalizing length with
  | case1 rest =>
      cases found
      simp
  | case2 char rest _ ih =>
      simp only [Option.map_eq_some_iff] at found
      rcases found with ⟨inner, found, rfl⟩
      have := ih found
      simp only [List.length_cons]
      omega
  | case3 => cases found

theorem lineCommentReach_le (chars : List Char) : lineCommentReach chars ≤ chars.length := by
  fun_induction lineCommentReach chars with
  | case1 => exact Nat.le_refl _
  | case2 => exact Nat.zero_le _
  | case3 => exact Nat.zero_le _
  | case4 char rest _ _ ih =>
      simp only [List.length_cons]
      omega

theorem lineCommentLength_le (chars : List Char) : lineCommentLength chars ≤ chars.length := by
  simp only [lineCommentLength]
  split
  · rename_i rest
    have := lineCommentReach_le rest
    simp only [List.length_cons]
    omega
  · rename_i rest
    have := lineCommentReach_le rest
    simp only [List.length_cons]
    omega
  · exact Nat.zero_le _

theorem variableLength_le (chars : List Char) : variableLength chars ≤ chars.length := by
  simp only [variableLength]
  split
  · rename_i rest
    have := nameLength_le rest
    simp only [List.length_cons]
    split <;> omega
  · exact Nat.zero_le _

theorem digitRunLength_le (chars : List Char) : digitRunLength chars ≤ chars.length := by
  cases chars with
  | nil => exact Nat.le_refl _
  | cons first rest =>
      have := runLength_le (fun char => isDigit char || char == '_') rest
      simp only [digitRunLength, List.length_cons]
      split <;> omega

theorem signLength_le (chars : List Char) : signLength chars ≤ chars.length := by
  simp only [signLength]
  split <;> simp

theorem exponentLength_le (chars : List Char) : exponentLength chars ≤ chars.length := by
  cases chars with
  | nil => exact Nat.le_refl _
  | cons mark rest =>
      have sign := signLength_le rest
      have digits := runLength_le isDigit (rest.drop (signLength rest))
      simp only [exponentLength, List.length_cons, List.length_drop] at *
      split <;> omega

theorem floatLength_le (chars : List Char) : floatLength chars ≤ chars.length := by
  have whole := digitRunLength_le chars
  simp only [floatLength]
  have rest_length : (chars.drop (digitRunLength chars)).length =
      chars.length - digitRunLength chars := List.length_drop
  split
  · rename_i fraction rest_eq
    have places := digitRunLength_le fraction
    have afterPlaces := exponentLength_le (fraction.drop (digitRunLength fraction))
    have afterPoint := exponentLength_le fraction
    rw [rest_eq, List.length_cons] at rest_length
    rw [List.length_drop] at afterPlaces
    split
    · omega
    · split <;> omega
  · have exponent := exponentLength_le (chars.drop (digitRunLength chars))
    split <;> omega

theorem integerLength_le (chars : List Char) : integerLength chars ≤ chars.length := by
  simp only [integerLength]
  split
  · rename_i mark rest
    have hex := runLength_le isHexPart rest
    have binary := runLength_le isBinaryPart rest
    have digits := digitRunLength_le ('0' :: mark :: rest)
    simp only [List.length_cons] at *
    split
    · omega
    · split <;> omega
  · exact digitRunLength_le chars

theorem lengthToQuote?_le {quote : Char} {chars : List Char} {length : Nat}
    (found : lengthToQuote? quote chars = some length) : length ≤ chars.length := by
  fun_induction lengthToQuote? quote chars generalizing length with
  | case1 => cases found
  | case2 escaped rest ih =>
      simp only [Option.map_eq_some_iff] at found
      rcases found with ⟨inner, found, rfl⟩
      have := ih found
      simp only [List.length_cons]
      omega
  | case3 rest _ =>
      cases found
      simp
  | case4 char rest _ _ ih =>
      simp only [Option.map_eq_some_iff] at found
      rcases found with ⟨inner, found, rfl⟩
      have := ih found
      simp only [List.length_cons]
      omega

theorem stringLength_le (quote : Char) (chars : List Char) :
    stringLength quote chars ≤ chars.length := by
  cases chars with
  | nil => exact Nat.le_refl _
  | cons first rest =>
      simp only [stringLength]
      split
      · cases found : lengthToQuote? quote rest with
        | none => exact Nat.zero_le _
        | some length =>
            have := lengthToQuote?_le found
            simp only [Option.map_some, Option.getD_some, List.length_cons]
            omega
      · exact Nat.zero_le _

theorem closingLabelLength?_le {label chars : List Char} {length : Nat}
    (found : closingLabelLength? label chars = some length) : length ≤ chars.length := by
  simp only [closingLabelLength?] at found
  split at found
  · rename_i closes
    cases found
    have blanks := runLength_le isSpaceOrTab chars
    have label_le := (List.isPrefixOf_iff_prefix.mp closes.1).length_le
    rw [List.length_drop] at label_le
    omega
  · cases found

theorem lengthToClosingLabel?_le {label chars : List Char} {atLineStart : Bool} {length : Nat}
    (found : lengthToClosingLabel? label atLineStart chars = some length) :
    length ≤ chars.length := by
  induction chars generalizing atLineStart length with
  | nil => cases found
  | cons char rest ih =>
      simp only [lengthToClosingLabel?] at found
      split at found
      · rename_i closing closes
        cases found
        split at closes
        · exact closingLabelLength?_le closes
        · cases closes
      · simp only [Option.map_eq_some_iff] at found
        rcases found with ⟨inner, found, rfl⟩
        have := ih found
        simp only [List.length_cons]
        omega

theorem absorbedLength_le (chars : List Char) : absorbedLength chars ≤ chars.length := by
  simp only [absorbedLength]
  split
  · simp
  · split <;> simp
  · exact Nat.le_refl _

theorem openTagLength_le (chars : List Char) : openTagLength chars ≤ chars.length := by
  simp only [openTagLength]
  split
  · simp
  · rename_i rest _
    have := absorbedLength_le rest
    simp only [List.length_cons]
    split <;> omega
  · exact Nat.zero_le _

theorem markupLength_le (chars : List Char) : markupLength chars ≤ chars.length := by
  induction chars with
  | nil => exact Nat.le_refl _
  | cons char rest ih =>
      simp only [markupLength, List.length_cons]
      split <;> omega

theorem closeTagLength_le (chars : List Char) : closeTagLength chars ≤ chars.length := by
  simp only [closeTagLength]
  split <;> simp

theorem heredocLength?_le {rest : List Char} {length : Nat}
    (starts : ['<', '<', '<'].isPrefixOf rest = true)
    (found : heredocLength? rest = some length) : length ≤ rest.length := by
  simp only [heredocLength?] at found
  split at found
  · have := (List.isPrefixOf_iff_prefix.mp starts).length_le
    cases found
    simp only [List.length_cons, List.length_nil] at this
    omega
  · rename_i label startLength started
    rcases exists_heredocStart started with ⟨blanks, quote, lineBreak, tail, rfl, parts⟩
    rw [heredocStart?_heredocText parts] at started
    simp only [Option.some.injEq, Prod.mk.injEq, true_and] at started
    subst started
    simp only [Option.map_eq_some_iff] at found
    rcases found with ⟨bodyLength, found, rfl⟩
    have := lengthToClosingLabel?_le found
    simp only [List.drop_left, List.length_append] at *
    omega

theorem wordLength?_le {rest : List Char} {length : Nat}
    (found : wordLength? rest = some length) : length ≤ rest.length := by
  simp only [wordLength?] at found
  split at found
  · cases found
    exact variableLength_le rest
  split at found
  · rename_i name castLength cast
    simp only [Option.map_eq_some_iff] at found
    rcases found with ⟨kind, -, rfl⟩
    rcases exists_cast castNames_proper cast with ⟨leading, word, trailing, tail, rfl, parts⟩
    rw [cast?_castText parts] at cast
    cases cast
    simp
  split at found
  · cases found
    exact floatLength_le rest
  split at found
  · cases found
    exact integerLength_le rest
  iterate 3
    split at found
    · cases found
      exact stringLength_le _ rest
  split at found
  · cases found
    exact nameLength_le rest
  · simp only [operatorLength?, Option.map_eq_some_iff] at found
    rcases found with ⟨entry, found, rfl⟩
    have here := List.find?_some (p := fun entry : String × TokenKind =>
      entry.1.toList.isPrefixOf rest) found
    rw [← String.length_toList]
    exact (List.isPrefixOf_iff_prefix.mp here).length_le

/-- A step takes no more than what is left. -/
theorem stride?_le {mode next : Mode} {rest : List Char} {length : Nat}
    (found : stride? mode rest = some (length, next)) : length ≤ rest.length := by
  cases mode with
  | markup =>
      simp only [stride?] at found
      split at found
      · cases found
        exact openTagLength_le rest
      split at found
      · cases found
        exact markupLength_le rest
      · cases found
  | code =>
      simp only [stride?] at found
      split at found
      · cases found
        exact closeTagLength_le rest
      simp only [Option.map_eq_some_iff, Prod.mk.injEq] at found
      rcases found with ⟨length, found, rfl, rfl⟩
      simp only [codeLength?] at found
      split at found
      · rename_i starts
        exact heredocLength?_le starts found
      split at found
      · rename_i starts
        simp only [blockCommentLength?, Option.map_eq_some_iff] at found
        rcases found with ⟨inner, found, rfl⟩
        have opening := (List.isPrefixOf_iff_prefix.mp starts).length_le
        have body := lengthToCommentEnd?_le found
        simp only [List.length_drop, List.length_cons, List.length_nil] at *
        omega
      split at found
      · cases found
        exact whitespaceLength_le rest
      split at found
      · cases found
        exact lineCommentLength_le rest
      · exact wordLength?_le found

end TokenLint.Lexer
