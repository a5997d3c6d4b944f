import TokenLint.Proofs.Lexer.Nesting
import TokenLint.Proofs.Lexer.Prefix
import TokenLint.Proofs.Lexer.Reads

/-!
# What a piece is read as

The kind that a step gives to a piece depends on the state of the scan and on the piece, not on the
text behind it: read alone, the piece has the same kind. Only a heredoc may not be complete without
the character behind its label. Two scans in one mode therefore give kinds to a piece that differ
as much as the kinds of operators in their contexts do.
-/

namespace TokenLint.Lexer

open Text

variable {piece rest : List Char}

theorem isPrefixOf_of_append_eq_false {sign : List Char}
    (absent : ¬sign.isPrefixOf (piece ++ rest) = true) : ¬sign.isPrefixOf piece = true := by
  rw [List.isPrefixOf_iff_prefix] at absent ⊢
  exact fun here => absent (here.trans (List.prefix_append _ _))

/-! ### Shapes that a piece does not have -/

theorem digitRunLength_pos_iff {chars : List Char} :
    0 < digitRunLength chars ↔ chars.head?.any isDigit = true := by
  cases chars with
  | nil => simp [digitRunLength]
  | cons first tail =>
      by_cases digit : isDigit first = true
      · simp only [digitRunLength, digit, if_true, List.head?_cons, Option.any_some, iff_true]
        omega
      · simp [digitRunLength, digit]

theorem integerLength_pos_iff {chars : List Char} :
    0 < integerLength chars ↔ chars.head?.any isDigit = true := by
  simp only [integerLength]
  split
  · have zero : isDigit '0' = true := by decide
    split
    · exact iff_of_true (by omega) zero
    · split
      · exact iff_of_true (by omega) zero
      · exact digitRunLength_pos_iff
  · exact digitRunLength_pos_iff

theorem digitRunLength_of_append (within : digitRunLength (piece ++ rest) ≤ piece.length) :
    digitRunLength (piece ++ rest) = digitRunLength piece := by
  cases piece with
  | nil => exact Nat.le_zero.mp within
  | cons first tail =>
      simp only [List.cons_append, digitRunLength, List.length_cons] at within ⊢
      split
      · rename_i digit
        rw [if_pos digit] at within
        rw [runLength_of_append (by omega)]
      · rfl

theorem exponentLength_of_append (positive : 0 < exponentLength (piece ++ rest))
    (within : exponentLength (piece ++ rest) ≤ piece.length) : 0 < exponentLength piece := by
  cases piece with
  | nil => exact absurd (Nat.lt_of_lt_of_le positive within) (Nat.lt_irrefl 0)
  | cons mark tail =>
      simp only [List.cons_append, exponentLength, List.length_cons] at positive within ⊢
      split at positive
      · rename_i marked
        rw [if_pos marked] at within
        have sign_eq : signLength (tail ++ rest) = signLength tail := by
          cases tail with
          | nil =>
              rw [List.length_nil] at within
              omega
          | cons sign tail =>
              rw [List.cons_append, signLength.eq_def, signLength.eq_def]
              split <;> simp_all
        rw [sign_eq] at marked within
        rw [List.drop_append_of_le_length (signLength_le tail)] at marked within
        have digits_eq : runLength isDigit (tail.drop (signLength tail) ++ rest) =
            runLength isDigit (tail.drop (signLength tail)) := by
          apply runLength_of_append
          rw [List.length_drop]
          omega
        rw [digits_eq] at marked
        rw [if_pos marked]
        omega
      · exact absurd positive (Nat.lt_irrefl 0)

theorem floatLength_of_pointed {chars fraction : List Char}
    (pointed : chars.drop (digitRunLength chars) = '.' :: fraction) :
    floatLength chars =
      if 0 < digitRunLength fraction then
        digitRunLength chars + 1 + digitRunLength fraction +
          exponentLength (fraction.drop (digitRunLength fraction))
      else if digitRunLength chars = 0 ∨ fraction.head? = some '.' then 0
      else digitRunLength chars + 1 + exponentLength fraction := by
  simp only [floatLength, pointed]

/-- A float goes on behind its first digits. -/
theorem digitRunLength_lt_floatLength {chars : List Char} (positive : 0 < floatLength chars) :
    digitRunLength chars < floatLength chars := by
  by_cases pointed : (chars.drop (digitRunLength chars)).head? = some '.'
  · rcases List.head?_eq_some_iff.mp pointed with ⟨fraction, pointed⟩
    rw [floatLength_of_pointed pointed] at positive ⊢
    split
    · omega
    · rename_i unplaced
      rw [if_neg unplaced] at positive
      split
      · rename_i improper
        rw [if_pos improper] at positive
        exact absurd positive (Nat.lt_irrefl 0)
      · omega
  · rw [floatLength_of_unpointed pointed] at positive ⊢
    split
    · rename_i improper
      rw [if_pos improper] at positive
      exact absurd positive (Nat.lt_irrefl 0)
    · rename_i proper
      rw [not_or] at proper
      omega

/-- A float is one whatever follows it. -/
theorem floatLength_pos_of_append (positive : 0 < floatLength (piece ++ rest))
    (within : floatLength (piece ++ rest) ≤ piece.length) : 0 < floatLength piece := by
  have beyond := digitRunLength_lt_floatLength positive
  have whole_eq : digitRunLength (piece ++ rest) = digitRunLength piece :=
    digitRunLength_of_append (by omega)
  have drop_eq : (piece ++ rest).drop (digitRunLength (piece ++ rest)) =
      piece.drop (digitRunLength piece) ++ rest := by
    rw [whole_eq, List.drop_append_of_le_length (digitRunLength_le piece)]
  rcases List.exists_cons_of_ne_nil (l := piece.drop (digitRunLength piece)) (by
    rw [ne_eq, List.drop_eq_nil_iff]
    omega) with ⟨point, fraction, left⟩
  have length_eq : piece.length = digitRunLength piece + (fraction.length + 1) := by
    have := congrArg List.length left
    rw [List.length_drop, List.length_cons] at this
    omega
  rw [left, List.cons_append] at drop_eq
  by_cases pointed : point = '.'
  · subst pointed
    rw [floatLength_of_pointed drop_eq, whole_eq] at positive within
    rw [floatLength_of_pointed left]
    have places_eq : digitRunLength (fraction ++ rest) = digitRunLength fraction :=
      digitRunLength_of_append (by split at within <;> omega)
    rw [places_eq] at positive
    by_cases placed : 0 < digitRunLength fraction
    · rw [if_pos placed]
      omega
    · rw [if_neg placed] at positive ⊢
      split at positive
      · exact absurd positive (Nat.lt_irrefl 0)
      · rename_i proper
        rw [if_neg]
        · omega
        · rintro (empty | found)
          · exact proper (.inl empty)
          · rcases List.head?_eq_some_iff.mp found with ⟨tail, rfl⟩
            exact proper (.inr rfl)
  · have unpointed : (piece.drop (digitRunLength piece)).head? ≠ some '.' := by
      simpa [left] using pointed
    have unpointed' : ((piece ++ rest).drop (digitRunLength (piece ++ rest))).head? ≠ some '.' := by
      simpa [drop_eq] using pointed
    rw [floatLength_of_unpointed unpointed', drop_eq, whole_eq] at positive within
    rw [floatLength_of_unpointed unpointed, left]
    split at positive
    · exact absurd positive (Nat.lt_irrefl 0)
    · rename_i proper
      rw [if_neg proper] at within
      rw [not_or] at proper
      have goesOn : 0 < exponentLength (point :: fraction ++ rest) := by
        rw [List.cons_append]
        exact Nat.pos_of_ne_zero proper.2
      have exponent : 0 < exponentLength (point :: fraction) := by
        apply exponentLength_of_append goesOn
        rw [List.cons_append, List.length_cons]
        omega
      rw [if_neg (not_or.mpr ⟨proper.1, Nat.ne_of_gt exponent⟩)]
      omega

/-- Where no number stands, none stands alone. -/
theorem floatLength_eq_zero_of_append (noDigit : piece.head?.any isDigit = false)
    (absent : ¬0 < floatLength (piece ++ rest)) : floatLength piece = 0 := by
  have digits : digitRunLength piece = 0 :=
    Nat.eq_zero_of_not_pos fun positive => by
      rw [digitRunLength_pos_iff, noDigit] at positive
      cases positive
  by_cases pointed : piece.head? = some '.'
  · rcases List.head?_eq_some_iff.mp pointed with ⟨fraction, rfl⟩
    have goesOn : digitRunLength ('.' :: (fraction ++ rest)) = 0 := rfl
    have unplaced : ¬0 < digitRunLength fraction := by
      intro placed
      apply absent
      have placed : 0 < digitRunLength (fraction ++ rest) := by
        rw [digitRunLength_pos_iff] at placed ⊢
        cases fraction with
        | nil => cases placed
        | cons first fraction => exact placed
      rw [List.cons_append, floatLength_of_pointed (by rw [goesOn]; rfl), if_pos placed]
      omega
    rw [floatLength_of_pointed (by rw [digits]; rfl), if_neg unplaced, if_pos (.inl digits)]
  · rw [floatLength_of_unpointed (by rw [digits]; exact pointed), if_pos (.inl digits)]

/-- The marks of hexadecimal and binary numbers go on with no digits and begin no exponent. -/
theorem plain_of_toLower {mark : Char} (marks : mark.toLower = 'x' ∨ mark.toLower = 'b') :
    isDigit mark = false ∧ mark ≠ '_' ∧ mark ≠ '.' ∧ ¬(mark = 'e' ∨ mark = 'E') := by
  have codes : ∀ code < 0x80, (Char.ofNat code).toLower = 'x' ∨ (Char.ofNat code).toLower = 'b' →
      isDigit (Char.ofNat code) = false ∧ Char.ofNat code ≠ '_' ∧ Char.ofNat code ≠ '.' ∧
        ¬(Char.ofNat code = 'e' ∨ Char.ofNat code = 'E') := by
    decide +kernel
  have lower : mark.toLower.isLower = true := by
    rcases marks with same | same <;> rw [same] <;> decide
  have alpha := isAlpha_of_isLower_toLower lower
  have ascii : mark.toNat < 0x80 := by
    rcases Bool.or_eq_true_iff.mp alpha with upper | small
    · have bound := (of_decide_eq_true upper).2
      exact Nat.lt_of_le_of_lt (UInt32.le_iff_toNat_le.mp bound) (by decide)
    · have bound := of_decide_eq_true (Bool.and_eq_true_iff.mp small).2
      exact Nat.lt_of_le_of_lt (UInt32.le_iff_toNat_le.mp bound) (by decide)
  have here := codes mark.toNat ascii
  rw [Char.ofNat_toNat] at here
  exact here marks

/-- An integer is no float when it is read alone. -/
theorem floatLength_of_integer (whole : integerLength (piece ++ rest) = piece.length)
    (positive : 0 < integerLength (piece ++ rest)) : floatLength piece = 0 := by
  have digits_only : ∀ {piece : List Char}, digitRunLength (piece ++ rest) = piece.length →
      floatLength piece = 0 := by
    intro piece whole
    have run_eq : digitRunLength piece = piece.length := by
      rw [← digitRunLength_of_append (Nat.le_of_eq whole), whole]
    have left : piece.drop (digitRunLength piece) = [] := by rw [run_eq, List.drop_length]
    rw [floatLength_of_unpointed (by simp [left]), left, if_pos (.inr rfl)]
  have marked : ∀ {mark : Char} {tail : List Char}, mark.toLower = 'x' ∨ mark.toLower = 'b' →
      floatLength ('0' :: mark :: tail) = 0 := by
    intro mark tail marks
    rcases plain_of_toLower marks with ⟨noDigit, noJoint, noPoint, noExponent⟩
    have zero : isDigit '0' = true := by decide
    have digits : digitRunLength ('0' :: mark :: tail) = 1 := by
      simp [digitRunLength, runLength, zero, noDigit, noJoint]
    rw [floatLength_of_unpointed (by simpa [digits] using noPoint), digits]
    simp [exponentLength, noExponent]
  cases piece with
  | nil =>
      rw [whole] at positive
      exact absurd positive (Nat.lt_irrefl 0)
  | cons first tail =>
      by_cases zero : first = '0'
      · subst zero
        cases tail with
        | nil => exact (by decide)
        | cons mark tail =>
            simp only [List.cons_append, integerLength] at whole
            split at whole
            · rename_i hex
              exact marked (.inl hex.1)
            · split at whole
              · rename_i binary
                exact marked (.inr binary.1)
              · exact digits_only whole
      · rw [List.cons_append, integerLength_of_nonzero (by simpa using zero)] at whole
        exact digits_only whole

theorem stringLength_eq_zero {quote : Char} {chars : List Char}
    (other : chars.head? ≠ some quote) : stringLength quote chars = 0 := by
  cases chars with
  | nil => rfl
  | cons first tail => simpa [stringLength] using fun same => absurd (congrArg some same) other

/-- A string is one whatever follows it. -/
theorem stringLength_of_whole {quote : Char} (plain : quote ≠ '\\')
    (positive : 0 < stringLength quote (piece ++ rest))
    (whole : stringLength quote (piece ++ rest) = piece.length) :
    piece.head? = some quote ∧ stringLength quote piece = piece.length := by
  have same := stringLength_of_append plain (Nat.le_of_eq whole)
  refine ⟨?_, same ▸ whole⟩
  by_contra other
  rw [same, stringLength_eq_zero other] at positive
  exact absurd positive (Nat.lt_irrefl 0)

/-- Of an operator that stands alone, nothing is read but this operator. -/
theorem operators_alone : ∀ entry ∈ operators,
    (∀ quote ∈ ['\'', '"', '\x60'], stringLength quote entry.1.toList = 0) ∧
      nameLength entry.1.toList = 0 ∧
      operators.find? (fun other => other.1.toList.isPrefixOf entry.1.toList) = some entry := by
  decide +kernel

/-- Where no variable stands, none stands alone. -/
theorem variableLength_eq_zero_of_append (absent : ¬0 < variableLength (piece ++ rest)) :
    variableLength piece = 0 := by
  rcases piece with _ | ⟨first, tail⟩
  · rfl
  · by_cases dollar : first = '$'
    · subst dollar
      simp only [List.cons_append, variableLength] at absent ⊢
      split
      · rfl
      · rename_i named
        refine absurd ?_ absent
        have goesOn : 0 < nameLength (tail ++ rest) := by
          have named := nameLength_pos_iff.mp (Nat.pos_of_ne_zero named)
          rw [nameLength_pos_iff]
          cases tail with
          | nil => cases named
          | cons next tail => exact named
        rw [if_neg (Nat.ne_of_gt goesOn)]
        omega
    · simp [variableLength, dollar]

/-- The first four characters of a comment tell whether it is for documentation. -/
theorem startsDocComment_append (first second third fourth : Char) (tail rest : List Char) :
    startsDocComment (first :: second :: third :: fourth :: tail ++ rest) =
      startsDocComment (first :: second :: third :: fourth :: tail) := by
  by_cases opens : first = '/' ∧ second = '*' ∧ third = '*'
  · rcases opens with ⟨rfl, rfl, rfl⟩
    rfl
  · have other : ∀ tail, startsDocComment (first :: second :: third :: fourth :: tail) = false := by
      intro tail
      rw [startsDocComment]
      intro _ _ same
      simp only [List.cons.injEq] at same
      exact opens ⟨same.1, same.2.1, same.2.2.1⟩
    exact (other (tail ++ rest)).trans (other tail).symm

/-- A close tag is one whatever follows it. -/
theorem closeTagLength_pos_of_append (positive : 0 < closeTagLength (piece ++ rest))
    (whole : closeTagLength (piece ++ rest) = piece.length) : 0 < closeTagLength piece := by
  rw [closeTagLength_pos_iff, List.isPrefixOf_iff_prefix] at positive ⊢
  refine List.prefix_of_prefix_length_le positive (List.prefix_append _ _) ?_
  rcases positive with ⟨tail, text_eq⟩
  rw [← whole, ← text_eq, List.cons_append, List.cons_append, closeTagLength_closesTag]
  exact Nat.le_add_right _ _

/-- A line comment is one whatever follows it. -/
theorem lineCommentLength_pos_of_append (positive : 0 < lineCommentLength (piece ++ rest))
    (whole : lineCommentLength (piece ++ rest) = piece.length) : 0 < lineCommentLength piece := by
  have starts : ∀ {sign : List Char}, sign.isPrefixOf (piece ++ rest) = true →
      sign.length ≤ piece.length → sign.isPrefixOf piece = true := fun here within =>
    List.isPrefixOf_iff_prefix.mpr (List.prefix_of_prefix_length_le
      (List.isPrefixOf_iff_prefix.mp here) (List.prefix_append _ _) within)
  rw [lineCommentLength_pos_iff]
  rcases lineCommentLength_pos_iff.mp positive with slashes | hash
  · refine .inl (starts slashes ?_)
    rcases List.isPrefixOf_iff_prefix.mp slashes with ⟨tail, text_eq⟩
    rw [← whole, ← text_eq, List.cons_append, List.cons_append, lineCommentLength]
    exact Nat.le_add_right _ _
  · exact .inr (starts hash (whole ▸ positive))

namespace Scanner

variable (scanner : Scanner) {move : Move}

theorem exists_plainMove (text : List Char) (kind : TokenKind) {length : Nat}
    (positive : 0 < length) :
    ∃ alone, scanner.plainMove text kind length = .ok alone ∧ alone.kind = kind :=
  ⟨⟨kind, length, .code, scanner.nesting, positive⟩, dif_pos positive, rfl⟩

/-- The step over a string, a name or an operator, where no variable, cast or number stands. -/
def literalMove (text : List Char) : Except LexFailure Move :=
  if 0 < stringLength '\'' text then scanner.plainMove text .plainString (stringLength '\'' text)
  else if 0 < stringLength '"' text then
    scanner.plainMove text
      (if hasInterpolation none (text.take (stringLength '"' text)) then .templateString
        else .plainString)
      (stringLength '"' text)
  else if 0 < stringLength '\x60' text then
    scanner.plainMove text .backtick (stringLength '\x60' text)
  else if 0 < nameLength text then
    scanner.plainMove text (scanner.wordKind (String.ofList (text.take (nameLength text))))
      (nameLength text)
  else
    match operators.find? fun entry => entry.1.toList.isPrefixOf text with
    | some (spelling, kind) => scanner.operatorMove text kind spelling.length
    | none => .error (scanner.unexpected text)

theorem wordMove_eq_literalMove {text : List Char} (noVariable : ¬0 < variableLength text)
    (noCast : cast? (castNames.map Prod.fst) text = none) (noFloat : ¬0 < floatLength text)
    (noInteger : ¬0 < integerLength text) : scanner.wordMove text = scanner.literalMove text := by
  simp only [wordMove, noVariable, noCast, noFloat, noInteger, if_false]
  rfl

theorem exists_literalMove_alone (moved : scanner.literalMove (piece ++ rest) = .ok move)
    (whole : move.length = piece.length) :
    ∃ alone, scanner.literalMove piece = .ok alone ∧ alone.kind = move.kind := by
  have nonempty : piece ≠ [] := by
    rintro rfl
    exact absurd move.length_pos (by simp [whole])
  have head_eq : (piece ++ rest).head? = piece.head? := List.head?_append_of_ne_nil _ nonempty
  have positive : 0 < piece.length := List.length_pos_iff.mpr nonempty
  have noString : ∀ {quote : Char}, piece.head? ≠ some quote → ¬0 < stringLength quote piece :=
    fun other => Nat.not_lt.mpr (Nat.le_of_eq (stringLength_eq_zero other))
  simp only [literalMove] at moved ⊢
  split at moved
  · rename_i here
    rcases scanner.of_plainMove moved with ⟨kind_eq, length_eq⟩
    rcases stringLength_of_whole (by decide) here (length_eq.symm.trans whole) with
      ⟨quoted, alone_eq⟩
    rw [alone_eq, if_pos positive, kind_eq]
    exact scanner.exists_plainMove _ _ positive
  split at moved
  · rename_i here
    rcases scanner.of_plainMove moved with ⟨kind_eq, length_eq⟩
    rcases stringLength_of_whole (by decide) here (length_eq.symm.trans whole) with
      ⟨quoted, alone_eq⟩
    rw [if_neg (noString (by rw [quoted]; decide)), alone_eq, if_pos positive, kind_eq,
      ← length_eq, whole, List.take_left, List.take_length]
    exact scanner.exists_plainMove _ _ positive
  split at moved
  · rename_i here
    rcases scanner.of_plainMove moved with ⟨kind_eq, length_eq⟩
    rcases stringLength_of_whole (by decide) here (length_eq.symm.trans whole) with
      ⟨quoted, alone_eq⟩
    rw [if_neg (noString (by rw [quoted]; decide)), if_neg (noString (by rw [quoted]; decide)),
      alone_eq, if_pos positive, kind_eq]
    exact scanner.exists_plainMove _ _ positive
  split at moved
  · rename_i here
    rcases scanner.of_plainMove moved with ⟨kind_eq, length_eq⟩
    have same : nameLength (piece ++ rest) = nameLength piece := nameLength_of_append (by omega)
    have alone_eq : nameLength piece = piece.length := by rw [← same, ← length_eq, whole]
    have starts : piece.head?.any isNameStart = true :=
      nameLength_pos_iff.mp (alone_eq ▸ positive)
    have unquoted : ∀ quote ∈ ['\'', '"', '\x60'], piece.head? ≠ some quote := by
      intro quote among found
      have plain : ∀ quote ∈ ['\'', '"', '\x60'], isNameStart quote = false := by decide
      rw [found, Option.any_some, plain quote among] at starts
      cases starts
    rw [if_neg (noString (unquoted _ (by decide))), if_neg (noString (unquoted _ (by decide))),
      if_neg (noString (unquoted _ (by decide))), alone_eq, if_pos positive, kind_eq, ← length_eq,
      whole, List.take_left, List.take_length]
    exact scanner.exists_plainMove _ _ positive
  split at moved
  · rename_i sign kind found
    have here := List.find?_some (p := fun entry : String × TokenKind =>
      entry.1.toList.isPrefixOf (piece ++ rest)) found
    rcases operators_alone _ (List.mem_of_find?_eq_some found) with ⟨strings, name, operator⟩
    simp only [operatorMove] at moved
    split at moved
    · rename_i sign_pos
      cases moved
      have length_eq : sign.toList.length = piece.length := String.length_toList.trans whole
      have piece_eq : sign.toList = piece :=
        (List.prefix_of_prefix_length_le (List.isPrefixOf_iff_prefix.mp here)
          (List.prefix_append _ _) (Nat.le_of_eq length_eq)).eq_of_length length_eq
      subst piece_eq
      rw [strings _ (by decide), strings _ (by decide), strings _ (by decide), name]
      simp only [Nat.lt_irrefl, if_false, operator, operatorMove, sign_pos, dif_pos]
      exact ⟨_, rfl, rfl⟩
    · cases moved
  · cases moved

/-- A word, a number, a string or an operator is read alone as it is read in front of a text. -/
theorem exists_wordMove_alone (moved : scanner.wordMove (piece ++ rest) = .ok move)
    (whole : move.length = piece.length) :
    ∃ alone, scanner.wordMove piece = .ok alone ∧ alone.kind = move.kind := by
  have nonempty : piece ≠ [] := by
    rintro rfl
    exact absurd move.length_pos (by simp [whole])
  have head_eq : (piece ++ rest).head? = piece.head? := List.head?_append_of_ne_nil _ nonempty
  by_cases noVariable : 0 < variableLength (piece ++ rest)
  · rw [wordMove, if_pos noVariable] at moved
    rcases scanner.of_plainMove moved with ⟨kind_eq, length_eq⟩
    have same : variableLength (piece ++ rest) = variableLength piece :=
      variableLength_of_append (by omega)
    rw [wordMove, if_pos (same ▸ noVariable), kind_eq]
    exact scanner.exists_plainMove _ _ (same ▸ noVariable)
  have noVariable' : ¬0 < variableLength piece :=
    Nat.not_lt.mpr (Nat.le_of_eq (variableLength_eq_zero_of_append noVariable))
  cases cast : cast? (castNames.map Prod.fst) (piece ++ rest) with
  | some found =>
      simp only [wordMove, if_neg noVariable, cast, castMove] at moved
      split at moved
      · rename_i kind listed
        rcases scanner.of_plainMove moved with ⟨kind_eq, length_eq⟩
        simp only [wordMove, if_neg noVariable', cast?_of_append cast (by omega), castMove, listed]
        rw [kind_eq]
        exact scanner.exists_plainMove _ _ (length_cast?_pos castNames_proper cast)
      · cases moved
  | none =>
      have cast' := cast?_append_eq_none cast
      by_cases noFloat : 0 < floatLength (piece ++ rest)
      · simp only [wordMove, if_neg noVariable, cast, if_pos noFloat] at moved
        rcases scanner.of_plainMove moved with ⟨kind_eq, length_eq⟩
        have floats := floatLength_pos_of_append noFloat (by omega)
        simp only [wordMove, if_neg noVariable', cast', if_pos floats, kind_eq]
        exact scanner.exists_plainMove _ _ floats
      by_cases noInteger : 0 < integerLength (piece ++ rest)
      · simp only [wordMove, if_neg noVariable, cast, if_neg noFloat, if_pos noInteger] at moved
        rcases scanner.of_plainMove moved with ⟨kind_eq, length_eq⟩
        have unfloated := floatLength_of_integer (length_eq.symm.trans whole) noInteger
        have digits : 0 < integerLength piece := by
          rw [integerLength_pos_iff, ← head_eq]
          exact integerLength_pos_iff.mp noInteger
        simp only [wordMove, if_neg noVariable', cast', unfloated, Nat.lt_irrefl, if_false,
          if_pos digits, kind_eq]
        exact scanner.exists_plainMove _ _ digits
      rw [scanner.wordMove_eq_literalMove noVariable cast noFloat noInteger] at moved
      have noInteger' : ¬0 < integerLength piece := by
        rwa [integerLength_pos_iff, ← head_eq, ← integerLength_pos_iff]
      have noDigit : piece.head?.any isDigit = false :=
        Bool.eq_false_iff.mpr (mt integerLength_pos_iff.mpr noInteger')
      have noFloat' : ¬0 < floatLength piece :=
        Nat.not_lt.mpr (Nat.le_of_eq (floatLength_eq_zero_of_append noDigit noFloat))
      rw [scanner.wordMove_eq_literalMove noVariable' cast' noFloat' noInteger']
      exact scanner.exists_literalMove_alone moved whole

/-- The kind that a step gives. Of the pieces that a scan cuts off, only a heredoc is not complete
when it is read alone. -/
def kindOfStep (step : Except LexFailure Move) : TokenKind :=
  (step.toOption.map Move.kind).getD .heredoc

/-- The kind that a piece has when it is read alone. -/
def kindAlone (piece : List Char) : TokenKind := kindOfStep (scanner.move piece)

theorem kindAlone_of_codeMove {alone : Move} (code : scanner.mode = .code)
    (moved : scanner.codeMove piece = .ok alone) : scanner.kindAlone piece = alone.kind := by
  simp only [kindAlone, Scanner.move, code, moved]
  rfl

theorem kindAlone_of_heredocMove (code : scanner.mode = .code)
    (starts : ['<', '<', '<'].isPrefixOf (piece ++ rest) = true)
    (moved : scanner.heredocMove (piece ++ rest) = .ok move)
    (whole : move.length = piece.length) : scanner.kindAlone piece = move.kind := by
  have untagged : ∀ tail, ¬0 < closeTagLength ('<' :: tail) := by
    intro tail
    rw [closeTagLength_pos_iff]
    simp
  simp only [heredocMove] at moved
  split at moved
  · simp only [operatorMove] at moved
    cases moved
    rcases piece with _ | ⟨first, _ | ⟨second, _ | ⟨third, tail⟩⟩⟩
    · cases whole
    · cases whole
    · simp only [List.cons_append, List.isPrefixOf_cons_cons, Bool.and_eq_true,
        beq_iff_eq] at starts
      rcases starts with ⟨rfl, rfl, -⟩
      rw [kindAlone, Scanner.move, code]
      rfl
    · simp at whole
  · rename_i label startLength started
    split at moved
    · rename_i bodyLength closes
      rcases scanner.of_plainMove moved with ⟨kind_eq, length_eq⟩
      rcases exists_heredocStart started with ⟨blanks, quote, lineBreak, after, text_eq, parts⟩
      have start_eq := started
      rw [text_eq, heredocStart?_heredocText parts, Option.some.injEq, Prod.mk.injEq] at start_eq
      have front : heredocText blanks quote label lineBreak <+: piece := by
        have begins : heredocText blanks quote label lineBreak <+: piece ++ rest := by
          rw [text_eq]
          exact List.prefix_append _ _
        exact List.prefix_of_prefix_length_le begins (List.prefix_append _ _) (by omega)
      rcases front with ⟨body, rfl⟩
      have shape : heredocText blanks quote label lineBreak ++ body =
          '<' :: '<' :: '<' :: (blanks ++ (quote ++ (label ++ (quote ++ lineBreak))) ++ body) := rfl
      have starts' : ['<', '<', '<'].isPrefixOf
          (heredocText blanks quote label lineBreak ++ body) = true := rfl
      rw [kind_eq, kindAlone]
      simp only [Scanner.move, code, codeMove]
      rw [dif_neg (by rw [shape]; exact untagged _), if_pos starts', heredocMove,
        heredocStart?_heredocText parts]
      dsimp only
      split
      · rename_i inner closesAlone
        simp only [plainMove]
        split <;> rfl
      · rfl
    · cases moved

theorem kindAlone_of_markupMove (markup : scanner.mode = .markup)
    (moved : scanner.markupMove (piece ++ rest) = .ok move)
    (whole : move.length = piece.length) : scanner.kindAlone piece = move.kind := by
  have nonempty : 0 < piece.length := whole ▸ move.length_pos
  simp only [kindAlone, Scanner.move, markup]
  simp only [markupMove] at moved ⊢
  split at moved
  · rename_i opens
    cases moved
    have whole : openTagLength (piece ++ rest) = piece.length := whole
    have long : 2 < piece.length := by
      rw [← whole]
      rcases exists_openTag opens with ⟨tail, text_eq⟩ | ⟨_, _, _, tail, text_eq, letters⟩
      · rw [text_eq, openTagLength]
        omega
      · rw [text_eq, openTagLength_long _ letters]
        omega
    have same := openTagLength_of_append (Nat.le_of_eq whole)
    have third_eq : ((piece ++ rest).drop 2).head? = (piece.drop 2).head? := by
      rw [List.drop_append_of_le_length (by omega)]
      refine List.head?_append_of_ne_nil _ ?_
      rw [ne_eq, List.drop_eq_nil_iff]
      omega
    rw [dif_pos (same ▸ opens), third_eq]
    rfl
  · rename_i absent
    split at moved
    · cases moved
      have closed : ¬0 < openTagLength piece := fun opens =>
        absent (openTagLength_append_pos rest opens)
      have text : 0 < markupLength piece := by
        cases piece with
        | nil => cases nonempty
        | cons first tail =>
            rw [markupLength, if_neg closed]
            omega
      rw [dif_neg closed, dif_pos text]
      rfl
    · cases moved

theorem kindAlone_of_blockComment (code : scanner.mode = .code) {length : Nat}
    (noTag : ¬0 < closeTagLength piece) (noHeredoc : ¬['<', '<', '<'].isPrefixOf piece = true)
    (opens : ['/', '*'].isPrefixOf (piece ++ rest) = true)
    (found : blockCommentLength? (piece ++ rest) = some length) (whole : length = piece.length) :
    scanner.kindAlone piece =
      if startsDocComment (piece ++ rest) then .docComment else .comment := by
  simp only [blockCommentLength?, Option.map_eq_some_iff] at found
  rcases found with ⟨inner, ends, rfl⟩
  have long := two_le_of_lengthToCommentEnd? ends
  rw [List.drop_append_of_le_length (by omega)] at ends
  have endsAlone := lengthToCommentEnd?_of_append ends (by
    rw [List.length_drop]
    omega)
  have opensAlone : ['/', '*'].isPrefixOf piece = true :=
    List.isPrefixOf_iff_prefix.mpr (List.prefix_of_prefix_length_le
      (List.isPrefixOf_iff_prefix.mp opens) (List.prefix_append _ _) (by
        rw [← whole]
        exact Nat.le_add_left _ _))
  have doc_eq : startsDocComment (piece ++ rest) = startsDocComment piece := by
    rcases piece with _ | ⟨_, _ | ⟨_, _ | ⟨_, _ | ⟨_, tail⟩⟩⟩⟩
    · cases whole
    · simp at whole
    · simp at whole
      omega
    · simp at whole
      omega
    · exact startsDocComment_append _ _ _ _ tail rest
  rw [doc_eq]
  rcases scanner.exists_plainMove piece
    (if startsDocComment piece then .docComment else .comment) (Nat.succ_pos (inner + 1)) with
    ⟨alone, moved, kind_eq⟩
  rw [← kind_eq]
  refine scanner.kindAlone_of_codeMove code ?_
  rw [codeMove, dif_neg noTag, if_neg noHeredoc, if_pos opensAlone]
  simp only [blockCommentLength?, endsAlone, Option.map_some]
  exact moved

/-- The kind of a piece is the one that it has when it is read alone. -/
theorem kind_eq_kindAlone (moved : scanner.move (piece ++ rest) = .ok move)
    (whole : move.length = piece.length) : move.kind = scanner.kindAlone piece := by
  have nonempty : piece ≠ [] := List.length_pos_iff.mp (whole ▸ move.length_pos)
  have head_eq : (piece ++ rest).head? = piece.head? := List.head?_append_of_ne_nil _ nonempty
  symm
  cases mode_eq : scanner.mode with
  | markup =>
      rw [Scanner.move, mode_eq] at moved
      exact scanner.kindAlone_of_markupMove mode_eq moved whole
  | code =>
      simp only [Scanner.move, mode_eq, codeMove] at moved
      split at moved
      · rename_i closes
        cases moved
        have closesAlone := closeTagLength_pos_of_append closes whole
        simp only [kindAlone, Scanner.move, mode_eq, codeMove, dif_pos closesAlone]
        rfl
      rename_i noTag
      have noTag : ¬0 < closeTagLength piece := by
        rw [closeTagLength_pos_iff] at noTag ⊢
        exact isPrefixOf_of_append_eq_false noTag
      split at moved
      · rename_i starts
        exact scanner.kindAlone_of_heredocMove mode_eq starts moved whole
      rename_i noHeredoc
      have noHeredoc := isPrefixOf_of_append_eq_false noHeredoc
      split at moved
      · rename_i opens
        split at moved
        · cases moved
        · rename_i length found
          rcases scanner.of_plainMove moved with ⟨kind_eq, length_eq⟩
          rw [kind_eq]
          exact scanner.kindAlone_of_blockComment mode_eq noTag noHeredoc opens found
            (length_eq.symm.trans whole)
      rename_i noBlock
      have noBlock := isPrefixOf_of_append_eq_false noBlock
      have blank_iff : 0 < whitespaceLength (piece ++ rest) ↔ 0 < whitespaceLength piece := by
        rw [whitespaceLength_pos_iff, whitespaceLength_pos_iff, head_eq]
      split at moved
      · rename_i blank
        rcases scanner.of_plainMove moved with ⟨kind_eq, -⟩
        have blank := blank_iff.mp blank
        rcases scanner.exists_plainMove piece .whitespace blank with ⟨alone, movedAlone, alone_eq⟩
        rw [kind_eq, ← alone_eq]
        refine scanner.kindAlone_of_codeMove mode_eq ?_
        rw [codeMove, dif_neg noTag, if_neg noHeredoc, if_neg noBlock, if_pos blank, movedAlone]
      rename_i noBlank
      have noBlank := mt blank_iff.mpr noBlank
      split at moved
      · rename_i comments
        rcases scanner.of_plainMove moved with ⟨kind_eq, length_eq⟩
        have comments := lineCommentLength_pos_of_append comments (length_eq.symm.trans whole)
        rcases scanner.exists_plainMove piece .comment comments with ⟨alone, movedAlone, alone_eq⟩
        rw [kind_eq, ← alone_eq]
        refine scanner.kindAlone_of_codeMove mode_eq ?_
        rw [codeMove, dif_neg noTag, if_neg noHeredoc, if_neg noBlock, if_neg noBlank,
          if_pos comments, movedAlone]
      rename_i noComment
      have noComment : ¬0 < lineCommentLength piece := by
        rw [lineCommentLength_pos_iff, not_or] at noComment ⊢
        exact ⟨isPrefixOf_of_append_eq_false noComment.1,
          isPrefixOf_of_append_eq_false noComment.2⟩
      rcases scanner.exists_wordMove_alone moved whole with ⟨alone, movedAlone, alone_eq⟩
      rw [← alone_eq]
      refine scanner.kindAlone_of_codeMove mode_eq ?_
      rw [codeMove, dif_neg noTag, if_neg noHeredoc, if_neg noBlock, if_neg noBlank,
        if_neg noComment, movedAlone]

section Relation

variable {first second : Scanner} {related : TokenKind → TokenKind → Prop}

theorem kindOfStep_plainMove (text : List Char) (kind : TokenKind) (length : Nat) :
    kindOfStep (scanner.plainMove text kind length) = if 0 < length then kind else .heredoc := by
  simp only [plainMove]
  split <;> rfl

theorem kindOfStep_operatorMove (text : List Char) (kind : TokenKind) (length : Nat) :
    kindOfStep (scanner.operatorMove text kind length) =
      if 0 < length then (scanner.nesting.readOperator scanner.lastCodeKind kind).1
      else .heredoc := by
  simp only [operatorMove]
  split <;> rfl

/-- Two scans in one mode, where a word is kept a name by both or by none, read a piece as kinds
that are related if those of operators are. -/
theorem kindAlone_related (same : ∀ kind, related kind kind)
    (operators : ∀ kind, related (first.nesting.readOperator first.lastCodeKind kind).1
      (second.nesting.readOperator second.lastCodeKind kind).1)
    (mode_eq : first.mode = second.mode)
    (keeps_eq : first.lastCodeKind.any keepsName = second.lastCodeKind.any keepsName)
    (piece : List Char) : related (first.kindAlone piece) (second.kindAlone piece) := by
  have plain : ∀ kind length, related (kindOfStep (first.plainMove piece kind length))
      (kindOfStep (second.plainMove piece kind length)) := by
    intro kind length
    rw [kindOfStep_plainMove, kindOfStep_plainMove]
    exact same _
  have operator : ∀ kind length, related (kindOfStep (first.operatorMove piece kind length))
      (kindOfStep (second.operatorMove piece kind length)) := by
    intro kind length
    rw [kindOfStep_operatorMove, kindOfStep_operatorMove]
    split
    · exact operators kind
    · exact same _
  have word_eq : ∀ word, first.wordKind word = second.wordKind word := by
    intro word
    simp only [wordKind, keeps_eq]
  have faults : ∀ one other, related (kindOfStep (.error one)) (kindOfStep (.error other)) :=
    fun _ _ => same .heredoc
  have words :
      related (kindOfStep (first.wordMove piece)) (kindOfStep (second.wordMove piece)) := by
    simp only [wordMove, castMove, word_eq]
    repeat' split
    all_goals first | exact plain _ _ | exact operator _ _ | exact faults _ _
  have codes :
      related (kindOfStep (first.codeMove piece)) (kindOfStep (second.codeMove piece)) := by
    simp only [codeMove, heredocMove]
    repeat' split
    all_goals first
      | exact same _ | exact plain _ _ | exact operator _ _ | exact words
  have markups :
      related (kindOfStep (first.markupMove piece)) (kindOfStep (second.markupMove piece)) := by
    simp only [markupMove]
    repeat' split
    all_goals exact same _
  simp only [kindAlone, Scanner.move, mode_eq]
  split
  · exact markups
  · exact codes

end Relation

end Scanner

end TokenLint.Lexer
