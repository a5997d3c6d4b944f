import TokenLint.Proofs.Lexer.Ends
import TokenLint.Proofs.Lexer.Similar

/-!
# Steps that end before a soft text

A blank, a parenthesis, a question mark or a colon goes on with few shapes, and completes no sign
that a shape begins or ends with. So where the text goes on with one of them, a step that ends in
front of it is the step that is taken without it.
-/

namespace TokenLint.Lexer

open Text

/-- The characters that are trimmed from the ends of a text. -/
def blankChars : List Char :=
  ['\t', '\n', '\x0b', '\x0c', '\r', '\x1c', '\x1d', '\x1e', '\x1f', ' ', '\u0085', '\u00a0',
    '\u1680', '\u2000', '\u2001', '\u2002', '\u2003', '\u2004', '\u2005', '\u2006', '\u2007',
    '\u2008', '\u2009', '\u200a', '\u2028', '\u2029', '\u202f', '\u205f', '\u3000']

theorem mem_blankChars {char : Char} (blank : isBlank char = true) : char ∈ blankChars := by
  have code : char.toNat ∈ blankChars.map Char.toNat := by
    simp only [isBlank, Bool.or_eq_true, Bool.and_eq_true, decide_eq_true_eq, beq_iff_eq] at blank
    have codes : blankChars.map Char.toNat =
        [9, 10, 11, 12, 13, 28, 29, 30, 31, 32, 133, 160, 5760, 8192, 8193, 8194, 8195, 8196,
          8197, 8198, 8199, 8200, 8201, 8202, 8232, 8233, 8239, 8287, 12288] := by decide
    rw [codes]
    simp only [List.mem_cons, List.not_mem_nil, or_false]
    omega
  rcases List.mem_map.mp code with ⟨other, member, same⟩
  rw [← Char.toNat_inj.mp same]
  exact member

/-- Whether a character is one that is stripped from the ends of a condition. -/
def isLoose (char : Char) : Bool := isBlank char || char == '(' || char == ')'

/-- The characters that may come and go at the ends of a condition. -/
def looseChars : List Char := '(' :: ')' :: blankChars

theorem mem_looseChars {char : Char} (loose : isLoose char = true) : char ∈ looseChars := by
  simp only [isLoose, Bool.or_eq_true, beq_iff_eq] at loose
  rcases loose with (blank | rfl) | rfl
  · exact List.mem_cons_of_mem _ (List.mem_cons_of_mem _ (mem_blankChars blank))
  · decide
  · decide

/-- Whether a text is empty or begins with a loose character, a question mark or a colon. -/
def Soft (text : List Char) : Prop := ∀ char ∈ text.head?, char ∈ '?' :: ':' :: looseChars

/-- Whether a text is empty or begins with a loose character. -/
def BeginsLoose (text : List Char) : Prop := ∀ char ∈ text.head?, char ∈ looseChars

variable {text piece rest : List Char}

theorem BeginsLoose.soft (loose : BeginsLoose rest) : Soft rest :=
  fun char found => List.mem_cons_of_mem _ (List.mem_cons_of_mem _ (loose char found))

/-- A sign is not completed by a rest that begins with a character that the sign has not. -/
theorem isPrefixOf_append_of_head {sign : List Char}
    (apart : ∀ char ∈ rest.head?, char ∉ sign) :
    sign.isPrefixOf (text ++ rest) = sign.isPrefixOf text := by
  induction text generalizing sign with
  | nil =>
      cases sign with
      | nil => rfl
      | cons char sign =>
          rw [List.nil_append, List.isPrefixOf_cons_nil, ← Bool.not_eq_true,
            List.isPrefixOf_iff_prefix]
          rintro ⟨tail, rfl⟩
          exact apart char rfl (List.mem_cons_self ..)
  | cons first text ih =>
      cases sign with
      | nil => rfl
      | cons char sign =>
          rw [List.cons_append, List.isPrefixOf_cons_cons, List.isPrefixOf_cons_cons,
            ih fun other found member => apart other found (List.mem_cons_of_mem _ member)]

/-- A sign is not completed by a rest that begins with none of its characters but the first. -/
theorem isPrefixOf_append_of_tail {sign : List Char}
    (apart : ∀ char ∈ rest.head?, char ∉ sign.tail) (nonempty : text ≠ []) :
    sign.isPrefixOf (text ++ rest) = sign.isPrefixOf text := by
  cases text with
  | nil => exact absurd rfl nonempty
  | cons char text =>
      cases sign with
      | nil => rfl
      | cons first sign =>
          have apart : ∀ char ∈ rest.head?, char ∉ sign := apart
          rw [List.cons_append, List.isPrefixOf_cons_cons, List.isPrefixOf_cons_cons,
            isPrefixOf_append_of_head apart]

namespace Soft

theorem stops (soft : Soft rest) {inRun : Char → Bool}
    (outside : ∀ char ∈ '?' :: ':' :: looseChars, inRun char = false) : Stops inRun rest :=
  fun char found => outside char (soft char found)

theorem head?_ne (soft : Soft rest) {char : Char} (hard : char ∉ '?' :: ':' :: looseChars) :
    rest.head? ≠ some char :=
  fun found => hard (soft char (Option.mem_def.mpr found))

theorem head?_append_iff (soft : Soft rest) {char : Char}
    (hard : char ∉ '?' :: ':' :: looseChars) :
    (text ++ rest).head? = some char ↔ text.head? = some char := by
  cases text with
  | nil => simpa using soft.head?_ne hard
  | cons first text => rfl

/-- A sign that is hard after its first character is not completed by the rest of a text. -/
theorem isPrefixOf_cons_append (soft : Soft rest) {first : Char} {sign : List Char}
    (hard : ∀ char ∈ sign, char ∉ '?' :: ':' :: looseChars) (nonempty : text ≠ []) :
    (first :: sign).isPrefixOf (text ++ rest) = (first :: sign).isPrefixOf text :=
  isPrefixOf_append_of_tail (fun char found member => hard char member (soft char found)) nonempty

end Soft

/-! ### Runs -/

/-- A run that ends in front of the rest, ends there without it. -/
theorem runLength_of_append {inRun : Char → Bool}
    (within : runLength inRun (text ++ rest) ≤ text.length) :
    runLength inRun (text ++ rest) = runLength inRun text := by
  simp only [runLength, List.takeWhile_append] at within ⊢
  split
  · rename_i whole
    rw [if_pos whole, List.length_append] at within
    rw [List.length_append, whole]
    omega
  · rfl

theorem runLength_append_of_stops {inRun : Char → Bool} (stops : Stops inRun rest) :
    runLength inRun (text ++ rest) = runLength inRun text := by
  have none_left : rest.takeWhile inRun = [] := by
    cases rest with
    | nil => rfl
    | cons first rest => simp [stops_cons.mp stops]
  simp only [runLength, List.takeWhile_append, none_left, List.append_nil]
  split
  · rename_i whole
    exact whole.symm
  · rfl

theorem Soft.runLength_eq (soft : Soft rest) {inRun : Char → Bool}
    (outside : ∀ char ∈ '?' :: ':' :: looseChars, inRun char = false) :
    runLength inRun (text ++ rest) = runLength inRun text :=
  runLength_append_of_stops (soft.stops outside)

theorem nameLength_of_append (within : nameLength (text ++ rest) ≤ text.length) :
    nameLength (text ++ rest) = nameLength text := by
  cases text with
  | nil => exact Nat.le_zero.mp within
  | cons first text =>
      simp only [List.cons_append, nameLength, List.length_cons] at within ⊢
      split
      · rename_i starts
        rw [if_pos starts] at within
        rw [runLength_of_append (by omega)]
      · rfl

theorem variableLength_of_append (within : variableLength (text ++ rest) ≤ text.length) :
    variableLength (text ++ rest) = variableLength text := by
  cases text with
  | nil => exact Nat.le_zero.mp within
  | cons first text =>
      by_cases dollar : first = '$'
      · subst dollar
        simp only [List.cons_append, variableLength, List.length_cons] at within ⊢
        have same : nameLength (text ++ rest) = nameLength text := by
          apply nameLength_of_append
          split at within <;> omega
        rw [same]
      · simp [variableLength, dollar]

/-! ### Line breaks -/

theorem lineBreakLength_of_append (within : lineBreakLength (text ++ rest) ≤ text.length) :
    lineBreakLength (text ++ rest) = lineBreakLength text := by
  rcases text with _ | ⟨first, _ | ⟨second, text⟩⟩
  · exact Nat.le_zero.mp within
  · simp only [List.cons_append, List.nil_append, lineBreakLength_cons, List.length_cons,
      List.length_nil] at within ⊢
    split
    · rename_i breaks
      rw [if_pos breaks] at within
      split at within
      · omega
      · rename_i single
        simp [single]
    · rfl
  · rw [List.cons_append, List.cons_append, lineBreakLength_cons, lineBreakLength_cons]
    rfl

theorem labelBreakLength_of_append (within : labelBreakLength (text ++ rest) ≤ text.length) :
    labelBreakLength (text ++ rest) = labelBreakLength text := by
  rcases text with _ | ⟨first, _ | ⟨second, text⟩⟩
  · exact Nat.le_zero.mp within
  · simp only [List.cons_append, List.nil_append, labelBreakLength_cons, List.length_cons,
      List.length_nil] at within ⊢
    split
    · rfl
    · rename_i unbroken
      rw [if_neg unbroken] at within
      split at within
      · omega
      · rename_i single
        simp [single]
  · rw [List.cons_append, List.cons_append, labelBreakLength_cons, labelBreakLength_cons]
    rfl

theorem absorbedLength_of_append (within : absorbedLength (text ++ rest) ≤ text.length) :
    absorbedLength (text ++ rest) = absorbedLength text := by
  rcases text with _ | ⟨first, _ | ⟨second, text⟩⟩
  · exact Nat.le_zero.mp within
  · simp only [List.cons_append, List.nil_append, absorbedLength_cons, List.length_cons,
      List.length_nil] at within ⊢
    split
    · rename_i pair
      rw [if_pos pair] at within
      omega
    · simp
  · rw [List.cons_append, List.cons_append, absorbedLength_cons, absorbedLength_cons]
    rfl

theorem whitespaceLength_of_append (within : whitespaceLength (text ++ rest) ≤ text.length) :
    whitespaceLength (text ++ rest) = whitespaceLength text := by
  simp only [whitespaceLength] at within ⊢
  have run_eq : runLength isSpaceOrTab (text ++ rest) = runLength isSpaceOrTab text :=
    runLength_of_append (by omega)
  have run_le := runLength_le isSpaceOrTab text
  rw [run_eq, List.drop_append_of_le_length run_le] at within ⊢
  rw [lineBreakLength_of_append]
  rw [List.length_drop]
  omega

/-! ### Comments and tags -/

theorem lengthToCommentEnd?_of_append {length : Nat}
    (found : lengthToCommentEnd? (text ++ rest) = some length) (within : length ≤ text.length) :
    lengthToCommentEnd? text = some length := by
  have text_eq := List.take_append_drop length text
  have length_eq : (text.take length).length = length := by
    rw [List.length_take]
    omega
  rw [← text_eq, List.append_assoc] at found
  have ends := lengthToCommentEnd?_append (text.drop length) (found.trans (by rw [length_eq]))
  rwa [text_eq, length_eq] at ends

/-- How far a line comment reaches into a text behind another one. -/
theorem lineCommentReach_append (inside : rest.head? ≠ some '>') :
    lineCommentReach (text ++ rest) =
      lineCommentReach text + if lineCommentReach text = text.length then lineCommentReach rest
        else 0 := by
  induction text with
  | nil => simp [lineCommentReach]
  | cons char text ih =>
      have head_iff : (text ++ rest).head? = some '>' ↔ text.head? = some '>' := by
        cases text with
        | nil => simpa using inside
        | cons first text => rfl
      simp only [List.cons_append, lineCommentReach_cons, head_iff, List.length_cons]
      split
      · simp
      · rw [ih]
        have whole : 1 + lineCommentReach text = text.length + 1 ↔
            lineCommentReach text = text.length := by omega
        simp only [whole]
        omega

theorem Soft.lineCommentReach_append (soft : Soft rest) :
    lineCommentReach (text ++ rest) =
      lineCommentReach text + if lineCommentReach text = text.length then lineCommentReach rest
        else 0 :=
  Lexer.lineCommentReach_append (soft.head?_ne (by decide))

theorem lineCommentLength_of_pos {chars : List Char} (positive : 0 < lineCommentLength chars) :
    lineCommentLength chars = lineCommentReach chars := by
  rcases lineCommentLength_pos_iff.mp positive with slashes | hash
  · rcases List.isPrefixOf_iff_prefix.mp slashes with ⟨rest, rfl⟩
    simp only [List.cons_append, List.nil_append, lineCommentLength, lineCommentReach_cons]
    simp
    omega
  · rcases List.isPrefixOf_iff_prefix.mp hash with ⟨rest, rfl⟩
    simp [lineCommentLength, lineCommentReach_cons]

theorem Soft.lineCommentLength_append_pos_iff (soft : Soft rest) (nonempty : text ≠ []) :
    0 < lineCommentLength (text ++ rest) ↔ 0 < lineCommentLength text := by
  rw [lineCommentLength_pos_iff, lineCommentLength_pos_iff,
    soft.isPrefixOf_cons_append (by decide) nonempty,
    soft.isPrefixOf_cons_append (by decide) nonempty]

theorem Soft.lineCommentLength_of_append (soft : Soft rest)
    (within : lineCommentLength (text ++ rest) ≤ text.length) :
    lineCommentLength (text ++ rest) = lineCommentLength text := by
  by_cases nonempty : text = []
  · subst nonempty
    exact Nat.le_zero.mp within
  · by_cases opens : 0 < lineCommentLength text
    · have goesOn := (soft.lineCommentLength_append_pos_iff nonempty).mpr opens
      rw [lineCommentLength_of_pos goesOn, soft.lineCommentReach_append] at within ⊢
      rw [lineCommentLength_of_pos opens]
      split at within
      · rename_i whole
        rw [if_pos whole]
        omega
      · rename_i part
        rw [if_neg part, Nat.add_zero]
    · have absent := mt (soft.lineCommentLength_append_pos_iff nonempty).mp opens
      omega

/-- A line comment that goes on after a text takes all of the text, whatever follows it. -/
theorem Soft.length_le_lineCommentLength {other : List Char} (soft : Soft rest)
    (otherSoft : Soft other) (nonempty : text ≠ [])
    (beyond : text.length < lineCommentLength (text ++ rest)) :
    0 < lineCommentLength text ∧ text.length ≤ lineCommentLength (text ++ other) := by
  have opens := (soft.lineCommentLength_append_pos_iff nonempty).mp (by omega)
  have otherOpens := (otherSoft.lineCommentLength_append_pos_iff nonempty).mpr opens
  rw [lineCommentLength_of_pos (by omega), soft.lineCommentReach_append] at beyond
  have whole : lineCommentReach text = text.length := by
    by_contra part
    rw [if_neg part] at beyond
    have := lineCommentReach_le text
    omega
  refine ⟨opens, ?_⟩
  rw [lineCommentLength_of_pos otherOpens, otherSoft.lineCommentReach_append, whole]
  omega

theorem Soft.closeTagLength_of_append (soft : Soft rest)
    (within : closeTagLength (text ++ rest) ≤ text.length) :
    closeTagLength (text ++ rest) = closeTagLength text := by
  by_cases nonempty : text = []
  · subst nonempty
    exact Nat.le_zero.mp within
  · have closes_eq : ['?', '>'].isPrefixOf (text ++ rest) = ['?', '>'].isPrefixOf text :=
      soft.isPrefixOf_cons_append (by decide) nonempty
    by_cases closes : ['?', '>'].isPrefixOf text = true
    · rcases List.isPrefixOf_iff_prefix.mp closes with ⟨tail, rfl⟩
      simp only [List.cons_append, List.nil_append, closeTagLength_closesTag,
        List.length_cons] at within ⊢
      rw [labelBreakLength_of_append (by omega)]
    · have absent : ¬0 < closeTagLength text := by rwa [closeTagLength_pos_iff]
      have absent' : ¬0 < closeTagLength (text ++ rest) := by
        rwa [closeTagLength_pos_iff, closes_eq]
      omega

theorem openTagLength_of_append (within : openTagLength (text ++ rest) ≤ text.length) :
    openTagLength (text ++ rest) = openTagLength text := by
  by_cases opens : 0 < openTagLength (text ++ rest)
  · rcases exists_openTag opens with
      ⟨tail, text_eq⟩ | ⟨first, second, third, tail, text_eq, letters⟩
    · rw [text_eq] at within ⊢
      rcases text with _ | ⟨c1, _ | ⟨c2, _ | ⟨c3, text⟩⟩⟩
      · simp [openTagLength] at within
      · simp [openTagLength] at within
      · simp [openTagLength] at within
      · simp only [List.cons_append, List.cons.injEq] at text_eq
        rcases text_eq with ⟨rfl, rfl, rfl, -⟩
        rfl
    · rw [text_eq, openTagLength_long _ letters] at within ⊢
      rcases text with _ | ⟨c1, _ | ⟨c2, _ | ⟨c3, _ | ⟨c4, _ | ⟨c5, text⟩⟩⟩⟩⟩
      iterate 5
        · simp only [List.length_cons, List.length_nil] at within
          omega
      · simp only [List.cons_append, List.cons.injEq] at text_eq
        rcases text_eq with ⟨rfl, rfl, rfl, rfl, rfl, rfl⟩
        rw [openTagLength_long _ letters]
        simp only [List.length_cons] at within
        rw [absorbedLength_of_append (by omega)]
  · have absent := mt (openTagLength_append_pos rest) opens
    omega

/-- Whether a text is empty or begins with no character of an open tag. -/
def BeginsNoTag (text : List Char) : Prop :=
  ∀ char ∈ text.head?, char ≠ '<' ∧ char ≠ '?' ∧ char ≠ '=' ∧ char.toLower ≠ 'p' ∧
    char.toLower ≠ 'h'

theorem BeginsLoose.noTag (loose : BeginsLoose rest) : BeginsNoTag rest := by
  have apart : ∀ char ∈ looseChars, char ≠ '<' ∧ char ≠ '?' ∧ char ≠ '=' ∧
      char.toLower ≠ 'p' ∧ char.toLower ≠ 'h' := by decide
  exact fun char found => apart char (loose char found)

/-- A character that is none of an open tag does not complete one. -/
theorem BeginsNoTag.openTagLength_pos_of_append (noTag : BeginsNoTag rest)
    (opens : 0 < openTagLength (text ++ rest)) : 0 < openTagLength text := by
  have hard : ∀ {char : Char} {tail : List Char}, rest = char :: tail →
      char ≠ '<' ∧ char ≠ '?' ∧ char ≠ '=' ∧ char.toLower ≠ 'p' ∧ char.toLower ≠ 'h' := by
    rintro char tail rfl
    exact noTag char rfl
  rcases exists_openTag opens with ⟨tail, text_eq⟩ | ⟨first, second, third, tail, text_eq, letters⟩
  · rcases text with _ | ⟨c1, _ | ⟨c2, _ | ⟨c3, text⟩⟩⟩
    · exact absurd rfl (hard text_eq).1
    · simp only [List.cons_append, List.nil_append, List.cons.injEq] at text_eq
      exact absurd rfl (hard text_eq.2).2.1
    · simp only [List.cons_append, List.nil_append, List.cons.injEq] at text_eq
      exact absurd rfl (hard text_eq.2.2).2.2.1
    · simp only [List.cons_append, List.cons.injEq] at text_eq
      rcases text_eq with ⟨rfl, rfl, rfl, -⟩
      exact Nat.succ_pos _
  · rcases text with _ | ⟨c1, _ | ⟨c2, _ | ⟨c3, _ | ⟨c4, _ | ⟨c5, text⟩⟩⟩⟩⟩
    · exact absurd rfl (hard text_eq).1
    · simp only [List.cons_append, List.nil_append, List.cons.injEq] at text_eq
      exact absurd rfl (hard text_eq.2).2.1
    · simp only [List.cons_append, List.nil_append, List.cons.injEq] at text_eq
      exact absurd letters.1 (hard text_eq.2.2).2.2.2.1
    · simp only [List.cons_append, List.nil_append, List.cons.injEq] at text_eq
      exact absurd letters.2.1 (hard text_eq.2.2.2).2.2.2.2
    · simp only [List.cons_append, List.nil_append, List.cons.injEq] at text_eq
      exact absurd letters.2.2 (hard text_eq.2.2.2.2).2.2.2.1
    · simp only [List.cons_append, List.cons.injEq] at text_eq
      rcases text_eq with ⟨rfl, rfl, rfl, rfl, rfl, -⟩
      rw [openTagLength_long _ letters]
      omega

theorem BeginsLoose.markupLength_of_append (loose : BeginsLoose rest)
    (within : markupLength (text ++ rest) ≤ text.length) :
    markupLength (text ++ rest) = markupLength text := by
  induction text with
  | nil => exact Nat.le_zero.mp within
  | cons first text ih =>
      simp only [List.cons_append, markupLength, List.length_cons] at within ⊢
      rw [← List.cons_append] at within ⊢
      by_cases opens : 0 < openTagLength (first :: text)
      · rw [if_pos opens, if_pos (openTagLength_append_pos rest opens)]
      · have absent := mt loose.noTag.openTagLength_pos_of_append opens
        rw [if_neg absent] at within ⊢
        rw [if_neg opens, ih (by omega)]

/-! ### Numbers -/

/-- Whether a character may stand in the digits of a decimal number or in its exponent. -/
def isFigure (char : Char) : Bool :=
  isDigit char || ['_', '+', '-', 'e', 'E'].contains char

/-- Whether a character may stand in a decimal number. -/
def isDecimalPart (char : Char) : Bool := isFigure char || char == '.'

section Figures

variable (stops : Stops isFigure rest)

include stops

theorem stops_isDigit_of_figure : Stops isDigit rest := fun char found =>
  (Bool.or_eq_false_iff.mp (stops char found)).1

theorem head?_ne_of_figure {char : Char} (part : char ∈ ['_', '+', '-', 'e', 'E']) :
    rest.head? ≠ some char := by
  intro found
  have outside := (Bool.or_eq_false_iff.mp (stops char found)).2
  simp only [List.contains_eq_mem, decide_eq_false_iff_not] at outside
  exact outside part

theorem digitRunLength_append_of_stops : digitRunLength (text ++ rest) = digitRunLength text := by
  have noDigit := stops_isDigit_of_figure stops
  cases text with
  | nil =>
      cases rest with
      | nil => rfl
      | cons first rest => simp [digitRunLength, stops_cons.mp noDigit]
  | cons first text =>
      have outside : Stops (fun char => isDigit char || char == '_') rest := by
        intro char found
        have noUnderscore := head?_ne_of_figure stops (by decide : '_' ∈ _)
        rw [Bool.or_eq_false_iff, beq_eq_false_iff_ne]
        exact ⟨noDigit char found, fun same => noUnderscore (same ▸ found)⟩
      simp only [List.cons_append, digitRunLength]
      rw [runLength_append_of_stops outside]

theorem signLength_append_of_stops : signLength (text ++ rest) = signLength text := by
  have noPlus := head?_ne_of_figure stops (by decide : '+' ∈ _)
  have noMinus := head?_ne_of_figure stops (by decide : '-' ∈ _)
  cases text with
  | nil =>
      cases rest with
      | nil => rfl
      | cons first rest =>
          simp only [List.head?_cons, ne_eq, Option.some.injEq] at noPlus noMinus
          simp [signLength, noPlus, noMinus]
  | cons first text =>
      rw [List.cons_append, signLength.eq_def, signLength.eq_def]
      split <;> simp_all

theorem exponentLength_append_of_stops :
    exponentLength (text ++ rest) = exponentLength text := by
  cases text with
  | nil =>
      have noSmall := head?_ne_of_figure stops (by decide : 'e' ∈ _)
      have noCapital := head?_ne_of_figure stops (by decide : 'E' ∈ _)
      cases rest with
      | nil => rfl
      | cons first rest =>
          simp only [List.head?_cons, ne_eq, Option.some.injEq] at noSmall noCapital
          simp [exponentLength, noSmall, noCapital]
  | cons mark text =>
      have sign_le := signLength_le text
      have digits_eq : ∀ {text : List Char},
          runLength isDigit (text ++ rest) = runLength isDigit text :=
        runLength_append_of_stops (stops_isDigit_of_figure stops)
      simp only [List.cons_append, exponentLength, signLength_append_of_stops stops,
        List.drop_append_of_le_length sign_le, digits_eq]

end Figures

theorem stops_isFigure_of_decimal (stops : Stops isDecimalPart rest) : Stops isFigure rest :=
  fun char found => (Bool.or_eq_false_iff.mp (stops char found)).1

/-- A float is not continued by a rest that goes on with no decimal number. -/
theorem floatLength_append_of_stops (stops : Stops isDecimalPart rest) :
    floatLength (text ++ rest) = floatLength text := by
  have figures := stops_isFigure_of_decimal stops
  have noPoint : rest.head? ≠ some '.' := fun found => absurd (stops '.' found) (by decide)
  have pointed_iff : ∀ text : List Char,
      (text ++ rest).head? = some '.' ↔ text.head? = some '.' := by
    intro text
    cases text with
    | nil => simpa using noPoint
    | cons first text => rfl
  have whole_le := digitRunLength_le text
  have afterWhole : (text ++ rest).drop (digitRunLength text) =
      text.drop (digitRunLength text) ++ rest := List.drop_append_of_le_length whole_le
  by_cases pointed : (text.drop (digitRunLength text)).head? = some '.'
  · rcases List.head?_eq_some_iff.mp pointed with ⟨fraction, fraction_eq⟩
    have places_le := digitRunLength_le fraction
    simp only [floatLength, digitRunLength_append_of_stops figures, afterWhole, fraction_eq,
      List.cons_append, List.drop_append_of_le_length places_le,
      exponentLength_append_of_stops figures, pointed_iff]
  · have unpointed : (text.drop (digitRunLength text) ++ rest).head? ≠ some '.' := by
      rwa [ne_eq, pointed_iff]
    rw [floatLength_of_unpointed pointed, floatLength_of_unpointed
      (by rwa [digitRunLength_append_of_stops figures, afterWhole]),
      digitRunLength_append_of_stops figures, afterWhole, exponentLength_append_of_stops figures]

namespace Soft

theorem stops_decimal (soft : Soft rest) : Stops isDecimalPart rest :=
  soft.stops (by decide +kernel)

theorem integerLength_eq (soft : Soft rest) :
    integerLength (text ++ rest) = integerLength text := by
  have unmarked : ∀ char ∈ '?' :: ':' :: looseChars, char.toLower ≠ 'x' ∧ char.toLower ≠ 'b' := by
    decide
  by_cases zero : text.head? = some '0'
  · rcases List.head?_eq_some_iff.mp zero with ⟨tail, rfl⟩
    have digits : digitRunLength ('0' :: tail ++ rest) = digitRunLength ('0' :: tail) :=
      digitRunLength_append_of_stops (stops_isFigure_of_decimal soft.stops_decimal)
    cases tail with
    | nil =>
        cases rest with
        | nil => rfl
        | cons first rest =>
            exact (integerLength_of_unmarked rest (unmarked first (soft first rfl))).trans digits
    | cons mark tail =>
        have hex_eq : runLength isHexPart (tail ++ rest) = runLength isHexPart tail :=
          soft.runLength_eq (by decide +kernel)
        have binary_eq : runLength isBinaryPart (tail ++ rest) = runLength isBinaryPart tail :=
          soft.runLength_eq (by decide)
        simp only [List.cons_append] at digits
        simp only [List.cons_append, integerLength, digits, hex_eq, binary_eq]
  · have nonzero : (text ++ rest).head? ≠ some '0' := by
      rwa [ne_eq, soft.head?_append_iff (by decide)]
    rw [integerLength_of_nonzero zero, integerLength_of_nonzero nonzero,
      digitRunLength_append_of_stops (stops_isFigure_of_decimal soft.stops_decimal)]

end Soft

/-! ### Strings and heredocs -/

/-- A string that ends in a text is the same whatever follows the text. -/
theorem stringLength_append_of_le {quote : Char} (plain : quote ≠ '\\') (other : List Char)
    (positive : 0 < stringLength quote (text ++ rest))
    (within : stringLength quote (text ++ rest) ≤ text.length) :
    stringLength quote (text ++ other) = stringLength quote (text ++ rest) := by
  generalize length_eq : stringLength quote (text ++ rest) = length at positive within ⊢
  have text_eq := List.take_append_drop length text
  have take_eq : (text.take length).length = length := by
    rw [List.length_take]
    omega
  rw [← text_eq, List.append_assoc] at length_eq ⊢
  rw [stringLength_append plain _ (by rw [length_eq]; exact positive)
    (length_eq.trans take_eq.symm), take_eq]

theorem stringLength_of_append {quote : Char} (plain : quote ≠ '\\')
    (within : stringLength quote (text ++ rest) ≤ text.length) :
    stringLength quote (text ++ rest) = stringLength quote text := by
  by_cases closes : 0 < stringLength quote (text ++ rest)
  · have alone := stringLength_append_of_le plain [] closes within
    rw [List.append_nil] at alone
    exact alone.symm
  · have absent : ¬0 < stringLength quote text := by
      intro positive
      have whole : stringLength quote (text ++ []) = stringLength quote text := by
        rw [List.append_nil]
      have goesOn := stringLength_append_of_le plain rest (by rw [whole]; exact positive)
        (by rw [whole]; exact stringLength_le quote text)
      rw [goesOn, whole] at closes
      exact closes positive
    omega

/-- A closing label ends in front of the soft rest of a text exactly if it ends without it. -/
theorem Soft.labelEnds_append_iff (soft : Soft rest) {label : List Char} :
    LabelEnds label (text ++ rest) ↔ LabelEnds label text := by
  cases text with
  | nil =>
      have stops : Stops isWord rest := soft.stops (by decide +kernel)
      cases rest with
      | nil => exact Iff.rfl
      | cons first rest =>
          simp [LabelEnds, isWordBoundary, stops_cons.mp stops]
  | cons first text => exact Iff.rfl

theorem Soft.closingLabelLength?_of_append (soft : Soft rest) {label : List Char} {length : Nat}
    (isName : IsName label) (found : closingLabelLength? label (text ++ rest) = some length)
    (within : length ≤ text.length) : closingLabelLength? label text = some length := by
  rcases exists_closingLabel found with ⟨blanks, after, text_eq, blank, ends, rfl⟩
  rw [← List.append_assoc] at text_eq
  rcases List.append_eq_append_iff.mp text_eq with ⟨extra, line_eq, after_eq⟩ | ⟨extra, rfl, rfl⟩
  · have extra_eq : extra = [] := by
      have lengths := congrArg List.length line_eq
      simp only [List.length_append] at lengths
      exact List.length_eq_zero_iff.mp (by omega)
    subst extra_eq
    rw [List.nil_append] at after_eq
    rw [List.append_nil] at line_eq
    subst after_eq
    have ends : LabelEnds label [] := soft.labelEnds_append_iff.mp ends
    have alone := closingLabelLength?_append isName blank ends
    rwa [List.append_nil, line_eq] at alone
  · rw [List.append_assoc]
    exact closingLabelLength?_append isName blank (soft.labelEnds_append_iff.mp ends)

theorem Soft.closingLabelLength?_append (soft : Soft rest) {label : List Char} {length : Nat}
    (isName : IsName label) (found : closingLabelLength? label text = some length) :
    closingLabelLength? label (text ++ rest) = some length := by
  rcases exists_closingLabel found with ⟨blanks, after, rfl, blank, ends, rfl⟩
  rw [List.append_assoc, List.append_assoc]
  exact Lexer.closingLabelLength?_append isName blank (soft.labelEnds_append_iff.mpr ends)

theorem Soft.lengthToClosingLabel?_of_append (soft : Soft rest) {label : List Char}
    {atLineStart : Bool} {length : Nat} (isName : IsName label)
    (found : lengthToClosingLabel? label atLineStart (text ++ rest) = some length)
    (within : length ≤ text.length) :
    lengthToClosingLabel? label atLineStart text = some length := by
  have closing_pos : ∀ {chars : List Char} {atStart : Bool} {length : Nat},
      lengthToClosingLabel? label atStart chars = some length → 0 < length := by
    intro chars atStart length found
    cases chars with
    | nil => cases found
    | cons char chars =>
        simp only [lengthToClosingLabel?] at found
        split at found
        · rename_i closes
          split at closes
          · cases found
            rcases exists_closingLabel closes with ⟨blanks, after, -, -, -, rfl⟩
            exact Nat.add_pos_right _ (List.length_pos_iff.mpr isName.ne_nil)
          · cases closes
        · simp only [Option.map_eq_some_iff] at found
          rcases found with ⟨inner, -, rfl⟩
          exact Nat.succ_pos _
  induction text generalizing atLineStart length with
  | nil => exact absurd (closing_pos found) (by simpa using within)
  | cons char text ih =>
      simp only [List.cons_append, lengthToClosingLabel?] at found ⊢
      rw [← List.cons_append] at found
      have same : ∀ {closing : Option Nat},
          (if atLineStart = true then closingLabelLength? label (char :: text ++ rest) else none) =
            closing → (∀ length ∈ closing, length ≤ (char :: text).length) →
          (if atLineStart = true then closingLabelLength? label (char :: text) else none) =
            closing := by
        intro closing closes short
        cases atLineStart with
        | false => exact closes
        | true =>
            rw [if_pos rfl] at closes ⊢
            cases closing with
            | some length => exact soft.closingLabelLength?_of_append isName closes (short _ rfl)
            | none =>
                by_contra open_still
                rcases Option.ne_none_iff_exists'.mp open_still with ⟨length, found⟩
                rw [soft.closingLabelLength?_append isName found] at closes
                cases closes
      split at found
      · rename_i closing closes
        cases found
        rw [same closes (by rintro _ ⟨⟩; exact within)]
      · rename_i closes
        rw [same closes (by rintro _ ⟨⟩)]
        simp only [Option.map_eq_some_iff] at found ⊢
        rcases found with ⟨inner, found, rfl⟩
        rw [List.length_cons] at within
        exact ⟨inner, ih found (by omega), rfl⟩

theorem heredocStart?_append (rest : List Char) {label : List Char} {length : Nat}
    (found : heredocStart? text = some (label, length)) :
    heredocStart? (text ++ rest) = some (label, length) := by
  rcases exists_heredocStart found with ⟨blanks, quote, lineBreak, after, rfl, parts⟩
  rw [heredocStart?_heredocText parts] at found
  rw [List.append_assoc, heredocStart?_heredocText parts, found]

theorem Soft.heredocLength?_of_append (soft : Soft rest) {length : Nat}
    (found : heredocLength? (text ++ rest) = some length) (within : length ≤ text.length) :
    heredocLength? text = some length := by
  simp only [heredocLength?] at found ⊢
  cases started : heredocStart? (text ++ rest) with
  | none =>
      have absent : heredocStart? text = none := by
        by_contra present
        rcases Option.ne_none_iff_exists'.mp present with ⟨⟨label, startLength⟩, present⟩
        rw [heredocStart?_append rest present] at started
        cases started
      rw [started] at found
      rw [absent]
      exact found
  | some start =>
      rcases start with ⟨label, startLength⟩
      rw [started] at found
      simp only [Option.map_eq_some_iff] at found
      rcases found with ⟨bodyLength, closes, rfl⟩
      rcases exists_heredocStart started with ⟨blanks, quote, lineBreak, after, text_eq, parts⟩
      rw [text_eq, heredocStart?_heredocText parts] at started
      simp only [Option.some.injEq, Prod.mk.injEq, true_and] at started
      subst started
      have starts : heredocText blanks quote label lineBreak <+: text := by
        have here : heredocText blanks quote label lineBreak <+: text ++ rest := by
          rw [text_eq]
          exact List.prefix_append _ _
        exact List.prefix_of_prefix_length_le here (List.prefix_append _ _) (by omega)
      rcases starts with ⟨body, rfl⟩
      rw [List.append_assoc, List.append_cancel_left_eq] at text_eq
      subst text_eq
      rw [List.append_assoc, List.drop_left] at closes
      rw [List.length_append] at within
      rw [heredocStart?_heredocText parts]
      simp only [List.drop_left, soft.lengthToClosingLabel?_of_append parts.label_name closes
        (by omega), Option.map_some]

/-! ### Casts and operators -/

theorem cast?_of_append {name : String} {length : Nat}
    (found : cast? (castNames.map Prod.fst) (text ++ rest) = some (name, length))
    (within : length ≤ text.length) :
    cast? (castNames.map Prod.fst) text = some (name, length) := by
  rcases exists_cast castNames_proper found with ⟨leading, word, trailing, after, text_eq, parts⟩
  rw [text_eq, cast?_castText parts] at found
  simp only [Option.some.injEq, Prod.mk.injEq] at found
  rcases found with ⟨rfl, rfl⟩
  have here : castText leading word trailing <+: text ++ rest := by
    rw [text_eq]
    exact List.prefix_append _ _
  rcases List.prefix_of_prefix_length_le here (List.prefix_append _ _) within with ⟨tail, rfl⟩
  exact cast?_castText parts tail

theorem cast?_append_eq_none
    (absent : cast? (castNames.map Prod.fst) (text ++ rest) = none) :
    cast? (castNames.map Prod.fst) text = none := by
  by_contra present
  rcases Option.ne_none_iff_exists'.mp present with ⟨⟨name, length⟩, present⟩
  rcases exists_cast castNames_proper present with ⟨leading, word, trailing, after, rfl, parts⟩
  rw [List.append_assoc, cast?_castText parts] at absent
  cases absent

theorem operatorLength?_of_append {length : Nat}
    (found : operatorLength? (text ++ rest) = some length) (within : length ≤ text.length) :
    operatorLength? text = some length := by
  simp only [operatorLength?, Option.map_eq_some_iff] at found ⊢
  rcases found with ⟨entry, found, rfl⟩
  refine ⟨entry, ?_, rfl⟩
  rw [List.find?_eq_some_iff_append] at found ⊢
  rcases found with ⟨here, before, after, operators_eq, absent⟩
  refine ⟨?_, before, after, operators_eq, ?_⟩
  · rw [List.isPrefixOf_iff_prefix] at here ⊢
    exact List.prefix_of_prefix_length_le here (List.prefix_append _ _)
      (by rwa [String.length_toList])
  · intro other member
    have missing := absent other member
    rw [Bool.not_eq_true', ← Bool.not_eq_true, List.isPrefixOf_iff_prefix] at missing ⊢
    exact fun stands => missing (stands.trans (List.prefix_append _ _))

/-! ### Steps -/

/-- A choice between two shapes stays the same where the shape that is chosen does. -/
theorem choose_of_le {long short bound length : Nat} {longOther shortOther : Option Nat}
    (first : long ≤ bound → long = short)
    (second : longOther = some length → shortOther = some length)
    (found : (if 0 < long then some long else longOther) = some length) (within : length ≤ bound) :
    (if 0 < short then some short else shortOther) = some length := by
  split at found
  · rename_i stands
    cases found
    rw [← first within, if_pos stands]
  · rename_i absent
    rw [← first (by omega), if_neg absent]
    exact second found

theorem Soft.wordLength?_of_append (soft : Soft rest) {length : Nat}
    (found : wordLength? (text ++ rest) = some length) (within : length ≤ text.length) :
    wordLength? text = some length := by
  simp only [wordLength?] at found ⊢
  refine choose_of_le variableLength_of_append (fun found => ?_) found within
  cases cast : cast? (castNames.map Prod.fst) (text ++ rest) with
  | some entry =>
      rcases entry with ⟨name, castLength⟩
      rw [cast] at found
      simp only [Option.map_eq_some_iff] at found
      rcases found with ⟨kind, named, rfl⟩
      rw [cast?_of_append cast within]
      simp [named]
  | none =>
      rw [cast] at found
      rw [cast?_append_eq_none cast]
      refine choose_of_le (fun _ => floatLength_append_of_stops soft.stops_decimal)
        (fun found => ?_) found within
      refine choose_of_le (fun _ => soft.integerLength_eq) (fun found => ?_) found within
      refine choose_of_le (stringLength_of_append (by decide)) (fun found => ?_) found within
      refine choose_of_le (stringLength_of_append (by decide)) (fun found => ?_) found within
      refine choose_of_le (stringLength_of_append (by decide)) (fun found => ?_) found within
      exact choose_of_le nameLength_of_append
        (fun found => operatorLength?_of_append found within) found within

theorem Soft.codeLength?_of_append (soft : Soft rest) {length : Nat} (nonempty : text ≠ [])
    (found : codeLength? (text ++ rest) = some length) (within : length ≤ text.length) :
    codeLength? text = some length := by
  have heredoc_eq : ['<', '<', '<'].isPrefixOf (text ++ rest) = ['<', '<', '<'].isPrefixOf text :=
    soft.isPrefixOf_cons_append (by decide) nonempty
  have block_eq : ['/', '*'].isPrefixOf (text ++ rest) = ['/', '*'].isPrefixOf text :=
    soft.isPrefixOf_cons_append (by decide) nonempty
  simp only [codeLength?, heredoc_eq, block_eq] at found ⊢
  split at found
  · rename_i starts
    rw [if_pos starts]
    exact soft.heredocLength?_of_append found within
  rename_i noHeredoc
  rw [if_neg noHeredoc]
  split at found
  · rename_i opens
    rw [if_pos opens]
    rcases List.isPrefixOf_iff_prefix.mp opens with ⟨body, rfl⟩
    simp only [blockCommentLength?, List.cons_append, List.nil_append, List.drop_succ_cons,
      List.drop_zero, Option.map_eq_some_iff, List.length_cons] at found within ⊢
    rcases found with ⟨inner, found, rfl⟩
    exact ⟨inner, lengthToCommentEnd?_of_append found (by omega), rfl⟩
  rename_i noBlock
  rw [if_neg noBlock]
  refine choose_of_le whitespaceLength_of_append (fun found => ?_) found within
  exact choose_of_le soft.lineCommentLength_of_append
    (fun found => soft.wordLength?_of_append found within) found within

/-- A step in code that ends in front of a soft rest is the step that is taken without it. -/
theorem Soft.stride?_code_of_append (soft : Soft rest) {next : Mode} {length : Nat}
    (found : stride? .code (text ++ rest) = some (length, next)) (within : length ≤ text.length) :
    stride? .code text = some (length, next) := by
  have nonempty : text ≠ [] := by
    rintro rfl
    exact absurd (stride?_pos found) (Nat.not_lt.mpr within)
  simp only [stride?] at found ⊢
  split at found
  · rename_i closes
    cases found
    rw [← soft.closeTagLength_of_append within, if_pos closes]
  · rename_i absent
    rw [← soft.closeTagLength_of_append (by omega), if_neg absent]
    simp only [Option.map_eq_some_iff, Prod.mk.injEq] at found ⊢
    rcases found with ⟨length, found, rfl, rfl⟩
    exact ⟨length, soft.codeLength?_of_append nonempty found within, rfl, rfl⟩

/-- A step that ends in front of loose characters is the step that is taken without them. -/
theorem BeginsLoose.stride?_of_append (loose : BeginsLoose rest) {mode next : Mode} {length : Nat}
    (found : stride? mode (text ++ rest) = some (length, next)) (within : length ≤ text.length) :
    stride? mode text = some (length, next) := by
  cases mode with
  | code => exact loose.soft.stride?_code_of_append found within
  | markup =>
      simp only [stride?] at found ⊢
      split at found
      · rename_i opens
        cases found
        rw [← openTagLength_of_append within, if_pos opens]
      · rename_i absent
        have same : openTagLength (text ++ rest) = openTagLength text :=
          openTagLength_of_append (by omega)
        rw [← same, if_neg absent]
        split at found
        · rename_i positive
          cases found
          rw [← loose.markupLength_of_append within, if_pos positive]
        · cases found

end TokenLint.Lexer
