import TokenLint.Proofs.Lexer.Extent
import Mathlib.Data.List.Infix

/-!
# Where shapes end

Some shapes end at a sign that is looked for: the end of a comment, a closing quote, a
closing label, a close tag. Where this sign is found does not depend on the text after it,
or only on how that text begins.
-/

namespace TokenLint.Lexer

open Text

/-- A name that is cut off ends where the text after it begins. -/
theorem exists_name_of_length {piece rest : List Char} (nonempty : piece ≠ [])
    (length_eq : nameLength (piece ++ rest) = piece.length) :
    IsName piece ∧ Stops isNamePart rest := by
  have positive : 0 < nameLength (piece ++ rest) := by
    rw [length_eq]
    exact List.length_pos_iff.mpr nonempty
  rcases exists_name positive with ⟨name, tail, text_eq, isName, stops⟩
  rw [text_eq, nameLength_append isName stops] at length_eq
  rcases List.append_inj text_eq length_eq.symm with ⟨rfl, rfl⟩
  exact ⟨isName, stops⟩

theorem two_le_of_lengthToCommentEnd? {chars : List Char} {length : Nat}
    (found : lengthToCommentEnd? chars = some length) : 2 ≤ length := by
  fun_induction lengthToCommentEnd? chars generalizing length with
  | case1 rest =>
      cases found
      exact Nat.le_refl _
  | case2 char rest _ ih =>
      simp only [Option.map_eq_some_iff] at found
      rcases found with ⟨inner, found, rfl⟩
      exact Nat.le_succ_of_le (ih found)
  | case3 => cases found

theorem lengthToCommentEnd?_append {body rest : List Char} (other : List Char)
    (found : lengthToCommentEnd? (body ++ rest) = some body.length) :
    lengthToCommentEnd? (body ++ other) = some body.length := by
  induction body with
  | nil => exact absurd (two_le_of_lengthToCommentEnd? found) (by decide)
  | cons first body ih =>
      cases body with
      | nil => exact absurd (two_le_of_lengthToCommentEnd? found) (by simp)
      | cons second body =>
          by_cases ends : first = '*' ∧ second = '/'
          · rcases ends with ⟨rfl, rfl⟩
            simp only [List.cons_append, lengthToCommentEnd?] at found ⊢
            exact found
          · have step : ∀ text, lengthToCommentEnd? (first :: second :: text) =
                (lengthToCommentEnd? (second :: text)).map (· + 1) := by
              intro text
              rw [lengthToCommentEnd?]
              rintro rest rfl same
              exact ends ⟨rfl, (List.cons.inj same).1⟩
            simp only [List.cons_append, step, Option.map_eq_some_iff, List.length_cons] at found ⊢
            rcases found with ⟨inner, found, length_eq⟩
            refine ⟨inner, ?_, length_eq⟩
            have : inner = body.length + 1 := by omega
            subst this
            exact ih found

theorem lengthToQuote?_pos {quote : Char} {chars : List Char} {length : Nat}
    (found : lengthToQuote? quote chars = some length) : 0 < length := by
  fun_induction lengthToQuote? quote chars generalizing length with
  | case1 => cases found
  | case2 escaped rest ih =>
      simp only [Option.map_eq_some_iff] at found
      rcases found with ⟨inner, -, rfl⟩
      exact Nat.succ_pos _
  | case3 rest _ =>
      cases found
      exact Nat.one_pos
  | case4 char rest _ _ ih =>
      simp only [Option.map_eq_some_iff] at found
      rcases found with ⟨inner, -, rfl⟩
      exact Nat.succ_pos _

/-- The step over a character that hides no other one. -/
theorem lengthToQuote?_cons {quote char : Char} (rest : List Char) (plain : char ≠ '\\') :
    lengthToQuote? quote (char :: rest) =
      if char = quote then some 1 else (lengthToQuote? quote rest).map (· + 1) := by
  rw [lengthToQuote?]
  intro _ _ same
  exact absurd same plain

/-- The end of a string does not depend on what follows it. -/
theorem lengthToQuote?_append {quote : Char} (plain : quote ≠ '\\') {rest : List Char}
    (other : List Char) : ∀ body : List Char,
      lengthToQuote? quote (body ++ rest) = some body.length →
        lengthToQuote? quote (body ++ other) = some body.length
  | [], found => absurd (lengthToQuote?_pos found) (Nat.lt_irrefl 0)
  | [char], found => by
      by_cases escapes : char = '\\'
      · subst escapes
        cases rest with
        | nil => simp [lengthToQuote?, plain.symm] at found
        | cons next rest =>
            simp only [List.cons_append, List.nil_append, lengthToQuote?,
              Option.map_eq_some_iff] at found
            rcases found with ⟨inner, -, length_eq⟩
            simp at length_eq
      · simp only [List.cons_append, List.nil_append, lengthToQuote?_cons _ escapes] at found ⊢
        split at found
        · rename_i closes
          rw [if_pos closes]
          rfl
        · simp only [Option.map_eq_some_iff] at found
          rcases found with ⟨inner, found, length_eq⟩
          have := lengthToQuote?_pos found
          simp only [List.length_cons, List.length_nil] at length_eq
          omega
  | first :: second :: body, found => by
      by_cases escapes : first = '\\'
      · subst escapes
        simp only [List.cons_append, lengthToQuote?, Option.map_eq_some_iff, List.length_cons]
          at found ⊢
        rcases found with ⟨inner, found, length_eq⟩
        refine ⟨inner, ?_, length_eq⟩
        have : inner = body.length := by omega
        subst this
        exact lengthToQuote?_append plain other body found
      · simp only [List.cons_append, lengthToQuote?_cons _ escapes] at found ⊢
        split at found
        · rename_i closes
          rw [if_pos closes]
          exact found
        · rename_i inside
          simp only [inside, if_false, Option.map_eq_some_iff, List.length_cons] at found ⊢
          rcases found with ⟨inner, found, length_eq⟩
          refine ⟨inner, ?_, length_eq⟩
          have : inner = (second :: body).length := by
            simp only [List.length_cons]
            omega
          subst this
          exact lengthToQuote?_append plain other (second :: body) found

/-- A quoted string does not depend on what follows it. -/
theorem stringLength_append {quote : Char} (plain : quote ≠ '\\') {piece rest : List Char}
    (other : List Char) (positive : 0 < stringLength quote (piece ++ rest))
    (length_eq : stringLength quote (piece ++ rest) = piece.length) :
    stringLength quote (piece ++ other) = piece.length := by
  cases piece with
  | nil =>
      rw [length_eq] at positive
      exact absurd positive (Nat.lt_irrefl 0)
  | cons first body =>
      simp only [List.cons_append, stringLength] at length_eq ⊢
      split at length_eq
      · rename_i opens
        rw [if_pos opens]
        cases found : lengthToQuote? quote (body ++ rest) with
        | none => simp [found] at length_eq
        | some length =>
            simp only [found, Option.map_some, Option.getD_some, List.length_cons] at length_eq
            have : length = body.length := by omega
            subst this
            rw [lengthToQuote?_append plain other body found]
            rfl
      · cases length_eq

/-- Whether a word ends between a label and what follows it. -/
def LabelEnds (label rest : List Char) : Prop :=
  label.getLast?.any (fun last => isWordBoundary last rest.head?) = true

theorem closingLabelLength?_append {label blanks rest : List Char} (isName : IsName label)
    (blank : ∀ char ∈ blanks, isSpaceOrTab char = true) (ends : LabelEnds label rest) :
    closingLabelLength? label (blanks ++ (label ++ rest)) =
      some (blanks.length + label.length) := by
  have prefixed : label.isPrefixOf (label ++ rest) = true :=
    List.isPrefixOf_iff_prefix.mpr (List.prefix_append _ _)
  have ends : label.getLast?.any (fun last => isWordBoundary last rest.head?) = true := ends
  simp only [closingLabelLength?, runLength_append blank (isName.stops_spaceOrTab rest),
    List.drop_left, prefixed, ends, and_self, if_true]

theorem exists_closingLabel {label chars : List Char} {length : Nat}
    (found : closingLabelLength? label chars = some length) :
    ∃ blanks rest, chars = blanks ++ (label ++ rest) ∧
      (∀ char ∈ blanks, isSpaceOrTab char = true) ∧ LabelEnds label rest ∧
      length = blanks.length + label.length := by
  rcases exists_run isSpaceOrTab chars with ⟨blanks, tail, rfl, blank, stops⟩
  simp only [closingLabelLength?, runLength_append blank stops, List.drop_left] at found
  split at found
  · rename_i closes
    rcases List.isPrefixOf_iff_prefix.mp closes.1 with ⟨rest, rfl⟩
    have ends := closes.2
    rw [List.drop_left] at ends
    cases found
    exact ⟨blanks, rest, rfl, blank, ends, rfl⟩
  · cases found

/-- A closing label that does not stand at once stands after a line break. -/
theorem newline_mem_of_lengthToClosingLabel? {label body rest : List Char}
    (found : lengthToClosingLabel? label false (body ++ rest) = some body.length) :
    '\n' ∈ body := by
  induction body with
  | nil =>
      cases rest with
      | nil => cases found
      | cons char rest =>
          simp only [List.nil_append, lengthToClosingLabel?, Bool.false_eq_true, if_false,
            Option.map_eq_some_iff] at found
          rcases found with ⟨inner, -, length_eq⟩
          simp at length_eq
  | cons char body ih =>
      simp only [List.cons_append, lengthToClosingLabel?, Bool.false_eq_true, if_false,
        Option.map_eq_some_iff, List.length_cons] at found
      rcases found with ⟨inner, found, length_eq⟩
      by_cases breaks : char = '\n'
      · rw [breaks]
        exact List.mem_cons_self ..
      · have : inner = body.length := by omega
        subst this
        rw [decide_eq_false breaks] at found
        exact List.mem_cons_of_mem _ (ih found)

/-- A closing label on the first line of a text that goes on for more lines stands there whatever
follows the text. -/
theorem closingLabelLength?_of_newline {label body rest : List Char} (other : List Char)
    {length : Nat} (isName : IsName label) (newline : '\n' ∈ body)
    (found : closingLabelLength? label (body ++ other) = some length) :
    closingLabelLength? label (body ++ rest) = some length := by
  rcases exists_closingLabel found with ⟨blanks, after, text_eq, blank, ends, rfl⟩
  have outside : '\n' ∉ blanks ++ label := by
    intro member
    rcases List.mem_append.mp member with space | part
    · exact absurd (blank _ space) (by decide)
    · exact absurd (isName.isNamePart part) (by decide)
  rw [← List.append_assoc] at text_eq
  rcases List.append_eq_append_iff.mp text_eq with ⟨extra, line_eq, -⟩ | ⟨extra, body_eq, after_eq⟩
  · rw [line_eq] at outside
    exact absurd (List.mem_append_left _ newline) outside
  · subst body_eq
    have head_eq : after.head? = (extra ++ rest).head? := by
      cases extra with
      | nil =>
          rw [List.append_nil] at newline
          exact absurd newline outside
      | cons first extra => rw [after_eq]; rfl
    have ends : LabelEnds label (extra ++ rest) := by
      rw [LabelEnds, ← head_eq]
      exact ends
    rw [List.append_assoc, List.append_assoc]
    exact closingLabelLength?_append isName blank ends

theorem closesTag_iff {char : Char} {rest : List Char} :
    ['?', '>'].isPrefixOf (char :: rest) = true ↔ char = '?' ∧ rest.head? = some '>' := by
  cases rest with
  | nil => simp [List.isPrefixOf]
  | cons second rest =>
      simp only [List.isPrefixOf, Bool.and_true, Bool.and_eq_true, beq_iff_eq, List.head?_cons,
        Option.some.injEq]
      constructor
      · rintro ⟨rfl, rfl⟩
        exact ⟨rfl, rfl⟩
      · rintro ⟨rfl, rfl⟩
        exact ⟨rfl, rfl⟩

theorem lineCommentReach_cons (char : Char) (rest : List Char) :
    lineCommentReach (char :: rest) =
      if char = '\r' ∨ char = '\n' ∨ char = '?' ∧ rest.head? = some '>' then 0
      else 1 + lineCommentReach rest := by
  rw [lineCommentReach.eq_def]
  split
  · simp_all
  · simp_all
  · rename_i first tail goesOn same
    cases same
    have inside : ¬(char = '?' ∧ rest.head? = some '>') := by
      rintro ⟨rfl, head⟩
      rcases List.head?_eq_some_iff.mp head with ⟨after, rfl⟩
      exact goesOn after rfl rfl
    simp only [inside, or_false]

theorem lineCommentLength_pos_iff {chars : List Char} :
    0 < lineCommentLength chars ↔
      ['/', '/'].isPrefixOf chars = true ∨ ['#'].isPrefixOf chars = true := by
  simp only [lineCommentLength]
  split
  · exact iff_of_true (by omega) (.inl rfl)
  · exact iff_of_true (by omega) (.inr rfl)
  · rename_i noSlashes noHash
    simp only [Nat.lt_irrefl, false_iff, List.isPrefixOf_iff_prefix]
    rintro (⟨rest, rfl⟩ | ⟨rest, rfl⟩)
    · exact noSlashes rest rfl
    · exact noHash rest rfl

theorem labelBreakLength_cons (char : Char) (rest : List Char) :
    labelBreakLength (char :: rest) =
      if char = '\n' then 1 else if char = '\r' ∧ rest.head? = some '\n' then 2 else 0 := by
  simp only [labelBreakLength]
  split
  · simp_all
  · simp_all
  · rename_i noBreak noPair
    have unbroken : char ≠ '\n' := fun same => noBreak rest (by rw [same])
    have unpaired : ¬(char = '\r' ∧ rest.head? = some '\n') := by
      rintro ⟨rfl, head⟩
      rcases List.head?_eq_some_iff.mp head with ⟨after, rfl⟩
      exact noPair after rfl
    rw [if_neg unbroken, if_neg unpaired]

theorem closeTagLength_closesTag (rest : List Char) :
    closeTagLength ('?' :: '>' :: rest) = 2 + labelBreakLength rest := by
  simp only [closeTagLength]
  split
  · rename_i same
    cases same
    rfl
  · rename_i same
    cases same
    rfl
  · rename_i noPair noBreak same
    cases same
    have none_left : labelBreakLength rest = 0 := by
      simp only [labelBreakLength]
    rw [none_left]
  · rename_i outside
    exact absurd rfl (outside rest)

theorem closeTagLength_pos_iff {chars : List Char} :
    0 < closeTagLength chars ↔ ['?', '>'].isPrefixOf chars = true := by
  rw [List.isPrefixOf_iff_prefix]
  constructor
  · intro positive
    simp only [closeTagLength] at positive
    split at positive
    · exact ⟨_, rfl⟩
    · exact ⟨_, rfl⟩
    · exact ⟨_, rfl⟩
    · cases positive
  · rintro ⟨rest, rfl⟩
    rw [List.cons_append, List.cons_append, closeTagLength_closesTag]
    omega
theorem absorbedLength_cons (char : Char) (rest : List Char) :
    absorbedLength (char :: rest) =
      if char = '\r' ∧ rest.head? = some '\n' then 2
      else if isSpaceOrTab char ∨ char = '\n' ∨ char = '\r' then 1 else 0 := by
  simp only [absorbedLength]
  split
  · simp_all
  · rename_i noPair same
    cases same
    have unpaired : ¬(char = '\r' ∧ rest.head? = some '\n') := by
      rintro ⟨rfl, head⟩
      rcases List.head?_eq_some_iff.mp head with ⟨after, rfl⟩
      exact noPair after rfl rfl
    rw [if_neg unpaired]
  · simp_all

theorem openTagLength_long {first second third : Char} (rest : List Char)
    (letters : first.toLower = 'p' ∧ second.toLower = 'h' ∧ third.toLower = 'p') :
    openTagLength ('<' :: '?' :: first :: second :: third :: rest) = 5 + absorbedLength rest := by
  have long : first ≠ '=' := by
    rintro rfl
    exact absurd letters.1 (by decide)
  rw [openTagLength, if_pos letters]
  exact long

theorem exists_openTag {chars : List Char} (positive : 0 < openTagLength chars) :
    (∃ rest, chars = '<' :: '?' :: '=' :: rest) ∨
      ∃ first second third rest, chars = '<' :: '?' :: first :: second :: third :: rest ∧
        first.toLower = 'p' ∧ second.toLower = 'h' ∧ third.toLower = 'p' := by
  simp only [openTagLength] at positive
  split at positive
  · exact .inl ⟨_, rfl⟩
  · split at positive
    · rename_i letters
      exact .inr ⟨_, _, _, _, rfl, letters⟩
    · cases positive
  · cases positive

theorem openTagLength_append_pos {text : List Char} (rest : List Char)
    (opens : 0 < openTagLength text) : 0 < openTagLength (text ++ rest) := by
  rcases exists_openTag opens with ⟨tail, rfl⟩ | ⟨first, second, third, tail, rfl, letters⟩
  · exact Nat.succ_pos _
  · simp only [List.cons_append, openTagLength_long _ letters]
    omega

end TokenLint.Lexer
