import TokenLint.Lexer.Pattern
import Mathlib.Data.List.TakeWhile

/-!
# What the shapes of lexemes are

Runs, names, casts and the first lines of heredocs, described by the parts that they
consist of. Each measuring function finds its shape just if the text begins with such
parts, and where the rest of the text must not go on in some way, the description says so.
-/

namespace TokenLint.Lexer

open Text

/-- Whether a text does not begin with a character that has a property. -/
def Stops (inRun : Char → Bool) (rest : List Char) : Prop :=
  ∀ char ∈ rest.head?, inRun char = false

@[simp]
theorem stops_nil (inRun : Char → Bool) : Stops inRun [] := by simp [Stops]

@[simp]
theorem stops_cons {inRun : Char → Bool} {char : Char} {rest : List Char} :
    Stops inRun (char :: rest) ↔ inRun char = false := by
  simp [Stops]

theorem takeWhile_append_of_stops {inRun : Char → Bool} {run rest : List Char}
    (inside : ∀ char ∈ run, inRun char = true) (stops : Stops inRun rest) :
    (run ++ rest).takeWhile inRun = run := by
  rw [List.takeWhile_append_of_pos inside]
  cases rest with
  | nil => simp
  | cons char rest => simp [stops_cons.mp stops]

theorem dropWhile_append_of_stops {inRun : Char → Bool} {run rest : List Char}
    (inside : ∀ char ∈ run, inRun char = true) (stops : Stops inRun rest) :
    (run ++ rest).dropWhile inRun = rest := by
  rw [List.dropWhile_append_of_pos inside]
  cases rest with
  | nil => simp
  | cons char rest => simp [stops_cons.mp stops]

theorem runLength_append {inRun : Char → Bool} {run rest : List Char}
    (inside : ∀ char ∈ run, inRun char = true) (stops : Stops inRun rest) :
    runLength inRun (run ++ rest) = run.length := by
  rw [runLength, takeWhile_append_of_stops inside stops]

/-- Every text is a run and a rest that does not go on with it. -/
theorem exists_run (inRun : Char → Bool) (chars : List Char) :
    ∃ run rest, chars = run ++ rest ∧ (∀ char ∈ run, inRun char = true) ∧ Stops inRun rest := by
  refine ⟨chars.takeWhile inRun, chars.dropWhile inRun,
    List.takeWhile_append_dropWhile.symm, fun char member => ?_, fun char found => ?_⟩
  · exact List.mem_takeWhile_imp member
  · have := List.head?_dropWhile_not inRun chars
    rw [Option.mem_def.mp found] at this
    simpa using this

/-- A name: a character that can start one, and characters that can continue it. -/
def IsName : List Char → Prop
  | first :: rest => isNameStart first = true ∧ ∀ char ∈ rest, isNamePart char = true
  | [] => False

theorem IsName.ne_nil {name : List Char} (isName : IsName name) : name ≠ [] := by
  rintro rfl
  exact isName

theorem IsName.isNamePart {name : List Char} (isName : IsName name) {char : Char}
    (member : char ∈ name) : isNamePart char = true := by
  cases name with
  | nil => cases member
  | cons first rest =>
      rcases List.mem_cons.mp member with rfl | member
      · simp [Lexer.isNamePart, isName.1]
      · exact isName.2 char member

theorem IsName.stops_spaceOrTab {name : List Char} (isName : IsName name) (rest : List Char) :
    Stops isSpaceOrTab (name ++ rest) := by
  cases name with
  | nil => exact isName.elim
  | cons first tail =>
      refine stops_cons.mpr ?_
      by_contra blank
      rw [Bool.not_eq_false] at blank
      simp only [isSpaceOrTab, Bool.or_eq_true, beq_iff_eq] at blank
      rcases blank with rfl | rfl <;> exact absurd isName.1 (by decide)

theorem nameLength_append {name rest : List Char} (isName : IsName name)
    (stops : Stops isNamePart rest) : nameLength (name ++ rest) = name.length := by
  cases name with
  | nil => exact isName.elim
  | cons first tail =>
      simp only [List.cons_append, nameLength, isName.1, if_true,
        runLength_append isName.2 stops, List.length_cons]
      omega

theorem nameLength_pos_iff {chars : List Char} :
    0 < nameLength chars ↔ chars.head?.any isNameStart = true := by
  cases chars with
  | nil => simp [nameLength]
  | cons first rest =>
      simp only [nameLength, List.head?_cons, Option.any_some]
      split
      · rename_i starts
        simp only [starts, iff_true]
        omega
      · rename_i starts
        simp [starts]

/-- Where a name stands, it is the name and a rest that does not go on with it. -/
theorem exists_name {chars : List Char} (positive : 0 < nameLength chars) :
    ∃ name rest, chars = name ++ rest ∧ IsName name ∧ Stops isNamePart rest := by
  cases chars with
  | nil => simp [nameLength] at positive
  | cons first tail =>
      rcases exists_run isNamePart tail with ⟨run, rest, rfl, inside, stops⟩
      refine ⟨first :: run, rest, rfl, ⟨?_, inside⟩, stops⟩
      simpa using nameLength_pos_iff.mp positive

/-- The text of a cast, with blanks on both sides of its name. -/
def castText (leading word trailing : List Char) : List Char :=
  '(' :: (leading ++ (word ++ (trailing ++ [')'])))

/-- Whether some texts are the parts of a cast to one of some types. -/
structure IsCast (names : List String) (leading word trailing : List Char) : Prop where
  leading_blank : ∀ char ∈ leading, isSpaceOrTab char = true
  word_inside : ∀ char ∈ word, (!isSpaceOrTab char && char != ')') = true
  word_ne_nil : word ≠ []
  trailing_blank : ∀ char ∈ trailing, isSpaceOrTab char = true
  named : names.any (fun name => spellsWord name.toList word) = true

theorem cast?_castText {names : List String} {leading word trailing : List Char}
    (parts : IsCast names leading word trailing) (rest : List Char) :
    cast? names (castText leading word trailing ++ rest) =
      some (String.ofList word, (castText leading word trailing).length) := by
  have word_stops : Stops isSpaceOrTab (word ++ (trailing ++ ')' :: rest)) := by
    cases word with
    | nil => exact absurd rfl parts.word_ne_nil
    | cons first tail =>
        have := parts.word_inside first (List.mem_cons_self ..)
        simp only [Bool.and_eq_true, Bool.not_eq_true'] at this
        exact stops_cons.mpr this.1
  have trailing_stops : Stops (fun char => !isSpaceOrTab char && char != ')')
      (trailing ++ ')' :: rest) := by
    cases trailing with
    | nil => simp [Stops]
    | cons first tail =>
        simp [Stops, parts.trailing_blank first (List.mem_cons_self ..)]
  have close_stops : Stops isSpaceOrTab (')' :: rest) := by simp [Stops, isSpaceOrTab]
  have leading_eq := runLength_append parts.leading_blank word_stops
  have word_eq := takeWhile_append_of_stops parts.word_inside trailing_stops
  have trailing_eq := runLength_append parts.trailing_blank close_stops
  have shape : castText leading word trailing ++ rest =
      '(' :: (leading ++ (word ++ (trailing ++ ')' :: rest))) := by simp [castText]
  rw [shape]
  simp only [cast?, leading_eq, List.drop_left, word_eq, ← List.drop_drop, trailing_eq,
    List.head?_cons, parts.named, and_self, if_true, castText, Option.some.injEq, Prod.mk.injEq,
    List.length_cons, List.length_append, List.length_nil, true_and]
  omega

/-- Where a cast stands, the text begins with the parts of one. -/
theorem exists_cast {names : List String} {chars : List Char} {name : String} {length : Nat}
    (proper : "" ∉ names) (found : cast? names chars = some (name, length)) :
    ∃ leading word trailing rest, chars = castText leading word trailing ++ rest ∧
      IsCast names leading word trailing := by
  cases chars with
  | nil => cases found
  | cons first tail =>
      by_cases opens : first = '('
      · subst opens
        rcases exists_run isSpaceOrTab tail with ⟨leading, afterLeading, rfl, leading_blank, stops⟩
        rcases exists_run (fun char => !isSpaceOrTab char && char != ')') afterLeading with
          ⟨word, afterWord, rfl, word_inside, word_stops⟩
        rcases exists_run isSpaceOrTab afterWord with
          ⟨trailing, afterTrailing, rfl, trailing_blank, trailing_stops⟩
        simp only [cast?, runLength_append leading_blank stops, List.drop_left,
          takeWhile_append_of_stops word_inside word_stops, ← List.drop_drop,
          runLength_append trailing_blank trailing_stops] at found
        split at found
        · rename_i closed
          rcases closed with ⟨closes, named⟩
          rcases List.head?_eq_some_iff.mp closes with ⟨rest, rfl⟩
          refine ⟨leading, word, trailing, rest, by simp [castText], leading_blank, word_inside, ?_,
            trailing_blank, named⟩
          rintro rfl
          rcases List.any_eq_true.mp named with ⟨other, member, spells⟩
          cases letters : other.toList with
          | nil => exact proper (String.toList_eq_nil_iff.mp letters ▸ member)
          | cons letter word => simp [letters, spellsWord] at spells
        · cases found
      · simp [cast?, opens] at found

theorem length_cast?_pos {names : List String} {chars : List Char} {name : String} {length : Nat}
    (proper : "" ∉ names) (found : cast? names chars = some (name, length)) : 0 < length := by
  rcases exists_cast proper found with ⟨leading, word, trailing, rest, rfl, parts⟩
  rw [cast?_castText parts] at found
  cases found
  exact Nat.succ_pos _

/-- The first line of a heredoc. -/
def heredocText (blanks quote label lineBreak : List Char) : List Char :=
  '<' :: '<' :: '<' :: (blanks ++ (quote ++ (label ++ (quote ++ lineBreak))))

/-- What the parts of a heredoc's first line are. -/
structure IsHeredocStart (blanks quote label lineBreak : List Char) : Prop where
  blanks_blank : ∀ char ∈ blanks, isSpaceOrTab char = true
  quote_eq : quote = [] ∨ quote = ['"'] ∨ quote = ['\'']
  label_name : IsName label
  lineBreak_eq : lineBreak = ['\n'] ∨ lineBreak = ['\r', '\n']

theorem IsHeredocStart.label_stops {blanks quote label lineBreak : List Char}
    (parts : IsHeredocStart blanks quote label lineBreak) (rest : List Char) :
    Stops isNamePart (quote ++ (lineBreak ++ rest)) := by
  rcases parts.quote_eq with rfl | rfl | rfl
  · rcases parts.lineBreak_eq with rfl | rfl <;> exact stops_cons.mpr (by decide)
  · exact stops_cons.mpr (by decide)
  · exact stops_cons.mpr (by decide)

theorem IsHeredocStart.blanks_stop {blanks quote label lineBreak : List Char}
    (parts : IsHeredocStart blanks quote label lineBreak) (rest : List Char) :
    Stops isSpaceOrTab (quote ++ (label ++ rest)) := by
  rcases parts.quote_eq with rfl | rfl | rfl
  · exact parts.label_name.stops_spaceOrTab rest
  · exact stops_cons.mpr (by decide)
  · exact stops_cons.mpr (by decide)

theorem heredocStart?_heredocText {blanks quote label lineBreak : List Char}
    (parts : IsHeredocStart blanks quote label lineBreak) (rest : List Char) :
    heredocStart? (heredocText blanks quote label lineBreak ++ rest) =
      some (label, (heredocText blanks quote label lineBreak).length) := by
  have shape : heredocText blanks quote label lineBreak ++ rest =
      '<' :: '<' :: '<' :: (blanks ++ (quote ++ (label ++ (quote ++ (lineBreak ++ rest))))) := by
    simp [heredocText]
  have blanks_eq := runLength_append parts.blanks_blank
    (parts.blanks_stop (quote ++ (lineBreak ++ rest)))
  have label_eq := nameLength_append parts.label_name (parts.label_stops rest)
  have positive : 0 < label.length := List.length_pos_iff.mpr parts.label_name.ne_nil
  have quote_eq : labelQuote (quote ++ (label ++ (quote ++ (lineBreak ++ rest)))) = quote := by
    rcases parts.quote_eq with rfl | rfl | rfl
    · cases label with
      | nil => exact parts.label_name.elim
      | cons first tail =>
          have starts := parts.label_name.1
          simp only [List.nil_append, List.cons_append, labelQuote]
          split
          · rename_i same
            cases same
            exact absurd starts (by decide)
          · rename_i same
            cases same
            exact absurd starts (by decide)
          · rfl
    · rfl
    · rfl
  have lineBreak_eq : labelBreakLength (lineBreak ++ rest) = lineBreak.length := by
    rcases parts.lineBreak_eq with rfl | rfl <;> rfl
  have lineBreak_pos : 0 < lineBreak.length := by
    rcases parts.lineBreak_eq with rfl | rfl <;> decide
  rw [shape]
  simp only [heredocStart?, blanks_eq, List.drop_left, quote_eq, label_eq, List.take_left,
    lineBreak_eq, positive, lineBreak_pos, List.isPrefixOf_iff_prefix, List.prefix_append,
    and_self, if_true, heredocText, Option.some.injEq, Prod.mk.injEq, true_and, List.length_cons,
    List.length_append]
  omega

/-- Where a heredoc starts, the text begins with the parts of its first line. -/
theorem exists_heredocStart {chars label : List Char} {length : Nat}
    (found : heredocStart? chars = some (label, length)) :
    ∃ blanks quote lineBreak rest, chars = heredocText blanks quote label lineBreak ++ rest ∧
      IsHeredocStart blanks quote label lineBreak := by
  simp only [heredocStart?] at found
  split at found
  · rename_i tail
    rcases exists_run isSpaceOrTab tail with ⟨blanks, afterBlanks, rfl, blanks_blank, stops⟩
    rw [runLength_append blanks_blank stops, List.drop_left] at found
    have quoted : ∃ quote fromLabel, labelQuote afterBlanks = quote ∧
        afterBlanks = quote ++ fromLabel ∧ (quote = [] ∨ quote = ['"'] ∨ quote = ['\'']) := by
      cases afterBlanks with
      | nil => exact ⟨[], [], rfl, rfl, .inl rfl⟩
      | cons first tail =>
          simp only [labelQuote]
          split
          · exact ⟨_, tail, rfl, by simp_all, .inr (.inl rfl)⟩
          · exact ⟨_, tail, rfl, by simp_all, .inr (.inr rfl)⟩
          · exact ⟨[], first :: tail, rfl, rfl, .inl rfl⟩
    rcases quoted with ⟨quote, fromLabel, quote_found, rfl, quote_eq⟩
    rw [quote_found, List.drop_left] at found
    split at found
    · rename_i conditions
      rcases conditions with ⟨positive, quotes, breaks⟩
      simp only [Option.some.injEq, Prod.mk.injEq] at found
      have named : 0 < nameLength fromLabel := by
        by_contra unnamed
        simp [Nat.eq_zero_of_not_pos unnamed] at positive
      rcases exists_name named with ⟨name, afterLabel, rfl, label_name, label_stops⟩
      rw [nameLength_append label_name label_stops, List.take_left] at found quotes breaks
      rw [List.drop_left] at quotes breaks
      rcases List.isPrefixOf_iff_prefix.mp quotes with ⟨afterQuote, rfl⟩
      rw [List.drop_left] at breaks
      rcases found with ⟨rfl, -⟩
      have broken : ∃ lineBreak rest, afterQuote = lineBreak ++ rest ∧
          (lineBreak = ['\n'] ∨ lineBreak = ['\r', '\n']) := by
        simp only [labelBreakLength] at breaks
        split at breaks
        · rename_i rest
          exact ⟨['\n'], rest, rfl, .inl rfl⟩
        · rename_i rest
          exact ⟨['\r', '\n'], rest, rfl, .inr rfl⟩
        · cases breaks
      rcases broken with ⟨lineBreak, rest, rfl, lineBreak_eq⟩
      exact ⟨blanks, quote, lineBreak, rest, by simp [heredocText],
        blanks_blank, quote_eq, label_name, lineBreak_eq⟩
    · cases found
  · cases found

theorem length_heredocStart?_pos {chars label : List Char} {length : Nat}
    (found : heredocStart? chars = some (label, length)) : 0 < length := by
  rcases exists_heredocStart found with ⟨blanks, quote, lineBreak, rest, rfl, parts⟩
  rw [heredocStart?_heredocText parts] at found
  cases found
  exact Nat.succ_pos _

end TokenLint.Lexer
