import TokenLint.Proofs.Lexer.Stride
import Mathlib.Data.List.Infix

/-!
# Texts that are cut alike

Two kinds of edits leave the cutting of the surrounding text alone: a name may be exchanged
for another one, and what stands between the two marks of a ternary may be dropped.
`Similar old new` says that `new` is made from `old` by such edits. What a scan looks for
before it decides on a shape is then the same in both texts, because the first letters of
the exchanged names are letters that no shape but a name looks for.
-/

namespace TokenLint.Lexer

open Text

/-- Letters that begin a name and no other shape, and that no number, cast or tag goes on with. -/
def neutralChars : List Char := ['g', 'G', 'm', 'M', 'r', 'R', 's', 'S', 't', 'T']

-- What is said of the characters of a list is decided along the list, and not over all characters.

instance (priority := high) decidableForallChar (chars : List Char) (property : Char → Prop)
    [DecidablePred property] : Decidable (∀ char ∈ chars, property char) :=
  chars.decidableBAll property

instance (priority := high) decidableExistsChar (chars : List Char) (property : Char → Prop)
    [DecidablePred property] : Decidable (∃ char ∈ chars, property char) :=
  chars.decidableBEx property

/-- Whether a property tells apart no characters that `Similar` texts may differ in. -/
def Inert (inRun : Char → Bool) : Prop := ∀ char ∈ '?' :: neutralChars, inRun char = false

instance (inRun : Char → Bool) : Decidable (Inert inRun) :=
  inferInstanceAs (Decidable (∀ char ∈ '?' :: neutralChars, inRun char = false))

theorem Inert.plain {inRun : Char → Bool} (inert : Inert inRun) {char : Char}
    (inside : inRun char = true) : char ∉ '?' :: neutralChars := by
  intro member
  rw [inert char member] at inside
  cases inside

/-- Whether a name may take the place of another one: both begin with neutral letters, and the new
one is not the end of a word that a cast is made of. -/
structure Exchange (old new : List Char) : Prop where
  old_name : IsName old
  new_name : IsName new
  old_head : ∃ char ∈ neutralChars, old.head? = some char
  new_head : ∃ char ∈ neutralChars, new.head? = some char
  uncast : ∀ entry ∈ castNames, ∀ ending ∈ entry.1.toList.tails, spellsWord ending new = false

/-- Whether a text is made from another one by exchanging names and by dropping what stands between
the marks of a ternary. -/
inductive Similar : List Char → List Char → Prop where
  | nil : Similar [] []
  | keep (char : Char) {old new : List Char} (rest : Similar old new) :
      Similar (char :: old) (char :: new)
  | exchange {oldName newName old new : List Char} (names : Exchange oldName newName)
      (ends : Stops isNamePart old) (rest : Similar old new) :
      Similar (oldName ++ old) (newName ++ new)
  | drop (dropped : List Char) {old new : List Char}
      (opens : ['?', '>'].isPrefixOf ('?' :: (dropped ++ ':' :: old)) = false)
      (rest : Similar old new) : Similar ('?' :: (dropped ++ ':' :: old)) ('?' :: ':' :: new)

theorem isNamePart_of_neutral {char : Char} (neutral : char ∈ neutralChars) :
    isNamePart char = true := by
  revert char
  decide

theorem Exchange.exists_cons {old new : List Char} (names : Exchange old new) :
    ∃ first ∈ neutralChars, ∃ second ∈ neutralChars, ∃ oldTail newTail,
      old = first :: oldTail ∧ new = second :: newTail := by
  rcases names.old_head with ⟨first, first_neutral, old_head⟩
  rcases names.new_head with ⟨second, second_neutral, new_head⟩
  rcases List.head?_eq_some_iff.mp old_head with ⟨oldTail, old_eq⟩
  rcases List.head?_eq_some_iff.mp new_head with ⟨newTail, new_eq⟩
  exact ⟨first, first_neutral, second, second_neutral, oldTail, newTail, old_eq, new_eq⟩

theorem isAlpha_of_isLower_toLower {char : Char} (lower : char.toLower.isLower = true) :
    char.isAlpha = true := by
  refine Bool.or_eq_true_iff.mpr ?_
  by_cases upper : char.val ≥ 'A'.val ∧ char.val ≤ 'Z'.val
  · exact .inl (decide_eq_true upper)
  · have same : char.toLower = char := dif_neg upper
    exact .inr (same ▸ lower)

theorem isNamePart_of_spellsLetter {letter char : Char} (lower : letter.isLower = true)
    (spells : spellsLetter letter char = true) : isNamePart char = true := by
  simp only [spellsLetter, Bool.or_eq_true, Bool.and_eq_true, beq_iff_eq] at spells
  rcases spells with ((same | ⟨-, rfl | rfl⟩) | ⟨-, rfl⟩) | ⟨-, rfl⟩
  · have alpha := isAlpha_of_isLower_toLower (same ▸ lower)
    simp [isNamePart, isNameStart, alpha]
  · decide
  · decide
  · decide
  · decide

theorem isNamePart_of_spellsWord {word chars : List Char}
    (lower : ∀ letter ∈ word, letter.isLower = true) (spells : spellsWord word chars = true)
    {char : Char} (member : char ∈ chars) : isNamePart char = true := by
  induction word generalizing chars with
  | nil => cases chars <;> simp_all [spellsWord]
  | cons letter word ih =>
      cases chars with
      | nil => cases member
      | cons first chars =>
          simp only [spellsWord, Bool.and_eq_true] at spells
          rcases List.mem_cons.mp member with rfl | member
          · exact isNamePart_of_spellsLetter (lower letter (List.mem_cons_self ..)) spells.1
          · exact ih (fun letter member => lower letter (List.mem_cons_of_mem _ member)) spells.2
              member

theorem exists_ending_of_spellsWord {word chars ending : List Char}
    (spells : spellsWord word chars = true) (ends : ending <:+ chars) :
    ∃ last ∈ word.tails, spellsWord last ending = true := by
  rcases ends with ⟨beginning, rfl⟩
  induction beginning generalizing word with
  | nil => exact ⟨word, (List.mem_tails _ _).mpr (List.suffix_refl _), spells⟩
  | cons first beginning ih =>
      cases word with
      | nil => cases spells
      | cons letter word =>
          simp only [List.cons_append, spellsWord, Bool.and_eq_true] at spells
          rcases ih spells.2 with ⟨last, member, spells⟩
          exact ⟨last, (List.mem_tails _ _).mpr
            (((List.mem_tails _ _).mp member).trans (List.suffix_cons _ _)), spells⟩

namespace Similar

variable {old new : List Char}

theorem append (piece : List Char) (similar : Similar old new) :
    Similar (piece ++ old) (piece ++ new) := by
  induction piece with
  | nil => exact similar
  | cons char piece ih => exact .keep char ih

/-- The texts begin with the same character, or both begin with neutral letters. -/
theorem head (similar : Similar old new) :
    old.head? = new.head? ∨
      ∃ first ∈ neutralChars, ∃ second ∈ neutralChars,
        old.head? = some first ∧ new.head? = some second := by
  cases similar with
  | nil => exact .inl rfl
  | keep char rest => exact .inl rfl
  | exchange names ends rest =>
      rcases names.exists_cons with
        ⟨first, first_neutral, second, second_neutral, oldTail, newTail, rfl, rfl⟩
      exact .inr ⟨first, first_neutral, second, second_neutral, rfl, rfl⟩
  | drop dropped opens rest => exact .inl rfl

theorem eq_nil (similar : Similar [] new) : new = [] := by
  rcases similar.head with same | ⟨_, _, _, _, old_eq, -⟩
  · exact List.head?_eq_none_iff.mp same.symm
  · cases old_eq

theorem head?_eq_some_iff (similar : Similar old new) {char : Char}
    (plain : char ∉ neutralChars) : old.head? = some char ↔ new.head? = some char := by
  rcases similar.head with same | ⟨first, first_neutral, second, second_neutral, old_eq, new_eq⟩
  · rw [same]
  · rw [old_eq, new_eq, Option.some.injEq, Option.some.injEq]
    constructor
    · rintro rfl
      exact absurd first_neutral plain
    · rintro rfl
      exact absurd second_neutral plain

/-- A property that neutral letters share holds of both first characters or of none. -/
theorem any_head (similar : Similar old new) {property : Char → Bool}
    (shared : ∀ first ∈ neutralChars, ∀ second ∈ neutralChars, property first = property second) :
    old.head?.any property = new.head?.any property := by
  rcases similar.head with same | ⟨first, first_neutral, second, second_neutral, old_eq, new_eq⟩
  · rw [same]
  · rw [old_eq, new_eq, Option.any_some, Option.any_some,
      shared first first_neutral second second_neutral]

theorem stops_iff (similar : Similar old new) {property : Char → Bool}
    (shared : ∀ first ∈ neutralChars, ∀ second ∈ neutralChars, property first = property second) :
    Stops property old ↔ Stops property new := by
  have stops : ∀ text : List Char, Stops property text ↔ text.head?.any property = false := by
    intro text
    cases text <;> simp
  rw [stops, stops, similar.any_head shared]

theorem stops_namePart_iff (similar : Similar old new) :
    Stops isNamePart old ↔ Stops isNamePart new :=
  similar.stops_iff fun _ first_neutral _ second_neutral =>
    (isNamePart_of_neutral first_neutral).trans (isNamePart_of_neutral second_neutral).symm

/-- A character that is neither neutral nor a question mark comes from the old text. -/
theorem of_cons_right {char : Char} {rest : List Char} (similar : Similar old (char :: rest))
    (plain : char ∉ '?' :: neutralChars) :
    ∃ before, old = char :: before ∧ Similar before rest := by
  generalize text_eq : char :: rest = text at similar
  cases similar with
  | nil => cases text_eq
  | keep other similar =>
      cases text_eq
      exact ⟨_, rfl, similar⟩
  | exchange names ends similar =>
      rcases names.exists_cons with
        ⟨first, first_neutral, second, second_neutral, oldTail, newTail, rfl, rfl⟩
      cases text_eq
      exact absurd (List.mem_cons_of_mem _ second_neutral) plain
  | drop dropped opens similar =>
      cases text_eq
      exact absurd (List.mem_cons_self ..) plain

/-- Characters that are neither neutral nor question marks come from the old text. -/
theorem exists_plain_old {piece rest : List Char} (similar : Similar old (piece ++ rest))
    (plain : ∀ char ∈ piece, char ∉ '?' :: neutralChars) :
    ∃ before, old = piece ++ before ∧ Similar before rest := by
  induction piece generalizing old with
  | nil => exact ⟨old, rfl, similar⟩
  | cons char piece ih =>
      rcases similar.of_cons_right (plain char (List.mem_cons_self ..)) with ⟨inner, rfl, tail⟩
      rcases ih tail fun other member => plain other (List.mem_cons_of_mem _ member) with
        ⟨before, rfl, rest⟩
      exact ⟨before, rfl, rest⟩

/-- A character of the old text that is neither neutral nor a question mark stays. -/
theorem of_cons_left {char : Char} {rest : List Char} (similar : Similar (char :: rest) new)
    (plain : char ∉ '?' :: neutralChars) : ∃ after, new = char :: after ∧ Similar rest after := by
  generalize text_eq : char :: rest = text at similar
  cases similar with
  | nil => cases text_eq
  | keep other similar =>
      cases text_eq
      exact ⟨_, rfl, similar⟩
  | exchange names ends similar =>
      rcases names.exists_cons with
        ⟨first, first_neutral, second, second_neutral, oldTail, newTail, rfl, rfl⟩
      cases text_eq
      exact absurd (List.mem_cons_of_mem _ first_neutral) plain
  | drop dropped opens similar =>
      cases text_eq
      exact absurd (List.mem_cons_self ..) plain

/-- Both texts begin with the same run of characters that they cannot differ in. -/
theorem exists_run (similar : Similar old new) {inRun : Char → Bool} (inert : Inert inRun) :
    ∃ run before after, old = run ++ before ∧ new = run ++ after ∧
      (∀ char ∈ run, inRun char = true) ∧ Stops inRun before ∧ Stops inRun after ∧
      Similar before after := by
  induction similar with
  | nil => exact ⟨[], [], [], rfl, rfl, by simp, by simp, by simp, .nil⟩
  | keep char rest ih =>
      by_cases inside : inRun char = true
      · rcases ih with ⟨run, before, after, rfl, rfl, run_inside, old_stops, new_stops, similar⟩
        refine ⟨char :: run, before, after, rfl, rfl, ?_, old_stops, new_stops, similar⟩
        exact List.forall_mem_cons.mpr ⟨inside, run_inside⟩
      · rw [Bool.not_eq_true] at inside
        exact ⟨[], _, _, rfl, rfl, by simp, by simp [inside], by simp [inside], .keep char rest⟩
  | exchange names ends rest _ =>
      rcases names.exists_cons with
        ⟨first, first_neutral, second, second_neutral, oldTail, newTail, rfl, rfl⟩
      exact ⟨[], _, _, rfl, rfl, by simp,
        by simp [inert first (List.mem_cons_of_mem _ first_neutral)],
        by simp [inert second (List.mem_cons_of_mem _ second_neutral)], .exchange names ends rest⟩
  | drop dropped opens rest _ =>
      have outside := inert '?' (List.mem_cons_self ..)
      exact ⟨[], _, _, rfl, rfl, by simp, by simp [outside], by simp [outside],
        .drop dropped opens rest⟩

theorem runLength_eq (similar : Similar old new) {inRun : Char → Bool} (inert : Inert inRun) :
    runLength inRun old = runLength inRun new := by
  rcases similar.exists_run inert with
    ⟨run, before, after, rfl, rfl, inside, old_stops, new_stops, -⟩
  rw [runLength_append inside old_stops, runLength_append inside new_stops]

/-- A sign that the new text begins with stands in the old one as well. -/
theorem isPrefixOf_old (similar : Similar old new) {sign : List Char}
    (plain : ∀ char ∈ sign, char ∉ neutralChars) (whole : ':' ∈ sign → '?' ∉ sign)
    (here : sign.isPrefixOf new = true) : sign.isPrefixOf old = true := by
  induction similar generalizing sign with
  | nil => exact here
  | keep char rest ih =>
      cases sign with
      | nil => rfl
      | cons first sign =>
          simp only [List.isPrefixOf, Bool.and_eq_true] at here ⊢
          refine ⟨here.1,
            ih (fun char member => plain char (List.mem_cons_of_mem _ member)) ?_ here.2⟩
          intro colon mark
          exact whole (List.mem_cons_of_mem _ colon) (List.mem_cons_of_mem _ mark)
  | exchange names ends rest _ =>
      cases sign with
      | nil => rfl
      | cons first sign =>
          rcases names.exists_cons with ⟨_, _, second, neutral, oldTail, newTail, rfl, rfl⟩
          simp only [List.cons_append, List.isPrefixOf, Bool.and_eq_true, beq_iff_eq] at here
          exact absurd neutral (here.1 ▸ plain first (List.mem_cons_self ..))
  | drop dropped opens rest _ =>
      cases sign with
      | nil => rfl
      | cons first sign =>
          simp only [List.isPrefixOf, Bool.and_eq_true, beq_iff_eq] at here ⊢
          refine ⟨here.1, ?_⟩
          cases sign with
          | nil => rfl
          | cons second sign =>
              simp only [List.isPrefixOf, Bool.and_eq_true, beq_iff_eq] at here
              exact absurd (by simp [here.1]) (whole (by simp [here.2.1]))

/-- Both texts begin with the same digits. -/
theorem exists_digitRun (similar : Similar old new) :
    ∃ run before after, old = run ++ before ∧ new = run ++ after ∧
      digitRunLength old = run.length ∧ digitRunLength new = run.length ∧
      Similar before after := by
  have inert : Inert fun char => isDigit char || char == '_' := by decide
  cases similar with
  | nil => exact ⟨[], [], [], rfl, rfl, rfl, rfl, .nil⟩
  | keep char rest =>
      by_cases digit : isDigit char = true
      · rcases rest.exists_run inert with
          ⟨run, before, after, rfl, rfl, inside, old_stops, new_stops, similar⟩
        refine ⟨char :: run, before, after, rfl, rfl, ?_, ?_, similar⟩
        · simp [digitRunLength, digit, runLength_append inside old_stops, Nat.add_comm]
        · simp [digitRunLength, digit, runLength_append inside new_stops, Nat.add_comm]
      · exact ⟨[], _, _, rfl, rfl, by simp [digitRunLength, digit], by simp [digitRunLength, digit],
          .keep char rest⟩
  | exchange names ends rest =>
      have digit_neutral : ∀ char ∈ neutralChars, isDigit char = false := by decide
      rcases names.exists_cons with
        ⟨first, first_neutral, second, second_neutral, oldTail, newTail, rfl, rfl⟩
      exact ⟨[], _, _, rfl, rfl, by simp [digitRunLength, digit_neutral first first_neutral],
        by simp [digitRunLength, digit_neutral second second_neutral], .exchange names ends rest⟩
  | drop dropped opens rest => exact ⟨[], _, _, rfl, rfl, rfl, rfl, .drop dropped opens rest⟩

theorem digitRunLength_eq (similar : Similar old new) :
    digitRunLength old = digitRunLength new := by
  rcases similar.exists_digitRun with ⟨run, before, after, -, -, old_eq, new_eq, -⟩
  rw [old_eq, new_eq]

/-- Both texts begin with the same sign of a number, or with none. -/
theorem exists_sign (similar : Similar old new) :
    ∃ run before after, old = run ++ before ∧ new = run ++ after ∧
      signLength old = run.length ∧ signLength new = run.length ∧ Similar before after := by
  have unsigned : ∀ {char : Char} (text : List Char), char ∉ ['+', '-'] →
      signLength (char :: text) = 0 := by
    intro char text other
    simp only [signLength]
    split <;> simp_all
  cases similar with
  | nil => exact ⟨[], [], [], rfl, rfl, rfl, rfl, .nil⟩
  | keep char rest =>
      by_cases signed : char ∈ ['+', '-']
      · have sign_eq : ∀ text, signLength (char :: text) = 1 := by
          intro text
          rcases List.mem_pair.mp signed with rfl | rfl <;> rfl
        exact ⟨[char], _, _, rfl, rfl, sign_eq _, sign_eq _, rest⟩
      · exact ⟨[], _, _, rfl, rfl, unsigned _ signed, unsigned _ signed, .keep char rest⟩
  | exchange names ends rest =>
      have neutral_unsigned : ∀ char ∈ neutralChars, char ∉ ['+', '-'] := by decide
      rcases names.exists_cons with
        ⟨first, first_neutral, second, second_neutral, oldTail, newTail, rfl, rfl⟩
      exact ⟨[], _, _, rfl, rfl, unsigned _ (neutral_unsigned first first_neutral),
        unsigned _ (neutral_unsigned second second_neutral), .exchange names ends rest⟩
  | drop dropped opens rest => exact ⟨[], _, _, rfl, rfl, rfl, rfl, .drop dropped opens rest⟩

theorem exponentLength_eq (similar : Similar old new) :
    exponentLength old = exponentLength new := by
  have unmarked : ∀ {char : Char} (text : List Char), char ∉ ['e', 'E'] →
      exponentLength (char :: text) = 0 := by
    intro char text other
    simp only [List.mem_cons, List.not_mem_nil, or_false] at other
    simp [exponentLength, other]
  cases similar with
  | nil => rfl
  | keep char rest =>
      rcases rest.exists_sign with ⟨run, before, after, rfl, rfl, old_eq, new_eq, similar⟩
      have inert : Inert isDigit := by decide
      simp only [exponentLength, old_eq, new_eq, List.drop_left, similar.runLength_eq inert]
  | exchange names ends rest =>
      have neutral_unmarked : ∀ char ∈ neutralChars, char ∉ ['e', 'E'] := by decide
      rcases names.exists_cons with
        ⟨first, first_neutral, second, second_neutral, oldTail, newTail, rfl, rfl⟩
      rw [List.cons_append, List.cons_append, unmarked _ (neutral_unmarked first first_neutral),
        unmarked _ (neutral_unmarked second second_neutral)]
  | drop dropped opens rest => rw [unmarked _ (by decide), unmarked _ (by decide)]

end Similar

theorem floatLength_of_unpointed {chars : List Char}
    (unpointed : (chars.drop (digitRunLength chars)).head? ≠ some '.') :
    floatLength chars =
      if digitRunLength chars = 0 ∨ exponentLength (chars.drop (digitRunLength chars)) = 0 then 0
      else digitRunLength chars + exponentLength (chars.drop (digitRunLength chars)) := by
  simp only [floatLength]
  split
  · rename_i fraction rest_eq
    exact absurd (by rw [rest_eq]; rfl) unpointed
  · rfl

namespace Similar

variable {old new : List Char}

theorem floatLength_eq (similar : Similar old new) : floatLength old = floatLength new := by
  rcases similar.exists_digitRun with ⟨run, before, after, rfl, rfl, old_eq, new_eq, rest⟩
  by_cases pointed : before.head? = some '.'
  · rcases List.head?_eq_some_iff.mp pointed with ⟨fraction, rfl⟩
    rcases rest.of_cons_left (by decide) with ⟨newFraction, rfl, fractions⟩
    simp only [floatLength, old_eq, new_eq, List.drop_left,
      fractions.head?_eq_some_iff (by decide : '.' ∉ neutralChars), fractions.exponentLength_eq]
    rcases fractions.exists_digitRun with
      ⟨places, oldRest, newRest, rfl, rfl, old_places, new_places, afterPlaces⟩
    simp only [old_places, new_places, List.drop_left, afterPlaces.exponentLength_eq]
  · have unpointed := mt (rest.head?_eq_some_iff (by decide : '.' ∉ neutralChars)).mpr pointed
    rw [floatLength_of_unpointed (by rw [old_eq, List.drop_left]; exact pointed),
      floatLength_of_unpointed (by rw [new_eq, List.drop_left]; exact unpointed), old_eq, new_eq,
      List.drop_left, List.drop_left, rest.exponentLength_eq]

end Similar

theorem integerLength_of_nonzero {chars : List Char} (nonzero : chars.head? ≠ some '0') :
    integerLength chars = digitRunLength chars := by
  simp only [integerLength]
  split
  · simp at nonzero
  · rfl

theorem integerLength_of_unmarked {mark : Char} (rest : List Char)
    (unmarked : mark.toLower ≠ 'x' ∧ mark.toLower ≠ 'b') :
    integerLength ('0' :: mark :: rest) = digitRunLength ('0' :: mark :: rest) := by
  simp [integerLength, unmarked]

theorem lineBreakLength_cons (char : Char) (rest : List Char) :
    lineBreakLength (char :: rest) =
      if char = '\r' then if rest.head? = some '\n' then 2 else 1
      else if char = '\n' then 1 else 0 := by
  simp only [lineBreakLength]
  split
  · simp_all
  · rename_i unbroken same
    cases same
    have : rest.head? ≠ some '\n' := by
      intro head
      rcases List.head?_eq_some_iff.mp head with ⟨tail, rfl⟩
      exact unbroken tail rfl
    simp [this]
  · simp_all
  · simp_all

namespace Similar

variable {old new : List Char}

theorem integerLength_eq (similar : Similar old new) : integerLength old = integerLength new := by
  by_cases zero : old.head? = some '0'
  · have digits_eq := similar.digitRunLength_eq
    rcases List.head?_eq_some_iff.mp zero with ⟨oldRest, rfl⟩
    rcases similar.of_cons_left (by decide) with ⟨newRest, rfl, rest⟩
    have unmarked : ∀ char ∈ '?' :: neutralChars, char.toLower ≠ 'x' ∧ char.toLower ≠ 'b' := by
      decide
    cases rest with
    | nil => rfl
    | keep mark rest =>
        have hex : Inert isHexPart := by decide
        have binary : Inert isBinaryPart := by decide
        simp only [integerLength, rest.runLength_eq hex, rest.runLength_eq binary, digits_eq]
    | exchange names ends rest =>
        rcases names.exists_cons with
          ⟨first, first_neutral, second, second_neutral, oldTail, newTail, rfl, rfl⟩
        simp only [List.cons_append] at digits_eq ⊢
        rw [integerLength_of_unmarked _ (unmarked first (List.mem_cons_of_mem _ first_neutral)),
          integerLength_of_unmarked _ (unmarked second (List.mem_cons_of_mem _ second_neutral)),
          digits_eq]
    | drop dropped opens rest =>
        rw [integerLength_of_unmarked _ (by decide), integerLength_of_unmarked _ (by decide),
          digits_eq]
  · have nonzero := mt (similar.head?_eq_some_iff (by decide : '0' ∉ neutralChars)).mpr zero
    rw [integerLength_of_nonzero zero, integerLength_of_nonzero nonzero, similar.digitRunLength_eq]

theorem lineBreakLength_eq (similar : Similar old new) :
    lineBreakLength old = lineBreakLength new := by
  have unbroken : ∀ char ∈ neutralChars, char ≠ '\r' ∧ char ≠ '\n' := by decide
  cases similar with
  | nil => rfl
  | keep char rest =>
      simp only [lineBreakLength_cons, rest.head?_eq_some_iff (by decide : '\n' ∉ neutralChars)]
  | exchange names ends rest =>
      rcases names.exists_cons with
        ⟨first, first_neutral, second, second_neutral, oldTail, newTail, rfl, rfl⟩
      simp [lineBreakLength_cons, unbroken first first_neutral, unbroken second second_neutral]
  | drop dropped opens rest => rfl

theorem whitespaceLength_eq (similar : Similar old new) :
    whitespaceLength old = whitespaceLength new := by
  have inert : Inert isSpaceOrTab := by decide
  rcases similar.exists_run inert with
    ⟨run, before, after, rfl, rfl, inside, old_stops, new_stops, rest⟩
  simp only [whitespaceLength, runLength_append inside old_stops,
    runLength_append inside new_stops, List.drop_left, rest.lineBreakLength_eq]

theorem nameLength_pos_iff (similar : Similar old new) :
    0 < nameLength old ↔ 0 < nameLength new := by
  have starts : ∀ char ∈ neutralChars, isNameStart char = true := by decide
  rw [Lexer.nameLength_pos_iff, Lexer.nameLength_pos_iff, similar.any_head fun first first_neutral
    second second_neutral => (starts first first_neutral).trans (starts second second_neutral).symm]

/-- Where the new text goes on with a name, the old one does so as well, and the rests are similar
again. -/
theorem dropWhile_namePart (similar : Similar old new) :
    Similar (old.dropWhile isNamePart) (new.dropWhile isNamePart) := by
  induction similar with
  | nil => exact .nil
  | keep char rest ih =>
      by_cases inside : isNamePart char = true
      · simpa [List.dropWhile_cons, inside] using ih
      · simpa [List.dropWhile_cons, inside] using .keep char rest
  | exchange names ends rest ih =>
      rw [List.dropWhile_append_of_pos fun _ member => names.old_name.isNamePart member,
        List.dropWhile_append_of_pos fun _ member => names.new_name.isNamePart member]
      exact ih
  | drop dropped opens rest _ =>
      have outside : isNamePart '?' = false := by decide
      simpa [List.dropWhile_cons, outside] using .drop dropped opens rest

/-- Where the new text begins with a name, so does the old one. -/
theorem exists_name_old {name rest : List Char} (similar : Similar old (name ++ rest))
    (isName : IsName name) (stops : Stops isNamePart rest) :
    ∃ oldName before, old = oldName ++ before ∧ IsName oldName ∧ Similar before rest := by
  have positive : 0 < nameLength old := by
    rw [similar.nameLength_pos_iff, nameLength_append isName stops]
    exact List.length_pos_iff.mpr isName.ne_nil
  rcases exists_name positive with ⟨oldName, before, rfl, old_isName, old_stops⟩
  have rests := similar.dropWhile_namePart
  rw [dropWhile_append_of_stops (fun _ member => old_isName.isNamePart member) old_stops,
    dropWhile_append_of_stops (fun _ member => isName.isNamePart member) stops] at rests
  exact ⟨oldName, before, rfl, old_isName, rests⟩

/-- A word of the new text that no exchanged name ends stands in the old one as well. -/
theorem exists_word_old {word rest : List Char} (similar : Similar old (word ++ rest))
    (inside : ∀ char ∈ word, isNamePart char = true) (stops : Stops isNamePart rest)
    (kept : ∀ oldName newName, Exchange oldName newName → ¬newName <:+ word) :
    ∃ before, old = word ++ before ∧ Similar before rest := by
  generalize text_eq : word ++ rest = text at similar
  induction similar generalizing word with
  | nil =>
      rcases List.append_eq_nil_iff.mp text_eq with ⟨rfl, rfl⟩
      exact ⟨[], rfl, .nil⟩
  | keep char similar ih =>
      cases word with
      | nil =>
          simp only [List.nil_append] at text_eq
          subst text_eq
          exact ⟨_, rfl, .keep char similar⟩
      | cons first word =>
          rw [List.cons_append, List.cons.injEq] at text_eq
          rcases text_eq with ⟨rfl, text_eq⟩
          rcases ih (fun char member => inside char (List.mem_cons_of_mem _ member))
            (fun oldName newName names ending => kept oldName newName names
              (ending.trans (List.suffix_cons _ _))) text_eq with ⟨before, rfl, rest⟩
          exact ⟨before, rfl, rest⟩
  | exchange names ends similar _ =>
      cases word with
      | nil =>
          simp only [List.nil_append] at text_eq
          subst text_eq
          exact ⟨_, rfl, .exchange names ends similar⟩
      | cons first word =>
          -- Both the word and the new name are all that the text begins with as a name.
          have word_eq := takeWhile_append_of_stops inside stops
          rw [text_eq, takeWhile_append_of_stops (fun _ member => names.new_name.isNamePart member)
            (similar.stops_namePart_iff.mp ends)] at word_eq
          exact absurd (word_eq ▸ List.suffix_refl _) (kept _ _ names)
  | drop dropped opens similar _ =>
      cases word with
      | nil =>
          simp only [List.nil_append] at text_eq
          subst text_eq
          exact ⟨_, rfl, .drop dropped opens similar⟩
      | cons first word =>
          rw [List.cons_append, List.cons.injEq] at text_eq
          exact absurd (inside first (List.mem_cons_self ..)) (by rw [text_eq.1]; decide)

theorem cast?_isSome_old (similar : Similar old new)
    (found : (cast? (castNames.map Prod.fst) new).isSome = true) :
    (cast? (castNames.map Prod.fst) old).isSome = true := by
  rcases Option.isSome_iff_exists.mp found with ⟨⟨name, length⟩, found⟩
  rcases exists_cast castNames_proper found with ⟨leading, word, trailing, rest, rfl, parts⟩
  rcases List.any_eq_true.mp parts.named with ⟨spelling, member, spells⟩
  rcases List.mem_map.mp member with ⟨entry, entry_mem, rfl⟩
  have lower : ∀ entry ∈ castNames, ∀ letter ∈ entry.1.toList, letter.isLower = true := by decide
  have blanks : Inert isSpaceOrTab := by decide
  rw [castText, List.cons_append, List.append_assoc, List.append_assoc] at similar
  rcases similar.of_cons_right (by decide) with ⟨inner, rfl, opened⟩
  rcases opened.exists_plain_old fun char member =>
    blanks.plain (parts.leading_blank char member) with ⟨afterLeading, rfl, worded⟩
  have closes : ∀ char ∈ trailing ++ [')'], char ∉ '?' :: neutralChars := by
    intro char member
    rcases List.mem_append.mp member with blank | close
    · exact blanks.plain (parts.trailing_blank char blank)
    · rw [List.mem_singleton.mp close]
      decide
  have stops : Stops isNamePart (trailing ++ [')'] ++ rest) := by
    have : ∀ char ∈ trailing ++ [')'], isNamePart char = false := by
      intro char member
      rcases List.mem_append.mp member with blank | close
      · have space := parts.trailing_blank char blank
        simp only [isSpaceOrTab, Bool.or_eq_true, beq_iff_eq] at space
        rcases space with rfl | rfl <;> decide
      · rw [List.mem_singleton.mp close]
        decide
    cases trailing with
    | nil => simpa using this
    | cons first trailing => simpa using this first (List.mem_cons_self ..)
  rcases worded.exists_word_old
    (fun char member => isNamePart_of_spellsWord (lower entry entry_mem) spells member) stops
    (fun oldName newName names ending => by
      rcases exists_ending_of_spellsWord spells ending with ⟨last, among, spelled⟩
      rw [names.uncast entry entry_mem last among] at spelled
      cases spelled) with ⟨afterWord, rfl, closing⟩
  rcases closing.exists_plain_old closes with ⟨before, rfl, -⟩
  have shape : '(' :: (leading ++ (word ++ (trailing ++ [')'] ++ before))) =
      castText leading word trailing ++ before := by simp [castText]
  rw [shape, cast?_castText parts]
  rfl

theorem heredocStart?_isSome_old (similar : Similar old new)
    (found : (heredocStart? new).isSome = true) : (heredocStart? old).isSome = true := by
  rcases Option.isSome_iff_exists.mp found with ⟨⟨label, length⟩, found⟩
  rcases exists_heredocStart found with ⟨blanks, quote, lineBreak, rest, rfl, parts⟩
  have blank : Inert isSpaceOrTab := by decide
  have quote_plain : ∀ char ∈ quote, char ∉ '?' :: neutralChars := by
    rcases parts.quote_eq with rfl | rfl | rfl <;> decide
  have lineBreak_plain : ∀ char ∈ lineBreak, char ∉ '?' :: neutralChars := by
    rcases parts.lineBreak_eq with rfl | rfl <;> decide
  have opening_plain : ∀ char ∈ ['<', '<', '<'] ++ blanks ++ quote, char ∉ '?' :: neutralChars := by
    intro char member
    rcases List.mem_append.mp member with before | quoting
    · rcases List.mem_append.mp before with sign | space
      · have signs : ∀ char ∈ ['<', '<', '<'], char ∉ '?' :: neutralChars := by decide
        exact signs char sign
      · exact blank.plain (parts.blanks_blank char space)
    · exact quote_plain char quoting
  have closing_plain : ∀ char ∈ quote ++ lineBreak, char ∉ '?' :: neutralChars := by
    intro char member
    rcases List.mem_append.mp member with quoting | breaking
    · exact quote_plain char quoting
    · exact lineBreak_plain char breaking
  have shape : ∀ (name after : List Char), heredocText blanks quote name lineBreak ++ after =
      (['<', '<', '<'] ++ blanks ++ quote) ++ (name ++ ((quote ++ lineBreak) ++ after)) := by
    intro name after
    simp [heredocText]
  rw [shape] at similar
  rcases similar.exists_plain_old opening_plain with ⟨fromLabel, rfl, labelled⟩
  have stops : Stops isNamePart (quote ++ lineBreak ++ rest) := by
    rw [List.append_assoc]
    exact parts.label_stops rest
  rcases labelled.exists_name_old parts.label_name stops with
    ⟨oldLabel, afterLabel, rfl, label_name, closing⟩
  rcases closing.exists_plain_old closing_plain with ⟨before, rfl, -⟩
  have oldParts : IsHeredocStart blanks quote oldLabel lineBreak :=
    ⟨parts.blanks_blank, parts.quote_eq, label_name, parts.lineBreak_eq⟩
  rw [← shape, heredocStart?_heredocText oldParts]
  rfl

end Similar

end TokenLint.Lexer
