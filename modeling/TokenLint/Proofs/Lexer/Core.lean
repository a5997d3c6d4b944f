import TokenLint.Proofs.Lexer.Blanks
import TokenLint.Proofs.Lexer.Casts
import TokenLint.Proofs.Lexer.Prefix
import TokenLint.Proofs.Text.Trim

/-!
# Lexemes of equal texts

Two lists of lexemes whose texts are equal once loose characters are stripped from their ends hold
the same code, apart from parentheses at these ends. The loose characters in front are lexemes of
their own, what follows is cut alike as far as the texts agree, and the rest is loose again. What
breaks this are lexemes that share a loose character with the stripped ends, so these are asked not
to stand there. Only a cast may begin both lists, as it is then cut off from both.
-/

namespace TokenLint.Lexer

open Text

/-- The contents of the lexemes that are neither whitespace nor comments. -/
def codeContents (lexemes : List Lexeme) : List String :=
  (lexemes.filter fun lexeme => !lexeme.kind.isTrivia).map Lexeme.content

/-- Whether a lexeme is neither whitespace nor a comment nor a parenthesis. -/
def isCore (lexeme : Lexeme) : Bool :=
  !lexeme.kind.isTrivia && lexeme.kind != .openParenthesis && lexeme.kind != .closeParenthesis

/-- Whether the first core lexeme of a list does not begin with a loose character. -/
def BareFirst (lexemes : List Lexeme) : Prop :=
  ∀ lexeme ∈ lexemes.find? isCore, ∀ char ∈ lexeme.content.toList.head?, isLoose char = false

/-- Whether the last core lexeme of a list does not end with a loose character. -/
def BareLast (lexemes : List Lexeme) : Prop :=
  ∀ lexeme ∈ lexemes.reverse.find? isCore, ∀ char ∈ lexeme.content.toList.getLast?,
    isLoose char = false

/-- Whether the first core lexemes of two lists are the same cast. -/
def SameCast (first second : List Lexeme) : Prop :=
  ∃ own other leading word trailing, first.find? isCore = some own ∧
    second.find? isCore = some other ∧ own.content = other.content ∧
    IsCast (castNames.map Prod.fst) leading word trailing ∧
    own.content.toList = castText leading word trailing

/-- Whether two lists of lexemes begin alike: in neither of them the first core lexeme begins with
a loose character, or it is the same cast in both. -/
def BeginAlike (first second : List Lexeme) : Prop :=
  BareFirst first ∧ BareFirst second ∨ SameCast first second

/-- Whether dropping parentheses from both ends of some contents, whether they match or not, can
leave the core. -/
def Strips (whole core : List String) : Prop :=
  ∃ before after, whole = before ++ core ++ after ∧
    ∀ content ∈ before ++ after, content = "(" ∨ content = ")"

instance (lexemes : List Lexeme) : Decidable (BareFirst lexemes) :=
  decidable_of_iff ((lexemes.find? isCore).all fun lexeme =>
    lexeme.content.toList.head?.all fun char => !isLoose char) (by
      simp [BareFirst, Option.all_eq_true])

instance (lexemes : List Lexeme) : Decidable (BareLast lexemes) :=
  decidable_of_iff ((lexemes.reverse.find? isCore).all fun lexeme =>
    lexeme.content.toList.getLast?.all fun char => !isLoose char) (by
      simp [BareLast, Option.all_eq_true])

/-- Whether all characters of a text are loose. -/
def AllLoose (text : List Char) : Prop := ∀ char ∈ text, isLoose char = true

variable {mode next : Mode} {lexeme : Lexeme} {lexemes front back rest : List Lexeme}
  {text lead trail : List Char}

theorem AllLoose.beginsLoose (loose : AllLoose text) : BeginsLoose text :=
  fun char found => mem_looseChars (loose char (List.mem_of_mem_head? found))

theorem AllLoose.of_append {before after : List Char} (loose : AllLoose (before ++ after)) :
    AllLoose after :=
  fun char member => loose char (List.mem_append_right _ member)

theorem codeContents_append (front back : List Lexeme) :
    codeContents (front ++ back) = codeContents front ++ codeContents back := by
  simp [codeContents]

theorem BareLast.of_append (bare : BareLast (front ++ back)) : BareLast back := by
  intro lexeme found
  apply bare lexeme
  rw [List.reverse_append, List.find?_append, Option.mem_def.mp found]
  rfl

theorem BareLast.of_cons (bare : BareLast (lexeme :: rest)) : BareLast rest := by
  rw [← List.singleton_append] at bare
  exact bare.of_append

theorem find?_isCore_append (plain : ∀ lexeme ∈ front, isCore lexeme = false) :
    (front ++ back).find? isCore = back.find? isCore := by
  rw [List.find?_append, List.find?_eq_none.mpr (by simpa using plain), Option.none_or]

theorem BareFirst.of_front (bare : BareFirst (front ++ back))
    (plain : ∀ lexeme ∈ front, isCore lexeme = false) : BareFirst back := by
  rwa [BareFirst, find?_isCore_append plain] at bare

/-- A first lexeme that begins with a loose character is no core. -/
theorem BareFirst.not_core {char : Char} {tail : List Char} (bare : BareFirst (lexeme :: rest))
    (content_eq : lexeme.content.toList = char :: tail) (loose : isLoose char = true) :
    isCore lexeme = false := by
  rw [← Bool.not_eq_true]
  intro core
  have outside := bare lexeme (by rw [List.find?_cons_of_pos core]; rfl) char
    (by rw [content_eq]; rfl)
  rw [loose] at outside
  cases outside

/-- A lexeme without core behind it that ends with a loose character is no core. -/
theorem BareLast.not_core {char : Char} (bare : BareLast (lexeme :: rest))
    (later : ∀ other ∈ rest, isCore other = false)
    (last_eq : lexeme.content.toList.getLast? = some char) (loose : isLoose char = true) :
    isCore lexeme = false := by
  rw [← Bool.not_eq_true]
  intro core
  have none_later : rest.reverse.find? isCore = none := by
    rw [List.find?_eq_none]
    intro other member
    simp [later other (List.mem_reverse.mp member)]
  have found : (lexeme :: rest).reverse.find? isCore = some lexeme := by
    rw [List.reverse_cons, List.find?_append, none_later, Option.none_or,
      List.find?_cons_of_pos core]
  have outside := bare lexeme found char last_eq
  rw [loose] at outside
  cases outside

theorem Reads.exists_fits (reads : Reads mode lexemes) (member : lexeme ∈ lexemes) :
    ∃ mode, Fits mode lexeme.kind lexeme.content.toList := by
  induction reads with
  | nil mode => cases member
  | cons cut fits later ih =>
      rcases List.mem_cons.mp member with rfl | member
      · exact ⟨_, fits⟩
      · exact ih member

theorem Reads.exists_content_cons (reads : Reads mode (lexeme :: rest)) {char : Char}
    (text_eq : spelled (lexeme :: rest) = char :: text) :
    ∃ tail, lexeme.content.toList = char :: tail := by
  have nonempty := reads.content_ne_nil (List.mem_cons_self ..)
  rw [spelled_cons] at text_eq
  cases content_eq : lexeme.content.toList with
  | nil => exact absurd content_eq nonempty
  | cons own tail =>
      rw [content_eq, List.cons_append, List.cons.injEq] at text_eq
      exact ⟨tail, by rw [text_eq.1]⟩

theorem parenthesis_of_fits {lexeme : Lexeme} (fits : Fits mode lexeme.kind lexeme.content.toList)
    (code : lexeme.kind.isTrivia = false) (plain : isCore lexeme = false) :
    lexeme.content = "(" ∨ lexeme.content = ")" := by
  simp only [isCore, code, Bool.not_false, Bool.true_and, Bool.and_eq_false_iff,
    bne_eq_false_iff_eq] at plain
  rcases plain with opens | closes
  · exact .inl (String.toList_inj.mp (fits.sign "(" (by rw [opens]; rfl)).2)
  · exact .inr (String.toList_inj.mp (fits.sign ")" (by rw [closes]; rfl)).2)

/-- Code that is no core consists of parentheses. -/
theorem parenthesis_of_not_core (reads : Reads mode lexemes) (among : front ⊆ lexemes)
    (plain : ∀ lexeme ∈ front, isCore lexeme = false) :
    ∀ content ∈ codeContents front, content = "(" ∨ content = ")" := by
  intro content member
  rcases List.mem_map.mp member with ⟨lexeme, kept, rfl⟩
  rcases List.mem_filter.mp kept with ⟨inside, code⟩
  rcases reads.exists_fits (among inside) with ⟨own, fits⟩
  exact parenthesis_of_fits fits (by simpa using code) (plain lexeme inside)

/-- A text of loose characters holds no core. -/
theorem not_core_of_loose (reads : Reads mode lexemes) (bare : BareLast lexemes)
    (loose : AllLoose (spelled lexemes)) : ∀ lexeme ∈ lexemes, isCore lexeme = false := by
  intro lexeme member
  by_contra core
  rw [Bool.not_eq_false] at core
  have found : (lexemes.reverse.find? isCore).isSome = true := by
    rw [List.find?_isSome]
    exact ⟨lexeme, List.mem_reverse.mpr member, core⟩
  rcases Option.isSome_iff_exists.mp found with ⟨last, found⟩
  have among := List.mem_reverse.mp (List.mem_of_find?_eq_some found)
  have nonempty := reads.content_ne_nil among
  have ends := bare last found _ (List.getLast?_eq_some_getLast nonempty)
  rw [loose _ (List.mem_flatMap.mpr ⟨last, among, List.getLast_mem nonempty⟩)] at ends
  cases ends

/-! ### The end of a text -/

theorem openTagLength_pos_of_markupLength {before after : List Char} (nonempty : after ≠ [])
    (length_eq : markupLength (before ++ after) = before.length) : 0 < openTagLength after := by
  induction before with
  | nil =>
      cases after with
      | nil => exact absurd rfl nonempty
      | cons char after =>
          by_contra absent
          rw [List.nil_append, markupLength, if_neg absent, List.length_nil] at length_eq
          omega
  | cons char before ih =>
      rw [List.cons_append, markupLength] at length_eq
      split at length_eq
      · cases length_eq
      · rw [List.length_cons] at length_eq
        exact ih (by omega)

theorem markupLength_append_of_opens {before after rest : List Char}
    (length_eq : markupLength (before ++ (after ++ rest)) = before.length)
    (opens : 0 < openTagLength after) : markupLength (before ++ after) = before.length := by
  induction before with
  | nil =>
      cases after with
      | nil => rfl
      | cons char after => rw [List.nil_append, markupLength, if_pos opens, List.length_nil]
  | cons char before ih =>
      rw [List.cons_append, markupLength] at length_eq ⊢
      split at length_eq
      · cases length_eq
      · rename_i absent
        have absent' : ¬0 < openTagLength (char :: (before ++ after)) := by
          intro opens
          have goesOn := openTagLength_append_pos rest opens
          rw [List.cons_append, List.append_assoc] at goesOn
          exact absent goesOn
        rw [List.length_cons] at length_eq
        rw [if_neg absent', ih (by omega), List.length_cons]
        omega

theorem markupLength_of_stride? {length : Nat}
    (cut : stride? .markup text = some (length, .markup)) : markupLength text = length := by
  simp only [stride?] at cut
  split at cut
  · simp at cut
  · split at cut
    · simpa using cut
    · cases cut

/-- A step in markup that is taken in front of some text is taken in front of its beginning as
well, if an open tag stands in this beginning where the step ends in markup. -/
theorem stride?_markup_of_append {piece after rest : List Char}
    (cut : stride? .markup (piece ++ (after ++ rest)) = some (piece.length, next))
    (opens : next = .markup → 0 < openTagLength after) :
    stride? .markup (piece ++ after) = some (piece.length, next) := by
  simp only [stride?] at cut ⊢
  split at cut
  · rename_i tag
    simp only [Option.some.injEq, Prod.mk.injEq] at cut
    have same : openTagLength (piece ++ after ++ rest) = openTagLength (piece ++ after) := by
      apply openTagLength_of_append
      rw [List.append_assoc, cut.1]
      simp
    rw [List.append_assoc] at same
    rw [← same, if_pos tag, cut.1, cut.2]
  · rename_i absent
    split at cut
    · rename_i positive
      simp only [Option.some.injEq, Prod.mk.injEq] at cut
      rcases cut with ⟨length_eq, rfl⟩
      have markup := markupLength_append_of_opens length_eq (opens rfl)
      have absent' : ¬0 < openTagLength (piece ++ after) := by
        intro tag
        have goesOn := openTagLength_append_pos rest tag
        rw [List.append_assoc] at goesOn
        exact absent goesOn
      rw [if_neg absent', markup, if_pos (by omega)]
    · cases cut

theorem Reads.exists_mode (reads : Reads mode (front ++ back)) : ∃ next, Reads next back := by
  induction front generalizing mode with
  | nil => exact ⟨mode, reads⟩
  | cons first front ih =>
      rcases reads with _ | ⟨-, -, later⟩
      exact ih later

theorem Reads.code_of_sign {mark : Lexeme} {sign : String} (reads : Reads mode (mark :: rest))
    (marks : signOf? mark.kind = some sign) :
    mode = .code ∧ spelled (mark :: rest) = sign.toList ++ spelled rest := by
  rcases reads with _ | ⟨-, fits, -⟩
  rcases fits.sign sign marks with ⟨mode_eq, content_eq⟩
  exact ⟨mode_eq, by rw [spelled_cons, content_eq]⟩

/-- The lexemes in front of a soft sign are read without what follows them. -/
theorem Reads.of_append {mark : Lexeme} {sign : String}
    (reads : Reads mode (front ++ mark :: rest)) (marks : signOf? mark.kind = some sign)
    (soft : ∀ tail, Soft (sign.toList ++ tail)) : Reads mode front := by
  have softTail : Soft (spelled (mark :: rest)) := by
    rcases reads.exists_mode with ⟨next, reads⟩
    rw [(reads.code_of_sign marks).2]
    exact soft _
  induction front generalizing mode with
  | nil => exact .nil mode
  | cons first front ih =>
      rcases reads with _ | ⟨cut, fits, later⟩
      rename_i next
      have read := ih later
      refine .cons ?_ fits read
      rw [List.append_eq, spelled_append] at cut
      cases mode with
      | code =>
          rw [← List.append_assoc] at cut
          exact softTail.stride?_code_of_append cut (by simp)
      | markup =>
          refine stride?_markup_of_append cut ?_
          rintro rfl
          -- The text in markup ends at an open tag, and this tag stands in front of the sign.
          cases front with
          | nil => cases (later.code_of_sign marks).1
          | cons second front =>
              have opens := openTagLength_pos_of_markupLength (by
                simp [later.content_ne_nil (List.mem_cons_self ..)]) (markupLength_of_stride? cut)
              rcases later with _ | ⟨cut, -, -⟩
              rw [List.append_eq, spelled_append, ← List.append_assoc, ← spelled_cons] at cut
              simp only [stride?, if_pos opens, Option.some.injEq, Prod.mk.injEq] at cut
              have same : openTagLength (spelled (second :: front) ++ spelled (mark :: rest)) =
                  openTagLength (spelled (second :: front)) := by
                apply openTagLength_of_append
                rw [cut.1, spelled_cons]
                simp
              rwa [← same]

/-! ### The beginning of a text -/

/-- Only a close tag leads out of code. -/
theorem closesTag_of_stride?_markup {length : Nat}
    (cut : stride? .code text = some (length, .markup)) :
    text.head? = some '?' ∧ 2 ≤ length := by
  simp only [stride?] at cut
  split at cut
  · rename_i closes
    rcases List.isPrefixOf_iff_prefix.mp (closeTagLength_pos_iff.mp closes) with ⟨tail, rfl⟩
    rw [List.cons_append, List.cons_append, closeTagLength_closesTag] at cut
    simp only [Option.some.injEq, Prod.mk.injEq, and_true] at cut
    exact ⟨rfl, by omega⟩
  · simp at cut

/-- Loose trivia are whitespace. -/
theorem whitespaceLength_pos_of_loose {char : Char} (loose : isLoose char = true)
    (begins : beginsTrivia (char :: text) = true) : 0 < whitespaceLength (char :: text) := by
  have apart : ∀ char ∈ looseChars, char ≠ '/' ∧ char ≠ '#' := by decide
  have own := apart char (mem_looseChars loose)
  rw [beginsTrivia_cons text own.1] at begins
  simp only [Bool.or_eq_true, beq_iff_eq] at begins
  refine whitespaceLength_pos_iff.mpr ⟨char, rfl, ?_⟩
  rcases begins with ((blank | breaks) | breaks) | hash
  · exact .inl blank
  · exact .inr (.inl breaks)
  · exact .inr (.inr breaks)
  · exact absurd hash own.2

/-- A lexeme that begins with a loose character does not lead out of code. -/
theorem Reads.code_of_loose (reads : Reads .code (lexeme :: rest)) {char : Char}
    (text_eq : spelled (lexeme :: rest) = char :: text) (loose : isLoose char = true) :
    Reads .code rest := by
  rcases reads with _ | ⟨cut, fits, later⟩
  rename_i next
  cases next with
  | code => exact later
  | markup =>
      have asks := (closesTag_of_stride?_markup cut).1
      rw [← spelled_cons, text_eq, List.head?_cons, Option.some.injEq] at asks
      subst asks
      exact absurd loose (by decide)

/-- Whitespace and parentheses at the beginning of a text do not get past its loose characters. -/
theorem Reads.step_of_not_core (reads : Reads .code (lexeme :: rest))
    (plain : isCore lexeme = false) {char : Char} (loose : AllLoose (char :: lead))
    (hard : ∃ char, text.head? = some char ∧ isLoose char = false)
    (text_eq : spelled (lexeme :: rest) = char :: lead ++ text) :
    lexeme.content.toList.length ≤ (char :: lead).length ∧ Reads .code rest := by
  refine ⟨?_, reads.code_of_loose text_eq (loose char (List.mem_cons_self ..))⟩
  rcases reads with _ | ⟨cut, fits, -⟩
  by_cases isTrivia : lexeme.kind.isTrivia = true
  · have begins := beginsTrivia_append (spelled rest) (fits.trivia.mp isTrivia).2
    rw [← spelled_cons, text_eq] at begins
    have positive : 0 < whitespaceLength (char :: lead ++ text) :=
      whitespaceLength_pos_of_loose (loose char (List.mem_cons_self ..)) begins
    rw [← text_eq, spelled_cons] at positive
    rw [stride?_code_of_whitespace positive] at cut
    simp only [Option.some.injEq, Prod.mk.injEq] at cut
    have blank : ∀ char ∈ lexeme.content.toList, isBlank char = true := by
      intro char member
      have inside : char ∈ (lexeme.content.toList ++ spelled rest).take
          (whitespaceLength (lexeme.content.toList ++ spelled rest)) := by
        rwa [cut.1, List.take_left]
      exact blank_of_mem_whitespace inside
    rw [spelled_cons] at text_eq
    rcases List.append_eq_append_iff.mp text_eq with ⟨extra, lead_eq, -⟩ | ⟨extra, content_eq, rfl⟩
    · rw [lead_eq]
      simp
    · cases extra with
      | nil =>
          rw [content_eq]
          simp
      | cons first extra =>
          rcases hard with ⟨other, head_eq, outside⟩
          cases head_eq
          have inside := blank first (by rw [content_eq]; simp)
          simp [isLoose, inside] at outside
  · have single : lexeme.content.toList.length = 1 := by
      rcases parenthesis_of_fits fits (by simpa using isTrivia) plain with opens | closes
      · rw [opens]; rfl
      · rw [closes]; rfl
    rw [single]
    simp

/-- The loose characters in front of a text are lexemes of their own as far as no core lexeme comes
among them. -/
theorem Reads.exists_loose_front (reads : Reads .code lexemes) (loose : AllLoose lead)
    (hard : ∃ char, text.head? = some char ∧ isLoose char = false)
    (text_eq : spelled lexemes = lead ++ text) :
    ∃ front own rest after, lexemes = front ++ own :: rest ∧ Reads .code (own :: rest) ∧
      (∀ lexeme ∈ front, isCore lexeme = false) ∧ AllLoose after ∧
      spelled (own :: rest) = after ++ text ∧ (isCore own = false → after = []) := by
  induction lexemes generalizing lead with
  | nil =>
      rcases hard with ⟨char, head_eq, -⟩
      rw [spelled_nil] at text_eq
      rw [(List.append_eq_nil_iff.mp text_eq.symm).2] at head_eq
      cases head_eq
  | cons first rest ih =>
      cases plain : isCore first with
      | true => exact ⟨[], first, rest, lead, rfl, reads, by simp, loose, text_eq, by simp [plain]⟩
      | false =>
          cases lead with
          | nil => exact ⟨[], first, rest, [], rfl, reads, by simp, loose, text_eq, fun _ => rfl⟩
          | cons char lead =>
              rcases reads.step_of_not_core plain loose hard text_eq with ⟨within, later⟩
              have lead_eq : ∃ after, char :: lead = first.content.toList ++ after ∧
                  spelled rest = after ++ text := by
                rw [spelled_cons] at text_eq
                rcases List.append_eq_append_iff.mp text_eq with
                  ⟨extra, lead_eq, rest_eq⟩ | ⟨extra, own, text_eq⟩
                · exact ⟨extra, lead_eq, rest_eq⟩
                · have lengths := congrArg List.length own
                  rw [List.length_append] at lengths
                  have extra_eq : extra = [] := List.length_eq_zero_iff.mp (by omega)
                  subst extra_eq
                  exact ⟨[], by simpa using own.symm, by simpa using text_eq.symm⟩
              rcases lead_eq with ⟨after, lead_eq, rest_eq⟩
              rw [lead_eq] at loose
              rcases ih later loose.of_append rest_eq with
                ⟨front, own, rest, after, rfl, reads, front_plain, loose, text_eq, ends⟩
              refine ⟨first :: front, own, rest, after, rfl, reads, ?_, loose, text_eq, ends⟩
              intro other member
              rcases List.mem_cons.mp member with rfl | member
              · exact plain
              · exact front_plain other member

/-- The loose characters in front of a text are lexemes of their own, and none of them is core. -/
theorem Reads.exists_front (reads : Reads .code lexemes) (bare : BareFirst lexemes)
    (loose : AllLoose lead) (hard : ∃ char, text.head? = some char ∧ isLoose char = false)
    (text_eq : spelled lexemes = lead ++ text) :
    ∃ front back, lexemes = front ++ back ∧ spelled back = text ∧ Reads .code back ∧
      ∀ lexeme ∈ front, isCore lexeme = false := by
  rcases reads.exists_loose_front loose hard text_eq with
    ⟨front, own, rest, after, rfl, reads, front_plain, loose, text_eq, ends⟩
  refine ⟨front, own :: rest, rfl, ?_, reads, front_plain⟩
  cases after with
  | nil => exact text_eq
  | cons char after =>
      rcases reads.exists_content_cons text_eq with ⟨tail, content_eq⟩
      cases ends ((bare.of_front front_plain).not_core content_eq
        (loose char (List.mem_cons_self ..)))

/-! ### Casts at the beginning -/

/-- The name of a cast begins with a letter. -/
theorem IsCast.exists_letter {leading word trailing : List Char}
    (parts : IsCast (castNames.map Prod.fst) leading word trailing) :
    ∃ char tail, word = char :: tail ∧ char ∉ '/' :: '#' :: looseChars := by
  have apart : ∀ char ∈ '/' :: '#' :: looseChars,
      char ∉ foldedLetters ∧ (lowerChar char).isLower = false := by decide
  rcases List.any_eq_true.mp parts.named with ⟨name, among, spells⟩
  rcases List.mem_map.mp among with ⟨entry, member, rfl⟩
  cases word with
  | nil => exact absurd rfl parts.word_ne_nil
  | cons char tail =>
      refine ⟨char, tail, rfl, fun outside => ?_⟩
      cases letters : entry.1.toList with
      | nil => simp [letters, spellsWord] at spells
      | cons letter name =>
          have plain := castNames_plain entry member letter (by simp [letters])
          rw [letters, spellsWord, Bool.and_eq_true] at spells
          rcases folded_or_lowerChar_of_spellsLetter plain spells.1 with folded | ⟨-, -, lowered⟩
          · exact (apart char outside).1 folded
          · have lower := (apart char outside).2
            rw [lowered, plain.1] at lower
            cases lower

theorem AllLoose.dropWhile_append (loose : AllLoose lead)
    (hard : ∃ char, text.head? = some char ∧ isLoose char = false) :
    (lead ++ text).dropWhile isLoose = text := by
  apply dropWhile_append_of_stops loose
  rcases hard with ⟨char, head_eq, outside⟩
  rw [Stops, head_eq]
  rintro _ ⟨⟩
  exact outside

/-- Behind the loose characters of a cast stands its name. -/
theorem IsCast.dropWhile_castText {leading word trailing : List Char}
    (parts : IsCast (castNames.map Prod.fst) leading word trailing) (rest : List Char) :
    (castText leading word trailing ++ rest).dropWhile isLoose =
      word ++ (trailing ++ ')' :: rest) := by
  rcases parts.exists_letter with ⟨char, tail, word_eq, letter⟩
  have loose : AllLoose ('(' :: leading) := by
    intro other member
    rcases List.mem_cons.mp member with rfl | member
    · rfl
    · have blank := parts.leading_blank other member
      simp only [isSpaceOrTab, Bool.or_eq_true, beq_iff_eq] at blank
      rcases blank with rfl | rfl <;> rfl
  have shape : castText leading word trailing ++ rest =
      '(' :: leading ++ (word ++ (trailing ++ ')' :: rest)) := by simp [castText]
  rw [shape]
  apply loose.dropWhile_append
  refine ⟨char, by rw [word_eq]; rfl, ?_⟩
  rw [← Bool.not_eq_true]
  intro isLoose
  exact letter (List.mem_cons_of_mem _ (List.mem_cons_of_mem _ (mem_looseChars isLoose)))

/-- A lexeme that does not begin with a loose character and is no core is a comment. -/
theorem Reads.opens_comment (reads : Reads .code (lexeme :: rest)) (plain : isCore lexeme = false)
    (hard : ∃ char, (spelled (lexeme :: rest)).head? = some char ∧ isLoose char = false) :
    ∃ char ∈ ['/', '#'], (spelled (lexeme :: rest)).head? = some char := by
  rcases hard with ⟨char, head_eq, outside⟩
  refine ⟨char, ?_, head_eq⟩
  rcases List.head?_eq_some_iff.mp head_eq with ⟨tail, text_eq⟩
  rcases reads.exists_content_cons text_eq with ⟨own, content_eq⟩
  rcases reads with _ | ⟨-, fits, -⟩
  have isTrivia : lexeme.kind.isTrivia = true := by
    by_contra code
    rcases parenthesis_of_fits fits (by simpa using code) plain with opens | closes
    · rw [opens] at content_eq
      cases content_eq
      cases outside
    · rw [closes] at content_eq
      cases content_eq
      cases outside
  have begins := (fits.trivia.mp isTrivia).2
  by_cases slash : char = '/'
  · simp [slash]
  · rw [content_eq, beginsTrivia_cons own slash] at begins
    simp only [isSpaceOrTab, Bool.or_eq_true, beq_iff_eq] at begins
    rcases begins with (((rfl | rfl) | rfl) | rfl) | rfl
    · cases outside
    · cases outside
    · cases outside
    · cases outside
    · simp

/-- Where the first core lexeme is a cast, a text behind loose characters begins with a comment in
front of it or with its name. -/
theorem Reads.exists_front_of_cast {cast : Lexeme} {leading word trailing : List Char}
    (reads : Reads .code lexemes) (found : lexemes.find? isCore = some cast)
    (parts : IsCast (castNames.map Prod.fst) leading word trailing)
    (content_eq : cast.content.toList = castText leading word trailing) (loose : AllLoose lead)
    (hard : ∃ char, text.head? = some char ∧ isLoose char = false)
    (text_eq : spelled lexemes = lead ++ text) :
    ∃ front back, lexemes = front ++ back ∧ Reads .code back ∧
      (∀ lexeme ∈ front, isCore lexeme = false) ∧
      ((spelled back = text ∧ ∃ char ∈ ['/', '#'], text.head? = some char) ∨
        ∃ rest, back = cast :: rest ∧ Reads .code rest ∧
          text = word ++ (trailing ++ [')']) ++ spelled rest) := by
  rcases reads.exists_loose_front loose hard text_eq with
    ⟨front, own, rest, after, rfl, later, front_plain, loose, text_eq, ends⟩
  refine ⟨front, own :: rest, rfl, later, front_plain, ?_⟩
  cases core : isCore own with
  | false =>
      have after_eq := ends core
      subst after_eq
      rw [List.nil_append] at text_eq
      subst text_eq
      exact .inl ⟨rfl, later.opens_comment core hard⟩
  | true =>
      rw [find?_isCore_append front_plain, List.find?_cons_of_pos core] at found
      cases found
      have dropped := loose.dropWhile_append hard
      rw [← text_eq, spelled_cons, content_eq, parts.dropWhile_castText] at dropped
      refine .inr ⟨rest, rfl, ?_, by simp [← dropped]⟩
      exact later.code_of_loose (by rw [spelled_cons, content_eq, castText]; rfl) rfl

/-! ### Where texts agree -/

theorem getLast_take_of_commentEnd {length : Nat} (found : lengthToCommentEnd? text = some length) :
    (text.take length).getLast? = some '/' := by
  fun_induction lengthToCommentEnd? text generalizing length with
  | case1 rest =>
      cases found
      rfl
  | case2 char rest _ ih =>
      simp only [Option.map_eq_some_iff] at found
      rcases found with ⟨inner, found, rfl⟩
      rw [List.take_succ_cons, List.getLast?_cons, ih found]
      rfl
  | case3 => cases found

/-- Trivia that go on after a text whose last character is not loose, and end with one that is, are
a line comment. -/
theorem lineCommentLength_of_overhang {piece rest : List Char} {last : Char}
    (cut : stride? .code (piece ++ rest) = some (piece.length, next))
    (begins : beginsTrivia (piece ++ rest) = true)
    (inside : ∃ char ∈ piece, isLoose char = false)
    (ends : piece.getLast? = some last) (loose : isLoose last = true) :
    lineCommentLength (piece ++ rest) = piece.length := by
  rcases beginsTrivia_iff.mp begins with block | space | line
  · rw [stride?_code_of_block block] at cut
    simp only [Option.map_eq_some_iff, Prod.mk.injEq, blockCommentLength?] at cut
    rcases cut with ⟨_, ⟨inner, found, rfl⟩, length_eq, -⟩
    have two_le := two_le_of_lengthToCommentEnd? found
    have closing := getLast_take_of_commentEnd found
    rw [List.take_drop, Nat.add_comm, length_eq, List.take_left] at closing
    rw [List.getLast?_drop, if_neg (by omega), ends] at closing
    cases closing
    exact absurd loose (by decide)
  · rw [stride?_code_of_whitespace space] at cut
    simp only [Option.some.injEq, Prod.mk.injEq] at cut
    rcases inside with ⟨char, member, outside⟩
    have within : char ∈ (piece ++ rest).take (whitespaceLength (piece ++ rest)) := by
      rwa [cut.1, List.take_left]
    simp [isLoose, blank_of_mem_whitespace within] at outside
  · rw [stride?_code_of_lineComment line] at cut
    simp only [Option.some.injEq, Prod.mk.injEq] at cut
    exact cut.1

/-- Behind a lexeme that takes a whole text up to its loose end there is no core. -/
theorem Reads.not_core_of_covered (reads : Reads mode (lexeme :: rest))
    (bare : BareLast (lexeme :: rest)) (loose : AllLoose trail)
    (text_eq : spelled (lexeme :: rest) = text ++ trail)
    (covers : text.length ≤ lexeme.content.toList.length) :
    ∀ other ∈ rest, isCore other = false := by
  rcases reads with _ | ⟨-, -, later⟩
  refine not_core_of_loose later bare.of_cons ?_
  rw [spelled_cons] at text_eq
  rcases List.append_eq_append_iff.mp text_eq with ⟨extra, text_eq, rest_eq⟩ | ⟨extra, -, rfl⟩
  · have lengths := congrArg List.length text_eq
    rw [List.length_append] at lengths
    have extra_eq : extra = [] := List.length_eq_zero_iff.mp (by omega)
    subst extra_eq
    rw [rest_eq]
    exact loose
  · exact loose.of_append

/-- A lexeme that goes on after a text takes a part of what follows the text. -/
theorem exists_overhang (text_eq : spelled (lexeme :: rest) = text ++ trail)
    (beyond : text.length < lexeme.content.toList.length) :
    ∃ extra, lexeme.content.toList = text ++ extra ∧ extra ≠ [] ∧
      trail = extra ++ spelled rest := by
  rw [spelled_cons] at text_eq
  rcases List.append_eq_append_iff.mp text_eq with ⟨extra, own, -⟩ | ⟨extra, own, trail_eq⟩
  · rw [own, List.length_append] at beyond
    omega
  · refine ⟨extra, own, ?_, trail_eq⟩
    rintro rfl
    rw [own, List.append_nil] at beyond
    exact Nat.lt_irrefl _ beyond

/-- A lexeme that goes on after a text whose last character is not loose is a comment. -/
theorem Reads.comment_of_overhang {last : Char} (reads : Reads mode (lexeme :: rest))
    (bare : BareLast (lexeme :: rest)) (loose : AllLoose trail)
    (text_eq : spelled (lexeme :: rest) = text ++ trail) (ends : text.getLast? = some last)
    (hard : isLoose last = false) (beyond : text.length < lexeme.content.toList.length) :
    mode = .code ∧ isCore lexeme = false ∧
      lineCommentLength (text ++ trail) = lexeme.content.toList.length := by
  have later := reads.not_core_of_covered bare loose text_eq beyond.le
  rcases reads with _ | ⟨cut, fits, -⟩
  rcases exists_overhang text_eq beyond with ⟨extra, content_eq, extra_ne_nil, rfl⟩
  have final : ∃ char, lexeme.content.toList.getLast? = some char ∧ isLoose char = true := by
    refine ⟨extra.getLast extra_ne_nil, ?_, ?_⟩
    · rw [content_eq, List.getLast?_append, List.getLast?_eq_some_getLast extra_ne_nil]
      rfl
    · exact loose _ (List.mem_append_left _ (List.getLast_mem extra_ne_nil))
  rcases final with ⟨char, final_eq, charLoose⟩
  have plain := bare.not_core later final_eq charLoose
  have isTrivia : lexeme.kind.isTrivia = true := by
    by_contra code
    have positive := List.length_pos_of_mem (List.mem_of_getLast? ends)
    rcases parenthesis_of_fits fits (by simpa using code) plain with opens | closes
    · rw [opens] at beyond
      have single : text.length < 1 := beyond
      omega
    · rw [closes] at beyond
      have single : text.length < 1 := beyond
      omega
  rcases fits.trivia.mp isTrivia with ⟨rfl, begins⟩
  have inside : ∃ char ∈ lexeme.content.toList, isLoose char = false :=
    ⟨last, by rw [content_eq]; exact List.mem_append_left _ (List.mem_of_getLast? ends), hard⟩
  have comment := lineCommentLength_of_overhang cut (beginsTrivia_append _ begins) inside final_eq
    charLoose
  rw [content_eq, List.append_assoc, ← content_eq] at comment
  exact ⟨rfl, plain, comment⟩

/-- Where a comment takes a whole text up to its loose end there is no core. -/
theorem Reads.not_core_of_comment (reads : Reads .code lexemes) (bare : BareLast lexemes)
    (loose : AllLoose trail) (text_eq : spelled lexemes = text ++ trail)
    (comment : 0 < lineCommentLength (text ++ trail))
    (covers : text.length ≤ lineCommentLength (text ++ trail)) :
    ∀ other ∈ lexemes, isCore other = false := by
  rcases lexemes with _ | ⟨own, rest⟩
  · simp
  rw [← text_eq, spelled_cons] at comment covers
  have ownLength : lineCommentLength (own.content.toList ++ spelled rest) =
      own.content.toList.length := by
    rcases reads with _ | ⟨cut, -, -⟩
    rw [stride?_code_of_lineComment comment] at cut
    simp only [Option.some.injEq, Prod.mk.injEq] at cut
    exact cut.1
  have ownPlain : isCore own = false := by
    rcases reads with _ | ⟨-, fits, -⟩
    have begins := beginsTrivia_take_lineComment comment
    rw [ownLength, List.take_left] at begins
    simp [isCore, fits.trivia.mpr ⟨rfl, begins⟩]
  intro other member
  rcases List.mem_cons.mp member with rfl | member
  · exact ownPlain
  · exact reads.not_core_of_covered bare loose text_eq (ownLength ▸ covers) other member

/-- A lexeme that goes on after a text is a comment, and then it is a comment as well that stands
where the text is followed by something else. -/
theorem not_core_of_overhang {first second : List Lexeme} {firstTrail secondTrail : List Char}
    {last : Char} (firstReads : Reads mode (lexeme :: first))
    (secondReads : Reads mode second) (firstBare : BareLast (lexeme :: first))
    (secondBare : BareLast second) (firstLoose : AllLoose firstTrail)
    (secondLoose : AllLoose secondTrail)
    (firstText : spelled (lexeme :: first) = text ++ firstTrail)
    (secondText : spelled second = text ++ secondTrail) (ends : text.getLast? = some last)
    (hard : isLoose last = false) (beyond : text.length < lexeme.content.toList.length) :
    (∀ other ∈ lexeme :: first, isCore other = false) ∧
      ∀ other ∈ second, isCore other = false := by
  have nonempty : text ≠ [] := by
    rintro rfl
    cases ends
  have later := firstReads.not_core_of_covered firstBare firstLoose firstText beyond.le
  rcases firstReads.comment_of_overhang firstBare firstLoose firstText ends hard beyond with
    ⟨rfl, plain, comment⟩
  have secondSoft := secondLoose.beginsLoose.soft
  rcases firstLoose.beginsLoose.soft.length_le_lineCommentLength secondSoft nonempty (by omega) with
    ⟨opens, covers⟩
  refine ⟨?_, ?_⟩
  · intro other member
    rcases List.mem_cons.mp member with rfl | member
    · exact plain
    · exact later other member
  · exact secondReads.not_core_of_comment secondBare secondLoose secondText
      ((secondSoft.lineCommentLength_append_pos_iff nonempty).mpr opens) covers

/-- Where a piece is cut off in front of the loose ends of two texts that agree up to there, it is
cut off from both. -/
theorem eq_of_within {firstPiece secondPiece first second firstTrail secondTrail : List Char}
    {firstNext secondNext : Mode}
    (firstCut : stride? mode (firstPiece ++ first) = some (firstPiece.length, firstNext))
    (secondCut : stride? mode (secondPiece ++ second) = some (secondPiece.length, secondNext))
    (firstLoose : AllLoose firstTrail) (secondLoose : AllLoose secondTrail)
    (firstText : firstPiece ++ first = text ++ firstTrail)
    (secondText : secondPiece ++ second = text ++ secondTrail)
    (firstWithin : firstPiece.length ≤ text.length)
    (secondWithin : secondPiece.length ≤ text.length) :
    firstPiece = secondPiece ∧ firstNext = secondNext ∧ ∃ later, text = firstPiece ++ later ∧
      first = later ++ firstTrail ∧ second = later ++ secondTrail := by
  rw [firstText] at firstCut
  rw [secondText] at secondCut
  have own := firstLoose.beginsLoose.stride?_of_append firstCut firstWithin
  have other := secondLoose.beginsLoose.stride?_of_append secondCut secondWithin
  rw [own] at other
  simp only [Option.some.injEq, Prod.mk.injEq] at other
  rcases other with ⟨length_eq, next_eq⟩
  have firstPrefix : firstPiece <+: text :=
    List.prefix_of_prefix_length_le (firstText ▸ List.prefix_append _ _) (List.prefix_append _ _)
      firstWithin
  have secondPrefix : secondPiece <+: text :=
    List.prefix_of_prefix_length_le (secondText ▸ List.prefix_append _ _) (List.prefix_append _ _)
      secondWithin
  have piece_eq : firstPiece = secondPiece := by
    rw [List.prefix_iff_eq_take.mp firstPrefix, List.prefix_iff_eq_take.mp secondPrefix, length_eq]
  subst piece_eq
  rcases firstPrefix with ⟨later, rfl⟩
  rw [List.append_assoc, List.append_cancel_left_eq] at firstText secondText
  exact ⟨rfl, next_eq, later, rfl, firstText, secondText⟩

/-- Whether two lists of lexemes hold the same code up to parentheses at the end. -/
def SameUpToEnd (first second : List Lexeme) : Prop :=
  ∃ core firstAfter secondAfter, codeContents first = core ++ firstAfter ∧
    codeContents second = core ++ secondAfter ∧
    ∀ content ∈ firstAfter ++ secondAfter, content = "(" ∨ content = ")"

theorem sameUpToEnd_of_not_core {first second : List Lexeme} (firstReads : Reads mode first)
    (secondReads : Reads mode second) (firstPlain : ∀ other ∈ first, isCore other = false)
    (secondPlain : ∀ other ∈ second, isCore other = false) : SameUpToEnd first second := by
  refine ⟨[], codeContents first, codeContents second, rfl, rfl, ?_⟩
  intro content member
  rcases List.mem_append.mp member with inFirst | inSecond
  · exact parenthesis_of_not_core firstReads (List.Subset.refl _) firstPlain content inFirst
  · exact parenthesis_of_not_core secondReads (List.Subset.refl _) secondPlain content inSecond

theorem SameUpToEnd.cons {own other : Lexeme} {first second : List Lexeme}
    (same : SameUpToEnd first second) (content_eq : own.content = other.content)
    (trivia_eq : own.kind.isTrivia = other.kind.isTrivia) :
    SameUpToEnd (own :: first) (other :: second) := by
  rcases same with ⟨core, firstAfter, secondAfter, firstCode, secondCode, parentheses⟩
  have single : codeContents [own] = codeContents [other] := by
    simp only [codeContents, List.filter_cons, List.filter_nil, trivia_eq]
    split
    · simp [content_eq]
    · rfl
  have split_first := codeContents_append [own] first
  have split_second := codeContents_append [other] second
  rw [firstCode, ← List.append_assoc] at split_first
  rw [secondCode, ← List.append_assoc, ← single] at split_second
  exact ⟨codeContents [own] ++ core, firstAfter, secondAfter, split_first, split_second,
    parentheses⟩

theorem hard_of_append {before after : List Char}
    (hard : ∀ char ∈ (before ++ after).getLast?, isLoose char = false) :
    ∀ char ∈ after.getLast?, isLoose char = false := by
  intro char found
  apply hard char
  rw [List.getLast?_append, Option.mem_def.mp found]
  rfl

/-- Lexemes of texts that agree up to loose ends hold the same code up to parentheses at the end. -/
theorem sameUpToEnd_of_text {first second : List Lexeme} {firstTrail secondTrail : List Char}
    (firstReads : Reads mode first) (secondReads : Reads mode second)
    (firstBare : BareLast first) (secondBare : BareLast second)
    (firstLoose : AllLoose firstTrail) (secondLoose : AllLoose secondTrail)
    (firstText : spelled first = text ++ firstTrail)
    (secondText : spelled second = text ++ secondTrail)
    (hard : ∀ char ∈ text.getLast?, isLoose char = false) : SameUpToEnd first second := by
  induction first generalizing mode second text with
  | nil =>
      have text_eq := (List.append_eq_nil_iff.mp firstText.symm).1
      subst text_eq
      refine sameUpToEnd_of_not_core firstReads secondReads (by simp) ?_
      refine not_core_of_loose secondReads secondBare ?_
      rw [secondText, List.nil_append]
      exact secondLoose
  | cons own first ih =>
      cases ends : text.getLast? with
      | none =>
          have text_eq := List.getLast?_eq_none_iff.mp ends
          subst text_eq
          refine sameUpToEnd_of_not_core firstReads secondReads ?_ ?_
          · exact not_core_of_loose firstReads firstBare (by rw [firstText]; exact firstLoose)
          · exact not_core_of_loose secondReads secondBare (by rw [secondText]; exact secondLoose)
      | some last =>
          cases second with
          | nil =>
              rw [(List.append_eq_nil_iff.mp secondText.symm).1] at ends
              cases ends
          | cons other second =>
              by_cases firstBeyond : text.length < own.content.toList.length
              · rcases not_core_of_overhang firstReads secondReads firstBare secondBare firstLoose
                  secondLoose firstText secondText ends (hard last ends) firstBeyond with
                  ⟨firstPlain, secondPlain⟩
                exact sameUpToEnd_of_not_core firstReads secondReads firstPlain secondPlain
              by_cases secondBeyond : text.length < other.content.toList.length
              · rcases not_core_of_overhang secondReads firstReads secondBare firstBare secondLoose
                  firstLoose secondText firstText ends (hard last ends) secondBeyond with
                  ⟨secondPlain, firstPlain⟩
                exact sameUpToEnd_of_not_core firstReads secondReads firstPlain secondPlain
              rcases firstReads with _ | ⟨firstCut, firstFits, firstLater⟩
              rcases secondReads with _ | ⟨secondCut, secondFits, secondLater⟩
              rcases eq_of_within firstCut secondCut firstLoose secondLoose firstText secondText
                (Nat.le_of_not_lt firstBeyond) (Nat.le_of_not_lt secondBeyond) with
                ⟨content_eq, rfl, later, text_eq, firstRest, secondRest⟩
              have trivia_eq : own.kind.isTrivia = other.kind.isTrivia := by
                rw [Bool.eq_iff_iff, firstFits.trivia, secondFits.trivia, content_eq]
              have same := ih firstLater secondLater firstBare.of_cons secondBare.of_cons firstRest
                secondRest (hard_of_append (text_eq ▸ hard))
              exact same.cons (String.toList_inj.mp content_eq) trivia_eq

/-- Lexemes behind a text that two texts begin with hold the same code up to parentheses at the end,
where these agree up to loose ends. -/
theorem sameUpToEnd_of_behind {first second : List Lexeme}
    {inner firstTrail secondTrail : List Char} (firstReads : Reads mode first)
    (secondReads : Reads mode second) (firstBare : BareLast first) (secondBare : BareLast second)
    (firstLoose : AllLoose firstTrail) (secondLoose : AllLoose secondTrail)
    (firstText : inner ++ spelled first = text ++ firstTrail)
    (secondText : inner ++ spelled second = text ++ secondTrail)
    (hard : ∀ char ∈ text.getLast?, isLoose char = false) : SameUpToEnd first second := by
  rcases List.append_eq_append_iff.mp firstText with
    ⟨later, rfl, first_eq⟩ | ⟨extra, rfl, rfl⟩
  · rw [List.append_assoc, List.append_cancel_left_eq] at secondText
    exact sameUpToEnd_of_text firstReads secondReads firstBare secondBare firstLoose secondLoose
      first_eq secondText (hard_of_append hard)
  · rw [List.append_assoc, List.append_cancel_left_eq] at secondText
    rw [← secondText] at secondLoose
    exact sameUpToEnd_of_not_core firstReads secondReads
      (not_core_of_loose firstReads firstBare firstLoose.of_append)
      (not_core_of_loose secondReads secondBare secondLoose.of_append)

/-- Lexemes that hold the same code up to parentheses at the end have a common core, whatever stands
in front of them that is no core. -/
theorem SameUpToEnd.exists_core {firstFront firstBack secondFront secondBack : List Lexeme}
    (same : SameUpToEnd firstBack secondBack) (firstReads : Reads .code (firstFront ++ firstBack))
    (secondReads : Reads .code (secondFront ++ secondBack))
    (firstPlain : ∀ lexeme ∈ firstFront, isCore lexeme = false)
    (secondPlain : ∀ lexeme ∈ secondFront, isCore lexeme = false) :
    ∃ core, Strips (codeContents (firstFront ++ firstBack)) core ∧
      Strips (codeContents (secondFront ++ secondBack)) core := by
  rcases same with ⟨core, firstAfter, secondAfter, firstCode, secondCode, parentheses⟩
  refine ⟨core, ⟨codeContents firstFront, firstAfter, ?_, ?_⟩,
    ⟨codeContents secondFront, secondAfter, ?_, ?_⟩⟩
  · rw [codeContents_append, firstCode, List.append_assoc]
  · intro content member
    rcases List.mem_append.mp member with before | after
    · exact parenthesis_of_not_core firstReads (List.subset_append_left _ _) firstPlain content
        before
    · exact parentheses content (List.mem_append_left _ after)
  · rw [codeContents_append, secondCode, List.append_assoc]
  · intro content member
    rcases List.mem_append.mp member with before | after
    · exact parenthesis_of_not_core secondReads (List.subset_append_left _ _) secondPlain content
        before
    · exact parentheses content (List.mem_append_right _ after)

section Ends

variable {first second : List Lexeme} {firstLead secondLead firstTrail secondTrail : List Char}

theorem exists_core_of_bare (firstReads : Reads .code first) (secondReads : Reads .code second)
    (firstBare : BareFirst first ∧ BareLast first) (secondBare : BareFirst second ∧ BareLast second)
    (solid : IsSolid isLoose text) (firstLoose : AllLoose firstLead ∧ AllLoose firstTrail)
    (secondLoose : AllLoose secondLead ∧ AllLoose secondTrail)
    (firstText : spelled first = firstLead ++ (text ++ firstTrail))
    (secondText : spelled second = secondLead ++ (text ++ secondTrail)) :
    ∃ core, Strips (codeContents first) core ∧ Strips (codeContents second) core := by
  rcases firstReads.exists_front firstBare.1 firstLoose.1 (solid.first_append firstTrail) firstText
    with ⟨firstFront, firstBack, rfl, firstRest, firstRead, firstPlain⟩
  rcases secondReads.exists_front secondBare.1 secondLoose.1 (solid.first_append secondTrail)
    secondText with ⟨secondFront, secondBack, rfl, secondRest, secondRead, secondPlain⟩
  have same := sameUpToEnd_of_text firstRead secondRead firstBare.2.of_append
    secondBare.2.of_append firstLoose.2 secondLoose.2 firstRest secondRest solid.not_mem_last
  exact same.exists_core firstReads secondReads firstPlain secondPlain

theorem exists_core_of_sameCast (firstReads : Reads .code first) (secondReads : Reads .code second)
    (sameCast : SameCast first second) (firstBare : BareLast first) (secondBare : BareLast second)
    (solid : IsSolid isLoose text) (firstLoose : AllLoose firstLead ∧ AllLoose firstTrail)
    (secondLoose : AllLoose secondLead ∧ AllLoose secondTrail)
    (firstText : spelled first = firstLead ++ (text ++ firstTrail))
    (secondText : spelled second = secondLead ++ (text ++ secondTrail)) :
    ∃ core, Strips (codeContents first) core ∧ Strips (codeContents second) core := by
  rcases sameCast with
    ⟨own, other, leading, word, trailing, firstFound, secondFound, same, parts, content_eq⟩
  have other_eq : other.content.toList = castText leading word trailing := same ▸ content_eq
  have isCore_own := List.find?_some firstFound
  have isCore_other := List.find?_some secondFound
  rcases solid.first with ⟨head, head_eq, -⟩
  have head_append : ∀ trail, (text ++ trail).head? = some head := by
    intro trail
    rw [List.head?_append, head_eq]
    rfl
  -- A text that begins with a comment does not begin with the name of a cast.
  have apart : ∀ {trail rest : List Char} {char : Char}, char ∈ ['/', '#'] →
      (text ++ trail).head? = some char → ∀ other,
      text ++ other ≠ word ++ (trailing ++ [')']) ++ rest := by
    intro trail rest char opens found other named
    rcases parts.exists_letter with ⟨letter, tail, word_eq, outside⟩
    have starts := congrArg List.head? named
    rw [head_append, ← head_append trail, found, word_eq] at starts
    cases starts
    apply outside
    rcases List.mem_pair.mp opens with rfl | rfl <;> simp
  rcases firstReads.exists_front_of_cast firstFound parts content_eq firstLoose.1
    (solid.first_append firstTrail) firstText with
    ⟨firstFront, firstBack, rfl, firstRead, firstPlain, firstBegins⟩
  rcases secondReads.exists_front_of_cast secondFound parts other_eq secondLoose.1
    (solid.first_append secondTrail) secondText with
    ⟨secondFront, secondBack, rfl, secondRead, secondPlain, secondBegins⟩
  refine SameUpToEnd.exists_core ?_ firstReads secondReads firstPlain secondPlain
  rcases firstBegins with ⟨firstRest, firstChar, firstOpens, firstHead⟩ |
    ⟨firstRest, rfl, firstRead, firstNamed⟩
  · rcases secondBegins with ⟨secondRest, -⟩ | ⟨secondRest, rfl, secondRead, secondNamed⟩
    · exact sameUpToEnd_of_text firstRead secondRead firstBare.of_append secondBare.of_append
        firstLoose.2 secondLoose.2 firstRest secondRest solid.not_mem_last
    · exact absurd secondNamed (apart firstOpens firstHead _)
  · rcases secondBegins with ⟨-, secondChar, secondOpens, secondHead⟩ |
      ⟨secondRest, rfl, secondRead, secondNamed⟩
    · exact absurd firstNamed (apart secondOpens secondHead _)
    · have rests := sameUpToEnd_of_behind firstRead secondRead firstBare.of_append.of_cons
        secondBare.of_append.of_cons firstLoose.2 secondLoose.2 firstNamed.symm secondNamed.symm
        solid.not_mem_last
      have trivia_eq : own.kind.isTrivia = other.kind.isTrivia := by
        simp only [isCore, Bool.and_eq_true, Bool.not_eq_true'] at isCore_own isCore_other
        rw [isCore_own.1.1, isCore_other.1.1]
      exact rests.cons same trivia_eq

/-- Lexemes of texts that are equal between loose ends have a common core. -/
theorem exists_core (firstReads : Reads .code first) (secondReads : Reads .code second)
    (alike : BeginAlike first second) (firstBare : BareLast first) (secondBare : BareLast second)
    (solid : IsSolid isLoose text) (firstLoose : AllLoose firstLead ∧ AllLoose firstTrail)
    (secondLoose : AllLoose secondLead ∧ AllLoose secondTrail)
    (firstText : spelled first = firstLead ++ (text ++ firstTrail))
    (secondText : spelled second = secondLead ++ (text ++ secondTrail)) :
    ∃ core, Strips (codeContents first) core ∧ Strips (codeContents second) core := by
  rcases alike with ⟨firstFirst, secondFirst⟩ | sameCast
  · exact exists_core_of_bare firstReads secondReads ⟨firstFirst, firstBare⟩
      ⟨secondFirst, secondBare⟩ solid firstLoose secondLoose firstText secondText
  · exact exists_core_of_sameCast firstReads secondReads sameCast firstBare secondBare solid
      firstLoose secondLoose firstText secondText

end Ends

end TokenLint.Lexer
