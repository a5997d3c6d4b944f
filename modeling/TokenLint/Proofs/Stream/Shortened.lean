import TokenLint.Proofs.Lexer.Origin
import TokenLint.Proofs.Lexer.Turns
import TokenLint.Proofs.Stream.Closing
import TokenLint.Proofs.Text.Lower

/-!
# Array literals in square brackets

`Shortened` relates the lexemes of a source to the pieces that are left when the word and the
parenthesis that begin each array literal are exchanged for one square bracket, and the parenthesis
that ends it for another. The new pieces are what a scan of their text cuts off: a scan of the old
text goes beside it that stands in the same mode and keeps the same words as names. The two scans
differ only in what they take square brackets and the signs of ternaries for. So the new text
has matching brackets where the old one has, and no array literal is left in it.
-/

namespace TokenLint.Lexer

open Text

/-! ### What a kind says about a step -/

theorem lowersWithin_array : LowersWithin ['a', 'A'] where
  lowers := by decide +kernel
  codes := by decide
  plain := by decide

namespace Scanner

variable {scanner : Scanner} {rest : List Char} {move : Move}

/-- Only a closing tag and the text before an opening one are followed by markup. -/
theorem mode_move (moved : scanner.move rest = .ok move) (stays : move.kind ≠ .closeTag)
    (code : move.kind ≠ .inlineHtml) : move.mode = .code := by
  cases mode_eq : scanner.mode with
  | markup =>
      simp only [Scanner.move, mode_eq, markupMove] at moved
      split at moved
      · cases moved
        rfl
      · split at moved
        · cases moved
          exact absurd rfl code
        · cases moved
  | code =>
      simp only [Scanner.move, mode_eq] at moved
      cases codeStep_codeMove moved with
      | closeTag kind_eq nesting_eq => exact absurd kind_eq stays
      | plain keeps moved =>
          simp only [plainMove] at moved
          split at moved
          · cases moved
            rfl
          · cases moved
      | operator member moved =>
          simp only [operatorMove] at moved
          split at moved
          · cases moved
            rfl
          · cases moved

theorem eq_of_lookup_keywords {word : String} (found : keywords.lookup word = some .kwArray) :
    word = "array" := by
  have sole : ∀ entry ∈ keywords, entry.2 = .kwArray → entry.1 = "array" := by decide
  rcases List.lookup_eq_some_iff.mp found with ⟨before, after, keywords_eq, -⟩
  exact sole (word, .kwArray) (by simp [keywords_eq]) rfl

/-- The word of an array literal begins with its letter. -/
theorem head_of_wordKind {first : Char} {tail : List Char}
    (word : scanner.wordKind (String.ofList (first :: tail)) = .kwArray) : first ∈ ['a', 'A'] := by
  simp only [wordKind] at word
  split at word
  · cases word
  · cases found : keywords.lookup (lower (String.ofList (first :: tail))) with
    | none =>
        rw [found] at word
        cases word
    | some kind =>
        rw [found] at word
        subst word
        have head_eq : (lower (String.ofList (first :: tail))).toList.head? = some 'a' := by
          rw [eq_of_lookup_keywords found]
          rfl
        exact lowersWithin_array.head_mem_of_lower String.toList_ofList head_eq (by decide)

/-- The word of an array literal stands in code and begins with its letter. -/
theorem of_kwArray (moved : scanner.move rest = .ok move) (word : move.kind = .kwArray) :
    scanner.mode = .code ∧ ∃ first ∈ ['a', 'A'], rest.head? = some first := by
  have origin := origin_move moved
  rw [word] at origin
  generalize piece_eq : rest.take move.length = piece at origin
  generalize kind_eq : TokenKind.kwArray = kind at origin
  cases origin with
  | shape listed =>
      subst kind_eq
      exact absurd listed (by decide)
  | operator code listed spelled =>
      have apart : TokenKind.kwArray ∉ operatorKinds := by decide
      refine absurd ?_ apart
      rw [kind_eq]
      exact readOperator_mem _ _ (List.mem_append_left _ (List.mem_map.mpr ⟨_, listed, rfl⟩))
  | word code isName =>
      refine ⟨code, ?_⟩
      cases piece with
      | nil => exact absurd rfl isName.ne_nil
      | cons first tail =>
          refine ⟨first, head_of_wordKind kind_eq.symm, ?_⟩
          have head_eq := congrArg List.head? piece_eq
          rwa [List.head?_take, if_neg (Nat.ne_of_gt move.length_pos)] at head_eq

/-- Where a heredoc starts in code, one is read. -/
theorem kind_of_heredocStart (moved : scanner.move rest = .ok move) (code : scanner.mode = .code)
    (starts : heredocStart? rest ≠ none) : move.kind = .heredoc := by
  rcases Option.ne_none_iff_exists'.mp starts with ⟨⟨label, length⟩, starts⟩
  rcases exists_heredocStart starts with ⟨blanks, quote, lineBreak, after, text_eq, parts⟩
  have opens : ['<', '<', '<'].isPrefixOf rest = true := by
    rw [text_eq]
    rfl
  have noTag : ¬0 < closeTagLength rest := by
    rw [closeTagLength_pos_iff, text_eq]
    exact Bool.false_ne_true
  simp only [Scanner.move, code, codeMove, noTag, opens, heredocMove, starts, dif_neg, if_true,
    not_false_eq_true] at moved
  split at moved
  · exact (scanner.of_plainMove moved).1
  · cases moved

end Scanner

/-- Signs are no tags, no markup and no trivia, and a word behind them may be a keyword. -/
theorem free_of_sign {kind : TokenKind} {sign : String} (shows : signOf? kind = some sign) :
    kind ≠ .closeTag ∧ kind ≠ .inlineHtml ∧ kind.isTrivia = false ∧ keepsName kind = false := by
  cases kind <;> first | exact ⟨by decide, by decide, rfl, rfl⟩ | cases shows

/-! ### Lexemes and new pieces -/

/-- Whether some pieces are what is left of lexemes when array literals are written in square
brackets. `stack` holds the signs that the new text waits for, innermost first. A heredoc does not
stand directly in front of an array literal. -/
inductive Shortened : List String → List Lexeme → List (List Char) → Prop where
  | nil : Shortened [] [] []
  | keep {stack inner : List String} {lexeme : Lexeme} {old : List Lexeme}
      {new : List (List Char)} (other : settledKind lexeme.kind old ≠ .kwArray)
      (apart : lexeme.kind = .heredoc → ∀ next ∈ (settle old).head?, next.kind ≠ .kwArray)
      (passed : passSign stack (signOf? lexeme.kind) = some inner)
      (rest : Shortened inner old new) :
      Shortened stack (lexeme :: old) (lexeme.content.toList :: new)
  | literal {stack : List String} {array opener : Lexeme} {blanks old : List Lexeme}
      {new : List (List Char)} (word : array.kind = .kwArray)
      (blank : ∀ lexeme ∈ blanks, lexeme.kind.isTrivia = true)
      (opens : opener.kind = .openParenthesis) (rest : Shortened ("]" :: stack) old new) :
      Shortened stack (array :: (blanks ++ opener :: old)) (['['] :: new)
  | close {stack : List String} {closer : Lexeme} {old : List Lexeme} {new : List (List Char)}
      (closes : closer.kind = .closeParenthesis) (rest : Shortened stack old new) :
      Shortened ("]" :: stack) (closer :: old) ([']'] :: new)

theorem firstCodeKind_eq_find? (lexemes : List Lexeme) :
    firstCodeKind lexemes false =
      (lexemes.map Lexeme.kind).find? fun kind => !kind.isTrivia := by
  rw [firstCodeKind_eq, List.find?_eq_head?_dropWhile_not]
  simp only [Bool.not_not, Bool.false_and]
  cases (lexemes.map Lexeme.kind).dropWhile TokenKind.isTrivia <;> rfl

theorem settledKind_eq_kwArray_iff {kind : TokenKind} {following : List Lexeme} :
    settledKind kind following = .kwArray ↔
      kind = .kwArray ∧ firstCodeKind following false = some .openParenthesis := by
  simp only [settledKind]
  split
  · split <;> simp
  · split <;> simp_all
  · simp_all

theorem firstCodeKind_append {blanks : List Lexeme}
    (blank : ∀ lexeme ∈ blanks, lexeme.kind.isTrivia = true) {opener : Lexeme} (old : List Lexeme)
    (code : opener.kind.isTrivia = false) :
    firstCodeKind (blanks ++ opener :: old) false = some opener.kind := by
  rw [firstCodeKind_eq_find?, List.map_append, List.find?_append, List.find?_eq_none.mpr]
  · simp [code]
  · intro kind member
    rcases List.mem_map.mp member with ⟨lexeme, among, rfl⟩
    simp [blank lexeme among]

/-- The scan of a list of lexemes, with their kinds. -/
def Scans (scanner : Scanner) (lexemes : List Lexeme) : Prop :=
  ReadsKinds scanner (lexemes.map fun lexeme => lexeme.content.toList) (lexemes.map Lexeme.kind)

namespace Scans

variable {scanner : Scanner} {lexeme : Lexeme} {lexemes : List Lexeme}

theorem cons_inv (scans : Scans scanner (lexeme :: lexemes)) :
    ∃ move : Move, scanner.move (lexeme.content.toList ++ spelled lexemes) = .ok move ∧
      move.length = lexeme.content.toList.length ∧ move.kind = lexeme.kind ∧
      Scans (scanner.advance move lexeme.content.toList) lexemes := by
  rw [Scans, List.map_cons, List.map_cons] at scans
  generalize kind_eq : lexeme.kind = kind at scans
  cases scans with
  | cons moved whole later => exact ⟨_, moved, whole, rfl, later⟩

/-- Behind blanks a scan stands where it stood in front of them. -/
theorem skip_blanks {blanks : List Lexeme} (scans : Scans scanner (blanks ++ lexemes))
    (blank : ∀ lexeme ∈ blanks, lexeme.kind.isTrivia = true) (code : scanner.mode = .code) :
    ∃ after : Scanner, after.mode = .code ∧ Scans after lexemes := by
  induction blanks generalizing scanner with
  | nil => exact ⟨scanner, code, scans⟩
  | cons first blanks ih =>
      rcases scans.cons_inv with ⟨move, moved, -, kind_eq, later⟩
      have trivia := blank first List.mem_cons_self
      have mode_eq : move.mode = .code := by
        refine Scanner.mode_move moved ?_ ?_ <;>
          · rw [kind_eq]
            rintro same
            rw [same] at trivia
            cases trivia
      exact ih later (fun lexeme member => blank lexeme (List.mem_cons_of_mem _ member)) mode_eq

/-- A lexeme with a sign stands between code and code, and is the last code lexeme then. -/
theorem skip_sign (scans : Scans scanner (lexeme :: lexemes)) {sign : String}
    (shows : signOf? lexeme.kind = some sign) :
    scanner.mode = .code ∧ lexeme.content = sign ∧
      ∃ after : Scanner, after.mode = .code ∧ after.lastCodeKind = some lexeme.kind ∧
        Scans after lexemes := by
  rcases scans.cons_inv with ⟨move, moved, whole, kind_eq, later⟩
  have fits := scanner.fitsSign_move moved
  rw [whole, List.take_left, kind_eq] at fits
  have others := free_of_sign shows
  refine ⟨(fits.sign sign shows).1, String.toList_inj.mp (fits.sign sign shows).2, _, ?_, ?_, later⟩
  · exact Scanner.mode_move moved (kind_eq ▸ others.1) (kind_eq ▸ others.2.1)
  · rw [Scanner.lastCodeKind_advance, kind_eq, others.2.2.1]
    rfl

/-- The beginning of an array literal stands between code and code. -/
theorem skip_literal {array opener : Lexeme} {blanks : List Lexeme}
    (scans : Scans scanner (array :: (blanks ++ opener :: lexemes))) (word : array.kind = .kwArray)
    (blank : ∀ lexeme ∈ blanks, lexeme.kind.isTrivia = true)
    (opens : opener.kind = .openParenthesis) :
    scanner.mode = .code ∧ (∃ first ∈ ['a', 'A'], array.content.toList.head? = some first) ∧
      ∃ after : Scanner, after.mode = .code ∧ after.lastCodeKind = some .openParenthesis ∧
        Scans after lexemes := by
  rcases scans.cons_inv with ⟨move, moved, whole, kind_eq, later⟩
  rcases Scanner.of_kwArray moved (kind_eq.trans word) with ⟨code, first, letter, head_eq⟩
  have nonempty : array.content.toList ≠ [] := List.length_pos_iff.mp (whole ▸ move.length_pos)
  rw [List.head?_append_of_ne_nil _ nonempty] at head_eq
  have mode_eq : move.mode = .code := by
    refine Scanner.mode_move moved ?_ ?_ <;> simp [kind_eq, word]
  rcases later.skip_blanks blank mode_eq with ⟨between, -, later⟩
  rcases later.skip_sign (by rw [opens, signOf?]) with ⟨-, -, after, mode_eq, last, later⟩
  exact ⟨code, ⟨first, letter, head_eq⟩, after, mode_eq, opens ▸ last, later⟩

variable {front blanks back : List Lexeme}

theorem of_append (scans : Scans scanner (front ++ back)) :
    ∃ after : Scanner, Scans after back := by
  induction front generalizing scanner with
  | nil => exact ⟨scanner, scans⟩
  | cons first front ih =>
      rcases scans.cons_inv with ⟨move, -, -, -, later⟩
      exact ih later

theorem skip_trivia (scans : Scans scanner (blanks ++ back))
    (blank : ∀ lexeme ∈ blanks, lexeme.kind.isTrivia = true) :
    ∃ after : Scanner, after.lastCodeKind = scanner.lastCodeKind ∧ Scans after back := by
  induction blanks generalizing scanner with
  | nil => exact ⟨scanner, rfl, scans⟩
  | cons first blanks ih =>
      rcases scans.cons_inv with ⟨move, -, -, kind_eq, later⟩
      rcases ih later fun lexeme member => blank lexeme (List.mem_cons_of_mem _ member) with
        ⟨after, last_eq, later⟩
      refine ⟨after, ?_, later⟩
      rw [last_eq, Scanner.lastCodeKind_advance, kind_eq, if_pos (blank first List.mem_cons_self)]

theorem origin (scans : Scans scanner (lexeme :: back)) :
    Origin scanner lexeme.content.toList lexeme.kind := by
  rcases scans.cons_inv with ⟨move, moved, whole, kind_eq, -⟩
  have origin := Scanner.origin_move moved
  rwa [whole, List.take_left, kind_eq] at origin

/-- Behind code that keeps names no keyword is read. -/
theorem not_keyword {keyword word : Lexeme}
    (scans : Scans scanner (front ++ keyword :: (blanks ++ word :: back)))
    (keeps : keepsName keyword.kind = true)
    (blank : ∀ lexeme ∈ blanks, lexeme.kind.isTrivia = true) :
    word.kind ∉ keywords.map Prod.snd := by
  rcases scans.of_append with ⟨before, scans⟩
  rcases scans.cons_inv with ⟨move, -, -, kind_eq, later⟩
  rcases later.skip_trivia blank with ⟨after, last_eq, later⟩
  refine later.origin.not_keyword ?_
  have code : keyword.kind.isTrivia = false := by
    generalize keyword.kind = kind at keeps
    cases kind <;> first | rfl | cases keeps
  rw [last_eq, Scanner.lastCodeKind_advance, kind_eq, code]
  exact keeps

end Scans

namespace Shortened

variable {stack : List String} {old : List Lexeme} {new : List (List Char)} {scanner : Scanner}

/-- The old text and the new one are the same, or go on with a word or a parenthesis and with a
square bracket from the place where they part. They part at once only in front of a parenthesis or
of an array literal. -/
theorem spelled_cases (short : Shortened stack old new) (scans : Scans scanner old) :
    new.flatten = spelled old ∨ ∃ common rest other, spelled old = common ++ rest ∧
      new.flatten = common ++ other ∧ Turns rest other ∧
      (common ≠ [] ∨ rest.head? = some ')' ∨
        ∃ next ∈ (settle old).head?, next.kind = .kwArray) := by
  induction short generalizing scanner with
  | nil => exact .inl rfl
  | @keep stack inner lexeme old new other apart passed rest ih =>
      rcases scans.cons_inv with ⟨move, moved, whole, kind_eq, later⟩
      rw [List.flatten_cons, spelled_cons]
      rcases ih later with same | ⟨common, tail, turned, old_eq, new_eq, turns, -⟩
      · exact .inl (by rw [same])
      · have nonempty : lexeme.content.toList ≠ [] :=
          List.length_pos_iff.mp (whole ▸ move.length_pos)
        refine .inr ⟨lexeme.content.toList ++ common, tail, turned, ?_, ?_, turns, .inl ?_⟩
        · rw [old_eq, List.append_assoc]
        · rw [new_eq, List.append_assoc]
        · simp [nonempty]
  | @literal stack array opener blanks old new word blank opens rest ih =>
      rcases scans.skip_literal word blank opens with ⟨-, ⟨first, letter, head_eq⟩, -⟩
      rcases List.head?_eq_some_iff.mp head_eq with ⟨tail, content_eq⟩
      have among : ∀ first ∈ ['a', 'A'], first ∈ turnedChars := by decide
      have begins : (spelled (array :: (blanks ++ opener :: old))).head? = some first := by
        rw [spelled_cons, content_eq]
        rfl
      refine .inr ⟨[], _, '[' :: new.flatten, rfl, rfl,
        ⟨⟨first, among first letter, begins⟩, ⟨'[', by decide, rfl⟩⟩,
        .inr (.inr ⟨_, rfl, settledKind_eq_kwArray_iff.mpr ⟨word, ?_⟩⟩)⟩
      rw [firstCodeKind_append blank old (by rw [opens]; rfl), opens]
  | @close stack closer old new closes rest ih =>
      rcases scans.skip_sign (by rw [closes, signOf?]) with ⟨-, content_eq, -⟩
      have begins : (spelled (closer :: old)).head? = some ')' := by
        rw [spelled_cons, content_eq]
        rfl
      exact .inr ⟨[], _, ']' :: new.flatten, rfl, rfl,
        ⟨⟨')', by decide, begins⟩, ⟨']', by decide, rfl⟩⟩, .inr (.inl begins)⟩

theorem stride?_square {sign : Char} (square : sign ∈ ['[', ']']) (rest : List Char) :
    stride? .code (sign :: rest) = some (1, .code) := by
  simp only [List.mem_cons, List.not_mem_nil, or_false] at square
  rcases square with rfl | rfl <;> rfl

/-- The new pieces are what a scan of their text cuts off. -/
theorem cuts (short : Shortened stack old new) (scans : Scans scanner old) :
    Cuts scanner.mode new := by
  induction short generalizing scanner with
  | nil => exact .nil _
  | @keep stack inner lexeme old new other apart passed rest ih =>
      rcases scans.cons_inv with ⟨move, moved, whole, kind_eq, later⟩
      have cut := scanner.stride?_of_move _ moved
      rw [whole] at cut
      have laterCuts : Cuts move.mode new := ih later
      refine .cons ?_ laterCuts
      rcases rest.spelled_cases later with
        same | ⟨common, tail, turned, old_eq, new_eq, turns, ends⟩
      · rwa [same]
      · rw [old_eq] at cut moved
        rw [new_eq]
        have nonempty : lexeme.content.toList ≠ [] :=
          List.length_pos_iff.mp (whole ▸ move.length_pos)
        refine turns.stride?_append nonempty ?_ cut
        by_contra none_holds
        simp only [not_or] at none_holds
        rcases none_holds with ⟨code, starts, short, notCloser⟩
        rcases ends with long | closer | ⟨next, here, word⟩
        · exact short long
        · refine notCloser fun char found => ?_
          rw [closer] at found
          cases found
          decide +kernel
        · have code : scanner.mode = .code := by
            cases mode_eq : scanner.mode with
            | code => rfl
            | markup => exact absurd mode_eq code
          have heredoc := Scanner.kind_of_heredocStart moved code starts
          exact apart (kind_eq ▸ heredoc) next here word
  | @literal stack array opener blanks old new word blank opens rest ih =>
      rcases scans.skip_literal word blank opens with ⟨code, -, after, mode_eq, -, later⟩
      rw [code]
      exact .cons (stride?_square (by decide) _) (mode_eq ▸ ih later)
  | @close stack closer old new closes rest ih =>
      rcases scans.skip_sign (by rw [closes, signOf?]) with
        ⟨code, -, after, mode_eq, -, later⟩
      rw [code]
      exact .cons (stride?_square (by decide) _) (mode_eq ▸ ih later)

end Shortened

theorem signOf?_settledKind (kind : TokenKind) (following : List Lexeme) :
    signOf? (settledKind kind following) = signOf? kind := by
  rcases settledKind_eq_or_free kind following with same | ⟨before, -, free⟩
  · rw [same]
  · rw [free, before.2]

theorem map_signOf?_settle (lexemes : List Lexeme) :
    ((settle lexemes).map Lexeme.kind).map signOf? = (lexemes.map Lexeme.kind).map signOf? := by
  induction lexemes with
  | nil => rfl
  | cons lexeme rest ih =>
      simp only [settle, List.map_cons, signOf?_settledKind, ih]

/-! ### Two scans side by side -/

/-- Whether two kinds are the same but for what a sign is taken for. -/
def Akin (kind other : TokenKind) : Prop :=
  kind = other ∨ signOf? kind = signOf? other ∧ signOf? kind ≠ none

namespace Akin

variable {kind other : TokenKind}

theorem signOf?_eq (akin : Akin kind other) : signOf? kind = signOf? other :=
  akin.elim (congrArg signOf?) And.left

theorem eq_of_free (akin : Akin kind other) (free : signOf? other = none) : kind = other :=
  akin.resolve_right fun signs => signs.2 (signs.1.trans free)

theorem word_eq (akin : Akin kind other) :
    kind.isTrivia = other.isTrivia ∧ keepsName kind = keepsName other := by
  rcases akin with rfl | ⟨same, shows⟩
  · exact ⟨rfl, rfl⟩
  · rcases Option.ne_none_iff_exists'.mp shows with ⟨sign, shows⟩
    have here := free_of_sign shows
    have there := free_of_sign (same ▸ shows)
    rw [here.2.2.1, there.2.2.1, here.2.2.2, there.2.2.2]
    exact ⟨rfl, rfl⟩

end Akin

namespace Scanner

/-- Whether two scans stand in one mode, and both or none of them keep the next word as a name. -/
structure Alike (first second : Scanner) : Prop where
  mode_eq : first.mode = second.mode
  keeps_eq : first.lastCodeKind.any keepsName = second.lastCodeKind.any keepsName

namespace Alike

variable {first second : Scanner}

theorem akin (alike : first.Alike second) (piece : List Char) :
    Akin (first.kindAlone piece) (second.kindAlone piece) := by
  refine kindAlone_related (fun _ => .inl rfl) ?_ alike.mode_eq alike.keeps_eq piece
  intro kind
  cases free : signOf? kind with
  | none =>
      rw [readOperator_of_free _ _ free, readOperator_of_free _ _ free]
      exact .inl rfl
  | some sign =>
      refine .inr ⟨?_, ?_⟩
      · rw [signOf?_readOperator, signOf?_readOperator]
      · rw [signOf?_readOperator, free]
        exact Option.some_ne_none _

/-- Alike scans read a piece as akin kinds, and are alike behind it. -/
theorem advance (alike : first.Alike second) {piece rest other : List Char} {move again : Move}
    (moved : first.move (piece ++ rest) = .ok move) (whole : move.length = piece.length)
    (movedToo : second.move (piece ++ other) = .ok again) (wholeToo : again.length = piece.length) :
    Akin move.kind again.kind ∧ (first.advance move piece).Alike (second.advance again piece) := by
  have kinds : Akin move.kind again.kind := by
    rw [first.kind_eq_kindAlone moved whole, second.kind_eq_kindAlone movedToo wholeToo]
    exact alike.akin piece
  refine ⟨kinds, ?_, ?_⟩
  · have cut := first.stride?_of_move _ moved
    have cutToo := second.stride?_of_move _ movedToo
    rw [whole] at cut
    rw [wholeToo, ← alike.mode_eq] at cutToo
    exact eq_of_stride? cut cutToo
  · rw [lastCodeKind_advance, lastCodeKind_advance, kinds.word_eq.1]
    split
    · exact alike.keeps_eq
    · exact kinds.word_eq.2

end Alike

/-- Behind signs, a scan of code is alike to another one. -/
theorem alike_of_signs {first second : Scanner} {kind other : TokenKind} {sign mark : String}
    (code : first.mode = .code) (codeToo : second.mode = .code)
    (last : first.lastCodeKind = some kind) (lastToo : second.lastCodeKind = some other)
    (shows : signOf? kind = some sign) (showsToo : signOf? other = some mark) :
    first.Alike second where
  mode_eq := code.trans codeToo.symm
  keeps_eq := by
    rw [last, lastToo, Option.any_some, Option.any_some, (free_of_sign shows).2.2.2,
      (free_of_sign showsToo).2.2.2]

end Scanner

/-- What the kinds of the new pieces have to do with the old lexemes: a parenthesis that stands
first stood first before, all brackets close, and no array literal is among them. -/
structure Reread (stack : List String) (old : List Lexeme) (kinds : List TokenKind) : Prop where
  opener : (kinds.find? fun kind => !kind.isTrivia) = some .openParenthesis →
    firstCodeKind old false = some .openParenthesis
  closes : (kinds.map signOf?).foldlM passSign stack = some []
  wordless : ∀ lexemes : List Lexeme, lexemes.map Lexeme.kind = kinds →
    ∀ lexeme ∈ settle lexemes, lexeme.kind ≠ .kwArray

/-- A square bracket in code is read as one. -/
theorem ReadsKinds.skip_square {scanner : Scanner} {new : List (List Char)}
    {kinds : List TokenKind} (sign : String) (bracket : sign ∈ ["[", "]"])
    (reads : ReadsKinds scanner (sign.toList :: new) kinds) (code : scanner.mode = .code) :
    ∃ kind later, kinds = kind :: later ∧ signOf? kind = some sign ∧
      ∃ after : Scanner, after.mode = .code ∧ after.lastCodeKind = some kind ∧
        ReadsKinds after new later := by
  have among : ∀ sign ∈ ["[", "]"], sign ∈ bracketSigns := by decide
  cases reads with
  | @cons _ _ _ move kinds moved whole later =>
      have shows : signOf? move.kind = some sign := by
        simp only [Scanner.move, code] at moved
        exact Scanner.signOf?_codeMove (among sign bracket) (by rw [whole, List.take_left]) moved
      have others := free_of_sign shows
      refine ⟨_, _, rfl, shows, _, Scanner.mode_move moved others.1 others.2.1, ?_, later⟩
      rw [Scanner.lastCodeKind_advance, others.2.2.1]
      rfl

namespace Reread

variable {stack inner : List String} {old : List Lexeme} {kinds : List TokenKind} {kind : TokenKind}

/-- A kept piece is read as it was, so it begins no array literal if it began none. -/
theorem keep (reread : Reread inner old kinds) {lexeme : Lexeme} (akin : Akin lexeme.kind kind)
    (other : settledKind lexeme.kind old ≠ .kwArray)
    (passed : passSign stack (signOf? lexeme.kind) = some inner) :
    Reread stack (lexeme :: old) (kind :: kinds) where
  opener := by
    rw [firstCodeKind_eq_find?, List.map_cons, List.find?_cons, List.find?_cons, akin.word_eq.1]
    split
    · intro first
      have sign := akin.signOf?_eq
      rw [Option.some.inj first] at sign
      have sole : ∀ kind, signOf? kind = some "(" → kind = .openParenthesis := by
        intro kind shows
        cases kind <;> first | rfl | exact absurd shows (by decide)
      rw [sole _ sign]
    · rw [← firstCodeKind_eq_find?]
      exact reread.opener
  closes := by
    rw [List.map_cons, List.foldlM_cons, ← akin.signOf?_eq, passed]
    exact reread.closes
  wordless := by
    intro lexemes kinds_eq
    cases lexemes with
    | nil => cases kinds_eq
    | cons first rest =>
        rw [List.map_cons, List.cons.injEq] at kinds_eq
        intro found member
        rcases List.mem_cons.mp member with rfl | later
        · intro word
          rcases settledKind_eq_kwArray_iff.mp word with ⟨first_eq, opens⟩
          rw [firstCodeKind_eq_find?, kinds_eq.2] at opens
          have old_eq : lexeme.kind = .kwArray :=
            (akin.eq_of_free (by rw [← kinds_eq.1, first_eq]; rfl)).trans
              (kinds_eq.1.symm.trans first_eq)
          exact other (settledKind_eq_kwArray_iff.mpr ⟨old_eq, reread.opener opens⟩)
        · exact reread.wordless rest kinds_eq.2 found later

/-- A square bracket in the place of what was there begins no array literal. -/
theorem square (reread : Reread inner old kinds) {sign : String} (bracket : sign ∈ ["[", "]"])
    (shows : signOf? kind = some sign) (passed : passSign stack (some sign) = some inner)
    (before : List Lexeme) : Reread stack before (kind :: kinds) where
  opener := by
    intro first
    rw [List.find?_cons, (free_of_sign shows).2.2.1] at first
    rw [Option.some.inj first] at shows
    cases shows
    exact absurd bracket (by decide)
  closes := by
    rw [List.map_cons, List.foldlM_cons, shows, passed]
    exact reread.closes
  wordless := by
    intro lexemes kinds_eq
    cases lexemes with
    | nil => cases kinds_eq
    | cons first rest =>
        rw [List.map_cons, List.cons.injEq] at kinds_eq
        intro found member
        rcases List.mem_cons.mp member with rfl | later
        · rcases settledKind_eq_or_free first.kind rest with same | ⟨before, -⟩
          · intro word
            rw [same, kinds_eq.1] at word
            rw [word] at shows
            cases shows
          · rw [kinds_eq.1, shows] at before
            cases before.2
        · exact reread.wordless rest kinds_eq.2 found later

end Reread

namespace Shortened

variable {stack : List String} {old : List Lexeme} {new : List (List Char)}

/-- The scan of the new text goes beside that of the old one. -/
theorem reread (short : Shortened stack old new) {first second : Scanner} {kinds : List TokenKind}
    (scans : Scans first old) (reads : ReadsKinds second new kinds) (alike : first.Alike second) :
    Reread stack old kinds := by
  induction short generalizing first second kinds with
  | nil =>
      cases reads
      refine ⟨fun absent => (by cases absent), rfl, ?_⟩
      intro lexemes kinds_eq lexeme member
      rw [List.map_eq_nil_iff.mp kinds_eq] at member
      cases member
  | @keep stack inner lexeme old new other apart passed rest ih =>
      rcases scans.cons_inv with ⟨move, moved, whole, kind_eq, later⟩
      cases reads with
      | cons movedToo wholeToo laterToo =>
          rcases alike.advance moved whole movedToo wholeToo with ⟨akin, alike⟩
          exact (ih later laterToo alike).keep (kind_eq ▸ akin) other passed
  | @literal stack array opener blanks old new word blank opens rest ih =>
      rcases scans.skip_literal word blank opens with ⟨code, -, after, mode_eq, last, later⟩
      rcases reads.skip_square "[" (by decide) (alike.mode_eq.symm.trans code) with
        ⟨kind, kinds, rfl, shows, next, codeToo, lastToo, laterToo⟩
      have alike := Scanner.alike_of_signs mode_eq codeToo last lastToo rfl shows
      exact (ih later laterToo alike).square (by decide) shows rfl _
  | @close stack closer old new closes rest ih =>
      rcases scans.skip_sign (by rw [closes, signOf?]) with
        ⟨code, -, after, mode_eq, last, later⟩
      rcases reads.skip_square "]" (by decide) (alike.mode_eq.symm.trans code) with
        ⟨kind, kinds, rfl, shows, next, codeToo, lastToo, laterToo⟩
      rw [closes] at last
      have alike := Scanner.alike_of_signs mode_eq codeToo last lastToo rfl shows
      exact (ih later laterToo alike).square (by decide) shows rfl _

/-- The new text is read as the new pieces; its brackets match, and it has no array literals. -/
theorem exists_lex (short : Shortened [] old new) (scans : Scans .start old) :
    ∃ found, lex (String.ofList new.flatten) = .ok found ∧
      found.map Lexeme.content = new.map String.ofList ∧
      (TokenStream.ofLexemes found).unmatched = [] ∧ ∀ lexeme ∈ found, lexeme.kind ≠ .kwArray := by
  rcases (short.cuts scans).exists_lex with ⟨found, lexed, pieces_eq⟩
  rcases exists_readsKinds_of_lex lexed with ⟨scanned, found_eq, reads⟩
  have texts_eq : (found.map fun lexeme => lexeme.content.toList) = new := by
    have chars_eq := congrArg (List.map String.toList) pieces_eq
    simpa [Function.comp_def] using chars_eq
  rw [texts_eq] at reads
  have reread := short.reread scans reads ⟨rfl, rfl⟩
  refine ⟨found, lexed, pieces_eq, ?_, found_eq ▸ reread.wordless scanned rfl⟩
  apply TokenStream.unmatched_eq_nil_of_closes lexed
  rw [found_eq, map_signOf?_settle]
  exact reread.closes

end Shortened

end TokenLint.Lexer
