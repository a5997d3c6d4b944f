import TokenLint.Proofs.Stream.Parentheses
import TokenLint.Proofs.Stream.Shortened
import TokenLint.Proofs.Stream.Span
import TokenLint.Proofs.Stream.Walk

/-!
# Array literals in the long syntax

An array literal is a word with a pair of parentheses. Two of them never share a token, so each
token belongs to one end of at most one literal, and the source with all literals written in square
brackets can be told token by token.
-/

namespace TokenLint

open Lexer

/-! ### Pairs -/

section Pairs

variable {kinds : List TokenKind} {first second : BracketPair}

/-- Two pairs that share an end are the same. -/
theorem eq_of_shared_end (member : first ∈ bracketPairs kinds) (among : second ∈ bracketPairs kinds)
    (shared : first.opener = second.opener ∨ first.closer = second.closer) : first = second := by
  rcases BracketPair.laminar_of_mem member among with eq | apart
  · exact eq
  · have rises := BracketPair.lt_of_mem member
    have rises_too := BracketPair.lt_of_mem among
    simp only [BracketPair.Contains] at apart
    omega

end Pairs

/-! ### Literals -/

/-- Whether the word of an array literal stands at an index, and its parentheses are a pair. -/
structure IsArrayLiteral (kinds : List TokenKind) (index : Nat) (pair : BracketPair) : Prop where
  word : kinds[index]? = some .kwArray
  after : index < pair.opener
  blank : ∀ between kind, index < between → between < pair.opener → kinds[between]? = some kind →
    kind.isTrivia = true
  opens : kinds[pair.opener]? = some .openParenthesis
  member : pair ∈ bracketPairs kinds

namespace IsArrayLiteral

variable {kinds : List TokenKind} {index other : Nat} {pair otherPair : BracketPair}
  (literal : IsArrayLiteral kinds index pair)

include literal

theorem closes : kinds[pair.closer]? = some .closeParenthesis :=
  (BracketPair.opener_iff_closer literal.member .parenthesis).mp literal.opens

theorem rises : pair.opener < pair.closer := BracketPair.lt_of_mem literal.member

/-- From the word to the parenthesis there are blanks, comments and the word itself. -/
theorem head_cases {kind : TokenKind} {place : Nat} (from_word : index ≤ place)
    (to_opener : place < pair.opener) (found : kinds[place]? = some kind) :
    kind = .kwArray ∨ kind.isTrivia = true := by
  rcases Nat.eq_or_lt_of_le from_word with rfl | behind
  · exact .inl (Option.some.inj (found.symm.trans literal.word))
  · exact .inr (literal.blank place kind behind to_opener found)

/-- What is neither a word of an array literal nor a blank stands outside the head of a literal. -/
theorem outside {kind : TokenKind} {place : Nat} (found : kinds[place]? = some kind)
    (differs : kind ≠ .kwArray) (code : kind.isTrivia = false) :
    place < index ∨ pair.opener ≤ place := by
  by_contra within
  rcases literal.head_cases (by omega) (by omega) found with same | trivia
  · exact differs same
  · rw [code] at trivia
    cases trivia

variable (otherLiteral : IsArrayLiteral kinds other otherPair)

include otherLiteral

/-- The heads of two literals lie behind each other. -/
theorem opener_lt_of_lt (before : index < other) : pair.opener < other := by
  have differ : other ≠ pair.opener := by
    rintro rfl
    cases literal.opens.symm.trans otherLiteral.word
  by_contra behind
  have trivia := literal.blank other .kwArray before (by omega) otherLiteral.word
  cases trivia

theorem pair_eq (same : index = other) : pair = otherPair := by
  subst same
  refine eq_of_shared_end literal.member otherLiteral.member (.inl ?_)
  rcases literal.outside otherLiteral.opens (by decide) rfl with before | behind
  · exact absurd before (Nat.lt_asymm otherLiteral.after)
  rcases otherLiteral.outside literal.opens (by decide) rfl with before | reaches
  · exact absurd before (Nat.lt_asymm literal.after)
  exact Nat.le_antisymm behind reaches

theorem index_eq_of_opener_eq (same : pair.opener = otherPair.opener) : index = other := by
  rcases Nat.lt_trichotomy index other with before | eq | behind
  · have apart := literal.opener_lt_of_lt otherLiteral before
    have after := otherLiteral.after
    omega
  · exact eq
  · have apart := otherLiteral.opener_lt_of_lt literal behind
    have after := literal.after
    omega

theorem index_eq_of_closer_eq (same : pair.closer = otherPair.closer) : index = other :=
  literal.index_eq_of_opener_eq otherLiteral
    (congrArg BracketPair.opener (eq_of_shared_end literal.member otherLiteral.member (.inr same)))

end IsArrayLiteral

namespace TokenStream

variable (stream : TokenStream)

/-- The parentheses of the array literal whose word stands at an index. -/
def arrayLiteral? (index : Nat) : Option BracketPair :=
  if stream.hasKind index .kwArray then
    (stream.nextCode? (index + 1)).bind fun opener =>
      (stream.partner? opener).map fun closer => ⟨opener, closer⟩
  else none

/-- The array literals of a stream: where their words stand, and their parentheses. -/
def arrayLiterals : List (Nat × BracketPair) :=
  (List.range stream.size).filterMap fun index =>
    (stream.arrayLiteral? index).map fun pair => (index, pair)

/-- What stands in the place of a token once all array literals are written in square brackets. -/
def shortArrayText (token : Token) : String :=
  if stream.arrayLiterals.any fun literal =>
    literal.1 ≤ token.index && token.index < literal.2.opener then ""
  else if stream.arrayLiterals.any fun literal => literal.2.opener = token.index then "["
  else if stream.arrayLiterals.any fun literal => literal.2.closer = token.index then "]"
  else token.content

variable {lexemes : List Lexeme} {index : Nat} {pair : BracketPair}

theorem mem_arrayLiterals_iff {stream : TokenStream} :
    (index, pair) ∈ stream.arrayLiterals ↔ stream.arrayLiteral? index = some pair := by
  simp only [arrayLiterals, List.mem_filterMap, List.mem_range, Option.map_eq_some_iff]
  constructor
  · rintro ⟨place, -, found, here, same⟩
    cases same
    exact here
  · intro here
    refine ⟨index, ?_, pair, here, rfl⟩
    rw [arrayLiteral?, Option.ite_none_right_eq_some] at here
    exact lt_size_of_hasKind here.1

end TokenStream

namespace IsArrayLiteral

variable {lexemes : List Lexeme} {index : Nat} {pair : BracketPair}
  (literal : IsArrayLiteral (lexemes.map Lexeme.kind) index pair)

include literal

/-- The parenthesis is the first code behind the word. -/
theorem firstIndex?_eq {stop : Nat} (inside : pair.opener < stop) {accepts : Nat → Bool}
    (codes : ∀ place, accepts place =
      (lexemes.map Lexeme.kind)[place]?.any fun kind => !kind.isTrivia) :
    firstIndex? accepts (index + 1) stop = some pair.opener := by
  apply firstIndex?_of_nearest literal.after inside
  · rw [codes, literal.opens]
    rfl
  · intro between behind before
    rw [codes]
    cases found : (lexemes.map Lexeme.kind)[between]? with
    | none => rfl
    | some kind => simp [literal.blank between kind behind before found]

theorem opener_lt : pair.opener < lexemes.length := by
  simpa using (List.getElem?_eq_some_iff.mp literal.opens).1

theorem arrayLiteral?_eq : (TokenStream.ofLexemes lexemes).arrayLiteral? index = some pair := by
  have next : (TokenStream.ofLexemes lexemes).nextCode? (index + 1) = some pair.opener := by
    rw [TokenStream.nextCode?, TokenStream.nextCodeBefore?, TokenStream.firstWith?, Nat.min_self,
      TokenStream.size_ofLexemes]
    refine literal.firstIndex?_eq literal.opener_lt fun place => ?_
    rw [TokenStream.holdsAt, ← TokenStream.kind?_ofLexemes, TokenStream.kind?, Option.any_map]
    rfl
  have matched : (TokenStream.ofLexemes lexemes).partner? pair.opener = some pair.closer := by
    rw [TokenStream.partner?_ofLexemes, PartnerTable.partner?_ofKinds]
    exact .inl literal.member
  have word : (TokenStream.ofLexemes lexemes).hasKind index .kwArray = true := by
    rw [TokenStream.hasKind, TokenStream.kind?_ofLexemes, literal.word]
    rfl
  simp only [TokenStream.arrayLiteral?, word, if_true, next, Option.bind_some, matched,
    Option.map_some]

/-- The parentheses are those that the word controls. -/
theorem parenthesis_eq (strict : Strict (lexemes.map Lexeme.kind)) {token : Token}
    (here : (TokenStream.ofLexemes lexemes).token? index = some token) :
    token.parenthesis = some pair := by
  have place : parenthesisPlace? (lexemes.map Lexeme.kind).toArray index = some pair.opener := by
    simp only [parenthesisPlace?, List.getElem?_toArray, literal.word]
    exact literal.firstIndex?_eq (by simpa using literal.opener_lt) fun _ => by simp
  rcases exists_ownedParenthesis? strict rfl literal.word place literal.opens with ⟨closer, owned⟩
  rw [TokenStream.parenthesis_ofLexemes here, owned]
  have among := (of_ownedParenthesis? owned).2.2
  exact congrArg some (eq_of_shared_end among literal.member (.inl rfl))

end IsArrayLiteral

/-! ### Literals of a source -/

section Source

variable {scanned : List Lexeme} {index : Nat} {pair : BracketPair}

theorem isTrivia_settledKind (kind : TokenKind) (following : List Lexeme) :
    (settledKind kind following).isTrivia = kind.isTrivia := by
  simp only [settledKind]
  split
  · split <;> rfl
  · split <;> rfl
  · rfl

theorem length_settle (lexemes : List Lexeme) : (settle lexemes).length = lexemes.length := by
  induction lexemes with
  | nil => rfl
  | cons lexeme rest ih => exact congrArg (· + 1) ih

theorem settledKind_of_sign {kind : TokenKind} {following : List Lexeme} {sign : String}
    (shows : signOf? (settledKind kind following) = some sign) :
    settledKind kind following = kind := by
  rcases settledKind_eq_or_free kind following with same | ⟨-, -, free⟩
  · exact same
  · rw [free] at shows
    cases shows

theorem kind?_settle (scanned : List Lexeme) (index : Nat) :
    ((settle scanned).map Lexeme.kind)[index]? = scanned[index]?.map fun lexeme =>
      settledKind lexeme.kind (scanned.drop (index + 1)) := by
  rw [List.getElem?_map, getElem?_settle, Option.map_map]
  rfl

/-- The word of an array literal has its parentheses. -/
theorem exists_arrayLiteral (strict : Strict ((settle scanned).map Lexeme.kind))
    (word : ((settle scanned).map Lexeme.kind)[index]? = some .kwArray) :
    ∃ pair, IsArrayLiteral ((settle scanned).map Lexeme.kind) index pair := by
  have settled := word
  rw [kind?_settle, Option.map_eq_some_iff] at settled
  rcases settled with ⟨array, -, settled⟩
  have first := (settledKind_eq_kwArray_iff.mp settled).2
  rw [firstCodeKind_eq_find?, List.find?_eq_some_iff_getElem] at first
  rcases first with ⟨-, offset, inside, opens, blank⟩
  -- The lexemes behind the word have the kinds that were searched, once they are settled.
  have kind_at : ∀ {place : Nat} {kind : TokenKind},
      ((scanned.drop (index + 1)).map Lexeme.kind)[place]? = some kind → ∃ following,
        ((settle scanned).map Lexeme.kind)[index + 1 + place]? =
          some (settledKind kind following) := by
    intro place kind here
    rw [List.getElem?_map, List.getElem?_drop, Option.map_eq_some_iff] at here
    rcases here with ⟨lexeme, lexeme_at, rfl⟩
    rw [kind?_settle, lexeme_at]
    exact ⟨_, rfl⟩
  rcases kind_at (List.getElem?_eq_some_iff.mpr ⟨inside, opens⟩) with ⟨following, opener_at⟩
  rcases strict.opener opener_at rfl with ⟨closer, member⟩
  have after : index < index + 1 + offset := by omega
  refine ⟨⟨index + 1 + offset, closer⟩, word, after, ?_, opener_at, member⟩
  intro between kind behind before found
  obtain ⟨place, rfl⟩ := Nat.exists_eq_add_of_le (show index + 1 ≤ between from behind)
  have within : place < offset := Nat.add_lt_add_iff_left.mp before
  rcases kind_at (List.getElem?_eq_getElem (Nat.lt_trans within inside)) with
    ⟨following, settled_at⟩
  rw [settled_at, Option.some.injEq] at found
  rw [← found, isTrivia_settledKind]
  simpa using blank place within

theorem arrayLiteral?_settle_iff (strict : Strict ((settle scanned).map Lexeme.kind)) :
    (TokenStream.ofLexemes (settle scanned)).arrayLiteral? index = some pair ↔
      IsArrayLiteral ((settle scanned).map Lexeme.kind) index pair := by
  constructor
  · intro found
    have word := found
    rw [TokenStream.arrayLiteral?, Option.ite_none_right_eq_some, TokenStream.hasKind,
      TokenStream.kind?_ofLexemes, beq_iff_eq] at word
    rcases exists_arrayLiteral strict word.1 with ⟨other, literal⟩
    rw [literal.arrayLiteral?_eq] at found
    exact Option.some.inj found ▸ literal
  · exact IsArrayLiteral.arrayLiteral?_eq

theorem mem_arrayLiterals_settle_iff (strict : Strict ((settle scanned).map Lexeme.kind)) :
    (index, pair) ∈ (TokenStream.ofLexemes (settle scanned)).arrayLiterals ↔
      IsArrayLiteral ((settle scanned).map Lexeme.kind) index pair := by
  rw [TokenStream.mem_arrayLiterals_iff, arrayLiteral?_settle_iff strict]

end Source

end TokenLint
