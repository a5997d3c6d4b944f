import TokenLint.Proofs.Navigation.Calls
import TokenLint.Proofs.Navigation.Partition
import TokenLint.Proofs.Navigation.Statements

/-!
# The argument of a call

The arguments of a call are a partition of the code between its parentheses, but for commas. A call
with one argument can therefore hold commas too, but in front of the argument and behind it there is
nothing else than commas, whitespace and comments.
-/

namespace TokenLint.TokenStream

open Lexer

/-- Kinds that may stand around an argument. -/
def isPadding (kind : TokenKind) : Bool := kind.isTrivia || kind = .comma

/-- Whether nothing but padding stands from `start` on and in front of `stop`. -/
def Padded (stream : TokenStream) (start stop : Nat) : Prop :=
  ∀ place, start ≤ place → place < stop → stream.kindIs place isPadding = true

/-- Whether a range of tokens is all the code from `start` on and in front of `stop`, commas at both
ends apart. -/
structure IsArgument (stream : TokenStream) (start stop first last : Nat) : Prop where
  after : start ≤ first
  ordered : first ≤ last
  before : last < stop
  lead : stream.Padded start first
  trail : stream.Padded (last + 1) stop
  first_plain : stream.kindIs first isPadding = false
  last_plain : stream.kindIs last isPadding = false

section Padding

variable {stream : TokenStream} {start stop first last : Nat}

theorem Blank.padded (blank : stream.Blank start stop) : stream.Padded start stop := by
  intro place after before
  rcases exists_token_of_kindIs (blank place after before) with ⟨token, here, trivia⟩
  simp [kindIs, kind?, here, isPadding, trivia]

theorem blank_of_nextCodeBefore?_eq_none (inside : stop ≤ stream.size)
    (missing : stream.nextCodeBefore? start stop = none) : stream.Blank start stop := by
  intro place after before
  exact isTrivia_of_not_holdsAt (by omega)
    (firstIndex?_eq_none missing place after (by omega))

/-- The first code of a range stands behind blanks. -/
theorem of_nextCodeBefore? (inside : stop ≤ stream.size)
    (found : stream.nextCodeBefore? start stop = some first) :
    start ≤ first ∧ first < stop ∧ stream.Blank start first ∧
      ∃ token, stream.token? first = some token ∧ token.kind.isTrivia = false := by
  rcases firstIndex?_eq_some found with ⟨after, before, accepted, nearest⟩
  refine ⟨after, by omega, ?_, ?_⟩
  · intro place lower upper
    exact isTrivia_of_not_holdsAt (by omega) (nearest place lower upper)
  · rcases (Option.any_eq_true _ _).mp accepted with ⟨token, here, code⟩
    exact ⟨token, here, by simpa [Token.isTrivia] using code⟩

/-- The last code of a range stands in front of blanks. -/
theorem of_previousCodeFrom? (inside : stop ≤ stream.size)
    (found : stream.previousCodeFrom? start stop = some last) :
    start ≤ last ∧ last < stop ∧ stream.Blank (last + 1) stop ∧
      ∃ token, stream.token? last = some token ∧ token.kind.isTrivia = false := by
  rcases lastIndex?_eq_some found with ⟨after, before, accepted, nearest⟩
  refine ⟨after, by omega, ?_, ?_⟩
  · intro place lower upper
    exact isTrivia_of_not_holdsAt (by omega) (nearest place lower (by omega))
  · rcases (Option.any_eq_true _ _).mp accepted with ⟨token, here, code⟩
    exact ⟨token, here, by simpa [Token.isTrivia] using code⟩

theorem blank_of_previousCode? (inside : stop ≤ stream.size)
    (found : stream.previousCode? stop = some last) :
    last < stop ∧ stream.Blank (last + 1) stop ∧
      stream.kindIs last TokenKind.isTrivia = false := by
  rcases of_previousCodeFrom? inside found with ⟨-, before, blank, token, here, code⟩
  exact ⟨before, blank, by simp [kindIs, kind?, here, code]⟩

theorem blank_of_previousCode?_eq_none (inside : stop ≤ stream.size)
    (missing : stream.previousCode? stop = none) : stream.Blank 0 stop := by
  intro place after before
  exact isTrivia_of_not_holdsAt (by omega)
    (lastIndex?_eq_none missing place after (by omega))

/-- Code behind blanks is the next code. -/
theorem nextCode?_of_blank (start_le : start ≤ stop) (blank : stream.Blank start stop)
    (code : stream.kindIs stop TokenKind.isTrivia = false) (inside : stop < stream.size) :
    stream.nextCode? start = some stop := by
  refine firstIndex?_of_nearest start_le (by omega) ?_ ?_
  · rcases exists_token?_of_lt inside with ⟨token, here⟩
    simpa [holdsAt, kindIs, kind?, here, Token.isTrivia] using code
  · intro place after before
    rcases exists_token_of_kindIs (blank place after before) with ⟨token, here, trivia⟩
    simp [holdsAt, here, Token.isTrivia, trivia]

end Padding

variable {lexemes : List Lexeme} {brackets : BracketPair} {index first last : Nat}

theorem kindIs_isPadding {stream : TokenStream} (inside : index < stream.size) :
    stream.kindIs index isPadding = (!stream.holdsCode index || stream.hasKind index .comma) := by
  rcases exists_token?_of_lt inside with ⟨token, here⟩
  simp [kindIs, holdsCode, hasKind, kind?, here, isPadding, beq_eq_decide]

/-- The brackets of a pair are code. -/
theorem holdsCode_of_mem {pair : BracketPair}
    (member : pair ∈ bracketPairs (lexemes.map Lexeme.kind)) :
    (ofLexemes lexemes).holdsCode pair.opener = true ∧
      (ofLexemes lexemes).holdsCode pair.closer = true := by
  rcases BracketPair.exists_shape member with ⟨shape, opens, closes⟩
  rw [holdsCode, kindIs, kind?_ofLexemes, opens, holdsCode, kindIs, kind?_ofLexemes, closes]
  cases shape <;> exact ⟨rfl, rfl⟩

/-- A comma between brackets that does not divide their list stands in a pair between them. -/
theorem exists_pair_around (isComma : (ofLexemes lexemes).hasKind index .comma = true)
    (after : brackets.opener < index) (before : index < brackets.closer)
    (undivided : ¬(ofLexemes lexemes).Divides brackets index) :
    ∃ inner ∈ bracketPairs (lexemes.map Lexeme.kind), brackets.Contains inner ∧
      inner.opener < index ∧ index < inner.closer := by
  by_contra alone
  refine undivided ⟨isComma, after, before, ?_⟩
  intro inner matched contains around
  exact alone ⟨inner, matches_iff.mp matched, contains, around⟩

section Alone

variable (among : brackets ∈ bracketPairs (lexemes.map Lexeme.kind))
  (partition : (ofLexemes lexemes).IsPartition ((ofLexemes lexemes).Divides brackets)
    (brackets.opener + 1) brackets.closer [(first, last)])

include among partition

theorem isPadding_of_outside (after : brackets.opener < index) (before : index < brackets.closer)
    (outside : ¬(first ≤ index ∧ index ≤ last)) :
    (ofLexemes lexemes).kindIs index isPadding = true := by
  rw [kindIs_isPadding (before.trans (closer_lt_size among))]
  cases code : (ofLexemes lexemes).holdsCode index with
  | false => rfl
  | true =>
      by_contra notComma
      exact outside (partition.alone after before code fun divides => notComma divides.1)

/-- A comma at an end of the only argument is in brackets, which the argument would have to hold. -/
theorem not_isPadding_of_end (after : first ≤ index) (before : index ≤ last)
    (atEnd : index = first ∨ index = last) (code : (ofLexemes lexemes).holdsCode index = true) :
    (ofLexemes lexemes).kindIs index isPadding = false := by
  rcases partition.within _ (List.mem_singleton_self _) with ⟨lower, -, upper⟩
  have undivided := partition.whole _ (List.mem_singleton_self _) index after before
  have closer_lt := closer_lt_size among
  rw [kindIs_isPadding (by omega), code, Bool.not_true, Bool.false_or, Bool.eq_false_iff]
  intro isComma
  rcases exists_pair_around isComma (by omega) (by omega) undivided with
    ⟨inner, nested, contains, opener_lt, closer_gt⟩
  rcases holdsCode_of_mem nested with ⟨opener_code, closer_code⟩
  have rises := BracketPair.lt_of_mem nested
  have opener_in := partition.alone contains.1 (rises.trans contains.2) opener_code
    (not_divides_of_inner nested contains (Nat.le_refl _) rises.le)
  have closer_in := partition.alone (contains.1.trans rises) contains.2 closer_code
    (not_divides_of_inner nested contains rises.le (Nat.le_refl _))
  omega

end Alone

/-- The only argument of a call is all the code between its parentheses, but for commas. -/
theorem isArgument_of_callArguments (among : brackets ∈ bracketPairs (lexemes.map Lexeme.kind))
    (alone : (ofLexemes lexemes).callArguments brackets.opener = [(first, last)]) :
    (ofLexemes lexemes).IsArgument (brackets.opener + 1) brackets.closer first last := by
  have partition := isPartition_callArguments among
  rw [alone] at partition
  rcases partition.within _ (List.mem_singleton_self _) with ⟨after, ordered, before⟩
  rcases partition.code _ (List.mem_singleton_self _) with ⟨first_code, last_code⟩
  refine ⟨after, ordered, before, ?_, ?_, ?_, ?_⟩
  · intro place lower upper
    exact isPadding_of_outside among partition lower (by omega) (by omega)
  · intro place lower upper
    exact isPadding_of_outside among partition (by omega) upper (by omega)
  · exact not_isPadding_of_end among partition (Nat.le_refl _) ordered (.inl rfl) first_code
  · exact not_isPadding_of_end among partition ordered (Nat.le_refl _) (.inr rfl) last_code

end TokenLint.TokenStream
