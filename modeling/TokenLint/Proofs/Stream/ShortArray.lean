import TokenLint.Proofs.Navigation.SameKinds
import TokenLint.Proofs.Stream.ArrayLiteral

/-!
# Sources without long array literals

When the array literals of a source are written in square brackets, what closes their parentheses is
another sign, and everything else is kept. Told from the end of the source, this is what `Shortened`
says of its lexemes, so the new source is read, its brackets match, and it has no literal in the
long syntax.
-/

namespace TokenLint

open Lexer

/-! ### Signs that are waited for -/

section Awaited

variable {kinds : List TokenKind} {literals : List (Nat × BracketPair)} {index : Nat}
  {pair : BracketPair} {kind : TokenKind}

/-- The sign that closes a pair once the literals are written in square brackets. -/
def closingFor (kinds : List TokenKind) (literals : List (Nat × BracketPair))
    (pair : BracketPair) : String :=
  if literals.any fun literal => literal.2 = pair then "]"
  else ((kinds[pair.opener]?.bind TokenKind.opens?).map closingSign).getD ""

/-- The signs that the open brackets in front of a token wait for, innermost first. -/
def awaited (kinds : List TokenKind) (literals : List (Nat × BracketPair)) (index : Nat) :
    List String :=
  ((level kinds index).map (closingFor kinds literals)).reverse

theorem awaited_opener_succ (member : pair ∈ bracketPairs kinds) :
    awaited kinds literals (pair.opener + 1) =
      closingFor kinds literals pair :: awaited kinds literals pair.opener := by
  rw [awaited, awaited, level_opener_succ member, List.map_append, List.reverse_append]
  rfl

theorem awaited_closer (member : pair ∈ bracketPairs kinds) :
    awaited kinds literals pair.closer =
      closingFor kinds literals pair :: awaited kinds literals (pair.closer + 1) := by
  rw [awaited, level_closer member, ← awaited, awaited_opener_succ member, awaited, awaited,
    level_closer_succ member]

theorem closingFor_of_literal (listed : (index, pair) ∈ literals) :
    closingFor kinds literals pair = "]" :=
  if_pos (List.any_eq_true.mpr ⟨_, listed, decide_eq_true rfl⟩)

/-- A bracket that belongs to no literal is passed as it was. -/
theorem passSign_awaited (strict : Strict kinds) (found : kinds[index]? = some kind)
    (free : ∀ literal ∈ literals, literal.2.opener ≠ index ∧ literal.2.closer ≠ index) :
    passSign (awaited kinds literals index) (signOf? kind) =
      some (awaited kinds literals (index + 1)) := by
  have closing_eq : ∀ {pair : BracketPair} {shape : BracketShape}, pair.opener = index ∨
      pair.closer = index → OpensAt kinds pair.opener shape →
        closingFor kinds literals pair = closingSign shape := by
    intro pair shape ends opens
    rw [closingFor, if_neg, opens, Option.map_some, Option.getD_some]
    rw [List.any_eq_true]
    rintro ⟨literal, listed, same⟩
    rw [← of_decide_eq_true same] at ends
    exact ends.elim (free literal listed).1 (free literal listed).2
  cases opens : kind.opens? with
  | some shape =>
      rcases strict.opener found (by simp [TokenKind.isOpener, opens]) with ⟨closer, member⟩
      have opens_at : OpensAt kinds index shape := by simp [OpensAt, found, opens]
      have step : awaited kinds literals (index + 1) =
          closingFor kinds literals ⟨index, closer⟩ :: awaited kinds literals index :=
        awaited_opener_succ member
      rw [passSign_of_opens opens, step, closing_eq (.inl rfl) opens_at]
  | none =>
      cases closes : kind.closes? with
      | some shape =>
          rcases strict.closer found (by simp [TokenKind.isCloser, closes]) with ⟨opener, member⟩
          rcases exists_pairing kinds with ⟨stack, pairing⟩
          rcases (pairing.matched _ member).2.2 with ⟨other, opens_at, closes_at⟩
          have same : shape = other := by
            simpa [ClosesAt, found, closes] using closes_at
          have step : awaited kinds literals index =
              closingFor kinds literals ⟨opener, index⟩ :: awaited kinds literals (index + 1) :=
            awaited_closer member
          rw [step, closing_eq (.inr rfl) opens_at, ← same, passSign_of_closes closes]
      | none =>
          rw [passSign_of_not_bracket opens closes, awaited, awaited,
            level_succ found opens closes]

end Awaited

/-- In front of the parenthesis of a literal, the same is waited for as in front of its word. -/
theorem IsArrayLiteral.awaited_opener {kinds : List TokenKind}
    {literals : List (Nat × BracketPair)} {index : Nat} {pair : BracketPair}
    (literal : IsArrayLiteral kinds index pair) :
    awaited kinds literals pair.opener = awaited kinds literals index := by
  have kept : ∀ count, index + count ≤ pair.opener →
      level kinds (index + count) = level kinds index := by
    intro count
    induction count with
    | zero => exact fun _ => rfl
    | succ count ih =>
        intro within
        rw [← ih (by omega)]
        have inside := (List.getElem?_eq_some_iff.mp literal.opens).1
        have here : index + count < kinds.length := by omega
        have found : kinds[index + count]? = some kinds[index + count] :=
          List.getElem?_eq_getElem here
        have free : ∀ kind : TokenKind, kind = .kwArray ∨ kind.isTrivia = true →
            kind.opens? = none ∧ kind.closes? = none := by
          rintro kind (rfl | trivia)
          · exact ⟨rfl, rfl⟩
          · cases kind <;> first | exact ⟨rfl, rfl⟩ | cases trivia
        have none_open := free _ (literal.head_cases (by omega) (by omega) found)
        exact level_succ found none_open.1 none_open.2
  have after := literal.after
  have reached := kept (pair.opener - index) (by omega)
  rw [Nat.add_sub_cancel' (Nat.le_of_lt after)] at reached
  rw [awaited, awaited, reached]

/-! ### The source in square brackets -/

namespace TokenStream

/-- The text from a token on with all array literals in square brackets. -/
def shortSpelled (stream : TokenStream) (index : Nat) : List Char :=
  (stream.tokens.toList.drop index).flatMap fun token => (stream.shortArrayText token).toList

theorem shortSpelled_eq {stream : TokenStream} {index : Nat} {token : Token}
    (here : stream.token? index = some token) :
    stream.shortSpelled index =
      (stream.shortArrayText token).toList ++ stream.shortSpelled (index + 1) := by
  rw [token?, ← Array.getElem?_toList] at here
  rcases List.getElem?_eq_some_iff.mp here with ⟨inside, rfl⟩
  rw [shortSpelled, List.drop_eq_getElem_cons inside, List.flatMap_cons]
  rfl

/-- The token of a lexeme has its place and its content. -/
theorem exists_token_settle {scanned : List Lexeme} {index : Nat} {lexeme : Lexeme}
    (found : scanned[index]? = some lexeme) :
    ∃ token, (ofLexemes (settle scanned)).token? index = some token ∧ token.index = index ∧
      token.content = lexeme.content := by
  have settled := getElem?_settle scanned index
  rw [found, Option.map_some] at settled
  rw [← map_lexeme_ofLexemes (settle scanned), List.getElem?_map, Option.map_eq_some_iff] at settled
  rcases settled with ⟨token, here, lexeme_eq⟩
  rw [Array.getElem?_toList] at here
  exact ⟨token, here, (bounded_ofLexemes _).index_eq here, congrArg Lexeme.content lexeme_eq⟩

end TokenStream

/-- Whether the lexemes of a scan from an index on are shortened to the text of the stream. -/
def ShortenedFrom (scanned : List Lexeme) (index : Nat) : Prop :=
  ∃ new, Shortened (awaited ((settle scanned).map Lexeme.kind)
      (TokenStream.ofLexemes (settle scanned)).arrayLiterals index) (scanned.drop index) new ∧
    new.flatten = (TokenStream.ofLexemes (settle scanned)).shortSpelled index

/-- At the end nothing is left to be written or waited for. -/
theorem ShortenedFrom.atEnd (scanned : List Lexeme) :
    ShortenedFrom scanned scanned.length := by
  refine ⟨[], ?_, ?_⟩
  · have outermost := level_length ((settle scanned).map Lexeme.kind)
    rw [List.length_map, length_settle] at outermost
    rw [awaited, outermost, List.drop_length]
    exact .nil
  · rw [TokenStream.shortSpelled, List.drop_eq_nil_of_le]
    · rfl
    · rw [Array.length_toList, ← TokenStream.size, TokenStream.size_ofLexemes, length_settle]

section Shortening

variable {scanned : List Lexeme} (strict : Strict ((settle scanned).map Lexeme.kind))
  {index place : Nat} {pair : BracketPair} {token : Token}

include strict

namespace TokenStream

theorem any_arrayLiterals_iff (accepts : Nat × BracketPair → Bool) :
    (ofLexemes (settle scanned)).arrayLiterals.any accepts = true ↔
      ∃ index pair, IsArrayLiteral ((settle scanned).map Lexeme.kind) index pair ∧
        accepts (index, pair) = true := by
  rw [List.any_eq_true]
  constructor
  · rintro ⟨⟨index, pair⟩, listed, accepted⟩
    exact ⟨index, pair, (mem_arrayLiterals_settle_iff strict).mp listed, accepted⟩
  · rintro ⟨index, pair, literal, accepted⟩
    exact ⟨_, (mem_arrayLiterals_settle_iff strict).mpr literal, accepted⟩

theorem shortArrayText_of_head
    (literal : IsArrayLiteral ((settle scanned).map Lexeme.kind) index pair)
    (from_word : index ≤ token.index) (to_opener : token.index < pair.opener) :
    (ofLexemes (settle scanned)).shortArrayText token = "" := by
  rw [shortArrayText, if_pos]
  rw [any_arrayLiterals_iff strict]
  exact ⟨index, pair, literal, by simp [from_word, to_opener]⟩

/-- What is neither a word of an array literal nor a blank stands in no head of a literal. -/
theorem not_head_of_kind (token : Token) {kind : TokenKind}
    (found : ((settle scanned).map Lexeme.kind)[token.index]? = some kind)
    (differs : kind ≠ .kwArray) (code : kind.isTrivia = false) :
    ¬((ofLexemes (settle scanned)).arrayLiterals.any fun literal =>
      literal.1 ≤ token.index && token.index < literal.2.opener) = true := by
  rw [any_arrayLiterals_iff strict]
  rintro ⟨index, pair, literal, within⟩
  simp only [Bool.and_eq_true, decide_eq_true_eq] at within
  have outside := literal.outside found differs code
  omega

theorem shortArrayText_of_opener
    (literal : IsArrayLiteral ((settle scanned).map Lexeme.kind) index pair)
    (here : token.index = pair.opener) :
    (ofLexemes (settle scanned)).shortArrayText token = "[" := by
  have apart := not_head_of_kind strict token (here ▸ literal.opens) (by decide) rfl
  rw [shortArrayText, if_neg apart, if_pos]
  rw [any_arrayLiterals_iff strict]
  exact ⟨index, pair, literal, by simp [here]⟩

theorem shortArrayText_of_closer
    (literal : IsArrayLiteral ((settle scanned).map Lexeme.kind) index pair)
    (here : token.index = pair.closer) :
    (ofLexemes (settle scanned)).shortArrayText token = "]" := by
  have apart := not_head_of_kind strict token (here ▸ literal.closes) (by decide) rfl
  rw [shortArrayText, if_neg apart, if_neg, if_pos]
  · rw [any_arrayLiterals_iff strict]
    exact ⟨index, pair, literal, by simp [here]⟩
  · rw [any_arrayLiterals_iff strict]
    rintro ⟨other, otherPair, otherLiteral, same⟩
    rw [decide_eq_true_eq, here] at same
    have opens := otherLiteral.opens
    rw [same, literal.closes] at opens
    cases opens

theorem shortArrayText_of_free
    (free : ∀ index pair, IsArrayLiteral ((settle scanned).map Lexeme.kind) index pair →
      ¬(index ≤ token.index ∧ token.index ≤ pair.opener) ∧ pair.closer ≠ token.index) :
    (ofLexemes (settle scanned)).shortArrayText token = token.content := by
  rw [shortArrayText, if_neg, if_neg, if_neg]
  · rw [any_arrayLiterals_iff strict]
    rintro ⟨index, pair, literal, same⟩
    exact (free index pair literal).2 (of_decide_eq_true same)
  · rw [any_arrayLiterals_iff strict]
    rintro ⟨index, pair, literal, same⟩
    have same : pair.opener = token.index := of_decide_eq_true same
    have after := literal.after
    exact (free index pair literal).1 (by omega)
  · rw [any_arrayLiterals_iff strict]
    rintro ⟨index, pair, literal, within⟩
    simp only [Bool.and_eq_true, decide_eq_true_eq] at within
    exact (free index pair literal).1 (by omega)

/-- The head of a literal leaves no text. -/
theorem shortSpelled_head
    (literal : IsArrayLiteral ((settle scanned).map Lexeme.kind) index pair) (count : Nat)
    (within : index + count ≤ pair.opener) :
    (ofLexemes (settle scanned)).shortSpelled (index + count) =
      (ofLexemes (settle scanned)).shortSpelled index := by
  induction count with
  | zero => rfl
  | succ count ih =>
      have opener_lt := literal.opener_lt
      rw [← size_ofLexemes] at opener_lt
      have inside : index + count < (ofLexemes (settle scanned)).size := by omega
      rcases exists_token?_of_lt inside with ⟨token, here⟩
      have index_eq := (bounded_ofLexemes _).index_eq here
      have empty : (ofLexemes (settle scanned)).shortArrayText token = "" :=
        shortArrayText_of_head strict literal (by omega) (by omega)
      rw [← ih (by omega), shortSpelled_eq here, empty]
      rfl

end TokenStream

namespace ShortenedFrom

/-- At the word of a literal, its head is exchanged for an opening bracket. -/
theorem literal (literal : IsArrayLiteral ((settle scanned).map Lexeme.kind) index pair)
    (rest : ShortenedFrom scanned (pair.opener + 1)) : ShortenedFrom scanned index := by
  have after := literal.after
  have listed := (mem_arrayLiterals_settle_iff strict).mpr literal
  rcases rest with ⟨new, rest, spelled_eq⟩
  rw [awaited_opener_succ literal.member, closingFor_of_literal listed,
    literal.awaited_opener] at rest
  have kind_at : ∀ {place : Nat} {kind : TokenKind},
      ((settle scanned).map Lexeme.kind)[place]? = some kind →
        ∃ lexeme, scanned[place]? = some lexeme ∧
          settledKind lexeme.kind (scanned.drop (place + 1)) = kind := by
    intro place kind found
    rw [kind?_settle, Option.map_eq_some_iff] at found
    exact found
  rcases kind_at literal.word with ⟨array, array_at, settled⟩
  rcases kind_at literal.opens with ⟨opener, opener_at, opens⟩
  have opener_kind : opener.kind = .openParenthesis :=
    (settledKind_of_sign (by rw [opens, signOf?])).symm.trans opens
  rcases List.getElem?_eq_some_iff.mp array_at with ⟨array_lt, array_eq⟩
  rcases List.getElem?_eq_some_iff.mp opener_at with ⟨opener_lt, opener_eq⟩
  have split := List.take_append_drop (pair.opener - (index + 1)) (scanned.drop (index + 1))
  rw [List.drop_drop, Nat.add_sub_cancel' after, List.drop_eq_getElem_cons opener_lt,
    opener_eq] at split
  refine ⟨['['] :: new, ?_, ?_⟩
  · rw [List.drop_eq_getElem_cons array_lt, array_eq, ← split]
    refine .literal (settledKind_eq_kwArray_iff.mp settled).1 ?_ opener_kind rest
    intro lexeme member
    rcases List.mem_iff_getElem?.mp member with ⟨offset, lexeme_at⟩
    have before : offset < pair.opener - (index + 1) := by
      have inside := (List.getElem?_eq_some_iff.mp lexeme_at).1
      rw [List.length_take] at inside
      omega
    rw [List.getElem?_take_of_lt before, List.getElem?_drop] at lexeme_at
    have found := kind?_settle scanned (index + 1 + offset)
    rw [lexeme_at, Option.map_some] at found
    have trivia := literal.blank _ _ (by omega) (by omega) found
    rwa [isTrivia_settledKind] at trivia
  · rcases TokenStream.exists_token_settle opener_at with ⟨token, here, index_eq, -⟩
    have head := TokenStream.shortSpelled_head strict literal (pair.opener - index) (by omega)
    rw [Nat.add_sub_cancel' (Nat.le_of_lt after)] at head
    rw [← head, TokenStream.shortSpelled_eq here,
      TokenStream.shortArrayText_of_opener strict literal index_eq, ← spelled_eq]
    rfl

/-- The closing parenthesis of a literal is exchanged for a closing bracket. -/
theorem close (literal : IsArrayLiteral ((settle scanned).map Lexeme.kind) index pair)
    (rest : ShortenedFrom scanned (pair.closer + 1)) : ShortenedFrom scanned pair.closer := by
  have listed := (mem_arrayLiterals_settle_iff strict).mpr literal
  rcases rest with ⟨new, rest, spelled_eq⟩
  have found := literal.closes
  rw [kind?_settle, Option.map_eq_some_iff] at found
  rcases found with ⟨closer, closer_at, closes⟩
  have closer_kind : closer.kind = .closeParenthesis :=
    (settledKind_of_sign (by rw [closes, signOf?])).symm.trans closes
  rcases List.getElem?_eq_some_iff.mp closer_at with ⟨closer_lt, closer_eq⟩
  refine ⟨[']'] :: new, ?_, ?_⟩
  · rw [awaited_closer literal.member, closingFor_of_literal listed,
      List.drop_eq_getElem_cons closer_lt, closer_eq]
    exact .close closer_kind rest
  · rcases TokenStream.exists_token_settle closer_at with ⟨token, here, index_eq, -⟩
    rw [TokenStream.shortSpelled_eq here,
      TokenStream.shortArrayText_of_closer strict literal index_eq, ← spelled_eq]
    rfl

/-- A token that belongs to no end of a literal is kept. -/
theorem keep (inside : index < scanned.length)
    (apart : ((settle scanned).map Lexeme.kind)[index]? = some .heredoc →
      ((settle scanned).map Lexeme.kind)[index + 1]? ≠ some .kwArray)
    (free : ∀ other pair, IsArrayLiteral ((settle scanned).map Lexeme.kind) other pair →
      ¬(other ≤ index ∧ index ≤ pair.opener) ∧ pair.closer ≠ index)
    (rest : ShortenedFrom scanned (index + 1)) : ShortenedFrom scanned index := by
  rcases rest with ⟨new, rest, spelled_eq⟩
  have lexeme_at : scanned[index]? = some scanned[index] := List.getElem?_eq_getElem inside
  have found := kind?_settle scanned index
  rw [lexeme_at, Option.map_some] at found
  rcases TokenStream.exists_token_settle lexeme_at with ⟨token, here, index_eq, content_eq⟩
  refine ⟨scanned[index].content.toList :: new, ?_, ?_⟩
  · rw [List.drop_eq_getElem_cons inside]
    refine .keep ?_ ?_ ?_ rest
    · intro word
      rw [word] at found
      rcases exists_arrayLiteral strict found with ⟨pair, literal⟩
      exact (free index pair literal).1 ⟨Nat.le_refl _, Nat.le_of_lt literal.after⟩
    · intro heredoc next next_at word
      rw [heredoc] at found
      refine apart found ?_
      rw [Option.mem_def, List.head?_eq_getElem?, getElem?_settle, List.getElem?_drop,
        Option.map_eq_some_iff] at next_at
      rcases next_at with ⟨following, following_at, rfl⟩
      rw [List.drop_drop] at word
      rw [kind?_settle, following_at, Option.map_some]
      exact congrArg some word
    · rw [← signOf?_settledKind]
      refine passSign_awaited strict found ?_
      · rintro ⟨other, pair⟩ listed
        have literal := (mem_arrayLiterals_settle_iff strict).mp listed
        have apart := free other pair literal
        have after := literal.after
        refine ⟨fun same => ?_, apart.2⟩
        have same : pair.opener = index := same
        exact apart.1 (by omega)
  · rw [TokenStream.shortSpelled_eq here,
      TokenStream.shortArrayText_of_free strict (index_eq ▸ free), content_eq, ← spelled_eq]
    rfl

end ShortenedFrom

/-- From every token that stands in no head of a literal, the lexemes are shortened to the text. -/
theorem shortenedFrom
    (apart : ∀ index, ((settle scanned).map Lexeme.kind)[index]? = some .heredoc →
      ((settle scanned).map Lexeme.kind)[index + 1]? ≠ some .kwArray)
    (within : index ≤ scanned.length)
    (outside : ∀ other pair, IsArrayLiteral ((settle scanned).map Lexeme.kind) other pair →
      ¬(other < index ∧ index ≤ pair.opener)) : ShortenedFrom scanned index := by
  induction left : scanned.length - index using Nat.strong_induction_on generalizing index with
  | _ left ih =>
      rcases Nat.eq_or_lt_of_le within with rfl | inside
      · exact .atEnd scanned
      by_cases word : ((settle scanned).map Lexeme.kind)[index]? = some .kwArray
      · rcases exists_arrayLiteral strict word with ⟨pair, literal⟩
        have after := literal.after
        have opener_lt := literal.opener_lt
        rw [length_settle] at opener_lt
        refine .literal strict literal (ih _ (by omega) opener_lt ?_ rfl)
        rintro other otherPair otherLiteral ⟨before, behind⟩
        rcases Nat.lt_trichotomy index other with later | rfl | earlier
        · have apart := literal.opener_lt_of_lt otherLiteral later
          omega
        · rw [literal.pair_eq otherLiteral rfl] at behind
          omega
        · have apart := otherLiteral.opener_lt_of_lt literal earlier
          omega
      have rest : ShortenedFrom scanned (index + 1) := by
        refine ih _ (by omega) inside ?_ rfl
        rintro other pair literal ⟨before, behind⟩
        rcases Nat.eq_or_lt_of_le (Nat.le_of_lt_succ before) with rfl | earlier
        · exact word literal.word
        · exact outside other pair literal ⟨earlier, by omega⟩
      by_cases closer : ∃ other pair,
        IsArrayLiteral ((settle scanned).map Lexeme.kind) other pair ∧ pair.closer = index
      · rcases closer with ⟨other, pair, literal, rfl⟩
        exact .close strict literal rest
      · refine .keep strict inside (apart index) ?_ rest
        intro other pair literal
        refine ⟨?_, fun same => closer ⟨other, pair, literal, same⟩⟩
        rintro ⟨from_word, to_opener⟩
        rcases Nat.eq_or_lt_of_le from_word with rfl | earlier
        · exact word literal.word
        · exact outside other pair literal ⟨earlier, to_opener⟩

end Shortening

namespace TokenStream

/-- The stream of a source whose brackets all match comes from a scan. -/
theorem exists_settle_of_tokenize {source : String} {stream : TokenStream}
    (read : tokenize source = .ok stream) :
    ∃ scanned, stream = ofLexemes (settle scanned) ∧ lex source = .ok (settle scanned) ∧
      Strict ((settle scanned).map Lexeme.kind) ∧ Scans .start scanned := by
  rcases exists_lex_of_tokenize read with ⟨lexemes, lexed, rfl⟩
  rcases exists_readsKinds_of_lex lexed with ⟨scanned, rfl, reads⟩
  refine ⟨scanned, rfl, lexed, ?_, ?_⟩
  · rcases strict_of_tokenize read with ⟨others, same, strict⟩
    rwa [← map_lexeme_ofLexemes others, ← same, map_lexeme_ofLexemes] at strict
  · have contents_eq : ((settle scanned).map fun lexeme => lexeme.content.toList) =
        scanned.map fun lexeme => lexeme.content.toList := by
      have texts_eq := congrArg (List.map String.toList) (map_content_settle scanned)
      rwa [List.map_map, List.map_map] at texts_eq
    rwa [contents_eq] at reads

/-- A source whose array literals stand behind no heredoc can be written with square brackets: the
text is read, all its brackets match, and no array literal is left. -/
theorem exists_tokenize_shortArrays {source : String} {stream : TokenStream}
    (read : tokenize source = .ok stream)
    (apart : ∀ index, stream.hasKind index .heredoc = true →
      stream.hasKind (index + 1) .kwArray = false) :
    ∃ after, tokenize (String.join (stream.tokens.toList.map stream.shortArrayText)) = .ok after ∧
      ∀ token ∈ after.tokens.toList, token.kind ≠ .kwArray := by
  rcases exists_settle_of_tokenize read with ⟨scanned, rfl, -, strict, scans⟩
  have kinds_apart : ∀ index, ((settle scanned).map Lexeme.kind)[index]? = some .heredoc →
      ((settle scanned).map Lexeme.kind)[index + 1]? ≠ some .kwArray := by
    intro index heredoc word
    have differs := apart index (by rw [hasKind, kind?_ofLexemes, heredoc]; rfl)
    rw [hasKind, kind?_ofLexemes, word] at differs
    cases differs
  rcases shortenedFrom strict kinds_apart (Nat.zero_le _) (fun _ _ _ => by omega) with
    ⟨new, short, spelled_eq⟩
  rw [awaited, level_zero] at short
  rcases short.exists_lex scans with ⟨found, again, -, complete, wordless⟩
  have text_eq : String.ofList new.flatten = String.join
      ((ofLexemes (settle scanned)).tokens.toList.map
        (ofLexemes (settle scanned)).shortArrayText) := by
    apply String.toList_inj.mp
    rw [String.toList_ofList, spelled_eq, shortSpelled, List.drop_zero]
    simp [List.flatMap_map]
  rw [text_eq] at again
  refine ⟨.ofLexemes found, tokenize_of_lex again complete, ?_⟩
  intro token member
  refine wordless token.lexeme ?_
  rw [← map_lexeme_ofLexemes found]
  exact List.mem_map_of_mem member

end TokenStream

end TokenLint
