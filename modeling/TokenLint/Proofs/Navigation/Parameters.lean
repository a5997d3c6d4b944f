import TokenLint.Proofs.Navigation.Arguments
import TokenLint.Proofs.Stream.Pieces

/-!
# Parentheses of functions and of array literals

Three decisions have to agree on the name of a function: whether it is read as a keyword, whether
the word `function` in front of it begins a closure, and where its parentheses are looked for. They
agree on names that follow the word `function` at once, since a keyword is read as a plain name
there. Behind the sign of a reference it is not, and a function whose name is spelled like a keyword
has no parentheses there.
-/

namespace TokenLint

open Lexer

namespace TokenStream

section Controls

variable (stream : TokenStream)

/-- Where the code from an index on begins, past the sign of a reference. -/
def pastReference? (start : Nat) : Option Nat :=
  (stream.nextCode? start).bind fun place =>
    if stream.hasKind place .bitwiseAnd then stream.nextCode? (place + 1) else some place

/-- The parentheses that the token at an index controls. -/
def parenthesisAt? (index : Nat) : Option BracketPair :=
  (stream.token? index).bind Token.parenthesis

/-- Whether a token controls the parentheses that are opened at an index. -/
def Controls (keyword opener : Nat) : Prop :=
  ∃ closer, stream.partner? opener = some closer ∧
    stream.parenthesisAt? keyword = some ⟨opener, closer⟩

/-- Whether the word `function` stands at an index, with or without a name behind it. -/
def IsFunction (index : Nat) : Prop :=
  stream.hasKind index .kwFunction = true ∨ stream.hasKind index .closure = true

end Controls

variable {scanned lexemes : List Lexeme} {index first start opener : Nat}

/-! ### Code behind an index -/

theorem nextCode?_ofLexemes (lexemes : List Lexeme) (start : Nat) :
    (ofLexemes lexemes).nextCode? start =
      nextCodeIndex? (lexemes.map Lexeme.kind).toArray start := by
  have accepts_eq : ∀ place, (ofLexemes lexemes).holdsAt (fun token => !token.isTrivia) place =
      (lexemes.map Lexeme.kind).toArray[place]?.any fun kind => !kind.isTrivia := by
    intro place
    rw [List.getElem?_toArray, ← kind?_ofLexemes, kind?, Option.any_map]
    rfl
  simp only [nextCode?, nextCodeBefore?, firstWith?, nextCodeIndex?, Nat.min_self,
    size_ofLexemes, funext accepts_eq, List.size_toArray, List.length_map]

/-- The parenthesis of a closure is looked for where the code behind it begins. -/
theorem parenthesisPlace?_of_closure
    (isClosure : (lexemes.map Lexeme.kind)[index]? = some .closure) :
    parenthesisPlace? (lexemes.map Lexeme.kind).toArray index =
      (ofLexemes lexemes).pastReference? (index + 1) := by
  have isReference_eq : ∀ place, TokenLint.hasKind (lexemes.map Lexeme.kind).toArray .bitwiseAnd
      place = (ofLexemes lexemes).hasKind place .bitwiseAnd := by
    intro place
    rw [TokenLint.hasKind, hasKind, kind?_ofLexemes, List.getElem?_toArray]
  simp only [parenthesisPlace?, List.getElem?_toArray, isClosure, pastReference?,
    nextCode?_ofLexemes, isReference_eq]

/-- From an index to the code that is found stand blanks and at most the sign of a reference. -/
theorem of_pastReference? (found : (ofLexemes lexemes).pastReference? start = some first) :
    start ≤ first ∧ ∀ between kind, start ≤ between → between < first →
      (lexemes.map Lexeme.kind)[between]? = some kind →
        kind.isTrivia = true ∨ kind = .bitwiseAnd := by
  have of_next : ∀ {start first}, (ofLexemes lexemes).nextCode? start = some first →
      start ≤ first ∧ ∀ between kind, start ≤ between → between < first →
        (lexemes.map Lexeme.kind)[between]? = some kind → kind.isTrivia = true := by
    intro start first next
    refine ⟨(nextCode?_bounds next).1, ?_⟩
    intro between kind lower upper here
    have trivia := isTrivia_before_nextCode? next lower upper
    rwa [kindIs, kind?_ofLexemes, here] at trivia
  rcases Option.bind_eq_some_iff.mp found with ⟨place, next, found⟩
  rcases of_next next with ⟨after, blank⟩
  split at found
  · rename_i isReference
    rcases of_next found with ⟨later, further⟩
    refine ⟨by omega, ?_⟩
    intro between kind lower upper here
    rcases Nat.lt_trichotomy between place with earlier | rfl | behind
    · exact .inl (blank between kind lower earlier here)
    · exact .inr (Option.some.inj (here.symm.trans (hasKind_ofLexemes.mp isReference)))
    · exact .inl (further between kind behind upper here)
  · cases found
    exact ⟨after, fun between kind lower upper here => .inl (blank between kind lower upper here)⟩

/-- The lexemes from an index on, cut at the first one that holds code. -/
theorem exists_of_nextCode? (next : (ofLexemes (settle scanned)).nextCode? start = some first) :
    ∃ blanks lexeme, scanned.drop start = blanks ++ lexeme :: scanned.drop (first + 1) ∧
      (∀ lexeme ∈ blanks, lexeme.kind.isTrivia = true) ∧ scanned[first]? = some lexeme ∧
      lexeme.kind.isTrivia = false := by
  rcases of_nextCodeBefore? (Nat.le_refl _) next with ⟨after, inside, blank, token, here, code⟩
  rw [size_ofLexemes, length_settle] at inside
  have lexeme_at : scanned[first]? = some scanned[first] := List.getElem?_eq_getElem inside
  refine ⟨(scanned.drop start).take (first - start), scanned[first], ?_, ?_, lexeme_at, ?_⟩
  · have parts := List.take_append_drop (first - start) (scanned.drop start)
    rw [List.drop_drop, Nat.add_sub_cancel' after, List.drop_eq_getElem_cons inside] at parts
    exact parts.symm
  · intro lexeme member
    rcases List.mem_iff_getElem?.mp member with ⟨offset, found⟩
    rw [List.getElem?_take, List.getElem?_drop] at found
    split at found
    · have trivia := blank (start + offset) (Nat.le_add_right _ _) (by omega)
      rwa [kindIs, kind?_ofLexemes, kind?_settle, found, Option.map_some, Option.any_some,
        isTrivia_settledKind] at trivia
    · cases found
  · have settled := kind_of_token? here
    rw [kind?_settle, lexeme_at, Option.map_some, Option.some.injEq] at settled
    rwa [← settled, isTrivia_settledKind] at code

/-! ### Kinds once it is known what follows -/

theorem dropWhile_isTrivia_append {blanks : List Lexeme} {next : Lexeme} {back : List Lexeme}
    (blank : ∀ lexeme ∈ blanks, lexeme.kind.isTrivia = true) (code : next.kind.isTrivia = false) :
    (blanks ++ next :: back).dropWhile (fun lexeme => lexeme.kind.isTrivia) = next :: back := by
  rw [List.dropWhile_append_of_pos blank, List.dropWhile_cons_of_neg (by simp [code])]

theorem find?_code_append {blanks : List Lexeme} {next : Lexeme} {back : List Lexeme}
    (blank : ∀ lexeme ∈ blanks, lexeme.kind.isTrivia = true) (code : next.kind.isTrivia = false) :
    (blanks ++ next :: back).find? (fun lexeme => !lexeme.kind.isTrivia) = some next := by
  rw [List.find?_append, List.find?_eq_none.mpr (by simpa using blank)]
  simp [code]

/-- The first code behind an index, past the sign of a reference, is the one that is found. -/
theorem firstCodeKind_of_pastReference? {lexeme : Lexeme}
    (found : (ofLexemes (settle scanned)).pastReference? start = some first)
    (here : scanned[first]? = some lexeme) :
    firstCodeKind (scanned.drop start) true = some lexeme.kind := by
  rcases Option.bind_eq_some_iff.mp found with ⟨place, next, found⟩
  rcases exists_of_nextCode? next with ⟨blanks, front, drop_eq, blank, front_at, code⟩
  have isReference_iff : (ofLexemes (settle scanned)).hasKind place .bitwiseAnd = true ↔
      front.kind = .bitwiseAnd := hasKind_settle_iff rfl front_at
  simp only [firstCodeKind, drop_eq, dropWhile_isTrivia_append blank code, Bool.true_and,
    decide_eq_true_eq]
  by_cases isReference : front.kind = .bitwiseAnd
  · rw [if_pos (isReference_iff.mpr isReference)] at found
    rcases exists_of_nextCode? found with ⟨blanks, other, drop_eq, blank, other_at, code⟩
    cases here.symm.trans other_at
    rw [if_pos isReference, drop_eq, find?_code_append blank code, Option.map_some]
  · rw [if_neg (mt isReference_iff.mp isReference), Option.some.injEq] at found
    subst found
    cases here.symm.trans front_at
    rw [if_neg isReference]

/-- The word `function` is read as a keyword, whatever it turns out to begin. -/
theorem exists_function (scans : Scans .start scanned)
    (isFunction : (ofLexemes (settle scanned)).IsFunction index) :
    ∃ lexeme, scanned.drop index = lexeme :: scanned.drop (index + 1) ∧
      lexeme.kind = .kwFunction ∧ (ofLexemes (settle scanned)).kind? index =
        some (settledKind .kwFunction (scanned.drop (index + 1))) := by
  have settled : ∃ lexeme, scanned[index]? = some lexeme ∧
      (settledKind lexeme.kind (scanned.drop (index + 1)) = .kwFunction ∨
        settledKind lexeme.kind (scanned.drop (index + 1)) = .closure) := by
    simpa only [IsFunction, hasKind_ofLexemes, kind?_settle, Option.map_eq_some_iff,
      ← exists_or, ← and_or_left] using isFunction
  rcases settled with ⟨lexeme, here, settled⟩
  rcases List.getElem?_eq_some_iff.mp here with ⟨inside, rfl⟩
  have drop_eq := List.drop_eq_getElem_cons inside
  have listed : scanned[index].kind ∈
      shapeKinds ++ .identifier :: keywords.map Prod.snd ++ operatorKinds := by
    rw [← List.take_append_drop index scanned, drop_eq] at scans
    rcases scans.of_append with ⟨before, later⟩
    exact later.origin.kind_mem
  have kind_eq : scanned[index].kind = .kwFunction := by
    have unread : TokenKind.closure ∉
      shapeKinds ++ .identifier :: keywords.map Prod.snd ++ operatorKinds := by decide
    generalize scanned[index].kind = kind at settled listed
    simp only [settledKind] at settled
    split at settled
    · rfl
    · split at settled <;> simp at settled
    · rcases settled with rfl | rfl
      · rfl
      · exact absurd listed unread
  exact ⟨scanned[index], drop_eq, kind_eq, by rw [kind?_ofLexemes, kind?_settle, here,
    Option.map_some, kind_eq]⟩

/-! ### Parentheses that are controlled -/

theorem parenthesisAt?_ofLexemes (lexemes : List Lexeme) (index : Nat) :
    (ofLexemes lexemes).parenthesisAt? index = ownedParenthesis? (lexemes.map Lexeme.kind).toArray
      (.ofKinds (lexemes.map Lexeme.kind)) index := by
  cases found : (ofLexemes lexemes).token? index with
  | some token => rw [parenthesisAt?, found, Option.bind_some, parenthesis_ofLexemes found]
  | none =>
      have missing : (lexemes.map Lexeme.kind)[index]? = none := by
        rw [← kind?_ofLexemes, kind?, found, Option.map_none]
      simp [parenthesisAt?, found, ownedParenthesis?, missing]

theorem controls_of_parenthesisAt? {pair : BracketPair}
    (owned : (ofLexemes lexemes).parenthesisAt? index = some pair) :
    (ofLexemes lexemes).Controls index pair.opener := by
  refine ⟨pair.closer, ?_, owned⟩
  rw [parenthesisAt?_ofLexemes] at owned
  rw [partner?_ofLexemes, PartnerTable.partner?_ofKinds]
  exact .inl (of_ownedParenthesis? owned).2.2

/-- A keyword controls the parenthesis that stands where its parenthesis is looked for. -/
theorem controls_of_place {kind : TokenKind} (strict : Strict (lexemes.map Lexeme.kind))
    (found : (lexemes.map Lexeme.kind)[index]? = some kind)
    (isOwner : kind.isParenthesisOwner = true)
    (place : parenthesisPlace? (lexemes.map Lexeme.kind).toArray index = some opener)
    (opens : (lexemes.map Lexeme.kind)[opener]? = some .openParenthesis) :
    (ofLexemes lexemes).Controls index opener := by
  rcases exists_ownedParenthesis? strict isOwner found place opens with ⟨closer, owned⟩
  rw [← parenthesisAt?_ofLexemes] at owned
  exact controls_of_parenthesisAt? owned

/-- No two tokens control the same parentheses: between a keyword and its parenthesis stands no
other keyword that controls one. -/
theorem eq_of_parenthesisAt? {other : Nat} {pair : BracketPair}
    (owned : (ofLexemes lexemes).parenthesisAt? index = some pair)
    (ownedToo : (ofLexemes lexemes).parenthesisAt? other = some pair) : index = other := by
  rw [parenthesisAt?_ofLexemes] at owned ownedToo
  have not_lt : ∀ {index other : Nat}, ownedParenthesis? (lexemes.map Lexeme.kind).toArray
        (.ofKinds (lexemes.map Lexeme.kind)) index = some pair →
      ownedParenthesis? (lexemes.map Lexeme.kind).toArray
        (.ofKinds (lexemes.map Lexeme.kind)) other = some pair → ¬index < other := by
    intro index other owned ownedToo before
    rcases exists_owner_of_ownedParenthesis? ownedToo with ⟨kind, here, isOwner⟩
    rcases of_parenthesisPlace? (of_ownedParenthesis? owned).1 with ⟨-, passes⟩
    have inside := (of_parenthesisPlace? (of_ownedParenthesis? ownedToo).1).1
    rcases passes other kind before inside here with trivia | rfl | ⟨rfl, -⟩
    · rw [isTrivia_of_isParenthesisOwner isOwner] at trivia
      cases trivia
    · cases isOwner
    · cases isOwner
  exact Nat.le_antisymm (Nat.le_of_not_lt (not_lt ownedToo owned))
    (Nat.le_of_not_lt (not_lt owned ownedToo))

/-! ### Closures, functions and array literals -/

theorem of_isWord {kind : TokenKind} (word : isWord kind = true) :
    kind.isTrivia = false ∧ kind ≠ .bitwiseAnd ∧ kind ≠ .openParenthesis := by
  cases kind <;>
    first | exact ⟨rfl, by decide, by decide⟩ | exact absurd word (by decide)

theorem not_isSettled_of_isWord {kind : TokenKind} {following : List Lexeme}
    (word : isWord (settledKind kind following) = true)
    (listed : kind ∈ shapeKinds ++ .identifier :: keywords.map Prod.snd ++ operatorKinds)
    (plain : kind ∉ keywords.map Prod.snd) : kind = .identifier := by
  have settled_eq : settledKind kind following = kind := by
    simp only [settledKind]
    split
    · exact absurd (by decide) plain
    · exact absurd (by decide) plain
    · rfl
  rw [settled_eq] at word
  have named : ∀ kind ∈ shapeKinds ++ .identifier :: keywords.map Prod.snd ++ operatorKinds,
      isWord kind = true → kind ∉ keywords.map Prod.snd → kind = .identifier := by
    decide +kernel
  exact named kind listed word plain

section Source

variable (scans : Scans .start scanned) (strict : Strict ((settle scanned).map Lexeme.kind))
  (isFunction : (ofLexemes (settle scanned)).IsFunction index)

include scans isFunction

/-- A word directly behind the word `function` is a plain name. -/
theorem identifier_of_next (next : (ofLexemes (settle scanned)).nextCode? (index + 1) = some first)
    (word : (ofLexemes (settle scanned)).kindIs first isWord = true) :
    (ofLexemes (settle scanned)).hasKind first .identifier = true := by
  rcases exists_function scans isFunction with ⟨keyword, keyword_at, isKeyword, -⟩
  rcases exists_of_nextCode? next with ⟨blanks, lexeme, drop_eq, blank, here, code⟩
  rw [hasKind_settle_iff rfl here]
  rw [kindIs, kind?_ofLexemes, kind?_settle, here, Option.map_some, Option.any_some] at word
  rw [← List.take_append_drop index scanned, keyword_at, drop_eq] at scans
  have plain := scans.not_keyword (by rw [isKeyword]; rfl) blank
  rcases scans.of_append with ⟨before, scans⟩
  rcases scans.cons_inv with ⟨move, -, -, -, scans⟩
  rcases scans.of_append with ⟨after, scans⟩
  exact not_isSettled_of_isWord word scans.origin.kind_mem plain

include strict

/-- A word `function` in front of a parenthesis is a closure that controls it. -/
theorem closure_of_parameters
    (found : (ofLexemes (settle scanned)).pastReference? (index + 1) = some first)
    (opens : (ofLexemes (settle scanned)).hasKind first .openParenthesis = true) :
    (ofLexemes (settle scanned)).hasKind index .closure = true ∧
      (ofLexemes (settle scanned)).Controls index first := by
  rcases exists_function scans isFunction with ⟨-, -, -, kind_eq⟩
  have opens_at := hasKind_ofLexemes.mp opens
  rw [kind?_settle, Option.map_eq_some_iff] at opens_at
  rcases opens_at with ⟨lexeme, here, -⟩
  have first_eq := firstCodeKind_of_pastReference? found here
  rw [(hasKind_settle_iff rfl here).mp opens] at first_eq
  have isClosure : ((settle scanned).map Lexeme.kind)[index]? = some .closure := by
    rw [← kind?_ofLexemes, kind_eq, settledKind, if_pos first_eq]
  refine ⟨hasKind_ofLexemes.mpr isClosure, ?_⟩
  apply controls_of_place strict isClosure rfl _ (hasKind_ofLexemes.mp opens)
  rw [parenthesisPlace?_of_closure isClosure, found]

omit strict in
/-- A word `function` in front of a name is no closure. -/
theorem declares_of_name
    (found : (ofLexemes (settle scanned)).pastReference? (index + 1) = some first)
    (word : (ofLexemes (settle scanned)).kindIs first isWord = true) :
    ((settle scanned).map Lexeme.kind)[index]? = some .kwFunction := by
  rcases exists_function scans isFunction with ⟨-, -, -, kind_eq⟩
  rcases (Option.any_eq_true _ _).mp word with ⟨kind, first_at, named⟩
  rcases of_isWord named with ⟨-, -, notOpener⟩
  rw [kind?_ofLexemes, kind?_settle, Option.map_eq_some_iff] at first_at
  rcases first_at with ⟨lexeme, here, settled_eq⟩
  have notClosure : firstCodeKind (scanned.drop (index + 1)) true ≠ some .openParenthesis := by
    rw [firstCodeKind_of_pastReference? found here]
    intro opens_first
    rw [Option.some.inj opens_first] at settled_eq
    exact notOpener settled_eq.symm
  rw [← kind?_ofLexemes, kind_eq, settledKind, if_neg notClosure]

/-- It controls the parenthesis behind the name. -/
theorem controls_of_name
    (found : (ofLexemes (settle scanned)).pastReference? (index + 1) = some first)
    (isName : (ofLexemes (settle scanned)).hasKind first .identifier = true)
    (next : (ofLexemes (settle scanned)).nextCode? (first + 1) = some opener)
    (opens : (ofLexemes (settle scanned)).hasKind opener .openParenthesis = true) :
    (ofLexemes (settle scanned)).Controls index opener := by
  rcases of_pastReference? found with ⟨after, between_plain⟩
  have first_at := hasKind_ofLexemes.mp isName
  have opens_at := hasKind_ofLexemes.mp opens
  have later := (nextCode?_bounds next).1
  have isDeclared := declares_of_name scans isFunction found
    (by rw [kindIs, kind?_ofLexemes, first_at]; rfl)
  refine controls_of_place strict isDeclared rfl ?_ opens_at
  apply parenthesisPlace?_of_function isDeclared (by omega) opens_at (by decide)
  intro between other lower upper between_at
  rcases Nat.lt_trichotomy between first with earlier | rfl | behind
  · rcases between_plain between other lower earlier between_at with trivia | isReference
    · exact .inl trivia
    · exact .inr (.inl isReference)
  · cases first_at.symm.trans between_at
    exact .inr (.inr rfl)
  · have trivia := isTrivia_before_nextCode? next behind upper
    rw [kindIs, kind?_ofLexemes, between_at] at trivia
    exact .inl trivia

omit strict in
/-- It controls nothing where the name is a reserved word. -/
theorem parenthesisAt?_of_reserved
    (found : (ofLexemes (settle scanned)).pastReference? (index + 1) = some first)
    (word : (ofLexemes (settle scanned)).kindIs first isWord = true)
    (isReserved : (ofLexemes (settle scanned)).hasKind first .identifier = false) :
    (ofLexemes (settle scanned)).parenthesisAt? index = none := by
  rcases of_pastReference? found with ⟨after, between_plain⟩
  rcases (Option.any_eq_true _ _).mp word with ⟨kind, first_at, named⟩
  rcases of_isWord named with ⟨code, notReference, notOpener⟩
  rw [kind?_ofLexemes] at first_at
  have notName : kind ≠ .identifier := by
    rintro rfl
    rw [hasKind_ofLexemes.mpr first_at] at isReserved
    cases isReserved
  have isDeclared := declares_of_name scans isFunction found word
  have place : parenthesisPlace? ((settle scanned).map Lexeme.kind).toArray index = some first := by
    apply parenthesisPlace?_of_function isDeclared after first_at
    · simp [code, notReference, notName]
    · intro between other lower upper between_at
      rcases between_plain between other lower upper between_at with trivia | isReference
      · exact .inl trivia
      · exact .inr (.inl isReference)
  cases owned : (ofLexemes (settle scanned)).parenthesisAt? index with
  | none => rfl
  | some pair =>
      rw [parenthesisAt?_ofLexemes] at owned
      rcases of_ownedParenthesis? owned with ⟨place_eq, opens_at, -⟩
      rw [← Option.some.inj (place.symm.trans place_eq), first_at] at opens_at
      exact absurd (Option.some.inj opens_at) notOpener

omit scans isFunction in
/-- The word of an array literal controls the parenthesis behind it. -/
theorem controls_of_array
    (isArray : (ofLexemes (settle scanned)).hasKind index .kwArray = true) :
    ∃ opener, (ofLexemes (settle scanned)).nextCode? (index + 1) = some opener ∧
      (ofLexemes (settle scanned)).hasKind opener .openParenthesis = true ∧
      (ofLexemes (settle scanned)).Controls index opener := by
  rcases exists_arrayLiteral strict (hasKind_ofLexemes.mp isArray) with ⟨pair, literal⟩
  have found := literal.arrayLiteral?_eq
  rw [arrayLiteral?, if_pos isArray] at found
  rcases Option.bind_eq_some_iff.mp found with ⟨opener, next, matched⟩
  rcases Option.map_eq_some_iff.mp matched with ⟨closer, matched, rfl⟩
  refine ⟨opener, next, hasKind_ofLexemes.mpr literal.opens, ?_⟩
  rcases exists_token?_of_lt (lt_size_of_hasKind isArray) with ⟨token, here⟩
  have owned : (ofLexemes (settle scanned)).parenthesisAt? index = some ⟨opener, closer⟩ := by
    rw [parenthesisAt?, here, Option.bind_some, literal.parenthesis_eq strict here]
  exact controls_of_parenthesisAt? owned

end Source

/-- A word `function` in front of a parenthesis is a closure that controls it, and one in front of a
name and a parenthesis is none. It controls that parenthesis exactly if the name is not read as a
reserved word, which it never is directly behind the word `function`. The word of an array literal
controls the parenthesis behind it, and no two tokens control the same one. -/
theorem parentheses_of_declared {source : String} {stream : TokenStream}
    (read : tokenize source = .ok stream) :
    (∀ index first, stream.IsFunction index → stream.pastReference? (index + 1) = some first →
      (stream.hasKind first .openParenthesis = true →
        stream.hasKind index .closure = true ∧ stream.Controls index first) ∧
      (∀ opener, stream.kindIs first isWord = true → stream.nextCode? (first + 1) = some opener →
        stream.hasKind opener .openParenthesis = true →
          stream.hasKind index .kwFunction = true ∧
          (stream.Controls index opener ↔ stream.hasKind first .identifier = true) ∧
          (stream.hasKind first .identifier = false → stream.parenthesisAt? index = none) ∧
          (stream.nextCode? (index + 1) = some first →
            stream.hasKind first .identifier = true))) ∧
    (∀ index, stream.hasKind index .kwArray = true →
      ∃ opener, stream.nextCode? (index + 1) = some opener ∧
        stream.hasKind opener .openParenthesis = true ∧ stream.Controls index opener) ∧
    ∀ index other pair, stream.parenthesisAt? index = some pair →
      stream.parenthesisAt? other = some pair → index = other := by
  rcases exists_settle_of_tokenize read with ⟨scanned, rfl, -, strict, scans⟩
  refine ⟨?_, fun index => controls_of_array strict, fun _ _ _ => eq_of_parenthesisAt?⟩
  intro index first isFunction found
  refine ⟨closure_of_parameters scans strict isFunction found, ?_⟩
  intro opener word next opens
  have reserved := parenthesisAt?_of_reserved scans isFunction found word
  refine ⟨hasKind_ofLexemes.mpr (declares_of_name scans isFunction found word), ⟨?_, ?_⟩, reserved,
    ?_⟩
  · rintro ⟨closer, -, owned⟩
    by_contra notName
    rw [reserved (Bool.eq_false_iff.mpr notName)] at owned
    cases owned
  · intro isName
    exact controls_of_name scans strict isFunction found isName next opens
  · intro direct
    exact identifier_of_next scans isFunction direct word

/-- A function and a closure that return references, and an array literal around the closure. -/
theorem parentheses_of_declared_references :
    ∃ stream, tokenize "<?php function &f() \x7b\x7d array(function &() \x7b\x7d);" = .ok stream ∧
      stream.hasKind 1 .kwFunction = true ∧ stream.Controls 1 5 ∧
      stream.hasKind 13 .closure = true ∧ stream.Controls 13 16 ∧ stream.Controls 11 12 ∧
      ∀ index, stream.parenthesisAt? index = stream.parenthesisAt? 1 → index = 1 := by
  have outcome : Option.map
      (fun stream => ([stream.hasKind 1 .kwFunction, stream.hasKind 4 .identifier,
          stream.kindIs 4 isWord, stream.hasKind 5 .openParenthesis, stream.hasKind 13 .closure,
          stream.hasKind 16 .openParenthesis, stream.hasKind 11 .kwArray],
        [stream.pastReference? 2, stream.nextCode? 5, stream.pastReference? 14,
          stream.nextCode? 12]))
      (tokenize "<?php function &f() \x7b\x7d array(function &() \x7b\x7d);").toOption =
      some ([true, true, true, true, true, true, true], [some 4, some 5, some 16, some 12]) := by
    decide +kernel
  rcases exists_tokenize_of_map_toOption outcome with ⟨stream, read, seen⟩
  simp only [Prod.mk.injEq, List.cons.injEq, and_true] at seen
  rcases seen with ⟨⟨isFunction, isName, word, opens, isClosure, opensClosure, isArray⟩,
    past, next, pastClosure, nextArray⟩
  rcases parentheses_of_declared read with ⟨functions, arrays, apart⟩
  rcases (functions 1 4 (.inl isFunction) past).2 5 word next opens with ⟨-, controls_iff, -⟩
  have controls := controls_iff.mpr isName
  have closure := (functions 13 16 (.inr isClosure) pastClosure).1 opensClosure
  rcases arrays 11 isArray with ⟨opener, found, -, array⟩
  cases nextArray.symm.trans found
  refine ⟨stream, read, isFunction, controls, isClosure, closure.2, array, ?_⟩
  intro index same
  rcases controls with ⟨closer, -, owned⟩
  exact apart index 1 _ (same.trans owned) owned

/-- A method that returns a reference and whose name is a reserved word has no parentheses: they
belong to the name. -/
theorem not_controls_reserved_reference :
    ∃ stream, tokenize "<?php class A \x7b function &list() \x7b\x7d \x7d" = .ok stream ∧
      stream.hasKind 7 .kwFunction = true ∧ stream.pastReference? 8 = some 10 ∧
      stream.contentAt 10 = "list" ∧ stream.kindIs 10 isWord = true ∧
      stream.nextCode? 11 = some 11 ∧ stream.hasKind 11 .openParenthesis = true ∧
      ¬stream.Controls 7 11 ∧ stream.Controls 10 11 := by
  have outcome : (tokenize "<?php class A \x7b function &list() \x7b\x7d \x7d").toOption.map
      (fun stream => ([stream.hasKind 7 .kwFunction, stream.kindIs 10 isWord,
          stream.hasKind 11 .openParenthesis],
        [stream.pastReference? 8, stream.nextCode? 11, stream.partner? 11], stream.contentAt 10,
        [7, 10].map stream.parenthesisAt?)) =
      some ([true, true, true], [some 10, some 11, some 12], "list", [none, some ⟨11, 12⟩]) := by
    decide +kernel
  rcases exists_tokenize_of_map_toOption outcome with ⟨stream, read, seen⟩
  simp only [Prod.mk.injEq, List.map_cons, List.map_nil, List.cons.injEq, and_true] at seen
  rcases seen with ⟨⟨isFunction, word, opens⟩, ⟨past, next, matched⟩, content_eq, unowned, owned⟩
  refine ⟨stream, read, isFunction, past, content_eq, word, next, opens, ?_, 12, matched, owned⟩
  rintro ⟨closer, -, controls⟩
  rw [unowned] at controls
  cases controls

end TokenStream

end TokenLint
