import TokenLint.Lexer.Vocabulary
import TokenLint.Proofs.Navigation.Ternary
import TokenLint.Proofs.Stream.Parentheses

/-!
# Names of called functions

Whether a name in front of a parenthesis calls a global function is decided by the one or two code
tokens in front of the name. They tell members from functions, but not all that is declared,
instantiated or qualified: a `&` stands between the keyword and the name of a function that returns
a reference, a leading separator stands between `new` and the name of a class, and the last part of
a namespace may be a reserved word.
-/

namespace TokenLint.TokenStream

open Lexer

/-- Kinds of names and of reserved words. -/
def isWord (kind : TokenKind) : Bool :=
  kind = .identifier || kind = .closure || kind = .arrayHint ||
    keywords.any fun entry => entry.2 = kind

/-- Kinds of words that can be the first part of a name. -/
def beginsName (kind : TokenKind) : Bool := kind = .identifier || kind = .kwNamespace

/-- Kinds in front of the name of a method, a property or a static member. -/
def reachesMember : TokenKind → Bool
  | .objectOperator | .nullsafeOperator | .doubleColon => true
  | _ => false

/-- Kinds that may stand between the keyword `function` and its parameters. -/
def standsBeforeParameters (kind : TokenKind) : Bool :=
  kind.isTrivia || kind = .bitwiseAnd || kind = .identifier

section Names

variable (stream : TokenStream)

/-- Whether a keyword controls the parenthesis at an index. -/
def Owns (keyword opener : Nat) : Prop :=
  ((stream.token? keyword).bind Token.parenthesis).map BracketPair.opener = some opener

/-- Whether a name follows the keyword `function`, with nothing but references and other names
between them. -/
structure Declares (keyword name : Nat) : Prop where
  isFunction : stream.hasKind keyword .kwFunction = true
  before : keyword < name
  between : ∀ index, keyword < index → index < name →
    stream.kindIs index standsBeforeParameters = true

/-- Whether the code token in front of a name reaches for a member. -/
def IsMember (name : Nat) : Prop :=
  ∃ operator, stream.previousCode? name = some operator ∧
    stream.kindIs operator reachesMember = true

/-- Whether a namespace separator is the code token in front of a word. -/
def Joined (word : Nat) : Prop :=
  ∃ separator, stream.previousCode? word = some separator ∧
    stream.hasKind separator .namespaceSeparator = true

/-- Whether a namespace separator is the only code token between two others. -/
def Joins (last word : Nat) : Prop :=
  ∃ separator, stream.previousCode? word = some separator ∧
    stream.hasKind separator .namespaceSeparator = true ∧
      stream.previousCode? separator = some last

/-- Whether the code tokens from `first` to an index spell a name. Reserved words can be parts of a
name behind a separator only. -/
inductive Spells (first : Nat) : Nat → Prop
  | plain (begins : stream.kindIs first beginsName = true) : Spells first first
  | rooted {word : Nat} (isRoot : stream.hasKind first .namespaceSeparator = true)
      (next : stream.previousCode? word = some first)
      (named : stream.kindIs word isWord = true) : Spells first word
  | part {last word : Nat} (earlier : Spells first last) (joins : stream.Joins last word)
      (named : stream.kindIs word isWord = true) : Spells first word

/-- Whether a name is the last part of a longer one. -/
def Qualified (name : Nat) : Prop := ∃ first last, stream.Spells first last ∧ stream.Joins last name

/-- Whether a name is the last part of a longer one, and the part before it is a reserved word. -/
def FollowsReserved (name : Nat) : Prop :=
  ∃ word, stream.Joins word name ∧ stream.Joined word ∧ stream.kindIs word isWord = true ∧
    stream.kindIs word beginsName = false

/-- Whether a name, or a longer one that it is the last part of, follows the keyword `new`. -/
def Instantiated (name : Nat) : Prop :=
  ∃ keyword first, stream.hasKind keyword .kwNew = true ∧ ¬stream.Joined keyword ∧
    stream.previousCode? first = some keyword ∧ stream.Spells first name

/-- Whether nothing but a leading separator stands between the keyword `new` and a name. -/
def InstantiatesRoot (name : Nat) : Prop :=
  ∃ keyword, stream.hasKind keyword .kwNew = true ∧ stream.Joins keyword name

end Names

variable {stream : TokenStream} {index name opener keyword : Nat} {kind : TokenKind}

theorem kindIs_of_hasKind {inClass : TokenKind → Bool} (isKind : stream.hasKind index kind = true) :
    stream.kindIs index inClass = inClass kind := by
  simp only [hasKind, beq_iff_eq] at isKind
  simp [kindIs, isKind]

theorem isTrivia_before_nextCode? {start between : Nat} (next : stream.nextCode? start = some index)
    (after : start ≤ between) (before : between < index) :
    stream.kindIs between TokenKind.isTrivia = true := by
  rcases firstIndex?_eq_some next with ⟨-, inside, -, nearest⟩
  have within : between < stream.size := before.trans (inside.trans_le (Nat.min_le_right _ _))
  exact isTrivia_of_not_holdsAt within (nearest between after before)

theorem hidesFunction_of_reachesMember (reaches : stream.kindIs index reachesMember = true) :
    stream.kindIs index hidesFunction = true := by
  rcases (Option.any_eq_true _ _).mp reaches with ⟨kind, found, reaches⟩
  apply (Option.any_eq_true _ _).mpr
  refine ⟨kind, found, ?_⟩
  cases kind <;> first | rfl | cases reaches

theorem Joins.joined {last word : Nat} (joins : stream.Joins last word) : stream.Joined word := by
  rcases joins with ⟨separator, next, isSeparator, -⟩
  exact ⟨separator, next, isSeparator⟩

/-- The last part of a name can begin one itself, or it is a word behind a separator. -/
theorem Spells.last {first last : Nat} (spells : stream.Spells first last) :
    stream.kindIs last beginsName = true ∨
      stream.Joined last ∧ stream.kindIs last isWord = true := by
  cases spells with
  | plain begins => exact .inl begins
  | rooted isRoot next named => exact .inr ⟨⟨first, next, isRoot⟩, named⟩
  | part earlier joins named => exact .inr ⟨joins.joined, named⟩

theorem exists_spells_iff {last : Nat} :
    (∃ first, stream.Spells first last) ↔ stream.kindIs last beginsName = true ∨
      stream.Joined last ∧ stream.kindIs last isWord = true := by
  constructor
  · rintro ⟨first, spells⟩
    exact spells.last
  · rintro (begins | ⟨⟨separator, next, isSeparator⟩, named⟩)
    · exact ⟨last, .plain begins⟩
    · exact ⟨separator, .rooted isSeparator next named⟩

/-- The look at the token in front of the separator finds all qualified names but those behind a
reserved word. -/
theorem qualified_iff :
    stream.Qualified name ↔
      (∃ word, stream.Joins word name ∧ stream.kindIs word beginsName = true) ∨
        stream.FollowsReserved name := by
  constructor
  · rintro ⟨first, word, spells, joins⟩
    cases begins : stream.kindIs word beginsName with
    | true => exact .inl ⟨word, joins, begins⟩
    | false =>
        rcases spells.last with plain | ⟨joined, named⟩
        · rw [begins] at plain
          cases plain
        · exact .inr ⟨word, joins, joined, named, begins⟩
  · rintro (⟨word, joins, begins⟩ | ⟨word, joins, joined, named, -⟩)
    · exact ⟨word, word, .plain begins, joins⟩
    · rcases exists_spells_iff.mpr (.inr ⟨joined, named⟩) with ⟨first, spells⟩
      exact ⟨first, word, spells, joins⟩

theorem not_begins_of_callOpener? (found : stream.callOpener? name = some opener) {word : Nat}
    (joins : stream.Joins word name) : stream.kindIs word beginsName = false := by
  rcases joins with ⟨separator, next, isSeparator, joins⟩
  rcases (of_callOpener? found).2.2 with ⟨previous, before, -, unqualified⟩
  cases next.symm.trans before
  simp only [isSeparator, Bool.true_and, isQualified, joins, Option.any_some] at unqualified
  exact unqualified

/-- Among the names that are taken for functions, the classes of `new` are the rooted ones. -/
theorem instantiated_iff (isName : stream.hasKind name .identifier = true)
    (found : stream.callOpener? name = some opener) (whole : ¬stream.Qualified name) :
    stream.Instantiated name ↔ stream.InstantiatesRoot name := by
  constructor
  · rintro ⟨keyword, first, isNew, -, behind, spells⟩
    cases spells with
    | plain begins =>
        rcases (of_callOpener? found).2.2 with ⟨previous, before, visible, -⟩
        cases behind.symm.trans before
        rw [kindIs_of_hasKind isNew] at visible
        cases visible
    | rooted isRoot next named => exact ⟨keyword, isNew, first, next, isRoot, behind⟩
    | part earlier joins named => exact absurd ⟨first, _, earlier, joins⟩ whole
  · rintro ⟨keyword, isNew, joins⟩
    have apart : ¬stream.Joined keyword := by
      intro joined
      apply whole
      apply qualified_iff.mpr
      have named : stream.kindIs keyword isWord = true := by
        rw [kindIs_of_hasKind isNew]
        decide
      exact .inr ⟨keyword, joins, joined, named, not_begins_of_callOpener? found joins⟩
    rcases joins with ⟨separator, next, isSeparator, behind⟩
    have named : stream.kindIs name isWord = true := by
      rw [kindIs_of_hasKind isName]
      decide
    exact ⟨keyword, separator, isNew, apart, behind, .rooted isSeparator next named⟩

variable {lexemes : List Lexeme}

theorem owns_iff : (ofLexemes lexemes).Owns keyword opener ↔
    ∃ closer, ownedParenthesis? (lexemes.map Lexeme.kind).toArray
      (.ofKinds (lexemes.map Lexeme.kind)) keyword = some ⟨opener, closer⟩ := by
  constructor
  · intro owns
    rcases Option.map_eq_some_iff.mp owns with ⟨⟨_, closer⟩, owned, rfl⟩
    rcases Option.bind_eq_some_iff.mp owned with ⟨token, here, owned⟩
    rw [parenthesis_ofLexemes here] at owned
    exact ⟨closer, owned⟩
  · rintro ⟨closer, owned⟩
    have inside : keyword < (ofLexemes lexemes).size := by
      by_contra outside
      have missing : (lexemes.map Lexeme.kind)[keyword]? = none := by
        apply List.getElem?_eq_none
        rw [List.length_map, ← size_ofLexemes]
        exact Nat.le_of_not_lt outside
      simp [ownedParenthesis?, missing] at owned
    rcases exists_token?_of_lt inside with ⟨token, here⟩
    simp only [Owns, here, Option.bind_some, parenthesis_ofLexemes here, owned, Option.map_some]

/-- Among the keywords only a `function` in front of the name can control the parenthesis of a
call. -/
theorem owns_iff_declares (strict : Strict (lexemes.map Lexeme.kind))
    (isName : (lexemes.map Lexeme.kind)[name]? = some .identifier)
    (opens : (lexemes.map Lexeme.kind)[opener]? = some .openParenthesis) (before : name < opener)
    (blanks : ∀ between kind, name < between → between < opener →
      (lexemes.map Lexeme.kind)[between]? = some kind → kind.isTrivia = true) :
    (ofLexemes lexemes).Owns keyword opener ↔ (ofLexemes lexemes).Declares keyword name := by
  rw [owns_iff]
  constructor
  · rintro ⟨closer, owned⟩
    rcases of_parenthesisPlace? (of_ownedParenthesis? owned).1 with ⟨after, passes⟩
    rcases exists_owner_of_ownedParenthesis? owned with ⟨kind, found, isOwner⟩
    have keyword_lt : keyword < name := by
      rcases Nat.lt_trichotomy keyword name with earlier | rfl | later
      · exact earlier
      · cases found.symm.trans isName
        cases isOwner
      · have isTrivia := blanks keyword kind later after found
        rw [isTrivia_of_isParenthesisOwner isOwner] at isTrivia
        cases isTrivia
    have isFunction : (lexemes.map Lexeme.kind)[keyword]? = some .kwFunction := by
      rcases passes name .identifier keyword_lt before isName with
        isTrivia | isReference | ⟨-, known⟩
      · cases isTrivia
      · cases isReference
      · exact known
    refine ⟨hasKind_ofLexemes.mpr isFunction, keyword_lt, ?_⟩
    intro index lower upper
    have inside := (List.getElem?_eq_some_iff.mp isName).1
    have here : (lexemes.map Lexeme.kind)[index]? = some (lexemes.map Lexeme.kind)[index] :=
      List.getElem?_eq_getElem (upper.trans inside)
    rw [kindIs, kind?_ofLexemes, here]
    simpa [standsBeforeParameters, isFunction, or_assoc] using
      passes index _ lower (upper.trans before) here
  · intro declares
    have isFunction := hasKind_ofLexemes.mp declares.isFunction
    apply exists_ownedParenthesis? strict rfl isFunction _ opens
    apply parenthesisPlace?_of_function isFunction (declares.before.trans before) opens (by decide)
    intro between kind lower upper here
    rcases Nat.lt_trichotomy between name with earlier | rfl | later
    · have stands := declares.between between lower earlier
      rw [kindIs, kind?_ofLexemes, here] at stands
      simpa [standsBeforeParameters, or_assoc] using stands
    · cases here.symm.trans isName
      exact .inr (.inr rfl)
    · exact .inl (blanks between kind later upper here)

/-- What is taken for the call of a global function is a name in front of a parenthesis and never a
member. It is declared only where references or other names stand between it and the keyword
`function`, the last part of a longer name only where a reserved word stands before it, and a class
otherwise only where nothing but a leading separator stands between it and the keyword `new`. -/
theorem name_of_callOpener {source : String} (read : tokenize source = .ok stream)
    (isName : stream.hasKind name .identifier = true)
    (found : stream.callOpener? name = some opener) :
    (name < opener ∧ stream.hasKind opener .openParenthesis = true ∧
      ∀ between, name < between → between < opener →
        stream.kindIs between TokenKind.isTrivia = true) ∧
    ¬stream.IsMember name ∧
    (∀ keyword, stream.Owns keyword opener ↔ stream.Declares keyword name) ∧
    (stream.Qualified name ↔ stream.FollowsReserved name) ∧
    (¬stream.Qualified name → (stream.Instantiated name ↔ stream.InstantiatesRoot name)) := by
  rcases strict_of_tokenize read with ⟨lexemes, rfl, strict⟩
  rcases of_callOpener? found with ⟨next, opens, previous, before, visible, -⟩
  have after := (nextCode?_bounds next).1
  have blanks : ∀ between, name < between → between < opener →
      (ofLexemes lexemes).kindIs between TokenKind.isTrivia = true :=
    fun between => isTrivia_before_nextCode? next
  refine ⟨⟨after, opens, blanks⟩, ?_, ?_, ?_, instantiated_iff isName found⟩
  · rintro ⟨operator, front, reaches⟩
    cases front.symm.trans before
    rw [hidesFunction_of_reachesMember reaches] at visible
    cases visible
  · intro keyword
    apply owns_iff_declares strict (hasKind_ofLexemes.mp isName) (hasKind_ofLexemes.mp opens) after
    intro between kind lower upper here
    have isTrivia := blanks between lower upper
    rw [kindIs, kind?_ofLexemes, here] at isTrivia
    exact isTrivia
  · rw [qualified_iff]
    apply or_iff_right
    rintro ⟨word, joins, begins⟩
    rw [not_begins_of_callOpener? found joins] at begins
    cases begins

/-- Behind an operator and a leading separator a function is called. -/
theorem name_of_callOpener_rooted :
    ∃ stream, tokenize "<?php new Foo & \\rand();" = .ok stream ∧
      stream.hasKind 8 .identifier = true ∧ stream.callOpener? 8 = some 9 ∧ ¬stream.IsMember 8 ∧
      (∀ keyword, ¬stream.Owns keyword 9) ∧ ¬stream.Qualified 8 ∧ ¬stream.Instantiated 8 := by
  have outcome : (tokenize "<?php new Foo & \\rand();").toOption.map (fun stream =>
      ([stream.hasKind 8 .identifier, stream.hasKind 5 .kwNew,
          stream.hasKind 3 .namespaceSeparator],
        stream.callOpener? 8 :: [8, 7, 5].map stream.previousCode?,
        (List.range 8).filter fun keyword => stream.hasKind keyword .kwFunction)) =
      some ([true, false, false], [some 9, some 7, some 5, some 3], []) := by decide +kernel
  rcases exists_tokenize_of_map_toOption outcome with ⟨stream, read, seen⟩
  simp only [Prod.mk.injEq, List.map_cons, List.map_nil, List.cons.injEq, and_true,
    List.filter_eq_nil_iff, List.mem_range] at seen
  rcases seen with ⟨⟨isName, notNew, plain⟩, ⟨called, front, farther, farthest⟩, noFunction⟩
  rcases name_of_callOpener read isName called with
    ⟨-, notMember, owns_iff, qualified_iff, instantiated_iff⟩
  have joins_eq : ∀ word, stream.Joins word 8 → word = 5 := by
    rintro word ⟨separator, next, -, behind⟩
    cases front.symm.trans next
    exact (Option.some.inj (farther.symm.trans behind)).symm
  have whole : ¬stream.Qualified 8 := by
    rw [qualified_iff]
    rintro ⟨word, joins, ⟨separator, next, isSeparator⟩, -⟩
    cases joins_eq word joins
    cases farthest.symm.trans next
    rw [plain] at isSeparator
    cases isSeparator
  refine ⟨stream, read, isName, called, notMember, ?_, whole, ?_⟩
  · intro keyword owns
    have declares := (owns_iff keyword).mp owns
    exact noFunction keyword declares.before declares.isFunction
  · rw [instantiated_iff whole]
    rintro ⟨keyword, isNew, joins⟩
    cases joins_eq keyword joins
    rw [notNew] at isNew
    cases isNew

/-- The declaration of a function that returns a reference, a class behind a leading separator and a
name in a namespace with a reserved word are taken for calls. -/
theorem callOpener_declared_instantiated_qualified :
    (∃ stream, tokenize "<?php function &rand() \x7b\x7d" = .ok stream ∧
      stream.hasKind 4 .identifier = true ∧ stream.callOpener? 4 = some 5 ∧
      stream.hasKind 1 .kwFunction = true ∧ stream.Owns 1 5) ∧
    (∃ stream, tokenize "<?php new \\Rand();" = .ok stream ∧
      stream.hasKind 4 .identifier = true ∧ stream.callOpener? 4 = some 5 ∧
      stream.Instantiated 4) ∧
    ∃ stream, tokenize "<?php Foo\\List\\rand();" = .ok stream ∧
      stream.hasKind 5 .identifier = true ∧ stream.callOpener? 5 = some 6 ∧
      stream.Qualified 5 := by
  refine ⟨?_, ?_, ?_⟩
  · have outcome : (tokenize "<?php function &rand() \x7b\x7d").toOption.map (fun stream =>
        (stream.hasKind 4 .identifier, stream.callOpener? 4, stream.hasKind 1 .kwFunction,
          ((stream.token? 1).bind Token.parenthesis).map BracketPair.opener)) =
        some (true, some 5, true, some 5) := by decide +kernel
    rcases exists_tokenize_of_map_toOption outcome with ⟨stream, read, seen⟩
    simp only [Prod.mk.injEq] at seen
    rcases seen with ⟨isName, called, isFunction, owns⟩
    exact ⟨stream, read, isName, called, isFunction, owns⟩
  · have outcome : (tokenize "<?php new \\Rand();").toOption.map (fun stream =>
        ([stream.hasKind 4 .identifier, stream.hasKind 3 .namespaceSeparator,
            stream.hasKind 1 .kwNew, stream.hasKind 0 .namespaceSeparator],
          stream.callOpener? 4 :: [4, 3, 1].map stream.previousCode?)) =
        some ([true, true, true, false], [some 5, some 3, some 1, some 0]) := by decide +kernel
    rcases exists_tokenize_of_map_toOption outcome with ⟨stream, read, seen⟩
    simp only [Prod.mk.injEq, List.map_cons, List.map_nil, List.cons.injEq, and_true] at seen
    rcases seen with ⟨⟨isName, isRoot, isNew, plain⟩, called, next, behind, farthest⟩
    have named : stream.kindIs 4 isWord = true := by
      rw [kindIs_of_hasKind isName]
      decide
    refine ⟨stream, read, isName, called, 1, 3, isNew, ?_, behind, .rooted isRoot next named⟩
    rintro ⟨separator, before, isSeparator⟩
    cases farthest.symm.trans before
    rw [plain] at isSeparator
    cases isSeparator
  · have outcome : (tokenize "<?php Foo\\List\\rand();").toOption.map (fun stream =>
        ([stream.hasKind 5 .identifier, stream.hasKind 4 .namespaceSeparator,
            stream.hasKind 3 .kwList, stream.hasKind 2 .namespaceSeparator],
          stream.callOpener? 5 :: [5, 4, 3].map stream.previousCode?)) =
        some ([true, true, true, true], [some 6, some 4, some 3, some 2]) := by decide +kernel
    rcases exists_tokenize_of_map_toOption outcome with ⟨stream, read, seen⟩
    simp only [Prod.mk.injEq, List.map_cons, List.map_nil, List.cons.injEq, and_true] at seen
    rcases seen with ⟨⟨isName, isSeparator, isReserved, isEarlier⟩, called, next, behind, farther⟩
    have named : stream.kindIs 3 isWord = true := by
      rw [kindIs_of_hasKind isReserved]
      decide
    have spelled := exists_spells_iff.mpr (.inr ⟨⟨2, farther, isEarlier⟩, named⟩)
    rcases spelled with ⟨first, spells⟩
    exact ⟨stream, read, isName, called, first, 3, spells, 4, next, isSeparator, behind⟩

end TokenLint.TokenStream
