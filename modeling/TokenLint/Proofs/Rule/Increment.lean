import TokenLint.Proofs.Navigation.Calls
import TokenLint.Proofs.Navigation.Elements
import TokenLint.Proofs.Navigation.Statements
import TokenLint.Proofs.Rule.RepeatedKeys
import TokenLint.Proofs.Stream.Signs
import TokenLint.Rule.Increment

/-!
# Assignments taken for increments

Whether the value of an assignment by one is used is decided by what follows the operand and by the
brackets around it alone. So the assignment is always the last thing in its statement, or in its
clause of a `for`; but nothing looks at what stands in front of it. An assignment, a `return` or an
`echo` there uses the value, unless a statement ends in between.
-/

namespace TokenLint

open Lexer

namespace TokenStream

variable {source : String} {stream : TokenStream} {lexemes : List Lexeme}
  {start index operand following stop : Nat} {token : Token}

/-- Kinds that use the value of what follows them. -/
def usesValue (kind : TokenKind) : Bool :=
  kind.isAssignment || match kind with
    | .kwReturn | .kwEcho | .kwPrint | .kwYield | .kwThrow => true
    | _ => false

/-- Whether nothing from `start` on uses the value of the assignment at an index. -/
def Discards (stream : TokenStream) (start index : Nat) : Prop :=
  ∀ between, start ≤ between → between < index → stream.SameNesting between index →
    stream.kindIs between usesValue = false

/-- Whether a token stands directly in the parentheses of a `for`. -/
structure InForHeader (stream : TokenStream) (index : Nat) (header : BracketPair) : Prop where
  bracket : (stream.token? index).bind Token.enclosingBracket = some header
  owner : ∃ keyword, stream.previousCode? header.opener = some keyword ∧
    stream.hasKind keyword .kwFor = true

/-- Whether an assignment ends in front of a token: with its statement and in no brackets, or with
its clause of a `for`. -/
def EndsBefore (stream : TokenStream) (index following : Nat) : Prop :=
  (stream.hasKind following .semicolon = true ∨ stream.hasKind following .closeTag = true) ∧
      (stream.token? index).bind Token.enclosingBracket = none ∨
    ∃ header, stream.InForHeader index header ∧
      (stream.hasKind following .semicolon = true ∨ stream.hasKind following .closeTag = true ∨
        stream.hasKind following .comma = true ∨ following = header.closer)

/-- What the token behind the operand is if the value is taken to be discarded. -/
theorem of_isValueDiscarded (accepted : stream.isValueDiscarded operand = true) :
    ∃ following ending, stream.nextCode? (operand + 1) = some following ∧
      stream.token? following = some ending ∧
        ((ending.kind = .semicolon ∨ ending.kind = .closeTag) ∧
            (stream.holdsAt (fun token => token.enclosingBracket.isNone) operand = true ∨
              stream.isInForHeader following = true) ∨
          (ending.kind = .comma ∨ ending.kind = .closeParenthesis) ∧
            stream.isInForHeader following = true) := by
  rw [isValueDiscarded, Option.any_eq_true] at accepted
  rcases accepted with ⟨following, next, accepted⟩
  rcases exists_token?_of_lt (nextCode?_bounds next).2 with ⟨ending, here⟩
  refine ⟨following, ending, next, here, ?_⟩
  rw [kind?, here, Option.map_some] at accepted
  split at accepted
  · rename_i kind_eq
    exact .inl ⟨.inl (Option.some.inj kind_eq), Bool.or_eq_true_iff.mp accepted⟩
  · rename_i kind_eq
    exact .inl ⟨.inr (Option.some.inj kind_eq), Bool.or_eq_true_iff.mp accepted⟩
  · rename_i kind_eq
    exact .inr ⟨.inl (Option.some.inj kind_eq), accepted⟩
  · rename_i kind_eq
    exact .inr ⟨.inr (Option.some.inj kind_eq), accepted⟩
  · cases accepted

theorem bearsCode_of_usesValue {kind : TokenKind} (uses : usesValue kind = true) :
    bearsCode kind = true := by
  cases kind <;> first | rfl | cases uses

/-- A bracket has the text of its sign. -/
theorem content_mem_bracketSigns (read : tokenize source = .ok stream)
    (here : stream.token? index = some token)
    (bracket : (token.kind.isOpener || token.kind.isCloser) = true) :
    token.content ∈ bracketSigns := by
  rcases exists_lex_of_tokenize read with ⟨lexemes, lexed, rfl⟩
  simp only [token?, ofLexemes, List.getElem?_toArray, List.getElem?_mapIdx,
    Option.map_eq_some_iff] at here
  rcases here with ⟨lexeme, found, rfl⟩
  have shows := showsSign_of_lex lexed lexeme (List.mem_of_getElem? found)
  have written : ∀ {sign}, codeText? lexeme = some sign → lexeme.content = sign := by
    intro sign shown
    rw [codeText?, Option.ite_none_left_eq_some] at shown
    exact Option.some.inj shown.2
  rcases Bool.or_eq_true_iff.mp bracket with opens | closes
  · rcases Option.isSome_iff_exists.mp opens with ⟨shape, opens⟩
    rw [written (text_of_opens shows opens)]
    exact openingSign_mem shape
  · rcases Option.isSome_iff_exists.mp closes with ⟨shape, closes⟩
    rw [written (text_of_closes shows closes)]
    exact closingSign_mem shape

/-- Whitespace and comments do not change the level. -/
theorem level_of_blank (after : index ≤ stop) (blank : (ofLexemes lexemes).Blank index stop) :
    level (lexemes.map Lexeme.kind) stop = level (lexemes.map Lexeme.kind) index := by
  induction stop, after using Nat.le_induction with
  | base => rfl
  | succ stop after ih =>
      rcases exists_token_of_kindIs (blank stop after (Nat.lt_succ_self stop)) with
        ⟨token, here, trivia⟩
      rcases plain_of_isTrivia trivia with ⟨notOpens, notCloses, -⟩
      rw [level_succ (kind_of_token? here) (opens?_eq_none (by simp [notOpens]))
        (closes?_eq_none (by simp [notCloses]))]
      exact ih fun place after before => blank place after (Nat.lt_succ_of_lt before)

theorem blank_of_nextCode? (next : stream.nextCode? start = some index) :
    stream.Blank start index :=
  fun _ after before => isTrivia_before_nextCode? next after before

/-- The code behind a token that is no bracket is at its level. -/
theorem level_of_nextCode? (here : (ofLexemes lexemes).token? index = some token)
    (notOpens : token.kind.opens? = none) (notCloses : token.kind.closes? = none)
    (next : (ofLexemes lexemes).nextCode? (index + 1) = some following) :
    level (lexemes.map Lexeme.kind) following = level (lexemes.map Lexeme.kind) index :=
  (level_of_blank (nextCode?_bounds next).1 (blank_of_nextCode? next)).trans
    (level_succ (kind_of_token? here) notOpens notCloses)

theorem SameNesting.bracket_eq {other : Nat} (same : stream.SameNesting index other) :
    (stream.token? index).bind Token.enclosingBracket =
      (stream.token? other).bind Token.enclosingBracket := by
  have brackets := congrArg Option.join same.2
  rwa [← Option.bind_id_eq_join, ← Option.bind_id_eq_join, Option.bind_map, Option.bind_map]
    at brackets

/-- What stands in parentheses right at the level of their closer is in no other brackets. -/
theorem enclosingBracket_of_level_eq {pair : BracketPair}
    (among : pair ∈ bracketPairs (lexemes.map Lexeme.kind))
    (isGroup : (lexemes.map Lexeme.kind)[pair.opener]?.any opensGroup = true)
    (here : (ofLexemes lexemes).token? index = some token)
    (inside : level (lexemes.map Lexeme.kind) index = level (lexemes.map Lexeme.kind) pair.closer)
    (before : index < pair.closer) : token.enclosingBracket = some pair := by
  rw [level_closer among, level_opener_succ among] at inside
  have around : pair ∈ level (lexemes.map Lexeme.kind) index := by
    rw [inside]
    exact List.mem_append_right _ (List.mem_singleton.mpr rfl)
  have after := (mem_level_iff.mp around).2.1
  have isElement : IsElement (lexemes.map Lexeme.kind) pair (pair.opener + 1, pair.closer) :=
    ⟨Nat.lt_succ_self _, BracketPair.lt_of_mem among, Nat.le_refl _, (level_closer among).symm⟩
  rw [enclosingBracket_eq_iff among isGroup isElement after before here, surrounded_iff]
  rintro ⟨inner, member, opens_after, opens_before, behind, -⟩
  have deeper := mem_level_iff.mpr ⟨member, opens_before, behind.le⟩
  rw [inside, List.mem_append, List.mem_singleton] at deeper
  rcases deeper with outside | rfl
  · have bounds := (mem_level_iff.mp outside).2.1
    omega
  · omega

/-- The brackets that a parenthesis closes are no block. -/
theorem opensGroup_of_closeParenthesis {pair : BracketPair}
    (among : pair ∈ bracketPairs (lexemes.map Lexeme.kind))
    (closer : (lexemes.map Lexeme.kind)[pair.closer]? = some .closeParenthesis) :
    (lexemes.map Lexeme.kind)[pair.opener]?.any opensGroup = true := by
  have inside := (List.getElem?_eq_some_iff.mp closer).1
  rw [List.length_map, ← size_ofLexemes] at inside
  rcases exists_token?_of_lt ((BracketPair.lt_of_mem among).trans inside) with ⟨opening, here⟩
  have curly := openCurly_iff_closeCurly among (kind_of_token? here) closer
  simp [kind_of_token? here, opensGroup, isOpener_of_mem among here, curly]

/-- An assignment whose value is taken to be discarded in the header of a `for` stands directly in
that header. -/
theorem inForHeader_of_isInForHeader (strict : Strict (lexemes.map Lexeme.kind))
    (here : (ofLexemes lexemes).token? index = some token)
    (notCloses : token.kind.closes? = none) {ending : Token}
    (there : (ofLexemes lexemes).token? following = some ending)
    (ends : ending.kind = .closeParenthesis ∨ ending.kind.closes? = none)
    (before : index < following)
    (same : level (lexemes.map Lexeme.kind) following = level (lexemes.map Lexeme.kind) index)
    (accepted : (ofLexemes lexemes).isInForHeader following = true) :
    ∃ header, (ofLexemes lexemes).InForHeader index header ∧
      (ending.kind = .closeParenthesis → following = header.closer) := by
  simp only [isInForHeader, Option.any_eq_true] at accepted
  rcases accepted with ⟨opener, opener_eq, keyword, keyword_eq, isFor⟩
  rw [headerOpener?, there] at opener_eq
  rcases ends with isParenthesis | notCloser
  · have closes : ending.kind.isCloser = true := by rw [isParenthesis]; rfl
    have found := kind_of_token? there
    rcases strict.closer found closes with ⟨partner, member⟩
    have matched : ending.partner = some partner := by
      have partner_eq : ending.partner = (ofLexemes lexemes).partner? following := by
        rw [partner?, there, Option.bind_some]
      rw [partner_eq, partner?_ofLexemes, PartnerTable.partner?_ofKinds]
      exact .inr member
    simp only [bind, Option.bind_some, isParenthesis, matched, Option.isSome_some, and_self,
      if_true, Option.some.injEq] at opener_eq
    cases opener_eq
    have isGroup := opensGroup_of_closeParenthesis member (isParenthesis ▸ found)
    have bracket := enclosingBracket_of_level_eq member isGroup here same.symm before
    refine ⟨⟨opener, following⟩, ⟨?_, keyword, keyword_eq, isFor⟩, fun _ => rfl⟩
    rw [here, Option.bind_some, bracket]
  · have notParenthesis : ending.kind ≠ .closeParenthesis := by
      intro isParenthesis
      rw [isParenthesis] at notCloser
      cases notCloser
    simp only [bind, Option.bind_some, notParenthesis, false_and, if_false,
      Option.map_eq_some_iff] at opener_eq
    rcases opener_eq with ⟨header, bracket, rfl⟩
    have beside : (ofLexemes lexemes).SameNesting index following :=
      (sameNesting_iff (kind_of_token? here) notCloses (kind_of_token? there) notCloser).mpr
        same.symm
    refine ⟨header, ⟨?_, keyword, keyword_eq, isFor⟩, fun isParenthesis => ?_⟩
    · rw [beside.bracket_eq, there, Option.bind_some, bracket]
    · exact absurd isParenthesis notParenthesis

/-- An assignment whose value is taken to be discarded ends with its operand. -/
theorem exists_endsBefore (strict : Strict (lexemes.map Lexeme.kind))
    (here : (ofLexemes lexemes).token? index = some token)
    (notOpens : token.kind.opens? = none) (notCloses : token.kind.closes? = none)
    (next : (ofLexemes lexemes).nextCode? (index + 1) = some operand) {one : Token}
    (there : (ofLexemes lexemes).token? operand = some one)
    (one_notOpens : one.kind.opens? = none) (one_notCloses : one.kind.closes? = none)
    (accepted : (ofLexemes lexemes).isValueDiscarded operand = true) :
    ∃ following, (ofLexemes lexemes).nextCode? (operand + 1) = some following ∧
      (ofLexemes lexemes).EndsBefore index following := by
  rcases of_isValueDiscarded accepted with ⟨following, ending, further, found, accepted⟩
  refine ⟨following, further, ?_⟩
  have operand_level := level_of_nextCode? here notOpens notCloses next
  have level_eq := (level_of_nextCode? there one_notOpens one_notCloses further).trans operand_level
  have before : index < following := by
    have first := (nextCode?_bounds next).1
    have second := (nextCode?_bounds further).1
    omega
  have inHeader := fun ends =>
    inForHeader_of_isInForHeader strict here notCloses found ends before level_eq
  have hasKind_of : ∀ {kind}, ending.kind = kind →
      (ofLexemes lexemes).hasKind following kind = true := by
    rintro kind rfl
    rw [hasKind, kind?, found, Option.map_some, beq_self_eq_true]
  rcases accepted with ⟨isEnd, alone | isHeader⟩ | ⟨isComma | isParenthesis, isHeader⟩
  · have operand_same : (ofLexemes lexemes).SameNesting index operand :=
      (sameNesting_iff (kind_of_token? here) notCloses (kind_of_token? there) one_notCloses).mpr
        operand_level.symm
    refine .inl ⟨isEnd.imp hasKind_of hasKind_of, ?_⟩
    rw [holdsAt, there, Option.any_some, Option.isNone_iff_eq_none] at alone
    rw [operand_same.bracket_eq, there, Option.bind_some, alone]
  · have notCloser : ending.kind.closes? = none := by
      rcases isEnd with isEnd | isEnd <;> rw [isEnd] <;> rfl
    rcases inHeader (.inr notCloser) isHeader with ⟨header, inside, -⟩
    refine .inr ⟨header, inside, ?_⟩
    exact (isEnd.imp hasKind_of hasKind_of).imp_right .inl
  · rcases inHeader (.inr (by rw [isComma]; rfl)) isHeader with ⟨header, inside, -⟩
    exact .inr ⟨header, inside, .inr (.inr (.inl (hasKind_of isComma)))⟩
  · rcases inHeader (.inl isParenthesis) isHeader with ⟨header, inside, closer_eq⟩
    exact .inr ⟨header, inside, .inr (.inr (.inr (closer_eq isParenthesis)))⟩

/-- Nothing in a statement uses a value exactly if what would use it is in another statement. -/
theorem discards_iff (strict : Strict (lexemes.map Lexeme.kind))
    (isCode : (ofLexemes lexemes).kindIs index bearsCode = true)
    (started : (ofLexemes lexemes).statementStart? index = some start) :
    (ofLexemes lexemes).Discards start index ↔
      ∀ user, user < index → (ofLexemes lexemes).SameNesting user index →
        (ofLexemes lexemes).kindIs user usesValue = true →
          ∃ place, user ≤ place ∧ place < index ∧ (ofLexemes lexemes).SameNesting place index ∧
            (ofLexemes lexemes).isBoundary place = true := by
  have user_isCode : ∀ {user}, (ofLexemes lexemes).kindIs user usesValue = true →
      (ofLexemes lexemes).kindIs user bearsCode = true := by
    intro user uses
    rcases exists_token_of_kindIs uses with ⟨token, here, uses⟩
    rw [kindIs, kind?, here]
    exact bearsCode_of_usesValue uses
  constructor
  · intro discards user before beside uses
    apply (lt_statementStart_iff strict isCode started (user_isCode uses) beside).mp
    by_contra within
    rw [discards user (Nat.le_of_not_lt within) before beside] at uses
    cases uses
  · intro separated between after before beside
    by_contra uses
    rw [Bool.not_eq_false] at uses
    have earlier := (lt_statementStart_iff strict isCode started (user_isCode uses) beside).mpr
      (separated between before beside uses)
    exact absurd after (Nat.not_le_of_lt earlier)

end TokenStream

namespace Rule

open TokenStream

variable {source : String} {stream : TokenStream} {index : Nat} {options : Table} {made : Report}

/-- An assignment that is reported is the last thing in its statement or in its clause of a `for`.
Nothing in the statement uses its value exactly if every assignment, `return`, `echo`, `print`,
`yield` and `throw` in front of it at its nesting is separated from it by the end of a statement. -/
theorem discards_iff_of_makes (read : tokenize source = .ok stream)
    (isCompound : stream.kindIs index (fun kind => kind = .plusEqual || kind = .minusEqual) = true)
    (makes : (incrementByOne.process stream index options).Makes made) :
    made.index = index ∧
    (∃ operand following, stream.nextCode? (index + 1) = some operand ∧
      stream.contentAt operand = "1" ∧ stream.nextCode? (operand + 1) = some following ∧
        stream.EndsBefore index following) ∧
    ∃ start, stream.statementStart? index = some start ∧
      (stream.Discards start index ↔
        ∀ user, user < index → stream.SameNesting user index →
          stream.kindIs user usesValue = true →
            ∃ place, user ≤ place ∧ place < index ∧ stream.SameNesting place index ∧
              stream.isBoundary place = true) := by
  have complete := unmatched_of_tokenize read
  have signs : ∀ {index : Nat} {token : Token}, stream.token? index = some token →
      (token.kind.isOpener || token.kind.isCloser) = true → token.content ∈ bracketSigns :=
    content_mem_bracketSigns read
  rcases strict_of_tokenize read with ⟨lexemes, rfl, strict⟩
  rcases exists_token_of_kindIs isCompound with ⟨token, here, isCompound⟩
  simp only [Bool.or_eq_true, decide_eq_true_eq] at isCompound
  have notOpens : token.kind.opens? = none := by
    rcases isCompound with isKind | isKind <;> rw [isKind] <;> rfl
  have code : bearsCode token.kind = true := by
    rcases isCompound with isKind | isKind <;> rw [isKind] <;> rfl
  have isCode : (ofLexemes lexemes).kindIs index bearsCode = true := by
    rw [kindIs, kind?, here]
    exact code
  simp only [incrementByOne] at makes
  split at makes
  · exact makes.elim
  rename_i operand next
  split at makes
  · rename_i accepted
    rw [makes_reportAndFix_iff] at makes
    refine ⟨by rw [makes]; rfl, ⟨operand, ?_⟩, ?_⟩
    · rcases exists_token?_of_lt (nextCode?_bounds next).2 with ⟨one, there⟩
      have written : one.content = "1" := by
        rw [← accepted.1, contentAt, there]
        rfl
      have notBracket : (one.kind.isOpener || one.kind.isCloser) = false := by
        by_contra bracket
        have sign := signs there (Bool.not_eq_false _ ▸ bracket)
        rw [written] at sign
        exact absurd sign (by decide)
      rw [Bool.or_eq_false_iff] at notBracket
      rcases exists_endsBefore strict here notOpens (closes?_of_bearsCode code) next there
        (opens?_eq_none (by simp [notBracket])) (closes?_eq_none (by simp [notBracket]))
        accepted.2 with ⟨following, further, ends⟩
      exact ⟨following, next, accepted.1, further, ends⟩
    · have wellFormed : (ofLexemes lexemes).isWellFormed = true := by
        rw [isWellFormed, complete]
        rfl
      have inside := lt_size_of_token? here
      have complete : ((ofLexemes lexemes).statementStartFrom? index index).isSome = true :=
        isSome_statementStartFrom? wellFormed inside.le
      rcases Option.isSome_iff_exists.mp complete with ⟨start, scanned⟩
      have started : (ofLexemes lexemes).statementStart? index = some start := by
        rw [statementStart?, if_pos inside, scanned]
      exact ⟨start, started, discards_iff strict isCode started⟩
  · exact makes.elim

/-- The assignment in front is in a statement of its own, and does not use the value. -/
theorem discards_iff_of_makes_apart :
    ∃ stream made, tokenize "<?php $a = 2; $i += 1;" = .ok stream ∧
      (incrementByOne.process stream 10 []).Makes made ∧ stream.statementStart? 10 = some 8 ∧
      stream.SameNesting 3 10 ∧ stream.kindIs 3 usesValue = true ∧ stream.EndsBefore 10 13 ∧
      stream.Discards 8 10 := by
  have outcome : (tokenize "<?php $a = 2; $i += 1;").toOption.map (fun stream =>
      ((incrementByOne.process stream 10 []).firstReport?.map Report.index,
        [stream.statementStart? 10, stream.nextCode? 11, stream.nextCode? 13],
        [stream.kindIs 10 fun kind => kind = .plusEqual || kind = .minusEqual,
          stream.SameNesting 3 10, stream.kindIs 3 usesValue, stream.SameNesting 6 10,
          stream.isBoundary 6],
        (List.range 10).filter fun user => stream.kindIs user usesValue)) =
      some (some 10, [some 8, some 12, some 13], [true, true, true, true, true], [3]) := by
    decide +kernel
  rcases exists_tokenize_of_map_toOption outcome with ⟨stream, read, seen⟩
  simp only [Prod.mk.injEq, List.cons.injEq, Option.map_eq_some_iff, decide_eq_true_eq, and_true]
    at seen
  rcases seen with ⟨⟨made, first, -⟩, ⟨started, next, further⟩,
    ⟨isCompound, same, uses, boundary_same, boundary⟩, users⟩
  have makes := RuleProgram.makes_of_firstReport? first
  rcases discards_iff_of_makes read isCompound makes with
    ⟨-, ⟨operand, following, next', -, further', ends⟩, start, started', discards⟩
  cases next.symm.trans next'
  cases further.symm.trans further'
  cases started.symm.trans started'
  refine ⟨stream, made, read, makes, started, same, uses, ends, discards.mpr ?_⟩
  intro user before beside uses
  have listed : user ∈ (List.range 10).filter fun user => stream.kindIs user usesValue :=
    List.mem_filter.mpr ⟨List.mem_range.mpr before, uses⟩
  rw [users, List.mem_singleton] at listed
  subst listed
  exact ⟨6, by decide, by decide, boundary_same, boundary⟩

/-- An assignment that another one uses is reported all the same. -/
theorem makes_report_of_used_value :
    ∃ stream made, tokenize "<?php $a = $i += 1;" = .ok stream ∧
      stream.hasKind 7 .plusEqual = true ∧ (incrementByOne.process stream 7 []).Makes made ∧
      made.index = 7 ∧ stream.statementStart? 7 = some 1 ∧ ¬stream.Discards 1 7 := by
  have outcome : (tokenize "<?php $a = $i += 1;").toOption.map (fun stream =>
      (stream.hasKind 7 .plusEqual,
        (incrementByOne.process stream 7 []).firstReport?.map Report.index,
        stream.statementStart? 7, decide (stream.SameNesting 3 7), stream.kindIs 3 usesValue)) =
      some (true, some 7, some 1, true, true) := by decide +kernel
  rcases exists_tokenize_of_map_toOption outcome with ⟨stream, read, seen⟩
  simp only [Prod.mk.injEq, Option.map_eq_some_iff, decide_eq_true_eq] at seen
  rcases seen with ⟨isCompound, ⟨made, first, index_eq⟩, started, same, uses⟩
  refine ⟨stream, made, read, isCompound, RuleProgram.makes_of_firstReport? first, index_eq,
    started, ?_⟩
  intro discards
  rw [discards 3 (by decide) (by decide) same] at uses
  cases uses

end Rule

end TokenLint
