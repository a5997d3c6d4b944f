import TokenLint.Proofs.Navigation.Bounds
import TokenLint.Proofs.Stream.Ternary

/-!
# Question marks and their colons

The search for the colon of a ternary counts question marks and colons and steps over whole pairs of
brackets, so it sees the tokens of one level only. It ends at the first colon behind which as many
ternaries wait as did before the question mark. The scanner has read a sign as such a colon only
where a ternary waits, so going back from a colon to the last token of its level at which fewer
ternaries wait one finds the question mark that it belongs to.
-/

namespace TokenLint

open Lexer

/-- Whether a colon ends the outermost of some ternaries that wait at an index. It stands at the
same level, and until then no fewer ternaries wait at this level than at the colon. -/
structure Answers (kinds : List TokenKind) (count index colon : Nat) : Prop where
  isElse : kinds[colon]? = some .ternaryElse
  index_le : index ≤ colon
  level_eq : level kinds index = level kinds colon
  waiting_eq : waitingAt kinds colon + count = waitingAt kinds index + 1
  high : ∀ between, index ≤ between → between ≤ colon → level kinds between = level kinds colon →
    waitingAt kinds colon ≤ waitingAt kinds between

namespace Answers

variable {kinds : List TokenKind} {count remaining index next colon : Nat} {kind : TokenKind}

/-- A step to the next token of the level that changes how many ternaries wait and how many are
counted by the same number. -/
theorem iff_of_step (positive : 0 < count) (forward : index < next)
    (level_eq : level kinds next = level kinds index)
    (skips : ∀ between, index < between → between < next → level kinds between ≠ level kinds index)
    (balance : waitingAt kinds next + count = waitingAt kinds index + remaining)
    (goesOn : kinds[index]? = some .ternaryElse → 1 < count) :
    Answers kinds count index colon ↔ Answers kinds remaining next colon := by
  constructor
  · intro answers
    have waiting_eq := answers.waiting_eq
    have index_ne : index ≠ colon := by
      rintro rfl
      have more := goesOn answers.isElse
      omega
    have next_le : next ≤ colon := by
      by_contra before
      have index_le := answers.index_le
      exact skips colon (by omega) (by omega) answers.level_eq.symm
    refine ⟨answers.isElse, next_le, level_eq.trans answers.level_eq, by omega, ?_⟩
    intro between after before same
    exact answers.high between (by omega) before same
  · intro answers
    have waiting_eq := answers.waiting_eq
    have next_le := answers.index_le
    have same_level := level_eq.symm.trans answers.level_eq
    refine ⟨answers.isElse, by omega, same_level, by omega, ?_⟩
    intro between after before same
    rcases Nat.eq_or_lt_of_le after with rfl | later
    · omega
    · have next_between : next ≤ between := by
        by_contra inside
        exact skips between later (by omega) (same.trans same_level.symm)
      exact answers.high between next_between before same

variable (strict : Strict kinds)

include strict

theorem waiting_pos (answers : Answers kinds count index colon) : 0 < waitingAt kinds colon := by
  rw [strict.waitingAt_else answers.isElse]
  exact Nat.succ_pos _

/-- No colon answers from a token on that makes the scanner forget what waits. -/
theorem not_of_forgets (found : kinds[index]? = some kind)
    (forgets : kind = .semicolon ∨ kind = .closeTag) : ¬Answers kinds count index colon := by
  intro answers
  have index_ne : index ≠ colon := by
    rintro rfl
    have isElse := answers.isElse
    rw [found, Option.some.injEq] at isElse
    subst isElse
    simp at forgets
  have plain : kind.opens? = none ∧ kind.closes? = none := by
    rcases forgets with rfl | rfl <;> decide
  have index_le := answers.index_le
  have waiting_pos := answers.waiting_pos strict
  have same := (level_succ found plain.1 plain.2).trans answers.level_eq
  have high := answers.high (index + 1) (by omega) (by omega) same
  rw [waitingAt_succ_of_forgets found forgets] at high
  omega

omit strict in
/-- No colon answers from the closer of a pair on: what follows stands at another level. -/
theorem not_of_closer {pair : BracketPair} (member : pair ∈ bracketPairs kinds) :
    ¬Answers kinds count pair.closer colon := by
  intro answers
  have rises := BracketPair.lt_of_mem member
  rcases BracketPair.exists_shape member with ⟨shape, -, closes⟩
  have closer_ne : pair.closer ≠ colon := by
    rintro rfl
    cases shape <;> cases answers.isElse.symm.trans closes
  have closer_le := answers.index_le
  exact level_ne_of_inside member rises (Nat.le_refl _) (.inr (by omega)) answers.level_eq

end Answers

/-- Whether a colon belongs to the question mark at an index. -/
structure IsTernary (kinds : List TokenKind) (mark colon : Nat) : Prop where
  isThen : kinds[mark]? = some .ternaryThen
  answers : Answers kinds 1 (mark + 1) colon

namespace IsTernary

variable {kinds : List TokenKind} {mark inner colon innerColon between : Nat}

theorem lt (ternary : IsTernary kinds mark colon) : mark < colon := ternary.answers.index_le

theorem level_eq (ternary : IsTernary kinds mark colon) : level kinds mark = level kinds colon :=
  (level_succ ternary.isThen rfl rfl).symm.trans ternary.answers.level_eq

theorem waiting_eq (ternary : IsTernary kinds mark colon) :
    waitingAt kinds colon = waitingAt kinds mark + 1 := by
  rw [← waitingAt_succ_then ternary.isThen]
  exact Nat.succ.inj ternary.answers.waiting_eq

theorem high (ternary : IsTernary kinds mark colon) (after : mark < between)
    (before : between ≤ colon) (same : level kinds between = level kinds colon) :
    waitingAt kinds colon ≤ waitingAt kinds between :=
  ternary.answers.high between after before same

/-- A second question mark behind the first, at its level and not behind its colon, has another
colon, in front of that of the first. -/
theorem colon_lt (ternary : IsTernary kinds mark colon) (nested : IsTernary kinds inner innerColon)
    (same : level kinds mark = level kinds inner) (after : mark < inner) (before : inner < colon) :
    innerColon < colon := by
  by_contra behind
  have waiting_le : waitingAt kinds colon ≤ waitingAt kinds inner := by
    apply ternary.high after before.le
    exact same.symm.trans ternary.level_eq
  have inner_waiting_le : waitingAt kinds innerColon ≤ waitingAt kinds colon := by
    apply nested.high before (Nat.le_of_not_lt behind)
    rw [← ternary.level_eq, same, nested.level_eq]
  have inner_waiting_eq := nested.waiting_eq
  omega

theorem mark_unique (ternary : IsTernary kinds mark colon) (other : IsTernary kinds inner colon) :
    mark = inner := by
  have same : level kinds mark = level kinds inner := ternary.level_eq.trans other.level_eq.symm
  rcases Nat.lt_trichotomy mark inner with before | equal | behind
  · exact absurd (ternary.colon_lt other same before other.lt) (Nat.lt_irrefl _)
  · exact equal
  · exact absurd (other.colon_lt ternary same.symm behind ternary.lt) (Nat.lt_irrefl _)

/-- Between a question mark and its colon nothing makes the scanner forget the question marks of
their level. -/
theorem not_forgets {kind : TokenKind} (strict : Strict kinds)
    (ternary : IsTernary kinds mark colon) (after : mark < between) (before : between < colon)
    (same : level kinds mark = level kinds between) (found : kinds[between]? = some kind) :
    ¬(kind = .semicolon ∨ kind = .closeTag) := by
  intro forgets
  have plain : kind.opens? = none ∧ kind.closes? = none := by
    rcases forgets with rfl | rfl <;> decide
  have positive := ternary.answers.waiting_pos strict
  have waiting_eq := waitingAt_succ_of_forgets found forgets
  have waiting_le : waitingAt kinds colon ≤ waitingAt kinds (between + 1) := by
    apply ternary.high (Nat.lt_succ_of_lt after) before
    rw [level_succ found plain.1 plain.2, ← same, ternary.level_eq]
  omega

theorem not_semicolon (strict : Strict kinds) (ternary : IsTernary kinds mark colon)
    (after : mark < between) (before : between < colon)
    (same : level kinds mark = level kinds between) : kinds[between]? ≠ some .semicolon :=
  fun found => ternary.not_forgets strict after before same found (.inl rfl)

/-- Every colon of a ternary has its question mark: behind the last token of its level at which
fewer ternaries wait, one more waits. -/
theorem exists_mark (strict : Strict kinds) (isElse : kinds[colon]? = some .ternaryElse) :
    ∃ mark, IsTernary kinds mark colon := by
  have positive : 0 < waitingAt kinds colon := by
    rw [strict.waitingAt_else isElse]
    exact Nat.succ_pos _
  have colon_lt : colon < kinds.length := (List.getElem?_eq_some_iff.mp isElse).1
  rcases exists_last_fewer positive with ⟨mark, mark_lt, level_eq, waiting_lt, last⟩
  rcases strict.exists_next mark_lt colon_lt.le level_eq with
    ⟨next, after, next_le, next_level, falls | ⟨isThen, rfl⟩⟩
  · have waiting_le := last next after next_le next_level
    exact absurd (waiting_lt.trans_le waiting_le) (Nat.not_lt_of_le falls)
  · have waiting_le := last (mark + 1) after next_le next_level
    have waiting_eq := waitingAt_succ_then isThen
    refine ⟨mark, isThen, isElse, mark_lt, next_level, by omega, ?_⟩
    intro between later before
    exact last between later before

end IsTernary

namespace TokenStream

variable {lexemes : List Lexeme} {index closer colon count : Nat} {token : Token}

theorem kind_of_token? (found : (ofLexemes lexemes).token? index = some token) :
    (lexemes.map Lexeme.kind)[index]? = some token.kind := by
  rw [← kind?_ofLexemes, kind?, found, Option.map_some]

theorem partner_eq_some_iff (found : (ofLexemes lexemes).token? index = some token)
    (opens : token.kind.isOpener = true) :
    token.partner = some closer ↔ ⟨index, closer⟩ ∈ bracketPairs (lexemes.map Lexeme.kind) := by
  have partner_eq : token.partner = (ofLexemes lexemes).partner? index := by
    rw [partner?, found, Option.bind_some]
  rw [partner_eq, partner?_ofLexemes]
  exact PartnerTable.partner?_of_isOpener (kind_of_token? found) opens

/-- The step of a search for a colon over a token that is no bracket. -/
theorem answers_iff_succ {remaining : Nat} {kind : TokenKind} {kinds : List TokenKind}
    (positive : 0 < count) (found : kinds[index]? = some kind) (notOpens : kind.opens? = none)
    (notCloses : kind.closes? = none)
    (balance : waitingAt kinds (index + 1) + count = waitingAt kinds index + remaining)
    (goesOn : kind = .ternaryElse → 1 < count) :
    Answers kinds count index colon ↔ Answers kinds remaining (index + 1) colon := by
  refine Answers.iff_of_step positive (Nat.lt_succ_self _) (level_succ found notOpens notCloses) ?_
    balance ?_
  · intro between after before
    omega
  · intro isElse
    exact goesOn (Option.some.inj (found.symm.trans isElse))

/-- The search for a colon finds the one that answers. -/
theorem ternaryElseFrom?_eq_some_iff (strict : Strict (lexemes.map Lexeme.kind))
    (positive : 0 < count) :
    (ofLexemes lexemes).ternaryElseFrom? count index = some colon ↔
      Answers (lexemes.map Lexeme.kind) count index colon := by
  fun_induction ternaryElseFrom? (ofLexemes lexemes) count index with
  | case1 count index inside missing =>
      exact absurd (Array.getElem?_eq_none_iff.mp missing) (Nat.not_le.mpr inside)
  | case2 count index inside token found opens unmatched =>
      rcases strict.opener (kind_of_token? found) opens with ⟨closer, member⟩
      rw [(partner_eq_some_iff found opens).mpr member] at unmatched
      cases unmatched
  | case3 count index inside token found opens closer matched later ih =>
      have member := (partner_eq_some_iff found opens).mp matched
      have waiting_eq := strict.waitingAt_closer_succ member
      rw [ih positive]
      refine (Answers.iff_of_step positive (Nat.lt_succ_of_le later) (level_closer_succ member) ?_
        (congrArg (· + count) waiting_eq) ?_).symm
      · intro between after before
        exact level_ne_of_inside member after (Nat.le_of_lt_succ before) (.inl (Nat.le_refl _))
      · intro isElse
        rw [kind_of_token? found, Option.some.injEq] at isElse
        rw [isElse] at opens
        cases opens
  | case4 count index inside token found opens closer matched earlier =>
      have rises := BracketPair.lt_of_mem ((partner_eq_some_iff found opens).mp matched)
      exact absurd (Nat.le_of_lt rises) earlier
  | case5 count index inside token found notOpens ends =>
      refine iff_of_false (by simp) ?_
      rcases Bool.or_eq_true_iff.mp ends with closes | isSemicolon
      · rcases strict.closer (kind_of_token? found) closes with ⟨opener, member⟩
        exact Answers.not_of_closer member
      · have isSemicolon := of_decide_eq_true isSemicolon
        exact Answers.not_of_forgets strict (kind_of_token? found) (.inl isSemicolon)
  | case6 count index inside token found notOpens goesOn asks ih =>
      have kind_eq := kind_of_token? found
      rw [asks] at kind_eq
      have waiting_eq := waitingAt_succ_then kind_eq
      rw [ih (Nat.succ_pos _)]
      exact (answers_iff_succ positive kind_eq rfl rfl (by omega) (by simp)).symm
  | case7 count index inside token found notOpens goesOn asksNot answers last =>
      have kind_eq := kind_of_token? found
      rw [answers] at kind_eq
      have waiting_eq := strict.waitingAt_else kind_eq
      constructor
      · intro same
        cases same
        refine ⟨kind_eq, Nat.le_refl _, rfl, by omega, ?_⟩
        intro between after before _
        exact Nat.le_of_eq (congrArg _ (Nat.le_antisymm after before))
      · intro answered
        have balance := answered.waiting_eq
        have index_le := answered.index_le
        by_contra other
        have differs : index ≠ colon := fun same => other (congrArg some same)
        have same_level := (level_succ kind_eq rfl rfl).trans answered.level_eq
        have high := answered.high (index + 1) (by omega) (by omega) same_level
        omega
  | case8 count index inside token found notOpens goesOn asksNot answers more ih =>
      have kind_eq := kind_of_token? found
      rw [answers] at kind_eq
      have waiting_eq := strict.waitingAt_else kind_eq
      rw [ih (by omega)]
      exact (answers_iff_succ positive kind_eq rfl rfl (by omega) (by omega)).symm
  | case9 count index inside token found notOpens goesOn asksNot answersNot ih =>
      have kind_eq := kind_of_token? found
      rw [ih positive]
      -- The search goes on behind a close tag, but no ternary waits there for a colon.
      by_cases closeTag : token.kind = .closeTag
      · refine iff_of_false ?_ (Answers.not_of_forgets strict kind_eq (.inr closeTag))
        intro answered
        have balance := answered.waiting_eq
        have waiting_pos := answered.waiting_pos strict
        rw [waitingAt_succ_of_forgets kind_eq (.inr closeTag)] at balance
        omega
      · simp only [TokenKind.isOpener, TokenKind.isCloser, Bool.or_eq_true, not_or,
          Bool.not_eq_true, Option.isSome_eq_false_iff, Option.isNone_iff_eq_none,
          decide_eq_true_eq] at notOpens goesOn
        have keeps : keepsNesting token.kind = true := by
          simp [keepsNesting, notOpens, goesOn, asksNot, answersNot, closeTag]
        have waiting_eq := waitingAt_succ_of_keeps kind_eq keeps
        exact (answers_iff_succ positive kind_eq notOpens goesOn.1 (by omega)
          fun isElse => absurd isElse answersNot).symm
  | case10 count index outside =>
      refine iff_of_false (by simp) ?_
      intro answered
      have colon_lt := (List.getElem?_eq_some_iff.mp answered.isElse).1
      have index_le := answered.index_le
      rw [List.length_map, ← size_ofLexemes] at colon_lt
      omega

theorem ternaryElse?_eq_some_iff (strict : Strict (lexemes.map Lexeme.kind)) {mark : Nat}
    (isThen : (ofLexemes lexemes).hasKind mark .ternaryThen = true) :
    (ofLexemes lexemes).ternaryElse? mark = some colon ↔
      IsTernary (lexemes.map Lexeme.kind) mark colon := by
  rw [hasKind, kind?_ofLexemes, beq_iff_eq] at isThen
  rw [ternaryElse?, ternaryElseFrom?_eq_some_iff strict Nat.one_pos]
  exact ⟨fun answers => ⟨isThen, answers⟩, IsTernary.answers⟩

theorem hasKind_ofLexemes {kind : TokenKind} :
    (ofLexemes lexemes).hasKind index kind = true ↔
      (lexemes.map Lexeme.kind)[index]? = some kind := by
  rw [hasKind, kind?_ofLexemes, beq_iff_eq]

/-- In a source whose brackets all match, the question marks that have a colon and the colons of
ternaries correspond to each other. A colon stands behind its question mark and inside the same
brackets, without a semicolon of theirs in between, and two ternaries inside the same brackets do
not cross. -/
theorem ternaries_paired {source : String} {stream : TokenStream}
    (read : tokenize source = .ok stream) :
    (∀ colon, stream.hasKind colon .ternaryElse = true →
      ∃! mark, stream.hasKind mark .ternaryThen = true ∧ stream.ternaryElse? mark = some colon) ∧
    (∀ mark colon, stream.hasKind mark .ternaryThen = true →
      stream.ternaryElse? mark = some colon →
        stream.hasKind colon .ternaryElse = true ∧ mark < colon ∧
        stream.SameNesting mark colon ∧
        ∀ between, mark < between → between < colon → stream.SameNesting mark between →
          stream.hasKind between .semicolon = false) ∧
    ∀ mark colon inner innerColon, stream.hasKind mark .ternaryThen = true →
      stream.ternaryElse? mark = some colon → stream.hasKind inner .ternaryThen = true →
        stream.ternaryElse? inner = some innerColon → stream.SameNesting mark inner →
          mark < inner → inner < colon → innerColon < colon := by
  rcases strict_of_tokenize read with ⟨lexemes, rfl, strict⟩
  have ternary_of : ∀ {mark colon}, (ofLexemes lexemes).hasKind mark .ternaryThen = true →
      (ofLexemes lexemes).ternaryElse? mark = some colon →
        IsTernary (lexemes.map Lexeme.kind) mark colon := by
    intro mark colon isThen answered
    exact (ternaryElse?_eq_some_iff strict isThen).mp answered
  refine ⟨?_, ?_, ?_⟩
  · intro colon isElse
    rcases IsTernary.exists_mark strict (hasKind_ofLexemes.mp isElse) with ⟨mark, ternary⟩
    have isThen := hasKind_ofLexemes.mpr ternary.isThen
    refine ⟨mark, ⟨isThen, (ternaryElse?_eq_some_iff strict isThen).mpr ternary⟩, ?_⟩
    rintro other ⟨otherThen, answered⟩
    exact (ternary_of otherThen answered).mark_unique ternary
  · intro mark colon isThen answered
    have ternary := ternary_of isThen answered
    have isElse := ternary.answers.isElse
    refine ⟨hasKind_ofLexemes.mpr isElse, ternary.lt, ?_, ?_⟩
    · apply (sameNesting_iff ternary.isThen rfl isElse rfl).mpr
      exact ternary.level_eq
    · intro between after before same
      apply Bool.eq_false_iff.mpr
      intro isSemicolon
      have found := hasKind_ofLexemes.mp isSemicolon
      have level_eq := (sameNesting_iff ternary.isThen rfl found rfl).mp same
      exact ternary.not_semicolon strict after before level_eq found
  · intro mark colon inner innerColon isThen answered innerThen innerAnswered same after before
    have ternary := ternary_of isThen answered
    have nested := ternary_of innerThen innerAnswered
    apply ternary.colon_lt nested _ after before
    exact (sameNesting_iff ternary.isThen rfl nested.isThen rfl).mp same

/-- A question mark that its bracket cuts off has no colon, and does not take that of the one in
front of the bracket; of two inside the same brackets the inner one has the first colon. -/
theorem ternaries_paired_abandoned :
    ∃ stream, tokenize "<?php $a?[$b?]:($c?1?2:3:4);" = .ok stream ∧
      stream.ternaryElse? 5 = none ∧
      (∃! mark, stream.hasKind mark .ternaryThen = true ∧ stream.ternaryElse? mark = some 7) ∧
      stream.SameNesting 2 7 ∧
      (stream.SameNesting 10 12 → ∀ colon, stream.ternaryElse? 12 = some colon → colon < 16) := by
  cases read : tokenize "<?php $a?[$b?]:($c?1?2:3:4);" with
  | error failure =>
      have accepted : (tokenize "<?php $a?[$b?]:($c?1?2:3:4);").isOk = true := by decide +kernel
      rw [read] at accepted
      cases accepted
  | ok stream =>
      have marks_eq : (tokenize "<?php $a?[$b?]:($c?1?2:3:4);").toOption.map
          (fun stream => [2, 10, 12].map (stream.hasKind · .ternaryThen)) =
            some [true, true, true] := by decide +kernel
      have colons_eq : (tokenize "<?php $a?[$b?]:($c?1?2:3:4);").toOption.map
          (fun stream => [2, 5, 10].map stream.ternaryElse?) =
            some [some 7, none, some 16] := by decide +kernel
      simp only [read, Except.toOption, Option.map_some, Option.some.injEq, List.map_cons,
        List.map_nil, List.cons.injEq, and_true] at marks_eq colons_eq
      rcases marks_eq with ⟨first, outer, inner⟩
      rcases colons_eq with ⟨answered, abandoned, outerAnswered⟩
      rcases ternaries_paired read with ⟨marks, extents, nested⟩
      rcases extents 2 7 first answered with ⟨isElse, -, same, -⟩
      refine ⟨stream, rfl, abandoned, marks 7 isElse, same, ?_⟩
      intro same colon innerAnswered
      exact nested 10 16 12 colon outer outerAnswered inner innerAnswered same (by decide)
        (by decide)

end TokenStream

end TokenLint
