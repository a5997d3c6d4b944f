import TokenLint.Proofs.Navigation.Ternary
import TokenLint.Proofs.Stream.Walk

/-!
# How far a ternary reaches

The searches for the two ends of a ternary walk along its level. Going back, the search for the
condition stops at every question mark and every colon. Going on, the search for the end of the else
branch stops at neither: it takes in what follows the branch in the middle operand of a ternary
around it, the colon of that ternary, and its else branch. Between the two ends the question marks
outnumber the colons in every prefix unless that happens, and it happens unless an assignment or
another such token cuts the else branch short.
-/

namespace TokenLint

open Lexer

namespace TokenStream

/-- Kinds that end an else branch. -/
def endsElse (kind : TokenKind) : Bool := delimitsTernary kind || kind.isStatementTerminator

/-- Kinds that end the search for a condition when met from the right. -/
def startsCondition (kind : TokenKind) : Bool :=
  delimitsTernary kind || introducesExpression kind || kind = .ternaryThen || kind = .ternaryElse

theorem plain_of_endsElse {kind : TokenKind} (ends : endsElse kind = true) :
    kind.opens? = none ∧ kind.closes? = none := by
  cases kind <;> first | exact ⟨rfl, rfl⟩ | cases ends

variable {lexemes : List Lexeme} {index opener first last start stop mark colon : Nat}
  {token : Token}

theorem mem_of_partner_closer (found : (ofLexemes lexemes).token? index = some token)
    (closes : token.kind.isCloser = true) (matched : token.partner = some opener) :
    ⟨opener, index⟩ ∈ bracketPairs (lexemes.map Lexeme.kind) := by
  have partner_eq : token.partner = (ofLexemes lexemes).partner? index := by
    rw [partner?, found, Option.bind_some]
  rw [partner_eq, partner?_ofLexemes] at matched
  exact (PartnerTable.partner?_of_isCloser (kind_of_token? found) closes).mp matched

theorem closes?_eq_none (notCloses : ¬token.kind.isCloser = true) : token.kind.closes? = none := by
  simpa [TokenKind.isCloser] using notCloses

theorem opens?_eq_none (notOpens : ¬token.kind.isOpener = true) : token.kind.opens? = none := by
  simpa [TokenKind.isOpener] using notOpens

/-- The search for the start of a statement walks back along the level. -/
theorem walk_of_statementStartFrom?
    (known : Walk (lexemes.map Lexeme.kind) startsStatement first mark)
    (walk : Walk (lexemes.map Lexeme.kind) startsStatement index mark)
    (found : (ofLexemes lexemes).statementStartFrom? first index = some start) :
    Walk (lexemes.map Lexeme.kind) startsStatement start mark := by
  fun_induction statementStartFrom? (ofLexemes lexemes) first index with
  | case1 first =>
      cases found
      exact known
  | case2 | case3 | case6 => cases found
  | case4 first index token here closes opener matched block =>
      cases found
      exact known
  | case5 first index token here closes opener matched block rises ih =>
      have member := mem_of_partner_closer here closes matched
      exact ih (.cross member walk) (.cross member walk) found
  | case7 first index token here goesOn stops =>
      cases found
      exact known
  | case8 first index token here goesOn passes ih =>
      simp only [Bool.or_eq_true, not_or, Bool.not_eq_true] at passes
      have further : Walk (lexemes.map Lexeme.kind) startsStatement index mark :=
        .pass (kind_of_token? here) (opens?_eq_none (by simp [passes.1])) (closes?_eq_none goesOn)
          passes.2 walk
      refine ih ?_ further found
      split
      · exact known
      · exact further

theorem walk_of_statementStart? (found : (ofLexemes lexemes).statementStart? mark = some start) :
    Walk (lexemes.map Lexeme.kind) startsStatement start mark := by
  rw [statementStart?] at found
  split at found
  · exact walk_of_statementStartFrom? (.stay mark) (.stay mark) found
  · cases found

/-- The search for the start of a condition walks back along the level too. The statement begins at
this level, so the walk does not leave the brackets around it. -/
theorem walk_of_conditionStartFrom? {low : Nat} (strict : Strict (lexemes.map Lexeme.kind))
    (low_level : level (lexemes.map Lexeme.kind) low = level (lexemes.map Lexeme.kind) mark)
    (known : low ≤ first ∧ Walk (lexemes.map Lexeme.kind) startsCondition first mark)
    (walk : Walk (lexemes.map Lexeme.kind) startsCondition index mark)
    (found : (ofLexemes lexemes).conditionStartFrom? low first index = some start) :
    low ≤ start ∧ Walk (lexemes.map Lexeme.kind) startsCondition start mark := by
  fun_induction conditionStartFrom? (ofLexemes lexemes) low first index with
  | case1 | case2 =>
      cases found
      exact known
  | case3 | case4 | case6 => cases found
  | case5 first index within token here closes opener matched rises ih =>
      have member := mem_of_partner_closer here closes matched
      have low_le : low ≤ opener := by
        by_contra inside
        apply level_ne_of_inside member (Nat.lt_of_not_le inside) (Nat.le_of_not_lt within)
          (.inr walk.le)
        exact low_level
      exact ih ⟨low_le, .cross member walk⟩ (.cross member walk) found
  | case7 first index within token here goesOn stops =>
      cases found
      exact known
  | case8 first index within token here goesOn passes ih =>
      have kind_eq := kind_of_token? here
      have notOpens : token.kind.opens? = none := by
        by_contra opens
        rcases strict.opener kind_eq (by simpa [TokenKind.isOpener, Option.isSome_iff_ne_none])
          with ⟨closer, member⟩
        have inside : ⟨index, closer⟩ ∈ level (lexemes.map Lexeme.kind) low := by
          rw [low_level, ← walk.level_eq, level_opener_succ member]
          exact List.mem_append_right _ (List.mem_singleton.mpr rfl)
        exact within (mem_level_iff.mp inside).2.1
      have avoided : startsCondition token.kind = false := by
        rw [← Bool.not_eq_true]
        simpa only [startsCondition, Bool.or_eq_true, decide_eq_true_eq] using passes
      have further : Walk (lexemes.map Lexeme.kind) startsCondition index mark :=
        .pass kind_eq notOpens (closes?_eq_none goesOn) avoided walk
      refine ih ?_ further found
      split
      · exact known
      · exact ⟨Nat.le_of_not_lt within, further⟩

/-- A condition stands in front of its question mark, at the same level and in the same statement,
and the search passes no question mark and no colon on the way to it. -/
theorem walk_of_conditionStart? (strict : Strict (lexemes.map Lexeme.kind))
    (found : (ofLexemes lexemes).conditionStart? mark = some start) :
    start < mark ∧ Walk (lexemes.map Lexeme.kind) startsStatement start mark ∧
      Walk (lexemes.map Lexeme.kind) startsCondition start mark := by
  rw [conditionStart?] at found
  rcases Option.bind_eq_some_iff.mp found with ⟨low, started, found⟩
  rcases Option.bind_eq_some_iff.mp found with ⟨first, searched, found⟩
  rcases Option.bind_eq_some_iff.mp found with ⟨⟨⟩, moved, found⟩
  cases found
  have statement := walk_of_statementStart? started
  rcases walk_of_conditionStartFrom? strict statement.level_eq ⟨statement.le, .stay mark⟩
    (.stay mark) searched with ⟨low_le, walk⟩
  have start_ne : start ≠ mark := (Option.guard_eq_some' ()).mp moved
  have same := walk.level_eq.trans statement.level_eq.symm
  exact ⟨Nat.lt_of_le_of_ne walk.le start_ne, (statement.split low_le walk.le same).2, walk⟩

/-- Where the search for the end of an else branch comes to a halt: only blanks and comments stand
between the last token that it takes in and there, and what stands there ends the branch. -/
structure HaltsAt (kinds : List TokenKind) (first stop halt : Nat) : Prop where
  stop_lt : stop < halt
  walk : Walk kinds endsElse first halt
  trivia : ∀ between kind, stop < between → between < halt → kinds[between]? = some kind →
    kind.isTrivia = true
  ends : ∀ kind, kinds[halt]? = some kind → kind.isCloser = true ∨ endsElse kind = true

theorem exists_haltsAt_of_elseEndFrom? (last_lt : last < index)
    (known : Walk (lexemes.map Lexeme.kind) endsElse first (last + 1))
    (walk : Walk (lexemes.map Lexeme.kind) endsElse first index)
    (trivia : ∀ between kind, last < between → between < index →
      (lexemes.map Lexeme.kind)[between]? = some kind → kind.isTrivia = true)
    (found : (ofLexemes lexemes).elseEndFrom? last index = some stop) :
    Walk (lexemes.map Lexeme.kind) endsElse first (stop + 1) ∧
      ∃ halt, HaltsAt (lexemes.map Lexeme.kind) first stop halt := by
  fun_induction elseEndFrom? (ofLexemes lexemes) last index with
  | case1 | case2 | case4 => cases found
  | case3 last index inside token here opens closer matched later ih =>
      have member := (partner_eq_some_iff here opens).mp matched
      have further : Walk (lexemes.map Lexeme.kind) endsElse first (closer + 1) :=
        walk.trans (.cross member (.stay _))
      refine ih (Nat.lt_succ_self closer) further further ?_ found
      intro between kind after before
      omega
  | case5 last index inside token here goesOn stops =>
      cases found
      refine ⟨known, index, last_lt, walk, trivia, ?_⟩
      intro kind kind_eq
      cases kind_eq.symm.trans (kind_of_token? here)
      simpa only [endsElse, Bool.or_eq_true, or_assoc] using stops
  | case6 last index inside token here goesOn passes ih =>
      have kind_eq := kind_of_token? here
      simp only [Bool.or_eq_true, not_or, Bool.not_eq_true, and_assoc] at passes
      have avoided : endsElse token.kind = false := by simp [endsElse, passes]
      have further : Walk (lexemes.map Lexeme.kind) endsElse first (index + 1) :=
        walk.trans (.pass kind_eq (opens?_eq_none goesOn) (closes?_eq_none (by simp [passes.1]))
          avoided (.stay _))
      refine ih ?_ ?_ further ?_ found
      · split
        · omega
        · exact Nat.lt_succ_self index
      · split
        · exact known
        · exact further
      · intro between kind after before between_eq
        split at after
        · rename_i blank
          rcases Nat.eq_or_lt_of_le (Nat.le_of_lt_succ before) with rfl | earlier
          · cases between_eq.symm.trans kind_eq
            exact blank
          · exact trivia between kind after earlier between_eq
        · omega
  | case7 last index outside =>
      cases found
      refine ⟨known, index, last_lt, walk, trivia, ?_⟩
      intro kind kind_eq
      have inside := (List.getElem?_eq_some_iff.mp kind_eq).1
      rw [List.length_map, ← size_ofLexemes] at inside
      exact absurd inside outside

theorem exists_haltsAt_of_elseEnd? (found : (ofLexemes lexemes).elseEnd? colon = some stop) :
    colon < stop ∧ Walk (lexemes.map Lexeme.kind) endsElse (colon + 1) (stop + 1) ∧
      ∃ halt, HaltsAt (lexemes.map Lexeme.kind) (colon + 1) stop halt := by
  rw [elseEnd?] at found
  rcases Option.bind_eq_some_iff.mp found with ⟨last, searched, found⟩
  rcases Option.bind_eq_some_iff.mp found with ⟨⟨⟩, moved, found⟩
  cases found
  have moved_ne : stop ≠ colon := (Option.guard_eq_some' ()).mp moved
  rcases exists_haltsAt_of_elseEndFrom? (Nat.lt_succ_self colon) (.stay _) (.stay _)
    (fun between kind after before => by omega) searched with ⟨walk, halts⟩
  have stop_le := walk.le
  exact ⟨by omega, walk, halts⟩

end TokenStream

section Balance

open TokenStream

variable {kinds : List TokenKind} {start mark colon stop outer outerColon : Nat}

theorem IsTernary.walk (strict : Strict kinds) (ternary : IsTernary kinds mark colon) :
    Walk kinds forgetsTernaries (mark + 1) colon := by
  have inside := (List.getElem?_eq_some_iff.mp ternary.answers.isElse).1
  apply strict.walk ternary.lt inside.le ternary.answers.level_eq
  intro index kind after before same found notOpens
  have beside : level kinds mark = level kinds index :=
    (level_succ ternary.isThen rfl rfl).symm.trans same.symm
  have remembers := ternary.not_forgets strict after before beside found
  simpa [forgetsTernaries] using remembers

/-- A ternary between its two ends, as the searches for them have found it. -/
structure Extent (kinds : List TokenKind) (start mark colon stop : Nat) : Prop where
  ternary : IsTernary kinds mark colon
  condition : Walk kinds startsCondition start mark
  statement : Walk kinds startsStatement start mark
  branch : Walk kinds endsElse (colon + 1) (stop + 1)

namespace Extent

variable (strict : Strict kinds) (extent : Extent kinds start mark colon stop)

include extent

theorem start_le : start ≤ mark := extent.condition.le

theorem colon_le : colon ≤ stop := Nat.le_of_succ_le_succ extent.branch.le

theorem level_start : level kinds start = level kinds mark := extent.condition.level_eq

/-- A question mark or colon of the level of the ternary that stands in front of its own question
mark stands in front of the condition. -/
theorem lt_start {sign : Nat} {kind : TokenKind} (isSign : startsCondition kind = true)
    (notOpens : kind.opens? = none) (found : kinds[sign]? = some kind)
    (same : level kinds sign = level kinds mark) (before : sign < mark) : sign < start := by
  by_contra inside
  have avoided := extent.condition.avoided_of_level (Nat.le_of_not_lt inside) before
    (same.trans extent.level_start.symm) found notOpens
  rw [isSign] at avoided
  cases avoided

include strict

theorem walk : Walk kinds forgetsTernaries start (stop + 1) := by
  have statement : Walk kinds forgetsTernaries start mark := by
    apply extent.statement.mono
    intro kind
    cases kind <;> decide
  have branch : Walk kinds forgetsTernaries (colon + 1) (stop + 1) := by
    apply extent.branch.mono
    intro kind
    cases kind <;> decide
  have behind : Walk kinds forgetsTernaries colon (stop + 1) :=
    .pass extent.ternary.answers.isElse rfl rfl rfl branch
  have middle := (extent.ternary.walk strict).trans behind
  exact statement.trans (.pass extent.ternary.isThen rfl rfl rfl middle)

/-- Up to a token of the level, the colons that the extent has more than question marks are the
ternaries that wait less there than at the start. -/
theorem waitingAt_eq {index : Nat} (after : start ≤ index) (before : index ≤ stop + 1)
    (same : level kinds index = level kinds mark) :
    waitingAt kinds index + tally kinds (level kinds mark) .ternaryElse start index =
      waitingAt kinds start + tally kinds (level kinds mark) .ternaryThen start index := by
  have level_start := extent.level_start
  have parts := (extent.walk strict).split after before (same.trans level_start.symm)
  have waiting_eq := parts.1.waitingAt_eq strict
  rw [level_start] at waiting_eq
  exact waiting_eq

/-- Where the extent takes in the colon of a ternary around it, the colons outnumber the question
marks. -/
theorem tally_lt_of_enclosed (enclosing : IsTernary kinds outer outerColon)
    (same : level kinds outer = level kinds mark) (before : outer < mark)
    (after : mark < outerColon) (reaches : outerColon ≤ stop) :
    tally kinds (level kinds mark) .ternaryThen start (outerColon + 1) <
      tally kinds (level kinds mark) .ternaryElse start (outerColon + 1) := by
  have outer_lt := extent.lt_start rfl rfl enclosing.isThen same before
  have start_le := extent.start_le
  have colon_level : level kinds outerColon = level kinds mark := enclosing.level_eq.symm.trans same
  have high := enclosing.high outer_lt (by omega) (extent.level_start.trans colon_level.symm)
  have one_less := strict.waitingAt_else enclosing.answers.isElse
  have next_level := (level_succ enclosing.answers.isElse rfl rfl).trans colon_level
  have balance := extent.waitingAt_eq strict (by omega) (by omega) next_level
  omega

/-- The first prefix of the extent in which the colons outnumber the question marks ends with the
colon of a ternary around it. -/
theorem exists_enclosing_of_tally_lt {bound : Nat} (after : start ≤ bound)
    (before : bound ≤ stop + 1)
    (few : tally kinds (level kinds mark) .ternaryThen start bound <
      tally kinds (level kinds mark) .ternaryElse start bound) :
    ∃ outer outerColon, IsTernary kinds outer outerColon ∧ level kinds outer = level kinds mark ∧
      outer < mark ∧ mark < outerColon ∧ outerColon ≤ stop := by
  induction bound using Nat.strong_induction_on with
  | _ bound ih =>
  by_cases first : ∀ index, start ≤ index → index < bound →
      tally kinds (level kinds mark) .ternaryElse start index ≤
        tally kinds (level kinds mark) .ternaryThen start index
  · rcases Nat.eq_or_lt_of_le after with rfl | later
    · rw [tally_self, tally_self] at few
      cases few
    rcases Nat.exists_eq_add_one_of_ne_zero (Nat.ne_zero_of_lt later) with ⟨last, rfl⟩
    have last_after : start ≤ last := Nat.le_of_lt_succ later
    have enough := first last last_after (Nat.lt_succ_self last)
    -- The last token of the prefix is a colon, since it tips the balance.
    have more_thens : tally kinds (level kinds mark) .ternaryThen start last ≤
        tally kinds (level kinds mark) .ternaryThen start (last + 1) := by
      rw [tally_succ last_after]
      exact Nat.le_add_right _ _
    have tips : level kinds last = level kinds mark ∧ kinds[last]? = some .ternaryElse := by
      by_contra other
      rw [tally_succ last_after, tally_succ last_after, if_neg other] at few
      omega
    have one_more : tally kinds (level kinds mark) .ternaryElse start (last + 1) =
        tally kinds (level kinds mark) .ternaryElse start last + 1 := by
      rw [tally_succ last_after, if_pos tips]
    rcases tips with ⟨last_level, isElse⟩
    have balance := extent.waitingAt_eq strict last_after (by omega) last_level
    rcases IsTernary.exists_mark strict isElse with ⟨outer, enclosing⟩
    have outer_level := enclosing.level_eq.trans last_level
    have waiting_eq := enclosing.waiting_eq
    have outer_lt := enclosing.lt
    have outer_before : outer < start := by
      by_contra inside
      have outer_after : start ≤ outer := Nat.le_of_not_lt inside
      have outer_enough := first outer outer_after (by omega)
      have outer_balance := extent.waitingAt_eq strict outer_after (by omega) outer_level
      omega
    have mark_before : mark < last := by
      by_contra early
      rcases Nat.eq_or_lt_of_le (Nat.le_of_not_lt early) with rfl | sooner
      · cases isElse.symm.trans extent.ternary.isThen
      · have beyond := extent.lt_start rfl rfl isElse last_level sooner
        omega
    have start_le := extent.start_le
    exact ⟨outer, last, enclosing, outer_level, by omega, mark_before, by omega⟩
  · push Not at first
    rcases first with ⟨earlier, earlier_after, sooner, earlier_few⟩
    exact ih earlier sooner earlier_after (sooner.le.trans before) earlier_few

/-- The extent ends in front of the colon of a ternary around it if something at its level ends the
else branch first. -/
theorem lt_enclosing_iff {halt : Nat} (halts : HaltsAt kinds (colon + 1) stop halt)
    (enclosing : IsTernary kinds outer outerColon) (same : level kinds outer = level kinds mark)
    (before : outer < mark) (after : mark < outerColon) :
    stop < outerColon ↔ ∃ between kind, colon < between ∧ between < outerColon ∧
      level kinds between = level kinds mark ∧ kinds[between]? = some kind ∧
        endsElse kind = true := by
  have ternary := extent.ternary
  have branch_level : level kinds (colon + 1) = level kinds mark :=
    (level_succ ternary.answers.isElse rfl rfl).trans ternary.level_eq.symm
  have colon_level : level kinds outerColon = level kinds mark := enclosing.level_eq.symm.trans same
  have colon_lt : colon < outerColon := enclosing.colon_lt ternary same before after
  have isElse := enclosing.answers.isElse
  constructor
  · intro behind
    have halt_le : halt ≤ outerColon := by
      by_contra inside
      have blank := halts.trivia outerColon _ behind (Nat.lt_of_not_le inside) isElse
      cases blank
    have halt_level := halts.walk.level_eq.symm.trans branch_level
    have inside := halt_le.trans_lt (List.getElem?_eq_some_iff.mp isElse).1
    have found : kinds[halt]? = some kinds[halt] := List.getElem?_eq_getElem inside
    have colon_le := extent.colon_le
    have stop_lt := halts.stop_lt
    rcases halts.ends _ found with closes | ends
    · have halt_lt : halt < outerColon := by
        refine Nat.lt_of_le_of_ne halt_le ?_
        rintro rfl
        rw [Option.some.inj (found.symm.trans isElse)] at closes
        cases closes
      rcases strict.closer found closes with ⟨opener, member⟩
      have rises : opener < halt := BracketPair.lt_of_mem member
      apply absurd (halt_level.trans colon_level.symm)
      exact level_ne_of_inside member rises (Nat.le_refl _) (.inr halt_lt)
    · refine ⟨halt, _, by omega, Nat.lt_of_le_of_ne halt_le ?_, halt_level, found, ends⟩
      rintro rfl
      rw [Option.some.inj (found.symm.trans isElse)] at ends
      cases ends
  · rintro ⟨between, kind, between_after, between_before, between_level, found, ends⟩
    by_contra reaches
    have notOpens := (plain_of_endsElse ends).1
    have avoided := extent.branch.avoided_of_level between_after (by omega)
      (between_level.trans branch_level.symm) found notOpens
    rw [ends] at avoided
    cases avoided

end Extent

end Balance

namespace TokenStream

variable {source : String} {stream : TokenStream} {lexemes : List Lexeme}
  {mark start colon stop index other : Nat} {kind : TokenKind}

/-- How many tokens of a kind have the nesting of a token, from `start` on and in front of
`stop`. -/
def countBeside (stream : TokenStream) (index : Nat) (kind : TokenKind) (start stop : Nat) : Nat :=
  (List.range' start (stop - start)).countP fun other =>
    stream.SameNesting index other ∧ stream.hasKind other kind = true

/-- Whether of the tokens that have the nesting of a question mark, no prefix of a range has more
colons than question marks. -/
def Balanced (stream : TokenStream) (mark start stop : Nat) : Prop :=
  ∀ last, start ≤ last → last ≤ stop →
    stream.countBeside mark .ternaryElse start (last + 1) ≤
      stream.countBeside mark .ternaryThen start (last + 1)

/-- Whether a question mark stands in the middle operand of a ternary. -/
structure Encloses (stream : TokenStream) (outer outerColon mark : Nat) : Prop where
  isThen : stream.hasKind outer .ternaryThen = true
  answered : stream.ternaryElse? outer = some outerColon
  same : stream.SameNesting mark outer
  before : outer < mark
  after : mark < outerColon

theorem countBeside_ofLexemes {ownKind : TokenKind}
    (found : (lexemes.map Lexeme.kind)[index]? = some ownKind)
    (ownNotCloses : ownKind.closes? = none) (notCloses : kind.closes? = none) :
    (ofLexemes lexemes).countBeside index kind start stop =
      tally (lexemes.map Lexeme.kind) (level (lexemes.map Lexeme.kind) index) kind start stop := by
  apply List.countP_congr
  intro other _
  simp only [decide_eq_true_eq, hasKind_ofLexemes]
  refine and_congr_left fun found_other => ?_
  rw [sameNesting_iff found ownNotCloses found_other notCloses, eq_comm]

/-- The last token of an extent, which may close a pair, has the nesting of its level. -/
theorem sameNesting_of_level_succ (strict : Strict (lexemes.map Lexeme.kind))
    {ownKind : TokenKind} (own : (lexemes.map Lexeme.kind)[index]? = some ownKind)
    (ownNotCloses : ownKind.closes? = none) (found : (lexemes.map Lexeme.kind)[other]? = some kind)
    (notOpens : kind.opens? = none)
    (same : level (lexemes.map Lexeme.kind) (other + 1) = level (lexemes.map Lexeme.kind) index) :
    (ofLexemes lexemes).SameNesting index other := by
  cases closes : kind.closes? with
  | none =>
      apply (sameNesting_iff own ownNotCloses found closes).mpr
      exact same.symm.trans (level_succ found notOpens closes)
  | some shape =>
      rcases strict.closer found (Option.isSome_iff_exists.mpr ⟨_, closes⟩) with ⟨opener, member⟩
      have crossing : Walk (lexemes.map Lexeme.kind) endsElse opener (other + 1) :=
        .cross member (.stay _)
      rcases crossing.exists_kind (Nat.lt_succ_of_lt (BracketPair.lt_of_mem member)) with
        ⟨opening, opener_found, opener_notCloses⟩
      have opener_same : (ofLexemes lexemes).SameNesting index opener := by
        apply (sameNesting_iff own ownNotCloses opener_found opener_notCloses).mpr
        exact same.symm.trans (level_closer_succ member)
      have closer_same := sameNesting_closer member
      exact ⟨opener_same.1.trans closer_same.1, opener_same.2.trans closer_same.2⟩

/-- What the three searches find around a question mark of a source that can be read. -/
theorem extent_of_searches (strict : Strict (lexemes.map Lexeme.kind))
    (isThen : (ofLexemes lexemes).hasKind mark .ternaryThen = true)
    (started : (ofLexemes lexemes).conditionStart? mark = some start)
    (answered : (ofLexemes lexemes).ternaryElse? mark = some colon)
    (ended : (ofLexemes lexemes).elseEnd? colon = some stop) :
    Extent (lexemes.map Lexeme.kind) start mark colon stop := by
  have ternary := (ternaryElse?_eq_some_iff strict isThen).mp answered
  rcases walk_of_conditionStart? strict started with ⟨-, statement, condition⟩
  exact ⟨ternary, condition, statement, (exists_haltsAt_of_elseEnd? ended).2.1⟩

theorem enclosing_of_encloses (strict : Strict (lexemes.map Lexeme.kind)) {outer outerColon : Nat}
    (isThen : (lexemes.map Lexeme.kind)[mark]? = some .ternaryThen) :
    (ofLexemes lexemes).Encloses outer outerColon mark ↔
      IsTernary (lexemes.map Lexeme.kind) outer outerColon ∧
        level (lexemes.map Lexeme.kind) outer = level (lexemes.map Lexeme.kind) mark ∧
          outer < mark ∧ mark < outerColon := by
  constructor
  · intro encloses
    have enclosing := (ternaryElse?_eq_some_iff strict encloses.isThen).mp encloses.answered
    have same := (sameNesting_iff isThen rfl enclosing.isThen rfl).mp encloses.same
    exact ⟨enclosing, same.symm, encloses.before, encloses.after⟩
  · rintro ⟨enclosing, same, before, after⟩
    have outerThen := hasKind_ofLexemes.mpr enclosing.isThen
    refine ⟨outerThen, (ternaryElse?_eq_some_iff strict outerThen).mpr enclosing, ?_, before, after⟩
    exact (sameNesting_iff isThen rfl enclosing.isThen rfl).mpr same.symm

/-- In a source whose brackets all match, the ends of a ternary and its two signs stand in order and
inside the same brackets. Between its ends the colons never outnumber the question marks exactly if
it ends in front of the colon of every ternary in whose middle operand it stands, and that is so
exactly if something else of its level ends its else branch in front of that colon. -/
theorem balanced_iff_ends_before_enclosing (read : tokenize source = .ok stream)
    (isThen : stream.hasKind mark .ternaryThen = true)
    (started : stream.conditionStart? mark = some start)
    (answered : stream.ternaryElse? mark = some colon)
    (ended : stream.elseEnd? colon = some stop) :
    (start < mark ∧ mark < colon ∧ colon < stop) ∧
    (stream.SameNesting mark start ∧ stream.SameNesting mark colon ∧
      stream.SameNesting mark stop) ∧
    (stream.Balanced mark start stop ↔
      ∀ outer outerColon, stream.Encloses outer outerColon mark → stop < outerColon) ∧
    ∀ outer outerColon, stream.Encloses outer outerColon mark →
      (stop < outerColon ↔ ∃ between, colon < between ∧ between < outerColon ∧
        stream.SameNesting mark between ∧ stream.kindIs between endsElse = true) := by
  rcases strict_of_tokenize read with ⟨lexemes, rfl, strict⟩
  have extent := extent_of_searches strict isThen started answered ended
  have ternary := extent.ternary
  rcases walk_of_conditionStart? strict started with ⟨start_lt, -, condition⟩
  rcases exists_haltsAt_of_elseEnd? ended with ⟨colon_lt, branch, halt, halts⟩
  have isMark := ternary.isThen
  have ordered : start < mark ∧ mark < colon ∧ colon < stop := ⟨start_lt, ternary.lt, colon_lt⟩
  have start_same : (ofLexemes lexemes).SameNesting mark start := by
    rcases condition.exists_kind start_lt with ⟨kind, found, notCloses⟩
    exact (sameNesting_iff isMark rfl found notCloses).mpr condition.level_eq.symm
  have colon_same : (ofLexemes lexemes).SameNesting mark colon :=
    (sameNesting_iff isMark rfl ternary.answers.isElse rfl).mpr ternary.level_eq
  have stop_same : (ofLexemes lexemes).SameNesting mark stop := by
    have colon_level := level_succ ternary.answers.isElse rfl rfl
    have stop_level := branch.level_eq.symm.trans colon_level
    rcases branch.exists_last_kind (Nat.succ_lt_succ colon_lt) with ⟨kind, found, notOpens⟩
    apply sameNesting_of_level_succ strict isMark rfl found notOpens
    exact stop_level.trans ternary.level_eq.symm
  refine ⟨ordered, ⟨start_same, colon_same, stop_same⟩, ?_, ?_⟩
  · constructor
    · intro balanced outer outerColon encloses
      rcases (enclosing_of_encloses strict isMark).mp encloses with ⟨enclosing, same, before, after⟩
      by_contra reaches
      have start_le : start ≤ outerColon := (start_lt.trans after).le
      have enough := balanced outerColon start_le (Nat.le_of_not_lt reaches)
      rw [countBeside_ofLexemes isMark rfl rfl, countBeside_ofLexemes isMark rfl rfl] at enough
      apply Nat.not_lt_of_le enough
      exact extent.tally_lt_of_enclosed strict enclosing same before after
        (Nat.le_of_not_lt reaches)
    · intro apart last after before
      rw [countBeside_ofLexemes isMark rfl rfl, countBeside_ofLexemes isMark rfl rfl]
      by_contra few
      rcases extent.exists_enclosing_of_tally_lt strict (Nat.le_succ_of_le after)
        (Nat.succ_le_succ before) (Nat.lt_of_not_le few) with
        ⟨outer, outerColon, enclosing, same, outer_lt, lt_colon, reaches⟩
      have encloses := (enclosing_of_encloses strict isMark).mpr
        ⟨enclosing, same, outer_lt, lt_colon⟩
      exact absurd (apart outer outerColon encloses) (Nat.not_lt_of_le reaches)
  · intro outer outerColon encloses
    rcases (enclosing_of_encloses strict isMark).mp encloses with ⟨enclosing, same, before, after⟩
    rw [extent.lt_enclosing_iff strict halts enclosing same before after]
    constructor
    · rintro ⟨between, kind, between_after, between_before, between_level, found, ends⟩
      have notCloses := (plain_of_endsElse ends).2
      refine ⟨between, between_after, between_before, ?_, ?_⟩
      · exact (sameNesting_iff isMark rfl found notCloses).mpr between_level.symm
      · rw [kindIs, kind?_ofLexemes, found]
        exact ends
    · rintro ⟨between, between_after, between_before, beside, ends⟩
      rw [kindIs, kind?_ofLexemes] at ends
      rcases (Option.any_eq_true _ _).mp ends with ⟨kind, found, ends⟩
      have notCloses := (plain_of_endsElse ends).2
      have between_level := (sameNesting_iff isMark rfl found notCloses).mp beside
      exact ⟨between, kind, between_after, between_before, between_level.symm, found, ends⟩

/-- In the middle operand of another ternary an assignment cuts the else branch short. -/
theorem balanced_iff_ends_before_enclosing_assigning :
    ∃ stream, tokenize "<?php $a?$b?1:$c=2:3;" = .ok stream ∧ stream.Encloses 2 10 4 ∧
      stream.elseEnd? 6 = some 7 ∧
      (stream.Balanced 4 3 7 ↔
        ∀ outer outerColon, stream.Encloses outer outerColon 4 → 7 < outerColon) ∧
      (7 < 10 ↔ ∃ between, 6 < between ∧ between < 10 ∧ stream.SameNesting 4 between ∧
        stream.kindIs between endsElse = true) := by
  have outcome : (tokenize "<?php $a?$b?1:$c=2:3;").toOption.map (fun stream =>
      ([stream.hasKind 2 .ternaryThen, stream.hasKind 4 .ternaryThen,
        decide (stream.SameNesting 4 2)],
        [stream.ternaryElse? 2, stream.ternaryElse? 4, stream.conditionStart? 4,
          stream.elseEnd? 6])) =
      some ([true, true, true], [some 10, some 6, some 3, some 7]) := by decide +kernel
  rcases exists_tokenize_of_map_toOption outcome with ⟨stream, read, seen⟩
  simp only [Prod.mk.injEq, List.cons.injEq, decide_eq_true_eq, and_true] at seen
  rcases seen with ⟨⟨outerThen, isThen, same⟩, outerAnswered, answered, started, ended⟩
  have encloses : stream.Encloses 2 10 4 := ⟨outerThen, outerAnswered, same, by decide, by decide⟩
  rcases balanced_iff_ends_before_enclosing read isThen started answered ended with
    ⟨-, -, balanced_iff, ends_iff⟩
  exact ⟨stream, read, encloses, ended, balanced_iff, ends_iff 2 10 encloses⟩

/-- Nothing stops the else branch of the inner ternary from taking in the colon of the outer one. -/
theorem not_balanced_nestedTernary :
    ∃ stream, tokenize "<?php $a ? $b ? 1 : 2 : 3;" = .ok stream ∧
      stream.hasKind 7 .ternaryThen = true ∧ stream.conditionStart? 7 = some 5 ∧
      stream.ternaryElse? 7 = some 11 ∧ stream.elseEnd? 11 = some 17 ∧ ¬stream.Balanced 7 5 17 := by
  have outcome : (tokenize "<?php $a ? $b ? 1 : 2 : 3;").toOption.map (fun stream =>
      (stream.hasKind 7 .ternaryThen, stream.conditionStart? 7, stream.ternaryElse? 7,
        stream.elseEnd? 11, stream.countBeside 7 .ternaryElse 5 16,
        stream.countBeside 7 .ternaryThen 5 16)) =
      some (true, some 5, some 11, some 17, 2, 1) := by decide +kernel
  rcases exists_tokenize_of_map_toOption outcome with ⟨stream, read, seen⟩
  simp only [Prod.mk.injEq] at seen
  rcases seen with ⟨isThen, started, answered, ended, colons, marks⟩
  refine ⟨stream, read, isThen, started, answered, ended, ?_⟩
  intro balanced
  have enough : stream.countBeside 7 .ternaryElse 5 16 ≤ stream.countBeside 7 .ternaryThen 5 16 :=
    balanced 15 (by decide) (by decide)
  rw [colons, marks] at enough
  exact absurd enough (by decide)

end TokenStream

end TokenLint
