import TokenLint.Proofs.Stream.Ternary

/-!
# Walks along a level

Most searches step over a pair of brackets as a whole and so see the tokens of one level only. A
walk is such a run of steps. On a walk that meets no semicolon and no close tag, every question mark
makes one more ternary wait and every colon of a ternary one less.
-/

namespace TokenLint

open Lexer

/-- A way from one token to another that passes tokens which are no brackets and crosses pairs of
brackets. What it passes is not of the kinds that it avoids. -/
inductive Walk (kinds : List TokenKind) (avoids : TokenKind → Bool) : Nat → Nat → Prop where
  | stay (index : Nat) : Walk kinds avoids index index
  | pass {index stop : Nat} {kind : TokenKind} (found : kinds[index]? = some kind)
      (notOpens : kind.opens? = none) (notCloses : kind.closes? = none)
      (avoided : avoids kind = false) (rest : Walk kinds avoids (index + 1) stop) :
      Walk kinds avoids index stop
  | cross {pair : BracketPair} {stop : Nat} (member : pair ∈ bracketPairs kinds)
      (rest : Walk kinds avoids (pair.closer + 1) stop) : Walk kinds avoids pair.opener stop

theorem BracketPair.opens_of_mem {kinds : List TokenKind} {pair : BracketPair} {kind : TokenKind}
    (member : pair ∈ bracketPairs kinds) (found : kinds[pair.opener]? = some kind) :
    kind.opens? ≠ none := by
  rcases BracketPair.exists_shape member with ⟨shape, opens, -⟩
  cases found.symm.trans opens
  simp

namespace Walk

variable {kinds : List TokenKind} {avoids shuns : TokenKind → Bool}
  {start middle stop index : Nat} {kind : TokenKind}

theorem le (walk : Walk kinds avoids start stop) : start ≤ stop := by
  induction walk with
  | stay index => exact Nat.le_refl index
  | pass found notOpens notCloses avoided rest ih => omega
  | cross member rest ih =>
      have rises := BracketPair.lt_of_mem member
      omega

theorem level_eq (walk : Walk kinds avoids start stop) : level kinds start = level kinds stop := by
  induction walk with
  | stay index => rfl
  | pass found notOpens notCloses avoided rest ih =>
      exact (level_succ found notOpens notCloses).symm.trans ih
  | cross member rest ih => exact (level_closer_succ member).symm.trans ih

theorem trans (first : Walk kinds avoids start middle) (second : Walk kinds avoids middle stop) :
    Walk kinds avoids start stop := by
  induction first with
  | stay index => exact second
  | pass found notOpens notCloses avoided rest ih =>
      exact .pass found notOpens notCloses avoided (ih second)
  | cross member rest ih => exact .cross member (ih second)

theorem mono (weaker : ∀ kind, avoids kind = false → shuns kind = false)
    (walk : Walk kinds avoids start stop) : Walk kinds shuns start stop := by
  induction walk with
  | stay index => exact .stay index
  | pass found notOpens notCloses avoided rest ih =>
      exact .pass found notOpens notCloses (weaker _ avoided) ih
  | cross member rest ih => exact .cross member ih

/-- A walk comes by every token of its level. -/
theorem split (walk : Walk kinds avoids start stop) (after : start ≤ middle)
    (before : middle ≤ stop) (same : level kinds middle = level kinds start) :
    Walk kinds avoids start middle ∧ Walk kinds avoids middle stop := by
  induction walk with
  | stay index =>
      cases Nat.le_antisymm after before
      exact ⟨.stay _, .stay _⟩
  | pass found notOpens notCloses avoided rest ih =>
      rcases Nat.eq_or_lt_of_le after with rfl | later
      · exact ⟨.stay _, .pass found notOpens notCloses avoided rest⟩
      · have parts := ih later before (same.trans (level_succ found notOpens notCloses).symm)
        exact ⟨.pass found notOpens notCloses avoided parts.1, parts.2⟩
  | cross member rest ih =>
      rcases Nat.eq_or_lt_of_le after with rfl | later
      · exact ⟨.stay _, .cross member rest⟩
      · have outside := Nat.lt_of_not_le fun inside =>
          level_ne_of_inside member later inside (.inl (Nat.le_refl _)) same
        have parts := ih outside before (same.trans (level_closer_succ member).symm)
        exact ⟨.cross member parts.1, parts.2⟩

theorem avoided_of_level (walk : Walk kinds avoids start stop) (after : start ≤ index)
    (before : index < stop) (same : level kinds index = level kinds start)
    (found : kinds[index]? = some kind) (notOpens : kind.opens? = none) : avoids kind = false := by
  rcases (walk.split after before.le same).2 with _ | ⟨here, -, -, avoided, -⟩ | ⟨member, -⟩
  · exact absurd before (Nat.lt_irrefl _)
  · cases here.symm.trans found
    exact avoided
  · exact absurd notOpens (BracketPair.opens_of_mem member found)

/-- A walk that goes anywhere begins with a token that closes nothing. -/
theorem exists_kind (walk : Walk kinds avoids start stop) (before : start < stop) :
    ∃ kind, kinds[start]? = some kind ∧ kind.closes? = none := by
  rcases walk with _ | ⟨found, -, notCloses, -, -⟩ | ⟨member, -⟩
  · exact absurd before (Nat.lt_irrefl _)
  · exact ⟨_, found, notCloses⟩
  · rcases BracketPair.exists_shape member with ⟨shape, opens, -⟩
    exact ⟨_, opens, shape.closes?_opener⟩

/-- The last token of a walk opens nothing. -/
theorem exists_last_kind (walk : Walk kinds avoids start stop) (before : start < stop) :
    ∃ kind, kinds[stop - 1]? = some kind ∧ kind.opens? = none := by
  induction walk with
  | stay index => exact absurd before (Nat.lt_irrefl _)
  | pass found notOpens notCloses avoided rest ih =>
      rcases Nat.eq_or_lt_of_le rest.le with rfl | later
      · exact ⟨_, found, notOpens⟩
      · exact ih later
  | cross member rest ih =>
      rcases Nat.eq_or_lt_of_le rest.le with rfl | later
      · rcases BracketPair.exists_shape member with ⟨shape, -, closes⟩
        exact ⟨_, closes, shape.opens?_closer⟩
      · exact ih later

end Walk

/-- Two tokens of one level have a walk between them. -/
theorem Strict.walk {kinds : List TokenKind} (strict : Strict kinds) {avoids : TokenKind → Bool}
    {start stop : Nat} (start_le : start ≤ stop) (inside : stop ≤ kinds.length)
    (same : level kinds start = level kinds stop)
    (avoided : ∀ index kind, start ≤ index → index < stop →
      level kinds index = level kinds start → kinds[index]? = some kind → kind.opens? = none →
        avoids kind = false) : Walk kinds avoids start stop := by
  induction distance : stop - start using Nat.strong_induction_on generalizing start with
  | _ distance ih =>
    rcases Nat.eq_or_lt_of_le start_le with rfl | before
    · exact .stay _
    have found : kinds[start]? = some kinds[start] := List.getElem?_eq_getElem (by omega)
    cases opens : kinds[start].opens? with
    | some shape =>
        rcases strict.opener found (Option.isSome_iff_exists.mpr ⟨_, opens⟩) with ⟨closer, member⟩
        have rises : start < closer := BracketPair.lt_of_mem member
        have closer_lt : closer < stop := by
          by_contra behind
          apply level_ne_of_inside member before (Nat.le_of_not_lt behind) (.inl (Nat.le_refl _))
          exact same.symm
        have behind_eq := level_closer_succ member
        refine .cross member (ih (stop - (closer + 1)) (by omega) closer_lt
          (behind_eq.trans same) ?_ rfl)
        intro index kind after later beside
        exact avoided index kind (by dsimp only at after; omega) later (beside.trans behind_eq)
    | none =>
        cases closes : kinds[start].closes? with
        | some shape =>
            rcases strict.closer found (Option.isSome_iff_exists.mpr ⟨_, closes⟩) with
              ⟨opener, member⟩
            have rises : opener < start := BracketPair.lt_of_mem member
            exact absurd same (level_ne_of_inside member rises (Nat.le_refl _) (.inr before))
        | none =>
            have next_eq := level_succ found opens closes
            refine .pass found opens closes ?_ (ih (stop - (start + 1)) (by omega) before
              (next_eq.trans same) ?_ rfl)
            · exact avoided start _ (Nat.le_refl _) before rfl found opens
            · intro index kind after later beside
              exact avoided index kind (by omega) later (beside.trans next_eq)

section Tally

variable {kinds : List TokenKind} {here : List BracketPair} {kind : TokenKind}
  {start middle stop : Nat}

/-- How many tokens of a kind stand at a level, from `start` on and in front of `stop`. -/
def tally (kinds : List TokenKind) (here : List BracketPair) (kind : TokenKind)
    (start stop : Nat) : Nat :=
  (List.range' start (stop - start)).countP fun index =>
    level kinds index = here ∧ kinds[index]? = some kind

theorem tally_self : tally kinds here kind start start = 0 := by simp [tally]

theorem tally_split (after : start ≤ middle) (before : middle ≤ stop) :
    tally kinds here kind start stop =
      tally kinds here kind start middle + tally kinds here kind middle stop := by
  have range_eq : List.range' start (middle - start) ++ List.range' middle (stop - middle) =
      List.range' start (stop - start) := by
    have middle_eq : middle = start + (middle - start) := by omega
    have length_eq : stop - start = middle - start + (stop - middle) := by omega
    rw [length_eq, ← List.range'_append_1, ← middle_eq]
  rw [tally, ← range_eq, List.countP_append, tally, tally]

theorem tally_succ (after : start ≤ stop) : tally kinds here kind start (stop + 1) =
    tally kinds here kind start stop +
      if level kinds stop = here ∧ kinds[stop]? = some kind then 1 else 0 := by
  rw [tally_split after (Nat.le_succ stop)]
  simp [tally, List.countP_cons]

theorem tally_eq_zero (apart : ∀ index, start ≤ index → index < stop →
    level kinds index = here → kinds[index]? ≠ some kind) :
    tally kinds here kind start stop = 0 := by
  apply List.countP_eq_zero.mpr
  intro index member
  rw [List.mem_range'_1] at member
  simp only [decide_eq_true_eq, not_and]
  exact apart index member.1 (by omega)

theorem tally_pass {other : TokenKind} (found : kinds[start]? = some other)
    (before : start < stop) :
    tally kinds (level kinds start) kind start stop =
      (if other = kind then 1 else 0) + tally kinds (level kinds start) kind (start + 1) stop := by
  rw [tally_split (Nat.le_succ start) before]
  simp [tally, found]

theorem tally_cross {pair : BracketPair} (member : pair ∈ bracketPairs kinds)
    (notOpens : kind.opens? = none) (before : pair.closer < stop) :
    tally kinds (level kinds pair.opener) kind pair.opener stop =
      tally kinds (level kinds pair.opener) kind (pair.closer + 1) stop := by
  have rises := BracketPair.lt_of_mem member
  rw [tally_split (Nat.le_succ_of_le rises.le) before, Nat.add_eq_right]
  apply tally_eq_zero
  intro index after inside same found
  rcases Nat.eq_or_lt_of_le after with rfl | later
  · exact BracketPair.opens_of_mem member found notOpens
  · apply level_ne_of_inside member later (Nat.le_of_lt_succ inside) (.inl (Nat.le_refl _))
    exact same

end Tally

/-- What makes the scanner forget the ternaries of a level. -/
def forgetsTernaries (kind : TokenKind) : Bool := kind = .semicolon || kind = .closeTag

/-- Along a walk the ternaries that wait are those that waited before and one for each question
mark, less one for each colon. -/
theorem Walk.waitingAt_eq {kinds : List TokenKind} (strict : Strict kinds) {start stop : Nat}
    (walk : Walk kinds forgetsTernaries start stop) :
    waitingAt kinds stop + tally kinds (level kinds start) .ternaryElse start stop =
      waitingAt kinds start + tally kinds (level kinds start) .ternaryThen start stop := by
  induction walk with
  | stay index => rw [tally_self, tally_self]
  | @pass index stop kind found notOpens notCloses avoided rest ih =>
      have before := rest.le
      rw [level_succ found notOpens notCloses] at ih
      rw [tally_pass found before, tally_pass found before]
      by_cases isThen : kind = .ternaryThen
      · subst isThen
        have one_more := waitingAt_succ_then found
        simp only [reduceCtorEq, if_false, if_true]
        omega
      · by_cases isElse : kind = .ternaryElse
        · subst isElse
          have one_less := strict.waitingAt_else found
          simp only [reduceCtorEq, if_false, if_true]
          omega
        · have keeps : keepsNesting kind = true := by
            simp only [forgetsTernaries, Bool.or_eq_false_iff, decide_eq_false_iff_not] at avoided
            simp [keepsNesting, notOpens, notCloses, isThen, isElse, avoided]
          have as_many := waitingAt_succ_of_keeps found keeps
          simp only [isThen, isElse, if_false]
          omega
  | cross member rest ih =>
      rw [strict.waitingAt_closer_succ member, level_closer_succ member] at ih
      rw [tally_cross member rfl rest.le, tally_cross member rfl rest.le]
      exact ih

end TokenLint
