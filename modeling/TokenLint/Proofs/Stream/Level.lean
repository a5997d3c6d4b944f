import TokenLint.Proofs.Stream.Nesting
import Mathlib.Data.List.Perm.Subperm

/-!
# Levels

The level of a token is the list of the pairs that it stands in, outermost first. Only brackets
change it: what stands behind a pair is at the level of its opener, and what stands inside is not.
Two tokens that close nothing stand at the same level if and only if their annotations name the same
scope and the same bracket, since of each class the innermost pair tells all others.
-/

namespace TokenLint

/-- The pairs that a token stands in, outermost first. A closer stands in its own pair. -/
def level (kinds : List TokenKind) (index : Nat) : List BracketPair :=
  pairsOpen (closerIn? kinds TokenKind.isOpener) index

variable {kinds : List TokenKind} {index : Nat} {pair : BracketPair} {kind : TokenKind}

theorem mem_level_iff :
    pair ∈ level kinds index ↔
      pair ∈ bracketPairs kinds ∧ pair.opener < index ∧ index ≤ pair.closer := by
  simp only [level, pairsOpen, List.mem_filter, mem_pairsBefore_iff, decide_eq_true_eq,
    closerIn?_eq_some_iff fun _ opens => opens]
  constructor
  · rintro ⟨⟨before, -, member⟩, reaches⟩
    exact ⟨member, before, reaches⟩
  · rintro ⟨member, before, reaches⟩
    rcases BracketPair.exists_shape member with ⟨shape, found, -⟩
    exact ⟨⟨before, by simp [found, TokenKind.isOpener], member⟩, reaches⟩

theorem level_zero (kinds : List TokenKind) : level kinds 0 = [] := by
  rw [List.eq_nil_iff_forall_not_mem]
  intro pair member
  exact absurd (mem_level_iff.mp member).2.1 (Nat.not_lt_zero _)

theorem level_length (kinds : List TokenKind) : level kinds kinds.length = [] := by
  rw [List.eq_nil_iff_forall_not_mem]
  intro pair member
  rcases exists_pairing kinds with ⟨stack, pairing⟩
  have among := mem_level_iff.mp member
  have bounds := pairing.matched pair among.1
  omega

theorem nested_all (kinds : List TokenKind) : Nested (closerIn? kinds TokenKind.isOpener) :=
  nested_closerIn? fun _ opens => opens

theorem nodup_of_pairwise_contains {pairs : List BracketPair}
    (contains : pairs.Pairwise BracketPair.Contains) : pairs.Nodup := by
  refine contains.imp ?_
  rintro first second contains rfl
  exact Nat.lt_irrefl _ contains.1

/-- Pairs that contain each other have one order only. -/
theorem eq_of_pairwise_contains {pairs others : List BracketPair}
    (contains : pairs.Pairwise BracketPair.Contains)
    (others_contains : others.Pairwise BracketPair.Contains)
    (members : ∀ pair, pair ∈ pairs ↔ pair ∈ others) : pairs = others := by
  have asymm : ∀ first second : BracketPair, first ∈ pairs → second ∈ others →
      first.Contains second → second.Contains first → first = second := by
    intro first second _ _ contains contained
    exact absurd contained.1 (Nat.lt_asymm contains.1)
  have perm : pairs.Perm others :=
    (List.perm_ext_iff_of_nodup (nodup_of_pairwise_contains contains)
      (nodup_of_pairwise_contains others_contains)).mpr members
  exact List.Perm.eq_of_pairwise asymm contains others_contains perm

theorem pairwise_level (kinds : List TokenKind) (index : Nat) :
    (level kinds index).Pairwise BracketPair.Contains :=
  (nested_all kinds).pairwise_pairsOpen index

/-- Levels are the same if the same pairs belong to them. -/
theorem level_congr {other : Nat}
    (same : ∀ pair ∈ bracketPairs kinds, pair.opener < index ∧ index ≤ pair.closer ↔
      pair.opener < other ∧ other ≤ pair.closer) : level kinds index = level kinds other := by
  apply eq_of_pairwise_contains (pairwise_level kinds index) (pairwise_level kinds other)
  intro pair
  rw [mem_level_iff, mem_level_iff]
  exact and_congr_right (same pair)

/-- A token that no pair begins or ends with does not change the level. -/
theorem level_succ_of_apart
    (apart : ∀ pair ∈ bracketPairs kinds, pair.opener ≠ index ∧ pair.closer ≠ index) :
    level kinds (index + 1) = level kinds index := by
  apply level_congr
  intro pair member
  have ends := apart pair member
  omega

/-- A token that is no bracket does not change the level. -/
theorem level_succ (found : kinds[index]? = some kind) (notOpens : kind.opens? = none)
    (notCloses : kind.closes? = none) : level kinds (index + 1) = level kinds index := by
  apply level_succ_of_apart
  intro pair member
  rcases BracketPair.exists_shape member with ⟨shape, opens, closes⟩
  constructor
  · rintro rfl
    cases found.symm.trans opens
    simp at notOpens
  · rintro rfl
    cases found.symm.trans closes
    simp at notCloses

/-- Whether a token stands at an end of a pair: at one of its brackets or right behind it. -/
def BracketPair.HasEndAt (pair : BracketPair) (index : Nat) : Prop :=
  index = pair.opener ∨ index = pair.opener + 1 ∨ index = pair.closer ∨ index = pair.closer + 1

/-- The other pairs that a token at an end of a pair stands in are those that contain the pair. -/
theorem contains_iff_of_hasEndAt {other : BracketPair} (member : pair ∈ bracketPairs kinds)
    (among : other ∈ bracketPairs kinds) (differ : pair ≠ other) (atEnd : pair.HasEndAt index) :
    other.opener < index ∧ index ≤ other.closer ↔ other.Contains pair := by
  have rises := BracketPair.lt_of_mem member
  have rises_other := BracketPair.lt_of_mem among
  have apart := (BracketPair.laminar_of_mem member among).resolve_left differ
  simp only [BracketPair.Contains, BracketPair.HasEndAt] at apart atEnd ⊢
  rcases atEnd with rfl | rfl | rfl | rfl <;> omega

/-- Two ends of a pair are at one level unless the pair itself separates them. -/
theorem level_eq_of_hasEndAt {other : Nat} (member : pair ∈ bracketPairs kinds)
    (atEnd : pair.HasEndAt index) (otherAtEnd : pair.HasEndAt other)
    (own : pair.opener < index ∧ index ≤ pair.closer ↔
      pair.opener < other ∧ other ≤ pair.closer) : level kinds index = level kinds other := by
  apply level_congr
  intro around among
  by_cases same : pair = around
  · subst same
    exact own
  · rw [contains_iff_of_hasEndAt member among same atEnd,
      contains_iff_of_hasEndAt member among same otherAtEnd]

/-- Behind a pair the level is what it was before the pair. -/
theorem level_closer_succ (member : pair ∈ bracketPairs kinds) :
    level kinds (pair.closer + 1) = level kinds pair.opener := by
  apply level_eq_of_hasEndAt member (.inr (.inr (.inr rfl))) (.inl rfl)
  omega

/-- The closer of a pair stands at the level of what follows the opener. -/
theorem level_closer (member : pair ∈ bracketPairs kinds) :
    level kinds pair.closer = level kinds (pair.opener + 1) := by
  have rises := BracketPair.lt_of_mem member
  apply level_eq_of_hasEndAt member (.inr (.inr (.inl rfl))) (.inr (.inl rfl))
  omega

/-- Behind its opener a pair is the innermost of the level. -/
theorem level_opener_succ (member : pair ∈ bracketPairs kinds) :
    level kinds (pair.opener + 1) = level kinds pair.opener ++ [pair] := by
  rcases BracketPair.exists_shape member with ⟨shape, found, -⟩
  have isOpener : shape.opener.isOpener = true := by simp [TokenKind.isOpener]
  have closer_eq : closerIn? kinds TokenKind.isOpener pair.opener = some pair.closer := by
    apply (closerIn?_eq_some_iff fun _ opens => opens).mpr
    exact ⟨by rw [found, Option.any_some, isOpener], member⟩
  have kept : ∀ other ∈ level kinds pair.opener, decide (other.closer ≠ pair.opener) = true := by
    intro other among
    apply decide_eq_true
    exact ne_closer_of_isOpener (mem_level_iff.mp among).1 found isOpener
  rw [level, (nested_all kinds).pairsOpen_succ, pairsAround_eq_filter, pairAt?, closer_eq]
  exact congrArg (· ++ [pair]) (List.filter_eq_self.mpr kept)

/-- Pairs whose closers stand at the same level are the same. -/
theorem eq_of_level_closer_eq {other : BracketPair} (member : pair ∈ bracketPairs kinds)
    (among : other ∈ bracketPairs kinds)
    (same : level kinds pair.closer = level kinds other.closer) : pair = other := by
  rw [level_closer member, level_closer among, level_opener_succ member,
    level_opener_succ among] at same
  have last_eq := congrArg List.getLast? same
  rw [List.getLast?_concat, List.getLast?_concat, Option.some.injEq] at last_eq
  exact last_eq

/-- The level of a token begins behind the opener of its innermost pair. -/
theorem level_of_innermost {outer : List BracketPair}
    (level_eq : level kinds index = outer ++ [pair]) :
    level kinds (pair.opener + 1) = level kinds index := by
  have order := pairwise_level kinds index
  rw [level_eq, List.pairwise_append] at order
  rcases mem_level_iff.mp (by simp [level_eq] : pair ∈ level kinds index) with
    ⟨member, after, before⟩
  apply level_congr
  intro other among
  have laminar := BracketPair.laminar_of_mem member among
  simp only [BracketPair.Laminar, BracketPair.Contains] at laminar
  constructor
  · rintro ⟨begins, reaches⟩
    rcases laminar with rfl | apart
    · exact ⟨after, before⟩
    · omega
  · intro around
    have inside := mem_level_iff.mpr ⟨among, around⟩
    rw [level_eq, List.mem_append, List.mem_singleton] at inside
    rcases inside with outside | rfl
    · have contains := order.2.2 other outside pair (List.mem_singleton.mpr rfl)
      simp only [BracketPair.Contains] at contains
      omega
    · omega

/-- Inside a pair the level is another one than in front of it. -/
theorem level_ne_of_inside (member : pair ∈ bracketPairs kinds) (after : pair.opener < index)
    (before : index ≤ pair.closer) {other : Nat}
    (outside : other ≤ pair.opener ∨ pair.closer < other) :
    level kinds index ≠ level kinds other := by
  intro same
  have among := mem_level_iff.mpr ⟨member, after, before⟩
  rw [same] at among
  have bounds := mem_level_iff.mp among
  omega

theorem length_level_lt_of_inside (member : pair ∈ bracketPairs kinds)
    (after : pair.opener < index) (before : index ≤ pair.closer) :
    (level kinds pair.opener).length < (level kinds index).length := by
  have kept : level kinds (pair.opener + 1) ⊆ level kinds index := by
    intro other among
    rcases mem_level_iff.mp among with ⟨among, begins, reaches⟩
    have laminar := BracketPair.laminar_of_mem member among
    simp only [BracketPair.Laminar, BracketPair.Contains] at laminar
    refine mem_level_iff.mpr ⟨among, by omega, ?_⟩
    rcases laminar with rfl | apart
    · exact before
    · omega
  have distinct := nodup_of_pairwise_contains (pairwise_level kinds (pair.opener + 1))
  have shorter := (distinct.subperm kept).length_le
  rw [level_opener_succ member, List.length_append] at shorter
  exact shorter

section Innermost

variable {closer? : Nat → Option Nat} {index other : Nat}

/-- The innermost pair around a token tells all others. -/
theorem Nested.pairsAround_eq_of_getLast? (nested : Nested closer?)
    (same : (pairsAround closer? index).getLast? = (pairsAround closer? other).getLast?) :
    pairsAround closer? index = pairsAround closer? other := by
  have kept : ∀ {here there},
      (pairsAround closer? here).getLast? = (pairsAround closer? there).getLast? →
        ∀ pair ∈ pairsAround closer? here, pair ∈ pairsAround closer? there := by
    intro here there same pair member
    have order := nested.pairwise_pairsAround here
    rcases List.eq_nil_or_concat (pairsAround closer? here) with nothing | ⟨outer, innermost, eq⟩
    · rw [nothing] at member
      cases member
    · rw [eq, List.concat_eq_append, List.getLast?_concat] at same
      have innermost_around := mem_pairsAround_iff.mp (List.mem_of_getLast? same.symm)
      rw [eq, List.concat_eq_append, List.mem_append, List.mem_singleton] at member
      rcases member with outside | rfl
      · have contains : pair.Contains innermost := by
          rw [eq, List.concat_eq_append, List.pairwise_append] at order
          exact order.2.2 pair outside innermost (List.mem_singleton.mpr rfl)
        have around : pair ∈ pairsAround closer? here := by simp [eq, outside]
        refine mem_pairsAround_iff.mpr ⟨(mem_pairsAround_iff.mp around).1, ?_, ?_⟩
        · exact Nat.lt_trans contains.1 innermost_around.2.1
        · exact Nat.lt_trans innermost_around.2.2 contains.2
      · exact mem_pairsAround_iff.mpr innermost_around
  exact eq_of_pairwise_contains (nested.pairwise_pairsAround index)
    (nested.pairwise_pairsAround other) fun pair => ⟨kept same pair, kept same.symm pair⟩

end Innermost

section Annotations

variable {kinds : List TokenKind} {index other : Nat} {pair : BracketPair}
  {inClass : TokenKind → Bool}

/-- Only a closer stands at the end of a pair. -/
theorem le_closer_iff (notCloses : kinds[index]?.bind TokenKind.closes? = none)
    (member : pair ∈ bracketPairs kinds) : index ≤ pair.closer ↔ index < pair.closer := by
  rcases BracketPair.exists_shape member with ⟨shape, -, closes⟩
  have closer_ne : pair.closer ≠ index := by
    rintro rfl
    simp [closes] at notCloses
  omega

/-- The pairs of a class around a token are those of its level. -/
theorem mem_pairsAround_iff_level (openers : ∀ kind, inClass kind = true → kind.isOpener = true)
    (notCloses : kinds[index]?.bind TokenKind.closes? = none) :
    pair ∈ pairsAround (closerIn? kinds inClass) index ↔
      kinds[pair.opener]?.any inClass = true ∧ pair ∈ level kinds index := by
  rw [mem_pairsAround_iff, closerIn?_eq_some_iff openers, mem_level_iff, and_assoc]
  refine and_congr_right fun _ => and_congr_right fun member => and_congr_right fun _ => ?_
  exact (le_closer_iff notCloses member).symm

theorem pairsAround_congr (openers : ∀ kind, inClass kind = true → kind.isOpener = true)
    (notCloses : kinds[index]?.bind TokenKind.closes? = none)
    (otherNotCloses : kinds[other]?.bind TokenKind.closes? = none)
    (same : level kinds index = level kinds other) :
    pairsAround (closerIn? kinds inClass) index = pairsAround (closerIn? kinds inClass) other := by
  apply eq_of_pairwise_contains ((nested_closerIn? openers).pairwise_pairsAround index)
    ((nested_closerIn? openers).pairwise_pairsAround other)
  intro pair
  rw [mem_pairsAround_iff_level openers notCloses,
    mem_pairsAround_iff_level openers otherNotCloses, same]

/-- A level consists of blocks and of other brackets. -/
theorem mem_level_iff_around (notCloses : kinds[index]?.bind TokenKind.closes? = none) :
    pair ∈ level kinds index ↔ pair ∈ pairsAround (closerIn? kinds opensBlock) index ∨
      pair ∈ pairsAround (closerIn? kinds opensGroup) index := by
  rw [mem_pairsAround_iff_level isOpener_of_opensBlock notCloses,
    mem_pairsAround_iff_level isOpener_of_opensGroup notCloses, ← or_and_right, iff_and_self,
    mem_level_iff]
  rintro ⟨member, -⟩
  rcases BracketPair.exists_shape member with ⟨shape, found, -⟩
  have isOpener : shape.opener.isOpener = true := by simp [TokenKind.isOpener]
  rw [found, Option.any_some, Option.any_some, opensBlock, opensGroup, isOpener, Bool.true_and,
    beq_iff_eq, decide_eq_true_eq]
  exact Decidable.em _

theorem level_eq_iff (notCloses : kinds[index]?.bind TokenKind.closes? = none)
    (otherNotCloses : kinds[other]?.bind TokenKind.closes? = none) :
    level kinds index = level kinds other ↔
      pairsAround (closerIn? kinds opensBlock) index =
          pairsAround (closerIn? kinds opensBlock) other ∧
        pairsAround (closerIn? kinds opensGroup) index =
          pairsAround (closerIn? kinds opensGroup) other := by
  constructor
  · intro same
    exact ⟨pairsAround_congr isOpener_of_opensBlock notCloses otherNotCloses same,
      pairsAround_congr isOpener_of_opensGroup notCloses otherNotCloses same⟩
  · rintro ⟨blocks_eq, groups_eq⟩
    apply eq_of_pairwise_contains (pairwise_level kinds index) (pairwise_level kinds other)
    intro pair
    rw [mem_level_iff_around notCloses, mem_level_iff_around otherNotCloses, blocks_eq, groups_eq]

end Annotations

namespace TokenStream

variable {lexemes : List Lexeme} {index other : Nat}

/-- Whether two tokens stand in the same scope and in the same brackets. -/
def SameNesting (stream : TokenStream) (index other : Nat) : Prop :=
  (stream.token? index).map Token.enclosingScope = (stream.token? other).map Token.enclosingScope ∧
    (stream.token? index).map Token.enclosingBracket =
      (stream.token? other).map Token.enclosingBracket

instance (stream : TokenStream) (index other : Nat) : Decidable (stream.SameNesting index other) :=
  inferInstanceAs (Decidable (_ ∧ _))

theorem scopeOf_injective (kinds : List TokenKind) : (scopeOf kinds).Injective := by
  rintro ⟨opener, closer⟩ ⟨otherOpener, otherCloser⟩ same
  have opener_eq : opener = otherOpener := congrArg Scope.opener same
  have closer_eq : closer = otherCloser := Option.some.inj (congrArg Scope.closer same)
  rw [opener_eq, closer_eq]

/-- Tokens that close nothing stand at the same level exactly if their annotations are the same. -/
theorem sameNesting_iff {kind otherKind : TokenKind}
    (found : (lexemes.map Lexeme.kind)[index]? = some kind) (notCloses : kind.closes? = none)
    (foundOther : (lexemes.map Lexeme.kind)[other]? = some otherKind)
    (otherNotCloses : otherKind.closes? = none) :
    (ofLexemes lexemes).SameNesting index other ↔
      level (lexemes.map Lexeme.kind) index = level (lexemes.map Lexeme.kind) other := by
  rw [level_eq_iff (by simp [found, notCloses]) (by simp [foundOther, otherNotCloses])]
  rw [← kind?_ofLexemes, kind?, Option.map_eq_some_iff] at found foundOther
  rcases found with ⟨token, here, rfl⟩
  rcases foundOther with ⟨otherToken, there, rfl⟩
  rcases annotations_ofLexemes here with ⟨-, scope_eq, -, bracket_eq, -⟩
  rcases annotations_ofLexemes there with ⟨-, other_scope_eq, -, other_bracket_eq, -⟩
  simp only [SameNesting, here, there, Option.map_some, Option.some.injEq, scope_eq, bracket_eq,
    other_scope_eq, other_bracket_eq, depthAt]
  constructor
  · rintro ⟨scopes_eq, brackets_eq⟩
    exact ⟨(nested_blocks _).pairsAround_eq_of_getLast?
        (Option.map_injective (scopeOf_injective _) scopes_eq),
      (nested_groups _).pairsAround_eq_of_getLast? brackets_eq⟩
  · rintro ⟨blocks_eq, groups_eq⟩
    rw [blocks_eq, groups_eq]
    exact ⟨rfl, rfl⟩

/-- A closer is annotated as its opener is. -/
theorem sameNesting_closer {pair : BracketPair}
    (member : pair ∈ bracketPairs (lexemes.map Lexeme.kind)) :
    (ofLexemes lexemes).SameNesting pair.opener pair.closer := by
  rcases exists_pairing (lexemes.map Lexeme.kind) with ⟨stack, pairing⟩
  rcases pairing.matched _ member with ⟨rises, closer_lt, -⟩
  have around_eq : ∀ {inClass : TokenKind → Bool},
      (∀ kind, inClass kind = true → kind.isOpener = true) →
        pairsAround (closerIn? (lexemes.map Lexeme.kind) inClass) pair.opener =
          pairsAround (closerIn? (lexemes.map Lexeme.kind) inClass) pair.closer := by
    intro inClass openers
    apply eq_of_pairwise_contains ((nested_closerIn? openers).pairwise_pairsAround pair.opener)
      ((nested_closerIn? openers).pairwise_pairsAround pair.closer)
    intro other
    rw [mem_pairsAround_iff, mem_pairsAround_iff, closerIn?_eq_some_iff openers]
    refine and_congr_right fun among => ?_
    have laminar := BracketPair.laminar_of_mem member among.2
    have rises_other := BracketPair.lt_of_mem among.2
    simp only [BracketPair.Laminar, BracketPair.Contains] at laminar
    rcases laminar with rfl | apart
    · omega
    · omega
  have token_at : ∀ index < (lexemes.map Lexeme.kind).length,
      ∃ token, (ofLexemes lexemes).token? index = some token := by
    intro index inside
    rw [List.length_map, ← size_ofLexemes] at inside
    exact ⟨_, Array.getElem?_eq_getElem inside⟩
  rcases token_at pair.opener (Nat.lt_trans rises closer_lt) with ⟨opener, here⟩
  rcases token_at pair.closer closer_lt with ⟨closer, there⟩
  rcases annotations_ofLexemes here with ⟨-, scope_eq, -, bracket_eq, -⟩
  rcases annotations_ofLexemes there with ⟨-, closer_scope_eq, -, closer_bracket_eq, -⟩
  simp only [SameNesting, here, there, Option.map_some, scope_eq, bracket_eq, closer_scope_eq,
    closer_bracket_eq, depthAt, around_eq isOpener_of_opensBlock,
    around_eq isOpener_of_opensGroup, and_self]

end TokenStream

end TokenLint
