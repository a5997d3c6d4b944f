import TokenLint.Proofs.Navigation.Calls
import TokenLint.Proofs.Navigation.Statements
import TokenLint.Proofs.Stream.Walk

/-!
# Owners of blocks

The owner of a block is looked for backward from its brace: it is the nearest keyword of the
brace's level that can own a block, with nothing between them that ends the head of a statement.
A brace ends a head, so that a keyword owns one block at most, and the scopes that are entered at
braces and at owners never overwrite each other, whether the brackets of the stream match or not.

The search asks neither for the parentheses of the keyword nor for what stands behind them. A
keyword whose statement is in braces owns them, but if the statement is bare, the keyword owns the
first brace of its level in the statement, which can be that of a property or of a closure.
-/

namespace TokenLint

open Lexer

/-- Kinds that end the head of a statement, so that no keyword in front owns a block behind. -/
def endsHead : TokenKind → Bool
  | .semicolon | .openCurly | .openTag | .openTagWithEcho | .closeTag | .doubleArrow | .inlineHtml
    => true
  | _ => false

/-- Whether a keyword is the nearest one that can own what begins at a place of its level. -/
structure Heads (kinds : List TokenKind) (owner place : Nat) : Prop where
  isOwner : kinds[owner]?.any TokenKind.isScopeOwner = true
  before : owner < place
  beside : level kinds owner = level kinds place
  plain : ∀ between kind, owner < between → between < place →
    level kinds between = level kinds place → kinds[between]? = some kind →
      kind.isScopeOwner = false ∧ endsHead kind = false

theorem opens?_of_isScopeOwner {kind : TokenKind} (isOwner : kind.isScopeOwner = true) :
    kind.opens? = none := by
  cases kind <;> first | rfl | cases isOwner

theorem closes?_of_isScopeOwner {kind : TokenKind} (isOwner : kind.isScopeOwner = true) :
    kind.closes? = none := by
  cases kind <;> first | rfl | cases isOwner

theorem stopsOwnerSearch_of_isScopeOwner {kind : TokenKind} (isOwner : kind.isScopeOwner = true) :
    stopsOwnerSearch kind = false := by
  cases kind <;> first | rfl | cases isOwner

/-- Of the closers only that of a block stops the search. -/
theorem eq_closeCurly_of_stops {kind : TokenKind} (stops : stopsOwnerSearch kind = true)
    (closes : kind.isCloser = true) : kind = .closeCurly := by
  cases kind <;> first | rfl | (cases stops; done) | cases closes

/-- What is no bracket stops the search only if it ends the head of a statement. -/
theorem endsHead_of_stops {kind : TokenKind} (stops : stopsOwnerSearch kind = true)
    (notOpens : kind.opens? = none) (notCloses : kind.closes? = none) : endsHead kind = true := by
  cases kind <;> first | rfl | (cases stops; done) | (cases notOpens; done) | cases notCloses

/-- What the search goes past is no bracket and ends no head. -/
theorem not_bracket_of_goesOn {kind : TokenKind} (goesOn : stopsOwnerSearch kind = false)
    (notGroup : (kind.isCloser && kind ≠ .closeCurly) = false) :
    kind.opens? = none ∧ kind.closes? = none ∧ endsHead kind = false := by
  cases kind <;> first | exact ⟨rfl, rfl, rfl⟩ | (cases goesOn; done) | cases notGroup

theorem endsHead_of_opens {kind : TokenKind} {shape : BracketShape}
    (opens : kind.opens? = some shape) (notCurly : kind ≠ .openCurly) :
    endsHead kind = false := by
  cases kind <;> first | rfl | (cases opens; done) | exact absurd rfl notCurly

namespace Heads

variable {kinds : List TokenKind} {index owner place : Nat} {kind : TokenKind} {pair : BracketPair}

/-- A keyword is its own nearest one. -/
theorem of_isOwner (found : kinds[index]? = some kind) (isOwner : kind.isScopeOwner = true) :
    Heads kinds owner (index + 1) ↔ owner = index := by
  have same : level kinds (index + 1) = level kinds index :=
    level_succ found (opens?_of_isScopeOwner isOwner) (closes?_of_isScopeOwner isOwner)
  constructor
  · intro heads
    rcases Nat.lt_succ_iff_lt_or_eq.mp heads.before with earlier | here
    · have plain := heads.plain index kind earlier (Nat.lt_succ_self _) same.symm found
      rw [isOwner] at plain
      cases plain.1
    · exact here
  · rintro rfl
    refine ⟨by rw [found]; exact isOwner, Nat.lt_succ_self _, same.symm, ?_⟩
    intro between other after before
    omega

/-- A token that is no bracket, can own nothing and ends no head is passed. -/
theorem pass (found : kinds[index]? = some kind) (notOpens : kind.opens? = none)
    (notCloses : kind.closes? = none) (notOwner : kind.isScopeOwner = false)
    (goesOn : endsHead kind = false) : Heads kinds owner (index + 1) ↔ Heads kinds owner index := by
  have same := level_succ found notOpens notCloses
  constructor
  · rintro ⟨isOwner, before, beside, plain⟩
    have apart : owner ≠ index := by
      rintro rfl
      rw [found, Option.any_some, notOwner] at isOwner
      cases isOwner
    refine ⟨isOwner, by omega, beside.trans same, ?_⟩
    intro between other after earlier level_eq
    exact plain between other after (by omega) (level_eq.trans same.symm)
  · rintro ⟨isOwner, before, beside, plain⟩
    refine ⟨isOwner, by omega, beside.trans same.symm, ?_⟩
    intro between other after earlier level_eq here
    rcases Nat.lt_succ_iff_lt_or_eq.mp earlier with earlier | rfl
    · exact plain between other after earlier (level_eq.trans same) here
    · cases found.symm.trans here
      exact ⟨notOwner, goesOn⟩

/-- A pair of brackets that are not curly is passed as a whole. -/
theorem cross (member : pair ∈ bracketPairs kinds) (found : kinds[pair.opener]? = some kind)
    (goesOn : endsHead kind = false) :
    Heads kinds owner (pair.closer + 1) ↔ Heads kinds owner pair.opener := by
  have same := level_closer_succ member
  have rises := BracketPair.lt_of_mem member
  have opens := BracketPair.opens_of_mem member found
  have inside_ne : ∀ {between}, pair.opener < between → between < pair.closer + 1 →
      level kinds between ≠ level kinds pair.opener := fun after before =>
    level_ne_of_inside member after (Nat.le_of_lt_succ before) (.inl (Nat.le_refl _))
  constructor
  · rintro ⟨isOwner, before, beside, plain⟩
    have earlier : owner < pair.opener := by
      rcases Nat.lt_trichotomy owner pair.opener with earlier | rfl | later
      · exact earlier
      · rw [found, Option.any_some] at isOwner
        exact absurd (opens?_of_isScopeOwner isOwner) opens
      · exact absurd (beside.trans same) (inside_ne later before)
    refine ⟨isOwner, earlier, beside.trans same, ?_⟩
    intro between other after upper level_eq
    exact plain between other after (by omega) (level_eq.trans same.symm)
  · rintro ⟨isOwner, before, beside, plain⟩
    refine ⟨isOwner, by omega, beside.trans same.symm, ?_⟩
    intro between other after upper level_eq here
    rw [same] at level_eq
    rcases Nat.lt_trichotomy between pair.opener with earlier | rfl | later
    · exact plain between other after earlier level_eq here
    · cases found.symm.trans here
      refine ⟨?_, goesOn⟩
      cases isOther : kind.isScopeOwner with
      | false => rfl
      | true => exact absurd (opens?_of_isScopeOwner isOther) opens
    · exact absurd level_eq (inside_ne later upper)

/-- Nothing owns what stands directly behind a token that ends the head of a statement, behind a
block or at the beginning of a bracket. -/
theorem not_of_stops (strict : Strict kinds) (found : kinds[index]? = some kind)
    (stops : stopsOwnerSearch kind = true) : ¬Heads kinds owner (index + 1) := by
  rintro ⟨isOwner, before, beside, plain⟩
  have owner_ne : owner ≠ index := by
    rintro rfl
    rw [found, Option.any_some] at isOwner
    rw [stopsOwnerSearch_of_isScopeOwner isOwner] at stops
    cases stops
  have earlier : owner < index := by omega
  cases opens : kind.opens? with
  | some shape =>
      -- The place lies inside the bracket and the keyword in front of it.
      rcases strict.opener found (Option.isSome_iff_exists.mpr ⟨_, opens⟩) with ⟨closer, member⟩
      have rises : index < closer := BracketPair.lt_of_mem member
      exact level_ne_of_inside member (Nat.lt_succ_self index) rises (.inl earlier.le) beside.symm
  | none =>
      cases closes : kind.closes? with
      | some shape =>
          have isCloser : kind.isCloser = true := Option.isSome_iff_exists.mpr ⟨_, closes⟩
          rcases strict.closer found isCloser with ⟨opener, member⟩
          have rises : opener < index := BracketPair.lt_of_mem member
          have isBrace : kinds[opener]? = some .openCurly := by
            rw [eq_closeCurly_of_stops stops isCloser] at found
            exact (BracketPair.opener_iff_closer member .curly).mpr found
          have same : level kinds opener = level kinds (index + 1) :=
            (level_closer_succ member).symm
          -- The brace of the block ends a head, so the keyword would stand inside the block.
          rcases Nat.lt_trichotomy owner opener with outside | rfl | inside
          · cases (plain opener _ outside (by omega) same isBrace).2
          · rw [isBrace] at isOwner
            cases isOwner
          · apply level_ne_of_inside member inside earlier.le (.inl (Nat.le_refl _))
            exact beside.trans same.symm
      | none =>
          have same := level_succ found opens closes
          have goesOn := (plain index kind earlier (Nat.lt_succ_self _) same.symm found).2
          rw [endsHead_of_stops stops opens closes] at goesOn
          cases goesOn

end Heads

variable {kinds : List TokenKind} {owner place : Nat}

/-- A closer that the search steps over ends a pair of brackets that are not curly. -/
theorem group_of_closer {index opener : Nat} {kind : TokenKind} (found : kinds[index]? = some kind)
    (closes : (kind.isCloser && kind ≠ .closeCurly) = true)
    (matched : (PartnerTable.ofKinds kinds).partner? index = some opener) :
    ⟨opener, index⟩ ∈ bracketPairs kinds ∧
      ∃ opening, kinds[opener]? = some opening ∧ endsHead opening = false := by
  rcases Bool.and_eq_true_iff.mp closes with ⟨isCloser, notCurly⟩
  have member := (PartnerTable.partner?_of_isCloser found isCloser).mp matched
  rcases BracketPair.exists_shape member with ⟨shape, here, -⟩
  refine ⟨member, _, here, endsHead_of_opens shape.opens?_opener ?_⟩
  rw [Ne, TokenStream.openCurly_iff_closeCurly member here found]
  simpa using notCurly

/-- What the search finds is the nearest keyword of the level, however many brackets have no
partner. -/
theorem heads_of_scopeOwner?
    (found : scopeOwner? kinds.toArray (.ofKinds kinds) place = some owner) :
    Heads kinds owner place := by
  fun_induction scopeOwner? kinds.toArray (.ofKinds kinds) place with
  | case1 | case2 | case3 | case5 | case7 => cases found
  | case4 index kind here closes opener matched within ih =>
      rw [List.getElem?_toArray] at here
      rcases group_of_closer here closes matched with ⟨member, opening, there, goesOn⟩
      exact (Heads.cross member there goesOn).mpr (ih found)
  | case6 index kind here _ isOwner =>
      rw [List.getElem?_toArray] at here
      cases found
      exact (Heads.of_isOwner here isOwner).mpr rfl
  | case8 index kind here notGroup notOwner goesOn ih =>
      rw [List.getElem?_toArray] at here
      rw [Bool.not_eq_true] at notOwner goesOn
      have plain := not_bracket_of_goesOn goesOn (Bool.eq_false_iff.mpr notGroup)
      exact (Heads.pass here plain.1 plain.2.1 notOwner plain.2.2).mpr (ih found)

/-- The search finds the nearest keyword of the level that can own a block. -/
theorem scopeOwner?_eq_some_iff (strict : Strict kinds) (inside : place ≤ kinds.length) :
    scopeOwner? kinds.toArray (.ofKinds kinds) place = some owner ↔ Heads kinds owner place := by
  refine ⟨heads_of_scopeOwner?, fun heads => ?_⟩
  fun_induction scopeOwner? kinds.toArray (.ofKinds kinds) place with
  | case1 => exact absurd heads.before (Nat.not_lt_zero _)
  | case2 index missing =>
      rw [List.getElem?_toArray, List.getElem?_eq_none_iff] at missing
      omega
  | case3 index kind found closes unmatched =>
      rw [List.getElem?_toArray] at found
      rcases strict.closer found (Bool.and_eq_true_iff.mp closes).1 with ⟨opener, member⟩
      rw [(PartnerTable.partner?_ofKinds kinds index opener).mpr (.inr member)] at unmatched
      cases unmatched
  | case4 index kind found closes opener matched within ih =>
      rw [List.getElem?_toArray] at found
      rcases group_of_closer found closes matched with ⟨member, opening, here, goesOn⟩
      exact ih (by omega) ((Heads.cross member here goesOn).mp heads)
  | case5 index kind found closes opener matched behind =>
      rw [List.getElem?_toArray] at found
      have rises := BracketPair.lt_of_mem (group_of_closer found closes matched).1
      exact absurd rises.le behind
  | case6 index kind found _ isOwner =>
      rw [List.getElem?_toArray] at found
      rw [(Heads.of_isOwner found isOwner).mp heads]
  | case7 index kind found _ _ stops =>
      rw [List.getElem?_toArray] at found
      exact absurd heads (Heads.not_of_stops strict found stops)
  | case8 index kind found notGroup notOwner goesOn ih =>
      rw [List.getElem?_toArray] at found
      rw [Bool.not_eq_true] at notOwner goesOn
      have plain := not_bracket_of_goesOn goesOn (Bool.eq_false_iff.mpr notGroup)
      exact ih (by omega) ((Heads.pass found plain.1 plain.2.1 notOwner plain.2.2).mp heads)

/-- Whether tokens of a kind are no brackets, own no block and end no head. -/
def IsPlain (kind : TokenKind) : Prop :=
  kind.opens? = none ∧ kind.closes? = none ∧ kind.isScopeOwner = false ∧ endsHead kind = false

theorem Heads.over {start : Nat} (heads : Heads kinds owner start) (after : start ≤ place)
    (inside : place ≤ kinds.length)
    (plain : ∀ between kind, start ≤ between → between < place → kinds[between]? = some kind →
      IsPlain kind) : Heads kinds owner place := by
  induction place, after using Nat.le_induction with
  | base => exact heads
  | succ place after ih =>
      have found : kinds[place]? = some kinds[place] := List.getElem?_eq_getElem (by omega)
      rcases plain place _ after (Nat.lt_succ_self _) found with
        ⟨notOpens, notCloses, notOwner, goesOn⟩
      refine (Heads.pass found notOpens notCloses notOwner goesOn).mpr (ih (by omega) ?_)
      intro between kind lower upper
      exact plain between kind lower (by omega)

section Scopes

variable {kind : TokenKind} {pair other : BracketPair} {index : Nat} {scope : Scope}

/-- A keyword is the nearest one of a single brace. -/
theorem Heads.le_of_isBrace {other : Nat} (heads : Heads kinds owner place)
    (isBrace : kinds[place]? = some .openCurly) (headsOther : Heads kinds owner other) :
    other ≤ place := by
  by_contra later
  have same := heads.beside.symm.trans headsOther.beside
  cases (headsOther.plain place _ heads.before (Nat.lt_of_not_le later) same isBrace).2

/-- A keyword that the search finds for two blocks finds it for one. -/
theorem eq_of_shared_owner
    (block : closerIn? kinds opensBlock pair.opener = some pair.closer)
    (otherBlock : closerIn? kinds opensBlock other.opener = some other.closer)
    (owns : (scopeOf kinds pair).owner = some owner)
    (ownsOther : (scopeOf kinds other).owner = some owner) : other = pair := by
  have heads := heads_of_scopeOwner? owns
  have headsOther := heads_of_scopeOwner? ownsOther
  have same : other.opener = pair.opener :=
    Nat.le_antisymm (heads.le_of_isBrace (braces_of_closerIn? block).1 headsOther)
      (headsOther.le_of_isBrace (braces_of_closerIn? otherBlock).1 heads)
  rcases other with ⟨opener, otherCloser⟩
  rcases pair with ⟨_, closer⟩
  cases same
  cases otherBlock.symm.trans block
  rfl

theorem mem_marks_scopeOf :
    index ∈ ScopeTable.marks (scopeOf kinds pair) ↔
      (index = pair.opener ∨ index = pair.closer) ∨ (scopeOf kinds pair).owner = some index := by
  simp [ScopeTable.marks, scopeOf, or_assoc]

/-- Two blocks that are entered at one index are the same block. -/
theorem scopeOf_eq_of_shared_mark
    (block : closerIn? kinds opensBlock pair.opener = some pair.closer)
    (otherBlock : closerIn? kinds opensBlock other.opener = some other.closer)
    (marked : index ∈ ScopeTable.marks (scopeOf kinds pair))
    (markedOther : index ∈ ScopeTable.marks (scopeOf kinds other)) :
    scopeOf kinds other = scopeOf kinds pair := by
  rcases mem_marks_scopeOf.mp marked with isBrace | owns
  · exact scopeOf_eq_of_marks block otherBlock isBrace markedOther
  · rcases mem_marks_scopeOf.mp markedOther with isBrace | ownsOther
    · exact (scopeOf_eq_of_marks otherBlock block isBrace marked).symm
    · rw [eq_of_shared_owner block otherBlock owns ownsOther]

/-- The kind of a token at which a block is entered is a brace or a keyword. -/
theorem exists_kind_of_mark
    (block : closerIn? kinds opensBlock pair.opener = some pair.closer)
    (marked : index ∈ ScopeTable.marks (scopeOf kinds pair)) :
    ∃ kind, kinds[index]? = some kind ∧ kind ≠ .kwCase ∧ kind ≠ .kwDefault := by
  have braces := braces_of_closerIn? block
  rcases mem_marks_scopeOf.mp marked with (rfl | rfl) | owns
  · exact ⟨_, braces.1, by decide, by decide⟩
  · exact ⟨_, braces.2, by decide, by decide⟩
  · rcases (Option.any_eq_true _ _).mp (heads_of_scopeOwner? owns).isOwner with
      ⟨kind, here, isOwner⟩
    refine ⟨kind, here, ?_, ?_⟩ <;> rintro rfl <;> cases isOwner

/-- A label has a scope without an end, and no other token has one. -/
theorem of_caseScope? {partners : PartnerTable} {depth : Depth}
    (found : caseScope? kinds.toArray partners index depth = some scope) :
    scope.closer = none ∧ (kinds[index]? = some .kwCase ∨ kinds[index]? = some .kwDefault) := by
  rw [caseScope?, List.getElem?_toArray] at found
  split at found
  · rename_i kind outer here enclosing
    split at found
    · rename_i isLabel
      rcases Option.map_eq_some_iff.mp found with ⟨colon, -, rfl⟩
      exact ⟨rfl, by rcases isLabel.1 with rfl | rfl <;> simp [here]⟩
    · cases found
  · cases found

theorem caseScope?_eq_none {partners : PartnerTable} {depth : Depth}
    (found : kinds[index]? = some kind) (notCase : kind ≠ .kwCase)
    (notDefault : kind ≠ .kwDefault) :
    caseScope? kinds.toArray partners index depth = none := by
  rw [Option.eq_none_iff_forall_ne_some]
  intro label labelled
  rcases (of_caseScope? labelled).2 with isCase | isDefault
  · exact notCase (Option.some.inj (found.symm.trans isCase))
  · exact notDefault (Option.some.inj (found.symm.trans isDefault))

/-- A scope that is found in a table was there before or has been entered. -/
theorem ScopeTable.of_getElem?_foldl_insert {scopes : List Scope} {table : ScopeTable}
    (inside : index < table.size)
    (found : (scopes.foldl insert table)[index]? = some (some scope)) :
    scope ∈ scopes ∧ index ∈ marks scope ∨ table[index]? = some (some scope) := by
  induction scopes generalizing table with
  | nil => exact .inr found
  | cons first rest ih =>
      rcases ih (by rwa [size_insert]) found with ⟨member, marked⟩ | entered
      · exact .inl ⟨List.mem_cons_of_mem _ member, marked⟩
      · have inserted := getElem?_foldl_set (marks first) first table inside
        by_cases here : index ∈ marks first
        · cases entered.symm.trans (inserted.trans (if_pos here))
          exact .inl ⟨List.mem_cons_self .., here⟩
        · exact .inr ((inserted.trans (if_neg here)).symm.trans entered)

theorem ScopeTable.size_foldl_insert (scopes : List Scope) (table : ScopeTable) :
    (scopes.foldl insert table).size = table.size := by
  induction scopes generalizing table with
  | nil => rfl
  | cons first rest ih => rw [List.foldl_cons, ih, size_insert]

/-- The scopes of all blocks, each entered at its braces and at its owner. -/
def blockTable (kinds : List TokenKind) : ScopeTable :=
  ((kinds.mapIdx fun index _ => depthAt kinds index).filterMap Depth.opened).foldl
    ScopeTable.insert (Array.replicate kinds.length none)

/-- No scope of a block is overwritten in the table. -/
theorem blockTable_eq_some_iff (inside : index < kinds.length) :
    (blockTable kinds).getD index none = some scope ↔
      ∃ pair : BracketPair, closerIn? kinds opensBlock pair.opener = some pair.closer ∧
        index ∈ ScopeTable.marks (scopeOf kinds pair) ∧ scopeOf kinds pair = scope := by
  have empty_inside : index < (Array.replicate kinds.length none : ScopeTable).size := by
    simpa using inside
  have getD_iff : (blockTable kinds).getD index none = some scope ↔
      (blockTable kinds)[index]? = some (some scope) := by
    rw [Array.getD_eq_getD_getElem?]
    cases (blockTable kinds)[index]? <;> simp
  rw [getD_iff, blockTable]
  constructor
  · intro entered
    rcases ScopeTable.of_getElem?_foldl_insert empty_inside entered with ⟨member, marked⟩ | start
    · rcases mem_opened_iff.mp member with ⟨pair, block, rfl⟩
      exact ⟨pair, block, marked, rfl⟩
    · simp [inside] at start
  · rintro ⟨pair, block, marked, rfl⟩
    apply ScopeTable.getElem?_foldl_insert empty_inside marked ?_
      (Or.inl (mem_opened_iff.mpr ⟨pair, block, rfl⟩))
    intro other member markedOther
    rcases mem_opened_iff.mp member with ⟨otherPair, otherBlock, rfl⟩
    exact scopeOf_eq_of_shared_mark block otherBlock marked markedOther

/-- The scope of a token is that of its label, and if it has none that of the block entered at
it. -/
theorem ofDepths_eq_or (inside : index < kinds.length) :
    (ScopeTable.ofDepths kinds.toArray (.ofKinds kinds)
        (depthsFrom kinds.toArray (.ofKinds kinds) [] 0 kinds).toArray).getD index none =
      (caseScope? kinds.toArray (.ofKinds kinds) index (depthAt kinds index)).or
        ((blockTable kinds).getD index none) := by
  have within : index < (blockTable kinds).size := by
    rwa [blockTable, ScopeTable.size_foldl_insert, Array.size_replicate]
  rw [depthsFrom_ofKinds, ScopeTable.ofDepths, Array.getD_eq_getD_getElem?, Array.getElem?_mapIdx]
  simp only [List.size_toArray, List.length_mapIdx]
  rw [← blockTable, Array.getD_eq_getD_getElem?, Array.getElem?_eq_getElem within]
  simp [inside]

/-- Of the tokens with a scope that ends, just the marks of a block have its scope. -/
theorem ofDepths_closed_iff {closer : Nat} (inside : index < kinds.length)
    (closed : scope.closer = some closer) :
    (ScopeTable.ofDepths kinds.toArray (.ofKinds kinds)
        (depthsFrom kinds.toArray (.ofKinds kinds) [] 0 kinds).toArray).getD index none =
          some scope ↔
      ∃ pair : BracketPair, closerIn? kinds opensBlock pair.opener = some pair.closer ∧
        index ∈ ScopeTable.marks (scopeOf kinds pair) ∧ scopeOf kinds pair = scope := by
  rw [ofDepths_eq_or inside, Option.or_eq_some_iff, blockTable_eq_some_iff inside]
  constructor
  · rintro (label | ⟨-, entered⟩)
    · cases closed.symm.trans (of_caseScope? label).1
    · exact entered
  · rintro ⟨pair, block, marked, rfl⟩
    refine .inr ⟨?_, pair, block, marked, rfl⟩
    rcases exists_kind_of_mark block marked with ⟨kind, here, notCase, notDefault⟩
    exact caseScope?_eq_none here notCase notDefault

/-- The scope of a keyword is that of the block that it owns. -/
theorem ofDepths_at_owner (strict : Strict kinds) (found : kinds[owner]? = some kind)
    (isOwner : kind.isScopeOwner = true) :
    (ScopeTable.ofDepths kinds.toArray (.ofKinds kinds)
        (depthsFrom kinds.toArray (.ofKinds kinds) [] 0 kinds).toArray).getD owner none =
          some scope ↔
      ∃ pair : BracketPair, closerIn? kinds opensBlock pair.opener = some pair.closer ∧
        Heads kinds owner pair.opener ∧ scopeOf kinds pair = scope := by
  have inside := (List.getElem?_eq_some_iff.mp found).1
  have noLabel : caseScope? kinds.toArray (.ofKinds kinds) owner (depthAt kinds owner) = none := by
    apply caseScope?_eq_none found <;> rintro rfl <;> cases isOwner
  rw [ofDepths_eq_or inside, noLabel, Option.none_or, blockTable_eq_some_iff inside]
  refine exists_congr fun pair => and_congr_right fun block => and_congr_left fun _ => ?_
  have braces := braces_of_closerIn? block
  have noBrace : ¬(owner = pair.opener ∨ owner = pair.closer) := by
    rintro (rfl | rfl)
    · cases found.symm.trans braces.1
      cases isOwner
    · cases found.symm.trans braces.2
      cases isOwner
  rw [mem_marks_scopeOf, or_iff_right noBrace]
  exact scopeOwner?_eq_some_iff strict (List.getElem?_eq_some_iff.mp braces.1).1.le

end Scopes

/-- Keywords that control a statement by what stands in parentheses. -/
def isControl : TokenKind → Bool
  | .kwIf | .kwElseif | .kwFor | .kwForeach | .kwWhile | .kwSwitch | .kwCatch => true
  | _ => false

theorem isScopeOwner_of_isControl {kind : TokenKind} (control : isControl kind = true) :
    kind.isScopeOwner = true := by
  cases kind <;> first | rfl | cases control

theorem isPlain_of_isTrivia {kind : TokenKind} (trivia : kind.isTrivia = true) : IsPlain kind := by
  cases kind <;> first | exact ⟨rfl, rfl, rfl, rfl⟩ | cases trivia

namespace TokenStream

section Blocks

variable (stream : TokenStream)

/-- The scope that the token at an index owns, opens or closes. -/
def scopeAt? (index : Nat) : Option Scope := (stream.token? index).bind Token.scope

/-- Whether a scope is that of the block between two matching braces. Both are marked with it, and
what stands in the block is one level deeper than its braces. -/
structure IsBlock (scope : Scope) (closer : Nat) : Prop where
  matched : stream.Matches scope.opener closer
  opens : stream.hasKind scope.opener .openCurly = true
  closes : stream.hasKind closer .closeCurly = true
  atOpener : stream.scopeAt? scope.opener = some scope
  atCloser : stream.scopeAt? closer = some scope
  level_eq : (stream.token? scope.opener).map (fun brace => brace.level + 1) = some scope.level

/-- Whether a keyword that can own a block stands in front of one, as deep as its brace and in the
same blocks and brackets, and is marked with its scope. -/
structure OwnsBlock (owner : Nat) (scope : Scope) : Prop where
  before : owner < scope.opener
  isOwner : stream.kindIs owner TokenKind.isScopeOwner = true
  atOwner : stream.scopeAt? owner = some scope
  beside : stream.SameNesting owner scope.opener
  level_eq : (stream.token? owner).map Token.level = (stream.token? scope.opener).map Token.level
  conditions_eq :
    (stream.token? owner).map Token.conditions = (stream.token? scope.opener).map Token.conditions

end Blocks

section BlockScopes

variable {lexemes : List Lexeme} {pair : BracketPair} {scope : Scope} {index closer owner : Nat}

theorem scopeAt?_closed_iff (closed : scope.closer = some closer) :
    (ofLexemes lexemes).scopeAt? index = some scope ↔
      ∃ pair : BracketPair,
        closerIn? (lexemes.map Lexeme.kind) opensBlock pair.opener = some pair.closer ∧
          index ∈ ScopeTable.marks (scopeOf (lexemes.map Lexeme.kind) pair) ∧
            scopeOf (lexemes.map Lexeme.kind) pair = scope := by
  rw [scopeAt?]
  cases here : (ofLexemes lexemes).token? index with
  | some token =>
      have inside := (List.getElem?_eq_some_iff.mp (kind_of_token? here)).1
      rw [Option.bind_some, (annotations_ofLexemes here).2.2.2.2, ofDepths_closed_iff inside closed]
  | none =>
      refine iff_of_false (by simp) ?_
      rintro ⟨pair, block, marked, -⟩
      rcases exists_kind_of_mark block marked with ⟨kind, found, -⟩
      rw [← kind?_ofLexemes, kind?, here] at found
      cases found

theorem scopeAt?_of_mark
    (block : closerIn? (lexemes.map Lexeme.kind) opensBlock pair.opener = some pair.closer)
    (marked : index ∈ ScopeTable.marks (scopeOf (lexemes.map Lexeme.kind) pair)) :
    (ofLexemes lexemes).scopeAt? index = some (scopeOf (lexemes.map Lexeme.kind) pair) :=
  (scopeAt?_closed_iff rfl).mpr ⟨pair, block, marked, rfl⟩

theorem isBlock_scopeOf
    (block : closerIn? (lexemes.map Lexeme.kind) opensBlock pair.opener = some pair.closer) :
    (ofLexemes lexemes).IsBlock (scopeOf (lexemes.map Lexeme.kind) pair) pair.closer := by
  have braces := braces_of_closerIn? block
  have opener_eq : (scopeOf (lexemes.map Lexeme.kind) pair).opener = pair.opener := rfl
  refine ⟨((closerIn?_eq_some_iff_matches isOpener_of_opensBlock).mp block).1,
    hasKind_ofLexemes.mpr braces.1, hasKind_ofLexemes.mpr braces.2,
    scopeAt?_of_mark block (mem_marks_scopeOf.mpr (.inl (.inl rfl))),
    scopeAt?_of_mark block (mem_marks_scopeOf.mpr (.inl (.inr rfl))), ?_⟩
  have found := braces.1
  rw [← kind?_ofLexemes, kind?, Option.map_eq_some_iff] at found
  rcases found with ⟨brace, here, -⟩
  rw [opener_eq, here, Option.map_some, (annotations_ofLexemes here).1]
  rfl

theorem ownsBlock_scopeOf
    (block : closerIn? (lexemes.map Lexeme.kind) opensBlock pair.opener = some pair.closer)
    (owns : (scopeOf (lexemes.map Lexeme.kind) pair).owner = some owner) :
    (ofLexemes lexemes).OwnsBlock owner (scopeOf (lexemes.map Lexeme.kind) pair) := by
  have heads := heads_of_scopeOwner? owns
  have isBrace := (braces_of_closerIn? block).1
  have opener_eq : (scopeOf (lexemes.map Lexeme.kind) pair).opener = pair.opener := rfl
  rcases (Option.any_eq_true _ _).mp heads.isOwner with ⟨kind, found, isOwner⟩
  have notCloses := closes?_of_isScopeOwner isOwner
  have blocks_eq := pairsAround_congr isOpener_of_opensBlock (by rw [found]; exact notCloses)
    (by rw [isBrace]; rfl) heads.beside
  rw [← kind?_ofLexemes, kind?, Option.map_eq_some_iff] at found isBrace
  rcases found with ⟨keyword, here, rfl⟩
  rcases isBrace with ⟨brace, there, isCurly⟩
  refine ⟨heads.before, ?_, scopeAt?_of_mark block (mem_marks_scopeOf.mpr (.inr owns)), ?_, ?_, ?_⟩
  · rw [kindIs, kind?, here]
    exact isOwner
  · exact (sameNesting_iff (kind_of_token? here) notCloses (kind_of_token? there)
      (by rw [isCurly]; rfl)).mpr heads.beside
  · rw [opener_eq, here, there, Option.map_some, Option.map_some, (annotations_ofLexemes here).1,
      (annotations_ofLexemes there).1, depthAt, depthAt, blocks_eq]
  · rw [opener_eq, here, there, Option.map_some, Option.map_some,
      (annotations_ofLexemes here).2.2.1, (annotations_ofLexemes there).2.2.1, depthAt, depthAt,
      blocks_eq]

/-- A scope that ends belongs to a block, and the token that has it is one of its braces or its
owner. Every block has its scope, and no two blocks have one owner, so that a keyword keeps the
scope that was entered at it. -/
theorem blocks_coherent (lexemes : List Lexeme) :
    let stream : TokenStream := .ofLexemes lexemes
    (∀ index scope closer, stream.scopeAt? index = some scope → scope.closer = some closer →
      stream.IsBlock scope closer ∧
      (index = scope.opener ∨ index = closer ∨ scope.owner = some index) ∧
      ∀ owner, scope.owner = some owner → stream.OwnsBlock owner scope) ∧
    (∀ opener closer, stream.Matches opener closer →
      stream.hasKind opener .openCurly = true →
        ∃ scope, stream.scopeAt? opener = some scope ∧ scope.opener = opener ∧
          scope.closer = some closer) ∧
    ∀ first second scope other, stream.scopeAt? first = some scope →
      stream.scopeAt? second = some other → scope.closer.isSome = true →
        other.closer.isSome = true → scope.owner = other.owner → scope.owner.isSome = true →
          scope = other := by
  intro stream
  have known : ∀ index scope closer, stream.scopeAt? index = some scope →
      scope.closer = some closer → stream.IsBlock scope closer ∧
        (index = scope.opener ∨ index = closer ∨ scope.owner = some index) ∧
          ∀ owner, scope.owner = some owner → stream.OwnsBlock owner scope := by
    intro index scope closer entered closed
    rcases (scopeAt?_closed_iff closed).mp entered with ⟨pair, block, marked, rfl⟩
    cases closed
    refine ⟨isBlock_scopeOf block, ?_, fun owner owns => ownsBlock_scopeOf block owns⟩
    exact or_assoc.mp (mem_marks_scopeOf.mp marked)
  refine ⟨known, ?_, ?_⟩
  · intro opener closer matched isBrace
    have block : closerIn? (lexemes.map Lexeme.kind) opensBlock
        (BracketPair.mk opener closer).opener = some (BracketPair.mk opener closer).closer :=
      (closerIn?_eq_some_iff_matches isOpener_of_opensBlock).mpr
        ⟨matched, kindIs_of_hasKind isBrace⟩
    exact ⟨_, (isBlock_scopeOf block).atOpener, rfl, rfl⟩
  · intro first second scope other entered enteredOther closed closedOther shared owned
    rcases Option.isSome_iff_exists.mp closed with ⟨closer, closed⟩
    rcases Option.isSome_iff_exists.mp closedOther with ⟨otherCloser, closedOther⟩
    rcases Option.isSome_iff_exists.mp owned with ⟨owner, owns⟩
    have atOwner := ((known _ _ _ entered closed).2.2 owner owns).atOwner
    have atOwnerToo :=
      ((known _ _ _ enteredOther closedOther).2.2 owner (shared.symm.trans owns)).atOwner
    exact Option.some.inj (atOwner.symm.trans atOwnerToo)

/-- The lexemes of `(function(function(){}){}]`, where a block stands in the parentheses of a
keyword that owns another one, and the outermost brackets have no partner. -/
def nestedOwnersLexemes : List Lexeme := [
  ⟨.openParenthesis, "(", ⟨1, 1⟩⟩, ⟨.kwFunction, "function", ⟨1, 2⟩⟩,
  ⟨.openParenthesis, "(", ⟨1, 10⟩⟩, ⟨.closure, "function", ⟨1, 11⟩⟩,
  ⟨.openParenthesis, "(", ⟨1, 19⟩⟩, ⟨.closeParenthesis, ")", ⟨1, 20⟩⟩,
  ⟨.openCurly, "\x7b", ⟨1, 21⟩⟩, ⟨.closeCurly, "\x7d", ⟨1, 22⟩⟩,
  ⟨.closeParenthesis, ")", ⟨1, 23⟩⟩, ⟨.openCurly, "\x7b", ⟨1, 24⟩⟩,
  ⟨.closeCurly, "\x7d", ⟨1, 25⟩⟩, ⟨.closeSquare, "]", ⟨1, 26⟩⟩]

/-- The search for the outer owner goes past the inner one together with its parentheses. -/
theorem blocks_coherent_nestedOwners :
    let stream : TokenStream := .ofLexemes nestedOwnersLexemes
    let inner : Scope := ⟨6, some 7, some 3, 1⟩
    let outer : Scope := ⟨9, some 10, some 1, 1⟩
    stream.unmatched = [0, 11] ∧
      (stream.scopeAt? 7 = some inner ∧ stream.IsBlock inner 7 ∧ stream.OwnsBlock 3 inner) ∧
      (stream.scopeAt? 10 = some outer ∧ stream.IsBlock outer 10 ∧ stream.OwnsBlock 1 outer) ∧
      inner.owner ≠ outer.owner := by
  intro stream inner outer
  rcases blocks_coherent nestedOwnersLexemes with ⟨known, -, shared⟩
  have atInner : stream.scopeAt? 7 = some inner := by decide +kernel
  have atOuter : stream.scopeAt? 10 = some outer := by decide +kernel
  have alone : stream.unmatched = [0, 11] :=
    (unmatchedBrackets_eq_filter _).trans (by decide +kernel)
  have innerKnown := known 7 inner 7 atInner rfl
  have outerKnown := known 10 outer 10 atOuter rfl
  refine ⟨alone, ⟨atInner, innerKnown.1, innerKnown.2.2 3 rfl⟩,
    ⟨atOuter, outerKnown.1, outerKnown.2.2 1 rfl⟩, ?_⟩
  intro same
  have distinct : inner ≠ outer := by decide
  exact distinct (shared 7 10 inner outer atInner atOuter rfl rfl same rfl)

end BlockScopes

section Heads

variable (stream : TokenStream)

/-- Whether a keyword is the nearest one in front of a brace, among the tokens that stand in the
same scope and brackets, and nothing between them ends the head of a statement. -/
structure HeadsBrace (owner brace : Nat) : Prop where
  isBrace : stream.hasKind brace .openCurly = true
  before : owner < brace
  beside : stream.SameNesting owner brace
  plain : ∀ between, owner < between → between < brace → stream.SameNesting between brace →
    stream.kindIs between TokenKind.isScopeOwner = false ∧ stream.kindIs between endsHead = false

/-- Whether the code behind the parentheses of a keyword begins at an index. -/
def BodyBegins (keyword : Token) (start : Nat) : Prop :=
  ∃ pair, keyword.parenthesis = some pair ∧ stream.nextCode? (pair.closer + 1) = some start

end Heads

variable {lexemes : List Lexeme} {owner brace : Nat} {kind : TokenKind}

theorem headsBrace_iff (found : (lexemes.map Lexeme.kind)[owner]? = some kind)
    (isOwner : kind.isScopeOwner = true) :
    (ofLexemes lexemes).HeadsBrace owner brace ↔
      (lexemes.map Lexeme.kind)[brace]? = some .openCurly ∧
        Heads (lexemes.map Lexeme.kind) owner brace := by
  have beside_iff : ∀ {index other}, (lexemes.map Lexeme.kind)[index]? = some other →
      other.closes? = none → (lexemes.map Lexeme.kind)[brace]? = some .openCurly →
        ((ofLexemes lexemes).SameNesting index brace ↔
          level (lexemes.map Lexeme.kind) index = level (lexemes.map Lexeme.kind) brace) :=
    fun here notCloses isBrace => sameNesting_iff here notCloses isBrace rfl
  constructor
  · rintro ⟨isBrace, before, beside, plain⟩
    rw [hasKind_ofLexemes] at isBrace
    have notCloses := closes?_of_isScopeOwner isOwner
    refine ⟨isBrace, by rw [found]; exact isOwner, before,
      (beside_iff found notCloses isBrace).mp beside, ?_⟩
    intro between other after upper same here
    -- A closer owns nothing and ends no head; every other token has the nesting of its level.
    cases closes : other.closes? with
    | some shape => cases other <;> first | exact ⟨rfl, rfl⟩ | cases closes
    | none =>
        have goesOn := plain between after upper ((beside_iff here closes isBrace).mpr same)
        simpa [kindIs, kind?_ofLexemes, here] using goesOn
  · rintro ⟨isBrace, isHead, before, beside, plain⟩
    refine ⟨hasKind_ofLexemes.mpr isBrace, before,
      (beside_iff found (closes?_of_isScopeOwner isOwner) isBrace).mpr beside, ?_⟩
    intro between after upper same
    have exists_kind : ∃ other, (lexemes.map Lexeme.kind)[between]? = some other :=
      ⟨_, List.getElem?_eq_getElem (upper.trans (List.getElem?_eq_some_iff.mp isBrace).1)⟩
    rcases exists_kind with ⟨other, here⟩
    rw [kindIs, kindIs, kind?_ofLexemes, here, Option.any_some, Option.any_some]
    cases closes : other.closes? with
    | some shape => cases other <;> first | exact ⟨rfl, rfl⟩ | cases closes
    | none => exact plain between other after upper ((beside_iff here closes isBrace).mp same) here

/-- A keyword heads the brace that directly follows its parentheses. -/
theorem heads_of_bodyBegins {token : Token} {index : Nat}
    (found : (ofLexemes lexemes).token? index = some token)
    (isOwner : token.kind.isScopeOwner = true) (notFunction : token.kind ≠ .kwFunction)
    (begins : (ofLexemes lexemes).BodyBegins token brace) :
    Heads (lexemes.map Lexeme.kind) index brace := by
  rcases begins with ⟨pair, owned, next⟩
  rw [parenthesis_ofLexemes found] at owned
  have here := kind_of_token? found
  rcases of_ownedParenthesis? owned with ⟨place, opens, member⟩
  rcases of_parenthesisPlace? place with ⟨after, between_plain⟩
  have opener_lt := (List.getElem?_eq_some_iff.mp opens).1
  have toParenthesis : Heads (lexemes.map Lexeme.kind) index pair.opener := by
    refine Heads.over ((Heads.of_isOwner here isOwner).mpr rfl) after opener_lt.le ?_
    intro between kind lower upper there
    rcases between_plain between kind lower upper there with trivia | rfl | ⟨-, isFunction⟩
    · exact isPlain_of_isTrivia trivia
    · exact ⟨rfl, rfl, rfl, rfl⟩
    · exact absurd (Option.some.inj (here.symm.trans isFunction)) notFunction
  have pastParenthesis := (Heads.cross member opens rfl).mpr toParenthesis
  rcases nextCode?_bounds next with ⟨later, inside⟩
  refine Heads.over pastParenthesis later (by simpa [size_ofLexemes] using inside.le) ?_
  intro between kind lower upper there
  have trivia := isTrivia_before_nextCode? next lower upper
  rw [kindIs, kind?_ofLexemes, there] at trivia
  exact isPlain_of_isTrivia trivia

/-- The scope of a control keyword is the block of the brace that it is the nearest keyword of. If
the code behind its parentheses begins with a brace, that is this one; if not, the statement is bare
and the scope, where there is one, is not its body. -/
theorem scope_of_control {source : String} {stream : TokenStream}
    (read : tokenize source = .ok stream) {index : Nat} {token : Token}
    (found : stream.token? index = some token) (control : isControl token.kind = true) :
    (∀ brace, (∃ scope, token.scope = some scope ∧ scope.opener = brace) ↔
      stream.HeadsBrace index brace) ∧
    (∀ brace, stream.BodyBegins token brace → stream.hasKind brace .openCurly = true →
      stream.HeadsBrace index brace) ∧
    ∀ scope, token.scope = some scope → scope.owner = some index ∧
      (stream.BodyBegins token scope.opener ↔
        ∃ start, stream.BodyBegins token start ∧ stream.hasKind start .openCurly = true) := by
  rcases strict_of_tokenize read with ⟨lexemes, rfl, strict⟩
  have isOwner := isScopeOwner_of_isControl control
  have here := kind_of_token? found
  have scope_iff : ∀ scope, token.scope = some scope ↔ ∃ pair : BracketPair,
      closerIn? (lexemes.map Lexeme.kind) opensBlock pair.opener = some pair.closer ∧
        Heads (lexemes.map Lexeme.kind) index pair.opener ∧
          scopeOf (lexemes.map Lexeme.kind) pair = scope := by
    intro scope
    rw [(annotations_ofLexemes found).2.2.2.2]
    exact ofDepths_at_owner strict here isOwner
  have opener_iff : ∀ brace, (∃ scope, token.scope = some scope ∧ scope.opener = brace) ↔
      (ofLexemes lexemes).HeadsBrace index brace := by
    intro brace
    rw [headsBrace_iff here isOwner]
    constructor
    · rintro ⟨scope, scope_eq, rfl⟩
      rcases (scope_iff scope).mp scope_eq with ⟨pair, block, heads, rfl⟩
      exact ⟨(braces_of_closerIn? block).1, heads⟩
    · rintro ⟨isBrace, heads⟩
      rcases strict.opener isBrace rfl with ⟨closer, member⟩
      have block : closerIn? (lexemes.map Lexeme.kind) opensBlock brace = some closer :=
        (closerIn?_eq_some_iff isOpener_of_opensBlock).mpr ⟨by rw [isBrace]; rfl, member⟩
      exact ⟨_, (scope_iff _).mpr ⟨⟨brace, closer⟩, block, heads, rfl⟩, rfl⟩
  have braced : ∀ brace, (ofLexemes lexemes).BodyBegins token brace →
      (ofLexemes lexemes).hasKind brace .openCurly = true →
        (ofLexemes lexemes).HeadsBrace index brace := by
    intro brace begins isBrace
    have notFunction : token.kind ≠ .kwFunction := by
      intro isFunction
      rw [isFunction] at control
      cases control
    exact (headsBrace_iff here isOwner).mpr
      ⟨hasKind_ofLexemes.mp isBrace, heads_of_bodyBegins found isOwner notFunction begins⟩
  refine ⟨opener_iff, braced, ?_⟩
  intro scope scope_eq
  constructor
  · rcases (scope_iff scope).mp scope_eq with ⟨pair, block, heads, rfl⟩
    have inside := (List.getElem?_eq_some_iff.mp (braces_of_closerIn? block).1).1
    exact (scopeOwner?_eq_some_iff strict inside.le).mpr heads
  · constructor
    · intro begins
      exact ⟨scope.opener, begins, ((opener_iff _).mp ⟨scope, scope_eq, rfl⟩).isBrace⟩
    · rintro ⟨start, begins, isBrace⟩
      rcases (opener_iff start).mpr (braced start begins isBrace) with ⟨other, other_eq, rfl⟩
      cases other_eq.symm.trans scope_eq
      exact begins

/-- An `if` whose statement is in braces owns them, and not the braces of the property in front. -/
theorem scope_of_control_braced :
    ∃ stream token scope, tokenize "<?php $b->\x7b'x'\x7d; if ($a) \x7b $c; \x7d" = .ok stream ∧
      stream.token? 8 = some token ∧ isControl token.kind = true ∧ token.scope = some scope ∧
      scope.owner = some 8 ∧ stream.BodyBegins token scope.opener := by
  have outcome : (tokenize "<?php $b->\x7b'x'\x7d; if ($a) \x7b $c; \x7d").toOption.map
      (fun stream => (((stream.token? 8).map Token.kind,
          ((stream.token? 8).bind Token.scope).map Scope.opener,
          (stream.token? 8).bind Token.parenthesis),
        stream.nextCode? 13, stream.hasKind 14 .openCurly)) =
      some ((some .kwIf, some 14, some ⟨10, 12⟩), some 14, true) := by decide +kernel
  rcases exists_tokenize_of_map_toOption outcome with ⟨stream, read, seen⟩
  simp only [Prod.mk.injEq, Option.map_eq_some_iff] at seen
  rcases seen with ⟨⟨⟨token, found, isIf⟩, ⟨scope, scope_eq, -⟩, owned⟩, next, isBrace⟩
  rw [found, Option.bind_some] at scope_eq owned
  have control : isControl token.kind = true := by rw [isIf]; rfl
  rcases (scope_of_control read found control).2.2 scope scope_eq with ⟨owner_eq, begins_iff⟩
  exact ⟨stream, token, scope, read, found, control, scope_eq, owner_eq,
    begins_iff.mpr ⟨14, ⟨⟨10, 12⟩, owned, next⟩, isBrace⟩⟩

/-- An `if` whose statement is bare owns the braces around the name of a property in it. -/
theorem not_bodyBegins_dynamicProperty :
    ∃ stream token scope, tokenize "<?php if ($a) $b->\x7b'x'\x7d = 1;" = .ok stream ∧
      stream.token? 1 = some token ∧ token.kind = .kwIf ∧ token.scope = some scope ∧
      scope.opener = 9 ∧ stream.BodyBegins token 7 ∧ stream.hasKind 7 .variable = true ∧
      ¬stream.BodyBegins token scope.opener := by
  have outcome : (tokenize "<?php if ($a) $b->\x7b'x'\x7d = 1;").toOption.map
      (fun stream => (((stream.token? 1).map Token.kind,
          ((stream.token? 1).bind Token.scope).map Scope.opener,
          (stream.token? 1).bind Token.parenthesis),
        stream.nextCode? 6, stream.hasKind 7 .variable)) =
      some ((some .kwIf, some 9, some ⟨3, 5⟩), some 7, true) := by decide +kernel
  rcases exists_tokenize_of_map_toOption outcome with ⟨stream, read, seen⟩
  simp only [Prod.mk.injEq, Option.map_eq_some_iff] at seen
  rcases seen with ⟨⟨⟨token, found, isIf⟩, ⟨scope, scope_eq, opener_eq⟩, owned⟩, next, isVariable⟩
  rw [found, Option.bind_some] at scope_eq owned
  refine ⟨stream, token, scope, read, found, isIf, scope_eq, opener_eq, ⟨⟨3, 5⟩, owned, next⟩,
    isVariable, ?_⟩
  rintro ⟨pair, owned_pair, begins⟩
  cases owned.symm.trans owned_pair
  rw [opener_eq] at begins
  cases next.symm.trans begins

end TokenStream

end TokenLint
