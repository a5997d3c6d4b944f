import TokenLint.Proofs.Stream.Pairing

/-!
# Levels, scopes and enclosing brackets

Two scans annotate a stream: one keeps the open curly scopes on a stack, the other one the open
pairs of all other brackets. Since pairs are nested, either stack holds the pairs of its class
that are open at an index, innermost first, and only its top can close there. Every annotation is
therefore a function of the list of the pairs around the token, outermost first.

The owner of a block lies between its brace and the brace of the block around it: the search for
it steps over whole pairs, and a pair never crosses a brace.
-/

namespace TokenLint

section Scan

/-- Whether a function from openers to closers gives nested pairs. -/
structure Nested (closer? : Nat → Option Nat) : Prop where
  rises : ∀ {opener closer}, closer? opener = some closer → opener < closer
  contains : ∀ {outer inner : BracketPair}, closer? outer.opener = some outer.closer →
    closer? inner.opener = some inner.closer → outer.opener < inner.opener →
      inner.opener ≤ outer.closer → outer.Contains inner

variable (closer? : Nat → Option Nat)

/-- The pair that begins at an index. -/
def pairAt? (opener : Nat) : Option BracketPair :=
  (closer? opener).map fun closer => ⟨opener, closer⟩

/-- The pairs that begin before an index, in the order of their openers. -/
def pairsBefore (index : Nat) : List BracketPair :=
  (List.range index).filterMap (pairAt? closer?)

/-- The pairs that begin before an index and do not end before it, outermost first. -/
def pairsOpen (index : Nat) : List BracketPair :=
  (pairsBefore closer? index).filter fun pair => index ≤ pair.closer

/-- The pairs that begin before an index and end after it, outermost first. -/
def pairsAround (index : Nat) : List BracketPair :=
  (pairsBefore closer? index).filter fun pair => index < pair.closer

variable {closer?} {index : Nat} {pair : BracketPair}

theorem pairAt?_eq_some_iff {opener : Nat} :
    pairAt? closer? opener = some pair ↔
      pair.opener = opener ∧ closer? pair.opener = some pair.closer := by
  simp only [pairAt?, Option.map_eq_some_iff]
  constructor
  · rintro ⟨closer, found, rfl⟩
    exact ⟨rfl, found⟩
  · rintro ⟨rfl, found⟩
    exact ⟨pair.closer, found, rfl⟩

theorem mem_pairsBefore_iff :
    pair ∈ pairsBefore closer? index ↔
      pair.opener < index ∧ closer? pair.opener = some pair.closer := by
  simp only [pairsBefore, List.mem_filterMap, List.mem_range, pairAt?_eq_some_iff]
  constructor
  · rintro ⟨opener, before, rfl, found⟩
    exact ⟨before, found⟩
  · rintro ⟨before, found⟩
    exact ⟨pair.opener, before, rfl, found⟩

theorem mem_pairsAround_iff :
    pair ∈ pairsAround closer? index ↔
      closer? pair.opener = some pair.closer ∧ pair.opener < index ∧ index < pair.closer := by
  simp only [pairsAround, List.mem_filter, mem_pairsBefore_iff, decide_eq_true_eq]
  constructor
  · rintro ⟨⟨before, found⟩, after⟩
    exact ⟨found, before, after⟩
  · rintro ⟨found, before, after⟩
    exact ⟨⟨before, found⟩, after⟩

theorem pairwise_pairsBefore (closer? : Nat → Option Nat) (index : Nat) :
    (pairsBefore closer? index).Pairwise fun first second => first.opener < second.opener := by
  apply List.Pairwise.filterMap _ ?_ List.pairwise_lt_range
  intro first second order left foundLeft right foundRight
  rw [(pairAt?_eq_some_iff.mp foundLeft).1, (pairAt?_eq_some_iff.mp foundRight).1]
  exact order

/-- Of the pairs that are open at an index, each contains the next. -/
theorem Nested.pairwise_pairsOpen (nested : Nested closer?) (index : Nat) :
    (pairsOpen closer? index).Pairwise BracketPair.Contains := by
  apply ((pairwise_pairsBefore closer? index).filter _).imp_of_mem
  intro outer inner memberOuter memberInner order
  simp only [List.mem_filter, mem_pairsBefore_iff, decide_eq_true_eq] at memberOuter memberInner
  apply nested.contains memberOuter.1.2 memberInner.1.2 order
  omega

theorem pairsAround_eq_filter (closer? : Nat → Option Nat) (index : Nat) :
    pairsAround closer? index =
      (pairsOpen closer? index).filter fun pair => pair.closer ≠ index := by
  rw [pairsAround, pairsOpen, List.filter_filter]
  congr 1
  funext pair
  simp only [← Bool.decide_and, decide_eq_decide]
  omega

theorem Nested.pairwise_pairsAround (nested : Nested closer?) (index : Nat) :
    (pairsAround closer? index).Pairwise BracketPair.Contains := by
  rw [pairsAround_eq_filter]
  exact (nested.pairwise_pairsOpen index).filter _

/-- What is open after an index are the pairs around it and the pair that begins there. -/
theorem Nested.pairsOpen_succ (nested : Nested closer?) (index : Nat) :
    pairsOpen closer? (index + 1) =
      pairsAround closer? index ++ (pairAt? closer? index).toList := by
  rw [pairsOpen, pairsBefore, List.range_succ, List.filterMap_append, List.filter_append]
  congr 1
  cases found : pairAt? closer? index with
  | none => simp [found]
  | some pair =>
      rcases pairAt?_eq_some_iff.mp found with ⟨rfl, closed⟩
      have rises : pair.opener + 1 ≤ pair.closer := nested.rises closed
      simpa [found] using rises

/-- A stack of pairs without its top if this ends at an index. -/
def leaving (index : Nat) : List BracketPair → List BracketPair
  | [] => []
  | innermost :: outer => if innermost.closer = index then outer else innermost :: outer

/-- Only the innermost open pair can end at an index. -/
theorem Nested.leaving_pairsOpen (nested : Nested closer?) (index : Nat) :
    leaving index (pairsOpen closer? index).reverse = (pairsAround closer? index).reverse := by
  have order := List.pairwise_reverse.mpr (nested.pairwise_pairsOpen index)
  have late : ∀ pair ∈ (pairsOpen closer? index).reverse, index ≤ pair.closer := by
    intro pair member
    simp only [List.mem_reverse, pairsOpen, List.mem_filter, decide_eq_true_eq] at member
    exact member.2
  rw [pairsAround_eq_filter, ← List.filter_reverse]
  cases stack : (pairsOpen closer? index).reverse with
  | nil => rfl
  | cons innermost outer =>
      rw [stack] at order late
      have outer_kept : outer.filter (fun pair => pair.closer ≠ index) = outer := by
        apply List.filter_eq_self.mpr
        intro pair member
        have contained := (List.rel_of_pairwise_cons order member).2
        have reaches := late innermost (List.mem_cons_self ..)
        simp only [ne_eq, decide_eq_true_eq]
        omega
      simp only [leaving, List.filter_cons, outer_kept]
      by_cases ends : innermost.closer = index <;> simp [ends]

end Scan

section Annotations

variable (kinds : List TokenKind)

/-- The closer that matches an opener of some class. -/
def closerIn? (inClass : TokenKind → Bool) (opener : Nat) : Option Nat :=
  if kinds[opener]?.any inClass then (PartnerTable.ofKinds kinds).partner? opener else none

/-- The class of the openers of curly blocks. -/
def opensBlock (kind : TokenKind) : Bool := kind == .openCurly

/-- The class of all other openers. -/
def opensGroup (kind : TokenKind) : Bool := kind.isOpener && kind ≠ .openCurly

/-- The scope of a curly pair: its level is one more than that of its brace. -/
def scopeOf (pair : BracketPair) : Scope where
  opener := pair.opener
  closer := some pair.closer
  owner := scopeOwner? kinds.toArray (.ofKinds kinds) pair.opener
  level := (pairsAround (closerIn? kinds opensBlock) pair.opener).length + 1

/-- The depth of a token as the pairs around it give it. -/
def depthAt (index : Nat) : Depth where
  level := (pairsAround (closerIn? kinds opensBlock) index).length
  enclosing := (pairsAround (closerIn? kinds opensBlock) index).getLast?.map (scopeOf kinds)
  conditions := (pairsAround (closerIn? kinds opensBlock) index).filterMap fun pair =>
    (scopeOf kinds pair).owner
  opened := (pairAt? (closerIn? kinds opensBlock) index).map (scopeOf kinds)

variable {kinds} {inClass : TokenKind → Bool} {pair : BracketPair} {index : Nat}

/-- The pairs of a class of openers are those of the scan. -/
theorem closerIn?_eq_some_iff (openers : ∀ kind, inClass kind = true → kind.isOpener = true) :
    closerIn? kinds inClass pair.opener = some pair.closer ↔
      kinds[pair.opener]?.any inClass = true ∧ pair ∈ bracketPairs kinds := by
  simp only [closerIn?, Option.ite_none_right_eq_some]
  apply and_congr_right
  intro opens
  rcases (Option.any_eq_true _ _).mp opens with ⟨kind, found, opens⟩
  exact PartnerTable.partner?_of_isOpener found (openers kind opens)

theorem nested_closerIn? (openers : ∀ kind, inClass kind = true → kind.isOpener = true) :
    Nested (closerIn? kinds inClass) := by
  constructor
  · intro opener closer found
    have member : ⟨opener, closer⟩ ∈ bracketPairs kinds :=
      And.right ((closerIn?_eq_some_iff openers).mp found)
    exact BracketPair.lt_of_mem member
  · intro outer inner foundOuter foundInner after before
    have memberOuter := ((closerIn?_eq_some_iff openers).mp foundOuter).2
    have memberInner := ((closerIn?_eq_some_iff openers).mp foundInner).2
    have rises := BracketPair.lt_of_mem memberInner
    rcases BracketPair.laminar_of_mem memberOuter memberInner with
      rfl | apart | apart | contains | inside
    · omega
    · have closer_eq : outer.closer = inner.opener := by omega
      omega
    · omega
    · exact contains
    · have := inside.1
      omega

theorem isOpener_of_opensBlock (kind : TokenKind) (opens : opensBlock kind = true) :
    kind.isOpener = true := by
  rw [eq_of_beq opens]
  rfl

theorem isOpener_of_opensGroup (kind : TokenKind) (opens : opensGroup kind = true) :
    kind.isOpener = true :=
  (Bool.and_eq_true_iff.mp opens).1

theorem nested_blocks (kinds : List TokenKind) : Nested (closerIn? kinds opensBlock) :=
  nested_closerIn? isOpener_of_opensBlock

theorem nested_groups (kinds : List TokenKind) : Nested (closerIn? kinds opensGroup) :=
  nested_closerIn? isOpener_of_opensGroup

/-- The braces of a curly pair. -/
theorem braces_of_closerIn? (found : closerIn? kinds opensBlock pair.opener = some pair.closer) :
    kinds[pair.opener]? = some .openCurly ∧ kinds[pair.closer]? = some .closeCurly := by
  rcases (closerIn?_eq_some_iff isOpener_of_opensBlock).mp found with ⟨opens, member⟩
  rcases (Option.any_eq_true _ _).mp opens with ⟨kind, foundOpener, opens⟩
  rw [eq_of_beq opens] at foundOpener
  exact ⟨foundOpener, (BracketPair.opener_iff_closer member .curly).mp foundOpener⟩

theorem enclosingBracketsFrom_cons (partners : PartnerTable) (stack : List BracketPair)
    (index : Nat) (kind : TokenKind) (rest : List TokenKind) :
    enclosingBracketsFrom partners stack index (kind :: rest) =
      (leaving index stack).head? ::
        enclosingBracketsFrom partners
          ((if opensGroup kind then (partners.partner? index).map (⟨index, ·⟩) else none).toList ++
            leaving index stack) (index + 1) rest := by
  cases matched : partners.partner? index with
  | none => cases stack <;> simp [enclosingBracketsFrom, leaving, matched]
  | some closer =>
      by_cases opens : kind.isOpener = true ∧ kind ≠ .openCurly
      · cases stack <;> simp [enclosingBracketsFrom, leaving, matched, opensGroup, opens]
      · cases stack <;> simp [enclosingBracketsFrom, leaving, matched, opensGroup, opens]

/-- The scan of enclosing brackets finds the innermost group around every token. -/
theorem enclosingBracketsFrom_eq {rest : List TokenKind} (rest_eq : kinds.drop index = rest) :
    enclosingBracketsFrom (.ofKinds kinds) (pairsOpen (closerIn? kinds opensGroup) index).reverse
        index rest =
      rest.mapIdx fun offset _ =>
        (pairsAround (closerIn? kinds opensGroup) (index + offset)).getLast? := by
  induction rest generalizing index with
  | nil => rfl
  | cons kind rest ih =>
      rcases drop_succ_of_drop rest_eq with ⟨-, found, rest_eq⟩
      have nested := nested_groups kinds
      have opened : (if opensGroup kind then
            ((PartnerTable.ofKinds kinds).partner? index).map (⟨index, ·⟩) else none).toList ++
            (pairsAround (closerIn? kinds opensGroup) index).reverse =
          (pairsOpen (closerIn? kinds opensGroup) (index + 1)).reverse := by
        rw [nested.pairsOpen_succ, List.reverse_append, pairAt?, closerIn?, found, Option.any_some]
        cases (PartnerTable.ofKinds kinds).partner? index <;> split <;> rfl
      rw [enclosingBracketsFrom_cons, nested.leaving_pairsOpen, opened, ih rest_eq,
        List.mapIdx_cons, List.head?_reverse]
      simp only [Nat.add_zero, Nat.add_assoc, Nat.add_comm 1]

theorem openedScope?_eq {kind : TokenKind} (found : kinds[index]? = some kind) :
    openedScope? kinds.toArray (.ofKinds kinds) kind index
        (pairsAround (closerIn? kinds opensBlock) index).length =
      (pairAt? (closerIn? kinds opensBlock) index).map (scopeOf kinds) := by
  simp only [openedScope?, pairAt?, closerIn?, found, Option.any_some, opensBlock, beq_iff_eq]
  by_cases opens : kind = .openCurly
  · simp only [opens, if_true, Option.map_map]
    rfl
  · simp [opens]

/-- The innermost scope is left at its closing brace, and at no other token. -/
theorem depthsFrom_cons_of_left {partners : PartnerTable} {stack around : List Scope}
    {kind : TokenKind} {rest : List TokenKind}
    (left : (∃ innermost, stack = innermost :: around ∧ kind = .closeCurly ∧
        innermost.closer = some index) ∨
      stack = around ∧ ∀ innermost ∈ stack.head?, innermost.closer ≠ some index) :
    depthsFrom kinds.toArray partners stack index (kind :: rest) =
      let opened := openedScope? kinds.toArray partners kind index around.length
      ⟨around.length, around.head?, around.reverse.filterMap Scope.owner, opened⟩ ::
        depthsFrom kinds.toArray partners (opened.toList ++ around) (index + 1) rest := by
  rcases left with ⟨innermost, rfl, closes⟩ | ⟨rfl, stays⟩
  · simp [depthsFrom, closes]
  · cases stack with
    | nil => rfl
    | cons innermost outer =>
        have open_still := stays innermost rfl
        simp [depthsFrom, open_still]

theorem depthsFrom_cons {stack : List BracketPair} {kind : TokenKind} {rest : List TokenKind}
    (found : kinds[index]? = some kind)
    (around_eq : leaving index stack = (pairsAround (closerIn? kinds opensBlock) index).reverse)
    (closed : ∀ pair ∈ stack, pair.closer = index → kind = .closeCurly) :
    depthsFrom kinds.toArray (.ofKinds kinds) (stack.map (scopeOf kinds)) index (kind :: rest) =
      depthAt kinds index :: depthsFrom kinds.toArray (.ofKinds kinds)
        (((pairAt? (closerIn? kinds opensBlock) index).toList ++
          (pairsAround (closerIn? kinds opensBlock) index).reverse).map (scopeOf kinds))
        (index + 1) rest := by
  have left : (∃ innermost, stack.map (scopeOf kinds) = innermost ::
        (pairsAround (closerIn? kinds opensBlock) index).reverse.map (scopeOf kinds) ∧
          kind = .closeCurly ∧ innermost.closer = some index) ∨
      stack.map (scopeOf kinds) =
          (pairsAround (closerIn? kinds opensBlock) index).reverse.map (scopeOf kinds) ∧
        ∀ innermost ∈ (stack.map (scopeOf kinds)).head?, innermost.closer ≠ some index := by
    rw [← around_eq]
    cases stack with
    | nil => simp [leaving]
    | cons innermost outer =>
        by_cases ends : innermost.closer = index
        · have closes := closed innermost (List.mem_cons_self ..) ends
          exact Or.inl ⟨scopeOf kinds innermost, by simp [leaving, ends], closes,
            congrArg some ends⟩
        · refine Or.inr ⟨by simp [leaving, ends], ?_⟩
          simpa [scopeOf] using ends
  rw [depthsFrom_cons_of_left left]
  simp only [List.length_map, List.length_reverse, openedScope?_eq found]
  congr 1
  · simp [depthAt, ← List.map_reverse, List.filterMap_map]
  · rw [List.map_append]
    cases pairAt? (closerIn? kinds opensBlock) index <;> rfl

/-- The scan of depths gives every token what the blocks around it say. -/
theorem depthsFrom_eq {rest : List TokenKind} (rest_eq : kinds.drop index = rest) :
    depthsFrom kinds.toArray (.ofKinds kinds)
        ((pairsOpen (closerIn? kinds opensBlock) index).reverse.map (scopeOf kinds)) index rest =
      rest.mapIdx fun offset _ => depthAt kinds (index + offset) := by
  induction rest generalizing index with
  | nil => rfl
  | cons kind rest ih =>
      rcases drop_succ_of_drop rest_eq with ⟨-, found, rest_eq⟩
      have nested := nested_blocks kinds
      have closed : ∀ pair ∈ (pairsOpen (closerIn? kinds opensBlock) index).reverse,
          pair.closer = index → kind = .closeCurly := by
        rintro pair member rfl
        simp only [List.mem_reverse, pairsOpen, List.mem_filter, mem_pairsBefore_iff] at member
        have braces := braces_of_closerIn? member.1.2
        rw [found, Option.some.injEq] at braces
        exact braces.2
      have opened : ((pairAt? (closerIn? kinds opensBlock) index).toList ++
            (pairsAround (closerIn? kinds opensBlock) index).reverse) =
          (pairsOpen (closerIn? kinds opensBlock) (index + 1)).reverse := by
        rw [nested.pairsOpen_succ, List.reverse_append]
        cases pairAt? (closerIn? kinds opensBlock) index <;> rfl
      rw [depthsFrom_cons found (nested.leaving_pairsOpen index) closed, opened, ih rest_eq,
        List.mapIdx_cons]
      simp only [Nat.add_zero, Nat.add_assoc, Nat.add_comm 1]

/-- The owner of a block is a keyword before its brace, and behind the brace of every block
around it. -/
theorem scopeOwner?_between {place owner : Nat}
    (found : scopeOwner? kinds.toArray (.ofKinds kinds) place = some owner) :
    owner < place ∧ kinds[owner]?.any TokenKind.isScopeOwner = true ∧
      ∀ pair : BracketPair, closerIn? kinds opensBlock pair.opener = some pair.closer →
        pair.opener < place → place ≤ pair.closer → pair.opener < owner := by
  -- A search that stands behind a brace goes past it only if the kind there is no brace.
  have behind : ∀ {index : Nat} {kind : TokenKind}, kinds.toArray[index]? = some kind →
      kind ≠ .openCurly → ∀ pair : BracketPair,
        closerIn? kinds opensBlock pair.opener = some pair.closer →
          pair.opener < index + 1 → pair.opener < index := by
    intro index kind here notCurly pair matched before
    rcases Nat.lt_succ_iff_lt_or_eq.mp before with before | rfl
    · exact before
    · rw [List.getElem?_toArray, (braces_of_closerIn? matched).1, Option.some.injEq] at here
      exact absurd here.symm notCurly
  fun_induction scopeOwner? kinds.toArray (.ofKinds kinds) place with
  | case1 => cases found
  | case2 => cases found
  | case3 => cases found
  | case4 index kind here closes opener matched within ih =>
      have isCloser := (Bool.and_eq_true_iff.mp closes).1
      have member : ⟨opener, index⟩ ∈ bracketPairs kinds :=
        (PartnerTable.partner?_of_isCloser (by simpa using here) isCloser).mp matched
      rcases ih found with ⟨owner_lt, isOwner, above⟩
      refine ⟨by omega, isOwner, ?_⟩
      intro pair block before reaches
      have notCurly : kind ≠ .openCurly := by
        rintro rfl
        cases closes
      have before := behind here notCurly pair block before
      have among := ((closerIn?_eq_some_iff isOpener_of_opensBlock).mp block).2
      have laminar := BracketPair.laminar_of_mem among member
      simp only [BracketPair.Laminar, BracketPair.Contains] at laminar
      have opener_gt : pair.opener < opener := by
        rcases laminar with rfl | laminar
        · dsimp only at reaches
          omega
        · omega
      exact above pair block opener_gt (by omega)
  | case5 => cases found
  | case6 index kind here _ isOwner =>
      cases found
      rw [List.getElem?_toArray] at here
      refine ⟨Nat.lt_succ_self _, by rw [here]; exact isOwner, ?_⟩
      intro pair block before _
      apply behind (by rwa [List.getElem?_toArray]) ?_ pair block before
      rintro rfl
      cases isOwner
  | case7 => cases found
  | case8 index kind here _ _ goesOn ih =>
      rcases ih found with ⟨owner_lt, isOwner, above⟩
      refine ⟨Nat.lt_succ_of_lt owner_lt, isOwner, ?_⟩
      intro pair block before reaches
      apply above pair block (behind here ?_ pair block before) (by omega)
      rintro rfl
      exact goesOn rfl

end Annotations

namespace ScopeTable

/-- The indexes at which a scope is entered. -/
def marks (scope : Scope) : List Nat :=
  scope.opener :: scope.closer.toList ++ scope.owner.toList

theorem getElem?_foldl_set (indexes : List Nat) (scope : Scope) (table : ScopeTable)
    {index : Nat} (inside : index < table.size) :
    (indexes.foldl (fun table index => table.setIfInBounds index (some scope)) table)[index]? =
      if index ∈ indexes then some (some scope) else table[index]? := by
  induction indexes generalizing table with
  | nil => simp
  | cons first rest ih =>
      rw [List.foldl_cons, ih _ (by simpa using inside), Array.getElem?_setIfInBounds]
      by_cases later : index ∈ rest
      · simp [later]
      · by_cases here : first = index
        · simp [here, inside]
        · simp [later, here, Ne.symm here]

theorem size_insert (table : ScopeTable) (scope : Scope) :
    (table.insert scope).size = table.size := by
  have size_foldl : ∀ (indexes : List Nat) (table : ScopeTable),
      (indexes.foldl (fun table index => table.setIfInBounds index (some scope)) table).size =
        table.size := by
    intro indexes
    induction indexes with
    | nil => exact fun _ => rfl
    | cons first rest ih => intro table; rw [List.foldl_cons, ih, Array.size_setIfInBounds]
  exact size_foldl _ table

/-- An index that one scope alone is entered at keeps this scope. -/
theorem getElem?_foldl_insert {scopes : List Scope} {scope : Scope} {table : ScopeTable}
    {index : Nat} (inside : index < table.size) (marked : index ∈ marks scope)
    (alone : ∀ other ∈ scopes, index ∈ marks other → other = scope)
    (entered : scope ∈ scopes ∨ table[index]? = some (some scope)) :
    (scopes.foldl insert table)[index]? = some (some scope) := by
  induction scopes generalizing table with
  | nil => exact entered.resolve_left List.not_mem_nil
  | cons first rest ih =>
      have inserted := getElem?_foldl_set (marks first) first table inside
      apply ih (by rwa [size_insert])
      · exact fun other member => alone other (List.mem_cons_of_mem _ member)
      · by_cases here : index ∈ marks first
        · right
          have same := alone first (List.mem_cons_self ..) here
          rw [← same]
          exact inserted.trans (if_pos here)
        · rcases entered with member | known
          · rcases List.mem_cons.mp member with rfl | member
            · exact absurd marked here
            · exact Or.inl member
          · exact Or.inr (inserted.trans ((if_neg here).trans known))

end ScopeTable

section Braces

variable {kinds : List TokenKind} {pair : BracketPair}

/-- Blocks that share a mark at a brace are the same block. -/
theorem scopeOf_eq_of_marks {other : BracketPair} {brace : Nat}
    (block : closerIn? kinds opensBlock pair.opener = some pair.closer)
    (otherBlock : closerIn? kinds opensBlock other.opener = some other.closer)
    (isBrace : brace = pair.opener ∨ brace = pair.closer)
    (marked : brace ∈ ScopeTable.marks (scopeOf kinds other)) :
    scopeOf kinds other = scopeOf kinds pair := by
  have braces := braces_of_closerIn? block
  have otherBraces := braces_of_closerIn? otherBlock
  have nested := nested_blocks kinds
  have same_opener : other.opener = pair.opener → other = pair := by
    intro same
    rw [same, block, Option.some.injEq] at otherBlock
    cases pair
    cases other
    simp_all
  simp only [ScopeTable.marks, scopeOf, Option.toList_some, List.cons_append, List.nil_append,
    List.mem_cons, Option.mem_toList] at marked
  rcases marked with opens | closes | owns
  · rcases isBrace with here | here
    · rw [same_opener (opens.symm.trans here)]
    · rw [← opens, here, braces.2] at otherBraces
      cases otherBraces.1
  · rcases isBrace with here | here
    · rw [← closes, here, braces.1] at otherBraces
      cases otherBraces.2
    · have same_closer : other.closer = pair.closer := closes.symm.trans here
      have rises := nested.rises block
      have otherRises := nested.rises otherBlock
      rcases Nat.lt_trichotomy other.opener pair.opener with before | same | after
      · have inside := (nested.contains otherBlock block before (by omega)).2
        omega
      · rw [same_opener same]
      · have inside := (nested.contains block otherBlock after (by omega)).2
        omega
  · have isOwner := (scopeOwner?_between owns).2.1
    rcases isBrace with rfl | rfl
    · rw [braces.1] at isOwner
      cases isOwner
    · rw [braces.2] at isOwner
      cases isOwner

theorem depthsFrom_ofKinds (kinds : List TokenKind) :
    depthsFrom kinds.toArray (.ofKinds kinds) [] 0 kinds =
      kinds.mapIdx fun index _ => depthAt kinds index := by
  have scanned := depthsFrom_eq (List.drop_zero : kinds.drop 0 = kinds)
  simpa [pairsOpen, pairsBefore] using scanned

theorem enclosingBrackets_ofKinds (kinds : List TokenKind) :
    enclosingBrackets (.ofKinds kinds) kinds =
      (kinds.mapIdx fun index _ =>
        (pairsAround (closerIn? kinds opensGroup) index).getLast?).toArray := by
  have scanned := enclosingBracketsFrom_eq (List.drop_zero : kinds.drop 0 = kinds)
  rw [enclosingBrackets]
  congr 1
  simpa [pairsOpen, pairsBefore] using scanned

theorem mem_opened_iff {scope : Scope} :
    scope ∈ (kinds.mapIdx fun index _ => depthAt kinds index).filterMap Depth.opened ↔
      ∃ block : BracketPair, closerIn? kinds opensBlock block.opener = some block.closer ∧
        scopeOf kinds block = scope := by
  simp only [List.mem_filterMap, List.mem_mapIdx, depthAt]
  constructor
  · rintro ⟨depth, ⟨index, inside, rfl⟩, opened⟩
    rcases Option.map_eq_some_iff.mp opened with ⟨block, found, rfl⟩
    exact ⟨block, (pairAt?_eq_some_iff.mp found).2, rfl⟩
  · rintro ⟨block, found, rfl⟩
    have inside := (List.getElem?_eq_some_iff.mp (braces_of_closerIn? found).1).1
    refine ⟨_, ⟨block.opener, inside, rfl⟩, ?_⟩
    rw [pairAt?_eq_some_iff.mpr ⟨rfl, found⟩, Option.map_some]

/-- Both braces of a block are marked with its scope. -/
theorem ofDepths_at_brace {brace : Nat}
    (block : closerIn? kinds opensBlock pair.opener = some pair.closer)
    (isBrace : brace = pair.opener ∨ brace = pair.closer) :
    (ScopeTable.ofDepths kinds.toArray (.ofKinds kinds)
      (depthsFrom kinds.toArray (.ofKinds kinds) [] 0 kinds).toArray).getD brace none =
        some (scopeOf kinds pair) := by
  have braces := braces_of_closerIn? block
  have kind_brace : kinds[brace]? = some .openCurly ∨ kinds[brace]? = some .closeCurly := by
    rcases isBrace with rfl | rfl
    · exact Or.inl braces.1
    · exact Or.inr braces.2
  have inside : brace < kinds.length := by
    rcases kind_brace with found | found <;> exact (List.getElem?_eq_some_iff.mp found).1
  have noCase : ∀ depth, caseScope? kinds.toArray (.ofKinds kinds) brace depth = none := by
    intro depth
    rw [caseScope?, List.getElem?_toArray]
    cases depth.enclosing <;> rcases kind_brace with found | found <;> simp [found]
  have marked : brace ∈ ScopeTable.marks (scopeOf kinds pair) := by
    rcases isBrace with rfl | rfl <;> simp [ScopeTable.marks, scopeOf]
  have empty_inside : brace < (Array.replicate kinds.length none : ScopeTable).size := by
    simpa using inside
  have alone : ∀ other ∈ (kinds.mapIdx fun index _ => depthAt kinds index).filterMap Depth.opened,
      brace ∈ ScopeTable.marks other → other = scopeOf kinds pair := by
    intro other member marks
    rcases mem_opened_iff.mp member with ⟨otherPair, otherBlock, rfl⟩
    exact scopeOf_eq_of_marks block otherBlock isBrace marks
  have entered := ScopeTable.getElem?_foldl_insert empty_inside marked alone
    (Or.inl (mem_opened_iff.mpr ⟨pair, block, rfl⟩))
  rw [depthsFrom_ofKinds, ScopeTable.ofDepths, Array.getD_eq_getD_getElem?, Array.getElem?_mapIdx]
  simp only [List.size_toArray, List.length_mapIdx]
  rw [entered]
  simp [noCase, inside]

end Braces

namespace TokenStream

variable {lexemes : List Lexeme}

theorem closerIn?_eq_some_iff_matches {inClass : TokenKind → Bool} {pair : BracketPair}
    (openers : ∀ kind, inClass kind = true → kind.isOpener = true) :
    closerIn? (lexemes.map Lexeme.kind) inClass pair.opener = some pair.closer ↔
      (ofLexemes lexemes).Matches pair.opener pair.closer ∧
        (ofLexemes lexemes).kindIs pair.opener inClass = true := by
  rw [closerIn?_eq_some_iff openers, matches_iff, kindIs, kind?_ofLexemes, and_comm]

/-- What the pairs around a token say about its annotations. -/
theorem annotations_ofLexemes {index : Nat} {token : Token}
    (found : (ofLexemes lexemes).token? index = some token) :
    let depth := depthAt (lexemes.map Lexeme.kind) index
    token.level = depth.level ∧ token.enclosingScope = depth.enclosing ∧
      token.conditions = depth.conditions ∧
      token.enclosingBracket =
        (pairsAround (closerIn? (lexemes.map Lexeme.kind) opensGroup) index).getLast? ∧
      token.scope = (ScopeTable.ofDepths (lexemes.map Lexeme.kind).toArray
        (.ofKinds (lexemes.map Lexeme.kind))
        (depthsFrom (lexemes.map Lexeme.kind).toArray (.ofKinds (lexemes.map Lexeme.kind)) [] 0
          (lexemes.map Lexeme.kind)).toArray).getD index none := by
  simp only [token?, ofLexemes, List.getElem?_toArray, List.getElem?_mapIdx,
    Option.map_eq_some_iff] at found
  rcases found with ⟨lexeme, here, rfl⟩
  have inside : index < (lexemes.map Lexeme.kind).length := by
    simpa using (List.getElem?_eq_some_iff.mp here).1
  have depth_eq : (depthsFrom (lexemes.map Lexeme.kind).toArray
      (.ofKinds (lexemes.map Lexeme.kind)) [] 0 (lexemes.map Lexeme.kind)).toArray.getD index
        default = depthAt (lexemes.map Lexeme.kind) index := by
    rw [depthsFrom_ofKinds, Array.getD_eq_getD_getElem?, List.getElem?_toArray,
      List.getElem?_mapIdx, List.getElem?_eq_getElem inside]
    rfl
  have bracket_eq : (enclosingBrackets (.ofKinds (lexemes.map Lexeme.kind))
      (lexemes.map Lexeme.kind)).getD index none =
        (pairsAround (closerIn? (lexemes.map Lexeme.kind) opensGroup) index).getLast? := by
    rw [enclosingBrackets_ofKinds, Array.getD_eq_getD_getElem?, List.getElem?_toArray,
      List.getElem?_mapIdx, List.getElem?_eq_getElem inside]
    rfl
  simp only [depth_eq, bracket_eq, and_self]

/-- The owners of nested blocks come in increasing order. -/
theorem pairwise_owners (kinds : List TokenKind) (index : Nat) :
    ((pairsAround (closerIn? kinds opensBlock) index).filterMap fun pair =>
      (scopeOf kinds pair).owner).Pairwise (· < ·) := by
  apply List.pairwise_filterMap.mpr
  apply ((nested_blocks kinds).pairwise_pairsAround index).imp_of_mem
  intro outer inner memberOuter memberInner contains owner owns innerOwner ownsInner
  have blockOuter := (mem_pairsAround_iff.mp memberOuter).1
  have ownerBefore := (scopeOwner?_between owns).1
  have innerBehind := (scopeOwner?_between ownsInner).2.2 outer blockOuter contains.1
  have := (nested_blocks kinds).rises (mem_pairsAround_iff.mp memberInner).1
  have := contains.2
  omega

/-- Both braces of a block carry its scope. -/
theorem scope_at_brace {pair : BracketPair} {brace : Nat}
    (block : closerIn? (lexemes.map Lexeme.kind) opensBlock pair.opener = some pair.closer)
    (isBrace : brace = pair.opener ∨ brace = pair.closer) :
    ((ofLexemes lexemes).token? brace).bind Token.scope =
      some (scopeOf (lexemes.map Lexeme.kind) pair) := by
  have isToken : ((ofLexemes lexemes).kind? brace).isSome = true := by
    rw [kind?_ofLexemes]
    rcases isBrace with rfl | rfl
    · rw [(braces_of_closerIn? block).1]
      rfl
    · rw [(braces_of_closerIn? block).2]
      rfl
  rcases Option.isSome_iff_exists.mp (Option.isSome_map.symm.trans isToken) with ⟨token, found⟩
  rw [found, Option.bind_some, (annotations_ofLexemes found).2.2.2.2]
  exact ofDepths_at_brace block isBrace

/-- The annotations of a token in terms of the pairs around it, outermost first: its level counts
the blocks, its scope and its bracket belong to the innermost of either class, and its conditions
are the owners of the blocks. Both braces of a block carry its scope. -/
theorem annotations_by_pairsAround (lexemes : List Lexeme) :
    let stream : TokenStream := .ofLexemes lexemes
    let kinds := lexemes.map Lexeme.kind
    ∀ index token, stream.token? index = some token →
      let blocks := pairsAround (closerIn? kinds opensBlock) index
      let groups := pairsAround (closerIn? kinds opensGroup) index
      (∀ pair, pair ∈ blocks ↔ (stream.Matches pair.opener pair.closer ∧
        stream.kindIs pair.opener opensBlock = true) ∧ pair.opener < index ∧
          index < pair.closer) ∧
      blocks.Pairwise BracketPair.Contains ∧
      (∀ pair, pair ∈ groups ↔ (stream.Matches pair.opener pair.closer ∧
        stream.kindIs pair.opener opensGroup = true) ∧ pair.opener < index ∧
          index < pair.closer) ∧
      groups.Pairwise BracketPair.Contains ∧
      (∀ pair ∈ blocks, ∀ brace, brace = pair.opener ∨ brace = pair.closer →
        (stream.token? brace).bind Token.scope = some (scopeOf kinds pair)) ∧
      token.level = blocks.length ∧
      token.enclosingScope = blocks.getLast?.map (scopeOf kinds) ∧
      token.enclosingBracket = groups.getLast? ∧
      token.conditions = blocks.filterMap (fun pair => (scopeOf kinds pair).owner) ∧
      token.conditions.Pairwise (· < ·) := by
  intro stream kinds index token found blocks groups
  rcases annotations_ofLexemes found with ⟨level_eq, scope_eq, conditions_eq, bracket_eq, -⟩
  refine ⟨?_, (nested_blocks kinds).pairwise_pairsAround index, ?_,
    (nested_groups kinds).pairwise_pairsAround index, ?_, level_eq, scope_eq, bracket_eq,
    conditions_eq, ?_⟩
  · intro pair
    rw [mem_pairsAround_iff, closerIn?_eq_some_iff_matches isOpener_of_opensBlock]
  · intro pair
    rw [mem_pairsAround_iff, closerIn?_eq_some_iff_matches isOpener_of_opensGroup]
  · intro pair member brace isBrace
    exact scope_at_brace (mem_pairsAround_iff.mp member).1 isBrace
  · rw [conditions_eq]
    exact pairwise_owners kinds index

/-- The lexemes of `if{(else{;}}`, whose parenthesis stays open, and with it the outer block. -/
def unevenLexemes : List Lexeme := [
  ⟨.kwIf, "if", ⟨1, 1⟩⟩, ⟨.openCurly, "\x7b", ⟨1, 3⟩⟩, ⟨.openParenthesis, "(", ⟨1, 4⟩⟩,
  ⟨.kwElse, "else", ⟨1, 5⟩⟩, ⟨.openCurly, "\x7b", ⟨1, 9⟩⟩, ⟨.semicolon, ";", ⟨1, 10⟩⟩,
  ⟨.closeCurly, "\x7d", ⟨1, 11⟩⟩, ⟨.closeCurly, "\x7d", ⟨1, 12⟩⟩]

/-- Brackets without a partner neither raise the level nor enclose anything. -/
theorem annotations_by_pairsAround_uneven :
    ∃ token, (ofLexemes unevenLexemes).token? 5 = some token ∧ token.level = 1 ∧
      token.enclosingScope = some ⟨4, some 6, some 3, 1⟩ ∧ token.enclosingBracket = none ∧
      token.conditions = [3] := by
  have inside : ((ofLexemes unevenLexemes).token? 5).isSome = true := by decide +kernel
  rcases Option.isSome_iff_exists.mp inside with ⟨token, found⟩
  have blocks_eq : pairsAround (closerIn? (unevenLexemes.map Lexeme.kind) opensBlock) 5 =
      [⟨4, 6⟩] := by decide +kernel
  have groups_eq : pairsAround (closerIn? (unevenLexemes.map Lexeme.kind) opensGroup) 5 = [] := by
    decide +kernel
  have scope_eq : scopeOf (unevenLexemes.map Lexeme.kind) ⟨4, 6⟩ = ⟨4, some 6, some 3, 1⟩ := by
    decide +kernel
  rcases annotations_by_pairsAround unevenLexemes 5 token found with
    ⟨-, -, -, -, -, level_eq, enclosing_eq, bracket_eq, conditions_eq, -⟩
  rw [blocks_eq] at level_eq enclosing_eq conditions_eq
  rw [groups_eq] at bracket_eq
  refine ⟨token, found, level_eq, enclosing_eq.trans ?_, bracket_eq, conditions_eq.trans ?_⟩
  · simp [scope_eq]
  · simp [scope_eq]

end TokenStream

end TokenLint
