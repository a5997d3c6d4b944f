import TokenLint.Proofs.Stream.Bounds
import Mathlib.Data.List.Pairwise
import Mathlib.Data.List.Sort

/-!
# Matched brackets

The scan keeps its open brackets on a stack. `Pairing` says where it stands after the kinds
below an index: what the stack holds, which pairs are closed, and that no opener is lost
between the two. Opening, closing and passing a kind each keep this. At the end it says that
the pairs are disjoint or nested, and that a closer takes the innermost opener that is still
open if both have one shape, and none otherwise. `Strays` says the same of the closers that
the scan leaves alone. What is on the stack at the end joins them, and so the brackets left
alone are those of no pair.
-/

namespace TokenLint

namespace BracketShape

/-- The kind that opens a bracket of a shape. -/
def opener : BracketShape → TokenKind
  | .parenthesis => .openParenthesis
  | .square => .openSquare
  | .shortArray => .openShortArray
  | .curly => .openCurly

/-- The kind that closes a bracket of a shape. -/
def closer : BracketShape → TokenKind
  | .parenthesis => .closeParenthesis
  | .square => .closeSquare
  | .shortArray => .closeShortArray
  | .curly => .closeCurly

@[simp]
theorem opens?_opener (shape : BracketShape) : shape.opener.opens? = some shape := by
  cases shape <;> rfl

@[simp]
theorem closes?_opener (shape : BracketShape) : shape.opener.closes? = none := by
  cases shape <;> rfl

@[simp]
theorem opens?_closer (shape : BracketShape) : shape.closer.opens? = none := by
  cases shape <;> rfl

@[simp]
theorem closes?_closer (shape : BracketShape) : shape.closer.closes? = some shape := by
  cases shape <;> rfl

end BracketShape

namespace TokenKind

variable {kind : TokenKind} {shape : BracketShape}

theorem opens?_eq_some_iff : kind.opens? = some shape ↔ kind = shape.opener := by
  constructor
  · intro opens
    cases kind <;> cases opens <;> rfl
  · rintro rfl
    exact shape.opens?_opener

theorem closes?_eq_some_iff : kind.closes? = some shape ↔ kind = shape.closer := by
  constructor
  · intro closes
    cases kind <;> cases closes <;> rfl
  · rintro rfl
    exact shape.closes?_closer

end TokenKind

section Pairing

variable (kinds : List TokenKind)

/-- Whether a bracket of some shape opens at an index. -/
def OpensAt (index : Nat) (shape : BracketShape) : Prop :=
  kinds[index]?.bind TokenKind.opens? = some shape

/-- Whether a bracket of some shape closes at an index. -/
def ClosesAt (index : Nat) (shape : BracketShape) : Prop :=
  kinds[index]?.bind TokenKind.closes? = some shape

variable {kinds} {index : Nat}

theorem opensAt_iff {shape : BracketShape} :
    OpensAt kinds index shape ↔ kinds[index]? = some shape.opener := by
  simp [OpensAt, Option.bind_eq_some_iff, TokenKind.opens?_eq_some_iff]

theorem closesAt_iff {shape : BracketShape} :
    ClosesAt kinds index shape ↔ kinds[index]? = some shape.closer := by
  simp [ClosesAt, Option.bind_eq_some_iff, TokenKind.closes?_eq_some_iff]

theorem OpensAt.not_closesAt {opened closed : BracketShape} (opens : OpensAt kinds index opened) :
    ¬ClosesAt kinds index closed := by
  intro closes
  have closer_eq := closesAt_iff.mp closes
  simp [OpensAt, closer_eq] at opens

end Pairing

namespace BracketPair

/-- Whether one pair lies strictly inside another. -/
def Contains (outer inner : BracketPair) : Prop :=
  outer.opener < inner.opener ∧ inner.closer < outer.closer

/-- Whether two pairs are the same, apart, or one inside the other. -/
def Laminar (first second : BracketPair) : Prop :=
  first = second ∨ first.closer < second.opener ∨ second.closer < first.opener ∨
    first.Contains second ∨ second.Contains first

theorem Laminar.symm {first second : BracketPair} (laminar : first.Laminar second) :
    second.Laminar first := by
  rcases laminar with rfl | before | after | around | inside
  · exact Or.inl rfl
  · exact Or.inr (Or.inr (Or.inl before))
  · exact Or.inr (Or.inl after)
  · exact Or.inr (Or.inr (Or.inr (Or.inr around)))
  · exact Or.inr (Or.inr (Or.inr (Or.inl inside)))

instance : Std.Symm Laminar := ⟨fun _ _ laminar => laminar.symm⟩

end BracketPair

/-- Where the scan of brackets stands after the kinds below an index. The stack holds the open
brackets, innermost first, and the closed pairs come in the order of their closers. -/
structure Pairing (kinds : List TokenKind) (index : Nat) (stack : List (Nat × BracketShape))
    (pairs : List BracketPair) : Prop where
  falls : stack.Pairwise fun inner outer => outer.1 < inner.1
  opened : ∀ entry ∈ stack, entry.1 < index ∧ OpensAt kinds entry.1 entry.2
  matched : ∀ pair ∈ pairs, pair.opener < pair.closer ∧ pair.closer < index ∧
    ∃ shape, OpensAt kinds pair.opener shape ∧ ClosesAt kinds pair.closer shape
  /-- No open bracket stands in a closed pair. -/
  outside : ∀ pair ∈ pairs, ∀ entry ∈ stack, entry.1 < pair.opener ∨ pair.closer < entry.1
  nested : pairs.Pairwise fun first second => first.closer < second.closer ∧
    (first.closer < second.opener ∨ second.opener < first.opener)
  covered : ∀ place shape, place < index → OpensAt kinds place shape →
    (place, shape) ∈ stack ∨ ∃ pair ∈ pairs, pair.opener = place
  /-- A closer takes the innermost opener that is still open if both have one shape. -/
  taken : ∀ opener closer shape, opener < closer → closer < index →
    OpensAt kinds opener shape → ClosesAt kinds closer shape →
    (∀ pair ∈ pairs, pair.opener = opener → closer ≤ pair.closer) →
    (∀ between other, opener < between → between < closer → OpensAt kinds between other →
      ∃ pair ∈ pairs, pair.opener = between ∧ pair.closer < closer) →
    ⟨opener, closer⟩ ∈ pairs

/-- What the scan has collected below an index: the closers that end none of the closed pairs, in
the order of the source. -/
structure Strays (kinds : List TokenKind) (index : Nat) (pairs : List BracketPair)
    (strays : List Nat) : Prop where
  rises : strays.Pairwise (· < ·)
  mem_iff : ∀ place, place ∈ strays ↔
    place < index ∧ (∃ shape, ClosesAt kinds place shape) ∧ ∀ pair ∈ pairs, pair.closer ≠ place

theorem drop_succ_of_drop {kinds rest : List TokenKind} {index : Nat} {kind : TokenKind}
    (rest_eq : kinds.drop index = kind :: rest) :
    index + 1 ≤ kinds.length ∧ kinds[index]? = some kind ∧ kinds.drop (index + 1) = rest := by
  have found : kinds[index]? = some kind := by rw [← List.head?_drop, rest_eq, List.head?_cons]
  refine ⟨(List.getElem?_eq_some_iff.mp found).1, found, ?_⟩
  rw [← List.tail_drop, rest_eq, List.tail_cons]

namespace Pairing

variable {kinds : List TokenKind} {index : Nat} {stack outer : List (Nat × BracketShape)}
  {pairs : List BracketPair} {opener : Nat} {shape : BracketShape}

theorem start (kinds : List TokenKind) : Pairing kinds 0 [] [] := by
  constructor <;> simp

/-- An opener that no pair has taken, behind which all openers are taken, is the innermost one. -/
theorem head?_stack (pairing : Pairing kinds index stack pairs) (before : opener < index)
    (opens : OpensAt kinds opener shape)
    (untaken : ∀ pair ∈ pairs, pair.opener = opener → index ≤ pair.closer)
    (behind : ∀ between other, opener < between → between < index → OpensAt kinds between other →
      ∃ pair ∈ pairs, pair.opener = between ∧ pair.closer < index) :
    stack.head? = some (opener, shape) := by
  rcases pairing.covered opener shape before opens with among | ⟨pair, member, rfl⟩
  · cases stack with
    | nil => simp at among
    | cons top outer =>
        rcases List.mem_cons.mp among with rfl | among
        · rfl
        · have below := List.rel_of_pairwise_cons pairing.falls among
          have top_opens := pairing.opened top (List.mem_cons_self ..)
          rcases behind top.1 top.2 below top_opens.1 top_opens.2 with ⟨pair, member, here, -⟩
          have apart := pairing.outside pair member top (List.mem_cons_self ..)
          have bounds := pairing.matched pair member
          omega
  · have late := untaken pair member rfl
    have bounds := pairing.matched pair member
    omega

theorem push (pairing : Pairing kinds index stack pairs) (opens : OpensAt kinds index shape) :
    Pairing kinds (index + 1) ((index, shape) :: stack) pairs where
  falls := by
    apply List.pairwise_cons.mpr
    exact ⟨fun entry member => (pairing.opened entry member).1, pairing.falls⟩
  opened := by
    intro entry member
    rcases List.mem_cons.mp member with rfl | member
    · exact ⟨Nat.lt_succ_self index, opens⟩
    · have known := pairing.opened entry member
      exact ⟨Nat.lt_succ_of_lt known.1, known.2⟩
  matched := by
    intro pair member
    have known := pairing.matched pair member
    exact ⟨known.1, Nat.lt_succ_of_lt known.2.1, known.2.2⟩
  outside := by
    intro pair member entry among
    rcases List.mem_cons.mp among with rfl | among
    · exact Or.inr (pairing.matched pair member).2.1
    · exact pairing.outside pair member entry among
  nested := pairing.nested
  covered := by
    intro place other before opensOther
    rcases Nat.lt_succ_iff_lt_or_eq.mp before with before | rfl
    · exact (pairing.covered place other before opensOther).imp_left (List.mem_cons_of_mem _)
    · rw [OpensAt] at opens opensOther
      rw [opens, Option.some.injEq] at opensOther
      subst opensOther
      exact Or.inl (List.mem_cons_self ..)
  taken := by
    intro first last other before inside opensFirst closesLast
    rcases Nat.lt_succ_iff_lt_or_eq.mp inside with inside | rfl
    · exact pairing.taken first last other before inside opensFirst closesLast
    · exact absurd closesLast opens.not_closesAt

theorem close (pairing : Pairing kinds index ((opener, shape) :: outer) pairs)
    (closes : ClosesAt kinds index shape) :
    Pairing kinds (index + 1) outer (pairs ++ [⟨opener, index⟩]) where
  falls := pairing.falls.tail
  opened := by
    intro entry member
    have known := pairing.opened entry (List.mem_cons_of_mem _ member)
    exact ⟨Nat.lt_succ_of_lt known.1, known.2⟩
  matched := by
    intro pair member
    rcases List.mem_append.mp member with member | member
    · have known := pairing.matched pair member
      exact ⟨known.1, Nat.lt_succ_of_lt known.2.1, known.2.2⟩
    · rw [List.mem_singleton.mp member]
      have known := pairing.opened (opener, shape) (List.mem_cons_self ..)
      exact ⟨known.1, Nat.lt_succ_self index, shape, known.2, closes⟩
  outside := by
    intro pair member entry among
    rcases List.mem_append.mp member with member | member
    · exact pairing.outside pair member entry (List.mem_cons_of_mem _ among)
    · rw [List.mem_singleton.mp member]
      exact Or.inl (List.rel_of_pairwise_cons pairing.falls among)
  nested := by
    apply List.pairwise_append.mpr
    refine ⟨pairing.nested, List.pairwise_singleton .., ?_⟩
    intro first member second among
    rw [List.mem_singleton.mp among]
    have apart := pairing.outside first member (opener, shape) (List.mem_cons_self ..)
    exact ⟨(pairing.matched first member).2.1, apart.symm⟩
  covered := by
    intro place other before opens
    rcases Nat.lt_succ_iff_lt_or_eq.mp before with before | rfl
    · rcases pairing.covered place other before opens with among | ⟨pair, member, here⟩
      · rcases List.mem_cons.mp among with same | among
        · cases same
          exact Or.inr ⟨⟨opener, index⟩, by simp, rfl⟩
        · exact Or.inl among
      · exact Or.inr ⟨pair, List.mem_append_left _ member, here⟩
    · exact absurd closes opens.not_closesAt
  taken := by
    intro first last other before inside opensFirst closesLast untaken behind
    have olderUntaken : ∀ pair ∈ pairs, pair.opener = first → last ≤ pair.closer :=
      fun pair member => untaken pair (List.mem_append_left _ member)
    -- The new pair ends at `index`, so it is none of those that end before `last`.
    have olderBehind : ∀ between shape, first < between → between < last →
        OpensAt kinds between shape →
          ∃ pair ∈ pairs, pair.opener = between ∧ pair.closer < last := by
      intro between shape after inner opens
      rcases behind between shape after inner opens with ⟨pair, member, here, early⟩
      rcases List.mem_append.mp member with member | member
      · exact ⟨pair, member, here, early⟩
      · rw [List.mem_singleton.mp member] at early
        dsimp only at early
        omega
    rcases Nat.lt_succ_iff_lt_or_eq.mp inside with inside | rfl
    · apply List.mem_append_left
      exact pairing.taken first last other before inside opensFirst closesLast olderUntaken
        olderBehind
    · have innermost := pairing.head?_stack before opensFirst olderUntaken olderBehind
      cases innermost
      simp

theorem skip (pairing : Pairing kinds index stack pairs)
    (notOpens : ∀ shape, ¬OpensAt kinds index shape)
    (unfit : ∀ entry ∈ stack.head?, ¬ClosesAt kinds index entry.2) :
    Pairing kinds (index + 1) stack pairs where
  falls := pairing.falls
  opened := by
    intro entry member
    have known := pairing.opened entry member
    exact ⟨Nat.lt_succ_of_lt known.1, known.2⟩
  matched := by
    intro pair member
    have known := pairing.matched pair member
    exact ⟨known.1, Nat.lt_succ_of_lt known.2.1, known.2.2⟩
  outside := pairing.outside
  nested := pairing.nested
  covered := by
    intro place other before opens
    rcases Nat.lt_succ_iff_lt_or_eq.mp before with before | rfl
    · exact pairing.covered place other before opens
    · exact absurd opens (notOpens other)
  taken := by
    intro first last other before inside opensFirst closesLast untaken behind
    rcases Nat.lt_succ_iff_lt_or_eq.mp inside with inside | rfl
    · exact pairing.taken first last other before inside opensFirst closesLast untaken behind
    · have innermost := pairing.head?_stack before opensFirst untaken behind
      exact absurd closesLast (unfit (first, other) innermost)

end Pairing

namespace Strays

variable {kinds : List TokenKind} {index opener : Nat} {pairs : List BracketPair}
  {strays : List Nat} {shape : BracketShape}

theorem start (kinds : List TokenKind) : Strays kinds 0 [] [] := by
  constructor <;> simp

theorem pass (collected : Strays kinds index pairs strays)
    (notCloses : ∀ shape, ¬ClosesAt kinds index shape) : Strays kinds (index + 1) pairs strays where
  rises := collected.rises
  mem_iff := by
    intro place
    rw [collected.mem_iff]
    constructor
    · exact fun ⟨before, stray⟩ => ⟨Nat.lt_succ_of_lt before, stray⟩
    · rintro ⟨before, ⟨shape, closes⟩, untaken⟩
      rcases Nat.lt_succ_iff_lt_or_eq.mp before with before | rfl
      · exact ⟨before, ⟨shape, closes⟩, untaken⟩
      · exact absurd closes (notCloses shape)

theorem close (collected : Strays kinds index pairs strays) (opener : Nat) :
    Strays kinds (index + 1) (pairs ++ [⟨opener, index⟩]) strays where
  rises := collected.rises
  mem_iff := by
    intro place
    simp only [collected.mem_iff, List.forall_mem_append, List.forall_mem_singleton]
    constructor
    · rintro ⟨before, closes, untaken⟩
      exact ⟨Nat.lt_succ_of_lt before, closes, untaken, (Nat.ne_of_lt before).symm⟩
    · rintro ⟨before, closes, untaken, other⟩
      exact ⟨Nat.lt_of_le_of_ne (Nat.le_of_lt_succ before) other.symm, closes, untaken⟩

theorem leave (collected : Strays kinds index pairs strays) (closes : ClosesAt kinds index shape)
    (earlier : ∀ pair ∈ pairs, pair.closer < index) :
    Strays kinds (index + 1) pairs (strays ++ [index]) where
  rises := by
    apply List.pairwise_append.mpr
    refine ⟨collected.rises, List.pairwise_singleton .., ?_⟩
    intro place member last among
    rw [List.mem_singleton.mp among]
    exact ((collected.mem_iff place).mp member).1
  mem_iff := by
    intro place
    rw [List.mem_append, List.mem_singleton, collected.mem_iff]
    constructor
    · rintro (⟨before, stray⟩ | rfl)
      · exact ⟨Nat.lt_succ_of_lt before, stray⟩
      · exact ⟨Nat.lt_succ_self place, ⟨shape, closes⟩, fun pair member =>
          Nat.ne_of_lt (earlier pair member)⟩
    · rintro ⟨before, stray⟩
      exact (Nat.lt_succ_iff_lt_or_eq.mp before).imp_left fun before => ⟨before, stray⟩

end Strays

namespace BracketMatching

@[simp]
theorem pairs_withPair (pair : BracketPair) (later : BracketMatching) :
    (later.withPair pair).pairs = pair :: later.pairs :=
  rfl

@[simp]
theorem unmatched_withPair (pair : BracketPair) (later : BracketMatching) :
    (later.withPair pair).unmatched = later.unmatched :=
  rfl

@[simp]
theorem pairs_withStray (index : Nat) (later : BracketMatching) :
    (later.withStray index).pairs = later.pairs :=
  rfl

@[simp]
theorem unmatched_withStray (index : Nat) (later : BracketMatching) :
    (later.withStray index).unmatched = index :: later.unmatched :=
  rfl

/-- Whether what a scan finds from some index on leads from the pairs closed and the closers
collected before it to the end of the kinds. The brackets left alone are closers collected on the
way, and then the stack as it stands at the end. -/
def Completes (kinds : List TokenKind) (pairs : List BracketPair)
    (strays : List Nat) (matching : BracketMatching) : Prop :=
  ∃ stack late, Pairing kinds kinds.length stack (pairs ++ matching.pairs) ∧
    Strays kinds kinds.length (pairs ++ matching.pairs) (strays ++ late) ∧
    matching.unmatched = late ++ (stack.map Prod.fst).reverse

variable {kinds : List TokenKind} {pairs : List BracketPair} {strays : List Nat}
  {matching : BracketMatching}

theorem Completes.withPair {pair : BracketPair}
    (completes : matching.Completes kinds (pairs ++ [pair]) strays) :
    (matching.withPair pair).Completes kinds pairs strays := by
  simpa [Completes] using completes

theorem Completes.withStray {index : Nat}
    (completes : matching.Completes kinds pairs (strays ++ [index])) :
    (matching.withStray index).Completes kinds pairs strays := by
  rcases completes with ⟨stack, late, pairing, collected, unmatched_eq⟩
  exact ⟨stack, index :: late, by simpa using pairing, by simpa using collected,
    by simp [unmatched_eq]⟩

end BracketMatching

namespace Pairing

variable {kinds : List TokenKind} {index : Nat} {stack : List (Nat × BracketShape)}
  {pairs : List BracketPair} {strays : List Nat} {opener : Nat} {shape : BracketShape}

/-- Each case of the scan is one of the steps of the two invariants. -/
theorem completes_matchBracketsFrom {rest : List TokenKind}
    (pairing : Pairing kinds index stack pairs) (collected : Strays kinds index pairs strays)
    (within : index ≤ kinds.length) (rest_eq : kinds.drop index = rest) :
    (matchBracketsFrom stack index rest).Completes kinds pairs strays := by
  fun_induction matchBracketsFrom stack index rest generalizing pairs strays with
  | case1 stack index =>
      have done : kinds.length ≤ index := List.drop_eq_nil_iff.mp rest_eq
      have at_end : index = kinds.length := by omega
      subst at_end
      exact ⟨stack, [], by simpa using pairing, by simpa using collected, rfl⟩
  | case2 stack index kind rest shape opens ih =>
      rcases drop_succ_of_drop rest_eq with ⟨within, found, rest_eq⟩
      have opened : OpensAt kinds index shape := by simp [OpensAt, found, opens]
      exact ih (pairing.push opened) (collected.pass fun _ => opened.not_closesAt) within rest_eq
  | case3 index kind rest opener shape outer notOpens closes ih =>
      rcases drop_succ_of_drop rest_eq with ⟨within, found, rest_eq⟩
      have closed : ClosesAt kinds index shape := by simp [ClosesAt, found, closes]
      exact (ih (pairing.close closed) (collected.close opener) within rest_eq).withPair
  | case4 index kind rest shape opener innermost outer closes notOpens differ ih =>
      rcases drop_succ_of_drop rest_eq with ⟨within, found, rest_eq⟩
      have closed : ClosesAt kinds index shape := by simp [ClosesAt, found, closes]
      have left := collected.leave closed fun pair member => (pairing.matched pair member).2.1
      refine (ih (pairing.skip ?_ ?_) left within rest_eq).withStray
      · simp [OpensAt, found, notOpens]
      · intro entry innermost_eq
        cases innermost_eq
        simpa [ClosesAt, found, closes] using Ne.symm differ
  | case5 index kind rest shape closes notOpens ih =>
      rcases drop_succ_of_drop rest_eq with ⟨within, found, rest_eq⟩
      have closed : ClosesAt kinds index shape := by simp [ClosesAt, found, closes]
      have left := collected.leave closed fun pair member => (pairing.matched pair member).2.1
      refine (ih (pairing.skip ?_ ?_) left within rest_eq).withStray
      · simp [OpensAt, found, notOpens]
      · simp
  | case6 stack index kind rest notCloses notOpens ih =>
      rcases drop_succ_of_drop rest_eq with ⟨within, found, rest_eq⟩
      have passed : ∀ shape, ¬ClosesAt kinds index shape := by simp [ClosesAt, found, notCloses]
      apply ih (pairing.skip ?_ fun entry _ => passed entry.2) (collected.pass passed) within
        rest_eq
      simp [OpensAt, found, notOpens]

/-- Two closed pairs are the same, or apart, or one lies in the other. -/
theorem laminar (pairing : Pairing kinds index stack pairs) {first second : BracketPair}
    (member : first ∈ pairs) (among : second ∈ pairs) : first.Laminar second := by
  have reflexive : ∀ pair ∈ pairs, pair.Laminar pair := fun _ _ => Or.inl rfl
  apply List.Pairwise.forall_of_forall reflexive ?_ member among
  apply pairing.nested.imp
  rintro first second ⟨order, before | inside⟩
  · exact Or.inr (Or.inl before)
  · exact Or.inr (Or.inr (Or.inr (Or.inr ⟨inside, order⟩)))

/-- An opener in a closed pair is closed in this pair. -/
theorem exists_inner (pairing : Pairing kinds index stack pairs) {pair : BracketPair}
    (member : pair ∈ pairs) (after : pair.opener < opener) (before : opener < pair.closer)
    (opens : OpensAt kinds opener shape) :
    ∃ inner ∈ pairs, inner.opener = opener ∧ inner.closer < pair.closer := by
  have bounds := pairing.matched pair member
  rcases pairing.covered opener shape (by omega) opens with among | ⟨inner, among, rfl⟩
  · have apart := pairing.outside pair member _ among
    dsimp only at apart
    omega
  · refine ⟨inner, among, rfl, ?_⟩
    have innerBounds := pairing.matched inner among
    rcases pairing.laminar member among with rfl | related
    · omega
    · simp only [BracketPair.Contains] at related
      omega

end Pairing

/-- The scan over all kinds ends with a pairing. The brackets left alone are the closers that it
has collected, and the openers still on the stack. -/
theorem exists_pairing_strays (kinds : List TokenKind) :
    ∃ stack strays, Pairing kinds kinds.length stack (bracketPairs kinds) ∧
      Strays kinds kinds.length (bracketPairs kinds) strays ∧
      (matchBrackets kinds).unmatched = strays ++ (stack.map Prod.fst).reverse :=
  (Pairing.start kinds).completes_matchBracketsFrom (Strays.start kinds) (Nat.zero_le _)
    List.drop_zero

theorem exists_pairing (kinds : List TokenKind) :
    ∃ stack, Pairing kinds kinds.length stack (bracketPairs kinds) := by
  rcases exists_pairing_strays kinds with ⟨stack, -, pairing, -⟩
  exact ⟨stack, pairing⟩

section Ends

variable {kinds : List TokenKind} {pair other : BracketPair} {index : Nat} {kind : TokenKind}

namespace BracketPair

theorem lt_of_mem (member : pair ∈ bracketPairs kinds) : pair.opener < pair.closer := by
  rcases exists_pairing kinds with ⟨stack, pairing⟩
  exact (pairing.matched _ member).1

theorem laminar_of_mem (member : pair ∈ bracketPairs kinds) (among : other ∈ bracketPairs kinds) :
    pair.Laminar other := by
  rcases exists_pairing kinds with ⟨stack, pairing⟩
  exact pairing.laminar member among

/-- The shape of a pair tells the kinds of both its brackets. -/
theorem exists_shape (member : pair ∈ bracketPairs kinds) :
    ∃ shape : BracketShape, kinds[pair.opener]? = some shape.opener ∧
      kinds[pair.closer]? = some shape.closer := by
  rcases exists_pairing kinds with ⟨stack, pairing⟩
  rcases (pairing.matched _ member).2.2 with ⟨shape, opens, closes⟩
  exact ⟨shape, opensAt_iff.mp opens, closesAt_iff.mp closes⟩

/-- A pair begins with the opener of some shape if and only if it ends with the closer of this
shape. -/
theorem opener_iff_closer (member : pair ∈ bracketPairs kinds) (shape : BracketShape) :
    kinds[pair.opener]? = some shape.opener ↔ kinds[pair.closer]? = some shape.closer := by
  rcases exists_shape member with ⟨own, opens, closes⟩
  rw [opens, closes, Option.some.injEq, Option.some.injEq, ← TokenKind.opens?_eq_some_iff,
    ← TokenKind.closes?_eq_some_iff, own.opens?_opener, own.closes?_closer]

end BracketPair

theorem ne_closer_of_isOpener (member : pair ∈ bracketPairs kinds)
    (found : kinds[index]? = some kind) (opens : kind.isOpener = true) : pair.closer ≠ index := by
  rintro rfl
  rcases BracketPair.exists_shape member with ⟨shape, -, closes⟩
  cases found.symm.trans closes
  simp [TokenKind.isOpener] at opens

theorem ne_opener_of_isCloser (member : pair ∈ bracketPairs kinds)
    (found : kinds[index]? = some kind) (closes : kind.isCloser = true) : pair.opener ≠ index := by
  rintro rfl
  rcases BracketPair.exists_shape member with ⟨shape, opens, -⟩
  cases found.symm.trans opens
  simp [TokenKind.isCloser] at closes

end Ends

namespace PartnerTable

@[simp]
theorem size_insert (table : PartnerTable) (pair : BracketPair) :
    (table.insert pair).size = table.size := by
  simp [insert]

theorem partner?_insert {table : PartnerTable} {pair : BracketPair}
    (rises : pair.opener < pair.closer) (inside : pair.closer < table.size) (index : Nat) :
    (table.insert pair).partner? index =
      if index = pair.closer then some pair.opener
      else if index = pair.opener then some pair.closer
      else table.partner? index := by
  simp only [partner?, insert, Array.getD_eq_getD_getElem?, Array.getElem?_setIfInBounds,
    Array.size_setIfInBounds]
  split
  · simp_all
  · have opener_lt : pair.opener < table.size := by omega
    split <;> simp_all [eq_comm]

/-- In a table of pairs that share no end, the partner of an end is the other end. -/
theorem partner?_foldl_insert {pairs : List BracketPair} {table : PartnerTable}
    (nested : pairs.Pairwise fun first second => first.closer < second.closer ∧
      (first.closer < second.opener ∨ second.opener < first.opener))
    (bounds : ∀ pair ∈ pairs, pair.opener < pair.closer ∧ pair.closer < table.size)
    (index partner : Nat) :
    (pairs.foldl insert table).partner? index = some partner ↔
      (⟨index, partner⟩ ∈ pairs ∨ ⟨partner, index⟩ ∈ pairs) ∨
        (∀ pair ∈ pairs, pair.opener ≠ index ∧ pair.closer ≠ index) ∧
          table.partner? index = some partner := by
  induction pairs generalizing table with
  | nil => simp
  | cons pair rest ih =>
      have first := bounds pair (List.mem_cons_self ..)
      have apart : ∀ other ∈ rest, pair.closer < other.closer ∧
          (pair.closer < other.opener ∨ other.opener < pair.opener) :=
        fun other member => List.rel_of_pairwise_cons nested member
      have later : ∀ other ∈ rest, other.opener < other.closer ∧
          other.closer < (table.insert pair).size := by
        intro other member
        rw [size_insert]
        exact bounds other (List.mem_cons_of_mem _ member)
      -- An end of the first pair is none of the others'.
      have alone : index = pair.opener ∨ index = pair.closer →
          ∀ other ∈ rest, other.opener ≠ index ∧ other.closer ≠ index := by
        intro ends other member
        have := apart other member
        have := later other member
        omega
      have absent : index = pair.opener ∨ index = pair.closer →
          ⟨index, partner⟩ ∉ rest ∧ ⟨partner, index⟩ ∉ rest :=
        fun ends => ⟨fun member => (alone ends _ member).1 rfl,
          fun member => (alone ends _ member).2 rfl⟩
      rw [List.foldl_cons, ih nested.tail later, partner?_insert first.1 first.2]
      rcases pair with ⟨opener, closer⟩
      dsimp only at first alone absent ⊢
      by_cases closes : index = closer
      · subst closes
        have opener_ne : index ≠ opener := by omega
        rw [if_pos rfl, and_iff_right (alone (Or.inr rfl))]
        simp [absent, opener_ne, eq_comm]
      · by_cases opens : index = opener
        · subst opens
          rw [if_neg closes, if_pos rfl, and_iff_right (alone (Or.inl rfl))]
          simp [absent, closes, eq_comm]
        · simp [closes, opens, Ne.symm closes, Ne.symm opens]

/-- Two indexes are partners if and only if the scan found them to be a pair. -/
theorem partner?_ofKinds (kinds : List TokenKind) (index partner : Nat) :
    (ofKinds kinds).partner? index = some partner ↔
      ⟨index, partner⟩ ∈ bracketPairs kinds ∨ ⟨partner, index⟩ ∈ bracketPairs kinds := by
  rcases exists_pairing kinds with ⟨stack, pairing⟩
  rw [ofKinds, partner?_foldl_insert pairing.nested]
  · have empty : partner? (Array.replicate kinds.length none) index = none := by
      simp only [partner?, Array.getD_eq_getD_getElem?, Array.getElem?_replicate]
      split <;> rfl
    simp [empty]
  · intro pair member
    have known := pairing.matched pair member
    simpa using ⟨known.1, known.2.1⟩

section Sides

variable {kinds : List TokenKind} {index partner : Nat} {kind : TokenKind}

/-- The partner of an opener is the closer of its pair. -/
theorem partner?_of_isOpener (found : kinds[index]? = some kind) (opens : kind.isOpener = true) :
    (ofKinds kinds).partner? index = some partner ↔ ⟨index, partner⟩ ∈ bracketPairs kinds := by
  rw [partner?_ofKinds]
  apply or_iff_left
  intro crossed
  exact ne_closer_of_isOpener crossed found opens rfl

/-- The partner of a closer is the opener of its pair. -/
theorem partner?_of_isCloser (found : kinds[index]? = some kind) (closes : kind.isCloser = true) :
    (ofKinds kinds).partner? index = some partner ↔ ⟨partner, index⟩ ∈ bracketPairs kinds := by
  rw [partner?_ofKinds]
  apply or_iff_right
  intro crossed
  exact ne_opener_of_isCloser crossed found closes rfl

end Sides

theorem partner?_symm {kinds : List TokenKind} {index partner : Nat} :
    (ofKinds kinds).partner? index = some partner ↔
      (ofKinds kinds).partner? partner = some index := by
  rw [partner?_ofKinds, partner?_ofKinds, or_comm]

end PartnerTable

section LeftAlone

open PartnerTable

variable {kinds : List TokenKind} {index : Nat}

theorem partner?_eq_none_iff :
    (ofKinds kinds).partner? index = none ↔
      ∀ pair ∈ bracketPairs kinds, pair.opener ≠ index ∧ pair.closer ≠ index := by
  simp only [Option.eq_none_iff_forall_ne_some, ne_eq, partner?_ofKinds, not_or]
  constructor
  · intro apart pair member
    constructor
    · rintro rfl
      exact (apart pair.closer).1 member
    · rintro rfl
      exact (apart pair.opener).2 member
  · intro apart partner
    exact ⟨fun member => (apart _ member).1 rfl, fun member => (apart _ member).2 rfl⟩

/-- A bracket is left alone if and only if it has no partner: an opener that is not on the stack at
the end is in a pair, and a closer that was not collected as well. -/
theorem mem_unmatchedBrackets :
    index ∈ unmatchedBrackets kinds ↔
      kinds[index]?.any (fun kind => kind.isOpener || kind.isCloser) = true ∧
        (ofKinds kinds).partner? index = none := by
  rcases exists_pairing_strays kinds with ⟨stack, strays, pairing, collected, unmatched_eq⟩
  simp only [unmatchedBrackets, List.mem_mergeSort, unmatched_eq, List.mem_append,
    List.mem_reverse, partner?_eq_none_iff]
  constructor
  · rintro (stray | left)
    · rcases (collected.mem_iff index).mp stray with ⟨-, ⟨shape, closes⟩, untaken⟩
      have found := closesAt_iff.mp closes
      have isCloser : shape.closer.isCloser = true := by simp [TokenKind.isCloser]
      refine ⟨by simp [found, isCloser], fun pair member => ⟨?_, untaken pair member⟩⟩
      exact ne_opener_of_isCloser member found isCloser
    · rcases List.mem_map.mp left with ⟨entry, among, rfl⟩
      have found := opensAt_iff.mp (pairing.opened entry among).2
      have isOpener : entry.2.opener.isOpener = true := by simp [TokenKind.isOpener]
      refine ⟨by simp [found, isOpener], fun pair member => ⟨?_, ?_⟩⟩
      · have bounds := pairing.matched pair member
        have apart := pairing.outside pair member entry among
        omega
      · exact ne_closer_of_isOpener member found isOpener
  · rintro ⟨bracket, apart⟩
    rcases (Option.any_eq_true _ _).mp bracket with ⟨kind, found, bracket⟩
    have inside : index < kinds.length := (List.getElem?_eq_some_iff.mp found).1
    rcases Bool.or_eq_true_iff.mp bracket with opens | closes
    · rcases Option.isSome_iff_exists.mp opens with ⟨shape, opens⟩
      have opened : OpensAt kinds index shape := by simp [OpensAt, found, opens]
      rcases pairing.covered index shape inside opened with among | ⟨pair, member, here⟩
      · exact Or.inr (List.mem_map.mpr ⟨_, among, rfl⟩)
      · exact absurd here (apart pair member).1
    · rcases Option.isSome_iff_exists.mp closes with ⟨shape, closes⟩
      have closed : ClosesAt kinds index shape := by simp [ClosesAt, found, closes]
      exact Or.inl ((collected.mem_iff index).mpr ⟨inside, ⟨shape, closed⟩, fun pair member =>
        (apart pair member).2⟩)

/-- No bracket is left alone twice: what was collected are closers, and the stack holds openers. -/
theorem nodup_unmatched (kinds : List TokenKind) : (matchBrackets kinds).unmatched.Nodup := by
  rcases exists_pairing_strays kinds with ⟨stack, strays, pairing, collected, unmatched_eq⟩
  have falls : (stack.map Prod.fst).Pairwise (· > ·) := List.pairwise_map.mpr pairing.falls
  rw [unmatched_eq, List.nodup_append', List.nodup_reverse]
  refine ⟨collected.rises.imp Nat.ne_of_lt, falls.imp Nat.ne_of_gt, ?_⟩
  intro place stray left
  rcases List.mem_map.mp (List.mem_reverse.mp left) with ⟨entry, among, rfl⟩
  rcases (collected.mem_iff entry.1).mp stray with ⟨-, ⟨shape, closes⟩, -⟩
  exact (pairing.opened entry among).2.not_closesAt closes

theorem pairwise_unmatchedBrackets (kinds : List TokenKind) :
    (unmatchedBrackets kinds).Pairwise (· < ·) := by
  have distinct : (unmatchedBrackets kinds).Nodup :=
    (List.mergeSort_perm ..).nodup_iff.mpr (nodup_unmatched kinds)
  exact (List.sortedLE_mergeSort.sortedLT_of_nodup distinct).pairwise

/-- Collecting and sorting gives the brackets without a partner in the order of the source. -/
theorem unmatchedBrackets_eq_filter (kinds : List TokenKind) :
    unmatchedBrackets kinds = (List.range kinds.length).filter fun index =>
      kinds[index]?.any (fun kind => kind.isOpener || kind.isCloser) &&
        ((ofKinds kinds).partner? index).isNone := by
  apply (pairwise_unmatchedBrackets kinds).eq_of_mem_iff (List.pairwise_lt_range.filter _)
  intro index
  rw [mem_unmatchedBrackets, List.mem_filter, List.mem_range, Bool.and_eq_true,
    Option.isNone_iff_eq_none]
  refine ⟨fun left => ⟨?_, left⟩, And.right⟩
  rcases (Option.any_eq_true _ _).mp left.1 with ⟨kind, found, -⟩
  exact (List.getElem?_eq_some_iff.mp found).1

end LeftAlone

namespace TokenStream

/-- Whether two indexes are those of an opener and of the closer that matches it. -/
def Matches (stream : TokenStream) (opener closer : Nat) : Prop :=
  opener < closer ∧ stream.partner? opener = some closer

theorem kind?_ofLexemes (lexemes : List Lexeme) (index : Nat) :
    (ofLexemes lexemes).kind? index = (lexemes.map Lexeme.kind)[index]? := by
  simp [kind?, token?, ofLexemes, Function.comp_def]

theorem partner?_ofLexemes (lexemes : List Lexeme) (index : Nat) :
    (ofLexemes lexemes).partner? index =
      (PartnerTable.ofKinds (lexemes.map Lexeme.kind)).partner? index := by
  by_cases inside : index < lexemes.length
  · simp [partner?, token?, ofLexemes, inside]
  · have missing : (PartnerTable.ofKinds (lexemes.map Lexeme.kind)).partner? index = none := by
      rw [Option.eq_none_iff_forall_ne_some]
      intro partner matched
      have returned := PartnerTable.partner?_symm.mp matched
      have below := PartnerTable.below_ofKinds _ _ _ returned
      rw [List.length_map] at below
      exact inside below
    rw [missing]
    simp [partner?, token?, ofLexemes, inside]

variable {lexemes : List Lexeme}

theorem matches_iff {opener closer : Nat} :
    (ofLexemes lexemes).Matches opener closer ↔
      ⟨opener, closer⟩ ∈ bracketPairs (lexemes.map Lexeme.kind) := by
  rw [Matches, partner?_ofLexemes, PartnerTable.partner?_ofKinds]
  constructor
  · rintro ⟨before, member | member⟩
    · exact member
    · have after := BracketPair.lt_of_mem member
      dsimp only at after
      omega
  · intro member
    exact ⟨BracketPair.lt_of_mem member, Or.inl member⟩

theorem partner?_eq_some_iff {index partner : Nat} :
    (ofLexemes lexemes).partner? index = some partner ↔
      (ofLexemes lexemes).Matches index partner ∨ (ofLexemes lexemes).Matches partner index := by
  rw [partner?_ofLexemes, PartnerTable.partner?_ofKinds, matches_iff, matches_iff]

theorem mem_unmatched_iff {index : Nat} :
    index ∈ (ofLexemes lexemes).unmatched ↔
      (ofLexemes lexemes).kindIs index (fun kind => kind.isOpener || kind.isCloser) = true ∧
        (ofLexemes lexemes).partner? index = none := by
  rw [kindIs, kind?_ofLexemes, partner?_ofLexemes]
  exact mem_unmatchedBrackets

theorem pairwise_unmatched (lexemes : List Lexeme) :
    (ofLexemes lexemes).unmatched.Pairwise (· < ·) :=
  pairwise_unmatchedBrackets _

theorem exists_opensAt {index : Nat}
    (opens : (ofLexemes lexemes).kindIs index TokenKind.isOpener = true) :
    ∃ shape, OpensAt (lexemes.map Lexeme.kind) index shape := by
  rw [kindIs, kind?_ofLexemes, Option.any_eq_true] at opens
  rcases opens with ⟨kind, found, opens⟩
  rcases Option.isSome_iff_exists.mp opens with ⟨shape, opens⟩
  exact ⟨shape, by rw [OpensAt, found, Option.bind_some, opens]⟩

/-- Two brackets match if and only if they have one shape, the opener has no earlier partner, and
all openers between the two have. -/
theorem matches_iff_innermost {opener closer : Nat} :
    (ofLexemes lexemes).Matches opener closer ↔
      opener < closer ∧
        (∃ shape, OpensAt (lexemes.map Lexeme.kind) opener shape ∧
          ClosesAt (lexemes.map Lexeme.kind) closer shape) ∧
        (∀ early, (ofLexemes lexemes).partner? opener = some early → closer ≤ early) ∧
        ∀ between, opener < between → between < closer →
          (ofLexemes lexemes).kindIs between TokenKind.isOpener = true →
            ∃ early < closer, (ofLexemes lexemes).partner? between = some early := by
  rcases exists_pairing (lexemes.map Lexeme.kind) with ⟨stack, pairing⟩
  constructor
  · rintro ⟨before, matched⟩
    have member := matches_iff.mp ⟨before, matched⟩
    refine ⟨before, (pairing.matched _ member).2.2, ?_, ?_⟩
    · intro early earlier
      rw [matched, Option.some.injEq] at earlier
      exact Nat.le_of_eq earlier
    · intro between after inside opens
      rcases exists_opensAt opens with ⟨shape, opens⟩
      rcases pairing.exists_inner member after inside opens with ⟨inner, among, rfl, early⟩
      exact ⟨inner.closer, early, (matches_iff.mpr among).2⟩
  · rintro ⟨before, ⟨shape, opens, closes⟩, untaken, behind⟩
    have inside : closer < (lexemes.map Lexeme.kind).length :=
      (List.getElem?_eq_some_iff.mp (closesAt_iff.mp closes)).1
    apply matches_iff.mpr
    apply pairing.taken opener closer shape before inside opens closes
    · rintro pair member rfl
      exact untaken pair.closer (matches_iff.mpr member).2
    · intro between other after inner opensOther
      have opener_between : (ofLexemes lexemes).kindIs between TokenKind.isOpener = true := by
        simp [kindIs, kind?_ofLexemes, opensAt_iff.mp opensOther, TokenKind.isOpener]
      rcases behind between after inner opener_between with ⟨early, early_lt, matched⟩
      rcases partner?_eq_some_iff.mp matched with matched | matched
      · exact ⟨⟨between, early⟩, matches_iff.mp matched, rfl, early_lt⟩
      · rcases (pairing.matched _ (matches_iff.mp matched)).2.2 with ⟨shape, -, closesOther⟩
        exact absurd closesOther opensOther.not_closesAt

/-- Partners are an opener and a later closer of its shape. The pairs are the same, apart, or one
inside the other; an opener inside a pair has its partner there; and a closer takes the innermost
opener that is still open. The brackets without a partner are listed in increasing order. -/
theorem matches_laminar (lexemes : List Lexeme) :
    let stream : TokenStream := .ofLexemes lexemes
    (∀ index partner, stream.partner? index = some partner →
      partner ≠ index ∧ stream.partner? partner = some index ∧
        (stream.Matches index partner ∨ stream.Matches partner index)) ∧
    (∀ opener closer, stream.Matches opener closer → ∃ shape,
      (stream.kind? opener).bind TokenKind.opens? = some shape ∧
        (stream.kind? closer).bind TokenKind.closes? = some shape) ∧
    (∀ first second : BracketPair, stream.Matches first.opener first.closer →
      stream.Matches second.opener second.closer → first.Laminar second) ∧
    (∀ opener closer between, stream.Matches opener closer → opener < between →
      between < closer → stream.kindIs between TokenKind.isOpener = true →
        ∃ inner < closer, stream.Matches between inner) ∧
    (∀ opener closer, stream.Matches opener closer ↔ opener < closer ∧
      (∃ shape, (stream.kind? opener).bind TokenKind.opens? = some shape ∧
        (stream.kind? closer).bind TokenKind.closes? = some shape) ∧
      (∀ early, stream.partner? opener = some early → closer ≤ early) ∧
      ∀ between, opener < between → between < closer →
        stream.kindIs between TokenKind.isOpener = true →
          ∃ early < closer, stream.partner? between = some early) ∧
    stream.unmatched.Pairwise (· < ·) ∧
    ∀ index, index ∈ stream.unmatched ↔
      stream.kindIs index (fun kind => kind.isOpener || kind.isCloser) = true ∧
        stream.partner? index = none := by
  intro stream
  rcases exists_pairing (lexemes.map Lexeme.kind) with ⟨stack, pairing⟩
  simp only [stream, kind?_ofLexemes]
  refine ⟨?_, ?_, ?_, ?_, fun _ _ => matches_iff_innermost, pairwise_unmatched lexemes,
    fun _ => mem_unmatched_iff⟩
  · intro index partner matched
    have sides := partner?_eq_some_iff.mp matched
    refine ⟨?_, partner?_eq_some_iff.mpr sides.symm, sides⟩
    rintro rfl
    exact Nat.lt_irrefl _ (sides.elim (fun side => side.1) fun side => side.1)
  · intro opener closer matched
    exact (pairing.matched _ (matches_iff.mp matched)).2.2
  · intro first second matchedFirst matchedSecond
    exact pairing.laminar (matches_iff.mp matchedFirst) (matches_iff.mp matchedSecond)
  · intro opener closer between matched after before opens
    rcases exists_opensAt opens with ⟨shape, opens⟩
    rcases pairing.exists_inner (matches_iff.mp matched) after before opens with
      ⟨inner, among, rfl, early⟩
    exact ⟨inner.closer, early, matches_iff.mpr among⟩

/-- The lexemes of `([)]}`, in which the parentheses cross the square brackets. -/
def crossingLexemes : List Lexeme := [
  ⟨.openParenthesis, "(", ⟨1, 1⟩⟩, ⟨.openSquare, "[", ⟨1, 2⟩⟩, ⟨.closeParenthesis, ")", ⟨1, 3⟩⟩,
  ⟨.closeSquare, "]", ⟨1, 4⟩⟩, ⟨.closeCurly, "\x7d", ⟨1, 5⟩⟩]

/-- A closer that does not fit the innermost opener stays alone, and so does the opener that it
would have fitted. -/
theorem matches_laminar_crossing :
    let stream : TokenStream := .ofLexemes crossingLexemes
    stream.partner? 1 = some 3 ∧ stream.partner? 3 = some 1 ∧ ¬stream.Matches 0 2 ∧
      0 ∈ stream.unmatched ∧ 2 ∈ stream.unmatched ∧ 4 ∈ stream.unmatched := by
  intro stream
  rcases matches_laminar crossingLexemes with ⟨partners, -, -, inside, -, -, alone⟩
  have square : stream.partner? 1 = some 3 := by decide +kernel
  refine ⟨square, (partners 1 3 square).2.1, ?_, ?_, ?_, ?_⟩
  · intro matched
    rcases inside 0 2 1 matched (by decide) (by decide) (by decide +kernel) with
      ⟨inner, inner_lt, -, other⟩
    rw [square, Option.some.injEq] at other
    omega
  · exact (alone 0).mpr (by decide +kernel)
  · exact (alone 2).mpr (by decide +kernel)
  · exact (alone 4).mpr (by decide +kernel)

end TokenStream

end TokenLint
