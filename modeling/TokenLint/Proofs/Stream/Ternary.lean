import TokenLint.Proofs.Lexer.Nesting
import TokenLint.Proofs.Lexer.Lossless
import TokenLint.Proofs.Stream.Level
import Mathlib.Data.List.Forall2
import Mathlib.Data.Nat.Find

/-!
# Ternaries that wait

The scanner keeps the question marks that wait for their colons on a stack, each with the number of
brackets that are open around it. What matters at a token is how many of them wait at its own depth.
A question mark adds one and a colon takes one away; a semicolon and the end of code take them all;
behind an opener none waits. What happens between two brackets never touches those that wait around
them: behind the closer as many wait as before the opener.
-/

namespace TokenLint

namespace Lexer.Nesting

variable {nesting : Nesting} {kind : TokenKind} {shape : BracketShape} {depth : Nat}

/-- How many ternaries wait for their colon at the depth of a nesting. -/
def waiting (nesting : Nesting) : Nat := nesting.pendingThens.count nesting.depth

/-- Whether the pending ternaries of a nesting stand in the order of their depths, none deeper than
the nesting itself. -/
structure Tidy (nesting : Nesting) : Prop where
  falls : nesting.pendingThens.Pairwise fun inner outer => outer ≤ inner
  inside : ∀ pending ∈ nesting.pendingThens, pending ≤ nesting.depth

theorem lt_of_mem_forgetFrom (tidy : nesting.Tidy) :
    ∀ pending ∈ (nesting.forgetFrom depth).pendingThens, pending < depth := by
  rcases nesting with ⟨brackets, pendings⟩
  have falls := tidy.falls
  dsimp only [forgetFrom] at falls ⊢
  clear tidy
  induction pendings with
  | nil => simp
  | cons first rest ih =>
      rcases List.pairwise_cons.mp falls with ⟨first_ge, rest_falls⟩
      by_cases deep : depth ≤ first
      · simpa [List.dropWhile_cons, deep] using ih rest_falls
      · intro pending member
        simp only [List.dropWhile_cons, deep, decide_false, Bool.false_eq_true, if_false] at member
        rcases List.mem_cons.mp member with rfl | later
        · omega
        · have below := first_ge pending later
          omega

theorem Tidy.forgetFrom (tidy : nesting.Tidy) (depth : Nat) : (nesting.forgetFrom depth).Tidy := by
  have kept : (nesting.forgetFrom depth).pendingThens.Sublist nesting.pendingThens :=
    List.dropWhile_sublist _
  exact ⟨tidy.falls.sublist kept, fun pending member => tidy.inside pending (kept.subset member)⟩

theorem tidy_empty : empty.Tidy := ⟨.nil, by simp [empty]⟩

theorem Tidy.push (tidy : nesting.Tidy) (shape : BracketShape) : (nesting.push shape).Tidy :=
  ⟨tidy.falls, fun pending member => (tidy.inside pending member).trans (Nat.le_succ _)⟩

theorem Tidy.close (tidy : nesting.Tidy) (shape : BracketShape) : (nesting.close shape).Tidy := by
  rcases nesting with ⟨_ | ⟨innermost, outer⟩, pendings⟩
  · exact tidy
  · simp only [Nesting.close]
    split
    · have below : ∀ pending ∈ (Nesting.forgetFrom ⟨innermost :: outer, pendings⟩
          (outer.length + 1)).pendingThens, pending < outer.length + 1 :=
        lt_of_mem_forgetFrom tidy
      refine ⟨tidy.falls.sublist (List.dropWhile_sublist _), ?_⟩
      exact fun pending member => Nat.le_of_lt_succ (below pending member)
    · exact tidy

/-- Every lexeme keeps the pending ternaries in order. -/
theorem Tidy.pass (tidy : nesting.Tidy) (kind : TokenKind) : (nesting.pass kind).Tidy := by
  simp only [Nesting.pass]
  split
  · exact tidy.push _
  · exact tidy.close _
  · split
    · refine ⟨List.pairwise_cons.mpr ⟨tidy.inside, tidy.falls⟩, ?_⟩
      exact List.forall_mem_cons.mpr ⟨Nat.le_refl _, tidy.inside⟩
    · have kept := List.tail_sublist nesting.pendingThens
      exact ⟨tidy.falls.sublist kept, fun pending member =>
        tidy.inside pending (kept.subset member)⟩
    · exact tidy.forgetFrom _
    · exact tidy.forgetFrom _
    · exact tidy

theorem waiting_then : (nesting.pass .ternaryThen).waiting = nesting.waiting + 1 :=
  List.count_cons_self

/-- A colon answers a ternary that waits at its depth. -/
theorem waiting_else (admits : nesting.Admits .ternaryElse) :
    nesting.waiting = (nesting.pass .ternaryElse).waiting + 1 := by
  rcases List.head?_eq_some_iff.mp admits with ⟨rest, pendings_eq⟩
  have passed : nesting.pass .ternaryElse = { nesting with pendingThens := rest } := by
    simp [pass, TokenKind.opens?, TokenKind.closes?, pendings_eq]
  rw [passed, waiting, pendings_eq, List.count_cons_self]
  rfl

theorem waiting_forgetFrom (tidy : nesting.Tidy) :
    (nesting.forgetFrom nesting.depth).waiting = 0 := by
  apply List.count_eq_zero_of_not_mem
  intro member
  exact Nat.lt_irrefl _ (lt_of_mem_forgetFrom tidy _ member)

theorem waiting_push (tidy : nesting.Tidy) (shape : BracketShape) :
    (nesting.push shape).waiting = 0 := by
  apply List.count_eq_zero_of_not_mem
  intro member
  exact Nat.not_succ_le_self _ (tidy.inside _ member)

/-- Only a question mark makes more ternaries wait at its depth. -/
theorem waiting_pass_le (notOpens : kind.opens? = none) (notCloses : kind.closes? = none)
    (notThen : kind ≠ .ternaryThen) : (nesting.pass kind).waiting ≤ nesting.waiting := by
  simp only [pass, notOpens, notCloses]
  split
  · contradiction
  · exact (List.tail_sublist nesting.pendingThens).count_le _
  · exact (List.dropWhile_sublist _).count_le _
  · exact (List.dropWhile_sublist _).count_le _
  · exact Nat.le_refl _

/-- Ternaries that are forgotten at some depth are none of those that wait less deep. -/
theorem count_forgetFrom (nesting : Nesting) {deeper : Nat} (below : depth < deeper) :
    (nesting.forgetFrom deeper).pendingThens.count depth = nesting.pendingThens.count depth := by
  rcases nesting with ⟨brackets, pendings⟩
  dsimp only [forgetFrom]
  induction pendings with
  | nil => rfl
  | cons first rest ih =>
      by_cases deep : deeper ≤ first
      · have other : first ≠ depth := by omega
        rw [List.dropWhile_cons_of_pos (by simpa using deep), ih, List.count_cons_of_ne other]
      · rw [List.dropWhile_cons_of_neg (by simpa using deep)]

/-- A lexeme touches none of the ternaries that wait less deep than it stands. -/
theorem count_pass (admits : nesting.Admits kind) (below : depth < nesting.depth) :
    (nesting.pass kind).pendingThens.count depth = nesting.pendingThens.count depth := by
  simp only [pass]
  split
  · rfl
  · simp only [close]
    split
    · rename_i innermost outer brackets_eq
      have depth_eq : nesting.depth = outer.length + 1 := by rw [Nesting.depth, brackets_eq]; rfl
      split
      · exact count_forgetFrom { nesting with brackets := outer } (depth_eq ▸ below)
      · rfl
    · rfl
  · split
    · exact List.count_cons_of_ne below.ne'
    · rcases List.head?_eq_some_iff.mp admits with ⟨rest, pendings_eq⟩
      rw [pendings_eq, List.tail_cons, List.count_cons_of_ne below.ne']
    · exact nesting.count_forgetFrom below
    · exact nesting.count_forgetFrom below
    · rfl

end Lexer.Nesting

section Waiting

open Lexer

/-- The kinds of a source in which every bracket has its partner. -/
structure Strict (kinds : List TokenKind) : Prop where
  follows : Nesting.empty.Follows kinds
  opener : ∀ {index kind}, kinds[index]? = some kind → kind.isOpener = true →
    ∃ closer, ⟨index, closer⟩ ∈ bracketPairs kinds
  closer : ∀ {index kind}, kinds[index]? = some kind → kind.isCloser = true →
    ∃ opener, ⟨opener, index⟩ ∈ bracketPairs kinds

variable {kinds : List TokenKind} {index : Nat} {kind : TokenKind}

/-- How many ternaries wait for their colon at the level of a token. -/
def waitingAt (kinds : List TokenKind) (index : Nat) : Nat := (nestingAt kinds index).waiting

theorem tidy_nestingAt (kinds : List TokenKind) (index : Nat) : (nestingAt kinds index).Tidy :=
  List.foldlRecOn (kinds.take index) Nesting.pass Nesting.tidy_empty
    fun _ tidy kind _ => Nesting.Tidy.pass tidy kind

theorem waitingAt_succ_of_keeps (found : kinds[index]? = some kind)
    (keeps : keepsNesting kind = true) : waitingAt kinds (index + 1) = waitingAt kinds index := by
  rw [waitingAt, nestingAt_succ found, Nesting.pass_of_keeps keeps, waitingAt]

theorem waitingAt_succ_then (found : kinds[index]? = some .ternaryThen) :
    waitingAt kinds (index + 1) = waitingAt kinds index + 1 := by
  rw [waitingAt, nestingAt_succ found, Nesting.waiting_then, waitingAt]

/-- Behind a semicolon or a close tag no ternary waits at its level. -/
theorem waitingAt_succ_of_forgets (found : kinds[index]? = some kind)
    (forgets : kind = .semicolon ∨ kind = .closeTag) : waitingAt kinds (index + 1) = 0 := by
  have waiting_eq := Nesting.waiting_forgetFrom (tidy_nestingAt kinds index)
  rw [waitingAt, nestingAt_succ found]
  rcases forgets with rfl | rfl
  · exact waiting_eq
  · exact waiting_eq

/-- Only a question mark makes more ternaries wait. -/
theorem waitingAt_succ_le (found : kinds[index]? = some kind) (notOpens : kind.opens? = none)
    (notCloses : kind.closes? = none) (notThen : kind ≠ .ternaryThen) :
    waitingAt kinds (index + 1) ≤ waitingAt kinds index := by
  rw [waitingAt, nestingAt_succ found]
  exact Nesting.waiting_pass_le notOpens notCloses notThen

/-- A level begins where no ternary waits: with the source, or behind an opener. -/
theorem exists_level_start (kinds : List TokenKind) (index : Nat) :
    ∃ start ≤ index, level kinds start = level kinds index ∧ waitingAt kinds start = 0 := by
  rcases List.eq_nil_or_concat (level kinds index) with none_open | ⟨outer, innermost, level_eq⟩
  · exact ⟨0, Nat.zero_le _, none_open.symm, rfl⟩
  · rw [List.concat_eq_append] at level_eq
    have among : innermost ∈ level kinds index := by simp [level_eq]
    rcases mem_level_iff.mp among with ⟨member, after, -⟩
    rcases BracketPair.exists_shape member with ⟨shape, found, -⟩
    refine ⟨innermost.opener + 1, after, level_of_innermost level_eq, ?_⟩
    rw [waitingAt, nestingAt_succ found, Nesting.pass_of_opens shape.opens?_opener]
    exact Nesting.waiting_push (tidy_nestingAt kinds _) shape

/-- Where ternaries wait, the level has a last token in front at which fewer wait. -/
theorem exists_last_fewer (positive : 0 < waitingAt kinds index) :
    ∃ last < index, level kinds last = level kinds index ∧
      waitingAt kinds last < waitingAt kinds index ∧
      ∀ between, last < between → between ≤ index → level kinds between = level kinds index →
        waitingAt kinds index ≤ waitingAt kinds between := by
  rcases exists_level_start kinds index with ⟨start, start_le, same, none_waits⟩
  have fewer := Nat.findGreatest_spec (P := fun last => level kinds last = level kinds index ∧
    waitingAt kinds last < waitingAt kinds index) start_le ⟨same, none_waits.trans_lt positive⟩
  refine ⟨_, ?_, fewer.1, fewer.2, ?_⟩
  · apply Nat.lt_of_le_of_ne (Nat.findGreatest_le index)
    intro here
    rw [here] at fewer
    exact Nat.lt_irrefl _ fewer.2
  · intro between after before same
    by_contra few
    exact Nat.findGreatest_is_greatest after before ⟨same, Nat.lt_of_not_le few⟩

end Waiting

namespace Strict

open Lexer

variable {kinds : List TokenKind} {index : Nat} {kind : TokenKind} {pair : BracketPair}
  (strict : Strict kinds)

include strict

theorem admits (found : kinds[index]? = some kind) : (nestingAt kinds index).Admits kind :=
  strict.follows.admits found

/-- The scanner's open brackets are those of the pairs that a token stands in. -/
theorem brackets_nestingAt (within : index ≤ kinds.length) :
    List.Forall₂ (fun shape pair => OpensAt kinds pair.opener shape)
      (nestingAt kinds index).brackets (level kinds index).reverse := by
  rcases exists_pairing kinds with ⟨stack, pairing⟩
  induction index with
  | zero => exact .nil
  | succ index ih =>
      have before := ih (by omega)
      have found : kinds[index]? = some kinds[index] := List.getElem?_eq_getElem within
      rw [nestingAt_succ found]
      cases opens : kinds[index].opens? with
      | some shape =>
          have isOpener : kinds[index].isOpener = true := Option.isSome_iff_exists.mpr ⟨_, opens⟩
          rcases strict.opener found isOpener with ⟨closer, member⟩
          have here : OpensAt kinds index shape := by simp [OpensAt, found, opens]
          rw [Nesting.pass_of_opens opens, level_opener_succ member, List.reverse_append]
          exact .cons here before
      | none =>
          cases closes : kinds[index].closes? with
          | some shape =>
              have isCloser : kinds[index].isCloser = true :=
                Option.isSome_iff_exists.mpr ⟨_, closes⟩
              rcases strict.closer found isCloser with ⟨opener, member⟩
              rcases (pairing.matched _ member).2.2 with ⟨opened, opensAt, closesAt⟩
              have opened_eq : opened = shape := by
                simpa [ClosesAt, found, closes, eq_comm] using closesAt
              have level_eq : level kinds index = level kinds (index + 1) ++ [⟨opener, index⟩] := by
                have closer_eq := level_closer member
                have behind_eq := level_closer_succ member
                dsimp only at closer_eq behind_eq
                rw [closer_eq, behind_eq]
                exact level_opener_succ member
              rw [level_eq, List.reverse_append] at before
              rcases List.forall₂_cons_right_iff.mp before with
                ⟨innermost, outer, innermost_opens, rest, brackets_eq⟩
              have innermost_eq : innermost = shape := by
                rw [OpensAt] at opensAt innermost_opens
                rw [← opened_eq]
                exact Option.some.inj (innermost_opens.symm.trans opensAt)
              subst innermost_eq
              rw [Nesting.pass_of_closes opens closes, Nesting.brackets_close brackets_eq]
              exact rest
          | none =>
              rw [level_succ found opens closes, Nesting.brackets_pass opens closes]
              exact before

theorem depth_nestingAt (within : index ≤ kinds.length) :
    (nestingAt kinds index).depth = (level kinds index).length := by
  rw [Nesting.depth, (strict.brackets_nestingAt within).length_eq, List.length_reverse]

/-- Behind a pair as many ternaries wait as in front of it. -/
theorem waitingAt_closer_succ (member : pair ∈ bracketPairs kinds) :
    waitingAt kinds (pair.closer + 1) = waitingAt kinds pair.opener := by
  have rises := BracketPair.lt_of_mem member
  rcases BracketPair.exists_shape member with ⟨shape, found, closes⟩
  have closer_lt := (List.getElem?_eq_some_iff.mp closes).1
  have kept : ∀ index, pair.opener < index → index ≤ pair.closer + 1 →
      (nestingAt kinds index).pendingThens.count (nestingAt kinds pair.opener).depth =
        waitingAt kinds pair.opener := by
    intro index after before
    induction index with
    | zero => omega
    | succ index ih =>
        rcases Nat.lt_succ_iff_lt_or_eq.mp after with later | rfl
        · have here : kinds[index]? = some kinds[index] := List.getElem?_eq_getElem (by omega)
          have deeper : (nestingAt kinds pair.opener).depth < (nestingAt kinds index).depth := by
            rw [strict.depth_nestingAt (by omega), strict.depth_nestingAt (by omega)]
            exact length_level_lt_of_inside member later (by omega)
          rw [nestingAt_succ here, Nesting.count_pass (strict.admits here) deeper]
          exact ih later (by omega)
        · rw [nestingAt_succ found, Nesting.pass_of_opens shape.opens?_opener]
          rfl
  have depth_eq : (nestingAt kinds (pair.closer + 1)).depth =
      (nestingAt kinds pair.opener).depth := by
    rw [strict.depth_nestingAt (by omega), strict.depth_nestingAt (by omega),
      level_closer_succ member]
  rw [waitingAt, Nesting.waiting, depth_eq]
  exact kept _ (by omega) (Nat.le_refl _)

/-- From a token one comes to the next of its level, over a pair if it opens one. Unless it is a
question mark, no more ternaries wait there. -/
theorem exists_next {last : Nat} (before : index < last) (inside : last ≤ kinds.length)
    (same : level kinds index = level kinds last) :
    ∃ next, index < next ∧ next ≤ last ∧ level kinds next = level kinds last ∧
      (waitingAt kinds next ≤ waitingAt kinds index ∨
        kinds[index]? = some .ternaryThen ∧ next = index + 1) := by
  have found : kinds[index]? = some kinds[index] := List.getElem?_eq_getElem (by omega)
  cases opens : kinds[index].opens? with
  | some shape =>
      rcases strict.opener found (Option.isSome_iff_exists.mpr ⟨_, opens⟩) with ⟨closer, member⟩
      have rises : index < closer := BracketPair.lt_of_mem member
      have closer_lt : closer < last := by
        by_contra behind
        apply level_ne_of_inside member before (Nat.le_of_not_lt behind) (.inl (Nat.le_refl _))
        exact same.symm
      refine ⟨closer + 1, Nat.lt_succ_of_lt rises, closer_lt, ?_, .inl ?_⟩
      · exact (level_closer_succ member).trans same
      · exact Nat.le_of_eq (strict.waitingAt_closer_succ member)
  | none =>
      cases closes : kinds[index].closes? with
      | some shape =>
          -- A closer ends its level, and the later token cannot be on it.
          rcases strict.closer found (Option.isSome_iff_exists.mpr ⟨_, closes⟩) with
            ⟨opener, member⟩
          have rises : opener < index := BracketPair.lt_of_mem member
          exact absurd same (level_ne_of_inside member rises (Nat.le_refl _) (.inr before))
      | none =>
          refine ⟨index + 1, Nat.lt_succ_self index, before, ?_, ?_⟩
          · exact (level_succ found opens closes).trans same
          · by_cases isThen : kinds[index] = .ternaryThen
            · right
              exact ⟨isThen ▸ found, rfl⟩
            · left
              exact waitingAt_succ_le found opens closes isThen

/-- A colon answers a ternary that waits at its level. -/
theorem waitingAt_else (found : kinds[index]? = some .ternaryElse) :
    waitingAt kinds index = waitingAt kinds (index + 1) + 1 := by
  rw [waitingAt, waitingAt, nestingAt_succ found]
  exact Nesting.waiting_else (strict.admits found)

end Strict

namespace TokenStream

variable {source : String} {stream : TokenStream} {lexemes : List Lexeme}

/-- A source that can be read has no bracket without a partner. -/
theorem unmatched_of_tokenize (read : tokenize source = .ok stream) : stream.unmatched = [] := by
  rcases exists_lex_of_tokenize read with ⟨lexemes, lexed, rfl⟩
  simp only [tokenize, tokenizeLenient, lexed, bind, Except.bind, Except.map] at read
  rw [List.eq_nil_iff_forall_not_mem]
  intro index member
  rcases List.exists_cons_of_ne_nil (List.ne_nil_of_mem member) with ⟨first, rest, unmatched_eq⟩
  have bracket := (mem_unmatched_iff.mp (unmatched_eq ▸ List.mem_cons_self)).1
  rcases (Option.any_eq_true _ _).mp bracket with ⟨kind, found, -⟩
  rcases Option.map_eq_some_iff.mp found with ⟨token, here, -⟩
  rw [unmatched_eq, List.head?_cons, Option.bind_some, here] at read
  cases read

theorem exists_partner (complete : (ofLexemes lexemes).unmatched = []) {index : Nat}
    {kind : TokenKind} (found : (lexemes.map Lexeme.kind)[index]? = some kind)
    (bracket : (kind.isOpener || kind.isCloser) = true) :
    ∃ partner, (PartnerTable.ofKinds (lexemes.map Lexeme.kind)).partner? index = some partner := by
  have isBracket : (ofLexemes lexemes).kindIs index
      (fun kind => kind.isOpener || kind.isCloser) = true := by
    rw [kindIs, kind?_ofLexemes, found]
    exact bracket
  cases matched : (ofLexemes lexemes).partner? index with
  | none =>
      have member := mem_unmatched_iff.mpr ⟨isBracket, matched⟩
      rw [complete] at member
      cases member
  | some partner =>
      rw [partner?_ofLexemes] at matched
      exact ⟨partner, matched⟩

/-- What the strict reading of a source accepts. -/
theorem strict_of_tokenize (read : tokenize source = .ok stream) :
    ∃ lexemes, stream = ofLexemes lexemes ∧ Strict (lexemes.map Lexeme.kind) := by
  rcases exists_lex_of_tokenize read with ⟨lexemes, lexed, rfl⟩
  have complete := unmatched_of_tokenize read
  refine ⟨lexemes, rfl, Lexer.follows_of_lex lexed, ?_, ?_⟩
  · intro index kind found opens
    rcases exists_partner complete found (by simp [opens]) with ⟨partner, matched⟩
    exact ⟨partner, (PartnerTable.partner?_of_isOpener found opens).mp matched⟩
  · intro index kind found closes
    rcases exists_partner complete found (by simp [closes]) with ⟨partner, matched⟩
    exact ⟨partner, (PartnerTable.partner?_of_isCloser found closes).mp matched⟩

end TokenStream

end TokenLint
