import TokenLint.Proofs.Navigation.Ownership
import TokenLint.Proofs.Navigation.Parameters
import TokenLint.Rule.CatchOrder

/-!
# Catch clauses that follow one another

The clauses of a `try` stand one behind the other, each directly behind the block of the one before
it, and only blanks and comments between them. A block has one owner, and the code in front of a
clause is the brace that ends one block, so a clause belongs to the chain of one `try` alone.
-/

namespace TokenLint

open Lexer

namespace TokenStream

variable (stream : TokenStream)

/-- Where the block that a keyword owns ends. -/
def blockEnd? (index : Nat) : Option Nat :=
  ((stream.token? index).bind Token.scope).bind Scope.closer

/-- Whether a catch clause with some parentheses stands directly behind a block that ends at
`closer`, and where its own block ends. -/
structure IsCatch (closer index : Nat) (pair : BracketPair) (stop : Nat) : Prop where
  next : stream.nextCode? (closer + 1) = some index
  word : stream.hasKind index .kwCatch = true
  parentheses : stream.parenthesisAt? index = some pair
  block : stream.blockEnd? index = some stop

/-- The catch clauses behind a block: where their words stand, and their parentheses. -/
inductive CatchChain : Nat → List (Nat × BracketPair) → Prop where
  | done {closer : Nat} (last : ∀ index pair stop, ¬stream.IsCatch closer index pair stop) :
      CatchChain closer []
  | clause {closer index stop : Nat} {pair : BracketPair} {rest : List (Nat × BracketPair)}
      (isCatch : stream.IsCatch closer index pair stop) (more : CatchChain stop rest) :
      CatchChain closer ((index, pair) :: rest)

variable {stream : TokenStream} {lexemes : List Lexeme} {index other closer stop owner : Nat}
  {pair : BracketPair} {clauses : List (Nat × BracketPair)} {kind : TokenKind}

/-! ### Blocks and their owners -/

/-- The block of a keyword is that of a pair of braces of which the keyword is the nearest one. -/
theorem exists_pair_of_blockEnd? (strict : Strict (lexemes.map Lexeme.kind))
    (isOwner : (ofLexemes lexemes).kindIs index TokenKind.isScopeOwner = true)
    (ends : (ofLexemes lexemes).blockEnd? index = some closer) :
    ∃ pair ∈ bracketPairs (lexemes.map Lexeme.kind), pair.closer = closer ∧
      Heads (lexemes.map Lexeme.kind) index pair.opener ∧
      (lexemes.map Lexeme.kind)[closer]? = some .closeCurly := by
  rcases Option.bind_eq_some_iff.mp ends with ⟨scope, found, closer_eq⟩
  rcases Option.bind_eq_some_iff.mp found with ⟨token, here, scope_eq⟩
  rw [kindIs, kind?, here, Option.map_some, Option.any_some] at isOwner
  rw [(annotations_ofLexemes here).2.2.2.2] at scope_eq
  rcases (ofDepths_at_owner strict (kind_of_token? here) isOwner).mp scope_eq with
    ⟨pair, block, heads, rfl⟩
  cases closer_eq
  exact ⟨pair, ((closerIn?_eq_some_iff isOpener_of_opensBlock).mp block).2, rfl, heads,
    (braces_of_closerIn? block).2⟩

theorem blockEnd?_bounds (strict : Strict (lexemes.map Lexeme.kind))
    (isOwner : (ofLexemes lexemes).kindIs index TokenKind.isScopeOwner = true)
    (ends : (ofLexemes lexemes).blockEnd? index = some closer) :
    index < closer ∧ closer < (ofLexemes lexemes).size := by
  rcases exists_pair_of_blockEnd? strict isOwner ends with ⟨pair, member, rfl, heads, closes⟩
  have rises := BracketPair.lt_of_mem member
  have inside := (List.getElem?_eq_some_iff.mp closes).1
  rw [List.length_map] at inside
  exact ⟨heads.before.trans rises, by rwa [size_ofLexemes]⟩

/-- Two keywords do not own one block. -/
theorem eq_of_blockEnd? (strict : Strict (lexemes.map Lexeme.kind))
    (isOwner : (ofLexemes lexemes).kindIs index TokenKind.isScopeOwner = true)
    (otherOwner : (ofLexemes lexemes).kindIs other TokenKind.isScopeOwner = true)
    (ends : (ofLexemes lexemes).blockEnd? index = some closer)
    (endsToo : (ofLexemes lexemes).blockEnd? other = some closer) : index = other := by
  rcases exists_pair_of_blockEnd? strict isOwner ends with ⟨pair, member, closer_eq, heads, -⟩
  rcases exists_pair_of_blockEnd? strict otherOwner endsToo with
    ⟨otherPair, among, otherCloser_eq, otherHeads, -⟩
  have same := eq_of_shared_end member among (.inr (closer_eq.trans otherCloser_eq.symm))
  subst same
  have inside : pair.opener ≤ (lexemes.map Lexeme.kind).length := by
    rcases BracketPair.exists_shape member with ⟨shape, here, -⟩
    exact (List.getElem?_eq_some_iff.mp here).1.le
  rw [← scopeOwner?_eq_some_iff strict inside] at heads otherHeads
  exact Option.some.inj (heads.symm.trans otherHeads)

theorem IsCatch.isOwner (isCatch : stream.IsCatch closer index pair stop) :
    stream.kindIs index TokenKind.isScopeOwner = true :=
  kindIs_of_hasKind isCatch.word

theorem IsCatch.bounds (strict : Strict (lexemes.map Lexeme.kind))
    (isCatch : (ofLexemes lexemes).IsCatch closer index pair stop) :
    closer < index ∧ index < stop ∧ stop < (ofLexemes lexemes).size :=
  ⟨(nextCode?_bounds isCatch.next).1, blockEnd?_bounds strict isCatch.isOwner isCatch.block⟩

/-! ### The chain of a block -/

/-- Behind every block there is a chain, of no clauses if need be. -/
theorem exists_catchChain (strict : Strict (lexemes.map Lexeme.kind)) (closer : Nat) :
    ∃ clauses, (ofLexemes lexemes).CatchChain closer clauses := by
  induction left : (ofLexemes lexemes).size - closer using Nat.strong_induction_on
    generalizing closer with
  | h size ih =>
      by_cases follows : ∃ index pair stop, (ofLexemes lexemes).IsCatch closer index pair stop
      · rcases follows with ⟨index, pair, stop, isCatch⟩
        have bounds := isCatch.bounds strict
        rcases ih _ (by omega) stop rfl with ⟨rest, more⟩
        exact ⟨_, .clause isCatch more⟩
      · exact ⟨[], .done fun index pair stop isCatch => follows ⟨index, pair, stop, isCatch⟩⟩

/-- The search for clauses finds the chain. -/
theorem catchChain_eq (strict : Strict (lexemes.map Lexeme.kind))
    (chain : (ofLexemes lexemes).CatchChain closer clauses) :
    (ofLexemes lexemes).catchChain closer = clauses.map fun clause =>
      ⟨clause.1, (ofLexemes lexemes).caughtNames clause.2⟩ := by
  induction chain with
  | done last =>
      rw [catchChain]
      split
      · rfl
      · rename_i index next
        split
        · rfl
        · rename_i token found
          rcases Option.filter_eq_some_iff.mp found with ⟨here, isCatch⟩
          split
          · rename_i pair stop parenthesis block
            refine absurd ?_ (last index pair stop)
            refine ⟨next, ?_, ?_, ?_⟩
            · simpa [hasKind, kind?, here] using isCatch
            · rw [parenthesisAt?, here, Option.bind_some, parenthesis]
            · rw [blockEnd?, here, Option.bind_some, block]
          · rfl
  | @clause closer index stop pair rest isCatch more ih =>
      have bounds := isCatch.bounds strict
      have next_lt : closer < stop ∧ stop < (ofLexemes lexemes).size := by omega
      rcases Option.bind_eq_some_iff.mp isCatch.parentheses with ⟨token, here, parenthesis⟩
      have block := isCatch.block
      rw [blockEnd?, here, Option.bind_some] at block
      have word : token.kind = .kwCatch := by
        simpa [hasKind, kind?, here] using isCatch.word
      have found : ((ofLexemes lexemes).token? index).filter
          (fun token => token.kind = .kwCatch) = some token := by
        rw [here]
        simp [word]
      rw [catchChain, isCatch.next]
      simp only [found, parenthesis, block, next_lt, and_self, if_true, ih, List.map_cons]

/-- The clauses of a chain stand behind the block that they follow. -/
theorem CatchChain.lt_of_mem (strict : Strict (lexemes.map Lexeme.kind))
    (chain : (ofLexemes lexemes).CatchChain closer clauses) :
    ∀ clause ∈ clauses, closer < clause.1 := by
  induction chain with
  | done last => simp
  | clause isCatch more ih =>
      have bounds := isCatch.bounds strict
      intro clause member
      rcases List.mem_cons.mp member with rfl | later
      · exact bounds.1
      · have after := ih clause later
        omega

/-- The clauses of a chain come in the order of their words. -/
theorem CatchChain.pairwise (strict : Strict (lexemes.map Lexeme.kind))
    (chain : (ofLexemes lexemes).CatchChain closer clauses) :
    clauses.Pairwise fun first second => first.1 < second.1 := by
  induction chain with
  | done last => exact .nil
  | clause isCatch more ih =>
      have bounds := isCatch.bounds strict
      refine .cons (fun clause member => ?_) ih
      have after := more.lt_of_mem strict clause member
      dsimp only
      omega

/-- The code in front of an index is the brace of one block, and that has one owner. -/
theorem eq_of_nextCode? {next : Nat} (strict : Strict (lexemes.map Lexeme.kind))
    (isOwner : (ofLexemes lexemes).kindIs index TokenKind.isScopeOwner = true)
    (otherOwner : (ofLexemes lexemes).kindIs other TokenKind.isScopeOwner = true)
    (ends : (ofLexemes lexemes).blockEnd? index = some closer)
    (endsToo : (ofLexemes lexemes).blockEnd? other = some stop)
    (follows : (ofLexemes lexemes).nextCode? (closer + 1) = some next)
    (followsToo : (ofLexemes lexemes).nextCode? (stop + 1) = some next) : index = other := by
  have not_lt : ∀ {owner first second : Nat},
      (ofLexemes lexemes).kindIs owner TokenKind.isScopeOwner = true →
        (ofLexemes lexemes).blockEnd? owner = some second →
          (ofLexemes lexemes).nextCode? (first + 1) = some next →
            (ofLexemes lexemes).nextCode? (second + 1) = some next → ¬first < second := by
    intro owner first second isOwner ends follows followsToo before
    rcases exists_pair_of_blockEnd? strict isOwner ends with ⟨-, -, -, -, closes⟩
    have trivia := isTrivia_before_nextCode? follows before (nextCode?_bounds followsToo).1
    rw [kindIs, kind?_ofLexemes, closes] at trivia
    cases trivia
  have same : closer = stop := Nat.le_antisymm
    (Nat.le_of_not_lt (not_lt isOwner ends followsToo follows))
    (Nat.le_of_not_lt (not_lt otherOwner endsToo follows followsToo))
  subst same
  exact eq_of_blockEnd? strict isOwner otherOwner ends endsToo

/-- In front of each clause of a chain ends the block of its first owner, or that of an earlier
clause. -/
theorem CatchChain.exists_before (strict : Strict (lexemes.map Lexeme.kind))
    (chain : (ofLexemes lexemes).CatchChain closer clauses)
    (isOwner : (ofLexemes lexemes).kindIs owner TokenKind.isScopeOwner = true)
    (begins : (ofLexemes lexemes).blockEnd? owner = some closer)
    (member : index ∈ clauses.map Prod.fst) :
    ∃ before ends, (ofLexemes lexemes).kindIs before TokenKind.isScopeOwner = true ∧
      (ofLexemes lexemes).blockEnd? before = some ends ∧
      (ofLexemes lexemes).nextCode? (ends + 1) = some index ∧
      (before = owner ∨ before < index ∧ before ∈ clauses.map Prod.fst ∧
        (ofLexemes lexemes).hasKind before .kwCatch = true) := by
  induction chain generalizing owner with
  | done last => cases member
  | @clause closer first stop pair rest isCatch more ih =>
      rw [List.map_cons] at member ⊢
      rcases List.mem_cons.mp member with rfl | later
      · exact ⟨owner, closer, isOwner, begins, isCatch.next, .inl rfl⟩
      · rcases ih isCatch.isOwner isCatch.block later with
          ⟨before, ends, known, block, next, rfl | ⟨lt, among, word⟩⟩
        · have bounds := isCatch.bounds strict
          rcases List.mem_map.mp later with ⟨clause, clauseMem, rfl⟩
          have after := more.lt_of_mem strict clause clauseMem
          exact ⟨before, ends, known, block, next,
            .inr ⟨by omega, List.mem_cons_self .., isCatch.word⟩⟩
        · exact ⟨before, ends, known, block, next, .inr ⟨lt, List.mem_cons_of_mem _ among, word⟩⟩

/-- A clause belongs to the chain of one `try`. -/
theorem eq_of_mem_catchChain (strict : Strict (lexemes.map Lexeme.kind))
    {otherClauses : List (Nat × BracketPair)}
    (isTry : (ofLexemes lexemes).hasKind owner .kwTry = true)
    (otherTry : (ofLexemes lexemes).hasKind other .kwTry = true)
    (ends : (ofLexemes lexemes).blockEnd? owner = some closer)
    (endsToo : (ofLexemes lexemes).blockEnd? other = some stop)
    (chain : (ofLexemes lexemes).CatchChain closer clauses)
    (otherChain : (ofLexemes lexemes).CatchChain stop otherClauses)
    (member : index ∈ clauses.map Prod.fst) (among : index ∈ otherClauses.map Prod.fst) :
    owner = other := by
  have not_catch : ∀ {index : Nat}, (ofLexemes lexemes).hasKind index .kwTry = true →
      (ofLexemes lexemes).hasKind index .kwCatch = true → False := by
    intro index isTry isCatch
    rw [hasKind_ofLexemes] at isTry isCatch
    cases isTry.symm.trans isCatch
  induction index using Nat.strong_induction_on with
  | h index ih =>
      rcases chain.exists_before strict (kindIs_of_hasKind isTry) ends member with
        ⟨before, closer, isOwner, block, next, which⟩
      rcases otherChain.exists_before strict (kindIs_of_hasKind otherTry) endsToo among with
        ⟨otherBefore, otherCloser, otherOwner, otherBlock, otherNext, otherWhich⟩
      have same := eq_of_nextCode? strict isOwner otherOwner block otherBlock next otherNext
      subst same
      rcases which with rfl | ⟨lt, earlier, word⟩
      · rcases otherWhich with rfl | ⟨-, -, otherWord⟩
        · rfl
        · exact (not_catch isTry otherWord).elim
      · rcases otherWhich with rfl | ⟨-, otherEarlier, -⟩
        · exact (not_catch otherTry word).elim
        · exact ih before lt earlier otherEarlier

end TokenStream

end TokenLint
