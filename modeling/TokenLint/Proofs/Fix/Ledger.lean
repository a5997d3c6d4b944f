import TokenLint.Proofs.Run.PassStep

/-!
# Commits to the ledger

A commit has three outcomes: an empty batch changes nothing, a batch that touches no
changed token enters all its edits, and any other batch is only kept as a conflict. What
a pass has committed is therefore the same before and after each operation, or there is
one more commit; a pass without commits leaves its source as it is.
-/

namespace TokenLint

namespace Ledger

variable (ledger : Ledger)

/-- The report of an offer, unless its problem is fixed already. -/
def openOffer (offer : Option Offer) : Option Offer :=
  offer.filter fun offer => !ledger.fixed.contains offer.report

@[simp]
theorem commit_nil (offer : Option Offer) : ledger.commit [] offer = ⟨ledger, true, .nothing⟩ :=
  rfl

/-- A batch that touches no changed token is entered as a whole. -/
theorem commit_of_clear {edits : List Edit} (offer : Option Offer) (nonempty : edits ≠ [])
    (noClash : ledger.clashing edits = []) :
    ledger.commit edits offer =
      ⟨{ ledger with
          patches := edits.foldl applyEdit ledger.patches
          commitCount := ledger.commitCount + 1
          fixed := ledger.fixed ++ ((ledger.openOffer offer).map Offer.report).toList },
        true, ((ledger.openOffer offer).map fun offer => .fixed offer.report).getD .nothing⟩ := by
  simp only [commit, List.isEmpty_iff, nonempty, if_false, noClash, openOffer]
  cases Option.filter (fun offer => !ledger.fixed.contains offer.report) offer <;> rfl

/-- A batch that touches a changed token is only kept as a conflict. -/
theorem commit_of_clash {edits : List Edit} (offer : Option Offer)
    (clash : ledger.clashing edits ≠ []) :
    ledger.commit edits offer =
      ⟨{ ledger with
          conflicts := ledger.conflicts ++ [⟨ledger.clashing edits, offer.map Offer.code⟩] },
        false, ((ledger.openOffer offer).map fun bound =>
          .conflicted bound.report ⟨ledger.clashing edits, offer.map Offer.code⟩).getD
            .nothing⟩ := by
  have nonempty : edits ≠ [] := by
    rintro rfl
    simp [clashing] at clash
  simp only [commit, List.isEmpty_iff, nonempty, if_false, openOffer]
  cases Option.filter (fun offer => !ledger.fixed.contains offer.report) offer <;> rfl

@[simp]
theorem staged_commit (edits : List Edit) (offer : Option Offer) :
    (ledger.commit edits offer).ledger.staged = ledger.staged := by
  by_cases empty : edits = []
  · subst empty
    rfl
  · by_cases noClash : ledger.clashing edits = []
    · rw [ledger.commit_of_clear offer empty noClash]
    · rw [ledger.commit_of_clash offer noClash]

/-- Nothing clashes with a ledger that touched none of the edited tokens. -/
theorem clashing_eq_nil_iff {edits : List Edit} :
    ledger.clashing edits = [] ↔
      ∀ edit ∈ edits, edit.index < ledger.size → ledger.isTouched edit.index = false := by
  simp only [clashing, List.filter_eq_nil_iff, List.mem_range, Bool.and_eq_true, List.any_eq_true,
    decide_eq_true_eq]
  constructor
  · intro noClash edit member inRange
    exact Bool.eq_false_iff.mpr fun touched =>
      noClash edit.index inRange ⟨touched, edit, member, rfl⟩
  · rintro untouched _ inRange ⟨touched, edit, member, rfl⟩
    rw [untouched edit member inRange] at touched
    cases touched

/-- What a ledger has committed: the patches, the reports fixed and the number of commits. -/
def committed : Array (Option Patch) × List Nat × Nat :=
  (ledger.patches, ledger.fixed, ledger.commitCount)

/-- A commit leaves what was committed before alone, or there is one more. -/
theorem committed_commit (edits : List Edit) (offer : Option Offer) :
    (ledger.commit edits offer).ledger.committed = ledger.committed ∨
      (ledger.commit edits offer).ledger.commitCount = ledger.commitCount + 1 := by
  by_cases empty : edits = []
  · subst empty
    exact Or.inl rfl
  · by_cases noClash : ledger.clashing edits = []
    · rw [ledger.commit_of_clear offer empty noClash]
      exact Or.inr rfl
    · rw [ledger.commit_of_clash offer noClash]
      exact Or.inl rfl

/-- Entering edits keeps the number of tokens. -/
theorem size_foldl_applyEdit (edits : List Edit) (patches : Array (Option Patch)) :
    (edits.foldl applyEdit patches).size = patches.size := by
  induction edits generalizing patches with
  | nil => rfl
  | cons edit rest ih => simp [ih, applyEdit]

@[simp]
theorem size_commit (edits : List Edit) (offer : Option Offer) :
    (ledger.commit edits offer).ledger.size = ledger.size := by
  by_cases empty : edits = []
  · subst empty
    rfl
  · by_cases noClash : ledger.clashing edits = []
    · rw [ledger.commit_of_clear offer empty noClash]
      exact size_foldl_applyEdit edits ledger.patches
    · rw [ledger.commit_of_clash offer noClash]
      rfl

theorem eq_commit_of_finish {commitment : Commitment} (closed : ledger.finish = .ok commitment) :
    ∃ edits, ledger.staged = some edits ∧
      commitment = ledger.rollback.commit edits ledger.bound := by
  simp only [finish] at closed
  split at closed
  · cases closed
  · rename_i edits staged
    cases closed
    exact ⟨edits, staged, rfl⟩

/-- An edit inside the stream is staged in the open changeset, or committed alone if none is
open. -/
theorem eq_of_edit {place : EditPlace} {index : Int} {text : String} {commitment : Commitment}
    (edited : ledger.edit place index text = .ok commitment) :
    (0 ≤ index ∧ index < ledger.size) ∧
      ((∃ edits, ledger.staged = some edits ∧ commitment =
          ⟨{ ledger with staged := some (edits ++ [⟨place, index.toNat, text⟩]) }, true,
            .nothing⟩) ∨
        ledger.staged = none ∧
          commitment = ledger.commit [⟨place, index.toNat, text⟩] ledger.offered) := by
  simp only [edit] at edited
  split at edited
  · rename_i inRange
    split at edited
    · rename_i edits staged
      cases edited
      exact ⟨inRange, Or.inl ⟨edits, staged, rfl⟩⟩
    · rename_i staged
      cases edited
      exact ⟨inRange, Or.inr ⟨staged, rfl⟩⟩
  · cases edited

theorem eq_of_begin {opened : Ledger} (began : ledger.begin = .ok opened) :
    ledger.staged = none ∧
      opened = { ledger with staged := some [], bound := ledger.offered, offered := none } := by
  simp only [begin] at began
  split at began
  · cases began
  · rename_i closed
    cases began
    exact ⟨by simpa [inChangeset] using closed, rfl⟩

end Ledger

namespace Pass

@[simp]
theorem ledger_accept (pass : Pass) (key : ReportKey) (message : String) (severity : Severity)
    (fixable : Bool) : (pass.accept key message severity fixable).1.ledger = pass.ledger := by
  simp only [accept]
  split <;> rfl

@[simp]
theorem stream_accept (pass : Pass) (key : ReportKey) (message : String) (severity : Severity)
    (fixable : Bool) : (pass.accept key message severity fixable).1.stream = pass.stream := by
  simp only [accept]
  split <;> rfl

@[simp]
theorem fixing_accept (pass : Pass) (key : ReportKey) (message : String) (severity : Severity)
    (fixable : Bool) : (pass.accept key message severity fixable).1.fixing = pass.fixing := by
  simp only [accept]
  split <;> rfl

@[simp]
theorem ledger_take (pass : Pass) (commitment : Commitment) :
    (pass.take commitment).ledger = commitment.ledger := by
  simp only [take, settle]
  cases commitment.verdict <;> rfl

@[simp]
theorem stream_take (pass : Pass) (commitment : Commitment) :
    (pass.take commitment).stream = pass.stream := by
  simp only [take, settle]
  cases commitment.verdict <;> rfl

@[simp]
theorem fixing_take (pass : Pass) (commitment : Commitment) :
    (pass.take commitment).fixing = pass.fixing := by
  simp only [take, settle]
  cases commitment.verdict <;> rfl

@[simp]
theorem seen_take (pass : Pass) (commitment : Commitment) :
    (pass.take commitment).seen = pass.seen := by
  simp only [take, settle]
  cases commitment.verdict <;> rfl

namespace Step

variable {pass after : Pass}

/-- No operation exchanges the stream. -/
theorem stream_eq (step : Step pass after) : after.stream = pass.stream := by
  cases step <;> simp

theorem fixing_eq (step : Step pass after) : after.fixing = pass.fixing := by
  cases step <;> simp

/-- An operation leaves what was committed before alone, or there is one more commit. -/
theorem committed_eq_or (step : Step pass after) :
    after.ledger.committed = pass.ledger.committed ∨
      after.ledger.commitCount = pass.ledger.commitCount + 1 := by
  cases step with
  | accept => simp
  | offer => exact Or.inl rfl
  | clearOffer => exact Or.inl rfl
  | begin opened => rw [(pass.ledger.eq_of_begin opened).2]; exact Or.inl rfl
  | rollback => exact Or.inl rfl
  | finish closed =>
      rcases pass.ledger.eq_commit_of_finish closed with ⟨edits, -, rfl⟩
      rw [ledger_take]
      exact pass.ledger.rollback.committed_commit edits pass.ledger.bound
  | edit edited =>
      rw [ledger_take]
      rcases (pass.ledger.eq_of_edit edited).2 with ⟨edits, -, rfl⟩ | ⟨-, rfl⟩
      · exact Or.inl rfl
      · exact pass.ledger.committed_commit _ pass.ledger.offered

end Step

namespace Steps

variable {pass after : Pass}

theorem stream_eq (steps : Steps pass after) : after.stream = pass.stream := by
  induction steps with
  | refl => rfl
  | tail _ step ih => rw [step.stream_eq, ih]

theorem fixing_eq (steps : Steps pass after) : after.fixing = pass.fixing := by
  induction steps with
  | refl => rfl
  | tail _ step ih => rw [step.fixing_eq, ih]

/-- The number of commits never falls. -/
theorem commitCount_le (steps : Steps pass after) :
    pass.ledger.commitCount ≤ after.ledger.commitCount := by
  induction steps with
  | refl => exact Nat.le_refl _
  | tail _ step ih =>
      rcases step.committed_eq_or with same | more
      · exact Nat.le_trans ih (Nat.le_of_eq (congrArg (fun committed => committed.2.2) same).symm)
      · omega

/-- Operations without a new commit leave what was committed before alone. -/
theorem committed_eq (steps : Steps pass after)
    (count_eq : after.ledger.commitCount = pass.ledger.commitCount) :
    after.ledger.committed = pass.ledger.committed := by
  induction steps with
  | refl => rfl
  | tail earlier step ih =>
      have grown := Steps.commitCount_le earlier
      rcases step.committed_eq_or with same | more
      · rw [same]
        exact ih ((congrArg (fun committed => committed.2.2) same).symm.trans count_eq)
      · omega

end Steps

end Pass

namespace Ledger

/-- A ledger without patches has made nothing of any token. -/
theorem patch?_of_patches_eq_replicate {ledger : Ledger} {size : Nat}
    (pristine : ledger.patches = Array.replicate size none) (index : Nat) :
    ledger.patch? index = none := by
  simp only [patch?, pristine, Array.getD_eq_getD_getElem?, Array.getElem?_replicate]
  split <;> rfl

/-- A ledger without patches leaves every token as it is. -/
theorem contents_of_patches_eq_replicate {ledger : Ledger} {size : Nat}
    (pristine : ledger.patches = Array.replicate size none) (stream : TokenStream) :
    ledger.contents stream = stream.source := by
  have untouched : ∀ token : Token, ledger.tokenText token = token.content := by
    intro token
    rw [tokenText, patch?_of_patches_eq_replicate pristine]
  rw [contents, TokenStream.source, funext untouched]

end Ledger

namespace Dispatcher

variable (dispatcher : Dispatcher) (stream : TokenStream) (fixing : Bool)

@[simp]
theorem stream_dispatch : (dispatcher.dispatch stream fixing).2.pass.stream = stream :=
  (dispatcher.steps_dispatch stream fixing).stream_eq

@[simp]
theorem fixing_dispatch : (dispatcher.dispatch stream fixing).2.pass.fixing = fixing :=
  (dispatcher.steps_dispatch stream fixing).fixing_eq

/-- A pass that commits nothing fixes nothing and leaves its source as it is. -/
theorem unchanged_dispatch
    (unchanged : (dispatcher.dispatch stream fixing).2.pass.ledger.changed = false) :
    (dispatcher.dispatch stream fixing).2.pass.fixed = [] ∧
      (dispatcher.dispatch stream fixing).2.pass.contents = stream.source := by
  have steps := dispatcher.steps_dispatch stream fixing
  have committed := steps.committed_eq
    (by simpa [Ledger.changed, Pass.start, Ledger.empty] using unchanged)
  simp only [Ledger.committed, Prod.mk.injEq] at committed
  constructor
  · simp [Pass.fixed, committed.2.1, Pass.start, Ledger.empty]
  · rw [Pass.contents, stream_dispatch]
    exact Ledger.contents_of_patches_eq_replicate committed.1 stream

end Dispatcher

end TokenLint
