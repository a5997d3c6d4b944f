import TokenLint.Proofs.Fix.Ledger

/-!
# What a batch makes of each token

The edits of a batch reach a token through its patch and nothing else, so the patch of a
token after a commit is that of its own edits, entered one after the other.
-/

namespace TokenLint

namespace Ledger

/-- Enters an edit in what has been made of its token so far. -/
def enter (patch : Option Patch) (edit : Edit) : Option Patch :=
  some ((patch.getD .empty).add edit.place edit.text)

/-- The edits of one token, in order. -/
def editsAt (edits : List Edit) (index : Nat) : List Edit :=
  edits.filter fun edit => edit.index = index

theorem getD_foldl_applyEdit (edits : List Edit) (patches : Array (Option Patch)) {index : Nat}
    (inside : index < patches.size) :
    (edits.foldl applyEdit patches).getD index none =
      (editsAt edits index).foldl enter (patches.getD index none) := by
  induction edits generalizing patches with
  | nil => rfl
  | cons edit rest ih =>
      rw [List.foldl_cons, ih (applyEdit patches edit) (by simpa [applyEdit] using inside)]
      simp only [Array.getD_eq_getD_getElem?, applyEdit, Array.getElem?_modify]
      by_cases here : edit.index = index
      · subst here
        simp [editsAt, enter, inside]
      · simp [editsAt, here]

variable {ledger : Ledger}

/-- A batch that is entered changes just the patches of the tokens that it concerns. -/
theorem patch?_commit_of_clear {edits : List Edit} (offer : Option Offer) {index : Nat}
    (inside : index < ledger.size) (noClash : ledger.clashing edits = []) :
    (ledger.commit edits offer).ledger.patch? index =
      (editsAt edits index).foldl enter (ledger.patch? index) := by
  by_cases empty : edits = []
  · subst empty
    rfl
  · rw [ledger.commit_of_clear offer empty noClash]
    exact getD_foldl_applyEdit edits ledger.patches inside

theorem patch?_commit_of_clash {edits : List Edit} (offer : Option Offer) (index : Nat)
    (clash : ledger.clashing edits ≠ []) :
    (ledger.commit edits offer).ledger.patch? index = ledger.patch? index := by
  rw [ledger.commit_of_clash offer clash]
  rfl

theorem lt_size_of_patch? {index : Nat} {patch : Patch}
    (touched : ledger.patch? index = some patch) : index < ledger.size := by
  rw [patch?, Array.getD_eq_getD_getElem?] at touched
  refine Nat.lt_of_not_le fun outside => ?_
  rw [Array.getElem?_eq_none outside] at touched
  cases touched

/-- A batch that is entered concerns no token that is touched. -/
theorem editsAt_eq_nil_of_touched {edits : List Edit} {index : Nat} {patch : Patch}
    (noClash : ledger.clashing edits = []) (touched : ledger.patch? index = some patch) :
    editsAt edits index = [] := by
  rw [editsAt, List.filter_eq_nil_iff]
  intro edit member here
  have here : edit.index = index := of_decide_eq_true here
  have untouched := ledger.clashing_eq_nil_iff.mp noClash edit member
    (here ▸ lt_size_of_patch? touched)
  rw [isTouched, here, touched] at untouched
  cases untouched

/-- A commit never changes what earlier ones made of a token. -/
theorem patch?_commit_of_touched (edits : List Edit) (offer : Option Offer) {index : Nat}
    {patch : Patch} (touched : ledger.patch? index = some patch) :
    (ledger.commit edits offer).ledger.patch? index = some patch := by
  by_cases noClash : ledger.clashing edits = []
  · rw [patch?_commit_of_clear offer (lt_size_of_patch? touched) noClash,
      editsAt_eq_nil_of_touched noClash touched]
    exact touched
  · rw [patch?_commit_of_clash offer index noClash]
    exact touched

theorem patch?_commit_of_untouched {edits : List Edit} {offer : Option Offer} {index : Nat}
    {patch : Patch} (untouched : ledger.patch? index = none)
    (touched : (ledger.commit edits offer).ledger.patch? index = some patch) :
    ledger.clashing edits = [] ∧ (editsAt edits index).foldl enter none = some patch := by
  by_cases noClash : ledger.clashing edits = []
  · have inside := lt_size_of_patch? touched
    rw [size_commit] at inside
    rw [patch?_commit_of_clear offer inside noClash, untouched] at touched
    exact ⟨noClash, touched⟩
  · rw [patch?_commit_of_clash offer index noClash, untouched] at touched
    cases touched

end Ledger

end TokenLint
