import TokenLint.Proofs.Fix.Batch
import TokenLint.Proofs.Stream.Bounds
import Mathlib.Tactic.ByContra

/-!
# Committed batches

A journal is the simple account of a ledger: the batches that were committed, in order, and
the edits staged in the open changeset. A batch is entered as a whole if no committed one
touches a token of it, and otherwise not at all, so every token is touched by at most one
committed batch, which alone decides its text. A ledger refines this account along every
sequence of calls, also where calls fail: one lemma for each call, and one induction over
the calls.
-/

namespace TokenLint

/-- What may be asked of a ledger from outside. -/
inductive LedgerCall where
  | offer (offer : Offer)
  | clearOffer
  | begin
  | finish
  | rollback
  | edit (place : EditPlace) (index : Int) (text : String)

/-- What a call answers: a refusal, whether edits were accepted, or nothing. -/
abbrev LedgerAnswer := Except ChangesetError (Option Bool)

namespace Ledger

/-- A ledger after a call, and its answer. A call that is refused leaves the ledger as it is. -/
def call (ledger : Ledger) : LedgerCall → Ledger × LedgerAnswer
  | .offer offer => (ledger.offer offer, .ok none)
  | .clearOffer => (ledger.clearOffer, .ok none)
  | .begin =>
    match ledger.begin with
    | .ok opened => (opened, .ok none)
    | .error error => (ledger, .error error)
  | .finish =>
    match ledger.finish with
    | .ok commitment => (commitment.ledger, .ok (some commitment.accepted))
    | .error error => (ledger, .error error)
  | .rollback => (ledger.rollback, .ok none)
  | .edit place index text =>
    match ledger.edit place index text with
    | .ok commitment => (commitment.ledger, .ok (some commitment.accepted))
    | .error error => (ledger, .error error)

/-- A ledger after some calls, whatever their answers. -/
def after (ledger : Ledger) (calls : List LedgerCall) : Ledger :=
  calls.foldl (fun ledger call => (ledger.call call).1) ledger

end Ledger

/-- Whether some of the edits are about a token. -/
def Edit.touches (index : Nat) (edits : List Edit) : Bool :=
  edits.any fun edit => edit.index = index

/-- The texts that edits put in one place of a token, in order. -/
def Edit.textsAt (place : EditPlace) (index : Nat) (edits : List Edit) : List String :=
  (edits.filter fun edit => edit.place = place ∧ edit.index = index).map Edit.text

/-- The batches committed so far, and the edits of the changeset that is open. -/
structure Journal where
  batches : List (List Edit)
  staged : Option (List Edit)

namespace Journal

/-- The journal before the first call. -/
def empty : Journal := ⟨[], none⟩

variable (journal : Journal)

/-- Whether a committed batch touches a token. -/
def touches (index : Nat) : Bool := journal.batches.any (Edit.touches index)

/-- The text of a token: the one committed batch that touches it puts its insertions around the last
of its replacements, and any other token keeps its content. -/
def tokenText (index : Nat) (content : String) : String :=
  match journal.batches.find? (Edit.touches index) with
  | none => content
  | some batch =>
    String.join (Edit.textsAt .before index batch) ++
      (Edit.textsAt .replace index batch).getLast?.getD content ++
      String.join (Edit.textsAt .after index batch)

/-- Commits a batch that is not empty if no committed batch touches any of its tokens. -/
def enter (edits : List Edit) : Journal × Bool :=
  if edits.isEmpty then (journal, true)
  else if edits.any fun edit => journal.touches edit.index then (journal, false)
  else ({ journal with batches := journal.batches ++ [edits] }, true)

/-- The journal after a call on a ledger of some size, and the answer. -/
def call (size : Nat) : LedgerCall → Journal × LedgerAnswer
  | .offer _ => (journal, .ok none)
  | .clearOffer => (journal, .ok none)
  | .begin =>
    match journal.staged with
    | none => ({ journal with staged := some [] }, .ok none)
    | some _ => (journal, .error .alreadyOpen)
  | .finish =>
    match journal.staged with
    | none => (journal, .error .notOpen)
    | some edits =>
      let (entered, accepted) := ({ journal with staged := none } : Journal).enter edits
      (entered, .ok (some accepted))
  | .rollback => ({ journal with staged := none }, .ok none)
  | .edit place index text =>
    if 0 ≤ index ∧ index < size then
      let edit : Edit := ⟨place, index.toNat, text⟩
      match journal.staged with
      | some edits => ({ journal with staged := some (edits ++ [edit]) }, .ok (some true))
      | none =>
        let (entered, accepted) := journal.enter [edit]
        (entered, .ok (some accepted))
    else (journal, .error (.outOfRange index size))

/-- The journal of some calls on a ledger of some size. -/
def after (size : Nat) (calls : List LedgerCall) : Journal :=
  calls.foldl (fun journal call => (journal.call size call).1) journal

/-- What the committed batch that touches a token makes of it. -/
def patch? (index : Nat) : Option Patch :=
  (journal.batches.find? (Edit.touches index)).bind fun batch =>
    (Ledger.editsAt batch index).foldl Ledger.enter none

end Journal

namespace Edit

theorem touches_eq_false_iff {index : Nat} {edits : List Edit} :
    touches index edits = false ↔ ∀ edit ∈ edits, edit.index ≠ index := by
  simp [touches]

theorem editsAt_ne_nil_iff {index : Nat} {edits : List Edit} :
    Ledger.editsAt edits index ≠ [] ↔ touches index edits = true := by
  simp [touches, Ledger.editsAt, List.filter_eq_nil_iff]

@[simp]
theorem textsAt_editsAt (place : EditPlace) (index : Nat) (edits : List Edit) :
    textsAt place index (Ledger.editsAt edits index) = textsAt place index edits := by
  simp only [textsAt, Ledger.editsAt, List.filter_filter]
  congr 2
  funext edit
  simp

end Edit

namespace Ledger

/-- Entering edits of one token gathers their texts place by place. -/
theorem foldl_enter_some (edits : List Edit) (patch : Patch) {index : Nat}
    (here : ∀ edit ∈ edits, edit.index = index) :
    edits.foldl enter (some patch) =
      some ⟨patch.before ++ String.join (Edit.textsAt .before index edits),
        (Edit.textsAt .replace index edits).getLast?.or patch.replacement,
        patch.after ++ String.join (Edit.textsAt .after index edits)⟩ := by
  induction edits generalizing patch with
  | nil => simp [Edit.textsAt]
  | cons edit rest ih =>
      have index_eq := here edit (List.mem_cons_self ..)
      have later := ih (patch.add edit.place edit.text) fun other member =>
        here other (List.mem_cons_of_mem _ member)
      rw [List.foldl_cons, enter, Option.getD_some, later]
      cases place_eq : edit.place with
      | replace => simp [Edit.textsAt, Patch.add, place_eq, index_eq, List.getLast?_cons]
      | before => simp [Edit.textsAt, Patch.add, place_eq, index_eq, String.append_assoc]
      | after => simp [Edit.textsAt, Patch.add, place_eq, index_eq, String.append_assoc]

theorem foldl_enter_none {edits : List Edit} (nonempty : edits ≠ []) :
    edits.foldl enter none = edits.foldl enter (some .empty) := by
  cases edits with
  | nil => exact absurd rfl nonempty
  | cons edit rest => rfl

theorem isSome_foldl_enter (edits : List Edit) (patch : Option Patch) :
    (edits.foldl enter patch).isSome = (patch.isSome || !edits.isEmpty) := by
  induction edits generalizing patch with
  | nil => simp
  | cons edit rest ih => simp [ih, enter]

end Ledger

namespace Journal

variable {journal : Journal} {index : Nat}

theorem isSome_patch? (index : Nat) : (journal.patch? index).isSome = journal.touches index := by
  rw [patch?, touches]
  cases found : journal.batches.find? (Edit.touches index) with
  | none =>
      simpa using found
  | some batch =>
      have touched := List.find?_some found
      rw [Option.bind_some, Ledger.isSome_foldl_enter]
      rw [List.any_eq_true.mpr ⟨batch, List.mem_of_find?_eq_some found, touched⟩]
      simpa using Edit.editsAt_ne_nil_iff.mpr touched

/-- The text of a token is that of its content under the patch of the token. -/
theorem tokenText_eq (index : Nat) (content : String) :
    journal.tokenText index content =
      ((journal.patch? index).map fun patch => patch.render content).getD content := by
  rw [tokenText, patch?]
  cases found : journal.batches.find? (Edit.touches index) with
  | none => rfl
  | some batch =>
      have touched := List.find?_some found
      have gathered := Ledger.foldl_enter_some (Ledger.editsAt batch index) .empty
        fun edit member => of_decide_eq_true (List.mem_filter.mp member).2
      rw [Option.bind_some, Ledger.foldl_enter_none (Edit.editsAt_ne_nil_iff.mpr touched), gathered]
      simp [Patch.render, Patch.empty]

theorem patch?_append (edits : List Edit) (index : Nat)
    (clear : ∀ edit ∈ edits, journal.touches edit.index = false) :
    ({ journal with batches := journal.batches ++ [edits] } : Journal).patch? index =
      (Ledger.editsAt edits index).foldl Ledger.enter (journal.patch? index) := by
  by_cases touched : Edit.touches index edits = true
  · have untouched : journal.touches index = false := by
      rcases List.any_eq_true.mp touched with ⟨edit, member, here⟩
      rw [← of_decide_eq_true here]
      exact clear edit member
    have missing : journal.batches.find? (Edit.touches index) = none := by
      simpa [touches] using untouched
    simp [patch?, List.find?_append, missing, touched]
  · have nothing : Ledger.editsAt edits index = [] := by
      by_contra some_edit
      exact touched (Edit.editsAt_ne_nil_iff.mp some_edit)
    rw [nothing, List.foldl_nil, patch?, patch?]
    congr 1
    simp [List.find?_append, touched]

end Journal

/-- Whether a ledger of some size stands where a journal says. -/
structure Ledger.Refines (ledger : Ledger) (size : Nat) (journal : Journal) : Prop where
  size_eq : ledger.size = size
  staged_eq : ledger.staged = journal.staged
  commitCount_eq : ledger.commitCount = journal.batches.length
  patch?_eq : ∀ index < size, ledger.patch? index = journal.patch? index
  batches_inside : ∀ batch ∈ journal.batches, ∀ edit ∈ batch, edit.index < size
  staged_inside : ∀ edits ∈ journal.staged, ∀ edit ∈ edits, edit.index < size

namespace Ledger.Refines

variable {ledger : Ledger} {size : Nat} {journal : Journal}

theorem empty (size : Nat) : (Ledger.empty size).Refines size .empty := by
  refine ⟨Array.size_replicate, rfl, rfl, ?_, ?_, ?_⟩
  · intro index _
    exact Ledger.patch?_of_patches_eq_replicate rfl index
  · simp [Journal.empty]
  · simp [Journal.empty]

theorem isTouched_eq (refines : ledger.Refines size journal) (index : Nat) :
    ledger.isTouched index = journal.touches index := by
  by_cases inside : index < size
  · rw [Ledger.isTouched, refines.patch?_eq index inside, Journal.isSome_patch?]
  · have outside : ledger.patch? index = none := by
      by_contra touched
      rcases Option.ne_none_iff_exists'.mp touched with ⟨patch, touched⟩
      exact inside (refines.size_eq ▸ Ledger.lt_size_of_patch? touched)
    have untouched : journal.touches index = false := by
      rw [Journal.touches, List.any_eq_false]
      intro batch member
      rw [Bool.not_eq_true, Edit.touches_eq_false_iff]
      intro edit among same
      exact inside (same ▸ refines.batches_inside batch member edit among)
    rw [Ledger.isTouched, outside, untouched]
    rfl

theorem clashing_eq_nil_iff (refines : ledger.Refines size journal) {edits : List Edit}
    (inside : ∀ edit ∈ edits, edit.index < size) :
    ledger.clashing edits = [] ↔ ∀ edit ∈ edits, journal.touches edit.index = false := by
  rw [Ledger.clashing_eq_nil_iff]
  constructor
  · intro untouched edit member
    rw [← refines.isTouched_eq]
    exact untouched edit member (refines.size_eq ▸ inside edit member)
  · intro untouched edit member _
    rw [refines.isTouched_eq]
    exact untouched edit member

theorem commit (refines : ledger.Refines size journal) {edits : List Edit}
    (inside : ∀ edit ∈ edits, edit.index < size) (offer : Option Offer) :
    (ledger.commit edits offer).ledger.Refines size (journal.enter edits).1 ∧
      (ledger.commit edits offer).accepted = (journal.enter edits).2 := by
  by_cases nothing : edits = []
  · subst nothing
    exact ⟨refines, rfl⟩
  have nonempty : edits.isEmpty = false := by simpa using nothing
  by_cases clear : ledger.clashing edits = []
  · have untouched := (refines.clashing_eq_nil_iff inside).mp clear
    have entered : journal.enter edits =
        ({ journal with batches := journal.batches ++ [edits] }, true) := by
      have none_touched : (edits.any fun edit => journal.touches edit.index) = false := by
        simpa using untouched
      simp [Journal.enter, nonempty, none_touched]
    rw [entered]
    refine ⟨⟨?_, ?_, ?_, ?_, ?_, refines.staged_inside⟩, ?_⟩
    · rw [Ledger.size_commit, refines.size_eq]
    · rw [ledger.commit_of_clear offer nothing clear]
      exact refines.staged_eq
    · rw [ledger.commit_of_clear offer nothing clear]
      simp [refines.commitCount_eq]
    · intro index here
      rw [Ledger.patch?_commit_of_clear offer (refines.size_eq ▸ here) clear,
        refines.patch?_eq index here, Journal.patch?_append edits index untouched]
    · intro batch member
      rcases List.mem_append.mp member with member | member
      · exact refines.batches_inside batch member
      · rw [List.mem_singleton.mp member]
        exact inside
    · rw [ledger.commit_of_clear offer nothing clear]
  · have entered : journal.enter edits = (journal, false) := by
      have some_touched : (edits.any fun edit => journal.touches edit.index) = true := by
        by_contra none_touched
        exact clear ((refines.clashing_eq_nil_iff inside).mpr (by simpa using none_touched))
      simp [Journal.enter, nonempty, some_touched]
    rw [entered, ledger.commit_of_clash offer clear]
    exact ⟨⟨refines.size_eq, refines.staged_eq, refines.commitCount_eq, refines.patch?_eq,
      refines.batches_inside, refines.staged_inside⟩, rfl⟩

/-- Every call does to a ledger what it does to its journal, and both answer the same. -/
theorem call (refines : ledger.Refines size journal) (call : LedgerCall) :
    (ledger.call call).1.Refines size (journal.call size call).1 ∧
      (ledger.call call).2 = (journal.call size call).2 := by
  rcases refines with ⟨rfl, staged_eq, commitCount_eq, patch?_eq, batches_inside, staged_inside⟩
  have refines : ledger.Refines ledger.size journal :=
    ⟨rfl, staged_eq, commitCount_eq, patch?_eq, batches_inside, staged_inside⟩
  cases call with
  | offer offer => exact ⟨⟨rfl, staged_eq, commitCount_eq, patch?_eq, batches_inside,
      staged_inside⟩, rfl⟩
  | clearOffer => exact ⟨⟨rfl, staged_eq, commitCount_eq, patch?_eq, batches_inside,
      staged_inside⟩, rfl⟩
  | begin =>
      simp only [Ledger.call, Journal.call, Ledger.begin, Ledger.inChangeset, staged_eq]
      cases opened : journal.staged with
      | none =>
          exact ⟨⟨rfl, rfl, commitCount_eq, patch?_eq, batches_inside, by simp⟩, rfl⟩
      | some edits => exact ⟨refines, rfl⟩
  | finish =>
      simp only [Ledger.call, Journal.call, Ledger.finish, staged_eq]
      cases opened : journal.staged with
      | none => exact ⟨refines, rfl⟩
      | some edits =>
          have closed : ledger.rollback.Refines ledger.size { journal with staged := none } :=
            ⟨rfl, rfl, commitCount_eq, patch?_eq, batches_inside, by simp⟩
          have entered := closed.commit (staged_inside edits opened) ledger.bound
          refine ⟨entered.1, ?_⟩
          simp only [entered.2]
  | rollback =>
      refine ⟨⟨rfl, rfl, commitCount_eq, patch?_eq, batches_inside, ?_⟩, rfl⟩
      intro edits staged
      cases staged
  | edit place index text =>
      simp only [Ledger.call, Journal.call, Ledger.edit, staged_eq]
      by_cases inRange : 0 ≤ index ∧ index < ledger.size
      · have inside : index.toNat < ledger.size := by omega
        simp only [inRange, and_self, if_true]
        cases opened : journal.staged with
        | none =>
            have editInside : ∀ edit ∈ [(⟨place, index.toNat, text⟩ : Edit)],
                edit.index < ledger.size := by simpa using inside
            have entered := refines.commit editInside ledger.offered
            refine ⟨entered.1, ?_⟩
            simp only [entered.2]
        | some edits =>
            refine ⟨⟨rfl, rfl, commitCount_eq, patch?_eq, batches_inside, ?_⟩, rfl⟩
            intro staged member edit among
            cases member
            rcases List.mem_append.mp among with among | among
            · exact staged_inside edits opened edit among
            · rw [List.mem_singleton.mp among]
              exact inside
      · simp only [inRange, if_false]
        exact ⟨refines, trivial⟩

theorem after (refines : ledger.Refines size journal) (calls : List LedgerCall) :
    (ledger.after calls).Refines size (journal.after size calls) := by
  induction calls generalizing ledger journal with
  | nil => exact refines
  | cons call rest ih => exact ih (refines.call call).1

theorem contents_eq (refines : ledger.Refines size journal) {lexemes : List Lexeme}
    (length_eq : lexemes.length = size) :
    ledger.contents (.ofLexemes lexemes) =
      String.join (lexemes.mapIdx fun index lexeme => journal.tokenText index lexeme.content) := by
  rw [Ledger.contents]
  congr 1
  apply List.ext_getElem
  · simp [TokenStream.ofLexemes]
  · intro index _ inside
    have here : index < size := by simpa [length_eq] using inside
    simp only [TokenStream.ofLexemes, List.getElem_map, List.getElem_mapIdx, Ledger.tokenText,
      refines.patch?_eq index here, Journal.tokenText_eq]
    cases journal.patch? index <;> rfl

end Ledger.Refines

namespace Journal

variable (journal : Journal)

/-- A batch is entered as a whole if it is not empty and no committed one touches its tokens. -/
theorem batches_enter (edits : List Edit) :
    (journal.enter edits).1.batches = journal.batches ∨
      edits ≠ [] ∧ (∀ edit ∈ edits, journal.touches edit.index = false) ∧
        (journal.enter edits).1.batches = journal.batches ++ [edits] := by
  simp only [enter]
  split
  · exact .inl rfl
  · rename_i nonempty
    split
    · exact .inl rfl
    · rename_i clear
      exact .inr ⟨by simpa using nonempty, by simpa using clear, rfl⟩

/-- A call commits nothing, or one batch that touches no token of the others. -/
theorem batches_call (size : Nat) (call : LedgerCall) :
    (journal.call size call).1.batches = journal.batches ∨
      ∃ edits, edits ≠ [] ∧ (∀ edit ∈ edits, journal.touches edit.index = false) ∧
        (journal.call size call).1.batches = journal.batches ++ [edits] := by
  cases call with
  | offer offer => exact .inl rfl
  | clearOffer => exact .inl rfl
  | begin =>
      simp only [Journal.call]
      split <;> exact .inl rfl
  | finish =>
      simp only [Journal.call]
      split
      · exact .inl rfl
      · rename_i edits _
        exact (batches_enter { journal with staged := none } edits).imp_right fun entered =>
          ⟨edits, entered⟩
  | rollback => exact .inl rfl
  | edit place index text =>
      simp only [Journal.call]
      split
      · split
        · exact .inl rfl
        · exact (journal.batches_enter _).imp_right fun entered => ⟨_, entered⟩
      · exact .inl rfl

/-- At most one committed batch touches a token. -/
theorem countP_touches_after (size : Nat) (calls : List LedgerCall) (index : Nat) :
    (empty.after size calls).batches.countP (Edit.touches index) ≤ 1 := by
  refine List.foldlRecOn (motive := fun journal : Journal =>
    journal.batches.countP (Edit.touches index) ≤ 1) calls _ (by simp [empty]) ?_
  intro journal bound call _
  rcases journal.batches_call size call with same | ⟨edits, -, clear, more⟩
  · rw [same]
    exact bound
  · rw [more, List.countP_append, List.countP_singleton]
    split
    · rename_i touched
      rcases List.any_eq_true.mp touched with ⟨edit, member, here⟩
      have untouched := clear edit member
      rw [of_decide_eq_true here, touches, List.any_eq_false] at untouched
      have none := List.countP_eq_zero.mpr untouched
      omega
    · exact bound

end Journal

namespace Ledger

theorem fst_call_of_error {ledger : Ledger} {call : LedgerCall} {error : ChangesetError}
    (refused : (ledger.call call).2 = .error error) : (ledger.call call).1 = ledger := by
  cases call with
  | offer offer => cases refused
  | clearOffer => cases refused
  | begin =>
      simp only [Ledger.call] at refused ⊢
      split at refused
      · cases refused
      · rfl
  | finish =>
      simp only [Ledger.call] at refused ⊢
      split at refused
      · cases refused
      · rfl
  | rollback => cases refused
  | edit place index text =>
      simp only [Ledger.call] at refused ⊢
      split at refused
      · cases refused
      · rfl

/-- After any calls on the ledger of a stream, its contents are what the committed batches make of
the tokens. A call answers as the journal says; one that commits nothing changes neither the
contents nor the tokens that count as touched, and one that is refused changes nothing at all. -/
theorem after_follows_journal (lexemes : List Lexeme) (calls : List LedgerCall) :
    let stream : TokenStream := .ofLexemes lexemes
    let ledger := (Ledger.empty stream.size).after calls
    let journal := Journal.empty.after stream.size calls
    ledger.contents stream =
        String.join (lexemes.mapIdx fun index lexeme => journal.tokenText index lexeme.content) ∧
      (∀ index, journal.batches.countP (Edit.touches index) ≤ 1) ∧
      ledger.commitCount = journal.batches.length ∧
      (∀ index, ledger.isTouched index = journal.touches index) ∧
      ledger.staged = journal.staged ∧
      ∀ call,
        (ledger.call call).2 = (journal.call stream.size call).2 ∧
          ((ledger.call call).1.commitCount = ledger.commitCount →
            (ledger.call call).1.contents stream = ledger.contents stream ∧
              ∀ index, (ledger.call call).1.isTouched index = ledger.isTouched index) ∧
          ∀ error, (ledger.call call).2 = .error error → (ledger.call call).1 = ledger := by
  intro stream ledger journal
  have refines : ledger.Refines stream.size journal := (Refines.empty stream.size).after calls
  have length_eq : lexemes.length = stream.size := (TokenStream.size_ofLexemes lexemes).symm
  refine ⟨refines.contents_eq length_eq, Journal.countP_touches_after stream.size calls,
    refines.commitCount_eq, refines.isTouched_eq, refines.staged_eq, ?_⟩
  intro call
  have called := refines.call call
  refine ⟨called.2, ?_, fun error refused => fst_call_of_error refused⟩
  intro uncommitted
  have batches_eq : (journal.call stream.size call).1.batches = journal.batches := by
    rcases journal.batches_call stream.size call with same | ⟨edits, -, -, more⟩
    · exact same
    · rw [called.1.commitCount_eq, refines.commitCount_eq, more] at uncommitted
      simp at uncommitted
  constructor
  · rw [called.1.contents_eq length_eq, refines.contents_eq length_eq]
    simp only [Journal.tokenText, batches_eq]
  · intro index
    rw [called.1.isTouched_eq, refines.isTouched_eq, Journal.touches, batches_eq]
    rfl

/-- The lexemes of `<?php $a = 1;`. -/
def assignmentLexemes : List Lexeme := [
  ⟨.openTag, "<?php ", ⟨1, 1⟩⟩, ⟨.variable, "$a", ⟨1, 7⟩⟩, ⟨.whitespace, " ", ⟨1, 9⟩⟩,
  ⟨.equal, "=", ⟨1, 10⟩⟩, ⟨.whitespace, " ", ⟨1, 11⟩⟩, ⟨.integerNumber, "1", ⟨1, 12⟩⟩,
  ⟨.semicolon, ";", ⟨1, 13⟩⟩]

/-- A batch that clashes with an earlier one is rejected as a whole, and a changeset that is opened
twice stays as it is. -/
theorem after_follows_journal_conflict :
    let stream : TokenStream := .ofLexemes assignmentLexemes
    let ledger := (Ledger.empty stream.size).after [.edit .replace 5 "2", .begin,
      .edit .replace 1 "$b", .edit .after 5 "0"]
    (ledger.call .begin).2 = .error .alreadyOpen ∧ (ledger.call .begin).1 = ledger ∧
      (ledger.call .finish).2 = .ok (some false) ∧
      (ledger.call .finish).1.commitCount = ledger.commitCount ∧
      (ledger.call .finish).1.contents stream = "<?php $a = 2;" := by
  rcases after_follows_journal assignmentLexemes [.edit .replace 5 "2", .begin,
    .edit .replace 1 "$b", .edit .after 5 "0"] with ⟨contents_eq, -, -, -, -, called⟩
  have refused := (called .begin).1.trans rfl
  have rejected := (called .finish).1.trans rfl
  have kept := ((called .finish).2.1 (by decide +kernel)).1
  refine ⟨refused, (called .begin).2.2 _ refused, rejected, by decide +kernel, ?_⟩
  exact kept.trans (contents_eq.trans (by decide +kernel))

end Ledger

end TokenLint
