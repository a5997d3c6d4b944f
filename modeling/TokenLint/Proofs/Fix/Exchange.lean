import TokenLint.Proofs.Fix.Journal

/-!
# Batches that share no token

Whether a batch is accepted depends on what the ledger has made of the tokens of the batch, and
an accepted batch changes nothing but these tokens. Two batches without a common token therefore
answer and act alike in either order, after any history and before any other batches; and batches
of which no two share a token are all accepted, and lead to one source in every order.
-/

namespace TokenLint

/-- Edits that are handed to a ledger together, and the report that they are offered for: the edits
of a changeset, or an edit of its own. -/
inductive EditBatch where
  | changeset (offer : Option Offer) (edits : List Edit)
  | single (offer : Option Offer) (edit : Edit)

/-- The call that makes an edit. -/
def Edit.call (edit : Edit) : LedgerCall := .edit edit.place edit.index edit.text

namespace EditBatch

/-- The edits of a batch, in order. -/
def edits : EditBatch → List Edit
  | changeset _ edits => edits
  | single _ edit => [edit]

/-- The edits of tokens of a stream of some size. The others are refused one by one. -/
def inside (batch : EditBatch) (size : Nat) : List Edit :=
  batch.edits.filter fun edit => edit.index < size

/-- Whether two batches share no token of a stream of some size. -/
def Apart (size : Nat) (first second : EditBatch) : Prop :=
  ∀ edit ∈ first.inside size, ∀ other ∈ second.inside size, edit.index ≠ other.index

instance (size : Nat) : DecidableRel (Apart size) := fun first second =>
  inferInstanceAs (Decidable (∀ edit ∈ first.inside size, ∀ other ∈ second.inside size,
    edit.index ≠ other.index))

/-- The calls before the one that commits the batch. -/
def opening : EditBatch → List LedgerCall
  | changeset offer edits => (offer.map LedgerCall.offer).toList ++ .begin :: edits.map Edit.call
  | single offer _ => (offer.map LedgerCall.offer).toList

/-- The call that commits the batch. -/
def closing : EditBatch → LedgerCall
  | changeset .. => .finish
  | single _ edit => edit.call

/-- What the committing call answers on a ledger of some size. -/
def answer (size : Nat) (accepted : Bool) : EditBatch → LedgerAnswer
  | changeset .. => .ok (some accepted)
  | single _ edit =>
    if edit.index < size then .ok (some accepted) else .error (.outOfRange edit.index size)

theorem Apart.symm {size : Nat} {first second : EditBatch} (apart : Apart size first second) :
    Apart size second first :=
  fun edit member other among => (apart other among edit member).symm

end EditBatch

namespace Ledger

/-- Hands a batch to a ledger; the answer is that of the call that commits it. -/
def submit (ledger : Ledger) (batch : EditBatch) : Ledger × LedgerAnswer :=
  (ledger.after batch.opening).call batch.closing

/-- Hands batches to a ledger one after the other. -/
def submitAll (ledger : Ledger) : List EditBatch → Ledger × List LedgerAnswer
  | [] => (ledger, [])
  | batch :: rest =>
    let (submitted, answer) := ledger.submit batch
    let (last, answers) := submitted.submitAll rest
    (last, answer :: answers)

/-- What decides about later batches: the patches, and how many commits they come from. -/
def written (ledger : Ledger) : Array (Option Patch) × Nat := (ledger.patches, ledger.commitCount)

section Commit

variable {ledger other : Ledger} {edits first second : List Edit}

theorem clashing_congr (same : other.written = ledger.written) (edits : List Edit) :
    other.clashing edits = ledger.clashing edits := by
  have patches_eq : other.patches = ledger.patches := congrArg Prod.fst same
  simp only [clashing, size, isTouched, patch?, patches_eq]

theorem accepted_commit (ledger : Ledger) (edits : List Edit) (offer : Option Offer) :
    (ledger.commit edits offer).accepted = (ledger.clashing edits).isEmpty := by
  by_cases clear : ledger.clashing edits = []
  · by_cases nothing : edits = []
    · subst nothing
      rw [clear]
      rfl
    · rw [ledger.commit_of_clear offer nothing clear, clear]
      rfl
  · rw [ledger.commit_of_clash offer clear]
    simpa using clear

/-- What a commit writes depends on what was written before it. -/
theorem written_commit_congr (same : other.written = ledger.written) (edits : List Edit)
    (offer otherOffer : Option Offer) :
    (other.commit edits otherOffer).ledger.written =
      (ledger.commit edits offer).ledger.written := by
  by_cases nothing : edits = []
  · subst nothing
    exact same
  by_cases clear : ledger.clashing edits = []
  · rw [ledger.commit_of_clear offer nothing clear,
      other.commit_of_clear otherOffer nothing ((clashing_congr same edits).trans clear)]
    simp only [written, Prod.mk.injEq] at same ⊢
    rw [same.1, same.2]
    exact ⟨rfl, rfl⟩
  · rw [ledger.commit_of_clash offer clear,
      other.commit_of_clash otherOffer (by rwa [clashing_congr same edits])]
    exact same

theorem patch?_commit (ledger : Ledger) (edits : List Edit) (offer : Option Offer) {index : Nat}
    (here : index < ledger.size) :
    (ledger.commit edits offer).ledger.patch? index =
      if ledger.clashing edits = [] then (editsAt edits index).foldl enter (ledger.patch? index)
      else ledger.patch? index := by
  split
  · rename_i clear
    exact patch?_commit_of_clear offer here clear
  · rename_i clash
    exact patch?_commit_of_clash offer index clash

/-- A batch leaves the tokens that it does not concern as they are. -/
theorem patch?_commit_of_unconcerned (ledger : Ledger) (offer : Option Offer) {index : Nat}
    (here : index < ledger.size) (unconcerned : editsAt edits index = []) :
    (ledger.commit edits offer).ledger.patch? index = ledger.patch? index := by
  rw [ledger.patch?_commit edits offer here, unconcerned]
  simp

theorem editsAt_eq_nil_of_apart {edit : Edit}
    (apart : ∀ edit ∈ first, ∀ other ∈ second, edit.index ≠ other.index) (among : edit ∈ second) :
    editsAt first edit.index = [] := by
  apply List.filter_eq_nil_iff.mpr
  intro other member
  simpa using apart other member edit among

theorem clashing_commit_of_apart (ledger : Ledger)
    (apart : ∀ edit ∈ first, ∀ other ∈ second, edit.index ≠ other.index) (offer : Option Offer) :
    (ledger.commit first offer).ledger.clashing second = ledger.clashing second := by
  simp only [clashing, size_commit]
  apply List.filter_congr
  intro index inRange
  have here : index < ledger.size := List.mem_range.mp inRange
  by_cases concerned : Edit.touches index second = true
  · rcases List.any_eq_true.mp concerned with ⟨edit, among, same⟩
    have unconcerned := editsAt_eq_nil_of_apart apart among
    rw [of_decide_eq_true same] at unconcerned
    rw [isTouched, isTouched, ledger.patch?_commit_of_unconcerned offer here unconcerned]
  · have untouching : (second.any fun edit => decide (edit.index = index)) = false :=
      Bool.eq_false_iff.mpr concerned
    rw [untouching, Bool.and_false, Bool.and_false]

/-- After two batches without a common token, each token is as the batch that concerns it alone
leaves it. -/
theorem patch?_commit_commit_of_apart (ledger : Ledger)
    (apart : ∀ edit ∈ first, ∀ other ∈ second, edit.index ≠ other.index)
    (offer otherOffer : Option Offer) {index : Nat} (here : index < ledger.size) :
    ((ledger.commit first offer).ledger.commit second otherOffer).ledger.patch? index =
      if editsAt second index = [] then (ledger.commit first offer).ledger.patch? index
      else (ledger.commit second otherOffer).ledger.patch? index := by
  have here_first : index < (ledger.commit first offer).ledger.size := by simpa using here
  split
  · rename_i unconcerned
    exact patch?_commit_of_unconcerned _ otherOffer here_first unconcerned
  · rename_i concerned
    -- The second batch finds this token as it was, since the first does not concern it.
    rcases List.any_eq_true.mp (Edit.editsAt_ne_nil_iff.mp concerned) with ⟨edit, among, same⟩
    have unconcerned := editsAt_eq_nil_of_apart apart among
    rw [of_decide_eq_true same] at unconcerned
    rw [patch?_commit _ second otherOffer here_first, ledger.patch?_commit second otherOffer here,
      ledger.clashing_commit_of_apart apart, ledger.patch?_commit_of_unconcerned offer here
        unconcerned]

theorem commitCount_commit (ledger : Ledger) (edits : List Edit) (offer : Option Offer) :
    (ledger.commit edits offer).ledger.commitCount = ledger.commitCount +
      if edits ≠ [] ∧ ledger.clashing edits = [] then 1 else 0 := by
  by_cases nothing : edits = []
  · subst nothing
    simp
  by_cases clear : ledger.clashing edits = []
  · rw [ledger.commit_of_clear offer nothing clear, if_pos ⟨nothing, clear⟩]
  · rw [ledger.commit_of_clash offer clear, if_neg fun both => clear both.2]
    rfl

theorem patches_eq_of_patch?_eq (size_eq : other.size = ledger.size)
    (patch_eq : ∀ index < ledger.size, other.patch? index = ledger.patch? index) :
    other.patches = ledger.patches := by
  apply Array.ext size_eq
  intro index here inside
  have same := patch_eq index inside
  simpa [patch?, Array.getD_eq_getD_getElem?, here, inside] using same

/-- Batches without a common token write the same in either order. -/
theorem written_commit_comm (ledger : Ledger)
    (apart : ∀ edit ∈ first, ∀ other ∈ second, edit.index ≠ other.index)
    (offer otherOffer : Option Offer) :
    ((ledger.commit first offer).ledger.commit second otherOffer).ledger.written =
      ((ledger.commit second otherOffer).ledger.commit first offer).ledger.written := by
  have apart_symm : ∀ edit ∈ second, ∀ other ∈ first, edit.index ≠ other.index :=
    fun edit member other among => (apart other among edit member).symm
  refine Prod.ext (patches_eq_of_patch?_eq (by simp) ?_) ?_
  · intro index inRange
    have here : index < ledger.size := by simpa using inRange
    rw [ledger.patch?_commit_commit_of_apart apart offer otherOffer here,
      ledger.patch?_commit_commit_of_apart apart_symm otherOffer offer here]
    by_cases unconcerned : editsAt second index = []
    · rw [if_pos unconcerned]
      split
      · rename_i neither
        rw [ledger.patch?_commit_of_unconcerned offer here neither,
          ledger.patch?_commit_of_unconcerned otherOffer here unconcerned]
      · rfl
    · rcases List.any_eq_true.mp (Edit.editsAt_ne_nil_iff.mp unconcerned) with ⟨edit, among, same⟩
      have other_unconcerned := editsAt_eq_nil_of_apart apart among
      rw [of_decide_eq_true same] at other_unconcerned
      rw [if_neg unconcerned, if_pos other_unconcerned]
  · simp only [written, commitCount_commit, ledger.clashing_commit_of_apart apart,
      ledger.clashing_commit_of_apart apart_symm]
    omega

end Commit

section Submit

variable {ledger other : Ledger}

/-- Edits in an open changeset are staged, and those outside the stream are refused. -/
theorem after_edits (edits : List Edit) {staged : List Edit}
    (opened : ledger.staged = some staged) :
    ledger.after (edits.map Edit.call) = { ledger with
      staged := some (staged ++ edits.filter fun edit => edit.index < ledger.size) } := by
  induction edits generalizing ledger staged with
  | nil => simp [after, ← opened]
  | cons edit rest ih =>
      rw [List.map_cons, after, List.foldl_cons, ← after]
      by_cases inRange : edit.index < ledger.size
      · have called : (ledger.call edit.call).1 =
            { ledger with staged := some (staged ++ [edit]) } := by
          simp [call, Edit.call, Ledger.edit, inRange, opened]
        rw [called, ih rfl, List.filter_cons_of_pos (by simpa using inRange), List.append_assoc]
        rfl
      · have called : (ledger.call edit.call).1 = ledger := by
          simp [call, Edit.call, Ledger.edit, inRange]
        rw [called, ih opened]
        simp [inRange]

theorem after_append (ledger : Ledger) (first second : List LedgerCall) :
    ledger.after (first ++ second) = (ledger.after first).after second :=
  List.foldl_append

theorem after_offer (ledger : Ledger) (offer : Option Offer) :
    ledger.after (offer.map LedgerCall.offer).toList =
      { ledger with offered := offer.or ledger.offered } := by
  cases offer <;> rfl

/-- Outside a changeset, an edit inside the stream is committed on its own. -/
theorem call_edit_of_closed (closed : ledger.staged = none) (edit : Edit) :
    ledger.call edit.call =
      if edit.index < ledger.size then
        ((ledger.commit [edit] ledger.offered).ledger,
          .ok (some (ledger.commit [edit] ledger.offered).accepted))
      else (ledger, .error (.outOfRange edit.index ledger.size)) := by
  by_cases inRange : edit.index < ledger.size
  · simp [call, Edit.call, Ledger.edit, inRange, closed]
  · simp [call, Edit.call, Ledger.edit, inRange]

theorem conflicts_commit_of_clear {edits : List Edit} (offer : Option Offer)
    (clear : ledger.clashing edits = []) :
    (ledger.commit edits offer).ledger.conflicts = ledger.conflicts := by
  by_cases nothing : edits = []
  · subst nothing
    rfl
  · rw [ledger.commit_of_clear offer nothing clear]

theorem size_eq_of_written_eq (same : other.written = ledger.written) :
    other.size = ledger.size :=
  congrArg (fun written => written.1.size) same

/-- A batch is handed in by committing those of its edits that lie in the stream. -/
theorem submit_eq (closed : ledger.staged = none) (batch : EditBatch) :
    ∃ (ready : Ledger) (bound : Option Offer), ready.written = ledger.written ∧
      ready.conflicts = ledger.conflicts ∧ ready.staged = none ∧
      ledger.submit batch = ((ready.commit (batch.inside ledger.size) bound).ledger,
        batch.answer ledger.size (ready.commit (batch.inside ledger.size) bound).accepted) := by
  cases batch with
  | changeset offer edits =>
      let bound := offer.or ledger.offered
      let opened : Ledger := { ledger with staged := some [], bound, offered := none }
      have begun : ledger.after ((offer.map LedgerCall.offer).toList ++ [.begin]) = opened := by
        rw [after_append, after_offer]
        simp [after, call, begin, inChangeset, closed, opened, bound]
      have opened_staged : opened.staged = some [] := rfl
      have staged : ledger.after (EditBatch.changeset offer edits).opening = { opened with
          staged := some ((EditBatch.changeset offer edits).inside ledger.size) } := by
        rw [EditBatch.opening, List.append_cons, after_append, begun,
          after_edits edits opened_staged]
        rfl
      refine ⟨{ opened with staged := none, bound := none }, bound, rfl, rfl, rfl, ?_⟩
      rw [submit, staged]
      rfl
  | single offer edit =>
      let ready : Ledger := { ledger with offered := offer.or ledger.offered }
      have ready_staged : ready.staged = none := closed
      have ready_size : ready.size = ledger.size := rfl
      refine ⟨ready, ready.offered, rfl, rfl, closed, ?_⟩
      rw [submit, EditBatch.opening, after_offer, EditBatch.closing,
        call_edit_of_closed ready_staged, ready_size]
      by_cases inRange : edit.index < ledger.size
      · simp [EditBatch.answer, EditBatch.inside, EditBatch.edits, inRange]
      · simp [EditBatch.answer, EditBatch.inside, EditBatch.edits, inRange]

variable {first second batch : EditBatch}

theorem staged_submit (closed : ledger.staged = none) (batch : EditBatch) :
    (ledger.submit batch).1.staged = none := by
  rcases submit_eq closed batch with ⟨ready, bound, -, -, ready_closed, submitted⟩
  rw [submitted, staged_commit]
  exact ready_closed

theorem written_submit (closed : ledger.staged = none) (batch : EditBatch) :
    (ledger.submit batch).1.written =
      (ledger.commit (batch.inside ledger.size) none).ledger.written := by
  rcases submit_eq closed batch with ⟨ready, bound, same, -, -, submitted⟩
  rw [submitted]
  exact written_commit_congr same (batch.inside ledger.size) none bound

theorem size_submit (closed : ledger.staged = none) (batch : EditBatch) :
    (ledger.submit batch).1.size = ledger.size := by
  rw [size_eq_of_written_eq (written_submit closed batch), size_commit]

theorem answer_submit (closed : ledger.staged = none) (batch : EditBatch) :
    (ledger.submit batch).2 =
      batch.answer ledger.size (ledger.clashing (batch.inside ledger.size)).isEmpty := by
  rcases submit_eq closed batch with ⟨ready, bound, same, -, -, submitted⟩
  rw [submitted, accepted_commit, clashing_congr same]

theorem conflicts_submit_of_clear (closed : ledger.staged = none)
    (clear : ledger.clashing (batch.inside ledger.size) = []) :
    (ledger.submit batch).1.conflicts = ledger.conflicts := by
  rcases submit_eq closed batch with ⟨ready, bound, same, same_conflicts, -, submitted⟩
  rw [submitted, ← same_conflicts]
  exact conflicts_commit_of_clear bound (by rwa [clashing_congr same])

/-- What is written decides about the answer to a batch and about what it writes. -/
theorem submit_congr (closed : ledger.staged = none) (other_closed : other.staged = none)
    (same : other.written = ledger.written) (batch : EditBatch) :
    (other.submit batch).2 = (ledger.submit batch).2 ∧
      (other.submit batch).1.written = (ledger.submit batch).1.written := by
  rw [answer_submit closed, answer_submit other_closed, written_submit closed,
    written_submit other_closed, size_eq_of_written_eq same, clashing_congr same]
  exact ⟨rfl, written_commit_congr same _ none none⟩

theorem clashing_submit_of_apart (closed : ledger.staged = none)
    (apart : EditBatch.Apart ledger.size first second) :
    (ledger.submit first).1.clashing (second.inside ledger.size) =
      ledger.clashing (second.inside ledger.size) := by
  rw [clashing_congr (written_submit closed first), ledger.clashing_commit_of_apart apart]

/-- Two batches that share no token answer and write the same in either order. -/
theorem submit_submit_of_apart (closed : ledger.staged = none)
    (apart : EditBatch.Apart ledger.size first second) :
    ((ledger.submit first).1.submit second).2 = (ledger.submit second).2 ∧
      ((ledger.submit first).1.submit second).1.written =
        ((ledger.submit second).1.submit first).1.written := by
  have first_closed := staged_submit closed first
  have second_closed := staged_submit closed second
  constructor
  · rw [answer_submit first_closed, answer_submit closed, size_submit closed,
      clashing_submit_of_apart closed apart]
  · rw [written_submit first_closed, written_submit second_closed, size_submit closed,
      size_submit closed, written_commit_congr (written_submit closed first) _ none none,
      written_commit_congr (written_submit closed second) _ none none]
    exact ledger.written_commit_comm apart none none

end Submit

section SubmitAll

variable {ledger other : Ledger} {batches others : List EditBatch}

theorem staged_submitAll (closed : ledger.staged = none) (batches : List EditBatch) :
    (ledger.submitAll batches).1.staged = none := by
  induction batches generalizing ledger with
  | nil => exact closed
  | cons batch rest ih => exact ih (staged_submit closed batch)

theorem size_submitAll (closed : ledger.staged = none) (batches : List EditBatch) :
    (ledger.submitAll batches).1.size = ledger.size := by
  induction batches generalizing ledger with
  | nil => rfl
  | cons batch rest ih => exact (ih (staged_submit closed batch)).trans (size_submit closed batch)

theorem length_answers_submitAll (ledger : Ledger) (batches : List EditBatch) :
    (ledger.submitAll batches).2.length = batches.length := by
  induction batches generalizing ledger with
  | nil => rfl
  | cons batch rest ih => exact congrArg (· + 1) (ih (ledger.submit batch).1)

theorem submitAll_append (ledger : Ledger) (batches others : List EditBatch) :
    ledger.submitAll (batches ++ others) =
      (((ledger.submitAll batches).1.submitAll others).1,
        (ledger.submitAll batches).2 ++ ((ledger.submitAll batches).1.submitAll others).2) := by
  induction batches generalizing ledger with
  | nil => rfl
  | cons batch rest ih =>
      simp only [List.cons_append, submitAll]
      rw [ih]

theorem submitAll_congr (closed : ledger.staged = none) (other_closed : other.staged = none)
    (same : other.written = ledger.written) (batches : List EditBatch) :
    (other.submitAll batches).2 = (ledger.submitAll batches).2 ∧
      (other.submitAll batches).1.written = (ledger.submitAll batches).1.written := by
  induction batches generalizing ledger other with
  | nil => exact ⟨rfl, same⟩
  | cons batch rest ih =>
      rcases submit_congr closed other_closed same batch with ⟨same_answer, same_written⟩
      rcases ih (staged_submit closed batch) (staged_submit other_closed batch) same_written with
        ⟨same_answers, same_last⟩
      refine ⟨?_, same_last⟩
      simp only [submitAll, same_answer, same_answers]

/-- Neighbouring batches that share no token may be exchanged. -/
theorem submitAll_exchange (closed : ledger.staged = none) {first second : EditBatch}
    (apart : EditBatch.Apart ledger.size first second) (after : List EditBatch) :
    ∃ firstAnswer secondAnswer late,
      (ledger.submitAll (first :: second :: after)).2 = firstAnswer :: secondAnswer :: late ∧
        (ledger.submitAll (second :: first :: after)).2 = secondAnswer :: firstAnswer :: late ∧
        (ledger.submitAll (second :: first :: after)).1.written =
          (ledger.submitAll (first :: second :: after)).1.written := by
  have first_closed := staged_submit closed first
  have second_closed := staged_submit closed second
  rcases submit_submit_of_apart closed apart with ⟨second_answer, same_written⟩
  have first_answer := (submit_submit_of_apart closed apart.symm).1
  rcases submitAll_congr (staged_submit first_closed second) (staged_submit second_closed first)
    same_written.symm after with ⟨same_late, same_last⟩
  refine ⟨(ledger.submit first).2, (ledger.submit second).2,
    (((ledger.submit first).1.submit second).1.submitAll after).2, ?_, ?_, same_last⟩
  · simp only [submitAll, second_answer]
  · simp only [submitAll, first_answer, same_late]

/-- Batches of which no two share a token write the same in every order. -/
theorem written_submitAll_of_perm (closed : ledger.staged = none)
    (apart : batches.Pairwise (EditBatch.Apart ledger.size)) (reordered : batches.Perm others) :
    (ledger.submitAll others).1.written = (ledger.submitAll batches).1.written := by
  induction reordered generalizing ledger with
  | nil => rfl
  | cons batch _ ih =>
      have rest_apart := (List.pairwise_cons.mp apart).2
      rw [← size_submit closed batch] at rest_apart
      exact ih (staged_submit closed batch) rest_apart
  | swap second first after =>
      have neighbours : EditBatch.Apart ledger.size first second :=
        (List.pairwise_cons.mp apart).1 second List.mem_cons_self
      rcases submitAll_exchange closed neighbours after with ⟨_, _, _, -, -, same⟩
      exact same
  | trans reordered _ ih other_ih =>
      have others_apart := (reordered.pairwise_iff EditBatch.Apart.symm).mp apart
      exact (other_ih closed others_apart).trans (ih closed apart)

/-- Batches of which no two share a token are all accepted where each of them alone would be. -/
theorem submitAll_of_clear (closed : ledger.staged = none)
    (apart : batches.Pairwise (EditBatch.Apart ledger.size))
    (clear : ∀ batch ∈ batches, ledger.clashing (batch.inside ledger.size) = []) :
    (ledger.submitAll batches).1.conflicts = ledger.conflicts ∧
      (ledger.submitAll batches).2 = batches.map (EditBatch.answer ledger.size true) := by
  induction batches generalizing ledger with
  | nil => exact ⟨rfl, rfl⟩
  | cons batch rest ih =>
      rcases List.pairwise_cons.mp apart with ⟨batch_apart, rest_apart⟩
      have batch_clear := clear batch List.mem_cons_self
      have next_size := size_submit closed batch
      have next_clear : ∀ next ∈ rest,
          (ledger.submit batch).1.clashing (next.inside (ledger.submit batch).1.size) = [] := by
        intro next member
        rw [next_size, clashing_submit_of_apart closed (batch_apart next member)]
        exact clear next (List.mem_cons_of_mem _ member)
      rcases ih (staged_submit closed batch) (by rwa [next_size]) next_clear with
        ⟨same_conflicts, answers⟩
      constructor
      · exact same_conflicts.trans (conflicts_submit_of_clear closed batch_clear)
      · rw [next_size] at answers
        simp only [submitAll, answers, answer_submit closed, batch_clear]
        rfl

theorem contents_congr (same : other.written = ledger.written) (stream : TokenStream) :
    other.contents stream = ledger.contents stream := by
  have patches_eq : other.patches = ledger.patches := congrArg Prod.fst same
  have texts_eq : other.tokenText = ledger.tokenText := by
    funext token
    simp only [tokenText, patch?, patches_eq]
  rw [contents, contents, texts_eq]

end SubmitAll

/-- Exchanging two neighbouring batches that share no token changes neither the answers, nor how
many batches are committed, nor the contents. Batches of which no two share a token are all
accepted, and have the same contents in every order. -/
theorem submitAll_of_apart (lexemes : List Lexeme) :
    let stream : TokenStream := .ofLexemes lexemes
    let ledger := Ledger.empty stream.size
    (∀ before first second after, EditBatch.Apart stream.size first second →
      let kept := ledger.submitAll (before ++ first :: second :: after)
      let exchanged := ledger.submitAll (before ++ second :: first :: after)
      exchanged.1.contents stream = kept.1.contents stream ∧
        exchanged.1.commitCount = kept.1.commitCount ∧
        ∃ early firstAnswer secondAnswer late, early.length = before.length ∧
          kept.2 = early ++ firstAnswer :: secondAnswer :: late ∧
          exchanged.2 = early ++ secondAnswer :: firstAnswer :: late) ∧
      ∀ batches others, batches.Pairwise (EditBatch.Apart stream.size) → batches.Perm others →
        let kept := ledger.submitAll batches
        let reordered := ledger.submitAll others
        reordered.1.contents stream = kept.1.contents stream ∧
          reordered.1.commitCount = kept.1.commitCount ∧ reordered.1.conflicts = [] ∧
          reordered.2 = others.map (EditBatch.answer stream.size true) := by
  intro stream ledger
  have closed : ledger.staged = none := rfl
  have size_eq : ledger.size = stream.size := Array.size_replicate
  constructor
  · intro before first second after apart kept exchanged
    have history_closed := staged_submitAll closed before
    have history_apart : EditBatch.Apart (ledger.submitAll before).1.size first second := by
      rwa [size_submitAll closed, size_eq]
    rcases submitAll_exchange history_closed history_apart after with
      ⟨firstAnswer, secondAnswer, late, kept_answers, exchanged_answers, same⟩
    have same_written : exchanged.1.written = kept.1.written := by
      simp only [kept, exchanged, submitAll_append]
      exact same
    refine ⟨contents_congr same_written stream, congrArg Prod.snd same_written,
      (ledger.submitAll before).2, firstAnswer, secondAnswer, late,
      ledger.length_answers_submitAll before, ?_, ?_⟩
    · simp only [kept, submitAll_append, kept_answers]
    · simp only [exchanged, submitAll_append, exchanged_answers]
  · intro batches others apart reordered kept rearranged
    have same_written := written_submitAll_of_perm closed (size_eq ▸ apart) reordered
    have others_apart := (reordered.pairwise_iff EditBatch.Apart.symm).mp apart
    have clear : ∀ batch ∈ others, ledger.clashing (batch.inside ledger.size) = [] := by
      intro batch _
      apply ledger.clashing_eq_nil_iff.mpr
      intro edit _ _
      rw [isTouched, patch?_of_patches_eq_replicate rfl]
      rfl
    rcases submitAll_of_clear closed (size_eq ▸ others_apart) clear with ⟨no_conflict, answers⟩
    refine ⟨contents_congr same_written stream, congrArg Prod.snd same_written, no_conflict, ?_⟩
    rw [← size_eq]
    exact answers

/-- A batch that is rejected for an earlier one is rejected in its new place, too. -/
theorem submitAll_of_apart_rejected :
    let stream : TokenStream := .ofLexemes assignmentLexemes
    let ledger := Ledger.empty stream.size
    let digit : EditBatch := .single none ⟨.replace, 5, "2"⟩
    let name : EditBatch := .changeset none [⟨.replace, 1, "$b"⟩, ⟨.after, 1, "c"⟩]
    let late : EditBatch := .changeset (some ⟨0, "Code"⟩) [⟨.before, 5, "3"⟩, ⟨.after, 6, " "⟩]
    EditBatch.Apart stream.size name late ∧ [name, digit].Pairwise (EditBatch.Apart stream.size) ∧
      (ledger.submitAll [digit, late, name]).1.contents stream = "<?php $bc = 2;" ∧
      (ledger.submitAll [digit, late, name]).2.map Except.toOption =
        [some (some true), some (some false), some (some true)] ∧
      (ledger.submitAll [digit, name]).1.contents stream =
        (ledger.submitAll [name, digit]).1.contents stream := by
  intro stream ledger digit name late
  have apart : EditBatch.Apart stream.size name late := by decide +kernel
  have pairwise : [name, digit].Pairwise (EditBatch.Apart stream.size) := by decide +kernel
  rcases submitAll_of_apart assignmentLexemes with ⟨exchange, reorder⟩
  have exchanged := exchange [digit] name late [] apart
  have kept : (ledger.submitAll [digit, name, late]).1.contents stream = "<?php $bc = 2;" := by
    decide +kernel
  refine ⟨apart, pairwise, exchanged.1.trans kept, by decide +kernel, ?_⟩
  exact (reorder [name, digit] [digit, name] pairwise (.swap digit name [])).1

end Ledger

end TokenLint
