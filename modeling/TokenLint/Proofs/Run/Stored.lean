import TokenLint.Proofs.Run.Workers
import TokenLint.Proofs.Run.Lint
import TokenLint.Proofs.Text.Utf8
import Mathlib.Data.Set.Insert

/-!
# Files in which results are stored

A file is written back only with a source that can be read as tokens, and only over the file that
its source was read from. So however many files are finished, a place in the tree holds what it
held before, unless a result was written back there; then it holds the text of such a result.
-/

namespace TokenLint

namespace Batch

variable {batch : Batch} {before now : Workspace} {path : Path} {result : FileResult}
  {files : Set (Path × FileResult)}

/-- Whether a finished file was written back at a place. -/
def Writes (batch : Batch) (current : List String) (file : Path × FileResult)
    (place : List String) : Prop :=
  batch.writesBack file.2 = true ∧ file.1.resolve current = place

/-- What holds of a workspace in which some files are finished, compared with the one before. -/
structure Stored (batch : Batch) (before now : Workspace) (files : Set (Path × FileResult)) :
    Prop where
  current : now.current = before.current
  shape : Entry.SameShape before.tree now.tree
  kept : ∀ place, (∀ file ∈ files, ¬batch.Writes before.current file place) →
    (now.tree.at? place).map Entry.content? = (before.tree.at? place).map Entry.content?
  written : ∀ place, (∃ file ∈ files, batch.Writes before.current file place) →
    ∃ file ∈ files, batch.Writes before.current file place ∧
      now.tree.at? place = some (.file (.ofText file.2.fixedSource))
  opens : ∀ file ∈ files, batch.writesBack file.2 = true →
    ∃ content, before.openFile file.1 = .ok content
  strict : ∀ file ∈ files, batch.writesBack file.2 = true →
    ∃ stream, tokenize file.2.fixedSource = .ok stream

namespace Stored

theorem start (batch : Batch) (workspace : Workspace) : batch.Stored workspace workspace ∅ where
  current := rfl
  shape := .refl _
  kept := fun _ _ => rfl
  written := by simp
  opens := by simp
  strict := by simp

/-- A file that is not written back is finished. -/
theorem skip (stored : batch.Stored before now files) (quiet : batch.writesBack result = false) :
    batch.Stored before now (insert (path, result) files) := by
  have silent : ∀ place, ¬batch.Writes before.current (path, result) place := by
    intro place writes
    exact Bool.noConfusion (quiet.symm.trans writes.1)
  constructor
  case current => exact stored.current
  case shape => exact stored.shape
  case kept =>
    intro place unwritten
    apply stored.kept
    intro file member
    exact unwritten file (Set.mem_insert_of_mem _ member)
  case written =>
    rintro place ⟨file, member, writes⟩
    rcases Set.mem_insert_iff.mp member with rfl | earlier
    · exact absurd writes (silent place)
    · rcases stored.written place ⟨file, earlier, writes⟩ with ⟨writer, among, wrote, held⟩
      exact ⟨writer, Set.mem_insert_of_mem _ among, wrote, held⟩
  case opens =>
    intro file member writes
    rcases Set.mem_insert_iff.mp member with rfl | earlier
    · simp [quiet] at writes
    · exact stored.opens file earlier writes
  case strict =>
    intro file member writes
    rcases Set.mem_insert_iff.mp member with rfl | earlier
    · simp [quiet] at writes
    · exact stored.strict file earlier writes

/-- A file is finished and written back. -/
theorem write {content : FileContent} (stored : batch.Stored before now files)
    (writes : batch.writesBack result = true) (opened : before.openFile path = .ok content)
    (read : ∃ stream, tokenize result.fixedSource = .ok stream) :
    batch.Stored before (now.writeText path result.fixedSource) (insert (path, result) files) := by
  have place_eq : path.resolve now.current = path.resolve before.current := by rw [stored.current]
  rcases Workspace.exists_openFile_of_sameShape opened stored.shape stored.current with
    ⟨present, openedNow⟩
  have same := Workspace.sameBut_writeText (Workspace.at?_of_openFile openedNow) result.fixedSource
  have inserted : (now.writeText path result.fixedSource).tree.at? (path.resolve before.current) =
      some (.file (.ofText result.fixedSource)) := by
    rw [← place_eq]
    exact Entry.at?_insert _ (Workspace.at?_of_openFile openedNow)
  have here : batch.Writes before.current (path, result) (path.resolve before.current) :=
    ⟨writes, rfl⟩
  constructor
  case current => exact stored.current
  case shape => exact stored.shape.trans same.sameShape
  case kept =>
    intro place unwritten
    have elsewhere : place ≠ path.resolve now.current := by
      rintro rfl
      apply unwritten (path, result) (Set.mem_insert _ _)
      rw [place_eq]
      exact here
    rw [← same.elsewhere place elsewhere]
    apply stored.kept
    intro file member
    exact unwritten file (Set.mem_insert_of_mem _ member)
  case written =>
    rintro place ⟨file, member, wrote⟩
    by_cases hit : place = path.resolve before.current
    · subst hit
      exact ⟨(path, result), Set.mem_insert _ _, here, inserted⟩
    · rcases Set.mem_insert_iff.mp member with rfl | earlier
      · exact absurd wrote.2.symm hit
      · rcases stored.written place ⟨file, earlier, wrote⟩ with ⟨writer, among, wrote, held⟩
        refine ⟨writer, Set.mem_insert_of_mem _ among, wrote, ?_⟩
        have elsewhere := same.elsewhere place (by rwa [place_eq])
        rw [held] at elsewhere
        exact Entry.eq_file_of_map_content? elsewhere.symm
  case opens =>
    intro file member wrote
    rcases Set.mem_insert_iff.mp member with rfl | earlier
    · exact ⟨content, opened⟩
    · exact stored.opens file earlier wrote
  case strict =>
    intro file member wrote
    rcases Set.mem_insert_iff.mp member with rfl | earlier
    · exact read
    · exact stored.strict file earlier wrote

end Stored

theorem writesBack_unusable (batch : Batch) (path message : String) :
    batch.writesBack (.unusable path message) = false := by
  simp [writesBack, FileResult.unusable, FileResult.failure, FileResult.unread]

/-- A source that was worked on to the end leaves one that can be read, and the result names it. -/
theorem judge_of_done {source : String} (judged : batch.judge path (.ok source) = .ok result)
    (done : result.state = .done) :
    result.source = source ∧ ∃ stream, tokenize result.fixedSource = .ok stream := by
  simp only [judge] at judged
  split at judged
  · cases judged
  · rename_i run finished
    cases judged
    rcases LintSettings.lint_cases finished with
      ⟨dispatcher, made, ⟨error, unreadable, rfl⟩ | ⟨stream, passes, read, ended, rfl⟩⟩
    · cases done
    · rcases (LintSettings.sound_passes read ended).last_eq with ⟨last, readLast, -⟩
      exact ⟨rfl, last, readLast⟩

theorem state_of_writesBack (writes : batch.writesBack result = true) : result.state = .done := by
  simp only [writesBack, Bool.and_eq_true, decide_eq_true_eq] at writes
  exact writes.1.2

/-- A file is finished that was read at some time. -/
theorem Stored.store {text : Except ReadError String} (stored : batch.Stored before now files)
    (opens : ∀ source, text = .ok source → ∃ content, before.openFile path = .ok content) :
    batch.Stored before (batch.store now path text)
      (insert (path, outlive path (batch.judge path text)) files) := by
  cases text with
  | error error =>
      apply stored.skip
      cases error <;> exact writesBack_unusable _ _ _
  | ok source =>
      rcases opens source rfl with ⟨content, opened⟩
      cases judged : batch.judge path (.ok source) with
      | error fault =>
          simp only [Batch.store, judged]
          exact stored.skip (writesBack_unusable _ _ _)
      | ok result =>
          simp only [Batch.store, judged, outlive]
          split
          · rename_i writes
            exact stored.write writes opened (judge_of_done judged (state_of_writesBack writes)).2
          · rename_i quiet
            exact stored.skip (Bool.eq_false_iff.mpr quiet)

namespace Stored

/-- A file that was written back can be read, and its text as tokens. -/
theorem readText {file : Path × FileResult} (stored : batch.Stored before now files)
    (member : file ∈ files) (writes : batch.writesBack file.2 = true) :
    ∃ text stream, now.readText file.1 = .ok text ∧ tokenize text = .ok stream := by
  rcases stored.opens file member writes with ⟨content, opened⟩
  rcases Workspace.exists_openFile_of_sameShape opened stored.shape stored.current with
    ⟨present, openedNow⟩
  rcases stored.written _ ⟨file, member, writes, rfl⟩ with ⟨writer, among, wrote, held⟩
  have present_eq := Workspace.at?_of_openFile openedNow
  rw [stored.current, held, Option.some.injEq, Entry.file.injEq] at present_eq
  rcases stored.strict writer among wrote.1 with ⟨stream, read⟩
  refine ⟨writer.2.fixedSource, stream, ?_, read⟩
  simp [Workspace.readText, openedNow, ← present_eq, FileContent.ofText, Text.decode_encode, bind,
    Except.bind, pure, Except.pure]

/-- The bytes of a file, where all results that its place may come from are the same. -/
theorem bytesAt?_eq (stored : batch.Stored before now files) (member : (path, result) ∈ files)
    (alone : ∀ file ∈ files, batch.Writes before.current file (path.resolve before.current) →
      file.2 = result) :
    now.bytesAt? (path.resolve before.current) =
      if batch.writesBack result then some (Text.encode result.fixedSource)
      else before.bytesAt? (path.resolve before.current) := by
  cases writes : batch.writesBack result with
  | true =>
      rcases stored.written _ ⟨(path, result), member, writes, rfl⟩ with
        ⟨writer, among, wrote, held⟩
      rw [alone writer among wrote] at held
      simp [Workspace.bytesAt?, held, Entry.content?, FileContent.ofText]
  | false =>
      have unwritten : ∀ file ∈ files,
          ¬batch.Writes before.current file (path.resolve before.current) := by
        intro file among wrote
        have same := alone file among wrote
        rw [← same, wrote.1] at writes
        cases writes
      have kept := stored.kept _ unwritten
      have joined : ∀ found : Option Entry, found.bind Entry.content? =
          (found.map Entry.content?).join := by
        intro found
        cases found <;> rfl
      rw [if_neg Bool.false_ne_true, Workspace.bytesAt?, Workspace.bytesAt?, joined, joined, kept]

end Stored

end Batch

end TokenLint
