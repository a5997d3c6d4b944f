import TokenLint.Proofs.Run.Batch
import TokenLint.Proofs.Run.Stored
import Mathlib.Data.Set.List

/-!
# What a run leaves in the files

Every result of a run, in turn or in a pool of workers, is stored in the file that its source was
read from, or not at all. Where the paths lead to places of their own there is only one result to
choose from for each place, and it names the source that the file held before the run. That the
paths differ is not enough for this: one of two paths to a file may find it fixed already.
-/

namespace TokenLint

namespace Batch

variable {batch : Batch} {before : Workspace} {path : Path} {result : FileResult}

theorem mem_zip_iff {paths : List Path} {results : List FileResult} {file : Path × FileResult} :
    file ∈ paths.zip results ↔
      ∃ place : Nat, paths[place]? = some file.1 ∧ results[place]? = some file.2 := by
  simp only [List.mem_iff_getElem?, List.getElem?_zip_eq_some]

theorem writer_unique {paths : List Path} {results : List FileResult} {current : List String}
    {writer file : Path × FileResult} (apart : batch.WorksApart current paths)
    (member : file ∈ paths.zip results) (among : writer ∈ paths.zip results)
    (wrote : batch.Writes current writer (file.1.resolve current)) : writer.2 = file.2 := by
  have writes : batch.write = true := by
    have written := wrote.1
    simp only [writesBack, Bool.and_eq_true] at written
    exact written.1.1
  rcases mem_zip_iff.mp member with ⟨place, listed, found⟩
  rcases mem_zip_iff.mp among with ⟨other, otherListed, otherFound⟩
  by_cases same : other = place
  · subst same
    exact Option.some.inj (otherFound.symm.trans found)
  · exact absurd wrote.2 (resolve_ne (apart writes) same otherListed listed)

/-- What a run leaves in the files. The results are those of all paths, or, where a fault ended the
run, of the first of them. Where the paths lead to places of their own, a file holds its fixed
source if the run writes and the file is done with another source than was read from it; otherwise
it holds the bytes that it held before. No other place changes; a place that several paths lead to
holds one of their results; and a file that was written back can be read as tokens. -/
structure Leaves (batch : Batch) (before after : Workspace) (paths : List Path)
    (results : List FileResult) : Prop where
  given : batch.WorksApart before.current paths → ∀ file ∈ paths.zip results,
    (file.2.state = .done → before.readText file.1 = .ok file.2.source) ∧
      after.bytesAt? (file.1.resolve before.current) =
        if batch.write = true ∧ file.2.state = .done ∧ file.2.fixedSource ≠ file.2.source then
          some (Text.encode file.2.fixedSource)
        else before.bytesAt? (file.1.resolve before.current)
  others : ∀ place, (∀ file ∈ paths.zip results, ¬batch.Writes before.current file place) →
    (after.tree.at? place).map Entry.content? = (before.tree.at? place).map Entry.content?
  shared : ∀ place, (∃ file ∈ paths.zip results, batch.Writes before.current file place) →
    ∃ file ∈ paths.zip results, batch.Writes before.current file place ∧
      after.bytesAt? place = some (Text.encode file.2.fixedSource)
  strict : ∀ file ∈ paths.zip results, batch.writesBack file.2 = true →
    ∃ text stream, after.readText file.1 = .ok text ∧ tokenize text = .ok stream

theorem Stored.leaves {after : Workspace} {paths : List Path} {results : List FileResult}
    (stored : batch.Stored before after {file | file ∈ paths.zip results})
    (read : batch.WorksApart before.current paths → ∀ file ∈ paths.zip results,
      file.2.state = .done → before.readText file.1 = .ok file.2.source) :
    batch.Leaves before after paths results := by
  constructor
  case given =>
    intro apart file member
    refine ⟨read apart file member, ?_⟩
    have bytes := stored.bytesAt?_eq member fun writer among wrote =>
      writer_unique apart member among wrote
    simpa [writesBack, FileResult.changed, and_assoc] using bytes
  case others => exact stored.kept
  case shared =>
    intro place written
    rcases stored.written place written with ⟨file, member, wrote, held⟩
    refine ⟨file, member, wrote, ?_⟩
    simp [Workspace.bytesAt?, held, Entry.content?, FileContent.ofText]
  case strict =>
    intro file member writes
    exact stored.readText member writes

end Batch

namespace Pool

variable {batch : Batch} {workspace : Workspace} {paths : List Path} {pool : Pool}

/-- The files that are finished in a pool. -/
def finishedFiles (pool : Pool) (paths : List Path) : Set (Path × FileResult) :=
  {file | ∃ place : Nat, paths[place]? = some file.1 ∧
    pool.stages[place]? = some (.finished file.2)}

/-- Whatever files are finished in between, what was read can be written over, and every place holds
what it held or a result. -/
structure Keeps (batch : Batch) (initial : Workspace) (paths : List Path) (pool : Pool) : Prop where
  length : pool.stages.length = paths.length
  stored : batch.Stored initial pool.workspace (pool.finishedFiles paths)
  opens : ∀ {place : Nat} {path : Path} {source : String}, paths[place]? = some path →
    pool.stages[place]? = some (.opened (.ok source)) →
      ∃ content, initial.openFile path = .ok content

theorem finishedFiles_set_opened {place : Nat} {text : Except ReadError String}
    (waits : pool.stages[place]? = some .waiting) :
    finishedFiles { pool with stages := pool.stages.set place (.opened text) } paths =
      pool.finishedFiles paths := by
  ext file
  refine exists_congr fun other => and_congr_right fun _ => ?_
  by_cases same : place = other
  · subst same
    rw [List.getElem?_set_self (List.getElem?_eq_some_iff.mp waits).1, waits]
    simp
  · simp [List.getElem?_set_ne same]

theorem finishedFiles_set_finished {now : Workspace} {place : Nat} {path : Path}
    {text : Except ReadError String} {result : FileResult} (listed : paths[place]? = some path)
    (held : pool.stages[place]? = some (.opened text)) :
    finishedFiles ⟨now, pool.stages.set place (.finished result)⟩ paths =
      insert (path, result) (pool.finishedFiles paths) := by
  have inside := (List.getElem?_eq_some_iff.mp held).1
  ext file
  rw [Set.mem_insert_iff]
  constructor
  · rintro ⟨other, otherListed, finished⟩
    by_cases same : place = other
    · subst same
      rw [List.getElem?_set_self inside, Option.some.injEq, Stage.finished.injEq] at finished
      left
      exact Prod.ext (Option.some.inj (otherListed.symm.trans listed)) finished.symm
    · rw [List.getElem?_set_ne same] at finished
      right
      exact ⟨other, otherListed, finished⟩
  · rintro (rfl | ⟨other, otherListed, finished⟩)
    · exact ⟨place, listed, List.getElem?_set_self inside⟩
    · refine ⟨other, otherListed, ?_⟩
      have differs : place ≠ other := by
        rintro rfl
        rw [held] at finished
        cases finished
      rwa [List.getElem?_set_ne differs]

theorem Keeps.step {next : Pool} (keeps : pool.Keeps batch workspace paths)
    (step : Step batch paths pool next) : next.Keeps batch workspace paths := by
  cases step with
  | opens listed waits free =>
      rename_i place path
      constructor
      case length => simp [keeps.length]
      case stored =>
        rw [finishedFiles_set_opened waits]
        exact keeps.stored
      case opens =>
        intro other otherPath source otherListed found
        by_cases same : place = other
        · subst same
          cases listed.symm.trans otherListed
          rw [List.getElem?_set_self (List.getElem?_eq_some_iff.mp waits).1] at found
          have read : pool.workspace.readText path = .ok source :=
            Stage.opened.inj (Option.some.inj found)
          rcases Workspace.exists_openFile_of_readText read with ⟨content, opened⟩
          exact Workspace.exists_openFile_of_sameShape opened keeps.stored.shape.symm
            keeps.stored.current.symm
        · rw [List.getElem?_set_ne same] at found
          exact keeps.opens otherListed found
  | closes listed held =>
      rename_i place path text
      constructor
      case length => simp [keeps.length]
      case stored =>
        rw [finishedFiles_set_finished listed held]
        apply keeps.stored.store
        rintro source rfl
        exact keeps.opens listed held
      case opens =>
        intro other otherPath source otherListed found
        apply keeps.opens otherListed
        by_cases same : place = other
        · subst same
          rw [List.getElem?_set_self (List.getElem?_eq_some_iff.mp held).1] at found
          cases found
        · rwa [List.getElem?_set_ne same] at found

end Pool

namespace Batch

variable {batch : Batch} {workspace initial : Workspace} {paths : List Path}

/-- A file is finished in turn, with a result or with a fault. -/
theorem Stored.lintFile {before now next : Workspace} {files : Set (Path × FileResult)}
    {path : Path} {outcome : Except FileFault FileResult}
    (stored : batch.Stored before now files) (running : batch.cancelled = false)
    (linted : batch.lintFile now path = (next, outcome)) :
    (∀ fault, outcome = .error fault → next = now) ∧
      ∀ result, outcome = .ok result → batch.Stored before next (insert (path, result) files) := by
  rw [lintFile_eq running, Prod.mk.injEq] at linted
  rcases linted with ⟨rfl, rfl⟩
  constructor
  · intro fault judged
    unfold Batch.store
    split
    · rename_i accepted
      rw [judged] at accepted
      cases accepted
    · rfl
  · intro result judged
    have opens : ∀ source, now.readText path = .ok source →
        ∃ content, before.openFile path = .ok content := by
      intro source read
      rcases Workspace.exists_openFile_of_readText read with ⟨content, opened⟩
      exact Workspace.exists_openFile_of_sameShape opened stored.shape.symm stored.current.symm
    have finished := stored.store opens
    rwa [judged] at finished

end Batch

end TokenLint
