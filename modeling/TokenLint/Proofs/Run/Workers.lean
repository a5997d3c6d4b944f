import TokenLint.Run.Batch
import TokenLint.Proofs.Workspace.Places
import Mathlib.Logic.Relation

/-!
# Workers

Files that are worked on at the same time, as steps of a pool of workers: a worker reads a file, and
later it finishes that file, while others read and finish theirs in between. As long as nothing is
written, or no two paths lead to the same place, a file is finished with the result that it has in
the workspace before the run, whichever steps come in between. Finishing files in some given order
is one run of the pool.
-/

namespace TokenLint

namespace Batch

/-- The result of a file, or the fault, once what its path leads to has been read. -/
def judge (batch : Batch) (path : Path) (text : Except ReadError String) :
    Except FileFault FileResult :=
  match text with
  | .error .nullInPath => .error (.read .nullInPath)
  | .error error => .ok (.unusable path.text ("Cannot read file: " ++ error.message))
  | .ok source =>
    match batch.settings.lint path.text source with
    | .error fault => .error (.run fault)
    | .ok run => .ok run.result

/-- The workspace once a file that has been read is finished. -/
def store (batch : Batch) (workspace : Workspace) (path : Path) (text : Except ReadError String) :
    Workspace :=
  match text, batch.judge path text with
  | .ok _, .ok result =>
    if batch.writesBack result then workspace.writeText path result.fixedSource else workspace
  | _, _ => workspace

/-- The result of a file where faults are outlived. -/
def outlive (path : Path) : Except FileFault FileResult → FileResult
  | .ok result => result
  | .error fault => .unusable path.text ("Processing failed: " ++ fault.message)

/-- The result that a path has in a workspace, whatever is done besides. -/
def resultIn (batch : Batch) (workspace : Workspace) (path : Path) : FileResult :=
  outlive path (batch.judge path (workspace.readText path))

/-- Whether a batch writes nothing, or works on paths that lead to places of their own. -/
def WorksApart (batch : Batch) (current : List String) (paths : List Path) : Prop :=
  batch.write = true → (paths.map fun path => path.resolve current).Nodup

variable {batch : Batch} {workspace : Workspace} {path other : Path}

theorem resolve_ne {current : List String} {paths : List Path} {left right : Nat}
    (distinct : (paths.map fun path => path.resolve current).Nodup) (differ : left ≠ right)
    (leftListed : paths[left]? = some path) (rightListed : paths[right]? = some other) :
    path.resolve current ≠ other.resolve current := by
  intro same
  rcases List.getElem?_eq_some_iff.mp leftListed with ⟨inside, -⟩
  refine differ ((List.getElem?_inj (by simpa using inside) distinct).mp ?_)
  rw [List.getElem?_map, List.getElem?_map, leftListed, rightListed]
  exact congrArg some same

theorem lintFile_eq (running : batch.cancelled = false) :
    batch.lintFile workspace path =
      (batch.store workspace path (workspace.readText path),
        batch.judge path (workspace.readText path)) := by
  simp only [lintFile, running, Bool.false_eq_true, if_false]
  cases read : workspace.readText path with
  | error error => cases error <;> rfl
  | ok source =>
      simp only [store, judge]
      cases batch.settings.lint path.text source <;> rfl

theorem lintApart_eq (running : batch.cancelled = false) :
    batch.lintApart workspace path =
      (batch.store workspace path (workspace.readText path), batch.resultIn workspace path) := by
  rw [lintApart, lintFile_eq running]
  simp only [resultIn]
  cases batch.judge path (workspace.readText path) <;> rfl

theorem current_store (text : Except ReadError String) :
    (batch.store workspace path text).current = workspace.current := by
  unfold store
  split
  · split <;> rfl
  · rfl

/-- Finishing a file leaves what is read elsewhere. -/
theorem readText_store {text : Except ReadError String} (read : workspace.readText path = text)
    (apart : batch.write = true →
      other.resolve workspace.current ≠ path.resolve workspace.current) :
    (batch.store workspace path text).readText other = workspace.readText other := by
  unfold store
  split
  · rename_i source result judged
    split
    · rename_i writes
      have written : batch.write = true := by
        simp only [writesBack, Bool.and_eq_true] at writes
        exact writes.1.1
      exact Workspace.readText_writeText read (apart written) result.fixedSource
    · rfl
  · rfl

end Batch

/-- How far the work on a file has come. -/
inductive Stage where
  | waiting
  | opened (text : Except ReadError String)
  | finished (result : FileResult)

namespace Stage

/-- Whether a file has been read and is not finished. -/
def isOpened : Stage → Bool
  | opened _ => true
  | _ => false

/-- The steps that are left for a file. -/
def left : Stage → Nat
  | waiting => 2
  | opened _ => 1
  | finished _ => 0

/-- Whether a stage is one that a path comes to from some workspace, where `workspace` holds what
has become of it. -/
def Fits (batch : Batch) (initial workspace : Workspace) (path : Path) : Stage → Prop
  | waiting => workspace.readText path = initial.readText path
  | opened text =>
    workspace.readText path = initial.readText path ∧ text = initial.readText path
  | finished result => result = batch.resultIn initial path

end Stage

/-- Files that are worked on at the same time: the workspace, and how far each file has come. -/
structure Pool where
  workspace : Workspace
  stages : List Stage

namespace Pool

/-- The pool before any file is read. -/
def start (workspace : Workspace) (paths : List Path) : Pool :=
  ⟨workspace, paths.map fun _ => .waiting⟩

/-- One step of a pool: a worker that is free reads a file, or one finishes the file that it has
read. -/
inductive Step (batch : Batch) (paths : List Path) : Pool → Pool → Prop where
  | opens {pool : Pool} {place : Nat} {path : Path} (listed : paths[place]? = some path)
      (waits : pool.stages[place]? = some .waiting)
      (free : pool.stages.countP Stage.isOpened < batch.workers) :
      Step batch paths pool
        { pool with stages := pool.stages.set place (.opened (pool.workspace.readText path)) }
  | closes {pool : Pool} {place : Nat} {path : Path} {text : Except ReadError String}
      (listed : paths[place]? = some path) (held : pool.stages[place]? = some (.opened text)) :
      Step batch paths pool
        ⟨batch.store pool.workspace path text,
          pool.stages.set place (.finished (Batch.outlive path (batch.judge path text)))⟩

/-- Any number of steps of a pool. -/
def Reaches (batch : Batch) (paths : List Path) : Pool → Pool → Prop :=
  Relation.ReflTransGen (Step batch paths)

/-- Whether all files of a pool are finished. -/
def Finished (pool : Pool) : Prop := ∀ stage ∈ pool.stages, ∃ result, stage = .finished result

/-- What holds of a pool throughout its work. -/
structure Sound (batch : Batch) (initial : Workspace) (paths : List Path) (pool : Pool) : Prop where
  current : pool.workspace.current = initial.current
  length : pool.stages.length = paths.length
  fits : ∀ {place : Nat} {path : Path} {stage : Stage}, paths[place]? = some path →
    pool.stages[place]? = some stage → stage.Fits batch initial pool.workspace path

variable {batch : Batch} {initial workspace : Workspace} {paths : List Path} {pool next : Pool}

@[simp] theorem workspace_start : (start workspace paths).workspace = workspace := rfl

@[simp] theorem stages_start : (start workspace paths).stages = paths.map fun _ => .waiting := rfl

theorem sound_start : (start workspace paths).Sound batch workspace paths where
  current := rfl
  length := by simp
  fits := by
    intro place path stage listed found
    simp only [stages_start, List.getElem?_map, listed, Option.map_some, Option.some.injEq] at found
    subst found
    rfl

theorem Sound.step (apart : batch.WorksApart initial.current paths)
    (sound : pool.Sound batch initial paths) (step : Step batch paths pool next) :
    next.Sound batch initial paths := by
  cases step with
  | opens listed waits free =>
      rename_i place path
      refine ⟨sound.current, by simp [sound.length], ?_⟩
      intro other otherPath stage otherListed found
      rw [List.getElem?_set] at found
      split at found
      · rename_i same
        subst same
        split at found
        · cases found
          cases listed.symm.trans otherListed
          exact ⟨sound.fits listed waits, sound.fits listed waits⟩
        · cases found
      · exact sound.fits otherListed found
  | closes listed held =>
      rename_i place path text
      rcases sound.fits listed held with ⟨kept, rfl⟩
      refine ⟨(Batch.current_store _).trans sound.current, by simp [sound.length], ?_⟩
      intro other otherPath stage otherListed found
      rw [List.getElem?_set] at found
      split at found
      · rename_i same
        subst same
        split at found
        · cases found
          cases listed.symm.trans otherListed
          rfl
        · cases found
      · rename_i differs
        have elsewhere :
            (batch.store pool.workspace path (initial.readText path)).readText otherPath =
              pool.workspace.readText otherPath := by
          refine Batch.readText_store kept fun writes => ?_
          rw [sound.current]
          exact Batch.resolve_ne (apart writes) (Ne.symm differs) otherListed listed
        -- A file that is not finished must still read as before the run, or the worker that
        -- writes it back later would write over something else.
        have fits := sound.fits otherListed found
        cases stage with
        | waiting => exact elsewhere.trans fits
        | opened otherText => exact ⟨elsewhere.trans fits.1, fits.2⟩
        | finished result => exact fits

theorem Sound.reaches (apart : batch.WorksApart initial.current paths)
    (sound : pool.Sound batch initial paths) (reaches : Reaches batch paths pool next) :
    next.Sound batch initial paths := by
  induction reaches with
  | refl => exact sound
  | tail _ step ih => exact ih.step apart step

/-- A finished pool has the result of every path in the workspace before the run. -/
theorem Sound.stages_eq (sound : pool.Sound batch initial paths) (finished : pool.Finished) :
    pool.stages = paths.map fun path => .finished (batch.resultIn initial path) := by
  refine List.ext_getElem? fun place => ?_
  rw [List.getElem?_map]
  cases listed : paths[place]? with
  | none =>
      rw [List.getElem?_eq_none_iff] at listed
      simpa [sound.length] using listed
  | some path =>
      have inside : place < pool.stages.length := by
        rw [sound.length]
        exact (List.getElem?_eq_some_iff.mp listed).1
      have found := List.getElem?_eq_getElem inside
      rcases finished _ (List.getElem_mem inside) with ⟨result, isFinished⟩
      rw [found, isFinished]
      rw [isFinished] at found
      exact congrArg (fun made => some (Stage.finished made)) (sound.fits listed found)

/-- The steps that are left for some files. -/
def leftFor (stages : List Stage) : Nat := stages.foldr (fun stage others => stage.left + others) 0

/-- The steps that are left for all files. -/
def left (pool : Pool) : Nat := leftFor pool.stages

theorem leftFor_set {stages : List Stage} {place : Nat} {stage : Stage}
    (found : stages[place]? = some stage) (later : Stage) :
    leftFor (stages.set place later) + stage.left = leftFor stages + later.left := by
  induction stages generalizing place with
  | nil => cases found
  | cons first rest ih =>
      cases place with
      | zero =>
          cases found
          simp only [List.set_cons_zero, leftFor, List.foldr_cons]
          omega
      | succ place =>
          rw [List.getElem?_cons_succ] at found
          have kept := ih found
          simp only [List.set_cons_succ, leftFor, List.foldr_cons] at kept ⊢
          omega

theorem Step.left_lt (step : Step batch paths pool next) : next.left < pool.left := by
  cases step with
  | opens listed waits free =>
      rename_i place path
      have moved := leftFor_set waits (.opened (pool.workspace.readText path))
      simp only [left, Stage.left] at moved ⊢
      omega
  | closes listed held =>
      rename_i place path text
      have moved := leftFor_set held (.finished (Batch.outlive path (batch.judge path text)))
      simp only [left, Stage.left] at moved ⊢
      omega

/-- A pool with a worker has a next step until all files are finished. -/
theorem Sound.exists_step (sound : pool.Sound batch initial paths) (works : 1 ≤ batch.workers)
    (unfinished : ¬pool.Finished) : ∃ next, Step batch paths pool next := by
  have listed : ∀ {place : Nat} {stage : Stage}, pool.stages[place]? = some stage →
      ∃ path, paths[place]? = some path := by
    intro place stage found
    have inside := (List.getElem?_eq_some_iff.mp found).1
    rw [sound.length] at inside
    exact ⟨paths[place], List.getElem?_eq_getElem inside⟩
  by_cases busy : ∃ stage ∈ pool.stages, stage.isOpened = true
  · rcases busy with ⟨stage, member, isOpened⟩
    rcases List.getElem?_of_mem member with ⟨place, found⟩
    rcases listed found with ⟨path, atPlace⟩
    cases stage with
    | opened text => exact ⟨_, .closes atPlace found⟩
    | _ => cases isOpened
  · simp only [Finished, not_forall] at unfinished
    rcases unfinished with ⟨stage, member, unfinished⟩
    rcases List.getElem?_of_mem member with ⟨place, found⟩
    rcases listed found with ⟨path, atPlace⟩
    have idle : pool.stages.countP Stage.isOpened = 0 :=
      List.countP_eq_zero.mpr fun other otherMember isOpened => busy ⟨other, otherMember, isOpened⟩
    cases stage with
    | waiting => exact ⟨_, .opens atPlace found (by omega)⟩
    | opened text => exact absurd ⟨_, member, rfl⟩ busy
    | finished result => exact absurd ⟨result, rfl⟩ unfinished

/-- A pool with a worker can always go on to where all files are finished. -/
theorem Sound.exists_finished (apart : batch.WorksApart initial.current paths)
    (works : 1 ≤ batch.workers) (sound : pool.Sound batch initial paths) :
    ∃ last, Reaches batch paths pool last ∧ last.Finished := by
  induction steps : pool.left using Nat.strongRecOn generalizing pool with
  | ind count ih =>
      by_cases finished : pool.Finished
      · exact ⟨pool, .refl, finished⟩
      · rcases sound.exists_step works finished with ⟨next, step⟩
        rcases ih next.left (steps ▸ step.left_lt) (sound.step apart step) rfl with
          ⟨last, reaches, finished⟩
        exact ⟨last, .head step reaches, finished⟩

/-- Whether no file of a pool is being worked on. -/
def Idle (pool : Pool) : Prop := ∀ stage ∈ pool.stages, stage.isOpened = false

/-- A pool after one file was read and finished with nothing in between. -/
def finish (pool : Pool) (batch : Batch) (place : Nat) (path : Path) : Pool :=
  ⟨batch.store pool.workspace path (pool.workspace.readText path),
    pool.stages.set place (.finished (batch.resultIn pool.workspace path))⟩

theorem reaches_finish {place : Nat} {path : Path} (works : 1 ≤ batch.workers) (idle : pool.Idle)
    (listed : paths[place]? = some path) (waits : pool.stages[place]? = some .waiting) :
    Reaches batch paths pool (pool.finish batch place path) := by
  have free : pool.stages.countP Stage.isOpened < batch.workers := by
    rw [List.countP_eq_zero.mpr fun stage member => by simp [idle stage member]]
    exact works
  have inside := (List.getElem?_eq_some_iff.mp waits).1
  let opened : Pool :=
    ⟨pool.workspace, pool.stages.set place (.opened (pool.workspace.readText path))⟩
  have closes : Step batch paths opened _ := .closes listed (List.getElem?_set_self inside)
  rw [List.set_set] at closes
  exact .head (.opens listed waits free) (.single closes)

theorem idle_finish {place : Nat} {path : Path} (idle : pool.Idle) :
    (pool.finish batch place path).Idle := by
  intro stage member
  rcases List.mem_or_eq_of_mem_set member with earlier | rfl
  · exact idle stage earlier
  · rfl

/-- Finishing files one after the other, in whatever order, is a run of the pool. -/
theorem reaches_finishFiles (running : batch.cancelled = false) (works : 1 ≤ batch.workers)
    {order : List Nat} (distinct : order.Nodup) (idle : pool.Idle)
    (waits : ∀ place ∈ order, pool.stages[place]? = some .waiting)
    (length : pool.stages.length = paths.length) :
    ∃ last, Reaches batch paths pool last ∧
      last.workspace = (batch.finishFiles pool.workspace paths order).1 ∧
      (∀ entry ∈ (batch.finishFiles pool.workspace paths order).2,
        last.stages[entry.1]? = some (.finished entry.2)) ∧
      (∀ place ∉ order, last.stages[place]? = pool.stages[place]?) ∧
      (batch.finishFiles pool.workspace paths order).2.map Prod.fst = order := by
  -- The rest of the order starts from the pool after the first file, which is idle again; later
  -- steps leave the stage of that file, since no place comes twice.
  induction order generalizing pool with
  | nil => exact ⟨pool, .refl, rfl, nofun, fun _ _ => rfl, rfl⟩
  | cons place rest ih =>
      rcases List.nodup_cons.mp distinct with ⟨once, restDistinct⟩
      have waiting := waits place (List.mem_cons_self ..)
      have inside := (List.getElem?_eq_some_iff.mp waiting).1
      rcases listed : paths[place]? with _ | path
      · rw [List.getElem?_eq_none_iff, ← length] at listed
        omega
      · have elsewhere : ∀ {other : Nat}, other ≠ place →
            (pool.finish batch place path).stages[other]? = pool.stages[other]? :=
          fun differs => List.getElem?_set_ne (Ne.symm differs)
        have restWaits : ∀ other ∈ rest,
            (pool.finish batch place path).stages[other]? = some .waiting := by
          intro other member
          rw [elsewhere fun same => once (same ▸ member)]
          exact waits other (List.mem_cons_of_mem _ member)
        have walked : batch.finishFiles pool.workspace paths (place :: rest) =
            ((batch.finishFiles (pool.finish batch place path).workspace paths rest).1,
              (place, batch.resultIn pool.workspace path) ::
                (batch.finishFiles (pool.finish batch place path).workspace paths rest).2) := by
          rw [Batch.finishFiles, listed]
          simp only [Batch.lintApart_eq running]
          rfl
        rcases ih restDistinct (idle_finish idle) restWaits (by simp [finish, length]) with
          ⟨last, reaches, sameWorkspace, finished, kept, keys⟩
        rw [walked]
        refine ⟨last, (reaches_finish works idle listed waiting).trans reaches, sameWorkspace,
          ?_, ?_, ?_⟩
        · intro entry member
          rcases List.mem_cons.mp member with rfl | later
          · exact (kept place once).trans (List.getElem?_set_self inside)
          · exact finished entry later
        · intro other absent
          simp only [List.mem_cons, not_or] at absent
          exact (kept other absent.2).trans (elsewhere absent.1)
        · rw [List.map_cons, keys]

/-- Files finished in some order are a pool in which every file is finished with its result. -/
theorem exists_pool_finishFiles (workspace : Workspace) (running : batch.cancelled = false)
    (works : 1 ≤ batch.workers) {order : List Nat} (all : order.Perm (List.range paths.length)) :
    ∃ last, Reaches batch paths (start workspace paths) last ∧
      last.workspace = (batch.finishFiles workspace paths order).1 ∧
      ∀ place < paths.length, ∃ result,
        (batch.finishFiles workspace paths order).2.lookup place = some result ∧
          last.stages[place]? = some (.finished result) := by
  have inside : ∀ {other : Nat}, other ∈ order ↔ other < paths.length :=
    all.mem_iff.trans List.mem_range
  have idle : (start workspace paths).Idle := by
    intro stage member
    rcases List.mem_map.mp member with ⟨_, -, rfl⟩
    rfl
  have waits : ∀ other ∈ order, (start workspace paths).stages[other]? = some .waiting := by
    intro other member
    simp [inside.mp member]
  have length : (start workspace paths).stages.length = paths.length := by simp
  rcases reaches_finishFiles running works (all.nodup_iff.mpr List.nodup_range) idle waits length
    with ⟨last, reaches, same, finished, -, keys⟩
  simp only [workspace_start] at same finished keys
  refine ⟨last, reaches, same, ?_⟩
  intro place within
  have member := inside.mpr within
  rw [← keys] at member
  rcases List.mem_map.mp member with ⟨entry, entryMem, rfl⟩
  have present := List.lookup_isSome_iff.mpr ⟨entry, entryMem, beq_self_eq_true entry.1⟩
  rcases Option.isSome_iff_exists.mp present with ⟨result, found⟩
  rcases List.lookup_eq_some_iff.mp found with ⟨before, after, split, -⟩
  exact ⟨result, found, finished (entry.1, result) (split ▸ by simp)⟩

/-- Files finished one after the other each have the result that they have in the workspace before,
in whatever order they are finished. -/
theorem lookup_finishFiles (running : batch.cancelled = false) (works : 1 ≤ batch.workers)
    (apart : batch.WorksApart workspace.current paths) {order : List Nat}
    (all : order.Perm (List.range paths.length)) {place : Nat} {path : Path}
    (listed : paths[place]? = some path) :
    (batch.finishFiles workspace paths order).2.lookup place =
      some (batch.resultIn workspace path) := by
  rcases exists_pool_finishFiles workspace running works all with
    ⟨last, reaches, -, finished⟩
  rcases finished place (List.getElem?_eq_some_iff.mp listed).1 with ⟨result, found, stage⟩
  rw [found]
  exact congrArg some ((sound_start.reaches apart reaches).fits listed stage)

end Pool

end TokenLint
