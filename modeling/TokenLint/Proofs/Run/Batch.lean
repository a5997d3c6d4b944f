import TokenLint.Proofs.Run.Lint
import TokenLint.Proofs.Run.Workers
import Mathlib.Data.List.Forall2
import Mathlib.Data.List.Induction

/-!
# Runs over many files

Unless it is cancelled, a run lists one result for every path, in the order of the paths, however
many workers there are and in whatever order they finish; each result is the one of a run over that
path alone. A fault of a run over one path is where the ways part: it ends a run in turn, and is
told as the result of its file where files are worked on at the same time.
-/

namespace TokenLint

/-- The items of a list, looked up one after the other. -/
theorem filterMap_getElem?_range {α : Type} (items : List α) :
    (List.range items.length).filterMap (fun index => items[index]?) = items := by
  induction items using List.reverseRecOn with
  | nil => rfl
  | append_singleton before last ih =>
      rw [List.length_append, List.length_singleton, List.range_succ, List.filterMap_append]
      have earlier :
          (List.range before.length).filterMap (fun index => (before ++ [last])[index]?) =
            (List.range before.length).filterMap fun index => before[index]? :=
        List.filterMap_congr fun index member =>
          List.getElem?_append_left (List.mem_range.mp member)
      rw [earlier, ih]
      simp

namespace Batch

variable {batch : Batch} {workspace initial : Workspace} {path : Path} {paths : List Path}

theorem WorksApart.tail {current : List String} (apart : batch.WorksApart current (path :: paths)) :
    batch.WorksApart current paths := fun writes => (List.nodup_cons.mp (apart writes)).2

theorem WorksApart.ne {current : List String} (apart : batch.WorksApart current (path :: paths))
    {other : Path} (member : other ∈ paths) (writes : batch.write = true) :
    other.resolve current ≠ path.resolve current := fun same =>
  (List.nodup_cons.mp (apart writes)).1 (List.mem_map.mpr ⟨other, member, same⟩)

/-- Files linted in turn have the results, up to the first fault, that they have in the workspace
before the run. -/
theorem lintInTurn_eq (running : batch.cancelled = false)
    (apart : batch.WorksApart initial.current paths) (current : workspace.current = initial.current)
    (unread : ∀ path ∈ paths, workspace.readText path = initial.readText path) :
    (batch.lintInTurn workspace paths).2 =
      paths.mapM fun path => batch.judge path (initial.readText path) := by
  induction paths generalizing workspace with
  | nil => rfl
  | cons path rest ih =>
      rcases List.forall_mem_cons.mp unread with ⟨here, later⟩
      rw [lintInTurn, lintFile_eq running, List.mapM_cons, here]
      cases batch.judge path (initial.readText path) with
      | error fault => rfl
      | ok result =>
          have restUnread : ∀ other ∈ rest, (batch.store workspace path
              (initial.readText path)).readText other = initial.readText other := by
            intro other member
            rw [readText_store here fun writes => current ▸ apart.ne member writes]
            exact later other member
          have rested := ih apart.tail ((current_store _).trans current) restUnread
          simp only [rested]
          cases rest.mapM fun path => batch.judge path (initial.readText path) <;> rfl

/-- Files linted at the same time are listed with the results that they have in the workspace before
the run, whatever the order in which they are finished. -/
theorem runInOrder_of_isParallel (running : batch.cancelled = false)
    (apart : batch.WorksApart workspace.current paths) {order : List Nat}
    (all : order.Perm (List.range paths.length)) (parallel : batch.isParallel paths = true) :
    (batch.runInOrder order workspace paths).2 = .ok ⟨paths.map (batch.resultIn workspace)⟩ := by
  have works : 1 ≤ batch.workers := by
    simp only [isParallel, Bool.and_eq_true, decide_eq_true_eq] at parallel
    omega
  have found : ∀ place ∈ List.range paths.length,
      (batch.finishFiles workspace paths order).2.lookup place =
        (paths.map (batch.resultIn workspace))[place]? := by
    intro place member
    have listed := List.getElem?_eq_getElem (List.mem_range.mp member)
    rw [Pool.lookup_finishFiles running works apart all listed, List.getElem?_map, listed]
    rfl
  simp only [runInOrder, parallel, if_true]
  rw [List.filterMap_congr found, ← List.length_map (batch.resultIn workspace),
    filterMap_getElem?_range]

theorem runInOrder_of_not_isParallel (running : batch.cancelled = false)
    (apart : batch.WorksApart workspace.current paths) {order : List Nat}
    (single : batch.isParallel paths = false) :
    (batch.runInOrder order workspace paths).2 =
      (paths.mapM fun path => batch.judge path (workspace.readText path)).map BatchResult.mk := by
  simp only [runInOrder, single, Bool.false_eq_true, if_false]
  rw [lintInTurn_eq running apart rfl fun _ _ => rfl]

theorem run_alone (running : batch.cancelled = false) :
    (batch.run workspace [path]).2 =
      (batch.judge path (workspace.readText path)).map fun result => ⟨[result]⟩ := by
  have apart : batch.WorksApart workspace.current [path] := fun _ => by simp
  rw [run, runInOrder_of_not_isParallel running apart (by simp [isParallel])]
  simp only [List.mapM_cons, List.mapM_nil]
  cases batch.judge path (workspace.readText path) <;> rfl

theorem path_of_judge {text : Except ReadError String} {result : FileResult}
    (judged : batch.judge path text = .ok result) : result.path = path.text := by
  simp only [judge] at judged
  split at judged
  · cases judged
  · cases judged
    rfl
  · split at judged
    · cases judged
    · rename_i run finished
      cases judged
      rcases LintSettings.lint_cases finished with ⟨_, -, ⟨_, -, rfl⟩ | ⟨_, _, -, -, rfl⟩⟩ <;> rfl

end Batch

namespace BatchResult

variable (result : BatchResult)

theorem errorCount_add_warningCount :
    result.errorCount + result.warningCount = result.records.length := by
  rcases result with ⟨results⟩
  simp only [errorCount, warningCount, records]
  induction results with
  | nil => rfl
  | cons first rest ih =>
      have split : first.errors.length + first.warnings.length = first.diagnostics.length := by
        simp only [FileResult.errors, FileResult.warnings, Diagnostic.ofSeverity]
        induction first.diagnostics with
        | nil => rfl
        | cons diagnostic others ih =>
            cases severity : diagnostic.severity <;> simp [severity] <;> omega
      simp only [List.flatMap_cons, List.length_append, List.length_map]
      omega

theorem exitCode_eq_one_iff :
    result.exitCode = 1 ↔ ∃ record ∈ result.records, record.diagnostic.severity = .error := by
  have failing : result.exitCode = 1 ↔ 0 < result.errorCount := by
    simp [exitCode, failed, Nat.pos_iff_ne_zero]
  rw [failing, errorCount, List.length_pos_iff_exists_mem]
  constructor
  · rintro ⟨diagnostic, member⟩
    rcases List.mem_flatMap.mp member with ⟨file, fileMem, filtered⟩
    rcases List.mem_filter.mp filtered with ⟨held, severity⟩
    exact ⟨⟨file.path, diagnostic⟩,
      List.mem_flatMap.mpr ⟨file, fileMem, List.mem_map_of_mem held⟩, by simpa using severity⟩
  · rintro ⟨record, member, severity⟩
    rcases List.mem_flatMap.mp member with ⟨file, fileMem, listed⟩
    rcases List.mem_map.mp listed with ⟨diagnostic, held, rfl⟩
    exact ⟨diagnostic,
      List.mem_flatMap.mpr ⟨file, fileMem, List.mem_filter.mpr ⟨held, by simpa using severity⟩⟩⟩

end BatchResult

namespace Batch

variable {batch : Batch} {workspace : Workspace} {paths : List Path}

/-- A batch with another number of workers. -/
def withWorkers (batch : Batch) (workers : Nat) : Batch := { batch with workers }

/-- What is said of the outcome of a run: every number of workers and every order in which they
finish leads to it, and so do all steps of a pool of workers, which can always go on to the end; it
has one result for every path, in their order, which is that of a run over the path alone; and it
counts what it lists. -/
structure Settles (batch : Batch) (workspace : Workspace) (paths : List Path)
    (outcome : BatchResult) : Prop where
  ordered : ∀ workers, 1 ≤ workers → ∀ order, order.Perm (List.range paths.length) →
    ((batch.withWorkers workers).runInOrder order workspace paths).2 = .ok outcome
  pooled : ∀ workers, 1 ≤ workers → ∀ pool,
    Pool.Reaches (batch.withWorkers workers) paths (.start workspace paths) pool →
      (∃ last, Pool.Reaches (batch.withWorkers workers) paths pool last ∧ last.Finished) ∧
        (pool.Finished → pool.stages = outcome.results.map .finished)
  alone : List.Forall₂ (fun path result => result.path = path.text ∧
    (batch.run workspace [path]).2 = .ok ⟨[result]⟩) paths outcome.results
  counts : outcome.errorCount + outcome.warningCount = outcome.records.length
  fails : outcome.exitCode = 1 ↔ ∃ record ∈ outcome.records, record.diagnostic.severity = .error

theorem mapM_judge (judged : ∀ path ∈ paths,
    batch.judge path (workspace.readText path) = .ok (batch.resultIn workspace path)) :
    (paths.mapM fun path => batch.judge path (workspace.readText path)) =
      .ok (paths.map (batch.resultIn workspace)) := by
  induction paths with
  | nil => rfl
  | cons path rest ih =>
      rcases List.forall_mem_cons.mp judged with ⟨here, later⟩
      rw [List.mapM_cons, here, ih later]
      rfl

/-- A run has one outcome, whatever the number of its workers and the order in which they finish,
exactly if a run over each of its paths alone has a result. -/
theorem exists_settles_iff (running : batch.cancelled = false)
    (apart : batch.WorksApart workspace.current paths) :
    (∃ outcome, batch.Settles workspace paths outcome) ↔
      ∀ path ∈ paths, ∃ result, (batch.run workspace [path]).2 = .ok ⟨[result]⟩ := by
  constructor
  · rintro ⟨outcome, settles⟩ path member
    rcases List.getElem_of_mem member with ⟨place, inside, rfl⟩
    have sized := settles.alone.length_eq
    exact ⟨_, (settles.alone.get inside (sized ▸ inside)).2⟩
  · intro alone
    have judged : ∀ path ∈ paths,
        batch.judge path (workspace.readText path) = .ok (batch.resultIn workspace path) := by
      intro path member
      rcases alone path member with ⟨result, ran⟩
      rw [run_alone running] at ran
      rw [resultIn]
      cases judged : batch.judge path (workspace.readText path) with
      | error fault =>
          rw [judged] at ran
          cases ran
      | ok result => rfl
    refine ⟨⟨paths.map (batch.resultIn workspace)⟩, ?_, ?_, ?_,
      BatchResult.errorCount_add_warningCount _, BatchResult.exitCode_eq_one_iff _⟩
    · intro workers works order all
      have started : (batch.withWorkers workers).cancelled = false := running
      cases parallel : (batch.withWorkers workers).isParallel paths with
      | true => exact runInOrder_of_isParallel started apart all parallel
      | false =>
          rw [runInOrder_of_not_isParallel started apart parallel]
          exact congrArg (Except.map BatchResult.mk) (mapM_judge judged)
    · intro workers works pool reaches
      have kept : (batch.withWorkers workers).WorksApart workspace.current paths := apart
      have sound := Pool.sound_start.reaches kept reaches
      refine ⟨sound.exists_finished apart works, fun finished => ?_⟩
      rw [sound.stages_eq finished, List.map_map]
      rfl
    · rw [List.forall₂_map_right_iff, List.forall₂_same]
      intro path member
      refine ⟨path_of_judge (judged path member), ?_⟩
      rw [run_alone running, judged path member]
      rfl

/-- Two workers that replace a function and write files back. -/
def replacing : Batch := ⟨.replaceRandom, true, 2, false⟩

/-- A directory with a file that calls the older random number generator and one that does not. -/
def randomFiles : Workspace where
  tree := .directory [("a.php", .file (.ofText "<?php rand();")),
    ("b.php", .file (.ofText "<?php echo 1;"))]
  current := []
  environment := []

/-- Two files of their own, one of which is written back, have one outcome. -/
theorem exists_settles_replacing :
    ∃ outcome, replacing.Settles randomFiles [.ofText "a.php", .ofText "b.php"] outcome := by
  have judged : ∀ path ∈ [Path.ofText "a.php", .ofText "b.php"],
      (replacing.judge path (randomFiles.readText path)).isOk = true := by decide +kernel
  refine (exists_settles_iff rfl fun _ => by decide).mpr fun path member => ?_
  have accepted := judged path member
  rw [run_alone rfl]
  cases outcome : replacing.judge path (randomFiles.readText path) with
  | error fault =>
      rw [outcome] at accepted
      cases accepted
  | ok result => exact ⟨result, rfl⟩

/-- A batch that looks for nothing. -/
def plain (workers : Nat) : Batch := ⟨⟨[], .null, false, 1⟩, false, workers, false⟩

/-- A directory with a file whose text has a cast that is spelled with a dotless i. -/
def dotlessFiles : Workspace where
  tree := .directory [("a.php", .file (.ofText "<?php (ınt)$x;"))]
  current := []
  environment := []

/-- One worker gives up at a file that makes a run fault; two workers tell the fault as a result. -/
theorem run_dotlessFiles :
    ((plain 1).run dotlessFiles [.ofText "a.php", .ofText "b.php"]).2 =
        .error (.run (.unknownCast "ınt")) ∧
      ((plain 2).run dotlessFiles [.ofText "a.php", .ofText "b.php"]).2 = .ok ⟨[
        .unusable "a.php" "Processing failed: 'ınt'",
        .unusable "b.php" "Cannot read file: [Errno 2] No such file or directory: 'b.php'"]⟩ := by
  have stuck : (Lexer.scan "<?php (ınt)$x;").failure = some (.unknownCast "ınt") := by
    decide +kernel
  have unreadable : tokenize "<?php (ınt)$x;" = .error (.unknownCast "ınt") := by
    simp only [tokenize, tokenizeLenient, Lexer.lex, stuck]
    rfl
  have faults : ∀ workers, (plain workers).judge (.ofText "a.php")
      (dotlessFiles.readText (.ofText "a.php")) = .error (.run (.unknownCast "ınt")) := by
    intro workers
    have read : dotlessFiles.readText (.ofText "a.php") = .ok "<?php (ınt)$x;" := by
      decide +kernel
    have made : Dispatcher.ofRules [] .null = _ := Dispatcher.ofRules_null (by decide)
    simp only [read, judge, plain, LintSettings.lint, made, unreadable]
  have apart : ∀ workers, (plain workers).WorksApart dotlessFiles.current
      [.ofText "a.php", .ofText "b.php"] := fun _ writes => Bool.noConfusion writes
  constructor
  · rw [run, runInOrder_of_not_isParallel rfl (apart 1) rfl, List.mapM_cons, faults]
    rfl
  · rw [run, runInOrder_of_isParallel rfl (apart 2) (.refl _) rfl, List.map_cons, resultIn, faults]
    rfl

end Batch

end TokenLint
