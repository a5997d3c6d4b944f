import TokenLint.Proofs.Run.FixLoop
import TokenLint.Proofs.Run.Mirror

/-!
# Runs over one source

What the result of a run says about its passes, and why a run that converged cannot be
improved on: a second run over its last source makes the same last pass at once.
-/

namespace TokenLint

namespace LintSettings

variable {settings : LintSettings} {path source : String} {run : FileRun}

/-- A run that returns could be dispatched, and either its source cannot be read, or the passes over
the source end. -/
theorem lint_cases (finished : settings.lint path source = .ok run) :
    ∃ dispatcher, Dispatcher.ofRules settings.rules settings.options = .ok dispatcher ∧
      ((∃ error, tokenize source = .error (.malformed error) ∧
          run = ⟨.failure path source Diagnostic.tokenizerErrorCode error.message error.position,
            []⟩) ∨
        ∃ stream passes, tokenize source = .ok stream ∧
          settings.passes (.start dispatcher source stream) = .ok passes ∧
          run = passes.toFileRun settings path source) := by
  simp only [lint] at finished
  split at finished
  · cases finished
  · rename_i dispatcher made
    refine ⟨dispatcher, made, ?_⟩
    split at finished
    · cases finished
    · rename_i error unreadable
      cases finished
      exact .inl ⟨error, unreadable, rfl⟩
    · rename_i stream read
      simp only [Except.map] at finished
      split at finished
      · cases finished
      · rename_i passes ended
        cases finished
        exact .inr ⟨stream, passes, read, ended, rfl⟩

/-- The account holds at the end of the passes over a source that can be read. -/
theorem sound_passes {dispatcher : Dispatcher} {stream : TokenStream} {passes : FixRun}
    (read : tokenize source = .ok stream)
    (ended : settings.passes (.start dispatcher source stream) = .ok passes) :
    passes.Sound dispatcher source := by
  have started : (FixProgress.start dispatcher source stream).Sound dispatcher source :=
    FixProgress.sound_start read
  simp only [LintSettings.passes] at ended
  split at ended
  · exact (FixRun.sound_fixFrom started ended).1
  · cases ended
    exact started.finish_reporting true false none

/-- A run that does not fix makes one pass, which only reports. -/
theorem passes_of_checking {progress : FixProgress} {passes : FixRun}
    (checking : settings.fix = false) (ended : settings.passes progress = .ok passes) :
    passes = progress.finish (progress.pass false).2 true false none := by
  simp only [LintSettings.passes, checking, Bool.false_eq_true, if_false] at ended
  cases ended
  rfl

theorem exists_lint_of_map_toOption {α : Type} {view : FileRun → α} {seen : α}
    (outcome : (settings.lint path source).toOption.map view = some seen) :
    ∃ run, settings.lint path source = .ok run ∧ view run = seen := by
  cases finished : settings.lint path source with
  | ok run =>
      rw [finished] at outcome
      exact ⟨run, rfl, Option.some.inj outcome⟩
  | error fault =>
      rw [finished] at outcome
      cases outcome

/-- Settings that replace a function in up to three fixing passes. -/
def replaceRandom : LintSettings := ⟨[.olderRandom], .null, true, 3⟩

/-- Settings that simplify ternaries in a single fixing pass. -/
def simplifyOnce : LintSettings := ⟨[.constantTernary], .null, true, 1⟩

/-- A run fails just if its source is malformed, and then it makes no pass and reports nothing else.
Any other run ends with a source that can be read: the output of its last fixing pass whose output
can be read, with the problems that these passes fixed. A run that does not fix makes one pass and
keeps its source, whatever its rules commit. -/
theorem result_accounts_for_passes (finished : settings.lint path source = .ok run) :
    (run.result.state = .failed ↔ ∃ error, tokenize source = .error (.malformed error)) ∧
    (∀ error, tokenize source = .error (.malformed error) →
      run.records = [] ∧ run.result.passes = 0 ∧ run.result.fixedSource = source ∧
        run.result.fixed = [] ∧
        run.result.diagnostics =
          [.internal Diagnostic.tokenizerErrorCode error.message error.position]) ∧
    ((¬∃ error, tokenize source = .error (.malformed error)) →
      run.result.state = .done ∧
        (∃ stream, tokenize run.result.fixedSource = .ok stream) ∧
        run.result.fixedSource = sourceAfter source run.records ∧
        run.result.fixed = fixedIn run.records ∧
        run.result.passes = run.records.length ∧
        ∃ dispatcher, Dispatcher.ofRules settings.rules settings.options = .ok dispatcher ∧
          History dispatcher source run.records) ∧
    (settings.fix = false → run.result.state = .done →
      run.result.passes = 1 ∧ run.result.fixedSource = source) := by
  rcases lint_cases finished with
    ⟨dispatcher, made, ⟨error, unreadable, rfl⟩ | ⟨stream, passes, read, ended, rfl⟩⟩
  · refine ⟨⟨fun _ => ⟨error, unreadable⟩, fun _ => rfl⟩, ?_, ?_, ?_⟩
    · intro other again
      rw [unreadable] at again
      cases again
      exact ⟨rfl, rfl, rfl, rfl, rfl⟩
    · intro readable
      exact absurd ⟨error, unreadable⟩ readable
    · intro _ done
      cases done
  · have sound := sound_passes read ended
    have readable : ¬∃ error, tokenize source = .error (.malformed error) := by
      rintro ⟨error, unreadable⟩
      rw [read] at unreadable
      cases unreadable
    rcases sound.last_eq with ⟨last, readLast, -⟩
    refine ⟨⟨fun failed => ?_, fun malformed => absurd malformed readable⟩, ?_, ?_, ?_⟩
    · cases failed
    · intro error unreadable
      exact absurd ⟨error, unreadable⟩ readable
    · intro _
      exact ⟨rfl, ⟨last, readLast⟩, sound.source_eq, sound.fixed_eq, rfl, dispatcher, made,
        sound.history⟩
    · intro checking _
      rw [passes_of_checking checking ended]
      exact ⟨rfl, rfl⟩

/-- A run over a call of the older random number generator accounts for its passes. -/
theorem result_accounts_for_passes_olderRandom :
    ∃ run, replaceRandom.lint "a" "<?php rand();" = .ok run ∧ run.result.state = .done ∧
      run.result.fixedSource = sourceAfter "<?php rand();" run.records ∧
      run.result.fixed = fixedIn run.records := by
  have outcome : (replaceRandom.lint "a" "<?php rand();").toOption.map
      (fun run => run.result.converged) = some true := by decide +kernel
  rcases exists_lint_of_map_toOption outcome with ⟨run, finished, -⟩
  have readable : (tokenize "<?php rand();").isOk = true := by decide +kernel
  have account := (result_accounts_for_passes finished).2.2.1 (by
    rintro ⟨error, unreadable⟩
    rw [unreadable] at readable
    cases readable)
  exact ⟨run, finished, account.1, account.2.2.1, account.2.2.2.1⟩

/-- The result of passes over a source that can be read. -/
theorem lint_eq_of_passes {dispatcher : Dispatcher} {stream : TokenStream} {passes : FixRun}
    (made : Dispatcher.ofRules settings.rules settings.options = .ok dispatcher)
    (read : tokenize source = .ok stream)
    (ended : settings.passes (.start dispatcher source stream) = .ok passes) :
    settings.lint path source = .ok (passes.toFileRun settings path source) := by
  simp only [lint, made, read, ended, Except.map]

/-- A second run over what a converged run leaves behind changes nothing: its first pass is the last
one of the first run. -/
theorem lint_fixedSource_of_converged (fixes : settings.fix = true)
    (finished : settings.lint path source = .ok run) (done : run.result.state = .done)
    (converged : run.result.converged = true) (maxIterations : Nat) :
    ∃ again, { settings with maxIterations }.lint path run.result.fixedSource = .ok again ∧
      again.result.state = .done ∧ again.result.fixedSource = run.result.fixedSource ∧
      again.result.passes = 1 ∧ again.result.fixed = [] ∧ again.result.converged = true ∧
      again.result.diagnostics = run.result.diagnostics := by
  rcases lint_cases finished with
    ⟨dispatcher, made, ⟨error, unreadable, rfl⟩ | ⟨stream, passes, read, ended, rfl⟩⟩
  · cases done
  · rw [LintSettings.passes, if_pos fixes] at ended
    rcases FixRun.sound_fixFrom (FixProgress.sound_start read) ended with ⟨sound, stopped⟩
    rcases sound.last_eq with ⟨last, readLast, last_eq⟩
    have fixing : passes.last.fixing = true := stopped.converged_eq ▸ converged
    rw [fixing] at last_eq
    -- The first pass of the second run is the last pass of the first one.
    have pass_eq : ((FixProgress.start dispatcher passes.source last).pass true).2 = passes.last :=
      last_eq.symm
    have endedAgain : { settings with maxIterations }.passes
        (.start dispatcher passes.source last) =
          .ok ((FixProgress.start dispatcher passes.source last).finish passes.last true false
            none) := by
      rw [LintSettings.passes, if_pos fixes, ← pass_eq]
      exact fixFrom_of_unchanged (by rw [pass_eq]; exact sound.unchanged fixing)
    refine ⟨_, lint_eq_of_passes made readLast endedAgain, rfl, rfl, rfl, rfl, rfl, ?_⟩
    rcases stopped.clean converged with ⟨inBudget, kept⟩
    exact (FixRun.remaining_of_clean maxIterations rfl rfl).trans
      (FixRun.remaining_of_clean settings.maxIterations inBudget kept).symm

/-- The run that replaces a function leaves a source on which a second run changes nothing. -/
theorem lint_fixedSource_of_converged_olderRandom :
    ∃ run again, replaceRandom.lint "a" "<?php rand();" = .ok run ∧
      run.result.fixedSource = "<?php mt_rand();" ∧
      { replaceRandom with maxIterations := 1 }.lint "a" run.result.fixedSource = .ok again ∧
      again.result.fixedSource = run.result.fixedSource ∧ again.result.fixed = [] := by
  have outcome : (replaceRandom.lint "a" "<?php rand();").toOption.map
      (fun run => (run.result.fixedSource, run.result.state, run.result.converged)) =
        some ("<?php mt_rand();", .done, true) := by decide +kernel
  rcases exists_lint_of_map_toOption outcome with ⟨run, finished, seen⟩
  simp only [Prod.mk.injEq] at seen
  rcases lint_fixedSource_of_converged rfl finished seen.2.1 seen.2.2 1 with
    ⟨again, finishedAgain, -, source_eq, -, fixed_nil, -, -⟩
  exact ⟨run, again, finished, seen.1, finishedAgain, source_eq, fixed_nil⟩

/-- The problems that a run of built-in rules leaves are those that a check of its last source
reports, in the same order and but for their notes, whichever way the run stopped. -/
theorem check_fixedSource_of_done (builtin : ∀ rule ∈ settings.rules, rule ∈ Rule.builtin)
    (finished : settings.lint path source = .ok run) (done : run.result.state = .done)
    (maxIterations : Nat) :
    ∃ check, { settings with fix := false, maxIterations }.lint path run.result.fixedSource =
        .ok check ∧
      check.result.diagnostics.map Diagnostic.withoutNote =
        run.result.diagnostics.map Diagnostic.withoutNote := by
  rcases lint_cases finished with
    ⟨dispatcher, made, ⟨error, unreadable, rfl⟩ | ⟨stream, passes, read, ended, rfl⟩⟩
  · cases done
  · rcases (sound_passes read ended) with ⟨-, -, -, ⟨last, readLast, last_eq⟩, unchanged⟩
    have active : ∀ rule ∈ dispatcher.rules, rule ∈ Rule.builtin := by
      intro rule member
      rw [Dispatcher.rules_of_ofRules made] at member
      exact builtin rule (List.mem_mergeSort.mp member)
    have reports_eq : passes.last.trace.pass.reports =
        (dispatcher.dispatch last false).2.pass.reports := by
      cases fixing : passes.last.fixing with
      | false =>
          rw [last_eq, fixing]
      | true =>
          have still := unchanged fixing
          rw [last_eq, fixing] at still ⊢
          exact Dispatcher.reports_dispatch_of_unchanged active
            (TokenStream.bounded_of_tokenize readLast) still
    refine ⟨_, lint_eq_of_passes made readLast (by rw [LintSettings.passes, if_neg (by simp)]), ?_⟩
    refine (FixRun.map_withoutNote_remaining _ _).trans
      (Eq.trans ?_ (FixRun.map_withoutNote_remaining passes settings.maxIterations).symm)
    rw [Pass.sorted, Pass.sorted, reports_eq]
    rfl

/-- The fix of an inner ternary loses to that of the outer one, and the budget is spent. A check of
the source left behind reports the inner one as well. -/
theorem check_fixedSource_of_done_simplifyOnce :
    ∃ run check, simplifyOnce.lint "a" "<?php echo true ? (true ? 1 : 2) : 3;" = .ok run ∧
      run.result.fixedSource = "<?php echo (true ? 1 : 2);" ∧ run.result.budgetExceeded = true ∧
      run.result.diagnostics.length = 1 ∧
      { simplifyOnce with fix := false, maxIterations := 1 }.lint "a" run.result.fixedSource =
        .ok check ∧
      check.result.diagnostics.map Diagnostic.withoutNote =
        run.result.diagnostics.map Diagnostic.withoutNote := by
  have outcome : (simplifyOnce.lint "a" "<?php echo true ? (true ? 1 : 2) : 3;").toOption.map
      (fun run => (run.result.state, run.result.fixedSource, run.result.budgetExceeded,
        run.result.diagnostics.length)) =
          some (.done, "<?php echo (true ? 1 : 2);", true, 1) := by decide +kernel
  rcases exists_lint_of_map_toOption outcome with ⟨run, finished, seen⟩
  simp only [Prod.mk.injEq] at seen
  have builtin : ∀ rule ∈ simplifyOnce.rules, rule ∈ Rule.builtin := by
    simp [simplifyOnce, Rule.builtin]
  rcases check_fixedSource_of_done builtin finished seen.1 1 with ⟨check, checked, same⟩
  exact ⟨run, check, finished, seen.2.1, seen.2.2.1, seen.2.2.2, checked, same⟩

end LintSettings

end TokenLint
