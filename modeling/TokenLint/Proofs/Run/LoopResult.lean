import TokenLint.Proofs.Run.LoopState

/-!
# The loop ends

What is left to do from where the machine of the loop stands can be read back as passes of
`lint`: fixing passes while fixing is switched on, and one pass that only reports otherwise. No
step changes the result of these, so where the machine stops is what `lint` returns.
-/

namespace TokenLint

namespace LoopState

variable (settings : LintSettings) (path source : String) (state : LoopState)

/-- The passes that are left over the stream of the source at hand. -/
def passesFrom (stream : TokenStream) : Except RunFault FixRun :=
  let progress := state.progress stream
  if state.fixing then fixFrom (settings.maxIterations - 1 - state.iterations) progress
  else
    .ok (progress.finish (progress.pass false).2 (!settings.fix) state.budgetExceeded
      state.rejection)

/-- The result that the passes left over a stream lead to. -/
def resultFrom (stream : TokenStream) : Except RunFault FileRun :=
  (state.passesFrom settings stream).map fun run => run.toFileRun settings path source

/-- The result of a source that cannot be read. -/
def failedRun (error : Lexer.SourceError) : FileRun :=
  ⟨.failure path source Diagnostic.tokenizerErrorCode error.message error.position, []⟩

/-- The result of a loop that has come to its end. -/
def fileRun? : Option FileRun :=
  match state.phase with
  | .done last => some ((state.fixRun last).toFileRun settings path source)
  | .failed error => some (failedRun path source error)
  | _ => none

/-- The result is the one that the source at hand leads to, or the source before it, if this one
cannot be read. -/
structure LeadsTo (result : Except RunFault FileRun) : Prop where
  read : ∀ stream, tokenize state.current = .ok stream →
    result = (state.accept stream).resultFrom settings path source stream
  unread : ∀ error, tokenize state.current = .error (.malformed error) →
    state.iterations = 0 → result = .ok (failedRun path source error)
  dropped : ∀ error stream, tokenize state.current = .error (.malformed error) →
    0 < state.iterations → tokenize state.lastGood = .ok stream →
      result = ((state.rollBack error).accept stream).resultFrom settings path source stream

/-- The result is the one of the run from where the machine stands. -/
def Yields (result : Except RunFault FileRun) : Prop :=
  match state.phase with
  | .reading => state.LeadsTo settings path source result
  | .dispatching stream => result = state.resultFrom settings path source stream
  | .applying record => (state.apply settings record).LeadsTo settings path source result
  | .done last => result = .ok ((state.fixRun last).toFileRun settings path source)
  | .failed error => result = .ok (failedRun path source error)

end LoopState

namespace LoopState

variable {settings : LintSettings} {path source : String} {state next : LoopState}
  {result : Except RunFault FileRun}

theorem fixFrom_of_read {budget : Nat} {progress : FixProgress} {stream : TokenStream}
    (changed : (progress.pass true).2.trace.pass.ledger.changed = true)
    (read : tokenize (progress.pass true).2.output = .ok stream) :
    fixFrom budget progress =
      let next := progress.advance (progress.pass true).1 (progress.pass true).2 stream
      if progress.repeats (progress.pass true).2 then .ok (next.finishReporting false none)
      else if budget = 0 then .ok (next.finishReporting true none)
      else fixFrom (budget - 1) next := by
  rw [fixFrom]
  simp only [changed, read, if_true]
  cases budget <;> rfl

theorem fixFrom_of_malformed {budget : Nat} {progress : FixProgress} {error : Lexer.SourceError}
    (changed : (progress.pass true).2.trace.pass.ledger.changed = true)
    (unread : tokenize (progress.pass true).2.output = .error (.malformed error)) :
    fixFrom budget progress =
      .ok ((progress.retreat (progress.pass true).1 (progress.pass true).2).finishReporting
        (!progress.repeats (progress.pass true).2 && budget == 0)
        (some ((progress.pass true).2.rejection error))) := by
  rw [fixFrom]
  simp only [changed, unread, if_true]

theorem passesFrom_of_on {stream : TokenStream} (on : state.fixing = true) :
    state.passesFrom settings stream =
      fixFrom (settings.maxIterations - 1 - state.iterations) (state.progress stream) := by
  rw [passesFrom, on]
  rfl

theorem passesFrom_of_off {stream : TokenStream} (fix : settings.fix = true)
    (off : state.fixing = false) :
    state.passesFrom settings stream =
      .ok ((state.progress stream).finishReporting state.budgetExceeded state.rejection) := by
  rw [passesFrom, off, fix]
  rfl

/-- The state behind a pass over a stream whose fixes are applied. -/
def applied (settings : LintSettings) (state : LoopState) (stream : TokenStream) : LoopState :=
  (state.dispatch settings stream).apply settings (state.passed stream)

section Applied

variable {stream next : TokenStream} {error : Lexer.SourceError}

theorem passed_of_on (on : state.fixing = true) :
    state.passed stream = ((state.progress stream).pass true).2 := by
  rw [passed, on]

/-- What is left after fixes whose output can be read. -/
theorem passesFrom_applied (fix : settings.fix = true) (on : state.fixing = true)
    (unexceeded : state.budgetExceeded = false) (unrejected : state.rejection = none) :
    let advanced := (state.progress stream).advance ((state.progress stream).pass true).1
      (state.passed stream) next
    let repeated := (state.progress stream).repeats (state.passed stream)
    ((state.applied settings stream).accept next).passesFrom settings next =
      if repeated || state.spends settings then
        .ok (advanced.finishReporting (!repeated && state.spends settings) none)
      else fixFrom (settings.maxIterations - 1 - (state.iterations + 1)) advanced := by
  intro advanced repeated
  have progress_eq : ((state.applied settings stream).accept next).progress next = advanced := by
    simp only [advanced]
    rw [← on]
    rfl
  have fixing_eq : ((state.applied settings stream).accept next).fixing =
      !(repeated || state.spends settings) := by
    change (state.fixing && _) = _
    rw [on]
    rfl
  have exceeded_eq : ((state.applied settings stream).accept next).budgetExceeded =
      (!repeated && state.spends settings) := by
    change (state.budgetExceeded || _) = _
    rw [unexceeded]
    rfl
  have rejection_eq : ((state.applied settings stream).accept next).rejection = none := unrejected
  cases stops : repeated || state.spends settings with
  | true =>
      rw [stops] at fixing_eq
      rw [passesFrom_of_off fix fixing_eq, progress_eq, exceeded_eq, rejection_eq]
      rfl
  | false =>
      rw [stops] at fixing_eq
      rw [passesFrom_of_on fixing_eq, progress_eq]
      rfl

/-- What is left after fixes whose output cannot be read. -/
theorem passesFrom_rollBack_applied (fix : settings.fix = true) (on : state.fixing = true)
    (unexceeded : state.budgetExceeded = false) (good_eq : state.lastGood = state.current) :
    (((state.applied settings stream).rollBack error).accept stream).passesFrom settings stream =
      .ok (((state.progress stream).retreat ((state.progress stream).pass true).1
        (state.passed stream)).finishReporting
          (!(state.progress stream).repeats (state.passed stream) && state.spends settings)
          (some ((state.passed stream).rejection error))) := by
  have progress_eq : (((state.applied settings stream).rollBack error).accept stream).progress
      stream = ⟨((state.progress stream).pass true).1, state.lastGood, stream, state.fixed ++ [],
        state.records ++ [state.passed stream], (state.passed stream).output :: state.seen,
        some (state.passed stream).trace.pass.signature⟩ := by
    rw [← on]
    rfl
  have exceeded_eq :
      (((state.applied settings stream).rollBack error).accept stream).budgetExceeded =
        (!(state.progress stream).repeats (state.passed stream) && state.spends settings) := by
    change (state.budgetExceeded || _) = _
    rw [unexceeded]
    rfl
  rw [passesFrom_of_off fix rfl, progress_eq, exceeded_eq, good_eq, List.append_nil]
  rfl

end Applied

/-- What a fixing pass that committed something leaves to do is what is left after its fixes are
applied. -/
theorem Sound.leadsTo_applied (sound : state.Sound settings) {stream : TokenStream}
    (phase_eq : state.phase = .dispatching stream) (on : state.fixing = true)
    (changed : (state.passed stream).trace.pass.ledger.changed = true) :
    (state.applied settings stream).LeadsTo settings path source
      (state.resultFrom settings path source stream) := by
  rcases sound.on on with ⟨fix, unexceeded, unrejected⟩
  rcases sound.dispatching stream phase_eq with ⟨read, good_eq, -⟩
  have within := sound.within (by rw [phase_eq]; rfl) on
  have spends_eq : state.spends settings =
      (settings.maxIterations - 1 - state.iterations == 0) := by
    rw [spends, beq_eq_decide]
    exact decide_eq_decide.mpr (by omega)
  rw [passed_of_on on] at changed
  constructor
  · intro next readNext
    have output_eq : (state.applied settings stream).current =
        ((state.progress stream).pass true).2.output := by
      rw [← passed_of_on on]
      rfl
    rw [output_eq] at readNext
    rw [resultFrom, resultFrom, passesFrom_of_on on, fixFrom_of_read changed readNext,
      passesFrom_applied fix on unexceeded unrejected, ← passed_of_on on, spends_eq]
    refine congrArg _ ?_
    cases (state.progress stream).repeats (state.passed stream) with
    | true => rfl
    | false =>
        rcases Nat.eq_zero_or_pos (settings.maxIterations - 1 - state.iterations) with spent | left
        · simp [spent]
        · rw [Nat.sub_add_eq]
          simp [left.ne']
  · intro error _ first
    cases first
  · intro error again unread _ readGood
    have readGood : tokenize state.lastGood = .ok again := readGood
    rw [good_eq, read] at readGood
    cases readGood
    have unread : tokenize (state.passed stream).output = .error (.malformed error) := unread
    rw [passed_of_on on] at unread
    rw [resultFrom, resultFrom, passesFrom_of_on on, fixFrom_of_malformed changed unread,
      passesFrom_rollBack_applied fix on unexceeded good_eq, ← passed_of_on on, spends_eq]

theorem Sound.yields_dispatch (sound : state.Sound settings) {stream : TokenStream}
    (phase_eq : state.phase = .dispatching stream) :
    (state.dispatch settings stream).Yields settings path source
      (state.resultFrom settings path source stream) := by
  cases fixes : state.fixing && (state.passed stream).trace.pass.ledger.changed with
  | true =>
      rcases Bool.and_eq_true_iff.mp fixes with ⟨on, changed⟩
      have next_phase : (state.dispatch settings stream).phase = .applying (state.passed stream) :=
        if_pos fixes
      simp only [Yields, next_phase]
      exact sound.leadsTo_applied phase_eq on changed
  | false =>
      have stops : ¬(state.fixing && (state.passed stream).trace.pass.ledger.changed) = true := by
        simp [fixes]
      have next_phase : (state.dispatch settings stream).phase = .done (state.passed stream) :=
        if_neg stops
      have converged_eq : (state.dispatch settings stream).converged =
          (state.fixing || !settings.fix) := if_neg stops
      have run_eq : (state.dispatch settings stream).fixRun (state.passed stream) =
          (state.progress stream).finish (state.passed stream) (state.fixing || !settings.fix)
            state.budgetExceeded state.rejection := by
        rw [← converged_eq]
        rfl
      simp only [Yields, next_phase]
      rw [run_eq, resultFrom]
      cases on : state.fixing with
      | true =>
          rcases sound.on on with ⟨-, unexceeded, unrejected⟩
          rw [on, Bool.true_and, passed_of_on on] at fixes
          rw [passesFrom_of_on on, fixFrom_of_unchanged fixes, unexceeded, unrejected,
            passed_of_on on]
          rfl
      | false =>
          rw [passesFrom, passed, on]
          rfl

/-- No step changes the result. -/
theorem Sound.yields_step (sound : state.Sound settings)
    (yields : state.Yields settings path source result)
    (stepped : state.step settings = .ok next) : next.Yields settings path source result := by
  rcases step_cases stepped with
    ⟨phase_eq, ⟨stream, read, rfl⟩ | ⟨error, unread, ⟨first, rfl⟩ | ⟨later, rfl⟩⟩⟩ |
      ⟨stream, phase_eq, rfl⟩ | ⟨record, phase_eq, rfl⟩ | ⟨-, rfl⟩
  · simp only [Yields, phase_eq] at yields
    exact yields.read stream read
  · simp only [Yields, phase_eq] at yields
    exact yields.unread error unread first
  · simp only [Yields, phase_eq] at yields
    rcases sound.reading phase_eq later with ⟨good, readGood⟩
    have next_phase : (state.rollBack error).phase = .reading := phase_eq
    simp only [Yields, next_phase]
    constructor
    · intro stream read
      exact yields.dropped error stream unread later read
    · intro _ _ first
      exact absurd first later.ne'
    · intro other stream again _ _
      have again : tokenize state.lastGood = .error (.malformed other) := again
      rw [readGood] at again
      cases again
  · simp only [Yields, phase_eq] at yields
    rw [yields]
    exact sound.yields_dispatch phase_eq
  · simp only [Yields, phase_eq] at yields
    exact yields
  · exact yields

theorem Sound.yields_after (sound : state.Sound settings)
    (yields : state.Yields settings path source result) {count : Nat}
    (reached : state.after settings count = .ok next) :
    next.Yields settings path source result := by
  induction count generalizing state with
  | zero =>
      cases reached
      exact yields
  | succ count ih =>
      rcases after_succ reached with ⟨middle, stepped, rest⟩
      exact ih (sound.step stepped) (sound.yields_step yields stepped) rest

theorem yields_start {dispatcher : Dispatcher}
    (made : Dispatcher.ofRules settings.rules settings.options = .ok dispatcher) :
    (start dispatcher settings.fix source).Yields settings path source
      (settings.lint path source) := by
  constructor
  · intro stream read
    have read : tokenize source = .ok stream := read
    simp only [LintSettings.lint, made, read, LintSettings.passes]
    cases fix : settings.fix with
    | true => rfl
    | false =>
        rw [resultFrom, passesFrom, fix]
        rfl
  · intro error unread _
    have unread : tokenize source = .error (.malformed error) := unread
    simp only [LintSettings.lint, made, unread]
    rfl
  · intro _ _ _ later
    cases later

/-- Where the machine stops is its result, with the records of its passes. -/
theorem exists_fileRun_of_yields (final : state.phase.isFinal = true)
    (sound : state.Sound settings) (yields : state.Yields settings path source result) :
    ∃ run, state.fileRun? settings path source = some run ∧ result = .ok run ∧
      run.records = state.records ∧ run.result.passes = run.records.length := by
  cases phase_eq : state.phase with
  | done last =>
      simp only [Yields, phase_eq] at yields
      simp only [fileRun?, phase_eq]
      exact ⟨_, rfl, yields, rfl, rfl⟩
  | failed error =>
      simp only [Yields, phase_eq] at yields
      simp only [fileRun?, phase_eq]
      have counted := sound.counted
      rw [phase_eq, sound.failed error phase_eq] at counted
      exact ⟨_, rfl, yields, (List.eq_nil_of_length_eq_zero counted).symm, rfl⟩
  | _ =>
      rw [phase_eq] at final
      cases final

end LoopState

namespace LintSettings

open LoopState

/-- Settings whose options are given by rules. -/
def ofOptions (rules : List Rule) (options : List (String × Table)) (fix : Bool)
    (maxIterations : Nat) : LintSettings :=
  ⟨rules, .ofOptions options, fix, maxIterations⟩

/-- The machine of a run before its first step. -/
def machine (rules : List Rule) (options : List (String × Table)) (fix : Bool) (source : String) :
    LoopState :=
  .start (.ofOptions rules fun id => (options.lookup id).getD []) fix source

/-- A run whose sources can be read, or be told to be malformed, comes to an end. It applies fixes
at most as often as its budget allows, with at most one pass more than that, and no pass that may
fix is over the source of another one. From wherever fixing is switched off there is at most one
more pass. -/
theorem lint_stops {rules : List Rule} {options : List (String × Table)} {fix : Bool}
    {maxIterations : Nat} {source : String} (distinct : (rules.map Rule.id).Nodup)
    (positive : 1 ≤ maxIterations)
    (readable : (machine rules options fix source).Readable
      (ofOptions rules options fix maxIterations)) (path : String) :
    let settings := ofOptions rules options fix maxIterations
    let begun := machine rules options fix source
    ∃ steps final run, steps ≤ 3 * maxIterations + 3 ∧
      begun.after settings steps = .ok final ∧
      final.fileRun? settings path source = some run ∧ settings.lint path source = .ok run ∧
      begun.applications settings steps ≤ maxIterations ∧
      run.records.length ≤ maxIterations + 1 ∧ run.result.passes = run.records.length ∧
      (∀ count state, begun.after settings count = .ok state → state.fixing = false →
        run.records.length ≤ state.records.length + 1) ∧
      ((run.records.filter PassRecord.fixing).map PassRecord.source).Nodup := by
  intro settings begun
  have made : Dispatcher.ofRules settings.rules settings.options =
      .ok (.ofOptions rules fun id => (options.lookup id).getD []) :=
    Dispatcher.ofRules_of_optionsFor distinct (Dispatcher.optionsFor_ofOptions options)
  have sound : begun.Sound settings := .start positive _ source
  rcases sound.exists_final readable with ⟨steps, final, within, reached, stopped⟩
  have soundFinal := sound.after reached
  have yieldsStart : begun.Yields settings path source (settings.lint path source) :=
    yields_start made
  have yields := sound.yields_after yieldsStart reached
  rcases exists_fileRun_of_yields stopped soundFinal yields with
    ⟨run, run_eq, finished, records_eq, passes_eq⟩
  refine ⟨steps, final, run, within.trans (stepsLeft_start_le _ _ _), reached, run_eq, finished,
    ?_, ?_, passes_eq, ?_, ?_⟩
  · have counted := iterations_after reached
    have begun_eq : begun.iterations = 0 := rfl
    have bounded : final.iterations ≤ maxIterations := soundFinal.bounded
    omega
  · have bounded : final.iterations ≤ maxIterations := soundFinal.bounded
    rw [records_eq, soundFinal.counted]
    exact Nat.add_le_add bounded (ahead_le _)
  · intro count state between off
    rcases exists_after_of_final reached stopped between with ⟨rest, later⟩
    rw [records_eq]
    exact (sound.after between).length_records_le off later
  · rw [records_eq]
    exact soundFinal.distinct

/-- The fix of an outer ternary spends the budget, so one more pass reports on the inner one. -/
theorem lint_stops_simplify :
    let settings := ofOptions [.constantTernary] [] true 1
    let begun := machine [.constantTernary] [] true "<?php echo true ? (true ? 1 : 2) : 3;"
    begun.Readable settings ∧
      ∃ steps final run, steps ≤ 6 ∧ begun.after settings steps = .ok final ∧
        final.fileRun? settings "a" "<?php echo true ? (true ? 1 : 2) : 3;" = some run ∧
        settings.lint "a" "<?php echo true ? (true ? 1 : 2) : 3;" = .ok run ∧
        begun.applications settings steps ≤ 1 ∧ run.records.length ≤ 2 ∧
        (∀ count state, begun.after settings count = .ok state → state.fixing = false →
          run.records.length ≤ state.records.length + 1) ∧
        ((run.records.filter PassRecord.fixing).map PassRecord.source).Nodup := by
  intro settings begun
  have stops : ((begun.after settings 5).toOption.map fun final => final.phase.isFinal) =
      some true := by decide +kernel
  have reads : ∀ count ≤ 5, (begun.after settings count).toOption.all
      (fun met => (tokenize met.current).isOk) = true := by decide +kernel
  have readable : begun.Readable settings := readable_of_final stops reads
  rcases lint_stops (by simp) (Nat.le_refl 1) readable "a" with
    ⟨steps, final, run, within, reached, run_eq, finished, applied, passes, -, off, fresh⟩
  exact ⟨readable, steps, final, run, within, reached, run_eq, finished, applied, passes, off,
    fresh⟩

end LintSettings

end TokenLint
