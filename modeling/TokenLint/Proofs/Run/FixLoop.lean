import TokenLint.Proofs.Fix.Ledger
import TokenLint.Proofs.Lexer.Lossless
import TokenLint.Proofs.Run.Contexts
import TokenLint.Run.FixLoop

/-!
# What a fix run leaves behind

A pass is kept if it fixed and its output can be read. The kept passes alone account for
a run: the source it ends with is the output of the last of them, and the problems it
fixed are theirs, in order. `History` says how the passes follow one another, and
`FixProgress.Sound` carries the account through the loop, whatever the rules do and
whichever of its stops is reached.

A run that converged ended with a pass that committed nothing. Since a pass does not
depend on the passes before it, a second run starts with the same pass and ends there.
-/

namespace TokenLint

/-- Whether a pass fixed and left a source that can be read. -/
def PassRecord.isKept (record : PassRecord) : Bool :=
  record.fixing && (tokenize record.output).isOk

/-- The source that some passes lead to: the output of the last one that is kept. -/
def sourceAfter (source : String) (records : List PassRecord) : String :=
  ((records.filter PassRecord.isKept).getLast?.map PassRecord.output).getD source

/-- The problems that some passes fixed: those of the ones that are kept, in order. -/
def fixedIn (records : List PassRecord) : List Diagnostic :=
  (records.filter PassRecord.isKept).flatMap fun record => record.trace.pass.fixed

/-- The passes that a loop may have made: each of them over the source that those before it lead to,
by the rules as they were at the beginning. -/
inductive History (dispatcher : Dispatcher) (source : String) : List PassRecord → Prop where
  | start : History dispatcher source []
  | pass {records : List PassRecord} {stream : TokenStream} (fixing : Bool)
      (earlier : History dispatcher source records)
      (read : tokenize (sourceAfter source records) = .ok stream) :
      History dispatcher source (records ++
        [⟨sourceAfter source records, (dispatcher.dispatch stream fixing).2⟩])

section Account

variable {source : String} {records : List PassRecord} {record : PassRecord}

theorem sourceAfter_append_kept (kept : record.isKept = true) :
    sourceAfter source (records ++ [record]) = record.output := by
  simp [sourceAfter, List.filter_append, kept]

theorem sourceAfter_append_dropped (dropped : record.isKept = false) :
    sourceAfter source (records ++ [record]) = sourceAfter source records := by
  simp [sourceAfter, List.filter_append, dropped]

theorem fixedIn_append_kept (kept : record.isKept = true) :
    fixedIn (records ++ [record]) = fixedIn records ++ record.trace.pass.fixed := by
  simp [fixedIn, List.filter_append, kept]

theorem fixedIn_append_dropped (dropped : record.isKept = false) :
    fixedIn (records ++ [record]) = fixedIn records := by
  simp [fixedIn, List.filter_append, dropped]

end Account

/-- The account of the passes so far holds where the loop stands. -/
structure FixProgress.Sound (dispatcher : Dispatcher) (source : String) (progress : FixProgress) :
    Prop where
  read : tokenize progress.source = .ok progress.stream
  source_eq : progress.source = sourceAfter source progress.records
  fixed_eq : progress.fixed = fixedIn progress.records
  slots_eq : progress.dispatcher.slots = dispatcher.slots
  history : History dispatcher source progress.records

/-- The account of all passes holds at the end of the loop. The last pass is over the last source,
and if it was a fixing one it committed nothing. -/
structure FixRun.Sound (dispatcher : Dispatcher) (source : String) (run : FixRun) : Prop where
  source_eq : run.source = sourceAfter source run.records
  fixed_eq : run.fixed = fixedIn run.records
  history : History dispatcher source run.records
  last_eq : ∃ stream, tokenize run.source = .ok stream ∧
    run.last = ⟨run.source, (dispatcher.dispatch stream run.last.fixing).2⟩
  unchanged : run.last.fixing = true → run.last.trace.pass.ledger.changed = false

namespace FixProgress

variable {dispatcher : Dispatcher} {source : String} {progress : FixProgress}

/-- The account holds at the start. -/
theorem sound_start {stream : TokenStream} (read : tokenize source = .ok stream) :
    (start dispatcher source stream).Sound dispatcher source :=
  ⟨read, rfl, rfl, rfl, .start⟩

namespace Sound

/-- The pass that the loop makes next is the dispatcher's own over the source reached. -/
theorem pass_eq (sound : progress.Sound dispatcher source) (fixing : Bool) :
    (progress.pass fixing).2 =
      ⟨progress.source, (dispatcher.dispatch progress.stream fixing).2⟩ := by
  rw [← Dispatcher.trace_dispatch_congr _ _ sound.slots_eq]
  rfl

theorem slots_pass_eq (sound : progress.Sound dispatcher source) (fixing : Bool) :
    (progress.pass fixing).1.slots = dispatcher.slots := by
  rw [pass, Dispatcher.slots_dispatch, sound.slots_eq]

theorem history_pass (sound : progress.Sound dispatcher source) (fixing : Bool) :
    History dispatcher source (progress.records ++ [(progress.pass fixing).2]) := by
  have read := sound.read
  rw [sound.source_eq] at read
  rw [sound.pass_eq, sound.source_eq]
  exact .pass fixing sound.history read

@[simp]
theorem fixing_pass (progress : FixProgress) (fixing : Bool) :
    (progress.pass fixing).2.fixing = fixing := by
  simp [pass, PassRecord.fixing]

/-- After a pass whose output can be read, the account takes in the output and the fixes. -/
theorem advance (sound : progress.Sound dispatcher source) {stream : TokenStream}
    (read : tokenize (progress.pass true).2.output = .ok stream) :
    (progress.advance (progress.pass true).1 (progress.pass true).2 stream).Sound dispatcher
      source := by
  have kept : (progress.pass true).2.isKept = true := by
    simp [PassRecord.isKept, read, Except.isOk, Except.toBool]
  exact {
    read
    source_eq := (sourceAfter_append_kept kept).symm
    fixed_eq := by
      rw [FixProgress.advance, fixedIn_append_kept kept, sound.fixed_eq]
    slots_eq := sound.slots_pass_eq true
    history := sound.history_pass true }

/-- After a pass whose output cannot be read, the account is the one before it. -/
theorem retreat (sound : progress.Sound dispatcher source) {error : Lexer.LexFailure}
    (unreadable : tokenize (progress.pass true).2.output = .error error) :
    (progress.retreat (progress.pass true).1 (progress.pass true).2).Sound dispatcher source := by
  have dropped : (progress.pass true).2.isKept = false := by
    simp [PassRecord.isKept, unreadable, Except.isOk, Except.toBool]
  exact {
    read := sound.read
    source_eq := by
      rw [FixProgress.retreat, sourceAfter_append_dropped dropped, sound.source_eq]
    fixed_eq := by
      rw [FixProgress.retreat, fixedIn_append_dropped dropped, sound.fixed_eq]
    slots_eq := sound.slots_pass_eq true
    history := sound.history_pass true }

/-- A last pass that only reports adds nothing to the account. -/
theorem finish_reporting (sound : progress.Sound dispatcher source)
    (converged budgetExceeded : Bool) (rejection : Option Rejection) :
    (progress.finish (progress.pass false).2 converged budgetExceeded rejection).Sound dispatcher
      source := by
  have dropped : (progress.pass false).2.isKept = false := by simp [PassRecord.isKept]
  exact {
    source_eq := by
      rw [FixProgress.finish, sourceAfter_append_dropped dropped, sound.source_eq]
    fixed_eq := by
      rw [FixProgress.finish, fixedIn_append_dropped dropped, sound.fixed_eq]
    history := sound.history_pass false
    last_eq := ⟨progress.stream, sound.read, by
      rw [FixProgress.finish, fixing_pass, sound.pass_eq]⟩
    unchanged := by simp [FixProgress.finish] }

/-- A last fixing pass that committed nothing is kept, and what it adds to the account is empty. -/
theorem finish_unchanged (sound : progress.Sound dispatcher source)
    (unchanged : (progress.pass true).2.trace.pass.ledger.changed = false) :
    (progress.finish (progress.pass true).2 true false none).Sound dispatcher source := by
  have still := unchanged
  rw [sound.pass_eq] at still
  rcases dispatcher.unchanged_dispatch progress.stream true still with ⟨fixed_nil, contents_eq⟩
  rw [source_of_tokenize sound.read] at contents_eq
  have output_eq : (progress.pass true).2.output = progress.source := by
    rw [sound.pass_eq]
    exact contents_eq
  have kept : (progress.pass true).2.isKept = true := by
    simp [PassRecord.isKept, output_eq, sound.read, Except.isOk, Except.toBool]
  exact {
    source_eq := by rw [FixProgress.finish, sourceAfter_append_kept kept, output_eq]
    fixed_eq := by
      rw [FixProgress.finish, fixedIn_append_kept kept, sound.fixed_eq, sound.pass_eq, fixed_nil,
        List.append_nil]
    history := sound.history_pass true
    last_eq := ⟨progress.stream, sound.read, by
      rw [FixProgress.finish, fixing_pass, sound.pass_eq]⟩
    unchanged := fun _ => unchanged }

end Sound

end FixProgress

/-- What one turn of the loop can do: end with a fixing pass that committed nothing, drop the output
of the pass and end, or take the output over and then end or go on. -/
theorem fixFrom_cases {budget : Nat} {progress : FixProgress} {run : FixRun}
    (finished : fixFrom budget progress = .ok run) :
    let (dispatcher, record) := progress.pass true
    (record.trace.pass.ledger.changed = false ∧ run = progress.finish record true false none) ∨
      record.trace.pass.ledger.changed = true ∧
        ((∃ error, tokenize record.output = .error (.malformed error) ∧
            run = (progress.retreat dispatcher record).finishReporting
              (!progress.repeats record && budget == 0) (some (record.rejection error))) ∨
          ∃ stream, tokenize record.output = .ok stream ∧
            ((progress.repeats record = true ∧
                run = (progress.advance dispatcher record stream).finishReporting false none) ∨
              progress.repeats record = false ∧
                ((budget = 0 ∧
                    run = (progress.advance dispatcher record stream).finishReporting true none) ∨
                  ∃ rest, budget = rest + 1 ∧
                    fixFrom rest (progress.advance dispatcher record stream) = .ok run))) := by
  unfold fixFrom at finished
  dsimp only at finished ⊢
  split at finished
  · rename_i changed
    refine .inr ⟨changed, ?_⟩
    split at finished
    · cases finished
    · rename_i error unreadable
      cases finished
      exact .inl ⟨error, unreadable, rfl⟩
    · rename_i stream read
      refine .inr ⟨stream, read, ?_⟩
      split at finished
      · rename_i repeated
        cases finished
        exact .inl ⟨repeated, rfl⟩
      · rename_i fresh
        refine .inr ⟨by simpa using fresh, ?_⟩
        split at finished
        · cases finished
          exact .inl ⟨rfl, rfl⟩
        · exact .inr ⟨_, rfl, finished⟩
  · rename_i unchanged
    cases finished
    exact .inl ⟨by simpa using unchanged, rfl⟩

/-- The loop ends at once with a fixing pass that commits nothing. -/
theorem fixFrom_of_unchanged {budget : Nat} {progress : FixProgress}
    (unchanged : (progress.pass true).2.trace.pass.ledger.changed = false) :
    fixFrom budget progress = .ok (progress.finish (progress.pass true).2 true false none) := by
  unfold fixFrom
  dsimp only
  rw [unchanged]
  rfl

/-- How a run ended: it converged just if its last pass is a fixing one, and then nothing was
dropped and the budget was not exceeded. -/
structure FixRun.Stopped (run : FixRun) : Prop where
  converged_eq : run.converged = run.last.fixing
  clean : run.converged = true → run.budgetExceeded = false ∧ run.rejection = none

/-- A run that dropped nothing within its budget leaves the problems of its last pass alone. -/
theorem FixRun.remaining_of_clean {run : FixRun} (maxIterations : Nat)
    (inBudget : run.budgetExceeded = false) (kept : run.rejection = none) :
    run.remaining maxIterations =
      run.last.trace.pass.sorted.filter fun diagnostic => diagnostic.fixState ≠ .fixed := by
  have untouched : run.annotate maxIterations = id := by
    funext diagnostic
    simp [annotate, inBudget, kept]
  rw [remaining, untouched, List.map_id]

/-- A diagnostic without the note about its fix. -/
def Diagnostic.withoutNote (diagnostic : Diagnostic) : Diagnostic :=
  { diagnostic with note := none }

/-- The problems that a run leaves are, but for their notes, those of its last pass. -/
theorem FixRun.map_withoutNote_remaining (run : FixRun) (maxIterations : Nat) :
    (run.remaining maxIterations).map Diagnostic.withoutNote =
      (run.last.trace.pass.sorted.filter fun diagnostic => diagnostic.fixState ≠ .fixed).map
        Diagnostic.withoutNote := by
  have erased : Diagnostic.withoutNote ∘ run.annotate maxIterations = Diagnostic.withoutNote := by
    funext diagnostic
    simp only [Function.comp, annotate]
    split
    · rfl
    · split <;> rfl
  rw [remaining, List.map_map, erased]

/-- A loop that stops with a last pass that only reports has not converged. -/
theorem FixProgress.stopped_finishReporting (progress : FixProgress) (budgetExceeded : Bool)
    (rejection : Option Rejection) :
    (progress.finishReporting budgetExceeded rejection).Stopped where
  converged_eq := (Sound.fixing_pass progress false).symm
  clean := by
    intro converged
    cases converged

/-- The account holds at the end of the fixing passes. -/
theorem FixRun.sound_fixFrom {dispatcher : Dispatcher} {source : String} {budget : Nat}
    {progress : FixProgress} {run : FixRun} (sound : progress.Sound dispatcher source)
    (finished : fixFrom budget progress = .ok run) :
    run.Sound dispatcher source ∧ run.Stopped := by
  induction budget using Nat.strongRecOn generalizing progress with
  | ind budget ih =>
      rcases fixFrom_cases finished with ⟨unchanged, rfl⟩ | ⟨-, ⟨error, unreadable, rfl⟩ |
        ⟨stream, read, ⟨-, rfl⟩ | ⟨-, ⟨-, rfl⟩ | ⟨rest, rfl, finishedRest⟩⟩⟩⟩
      · exact ⟨sound.finish_unchanged unchanged,
          (FixProgress.Sound.fixing_pass progress true).symm, fun _ => ⟨rfl, rfl⟩⟩
      · exact ⟨(sound.retreat unreadable).finish_reporting false _ _,
          FixProgress.stopped_finishReporting _ _ _⟩
      · exact ⟨(sound.advance read).finish_reporting false _ _,
          FixProgress.stopped_finishReporting _ _ _⟩
      · exact ⟨(sound.advance read).finish_reporting false _ _,
          FixProgress.stopped_finishReporting _ _ _⟩
      · exact ih rest (Nat.lt_succ_self rest) (sound.advance read) finishedRest

end TokenLint
