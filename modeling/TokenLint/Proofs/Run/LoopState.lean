import TokenLint.Proofs.Run.Separate

/-!
# The fix loop as a state machine

The loop reads a source into a stream, passes over it, applies the fixes of the pass, and reads
again. Here it is a machine that takes one of these steps at a time, with an edge back from
applying fixes to reading, and one from reading to itself, when the output of a pass cannot be
read and the source before it is taken up again.

Every step makes a measure smaller. It is made of the fixing passes that are left while fixing is
switched on, and once it is switched off, of whether the source at hand can be read: the source
taken up again always can. So the machine stops, and since no step changes what `lint` returns
from where the machine stands, it stops with the result of `lint`.
-/

namespace TokenLint

/-- What the loop is about to do: read its source, pass over a stream, apply the fixes of a pass,
or nothing, because it is done or failed. -/
inductive LoopPhase where
  | reading
  | dispatching (stream : TokenStream)
  | applying (record : PassRecord)
  | done (last : PassRecord)
  | failed (error : Lexer.SourceError)

/-- Whether nothing is left to do in a phase. -/
def LoopPhase.isFinal : LoopPhase → Bool
  | .done _ | .failed _ => true
  | _ => false

/-- Where the machine stands. `lastGood` is the last source that could be read, `pending` the
problems fixed on the way to a source that is not read yet, `iterations` counts the times that
fixes were applied, and `fixing` tells whether fixing is switched on. -/
structure LoopState where
  phase : LoopPhase
  dispatcher : Dispatcher
  current : String
  lastGood : String
  seen : List String
  previous : Option (List Diagnostic.Signature)
  pending : List Diagnostic
  fixed : List Diagnostic
  records : List PassRecord
  rejection : Option Rejection
  iterations : Nat
  fixing : Bool
  converged : Bool
  budgetExceeded : Bool

namespace LoopState

/-- The state in front of the first pass. -/
def start (dispatcher : Dispatcher) (fix : Bool) (source : String) : LoopState where
  phase := .reading
  dispatcher
  current := source
  lastGood := source
  seen := [source]
  previous := none
  pending := []
  fixed := []
  records := []
  rejection := none
  iterations := 0
  fixing := fix
  converged := false
  budgetExceeded := false

variable (settings : LintSettings) (state : LoopState)

/-- The source at hand could be read, so the fixes on the way to it stand. -/
def accept (stream : TokenStream) : LoopState :=
  { state with
    phase := .dispatching stream
    fixed := state.fixed ++ state.pending
    pending := []
    lastGood := state.current }

/-- The output of a pass cannot be read: its fixes are dropped, and fixing is switched off. -/
def rollBack (error : Lexer.SourceError) : LoopState :=
  { state with
    rejection := some ⟨state.pending.map Diagnostic.code, error.message⟩
    pending := []
    current := state.lastGood
    fixing := false }

/-- Reads the source at hand. One that cannot be read ends the loop if it is the first, and takes
the loop back to the last good source if it is one that fixes have made. -/
def read : Except RunFault LoopState :=
  match tokenize state.current with
  | .ok stream => .ok (state.accept stream)
  | .error (.malformed error) =>
    if state.iterations = 0 then .ok { state with phase := .failed error }
    else .ok (state.rollBack error)
  | .error (.unknownCast name) => .error (.unknownCast name)

/-- The state as the recursion over passes has it. -/
def progress (stream : TokenStream) : FixProgress :=
  ⟨state.dispatcher, state.current, stream, state.fixed, state.records, state.seen,
    state.previous⟩

/-- Passes over the stream of the source at hand. If that fixes anything the fixes are applied next,
and else the loop is done. -/
def dispatch (stream : TokenStream) : LoopState :=
  let (dispatcher, record) := (state.progress stream).pass state.fixing
  let fixes := state.fixing && record.trace.pass.ledger.changed
  { state with
    dispatcher
    records := state.records ++ [record]
    phase := if fixes then .applying record else .done record
    converged := if fixes then state.converged else state.fixing || !settings.fix }

/-- Whether a pass found the problems of the one before, or its output was met before. -/
def repeats (record : PassRecord) : Bool :=
  some record.trace.pass.signature == state.previous || state.seen.contains record.output

/-- Whether the budget is spent once more fixes are applied. -/
def spends : Bool := settings.maxIterations ≤ state.iterations + 1

/-- Takes the output of a pass for the source at hand, and switches fixing off if the loop repeats
itself or its budget is spent. -/
def apply (record : PassRecord) : LoopState :=
  let stops := state.repeats record || state.spends settings
  { state with
    phase := .reading
    iterations := state.iterations + 1
    pending := record.trace.pass.fixed
    current := record.output
    fixing := state.fixing && !stops
    budgetExceeded :=
      state.budgetExceeded || (!state.repeats record && state.spends settings)
    -- Both are asked for only while fixing is switched on.
    previous := some record.trace.pass.signature
    seen := record.output :: state.seen }

/-- One step of the loop. A loop at its end stays there. -/
def step : Except RunFault LoopState :=
  match state.phase with
  | .reading => state.read
  | .dispatching stream => .ok (state.dispatch settings stream)
  | .applying record => .ok (state.apply settings record)
  | .done _ | .failed _ => .ok state

/-- The state after some number of steps. -/
def after : Nat → LoopState → Except RunFault LoopState
  | 0, state => .ok state
  | count + 1, state => (state.step settings).bind (after count)

/-- How many of a number of steps apply fixes. -/
def applications : Nat → LoopState → Nat
  | 0, _ => 0
  | count + 1, state =>
    (match state.phase with
      | .applying _ => 1
      | _ => 0) +
    match state.step settings with
    | .ok next => applications count next
    | .error _ => 0

/-- How the loop ends with its last pass. -/
def fixRun (last : PassRecord) : FixRun :=
  ⟨state.current, state.fixed, state.records, last, state.converged, state.budgetExceeded,
    state.rejection⟩

/-- How many steps there are left at most. -/
def stepsLeft : Nat :=
  let left := settings.maxIterations - state.iterations
  match state.phase with
  | .reading =>
    if state.fixing then 3 * left + 3 else if (tokenize state.current).isOk then 2 else 3
  | .dispatching _ => if state.fixing then 3 * left + 2 else 1
  | .applying _ => 3 * left + 1
  | .done _ | .failed _ => 0

/-- The sources that fixing passes have been made over. -/
def fixedSources : List String :=
  (state.records.filter PassRecord.fixing).map PassRecord.source

/-- How many passes there are for the times that fixes were applied. -/
def ahead : LoopPhase → Nat
  | .applying _ | .done _ => 1
  | _ => 0

/-- What holds wherever the machine stands. While fixing is switched on there are fixing passes
left, and the source at hand is none that was passed over before. A source that is taken up again
can be read. -/
structure Sound (settings : LintSettings) (state : LoopState) : Prop where
  on : state.fixing = true →
    settings.fix = true ∧ state.budgetExceeded = false ∧ state.rejection = none
  within : state.phase.isFinal = false → state.fixing = true →
    state.iterations < settings.maxIterations
  bounded : state.iterations ≤ settings.maxIterations
  counted : state.records.length = state.iterations + ahead state.phase
  reading : state.phase = .reading → 0 < state.iterations →
    ∃ stream, tokenize state.lastGood = .ok stream
  dispatching : ∀ stream, state.phase = .dispatching stream →
    tokenize state.current = .ok stream ∧ state.lastGood = state.current ∧ state.pending = []
  applying : ∀ record, state.phase = .applying record →
    state.fixing = true ∧ ∃ stream, tokenize state.lastGood = .ok stream
  failed : ∀ error, state.phase = .failed error → state.iterations = 0
  distinct : state.fixedSources.Nodup
  met : ∀ source ∈ state.fixedSources, source ∈ state.seen
  fresh : state.phase.isFinal = false → (∀ record, state.phase ≠ .applying record) →
    state.fixing = true → state.current ∈ state.seen ∧ state.current ∉ state.fixedSources

section Dispatch

variable {settings : LintSettings} {state : LoopState} (stream : TokenStream)

/-- The pass that a state makes over a stream. -/
def passed (state : LoopState) (stream : TokenStream) : PassRecord :=
  ((state.progress stream).pass state.fixing).2

/-- After a pass its fixes are applied, if it may fix and committed any, or the loop is done. -/
theorem phase_dispatch_cases :
    (state.fixing = true ∧ (state.dispatch settings stream).phase =
        .applying (state.passed stream)) ∨
      (state.dispatch settings stream).phase = .done (state.passed stream) := by
  simp only [dispatch]
  split
  · rename_i changed
    exact .inl ⟨(Bool.and_eq_true_iff.mp changed).1, rfl⟩
  · exact .inr rfl

theorem fixedSources_dispatch :
    (state.dispatch settings stream).fixedSources =
      state.fixedSources ++ if state.fixing then [state.current] else [] := by
  have fixing_pass : (state.passed stream).fixing = state.fixing :=
    FixProgress.Sound.fixing_pass _ _
  have records_eq : (state.dispatch settings stream).records =
      state.records ++ [state.passed stream] := rfl
  rw [fixedSources, records_eq, List.filter_append, List.map_append, List.filter_singleton,
    fixing_pass]
  cases state.fixing <;> rfl

end Dispatch

namespace Sound

variable {settings : LintSettings} {state next : LoopState}

theorem start (positive : 1 ≤ settings.maxIterations) (dispatcher : Dispatcher)
    (source : String) : (LoopState.start dispatcher settings.fix source).Sound settings := by
  constructor <;> simp [LoopState.start, LoopPhase.isFinal, ahead, fixedSources]
  omega

theorem accept (sound : state.Sound settings) (phase_eq : state.phase = .reading)
    {stream : TokenStream} (read : tokenize state.current = .ok stream) :
    (state.accept stream).Sound settings where
  on := sound.on
  within _ := sound.within (by rw [phase_eq]; rfl)
  bounded := sound.bounded
  counted := by simpa [LoopState.accept, ahead, phase_eq] using sound.counted
  reading := by simp [LoopState.accept]
  dispatching := by simpa [LoopState.accept] using read
  applying := by simp [LoopState.accept]
  failed := by simp [LoopState.accept]
  distinct := sound.distinct
  met := sound.met
  fresh _ _ := sound.fresh (by rw [phase_eq]; rfl) (by simp [phase_eq])

theorem rollBack (sound : state.Sound settings) (phase_eq : state.phase = .reading)
    (error : Lexer.SourceError) : (state.rollBack error).Sound settings where
  on := by simp [LoopState.rollBack]
  within := by simp [LoopState.rollBack]
  bounded := sound.bounded
  counted := sound.counted
  reading := sound.reading
  dispatching := by simp [LoopState.rollBack, phase_eq]
  applying := by simp [LoopState.rollBack, phase_eq]
  failed := by simp [LoopState.rollBack, phase_eq]
  distinct := sound.distinct
  met := sound.met
  fresh := by simp [LoopState.rollBack]

theorem fail (sound : state.Sound settings) (phase_eq : state.phase = .reading)
    (first : state.iterations = 0) (error : Lexer.SourceError) :
    { state with phase := .failed error }.Sound settings where
  on := sound.on
  within := by simp [LoopPhase.isFinal]
  bounded := sound.bounded
  counted := by simpa [ahead, phase_eq] using sound.counted
  reading := by simp
  dispatching := by simp
  applying := by simp
  failed _ _ := first
  distinct := sound.distinct
  met := sound.met
  fresh := by simp [LoopPhase.isFinal]

theorem distinct_dispatch (sound : state.Sound settings) {stream : TokenStream}
    (phase_eq : state.phase = .dispatching stream) :
    (state.dispatch settings stream).fixedSources.Nodup := by
  rw [fixedSources_dispatch]
  cases fixing : state.fixing with
  | true =>
      have unmet := (sound.fresh (by rw [phase_eq]; rfl) (by simp [phase_eq]) fixing).2
      refine List.nodup_append.mpr ⟨sound.distinct, by simp, ?_⟩
      intro source member last onlyLast same
      have last_eq : last = state.current := by simpa using onlyLast
      rw [same, last_eq] at member
      exact unmet member
  | false => simpa using sound.distinct

theorem met_dispatch (sound : state.Sound settings) {stream : TokenStream}
    (phase_eq : state.phase = .dispatching stream) :
    ∀ source ∈ (state.dispatch settings stream).fixedSources, source ∈ state.seen := by
  rw [fixedSources_dispatch]
  intro source member
  rcases List.mem_append.mp member with earlier | last
  · exact sound.met source earlier
  · cases fixing : state.fixing with
    | true =>
        rw [fixing] at last
        rw [List.mem_singleton.mp last]
        exact (sound.fresh (by rw [phase_eq]; rfl) (by simp [phase_eq]) fixing).1
    | false =>
        rw [fixing] at last
        cases last

theorem dispatch (sound : state.Sound settings) {stream : TokenStream}
    (phase_eq : state.phase = .dispatching stream) :
    (state.dispatch settings stream).Sound settings := by
  rcases sound.dispatching stream phase_eq with ⟨read, good_eq, -⟩
  have next_phase : ∀ {phase}, (state.dispatch settings stream).phase = phase →
      (state.fixing = true ∧ phase = .applying (state.passed stream)) ∨
        phase = .done (state.passed stream) := by
    rintro _ rfl
    exact phase_dispatch_cases stream
  exact {
    on := sound.on
    within := fun _ => sound.within (by rw [phase_eq]; rfl)
    bounded := sound.bounded
    counted := by
      have counted := sound.counted
      rw [phase_eq] at counted
      have ahead_eq : ahead (state.dispatch settings stream).phase = 1 := by
        rcases next_phase rfl with ⟨-, eq⟩ | eq <;> rw [eq] <;> rfl
      rw [ahead_eq]
      change (state.records ++ [_]).length = state.iterations + 1
      simpa [ahead] using counted
    reading := by
      intro eq
      rcases next_phase eq with ⟨-, same⟩ | same <;> cases same
    dispatching := by
      intro other eq
      rcases next_phase eq with ⟨-, same⟩ | same <;> cases same
    applying := by
      intro record eq
      rcases next_phase eq with ⟨fixing, -⟩ | same
      · exact ⟨fixing, stream, good_eq ▸ read⟩
      · cases same
    failed := by
      intro error eq
      rcases next_phase eq with ⟨-, same⟩ | same <;> cases same
    distinct := sound.distinct_dispatch phase_eq
    met := sound.met_dispatch phase_eq
    fresh := by
      intro nonfinal notApplying
      rcases next_phase rfl with ⟨-, eq⟩ | eq
      · exact absurd eq (notApplying _)
      · rw [eq] at nonfinal
        cases nonfinal }

theorem apply (sound : state.Sound settings) {record : PassRecord}
    (phase_eq : state.phase = .applying record) :
    (state.apply settings record).Sound settings := by
  rcases sound.applying record phase_eq with ⟨fixing, stream, read⟩
  have within := sound.within (by rw [phase_eq]; rfl) fixing
  -- While fixing stays switched on, the output is new and there is another pass left.
  have going : (state.apply settings record).fixing = true →
      state.repeats record = false ∧ state.spends settings = false := by
    simp [LoopState.apply, fixing]
  exact {
    on := by
      intro on
      rcases going on with ⟨fresh, unspent⟩
      simpa [LoopState.apply, fresh, unspent] using sound.on fixing
    within := by
      intro _ on
      simpa [LoopState.apply, spends] using (going on).2
    bounded := within
    counted := by
      have counted := sound.counted
      rw [phase_eq] at counted
      simpa [LoopState.apply, ahead] using counted
    reading := fun _ _ => ⟨stream, read⟩
    dispatching := by simp [LoopState.apply]
    applying := by simp [LoopState.apply]
    failed := by simp [LoopState.apply]
    distinct := sound.distinct
    met := fun source member => List.mem_cons_of_mem _ (sound.met source member)
    fresh := by
      intro _ _ on
      have unmet : record.output ∉ state.seen := by
        simpa using (Bool.or_eq_false_iff.mp (going on).1).2
      exact ⟨List.mem_cons_self, fun member => unmet (sound.met _ member)⟩ }

end Sound

section Steps

variable {settings : LintSettings} {state next : LoopState}

theorem step_cases (stepped : state.step settings = .ok next) :
    (state.phase = .reading ∧
        ((∃ stream, tokenize state.current = .ok stream ∧ next = state.accept stream) ∨
          ∃ error, tokenize state.current = .error (.malformed error) ∧
            ((state.iterations = 0 ∧ next = { state with phase := .failed error }) ∨
              (0 < state.iterations ∧ next = state.rollBack error)))) ∨
      (∃ stream, state.phase = .dispatching stream ∧ next = state.dispatch settings stream) ∨
      (∃ record, state.phase = .applying record ∧ next = state.apply settings record) ∨
      (state.phase.isFinal = true ∧ next = state) := by
  simp only [step] at stepped
  split at stepped
  · rename_i phase_eq
    refine .inl ⟨phase_eq, ?_⟩
    simp only [read] at stepped
    split at stepped
    · rename_i stream read
      cases stepped
      exact .inl ⟨stream, read, rfl⟩
    · rename_i error unreadable
      refine .inr ⟨error, unreadable, ?_⟩
      split at stepped
      · rename_i first
        cases stepped
        exact .inl ⟨first, rfl⟩
      · rename_i later
        cases stepped
        exact .inr ⟨Nat.pos_of_ne_zero later, rfl⟩
    · cases stepped
  · rename_i stream phase_eq
    cases stepped
    exact .inr (.inl ⟨stream, phase_eq, rfl⟩)
  · rename_i record phase_eq
    cases stepped
    exact .inr (.inr (.inl ⟨record, phase_eq, rfl⟩))
  · rename_i last phase_eq
    cases stepped
    exact .inr (.inr (.inr ⟨by rw [phase_eq]; rfl, rfl⟩))
  · rename_i error phase_eq
    cases stepped
    exact .inr (.inr (.inr ⟨by rw [phase_eq]; rfl, rfl⟩))

/-- A step can be taken unless the source at hand has a cast that no rewriting knows. -/
theorem exists_step (known : ∀ name, tokenize state.current ≠ .error (.unknownCast name)) :
    ∃ next, state.step settings = .ok next := by
  simp only [step]
  split
  · simp only [read]
    split
    · exact ⟨_, rfl⟩
    · split <;> exact ⟨_, rfl⟩
    · rename_i name unknown
      exact absurd unknown (known name)
  all_goals exact ⟨_, rfl⟩

theorem Sound.step (sound : state.Sound settings) (stepped : state.step settings = .ok next) :
    next.Sound settings := by
  rcases step_cases stepped with
    ⟨phase_eq, ⟨stream, read, rfl⟩ | ⟨error, -, ⟨first, rfl⟩ | ⟨-, rfl⟩⟩⟩ |
      ⟨stream, phase_eq, rfl⟩ | ⟨record, phase_eq, rfl⟩ | ⟨-, rfl⟩
  · exact sound.accept phase_eq read
  · exact sound.fail phase_eq first error
  · exact sound.rollBack phase_eq error
  · exact sound.dispatch phase_eq
  · exact sound.apply phase_eq
  · exact sound

/-- Every step of a machine that has not stopped makes the measure smaller. -/
theorem Sound.stepsLeft_lt (sound : state.Sound settings) (unfinished : state.phase.isFinal = false)
    (stepped : state.step settings = .ok next) :
    next.stepsLeft settings < state.stepsLeft settings := by
  have bounded := sound.bounded
  have within := sound.within unfinished
  rcases step_cases stepped with
    ⟨phase_eq, ⟨stream, read, rfl⟩ | ⟨error, unreadable, ⟨-, rfl⟩ | ⟨later, rfl⟩⟩⟩ |
      ⟨stream, phase_eq, rfl⟩ | ⟨record, phase_eq, rfl⟩ | ⟨final, -⟩
  · cases fixing : state.fixing <;>
      simp [stepsLeft, LoopState.accept, phase_eq, fixing, read, Except.isOk, Except.toBool]
  · cases fixing : state.fixing <;>
      simp [stepsLeft, phase_eq, fixing, unreadable, Except.isOk, Except.toBool]
  · rcases sound.reading phase_eq later with ⟨stream, read⟩
    cases fixing : state.fixing <;>
      simp [stepsLeft, LoopState.rollBack, phase_eq, fixing, unreadable, read, Except.isOk,
        Except.toBool]
  · have next_phase : _ ∨ (state.dispatch settings stream).phase = _ :=
      phase_dispatch_cases stream
    rcases next_phase with ⟨fixing, next_phase⟩ | next_phase
    · have iterations_eq : (state.dispatch settings stream).iterations = state.iterations := rfl
      simp [stepsLeft, next_phase, phase_eq, fixing, iterations_eq]
    · cases fixing : state.fixing <;> simp [stepsLeft, next_phase, phase_eq, fixing]
  · have going := within (sound.applying record phase_eq).1
    have next_phase : (state.apply settings record).phase = .reading := rfl
    have iterations_eq : (state.apply settings record).iterations = state.iterations + 1 := rfl
    simp only [stepsLeft, next_phase, phase_eq, iterations_eq]
    split
    · omega
    · split <;> omega
  · rw [final] at unfinished
    cases unfinished

/-- Fixing stays switched off, and no more fixes are applied then. -/
theorem Sound.step_of_off (sound : state.Sound settings) (off : state.fixing = false)
    (stepped : state.step settings = .ok next) :
    next.fixing = false ∧ next.iterations = state.iterations := by
  rcases step_cases stepped with
    ⟨-, ⟨stream, -, rfl⟩ | ⟨error, -, ⟨-, rfl⟩ | ⟨-, rfl⟩⟩⟩ |
      ⟨stream, -, rfl⟩ | ⟨record, phase_eq, rfl⟩ | ⟨-, rfl⟩
  · exact ⟨off, rfl⟩
  · exact ⟨off, rfl⟩
  · exact ⟨rfl, rfl⟩
  · exact ⟨off, rfl⟩
  · rw [(sound.applying record phase_eq).1] at off
    cases off
  · exact ⟨off, rfl⟩

end Steps

section Runs

variable {settings : LintSettings} {state next : LoopState}

theorem after_succ {count : Nat} (reached : state.after settings (count + 1) = .ok next) :
    ∃ middle, state.step settings = .ok middle ∧ middle.after settings count = .ok next := by
  simp only [after, Except.bind] at reached
  split at reached
  · cases reached
  · rename_i middle stepped
    exact ⟨middle, stepped, reached⟩

theorem after_add {earlier : Nat} (later : Nat) {middle : LoopState}
    (reached : state.after settings earlier = .ok middle) :
    state.after settings (earlier + later) = middle.after settings later := by
  induction earlier generalizing state with
  | zero =>
      cases reached
      rw [Nat.zero_add]
  | succ earlier ih =>
      rcases after_succ reached with ⟨first, stepped, rest⟩
      rw [Nat.succ_add, after, stepped]
      exact ih rest

theorem step_of_final (final : state.phase.isFinal = true) : state.step settings = .ok state := by
  cases phase_eq : state.phase with
  | done last => simp only [step, phase_eq]
  | failed error => simp only [step, phase_eq]
  | _ =>
      rw [phase_eq] at final
      cases final

theorem after_of_final (final : state.phase.isFinal = true) (count : Nat) :
    state.after settings count = .ok state := by
  induction count with
  | zero => rfl
  | succ count ih =>
      rw [after, step_of_final final]
      exact ih

/-- A machine that stops gets there from every state on the way. -/
theorem exists_after_of_final {steps count : Nat} {final middle : LoopState}
    (reached : state.after settings steps = .ok final) (stopped : final.phase.isFinal = true)
    (between : state.after settings count = .ok middle) :
    ∃ rest, middle.after settings rest = .ok final := by
  rcases Nat.le_total count steps with early | late
  · rw [← Nat.add_sub_cancel' early, after_add _ between] at reached
    exact ⟨steps - count, reached⟩
  · rw [← Nat.add_sub_cancel' late, after_add _ reached, after_of_final stopped] at between
    cases between
    exact ⟨0, rfl⟩

theorem Sound.after (sound : state.Sound settings) {count : Nat}
    (reached : state.after settings count = .ok next) : next.Sound settings := by
  induction count generalizing state with
  | zero =>
      cases reached
      exact sound
  | succ count ih =>
      rcases after_succ reached with ⟨middle, stepped, rest⟩
      exact ih (sound.step stepped) rest

theorem Sound.after_of_off (sound : state.Sound settings) (off : state.fixing = false)
    {count : Nat} (reached : state.after settings count = .ok next) :
    next.iterations = state.iterations := by
  induction count generalizing state with
  | zero =>
      cases reached
      rfl
  | succ count ih =>
      rcases after_succ reached with ⟨middle, stepped, rest⟩
      rcases sound.step_of_off off stepped with ⟨stillOff, iterations_eq⟩
      rw [ih (sound.step stepped) stillOff rest, iterations_eq]

theorem ahead_le (phase : LoopPhase) : ahead phase ≤ 1 := by
  cases phase <;> simp [ahead]

/-- Once fixing is switched off there is at most one more pass. -/
theorem Sound.length_records_le (sound : state.Sound settings) (off : state.fixing = false)
    {count : Nat} (reached : state.after settings count = .ok next) :
    next.records.length ≤ state.records.length + 1 := by
  have ahead := ahead_le next.phase
  rw [(sound.after reached).counted, sound.counted, sound.after_of_off off reached]
  omega

theorem iterations_step (stepped : state.step settings = .ok next) :
    next.iterations = state.iterations + (match state.phase with
      | .applying _ => 1
      | _ => 0) := by
  rcases step_cases stepped with
    ⟨phase_eq, ⟨stream, -, rfl⟩ | ⟨error, -, ⟨-, rfl⟩ | ⟨-, rfl⟩⟩⟩ |
      ⟨stream, phase_eq, rfl⟩ | ⟨record, phase_eq, rfl⟩ | ⟨final, rfl⟩
  · rw [phase_eq]
    rfl
  · rw [phase_eq]
    rfl
  · rw [phase_eq]
    rfl
  · rw [phase_eq]
    rfl
  · rw [phase_eq]
    rfl
  · cases phase_eq : next.phase with
    | applying record =>
        rw [phase_eq] at final
        cases final
    | _ => rfl

/-- The count of the machine is that of the steps that apply fixes. -/
theorem iterations_after {count : Nat} (reached : state.after settings count = .ok next) :
    next.iterations = state.iterations + state.applications settings count := by
  induction count generalizing state with
  | zero =>
      cases reached
      rfl
  | succ count ih =>
      rcases after_succ reached with ⟨middle, stepped, rest⟩
      rw [ih rest, iterations_step stepped, applications, stepped, Nat.add_assoc]

/-- The sources that the machine meets have no cast that no rewriting knows. -/
def Readable (settings : LintSettings) (state : LoopState) : Prop :=
  ∀ count met, state.after settings count = .ok met →
    ∀ name, tokenize met.current ≠ .error (.unknownCast name)

theorem Readable.step (readable : state.Readable settings)
    (stepped : state.step settings = .ok next) : next.Readable settings := by
  intro count met reached
  apply readable (count + 1) met
  rw [after, stepped]
  exact reached

/-- The sources of a machine that stops are those that it met on the way. -/
theorem readable_of_final {steps : Nat}
    (stops : ((state.after settings steps).toOption.map fun final => final.phase.isFinal) =
      some true)
    (reads : ∀ count ≤ steps, (state.after settings count).toOption.all
      (fun met => (tokenize met.current).isOk) = true) : state.Readable settings := by
  intro count met reached name unknown
  cases finished : state.after settings steps with
  | error fault =>
      rw [finished] at stops
      cases stops
  | ok final =>
      rw [finished] at stops
      have readMet : (tokenize met.current).isOk = true := by
        rcases Nat.le_total count steps with early | late
        · have read := reads count early
          rw [reached] at read
          exact read
        · rw [← Nat.add_sub_cancel' late, after_add _ finished,
            after_of_final (Option.some.inj stops)] at reached
          cases reached
          have read := reads steps (Nat.le_refl _)
          rw [finished] at read
          exact read
      rw [unknown] at readMet
      cases readMet

/-- A machine that can read what it meets stops, within its measure. -/
theorem Sound.exists_final (sound : state.Sound settings) (readable : state.Readable settings) :
    ∃ steps final, steps ≤ state.stepsLeft settings ∧ state.after settings steps = .ok final ∧
      final.phase.isFinal = true := by
  induction bound : state.stepsLeft settings using Nat.strongRecOn generalizing state with
  | ind bound ih =>
      cases final : state.phase.isFinal with
      | true => exact ⟨0, state, Nat.zero_le _, rfl, final⟩
      | false =>
          rcases exists_step (readable 0 state rfl) with ⟨next, stepped⟩
          have smaller := sound.stepsLeft_lt final stepped
          rw [bound] at smaller
          rcases ih _ smaller (sound.step stepped) (readable.step stepped) rfl with
            ⟨steps, last, within, reached, stopped⟩
          refine ⟨steps + 1, last, by omega, ?_, stopped⟩
          rw [LoopState.after, stepped]
          exact reached

theorem stepsLeft_start_le (dispatcher : Dispatcher) (fix : Bool) (source : String) :
    (start dispatcher fix source).stepsLeft settings ≤ 3 * settings.maxIterations + 3 := by
  cases fix with
  | true => simp [stepsLeft, start]
  | false =>
      have left_le : (start dispatcher false source).stepsLeft settings ≤ 3 := by
        cases readable : (tokenize source).isOk <;> simp [stepsLeft, start, readable]
      omega

end Runs

end LoopState

end TokenLint
