import TokenLint.Proofs.Fix.Ledger
import TokenLint.Proofs.Run.Events
import Mathlib.Data.List.Induction

/-!
# Fixes and their reports

A report that a rule may fix is offered to the ledger, the next changeset is bound to it, and its
commit marks it. Whatever rules do, a report is marked only in the call that made it: what is on
offer or bound is a report of the call at hand, and a call is left with nothing on offer and
nothing open. `Pass.Binding` says so after any number of events of a log. It follows from what one
event can do to the reports and to those that are pending.
-/

namespace TokenLint

namespace Ledger

variable (ledger : Ledger)

/-- Whether a report is on offer or bound to the open changeset. -/
def Pending (number : Nat) : Prop :=
  ∃ offer, (ledger.offered = some offer ∨ ledger.bound = some offer) ∧ offer.report = number

theorem openOffer_eq_some {offer : Option Offer} {bound : Offer}
    (opened : ledger.openOffer offer = some bound) :
    offer = some bound ∧ bound.report ∉ ledger.fixed := by
  rcases Option.filter_eq_some_iff.mp opened with ⟨eq, unfixed⟩
  exact ⟨eq, by simpa using unfixed⟩

/-- A commit opens, closes, offers and binds nothing. -/
theorem open_commit (edits : List Edit) (offer : Option Offer) :
    (ledger.commit edits offer).ledger.staged = ledger.staged ∧
      (ledger.commit edits offer).ledger.offered = ledger.offered ∧
      (ledger.commit edits offer).ledger.bound = ledger.bound := by
  by_cases empty : edits = []
  · subst empty
    exact ⟨rfl, rfl, rfl⟩
  · by_cases noClash : ledger.clashing edits = []
    · rw [ledger.commit_of_clear offer empty noClash]
      exact ⟨rfl, rfl, rfl⟩
    · rw [ledger.commit_of_clash offer noClash]
      exact ⟨rfl, rfl, rfl⟩

/-- A commit says nothing of any report, or it fixes the report that it is bound to or finds it in
conflict, and then the report was not fixed before. -/
theorem commit_cases (edits : List Edit) (offer : Option Offer) :
    ((ledger.commit edits offer).verdict = .nothing ∧
        (ledger.commit edits offer).ledger.fixed = ledger.fixed) ∨
      ∃ bound, offer = some bound ∧ bound.report ∉ ledger.fixed ∧
        (((ledger.commit edits offer).verdict = .fixed bound.report ∧
            (ledger.commit edits offer).ledger.fixed = ledger.fixed ++ [bound.report]) ∨
          ∃ conflict, (ledger.commit edits offer).verdict = .conflicted bound.report conflict ∧
            (ledger.commit edits offer).ledger.fixed = ledger.fixed) := by
  by_cases empty : edits = []
  · subst empty
    exact .inl ⟨rfl, rfl⟩
  · by_cases noClash : ledger.clashing edits = []
    · rw [ledger.commit_of_clear offer empty noClash]
      cases opened : ledger.openOffer offer with
      | none => exact .inl ⟨rfl, List.append_nil _⟩
      | some bound =>
          rcases ledger.openOffer_eq_some opened with ⟨eq, unfixed⟩
          exact .inr ⟨bound, eq, unfixed, .inl ⟨rfl, rfl⟩⟩
    · rw [ledger.commit_of_clash offer noClash]
      cases opened : ledger.openOffer offer with
      | none => exact .inl ⟨rfl, rfl⟩
      | some bound =>
          rcases ledger.openOffer_eq_some opened with ⟨eq, unfixed⟩
          exact .inr ⟨bound, eq, unfixed, .inr ⟨_, rfl, rfl⟩⟩

end Ledger

namespace Pass

/-- What an event can do to the reports of a pass and to the list of those that are fixed: nothing,
add a report, or mark a pending one that is not fixed. -/
inductive Effect (pass : Pass) (event : PassEvent) (after : Pass) : Prop where
  | none (reports_eq : after.reports = pass.reports)
      (fixed_eq : after.ledger.fixed = pass.ledger.fixed)
  | made (diagnostic : Diagnostic) (unfixed : diagnostic.fixState = .unfixed)
      (reports_eq : after.reports = pass.reports.push diagnostic)
      (fixed_eq : after.ledger.fixed = pass.ledger.fixed)
  | fixed (number : Nat) (acts : event.isAction = true) (pending : pass.ledger.Pending number)
      (unfixed : number ∉ pass.ledger.fixed)
      (reports_eq : after.reports = pass.reports.modify number fun diagnostic =>
        { diagnostic with fixState := .fixed })
      (fixed_eq : after.ledger.fixed = pass.ledger.fixed ++ [number])
  | conflicted (number : Nat) (acts : event.isAction = true)
      (pending : pass.ledger.Pending number) (unfixed : number ∉ pass.ledger.fixed)
      (note : String)
      (reports_eq : after.reports = pass.reports.modify number fun diagnostic =>
        { diagnostic with fixState := .conflicted, note := some note })
      (fixed_eq : after.ledger.fixed = pass.ledger.fixed)

variable (pass : Pass)

/-- Only the reports and the list of those that are fixed matter. -/
theorem Effect.congr {pass after other : Pass} {event : PassEvent}
    (effect : pass.Effect event after) (reports_eq : other.reports = after.reports)
    (fixed_eq : other.ledger.fixed = after.ledger.fixed) : pass.Effect event other := by
  cases effect with
  | none reports fixed => exact .none (reports_eq.trans reports) (fixed_eq.trans fixed)
  | made diagnostic unfixed reports fixed =>
      exact .made diagnostic unfixed (reports_eq.trans reports) (fixed_eq.trans fixed)
  | fixed number acts pending unfixed reports more =>
      exact .fixed number acts pending unfixed (reports_eq.trans reports) (fixed_eq.trans more)
  | conflicted number acts pending unfixed note reports fixed =>
      exact .conflicted number acts pending unfixed note (reports_eq.trans reports)
        (fixed_eq.trans fixed)

theorem effect_take {event : PassEvent} (ledger : Ledger) (edits : List Edit)
    {offer : Option Offer} (acts : event.isAction = true)
    (pending : ∀ bound, offer = some bound → pass.ledger.Pending bound.report)
    (fixed_eq : ledger.fixed = pass.ledger.fixed) :
    pass.Effect event (pass.take (ledger.commit edits offer)) := by
  rcases ledger.commit_cases edits offer with
    ⟨verdict_eq, same⟩ | ⟨bound, rfl, unfixed, ⟨verdict_eq, more⟩ | ⟨conflict, verdict_eq, same⟩⟩
  · apply Effect.none
    · simp only [take, settle, verdict_eq]
    · rw [ledger_take, same, fixed_eq]
  · rw [fixed_eq] at unfixed
    apply Effect.fixed bound.report acts (pending bound rfl) unfixed
    · simp only [take, settle, verdict_eq]
    · rw [ledger_take, more, fixed_eq]
  · rw [fixed_eq] at unfixed
    apply Effect.conflicted bound.report acts (pending bound rfl) unfixed conflict.message
    · simp only [take, settle, verdict_eq]
    · rw [ledger_take, same, fixed_eq]

theorem effect_accept (event : PassEvent) {before : Pass}
    (reports_eq : before.reports = pass.reports)
    (fixed_eq : before.ledger.fixed = pass.ledger.fixed) (key : ReportKey) (message : String)
    (severity : Severity) (fixable : Bool) :
    pass.Effect event (before.accept key message severity fixable).1 := by
  simp only [accept]
  split
  · exact .none reports_eq fixed_eq
  · exact .made _ rfl (by rw [reports_eq]) fixed_eq

/-- A report is accepted, and put on offer if it is new, can be fixed and the pass is fixing. -/
theorem report_cases {ruleId : String} {made : Report} {after : Pass} {fixNow : Bool}
    (reported : pass.report ruleId made = .ok (after, fixNow)) :
    ∃ message, let key : ReportKey := ⟨ruleId ++ "." ++ made.shortCode, made.index, ""⟩
      let accepted := (pass.accept key message made.severity made.fixable).1
      (fixNow = false ∧ after = accepted) ∨
        (fixNow = true ∧ key ∉ pass.seen ∧ after = { accepted with
          ledger := accepted.ledger.offer ⟨pass.reports.size, key.code⟩ }) := by
  simp only [report, bind, Except.bind, pure, Except.pure] at reported
  split at reported
  · cases reported
  · rename_i message rendered
    refine ⟨message, ?_⟩
    simp only [accept] at reported ⊢
    split at reported
    · rename_i next outcome
      cases reported
      refine .inl ⟨rfl, ?_⟩
      rw [outcome]
    · rename_i next number outcome
      by_cases known : pass.seen.contains
          ⟨ruleId ++ "." ++ made.shortCode, made.index, ""⟩ = true
      · rw [if_pos known] at outcome
        cases outcome
      · rw [if_neg known] at outcome ⊢
        cases outcome
        split at reported
        · cases reported
          exact .inr ⟨rfl, by simpa using known, rfl⟩
        · cases reported
          exact .inl ⟨rfl, rfl⟩

theorem effect_next (event : PassEvent) : pass.Effect event (pass.next event) := by
  cases event with
  | enter call => exact .none rfl rfl
  | report ruleId made =>
      simp only [next]
      split
      · rename_i after fixNow reported
        rcases pass.report_cases reported with ⟨message, ⟨-, rfl⟩ | ⟨-, fresh, rfl⟩⟩
        · exact pass.effect_accept _ rfl rfl _ _ _ _
        · exact (pass.effect_accept _ rfl rfl _ _ _ _).congr rfl rfl
      · exact .none rfl rfl
  | begin =>
      simp only [next]
      split
      · rename_i opened began
        rw [(pass.ledger.eq_of_begin began).2]
        exact .none rfl rfl
      · exact .none rfl rfl
  | finish =>
      simp only [next]
      split
      · rename_i commitment closed
        rcases pass.ledger.eq_commit_of_finish closed with ⟨edits, -, rfl⟩
        apply pass.effect_take pass.ledger.rollback edits rfl _ rfl
        exact fun bound eq => ⟨bound, .inr eq, rfl⟩
      · exact .none rfl rfl
  | rollback => exact .none rfl rfl
  | edit place index text =>
      simp only [next]
      split
      · rename_i commitment edited
        rcases (pass.ledger.eq_of_edit edited).2 with ⟨edits, -, rfl⟩ | ⟨-, rfl⟩
        · exact .none rfl rfl
        · apply pass.effect_take pass.ledger _ rfl _ rfl
          exact fun bound eq => ⟨bound, .inl eq, rfl⟩
      · exact .none rfl rfl
  | leave failure =>
      cases failure with
      | none => exact .none rfl rfl
      | some failure =>
          have reports_eq : pass.betweenCalls.reports = pass.reports := rfl
          exact pass.effect_accept _ reports_eq rfl _ _ _ _

theorem size_accept {key : ReportKey} (fresh : key ∉ pass.seen) (message : String)
    (severity : Severity) (fixable : Bool) :
    (pass.accept key message severity fixable).1.reports.size = pass.reports.size + 1 := by
  have unknown : ¬pass.seen.contains key = true := by simpa using fresh
  simp only [accept, if_neg unknown, Array.size_push]

/-- What an operation can do to the offer and the changeset of a pass: keep them, offer the report
that it makes, open a changeset bound to the offer, or close the changeset. -/
inductive Turn (pass : Pass) (event : PassEvent) (after : Pass) : Prop where
  | kept (offered_eq : after.ledger.offered = pass.ledger.offered)
      (bound_eq : after.ledger.bound = pass.ledger.bound)
      (staged_eq : after.ledger.staged.isSome = pass.ledger.staged.isSome)
  | offered (offer : Offer) (number_eq : offer.report = pass.reports.size)
      (size_eq : after.reports.size = pass.reports.size + 1)
      (offered_eq : after.ledger.offered = some offer)
      (bound_eq : after.ledger.bound = pass.ledger.bound)
      (staged_eq : after.ledger.staged = pass.ledger.staged)
  | opened (event_eq : event = .begin) (closed : pass.ledger.staged = none)
      (offered_eq : after.ledger.offered = none)
      (bound_eq : after.ledger.bound = pass.ledger.offered)
      (staged_eq : after.ledger.staged = some [])
  | closed (offered_eq : after.ledger.offered = pass.ledger.offered)
      (bound_eq : after.ledger.bound = none) (staged_eq : after.ledger.staged = none)

theorem turn_next {event : PassEvent} (acts : event.isAction = true) :
    pass.Turn event (pass.next event) := by
  cases event with
  | enter call => cases acts
  | leave failure => cases acts
  | rollback => exact .closed rfl rfl rfl
  | report ruleId made =>
      simp only [next]
      split
      · rename_i after fixNow reported
        rcases pass.report_cases reported with ⟨message, ⟨-, rfl⟩ | ⟨-, fresh, rfl⟩⟩
        · apply Turn.kept <;> rw [ledger_accept]
        · refine .offered ⟨pass.reports.size, _⟩ rfl ?_ rfl ?_ ?_
          · exact pass.size_accept fresh _ _ _
          · simp only [Ledger.offer, ledger_accept]
          · simp only [Ledger.offer, ledger_accept]
      · exact .kept rfl rfl rfl
  | begin =>
      simp only [next]
      split
      · rename_i opened began
        rcases pass.ledger.eq_of_begin began with ⟨closed, rfl⟩
        exact .opened rfl closed rfl rfl rfl
      · exact .kept rfl rfl rfl
  | finish =>
      simp only [next]
      split
      · rename_i commitment closed
        rcases pass.ledger.eq_commit_of_finish closed with ⟨edits, -, rfl⟩
        rcases pass.ledger.rollback.open_commit edits pass.ledger.bound with
          ⟨staged_eq, offered_eq, bound_eq⟩
        apply Turn.closed <;> rw [ledger_take]
        · exact offered_eq
        · exact bound_eq
        · exact staged_eq
      · exact .kept rfl rfl rfl
  | edit place index text =>
      simp only [next]
      split
      · rename_i commitment edited
        rcases (pass.ledger.eq_of_edit edited).2 with ⟨edits, staged, rfl⟩ | ⟨-, rfl⟩
        · apply Turn.kept <;> rw [ledger_take]
          rw [staged]
          rfl
        · rcases pass.ledger.open_commit [⟨place, index.toNat, text⟩] pass.ledger.offered with
            ⟨staged_eq, offered_eq, bound_eq⟩
          apply Turn.kept <;> rw [ledger_take]
          · exact offered_eq
          · exact bound_eq
          · rw [staged_eq]
      · exact .kept rfl rfl rfl

end Pass

/-- What holds of a pass after any number of events, with the number of reports that there were when
the call at hand was entered, if one is. -/
structure Pass.Binding (entry : Option Nat) (pass : Pass) : Prop where
  pending : ∀ number, pass.ledger.Pending number →
    ∃ base, entry = some base ∧ base ≤ number ∧ number < pass.reports.size
  entered : ∀ base, entry = some base → base ≤ pass.reports.size
  closed : entry = none → pass.ledger.staged = none
  unbound : pass.ledger.staged = none → pass.ledger.bound = none
  fixed_iff : ∀ number, number ∈ pass.ledger.fixed ↔
    pass.reports[number]?.map Diagnostic.fixState = some .fixed
  nodup : pass.ledger.fixed.Nodup

namespace Pass

variable {pass after : Pass} {event : PassEvent}

theorem Effect.size_le (effect : pass.Effect event after) :
    pass.reports.size ≤ after.reports.size := by
  cases effect with
  | none reports_eq => simp [reports_eq]
  | made diagnostic _ reports_eq => simp [reports_eq]
  | fixed number _ _ _ reports_eq => simp [reports_eq]
  | conflicted number _ _ _ note reports_eq => simp [reports_eq]

/-- The fixed reports are those listed as fixed, also after an event. -/
theorem Effect.fixed_iff (effect : pass.Effect event after)
    (inRange : ∀ number, pass.ledger.Pending number → number < pass.reports.size)
    (fixed_iff : ∀ number, number ∈ pass.ledger.fixed ↔
      pass.reports[number]?.map Diagnostic.fixState = some .fixed) (number : Nat) :
    number ∈ after.ledger.fixed ↔
      after.reports[number]?.map Diagnostic.fixState = some .fixed := by
  cases effect with
  | none reports_eq fixed_eq => rw [reports_eq, fixed_eq, fixed_iff]
  | made diagnostic unfixed reports_eq fixed_eq =>
      rw [reports_eq, fixed_eq, fixed_iff, Array.getElem?_push]
      split
      · rename_i new
        simp [new, unfixed]
      · rfl
  | fixed marked acts pending unfixed reports_eq fixed_eq =>
      have range := inRange marked pending
      rw [reports_eq, fixed_eq, List.mem_append, fixed_iff, List.mem_singleton,
        Array.getElem?_modify]
      split
      · rename_i same
        subst same
        simp [range]
      · rename_i other
        simp [Ne.symm other]
  | conflicted marked acts pending unfixed note reports_eq fixed_eq =>
      have range := inRange marked pending
      rw [reports_eq, fixed_eq, Array.getElem?_modify]
      split
      · rename_i same
        subst same
        simp [unfixed]
      · exact fixed_iff number

theorem Effect.nodup (effect : pass.Effect event after) (nodup : pass.ledger.fixed.Nodup) :
    after.ledger.fixed.Nodup := by
  cases effect with
  | none _ fixed_eq => rwa [fixed_eq]
  | made _ _ _ fixed_eq => rwa [fixed_eq]
  | fixed number _ _ unfixed _ fixed_eq =>
      rw [fixed_eq]
      refine List.nodup_append.mpr ⟨nodup, by simp, ?_⟩
      rintro other member _ only rfl
      rw [List.mem_singleton.mp only] at member
      exact unfixed member
  | conflicted _ _ _ _ _ _ fixed_eq => rwa [fixed_eq]

/-- An event that changes a report is an operation, and the report was pending and not fixed. -/
theorem Effect.of_changed (effect : pass.Effect event after) {number : Nat} {report : Diagnostic}
    (present : pass.reports[number]? = some report)
    (changed : after.reports[number]? ≠ some report) :
    event.isAction = true ∧ pass.ledger.Pending number ∧ number ∉ pass.ledger.fixed := by
  cases effect with
  | none reports_eq =>
      rw [reports_eq] at changed
      exact absurd present changed
  | made diagnostic _ reports_eq =>
      rw [reports_eq, Array.getElem?_push] at changed
      split at changed
      · rename_i new
        rw [new, Array.getElem?_size] at present
        cases present
      · exact absurd present changed
  | fixed marked acts pending unfixed reports_eq =>
      rw [reports_eq, Array.getElem?_modify] at changed
      split at changed
      · rename_i same
        subst same
        exact ⟨acts, pending, unfixed⟩
      · exact absurd present changed
  | conflicted marked acts pending unfixed note reports_eq =>
      rw [reports_eq, Array.getElem?_modify] at changed
      split at changed
      · rename_i same
        subst same
        exact ⟨acts, pending, unfixed⟩
      · exact absurd present changed

/-- What is pending after an operation was pending before, or is the report that it made. -/
theorem Turn.pending_cases (turn : pass.Turn event after) {number : Nat}
    (pending : after.ledger.Pending number) :
    pass.ledger.Pending number ∨
      number = pass.reports.size ∧ after.reports.size = pass.reports.size + 1 := by
  rcases pending with ⟨offer, open_eq, rfl⟩
  cases turn with
  | kept offered_eq bound_eq =>
      rw [offered_eq, bound_eq] at open_eq
      exact .inl ⟨offer, open_eq, rfl⟩
  | offered made number_eq size_eq offered_eq bound_eq =>
      rw [offered_eq, bound_eq] at open_eq
      rcases open_eq with same | bound
      · cases same
        exact .inr ⟨number_eq, size_eq⟩
      · exact .inl ⟨offer, .inr bound, rfl⟩
  | opened _ _ offered_eq bound_eq =>
      rw [offered_eq, bound_eq] at open_eq
      rcases open_eq with same | bound
      · cases same
      · exact .inl ⟨offer, .inl bound, rfl⟩
  | closed offered_eq bound_eq =>
      rw [offered_eq, bound_eq] at open_eq
      rcases open_eq with offered | same
      · exact .inl ⟨offer, .inl offered, rfl⟩
      · cases same

/-- Nothing is bound while no changeset is open, also after an operation. -/
theorem Turn.unbound (turn : pass.Turn event after)
    (unbound : pass.ledger.staged = none → pass.ledger.bound = none)
    (closed : after.ledger.staged = none) : after.ledger.bound = none := by
  cases turn with
  | kept _ bound_eq staged_eq =>
      rw [closed] at staged_eq
      rw [bound_eq]
      exact unbound (by simpa using staged_eq.symm)
  | offered _ _ _ _ bound_eq staged_eq =>
      rw [bound_eq]
      exact unbound (staged_eq ▸ closed)
  | opened _ _ _ _ staged_eq =>
      rw [closed] at staged_eq
      cases staged_eq
  | closed _ bound_eq => exact bound_eq

namespace Binding

variable {entry : Option Nat} {base : Nat}

theorem start (stream : TokenStream) (fixing : Bool) : (Pass.start stream fixing).Binding none where
  pending := by simp [Pass.start, Ledger.empty, Ledger.Pending]
  entered := by simp
  closed _ := rfl
  unbound _ := rfl
  fixed_iff := by simp [Pass.start, Ledger.empty]
  nodup := List.nodup_nil

theorem inRange (binding : pass.Binding entry) (number : Nat)
    (pending : pass.ledger.Pending number) : number < pass.reports.size := by
  rcases binding.pending number pending with ⟨_, -, -, range⟩
  exact range

/-- Between two calls nothing is on offer and nothing is open. -/
theorem settled (binding : pass.Binding none) :
    pass.ledger.staged = none ∧ pass.ledger.offered = none ∧ pass.ledger.bound = none := by
  have none_pending : ∀ number, ¬pass.ledger.Pending number := by
    intro number pending
    rcases binding.pending number pending with ⟨_, between, -⟩
    cases between
  have staged_eq := binding.closed rfl
  refine ⟨staged_eq, ?_, binding.unbound staged_eq⟩
  apply Option.eq_none_iff_forall_ne_some.mpr
  exact fun offer eq => none_pending _ ⟨offer, .inl eq, rfl⟩

theorem enter (binding : pass.Binding none) : pass.Binding (some pass.reports.size) where
  pending number pending := by
    rcases binding.pending number pending with ⟨_, between, -⟩
    cases between
  entered base eq := by
    cases eq
    exact Nat.le_refl _
  closed := nofun
  unbound := binding.unbound
  fixed_iff := binding.fixed_iff
  nodup := binding.nodup

theorem leave (binding : pass.Binding entry) (failure : Option RuleFailure) :
    (pass.next (.leave failure)).Binding none := by
  have effect := pass.effect_next (.leave failure)
  have ledger_eq : (pass.next (.leave failure)).ledger = pass.ledger.rollback.clearOffer := by
    cases failure with
    | none => rfl
    | some failure => exact ledger_accept _ _ _ _ _
  exact {
    pending := by
      rw [ledger_eq]
      simp [Ledger.Pending, Ledger.rollback, Ledger.clearOffer]
    entered := nofun
    closed := by
      rw [ledger_eq]
      exact fun _ => rfl
    unbound := by
      rw [ledger_eq]
      exact fun _ => rfl
    fixed_iff := effect.fixed_iff binding.inRange binding.fixed_iff
    nodup := effect.nodup binding.nodup }

/-- The operations of a call keep what is pending to the reports of the call. -/
theorem act (binding : pass.Binding (some base)) (acts : event.isAction = true) :
    (pass.next event).Binding (some base) := by
  have effect := pass.effect_next event
  have turn := pass.turn_next acts
  have entered := binding.entered base rfl
  exact {
    pending := by
      intro number pending
      refine ⟨base, rfl, ?_⟩
      rcases turn.pending_cases pending with earlier | ⟨rfl, size_eq⟩
      · rcases binding.pending number earlier with ⟨_, ⟨⟩, after, range⟩
        exact ⟨after, Nat.lt_of_lt_of_le range effect.size_le⟩
      · exact ⟨entered, by omega⟩
    entered := by
      rintro _ ⟨⟩
      exact Nat.le_trans entered effect.size_le
    closed := nofun
    unbound := turn.unbound binding.unbound
    fixed_iff := effect.fixed_iff binding.inRange binding.fixed_iff
    nodup := effect.nodup binding.nodup }

/-- After any number of events either no call is at hand, or one is, which was entered after some of
them, with operations only since then. -/
theorem replay_cases (binding : pass.Binding none) {before after : List PassEvent}
    (ordered : PassEvent.orderly false (before ++ after) = true) :
    ((pass.replay before).Binding none ∧ PassEvent.orderly false after = true) ∨
      PassEvent.orderly true after = true ∧ ∃ earlier call actions,
        before = earlier ++ .enter call :: actions ∧
        (∀ action ∈ actions, action.isAction = true) ∧
        (pass.replay before).Binding (some (pass.replay earlier).reports.size) := by
  induction before using List.reverseRecOn generalizing after with
  | nil => exact .inl ⟨binding, ordered⟩
  | append_singleton before event ih =>
      rw [List.append_assoc] at ordered
      rcases ih ordered with ⟨between, rest⟩ | ⟨rest, earlier, call, actions, rfl, acts, inCall⟩
      · rcases PassEvent.orderly_between rest with ⟨call, rfl, later⟩
        refine .inr ⟨later, before, call, [], rfl, by simp, ?_⟩
        rw [replay_append]
        exact between.enter
      · rcases PassEvent.orderly_inCall rest with ⟨act, later⟩ | ⟨failure, rfl, later⟩
        · refine .inr ⟨later, earlier, call, actions ++ [event], by simp, ?_, ?_⟩
          · intro action member
            rcases List.mem_append.mp member with among | last
            · exact acts action among
            · rw [List.mem_singleton.mp last]
              exact act
          · rw [replay_append _ (earlier ++ _)]
            exact inCall.act act
        · rw [replay_append]
          exact .inl ⟨inCall.leave failure, later⟩

theorem exists_replay (binding : pass.Binding none) {before after : List PassEvent}
    (ordered : PassEvent.orderly false (before ++ after) = true) :
    ∃ entry, (pass.replay before).Binding entry := by
  rcases binding.replay_cases ordered with ⟨reached, -⟩ | ⟨-, earlier, _, _, -, -, reached⟩
  · exact ⟨none, reached⟩
  · exact ⟨_, reached⟩

/-- A fixed report never changes again. -/
theorem replay_of_fixed (binding : pass.Binding none) {before middle after : List PassEvent}
    (ordered : PassEvent.orderly false (before ++ middle ++ after) = true) {number : Nat}
    {report : Diagnostic} (present : (pass.replay before).reports[number]? = some report)
    (fixed : report.fixState = .fixed) :
    (pass.replay (before ++ middle)).reports[number]? = some report := by
  induction middle using List.reverseRecOn generalizing after with
  | nil => rwa [List.append_nil]
  | append_singleton middle event ih =>
      have earlier : PassEvent.orderly false (before ++ middle ++ ([event] ++ after)) = true := by
        simpa using ordered
      have still := ih earlier
      rcases binding.exists_replay earlier with ⟨entry, reached⟩
      apply Classical.byContradiction
      intro changed
      rw [← List.append_assoc, replay_append] at changed
      have unlisted := ((effect_next _ event).of_changed still changed).2.2
      apply unlisted
      rw [reached.fixed_iff, still]
      exact congrArg some fixed

end Binding

end Pass

end TokenLint
