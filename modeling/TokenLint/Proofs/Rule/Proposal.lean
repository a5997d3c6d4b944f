import TokenLint.Proofs.Fix.Ledger
import TokenLint.Rule.Basic

/-!
# Programs that propose fixes

The built-in rules use little of what a program may do. They report, and where they are
asked to fix a problem they make the edits of one batch and end with the answer that they
give otherwise. `RuleProgram.Proposes` is this form, and the lemmas on `run` say all that
such a batch does to a pass.
-/

namespace TokenLint

namespace RuleProgram

/-- The associativity of one program after another. -/
theorem bind_assoc {α β γ : Type} (program : RuleProgram α) (first : α → RuleProgram β)
    (second : β → RuleProgram γ) :
    (program.bind first).bind second = program.bind fun result => (first result).bind second := by
  induction program with
  | done result => rfl
  | fail fault => rfl
  | report made next ih => exact congrArg (RuleProgram.report made) (funext ih)
  | begin next ih => exact congrArg RuleProgram.begin ih
  | finish next ih => exact congrArg RuleProgram.finish (funext ih)
  | rollback next ih => exact congrArg RuleProgram.rollback ih
  | edit place index text next ih => exact congrArg (RuleProgram.edit place index text) (funext ih)
  | inspect next ih => exact congrArg RuleProgram.inspect (funext ih)
  | consult next ih => exact congrArg RuleProgram.consult (funext ih)
  | remember memory next ih => exact congrArg (RuleProgram.remember memory) ih

/-- A program that only makes reports and, where it is asked to fix one, ends with a batch of edits
that is allowed. -/
inductive Proposes (allowed : List Edit → Prop) : RuleProgram (Option Int) → Prop where
  | done (answer : Option Int) : Proposes allowed (.done answer)
  | fail (fault : RuleFault) : Proposes allowed (.fail fault)
  | report {made : Report} {next : Bool → RuleProgram (Option Int)}
      (unfixable : made.fixable = false) (rest : Proposes allowed (next false)) :
      Proposes allowed (.report made next)
  | changeset {made : Report} {next : Bool → RuleProgram (Option Int)} {edits : List Edit}
      (answer : Option Int) (batch : allowed edits)
      (fix : next true = (changeTogether edits).bind fun _ => .done answer)
      (leave : next false = .done answer) : Proposes allowed (.report made next)
  | replacement {made : Report} {next : Bool → RuleProgram (Option Int)} {index : Nat}
      {text : String} (answer : Option Int) (batch : allowed [⟨.replace, index, text⟩])
      (fix : next true = .edit .replace index text fun _ => .done answer)
      (leave : next false = .done answer) : Proposes allowed (.report made next)

namespace Proposes

variable {allowed : List Edit → Prop} {program : RuleProgram (Option Int)}

/-- The answer of a program may be exchanged for another one. -/
theorem bind_done (proposes : program.Proposes allowed) (answer : Option Int) :
    (program.bind fun _ => .done answer).Proposes allowed := by
  induction proposes with
  | done _ => exact .done answer
  | fail fault => exact .fail fault
  | report unfixable _ ih => exact .report unfixable ih
  | changeset _ batch fix leave =>
      refine .changeset answer batch ?_ ?_
      · rw [fix, bind_assoc]
        rfl
      · rw [leave]
        rfl
  | replacement _ batch fix leave =>
      refine .replacement answer batch ?_ ?_
      · rw [fix]
        rfl
      · rw [leave]
        rfl

theorem reportAll {reports : List Report}
    (unfixable : ∀ made ∈ reports, made.fixable = false) :
    (Rule.reportAll reports).Proposes allowed := by
  induction reports with
  | nil => exact .done none
  | cons first rest ih =>
      exact .report (unfixable first (List.mem_cons_self ..)) (ih fun made member =>
        unfixable made (List.mem_cons_of_mem _ member))

theorem reportAndFix (made : Report) {edits : List Edit} (batch : allowed edits) :
    (Rule.reportAndFix made edits).Proposes allowed :=
  .changeset none batch rfl rfl

theorem reportAndReplace (made : Report) {index : Nat} {text : String}
    (batch : allowed [⟨.replace, index, text⟩]) :
    (Rule.reportAndReplace made index text).Proposes allowed :=
  .replacement none batch rfl rfl

end Proposes

theorem run_report_ok {α : Type} {ruleId : String} {made : Report} {next : Bool → RuleProgram α}
    {state : RuleState} {pass : Pass} {fixNow : Bool}
    (reported : state.pass.report ruleId made = .ok (pass, fixNow)) :
    (RuleProgram.report made next).run ruleId state =
      (next fixNow).run ruleId { state with pass } := by
  simp only [run, reported]

theorem run_report_error {α : Type} {ruleId : String} {made : Report}
    {next : Bool → RuleProgram α} {state : RuleState} {error : TemplateError}
    (failed : state.pass.report ruleId made = .error error) :
    (RuleProgram.report made next).run ruleId state = ⟨state, .error (.template error)⟩ := by
  simp only [run, failed]

/-- Edits inside an open changeset are staged behind the ones before them. -/
theorem run_changeAll {α : Type} {ruleId : String} {next : Unit → RuleProgram α}
    {state : RuleState} {edits : List Edit} (staged : List Edit)
    (inRange : ∀ edit ∈ edits, edit.index < state.pass.ledger.size)
    (opened : state.pass.ledger.staged = some staged) :
    ((changeAll edits).bind next).run ruleId state =
      (next ()).run ruleId { state with
        pass := { state.pass with
          ledger := { state.pass.ledger with staged := some (staged ++ edits) } } } := by
  induction edits generalizing state staged with
  | nil =>
      rw [List.append_nil, ← opened]
      rfl
  | cons edit rest ih =>
      have inside : (0 : Int) ≤ edit.index ∧ (edit.index : Int) < state.pass.ledger.size := by
        have := inRange edit (List.mem_cons_self ..)
        omega
      simp only [changeAll, bind, run, Ledger.edit, inside, and_self, if_true, opened, Pass.take,
        Pass.settle, Int.toNat_natCast]
      rw [ih (staged ++ [edit])]
      · simp
      · intro other member
        exact inRange other (List.mem_cons_of_mem _ member)
      · rfl

/-- A changeset of edits in range commits them as one batch, bound to the report on offer. -/
theorem run_changeTogether {α : Type} {ruleId : String} {next : Unit → RuleProgram α}
    {state : RuleState} {edits : List Edit}
    (inRange : ∀ edit ∈ edits, edit.index < state.pass.ledger.size)
    (closed : state.pass.ledger.staged = none) :
    ((changeTogether edits).bind next).run ruleId state =
      (next ()).run ruleId { state with
        pass := state.pass.take
          (state.pass.ledger.rollback.clearOffer.commit edits state.pass.ledger.offered) } := by
  have opened : state.pass.ledger.begin = .ok { state.pass.ledger with
      staged := some [], bound := state.pass.ledger.offered, offered := none } := by
    simp [Ledger.begin, Ledger.inChangeset, closed]
  simp only [changeTogether, bind, run, opened, bind_assoc]
  refine (run_changeAll [] ?_ rfl).trans rfl
  exact inRange

/-- A replacement in range outside a changeset commits it as a batch of its own. -/
theorem run_replacement {α : Type} {ruleId : String} {next : Bool → RuleProgram α}
    {state : RuleState} {index : Nat} {text : String}
    (inRange : index < state.pass.ledger.size) (closed : state.pass.ledger.staged = none) :
    (edit .replace index text next).run ruleId state =
      let commitment := state.pass.ledger.commit [⟨.replace, index, text⟩] state.pass.ledger.offered
      (next commitment.accepted).run ruleId { state with pass := state.pass.take commitment } := by
  have inside : (0 : Int) ≤ index ∧ (index : Int) < state.pass.ledger.size := by omega
  simp only [run, Ledger.edit, inside, and_self, if_true, closed, Int.toNat_natCast]

end RuleProgram

end TokenLint
