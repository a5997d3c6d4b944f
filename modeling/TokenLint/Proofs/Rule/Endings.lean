import TokenLint.Proofs.Rule.LongInteger
import TokenLint.Proofs.Rule.Rendering
import TokenLint.Proofs.Run.Commits
import TokenLint.Proofs.Run.Remarks

/-!
# How calls of the built-in rules end

A program that proposes fixes ends in every pass as it does where it only reports. Without options,
each built-in rule but one ends with an answer on every token; the one that compares the keys of an
array literal fails at the first key that is an integer too long to be read.
-/

namespace TokenLint

/-- A report is made in some way if its message can be rendered, and fails alike if not. -/
theorem Pass.report_of_remark (pass : Pass) (made : Report) (ruleId : String) :
    match made.remark ruleId with
    | .ok _ => ∃ after fixNow, pass.report ruleId made = .ok (after, fixNow)
    | .error error => pass.report ruleId made = .error error := by
  simp only [Report.remark, Pass.report]
  cases renderTemplate made.template made.arguments with
  | error error => rfl
  | ok message =>
      simp only [Except.map, bind, Except.bind, pure, Except.pure]
      split
      · exact ⟨_, _, rfl⟩
      · split
        · exact ⟨_, _, rfl⟩
        · exact ⟨_, _, rfl⟩

namespace RuleProgram

/-- Whether a program that is never asked to fix does nothing but report, and ends with a result. -/
def Ends (ruleId : String) (result : Except RuleFault (Option Int))
    (program : RuleProgram (Option Int)) : Prop :=
  ∃ remarks, program.speech? ruleId = some ⟨remarks, result⟩

variable {ruleId : String} {result : Except RuleFault (Option Int)} {made : Report}

theorem Ends.done (answer : Option Int) : (done answer).Ends ruleId (.ok answer) := ⟨[], rfl⟩

theorem Ends.fail (fault : RuleFault) : (fail fault).Ends ruleId (.error fault) := ⟨[], rfl⟩

theorem Ends.report {next : Bool → RuleProgram (Option Int)} (renders : made.Renders)
    (rest : (next false).Ends ruleId result) : (report made next).Ends ruleId result := by
  rcases renders with ⟨message, rendered⟩
  rcases rest with ⟨remarks, spoken⟩
  exact ⟨_, by rw [speech?, Report.remark, rendered, spoken]; rfl⟩

theorem Ends.reportAll {reports : List Report} (renders : ∀ made ∈ reports, made.Renders) :
    (Rule.reportAll reports).Ends ruleId (.ok none) := by
  induction reports with
  | nil => exact .done none
  | cons first rest ih =>
      exact .report (renders first (List.mem_cons_self ..)) (ih fun made member =>
        renders made (List.mem_cons_of_mem _ member))

theorem Ends.reportAndFix (renders : made.Renders) (edits : List Edit) :
    (Rule.reportAndFix made edits).Ends ruleId (.ok none) :=
  .report renders (.done none)

theorem Ends.reportAndReplace (renders : made.Renders) (index : Nat) (text : String) :
    (Rule.reportAndReplace made index text).Ends ruleId (.ok none) :=
  .report renders (.done none)

/-- How a report is gone on with is decided by what follows it, asked to fix or not. -/
theorem result_run_report {stream : TokenStream} {next : Bool → RuleProgram (Option Int)}
    {pass : Pass} {memory : Memory} (ends : (report made next).Ends ruleId result)
    (keeps : pass.Keeps stream fun _ => True)
    (rest : ∀ (after : Pass) (fixNow : Bool), after.Keeps stream (fun _ => True) →
      (fixNow = true → made.fixable = true) → (next false).Ends ruleId result →
        ((next fixNow).run ruleId ⟨after, memory⟩).result = result) :
    ((report made next).run ruleId ⟨pass, memory⟩).result = result := by
  have reported := pass.report_of_remark made ruleId
  rcases ends with ⟨remarks, spoken⟩
  simp only [speech?] at spoken
  split at spoken
  · rename_i remark rendered
    rw [rendered] at reported
    rcases reported with ⟨after, fixNow, reported⟩
    rcases keeps.report reported with ⟨keeps, fixable⟩
    rcases Option.map_eq_some_iff.mp spoken with ⟨others, restSpoken, same⟩
    cases same
    rw [run_report_ok reported]
    exact rest after fixNow keeps fixable ⟨others.remarks, restSpoken⟩
  · rename_i error failed
    rw [failed] at reported
    cases spoken
    rw [run_report_error reported]

theorem Ends.eq {program : RuleProgram (Option Int)} {other : Except RuleFault (Option Int)}
    (ends : program.Ends ruleId result) (also : program.Ends ruleId other) : result = other := by
  rcases ends with ⟨remarks, spoken⟩
  rcases also with ⟨others, alike⟩
  rw [spoken] at alike
  cases alike
  rfl

/-- How a program that proposes fixes ends does not depend on the pass. -/
theorem Proposes.result_run {stream : TokenStream} {allowed : List Edit → Prop}
    {program : RuleProgram (Option Int)} {pass : Pass} (proposes : program.Proposes allowed)
    (covered : ∀ edits, allowed edits → stream.Covers edits) (ends : program.Ends ruleId result)
    (keeps : pass.Keeps stream fun _ => True) (memory : Memory) :
    (program.run ruleId ⟨pass, memory⟩).result = result := by
  induction proposes generalizing pass with
  | done answer => exact (ends.eq (Ends.done answer)).symm
  | fail fault => exact (ends.eq (Ends.fail fault)).symm
  | report unfixable _ ih =>
      refine result_run_report ends keeps fun after fixNow keeps fixable restEnds => ?_
      cases fixNow with
      | false => exact ih restEnds keeps
      | true =>
          rw [fixable rfl] at unfixable
          cases unfixable
  | changeset answer batch fix leave =>
      refine result_run_report ends keeps fun after fixNow keeps _ restEnds => ?_
      rw [leave] at restEnds
      cases restEnds.eq (Ends.done answer)
      cases fixNow with
      | false =>
          rw [leave]
          rfl
      | true =>
          rw [fix, run_changeTogether (fun edit member =>
            keeps.size_eq ▸ covered _ batch edit member) keeps.closed]
          rfl
  | replacement answer batch fix leave =>
      refine result_run_report ends keeps fun after fixNow keeps _ restEnds => ?_
      rw [leave] at restEnds
      cases restEnds.eq (Ends.done answer)
      cases fixNow with
      | false =>
          rw [leave]
          rfl
      | true =>
          rw [fix, run_replacement (keeps.size_eq ▸ covered _ batch _ (List.mem_singleton_self _))
            keeps.closed]
          rfl

end RuleProgram

/-- The number of digits of a key that cannot be read. -/
def ArrayKey.unread? : Except Nat ArrayKey → Option Nat
  | .error digits => some digits
  | .ok _ => none

namespace TokenStream

variable (stream : TokenStream) (index : Nat)

/-- The number of digits of the first key of an array literal that cannot be read. -/
def unreadKey? : Option Nat := do
  let brackets ← stream.arrayBrackets? index
  ((stream.arrayElements brackets.opener brackets.closer).filterMap
    (stream.elementKey? brackets)).findSome? fun key => ArrayKey.unread? key.2

/-- Whether the array literal at an index has an element whose key is a single string and writes an
integer that is too long to be read. -/
def HoldsLongKey : Prop :=
  ∃ brackets element arrow key token count,
    stream.arrayBrackets? index = some brackets ∧
      element ∈ stream.arrayElements brackets.opener brackets.closer ∧
        stream.keyArrow? brackets element = some arrow ∧
          stream.previousCodeFrom? element.1 arrow = some key ∧ stream.token? key = some token ∧
            Text.trim (stream.textBetween element.1 arrow) = token.content ∧
              token.kind = .plainString ∧
                WritesLongInteger (ArrayKey.withoutQuotes token.content).toList count

/-- Whether some array literal holds a key that is too long to be read. -/
def LacksKey : Prop :=
  ∃ token ∈ stream.tokens.toList,
    (token.kind = .kwArray ∨ token.kind = .openShortArray) ∧ stream.HoldsLongKey token.index

variable {stream index}

theorem elementKey?_eq_error_iff {brackets : BracketPair} {element : Nat × Nat} {token : Token}
    {count : Nat} :
    stream.elementKey? brackets element = some (token, .error count) ↔
      ∃ arrow key, stream.keyArrow? brackets element = some arrow ∧
        stream.previousCodeFrom? element.1 arrow = some key ∧ stream.token? key = some token ∧
          Text.trim (stream.textBetween element.1 arrow) = token.content ∧
            token.kind = .plainString ∧
              WritesLongInteger (ArrayKey.withoutQuotes token.content).toList count := by
  simp only [elementKey?, bind, Option.bind_eq_some_iff, pure, Option.some.injEq, Prod.mk.injEq]
  constructor
  · rintro ⟨arrow, arrow_eq, key, key_eq, token, here, rfl, failed⟩
    split at failed
    · rename_i whole
      exact ⟨arrow, key, arrow_eq, key_eq, here, whole, ArrayKey.ofToken_eq_error_iff.mp failed⟩
    · cases failed
  · rintro ⟨arrow, key, arrow_eq, key_eq, here, whole, long⟩
    refine ⟨arrow, arrow_eq, key, key_eq, token, here, rfl, ?_⟩
    rw [if_pos whole]
    exact ArrayKey.ofToken_eq_error_iff.mpr long

/-- A literal has a key that cannot be read exactly if it holds a long one. -/
theorem isSome_unreadKey?_iff : (stream.unreadKey? index).isSome ↔ stream.HoldsLongKey index := by
  constructor
  · intro unread
    rcases Option.isSome_iff_exists.mp unread with ⟨digits, unread⟩
    rcases Option.bind_eq_some_iff.mp unread with ⟨brackets, brackets_eq, found⟩
    rcases List.exists_of_findSome?_eq_some found with ⟨⟨token, key⟩, member, failed⟩
    rcases List.mem_filterMap.mp member with ⟨element, among, made⟩
    cases key with
    | ok key => cases failed
    | error count =>
        rcases elementKey?_eq_error_iff.mp made with ⟨arrow, key, long⟩
        exact ⟨brackets, element, arrow, key, token, count, brackets_eq, among, long⟩
  · rintro ⟨brackets, element, arrow, key, token, count, brackets_eq, among, long⟩
    have made := elementKey?_eq_error_iff.mpr ⟨arrow, key, long⟩
    rw [unreadKey?, brackets_eq, Option.bind_eq_bind, Option.bind_some, List.findSome?_isSome_iff]
    exact ⟨_, List.mem_filterMap.mpr ⟨element, among, made⟩, rfl⟩

end TokenStream

namespace Rule

variable {stream : TokenStream} {index : Nat}

/-- The comparison of keys ends at the first key that cannot be read. -/
theorem ends_reportRepeatedKeys (keys : List (Token × Except Nat ArrayKey))
    (seen : List (ArrayKey × Nat)) :
    (reportRepeatedKeys seen keys).Ends duplicateKey.id
      (match keys.findSome? fun key => ArrayKey.unread? key.2 with
        | some digits => .error (.numeral digits)
        | none => .ok none) := by
  induction keys generalizing seen with
  | nil => exact .done none
  | cons first rest ih =>
      rcases first with ⟨token, digits | key⟩
      · exact .fail _
      · simp only [reportRepeatedKeys, List.findSome?_cons, ArrayKey.unread?]
        cases seen.lookup key with
        | none => exact ih _
        | some line =>
            exact .report (Report.renders_of_takes (by simp [errorAt, takesArguments])) (ih _)

theorem ends_duplicateKey (options : Table) :
    (duplicateKey.process stream index options).Ends duplicateKey.id
      (match stream.unreadKey? index with
        | some digits => .error (.numeral digits)
        | none => .ok none) := by
  simp only [duplicateKey, TokenStream.unreadKey?]
  cases stream.arrayBrackets? index with
  | none => exact .done none
  | some brackets => exact ends_reportRepeatedKeys _ []

/-- Whether a rule without options ends with an answer on each token of a stream. -/
def Answers (rule : Rule) (stream : TokenStream) : Prop :=
  ∀ index, ∃ answer, (rule.process stream index []).Ends rule.id (.ok answer)

theorem ends_reportAll_singleton {made : Report} {ruleId : String} (renders : made.Renders) :
    (reportAll [made]).Ends ruleId (.ok none) :=
  .report renders (.done none)

theorem ends_renameCalls {ruleId template : String} {replacements : List (String × String)}
    (suits : TokenStream → Nat → Bool) {arguments : String → List Value}
    (takes : ∀ name replacement,
      takesArguments template.toList (.text name :: arguments replacement) = true) :
    (renameCalls replacements suits template arguments stream index).Ends ruleId (.ok none) := by
  rcases renameCalls_eq_done_or replacements suits template arguments stream index with
    silent | ⟨replacement, -, renames⟩
  · rw [silent]
    exact .done none
  · rw [renames]
    exact .reportAndReplace (Report.renders_of_takes (takes _ _)) _ _

theorem answers_arrayPush : arrayPush.Answers stream := by
  intro index
  refine ⟨none, ?_⟩
  simp only [arrayPush]
  split
  · split
    · exact .done none
    · split
      · exact ends_reportAll_singleton (Report.renders_of_takes (by simp [errorAt, takesArguments]))
      · exact ends_reportAll_singleton (Report.renders_of_takes (by simp [errorAt, takesArguments]))
  · exact .done none

theorem answers_concatenationSpacing : concatenationSpacing.Answers stream := by
  intro index
  refine ⟨none, ?_⟩
  simp only [concatenationSpacing]
  split
  · exact .done none
  · exact .reportAndFix (Report.renders_of_nil rfl) _

theorem answers_strictTypes : strictTypes.Answers stream := by
  intro index
  refine ⟨none, ?_⟩
  simp only [strictTypes]
  split
  · split
    · exact .reportAndFix (Report.renders_of_nil rfl) _
    · split
      · exact .done none
      · split
        · exact .done none
        · exact .reportAndReplace (Report.renders_of_nil rfl) _ _
  · exact .done none

theorem answers_oldConstructor : oldConstructor.Answers stream := by
  intro index
  refine ⟨none, ?_⟩
  simp only [oldConstructor]
  split
  · exact .done none
  · exact .reportAndReplace (Report.renders_of_nil rfl) _ _

theorem answers_duplicateCase : duplicateCase.Answers stream := by
  intro index
  refine ⟨none, ?_⟩
  simp only [duplicateCase]
  split
  · exact .done none
  · split
    · refine .reportAll fun made member => ?_
      rcases of_mem_repeatedCaseReports member with ⟨label, -, line, rfl⟩
      exact Report.renders_of_takes (by simp [errorAt, takesArguments])
    · exact .done none

theorem answers_elvisOperator : elvisOperator.Answers stream := by
  intro index
  refine ⟨none, ?_⟩
  simp only [elvisOperator]
  split
  · split
    · exact .done none
    · exact .reportAndFix (Report.renders_of_nil rfl) _
  · exact .done none

theorem answers_foreachVariable : foreachVariable.Answers stream := by
  intro index
  refine ⟨none, ?_⟩
  simp only [foreachVariable]
  split
  · exact .done none
  · refine .reportAll fun made member => ?_
    rcases of_mem_foreachReports member with ⟨name, rfl⟩ | ⟨name, rfl | rfl | rfl⟩
    all_goals
      exact Report.renders_of_takes (by simp [sharedVariable, errorAt, takesArguments])

theorem answers_nullCheck : nullCheck.Answers stream := by
  intro index
  refine ⟨none, ?_⟩
  simp only [nullCheck]
  split
  · exact .done none
  · exact .reportAndFix (Report.renders_of_takes (by simp [fixableErrorAt, takesArguments])) _

theorem answers_notChain : notChain.Answers stream := by
  intro index
  refine ⟨some (stream.notChain index).stop, ?_⟩
  simp only [notChain]
  split
  · exact .done _
  · exact .report (Report.renders_of_nil rfl) (.done _)

theorem answers_nestedIf : nestedIf.Answers stream := by
  intro index
  refine ⟨none, ?_⟩
  simp only [nestedIf]
  split
  · exact ends_reportAll_singleton (Report.renders_of_nil rfl)
  · exact .done none

theorem answers_incrementByOne : incrementByOne.Answers stream := by
  intro index
  refine ⟨none, ?_⟩
  simp only [incrementByOne]
  split
  · exact .done none
  · split
    · exact .reportAndFix (Report.renders_of_nil rfl) _
    · exact .done none

theorem answers_selfAssignment : selfAssignment.Answers stream := by
  intro index
  refine ⟨none, ?_⟩
  simp only [selfAssignment]
  split
  · exact .done none
  · exact .reportAndFix (Report.renders_of_nil rfl) _

theorem answers_constantTernary : constantTernary.Answers stream := by
  have kept : ∀ ternary template text,
      (keepBranch ternary template text).Ends constantTernary.id (.ok none) := fun _ _ _ =>
    .reportAndFix (Report.renders_of_nil rfl) _
  intro index
  refine ⟨none, ?_⟩
  simp only [constantTernary]
  split
  · exact .done none
  · split
    · exact kept _ _ _
    · split
      · exact kept _ _ _
      · split
        · exact ends_reportAll_singleton (Report.renders_of_nil rfl)
        · exact .done none

/-- The limits that hold where no option sets them are integers, which compare with a count. -/
theorem answers_tooManyParameters : tooManyParameters.Answers stream := by
  intro index
  refine ⟨none, ?_⟩
  have limit_eq : ∀ shape : CallableShape, shape.limit [] = .int shape.defaultLimit := fun _ => rfl
  simp only [tooManyParameters, limit_eq]
  split
  · exact .done none
  · split
    · exact .done none
    · split
      · exact .done none
      · simp only [reportParameters, Value.lessThan]
        split
        · rename_i failed
          cases failed
        · exact .done none
        · split
          · rename_i failed
            cases failed
          · exact .done none
          · exact ends_reportAll_singleton
              (Report.renders_of_takes (by simp [warningAt, takesArguments]))

theorem answers_longArray : longArray.Answers stream := by
  intro index
  refine ⟨none, ?_⟩
  simp only [longArray]
  split
  · exact .done none
  · exact .reportAndFix (Report.renders_of_nil rfl) _

theorem renders_of_mem_duplicateReports {caught : List (Nat × String)} {seen : List String}
    {made : Report} (member : made ∈ duplicateReports seen caught) : made.Renders := by
  rcases of_mem_duplicateReports member with ⟨repeated, -, rfl⟩
  exact Report.renders_of_takes (by simp [errorAt, takesArguments])

theorem renders_of_mem_genericReports {clauses : List CatchClause} {made : Report}
    (member : made ∈ genericReports clauses) : made.Renders := by
  rcases of_mem_genericReports member with ⟨first, -, rfl⟩
  exact Report.renders_of_nil rfl

theorem answers_catchOrder : catchOrder.Answers stream := by
  intro index
  refine ⟨none, ?_⟩
  simp only [catchOrder]
  split
  · exact .done none
  · refine .reportAll fun made member => ?_
    rcases List.mem_append.mp member with twice | generic
    · exact renders_of_mem_duplicateReports twice
    · exact renders_of_mem_genericReports generic

/-- Without options, every built-in rule but the one that compares keys always answers. -/
theorem answers_of_mem_builtin {rule : Rule} (builtin : rule ∈ Rule.builtin)
    (differs : rule.id ≠ duplicateKey.id) : rule.Answers stream := by
  simp only [Rule.builtin, List.mem_cons, List.not_mem_nil, or_false] at builtin
  rcases builtin with rfl | rfl | rfl | rfl | rfl | rfl | rfl | rfl | rfl | rfl | rfl | rfl | rfl |
    rfl | rfl | rfl | rfl | rfl | rfl | rfl
  · exact answers_arrayPush
  · exact answers_concatenationSpacing
  · exact answers_strictTypes
  · exact answers_oldConstructor
  · exact absurd rfl differs
  · exact answers_duplicateCase
  · exact answers_elvisOperator
  · exact answers_foreachVariable
  · exact answers_nullCheck
  · exact fun _ => ⟨none, ends_renameCalls hasNoArguments fun _ _ => by simp [takesArguments]⟩
  · exact answers_notChain
  · exact answers_nestedIf
  · exact fun _ => ⟨none, ends_renameCalls hasCaselessNeedle fun _ _ => by simp [takesArguments]⟩
  · exact answers_incrementByOne
  · exact fun _ => ⟨none, ends_renameCalls (fun _ _ => true) fun _ _ => by simp [takesArguments]⟩
  · exact answers_selfAssignment
  · exact answers_constantTernary
  · exact answers_tooManyParameters
  · exact answers_longArray
  · exact answers_catchOrder

end Rule

end TokenLint
