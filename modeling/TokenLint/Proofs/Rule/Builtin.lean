import TokenLint.Proofs.Navigation.Bounds
import TokenLint.Proofs.Rule.Proposal
import TokenLint.Rule.Builtin
import Mathlib.Data.Option.Basic

/-!
# What the built-in rules propose

Every built-in rule is a program that proposes fixes, and all edits that it proposes about
a token of a bounded stream are edits of tokens of the stream.
-/

namespace TokenLint

namespace TokenStream

variable {stream : TokenStream}

/-- Whether all edits are edits of tokens of a stream. -/
def Covers (stream : TokenStream) (edits : List Edit) : Prop :=
  ∀ edit ∈ edits, edit.index < stream.size

@[simp]
theorem covers_nil : stream.Covers [] := by simp [Covers]

@[simp]
theorem covers_cons {edit : Edit} {rest : List Edit} :
    stream.Covers (edit :: rest) ↔ edit.index < stream.size ∧ stream.Covers rest := by
  simp [Covers]

@[simp]
theorem covers_append {first second : List Edit} :
    stream.Covers (first ++ second) ↔ stream.Covers first ∧ stream.Covers second := by
  simp only [Covers, List.mem_append, or_imp, forall_and]

theorem covers_map_removal {indexes : List Nat} (inside : ∀ index ∈ indexes, index < stream.size) :
    stream.Covers (indexes.map Rule.removal) := by
  intro edit member
  rcases List.mem_map.mp member with ⟨index, among, rfl⟩
  exact inside index among

theorem covers_removals {start stop : Nat} (within : stop ≤ stream.size) :
    stream.Covers (Rule.removals start stop) := by
  apply covers_map_removal
  intro index among
  have := List.mem_range'_1.mp among
  omega

end TokenStream

namespace Rule

variable {stream : TokenStream} {index : Nat} {allowed : List Edit → Prop}

theorem mem_of_replacementFor? {replacements : List (String × String)} {name replacement : String}
    (found : replacementFor? replacements name = some replacement) :
    (Text.lower name, replacement) ∈ replacements := by
  rcases List.lookup_eq_some_iff.mp found with ⟨before, after, rfl, -⟩
  exact List.mem_append_right _ (List.mem_cons_self ..)

theorem proposes_arrayPush (options : Table) :
    (arrayPush.process stream index options).Proposes allowed := by
  simp only [arrayPush]
  split
  · split
    · exact .done none
    · split
      · exact .reportAll (by simp [errorAt])
      · exact .reportAll (by simp [errorAt])
  · exact .done none

theorem proposes_concatenationSpacing (inside : index < stream.size) (options : Table) :
    (concatenationSpacing.process stream index options).Proposes stream.Covers := by
  simp only [concatenationSpacing]
  split
  · exact .done none
  · refine .reportAndFix _ ?_
    rw [TokenStream.spacingEdits, TokenStream.covers_append]
    constructor
    · split <;> simp [inside]
    · split <;> simp [inside]

theorem proposes_strictTypes (inside : index < stream.size) (options : Table) :
    (strictTypes.process stream index options).Proposes stream.Covers := by
  simp only [strictTypes]
  split
  · split
    · refine .reportAndFix _ ?_
      rw [TokenStream.strictTypesEdits, TokenStream.covers_append]
      refine ⟨TokenStream.covers_map_removal ?_, by simp [inside]⟩
      intro blank member
      have among := List.mem_range'_1.mp (List.takeWhile_subset _ member)
      omega
    · split
      · exact .done none
      · rename_i value declared
        split
        · exact .done none
        · simp only [TokenStream.declaredValue?, bind, Option.bind_eq_some_iff] at declared
          rcases declared with ⟨sign, -, -, -, next⟩
          exact .reportAndReplace _ (by simp [(TokenStream.nextCode?_bounds next).2])
  · exact .done none

theorem proposes_oldConstructor (options : Table) :
    (oldConstructor.process stream index options).Proposes stream.Covers := by
  simp only [oldConstructor]
  split
  · exact .done none
  · rename_i method found
    simp only [TokenStream.oldConstructor?, bind, Option.bind_eq_some_iff] at found
    rcases found with ⟨name, -, -, -, scope, -, closer, -, -, -, named⟩
    have among := List.mem_of_find?_eq_some named
    simp only [TokenStream.methodNames, List.mem_filterMap] at among
    rcases among with ⟨keyword, -, named⟩
    split at named
    · exact .reportAndReplace _ (by simp [(TokenStream.firstWith?_eq_some named).2.2.1])
    · cases named

theorem proposes_duplicateKey (options : Table) :
    (duplicateKey.process stream index options).Proposes allowed := by
  have reports : ∀ (keys : List (Token × Except Nat ArrayKey)) (seen : List (ArrayKey × Nat)),
      (reportRepeatedKeys seen keys).Proposes allowed := by
    intro keys
    induction keys with
    | nil =>
        intro seen
        exact .done none
    | cons first rest ih =>
        intro seen
        rcases first with ⟨token, digits | key⟩
        · exact .fail _
        · simp only [reportRepeatedKeys]
          split
          · exact ih _
          · exact .report rfl (ih _)
  simp only [duplicateKey]
  split
  · exact .done none
  · exact reports _ _

theorem of_mem_repeatedCaseReports {labels : List CaseLabel} {seen : List (String × Nat)}
    {made : Report} (member : made ∈ repeatedCaseReports seen labels) :
    ∃ label ∈ labels, ∃ line : Nat, made = errorAt label.token.index "Found"
      "Duplicate case expression: %s. First occurrence of this expression at line %d."
      [.text label.expression, .int line] := by
  induction labels generalizing seen with
  | nil => simp [repeatedCaseReports] at member
  | cons label rest ih =>
      simp only [repeatedCaseReports] at member
      split at member
      · rcases ih member with ⟨later, among, made_eq⟩
        exact ⟨later, List.mem_cons_of_mem _ among, made_eq⟩
      · rename_i line _
        rcases List.mem_cons.mp member with rfl | member
        · exact ⟨label, List.mem_cons_self, line, rfl⟩
        · rcases ih member with ⟨later, among, made_eq⟩
          exact ⟨later, List.mem_cons_of_mem _ among, made_eq⟩

theorem proposes_duplicateCase (options : Table) :
    (duplicateCase.process stream index options).Proposes allowed := by
  simp only [duplicateCase]
  split
  · exact .done none
  · split
    · refine .reportAll fun made member => ?_
      rcases of_mem_repeatedCaseReports member with ⟨label, -, line, rfl⟩
      rfl
    · exact .done none

theorem proposes_elvisOperator
    (batch : ∀ colon, stream.ternaryElse? index = some colon → allowed (removals (index + 1) colon))
    (options : Table) : (elvisOperator.process stream index options).Proposes allowed := by
  simp only [elvisOperator]
  split
  · rename_i start colon _ answered
    split
    · exact .done none
    · exact .reportAndFix _ (batch colon answered)
  · exact .done none

/-- A report about a `foreach` names one variable. -/
theorem of_mem_foreachReports {names : ForeachNames} {made : Report}
    (member : made ∈ foreachReports index names) :
    (∃ name, made = errorAt index "AllIdentical"
      ("The \"%s\" variable is defined in \"array_expression\", \"key_expression\" " ++
        "and \"value_expression\".") [.text name]) ∨
      ∃ name, (made = sharedVariable index "ArrayAsKey" name "array_expression" "key_expression" ∨
        made = sharedVariable index "ArrayAsValue" name "array_expression" "value_expression" ∨
        made = sharedVariable index "KeyAsValue" name "key_expression" "value_expression") := by
  have single : ∀ {condition : Prop} [Decidable condition] {offered : Report},
      made ∈ (if condition then [offered] else []) → made = offered := by
    intro condition _ offered among
    split at among
    · simpa using among
    · simp at among
  simp only [foreachReports] at member
  split at member
  · exact .inl ⟨_, List.mem_singleton.mp member⟩
  · simp only [List.mem_append] at member
    rcases member with (member | member) | member
    · exact .inr ⟨_, .inl (single member)⟩
    · exact .inr ⟨_, .inr (.inl (single member))⟩
    · exact .inr ⟨_, .inr (.inr (single member))⟩

theorem proposes_foreachVariable (options : Table) :
    (foreachVariable.process stream index options).Proposes allowed := by
  simp only [foreachVariable]
  split
  · exact .done none
  · refine .reportAll fun made member => ?_
    rcases of_mem_foreachReports member with ⟨name, rfl⟩ | ⟨name, rfl | rfl | rfl⟩ <;> rfl

theorem proposes_nullCheck (bounded : stream.Bounded) (options : Table) :
    (nullCheck.process stream index options).Proposes stream.Covers := by
  simp only [nullCheck]
  split
  · exact .done none
  · rename_i check found
    simp only [TokenStream.nullCheck?, bind, Option.bind_eq_some_iff] at found
    rcases found with ⟨-, -, opener, called, closer, matched, found⟩
    have opener_bounds := TokenStream.callOpener?_bounds called
    have closer_lt := bounded.partner_lt matched
    split at found
    · rename_i first last arguments
      cases found
      have first_lt : first < stream.size := by
        have member : (first, last) ∈ stream.callArguments opener := by simp [arguments]
        simp only [TokenStream.callArguments, matched] at member
        exact (TokenStream.argumentsFrom_bounds member).1
      refine .reportAndFix _ ?_
      simp only [NullCheck.edits, TokenStream.covers_append, TokenStream.covers_cons,
        TokenStream.covers_nil, and_true]
      refine ⟨⟨TokenStream.covers_map_removal ?_, TokenStream.covers_removals (by omega)⟩, by omega,
        opener_bounds.2, closer_lt⟩
      intro before member
      have among := List.mem_range'_1.mp (List.mem_filter.mp member).1
      omega
    · cases found

/-- A rule that replaces functions is silent about a token, or renames it by its table. -/
theorem renameCalls_eq_done_or (replacements : List (String × String))
    (suits : TokenStream → Nat → Bool) (template : String) (arguments : String → List Value)
    (stream : TokenStream) (index : Nat) :
    renameCalls replacements suits template arguments stream index = .done none ∨
      ∃ replacement, (Text.lower (stream.contentAt index), replacement) ∈ replacements ∧
        renameCalls replacements suits template arguments stream index =
          renameCall index template (stream.contentAt index) replacement
            (arguments replacement) := by
  simp only [renameCalls]
  split
  · rename_i replacement opener known called
    split
    · exact .inr ⟨replacement, mem_of_replacementFor? known, rfl⟩
    · exact .inl rfl
  · exact .inl rfl

theorem proposes_renameCalls {replacements : List (String × String)}
    (suits : TokenStream → Nat → Bool) {template : String} {arguments : String → List Value}
    (batch : ∀ name, (Text.lower (stream.contentAt index), name) ∈ replacements →
      allowed [⟨.replace, index, name⟩]) :
    (renameCalls replacements suits template arguments stream index).Proposes allowed := by
  rcases renameCalls_eq_done_or replacements suits template arguments stream index with
    silent | ⟨replacement, listed, renames⟩
  · rw [silent]
    exact .done none
  · rw [renames]
    exact .reportAndReplace _ (batch replacement listed)

theorem proposes_notChain (inside : index < stream.size) (options : Table) :
    (notChain.process stream index options).Proposes stream.Covers := by
  simp only [notChain]
  split
  · exact .done _
  · refine .bind_done (.reportAndFix _ ?_) _
    rw [NotChain.edits, TokenStream.covers_append]
    exact ⟨TokenStream.covers_removals TokenStream.stop_notChainFrom_le, by simp [inside]⟩

theorem proposes_nestedIf (options : Table) :
    (nestedIf.process stream index options).Proposes allowed := by
  simp only [nestedIf]
  split
  · exact .reportAll (by simp [errorAt])
  · exact .done none

theorem proposes_incrementByOne (inside : index < stream.size) (options : Table) :
    (incrementByOne.process stream index options).Proposes stream.Covers := by
  simp only [incrementByOne]
  split
  · exact .done none
  · rename_i operand next
    have operand_bounds := TokenStream.nextCode?_bounds next
    split
    · refine .reportAndFix _ ?_
      rw [TokenStream.incrementEdits, TokenStream.covers_append, TokenStream.covers_cons]
      refine ⟨?_, inside, TokenStream.covers_removals operand_bounds.2⟩
      split
      · simp only [TokenStream.covers_cons, TokenStream.covers_nil, and_true, removal]
        omega
      · exact TokenStream.covers_nil
    · exact .done none

theorem hasKind_of_mem_blanksBefore {blank stop : Nat}
    (member : blank ∈ stream.blanksBefore stop) : stream.hasKind blank .whitespace = true := by
  induction stop with
  | zero => simp [TokenStream.blanksBefore] at member
  | succ stop ih =>
      simp only [TokenStream.blanksBefore] at member
      split at member
      · rename_i white
        rcases List.mem_cons.mp member with rfl | member
        · exact white
        · exact ih member
      · simp at member

theorem proposes_selfAssignment (options : Table) :
    (selfAssignment.process stream index options).Proposes stream.Covers := by
  simp only [selfAssignment]
  split
  · exact .done none
  · rename_i statement found
    have made := (Option.filter_eq_some_iff.mp found).1
    simp only [TokenStream.assignmentStatement?, bind, Option.bind_eq_some_iff, pure] at made
    rcases made with ⟨-, -, start, -, -, -, stop, -, _, ends, result⟩
    cases result
    refine .reportAndFix _ ?_
    rw [TokenStream.statementRemovals, TokenStream.covers_append]
    have stop_lt : stop < stream.size :=
      TokenStream.lt_size_of_hasKind ((Option.guard_eq_some' _).mp ends)
    exact ⟨TokenStream.covers_removals stop_lt, TokenStream.covers_map_removal fun blank member =>
      TokenStream.lt_size_of_hasKind (hasKind_of_mem_blanksBefore member)⟩

theorem proposes_constantTernary (bounded : stream.Bounded) (inside : index < stream.size)
    (options : Table) : (constantTernary.process stream index options).Proposes stream.Covers := by
  have kept : ∀ {ternary : Ternary}, stream.ternary? index = some ternary →
      ∀ template text, (keepBranch ternary template text).Proposes stream.Covers := by
    intro ternary found template text
    simp only [TokenStream.ternary?, bind, Option.bind_eq_some_iff, pure] at found
    rcases found with ⟨start, -, colon, answered, stop, ended, result⟩
    cases result
    refine .reportAndFix _ ?_
    rw [TokenStream.covers_append]
    have stop_lt := TokenStream.elseEnd?_lt bounded (TokenStream.ternaryElse?_bounds answered).2
      ended
    exact ⟨TokenStream.covers_removals stop_lt, by simp [inside]⟩
  simp only [constantTernary]
  split
  · exact .done none
  · rename_i ternary found
    split
    · exact kept found _ _
    · split
      · exact kept found _ _
      · split
        · exact .reportAll (by simp [warningAt])
        · exact .done none

theorem proposes_tooManyParameters (options : Table) :
    (tooManyParameters.process stream index options).Proposes allowed := by
  simp only [tooManyParameters]
  split
  · exact .done none
  · split
    · exact .done none
    · split
      · exact .done none
      · simp only [reportParameters]
        split
        · exact .fail _
        · exact .done none
        · split
          · exact .fail _
          · exact .done none
          · exact .reportAll (by simp [warningAt])

theorem proposes_longArray (bounded : stream.Bounded) (options : Table) :
    (longArray.process stream index options).Proposes stream.Covers := by
  simp only [longArray]
  split
  · exact .done none
  · rename_i pair found
    rcases Option.bind_eq_some_iff.mp found with ⟨token, here, owned⟩
    have pair_lt := bounded.parenthesis_lt here owned
    refine .reportAndFix _ ?_
    rw [shortBracketEdits, TokenStream.covers_append]
    exact ⟨TokenStream.covers_removals (Nat.le_of_lt pair_lt.1), by simp [pair_lt]⟩

theorem of_mem_duplicateReports {caught : List (Nat × String)} {seen : List String}
    {made : Report} (member : made ∈ duplicateReports seen caught) :
    ∃ repeated ∈ caught, made = errorAt repeated.1 "Duplicate"
      "You catch two times the Exception: %s." [.text repeated.2] := by
  induction caught generalizing seen with
  | nil => simp [duplicateReports] at member
  | cons first rest ih =>
      rw [duplicateReports] at member
      rcases List.mem_append.mp member with here | later
      · split at here
        · exact ⟨first, List.mem_cons_self, List.mem_singleton.mp here⟩
        · simp at here
      · rcases ih later with ⟨repeated, among, made_eq⟩
        exact ⟨repeated, List.mem_cons_of_mem _ among, made_eq⟩

theorem of_mem_genericReports {clauses : List CatchClause} {made : Report}
    (member : made ∈ genericReports clauses) :
    ∃ first ∈ clauses, made = errorAt first.index "GenericFirst"
      "You can't catch \\Exception in first." [] := by
  simp only [genericReports] at member
  split at member
  · rename_i first _ _
    split at member
    · exact ⟨first, List.mem_cons_self, List.mem_singleton.mp member⟩
    · simp at member
  · simp at member

theorem proposes_catchOrder (options : Table) :
    (catchOrder.process stream index options).Proposes allowed := by
  simp only [catchOrder]
  split
  · exact .done none
  · refine .reportAll ?_
    intro made member
    rcases List.mem_append.mp member with duplicate | generic
    · rcases of_mem_duplicateReports duplicate with ⟨repeated, -, rfl⟩
      rfl
    · rcases of_mem_genericReports generic with ⟨first, -, rfl⟩
      rfl

/-- Every built-in rule proposes edits of tokens of the stream, whatever its options. -/
theorem proposes_of_mem_builtin {rule : Rule} (builtin : rule ∈ Rule.builtin)
    (bounded : stream.Bounded) (inside : index < stream.size) (options : Table) :
    (rule.process stream index options).Proposes stream.Covers := by
  have rename : ∀ name, stream.Covers [⟨.replace, index, name⟩] := by simp [inside]
  simp only [Rule.builtin, List.mem_cons, List.not_mem_nil, or_false] at builtin
  rcases builtin with rfl | rfl | rfl | rfl | rfl | rfl | rfl | rfl | rfl | rfl | rfl | rfl | rfl |
    rfl | rfl | rfl | rfl | rfl | rfl | rfl
  · exact proposes_arrayPush options
  · exact proposes_concatenationSpacing inside options
  · exact proposes_strictTypes inside options
  · exact proposes_oldConstructor options
  · exact proposes_duplicateKey options
  · exact proposes_duplicateCase options
  · exact proposes_elvisOperator (fun colon answered => TokenStream.covers_removals
      (Nat.le_of_lt (TokenStream.ternaryElse?_bounds answered).2)) options
  · exact proposes_foreachVariable options
  · exact proposes_nullCheck bounded options
  · exact proposes_renameCalls hasNoArguments fun name _ => rename name
  · exact proposes_notChain inside options
  · exact proposes_nestedIf options
  · exact proposes_renameCalls hasCaselessNeedle fun name _ => rename name
  · exact proposes_incrementByOne inside options
  · exact proposes_renameCalls (fun _ _ => true) fun name _ => rename name
  · exact proposes_selfAssignment options
  · exact proposes_constantTernary bounded inside options
  · exact proposes_tooManyParameters options
  · exact proposes_longArray bounded options
  · exact proposes_catchOrder options

end Rule

end TokenLint
