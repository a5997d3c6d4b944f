import TokenLint.Proofs.Run.Replies

/-!
# Passes that follow other passes

What a rule remembers and where it resumes outlives a pass in the context of the rule, whether the
rule answered or failed. The next pass clears both before its first call, so a dispatcher that has
made any number of passes makes the same pass over a stream as a new one.
-/

namespace TokenLint

namespace Dispatcher

/-- The dispatcher as some passes leave it, each over a stream and fixing or not. -/
def after (dispatcher : Dispatcher) (passes : List (TokenStream × Bool)) : Dispatcher :=
  passes.foldl (fun used pass => (used.dispatch pass.1 pass.2).1) dispatcher

/-- The next pass starts with the same slots, whatever passes were made. -/
@[simp]
theorem slots_after (dispatcher : Dispatcher) (passes : List (TokenStream × Bool)) :
    (dispatcher.after passes).slots = dispatcher.slots := by
  induction passes generalizing dispatcher with
  | nil => rfl
  | cons pass rest ih =>
      calc ((dispatcher.dispatch pass.1 pass.2).1.after rest).slots
          = (dispatcher.dispatch pass.1 pass.2).1.slots := ih _
        _ = dispatcher.slots := slots_dispatch dispatcher pass.1 pass.2

/-- A dispatcher that has made any passes over any streams makes the same pass over the next one as
a new dispatcher of the same rules and options: with the same calls, answers and failures, the same
reports, conflicts, fixes and contents, and the same contexts left behind. -/
theorem dispatch_after_passes {rules : List Rule} {options : Value} {used fresh : Dispatcher}
    (made : ofRules rules options = .ok used) (remade : ofRules rules options = .ok fresh)
    (passes : List (TokenStream × Bool)) (stream : TokenStream) (fixing : Bool) :
    (used.after passes).dispatch stream fixing = fresh.dispatch stream fixing ∧
      (used.after passes).replies stream fixing = fresh.replies stream fixing := by
  have same : used = fresh := Except.ok.inj (made.symm.trans remade)
  have slots_eq : (used.after passes).slots = fresh.slots := by rw [slots_after, same]
  constructor
  · rw [dispatch, dispatch, slots_eq]
  · rw [replies, replies, slots_eq]

/-- A rule that reports at each variable how many of them it has seen, and fails on the third. -/
def counting : Rule :=
  ⟨"counting", "Counting", "", "", [.variable], fun _ index _ =>
    (RuleProgram.tally "seen").bind fun _ => (RuleProgram.counted "seen").bind fun seen =>
      if seen = 3 then .fail (.raised "ValueError" "three")
      else .report (Rule.fixableErrorAt index "Found" "Variable %d" [.int seen]) fun fixNow =>
        if fixNow then .begin (.done (some (index + 1 : Nat))) else .done none⟩

/-- A stream of some variables. -/
def copies (count : Nat) : TokenStream :=
  .ofLexemes (List.replicate count ⟨.variable, "$a", ⟨1, 1⟩⟩)

/-- A rule that counts variables starts again from one after a pass in which it failed with what it
had counted still in its memory. -/
theorem dispatch_after_passes_counting :
    ∃ dispatcher, ofRules [counting] .null = .ok dispatcher ∧
      (dispatcher.dispatch (copies 3) true).2.failures.size = 1 ∧
      ((dispatcher.after [(copies 3, true)]).contexts.map fun context =>
        context.memory.count "seen") = [3] ∧
      ((dispatcher.after [(copies 3, true)]).dispatch (copies 2) false).2.pass.reports.toList.map
        Diagnostic.message = ["Variable 1", "Variable 2"] := by
  have distinct : ([counting].map Rule.id).Nodup := by decide
  have made := ofRules_null distinct
  rw [List.mergeSort_of_pairwise (by decide)] at made
  refine ⟨_, made, by decide +kernel, by decide +kernel, ?_⟩
  rw [(dispatch_after_passes made made [(copies 3, true)] (copies 2) false).1]
  decide +kernel

end Dispatcher

end TokenLint
