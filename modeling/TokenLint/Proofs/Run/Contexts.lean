import TokenLint.Proofs.Run.PassStep

/-!
# What passes leave in the contexts

A call changes what its rule remembers and where it resumes, never the rule or its
options, and both are forgotten when the next pass starts. Every pass of a dispatcher
over a stream is therefore the same pass, whatever came before it.
-/

namespace TokenLint

/-- A rule in the middle of a pass as the next pass finds it. -/
def RuleSlot.restarted (slot : RuleSlot) : RuleSlot := slot.toRuleContext.startPass

/-- A call keeps the rule and its options. -/
@[simp]
theorem RuleSlot.restarted_visit (slot : RuleSlot) (index : Nat) (trace : PassTrace) :
    (slot.visit index trace).1.restarted = slot.restarted := by
  simp only [visit]
  split <;> rfl

/-- The calls on one token keep all rules and their options. -/
theorem map_restarted_visitAll (token : Token) (slots : List RuleSlot) (trace : PassTrace) :
    (visitAll token trace slots).1.map RuleSlot.restarted = slots.map RuleSlot.restarted := by
  induction slots generalizing trace with
  | nil => rfl
  | cons slot rest ih =>
      by_cases wanted : slot.wants token
      · simp [visitAll, wanted, ih]
      · simp [visitAll, wanted, ih]

/-- The calls on one token keep the rules and their options. -/
theorem exists_slot_of_mem_visitAll {token : Token} {slots : List RuleSlot} {trace : PassTrace}
    {slot : RuleSlot} (member : slot ∈ (visitAll token trace slots).1) :
    ∃ before ∈ slots, before.rule = slot.rule ∧ before.options = slot.options := by
  have restarted : slot.restarted ∈ slots.map RuleSlot.restarted := by
    rw [← map_restarted_visitAll token slots trace]
    exact List.mem_map_of_mem member
  rcases List.mem_map.mp restarted with ⟨before, among, same⟩
  exact ⟨before, among, congrArg (fun slot => slot.rule) same,
    congrArg (fun slot => slot.options) same⟩

namespace Dispatcher

/-- The slots of a pass hold the active rules. -/
theorem rule_mem_of_mem_slots {dispatcher : Dispatcher} {slot : RuleSlot}
    (member : slot ∈ dispatcher.slots) : slot.rule ∈ dispatcher.rules := by
  rcases List.mem_map.mp member with ⟨context, among, rfl⟩
  exact List.mem_map.mpr ⟨context, among, rfl⟩

/-- The active rules are the rules given, in order of their identifiers. -/
theorem rules_of_ofRules {rules : List Rule} {options : Value} {dispatcher : Dispatcher}
    (made : ofRules rules options = .ok dispatcher) :
    dispatcher.rules = rules.mergeSort fun left right => left.id ≤ right.id := by
  have collected : ∀ (sorted : List Rule) (contexts : List RuleContext),
      (sorted.mapM fun rule => (optionsFor options rule.id).map fun own =>
        (⟨rule, own, []⟩ : RuleContext)) = .ok contexts →
      contexts.map RuleContext.rule = sorted := by
    intro sorted
    induction sorted with
    | nil =>
        intro contexts mapped
        cases mapped
        rfl
    | cons rule rest ih =>
        intro contexts mapped
        rw [List.mapM_cons] at mapped
        cases own : optionsFor options rule.id with
        | error error =>
            rw [own] at mapped
            cases mapped
        | ok table =>
            rw [own] at mapped
            cases others : rest.mapM fun rule => (optionsFor options rule.id).map fun own =>
                (⟨rule, own, []⟩ : RuleContext) with
            | error error =>
                rw [others] at mapped
                cases mapped
            | ok tail =>
                rw [others] at mapped
                cases mapped
                rw [List.map_cons, ih tail others]
  simp only [ofRules] at made
  split at made
  · split at made
    · rename_i contexts mapped
      cases made
      exact collected _ contexts mapped
    · cases made
  · cases made

theorem nodup_map_id_mergeSort {rules : List Rule} (distinct : (rules.map Rule.id).Nodup) :
    ((rules.mergeSort fun left right => left.id ≤ right.id).map Rule.id).Nodup :=
  ((List.mergeSort_perm rules _).map Rule.id).nodup_iff.mpr distinct

/-- Rules with different identifiers make a dispatcher if all options can be read. -/
theorem ofRules_of_optionsFor {rules : List Rule} {options : Value} {own : String → Table}
    (distinct : (rules.map Rule.id).Nodup) (readable : ∀ id, optionsFor options id = .ok (own id)) :
    ofRules rules options = .ok ⟨(rules.mergeSort fun left right => left.id ≤ right.id).map
      fun rule => ⟨rule, own rule.id, []⟩⟩ := by
  have collected : ∀ sorted : List Rule,
      (sorted.mapM fun rule => (optionsFor options rule.id).map fun table =>
        (⟨rule, table, []⟩ : RuleContext)) =
          .ok (sorted.map fun rule => ⟨rule, own rule.id, []⟩) := by
    intro sorted
    simp only [readable]
    exact List.mapM_pure
  simp only [ofRules, nodup_map_id_mergeSort distinct, if_true, collected]

/-- Without options, rules with different identifiers make a dispatcher. -/
theorem ofRules_null {rules : List Rule} (distinct : (rules.map Rule.id).Nodup) :
    ofRules rules .null = .ok ⟨(rules.mergeSort fun left right => left.id ≤ right.id).map
      fun rule => ⟨rule, [], []⟩⟩ := by
  have readable : ∀ id, optionsFor .null id = .ok [] := fun _ => rfl
  exact ofRules_of_optionsFor distinct readable

variable (dispatcher : Dispatcher) (stream : TokenStream) (fixing : Bool)

/-- The next pass starts with the same slots as this one. -/
@[simp]
theorem slots_dispatch : (dispatcher.dispatch stream fixing).1.slots = dispatcher.slots := by
  have started : ∀ contexts : List RuleContext,
      (contexts.map RuleContext.startPass).map RuleSlot.restarted =
        contexts.map RuleContext.startPass := by
    intro contexts
    rw [List.map_map]
    rfl
  rcases dispatcher.invariant_dispatch stream fixing
    (motive := fun slots _ => slots.map RuleSlot.restarted = dispatcher.slots)
    (started dispatcher.contexts) (fun token _ slots trace kept => by
      rw [map_restarted_visitAll, kept]) with ⟨slots, dispatcher_eq, kept⟩
  rw [dispatcher_eq, ← kept, Dispatcher.slots, List.map_map]
  rfl

variable {dispatcher}

/-- A pass depends on a dispatcher only through the slots it starts with. -/
theorem trace_dispatch_congr {other : Dispatcher} (same : other.slots = dispatcher.slots) :
    (other.dispatch stream fixing).2 = (dispatcher.dispatch stream fixing).2 := by
  rw [dispatch, dispatch, same]

end Dispatcher

end TokenLint
