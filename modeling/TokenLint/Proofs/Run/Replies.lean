import TokenLint.Proofs.Run.Separate
import Mathlib.Data.List.Nodup
import Mathlib.Tactic.Tauto

/-!
# The calls of a pass and their answers

Rules are called token by token, and on one token in the order of their identifiers. Where a rule
resumes is overwritten by its answers; but an answer counts only if it lies after the token that it
is given on, and the rule is called on no token before the one where it resumes. So a rule resumes
after a later token exactly if one of its own answers lies after that token.
-/

namespace TokenLint

/-- A call with what the rule answered. A call that fails answers nothing. -/
structure RuleReply where
  call : RuleCall
  answer : Option Int
  deriving DecidableEq

/-- Whether no answer that a rule gave before a token lies after the token. -/
def HasResumed (replies : List RuleReply) (ruleId : String) (index : Nat) : Prop :=
  ∀ reply ∈ replies, reply.call.ruleId = ruleId → reply.call.index < index →
    ∀ next ∈ reply.answer, next ≤ (index : Int)

theorem hasResumed_append {replies others : List RuleReply} {ruleId : String} {index : Nat} :
    HasResumed (replies ++ others) ruleId index ↔
      HasResumed replies ruleId index ∧ HasResumed others ruleId index :=
  List.forall_mem_append

/-- Whether a call comes before another one: on an earlier token, or on the same token and of a rule
whose identifier comes first. -/
def RuleCall.Before (first second : RuleCall) : Prop :=
  first.index < second.index ∨ first.index = second.index ∧ first.ruleId < second.ruleId

namespace RuleSlot

variable (slot : RuleSlot) (index : Nat) (trace : PassTrace)

/-- The answer of a rule to a call on a token, none if it fails. -/
def reply (pass : Pass) : RuleReply :=
  let outcome := (slot.rule.process pass.stream index slot.options).run slot.rule.id
    ⟨pass, slot.memory⟩
  ⟨⟨slot.rule.id, index⟩, match outcome.result with
    | .ok answer => answer
    | .error _ => none⟩

theorem calls_visit :
    (slot.visit index trace).2.calls = trace.calls.push ⟨slot.rule.id, index⟩ := by
  simp only [visit]
  split <;> rfl

theorem rule_visit : (slot.visit index trace).1.rule = slot.rule := by
  simp only [visit]
  split <;> rfl

theorem resume_visit :
    (slot.visit index trace).1.resume =
      slot.resumeAfter index (slot.reply index trace.pass).answer := by
  cases answered : ((slot.rule.process trace.pass.stream index slot.options).run slot.rule.id
      ⟨trace.pass, slot.memory⟩).result with
  | ok answer =>
      simp only [visit, reply, answered]
      rfl
  | error fault =>
      simp only [visit, reply, answered]
      rfl

variable {slot index}

/-- On a token that a rule wants to see, overwriting the place where it resumes raises it. -/
theorem resumeAfter_le_iff (resumed : slot.resume ≤ index) {later : Int}
    (passed : (index : Int) ≤ later) (answer : Option Int) :
    slot.resumeAfter index answer ≤ later ↔
      slot.resume ≤ later ∧ ∀ next ∈ answer, next ≤ later := by
  cases answer with
  | none => simp [resumeAfter]
  | some next =>
      simp only [resumeAfter, Option.mem_some_iff, forall_eq']
      split <;> omega

end RuleSlot

/-- The replies on one token. -/
def repliesAll (token : Token) (trace : PassTrace) : List RuleSlot → List RuleReply
  | [] => []
  | slot :: rest =>
    if slot.wants token then
      slot.reply token.index trace.pass :: repliesAll token (slot.visit token.index trace).2 rest
    else repliesAll token trace rest

/-- The replies on one token after the other. -/
def repliesFrom : List Token → List RuleSlot × PassTrace → List RuleReply
  | [], _ => []
  | token :: rest, (slots, trace) =>
    repliesAll token trace slots ++ repliesFrom rest (visitAll token trace slots)

section OneToken

variable (token : Token) (slots : List RuleSlot) (trace : PassTrace)

theorem map_call_repliesAll :
    (repliesAll token trace slots).map RuleReply.call =
      (slots.filter fun slot => slot.wants token).map fun slot => ⟨slot.rule.id, token.index⟩ := by
  induction slots generalizing trace with
  | nil => rfl
  | cons slot rest ih =>
      by_cases wanted : slot.wants token
      · simp only [repliesAll, wanted, if_true, List.map_cons, List.filter_cons, ih]
        rfl
      · simp only [repliesAll, wanted, Bool.false_eq_true, if_false, List.filter_cons, ih]

theorem calls_visitAll :
    (visitAll token trace slots).2.calls.toList =
      trace.calls.toList ++ (repliesAll token trace slots).map RuleReply.call := by
  induction slots generalizing trace with
  | nil => simp [visitAll, repliesAll]
  | cons slot rest ih =>
      by_cases wanted : slot.wants token
      · simp only [visitAll, repliesAll, wanted, if_true, ih, RuleSlot.calls_visit,
          Array.toList_push, List.append_assoc]
        rfl
      · simp only [visitAll, repliesAll, wanted, Bool.false_eq_true, if_false, ih]

theorem map_rule_visitAll :
    ((visitAll token trace slots).1.map fun slot => slot.rule) =
      slots.map fun slot => slot.rule := by
  have restarted := congrArg (List.map fun slot : RuleSlot => slot.rule)
    (map_restarted_visitAll token slots trace)
  rw [List.map_map, List.map_map] at restarted
  exact restarted

variable {token slots trace}

theorem exists_slot_of_mem_repliesAll {reply : RuleReply}
    (member : reply ∈ repliesAll token trace slots) :
    ∃ slot ∈ slots, slot.wants token = true ∧ reply.call = ⟨slot.rule.id, token.index⟩ := by
  have called : reply.call ∈ (repliesAll token trace slots).map RuleReply.call :=
    List.mem_map_of_mem member
  rw [map_call_repliesAll] at called
  rcases List.mem_map.mp called with ⟨slot, among, same⟩
  rcases List.mem_filter.mp among with ⟨among, wanted⟩
  exact ⟨slot, among, wanted, same.symm⟩

theorem index_of_mem_repliesAll {reply : RuleReply}
    (member : reply ∈ repliesAll token trace slots) : reply.call.index = token.index := by
  rcases exists_slot_of_mem_repliesAll member with ⟨_, -, -, call_eq⟩
  rw [call_eq]

/-- The replies on a token all come before a later one. -/
theorem hasResumed_repliesAll_iff {ruleId : String} {index : Nat} (later : token.index < index) :
    HasResumed (repliesAll token trace slots) ruleId index ↔
      ∀ reply ∈ repliesAll token trace slots, reply.call.ruleId = ruleId →
        ∀ next ∈ reply.answer, next ≤ (index : Int) := by
  constructor
  · intro resumed reply replied same
    exact resumed reply replied same (index_of_mem_repliesAll replied ▸ later)
  · exact fun answered reply replied same _ => answered reply replied same

variable (ordered : slots.Pairwise fun first second => first.rule.id < second.rule.id)

include ordered

theorem pairwise_id_visitAll :
    (visitAll token trace slots).1.Pairwise fun first second => first.rule.id < second.rule.id := by
  have rules_ordered : (slots.map fun slot => slot.rule).Pairwise
      fun first second => first.id < second.id := List.pairwise_map.mpr ordered
  rw [← map_rule_visitAll token slots trace, List.pairwise_map] at rules_ordered
  exact rules_ordered

theorem eq_of_id_eq {slot other : RuleSlot} (member : slot ∈ slots) (among : other ∈ slots)
    (same : other.rule.id = slot.rule.id) : other = slot := by
  have distinct : (slots.map fun slot => slot.rule.id).Nodup := by
    refine List.pairwise_map.mpr (ordered.imp ?_)
    intro first second less same
    exact String.lt_irrefl _ (same ▸ less)
  exact List.inj_on_of_nodup_map distinct among member same

theorem mem_repliesAll_iff {slot : RuleSlot} (member : slot ∈ slots) :
    ⟨slot.rule.id, token.index⟩ ∈ (repliesAll token trace slots).map RuleReply.call ↔
      slot.wants token = true := by
  rw [map_call_repliesAll, List.mem_map]
  constructor
  · rintro ⟨other, among, same⟩
    rcases List.mem_filter.mp among with ⟨among, wanted⟩
    rw [← eq_of_id_eq ordered member among (congrArg RuleCall.ruleId same)]
    exact wanted
  · intro wanted
    exact ⟨slot, List.mem_filter.mpr ⟨member, wanted⟩, rfl⟩

theorem pairwise_before_repliesAll :
    ((repliesAll token trace slots).map RuleReply.call).Pairwise RuleCall.Before := by
  rw [map_call_repliesAll, List.pairwise_map]
  exact (ordered.filter _).imp fun less => .inr ⟨rfl, less⟩

variable (token trace) in
/-- After the calls on a token, a rule resumes after a later one exactly if it did so before, or if
it has answered so on the token. -/
theorem exists_mem_visitAll {slot : RuleSlot} (member : slot ∈ slots) :
    ∃ visited ∈ (visitAll token trace slots).1, visited.rule = slot.rule ∧
      ∀ later : Int, (token.index : Int) ≤ later →
        (visited.resume ≤ later ↔ slot.resume ≤ later ∧
          ∀ reply ∈ repliesAll token trace slots, reply.call.ruleId = slot.rule.id →
            ∀ next ∈ reply.answer, next ≤ later) := by
  induction slots generalizing trace with
  | nil => cases member
  | cons head rest ih =>
      rcases List.pairwise_cons.mp ordered with ⟨head_lt, rest_ordered⟩
      rcases List.mem_cons.mp member with rfl | among
      · -- The slots behind have other identifiers and do not answer for this rule.
        have others : ∀ trace, ∀ reply ∈ repliesAll token trace rest,
            reply.call.ruleId ≠ slot.rule.id := by
          intro trace reply replied same
          rcases exists_slot_of_mem_repliesAll replied with ⟨other, among, -, call_eq⟩
          have less := head_lt other among
          rw [call_eq] at same
          exact String.lt_irrefl _ (same ▸ less)
        by_cases wanted : slot.wants token
        · have resumed : slot.resume ≤ (token.index : Int) := by
            simp only [RuleSlot.wants, Bool.and_eq_true, decide_eq_true_eq] at wanted
            exact wanted.2
          simp only [visitAll, repliesAll, wanted, if_true]
          refine ⟨_, List.mem_cons_self, slot.rule_visit _ _, ?_⟩
          intro later passed
          rw [RuleSlot.resume_visit, RuleSlot.resumeAfter_le_iff resumed passed,
            List.forall_mem_cons]
          refine and_congr_right fun _ => ⟨fun answered => ⟨fun _ => answered, ?_⟩,
            fun answered => answered.1 rfl⟩
          exact fun reply replied same => absurd same (others _ reply replied)
        · simp only [visitAll, repliesAll, wanted, Bool.false_eq_true, if_false]
          refine ⟨_, List.mem_cons_self, rfl, ?_⟩
          intro later _
          exact (and_iff_left fun reply replied same => absurd same (others _ reply replied)).symm
      · have other : head.rule.id ≠ slot.rule.id := fun same =>
          String.lt_irrefl _ (same ▸ head_lt slot among)
        by_cases wanted : head.wants token
        · simp only [visitAll, repliesAll, wanted, if_true]
          rcases ih _ rest_ordered among with ⟨visited, found, same, resumes⟩
          refine ⟨visited, List.mem_cons_of_mem _ found, same, ?_⟩
          intro later passed
          rw [resumes later passed, List.forall_mem_cons]
          exact and_congr_right fun _ => (and_iff_right fun same => absurd same other).symm
        · simp only [visitAll, repliesAll, wanted, Bool.false_eq_true, if_false]
          rcases ih _ rest_ordered among with ⟨visited, found, same, resumes⟩
          exact ⟨visited, List.mem_cons_of_mem _ found, same, resumes⟩

end OneToken

section Tokens

variable {tokens : List Token} {slots : List RuleSlot} {trace : PassTrace}

theorem calls_foldl_visitAll (tokens : List Token) (state : List RuleSlot × PassTrace) :
    (tokens.foldl (fun state token => visitAll token state.2 state.1) state).2.calls.toList =
      state.2.calls.toList ++ (repliesFrom tokens state).map RuleReply.call := by
  induction tokens generalizing state with
  | nil => simp [repliesFrom]
  | cons token rest ih =>
      rw [List.foldl_cons, ih, calls_visitAll]
      simp only [repliesFrom, List.map_append, List.append_assoc]

theorem exists_of_mem_repliesFrom {reply : RuleReply}
    (member : reply ∈ repliesFrom tokens (slots, trace)) :
    ∃ token ∈ tokens, token.index = reply.call.index ∧
      ∃ slot ∈ slots, slot.rule.id = reply.call.ruleId := by
  induction tokens generalizing slots trace with
  | nil => cases member
  | cons token rest ih =>
      rcases List.mem_append.mp member with here | later
      · rcases exists_slot_of_mem_repliesAll here with ⟨slot, among, -, call_eq⟩
        rw [call_eq]
        exact ⟨token, List.mem_cons_self, rfl, slot, among, rfl⟩
      · rcases ih later with ⟨other, among, index_eq, slot, visited, id_eq⟩
        rcases exists_slot_of_mem_visitAll visited with ⟨before, present, rule_eq, -⟩
        exact ⟨other, List.mem_cons_of_mem _ among, index_eq, before, present, rule_eq ▸ id_eq⟩

theorem lt_index_of_mem_repliesFrom {index : Nat} (beyond : ∀ token ∈ tokens, index < token.index)
    {reply : RuleReply} (member : reply ∈ repliesFrom tokens (slots, trace)) :
    index < reply.call.index := by
  rcases exists_of_mem_repliesFrom member with ⟨token, among, index_eq, -⟩
  exact index_eq ▸ beyond token among

variable (increasing : tokens.Pairwise fun first second => first.index < second.index)
  (ordered : slots.Pairwise fun first second => first.rule.id < second.rule.id)

include increasing ordered

/-- Calls are made in the order of the tokens and, on one token, of the identifiers. -/
theorem pairwise_before_repliesFrom :
    ((repliesFrom tokens (slots, trace)).map RuleReply.call).Pairwise RuleCall.Before := by
  induction tokens generalizing slots trace with
  | nil => exact .nil
  | cons token rest ih =>
      rcases List.pairwise_cons.mp increasing with ⟨token_lt, rest_increasing⟩
      rw [repliesFrom, List.map_append, List.pairwise_append]
      refine ⟨pairwise_before_repliesAll ordered,
        ih rest_increasing (pairwise_id_visitAll ordered), ?_⟩
      intro first here second later
      rcases List.mem_map.mp here with ⟨reply, replied, rfl⟩
      rcases List.mem_map.mp later with ⟨other, other_replied, rfl⟩
      left
      rw [index_of_mem_repliesAll replied]
      exact lt_index_of_mem_repliesFrom token_lt other_replied

/-- A rule is called on a token exactly if it wants tokens of this kind, resumed at the token or
before it when the pass began, and has not answered since that it resumes later. -/
theorem mem_repliesFrom_iff {slot : RuleSlot} (member : slot ∈ slots) {token : Token}
    (among : token ∈ tokens) :
    ⟨slot.rule.id, token.index⟩ ∈ (repliesFrom tokens (slots, trace)).map RuleReply.call ↔
      slot.wants token = true ∧
        HasResumed (repliesFrom tokens (slots, trace)) slot.rule.id token.index := by
  induction tokens generalizing slots trace slot with
  | nil => cases among
  | cons first rest ih =>
      rcases List.pairwise_cons.mp increasing with ⟨first_lt, rest_increasing⟩
      rw [repliesFrom, List.map_append, List.mem_append]
      rcases List.mem_cons.mp among with rfl | later
      · -- What is answered on this token or later does not count for the call on it.
        have not_later : ⟨slot.rule.id, token.index⟩ ∉
            (repliesFrom rest (visitAll token trace slots)).map RuleReply.call := by
          intro called
          rcases List.mem_map.mp called with ⟨reply, replied, call_eq⟩
          have less := lt_index_of_mem_repliesFrom first_lt replied
          rw [call_eq] at less
          exact lt_irrefl _ less
        have resumed : HasResumed (repliesAll token trace slots ++
            repliesFrom rest (visitAll token trace slots)) slot.rule.id token.index := by
          intro reply replied _ earlier
          rcases List.mem_append.mp replied with here | beyond
          · exact absurd earlier (index_of_mem_repliesAll here).not_lt
          · exact absurd earlier (lt_index_of_mem_repliesFrom first_lt beyond).asymm
        rw [or_iff_left not_later, mem_repliesAll_iff ordered member, and_iff_left resumed]
      · have first_before := first_lt token later
        have not_here : ⟨slot.rule.id, token.index⟩ ∉
            (repliesAll first trace slots).map RuleReply.call := by
          intro called
          rcases List.mem_map.mp called with ⟨reply, replied, call_eq⟩
          have same_index := index_of_mem_repliesAll replied
          rw [call_eq] at same_index
          exact first_before.ne' same_index
        rcases exists_mem_visitAll first trace ordered member with
          ⟨visited, found, rule_eq, resumes⟩
        have called := @ih _ (visitAll first trace slots).2 rest_increasing
          (pairwise_id_visitAll ordered) visited found later
        rw [rule_eq] at called
        rw [or_iff_right not_here, called, hasResumed_append,
          hasResumed_repliesAll_iff first_before, RuleSlot.wants, RuleSlot.wants, rule_eq,
          Bool.and_eq_true, Bool.and_eq_true, decide_eq_true_eq, decide_eq_true_eq,
          resumes token.index (by omega)]
        tauto

end Tokens

/-- On which tokens a rule is called depends on its own answers alone. -/
theorem mem_calls_congr {first second : List RuleReply} {ruleId : String} {wanted : Nat → Prop}
    (first_iff : ∀ index, ⟨ruleId, index⟩ ∈ first.map RuleReply.call ↔
      wanted index ∧ HasResumed first ruleId index)
    (second_iff : ∀ index, ⟨ruleId, index⟩ ∈ second.map RuleReply.call ↔
      wanted index ∧ HasResumed second ruleId index)
    (agree : ∀ one ∈ first, ∀ other ∈ second, one.call.ruleId = ruleId →
      one.call = other.call → one.answer = other.answer) (index : Nat) :
    ⟨ruleId, index⟩ ∈ first.map RuleReply.call ↔ ⟨ruleId, index⟩ ∈ second.map RuleReply.call := by
  -- The answers that count are given on earlier tokens, where both have the same calls.
  induction index using Nat.strongRecOn with
  | ind index ih =>
      rw [first_iff, second_iff]
      refine and_congr_right fun _ => ⟨?_, ?_⟩
      · intro resumed other replied same earlier
        have called : other.call ∈ first.map RuleReply.call := by
          have there := (ih _ earlier).mpr (same ▸ List.mem_map_of_mem replied)
          rwa [← same] at there
        rcases List.mem_map.mp called with ⟨one, member, call_eq⟩
        rw [← agree one member other replied (call_eq ▸ same) call_eq]
        exact resumed one member (call_eq ▸ same) (call_eq ▸ earlier)
      · intro resumed one replied same earlier
        have called : one.call ∈ second.map RuleReply.call := by
          have there := (ih _ earlier).mp (same ▸ List.mem_map_of_mem replied)
          rwa [← same] at there
        rcases List.mem_map.mp called with ⟨other, member, call_eq⟩
        rw [agree one replied other member same call_eq.symm]
        exact resumed other member (call_eq ▸ same) (call_eq ▸ earlier)

namespace Dispatcher

variable {rules others : List Rule} {options : Value} {dispatcher : Dispatcher}

theorem nodup_of_ofRules (made : ofRules rules options = .ok dispatcher) :
    (rules.map Rule.id).Nodup := by
  simp only [ofRules] at made
  split at made
  · rename_i distinct
    exact ((List.mergeSort_perm rules _).map Rule.id).nodup_iff.mp distinct
  · cases made

/-- The order in which rules are given makes no difference. -/
theorem ofRules_perm (distinct : (rules.map Rule.id).Nodup) (reordered : others.Perm rules)
    (options : Value) : ofRules others options = ofRules rules options := by
  have sorted_eq : (others.mergeSort fun left right => left.id ≤ right.id) =
      rules.mergeSort fun left right => left.id ≤ right.id := by
    apply List.Perm.eq_of_pairwise _ (Rule.pairwise_id_mergeSort others)
      (Rule.pairwise_id_mergeSort rules)
    · have sorted := (List.mergeSort_perm rules fun left right => left.id ≤ right.id).symm
      exact (List.mergeSort_perm others _).trans (reordered.trans sorted)
    · intro first second first_mem second_mem before after
      have first_among := reordered.mem_iff.mp (List.mem_mergeSort.mp first_mem)
      exact List.inj_on_of_nodup_map distinct first_among (List.mem_mergeSort.mp second_mem)
        (String.le_antisymm before after)
  rw [ofRules, ofRules, sorted_eq]

/-- The slots of a pass stand in the order of the identifiers. -/
theorem pairwise_id_slots (made : ofRules rules options = .ok dispatcher) :
    dispatcher.slots.Pairwise fun first second => first.rule.id < second.rule.id := by
  have sorted : dispatcher.rules.Pairwise fun first second => first.id < second.id := by
    have distinct := nodup_map_id_mergeSort (nodup_of_ofRules made)
    rw [rules_of_ofRules made]
    refine (Rule.pairwise_id_mergeSort rules).imp₂ ?_ (List.pairwise_map.mp distinct)
    intro first second before different
    exact String.not_le.mp fun after => different (String.le_antisymm before after)
  rw [Dispatcher.rules, List.pairwise_map] at sorted
  exact List.pairwise_map.mpr sorted

theorem exists_slot (made : ofRules rules options = .ok dispatcher) {rule : Rule}
    (member : rule ∈ rules) : ∃ slot ∈ dispatcher.slots, slot.rule = rule ∧ slot.resume = 0 := by
  have active : rule ∈ dispatcher.rules := by
    rw [rules_of_ofRules made]
    exact List.mem_mergeSort.mpr member
  rcases List.mem_map.mp active with ⟨context, among, rfl⟩
  exact ⟨context.startPass, List.mem_map_of_mem among, rfl, rfl⟩

variable (dispatcher) (stream : TokenStream) (fixing : Bool)

/-- The replies of a pass, in order. -/
def replies : List RuleReply :=
  repliesFrom stream.tokens.toList (dispatcher.slots, ⟨.start stream fixing, #[], #[]⟩)

/-- The replies of a pass are replies to its calls. -/
theorem map_call_replies :
    (dispatcher.replies stream fixing).map RuleReply.call =
      (dispatcher.dispatch stream fixing).2.calls.toList := by
  have calls_eq := calls_foldl_visitAll stream.tokens.toList
    (dispatcher.slots, ⟨.start stream fixing, #[], #[]⟩)
  exact calls_eq.symm

variable {dispatcher stream}

theorem mem_replies_iff (made : ofRules rules options = .ok dispatcher) (bounded : stream.Bounded)
    {rule : Rule} (member : rule ∈ rules) (index : Nat) :
    ⟨rule.id, index⟩ ∈ (dispatcher.replies stream fixing).map RuleReply.call ↔
      stream.kindIs index rule.interest.contains = true ∧
        HasResumed (dispatcher.replies stream fixing) rule.id index := by
  rcases exists_slot made member with ⟨slot, among, rfl, resume_eq⟩
  cases found : stream.token? index with
  | none =>
      have outside : stream.kindIs index slot.rule.interest.contains = false := by
        simp [TokenStream.kindIs, TokenStream.kind?, found]
      rw [outside]
      refine iff_of_false ?_ (fun both => Bool.false_ne_true both.1)
      intro called
      rcases List.mem_map.mp called with ⟨reply, replied, call_eq⟩
      rcases exists_of_mem_repliesFrom replied with ⟨token, present, index_eq, -⟩
      have here := bounded.token?_of_mem present
      rw [index_eq, call_eq, found] at here
      cases here
  | some token =>
      have present : token ∈ stream.tokens.toList := by
        rw [TokenStream.token?, ← Array.getElem?_toList] at found
        exact List.mem_of_getElem? found
      have wants_eq : slot.wants token = stream.kindIs index slot.rule.interest.contains := by
        simp [RuleSlot.wants, TokenStream.kindIs, TokenStream.kind?, found, resume_eq]
      have called : ⟨slot.rule.id, token.index⟩ ∈
          (dispatcher.replies stream fixing).map RuleReply.call ↔ slot.wants token = true ∧
            HasResumed (dispatcher.replies stream fixing) slot.rule.id token.index :=
        mem_repliesFrom_iff bounded.pairwise_index (pairwise_id_slots made) among present
      rw [bounded.index_eq found, wants_eq] at called
      exact called

/-- A pass calls the rules in the order of the tokens and, on one token, of the identifiers. A rule
is called on the tokens of the kinds that it wants to see, except those before an index that it has
answered earlier in the pass; so the calls of a rule depend on its own answers only, whatever other
rules are active and answer. The order in which the rules are given makes no difference to a pass.
-/
theorem dispatch_calls {rules : List Rule} (distinct : (rules.map Rule.id).Nodup)
    (options : List (String × Table)) (lexemes : List Lexeme) (fixing : Bool) :
    let stream : TokenStream := .ofLexemes lexemes
    ∃ dispatcher, ofRules rules (.ofOptions options) = .ok dispatcher ∧
      (∀ others : List Rule, others.Perm rules →
        ofRules others (.ofOptions options) = .ok dispatcher) ∧
      let calls := (dispatcher.dispatch stream fixing).2.calls.toList
      let replies := dispatcher.replies stream fixing
      replies.map RuleReply.call = calls ∧ calls.Pairwise RuleCall.Before ∧
        (∀ call ∈ calls, call.index < stream.size ∧ call.ruleId ∈ rules.map Rule.id) ∧
        ∀ rule ∈ rules,
          (∀ index, ⟨rule.id, index⟩ ∈ calls ↔
            stream.kindIs index rule.interest.contains = true ∧
              HasResumed replies rule.id index) ∧
          ∀ (others : List Rule) (otherOptions : Value) (other : Dispatcher) (otherFixing : Bool),
            rule ∈ others → ofRules others otherOptions = .ok other →
            (∀ one ∈ replies, ∀ another ∈ other.replies stream otherFixing,
              one.call.ruleId = rule.id → one.call = another.call →
                one.answer = another.answer) →
            ∀ index, ⟨rule.id, index⟩ ∈ (other.dispatch stream otherFixing).2.calls.toList ↔
              ⟨rule.id, index⟩ ∈ calls := by
  intro stream
  have bounded := TokenStream.bounded_ofLexemes lexemes
  have made : ofRules rules (.ofOptions options) =
      .ok (.ofOptions rules fun id => (options.lookup id).getD []) :=
    ofRules_of_optionsFor distinct (optionsFor_ofOptions options)
  refine ⟨_, made, fun others reordered => (ofRules_perm distinct reordered _).trans made, ?_⟩
  intro calls replies
  have replied : replies.map RuleReply.call = calls := map_call_replies _ stream fixing
  refine ⟨replied, ?_, ?_, ?_⟩
  · rw [← replied]
    exact pairwise_before_repliesFrom bounded.pairwise_index (pairwise_id_slots made)
  · intro call member
    rw [← replied] at member
    rcases List.mem_map.mp member with ⟨reply, among, rfl⟩
    rcases exists_of_mem_repliesFrom among with ⟨token, present, index_eq, slot, active, id_eq⟩
    have rule_mem := rule_mem_of_mem_slots active
    rw [rules_of_ofRules made] at rule_mem
    rw [← index_eq, ← id_eq]
    exact ⟨bounded.index_lt present, List.mem_map_of_mem (List.mem_mergeSort.mp rule_mem)⟩
  · intro rule member
    have here := mem_replies_iff fixing made bounded member
    refine ⟨fun index => replied ▸ here index, ?_⟩
    intro others otherOptions other otherFixing among other_made agree index
    have there := mem_replies_iff otherFixing other_made bounded among
    rw [← replied, ← map_call_replies]
    exact (mem_calls_congr here there agree index).symm

/-- A rule that looks at variables, and wants to go on some tokens after each of them. -/
def skipping (id : String) (distance : Nat) : Rule :=
  ⟨id, id, "", "", [.variable], fun _ index _ => .done (some (index + distance : Nat))⟩

/-- A rule that skips tokens does not keep another one from them. -/
theorem dispatch_calls_skipping :
    let rules := [skipping "a" 3, skipping "b" 1]
    let stream : TokenStream := .ofLexemes (List.replicate 4 ⟨.variable, "$a", ⟨1, 1⟩⟩)
    (rules.map Rule.id).Nodup ∧
      ∃ dispatcher, ofRules rules (.ofOptions []) = .ok dispatcher ∧
        ofRules rules.reverse (.ofOptions []) = .ok dispatcher ∧
        (dispatcher.dispatch stream true).2.calls.toList =
          [⟨"a", 0⟩, ⟨"b", 0⟩, ⟨"b", 1⟩, ⟨"b", 2⟩, ⟨"a", 3⟩, ⟨"b", 3⟩] := by
  intro rules stream
  have distinct : (rules.map Rule.id).Nodup := by decide
  rcases dispatch_calls distinct [] (List.replicate 4 ⟨.variable, "$a", ⟨1, 1⟩⟩) true with
    ⟨dispatcher, made, reordered, -⟩
  refine ⟨distinct, dispatcher, made, reordered _ rules.reverse_perm, ?_⟩
  have sorted : rules.Pairwise fun left right => decide (left.id ≤ right.id) := by decide
  rw [ofRules_of_optionsFor distinct (optionsFor_ofOptions []), List.mergeSort_of_pairwise sorted]
    at made
  cases made
  decide +kernel

end Dispatcher

end TokenLint
