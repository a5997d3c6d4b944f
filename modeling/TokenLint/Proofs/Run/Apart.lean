import TokenLint.Proofs.Fix.Exchange
import TokenLint.Proofs.Rule.Rendering
import TokenLint.Proofs.Run.Commits
import Mathlib.Data.List.Induction

/-!
# Passes whose batches share no token

Where a rule alone is at work and the batches that it offers on the tokens of a stream share no
token, a fixing pass reports each problem for the first time, and no batch clashes with an earlier
one. The pass then makes all edits, as if they were one batch.
-/

namespace TokenLint

open Ledger

/-- Whether all that a rule does about the tokens of a stream is to report some of them, each with
the batch of edits that fixes it. -/
def Rule.Offers (rule : Rule) (stream : TokenStream) (batch : Nat → List Edit) : Prop :=
  ∀ token ∈ stream.tokens.toList, rule.interest.contains token.kind = true → ∀ options,
    rule.process stream token.index options = .done none ∧ batch token.index = [] ∨
      ∃ made : Report, rule.process stream token.index options =
          reportAndFix made (batch token.index) ∧
        made.index = token.index ∧ made.fixable = true ∧ made.Renders

/-- The edits of the batches that a rule offers on some tokens. -/
def Rule.editsOn (rule : Rule) (batch : Nat → List Edit) (tokens : List Token) : List Edit :=
  (tokens.filter fun token => rule.interest.contains token.kind).flatMap fun token =>
    batch token.index

/-- A fixing pass in which just the edits of the batches for some tokens were made. -/
structure Pass.Entered (rule : Rule) (stream : TokenStream) (batch : Nat → List Edit)
    (done : List Token) (pass : Pass) : Prop where
  fixing : pass.fixing = true
  stream_eq : pass.stream = stream
  size_eq : pass.ledger.size = stream.size
  closed : pass.ledger.staged = none
  seen : ∀ key ∈ pass.seen, ∃ token ∈ done, key.index = token.index
  patch?_eq : ∀ index < stream.size, pass.ledger.patch? index =
    (editsAt (rule.editsOn batch done) index).foldl enter none

variable {rule : Rule} {stream : TokenStream} {batch : Nat → List Edit} {done : List Token}
  {token : Token} {pass : Pass} {edits : List Edit}

theorem Ledger.editsAt_append (first second : List Edit) (index : Nat) :
    editsAt (first ++ second) index = editsAt first index ++ editsAt second index :=
  List.filter_append ..

theorem Rule.editsOn_concat (rule : Rule) (batch : Nat → List Edit) (done : List Token)
    (token : Token) : rule.editsOn batch (done ++ [token]) = rule.editsOn batch done ++
      if rule.interest.contains token.kind then batch token.index else [] := by
  rw [editsOn, List.filter_append, List.flatMap_append, ← editsOn]
  by_cases interested : rule.interest.contains token.kind = true
  · rw [List.filter_cons_of_pos (by exact interested), if_pos interested]
    simp
  · rw [List.filter_cons_of_neg (by exact interested), if_neg interested]
    rfl

theorem editsAt_editsOn_eq (index : Nat) (tokens : List Token) :
    editsAt (rule.editsOn batch tokens) index =
      (tokens.filter fun token => rule.interest.contains token.kind).flatMap fun token =>
        editsAt (batch token.index) index := by
  rw [Rule.editsOn, editsAt, List.filter_flatMap]
  rfl

/-- Where only the batch for one token concerns another token, all its edits come from there. -/
theorem editsAt_editsOn {index : Nat} (bounded : stream.Bounded)
    (member : token ∈ stream.tokens.toList)
    (interested : rule.interest.contains token.kind = true)
    (others : ∀ other ∈ stream.tokens.toList, other.index ≠ token.index →
      editsAt (batch other.index) index = []) :
    editsAt (rule.editsOn batch stream.tokens.toList) index =
      editsAt (batch token.index) index := by
  rcases List.append_of_mem member with ⟨before, after, tokens_eq⟩
  have ordered := bounded.pairwise_index
  rw [tokens_eq, List.pairwise_append, List.pairwise_cons] at ordered
  have earlier : editsAt (rule.editsOn batch before) index = [] := by
    rw [editsAt_editsOn_eq, List.flatMap_eq_nil_iff]
    intro other among
    have other_mem := (List.mem_filter.mp among).1
    exact others other (tokens_eq ▸ List.mem_append_left _ other_mem)
      (Nat.ne_of_lt (ordered.2.2 other other_mem token (List.mem_cons_self ..)))
  have later : editsAt (rule.editsOn batch after) index = [] := by
    rw [editsAt_editsOn_eq, List.flatMap_eq_nil_iff]
    intro other among
    have other_mem := (List.mem_filter.mp among).1
    exact others other (tokens_eq ▸ List.mem_append_right _ (List.mem_cons_of_mem _ other_mem))
      (Nat.ne_of_gt (ordered.2.1.1 other other_mem))
  rw [editsAt_editsOn_eq] at earlier later ⊢
  rw [tokens_eq, List.filter_append, List.filter_cons_of_pos (by exact interested),
    List.flatMap_append, List.flatMap_cons, earlier, later, List.nil_append, List.append_nil]

/-- A report about a token that nothing was said about is offered for fixing. -/
theorem Pass.exists_report_of_unseen {made : Report} (renders : made.Renders)
    (fixable : made.fixable = true) (fixing : pass.fixing = true)
    (unseen : ∀ key ∈ pass.seen, key.index ≠ made.index) (ruleId : String) :
    ∃ after : Pass, pass.report ruleId made = .ok (after, true) ∧ after.stream = pass.stream ∧
      after.fixing = true ∧ after.ledger.patches = pass.ledger.patches ∧
      after.ledger.staged = pass.ledger.staged ∧
      ∀ key ∈ after.seen, key ∈ pass.seen ∨ key.index = made.index := by
  rcases renders with ⟨message, rendered⟩
  let key : ReportKey := ⟨ruleId ++ "." ++ made.shortCode, made.index, ""⟩
  let accepted := (pass.accept key message made.severity made.fixable).1
  have unknown : ¬pass.seen.contains key = true := fun known =>
    unseen key (List.contains_iff_mem.mp known) rfl
  have accept_eq : pass.accept key message made.severity made.fixable =
      (accepted, some pass.reports.size) := by
    simp only [accepted, accept, if_neg unknown]
  have seen_eq : accepted.seen = key :: pass.seen := by
    simp only [accepted, accept, if_neg unknown]
  have ledger_eq : accepted.ledger = pass.ledger := ledger_accept ..
  refine ⟨{ accepted with ledger := accepted.ledger.offer ⟨pass.reports.size, key.code⟩ }, ?_,
    stream_accept .., (fixing_accept ..).trans fixing, ledger_eq ▸ rfl, ledger_eq ▸ rfl, ?_⟩
  · simp only [report, rendered, bind, Except.bind]
    rw [accept_eq]
    simp only [fixable, fixing, Bool.and_self, if_true]
    rfl
  · intro known member
    rw [seen_eq] at member
    rcases List.mem_cons.mp member with rfl | before
    · exact .inr rfl
    · exact .inl before

/-- A batch that shares no token with the ones before it is made. -/
theorem Pass.Entered.patch?_commit (entered : pass.Entered rule stream batch done)
    (apart : ∀ edit ∈ rule.editsOn batch done, ∀ other ∈ edits, edit.index ≠ other.index)
    {ledger : Ledger} (offer : Option Offer) (patches_eq : ledger.patches = pass.ledger.patches)
    {index : Nat} (inside : index < stream.size) :
    (ledger.commit edits offer).ledger.patch? index =
      (editsAt (rule.editsOn batch done ++ edits) index).foldl enter none := by
  have patch?_eq : ∀ place, ledger.patch? place = pass.ledger.patch? place := fun place => by
    rw [patch?, patches_eq, ← patch?]
  have size_eq : ledger.size = stream.size := by
    rw [Ledger.size, patches_eq]
    exact entered.size_eq
  have clear : ledger.clashing edits = [] := by
    rw [clashing_eq_nil_iff]
    intro edit member inRange
    rw [isTouched, patch?_eq, entered.patch?_eq _ (size_eq ▸ inRange),
      editsAt_eq_nil_of_apart apart member]
    rfl
  rw [patch?_commit_of_clear offer (size_eq ▸ inside) clear, patch?_eq,
    entered.patch?_eq _ inside, editsAt_append, List.foldl_append]

theorem Pass.Entered.betweenCalls (entered : pass.Entered rule stream batch done) :
    pass.betweenCalls.Entered rule stream batch done :=
  ⟨entered.fixing, entered.stream_eq, entered.size_eq, rfl, entered.seen, entered.patch?_eq⟩

theorem Pass.Entered.mono (entered : pass.Entered rule stream batch done)
    (quiet : (if rule.interest.contains token.kind then batch token.index else []) = []) :
    pass.Entered rule stream batch (done ++ [token]) where
  fixing := entered.fixing
  stream_eq := entered.stream_eq
  size_eq := entered.size_eq
  closed := entered.closed
  seen key member := by
    rcases entered.seen key member with ⟨earlier, among, same⟩
    exact ⟨earlier, List.mem_append_left _ among, same⟩
  patch?_eq := by
    rw [Rule.editsOn_concat, quiet, List.append_nil]
    exact entered.patch?_eq

/-- A call reports its token and makes the batch. -/
theorem Pass.Entered.run (entered : pass.Entered rule stream batch done) {made : Report}
    (interested : rule.interest.contains token.kind = true) (about : made.index = token.index)
    (fixable : made.fixable = true) (renders : made.Renders)
    (new : ∀ earlier ∈ done, earlier.index ≠ token.index)
    (covers : stream.Covers (batch token.index))
    (apart : ∀ edit ∈ rule.editsOn batch done, ∀ other ∈ batch token.index,
      edit.index ≠ other.index) (ruleId : String) (memory : Memory) :
    ∃ after : Pass, ((Rule.reportAndFix made (batch token.index)).run ruleId ⟨pass, memory⟩) =
        ⟨⟨after, memory⟩, .ok none⟩ ∧ after.Entered rule stream batch (done ++ [token]) := by
  have unseen : ∀ key ∈ pass.seen, key.index ≠ made.index := by
    intro key member same
    rcases entered.seen key member with ⟨earlier, among, index_eq⟩
    exact new earlier among (by exact_mod_cast index_eq.symm.trans (same.trans about))
  rcases Pass.exists_report_of_unseen renders fixable entered.fixing unseen ruleId with
    ⟨accepted, reported, stream_eq, fixing, patches_eq, staged_eq, seen⟩
  have size_eq : accepted.ledger.size = stream.size := by
    rw [Ledger.size, patches_eq]
    exact entered.size_eq
  have inRange : ∀ edit ∈ batch token.index, edit.index < accepted.ledger.size :=
    fun edit member => size_eq ▸ covers edit member
  refine ⟨accepted.take (accepted.ledger.rollback.clearOffer.commit (batch token.index)
    accepted.ledger.offered), ?_, ?_⟩
  · rw [Rule.reportAndFix, RuleProgram.run_report_ok reported, if_pos rfl,
      RuleProgram.run_changeTogether inRange (staged_eq.trans entered.closed)]
    rfl
  · refine ⟨?_, ?_, ?_, ?_, ?_, ?_⟩
    · rw [Pass.fixing_take, fixing]
    · rw [Pass.stream_take, stream_eq, entered.stream_eq]
    · rw [Pass.ledger_take, size_commit]
      exact size_eq
    · rw [Pass.ledger_take, staged_commit]
      rfl
    · intro key member
      rw [Pass.seen_take] at member
      rcases seen key member with before | here
      · rcases entered.seen key before with ⟨earlier, among, same⟩
        exact ⟨earlier, List.mem_append_left _ among, same⟩
      · exact ⟨token, List.mem_append_right _ (List.mem_singleton_self _), here.trans about⟩
    · intro index inside
      rw [Pass.ledger_take, Rule.editsOn_concat, if_pos interested]
      have cleared_eq : accepted.ledger.rollback.clearOffer.patches = pass.ledger.patches :=
        patches_eq
      exact entered.patch?_commit apart _ cleared_eq inside

/-- A rule that waits for no token, in a pass that made the edits for the tokens before. -/
structure Entered (rule : Rule) (stream : TokenStream) (batch : Nat → List Edit)
    (done : List Token) (state : List RuleSlot × PassTrace) : Prop where
  pass : state.2.pass.Entered rule stream batch done
  slots : ∃ slot : RuleSlot, state.1 = [slot] ∧ slot.rule = rule ∧ slot.resume = 0

/-- The call on a token, if there is one, makes the batch for it. -/
theorem Entered.visitAll {state : List RuleSlot × PassTrace} (offers : rule.Offers stream batch)
    (entered : Entered rule stream batch done state) (member : token ∈ stream.tokens.toList)
    (new : ∀ earlier ∈ done, earlier.index ≠ token.index)
    (covers : stream.Covers (batch token.index))
    (apart : ∀ edit ∈ rule.editsOn batch done, ∀ other ∈ batch token.index,
      edit.index ≠ other.index) :
    Entered rule stream batch (done ++ [token]) (visitAll token state.2 state.1) := by
  rcases state with ⟨slots, trace⟩
  rcases entered with ⟨entered, slot, slots_eq, rule_eq, resume_eq⟩
  dsimp only at entered slots_eq
  subst slots_eq rule_eq
  by_cases wanted : slot.wants token = true
  · have interested := (Bool.and_eq_true_iff.mp wanted).1
    simp only [TokenLint.visitAll, wanted, if_true, RuleSlot.visit, entered.stream_eq]
    rcases offers token member interested slot.options with
      ⟨program_eq, quiet⟩ | ⟨made, program_eq, about, fixable, renders⟩
    · rw [program_eq]
      refine ⟨(entered.mono ?_).betweenCalls, _, rfl, rfl, resume_eq⟩
      rw [if_pos interested, quiet]
    · rcases entered.run interested about fixable renders new covers apart slot.rule.id
        slot.memory with ⟨after, run_eq, entered⟩
      rw [program_eq, run_eq]
      exact ⟨entered.betweenCalls, _, rfl, rfl, resume_eq⟩
  · simp only [TokenLint.visitAll, wanted, Bool.false_eq_true, if_false]
    refine ⟨entered.mono (if_neg fun interested => wanted ?_), slot, rfl, rfl, resume_eq⟩
    rw [RuleSlot.wants, interested, resume_eq]
    simp

/-- What is asked of a rule and of its batches for a stream for all of them to be made. -/
structure Rule.OffersApart (rule : Rule) (stream : TokenStream) (batch : Nat → List Edit) :
    Prop where
  offers : rule.Offers stream batch
  covers : ∀ token ∈ stream.tokens.toList, stream.Covers (batch token.index)
  apart : ∀ first < stream.size, ∀ second < stream.size, first ≠ second →
    ∀ edit ∈ batch first, ∀ other ∈ batch second, edit.index ≠ other.index

namespace Dispatcher

variable {dispatcher : Dispatcher} {index : Nat}

/-- A fixing pass of a rule whose batches share no token makes the edits of all of them. -/
theorem patch?_dispatch_of_apart (alone : dispatcher.rules = [rule]) (bounded : stream.Bounded)
    (offered : rule.OffersApart stream batch) (inside : index < stream.size) :
    (dispatcher.dispatch stream true).2.pass.ledger.patch? index =
      (editsAt (rule.editsOn batch stream.tokens.toList) index).foldl enter none := by
  rcases List.map_eq_singleton_iff.mp alone with ⟨context, contexts_eq, rule_eq⟩
  have started : Entered rule stream batch []
      (dispatcher.slots, ⟨.start stream true, #[], #[]⟩) := by
    refine ⟨⟨rfl, rfl, Array.size_replicate, rfl, by simp [Pass.start], ?_⟩, ?_⟩
    · intro index _
      exact patch?_of_patches_eq_replicate rfl index
    · exact ⟨context.startPass, by rw [slots, contexts_eq]; rfl, rule_eq, rfl⟩
  have reached : ∀ done rest : List Token, stream.tokens.toList = done ++ rest →
      Entered rule stream batch done (done.foldl
        (fun state token => TokenLint.visitAll token state.2 state.1)
        (dispatcher.slots, ⟨.start stream true, #[], #[]⟩)) := by
    intro done
    induction done using List.reverseRecOn with
    | nil => exact fun _ _ => started
    | append_singleton done token ih =>
        intro rest tokens_eq
        rw [List.append_assoc, List.singleton_append] at tokens_eq
        rw [List.foldl_append]
        have member : token ∈ stream.tokens.toList := by simp [tokens_eq]
        have ordered := bounded.pairwise_index
        rw [tokens_eq, List.pairwise_append] at ordered
        have before : ∀ earlier ∈ done, earlier.index < token.index := fun earlier among =>
          ordered.2.2 earlier among token (List.mem_cons_self ..)
        refine (ih _ tokens_eq).visitAll offered.offers member (fun earlier among =>
          Nat.ne_of_lt (before earlier among)) (offered.covers token member) ?_
        intro edit made
        rcases List.mem_flatMap.mp made with ⟨earlier, among, edit_mem⟩
        have earlier_lt := before earlier (List.mem_filter.mp among).1
        have token_lt := bounded.index_lt member
        exact offered.apart _ (Nat.lt_trans earlier_lt token_lt) _ token_lt
          (Nat.ne_of_lt earlier_lt) edit edit_mem
  exact (reached _ [] (List.append_nil _).symm).pass.patch?_eq index inside

/-- What becomes of a token that one batch concerns is decided by this batch. -/
theorem patch?_dispatch_of_concerned (alone : dispatcher.rules = [rule]) (bounded : stream.Bounded)
    (offered : rule.OffersApart stream batch) (member : token ∈ stream.tokens.toList)
    (interested : rule.interest.contains token.kind = true)
    (concerned : editsAt (batch token.index) index ≠ []) (inside : index < stream.size) :
    (dispatcher.dispatch stream true).2.pass.ledger.patch? index =
      (editsAt (batch token.index) index).foldl enter none := by
  rw [patch?_dispatch_of_apart alone bounded offered inside,
    editsAt_editsOn bounded member interested]
  intro other among differs
  rcases List.exists_mem_of_ne_nil _ concerned with ⟨edit, edit_mem⟩
  rcases List.mem_filter.mp edit_mem with ⟨edit_mem, here⟩
  rw [← of_decide_eq_true here]
  exact editsAt_eq_nil_of_apart (offered.apart _ (bounded.index_lt among) _
    (bounded.index_lt member) differs) edit_mem

theorem patch?_dispatch_of_unconcerned (alone : dispatcher.rules = [rule])
    (bounded : stream.Bounded) (offered : rule.OffersApart stream batch)
    (unconcerned : ∀ token ∈ stream.tokens.toList, editsAt (batch token.index) index = [])
    (inside : index < stream.size) :
    (dispatcher.dispatch stream true).2.pass.ledger.patch? index = none := by
  have none_made : editsAt (rule.editsOn batch stream.tokens.toList) index = [] := by
    rw [editsAt_editsOn_eq, List.flatMap_eq_nil_iff]
    exact fun token member => unconcerned token (List.mem_filter.mp member).1
  rw [patch?_dispatch_of_apart alone bounded offered inside, none_made]
  rfl

end Dispatcher

end TokenLint
