import TokenLint.Proofs.Rule.Builtin
import TokenLint.Proofs.Run.Contexts

/-!
# What a checking pass hears

In a pass that does not fix, a rule that only reports spoken the same about a token of a
stream whatever was said before: it cannot see the reports of the others, and it is never
asked to fix. Its remarks are read off its program. A checking pass is then its rules'
remarks, token by token and rule by rule, of which the pass keeps the first of each key.
-/

namespace TokenLint

/-- Something said about a token, with the key under which it is said only once. -/
structure Remark where
  key : ReportKey
  message : String
  severity : Severity
  fixable : Bool

/-- What a program says before it ends, and how it ends. -/
structure Speech where
  remarks : List Remark
  result : Except RuleFault (Option Int)

/-- What a report says, or why its template cannot be filled. -/
def Report.remark (ruleId : String) (made : Report) : Except TemplateError Remark :=
  (renderTemplate made.template made.arguments).map fun message =>
    ⟨⟨ruleId ++ "." ++ made.shortCode, made.index, ""⟩, message, made.severity, made.fixable⟩

/-- What is said about a rule that failed. -/
def RuleFailure.remark (failure : RuleFailure) : Remark :=
  ⟨⟨Diagnostic.ruleErrorCode, failure.index, failure.ruleId⟩, failure.message, .error, false⟩

namespace Pass

/-- A pass after a remark. -/
def hear (pass : Pass) (remark : Remark) : Pass :=
  (pass.accept remark.key remark.message remark.severity remark.fixable).1

/-- A pass after some remarks, in their order. -/
def hearAll (pass : Pass) (remarks : List Remark) : Pass := remarks.foldl hear pass

/-- The diagnostic of a remark, listed where the pass places its token. -/
def diagnosticOf (pass : Pass) (remark : Remark) : Diagnostic where
  code := remark.key.code
  severity := remark.severity
  message := remark.message
  tokenIndex := remark.key.index
  position := pass.positionOf remark.key.index
  fixable := remark.fixable
  fixState := .unfixed
  note := none

theorem positionOf_index {stream : TokenStream} (bounded : stream.Bounded) {token : Token}
    (member : token ∈ stream.tokens.toList) :
    (start stream false).positionOf token.index = token.position := by
  have here : (start stream false).stream.token? token.index = some token :=
    bounded.token?_of_mem member
  simp [positionOf, here]

/-- A pass that does not fix and of whose ledger nobody has made use. -/
structure Checking (pass : Pass) : Prop where
  reporting : pass.fixing = false
  untouched : pass.ledger = .empty pass.stream.size

variable {pass : Pass}

theorem checking_start (stream : TokenStream) : (start stream false).Checking := ⟨rfl, rfl⟩

@[simp]
theorem stream_hear (remark : Remark) : (pass.hear remark).stream = pass.stream := by
  simp [hear]

@[simp]
theorem stream_hearAll (remarks : List Remark) : (pass.hearAll remarks).stream = pass.stream := by
  induction remarks generalizing pass with
  | nil => rfl
  | cons first rest ih => exact ih.trans (stream_hear first)

theorem hearAll_append (first second : List Remark) :
    pass.hearAll (first ++ second) = (pass.hearAll first).hearAll second :=
  List.foldl_append ..

theorem Checking.hear (checking : pass.Checking) (remark : Remark) :
    (pass.hear remark).Checking := by
  refine ⟨?_, ?_⟩
  · simp [Pass.hear, checking.reporting]
  · simp [Pass.hear, checking.untouched]

theorem Checking.hearAll (checking : pass.Checking) (remarks : List Remark) :
    (pass.hearAll remarks).Checking := by
  induction remarks generalizing pass with
  | nil => exact checking
  | cons first rest ih => exact ih (checking.hear first)

/-- Nothing has to be cleared between two calls. -/
theorem Checking.betweenCalls_eq (checking : pass.Checking) : pass.betweenCalls = pass := by
  have cleared : pass.ledger.rollback.clearOffer = pass.ledger := by
    rw [checking.untouched]
    rfl
  rw [betweenCalls, cleared]

/-- A report is heard and not offered for fixing. -/
theorem Checking.report_eq (checking : pass.Checking) (ruleId : String) (made : Report) :
    pass.report ruleId made =
      (made.remark ruleId).map fun remark => (pass.hear remark, false) := by
  simp only [report, Report.remark, bind, Except.bind, pure, Except.pure, checking.reporting]
  cases renderTemplate made.template made.arguments with
  | error error => rfl
  | ok message =>
      simp only [Except.map, Pass.hear, Bool.and_false]
      split
      · rename_i accepted answered
        rw [answered]
      · rename_i accepted number answered
        simp [answered]

end Pass

namespace RuleProgram

/-- What a program says where it is never asked to fix, if all it does is to report. -/
def speech? (ruleId : String) : RuleProgram (Option Int) → Option Speech
  | done answer => some ⟨[], .ok answer⟩
  | fail fault => some ⟨[], .error fault⟩
  | report made next =>
    match made.remark ruleId with
    | .ok remark => ((next false).speech? ruleId).map fun rest =>
        ⟨remark :: rest.remarks, rest.result⟩
    | .error error => some ⟨[], .error (.template error)⟩
  | _ => none

/-- A program that has a speech does nothing but speak. -/
theorem run_of_speech? {ruleId : String} {program : RuleProgram (Option Int)} {speech : Speech}
    (spoken : program.speech? ruleId = some speech) {pass : Pass} (checking : pass.Checking)
    (memory : Memory) :
    program.run ruleId ⟨pass, memory⟩ =
      ⟨⟨pass.hearAll speech.remarks, memory⟩, speech.result⟩ := by
  induction program generalizing pass speech with
  | done answer =>
      cases spoken
      rfl
  | fail fault =>
      cases spoken
      rfl
  | report made next ih =>
      have reported := checking.report_eq ruleId made
      simp only [speech?] at spoken
      split at spoken
      · rename_i remark rendered
        rw [rendered] at reported
        rw [run_report_ok reported]
        rcases Option.map_eq_some_iff.mp spoken with ⟨rest, restSpoken, rfl⟩
        exact ih false restSpoken (checking.hear remark)
      · rename_i error failed
        rw [failed] at reported
        cases spoken
        exact run_report_error reported
  | _ => cases spoken

/-- A program that proposes fixes only reports as long as it is never asked for one. -/
theorem Proposes.isSome_speech? {allowed : List Edit → Prop} {program : RuleProgram (Option Int)}
    (proposes : program.Proposes allowed) (ruleId : String) :
    (program.speech? ruleId).isSome := by
  induction proposes with
  | done answer => rfl
  | fail fault => rfl
  | report unfixable _ ih =>
      simp only [speech?]
      split
      · rw [Option.isSome_map]
        exact ih
      · rfl
  | changeset answer _ _ leave | replacement answer _ _ leave =>
      simp only [speech?, leave]
      split <;> rfl

end RuleProgram

/-- A rule that only reports on the tokens of a stream, as long as it is not asked to fix. -/
def Rule.Speaks (rule : Rule) (stream : TokenStream) : Prop :=
  ∀ index < stream.size, ∀ options, ((rule.process stream index options).speech? rule.id).isSome

namespace RuleSlot

variable (stream : TokenStream) (token : Token) (slot : RuleSlot)

/-- All that a rule says about a token when it is called. -/
def speech : Speech :=
  ((slot.rule.process stream token.index slot.options).speech? slot.rule.id).getD ⟨[], .ok none⟩

/-- All that a rule has said about a token once its call is over. -/
def remarks : List Remark :=
  if slot.wants token then
    match (slot.speech stream token).result with
    | .ok _ => (slot.speech stream token).remarks
    | .error fault =>
      (slot.speech stream token).remarks ++
        [(⟨slot.rule.id, token.index, fault⟩ : RuleFailure).remark]
  else []

/-- A rule behind a token: if it was called and did not fail, its answer tells where it goes on. -/
def moved : RuleSlot :=
  if slot.wants token then
    match (slot.speech stream token).result with
    | .ok answer => { slot with resume := slot.resumeAfter token.index answer }
    | .error _ => slot
  else slot

@[simp]
theorem rule_moved : (slot.moved stream token).rule = slot.rule := by
  simp only [moved]
  split
  · split <;> rfl
  · rfl

variable {stream token slot}

/-- A call in a checking pass adds the rule's remarks and nothing else. -/
theorem visit_eq_of_speaks {trace : PassTrace} (speaks : slot.rule.Speaks stream)
    (inside : token.index < stream.size) (stream_eq : trace.pass.stream = stream)
    (checking : trace.pass.Checking) (wanted : slot.wants token) :
    (slot.visit token.index trace).1 = slot.moved stream token ∧
      (slot.visit token.index trace).2.pass = trace.pass.hearAll (slot.remarks stream token) := by
  have spoken : (slot.rule.process stream token.index slot.options).speech? slot.rule.id =
      some (slot.speech stream token) := by
    have given := speaks token.index inside slot.options
    rcases Option.isSome_iff_exists.mp given with ⟨speech, spoken⟩
    rw [RuleSlot.speech, spoken]
    rfl
  have called := RuleProgram.run_of_speech? spoken checking slot.memory
  have heard := (checking.hearAll (slot.speech stream token).remarks).betweenCalls_eq
  simp only [visit, moved, remarks, wanted, if_true, stream_eq, called, heard]
  cases (slot.speech stream token).result with
  | ok answer => exact ⟨rfl, rfl⟩
  | error fault =>
      refine ⟨rfl, ?_⟩
      rw [Pass.hearAll_append]
      rfl

end RuleSlot

/-- The calls on a token in a checking pass add the rules' remarks, rule by rule. -/
theorem visitAll_eq_of_speaks {stream : TokenStream} {token : Token} {slots : List RuleSlot}
    {trace : PassTrace} (speaks : ∀ slot ∈ slots, slot.rule.Speaks stream)
    (inside : token.index < stream.size) (stream_eq : trace.pass.stream = stream)
    (checking : trace.pass.Checking) :
    (visitAll token trace slots).1 = slots.map (RuleSlot.moved stream token) ∧
      (visitAll token trace slots).2.pass =
        trace.pass.hearAll (slots.flatMap (RuleSlot.remarks stream token)) := by
  induction slots generalizing trace with
  | nil => exact ⟨rfl, rfl⟩
  | cons slot rest ih =>
      have restSpeaks : ∀ slot ∈ rest, slot.rule.Speaks stream := fun other member =>
        speaks other (List.mem_cons_of_mem _ member)
      by_cases wanted : slot.wants token
      · rcases RuleSlot.visit_eq_of_speaks (speaks slot (List.mem_cons_self ..)) inside stream_eq
          checking wanted with ⟨slot_eq, pass_eq⟩
        have next_stream : (slot.visit token.index trace).2.pass.stream = stream := by
          rw [pass_eq, Pass.stream_hearAll, stream_eq]
        have next_checking : (slot.visit token.index trace).2.pass.Checking := by
          rw [pass_eq]
          exact checking.hearAll _
        rcases ih restSpeaks next_stream next_checking with ⟨slots_eq, last_eq⟩
        simp only [visitAll, wanted, if_true, List.map_cons, List.flatMap_cons,
          Pass.hearAll_append, slot_eq, slots_eq, last_eq, pass_eq, and_self]
      · rcases ih restSpeaks stream_eq checking with ⟨slots_eq, last_eq⟩
        simp only [visitAll, wanted, Bool.false_eq_true, if_false, List.map_cons,
          List.flatMap_cons, slots_eq, last_eq, RuleSlot.moved, RuleSlot.remarks, List.nil_append,
          and_self]

/-- All that is said in a checking pass from some token on. -/
def remarksFrom (stream : TokenStream) : List RuleSlot → List Token → List Remark
  | _, [] => []
  | slots, token :: rest =>
    slots.flatMap (RuleSlot.remarks stream token) ++
      remarksFrom stream (slots.map (RuleSlot.moved stream token)) rest

theorem foldl_visitAll_of_speaks {stream : TokenStream} {tokens : List Token}
    {slots : List RuleSlot} {trace : PassTrace} (speaks : ∀ slot ∈ slots, slot.rule.Speaks stream)
    (inside : ∀ token ∈ tokens, token.index < stream.size) (stream_eq : trace.pass.stream = stream)
    (checking : trace.pass.Checking) :
    (tokens.foldl (fun state token => visitAll token state.2 state.1) (slots, trace)).2.pass =
      trace.pass.hearAll (remarksFrom stream slots tokens) := by
  induction tokens generalizing slots trace with
  | nil => rfl
  | cons token rest ih =>
      rcases visitAll_eq_of_speaks speaks (inside token (List.mem_cons_self ..)) stream_eq checking
        with ⟨slots_eq, pass_eq⟩
      rw [List.foldl_cons, remarksFrom, Pass.hearAll_append, ← pass_eq, ← slots_eq]
      -- The pass goes on with moved slots, which hold the same rules.
      apply ih
      · intro slot member
        rw [slots_eq] at member
        rcases List.mem_map.mp member with ⟨before, among, rfl⟩
        rw [RuleSlot.rule_moved]
        exact speaks before among
      · exact fun other member => inside other (List.mem_cons_of_mem _ member)
      · rw [pass_eq, Pass.stream_hearAll, stream_eq]
      · rw [pass_eq]
        exact checking.hearAll _

/-- A checking pass of rules that only report is what it hears from them. -/
theorem Dispatcher.pass_dispatch_of_speaks {dispatcher : Dispatcher} {stream : TokenStream}
    (speaks : ∀ rule ∈ dispatcher.rules, rule.Speaks stream) (bounded : stream.Bounded) :
    (dispatcher.dispatch stream false).2.pass =
      (Pass.start stream false).hearAll
        (remarksFrom stream dispatcher.slots stream.tokens.toList) :=
  foldl_visitAll_of_speaks (fun _ member => speaks _ (rule_mem_of_mem_slots member))
    (fun _ member => bounded.index_lt member) rfl (Pass.checking_start stream)

/-- The remarks whose keys come up for the first time. -/
def fresh (seen : List ReportKey) : List Remark → List Remark
  | [] => []
  | first :: rest =>
    if first.key ∈ seen then fresh seen rest
    else first :: fresh (first.key :: seen) rest

theorem fresh_sublist (seen : List ReportKey) (remarks : List Remark) :
    (fresh seen remarks).Sublist remarks := by
  induction remarks generalizing seen with
  | nil => exact .slnil
  | cons first rest ih =>
      simp only [fresh]
      split
      · exact .cons first (ih seen)
      · exact .cons_cons first (ih (first.key :: seen))

theorem fresh_congr {seen known : List ReportKey} {remarks : List Remark}
    (same : ∀ remark ∈ remarks, remark.key ∈ seen ↔ remark.key ∈ known) :
    fresh seen remarks = fresh known remarks := by
  induction remarks generalizing seen known with
  | nil => rfl
  | cons first rest ih =>
      have later : ∀ remark ∈ rest, remark.key ∈ seen ↔ remark.key ∈ known := fun remark member =>
        same remark (List.mem_cons_of_mem _ member)
      simp only [fresh, same first (List.mem_cons_self ..)]
      split
      · exact ih later
      · refine congrArg (first :: ·) (ih ?_)
        intro remark member
        simp [later remark member]

/-- A pass keeps the first remark of each key. -/
theorem Pass.reports_hearAll (pass : Pass) (remarks : List Remark) :
    (pass.hearAll remarks).reports.toList =
      pass.reports.toList ++ (fresh pass.seen remarks).map pass.diagnosticOf := by
  induction remarks generalizing pass with
  | nil => simp [hearAll, fresh]
  | cons first rest ih =>
      have same : (pass.hear first).diagnosticOf = pass.diagnosticOf := by
        funext remark
        simp only [diagnosticOf, positionOf, stream_hear]
      refine (ih (pass.hear first)).trans ?_
      rw [same]
      by_cases known : first.key ∈ pass.seen
      · simp [hear, accept, fresh, known]
      · simp [hear, accept, fresh, known, diagnosticOf]

namespace Dispatcher

/-- All that a checking pass keeps. -/
def heard (dispatcher : Dispatcher) (stream : TokenStream) : List Remark :=
  fresh [] (remarksFrom stream dispatcher.slots stream.tokens.toList)

variable {dispatcher : Dispatcher} {stream : TokenStream}

theorem reports_dispatch_of_speaks (speaks : ∀ rule ∈ dispatcher.rules, rule.Speaks stream)
    (bounded : stream.Bounded) :
    (dispatcher.dispatch stream false).2.pass.reports.toList =
      (dispatcher.heard stream).map (Pass.start stream false).diagnosticOf := by
  rw [pass_dispatch_of_speaks speaks bounded, Pass.reports_hearAll]
  rfl

end Dispatcher

end TokenLint
