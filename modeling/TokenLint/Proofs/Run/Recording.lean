import TokenLint.Proofs.Run.Findings

/-!
# Recording in another order

A pass is summed up by the signatures of its diagnostics, listed by position and code. Sorting
keeps the order of what stands at the same position under the same code, and the key under which
something is said only once tells apart what a signature does not: the token and what failed. The
summary therefore depends on the order of recording exactly where two messages share a position
and a code.
-/

namespace TokenLint

namespace Diagnostic.Signature

/-- Whether one signature is listed before or with another: its diagnostic is. -/
def listedBefore (left right : Signature) : Bool :=
  (Diagnostic.internal left.code left.message left.position).listedBefore
    (.internal right.code right.message right.position)

variable {first second third : Signature}

theorem listedBefore_trans (first second third : Signature) (before : first.listedBefore second)
    (after : second.listedBefore third) : first.listedBefore third :=
  Diagnostic.listedBefore_trans before after

theorem listedBefore_total (first second : Signature) :
    first.listedBefore second || second.listedBefore first :=
  Diagnostic.listedBefore_total ..

/-- Signatures are listed at one place if they agree in position and code. -/
theorem alike_iff (first second : Signature) :
    (first.listedBefore second && second.listedBefore first) = true ↔
      second.code = first.code ∧ second.position = first.position := by
  rw [Bool.and_eq_true]
  constructor
  · rintro ⟨before, after⟩
    rcases Diagnostic.position_code_eq_of_listedBefore before after with ⟨position, code⟩
    exact ⟨code.symm, position.symm⟩
  · rintro ⟨code, position⟩
    have refl : ∀ diagnostic : Diagnostic, diagnostic.listedBefore diagnostic := by
      intro diagnostic
      simpa using Diagnostic.listedBefore_total diagnostic diagnostic
    rw [listedBefore, listedBefore, code, position]
    exact ⟨refl (.internal first.code second.message first.position),
      refl (.internal first.code second.message first.position)⟩

/-- Signatures at one place are told apart by their messages. -/
theorem eq_iff_map_message {code : String} {position : Position} {left right : List Signature}
    (leftThere : ∀ signature ∈ left, signature.code = code ∧ signature.position = position)
    (rightThere : ∀ signature ∈ right, signature.code = code ∧ signature.position = position) :
    left = right ↔ left.map Signature.message = right.map Signature.message := by
  have rebuilt : ∀ signatures : List Signature,
      (∀ signature ∈ signatures, signature.code = code ∧ signature.position = position) →
        (signatures.map Signature.message).map (fun message => ⟨code, position, message⟩) =
          signatures := by
    intro signatures there
    rw [List.map_map]
    refine (List.map_congr_left fun signature member => ?_).trans (List.map_id _)
    rcases there signature member with ⟨rfl, rfl⟩
    rfl
  refine ⟨congrArg _, fun same => ?_⟩
  rw [← rebuilt left leftThere, ← rebuilt right rightThere, same]

end Diagnostic.Signature

/-- What is recorded in a pass: a report of a rule, or an error of the program itself. -/
inductive Recording where
  | report (ruleId : String) (made : Report)
  | internal (code message : String) (index : Int) (origin : String)

namespace Recording

/-- The key under which something is recorded only once. -/
def key : Recording → ReportKey
  | report ruleId made => made.key ruleId
  | internal code _ index origin => ⟨code, index, origin⟩

/-- What is said, unless the template of a report cannot be filled. -/
def remark? : Recording → Option Remark
  | report ruleId made => (made.remark ruleId).toOption
  | internal code message index origin => some ⟨⟨code, index, origin⟩, message, .error, false⟩

/-- The wording of a recording, if it has one. -/
def message? (recording : Recording) : Option String := recording.remark?.map Remark.message

/-- Where a recording is listed in a pass over a stream. -/
def positionIn (stream : TokenStream) (recording : Recording) : Position :=
  (Pass.start stream false).positionOf recording.key.index

/-- What a recording counts as where two passes over a stream are compared. -/
def signature? (stream : TokenStream) (recording : Recording) : Option Diagnostic.Signature :=
  recording.message?.map fun message => ⟨recording.key.code, recording.positionIn stream, message⟩

variable {recording : Recording}

theorem key_of_remark? {remark : Remark} (said : recording.remark? = some remark) :
    remark.key = recording.key := by
  cases recording with
  | internal code message index origin =>
      cases said
      rfl
  | report ruleId made =>
      simp only [remark?, Report.remark] at said
      cases filled : renderTemplate made.template made.arguments with
      | error error =>
          rw [filled] at said
          cases said
      | ok message =>
          rw [filled] at said
          cases said
          rfl

end Recording

namespace Pass

/-- The pass once something is recorded. A report whose template cannot be filled is refused. -/
def record (pass : Pass) : Recording → Pass
  | .report ruleId made =>
    match pass.report ruleId made with
    | .ok (next, _) => next
    | .error _ => pass
  | .internal code message index origin => (pass.acceptInternal code message index origin).1

/-- A pass after some recordings, in their order. -/
def recordAll (pass : Pass) (recordings : List Recording) : Pass := recordings.foldl record pass

variable {pass : Pass} {recording : Recording}

/-- A refused report leaves the pass as it is. -/
theorem record_of_refused (refused : recording.remark? = none) : pass.record recording = pass := by
  cases recording with
  | internal code message index origin => cases refused
  | report ruleId made =>
      simp only [Recording.remark?, Report.remark] at refused
      cases filled : renderTemplate made.template made.arguments with
      | ok message =>
          rw [filled] at refused
          cases refused
      | error error => simp [record, report, filled, bind, Except.bind]

/-- What is said under a new key becomes the last diagnostic, whether or not it is offered for
fixing. -/
theorem record_of_remark {remark : Remark} (said : recording.remark? = some remark)
    (new : recording.key ∉ pass.seen) :
    (pass.record recording).stream = pass.stream ∧
      (pass.record recording).seen = recording.key :: pass.seen ∧
      (pass.record recording).reports.toList =
        pass.reports.toList ++ [pass.diagnosticOf remark] := by
  have unseen : pass.seen.contains recording.key = false := by simpa using new
  cases recording with
  | internal code message index origin =>
      cases said
      simp only [record, acceptInternal, accept]
      rw [if_neg (by simpa [Recording.key] using new)]
      simp [diagnosticOf, Recording.key]
  | report ruleId made =>
      simp only [Recording.remark?, Report.remark] at said
      cases filled : renderTemplate made.template made.arguments with
      | error error =>
          rw [filled] at said
          cases said
      | ok message =>
          rw [filled] at said
          cases said
          simp only [record, report, filled, bind, Except.bind, pure, Except.pure, accept]
          rw [if_neg (by simpa [Recording.key, Report.key] using new)]
          simp only
          split
          · rename_i next answer reported
            split at reported
            all_goals
              cases reported
              simp [diagnosticOf, Recording.key, Report.key]
          · rename_i error reported
            split at reported <;> cases reported

/-- Recordings with distinct keys become diagnostics one after the other. -/
theorem reports_recordAll {recordings : List Recording}
    (distinct : (recordings.map Recording.key).Nodup)
    (new : ∀ recording ∈ recordings, recording.key ∉ pass.seen) :
    (pass.recordAll recordings).reports.toList =
      pass.reports.toList ++ (recordings.filterMap Recording.remark?).map pass.diagnosticOf := by
  induction recordings generalizing pass with
  | nil => simp [recordAll]
  | cons first rest ih =>
      rw [List.map_cons, List.nodup_cons] at distinct
      rcases List.forall_mem_cons.mp new with ⟨firstNew, restNew⟩
      change ((pass.record first).recordAll rest).reports.toList = _
      cases said : first.remark? with
      | none =>
          rw [record_of_refused said, ih distinct.2 restNew, List.filterMap_cons_none said]
      | some remark =>
          rcases record_of_remark said firstNew with ⟨stream_eq, seen_eq, reports_eq⟩
          have diagnosticOf_eq : (pass.record first).diagnosticOf = pass.diagnosticOf := by
            funext remark
            simp only [diagnosticOf, positionOf, stream_eq]
          rw [ih distinct.2, reports_eq, diagnosticOf_eq, List.filterMap_cons_some said]
          · simp
          · intro recording member known
            rw [seen_eq] at known
            rcases List.mem_cons.mp known with same | before
            · exact distinct.1 (same ▸ List.mem_map_of_mem member)
            · exact restNew recording member before

/-- The summary of a fresh pass sorts the signatures of what was recorded. -/
theorem signature_recordAll (stream : TokenStream) (fixing : Bool) {recordings : List Recording}
    (distinct : (recordings.map Recording.key).Nodup) :
    ((start stream fixing).recordAll recordings).signature =
      (recordings.filterMap (Recording.signature? stream)).mergeSort
        Diagnostic.Signature.listedBefore := by
  have keyed : ∀ recording ∈ recordings,
      recording.remark?.map (Diagnostic.signature ∘ (start stream fixing).diagnosticOf) =
        recording.signature? stream := by
    intro recording _
    rw [Recording.signature?, Recording.message?]
    cases said : recording.remark? with
    | none => rfl
    | some remark =>
        have key_eq := Recording.key_of_remark? said
        simp only [Option.map_some, Function.comp_apply, Diagnostic.signature, diagnosticOf, key_eq]
        rfl
  rw [signature, sorted, reports_recordAll distinct fun _ _ => List.not_mem_nil]
  change (((recordings.filterMap Recording.remark?).map
    (start stream fixing).diagnosticOf).mergeSort Diagnostic.listedBefore).map
      Diagnostic.signature = _
  have sorted_map := fun diagnostics : List Diagnostic =>
    List.map_mergeSort (f := Diagnostic.signature) (l := diagnostics) (r := Diagnostic.listedBefore)
      (s := Diagnostic.Signature.listedBefore) fun _ _ _ _ => rfl
  rw [sorted_map, List.map_map, List.map_filterMap, List.filterMap_congr keyed]

end Pass

namespace Recording

variable {stream : TokenStream} {first second recordings : List Recording}

/-- The messages recorded at a position under a code, in order. -/
def messagesAt (stream : TokenStream) (code : String) (position : Position)
    (recordings : List Recording) : List String :=
  (recordings.filter fun recording =>
    recording.key.code = code ∧ recording.positionIn stream = position).filterMap message?

/-- Whether two recordings are listed at one position under one code with different messages. -/
def Clash (stream : TokenStream) (one other : Recording) : Prop :=
  one.key.code = other.key.code ∧ one.positionIn stream = other.positionIn stream ∧
    ∃ message ∈ one.message?, ∃ otherMessage ∈ other.message?, message ≠ otherMessage

theorem map_message_filter (code : String) (position : Position) (recordings : List Recording) :
    ((recordings.filterMap (signature? stream)).filter fun signature =>
        signature.code = code ∧ signature.position = position).map Diagnostic.Signature.message =
      messagesAt stream code position recordings := by
  rw [messagesAt]
  induction recordings with
  | nil => rfl
  | cons recording rest ih =>
      cases said : recording.message? with
      | none =>
          rw [List.filterMap_cons_none (by rw [signature?, said]; rfl), List.filter_cons]
          split
          · rw [List.filterMap_cons_none said]
            exact ih
          · exact ih
      | some message =>
          have listed : recording.signature? stream =
              some ⟨recording.key.code, recording.positionIn stream, message⟩ := by
            rw [signature?, said]
            rfl
          rw [List.filterMap_cons_some listed, List.filter_cons, List.filter_cons]
          split
          · rw [List.map_cons, ih, List.filterMap_cons_some said]
          · exact ih

/-- Signatures are sorted alike if the messages at each position under each code come in the same
order. -/
theorem mergeSort_signatures_eq_iff :
    (first.filterMap (signature? stream)).mergeSort Diagnostic.Signature.listedBefore =
        (second.filterMap (signature? stream)).mergeSort Diagnostic.Signature.listedBefore ↔
      ∀ code position,
        messagesAt stream code position first = messagesAt stream code position second := by
  have alike_eq : ∀ (element : Diagnostic.Signature) (signatures : List Diagnostic.Signature),
      (signatures.filter fun other => element.listedBefore other && other.listedBefore element) =
        signatures.filter fun other =>
          other.code = element.code ∧ other.position = element.position := by
    intro element signatures
    refine List.filter_congr fun other _ => ?_
    rw [Bool.eq_iff_iff, Diagnostic.Signature.alike_iff, decide_eq_true_iff]
  have there : ∀ (code : String) (position : Position) (recordings : List Recording),
      ∀ signature ∈ (recordings.filterMap (signature? stream)).filter fun signature =>
        signature.code = code ∧ signature.position = position,
        signature.code = code ∧ signature.position = position := by
    intro code position recordings signature member
    simpa using (List.mem_filter.mp member).2
  rw [mergeSort_eq_iff Diagnostic.Signature.listedBefore_trans
    Diagnostic.Signature.listedBefore_total]
  constructor
  · intro alike code position
    have same := alike ⟨code, position, ""⟩
    rw [alike_eq, alike_eq] at same
    rw [← map_message_filter, ← map_message_filter, same]
  · intro messages element
    rw [alike_eq, alike_eq, Diagnostic.Signature.eq_iff_map_message (there _ _ _)
      (there _ _ _), map_message_filter, map_message_filter]
    exact messages element.code element.position

/-- Without a clash all messages at a position under a code are the same. -/
theorem messagesAt_perm (apart : ∀ one ∈ recordings, ∀ other ∈ recordings, ¬Clash stream one other)
    (firstPerm : first.Perm recordings) (secondPerm : second.Perm recordings) (code : String)
    (position : Position) :
    messagesAt stream code position first = messagesAt stream code position second := by
  have among : ∀ message ∈ messagesAt stream code position first, ∃ recording ∈ recordings,
      recording.key.code = code ∧ recording.positionIn stream = position ∧
        recording.message? = some message := by
    intro message member
    rcases List.mem_filterMap.mp member with ⟨recording, there, said⟩
    simp only [List.mem_filter, decide_eq_true_eq] at there
    exact ⟨recording, firstPerm.subset there.1, there.2.1, there.2.2, said⟩
  have perm : (messagesAt stream code position first).Perm
      (messagesAt stream code position second) :=
    ((firstPerm.trans secondPerm.symm).filter _).filterMap _
  cases firstMessages : messagesAt stream code position first with
  | nil =>
      rw [firstMessages] at perm
      exact perm.nil_eq
  | cons message rest =>
      have all : ∀ other ∈ message :: rest, other = message := by
        intro other member
        rcases among other (firstMessages ▸ member) with ⟨one, oneMem, oneCode, onePlace, said⟩
        rcases among message (firstMessages ▸ List.mem_cons_self ..) with
          ⟨two, twoMem, twoCode, twoPlace, alsoSaid⟩
        by_contra differ
        exact apart one oneMem two twoMem ⟨oneCode.trans twoCode.symm,
          onePlace.trans twoPlace.symm, other, said, message, alsoSaid, differ⟩
      rw [firstMessages, List.eq_replicate_of_mem all] at perm
      rw [List.eq_replicate_of_mem all, List.perm_replicate.mp perm.symm]

/-- Two recordings that clash are told apart by which of them comes first. -/
theorem exists_messagesAt_ne {one other : Recording} (oneMem : one ∈ recordings)
    (otherMem : other ∈ recordings) (clash : Clash stream one other) :
    ∃ first second, first.Perm recordings ∧ second.Perm recordings ∧ ∃ code position,
      messagesAt stream code position first ≠ messagesAt stream code position second := by
  classical
  rcases clash with ⟨code, position, message, said, otherMessage, otherSaid, differ⟩
  have apart : other ≠ one := by
    rintro rfl
    exact differ (Option.some.inj (said.symm.trans otherSaid))
  let rest := (recordings.erase one).erase other
  have split : recordings.Perm (one :: other :: rest) :=
    (List.perm_cons_erase oneMem).trans
      (.cons one (List.perm_cons_erase ((List.mem_erase_of_ne apart).mpr otherMem)))
  refine ⟨one :: other :: rest, other :: one :: rest, split.symm,
    (List.Perm.swap one other rest).trans split.symm, one.key.code, one.positionIn stream, ?_⟩
  intro same
  rw [Option.mem_def] at said otherSaid
  simp only [messagesAt, List.filter_cons, code.symm, position.symm, and_self, decide_true,
    if_true, List.filterMap_cons, said, otherSaid] at same
  exact differ (List.cons.inj same).1

end Recording

namespace Pass

/-- Recordings with distinct keys give two fresh passes the same summary exactly if the messages at
each position under each code come in the same order. They do so in whatever orders they are
recorded exactly if no two of them have the same code and position and different messages. -/
theorem signature_of_orders (stream : TokenStream) {recordings : List Recording}
    (distinct : (recordings.map Recording.key).Nodup) :
    (∀ first second fixing otherFixing, first.Perm recordings → second.Perm recordings →
      (((start stream fixing).recordAll first).signature =
          ((start stream otherFixing).recordAll second).signature ↔
        ∀ code position, Recording.messagesAt stream code position first =
          Recording.messagesAt stream code position second)) ∧
    ((∀ first second fixing otherFixing, first.Perm recordings → second.Perm recordings →
      ((start stream fixing).recordAll first).signature =
        ((start stream otherFixing).recordAll second).signature) ↔
      ∀ one ∈ recordings, ∀ other ∈ recordings, ¬Recording.Clash stream one other) := by
  have summed : ∀ first second fixing otherFixing, first.Perm recordings →
      second.Perm recordings →
        (((start stream fixing).recordAll first).signature =
            ((start stream otherFixing).recordAll second).signature ↔
          ∀ code position, Recording.messagesAt stream code position first =
            Recording.messagesAt stream code position second) := by
    intro first second fixing otherFixing firstPerm secondPerm
    rw [signature_recordAll stream fixing ((firstPerm.map _).nodup_iff.mpr distinct),
      signature_recordAll stream otherFixing ((secondPerm.map _).nodup_iff.mpr distinct)]
    exact Recording.mergeSort_signatures_eq_iff
  refine ⟨summed, ?_, ?_⟩
  · intro same one oneMem other otherMem clash
    rcases Recording.exists_messagesAt_ne oneMem otherMem clash with
      ⟨first, second, firstPerm, secondPerm, code, position, differ⟩
    exact differ ((summed first second false false firstPerm secondPerm).mp
      (same first second false false firstPerm secondPerm) code position)
  · intro apart first second fixing otherFixing firstPerm secondPerm
    refine (summed first second fixing otherFixing firstPerm secondPerm).mpr ?_
    exact Recording.messagesAt_perm apart firstPerm secondPerm

/-- Two rules that fail on one token for the same reason, one of which has also reported it. -/
def sharedFailure : List Recording :=
  [.report "first" ⟨"Found", [], 1, "Found", .error, true⟩,
    .internal Diagnostic.ruleErrorCode "division by zero" 1 "second",
    .internal Diagnostic.ruleErrorCode "division by zero" 1 "first"]

/-- Failures with one message do not clash, so all may be recorded in any order. -/
theorem signature_of_orders_sharedFailure :
    (sharedFailure.map Recording.key).Nodup ∧
      ∃ stream, tokenize "<?php $a = 1;" = .ok stream ∧
        ((start stream true).recordAll sharedFailure.reverse).reports.toList.map Diagnostic.code =
          [Diagnostic.ruleErrorCode, Diagnostic.ruleErrorCode, "first.Found"] ∧
        ((start stream true).recordAll sharedFailure.reverse).signature =
          ((start stream false).recordAll sharedFailure).signature := by
  have distinct : (sharedFailure.map Recording.key).Nodup := by decide
  have outcome : (tokenize "<?php $a = 1;").toOption.map (fun stream =>
      ((start stream true).recordAll sharedFailure.reverse).reports.toList.map Diagnostic.code) =
      some [Diagnostic.ruleErrorCode, Diagnostic.ruleErrorCode, "first.Found"] := by decide +kernel
  rcases exists_tokenize_of_map_toOption outcome with ⟨stream, read, seen⟩
  refine ⟨distinct, stream, read, seen, ?_⟩
  refine (signature_of_orders stream distinct).2.mpr ?_ _ _ _ _ (List.reverse_perm _) (.refl _)
  have messages : ∀ recording ∈ sharedFailure, recording.message? =
      some (if recording.key.code = "first.Found" then "Found" else "division by zero") := by
    decide
  rintro one oneMem other otherMem ⟨code, -, message, said, otherMessage, otherSaid, differ⟩
  rw [Option.mem_def, messages one oneMem, code] at said
  rw [Option.mem_def, messages other otherMem, said] at otherSaid
  exact differ (Option.some.inj otherSaid)

/-- The failures of two rules on one token. -/
def ownFailures : List Recording :=
  [.internal Diagnostic.ruleErrorCode "division by zero" 1 "first",
    .internal Diagnostic.ruleErrorCode "index out of range" 1 "second"]

/-- Failures of two rules on one token are told apart by their origin, but listed in the order in
which they were recorded. -/
theorem signature_ne_of_ownFailures :
    (ownFailures.map Recording.key).Nodup ∧
      ∃ stream, tokenize "<?php $a = 1;" = .ok stream ∧
        ((start stream false).recordAll ownFailures).signature ≠
          ((start stream false).recordAll ownFailures.reverse).signature := by
  have outcome : (tokenize "<?php $a = 1;").toOption.map (fun stream =>
      [ownFailures, ownFailures.reverse].map
        (Recording.messagesAt stream Diagnostic.ruleErrorCode ⟨1, 7⟩)) =
      some [["division by zero", "index out of range"],
        ["index out of range", "division by zero"]] := by decide +kernel
  rcases exists_tokenize_of_map_toOption outcome with ⟨stream, read, seen⟩
  refine ⟨by decide, stream, read, fun same => ?_⟩
  rw [signature_recordAll stream false (by decide), signature_recordAll stream false (by decide),
    Recording.mergeSort_signatures_eq_iff] at same
  simp only [List.map_cons, List.map_nil, same, List.cons.injEq, and_true] at seen
  rcases seen with ⟨forth, back⟩
  exact absurd (forth.symm.trans back) (by decide)

end Pass

end TokenLint
