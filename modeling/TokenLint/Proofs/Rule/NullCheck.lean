import TokenLint.Proofs.Navigation.Arguments
import TokenLint.Proofs.Run.Apart
import TokenLint.Proofs.Run.Rewritten
import TokenLint.Rule.NullCheck

/-!
# How calls of `is_null` stand to each other

A call that is rewritten as a comparison is edited from its first token to its closing parenthesis,
its argument apart. Two such calls stand apart, or one stands in the argument of the other, so no
token is edited for both. A fixing pass therefore rewrites all of them.
-/

namespace TokenLint

open Lexer Ledger TokenStream

namespace NullCheck

/-- What surrounds the tokens that a check names. -/
structure Sits (check : NullCheck) (stream : TokenStream) : Prop where
  named : stream.hasKind check.name .identifier = true
  starts : check.start = check.name ∨ check.start < check.name ∧
    stream.hasKind check.start .booleanNot = true ∧ stream.Blank (check.start + 1) check.name
  name_lt : check.name < check.opener
  called : stream.Blank (check.name + 1) check.opener
  opens : stream.hasKind check.opener .openParenthesis = true
  closes : stream.hasKind check.closer .closeParenthesis = true
  matched : stream.Matches check.opener check.closer
  argument : stream.IsArgument (check.opener + 1) check.closer check.first check.last

/-- Whether a token is edited when a check is rewritten. -/
def Touches (check : NullCheck) (index : Nat) : Prop :=
  check.start ≤ index ∧ index ≤ check.closer ∧ ¬(check.first ≤ index ∧ index ≤ check.last)

instance (check : NullCheck) (index : Nat) : Decidable (check.Touches index) :=
  inferInstanceAs (Decidable (_ ∧ _))

/-- The text that a token gets when a check is rewritten. -/
def textAt (check : NullCheck) (stream : TokenStream) (index : Nat) : String :=
  if index = check.name then
    (if check.wrapsAll stream then "(" else "") ++ "null " ++ check.operator
  else if index = check.opener then if check.wrapsArgument stream then " (" else " "
  else if index = check.closer then
    (if check.wrapsArgument stream then ")" else "") ++
      (if check.wrapsAll stream then ")" else "")
  else ""

end NullCheck

namespace TokenStream

/-- Whether a check stands for a call that the rule reports. -/
def Checks (stream : TokenStream) (check : NullCheck) : Prop :=
  stream.hasKind check.name .identifier = true ∧ stream.nullCheck? check.name = some check

instance (stream : TokenStream) (check : NullCheck) : Decidable (stream.Checks check) :=
  inferInstanceAs (Decidable (_ ∧ _))

section Found

variable {stream : TokenStream} {index : Nat} {check : NullCheck}

theorem name_of_nullCheck? (found : stream.nullCheck? index = some check) : check.name = index := by
  simp only [nullCheck?, bind, Option.bind_eq_some_iff] at found
  rcases found with ⟨-, -, opener, -, closer, -, found⟩
  split at found
  · cases found
    rfl
  · cases found

theorem sits_of_nullCheck? {lexemes : List Lexeme}
    (isName : (ofLexemes lexemes).hasKind index .identifier = true)
    (found : (ofLexemes lexemes).nullCheck? index = some check) :
    check.Sits (ofLexemes lexemes) := by
  have name_eq := name_of_nullCheck? found
  simp only [nullCheck?, bind, Option.bind_eq_some_iff] at found
  rcases found with ⟨-, -, opener, called, closer, paired, found⟩
  rcases of_callOpener? called with ⟨next, opens, -⟩
  have name_lt : index < opener := (nextCode?_bounds next).1
  have member : ⟨opener, closer⟩ ∈ bracketPairs (lexemes.map Lexeme.kind) := by
    rcases exists_token?_of_lt (lt_size_of_hasKind opens) with ⟨token, here⟩
    have isOpener : token.kind.isOpener = true := by
      have kind_eq : token.kind = .openParenthesis := by simpa [hasKind, kind?, here] using opens
      rw [kind_eq]
      rfl
    rw [partner?, here, Option.bind_some] at paired
    exact (partner_eq_some_iff here isOpener).mp paired
  have closes : (ofLexemes lexemes).hasKind closer .closeParenthesis = true := by
    rw [hasKind_ofLexemes] at opens ⊢
    exact (BracketPair.opener_iff_closer member .parenthesis).mp opens
  split at found
  · rename_i first last alone
    cases found
    refine ⟨isName, ?_, name_lt, ?_, opens, closes, matches_iff.mpr member,
      isArgument_of_callArguments member alone⟩
    · cases negation : ((ofLexemes lexemes).previousCode? index).filter fun before =>
          (ofLexemes lexemes).hasKind before .booleanNot with
      | none => exact .inl (by simp)
      | some before =>
          rcases Option.filter_eq_some_iff.mp negation with ⟨previous, isNot⟩
          rcases blank_of_previousCode? (lt_size_of_hasKind isName).le previous with
            ⟨before_lt, blank, -⟩
          exact .inr ⟨by simpa using before_lt, by simpa using isNot, by simpa using blank⟩
    · exact fun place after before => isTrivia_before_nextCode? next after before
  · cases found

end Found

end TokenStream

variable {stream : TokenStream} {index : Nat}

theorem TokenStream.Padded.outside {start stop : Nat} (padded : stream.Padded start stop)
    (plain : stream.kindIs index isPadding = false) : ¬(start ≤ index ∧ index < stop) := by
  rintro ⟨after, before⟩
  rw [padded index after before] at plain
  cases plain

theorem TokenStream.ne_of_hasKind {place : Nat} {kind otherKind : TokenKind}
    (isKind : stream.hasKind index kind = true) (isOther : stream.hasKind place otherKind = true)
    (differs : kind ≠ otherKind) : index ≠ place := by
  rintro rfl
  simp only [hasKind, beq_iff_eq] at isKind isOther
  exact differs (Option.some.inj (isKind.symm.trans isOther))

namespace NullCheck

variable {check other : NullCheck}

namespace Sits

/-- The tokens that a check names stand in this order. -/
theorem order (sits : check.Sits stream) : check.start ≤ check.name ∧ check.name < check.opener ∧
    check.opener < check.first ∧ check.first ≤ check.last ∧ check.last < check.closer := by
  have start_le : check.start ≤ check.name := by
    rcases sits.starts with same | ⟨before, -⟩
    · exact Nat.le_of_eq same
    · exact before.le
  exact ⟨start_le, sits.name_lt, sits.argument.after, sits.argument.ordered, sits.argument.before⟩

theorem start_plain (sits : check.Sits stream) : stream.kindIs check.start isPadding = false := by
  rcases sits.starts with same | ⟨-, isNot, -⟩
  · rw [same, kindIs_of_hasKind sits.named]
    rfl
  · rw [kindIs_of_hasKind isNot]
    rfl

theorem closer_plain (sits : check.Sits stream) :
    stream.kindIs check.closer isPadding = false := by
  rw [kindIs_of_hasKind sits.closes]
  rfl

theorem opener_plain (sits : check.Sits stream) :
    stream.kindIs check.opener isPadding = false := by
  rw [kindIs_of_hasKind sits.opens]
  rfl

/-- What is no padding in a call is one of its own four tokens or stands in its argument. -/
theorem place_of_plain (sits : check.Sits stream) (after : check.start ≤ index)
    (before : index ≤ check.closer) (plain : stream.kindIs index isPadding = false) :
    index = check.start ∨ index = check.name ∨ index = check.opener ∨ index = check.closer ∨
      check.first ≤ index ∧ index ≤ check.last := by
  have gap := sits.called.padded.outside plain
  have lead := sits.argument.lead.outside plain
  have trail := sits.argument.trail.outside plain
  have order := sits.order
  by_contra missed
  rcases sits.starts with same | ⟨-, -, blank⟩
  · omega
  · have negated := blank.padded.outside plain
    omega

/-- A call begins with a negation or with its name. -/
theorem start_ne_of_hasKind (sits : check.Sits stream) {kind : TokenKind}
    (isKind : stream.hasKind index kind = true)
    (differs : kind ≠ .identifier ∧ kind ≠ .booleanNot) : check.start ≠ index := by
  rcases sits.starts with same | ⟨-, isNot, -⟩
  · rw [same]
    exact ne_of_hasKind sits.named isKind differs.1.symm
  · exact ne_of_hasKind isNot isKind differs.2.symm

/-- Nothing but padding stands between the start of a call and its name. -/
theorem outside_negation (sits : check.Sits stream)
    (plain : stream.kindIs index isPadding = false) :
    ¬(check.start < index ∧ index < check.name) := by
  rcases sits.starts with same | ⟨-, -, blank⟩
  · omega
  · have outside := blank.padded.outside plain
    omega

/-- Of two calls, the later one stands in the argument of the earlier one or behind it. -/
theorem nested_or_apart {lexemes : List Lexeme} (sits : check.Sits (ofLexemes lexemes))
    (others : other.Sits (ofLexemes lexemes)) (earlier : check.name < other.name) :
    check.first ≤ other.start ∧ other.closer ≤ check.last ∨ check.closer < other.start := by
  have order := sits.order
  have otherOrder := others.order
  have name_plain : (ofLexemes lexemes).kindIs other.name isPadding = false := by
    rw [kindIs_of_hasKind others.named]
    rfl
  have opener_ne := others.start_ne_of_hasKind sits.opens (by decide)
  have closer_ne := others.start_ne_of_hasKind sits.closes (by decide)
  have name_ne := ne_of_hasKind others.named sits.closes (by decide)
  have behind := others.outside_negation sits.closer_plain
  have before := others.outside_negation sits.opener_plain
  have first := others.outside_negation sits.argument.first_plain
  have lead := sits.argument.lead.outside others.start_plain
  by_cases inside : other.name ≤ check.closer
  · have place := sits.place_of_plain (by omega) inside name_plain
    have called_ne := ne_of_hasKind others.named sits.opens (by decide)
    -- The parenthesis of the later call opens, and so closes, in the argument.
    have otherOpens : (ofLexemes lexemes).kindIs other.opener TokenKind.isOpener = true := by
      rw [kindIs_of_hasKind others.opens]
      rfl
    have opener_lt : other.opener < check.closer := by
      have gap := others.called.padded.outside sits.closer_plain
      have differs := ne_of_hasKind others.opens sits.closes (by decide)
      omega
    rcases (matches_laminar lexemes).2.2.2.1 _ _ _ sits.matched (by omega) opener_lt otherOpens with
      ⟨closer, closer_lt, -, paired⟩
    rw [others.matched.2, Option.some.injEq] at paired
    have closes := sits.place_of_plain (by omega) (by omega) others.closer_plain
    omega
  · omega

/-- No token is edited for two calls. -/
theorem not_touches {lexemes : List Lexeme} (sits : check.Sits (ofLexemes lexemes))
    (others : other.Sits (ofLexemes lexemes)) (differs : check.name ≠ other.name)
    (touches : check.Touches index) : ¬other.Touches index := by
  intro both
  simp only [Touches] at touches both
  have order := sits.order
  have otherOrder := others.order
  rcases Nat.lt_or_gt_of_ne differs with earlier | later
  · have apart := sits.nested_or_apart others earlier
    omega
  · have apart := others.nested_or_apart sits later
    omega

end Sits

theorem textAt_of_removed (check : NullCheck) (stream : TokenStream) (index : Nat)
    (removed : ¬(index = check.name ∨ index = check.opener ∨ index = check.closer)) :
    check.textAt stream index = "" := by
  simp only [not_or] at removed
  rw [textAt, if_neg removed.1, if_neg removed.2.1, if_neg removed.2.2]

/-- The name and the parentheses of a call are replaced by the parts of the comparison. -/
theorem Sits.editsAt_marks (sits : check.Sits stream) (index : Nat) :
    editsAt [⟨.replace, check.name, (if check.wrapsAll stream then "(" else "") ++ "null " ++
        check.operator⟩,
      ⟨.replace, check.opener, if check.wrapsArgument stream then " (" else " "⟩,
      ⟨.replace, check.closer, (if check.wrapsArgument stream then ")" else "") ++
        (if check.wrapsAll stream then ")" else "")⟩] index =
      if index = check.name ∨ index = check.opener ∨ index = check.closer then
        [⟨.replace, index, check.textAt stream index⟩] else [] := by
  have order := sits.order
  have opener_ne : check.opener ≠ check.name := by omega
  have closer_ne : check.closer ≠ check.name ∧ check.closer ≠ check.opener := by omega
  by_cases isName : index = check.name
  · subst isName
    simp [editsAt, textAt, opener_ne, closer_ne]
  by_cases isOpener : index = check.opener
  · subst isOpener
    simp [editsAt, textAt, opener_ne, opener_ne.symm, closer_ne]
  by_cases isCloser : index = check.closer
  · subst isCloser
    simp [editsAt, textAt, closer_ne, closer_ne.1.symm, closer_ne.2.symm]
  · simp [editsAt, isName, isOpener, isCloser, Ne.symm isName, Ne.symm isOpener, Ne.symm isCloser]

/-- Each token of a call, but for those of the argument, is edited once. -/
theorem Sits.editsAt_edits (sits : check.Sits stream) (index : Nat) :
    editsAt (check.edits stream) index =
      if check.Touches index then [⟨.replace, index, check.textAt stream index⟩] else [] := by
  have order := sits.order
  have distinct := (List.nodup_range' (s := check.start) (n := check.first - check.start) 1).filter
    fun index => index ≠ check.name && index ≠ check.opener
  have touches_iff : check.Touches index ↔
      check.start ≤ index ∧ index ≤ check.closer ∧ ¬(check.first ≤ index ∧ index ≤ check.last) :=
    .rfl
  rw [edits, editsAt_append, editsAt_append, editsAt_map_removal distinct, editsAt_removals,
    sits.editsAt_marks]
  simp only [List.mem_filter, List.mem_range'_1, Bool.and_eq_true, decide_eq_true_eq]
  by_cases marked : index = check.name ∨ index = check.opener ∨ index = check.closer
  · rw [if_neg (by omega), if_neg (by omega), if_pos marked, if_pos (touches_iff.mpr (by omega))]
    rfl
  · rw [if_neg marked, List.append_nil, textAt_of_removed check stream index marked]
    by_cases touches : check.Touches index
    · rw [if_pos touches]
      rw [touches_iff] at touches
      by_cases lead : index < check.first
      · rw [if_pos (by omega), if_neg (by omega)]
        rfl
      · rw [if_neg (by omega), if_pos (by omega)]
        rfl
    · rw [if_neg touches]
      rw [touches_iff] at touches
      rw [if_neg (by omega), if_neg (by omega)]
      rfl

theorem Sits.text_of_mem_edits (sits : check.Sits stream) {edit : Edit}
    (member : edit ∈ check.edits stream) :
    check.Touches edit.index ∧ edit.text = check.textAt stream edit.index := by
  have here : edit ∈ editsAt (check.edits stream) edit.index :=
    List.mem_filter.mpr ⟨member, decide_eq_true rfl⟩
  rw [sits.editsAt_edits] at here
  split at here
  · rename_i touches
    exact ⟨touches, congrArg Edit.text (List.mem_singleton.mp here)⟩
  · cases here

/-- The edits for the call of a token, if it is one that the rule reports. -/
def batch (stream : TokenStream) (index : Nat) : List Edit :=
  if stream.hasKind index .identifier then
    match stream.nullCheck? index with
    | some check => check.edits stream
    | none => []
  else []

theorem batch_of_checks (checks : stream.Checks check) :
    batch stream check.name = check.edits stream := by
  rw [batch, if_pos checks.1, checks.2]

theorem eq_of_checks (checks : stream.Checks check) (others : stream.Checks other)
    (same : check.name = other.name) : check = other :=
  Option.some.inj (checks.2.symm.trans (same ▸ others.2))

theorem exists_checks_of_mem_batch {edit : Edit} (member : edit ∈ batch stream index) :
    ∃ check, stream.Checks check ∧ check.name = index ∧ edit ∈ check.edits stream := by
  rw [batch] at member
  split at member
  · rename_i isName
    split at member
    · rename_i check found
      have name_eq := name_of_nullCheck? found
      exact ⟨check, ⟨name_eq ▸ isName, name_eq ▸ found⟩, name_eq, member⟩
    · cases member
  · cases member

variable {lexemes : List Lexeme}

theorem sits_of_checks (checks : (ofLexemes lexemes).Checks check) :
    check.Sits (ofLexemes lexemes) :=
  sits_of_nullCheck? checks.1 checks.2

theorem touches_of_mem_edits (checks : (ofLexemes lexemes).Checks check) {edit : Edit}
    (member : edit ∈ check.edits (ofLexemes lexemes)) : check.Touches edit.index :=
  ((sits_of_checks checks).text_of_mem_edits member).1

/-- The batches for the calls share no token. -/
theorem offersApart :
    Rule.nullCheck.OffersApart (ofLexemes lexemes) (batch (ofLexemes lexemes)) where
  offers := by
    intro token member interested options
    have bounded := bounded_ofLexemes lexemes
    have isName : (ofLexemes lexemes).hasKind token.index .identifier = true := by
      rw [hasKind_index bounded member]
      simpa [Rule.nullCheck] using interested
    simp only [Rule.nullCheck, batch, isName, if_true]
    cases found : (ofLexemes lexemes).nullCheck? token.index with
    | none => exact .inl ⟨rfl, rfl⟩
    | some check =>
        refine .inr ⟨_, rfl, rfl, rfl, Report.renders_of_takes ?_⟩
        simp [Rule.fixableErrorAt, takesArguments]
  covers := by
    intro token member edit edit_mem
    rcases exists_checks_of_mem_batch edit_mem with ⟨check, checks, -, edit_mem⟩
    have touches := touches_of_mem_edits checks edit_mem
    exact touches.2.1.trans_lt (lt_size_of_hasKind (sits_of_checks checks).closes)
  apart := by
    intro first first_lt second second_lt differs edit edit_mem other other_mem same
    rcases exists_checks_of_mem_batch edit_mem with ⟨check, checks, rfl, edited⟩
    rcases exists_checks_of_mem_batch other_mem with ⟨others, otherChecks, rfl, otherEdited⟩
    exact (sits_of_checks checks).not_touches (sits_of_checks otherChecks) differs
      (touches_of_mem_edits checks edited)
      (same ▸ touches_of_mem_edits otherChecks otherEdited)

/-- A token in front of a call that is edited for another one belongs to what stands around the call
as its argument, or it closes the other one. -/
theorem touches_before {place : Nat} (checks : (ofLexemes lexemes).Checks check)
    (others : (ofLexemes lexemes).Checks other) (before : place < check.start)
    (padded : (ofLexemes lexemes).Padded (place + 1) check.start) (touches : other.Touches place) :
    place < other.first ∧ other.first = check.start ∨
      place = other.closer ∧ other.last < check.start := by
  have sits := sits_of_checks checks
  have otherSits := sits_of_checks others
  have order := sits.order
  have otherOrder := otherSits.order
  have first := padded.outside otherSits.argument.first_plain
  have closer := padded.outside otherSits.closer_plain
  simp only [Touches] at touches
  rcases Nat.lt_trichotomy check.name other.name with earlier | same | later
  · have apart := sits.nested_or_apart otherSits earlier
    omega
  · cases eq_of_checks checks others same
    omega
  · have apart := otherSits.nested_or_apart sits later
    omega

/-- A token behind a call that is edited for another one begins the other one, or the call ends its
argument. -/
theorem touches_after {place : Nat} (checks : (ofLexemes lexemes).Checks check)
    (others : (ofLexemes lexemes).Checks other) (after : check.closer < place)
    (padded : (ofLexemes lexemes).Padded (check.closer + 1) place)
    (touches : other.Touches place) :
    place = other.start ∨ check.closer = other.last ∧ other.last < place := by
  have sits := sits_of_checks checks
  have otherSits := sits_of_checks others
  have order := sits.order
  have otherOrder := otherSits.order
  have start := padded.outside otherSits.start_plain
  have last := padded.outside otherSits.argument.last_plain
  simp only [Touches] at touches
  rcases Nat.lt_trichotomy check.name other.name with earlier | same | later
  · have apart := sits.nested_or_apart otherSits earlier
    omega
  · cases eq_of_checks checks others same
    omega
  · have apart := otherSits.nested_or_apart sits later
    omega

variable {dispatcher : Dispatcher} (alone : dispatcher.rules = [Rule.nullCheck])

include alone

/-- A fixing pass rewrites each call. -/
theorem patch?_of_touches (checks : (ofLexemes lexemes).Checks check)
    (touches : check.Touches index) :
    (dispatcher.dispatch (ofLexemes lexemes) true).2.pass.ledger.patch? index =
      some (.exchanged (check.textAt (ofLexemes lexemes) index)) := by
  have sits := sits_of_checks checks
  have bounded := bounded_ofLexemes lexemes
  have inside := touches.2.1.trans_lt (lt_size_of_hasKind sits.closes)
  rcases exists_token?_of_lt (lt_size_of_hasKind checks.1) with ⟨token, here⟩
  have index_eq := bounded.index_eq here
  have member : token ∈ (ofLexemes lexemes).tokens.toList := by
    rw [token?, ← Array.getElem?_toList] at here
    exact List.mem_of_getElem? here
  have isName : token.kind = .identifier := by
    rw [← hasKind_index bounded member, index_eq]
    exact checks.1
  have made := sits.editsAt_edits index
  rw [if_pos touches, ← batch_of_checks checks, ← index_eq] at made
  rw [Dispatcher.patch?_dispatch_of_concerned alone bounded offersApart member
    (by rw [isName]; rfl) (by rw [made]; simp) inside, made]
  rfl

/-- A fixing pass leaves the tokens of no call and those of arguments alone. -/
theorem patch?_of_untouched (inside : index < (ofLexemes lexemes).size)
    (untouched : ∀ check, (ofLexemes lexemes).Checks check → ¬check.Touches index) :
    (dispatcher.dispatch (ofLexemes lexemes) true).2.pass.ledger.patch? index = none := by
  refine Dispatcher.patch?_dispatch_of_unconcerned alone (bounded_ofLexemes lexemes)
    offersApart ?_ inside
  intro token member
  rw [editsAt, List.filter_eq_nil_iff]
  intro edit edit_mem here
  rcases exists_checks_of_mem_batch edit_mem with ⟨check, checks, -, edit_mem⟩
  exact untouched check checks (of_decide_eq_true here ▸ touches_of_mem_edits checks edit_mem)

end NullCheck

end TokenLint
