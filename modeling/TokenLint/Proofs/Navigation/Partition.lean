import TokenLint.Proofs.Navigation.Elements

/-!
# The arguments between two brackets

The arguments between two brackets are the elements of their list without the blanks at their ends,
and elements of nothing but blanks are no arguments. Together they are all the code between the
brackets but for the commas that divide the list, and a comma stands between any two of them. None
of this asks for brackets that match: what has no partner is code like any other.
-/

namespace TokenLint.TokenStream

section Code

variable (stream : TokenStream)

/-- Whether the token at an index is neither whitespace nor a comment. -/
def holdsCode (index : Nat) : Bool := stream.kindIs index fun kind => !kind.isTrivia

/-- The places of code from `start` up to but not including `stop`. -/
def codePlaces (start stop : Nat) : List Nat :=
  (List.range' start (stop - start)).filter stream.holdsCode

/-- A range without the blanks at its ends, from its first to its last place of code, if it has
any. -/
def trimmed? (range : Nat × Nat) : Option (Nat × Nat) :=
  (stream.codePlaces range.1 range.2).head?.bind fun first =>
    (stream.codePlaces range.1 range.2).getLast?.map fun last => (first, last)

variable {stream : TokenStream} {start stop index : Nat} {range : Nat × Nat}

theorem mem_codePlaces_iff :
    index ∈ stream.codePlaces start stop ↔
      (start ≤ index ∧ index < stop) ∧ stream.holdsCode index = true := by
  rw [codePlaces, List.mem_filter, List.mem_range'_1]
  refine and_congr_left fun _ => and_congr_right fun _ => ?_
  omega

theorem pairwise_codePlaces (stream : TokenStream) (start stop : Nat) :
    (stream.codePlaces start stop).Pairwise (· < ·) :=
  (List.pairwise_lt_range' 1 Nat.one_pos).filter _

theorem nextCodeBefore?_eq (inside : stop ≤ stream.size) :
    stream.nextCodeBefore? start stop = (stream.codePlaces start stop).head? := by
  rw [nextCodeBefore?, firstWith?, Nat.min_eq_left inside, firstIndex?_eq_head?]
  exact congrArg (fun accepts => (List.filter accepts _).head?)
    (holdsAt_kind stream fun kind => !kind.isTrivia)

theorem previousCodeFrom?_eq (inside : stop ≤ stream.size) :
    stream.previousCodeFrom? start stop = (stream.codePlaces start stop).getLast? := by
  rw [previousCodeFrom?, lastWith?, Nat.min_eq_left inside, lastIndex?_eq_getLast?]
  exact congrArg (fun accepts => (List.filter accepts _).getLast?)
    (holdsAt_kind stream fun kind => !kind.isTrivia)

theorem bounds_of_mem_codePlaces {first last : Nat}
    (begins : (stream.codePlaces start stop).head? = some first)
    (ends : (stream.codePlaces start stop).getLast? = some last)
    (member : index ∈ stream.codePlaces start stop) : first ≤ index ∧ index ≤ last := by
  have sorted := pairwise_codePlaces stream start stop
  constructor
  · rcases List.head?_eq_some_iff.mp begins with ⟨rest, list_eq⟩
    rw [list_eq] at sorted member
    rcases List.mem_cons.mp member with rfl | later
    · exact Nat.le_refl _
    · exact (List.rel_of_pairwise_cons sorted later).le
  · rcases List.getLast?_eq_some_iff.mp ends with ⟨front, list_eq⟩
    rw [list_eq] at sorted member
    rcases List.mem_append.mp member with earlier | here
    · have before := (List.pairwise_append.mp sorted).2.2 index earlier
      exact (before last (List.mem_singleton_self _)).le
    · exact (List.mem_singleton.mp here).le

/-- Whether a range of tokens begins and ends with code and holds all the code from `start` up to
`stop`. -/
structure IsTrimmed (stream : TokenStream) (start stop : Nat) (range : Nat × Nat) : Prop where
  after : start ≤ range.1
  ordered : range.1 ≤ range.2
  before : range.2 < stop
  begins : stream.holdsCode range.1 = true
  ends : stream.holdsCode range.2 = true
  covers : ∀ index, start ≤ index → index < stop → stream.holdsCode index = true →
    range.1 ≤ index ∧ index ≤ range.2

theorem isTrimmed_of_trimmed? (found : stream.trimmed? (start, stop) = some range) :
    stream.IsTrimmed start stop range := by
  rcases Option.bind_eq_some_iff.mp found with ⟨first, begins, found⟩
  rcases Option.map_eq_some_iff.mp found with ⟨last, ends, rfl⟩
  have first_mem := List.mem_of_head? begins
  rcases mem_codePlaces_iff.mp first_mem with ⟨⟨after, -⟩, first_code⟩
  rcases mem_codePlaces_iff.mp (List.mem_of_getLast? ends) with ⟨⟨-, before⟩, last_code⟩
  have ordered := (bounds_of_mem_codePlaces begins ends first_mem).2
  refine ⟨after, ordered, before, first_code, last_code, ?_⟩
  intro index lower upper code
  exact bounds_of_mem_codePlaces begins ends (mem_codePlaces_iff.mpr ⟨⟨lower, upper⟩, code⟩)

theorem holdsCode_of_trimmed?_eq_none (missing : stream.trimmed? (start, stop) = none)
    (after : start ≤ index) (before : index < stop) : stream.holdsCode index = false := by
  rw [Bool.eq_false_iff]
  intro code
  have member := mem_codePlaces_iff.mpr ⟨⟨after, before⟩, code⟩
  have nonempty := List.ne_nil_of_mem member
  rw [trimmed?, List.head?_eq_some_head nonempty, List.getLast?_eq_some_getLast nonempty] at missing
  cases missing

end Code

section Partition

variable {stream : TokenStream} {divides : Nat → Prop} {start stop : Nat}
  {ranges : List (Nat × Nat)}

/-- Whether ranges of tokens are all the code from `start` up to `stop` but for the dividers, each
from its first to its last code token, with a divider between any two. -/
structure IsPartition (stream : TokenStream) (divides : Nat → Prop) (start stop : Nat)
    (ranges : List (Nat × Nat)) : Prop where
  separated : ranges.Pairwise fun first second =>
    ∃ divider, divides divider ∧ first.2 < divider ∧ divider < second.1
  within : ∀ range ∈ ranges, start ≤ range.1 ∧ range.1 ≤ range.2 ∧ range.2 < stop
  code : ∀ range ∈ ranges, stream.holdsCode range.1 = true ∧ stream.holdsCode range.2 = true
  whole : ∀ range ∈ ranges, ∀ index, range.1 ≤ index → index ≤ range.2 → ¬divides index
  covers : ∀ index, start ≤ index → index < stop → stream.holdsCode index = true →
    ¬divides index → ∃ range ∈ ranges, range.1 ≤ index ∧ index ≤ range.2

/-- What holds no code is empty as a partition. -/
theorem IsPartition.of_blank
    (blank : ∀ index, start ≤ index → index < stop → stream.holdsCode index = false) :
    stream.IsPartition divides start stop [] := by
  refine ⟨.nil, by simp, by simp, by simp, ?_⟩
  intro index lower upper code
  rw [blank index lower upper] at code
  cases code

theorem IsPartition.of_isTrimmed {range : Nat × Nat} (trimmed : stream.IsTrimmed start stop range)
    (whole : ∀ index, start ≤ index → index < stop → ¬divides index) :
    stream.IsPartition divides start stop [range] where
  separated := List.pairwise_singleton _ _
  within := List.forall_mem_singleton.mpr ⟨trimmed.after, trimmed.ordered, trimmed.before⟩
  code := List.forall_mem_singleton.mpr ⟨trimmed.begins, trimmed.ends⟩
  whole := by
    rw [List.forall_mem_singleton]
    intro index lower upper
    exact whole index (trimmed.after.trans lower) (upper.trans_lt trimmed.before)
  covers := by
    intro index lower upper code _
    exact ⟨range, List.mem_singleton_self _, trimmed.covers index lower upper code⟩

/-- A range that is a partition alone holds all the code that divides nothing. -/
theorem IsPartition.alone {range : Nat × Nat} {index : Nat}
    (partition : stream.IsPartition divides start stop [range]) (after : start ≤ index)
    (before : index < stop) (code : stream.holdsCode index = true) (undivided : ¬divides index) :
    range.1 ≤ index ∧ index ≤ range.2 := by
  rcases partition.covers index after before code undivided with ⟨only, member, inside⟩
  cases List.mem_singleton.mp member
  exact inside

/-- Two partitions with a divider between them are one. -/
theorem IsPartition.append {divider : Nat} {others : List (Nat × Nat)}
    (front : stream.IsPartition divides start divider ranges) (divided : divides divider)
    (start_le : start ≤ divider) (before : divider < stop)
    (back : stream.IsPartition divides (divider + 1) stop others) :
    stream.IsPartition divides start stop (ranges ++ others) where
  separated := by
    refine List.pairwise_append.mpr ⟨front.separated, back.separated, ?_⟩
    intro first member second among
    have earlier := (front.within first member).2.2
    have later := (back.within second among).1
    exact ⟨divider, divided, earlier, later⟩
  within := by
    intro range member
    rcases List.mem_append.mp member with member | member
    · have bounds := front.within range member
      omega
    · have bounds := back.within range member
      omega
  code := fun range member =>
    (List.mem_append.mp member).elim (front.code range) (back.code range)
  whole := fun range member =>
    (List.mem_append.mp member).elim (front.whole range) (back.whole range)
  covers := by
    intro index lower upper code undivided
    rcases Nat.lt_trichotomy index divider with earlier | rfl | later
    · rcases front.covers index lower earlier code undivided with ⟨range, member, inside⟩
      exact ⟨range, List.mem_append_left _ member, inside⟩
    · exact absurd divided undivided
    · rcases back.covers index later upper code undivided with ⟨range, member, inside⟩
      exact ⟨range, List.mem_append_right _ member, inside⟩

/-- What is left of a range without dividers, its blanks apart, is a partition. -/
theorem isPartition_trimmed?
    (whole : ∀ index, start ≤ index → index < stop → ¬divides index) :
    stream.IsPartition divides start stop (stream.trimmed? (start, stop)).toList := by
  cases trimmed : stream.trimmed? (start, stop) with
  | none => exact .of_blank fun index => holdsCode_of_trimmed?_eq_none trimmed
  | some range => exact .of_isTrimmed (isTrimmed_of_trimmed? trimmed) whole

theorem filterMap_trimmed?_cons (range : Nat × Nat) (ranges : List (Nat × Nat)) :
    (range :: ranges).filterMap stream.trimmed? =
      (stream.trimmed? range).toList ++ ranges.filterMap stream.trimmed? := by
  cases trimmed : stream.trimmed? range with
  | none => rw [List.filterMap_cons_none trimmed, Option.toList_none, List.nil_append]
  | some kept => rw [List.filterMap_cons_some trimmed, Option.toList_some, List.singleton_append]

/-- Without the blanks at their ends, parts are a partition of the code. -/
theorem isPartition_of_parts (parts : Parts divides stop start ranges) :
    stream.IsPartition divides start stop (ranges.filterMap stream.trimmed?) := by
  induction parts with
  | done => exact .of_blank fun index lower upper => by omega
  | last before whole =>
      rw [filterMap_trimmed?_cons, List.filterMap_nil, List.append_nil]
      exact isPartition_trimmed? whole
  | part after before whole divided more ih =>
      rw [filterMap_trimmed?_cons]
      exact (isPartition_trimmed? whole).append divided after before ih

end Partition

section Scan

variable {stream : TokenStream} {start index closer inner : Nat}

theorem argumentsFrom_cross (within : index ≤ closer)
    (opens : stream.crossing? index = some inner) (later : index ≤ inner) :
    stream.argumentsFrom closer start index = stream.argumentsFrom closer start (inner + 1) := by
  rw [crossing?] at opens
  rw [argumentsFrom, if_pos within]
  simp only [opens, if_pos later]

theorem argumentsFrom_pass (within : index ≤ closer) (unmatched : stream.crossing? index = none)
    (goesOn : ¬(index = closer ∨ (stream.token? index).any fun token => token.kind = .comma)) :
    stream.argumentsFrom closer start index = stream.argumentsFrom closer start (index + 1) := by
  rw [crossing?] at unmatched
  rw [argumentsFrom, if_pos within]
  simp only [unmatched, if_neg goesOn]

theorem argumentsFrom_end (within : index ≤ closer) (unmatched : stream.crossing? index = none)
    (ends : index = closer ∨ (stream.token? index).any fun token => token.kind = .comma)
    (inside : index ≤ stream.size) :
    stream.argumentsFrom closer start index =
      (stream.trimmed? (start, index)).toList ++
        stream.argumentsFrom closer (index + 1) (index + 1) := by
  rw [crossing?] at unmatched
  rw [argumentsFrom, if_pos within]
  simp only [unmatched, if_pos ends]
  rw [nextCodeBefore?_eq inside, previousCodeFrom?_eq inside, trimmed?]
  cases (stream.codePlaces start index).head? <;>
    cases (stream.codePlaces start index).getLast? <;> rfl

end Scan

variable {lexemes : List Lexeme} {brackets : BracketPair} {start index : Nat}

theorem closer_lt_size (among : brackets ∈ bracketPairs (lexemes.map Lexeme.kind)) :
    brackets.closer < (ofLexemes lexemes).size := by
  rcases exists_pairing (lexemes.map Lexeme.kind) with ⟨stack, pairing⟩
  simpa using (pairing.matched _ among).2.1

theorem crossing?_closer (among : brackets ∈ bracketPairs (lexemes.map Lexeme.kind)) :
    (ofLexemes lexemes).crossing? brackets.closer = none := by
  rw [crossing?, Option.bind_eq_none_iff]
  intro token found
  rcases Option.filter_eq_some_iff.mp found with ⟨here, isOpener⟩
  exact absurd rfl (ne_closer_of_isOpener among (kind_of_token? here) isOpener)

/-- The arguments that are still to come are what trimming leaves of the elements that are. -/
theorem argumentsFrom_eq (among : brackets ∈ bracketPairs (lexemes.map Lexeme.kind))
    (start_le : start ≤ index) (index_le : index ≤ brackets.closer)
    (inside : level (lexemes.map Lexeme.kind) index =
      level (lexemes.map Lexeme.kind) brackets.closer) :
    (ofLexemes lexemes).argumentsFrom brackets.closer start index =
      ((ofLexemes lexemes).elementsFrom brackets.closer start index).filterMap
        (ofLexemes lexemes).trimmed? := by
  have closer_lt := closer_lt_size among
  -- Both scans cross the same pairs, but only the one for arguments meets the closer.
  have atCloser : ∀ {start}, (ofLexemes lexemes).argumentsFrom brackets.closer start
      brackets.closer = ((ofLexemes lexemes).trimmed? (start, brackets.closer)).toList := by
    intro start
    have nothing : (ofLexemes lexemes).argumentsFrom brackets.closer (brackets.closer + 1)
        (brackets.closer + 1) = [] := by rw [argumentsFrom, if_neg (Nat.not_succ_le_self _)]
    rw [argumentsFrom_end (Nat.le_refl _) (crossing?_closer among) (.inl rfl) closer_lt.le,
      nothing, List.append_nil]
  fun_induction elementsFrom (ofLexemes lexemes) brackets.closer start index with
  | case1 start index within token inner opens later ih =>
      rcases closes_before_of_matched within inside opens with ⟨member, inner_lt⟩
      rw [argumentsFrom_cross within.le opens later]
      exact ih (by omega) inner_lt ((level_closer_succ member).trans inside)
  | case2 start index within token inner opens crossed =>
      have member := (closes_before_of_matched within inside opens).1
      exact absurd (BracketPair.lt_of_mem member).le crossed
  | case3 start index within token unmatched isComma ih =>
      rcases (Option.any_eq_true _ _).mp isComma with ⟨comma, here, kind_eq⟩
      have found := kind_of_token? here
      rw [of_decide_eq_true kind_eq] at found
      rw [argumentsFrom_end within.le unmatched (.inr isComma) (within.trans closer_lt).le,
        filterMap_trimmed?_cons]
      rw [ih (Nat.le_refl _) within ((level_succ found rfl rfl).trans inside)]
  | case4 start index within token unmatched noComma ih =>
      have same := level_succ_of_unmatched among within inside unmatched
      rw [argumentsFrom_pass within.le unmatched (not_or.mpr ⟨within.ne, noComma⟩)]
      exact ih (by omega) within (same.trans inside)
  | case5 start index outside nonempty =>
      cases Nat.le_antisymm index_le (Nat.le_of_not_lt outside)
      rw [atCloser, filterMap_trimmed?_cons, List.filterMap_nil, List.append_nil]
  | case6 start index outside finished =>
      cases Nat.le_antisymm index_le (Nat.le_of_not_lt outside)
      cases Nat.le_antisymm start_le (Nat.le_of_not_lt finished)
      rw [atCloser, trimmed?, codePlaces, Nat.sub_self]
      rfl

theorem callArguments_eq_trimmed (among : brackets ∈ bracketPairs (lexemes.map Lexeme.kind)) :
    (ofLexemes lexemes).callArguments brackets.opener =
      ((ofLexemes lexemes).arrayElements brackets.opener brackets.closer).filterMap
        (ofLexemes lexemes).trimmed? := by
  rw [callArguments, (matches_iff.mpr among).2]
  exact argumentsFrom_eq among (Nat.le_refl _) (BracketPair.lt_of_mem among)
    (level_closer among).symm

theorem isPartition_callArguments (among : brackets ∈ bracketPairs (lexemes.map Lexeme.kind)) :
    (ofLexemes lexemes).IsPartition ((ofLexemes lexemes).Divides brackets) (brackets.opener + 1)
      brackets.closer ((ofLexemes lexemes).callArguments brackets.opener) := by
  rw [callArguments_eq_trimmed among]
  exact isPartition_of_parts (parts_arrayElements among)

/-- The arguments between two brackets are a partition of the code there, divided by the commas that
stand in no other brackets, and the same as the elements of the list without their blanks. -/
theorem callArguments_partition (lexemes : List Lexeme) :
    let stream : TokenStream := .ofLexemes lexemes
    ∀ brackets : BracketPair, stream.Matches brackets.opener brackets.closer →
      stream.IsPartition (stream.Divides brackets) (brackets.opener + 1) brackets.closer
        (stream.callArguments brackets.opener) ∧
      stream.callArguments brackets.opener =
        (stream.arrayElements brackets.opener brackets.closer).filterMap stream.trimmed? := by
  intro stream brackets matched
  have among := matches_iff.mp matched
  exact ⟨isPartition_callArguments among, callArguments_eq_trimmed among⟩

/-- The lexemes of `( $a,/**/,[$b,$c]] ,{,}, )`: one argument is a comment, the last is a blank, and
one has a bracket without a partner. -/
def mixedArgumentLexemes : List Lexeme := [
  ⟨.openParenthesis, "(", ⟨1, 1⟩⟩, ⟨.whitespace, " ", ⟨1, 2⟩⟩, ⟨.variable, "$a", ⟨1, 3⟩⟩,
  ⟨.comma, ",", ⟨1, 5⟩⟩, ⟨.comment, "/**/", ⟨1, 6⟩⟩, ⟨.comma, ",", ⟨1, 10⟩⟩,
  ⟨.openShortArray, "[", ⟨1, 11⟩⟩, ⟨.variable, "$b", ⟨1, 12⟩⟩, ⟨.comma, ",", ⟨1, 14⟩⟩,
  ⟨.variable, "$c", ⟨1, 15⟩⟩, ⟨.closeShortArray, "]", ⟨1, 17⟩⟩, ⟨.closeSquare, "]", ⟨1, 18⟩⟩,
  ⟨.whitespace, " ", ⟨1, 19⟩⟩, ⟨.comma, ",", ⟨1, 20⟩⟩, ⟨.openCurly, "\x7b", ⟨1, 21⟩⟩,
  ⟨.comma, ",", ⟨1, 22⟩⟩, ⟨.closeCurly, "\x7d", ⟨1, 23⟩⟩, ⟨.comma, ",", ⟨1, 24⟩⟩,
  ⟨.whitespace, " ", ⟨1, 25⟩⟩, ⟨.closeParenthesis, ")", ⟨1, 26⟩⟩]

theorem callArguments_partition_mixed :
    let stream : TokenStream := .ofLexemes mixedArgumentLexemes
    stream.Matches 0 19 ∧ stream.unmatched = [11] ∧
      stream.arrayElements 0 19 = [(1, 3), (4, 5), (6, 13), (14, 17), (18, 19)] ∧
      stream.callArguments 0 = [(2, 2), (6, 11), (14, 16)] ∧
      stream.IsPartition (stream.Divides ⟨0, 19⟩) 1 19 [(2, 2), (6, 11), (14, 16)] := by
  intro stream
  have matched : stream.Matches 0 19 := ⟨by decide, by decide +kernel⟩
  have elements_eq : stream.arrayElements 0 19 =
      [(1, 3), (4, 5), (6, 13), (14, 17), (18, 19)] := by decide +kernel
  rcases callArguments_partition mixedArgumentLexemes ⟨0, 19⟩ matched with ⟨partition, arguments_eq⟩
  have trimmed_eq : stream.callArguments 0 = [(2, 2), (6, 11), (14, 16)] := by
    rw [arguments_eq, elements_eq]
    decide +kernel
  rw [trimmed_eq] at partition
  exact ⟨matched, by decide +kernel, elements_eq, trimmed_eq, partition⟩

end TokenLint.TokenStream
