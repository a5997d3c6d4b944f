import TokenLint.Proofs.Lexer.Swap

/-!
# Steps in front of spaced points

A point that stands alone may get a space in front of it or behind it. In front of the point this
concerns steps that end there: a space goes on with blanks, with an open tag, and with nothing else
but a number that ends with a point of its own. Behind the point it concerns steps that end in front
of a point behind blanks, and the blanks end all shapes but those that take the whole text.
-/

namespace TokenLint.Lexer

open Text

/-- Whether a text is a number up to its point, without any digits behind it. -/
def IsPointed (text : List Char) : Prop :=
  0 < digitRunLength text ∧ text.drop (digitRunLength text) = ['.']

/-- Whether a text is an open tag with no blank behind it. -/
def IsBareTag (text : List Char) : Prop := openTagLength text = 5 ∧ text.length = 5

/-- How two texts go on behind a common beginning, where the first goes on with a point and the
second has spaces in front of it or behind it. -/
inductive Spaced (text : List Char) : List Char → List Char → Prop where
  | before {rest tail : List Char} (solid : ∃ char ∈ text, isSpaceOrTab char = false) :
      Spaced text ('.' :: rest) (' ' :: '.' :: tail)
  | behind {rest tail : List Char} (blank : ∃ char ∈ blankChars, text.getLast? = some char) :
      Spaced text ('.' :: rest) ('.' :: tail)

variable {text rest other : List Char}

theorem beginsWith_point (rest : List Char) : BeginsWith ['.'] ('.' :: rest) := by
  rintro char ⟨⟩
  decide

theorem beginsWith_space (rest : List Char) : BeginsWith [' '] (' ' :: rest) := by
  rintro char ⟨⟩
  decide

theorem BeginsWith.mono {chars others : List Char} (begins : BeginsWith chars text)
    (among : ∀ char ∈ chars, char ∈ others) : BeginsWith others text :=
  fun char found => among char (begins char found)

/-- A number that ends in front of a point has no point of its own, or digits behind it. -/
theorem floatLength_append_point (unpointed : ¬IsPointed text)
    (within : floatLength (text ++ '.' :: rest) ≤ text.length) :
    floatLength (text ++ '.' :: rest) = floatLength text := by
  have stops : Stops isFigure ('.' :: rest) := stops_cons.mpr (by decide +kernel)
  have whole_le := digitRunLength_le text
  have afterWhole : (text ++ '.' :: rest).drop (digitRunLength text) =
      text.drop (digitRunLength text) ++ '.' :: rest := List.drop_append_of_le_length whole_le
  have whole_eq : digitRunLength (text ++ '.' :: rest) = digitRunLength text :=
    digitRunLength_append_of_stops stops
  cases behind : text.drop (digitRunLength text) with
  | nil =>
      have whole_length : text.length ≤ digitRunLength text := List.drop_eq_nil_iff.mp behind
      rw [behind, List.nil_append] at afterWhole
      rw [floatLength_of_pointed (whole_eq ▸ afterWhole), whole_eq] at within ⊢
      have none_alone : floatLength text = 0 := by
        rw [floatLength_of_unpointed (by simp [behind]), behind]
        simp [exponentLength]
      rw [none_alone]
      split at within
      · omega
      · split at within
        · rename_i places ends
          rw [if_neg places, if_pos ends]
        · omega
  | cons mark fraction =>
      rw [behind, List.cons_append] at afterWhole
      by_cases point : mark = '.'
      · subst point
        have places_le := digitRunLength_le fraction
        rw [floatLength_of_pointed (whole_eq ▸ afterWhole), whole_eq,
          floatLength_of_pointed behind, digitRunLength_append_of_stops stops,
          List.drop_append_of_le_length places_le, exponentLength_append_of_stops stops,
          exponentLength_append_of_stops stops]
        cases fraction with
        | nil =>
            have none_before : digitRunLength text = 0 := by
              by_contra some_before
              exact unpointed ⟨Nat.pos_of_ne_zero some_before, behind⟩
            have noPlaces : ¬0 < digitRunLength ([] : List Char) := Nat.lt_irrefl 0
            rw [if_neg noPlaces, if_neg noPlaces, if_pos (.inl none_before),
              if_pos (.inl none_before)]
        | cons first fraction => rfl
      · have unpointedAlone : (text.drop (digitRunLength text)).head? ≠ some '.' := by
          simpa [behind] using point
        have unpointedHere : ((text ++ '.' :: rest).drop
            (digitRunLength (text ++ '.' :: rest))).head? ≠ some '.' := by
          rw [whole_eq, afterWhole]
          simpa using point
        rw [floatLength_of_unpointed unpointedAlone, floatLength_of_unpointed unpointedHere,
          whole_eq, afterWhole, behind, ← List.cons_append, exponentLength_append_of_stops stops]

/-- Where a text begins with a digit, a number is cut off. -/
theorem stride?_digit {first : Char} (digit : isDigit first = true) (tail : List Char) :
    stride? .code (first :: tail) =
      some (if 0 < floatLength (first :: tail) then floatLength (first :: tail)
        else integerLength (first :: tail), .code) := by
  have apart : ∀ char ∈ ['?', '<', '/', ' ', '\t', '\r', '\n', '#', '$', '('], first ≠ char := by
    rintro _ member rfl
    have plain : ∀ char ∈ ['?', '<', '/', ' ', '\t', '\r', '\n', '#', '$', '('],
        isDigit char = false := by decide +kernel
    exact Bool.false_ne_true ((plain first member).symm.trans digit)
  simp only [List.mem_cons, List.not_mem_nil, or_false, forall_eq_or_imp, forall_eq] at apart
  have integer : 0 < integerLength (first :: tail) :=
    integerLength_pos_iff.mpr (by simpa using digit)
  simp only [stride?, codeLength?, wordLength?]
  simp [closeTagLength, whitespaceLength, runLength, isSpaceOrTab, lineBreakLength,
    lineCommentLength, variableLength, cast?, apart, apart.2.1.symm, apart.2.2.1.symm, integer]
  split <;> rfl

/-- The digits in front of a point are those of an integer. -/
theorem integerLength_of_isPointed (pointed : IsPointed text) :
    integerLength text = digitRunLength text := by
  rcases pointed with ⟨positive, behind⟩
  rcases text with _ | ⟨first, _ | ⟨mark, tail⟩⟩
  · rfl
  · by_cases zero : first = '0'
    · subst zero
      rfl
    · exact integerLength_of_nonzero (by simpa using zero)
  · by_cases zero : first = '0'
    · subst zero
      refine integerLength_of_unmarked tail ?_
      by_contra marked
      have marks : mark.toLower = 'x' ∨ mark.toLower = 'b' := by
        by_contra neither
        exact marked (not_or.mp neither)
      rcases plain_of_toLower marks with ⟨noDigit, noUnderscore, noPoint, -⟩
      have alone : digitRunLength ('0' :: mark :: tail) = 1 := by
        have zeroDigit : isDigit '0' = true := by decide +kernel
        simp [digitRunLength, runLength, noDigit, noUnderscore, zeroDigit]
      rw [alone, List.drop_one, List.tail_cons, List.cons.injEq] at behind
      exact noPoint behind.1
    · exact integerLength_of_nonzero (by simpa using zero)

/-- A piece in front of a point is no number with a point, unless the point is the piece behind. -/
theorem not_isPointed_of_cut {piece : List Char} {next : Mode}
    (cut : stride? .code (piece ++ (text ++ '.' :: rest)) = some (piece.length, next))
    (apart : text ≠ ['.']) : ¬IsPointed (piece ++ text) := by
  intro pointed
  have stops : Stops isFigure ('.' :: rest) := stops_cons.mpr (by decide +kernel)
  have whole_eq : digitRunLength (piece ++ text ++ '.' :: rest) = digitRunLength (piece ++ text) :=
    digitRunLength_append_of_stops stops
  have behindWhole : (piece ++ text ++ '.' :: rest).drop
      (digitRunLength (piece ++ text ++ '.' :: rest)) = '.' :: '.' :: rest := by
    rw [whole_eq, List.drop_append_of_le_length (digitRunLength_le _), pointed.2]
    rfl
  have noFloat : ¬0 < floatLength (piece ++ text ++ '.' :: rest) := by
    have noPlaces : ¬0 < digitRunLength ('.' :: rest) := by
      simp [digitRunLength, isDigit, digitValue?]
    rw [floatLength_of_pointed behindWhole, if_neg noPlaces, if_pos (.inr rfl)]
    exact Nat.lt_irrefl 0
  have integer : integerLength (piece ++ text ++ '.' :: rest) = digitRunLength (piece ++ text) := by
    rw [(beginsWith_point rest).integerLength_append (by decide +kernel) (by decide),
      integerLength_of_isPointed pointed]
  have digit := digitRunLength_pos_iff.mp pointed.1
  rcases text_eq : piece ++ text with _ | ⟨first, tail⟩
  · rw [text_eq] at digit
    cases digit
  · rw [← List.append_assoc] at cut
    rw [text_eq] at cut noFloat integer digit
    rw [List.cons_append, stride?_digit (by simpa using digit)] at cut
    rw [List.cons_append] at noFloat integer
    rw [if_neg noFloat, integer, Option.some.injEq, Prod.mk.injEq] at cut
    have behind := pointed.2
    rw [text_eq, cut.1, ← text_eq, List.drop_left] at behind
    exact apart behind

/-- A cast or the first line of a heredoc does not reach into a spaced point. -/
theorem prefix_of_start_of_space {start tail : List Char} (isStart : IsStart start)
    (here : start <+: text ++ ' ' :: '.' :: tail) : start <+: text := by
  have noPoint : '.' ∉ start := by
    intro member
    rcases isStart.head with ⟨first, sign, head_eq⟩
    rcases List.head?_eq_some_iff.mp head_eq with ⟨body, rfl⟩
    rcases List.mem_cons.mp member with rfl | inside
    · exact absurd sign (by decide)
    · exact absurd (isStart.parts _ inside) (by decide)
  rcases here with ⟨after, text_eq⟩
  rcases List.append_eq_append_iff.mp text_eq with ⟨more, short, -⟩ | ⟨extra, rfl, extra_eq⟩
  · exact ⟨more, short.symm⟩
  · rcases isStart.last with ⟨last, sign, last_eq⟩
    rcases extra with _ | ⟨first, _ | ⟨second, extra⟩⟩
    · exact ⟨[], by simp⟩
    · simp only [List.cons_append, List.cons.injEq] at extra_eq
      obtain ⟨rfl, -⟩ := extra_eq
      rw [List.getLast?_append_of_ne_nil _ (List.cons_ne_nil _ _)] at last_eq
      cases last_eq
      exact absurd sign (by decide)
    · simp only [List.cons_append, List.cons.injEq] at extra_eq
      obtain ⟨-, rfl, -⟩ := extra_eq
      exact absurd (by simp) noPoint

/-- No operator has a blank in it, so it ends in front of one. -/
theorem operatorLength?_append_blank {blank : Char} (listed : blank ∈ blankChars) :
    operatorLength? (text ++ blank :: rest) = operatorLength? text := by
  have apart : ∀ blank ∈ blankChars, ∀ entry ∈ operators, blank ∉ entry.1.toList := by decide
  simp only [operatorLength?]
  rw [List.find?_congr fun entry member => isPrefixOf_append_of_head fun char found => ?_]
  cases found
  exact apart blank listed entry member

namespace Spaced

/-- What a rest begins with that is spaced or not: the operator itself or a space. -/
def pointChars : List Char := ['.', ' ']

theorem rest_begins (spaced : Spaced text rest other) : BeginsWith pointChars rest := by
  cases spaced <;> exact (beginsWith_point _).mono (by decide)

theorem other_begins (spaced : Spaced text rest other) : BeginsWith pointChars other := by
  cases spaced
  · exact (beginsWith_space _).mono (by decide)
  · exact (beginsWith_point _).mono (by decide)

theorem exists_head_rest (spaced : Spaced text rest other) : ∃ first ∈ rest.head?, first ≠ '?' := by
  cases spaced <;> exact ⟨'.', rfl, by decide⟩

theorem nonempty (spaced : Spaced text rest other) : text ≠ [] := by
  rintro rfl
  cases spaced with
  | before solid =>
      rcases solid with ⟨char, member, -⟩
      cases member
  | behind blank =>
      rcases blank with ⟨char, -, last_eq⟩
      cases last_eq

/-- An operator that ends in front of a point ends in front of a spaced one. -/
theorem operatorLength?_append (spaced : Spaced text rest other) {length : Nat}
    (within : length ≤ text.length) (found : operatorLength? (text ++ rest) = some length) :
    operatorLength? (text ++ other) = some length := by
  have nonempty := spaced.nonempty
  cases spaced with
  | before solid =>
      rw [(beginsWith_space _).operatorLength?_append (by decide) nonempty]
      exact operatorLength?_of_append found within
  | behind blank =>
      rcases blank with ⟨last, listed, last_eq⟩
      rcases List.getLast?_eq_some_iff.mp last_eq with ⟨front, rfl⟩
      rw [List.append_assoc, List.singleton_append, operatorLength?_append_blank listed] at found ⊢
      exact found

theorem floatLength_eq (spaced : Spaced text rest other) (unpointed : ¬IsPointed text)
    (within : floatLength (text ++ rest) ≤ text.length) :
    floatLength (text ++ rest) = floatLength (text ++ other) := by
  cases spaced with
  | before solid =>
      rw [floatLength_append_point unpointed within,
        floatLength_append_of_stops (stops_cons.mpr (by decide +kernel))]
  | behind blank =>
      rcases blank with ⟨last, listed, last_eq⟩
      rcases List.getLast?_eq_some_iff.mp last_eq with ⟨front, rfl⟩
      have outside : ∀ blank ∈ blankChars, isDecimalPart blank = false := by decide +kernel
      have alone : ∀ rest, floatLength (front ++ [last] ++ rest) = floatLength front := by
        intro rest
        rw [List.append_assoc]
        exact floatLength_append_of_stops (stops_cons.mpr (outside last listed))
      rw [alone, alone]

theorem whitespaceLength_eq (spaced : Spaced text rest other) :
    whitespaceLength (text ++ rest) = whitespaceLength (text ++ other) := by
  have begins := spaced.rest_begins
  have otherBegins := spaced.other_begins
  cases spaced with
  | before solid =>
      rw [begins.whitespaceLength_append_of_solid (by decide) solid,
        otherBegins.whitespaceLength_append_of_solid (by decide) solid]
  | behind blank =>
      rw [(beginsWith_point _).whitespaceLength_append (by decide) (by decide),
        (beginsWith_point _).whitespaceLength_append (by decide) (by decide)]

theorem prefix_of_start (spaced : Spaced text rest other) (start : List Char)
    (isStart : IsStart start) (here : start <+: text ++ other) : start <+: text := by
  have nonempty := spaced.nonempty
  cases spaced with
  | before solid => exact prefix_of_start_of_space isStart here
  | behind blank =>
      exact (beginsWith_point _).prefix_of_start (by decide) nonempty isStart here

theorem swap (spaced : Spaced text rest other) (unpointed : ¬IsPointed text) :
    Swap text rest other where
  nonempty := spaced.nonempty
  heredocSign := by
    rw [spaced.rest_begins.isPrefixOf_append (by decide) spaced.nonempty,
      spaced.other_begins.isPrefixOf_append (by decide) spaced.nonempty]
  commentSign := by
    rw [spaced.rest_begins.isPrefixOf_append (by decide) spaced.nonempty,
      spaced.other_begins.isPrefixOf_append (by decide) spaced.nonempty]
  closeTag := by
    rw [spaced.rest_begins.closeTagLength_append (by decide) (by decide) spaced.nonempty,
      spaced.other_begins.closeTagLength_append (by decide) (by decide) spaced.nonempty]
  whitespace := spaced.whitespaceLength_eq
  lineComment := spaced.rest_begins.lineCommentLength_eq (by decide) spaced.other_begins (by decide)
    spaced.exists_head_rest spaced.nonempty
  name := spaced.other_begins.stops (by decide)
  starts := spaced.prefix_of_start
  float := spaced.floatLength_eq unpointed
  integer := spaced.other_begins.integerLength_append (by decide +kernel) (by decide)
  operator _ within found := spaced.operatorLength?_append within found

theorem openTagLength_eq (spaced : Spaced text rest other) (bare : ¬IsBareTag text) :
    openTagLength (text ++ rest) = openTagLength (text ++ other) := by
  have noTag : ∀ {rest : List Char}, BeginsWith pointChars rest → BeginsNoTag rest :=
    fun begins => begins.noTag (by decide)
  have begins := spaced.rest_begins
  have otherBegins := spaced.other_begins
  by_cases opens : 0 < openTagLength text
  · rcases exists_openTag opens with ⟨tail, rfl⟩ | ⟨first, second, third, tail, rfl, letters⟩
    · rfl
    · cases tail with
      | nil => exact absurd ⟨openTagLength_long _ letters, rfl⟩ bare
      | cons next tail =>
          simp only [List.cons_append, openTagLength_long _ letters, absorbedLength_cons,
            begins.head?_append_iff (by decide : '\n' ∉ pointChars),
            otherBegins.head?_append_iff (by decide : '\n' ∉ pointChars)]
  · have absent := mt (noTag begins).openTagLength_pos_of_append opens
    have absentToo := mt (noTag otherBegins).openTagLength_pos_of_append opens
    omega

/-- A piece that is cut off in front of a point is cut off in front of a spaced one, unless it is an
open tag that absorbs the space. -/
theorem stride?_append {mode next : Mode} {piece : List Char}
    (spaced : Spaced (piece ++ text) rest other)
    (unpointed : mode = .code → ¬IsPointed (piece ++ text))
    (bare : mode = .markup → ¬IsBareTag (piece ++ text))
    (cut : stride? mode (piece ++ (text ++ rest)) = some (piece.length, next)) :
    stride? mode (piece ++ (text ++ other)) = some (piece.length, next) := by
  cases mode with
  | code =>
      refine (spaced.swap (unpointed rfl)).stride?_append (fun _ label => ?_) cut
      exact labelEnds_append_of_stops (.inr (spaced.rest_begins.stops (by decide +kernel)))
        (spaced.other_begins.stops (by decide +kernel))
  | markup =>
      have goesOn : rest ≠ [] := by
        rcases spaced.exists_head_rest with ⟨first, head_eq, -⟩
        rintro rfl
        cases head_eq
      refine stride?_markup_append (spaced.rest_begins.noTag (by decide))
        (spaced.other_begins.noTag (by decide)) goesOn ?_ cut
      rw [← List.append_assoc, ← List.append_assoc, spaced.openTagLength_eq (bare rfl)]

end Spaced

end TokenLint.Lexer
