import TokenLint.Output.Console

/-!
# Texts without control sequences

Colour and movement codes are dropped from what is printed. A code has none of the characters that
mark the lines of a diff, so that none reaches over the start of a marked line. What is printed of a
text can then only begin with the text itself if no code was dropped from it.
-/

namespace TokenLint.Output

/-- A character of the parameters of a control sequence. -/
def isParameter (char : Char) : Bool := char = ';' || char = '?' || char.isDigit

/-- Whether characters are a colour or movement code. -/
def IsControlSequence (chars : List Char) : Prop :=
  ∃ parameters last, chars = '\x1b' :: '[' :: (parameters ++ [last]) ∧
    parameters.all isParameter = true ∧ last.isAlpha = true

/-- Characters that lines of a diff are marked with. -/
def isMark (char : Char) : Bool := char = ' ' || char = '-' || char = '+' || char = '@'

/-- Whether characters begin with a mark, if there are any. -/
def Marked (chars : List Char) : Prop := ∀ char ∈ chars.head?, isMark char = true

variable {chars text more : List Char}

theorem not_isParameter_of_isAlpha {char : Char} (isAlpha : char.isAlpha = true) :
    isParameter char = false := by
  simp only [isParameter, Bool.or_eq_false_iff, decide_eq_false_iff_not]
  refine ⟨⟨?_, ?_⟩, ?_⟩
  · rintro rfl
    exact absurd isAlpha (by decide)
  · rintro rfl
    exact absurd isAlpha (by decide)
  · have alpha_eq : char.isAlpha = (decide (char.val ≥ 'A'.val ∧ char.val ≤ 'Z'.val) ||
        (decide (char.val ≥ 'a'.val) && decide (char.val ≤ 'z'.val))) := rfl
    simp only [alpha_eq, Char.isDigit, Bool.or_eq_true, Bool.and_eq_true, decide_eq_true_eq,
      Bool.and_eq_false_iff, decide_eq_false_iff_not, ge_iff_le, UInt32.le_iff_toNat_le]
      at isAlpha ⊢
    have nine : ('9' : Char).val.toNat = 57 := rfl
    have zero : ('0' : Char).val.toNat = 48 := rfl
    have upper : ('A' : Char).val.toNat = 65 := rfl
    have lower : ('a' : Char).val.toNat = 97 := rfl
    omega

theorem controlSequenceLength_append (isSequence : IsControlSequence chars) (more : List Char) :
    controlSequenceLength (chars ++ more) = chars.length := by
  rcases isSequence with ⟨parameters, last, rfl, areParameters, isLast⟩
  have stops : (parameters ++ last :: more).takeWhile isParameter = parameters := by
    rw [List.takeWhile_append_of_pos (List.all_eq_true.mp areParameters),
      List.takeWhile_cons_of_neg (by simp [not_isParameter_of_isAlpha isLast]), List.append_nil]
  have rest : '\x1b' :: '[' :: (parameters ++ [last]) ++ more =
      '\x1b' :: '[' :: (parameters ++ last :: more) := by simp
  rw [rest]
  have stops : (parameters ++ last :: more).takeWhile
      (fun char => decide (char = ';') || decide (char = '?') || char.isDigit) = parameters := stops
  simp only [controlSequenceLength, stops, List.drop_left, isLast, if_true]
  simp

theorem isControlSequence_of_length {length : Nat}
    (found : controlSequenceLength text = length + 1) :
    ∃ chars more, text = chars ++ more ∧ IsControlSequence chars ∧ chars.length = length + 1 := by
  simp only [controlSequenceLength] at found
  split at found
  · rename_i rest
    split at found
    · rename_i last more behind
      split at found
      · rename_i isLast
        refine ⟨'\x1b' :: '[' :: (rest.takeWhile isParameter ++ [last]), more, ?_,
          ⟨_, _, rfl, List.all_takeWhile, isLast⟩, ?_⟩
        · have parts := List.take_append_drop (rest.takeWhile isParameter).length rest
          rw [← List.prefix_iff_eq_take.mp (List.takeWhile_prefix _)] at parts
          have behind : rest.drop (rest.takeWhile isParameter).length = last :: more := behind
          rw [behind] at parts
          simp [parts]
        · have found : (rest.takeWhile isParameter).length + 3 = length + 1 := found
          simp [← found]
      · cases found
    · cases found
  · cases found

theorem IsControlSequence.ne_nil (isSequence : IsControlSequence chars) : chars ≠ [] := by
  rcases isSequence with ⟨_, _, rfl, -⟩
  exact nofun

theorem IsControlSequence.not_isMark (isSequence : IsControlSequence chars) :
    ∀ char ∈ chars, isMark char = false := by
  rcases isSequence with ⟨parameters, last, rfl, areParameters, isLast⟩
  have escape : ∀ mark, isMark mark = true →
      mark ≠ '\x1b' ∧ mark ≠ '[' ∧ isParameter mark = false ∧ mark.isAlpha = false := by
    intro mark isMark
    simp only [Output.isMark, Bool.or_eq_true, decide_eq_true_eq] at isMark
    rcases isMark with ((rfl | rfl) | rfl) | rfl <;> decide
  intro char member
  rw [← Bool.not_eq_true]
  intro isMark
  rcases escape char isMark with ⟨notEscape, notBracket, notParameter, notAlpha⟩
  simp only [List.mem_cons, List.mem_append, List.not_mem_nil, or_false] at member
  rcases member with same | same | member | same
  · exact notEscape same
  · exact notBracket same
  · rw [List.all_eq_true.mp areParameters char member] at notParameter
    cases notParameter
  · rw [same, isLast] at notAlpha
    cases notAlpha

/-- What is left of characters without the control sequences in them. -/
inductive Dropped : List Char → List Char → Prop
  | nil : Dropped [] []
  | keep {char : Char} {rest kept : List Char}
      (plain : controlSequenceLength (char :: rest) = 0) (left : Dropped rest kept) :
      Dropped (char :: rest) (char :: kept)
  | skip {chars rest kept : List Char} (isSequence : IsControlSequence chars)
      (left : Dropped rest kept) : Dropped (chars ++ rest) kept

theorem dropControlSequences_skip (chars more : List Char) :
    dropControlSequences chars.length (chars ++ more) = dropControlSequences 0 more := by
  induction chars with
  | nil => rfl
  | cons first rest ih => exact ih

theorem dropControlSequences_sequence (isSequence : IsControlSequence chars) (more : List Char) :
    dropControlSequences 0 (chars ++ more) = dropControlSequences 0 more := by
  have length_eq := controlSequenceLength_append isSequence more
  cases chars with
  | nil => exact absurd rfl isSequence.ne_nil
  | cons first rest =>
      rw [List.cons_append] at length_eq ⊢
      rw [dropControlSequences]
      simp only [length_eq, List.length_cons]
      exact dropControlSequences_skip rest more

theorem dropControlSequences_plain {char : Char} {rest : List Char}
    (plain : controlSequenceLength (char :: rest) = 0) :
    dropControlSequences 0 (char :: rest) = char :: dropControlSequences 0 rest := by
  rw [dropControlSequences]
  simp only [plain]

theorem dropped (text : List Char) : Dropped text (dropControlSequences 0 text) := by
  induction size : text.length using Nat.strongRecOn generalizing text with
  | ind size ih =>
      cases text with
      | nil => exact .nil
      | cons char rest =>
          cases found : controlSequenceLength (char :: rest) with
          | zero =>
              rw [dropControlSequences_plain found]
              exact .keep found (ih rest.length (by rw [← size]; exact Nat.lt_succ_self _) rest rfl)
          | succ length =>
              rcases isControlSequence_of_length found with
                ⟨chars, more, split, isSequence, chars_length⟩
              rw [split] at size ⊢
              rw [dropControlSequences_sequence isSequence]
              refine .skip isSequence (ih more.length ?_ more rfl)
              rw [List.length_append] at size
              omega

theorem Dropped.length_le {kept : List Char} (dropped : Dropped text kept) :
    kept.length ≤ text.length := by
  induction dropped with
  | nil => exact Nat.le_refl _
  | keep plain left ih => exact Nat.succ_le_succ ih
  | skip isSequence left ih =>
      rw [List.length_append]
      exact Nat.le_trans ih (Nat.le_add_left ..)

theorem Dropped.eq {kept : List Char} (dropped : Dropped text kept) :
    kept = dropControlSequences 0 text := by
  induction dropped with
  | nil => rfl
  | keep plain left ih => rw [dropControlSequences_plain plain, ih]
  | skip isSequence left ih => rw [dropControlSequences_sequence isSequence, ih]

/-- No control sequence reaches over the start of marked characters. -/
theorem dropControlSequences_append (marked : Marked more) (text : List Char) :
    dropControlSequences 0 (text ++ more) =
      dropControlSequences 0 text ++ dropControlSequences 0 more := by
  have left := dropped text
  revert left
  generalize kept_eq : dropControlSequences 0 text = kept
  intro left
  clear kept_eq
  induction left with
  | nil => rfl
  | @keep char rest kept plain left ih =>
      have stillPlain : controlSequenceLength (char :: (rest ++ more)) = 0 := by
        cases found : controlSequenceLength (char :: (rest ++ more)) with
        | zero => rfl
        | succ length =>
            rcases isControlSequence_of_length found with ⟨chars, behind, split, isSequence, -⟩
            rw [← List.cons_append] at split
            rcases List.append_eq_append_iff.mp split with
              ⟨beyond, rfl, beyond_eq⟩ | ⟨beyond, inside, -⟩
            · cases beyond with
              | nil =>
                  have whole := controlSequenceLength_append isSequence []
                  simp [plain] at whole
              | cons mark others =>
                  have isMark := marked mark (by rw [beyond_eq]; exact rfl)
                  rw [isSequence.not_isMark mark (by simp)] at isMark
                  cases isMark
            · rw [inside, controlSequenceLength_append isSequence, List.length_eq_zero_iff] at plain
              exact absurd plain isSequence.ne_nil
      rw [List.cons_append, dropControlSequences_plain stillPlain, ih, List.cons_append]
  | skip isSequence left ih =>
      rw [List.append_assoc, dropControlSequences_sequence isSequence, ih]

theorem dropControlSequences_mark {mark : Char} (isMark : isMark mark = true) (rest : List Char) :
    dropControlSequences 0 (mark :: rest) = mark :: dropControlSequences 0 rest := by
  refine dropControlSequences_plain ?_
  cases found : controlSequenceLength (mark :: rest) with
  | zero => rfl
  | succ length =>
      rcases isControlSequence_of_length found with ⟨chars, behind, split, isSequence, -⟩
      cases chars with
      | nil => exact absurd rfl isSequence.ne_nil
      | cons first others =>
          cases split
          rw [isSequence.not_isMark mark (by simp)] at isMark
          cases isMark

/-- Nothing is dropped from characters without an escape. -/
theorem dropControlSequences_of_no_escape (none : '\x1b' ∉ text) (more : List Char) :
    dropControlSequences 0 (text ++ more) = text ++ dropControlSequences 0 more := by
  induction text with
  | nil => rfl
  | cons first rest ih =>
      have plain : controlSequenceLength (first :: (rest ++ more)) = 0 := by
        cases found : controlSequenceLength (first :: (rest ++ more)) with
        | zero => rfl
        | succ length =>
            rcases isControlSequence_of_length found with ⟨chars, behind, split, isSequence, -⟩
            rcases isSequence with ⟨parameters, last, rfl, -⟩
            exact absurd (List.cons.inj split).1.symm (List.ne_of_not_mem_cons none)
      rw [List.cons_append, dropControlSequences_plain plain,
        ih (List.not_mem_of_not_mem_cons none), List.cons_append]

/-- What is left of marked characters begins with their mark. -/
theorem Marked.head?_drop (marked : Marked more) :
    (dropControlSequences 0 more).head? = more.head? := by
  cases more with
  | nil => rfl
  | cons mark rest =>
      rw [dropControlSequences_mark (marked mark rfl)]
      rfl

theorem Marked.drop (marked : Marked more) : Marked (dropControlSequences 0 more) := by
  rw [Marked, marked.head?_drop]
  exact marked

/-- Characters in front of marked ones, if there are any left of them, are marked. -/
theorem marked_of_append_eq {front behind : List Char} (marked : Marked more)
    (same : front ++ behind = more) : Marked front := by
  cases front with
  | nil => exact nofun
  | cons first rest =>
      subst same
      exact fun char isFirst => marked char isFirst

/-- A control sequence with characters behind it is not what is left of these characters with marked
ones behind them: what is left is shorter, and the next mark would stand within the sequence or, if
the sequence is left of other ones, the same would hold of fewer characters. -/
theorem not_sequence_of_left (isSequence : IsControlSequence chars) (behind : List Char)
    (marked : Marked more) (text : List Char) :
    chars ++ text ++ behind ≠ dropControlSequences 0 text ++ dropControlSequences 0 more := by
  induction size : text.length using Nat.strongRecOn generalizing text behind more with
  | ind size ih =>
      intro same
      have shorter := (dropped text).length_le
      have nonempty := List.length_pos_iff.mpr isSequence.ne_nil
      rw [List.append_assoc] at same
      rcases List.append_eq_append_iff.mp same with
        ⟨beyond, left_eq, same⟩ | ⟨beyond, chars_eq, same⟩
      -- What is left begins with the sequence, and `beyond` is the rest of it.
      · rcases List.append_eq_append_iff.mp same with ⟨_, beyond_eq, -⟩ | ⟨next, text_eq, next_eq⟩
        · have lengths := congrArg List.length left_eq
          rw [beyond_eq, List.length_append, List.length_append] at lengths
          omega
        · have lengths := congrArg List.length left_eq
          rw [List.length_append] at lengths
          have nextMarked := marked_of_append_eq marked.drop next_eq.symm
          rw [text_eq, dropControlSequences_append nextMarked] at left_eq
          refine ih beyond.length (by omega) [] nextMarked beyond rfl ?_
          rw [List.append_nil]
          exact left_eq.symm
      -- What is left ends within the sequence, where a mark follows.
      · have noMark : ∀ {part : List Char}, Marked part → (∀ char ∈ part, char ∈ chars) →
            part = [] := by
          intro part partMarked inside
          cases part with
          | nil => rfl
          | cons mark rest =>
              have isMark := partMarked mark rfl
              rw [isSequence.not_isMark mark (inside mark (List.mem_cons_self ..))] at isMark
              cases isMark
        have beyondMarked := marked_of_append_eq marked.drop same.symm
        have none : beyond = [] := noMark beyondMarked fun char member =>
          chars_eq ▸ List.mem_append_right _ member
        subst none
        rw [List.append_nil] at chars_eq
        have textMarked : Marked text := by
          rw [List.nil_append] at same
          exact marked_of_append_eq marked.drop same.symm
        exact isSequence.ne_nil (chars_eq.trans (noMark textMarked.drop fun char member =>
          chars_eq ▸ member))

/-- Where a text is followed by anything, and what is left of it is followed by what is left of
marked characters, these are the same only if nothing is dropped from the text. -/
theorem Dropped.eq_self {kept behind : List Char} (left : Dropped text kept) (marked : Marked more)
    (same : text ++ behind = kept ++ dropControlSequences 0 more) :
    kept = text ∧ behind = dropControlSequences 0 more := by
  induction left with
  | nil => exact ⟨rfl, same⟩
  | keep plain left ih =>
      rcases ih (List.cons.inj same).2 with ⟨rfl, rest⟩
      exact ⟨rfl, rest⟩
  | skip isSequence left ih =>
      rw [left.eq] at same
      exact absurd same (not_sequence_of_left isSequence behind marked _)

end TokenLint.Output
