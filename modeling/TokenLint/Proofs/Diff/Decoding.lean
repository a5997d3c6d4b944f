import TokenLint.Proofs.Diff.Patch
import TokenLint.Proofs.Output.ControlSequences

/-!
# Hunks are told by their text

The text of hunks can be read in one way only. The range in its header tells where a hunk starts and
how many lines it shows, and where the lines of both sequences are known, the mark of a shown line
tells which one it is. This holds also of what is printed of a text: where the printed text can be
read as hunks, these are the hunks of the text, and nothing is dropped from them.
-/

namespace TokenLint.Diff

open Output

/-! ### Ranges -/

theorem toDigits_injective {first second : Nat}
    (same : Nat.toDigits 10 first = Nat.toDigits 10 second) : first = second := by
  rw [← @Nat.ofDigitChars_ten_toDigits first, same, Nat.ofDigitChars_ten_toDigits]

theorem comma_not_mem_toDigits (number : Nat) : ',' ∉ Nat.toDigits 10 number := by
  intro member
  exact absurd (Nat.isDigit_of_mem_toDigits (by decide) (by decide) member) (by decide)

/-- Where characters are cut at the first of a kind, both parts are told. -/
theorem append_cons_inj {α : Type} {mark : α} {first second rest others : List α}
    (notFirst : mark ∉ first) (notSecond : mark ∉ second)
    (same : first ++ mark :: rest = second ++ mark :: others) :
    first = second ∧ rest = others := by
  induction first generalizing second with
  | nil =>
      cases second with
      | nil => exact ⟨rfl, (List.cons.inj same).2⟩
      | cons head tail => exact absurd (List.cons.inj same).1 (List.ne_of_not_mem_cons notSecond)
  | cons head tail ih =>
      cases second with
      | nil => exact absurd (List.cons.inj same).1.symm (List.ne_of_not_mem_cons notFirst)
      | cons other more =>
          rcases List.cons.inj same with ⟨rfl, behind⟩
          rcases ih (List.not_mem_of_not_mem_cons notFirst)
            (List.not_mem_of_not_mem_cons notSecond) behind with ⟨rfl, rest⟩
          exact ⟨rfl, rest⟩

/-- The number that names a range, and its length unless that is one. -/
theorem toList_rangeText (start length : Nat) :
    (rangeText start (start + length)).toList =
      Nat.toDigits 10 (if length = 0 then start else start + 1) ++
        if length = 1 then [] else ',' :: Nat.toDigits 10 length := by
  rw [rangeText, Nat.add_sub_cancel_left]
  match length with
  | 0 => simp
  | 1 => simp
  | length + 2 => simp

theorem rangeText_injective {start length other otherLength : Nat}
    (same : rangeText start (start + length) = rangeText other (other + otherLength)) :
    start = other ∧ length = otherLength := by
  rw [← String.toList_inj, toList_rangeText, toList_rangeText] at same
  by_cases single : length = 1 <;> by_cases otherSingle : otherLength = 1
  · subst single otherSingle
    simp only [if_true, Nat.one_ne_zero, if_false, List.append_nil] at same
    exact ⟨Nat.succ.inj (toDigits_injective same), rfl⟩
  · rw [if_pos single, if_neg otherSingle, List.append_nil] at same
    exact absurd (same ▸ List.mem_append_right _ (List.mem_cons_self ..))
      (comma_not_mem_toDigits _)
  · rw [if_neg single, if_pos otherSingle, List.append_nil] at same
    exact absurd (same ▸ List.mem_append_right _ (List.mem_cons_self ..))
      (comma_not_mem_toDigits _)
  · rw [if_neg single, if_neg otherSingle] at same
    rcases append_cons_inj (comma_not_mem_toDigits _) (comma_not_mem_toDigits _) same with
      ⟨number, lengths⟩
    obtain rfl := toDigits_injective lengths
    have number := toDigits_injective number
    split at number
    · exact ⟨number, rfl⟩
    · exact ⟨Nat.succ.inj number, rfl⟩

theorem isDigit_or_comma_of_mem_rangeText {start length : Nat} :
    ∀ char ∈ (rangeText start (start + length)).toList, char.isDigit = true ∨ char = ',' := by
  intro char member
  rw [toList_rangeText, List.mem_append] at member
  rcases member with member | member
  · exact .inl (Nat.isDigit_of_mem_toDigits (by decide) (by decide) member)
  · split at member
    · cases member
    · rcases List.mem_cons.mp member with rfl | member
      · exact .inr rfl
      · exact .inl (Nat.isDigit_of_mem_toDigits (by decide) (by decide) member)

theorem not_mem_rangeText {start length : Nat} {char : Char} (notDigit : char.isDigit = false)
    (notComma : char ≠ ',') : char ∉ (rangeText start (start + length)).toList := by
  intro member
  rcases isDigit_or_comma_of_mem_rangeText char member with isDigit | rfl
  · rw [notDigit] at isDigit
    cases isDigit
  · exact notComma rfl

namespace Hunk

variable {hunk first second : Hunk} {rest others : List Char}

theorem toList_header (hunk : Hunk) :
    hunk.header.toList = "@@ -".toList ++
      ((rangeText hunk.oldStart hunk.oldStop).toList ++ ' ' :: ('+' ::
        ((rangeText hunk.newStart hunk.newStop).toList ++ ' ' :: "@@\n".toList))) := by
  simp [header, String.toList_append]

/-- The header of a hunk tells where it starts and how many lines of both sequences it shows. -/
theorem header_append_inj
    (same : first.header.toList ++ rest = second.header.toList ++ others) :
    first.oldStart = second.oldStart ∧ first.oldStop = second.oldStop ∧
      first.newStart = second.newStart ∧ first.newStop = second.newStop ∧ rest = others := by
  have noBlank : ∀ {start length : Nat}, ' ' ∉ (rangeText start (start + length)).toList :=
    not_mem_rangeText (by decide) (by decide)
  rw [toList_header, toList_header] at same
  simp only [List.append_assoc, List.cons_append, List.append_cancel_left_eq] at same
  rcases append_cons_inj noBlank noBlank same with ⟨oldSame, same⟩
  rcases append_cons_inj noBlank noBlank (List.cons.inj same).2 with ⟨newSame, same⟩
  rcases rangeText_injective (String.toList_inj.mp oldSame) with ⟨oldStart, oldLength⟩
  rcases rangeText_injective (String.toList_inj.mp newSame) with ⟨newStart, newLength⟩
  refine ⟨oldStart, ?_, newStart, ?_, List.append_cancel_left same⟩
  · rw [oldStop, oldStop, oldStart, oldLength]
  · rw [newStop, newStop, newStart, newLength]

/-- The header of a hunk is a line. -/
theorem exists_header (hunk : Hunk) :
    ∃ front, hunk.header.toList = front ++ ['\n'] ∧ '\n' ∉ front := by
  have noFeed : ∀ {start length : Nat}, '\n' ∉ (rangeText start (start + length)).toList :=
    not_mem_rangeText (by decide) (by decide)
  refine ⟨"@@ -".toList ++ ((rangeText hunk.oldStart hunk.oldStop).toList ++ ' ' :: ('+' ::
    ((rangeText hunk.newStart hunk.newStop).toList ++ " @@".toList))), by simp [toList_header], ?_⟩
  simp only [List.mem_append, List.mem_cons, not_or]
  exact ⟨by decide, noFeed, by decide, by decide, noFeed, by decide⟩

theorem no_escape_header (hunk : Hunk) : '\x1b' ∉ hunk.header.toList := by
  have noEscape : ∀ {start length : Nat}, '\x1b' ∉ (rangeText start (start + length)).toList :=
    not_mem_rangeText (by decide) (by decide)
  rw [toList_header]
  simp only [List.mem_append, List.mem_cons, not_or]
  exact ⟨by decide, noEscape, by decide, by decide, noEscape, by decide, by decide⟩

end Hunk

/-! ### Lines -/

namespace MarkedLine

/-- The mark of a line. -/
def mark : MarkedLine → Char
  | kept _ => ' '
  | removed _ => '-'
  | added _ => '+'

theorem isMark_mark (line : MarkedLine) : isMark line.mark = true := by
  cases line <;> rfl

theorem mark_ne_lineFeed (line : MarkedLine) : line.mark ≠ '\n' := by
  cases line <;> exact fun same => absurd same (by simp [mark])

theorem exists_toList_text (line : MarkedLine) :
    ∃ chars, line.text.toList = line.mark :: chars := by
  cases line <;> exact ⟨_, by simp [text, mark, String.toList_append]; rfl⟩

/-- The mark of a line tells which of two lines it is where those to come are known. -/
theorem eq_of_mark {first second : MarkedLine} {lines others : List MarkedLine}
    (marks : first.mark = second.mark)
    (olds : (first :: lines).filterMap old? = (second :: others).filterMap old?)
    (news : (first :: lines).filterMap new? = (second :: others).filterMap new?) :
    first = second ∧ lines.filterMap old? = others.filterMap old? ∧
      lines.filterMap new? = others.filterMap new? := by
  cases first with
  | kept line =>
      cases second with
      | kept other =>
          rcases List.cons.inj olds with ⟨rfl, restOlds⟩
          exact ⟨rfl, restOlds, (List.cons.inj news).2⟩
      | _ => simp [mark] at marks
  | removed line =>
      cases second with
      | removed other =>
          rcases List.cons.inj olds with ⟨rfl, restOlds⟩
          exact ⟨rfl, restOlds, news⟩
      | _ => simp [mark] at marks
  | added line =>
      cases second with
      | added other =>
          rcases List.cons.inj news with ⟨rfl, restNews⟩
          exact ⟨rfl, olds, restNews⟩
      | _ => simp [mark] at marks

theorem eq_nil {lines : List MarkedLine} (noOlds : lines.filterMap old? = [])
    (noNews : lines.filterMap new? = []) : lines = [] := by
  cases lines with
  | nil => rfl
  | cons first rest => cases first <;> simp [old?, new?] at noOlds noNews

end MarkedLine

/-- The characters of lines that follow each other. -/
def charsOf (lines : List String) : List Char := lines.flatMap String.toList

theorem charsOf_cons (first : String) (rest : List String) :
    charsOf (first :: rest) = first.toList ++ charsOf rest := List.flatMap_cons

theorem charsOf_append (lines more : List String) :
    charsOf (lines ++ more) = charsOf lines ++ charsOf more := List.flatMap_append

theorem marked_lines (lines : List MarkedLine) {rest : List Char} (marked : Marked rest) :
    Marked (charsOf (lines.map MarkedLine.text) ++ rest) := by
  cases lines with
  | nil => exact marked
  | cons first others =>
      rcases first.exists_toList_text with ⟨chars, text_eq⟩
      rw [List.map_cons, charsOf_cons, text_eq]
      exact fun char same => Option.some.inj same ▸ first.isMark_mark

/-- Where what is printed of marked lines can be read as marked lines of the same sequences, these
are the same lines, and nothing is dropped from them. -/
theorem lines_of_printed {lines others : List MarkedLine} {rest behind : List Char}
    (marked : Marked rest)
    (olds : lines.filterMap MarkedLine.old? = others.filterMap MarkedLine.old?)
    (news : lines.filterMap MarkedLine.new? = others.filterMap MarkedLine.new?)
    (printed : charsOf (others.map MarkedLine.text) ++ behind =
      dropControlSequences 0 (charsOf (lines.map MarkedLine.text) ++ rest)) :
    lines = others ∧ behind = dropControlSequences 0 rest := by
  induction lines generalizing others with
  | nil =>
      obtain rfl := MarkedLine.eq_nil olds.symm news.symm
      exact ⟨rfl, printed⟩
  | cons first lines ih =>
      cases others with
      | nil => cases MarkedLine.eq_nil olds news
      | cons second others =>
          rcases first.exists_toList_text with ⟨firstChars, firstText⟩
          rcases second.exists_toList_text with ⟨secondChars, secondText⟩
          have linesMarked := marked_lines lines marked
          have marks : first.mark = second.mark := by
            rw [List.map_cons, List.map_cons, charsOf_cons, charsOf_cons, firstText, secondText,
              List.append_assoc, List.append_assoc, List.cons_append, List.cons_append,
              dropControlSequences_mark first.isMark_mark] at printed
            exact (List.cons.inj printed).1.symm
          rcases MarkedLine.eq_of_mark marks olds news with ⟨rfl, restOlds, restNews⟩
          rw [List.map_cons, List.map_cons, charsOf_cons, charsOf_cons, List.append_assoc,
            List.append_assoc, dropControlSequences_append linesMarked] at printed
          rcases (dropped _).eq_self linesMarked printed with ⟨-, printed⟩
          rcases ih restOlds restNews printed with ⟨rfl, rest⟩
          exact ⟨rfl, rest⟩

/-! ### Hunks -/

/-- Whether characters begin no hunk but the names of a file, if there are any. -/
def NoHunk (chars : List Char) : Prop := ∀ char ∈ chars.head?, char = '-'

theorem NoHunk.marked {chars : List Char} (noHunk : NoHunk chars) : Marked chars := by
  intro char isFirst
  rw [noHunk char isFirst]
  rfl

theorem NoHunk.head?_ne {chars : List Char} (noHunk : NoHunk chars) : chars.head? ≠ some '@' :=
  fun isFirst => absurd (noHunk '@' isFirst) (by decide)

theorem head?_hunks (first : Hunk) (others : List Hunk) (rest : List Char) :
    (charsOf ((first :: others).flatMap Hunk.written) ++ rest).head? = some '@' := by
  rw [List.flatMap_cons, Hunk.written, List.cons_append, charsOf_cons, Hunk.toList_header]
  rfl

theorem marked_hunks (hunks : List Hunk) {rest : List Char} (noHunk : NoHunk rest) :
    Marked (charsOf (hunks.flatMap Hunk.written) ++ rest) := by
  cases hunks with
  | nil => exact noHunk.marked
  | cons first others =>
      rw [Marked, head?_hunks]
      rintro char same
      cases same
      rfl

theorem charsOf_hunks (first : Hunk) (others : List Hunk) (rest : List Char) :
    charsOf ((first :: others).flatMap Hunk.written) ++ rest =
      first.header.toList ++ (charsOf (first.lines.map MarkedLine.text) ++
        (charsOf (others.flatMap Hunk.written) ++ rest)) := by
  rw [List.flatMap_cons, Hunk.written, List.cons_append, charsOf_cons, charsOf_append,
    List.append_assoc, List.append_assoc]

/-- Where what is printed of hunks can be read as hunks of the same sequences, these are the same
hunks, and nothing is dropped from them. -/
theorem hunks_of_printed {hunks others : List Hunk} {rest behind : List Char}
    {old new : List String} (noHunk : NoHunk rest) (noneBehind : NoHunk behind)
    (shows : ∀ hunk ∈ hunks, hunk.Shows old new)
    (othersShow : ∀ hunk ∈ others, hunk.Shows old new)
    (printed : charsOf (others.flatMap Hunk.written) ++ behind =
      dropControlSequences 0 (charsOf (hunks.flatMap Hunk.written) ++ rest)) :
    hunks = others ∧ behind = dropControlSequences 0 rest := by
  have heads := congrArg List.head? printed
  rw [(marked_hunks hunks noHunk).head?_drop] at heads
  induction hunks generalizing others with
  | nil =>
      cases others with
      | nil => exact ⟨rfl, printed⟩
      | cons second others =>
          rw [head?_hunks] at heads
          exact absurd heads.symm noHunk.head?_ne
  | cons first hunks ih =>
      cases others with
      | nil =>
          rw [head?_hunks] at heads
          exact absurd heads noneBehind.head?_ne
      | cons second others =>
          rcases List.forall_mem_cons.mp shows with ⟨firstShows, shows⟩
          rcases List.forall_mem_cons.mp othersShow with ⟨secondShows, othersShow⟩
          have hunksMarked := marked_hunks hunks noHunk
          rw [charsOf_hunks, charsOf_hunks,
            dropControlSequences_of_no_escape first.no_escape_header] at printed
          rcases Hunk.header_append_inj printed with
            ⟨oldStart, oldStop, newStart, newStop, printed⟩
          have olds : first.oldLines = second.oldLines := by
            rw [firstShows.old, secondShows.old, oldStart, oldStop]
          have news : first.newLines = second.newLines := by
            rw [firstShows.new, secondShows.new, newStart, newStop]
          rcases lines_of_printed hunksMarked olds news printed with ⟨lines, printed⟩
          have heads := congrArg List.head? printed
          rw [hunksMarked.head?_drop] at heads
          rcases ih shows othersShow printed heads with ⟨rfl, rest⟩
          rcases first with ⟨firstOld, firstNew, firstLines⟩
          rcases second with ⟨secondOld, secondNew, secondLines⟩
          cases oldStart
          cases newStart
          cases lines
          exact ⟨rfl, rest⟩

end TokenLint.Diff
