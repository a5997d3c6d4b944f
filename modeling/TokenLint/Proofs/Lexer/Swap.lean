import TokenLint.Proofs.Lexer.Alone
import TokenLint.Proofs.Lexer.Stable
import Mathlib.Data.List.Find

/-!
# Steps in front of exchanged texts

A piece that ends in front of a text may be followed by another text instead. `Swap` collects what
the shapes of code have to do with the two texts so that the piece still ends at the same place:
none of them begins, goes on or ends otherwise. What is asked of a shape is asked of all that stands
in front of the place where the texts part, from the beginning of the piece on.
-/

namespace TokenLint.Lexer

open Text

variable {text rest other : List Char}

/-! ### Numbers, names and variables -/

theorem nameLength_append_of_stops (stops : Stops isNamePart rest) :
    nameLength (text ++ rest) = nameLength text := by
  cases text with
  | nil =>
      have starts : ∀ char, isNamePart char = false → isNameStart char = false := by
        intro char outside
        exact (Bool.or_eq_false_iff.mp outside).1
      cases rest with
      | nil => rfl
      | cons first rest => simp [nameLength, starts first (stops_cons.mp stops)]
  | cons first text =>
      simp only [List.cons_append, nameLength, runLength_append_of_stops stops]

theorem variableLength_append_of_stops (stops : Stops isNamePart rest) (nonempty : text ≠ []) :
    variableLength (text ++ rest) = variableLength text := by
  cases text with
  | nil => exact absurd rfl nonempty
  | cons first text =>
      by_cases dollar : first = '$'
      · subst dollar
        simp only [List.cons_append, variableLength, nameLength_append_of_stops stops]
      · simp [variableLength, dollar]

theorem integerLength_zero_cons (mark : Char) (tail : List Char) :
    integerLength ('0' :: mark :: tail) =
      if mark.toLower = 'x' ∧ 0 < runLength isHexPart tail then 2 + runLength isHexPart tail
      else if mark.toLower = 'b' ∧ 0 < runLength isBinaryPart tail then
        2 + runLength isBinaryPart tail
      else digitRunLength ('0' :: mark :: tail) := rfl

/-- An integer that ends in front of the rest, ends there without it. -/
theorem integerLength_of_append (within : integerLength (text ++ rest) ≤ text.length) :
    integerLength (text ++ rest) = integerLength text := by
  by_cases zero : text.head? = some '0'
  · rcases List.head?_eq_some_iff.mp zero with ⟨tail, rfl⟩
    rcases tail with _ | ⟨mark, tail⟩
    · rcases rest with _ | ⟨mark, rest⟩
      · rfl
      · simp only [List.cons_append, List.nil_append, integerLength_zero_cons, List.length_cons,
          List.length_nil] at within ⊢
        split at within
        · omega
        split at within
        · omega
        rename_i noHex noBinary
        rw [if_neg noHex, if_neg noBinary]
        have digits : digitRunLength (['0'] ++ mark :: rest) = digitRunLength ['0'] :=
          digitRunLength_of_append within
        exact digits
    · simp only [List.cons_append, integerLength_zero_cons, List.length_cons] at within ⊢
      split at within
      · rename_i isHex
        have same : runLength isHexPart (tail ++ rest) = runLength isHexPart tail :=
          runLength_of_append (by omega)
        rw [if_pos isHex, same, if_pos (same ▸ isHex)]
      rename_i noHex
      have noHexAlone : ¬(mark.toLower = 'x' ∧ 0 < runLength isHexPart tail) := by
        rintro ⟨marked, positive⟩
        have none_left : runLength isHexPart (tail ++ rest) = 0 := by
          by_contra some_left
          exact noHex ⟨marked, Nat.pos_of_ne_zero some_left⟩
        have same : runLength isHexPart (tail ++ rest) = runLength isHexPart tail :=
          runLength_of_append (by omega)
        omega
      rw [if_neg noHex, if_neg noHexAlone]
      split at within
      · rename_i isBinary
        have same : runLength isBinaryPart (tail ++ rest) = runLength isBinaryPart tail :=
          runLength_of_append (by omega)
        rw [if_pos isBinary, same, if_pos (same ▸ isBinary)]
      rename_i noBinary
      have noBinaryAlone : ¬(mark.toLower = 'b' ∧ 0 < runLength isBinaryPart tail) := by
        rintro ⟨marked, positive⟩
        have none_left : runLength isBinaryPart (tail ++ rest) = 0 := by
          by_contra some_left
          exact noBinary ⟨marked, Nat.pos_of_ne_zero some_left⟩
        have same : runLength isBinaryPart (tail ++ rest) = runLength isBinaryPart tail :=
          runLength_of_append (by omega)
        omega
      rw [if_neg noBinary, if_neg noBinaryAlone]
      have digits : digitRunLength ('0' :: mark :: tail ++ rest) =
          digitRunLength ('0' :: mark :: tail) := digitRunLength_of_append within
      exact digits
  · cases text with
    | nil => exact Nat.le_zero.mp within
    | cons first tail =>
        have nonzero : (first :: tail ++ rest).head? ≠ some '0' := zero
        rw [integerLength_of_nonzero nonzero] at within ⊢
        rw [integerLength_of_nonzero zero]
        exact digitRunLength_of_append within

/-- A cast that ends in a text is one whatever follows the text. -/
theorem cast?_append_of_le {name : String} {length : Nat}
    (found : cast? (castNames.map Prod.fst) (text ++ rest) = some (name, length))
    (within : length ≤ text.length) (other : List Char) :
    cast? (castNames.map Prod.fst) (text ++ other) = some (name, length) := by
  have alone := cast?_of_append found within
  rcases exists_cast castNames_proper alone with ⟨leading, word, trailing, after, rfl, parts⟩
  rw [cast?_castText parts] at alone
  rw [List.append_assoc, cast?_castText parts, alone]

/-! ### What a text begins with -/

/-- Whether a text is empty or begins with one of some characters. -/
def BeginsWith (chars text : List Char) : Prop := ∀ char ∈ text.head?, char ∈ chars

namespace BeginsWith

variable {chars : List Char} (begins : BeginsWith chars rest)

include begins

theorem stops {inRun : Char → Bool} (outside : ∀ char ∈ chars, inRun char = false) :
    Stops inRun rest := fun char found => outside char (begins char found)

theorem head?_ne {char : Char} (apart : char ∉ chars) : rest.head? ≠ some char :=
  fun found => apart (begins char found)

theorem head?_append_iff {char : Char} (apart : char ∉ chars) :
    (text ++ rest).head? = some char ↔ text.head? = some char := by
  cases text with
  | nil => simpa using begins.head?_ne apart
  | cons first text => rfl

theorem noTag (apart : ∀ char ∈ chars, char ≠ '<' ∧ char ≠ '?' ∧ char ≠ '=' ∧
    char.toLower ≠ 'p' ∧ char.toLower ≠ 'h') : BeginsNoTag rest :=
  fun char found => apart char (begins char found)

theorem isPrefixOf_append {sign : List Char} (apart : ∀ char ∈ sign.tail, char ∉ chars)
    (nonempty : text ≠ []) : sign.isPrefixOf (text ++ rest) = sign.isPrefixOf text :=
  isPrefixOf_append_of_tail (fun char found member => apart char member (begins char found))
    nonempty

theorem operatorLength?_append
    (apart : ∀ entry ∈ operators, ∀ char ∈ entry.1.toList.tail, char ∉ chars)
    (nonempty : text ≠ []) : operatorLength? (text ++ rest) = operatorLength? text := by
  simp only [operatorLength?]
  rw [List.find?_congr fun entry member => begins.isPrefixOf_append (apart entry member) nonempty]

section Breaks

variable (breaks : '\r' ∉ chars ∧ '\n' ∉ chars)

include breaks

theorem lineBreakLength_append : lineBreakLength (text ++ rest) = lineBreakLength text := by
  cases text with
  | nil =>
      cases rest with
      | nil => rfl
      | cons first rest =>
          have noReturn : first ≠ '\r' := fun same => breaks.1 (same ▸ begins first rfl)
          have noBreak : first ≠ '\n' := fun same => breaks.2 (same ▸ begins first rfl)
          simp [noReturn, noBreak, lineBreakLength]
  | cons first text =>
      simp only [List.cons_append, lineBreakLength_cons, begins.head?_append_iff breaks.2]

theorem labelBreakLength_append : labelBreakLength (text ++ rest) = labelBreakLength text := by
  cases text with
  | nil =>
      cases rest with
      | nil => rfl
      | cons first rest =>
          have noReturn : first ≠ '\r' := fun same => breaks.1 (same ▸ begins first rfl)
          have noBreak : first ≠ '\n' := fun same => breaks.2 (same ▸ begins first rfl)
          simp [noReturn, noBreak, labelBreakLength]
  | cons first text =>
      simp only [List.cons_append, labelBreakLength_cons, begins.head?_append_iff breaks.2]

theorem closeTagLength_append (apart : '>' ∉ chars) (nonempty : text ≠ []) :
    closeTagLength (text ++ rest) = closeTagLength text := by
  have closes_eq : ['?', '>'].isPrefixOf (text ++ rest) = ['?', '>'].isPrefixOf text :=
    begins.isPrefixOf_append (by simpa using apart) nonempty
  by_cases closes : ['?', '>'].isPrefixOf text = true
  · rcases List.isPrefixOf_iff_prefix.mp closes with ⟨tail, rfl⟩
    simp only [List.cons_append, List.nil_append, closeTagLength_closesTag,
      begins.labelBreakLength_append breaks]
  · have absent : ¬0 < closeTagLength text := by rwa [closeTagLength_pos_iff]
    have absent' : ¬0 < closeTagLength (text ++ rest) := by rwa [closeTagLength_pos_iff, closes_eq]
    omega

/-- Where something else than blanks stands in a text, its blanks are the same before any rest. -/
theorem whitespaceLength_append_of_solid (solid : ∃ char ∈ text, isSpaceOrTab char = false) :
    whitespaceLength (text ++ rest) = whitespaceLength text := by
  have run_eq : runLength isSpaceOrTab (text ++ rest) = runLength isSpaceOrTab text := by
    have part : (text.takeWhile isSpaceOrTab).length ≠ text.length := by
      rcases solid with ⟨char, member, hard⟩
      intro whole
      have all := List.takeWhile_eq_self_iff.mp
        ((List.takeWhile_prefix isSpaceOrTab).eq_of_length whole)
      exact Bool.false_ne_true (hard.symm.trans (all char member))
    rw [runLength, runLength, List.takeWhile_append, if_neg part]
  have run_le := runLength_le isSpaceOrTab text
  simp only [whitespaceLength, run_eq, List.drop_append_of_le_length run_le,
    begins.lineBreakLength_append breaks]

section Blanks

variable (solid : ∀ char ∈ chars, isSpaceOrTab char = false)

include solid

theorem whitespaceLength_append : whitespaceLength (text ++ rest) = whitespaceLength text := by
  have run_eq : runLength isSpaceOrTab (text ++ rest) = runLength isSpaceOrTab text :=
    runLength_append_of_stops (begins.stops solid)
  have run_le := runLength_le isSpaceOrTab text
  simp only [whitespaceLength, run_eq, List.drop_append_of_le_length run_le,
    begins.lineBreakLength_append breaks]

theorem absorbedLength_append : absorbedLength (text ++ rest) = absorbedLength text := by
  cases text with
  | nil =>
      cases rest with
      | nil => rfl
      | cons first rest =>
          have noReturn : first ≠ '\r' := fun same => breaks.1 (same ▸ begins first rfl)
          have noBreak : first ≠ '\n' := fun same => breaks.2 (same ▸ begins first rfl)
          simp [solid first (begins first rfl), noReturn, noBreak, absorbedLength]
  | cons first text =>
      simp only [List.cons_append, absorbedLength_cons, begins.head?_append_iff breaks.2]

theorem openTagLength_append (noTag : BeginsNoTag rest) :
    openTagLength (text ++ rest) = openTagLength text := by
  by_cases opens : 0 < openTagLength text
  · rcases exists_openTag opens with ⟨tail, rfl⟩ | ⟨first, second, third, tail, rfl, letters⟩
    · rfl
    · simp only [List.cons_append, openTagLength_long _ letters,
        begins.absorbedLength_append breaks solid]
  · have absent := mt noTag.openTagLength_pos_of_append opens
    omega

end Blanks

/-- A line comment that ends in a text has met something else than either rest. -/
theorem lineCommentLength_eq (otherBegins : BeginsWith chars other)
    (apart : '/' ∉ chars ∧ '>' ∉ chars) (goesOn : ∃ first ∈ rest.head?, first ≠ '?')
    (nonempty : text ≠ []) (within : lineCommentLength (text ++ rest) ≤ text.length) :
    lineCommentLength (text ++ rest) = lineCommentLength (text ++ other) := by
  have opens_iff : ∀ {rest : List Char}, BeginsWith chars rest →
      (0 < lineCommentLength (text ++ rest) ↔ 0 < lineCommentLength text) := by
    intro rest begins
    rw [lineCommentLength_pos_iff, lineCommentLength_pos_iff,
      begins.isPrefixOf_append (by simpa using apart.1) nonempty,
      begins.isPrefixOf_append (by simp) nonempty]
  by_cases opens : 0 < lineCommentLength text
  · have opensRest := (opens_iff begins).mpr opens
    rw [lineCommentLength_of_pos opensRest,
      lineCommentReach_append (begins.head?_ne apart.2)] at within ⊢
    rw [lineCommentLength_of_pos ((opens_iff otherBegins).mpr opens),
      lineCommentReach_append (otherBegins.head?_ne apart.2)]
    have reaches : 0 < lineCommentReach rest := by
      rcases goesOn with ⟨first, head_eq, noMark⟩
      have member := begins first head_eq
      rcases List.head?_eq_some_iff.mp head_eq with ⟨tail, rfl⟩
      have noReturn : first ≠ '\r' := fun same => breaks.1 (same ▸ member)
      have noBreak : first ≠ '\n' := fun same => breaks.2 (same ▸ member)
      rw [lineCommentReach_cons, if_neg (by simp [noReturn, noBreak, noMark])]
      exact Nat.add_pos_left Nat.one_pos _
    have ended : lineCommentReach text ≠ text.length := by
      intro whole
      rw [if_pos whole] at within
      omega
    rw [if_neg ended, if_neg ended]
  · have absent := mt (opens_iff begins).mp opens
    have absentToo := mt (opens_iff otherBegins).mp opens
    omega

end Breaks

/-- An integer is not continued by what is part of no number. -/
theorem integerLength_append (outside : ∀ char ∈ chars, isFigure char = false ∧
      isHexPart char = false ∧ isBinaryPart char = false)
    (unmarked : ∀ char ∈ chars, char.toLower ≠ 'x' ∧ char.toLower ≠ 'b') :
    integerLength (text ++ rest) = integerLength text := by
  have digits : ∀ text, digitRunLength (text ++ rest) = digitRunLength text := fun text =>
    digitRunLength_append_of_stops (begins.stops fun char member => (outside char member).1)
  have hex : ∀ text, runLength isHexPart (text ++ rest) = runLength isHexPart text := fun text =>
    runLength_append_of_stops (begins.stops fun char member => (outside char member).2.1)
  have binary : ∀ text, runLength isBinaryPart (text ++ rest) = runLength isBinaryPart text :=
    fun text => runLength_append_of_stops
      (begins.stops fun char member => (outside char member).2.2)
  by_cases zero : text.head? = some '0'
  · rcases List.head?_eq_some_iff.mp zero with ⟨tail, rfl⟩
    rcases tail with _ | ⟨mark, tail⟩
    · cases rest with
      | nil => rfl
      | cons first after =>
          exact (integerLength_of_unmarked after (unmarked first (begins first rfl))).trans
            (digits ['0'])
    · have whole := digits ('0' :: mark :: tail)
      simp only [List.cons_append] at whole ⊢
      simp only [integerLength_zero_cons, hex, binary, whole]
  · have apart : '0' ∉ chars := fun member => absurd (outside '0' member).1 (by decide)
    have nonzero : (text ++ rest).head? ≠ some '0' := by
      rwa [ne_eq, begins.head?_append_iff apart]
    rw [integerLength_of_nonzero zero, integerLength_of_nonzero nonzero, digits]

end BeginsWith

/-! ### Casts and first lines of heredocs -/

/-- Whether a character may stand in a cast or in the first line of a heredoc, behind the sign with
which it begins. -/
def isStartPart (char : Char) : Bool :=
  isSpaceOrTab char || isNamePart char || [')', '<', '"', '\'', '\r', '\n'].contains char

/-- What casts and first lines of heredocs have in common. -/
structure IsStart (start : List Char) : Prop where
  head : ∃ char ∈ ['(', '<'], start.head? = some char
  parts : ∀ char ∈ start.tail, isStartPart char = true
  last : ∃ char ∈ [')', '\n'], start.getLast? = some char

theorem isStart_castText {leading word trailing : List Char}
    (parts : IsCast (castNames.map Prod.fst) leading word trailing) :
    IsStart (castText leading word trailing) where
  head := ⟨'(', by decide, rfl⟩
  parts := by
    have letters : ∀ char ∈ word, isNamePart char = true := by
      rcases List.any_eq_true.mp parts.named with ⟨cast, member, spells⟩
      have lower : ∀ name ∈ castNames.map Prod.fst, ∀ letter ∈ name.toList,
          letter.isLower = true := by decide
      exact fun char => isNamePart_of_spellsWord (lower cast member) spells
    intro char member
    simp only [castText, List.tail_cons, List.mem_cons, List.mem_append, List.not_mem_nil,
      or_false] at member
    rcases member with space | part | space | rfl
    · simp [isStartPart, parts.leading_blank char space]
    · simp [isStartPart, letters char part]
    · simp [isStartPart, parts.trailing_blank char space]
    · decide
  last := ⟨')', by decide, by simp [castText, List.getLast?_cons, List.getLast?_append]⟩

theorem isStart_heredocText {blanks quote label lineBreak : List Char}
    (parts : IsHeredocStart blanks quote label lineBreak) :
    IsStart (heredocText blanks quote label lineBreak) where
  head := ⟨'<', by decide, rfl⟩
  parts := by
    have quotes : ∀ char ∈ quote, isStartPart char = true := by
      rcases parts.quote_eq with rfl | rfl | rfl <;> decide
    have breaks : ∀ char ∈ lineBreak, isStartPart char = true := by
      rcases parts.lineBreak_eq with rfl | rfl <;> decide
    intro char member
    simp only [heredocText, List.tail_cons, List.mem_cons, List.mem_append] at member
    rcases member with rfl | rfl | space | mark | part | mark | ends
    · decide
    · decide
    · simp [isStartPart, parts.blanks_blank char space]
    · exact quotes char mark
    · simp [isStartPart, parts.label_name.isNamePart part]
    · exact quotes char mark
    · exact breaks char ends
  last := by
    refine ⟨'\n', by decide, ?_⟩
    rcases parts.lineBreak_eq with rfl | rfl <;>
      simp [heredocText, List.getLast?_cons, List.getLast?_append]

theorem BeginsWith.prefix_of_start {chars start : List Char} (begins : BeginsWith chars rest)
    (outside : ∀ char ∈ chars, isStartPart char = false) (nonempty : text ≠ [])
    (isStart : IsStart start) (here : start <+: text ++ rest) : start <+: text := by
  have apart : ∀ char ∈ start.tail, char ∉ chars := by
    intro char member among
    exact Bool.false_ne_true ((outside char among).symm.trans (isStart.parts char member))
  rw [← List.isPrefixOf_iff_prefix] at here ⊢
  rwa [begins.isPrefixOf_append apart nonempty] at here

section Starts

variable (starts : ∀ start, IsStart start → start <+: text ++ other → start <+: text)

include starts

/-- A cast in front of another rest stands in the text already. -/
theorem cast?_ne_none_of_starts (cast : cast? (castNames.map Prod.fst) (text ++ other) ≠ none)
    (rest : List Char) : cast? (castNames.map Prod.fst) (text ++ rest) ≠ none := by
  rcases Option.ne_none_iff_exists'.mp cast with ⟨⟨name, length⟩, cast⟩
  rcases exists_cast castNames_proper cast with ⟨leading, word, trailing, after, text_eq, parts⟩
  rcases starts _ (isStart_castText parts) (text_eq ▸ List.prefix_append _ _) with ⟨tail, rfl⟩
  rw [List.append_assoc, cast?_castText parts]
  exact Option.some_ne_none _

theorem heredocStart?_ne_none_of_starts (found : heredocStart? (text ++ other) ≠ none)
    (rest : List Char) : heredocStart? (text ++ rest) ≠ none := by
  rcases Option.ne_none_iff_exists'.mp found with ⟨⟨label, length⟩, found⟩
  rcases exists_heredocStart found with ⟨blanks, quote, lineBreak, after, text_eq, parts⟩
  rcases starts _ (isStart_heredocText parts) (text_eq ▸ List.prefix_append _ _) with ⟨tail, rfl⟩
  rw [List.append_assoc, heredocStart?_heredocText parts]
  exact Option.some_ne_none _

end Starts

/-! ### Exchanged texts -/

/-- Whether the shapes that begin with a text and end in it are the same in front of two texts. -/
structure Swap (text rest other : List Char) : Prop where
  nonempty : text ≠ []
  heredocSign : ['<', '<', '<'].isPrefixOf (text ++ rest) =
    ['<', '<', '<'].isPrefixOf (text ++ other)
  commentSign : ['/', '*'].isPrefixOf (text ++ rest) = ['/', '*'].isPrefixOf (text ++ other)
  closeTag : closeTagLength (text ++ rest) = closeTagLength (text ++ other)
  whitespace : whitespaceLength (text ++ rest) = whitespaceLength (text ++ other)
  lineComment : lineCommentLength (text ++ rest) ≤ text.length →
    lineCommentLength (text ++ rest) = lineCommentLength (text ++ other)
  name : Stops isNamePart other
  starts : ∀ start, IsStart start → start <+: text ++ other → start <+: text
  float : floatLength (text ++ rest) ≤ text.length →
    floatLength (text ++ rest) = floatLength (text ++ other)
  integer : integerLength (text ++ other) = integerLength text
  operator : ∀ length ≤ text.length, operatorLength? (text ++ rest) = some length →
    operatorLength? (text ++ other) = some length

/-- A closing label that ends in front of what is no word, or within the text, ends in front of
another rest as well if no word stands there. -/
theorem labelEnds_append_of_stops (ends : text ≠ [] ∨ Stops isWord rest)
    (otherStops : Stops isWord other) {label : List Char} :
    LabelEnds label (text ++ rest) → LabelEnds label (text ++ other) := by
  have noWord : ∀ {rest : List Char}, Stops isWord rest → rest.head?.any isWord = false := by
    intro rest stops
    cases rest with
    | nil => rfl
    | cons first rest => exact stops first rfl
  cases text with
  | cons first text => exact id
  | nil =>
      rcases ends with nonempty | stops
      · exact absurd rfl nonempty
      intro closed
      simpa only [LabelEnds, List.nil_append, isWordBoundary, noWord stops, noWord otherStops]
        using closed

namespace Swap

/-- A word that ends in the text stands in front of the other rest as well. -/
theorem wordLength?_append (swap : Swap text rest other) {length : Nat}
    (found : wordLength? (text ++ rest) = some length) (within : length ≤ text.length) :
    wordLength? (text ++ other) = some length := by
  by_cases quoted : ∃ quote ∈ ['\'', '"', '\x60'], ∃ body, text = quote :: body
  · rcases quoted with ⟨quote, member, body, rfl⟩
    rw [List.cons_append, wordLength?_quoted member] at found ⊢
    split at found
    · rename_i opens
      have plain : quote ≠ '\\' := by
        rintro rfl
        simp at member
      cases found
      have same : stringLength quote (quote :: body ++ other) =
          stringLength quote (quote :: body ++ rest) :=
        stringLength_append_of_le plain other opens within
      rw [List.cons_append, List.cons_append] at same
      rw [same, if_pos opens]
    · cases found
  · have unquoted : ∀ quote ∈ ['\'', '"', '\x60'], ∀ tail,
        stringLength quote (text ++ tail) = 0 := by
      intro quote member tail
      cases text with
      | nil => exact absurd rfl swap.nonempty
      | cons first body =>
          have differs : first ≠ quote := fun same => quoted ⟨quote, member, body, by rw [same]⟩
          simp [stringLength, differs]
    simp only [wordLength?, unquoted '\'' (by simp), unquoted '"' (by simp),
      unquoted '\x60' (by simp), Nat.lt_irrefl, if_false] at found ⊢
    refine choose_of_le (fun short => ?_) (fun found => ?_) found within
    · rw [variableLength_of_append short, variableLength_append_of_stops swap.name swap.nonempty]
    cases cast : cast? (castNames.map Prod.fst) (text ++ rest) with
    | some entry =>
        rcases entry with ⟨name, castLength⟩
        rw [cast] at found
        simp only [Option.map_eq_some_iff] at found
        rcases found with ⟨kind, named, rfl⟩
        rw [cast?_append_of_le cast within other]
        simp [named]
    | none =>
        have absent : cast? (castNames.map Prod.fst) (text ++ other) = none := by
          by_contra present
          exact cast?_ne_none_of_starts swap.starts present rest cast
        rw [cast] at found
        rw [absent]
        refine choose_of_le swap.float (fun found => ?_) found within
        refine choose_of_le (fun short => ?_) (fun found => ?_) found within
        · rw [integerLength_of_append short, swap.integer]
        refine choose_of_le (fun short => ?_) (fun found => ?_) found within
        · rw [nameLength_of_append short, nameLength_append_of_stops swap.name]
        exact swap.operator length within found

variable {piece : List Char}

/-- A piece of code that is cut off in front of one rest is cut off in front of the other, if the
label of a heredoc ends there as well. -/
theorem codeLength?_append (swap : Swap (piece ++ text) rest other)
    (labels : heredocStart? (piece ++ (text ++ rest)) ≠ none → ∀ label,
      LabelEnds label (text ++ rest) → LabelEnds label (text ++ other))
    (found : codeLength? (piece ++ (text ++ rest)) = some piece.length) :
    codeLength? (piece ++ (text ++ other)) = some piece.length := by
  have within : piece.length ≤ (piece ++ text).length := by simp
  simp only [codeLength?, ← List.append_assoc, ← swap.heredocSign, ← swap.commentSign] at found ⊢
  split at found
  · rename_i opens
    rw [if_pos opens]
    rw [List.append_assoc] at found ⊢
    refine heredocLength?_append (fun absent => ?_) labels found
    rw [← List.append_assoc] at absent ⊢
    by_contra present
    exact heredocStart?_ne_none_of_starts swap.starts present rest absent
  rename_i noHeredoc
  rw [if_neg noHeredoc]
  split at found
  · rename_i opens
    rw [if_pos opens]
    rw [List.append_assoc] at found ⊢
    exact Similar.blockCommentLength?_append found
  rename_i noBlock
  rw [if_neg noBlock]
  refine choose_of_le (fun _ => swap.whitespace) (fun found => ?_) found within
  exact choose_of_le swap.lineComment (fun found => swap.wordLength?_append found within) found
    within

theorem stride?_append {next : Mode} (swap : Swap (piece ++ text) rest other)
    (labels : heredocStart? (piece ++ (text ++ rest)) ≠ none → ∀ label,
      LabelEnds label (text ++ rest) → LabelEnds label (text ++ other))
    (cut : stride? .code (piece ++ (text ++ rest)) = some (piece.length, next)) :
    stride? .code (piece ++ (text ++ other)) = some (piece.length, next) := by
  have close_eq := swap.closeTag
  rw [List.append_assoc, List.append_assoc] at close_eq
  simp only [stride?, ← close_eq] at cut ⊢
  split at cut
  · rename_i closes
    rw [if_pos closes]
    exact cut
  · rename_i goesOn
    rw [if_neg goesOn]
    simp only [Option.map_eq_some_iff, Prod.mk.injEq] at cut ⊢
    rcases cut with ⟨length, found, rfl, rfl⟩
    exact ⟨_, swap.codeLength?_append labels found, rfl, rfl⟩

end Swap

/-! ### Markup -/

section Markup

variable (noTag : BeginsNoTag rest) (otherNoTag : BeginsNoTag other)

include noTag otherNoTag

theorem openTagLength_pos_iff_of_noTag :
    0 < openTagLength (text ++ rest) ↔ 0 < openTagLength (text ++ other) :=
  ⟨fun opens => openTagLength_append_pos other (noTag.openTagLength_pos_of_append opens),
    fun opens => openTagLength_append_pos rest (otherNoTag.openTagLength_pos_of_append opens)⟩

/-- Markup that ends in the text ends in front of an open tag, and so in front of both rests. -/
theorem markupLength_eq_of_noTag (nonempty : rest ≠ [])
    (within : markupLength (text ++ rest) ≤ text.length) :
    markupLength (text ++ rest) = markupLength (text ++ other) := by
  induction text with
  | nil =>
      rcases List.exists_cons_of_ne_nil nonempty with ⟨first, tail, rfl⟩
      have closed : ¬0 < openTagLength ([] ++ first :: tail) :=
        mt noTag.openTagLength_pos_of_append (Nat.lt_irrefl 0)
      rw [List.nil_append] at closed within
      rw [markupLength, if_neg closed, List.length_nil] at within
      omega
  | cons char text ih =>
      simp only [List.cons_append, markupLength, List.length_cons] at within ⊢
      rw [← List.cons_append] at within ⊢
      have same : 0 < openTagLength (char :: text ++ rest) ↔
          0 < openTagLength (char :: text ++ other) :=
        openTagLength_pos_iff_of_noTag noTag otherNoTag
      rw [← List.cons_append]
      simp only [← same]
      split
      · rfl
      · rename_i absent
        rw [if_neg absent] at within
        rw [ih (by omega)]

/-- A piece of markup that is cut off in front of one rest is cut off in front of the other, if a
tag at its beginning absorbs as much. -/
theorem stride?_markup_append {piece : List Char} {next : Mode} (nonempty : rest ≠ [])
    (tags : openTagLength (piece ++ (text ++ rest)) = openTagLength (piece ++ (text ++ other)))
    (cut : stride? .markup (piece ++ (text ++ rest)) = some (piece.length, next)) :
    stride? .markup (piece ++ (text ++ other)) = some (piece.length, next) := by
  simp only [stride?, ← tags] at cut ⊢
  split at cut
  · rename_i opens
    rw [if_pos opens]
    exact cut
  · rename_i goesOn
    rw [if_neg goesOn]
    split at cut
    · rename_i positive
      have length_eq := (Prod.mk.inj (Option.some.inj cut)).1
      rw [← List.append_assoc] at length_eq cut positive
      have within : markupLength (piece ++ text ++ rest) ≤ (piece ++ text).length := by
        rw [length_eq]
        simp
      have same := markupLength_eq_of_noTag noTag otherNoTag nonempty within
      rw [← List.append_assoc, ← same, if_pos positive]
      exact cut
    · cases cut

end Markup

end TokenLint.Lexer
