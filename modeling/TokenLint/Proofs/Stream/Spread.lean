import TokenLint.Proofs.Lexer.Edited
import TokenLint.Proofs.Lexer.Points
import TokenLint.Proofs.Stream.Pieces

/-!
# Spaces around concatenation

`spread` puts the spaces that are missing around concatenation operators between the pieces of a
source: as pieces of their own, or, behind an open tag without a blank, as a part of the tag. A scan
reads the new pieces as it read the old ones. One space may still be missing behind such a tag, and
none is missing once the pieces are spread again.
-/

namespace TokenLint.Lexer

open Text

instance : DecidablePred IsBareTag := fun text =>
  inferInstanceAs (Decidable (openTagLength text = 5 ∧ text.length = 5))

/-- The number of spaces that are missing between two pieces. -/
def gap (piece next : Piece) : Nat :=
  (if piece.kind = .concat ∧ next.kind ≠ .whitespace then 1 else 0) +
    if next.kind = .concat ∧ piece.kind ≠ .whitespace then 1 else 0

/-- A piece of some spaces. -/
def spacer (count : Nat) : Piece := ⟨.whitespace, List.replicate count ' '⟩

/-- What stands for a piece in front of another one. -/
def joint (piece next : Piece) : List Piece :=
  if gap piece next = 0 then [piece]
  else if IsBareTag piece.text then
    [⟨piece.kind, piece.text ++ List.replicate (gap piece next) ' '⟩]
  else [piece, spacer (gap piece next)]

/-- The pieces with all spaces that are missing between them. -/
def spread : List Piece → List Piece
  | [] => []
  | [piece] => [piece]
  | piece :: next :: rest => joint piece next ++ spread (next :: rest)

variable {scanner first second : Scanner} {piece next : Piece} {pieces rest : List Piece}

/-! ### Gaps -/

theorem gap_eq_zero_iff : gap piece next = 0 ↔
    (piece.kind = .concat → next.kind = .whitespace) ∧
      (next.kind = .concat → piece.kind = .whitespace) := by
  simp only [gap, Nat.add_eq_zero_iff]
  constructor
  · rintro ⟨behind, before⟩
    exact ⟨fun concat => by_contra fun solid => by simp [concat, solid] at behind,
      fun concat => by_contra fun solid => by simp [concat, solid] at before⟩
  · rintro ⟨behind, before⟩
    exact ⟨if_neg fun open_left => open_left.2 (behind open_left.1),
      if_neg fun open_left => open_left.2 (before open_left.1)⟩

/-- Where a space is missing, one of the pieces is the operator, and none of them is whitespace. -/
theorem of_gap (missing : gap piece next ≠ 0) :
    (piece.kind = .concat ∨ next.kind = .concat) ∧ piece.kind ≠ .whitespace ∧
      next.kind ≠ .whitespace := by
  rw [ne_eq, gap_eq_zero_iff, not_and_or] at missing
  rcases missing with open_left | open_left
  · obtain ⟨concat, solid⟩ := Classical.not_imp.mp open_left
    exact ⟨.inl concat, by simp [concat], solid⟩
  · obtain ⟨concat, solid⟩ := Classical.not_imp.mp open_left
    exact ⟨.inr concat, solid, by simp [concat]⟩

/-- In front of the operator, one space is missing behind what is no operator itself. -/
theorem gap_eq_one (missing : gap piece next ≠ 0) (plain : piece.kind ≠ .concat) :
    gap piece next = 1 ∧ next.kind = .concat := by
  have about := of_gap missing
  have concat := about.1.resolve_left plain
  exact ⟨by simp [gap, plain, concat, about.2.1], concat⟩

theorem joint_of_gap_eq_zero (none_missing : gap piece next = 0) : joint piece next = [piece] :=
  if_pos none_missing

theorem joint_of_bare (missing : gap piece next ≠ 0) (bare : IsBareTag piece.text) :
    joint piece next = [⟨piece.kind, piece.text ++ List.replicate (gap piece next) ' '⟩] := by
  rw [joint, if_neg missing, if_pos bare]

theorem joint_of_plain (missing : gap piece next ≠ 0) (plain : ¬IsBareTag piece.text) :
    joint piece next = [piece, spacer (gap piece next)] := by
  rw [joint, if_neg missing, if_neg plain]

/-! ### Pieces at gaps -/

/-- A concatenation operator is a point between code and code. -/
theorem ReadsPieces.of_concat (reads : ReadsPieces scanner (piece :: rest))
    (concat : piece.kind = .concat) : scanner.mode = .code ∧ piece.text = ['.'] := by
  rcases reads.cons_inv with ⟨move, moved, whole, kind_eq, -⟩
  have origin := Scanner.origin_move moved
  rw [whole, List.take_left, kind_eq, concat] at origin
  rcases origin.exists_spelling rfl (by decide) with ⟨code, spelling, listed, text_eq⟩
  have sole : ∀ entry ∈ operators, entry.2 = .concat → entry.1.toList = ['.'] := by decide
  exact ⟨code, text_eq.trans (sole _ listed rfl)⟩

theorem Scanner.kindAlone_point (code : scanner.mode = .code) :
    scanner.kindAlone ['.'] = .concat := by
  rcases scanner with ⟨mode, nesting, position, emitted⟩
  cases code
  rfl

/-- A point between code and code is a concatenation operator. -/
theorem ReadsPieces.concat_of_point (reads : ReadsPieces scanner (piece :: rest))
    (code : scanner.mode = .code) (point : piece.text = ['.']) : piece.kind = .concat := by
  rcases reads.cons_inv with ⟨move, moved, whole, kind_eq, -⟩
  rw [← kind_eq, scanner.kind_eq_kindAlone moved whole, point, Scanner.kindAlone_point code]

/-- The characters that whitespace begins with. -/
def lineBlanks : List Char := [' ', '\t', '\r', '\n']

/-- Where a text begins with a space, a tab or a line break, whitespace is read. -/
theorem Scanner.codeMove_blank {char : Char} (blank : char ∈ lineBlanks)
    (text : List Char) : scanner.codeMove (char :: text) =
      scanner.plainMove (char :: text) .whitespace (whitespaceLength (char :: text)) := by
  have positive : 0 < whitespaceLength (char :: text) := by
    have of_blank : isSpaceOrTab char = true → 0 < whitespaceLength (char :: text) := by
      intro blank
      refine Nat.lt_of_lt_of_le ?_ (Nat.le_add_right _ _)
      rw [runLength, List.takeWhile_cons_of_pos blank]
      exact Nat.succ_pos _
    simp only [lineBlanks, List.mem_cons, List.not_mem_nil, or_false] at blank
    rcases blank with rfl | rfl | rfl | rfl
    · exact of_blank rfl
    · exact of_blank rfl
    · simp [whitespaceLength, runLength, isSpaceOrTab, lineBreakLength_cons]
      split <;> simp
    · simp [whitespaceLength, runLength, isSpaceOrTab, lineBreakLength_cons]
  have plain : ∀ char ∈ lineBlanks, char ≠ '?' ∧ char ≠ '<' ∧ char ≠ '/' := by decide
  rcases plain char blank with ⟨noMark, noLess, noSlash⟩
  simp [codeMove, closeTagLength, noMark, noLess.symm, noSlash.symm, positive]

/-- Code that is no whitespace does not begin with a blank. -/
theorem ReadsPieces.head_of_code (reads : ReadsPieces scanner (piece :: rest))
    (code : scanner.mode = .code) (solid : piece.kind ≠ .whitespace) :
    ∀ char ∈ piece.text.head?, char ∉ lineBlanks := by
  intro char head_eq blank
  rcases List.head?_eq_some_iff.mp head_eq with ⟨tail, text_eq⟩
  rcases reads.cons_inv with ⟨move, moved, -, kind_eq, -⟩
  rw [text_eq, List.cons_append, Scanner.move, code] at moved
  rw [Scanner.codeMove_blank blank] at moved
  exact solid (kind_eq.symm.trans (scanner.of_plainMove moved).1)

/-- A step from markup into code is one over an open tag. -/
theorem ReadsPieces.openTag_of_markup (reads : ReadsPieces scanner (piece :: next :: rest))
    (markup : scanner.mode = .markup) (concat : next.kind = .concat) :
    0 < openTagLength (piece.text ++ written (next :: rest)) ∧
      openTagLength (piece.text ++ written (next :: rest)) = piece.text.length := by
  rcases reads.cons_inv with ⟨move, moved, whole, -, later⟩
  have mode_eq : move.mode = .code := (later.of_concat concat).1
  have cut := scanner.stride?_of_move _ moved
  rw [markup, whole, mode_eq, stride?] at cut
  split at cut
  · rename_i opens
    exact ⟨opens, (Prod.mk.inj (Option.some.inj cut)).1⟩
  · split at cut <;> simp at cut

/-- What stands in front of a concatenation operator begins with neither a blank nor a point, if it
is neither whitespace nor an operator itself. -/
theorem ReadsPieces.head_of_next (reads : ReadsPieces scanner (piece :: next :: rest))
    (solid : piece.kind ≠ .whitespace) (plain : piece.kind ≠ .concat)
    (concat : next.kind = .concat) :
    (∃ char ∈ piece.text, isSpaceOrTab char = false) ∧ piece.text ≠ ['.'] := by
  cases mode_eq : scanner.mode with
  | code =>
      refine ⟨?_, fun point => plain (reads.concat_of_point mode_eq point)⟩
      rcases List.exists_cons_of_ne_nil reads.text_ne_nil with ⟨char, tail, text_eq⟩
      have hard := reads.head_of_code mode_eq solid char (by rw [text_eq]; rfl)
      refine ⟨char, by rw [text_eq]; exact List.mem_cons_self, ?_⟩
      by_contra blank
      simp only [Bool.not_eq_false, isSpaceOrTab, Bool.or_eq_true, beq_iff_eq] at blank
      rcases blank with rfl | rfl <;> exact hard (by decide)
  | markup =>
      rcases reads.openTag_of_markup mode_eq concat with ⟨opens, -⟩
      have head_eq : piece.text.head? = some '<' := by
        have whole_head : (piece.text ++ written (next :: rest)).head? = some '<' := by
          rcases exists_openTag opens with ⟨tail, text_eq⟩ | ⟨_, _, _, tail, text_eq, -⟩ <;>
            rw [text_eq] <;> rfl
        rwa [List.head?_append_of_ne_nil _ reads.text_ne_nil] at whole_head
      rcases List.head?_eq_some_iff.mp head_eq with ⟨tail, text_eq⟩
      rw [text_eq]
      exact ⟨⟨'<', List.mem_cons_self, rfl⟩, by simp⟩

/-! ### Where the texts part -/

/-- A piece is kept, but for spaces behind an open tag. -/
theorem exists_spread_cons (piece : Piece) (rest : List Piece) :
    ∃ more tail, spread (piece :: rest) = ⟨piece.kind, piece.text ++ more⟩ :: tail := by
  cases rest with
  | nil => exact ⟨[], [], by simp [spread]⟩
  | cons next rest =>
      by_cases none_missing : gap piece next = 0
      · exact ⟨[], spread (next :: rest), by simp [spread, joint_of_gap_eq_zero none_missing]⟩
      by_cases bare : IsBareTag piece.text
      · exact ⟨_, spread (next :: rest), by simp [spread, joint_of_bare none_missing bare]; rfl⟩
      · exact ⟨[], spacer (gap piece next) :: spread (next :: rest),
          by simp [spread, joint_of_plain none_missing bare]⟩

/-- Where whitespace ends, it ends with a blank. -/
theorem ReadsPieces.getLast?_of_whitespace (reads : ReadsPieces scanner (piece :: rest))
    (space : piece.kind = .whitespace) : ∃ char ∈ blankChars, piece.text.getLast? = some char := by
  rcases reads.cons_inv with ⟨move, moved, whole, kind_eq, -⟩
  have blank := scanner.blank_of_move moved (kind_eq.trans space)
  rw [whole, List.take_left] at blank
  have last_eq := List.getLast?_eq_some_getLast reads.text_ne_nil
  exact ⟨_, mem_blankChars (blank _ (List.getLast_mem _)), last_eq⟩

/-- How the text of some pieces and that of the spread ones part. -/
structure Parts (pieces : List Piece) (common rest other : List Char) : Prop where
  old_eq : written pieces = common ++ rest
  new_eq : written (spread pieces) = common ++ other
  point : ∃ tail, rest = '.' :: tail
  unpointed : common ≠ ['.']
  cases : (∃ tail, other = ' ' :: '.' :: tail) ∧ (∃ char ∈ common, isSpaceOrTab char = false) ∨
    (∃ tail, other = '.' :: tail) ∧
      (common = [] ∧ (∃ piece ∈ pieces.head?, piece.kind = .concat) ∨
        ∃ char ∈ blankChars, common.getLast? = some char)

/-- The text of spread pieces is the old one, or goes on with a space around a point. -/
theorem ReadsPieces.spread_cases (reads : ReadsPieces scanner pieces) :
    written (spread pieces) = written pieces ∨ ∃ common rest other,
      Parts pieces common rest other := by
  induction pieces using spread.induct generalizing scanner with
  | case1 => exact .inl rfl
  | case2 piece => exact .inl rfl
  | case3 piece next rest ih =>
      rcases reads.cons_inv with ⟨move, moved, whole, kind_eq, later⟩
      have piece_ne := reads.text_ne_nil
      by_cases none_missing : gap piece next = 0
      · have new_eq : written (spread (piece :: next :: rest)) =
            piece.text ++ written (spread (next :: rest)) := by
          simp [spread, joint_of_gap_eq_zero none_missing]
        rcases ih later with same | ⟨common, tail, other, parts⟩
        · exact .inl (by rw [new_eq, same, written_cons piece])
        · refine .inr ⟨piece.text ++ common, tail, other, ?_, ?_, parts.point, ?_, ?_⟩
          · rw [written_cons, parts.old_eq, List.append_assoc]
          · rw [new_eq, parts.new_eq, List.append_assoc]
          · intro point
            rcases List.append_eq_singleton_iff.mp point with ⟨empty, -⟩ | ⟨pointed, empty⟩
            · exact piece_ne empty
            · subst empty
              rcases parts.cases with ⟨-, char, member, -⟩ | ⟨-, ⟨-, head, head_eq, concat⟩ | blank⟩
              · cases member
              · cases head_eq
                have space := (gap_eq_zero_iff.mp none_missing).2 concat
                rcases reads.getLast?_of_whitespace space with ⟨char, listed, last_eq⟩
                rw [pointed] at last_eq
                cases last_eq
                exact absurd listed (by decide)
              · rcases blank with ⟨char, -, last_eq⟩
                cases last_eq
          · rcases parts.cases with ⟨ahead, char, member, solid⟩ | ⟨behind, at_once | blank⟩
            · exact .inl ⟨ahead, char, List.mem_append_right _ member, solid⟩
            · rcases at_once with ⟨rfl, head, head_eq, concat⟩
              cases head_eq
              have space := (gap_eq_zero_iff.mp none_missing).2 concat
              rw [List.append_nil]
              exact .inr ⟨behind, .inr (reads.getLast?_of_whitespace space)⟩
            · rcases blank with ⟨char, listed, last_eq⟩
              refine .inr ⟨behind, .inr ⟨char, listed, ?_⟩⟩
              rw [List.getLast?_append, last_eq, Option.some_or]
      · by_cases concat : piece.kind = .concat
        · have text_eq := (reads.of_concat concat).2
          refine .inr ⟨[], written (piece :: next :: rest),
            written (spread (piece :: next :: rest)), rfl, rfl, ⟨written (next :: rest), ?_⟩,
            by simp, ?_⟩
          · rw [written_cons, text_eq]
            rfl
          · rcases exists_spread_cons piece (next :: rest) with ⟨more, tail, new_eq⟩
            refine .inr ⟨⟨more ++ written tail, ?_⟩, .inl ⟨rfl, piece, rfl, concat⟩⟩
            simp [new_eq, text_eq]
        · rcases gap_eq_one none_missing concat with ⟨one, next_concat⟩
          have next_text := (later.of_concat next_concat).2
          have solid := reads.head_of_next (of_gap none_missing).2.1 concat next_concat
          rcases exists_spread_cons next rest with ⟨more, tail, new_eq⟩
          refine .inr ⟨piece.text, written (next :: rest), ' ' :: '.' :: (more ++ written tail),
            rfl, ?_, ⟨written rest, ?_⟩, solid.2, .inl ⟨⟨_, rfl⟩, solid.1⟩⟩
          · by_cases bare : IsBareTag piece.text
            · simp [spread, joint_of_bare none_missing bare, new_eq, next_text, one]
            · simp [spread, joint_of_plain none_missing bare, new_eq, next_text, spacer, one]
          · rw [written_cons, next_text]
            rfl

/-! ### Steps over spread pieces -/

/-- Spaces in front of something else are read as whitespace. -/
theorem Scanner.move_spaces (scanner : Scanner) (code : scanner.mode = .code) {count : Nat}
    (positive : 0 < count) {rest : List Char}
    (hard : ∀ char ∈ rest.head?, char ∉ lineBlanks) :
    ∃ move : Move, scanner.move (List.replicate count ' ' ++ rest) = .ok move ∧
      move.length = (List.replicate count ' ').length ∧ move.kind = .whitespace ∧
      move.mode = .code ∧ move.nesting = scanner.nesting := by
  have stops : Stops isSpaceOrTab rest := by
    intro char head_eq
    by_contra blank
    simp only [Bool.not_eq_false, isSpaceOrTab, Bool.or_eq_true, beq_iff_eq] at blank
    rcases blank with rfl | rfl <;> exact hard _ head_eq (by decide)
  have noBreak : lineBreakLength rest = 0 := by
    cases rest with
    | nil => rfl
    | cons char rest =>
        have plain := hard char rfl
        simp only [lineBlanks, List.mem_cons, List.not_mem_nil, or_false, not_or] at plain
        simp [lineBreakLength_cons, plain]
  have length_eq : whitespaceLength (List.replicate count ' ' ++ rest) = count := by
    have run_eq : runLength isSpaceOrTab (List.replicate count ' ' ++ rest) = count := by
      rw [runLength_append (fun char member => List.eq_of_mem_replicate member ▸ rfl) stops,
        List.length_replicate]
    rw [whitespaceLength, run_eq, List.drop_left' List.length_replicate, noBreak, Nat.add_zero]
  cases count with
  | zero => exact absurd positive (Nat.lt_irrefl 0)
  | succ more =>
      have step := scanner.codeMove_blank (by decide : ' ' ∈ lineBlanks)
        (List.replicate more ' ' ++ rest)
      rw [← List.cons_append, ← List.replicate_succ, length_eq] at step
      rw [Scanner.move, code]
      dsimp only
      rw [step, plainMove, dif_pos positive]
      exact ⟨_, rfl, List.length_replicate.symm, rfl, rfl, rfl⟩

theorem exists_bareTag {text : List Char} (bare : IsBareTag text) :
    ∃ first second third, text = ['<', '?', first, second, third] ∧
      (first.toLower = 'p' ∧ second.toLower = 'h' ∧ third.toLower = 'p') := by
  rcases bare with ⟨opens, length_eq⟩
  rcases exists_openTag (by omega : 0 < openTagLength text) with
    ⟨tail, rfl⟩ | ⟨first, second, third, tail, rfl, letters⟩
  · cases opens
  · cases tail with
    | nil => exact ⟨first, second, third, rfl, letters⟩
    | cons next tail => simp at length_eq

/-- Whitespace is no open tag. -/
theorem not_isBareTag_of_blank {text : List Char}
    (blank : ∃ char ∈ blankChars, text.getLast? = some char) : ¬IsBareTag text := by
  intro bare
  rcases exists_bareTag bare with ⟨_, _, third, rfl, -, -, letter⟩
  rcases blank with ⟨char, listed, last_eq⟩
  cases last_eq
  have plain : ∀ char ∈ blankChars, char.toLower ≠ 'p' := by decide
  exact plain _ listed letter

namespace ReadsPieces

/-- An open tag without a blank is read in markup. -/
theorem markup_of_bare (reads : ReadsPieces scanner (piece :: rest)) (bare : IsBareTag piece.text) :
    scanner.mode = .markup := by
  rcases reads.cons_inv with ⟨move, moved, whole, -, -⟩
  rcases exists_bareTag bare with ⟨_, _, _, text_eq, -⟩
  have cut := scanner.stride?_of_move _ moved
  cases mode_eq : scanner.mode with
  | markup => rfl
  | code =>
      rw [mode_eq, whole, text_eq] at cut
      simp only [List.cons_append] at cut
      rw [stride?_of_loneOperator (by decide)] at cut
      simp at cut

/-- An open tag without a blank is read as one. -/
theorem openTag_of_bare (reads : ReadsPieces scanner (piece :: rest))
    (bare : IsBareTag piece.text) : piece.kind = .openTag := by
  have markup := reads.markup_of_bare bare
  rcases reads.cons_inv with ⟨move, moved, -, kind_eq, -⟩
  rcases exists_bareTag bare with ⟨a, b, c, bare_eq, letters⟩
  have noEcho : a ≠ '=' := by
    rintro rfl
    exact absurd letters.1 (by decide)
  have opens : 0 < openTagLength (piece.text ++ written rest) := by
    rw [bare_eq]
    exact (openTagLength_long (written rest) letters).symm ▸ Nat.lt_of_lt_of_le (by decide)
      (Nat.le_add_right 5 _)
  simp only [Scanner.move, markup, Scanner.markupMove, dif_pos opens] at moved
  cases moved
  dsimp only at kind_eq
  rw [← kind_eq, bare_eq]
  simp [noEcho]

/-- A piece behind which no space is missing is cut off from the new text as from the old one. -/
theorem stride?_spread (reads : ReadsPieces scanner (piece :: next :: rest)) {mode : Mode}
    (none_missing : gap piece next = 0)
    (cut : stride? scanner.mode (piece.text ++ written (next :: rest)) =
      some (piece.text.length, mode)) :
    stride? scanner.mode (piece.text ++ written (spread (next :: rest))) =
      some (piece.text.length, mode) := by
  rcases reads.cons_inv with ⟨move, -, -, -, later⟩
  rcases later.spread_cases with same | ⟨common, tail, other, parts⟩
  · rwa [same]
  rcases parts.point with ⟨tail, rfl⟩
  rw [parts.old_eq] at cut
  rw [parts.new_eq]
  have spaced : Spaced (piece.text ++ common) ('.' :: tail) other ∧
      (common ≠ [] ∨ ∃ char ∈ blankChars, (piece.text ++ common).getLast? = some char) := by
    rcases parts.cases with
      ⟨⟨after, rfl⟩, char, member, solid⟩ | ⟨⟨after, rfl⟩, ⟨rfl, head, head_eq, concat⟩ | blank⟩
    · exact ⟨.before ⟨char, List.mem_append_right _ member, solid⟩,
        .inl (List.ne_nil_of_mem member)⟩
    · cases head_eq
      have blank := reads.getLast?_of_whitespace ((gap_eq_zero_iff.mp none_missing).2 concat)
      rw [List.append_nil]
      exact ⟨.behind blank, .inr blank⟩
    · rcases blank with ⟨char, listed, last_eq⟩
      have blank : (piece.text ++ common).getLast? = some char := by
        rw [List.getLast?_append, last_eq, Option.some_or]
      exact ⟨.behind ⟨char, listed, blank⟩, .inr ⟨char, listed, blank⟩⟩
  refine spaced.1.stride?_append ?_ ?_ cut
  · intro code
    rw [code] at cut
    exact not_isPointed_of_cut cut parts.unpointed
  · intro markup bare
    rcases spaced.2 with goesOn | blank
    · -- A bare tag is a piece of its own, so nothing is left in front of the point.
      have whole_eq : openTagLength (piece.text ++ (common ++ '.' :: tail)) = 5 := by
        rw [← List.append_assoc, (beginsWith_point tail).openTagLength_append (by decide)
          (by decide) ((beginsWith_point tail).noTag (by decide)), bare.1]
      rw [markup, stride?, whole_eq, if_pos (by decide), Option.some.injEq, Prod.mk.injEq] at cut
      have length_eq := bare.2
      rw [List.length_append, ← cut.1, Nat.add_eq_left, List.length_eq_zero_iff] at length_eq
      exact goesOn length_eq
    · exact not_isBareTag_of_blank blank bare

/-- A tag that absorbs the space in front of an operator is an open tag as it was. -/
theorem step_bare (reads : ReadsPieces first (piece :: next :: rest)) (agrees : first.Agrees second)
    {move : Move} (moved : first.move (piece.text ++ written (next :: rest)) = .ok move)
    (bare : IsBareTag piece.text) (concat : next.kind = .concat) (tail : List Char) :
    ∃ again : Move, second.move ((piece.text ++ [' ']) ++ '.' :: tail) = .ok again ∧
      again.length = (piece.text ++ [' ']).length ∧ again.kind = move.kind ∧
      (first.advance move piece.text).Agrees (second.advance again (piece.text ++ [' '])) := by
  have markup := reads.markup_of_bare bare
  rcases reads.cons_inv with ⟨other, movedToo, -, -, later⟩
  cases moved.symm.trans movedToo
  have text_eq := (later.of_concat concat).2
  rcases exists_bareTag bare with ⟨a, b, c, bare_eq, letters⟩
  have noEcho : a ≠ '=' := by
    rintro rfl
    exact absurd letters.1 (by decide)
  have step : first.move (piece.text ++ written (next :: rest)) =
      .ok ⟨.openTag, 5, .code, first.nesting, by decide⟩ := by
    simp [Scanner.move, markup, Scanner.markupMove, written_cons, text_eq, bare_eq,
      openTagLength_long _ letters, noEcho, absorbedLength_cons, isSpaceOrTab]
  have stepToo : second.move ((piece.text ++ [' ']) ++ '.' :: tail) =
      .ok ⟨.openTag, 6, .code, second.nesting, by decide⟩ := by
    simp [Scanner.move, agrees.mode_eq ▸ markup, Scanner.markupMove, bare_eq,
      openTagLength_long _ letters, noEcho, absorbedLength_cons, isSpaceOrTab]
  cases moved.symm.trans step
  refine ⟨_, stepToo, by rw [bare_eq]; rfl, rfl, ?_⟩
  exact agrees.advance step stepToo rfl rfl _ _

/-- In front of a gap without a tag, the piece is cut off from the new text as from the old one. -/
theorem stride?_of_gap (reads : ReadsPieces scanner (piece :: next :: rest)) {mode : Mode}
    (missing : gap piece next ≠ 0) (plain : ¬IsBareTag piece.text)
    (cut : stride? scanner.mode (piece.text ++ written (next :: rest)) =
      some (piece.text.length, mode)) :
    stride? scanner.mode
        (piece.text ++ written (spacer (gap piece next) :: spread (next :: rest))) =
      some (piece.text.length, mode) := by
  rcases reads.cons_inv with ⟨move, -, -, -, later⟩
  by_cases concat : piece.kind = .concat
  · rcases reads.of_concat concat with ⟨code, text_eq⟩
    have mode_eq : mode = .code := by
      rw [code, text_eq] at cut
      exact eq_code_of_stride?_one cut
    obtain ⟨more, more_eq⟩ := Nat.exists_eq_succ_of_ne_zero missing
    rw [code, text_eq, mode_eq, written_cons, spacer, more_eq, List.replicate_succ]
    exact stride?_of_loneOperator (by decide) _
  · rcases gap_eq_one missing concat with ⟨one, next_concat⟩
    have next_text := (later.of_concat next_concat).2
    rcases exists_spread_cons next rest with ⟨more, tail, new_eq⟩
    rcases reads.head_of_next (of_gap missing).2.1 concat next_concat with ⟨solid, -⟩
    have split_cut : stride? scanner.mode (piece.text ++ ([] ++ '.' :: written rest)) =
        some (piece.text.length, mode) := by
      rw [written_cons, next_text] at cut
      exact cut
    have spaced : Spaced (piece.text ++ []) ('.' :: written rest)
        (' ' :: '.' :: (more ++ written tail)) := by
      rw [List.append_nil]
      exact .before solid
    rw [one, written_cons, new_eq, written_cons, next_text]
    refine spaced.stride?_append (fun code => ?_) (fun _ => ?_) split_cut
    · rw [code] at split_cut
      exact not_isPointed_of_cut split_cut (by simp)
    · rwa [List.append_nil]

theorem head_of_spread (reads : ReadsPieces scanner (piece :: rest)) :
    (written (spread (piece :: rest))).head? = piece.text.head? := by
  rcases exists_spread_cons piece rest with ⟨more, tail, new_eq⟩
  rw [new_eq, written_cons, List.append_assoc, List.head?_append_of_ne_nil _ reads.text_ne_nil]

/-- A scan that agrees with one of the old pieces reads the spread ones. -/
theorem spread (reads : ReadsPieces first pieces) (agrees : first.Agrees second) :
    ReadsPieces second (Lexer.spread pieces) := by
  induction pieces using spread.induct generalizing first second with
  | case1 => exact .nil second
  | case2 piece =>
      rcases reads.cons_inv with ⟨move, moved, whole, kind_eq, -⟩
      have cut := first.stride?_of_move _ moved
      rw [whole, agrees.mode_eq] at cut
      rcases agrees.step moved whole cut with ⟨again, movedToo, wholeToo, kind_eq', -⟩
      exact .cons movedToo wholeToo (kind_eq'.trans kind_eq) (.nil _)
  | case3 piece next rest ih =>
      rcases reads.cons_inv with ⟨move, moved, whole, kind_eq, later⟩
      have cut := first.stride?_of_move _ moved
      rw [whole] at cut
      by_cases none_missing : gap piece next = 0
      · have cutNew := reads.stride?_spread none_missing cut
        rw [agrees.mode_eq] at cutNew
        rcases agrees.step moved whole cutNew with ⟨again, movedToo, wholeToo, kind_eq', agrees⟩
        rw [Lexer.spread, joint_of_gap_eq_zero none_missing]
        exact .cons movedToo wholeToo (kind_eq'.trans kind_eq) (ih later agrees)
      by_cases bare : IsBareTag piece.text
      · have plain : piece.kind ≠ .concat := by simp [reads.openTag_of_bare bare]
        rcases gap_eq_one none_missing plain with ⟨one, concat⟩
        rcases exists_spread_cons next rest with ⟨more, tail, new_eq⟩
        rcases reads.step_bare agrees moved bare concat (more ++ written tail) with
          ⟨again, movedToo, wholeToo, kind_eq', agrees⟩
        have text_eq : written (Lexer.spread (next :: rest)) = '.' :: (more ++ written tail) := by
          rw [new_eq, written_cons, (later.of_concat concat).2]
          rfl
        rw [← text_eq] at movedToo
        rw [Lexer.spread, joint_of_bare none_missing bare, one]
        exact .cons movedToo wholeToo (kind_eq'.trans kind_eq) (ih later agrees)
      · have cutNew := reads.stride?_of_gap none_missing bare cut
        rw [agrees.mode_eq] at cutNew
        rcases agrees.step moved whole cutNew with ⟨again, movedToo, wholeToo, kind_eq', agrees⟩
        rw [Lexer.spread, joint_of_plain none_missing bare]
        refine .cons movedToo wholeToo (kind_eq'.trans kind_eq) ?_
        have about := of_gap none_missing
        have code : move.mode = .code := by
          rcases about.1 with concat | concat
          · exact Scanner.mode_move moved (by simp [kind_eq, concat]) (by simp [kind_eq, concat])
          · exact (later.of_concat concat).1
        have codeToo : again.mode = .code := agrees.mode_eq.symm.trans code
        have hard : ∀ char ∈ (written (Lexer.spread (next :: rest))).head?, char ∉ lineBlanks := by
          rw [later.head_of_spread]
          exact later.head_of_code code about.2.2
        rcases (second.advance again piece.text).move_spaces codeToo
          (Nat.pos_of_ne_zero none_missing) hard with
          ⟨space, spaced, space_length, space_kind, space_mode, space_nesting⟩
        refine .cons spaced space_length space_kind (ih later ⟨?_, ?_, ?_⟩)
        · exact code.trans space_mode.symm
        · exact agrees.nesting_eq.trans space_nesting.symm
        · rw [Scanner.lastTraits_advance _ space, space_kind]
          exact agrees.last_eq

end ReadsPieces

end TokenLint.Lexer
