import TokenLint.Proofs.Lexer.Comparisons
import TokenLint.Proofs.Lexer.Turns
import TokenLint.Proofs.Stream.Pieces

/-!
# Chains of negations in their short forms

`Collapsed` relates the pieces of a source to those that are left when each chain of negations is
exchanged for one piece, a negation or a cast. In front of a chain nothing is read in another way.
Behind it, a negation may run together with signs of comparison, which are then read anew up to the
first character that is none of them. The brackets are those of the source, and no chain is left.
-/

namespace TokenLint.Lexer

open Text

variable {scanner first second : Scanner} {piece next : Piece} {olds news rest : List Piece}
  {nesting : Nesting}

/-! ### Scans behind plain code -/

/-- Whether a scan of code stands behind code that has no part in what comes next. -/
structure Scanner.Plain (scanner : Scanner) (nesting : Nesting) : Prop where
  mode_eq : scanner.mode = .code
  nesting_eq : scanner.nesting = nesting
  last_eq : scanner.lastTraits = (false, false, false)

theorem Scanner.Plain.agrees (plain : first.Plain nesting) (other : second.Plain nesting) :
    first.Agrees second where
  mode_eq := plain.mode_eq.trans other.mode_eq.symm
  nesting_eq := plain.nesting_eq.trans other.nesting_eq.symm
  last_eq := plain.last_eq.trans other.last_eq.symm

/-- Kinds of code that have no part in what comes behind them, and stand inside all brackets. -/
def isPlainCode (kind : TokenKind) : Bool :=
  !kind.isTrivia && keepsNesting kind && !keepsName kind && !startsNullable kind &&
    !isIndexable kind && kind ∉ [.closeTag, .inlineHtml]

/-- Behind plain code a scan of code is plain. -/
theorem Scanner.plain_advance {text : List Char} {move : Move}
    (moved : scanner.move text = .ok move) (plain : isPlainCode move.kind = true)
    (chars : List Char) : (scanner.advance move chars).Plain scanner.nesting := by
  simp only [isPlainCode, Bool.and_eq_true, Bool.not_eq_true', decide_eq_true_eq,
    List.mem_cons, List.not_mem_nil, or_false, not_or] at plain
  rcases plain with ⟨⟨⟨⟨⟨code, keeps⟩, noName⟩, noType⟩, noIndex⟩, noTag, noMarkup⟩
  refine ⟨Scanner.mode_move moved noTag noMarkup, ?_, ?_⟩
  · exact (nesting_move moved).1.trans (Nesting.pass_of_keeps keeps)
  · rw [lastTraits_advance, code, noName, noType, noIndex]
    rfl

/-- Trivia leave a scan plain. -/
theorem Scanner.Plain.advance_trivia (plain : scanner.Plain nesting) {text : List Char}
    {move : Move} (moved : scanner.move text = .ok move) (trivia : move.kind.isTrivia = true)
    (chars : List Char) : (scanner.advance move chars).Plain nesting := by
  have keeps : ∀ kind : TokenKind, kind.isTrivia = true → keepsNesting kind = true ∧
      kind ≠ .closeTag ∧ kind ≠ .inlineHtml := by
    intro kind trivia
    cases kind <;> first | exact ⟨rfl, by decide, by decide⟩ | cases trivia
  rcases keeps move.kind trivia with ⟨keeps, noTag, noMarkup⟩
  refine ⟨Scanner.mode_move moved noTag noMarkup, ?_, ?_⟩
  · exact ((nesting_move moved).1.trans (Nesting.pass_of_keeps keeps)).trans plain.nesting_eq
  · rw [lastTraits_advance, if_pos trivia, plain.last_eq]

theorem mem_comparingStarts {char : Char} (sign : isComparing char = true) :
    char ∈ comparingStarts := by
  simp only [isComparing, Bool.or_eq_true, beq_iff_eq] at sign
  rcases sign with rfl | rfl <;> decide

/-- Whether a piece begins with a sign of comparison that is no negation. -/
def comparingHead (piece : Piece) : Bool := piece.text.head?.any isComparing

theorem comparingHead_iff :
    comparingHead piece = true ↔ ∃ char ∈ piece.text.head?, isComparing char = true := by
  rw [comparingHead]
  cases piece.text.head? <;> simp

theorem comparisons_isPlainCode : ∀ entry ∈ comparisons, isPlainCode entry.2 = true := by decide

namespace ReadsPieces

/-- Trivia and plain code lead from a plain scan to a plain scan. -/
theorem skip_plain {front back : List Piece} (reads : ReadsPieces scanner (front ++ back))
    (plain : scanner.Plain nesting)
    (passed : ∀ piece ∈ front, piece.kind.isTrivia = true ∨ isPlainCode piece.kind = true) :
    ∃ after : Scanner, after.Plain nesting ∧ ReadsPieces after back := by
  induction front generalizing scanner with
  | nil => exact ⟨scanner, plain, reads⟩
  | cons piece front ih =>
      rcases reads.cons_inv with ⟨move, moved, -, kind_eq, later⟩
      have here := passed piece List.mem_cons_self
      rw [← kind_eq] at here
      have plainAfter : (scanner.advance move piece.text).Plain nesting := by
        rcases here with trivia | code
        · exact plain.advance_trivia moved trivia _
        · exact plain.nesting_eq ▸ scanner.plain_advance moved code _
      exact ih later plainAfter fun other member => passed other (List.mem_cons_of_mem _ member)

/-- What begins with a sign of comparison in code is an operator of comparison. -/
theorem of_comparing (reads : ReadsPieces scanner (piece :: rest)) (code : scanner.mode = .code)
    {head : Char} (starts : head ∈ comparingStarts) (head_eq : piece.text.head? = some head) :
    ∃ entry ∈ comparisons, piece = ⟨entry.2, entry.1.toList⟩ := by
  rcases reads.cons_inv with ⟨move, moved, whole, kind_eq, -⟩
  rcases List.head?_eq_some_iff.mp head_eq with ⟨tail, text_eq⟩
  let signs := head :: (tail ++ written rest).takeWhile isComparing
  let others := (tail ++ written rest).dropWhile isComparing
  have comparison : IsComparison signs := ⟨starts, fun char member => List.mem_takeWhile_imp member⟩
  have stops : Stops isComparing others := by
    intro char found
    have refused := List.head?_dropWhile_not isComparing (tail ++ written rest)
    rwa [Option.mem_def.mp found] at refused
  have old_eq : piece.text ++ written rest = signs ++ others := by
    rw [text_eq, List.cons_append, List.cons_append, List.takeWhile_append_dropWhile]
  rcases comparison.exists_operator with ⟨entry, listed, starts, length_eq⟩
  have cut := scanner.stride?_of_move _ moved
  rw [code, old_eq, comparison.stride?_eq, comparison.operatorLength?_append stops, length_eq,
    Option.map_some, Option.some.injEq, Prod.mk.injEq, whole] at cut
  have piece_eq : piece.text = entry.1.toList := by
    have front := congrArg (List.take piece.text.length) old_eq
    rw [List.take_left] at front
    rw [front, List.take_append_of_le_length, ← cut.1]
    · exact (List.prefix_iff_eq_take.mp starts).symm
    · exact cut.1 ▸ starts.length_le
  refine ⟨entry, listed, ?_⟩
  have kind_alone := scanner.kind_eq_kindAlone moved whole
  rw [piece_eq, scanner.kindAlone_of_comparison code entry listed, kind_eq] at kind_alone
  rw [← kind_alone, ← piece_eq]

/-- Operators of comparison that do not begin with a negation lead from a plain scan to a plain
scan. -/
theorem skip_comparing {front back : List Piece} (reads : ReadsPieces scanner (front ++ back))
    (plain : scanner.Plain nesting)
    (heads : ∀ piece ∈ front, comparingHead piece = true) :
    (∀ piece ∈ front, ∃ entry ∈ comparisons, piece = ⟨entry.2, entry.1.toList⟩) ∧
      ∃ after : Scanner, after.Plain nesting ∧ ReadsPieces after back := by
  induction front generalizing scanner with
  | nil => exact ⟨by simp, scanner, plain, reads⟩
  | cons piece front ih =>
      rcases comparingHead_iff.mp (heads piece List.mem_cons_self) with ⟨char, head_eq, sign⟩
      rcases reads.of_comparing plain.mode_eq (mem_comparingStarts sign) head_eq with
        ⟨entry, listed, rfl⟩
      rcases reads.cons_inv with ⟨move, moved, -, kind_eq, later⟩
      have code : isPlainCode move.kind = true := by
        rw [kind_eq]
        exact comparisons_isPlainCode entry listed
      have plainAfter := scanner.plain_advance moved code entry.1.toList
      rw [plain.nesting_eq] at plainAfter
      rcases ih later plainAfter fun other member => heads other (List.mem_cons_of_mem _ member)
        with ⟨about, after, lastPlain, readsBack⟩
      refine ⟨fun other member => ?_, after, lastPlain, readsBack⟩
      rcases List.mem_cons.mp member with rfl | among
      · exact ⟨entry, listed, rfl⟩
      · exact about other among

/-- A negation is an exclamation mark between code and code. -/
theorem of_negation (reads : ReadsPieces scanner (piece :: rest))
    (negation : piece.kind = .booleanNot) : scanner.mode = .code ∧ piece.text = ['!'] := by
  rcases reads.cons_inv with ⟨move, moved, whole, kind_eq, -⟩
  have origin := Scanner.origin_move moved
  rw [whole, List.take_left, kind_eq, negation] at origin
  rcases origin.exists_spelling rfl (by decide) with ⟨code, spelling, listed, text_eq⟩
  have sole : ∀ entry ∈ operators, entry.2 = .booleanNot → entry.1.toList = ['!'] := by decide
  exact ⟨code, text_eq.trans (sole _ listed rfl)⟩

/-- Signs of comparison between code and code are read operator by operator. -/
theorem exists_comparison {signs : List Char} (comparison : IsComparison signs)
    {later : List Piece} (stops : Stops isComparing (written later)) :
    ∃ pieces, written pieces = signs ∧
      (∀ piece ∈ pieces, ∃ entry ∈ comparisons, piece = ⟨entry.2, entry.1.toList⟩) ∧
      ∀ scanner : Scanner, scanner.mode = .code →
        (∀ after : Scanner, after.Plain scanner.nesting → ReadsPieces after later) →
          ReadsPieces scanner (pieces ++ later) := by
  induction length_eq : signs.length using Nat.strong_induction_on generalizing signs with
  | h length ih =>
      rcases comparison.exists_operator with ⟨entry, listed, ⟨others, rfl⟩, operator⟩
      let piece : Piece := ⟨entry.2, entry.1.toList⟩
      have proper : ∀ entry ∈ comparisons, entry.1.toList ≠ [] := by decide
      -- The operator is read alone in front of whatever comes next.
      have step : ∀ (scanner : Scanner) (pieces : List Piece), scanner.mode = .code →
          written pieces = others →
          (∀ after : Scanner, after.Plain scanner.nesting → ReadsPieces after (pieces ++ later)) →
            ReadsPieces scanner (piece :: (pieces ++ later)) := by
        intro scanner pieces code others_eq reads
        have text_eq : piece.text ++ written (pieces ++ later) =
            entry.1.toList ++ others ++ written later := by
          rw [written_append, others_eq, List.append_assoc]
        have cut : stride? scanner.mode (piece.text ++ written (pieces ++ later)) =
            some (piece.text.length, .code) := by
          rw [code, text_eq, comparison.stride?_eq, comparison.operatorLength?_append stops,
            operator]
          rfl
        rcases scanner.exists_move_of_stride? _ cut with ⟨move, moved, whole, -⟩
        have kind_eq : move.kind = entry.2 := by
          rw [scanner.kind_eq_kindAlone moved whole]
          exact scanner.kindAlone_of_comparison code entry listed
        have plain : isPlainCode move.kind = true := by
          rw [kind_eq]
          exact comparisons_isPlainCode entry listed
        exact .cons moved whole kind_eq (reads _ (scanner.plain_advance moved plain _))
      cases others with
      | nil =>
          refine ⟨[piece], by simp [piece], ?_, fun scanner code reads => ?_⟩
          · intro other member
            rw [List.mem_singleton.mp member]
            exact ⟨entry, listed, rfl⟩
          · exact step scanner [] code rfl reads
      | cons head tail =>
          have further : IsComparison (head :: tail) := by
            rcases List.exists_cons_of_ne_nil (proper entry listed) with ⟨start, sign, spelled⟩
            rw [spelled] at comparison
            have signs := comparison.2
            exact ⟨mem_comparingStarts (signs head (by simp)), fun char member =>
              signs char (by simp [member])⟩
          have shorter : (head :: tail).length < length := by
            have positive := List.length_pos_of_ne_nil (proper entry listed)
            rw [← length_eq, List.length_append]
            omega
          rcases ih _ shorter further rfl with ⟨pieces, others_eq, about, reads⟩
          refine ⟨piece :: pieces, by rw [written_cons, others_eq], ?_, ?_⟩
          · intro other member
            rcases List.mem_cons.mp member with rfl | among
            · exact ⟨entry, listed, rfl⟩
            · exact about other among
          · intro scanner code readsLater
            refine step scanner pieces code others_eq fun after plain => ?_
            exact reads after plain.mode_eq fun last lastPlain =>
              readsLater last (plain.nesting_eq ▸ lastPlain)

end ReadsPieces

/-! ### Chains of negations -/

/-- The kind of the first code among some pieces. -/
def firstCode (pieces : List Piece) : Option TokenKind :=
  (pieces.map Piece.kind).find? fun kind => !kind.isTrivia

theorem firstCode_cons (piece : Piece) (pieces : List Piece) :
    firstCode (piece :: pieces) =
      if piece.kind.isTrivia then firstCode pieces else some piece.kind := by
  rw [firstCode, List.map_cons, List.find?_cons]
  cases piece.kind.isTrivia <;> rfl

/-- Whether no negation is followed by another one with nothing but trivia between them. -/
def Unchained : List Piece → Prop
  | [] => True
  | piece :: rest =>
    (piece.kind = .booleanNot → firstCode rest ≠ some .booleanNot) ∧ Unchained rest

theorem Unchained.append_of_plain {front back : List Piece}
    (plain : ∀ piece ∈ front, piece.kind ≠ .booleanNot) (unchained : Unchained back) :
    Unchained (front ++ back) := by
  induction front with
  | nil => exact unchained
  | cons piece front ih =>
      exact ⟨fun negation => absurd negation (plain piece List.mem_cons_self),
        ih fun other member => plain other (List.mem_cons_of_mem _ member)⟩

/-- Behind a negation the first code is none. -/
theorem Unchained.not_followed {index : Nat} (unchained : Unchained olds)
    (here : olds[index]? = some piece) (negation : piece.kind = .booleanNot) :
    firstCode (olds.drop (index + 1)) ≠ some .booleanNot := by
  induction olds generalizing index with
  | nil => cases here
  | cons head olds ih =>
      cases index with
      | zero =>
          cases here
          exact unchained.1 negation
      | succ index => exact ih unchained.2 here

/-- The kinds between the first negation of a chain and its operand. -/
def goesOnChain (kind : TokenKind) : Bool := kind.isTrivia || kind == .booleanNot

theorem signOf?_of_goesOnChain {kind : TokenKind} (goesOn : goesOnChain kind = true) :
    signOf? kind = none := by
  cases kind <;> first | rfl | cases goesOn

theorem passed_of_goesOnChain {kind : TokenKind} (goesOn : goesOnChain kind = true) :
    kind.isTrivia = true ∨ isPlainCode kind = true := by
  rw [goesOnChain, Bool.or_eq_true, beq_iff_eq] at goesOn
  rcases goesOn with trivia | rfl
  · exact .inl trivia
  · exact .inr rfl

/-- What a chain ends in front of is no negation. -/
theorem firstCode_ne_of_ends (ends : ∀ next ∈ olds.head?, goesOnChain next.kind = false) :
    firstCode olds ≠ some .booleanNot := by
  cases olds with
  | nil => exact nofun
  | cons piece olds =>
      have stopped := ends piece rfl
      rw [goesOnChain, Bool.or_eq_false_iff, beq_eq_false_iff_ne] at stopped
      rw [firstCode_cons, stopped.1]
      exact fun same => stopped.2 (Option.some.inj same)

/-- The pieces that chains are exchanged for: a negation and a cast. -/
def shortForms : List Piece := [⟨.booleanNot, ['!']⟩, ⟨.boolCast, "(bool)".toList⟩]

/-- Whether some pieces are left of others when their chains of negations are exchanged. -/
inductive Collapsed : List Piece → List Piece → Prop where
  | nil : Collapsed [] []
  | keep {piece : Piece} {olds news : List Piece}
      (alone : piece.kind = .booleanNot → firstCode olds ≠ some .booleanNot)
      (rest : Collapsed olds news) : Collapsed (piece :: olds) (piece :: news)
  | chain {first short : Piece} {run olds news : List Piece} (negation : first.kind = .booleanNot)
      (inside : ∀ piece ∈ run, goesOnChain piece.kind = true)
      (ends : ∀ next ∈ olds.head?, goesOnChain next.kind = false) (listed : short ∈ shortForms)
      (rest : Collapsed olds news) : Collapsed (first :: (run ++ olds)) (short :: news)

namespace Collapsed

/-- Behind a stretch without negations the pieces are kept one by one. -/
theorem keep_inv {front : List Piece} (collapsed : Collapsed (front ++ olds) news)
    (plain : ∀ piece ∈ front, piece.kind ≠ .booleanNot) :
    ∃ back, news = front ++ back ∧ Collapsed olds back := by
  induction front generalizing news with
  | nil => exact ⟨news, rfl, collapsed⟩
  | cons piece front ih =>
      have here := plain piece List.mem_cons_self
      rw [List.cons_append] at collapsed
      generalize olds_eq : piece :: (front ++ olds) = pieces at collapsed
      cases collapsed with
      | nil => cases olds_eq
      | keep alone rest =>
          cases olds_eq
          rcases ih rest (fun other member => plain other (List.mem_cons_of_mem _ member)) with
            ⟨back, rfl, collapsed⟩
          exact ⟨back, rfl, collapsed⟩
      | chain negation inside ends listed rest =>
          rw [(List.cons.inj olds_eq).1] at here
          exact absurd negation here

/-- The new text parts from the old one in front of a chain, if it does. -/
theorem written_cases (collapsed : Collapsed olds news) (reads : ReadsPieces scanner olds) :
    written news = written olds ∨ ∃ common rest other, written olds = common ++ rest ∧
      written news = common ++ other ∧ Turns rest other ∧ rest.head? = some '!' := by
  induction collapsed generalizing scanner with
  | nil => exact .inl rfl
  | @keep piece olds news alone rest ih =>
      rcases reads.cons_inv with ⟨move, -, -, -, later⟩
      rcases ih later with same | ⟨common, rest, other, old_eq, new_eq, turns, head_eq⟩
      · exact .inl (by rw [written_cons, written_cons, same])
      · refine .inr ⟨piece.text ++ common, rest, other, ?_, ?_, turns, head_eq⟩
        · rw [written_cons, old_eq, List.append_assoc]
        · rw [written_cons, new_eq, List.append_assoc]
  | @chain first short run olds news negation inside ends listed rest ih =>
      have text_eq := (reads.of_negation negation).2
      have head_eq : (written (first :: (run ++ olds))).head? = some '!' := by
        rw [written_cons, text_eq]
        rfl
      have begins : ∀ short ∈ shortForms, ∃ char ∈ turningChars, ∃ tail,
          short.text = char :: tail := by
        intro short listed
        simp only [shortForms, List.mem_cons, List.not_mem_nil, or_false] at listed
        rcases listed with rfl | rfl
        · exact ⟨'!', by decide, [], rfl⟩
        · exact ⟨'(', by decide, _, rfl⟩
      rcases begins short listed with ⟨char, turning, tail, short_eq⟩
      refine .inr ⟨[], _, written (short :: news), rfl, rfl, ⟨⟨'!', by decide, head_eq⟩, ?_⟩,
        head_eq⟩
      exact ⟨char, turning, by rw [written_cons, short_eq]; rfl⟩

/-- A piece that is kept is cut off in front of the new text. -/
theorem stride?_keep (collapsed : Collapsed olds news) (reads : ReadsPieces second olds)
    {mode next : Mode} {text : List Char} (nonempty : text ≠ [])
    (cut : stride? mode (text ++ written olds) = some (text.length, next)) :
    stride? mode (text ++ written news) = some (text.length, next) := by
  rcases collapsed.written_cases reads with
    same | ⟨common, rest, other, old_eq, new_eq, turns, head_eq⟩
  · rwa [same]
  · rw [old_eq] at cut
    rw [new_eq]
    refine turns.stride?_append nonempty (.inr (.inr (.inr ?_))) cut
    intro char found
    rw [head_eq] at found
    cases found
    decide +kernel

/-- The new text does not begin with a sign of comparison if the old pieces do not. -/
theorem stops_comparing (collapsed : Collapsed olds news) (reads : ReadsPieces scanner olds)
    (stops : ∀ piece ∈ olds.head?, Stops isComparing piece.text) :
    Stops isComparing (written news) := by
  cases collapsed with
  | nil => exact stops_nil isComparing
  | @keep piece olds news alone rest =>
      rcases List.exists_cons_of_ne_nil reads.text_ne_nil with ⟨char, tail, text_eq⟩
      have refused := stops piece rfl
      rw [text_eq, stops_cons] at refused
      rw [written_cons, text_eq, List.cons_append, stops_cons]
      exact refused
  | @chain first short run olds news negation inside ends listed rest =>
      simp only [shortForms, List.mem_cons, List.not_mem_nil, or_false] at listed
      rcases listed with rfl | rfl <;> exact stops_cons.mpr (by decide)

/-- What the new text is read as: pieces with the signs of the old ones and without chains. They
begin with a negation if the old ones do so. -/
structure IsReread (olds news pieces : List Piece) : Prop where
  written_eq : written pieces = written news
  signs : (pieces.map Piece.kind).filterMap signOf? = (olds.map Piece.kind).filterMap signOf?
  first : firstCode pieces = some .booleanNot → firstCode olds = some .booleanNot
  unchained : Unchained pieces

theorem comparisons_unnegated : ∀ entry ∈ comparisons,
    comparingHead ⟨entry.2, entry.1.toList⟩ = true → entry.2 ≠ .booleanNot := by decide

theorem filterMap_signOf?_run {run : List Piece}
    (inside : ∀ piece ∈ run, goesOnChain piece.kind = true) :
    (run.map Piece.kind).filterMap signOf? = [] := by
  rw [List.filterMap_eq_nil_iff]
  intro kind member
  rcases List.mem_map.mp member with ⟨piece, among, rfl⟩
  exact signOf?_of_goesOnChain (inside piece among)

/-- A cast in the place of a chain begins no chain. -/
theorem IsReread.cast {head : Piece} {run pieces : List Piece} (reread : IsReread olds news pieces)
    (negation : head.kind = .booleanNot)
    (inside : ∀ piece ∈ run, goesOnChain piece.kind = true) :
    IsReread (head :: (run ++ olds)) (⟨.boolCast, "(bool)".toList⟩ :: news)
      (⟨.boolCast, "(bool)".toList⟩ :: pieces) where
  written_eq := by rw [written_cons, written_cons, reread.written_eq]
  signs := by
    simp only [List.map_cons, List.map_append, List.filterMap_cons, List.filterMap_append,
      filterMap_signOf?_run inside, reread.signs, negation, signOf?, List.nil_append]
  first cast := by cases cast
  unchained := ⟨nofun, reread.unchained⟩

/-- What begins with a negation and signs of comparison has no chain if none begins behind it. -/
theorem unchained_of_comparison {signs : List Char} {front back : List Piece}
    (signs_eq : written front = '!' :: signs) (sole : ∀ char ∈ signs, isComparing char = true)
    (listed : ∀ piece ∈ front, ∃ entry ∈ comparisons, piece = ⟨entry.2, entry.1.toList⟩)
    (unchained : Unchained back) (apart : signs = [] → firstCode back ≠ some .booleanNot) :
    Unchained (front ++ back) := by
  have proper : ∀ entry ∈ comparisons, entry.1.toList ≠ [] ∧ entry.2.isTrivia = false ∧
      (entry.2 = .booleanNot → '!' ∈ entry.1.toList) := by decide
  cases front with
  | nil => cases signs_eq
  | cons head others =>
      rcases listed head List.mem_cons_self with ⟨entry, member, rfl⟩
      rcases List.exists_cons_of_ne_nil (proper entry member).1 with ⟨char, tail, text_eq⟩
      rw [written_cons, text_eq, List.cons_append, List.cons.injEq] at signs_eq
      have plain : ∀ piece ∈ others, piece.kind ≠ .booleanNot := by
        intro piece among negation
        rcases listed piece (List.mem_cons_of_mem _ among) with ⟨other, listedToo, rfl⟩
        have mark : '!' ∈ signs := by
          rw [← signs_eq.2]
          refine List.mem_append_right _ (List.mem_flatMap.mpr ⟨_, among, ?_⟩)
          exact (proper other listedToo).2.2 negation
        exact absurd (sole _ mark) (by decide)
      refine ⟨fun negation => ?_, unchained.append_of_plain plain⟩
      cases others with
      | nil =>
          have single : ∀ entry ∈ comparisons, entry.2 = .booleanNot →
              entry.1.toList.tail = [] := by decide
          have tail_eq := single entry member negation
          rw [text_eq, List.tail_cons] at tail_eq
          exact apart (by rw [← signs_eq.2, tail_eq]; rfl)
      | cons piece others =>
          rcases listed piece (by simp) with ⟨other, listedToo, rfl⟩
          have first_eq : firstCode (⟨other.2, other.1.toList⟩ :: (others ++ back)) =
              some other.2 := by
            rw [firstCode_cons, (proper other listedToo).2.1]
            rfl
          exact fun same => plain _ List.mem_cons_self (Option.some.inj (first_eq.symm.trans same))

/-- A negation and the signs of comparison behind it are read anew. -/
theorem exists_reread_negation {back newBack pieces : List Piece} {head : Piece}
    {run signs : List Piece} (negation : head.kind = .booleanNot)
    (inside : ∀ piece ∈ run, goesOnChain piece.kind = true)
    (ends : ∀ next ∈ (signs ++ back).head?, goesOnChain next.kind = false)
    (listed : ∀ piece ∈ signs, ∃ entry ∈ comparisons, piece = ⟨entry.2, entry.1.toList⟩)
    (heads : ∀ piece ∈ signs, comparingHead piece = true)
    (stops : Stops isComparing (written newBack)) (reread : IsReread back newBack pieces) :
    ∃ found, IsReread (head :: (run ++ (signs ++ back)))
        (⟨.booleanNot, ['!']⟩ :: (signs ++ newBack)) found ∧
      ∀ scanner : Scanner, scanner.mode = .code →
        (∀ after : Scanner, after.Plain scanner.nesting → ReadsPieces after pieces) →
          ReadsPieces scanner found := by
  have allComparing : ∀ entry ∈ comparisons, comparingHead ⟨entry.2, entry.1.toList⟩ = true →
      entry.1.toList.all isComparing = true := by decide
  have sole : ∀ char ∈ written signs, isComparing char = true := by
    intro char member
    rcases List.mem_flatMap.mp member with ⟨piece, among, member⟩
    rcases listed piece among with ⟨entry, member', rfl⟩
    exact List.all_eq_true.mp (allComparing entry member' (heads _ among)) char member
  have stopsNew : Stops isComparing (written pieces) := by
    rw [reread.written_eq]
    exact stops
  have comparison : IsComparison ('!' :: written signs) := ⟨by decide, sole⟩
  rcases ReadsPieces.exists_comparison comparison stopsNew with ⟨front, front_eq, about, reads⟩
  have unsigned : ∀ stretch : List Piece,
      (∀ piece ∈ stretch, ∃ entry ∈ comparisons, piece = ⟨entry.2, entry.1.toList⟩) →
        (stretch.map Piece.kind).filterMap signOf? = [] := by
    intro stretch listed
    rw [List.filterMap_eq_nil_iff]
    intro kind member
    rcases List.mem_map.mp member with ⟨piece, among, rfl⟩
    rcases listed piece among with ⟨entry, member', rfl⟩
    exact (comparisons_plain entry member').2.2.1
  refine ⟨front ++ pieces, ⟨?_, ?_, ?_, ?_⟩, reads⟩
  · rw [written_append, written_cons, written_append, front_eq, reread.written_eq]
    rfl
  · simp only [List.map_cons, List.map_append, List.filterMap_cons, List.filterMap_append,
      unsigned front about, unsigned signs listed, filterMap_signOf?_run inside, reread.signs,
      negation, signOf?, List.nil_append]
  · intro _
    rw [firstCode_cons, negation]
    rfl
  · refine unchained_of_comparison front_eq sole about reread.unchained fun nothing again => ?_
    have first_eq := reread.first again
    cases signs with
    | nil => exact firstCode_ne_of_ends ends first_eq
    | cons piece signs =>
        rcases comparingHead_iff.mp (heads piece List.mem_cons_self) with ⟨char, head_eq, -⟩
        rw [written_cons, List.append_eq_nil_iff] at nothing
        rw [nothing.1] at head_eq
        cases head_eq

/-- Whether the new text is read as such pieces by every scan that agrees with one. -/
def RereadFrom (first : Scanner) (olds news : List Piece) : Prop :=
  ∃ pieces, IsReread olds news pieces ∧
    ∀ second : Scanner, first.Agrees second → ReadsPieces second pieces

namespace RereadFrom

/-- Past a piece that is kept. -/
theorem keep (reads : ReadsPieces first (piece :: olds)) (rest : Collapsed olds news)
    (alone : piece.kind = .booleanNot → firstCode olds ≠ some .booleanNot)
    (ih : ∀ after : Scanner, ReadsPieces after olds → RereadFrom after olds news) :
    RereadFrom first (piece :: olds) (piece :: news) := by
  rcases reads.cons_inv with ⟨move, moved, whole, kind_eq, later⟩
  rcases ih _ later with ⟨pieces, reread, readsNew⟩
  refine ⟨piece :: pieces, ⟨?_, ?_, ?_, ?_, reread.unchained⟩, fun second agrees => ?_⟩
  · rw [written_cons, written_cons, reread.written_eq]
  · rw [List.map_cons, List.map_cons, List.filterMap_cons, List.filterMap_cons, reread.signs]
  · rw [firstCode_cons, firstCode_cons]
    split
    · exact reread.first
    · exact id
  · exact fun negation => mt reread.first (alone negation)
  · have cut := first.stride?_of_move _ moved
    rw [whole, agrees.mode_eq] at cut
    have cutNew := rest.stride?_keep later reads.text_ne_nil cut
    rcases agrees.step moved whole cutNew with ⟨again, movedToo, wholeToo, sameKind, agreesAfter⟩
    rw [← reread.written_eq] at movedToo
    exact .cons movedToo wholeToo (sameKind.trans kind_eq) (readsNew _ agreesAfter)

section Chain

variable {head : Piece} {run : List Piece} (reads : ReadsPieces first (head :: (run ++ olds)))
  (negation : head.kind = .booleanNot) (inside : ∀ piece ∈ run, goesOnChain piece.kind = true)

include reads negation inside

/-- A scan of a chain goes on behind it as one of plain code. -/
theorem exists_plain : first.mode = .code ∧
    ∃ after : Scanner, after.Plain first.nesting ∧ ReadsPieces after olds := by
  rcases reads.cons_inv with ⟨move, moved, -, kind_eq, later⟩
  have plainCode : isPlainCode move.kind = true := by
    rw [kind_eq, negation]
    rfl
  exact ⟨(reads.of_negation negation).1, later.skip_plain
    (first.plain_advance moved plainCode head.text)
    fun piece member => passed_of_goesOnChain (inside piece member)⟩

/-- Past a chain that a cast takes the place of. -/
theorem cast (ih : ∀ after : Scanner, ReadsPieces after olds → RereadFrom after olds news) :
    RereadFrom first (head :: (run ++ olds)) (⟨.boolCast, "(bool)".toList⟩ :: news) := by
  rcases exists_plain reads negation inside with ⟨code, after, plainAfter, readsOlds⟩
  rcases ih after readsOlds with ⟨pieces, reread, readsNew⟩
  refine ⟨_, reread.cast negation inside, fun second agrees => ?_⟩
  have codeToo : second.mode = .code := agrees.mode_eq ▸ code
  have cut : stride? second.mode ("(bool)".toList ++ written pieces) =
      some ("(bool)".toList.length, .code) := by
    rw [codeToo, stride?_boolCast]
    rfl
  rcases second.exists_move_of_stride? _ cut with ⟨again, moved, whole, -⟩
  have cast : again.kind = .boolCast := by
    rw [second.kind_eq_kindAlone moved whole, Scanner.kindAlone_boolCast codeToo]
  have plainCast : isPlainCode again.kind = true := by
    rw [cast]
    rfl
  have plainAgain := second.plain_advance moved plainCast "(bool)".toList
  rw [← agrees.nesting_eq] at plainAgain
  exact .cons moved whole cast (readsNew _ (plainAfter.agrees plainAgain))

/-- Past a chain that a negation takes the place of, and past the signs of comparison behind it. -/
theorem single (ends : ∀ next ∈ olds.head?, goesOnChain next.kind = false)
    (rest : Collapsed olds news)
    (ih : ∀ {back newBack : List Piece} {after : Scanner}, back.length ≤ olds.length →
      Collapsed back newBack → ReadsPieces after back → RereadFrom after back newBack) :
    RereadFrom first (head :: (run ++ olds)) (⟨.booleanNot, ['!']⟩ :: news) := by
  rcases exists_plain reads negation inside with ⟨code, after, plainAfter, readsOlds⟩
  let signs := olds.takeWhile comparingHead
  let back := olds.dropWhile comparingHead
  have olds_eq : olds = signs ++ back := List.takeWhile_append_dropWhile.symm
  have heads : ∀ piece ∈ signs, comparingHead piece = true :=
    fun piece member => List.mem_takeWhile_imp member
  have shorter : back.length ≤ olds.length := List.length_dropWhile_le ..
  rw [olds_eq] at readsOlds rest ends ⊢
  rcases readsOlds.skip_comparing plainAfter heads with ⟨about, last, plainLast, readsBack⟩
  have unnegated : ∀ piece ∈ signs, piece.kind ≠ .booleanNot := by
    intro piece member
    rcases about piece member with ⟨entry, listed, rfl⟩
    exact comparisons_unnegated entry listed (heads _ member)
  rcases rest.keep_inv unnegated with ⟨newBack, rfl, restBack⟩
  rcases ih shorter restBack readsBack with ⟨pieces, reread, readsNew⟩
  have stops := restBack.stops_comparing readsBack fun piece found => by
    have refused := List.head?_dropWhile_not comparingHead olds
    rw [Option.mem_def.mp found] at refused
    have refused : comparingHead piece = false := refused
    intro char head_eq
    rw [Bool.eq_false_iff] at refused ⊢
    exact fun sign => refused (comparingHead_iff.mpr ⟨char, head_eq, sign⟩)
  rcases exists_reread_negation negation inside ends about heads stops reread with
    ⟨found, rereadFound, readsFound⟩
  refine ⟨found, rereadFound, fun second agrees => ?_⟩
  refine readsFound second (agrees.mode_eq ▸ code) fun again plainAgain => ?_
  rw [← agrees.nesting_eq] at plainAgain
  exact readsNew again (plainLast.agrees plainAgain)

end Chain

end RereadFrom

/-- The new text is read as such pieces by every scan that agrees with the one of the old text. -/
theorem rereadFrom (collapsed : Collapsed olds news) (reads : ReadsPieces first olds) :
    RereadFrom first olds news := by
  induction length_eq : olds.length using Nat.strong_induction_on
    generalizing olds news first with
  | h length ih =>
      subst length_eq
      cases collapsed with
      | nil => exact ⟨[], ⟨rfl, rfl, id, trivial⟩, fun second _ => .nil second⟩
      | @keep piece olds news alone rest =>
          exact .keep reads rest alone fun after readsOlds =>
            ih _ (Nat.lt_succ_self _) rest readsOlds rfl
      | @chain head short run olds news negation inside ends listed rest =>
          have shorter : olds.length < (head :: (run ++ olds)).length := by
            rw [List.length_cons, List.length_append]
            omega
          simp only [shortForms, List.mem_cons, List.not_mem_nil, or_false] at listed
          rcases listed with rfl | rfl
          · exact .single reads negation inside ends rest fun back_le restBack readsBack =>
              ih _ (Nat.lt_of_le_of_lt back_le shorter) restBack readsBack rfl
          · exact .cast reads negation inside fun after readsOlds =>
              ih _ shorter rest readsOlds rfl

end Collapsed

end TokenLint.Lexer
