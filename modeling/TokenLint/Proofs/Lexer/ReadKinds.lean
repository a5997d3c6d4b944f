import TokenLint.Proofs.Lexer.Alone
import TokenLint.Proofs.Lexer.Edited

/-!
# The kinds that a scan reads

A scan of a text that is cut into pieces gives one kind to each of them. Two scans that go side by
side give the same kinds as long as they agree on what is open and on the last code lexeme, and
they go on agreeing where their pieces are the same or are words that are no keywords.
-/

namespace TokenLint.Lexer

open Text

/-- Whether a scan that goes on from a state cuts a text into pieces and gives them these kinds. -/
inductive ReadsKinds : Scanner → List (List Char) → List TokenKind → Prop where
  | nil (scanner : Scanner) : ReadsKinds scanner [] []
  | cons {scanner : Scanner} {piece : List Char} {pieces : List (List Char)} {move : Move}
      {kinds : List TokenKind} (moved : scanner.move (piece ++ pieces.flatten) = .ok move)
      (whole : move.length = piece.length)
      (later : ReadsKinds (scanner.advance move piece) pieces kinds) :
      ReadsKinds scanner (piece :: pieces) (move.kind :: kinds)

/-- A scan of a text that can be cut into pieces gives kinds to these pieces. -/
theorem Cuts.exists_readsKinds {mode : Mode} {pieces : List (List Char)} (cuts : Cuts mode pieces)
    (scanner : Scanner) (mode_eq : scanner.mode = mode) :
    ∃ kinds, ReadsKinds scanner pieces kinds ∧
      (scanner.run pieces.flatten).lexemes.map Lexeme.kind =
        scanner.emitted.reverse.map Lexeme.kind ++ kinds := by
  induction cuts generalizing scanner with
  | nil mode => exact ⟨[], .nil scanner, by simp [Scanner.run]⟩
  | cons cut later ih =>
      rename_i mode next piece rest
      subst mode_eq
      rw [← Scanner.stride_move, Option.map_eq_some_iff] at cut
      rcases cut with ⟨move, moved, stride_eq⟩
      cases step : scanner.move (piece ++ rest.flatten) with
      | error failure =>
          rw [step] at moved
          cases moved
      | ok found =>
          rw [step] at moved
          cases moved
          simp only [Move.stride, Prod.mk.injEq] at stride_eq
          rcases stride_eq with ⟨length_eq, rfl⟩
          rcases ih (scanner.advance move piece) rfl with ⟨kinds, reads, kinds_eq⟩
          refine ⟨move.kind :: kinds, .cons step length_eq reads, ?_⟩
          cases piece with
          | nil =>
              have := move.length_pos
              simp at length_eq
              omega
          | cons first tail =>
              rw [List.flatten_cons, List.cons_append, Scanner.run]
              rw [List.cons_append] at step
              simp only [step]
              rw [length_eq, ← List.cons_append, List.take_left, List.drop_left, kinds_eq]
              simp [Scanner.advance]

/-- The mode behind a piece is decided by the piece. -/
theorem eq_of_stride? {mode next other : Mode} {piece rest tail : List Char}
    (cut : stride? mode (piece ++ rest) = some (piece.length, next))
    (again : stride? mode (piece ++ tail) = some (piece.length, other)) : next = other := by
  have leads : ∀ {rest tail : List Char} {next other : Mode},
      stride? mode (piece ++ rest) = some (piece.length, next) →
      stride? mode (piece ++ tail) = some (piece.length, other) → next ≠ mode → other = next := by
    intro rest tail next other cut again turns
    cases mode with
    | markup =>
        have opens : 0 < openTagLength (piece ++ rest) := by
          by_contra absent
          simp only [stride?, absent, if_false] at cut
          split at cut
          · exact turns (Prod.mk.inj (Option.some.inj cut)).2.symm
          · cases cut
        simp only [stride?, opens, if_true, Option.some.injEq, Prod.mk.injEq] at cut
        have alone := openTagLength_of_append (Nat.le_of_eq cut.1)
        have goesOn := openTagLength_append_pos tail (alone ▸ opens)
        simp only [stride?, goesOn, if_true, Option.some.injEq, Prod.mk.injEq] at again
        exact again.2.symm.trans cut.2
    | code =>
        cases next with
        | code => exact absurd rfl turns
        | markup =>
            have closes : 0 < closeTagLength (piece ++ rest) := by
              by_contra absent
              simp [stride?, absent] at cut
            simp only [stride?, closes, if_true, Option.some.injEq, Prod.mk.injEq] at cut
            have goesOn : 0 < closeTagLength (piece ++ tail) := by
              have alone := closeTagLength_pos_of_append closes cut.1
              rw [closeTagLength_pos_iff, List.isPrefixOf_iff_prefix] at alone ⊢
              exact alone.trans (List.prefix_append _ _)
            simp only [stride?, goesOn, if_true, Option.some.injEq, Prod.mk.injEq] at again
            exact again.2.symm
  by_cases turns : next = mode
  · by_cases turnsToo : other = mode
    · exact turns.trans turnsToo.symm
    · exact leads again cut turnsToo
  · exact (leads cut again turns).symm

/-- A name does not lead out of code. -/
theorem IsName.eq_code_of_stride? {name rest : List Char} {length : Nat} {next : Mode}
    (isName : IsName name) (cut : stride? .code (name ++ rest) = some (length, next)) :
    next = .code := by
  have noTag : ¬0 < closeTagLength (name ++ rest) := by
    rw [closeTagLength_pos_iff]
    cases name with
    | nil => exact absurd rfl isName.ne_nil
    | cons first tail =>
        rw [List.cons_append, closesTag_iff]
        rintro ⟨rfl, -⟩
        exact absurd isName.1 (by decide)
  simp only [stride?, noTag, if_false, Option.map_eq_some_iff, Prod.mk.injEq] at cut
  rcases cut with ⟨_, -, -, code⟩
  exact code.symm

namespace Scanner

/-- Trivia are passed over. -/
theorem lastCodeKind_advance (scanner : Scanner) (move : Move) (piece : List Char) :
    (scanner.advance move piece).lastCodeKind =
      if move.kind.isTrivia then scanner.lastCodeKind else some move.kind := by
  simp only [lastCodeKind, advance]
  by_cases trivia : move.kind.isTrivia = true
  · rw [List.find?_cons_of_neg (by simp [trivia]), if_pos trivia]
  · rw [List.find?_cons_of_pos (by simp [trivia]), if_neg trivia]
    rfl

/-- What the last code has to do with the next word or sign: whether a word is a plain name, a
question mark belongs to a type, and a square bracket is an index. -/
def lastTraits (scanner : Scanner) : Bool × Bool × Bool :=
  (scanner.lastCodeKind.any keepsName, scanner.lastCodeKind.any startsNullable,
    scanner.lastCodeKind.any isIndexable)

theorem lastTraits_advance (scanner : Scanner) (move : Move) (piece : List Char) :
    (scanner.advance move piece).lastTraits =
      if move.kind.isTrivia then scanner.lastTraits
      else (keepsName move.kind, startsNullable move.kind, isIndexable move.kind) := by
  rw [lastTraits, lastCodeKind_advance]
  split <;> rfl

/-- Whether two scans stand in one mode, have the same brackets and question marks open, and go on
in the same way behind the last code. -/
structure Agrees (first second : Scanner) : Prop where
  mode_eq : first.mode = second.mode
  nesting_eq : first.nesting = second.nesting
  last_eq : first.lastTraits = second.lastTraits

namespace Agrees

variable {first second : Scanner} (agrees : first.Agrees second)

include agrees

theorem kindAlone_eq (piece : List Char) : first.kindAlone piece = second.kindAlone piece := by
  have traits := agrees.last_eq
  simp only [lastTraits, Prod.mk.injEq] at traits
  refine kindAlone_related (fun _ => rfl) ?_ agrees.mode_eq traits.1 piece
  intro kind
  rw [agrees.nesting_eq]
  cases kind <;> simp only [Nesting.readOperator, traits.2.1, traits.2.2]

theorem advance {text other : List Char} {move again : Move} (moved : first.move text = .ok move)
    (movedToo : second.move other = .ok again) (kind_eq : move.kind = again.kind)
    (mode_eq : move.mode = again.mode) (piece new : List Char) :
    (first.advance move piece).Agrees (second.advance again new) where
  mode_eq := mode_eq
  nesting_eq := by
    have here : move.nesting = again.nesting := by
      rw [(nesting_move moved).1, (nesting_move movedToo).1, agrees.nesting_eq, kind_eq]
    exact here
  last_eq := by
    rw [lastTraits_advance, lastTraits_advance, kind_eq, agrees.last_eq]

/-- A step that takes as many characters from another text in a scan that agrees reads the same
kind, and the scans agree behind it. -/
theorem step {text rest other : List Char} {move : Move}
    (moved : first.move (text ++ rest) = .ok move) (whole : move.length = text.length)
    (cut : stride? second.mode (text ++ other) = some (text.length, move.mode)) :
    ∃ again : Move, second.move (text ++ other) = .ok again ∧ again.length = text.length ∧
      again.kind = move.kind ∧
      (first.advance move text).Agrees (second.advance again text) := by
  rcases second.exists_move_of_stride? _ cut with ⟨again, movedToo, wholeToo, mode_eq⟩
  have kind_eq : move.kind = again.kind := by
    rw [first.kind_eq_kindAlone moved whole, second.kind_eq_kindAlone movedToo wholeToo,
      agrees.kindAlone_eq]
  exact ⟨again, movedToo, wholeToo, kind_eq.symm,
    agrees.advance moved movedToo kind_eq mode_eq.symm text text⟩

end Agrees

end Scanner

/-- Whether a name begins with a neutral letter and is no keyword. -/
structure IsPlainName (name : List Char) : Prop where
  isName : IsName name
  neutral : ∃ char ∈ neutralChars, name.head? = some char
  unlisted : keywords.lookup (lower (String.ofList name)) = none

instance : (name : List Char) → Decidable (IsName name)
  | first :: rest =>
    inferInstanceAs (Decidable (isNameStart first = true ∧ ∀ char ∈ rest, isNamePart char = true))
  | [] => .isFalse id

instance (name : List Char) : Decidable (IsPlainName name) :=
  decidable_of_iff (IsName name ∧ (∃ char ∈ neutralChars, name.head? = some char) ∧
      keywords.lookup (lower (String.ofList name)) = none)
    ⟨fun plain => ⟨plain.1, plain.2.1, plain.2.2⟩,
      fun plain => ⟨plain.isName, plain.neutral, plain.unlisted⟩⟩

namespace Scanner

variable {scanner : Scanner}

/-- Where a text begins with a neutral letter, a name is read. -/
theorem move_neutral {first : Char} (neutral : first ∈ neutralChars) (rest : List Char)
    (code : scanner.mode = .code) :
    scanner.move (first :: rest) = scanner.plainMove (first :: rest)
      (scanner.wordKind (String.ofList ((first :: rest).take (nameLength (first :: rest)))))
      (nameLength (first :: rest)) := by
  have positive : 0 < nameLength (first :: rest) := by
    have starts : ∀ char ∈ neutralChars, isNameStart char = true := by decide
    exact nameLength_pos_iff.mpr (starts first neutral)
  have others : ∀ char ∈ neutralChars, isDigit char = false ∧ char ≠ '.' := by decide
  have noInteger : ¬0 < integerLength (first :: rest) := by
    rw [integerLength_pos_iff]
    simp [(others first neutral).1]
  have noFloat : floatLength (first :: rest) = 0 := by
    have digits : digitRunLength (first :: rest) = 0 := by
      simp [digitRunLength, (others first neutral).1]
    rw [floatLength_of_unpointed (by simpa [digits] using (others first neutral).2),
      if_pos (.inl digits)]
  simp only [Scanner.move, code]
  simp only [neutralChars, List.mem_cons, List.not_mem_nil, or_false] at neutral
  rcases neutral with rfl | rfl | rfl | rfl | rfl | rfl | rfl | rfl | rfl | rfl <;>
    simp [codeMove, closeTagLength, List.isPrefixOf, whitespaceLength, runLength, isSpaceOrTab,
      lineBreakLength, lineCommentLength, wordMove, variableLength, cast?, noFloat, noInteger,
      stringLength, positive]

theorem wordKind_of_unlisted {word : String} (unlisted : keywords.lookup (lower word) = none) :
    scanner.wordKind word = .identifier := by
  simp [wordKind, unlisted]

/-- A plain name is an identifier in every context. -/
theorem kindAlone_of_isPlainName {name : List Char} (plain : IsPlainName name)
    (code : scanner.mode = .code) : scanner.kindAlone name = .identifier := by
  have whole : nameLength name = name.length := by
    simpa using nameLength_append plain.isName (stops_nil isNamePart)
  rcases plain.neutral with ⟨first, neutral, head_eq⟩
  rcases List.head?_eq_some_iff.mp head_eq with ⟨rest, rfl⟩
  rw [kindAlone, scanner.move_neutral neutral rest code, kindOfStep_plainMove, whole,
    List.take_length, if_pos (List.length_pos_of_ne_nil plain.isName.ne_nil),
    wordKind_of_unlisted plain.unlisted]

end Scanner

/-- Scans that agree give the same kinds to pieces that are kept and to plain names that take the
place of identifiers. -/
theorem ReadsKinds.eq_of_exchanged {first second : Scanner} {old new : List (List Char)}
    {kinds others : List TokenKind} (reads : ReadsKinds first old kinds)
    (readsToo : ReadsKinds second new others) (agrees : first.Agrees second)
    (length_eq : old.length = new.length)
    (keeps : ∀ (index : Nat) (piece name : List Char) (kind : TokenKind),
      old[index]? = some piece → new[index]? = some name → kinds[index]? = some kind →
        piece = name ∨ kind = .identifier ∧ IsPlainName name) : kinds = others := by
  induction reads generalizing second new others with
  | nil scanner =>
      cases readsToo with
      | nil => rfl
      | cons moved whole later => cases length_eq
  | @cons first piece pieces move kinds moved whole later ih =>
      cases readsToo with
      | nil => cases length_eq
      | @cons _ name names again others movedToo wholeToo laterToo =>
          have same : move.kind = again.kind ∧ move.mode = again.mode := by
            rcases keeps 0 piece name move.kind rfl rfl rfl with rfl | ⟨word, plain⟩
            · refine ⟨?_, ?_⟩
              · rw [first.kind_eq_kindAlone moved whole, second.kind_eq_kindAlone movedToo wholeToo,
                  agrees.kindAlone_eq]
              · have cut := first.stride?_of_move _ moved
                have cutToo := second.stride?_of_move _ movedToo
                rw [whole] at cut
                rw [wholeToo, ← agrees.mode_eq] at cutToo
                exact eq_of_stride? cut cutToo
            · rcases (first.fitsSign_move moved).word word with ⟨code, isName⟩
              rw [whole, List.take_left] at isName
              have codeToo : second.mode = .code := agrees.mode_eq.symm.trans code
              refine ⟨?_, ?_⟩
              · rw [word, second.kind_eq_kindAlone movedToo wholeToo,
                  second.kindAlone_of_isPlainName plain codeToo]
              · have cut := first.stride?_of_move _ moved
                have cutToo := second.stride?_of_move _ movedToo
                rw [code] at cut
                rw [codeToo] at cutToo
                rw [isName.eq_code_of_stride? cut, plain.isName.eq_code_of_stride? cutToo]
          have keepsLater := ih laterToo (agrees.advance moved movedToo same.1 same.2 piece name)
            (Nat.succ.inj length_eq) fun index => keeps (index + 1)
          rw [same.1, keepsLater]

/-! ### The kinds of a source -/

/-- The first kind of code of a list, looking past an `&` if asked to. -/
theorem firstCodeKind_eq (lexemes : List Lexeme) (pastReference : Bool) :
    firstCodeKind lexemes pastReference =
      match (lexemes.map Lexeme.kind).dropWhile TokenKind.isTrivia with
      | [] => none
      | kind :: rest =>
        if pastReference && kind = .bitwiseAnd then rest.find? fun kind => !kind.isTrivia
        else some kind := by
  rw [List.dropWhile_map, firstCodeKind]
  cases found : lexemes.dropWhile fun lexeme => lexeme.kind.isTrivia with
  | nil => simp [Function.comp_def, found]
  | cons first rest => simp [Function.comp_def, found, List.find?_map]

theorem map_kind_settle_cons (lexeme : Lexeme) (rest : List Lexeme) :
    (settle (lexeme :: rest)).map Lexeme.kind =
      settledKind lexeme.kind rest :: (settle rest).map Lexeme.kind := rfl

/-- The kinds of settled lexemes depend on nothing but the kinds of the lexemes. -/
theorem map_kind_settle_congr {lexemes others : List Lexeme}
    (same : lexemes.map Lexeme.kind = others.map Lexeme.kind) :
    (settle lexemes).map Lexeme.kind = (settle others).map Lexeme.kind := by
  induction lexemes generalizing others with
  | nil =>
      rw [List.map_nil, eq_comm, List.map_eq_nil_iff] at same
      rw [same]
  | cons lexeme rest ih =>
      cases others with
      | nil => cases same
      | cons other others =>
          rw [List.map_cons, List.map_cons, List.cons.injEq] at same
          rw [map_kind_settle_cons, map_kind_settle_cons, ih same.2]
          simp only [settledKind, firstCodeKind_eq, same]

theorem getElem?_settle (lexemes : List Lexeme) (index : Nat) :
    (settle lexemes)[index]? = lexemes[index]?.map fun lexeme =>
      { lexeme with kind := settledKind lexeme.kind (lexemes.drop (index + 1)) } := by
  induction lexemes generalizing index with
  | nil => rfl
  | cons lexeme rest ih =>
      cases index with
      | zero => rfl
      | succ index => exact ih index

theorem settledKind_eq_identifier_iff {kind : TokenKind} {following : List Lexeme} :
    settledKind kind following = .identifier ↔ kind = .identifier := by
  simp only [settledKind]
  split
  · split <;> simp
  · split <;> simp
  · rfl

theorem Reads.cuts {mode : Mode} {lexemes : List Lexeme} (reads : Reads mode lexemes) :
    Cuts mode (lexemes.map fun lexeme => lexeme.content.toList) := by
  induction reads with
  | nil mode => exact .nil mode
  | cons cut fits later ih => exact .cons cut ih

/-- The lexemes of a source are the settled ones of a scan that gives kinds to their pieces. -/
theorem exists_readsKinds_of_lex {source : String} {lexemes : List Lexeme}
    (lexed : lex source = .ok lexemes) :
    ∃ scanned, lexemes = settle scanned ∧
      ReadsKinds .start (lexemes.map fun lexeme => lexeme.content.toList)
        (scanned.map Lexeme.kind) := by
  have spelled_eq := spelled_lex lexed
  rcases (reads_of_lex lexed).cuts.exists_readsKinds .start rfl with ⟨kinds, reads, kinds_eq⟩
  have text_eq : (lexemes.map fun lexeme => lexeme.content.toList).flatten = source.toList :=
    spelled_eq
  rw [text_eq] at kinds_eq
  simp only [lex] at lexed
  split at lexed
  · cases lexed
  · refine ⟨(scan source).lexemes, (Except.ok.inj lexed).symm, ?_⟩
    have kinds_eq : (scan source).lexemes.map Lexeme.kind = kinds := kinds_eq
    rw [kinds_eq]
    exact reads

/-- A text that differs from a source by plain names in the place of identifiers is read as
lexemes of the same kinds. -/
theorem map_kind_eq_of_exchanged {source fixed : String} {lexemes found : List Lexeme}
    (lexed : lex source = .ok lexemes) (again : lex fixed = .ok found)
    (length_eq : lexemes.length = found.length)
    (keeps : ∀ (index : Nat) (lexeme new : Lexeme), lexemes[index]? = some lexeme →
      found[index]? = some new →
        lexeme.content = new.content ∨ lexeme.kind = .identifier ∧ IsPlainName new.content.toList) :
    lexemes.map Lexeme.kind = found.map Lexeme.kind := by
  rcases exists_readsKinds_of_lex lexed with ⟨scanned, lexemes_eq, reads⟩
  rcases exists_readsKinds_of_lex again with ⟨scannedToo, found_eq, readsToo⟩
  have kinds_eq : scanned.map Lexeme.kind = scannedToo.map Lexeme.kind := by
    refine reads.eq_of_exchanged readsToo ⟨rfl, rfl, rfl⟩ (by simpa using length_eq) ?_
    intro index piece name kind piece_at name_at kind_at
    simp only [List.getElem?_map, Option.map_eq_some_iff] at piece_at name_at kind_at
    rcases piece_at with ⟨lexeme, lexeme_at, rfl⟩
    rcases name_at with ⟨new, new_at, rfl⟩
    rcases kind_at with ⟨read, read_at, rfl⟩
    rcases keeps index lexeme new lexeme_at new_at with same | ⟨word, plain⟩
    · exact .inl (congrArg String.toList same)
    · refine .inr ⟨?_, plain⟩
      rw [lexemes_eq, getElem?_settle, read_at] at lexeme_at
      cases lexeme_at
      exact settledKind_eq_identifier_iff.mp word
  rw [lexemes_eq, found_eq]
  exact map_kind_settle_congr kinds_eq

end TokenLint.Lexer
