import TokenLint.Proofs.Stream.ShortArray

/-!
# Pieces of a new source

A source that is made from another one is told as a list of pieces with their kinds. If a scan reads
these pieces and the signs among their kinds are those of the old source, the new source is read as
the pieces, and its brackets match. Blanks and comments between the pieces have no part in what the
other pieces are settled to.
-/

namespace TokenLint

open Lexer

namespace Lexer

/-- A stretch of a text with the kind that it is read as. -/
structure Piece where
  kind : TokenKind
  text : List Char
  deriving DecidableEq

/-- The text that pieces write. -/
def written (pieces : List Piece) : List Char := pieces.flatMap Piece.text

@[simp]
theorem written_nil : written [] = [] := rfl

@[simp]
theorem written_cons (piece : Piece) (pieces : List Piece) :
    written (piece :: pieces) = piece.text ++ written pieces := rfl

@[simp]
theorem written_append (front back : List Piece) :
    written (front ++ back) = written front ++ written back := List.flatMap_append

theorem written_eq_flatten (pieces : List Piece) :
    written pieces = (pieces.map Piece.text).flatten := List.flatMap_def ..

/-- A lexeme without its position. -/
def pieceOf (lexeme : Lexeme) : Piece := ⟨lexeme.kind, lexeme.content.toList⟩

theorem map_kind_pieceOf (lexemes : List Lexeme) :
    (lexemes.map pieceOf).map Piece.kind = lexemes.map Lexeme.kind := List.map_map

theorem written_map_pieceOf (lexemes : List Lexeme) :
    written (lexemes.map pieceOf) = spelled lexemes := List.flatMap_map ..

/-- Whether a scan from a state on reads some pieces. -/
def ReadsPieces (scanner : Scanner) (pieces : List Piece) : Prop :=
  ReadsKinds scanner (pieces.map Piece.text) (pieces.map Piece.kind)

theorem Scans.readsPieces {scanner : Scanner} {lexemes : List Lexeme}
    (scans : Scans scanner lexemes) : ReadsPieces scanner (lexemes.map pieceOf) := by
  simpa [ReadsPieces, Scans, Function.comp_def, pieceOf] using scans

namespace ReadsPieces

variable {scanner : Scanner} {piece : Piece} {pieces : List Piece}

theorem nil (scanner : Scanner) : ReadsPieces scanner [] := ReadsKinds.nil scanner

theorem cons {move : Move} (moved : scanner.move (piece.text ++ written pieces) = .ok move)
    (whole : move.length = piece.text.length) (kind_eq : move.kind = piece.kind)
    (later : ReadsPieces (scanner.advance move piece.text) pieces) :
    ReadsPieces scanner (piece :: pieces) := by
  rw [written_eq_flatten] at moved
  rw [ReadsPieces, List.map_cons, List.map_cons, ← kind_eq]
  exact .cons moved whole later

theorem cons_inv (reads : ReadsPieces scanner (piece :: pieces)) :
    ∃ move : Move, scanner.move (piece.text ++ written pieces) = .ok move ∧
      move.length = piece.text.length ∧ move.kind = piece.kind ∧
      ReadsPieces (scanner.advance move piece.text) pieces := by
  rw [ReadsPieces, List.map_cons, List.map_cons] at reads
  generalize kind_eq : piece.kind = kind at reads
  cases reads with
  | cons moved whole later =>
      rw [← written_eq_flatten] at moved
      exact ⟨_, moved, whole, rfl, later⟩

theorem text_ne_nil (reads : ReadsPieces scanner (piece :: pieces)) : piece.text ≠ [] := by
  rcases reads.cons_inv with ⟨move, -, whole, -⟩
  exact List.length_pos_iff.mp (whole ▸ move.length_pos)

theorem cuts (reads : ReadsPieces scanner pieces) : Cuts scanner.mode (pieces.map Piece.text) := by
  induction pieces generalizing scanner with
  | nil => exact .nil _
  | cons piece pieces ih =>
      rcases reads.cons_inv with ⟨move, moved, whole, -, later⟩
      have cut := scanner.stride?_of_move _ moved
      rw [whole, written_eq_flatten] at cut
      exact .cons cut (ih later)

/-- A text of pieces that a scan reads is read as these pieces. -/
theorem exists_lex (reads : ReadsPieces .start pieces) :
    ∃ found, lex (String.ofList (written pieces)) = .ok (settle found) ∧
      found.map pieceOf = pieces ∧ Scans .start found := by
  rcases reads.cuts.exists_lex with ⟨lexemes, lexed, pieces_eq⟩
  rw [← written_eq_flatten] at lexed
  rcases exists_readsKinds_of_lex lexed with ⟨found, rfl, found_reads⟩
  have texts_eq : (settle found).map (fun lexeme => lexeme.content.toList) =
      pieces.map Piece.text := by
    have chars_eq := congrArg (List.map String.toList) pieces_eq
    simpa [Function.comp_def] using chars_eq
  have contents_eq := congrArg (List.map String.toList) (map_content_settle found)
  simp only [List.map_map, Function.comp_def] at contents_eq
  rw [contents_eq] at texts_eq found_reads
  have kinds_eq : found.map Lexeme.kind = pieces.map Piece.kind := by
    rw [texts_eq] at found_reads
    refine found_reads.eq_of_exchanged reads ⟨rfl, rfl, rfl⟩ rfl ?_
    intro index piece name kind old new _
    exact .inl (Option.some.inj (old.symm.trans new))
  refine ⟨found, lexed, ?_, found_reads⟩
  apply List.ext_getElem?
  intro index
  have kind_at := congrArg (fun kinds : List TokenKind => kinds[index]?) kinds_eq
  have text_at := congrArg (fun texts : List (List Char) => texts[index]?) texts_eq
  simp only [List.getElem?_map] at kind_at text_at ⊢
  cases here : found[index]? <;> cases there : pieces[index]? <;>
    simp_all [pieceOf]

end ReadsPieces

/-! ### Signs -/

theorem foldlM_passSign_filterMap (kinds : List TokenKind) (stack : List String) :
    (kinds.map signOf?).foldlM passSign stack =
      ((kinds.filterMap signOf?).map some).foldlM passSign stack := by
  induction kinds generalizing stack with
  | nil => rfl
  | cons kind kinds ih =>
      rw [List.map_cons, List.foldlM_cons, List.filterMap_cons]
      cases shows : signOf? kind with
      | none =>
          rw [← ih]
          rfl
      | some sign =>
          simp only [List.map_cons, List.foldlM_cons]
          exact congrArg _ (funext ih)

/-! ### Code among trivia -/

/-- The kinds of code among some lexemes. -/
def codeKinds (lexemes : List Lexeme) : List TokenKind :=
  (lexemes.map Lexeme.kind).filter fun kind => !kind.isTrivia

theorem firstCodeKind_eq_codeKinds (lexemes : List Lexeme) (pastReference : Bool) :
    firstCodeKind lexemes pastReference =
      match codeKinds lexemes with
      | [] => none
      | kind :: rest => if pastReference && kind = .bitwiseAnd then rest.head? else some kind := by
  rw [firstCodeKind_eq, codeKinds]
  generalize lexemes.map Lexeme.kind = kinds
  induction kinds with
  | nil => rfl
  | cons kind kinds ih =>
      cases trivia : kind.isTrivia with
      | true => simpa [trivia] using ih
      | false => simp [trivia, List.head?_filter]

/-- What a kind is settled to depends on the code behind it. -/
theorem settledKind_congr {lexemes others : List Lexeme}
    (same : codeKinds lexemes = codeKinds others) (kind : TokenKind) :
    settledKind kind lexemes = settledKind kind others := by
  have first : ∀ pastReference, firstCodeKind lexemes pastReference =
      firstCodeKind others pastReference := by
    intro pastReference
    rw [firstCodeKind_eq_codeKinds, firstCodeKind_eq_codeKinds, same]
  simp only [settledKind, first]

end Lexer

/-- The signs of kinds whose brackets all match close what they open. -/
theorem closes_of_strict {kinds : List TokenKind} (strict : Strict kinds) :
    (kinds.map signOf?).foldlM passSign [] = some [] := by
  have reached : ∀ left index, index + left = kinds.length →
      ((kinds.drop index).map signOf?).foldlM passSign (awaited kinds [] index) = some [] := by
    intro left
    induction left with
    | zero =>
        rintro index rfl
        rw [List.drop_length, awaited, level_length]
        rfl
    | succ left ih =>
        intro index length_eq
        have inside : index < kinds.length := by omega
        have found : kinds[index]? = some kinds[index] := List.getElem?_eq_getElem inside
        rw [List.drop_eq_getElem_cons inside, List.map_cons, List.foldlM_cons,
          passSign_awaited strict found (fun _ listed => absurd listed List.not_mem_nil)]
        exact ih (index + 1) (by omega)
  have whole := reached kinds.length 0 (Nat.zero_add _)
  rwa [List.drop_zero, awaited, level_zero] at whole

namespace TokenStream

/-- A text of pieces that a scan reads is read as a stream, if the signs among them are those of a
source whose brackets all match. -/
theorem exists_tokenize_of_reads {scanned : List Lexeme} {pieces : List Piece}
    (strict : Strict ((settle scanned).map Lexeme.kind)) (reads : ReadsPieces .start pieces)
    (signs : (pieces.map Piece.kind).filterMap signOf? =
      (scanned.map Lexeme.kind).filterMap signOf?) :
    ∃ found, tokenize (String.ofList (written pieces)) = .ok (ofLexemes (settle found)) ∧
      lex (String.ofList (written pieces)) = .ok (settle found) ∧ found.map pieceOf = pieces ∧
      Scans .start found ∧ Strict ((settle found).map Lexeme.kind) := by
  rcases reads.exists_lex with ⟨found, lexed, pieces_eq, scans⟩
  have complete : (ofLexemes (settle found)).unmatched = [] := by
    have kinds_eq : found.map Lexeme.kind = pieces.map Piece.kind := by
      rw [← pieces_eq, map_kind_pieceOf]
    have closes := closes_of_strict strict
    rw [map_signOf?_settle, foldlM_passSign_filterMap, ← signs, ← kinds_eq,
      ← foldlM_passSign_filterMap, ← map_signOf?_settle] at closes
    exact unmatched_eq_nil_of_closes lexed closes
  have read := tokenize_of_lex lexed complete
  refine ⟨found, read, lexed, pieces_eq, scans, ?_⟩
  rcases strict_of_tokenize read with ⟨others, same, strict⟩
  rwa [← map_lexeme_ofLexemes others, ← same, map_lexeme_ofLexemes] at strict

/-! ### Kinds once it is known what follows -/

section Settled

variable {scanned : List Lexeme} {index : Nat}

/-- Kinds that are given once it is known what follows. -/
def isSettled : TokenKind → Bool
  | .kwFunction | .closure | .kwArray | .arrayHint => true
  | _ => false

theorem settledKind_eq_iff {kind other : TokenKind} {following : List Lexeme}
    (plain : isSettled other = false) : settledKind kind following = other ↔ kind = other := by
  have apart : ∀ settled, isSettled settled = true → settled ≠ other := by
    rintro settled isSettled rfl
    rw [plain] at isSettled
    cases isSettled
  simp only [settledKind]
  split
  · split <;> exact iff_of_false (apart _ rfl) (apart _ rfl)
  · split <;> exact iff_of_false (apart _ rfl) (apart _ rfl)
  · rfl

theorem hasKind_settle_iff {kind : TokenKind} {lexeme : Lexeme} (plain : isSettled kind = false)
    (here : scanned[index]? = some lexeme) :
    (ofLexemes (settle scanned)).hasKind index kind = true ↔ lexeme.kind = kind := by
  rw [hasKind, kind?_ofLexemes, beq_iff_eq, kind?_settle, here, Option.map_some,
    Option.some.injEq, settledKind_eq_iff plain]

theorem hasKind_piece {kind : TokenKind} {piece : Piece} (plain : isSettled kind = false)
    (here : (scanned.map pieceOf)[index]? = some piece) :
    (ofLexemes (settle scanned)).hasKind index kind = true ↔ piece.kind = kind := by
  rw [List.getElem?_map, Option.map_eq_some_iff] at here
  rcases here with ⟨lexeme, here, rfl⟩
  exact hasKind_settle_iff plain here

/-- Trivia stay trivia. -/
theorem kindIs_isTrivia_piece {piece : Piece}
    (here : (scanned.map pieceOf)[index]? = some piece) :
    (ofLexemes (settle scanned)).kindIs index TokenKind.isTrivia = piece.kind.isTrivia := by
  rw [List.getElem?_map, Option.map_eq_some_iff] at here
  rcases here with ⟨lexeme, here, rfl⟩
  rw [kindIs, kind?_ofLexemes, kind?_settle, here, Option.map_some, Option.any_some,
    isTrivia_settledKind]
  rfl

end Settled

end TokenStream

end TokenLint
