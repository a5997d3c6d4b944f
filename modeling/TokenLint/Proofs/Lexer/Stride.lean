import TokenLint.Proofs.Lexer.Lossless
import TokenLint.Proofs.Lexer.Shape

/-!
# Where a scan cuts its text

How many characters a step of a scan takes, and whether it leaves code, depends on the text
alone. The brackets that are open and the last code lexeme only decide how a piece is
classified. `stride?` is this part of a step, `Cuts` is the cutting of a whole text by it,
and `Reads` adds for the lexemes of a source what their kinds say about their pieces.
-/

namespace TokenLint.Lexer

open Text

/-- The length of a heredoc, or of a shift operator where no heredoc starts. -/
def heredocLength? (rest : List Char) : Option Nat :=
  match heredocStart? rest with
  | none => some 2
  | some (label, startLength) =>
    (lengthToClosingLabel? label true (rest.drop startLength)).map (startLength + ·)

/-- The length of the operator at the beginning of a text. -/
def operatorLength? (rest : List Char) : Option Nat :=
  (operators.find? fun entry => entry.1.toList.isPrefixOf rest).map fun entry => entry.1.length

/-- The length of a word, a string, a number, a variable, a cast or an operator. -/
def wordLength? (rest : List Char) : Option Nat :=
  if 0 < variableLength rest then some (variableLength rest)
  else
    match cast? (castNames.map Prod.fst) rest with
    | some (name, length) => (castNames.lookup (lower name)).map fun _ => length
    | none =>
      if 0 < floatLength rest then some (floatLength rest)
      else if 0 < integerLength rest then some (integerLength rest)
      else if 0 < stringLength '\'' rest then some (stringLength '\'' rest)
      else if 0 < stringLength '"' rest then some (stringLength '"' rest)
      else if 0 < stringLength '\x60' rest then some (stringLength '\x60' rest)
      else if 0 < nameLength rest then some (nameLength rest)
      else operatorLength? rest

/-- The length of a piece of code that closes no tag. -/
def codeLength? (rest : List Char) : Option Nat :=
  if ['<', '<', '<'].isPrefixOf rest then heredocLength? rest
  else if ['/', '*'].isPrefixOf rest then blockCommentLength? rest
  else if 0 < whitespaceLength rest then some (whitespaceLength rest)
  else if 0 < lineCommentLength rest then some (lineCommentLength rest)
  else wordLength? rest

/-- The number of characters that the next step takes, and the mode after it. -/
def stride? (mode : Mode) (rest : List Char) : Option (Nat × Mode) :=
  match mode with
  | .markup =>
    if 0 < openTagLength rest then some (openTagLength rest, .code)
    else if 0 < markupLength rest then some (markupLength rest, .markup)
    else none
  | .code =>
    if 0 < closeTagLength rest then some (closeTagLength rest, .markup)
    else (codeLength? rest).map (·, .code)

/-- What a step does to the text. -/
def Move.stride (move : Move) : Nat × Mode := (move.length, move.mode)

theorem castNames_proper : "" ∉ castNames.map Prod.fst := by decide

theorem operators_proper : ∀ entry ∈ operators, 0 < entry.1.length := by decide

namespace Scanner

variable (scanner : Scanner) (rest : List Char)

theorem stride_plainMove (kind : TokenKind) (length : Nat) :
    (scanner.plainMove rest kind length).toOption.map Move.stride =
      if 0 < length then some (length, .code) else none := by
  simp only [plainMove]
  split <;> rfl

theorem stride_operatorMove (kind : TokenKind) (length : Nat) :
    (scanner.operatorMove rest kind length).toOption.map Move.stride =
      if 0 < length then some (length, .code) else none := by
  simp only [operatorMove]
  split <;> rfl

theorem stride_heredocMove :
    (scanner.heredocMove rest).toOption.map Move.stride =
      (heredocLength? rest).map (·, .code) := by
  simp only [heredocMove, heredocLength?]
  cases started : heredocStart? rest with
  | none => simp [stride_operatorMove]
  | some start =>
      rcases start with ⟨label, startLength⟩
      have positive := length_heredocStart?_pos started
      dsimp only
      cases lengthToClosingLabel? label true (rest.drop startLength) with
      | none => rfl
      | some bodyLength => simp [stride_plainMove, Nat.add_pos_left positive]

theorem stride_castMove {name : String} {length : Nat} (positive : 0 < length) :
    (scanner.castMove rest name length).toOption.map Move.stride =
      ((castNames.lookup (lower name)).map fun _ => length).map (·, .code) := by
  simp only [castMove]
  cases castNames.lookup (lower name) with
  | none => rfl
  | some kind => simp [stride_plainMove, positive]

theorem stride_wordMove :
    (scanner.wordMove rest).toOption.map Move.stride = (wordLength? rest).map (·, .code) := by
  simp only [wordMove, wordLength?, operatorLength?]
  by_cases isVariable : 0 < variableLength rest
  · simp [isVariable, stride_plainMove]
  cases cast : cast? (castNames.map Prod.fst) rest with
  | some found =>
      simp only [isVariable, if_false]
      exact stride_castMove scanner rest (length_cast?_pos castNames_proper cast)
  | none =>
      simp only [isVariable, if_false]
      by_cases isFloat : 0 < floatLength rest
      · simp [isFloat, stride_plainMove]
      by_cases isInteger : 0 < integerLength rest
      · simp [isFloat, isInteger, stride_plainMove]
      by_cases isSingle : 0 < stringLength '\'' rest
      · simp [isFloat, isInteger, isSingle, stride_plainMove]
      by_cases isDouble : 0 < stringLength '"' rest
      · simp [isFloat, isInteger, isSingle, isDouble, stride_plainMove]
      by_cases isBacktick : 0 < stringLength '\x60' rest
      · simp [isFloat, isInteger, isSingle, isDouble, isBacktick, stride_plainMove]
      by_cases isName : 0 < nameLength rest
      · simp [isFloat, isInteger, isSingle, isDouble, isBacktick, isName, stride_plainMove]
      simp only [isFloat, isInteger, isSingle, isDouble, isBacktick, isName, if_false]
      cases found : operators.find? fun entry => entry.1.toList.isPrefixOf rest with
      | none => rfl
      | some entry =>
          simp [stride_operatorMove, operators_proper entry (List.mem_of_find?_eq_some found)]

theorem stride_codeMove :
    (scanner.codeMove rest).toOption.map Move.stride = stride? .code rest := by
  simp only [codeMove, stride?, codeLength?, blockCommentLength?]
  split
  · rfl
  · split
    · exact stride_heredocMove scanner rest
    · split
      · cases lengthToCommentEnd? (rest.drop 2) with
        | none => rfl
        | some length => simp [stride_plainMove]
      · split
        · rename_i positive
          simp [stride_plainMove, positive]
        · split
          · rename_i positive
            simp [stride_plainMove, positive]
          · exact stride_wordMove scanner rest

theorem stride_move : (scanner.move rest).toOption.map Move.stride = stride? scanner.mode rest := by
  cases mode_eq : scanner.mode with
  | code =>
      simp only [move, mode_eq]
      exact stride_codeMove scanner rest
  | markup =>
      simp only [move, mode_eq, markupMove, stride?]
      split
      · rfl
      · split <;> rfl

theorem stride?_of_move {move : Move} (moved : scanner.move rest = .ok move) :
    stride? scanner.mode rest = some (move.length, move.mode) := by
  rw [← stride_move scanner rest, moved]
  rfl

theorem exists_move_of_stride? {length : Nat} {mode : Mode}
    (cut : stride? scanner.mode rest = some (length, mode)) :
    ∃ move : Move, scanner.move rest = .ok move ∧ move.length = length ∧ move.mode = mode := by
  rw [← stride_move scanner rest] at cut
  cases moved : scanner.move rest with
  | error failure =>
      rw [moved] at cut
      cases cut
  | ok move =>
      rw [moved] at cut
      cases cut
      exact ⟨move, rfl, rfl, rfl⟩

end Scanner

theorem stride?_pos {mode next : Mode} {text : List Char} {length : Nat}
    (cut : stride? mode text = some (length, next)) : 0 < length := by
  have moved := Scanner.stride_move ⟨mode, .empty, .start, []⟩ text
  rw [cut, Option.map_eq_some_iff] at moved
  rcases moved with ⟨move, -, stride_eq⟩
  rw [Move.stride, Prod.mk.injEq] at stride_eq
  exact stride_eq.1 ▸ move.length_pos

/-- Whether a scan in a mode cuts the text of some pieces into these pieces. -/
inductive Cuts : Mode → List (List Char) → Prop where
  | nil (mode : Mode) : Cuts mode []
  | cons {mode next : Mode} {piece : List Char} {rest : List (List Char)}
      (cut : stride? mode (piece ++ rest.flatten) = some (piece.length, next))
      (later : Cuts next rest) : Cuts mode (piece :: rest)

/-- A scan of a text that can be cut into pieces reads these pieces. -/
theorem Cuts.run {mode : Mode} {pieces : List (List Char)} (cuts : Cuts mode pieces)
    (scanner : Scanner) (mode_eq : scanner.mode = mode) :
    (scanner.run pieces.flatten).failure = none ∧
      (scanner.run pieces.flatten).lexemes.map (fun lexeme => lexeme.content.toList) =
        (scanner.emitted.reverse.map fun lexeme => lexeme.content.toList) ++ pieces := by
  induction cuts generalizing scanner with
  | nil mode =>
      simp [Scanner.run]
  | cons cut later ih =>
      rename_i mode next piece rest
      subst mode_eq
      rw [← Scanner.stride_move, Option.map_eq_some_iff] at cut
      rcases cut with ⟨move, moved, stride_eq⟩
      cases step : scanner.move (piece ++ rest.flatten) with
      | error failure =>
          rw [step] at moved
          cases moved
      | ok found =>
          rw [step] at moved
          cases moved
          simp only [Move.stride, Prod.mk.injEq] at stride_eq
          rcases stride_eq with ⟨length_eq, rfl⟩
          cases piece with
          | nil =>
              have := move.length_pos
              simp at length_eq
              omega
          | cons first tail =>
              have read := ih (scanner.advance move (first :: tail)) rfl
              rw [List.flatten_cons, List.cons_append, Scanner.run]
              rw [List.cons_append] at step
              simp only [step]
              rw [length_eq, ← List.cons_append, List.take_left, List.drop_left]
              refine ⟨read.1, read.2.trans ?_⟩
              simp [Scanner.advance]

theorem map_content_settle (lexemes : List Lexeme) :
    (settle lexemes).map Lexeme.content = lexemes.map Lexeme.content := by
  induction lexemes with
  | nil => rfl
  | cons lexeme rest ih => simp [settle, ih]

theorem Cuts.exists_lex {pieces : List (List Char)} (cuts : Cuts .markup pieces) :
    ∃ lexemes, lex (String.ofList pieces.flatten) = .ok lexemes ∧
      lexemes.map Lexeme.content = pieces.map String.ofList := by
  have read := cuts.run .start rfl
  refine ⟨settle (scan (String.ofList pieces.flatten)).lexemes, ?_, ?_⟩
  · simp only [lex, scan, String.toList_ofList, read.1]
  · rw [map_content_settle, scan, String.toList_ofList]
    have same := congrArg (List.map String.ofList) read.2
    simpa [Scanner.start, Function.comp_def] using same

end TokenLint.Lexer
