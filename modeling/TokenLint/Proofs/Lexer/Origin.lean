import TokenLint.Proofs.Lexer.ReadKinds

/-!
# Where kinds come from

A step takes the kind of a piece from one of three sources: most shapes have a kind of their own, a
word has the kind of its keyword unless the code in front makes it a name, and an operator has the
kind of its spelling as the brackets and the code in front read it. What a kind says about its piece
follows from the tables of words and operators.
-/

namespace TokenLint.Lexer

open Text

/-- Kinds of pieces that are neither words nor operators. -/
def shapeKinds : List TokenKind :=
  [.inlineHtml, .openTag, .openTagWithEcho, .closeTag, .whitespace, .comment, .docComment, .heredoc,
    .variable, .floatNumber, .integerNumber, .plainString, .templateString, .backtick] ++
    castNames.map Prod.snd

/-- How a piece that is cut off in the state of a scan comes to a kind. -/
inductive Origin (scanner : Scanner) (piece : List Char) : TokenKind → Prop where
  | shape {kind : TokenKind} (listed : kind ∈ shapeKinds) : Origin scanner piece kind
  | word (code : scanner.mode = .code) (isName : IsName piece) :
      Origin scanner piece (scanner.wordKind (String.ofList piece))
  | operator {spelling : String} {kind : TokenKind} (code : scanner.mode = .code)
      (listed : (spelling, kind) ∈ operators) (spelled : piece = spelling.toList) :
      Origin scanner piece (scanner.nesting.readOperator scanner.lastCodeKind kind).1

namespace Scanner

variable {scanner : Scanner} {rest : List Char} {move : Move}

theorem origin_plainMove {kind : TokenKind} {length : Nat} (listed : kind ∈ shapeKinds)
    (moved : scanner.plainMove rest kind length = .ok move) :
    Origin scanner (rest.take move.length) move.kind := by
  rw [(scanner.of_plainMove moved).1]
  exact .shape listed

theorem origin_operatorMove {spelling : String} {kind : TokenKind} (code : scanner.mode = .code)
    (listed : (spelling, kind) ∈ operators) (here : spelling.toList.isPrefixOf rest = true)
    (moved : scanner.operatorMove rest kind spelling.length = .ok move) :
    Origin scanner (rest.take move.length) move.kind := by
  simp only [operatorMove] at moved
  split at moved
  · cases moved
    rcases List.isPrefixOf_iff_prefix.mp here with ⟨tail, rfl⟩
    refine .operator code listed ?_
    exact (congrArg (List.take · _) String.length_toList.symm).trans List.take_left
  · cases moved

theorem origin_castMove {name : String} {length : Nat}
    (moved : scanner.castMove rest name length = .ok move) :
    Origin scanner (rest.take move.length) move.kind := by
  simp only [castMove] at moved
  split at moved
  · rename_i kind found
    rcases List.lookup_eq_some_iff.mp found with ⟨before, after, castNames_eq, -⟩
    refine origin_plainMove ?_ moved
    have among : (lower name, kind) ∈ castNames := by simp [castNames_eq]
    exact List.mem_append_right _ (List.mem_map.mpr ⟨_, among, rfl⟩)
  · cases moved

theorem origin_wordMove (code : scanner.mode = .code) (moved : scanner.wordMove rest = .ok move) :
    Origin scanner (rest.take move.length) move.kind := by
  simp only [wordMove] at moved
  split at moved
  · exact origin_plainMove (by decide) moved
  split at moved
  · exact origin_castMove moved
  split at moved
  · exact origin_plainMove (by decide) moved
  split at moved
  · exact origin_plainMove (by decide) moved
  split at moved
  · exact origin_plainMove (by decide) moved
  split at moved
  · refine origin_plainMove ?_ moved
    split <;> decide
  split at moved
  · exact origin_plainMove (by decide) moved
  split at moved
  · rename_i positive
    rcases scanner.of_plainMove moved with ⟨kind_eq, length_eq⟩
    rcases exists_name positive with ⟨name, tail, rfl, isName, stops⟩
    rw [nameLength_append isName stops] at kind_eq length_eq
    rw [kind_eq, length_eq, List.take_left]
    exact .word code isName
  split at moved
  · rename_i found
    exact origin_operatorMove code (List.mem_of_find?_eq_some found)
      (List.find?_some (p := fun entry : String × TokenKind => entry.1.toList.isPrefixOf rest)
        found) moved
  · cases moved

theorem wordKind_mem (scanner : Scanner) (word : String) :
    scanner.wordKind word ∈ .identifier :: keywords.map Prod.snd := by
  simp only [wordKind]
  split
  · exact List.mem_cons_self
  · cases found : keywords.lookup (lower word) with
    | none => exact List.mem_cons_self
    | some kind =>
        rcases List.lookup_eq_some_iff.mp found with ⟨before, after, keywords_eq, -⟩
        have listed : (lower word, kind) ∈ keywords := by simp [keywords_eq]
        exact List.mem_cons_of_mem _ (List.mem_map.mpr ⟨_, listed, rfl⟩)

/-- Every step takes the kind of its piece from one of the sources. -/
theorem origin_move (moved : scanner.move rest = .ok move) :
    Origin scanner (rest.take move.length) move.kind := by
  cases mode_eq : scanner.mode with
  | markup =>
      rcases scanner.kind_move_of_markup moved mode_eq with ⟨same, -⟩ | same | same <;>
        · rw [same]
          exact .shape (by decide)
  | code =>
      simp only [Scanner.move, mode_eq, codeMove] at moved
      split at moved
      · cases moved
        exact .shape (show TokenKind.closeTag ∈ shapeKinds by decide)
      split at moved
      · rename_i starts
        simp only [heredocMove] at moved
        split at moved
        · have listed : ("<<", TokenKind.shiftLeft) ∈ operators := by decide
          refine origin_operatorMove mode_eq listed ?_ moved
          rcases List.isPrefixOf_iff_prefix.mp starts with ⟨tail, rfl⟩
          rfl
        · split at moved
          · exact origin_plainMove (by decide) moved
          · cases moved
      split at moved
      · split at moved
        · cases moved
        · refine origin_plainMove ?_ moved
          split <;> decide
      split at moved
      · exact origin_plainMove (by decide) moved
      split at moved
      · exact origin_plainMove (by decide) moved
      · exact origin_wordMove mode_eq moved

end Scanner

/-- The kinds of operators in all contexts. -/
def operatorKinds : List TokenKind :=
  operators.map Prod.snd ++ [.openShortArray, .closeShortArray, .nullableMark, .ternaryElse]

/-- An operator without a sign has one kind in all contexts. -/
theorem readOperator_of_free (nesting : Nesting) (previous : Option TokenKind) {kind : TokenKind}
    (free : signOf? kind = none) : (nesting.readOperator previous kind).1 = kind := by
  simp only [Nesting.readOperator]
  split
  all_goals first | rfl | cases free

theorem readOperator_mem (nesting : Nesting) (previous : Option TokenKind) {kind : TokenKind}
    (listed : kind ∈ operatorKinds) : (nesting.readOperator previous kind).1 ∈ operatorKinds := by
  simp only [Nesting.readOperator]
  repeat' split
  all_goals first | exact listed | (dsimp only; decide)

namespace Origin

variable {scanner : Scanner} {piece : List Char} {kind : TokenKind}

theorem kind_mem (origin : Origin scanner piece kind) :
    kind ∈ shapeKinds ++ .identifier :: keywords.map Prod.snd ++ operatorKinds := by
  cases origin with
  | shape listed => exact List.mem_append_left _ (List.mem_append_left _ listed)
  | word code isName =>
      exact List.mem_append_left _ (List.mem_append_right _ (scanner.wordKind_mem _))
  | @operator spelling kind code listed spelled =>
      exact List.mem_append_right _ (readOperator_mem _ _
        (List.mem_append_left _ (List.mem_map.mpr ⟨_, listed, rfl⟩)))

/-- Where a word is kept as a name, no keyword is read. -/
theorem not_keyword (origin : Origin scanner piece kind)
    (keeps : scanner.lastCodeKind.any keepsName = true) : kind ∉ keywords.map Prod.snd := by
  cases origin with
  | shape listed =>
      have apart : ∀ kind ∈ shapeKinds, kind ∉ keywords.map Prod.snd := by decide
      exact apart kind listed
  | word code isName =>
      rw [Scanner.wordKind, if_pos keeps]
      decide
  | @operator _ kind code listed spelled =>
      have apart : ∀ kind ∈ operatorKinds, kind ∉ keywords.map Prod.snd := by decide
      exact apart _ (readOperator_mem _ _
        (List.mem_append_left _ (List.mem_map.mpr ⟨_, listed, rfl⟩)))

/-- An operator whose kind is the same in all contexts consists of a spelling of it. -/
theorem exists_spelling (origin : Origin scanner piece kind) (free : signOf? kind = none)
    (isOperator : kind ∈ operators.map Prod.snd) :
    scanner.mode = .code ∧ ∃ spelling, (spelling, kind) ∈ operators ∧ piece = spelling.toList := by
  cases origin with
  | shape listed =>
      have apart : ∀ kind ∈ shapeKinds, kind ∉ operators.map Prod.snd := by decide
      exact absurd isOperator (apart kind listed)
  | word code isName =>
      have apart : ∀ kind ∈ .identifier :: keywords.map Prod.snd,
          kind ∉ operators.map Prod.snd := by decide
      refine absurd isOperator (apart _ ?_)
      exact scanner.wordKind_mem _
  | @operator spelling kind code listed spelled =>
      rw [signOf?_readOperator] at free
      rw [readOperator_of_free _ _ free]
      exact ⟨code, spelling, listed, spelled⟩

end Origin

end TokenLint.Lexer
