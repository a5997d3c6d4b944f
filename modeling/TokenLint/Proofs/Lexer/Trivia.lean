import TokenLint.Proofs.Lexer.Ends

/-!
# Trivia begin like trivia

Only two steps of the scanner cut off whitespace and comments, and each of them is taken because of
the first two characters of the text. So these characters tell whether a piece of code is trivia.
-/

namespace TokenLint.Lexer

open Text

/-- Whether a text begins like whitespace or a comment. -/
def beginsTrivia : List Char → Bool
  | '/' :: second :: _ => second == '/' || second == '*'
  | first :: _ => isSpaceOrTab first || first == '\r' || first == '\n' || first == '#'
  | [] => false

theorem beginsTrivia_cons {first : Char} (rest : List Char) (plain : first ≠ '/') :
    beginsTrivia (first :: rest) =
      (isSpaceOrTab first || first == '\r' || first == '\n' || first == '#') := by
  rw [beginsTrivia.eq_def]
  split
  · rename_i same
    cases same
    exact absurd rfl plain
  · rename_i same
    cases same
    rfl
  · rename_i same
    cases same

theorem whitespaceLength_pos_iff {chars : List Char} :
    0 < whitespaceLength chars ↔
      ∃ char ∈ chars.head?, isSpaceOrTab char = true ∨ char = '\r' ∨ char = '\n' := by
  cases chars with
  | nil => simp [whitespaceLength, runLength, lineBreakLength]
  | cons first rest =>
      simp only [whitespaceLength, runLength, List.head?_cons, Option.mem_def, Option.some.injEq,
        exists_eq_left']
      by_cases blank : isSpaceOrTab first = true
      · have longer : 0 < ((first :: rest).takeWhile isSpaceOrTab).length := by simp [blank]
        exact iff_of_true (by omega) (.inl blank)
      · simp only [List.takeWhile_cons, blank, Bool.false_eq_true, if_false, List.length_nil,
          List.drop_zero, Nat.zero_add, false_or]
        rw [lineBreakLength.eq_def]
        split <;> simp_all

/-- A text begins like trivia exactly if a step over trivia is taken there. -/
theorem beginsTrivia_iff {chars : List Char} :
    beginsTrivia chars = true ↔ ['/', '*'].isPrefixOf chars = true ∨ 0 < whitespaceLength chars ∨
      0 < lineCommentLength chars := by
  rw [whitespaceLength_pos_iff, lineCommentLength_pos_iff]
  constructor
  · intro begins
    rw [beginsTrivia.eq_def] at begins
    split at begins
    · rw [Bool.or_eq_true, beq_iff_eq, beq_iff_eq] at begins
      rcases begins with rfl | rfl
      · exact .inr (.inr (.inl rfl))
      · exact .inl rfl
    · rename_i first rest _
      simp only [Bool.or_eq_true, beq_iff_eq] at begins
      rcases begins with ((blank | rfl) | rfl) | rfl
      · exact .inr (.inl ⟨first, rfl, .inl blank⟩)
      · exact .inr (.inl ⟨_, rfl, .inr (.inl rfl)⟩)
      · exact .inr (.inl ⟨_, rfl, .inr (.inr rfl)⟩)
      · exact .inr (.inr (.inr rfl))
    · cases begins
  · simp only [List.isPrefixOf_iff_prefix]
    rintro (⟨rest, rfl⟩ | ⟨char, found, blank⟩ | ⟨rest, rfl⟩ | ⟨rest, rfl⟩)
    · rfl
    · rcases List.head?_eq_some_iff.mp (Option.mem_def.mp found) with ⟨rest, rfl⟩
      rcases blank with blank | rfl | rfl
      · have plain : char ≠ '/' := by
          rintro rfl
          cases blank
        rw [beginsTrivia_cons rest plain, blank]
        rfl
      · rfl
      · rfl
    · rfl
    · rfl

theorem beginsTrivia_append {piece : List Char} (rest : List Char)
    (begins : beginsTrivia piece = true) : beginsTrivia (piece ++ rest) = true := by
  rcases piece with _ | ⟨first, _ | ⟨second, piece⟩⟩
  · cases begins
  · have plain : first ≠ '/' := by
      rintro rfl
      cases begins
    rw [List.cons_append, beginsTrivia_cons _ plain]
    rw [beginsTrivia_cons _ plain] at begins
    exact begins
  · by_cases slash : first = '/'
    · subst slash
      exact begins
    · rw [List.cons_append, beginsTrivia_cons _ slash]
      rw [beginsTrivia_cons _ slash] at begins
      exact begins

theorem beginsTrivia_take {chars : List Char} {length : Nat}
    (begins : beginsTrivia chars = true) (length_ge : 2 ≤ length ∨ 0 < length ∧
      chars.head? ≠ some '/') : beginsTrivia (chars.take length) = true := by
  rcases chars with _ | ⟨first, rest⟩
  · cases begins
  · rcases length with _ | length
    · omega
    · by_cases slash : first = '/'
      · subst slash
        rcases length with _ | length
        · simp at length_ge
        · rcases rest with _ | ⟨second, rest⟩
          · cases begins
          · exact begins
      · rw [List.take_succ_cons, beginsTrivia_cons _ slash]
        rw [beginsTrivia_cons _ slash] at begins
        exact begins

theorem beginsTrivia_take_block {chars : List Char} {length : Nat}
    (opens : ['/', '*'].isPrefixOf chars = true) (found : blockCommentLength? chars = some length) :
    beginsTrivia (chars.take length) = true := by
  simp only [blockCommentLength?, Option.map_eq_some_iff] at found
  rcases found with ⟨inner, -, rfl⟩
  exact beginsTrivia_take (beginsTrivia_iff.mpr (.inl opens)) (.inl (Nat.le_add_left 2 inner))

theorem beginsTrivia_take_whitespace {chars : List Char} (positive : 0 < whitespaceLength chars) :
    beginsTrivia (chars.take (whitespaceLength chars)) = true := by
  refine beginsTrivia_take (beginsTrivia_iff.mpr (.inr (.inl positive))) (.inr ⟨positive, ?_⟩)
  rcases whitespaceLength_pos_iff.mp positive with ⟨char, found, blank⟩
  rw [Option.mem_def.mp found]
  rintro ⟨⟩
  simp [isSpaceOrTab] at blank

theorem beginsTrivia_take_lineComment {chars : List Char}
    (positive : 0 < lineCommentLength chars) :
    beginsTrivia (chars.take (lineCommentLength chars)) = true := by
  apply beginsTrivia_take (beginsTrivia_iff.mpr (.inr (.inr positive)))
  rcases lineCommentLength_pos_iff.mp positive with slashes | hash
  · rcases List.isPrefixOf_iff_prefix.mp slashes with ⟨tail, rfl⟩
    left
    simp [lineCommentLength]
  · rcases List.isPrefixOf_iff_prefix.mp hash with ⟨tail, rfl⟩
    exact .inr ⟨positive, by simp⟩

theorem isTrivia_readOperator (nesting : Nesting) (previous : Option TokenKind)
    (kind : TokenKind) : (nesting.readOperator previous kind).1.isTrivia = kind.isTrivia := by
  simp only [Nesting.readOperator]
  split
  · rfl
  · rfl
  · split <;> rfl
  · rfl
  · rfl
  · split <;> rfl
  · split <;> rfl
  · split
    · split <;> rfl
    · rfl
  · rfl
  · rfl

theorem keywords_bear : ∀ entry ∈ keywords, entry.2.isTrivia = false := by decide

theorem castNames_bear : ∀ entry ∈ castNames, entry.2.isTrivia = false := by decide

theorem operators_bear : ∀ entry ∈ operators, entry.2.isTrivia = false := by decide

namespace Scanner

variable (scanner : Scanner) {rest : List Char} {move : Move}

theorem of_plainMove {kind : TokenKind} {length : Nat}
    (moved : scanner.plainMove rest kind length = .ok move) :
    move.kind = kind ∧ move.length = length := by
  simp only [plainMove] at moved
  split at moved
  · cases moved
    exact ⟨rfl, rfl⟩
  · cases moved

theorem isTrivia_operatorMove {kind : TokenKind} {length : Nat}
    (moved : scanner.operatorMove rest kind length = .ok move) :
    move.kind.isTrivia = kind.isTrivia := by
  simp only [operatorMove] at moved
  split at moved
  · cases moved
    exact isTrivia_readOperator _ _ _
  · cases moved

theorem isTrivia_plainMove {kind : TokenKind} {length : Nat}
    (moved : scanner.plainMove rest kind length = .ok move) :
    move.kind.isTrivia = kind.isTrivia := by
  rw [(scanner.of_plainMove moved).1]

theorem isTrivia_wordKind (word : String) : (scanner.wordKind word).isTrivia = false := by
  simp only [wordKind]
  split
  · rfl
  · cases found : keywords.lookup (lower word) with
    | none => rfl
    | some kind =>
        rcases List.lookup_eq_some_iff.mp found with ⟨before, after, keywords_eq, -⟩
        apply keywords_bear (lower word, kind)
        rw [keywords_eq]
        exact List.mem_append_right _ (List.mem_cons_self ..)

theorem isTrivia_castMove {name : String} {length : Nat}
    (moved : scanner.castMove rest name length = .ok move) : move.kind.isTrivia = false := by
  simp only [castMove] at moved
  split at moved
  · rename_i kind found
    rcases List.lookup_eq_some_iff.mp found with ⟨before, after, castNames_eq, -⟩
    refine (scanner.isTrivia_plainMove moved).trans (castNames_bear (lower name, kind) ?_)
    rw [castNames_eq]
    exact List.mem_append_right _ (List.mem_cons_self ..)
  · cases moved

theorem isTrivia_heredocMove (moved : scanner.heredocMove rest = .ok move) :
    move.kind.isTrivia = false := by
  simp only [heredocMove] at moved
  split at moved
  · exact scanner.isTrivia_operatorMove moved
  · split at moved
    · exact scanner.isTrivia_plainMove moved
    · cases moved

theorem isTrivia_wordMove (moved : scanner.wordMove rest = .ok move) :
    move.kind.isTrivia = false := by
  simp only [wordMove] at moved
  split at moved
  · exact scanner.isTrivia_plainMove moved
  split at moved
  · exact scanner.isTrivia_castMove moved
  split at moved
  · exact scanner.isTrivia_plainMove moved
  split at moved
  · exact scanner.isTrivia_plainMove moved
  split at moved
  · exact scanner.isTrivia_plainMove moved
  split at moved
  · rw [scanner.isTrivia_plainMove moved]
    split <;> rfl
  split at moved
  · exact scanner.isTrivia_plainMove moved
  split at moved
  · exact (scanner.isTrivia_plainMove moved).trans (scanner.isTrivia_wordKind _)
  split at moved
  · rename_i sign kind found
    exact (scanner.isTrivia_operatorMove moved).trans
      (operators_bear _ (List.mem_of_find?_eq_some found))
  · cases moved

end Scanner

/-- A piece that is no trivia and is cut off where no trivia begin does not begin like trivia. -/
theorem beginsTrivia_take_eq_false {rest : List Char} (length : Nat)
    (absent : beginsTrivia rest ≠ true) : beginsTrivia (rest.take length) = false := by
  rw [← Bool.not_eq_true]
  intro begins
  apply absent
  have := beginsTrivia_append (rest.drop length) begins
  rwa [List.take_append_drop] at this

/-- The kind that a step in code gives is that of trivia exactly if its piece begins like trivia. -/
theorem Scanner.isTrivia_codeMove {scanner : Scanner} {rest : List Char} {move : Move}
    (moved : scanner.codeMove rest = .ok move) :
    move.kind.isTrivia = beginsTrivia (rest.take move.length) := by
  simp only [codeMove] at moved
  split at moved
  · rename_i closes
    rcases List.isPrefixOf_iff_prefix.mp (closeTagLength_pos_iff.mp closes) with ⟨tail, rfl⟩
    cases moved
    exact (beginsTrivia_take_eq_false _ (by simp [beginsTrivia, isSpaceOrTab])).symm
  split at moved
  · rename_i starts
    rcases List.isPrefixOf_iff_prefix.mp starts with ⟨tail, rfl⟩
    rw [scanner.isTrivia_heredocMove moved]
    exact (beginsTrivia_take_eq_false _ (by simp [beginsTrivia, isSpaceOrTab])).symm
  split at moved
  · rename_i opens
    split at moved
    · cases moved
    · rename_i length found
      rw [scanner.isTrivia_plainMove moved, (scanner.of_plainMove moved).2,
        beginsTrivia_take_block opens found]
      split <;> rfl
  split at moved
  · rename_i positive
    rw [scanner.isTrivia_plainMove moved, (scanner.of_plainMove moved).2,
      beginsTrivia_take_whitespace positive]
    rfl
  split at moved
  · rename_i positive
    rw [scanner.isTrivia_plainMove moved, (scanner.of_plainMove moved).2,
      beginsTrivia_take_lineComment positive]
    rfl
  · rename_i noBlock noSpace noLine
    rw [scanner.isTrivia_wordMove moved]
    apply (beginsTrivia_take_eq_false _ _).symm
    rw [ne_eq, beginsTrivia_iff]
    rintro (block | space | line)
    · exact noBlock block
    · exact noSpace space
    · exact noLine line

/-! ### The steps over trivia -/

theorem stride?_code_of_block {chars : List Char} (opens : ['/', '*'].isPrefixOf chars = true) :
    stride? .code chars = (blockCommentLength? chars).map (·, .code) := by
  rcases List.isPrefixOf_iff_prefix.mp opens with ⟨tail, rfl⟩
  rfl

theorem stride?_code_of_whitespace {chars : List Char} (positive : 0 < whitespaceLength chars) :
    stride? .code chars = some (whitespaceLength chars, .code) := by
  rcases whitespaceLength_pos_iff.mp positive with ⟨char, found, blank⟩
  rcases List.head?_eq_some_iff.mp (Option.mem_def.mp found) with ⟨tail, rfl⟩
  have plain : char ≠ '?' ∧ char ≠ '<' ∧ char ≠ '/' := by
    refine ⟨?_, ?_, ?_⟩ <;> rintro rfl <;> simp [isSpaceOrTab] at blank
  have noTag : ¬0 < closeTagLength (char :: tail) := by
    rw [closeTagLength_pos_iff, closesTag_iff]
    exact fun closes => plain.1 closes.1
  simp [stride?, codeLength?, noTag, positive, List.isPrefixOf_cons_cons, plain.2.1.symm,
    plain.2.2.symm]

theorem stride?_code_of_lineComment {chars : List Char} (positive : 0 < lineCommentLength chars) :
    stride? .code chars = some (lineCommentLength chars, .code) := by
  rcases lineCommentLength_pos_iff.mp positive with slashes | hash
  · rcases List.isPrefixOf_iff_prefix.mp slashes with ⟨tail, rfl⟩
    rw [List.cons_append, List.cons_append, List.nil_append] at positive ⊢
    have noSpace : whitespaceLength ('/' :: '/' :: tail) = 0 := rfl
    have noTag : closeTagLength ('/' :: '/' :: tail) = 0 := rfl
    simp [stride?, codeLength?, noTag, noSpace, positive]
  · rcases List.isPrefixOf_iff_prefix.mp hash with ⟨tail, rfl⟩
    rw [List.cons_append, List.nil_append] at positive ⊢
    have noSpace : whitespaceLength ('#' :: tail) = 0 := rfl
    have noTag : closeTagLength ('#' :: tail) = 0 := rfl
    simp [stride?, codeLength?, noTag, noSpace, positive]

end TokenLint.Lexer
