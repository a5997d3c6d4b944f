import TokenLint.Proofs.Lexer.Trivia

/-!
# What kinds say about pieces

A lexeme whose kind is that of a bracket or of a ternary mark consists of this sign, and an
identifier consists of a name; both stand in code. Trivia are the pieces of code that begin like
trivia, and in markup there are only tags and text. `Reads` says this of every lexeme of a list
together with the place at which it is cut off, and the lexemes of a source are read in this way.
-/

namespace TokenLint.Lexer

open Text

/-- The sign that lexemes of a kind consist of, for brackets and the marks of ternaries. -/
def signOf? : TokenKind → Option String
  | .openParenthesis => some "("
  | .closeParenthesis => some ")"
  | .openSquare | .openShortArray => some "["
  | .closeSquare | .closeShortArray => some "]"
  | .openCurly => some "\x7b"
  | .closeCurly => some "\x7d"
  | .ternaryThen | .nullableMark => some "?"
  | .ternaryElse | .colon => some ":"
  | _ => none

/-- What the kinds of signs and names say about a piece that is cut off in a mode. -/
structure FitsSign (mode : Mode) (kind : TokenKind) (piece : List Char) : Prop where
  sign : ∀ sign, signOf? kind = some sign → mode = .code ∧ piece = sign.toList
  word : kind = .identifier → mode = .code ∧ IsName piece

/-- What a kind says about a piece that is cut off in a mode. -/
structure Fits (mode : Mode) (kind : TokenKind) (piece : List Char) : Prop
    extends FitsSign mode kind piece where
  trivia : kind.isTrivia = true ↔ mode = .code ∧ beginsTrivia piece = true
  markup : mode = .markup → kind = .inlineHtml ∧ openTagLength piece = 0 ∨ kind = .openTag ∨
    kind = .openTagWithEcho

theorem FitsSign.of_free {mode : Mode} {kind : TokenKind} {piece : List Char}
    (free : signOf? kind = none ∧ kind ≠ .identifier) : FitsSign mode kind piece :=
  ⟨fun _ found => (Option.some_ne_none _ (found.symm.trans free.1)).elim,
    fun same => absurd same free.2⟩

/-- The context decides between kinds of one sign. -/
theorem signOf?_readOperator (nesting : Nesting) (previous : Option TokenKind)
    (kind : TokenKind) : signOf? (nesting.readOperator previous kind).1 = signOf? kind := by
  simp only [Nesting.readOperator]
  split
  · rfl
  · rfl
  · split <;> rfl
  · rfl
  · rfl
  · split <;> rfl
  · split <;> rfl
  · split
    · split <;> rfl
    · rfl
  · rfl
  · rfl

theorem readOperator_ne_identifier (nesting : Nesting) (previous : Option TokenKind)
    {kind : TokenKind} (differs : kind ≠ .identifier) :
    (nesting.readOperator previous kind).1 ≠ .identifier := by
  simp only [Nesting.readOperator]
  split
  · simp
  · simp
  · split <;> simp
  · simp
  · simp
  · split <;> simp
  · split <;> simp
  · split
    · split <;> simp
    · simp
  · simp
  · exact differs

theorem operators_fit : ∀ entry ∈ operators,
    (signOf? entry.2 = none ∨ signOf? entry.2 = some entry.1) ∧ entry.2 ≠ .identifier := by
  decide

theorem castNames_free : ∀ entry ∈ castNames,
    signOf? entry.2 = none ∧ entry.2 ≠ .identifier := by
  decide

theorem keywords_free : ∀ entry ∈ keywords,
    signOf? entry.2 = none ∧ entry.2 ≠ .identifier := by
  decide

namespace Scanner

variable (scanner : Scanner) {rest : List Char} {move : Move}

theorem fitsSign_plainMove {kind : TokenKind} {length : Nat}
    (free : signOf? kind = none ∧ kind ≠ .identifier)
    (moved : scanner.plainMove rest kind length = .ok move) :
    FitsSign .code move.kind (rest.take move.length) := by
  rw [(scanner.of_plainMove moved).1]
  exact .of_free free

theorem fitsSign_operatorMove {kind : TokenKind} {sign : String}
    (fit : (signOf? kind = none ∨ signOf? kind = some sign) ∧ kind ≠ .identifier)
    (here : sign.toList.isPrefixOf rest = true)
    (moved : scanner.operatorMove rest kind sign.length = .ok move) :
    FitsSign .code move.kind (rest.take move.length) := by
  simp only [operatorMove] at moved
  split at moved
  · cases moved
    rcases List.isPrefixOf_iff_prefix.mp here with ⟨tail, rfl⟩
    refine ⟨fun other found => ⟨rfl, ?_⟩, fun same => ?_⟩
    · rw [signOf?_readOperator] at found
      rcases fit.1 with none_found | sign_found
      · rw [none_found] at found
        cases found
      · rw [sign_found] at found
        cases found
        exact (congrArg (List.take · _) String.length_toList.symm).trans List.take_left
    · exact absurd same (readOperator_ne_identifier _ _ fit.2)
  · cases moved

theorem wordKind_free (word : String) :
    scanner.wordKind word = .identifier ∨
      signOf? (scanner.wordKind word) = none ∧ scanner.wordKind word ≠ .identifier := by
  simp only [wordKind]
  split
  · exact .inl rfl
  · cases found : keywords.lookup (lower word) with
    | none => exact .inl rfl
    | some kind =>
        rcases List.lookup_eq_some_iff.mp found with ⟨before, after, keywords_eq, -⟩
        refine .inr (keywords_free (lower word, kind) ?_)
        rw [keywords_eq]
        exact List.mem_append_right _ (List.mem_cons_self ..)

theorem fitsSign_heredocMove (starts : ['<', '<', '<'].isPrefixOf rest = true)
    (moved : scanner.heredocMove rest = .ok move) :
    FitsSign .code move.kind (rest.take move.length) := by
  simp only [heredocMove] at moved
  split at moved
  · rcases List.isPrefixOf_iff_prefix.mp starts with ⟨tail, rfl⟩
    have fit := operators_fit ("<<", .shiftLeft) (by decide)
    exact scanner.fitsSign_operatorMove fit rfl moved
  · split at moved
    · exact fitsSign_plainMove scanner (by decide) moved
    · cases moved

theorem fitsSign_castMove {name : String} {length : Nat}
    (moved : scanner.castMove rest name length = .ok move) :
    FitsSign .code move.kind (rest.take move.length) := by
  simp only [castMove] at moved
  split at moved
  · rename_i kind found
    rcases List.lookup_eq_some_iff.mp found with ⟨before, after, castNames_eq, -⟩
    refine fitsSign_plainMove scanner (castNames_free (lower name, kind) ?_) moved
    rw [castNames_eq]
    exact List.mem_append_right _ (List.mem_cons_self ..)
  · cases moved

/-- A word is cut off as a name. -/
theorem fitsSign_nameMove (positive : 0 < nameLength rest)
    (moved : scanner.plainMove rest
      (scanner.wordKind (String.ofList (rest.take (nameLength rest)))) (nameLength rest) =
        .ok move) :
    FitsSign .code move.kind (rest.take move.length) := by
  rcases scanner.of_plainMove moved with ⟨kind_eq, length_eq⟩
  rcases scanner.wordKind_free (String.ofList (rest.take (nameLength rest))) with word | free
  · rcases exists_name positive with ⟨name, tail, rfl, isName, stops⟩
    rw [kind_eq, word, length_eq, nameLength_append isName stops, List.take_left]
    exact ⟨fun _ found => (Option.some_ne_none _ found.symm).elim, fun _ => ⟨rfl, isName⟩⟩
  · rw [kind_eq]
    exact .of_free free

theorem fitsSign_wordMove (moved : scanner.wordMove rest = .ok move) :
    FitsSign .code move.kind (rest.take move.length) := by
  simp only [wordMove] at moved
  split at moved
  · exact fitsSign_plainMove scanner (by decide) moved
  split at moved
  · exact scanner.fitsSign_castMove moved
  split at moved
  · exact fitsSign_plainMove scanner (by decide) moved
  split at moved
  · exact fitsSign_plainMove scanner (by decide) moved
  split at moved
  · exact fitsSign_plainMove scanner (by decide) moved
  split at moved
  · refine fitsSign_plainMove scanner ?_ moved
    split <;> decide
  split at moved
  · exact fitsSign_plainMove scanner (by decide) moved
  split at moved
  · rename_i positive
    exact scanner.fitsSign_nameMove positive moved
  split at moved
  · rename_i sign kind found
    exact scanner.fitsSign_operatorMove (operators_fit _ (List.mem_of_find?_eq_some found))
      (List.find?_some (p := fun entry : String × TokenKind => entry.1.toList.isPrefixOf rest)
        found) moved
  · cases moved

/-- The kind of every piece that is cut off fits its sign. -/
theorem fitsSign_move (moved : scanner.move rest = .ok move) :
    FitsSign scanner.mode move.kind (rest.take move.length) := by
  cases mode_eq : scanner.mode with
  | markup =>
      simp only [Scanner.move, mode_eq, markupMove] at moved
      split at moved
      · cases moved
        refine .of_free ?_
        dsimp only
        split <;> decide
      · split at moved
        · cases moved
          exact .of_free ⟨rfl, by simp⟩
        · cases moved
  | code =>
      simp only [Scanner.move, mode_eq, codeMove] at moved
      split at moved
      · cases moved
        exact .of_free ⟨rfl, by simp⟩
      split at moved
      · rename_i starts
        exact scanner.fitsSign_heredocMove starts moved
      split at moved
      · split at moved
        · cases moved
        · refine fitsSign_plainMove scanner ?_ moved
          split <;> decide
      split at moved
      · exact fitsSign_plainMove scanner (by decide) moved
      split at moved
      · exact fitsSign_plainMove scanner (by decide) moved
      · exact scanner.fitsSign_wordMove moved

theorem isTrivia_move (moved : scanner.move rest = .ok move) :
    move.kind.isTrivia = true ↔
      scanner.mode = .code ∧ beginsTrivia (rest.take move.length) = true := by
  cases mode_eq : scanner.mode with
  | markup =>
      simp only [Scanner.move, mode_eq, markupMove] at moved
      split at moved
      · cases moved
        dsimp only
        split <;> simp [TokenKind.isTrivia]
      · split at moved
        · cases moved
          simp [TokenKind.isTrivia]
        · cases moved
  | code =>
      simp only [Scanner.move, mode_eq] at moved
      simp [isTrivia_codeMove moved]

theorem kind_move_of_markup (moved : scanner.move rest = .ok move)
    (mode_eq : scanner.mode = .markup) :
    move.kind = .inlineHtml ∧ openTagLength (rest.take move.length) = 0 ∨
      move.kind = .openTag ∨ move.kind = .openTagWithEcho := by
  simp only [Scanner.move, mode_eq, markupMove] at moved
  split at moved
  · cases moved
    dsimp only
    split <;> simp
  · rename_i absent
    split at moved
    · cases moved
      refine .inl ⟨rfl, Nat.eq_zero_of_not_pos fun opens => absent ?_⟩
      have goesOn := openTagLength_append_pos (rest.drop (markupLength rest)) opens
      rwa [List.take_append_drop] at goesOn
    · cases moved

/-- The kind of every piece that is cut off fits it. -/
theorem fits_move (moved : scanner.move rest = .ok move) :
    Fits scanner.mode move.kind (rest.take move.length) :=
  ⟨scanner.fitsSign_move moved, scanner.isTrivia_move moved, scanner.kind_move_of_markup moved⟩

end Scanner

/-- Whether a scan in a mode cuts the text of some lexemes into these lexemes, each of a kind that
fits it. -/
inductive Reads : Mode → List Lexeme → Prop where
  | nil (mode : Mode) : Reads mode []
  | cons {mode next : Mode} {lexeme : Lexeme} {rest : List Lexeme}
      (cut : stride? mode (lexeme.content.toList ++ spelled rest) =
        some (lexeme.content.toList.length, next))
      (fits : Fits mode lexeme.kind lexeme.content.toList)
      (later : Reads next rest) : Reads mode (lexeme :: rest)

theorem Reads.content_ne_nil {mode : Mode} {lexemes : List Lexeme} (reads : Reads mode lexemes)
    {lexeme : Lexeme} (member : lexeme ∈ lexemes) : lexeme.content.toList ≠ [] := by
  induction reads with
  | nil mode => cases member
  | cons cut fits later ih =>
      rcases List.mem_cons.mp member with rfl | member
      · exact List.length_pos_iff.mp (stride?_pos cut)
      · exact ih member

/-- A scan that does not fail reads its text. -/
theorem exists_reads_run (scanner : Scanner) (rest : List Char)
    (completed : (scanner.run rest).failure = none) :
    ∃ read, (scanner.run rest).lexemes = scanner.emitted.reverse ++ read ∧ spelled read = rest ∧
      Reads scanner.mode read := by
  fun_induction Scanner.run scanner rest with
  | case1 scanner => exact ⟨[], by simp, rfl, .nil _⟩
  | case2 scanner char chars failure stopped => cases completed
  | case3 scanner char chars move moved ih =>
      rcases ih completed with ⟨read, lexemes_eq, spelled_eq, reads⟩
      let lexeme : Lexeme := ⟨move.kind, String.ofList ((char :: chars).take move.length),
        scanner.position⟩
      have content_eq : lexeme.content.toList = (char :: chars).take move.length :=
        String.toList_ofList
      have text_eq : lexeme.content.toList ++ spelled read = char :: chars := by
        rw [content_eq, spelled_eq, List.take_append_drop]
      have stride := scanner.stride?_of_move _ moved
      have length_eq : lexeme.content.toList.length = move.length := by
        rw [content_eq, List.length_take]
        exact Nat.min_eq_left (stride?_le stride)
      refine ⟨lexeme :: read, ?_, text_eq, .cons ?_ ?_ reads⟩
      · rw [lexemes_eq]
        simp [Scanner.advance, lexeme]
      · rw [text_eq, length_eq]
        exact stride
      · rw [content_eq]
        exact scanner.fits_move moved

theorem fits_settledKind {mode : Mode} {kind : TokenKind} {piece : List Char}
    (fits : Fits mode kind piece) (following : List Lexeme) :
    Fits mode (settledKind kind following) piece := by
  have settled : ∀ {old new : TokenKind}, Fits mode old piece → old.isTrivia = new.isTrivia →
      old ≠ .inlineHtml ∧ old ≠ .openTag ∧ old ≠ .openTagWithEcho →
      signOf? new = none ∧ new ≠ .identifier → Fits mode new piece := by
    intro old new fits trivia code free
    refine ⟨.of_free free, trivia ▸ fits.trivia, fun inMarkup => ?_⟩
    rcases fits.markup inMarkup with same | same | same
    · exact absurd same.1 code.1
    · exact absurd same code.2.1
    · exact absurd same code.2.2
  simp only [settledKind]
  split
  · split
    · exact settled fits rfl (by simp) ⟨rfl, by simp⟩
    · exact fits
  · split
    · exact fits
    · exact settled fits rfl (by simp) ⟨rfl, by simp⟩
  · exact fits

theorem Reads.settle {mode : Mode} {lexemes : List Lexeme} (reads : Reads mode lexemes) :
    Reads mode (settle lexemes) := by
  induction reads with
  | nil mode => exact .nil mode
  | cons cut fits later ih =>
      refine .cons ?_ (fits_settledKind fits _) ih
      rw [spelled_settle]
      exact cut

theorem reads_of_lex {source : String} {lexemes : List Lexeme}
    (lexed : lex source = .ok lexemes) : Reads .markup lexemes := by
  simp only [lex] at lexed
  split at lexed
  · cases lexed
  · rename_i completed
    cases lexed
    rcases exists_reads_run .start source.toList completed with ⟨read, lexemes_eq, -, reads⟩
    simp only [Scanner.start, List.reverse_nil, List.nil_append] at lexemes_eq reads
    rw [scan, Scanner.start, lexemes_eq]
    exact reads.settle

end TokenLint.Lexer
