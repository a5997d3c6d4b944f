import TokenLint.Proofs.Lexer.Steps

/-!
# The nesting of a scan

The kind of a lexeme decides what it does to the nesting, so the nesting in front of a lexeme can be
worked out from the kinds before it. The context in turn decides about some kinds: a square closer
is that of a short array if and only if a short array is the innermost open bracket, and a colon
belongs to a ternary only if one waits for it at this depth. `Nesting.pass` and `Nesting.Admits` say
these two things of one lexeme, and `Nesting.Follows` of the lexemes of a scan.
-/

namespace TokenLint.Lexer

/-- Whether lexemes of a kind leave every nesting as it is. -/
def keepsNesting (kind : TokenKind) : Bool :=
  kind.opens?.isNone && kind.closes?.isNone &&
    kind ∉ [.ternaryThen, .ternaryElse, .semicolon, .closeTag]

namespace Nesting

variable (nesting : Nesting) {kind : TokenKind} {shape : BracketShape}

/-- The nesting behind a lexeme of some kind. -/
def pass (kind : TokenKind) : Nesting :=
  match kind.opens?, kind.closes? with
  | some shape, _ => nesting.push shape
  | none, some shape => nesting.close shape
  | none, none =>
    match kind with
    | .ternaryThen => { nesting with pendingThens := nesting.depth :: nesting.pendingThens }
    | .ternaryElse => { nesting with pendingThens := nesting.pendingThens.tail }
    | .semicolon | .closeTag => nesting.forgetFrom nesting.depth
    | _ => nesting

/-- What a lexeme of some kind says about the nesting in front of it. -/
def Admits : TokenKind → Prop
  | .closeShortArray => nesting.brackets.head? = some .shortArray
  | .closeSquare => nesting.brackets.head? ≠ some .shortArray
  | .ternaryElse => nesting.pendingThens.head? = some nesting.depth
  | _ => True

/-- Whether each kind of a list is admitted by the nesting that the kinds before it leave. -/
def Follows (nesting : Nesting) : List TokenKind → Prop
  | [] => True
  | kind :: rest => nesting.Admits kind ∧ (nesting.pass kind).Follows rest

variable {nesting}

theorem pass_of_opens (opens : kind.opens? = some shape) :
    nesting.pass kind = nesting.push shape := by
  simp only [pass, opens]

theorem pass_of_closes (notOpens : kind.opens? = none) (closes : kind.closes? = some shape) :
    nesting.pass kind = nesting.close shape := by
  simp only [pass, notOpens, closes]

theorem brackets_close {outer : List BracketShape} (innermost : nesting.brackets = shape :: outer) :
    (nesting.close shape).brackets = outer := by
  simp [close, innermost, forgetFrom]

theorem brackets_pass (notOpens : kind.opens? = none) (notCloses : kind.closes? = none) :
    (nesting.pass kind).brackets = nesting.brackets := by
  simp only [pass, notOpens, notCloses]
  split <;> rfl

theorem pass_of_keeps (keeps : keepsNesting kind = true) : nesting.pass kind = nesting := by
  simp only [keepsNesting, Bool.and_eq_true, Option.isNone_iff_eq_none, decide_eq_true_eq] at keeps
  rcases keeps with ⟨⟨notOpens, notCloses⟩, other⟩
  simp only [pass, notOpens, notCloses]
  split
  · simp at other
  · simp at other
  · simp at other
  · simp at other
  · rfl

theorem admits_of_keeps (keeps : keepsNesting kind = true) : nesting.Admits kind := by
  simp only [Admits]
  split
  · cases keeps
  · cases keeps
  · cases keeps
  · trivial

/-- The context decides on the kind of an operator as the nesting admits it. -/
theorem pass_readOperator (nesting : Nesting) (previous : Option TokenKind)
    (known : keepsNesting kind = true ∨
      kind ∈ [.openParenthesis, .openCurly, .openSquare, .closeParenthesis, .closeCurly,
        .closeSquare, .ternaryThen, .semicolon]) :
    (nesting.readOperator previous kind).2 =
        nesting.pass (nesting.readOperator previous kind).1 ∧
      nesting.Admits (nesting.readOperator previous kind).1 := by
  simp only [readOperator]
  split
  · exact ⟨rfl, trivial⟩
  · exact ⟨rfl, trivial⟩
  · split
    · exact ⟨rfl, trivial⟩
    · exact ⟨rfl, trivial⟩
  · exact ⟨rfl, trivial⟩
  · exact ⟨rfl, trivial⟩
  · split
    · rename_i innermost
      exact ⟨rfl, innermost⟩
    · rename_i other
      exact ⟨rfl, other⟩
  · split
    · exact ⟨rfl, trivial⟩
    · exact ⟨rfl, trivial⟩
  · split
    · rename_i innermost outer pending
      split
      · rename_i here
        subst here
        refine ⟨?_, ?_⟩
        · simp [pass, pending, TokenKind.opens?, TokenKind.closes?]
        · simp [Admits, pending]
      · exact ⟨rfl, trivial⟩
    · exact ⟨rfl, trivial⟩
  · exact ⟨rfl, trivial⟩
  · rcases known with keeps | special
    · exact ⟨(pass_of_keeps keeps).symm, admits_of_keeps keeps⟩
    · simp_all

end Nesting

theorem keepsNesting_keywords : ∀ entry ∈ keywords, keepsNesting entry.2 = true := by decide

theorem keepsNesting_castNames : ∀ entry ∈ castNames, keepsNesting entry.2 = true := by decide

theorem keepsNesting_operators : ∀ entry ∈ operators, keepsNesting entry.2 = true ∨
    entry.2 ∈ [.openParenthesis, .openCurly, .openSquare, .closeParenthesis, .closeCurly,
      .closeSquare, .ternaryThen, .semicolon] := by
  decide

/-- The nesting in front of the lexeme at an index. -/
def nestingAt (kinds : List TokenKind) (index : Nat) : Nesting :=
  (kinds.take index).foldl Nesting.pass .empty

theorem nestingAt_succ {kinds : List TokenKind} {index : Nat} {kind : TokenKind}
    (found : kinds[index]? = some kind) :
    nestingAt kinds (index + 1) = (nestingAt kinds index).pass kind := by
  rw [nestingAt, List.take_add_one, found, List.foldl_append]
  rfl

theorem Nesting.Follows.admits {kinds : List TokenKind} {nesting : Nesting}
    (follows : nesting.Follows kinds) {index : Nat} {kind : TokenKind}
    (found : kinds[index]? = some kind) :
    ((kinds.take index).foldl Nesting.pass nesting).Admits kind := by
  induction kinds generalizing nesting index with
  | nil => simp at found
  | cons first rest ih =>
      cases index with
      | zero =>
          cases found
          exact follows.1
      | succ index => exact ih follows.2 found

namespace Scanner

variable {scanner : Scanner} {rest : List Char} {move : Move}

theorem keepsNesting_wordKind (scanner : Scanner) (word : String) :
    keepsNesting (scanner.wordKind word) = true := by
  simp only [wordKind]
  split
  · rfl
  · cases found : keywords.lookup (Text.lower word) with
    | none => rfl
    | some kind =>
        rcases List.lookup_eq_some_iff.mp found with ⟨before, after, keywords_eq, -⟩
        apply keepsNesting_keywords (Text.lower word, kind)
        rw [keywords_eq]
        exact List.mem_append_right _ List.mem_cons_self

/-- A step in code closes it, cuts off a lexeme that leaves the nesting alone, or an operator. -/
inductive CodeStep (scanner : Scanner) (rest : List Char) (move : Move) : Prop where
  | closeTag (kind_eq : move.kind = .closeTag)
      (nesting_eq : move.nesting = scanner.nesting.forgetFrom scanner.nesting.depth)
  | plain {kind : TokenKind} {length : Nat} (keeps : keepsNesting kind = true)
      (moved : scanner.plainMove rest kind length = .ok move)
  | operator {entry : String × TokenKind} (member : entry ∈ operators)
      (moved : scanner.operatorMove rest entry.2 entry.1.length = .ok move)

theorem codeStep_heredocMove (moved : scanner.heredocMove rest = .ok move) :
    CodeStep scanner rest move := by
  simp only [heredocMove] at moved
  split at moved
  · have member : ("<<", TokenKind.shiftLeft) ∈ operators := by decide
    exact .operator member moved
  · split at moved
    · exact .plain rfl moved
    · cases moved

theorem codeStep_castMove {name : String} {length : Nat}
    (moved : scanner.castMove rest name length = .ok move) : CodeStep scanner rest move := by
  simp only [castMove] at moved
  split at moved
  · rename_i kind found
    rcases List.lookup_eq_some_iff.mp found with ⟨before, after, castNames_eq, -⟩
    refine .plain (keepsNesting_castNames (Text.lower name, kind) ?_) moved
    rw [castNames_eq]
    exact List.mem_append_right _ List.mem_cons_self
  · cases moved

theorem codeStep_wordMove (moved : scanner.wordMove rest = .ok move) :
    CodeStep scanner rest move := by
  simp only [wordMove] at moved
  split at moved
  · exact .plain rfl moved
  split at moved
  · exact codeStep_castMove moved
  split at moved
  · exact .plain rfl moved
  split at moved
  · exact .plain rfl moved
  split at moved
  · exact .plain rfl moved
  split at moved
  · refine .plain ?_ moved
    split <;> rfl
  split at moved
  · exact .plain rfl moved
  split at moved
  · exact .plain (scanner.keepsNesting_wordKind _) moved
  split at moved
  · rename_i found
    exact .operator (List.mem_of_find?_eq_some found) moved
  · cases moved

theorem codeStep_codeMove (moved : scanner.codeMove rest = .ok move) :
    CodeStep scanner rest move := by
  simp only [codeMove] at moved
  split at moved
  · cases moved
    exact .closeTag rfl rfl
  split at moved
  · exact codeStep_heredocMove moved
  split at moved
  · split at moved
    · cases moved
    · refine .plain ?_ moved
      split <;> rfl
  split at moved
  · exact .plain rfl moved
  split at moved
  · exact .plain rfl moved
  · exact codeStep_wordMove moved

/-- A step changes the nesting as the kind of its lexeme says. -/
theorem nesting_move (moved : scanner.move rest = .ok move) :
    move.nesting = scanner.nesting.pass move.kind ∧ scanner.nesting.Admits move.kind := by
  cases mode_eq : scanner.mode with
  | markup =>
      simp only [Scanner.move, mode_eq, markupMove] at moved
      split at moved
      · cases moved
        dsimp only
        split
        · exact ⟨rfl, trivial⟩
        · exact ⟨rfl, trivial⟩
      · split at moved
        · cases moved
          exact ⟨rfl, trivial⟩
        · cases moved
  | code =>
      simp only [Scanner.move, mode_eq] at moved
      cases codeStep_codeMove moved with
      | closeTag kind_eq nesting_eq =>
          rw [kind_eq, nesting_eq]
          exact ⟨rfl, trivial⟩
      | plain keeps moved =>
          simp only [plainMove] at moved
          split at moved
          · cases moved
            exact ⟨(Nesting.pass_of_keeps keeps).symm, Nesting.admits_of_keeps keeps⟩
          · cases moved
      | operator member moved =>
          simp only [operatorMove] at moved
          split at moved
          · cases moved
            exact Nesting.pass_readOperator _ _ (keepsNesting_operators _ member)
          · cases moved

end Scanner

/-- The kinds that a scan reads follow on the nesting that it starts with. -/
theorem exists_follows_run (scanner : Scanner) (rest : List Char) :
    ∃ read, (scanner.run rest).lexemes = scanner.emitted.reverse ++ read ∧
      scanner.nesting.Follows (read.map Lexeme.kind) := by
  fun_induction Scanner.run scanner rest with
  | case1 scanner => exact ⟨[], by simp, trivial⟩
  | case2 scanner char chars failure stopped => exact ⟨[], by simp, trivial⟩
  | case3 scanner char chars move moved ih =>
      rcases ih with ⟨read, lexemes_eq, follows⟩
      rcases Scanner.nesting_move moved with ⟨nesting_eq, admits⟩
      refine ⟨⟨move.kind, String.ofList ((char :: chars).take move.length), scanner.position⟩ ::
        read, ?_, admits, ?_⟩
      · rw [lexemes_eq]
        simp [Scanner.advance]
      · rw [← nesting_eq]
        exact follows

theorem settledKind_eq_or (kind : TokenKind) (following : List Lexeme) :
    settledKind kind following = kind ∨
      keepsNesting kind = true ∧ keepsNesting (settledKind kind following) = true := by
  simp only [settledKind]
  split
  · exact .inr ⟨rfl, by split <;> rfl⟩
  · exact .inr ⟨rfl, by split <;> rfl⟩
  · exact .inl rfl

theorem Nesting.Follows.settle {nesting : Nesting} {lexemes : List Lexeme}
    (follows : nesting.Follows (lexemes.map Lexeme.kind)) :
    nesting.Follows ((settle lexemes).map Lexeme.kind) := by
  induction lexemes generalizing nesting with
  | nil => exact follows
  | cons lexeme rest ih =>
      rcases follows with ⟨admits, later⟩
      have settled := ih later
      rw [Lexer.settle, List.map_cons]
      rcases settledKind_eq_or lexeme.kind rest with same | ⟨keeps, settled_keeps⟩
      · rw [same]
        exact ⟨admits, settled⟩
      · rw [pass_of_keeps keeps] at settled
        refine ⟨admits_of_keeps settled_keeps, ?_⟩
        rw [pass_of_keeps settled_keeps]
        exact settled

/-- The kinds of a source follow on the empty nesting. -/
theorem follows_of_lex {source : String} {lexemes : List Lexeme}
    (lexed : lex source = .ok lexemes) : Nesting.empty.Follows (lexemes.map Lexeme.kind) := by
  simp only [lex] at lexed
  split at lexed
  · cases lexed
  · cases lexed
    rcases exists_follows_run .start source.toList with ⟨read, lexemes_eq, follows⟩
    simp only [Scanner.start, List.reverse_nil, List.nil_append] at lexemes_eq follows
    rw [scan, Scanner.start, lexemes_eq]
    exact follows.settle

end TokenLint.Lexer
