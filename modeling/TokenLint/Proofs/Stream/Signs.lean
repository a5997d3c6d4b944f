import TokenLint.Proofs.Lexer.Nesting
import TokenLint.Proofs.Lexer.Reads
import TokenLint.Proofs.Stream.Pairing

/-!
# Brackets by their signs

The scanner tells square brackets apart that look alike: those that index into a value from those of
a short array. It keeps the open brackets on a stack of its own, and the matching of brackets is
done later, from the kinds, with another stack. The two stacks hold the same brackets at every
lexeme. Since the scanner gives a square closer the kind that fits the innermost open bracket, the
pairs are those that the signs alone give.
-/

namespace TokenLint

namespace Lexer

/-- The sign that opens brackets of a shape. -/
def openingSign : BracketShape → String
  | .parenthesis => "("
  | .square | .shortArray => "["
  | .curly => "\x7b"

/-- The sign that closes brackets of a shape. -/
def closingSign : BracketShape → String
  | .parenthesis => ")"
  | .square | .shortArray => "]"
  | .curly => "\x7d"

/-- The sign that closes what a sign opens. -/
def closingSignOf? : String → Option String
  | "(" => some ")"
  | "[" => some "]"
  | "\x7b" => some "\x7d"
  | _ => none

/-- The signs of all brackets. -/
def bracketSigns : List String := ["(", ")", "[", "]", "\x7b", "\x7d"]

/-- The text of a lexeme of code. -/
def codeText? (lexeme : Lexeme) : Option String :=
  if lexeme.kind = .inlineHtml then none else some lexeme.content

namespace Scanner

variable (scanner : Scanner) (rest : List Char) {move : Move}

theorem signOf?_operatorMove (kind : TokenKind) (length : Nat)
    (moved : scanner.operatorMove rest kind length = .ok move) :
    signOf? move.kind = signOf? kind := by
  simp only [operatorMove] at moved
  split at moved
  · cases moved
    exact signOf?_readOperator _ _ kind
  · cases moved

variable {scanner rest}

/-- A cast is longer than the sign that it begins with. -/
theorem take_castMove_ne {name : String} {length : Nat}
    (cast : cast? (castNames.map Prod.fst) rest = some (name, length))
    (moved : scanner.castMove rest name length = .ok move) : rest.take move.length ≠ ['('] := by
  rcases exists_cast castNames_proper cast with ⟨leading, word, trailing, rest, rfl, parts⟩
  rw [cast?_castText parts] at cast
  cases cast
  simp only [castMove] at moved
  split at moved
  · rw [(scanner.of_plainMove moved).2, List.take_left]
    simp [castText]
  · cases moved

/-- In code, a piece that is the sign of a bracket has the kind of one. -/
theorem signOf?_codeMove {sign : String} (bracket : sign ∈ bracketSigns)
    (piece_eq : rest.take move.length = sign.toList) (moved : scanner.codeMove rest = .ok move) :
    signOf? move.kind = some sign := by
  have positive := move.length_pos
  have head_eq : rest.head? = sign.toList.head? := by
    rw [← piece_eq, List.head?_take, if_neg (by omega)]
  simp only [bracketSigns, List.mem_cons, List.not_mem_nil, or_false] at bracket
  rcases bracket with rfl | rfl | rfl | rfl | rfl | rfl <;>
    rcases List.head?_eq_some_iff.mp head_eq with ⟨tail, rfl⟩
  · have step : scanner.wordMove ('(' :: tail) = .ok move := moved
    rw [wordMove, if_neg (show ¬0 < variableLength ('(' :: tail) from Nat.lt_irrefl 0)] at step
    cases cast : cast? (castNames.map Prod.fst) ('(' :: tail) with
    | none =>
        rw [cast] at step
        exact scanner.signOf?_operatorMove ('(' :: tail) .openParenthesis 1 step
    | some found =>
        rw [cast] at step
        exact absurd piece_eq (take_castMove_ne cast step)
  · exact scanner.signOf?_operatorMove (')' :: tail) .closeParenthesis 1 moved
  · exact scanner.signOf?_operatorMove ('[' :: tail) .openSquare 1 moved
  · exact scanner.signOf?_operatorMove (']' :: tail) .closeSquare 1 moved
  · exact scanner.signOf?_operatorMove ('\x7b' :: tail) .openCurly 1 moved
  · exact scanner.signOf?_operatorMove ('\x7d' :: tail) .closeCurly 1 moved

/-- An open tag is longer than the sign of a bracket. -/
theorem take_openTagLength_ne {sign : String} (bracket : sign ∈ bracketSigns)
    (opens : 0 < openTagLength rest) : rest.take (openTagLength rest) ≠ sign.toList := by
  have starts : ∃ tail, rest = '<' :: tail := by
    cases rest with
    | nil => simp [openTagLength] at opens
    | cons first tail =>
        by_cases same : first = '<'
        · exact ⟨tail, same ▸ rfl⟩
        · simp [openTagLength, same] at opens
  rcases starts with ⟨tail, rfl⟩
  intro same
  have head_eq : some '<' = sign.toList.head? := by
    rw [← same, List.head?_take, if_neg (by omega), List.head?_cons]
  simp only [bracketSigns, List.mem_cons, List.not_mem_nil, or_false] at bracket
  rcases bracket with rfl | rfl | rfl | rfl | rfl | rfl <;> exact absurd head_eq (by decide)

/-- A piece outside markup that is the sign of a bracket has the kind of one. -/
theorem signOf?_move {sign : String} (bracket : sign ∈ bracketSigns)
    (piece_eq : rest.take move.length = sign.toList) (moved : scanner.move rest = .ok move)
    (code : move.kind ≠ .inlineHtml) : signOf? move.kind = some sign := by
  cases mode_eq : scanner.mode with
  | code =>
      simp only [Scanner.move, mode_eq] at moved
      exact signOf?_codeMove bracket piece_eq moved
  | markup =>
      simp only [Scanner.move, mode_eq, markupMove] at moved
      split at moved
      · rename_i opens
        cases moved
        exact absurd piece_eq (take_openTagLength_ne bracket opens)
      · split at moved
        · cases moved
          exact absurd rfl code
        · cases moved

end Scanner

/-- Whether the text of a lexeme is the sign of a bracket exactly if its kind is that of one. -/
def ShowsSign (lexeme : Lexeme) : Prop :=
  ∀ sign ∈ bracketSigns, codeText? lexeme = some sign ↔ signOf? lexeme.kind = some sign

theorem showsSign_of_move {scanner : Scanner} {rest : List Char} {move : Move}
    (moved : scanner.move rest = .ok move) (position : Position) :
    ShowsSign ⟨move.kind, String.ofList (rest.take move.length), position⟩ := by
  intro sign bracket
  constructor
  · intro shown
    simp only [codeText?, Option.ite_none_left_eq_some, Option.some.injEq] at shown
    rcases shown with ⟨code, rfl⟩
    exact Scanner.signOf?_move bracket String.toList_ofList.symm moved code
  · intro found
    have code : move.kind ≠ .inlineHtml := by
      intro markup
      rw [markup] at found
      cases found
    rw [codeText?, if_neg code, ((scanner.fits_move moved).sign sign found).2, String.ofList_toList]

theorem showsSign_run (scanner : Scanner) (rest : List Char)
    (before : ∀ lexeme ∈ scanner.emitted, ShowsSign lexeme) :
    ∀ lexeme ∈ (scanner.run rest).lexemes, ShowsSign lexeme := by
  fun_induction Scanner.run scanner rest with
  | case1 scanner => exact fun lexeme member => before lexeme (List.mem_reverse.mp member)
  | case2 scanner char chars failure stopped =>
      exact fun lexeme member => before lexeme (List.mem_reverse.mp member)
  | case3 scanner char chars move moved ih =>
      apply ih
      intro lexeme member
      rcases List.mem_cons.mp member with rfl | member
      · exact showsSign_of_move moved scanner.position
      · exact before lexeme member

theorem settledKind_eq_or_free (kind : TokenKind) (following : List Lexeme) :
    settledKind kind following = kind ∨ (kind ≠ .inlineHtml ∧ signOf? kind = none) ∧
      settledKind kind following ≠ .inlineHtml ∧ signOf? (settledKind kind following) = none := by
  simp only [settledKind]
  split
  · exact .inr ⟨by decide, by split <;> decide⟩
  · exact .inr ⟨by decide, by split <;> decide⟩
  · exact .inl rfl

theorem ShowsSign.settledKind {lexeme : Lexeme} (shows : ShowsSign lexeme)
    (following : List Lexeme) :
    ShowsSign { lexeme with kind := Lexer.settledKind lexeme.kind following } := by
  rcases settledKind_eq_or_free lexeme.kind following with same | ⟨before, settled⟩
  · rw [same]
    exact shows
  · intro sign bracket
    have shown := shows sign bracket
    simp only [codeText?, before, settled, if_false] at shown ⊢
    exact shown

theorem showsSign_settle {lexemes : List Lexeme} (shows : ∀ lexeme ∈ lexemes, ShowsSign lexeme) :
    ∀ lexeme ∈ settle lexemes, ShowsSign lexeme := by
  induction lexemes with
  | nil => exact shows
  | cons first rest ih =>
      intro lexeme member
      rcases List.mem_cons.mp member with rfl | later
      · exact (shows first List.mem_cons_self).settledKind rest
      · exact ih (fun other among => shows other (List.mem_cons_of_mem _ among)) lexeme later

/-- In the lexemes of a source, the texts that are signs of brackets are the brackets. -/
theorem showsSign_of_lex {source : String} {lexemes : List Lexeme}
    (lexed : lex source = .ok lexemes) : ∀ lexeme ∈ lexemes, ShowsSign lexeme := by
  simp only [lex] at lexed
  split at lexed
  · cases lexed
  · cases lexed
    exact showsSign_settle (showsSign_run .start source.toList (by simp [Scanner.start]))

end Lexer

/-- The pairs of a list of texts whose first has the given index, matched by the texts alone.
`stack` holds the signs that are open, innermost first, each with the sign that closes it. A closing
sign that does not fit the innermost of them is left alone. -/
def signPairsFrom (stack : List (Nat × String)) (index : Nat) :
    List (Option String) → List BracketPair
  | [] => []
  | text :: rest =>
    match text.bind Lexer.closingSignOf?, stack with
    | some closing, _ => signPairsFrom ((index, closing) :: stack) (index + 1) rest
    | none, (opener, closing) :: outer =>
      if text = some closing then ⟨opener, index⟩ :: signPairsFrom outer (index + 1) rest
      else signPairsFrom stack (index + 1) rest
    | none, [] => signPairsFrom [] (index + 1) rest

/-- The pairs of a list of texts, matched by the texts alone. -/
def signPairs (texts : List (Option String)) : List BracketPair := signPairsFrom [] 0 texts

/-- The indexes of the signs of brackets that belong to no pair. -/
def unpairedSigns (texts : List (Option String)) : List Nat :=
  (List.range texts.length).filter fun index =>
    texts[index]?.any (fun text => text.any (· ∈ Lexer.bracketSigns)) &&
      (signPairs texts).all fun pair => pair.opener ≠ index ∧ pair.closer ≠ index

section Stacks

open Lexer

variable {nesting : Nesting} {stack outer : List (Nat × BracketShape)} {index opener : Nat}
  {kind : TokenKind} {shape : BracketShape}

theorem brackets_push (aligned : stack.map Prod.snd = nesting.brackets)
    (opens : kind.opens? = some shape) (index : Nat) :
    ((index, shape) :: stack).map Prod.snd = (nesting.pass kind).brackets := by
  rw [Nesting.pass_of_opens opens, List.map_cons, aligned]
  rfl

theorem brackets_close (aligned : ((opener, shape) :: outer).map Prod.snd = nesting.brackets)
    (notOpens : kind.opens? = none) (closes : kind.closes? = some shape) :
    outer.map Prod.snd = (nesting.pass kind).brackets := by
  rw [Nesting.pass_of_closes notOpens closes, Nesting.brackets_close aligned.symm]

/-- A kind that opens nothing, and does not fit the innermost open bracket, leaves the brackets. -/
theorem brackets_skip (aligned : stack.map Prod.snd = nesting.brackets)
    (notOpens : kind.opens? = none) (unfit : ∀ entry ∈ stack.head?, kind.closes? ≠ some entry.2) :
    stack.map Prod.snd = (nesting.pass kind).brackets := by
  cases closes : kind.closes? with
  | none =>
      rw [Nesting.brackets_pass notOpens closes]
      exact aligned
  | some shape =>
      rw [Nesting.pass_of_closes notOpens closes, Nesting.close, ← aligned]
      cases stack with
      | nil => exact aligned
      | cons innermost outer =>
          have differ : innermost.2 ≠ shape := fun same => unfit innermost rfl (same ▸ closes)
          simpa [differ] using aligned

end Stacks

section LockStep

open Lexer

variable {nesting : Nesting} {stack : List (Nat × BracketShape)} {index : Nat} {lexeme : Lexeme}
  {kind : TokenKind} {shape innermost : BracketShape}

theorem closingSignOf?_openingSign (shape : BracketShape) :
    closingSignOf? (openingSign shape) = some (closingSign shape) := by
  cases shape <;> rfl

theorem closingSignOf?_closingSign (shape : BracketShape) :
    closingSignOf? (closingSign shape) = none := by
  cases shape <;> rfl

theorem openingSign_mem (shape : BracketShape) : openingSign shape ∈ bracketSigns := by
  cases shape <;> decide

theorem closingSign_mem (shape : BracketShape) : closingSign shape ∈ bracketSigns := by
  cases shape <;> decide

theorem mem_bracketSigns_of_closingSignOf? {sign closing : String}
    (found : closingSignOf? sign = some closing) : sign ∈ bracketSigns := by
  simp only [closingSignOf?] at found
  split at found
  · decide
  · decide
  · decide
  · cases found

theorem signOf?_of_opens (opens : kind.opens? = some shape) :
    signOf? kind = some (openingSign shape) := by
  simp only [TokenKind.opens?] at opens
  split at opens <;> cases opens <;> rfl

theorem signOf?_of_closes (closes : kind.closes? = some shape) :
    signOf? kind = some (closingSign shape) := by
  simp only [TokenKind.closes?] at closes
  split at closes <;> cases closes <;> rfl

theorem isBracket_of_signOf? {sign : String} (bracket : sign ∈ bracketSigns)
    (found : signOf? kind = some sign) : (kind.isOpener || kind.isCloser) = true := by
  simp only [signOf?] at found
  split at found
  all_goals first | rfl | cases found
  all_goals exact absurd bracket (by decide)

/-- A closer that the nesting admits has the shape of the innermost open bracket if it has its
sign. -/
theorem eq_of_closingSign_eq (admits : nesting.Admits kind) (closes : kind.closes? = some shape)
    (innermost_eq : nesting.brackets.head? = some innermost)
    (same : closingSign innermost = closingSign shape) : innermost = shape := by
  simp only [TokenKind.closes?] at closes
  split at closes <;> cases closes
  · cases innermost <;> first | rfl | exact absurd same (by decide)
  · cases innermost with
    | square => rfl
    | shortArray => exact absurd innermost_eq admits
    | _ => exact absurd same (by decide)
  · exact Option.some.inj (innermost_eq.symm.trans admits)
  · cases innermost <;> first | rfl | exact absurd same (by decide)

variable (shows : ShowsSign lexeme)

include shows

theorem text_of_opens (opens : lexeme.kind.opens? = some shape) :
    codeText? lexeme = some (openingSign shape) :=
  (shows _ (openingSign_mem shape)).mpr (signOf?_of_opens opens)

theorem text_of_closes (closes : lexeme.kind.closes? = some shape) :
    codeText? lexeme = some (closingSign shape) :=
  (shows _ (closingSign_mem shape)).mpr (signOf?_of_closes closes)

theorem text_ne_of_not_bracket (notOpens : lexeme.kind.opens? = none)
    (notCloses : lexeme.kind.closes? = none) {sign : String} (bracket : sign ∈ bracketSigns) :
    codeText? lexeme ≠ some sign := by
  intro shown
  have kind_bracket := isBracket_of_signOf? bracket ((shows sign bracket).mp shown)
  simp [TokenKind.isOpener, TokenKind.isCloser, notOpens, notCloses] at kind_bracket

theorem isBracket_eq :
    (lexeme.kind.isOpener || lexeme.kind.isCloser) =
      (codeText? lexeme).any fun text => text ∈ bracketSigns := by
  rw [Bool.eq_iff_iff, Option.any_eq_true]
  constructor
  · intro bracket
    rcases Bool.or_eq_true_iff.mp bracket with opens | closes
    · rcases Option.isSome_iff_exists.mp opens with ⟨shape, opens⟩
      exact ⟨_, text_of_opens shows opens, decide_eq_true (openingSign_mem shape)⟩
    · rcases Option.isSome_iff_exists.mp closes with ⟨shape, closes⟩
      exact ⟨_, text_of_closes shows closes, decide_eq_true (closingSign_mem shape)⟩
  · rintro ⟨sign, shown, bracket⟩
    have bracket := of_decide_eq_true bracket
    exact isBracket_of_signOf? bracket ((shows sign bracket).mp shown)

omit shows

/-- Matching the kinds and matching the texts go in lock step. -/
theorem pairs_matchBracketsFrom {lexemes : List Lexeme}
    (aligned : stack.map Prod.snd = nesting.brackets)
    (follows : nesting.Follows (lexemes.map Lexeme.kind))
    (shows : ∀ lexeme ∈ lexemes, ShowsSign lexeme) (index : Nat) :
    (matchBracketsFrom stack index (lexemes.map Lexeme.kind)).pairs =
      signPairsFrom (stack.map fun entry => (entry.1, closingSign entry.2)) index
        (lexemes.map codeText?) := by
  induction lexemes generalizing nesting stack index with
  | nil => rfl
  | cons lexeme rest ih =>
      rcases follows with ⟨admits, later⟩
      have showsHere := shows lexeme List.mem_cons_self
      have step := fun {stack : List (Nat × BracketShape)}
          (aligned : stack.map Prod.snd = (nesting.pass lexeme.kind).brackets) =>
        ih aligned later (fun other among => shows other (List.mem_cons_of_mem _ among)) (index + 1)
      rw [List.map_cons, List.map_cons]
      cases opens : lexeme.kind.opens? with
      | some shape =>
          simp only [matchBracketsFrom, signPairsFrom, opens, text_of_opens showsHere opens,
            Option.bind_some, closingSignOf?_openingSign]
          exact step (brackets_push aligned opens index)
      | none =>
          cases closes : lexeme.kind.closes? with
          | some shape =>
              have text_eq := text_of_closes showsHere closes
              cases stack with
              | nil =>
                  simp only [matchBracketsFrom, signPairsFrom, opens, closes, text_eq, List.map_nil,
                    Option.bind_some, closingSignOf?_closingSign, BracketMatching.pairs_withStray]
                  exact step (brackets_skip aligned opens (by simp))
              | cons entry outer =>
                  rcases entry with ⟨opener, innermost⟩
                  simp only [matchBracketsFrom, signPairsFrom, opens, closes, text_eq,
                    List.map_cons, Option.bind_some, closingSignOf?_closingSign,
                    Option.some.injEq]
                  by_cases fits : innermost = shape
                  · subst fits
                    simp only [if_true, BracketMatching.pairs_withPair]
                    exact congrArg (List.cons _) (step (brackets_close aligned opens closes))
                  · -- Of the two shapes with one sign, the closer has the kind that would fit.
                    have head_eq : nesting.brackets.head? = some innermost := by
                      rw [← aligned]
                      rfl
                    have unlike : closingSign shape ≠ closingSign innermost := fun same =>
                      fits (eq_of_closingSign_eq admits closes head_eq same.symm)
                    simp only [fits, unlike, if_false, BracketMatching.pairs_withStray]
                    refine step (brackets_skip aligned opens ?_)
                    simpa [closes, eq_comm] using fits
          | none =>
              have no_closing : (codeText? lexeme).bind closingSignOf? = none := by
                rw [Option.bind_eq_none_iff]
                intro sign shown
                rw [Option.eq_none_iff_forall_ne_some]
                intro closing found
                exact text_ne_of_not_bracket showsHere opens closes
                  (mem_bracketSigns_of_closingSignOf? found) shown
              have kept := step (brackets_skip aligned opens (by simp [closes]))
              cases stack with
              | nil =>
                  simp only [matchBracketsFrom, signPairsFrom, opens, closes, no_closing]
                  exact kept
              | cons entry outer =>
                  have unlike := text_ne_of_not_bracket showsHere opens closes
                    (closingSign_mem entry.2)
                  simp only [matchBracketsFrom, signPairsFrom, opens, closes, no_closing,
                    List.map_cons, unlike, if_false]
                  exact kept

/-- The scanner reads the closer of a short array only where it fits the innermost open bracket. -/
theorem ne_closeShortArray_of_unfit (aligned : stack.map Prod.snd = nesting.brackets)
    (admits : nesting.Admits kind)
    (unfit : ∀ entry ∈ stack.head?, kind.closes? ≠ some entry.2) : kind ≠ .closeShortArray := by
  rintro rfl
  rw [Nesting.Admits, ← aligned, List.head?_map, Option.map_eq_some_iff] at admits
  rcases admits with ⟨entry, innermost_eq, shape_eq⟩
  exact unfit entry innermost_eq (congrArg some shape_eq.symm)

/-- The closer of a short array has a partner. -/
theorem exists_opener_of_closeShortArray {kinds : List TokenKind}
    (aligned : stack.map Prod.snd = nesting.brackets) (follows : nesting.Follows kinds)
    {offset : Nat} (found : kinds[offset]? = some .closeShortArray) :
    ∃ opener, ⟨opener, index + offset⟩ ∈ (matchBracketsFrom stack index kinds).pairs := by
  fun_induction matchBracketsFrom stack index kinds generalizing nesting offset with
  | case1 => simp at found
  | case2 stack index kind rest shape opens ih =>
      rcases offset with _ | offset
      · cases found
        cases opens
      · rcases ih (brackets_push aligned opens index) follows.2 found with ⟨opener, member⟩
        exact ⟨opener, by rwa [Nat.add_right_comm] at member⟩
  | case3 index kind rest opener shape outer notOpens closes ih =>
      rcases offset with _ | offset
      · exact ⟨opener, List.mem_cons_self⟩
      · rcases ih (brackets_close aligned notOpens closes) follows.2 found with ⟨inner, member⟩
        rw [Nat.add_right_comm] at member
        exact ⟨inner, List.mem_cons_of_mem _ member⟩
  | case4 index kind rest shape opener innermost outer closes notOpens differ ih =>
      have unfit : ∀ entry ∈ ((opener, innermost) :: outer).head?,
          kind.closes? ≠ some entry.2 := by simpa [closes, eq_comm] using differ
      rcases offset with _ | offset
      · exact absurd (Option.some.inj found) (ne_closeShortArray_of_unfit aligned follows.1 unfit)
      · rcases ih (brackets_skip aligned notOpens unfit) follows.2 found with ⟨inner, member⟩
        exact ⟨inner, by rwa [Nat.add_right_comm] at member⟩
  | case5 index kind rest shape closes notOpens ih =>
      rcases offset with _ | offset
      · exact absurd (Option.some.inj found)
          (ne_closeShortArray_of_unfit aligned follows.1 (by simp))
      · rcases ih (brackets_skip aligned notOpens (by simp)) follows.2 found with ⟨inner, member⟩
        exact ⟨inner, by rwa [Nat.add_right_comm] at member⟩
  | case6 stack index kind rest notCloses notOpens ih =>
      have unfit : ∀ entry ∈ stack.head?, kind.closes? ≠ some entry.2 := by simp [notCloses]
      rcases offset with _ | offset
      · exact absurd (Option.some.inj found) (ne_closeShortArray_of_unfit aligned follows.1 unfit)
      · rcases ih (brackets_skip aligned notOpens unfit) follows.2 found with ⟨inner, member⟩
        exact ⟨inner, by rwa [Nat.add_right_comm] at member⟩

end LockStep

namespace TokenStream

open Lexer

variable {source : String} {lexemes : List Lexeme}

theorem bracketPairs_eq_signPairs (lexed : lex source = .ok lexemes) :
    bracketPairs (lexemes.map Lexeme.kind) = signPairs (lexemes.map codeText?) :=
  pairs_matchBracketsFrom rfl (follows_of_lex lexed) (showsSign_of_lex lexed) 0

theorem unmatched_eq_unpairedSigns (lexed : lex source = .ok lexemes) :
    (ofLexemes lexemes).unmatched = unpairedSigns (lexemes.map codeText?) := by
  have length_eq : (lexemes.map Lexeme.kind).length = (lexemes.map codeText?).length := by simp
  rw [ofLexemes, unmatchedBrackets_eq_filter, unpairedSigns, length_eq,
    ← bracketPairs_eq_signPairs lexed]
  apply List.filter_congr
  intro index inRange
  have inside : index < lexemes.length := by simpa using List.mem_range.mp inRange
  have shows := showsSign_of_lex lexed _ (List.getElem_mem inside)
  have alone : ((PartnerTable.ofKinds (lexemes.map Lexeme.kind)).partner? index).isNone =
      (bracketPairs (lexemes.map Lexeme.kind)).all fun pair =>
        pair.opener ≠ index ∧ pair.closer ≠ index := by
    rw [Bool.eq_iff_iff, Option.isNone_iff_eq_none, partner?_eq_none_iff]
    simp
  rw [alone]
  simp [inside, isBracket_eq shows]

theorem text_of_closeShortArray (lexed : lex source = .ok lexemes) {index : Nat}
    (found : (lexemes.map Lexeme.kind)[index]? = some .closeShortArray) :
    (lexemes.map codeText?)[index]? = some (some "]") := by
  rw [List.getElem?_map, Option.map_eq_some_iff] at found ⊢
  rcases found with ⟨lexeme, here, kind_eq⟩
  have shows := showsSign_of_lex lexed lexeme (List.mem_of_getElem? here)
  have closes : lexeme.kind.closes? = some .shortArray := by
    rw [kind_eq]
    rfl
  exact ⟨lexeme, here, text_of_closes shows closes⟩

theorem hasKind_closeShortArray_iff (lexed : lex source = .ok lexemes) (index : Nat) :
    (ofLexemes lexemes).hasKind index .closeShortArray = true ↔
      (lexemes.map codeText?)[index]? = some (some "]") ∧
        ∃ opener, (ofLexemes lexemes).partner? index = some opener ∧
          (ofLexemes lexemes).hasKind opener .openShortArray = true := by
  simp only [hasKind, kind?_ofLexemes, beq_iff_eq, partner?_ofLexemes,
    PartnerTable.partner?_ofKinds]
  constructor
  · intro found
    have paired : ∃ opener,
        ⟨opener, 0 + index⟩ ∈ (matchBracketsFrom [] 0 (lexemes.map Lexeme.kind)).pairs :=
      exists_opener_of_closeShortArray rfl (follows_of_lex lexed) found
    rcases paired with ⟨opener, member⟩
    rw [Nat.zero_add] at member
    refine ⟨text_of_closeShortArray lexed found, opener, .inr member, ?_⟩
    exact (BracketPair.opener_iff_closer member .shortArray).mpr found
  · rintro ⟨-, opener, member | member, opens⟩
    · exact absurd rfl (ne_closer_of_isOpener member opens rfl)
    · exact (BracketPair.opener_iff_closer member .shortArray).mp opens

/-- The partners in the stream of a source, and the brackets without one, are those that the signs
of its brackets give; the kinds that the scanner gives to square brackets make no difference. A
square closer is that of a short array exactly if its partner opens one. -/
theorem pairs_by_signs (lexed : lex source = .ok lexemes) :
    let stream : TokenStream := .ofLexemes lexemes
    let texts := lexemes.map codeText?
    (∀ index partner, stream.partner? index = some partner ↔
      ⟨index, partner⟩ ∈ signPairs texts ∨ ⟨partner, index⟩ ∈ signPairs texts) ∧
    stream.unmatched = unpairedSigns texts ∧
    ∀ index, stream.hasKind index .closeShortArray = true ↔
      texts[index]? = some (some "]") ∧
        ∃ opener, stream.partner? index = some opener ∧
          stream.hasKind opener .openShortArray = true := by
  intro stream texts
  refine ⟨?_, unmatched_eq_unpairedSigns lexed, hasKind_closeShortArray_iff lexed⟩
  intro index partner
  rw [partner?_ofLexemes, PartnerTable.partner?_ofKinds, bracketPairs_eq_signPairs lexed]

/-- Markup and a string are no brackets, a stray closer is left alone, and an index inside a short
array ends with its own closer. -/
theorem pairs_by_signs_stray :
    ∃ lexemes, lex "(<?php [$a['(')]];" = .ok lexemes ∧
      (ofLexemes lexemes).unmatched = [6] ∧
      (ofLexemes lexemes).partner? 4 = some 7 ∧ (ofLexemes lexemes).partner? 2 = some 8 ∧
      ((ofLexemes lexemes).hasKind 2 .openShortArray = true →
        (ofLexemes lexemes).hasKind 8 .closeShortArray = true) := by
  cases lexed : lex "(<?php [$a['(')]];" with
  | error failure =>
      have read : (lex "(<?php [$a['(')]];").isOk = true := by decide +kernel
      rw [lexed] at read
      cases read
  | ok lexemes =>
      have texts_eq : (lex "(<?php [$a['(')]];").toOption.map (List.map codeText?) =
          some [none, some "<?php ", some "[", some "$a", some "[", some "'('", some ")", some "]",
            some "]", some ";"] := by decide +kernel
      rw [lexed, Except.toOption, Option.map_some, Option.some.injEq] at texts_eq
      rcases pairs_by_signs lexed with ⟨partners, unmatched, squares⟩
      rw [texts_eq] at partners unmatched squares
      have outer : (ofLexemes lexemes).partner? 8 = some 2 := (partners 8 2).mpr (by decide)
      refine ⟨lexemes, rfl, unmatched.trans (by decide), (partners 4 7).mpr (by decide),
        (partners 2 8).mpr (by decide), ?_⟩
      intro opens
      exact (squares 8).mpr ⟨by decide, 2, outer, opens⟩

end TokenStream

end TokenLint
