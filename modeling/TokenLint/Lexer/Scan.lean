import TokenLint.Lexer.Pattern
import TokenLint.Lexer.Vocabulary
import TokenLint.Text.LowerCase
import TokenLint.Text.Quoted
import TokenLint.Token.Basic

/-!
# Scanning source text

A scan cuts a source into lexemes from left to right. Outside code everything up to
the next open tag is one lexeme; inside code each step reads the longest lexeme of
the first shape that stands there. Every lexeme is a non-empty stretch of the text
that is left, so the contents of the lexemes are the source itself, in order.

`Scanner.run` keeps what was read before a fault as well, and `lex` is its public
form.
-/

namespace TokenLint.Lexer

open Text

/-- What is wrong with a source text. -/
inductive SourceFault where
  | unterminatedComment
  | unterminatedString
  | unterminatedHeredoc (label : String)
  | unexpectedCharacter (char : Char)
  | unmatchedBracket (bracket : String)
  deriving DecidableEq

/-- The wording of a fault in a source. -/
def SourceFault.message : SourceFault → String
  | unterminatedComment => "Unterminated comment"
  | unterminatedString => "Unterminated string"
  | unterminatedHeredoc label => "Unterminated heredoc '" ++ label ++ "'"
  | unexpectedCharacter char => "Unexpected character " ++ quoted (String.singleton char)
  | unmatchedBracket bracket => "Unmatched '" ++ bracket ++ "'"

/-- A fault and the place where it was met. -/
structure SourceError where
  fault : SourceFault
  position : Position
  deriving DecidableEq

/-- The wording of a fault with its place. -/
def SourceError.message (error : SourceError) : String :=
  error.fault.message ++ " (line " ++ toString error.position.line ++ ", column " ++
    toString error.position.column ++ ")"

/-- Why a source cannot be read: it is malformed, or it holds a cast whose name is recognised only
because case was ignored and that no cast has. -/
inductive LexFailure where
  | malformed (error : SourceError)
  | unknownCast (name : String)
  deriving DecidableEq

/-- Whether the scan stands in markup or in code. -/
inductive Mode where
  | markup
  | code
  deriving DecidableEq

/-- The brackets that are open, innermost first, and for each `?` that still waits for its `:` the
number of brackets that were open around it. -/
structure Nesting where
  brackets : List BracketShape
  pendingThens : List Nat

namespace Nesting

/-- Nothing is open. -/
def empty : Nesting := ⟨[], []⟩

/-- How many brackets are open. -/
def depth (nesting : Nesting) : Nat := nesting.brackets.length

/-- The brackets with one more inside of them. -/
def push (nesting : Nesting) (shape : BracketShape) : Nesting :=
  { nesting with brackets := shape :: nesting.brackets }

/-- Forgets the pending `?` that stand at a depth or deeper, down to the first that does not. -/
def forgetFrom (nesting : Nesting) (depth : Nat) : Nesting :=
  { nesting with pendingThens := nesting.pendingThens.dropWhile fun pending => depth ≤ pending }

/-- Closes the innermost bracket if it has this shape; a stray closer changes nothing. -/
def close (nesting : Nesting) (shape : BracketShape) : Nesting :=
  match nesting.brackets with
  | innermost :: outer =>
    if innermost = shape then
      ({ nesting with brackets := outer } : Nesting).forgetFrom (outer.length + 1)
    else nesting
  | [] => nesting

/-- The kind of an operator in its context, and the nesting after it. `previous` is the kind of the
last code lexeme. -/
def readOperator (nesting : Nesting) (previous : Option TokenKind) (kind : TokenKind) :
    TokenKind × Nesting :=
  match kind with
  | .openParenthesis => (.openParenthesis, nesting.push .parenthesis)
  | .openCurly => (.openCurly, nesting.push .curly)
  | .openSquare =>
    if previous.any isIndexable then (.openSquare, nesting.push .square)
    else (.openShortArray, nesting.push .shortArray)
  | .closeParenthesis => (.closeParenthesis, nesting.close .parenthesis)
  | .closeCurly => (.closeCurly, nesting.close .curly)
  | .closeSquare =>
    if nesting.brackets.head? = some .shortArray then
      (.closeShortArray, nesting.close .shortArray)
    else (.closeSquare, nesting.close .square)
  | .ternaryThen =>
    if previous.any startsNullable then (.nullableMark, nesting)
    else (.ternaryThen, { nesting with pendingThens := nesting.depth :: nesting.pendingThens })
  | .colon =>
    match nesting.pendingThens with
    | innermost :: outer =>
      if innermost = nesting.depth then (.ternaryElse, { nesting with pendingThens := outer })
      else (.colon, nesting)
    | [] => (.colon, nesting)
  | .semicolon => (.semicolon, nesting.forgetFrom nesting.depth)
  | other => (other, nesting)

end Nesting

/-- One step of a scan: the lexeme to cut off and the state after it. -/
structure Move where
  kind : TokenKind
  length : Nat
  mode : Mode
  nesting : Nesting
  length_pos : 0 < length

/-- The state of a scan; `emitted` holds the lexemes read so far, latest first. -/
structure Scanner where
  mode : Mode
  nesting : Nesting
  position : Position
  emitted : List Lexeme

namespace Scanner

variable (scanner : Scanner)

/-- The state before the first character. -/
def start : Scanner := ⟨.markup, .empty, .start, []⟩

/-- The kind of the last lexeme that is neither whitespace nor a comment. -/
def lastCodeKind : Option TokenKind :=
  (scanner.emitted.find? fun lexeme => !lexeme.kind.isTrivia).map Lexeme.kind

/-- A fault at the current place. -/
def fault (fault : SourceFault) : LexFailure := .malformed ⟨fault, scanner.position⟩

/-- The fault of a text that starts with no lexeme. -/
def unexpected : List Char → LexFailure
  | '\'' :: _ | '"' :: _ | '\x60' :: _ => scanner.fault .unterminatedString
  | char :: _ => scanner.fault (.unexpectedCharacter char)
  | [] => scanner.fault .unterminatedString

/-- The kind of a word: a keyword is a plain name behind tokens that a name has to follow. -/
def wordKind (word : String) : TokenKind :=
  let kind := (keywords.lookup (lower word)).getD .identifier
  if scanner.lastCodeKind.any keepsName then .identifier else kind

/-- The step that cuts off `length` characters as a lexeme that leaves the nesting alone. -/
def plainMove (rest : List Char) (kind : TokenKind) (length : Nat) : Except LexFailure Move :=
  if length_pos : 0 < length then .ok ⟨kind, length, .code, scanner.nesting, length_pos⟩
  else .error (scanner.unexpected rest)

/-- The step over an operator. -/
def operatorMove (rest : List Char) (kind : TokenKind) (length : Nat) : Except LexFailure Move :=
  if length_pos : 0 < length then
    let (kind, nesting) := scanner.nesting.readOperator scanner.lastCodeKind kind
    .ok ⟨kind, length, .code, nesting, length_pos⟩
  else .error (scanner.unexpected rest)

/-- The step over a cast. -/
def castMove (rest : List Char) (name : String) (length : Nat) : Except LexFailure Move :=
  match castNames.lookup (lower name) with
  | some kind => scanner.plainMove rest kind length
  | none => .error (.unknownCast (lower name))

/-- The step over a heredoc, or over a shift operator where no heredoc starts. -/
def heredocMove (rest : List Char) : Except LexFailure Move :=
  match heredocStart? rest with
  | none => scanner.operatorMove rest .shiftLeft 2
  | some (label, startLength) =>
    match lengthToClosingLabel? label true (rest.drop startLength) with
    | some bodyLength => scanner.plainMove rest .heredoc (startLength + bodyLength)
    | none => .error (scanner.fault (.unterminatedHeredoc (String.ofList label)))

/-- The step over a word, a string, a number, a variable, a cast or an operator. -/
def wordMove (rest : List Char) : Except LexFailure Move :=
  if 0 < variableLength rest then scanner.plainMove rest .variable (variableLength rest)
  else
    match cast? (castNames.map Prod.fst) rest with
    | some (name, length) => scanner.castMove rest name length
    | none =>
      if 0 < floatLength rest then scanner.plainMove rest .floatNumber (floatLength rest)
      else if 0 < integerLength rest then scanner.plainMove rest .integerNumber (integerLength rest)
      else if 0 < stringLength '\'' rest then
        scanner.plainMove rest .plainString (stringLength '\'' rest)
      else if 0 < stringLength '"' rest then
        let length := stringLength '"' rest
        let kind := if hasInterpolation none (rest.take length) then .templateString
          else .plainString
        scanner.plainMove rest kind length
      else if 0 < stringLength '\x60' rest then
        scanner.plainMove rest .backtick (stringLength '\x60' rest)
      else if 0 < nameLength rest then
        let length := nameLength rest
        scanner.plainMove rest (scanner.wordKind (String.ofList (rest.take length))) length
      else
        match operators.find? fun entry => entry.1.toList.isPrefixOf rest with
        | some (spelling, kind) => scanner.operatorMove rest kind spelling.length
        | none => .error (scanner.unexpected rest)

/-- The step inside code. -/
def codeMove (rest : List Char) : Except LexFailure Move :=
  if closes : 0 < closeTagLength rest then
    let nesting := scanner.nesting.forgetFrom scanner.nesting.depth
    .ok ⟨.closeTag, closeTagLength rest, .markup, nesting, closes⟩
  else if ['<', '<', '<'].isPrefixOf rest then scanner.heredocMove rest
  else if ['/', '*'].isPrefixOf rest then
    match blockCommentLength? rest with
    | none => .error (scanner.fault .unterminatedComment)
    | some length =>
      scanner.plainMove rest (if startsDocComment rest then .docComment else .comment) length
  else if 0 < whitespaceLength rest then
    scanner.plainMove rest .whitespace (whitespaceLength rest)
  else if 0 < lineCommentLength rest then
    scanner.plainMove rest .comment (lineCommentLength rest)
  else scanner.wordMove rest

/-- The step inside markup: an open tag, or all text before the next one. -/
def markupMove (rest : List Char) : Except LexFailure Move :=
  if opens : 0 < openTagLength rest then
    let kind := if rest.drop 2 |>.head? |>.any (· == '=') then .openTagWithEcho else .openTag
    .ok ⟨kind, openTagLength rest, .code, scanner.nesting, opens⟩
  else if length_pos : 0 < markupLength rest then
    .ok ⟨.inlineHtml, markupLength rest, .markup, scanner.nesting, length_pos⟩
  else .error (scanner.unexpected rest)

/-- The next step of a scan over a non-empty text. -/
def move (rest : List Char) : Except LexFailure Move :=
  match scanner.mode with
  | .markup => scanner.markupMove rest
  | .code => scanner.codeMove rest

/-- The state after cutting off a lexeme with the given characters. -/
def advance (move : Move) (chars : List Char) : Scanner where
  mode := move.mode
  nesting := move.nesting
  position := scanner.position.after chars
  emitted := ⟨move.kind, String.ofList chars, scanner.position⟩ :: scanner.emitted

end Scanner

/-- The outcome of a scan: the lexemes read, the text they leave, and the failure that stopped the
scan before the end of the source, if one did. -/
structure Scan where
  lexemes : List Lexeme
  rest : List Char
  failure : Option LexFailure

/-- Scans a text to its end or to the first failure. -/
def Scanner.run (scanner : Scanner) (rest : List Char) : Scan :=
  match rest with
  | [] => ⟨scanner.emitted.reverse, [], none⟩
  | char :: chars =>
    match scanner.move (char :: chars) with
    | .error failure => ⟨scanner.emitted.reverse, char :: chars, some failure⟩
    | .ok move =>
      (scanner.advance move ((char :: chars).take move.length)).run
        ((char :: chars).drop move.length)
termination_by rest.length
decreasing_by
  have := move.length_pos
  simp only [List.length_drop, List.length_cons]
  omega

/-- Scans a source up to its end or to what cannot be read. -/
def scan (source : String) : Scan := Scanner.start.run source.toList

/-- The kind of the first code lexeme of a list, looking past an `&` if asked to. -/
def firstCodeKind (lexemes : List Lexeme) (pastReference : Bool) : Option TokenKind :=
  match lexemes.dropWhile fun lexeme => lexeme.kind.isTrivia with
  | [] => none
  | lexeme :: rest =>
    if pastReference && lexeme.kind = .bitwiseAnd then
      (rest.find? fun lexeme => !lexeme.kind.isTrivia).map Lexeme.kind
    else some lexeme.kind

/-- The kind of a lexeme once it is known what follows: a `function` before a parenthesis is a
closure, and an `array` before anything else is a type. -/
def settledKind (kind : TokenKind) (following : List Lexeme) : TokenKind :=
  match kind with
  | .kwFunction =>
    if firstCodeKind following true = some .openParenthesis then .closure else .kwFunction
  | .kwArray =>
    if firstCodeKind following false = some .openParenthesis then .kwArray else .arrayHint
  | other => other

/-- Gives the words of a scan their final kinds, which depend on what stands behind them. -/
def settle : List Lexeme → List Lexeme
  | [] => []
  | lexeme :: rest => { lexeme with kind := settledKind lexeme.kind rest } :: settle rest

/-- Cuts a source into lexemes. -/
def lex (source : String) : Except LexFailure (List Lexeme) :=
  let scanned := scan source
  match scanned.failure with
  | some failure => .error failure
  | none => .ok (settle scanned.lexemes)

end TokenLint.Lexer
