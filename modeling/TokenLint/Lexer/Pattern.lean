import TokenLint.Text.Blank
import TokenLint.Text.Digit
import TokenLint.Text.Word

/-!
# Shapes of lexemes

Each function here measures how many characters at the head of a text form one
shape: a name, a number, a comment, a string and so on. Zero, or `none`, means that
the shape does not stand there. Lengths rather than pieces are returned, so that a
lexeme is always a literal stretch of the source.
-/

namespace TokenLint.Lexer

open Text

/-- The length of the longest run of characters with a property. -/
def runLength (inRun : Char → Bool) (chars : List Char) : Nat :=
  (chars.takeWhile inRun).length

/-- Whether a character can start a name: an ASCII letter, the underscore, or any character from
U+0080 to U+FFFF. -/
def isNameStart (char : Char) : Bool :=
  char.isAlpha || char == '_' || (0x80 ≤ char.toNat && char.toNat ≤ 0xffff)

/-- Whether a character can continue a name. -/
def isNamePart (char : Char) : Bool := isNameStart char || char.isDigit

/-- The length of the name at the beginning; 0 if there is none. -/
def nameLength : List Char → Nat
  | char :: rest => if isNameStart char then 1 + runLength isNamePart rest else 0
  | [] => 0

/-- Whether a character is a blank within a line. -/
def isSpaceOrTab (char : Char) : Bool := char == ' ' || char == '\t'

/-- The length of the line break at the beginning: both characters of a pair, or one alone. -/
def lineBreakLength : List Char → Nat
  | '\r' :: '\n' :: _ => 2
  | '\r' :: _ => 1
  | '\n' :: _ => 1
  | _ => 0

/-- The length of a whitespace lexeme: spaces and tabs up to and including one line break. -/
def whitespaceLength (chars : List Char) : Nat :=
  let blanks := runLength isSpaceOrTab chars
  blanks + lineBreakLength (chars.drop blanks)

/-- The length up to and including the first end of a block comment. -/
def lengthToCommentEnd? : List Char → Option Nat
  | '*' :: '/' :: _ => some 2
  | _ :: rest => (lengthToCommentEnd? rest).map (· + 1)
  | [] => none

/-- The length of a block comment whose opening sign stands at the head. -/
def blockCommentLength? (chars : List Char) : Option Nat :=
  (lengthToCommentEnd? (chars.drop 2)).map (· + 2)

/-- Whether a documentation comment starts here: its opening sign is followed by a blank or by a
further star. -/
def startsDocComment : List Char → Bool
  | '/' :: '*' :: '*' :: char :: _ => isBlank char || char == '*'
  | _ => false

/-- How far a line comment reaches: up to a line break or a close tag. -/
def lineCommentReach : List Char → Nat
  | [] => 0
  | '?' :: '>' :: _ => 0
  | char :: rest => if char = '\r' ∨ char = '\n' then 0 else 1 + lineCommentReach rest

/-- The length of the comment at the beginning that ends with its line. -/
def lineCommentLength : List Char → Nat
  | '/' :: '/' :: rest => 2 + lineCommentReach rest
  | '#' :: rest => 1 + lineCommentReach rest
  | _ => 0

/-- The length of the variable at the beginning: a dollar sign and a name. -/
def variableLength : List Char → Nat
  | '$' :: rest => if nameLength rest = 0 then 0 else 1 + nameLength rest
  | _ => 0

/-- Whether a character is a spelling of a lower-case ASCII letter when case is ignored. The
long s, and the dotless and dotted i, count as spellings too. -/
def spellsLetter (letter char : Char) : Bool :=
  char.toLower == letter ||
    (letter == 'i' && (char == 'ı' || char == 'İ')) ||
    (letter == 's' && char == 'ſ') ||
    (letter == 'k' && char == '\u212a')

/-- Whether a word spells a lower-case ASCII word when case is ignored. -/
def spellsWord : List Char → List Char → Bool
  | [], [] => true
  | letter :: word, char :: chars => spellsLetter letter char && spellsWord word chars
  | _, _ => false

/-- The name and the length of a cast: one of `names` between parentheses, with spaces and tabs
around it. -/
def cast? (names : List String) : List Char → Option (String × Nat)
  | '(' :: rest =>
    let leading := runLength isSpaceOrTab rest
    let word := (rest.drop leading).takeWhile fun char => !isSpaceOrTab char && char != ')'
    let afterWord := rest.drop (leading + word.length)
    let trailing := runLength isSpaceOrTab afterWord
    if (afterWord.drop trailing).head? = some ')' ∧
        names.any (fun name => spellsWord name.toList word) then
      some (String.ofList word, 1 + leading + word.length + trailing + 1)
    else none
  | _ => none

/-- The length of a run of digits with underscores behind the first one. -/
def digitRunLength : List Char → Nat
  | char :: rest =>
    if isDigit char then 1 + runLength (fun char => isDigit char || char == '_') rest else 0
  | [] => 0

/-- The length of the sign at the beginning. -/
def signLength : List Char → Nat
  | '+' :: _ => 1
  | '-' :: _ => 1
  | _ => 0

/-- The length of the exponent at the beginning, which needs a digit. -/
def exponentLength : List Char → Nat
  | mark :: rest =>
    let sign := signLength rest
    let digits := runLength isDigit (rest.drop sign)
    if (mark = 'e' ∨ mark = 'E') ∧ 0 < digits then 1 + sign + digits else 0
  | [] => 0

/-- The length of the number with a point or an exponent at the beginning. A point without digits
behind it needs some before it, and is not the first of two points. -/
def floatLength (chars : List Char) : Nat :=
  let whole := digitRunLength chars
  match chars.drop whole with
  | '.' :: fraction =>
    let places := digitRunLength fraction
    if 0 < places then whole + 1 + places + exponentLength (fraction.drop places)
    else if whole = 0 ∨ fraction.head? = some '.' then 0
    else whole + 1 + exponentLength fraction
  | afterWhole =>
    let exponent := exponentLength afterWhole
    if whole = 0 ∨ exponent = 0 then 0 else whole + exponent

/-- Whether a character may stand in a hexadecimal number. -/
def isHexPart (char : Char) : Bool :=
  char.isDigit || ('a' ≤ char.toLower && char.toLower ≤ 'f') || char == '_'

/-- Whether a character may stand in a binary number. -/
def isBinaryPart (char : Char) : Bool := char == '0' || char == '1' || char == '_'

/-- The length of the integer at the beginning, in hexadecimal, binary or decimal digits. A mark
without digits behind it is not part of it. -/
def integerLength (chars : List Char) : Nat :=
  match chars with
  | '0' :: mark :: rest =>
    let hex := runLength isHexPart rest
    let binary := runLength isBinaryPart rest
    if mark.toLower = 'x' ∧ 0 < hex then 2 + hex
    else if mark.toLower = 'b' ∧ 0 < binary then 2 + binary
    else digitRunLength chars
  | _ => digitRunLength chars

/-- The length up to and including the closing quote, where a backslash hides the character after
it. -/
def lengthToQuote? (quote : Char) : List Char → Option Nat
  | [] => none
  | '\\' :: _ :: rest => (lengthToQuote? quote rest).map (· + 2)
  | char :: rest => if char = quote then some 1 else (lengthToQuote? quote rest).map (· + 1)

/-- The length of a string in quotes at the beginning; 0 if it does not end. -/
def stringLength (quote : Char) : List Char → Nat
  | char :: rest =>
    if char = quote then ((lengthToQuote? quote rest).map (· + 1)).getD 0 else 0
  | [] => 0

/-- Whether a double-quoted text mentions a variable: an unescaped dollar sign before a name or a
brace, or a brace before a dollar sign. `previous` is the character before the text. -/
def hasInterpolation (previous : Option Char) : List Char → Bool
  | [] => false
  | char :: rest =>
    (char == '\x7b' && rest.head? == some '$') ||
      (char == '$' && previous != some '\\' &&
        rest.head?.any fun next => next.isAlpha || next == '_' || next == '\x7b') ||
      hasInterpolation (some char) rest

/-- The quote before the label of a heredoc, if there is one. -/
def labelQuote : List Char → List Char
  | '"' :: _ => ['"']
  | '\'' :: _ => ['\'']
  | _ => []

/-- The length of the line break behind a label, which is none of the old single carriage return. -/
def labelBreakLength : List Char → Nat
  | '\n' :: _ => 1
  | '\r' :: '\n' :: _ => 2
  | _ => 0

/-- The label and the length of the first line of a heredoc. -/
def heredocStart? : List Char → Option (List Char × Nat)
  | '<' :: '<' :: '<' :: rest =>
    let blanks := runLength isSpaceOrTab rest
    let afterBlanks := rest.drop blanks
    let quote := labelQuote afterBlanks
    let fromLabel := afterBlanks.drop quote.length
    let label := fromLabel.take (nameLength fromLabel)
    let afterLabel := fromLabel.drop label.length
    let afterQuote := afterLabel.drop quote.length
    let lineBreak := labelBreakLength afterQuote
    if 0 < label.length ∧ quote.isPrefixOf afterLabel ∧ 0 < lineBreak then
      some (label, 3 + blanks + quote.length + label.length + quote.length + lineBreak)
    else none
  | _ => none

/-- The length of a heredoc's closing label with the blanks before it, at the start of a line. -/
def closingLabelLength? (label chars : List Char) : Option Nat :=
  let blanks := runLength isSpaceOrTab chars
  let fromLabel := chars.drop blanks
  if label.isPrefixOf fromLabel ∧
      label.getLast?.any (fun last => isWordBoundary last (fromLabel.drop label.length).head?) then
    some (blanks + label.length)
  else none

/-- The length up to and including the closing label of a heredoc. -/
def lengthToClosingLabel? (label : List Char) (atLineStart : Bool) : List Char → Option Nat
  | [] => none
  | char :: rest =>
    match if atLineStart then closingLabelLength? label (char :: rest) else none with
    | some length => some length
    | none => (lengthToClosingLabel? label (char = '\n') rest).map (· + 1)

/-- The length of the blank or line break that an open tag absorbs. -/
def absorbedLength : List Char → Nat
  | '\r' :: '\n' :: _ => 2
  | char :: _ => if isSpaceOrTab char ∨ char = '\n' ∨ char = '\r' then 1 else 0
  | [] => 0

/-- The length of the tag at the beginning that code starts with, and of the blank that belongs to
it. -/
def openTagLength : List Char → Nat
  | '<' :: '?' :: '=' :: _ => 3
  | '<' :: '?' :: first :: second :: third :: rest =>
    if first.toLower = 'p' ∧ second.toLower = 'h' ∧ third.toLower = 'p' then
      5 + absorbedLength rest
    else 0
  | _ => 0

/-- The length of the text before the next open tag. -/
def markupLength : List Char → Nat
  | [] => 0
  | char :: rest => if 0 < openTagLength (char :: rest) then 0 else 1 + markupLength rest

/-- The length of a tag that closes code, with the one line break it absorbs. -/
def closeTagLength : List Char → Nat
  | '?' :: '>' :: '\r' :: '\n' :: _ => 4
  | '?' :: '>' :: '\n' :: _ => 3
  | '?' :: '>' :: _ => 2
  | _ => 0

end TokenLint.Lexer
