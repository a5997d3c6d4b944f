import TokenLint.Token.Basic
import TokenLint.Number.Numeral
import TokenLint.Text.LowerCase

/-!
# Array keys

When two keys of an array literal are the same. Strings that write an integer are that
integer, numbers are cut to integers, booleans are zero and one, and null is the empty
string; constants and other names are compared by their spelling.
-/

namespace TokenLint

/-- A key of an array, as far as it can be compared with others. What is not read stands for itself.
-/
inductive ArrayKey where
  | int (number : Int)
  | text (content : String)
  | spelling (kind : TokenKind) (content : String)
  deriving DecidableEq

namespace ArrayKey

/-- The base that a number literal in lower case announces. -/
def literalBase (chars : List Char) : Nat :=
  match chars with
  | '0' :: 'x' :: _ => 16
  | '0' :: 'b' :: _ => 2
  | '0' :: _ :: _ => 8
  | _ => 10

/-- A numeral without the underscores between its digits. -/
def withoutUnderscores (text : String) : String :=
  String.ofList (text.toList.filter fun char => char ≠ '_')

/-- The value of an integer literal. -/
def readLiteral (text : String) : Except NumeralError Int :=
  let lowered := Text.lower (withoutUnderscores text)
  readInteger (literalBase lowered.toList) lowered

/-- Whether characters write an integer in the one way that makes a string the same key as it. -/
def isCanonicalInteger (chars : List Char) : Bool :=
  let digits := match chars with
    | '-' :: rest => rest
    | _ => chars
  chars == ['0'] ||
    match digits with
    | first :: rest => first.isDigit && first ≠ '0' && rest.all Char.isDigit
    | [] => false

/-- The key of a string's content. A decimal integer that is too long to be read has none. -/
def ofString (content : String) : Except Nat ArrayKey :=
  if isCanonicalInteger content.toList then
    match readInteger 10 content with
    | .ok number => .ok (int number)
    | .error (.tooManyDigits count) => .error count
    | .error .notANumeral => .ok (text content)
  else .ok (text content)

/-- A text without its first and last character. -/
def withoutQuotes (content : String) : String := String.ofList ((content.toList.drop 1).dropLast)

/-- The key of a floating-point literal; one without an integer part keeps its spelling. -/
def ofFloat (content : String) : ArrayKey :=
  match (readFloat? (withoutUnderscores content)).bind Binary64.truncate? with
  | some number => int number
  | none => text content

/-- The key that a token spells; the number of digits where it spells an integer that is too long to
be read. -/
def ofToken (token : Token) : Except Nat ArrayKey :=
  match token.kind with
  | .integerNumber =>
    match readLiteral token.content with
    | .ok number => .ok (int number)
    | .error _ => .ok (text token.content)
  | .plainString => ofString (withoutQuotes token.content)
  | .floatNumber => .ok (ofFloat token.content)
  | .trueLiteral => .ok (int 1)
  | .falseLiteral => .ok (int 0)
  | .nullLiteral => .ok (text "")
  | kind => .ok (spelling kind token.content)

end ArrayKey

end TokenLint
