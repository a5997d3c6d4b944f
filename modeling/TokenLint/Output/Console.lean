import TokenLint.Output.Symbol
import TokenLint.Text.Blank
import TokenLint.Text.CellWidth
import TokenLint.Text.LowerCase

/-!
# Console lines

Lines for people are written in a small markup: a name in square brackets begins or
ends a style, a name between colons stands for a symbol, and a backslash before a
bracket takes its meaning away. The output is plain text, so styles leave no trace in
it. Text from outside is escaped before it is put into a line.
-/

namespace TokenLint.Output

/-- Whether a character may begin the name of a style. -/
def beginsTag (char : Char) : Bool :=
  ('a' ≤ char && char ≤ 'z') || char = '#' || char = '/' || char = '@'

/-- The tag at the head of a text, brackets included. -/
def tagAt? : List Char → Option (List Char)
  | '[' :: first :: rest =>
    let name := rest.takeWhile fun char => char ≠ '[' && char ≠ ']'
    match rest.drop name.length with
    | ']' :: _ => if beginsTag first then some ('[' :: first :: name ++ [']']) else none
    | _ => none
  | _ => none

/-- A part of a marked-up text: a character, or a tag with the number of backslashes before it. -/
inductive MarkupPart where
  | char (char : Char)
  | tag (backslashes : Nat) (content : List Char)
  deriving DecidableEq

/-- The tag at the head of a text after a run of backslashes. -/
def escapedTagAt? (chars : List Char) : Option MarkupPart :=
  let backslashes := (chars.takeWhile fun char => char = '\\').length
  (tagAt? (chars.drop backslashes)).map (MarkupPart.tag backslashes)

/-- The parts of a text, of which `skip` characters belong to a part already read. -/
def markupParts (skip : Nat) : List Char → List MarkupPart
  | [] => []
  | char :: rest =>
    match skip with
    | skip + 1 => markupParts skip rest
    | 0 =>
      match escapedTagAt? (char :: rest) with
      | some (.tag backslashes content) =>
        .tag backslashes content :: markupParts (backslashes + content.length - 1) rest
      | _ => .char char :: markupParts 0 rest

/-- Escapes one part: a tag gets one more backslash than twice those before it. -/
def escapePart : MarkupPart → List Char
  | .char char => [char]
  | .tag backslashes content => List.replicate (2 * backslashes + 1) '\\' ++ content

/-- Escapes characters, and a single backslash at their end. -/
def escapeChars (chars : List Char) : List Char :=
  let escaped := (markupParts 0 chars).flatMap escapePart
  match escaped.reverse with
  | '\\' :: '\\' :: _ => escaped
  | '\\' :: _ => escaped ++ ['\\']
  | _ => escaped

/-- Escapes a text, so that it stands for itself in a marked-up line. -/
def escapeMarkup (text : String) : String := String.ofList (escapeChars text.toList)

/-- The stretches of text between the tags. Half of the backslashes before a tag are text, and a tag
with an odd number of them is text itself. `current` holds the stretch so far, last character
first. -/
def stretchesFrom (current : List Char) : List MarkupPart → List (List Char)
  | [] => [current.reverse]
  | .char char :: rest => stretchesFrom (char :: current) rest
  | .tag backslashes content :: rest =>
    current.reverse :: List.replicate (backslashes / 2) '\\' ::
      (if backslashes % 2 = 1 then [content] else []) ++ stretchesFrom [] rest

/-- Drops the backslash before each bracket. -/
def unescapeBrackets : List Char → List Char
  | '\\' :: '[' :: rest => '[' :: unescapeBrackets rest
  | char :: rest => char :: unescapeBrackets rest
  | [] => []

/-- Splits a variant off a symbol's name: the name, and the character that selects the variant. -/
def splitVariant (name : String) : String × List Char :=
  let chars := name.toList
  if "-emoji".toList.isSuffixOf chars then
    (String.ofList (chars.take (chars.length - 6)), ['\ufe0f'])
  else if "-text".toList.isSuffixOf chars then
    (String.ofList (chars.take (chars.length - 5)), ['\ufe0e'])
  else (name, [])

/-- The name between the colon at the head of a text and the next one. -/
def symbolNameAt? : List Char → Option (List Char)
  | ':' :: rest =>
    let name := rest.takeWhile fun char => char ≠ ':' && !Text.isBlank char
    match rest.drop name.length with
    | ':' :: _ => some name
    | _ => none
  | _ => none

/-- What a name between colons is shown as. -/
def showSymbol (name : List Char) : List Char :=
  let (base, variant) := splitVariant (String.ofList name)
  match symbol? (Text.lower base) with
  | some symbol => symbol ++ variant
  | none => ':' :: name ++ [':']

/-- Puts symbols in place of their names, where `skip` characters are already dealt with. -/
def replaceSymbols (skip : Nat) : List Char → List Char
  | [] => []
  | char :: rest =>
    match skip with
    | skip + 1 => replaceSymbols skip rest
    | 0 =>
      match symbolNameAt? (char :: rest) with
      | some name => showSymbol name ++ replaceSymbols (name.length + 1) rest
      | none => char :: replaceSymbols 0 rest

/-- Control characters that are not shown. -/
def isHiddenControl (char : Char) : Bool :=
  let code := char.toNat
  code = 7 || code = 8 || code = 11 || code = 12 || code = 13

/-- The plain text of a marked-up one. -/
def renderChars (chars : List Char) : List Char :=
  ((stretchesFrom [] (markupParts 0 chars)).flatMap fun stretch =>
    replaceSymbols 0 (unescapeBrackets stretch)).filter fun char => !isHiddenControl char

/-- The distance between tab stops. -/
def tabWidth : Nat := 8

/-- Puts spaces in place of tabs, where `column` cells of the line are taken. -/
def expandTabs (column : Nat) : List Char → List Char
  | [] => []
  | char :: rest =>
    if char = '\t' then
      let width := tabWidth - column % tabWidth
      List.replicate width ' ' ++ expandTabs (column + width) rest
    else if char = '\n' then char :: expandTabs 0 rest
    else char :: expandTabs (column + Text.cellWidth char) rest

/-- A marked-up line as plain text with its line end. -/
def consoleLine (markup : String) : String :=
  String.ofList (expandTabs 0 (renderChars markup.toList) ++ ['\n'])

/-- The length of the colour or movement code at the head of a text. -/
def controlSequenceLength (chars : List Char) : Nat :=
  match chars with
  | '\x1b' :: '[' :: rest =>
    let parameters := rest.takeWhile fun char => char = ';' || char = '?' || char.isDigit
    match rest.drop parameters.length with
    | last :: _ => if last.isAlpha then parameters.length + 3 else 0
    | [] => 0
  | _ => 0

/-- Drops colour and movement codes, where `skip` characters are already dealt with. -/
def dropControlSequences (skip : Nat) : List Char → List Char
  | [] => []
  | char :: rest =>
    match skip with
    | skip + 1 => dropControlSequences skip rest
    | 0 =>
      match controlSequenceLength (char :: rest) with
      | 0 => char :: dropControlSequences 0 rest
      | length + 1 => dropControlSequences length rest

/-- A text without colour and movement codes. -/
def plainOutput (text : String) : String := String.ofList (dropControlSequences 0 text.toList)

end TokenLint.Output
