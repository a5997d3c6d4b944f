/-!
# Lines

A text cut after its line ends. Besides the line feed, the carriage return and the two
together, the vertical tab, the form feed, three of the information separators, the
next-line character and the line and paragraph separators end a line.
-/

namespace TokenLint.Text

/-- Whether a character ends a line: line feeds and carriage returns, form feeds, separators and the
like. -/
def endsLine (char : Char) : Bool :=
  let code := char.toNat
  (0xa ≤ code && code ≤ 0xd) || (0x1c ≤ code && code ≤ 0x1e) || code == 0x85 || code == 0x2028 ||
    code == 0x2029

/-- The lines of characters with their ends. `current` holds the start of the first line, last
character first. -/
def linesFrom (current : List Char) : List Char → List (List Char)
  | [] => if current.isEmpty then [] else [current.reverse]
  | '\r' :: '\n' :: rest => ('\n' :: '\r' :: current).reverse :: linesFrom [] rest
  | char :: rest =>
    if endsLine char then (char :: current).reverse :: linesFrom [] rest
    else linesFrom (char :: current) rest

/-- The lines of a text with what ends them; a last line may go without. -/
def lines (text : String) : List String := (linesFrom [] text.toList).map String.ofList

end TokenLint.Text
