import TokenLint.Text.Printable

/-!
# Quoted display of text

Text between quotes with everything invisible escaped, as shown in messages.
The display prefers single quotes and takes double quotes only where that saves
escaping.
-/

namespace TokenLint.Text

/-- The lower-case hexadecimal digits of a number, padded with zeros to a width. -/
def hexPadded (width number : Nat) : List Char :=
  let digits := Nat.toDigits 16 number
  List.replicate (width - digits.length) '0' ++ digits

/-- The escape of a character that is not shown as itself. -/
def hexEscape (char : Char) : List Char :=
  let code := char.toNat
  if code < 0x100 then '\\' :: 'x' :: hexPadded 2 code
  else if code < 0x10000 then '\\' :: 'u' :: hexPadded 4 code
  else '\\' :: 'U' :: hexPadded 8 code

/-- How one character is shown between the given quotes. `visible` tells which characters need
no escape. -/
def quotedChar (visible : Char → Bool) (quote char : Char) : List Char :=
  if char = quote ∨ char = '\\' then ['\\', char]
  else if char = '\n' then ['\\', 'n']
  else if char = '\r' then ['\\', 'r']
  else if char = '\t' then ['\\', 't']
  else if visible char then [char]
  else hexEscape char

/-- The quote for a text: double when it holds single quotes and no double one. -/
def quoteFor (chars : List Char) : Char :=
  if chars.contains '\'' && !chars.contains '"' then '"' else '\''

/-- The quoted display of a text with a chosen set of visible characters. -/
def quotedWith (visible : Char → Bool) (text : String) : String :=
  let chars := text.toList
  let quote := quoteFor chars
  String.ofList (quote :: chars.flatMap (quotedChar visible quote) ++ [quote])

/-- A text in quotes, with escapes for what cannot be printed. -/
def quoted (text : String) : String := quotedWith isPrintable text

/-- The quoted display of a text with everything beyond ASCII escaped. -/
def quotedAscii (text : String) : String :=
  quotedWith (fun char => char.toNat < 0x80 && isPrintable char) text

end TokenLint.Text
