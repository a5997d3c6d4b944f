/-!
# Blank characters

The characters that count as whitespace when text is trimmed, and trimming itself.
-/

namespace TokenLint.Text

/-- Whether a character is whitespace: the ASCII blanks, the four separators U+001C to U+001F,
the next-line and no-break spaces, and the space and line separators of the wider set. -/
def isBlank (char : Char) : Bool :=
  let code := char.toNat
  (0x9 ≤ code && code ≤ 0xd) || (0x1c ≤ code && code ≤ 0x20) || code == 0x85 || code == 0xa0 ||
    code == 0x1680 || (0x2000 ≤ code && code ≤ 0x200a) || code == 0x2028 || code == 0x2029 ||
    code == 0x202f || code == 0x205f || code == 0x3000

/-- Drops the characters of a set from both ends. -/
def trimChars (inSet : Char → Bool) (chars : List Char) : List Char :=
  ((chars.dropWhile inSet).reverse.dropWhile inSet).reverse

/-- Drops the characters of a set from both ends of a text. -/
def trimSet (inSet : Char → Bool) (text : String) : String :=
  String.ofList (trimChars inSet text.toList)

/-- Drops whitespace from both ends of a text. -/
def trim (text : String) : String := trimSet isBlank text

/-- A text without the characters of a set at its beginning. -/
def trimStartSet (inSet : Char → Bool) (text : String) : String :=
  String.ofList (text.toList.dropWhile inSet)

end TokenLint.Text
