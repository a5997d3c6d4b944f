import TokenLint.Text.Quoted
import TokenLint.Value

/-!
# JSON

Values written as JSON over several lines, two spaces deeper at each level. Texts keep
every character that JSON does not require to be escaped.
-/

namespace TokenLint.Json

/-- How a character is written between double quotes. -/
def escapeChar (char : Char) : List Char :=
  if char = '"' then ['\\', '"']
  else if char = '\\' then ['\\', '\\']
  else if char = '\n' then ['\\', 'n']
  else if char = '\r' then ['\\', 'r']
  else if char = '\t' then ['\\', 't']
  else if char = '\x08' then ['\\', 'b']
  else if char = '\x0c' then ['\\', 'f']
  else if char.toNat < 0x20 then '\\' :: 'u' :: Text.hexPadded 4 char.toNat
  else [char]

/-- A text between double quotes. -/
def quoteText (text : String) : String :=
  String.ofList ('"' :: text.toList.flatMap escapeChar ++ ['"'])

/-- A line break and the indentation of a depth. -/
def newLine (depth : Nat) : String := String.ofList ('\n' :: List.replicate (2 * depth) ' ')

/-- Items between brackets, each on a line of its own at a depth. -/
def enclose (opener closer : String) (depth : Nat) (items : List String) : String :=
  if items.isEmpty then opener ++ closer
  else
    opener ++ newLine (depth + 1) ++ ("," ++ newLine (depth + 1)).intercalate items ++
      newLine depth ++ closer

mutual

/-- A value at some depth; items and entries stand on lines of their own. -/
def render (depth : Nat) : Value → String
  | .null => "null"
  | .bool flag => if flag then "true" else "false"
  | .int number => toString number
  | .float number => number.text
  | .text content => quoteText content
  | .list items => enclose "[" "]" depth (renderItems (depth + 1) items)
  | .table entries => enclose "\x7b" "\x7d" depth (renderEntries (depth + 1) entries)

/-- The items of a list, each on its own. -/
def renderItems (depth : Nat) : List Value → List String
  | [] => []
  | item :: rest => render depth item :: renderItems depth rest

/-- The entries of a table, each behind its key. -/
def renderEntries (depth : Nat) : List (String × Value) → List String
  | [] => []
  | (key, value) :: rest =>
    (quoteText key ++ ": " ++ render depth value) :: renderEntries depth rest

end

/-- A document of one value, which ends its last line. -/
def document (value : Value) : String := render 0 value ++ "\n"

end TokenLint.Json
