import TokenLint.Number.Decimal
import TokenLint.Text.Quoted

/-!
# Configuration values

What a configuration document, a rule option or a message argument may hold. Tables
keep the order in which their keys were written.
-/

namespace TokenLint

/-- A value of a configuration document. -/
inductive Value where
  | null
  | bool (flag : Bool)
  | int (number : Int)
  | float (number : Binary64)
  | text (content : String)
  | list (items : List Value)
  | table (entries : List (String × Value))
  deriving Inhabited

/-- Entries of a table, in order. -/
abbrev Table := List (String × Value)

namespace Table

/-- The value under a key. -/
def get? (table : Table) (key : String) : Option Value := table.lookup key

/-- Whether a table has a key. -/
def has (table : Table) (key : String) : Bool := (table.get? key).isSome

/-- Enters a value under a key; a present key keeps its place. -/
def set (table : Table) (key : String) (value : Value) : Table :=
  if table.has key then
    table.map fun entry => if entry.1 = key then (key, value) else entry
  else table ++ [(key, value)]

/-- The entries of `newer` entered on top of `older`. -/
def merge (older newer : Table) : Table :=
  newer.foldl (fun table entry => table.set entry.1 entry.2) older

end Table

namespace Value

/-- The name of a value's type, as messages give it. -/
def typeName : Value → String
  | null => "NoneType"
  | bool _ => "bool"
  | int _ => "int"
  | float _ => "float"
  | text _ => "str"
  | list _ => "list"
  | table _ => "dict"

/-- Whether a value counts as true: everything but null, false, zero and empty values. -/
def isTrue : Value → Bool
  | null => false
  | bool flag => flag
  | int number => number != 0
  | float number => !number.isZero
  | text content => !content.isEmpty
  | list items => !items.isEmpty
  | table entries => !entries.isEmpty

mutual

/-- A value as it is shown, with some way of quoting texts. -/
def displayWith (quote : String → String) : Value → String
  | null => "None"
  | bool flag => if flag then "True" else "False"
  | int number => toString number
  | float number => number.text
  | text content => quote content
  | list items => "[" ++ ", ".intercalate (displayItems quote items) ++ "]"
  | table entries => "\x7b" ++ ", ".intercalate (displayEntries quote entries) ++ "\x7d"

/-- The items of a list as they are shown. -/
def displayItems (quote : String → String) : List Value → List String
  | [] => []
  | item :: rest => displayWith quote item :: displayItems quote rest

/-- The entries of a table as they are shown, each behind its key. -/
def displayEntries (quote : String → String) : List (String × Value) → List String
  | [] => []
  | (key, value) :: rest =>
    (quote key ++ ": " ++ displayWith quote value) :: displayEntries quote rest

end

/-- A value as messages show it. -/
def display (value : Value) : String := displayWith Text.quoted value

/-- The text of a value: a text stands for itself and anything else is displayed. -/
def plain : Value → String
  | text content => content
  | value => value.display

/-- The entries of a table, and nothing for any other value. -/
def entries? : Value → Option Table
  | table entries => some entries
  | _ => none

/-- The content of a text, and nothing for any other value. -/
def text? : Value → Option String
  | text content => some content
  | _ => none

/-- The items of a list of texts, and nothing for any other value. -/
def texts? : Value → Option (List String)
  | list items => items.mapM text?
  | _ => none

end Value

end TokenLint
