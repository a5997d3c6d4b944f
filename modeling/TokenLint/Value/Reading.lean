import TokenLint.Value

/-!
# Reading values as tables and sequences

Where a table is wanted, a list of pairs will do, and so will any sequence of items
with two parts each. What cannot be read is refused with a cause.
-/

namespace TokenLint

/-- Why a value cannot be read as asked. -/
inductive ReadingError where
  | noAttribute (typeName member : String)
  | notIterable (typeName : String)
  | notAPair (index : Nat)
  | pairLength (index length : Nat)
  | unhashable (typeName : String)
  | notOrdered (left right : String)
  deriving DecidableEq

namespace ReadingError

/-- The class of a refusal. -/
def label : ReadingError → String
  | noAttribute .. => "AttributeError"
  | pairLength .. => "ValueError"
  | _ => "TypeError"

/-- The wording of a refusal. -/
def message : ReadingError → String
  | noAttribute typeName member =>
    "'" ++ typeName ++ "' object has no attribute '" ++ member ++ "'"
  | notIterable typeName => "'" ++ typeName ++ "' object is not iterable"
  | notAPair index =>
    "cannot convert dictionary update sequence element #" ++ toString index ++ " to a sequence"
  | pairLength index length =>
    "dictionary update sequence element #" ++ toString index ++ " has length " ++
      toString length ++ "; 2 is required"
  | unhashable typeName => "unhashable type: '" ++ typeName ++ "'"
  | notOrdered left right =>
    "'<' not supported between instances of '" ++ left ++ "' and '" ++ right ++ "'"

end ReadingError

namespace Value

/-- The items of a sequence: of a list, the characters of a text, or the keys of a table. -/
def sequence? : Value → Option (List Value)
  | list items => some items
  | text content => some (content.toList.map fun char => text (String.ofList [char]))
  | table entries => some (entries.map fun entry => text entry.1)
  | _ => none

/-- The items of a value, which must have some. -/
def sequence (value : Value) : Except ReadingError (List Value) :=
  match value.sequence? with
  | some items => .ok items
  | none => .error (.notIterable value.typeName)

/-- Whether a value can be an element of a set or a key. -/
def isHashable : Value → Bool
  | list _ | table _ => false
  | _ => true

/-- A table made of pairs; `index` is the number of the first one. -/
def tableOfPairs (made : Table) (index : Nat) : List Value → Except ReadingError Table
  | [] => .ok made
  | item :: rest =>
    match item.sequence? with
    | none => .error (.notAPair index)
    | some [key, value] =>
      if key.isHashable then tableOfPairs (made.set key.plain value) (index + 1) rest
      else .error (.unhashable key.typeName)
    | some parts => .error (.pairLength index parts.length)

/-- A value as a table; a sequence of pairs stands for one. -/
def asTable : Value → Except ReadingError Table
  | table entries => .ok entries
  | value => do tableOfPairs [] 0 (← value.sequence)

/-- The entries of a value that must be a table, when it is asked for an attribute of tables. -/
def entriesFor (member : String) (value : Value) : Except ReadingError Table :=
  match value with
  | table entries => .ok entries
  | other => .error (.noAttribute other.typeName member)

end Value

end TokenLint
