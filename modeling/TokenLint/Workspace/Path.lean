import TokenLint.Text.LowerCase

/-!
# Paths

A path is a list of names, relative or from the root. Empty names and single dots are
dropped when a path is read; double dots are kept, since what they mean depends on the
directories on the way.
-/

namespace TokenLint

/-- A path. `anchor` is empty for a relative path, and the slashes at the start of any other. -/
structure Path where
  anchor : String
  parts : List String
  deriving DecidableEq, Repr

namespace Path

/-- What stands between slashes. -/
def splitSlashes : List Char → List (List Char)
  | [] => [[]]
  | char :: rest =>
    match splitSlashes rest with
    | [] => [[char]]
    | current :: others =>
      if char = '/' then [] :: current :: others else (char :: current) :: others

/-- The anchor of a path: two slashes are kept apart from one, more count as one. -/
def anchorOf (chars : List Char) : String :=
  match (chars.takeWhile fun char => char = '/').length with
  | 0 => ""
  | 2 => "//"
  | _ => "/"

/-- The path that a text spells. -/
def ofText (text : String) : Path where
  anchor := anchorOf text.toList
  parts := ((splitSlashes text.toList).map String.ofList).filter fun part => part ≠ "" && part ≠ "."

/-- The path of some names below the root. -/
def absolute (parts : List String) : Path := ⟨"/", parts⟩

variable (path : Path)

/-- Whether a path starts at the root. -/
def isAbsolute : Bool := !path.anchor.isEmpty

/-- The text of a path; the empty relative path is a dot. -/
def text : String :=
  if path.anchor.isEmpty && path.parts.isEmpty then "."
  else path.anchor ++ "/".intercalate path.parts

/-- A path taken from another one. -/
def join (other : Path) : Path :=
  if other.isAbsolute then other else { path with parts := path.parts ++ other.parts }

/-- A path followed by some names. -/
def below (parts : List String) : Path := { path with parts := path.parts ++ parts }

/-- Names with every double dot taken back together with the name before it; `trail` holds the
names so far, last first. -/
def foldDots (trail : List String) : List String → List String
  | [] => trail.reverse
  | part :: rest => if part = ".." then foldDots trail.tail rest else foldDots (part :: trail) rest

/-- The names below the root of the place that a path leads to from a directory. -/
def resolve (directory : List String) : List String :=
  foldDots [] (if path.isAbsolute then path.parts else directory ++ path.parts)

/-- Whether a list of names comes before another or is the same. -/
def partsBefore : List String → List String → Bool
  | [], _ => true
  | _ :: _, [] => false
  | left :: lefts, right :: rights =>
    if left = right then partsBefore lefts rights else left < right

end Path

/-- The part of a file name from its last dot on. A dot at either end of the name begins none. -/
def fileSuffix (name : String) : String :=
  let chars := name.toList
  let after := (chars.reverse.takeWhile fun char => char ≠ '.').reverse
  if after.isEmpty || chars.length ≤ after.length + 1 then "" else String.ofList ('.' :: after)

end TokenLint
