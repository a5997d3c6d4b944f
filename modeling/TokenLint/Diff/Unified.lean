import TokenLint.Diff.Matching
import TokenLint.Text.Lines

/-!
# Unified diffs

The changes between two texts, grouped into hunks with three lines of context around
them. A line is written with its own end, also where that is missing.
-/

namespace TokenLint.Diff

/-- A stretch of both sequences: equal lines, or old lines and the new ones in their place. -/
structure Stretch where
  equal : Bool
  oldStart : Nat
  oldStop : Nat
  newStart : Nat
  newStop : Nat
  deriving DecidableEq, Repr

/-- How many equal lines are shown around a change. -/
def contextLines : Nat := 3

/-- The stretches from a pair of lines on, where the runs of equal lines are given. -/
def stretchesFrom (old new oldSize newSize : Nat) : List MatchBlock → List Stretch
  | [] => if old < oldSize ∨ new < newSize then [⟨false, old, oldSize, new, newSize⟩] else []
  | block :: rest =>
    (if old < block.oldStart ∨ new < block.newStart then
      [⟨false, old, block.oldStart, new, block.newStart⟩] else []) ++
    ⟨true, block.oldStart, block.oldStart + block.size, block.newStart,
      block.newStart + block.size⟩ ::
    stretchesFrom (block.oldStart + block.size) (block.newStart + block.size) oldSize newSize rest

/-- The stretches of two sequences. -/
def stretches (comparison : Comparison) : List Stretch :=
  stretchesFrom 0 0 comparison.old.size comparison.new.size comparison.blocks

namespace Stretch

variable (stretch : Stretch)

/-- The last lines of a stretch, as many as are shown before a change. -/
def tail : Stretch :=
  { stretch with
    oldStart := max stretch.oldStart (stretch.oldStop - contextLines)
    newStart := max stretch.newStart (stretch.newStop - contextLines) }

/-- The first lines of a stretch, as many as are shown after a change. -/
def head : Stretch :=
  { stretch with
    oldStop := min stretch.oldStop (stretch.oldStart + contextLines)
    newStop := min stretch.newStop (stretch.newStart + contextLines) }

/-- Whether a stretch of equal lines is too long to stand within one hunk. -/
def separates : Bool := stretch.equal && 2 * contextLines < stretch.oldStop - stretch.oldStart

/-- The lines of a stretch behind their marks: of two that differ, the old ones first. -/
def text (comparison : Comparison) : String :=
  let marked (mark : String) (lines : Array String) (start stop : Nat) : String :=
    String.join ((lines.extract start stop).toList.map fun line => mark ++ line)
  if stretch.equal then marked " " comparison.old stretch.oldStart stretch.oldStop
  else
    marked "-" comparison.old stretch.oldStart stretch.oldStop ++
      marked "+" comparison.new stretch.newStart stretch.newStop

end Stretch

/-- Stretches grouped into hunks; `hunk` holds the stretches of the first hunk so far. -/
def hunksFrom (hunk : List Stretch) : List Stretch → List (List Stretch)
  | [] => [hunk]
  | stretch :: rest =>
    if stretch.separates then (hunk ++ [stretch.head]) :: hunksFrom [stretch.tail] rest
    else hunksFrom (hunk ++ [stretch]) rest

/-- Stretches with the equal lines at the start cut to what is shown. -/
def trimFirst : List Stretch → List Stretch
  | first :: rest => if first.equal then first.tail :: rest else first :: rest
  | [] => []

/-- Stretches with the equal lines at the end cut to what is shown. -/
def trimLast : List Stretch → List Stretch
  | [] => []
  | [last] => if last.equal then [last.head] else [last]
  | first :: rest => first :: trimLast rest

/-- Whether a hunk shows more than what both texts share. -/
def showsChange (hunk : List Stretch) : Bool := hunk.any fun stretch => !stretch.equal

/-- The hunks of two sequences. -/
def hunks (comparison : Comparison) : List (List Stretch) :=
  (hunksFrom [] (trimLast (trimFirst (stretches comparison)))).filter showsChange

/-- The lines that a hunk covers in one sequence: the first one and how many, unless it is one. An
empty range is named by the line before it. -/
def rangeText (start stop : Nat) : String :=
  match stop - start with
  | 0 => toString start ++ ",0"
  | 1 => toString (start + 1)
  | length => toString (start + 1) ++ "," ++ toString length

/-- A hunk behind its header. -/
def hunkText (comparison : Comparison) (hunk : List Stretch) : String :=
  match hunk.head?, hunk.getLast? with
  | some first, some last =>
    "@@ -" ++ rangeText first.oldStart last.oldStop ++ " +" ++
      rangeText first.newStart last.newStop ++ " @@\n" ++
      String.join (hunk.map fun stretch => stretch.text comparison)
  | _, _ => ""

/-- The differences between two texts, behind the names of both; nothing where they are the same. -/
def unified (oldName newName oldText newText : String) : String :=
  let comparison : Comparison := ⟨(Text.lines oldText).toArray, (Text.lines newText).toArray⟩
  match hunks comparison with
  | [] => ""
  | found =>
    "--- " ++ oldName ++ "\n+++ " ++ newName ++ "\n" ++
      String.join (found.map (hunkText comparison))

end TokenLint.Diff
