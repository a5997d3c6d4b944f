/-!
# Matching lines

What two sequences of lines have in common: the longest run of lines that stands in
both, then the same again for what is before and after it. In a long sequence, lines
that are very frequent begin no run of their own, but may extend one.
-/

namespace TokenLint.Diff

/-- Two sequences of lines to be compared. -/
structure Comparison where
  old : Array String
  new : Array String

/-- A run of lines that stands in both sequences: its first lines and its length. -/
structure MatchBlock where
  oldStart : Nat
  newStart : Nat
  size : Nat
  deriving DecidableEq, Repr

/-- A part of both sequences: first lines, and the lines after the last. -/
structure Window where
  oldLow : Nat
  oldHigh : Nat
  newLow : Nat
  newHigh : Nat

namespace Comparison

/-- From this length on, very frequent lines begin no run. -/
def frequencyThreshold : Nat := 200

variable (comparison : Comparison)

/-- Whether a line of the new sequence is very frequent there. -/
def isFrequent (line : String) : Bool :=
  let length := comparison.new.size
  frequencyThreshold ≤ length &&
    length / 100 + 1 < (comparison.new.toList.countP fun other => other == line)

/-- For each line of the new sequence whether it may begin a run. -/
def starters : Array Bool := comparison.new.map fun line => !comparison.isFrequent line

/-- Whether lines of the two sequences are equal. -/
def agree (old new : Nat) : Bool :=
  match comparison.old[old]?, comparison.new[new]? with
  | some left, some right => left == right
  | _, _ => false

/-- Lengths of the runs that end at a line of the old sequence, by the line of the new sequence that
they end at. -/
abbrev RunLengths := List (Nat × Nat)

/-- The runs that end at a line of the old sequence, given those that end at the line before. -/
def runsAt (starters : Array Bool) (window : Window) (previous : RunLengths) (old : Nat) :
    RunLengths :=
  (List.range' window.newLow (window.newHigh - window.newLow)).filterMap fun new =>
    if starters.getD new false && comparison.agree old new then
      some (new, (if new = 0 then 0 else (previous.lookup (new - 1)).getD 0) + 1)
    else none

/-- The longer of a run and the ones that end at a line; the first longest one stands. -/
def improve (old : Nat) (best : MatchBlock) (runs : RunLengths) : MatchBlock :=
  runs.foldl (fun best run =>
    if best.size < run.2 then ⟨old + 1 - run.2, run.1 + 1 - run.2, run.2⟩ else best) best

/-- The first longest run in a window that begins and ends with lines that may begin one. -/
def longestRun (starters : Array Bool) (window : Window) : MatchBlock :=
  ((List.range' window.oldLow (window.oldHigh - window.oldLow)).foldl
    (fun state old =>
      let runs := comparison.runsAt starters window state.1 old
      (runs, improve old state.2 runs))
    (([] : RunLengths), (⟨window.oldLow, window.newLow, 0⟩ : MatchBlock))).2

/-- A run extended to the left as far as lines agree, by at most `steps`. -/
def extendLeft (window : Window) : Nat → MatchBlock → MatchBlock
  | 0, block => block
  | steps + 1, block =>
    if window.oldLow < block.oldStart ∧ window.newLow < block.newStart ∧
        comparison.agree (block.oldStart - 1) (block.newStart - 1) then
      extendLeft window steps ⟨block.oldStart - 1, block.newStart - 1, block.size + 1⟩
    else block

/-- A run extended to the right as far as lines agree, by at most `steps`. -/
def extendRight (window : Window) : Nat → MatchBlock → MatchBlock
  | 0, block => block
  | steps + 1, block =>
    if block.oldStart + block.size < window.oldHigh ∧ block.newStart + block.size < window.newHigh ∧
        comparison.agree (block.oldStart + block.size) (block.newStart + block.size) then
      extendRight window steps { block with size := block.size + 1 }
    else block

/-- The longest run in a window, extended by frequent lines. -/
def longestMatch (starters : Array Bool) (window : Window) : MatchBlock :=
  let width := window.oldHigh - window.oldLow
  comparison.extendRight window width
    (comparison.extendLeft window width (comparison.longestRun starters window))

/-- The matching runs in a window, in order. -/
def blocksIn (starters : Array Bool) (window : Window) : List MatchBlock :=
  let block := comparison.longestMatch starters window
  if 0 < block.size ∧ window.oldLow ≤ block.oldStart ∧
      block.oldStart + block.size ≤ window.oldHigh then
    blocksIn starters ⟨window.oldLow, block.oldStart, window.newLow, block.newStart⟩ ++
      block ::
        blocksIn starters ⟨block.oldStart + block.size, window.oldHigh,
          block.newStart + block.size, window.newHigh⟩
  else []
termination_by window.oldHigh - window.oldLow
decreasing_by
  · change block.oldStart - window.oldLow < window.oldHigh - window.oldLow
    omega
  · change window.oldHigh - (block.oldStart + block.size) < window.oldHigh - window.oldLow
    omega

/-- Runs with those joined that follow each other directly in both sequences. -/
def joinAdjacent : List MatchBlock → List MatchBlock
  | first :: second :: rest =>
    if first.oldStart + first.size = second.oldStart ∧
        first.newStart + first.size = second.newStart then
      joinAdjacent (⟨first.oldStart, first.newStart, first.size + second.size⟩ :: rest)
    else first :: joinAdjacent (second :: rest)
  | blocks => blocks
termination_by blocks => blocks.length

/-- The matching runs of two sequences, in order. -/
def blocks : List MatchBlock :=
  joinAdjacent (comparison.blocksIn comparison.starters
    ⟨0, comparison.old.size, 0, comparison.new.size⟩)

end Comparison

end TokenLint.Diff
