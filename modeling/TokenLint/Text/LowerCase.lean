import TokenLint.Text.CaseTable

/-!
# Lower case

Lower-casing of whole texts. Nearly every character is mapped by itself; the dotted
capital I becomes two characters, and a capital sigma takes its final form at the
end of a word.
-/

namespace TokenLint.Text

/-- Whether a code is one of a run. -/
def CaseRun.contains (run : CaseRun) (code : Nat) : Bool :=
  run.first ≤ code && code ≤ run.last && (code - run.first) % run.stride == 0

/-- The one-character lower-case form of a character. -/
def lowerChar (char : Char) : Char :=
  if char.toNat < 0x80 then char.toLower
  else
    match caseRuns.find? fun run => run.contains char.toNat with
    | some run => Char.ofNat (char.toNat + run.distance).toNat
    | none => char

/-- Whether a capital sigma between `before` (nearest first) and `after` ends a word: a cased
letter precedes it and none follows, looking past marks. -/
def sigmaEndsWord (before after : List Char) : Bool :=
  let isMark := caseIgnorableRanges.contains
  (before.dropWhile isMark).head?.any casedRanges.contains &&
    !(after.dropWhile isMark).head?.any casedRanges.contains

/-- Lower-cases `rest`, which stands after `before` (nearest first). -/
def lowerAfter (before : List Char) : List Char → List Char
  | [] => []
  | char :: rest =>
    let lowered :=
      if char = 'Σ' then [if sigmaEndsWord before rest then 'ς' else 'σ']
      else if char = 'İ' then ['i', '\u0307']
      else [lowerChar char]
    lowered ++ lowerAfter (char :: before) rest

/-- A text in lower case. -/
def lower (text : String) : String := String.ofList (lowerAfter [] text.toList)

end TokenLint.Text
