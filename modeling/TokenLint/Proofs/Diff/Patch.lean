import TokenLint.Proofs.Diff.Hunks

/-!
# Unified diffs as patches

A hunk read back: where it starts, and its lines, each kept, removed or added. The hunks of two
texts show lines that stand in them, and applied to the lines of the old text they give those of the
new one. The lines of a text, with their ends, are the text again; a line feed stands at the end of
a line only, while a line may have another end or, where it is the last, none.
-/

namespace TokenLint

/-! ### Lines of a text -/

namespace Text

theorem flatten_linesFrom (current text : List Char) :
    (linesFrom current text).flatten = current.reverse ++ text := by
  induction current, text using linesFrom.induct with
  | case1 current none => simp [linesFrom, List.isEmpty_iff.mp none]
  | case2 current some => simp [linesFrom, some]
  | case3 current rest ih => simp [linesFrom, ih]
  | case4 current char rest other ends ih => simp [linesFrom, ends, ih]
  | case5 current char rest other inside ih => simp [linesFrom, inside, ih]

/-- The lines of a text are the text again. -/
theorem join_lines (text : String) : String.join (lines text) = text := by
  rw [← String.toList_inj, String.toList_join, lines, List.flatMap_map]
  simp only [String.toList_ofList, List.flatMap_id']
  exact flatten_linesFrom [] text.toList

theorem lines_injective {first second : String} (same : lines first = lines second) :
    first = second := by rw [← join_lines first, same, join_lines]

theorem lineFeed_of_mem_linesFrom {current : List Char} (none : '\n' ∉ current)
    (text : List Char) : ∀ line ∈ linesFrom current text, '\n' ∉ line.dropLast := by
  have before : ∀ {current : List Char}, '\n' ∉ current → '\n' ∉ current.reverse :=
    fun none member => none (List.mem_reverse.mp member)
  induction current, text using linesFrom.induct with
  | case1 current empty => simp [linesFrom, List.isEmpty_iff.mp empty]
  | case2 current some =>
      rw [linesFrom, if_neg some]
      intro line member inside
      rw [List.mem_singleton.mp member] at inside
      exact before none (List.dropLast_subset _ inside)
  | case3 current rest ih =>
      rw [linesFrom, List.forall_mem_cons]
      refine ⟨?_, ih List.not_mem_nil⟩
      rw [List.reverse_cons, List.dropLast_concat]
      exact before (by simpa using none)
  | case4 current char rest other ends ih =>
      rw [linesFrom, if_pos ends, List.forall_mem_cons]
      · refine ⟨?_, ih List.not_mem_nil⟩
        rw [List.reverse_cons, List.dropLast_concat]
        exact before none
      · exact other
  | case5 current char rest other inside ih =>
      rw [linesFrom, if_neg inside]
      · refine ih fun member => ?_
        rcases List.mem_cons.mp member with rfl | earlier
        · exact inside (by decide)
        · exact none earlier
      · exact other

/-- A line feed stands at the end of a line only. -/
theorem lineFeed_of_mem_lines {text line : String} (member : line ∈ lines text) :
    '\n' ∉ line.toList.dropLast := by
  rcases List.mem_map.mp member with ⟨chars, inside, rfl⟩
  rw [String.toList_ofList]
  exact lineFeed_of_mem_linesFrom List.not_mem_nil _ chars inside

end Text

namespace Diff

/-- A line of a hunk with its own end. -/
inductive MarkedLine where
  | kept (line : String)
  | removed (line : String)
  | added (line : String)
  deriving DecidableEq, Repr

namespace MarkedLine

/-- A line behind its mark. -/
def text : MarkedLine → String
  | kept line => " " ++ line
  | removed line => "-" ++ line
  | added line => "+" ++ line

/-- The line, if it stands in the old sequence. -/
def old? : MarkedLine → Option String
  | kept line | removed line => some line
  | added _ => none

/-- The line, if it stands in the new sequence. -/
def new? : MarkedLine → Option String
  | kept line | added line => some line
  | removed _ => none

end MarkedLine

/-- A hunk as it is read: its first lines in both sequences, and the lines it shows. -/
structure Hunk where
  oldStart : Nat
  newStart : Nat
  lines : List MarkedLine
  deriving DecidableEq, Repr

namespace Hunk

variable (hunk : Hunk)

/-- The lines of the old text that a hunk shows. -/
def oldLines : List String := hunk.lines.filterMap MarkedLine.old?

/-- The lines of the new text that a hunk shows. -/
def newLines : List String := hunk.lines.filterMap MarkedLine.new?

/-- The place in the old text where a hunk ends. -/
def oldStop : Nat := hunk.oldStart + hunk.oldLines.length

/-- The place in the new text where a hunk ends. -/
def newStop : Nat := hunk.newStart + hunk.newLines.length

/-- The line that a hunk begins with: where its lines stand in both texts. -/
def header : String :=
  "@@ -" ++ rangeText hunk.oldStart hunk.oldStop ++ " +" ++
    rangeText hunk.newStart hunk.newStop ++ " @@\n"

/-- The lines that a hunk is written in. -/
def written : List String := hunk.header :: hunk.lines.map MarkedLine.text

/-- Whether a hunk shows lines that stand where it says in both sequences. -/
structure Shows (old new : List String) : Prop where
  old : hunk.oldLines = old.extract hunk.oldStart hunk.oldStop
  new : hunk.newLines = new.extract hunk.newStart hunk.newStop

end Hunk

/-- Lines with hunks applied to them, from a line on. -/
def applyFrom (old : List String) (position : Nat) : List Hunk → List String
  | [] => old.drop position
  | hunk :: rest =>
    old.extract position hunk.oldStart ++ hunk.newLines ++ applyFrom old hunk.oldStop rest

/-- Whether hunks are those of a change: they show lines of both sequences, one hunk behind the
other, and applied to the old sequence give the new one. -/
structure Turns (hunks : List Hunk) (old new : List String) : Prop where
  shows : ∀ hunk ∈ hunks, hunk.Shows old new
  ordered : hunks.Pairwise fun first second =>
    first.oldStop ≤ second.oldStart ∧ first.newStop ≤ second.newStart
  applied : applyFrom old 0 hunks = new

/-- The lines that the hunks of a file are written in, below its names. -/
def writtenLines (oldName newName : String) (hunks : List Hunk) : List String :=
  ("--- " ++ oldName ++ "\n") :: ("+++ " ++ newName ++ "\n") :: hunks.flatMap Hunk.written

/-! ### Lines of a stretch -/

section Extract

variable {α : Type} {start mid stop : Nat}

theorem extract_append_extract (lines : List α) (low : start ≤ mid) (high : mid ≤ stop) :
    lines.extract start mid ++ lines.extract mid stop = lines.extract start stop := by
  obtain ⟨first, rfl⟩ := Nat.exists_eq_add_of_le low
  obtain ⟨second, rfl⟩ := Nat.exists_eq_add_of_le high
  simp only [List.extract_eq_take_drop, Nat.add_sub_cancel_left]
  rw [Nat.add_assoc, Nat.add_sub_cancel_left, List.take_add, List.drop_drop]

theorem extract_append_drop (lines : List α) (low : start ≤ mid) :
    lines.extract start mid ++ lines.drop mid = lines.drop start := by
  obtain ⟨first, rfl⟩ := Nat.exists_eq_add_of_le low
  rw [List.extract_eq_take_drop, Nat.add_sub_cancel_left, ← List.drop_drop, List.take_append_drop]

theorem extract_to_end (lines : List α) (start : Nat) :
    lines.extract start lines.length = lines.drop start :=
  List.take_of_length_le (Nat.le_of_eq List.length_drop)

theorem length_extract {lines : List α} (high : stop ≤ lines.length) :
    (lines.extract start stop).length = stop - start := by
  rw [List.length_take, List.length_drop]
  omega

end Extract

theorem join_map_join {α : Type} (items : List α) (parts : α → List String) :
    String.join (items.map fun item => String.join (parts item)) =
      String.join (items.flatMap parts) := by
  induction items with
  | nil => rfl
  | cons first rest ih =>
      rw [List.map_cons, String.join_cons, ih, List.flatMap_cons, String.join_append]

namespace Comparison

variable {comparison : Comparison} {old new oldEnd newEnd : Nat}

theorem getElem?_eq_of_agree (agree : comparison.agree old new = true) :
    comparison.old.toList[old]? = comparison.new.toList[new]? ∧ old < comparison.old.size ∧
      new < comparison.new.size := by
  simp only [Comparison.agree] at agree
  split at agree
  · rename_i left right oldLine newLine
    rw [Array.getElem?_toList, Array.getElem?_toList, oldLine, newLine, beq_iff_eq.mp agree]
    exact ⟨rfl, (Array.getElem?_eq_some_iff.mp oldLine).1,
      (Array.getElem?_eq_some_iff.mp newLine).1⟩
  · cases agree

theorem Alike.extract_eq (alike : comparison.Alike old new oldEnd newEnd) :
    comparison.old.toList.extract old oldEnd = comparison.new.toList.extract new newEnd := by
  rcases alike with ⟨length, rfl, rfl, agrees⟩
  simp only [List.extract_eq_take_drop, Nat.add_sub_cancel_left]
  refine List.ext_getElem? fun step => ?_
  rw [List.getElem?_take, List.getElem?_take]
  split
  · rename_i within
    rw [List.getElem?_drop, List.getElem?_drop]
    exact (getElem?_eq_of_agree (agrees step within)).1
  · rfl

theorem Alike.le (alike : comparison.Alike old new oldEnd newEnd) :
    old ≤ oldEnd ∧ new ≤ newEnd := by
  rcases alike with ⟨length, rfl, rfl, -⟩
  exact ⟨Nat.le_add_right .., Nat.le_add_right ..⟩

theorem Fits.le {stretch : Stretch} (fits : comparison.Fits stretch) :
    stretch.oldStart ≤ stretch.oldStop ∧ stretch.newStart ≤ stretch.newStop := by
  rw [Fits] at fits
  split at fits
  · exact fits.le
  · exact fits

theorem Tiles.le {stretches : List Stretch}
    (tiles : comparison.Tiles old new stretches oldEnd newEnd) : old ≤ oldEnd ∧ new ≤ newEnd := by
  induction stretches generalizing old new with
  | nil => exact ⟨Nat.le_of_eq tiles.1, Nat.le_of_eq tiles.2⟩
  | cons first rest ih =>
      rcases tiles with ⟨rfl, rfl, fits, behind⟩
      exact ⟨Nat.le_trans fits.le.1 (ih behind).1, Nat.le_trans fits.le.2 (ih behind).2⟩

theorem Covers.le {hunks : List (List Stretch)} (covers : comparison.Covers old new hunks) :
    old ≤ comparison.old.size ∧ new ≤ comparison.new.size := by
  induction covers with
  | done alike => exact alike.le
  | hunk alike tiles behind ih =>
      exact ⟨Nat.le_trans alike.le.1 (Nat.le_trans tiles.le.1 ih.1),
        Nat.le_trans alike.le.2 (Nat.le_trans tiles.le.2 ih.2)⟩

/-- The lines of a stretch: equal ones are kept, and others removed and added. -/
def marked (comparison : Comparison) (stretch : Stretch) : List MarkedLine :=
  if stretch.equal then
    (comparison.old.toList.extract stretch.oldStart stretch.oldStop).map .kept
  else
    (comparison.old.toList.extract stretch.oldStart stretch.oldStop).map .removed ++
      (comparison.new.toList.extract stretch.newStart stretch.newStop).map .added

theorem text_stretch (stretch : Stretch) :
    stretch.text comparison =
      String.join ((comparison.marked stretch).map MarkedLine.text) := by
  simp only [Stretch.text, marked, Array.toList_extract]
  split
  · rw [List.map_map]
    rfl
  · rw [List.map_append, List.map_map, List.map_map, String.join_append]
    rfl

/-- A group of stretches as it is read. -/
def hunkOf (comparison : Comparison) (stretches : List Stretch) : Hunk where
  oldStart := (stretches.head?.map Stretch.oldStart).getD 0
  newStart := (stretches.head?.map Stretch.newStart).getD 0
  lines := stretches.flatMap comparison.marked

section Group

variable {stretches : List Stretch}

theorem oldLines_marked (stretch : Stretch) :
    (comparison.marked stretch).filterMap MarkedLine.old? =
      comparison.old.toList.extract stretch.oldStart stretch.oldStop := by
  rw [marked]
  split
  · rw [List.filterMap_map]
    exact List.filterMap_some
  · have removed : MarkedLine.old? ∘ MarkedLine.removed = some := rfl
    have added : ∀ lines : List String, lines.filterMap (MarkedLine.old? ∘ .added) = [] :=
      fun _ => List.filterMap_eq_nil_iff.mpr fun _ _ => rfl
    rw [List.filterMap_append, List.filterMap_map, List.filterMap_map, removed, added,
      List.append_nil]
    exact List.filterMap_some

theorem newLines_marked {stretch : Stretch} (fits : comparison.Fits stretch) :
    (comparison.marked stretch).filterMap MarkedLine.new? =
      comparison.new.toList.extract stretch.newStart stretch.newStop := by
  rw [marked]
  split
  · rename_i equal
    rw [List.filterMap_map, (alike_of_fits fits equal).extract_eq]
    exact List.filterMap_some
  · have removed : ∀ lines : List String, lines.filterMap (MarkedLine.new? ∘ .removed) = [] :=
      fun _ => List.filterMap_eq_nil_iff.mpr fun _ _ => rfl
    have added : MarkedLine.new? ∘ MarkedLine.added = some := rfl
    rw [List.filterMap_append, List.filterMap_map, List.filterMap_map, removed, added,
      List.nil_append]
    exact List.filterMap_some

/-- A group of stretches shows the lines that it covers in both sequences. -/
theorem Tiles.lines (tiles : comparison.Tiles old new stretches oldEnd newEnd) :
    (comparison.hunkOf stretches).oldLines = comparison.old.toList.extract old oldEnd ∧
      (comparison.hunkOf stretches).newLines = comparison.new.toList.extract new newEnd := by
  simp only [Hunk.oldLines, Hunk.newLines, hunkOf]
  induction stretches generalizing old new with
  | nil =>
      rcases tiles with ⟨rfl, rfl⟩
      simp
  | cons first rest ih =>
      rcases tiles with ⟨rfl, rfl, fits, behind⟩
      rcases ih behind with ⟨oldBehind, newBehind⟩
      rw [List.flatMap_cons, List.filterMap_append, List.filterMap_append, oldBehind, newBehind,
        oldLines_marked, newLines_marked fits, extract_append_extract _ fits.le.1 behind.le.1,
        extract_append_extract _ fits.le.2 behind.le.2]
      exact ⟨rfl, rfl⟩

/-- A group of stretches that is no empty one begins with its first lines. -/
theorem Tiles.starts (tiles : comparison.Tiles old new stretches oldEnd newEnd)
    (nonempty : stretches ≠ []) :
    (comparison.hunkOf stretches).oldStart = old ∧
      (comparison.hunkOf stretches).newStart = new := by
  cases stretches with
  | nil => exact absurd rfl nonempty
  | cons first rest => exact ⟨tiles.1, tiles.2.1⟩

/-- A group of stretches ends before the lines that it covers no more. -/
theorem Tiles.stops (tiles : comparison.Tiles old new stretches oldEnd newEnd)
    (nonempty : stretches ≠ []) (oldHigh : oldEnd ≤ comparison.old.size)
    (newHigh : newEnd ≤ comparison.new.size) :
    (comparison.hunkOf stretches).oldStop = oldEnd ∧
      (comparison.hunkOf stretches).newStop = newEnd := by
  have oldLength : (comparison.old.toList.extract old oldEnd).length = oldEnd - old :=
    length_extract (by simpa using oldHigh)
  have newLength : (comparison.new.toList.extract new newEnd).length = newEnd - new :=
    length_extract (by simpa using newHigh)
  rw [Hunk.oldStop, Hunk.newStop, tiles.lines.1, tiles.lines.2, (tiles.starts nonempty).1,
    (tiles.starts nonempty).2, oldLength, newLength]
  exact ⟨Nat.add_sub_cancel' tiles.le.1, Nat.add_sub_cancel' tiles.le.2⟩

theorem Tiles.getLast (tiles : comparison.Tiles old new stretches oldEnd newEnd) {last : Stretch}
    (isLast : stretches.getLast? = some last) : last.oldStop = oldEnd ∧ last.newStop = newEnd := by
  induction stretches generalizing old new with
  | nil => cases isLast
  | cons first rest ih =>
      rcases tiles with ⟨-, -, -, behind⟩
      cases rest with
      | nil =>
          cases isLast
          exact behind
      | cons second more => exact ih behind (by rwa [List.getLast?_cons_cons] at isLast)

/-- The text of a group of stretches is what is written of it as it is read. -/
theorem Tiles.hunkText (tiles : comparison.Tiles old new stretches oldEnd newEnd)
    (nonempty : stretches ≠ []) (oldHigh : oldEnd ≤ comparison.old.size)
    (newHigh : newEnd ≤ comparison.new.size) :
    hunkText comparison stretches = String.join (comparison.hunkOf stretches).written := by
  have stops := tiles.stops nonempty oldHigh newHigh
  cases first : stretches.head? with
  | none => exact absurd (List.head?_eq_none_iff.mp first) nonempty
  | some front =>
      cases final : stretches.getLast? with
      | none => exact absurd (List.getLast?_eq_none_iff.mp final) nonempty
      | some last =>
          have ends := tiles.getLast final
          have text_eq : String.join (stretches.map fun stretch => stretch.text comparison) =
              String.join ((comparison.hunkOf stretches).lines.map MarkedLine.text) := by
            simp only [text_stretch, join_map_join, hunkOf, List.map_flatMap]
          rw [Diff.hunkText, first, final]
          simp only
          rw [text_eq, Hunk.written, String.join_cons, Hunk.header, stops.1, stops.2, ends.1,
            ends.2]
          simp only [hunkOf, first, Option.map_some, Option.getD_some]

end Group

theorem Covers.hunkText {hunks : List (List Stretch)} (covers : comparison.Covers old new hunks)
    (nonempty : ∀ hunk ∈ hunks, hunk ≠ []) :
    ∀ hunk ∈ hunks, Diff.hunkText comparison hunk =
      String.join (comparison.hunkOf hunk).written := by
  induction covers with
  | done alike => exact nofun
  | hunk alike tiles behind ih =>
      rcases List.forall_mem_cons.mp nonempty with ⟨first, others⟩
      exact List.forall_mem_cons.mpr
        ⟨tiles.hunkText first behind.le.1 behind.le.2, ih others⟩

/-- Hunks that show all that differs turn the old sequence into the new one. -/
theorem Covers.turns {hunks : List (List Stretch)} (covers : comparison.Covers old new hunks)
    (nonempty : ∀ hunk ∈ hunks, hunk ≠ []) :
    (∀ hunk ∈ hunks.map comparison.hunkOf,
      hunk.Shows comparison.old.toList comparison.new.toList ∧ old ≤ hunk.oldStart ∧
        new ≤ hunk.newStart) ∧
    ((hunks.map comparison.hunkOf).Pairwise fun first second =>
      first.oldStop ≤ second.oldStart ∧ first.newStop ≤ second.newStart) ∧
    applyFrom comparison.old.toList old (hunks.map comparison.hunkOf) =
      comparison.new.toList.drop new := by
  induction covers with
  | done alike =>
      refine ⟨nofun, .nil, ?_⟩
      have behind := alike.extract_eq
      rwa [← Array.length_toList, ← Array.length_toList, extract_to_end, extract_to_end] at behind
  | @hunk old new oldStart newStart oldStop newStop hunk rest alike tiles behind ih =>
      rcases List.forall_mem_cons.mp nonempty with ⟨first, others⟩
      rcases ih others with ⟨shows, ordered, applied⟩
      have starts := tiles.starts first
      have stops := tiles.stops first behind.le.1 behind.le.2
      have lines := tiles.lines
      refine ⟨?_, ?_, ?_⟩
      · rw [List.map_cons, List.forall_mem_cons]
        refine ⟨⟨⟨?_, ?_⟩, starts.1 ▸ alike.le.1, starts.2 ▸ alike.le.2⟩, ?_⟩
        · rw [lines.1, starts.1, stops.1]
        · rw [lines.2, starts.2, stops.2]
        · intro later member
          rcases shows later member with ⟨right, oldLow, newLow⟩
          exact ⟨right, Nat.le_trans alike.le.1 (Nat.le_trans tiles.le.1 oldLow),
            Nat.le_trans alike.le.2 (Nat.le_trans tiles.le.2 newLow)⟩
      · rw [List.map_cons, List.pairwise_cons]
        refine ⟨fun later member => ?_, ordered⟩
        rw [stops.1, stops.2]
        exact (shows later member).2
      · rw [List.map_cons, applyFrom, starts.1, stops.1, applied, lines.2, alike.extract_eq,
          extract_append_extract _ alike.le.2 tiles.le.2,
          extract_append_drop _ (Nat.le_trans alike.le.2 tiles.le.2)]

end Comparison

/-! ### The diff of two texts -/

/-- The lines of two texts. -/
def comparisonOf (oldText newText : String) : Comparison :=
  ⟨(Text.lines oldText).toArray, (Text.lines newText).toArray⟩

/-- The hunks of two texts as they are read. -/
def readHunks (oldText newText : String) : List Hunk :=
  (hunks (comparisonOf oldText newText)).map (comparisonOf oldText newText).hunkOf

theorem ne_nil_of_mem_hunks {comparison : Comparison} :
    ∀ hunk ∈ hunks comparison, hunk ≠ [] := by
  rintro hunk member rfl
  exact absurd (List.mem_filter.mp member).2 (by decide)

/-- The hunks of two texts turn the lines of the one into those of the other. -/
theorem turns_readHunks (oldText newText : String) :
    Turns (readHunks oldText newText) (Text.lines oldText) (Text.lines newText) := by
  have turns := (comparisonOf oldText newText).covers_hunks.turns ne_nil_of_mem_hunks
  exact ⟨fun hunk member => (turns.1 hunk member).1, turns.2.1, turns.2.2⟩

/-- A diff is what is written of its hunks, one line behind the other. -/
theorem unified_eq_join (oldName newName : String) {oldText newText : String}
    (changed : readHunks oldText newText ≠ []) :
    unified oldName newName oldText newText =
      String.join (writtenLines oldName newName (readHunks oldText newText)) := by
  have texts := (comparisonOf oldText newText).covers_hunks.hunkText ne_nil_of_mem_hunks
  have shown : (hunks (comparisonOf oldText newText)).map
        (hunkText (comparisonOf oldText newText)) =
      (hunks (comparisonOf oldText newText)).map fun hunk =>
        String.join ((comparisonOf oldText newText).hunkOf hunk).written :=
    List.map_congr_left texts
  have lines_eq : (⟨(Text.lines oldText).toArray, (Text.lines newText).toArray⟩ : Comparison) =
      comparisonOf oldText newText := rfl
  simp only [unified, lines_eq]
  split
  · rename_i none
    exact absurd (by rw [readHunks, none, List.map_nil]) changed
  · rw [shown, join_map_join, writtenLines, String.join_cons, String.join_cons, readHunks,
      List.flatMap_map]
    simp only [String.append_assoc]
    rfl

end Diff

end TokenLint
