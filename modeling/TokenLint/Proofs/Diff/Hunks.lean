import TokenLint.Diff.Unified

/-!
# Hunks cover all changes

The runs that are found in two sequences stand in both, in the same order and without overlapping.
Which runs are found, longest first and begun by lines that are not too frequent, is of no
importance here. The stretches between them follow each other from the first lines to the last, and
grouping these into hunks leaves out only lines that are the same in both: those at the start and at
the end, those in the middle of a long equal stretch, and groups without any change.
-/

namespace TokenLint.Diff

namespace Comparison

variable {comparison : Comparison} {window : Window} {block : MatchBlock}
  {old new length oldEnd newEnd : Nat}

/-- Whether some lines agree from a pair of lines on. -/
def AgreeFor (comparison : Comparison) (old new length : Nat) : Prop :=
  ∀ step < length, comparison.agree (old + step) (new + step) = true

theorem AgreeFor.append {more : Nat} (agrees : comparison.AgreeFor old new length)
    (goesOn : comparison.AgreeFor (old + length) (new + length) more) :
    comparison.AgreeFor old new (length + more) := by
  intro step within
  by_cases first : step < length
  · exact agrees step first
  · have later := goesOn (step - length) (by omega)
    rwa [show old + length + (step - length) = old + step by omega,
      show new + length + (step - length) = new + step by omega] at later

theorem AgreeFor.part {start part : Nat} (agrees : comparison.AgreeFor old new length)
    (within : start + part ≤ length) : comparison.AgreeFor (old + start) (new + start) part := by
  intro step inPart
  rw [Nat.add_assoc, Nat.add_assoc]
  exact agrees (start + step) (by omega)

/-- Whether a run lies in a window and stands in both sequences. -/
structure Holds (comparison : Comparison) (window : Window) (block : MatchBlock) : Prop where
  oldLow : window.oldLow ≤ block.oldStart
  oldHigh : block.oldStart + block.size ≤ window.oldHigh
  newLow : window.newLow ≤ block.newStart
  newHigh : block.newStart + block.size ≤ window.newHigh
  agrees : comparison.AgreeFor block.oldStart block.newStart block.size

theorem holds_empty (oldLow : window.oldLow ≤ old) (oldHigh : old ≤ window.oldHigh)
    (newLow : window.newLow ≤ new) (newHigh : new ≤ window.newHigh) :
    comparison.Holds window ⟨old, new, 0⟩ :=
  ⟨oldLow, oldHigh, newLow, newHigh, fun _ none => absurd none (Nat.not_lt_zero _)⟩

theorem Holds.growRight {size : Nat} (holds : comparison.Holds window ⟨old, new, size⟩)
    (oldInside : old + size < window.oldHigh) (newInside : new + size < window.newHigh)
    (agree : comparison.agree (old + size) (new + size) = true) :
    comparison.Holds window ⟨old, new, size + 1⟩ := by
  refine ⟨holds.oldLow, oldInside, holds.newLow, newInside, holds.agrees.append ?_⟩
  intro step last
  rw [Nat.lt_one_iff.mp last]
  exact agree

theorem Holds.growLeft {size : Nat} (holds : comparison.Holds window ⟨old, new, size⟩)
    (oldInside : window.oldLow < old) (newInside : window.newLow < new)
    (agree : comparison.agree (old - 1) (new - 1) = true) :
    comparison.Holds window ⟨old - 1, new - 1, size + 1⟩ := by
  rcases holds with ⟨_, oldHigh, _, newHigh, agrees⟩
  simp only at oldHigh newHigh agrees
  refine ⟨by simp only; omega, by simp only; omega, by simp only; omega, by simp only; omega, ?_⟩
  intro step within
  cases step with
  | zero => exact agree
  | succ step =>
      have later := agrees step (Nat.lt_of_succ_lt_succ within)
      rwa [show old + step = old - 1 + (step + 1) by omega,
        show new + step = new - 1 + (step + 1) by omega] at later

/-! ### The longest run -/

/-- Whether a run of some length that ends at a line of the new sequence, and in the old one before
the given line, lies in a window. -/
def EndsBefore (comparison : Comparison) (window : Window) (old : Nat) (run : Nat × Nat) : Prop :=
  ∃ oldStart newStart, oldStart + run.2 = old ∧ newStart + run.2 = run.1 + 1 ∧
    comparison.Holds window ⟨oldStart, newStart, run.2⟩

variable {runs : RunLengths}

theorem endsBefore_of_mem_runsAt (starters : Array Bool)
    (previous : ∀ run ∈ runs, comparison.EndsBefore window old run)
    (oldLow : window.oldLow ≤ old) (oldHigh : old < window.oldHigh) :
    ∀ run ∈ comparison.runsAt starters window runs old,
      comparison.EndsBefore window (old + 1) run := by
  intro run found
  rcases List.mem_filterMap.mp found with ⟨new, inWindow, made⟩
  split at made
  · rename_i begun
    cases made
    rcases List.mem_range'_1.mp inWindow with ⟨newLow, newHigh⟩
    have agree := (Bool.and_eq_true_iff.mp begun).2
    have alone : comparison.Holds window ⟨old, new, 0⟩ :=
      holds_empty oldLow (Nat.le_of_lt oldHigh) newLow (by omega)
    have single : comparison.EndsBefore window (old + 1) (new, 0 + 1) :=
      ⟨old, new, rfl, rfl, alone.growRight oldHigh (by omega) agree⟩
    by_cases first : new = 0
    · rwa [if_pos first]
    · rw [if_neg first]
      cases before : runs.lookup (new - 1) with
      | none => exact single
      | some length =>
          have member : (new - 1, length) ∈ runs := by
            rcases List.lookup_eq_some_iff.mp before with ⟨earlier, later, rfl, -⟩
            simp
          rcases previous _ member with ⟨oldStart, newStart, oldEnds, newEnds, holds⟩
          simp only at oldEnds newEnds holds
          refine ⟨oldStart, newStart, by simp only [Option.getD_some]; omega,
            by simp only [Option.getD_some]; omega, holds.growRight (by omega) (by omega) ?_⟩
          rw [oldEnds, show newStart + length = new by omega]
          exact agree
  · cases made

theorem holds_improve (runsEnd : ∀ run ∈ runs, comparison.EndsBefore window (old + 1) run)
    (holds : comparison.Holds window block) : comparison.Holds window (improve old block runs) := by
  induction runs generalizing block with
  | nil => exact holds
  | cons first rest ih =>
      rcases List.forall_mem_cons.mp runsEnd with ⟨firstEnds, restEnds⟩
      refine ih restEnds ?_
      simp only
      split
      · rcases firstEnds with ⟨oldStart, newStart, oldEnds, newEnds, firstHolds⟩
        rwa [show old + 1 - first.2 = oldStart by omega,
          show first.1 + 1 - first.2 = newStart by omega]
      · exact holds

/-- What every step of a fold over numbers in a row keeps holds at the end. -/
theorem foldl_range'_of_step {α : Type} (step : α → Nat → α) (Keeps : Nat → α → Prop)
    {start count : Nat} {state : α} (begins : Keeps start state)
    (keeps : ∀ number state, start ≤ number → number < start + count → Keeps number state →
      Keeps (number + 1) (step state number)) :
    Keeps (start + count) ((List.range' start count).foldl step state) := by
  induction count generalizing start state with
  | zero => exact begins
  | succ count ih =>
      rw [List.range'_succ, List.foldl_cons, show start + (count + 1) = start + 1 + count by omega]
      exact ih (keeps start state (Nat.le_refl _) (by omega) begins) fun number state low high =>
        keeps number state (by omega) (by omega)

/-- Whether the runs that end before a line of the old sequence, and the longest run so far, are
runs in a window. -/
structure Tracks (comparison : Comparison) (window : Window) (old : Nat)
    (state : RunLengths × MatchBlock) : Prop where
  runs : ∀ run ∈ state.1, comparison.EndsBefore window old run
  best : comparison.Holds window state.2

theorem holds_longestRun (starters : Array Bool) (oldProper : window.oldLow ≤ window.oldHigh)
    (newProper : window.newLow ≤ window.newHigh) :
    comparison.Holds window (comparison.longestRun starters window) := by
  have empty : comparison.Holds window ⟨window.oldLow, window.newLow, 0⟩ :=
    holds_empty (Nat.le_refl _) oldProper (Nat.le_refl _) newProper
  have begins : comparison.Tracks window window.oldLow ([], ⟨window.oldLow, window.newLow, 0⟩) :=
    ⟨fun _ none => (nomatch none), empty⟩
  rw [longestRun]
  refine (foldl_range'_of_step _ (comparison.Tracks window) begins ?_).best
  intro old state low high tracks
  have ends := endsBefore_of_mem_runsAt starters tracks.runs low (by omega)
  exact ⟨ends, holds_improve ends tracks.best⟩

/-! ### Extending a run -/

theorem Holds.extendLeft (holds : comparison.Holds window block) (steps : Nat) :
    comparison.Holds window (comparison.extendLeft window steps block) := by
  induction steps generalizing block with
  | zero => exact holds
  | succ steps ih =>
      rw [Comparison.extendLeft]
      split
      · rename_i further
        exact ih (holds.growLeft further.1 further.2.1 further.2.2)
      · exact holds

theorem Holds.extendRight (holds : comparison.Holds window block) (steps : Nat) :
    comparison.Holds window (comparison.extendRight window steps block) := by
  induction steps generalizing block with
  | zero => exact holds
  | succ steps ih =>
      rw [Comparison.extendRight]
      split
      · rename_i further
        exact ih (holds.growRight further.1 further.2.1 further.2.2)
      · exact holds

theorem holds_longestMatch (starters : Array Bool) (oldProper : window.oldLow ≤ window.oldHigh)
    (newProper : window.newLow ≤ window.newHigh) :
    comparison.Holds window (comparison.longestMatch starters window) :=
  ((holds_longestRun starters oldProper newProper).extendLeft _).extendRight _

/-! ### All runs -/

/-- Whether runs stand in both sequences one behind the other, between two pairs of lines. -/
def Ordered (comparison : Comparison) (old new : Nat) (oldEnd newEnd : Nat) :
    List MatchBlock → Prop
  | [] => old ≤ oldEnd ∧ new ≤ newEnd
  | block :: rest => old ≤ block.oldStart ∧ new ≤ block.newStart ∧
    comparison.AgreeFor block.oldStart block.newStart block.size ∧
    comparison.Ordered (block.oldStart + block.size) (block.newStart + block.size) oldEnd newEnd
      rest

variable {blocks : List MatchBlock}

theorem Ordered.earlier {oldBefore newBefore : Nat}
    (ordered : comparison.Ordered old new oldEnd newEnd blocks) (oldLe : oldBefore ≤ old)
    (newLe : newBefore ≤ new) : comparison.Ordered oldBefore newBefore oldEnd newEnd blocks := by
  cases blocks with
  | nil => exact ⟨Nat.le_trans oldLe ordered.1, Nat.le_trans newLe ordered.2⟩
  | cons first rest =>
      exact ⟨Nat.le_trans oldLe ordered.1, Nat.le_trans newLe ordered.2.1, ordered.2.2⟩

theorem Ordered.append {more : List MatchBlock} {oldMid newMid : Nat}
    (ordered : comparison.Ordered old new oldMid newMid blocks)
    (goesOn : comparison.Ordered oldMid newMid oldEnd newEnd more) :
    comparison.Ordered old new oldEnd newEnd (blocks ++ more) := by
  induction blocks generalizing old new with
  | nil => exact goesOn.earlier ordered.1 ordered.2
  | cons first rest ih => exact ⟨ordered.1, ordered.2.1, ordered.2.2.1, ih ordered.2.2.2⟩

theorem ordered_blocksIn (starters : Array Bool) (window : Window)
    (oldProper : window.oldLow ≤ window.oldHigh)
    (newProper : window.newLow ≤ window.newHigh) :
    comparison.Ordered window.oldLow window.newLow window.oldHigh window.newHigh
      (comparison.blocksIn starters window) := by
  induction window using blocksIn.induct comparison starters with
  | case1 window block inside before after =>
      have holds : comparison.Holds window block :=
        holds_longestMatch starters oldProper newProper
      rw [blocksIn, if_pos inside]
      exact (before holds.oldLow holds.newLow).append
        ⟨Nat.le_refl _, Nat.le_refl _, holds.agrees, after holds.oldHigh holds.newHigh⟩
  | case2 window block outside =>
      rw [blocksIn, if_neg outside]
      exact ⟨oldProper, newProper⟩

theorem Ordered.joinAdjacent (ordered : comparison.Ordered old new oldEnd newEnd blocks) :
    comparison.Ordered old new oldEnd newEnd (joinAdjacent blocks) := by
  induction blocks using joinAdjacent.induct generalizing old new with
  | case1 first second rest adjacent ih =>
      rw [Comparison.joinAdjacent, if_pos adjacent]
      rcases ordered with ⟨oldLe, newLe, agrees, -, -, goesOn, behind⟩
      rw [← adjacent.1, ← adjacent.2] at goesOn behind
      rw [Nat.add_assoc, Nat.add_assoc] at behind
      exact ih ⟨oldLe, newLe, agrees.append goesOn, behind⟩
  | case2 first second rest apart ih =>
      rw [Comparison.joinAdjacent, if_neg apart]
      exact ⟨ordered.1, ordered.2.1, ordered.2.2.1, ih ordered.2.2.2⟩
  | case3 blocks few =>
      rw [Comparison.joinAdjacent]
      · exact ordered
      · exact few

/-- The matching runs of two sequences stand in both of them one behind the other. -/
theorem ordered_blocks (comparison : Comparison) :
    comparison.Ordered 0 0 comparison.old.size comparison.new.size comparison.blocks := by
  have ordered : comparison.Ordered 0 0 comparison.old.size comparison.new.size
      (comparison.blocksIn comparison.starters
        ⟨0, comparison.old.size, 0, comparison.new.size⟩) :=
    ordered_blocksIn comparison.starters ⟨0, comparison.old.size, 0, comparison.new.size⟩
      (Nat.zero_le _) (Nat.zero_le _)
  exact ordered.joinAdjacent

/-- Sequences without an equal line have no matching run. -/
theorem blocks_eq_nil (apart : ∀ old new, comparison.agree old new = false) :
    comparison.blocks = [] := by
  rw [blocks, blocksIn, if_neg, Comparison.joinAdjacent]
  · intro first second rest none
    cases none
  · rintro ⟨nonempty, -⟩
    have holds : comparison.Holds ⟨0, comparison.old.size, 0, comparison.new.size⟩
        (comparison.longestMatch comparison.starters
          ⟨0, comparison.old.size, 0, comparison.new.size⟩) :=
      holds_longestMatch comparison.starters (Nat.zero_le _) (Nat.zero_le _)
    have agree := holds.agrees 0 nonempty
    rw [apart] at agree
    cases agree

/-! ### Stretches -/

/-- Whether the lines from one pair of lines to another are the same in both sequences. -/
def Alike (comparison : Comparison) (old new oldEnd newEnd : Nat) : Prop :=
  ∃ length, oldEnd = old + length ∧ newEnd = new + length ∧ comparison.AgreeFor old new length

theorem alike_refl (old new : Nat) : comparison.Alike old new old new :=
  ⟨0, rfl, rfl, fun _ none => absurd none (Nat.not_lt_zero _)⟩

theorem Alike.trans {oldMid newMid : Nat} (alike : comparison.Alike old new oldMid newMid)
    (goesOn : comparison.Alike oldMid newMid oldEnd newEnd) :
    comparison.Alike old new oldEnd newEnd := by
  rcases alike with ⟨length, rfl, rfl, agrees⟩
  rcases goesOn with ⟨more, rfl, rfl, agreeMore⟩
  exact ⟨length + more, Nat.add_assoc .., Nat.add_assoc .., agrees.append agreeMore⟩

/-- Lines that are the same are cut in two at the same distance from their start. -/
theorem Alike.cut (alike : comparison.Alike old new oldEnd newEnd) (oldMid newMid : Nat)
    (low : old ≤ oldMid) (high : oldMid ≤ oldEnd) (level : newMid = new + (oldMid - old)) :
    comparison.Alike old new oldMid newMid ∧ comparison.Alike oldMid newMid oldEnd newEnd := by
  rcases alike with ⟨length, rfl, rfl, agrees⟩
  obtain ⟨first, rfl⟩ := Nat.exists_eq_add_of_le low
  obtain rfl : newMid = new + first := by omega
  refine ⟨⟨first, rfl, rfl, fun step within => agrees step (by omega)⟩,
    ⟨length - first, by omega, by omega, agrees.part (by omega)⟩⟩

/-- Whether a stretch is one of both sequences: one of equal lines, or any other. -/
def Fits (comparison : Comparison) (stretch : Stretch) : Prop :=
  if stretch.equal then
    comparison.Alike stretch.oldStart stretch.newStart stretch.oldStop stretch.newStop
  else stretch.oldStart ≤ stretch.oldStop ∧ stretch.newStart ≤ stretch.newStop

/-- Whether stretches follow each other from one pair of lines to another. -/
def Tiles (comparison : Comparison) (old new : Nat) (stretches : List Stretch)
    (oldEnd newEnd : Nat) : Prop :=
  match stretches with
  | [] => old = oldEnd ∧ new = newEnd
  | stretch :: rest => stretch.oldStart = old ∧ stretch.newStart = new ∧ comparison.Fits stretch ∧
    comparison.Tiles stretch.oldStop stretch.newStop rest oldEnd newEnd

variable {stretches : List Stretch}

theorem Tiles.append {more : List Stretch} {oldMid newMid : Nat}
    (tiles : comparison.Tiles old new stretches oldMid newMid)
    (goesOn : comparison.Tiles oldMid newMid more oldEnd newEnd) :
    comparison.Tiles old new (stretches ++ more) oldEnd newEnd := by
  induction stretches generalizing old new with
  | nil =>
      rcases tiles with ⟨rfl, rfl⟩
      exact goesOn
  | cons first rest ih => exact ⟨tiles.1, tiles.2.1, tiles.2.2.1, ih tiles.2.2.2⟩

/-- The stretches from a pair of lines on reach to the ends of both sequences. -/
theorem Ordered.tiles {blocks : List MatchBlock}
    (ordered : comparison.Ordered old new oldEnd newEnd blocks) :
    comparison.Tiles old new (stretchesFrom old new oldEnd newEnd blocks) oldEnd newEnd := by
  have change : ∀ {old new oldEnd newEnd : Nat}, old ≤ oldEnd → new ≤ newEnd →
      comparison.Tiles old new
        (if old < oldEnd ∨ new < newEnd then [⟨false, old, oldEnd, new, newEnd⟩] else [])
        oldEnd newEnd := by
    intro old new oldEnd newEnd oldLe newLe
    split
    · exact ⟨rfl, rfl, ⟨oldLe, newLe⟩, rfl, rfl⟩
    · exact ⟨by omega, by omega⟩
  induction blocks generalizing old new with
  | nil => exact change ordered.1 ordered.2
  | cons block rest ih =>
      rcases ordered with ⟨oldLe, newLe, agrees, behind⟩
      exact (change oldLe newLe).append ⟨rfl, rfl, ⟨_, rfl, rfl, agrees⟩, ih behind⟩

theorem tiles_stretches (comparison : Comparison) :
    comparison.Tiles 0 0 (Diff.stretches comparison) comparison.old.size comparison.new.size :=
  comparison.ordered_blocks.tiles

/-! ### Equal stretches that are cut -/

variable {stretch : Stretch}

theorem alike_of_fits (fits : comparison.Fits stretch) (equal : stretch.equal = true) :
    comparison.Alike stretch.oldStart stretch.newStart stretch.oldStop stretch.newStop := by
  rwa [Fits, if_pos equal] at fits

theorem fits_of_alike (equal : stretch.equal = true)
    (alike : comparison.Alike stretch.oldStart stretch.newStart stretch.oldStop stretch.newStop) :
    comparison.Fits stretch := by
  rwa [Fits, if_pos equal]

/-- Cutting an equal stretch at its start leaves out lines that are the same in both sequences. -/
theorem Fits.tail (fits : comparison.Fits stretch) (equal : stretch.equal = true) :
    comparison.Alike stretch.oldStart stretch.newStart stretch.tail.oldStart
        stretch.tail.newStart ∧
      comparison.Fits stretch.tail := by
  have alike := alike_of_fits fits equal
  have cut := alike.cut stretch.tail.oldStart stretch.tail.newStart
  rcases alike with ⟨length, oldStop, newStop, -⟩
  simp only [Stretch.tail, contextLines] at cut ⊢
  have parts := cut (by omega) (by omega) (by omega)
  exact ⟨parts.1, fits_of_alike equal parts.2⟩

/-- Cutting an equal stretch at its end leaves out lines that are the same in both sequences. -/
theorem Fits.head (fits : comparison.Fits stretch) (equal : stretch.equal = true) :
    comparison.Fits stretch.head ∧
      comparison.Alike stretch.head.oldStop stretch.head.newStop stretch.oldStop
        stretch.newStop := by
  have alike := alike_of_fits fits equal
  have cut := alike.cut stretch.head.oldStop stretch.head.newStop
  rcases alike with ⟨length, oldStop, newStop, -⟩
  simp only [Stretch.head, contextLines] at cut ⊢
  have parts := cut (by omega) (by omega) (by omega)
  exact ⟨fits_of_alike equal parts.1, parts.2⟩

/-- The first lines of an equal stretch that separates hunks and the last ones are apart, by lines
that are the same in both sequences. -/
theorem Fits.between (fits : comparison.Fits stretch) (separates : stretch.separates = true) :
    comparison.Alike stretch.head.oldStop stretch.head.newStop stretch.tail.oldStart
      stretch.tail.newStart := by
  simp only [Stretch.separates, Bool.and_eq_true, decide_eq_true_eq] at separates
  rcases separates with ⟨equal, long⟩
  have behind := (fits.head equal).2
  have cut := behind.cut stretch.tail.oldStart stretch.tail.newStart
  rcases alike_of_fits fits equal with ⟨length, oldStop, newStop, -⟩
  simp only [Stretch.head, Stretch.tail, contextLines] at cut long ⊢
  exact (cut (by omega) (by omega) (by omega)).1

/-! ### Hunks -/

/-- Whether hunks show all that differs from a pair of lines on: in front of each of them, and
behind the last, the lines are the same in both sequences. -/
inductive Covers (comparison : Comparison) : Nat → Nat → List (List Stretch) → Prop
  | done {old new : Nat}
      (alike : comparison.Alike old new comparison.old.size comparison.new.size) :
      comparison.Covers old new []
  | hunk {old new oldStart newStart oldStop newStop : Nat} {hunk : List Stretch}
      {rest : List (List Stretch)} (alike : comparison.Alike old new oldStart newStart)
      (tiles : comparison.Tiles oldStart newStart hunk oldStop newStop)
      (behind : comparison.Covers oldStop newStop rest) :
      comparison.Covers old new (hunk :: rest)

theorem Alike.covers {oldMid newMid : Nat} {hunks : List (List Stretch)}
    (alike : comparison.Alike old new oldMid newMid)
    (covers : comparison.Covers oldMid newMid hunks) : comparison.Covers old new hunks := by
  cases covers with
  | done behind => exact .done (alike.trans behind)
  | hunk front tiles behind => exact .hunk (alike.trans front) tiles behind

/-- Stretches grouped into hunks show all that differs. -/
theorem covers_hunksFrom {hunk : List Stretch} {oldMid newMid : Nat}
    (done : comparison.Tiles old new hunk oldMid newMid)
    (tiles : comparison.Tiles oldMid newMid stretches oldEnd newEnd)
    (alike : comparison.Alike oldEnd newEnd comparison.old.size comparison.new.size) :
    comparison.Covers old new (hunksFrom hunk stretches) := by
  induction stretches generalizing hunk old new oldMid newMid with
  | nil =>
      rcases tiles with ⟨rfl, rfl⟩
      exact .hunk (alike_refl old new) done (.done alike)
  | cons stretch rest ih =>
      rcases tiles with ⟨rfl, rfl, fits, behind⟩
      rw [hunksFrom]
      split
      · rename_i separates
        have equal := (Bool.and_eq_true_iff.mp separates).1
        have front : comparison.Tiles stretch.oldStart stretch.newStart [stretch.head]
            stretch.head.oldStop stretch.head.newStop :=
          ⟨rfl, rfl, (fits.head equal).1, rfl, rfl⟩
        have next : comparison.Tiles stretch.tail.oldStart stretch.tail.newStart [stretch.tail]
            stretch.oldStop stretch.newStop := ⟨rfl, rfl, (fits.tail equal).2, rfl, rfl⟩
        exact .hunk (alike_refl old new) (done.append front)
          ((fits.between separates).covers (ih next behind))
      · exact ih (done.append ⟨rfl, rfl, fits, rfl, rfl⟩) behind

theorem Tiles.trimFirst (tiles : comparison.Tiles old new stretches oldEnd newEnd) :
    ∃ oldMid newMid, comparison.Alike old new oldMid newMid ∧
      comparison.Tiles oldMid newMid (trimFirst stretches) oldEnd newEnd := by
  cases stretches with
  | nil => exact ⟨old, new, alike_refl old new, tiles⟩
  | cons first rest =>
      rcases tiles with ⟨rfl, rfl, fits, behind⟩
      rw [Diff.trimFirst]
      split
      · rename_i equal
        rcases fits.tail equal with ⟨alike, cut⟩
        exact ⟨_, _, alike, rfl, rfl, cut, behind⟩
      · exact ⟨_, _, alike_refl _ _, rfl, rfl, fits, behind⟩

theorem Tiles.trimLast (tiles : comparison.Tiles old new stretches oldEnd newEnd) :
    ∃ oldMid newMid, comparison.Tiles old new (trimLast stretches) oldMid newMid ∧
      comparison.Alike oldMid newMid oldEnd newEnd := by
  induction stretches using Diff.trimLast.induct generalizing old new with
  | case1 => exact ⟨oldEnd, newEnd, tiles, alike_refl _ _⟩
  | case2 last equal =>
      rcases tiles with ⟨rfl, rfl, fits, rfl, rfl⟩
      rcases fits.head equal with ⟨cut, alike⟩
      rw [Diff.trimLast, if_pos equal]
      exact ⟨_, _, ⟨rfl, rfl, cut, rfl, rfl⟩, alike⟩
  | case3 last changed =>
      rcases tiles with ⟨rfl, rfl, fits, rfl, rfl⟩
      rw [Diff.trimLast, if_neg changed]
      exact ⟨_, _, ⟨rfl, rfl, fits, rfl, rfl⟩, alike_refl _ _⟩
  | case4 first rest more ih =>
      rcases tiles with ⟨rfl, rfl, fits, behind⟩
      rcases ih behind with ⟨oldMid, newMid, trimmed, alike⟩
      rw [Diff.trimLast]
      · exact ⟨oldMid, newMid, ⟨rfl, rfl, fits, trimmed⟩, alike⟩
      · exact more

/-- A group of stretches without any change is the same in both sequences. -/
theorem Tiles.alike (tiles : comparison.Tiles old new stretches oldEnd newEnd)
    (unchanged : showsChange stretches = false) : comparison.Alike old new oldEnd newEnd := by
  induction stretches generalizing old new with
  | nil =>
      rcases tiles with ⟨rfl, rfl⟩
      exact alike_refl old new
  | cons first rest ih =>
      rcases tiles with ⟨rfl, rfl, fits, behind⟩
      simp only [showsChange, List.any_cons, Bool.or_eq_false_iff, Bool.not_eq_false'] at unchanged
      exact (alike_of_fits fits unchanged.1).trans (ih behind unchanged.2)

theorem Covers.filter {hunks : List (List Stretch)} (covers : comparison.Covers old new hunks) :
    comparison.Covers old new (hunks.filter showsChange) := by
  induction covers with
  | done alike => exact .done alike
  | hunk alike tiles behind ih =>
      rw [List.filter_cons]
      split
      · exact .hunk alike tiles ih
      · rename_i unchanged
        exact (alike.trans (tiles.alike (by simpa using unchanged))).covers ih

/-- The hunks of two sequences show all that differs. -/
theorem covers_hunks (comparison : Comparison) : comparison.Covers 0 0 (hunks comparison) := by
  rcases (tiles_stretches comparison).trimFirst with ⟨oldStart, newStart, before, trimmed⟩
  rcases trimmed.trimLast with ⟨oldEnd, newEnd, tiles, behind⟩
  have nothing : comparison.Tiles oldStart newStart [] oldStart newStart := ⟨rfl, rfl⟩
  exact before.covers (covers_hunksFrom nothing tiles behind).filter

end Comparison

end TokenLint.Diff
