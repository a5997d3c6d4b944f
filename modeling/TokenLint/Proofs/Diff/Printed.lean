import TokenLint.CommandLine.Report
import TokenLint.Proofs.Diff.Decoding

/-!
# When printed changes can be read back

The changes that fixes would make are printed file by file, each as a diff whose lines have their
own ends. Cut at the line feeds again, the printed text is a sequence of hunks that show lines of
the sources and turn them into the fixed sources exactly if all shown lines but the last end with a
line feed, no path contains one, and no shown line contains a control sequence.
-/

namespace TokenLint

/-- Whether lines are a text cut after its line feeds; the last may end without one. -/
structure Text.CutAtLineFeeds (lines : List String) (text : String) : Prop where
  joined : String.join lines = text
  nonempty : "" ∉ lines
  ended : ∀ line ∈ lines.dropLast, line.toList.getLast? = some '\n'
  within : ∀ line ∈ lines, '\n' ∉ line.toList.dropLast

namespace FileResult

variable (file : FileResult)

/-- The lines that the hunks of a file are written in, below its names. -/
def writtenLines (hunks : List Diff.Hunk) : List String :=
  Diff.writtenLines ("a/" ++ file.path) ("b/" ++ file.path) hunks

/-- The lines that are shown for a file. -/
def shownLines : List String := file.writtenLines (Diff.readHunks file.source file.fixedSource)

end FileResult

namespace Diff

open Output

/-- Whether lines are read as changes of files, one file behind the other: below the names of each
stand hunks that turn the lines of its source into those of its fixed source. -/
inductive ReadAs : List String → List FileResult → Prop
  | nil : ReadAs [] []
  | file {file : FileResult} {files : List FileResult} {lines : List String} (hunks : List Hunk)
      (turns : Turns hunks (Text.lines file.source) (Text.lines file.fixedSource))
      (rest : ReadAs lines files) : ReadAs (file.writtenLines hunks ++ lines) (file :: files)

/-- Whether a printed text can be read back as the changes of files. -/
def ReadsBack (printed : String) (files : List FileResult) : Prop :=
  ∃ lines, Text.CutAtLineFeeds lines printed ∧ ReadAs lines files

variable {file : FileResult} {files : List FileResult} {lines : List String}

theorem readHunks_ne_nil (changed : file.changed = true) :
    readHunks file.source file.fixedSource ≠ [] := by
  intro none
  have turns := turns_readHunks file.source file.fixedSource
  rw [none] at turns
  have same := Text.lines_injective turns.applied
  simp [FileResult.changed, same] at changed

theorem toList_join_shownLines (lines : List String) :
    (String.join lines).toList = charsOf lines := String.toList_join

theorem changeText_eq (changed : file.changed = true) :
    CommandLine.changeText file =
      String.ofList (dropControlSequences 0 (charsOf file.shownLines)) := by
  rw [CommandLine.changeText, plainOutput, unified_eq_join _ _ (readHunks_ne_nil changed),
    toList_join_shownLines]
  rfl

theorem readAs_shownLines (files : List FileResult) :
    ReadAs (files.flatMap FileResult.shownLines) files := by
  induction files with
  | nil => exact .nil
  | cons first rest ih => exact .file _ (turns_readHunks _ _) ih

/-! ### The printed text tells what was shown -/

theorem charsOf_writtenLines (file : FileResult) (hunks : List Hunk) (lines : List String) :
    charsOf (file.writtenLines hunks ++ lines) =
      ("--- " ++ ("a/" ++ file.path) ++ "\n").toList ++
        (("+++ " ++ ("b/" ++ file.path) ++ "\n").toList ++
          (charsOf (hunks.flatMap Hunk.written) ++ charsOf lines)) := by
  rw [FileResult.writtenLines, Diff.writtenLines, List.cons_append, List.cons_append, charsOf_cons,
    charsOf_cons, charsOf_append]

theorem head?_writtenLines (file : FileResult) (hunks : List Hunk) (lines : List String) :
    (charsOf (file.writtenLines hunks ++ lines)).head? = some '-' := by
  rw [charsOf_writtenLines]
  simp [String.toList_append]

theorem ReadAs.noHunk (reads : ReadAs lines files) : NoHunk (charsOf lines) := by
  cases reads with
  | nil => exact nofun
  | file hunks turns rest =>
      rw [NoHunk, head?_writtenLines]
      rintro char same
      exact (Option.some.inj same).symm

/-- Where what is printed of the lines that are shown can be read as changes of the files, it is
read as these lines. -/
theorem ReadAs.eq_shownLines (reads : ReadAs lines files)
    (printed : charsOf lines =
      dropControlSequences 0 (charsOf (files.flatMap FileResult.shownLines))) :
    lines = files.flatMap FileResult.shownLines := by
  induction reads with
  | nil => rfl
  | @file file files lines hunks turns reads ih =>
      have restNoHunk := (readAs_shownLines files).noHunk
      have hunksMarked := marked_hunks (readHunks file.source file.fixedSource) restNoHunk
      have namesMarked : Marked (("+++ " ++ ("b/" ++ file.path) ++ "\n").toList ++
          (charsOf ((readHunks file.source file.fixedSource).flatMap Hunk.written) ++
            charsOf (files.flatMap FileResult.shownLines))) := by
        intro char isFirst
        simp only [String.toList_append] at isFirst
        cases isFirst
        rfl
      rw [List.flatMap_cons, FileResult.shownLines, charsOf_writtenLines, charsOf_writtenLines,
        dropControlSequences_append namesMarked] at printed
      rcases (dropped _).eq_self namesMarked printed with ⟨-, printed⟩
      rw [dropControlSequences_append hunksMarked] at printed
      rcases (dropped _).eq_self hunksMarked printed with ⟨-, printed⟩
      rcases hunks_of_printed restNoHunk reads.noHunk (turns_readHunks _ _).shows turns.shows
        printed with ⟨rfl, behind⟩
      rw [ih behind]
      rfl

/-- What is printed for changed files is what is left of the lines that are shown. -/
theorem join_changeText (changed : ∀ file ∈ files, file.changed = true) :
    String.join (files.map CommandLine.changeText) =
      String.ofList (dropControlSequences 0 (charsOf (files.flatMap FileResult.shownLines))) := by
  induction files with
  | nil => rfl
  | cons first rest ih =>
      rcases List.forall_mem_cons.mp changed with ⟨firstChanged, restChanged⟩
      rw [List.map_cons, String.join_cons, changeText_eq firstChanged, ih restChanged,
        List.flatMap_cons, charsOf_append,
        dropControlSequences_append (readAs_shownLines rest).noHunk.marked, String.ofList_append]

/-! ### Lines that are shown -/

/-- A line that a hunk shows stands in one of both sequences. -/
theorem Hunk.Shows.line_mem {hunk : Hunk} {old new : List String} (shows : hunk.Shows old new)
    {marked : MarkedLine} (member : marked ∈ hunk.lines) :
    ∃ line, marked.text.toList = marked.mark :: line.toList ∧ (line ∈ old ∨ line ∈ new) := by
  have inOld : ∀ {line}, marked.old? = some line → line ∈ old := by
    intro line held
    have found : line ∈ hunk.oldLines := List.mem_filterMap.mpr ⟨marked, member, held⟩
    rw [shows.old] at found
    exact List.mem_of_mem_drop (List.mem_of_mem_take found)
  have inNew : ∀ {line}, marked.new? = some line → line ∈ new := by
    intro line held
    have found : line ∈ hunk.newLines := List.mem_filterMap.mpr ⟨marked, member, held⟩
    rw [shows.new] at found
    exact List.mem_of_mem_drop (List.mem_of_mem_take found)
  cases marked with
  | kept line => exact ⟨line, by simp [MarkedLine.text, MarkedLine.mark], .inl (inOld rfl)⟩
  | removed line => exact ⟨line, by simp [MarkedLine.text, MarkedLine.mark], .inl (inOld rfl)⟩
  | added line => exact ⟨line, by simp [MarkedLine.text, MarkedLine.mark], .inr (inNew rfl)⟩

/-- What a line that is shown for a file can be: a name of the file, the header of a hunk, or a line
of one of both texts behind a mark. -/
inductive IsShown (file : FileResult) : List Char → Prop
  | oldName : IsShown file ("--- a/".toList ++ file.path.toList ++ ['\n'])
  | newName : IsShown file ("+++ b/".toList ++ file.path.toList ++ ['\n'])
  | header (hunk : Hunk) : IsShown file hunk.header.toList
  | line (marked : MarkedLine) {line : String}
      (stands : line ∈ Text.lines file.source ++ Text.lines file.fixedSource) :
      IsShown file (marked.mark :: line.toList)

theorem oldName_mem (file : FileResult) :
    ∃ line ∈ file.shownLines, line.toList = "--- a/".toList ++ file.path.toList ++ ['\n'] :=
  ⟨_, List.mem_cons_self .., by simp [String.toList_append]⟩

theorem isShown_of_mem {line : String} (member : line ∈ file.shownLines) :
    IsShown file line.toList := by
  rcases List.mem_cons.mp member with rfl | member
  · have name : ("--- " ++ ("a/" ++ file.path) ++ "\n").toList =
        "--- a/".toList ++ file.path.toList ++ ['\n'] := by simp [String.toList_append]
    exact name ▸ .oldName
  rcases List.mem_cons.mp member with rfl | member
  · have name : ("+++ " ++ ("b/" ++ file.path) ++ "\n").toList =
        "+++ b/".toList ++ file.path.toList ++ ['\n'] := by simp [String.toList_append]
    exact name ▸ .newName
  rcases List.mem_flatMap.mp member with ⟨hunk, inFile, written⟩
  rcases List.mem_cons.mp written with rfl | written
  · exact .header hunk
  · rcases List.mem_map.mp written with ⟨marked, inHunk, rfl⟩
    have shows := (turns_readHunks file.source file.fixedSource).shows hunk inFile
    rcases shows.line_mem inHunk with ⟨line, text_eq, stands⟩
    exact text_eq ▸ .line marked (List.mem_append.mpr stands)

theorem IsShown.exists_mark {chars : List Char} (shown : IsShown file chars) :
    ∃ mark rest, chars = mark :: rest ∧ isMark mark = true := by
  cases shown with
  | oldName => exact ⟨'-', _, rfl, rfl⟩
  | newName => exact ⟨'+', _, rfl, rfl⟩
  | header hunk => exact ⟨'@', _, hunk.toList_header, rfl⟩
  | line marked stands => exact ⟨_, _, rfl, marked.isMark_mark⟩

/-- Lines that each begin with a mark. -/
def AllMarked (lines : List String) : Prop :=
  ∀ line ∈ lines, ∃ mark rest, line.toList = mark :: rest ∧ isMark mark = true

theorem allMarked_shownLines (files : List FileResult) :
    AllMarked (files.flatMap FileResult.shownLines) := by
  intro line member
  rcases List.mem_flatMap.mp member with ⟨file, -, shown⟩
  exact (isShown_of_mem shown).exists_mark

theorem AllMarked.marked (allMarked : AllMarked lines) : Marked (charsOf lines) := by
  cases lines with
  | nil => exact nofun
  | cons first rest =>
      rcases allMarked first (List.mem_cons_self ..) with ⟨mark, chars, first_eq, isMark⟩
      rw [charsOf_cons, first_eq]
      exact fun char same => Option.some.inj same ▸ isMark

/-- Nothing is dropped from marked lines exactly if nothing is dropped from any of them. -/
theorem AllMarked.drop_eq_iff (allMarked : AllMarked lines) :
    dropControlSequences 0 (charsOf lines) = charsOf lines ↔
      ∀ line ∈ lines, plainOutput line = line := by
  induction lines with
  | nil => exact iff_of_true rfl nofun
  | cons first rest ih =>
      have restMarked : AllMarked rest := (List.forall_mem_cons.mp allMarked).2
      have marked := restMarked.marked
      have plain_iff : plainOutput first = first ↔
          dropControlSequences 0 first.toList = first.toList := by
        rw [plainOutput, ← String.toList_inj, String.toList_ofList]
      rw [List.forall_mem_cons, ← ih restMarked, plain_iff, charsOf_cons,
        dropControlSequences_append marked]
      constructor
      · intro same
        rcases (dropped _).eq_self marked same.symm with ⟨firstSame, restSame⟩
        exact ⟨firstSame, restSame.symm⟩
      · rintro ⟨firstSame, restSame⟩
        rw [firstSame, restSame]

/-- A line feed stands within a line that is shown only if the path of the file contains one. -/
theorem IsShown.lineFeed_within {chars : List Char} (shown : IsShown file chars)
    (path : '\n' ∉ file.path.toList) : '\n' ∉ chars.dropLast := by
  cases shown with
  | oldName =>
      rw [List.dropLast_concat, List.mem_append, not_or]
      exact ⟨by decide, path⟩
  | newName =>
      rw [List.dropLast_concat, List.mem_append, not_or]
      exact ⟨by decide, path⟩
  | header hunk =>
      rcases hunk.exists_header with ⟨front, header_eq, none⟩
      rw [header_eq, List.dropLast_concat]
      exact none
  | @line marked line stands =>
      have within : '\n' ∉ line.toList.dropLast := by
        rcases List.mem_append.mp stands with stands | stands <;>
          exact Text.lineFeed_of_mem_lines stands
      cases line_eq : line.toList with
      | nil => exact List.not_mem_nil
      | cons first rest =>
          rw [List.dropLast_cons_cons, List.mem_cons, not_or]
          exact ⟨marked.mark_ne_lineFeed.symm, line_eq ▸ within⟩

theorem lineFeed_within_iff (files : List FileResult) :
    (∀ line ∈ files.flatMap FileResult.shownLines, '\n' ∉ line.toList.dropLast) ↔
      ∀ file ∈ files, '\n' ∉ file.path.toList := by
  constructor
  · intro within file member
    rcases oldName_mem file with ⟨line, shown, line_eq⟩
    have none := within line (List.mem_flatMap.mpr ⟨file, member, shown⟩)
    rw [line_eq, List.dropLast_concat, List.mem_append, not_or] at none
    exact none.2
  · intro paths line member
    rcases List.mem_flatMap.mp member with ⟨file, listed, shown⟩
    exact (isShown_of_mem shown).lineFeed_within (paths file listed)

theorem readsBack_changeText_iff (result : BatchResult) :
    ReadsBack (String.join (result.changedFiles.map CommandLine.changeText)) result.changedFiles ↔
      (∀ file ∈ result.changedFiles, '\n' ∉ file.path.toList) ∧
      (∀ line ∈ (result.changedFiles.flatMap FileResult.shownLines).dropLast,
        line.toList.getLast? = some '\n') ∧
      ∀ line ∈ result.changedFiles.flatMap FileResult.shownLines, plainOutput line = line := by
  have changed : ∀ file ∈ result.changedFiles, file.changed = true := fun file member =>
    (List.mem_filter.mp member).2
  have allMarked := allMarked_shownLines result.changedFiles
  rw [join_changeText changed, ← allMarked.drop_eq_iff, ← lineFeed_within_iff]
  generalize shown_eq : result.changedFiles.flatMap FileResult.shownLines = shown at *
  constructor
  · rintro ⟨lines, cut, reads⟩
    have joined := congrArg String.toList cut.joined
    rw [toList_join_shownLines, String.toList_ofList, ← shown_eq] at joined
    obtain rfl := reads.eq_shownLines joined
    rw [shown_eq] at cut joined
    exact ⟨cut.within, cut.ended, joined.symm⟩
  · rintro ⟨within, ended, plain⟩
    refine ⟨shown, ⟨?_, ?_, ended, within⟩, shown_eq ▸ readAs_shownLines _⟩
    · rw [plain, ← toList_join_shownLines, String.ofList_toList]
    · intro empty
      rcases allMarked "" empty with ⟨mark, rest, same, -⟩
      cases same

/-- The changes that a dry run prints, in front of the problems that are left and the summary, can
be read back exactly if no path contains a line feed, all shown lines but the last end with one, and
no colour or movement code is dropped from a shown line. -/
theorem fixReport_readsBack_iff (quiet : Bool) (result : BatchResult) :
    ∃ printed, CommandLine.fixReport false true quiet result =
        printed ++ CommandLine.problemLines quiet result ++
          CommandLine.summaryLines quiet result ∧
      (ReadsBack printed result.changedFiles ↔
        (∀ file ∈ result.changedFiles, '\n' ∉ file.path.toList) ∧
        (∀ line ∈ (result.changedFiles.flatMap FileResult.shownLines).dropLast,
          line.toList.getLast? = some '\n') ∧
        ∀ line ∈ result.changedFiles.flatMap FileResult.shownLines, plainOutput line = line) :=
  ⟨_, rfl, readsBack_changeText_iff result⟩

/-- A file of one line without a line feed, with its long array made short. -/
def unendedFile : FileResult :=
  ⟨"a.php", .done, "<?php array(1);", "<?php [1];", [], [], 2, true, false, none⟩

theorem shownLines_unendedFile : unendedFile.shownLines =
    ["--- a/a.php\n", "+++ b/a.php\n", "@@ -1 +1 @@\n", "-<?php array(1);", "+<?php [1];"] := by
  have apart : ∀ old new,
      (comparisonOf unendedFile.source unendedFile.fixedSource).agree old new = false := by
    intro old new
    have comparison_eq : comparisonOf unendedFile.source unendedFile.fixedSource =
        ⟨#["<?php array(1);"], #["<?php [1];"]⟩ := rfl
    rw [comparison_eq, Comparison.agree]
    rcases old with _ | old <;> rcases new with _ | new <;> rfl
  have read : readHunks unendedFile.source unendedFile.fixedSource =
      [⟨0, 0, [.removed "<?php array(1);", .added "<?php [1];"]⟩] := by
    rw [readHunks, hunks, stretches, Comparison.blocks_eq_nil apart]
    rfl
  rw [FileResult.shownLines, read]
  rfl

/-- What is printed for a file whose last line has no line feed cannot be read back: the removed
line and the added one are printed as one. -/
theorem not_readsBack_unendedFile :
    ¬ReadsBack (String.join ([unendedFile].map CommandLine.changeText)) [unendedFile] := by
  intro readsBack
  have changedFiles_eq : BatchResult.changedFiles ⟨[unendedFile]⟩ = [unendedFile] := by
    rw [BatchResult.changedFiles, List.filter_cons_of_pos (by decide), List.filter_nil]
  have reads_iff := readsBack_changeText_iff ⟨[unendedFile]⟩
  rw [changedFiles_eq, List.flatMap_singleton, shownLines_unendedFile] at reads_iff
  have ended := (reads_iff.mp readsBack).2.1 "-<?php array(1);" (by decide)
  exact absurd ended (by decide)

end Diff

end TokenLint
