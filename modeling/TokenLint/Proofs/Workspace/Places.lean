import TokenLint.Workspace.Tree
import Mathlib.Data.List.Basic

/-!
# Places in the tree of files

A path that leads to an entry leads to the place that its names and double dots spell out. A file
written over another one changes nothing that is read at any other place: which entries are there,
and what the other files hold.
-/

namespace TokenLint

/-- What is found under a key after the value under one of the keys was replaced. -/
theorem lookup_map_replace {α β : Type} [DecidableEq α] (entries : List (α × β)) (key other : α)
    (value : β) :
    (entries.map fun entry => if entry.1 = key then (key, value) else entry).lookup other =
      if other = key then (entries.lookup key).map fun _ => value else entries.lookup other := by
  induction entries with
  | nil => simp
  | cons first rest ih =>
      rcases first with ⟨name, present⟩
      rw [List.map_cons, List.lookup_cons, List.lookup_cons, List.lookup_cons]
      by_cases here : name = key
      · subst here
        by_cases same : other = name
        · simp [same]
        · simp [same, beq_eq_false_iff_ne.mpr same, ih]
      · by_cases same : other = name
        · subst same
          simp [here]
        · simp [here, beq_eq_false_iff_ne.mpr same, beq_eq_false_iff_ne.mpr (Ne.symm here), ih]

/-- What is found under a key is an entry. -/
theorem mem_of_lookup {α β : Type} [DecidableEq α] {entries : List (α × β)} {key : α} {value : β}
    (present : entries.lookup key = some value) : (key, value) ∈ entries := by
  rcases List.lookup_eq_some_iff.mp present with ⟨before, after, rfl, -⟩
  exact List.mem_append_right _ (List.mem_cons_self ..)

namespace Entry

/-- The entry at a place below another one. -/
def at? : List String → Entry → Option Entry
  | [], entry => some entry
  | part :: rest, directory entries => (entries.lookup part).bind (at? rest)
  | _ :: _, file _ => none

/-- What a file holds, and nothing for a directory. -/
def content? : Entry → Option FileContent
  | file content => some content
  | directory _ => none

theorem at?_append (outer inner : List String) (entry : Entry) :
    entry.at? (outer ++ inner) = (entry.at? outer).bind (at? inner) := by
  induction outer generalizing entry with
  | nil => rfl
  | cons part rest ih =>
      cases entry with
      | file content => rfl
      | directory entries =>
          simp only [List.cons_append, at?]
          cases entries.lookup part with
          | none => rfl
          | some found => exact ih found

/-- A trail of entries below a root and the names along it, last first. -/
inductive Descends (root : Entry) : List String → List Entry → Prop where
  | start : Descends root [] [root]
  | down {names : List String} {entries : List (String × Entry)} {outer : List Entry}
      {part : String} {entry : Entry} (descends : Descends root names (directory entries :: outer))
      (found : entries.lookup part = some entry) :
      Descends root (part :: names) (entry :: directory entries :: outer)

variable {root entry : Entry} {names parts : List String} {trail outer : List Entry}

theorem Descends.at?_eq (descends : Descends root names (entry :: outer)) :
    root.at? names.reverse = some entry := by
  generalize trailed : entry :: outer = trail at descends
  induction descends generalizing entry outer with
  | start =>
      cases trailed
      rfl
  | down descends found ih =>
      cases trailed
      rw [List.reverse_cons, at?_append, ih rfl]
      simp [at?, found]

/-- A double dot leaves the last entry of a trail, but for the root. -/
theorem Descends.up (descends : Descends root names (entry :: outer)) :
    Descends root names.tail (if outer.isEmpty then entry :: outer else outer) := by
  cases descends with
  | start => exact .start
  | down descends found => exact descends

theorem Descends.exists_cons (descends : Descends root names trail) :
    ∃ entry outer, trail = entry :: outer := by
  cases descends with
  | start => exact ⟨root, [], rfl⟩
  | down descends found => exact ⟨_, _, rfl⟩

theorem at?_of_follow (descends : Descends root names trail)
    (followed : follow trail parts = .ok entry) :
    root.at? (Path.foldDots names parts) = some entry := by
  induction parts generalizing names trail with
  | nil =>
      rcases descends.exists_cons with ⟨last, outer, rfl⟩
      cases followed
      exact descends.at?_eq
  | cons part rest ih =>
      rcases descends.exists_cons with ⟨last, outer, rfl⟩
      cases last with
      | file content => cases followed
      | directory entries =>
          simp only [follow] at followed
          rw [Path.foldDots]
          split at followed
          · rename_i isDots
            rw [if_pos isDots]
            exact ih descends.up followed
          · rename_i isName
            rw [if_neg isName]
            split at followed
            · rename_i next found
              exact ih (.down descends found) followed
            · cases followed

/-- Whether an entry is a file. -/
def isFile (entry : Entry) : Bool := entry.content?.isSome

/-- Whether two trees have files and directories at the same places. -/
def SameShape (before after : Entry) : Prop :=
  ∀ place, (before.at? place).map isFile = (after.at? place).map isFile

/-- Whether two trees differ in what one file holds at most. -/
structure SameBut (place : List String) (before after : Entry) : Prop where
  fileBefore : ∃ content, before.at? place = some (file content)
  fileAfter : ∃ content, after.at? place = some (file content)
  elsewhere : ∀ other ≠ place, (before.at? other).map content? = (after.at? other).map content?

variable {place : List String} {before after : Entry}

theorem map_isFile_of_map_content? {left right : Option Entry}
    (same : left.map content? = right.map content?) : left.map isFile = right.map isFile := by
  have kinds := congrArg (Option.map Option.isSome) same
  rw [Option.map_map, Option.map_map] at kinds
  exact kinds

theorem SameShape.refl (root : Entry) : SameShape root root := fun _ => rfl

theorem SameShape.symm (same : SameShape before after) : SameShape after before :=
  fun place => (same place).symm

theorem SameShape.trans {last : Entry} (first : SameShape before after)
    (second : SameShape after last) : SameShape before last :=
  fun place => (first place).trans (second place)

theorem SameBut.sameShape (same : SameBut place before after) : SameShape before after := by
  intro other
  by_cases here : other = place
  · rcases same.fileBefore with ⟨content, heldBefore⟩
    rcases same.fileAfter with ⟨otherContent, heldAfter⟩
    rw [here, heldBefore, heldAfter]
    rfl
  · exact map_isFile_of_map_content? (same.elsewhere other here)

/-- What is at a place is a file in both trees or a directory in both. -/
theorem SameShape.alike (same : SameShape before after) {other : List String}
    {left right : Entry} (leftAt : before.at? other = some left)
    (rightAt : after.at? other = some right) :
    (∃ content otherContent, left = file content ∧ right = file otherContent) ∨
      ∃ entries otherEntries, left = directory entries ∧ right = directory otherEntries := by
  have kinds := same other
  rw [leftAt, rightAt] at kinds
  cases left with
  | file content =>
      cases right with
      | file otherContent => exact .inl ⟨content, otherContent, rfl, rfl⟩
      | directory entries => cases kinds
  | directory entries =>
      cases right with
      | file otherContent => cases kinds
      | directory otherEntries => exact .inr ⟨entries, otherEntries, rfl, rfl⟩

/-- The same path leads to a file in both of two trees of one shape, or to a directory in both, or
to nothing for the same reason. -/
theorem SameShape.follow_eq {otherTrail : List Entry} (same : SameShape before after)
    (descends : Descends before names trail) (otherDescends : Descends after names otherTrail) :
    (follow trail parts).map isFile = (follow otherTrail parts).map isFile := by
  induction parts generalizing names trail otherTrail with
  | nil =>
      rcases descends.exists_cons with ⟨last, outer, rfl⟩
      rcases otherDescends.exists_cons with ⟨otherLast, otherOuter, rfl⟩
      have kinds := same names.reverse
      rw [descends.at?_eq, otherDescends.at?_eq] at kinds
      exact congrArg Except.ok (Option.some.inj kinds)
  | cons part rest ih =>
      rcases descends.exists_cons with ⟨last, outer, rfl⟩
      rcases otherDescends.exists_cons with ⟨otherLast, otherOuter, rfl⟩
      -- Both trails stand at the same place, so they go on or fail together.
      rcases same.alike descends.at?_eq otherDescends.at?_eq with
        ⟨content, otherContent, rfl, rfl⟩ | ⟨entries, otherEntries, rfl, rfl⟩
      · rfl
      · simp only [follow]
        by_cases isDots : part = ".."
        · rw [if_pos isDots, if_pos isDots]
          exact ih descends.up otherDescends.up
        · rw [if_neg isDots, if_neg isDots]
          have present := same (names.reverse ++ [part])
          rw [at?_append, at?_append, descends.at?_eq, otherDescends.at?_eq] at present
          cases found : entries.lookup part with
          | none =>
              cases otherFound : otherEntries.lookup part with
              | none => rfl
              | some next => simp [at?, found, otherFound] at present
          | some next =>
              cases otherFound : otherEntries.lookup part with
              | none => simp [at?, found, otherFound] at present
              | some otherNext => exact ih (.down descends found) (.down otherDescends otherFound)

/-- What two trees of one shape hold at the end of a path, where it leads to anything at all. -/
theorem SameShape.follow_cases (same : SameShape before after) (parts : List String) :
    (∃ error, follow [before] parts = .error error ∧ follow [after] parts = .error error) ∨
      ∃ entry otherEntry, follow [before] parts = .ok entry ∧
        follow [after] parts = .ok otherEntry ∧
        before.at? (Path.foldDots [] parts) = some entry ∧
        after.at? (Path.foldDots [] parts) = some otherEntry := by
  have alike : (follow [before] parts).map isFile = (follow [after] parts).map isFile :=
    same.follow_eq .start .start
  cases followed : follow [before] parts with
  | error error =>
      rw [followed] at alike
      cases otherFollowed : follow [after] parts with
      | error otherError =>
          rw [otherFollowed] at alike
          cases alike
          exact .inl ⟨error, rfl, rfl⟩
      | ok otherEntry =>
          rw [otherFollowed] at alike
          cases alike
  | ok entry =>
      rw [followed] at alike
      cases otherFollowed : follow [after] parts with
      | error otherError =>
          rw [otherFollowed] at alike
          cases alike
      | ok otherEntry =>
          exact .inr ⟨entry, otherEntry, rfl, rfl, at?_of_follow .start followed,
            at?_of_follow .start otherFollowed⟩

theorem at?_insert {content : FileContent} (written : FileContent)
    (held : root.at? place = some (file content)) :
    (root.insert written place).at? place = some (file written) := by
  induction place generalizing root with
  | nil => rfl
  | cons part rest ih =>
      cases root with
      | file content => cases held
      | directory entries =>
          simp only [at?, Option.bind_eq_some_iff] at held
          rcases held with ⟨entry, found, held⟩
          simp [insert, found, at?, lookup_map_replace, ih held]

/-- A file written over another one makes a tree that differs in what that file holds at most. -/
theorem sameBut_insert {content : FileContent} (written : FileContent)
    (held : root.at? place = some (file content)) :
    SameBut place root (root.insert written place) := by
  refine ⟨⟨content, held⟩, ⟨written, at?_insert written held⟩, ?_⟩
  intro other apart
  induction place generalizing root other with
  | nil =>
      cases held
      cases other with
      | nil => exact absurd rfl apart
      | cons part rest => rfl
  | cons part rest ih =>
      cases root with
      | file content => cases held
      | directory entries =>
          simp only [at?, Option.bind_eq_some_iff] at held
          rcases held with ⟨entry, found, held⟩
          have replaced : (directory entries).insert written (part :: rest) =
              directory (entries.map fun named =>
                if named.1 = part then (part, entry.insert written rest) else named) := by
            simp [insert, found]
          cases other with
          | nil => rfl
          | cons name others =>
              simp only [replaced, at?, lookup_map_replace]
              by_cases same : name = part
              · subst same
                simpa [found] using ih held others fun hit => apart (hit ▸ rfl)
              · rw [if_neg same]

theorem eq_file_of_map_content? {content : FileContent} {found : Option Entry}
    (same : found.map content? = (some (file content)).map content?) :
    found = some (file content) := by
  cases found with
  | none => cases same
  | some entry =>
      cases entry with
      | file other =>
          cases same
          rfl
      | directory entries => cases same

end Entry

namespace Workspace

variable {workspace : Workspace} {path other : Path}

/-- A file that can be read is where its path leads. -/
theorem at?_of_openFile {content : FileContent} (opened : workspace.openFile path = .ok content) :
    workspace.tree.at? (path.resolve workspace.current) = some (.file content) := by
  simp only [openFile] at opened
  split at opened
  · cases opened
  · split at opened
    · rename_i held followed
      cases opened
      exact Entry.at?_of_follow .start followed
    · cases opened
    · cases opened

/-- The bytes of the file at a place. -/
def bytesAt? (workspace : Workspace) (place : List String) : Option (List UInt8) :=
  ((workspace.tree.at? place).bind Entry.content?).map FileContent.bytes

/-- Writing over a file changes what that file holds and nothing else. -/
theorem sameBut_writeText {content : FileContent}
    (held : workspace.tree.at? (path.resolve workspace.current) = some (.file content))
    (text : String) :
    Entry.SameBut (path.resolve workspace.current) workspace.tree
      (workspace.writeText path text).tree :=
  Entry.sameBut_insert _ held

/-- A path that leads to a file leads to one in every workspace of the same shape. -/
theorem exists_openFile_of_sameShape {other : Workspace} {content : FileContent}
    (opened : workspace.openFile path = .ok content)
    (same : Entry.SameShape workspace.tree other.tree)
    (current : other.current = workspace.current) :
    ∃ otherContent, other.openFile path = .ok otherContent := by
  simp only [openFile, entryAt] at opened ⊢
  split at opened
  · cases opened
  · rename_i notNull
    rw [if_neg notNull, current]
    rcases same.follow_cases (if path.isAbsolute = true then path.parts
      else workspace.current ++ path.parts) with
        ⟨error, failed, -⟩ | ⟨entry, otherEntry, followed, otherFollowed, at_eq, other_at⟩
    · rw [failed] at opened
      cases opened
    · rw [followed] at opened
      rw [otherFollowed]
      rcases same.alike at_eq other_at with ⟨_, otherContent, -, rfl⟩ | ⟨entries, _, rfl, -⟩
      · exact ⟨otherContent, rfl⟩
      · cases opened

/-- Writing over a file that can be read leaves what is read elsewhere. -/
theorem openFile_writeText {content : FileContent} (opened : workspace.openFile path = .ok content)
    (apart : other.resolve workspace.current ≠ path.resolve workspace.current) (text : String) :
    (workspace.writeText path text).openFile other = workspace.openFile other := by
  have same := sameBut_writeText (at?_of_openFile opened) text
  have current : (workspace.writeText path text).current = workspace.current := rfl
  simp only [openFile, entryAt, current]
  split
  · rfl
  · rcases same.sameShape.follow_cases (if other.isAbsolute = true then other.parts
      else workspace.current ++ other.parts) with
        ⟨error, failed, otherFailed⟩ | ⟨entry, otherEntry, followed, otherFollowed, at_eq, other_at⟩
    · rw [failed, otherFailed]
    · have contents := same.elsewhere _ apart
      rw [Path.resolve, at_eq, other_at] at contents
      rw [followed, otherFollowed]
      rcases entry with content | entries <;> rcases otherEntry with otherContent | otherEntries <;>
        cases contents <;> rfl

theorem exists_openFile_of_readText {source : String}
    (read : workspace.readText path = .ok source) :
    ∃ content, workspace.openFile path = .ok content := by
  cases opened : workspace.openFile path with
  | error error =>
      rw [readText, opened] at read
      cases read
  | ok content => exact ⟨content, rfl⟩

theorem readText_writeText {source : String} (read : workspace.readText path = .ok source)
    (apart : other.resolve workspace.current ≠ path.resolve workspace.current) (text : String) :
    (workspace.writeText path text).readText other = workspace.readText other := by
  rcases exists_openFile_of_readText read with ⟨content, opened⟩
  rw [readText, openFile_writeText opened apart, readText]

end Workspace

end TokenLint
