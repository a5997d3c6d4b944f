import TokenLint.Proofs.Diagnostic.Order
import TokenLint.Proofs.Workspace.Places
import TokenLint.Workspace.Collect
import Mathlib.Data.List.Nodup

/-!
# What paths stand for

A list of paths is dealt with path by path, in the order given: a file adds itself, and a
directory adds the source files below it in the order of their names, but nothing is added whose
place was listed before. The files below a directory are those that the tree has at the places
below its place.
-/

namespace TokenLint

namespace Path

/-- Names come before others or are the same exactly if they are not greater, name by name. -/
theorem partsBefore_iff {first second : List String} :
    partsBefore first second = true ↔ first < second ∨ first = second := by
  induction first generalizing second with
  | nil => cases second <;> simp [partsBefore]
  | cons name rest ih =>
      cases second with
      | nil => simp [partsBefore]
      | cons other others =>
          rw [partsBefore, List.cons_lt_cons_iff]
          split
          · rename_i same
            subst same
            simp [ih]
          · rename_i differ
            simp [differ]

theorem partsBefore_total (first second : List String) :
    partsBefore first second || partsBefore second first := by
  rw [Bool.or_eq_true, partsBefore_iff, partsBefore_iff]
  rcases Std.lt_trichotomy first second with before | same | after
  · exact .inl (.inl before)
  · exact .inl (.inr same)
  · exact .inr (.inl after)

theorem partsBefore_trans (first second third : List String) (before : partsBefore first second)
    (after : partsBefore second third) : partsBefore first third := by
  rw [partsBefore_iff] at before after ⊢
  rcases before with before | rfl
  · rcases after with after | rfl
    · exact .inl (List.lt_trans before after)
    · exact .inl before
  · exact after

theorem foldDots_append (trail first second : List String) :
    foldDots trail (first ++ second) = foldDots (foldDots trail first).reverse second := by
  induction first generalizing trail with
  | nil => simp [foldDots]
  | cons name rest ih =>
      simp only [List.cons_append, foldDots]
      split <;> exact ih _

theorem foldDots_of_plain {names : List String} (plain : ".." ∉ names) (trail : List String) :
    foldDots trail names = trail.reverse ++ names := by
  induction names generalizing trail with
  | nil => simp [foldDots]
  | cons name rest ih =>
      rw [List.mem_cons, not_or] at plain
      rw [foldDots, if_neg (Ne.symm plain.1), ih plain.2]
      simp

/-- Plain names lead down from the place that a path leads to. -/
theorem resolve_below {names : List String} (plain : ".." ∉ names) (path : Path)
    (directory : List String) :
    (path.below names).resolve directory = path.resolve directory ++ names := by
  have anchored : (path.below names).isAbsolute = path.isAbsolute := rfl
  have parts_eq : (path.below names).parts = path.parts ++ names := rfl
  rw [resolve, resolve, anchored, parts_eq]
  split
  · rw [foldDots_append, foldDots_of_plain plain, List.reverse_reverse]
  · rw [← List.append_assoc, foldDots_append, foldDots_of_plain plain, List.reverse_reverse]

end Path

namespace Entry

/-- Whether no directory of a tree has two entries of one name, or one whose name leads up. -/
structure Tidy (root : Entry) : Prop where
  distinct : ∀ place entries, root.at? place = some (directory entries) →
    (entries.map Prod.fst).Nodup
  plain : ∀ place entries, root.at? place = some (directory entries) →
    ".." ∉ entries.map Prod.fst

variable {root entry : Entry} {entries : List (String × Entry)} {names : List String}
  {content : FileContent}

theorem Tidy.of_lookup (tidy : (directory entries).Tidy) {name : String}
    (present : entries.lookup name = some entry) : entry.Tidy := by
  have further : ∀ place, (directory entries).at? (name :: place) = entry.at? place := by
    intro place
    rw [at?, present, Option.bind_some]
  constructor
  · intro place others listed
    exact tidy.distinct (name :: place) others ((further place).trans listed)
  · intro place others listed
    exact tidy.plain (name :: place) others ((further place).trans listed)

theorem Tidy.of_at? (tidy : root.Tidy) {place : List String} (found : root.at? place = some entry) :
    entry.Tidy := by
  induction place generalizing root with
  | nil =>
      cases found
      exact tidy
  | cons name rest ih =>
      cases root with
      | file content => cases found
      | directory entries =>
          rw [at?, Option.bind_eq_some_iff] at found
          rcases found with ⟨next, present, found⟩
          exact ih (tidy.of_lookup present) found

/-- No place in a tidy tree is reached by leading up. -/
theorem Tidy.plain_of_at? (tidy : root.Tidy) (found : root.at? names = some entry) :
    ".." ∉ names := by
  induction names generalizing root with
  | nil => exact List.not_mem_nil
  | cons name rest ih =>
      cases root with
      | file content => cases found
      | directory entries =>
          rw [at?, Option.bind_eq_some_iff] at found
          rcases found with ⟨next, present, found⟩
          rw [List.mem_cons, not_or]
          refine ⟨?_, ih (tidy.of_lookup present) found⟩
          rintro rfl
          exact tidy.plain [] entries rfl (List.mem_map_of_mem (mem_of_lookup present))

theorem lookup_eq_some_iff (distinct : (entries.map Prod.fst).Nodup) {name : String} :
    entries.lookup name = some entry ↔ (name, entry) ∈ entries := by
  refine ⟨mem_of_lookup, fun member => ?_⟩
  rcases List.append_of_mem member with ⟨before, after, rfl⟩
  refine List.lookup_eq_some_iff.mpr ⟨before, after, rfl, fun other among => ?_⟩
  rw [List.map_append, List.nodup_append] at distinct
  exact bne_iff_ne.mpr (distinct.2.2 other.1 (List.mem_map_of_mem among) name
    (List.mem_map_of_mem (List.mem_cons_self ..))).symm

theorem tidy_file (content : FileContent) : (file content).Tidy := by
  constructor <;> intro place entries listed <;> cases place <;> cases listed

theorem tidy_directory_iff :
    (directory entries).Tidy ↔ (entries.map Prod.fst).Nodup ∧ ".." ∉ entries.map Prod.fst ∧
      ∀ named ∈ entries, named.2.Tidy := by
  have below : ∀ part rest found, (directory entries).at? (part :: rest) = some found →
      ∃ named ∈ entries, named.2.at? rest = some found := by
    intro part rest found listed
    rw [at?, Option.bind_eq_some_iff] at listed
    rcases listed with ⟨entry, present, listed⟩
    exact ⟨_, mem_of_lookup present, listed⟩
  constructor
  · intro tidy
    have distinct := tidy.distinct [] entries rfl
    exact ⟨distinct, tidy.plain [] entries rfl, fun named member =>
      tidy.of_lookup ((lookup_eq_some_iff distinct).mpr member)⟩
  · rintro ⟨distinct, plain, inner⟩
    constructor
    · intro place others listed
      cases place with
      | nil =>
          cases listed
          exact distinct
      | cons part rest =>
          rcases below part rest _ listed with ⟨named, member, listed⟩
          exact (inner named member).distinct rest others listed
    · intro place others listed
      cases place with
      | nil =>
          cases listed
          exact plain
      | cons part rest =>
          rcases below part rest _ listed with ⟨named, member, listed⟩
          exact (inner named member).plain rest others listed

theorem mem_filesIn_iff {found : List String × FileContent} :
    found ∈ filesIn entries ↔
      ∃ named ∈ entries, ∃ inner ∈ named.2.files, found = (named.1 :: inner.1, inner.2) := by
  induction entries with
  | nil => simp [filesIn]
  | cons first rest ih =>
      rw [filesIn, List.mem_append, ih, List.mem_map]
      simp [eq_comm]

/-- The files of a tree are those at its places. -/
theorem mem_files_iff (tidy : entry.Tidy) :
    (names, content) ∈ entry.files ↔ entry.at? names = some (file content) := by
  induction names generalizing entry with
  | nil =>
      cases entry with
      | file other => simp [files, at?, eq_comm]
      | directory entries => simp [files, at?, mem_filesIn_iff]
  | cons part rest ih =>
      cases entry with
      | file other => simp [files, at?]
      | directory entries =>
          have distinct := tidy.distinct [] entries rfl
          rw [files, mem_filesIn_iff, at?, Option.bind_eq_some_iff]
          constructor
          · rintro ⟨⟨name, entry⟩, member, ⟨inner, other⟩, found, same⟩
            cases same
            have present := (lookup_eq_some_iff distinct).mpr member
            exact ⟨entry, present, (ih (tidy.of_lookup present)).mp found⟩
          · rintro ⟨entry, present, found⟩
            exact ⟨(part, entry), (lookup_eq_some_iff distinct).mp present, (rest, content),
              (ih (tidy.of_lookup present)).mpr found, rfl⟩

end Entry

/-- Whether the names that lead from a directory to a file are those of a source file: the name of
the file ends in one of some extensions, in whatever case it is written, and no directory on the way
is one of those that are not searched. -/
def IsSourceFile (extensions names : List String) : Prop :=
  ∃ directories name, names = directories ++ [name] ∧
    (∃ extension ∈ extensions,
      Text.lower (fileSuffix name) = "." ++ normalizedExtension extension) ∧
    ∀ directory ∈ directories, directory ∉ ignoredDirectories

theorem isWanted_iff {extensions names : List String} :
    isWanted extensions names = true ↔ IsSourceFile extensions names := by
  rcases names.eq_nil_or_concat with rfl | ⟨directories, name, rfl⟩
  · simp [isWanted, IsSourceFile]
  · rw [List.concat_eq_append, isWanted, List.reverse_append]
    simp only [List.reverse_singleton, List.singleton_append, Bool.and_eq_true,
      Bool.not_eq_true', List.contains_iff_mem, List.mem_map, IsSourceFile]
    constructor
    · rintro ⟨⟨extension, member, same⟩, searched⟩
      refine ⟨directories, name, rfl, ⟨extension, member, same.symm⟩, ?_⟩
      simpa using searched
    · rintro ⟨others, other, split, ⟨extension, member, same⟩, searched⟩
      rcases List.append_inj' split rfl with ⟨rfl, last⟩
      cases last
      exact ⟨⟨extension, member, same.symm⟩, by simpa using searched⟩

namespace Workspace

/-- The place that a path leads to. -/
def place (workspace : Workspace) (path : Path) : List String := path.resolve workspace.current

/-- Whether a path leads to a file or a directory. -/
def Leads (workspace : Workspace) (path : Path) : Prop :=
  ∃ entry, workspace.entryAt path = .ok entry

/-- Whether a path leads to a directory. -/
def IsDirectory (workspace : Workspace) (path : Path) : Prop :=
  ∃ entries, workspace.entryAt path = .ok (.directory entries)

/-- Whether a path goes on from the path of a directory to a source file below it. -/
def IsBelow (workspace : Workspace) (extensions : List String) (path found : Path) : Prop :=
  ∃ names content, found = path.below names ∧ IsSourceFile extensions names ∧
    workspace.tree.at? (workspace.place path ++ names) = some (.file content)

/-- What a path adds to a list that holds files of some places: a file adds itself if its place is
new, and a directory adds the source files below it at new places, in the order of their names. -/
inductive Adds (workspace : Workspace) (extensions : List String) (seen : List (List String))
    (path : Path) : List Path → Prop where
  | file (isFile : workspace.isFile path = true) (new : workspace.place path ∉ seen) :
      Adds workspace extensions seen path [path]
  | known (isFile : workspace.isFile path = true) (listed : workspace.place path ∈ seen) :
      Adds workspace extensions seen path []
  | directory {part : List Path} (isDirectory : workspace.IsDirectory path)
      (inOrder : part.Pairwise fun one later => one.parts < later.parts)
      (whole : ∀ found, found ∈ part ↔
        workspace.IsBelow extensions path found ∧ workspace.place found ∉ seen) :
      Adds workspace extensions seen path part

/-- Whether a list of files is what some paths add, one after the other. -/
inductive Lists (workspace : Workspace) (extensions : List String) :
    List (List String) → List Path → List Path → Prop where
  | nil {seen : List (List String)} : Lists workspace extensions seen [] []
  | cons {seen : List (List String)} {path : Path} {paths part found : List Path}
      (adds : workspace.Adds extensions seen path part)
      (rest : Lists workspace extensions (seen ++ part.map workspace.place) paths found) :
      Lists workspace extensions seen (path :: paths) (part ++ found)

variable {workspace : Workspace} {extensions : List String} {seen : List (List String)}
  {path : Path} {paths found : List Path}

theorem at?_of_entryAt {entry : Entry} (leads : workspace.entryAt path = .ok entry) :
    workspace.tree.at? (workspace.place path) = some entry :=
  Entry.at?_of_follow .start leads

theorem filesFor_of_file (isFile : workspace.isFile path = true) :
    workspace.filesFor extensions path = .ok [path] := by
  simp only [Workspace.isFile] at isFile
  split at isFile
  · rename_i content leads
    rw [filesFor, leads]
  · cases isFile

theorem filesFor_of_directory {entries : List (String × Entry)}
    (leads : workspace.entryAt path = .ok (.directory entries)) :
    workspace.filesFor extensions path = .ok (filesBelow extensions path (.directory entries)) := by
  rw [filesFor, leads]

theorem isFile_or_isDirectory (leads : workspace.Leads path) :
    workspace.isFile path = true ∨ workspace.IsDirectory path := by
  rcases leads with ⟨entry, leads⟩
  cases entry with
  | file content => exact .inl (by rw [isFile, leads])
  | directory entries => exact .inr ⟨entries, leads⟩

theorem filesFor_eq_error_iff {missing : MissingPath} :
    workspace.filesFor extensions path = .error missing ↔
      ¬workspace.Leads path ∧ missing.path = path := by
  rcases missing with ⟨other⟩
  rw [filesFor, Leads]
  cases workspace.entryAt path with
  | error error => simp [eq_comm]
  | ok entry => cases entry <;> simp

theorem leads_of_filesFor {files : List Path}
    (given : workspace.filesFor extensions path = .ok files) : workspace.Leads path := by
  by_contra lost
  rw [filesFor_eq_error_iff.mpr ⟨lost, rfl⟩] at given
  cases given

/-- The files listed for a directory are the source files below it. -/
theorem mem_filesBelow_iff (tidy : workspace.tree.Tidy) {entries : List (String × Entry)}
    (leads : workspace.entryAt path = .ok (.directory entries)) {found : Path} :
    found ∈ filesBelow extensions path (.directory entries) ↔
      workspace.IsBelow extensions path found := by
  have here := at?_of_entryAt leads
  have below : ∀ names content, (names, content) ∈ (Entry.directory entries).files ↔
      workspace.tree.at? (workspace.place path ++ names) = some (.file content) := by
    intro names content
    rw [Entry.mem_files_iff (tidy.of_at? here), Entry.at?_append, here, Option.bind_some]
  simp only [filesBelow, List.mem_map, List.mem_mergeSort, List.mem_filter, isWanted_iff, IsBelow]
  constructor
  · rintro ⟨_, ⟨⟨⟨names, content⟩, member, rfl⟩, source⟩, rfl⟩
    exact ⟨names, content, rfl, source, (below names content).mp member⟩
  · rintro ⟨names, content, rfl, source, there⟩
    exact ⟨names, ⟨⟨(names, content), (below names content).mpr there, rfl⟩, source⟩, rfl⟩

/-- Files below a directory are told apart by their places. -/
theorem eq_of_place_eq (tidy : workspace.tree.Tidy) {one other : Path}
    (oneBelow : workspace.IsBelow extensions path one)
    (otherBelow : workspace.IsBelow extensions path other)
    (same : workspace.place one = workspace.place other) : one = other := by
  have place_below : ∀ names content,
      workspace.tree.at? (workspace.place path ++ names) = some (Entry.file content) →
        workspace.place (path.below names) = workspace.place path ++ names := by
    intro names content there
    have plain := tidy.plain_of_at? there
    exact Path.resolve_below (fun member => plain (List.mem_append_right _ member)) path _
  rcases oneBelow with ⟨names, content, rfl, -, there⟩
  rcases otherBelow with ⟨others, otherContent, rfl, -, otherThere⟩
  rw [place_below names content there, place_below others otherContent otherThere] at same
  rw [List.append_cancel_left same]

theorem pairwise_filesBelow (extensions : List String) (path : Path) (directory : Entry) :
    (filesBelow extensions path directory).Pairwise fun one later =>
      one.parts < later.parts ∨ one = later := by
  rw [filesBelow, List.pairwise_map]
  refine (List.pairwise_mergeSort Path.partsBefore_trans Path.partsBefore_total _).imp ?_
  intro names others before
  rcases Path.partsBefore_iff.mp before with less | rfl
  · exact .inl (List.append_left_lt less)
  · exact .inr rfl

section Distinct

theorem distinctFrom_congr {known : List (List String)}
    (same : ∀ place, place ∈ seen ↔ place ∈ known) :
    workspace.distinctFrom seen paths = workspace.distinctFrom known paths := by
  induction paths generalizing seen known with
  | nil => rfl
  | cons path rest ih =>
      simp only [distinctFrom, List.contains_iff_mem, same]
      split
      · exact ih same
      · refine congrArg (path :: ·) (ih fun place => ?_)
        rw [List.mem_cons, List.mem_cons, same]

theorem distinctFrom_append (first second : List Path) :
    workspace.distinctFrom seen (first ++ second) =
      workspace.distinctFrom seen first ++ workspace.distinctFrom
        (seen ++ (workspace.distinctFrom seen first).map workspace.place) second := by
  induction first generalizing seen with
  | nil => simp [distinctFrom]
  | cons path rest ih =>
      simp only [List.cons_append, distinctFrom, List.contains_iff_mem]
      split
      · exact ih
      · rw [ih, List.cons_append, List.map_cons]
        refine congrArg (path :: _ ++ ·) (distinctFrom_congr fun other => ?_)
        simp only [List.mem_append, List.mem_cons, place]
        tauto

theorem distinctFrom_sublist (seen : List (List String)) (paths : List Path) :
    (workspace.distinctFrom seen paths).Sublist paths := by
  induction paths generalizing seen with
  | nil => exact .slnil
  | cons path rest ih =>
      simp only [distinctFrom]
      split
      · exact .cons path (ih seen)
      · exact .cons_cons path (ih _)

theorem place_notMem_of_distinctFrom {kept : Path}
    (member : kept ∈ workspace.distinctFrom seen paths) : workspace.place kept ∉ seen := by
  induction paths generalizing seen with
  | nil => cases member
  | cons path rest ih =>
      simp only [distinctFrom, List.contains_iff_mem] at member
      split at member
      · exact ih member
      · rename_i new
        rcases List.mem_cons.mp member with rfl | later
        · exact new
        · exact fun known => ih later (List.mem_cons_of_mem _ known)

/-- No place is listed twice. -/
theorem nodup_distinctFrom (seen : List (List String)) (paths : List Path) :
    ((workspace.distinctFrom seen paths).map workspace.place).Nodup := by
  induction paths generalizing seen with
  | nil => exact List.nodup_nil
  | cons path rest ih =>
      simp only [distinctFrom]
      split
      · exact ih seen
      · rw [List.map_cons, List.nodup_cons]
        refine ⟨fun listed => ?_, ih _⟩
        rcases List.mem_map.mp listed with ⟨kept, member, same⟩
        exact place_notMem_of_distinctFrom member (same ▸ List.mem_cons_self ..)

theorem place_mem_of_mem (member : path ∈ paths) : workspace.place path ∈ seen ∨
    workspace.place path ∈ (workspace.distinctFrom seen paths).map workspace.place := by
  induction paths generalizing seen with
  | nil => cases member
  | cons first rest ih =>
      simp only [distinctFrom, List.contains_iff_mem]
      split
      · rename_i known
        rcases List.mem_cons.mp member with rfl | later
        · exact .inl known
        · exact ih later
      · rw [List.map_cons, List.mem_cons]
        rcases List.mem_cons.mp member with rfl | later
        · exact .inr (.inl rfl)
        · rcases @ih (workspace.place first :: seen) later with known | kept
          · exact (List.mem_cons.mp known).elim (.inr ∘ .inl) .inl
          · exact .inr (.inr kept)

/-- Of paths told apart by their places those with new places are kept. -/
theorem mem_distinctFrom_iff
    (apart : ∀ one ∈ paths, ∀ other ∈ paths, workspace.place one = workspace.place other →
      one = other) {kept : Path} :
    kept ∈ workspace.distinctFrom seen paths ↔ kept ∈ paths ∧ workspace.place kept ∉ seen := by
  refine ⟨fun member => ⟨(distinctFrom_sublist seen paths).subset member,
    place_notMem_of_distinctFrom member⟩, ?_⟩
  rintro ⟨member, new⟩
  induction paths generalizing seen with
  | nil => cases member
  | cons path rest ih =>
      have restApart : ∀ one ∈ rest, ∀ other ∈ rest, workspace.place one = workspace.place other →
          one = other := fun one oneMem other otherMem =>
        apart one (List.mem_cons_of_mem _ oneMem) other (List.mem_cons_of_mem _ otherMem)
      simp only [distinctFrom, List.contains_iff_mem]
      rcases List.mem_cons.mp member with rfl | later
      · rw [if_neg (by exact new)]
        exact List.mem_cons_self ..
      · split
        · exact ih restApart later new
        · by_cases same : kept = path
          · exact same ▸ List.mem_cons_self ..
          · refine List.mem_cons_of_mem _ (ih restApart later ?_)
            rw [List.mem_cons, not_or]
            exact ⟨fun samePlace => same (apart kept member path (List.mem_cons_self ..) samePlace),
              new⟩

end Distinct

/-- What is kept of the files for a path is what the path adds. -/
theorem adds_distinctFrom (tidy : workspace.tree.Tidy) {files : List Path}
    (given : workspace.filesFor extensions path = .ok files) :
    workspace.Adds extensions seen path (workspace.distinctFrom seen files) := by
  rcases isFile_or_isDirectory (leads_of_filesFor given) with isFile | ⟨entries, leads⟩
  · rw [filesFor_of_file isFile] at given
    cases given
    by_cases listed : workspace.place path ∈ seen
    · have kept : workspace.distinctFrom seen [path] = [] := by
        simp [distinctFrom, show path.resolve workspace.current ∈ seen from listed]
      rw [kept]
      exact .known isFile listed
    · have kept : workspace.distinctFrom seen [path] = [path] := by
        simp [distinctFrom, show path.resolve workspace.current ∉ seen from listed]
      rw [kept]
      exact .file isFile listed
  · rw [filesFor_of_directory leads] at given
    cases given
    have below : ∀ found, found ∈ filesBelow extensions path (.directory entries) ↔
        workspace.IsBelow extensions path found := fun _ => mem_filesBelow_iff tidy leads
    refine .directory ⟨entries, leads⟩ ?_ fun found => ?_
    · have distinct := List.pairwise_map.mp (@nodup_distinctFrom workspace seen
        (filesBelow extensions path (.directory entries)))
      refine (distinct.and ((pairwise_filesBelow extensions path _).sublist
        (distinctFrom_sublist seen _))).imp ?_
      rintro one later ⟨differ, less | rfl⟩
      · exact less
      · exact absurd rfl differ
    · rw [mem_distinctFrom_iff, below]
      intro one oneMem other otherMem
      exact eq_of_place_eq tidy ((below one).mp oneMem) ((below other).mp otherMem)

/-- The first path that leads to nothing is told. -/
theorem mapM_filesFor_eq_error_iff {missing : MissingPath} :
    paths.mapM (workspace.filesFor extensions) = .error missing ↔
      ∃ before after, paths = before ++ missing.path :: after ∧
        (∀ path ∈ before, workspace.Leads path) ∧ ¬workspace.Leads missing.path := by
  induction paths with
  | nil => exact iff_of_false nofun fun ⟨before, after, split, _⟩ => by simp at split
  | cons path rest ih =>
      rw [List.mapM_cons]
      cases given : workspace.filesFor extensions path with
      | error other =>
          rcases filesFor_eq_error_iff.mp given with ⟨lost, rfl⟩
          constructor
          · rintro ⟨⟩
            exact ⟨[], rest, rfl, nofun, lost⟩
          · rintro ⟨before, after, split, leads, -⟩
            cases before with
            | nil =>
                rcases other with ⟨path⟩
                rcases missing with ⟨missed⟩
                cases split
                rfl
            | cons first others =>
                cases split
                exact absurd (leads _ (List.mem_cons_self ..)) lost
      | ok files =>
          have leads := leads_of_filesFor given
          have rest_iff : (do
              let found ← rest.mapM (workspace.filesFor extensions)
              pure (files :: found) : Except MissingPath (List (List Path))) = .error missing ↔
                rest.mapM (workspace.filesFor extensions) = .error missing := by
            cases rest.mapM (workspace.filesFor extensions) <;> simp [bind, Except.bind, pure,
              Except.pure]
          refine rest_iff.trans (ih.trans ⟨?_, ?_⟩)
          · rintro ⟨before, after, rfl, lead, lost⟩
            exact ⟨path :: before, after, rfl, List.forall_mem_cons.mpr ⟨leads, lead⟩, lost⟩
          · rintro ⟨before, after, split, lead, lost⟩
            cases before with
            | nil =>
                cases split
                exact absurd leads lost
            | cons first others =>
                cases split
                exact ⟨others, after, rfl, fun path member =>
                  lead path (List.mem_cons_of_mem _ member), lost⟩

/-- The files of paths without repetition are what the paths add, one after the other. -/
theorem lists_distinctFrom (tidy : workspace.tree.Tidy) {files : List (List Path)}
    (given : paths.mapM (workspace.filesFor extensions) = .ok files) :
    workspace.Lists extensions seen paths (workspace.distinctFrom seen files.flatten) := by
  induction paths generalizing seen files with
  | nil =>
      cases given
      exact .nil
  | cons path rest ih =>
      rw [List.mapM_cons] at given
      cases own : workspace.filesFor extensions path with
      | error missing =>
          rw [own] at given
          cases given
      | ok first =>
          cases others : rest.mapM (workspace.filesFor extensions) with
          | error missing =>
              rw [own, others] at given
              cases given
          | ok later =>
              rw [own, others] at given
              cases given
              rw [List.flatten_cons, distinctFrom_append]
              exact .cons (adds_distinctFrom tidy own) (ih others)

/-- Paths with the files before all directories, each in the order given. -/
def filesFirst (workspace : Workspace) (paths : List Path) : List Path :=
  paths.filter workspace.isFile ++ paths.filter fun path => !workspace.isFile path

theorem isFile_of_isDirectory (isDirectory : workspace.IsDirectory path) :
    workspace.isFile path = false := by
  rcases isDirectory with ⟨entries, leads⟩
  rw [isFile, leads]

theorem Adds.congr {known : List (List String)} {part : List Path}
    (adds : workspace.Adds extensions seen path part)
    (same : ∀ place, place ∈ seen ↔ place ∈ known) :
    workspace.Adds extensions known path part := by
  cases adds with
  | file isFile new => exact .file isFile (mt (same _).mpr new)
  | known isFile listed => exact .known isFile ((same _).mp listed)
  | directory isDirectory inOrder whole =>
      refine .directory isDirectory inOrder fun found => ?_
      rw [whole, same]

theorem Lists.congr {known : List (List String)}
    (lists : workspace.Lists extensions seen paths found)
    (same : ∀ place, place ∈ seen ↔ place ∈ known) :
    workspace.Lists extensions known paths found := by
  induction lists generalizing known with
  | nil => exact .nil
  | cons adds rest ih =>
      refine .cons (adds.congr same) (ih fun place => ?_)
      rw [List.mem_append, List.mem_append, same]

theorem lists_append_iff {first second : List Path} :
    workspace.Lists extensions seen (first ++ second) found ↔
      ∃ front back, found = front ++ back ∧ workspace.Lists extensions seen first front ∧
        workspace.Lists extensions (seen ++ front.map workspace.place) second back := by
  constructor
  · intro lists
    induction first generalizing seen found with
    | nil => exact ⟨[], found, rfl, .nil, by simpa using lists⟩
    | cons path rest ih =>
        rcases lists with _ | ⟨adds, lists⟩
        rcases ih lists with ⟨front, back, rfl, lists, later⟩
        exact ⟨_, back, (List.append_assoc ..).symm, .cons adds lists, by simpa using later⟩
  · rintro ⟨front, back, rfl, lists, later⟩
    induction lists with
    | nil => simpa using later
    | cons adds lists ih =>
        rw [List.append_assoc, List.cons_append]
        exact .cons adds (ih (by simpa using later))

/-- Files stand for themselves, each where it is given first. -/
theorem lists_files_iff (files : ∀ path ∈ paths, workspace.isFile path = true) :
    workspace.Lists extensions seen paths found ↔ found = workspace.distinctFrom seen paths := by
  induction paths generalizing seen found with
  | nil =>
      constructor
      · rintro ⟨⟩
        rfl
      · rintro rfl
        exact .nil
  | cons path rest ih =>
      rcases List.forall_mem_cons.mp files with ⟨isFile, restFiles⟩
      have adds_iff : ∀ part, workspace.Adds extensions seen path part ↔
          part = workspace.distinctFrom seen [path] := by
        intro part
        simp only [distinctFrom, List.contains_iff_mem]
        constructor
        · rintro (⟨-, new⟩ | ⟨-, listed⟩ | ⟨isDirectory⟩)
          · rw [if_neg (by exact new)]
          · rw [if_pos (by exact listed)]
          · rw [isFile_of_isDirectory isDirectory] at isFile
            cases isFile
        · split
          · rintro rfl
            exact .known isFile ‹_›
          · rintro rfl
            exact .file isFile ‹_›
      rw [← List.singleton_append, lists_append_iff, distinctFrom_append]
      have single_iff : ∀ front, workspace.Lists extensions seen [path] front ↔
          front = workspace.distinctFrom seen [path] := by
        intro front
        rw [← adds_iff]
        constructor
        · rintro (_ | ⟨adds, ⟨⟩⟩)
          rwa [List.append_nil]
        · intro adds
          have listed := Lists.cons adds .nil
          rwa [List.append_nil] at listed
      simp only [single_iff, ih restFiles]
      constructor
      · rintro ⟨front, back, rfl, rfl, rfl⟩
        rfl
      · rintro rfl
        exact ⟨_, _, rfl, rfl, rfl⟩

/-- Without the files of some places, among them all files given, a list is what the directories
add. -/
theorem Lists.directories (lists : workspace.Lists extensions seen paths found)
    {places : List (List String)}
    (given : ∀ path ∈ paths, workspace.isFile path = true →
      workspace.place path ∈ seen ∨ workspace.place path ∈ places) :
    workspace.Lists extensions (seen ++ places) (paths.filter fun path => !workspace.isFile path)
      (found.filter fun path => workspace.place path ∉ places) := by
  induction lists with
  | nil => exact .nil
  | @cons seen path paths part found adds rest ih =>
      rcases List.forall_mem_cons.mp given with ⟨pathGiven, restGiven⟩
      have later := ih fun other member isFile => by
        rcases restGiven other member isFile with known | among
        · exact .inl (List.mem_append_left _ known)
        · exact .inr among
      cases adds with
      | file isFile new =>
          have among := (pathGiven isFile).resolve_left new
          rw [List.filter_cons_of_neg (by simp [isFile]), List.singleton_append,
            List.filter_cons_of_neg (by simpa using among)]
          refine later.congr fun place => ?_
          simp only [List.mem_append, List.map_cons, List.map_nil, List.mem_singleton]
          constructor
          · rintro ((known | rfl) | among)
            · exact .inl known
            · exact .inr among
            · exact .inr among
          · rintro (known | among)
            · exact .inl (.inl known)
            · exact .inr among
      | known isFile listed =>
          rw [List.filter_cons_of_neg (by simp [isFile]), List.nil_append]
          simpa using later
      | directory isDirectory inOrder whole =>
          rw [List.filter_cons_of_pos (by simp [isFile_of_isDirectory isDirectory]),
            List.filter_append]
          refine .cons (.directory isDirectory (inOrder.filter _) fun found => ?_)
            (later.congr fun place => ?_)
          · simp only [List.mem_filter, whole, decide_eq_true_eq, List.mem_append, not_or,
              and_assoc]
          · simp only [List.mem_append, List.mem_map, List.mem_filter, decide_eq_true_eq]
            grind

/-- Behind paths of distinct places stand those whose places are not among theirs. -/
theorem filter_place_notMem {front back : List Path}
    (distinct : ((front ++ back).map workspace.place).Nodup) :
    (front ++ back).filter (fun path => workspace.place path ∉ front.map workspace.place) =
      back := by
  rw [List.map_append, List.nodup_append] at distinct
  rw [List.filter_append]
  have gone : front.filter (fun path => workspace.place path ∉ front.map workspace.place) = [] :=
    List.filter_eq_nil_iff.mpr fun path member => by simpa using ⟨path, member, rfl⟩
  have kept : back.filter (fun path => workspace.place path ∉ front.map workspace.place) = back :=
    List.filter_eq_self.mpr fun path member => decide_eq_true fun listed =>
      distinct.2.2 _ listed _ (List.mem_map_of_mem member) rfl
  rw [gone, kept, List.nil_append]

/-- A list begins with the files given, each where it is given first, exactly if it is also what the
paths stand for when the files are dealt with before all directories. -/
theorem lists_filesFirst_iff (lists : workspace.Lists extensions [] paths found)
    (distinct : (found.map workspace.place).Nodup) :
    workspace.Lists extensions [] (workspace.filesFirst paths) found ↔
      workspace.distinctFrom [] (paths.filter workspace.isFile) <+: found := by
  have files : ∀ path ∈ paths.filter workspace.isFile, workspace.isFile path = true :=
    fun path member => (List.mem_filter.mp member).2
  rw [filesFirst, lists_append_iff]
  constructor
  · rintro ⟨front, back, rfl, listed, -⟩
    rw [lists_files_iff files] at listed
    exact ⟨back, by rw [listed]⟩
  · rintro ⟨back, rfl⟩
    refine ⟨_, back, rfl, (lists_files_iff files).mpr rfl, ?_⟩
    have given : ∀ path ∈ paths, workspace.isFile path = true → workspace.place path ∈ [] ∨
        workspace.place path ∈
          (workspace.distinctFrom [] (paths.filter workspace.isFile)).map workspace.place :=
      fun path member isFile => place_mem_of_mem (List.mem_filter.mpr ⟨member, isFile⟩)
    have later := lists.directories given
    rwa [filter_place_notMem distinct] at later

/-- Paths that all lead somewhere stand for files at pairwise distinct places: for what they add,
one after the other. If the files among the paths are dealt with before the directories the list is
the same exactly if it begins with these files, each where it is given first; it does so if no
directory is given before a file. If some path leads to nothing, the first one that does not is told
instead. -/
theorem collect_lists (tidy : workspace.tree.Tidy) (extensions : List String)
    (paths : List Path) :
    ((∀ path ∈ paths, workspace.Leads path) →
      ∃ found, workspace.collect extensions paths = .ok found ∧
        (found.map workspace.place).Nodup ∧ workspace.Lists extensions [] paths found ∧
        (workspace.Lists extensions [] (workspace.filesFirst paths) found ↔
          workspace.distinctFrom [] (paths.filter workspace.isFile) <+: found) ∧
        ((paths.Pairwise fun one later =>
            workspace.isFile later = true → workspace.isFile one = true) →
          workspace.Lists extensions [] (workspace.filesFirst paths) found)) ∧
    ∀ missing, workspace.collect extensions paths = .error missing ↔
      ∃ before after, paths = before ++ missing.path :: after ∧
        (∀ path ∈ before, workspace.Leads path) ∧ ¬workspace.Leads missing.path := by
  constructor
  · intro lead
    cases given : paths.mapM (workspace.filesFor extensions) with
    | error missing =>
        rcases mapM_filesFor_eq_error_iff.mp given with ⟨before, after, rfl, -, lost⟩
        exact absurd (lead _ (List.mem_append_right _ (List.mem_cons_self ..))) lost
    | ok files =>
        have lists : workspace.Lists extensions [] paths
            (workspace.distinctFrom [] files.flatten) := lists_distinctFrom tidy given
        have distinct := @nodup_distinctFrom workspace [] files.flatten
        refine ⟨_, by rw [collect, given]; rfl, distinct, lists,
          lists_filesFirst_iff lists distinct, fun inOrder => ?_⟩
        rw [filesFirst, filter_append_filter_not inOrder]
        exact lists
  · intro missing
    refine Iff.trans ?_ (@mapM_filesFor_eq_error_iff workspace extensions paths missing)
    rw [collect]
    cases paths.mapM (workspace.filesFor extensions) <;>
      simp [bind, Except.bind, pure, Except.pure]

/-- A directory with two source files, one of them in upper case, a text, and a file in an ignored
directory. -/
def sources : Entry :=
  .directory [("Sub", .directory [("a.PHP", .file (.ofText ""))]), ("b.php", .file (.ofText "")),
    ("notes.txt", .file (.ofText "")), ("vendor", .directory [("x.php", .file (.ofText ""))])]

/-- A template beside the directory. -/
def templateAndSources : Workspace where
  tree := .directory [("view.phtml", .file (.ofText "")), ("src", sources)]
  current := []
  environment := []

theorem filesBelow_sources :
    filesBelow ["php"] (.ofText "src") sources =
      [.ofText "src/Sub/a.PHP", .ofText "src/b.php"] := by
  have sought : (sources.files.map Prod.fst).filter (isWanted ["php"]) =
      [["Sub", "a.PHP"], ["b.php"]] := by decide +kernel
  rw [filesBelow, sought, List.mergeSort_of_pairwise (by decide)]
  decide

/-- A template and one of the sources are given before the directory. -/
theorem collect_lists_templateAndSources :
    templateAndSources.tree.Tidy ∧
      (∀ path ∈ [Path.ofText "view.phtml", .ofText "src/../src/b.php", .ofText "src"],
        templateAndSources.Leads path) ∧
      templateAndSources.collect ["php"]
          [.ofText "view.phtml", .ofText "src/../src/b.php", .ofText "src"] =
        .ok [.ofText "view.phtml", .ofText "src/../src/b.php", .ofText "src/Sub/a.PHP"] ∧
      templateAndSources.Lists ["php"] []
        (templateAndSources.filesFirst
          [.ofText "view.phtml", .ofText "src/../src/b.php", .ofText "src"])
        [.ofText "view.phtml", .ofText "src/../src/b.php", .ofText "src/Sub/a.PHP"] := by
  have tidy : templateAndSources.tree.Tidy := by
    simp [templateAndSources, sources, Entry.tidy_directory_iff, Entry.tidy_file]
  have lead : ∀ path ∈ [Path.ofText "view.phtml", .ofText "src/../src/b.php", .ofText "src"],
      templateAndSources.Leads path := by
    simp only [List.forall_mem_cons]
    exact ⟨⟨_, rfl⟩, ⟨_, rfl⟩, ⟨_, rfl⟩, nofun⟩
  have collected : templateAndSources.collect ["php"]
      [.ofText "view.phtml", .ofText "src/../src/b.php", .ofText "src"] =
        .ok [.ofText "view.phtml", .ofText "src/../src/b.php", .ofText "src/Sub/a.PHP"] := by
    have below : templateAndSources.filesFor ["php"] (.ofText "src") =
        .ok [.ofText "src/Sub/a.PHP", .ofText "src/b.php"] :=
      (filesFor_of_directory rfl).trans (congrArg Except.ok filesBelow_sources)
    rw [collect, List.mapM_cons, List.mapM_cons, List.mapM_cons, filesFor_of_file (by decide),
      filesFor_of_file (by decide), below]
    rfl
  rcases (collect_lists tidy ["php"] _).1 lead with ⟨found, same, -, -, -, inOrder⟩
  rw [collected] at same
  cases same
  exact ⟨tidy, lead, collected, inOrder (by decide)⟩

/-- A file that is given after a directory is listed after the files below the directory. -/
theorem not_lists_filesFirst :
    templateAndSources.collect ["php"] [.ofText "src", .ofText "view.phtml"] =
        .ok [.ofText "src/Sub/a.PHP", .ofText "src/b.php", .ofText "view.phtml"] ∧
      ¬templateAndSources.Lists ["php"] []
        (templateAndSources.filesFirst [.ofText "src", .ofText "view.phtml"])
        [.ofText "src/Sub/a.PHP", .ofText "src/b.php", .ofText "view.phtml"] := by
  have below : templateAndSources.filesFor ["php"] (.ofText "src") =
      .ok [.ofText "src/Sub/a.PHP", .ofText "src/b.php"] :=
    (filesFor_of_directory rfl).trans (congrArg Except.ok filesBelow_sources)
  constructor
  · rw [collect, List.mapM_cons, List.mapM_cons, below, filesFor_of_file (by decide)]
    rfl
  · have first : templateAndSources.filesFirst [.ofText "src", .ofText "view.phtml"] =
        [.ofText "view.phtml", .ofText "src"] := by decide
    rw [first]
    generalize listed : [Path.ofText "src/Sub/a.PHP", .ofText "src/b.php", .ofText "view.phtml"] =
      found
    rintro (_ | ⟨adds, rest⟩)
    cases adds with
    | file isFile new => exact absurd (List.cons.inj listed).1 (by decide)
    | known isFile seen => cases seen
    | directory isDirectory =>
        rcases isDirectory with ⟨entries, leads⟩
        cases leads

end Workspace

end TokenLint
