import KsqlBatch.Engine.Scripted
import KsqlBatch.Files.FileTree
import KsqlBatch.Proofs.Batch.Run
import KsqlBatch.Proofs.Keyed
import KsqlBatch.Proofs.Text.ByteOrder

/-
  This file says which files a directory stands for, in what
  order, and that a batch goes through them in this order.
  It does not matter in which order the entries are listed.

  Key definitions include:
    * `BatchInput.fileNames`
    * `BatchInput.Lists`
    * `ReadUpTo`

  Key theorems include:
    * `BatchInput.lists_paths`
    * `BatchInput.paths_eq_of_perm`
    * `BatchInput.resolve_eq_error_iff`
    * `FileTree.mem_of_list_eq_ok`
    * `ReadUpTo.batchCalls_eq`

  The main result is `BatchInput.resolve_directory`.
-/

------------------------------------------------------------
-- Paths of Entries
------------------------------------------------------------

namespace KsqlBatch

namespace Path

/- The paths of entries begin alike. -/
theorem exists_join_eq_append
    (directory : String) :
    ∃ front, ∀ name, join directory name = front ++ name := by
  by_cases hClosed :
    directory = "" ∨ endsWithSlash directory = true
  · exact ⟨directory, fun _ => if_pos hClosed⟩
  · exact ⟨directory ++ "/", fun _ => if_neg hClosed⟩

/- Entries with names of their own have paths of their own. -/
theorem join_injective
    {directory name other : String}
    (hSame : join directory name = join directory other) :
    name = other := by
  rcases exists_join_eq_append directory with ⟨front, hJoin⟩
  rw [hJoin, hJoin] at hSame
  exact (String.append_right_inj front).mp hSame

theorem slash_mem_of_endsWithSlash
    {front path : String}
    (hPath : path ≠ "")
    (hSlash : endsWithSlash (front ++ path) = true) :
    '/' ∈ path.toList := by
  have hNotEmpty : path.toList ≠ [] := by
    intro hEmpty
    exact hPath (String.toList_eq_nil_iff.mp hEmpty)
  unfold endsWithSlash at hSlash
  rw [beq_iff_eq, String.toList_append,
    List.getLast?_append_of_ne_nil _ hNotEmpty] at hSlash
  exact List.mem_of_getLast? hSlash

/-
  What is deeper in a directory has a path like an entry
  whose name contains a slash.
-/
theorem exists_join_of_deeper
    {inner : String}
    (hInner : inner ≠ "")
    (directory name : String) :
    ∃ deeper,
      '/' ∈ deeper.toList ∧
        join (join directory inner) name =
          join directory deeper := by
  rcases exists_join_eq_append directory with ⟨front, hJoin⟩
  have hNotEmpty : front ++ inner ≠ "" := by
    intro hEmpty
    exact hInner (String.append_eq_empty_iff.mp hEmpty).2
  rw [hJoin, join]
  by_cases hSlash : endsWithSlash (front ++ inner) = true
  · refine ⟨inner ++ name, ?_, ?_⟩
    · rw [String.toList_append, List.mem_append]
      exact Or.inl (slash_mem_of_endsWithSlash hInner hSlash)
    · rw [if_pos (Or.inr hSlash), hJoin,
        String.append_assoc]
  · refine ⟨inner ++ "/" ++ name, ?_, ?_⟩
    · simp
    · rw [if_neg (not_or.mpr ⟨hNotEmpty, hSlash⟩), hJoin,
        String.append_assoc, String.append_assoc,
        String.append_assoc]

end Path

end KsqlBatch

------------------------------------------------------------
-- Listings
------------------------------------------------------------

namespace KsqlBatch

namespace BatchInput

/- The names of the entries that are no directories. -/
def fileNames
    (entries : List DirectoryEntry) : List String :=
  (Keyed.ofList
    ((entries.filter (! ·.isDirectory)).map
      (·.name, ()))).map Prod.fst

/-
  Paths are those of the entries that are no directories,
  each once, in the order of the bytes of their names.
-/
def Lists
    (directory : String)
    (entries : List DirectoryEntry)
    (paths : List String) : Prop :=
  ∃ names : List String,
    paths = names.map (Path.join directory) ∧
      names.Pairwise
        (fun a b => Text.bytes a < Text.bytes b) ∧
      ∀ name,
        name ∈ names ↔
          { name, isDirectory := false } ∈ entries

variable {directory : String}
variable {entries others : List DirectoryEntry}
variable {paths : List String}

theorem paths_eq_map_fileNames
    (directory : String)
    (entries : List DirectoryEntry) :
    BatchInput.paths directory entries =
      (fileNames entries).map (Path.join directory) := by
  unfold BatchInput.paths fileNames
  rw [List.map_map]
  rfl

/- What the entries that are no directories are put under. -/
theorem nodup_keys
    (hDistinct : (entries.map DirectoryEntry.name).Nodup) :
    (((entries.filter (! ·.isDirectory)).map
      fun entry => (entry.name, ())).map Prod.fst).Nodup := by
  rw [List.map_map]
  exact hDistinct.sublist (List.filter_sublist.map _)

theorem mem_fileNames_iff
    (hDistinct : (entries.map DirectoryEntry.name).Nodup)
    (name : String) :
    name ∈ fileNames entries ↔
      { name, isDirectory := false } ∈ entries := by
  have hPerm := Keyed.perm_ofList (nodup_keys hDistinct)
  unfold fileNames
  rw [(hPerm.map Prod.fst).mem_iff, List.map_map]
  constructor
  · intro hName
    rcases List.mem_map.mp hName with
      ⟨⟨found, isDirectory⟩, hEntry, hFound⟩
    rcases List.mem_filter.mp hEntry with
      ⟨hEntry, hNoDirectory⟩
    cases isDirectory with
    | true => cases hNoDirectory
    | false =>
        cases hFound
        exact hEntry
  · intro hEntry
    exact
      List.mem_map.mpr
        ⟨_, List.mem_filter.mpr ⟨hEntry, rfl⟩, rfl⟩

/- The names ascend in the order of their bytes. -/
theorem pairwise_fileNames
    (entries : List DirectoryEntry) :
    (fileNames entries).Pairwise
      (fun a b => Text.bytes a < Text.bytes b) := by
  refine List.pairwise_map.mpr ?_
  refine (Keyed.sorted_ofList _).imp ?_
  intro entry other hLess
  exact Text.lt_iff_bytes_lt.mp hLess

theorem lists_paths
    (hDistinct : (entries.map DirectoryEntry.name).Nodup)
    (directory : String) :
    Lists directory entries
      (BatchInput.paths directory entries) :=
  ⟨fileNames entries, paths_eq_map_fileNames _ _,
    pairwise_fileNames entries, mem_fileNames_iff hDistinct⟩

/- Entries may be listed in any order. -/
theorem paths_eq_of_perm
    (hPerm : entries.Perm others)
    (hDistinct : (entries.map DirectoryEntry.name).Nodup)
    (directory : String) :
    BatchInput.paths directory entries =
      BatchInput.paths directory others := by
  have hKeys :=
    (hPerm.filter (! ·.isDirectory)).map
      fun entry => (entry.name, ())
  rw [paths_eq_map_fileNames, paths_eq_map_fileNames]
  unfold fileNames
  rw [Keyed.ofList_eq_of_perm hKeys (nodup_keys hDistinct)]

/- The path of an entry is listed once. -/
theorem Lists.nodup
    (hLists : Lists directory entries paths) :
    paths.Nodup := by
  rcases hLists with ⟨names, rfl, hAscend, _⟩
  refine List.pairwise_map.mpr (hAscend.imp ?_)
  intro name other hLess hSame
  rw [Path.join_injective hSame] at hLess
  exact List.lt_irrefl _ hLess

theorem Lists.mem_iff
    (hLists : Lists directory entries paths)
    (path : String) :
    path ∈ paths ↔
      ∃ name,
        path = Path.join directory name ∧
          { name, isDirectory := false } ∈ entries := by
  rcases hLists with ⟨names, rfl, _, hNames⟩
  constructor
  · intro hPath
    rcases List.mem_map.mp hPath with ⟨name, hName, rfl⟩
    exact ⟨name, rfl, (hNames name).mp hName⟩
  · rintro ⟨name, rfl, hEntry⟩
    exact List.mem_map_of_mem ((hNames name).mpr hEntry)

/- Nothing inside a sub-directory is listed. -/
theorem Lists.not_mem_of_deeper
    (hLists : Lists directory entries paths)
    (hNames :
      ∀ entry ∈ entries, '/' ∉ entry.name.toList)
    {inner : String}
    (hInner : inner ≠ "")
    (name : String) :
    Path.join (Path.join directory inner) name ∉ paths := by
  intro hPath
  rcases Path.exists_join_of_deeper hInner directory name with
    ⟨deeper, hSlash, hSame⟩
  rw [hSame] at hPath
  rcases (hLists.mem_iff _).mp hPath with
    ⟨found, hFound, hEntry⟩
  rw [Path.join_injective hFound] at hSlash
  exact hNames _ hEntry hSlash

/- A directory with entries is resolved to their paths. -/
theorem resolve_eq_ok
    {disk : FileSystem Id}
    (hListed :
      Id.run (disk.listDirectory directory) = .ok entries) :
    Id.run (resolve disk (.directory directory)) =
      .ok (BatchInput.paths directory entries) := by
  unfold resolve
  simp only [Id.run_bind, hListed]
  rfl

/- A directory that is not listed is not resolved. -/
theorem resolve_eq_error
    {disk : FileSystem Id}
    {fault : ListingFault}
    (hListed :
      Id.run (disk.listDirectory directory) =
        .error fault) :
    Id.run (resolve disk (.directory directory)) =
      .error (listingError directory fault) := by
  unfold resolve
  simp only [Id.run_bind, hListed]
  rfl

/-
  Nothing else fails to be resolved, so the error has the
  path of a directory or of one of its entries.
-/
theorem resolve_eq_error_iff
    (disk : FileSystem Id)
    (input : BatchInput)
    (error : RunError) :
    Id.run (resolve disk input) = .error error ↔
      ∃ directory fault,
        input = .directory directory ∧
          Id.run (disk.listDirectory directory) =
            .error fault ∧
          error = listingError directory fault := by
  constructor
  · intro hResolve
    cases input with
    | file path => cases hResolve
    | directory path =>
        cases hListed : Id.run (disk.listDirectory path) with
        | error fault =>
            rw [resolve_eq_error hListed] at hResolve
            cases hResolve
            exact ⟨path, fault, rfl, hListed, rfl⟩
        | ok entries =>
            rw [resolve_eq_ok hListed] at hResolve
            cases hResolve
  · rintro ⟨directory, fault, rfl, hListed, rfl⟩
    exact resolve_eq_error hListed

end BatchInput

end KsqlBatch

------------------------------------------------------------
-- Trees
------------------------------------------------------------

namespace KsqlBatch

namespace FileTree

variable {tree : FileTree}
variable {directory : String}
variable {place : List String}
variable {entries : List DirectoryEntry}

/- An entry is what stands one name below a place. -/
theorem entryIn?_eq_some_iff
    (node : List String × FileNode)
    (entry : DirectoryEntry) :
    entryIn? (.within place) node = some entry ↔
      node.1 = place ++ [entry.name] ∧
        entry.isDirectory = node.2.isDirectory := by
  rcases node with ⟨names, node⟩
  constructor
  · intro hEntry
    unfold entryIn? at hEntry
    split at hEntry
    · cases hEntry
    · rename_i name hLast
      split at hEntry
      · rename_i hPlace
        cases hPlace
        cases hEntry
        refine ⟨?_, rfl⟩
        exact (List.dropLast_append_getLast? name hLast).symm
      · cases hEntry
  · rintro ⟨rfl, hKind⟩
    simp [entryIn?, ← hKind]

/-
  The entries of a directory are what stands one name below
  its place. Links are entries like files.
-/
theorem mem_of_list_eq_ok
    (hPlace : tree.locate directory = .ok (.within place))
    (hListed : tree.list directory = .ok entries)
    (entry : DirectoryEntry) :
    entry ∈ entries ↔
      ∃ node,
        (place ++ [entry.name], node) ∈ tree.nodes ∧
          entry.isDirectory = node.isDirectory := by
  unfold list at hListed
  rw [hPlace] at hListed
  dsimp only at hListed
  split at hListed
  · cases hListed
    rw [List.mem_filterMap]
    constructor
    · rintro ⟨⟨names, node⟩, hNode, hEntry⟩
      rcases (entryIn?_eq_some_iff _ _).mp hEntry with
        ⟨rfl, hKind⟩
      exact ⟨node, hNode, hKind⟩
    · rintro ⟨node, hNode, hKind⟩
      exact
        ⟨_, hNode, (entryIn?_eq_some_iff _ _).mpr ⟨rfl, hKind⟩⟩
  · cases hListed

end FileTree

end KsqlBatch

------------------------------------------------------------
-- Reading
------------------------------------------------------------

namespace KsqlBatch

/-
  Files are read one after the other, up to the first that
  cannot be read.
-/
structure ReadUpTo
    (disk : FileSystem Id)
    (paths read contents unread : List String) : Prop where
  paths_eq : paths = read ++ unread
  contents_eq :
    read.map (fun path => Id.run (disk.readText path)) =
      contents.map .ok
  fails :
    ∀ path ∈ unread.head?,
      ∃ fault, Id.run (disk.readText path) = .error fault

theorem exists_readUpTo
    (disk : FileSystem Id)
    (paths : List String) :
    ∃ read contents unread,
      ReadUpTo disk paths read contents unread := by
  induction paths with
  | nil => exact ⟨[], [], [], rfl, rfl, nofun⟩
  | cons path paths ih =>
      cases hRead : Id.run (disk.readText path) with
      | error fault =>
          refine ⟨[], [], path :: paths, rfl, rfl, ?_⟩
          rintro _ ⟨⟩
          exact ⟨fault, hRead⟩
      | ok content =>
          rcases ih with ⟨read, contents, unread, hRest⟩
          refine
            ⟨path :: read, content :: contents, unread,
              ?_, ?_, hRest.fails⟩
          · rw [hRest.paths_eq, List.cons_append]
          · rw [List.map_cons, List.map_cons, hRead,
              hRest.contents_eq]

namespace ReadUpTo

variable {disk : FileSystem Id}
variable {paths read contents unread : List String}

/- If every file is read, every file is reported. -/
theorem planFiles_eq
    (hReads : ReadUpTo disk paths read contents []) :
    planFiles disk paths =
      { calls := contents.flatMap scriptCalls
        ending := .ok (read.zipWith scriptReport contents) } := by
  rw [hReads.paths_eq, planFiles_append hReads.contents_eq]
  simp [planFiles, Except.map]

/- A file that cannot be read fails the plan. -/
theorem exists_planFiles_eq
    {path : String}
    {later : List String}
    (hReads :
      ReadUpTo disk paths read contents (path :: later)) :
    ∃ fault,
      planFiles disk paths =
        { calls := contents.flatMap scriptCalls
          ending := .error (.file path fault) } := by
  rcases hReads.fails path rfl with ⟨fault, hFault⟩
  refine ⟨fault, ?_⟩
  rw [hReads.paths_eq, planFiles_append hReads.contents_eq,
    planFiles_cons_of_fault hFault]
  simp [Except.map]

/-
  The scripts that are read are called for in order. The
  last calls are made if all of them are read.
-/
theorem batchCalls_eq
    (hReads : ReadUpTo disk paths read contents unread)
    (policy : ListingPolicy) :
    (planFiles disk paths).batchCalls policy =
      policy.callsBefore ++ contents.flatMap scriptCalls ++
        if unread = [] then policy.callsAfter else [] := by
  cases unread with
  | nil =>
      rw [hReads.planFiles_eq]
      rfl
  | cons path later =>
      rcases hReads.exists_planFiles_eq with ⟨fault, hPlan⟩
      rw [hPlan]
      rfl

/- Every file is reported if all of them are read. -/
theorem map_path_of_ending_eq_ok
    (hReads : ReadUpTo disk paths read contents unread)
    {reports : List FileReport}
    (hEnding : (planFiles disk paths).ending = .ok reports) :
    reports.map FileReport.path = paths := by
  cases unread with
  | nil =>
      have hLength : read.length ≤ contents.length := by
        have hSame :=
          congrArg List.length hReads.contents_eq
        rw [List.length_map, List.length_map] at hSame
        exact Nat.le_of_eq hSame
      have hPaths : paths = read :=
        hReads.paths_eq.trans (List.append_nil read)
      rw [hReads.planFiles_eq] at hEnding
      cases hEnding
      have hFirst :
          (read.zipWith scriptReport contents).map
              FileReport.path =
            (read.zip contents).map Prod.fst := by
        rw [List.zip, List.map_zipWith, List.map_zipWith]
        rfl
      rw [hFirst, List.map_fst_zip hLength, hPaths]
  | cons path later =>
      rcases hReads.exists_planFiles_eq with ⟨fault, hPlan⟩
      rw [hPlan] at hEnding
      cases hEnding

end ReadUpTo

end KsqlBatch

------------------------------------------------------------
-- Runs
------------------------------------------------------------

namespace KsqlBatch

/-
  A run processes files in order. It calls for the scripts
  that it reads, one after the other, as long as its calls
  succeed, and if it comes to its end it reports every file.
-/
def BatchRun.Processes
    {σ : Type}
    (run : BatchRun σ)
    (machine : Machine σ)
    (disk : FileSystem Id)
    (policy : ListingPolicy)
    (s : σ)
    (paths : List String) : Prop :=
  ∃ read contents unread : List String,
    ReadUpTo disk paths read contents unread ∧
    run.calls <+:
      policy.callsBefore ++ contents.flatMap scriptCalls ++
        (if unread = [] then policy.callsAfter else []) ∧
    ((∀ reply ∈ machine.replies run.calls s, reply.isOk) →
      run.calls =
        policy.callsBefore ++ contents.flatMap scriptCalls ++
          if unread = [] then policy.callsAfter else []) ∧
    ∀ report,
      run.result = .ok report →
        report.files.map FileReport.path = paths

namespace Machine

variable {σ : Type}

/- A run processes the files that its input stands for. -/
theorem batchRun_processes
    {disk : FileSystem Id}
    {input : BatchInput}
    {paths : List String}
    (hResolve : Id.run (input.resolve disk) = .ok paths)
    (machine : Machine σ)
    (policy : ListingPolicy)
    (s : σ) :
    (machine.batchRun disk policy input s).Processes machine
      disk policy s paths := by
  rcases exists_readUpTo disk paths with
    ⟨read, contents, unread, hReads⟩
  have hPlan := planInput_of_ok hResolve
  refine ⟨read, contents, unread, hReads, ?_, ?_, ?_⟩
  · rw [← hReads.batchCalls_eq policy, ← hPlan]
    rcases machine.batchRun_served_or_failed disk policy input
      s with ⟨exchanges, hServed⟩ |
        ⟨exchanges, call, unmade, error, hFailed⟩
    · refine ⟨[], ?_⟩
      rw [hServed.calls_eq, List.append_nil]
    · refine ⟨unmade, ?_⟩
      rw [hFailed.calls_eq, hFailed.plan_eq,
        List.append_assoc, List.singleton_append]
  · intro hSucceed
    rcases batchRun_served hSucceed with
      ⟨exchanges, hServed⟩
    rw [hServed.calls_eq, hPlan, hReads.batchCalls_eq policy]
  · intro report hReport
    rcases machine.batchRun_served_or_failed disk policy input
      s with ⟨exchanges, hServed⟩ |
        ⟨exchanges, call, unmade, error, hFailed⟩
    · rw [hServed.result_eq, hPlan, Plan.conclude] at hReport
      cases hEnding : (planFiles disk paths).ending with
      | error error =>
          rw [hEnding] at hReport
          cases hReport
      | ok reports =>
          rw [hEnding] at hReport
          cases hReport
          exact hReads.map_path_of_ending_eq_ok hEnding
    · rw [hFailed.result_eq] at hReport
      cases hReport

end Machine

end KsqlBatch

------------------------------------------------------------
-- Resolution
------------------------------------------------------------

namespace KsqlBatch

namespace BatchInput

/-
  A directory that is listed is resolved to the paths of its
  entries that are no directories, in the order of the bytes
  of their names, in whatever order they are listed. In a
  tree these are the files and the links one name below it.
  A batch processes them in this order.
-/
theorem resolve_directory
    {disk : FileSystem Id}
    {directory : String}
    {entries : List DirectoryEntry}
    (hListed :
      Id.run (disk.listDirectory directory) = .ok entries)
    (hDistinct : (entries.map DirectoryEntry.name).Nodup) :
    ∃ paths : List String,
      Id.run (resolve disk (.directory directory)) =
        .ok paths ∧
      Lists directory entries paths ∧
      paths.Nodup ∧
      (∀ (other : FileSystem Id)
          (others : List DirectoryEntry),
        Id.run (other.listDirectory directory) =
            .ok others →
          entries.Perm others →
            Id.run (resolve other (.directory directory)) =
              .ok paths) ∧
      ((∀ entry ∈ entries, '/' ∉ entry.name.toList) →
        ∀ inner name,
          inner ≠ "" →
            Path.join (Path.join directory inner) name ∉
              paths) ∧
      (∀ (tree : FileTree) (place : List String),
        disk = tree.fileSystem →
          tree.locate directory = .ok (.within place) →
            ∀ path,
              path ∈ paths ↔
                ∃ name node,
                  path = Path.join directory name ∧
                    (place ++ [name], node) ∈ tree.nodes ∧
                      node.isDirectory = false) ∧
      ∀ {σ : Type} (machine : Machine σ)
          (policy : ListingPolicy) (s : σ),
        (machine.batchRun disk policy (.directory directory)
          s).Processes machine disk policy s paths := by
  have hResolve := resolve_eq_ok hListed
  have hLists := lists_paths hDistinct directory
  refine
    ⟨BatchInput.paths directory entries, hResolve, hLists,
      hLists.nodup, ?_, ?_, ?_, ?_⟩
  · intro other others hOther hPerm
    rw [resolve_eq_ok hOther,
      paths_eq_of_perm hPerm hDistinct]
  · intro hNames inner name hInner
    exact hLists.not_mem_of_deeper hNames hInner name
  · intro tree place hDisk hPlace path
    rw [hDisk] at hListed
    rw [hLists.mem_iff]
    constructor
    · rintro ⟨name, hPath, hEntry⟩
      rcases
        (FileTree.mem_of_list_eq_ok hPlace hListed _).mp
          hEntry
        with ⟨node, hNode, hKind⟩
      exact ⟨name, node, hPath, hNode, hKind.symm⟩
    · rintro ⟨name, node, hPath, hNode, hKind⟩
      refine ⟨name, hPath, ?_⟩
      exact
        (FileTree.mem_of_list_eq_ok hPlace hListed _).mpr
          ⟨node, hNode, hKind.symm⟩
  · intro σ machine policy s
    exact machine.batchRun_processes hResolve policy s

/-
  A directory with files, a link to one of them, a link to a
  sub-directory, and names that are ordered otherwise as
  UTF-16. The link to the sub-directory cannot be read.
-/
theorem resolve_directory_of_linked_scripts :
    let tree : FileTree :=
      { nodes :=
          [(["scripts"], .directory),
            (["scripts", "𐀀.ksql"], .link "sub"),
            (["scripts", "sub"], .directory),
            (["scripts", "sub", "a.ksql"],
              .file "SELECT 0;".toUTF8),
            (["scripts", "Ａ.ksql"],
              .file "SELECT 2;".toUTF8),
            (["scripts", "b.ksql"], .link "Z.ksql"),
            (["scripts", "Z.ksql"],
              .file "SELECT 1;".toUTF8)] }
    let disk : FileSystem Id := tree.fileSystem
    let entries : List DirectoryEntry :=
      [{ name := "𐀀.ksql", isDirectory := false },
        { name := "sub", isDirectory := true },
        { name := "Ａ.ksql", isDirectory := false },
        { name := "b.ksql", isDirectory := false },
        { name := "Z.ksql", isDirectory := false }]
    let backwards : FileSystem Id :=
      { disk with
        listDirectory := fun _ => .ok entries.reverse }
    let machine :=
      Scripted.machine
        { streams := []
          rejections := []
          failingListing := none }
    let run :=
      machine.batchRun disk .never (.directory "scripts") 0
    let paths :=
      ["scripts/Z.ksql", "scripts/b.ksql", "scripts/Ａ.ksql",
        "scripts/𐀀.ksql"]
    (Id.run (disk.listDirectory "scripts") = .ok entries ∧
      (entries.map DirectoryEntry.name).Nodup) ∧
    Id.run (resolve disk (.directory "scripts")) =
      .ok paths ∧
    Id.run (resolve backwards (.directory "scripts")) =
      .ok paths ∧
    "scripts/sub/a.ksql" ∉ paths ∧
    run.Processes machine disk .never 0 paths ∧
    run.calls =
      ["SELECT 1;", "SELECT 1;", "SELECT 2;"].flatMap
        scriptCalls := by
  intro tree disk entries backwards machine run paths
  have hListed :
      Id.run (disk.listDirectory "scripts") = .ok entries := by
    rfl
  have hDistinct :
      (entries.map DirectoryEntry.name).Nodup := by
    decide
  rcases resolve_directory hListed hDistinct with
    ⟨found, hResolve, _, _, hOrder, hDeeper, _, hRuns⟩
  have hFound : found = paths := by
    rw [resolve_eq_ok hListed] at hResolve
    cases hResolve
    decide +kernel
  subst hFound
  refine
    ⟨⟨hListed, hDistinct⟩, hResolve, ?_, ?_,
      hRuns machine .never 0, ?_⟩
  · exact
      hOrder backwards entries.reverse rfl
        (List.reverse_perm entries).symm
  · exact hDeeper (by decide +kernel) "sub" "a.ksql" (by decide)
  · decide +kernel

end BatchInput

end KsqlBatch
