import DirectiveLint.Proofs.Escape
import DirectiveLint.Proofs.FileTree.Proper
import Mathlib.Data.List.Sort
import Mathlib.Data.String.Basic

/-!
# The source files that arguments ask for

An argument that leads to a file asks for this file, whatever it is called.  One
that leads to a directory asks for the source files at any depth below it, each
once and in the order of their paths, without those that have a directory for
installed packages on the way down from the argument.

Names above the argument do not matter to what it asks for, but they do matter
to what is found: below a directory that is itself in a directory for installed
packages, or is one, no source file is found.  So what arguments ask for is found
if and only if every such argument asks for nothing.
-/

namespace DirectiveLint
namespace FileTree

/-! ## The files of a tree -/

theorem filesOfEntries_eq_flatMap (entries : List (String × FileTree)) :
    filesOfEntries entries = entries.flatMap filesOfEntry := by
  induction entries with
  | nil => rfl
  | cons entry rest inductionHypothesis =>
      rw [filesOfEntries, inductionHypothesis, List.flatMap_cons]

theorem map_fst_filesOfEntry (entry : String × FileTree) :
    (filesOfEntry entry).map Prod.fst = (entry.2.files.map Prod.fst).map (entry.1 :: ·) := by
  rw [filesOfEntry, List.map_map, List.map_map]
  rfl

/-- A file that is found at a path is listed with it. -/
theorem mem_files_of_find? {path : FilePath} {tree : FileTree} {bytes : List UInt8}
    (found : tree.find? path = some (.file bytes)) : (path, bytes) ∈ tree.files := by
  induction path generalizing tree with
  | nil =>
      cases found
      exact List.mem_singleton_self _
  | cons name rest inductionHypothesis =>
      cases tree with
      | file content => cases found
      | directory entries =>
          rw [find?] at found
          cases entry : entries.lookup name with
          | none =>
              rw [entry] at found
              cases found
          | some child =>
              rw [entry] at found
              rw [files, filesOfEntries_eq_flatMap, List.mem_flatMap]
              refine ⟨(name, child), Table.mem_of_lookup entry, ?_⟩
              exact List.mem_map.mpr ⟨_, inductionHypothesis found, rfl⟩

theorem Proper.mem_files_iff {tree : FileTree} (proper : tree.Proper) {path : FilePath}
    {bytes : List UInt8} :
    (path, bytes) ∈ tree.files ↔ tree.find? path = some (.file bytes) :=
  ⟨proper.find?_of_mem_files, mem_files_of_find?⟩

/-- The files of a proper tree have different paths. -/
theorem Proper.nodup_files {tree : FileTree} (proper : tree.Proper) :
    (tree.files.map Prod.fst).Nodup := by
  induction proper with
  | file content => exact List.nodup_singleton _
  | directory distinct named below inductionHypothesis =>
      rename_i entries
      rw [files, filesOfEntries_eq_flatMap, List.map_flatMap, List.nodup_flatMap]
      constructor
      · intro entry member
        rw [map_fst_filesOfEntry]
        exact (inductionHypothesis entry member).map (List.cons_injective)
      · -- Paths through different entries differ in their first names.
        refine (List.pairwise_map.mp distinct).imp ?_
        intro first second different
        change List.Disjoint ((filesOfEntry first).map Prod.fst)
            ((filesOfEntry second).map Prod.fst)
        rw [map_fst_filesOfEntry, map_fst_filesOfEntry]
        intro path inFirst inSecond
        rcases List.mem_map.mp inFirst with ⟨rest, _, rfl⟩
        rcases List.mem_map.mp inSecond with ⟨other, _, same⟩
        exact different (List.cons.inj same).1.symm

/-! ## Their order -/

theorem comesBefore_iff {first second : FilePath × List UInt8} :
    comesBefore first second = true ↔ ¬ second.1 < first.1 := by
  rw [comesBefore, Bool.not_eq_true', List.lex_eq_false_iff_not_lex]
  simp only [decide_eq_true_eq]
  rfl

/-- Files with different paths are sorted by them. -/
theorem pairwise_mergeSort_comesBefore {found : List (FilePath × List UInt8)}
    (distinct : (found.map Prod.fst).Nodup) :
    ((found.mergeSort comesBefore).map Prod.fst).Pairwise (· < ·) := by
  have sorted : (found.mergeSort comesBefore).Pairwise
      fun first second => comesBefore first second = true := by
    apply List.pairwise_mergeSort
    · intro first second third
      simp only [comesBefore_iff, not_lt]
      exact le_trans
    · intro first second
      rw [Bool.or_eq_true, comesBefore_iff, comesBefore_iff, not_lt, not_lt]
      exact le_total _ _
  have apart : ((found.mergeSort comesBefore).map Prod.fst).Nodup :=
    ((List.mergeSort_perm found comesBefore).map Prod.fst).nodup_iff.mpr distinct
  rw [List.pairwise_map]
  refine (sorted.and (List.pairwise_map.mp apart)).imp ?_
  rintro first second ⟨ordered, different⟩
  exact lt_of_le_of_ne (not_lt.mp (comesBefore_iff.mp ordered)) different

/-! ## What arguments ask for -/

/-- Whether a list holds the source files below a directory with their bytes, each once and in the
order of their paths, but none with a directory for installed packages on its way from there. -/
structure ListsSources (root : FileTree) (directory : FilePath)
    (listed : List (FilePath × List UInt8)) : Prop where
  inOrder : (listed.map Prod.fst).Pairwise (· < ·)
  mem_iff : ∀ path bytes, (path, bytes) ∈ listed ↔
    ∃ below, path = directory ++ below ∧ root.find? path = some (.file bytes) ∧
      path.suffix ∈ sourceSuffixes ∧ packagesName ∉ below

/-- What an argument that leads to a path asks for. -/
inductive AsksFor (root : FileTree) : FilePath → List (FilePath × List UInt8) → Prop
  | file {path : FilePath} {bytes : List UInt8} (found : root.find? path = some (.file bytes)) :
      AsksFor root path [(path, bytes)]
  | directory {path : FilePath} {entries : List (String × FileTree)}
      {listed : List (FilePath × List UInt8)} (found : root.find? path = some (.directory entries))
      (lists : ListsSources root path listed) : AsksFor root path listed

/-- There is only one list of the source files below a directory. -/
theorem ListsSources.eq {root : FileTree} {directory : FilePath}
    {listed other : List (FilePath × List UInt8)} (lists : ListsSources root directory listed)
    (otherLists : ListsSources root directory other) : listed = other := by
  let before (first second : FilePath × List UInt8) : Prop := first.1 < second.1
  have : Std.Irrefl before := ⟨fun found => lt_irrefl found.1⟩
  have : Std.Antisymm before := ⟨fun _ _ ahead behind => absurd behind (lt_asymm ahead)⟩
  have inOrder : listed.Pairwise before := List.pairwise_map.mp lists.inOrder
  refine inOrder.eq_of_mem_iff (List.pairwise_map.mp otherLists.inOrder) ?_
  rintro ⟨path, bytes⟩
  rw [lists.mem_iff, otherLists.mem_iff]

theorem AsksFor.eq {root : FileTree} {path : FilePath} {asked other : List (FilePath × List UInt8)}
    (asks : AsksFor root path asked) (otherAsks : AsksFor root path other) : asked = other := by
  cases asks with
  | file found =>
      cases otherAsks with
      | file otherFound =>
          cases found.symm.trans otherFound
          rfl
      | directory otherFound _ => cases found.symm.trans otherFound
  | directory found lists =>
      cases otherAsks with
      | file otherFound => cases found.symm.trans otherFound
      | directory _ otherLists => exact lists.eq otherLists

/-! ## What is found below a directory -/

/-- The source files below a directory that is found at a path, wherever this is. -/
def askedBelow (path : FilePath) (tree : FileTree) : List (FilePath × List UInt8) :=
  ((tree.files.filter fun found => isSource found.1).map
    fun found => (path ++ found.1, found.2)).mergeSort comesBefore

theorem ne_nil_of_mem_files {entries : List (String × FileTree)}
    {found : FilePath × List UInt8} (member : found ∈ (directory entries).files) :
    found.1 ≠ [] := by
  rw [files] at member
  rcases mem_filesOfEntries member with ⟨entry, _, inEntry⟩
  rw [filesOfEntry, List.mem_map] at inEntry
  rcases inEntry with ⟨deeper, _, rfl⟩
  exact List.cons_ne_nil _ _

theorem suffix_append (path : FilePath) {below : FilePath} (deeper : below ≠ []) :
    FilePath.suffix (path ++ below) = below.suffix := by
  rw [FilePath.suffix, FilePath.suffix, List.getLast?_append_of_ne_nil path deeper]

/-- A file is taken as a source file if its path from the directory says so and the directory is in
no directory for installed packages. -/
theorem isSource_append (path : FilePath) {below : FilePath} (deeper : below ≠ []) :
    isSource (path ++ below) = (!path.contains packagesName && isSource below) := by
  rw [isSource, isSource, suffix_append path deeper, List.contains_append, Bool.not_or,
    Bool.and_left_comm]

theorem sourcesBelow_directory (path : FilePath) (entries : List (String × FileTree)) :
    sourcesBelow path (.directory entries) =
      if path.contains packagesName then [] else askedBelow path (.directory entries) := by
  have taken : ∀ found ∈ (directory entries).files,
      isSource (path ++ found.1) = (!path.contains packagesName && isSource found.1) :=
    fun found member => isSource_append path (ne_nil_of_mem_files member)
  rw [sourcesBelow, askedBelow, List.filter_map]
  split
  · next inPackages =>
      have none : (directory entries).files.filter
          ((fun found => isSource found.1) ∘ fun found => (path ++ found.1, found.2)) = [] := by
        rw [List.filter_eq_nil_iff]
        intro found member
        rw [Function.comp_apply, taken found member, inPackages]
        simp
      rw [none, List.map_nil, List.mergeSort_nil]
  · next outside =>
      congr 2
      apply List.filter_congr
      intro found member
      simp only [Function.comp_apply, taken found member, Bool.eq_false_of_not_eq_true outside,
        Bool.not_false, Bool.true_and]

/-- The source files below a directory of a proper tree are listed. -/
theorem Proper.listsSources_askedBelow {root : FileTree} (proper : root.Proper) {path : FilePath}
    {entries : List (String × FileTree)} (found : root.find? path = some (.directory entries)) :
    ListsSources root path (askedBelow path (.directory entries)) := by
  have within := (proper.at_path found).1
  constructor
  · apply pairwise_mergeSort_comesBefore
    have distinct : (((FileTree.directory entries).files.filter fun found => isSource found.1).map
        Prod.fst).Nodup :=
      within.nodup_files.sublist (List.filter_sublist.map Prod.fst)
    rw [List.map_map]
    change (List.map ((path ++ ·) ∘ Prod.fst) _).Nodup
    rw [← List.map_map]
    exact distinct.map (List.append_right_injective path)
  · intro whole bytes
    rw [askedBelow, List.mem_mergeSort, List.mem_map]
    constructor
    · rintro ⟨⟨below, content⟩, member, same⟩
      cases same
      rw [List.mem_filter] at member
      have deeper := ne_nil_of_mem_files member.1
      refine ⟨below, rfl, ?_, ?_⟩
      · rw [find?_append, found]
        exact within.mem_files_iff.mp member.1
      · simpa [isSource, suffix_append path deeper] using member.2
    · rintro ⟨below, rfl, isFile, source, outside⟩
      rw [find?_append, found] at isFile
      have member : (below, bytes) ∈ (FileTree.directory entries).files :=
        within.mem_files_iff.mpr isFile
      refine ⟨(below, bytes), List.mem_filter.mpr ⟨member, ?_⟩, rfl⟩
      rw [suffix_append path (ne_nil_of_mem_files member)] at source
      simp [isSource, source, outside]

/-- Whether a path leads to a directory that is in a directory for installed packages, or is one. -/
def liesInPackages (root : FileTree) (path : FilePath) : Bool :=
  path.contains packagesName && (root.find? path).any isDirectory

/-- An argument that leads to something gets what it asks for, unless it is a directory in a
directory for installed packages. -/
theorem Proper.exists_sourcesAt {root found : FileTree} (proper : root.Proper) {path : FilePath}
    (sought : root.seek path = .ok (some found)) :
    ∃ asked, AsksFor root path asked ∧
      root.sourcesAt path = .ok (if liesInPackages root path then [] else asked) := by
  have isFound := find?_of_seek sought
  cases found with
  | file content =>
      refine ⟨_, .file isFound, ?_⟩
      rw [sourcesAt, sought, liesInPackages, isFound]
      simp [isDirectory]
  | directory entries =>
      refine ⟨_, .directory isFound (proper.listsSources_askedBelow isFound), ?_⟩
      rw [sourcesAt, sought, liesInPackages, isFound]
      simp [isDirectory, sourcesBelow_directory]

/-! ## Lists of arguments -/

/-- An argument by its path, with the files that it asks for. -/
structure Argument where
  path : FilePath
  asked : List (FilePath × List UInt8)

namespace Argument

/-- Whether a text stands for an argument. -/
def IsWritten (root : FileTree) (standpoint : Standpoint) (text : String) (argument : Argument) :
    Prop :=
  standpoint.locate text = .ok argument.path ∧ AsksFor root argument.path argument.asked

/-- The files that an argument gets. -/
def found (root : FileTree) (argument : Argument) : List (FilePath × List UInt8) :=
  if liesInPackages root argument.path then [] else argument.asked

theorem IsWritten.eq {root : FileTree} {standpoint : Standpoint} {text : String}
    {argument other : Argument} (written : argument.IsWritten root standpoint text)
    (otherWritten : other.IsWritten root standpoint text) : argument = other := by
  rcases argument with ⟨path, asked⟩
  rcases other with ⟨otherPath, otherAsked⟩
  have same : path = otherPath := Except.ok.inj (written.1.symm.trans otherWritten.1)
  subst same
  have sameAsked : asked = otherAsked := written.2.eq otherWritten.2
  subst sameAsked
  rfl

theorem length_flatMap_found_le (root : FileTree) (arguments : List Argument) :
    (arguments.flatMap (found root)).length ≤ (arguments.flatMap asked).length := by
  induction arguments with
  | nil => exact Nat.le_refl 0
  | cons argument rest inductionHypothesis =>
      rw [List.flatMap_cons, List.flatMap_cons, List.length_append, List.length_append]
      have here : (argument.found root).length ≤ argument.asked.length := by
        unfold found
        split <;> simp
      omega

/-- Arguments get all that they ask for if those that are left out ask for nothing. -/
theorem flatMap_found_eq_iff (root : FileTree) (arguments : List Argument) :
    arguments.flatMap (found root) = arguments.flatMap asked ↔
      ∀ argument ∈ arguments, liesInPackages root argument.path = true →
        argument.asked = [] := by
  induction arguments with
  | nil => simp
  | cons argument rest inductionHypothesis =>
      rw [List.flatMap_cons, List.flatMap_cons, List.forall_mem_cons, ← inductionHypothesis]
      by_cases out : liesInPackages root argument.path = true
      · rw [found, if_pos out, List.nil_append]
        constructor
        · intro same
          have shorter := length_flatMap_found_le root rest
          rw [same, List.length_append] at shorter
          have nothing : argument.asked = [] := List.length_eq_zero_iff.mp (by omega)
          rw [nothing, List.nil_append] at same
          exact ⟨fun _ => nothing, same⟩
        · rintro ⟨nothing, same⟩
          rw [nothing out, List.nil_append, same]
      · rw [found, if_neg out, List.append_cancel_left_eq]
        exact ⟨fun same => ⟨fun inside => absurd inside out, same⟩, And.right⟩

end Argument

/-- Whether a text leads to something in a tree. -/
def LeadsSomewhere (root : FileTree) (standpoint : Standpoint) (text : String) : Prop :=
  ∃ path found, standpoint.locate text = .ok path ∧ root.seek path = .ok (some found)

theorem Proper.exists_argument {root : FileTree} (proper : root.Proper) {standpoint : Standpoint}
    {text : String} (leads : LeadsSomewhere root standpoint text) :
    ∃ argument : Argument, argument.IsWritten root standpoint text ∧
      root.sourcesAt argument.path = .ok (argument.found root) := by
  rcases leads with ⟨path, found, located, sought⟩
  rcases proper.exists_sourcesAt sought with ⟨asked, asks, sources⟩
  exact ⟨⟨path, asked⟩, ⟨located, asks⟩, sources⟩

/-- Texts that lead to something stand for arguments, each for one, and the files that are found are
those of the arguments, one after the other. -/
theorem Proper.exists_arguments {root : FileTree} (proper : root.Proper) {standpoint : Standpoint}
    {texts : List String} (leads : ∀ text ∈ texts, LeadsSomewhere root standpoint text) :
    ∃ arguments : List Argument,
      (∀ others, List.Forall₂ (Argument.IsWritten root standpoint) texts others ↔
        others = arguments) ∧
      root.sources standpoint texts = .ok (arguments.flatMap (Argument.found root)) := by
  induction texts with
  | nil => exact ⟨[], fun others => List.forall₂_nil_left_iff, rfl⟩
  | cons text rest inductionHypothesis =>
      rw [List.forall_mem_cons] at leads
      rcases proper.exists_argument leads.1 with ⟨argument, written, sources⟩
      rcases inductionHypothesis leads.2 with ⟨arguments, named, further⟩
      refine ⟨argument :: arguments, fun others => ?_, ?_⟩
      · rw [List.forall₂_cons_left_iff]
        constructor
        · rintro ⟨other, later, otherWritten, laterWritten, rfl⟩
          rw [otherWritten.eq written, (named later).mp laterWritten]
        · rintro rfl
          exact ⟨argument, arguments, written, (named arguments).mpr rfl, rfl⟩
      · rw [FileTree.sources, written.1]
        simp only [sources, further, List.flatMap_cons]

/-- Texts that lead to something stand for arguments, each for one.  What is found is what the
arguments ask for, one after the other, without what directories in a directory for installed
packages ask for; so it is all that is asked for if and only if these ask for nothing. -/
theorem sources_eq_flatMap {root : FileTree} (proper : root.Proper) {standpoint : Standpoint}
    {texts : List String} (leads : ∀ text ∈ texts, LeadsSomewhere root standpoint text) :
    ∃ arguments : List Argument,
      (∀ others, List.Forall₂ (Argument.IsWritten root standpoint) texts others ↔
        others = arguments) ∧
      root.sources standpoint texts = .ok (arguments.flatMap (Argument.found root)) ∧
      (root.sources standpoint texts = .ok (arguments.flatMap Argument.asked) ↔
        ∀ argument ∈ arguments, liesInPackages root argument.path = true →
          argument.asked = []) := by
  rcases proper.exists_arguments leads with ⟨arguments, named, sources⟩
  refine ⟨arguments, named, sources, ?_⟩
  rw [sources, Except.ok.injEq]
  exact Argument.flatMap_found_eq_iff root arguments

/-- A package, with one source file. -/
def package : FileTree :=
  .directory [("index.ts", .file [4])]

/-- Two source files, with the package installed beside them. -/
def sourcesWithPackage : FileTree :=
  .directory [
    ("b.ts", .file [2]),
    ("node_modules", .directory [("dep", package)]),
    ("a.ts", .file [1])]

/-- A file without source text beside a directory of sources. -/
def notesAndSources : FileTree :=
  .directory [("notes.md", .file [3]), ("src", sourcesWithPackage)]

theorem proper_notesAndSources : notesAndSources.Proper := by
  have isName : ∀ name ∈ ["notes.md", "src", "b.ts", "node_modules", "dep", "index.ts", "a.ts"],
      FilePath.IsName name := by
    intro name member
    refine ⟨?_, ?_, ?_, ?_⟩
    all_goals
      revert name
      decide
  have properPackage : package.Proper :=
    .directory (by decide) (by simp [isName]) (by simpa using .file _)
  have properInstalled : (FileTree.directory [("dep", package)]).Proper :=
    .directory (by decide) (by simp [isName]) (by simpa using properPackage)
  have properSources : sourcesWithPackage.Proper :=
    .directory (by decide) (by simp [isName]) (by simp [Proper.file, properInstalled])
  exact .directory (by decide) (by simp [isName]) (by simp [Proper.file, properSources])

/-- The file of an installed package is asked for by its directory, but it is not found there. -/
theorem sources_eq_flatMap_package :
    notesAndSources.Proper ∧
    (∀ text ∈ ["notes.md", "src", "src/node_modules/dep"],
      LeadsSomewhere notesAndSources ⟨[], []⟩ text) ∧
    AsksFor notesAndSources ["src", "node_modules", "dep"]
      [(["src", "node_modules", "dep", "index.ts"], [4])] ∧
    notesAndSources.sources ⟨[], []⟩ ["notes.md", "src", "src/node_modules/dep"] =
      .ok [(["notes.md"], [3]), (["src", "a.ts"], [1]), (["src", "b.ts"], [2])] ∧
    notesAndSources.sources ⟨[], []⟩ ["notes.md", "src", "src/node_modules/dep"] ≠
      .ok [(["notes.md"], [3]), (["src", "a.ts"], [1]), (["src", "b.ts"], [2]),
        (["src", "node_modules", "dep", "index.ts"], [4])] := by
  have toNotes : (⟨[], []⟩ : Standpoint).locate "notes.md" = .ok ["notes.md"] :=
    Except.eq_ok_of_toOption_eq_some (by decide +kernel)
  have toSources : (⟨[], []⟩ : Standpoint).locate "src" = .ok ["src"] :=
    Except.eq_ok_of_toOption_eq_some (by decide +kernel)
  have toPackage : (⟨[], []⟩ : Standpoint).locate "src/node_modules/dep" =
      .ok ["src", "node_modules", "dep"] :=
    Except.eq_ok_of_toOption_eq_some (by decide +kernel)
  have leads : ∀ text ∈ ["notes.md", "src", "src/node_modules/dep"],
      LeadsSomewhere notesAndSources ⟨[], []⟩ text := by
    simp only [List.forall_mem_cons, List.not_mem_nil, false_implies, implies_true, and_true]
    exact ⟨⟨["notes.md"], .file [3], toNotes, rfl⟩,
      ⟨["src"], sourcesWithPackage, toSources, rfl⟩,
      ⟨["src", "node_modules", "dep"], package, toPackage, rfl⟩⟩
  have ofSources : AsksFor notesAndSources ["src"]
      (askedBelow ["src"] sourcesWithPackage) :=
    .directory rfl (proper_notesAndSources.listsSources_askedBelow rfl)
  have ofPackage : AsksFor notesAndSources ["src", "node_modules", "dep"]
      (askedBelow ["src", "node_modules", "dep"] package) :=
    .directory rfl (proper_notesAndSources.listsSources_askedBelow rfl)
  have inSources : askedBelow ["src"] sourcesWithPackage =
      [(["src", "a.ts"], [1]), (["src", "b.ts"], [2])] := by
    change List.mergeSort [(["src", "b.ts"], [2]), (["src", "a.ts"], [1])] comesBefore = _
    have exchanged : comesBefore (["src", "b.ts"], [2]) (["src", "a.ts"], [1]) = false := by
      decide +kernel
    simp [List.mergeSort, List.MergeSort.Internal.splitInTwo, exchanged]
  have inPackage : askedBelow ["src", "node_modules", "dep"] package =
      [(["src", "node_modules", "dep", "index.ts"], [4])] := by
    decide +kernel
  rw [inSources] at ofSources
  rw [inPackage] at ofPackage
  rcases sources_eq_flatMap proper_notesAndSources leads with
    ⟨arguments, named, sources, complete⟩
  have written : [⟨["notes.md"], [(["notes.md"], [3])]⟩, ⟨["src"], _⟩,
      ⟨["src", "node_modules", "dep"], _⟩] = arguments :=
    (named _).mp (.cons ⟨toNotes, .file rfl⟩
      (.cons ⟨toSources, ofSources⟩ (.cons ⟨toPackage, ofPackage⟩ .nil)))
  subst written
  refine ⟨proper_notesAndSources, leads, ofPackage, sources, fun all => ?_⟩
  have nothing := complete.mp all ⟨["src", "node_modules", "dep"],
    [(["src", "node_modules", "dep", "index.ts"], [4])]⟩ (by simp) rfl
  cases nothing

end FileTree
end DirectiveLint
