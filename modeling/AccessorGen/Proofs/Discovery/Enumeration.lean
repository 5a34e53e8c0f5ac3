import AccessorGen.Proofs.Discovery.InPlace
import AccessorGen.Proofs.Discovery.Silent
import AccessorGen.Proofs.File.Listing

/-! Discovery and the order of directory listings. The source files below a directory are read in
the order of their paths, each once, whatever order the entries of the directories are listed in and
whatever other files there are. What is discovered is what these files declare, one after another,
or the fault of the first that cannot be parsed. -/

namespace AccessorGen

open Source

/-- All files below a directory whose names end in `.rs` behind a stem, each once, in the order of
their paths. -/
structure ReadingOrder (t : FileTree) (root : Path) (files : List (Path × Content)) : Prop where
  mem_iff : ∀ x, x ∈ files ↔ ∃ names, x.1 = names.foldl Path.push root ∧ IsSourcePlace names ∧
    t.look (root.place t.here ++ names) = some (.file x.2)
  ordered : files.Pairwise fun x y => x.1.Precedes y.1

theorem isSourcePlace_iff_ending (root : Path) {names : List String}
    (h : ∀ s ∈ names, isEntryName s = true) (hne : names ≠ []) :
    IsSourcePlace names ↔ (names.foldl Path.push root).ending = some ['r', 's'] := by
  refine ⟨fun hsource => ending_of_isSourcePlace (q := []) root h hne hsource, fun hend => ?_⟩
  obtain ⟨front, last, rfl⟩ : ∃ front last, names = front ++ [last] :=
    ⟨_, _, (List.dropLast_append_getLast hne).symm⟩
  have hname : (((front ++ [last]).foldl Path.push root)).fileName = some last.toList := by
    rw [Path.fileName, Path.components_pushAll h]
    simp
  rw [Path.ending, hname, Option.bind_some] at hend
  cases hcut : Path.cutName last.toList with
  | mk stem ending =>
    obtain rfl : ending = some ['r', 's'] := by rw [← hend, hcut]
    obtain ⟨hstem, hlast⟩ := eq_of_cutName hcut
    have htext : last = .ofList stem ++ ".rs" := by
      apply String.toList_injective
      rw [String.toList_append, String.toList_ofList]
      exact hlast
    refine ⟨.ofList stem, fun he => hstem ?_, by rw [← htext]; simp⟩
    rw [← String.toList_ofList (l := stem), he]
    rfl

section Order

variable {t : FileTree} (ht : t.Sound) {root : Path} (hdir : t.isDir root = true)

include ht hdir

theorem readingOrder_sourceFiles : ReadingOrder t root (t.sourceFiles root) := by
  refine ⟨fun x => ?_, FileTree.strict_sourceFiles ht hdir⟩
  rw [FileTree.mem_sourceFiles_iff ht hdir]
  refine exists_congr fun names => and_congr_right fun hpath => ?_
  rw [and_comm (a := IsSourcePlace names)]
  refine and_congr_right fun hlook => ?_
  have hnames : ∀ s ∈ names, isEntryName s = true := fun s hs =>
    Node.entryNames_of_look ht.root hlook s (List.mem_append_right _ hs)
  have hne : names ≠ [] := by
    rintro rfl
    rw [List.append_nil, FileTree.look_of_isDir hdir] at hlook
    cases hlook
  rw [hpath, isSourcePlace_iff_ending root hnames hne]

theorem ReadingOrder.eq_sourceFiles {files : List (Path × Content)}
    (h : ReadingOrder t root files) : files = t.sourceFiles root := by
  have hsource := readingOrder_sourceFiles ht hdir
  exact h.ordered.eq_of_mem_iff hsource.ordered fun x => by rw [h.mem_iff, hsource.mem_iff]

end Order

theorem FileTree.isDir_listed {t : FileTree} (ht : t.Sound) (l : Listing) {root : Path}
    (hdir : t.isDir root = true) : (t.listed l).isDir root = true := by
  have hkeeps : KeepsDirs t (t.listed l) := ⟨rfl, fun q hq => (look_listed ht l q).trans hq⟩
  exact isDir_keeps hkeeps hdir

theorem ReadingOrder.listed {t : FileTree} (ht : t.Sound) {root : Path}
    {files : List (Path × Content)} (h : ReadingOrder t root files) (l : Listing) :
    ReadingOrder (t.listed l) root files := by
  refine ⟨fun x => ?_, h.ordered⟩
  simp only [h.mem_iff, FileTree.look_listed ht l]
  rfl

def FileDeclares (root : Path) (marker : String) (file : Path × Content)
    (ds : List Declaration) : Prop :=
  ∃ s items, file.2 = .text s ∧ SourceText.items ⟨s, file.1.text⟩ = .ok items ∧
    ds = scan marker (moduleNamespace root file.1) items ∧
    FoundInPlace marker (moduleNamespace root file.1) items (isAnnotated marker · = true)

/-- What is discovered in files that are read one after another: the declarations of each, or the
syntax fault of the first that cannot be parsed. -/
inductive Discovered (root : Path) (marker : String) :
    List (Path × Content) → Except InputFault (List Declaration) → Prop
  | all {files : List (Path × Content)} {found : List (List Declaration)}
    (declared : List.Forall₂ (FileDeclares root marker) files found) :
    Discovered root marker files (.ok found.flatten)
  | fault {l r : List (Path × Content)} {path : Path} {s cause : String} {span : ByteSpan}
    (parsed : ∀ file ∈ l, ∃ ds, FileDeclares root marker file ds)
    (first : SourceText.items ⟨s, path.text⟩ = .error (.badSource ⟨s, path.text⟩ span cause)) :
    Discovered root marker (l ++ (path, .text s) :: r)
      (.error (.badSource ⟨s, path.text⟩ span cause))

theorem items_error {src : SourceText} {fault : InputFault} (h : src.items = .error fault) :
    ∃ span cause, fault = .badSource src span cause := by
  unfold SourceText.items at h
  split at h
  · cases h
  · exact ⟨_, _, (Except.error.inj h).symm⟩

theorem discovered_cons {root path : Path} {marker s : String} {files : List (Path × Content)}
    {rest : Except InputFault (List Declaration)} (h : Discovered root marker files rest) :
    Discovered root marker ((path, .text s) :: files)
      (fileDeclarations root marker path (.text s) >>= fun found =>
        rest >>= fun more => pure (found ++ more)) := by
  rw [fileDeclarations, SourceText.declarations]
  cases hitems : SourceText.items ⟨s, path.text⟩ with
  | error fault =>
    obtain ⟨span, cause, rfl⟩ := items_error hitems
    exact .fault (l := []) (by simp) hitems
  | ok items =>
    have hfirst : FileDeclares root marker (path, .text s)
        (scan marker (moduleNamespace root path) items) :=
      ⟨s, items, rfl, hitems, rfl, _, foundAt_annotated marker _ items⟩
    cases h with
    | all declared => exact .all (.cons hfirst declared)
    | fault parsed first =>
      exact .fault (l := _ :: _) (List.forall_mem_cons.2 ⟨⟨_, hfirst⟩, parsed⟩) first

theorem discovered_filesDeclarations (root : Path) (marker : String)
    {files : List (Path × Content)} (htext : ∀ file ∈ files, ∃ s, file.2 = .text s) :
    Discovered root marker files (filesDeclarations root marker files) := by
  induction files with
  | nil => exact .all .nil
  | cons file files ih =>
    obtain ⟨path, c⟩ := file
    obtain ⟨⟨s, rfl⟩, hrest⟩ := List.forall_mem_cons.1 htext
    exact discovered_cons (ih hrest)

/-- The root is a directory, and every source file below it holds text. -/
structure FileTree.Readable (t : FileTree) (root : Path) : Prop where
  isDir : t.isDir root = true
  texts : ∀ names c, IsSourcePlace names → t.look (root.place t.here ++ names) = some (.file c) →
    ∃ s, c = .text s

/-- What is discovered below a directory does not depend on the order of listings, nor on any file
but the source files. -/
structure ListingFree (t : FileTree) (root : Path) (marker : String)
    (files : List (Path × Content)) : Prop where
  order : ReadingOrder t root files
  same : ∀ a b : Listing, discover (t.listed a) root marker = discover (t.listed b) root marker
  discovered : ∀ l : Listing, Discovered root marker files (discover (t.listed l) root marker)
  others : ∀ u : FileTree, u.Sound → u.isDir root = true → ReadingOrder u root files →
    ∀ l : Listing, discover (u.listed l) root marker = discover t root marker

theorem discover_listed {t : FileTree} (ht : t.Sound) {root : Path} (hdir : t.isDir root = true)
    {files : List (Path × Content)} (h : ReadingOrder t root files) (marker : String)
    (l : Listing) : discover (t.listed l) root marker = filesDeclarations root marker files := by
  have hlisted := FileTree.isDir_listed ht l hdir
  rw [discover_eq hlisted, ← (h.listed ht l).eq_sourceFiles (ht.listed l) hlisted]

/-- In a readable tree the same is discovered whatever order the directories are listed in. -/
theorem listingFree_of_readable {t : FileTree} (ht : t.Sound) {root : Path} (h : t.Readable root)
    (marker : String) : ∃ files, ListingFree t root marker files := by
  have horder := readingOrder_sourceFiles ht h.isDir
  have htext : ∀ file ∈ t.sourceFiles root, ∃ s, file.2 = .text s := by
    intro file hfile
    obtain ⟨names, -, hsource, hlook⟩ := (horder.mem_iff file).1 hfile
    exact h.texts names file.2 hsource hlook
  refine ⟨t.sourceFiles root, horder, fun a b => ?_, fun l => ?_, fun u hu hudir huorder l => ?_⟩
  · rw [discover_listed ht h.isDir horder, discover_listed ht h.isDir horder]
  · rw [discover_listed ht h.isDir horder]
    exact discovered_filesDeclarations root marker htext
  · rw [discover_listed hu hudir huorder, discover_eq h.isDir]

section Runs

def crowdedEntries : List (String × Node) :=
  [("b.rs", .dir [("lib.rs", .file (.text "#[custom_lombok] struct C;"))]),
    ("a-b.rs", .file (.text "#[custom_lombok] struct B;")),
    ("a", .dir [("mod.rs", .file (.text "#[custom_lombok] struct A;")),
      ("notes", .file (.binary [0xff]))])]

def crowdedTree : FileTree := ⟨.dir [("src", .dir crowdedEntries)], []⟩

theorem listingFree_crowdedTree :
    ∃ files, ListingFree crowdedTree ⟨"src"⟩ "custom_lombok" files := by
  have hsound : crowdedTree.Sound := by decide
  have hdir : crowdedTree.isDir ⟨"src"⟩ = true := by decide
  have hfind : crowdedTree.find ⟨"src"⟩ = .ok (.dir crowdedEntries) := by rfl
  have hsources : Node.sourcesAll ⟨"src"⟩ crowdedEntries =
      [(⟨"src/b.rs/lib.rs"⟩, .text "#[custom_lombok] struct C;"),
        (⟨"src/a-b.rs"⟩, .text "#[custom_lombok] struct B;"),
        (⟨"src/a/mod.rs"⟩, .text "#[custom_lombok] struct A;")] := by decide
  refine listingFree_of_readable hsound ⟨hdir, fun names c hsource hlook => ?_⟩ "custom_lombok"
  have hmem : (names.foldl Path.push ⟨"src"⟩, c) ∈ crowdedTree.sourceFiles ⟨"src"⟩ :=
    ((readingOrder_sourceFiles hsound hdir).mem_iff _).2 ⟨names, rfl, hsource, hlook⟩
  rw [FileTree.sourceFiles, hfind] at hmem
  have hmem := (List.mergeSort_perm _ _).mem_iff.1 hmem
  rw [hsources] at hmem
  simp only [List.mem_cons, Prod.mk.injEq, List.not_mem_nil, or_false] at hmem
  obtain ⟨-, rfl⟩ | ⟨-, rfl⟩ | ⟨-, rfl⟩ := hmem <;> exact ⟨_, rfl⟩

end Runs

end AccessorGen
