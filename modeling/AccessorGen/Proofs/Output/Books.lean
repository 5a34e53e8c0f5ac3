import AccessorGen.Proofs.Output.Agreement
import AccessorGen.Proofs.Render.ModuleOrder

/-! The books of an output directory. Companions are written one call after another, whatever the
file tree holds at first. A call that fails leaves the books and every file as they are; one that
succeeds enters its path in one of the two lists, in that of the unchanged files when the text was
there already. The module files afterwards declare the companions whose calls have succeeded and
the directories on the way to these. -/

namespace AccessorGen

open OutputFile

namespace OutputFile

variable {f : OutputFile} {t u : FileTree}

theorem isCurrent_iff : f.isCurrent t = true ↔ t.readText f.path = some f.content := by
  simp [isCurrent]

theorem write_error {fault : WriteFault} (h : f.write t = (.error fault, u)) :
    t.readText f.path ≠ some f.content ∧ ∀ place, u.fileAt place = t.fileAt place := by
  unfold write at h
  split at h
  · cases h
  next hcurrent =>
    have hfiles : ∀ place, (f.makeParent t).2.fileAt place = t.fileAt place := fun _ =>
      FileTree.fileAt_eq (f.makeParent_keeps t) (f.makeParent_makes t) not_false
    refine ⟨mt isCurrent_iff.2 hcurrent, ?_⟩
    split at h
    next hparent =>
      obtain ⟨-, rfl⟩ := Prod.mk.inj h
      rwa [hparent] at hfiles
    next hparent =>
      split at h
      · obtain ⟨-, rfl⟩ := Prod.mk.inj h
        rwa [hparent] at hfiles
      · cases h

theorem write_outcome {o : WriteOutcome} (h : f.write t = (.ok o, u)) :
    o = .unchanged ∧ t.readText f.path = some f.content ∧ u = t ∨
      o = .written ∧ t.readText f.path ≠ some f.content := by
  unfold write at h
  split at h
  next hcurrent =>
    obtain ⟨ho, rfl⟩ := Prod.mk.inj h
    exact .inl ⟨(Except.ok.inj ho).symm, isCurrent_iff.1 hcurrent, rfl⟩
  next hcurrent =>
    refine .inr ⟨?_, mt isCurrent_iff.2 hcurrent⟩
    split at h
    · cases h
    · split at h
      · cases h
      · exact (Except.ok.inj (Prod.mk.inj h).1).symm

end OutputFile

namespace Directory

def target (d : Directory) (a : Namespace × Companion) : OutputFile :=
  (Render.companionFile a.1 a.2 d.options).below d.root

/-- What a call that writes a companion may answer, with the books and the tree after it. -/
inductive Answered (a : Namespace × Companion) (d : Directory) (t : FileTree) :
    Except String Unit → Directory → FileTree → Prop
  | failed {cause : String} {u : FileTree}
      (apart : t.readText (d.target a).path ≠ some (d.target a).content)
      (files : ∀ place, u.fileAt place = t.fileAt place) : Answered a d t (.error cause) d u
  | held (held : t.readText (d.target a).path = some (d.target a).content) :
      Answered a d t (.ok ())
        { d with
          unchanged := d.unchanged ++ [(d.target a).path]
          modules := d.modules.insert a.1 a.2.name } t
  | written {u : FileTree} (apart : t.readText (d.target a).path ≠ some (d.target a).content)
      (reads : u.readText (d.target a).path = some (d.target a).content)
      (others : ∀ place, (d.target a).path.place t.here ≠ place →
        u.fileAt place = t.fileAt place) :
      Answered a d t (.ok ())
        { d with
          written := d.written ++ [(d.target a).path]
          modules := d.modules.insert a.1 a.2.name } u

/-- Calls one after another, each with its answer. -/
inductive Calls : List ((Namespace × Companion) × Except String Unit) → Directory → FileTree →
    Directory → FileTree → Prop
  | nil (d : Directory) (t : FileTree) : Calls [] d t d t
  | cons {a : Namespace × Companion} {answer : Except String Unit}
      {log : List ((Namespace × Companion) × Except String Unit)} {d d' e : Directory}
      {t t' u : FileTree} (first : Answered a d t answer d' t') (rest : Calls log d' t' e u) :
      Calls ((a, answer) :: log) d t e u

/-- Carries out calls in order, whether or not some fail. -/
def writeEach : List (Namespace × Companion) → Directory → FileTree →
    List ((Namespace × Companion) × Except String Unit) × Directory × FileTree
  | [], d, t => ([], d, t)
  | a :: calls, d, t =>
    let (answer, d', t') := writeCompanion a.1 a.2 (d, t)
    let (log, last) := writeEach calls d' t'
    ((a, answer) :: log, last)

/-- The companions whose calls have succeeded. -/
def succeeded (log : List ((Namespace × Companion) × Except String Unit)) :
    List (Namespace × Companion) :=
  (log.filter fun e => e.2.isOk).map Prod.fst

theorem answered_writeCompanion (a : Namespace × Companion) (d : Directory) (t : FileTree) :
    Answered a d t (writeCompanion a.1 a.2 (d, t)).1 (writeCompanion a.1 a.2 (d, t)).2.1
      (writeCompanion a.1 a.2 (d, t)).2.2 := by
  cases hwrite : (d.target a).write t with
  | mk r u =>
    have hunder : (d.under (Render.companionFile a.1 a.2 d.options)).write t = (r, u) := hwrite
    simp only [writeCompanion, put, hunder]
    cases r with
    | error fault =>
      obtain ⟨hapart, hfiles⟩ := write_error hwrite
      exact .failed hapart hfiles
    | ok o =>
      obtain ⟨rfl, hheld, rfl⟩ | ⟨rfl, hapart⟩ := write_outcome hwrite
      · exact .held hheld
      · refine .written hapart (write_ok hwrite).1 fun place hplace => ?_
        exact (WritesAll.cons hwrite (.nil u)).fileAt (by simpa using hplace)

theorem calls_writeEach (calls : List (Namespace × Companion)) (d : Directory) (t : FileTree) :
    (writeEach calls d t).1.map Prod.fst = calls ∧
      Calls (writeEach calls d t).1 d t (writeEach calls d t).2.1 (writeEach calls d t).2.2 := by
  induction calls generalizing d t with
  | nil => exact ⟨rfl, .nil d t⟩
  | cons a calls ih =>
    obtain ⟨hcalls, hrest⟩ := ih (writeCompanion a.1 a.2 (d, t)).2.1
      (writeCompanion a.1 a.2 (d, t)).2.2
    exact ⟨congrArg (a :: ·) hcalls, .cons (answered_writeCompanion a d t) hrest⟩

theorem Holds.entered {d e : Directory} {a : Namespace × Companion}
    {done : List (Namespace × Companion)} (o : WriteOutcome)
    (h : Holds { d.record (d.target a).path o with modules := d.modules.insert a.1 a.2.name }
      done e) : Holds d (a :: done) e := by
  refine .cons ?_ ?_ ?_ h
  · exact sameBase_record d _ o
  · rfl
  · exact paths_record d _ o

theorem Calls.holds {log : List ((Namespace × Companion) × Except String Unit)}
    {d e : Directory} {t u : FileTree} (h : Calls log d t e u) : Holds d (succeeded log) e := by
  induction h with
  | nil d t => exact .nil d
  | @cons a answer log d d' e t t' u first rest ih =>
    cases first with
    | failed apart files => exact ih
    | held held => exact ih.entered .unchanged
    | written apart reads others => exact ih.entered .written

end Directory

namespace ModuleTree

def DeclaresIn (done : List (Namespace × Companion)) (p : List String) (f : OutputFile) : Prop :=
  ∃ names : List String, f.path = filePath (.ofSegments p) ∧
    f.content.toList = (header ++ "\n\n").toList ++ declarations names ∧
    names.Pairwise (· < ·) ∧
    ∀ n, n ∈ names ↔ ∃ q, (Path.ofSegments q).same (.ofSegments p) = true ∧ DeclaredIn done q n

/-- What is left by writing the module files for some companions below an output directory. -/
structure ChainWritten (output : Path) (done : List (Namespace × Companion))
    (files : List OutputFile) (t u : FileTree) : Prop where
  writes : WritesAll (files.map (·.below output)) t u
  declares : ∀ f ∈ files, ∃ a ∈ done, ∃ p, p <+: Names.directories a.1 ∧ DeclaresIn done p f
  leads : ∀ a ∈ done, ∀ p, p <+: Names.directories a.1 →
    ∃ f ∈ files, f.path.same (filePath (.ofSegments p)) = true
  once : files.Pairwise fun f g => ¬f.path.same g.path = true
  onDisk : (∀ a ∈ done, ∀ s ∈ Names.directories a.1, isEntryName s = true) →
    ∀ f ∈ files, u.readText (output.join f.path) = some f.content
  others : ∀ place, (∀ f ∈ files, (output.join f.path).place t.here ≠ place) →
    u.fileAt place = t.fileAt place
  nothing : done = [] → u = t

section Files

variable {done : List (Namespace × Companion)}

theorem declaresIn_of_mem_files {f : OutputFile} (hf : f ∈ (modulesOf done .empty).files) :
    ∃ a ∈ done, ∃ p, p <+: Names.directories a.1 ∧ DeclaresIn done p f := by
  obtain ⟨⟨dir, names⟩, he, rfl⟩ := List.mem_map.1 hf
  obtain ⟨a, ha, p, hp, rfl⟩ := exists_of_mem_modulesOf (List.mem_map_of_mem he)
  have hordered : (modulesOf done .empty).Ordered := by
    rw [modulesOf_eq_insertAll]
    exact ordered_empty.insertAll _
  have hnames : (modulesOf done .empty).NamesOrdered := by
    rw [modulesOf_eq_insertAll]
    exact namesOrdered_insertAll _
  refine ⟨a, ha, p, hp, names, rfl, toList_fileText (hordered.inhabited _ he), hnames _ he,
    fun n => ?_⟩
  rw [← hordered.lists_iff he, lists_modulesOf]
  simp only [Path.same_iff_components]

theorem exists_file_of_front {a : Namespace × Companion} (ha : a ∈ done) {p : List String}
    (hp : p <+: Names.directories a.1) :
    ∃ f ∈ (modulesOf done .empty).files, f.path.same (filePath (.ofSegments p)) = true := by
  obtain ⟨d, hd, hsame⟩ := (modulesOf_covers done .empty).2 a ha p hp
  obtain ⟨e, he, rfl⟩ := List.mem_map.1 hd
  refine ⟨_, List.mem_map_of_mem he, same_filePath_iff.2 ?_⟩
  exact (Path.same_iff_components.1 hsame).symm

theorem pairwise_files : (modulesOf done .empty).files.Pairwise fun f g =>
    ¬f.path.same g.path = true := by
  rw [modulesOf_eq_insertAll]
  refine List.pairwise_map.2 ((ordered_empty.insertAll _).before.imp fun hbefore hsame => ?_)
  exact hbefore.2 (Path.same_iff_components.2 (same_filePath_iff.1 hsame))

end Files

theorem chainWritten_modulesOf {output : Path} {done : List (Namespace × Companion)}
    {t u : FileTree}
    (writes : WritesAll ((modulesOf done .empty).files.map (·.below output)) t u) :
    ChainWritten output done (modulesOf done .empty).files t u where
  writes := writes
  declares _ := declaresIn_of_mem_files
  leads _ ha _ := exists_file_of_front ha
  once := pairwise_files
  onDisk hentries f hf := by
    have hnamed : ∀ g ∈ (modulesOf done .empty).files, g.path.Named := by
      intro g hg
      obtain ⟨a, ha, p, hp, names, hpath, -⟩ := declaresIn_of_mem_files hg
      exact ⟨p, "mod.rs", fun s hs => hentries a ha s (hp.subset hs), by decide, hpath⟩
    obtain ⟨before, after, hsplit⟩ := List.append_of_mem hf
    have honce : (before ++ f :: after).Pairwise _ := hsplit ▸ pairwise_files
    rw [hsplit] at hnamed writes
    rw [List.map_append, List.map_cons] at writes
    -- a later file written at this place would have this path
    refine writes.readText fun later hlater hmeet => ?_
    obtain ⟨g, hg, rfl⟩ := List.mem_map.1 hlater
    have hpath : g.path = f.path :=
      (hnamed g (by simp [hg])).eq_of_place (hnamed f (by simp)) hmeet
    have hapart := (List.pairwise_cons.1 (List.pairwise_append.1 honce).2.1).1 g hg
    rw [hpath] at hapart
    exact hapart (Path.same_iff_components.2 rfl)
  others place hplace := writes.fileAt fun written hmem => by
    obtain ⟨f, hf, rfl⟩ := List.mem_map.1 hmem
    exact hplace f hf
  nothing hnone := by
    subst hnone
    cases writes with
    | nil => rfl

end ModuleTree

namespace Directory

theorem Calls.chainWritten {log : List ((Namespace × Companion) × Except String Unit)}
    {options : RenderOptions} {output : Path} {e : Directory} {t u : FileTree}
    (h : Calls log (.start options output) t e u) (hok : (e.finish u).1 = .ok ()) :
    ∃ files, ModuleTree.ChainWritten output (succeeded log) files u (e.finish u).2.2 := by
  have hmodules : e.modules = modulesOf (succeeded log) .empty := h.holds.modules
  have hroot : e.root = output := h.holds.base.1
  obtain ⟨_, -, -, hend⟩ := putAll_writes e.modules.files e u
  have hwrites := (hend hok).2
  rw [hroot, hmodules] at hwrites
  rw [finish, hmodules]
  exact ⟨_, ModuleTree.chainWritten_modulesOf hwrites⟩

/-- Calls from empty books, and a finish after them. -/
theorem books_writeEach (options : RenderOptions) (output : Path)
    (calls : List (Namespace × Companion)) (t : FileTree) :
    let run := writeEach calls (.start options output) t
    run.1.map Prod.fst = calls ∧ Calls run.1 (.start options output) t run.2.1 run.2.2 ∧
      ((run.2.1.finish run.2.2).1 = .ok () →
        ∃ files, ModuleTree.ChainWritten output (succeeded run.1) files run.2.2
          (run.2.1.finish run.2.2).2.2) :=
  have hcalls := calls_writeEach calls (.start options output) t
  ⟨hcalls.1, hcalls.2, hcalls.2.chainWritten⟩

section Runs

/-- The second companion meets a directory in the place of its file, the third a file in the place
of its directory; the fourth is the first again. -/
def blockedCalls : List (Namespace × Companion) :=
  accepted [plainClass "User", plainClass "Order", ⟨"Item", ⟨["shop"]⟩, .class, []⟩,
    plainClass "User"]

/-- An output directory in the way of some companions; where one is to go, bytes that are no
text. -/
def blockedTree : FileTree :=
  ⟨.dir [("out", .dir [("order_data.rs", .dir []), ("shop", .file (.text "")),
    ("user_data.rs", .file (.binary [0xff]))])], []⟩

theorem books_blockedTree :
    let run := writeEach blockedCalls (.start {} ⟨"out"⟩) blockedTree
    (succeeded run.1).map (fun a => a.2.name) = ["UserData", "UserData"] ∧
      (run.2.1.written, run.2.1.unchanged) = ([⟨"out/user_data.rs"⟩], [⟨"out/user_data.rs"⟩]) ∧
      ∃ files, ModuleTree.ChainWritten ⟨"out"⟩ (succeeded run.1) files run.2.2
        (run.2.1.finish run.2.2).2.2 :=
  ⟨by decide +kernel, by decide +kernel,
    (books_writeEach {} ⟨"out"⟩ blockedCalls blockedTree).2.2 (by decide +kernel)⟩

end Runs

end Directory

end AccessorGen
