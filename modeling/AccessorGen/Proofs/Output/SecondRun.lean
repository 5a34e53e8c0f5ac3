import AccessorGen.Proofs.Output.Again
import AccessorGen.Proofs.Output.NamedFiles

/-! What a second round with the same declarations does. It never changes a file. Where no two
companions share a path, every file still holds its text when its turn comes, so nothing is written
and every file is found as it is, in the order in which the first round wrote them. -/

namespace AccessorGen

open OutputFile

theorem OutputFile.write_of_current {f : OutputFile} {t : FileTree} (h : f.isCurrent t = true) :
    f.write t = (.ok .unchanged, t) := by
  unfold write
  exact if_pos h

namespace Directory

def found (d : Directory) (fs : List OutputFile) : Directory :=
  { d with unchanged := d.unchanged ++ fs.map fun f => d.root.join f.path }

@[simp] theorem found_nil (d : Directory) : d.found [] = d := by simp [found]

theorem found_found (d : Directory) (fs gs : List OutputFile) :
    (d.found fs).found gs = d.found (fs ++ gs) := by
  simp [found]

theorem put_of_current {d : Directory} {f : OutputFile} {t : FileTree}
    (h : (f.below d.root).isCurrent t = true) : d.put f t = (.ok (), d.found [f], t) :=
  put_of_write (write_of_current h)

theorem putAll_of_current {fs : List OutputFile} {d : Directory} {t : FileTree}
    (h : ∀ f ∈ fs, (f.below d.root).isCurrent t = true) :
    putAll fs d t = (.ok (), d.found fs, t) := by
  induction fs generalizing d with
  | nil => rw [putAll, found_nil]
  | cons f fs ih =>
    obtain ⟨hfirst, hrest⟩ := List.forall_mem_cons.1 h
    have hnext := ih (d := d.found [f]) hrest
    rw [putAll, put_of_current hfirst]
    exact hnext.trans (by rw [found_found, List.singleton_append])

theorem process_of_current {ds : List Declaration} {d : Directory} {t : FileTree}
    (h : ∀ f ∈ companionFiles d.options (accepted ds), (f.below d.root).isCurrent t = true) :
    (process sink ds (d, t)).2.2 =
      ({ d.found (companionFiles d.options (accepted ds)) with
        modules := modulesOf (accepted ds) d.modules }, t) := by
  induction ds generalizing d with
  | nil => simp [process, accepted, companionFiles]
  | cons x ds ih =>
    cases hx : x.companion with
    | error cause =>
      rw [accepted_cons_error hx] at h ⊢
      rw [process_cons (emit_of_error hx)]
      exact ih h
    | ok c =>
      rw [accepted_cons_ok hx, companionFiles_cons] at h ⊢
      obtain ⟨hfirst, hrest⟩ := List.forall_mem_cons.1 h
      let e : Directory :=
        { d.found [Render.companionFile x.space c d.options] with
          modules := d.modules.insert x.space c.name }
      have hwrite : sink.write x.space c (d, t) = (.ok (), e, t) := by
        change writeCompanion x.space c (d, t) = _
        rw [writeCompanion, put_of_current hfirst]
        rfl
      rw [process_cons (emit_of_ok hx hwrite)]
      refine (ih (d := e) hrest).trans ?_
      simp [e, found]

end Directory

section Paths

variable {options : RenderOptions} {as : List (Namespace × Companion)}

theorem parentsFirst_modulesOf (as : List (Namespace × Companion)) :
    (modulesOf as .empty).paths.Pairwise fun d e => ¬e.components <+: d.components := by
  rw [ModuleTree.modulesOf_eq_insertAll]
  exact (ModuleTree.ordered_empty.insertAll _).parentsFirst

theorem nodup_roundFiles (h : ∀ a ∈ as, OwnFiles.Proper a) (hapart : PathsApart as) :
    ((roundFiles options as).map OutputFile.path).Nodup := by
  rw [roundFiles, List.map_append, ModuleTree.path_files]
  refine List.nodup_append.2 ⟨?_, ?_, ?_⟩
  · rw [companionFiles, List.map_map]
    refine List.pairwise_map.2 (hapart.imp fun {a b} hab e => hab ?_)
    have hpath : Render.companionPath a.1 a.2 = Render.companionPath b.1 b.2 := e
    rw [hpath]
    simp [Path.same]
  · refine List.pairwise_map.2 ((parentsFirst_modulesOf as).imp fun {d e} hde hpath => hde ?_)
    have hsame : (ModuleTree.filePath d).same (ModuleTree.filePath e) = true := by
      rw [hpath]
      simp [Path.same]
    rw [ModuleTree.same_filePath_iff.1 hsame]
  · intro p hp q hq e
    obtain ⟨f, hf, rfl⟩ := List.mem_map.1 hp
    obtain ⟨a, ha, rfl⟩ := List.mem_map.1 hf
    obtain ⟨dir, hdir, rfl⟩ := List.mem_map.1 hq
    obtain ⟨b, hb, front, hfront, rfl⟩ := ModuleTree.exists_of_mem_modulesOf hdir
    have htext := congrArg Path.text e
    change ((Path.ofSegments (Names.directories a.1)).push (Names.fileOf a.2.name)).text =
      ((Path.ofSegments front).push "mod.rs").text at htext
    rw [Path.text_push (isEntryName_directories h ha (List.prefix_refl _))
      (isEntryName_fileOf h ha),
      Path.text_push (isEntryName_directories h hb hfront) (by decide)] at htext
    exact companionPath_ne_mod h ha _ htext

end Paths

/-- The directories of companions and those on the way to them, in path order; a directory comes
before those it holds. -/
structure ModuleDirectories (as : List (Namespace × Companion)) (dirs : List Path) : Prop where
  mem : ∀ d, d ∈ dirs ↔ ∃ a ∈ as, ∃ p, p <+: Names.directories a.1 ∧ d = Path.ofSegments p
  ordered : dirs.Pairwise fun d e => d.le e = true ∧ ¬d.same e = true
  parentsFirst : dirs.Pairwise fun d e => ¬e.components <+: d.components

theorem moduleDirectories_paths {as : List (Namespace × Companion)}
    (h : ∀ a ∈ as, OwnFiles.Proper a) : ModuleDirectories as (modulesOf as .empty).paths where
  mem d := by
    rw [ModuleTree.modulesOf_eq_insertAll, ModuleTree.mem_paths_iff (proper_insertions h)]
    simp
  ordered := by
    rw [ModuleTree.modulesOf_eq_insertAll]
    exact List.pairwise_map.2 (ModuleTree.ordered_empty.insertAll _).before
  parentsFirst := parentsFirst_modulesOf as

section Round

variable {options : RenderOptions} {output : Path} {ds : List Declaration} {t : FileTree}

theorem generateRound_of_current
    (h : ∀ f ∈ roundFiles options (accepted ds), (f.below output).isCurrent t = true) :
    (generateRound options output ds t).1.written = [] ∧
    (generateRound options output ds t).1.unchanged =
      (roundFiles options (accepted ds)).map fun f => output.join f.path := by
  obtain ⟨hcompanions, hmodules⟩ := List.forall_mem_append.1 h
  let d := Directory.start options output
  let e : Directory := { d.found (companionFiles options (accepted ds)) with
    modules := modulesOf (accepted ds) .empty }
  have hround : (process Directory.sink ds (d, t)).2.2 = (e, t) :=
    Directory.process_of_current hcompanions
  have hend : e.finish t = (.ok (), e.found (modulesOf (accepted ds) .empty).files, t) :=
    Directory.putAll_of_current hmodules
  obtain ⟨-, hwritten, hunchanged, -⟩ := generateRound_eq options output ds t
  rw [hwritten, hunchanged, hround, hend, roundFiles, List.map_append]
  exact ⟨rfl, rfl⟩

theorem isCurrent_generateRound (hproper : ∀ a ∈ accepted ds, OwnFiles.Proper a)
    (hwrites : RoundSucceeds options output ds t) (hapart : PathsApart (accepted ds)) :
    ∀ f ∈ roundFiles options (accepted ds),
      (f.below output).isCurrent (generateRound options output ds t).2 = true := by
  intro f hf
  have hnodup : ((roundFiles options (accepted ds)).map OutputFile.path).Nodup :=
    nodup_roundFiles hproper hapart
  obtain ⟨before, after, hsplit⟩ := List.append_of_mem hf
  rw [hsplit, List.map_append, List.map_cons] at hnodup
  have hfresh := (List.nodup_cons.1 (List.nodup_append.1 hnodup).2.1).1
  refine beq_iff_eq.2 (readText_of_last hproper hwrites hsplit fun g hg e => hfresh ?_)
  exact e ▸ List.mem_map_of_mem hg

end Round

/-- A round, and the same round on what it has left. -/
structure Repeats (output : Path) (as : List (Namespace × Companion))
    (first second : Generation × FileTree) : Prop where
  tree : second.2 = first.2
  report : second.1.report = first.1.report
  diagnostics : second.1.diagnostics = first.1.diagnostics
  written : PathsApart as → second.1.written = []
  unchanged : PathsApart as → ∃ dirs, ModuleDirectories as dirs ∧ second.1.unchanged =
    (as.map fun a => output.join (Render.companionPath a.1 a.2)) ++
      dirs.map fun d => output.join (ModuleTree.filePath d)

/-- A round in which no write fails repeats: its second run changes no file and reports the same, and
where no two companions have one path, it writes none. -/
theorem generateRound_repeats {options : RenderOptions} {output : Path} {ds : List Declaration}
    {t : FileTree} (hnames : ∀ d ∈ ds, WellNamed d)
    (hwrites : RoundSucceeds options output ds t) :
    Repeats output (accepted ds) (generateRound options output ds t)
      (generateRound options output ds (generateRound options output ds t).2) := by
  have hproper := OwnFiles.proper_of_accepted hnames
  obtain ⟨hagain, htree⟩ := generateRound_again hwrites
  obtain ⟨hreport, hdiagnostics⟩ := generateRound_same hagain hwrites
  have hcurrent : PathsApart (accepted ds) → _ := fun hapart =>
    generateRound_of_current (isCurrent_generateRound hproper hwrites hapart)
  refine ⟨htree, hreport, hdiagnostics, fun hapart => (hcurrent hapart).1, fun hapart =>
    ⟨_, moduleDirectories_paths hproper, ?_⟩⟩
  have hmodules : (modulesOf (accepted ds) .empty).files.map (fun f => output.join f.path) =
      (modulesOf (accepted ds) .empty).paths.map fun d => output.join (ModuleTree.filePath d) := by
    simp [ModuleTree.files, ModuleTree.paths, Function.comp_def]
  rw [(hcurrent hapart).2, roundFiles, List.map_append, hmodules, companionFiles, List.map_map]
  rfl

section Runs

def nestedRound : List Declaration :=
  [plainClass "User", ⟨"Shape", .root, .interface, []⟩, ⟨"Order", ⟨["shop"]⟩, .class, []⟩,
    ⟨"Item", ⟨["shop", "cart"]⟩, .class, []⟩]

def outdatedTree : FileTree :=
  ⟨.dir [("out", .dir [("mod.rs", .file (.text "old"))])], []⟩

theorem repeats_nestedRound :
    PathsApart (accepted nestedRound) ∧
    Repeats ⟨"out"⟩ (accepted nestedRound) (generateRound {} ⟨"out"⟩ nestedRound outdatedTree)
      (generateRound {} ⟨"out"⟩ nestedRound
        (generateRound {} ⟨"out"⟩ nestedRound outdatedTree).2) :=
  ⟨by decide +kernel, generateRound_repeats (by decide) (by decide +kernel)⟩

end Runs

end AccessorGen
