import AccessorGen.Output.Preview
import AccessorGen.Proofs.Output.OwnFiles
import AccessorGen.Proofs.Render.ModuleChain

/-! Whether every module declaration of a round leads to one file. A declared module may be a
companion or a directory of its own. Both files exist where a companion's module has the name of a
directory beside it, and where a directory is called `mod`, since its name is then that of the
module file which declares it. -/

namespace AccessorGen

theorem process_preview (options : RenderOptions) (ds : List Declaration) (s : Preview) :
    (process (Preview.sink options) ds s).2.2 =
      ⟨s.companions ++ (companionFiles options (accepted ds)).map .ofOutput,
        modulesOf (accepted ds) s.modules⟩ := by
  induction ds generalizing s with
  | nil => simp [process, accepted, companionFiles]
  | cons d ds ih =>
    cases hd : d.companion with
    | error cause =>
      rw [process_cons (emit_of_error hd), accepted_cons_error hd]
      exact ih s
    | ok c =>
      rw [process_cons (emit_of_ok hd rfl), accepted_cons_ok hd]
      refine (ih _).trans ?_
      simp [companionFiles]

theorem files_previewRound (options : RenderOptions) (ds : List Declaration) :
    (previewRound options ds).2.2 = (roundFiles options (accepted ds)).map .ofOutput := by
  have hfiles : (previewRound options ds).2.2 =
      (process (Preview.sink options) ds .empty).2.2.files := rfl
  rw [hfiles, process_preview, Preview.files, roundFiles, List.map_append]
  rfl

def dirText : List String → String
  | [] => ""
  | d :: ds => d ++ "/" ++ dirText ds

theorem dirText_concat (ds : List String) (d : String) :
    dirText (ds ++ [d]) = dirText ds ++ d ++ "/" := by
  induction ds with
  | nil => simp [dirText]
  | cons e ds ih => simp only [List.cons_append, dirText, ih, String.append_assoc]

theorem dirText_append_inj {ds es : List String} (hd : ∀ s ∈ ds, '/' ∉ s.toList)
    (he : ∀ s ∈ es, '/' ∉ s.toList) {f g : String} (hf : '/' ∉ f.toList) (hg : '/' ∉ g.toList)
    (h : dirText ds ++ f = dirText es ++ g) : ds = es ∧ f = g := by
  have hcut : ∀ (ds : List String) (f : String), (∀ s ∈ ds, '/' ∉ s.toList) → '/' ∉ f.toList →
      Text.cutAt '/' (dirText ds ++ f).toList = (ds ++ [f]).map String.toList := by
    intro ds f hds hf
    induction ds with
    | nil => simpa [dirText] using Text.cutAt_of_not_mem hf
    | cons d ds ih =>
      obtain ⟨hfirst, hrest⟩ := List.forall_mem_cons.1 hds
      have htext : (dirText (d :: ds) ++ f).toList =
          d.toList ++ '/' :: (dirText ds ++ f).toList := by
        simp [dirText]
      rw [htext, Text.cutAt_append_cons, Text.cutAt_of_not_mem hfirst, ih hrest]
      rfl
  have hlist : (ds ++ [f]).map String.toList = (es ++ [g]).map String.toList := by
    rw [← hcut ds f hd hf, ← hcut es g he hg, h]
  obtain ⟨hdirs, hfile⟩ :=
    List.append_inj' (List.map_injective_iff.2 (fun _ _ e => String.toList_injective e) hlist) rfl
  exact ⟨hdirs, by simpa using hfile⟩

theorem toList_dirText (ds : List String) (f : String) :
    (dirText ds ++ f).toList = Text.joinWith ['/'] ((ds ++ [f]).map String.toList) := by
  induction ds with
  | nil => simp [dirText, Text.joinWith]
  | cons d ds ih =>
    have htext : (dirText (d :: ds) ++ f).toList = d.toList ++ '/' :: (dirText ds ++ f).toList := by
      simp [dirText]
    obtain ⟨q, qs, hq⟩ : ∃ q qs, (ds ++ [f]).map String.toList = q :: qs :=
      List.exists_cons_of_ne_nil (by simp)
    rw [htext, ih, List.cons_append, List.map_cons, hq]
    simp [Text.joinWith]

theorem slashed_push {ds : List String} (hd : ∀ s ∈ ds, isEntryName s = true) {f : String}
    (hf : isEntryName f = true) : ((Path.ofSegments ds).push f).slashed = dirText ds ++ f := by
  apply String.toList_injective
  rw [toList_dirText, Path.slashed, String.toList_ofList, Path.components_push hf,
    Path.components_ofSegments hd]
  simp [Component.text, Function.comp_def]

/-- Exactly one of the two files that a declared module may be in is there. -/
def ResolvesOnce (files : List PreviewFile) : Prop :=
  ∀ f ∈ files, ∀ d, f.path = d ++ "mod.rs" → ∀ m ∈ declaredModules f.content,
    (d ++ m ++ ".rs" ∈ files.map PreviewFile.path ∨
      d ++ m ++ "/mod.rs" ∈ files.map PreviewFile.path) ∧
    ¬(d ++ m ++ ".rs" ∈ files.map PreviewFile.path ∧
      d ++ m ++ "/mod.rs" ∈ files.map PreviewFile.path)

/-- No directory is called `mod`, and no companion's module has the name of a directory beside its
file. -/
def ModulesApart (as : List (Namespace × Companion)) : Prop :=
  (∀ a ∈ as, "mod" ∉ Names.directories a.1) ∧
  ∀ a ∈ as, ∀ b ∈ as,
    ¬Names.directories a.1 ++ [Names.moduleOf a.2.name] <+: Names.directories b.1

instance (as : List (Namespace × Companion)) : Decidable (ModulesApart as) :=
  inferInstanceAs (Decidable (_ ∧ _))

def DeclaredIn (as : List (Namespace × Companion)) (p : List String) (m : String) : Prop :=
  (∃ a ∈ as, p ++ [m] <+: Names.directories a.1) ∨
    ∃ a ∈ as, Names.directories a.1 = p ∧ Names.moduleOf a.2.name = m

theorem DeclaredIn.front {as : List (Namespace × Companion)} {p : List String} {m : String}
    (h : DeclaredIn as p m) : ∃ a ∈ as, p <+: Names.directories a.1 := by
  rcases h with ⟨a, ha, hp⟩ | ⟨a, ha, hp, -⟩
  · exact ⟨a, ha, (List.prefix_append p [m]).trans hp⟩
  · exact ⟨a, ha, hp ▸ List.prefix_refl _⟩

theorem ModuleTree.lists_modulesOf {as : List (Namespace × Companion)} {cs : List Component}
    {n : String} : Lists (modulesOf as .empty).dirs cs n ↔
      ∃ p, (Path.ofSegments p).components = cs ∧ DeclaredIn as p n := by
  rw [modulesOf_eq_insertAll, lists_insertAll]
  constructor
  · rintro (⟨e, he, -⟩ | ⟨x, hx, p, hn, hcs⟩)
    · cases he
    · obtain ⟨a, ha, rfl⟩ := List.mem_map.1 hx
      refine ⟨p, hcs, ?_⟩
      rcases hn with hp | ⟨rfl, rfl⟩
      · exact .inl ⟨a, ha, hp⟩
      · exact .inr ⟨a, ha, rfl, rfl⟩
  · rintro ⟨p, hcs, ⟨a, ha, hp⟩ | ⟨a, ha, rfl, rfl⟩⟩
    · exact .inr ⟨_, List.mem_map_of_mem ha, p, .inl hp, hcs⟩
    · exact .inr ⟨_, List.mem_map_of_mem ha, _, .inr ⟨rfl, rfl⟩, hcs⟩

section Round

variable {as : List (Namespace × Companion)} (h : ∀ a ∈ as, OwnFiles.Proper a)

include h

theorem proper_insertions : ∀ x ∈ as.map fun a => (a.1, a.2.name), ModuleTree.ProperInsertion x := by
  intro x hx
  obtain ⟨a, ha, rfl⟩ := List.mem_map.1 hx
  refine ⟨fun s hs => ?_, Text.isIdentifier_nameFor (h a ha).1⟩
  have hident := (h a ha).2 s hs
  rwa [Text.plainWord_of_isIdentifier hident]

theorem isEntryName_directories {a : Namespace × Companion} (ha : a ∈ as) {p : List String}
    (hp : p <+: Names.directories a.1) : ∀ s ∈ p, isEntryName s = true :=
  ModuleTree.isEntryName_front (proper_insertions h) (List.mem_map_of_mem ha) hp

theorem isEntryName_fileOf {a : Namespace × Companion} (ha : a ∈ as) :
    isEntryName (Names.fileOf a.2.name) = true := by
  obtain ⟨h1, h2, h3⟩ := isName_fileOf a.2.name
  have hslash := slash_not_mem_fileOf (h a ha).slashFree.2
  simp [isEntryName, h1, h2, h3, hslash]

/-- The paths of a round are those of its companions and those of the directories on the way to
them. -/
theorem mem_paths_roundFiles {options : RenderOptions} {s : String} :
    s ∈ ((roundFiles options as).map PreviewFile.ofOutput).map PreviewFile.path ↔
      (∃ a ∈ as, s = dirText (Names.directories a.1) ++ Names.fileOf a.2.name) ∨
      ∃ a ∈ as, ∃ p, p <+: Names.directories a.1 ∧ s = dirText p ++ "mod.rs" := by
  have hproper := proper_insertions h
  have hcompanion : ∀ a ∈ as, (Render.companionPath a.1 a.2).slashed =
      dirText (Names.directories a.1) ++ Names.fileOf a.2.name := fun a ha =>
    slashed_push (isEntryName_directories h ha (List.prefix_refl _)) (isEntryName_fileOf h ha)
  have hmodule : ∀ a ∈ as, ∀ p, p <+: Names.directories a.1 →
      (ModuleTree.filePath (Path.ofSegments p)).slashed = dirText p ++ "mod.rs" :=
    fun a ha p hp => slashed_push (isEntryName_directories h ha hp) (by decide)
  rw [roundFiles, List.map_append, List.map_append, List.mem_append]
  refine or_congr ?_ ?_
  · simp only [companionFiles, List.map_map, List.mem_map, Function.comp_apply]
    constructor
    · rintro ⟨a, ha, rfl⟩
      exact ⟨a, ha, hcompanion a ha⟩
    · rintro ⟨a, ha, rfl⟩
      exact ⟨a, ha, hcompanion a ha⟩
  · have hpaths : (((modulesOf as .empty).files.map PreviewFile.ofOutput).map PreviewFile.path) =
        (modulesOf as .empty).paths.map fun d => (ModuleTree.filePath d).slashed := by
      simp [ModuleTree.files, ModuleTree.paths, PreviewFile.ofOutput, Function.comp_def]
    rw [hpaths, ModuleTree.modulesOf_eq_insertAll, List.mem_map]
    constructor
    · rintro ⟨d, hd, rfl⟩
      obtain ⟨x, hx, p, hp, rfl⟩ := (ModuleTree.mem_paths_iff hproper).1 hd
      obtain ⟨a, ha, rfl⟩ := List.mem_map.1 hx
      exact ⟨a, ha, p, hp, hmodule a ha p hp⟩
    · rintro ⟨a, ha, p, hp, rfl⟩
      have hmem := (ModuleTree.mem_paths_iff hproper).2 ⟨_, List.mem_map_of_mem ha, p, hp, rfl⟩
      exact ⟨_, hmem, hmodule a ha p hp⟩

theorem mem_modulesIn_modulesOf {q : List String} (hq : ∀ s ∈ q, isEntryName s = true)
    {m : String} :
    m ∈ ModuleTree.modulesIn (modulesOf as .empty).files (Path.ofSegments q) ↔
      DeclaredIn as q m := by
  rw [ModuleTree.modulesOf_eq_insertAll, ModuleTree.mem_modulesIn_iff (proper_insertions h),
    ← ModuleTree.modulesOf_eq_insertAll, ModuleTree.lists_modulesOf]
  constructor
  · rintro ⟨p, hcs, hp⟩
    obtain ⟨a, ha, hfront⟩ := hp.front
    have hpq : (Path.ofSegments p).same (.ofSegments q) = true := Path.same_iff_components.2 hcs
    rwa [← (Path.same_ofSegments_iff (isEntryName_directories h ha hfront) hq).1 hpq]
  · exact fun hm => ⟨q, rfl, hm⟩

theorem declares_iff {d m : String} :
    (∃ f ∈ (modulesOf as .empty).files,
      f.path.slashed = d ++ "mod.rs" ∧ m ∈ declaredModules f.content) ↔
      ∃ p, d = dirText p ∧ DeclaredIn as p m := by
  -- Each module file stands in a directory that the namespace of a companion goes through.
  have hdir : ∀ f ∈ (modulesOf as .empty).files, ∃ q, (∀ s ∈ q, isEntryName s = true) ∧
      f.path = ModuleTree.filePath (Path.ofSegments q) ∧
      f.path.slashed = dirText q ++ "mod.rs" := by
    intro f hf
    obtain ⟨e, he, rfl⟩ := List.mem_map.1 hf
    obtain ⟨a, ha, q, hq, hpath⟩ := ModuleTree.exists_of_mem_modulesOf (List.mem_map_of_mem he)
    have hnames := isEntryName_directories h ha hq
    refine ⟨q, hnames, congrArg ModuleTree.filePath hpath, ?_⟩
    dsimp only
    rw [hpath]
    exact slashed_push hnames (by decide)
  constructor
  · rintro ⟨f, hf, hpath, hm⟩
    obtain ⟨q, hq, hfile, hslashed⟩ := hdir f hf
    refine ⟨q, (String.append_left_inj "mod.rs").1 (hpath.symm.trans hslashed), ?_⟩
    refine (mem_modulesIn_modulesOf h hq).1 ?_
    refine List.mem_flatMap.2 ⟨f, List.mem_filter.2 ⟨hf, ?_⟩, hm⟩
    rw [hfile, ModuleTree.same_filePath_iff]
  · rintro ⟨p, rfl, hd⟩
    obtain ⟨b, hb, hpb⟩ := hd.front
    have hp := isEntryName_directories h hb hpb
    obtain ⟨f, hfilter, hm⟩ := List.mem_flatMap.1 ((mem_modulesIn_modulesOf h hp).2 hd)
    obtain ⟨hf, hsame⟩ := List.mem_filter.1 hfilter
    obtain ⟨q, hq, hfile, hslashed⟩ := hdir f hf
    rw [hfile, ModuleTree.same_filePath_iff, ← Path.same_iff_components,
      Path.same_ofSegments_iff hq hp] at hsame
    subst hsame
    exact ⟨f, hf, hslashed, hm⟩

theorem companionPath_ne_mod {a : Namespace × Companion} (ha : a ∈ as) (d : String) :
    dirText (Names.directories a.1) ++ Names.fileOf a.2.name ≠ d ++ "mod.rs" := by
  intro e
  rw [(h a ha).fileOf] at e
  have hends : "_data".toList ++ ".rs".toList = "_dat".toList ++ "a.rs".toList ∧
      "mod.rs".toList = "mo".toList ++ "d.rs".toList := by decide
  have hchars := congrArg String.toList e
  simp only [String.toList_append] at hchars
  rw [List.append_assoc _ "_data".toList, hends.1, hends.2, ← List.append_assoc,
    ← List.append_assoc, ← List.append_assoc] at hchars
  exact absurd (List.append_inj' hchars rfl).2 (by decide)

section Declared

variable {options : RenderOptions} {p : List String} {m : String} (hd : DeclaredIn as p m)

include hd

theorem slash_not_mem_declared : (∀ s ∈ p, '/' ∉ s.toList) ∧ '/' ∉ m.toList := by
  rcases hd with ⟨a, ha, hp⟩ | ⟨a, ha, rfl, rfl⟩
  · have hall := prefix_slashFree (h a ha).slashFree.1 hp
    exact ⟨fun s hs => hall s (by simp [hs]), hall m (by simp)⟩
  · refine ⟨prefix_slashFree (h a ha).slashFree.1 (List.prefix_refl _), fun hslash => ?_⟩
    have hfile := slash_not_mem_fileOf (h a ha).slashFree.2
    rw [Names.fileOf, String.toList_append, List.mem_append, not_or] at hfile
    exact hfile.1 hslash

/-- The file of a declared module is there for a companion, and for `mod`, where the file that
declares it is the one found. -/
theorem mem_file_iff :
    dirText p ++ m ++ ".rs" ∈ ((roundFiles options as).map PreviewFile.ofOutput).map
      PreviewFile.path ↔
      (∃ a ∈ as, Names.directories a.1 = p ∧ Names.moduleOf a.2.name = m) ∨ m = "mod" := by
  obtain ⟨hp, hm⟩ := slash_not_mem_declared h hd
  have hfile : '/' ∉ (m ++ ".rs").toList := by
    rw [String.toList_append, List.mem_append, not_or]
    exact ⟨hm, by decide⟩
  rw [mem_paths_roundFiles h, String.append_assoc]
  refine or_congr ⟨?_, ?_⟩ ⟨?_, ?_⟩
  · rintro ⟨a, ha, hpath⟩
    obtain ⟨rfl, hname⟩ := dirText_append_inj hp
      (prefix_slashFree (h a ha).slashFree.1 (List.prefix_refl _)) hfile
      (slash_not_mem_fileOf (h a ha).slashFree.2) hpath
    exact ⟨a, ha, rfl, (String.append_left_inj ".rs").1 hname.symm⟩
  · rintro ⟨a, ha, rfl, rfl⟩
    exact ⟨a, ha, rfl⟩
  · rintro ⟨a, ha, q, hq, hpath⟩
    have hname := (dirText_append_inj hp (prefix_slashFree (h a ha).slashFree.1 hq) hfile
      (by decide) hpath).2
    exact (String.append_left_inj ".rs").1 hname
  · rintro rfl
    obtain ⟨a, ha, hfront⟩ := hd.front
    exact ⟨a, ha, p, hfront, rfl⟩

theorem mem_directory_iff :
    dirText p ++ m ++ "/mod.rs" ∈ ((roundFiles options as).map PreviewFile.ofOutput).map
      PreviewFile.path ↔ ∃ a ∈ as, p ++ [m] <+: Names.directories a.1 := by
  obtain ⟨hp, hm⟩ := slash_not_mem_declared h hd
  have hslash : ∀ s ∈ p ++ [m], '/' ∉ s.toList := by
    simpa [or_imp, forall_and] using And.intro hp hm
  have htext : dirText p ++ m ++ "/mod.rs" = dirText (p ++ [m]) ++ "mod.rs" := by
    rw [dirText_concat, show "/mod.rs" = "/" ++ "mod.rs" by decide, ← String.append_assoc]
  rw [mem_paths_roundFiles h, htext]
  constructor
  · rintro (⟨a, ha, hpath⟩ | ⟨a, ha, q, hq, hpath⟩)
    · exact absurd hpath.symm (companionPath_ne_mod h ha _)
    · obtain ⟨rfl, -⟩ := dirText_append_inj hslash (prefix_slashFree (h a ha).slashFree.1 hq)
        (by decide) (by decide) hpath
      exact ⟨a, ha, hq⟩
  · rintro ⟨a, ha, hfront⟩
    exact .inr ⟨a, ha, _, hfront, rfl⟩

end Declared

/-- Read off the names of the round: a declared module leads to one file unless a companion or the
module file of its parent has the file's name and its directory is there too. -/
theorem resolvesOnce_iff_declared {options : RenderOptions} :
    ResolvesOnce ((roundFiles options as).map .ofOutput) ↔
      ∀ p m, DeclaredIn as p m → ¬(((∃ a ∈ as, Names.directories a.1 = p ∧
        Names.moduleOf a.2.name = m) ∨ m = "mod") ∧
        ∃ a ∈ as, p ++ [m] <+: Names.directories a.1) := by
  constructor
  · intro hall p m hd
    obtain ⟨f, hf, hpath, hm⟩ := (declares_iff h).2 ⟨p, rfl, hd⟩
    have hfile : PreviewFile.ofOutput f ∈ (roundFiles options as).map .ofOutput :=
      List.mem_map_of_mem (List.mem_append_right _ hf)
    have hone := (hall _ hfile (dirText p) hpath m hm).2
    rwa [mem_file_iff h hd, mem_directory_iff h hd] at hone
  · intro hall f hf d hpath m hm
    obtain ⟨g, hg, rfl⟩ := List.mem_map.1 hf
    rcases List.mem_append.1 hg with hg | hg
    · obtain ⟨a, ha, rfl⟩ := List.mem_map.1 hg
      refine absurd (Eq.trans ?_ hpath) (companionPath_ne_mod h ha d)
      exact (slashed_push (isEntryName_directories h ha (List.prefix_refl _))
        (isEntryName_fileOf h ha)).symm
    · obtain ⟨p, rfl, hd⟩ := (declares_iff h).1 ⟨g, hg, hpath, hm⟩
      rw [mem_file_iff h hd, mem_directory_iff h hd]
      exact ⟨hd.symm.imp_left .inl, hall p m hd⟩

theorem resolvesOnce_roundFiles {options : RenderOptions} :
    ResolvesOnce ((roundFiles options as).map .ofOutput) ↔ ModulesApart as := by
  rw [resolvesOnce_iff_declared h]
  constructor
  · intro hall
    refine ⟨fun a ha hmod => ?_, fun a ha b hb hfront => ?_⟩
    · obtain ⟨p, rest, hsplit⟩ := List.append_of_mem hmod
      have hfront : p ++ ["mod"] <+: Names.directories a.1 := ⟨rest, by simp [hsplit]⟩
      exact hall p "mod" (.inl ⟨a, ha, hfront⟩) ⟨.inr rfl, a, ha, hfront⟩
    · exact hall _ _ (.inl ⟨b, hb, hfront⟩) ⟨.inl ⟨a, ha, rfl, rfl⟩, b, hb, hfront⟩
  · rintro ⟨hmod, hapart⟩ p m - ⟨⟨a, ha, rfl, rfl⟩ | rfl, b, hb, hfront⟩
    · exact hapart a ha b hb hfront
    · exact hmod b hb (hfront.subset (by simp))

end Round

/-- Every module declaration of a preview leads to exactly one of its files when and only when no
directory is called `mod` and no companion's module has the name of a directory beside it. -/
theorem resolvesOnce_iff {options : RenderOptions} {ds : List Declaration}
    (hnames : ∀ d ∈ ds, WellNamed d) :
    ResolvesOnce (previewRound options ds).2.2 ↔ ModulesApart (accepted ds) := by
  rw [files_previewRound]
  exact resolvesOnce_roundFiles (OwnFiles.proper_of_accepted hnames)

section Runs

def shopOrder : List Declaration := [plainClass "User", ⟨"Order", ⟨["shop"]⟩, .class, []⟩]

theorem resolves_user_shop_order : ResolvesOnce (previewRound {} shopOrder).2.2 :=
  (resolvesOnce_iff (by decide)).2 (by decide)

def userTwice : List Declaration := [plainClass "User", ⟨"Order", ⟨["user_data"]⟩, .class, []⟩]

/-- The names are identifiers, and the root's `pub mod user_data;` has two files. -/
theorem not_resolves_user_data :
    (∀ d ∈ userTwice, WellNamed d) ∧ ¬ResolvesOnce (previewRound {} userTwice).2.2 := by
  refine ⟨by decide, fun hall => ?_⟩
  have hone := hall ⟨"mod.rs", ModuleTree.fileText ["user_data"]⟩ (by decide +kernel) "" rfl
    "user_data" (by decide +kernel)
  revert hone
  decide +kernel

end Runs

end AccessorGen
