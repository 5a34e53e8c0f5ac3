import AccessorGen.Proofs.File.Order
import AccessorGen.Proofs.File.Sound
import Mathlib.Data.List.Sort

/-! Which files a discovery reads. In a sound tree they are the files with the ending of source text
that are seen below the source directory, each once, in the order of their paths. So two trees that
show the same files but at some places give the same files to read but for those places, in the same
order. -/

namespace AccessorGen

namespace Node

theorem look_append (n : Node) (p q : Place) : n.look (p ++ q) = (n.get p).bind (·.look q) := by
  induction p generalizing n with
  | nil => rfl
  | cons s p ih =>
    cases n with
    | file c => rfl
    | dir entries =>
      rw [List.cons_append, look_dir_cons, get]
      cases entries.lookup s with
      | none => rfl
      | some m => exact ih m

mutual

theorem mem_sources_iff {at_ : Path} {n : Node} (h : n.sound = true) {x : Path × Content} :
    x ∈ n.sources at_ ↔ ∃ names : List String, x.1 = names.foldl Path.push at_ ∧
      n.look names = some (.file x.2) ∧ x.1.ending = some ['r', 's'] := by
  cases n with
  | file c =>
    obtain ⟨p, d⟩ := x
    unfold sources
    constructor
    · intro hx
      split at hx
      next hend =>
        obtain ⟨rfl, rfl⟩ := Prod.mk.inj (List.mem_singleton.1 hx)
        exact ⟨[], rfl, rfl, hend⟩
      · cases hx
    · rintro ⟨names, rfl, hlook, hend⟩
      cases names with
      | nil =>
        obtain rfl : c = d := by simpa [view] using hlook
        simpa using hend
      | cons s names => cases hlook
  | dir entries => exact mem_sourcesAll_iff h

theorem mem_sourcesAll_iff {at_ : Path} {entries : List (String × Node)}
    (h : soundAll entries = true) {x : Path × Content} :
    x ∈ sourcesAll at_ entries ↔ ∃ names : List String, x.1 = names.foldl Path.push at_ ∧
      (Node.dir entries).look names = some (.file x.2) ∧ x.1.ending = some ['r', 's'] := by
  match entries with
  | [] =>
    simp only [sourcesAll, List.not_mem_nil, false_iff]
    rintro ⟨names, -, hlook, -⟩
    cases names <;> cases hlook
  | (s, n) :: rest =>
    obtain ⟨-, hfree, hn, hrest⟩ := soundAll_cons.1 h
    rw [sourcesAll, List.mem_append, mem_sources_iff hn, mem_sourcesAll_iff hrest]
    constructor
    · rintro (⟨names, hpath, hlook, hend⟩ | ⟨names, hpath, hlook, hend⟩)
      · refine ⟨s :: names, hpath, ?_, hend⟩
        simpa [look_dir_cons] using hlook
      · cases names with
        | nil => cases hlook
        | cons u names =>
          refine ⟨u :: names, hpath, ?_, hend⟩
          rw [look_dir_cons] at hlook ⊢
          have hu : u ≠ s := by
            rintro rfl
            rw [hfree] at hlook
            cases hlook
          rwa [List.lookup_cons, beq_false_of_ne hu]
    · rintro ⟨names, hpath, hlook, hend⟩
      cases names with
      | nil => cases hlook
      | cons u names =>
        rw [look_dir_cons, List.lookup_cons] at hlook
        by_cases hu : u = s
        · subst hu
          exact .inl ⟨names, hpath, by simpa using hlook, hend⟩
        · rw [beq_false_of_ne hu] at hlook
          exact .inr ⟨u :: names, hpath, by rwa [look_dir_cons], hend⟩

end

theorem names_inj {at_ : Path} {n m : Node} (hn : n.sound = true) (hm : m.sound = true)
    {names more : List String} {v w : View} (hv : n.look names = some v)
    (hw : m.look more = some w)
    (h : (names.foldl Path.push at_).components = (more.foldl Path.push at_).components) :
    names = more := by
  rw [Path.components_pushAll (entryNames_of_look hn hv),
    Path.components_pushAll (entryNames_of_look hm hw), List.append_cancel_left_eq] at h
  refine List.map_injective_iff.2 (fun s u hsu => ?_) h
  exact String.toList_injective (Component.name.inj hsu)

mutual

theorem nodup_sources {at_ : Path} {n : Node} (h : n.sound = true) : (n.sources at_).Nodup := by
  cases n with
  | file c =>
    unfold sources
    split <;> simp
  | dir entries => exact nodup_sourcesAll h

theorem nodup_sourcesAll {at_ : Path} {entries : List (String × Node)}
    (h : soundAll entries = true) : (sourcesAll at_ entries).Nodup := by
  match entries with
  | [] => simp [sourcesAll]
  | (s, n) :: rest =>
    obtain ⟨-, hfree, hn, hrest⟩ := soundAll_cons.1 h
    refine List.nodup_append.2 ⟨nodup_sources hn, nodup_sourcesAll hrest, ?_⟩
    rintro x hx y hy rfl
    obtain ⟨names, hpath, hlook, -⟩ := (mem_sources_iff hn).1 hx
    obtain ⟨more, hmore, hlook', -⟩ := (mem_sourcesAll_iff hrest).1 hy
    have hlook : (Node.dir ((s, n) :: rest)).look (s :: names) = some (.file x.2) := by
      simpa [look_dir_cons] using hlook
    have hall : (Node.dir ((s, n) :: rest)).sound = true := h
    have hother : (Node.dir rest).sound = true := hrest
    have hnames := names_inj hall hother hlook hlook' (by rw [← hmore, hpath]; rfl)
    rw [← hnames, look_dir_cons, hfree] at hlook'
    cases hlook'

end

end Node

def Path.Precedes (p q : Path) : Prop := p.le q = true ∧ ¬p.same q = true

instance : Std.Irrefl fun x y : Path × Content => x.1.Precedes y.1 :=
  ⟨fun _ hx => hx.2 (Path.same_iff_components.2 rfl)⟩

instance : Std.Antisymm fun x y : Path × Content => x.1.Precedes y.1 :=
  ⟨fun _ _ hxy hyx => absurd (Path.same_of_le_of_le hxy.1 hyx.1) hxy.2⟩

namespace FileTree

def sourceFiles (t : FileTree) (root : Path) : List (Path × Content) :=
  match t.find root with
  | .ok (.dir entries) => sortSources (Node.sourcesAll root entries)
  | _ => []

theorem isDir_iff {t : FileTree} {p : Path} : t.isDir p = true ↔
    ∃ entries, t.find p = .ok (.dir entries) ∧
      t.resolve p = .ok (p.place t.here) ∧ t.root.get (p.place t.here) = some (.dir entries) := by
  unfold isDir find
  cases hr : t.resolve p with
  | error e => simp [bind, Except.bind]
  | ok place =>
    obtain rfl := resolve_eq_ok hr
    cases hg : t.root.get (p.place t.here) with
    | none => simp [bind, Except.bind, hg]
    | some n =>
      cases n with
      | dir entries => simp [bind, Except.bind, hg, Node.isDir]
      | file c => cases endsInSlash p <;> simp [bind, Except.bind, hg, Node.isDir]

theorem look_of_isDir {t : FileTree} {p : Path} (h : t.isDir p = true) :
    t.look (p.place t.here) = some .dir := by
  obtain ⟨entries, -, -, hget⟩ := isDir_iff.1 h
  simp [look, Node.look, hget, Node.view]

theorem isDir_keeps {t u : FileTree} (h : KeepsDirs t u) {p : Path} (hdir : t.isDir p = true) :
    u.isDir p = true := by
  obtain ⟨entries, -, hresolve, -⟩ := isDir_iff.1 hdir
  obtain ⟨n, hn, hview⟩ := Option.map_eq_some_iff.1 (h.2 _ (look_of_isDir hdir))
  obtain ⟨more, rfl⟩ := Node.view_eq_dir hview
  have hresolve := resolve_keeps h hresolve
  simp [isDir, find, hresolve, bind, Except.bind, hn, Node.isDir]

section Files

variable {t : FileTree} (ht : t.Sound) {root : Path} (hdir : t.isDir root = true)

include ht hdir

theorem mem_sourceFiles_iff {x : Path × Content} :
    x ∈ t.sourceFiles root ↔ ∃ names : List String, x.1 = names.foldl Path.push root ∧
      t.look (root.place t.here ++ names) = some (.file x.2) ∧
      x.1.ending = some ['r', 's'] := by
  obtain ⟨entries, hfind, -, hget⟩ := isDir_iff.1 hdir
  have hlook : ∀ names, t.look (root.place t.here ++ names) = (Node.dir entries).look names := by
    intro names
    rw [look, Node.look_append, hget, Option.bind_some]
  rw [sourceFiles, hfind]
  simp only [sortSources, (List.mergeSort_perm _ _).mem_iff, hlook]
  exact Node.mem_sourcesAll_iff (Node.sound_get ht.root hget)

theorem nodup_sourceFiles : (t.sourceFiles root).Nodup := by
  obtain ⟨entries, hfind, -, hget⟩ := isDir_iff.1 hdir
  rw [sourceFiles, hfind]
  exact (List.mergeSort_perm _ _).nodup_iff.2 (Node.nodup_sourcesAll (Node.sound_get ht.root hget))

omit ht in
theorem sorted_sourceFiles : (t.sourceFiles root).Pairwise fun x y => x.1.le y.1 = true := by
  obtain ⟨entries, hfind, -⟩ := isDir_iff.1 hdir
  have htrans : ∀ x y z : Path × Content, x.1.le y.1 = true → y.1.le z.1 = true →
      x.1.le z.1 = true := fun _ _ _ => Path.le_trans
  have htotal : ∀ x y : Path × Content, (x.1.le y.1 || y.1.le x.1) = true := fun x y => by
    simpa using Path.le_total x.1 y.1
  rw [sourceFiles, hfind]
  exact List.pairwise_mergeSort htrans htotal _

omit hdir in
theorem place_of_look {names : List String} {v : View}
    (h : t.look (root.place t.here ++ names) = some v) :
    (names.foldl Path.push root).place t.here = root.place t.here ++ names := by
  have hnames : ∀ s ∈ names, isEntryName s = true := fun s hs =>
    Node.entryNames_of_look ht.root h s (List.mem_append_right _ hs)
  have hpieces : ∀ s ∈ names.map String.toList, IsName s := by
    intro s hs
    obtain ⟨w, hw, rfl⟩ := List.mem_map.1 hs
    exact isName_of_isEntryName (hnames w hw)
  rw [Path.place_pushAll fun s hs => slash_not_mem_of_isEntryName (hnames s hs),
    along_names hpieces, List.map_map]
  congr 1
  exact List.map_id'' (fun s => String.ofList_toList) names

theorem place_sourceFile {x : Path × Content} (hx : x ∈ t.sourceFiles root) :
    root.place t.here <+: x.1.place t.here ∧ t.look (x.1.place t.here) = some (.file x.2) := by
  obtain ⟨names, hpath, hlook, -⟩ := (mem_sourceFiles_iff ht hdir).1 hx
  rw [hpath, place_of_look ht hlook]
  exact ⟨List.prefix_append _ _, hlook⟩

theorem sourceFiles_inj {x y : Path × Content} (hx : x ∈ t.sourceFiles root)
    (hy : y ∈ t.sourceFiles root) (hxy : x.1.le y.1 = true) (hyx : y.1.le x.1 = true) : x = y := by
  have hsame := Path.same_iff_components.1 (Path.same_of_le_of_le hxy hyx)
  obtain ⟨names, hpath, hlook, -⟩ := (mem_sourceFiles_iff ht hdir).1 hx
  obtain ⟨more, hpath', hlook', -⟩ := (mem_sourceFiles_iff ht hdir).1 hy
  have hplace : x.1.place t.here = y.1.place t.here := by rw [Path.place, Path.place, hsame]
  rw [hpath, hpath', place_of_look ht hlook, place_of_look ht hlook',
    List.append_cancel_left_eq] at hplace
  rw [← hplace] at hpath' hlook'
  rw [hlook'] at hlook
  exact Prod.ext (hpath.trans hpath'.symm) (View.file.inj (Option.some.inj hlook)).symm

theorem strict_sourceFiles : (t.sourceFiles root).Pairwise fun x y => x.1.Precedes y.1 := by
  have hpairs := (sorted_sourceFiles hdir).and (nodup_sourceFiles ht hdir)
  refine hpairs.imp_of_mem fun {x y} hx hy hxy => ⟨hxy.1, fun hsame => hxy.2 ?_⟩
  have hyx : y.1.le x.1 = true := by
    rw [Path.le, Path.same_iff_components.1 hsame]
    exact Path.leList_of_prefix (List.prefix_refl _)
  exact sourceFiles_inj ht hdir hx hy hxy.1 hyx

end Files

theorem sourceFiles_filter_eq {t u : FileTree} (ht : t.Sound) {ps : List Place}
    (hkeep : KeepsBut (· ∈ ps) t u) (hmake : MakesOnly (· ∈ ps) t u) {root : Path}
    (hdir : t.isDir root = true) :
    (u.sourceFiles root).filter (fun x => x.1.place t.here ∉ ps) =
      (t.sourceFiles root).filter fun x => x.1.place t.here ∉ ps := by
  have hu : u.Sound := hmake.1 ht
  have hhere : u.here = t.here := hkeep.1.1
  have hudir : u.isDir root = true := isDir_keeps hkeep.1 hdir
  have hmem : ∀ x : Path × Content, x.1.place t.here ∉ ps →
      (x ∈ u.sourceFiles root ↔ x ∈ t.sourceFiles root) := by
    intro x hx
    rw [mem_sourceFiles_iff hu hudir, mem_sourceFiles_iff ht hdir]
    refine exists_congr fun names => and_congr_right fun hpath => and_congr_left fun _ => ?_
    constructor
    · intro hlook
      have hplace := place_of_look hu hlook
      rw [hhere] at hlook hplace
      exact hmake.2 _ _ (by rwa [← hplace, ← hpath]) hlook
    · intro hlook
      have hplace := place_of_look ht hlook
      rw [hhere]
      exact hkeep.2 _ _ (by rwa [← hplace, ← hpath]) hlook
  refine ((strict_sourceFiles hu hudir).filter _).eq_of_mem_iff
    ((strict_sourceFiles ht hdir).filter _) fun x => ?_
  simp only [List.mem_filter, decide_eq_true_eq]
  exact and_congr_left (hmem x)

end FileTree

end AccessorGen
