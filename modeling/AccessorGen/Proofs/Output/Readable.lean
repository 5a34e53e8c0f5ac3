import AccessorGen.Proofs.Grammar.PathNames
import AccessorGen.Proofs.Render.FileReads
import AccessorGen.Proofs.Render.ModuleChain

/-! Which companions are written as sources that can be read again: it is enough that the names are
words and no keywords, and that the types of the fields are paths. -/

namespace AccessorGen

open Source

namespace TypeRef

mutual

def isPath : TypeRef → Bool
  | .primitive _ => true
  | .named s => (pathNames s).all isPathNameText
  | .verbatim _ => false
  | .generic base args =>
    (pathNames base).all isPathNameText && (pathNames base).getLast?.any isNameText &&
      arePaths args

def arePaths : List TypeRef → Bool
  | [] => true
  | t :: ts => t.isPath && arePaths ts

end

theorem isNameText_sourceName (p : Primitive) : isNameText p.sourceName = true := by
  cases p <;> decide

mutual

theorem exists_pathType {t : TypeRef} (h : t.isPath = true) :
    ∃ p : PathType, t.source.toList = p.text := by
  cases t with
  | primitive p =>
    obtain ⟨n, hn⟩ := exists_name (isNameText_sourceName p)
    refine ⟨.plain false [] n.toPath, ?_⟩
    rw [source, hn]
    rfl
  | named s =>
    obtain ⟨rooted, front, last, hs, -⟩ := exists_pathText h
    exact ⟨.plain rooted front last, hs⟩
  | verbatim s => cases h
  | generic base args =>
    simp only [isPath, Bool.and_eq_true] at h
    obtain ⟨⟨hbase, hfree⟩, hargs⟩ := h
    obtain ⟨rooted, front, last, hs, hlast⟩ := exists_pathText hbase
    rw [hlast] at hfree
    obtain ⟨n, hn⟩ := exists_name hfree
    have hn : last.word.text = n.word.text := hn
    obtain ⟨ps, hps⟩ := exists_pathTypes hargs
    rw [source]
    generalize hsources : sourceAll args = sources at hps
    cases hps with
    | nil => exact ⟨.plain rooted front last, hs⟩
    | @cons d p ds ps hp hps =>
      refine ⟨.applied rooted front n p ps, ?_⟩
      have hcommas := toList_commas hp hps
      rw [← PathType.textBehind_eq] at hcommas
      simp [applied, PathType.text, hs, pathText, hn, hcommas]

theorem exists_pathTypes {ts : List TypeRef} (h : arePaths ts = true) :
    ∃ ps : List PathType,
      List.Forall₂ (fun (s : String) p => s.toList = PathType.text p) (sourceAll ts) ps := by
  match ts with
  | [] => exact ⟨[], .nil⟩
  | t :: ts =>
    simp only [arePaths, Bool.and_eq_true] at h
    obtain ⟨p, hp⟩ := exists_pathType h.1
    obtain ⟨ps, hps⟩ := exists_pathTypes h.2
    exact ⟨p :: ps, .cons hp hps⟩

end

end TypeRef

theorem exists_forall₂ {α β : Type} {R : α → β → Prop} {xs : List α}
    (h : ∀ x ∈ xs, ∃ y, R x y) : ∃ ys, List.Forall₂ R xs ys := by
  induction xs with
  | nil => exact ⟨[], .nil⟩
  | cons x xs ih =>
    obtain ⟨hx, hxs⟩ := List.forall_mem_cons.1 h
    obtain ⟨y, hy⟩ := hx
    obtain ⟨ys, hys⟩ := ih hxs
    exact ⟨y :: ys, .cons hy hys⟩

/-- Whether the names of a field and its accessors are names to the lexer and its type is a path. -/
def Field.isReadable (f : Field) : Bool :=
  isNameText (Names.safe f.name) && f.type.isPath &&
    isNameText (Accessor.methodName .getter f.name) &&
    isNameText (Accessor.methodName .setter f.name)

theorem Field.exists_writtenWith {f : Field} (h : f.isReadable = true) :
    ∃ s, f.WrittenWith s := by
  simp only [isReadable, Bool.and_eq_true] at h
  obtain ⟨⟨⟨hname, htype⟩, hgetter⟩, hsetter⟩ := h
  obtain ⟨name, hname⟩ := exists_name hname
  obtain ⟨type, htype⟩ := TypeRef.exists_pathType htype
  obtain ⟨getter, hgetter⟩ := exists_name hgetter
  obtain ⟨setter, hsetter⟩ := exists_name hsetter
  exact ⟨⟨name, type, getter, setter⟩, hname, htype, hgetter, hsetter⟩

/-- Whether all names that the files of a companion hold are names to the lexer, and the types of
its fields and what it derives are paths. -/
def isReadable (derives : List String) (a : Namespace × Companion) : Bool :=
  (a.1.segments.map Names.safe).all isNameText &&
    ((Names.directories a.1).map Names.safe).all isNameText &&
    isNameText a.2.name && isNameText (Names.safe (Names.moduleOf a.2.name)) &&
    derives.all (fun d => (pathNames d).all isPathNameText) && a.2.fields.all Field.isReadable

theorem Companion.exists_writtenWith {derives : List String} {a : Namespace × Companion}
    (h : isReadable derives a = true) : ∃ s, a.2.WrittenWith a.1 derives s := by
  simp only [isReadable, Bool.and_eq_true, List.all_eq_true] at h
  obtain ⟨⟨⟨⟨⟨hspace, -⟩, hname⟩, -⟩, hderives⟩, hfields⟩ := h
  obtain ⟨space, hspace⟩ := exists_names (List.all_eq_true.2 hspace)
  obtain ⟨name, hname⟩ := exists_name hname
  obtain ⟨paths, hpaths⟩ := exists_forall₂ (R := fun (d : String) p => d.toList = PlainPath.text p)
    fun d hd => by
      obtain ⟨rooted, front, last, htext, -⟩ := exists_pathText (List.all_eq_true.2 (hderives d hd))
      exact ⟨⟨rooted, front, last⟩, htext⟩
  obtain ⟨fields, hfields⟩ := exists_forall₂ fun f hf => Field.exists_writtenWith (hfields f hf)
  exact ⟨⟨space, paths, name, fields⟩, hspace, hpaths, hname, hfields⟩

theorem accessors_of_mem_accepted {ds : List Declaration} {a : Namespace × Companion}
    (h : a ∈ accepted ds) : a.2.accessors = accessorsOf a.2.fields := by
  obtain ⟨d, -, hd, -⟩ := mem_accepted.1 h
  rw [(companion_eq_ok hd).1]

theorem mem_modules_of_mem_dirs {as : List (Namespace × Companion)} {e : Path × List String}
    (he : e ∈ (modulesOf as .empty).dirs) {n : String} (hn : n ∈ e.2) :
    ∃ a ∈ as, n ∈ Names.directories a.1 ∨ n = Names.moduleOf a.2.name := by
  have hlists : ModuleTree.Lists (modulesOf as .empty).dirs e.1.components n := ⟨e, he, rfl, hn⟩
  rw [ModuleTree.modulesOf_eq_insertAll] at hlists
  obtain ⟨_, he, -⟩ | ⟨x, hx, p, hp, -⟩ := ModuleTree.lists_insertAll.1 hlists
  · cases he
  · obtain ⟨a, ha, rfl⟩ := List.mem_map.1 hx
    refine ⟨a, ha, ?_⟩
    obtain hp | ⟨-, hp⟩ := hp
    · exact .inl (hp.subset (by simp))
    · exact .inr hp

theorem declaresNothing_roundFiles {options : RenderOptions} {marker : String}
    (hmarker : marker ∉ ["allow", "derive"]) {ds : List Declaration}
    (h : ∀ a ∈ accepted ds, isReadable options.derives a = true) :
    ∀ f ∈ roundFiles options (accepted ds), DeclaresNothing marker f.content := by
  intro f hf
  rcases List.mem_append.1 hf with hf | hf
  · obtain ⟨a, ha, rfl⟩ := List.mem_map.1 hf
    obtain ⟨s, hs⟩ := Companion.exists_writtenWith (h a ha)
    exact declaresNothing_companionText hs (accessors_of_mem_accepted ha) hmarker
  · obtain ⟨e, he, rfl⟩ := List.mem_map.1 hf
    have hall : (e.2.map Names.safe).all isNameText = true := by
      refine List.all_eq_true.2 fun _ hm => ?_
      obtain ⟨m, hm', rfl⟩ := List.mem_map.1 hm
      obtain ⟨a, ha, hname⟩ := mem_modules_of_mem_dirs he hm'
      have hreadable := h a ha
      simp only [isReadable, Bool.and_eq_true, List.all_eq_true, List.mem_map] at hreadable
      obtain ⟨⟨⟨⟨⟨-, hdirs⟩, -⟩, hmodule⟩, -⟩, -⟩ := hreadable
      rcases hname with hdir | rfl
      · exact hdirs _ ⟨m, hdir, rfl⟩
      · exact hmodule
    obtain ⟨names, hnames⟩ := exists_names hall
    exact declaresNothing_fileText hnames marker

end AccessorGen
