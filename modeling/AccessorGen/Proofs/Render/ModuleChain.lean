import AccessorGen.Proofs.File.Components
import AccessorGen.Proofs.File.Order
import AccessorGen.Proofs.Output.Places
import AccessorGen.Proofs.Render.ModuleText

/-! The chain of module files. Whatever companions a tree has taken in, its module files lead from
the root to each of them and to nothing else: a directory has a module file exactly when it lies on
the way to a companion, the file declares the companions of the directory and the next directory on
each way, and a directory comes before all that lies below it. -/

namespace AccessorGen

theorem isEntryName_of_isIdentifier {s : String} (h : Text.isIdentifier s = true) :
    isEntryName s = true := by
  have hdot : '.' ∉ s.toList := Text.not_mem_of_isIdentifier h (by decide)
  have hslash : '/' ∉ s.toList := Text.not_mem_of_isIdentifier h (by decide)
  have hone : s.toList ≠ ['.'] := fun e => hdot (by simp [e])
  have htwo : s.toList ≠ ['.', '.'] := fun e => hdot (by simp [e])
  simp [isEntryName, Text.toList_ne_nil_of_isIdentifier h, hone, htwo, hslash]

namespace Path

theorem components_ofSegments {ss : List String} (h : ∀ s ∈ ss, isEntryName s = true) :
    (ofSegments ss).components = ss.map fun s => .name s.toList :=
  components_pushAll h ⟨""⟩

theorem ofSegments_append (ss : List String) (s : String) :
    ofSegments (ss ++ [s]) = (ofSegments ss).push s := by
  simp [ofSegments, List.foldl_append]

theorem same_ofSegments_iff {ps qs : List String} (hp : ∀ s ∈ ps, isEntryName s = true)
    (hq : ∀ s ∈ qs, isEntryName s = true) :
    (ofSegments ps).same (ofSegments qs) = true ↔ ps = qs := by
  have hinj : Function.Injective fun s : String => Component.name s.toList :=
    fun s u h => String.toList_injective (Component.name.inj h)
  rw [same_iff_components, components_ofSegments hp, components_ofSegments hq,
    hinj.list_map.eq_iff]

end Path

namespace ModuleTree

def Lists (l : List (Path × List String)) (cs : List Component) (name : String) : Prop :=
  ∃ e ∈ l, e.1.components = cs ∧ name ∈ e.2

theorem mem_addName {m n : String} {ns : List String} : m ∈ addName n ns ↔ m = n ∨ m ∈ ns := by
  induction ns with
  | nil => simp [addName]
  | cons k ns ih =>
    unfold addName
    split
    next h =>
      subst h
      simp
    next h =>
      split
      · simp
      · simp [ih, or_left_comm]

theorem lists_declareIn {dir : Path} {name n : String} {l : List (Path × List String)}
    {cs : List Component} :
    Lists (declareIn dir name l) cs n ↔ (dir.components = cs ∧ n = name) ∨ Lists l cs n := by
  induction l with
  | nil => simp [Lists, declareIn]
  | cons e l ih =>
    obtain ⟨d, names⟩ := e
    unfold declareIn
    split
    next h =>
      simp only [Lists, List.mem_cons, exists_eq_or_imp, mem_addName,
        Path.same_iff_components.1 h, and_or_left, or_assoc]
    next h =>
      split
      · simp [Lists]
      · simp only [Lists, List.mem_cons, exists_eq_or_imp] at ih ⊢
        rw [ih]
        exact or_left_comm

def Before (a b : Path × List String) : Prop := a.1.le b.1 = true ∧ ¬a.1.same b.1 = true

theorem Before.trans {a b c : Path × List String} (h : Before a b) (k : Before b c) :
    Before a c := by
  refine ⟨Path.le_trans h.1 k.1, fun hac => k.2 (Path.same_of_le_of_le k.1 ?_)⟩
  rw [Path.le, ← Path.same_iff_components.1 hac]
  exact h.1

theorem pairwise_declareIn (dir : Path) (name : String) {l : List (Path × List String)}
    (h : l.Pairwise Before) : (declareIn dir name l).Pairwise Before := by
  induction l with
  | nil => simp [declareIn]
  | cons e l ih =>
    obtain ⟨d, names⟩ := e
    obtain ⟨hfirst, hrest⟩ := List.pairwise_cons.1 h
    -- The directory is the first, comes before the first, or belongs to the rest.
    unfold declareIn
    split
    next hsame => exact List.pairwise_cons.2 ⟨hfirst, hrest⟩
    next hsame =>
      split
      next hle =>
        refine List.pairwise_cons.2 ⟨fun x hx => ?_, h⟩
        have hnew : Before (dir, [name]) (d, names) := ⟨hle, hsame⟩
        rcases List.mem_cons.1 hx with rfl | hx
        · exact hnew
        · exact hnew.trans (hfirst x hx)
      next hle =>
        refine List.pairwise_cons.2 ⟨fun x hx => ?_, ih hrest⟩
        obtain hx | hx := fst_declareIn dir name l x.1 (List.mem_map_of_mem hx)
        · refine ⟨?_, fun hd => hsame ?_⟩
          · rw [hx]
            exact (Path.le_total dir d).resolve_left hle
          · rw [Path.same_iff_components] at hd ⊢
            rw [← hx]
            exact hd.symm
        · obtain ⟨y, hy, hxy⟩ := List.mem_map.1 hx
          rw [Before, ← hxy]
          exact hfirst y hy

theorem addName_ne_nil (name : String) (ns : List String) : addName name ns ≠ [] :=
  List.ne_nil_of_mem (mem_addName.2 (.inl rfl) : name ∈ addName name ns)

structure Ordered (t : ModuleTree) : Prop where
  before : t.dirs.Pairwise Before
  inhabited : ∀ e ∈ t.dirs, e.2 ≠ []

section Keeps

variable {P : ModuleTree → Prop} (hkeep : ∀ t dir name, P t → P (declare t dir name))

include hkeep

theorem declareAlong_keeps {t : ModuleTree} (h : P t) (module : String) (ss : List String)
    (dir : Path) : P (declareAlong module ss dir t) := by
  induction ss generalizing dir t with
  | nil => exact hkeep t dir module h
  | cons s ss ih => exact ih (hkeep t dir s h) (dir.push s)

theorem insertAll_keeps {t : ModuleTree} (h : P t) (xs : List (Namespace × String)) :
    P (insertAll xs t) := by
  induction xs generalizing t with
  | nil => exact h
  | cons x xs ih =>
    have hinsert : P (t.insert x.1 x.2) := by
      rw [insert_eq]
      exact declareAlong_keeps hkeep h _ _ _
    exact ih hinsert

end Keeps

theorem Ordered.insertAll {t : ModuleTree} (h : t.Ordered) (xs : List (Namespace × String)) :
    (insertAll xs t).Ordered :=
  insertAll_keeps (fun _ dir name h => ⟨pairwise_declareIn dir name h.before,
    forall_declareIn (by simp) (fun _ names _ => addName_ne_nil name names) h.inhabited⟩) h xs

theorem ordered_empty : empty.Ordered := ⟨.nil, by simp [empty]⟩

def Declares (module : String) (ss : List String) (p : List String) (n : String) : Prop :=
  p ++ [n] <+: ss ∨ (p = ss ∧ n = module)

theorem declares_cons {module s n : String} {ss p : List String} :
    Declares module (s :: ss) p n ↔
      (p = [] ∧ n = s) ∨ ∃ q, p = s :: q ∧ Declares module ss q n := by
  cases p with
  | nil => simp [Declares]
  | cons u p =>
    simp only [Declares, List.cons_append, List.cons_prefix_cons, List.cons.injEq]
    constructor
    · rintro (⟨rfl, h⟩ | ⟨⟨rfl, rfl⟩, h⟩)
      · exact .inr ⟨p, ⟨rfl, rfl⟩, .inl h⟩
      · exact .inr ⟨p, ⟨rfl, rfl⟩, .inr ⟨rfl, h⟩⟩
    · rintro (⟨h, -⟩ | ⟨q, ⟨rfl, rfl⟩, h | ⟨rfl, h⟩⟩)
      · cases h
      · exact .inl ⟨rfl, h⟩
      · exact .inr ⟨⟨rfl, rfl⟩, h⟩

theorem lists_declareAlong {module n : String} {ss : List String} {dir : Path} {t : ModuleTree}
    {cs : List Component} :
    Lists (declareAlong module ss dir t).dirs cs n ↔ Lists t.dirs cs n ∨
      ∃ p, Declares module ss p n ∧ (p.foldl Path.push dir).components = cs := by
  induction ss generalizing dir t with
  | nil =>
    rw [declareAlong, declare, lists_declareIn, or_comm]
    refine or_congr_right ⟨?_, ?_⟩
    · rintro ⟨hcs, hn⟩
      exact ⟨[], .inr ⟨rfl, hn⟩, hcs⟩
    · rintro ⟨p, h | ⟨rfl, hn⟩, hcs⟩
      · simp at h
      · exact ⟨hcs, hn⟩
  | cons s ss ih =>
    rw [declareAlong, ih, declare, lists_declareIn, or_comm (a := _ ∧ _), or_assoc]
    refine or_congr_right ⟨?_, ?_⟩
    · rintro (⟨hcs, rfl⟩ | ⟨p, hp, hcs⟩)
      · exact ⟨[], declares_cons.2 (.inl ⟨rfl, rfl⟩), hcs⟩
      · exact ⟨s :: p, declares_cons.2 (.inr ⟨p, rfl, hp⟩), hcs⟩
    · rintro ⟨p, hp, hcs⟩
      obtain ⟨rfl, rfl⟩ | ⟨q, rfl, hq⟩ := declares_cons.1 hp
      · exact .inl ⟨hcs, rfl⟩
      · exact .inr ⟨q, hq, hcs⟩

theorem lists_insertAll {xs : List (Namespace × String)} {t : ModuleTree} {cs : List Component}
    {n : String} :
    Lists (insertAll xs t).dirs cs n ↔ Lists t.dirs cs n ∨
      ∃ x ∈ xs, ∃ p, Declares (Names.moduleOf x.2) (Names.directories x.1) p n ∧
        (Path.ofSegments p).components = cs := by
  induction xs generalizing t with
  | nil => simp
  | cons x xs ih =>
    rw [insertAll_cons, ih, insert_eq, lists_declareAlong, or_assoc]
    simp [Path.ofSegments]

/-- A namespace of identifiers, each perhaps with a raw mark, and an identifier. -/
def ProperInsertion (x : Namespace × String) : Prop :=
  (∀ s ∈ x.1.segments, Text.isIdentifier (Text.plainWord s) = true) ∧
    Text.isIdentifier x.2 = true

instance (x : Namespace × String) : Decidable (ProperInsertion x) :=
  inferInstanceAs (Decidable (_ ∧ _))

def modulesIn (fs : List OutputFile) (d : Path) : List String :=
  (fs.filter fun f => f.path.same (filePath d)).flatMap fun f => declaredModules f.content

def follow (fs : List OutputFile) : Path → List String → Option Path
  | d, [] => some d
  | d, s :: ss => if s ∈ modulesIn fs d then follow fs (d.push s) ss else none

theorem isModuleName_of_isIdentifier {s : String} (h : Text.isIdentifier s = true) :
    IsModuleName s :=
  ⟨Text.not_mem_of_isIdentifier h (by decide), Text.not_mem_of_isIdentifier h (by decide)⟩

theorem isModuleName_moduleOf {s : String} (h : Text.isIdentifier s = true) :
    IsModuleName (Names.moduleOf s) :=
  ⟨Text.not_mem_snakeCase (by decide) (by decide) (isModuleName_of_isIdentifier h).1,
    Text.not_mem_snakeCase (by decide) (by decide) (isModuleName_of_isIdentifier h).2⟩

theorem same_filePath_iff {d e : Path} :
    (filePath d).same (filePath e) = true ↔ d.components = e.components := by
  rw [Path.same_iff_components, filePath, filePath, Path.components_push (by decide),
    Path.components_push (by decide), List.append_left_inj]

section Proper

variable {xs : List (Namespace × String)} (h : ∀ x ∈ xs, ProperInsertion x)

include h

theorem isIdentifier_directory {x : Namespace × String} (hx : x ∈ xs) :
    ∀ s ∈ Names.directories x.1, Text.isIdentifier s = true := by
  intro s hs
  obtain ⟨w, hw, rfl⟩ := List.mem_map.1 hs
  exact (h x hx).1 w hw

theorem isEntryName_front {x : Namespace × String} (hx : x ∈ xs) {p : List String}
    (hp : p <+: Names.directories x.1) : ∀ s ∈ p, isEntryName s = true :=
  fun s hs => isEntryName_of_isIdentifier (isIdentifier_directory h hx s (hp.subset hs))

theorem isModuleName_of_lists {cs : List Component} {n : String}
    (hl : Lists (insertAll xs .empty).dirs cs n) : IsModuleName n := by
  obtain ⟨e, he, -⟩ | ⟨x, hx, p, hp | ⟨-, rfl⟩, -⟩ := lists_insertAll.1 hl
  · cases he
  · exact isModuleName_of_isIdentifier
      (isIdentifier_directory h hx n (hp.subset (List.mem_append_right p (by simp))))
  · exact isModuleName_moduleOf (h x hx).2

theorem declaredModules_of_mem {e : Path × List String} (he : e ∈ (insertAll xs .empty).dirs) :
    declaredModules (fileText e.2) = e.2 :=
  declaredModules_fileText ((ordered_empty.insertAll xs).inhabited e he)
    fun _ hn => isModuleName_of_lists h ⟨e, he, rfl, hn⟩

theorem mem_modulesIn_iff {d : Path} {n : String} :
    n ∈ modulesIn (insertAll xs .empty).files d ↔
      Lists (insertAll xs .empty).dirs d.components n := by
  simp only [modulesIn, files, List.mem_flatMap, List.mem_filter, List.mem_map]
  constructor
  · rintro ⟨f, ⟨⟨e, he, rfl⟩, hsame⟩, hn⟩
    rw [declaredModules_of_mem h he] at hn
    exact ⟨e, he, same_filePath_iff.1 hsame, hn⟩
  · rintro ⟨e, he, hcs, hn⟩
    refine ⟨_, ⟨⟨e, he, rfl⟩, same_filePath_iff.2 hcs⟩, ?_⟩
    rwa [declaredModules_of_mem h he]

theorem mem_modulesIn {x : Namespace × String} (hx : x ∈ xs) {p : List String} {n : String}
    (hd : Declares (Names.moduleOf x.2) (Names.directories x.1) p n) :
    n ∈ modulesIn (insertAll xs .empty).files (Path.ofSegments p) :=
  (mem_modulesIn_iff h).2 (lists_insertAll.2 (.inr ⟨x, hx, p, hd, rfl⟩))

theorem exists_of_mem_modulesIn {d : Path} {n : String}
    (hn : n ∈ modulesIn (insertAll xs .empty).files d) :
    ∃ x ∈ xs, ∃ p, d.same (Path.ofSegments p) = true ∧
      Declares (Names.moduleOf x.2) (Names.directories x.1) p n := by
  obtain ⟨e, he, -⟩ | ⟨x, hx, p, hd, hcs⟩ := lists_insertAll.1 ((mem_modulesIn_iff h).1 hn)
  · cases he
  · exact ⟨x, hx, p, Path.same_iff_components.2 hcs.symm, hd⟩

theorem follow_directories {x : Namespace × String} (hx : x ∈ xs) {p ss : List String}
    (hp : p ++ ss = Names.directories x.1) :
    follow (insertAll xs .empty).files (Path.ofSegments p) ss =
      some (Path.ofSegments (Names.directories x.1)) := by
  induction ss generalizing p with
  | nil => rw [follow, ← hp, List.append_nil]
  | cons s ss ih =>
    have hnext : p ++ [s] ++ ss = Names.directories x.1 := by simp [← hp]
    have hmem : s ∈ modulesIn (insertAll xs .empty).files (Path.ofSegments p) :=
      mem_modulesIn h hx (.inl ⟨ss, hnext⟩)
    rw [follow, if_pos hmem, ← Path.ofSegments_append]
    exact ih hnext

theorem mem_paths_iff {d : Path} : d ∈ (insertAll xs .empty).paths ↔
    ∃ x ∈ xs, ∃ p, p <+: Names.directories x.1 ∧ d = Path.ofSegments p := by
  constructor
  · exact exists_of_mem_insertAll
  · rintro ⟨x, hx, p, hp, rfl⟩
    obtain ⟨d, hd, hsame⟩ := (insertAll_covers xs .empty).2 x hx p hp
    obtain ⟨y, hy, q, hq, rfl⟩ := exists_of_mem_insertAll hd
    rwa [(Path.same_ofSegments_iff (isEntryName_front h hx hp)
      (isEntryName_front h hy hq)).1 hsame]

end Proper

theorem path_files (t : ModuleTree) : t.files.map OutputFile.path = t.paths.map filePath := by
  simp [files, paths, Function.comp_def]

theorem Ordered.parentsFirst {t : ModuleTree} (h : t.Ordered) :
    t.paths.Pairwise fun d e => ¬e.components <+: d.components := by
  refine List.pairwise_map.2 (h.before.imp fun {d e} hbefore hprefix => hbefore.2 ?_)
  exact Path.same_of_le_of_le hbefore.1 (Path.leList_of_prefix hprefix)

/-- What the module files of a tree say about the companions it has taken in. A later directory is
neither an earlier one again nor above it. -/
structure Chain (xs : List (Namespace × String)) (t : ModuleTree) : Prop where
  directories : ∀ d, d ∈ t.paths ↔
    ∃ x ∈ xs, ∃ p, p <+: Names.directories x.1 ∧ d = Path.ofSegments p
  reached : ∀ x ∈ xs,
    follow t.files ⟨""⟩ (Names.directories x.1) =
      some (Path.ofSegments (Names.directories x.1)) ∧
    Names.moduleOf x.2 ∈ modulesIn t.files (Path.ofSegments (Names.directories x.1)) ∧
    ∀ c : Companion, c.name = x.2 → Render.companionPath x.1 c =
      (Path.ofSegments (Names.directories x.1)).push (Names.moduleOf x.2 ++ ".rs")
  declared : ∀ d n, n ∈ modulesIn t.files d →
    ∃ x ∈ xs, ∃ p, d.same (Path.ofSegments p) = true ∧
      (p ++ [n] <+: Names.directories x.1 ∨ p = Names.directories x.1 ∧ n = Names.moduleOf x.2)
  files : t.files.map OutputFile.path = t.paths.map filePath
  parentsFirst : t.paths.Pairwise fun d e => ¬e.components <+: d.components

/-- The module files of a tree lead to exactly the companions that were inserted. -/
theorem chain_insertAll {xs : List (Namespace × String)} (h : ∀ x ∈ xs, ProperInsertion x) :
    Chain xs (insertAll xs .empty) where
  directories _ := mem_paths_iff h
  reached x hx := by
    refine ⟨follow_directories h hx (p := []) rfl, mem_modulesIn h hx (.inr ⟨rfl, rfl⟩), ?_⟩
    intro c hc
    rw [Render.companionPath, Names.fileOf, hc]
  declared _ _ hn := exists_of_mem_modulesIn h hn
  files := path_files _
  parentsFirst := (ordered_empty.insertAll xs).parentsFirst

/-- Two namespaces with a shared front, one segment of them reserved and raw. -/
theorem chain_lexer_type :
    Chain [(⟨["lexer", "r#type"]⟩, "TokenData"), (⟨["lexer"]⟩, "RuleData"), (.root, "MainData")]
      (insertAll [(⟨["lexer", "r#type"]⟩, "TokenData"), (⟨["lexer"]⟩, "RuleData"),
        (.root, "MainData")] .empty) :=
  chain_insertAll (by decide)

end ModuleTree

end AccessorGen
