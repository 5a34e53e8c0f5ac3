import AccessorGen.Proofs.Output.RoundFiles
import AccessorGen.Proofs.Text.Words

/-! Where the files of a round lie. A companion lies in the directories of its namespace; a module
file lies in each of them, and wherever one lies, a companion is below it. The parts of these paths
are walked one by one from the output directory, as long as no part holds a slash. -/

namespace AccessorGen

namespace Path

theorem place_eq_of_same {p q : Path} (h : p.same q = true) (start : Place) :
    p.place start = q.place start := by
  have hc : p.components = q.components := by simpa [same] using h
  rw [place, place, hc]

theorem empty_join (p : Path) : (⟨""⟩ : Path).join p = p := by
  simp [join, joinChars]

theorem isRelative_push {p : Path} (hp : p.IsRelative) {s : String} (hs : '/' ∉ s.toList) :
    (p.push s).IsRelative := by
  have hhead : s.toList.head? ≠ some '/' := fun e => hs (List.mem_of_mem_head? e)
  unfold IsRelative at hp ⊢
  rw [push, toList_join, joinChars, if_neg hhead]
  cases h : p.text.toList with
  | nil => simpa [h] using hhead
  | cons c r =>
    rw [h] at hp
    split <;> simpa using hp

theorem place_pushAll {ss : List String} (h : ∀ s ∈ ss, '/' ∉ s.toList) (p : Path)
    (start : Place) :
    (ss.foldl push p).place start = along (p.place start) (ss.map String.toList) := by
  induction ss generalizing p with
  | nil => rfl
  | cons s ss ih =>
    rw [List.foldl_cons, ih (fun q hq => h q (by simp [hq])), place_push (h s (by simp)),
      List.map_cons, along_cons _ s.toList (ss.map String.toList)]

theorem isRelative_pushAll {ss : List String} (h : ∀ s ∈ ss, '/' ∉ s.toList) {p : Path}
    (hp : p.IsRelative) : (ss.foldl push p).IsRelative := by
  induction ss generalizing p with
  | nil => exact hp
  | cons s ss ih =>
    exact ih (fun q hq => h q (by simp [hq])) (isRelative_push hp (h s (by simp)))

theorem isRelative_ofSegments {ss : List String} (h : ∀ s ∈ ss, '/' ∉ s.toList) :
    (ofSegments ss).IsRelative :=
  isRelative_pushAll h (by simp [IsRelative])

theorem place_ofSegments {ss : List String} (h : ∀ s ∈ ss, '/' ∉ s.toList) (start : Place) :
    (ofSegments ss).place start = along start (ss.map String.toList) :=
  place_pushAll h ⟨""⟩ start

theorem place_below {ss : List String} (h : ∀ s ∈ ss, '/' ∉ s.toList) {file : String}
    (hfile : '/' ∉ file.toList) (hname : IsName file.toList) (output : Path) (start : Place) :
    (output.join ((ofSegments ss).push file)).place start =
      along (output.place start) (ss.map String.toList) ++ [file] := by
  rw [place_join (isRelative_push (isRelative_ofSegments h) hfile), place_push hfile,
    place_ofSegments h, along_name hname, String.ofList_toList]

end Path

def SlashFree (a : Namespace × Companion) : Prop :=
  (∀ s ∈ a.1.segments, '/' ∉ s.toList) ∧ '/' ∉ a.2.sourceName.toList

theorem slash_not_mem_directories {ns : Namespace} (h : ∀ s ∈ ns.segments, '/' ∉ s.toList) :
    ∀ s ∈ Names.directories ns, '/' ∉ s.toList := by
  intro s hs hslash
  obtain ⟨w, hw, rfl⟩ := List.mem_map.1 hs
  rw [Text.toList_plainWord, Text.without] at hslash
  split at hslash
  · exact h w hw (List.mem_of_mem_drop hslash)
  · exact h w hw hslash

theorem slash_not_mem_fileOf {c : Companion} (h : '/' ∉ c.sourceName.toList) :
    '/' ∉ (Names.fileOf c.name).toList := by
  have hname : '/' ∉ c.name.toList := by simpa [Companion.name, Companion.nameFor] using h
  rw [Names.fileOf, String.toList_append, List.mem_append, not_or]
  exact ⟨Text.slash_not_mem_snakeCase hname, by decide⟩

theorem isName_of_ending {s : List Char} (h : s.getLast? = some 's') : IsName s := by
  refine ⟨?_, ?_, ?_⟩ <;> rintro rfl <;> revert h <;> decide

theorem isName_fileOf (c : String) : IsName (Names.fileOf c).toList :=
  isName_of_ending (by simp [Names.fileOf])

def companionPlace (output : Place) (a : Namespace × Companion) : Place :=
  along output ((Names.directories a.1).map String.toList) ++ [Names.fileOf a.2.name]

theorem place_companionPath {a : Namespace × Companion} (h : SlashFree a) (output : Path)
    (start : Place) : (output.join (Render.companionPath a.1 a.2)).place start =
      companionPlace (output.place start) a :=
  Path.place_below (slash_not_mem_directories h.1) (slash_not_mem_fileOf h.2)
    (isName_fileOf _) output start

namespace ModuleTree

def paths (t : ModuleTree) : List Path := t.dirs.map Prod.fst

theorem forall_declareIn {P : Path × List String → Prop} {dir : Path} {name : String}
    (hnew : P (dir, [name])) (hadd : ∀ d names, P (d, names) → P (d, addName name names))
    {l : List (Path × List String)} (h : ∀ e ∈ l, P e) : ∀ e ∈ declareIn dir name l, P e := by
  induction l with
  | nil => exact List.forall_mem_singleton.2 hnew
  | cons e l ih =>
    obtain ⟨d, names⟩ := e
    obtain ⟨hfirst, hrest⟩ := List.forall_mem_cons.1 h
    unfold declareIn
    split
    · exact List.forall_mem_cons.2 ⟨hadd d names hfirst, hrest⟩
    · split
      · exact List.forall_mem_cons.2 ⟨hnew, h⟩
      · exact List.forall_mem_cons.2 ⟨hfirst, ih hrest⟩

theorem fst_declareIn (dir : Path) (name : String) (l : List (Path × List String)) :
    ∀ d ∈ (declareIn dir name l).map Prod.fst, d = dir ∨ d ∈ l.map Prod.fst := by
  intro d hd
  obtain ⟨e, he, rfl⟩ := List.mem_map.1 hd
  exact forall_declareIn (P := fun e => e.1 = dir ∨ e.1 ∈ l.map Prod.fst) (.inl rfl)
    (fun _ _ h => h) (fun _ he => .inr (List.mem_map_of_mem he)) e he

theorem declareIn_covers (dir : Path) (name : String) (l : List (Path × List String)) :
    (∀ d ∈ l.map Prod.fst, d ∈ (declareIn dir name l).map Prod.fst) ∧
    ∃ d ∈ (declareIn dir name l).map Prod.fst, dir.same d = true := by
  induction l with
  | nil => exact ⟨by simp, dir, by simp [declareIn], by simp [Path.same]⟩
  | cons e l ih =>
    obtain ⟨d, names⟩ := e
    obtain ⟨hall, x, hx, hsame⟩ := ih
    unfold declareIn
    split
    next h => exact ⟨fun _ hd => hd, d, by simp, h⟩
    · split
      · exact ⟨fun _ hd => List.mem_cons_of_mem _ hd, dir, by simp, by simp [Path.same]⟩
      · refine ⟨fun y hy => ?_, x, List.mem_cons_of_mem _ hx, hsame⟩
        rcases List.mem_cons.1 hy with rfl | hy
        · exact List.mem_cons_self
        · exact List.mem_cons_of_mem _ (hall y hy)

theorem withoutRawMark_eq (segment : String) : withoutRawMark segment = Text.plainWord segment := by
  rw [withoutRawMark, Text.plainWord, Text.without]
  split
  · next rest h => simp [h]
  · next hraw =>
    rw [if_neg, String.ofList_toList]
    intro h
    obtain ⟨rest, hrest⟩ := List.isPrefixOf_iff_prefix.1 h
    exact hraw rest hrest.symm

def declareAlong (module : String) : List String → Path → ModuleTree → ModuleTree
  | [], dir, t => t.declare dir module
  | s :: ss, dir, t => declareAlong module ss (dir.push s) (t.declare dir s)

theorem insert_eq (t : ModuleTree) (ns : Namespace) (companion : String) :
    t.insert ns companion =
      declareAlong (Names.moduleOf companion) (Names.directories ns) ⟨""⟩ t := by
  have hdown (ss : List String) (dir : Path) (t : ModuleTree) : insertAlong companion ss dir t =
      declareAlong (Names.moduleOf companion) (ss.map Text.plainWord) dir t := by
    induction ss generalizing dir t with
    | nil => rfl
    | cons s ss ih => rw [insertAlong, List.map_cons, declareAlong, ih, withoutRawMark_eq]
  exact hdown ns.segments ⟨""⟩ t

theorem paths_declareAlong (module : String) (ss : List String) (dir : Path) (t : ModuleTree) :
    ∀ d ∈ (declareAlong module ss dir t).paths,
      d ∈ t.paths ∨ ∃ p, p <+: ss ∧ d = p.foldl Path.push dir := by
  induction ss generalizing dir t with
  | nil =>
    intro d hd
    exact (fst_declareIn dir module t.dirs d hd).symm.imp_right fun e =>
      ⟨[], List.nil_prefix, e⟩
  | cons s ss ih =>
    intro d hd
    obtain hd | ⟨p, hp, rfl⟩ := ih (dir.push s) (t.declare dir s) d hd
    · exact (fst_declareIn dir s t.dirs d hd).symm.imp_right fun e => ⟨[], List.nil_prefix, e⟩
    · exact .inr ⟨s :: p, List.cons_prefix_cons.2 ⟨rfl, hp⟩, rfl⟩

theorem declareAlong_covers (module : String) (ss : List String) (dir : Path) (t : ModuleTree) :
    (∀ d ∈ t.paths, d ∈ (declareAlong module ss dir t).paths) ∧
    ∀ p, p <+: ss → ∃ d ∈ (declareAlong module ss dir t).paths,
      (p.foldl Path.push dir).same d = true := by
  induction ss generalizing dir t with
  | nil =>
    obtain ⟨hall, hdir⟩ := declareIn_covers dir module t.dirs
    refine ⟨hall, fun p hp => ?_⟩
    rw [List.prefix_nil.1 hp]
    exact hdir
  | cons s ss ih =>
    obtain ⟨hall, hdir⟩ := declareIn_covers dir s t.dirs
    obtain ⟨hkeep, hbelow⟩ := ih (dir.push s) (t.declare dir s)
    refine ⟨fun d hd => hkeep d (hall d hd), fun p hp => ?_⟩
    cases p with
    | nil =>
      obtain ⟨d, hd, hsame⟩ := hdir
      exact ⟨d, hkeep d hd, hsame⟩
    | cons u p =>
      obtain ⟨rfl, hp'⟩ := List.cons_prefix_cons.1 hp
      exact hbelow p hp'

/-- A tree after insertions one after another. -/
def insertAll (xs : List (Namespace × String)) (t : ModuleTree) : ModuleTree :=
  xs.foldl (fun t x => t.insert x.1 x.2) t

@[simp] theorem insertAll_nil (t : ModuleTree) : insertAll [] t = t := rfl

@[simp] theorem insertAll_cons (x : Namespace × String) (xs : List (Namespace × String))
    (t : ModuleTree) : insertAll (x :: xs) t = insertAll xs (t.insert x.1 x.2) := rfl

theorem modulesOf_eq_insertAll (as : List (Namespace × Companion)) (t : ModuleTree) :
    modulesOf as t = insertAll (as.map fun a => (a.1, a.2.name)) t := by
  rw [insertAll, List.foldl_map]
  rfl

theorem paths_insertAll (xs : List (Namespace × String)) (t : ModuleTree) :
    ∀ d ∈ (insertAll xs t).paths, d ∈ t.paths ∨
      ∃ x ∈ xs, ∃ p, p <+: Names.directories x.1 ∧ d = Path.ofSegments p := by
  induction xs generalizing t with
  | nil => exact fun d hd => .inl hd
  | cons x xs ih =>
    intro d hd
    obtain hd | ⟨y, hy, h⟩ := ih (t.insert x.1 x.2) d hd
    · rw [insert_eq] at hd
      obtain hd | h := paths_declareAlong _ _ _ _ d hd
      · exact .inl hd
      · exact .inr ⟨x, by simp, h⟩
    · exact .inr ⟨y, by simp [hy], h⟩

theorem exists_of_mem_insertAll {xs : List (Namespace × String)} {d : Path}
    (hd : d ∈ (insertAll xs .empty).paths) :
    ∃ x ∈ xs, ∃ p, p <+: Names.directories x.1 ∧ d = Path.ofSegments p :=
  (paths_insertAll xs .empty d hd).resolve_left (by simp [paths, empty])

theorem insertAll_covers (xs : List (Namespace × String)) (t : ModuleTree) :
    (∀ d ∈ t.paths, d ∈ (insertAll xs t).paths) ∧
    ∀ x ∈ xs, ∀ p, p <+: Names.directories x.1 →
      ∃ d ∈ (insertAll xs t).paths, (Path.ofSegments p).same d = true := by
  induction xs generalizing t with
  | nil => exact ⟨fun d hd => hd, by simp⟩
  | cons x xs ih =>
    obtain ⟨hkeep, hrest⟩ := ih (t.insert x.1 x.2)
    obtain ⟨hall, hhere⟩ := declareAlong_covers (Names.moduleOf x.2)
      (Names.directories x.1) ⟨""⟩ t
    rw [← insert_eq] at hall hhere
    refine ⟨fun d hd => hkeep d (hall d hd), fun y hy p hp => ?_⟩
    rcases List.mem_cons.1 hy with rfl | hy
    · obtain ⟨d, hd, hsame⟩ := hhere p hp
      exact ⟨d, hkeep d hd, hsame⟩
    · exact hrest y hy p hp

theorem exists_of_mem_modulesOf {as : List (Namespace × Companion)} {d : Path}
    (hd : d ∈ (modulesOf as .empty).paths) :
    ∃ a ∈ as, ∃ p, p <+: Names.directories a.1 ∧ d = Path.ofSegments p := by
  rw [modulesOf_eq_insertAll] at hd
  simpa using exists_of_mem_insertAll hd

theorem modulesOf_covers (as : List (Namespace × Companion)) (t : ModuleTree) :
    (∀ d ∈ t.paths, d ∈ (modulesOf as t).paths) ∧
    ∀ a ∈ as, ∀ p, p <+: Names.directories a.1 →
      ∃ d ∈ (modulesOf as t).paths, (Path.ofSegments p).same d = true := by
  rw [modulesOf_eq_insertAll]
  obtain ⟨hkeep, hall⟩ := insertAll_covers (as.map fun a => (a.1, a.2.name)) t
  exact ⟨hkeep, fun a ha => hall (a.1, a.2.name) (List.mem_map_of_mem ha)⟩

end ModuleTree

def modulePlace (output : Place) (dirs : List String) : Place :=
  along output (dirs.map String.toList) ++ ["mod.rs"]

theorem place_filePath {dirs : List String} (h : ∀ s ∈ dirs, '/' ∉ s.toList) (output : Path)
    (start : Place) :
    (output.join (ModuleTree.filePath (Path.ofSegments dirs))).place start =
      modulePlace (output.place start) dirs :=
  Path.place_below h (by decide) (isName_of_ending (by decide)) output start

theorem prefix_slashFree {ns : Namespace} (h : ∀ s ∈ ns.segments, '/' ∉ s.toList)
    {p : List String} (hp : p <+: Names.directories ns) : ∀ s ∈ p, '/' ∉ s.toList :=
  fun s hs => slash_not_mem_directories h s (hp.subset hs)

section Files

variable {as : List (Namespace × Companion)} (h : ∀ a ∈ as, SlashFree a) (output : Path)
  (start : Place)

include h

theorem place_of_mem_files {f : OutputFile} (hf : f ∈ (modulesOf as .empty).files) :
    ∃ a ∈ as, ∃ p, p <+: Names.directories a.1 ∧
      (output.join f.path).place start = modulePlace (output.place start) p := by
  obtain ⟨⟨dir, names⟩, he, rfl⟩ := List.mem_map.1 hf
  have hdir : dir ∈ (modulesOf as .empty).paths := List.mem_map_of_mem he
  obtain ⟨a, ha, p, hp, rfl⟩ := ModuleTree.exists_of_mem_modulesOf hdir
  exact ⟨a, ha, p, hp, place_filePath (prefix_slashFree (h a ha).1 hp) output start⟩

theorem exists_mem_files {a : Namespace × Companion} (ha : a ∈ as) {p : List String}
    (hp : p <+: Names.directories a.1) :
    ∃ f ∈ (modulesOf as .empty).files,
      (output.join f.path).place start = modulePlace (output.place start) p := by
  obtain ⟨d, hd, hsame⟩ := (ModuleTree.modulesOf_covers as .empty).2 a ha p hp
  obtain ⟨b, hb, q, hq, hdir⟩ := ModuleTree.exists_of_mem_modulesOf hd
  obtain ⟨⟨dir, names⟩, he, rfl⟩ := List.mem_map.1 hd
  refine ⟨_, List.mem_map.2 ⟨_, he, rfl⟩, ?_⟩
  dsimp only at hdir hsame ⊢
  have hplace := Path.place_eq_of_same hsame (output.place start)
  rw [Path.place_ofSegments (prefix_slashFree (h a ha).1 hp), hdir,
    Path.place_ofSegments (prefix_slashFree (h b hb).1 hq)] at hplace
  rw [hdir, place_filePath (prefix_slashFree (h b hb).1 hq), modulePlace, modulePlace, hplace]

end Files

end AccessorGen
