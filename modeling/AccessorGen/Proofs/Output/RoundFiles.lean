import AccessorGen.Output.Directory
import AccessorGen.Proofs.File.Writing
import AccessorGen.Proofs.Round.Accepted
import Mathlib.Data.List.Perm.Basic

/-! The files of a round. A round below an output directory writes the file of every companion whose
write succeeds, in the order of the declarations, and then the module files of these companions;
when no write fails, it is the writing of one list of files. -/

namespace AccessorGen

/-- The modules that declare companions. -/
def modulesOf (as : List (Namespace × Companion)) (tree : ModuleTree) : ModuleTree :=
  as.foldl (fun tree a => tree.insert a.1 a.2.name) tree

@[simp] theorem modulesOf_nil (tree : ModuleTree) : modulesOf [] tree = tree := rfl

@[simp] theorem modulesOf_cons (a : Namespace × Companion) (as : List (Namespace × Companion))
    (tree : ModuleTree) :
    modulesOf (a :: as) tree = modulesOf as (tree.insert a.1 a.2.name) := rfl

def companionFiles (options : RenderOptions) (as : List (Namespace × Companion)) :
    List OutputFile :=
  as.map fun a => Render.companionFile a.1 a.2 options

theorem companionFiles_append (options : RenderOptions) (as bs : List (Namespace × Companion)) :
    companionFiles options (as ++ bs) = companionFiles options as ++ companionFiles options bs :=
  List.map_append

theorem companionFiles_cons (options : RenderOptions) (a : Namespace × Companion)
    (as : List (Namespace × Companion)) : companionFiles options (a :: as) =
      Render.companionFile a.1 a.2 options :: companionFiles options as := rfl

def roundFiles (options : RenderOptions) (as : List (Namespace × Companion)) : List OutputFile :=
  companionFiles options as ++ (modulesOf as .empty).files

def OutputFile.below (root : Path) (f : OutputFile) : OutputFile :=
  { f with path := root.join f.path }

namespace Directory

open OutputFile

def paths (d : Directory) : List Path := d.written ++ d.unchanged

theorem paths_record (d : Directory) (p : Path) (o : WriteOutcome) :
    (d.record p o).paths.Perm (d.paths ++ [p]) := by
  cases o with
  | written =>
    simp only [record, paths, List.append_assoc]
    have hswap : ([p] ++ d.unchanged).Perm (d.unchanged ++ [p]) := List.perm_append_comm
    exact hswap.append_left _
  | unchanged => simp [record, paths]

theorem put_ok {d e : Directory} {f : OutputFile} {t u : FileTree}
    (h : d.put f t = (.ok (), e, u)) : ∃ o, (f.below d.root).write t = (.ok o, u) ∧
      e = d.record (d.root.join f.path) o := by
  unfold put at h
  split at h
  next o v hw =>
    obtain ⟨-, h⟩ := Prod.mk.inj h
    obtain ⟨rfl, rfl⟩ := Prod.mk.inj h
    exact ⟨o, hw, rfl⟩
  · simp at h

theorem put_error {d e : Directory} {f : OutputFile} {t u : FileTree} {fault : WriteFault}
    (h : d.put f t = (.error fault, e, u)) : e = d := by
  unfold put at h
  split at h <;> simp_all

def SameBase (d e : Directory) : Prop := e.root = d.root ∧ e.options = d.options

theorem SameBase.trans {d e f : Directory} (h : SameBase d e) (k : SameBase e f) :
    SameBase d f := ⟨k.1.trans h.1, k.2.trans h.2⟩

theorem sameBase_record (d : Directory) (p : Path) (o : WriteOutcome) :
    SameBase d (d.record p o) := by
  cases o <;> exact ⟨rfl, rfl⟩

theorem modules_record (d : Directory) (p : Path) (o : WriteOutcome) :
    (d.record p o).modules = d.modules := by
  cases o <;> rfl

structure Holds (d : Directory) (done : List (Namespace × Companion)) (e : Directory) : Prop where
  base : SameBase d e
  modules : e.modules = modulesOf done d.modules
  paths : e.paths.Perm
    (d.paths ++ (companionFiles d.options done).map fun f => d.root.join f.path)

theorem Holds.nil (d : Directory) : Holds d [] d :=
  ⟨⟨rfl, rfl⟩, rfl, by simp [companionFiles]⟩

theorem Holds.cons {d e f : Directory} {a : Namespace × Companion}
    {done : List (Namespace × Companion)} (base : SameBase d e)
    (modules : e.modules = d.modules.insert a.1 a.2.name)
    (paths : e.paths.Perm (d.paths ++ [d.root.join (Render.companionPath a.1 a.2)]))
    (h : Holds e done f) : Holds d (a :: done) f := by
  refine ⟨base.trans h.base, ?_, ?_⟩
  · rw [h.modules, modules, modulesOf_cons]
  · refine h.paths.trans ?_
    rw [base.1, base.2]
    refine (paths.append_right _).trans ?_
    simp [companionFiles, Render.companionFile]

theorem writeCompanion_cases (d : Directory) (t : FileTree) (ns : Namespace) (c : Companion) :
    (∃ e u o, writeCompanion ns c (d, t) = (.ok (), e, u) ∧
      ((Render.companionFile ns c d.options).below d.root).write t = (.ok o, u) ∧
      SameBase d e ∧ e.modules = d.modules.insert ns c.name ∧
      e.paths.Perm (d.paths ++ [d.root.join (Render.companionPath ns c)])) ∨
    ∃ cause u, writeCompanion ns c (d, t) = (.error cause, d, u) := by
  cases hput : d.put (Render.companionFile ns c d.options) t with
  | mk r s =>
    obtain ⟨e, u⟩ := s
    cases r with
    | error fault =>
      obtain rfl := put_error hput
      exact .inr ⟨fault.message, u, by simp [writeCompanion, hput]⟩
    | ok _ =>
      obtain ⟨o, hw, rfl⟩ := put_ok hput
      let e := d.record (d.root.join (Render.companionFile ns c d.options).path) o
      have hwrite : writeCompanion ns c (d, t) =
          (.ok (), { e with modules := e.modules.insert ns c.name }, u) := by
        rw [writeCompanion, hput]
      refine .inl ⟨_, u, o, hwrite, hw, ?_, ?_, ?_⟩
      · exact sameBase_record d _ o
      · rw [modules_record]
      · exact paths_record d _ o

/-- The round keeps its books of the companions it has written; they are all accepted, and when no
write fails, they are all that are accepted, written one after another. -/
theorem process_holds (ds : List Declaration) (d : Directory) (t : FileTree) :
    ∃ done, done.Sublist (accepted ds) ∧ Holds d done (process sink ds (d, t)).2.2.1 ∧
      ((process sink ds (d, t)).1.failed = [] → done = accepted ds ∧
        WritesAll ((companionFiles d.options done).map (·.below d.root)) t
          (process sink ds (d, t)).2.2.2) := by
  induction ds generalizing d t with
  | nil => exact ⟨[], .slnil, .nil d, fun _ => ⟨rfl, .nil t⟩⟩
  | cons x ds ih =>
    cases hx : x.companion with
    | error cause =>
      obtain ⟨done, hsub, hold, hall⟩ := ih d t
      rw [process_cons (emit_of_error hx), accepted_cons_error hx]
      exact ⟨done, hsub, hold, fun hok => hall (List.append_eq_nil_iff.1 hok).2⟩
    | ok c =>
      rw [accepted_cons_ok hx]
      obtain ⟨e, u, o, hw, hfile, hbase, hmod, hpaths⟩ | ⟨cause, u, hw⟩ :=
        writeCompanion_cases d t x.space c
      · obtain ⟨done, hsub, hold, hall⟩ := ih e u
        rw [process_cons (emit_of_ok hx hw)]
        refine ⟨(x.space, c) :: done, hsub.cons_cons _, hold.cons hbase hmod hpaths, ?_⟩
        intro hok
        obtain ⟨rfl, hwrites⟩ := hall (List.append_eq_nil_iff.1 hok).2
        rw [hbase.1, hbase.2] at hwrites
        exact ⟨rfl, .cons hfile hwrites⟩
      · obtain ⟨done, hsub, hold, -⟩ := ih d u
        rw [process_cons (emit_of_refused hx hw)]
        refine ⟨done, hsub.cons _, hold, fun hok => ?_⟩
        exact absurd (List.append_eq_nil_iff.1 hok).1 (by simp [Declaration.outcome])

theorem putAll_writes (fs : List OutputFile) (d : Directory) (t : FileTree) :
    ∃ done, done <+: fs ∧
      (putAll fs d t).2.1.paths.Perm (d.paths ++ done.map fun f => d.root.join f.path) ∧
      ((putAll fs d t).1 = .ok () → done = fs ∧
        WritesAll (fs.map (·.below d.root)) t (putAll fs d t).2.2) := by
  induction fs generalizing d t with
  | nil => exact ⟨[], List.nil_prefix, by simp [putAll], fun _ => ⟨rfl, .nil t⟩⟩
  | cons f fs ih =>
    cases hput : d.put f t with
    | mk r s =>
      obtain ⟨e, u⟩ := s
      cases r with
      | error fault =>
        obtain rfl := put_error hput
        exact ⟨[], List.nil_prefix, by simp [putAll, hput], by simp [putAll, hput]⟩
      | ok _ =>
        obtain ⟨o, hw, rfl⟩ := put_ok hput
        obtain ⟨done, hpre, hpaths, hall⟩ := ih (d.record (d.root.join f.path) o) u
        rw [(sameBase_record d (d.root.join f.path) o).1] at hpaths hall
        refine ⟨f :: done, List.cons_prefix_cons.2 ⟨rfl, hpre⟩, ?_, ?_⟩
        · simp only [putAll, hput]
          refine hpaths.trans (((paths_record d _ o).append_right _).trans ?_)
          simp
        · intro hok
          simp only [putAll, hput] at hok ⊢
          obtain ⟨rfl, hwrites⟩ := hall hok
          exact ⟨rfl, .cons hw hwrites⟩

end Directory

/-- The directory a round begins with. -/
def Directory.start (options : RenderOptions) (output : Path) : Directory :=
  ⟨output, options, {}, [], []⟩

/-- No companion and no module file of the round fails to be written. -/
def RoundSucceeds (options : RenderOptions) (output : Path) (ds : List Declaration)
    (t : FileTree) : Prop :=
  (process Directory.sink ds (.start options output, t)).1.failed = [] ∧
  ((process Directory.sink ds (.start options output, t)).2.2.1.finish
    (process Directory.sink ds (.start options output, t)).2.2.2).1 = .ok ()

instance (options : RenderOptions) (output : Path) (ds : List Declaration) (t : FileTree) :
    Decidable (RoundSucceeds options output ds t) :=
  inferInstanceAs (Decidable (_ ∧ _))

theorem generateRound_eq (options : RenderOptions) (output : Path) (ds : List Declaration)
    (t : FileTree) :
    let round := process Directory.sink ds (.start options output, t)
    let ending := round.2.2.1.finish round.2.2.2
    (generateRound options output ds t).2 = ending.2.2 ∧
    (generateRound options output ds t).1.written = ending.2.1.written ∧
    (generateRound options output ds t).1.unchanged = ending.2.1.unchanged ∧
    (generateRound options output ds t).1.report = round.1 := by
  intro round ending
  have hround : process Directory.sink ds (.start options output, t) = round := rfl
  have hending : round.2.2.1.finish round.2.2.2 = ending := rfl
  clear_value ending round
  obtain ⟨report, diagnostics, d, u⟩ := round
  obtain ⟨r, e, v⟩ := ending
  unfold Directory.start at hround
  simp only [generateRound, hround, hending]
  cases r <;> simp

theorem mem_generateRound_paths {options : RenderOptions} {output : Path}
    {ds : List Declaration} {t : FileTree} {p : Path}
    (hp : p ∈ (generateRound options output ds t).1.written ++
      (generateRound options output ds t).1.unchanged) :
    ∃ done, done.Sublist (accepted ds) ∧ ∃ f ∈ roundFiles options done, p = output.join f.path := by
  obtain ⟨done, hsub, hold, -⟩ := Directory.process_holds ds (.start options output) t
  obtain ⟨files, hfront, hend, -⟩ := Directory.putAll_writes
    (process Directory.sink ds (.start options output, t)).2.2.1.modules.files
    (process Directory.sink ds (.start options output, t)).2.2.1
    (process Directory.sink ds (.start options output, t)).2.2.2
  obtain ⟨-, hwritten, hunchanged, -⟩ := generateRound_eq options output ds t
  rw [hwritten, hunchanged] at hp
  have hmem := hend.mem_iff.1 hp
  rw [hold.base.1, List.mem_append, hold.paths.mem_iff, List.mem_append] at hmem
  refine ⟨done, hsub, ?_⟩
  rcases hmem with (hstart | hcompanion) | hmodule
  · simp [Directory.paths, Directory.start] at hstart
  · obtain ⟨f, hf, rfl⟩ := List.mem_map.1 hcompanion
    exact ⟨f, List.mem_append_left _ hf, rfl⟩
  · obtain ⟨f, hf, rfl⟩ := List.mem_map.1 hmodule
    have htree : (process Directory.sink ds (.start options output, t)).2.2.1.modules =
        modulesOf done .empty := hold.modules
    rw [htree] at hfront
    exact ⟨f, List.mem_append_right _ (hfront.subset hf), rfl⟩

theorem perm_generateRound_paths {options : RenderOptions} {output : Path}
    {ds : List Declaration} {t : FileTree} (h : RoundSucceeds options output ds t) :
    ((generateRound options output ds t).1.written ++
      (generateRound options output ds t).1.unchanged).Perm
      ((roundFiles options (accepted ds)).map fun f => output.join f.path) := by
  obtain ⟨done, -, hold, hall⟩ := Directory.process_holds ds (.start options output) t
  obtain ⟨rfl, -⟩ := hall h.1
  obtain ⟨files, -, hend, hendall⟩ := Directory.putAll_writes
    (process Directory.sink ds (.start options output, t)).2.2.1.modules.files
    (process Directory.sink ds (.start options output, t)).2.2.1
    (process Directory.sink ds (.start options output, t)).2.2.2
  obtain ⟨rfl, -⟩ := hendall h.2
  obtain ⟨-, hwritten, hunchanged, -⟩ := generateRound_eq options output ds t
  have htree : (process Directory.sink ds (.start options output, t)).2.2.1.modules =
      modulesOf (accepted ds) .empty := hold.modules
  have hcompanions : (process Directory.sink ds (.start options output, t)).2.2.1.paths.Perm
      ((companionFiles options (accepted ds)).map fun f => output.join f.path) := hold.paths
  rw [hold.base.1] at hend
  rw [hwritten, hunchanged, roundFiles, List.map_append, ← htree]
  exact hend.trans (hcompanions.append_right _)

theorem generateRound_paths {options : RenderOptions} {output : Path} {ds : List Declaration}
    {t : FileTree} (h : RoundSucceeds options output ds t) {f : OutputFile}
    (hf : f ∈ roundFiles options (accepted ds)) :
    output.join f.path ∈ (generateRound options output ds t).1.written ++
      (generateRound options output ds t).1.unchanged :=
  (perm_generateRound_paths h).mem_iff.2 (List.mem_map_of_mem hf)

theorem generateRound_writes {options : RenderOptions} {output : Path} {ds : List Declaration}
    {t : FileTree} (h : RoundSucceeds options output ds t) :
    OutputFile.WritesAll ((roundFiles options (accepted ds)).map (·.below output)) t
      (generateRound options output ds t).2 := by
  obtain ⟨done, -, hold, hall⟩ := Directory.process_holds ds (.start options output) t
  obtain ⟨rfl, hcompanions⟩ := hall h.1
  obtain ⟨_, -, -, hend⟩ := Directory.putAll_writes
    (process Directory.sink ds (.start options output, t)).2.2.1.modules.files
    (process Directory.sink ds (.start options output, t)).2.2.1
    (process Directory.sink ds (.start options output, t)).2.2.2
  have hmodules := (hend h.2).2
  rw [hold.base.1] at hmodules
  rw [(generateRound_eq options output ds t).1, roundFiles, List.map_append]
  refine hcompanions.append ?_
  have htree := hold.modules
  rw [← show _ = modulesOf (accepted ds) .empty from htree]
  exact hmodules

end AccessorGen
