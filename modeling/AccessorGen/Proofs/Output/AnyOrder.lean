import AccessorGen.Proofs.Output.NamedFiles
import AccessorGen.Proofs.Render.ModuleOrder
import AccessorGen.Proofs.Round.Isolation

/-! A round in another order. The file of a companion depends on its declaration alone, and the
module files on the set of companions; so the order of the declarations shows only in the order of
the companion files and of what is told of each declaration. -/

namespace AccessorGen

section Steady

variable {σ : Type} {sink : Sink σ} (h : sink.SteadyAnswer)

include h

theorem ledger_of_steadyAnswer (ds : List Declaration) (s fresh : σ) :
    ledger sink ds s = ds.map fun d => d.entry sink fresh := by
  induction ds generalizing s with
  | nil => rfl
  | cons d ds ih =>
    rw [ledger, List.map_cons, ih, Declaration.entry, Declaration.entry,
      fate_of_steadyAnswer d s fresh h]

theorem perm_ledger {ds es : List Declaration} (hperm : ds.Perm es) (s : σ) :
    (ledger sink ds s).Perm (ledger sink es s) := by
  rw [ledger_of_steadyAnswer h ds s s, ledger_of_steadyAnswer h es s s]
  exact hperm.map _

theorem process_perm {ds es : List Declaration} (hperm : ds.Perm es) (s : σ) :
    (process sink ds s).1.generated.Perm (process sink es s).1.generated ∧
    (process sink ds s).1.skipped.Perm (process sink es s).1.skipped ∧
    (process sink ds s).1.failed.Perm (process sink es s).1.failed ∧
    (process sink ds s).2.1.Perm (process sink es s).2.1 := by
  have hledger := perm_ledger h hperm s
  rw [(process_ledger sink ds s).1, (process_ledger sink es s).1, (process_ledger sink ds s).2,
    (process_ledger sink es s).2]
  exact ⟨hledger.filterMap _, hledger.filterMap _, hledger.filterMap _, hledger.flatMap_right _⟩

end Steady

theorem steadyAnswer_preview (options : RenderOptions) : (Preview.sink options).SteadyAnswer :=
  fun _ _ _ _ => rfl

def PreviewFile.isModule (f : PreviewFile) : Bool :=
  (⟨f.path⟩ : Path).fileName == some "mod.rs".toList

theorem Path.fileName_push {s : String} (hs : isEntryName s = true) (p : Path) :
    (p.push s).fileName = some s.toList := by
  rw [fileName, components_push hs, List.getLast?_concat]

theorem isModule_ofOutput {f : OutputFile} (h : f.path.Named) :
    (PreviewFile.ofOutput f).isModule = (f.path.fileName == some "mod.rs".toList) := by
  have hpath : (⟨(PreviewFile.ofOutput f).path⟩ : Path) = f.path := h.slashed
  rw [PreviewFile.isModule, hpath]

section Round

variable {options : RenderOptions} {as : List (Namespace × Companion)}
  (h : ∀ a ∈ as, OwnFiles.Proper a)

include h

theorem isModule_companionFile {a : Namespace × Companion} (ha : a ∈ as) :
    (PreviewFile.ofOutput (Render.companionFile a.1 a.2 options)).isModule = false := by
  have hname : Names.fileOf a.2.name ≠ "mod.rs" := fun e =>
    companionPath_ne_mod h ha (dirText (Names.directories a.1)) (by rw [e])
  have hpath : (Render.companionFile a.1 a.2 options).path = Render.companionPath a.1 a.2 := rfl
  have hnamed := named_companionPath h ha
  rw [← hpath] at hnamed
  rw [isModule_ofOutput hnamed, hpath, Render.companionPath,
    Path.fileName_push (isEntryName_fileOf h ha)]
  exact beq_false_of_ne fun e => hname (String.toList_injective (Option.some.inj e))

theorem isModule_of_mem_files {f : OutputFile} (hf : f ∈ (modulesOf as .empty).files) :
    (PreviewFile.ofOutput f).isModule = true := by
  rw [isModule_ofOutput (named_of_mem_files h hf)]
  obtain ⟨e, -, rfl⟩ := List.mem_map.1 hf
  exact beq_iff_eq.2 (Path.fileName_push (by decide) e.1)

theorem filter_roundFiles :
    ((roundFiles options as).map PreviewFile.ofOutput).filter (fun f => !f.isModule) =
      (companionFiles options as).map PreviewFile.ofOutput ∧
    ((roundFiles options as).map PreviewFile.ofOutput).filter PreviewFile.isModule =
      (modulesOf as .empty).files.map PreviewFile.ofOutput := by
  have hcompanions : ∀ f ∈ (companionFiles options as).map PreviewFile.ofOutput,
      f.isModule = false := by
    simp only [companionFiles, List.mem_map, forall_exists_index, and_imp,
      forall_apply_eq_imp_iff₂]
    exact fun a ha => isModule_companionFile h ha
  have hmodules : ∀ f ∈ (modulesOf as .empty).files.map PreviewFile.ofOutput,
      f.isModule = true := by
    simpa using fun f hf => isModule_of_mem_files h hf
  rw [roundFiles, List.map_append, List.filter_append, List.filter_append]
  constructor
  · rw [List.filter_eq_self.2 (by simpa using hcompanions),
      List.filter_eq_nil_iff.2 (by simpa using hmodules), List.append_nil]
  · rw [List.filter_eq_nil_iff.2 (by simpa using hcompanions), List.filter_eq_self.2 hmodules,
      List.nil_append]

theorem modulesOf_congr {bs : List (Namespace × Companion)} (hab : ∀ a, a ∈ as ↔ a ∈ bs) :
    modulesOf as .empty = modulesOf bs .empty := by
  rw [ModuleTree.modulesOf_eq_insertAll, ModuleTree.modulesOf_eq_insertAll]
  exact ModuleTree.insertAll_congr (fun x => by simp only [List.mem_map, hab]) (proper_insertions h)

end Round

/-- Two previews tell of the same declarations and show the same files; the module files are one
list. -/
structure SameButOrder (r s : RoundReport × List Diagnostic × List PreviewFile) : Prop where
  companions : (r.2.2.filter fun f => !f.isModule).Perm (s.2.2.filter fun f => !f.isModule)
  modules : r.2.2.filter PreviewFile.isModule = s.2.2.filter PreviewFile.isModule
  generated : r.1.generated.Perm s.1.generated
  skipped : r.1.skipped.Perm s.1.skipped
  failed : r.1.failed.Perm s.1.failed
  diagnostics : r.2.1.Perm s.2.1

/-- The order of the declarations does not matter to a preview. -/
theorem previewRound_perm {ds es : List Declaration} (hperm : ds.Perm es)
    (hnames : ∀ d ∈ ds, WellNamed d) (options : RenderOptions) :
    SameButOrder (previewRound options ds) (previewRound options es) := by
  have haccepted : (accepted ds).Perm (accepted es) := hperm.filterMap _
  have hproper := OwnFiles.proper_of_accepted hnames
  have hproper' := OwnFiles.proper_of_accepted fun d hd => hnames d (hperm.mem_iff.2 hd)
  obtain ⟨hgenerated, hskipped, hfailed, hdiagnostics⟩ :=
    process_perm (steadyAnswer_preview options) hperm .empty
  refine ⟨?_, ?_, hgenerated, hskipped, hfailed, hdiagnostics⟩
  · rw [files_previewRound, files_previewRound, (filter_roundFiles hproper).1,
      (filter_roundFiles hproper').1]
    exact (haccepted.map _).map _
  · rw [files_previewRound, files_previewRound, (filter_roundFiles hproper).2,
      (filter_roundFiles hproper').2, modulesOf_congr hproper fun a => haccepted.mem_iff]

section Runs

def shopRound : List Declaration :=
  [⟨"Line", ⟨["shop", "order"]⟩, .class, [⟨"count", .field (.primitive .uint)⟩]⟩,
    ⟨"Color", ⟨["shop"]⟩, .enum, []⟩, ⟨"Order", ⟨["shop"]⟩, .class, []⟩,
    ⟨"User", .root, .class, [⟨"id", .field (.primitive .int)⟩]⟩]

/-- From its other end the round shows its companions in another order and the same modules. -/
theorem previewRound_shop_reversed :
    (∀ d ∈ shopRound, WellNamed d) ∧
    SameButOrder (previewRound {} shopRound) (previewRound {} shopRound.reverse) ∧
    (previewRound {} shopRound).2.2 ≠ (previewRound {} shopRound.reverse).2.2 :=
  ⟨by decide, previewRound_perm (List.reverse_perm _).symm (by decide) {}, by decide +kernel⟩

end Runs

end AccessorGen
