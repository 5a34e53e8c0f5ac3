import AccessorGen.Proofs.File.Sound
import AccessorGen.Proofs.Output.Again
import AccessorGen.Proofs.Output.NamedFiles

/-! A preview tells what a round below an output directory does. As long as no write fails, both
report the same, the files are on disk as the preview shows them, the later where two share a path,
and no other file has changed. -/

namespace AccessorGen

open OutputFile

/-- The content of the file at a place; none for a directory and for nothing. -/
def FileTree.fileAt (t : FileTree) (place : Place) : Option Content :=
  match t.look place with
  | some (.file c) => some c
  | _ => none

theorem FileTree.fileAt_eq_some_iff {t : FileTree} {place : Place} {c : Content} :
    t.fileAt place = some c ↔ t.look place = some (.file c) := by
  unfold fileAt
  split <;> simp_all

theorem FileTree.fileAt_eq {e : Place → Prop} {t u : FileTree} (keeps : KeepsBut e t u)
    (makes : MakesOnly e t u) {place : Place} (hplace : ¬e place) :
    u.fileAt place = t.fileAt place := by
  refine Option.ext fun c => ?_
  rw [fileAt_eq_some_iff, fileAt_eq_some_iff]
  exact ⟨makes.2 place c hplace, keeps.2 place _ hplace⟩

theorem OutputFile.WritesAll.fileAt {fs : List OutputFile} {t u : FileTree} (h : WritesAll fs t u)
    {place : Place} (hplace : ∀ f ∈ fs, f.path.place t.here ≠ place) :
    u.fileAt place = t.fileAt place :=
  FileTree.fileAt_eq h.keeps h.makes fun ⟨f, hf, e⟩ => hplace f hf e.symm

def lastContent (files : List PreviewFile) (path : String) : Option String :=
  (files.findRev? (·.path == path)).map PreviewFile.content

theorem exists_last {α : Type} {p : α → Bool} {l : List α} {x : α} (hx : x ∈ l)
    (hp : p x = true) : ∃ before y after, l = before ++ y :: after ∧ p y = true ∧
      (∀ z ∈ after, ¬p z = true) ∧ l.findRev? p = some y := by
  rw [List.findRev?_eq_find?_reverse]
  obtain ⟨y, hy⟩ : ∃ y, l.reverse.find? p = some y :=
    Option.isSome_iff_exists.1 (List.find?_isSome.2 ⟨x, List.mem_reverse.2 hx, hp⟩)
  obtain ⟨hpy, after, before, hsplit, hrest⟩ := List.find?_eq_some_iff_append.1 hy
  refine ⟨before.reverse, y, after.reverse, ?_, hpy, fun z hz => ?_, hy⟩
  · rw [← List.reverse_reverse l, hsplit]
    simp
  · simpa using hrest z (List.mem_reverse.1 hz)

theorem failed_preview (options : RenderOptions) (ds : List Declaration) (s : Preview) :
    (process (Preview.sink options) ds s).1.failed = [] := failed_of_takes (fun _ _ _ => rfl) ds s

/-- What a preview shows and a round below an output directory has done. -/
structure Agrees (preview : RoundReport × List Diagnostic × List PreviewFile) (output : Path)
    (t : FileTree) (round : Generation × FileTree) : Prop where
  report : round.1.report = preview.1
  diagnostics : round.1.diagnostics = preview.2.1
  contents : ∀ f ∈ preview.2.2,
    round.2.readText (output.join ⟨f.path⟩) = lastContent preview.2.2 f.path
  others : ∀ place, (∀ f ∈ preview.2.2, (output.join ⟨f.path⟩).place t.here ≠ place) →
    round.2.fileAt place = t.fileAt place
  paths : (round.1.written ++ round.1.unchanged).Perm
    (preview.2.2.map fun f => output.join ⟨f.path⟩)

section Round

variable {options : RenderOptions} {output : Path} {ds : List Declaration} {t : FileTree}

theorem generateRound_reports_preview (hwrites : RoundSucceeds options output ds t) :
    (generateRound options output ds t).1.report = (previewRound options ds).1 ∧
    (generateRound options output ds t).1.diagnostics = (previewRound options ds).2.1 := by
  obtain ⟨hreport, hdiagnostics⟩ := process_same hwrites.1 (failed_preview options ds .empty)
  rw [(generateRound_eq options output ds t).2.2.2, generateRound_diagnostics, hwrites.2,
    hreport, hdiagnostics]
  exact ⟨rfl, List.append_nil _⟩

theorem readText_lastContent (hproper : ∀ a ∈ accepted ds, OwnFiles.Proper a)
    (hwrites : RoundSucceeds options output ds t) {f : OutputFile}
    (hf : f ∈ roundFiles options (accepted ds)) :
    (generateRound options output ds t).2.readText (output.join f.path) =
      lastContent ((roundFiles options (accepted ds)).map .ofOutput) f.path.slashed := by
  obtain ⟨before, g, after, hsplit, hpath, hlater, hlast⟩ :=
    exists_last (p := fun g => g.path.slashed == f.path.slashed) hf (beq_self_eq_true _)
  have hcontent : lastContent ((roundFiles options (accepted ds)).map .ofOutput)
      f.path.slashed = some g.content := by
    rw [lastContent, List.findRev?_eq_find?_reverse, ← List.map_reverse, List.find?_map,
      ← List.findRev?_eq_find?_reverse]
    exact congrArg (Option.map _ ∘ Option.map _) hlast
  have hg : g ∈ roundFiles options (accepted ds) := by simp [hsplit]
  have hsame : g.path = f.path := by
    rw [← (named_of_mem_roundFiles hproper hg).slashed,
      ← (named_of_mem_roundFiles hproper hf).slashed, beq_iff_eq.1 hpath]
  rw [hcontent, ← hsame]
  refine readText_of_last hproper hwrites hsplit fun k hk e => hlater k hk ?_
  rw [e]
  exact hpath

end Round

/-- A round below any directory in which no write fails does what its preview shows. -/
theorem generateRound_agrees {options : RenderOptions} {output : Path} {ds : List Declaration}
    {t : FileTree} (hnames : ∀ d ∈ ds, WellNamed d)
    (hwrites : RoundSucceeds options output ds t) :
    Agrees (previewRound options ds) output t (generateRound options output ds t) := by
  have hproper := OwnFiles.proper_of_accepted hnames
  have hshown : ∀ f ∈ roundFiles options (accepted ds),
      output.join ⟨(PreviewFile.ofOutput f).path⟩ = output.join f.path := fun f hf =>
    congrArg output.join (named_of_mem_roundFiles hproper hf).slashed
  obtain ⟨hreport, hdiagnostics⟩ := generateRound_reports_preview hwrites
  refine ⟨hreport, hdiagnostics, ?_, ?_, ?_⟩ <;> rw [files_previewRound]
  · intro shown hmem
    obtain ⟨f, hf, rfl⟩ := List.mem_map.1 hmem
    rw [hshown f hf]
    exact readText_lastContent hproper hwrites hf
  · intro place hplace
    refine (generateRound_writes hwrites).fileAt fun written hmem => ?_
    obtain ⟨f, hf, rfl⟩ := List.mem_map.1 hmem
    have hother := hplace _ (List.mem_map_of_mem hf)
    rwa [hshown f hf] at hother
  · rw [List.map_map, Function.comp_def, List.map_congr_left hshown]
    exact perm_generateRound_paths hwrites

section Runs

def mixedRound : List Declaration :=
  [plainClass "FooBar", ⟨"Shape", .root, .interface, []⟩, plainClass "Foo_bar",
    ⟨"Order", ⟨["shop"]⟩, .class, []⟩]

def usedTree : FileTree :=
  ⟨.dir [("out", .dir [("foo_bar_data.rs", .file (.text "old")),
    ("notes", .file (.binary [0xff]))])], []⟩

theorem agrees_mixedRound :
    Agrees (previewRound {} mixedRound) ⟨"out"⟩ usedTree
      (generateRound {} ⟨"out"⟩ mixedRound usedTree) :=
  generateRound_agrees (by decide) (by decide +kernel)

end Runs

end AccessorGen
