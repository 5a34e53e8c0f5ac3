import AccessorGen.Proofs.File.Rewriting
import AccessorGen.Proofs.Output.RoundFiles

/-! A round carried out again. A round succeeds exactly when its files can be written one after
another, and what it reports then depends on the declarations alone; so after a round without errors
the same round changes no file and reports the same. -/

namespace AccessorGen

open OutputFile

theorem OutputFile.writesAll_cons_iff {f : OutputFile} {fs : List OutputFile} {t v : FileTree} :
    WritesAll (f :: fs) t v ↔ ∃ o u, f.write t = (.ok o, u) ∧ WritesAll fs u v := by
  constructor
  · rintro (_ | ⟨first, rest⟩)
    exact ⟨_, _, first, rest⟩
  · rintro ⟨o, u, first, rest⟩
    exact .cons first rest

theorem OutputFile.WritesAll.split {fs gs : List OutputFile} {t v : FileTree}
    (h : WritesAll (fs ++ gs) t v) : ∃ u, WritesAll fs t u ∧ WritesAll gs u v := by
  induction fs generalizing t with
  | nil => exact ⟨t, .nil t, h⟩
  | cons f fs ih =>
    rw [List.cons_append, writesAll_cons_iff] at h
    obtain ⟨o, w, first, rest⟩ := h
    obtain ⟨u, hu, hv⟩ := ih rest
    exact ⟨u, .cons first hu, hv⟩

theorem OutputFile.WritesAll.unique {fs : List OutputFile} {t u v : FileTree}
    (h : WritesAll fs t u) (k : WritesAll fs t v) : u = v := by
  induction h with
  | nil =>
    cases k with
    | nil => rfl
  | cons first _ ih =>
    cases k with
    | cons second rest =>
      obtain ⟨-, rfl⟩ := Prod.mk.inj (first.symm.trans second)
      exact ih rest

theorem process_clean {σ : Type} {sink : Sink σ} {ds : List Declaration} {s : σ}
    (h : (process sink ds s).2.1.any Diagnostic.isError = false) :
    (process sink ds s).1.skipped = [] ∧ (process sink ds s).1.failed = [] := by
  have hreport : (process sink ds s).1.hasErrors = false := (process_hasErrors ds s).trans h
  simpa [RoundReport.hasErrors] using hreport

theorem process_same {σ τ : Type} {sink : Sink σ} {other : Sink τ} {ds : List Declaration} {s : σ}
    {s' : τ} (h : (process sink ds s).1.failed = []) (h' : (process other ds s').1.failed = []) :
    (process sink ds s).1 = (process other ds s').1 ∧
      (process sink ds s).2.1 = (process other ds s').2.1 := by
  induction ds generalizing s s' with
  | nil => exact ⟨rfl, rfl⟩
  | cons d ds ih =>
    -- The first declaration gives both rounds the same result.
    have hresult : ∃ r u u', d.emit sink s = (r, u) ∧ d.emit other s' = (r, u') := by
      cases hd : d.companion with
      | error cause => exact ⟨_, _, _, emit_of_error hd, emit_of_error hd⟩
      | ok c =>
        obtain ⟨u, he, -⟩ := emit_of_failed_nil hd h
        obtain ⟨u', he', -⟩ := emit_of_failed_nil hd h'
        exact ⟨_, u, u', he, he'⟩
    obtain ⟨r, u, u', he, he'⟩ := hresult
    rw [process_cons he] at h ⊢
    rw [process_cons he'] at h' ⊢
    obtain ⟨hreport, hdiagnostics⟩ :=
      ih (List.append_eq_nil_iff.1 h).2 (List.append_eq_nil_iff.1 h').2
    rw [hreport, hdiagnostics]
    exact ⟨rfl, rfl⟩

namespace Directory

variable {d : Directory} {t u : FileTree}

theorem put_of_write {f : OutputFile} {o : WriteOutcome}
    (h : (f.below d.root).write t = (.ok o, u)) :
    d.put f t = (.ok (), d.record (d.root.join f.path) o, u) := by
  unfold put
  rw [show d.under f = f.below d.root from rfl, h]
  rfl

theorem failed_eq_nil_of_writes {ds : List Declaration} {v : FileTree}
    (h : WritesAll ((companionFiles d.options (accepted ds)).map (·.below d.root)) t v) :
    (process sink ds (d, t)).1.failed = [] := by
  induction ds generalizing d t with
  | nil => rfl
  | cons x ds ih =>
    cases hx : x.companion with
    | error cause =>
      rw [accepted_cons_error hx] at h
      rw [process_cons (emit_of_error hx)]
      exact ih h
    | ok c =>
      rw [accepted_cons_ok hx, companionFiles_cons, List.map_cons, writesAll_cons_iff] at h
      obtain ⟨o, u, first, rest⟩ := h
      obtain ⟨e, w, o', hw, hfile, hbase, -⟩ | ⟨cause, w, hw⟩ := writeCompanion_cases d t x.space c
      · have hsame : u = w := congrArg Prod.snd (first.symm.trans hfile)
        rw [← hbase.1, ← hbase.2, hsame] at rest
        rw [process_cons (emit_of_ok hx hw)]
        exact ih rest
      · rw [writeCompanion, put_of_write first] at hw
        cases hw

theorem putAll_of_writes {fs : List OutputFile} {v : FileTree}
    (h : WritesAll (fs.map (·.below d.root)) t v) : (putAll fs d t).1 = .ok () := by
  induction fs generalizing d t with
  | nil => rfl
  | cons f fs ih =>
    rw [List.map_cons, writesAll_cons_iff] at h
    obtain ⟨o, u, first, rest⟩ := h
    rw [← (sameBase_record d (d.root.join f.path) o).1] at rest
    rw [putAll, put_of_write first]
    exact ih rest

end Directory

section Round

variable {options : RenderOptions} {output : Path} {ds : List Declaration} {t : FileTree}

def writtenFiles (options : RenderOptions) (output : Path) (ds : List Declaration) :
    List OutputFile :=
  (roundFiles options (accepted ds)).map (·.below output)

theorem roundSucceeds_of_writes {u : FileTree}
    (h : WritesAll (writtenFiles options output ds) t u) : RoundSucceeds options output ds t := by
  rw [writtenFiles, roundFiles, List.map_append] at h
  obtain ⟨v, hcompanions, hmodules⟩ := h.split
  have hfailed : (process Directory.sink ds (.start options output, t)).1.failed = [] :=
    Directory.failed_eq_nil_of_writes hcompanions
  obtain ⟨done, -, hold, hall⟩ := Directory.process_holds ds (.start options output) t
  obtain ⟨rfl, hwrites⟩ := hall hfailed
  have htree := hwrites.unique hcompanions
  have hroot : (process Directory.sink ds (.start options output, t)).2.2.1.root = output :=
    hold.base.1
  have htreeOf : (process Directory.sink ds (.start options output, t)).2.2.1.modules =
      modulesOf (accepted ds) .empty := hold.modules
  rw [← hroot, ← htreeOf, ← htree] at hmodules
  exact ⟨hfailed, Directory.putAll_of_writes hmodules⟩

theorem generateRound_diagnostics (options : RenderOptions) (output : Path)
    (ds : List Declaration) (t : FileTree) :
    let round := process Directory.sink ds (.start options output, t)
    (generateRound options output ds t).1.diagnostics = round.2.1 ++
      match (round.2.2.1.finish round.2.2.2).1 with
      | .ok () => []
      | .error e => [.error ("FATAL ERROR: " ++ e.message)] := by
  intro round
  have hround : process Directory.sink ds (.start options output, t) = round := rfl
  clear_value round
  obtain ⟨report, diagnostics, d, u⟩ := round
  unfold Directory.start at hround
  simp only [generateRound, hround]
  split <;> simp [*]

theorem roundSucceeds_of_noErrors
    (h : (generateRound options output ds t).1.diagnostics.any Diagnostic.isError = false) :
    RoundSucceeds options output ds t ∧
      (generateRound options output ds t).1.report.skipped = [] := by
  rw [generateRound_diagnostics, List.any_append, Bool.or_eq_false_iff] at h
  obtain ⟨hround, hend⟩ := h
  obtain ⟨hskipped, hfailed⟩ := process_clean hround
  refine ⟨⟨hfailed, ?_⟩, by rw [(generateRound_eq options output ds t).2.2.2, hskipped]⟩
  split at hend
  next hok => exact hok
  · simp [Diagnostic.isError, Diagnostic.error] at hend

theorem generateRound_same {u : FileTree} (h : RoundSucceeds options output ds t)
    (k : RoundSucceeds options output ds u) :
    (generateRound options output ds t).1.report = (generateRound options output ds u).1.report ∧
    (generateRound options output ds t).1.diagnostics =
      (generateRound options output ds u).1.diagnostics := by
  obtain ⟨hreport, hdiagnostics⟩ := process_same h.1 k.1
  rw [(generateRound_eq options output ds t).2.2.2, (generateRound_eq options output ds u).2.2.2,
    generateRound_diagnostics, generateRound_diagnostics, h.2, k.2, hdiagnostics]
  exact ⟨hreport, rfl⟩

theorem generateRound_again (h : RoundSucceeds options output ds t) :
    RoundSucceeds options output ds (generateRound options output ds t).2 ∧
    (generateRound options output ds (generateRound options output ds t).2).2 =
      (generateRound options output ds t).2 := by
  have hwrites := (generateRound_writes h).again
  have hagain : RoundSucceeds options output ds (generateRound options output ds t).2 :=
    roundSucceeds_of_writes hwrites
  exact ⟨hagain, (generateRound_writes hagain).unique hwrites⟩

end Round

end AccessorGen
