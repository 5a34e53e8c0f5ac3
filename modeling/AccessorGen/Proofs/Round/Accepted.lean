import AccessorGen.Proofs.Companion.Acceptance
import AccessorGen.Round.Process

/-! What one declaration adds to a round, whatever the sink, and the companions that a round hands
to its sink. -/

namespace AccessorGen

/-- The companions of a round, each with its namespace; rejected declarations have none. -/
def accepted (ds : List Declaration) : List (Namespace × Companion) :=
  ds.filterMap fun d => d.companion.toOption.map (d.space, ·)

theorem RoundReport.hasErrors_append (a b : RoundReport) :
    (a.append b).hasErrors = (a.hasErrors || b.hasErrors) := by
  obtain ⟨_, skipped, failed⟩ := a
  cases skipped <;> cases failed <;> simp [append, hasErrors]

theorem outcome_hasErrors (d : Declaration) (r : Except EmitFault Companion) :
    (d.outcome r).report.hasErrors = (d.outcome r).diagnostics.any Diagnostic.isError := by
  have hopening : d.opening.any Diagnostic.isError = false := by
    unfold Declaration.opening
    split <;> rfl
  cases r with
  | ok c => simp [Declaration.outcome, RoundReport.hasErrors, hopening]
  | error fault =>
    cases fault <;> simp [Declaration.outcome, RoundReport.hasErrors, Diagnostic.isError,
      Diagnostic.error, Diagnostic.about]

theorem accepted_cons_error {d : Declaration} {cause : Rejection} (h : d.companion = .error cause)
    (ds : List Declaration) : accepted (d :: ds) = accepted ds := by
  simp [accepted, h, Except.toOption]

theorem accepted_cons_ok {d : Declaration} {c : Companion} (h : d.companion = .ok c)
    (ds : List Declaration) : accepted (d :: ds) = (d.space, c) :: accepted ds := by
  simp [accepted, h, Except.toOption]

theorem mem_accepted {ds : List Declaration} {a : Namespace × Companion} :
    a ∈ accepted ds ↔ ∃ d ∈ ds, d.companion = .ok a.2 ∧ d.space = a.1 := by
  simp only [accepted, List.mem_filterMap, Option.map_eq_some_iff]
  refine exists_congr fun d => and_congr_right fun _ => ?_
  cases hd : d.companion with
  | error cause => simp [Except.toOption]
  | ok c =>
    obtain ⟨ns, c'⟩ := a
    simp [Except.toOption, and_comm]

theorem companion_eq_ok {d : Declaration} {c : Companion} (h : d.companion = .ok c) :
    c = ⟨d.name, d.fields, accessorsOf d.fields⟩ ∧ d.kind.isClass = true ∧
      (∀ f ∈ d.fields, f.check = .ok ()) := by
  obtain ⟨hacceptable, hmade⟩ := acceptable_of_companion h
  exact ⟨hmade.eq, beq_iff_eq.2 hacceptable.isClass, hacceptable.checks⟩

theorem qualified_accepted (ds : List Declaration) :
    ((accepted ds).map fun a => a.1.qualify a.2.sourceName).Sublist
      (ds.map Declaration.qualifiedName) := by
  induction ds with
  | nil => exact .slnil
  | cons d ds ih =>
    cases hd : d.companion with
    | error cause =>
      rw [accepted_cons_error hd]
      exact ih.cons _
    | ok c =>
      rw [accepted_cons_ok hd, List.map_cons, List.map_cons, (companion_eq_ok hd).1]
      exact ih.cons_cons _

section Steps

variable {σ : Type} {sink : Sink σ} {d : Declaration} {s s' : σ}

theorem process_cons {r : Except EmitFault Companion} (h : d.emit sink s = (r, s'))
    (ds : List Declaration) :
    process sink (d :: ds) s =
      ((d.outcome r).report.append (process sink ds s').1,
        (d.outcome r).diagnostics ++ (process sink ds s').2.1, (process sink ds s').2.2) := by
  simp [process, h]

theorem process_hasErrors (ds : List Declaration) (s : σ) :
    (process sink ds s).1.hasErrors = (process sink ds s).2.1.any Diagnostic.isError := by
  induction ds generalizing s with
  | nil => rfl
  | cons d ds ih =>
    cases he : d.emit sink s with
    | mk r s' =>
      rw [process_cons he, RoundReport.hasErrors_append, outcome_hasErrors, ih, List.any_append]

theorem emit_of_error {cause : Rejection} (h : d.companion = .error cause) :
    d.emit sink s = (.error (.rejected cause), s) := by
  simp [Declaration.emit, h]

theorem emit_of_ok {c : Companion} (h : d.companion = .ok c)
    (hw : sink.write d.space c s = (.ok (), s')) : d.emit sink s = (.ok c, s') := by
  simp [Declaration.emit, h, hw]

theorem emit_of_refused {c : Companion} {cause : String} (h : d.companion = .ok c)
    (hw : sink.write d.space c s = (.error cause, s')) :
    d.emit sink s = (.error (.sink cause), s') := by
  simp [Declaration.emit, h, hw]

theorem failed_of_takes (h : ∀ ns c u, (sink.write ns c u).1 = .ok ()) (ds : List Declaration)
    (s : σ) : (process sink ds s).1.failed = [] := by
  induction ds generalizing s with
  | nil => rfl
  | cons d ds ih =>
    cases hd : d.companion with
    | error cause =>
      rw [process_cons (emit_of_error hd)]
      exact ih s
    | ok c =>
      rw [process_cons (emit_of_ok hd (Prod.ext (h d.space c s) rfl))]
      exact ih _

theorem emit_of_failed_nil {c : Companion} {ds : List Declaration} (hd : d.companion = .ok c)
    (h : (process sink (d :: ds) s).1.failed = []) :
    ∃ s', d.emit sink s = (.ok c, s') ∧ (process sink ds s').1.failed = [] := by
  cases hw : sink.write d.space c s with
  | mk r s' =>
    cases r with
    | error cause =>
      rw [process_cons (emit_of_refused hd hw)] at h
      exact absurd (List.append_eq_nil_iff.1 h).1 (by simp [Declaration.outcome])
    | ok _ =>
      have he := emit_of_ok hd hw
      rw [process_cons he] at h
      exact ⟨s', he, (List.append_eq_nil_iff.1 h).2⟩

theorem process_generated {ds : List Declaration} (h : (process sink ds s).1.failed = []) :
    (process sink ds s).1.generated = (accepted ds).map fun a => a.1.qualify a.2.name := by
  induction ds generalizing s with
  | nil => rfl
  | cons d ds ih =>
    cases hd : d.companion with
    | error cause =>
      rw [process_cons (emit_of_error hd)] at h ⊢
      rw [accepted_cons_error hd]
      exact ih (List.append_eq_nil_iff.1 h).2
    | ok c =>
      obtain ⟨s', he, hrest⟩ := emit_of_failed_nil hd h
      rw [process_cons he, accepted_cons_ok hd, List.map_cons, ← ih hrest]
      rfl

end Steps

end AccessorGen
