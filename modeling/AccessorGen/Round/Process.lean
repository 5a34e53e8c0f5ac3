import AccessorGen.Round.Diagnostic
import AccessorGen.Round.Sink

/-! A round: every declaration in turn, with the diagnostics it gives and the list it ends in.
A rejected or failed declaration is reported and the round goes on. -/

namespace AccessorGen

/-- Qualified names of what was generated, rejected before writing, and refused by the sink. -/
structure RoundReport where
  generated : List String := []
  skipped : List String := []
  failed : List String := []
  deriving DecidableEq, Repr

namespace RoundReport

def processed (r : RoundReport) : Nat := r.generated.length + r.skipped.length + r.failed.length

def hasErrors (r : RoundReport) : Bool := !r.skipped.isEmpty || !r.failed.isEmpty

def append (a b : RoundReport) : RoundReport :=
  ⟨a.generated ++ b.generated, a.skipped ++ b.skipped, a.failed ++ b.failed⟩

end RoundReport

/-- The part of a round that one declaration accounts for. -/
structure Outcome where
  report : RoundReport
  diagnostics : List Diagnostic
  deriving DecidableEq, Repr

def Declaration.opening (d : Declaration) : List Diagnostic :=
  if d.kind.isClass then [(Diagnostic.note ("Processing " ++ d.name)).about d.qualifiedName] else []

def Declaration.outcome (d : Declaration) : Except EmitFault Companion → Outcome
  | .ok c => ⟨{ generated := [d.space.qualify c.name] }, d.opening⟩
  | .error fault =>
    let failure := (Diagnostic.error fault.message).about d.qualifiedName
    match fault with
    | .rejected _ => ⟨{ skipped := [d.qualifiedName] }, d.opening ++ [failure]⟩
    | .sink _ => ⟨{ failed := [d.qualifiedName] }, d.opening ++ [failure]⟩

def process {σ : Type} (sink : Sink σ) : List Declaration → σ → RoundReport × List Diagnostic × σ
  | [], s => ({}, [], s)
  | d :: ds, s =>
    let (result, s') := d.emit sink s
    let here := d.outcome result
    let (report, diagnostics, last) := process sink ds s'
    (here.report.append report, here.diagnostics ++ diagnostics, last)

theorem RoundReport.processed_append (a b : RoundReport) :
    (a.append b).processed = a.processed + b.processed := by
  simp only [append, processed, List.length_append]
  omega

end AccessorGen
