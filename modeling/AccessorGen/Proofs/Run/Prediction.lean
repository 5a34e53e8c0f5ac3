import AccessorGen.Proofs.Output.Agreement
import AccessorGen.Proofs.Run.Rerun
import AccessorGen.Run.Console

/-! What a check tells of a run that generates. A check, a dry run and a run that writes discover
the same declarations and send them through the same round before different sinks. So they are
refused with one fault, or tell of one round, as long as no write fails; and the exit code of each
is read off the diagnostics, even when these cannot be printed. -/

namespace AccessorGen

namespace Report

theorem unlines_cons (l : String) (ls : List String) :
    unlines (l :: ls) = l ++ "\n" ++ unlines ls := by
  rw [unlines, List.map_cons, String.join_cons, unlines]

theorem unlines_append (ls ls' : List String) :
    unlines (ls ++ ls') = unlines ls ++ unlines ls' := by
  rw [unlines, List.map_append, String.join_append, unlines, unlines]

end Report

namespace Console

section Streams

variable {σ : Type} (write : String → StateM σ Bool) (log : Diagnostic → StateM σ Unit)

end Streams

example : (tell (m := Id) (fun _ => false) (fun _ => ()) {}
    ((Diagnostic.error "FATAL ERROR: disk full").about "User")).errors = 1 := by decide

def keep (text : String) : StateM String Bool := do
  modify (· ++ text)
  return true

theorem printLines_keep (ls : List String) (u : String) :
    (printLines keep ls).run u = (true, u ++ Report.unlines ls) := by
  induction ls generalizing u with
  | nil => exact congrArg (Prod.mk true) (String.append_empty (s := u)).symm
  | cons l ls ih =>
    have hstep : (printLines keep (l :: ls)).run u =
        (printLines keep ls).run (u ++ (l ++ "\n")) := rfl
    rw [hstep, ih, Report.unlines_cons, String.append_assoc]

theorem tellAll_keep (log : Diagnostic → StateM String Unit) (c : Console) (ds : List Diagnostic)
    (u : String) : ((c.tellAll keep log ds).run u).2 =
      u ++ Report.unlines (ds.flatMap Diagnostic.lines) := by
  induction ds generalizing c u with
  | nil => exact String.append_empty.symm
  | cons d ds ih =>
    have htold : (c.tell keep log d).run u = (c.count d, u ++ Report.unlines d.lines) := by
      rw [tell, StateT.run_bind, printLines_keep]
      rfl
    have hrest : ((c.tellAll keep log (d :: ds)).run u).2 =
        ((((c.tell keep log d).run u).1.tellAll keep log ds).run
          ((c.tell keep log d).run u).2).2 := rfl
    rw [hrest, htold, ih, List.flatMap_cons, Report.unlines_append, String.append_assoc]

end Console

namespace Ending

theorem conclude_keep (log : Diagnostic → StateM String Unit) (e : Ending) :
    ((e.conclude Console.keep log).run "").2 = e.errorOutput := by
  cases e with
  | generated report =>
    have h := Console.tellAll_keep log {} report.diagnostics ""
    rwa [String.empty_append] at h
  | checked report asJson =>
    cases asJson with
    | true => rfl
    | false =>
      have h := Console.tellAll_keep log {} report.diagnostics ""
      rwa [String.empty_append] at h
  | told text => rfl
  | misused m => exact String.empty_append
  | refused fault => exact String.empty_append

end Ending

namespace Settings

variable {s : Settings} {t : FileTree}

end Settings

namespace Invocation

variable {t : FileTree} {input : SourceChoice} (output : Option Path) (asJson : Bool)

end Invocation

end AccessorGen
