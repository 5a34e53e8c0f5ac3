import AccessorGen.Output.Directory
import AccessorGen.Output.Preview
import AccessorGen.Run.JsonText

/-! What a run tells its user: a report in lines or in JSON text, and the diagnostics. -/

namespace AccessorGen

/-- The files of a run, on disk or only shown. -/
inductive Product
  | stored (written unchanged : List Path)
  | shown (files : List PreviewFile)
  deriving DecidableEq, Repr

structure GenerateReport where
  output : Path
  round : RoundReport
  diagnostics : List Diagnostic
  product : Product
  deriving DecidableEq, Repr

structure CheckReport where
  source : Path
  declarations : Nat
  round : RoundReport
  diagnostics : List Diagnostic
  deriving DecidableEq, Repr

namespace Diagnostic

def lines (d : Diagnostic) : List String :=
  (d.severity.name ++ ": " ++ d.message) ::
    match d.element with
    | some e => ["  --> " ++ e]
    | none => []

def json (d : Diagnostic) : JsonText :=
  .object ([("severity", .text d.severity.name), ("message", .text d.message)] ++
    match d.element with
    | some e => [("element", .text e)]
    | none => [])

end Diagnostic

namespace RoundReport

def json (r : RoundReport) : JsonText :=
  .object [("generated", .texts r.generated), ("skipped", .texts r.skipped),
    ("failed", .texts r.failed)]

end RoundReport

namespace Report

def divider (title : String) : String := "── " ++ title ++ " ──"

def count (n : Nat) (noun : String) : String :=
  toString n ++ " " ++ noun ++ if n = 1 then "" else "s"

/-- A title with a number and the names counted, behind an empty line; nothing for no names. -/
def rejected (title : String) (names : List String) : List String :=
  if names.isEmpty then []
  else "" :: (title ++ ": " ++ toString names.length) :: names.map ("  - " ++ ·)

def unlines (ls : List String) : String := String.join (ls.map (· ++ "\n"))

end Report

namespace GenerateReport

open Report

def hasErrors (r : GenerateReport) : Bool := r.diagnostics.any Diagnostic.isError

def relative (r : GenerateReport) (p : Path) : String := ((p.relativeTo r.output).getD p).text

def productLines (r : GenerateReport) : List String :=
  match r.product with
  | .stored written unchanged =>
    ("Generated: " ++ r.output.text) :: written.map (fun p => "  + " ++ r.relative p) ++
      if unchanged.isEmpty then [] else ["Unchanged: " ++ toString unchanged.length]
  | .shown files =>
    files.flatMap (fun f => [divider f.path, f.content]) ++
      [divider "Summary", count files.length "file" ++ " would be generated"]

def lines (r : GenerateReport) : List String :=
  r.productLines ++ rejected "Skipped" r.round.skipped ++ rejected "Failed" r.round.failed

end GenerateReport

namespace CheckReport

def hasErrors (r : CheckReport) : Bool := r.round.hasErrors

def lines (r : CheckReport) : List String :=
  if r.hasErrors then
    ["✗ " ++ toString (r.round.skipped.length + r.round.failed.length) ++ " of " ++
      toString r.declarations ++ " declarations rejected"]
  else
    ["✓ " ++ r.source.text ++ " is valid (" ++ Report.count r.round.generated.length "companion" ++
      ")"]

def json (r : CheckReport) : JsonText :=
  .object [("source", .text r.source.text), ("declarations", .number r.declarations),
    ("round", r.round.json), ("diagnostics", .list (r.diagnostics.map Diagnostic.json))]

end CheckReport

end AccessorGen
