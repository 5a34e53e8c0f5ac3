import AccessorGen.Discovery.Folder
import AccessorGen.Run.Report
import AccessorGen.Run.Settings

/-! A run from the words of its command line to its ending, on a file tree. Checking and previewing
leave the tree as it is. -/

namespace AccessorGen

namespace Settings

def declarations (s : Settings) (t : FileTree) : Except InputFault (List Declaration) :=
  discover t s.source s.marker

def generate (s : Settings) (t : FileTree) : Except InputFault GenerateReport × FileTree :=
  match s.declarations t with
  | .error fault => (.error fault, t)
  | .ok ds =>
    let (g, t') := generateRound s.options s.output ds t
    (.ok ⟨s.output, g.report, g.diagnostics, .stored g.written g.unchanged⟩, t')

def preview (s : Settings) (t : FileTree) : Except InputFault GenerateReport := do
  let (report, diagnostics, files) := previewRound s.options (← s.declarations t)
  return ⟨s.output, report, diagnostics, .shown files⟩

def check (s : Settings) (t : FileTree) : Except InputFault CheckReport := do
  let ds ← s.declarations t
  let (report, diagnostics, ()) := process Sink.discard ds ()
  return ⟨s.source, ds.length, report, diagnostics⟩

end Settings

/-- How a run ends: with a text that was asked for, with a command line that makes no sense, with
input that cannot be used, or with a report. -/
inductive Ending
  | told (text : String)
  | misused (m : Misuse)
  | refused (fault : InputFault)
  | generated (report : GenerateReport)
  | checked (report : CheckReport) (asJson : Bool)
  deriving DecidableEq, Repr

namespace Ending

def ofGenerate : Except InputFault GenerateReport → Ending
  | .ok report => .generated report
  | .error fault => .refused fault

def ofCheck (asJson : Bool) : Except InputFault CheckReport → Ending
  | .ok report => .checked report asJson
  | .error fault => .refused fault

def exitCode : Ending → UInt32
  | .told _ => 0
  | .misused _ => 2
  | .refused _ => 1
  | .generated report => if report.hasErrors then 1 else 0
  | .checked report _ => if report.hasErrors then 1 else 0

def output : Ending → String
  | .told text => text
  | .misused _ => ""
  | .refused _ => ""
  | .generated report => Report.unlines report.lines
  | .checked report true => Report.unlines [report.json.render]
  | .checked report false => Report.unlines report.lines

def faultLines (fault : InputFault) : List String :=
  (fault.code ++ ": " ++ fault.message) ::
    match fault.help with
    | some help => ["  help: " ++ help]
    | none => []

def errorOutput : Ending → String
  | .told _ => ""
  | .misused m => Report.unlines ["error: " ++ m.message]
  | .refused fault => Report.unlines (faultLines fault)
  | .generated report => Report.unlines (report.diagnostics.flatMap Diagnostic.lines)
  | .checked _ true => ""
  | .checked report false => Report.unlines (report.diagnostics.flatMap Diagnostic.lines)

end Ending

def versionText : String := "companion 0.1.0\n"

def usageLines : List String :=
  ["Generate getter/setter companion types for annotated structs",
   "",
   "Usage: companion [-v] generate [-c FILE] [-s DIR] [-o DIR] [--dry-run]",
   "       companion [-v] check [-c FILE] [-s DIR] [--json]",
   "       companion completions SHELL"]

def Shell.script (shell : Shell) : String :=
  let words := " ".intercalate (Command.all.map Command.name ++ ["help"])
  match shell with
  | .bash => "complete -W '" ++ words ++ "' companion\n"
  | .fish => "complete -c companion -f -a '" ++ words ++ "'\n"
  | .zsh => "compctl -k '(" ++ words ++ ")' companion\n"
  | .elvish =>
    "set edit:completion:arg-completer[companion] = \x7b|@words| put " ++ words ++ " \x7d\n"
  | .powershell =>
    "Register-ArgumentCompleter -Native -CommandName companion -ScriptBlock \x7b -split '" ++
      words ++ "' \x7d\n"

def Invocation.run (i : Invocation) (t : FileTree) : Ending × FileTree :=
  match i with
  | .completions shell => (.told shell.script, t)
  | .check input asJson =>
    (.ofCheck asJson (do (← Settings.load t input none).check t), t)
  | .generate input output true =>
    (.ofGenerate (do (← Settings.load t input output).preview t), t)
  | .generate input output false =>
    match Settings.load t input output with
    | .error fault => (.refused fault, t)
    | .ok settings =>
      let (result, t') := settings.generate t
      (.ofGenerate result, t')

namespace Invocation

def input? : Invocation → Option SourceChoice
  | .generate input _ _ => some input
  | .check input _ => some input
  | .completions _ => none

def output? : Invocation → Option Path
  | .generate _ output _ => output
  | _ => none

def directories (i : Invocation) (t : FileTree) : List Path :=
  match i.input? with
  | none => []
  | some input =>
    match Settings.load t input i.output? with
    | .ok settings => [settings.source, settings.output]
    | .error _ => []

end Invocation

def run (words : List String) (t : FileTree) : Ending × FileTree :=
  match Invocation.parse words with
  | .ok invocation => invocation.run t
  | .error .help => (.told (Report.unlines usageLines), t)
  | .error .version => (.told versionText, t)
  | .error (.misuse m) => (.misused m, t)

end AccessorGen
