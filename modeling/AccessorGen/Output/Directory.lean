import AccessorGen.Render.CompanionFile
import AccessorGen.Render.ModuleTree
import AccessorGen.Round.Process

/-! A round written below an output directory, and the module files after it. The state goes along
with the file tree; a failed write changes no list and declares no module. -/

namespace AccessorGen

structure Directory where
  root : Path
  options : RenderOptions
  modules : ModuleTree := {}
  written : List Path := []
  unchanged : List Path := []
  deriving DecidableEq, Repr

namespace Directory

def record (d : Directory) (path : Path) : WriteOutcome → Directory
  | .written => { d with written := d.written ++ [path] }
  | .unchanged => { d with unchanged := d.unchanged ++ [path] }

def under (d : Directory) (f : OutputFile) : OutputFile := { f with path := d.root.join f.path }

def put (d : Directory) (f : OutputFile) (t : FileTree) :
    Except WriteFault Unit × Directory × FileTree :=
  match (d.under f).write t with
  | (.ok outcome, t') => (.ok (), d.record (d.under f).path outcome, t')
  | (.error e, t') => (.error e, d, t')

def writeCompanion (ns : Namespace) (c : Companion) :
    Directory × FileTree → Except String Unit × Directory × FileTree
  | (d, t) =>
    match d.put (Render.companionFile ns c d.options) t with
    | (.ok (), d', t') => (.ok (), { d' with modules := d'.modules.insert ns c.name }, t')
    | (.error e, d', t') => (.error e.message, d', t')

def sink : Sink (Directory × FileTree) := ⟨writeCompanion⟩

def putAll : List OutputFile → Directory → FileTree → Except WriteFault Unit × Directory × FileTree
  | [], d, t => (.ok (), d, t)
  | f :: fs, d, t =>
    match d.put f t with
    | (.ok (), d', t') => putAll fs d' t'
    | (.error e, d', t') => (.error e, d', t')

def finish (d : Directory) (t : FileTree) : Except WriteFault Unit × Directory × FileTree :=
  putAll d.modules.files d t

end Directory

structure Generation where
  report : RoundReport
  diagnostics : List Diagnostic
  written : List Path
  unchanged : List Path
  deriving DecidableEq, Repr

/-- A round below an output directory. A module file that cannot be written gives one more error,
which names no element. -/
def generateRound (options : RenderOptions) (output : Path) (ds : List Declaration) (t : FileTree) :
    Generation × FileTree :=
  let (report, diagnostics, d, t') := process Directory.sink ds (⟨output, options, {}, [], []⟩, t)
  match d.finish t' with
  | (.ok (), d', t'') => (⟨report, diagnostics, d'.written, d'.unchanged⟩, t'')
  | (.error e, d', t'') =>
    let diagnostics := diagnostics ++ [.error ("FATAL ERROR: " ++ e.message)]
    (⟨report, diagnostics, d'.written, d'.unchanged⟩, t'')

end AccessorGen
