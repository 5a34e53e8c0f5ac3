import AccessorGen.Config.Decode
import AccessorGen.File.Tree

/-! Settings with the file they come from. Directories in them are relative to that of the file. -/

namespace AccessorGen

structure ConfigFile where
  path : Path
  content : String
  config : Config
  deriving DecidableEq, Repr

namespace Config

def fileName : String := "companion.toml"

def read (t : FileTree) (path : Path) : Except InputFault (String × Config) :=
  match t.readText path with
  | none => .error (.unreadable path)
  | some content => do return (content, ← parse ⟨content, path.text⟩)

end Config

namespace ConfigFile

def openAt (t : FileTree) (path : Path) : Except InputFault ConfigFile := do
  let (content, config) ← Config.read t path
  return ⟨path, content, config⟩

def openOrDefault (t : FileTree) (path : Path) : Except InputFault ConfigFile :=
  if t.contains path then openAt t path else .ok ⟨path, "", {}⟩

def root (f : ConfigFile) : Path := f.path.parent.getD ⟨""⟩

def sourceDir (f : ConfigFile) : Path := f.root.push f.config.source

def outputDir (f : ConfigFile) : Path := f.root.push f.config.output

end ConfigFile

end AccessorGen
