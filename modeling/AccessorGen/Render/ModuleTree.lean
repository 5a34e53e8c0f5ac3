import AccessorGen.File.Write
import AccessorGen.Render.Names
import AccessorGen.Render.SourceFile

/-! The tree of modules below an output directory. Every directory that holds companions, or leads
to one, declares its children in a file of its own, so that one declaration reaches all of them. -/

namespace AccessorGen

/-- Directories in path order, each with the modules it declares in order and without repetition. -/
structure ModuleTree where
  dirs : List (Path × List String) := []
  deriving DecidableEq, Repr

namespace ModuleTree

def empty : ModuleTree := {}

def isEmpty (t : ModuleTree) : Bool := t.dirs.isEmpty

def addName (name : String) : List String → List String
  | [] => [name]
  | n :: ns =>
    if name = n then n :: ns
    else if name < n then name :: n :: ns
    else n :: addName name ns

/-- Declares a module in a directory; of two spellings of a directory the first stays. -/
def declareIn (dir : Path) (name : String) : List (Path × List String) → List (Path × List String)
  | [] => [(dir, [name])]
  | (d, names) :: rest =>
    if dir.same d then (d, addName name names) :: rest
    else if dir.le d then (dir, [name]) :: (d, names) :: rest
    else (d, names) :: declareIn dir name rest

def declare (t : ModuleTree) (dir : Path) (name : String) : ModuleTree :=
  ⟨declareIn dir name t.dirs⟩

def withoutRawMark (segment : String) : String :=
  match segment.toList with
  | 'r' :: '#' :: rest => .ofList rest
  | _ => segment

def insertAlong (companion : String) : List String → Path → ModuleTree → ModuleTree
  | [], dir, t => t.declare dir (Names.moduleOf companion)
  | segment :: segments, dir, t =>
    let name := withoutRawMark segment
    insertAlong companion segments (dir.push name) (t.declare dir name)

def insert (t : ModuleTree) (ns : Namespace) (companion : String) : ModuleTree :=
  insertAlong companion ns.segments ⟨""⟩ t

def filePath (dir : Path) : Path := dir.push "mod.rs"

def header : String := generatedMark ++ ". Do not edit by hand."

def fileText (modules : List String) : String :=
  (({} : Render.SourceFile).addGroup
    (modules.map fun m => ({ name := Names.safe m } : Render.ModuleItem).fragments)).renderUnder
    header .four

def files (t : ModuleTree) : List OutputFile :=
  t.dirs.map fun (dir, modules) => ⟨filePath dir, fileText modules⟩

example : ((empty.insert ⟨["com", "r#type"]⟩ "UserData").dirs.map fun (d, ns) => (d.text, ns)) =
    [("", ["com"]), ("com", ["type"]), ("com/type", ["user_data"])] := by decide

end ModuleTree

end AccessorGen
