import AccessorGen.File.Path
import AccessorGen.Namespace

/-! The namespace of a source file: the directories below the root, and the stem of the file unless
the file stands for its directory. -/

namespace AccessorGen

def directoryStems : List (List Char) :=
  [['l', 'i', 'b'], ['m', 'a', 'i', 'n'], ['m', 'o', 'd']]

def stemSegments (p : Path) : List String :=
  match p.stem with
  | none => []
  | some s => if directoryStems.contains s then [] else [.ofList s]

def moduleNamespace (root file : Path) : Namespace :=
  let below := (file.relativeTo root).getD file
  let dirs := match below.parent with
    | some dir => dir.components.map fun c => String.ofList c.text
    | none => []
  ⟨dirs ++ stemSegments below⟩

example : (moduleNamespace ⟨"src"⟩ ⟨"src/com/mod.rs"⟩).segments = ["com"] := by decide

example : (moduleNamespace ⟨"src"⟩ ⟨"src/a.b.rs"⟩).segments = ["a.b"] := by decide

end AccessorGen
