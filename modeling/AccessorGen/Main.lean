import AccessorGen.File.Changes
import AccessorGen.Run.Console

/-! The program. What a run looks at is read into a file tree, the run is carried out on the tree,
and what it made there is written to the disk. -/

namespace AccessorGen.Main

def nameOf (place : Place) : String := "/" ++ "/".intercalate place

/-- A directory with all it holds, or a file; nothing where nothing is. -/
partial def readNode (name : String) : IO (Option Node) := do
  match ← (IO.FS.realPath name).toBaseIO with
  | .error _ => return none
  | .ok path =>
    if ← path.isDir then
      let mut entries : List (String × Node) := []
      for entry in ← path.readDir do
        if let some n ← readNode (name ++ "/" ++ entry.fileName) then
          entries := (entry.fileName, n) :: entries
      return some (.dir entries)
    else return some (.file (.ofBytes (← IO.FS.readBinFile name).toList))

def readShallow (name : String) : IO (Option Node) := do
  match ← (IO.FS.realPath name).toBaseIO with
  | .error _ => return none
  | .ok path => if ← path.isDir then return some (.dir []) else readNode name

def touch (t : FileTree) (place : Place) : IO FileTree := do
  if (t.root.get place).isSome then return t
  match ← readShallow (nameOf place) with
  | some n => return { t with root := .set n t.root place }
  | none => return t

def load (t : FileTree) (p : Path) : IO FileTree := do
  let places := t.placesTo p
  let t' ← places.foldlM touch t
  match places.getLast? with
  | none => return t'
  | some place =>
    match ← readNode (nameOf place) with
    | some n => return { t' with root := .set n t'.root place }
    | none => return t'

def start : IO FileTree := do
  let here := ((← IO.currentDir).toString.splitOn "/").filter (· ≠ "")
  let t : FileTree := ⟨.dir [], here⟩
  (t.placesTo ⟨nameOf here⟩).foldlM touch t

def store (change : Path × Option Content) : IO Unit :=
  match change with
  | (p, none) => IO.FS.createDir p.text
  | (p, some (.text s)) => IO.FS.writeFile p.text s
  | (p, some (.binary bytes)) => IO.FS.writeBinFile p.text ⟨bytes.toArray⟩

def panicCode : UInt32 := 101

def tell (text : String) : IO Bool := do
  match ← (IO.eprint text).toBaseIO with
  | .ok () => return true
  | .error _ => return false

end AccessorGen.Main

open AccessorGen in
def main (words : List String) : IO UInt32 := do
  let empty ← Main.start
  let loaded ← match Invocation.parse words with
    | .error _ => pure empty
    | .ok invocation => do
      let configured ← (invocation.input?.map (·.config)).toList.foldlM Main.load empty
      (invocation.directories configured).foldlM Main.load configured
  let (ending, made) := run words loaded
  (loaded.changes made).forM Main.store
  IO.print ending.output
  let code? ← ending.conclude Main.tell fun _ => return ()
  return code?.getD Main.panicCode
