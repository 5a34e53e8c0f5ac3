import AccessorGen.File.Tree

/-! Writing generated files. A file that already holds the text is left alone, else the directories
above it are made and it is written. -/

namespace AccessorGen

def generatedMark : String := "// @generated by companion"

inductive WriteOutcome
  | written | unchanged
  deriving DecidableEq, Repr

/-- The step that failed, the path it failed on, and why. -/
inductive WriteFault
  | directory (path : Path) (cause : OsError)
  | file (path : Path) (cause : OsError)
  deriving DecidableEq, Repr

namespace WriteFault

def summary : WriteFault → String
  | .directory path _ => "failed to create directory '" ++ path.text ++ "'"
  | .file path _ => "failed to write '" ++ path.text ++ "'"

def cause : WriteFault → OsError
  | .directory _ e => e
  | .file _ e => e

def message (f : WriteFault) : String := f.summary ++ ": " ++ f.cause.message

end WriteFault

structure OutputFile where
  path : Path
  content : String
  deriving DecidableEq, Repr

namespace OutputFile

def isCurrent (f : OutputFile) (t : FileTree) : Bool := t.readText f.path == some f.content

def makeParent (f : OutputFile) (t : FileTree) : Except WriteFault Unit × FileTree :=
  match f.path.parent with
  | none => (.ok (), t)
  | some dir =>
    match t.makeDirs dir with
    | (.ok (), t') => (.ok (), t')
    | (.error e, t') => (.error (.directory dir e), t')

/-- The outcome and the tree afterwards; directories made before a failure stay. -/
@[irreducible]
def write (f : OutputFile) (t : FileTree) : Except WriteFault WriteOutcome × FileTree :=
  if f.isCurrent t then (.ok .unchanged, t)
  else match f.makeParent t with
    | (.error e, t') => (.error e, t')
    | (.ok (), t') =>
      match t'.writeText f.path f.content with
      | .error e => (.error (.file f.path e), t')
      | .ok t'' => (.ok .written, t'')

end OutputFile

end AccessorGen
