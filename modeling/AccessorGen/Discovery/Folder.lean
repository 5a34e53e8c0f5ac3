import AccessorGen.Discovery.ModulePath
import AccessorGen.Discovery.SourceFile
import AccessorGen.File.Tree

/-! The declarations of all source files below a directory, the files by the order of paths. -/

namespace AccessorGen

mutual

def Node.sources (at_ : Path) : Node → List (Path × Content)
  | .file c => if at_.ending = some ['r', 's'] then [(at_, c)] else []
  | .dir entries => sourcesAll at_ entries

def Node.sourcesAll (at_ : Path) : List (String × Node) → List (Path × Content)
  | [] => []
  | (s, n) :: rest => n.sources (at_.push s) ++ sourcesAll at_ rest

end

def sortSources (files : List (Path × Content)) : List (Path × Content) :=
  files.mergeSort fun a b => a.1.le b.1

def fileDeclarations (root : Path) (marker : String) (path : Path) :
    Content → Except InputFault (List Declaration)
  | .binary _ => .error (.unreadable path)
  | .text s => SourceText.declarations ⟨s, path.text⟩ (moduleNamespace root path) marker

def filesDeclarations (root : Path) (marker : String) :
    List (Path × Content) → Except InputFault (List Declaration)
  | [] => .ok []
  | (path, c) :: rest => do
    let found ← fileDeclarations root marker path c
    return found ++ (← filesDeclarations root marker rest)

def discover (t : FileTree) (root : Path) (marker : String) :
    Except InputFault (List Declaration) :=
  match t.find root with
  | .ok (.dir entries) =>
    filesDeclarations root marker (sortSources (Node.sourcesAll root entries))
  | _ => .error (.missingSource root)

end AccessorGen
