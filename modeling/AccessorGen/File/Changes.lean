import AccessorGen.File.Tree

/-! What has to be made to turn one file tree into another that has everything it has. -/

namespace AccessorGen

namespace Node

def entryAt (old : Option Node) (name : String) : Option Node :=
  match old with
  | some (.dir entries) => entries.lookup name
  | _ => none

mutual

def changes (at_ : Path) (old : Option Node) : Node → List (Path × Option Content)
  | .file c =>
    match old with
    | some (.file before) => if c = before then [] else [(at_, some c)]
    | _ => [(at_, some c)]
  | .dir entries =>
    match old with
    | some (.dir _) => changesAll at_ old entries
    | _ => (at_, none) :: changesAll at_ old entries

def changesAll (at_ : Path) (old : Option Node) :
    List (String × Node) → List (Path × Option Content)
  | [] => []
  | (s, n) :: rest => n.changes (at_.push s) (entryAt old s) ++ changesAll at_ old rest

end

end Node

namespace FileTree

def changes (old new : FileTree) : List (Path × Option Content) :=
  new.root.changes ⟨"/"⟩ (some old.root)

def placesTo (t : FileTree) (p : Path) : List Place :=
  let rec go (place : Place) : List Component → List Place
    | [] => [place]
    | c :: cs => place :: go (step place c) cs
  go (if p.isAbsolute then [] else t.here) p.components

end FileTree

end AccessorGen
