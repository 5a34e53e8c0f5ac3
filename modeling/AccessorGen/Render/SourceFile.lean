import AccessorGen.Render.Item

/-! A generated file: groups of fragments with a blank line between two groups, under an optional
header comment. -/

namespace AccessorGen.Render

structure SourceFile where
  groups : List (List Fragment) := []

namespace SourceFile

def add (f : SourceFile) (item : List Fragment) : SourceFile := ⟨f.groups ++ [item]⟩

/-- Adds items without blank lines between them; nothing is added for no fragments at all. -/
def addGroup (f : SourceFile) (items : List (List Fragment)) : SourceFile :=
  if items.flatten.isEmpty then f else f.add items.flatten

def isEmpty (f : SourceFile) : Bool := f.groups.isEmpty

def fragments (f : SourceFile) : List Fragment :=
  match f.groups with
  | [] => []
  | g :: gs => g ++ gs.flatMap fun g => .blank :: g

def render (f : SourceFile) (indent : Indent) : String := Writer.render indent f.fragments

def renderUnder (f : SourceFile) (header : String) (indent : Indent) : String :=
  let content := f.render indent
  if content.isEmpty then header ++ "\n" else header ++ "\n\n" ++ content

end SourceFile

end AccessorGen.Render
