import AccessorGen.Declaration
import AccessorGen.Discovery.TypeConversion
import AccessorGen.Text.Identifier

/-! The annotated items of a file as declarations, in source order, inline modules included. A class
gets the members of the plain `impl` blocks beside it. -/

namespace AccessorGen

open Source

def fieldMembers (fields : List (Word × TypeExpr)) : List Member :=
  fields.map fun f => ⟨Text.plainWord f.1, .field f.2.reference⟩

def structDeclaration (name : String) (space : Namespace) : Fields → Declaration
  | .named fields => ⟨name, space, .class, fieldMembers fields⟩
  | .tuple => ⟨name, space, .tupleStruct, []⟩
  | .unit => ⟨name, space, .class, []⟩

def otherDeclaration (name : String) (space : Namespace) : Declaration := ⟨name, space, .other, []⟩

def Source.Definition.declaration (space : Namespace) : Definition → Declaration
  | .struct name fields => structDeclaration (Text.plainWord name) space fields
  | .enum name => ⟨Text.plainWord name, space, .enum, []⟩
  | .interface name => ⟨Text.plainWord name, space, .interface, []⟩
  | .union name => ⟨Text.plainWord name, space, .union, []⟩
  | .function name => ⟨Text.plainWord name, space, .function, []⟩
  | .constant name => otherDeclaration (Text.plainWord name) space
  | .static name => otherDeclaration (Text.plainWord name) space
  | .alias name => otherDeclaration (Text.plainWord name) space
  | .traitAlias name => otherDeclaration (Text.plainWord name) space
  | .macroCall (some name) => otherDeclaration (Text.plainWord name) space
  | .block _ self _ => otherDeclaration (Spelling.text self.printed) space
  | .macroCall none => otherDeclaration "item" space
  | .foreign => otherDeclaration "item" space
  | .verbatim => otherDeclaration "item" space

/-- A function without a receiver that gives the type itself is a constructor. -/
def functionKind (type : String) (hasReceiver : Bool) : Option TypeExpr → MemberKind
  | some output =>
    if !hasReceiver && (output.isName "Self" || output.isName type) then .constructor else .method
  | none => .method

def Source.ImplMember.member? (type : String) : ImplMember → Option Member
  | .function name hasReceiver output =>
    some ⟨Text.plainWord name, functionKind type hasReceiver output⟩
  | .constant name t => some ⟨Text.plainWord name, .constant t.reference⟩
  | .alias name => some ⟨Text.plainWord name, .typeAlias⟩
  | .other => none

def Source.Item.membersOf (type : String) : Item → List Member
  | .single _ (.block false self members) =>
    if self.isName type then members.filterMap (ImplMember.member? type) else []
  | _ => []

def inherentMembers (items : List Item) (type : String) : List Member :=
  items.flatMap (Item.membersOf type)

def withInherent (items : List Item) (d : Declaration) : Declaration :=
  if d.kind.isClass then { d with members := d.members ++ inherentMembers items d.name } else d

def Source.Item.declaration (space : Namespace) : Item → Declaration
  | .module _ name _ => otherDeclaration (Text.plainWord name) space
  | .single _ d => d.declaration space

def isAnnotated (marker : String) (i : Item) : Bool := i.marks.contains marker

def ownDeclaration (marker : String) (siblings : List Item) (space : Namespace) (i : Item) :
    List Declaration :=
  if isAnnotated marker i then [withInherent siblings (i.declaration space)] else []

mutual

def scanItem (marker : String) (siblings : List Item) (space : Namespace) :
    Item → List Declaration
  | .module marks name items =>
    ownDeclaration marker siblings space (.module marks name items) ++
      scanAmong marker items (space.child (Text.plainWord name)) items
  | .single marks d => ownDeclaration marker siblings space (.single marks d)

def scanAmong (marker : String) (siblings : List Item) (space : Namespace) :
    List Item → List Declaration
  | [] => []
  | i :: rest =>
    scanItem marker siblings space i ++ scanAmong marker siblings space rest

end

def scan (marker : String) (space : Namespace) (items : List Item) : List Declaration :=
  scanAmong marker items space items

end AccessorGen
