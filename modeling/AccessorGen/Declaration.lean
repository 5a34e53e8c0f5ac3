import AccessorGen.Namespace
import AccessorGen.TypeRef

/-! Annotated declarations as a round receives them: a name, its namespace, a kind and the members
in source order. -/

namespace AccessorGen

/-- A class is a struct with named fields or none; a companion exists for classes alone. -/
inductive DeclarationKind
  | «class» | tupleStruct | enum | interface | union | function | other
  deriving DecidableEq, Repr

namespace DeclarationKind

def isClass (k : DeclarationKind) : Bool := k == .class

def display : DeclarationKind → String
  | .class => "class"
  | .tupleStruct => "tuple struct"
  | .enum => "enum"
  | .interface => "interface"
  | .union => "union"
  | .function => "function"
  | .other => "item"

end DeclarationKind

inductive MemberKind
  | field (type : TypeRef)
  | method
  | constructor
  | constant (type : TypeRef)
  | typeAlias
  deriving DecidableEq, Repr

structure Member where
  name : String
  kind : MemberKind
  deriving DecidableEq, Repr

def Member.isField (m : Member) : Bool :=
  match m.kind with
  | .field _ => true
  | _ => false

structure Declaration where
  name : String
  space : Namespace
  kind : DeclarationKind
  members : List Member := []
  deriving DecidableEq, Repr

def Declaration.qualifiedName (d : Declaration) : String := d.space.qualify d.name

end AccessorGen
