import AccessorGen.Declaration

/-! Companions: the fields taken from a class, one getter and one setter for each, and the name
made from the class name. Bodies have a fixed shape and are values, not text. -/

namespace AccessorGen

inductive Visibility
  | exposed | hidden
  deriving DecidableEq, Repr

structure Field where
  name : String
  type : TypeRef
  deriving DecidableEq, Repr

def Field.visibility (_ : Field) : Visibility := .hidden

inductive AccessorKind
  | getter | setter
  deriving DecidableEq, Repr

def AccessorKind.verb : AccessorKind → String
  | .getter => "get"
  | .setter => "set"

/-- A setter's target is qualified by the receiver, since parameter and field share a name. -/
inductive AccessorBody
  | returnField (field : String)
  | assignField (field param : String)
  deriving DecidableEq, Repr

structure Accessor where
  kind : AccessorKind
  method : String
  field : Field
  body : AccessorBody
  deriving DecidableEq, Repr

namespace Accessor

def visibility (_ : Accessor) : Visibility := .exposed

def returnType (a : Accessor) : Option TypeRef :=
  match a.kind with
  | .getter => some a.field.type
  | .setter => none

def param (a : Accessor) : Option (String × TypeRef) :=
  match a.body with
  | .assignField _ param => some (param, a.field.type)
  | .returnField _ => none

def isGetter (a : Accessor) : Bool := a.kind == .getter

def isSetter (a : Accessor) : Bool := a.kind == .setter

def methodName (kind : AccessorKind) (field : String) : String :=
  kind.verb ++ Text.capitalize field

def getter (f : Field) : Accessor :=
  ⟨.getter, methodName .getter f.name, f, .returnField f.name⟩

def setter (f : Field) : Accessor :=
  ⟨.setter, methodName .setter f.name, f, .assignField f.name f.name⟩

def pair (f : Field) : List Accessor := [getter f, setter f]

end Accessor

structure Companion where
  sourceName : String
  fields : List Field
  accessors : List Accessor
  deriving DecidableEq, Repr

namespace Companion

def nameFor (source : String) : String := source ++ "Data"

def name (c : Companion) : String := nameFor c.sourceName

def hasFields (c : Companion) : Bool := !c.fields.isEmpty

def visibility (_ : Companion) : Visibility := .exposed

end Companion

/-- The fields of a declaration in order; every other member is passed over. -/
def Declaration.fields (d : Declaration) : List Field :=
  d.members.filterMap fun m =>
    match m.kind with
    | .field type => some ⟨m.name, type⟩
    | _ => none

def accessorsOf (fields : List Field) : List Accessor := fields.flatMap Accessor.pair

theorem length_accessorsOf (fields : List Field) :
    (accessorsOf fields).length = 2 * fields.length := by
  induction fields with
  | nil => rfl
  | cons f fs ih =>
    simp only [accessorsOf, List.flatMap_cons, List.length_append] at ih ⊢
    simp only [Accessor.pair, List.length_cons, List.length_nil, ih]
    omega

example : Companion.nameFor "User" = "UserData" ∧ Accessor.methodName .getter "_id" = "get_id" := by
  decide

end AccessorGen
