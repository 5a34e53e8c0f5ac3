import AccessorGen.Companion.Validity

/-! From a declaration to its companion. The kind is checked first, then every field in order,
then the method names. -/

namespace AccessorGen

/-- A declaration that gets no companion; nothing has been written when this arises. -/
inductive Rejection
  | notAClass (name : String) (kind : DeclarationKind)
  | invalid (name : String) (fault : FieldFault)
  deriving DecidableEq, Repr

def Rejection.message : Rejection → String
  | .notAClass name _ => "CustomLombok can not be used on " ++ name
  | .invalid name fault => "cannot generate companion for " ++ name ++ ": " ++ fault.message

def checkFields (fields : List Field) : Except FieldFault Unit := fields.forM Field.check

def companionOf (source : String) (fields : List Field) : Except FieldFault Companion := do
  checkFields fields
  let accessors := accessorsOf fields
  Accessor.checkDistinct accessors
  return ⟨source, fields, accessors⟩

def Declaration.companion (d : Declaration) : Except Rejection Companion :=
  if d.kind.isClass then (companionOf d.name d.fields).mapError (.invalid d.name)
  else .error (.notAClass d.name d.kind)

end AccessorGen
