import AccessorGen.Source.Spelling
import AccessorGen.Source.Syntax
import AccessorGen.TypeRef

/-! From types as they are read to references. A path is a named type, a path whose last name alone
has arguments, all of them types, is a generic one, parentheses vanish, and all else is verbatim. -/

namespace AccessorGen.Source

namespace TypeExpr

def pathStart (rooted : Bool) : String := if rooted then "::" else ""

mutual

def reference : TypeExpr → TypeRef
  | .path true _ _ printed => .verbatim (Spelling.text printed)
  | .path false rooted segments printed =>
    match pathReference (pathStart rooted) segments with
    | some t => t
    | none => .verbatim (Spelling.text printed)
  | .paren inner _ => inner.reference
  | .bounds _ printed => .verbatim (Spelling.text printed)
  | .other printed => .verbatim (Spelling.text printed)

def pathReference (start : String) : List Segment → Option TypeRef
  | [] => none
  | [s] => segmentReference start s
  | .plain name :: rest => pathReference (start ++ name ++ "::") rest
  | _ => none

def segmentReference (start : String) : Segment → Option TypeRef
  | .plain name => some (.named (start ++ name))
  | .angle name args =>
    match argumentReferences args with
    | some refs => some (.generic (start ++ name) refs)
    | none => none
  | .round _ => none

def argumentReferences : List Argument → Option (List TypeRef)
  | [] => some []
  | .type t :: rest =>
    match argumentReferences rest with
    | some refs => some (t.reference :: refs)
    | none => none
  | .other :: _ => none

end

@[simp] theorem reference_paren (t : TypeExpr) (printed : List Token) :
    (paren t printed).reference = t.reference := by rw [reference]

end TypeExpr

end AccessorGen.Source
