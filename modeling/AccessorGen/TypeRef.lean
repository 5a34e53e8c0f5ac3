import AccessorGen.Text.Pieces

/-! References to types. A reference is carried from a field to the accessors without a look at
what it means; only its text forms are defined here. -/

namespace AccessorGen

inductive Primitive
  | string | int | uint | float | bool | char | byte
  deriving DecidableEq, Repr

namespace Primitive

def all : List Primitive := [.string, .int, .uint, .float, .bool, .char, .byte]

def name : Primitive → String
  | .string => "string"
  | .int => "int"
  | .uint => "uint"
  | .float => "float"
  | .bool => "bool"
  | .char => "char"
  | .byte => "byte"

def sourceName : Primitive → String
  | .string => "String"
  | .int => "i64"
  | .uint => "u64"
  | .float => "f64"
  | .bool => "bool"
  | .char => "char"
  | .byte => "u8"

end Primitive

/-- A verbatim type has no structured form and is kept as source text. -/
inductive TypeRef
  | primitive (p : Primitive)
  | named (path : String)
  | generic (base : String) (args : List TypeRef)
  | verbatim (text : String)
  deriving Repr, Inhabited

namespace TypeRef

mutual

def decEq : (a b : TypeRef) → Decidable (a = b)
  | .primitive p, .primitive q => decidable_of_iff (p = q) (by simp)
  | .named s, .named t => decidable_of_iff (s = t) (by simp)
  | .verbatim s, .verbatim t => decidable_of_iff (s = t) (by simp)
  | .generic s as, .generic t bs =>
    have := decEqList as bs
    decidable_of_iff (s = t ∧ as = bs) (by simp)
  | .primitive _, .named _ | .primitive _, .generic .. | .primitive _, .verbatim _
  | .named _, .primitive _ | .named _, .generic .. | .named _, .verbatim _
  | .generic .., .primitive _ | .generic .., .named _ | .generic .., .verbatim _
  | .verbatim _, .primitive _ | .verbatim _, .named _ | .verbatim _, .generic .. =>
    isFalse (by simp)

def decEqList : (as bs : List TypeRef) → Decidable (as = bs)
  | [], [] => isTrue rfl
  | a :: as, b :: bs =>
    have := decEq a b
    have := decEqList as bs
    decidable_of_iff (a = b ∧ as = bs) (by simp)
  | [], _ :: _ | _ :: _, [] => isFalse (by simp)

end

instance : DecidableEq TypeRef := decEq

mutual

def display : TypeRef → String
  | .primitive p => p.name
  | .named s => s
  | .verbatim s => s
  | .generic base args => base ++ "<" ++ ", ".intercalate (displayAll args) ++ ">"

def displayAll : List TypeRef → List String
  | [] => []
  | t :: ts => t.display :: displayAll ts

end

/-- A base applied to argument texts; without arguments the brackets are left out. -/
def applied (base : String) (args : List String) : String :=
  if args.isEmpty then base else base ++ "<" ++ ", ".intercalate args ++ ">"

mutual

/-- The text in source, with source names. Named and verbatim types stand as they were written. -/
def source : TypeRef → String
  | .primitive p => p.sourceName
  | .named s => s
  | .verbatim s => s
  | .generic base args => applied base (sourceAll args)

def sourceAll : List TypeRef → List String
  | [] => []
  | t :: ts => t.source :: sourceAll ts

end

example : (generic "Map" [.primitive .int, generic "Vec" []]).source = "Map<i64, Vec>" := by decide

example : (generic "Map" [.primitive .uint, generic "Vec" []]).display = "Map<uint, Vec<>>" := by
  decide

end TypeRef

end AccessorGen
