import AccessorGen.Source.Token

/-! Syntax trees of types and items, as far as accessors need them. A type keeps the tokens it is
written back with. Names are kept as they stand, a raw mark included. -/

namespace AccessorGen.Source

mutual

/-- `path` is a path in front of which a qualification `<T as U>` or a `::` may stand; `bounds` is a
list of bounds without a leading keyword, and tells whether it has just one. -/
inductive TypeExpr
  | path (qualified rooted : Bool) (segments : List Segment) (printed : List Token)
  | paren (inner : TypeExpr) (printed : List Token)
  | bounds (single : Bool) (printed : List Token)
  | other (printed : List Token)

/-- A name with no arguments, with arguments in angle brackets, or with a list of inputs. -/
inductive Segment
  | plain (name : Word)
  | angle (name : Word) (args : List Argument)
  | round (name : Word)

/-- What stands between angle brackets; lifetimes, constants and bindings are not looked into. -/
inductive Argument
  | type (type : TypeExpr)
  | other

end

namespace TypeExpr

def printed : TypeExpr → List Token
  | .path _ _ _ p => p
  | .paren _ p => p
  | .bounds _ p => p
  | .other p => p

def isName (name : String) : TypeExpr → Bool
  | .path false false [.plain n] _ => n.text == name
  | _ => false

def isPlainPath : TypeExpr → Bool
  | .path false _ _ _ => true
  | _ => false

end TypeExpr

namespace Segment

def name : Segment → Word
  | .plain n => n
  | .angle n _ => n
  | .round n => n

def isPlain : Segment → Bool
  | .plain _ => true
  | _ => false

end Segment

inductive Fields
  | named (fields : List (Word × TypeExpr))
  | tuple
  | unit

inductive ImplMember
  | function (name : Word) (hasReceiver : Bool) (output : Option TypeExpr)
  | constant (name : Word) (type : TypeExpr)
  | alias (name : Word)
  | other

/-- An item that holds no other items. `block` is an `impl` block, and `foreign` stands for imports
and declarations of foreign code. -/
inductive Definition
  | struct (name : Word) (fields : Fields)
  | enum (name : Word)
  | interface (name : Word)
  | union (name : Word)
  | function (name : Word)
  | constant (name : Word)
  | static (name : Word)
  | alias (name : Word)
  | traitAlias (name : Word)
  | block (ofTrait : Bool) (self : TypeExpr) (members : List ImplMember)
  | macroCall (name : Option Word)
  | foreign
  | verbatim

/-- `marks` are the last segments of the attributes' paths. -/
inductive Item
  | module (marks : List String) (name : Word) (items : List Item)
  | single (marks : List String) (definition : Definition)

namespace Item

def addMarks (outer : List String) : Item → Item
  | .module marks name items => .module (outer ++ marks) name items
  | .single marks d => .single (outer ++ marks) d

def marks : Item → List String
  | .module ms _ _ => ms
  | .single _ .verbatim => []
  | .single ms _ => ms

end Item

end AccessorGen.Source
