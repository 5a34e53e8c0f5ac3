import AccessorGen.Companion.Basic

/-! Checks on fields before a companion is built. Names and types go into the output as they are,
so a name that is no identifier and a type that could leave its place are refused. -/

namespace AccessorGen

inductive FieldFault
  | badName (name : String)
  | badType (field type : String)
  | collision (method first second : String)
  deriving DecidableEq, Repr

def FieldFault.message : FieldFault → String
  | .badName name => "field name '" ++ name ++ "' is not a valid identifier"
  | .badType field type => "field '" ++ field ++ "' has unsupported type '" ++ type ++ "'"
  | .collision method first second =>
    "accessor '" ++ method ++ "' would be generated for both '" ++ first ++ "' and '" ++
      second ++ "'"

namespace Validity

def pathWords : List String := ["self", "Self", "super", "crate"]

def fieldName (name : String) : Bool := Text.isIdentifier name && !pathWords.contains name

def pathSegment (segment : List Char) : Bool :=
  Text.isIdentifierChars (Text.without ['r', '#'] segment)

def pathChars (s : List Char) : Bool :=
  let rest := Text.without [':', ':'] s
  !rest.isEmpty && (Text.cutColons rest).all pathSegment

/-- Identifiers joined by `::`, each perhaps raw, perhaps with a leading `::`. -/
def path (s : String) : Bool := pathChars s.toList

def forbidden : List (List Char) :=
  [['\x7b'], ['\x7d'], ['"'], ['/', '/'], ['/', '*'], ['\n'], ['\r']]

def closes : Char → Option Char
  | ')' => some '('
  | ']' => some '['
  | '>' => some '<'
  | _ => none

/-- Reads the brackets with a stack of the open ones; `afterDash` says that the last character was
a dash, since the head of an arrow closes nothing. A semicolon needs a square bracket on top. -/
def balanced (stack : List Char) (afterDash : Bool) : List Char → Bool
  | [] => stack.isEmpty
  | c :: r =>
    let dash := c == '-'
    if c == '(' || c == '[' || c == '<' then balanced (c :: stack) dash r
    else if c == '>' && afterDash then balanced stack dash r
    else match closes c with
      | some o =>
        match stack with
        | top :: below => top == o && balanced below dash r
        | [] => false
      | none =>
        if c == ';' && stack.head? != some '[' then false else balanced stack dash r

def verbatimChars (s : List Char) : Bool :=
  !(Text.trim s).isEmpty && forbidden.all (fun f => !Text.occurs f s) && balanced [] false s

def verbatim (s : String) : Bool := verbatimChars s.toList

mutual

def type : TypeRef → Bool
  | .primitive _ => true
  | .named s => path s
  | .verbatim s => verbatim s
  | .generic base args => path base && types args

def types : List TypeRef → Bool
  | [] => true
  | t :: ts => type t && types ts

end

end Validity

def Field.check (f : Field) : Except FieldFault Unit :=
  if !Validity.fieldName f.name then .error (.badName f.name)
  else if !Validity.type f.type then .error (.badType f.name f.type.display)
  else .ok ()

namespace Accessor

def checkFrom (seen : List (String × String)) : List Accessor → Except FieldFault Unit
  | [] => .ok ()
  | a :: as =>
    match seen.lookup a.method with
    | some first => .error (.collision a.method first a.field.name)
    | none => checkFrom ((a.method, a.field.name) :: seen) as

def checkDistinct (as : List Accessor) : Except FieldFault Unit := checkFrom [] as

end Accessor

example : Validity.verbatim "fn(x: [u8; 2]) -> !" = true ∧ Validity.verbatim "(u8; 2)" = false := by
  decide

end AccessorGen
