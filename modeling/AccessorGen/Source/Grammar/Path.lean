import AccessorGen.Source.Grammar.Basic

/-! Attributes, blocks, and paths with their arguments. -/

namespace AccessorGen.Source.Grammar

open Reader

def startsName (ts : List Token) : Bool := Look.name ts || Look.pathWord ts

/-- Names joined by `::`, without arguments. -/
def namePath : Reader (List Word) := do
  discard (mark? "::")
  if ← sees startsName then
    chain anyWord do
      if ← mark? "::" then
        if ← sees startsName then return true else fail "expected path segment after `::`"
      else return false
  else return [← name]

/-- The path of an attribute, which may also be the word `unsafe`. -/
def attributePath : Reader (List Word) := do
  if ← sees (Look.word "unsafe") then return [← anyWord] else namePath

def isGroup : List Token → Bool
  | .group .. :: _ => true
  | _ => false

/-- The inside of an attribute: a path, and possibly a group or a value. Gives the last name of the
path. -/
def attributeBody (g : Grammar) : Reader String := do
  let names ← attributePath
  if ← sees isGroup then discard anyGroup
  else if ← sees fun ts => Look.assigns ts && !Look.mark "==" ts then
    mark "="
    if ← sees fun ts => Look.mark "#" ts && Look.second Look.bracket ts then
      fail "unexpected attribute inside of attribute"
    discard g.expr
  return (names.getLast?.map Word.text).getD ""

def outerAttribute (g : Grammar) : Reader String := do
  mark "#"
  inside .bracket g.attributeBody

def innerAttribute (g : Grammar) : Reader String := do
  mark "#"
  mark "!"
  inside .bracket g.attributeBody

/-- The attributes in front of a thing; gives the last names of their paths. -/
def outer (g : Grammar) : Reader (List String) := manyWhile (Look.mark "#") g.outerAttribute

def inner (g : Grammar) : Reader (List String) :=
  manyWhile (fun ts => Look.mark "#" ts && Look.second (Look.mark "!") ts) g.innerAttribute

def statements (g : Grammar) : Reader Unit := do
  discard <| repeating do
    discard (manyWhile (Look.mark ";") (mark ";"))
    if ← atEnd then return none
    if ← g.statement then
      if !(← atEnd) then fail "unexpected token, expected `;`"
    return some ()

def block (g : Grammar) : Reader Unit := inside .brace g.statements

def body (g : Grammar) : Reader (List String) := inside .brace do
  let marks ← g.inner
  g.statements
  return marks

/-- A path as it is read. `qualified` is a path inside a type, such as `<T as U>::V`. -/
structure PathRead where
  qualified : Bool
  rooted : Bool
  segments : List Segment

namespace PathRead

def isNamePath (p : PathRead) : Bool := !p.qualified && p.segments.all Segment.isPlain

def endsPlain (p : PathRead) : Bool :=
  match p.segments.getLast? with
  | some s => s.isPlain
  | none => false

end PathRead

def constantArgument (g : Grammar) : Reader Unit := do
  if ← sees Look.constant then constant
  else if ← sees Look.name then discard name
  else if ← sees Look.brace then discard g.body
  else fail "unexpected token"

/-- Things joined by a plus, up to a place where the list stops. A plus may stand at the end. -/
def plusList {α : Type} (stop : List Token → Bool) (p : Reader α) : Reader (List α) := do
  if ← sees stop then return []
  chain p do
    if ← mark? "+" then return !(← sees stop) else return false

def startsConstant (ts : List Token) : Bool := Look.constant ts || Look.brace ts

def mayBind : TypeExpr → Bool
  | .path false false [.plain _] _ => true
  | .path false false [.angle ..] _ => true
  | _ => false

def argument (g : Grammar) : Reader (Bool × Argument) := do
  if ← sees fun ts => Look.lifetime ts && !Look.second (Look.mark "+") ts then
    lifetime
    return (true, .other)
  if ← sees startsConstant then
    g.constantArgument
    return (false, .other)
  let t ← g.type true
  if !mayBind t then return (false, .type t)
  if ← mark? "=" then
    if ← sees startsConstant then g.constantArgument else discard (g.type true)
    return (false, .other)
  if ← mark? ":" then
    discard (plusList (Look.marks [",", ">"]) (g.bound false true))
    return (false, .other)
  return (false, .type t)

structure PrintedArgument where
  isLifetime : Bool
  argument : Argument
  printed : List Token
  comma : List Token

def readArgument (g : Grammar) : Reader (Option PrintedArgument) := do
  if ← sees (Look.mark ">") then return none
  let ((isLifetime, argument), printed) ← apart (argument g)
  let comma ← if ← sees (Look.mark ">") then pure [] else do pure (← apart (mark ",")).2
  return some ⟨isLifetime, argument, printed, comma⟩

def argumentTokens (span : Span) : List PrintedArgument → List Token
  | [] => []
  | [a] => a.printed ++ a.comma
  | a :: rest =>
    a.printed ++ (if a.comma.isEmpty then [.mark ',' false span] else a.comma) ++
      argumentTokens span rest

/-- Arguments in angle brackets. They are written back with the lifetimes in front. -/
def angleArguments (g : Grammar) : Reader (List Argument) := do
  discard (mark? "::")
  mark "<"
  let span ← here
  let args ← repeating g.readArgument
  emit (argumentTokens span (args.filter (·.isLifetime) ++ args.filter (!·.isLifetime)))
  mark ">"
  return args.map (·.argument)

/-- One segment. In an expression, arguments need a `::` in front. -/
def segment (g : Grammar) (bare : Bool) : Reader Segment := do
  if ← sees (Look.words ["super", "self", "crate", "try"]) then return .plain (← anyWord)
  let n ← if ← sees (Look.word "Self") then anyWord else name
  if ← sees fun ts => (bare && Look.mark "<" ts && !Look.mark "<=" ts) ||
      (Look.mark "::" ts && Look.third (Look.mark "<") ts) then
    return .angle n (← g.angleArguments)
  else return .plain n

/-- A path of segments; a `::` in front of a parenthesis is left alone. -/
def plainPath (g : Grammar) (bare : Bool) : Reader PathRead := do
  let rooted ← mark? "::"
  let segments ← chain (g.segment bare) do
    if ← sees fun ts => Look.mark "::" ts && !Look.third Look.paren ts then
      mark "::"
      return true
    else return false
  return ⟨false, rooted, segments⟩

def qualifiedPath (g : Grammar) (bare : Bool) : Reader PathRead := do
  mark "<"
  discard (g.type true)
  if ← word? "as" then discard (g.plainPath true)
  mark ">"
  mark "::"
  return ⟨true, false, ← chain (g.segment bare) (mark? "::")⟩

def path (g : Grammar) (bare : Bool) : Reader PathRead := do
  if ← sees (Look.mark "<") then g.qualifiedPath bare else g.plainPath bare

def callsMacro (p : PathRead) (ts : List Token) : Bool := Look.bang ts && p.isNamePath

/-- The rest of a macro call; gives the brackets of its argument. -/
def macroRest : Reader Delimiter := do
  mark "!"
  anyGroup

end AccessorGen.Source.Grammar
