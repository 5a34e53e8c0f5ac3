import AccessorGen.Source.Grammar.Path

/-! Generic parameters, bounds and where clauses. -/

namespace AccessorGen.Source.Grammar

open Reader

def lifetimeParameter : Reader Unit := do
  lifetime
  if ← mark? ":" then
    discard (plusList (fun ts => ts.isEmpty || Look.marks [",", ">"] ts) lifetime)

def typeParameter (g : Grammar) : Reader Unit := do
  discard name
  if ← mark? ":" then
    discard (plusList (fun ts => ts.isEmpty || Look.marks [",", ">", "="] ts) (g.bound false true))
  if ← mark? "=" then discard (g.type true)

def constParameter (g : Grammar) : Reader Unit := do
  word "const"
  discard name
  mark ":"
  discard (g.type true)
  if ← mark? "=" then g.constantArgument

/-- A parameter behind its attributes. The parameter list of an item may also hold an underscore. -/
def parameter (g : Grammar) (unnamed : Bool) : Reader Unit := do
  discard g.outer
  if ← sees Look.lifetime then lifetimeParameter
  else if ← sees Look.name then g.typeParameter
  else if ← sees (Look.word "const") then g.constParameter
  else if unnamed && (← sees Look.underscore) then discard anyWord
  else failExpected ["lifetime", "identifier", "`const`"]

/-- The parameters of an item; gives whether there is a list. -/
def generics (g : Grammar) : Reader Bool := do
  if !(← sees (Look.mark "<")) then return false
  mark "<"
  discard (separated "," (Look.mark ">") (g.parameter true))
  mark ">"
  return true

def startsGenerics (ts : List Token) : Bool :=
  Look.mark "<" ts && Look.second (fun r =>
    Look.marks [">", "#"] r || Look.word "const" r ||
      ((Look.lifetime r || Look.name r) && Look.second (fun q =>
        Look.marks [">", ",", "="] q || Look.oneColon q) r)) ts

/-- A binder `for<..>` of parameters, where there is one. -/
def binder (g : Grammar) : Reader Bool := do
  if !(← word? "for") then return false
  mark "<"
  discard (separated "," (Look.mark ">") (g.parameter false))
  mark ">"
  return true

def output (g : Grammar) (plus : Bool) : Reader (Option TypeExpr) := do
  if ← mark? "->" then return some (← g.type plus) else return none

/-- The inputs in parentheses and the output of a bound such as `Fn(A) -> B`. -/
def signatureArguments (g : Grammar) : Reader Unit := do
  discard (inside .paren (commas (g.type true)))
  discard (g.output false)

def captures : Reader Unit := do
  word "use"
  mark "<"
  discard <| separated "," (Look.mark ">") do
    if ← sees Look.lifetime then lifetime
    else discard (wordThat (fun ts => Look.name ts || Look.word "Self" ts)
      ["lifetime", "identifier", "`Self`", "`>`"])
  mark ">"

/-- The word `const`, which may stand in brackets; gives whether it is there. -/
def underConst (allowed : Bool) : Reader Bool := do
  if ← sees Look.bracket then
    let span ← here
    inside .bracket (word "const")
    if !allowed then failAt span "`[const]` is not allowed here"
    return true
  if ← sees (Look.word "const") then
    let span ← here
    word "const"
    if !allowed then failAt span "`const` is not allowed here"
    return true
  return false

def traitBound (g : Grammar) (consts : Bool) : Reader BoundForm := do
  let bindsFirst ← g.binder
  let const ← underConst consts
  let span ← here
  let maybe ← mark? "?"
  let binds ← if !bindsFirst && maybe then g.binder else pure bindsFirst
  let p ← g.plainPath true
  if p.endsPlain && (← sees fun ts =>
      Look.paren ts || (Look.mark "::" ts && Look.third Look.paren ts)) then
    discard (mark? "::")
    g.signatureArguments
  if binds && maybe then
    failAt span "`for<...>` binder not allowed with `?` trait polarity modifier"
  return if const then .underConst else .interface

def readBound (g : Grammar) (mayCapture consts : Bool) : Reader BoundForm := do
  if ← sees Look.lifetime then
    lifetime
    return .lifetime
  if ← sees (Look.word "use") then
    let span ← here
    captures
    if !mayCapture then failAt span "`use<...>` precise capturing syntax is not allowed here"
    return .captures
  if ← sees Look.paren then inside .paren (g.traitBound consts) else g.traitBound consts

def startsBound (consts : Bool) (ts : List Token) : Bool :=
  Look.anyWord ts || Look.marks ["::", "?"] ts || Look.lifetime ts || Look.paren ts ||
    (consts && Look.bracket ts)

def boundsFrom (g : Grammar) (plus mayCapture consts : Bool) :
    Nat → Reader (List (BoundForm × Bool))
  | 0 => return []
  | n + 1 => do
    let form ← g.bound mayCapture consts
    let joined ← if plus then mark? "+" else pure false
    if joined && (← sees (startsBound consts)) then
      return (form, true) :: (← boundsFrom g plus mayCapture consts n)
    else return [(form, joined)]

/-- Bounds one of which has to be a trait; gives whether there is just one and no plus. -/
def bounds (g : Grammar) (plus mayCapture consts : Bool) (lack : String) : Reader Bool := do
  let span ← here
  let found ← g.boundsFrom plus mayCapture consts ((← tokens).length + 1)
  if found.all fun f => f.1 == .lifetime || f.1 == .captures then failAt span lack
  return found.length == 1 && found.all (!·.2)

def endsPredicates (ts : List Token) : Bool :=
  ts.isEmpty || Look.brace ts || Look.marks [",", ";", "="] ts || Look.oneColon ts

def predicate (g : Grammar) : Reader Unit := do
  if ← sees fun ts => Look.lifetime ts && Look.second (Look.mark ":") ts then
    lifetime
    mark ":"
    discard (plusList (fun ts => endsPredicates ts || Look.mark ":" ts) lifetime)
  else
    discard g.binder
    discard (g.type true)
    mark ":"
    discard (plusList endsPredicates (g.bound false true))

def whereClause (g : Grammar) : Reader Bool := do
  if !(← word? "where") then return false
  if ← sees endsPredicates then return true
  discard <| chain g.predicate do
    if ← mark? "," then return !(← sees endsPredicates) else return false
  return true

end AccessorGen.Source.Grammar
