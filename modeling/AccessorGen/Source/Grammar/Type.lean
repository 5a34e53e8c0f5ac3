import AccessorGen.Source.Grammar.Bound

/-! Types. -/

namespace AccessorGen.Source

namespace TypeExpr

def setPrinted (ts : List Token) : TypeExpr → TypeExpr
  | .path q r segments _ => .path q r segments ts
  | .paren inner _ => .paren inner ts
  | .bounds single _ => .bounds single ts
  | .other _ => .other ts

end TypeExpr

namespace Grammar

open Reader

/-- The inside of parentheses: the end of the type, or a type that may still become a bound. -/
inductive ParenRead
  | type (t : TypeExpr)
  | bound
  | inner (t : TypeExpr)

def parenInside (g : Grammar) : Reader ParenRead := do
  if ← atEnd then return .type (.other [])
  if ← sees Look.lifetime then return .type (.paren (← g.type true) [])
  if ← sees (Look.mark "?") then
    discard (g.traitBound false)
    return .bound
  let first ← g.type true
  if ← mark? "," then
    discard (commas (g.type true))
    return .type (.other [])
  return .inner first

def moreBounds (g : Grammar) : Reader TypeExpr := do
  let more ← repeating do
    if ← mark? "+" then return some (← g.bound false false) else return none
  return .bounds more.isEmpty []

def mayBeBound : TypeExpr → Bool
  | .path false .. => true
  | .bounds single _ => single
  | _ => false

def parenType (g : Grammar) (plus : Bool) : Reader TypeExpr := do
  match ← inside .paren g.parenInside with
  | .type t => return t
  | .bound => g.moreBounds
  | .inner t =>
    if plus && mayBeBound t && (← sees (Look.mark "+")) then g.moreBounds
    else return .paren t []

def pathType (g : Grammar) (plus binds : Bool) : Reader TypeExpr := do
  let p ← g.path true
  let t := TypeExpr.path p.qualified p.rooted p.segments []
  if p.qualified then return t
  if ← sees (callsMacro p) then
    discard macroRest
    return .other []
  if ← if plus then mark? "+" else pure false then
    if ← sees (startsBound false) then
      discard (g.boundsFrom true false false ((← tokens).length + 1))
    return .bounds false []
  return if binds then .bounds true [] else t

/-- The word `extern` with the name of a calling convention, where they stand. -/
def callingConvention : Reader Unit := do
  if ← word? "extern" then
    if ← sees Look.textLiteral then anyLiteral

/-- `self` in front of a colon, or `mut self`, may stand for the first input. -/
def functionTypeInput (g : Grammar) (first : Bool) : Reader Unit := do
  if first && (← sees fun ts => Look.word "mut" ts && Look.second (Look.word "self") ts) then
    asWritten do
      word "mut"
      word "self"
      if ← mark? ":" then discard (g.type true)
  else
    if ← sees fun ts => (Look.name ts || Look.underscore ts || (first && Look.word "self" ts)) &&
        Look.second Look.oneColon ts then
      discard anyWord
      mark ":"
    discard (g.type true)

def isVariadic (ts : List Token) : Bool :=
  Look.mark "..." ts || ((Look.name ts || Look.underscore ts) && Look.second (Look.mark ":") ts &&
    Look.third (Look.mark "...") ts)

def functionTypeVariadic : Reader Unit := do
  if !(← sees (Look.mark "...")) then
    discard anyWord
    mark ":"
  mark "..."
  discard (mark? ",")

/-- The inputs one after another, with `first` for the first of them. -/
def functionTypeInputs (g : Grammar) (first : Bool) : Nat → Reader Unit
  | 0 => return
  | n + 1 => do
    if ← atEnd then return
    discard g.outer
    if ← sees isVariadic then functionTypeVariadic
    else
      g.functionTypeInput first
      if ← atEnd then return
      mark ","
      g.functionTypeInputs false n

def functionType (g : Grammar) : Reader TypeExpr := do
  discard (word? "unsafe")
  callingConvention
  word "fn"
  inside .paren do g.functionTypeInputs true ((← tokens).length + 1)
  discard (g.output false)
  return .other []

def traitObject (g : Grammar) (plus : Bool) : Reader TypeExpr := do
  let single ← g.bounds plus false false "at least one trait is required for an object type"
  return .bounds single []

def dynType (g : Grammar) (plus : Bool) : Reader TypeExpr := do
  word "dyn"
  discard (mark? "*")
  discard (g.traitObject plus)
  return .other []

def implType (g : Grammar) (plus : Bool) : Reader TypeExpr := do
  word "impl"
  discard (g.bounds plus true true "at least one trait must be specified")
  return .other []

def bracketType (g : Grammar) : Reader TypeExpr := do
  inside .bracket do
    discard (g.type true)
    if ← mark? ";" then discard g.expr
  return .other []

def pointerType (g : Grammar) : Reader TypeExpr := do
  mark "*"
  if !(← word? "const") then
    if !(← word? "mut") then failExpected ["`const`", "`mut`"]
  discard (g.type false)
  return .other []

def referenceType (g : Grammar) : Reader TypeExpr := do
  mark "&"
  discard lifetime?
  discard (word? "mut")
  discard (g.type false)
  return .other []

def startsPath (ts : List Token) : Bool :=
  Look.name ts || Look.pathWord ts || Look.marks ["::", "<"] ts

def startsFunctionType (ts : List Token) : Bool := Look.words ["fn", "unsafe", "extern"] ts

def typeForm (g : Grammar) (plus : Bool) : Reader TypeExpr := do
  let binds ← g.binder
  if binds && !(← sees fun ts => Look.name ts || Look.pathWord ts || startsFunctionType ts) then
    failExpected ["identifier", "`fn`", "`unsafe`", "`extern`", "`super`", "`self`", "`Self`",
      "`crate`"]
  if ← sees Look.paren then g.parenType plus
  else if ← sees startsFunctionType then g.functionType
  else if ← sees startsPath then g.pathType plus binds
  else if ← sees (Look.word "dyn") then
    if ← sees (Look.second (Look.mark "*")) then asWritten (g.dynType plus) else g.dynType plus
  else if ← sees Look.bracket then g.bracketType
  else if ← sees (Look.mark "*") then g.pointerType
  else if ← sees (Look.mark "&") then g.referenceType
  else if ← mark? "!" then return .other []
  else if ← sees (Look.word "impl") then g.implType plus
  else if ← word? "_" then return .other []
  else if ← sees Look.lifetime then g.traitObject true
  else failExpected ["`for`", "parentheses", "`fn`", "`unsafe`", "`extern`", "identifier", "`::`",
    "`<`", "`dyn`", "square brackets", "`*`", "`&`", "`!`", "`impl`", "`_`", "lifetime"]

def readType (g : Grammar) (plus : Bool) : Reader TypeExpr := do
  let (t, printed) ← printing (g.typeForm plus)
  return t.setPrinted printed

end Grammar

end AccessorGen.Source
