import AccessorGen.Source.Grammar.Statement

/-! Visibility, signatures of functions, and the other pieces that items and members share. -/

namespace AccessorGen.Source.Grammar

open Reader

/-- The word `pub` with its restriction, where they stand. A parenthesis with more than one word in
it may belong to what follows. -/
def visibility : Reader Bool := do
  if !(← word? "pub") then return false
  match ← tokens with
  | .group .paren content _ :: _ =>
    if content.length == 1 && Look.words ["crate", "self", "super"] content then
      discard (inside .paren anyWord)
    else if Look.word "in" content then
      inside .paren do
        word "in"
        discard namePath
  | _ => pure ()
  return true

def dropWord (w : String) (ts : List Token) : List Token :=
  if Look.word w ts then Look.skip ts else ts

def dropQualifiers (safe : Bool) (ts : List Token) : List Token :=
  let ts := dropWord "async" (dropWord "const" ts)
  let ts := if safe && Look.word "safe" ts then Look.skip ts else dropWord "unsafe" ts
  if Look.word "extern" ts then
    if Look.second Look.textLiteral ts then Look.skip (Look.skip ts) else Look.skip ts
  else ts

/-- Whether a function begins here. In foreign code it may be called safe. -/
def startsFunction (safe : Bool) (ts : List Token) : Bool :=
  Look.word "fn" (dropQualifiers safe ts)

def receiver (g : Grammar) : Reader Unit := do
  let borrowed ← mark? "&"
  if borrowed then discard lifetime?
  discard (word? "mut")
  word "self"
  if !borrowed then
    if ← mark? ":" then discard (g.type true)

def endsVariadic : Reader Unit := do
  if !(← atEnd) then mark ","

/-- The inputs one after another; gives whether the first is a receiver. -/
def functionInputs (g : Grammar) (first : Bool) : Nat → Reader Bool
  | 0 => return false
  | n + 1 => do
    if ← atEnd then return false
    discard g.outer
    if ← mark? "..." then
      endsVariadic
      return false
    let span ← here
    let received := (← attempt g.receiver).isSome
    if received && !first then failAt span "unexpected method receiver"
    if !received then
      if ← sees fun ts => Look.name ts && Look.second (Look.mark "<") ts then discard (g.type true)
      else
        discard g.pattern
        mark ":"
        if ← mark? "..." then
          endsVariadic
          return false
        discard (g.type true)
    if ← atEnd then return received
    mark ","
    discard (g.functionInputs false n)
    return received

structure Signature where
  name : Word
  hasReceiver : Bool
  output : Option TypeExpr

/-- A signature. Foreign functions may be called safe, which gives them no readable form. -/
def signature (g : Grammar) (safe : Bool) : Reader Signature := do
  discard (word? "const")
  discard (word? "async")
  if !(← if safe then word? "safe" else pure false) then discard (word? "unsafe")
  callingConvention
  word "fn"
  let n ← name
  discard g.generics
  let hasReceiver ← inside .paren do g.functionInputs true ((← tokens).length + 1)
  let out ← g.output true
  discard g.whereClause
  return ⟨n, hasReceiver, out⟩

/-- Where the conditions of a type alias may stand. -/
inductive WherePlace
  | beforeDefinition | behindDefinition | either
  deriving DecidableEq, Repr

/-- A type alias; gives its name and whether it has a definition and no bounds. -/
def typeAlias (g : Grammar) (place : WherePlace) : Reader (Word × Bool) := do
  word "type"
  let n ← name
  discard g.generics
  let bounded ← mark? ":"
  if bounded then
    discard (plusList (fun ts => Look.word "where" ts || Look.marks ["=", ";"] ts)
      (g.bound false true))
  let early ← if place == .behindDefinition then pure false else g.whereClause
  let defined ← mark? "="
  if defined then discard (g.type true)
  if place != .beforeDefinition && !early then discard g.whereClause
  mark ";"
  return (n, defined && !bounded)

def constantRest (g : Grammar) : Reader (Word × TypeExpr × Bool × Bool) := do
  let n ← wordThat (fun ts => Look.name ts || Look.underscore ts) ["identifier", "`_`"]
  let generic ← g.generics
  mark ":"
  let t ← g.type true
  let valued ← mark? "="
  if valued then discard g.expr
  let conditional ← g.whereClause
  mark ";"
  return (n, t, valued, !generic && !conditional)

/-- A macro call as an item or a member; only braces need no semicolon. -/
def macroEnd : Reader Unit := do
  if (← anyGroup) != .brace then mark ";"

def memberMacro : Reader Unit := do
  discard namePath
  mark "!"
  macroEnd

def startsMacroPath (ts : List Token) : Bool :=
  Look.name ts || Look.words ["self", "super", "crate"] ts || Look.mark "::" ts

end AccessorGen.Source.Grammar
