import AccessorGen.Source.Grammar.Index
import AccessorGen.Source.Grammar.Type

/-! Patterns. -/

namespace AccessorGen.Source.Grammar

open Reader

def joinsAlternative (ts : List Token) : Bool := Look.mark "|" ts && !Look.marks ["||", "|="] ts

/-- Patterns joined by bars; a bar may also stand in front. -/
def alternatives (g : Grammar) : Reader PatternForm := do
  let leading ← mark? "|"
  let form ← g.pattern
  let more ← manyWhile joinsAlternative do
    mark "|"
    discard g.pattern
  return if leading || !more.isEmpty then .plain else form

/-- The dots of a range; gives whether the end belongs to it. Three dots are written back as
`..=`. -/
def rangeDots : Reader Bool := do
  if ← sees (Look.mark "..=") then
    mark "..="
    return true
  if ← sees (Look.mark "...") then
    emit (operatorTokens (← here) ['.', '.', '='])
    advance ((← tokens).drop 3)
    return true
  mark ".."
  return false

def endsRangePattern (ts : List Token) : Bool :=
  ts.isEmpty || Look.marks ["|", "=", ",", ";"] ts || Look.oneColon ts || Look.word "if" ts

def rangeBound (g : Grammar) : Reader Bool := do
  if ← sees endsRangePattern then return false
  if ← sees Look.constant then constant
  else if ← sees startsPath then discard (g.path false)
  else if ← word? "const" then discard g.body
  else failExpected ["literal", "identifier", "`::`", "`<`", "`self`", "`Self`", "`super`",
    "`crate`", "`const`"]
  return true

def rangeRest (g : Grammar) : Reader PatternForm := do
  let closed ← rangeDots
  if ← g.rangeBound then return .plain
  if closed then fail "expected range upper bound"
  return .openRange

def openStartRange (g : Grammar) : Reader PatternForm := do
  let closed ← mark? "..="
  if !closed then mark ".."
  if ← g.rangeBound then return .openRange
  if closed then fail "expected range upper bound"
  return .rest

def fieldPattern (g : Grammar) : Reader Unit := do
  let boxed ← word? "box"
  let borrowed ← word? "ref"
  let mutable ← word? "mut"
  if boxed || borrowed || mutable then discard name
  else
    let named ← member
    if !named || (← sees (Look.mark ":")) then
      mark ":"
      discard g.alternatives

/-- The fields of a struct pattern; dots end the list. -/
def fieldPatterns (g : Grammar) : Nat → Reader Unit
  | 0 => return
  | n + 1 => do
    if ← atEnd then return
    discard g.outer
    if ← mark? ".." then return
    g.fieldPattern
    if ← atEnd then return
    mark ","
    g.fieldPatterns n

def pathPattern (g : Grammar) : Reader PatternForm := do
  let p ← g.path false
  if ← sees (callsMacro p) then discard macroRest
  else if ← sees Look.brace then inside .brace do g.fieldPatterns ((← tokens).length + 1)
  else if ← sees Look.paren then discard (inside .paren (commas g.alternatives))
  else if ← sees (Look.mark "..") then return ← g.rangeRest
  return .plain

def namePattern (g : Grammar) : Reader Unit := do
  discard (word? "ref")
  discard (word? "mut")
  if !(← word? "self") then discard name
  if ← mark? "@" then discard g.pattern

def literalPattern (g : Grammar) : Reader PatternForm := do
  if !(← g.rangeBound) then fail "expected literal"
  if ← sees (Look.mark "..") then g.rangeRest else return .plain

def slicePattern (g : Grammar) : Reader Unit := do
  discard <| inside .bracket <| commas do
    let span ← here
    if (← g.alternatives) == .openRange then
      failAt span "range pattern is not allowed unparenthesized inside slice pattern"

def beginsPathPattern (ts : List Token) : Bool :=
  (Look.name ts && Look.second (fun r => Look.marks ["::", "!", ".."] r || Look.brace r ||
      Look.paren r) ts) ||
    (Look.word "self" ts && Look.second (Look.mark "::") ts) ||
    Look.marks ["::", "<"] ts || Look.words ["Self", "super", "crate"] ts

def readPattern (g : Grammar) : Reader PatternForm := do
  if ← sees beginsPathPattern then g.pathPattern
  else if ← word? "_" then return .plain
  else if ← sees (Look.word "box") then
    asWritten do
      word "box"
      discard g.pattern
    return .plain
  else if ← sees fun ts => Look.mark "-" ts || Look.constant ts || Look.word "const" ts then
    g.literalPattern
  else if ← sees fun ts => Look.words ["ref", "mut", "self"] ts || Look.name ts then
    g.namePattern
    return .plain
  else if ← mark? "&" then
    discard (word? "mut")
    discard g.pattern
    return .plain
  else if ← sees Look.paren then
    discard (inside .paren (commas g.alternatives))
    return .plain
  else if ← sees Look.bracket then
    g.slicePattern
    return .plain
  else if ← sees fun ts => Look.mark ".." ts && !Look.mark "..." ts then g.openStartRange
  else failExpected ["identifier", "`::`", "`<`", "`_`", "literal", "`ref`", "`mut`", "`&`",
    "parentheses", "square brackets", "`..`", "`const`"]

end AccessorGen.Source.Grammar
