import AccessorGen.Source.Grammar.Operator

/-! Expressions: atoms, what follows them, and prefix operators. -/

namespace AccessorGen.Source.Grammar

open Reader

def arguments (g : Grammar) : Reader Unit := discard (inside .paren (commas g.expr))

def memberAccess (g : Grammar) : Reader Unit := do
  mark "."
  if ← sees seesFloat then
    if !(← indexPair) then return
  if ← word? "await" then return
  let named ← member
  if named && (← sees (Look.mark "::")) then
    discard g.angleArguments
    g.arguments
  else if named && (← sees Look.paren) then g.arguments

def trailersFrom (g : Grammar) : Nat → ExprForm → Reader ExprForm
  | 0, form => return form
  | n + 1, form => do
    if ← sees Look.paren then
      g.arguments
      g.trailersFrom n .plain
    else if form != .range && (← sees Look.onePoint) then
      g.memberAccess
      g.trailersFrom n .plain
    else if ← sees Look.bracket then
      discard (inside .bracket g.expr)
      g.trailersFrom n .plain
    else if form != .range && (← sees (Look.mark "?")) then
      mark "?"
      g.trailersFrom n .plain
    else return form

def trailers (g : Grammar) (form : ExprForm) : Reader ExprForm := do
  g.trailersFrom ((← tokens).length + 1) form

def head (g : Grammar) : Reader Unit := discard (g.exprWith false)

def ifChain (g : Grammar) : Nat → Reader Unit
  | 0 => return
  | n + 1 => do
    word "if"
    g.head
    g.block
    if ← word? "else" then
      if ← sees (Look.word "if") then g.ifChain n
      else if ← sees Look.brace then g.block
      else failExpected ["`if`", "curly braces"]

/-- An arm of a match; a comma has to follow unless it is the last or its body is a block. -/
def arm (g : Grammar) : Reader Unit := do
  discard g.outer
  discard g.alternatives
  if ← word? "if" then discard g.expr
  mark "=>"
  let form ← g.early
  if form != .block && !(← atEnd) then mark "," else discard (mark? ",")

def matchBlock (g : Grammar) : Reader Unit := do
  word "match"
  g.head
  inside .brace do
    discard g.inner
    discard (many g.arm)

def whileLoop (g : Grammar) : Reader Unit := do
  word "while"
  g.head
  discard g.body

def forLoop (g : Grammar) : Reader Unit := do
  word "for"
  discard g.alternatives
  word "in"
  g.head
  discard g.body

def endlessLoop (g : Grammar) : Reader Unit := do
  word "loop"
  discard g.body

def labelled (g : Grammar) : Reader Unit := do
  lifetime
  mark ":"
  if ← sees (Look.word "while") then g.whileLoop
  else if ← sees (Look.word "for") then g.forLoop
  else if ← sees (Look.word "loop") then g.endlessLoop
  else if ← sees Look.brace then discard g.body
  else fail "expected loop or block expression"

def bindsCondition (g : Grammar) (structs : Bool) : Reader Unit := do
  word "let"
  discard g.alternatives
  mark "="
  discard (g.binary structs .compare (← g.unary structs))

def startsExpr (ts : List Token) : Bool :=
  (Look.anyWord ts && !Look.word "as" ts) || isGroup ts || Look.constant ts ||
    (Look.mark "!" ts && !Look.mark "!=" ts) || (Look.mark "-" ts && !Look.marks ["-=", "->"] ts) ||
    (Look.mark "*" ts && !Look.mark "*=" ts) || (Look.mark "|" ts && !Look.mark "|=" ts) ||
    (Look.mark "&" ts && !Look.mark "&=" ts) ||
    (Look.mark "<" ts && !Look.marks ["<=", "<<="] ts) ||
    Look.marks ["..", "::", "#"] ts || Look.lifetime ts

def breakOut (g : Grammar) (structs : Bool) : Reader Unit := do
  word "break"
  if ← sees fun ts => Look.lifetime ts && Look.second (Look.mark ":") ts then
    let span ← here
    discard g.expr
    failAt span "parentheses required"
  discard lifetime?
  if ← sees fun ts => startsExpr ts && (structs || !Look.brace ts) then
    discard (g.exprWith structs)

def optionalValue (g : Grammar) (keyword : String) : Reader Unit := do
  word keyword
  if ← sees startsExpr then discard g.expr

def closureInput (g : Grammar) : Reader Unit := do
  discard g.outer
  discard g.pattern
  if ← mark? ":" then discard (g.type true)

def closure (g : Grammar) (structs : Bool) : Reader Unit := do
  discard g.binder
  discard (word? "const")
  discard (word? "static")
  discard (word? "async")
  discard (word? "move")
  mark "|"
  discard (separated "," (Look.mark "|") g.closureInput)
  mark "|"
  if ← mark? "->" then
    discard (g.type true)
    g.block
  else discard (g.exprWith structs)

def bindsParameters (ts : List Token) : Bool :=
  Look.word "for" ts && Look.second startsGenerics ts

def startsClosure (ts : List Token) : Bool :=
  Look.mark "|" ts || Look.words ["move", "static"] ts || bindsParameters ts ||
    (Look.word "const" ts && !Look.second Look.brace ts) ||
    (Look.word "async" ts && Look.second (fun r => Look.mark "|" r || Look.word "move" r) ts)

def fieldValue (g : Grammar) : Reader Unit := do
  discard g.outer
  let named ← member
  if !named || (← sees (Look.mark ":")) then
    mark ":"
    discard g.expr

/-- The fields of a struct literal; dots and a base value may end the list. -/
def fieldValues (g : Grammar) : Nat → Reader Unit
  | 0 => return
  | n + 1 => do
    if ← atEnd then return
    if ← mark? ".." then
      if !(← atEnd) then discard g.expr
      return
    g.fieldValue
    if ← atEnd then return
    mark ","
    g.fieldValues n

def pathAtom (g : Grammar) (structs : Bool) : Reader ExprForm := do
  let p ← g.path false
  if ← sees (callsMacro p) then
    return if (← macroRest) == .brace then .braceMacro else .plain
  if structs && (← sees Look.brace) then
    inside .brace do g.fieldValues ((← tokens).length + 1)
  return .plain

def parenAtom (g : Grammar) : Reader Unit := discard (inside .paren (commas g.expr))

def arrayAtom (g : Grammar) : Reader Unit := inside .bracket do
  if ← atEnd then return
  discard g.expr
  if ← sees fun ts => ts.isEmpty || Look.mark "," ts then
    discard (mark? ",")
    discard (commas g.expr)
  else if ← mark? ";" then discard g.expr
  else fail "expected `,` or `;`"

def builtinAtom : Reader Unit := asWritten do
  discard anyWord
  mark "#"
  discard name
  inside .paren remaining

def blockBehind (g : Grammar) (keyword : String) : Reader ExprForm := do
  word keyword
  discard g.body
  return .block

def asyncBlock (g : Grammar) : Reader Unit := do
  word "async"
  discard (word? "move")
  g.block

def startsAsyncBlock (ts : List Token) : Bool :=
  Look.word "async" ts && (Look.second Look.brace ts ||
    (Look.second (Look.word "move") ts && Look.third Look.brace ts))

def blockAtom? (g : Grammar) : Reader Bool := do
  let ts ← tokens
  if Look.word "if" ts then g.ifChain (ts.length + 1)
  else if Look.word "while" ts then g.whileLoop
  else if Look.word "for" ts && !bindsParameters ts then g.forLoop
  else if Look.word "loop" ts then g.endlessLoop
  else if Look.word "match" ts then g.matchBlock
  else if Look.word "try" ts && Look.second Look.brace ts then
    word "try"
    g.block
  else if Look.word "unsafe" ts || (Look.word "const" ts && Look.second Look.brace ts) then
    discard anyWord
    discard g.body
  else if Look.brace ts then discard g.body
  else if Look.lifetime ts then g.labelled
  else return false
  return true

def startsPathAtom (ts : List Token) : Bool :=
  startsPath ts ||
    (Look.word "try" ts && Look.second (fun r => Look.marks ["!", "::"] r) ts)

/-- Jumps: `break` and `continue`, `return`, `yield`, and `become`, which is kept as it stands. -/
def jump? (g : Grammar) (structs : Bool) : Reader Bool := do
  let ts ← tokens
  if Look.word "break" ts then g.breakOut structs
  else if Look.word "continue" ts then
    word "continue"
    discard lifetime?
  else if Look.word "return" ts then g.optionalValue "return"
  else if Look.word "yield" ts then g.optionalValue "yield"
  else if Look.word "become" ts then
    asWritten do
      word "become"
      discard g.expr
  else return false
  return true

def simpleAtom? (g : Grammar) (structs : Bool) : Reader Bool := do
  let ts ← tokens
  if Look.constant ts then constant
  else if startsAsyncBlock ts then g.asyncBlock
  else if startsClosure ts then g.closure structs
  else if Look.word "builtin" ts && Look.second (Look.mark "#") ts then builtinAtom
  else if Look.paren ts then g.parenAtom
  else if Look.bracket ts then g.arrayAtom
  else if Look.word "let" ts then g.bindsCondition structs
  else return ← g.jump? structs
  return true

def atom (g : Grammar) (structs : Bool) : Reader ExprForm := do
  if ← g.simpleAtom? structs then return .plain
  if ← sees startsPathAtom then return ← g.pathAtom structs
  if ← g.blockAtom? then return .block
  if ← sees (Look.mark "..") then return ← g.rangeTail structs
  if ← word? "_" then return .plain
  fail "expected an expression"

def withTrailers (g : Grammar) (structs attributed : Bool) : Reader ExprForm := do
  let span ← here
  let form ← g.trailers (← g.atom structs)
  if attributed && form == .range then
    failAt span "attributes are not allowed on range expressions starting with `..`"
  return form

def readUnary (g : Grammar) (structs : Bool) : Reader ExprForm := do
  let attributes ← g.outer
  if ← mark? "&" then
    if ← sees fun ts => Look.word "raw" ts && Look.second (Look.words ["mut", "const"]) ts then
      discard anyWord
      discard anyWord
    else discard (word? "mut")
    discard (g.unary structs)
    return .plain
  if ← sees (Look.marks ["*", "!", "-"]) then
    if !(← mark? "*") then
      if !(← mark? "!") then mark "-"
    discard (g.unary structs)
    return .plain
  g.withTrailers structs (!attributes.isEmpty)

/-- An expression at the beginning of a statement or as the body of an arm. A block ends it unless
a point or a question mark follows. -/
def readEarly (g : Grammar) : Reader ExprForm := do
  discard g.outer
  if ← g.blockAtom? then
    if ← sees fun ts => Look.onePoint ts || Look.mark "?" ts then
      g.binary true .jump (← g.trailers .block)
    else return .block
  else
    let form ← g.unary true
    if form == .block then return .block
    g.binary true .jump form

end AccessorGen.Source.Grammar
