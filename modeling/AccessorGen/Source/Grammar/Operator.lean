import AccessorGen.Source.Grammar.Pattern

/-! Binary operators, ranges and casts between operands. -/

namespace AccessorGen.Source.Grammar

open Reader

def operators : List (String × Precedence) :=
  [("+=", .assign), ("-=", .assign), ("*=", .assign), ("/=", .assign), ("%=", .assign),
   ("^=", .assign), ("&=", .assign), ("|=", .assign), ("<<=", .assign), (">>=", .assign),
   ("&&", .and), ("||", .or), ("<<", .shift), (">>", .shift), ("==", .compare), ("<=", .compare),
   ("!=", .compare), (">=", .compare), ("+", .sum), ("-", .sum), ("*", .product),
   ("/", .product), ("%", .product), ("^", .bitXor), ("&", .bitAnd), ("|", .bitOr),
   ("<", .compare), (">", .compare)]

def operator? (ts : List Token) : Option (String × Precedence) :=
  operators.find? fun o => Look.mark o.1 ts

def nextPrecedence (ts : List Token) : Precedence :=
  match operator? ts with
  | some (_, p) => p
  | none =>
    if Look.assigns ts then .assign
    else if Look.mark ".." ts then .range
    else if Look.word "as" ts then .cast
    else .jump

def operandFrom (g : Grammar) (structs : Bool) (p : Precedence) :
    Nat → ExprForm → Reader ExprForm
  | 0, form => return form
  | n + 1, form => do
    let ts ← tokens
    let next := nextPrecedence ts
    if p.strength < next.strength || (next == p && p == .assign) then
      let form' ← g.binary structs next form
      if (← tokens).length == ts.length then return form'
      g.operandFrom structs p n form'
    else return form

def operand (g : Grammar) (structs : Bool) (p : Precedence) : Reader ExprForm := do
  let form ← g.unary structs
  g.operandFrom structs p ((← tokens).length + 1) form

def endsRange (structs : Bool) (ts : List Token) : Bool :=
  ts.isEmpty || Look.marks [",", ";", "?", "=>", "=", "+", "/", "%", "^", ">", "<=", "!=", "-=",
      "*=", "&=", "|=", "<<="] ts ||
    Look.onePoint ts || (!structs && Look.brace ts) || Look.word "as" ts

def rangeTail (g : Grammar) (structs : Bool) : Reader ExprForm := do
  if ← sees (Look.mark "..=") then
    mark "..="
    discard (g.operand structs .range)
    return .range
  if ← sees (Look.mark "...") then failExpected ["`..`", "`..=`"]
  mark ".."
  if !(← sees (endsRange structs)) then discard (g.operand structs .range)
  return .range

def afterCast (ts : List Token) : Option String :=
  if Look.onePoint ts then
    if Look.second (Look.word "await") ts then some "`.await`"
    else if Look.second Look.name ts &&
        Look.third (fun r => Look.paren r || Look.mark "::" r) ts then
      some "a method call"
    else some "a field access"
  else if Look.mark "?" ts then some "`?`"
  else if Look.bracket ts then some "indexing"
  else if Look.paren ts then some "a function call"
  else none

def cast (g : Grammar) : Reader Unit := do
  word "as"
  discard (g.type false)
  match afterCast (← tokens) with
  | some what => fail ("casts cannot be followed by " ++ what)
  | none => return

def binaryFrom (g : Grammar) (structs : Bool) (base : Precedence) :
    Nat → ExprForm → Reader ExprForm
  | 0, form => return form
  | n + 1, form => do
    if form == .range then return form
    match operator? (← tokens) with
    | some (op, p) =>
      if !p.atLeast base then return form
      if p == .compare && form == .comparison then fail "comparison operators cannot be chained"
      mark op
      discard (g.operand structs p)
      g.binaryFrom structs base n (if p == .compare then .comparison else .plain)
    | none =>
      if Precedence.assign.atLeast base && (← sees Look.assigns) then
        mark "="
        discard (g.operand structs .assign)
        g.binaryFrom structs base n .plain
      else if Precedence.range.atLeast base && (← sees (Look.mark "..")) then
        let form ← g.rangeTail structs
        g.binaryFrom structs base n form
      else if Precedence.cast.atLeast base && (← sees (Look.word "as")) then
        g.cast
        g.binaryFrom structs base n .plain
      else return form

def readBinary (g : Grammar) (structs : Bool) (base : Precedence) (form : ExprForm) :
    Reader ExprForm := do
  g.binaryFrom structs base ((← tokens).length + 1) form

end AccessorGen.Source.Grammar
