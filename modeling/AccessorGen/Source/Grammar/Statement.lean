import AccessorGen.Source.Grammar.Expression

/-! Statements. -/

namespace AccessorGen.Source.Grammar

open Reader

def endsInBrace : Reader Bool := do
  match (← get).printed with
  | .group .brace _ _ :: _ => return true
  | _ => return false

def letStatement (g : Grammar) : Reader Unit := do
  word "let"
  discard g.pattern
  if ← mark? ":" then discard (g.type true)
  if ← mark? "=" then
    discard g.expr
    if !(← endsInBrace) then
      if ← word? "else" then g.block
  mark ";"

def startsItem (ts : List Token) : Bool :=
  Look.words ["pub", "extern", "use", "fn", "mod", "type", "struct", "enum", "trait", "impl",
      "macro"] ts ||
    (Look.word "crate" ts && !Look.second (Look.mark "::") ts) ||
    (Look.word "static" ts && Look.second (fun r => Look.word "mut" r || Look.name r) ts) ||
    (Look.word "const" ts && !(Look.second (fun r =>
        Look.brace r || Look.words ["static", "move"] r || Look.mark "|" r) ts ||
      (Look.second (Look.word "async") ts &&
        !Look.third (Look.words ["unsafe", "extern", "fn"]) ts))) ||
    (Look.word "unsafe" ts && !Look.second Look.brace ts) ||
    (Look.word "async" ts && Look.second (Look.words ["unsafe", "extern", "fn"]) ts) ||
    (Look.word "union" ts && Look.second Look.name ts) ||
    (Look.word "auto" ts && Look.second (Look.word "trait") ts) ||
    (Look.word "default" ts && Look.second (Look.words ["unsafe", "impl"]) ts)

def callsItemMacro (ts : List Token) : Bool :=
  Look.mark "!" ts && Look.second (fun r => Look.name r || Look.word "try" r) ts

def callsBraceMacro (ts : List Token) : Bool :=
  Look.mark "!" ts && Look.second Look.brace ts &&
    !Look.third (fun r => Look.onePoint r || Look.mark "?" r) ts

/-- A statement; gives whether a semicolon has to follow it. -/
def readStatement (g : Grammar) : Reader Bool := do
  discard g.outer
  let ahead := (← peek (do discard namePath; tokens)).getD []
  if callsBraceMacro ahead && !callsItemMacro ahead then
    discard namePath
    discard macroRest
    discard (mark? ";")
    return false
  else if ← sees (Look.word "let") then
    g.letStatement
    return false
  else if callsItemMacro ahead || (← sees startsItem) then
    discard g.item
    return false
  else
    let form ← g.early
    if ← mark? ";" then return false
    return form != .block && form != .braceMacro

end AccessorGen.Source.Grammar
