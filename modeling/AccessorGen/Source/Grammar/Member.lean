import AccessorGen.Source.Grammar.Function

/-! Members of `impl` blocks, traits and blocks of foreign code, and the fields of structs. -/

namespace AccessorGen.Source.Grammar

open Reader

def startsNestedFields (ts : List Token) : Bool :=
  Look.word "struct" ts || (Look.word "union" ts && Look.second Look.brace ts)

def fieldType (g : Grammar) (unnamed : Bool) (nested : Reader Unit) : Reader TypeExpr := do
  if unnamed && (← sees startsNestedFields) then
    let (_, printed) ← printing <| asWritten do
      discard anyWord
      nested
    return .other printed
  else g.type true

def namedFieldsAt (g : Grammar) : Nat → Reader (List (Word × TypeExpr))
  | 0 => fail "nesting is too deep"
  | n + 1 => inside .brace <| commas do
    discard g.outer
    discard visibility
    let unnamed ← sees Look.underscore
    let fieldName ← if unnamed then anyWord else name
    mark ":"
    return (fieldName, ← g.fieldType unnamed (discard (g.namedFieldsAt n)))

def namedFields (g : Grammar) : Reader (List (Word × TypeExpr)) := do
  g.namedFieldsAt (Token.sizeAll (← tokens) + 1)

def tupleFields (g : Grammar) : Reader Unit := do
  discard <| inside .paren <| commas do
    discard g.outer
    discard visibility
    discard (g.type true)

def implFunction (g : Grammar) : Reader ImplMember := do
  discard visibility
  discard (word? "default")
  let s ← g.signature false
  if ← mark? ";" then return .other
  discard g.body
  return .function s.name s.hasReceiver s.output

def implConstant (g : Grammar) : Reader ImplMember := do
  discard visibility
  discard (word? "default")
  word "const"
  let (n, t, valued, plain) ← g.constantRest
  return if valued && plain then .constant n t else .other

def implAlias (g : Grammar) : Reader ImplMember := do
  discard visibility
  discard (word? "default")
  let (n, plain) ← g.typeAlias .behindDefinition
  return if plain then .alias n else .other

def startsDefault (ts : List Token) : Bool :=
  Look.word "default" ts && !Look.second (Look.mark "!") ts

def implMember (g : Grammar) : Reader ImplMember := do
  discard g.outer
  let visible ← sees (Look.word "pub")
  let ahead ← behind visibility
  let default := startsDefault ahead
  let ts := if default then Look.skip ahead else ahead
  if startsFunction false ts then g.implFunction
  else if Look.word "const" ts then g.implConstant
  else if Look.word "type" ts then g.implAlias
  else if !visible && !default && startsMacroPath ts then
    memberMacro
    return .other
  else
    discard visibility
    if default then discard anyWord
    failExpected ["`fn`", "`const`", "`type`", "identifier"]

def traitFunction (g : Grammar) : Reader Unit := do
  discard (g.signature false)
  if ← sees Look.brace then discard g.body
  else if !(← mark? ";") then failExpected ["curly braces", "`;`"]

def traitMember (g : Grammar) : Reader Unit := do
  discard g.outer
  let visible ← visibility
  let default ← word? "default"
  let ts ← tokens
  if startsFunction false ts then g.traitFunction
  else if Look.word "const" ts then
    word "const"
    discard g.constantRest
  else if Look.word "type" ts then discard (g.typeAlias .behindDefinition)
  else if !visible && !default && startsMacroPath ts then memberMacro
  else failExpected ["`fn`", "`const`", "`type`", "identifier"]

def foreignFunction (g : Grammar) : Reader Unit := do
  discard visibility
  discard (g.signature true)
  if ← sees Look.brace then discard g.body else mark ";"

def foreignStatic (g : Grammar) : Reader Unit := do
  discard visibility
  if !(← word? "unsafe") then discard (word? "safe")
  word "static"
  discard (word? "mut")
  discard name
  mark ":"
  discard (g.type true)
  if ← mark? "=" then discard g.expr
  mark ";"

def foreignMember (g : Grammar) : Reader Unit := do
  discard g.outer
  let visible ← sees (Look.word "pub")
  let ts ← behind visibility
  if startsFunction true ts then g.foreignFunction
  else if Look.word "static" (if Look.words ["unsafe", "safe"] ts then Look.skip ts else ts) then
    g.foreignStatic
  else if Look.word "type" ts then
    discard visibility
    discard (g.typeAlias .either)
  else if !visible && startsMacroPath ts then memberMacro
  else
    discard visibility
    failExpected ["`fn`", "`static`", "`type`", "identifier"]

end AccessorGen.Source.Grammar
