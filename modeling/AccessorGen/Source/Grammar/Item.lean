import AccessorGen.Source.Grammar.Member

/-! Items. -/

namespace AccessorGen.Source.Grammar

open Reader

/-- A tree of imports; gives whether it has a readable form, in which no branch begins with `::`. -/
def readUseTree (g : Grammar) (rooted : Bool) : Reader Bool := do
  if ← sees fun ts => Look.name ts || Look.words ["self", "super", "crate", "try"] ts then
    discard anyWord
    if ← mark? "::" then g.useTree false
    else if ← word? "as" then
      discard (wordThat (fun ts => Look.name ts || Look.underscore ts) ["identifier or underscore"])
      return true
    else return true
  else if ← mark? "*" then return true
  else if ← sees Look.brace then
    let plain ← inside .brace <| commas do
      let root ← if rooted then mark? "::" else pure false
      let tree ← g.useTree (rooted && !root)
      return tree && !root
    return plain.all id
  else failExpected ["identifier", "`self`", "`super`", "`crate`", "`try`", "`*`", "curly braces"]

def useItem (g : Grammar) : Reader Definition := do
  discard visibility
  word "use"
  let rooted ← mark? "::"
  let plain ← g.useTree !rooted
  mark ";"
  return if plain then .foreign else .verbatim

def crateItem : Reader Definition := do
  discard visibility
  word "extern"
  word "crate"
  if !(← word? "self") then discard name
  if ← word? "as" then
    if !(← word? "_") then discard name
  mark ";"
  return .foreign

def functionItem (g : Grammar) : Reader (List String × Definition) := do
  discard visibility
  let s ← g.signature false
  if ← mark? ";" then return ([], .verbatim)
  return (← g.body, .function s.name)

def staticItem (g : Grammar) : Reader Definition := do
  discard visibility
  word "static"
  discard (word? "mut")
  let n ← name
  let typed ← mark? ":"
  if typed then discard (g.type true)
  let valued ← mark? "="
  if valued then discard g.expr
  if !typed && !valued then fail "expected `:`"
  mark ";"
  return if typed && valued then .static n else .verbatim

def constantItem (g : Grammar) : Reader Definition := do
  discard visibility
  word "const"
  let (n, _, valued, plain) ← g.constantRest
  return if valued && plain then .constant n else .verbatim

def aliasItem (g : Grammar) : Reader Definition := do
  discard visibility
  let (n, plain) ← g.typeAlias .beforeDefinition
  return if plain then .alias n else .verbatim

def structFields (g : Grammar) : Reader Fields := do
  let conditional ← g.whereClause
  let start := if conditional then [] else ["`where`", "parentheses"]
  if !conditional && (← sees Look.paren) then
    g.tupleFields
    let late ← g.whereClause
    if ← mark? ";" then return .tuple
    failExpected (if late then ["`;`"] else ["`where`", "`;`"])
  else if ← sees Look.brace then return .named (← g.namedFields)
  else if ← mark? ";" then return .unit
  else failExpected (start ++ ["curly braces", "`;`"])

def structItem (g : Grammar) : Reader Definition := do
  discard visibility
  word "struct"
  let n ← name
  discard g.generics
  return .struct n (← g.structFields)

def variant (g : Grammar) : Reader Unit := do
  discard g.outer
  discard visibility
  discard name
  if ← sees Look.brace then discard g.namedFields
  else if ← sees Look.paren then g.tupleFields
  if ← mark? "=" then discard g.expr

def enumItem (g : Grammar) : Reader Definition := do
  discard visibility
  word "enum"
  let n ← name
  discard g.generics
  discard g.whereClause
  discard (inside .brace (commas g.variant))
  return .enum n

def unionItem (g : Grammar) : Reader Definition := do
  discard visibility
  word "union"
  let n ← name
  discard g.generics
  discard g.whereClause
  discard g.namedFields
  return .union n

/-- The body of a trait behind its parameters; gives the marks inside. -/
def traitRest (g : Grammar) : Reader (List String) := do
  if ← mark? ":" then
    discard (plusList (fun ts => Look.word "where" ts || Look.brace ts) (g.bound false true))
  discard g.whereClause
  inside .brace do
    let marks ← g.inner
    discard (many g.traitMember)
    return marks

def traitItem (g : Grammar) : Reader (List String × Definition) := do
  discard visibility
  let unchecked ← word? "unsafe"
  let automatic ← word? "auto"
  word "trait"
  let n ← name
  discard g.generics
  if !unchecked && !automatic && (← sees (Look.mark "=")) then
    mark "="
    discard (plusList (fun ts => Look.word "where" ts || Look.mark ";" ts) (g.bound false true))
    discard g.whereClause
    mark ";"
    return ([], .traitAlias n)
  return (← g.traitRest, .interface n)

def startsConst (ts : List Token) : Bool :=
  Look.word "const" ts || (Look.mark "?" ts && Look.second (Look.word "const") ts)

def implItem (g : Grammar) : Reader (List String × Definition) := do
  let visible ← visibility
  discard (word? "default")
  discard (word? "unsafe")
  word "impl"
  if ← sees startsGenerics then discard g.generics
  let const ← sees startsConst
  if const then
    discard (mark? "?")
    word "const"
  let span ← here
  let negative ← sees fun ts => Look.mark "!" ts && !Look.second Look.brace ts
  if negative then mark "!"
  let first ← g.type true
  let ofTrait ← word? "for"
  if negative && !ofTrait then failAt span "inherent impls cannot be negative"
  let self ← if ofTrait then g.type true else pure first
  discard g.whereClause
  let (marks, members) ← inside .brace do
    let marks ← g.inner
    return (marks, ← many g.implMember)
  let readable := !visible && !const && (!ofTrait || first.isPlainPath)
  return (marks, if readable then .block ofTrait self members else .verbatim)

def moduleItem (g : Grammar) : Reader Item := do
  discard visibility
  discard (word? "unsafe")
  word "mod"
  let n ← if ← sees (Look.word "try") then anyWord else name
  if ← mark? ";" then return .module [] n []
  if !(← sees Look.brace) then failExpected ["`;`", "curly braces"]
  inside .brace do
    let marks ← g.inner
    return .module marks n (← many g.item)

def foreignItem (g : Grammar) : Reader (List String × Definition) := do
  discard (word? "unsafe")
  word "extern"
  if ← sees Look.textLiteral then anyLiteral
  inside .brace do
    let marks ← g.inner
    discard (many g.foreignMember)
    return (marks, .foreign)

def outsideItem (g : Grammar) (ahead : List Token) : Reader (List String × Definition) := do
  let ts := Look.skip ahead
  if Look.word "crate" ts then return ([], ← crateItem)
  if Look.brace (if Look.textLiteral ts then Look.skip ts else ts) then return ← g.foreignItem
  discard visibility
  word "extern"
  if ← sees Look.textLiteral then
    anyLiteral
    failExpected ["curly braces"]
  else failExpected ["`crate`", "curly braces", "string literal"]

def macroItem : Reader Definition := do
  discard namePath
  mark "!"
  let n ← if ← sees fun ts => Look.name ts || Look.word "try" ts then
      pure (some (← anyWord)) else pure none
  macroEnd
  return .macroCall n

def macroDefinition : Reader Definition := do
  discard visibility
  word "macro"
  discard name
  if ← sees Look.paren then
    discard anyGroup
    if !(← sees Look.brace) then failExpected ["curly braces"]
  else if !(← sees Look.brace) then failExpected ["parentheses", "curly braces"]
  discard anyGroup
  return .verbatim

def startsImpl (ts : List Token) : Bool := Look.word "impl" ts || startsDefault ts

def startsTrait (ts : List Token) : Bool :=
  Look.word "trait" ts || (Look.word "auto" ts && Look.second (Look.word "trait") ts)

def bare (p : Reader Definition) : Reader (List String × Definition) := do return ([], ← p)

def withInner (p : Reader (List String × Definition)) : Reader Item := do
  let (marks, d) ← p
  return .single marks d

/-- An item behind the word `unsafe`. -/
def uncheckedItem (g : Grammar) (ahead : List Token) : Reader Item := do
  let ts := Look.skip ahead
  if startsTrait ts then withInner g.traitItem
  else if Look.word "impl" ts then withInner g.implItem
  else if Look.word "extern" ts then withInner g.foreignItem
  else if Look.word "mod" ts then g.moduleItem
  else
    discard visibility
    word "unsafe"
    failExpected ["`trait`", "`auto`", "`impl`", "`extern`", "`mod`"]

def itemForm (g : Grammar) (visible : Bool) (ts : List Token) : Reader Item :=
  if startsFunction false ts then withInner g.functionItem
  else if Look.word "extern" ts then withInner (g.outsideItem ts)
  else if Look.word "use" ts then withInner (bare g.useItem)
  else if Look.word "static" ts then withInner (bare g.staticItem)
  else if Look.word "const" ts then withInner (bare g.constantItem)
  else if Look.word "unsafe" ts then g.uncheckedItem ts
  else if Look.word "mod" ts then g.moduleItem
  else if Look.word "type" ts then withInner (bare g.aliasItem)
  else if Look.word "struct" ts then withInner (bare g.structItem)
  else if Look.word "enum" ts then withInner (bare g.enumItem)
  else if Look.word "union" ts && Look.second Look.name ts then withInner (bare g.unionItem)
  else if startsTrait ts then withInner g.traitItem
  else if startsImpl ts then withInner g.implItem
  else if Look.word "macro" ts then withInner (bare macroDefinition)
  else if !visible && startsMacroPath ts then withInner (bare macroItem)
  else do
    discard visibility
    failExpected ["`fn`", "`extern`", "`use`", "`static`", "`const`", "`unsafe`", "`mod`",
      "`type`", "`struct`", "`enum`", "`union`", "`trait`", "`auto`", "`impl`", "`default`",
      "`macro`", "identifier", "`self`", "`super`", "`crate`", "`::`"]

def readItem (g : Grammar) : Reader Item := do
  let marks ← g.outer
  let visible ← sees (Look.word "pub")
  let item ← g.itemForm visible (← behind visibility)
  return item.addMarks marks

end AccessorGen.Source.Grammar
