import AccessorGen.Source.Grammar.Item
import AccessorGen.Source.Lexer

/-! The whole grammar, and the reading of a text as a type, an item or a file. -/

namespace AccessorGen.Source

namespace Grammar

def step (g : Grammar) : Grammar where
  type := g.readType
  bound := g.readBound
  unary := g.readUnary
  binary := g.readBinary
  early := g.readEarly
  pattern := g.readPattern
  statement := g.readStatement
  useTree := g.readUseTree
  item := g.readItem

def level (n : Nat) : Grammar := n.repeat step exhausted

@[simp] theorem level_succ (n : Nat) : level (n + 1) = step (level n) := rfl

def forTokens (ts : List Token) : Grammar := level (4 * Token.sizeAll ts + 16)

end Grammar

/-- Reads all of the tokens. Tokens left over are an error where nothing else is, the first found in
a group before those at the end. -/
def readAll {α : Type} (p : Grammar → Reader α) (ts : List Token) : Except SyntaxError α :=
  match p (Grammar.forTokens ts) { rest := ts, close := ⟨0, 0⟩ } with
  | .error e => .error e
  | .ok (a, c) =>
    match c.stray, c.rest with
    | some e, _ => .error e
    | none, t :: _ => .error ⟨"unexpected token", t.span⟩
    | none, [] => .ok a

def readText {α : Type} (p : Grammar → Reader α) (s : List Char) : Except SyntaxError α := do
  readAll p (← Lexer.tokens s)

def parseType (s : String) : Except SyntaxError TypeExpr := readText (·.type true) s.toList

def parseItem (ts : List Token) : Except SyntaxError Item := readAll (·.item) ts

def items (g : Grammar) : Reader (List Item) := do
  discard g.inner
  Reader.many g.item

end AccessorGen.Source
