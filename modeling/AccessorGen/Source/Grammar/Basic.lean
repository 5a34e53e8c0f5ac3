import AccessorGen.Source.Reader
import AccessorGen.Source.Syntax

/-! The parts of the grammar that call each other. A reader of one level calls the level below
through this record, so that the whole grammar is one step function iterated as often as a text of
the given length can need. -/

namespace AccessorGen.Source

/-- What later rules need to know about an expression: whether it ends a statement by itself, is a
macro call in braces, a range without brackets, or a comparison. -/
inductive ExprForm
  | block | braceMacro | range | comparison | plain
  deriving DecidableEq, Repr

/-- `rest` is `..` alone, and an open range lacks one of its bounds. -/
inductive PatternForm
  | rest | openRange | plain
  deriving DecidableEq, Repr

/-- A bound is a trait, a lifetime, a list of captures, or a trait under a `const`. -/
inductive BoundForm
  | interface | lifetime | captures | underConst
  deriving DecidableEq, Repr

/-- How strongly an operator binds, from the weakest on. -/
inductive Precedence
  | jump | assign | range | or | and | bind | compare | bitOr | bitXor | bitAnd | shift | sum
  | product | cast
  deriving DecidableEq, Repr

namespace Precedence

def strength : Precedence → Nat
  | .jump => 0
  | .assign => 1
  | .range => 2
  | .or => 3
  | .and => 4
  | .bind => 5
  | .compare => 6
  | .bitOr => 7
  | .bitXor => 8
  | .bitAnd => 9
  | .shift => 10
  | .sum => 11
  | .product => 12
  | .cast => 13

def atLeast (a b : Precedence) : Bool := b.strength ≤ a.strength

end Precedence

/-- `type` is told whether a plus sign belongs to the type. `bound` is told whether
a list of captures or a `const` may stand there. The readers of expressions are told
whether a brace after a path begins a struct literal. `binary` reads on after an operand with
operators of at least the given strength, and `early` ends an expression after a block, as in a
statement. `statement` says whether a semicolon has to follow unless it is the last. `useTree` is
told whether `::` may stand in front and says whether none did. -/
structure Grammar where
  type : (plus : Bool) → Reader TypeExpr
  bound : (captures consts : Bool) → Reader BoundForm
  unary : (structs : Bool) → Reader ExprForm
  binary : (structs : Bool) → Precedence → ExprForm → Reader ExprForm
  early : Reader ExprForm
  pattern : Reader PatternForm
  statement : Reader Bool
  useTree : (rooted : Bool) → Reader Bool
  item : Reader Item

namespace Grammar

def exhausted : Grammar where
  type _ := Reader.fail "nesting is too deep"
  bound _ _ := Reader.fail "nesting is too deep"
  unary _ := Reader.fail "nesting is too deep"
  binary _ _ _ := Reader.fail "nesting is too deep"
  early := Reader.fail "nesting is too deep"
  pattern := Reader.fail "nesting is too deep"
  statement := Reader.fail "nesting is too deep"
  useTree _ := Reader.fail "nesting is too deep"
  item := Reader.fail "nesting is too deep"

def exprWith (g : Grammar) (structs : Bool) : Reader ExprForm := do
  g.binary structs .jump (← g.unary structs)

def expr (g : Grammar) : Reader ExprForm := g.exprWith true

end Grammar

namespace Look

def second (test : List Token → Bool) (ts : List Token) : Bool := test (skip ts)

def third (test : List Token → Bool) (ts : List Token) : Bool := test (skip (skip ts))

def oneColon (ts : List Token) : Bool := mark ":" ts && !mark "::" ts

def onePoint (ts : List Token) : Bool := mark "." ts && !mark ".." ts

def assigns (ts : List Token) : Bool := mark "=" ts && !mark "=>" ts

/-- An exclamation mark that is not part of `!=`. -/
def bang (ts : List Token) : Bool := mark "!" ts && !mark "!=" ts

def pathWord (ts : List Token) : Bool := words ["super", "self", "Self", "crate"] ts

def underscore (ts : List Token) : Bool := word "_" ts

end Look

namespace Reader

def wordThat (test : List Token → Bool) (expected : List String) : Reader Word := do
  if ← sees test then anyWord else failExpected expected

end Reader

end AccessorGen.Source
