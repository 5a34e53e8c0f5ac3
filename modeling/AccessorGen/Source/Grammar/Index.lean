import AccessorGen.Source.Grammar.Path
import AccessorGen.Source.Lexeme
import AccessorGen.Text.Pieces

/-! Names and indices of members, as they stand behind a point and in braces. -/

namespace AccessorGen.Source.Grammar

open Reader

def indexDigits : List Char → Nat × List Char
  | '0' :: 'x' :: r => (16, r)
  | '0' :: 'o' :: r => (8, r)
  | '0' :: 'b' :: r => (2, r)
  | s => (10, s)

def digitsValue? (base : Nat) (value : Nat) : List Char → Option Nat
  | [] => some value
  | '_' :: r => digitsValue? base value r
  | c :: r =>
    if c.isDigit || base == 16 then
      match Lexeme.hexValue? c with
      | some d => if d < base then digitsValue? base (value * base + d) r else none
      | none => none
    else none

def index? (s : List Char) : Option Nat :=
  if s.isEmpty then none else
  match digitsValue? (indexDigits s).1 0 (indexDigits s).2 with
  | some v => if v < 4294967296 then some v else none
  | none => none

def indexTokens? (span : Span) : List (List Char) → Option (List Token)
  | [] => some []
  | [p] => (index? p).map fun v => [.literal (toString v) span]
  | p :: q :: ps =>
    match index? p, indexTokens? span (q :: ps) with
    | some v, some ts => some (.literal (toString v) span :: .mark '.' false span :: ts)
    | _, _ => none

/-- A number such as `0.1` behind a point stands for two indices. Gives whether a point ends it. -/
def indexPair : Reader Bool := do
  match ← tokens with
  | .literal s span :: rest =>
    let pieces := Text.cutAt '.' s.toList
    let trailing := pieces.getLast? == some []
    match indexTokens? span (if trailing then pieces.dropLast else pieces) with
    | some ts =>
      emit (ts ++ if trailing then [.mark '.' false span] else [])
      advance rest
      return trailing
    | none => fail "expected unsuffixed integer"
  | _ => fail "expected literal"

def seesFloat : List Token → Bool
  | .literal s _ :: _ => Look.kindOf s == .float
  | _ => false

/-- The name or index of a member; gives whether it is a name. -/
def member : Reader Bool := do
  match ← tokens with
  | .literal s span :: rest =>
    if Look.kindOf s != .int then fail "expected identifier or integer"
    match index? s.toList with
    | some v =>
      emit [.literal (toString v) span]
      advance rest
      return false
    | none => fail "expected unsuffixed integer"
  | ts =>
    if !Look.name ts then fail "expected identifier or integer"
    discard name
    return true

end AccessorGen.Source.Grammar
