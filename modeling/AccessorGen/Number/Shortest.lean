/-! Decimal numbers in 64 bits: the nearest binary number with 53 digits, and the fewest decimal
digits that read back as that number, written without an exponent. -/

namespace AccessorGen.Number

/-- A decimal number `digits · 10 ^ exponent` with its sign, or a value that is none. -/
inductive Decimal
  | finite (negative : Bool) (digits : Nat) (exponent : Int)
  | infinite (negative : Bool)
  | undefined
  deriving DecidableEq, Repr

def roundEven (n d : Nat) : Nat :=
  let q := n / d
  let r := 2 * (n % d)
  if r < d then q else if d < r then q + 1 else if q % 2 = 0 then q else q + 1

def scaled (n d : Nat) (q : Int) : Nat × Nat :=
  if q < 0 then (n * Nat.pow 2 q.natAbs, d) else (n, d * Nat.pow 2 q.natAbs)

def bits (n : Nat) : Nat := if n = 0 then 0 else n.log2 + 1

/-- A binary number `mantissa · 2 ^ exponent`; nothing stands for what is too large. -/
structure Binary where
  mantissa : Nat
  exponent : Int
  deriving DecidableEq, Repr

def fittingExponent (n d : Nat) : Int :=
  max (-1074) ((bits n : Int) - bits d - 53)

def roundAt (n d : Nat) (q : Int) : Nat := roundEven (scaled n d q).1 (scaled n d q).2

def nearest (n d : Nat) : Option Binary :=
  if n = 0 then some ⟨0, -1074⟩ else
  let q := fittingExponent n d
  let q := if bits (roundAt n d q) > 53 then q + 1 else q
  let m := roundAt n d q
  let b : Binary := if m = Nat.pow 2 53 then ⟨Nat.pow 2 52, q + 1⟩ else ⟨m, q⟩
  if b.exponent > 971 then none else some b

def quotient (digits : Nat) (exponent : Int) : Nat × Nat :=
  if exponent < 0 then (digits, Nat.pow 10 exponent.natAbs)
  else (digits * Nat.pow 10 exponent.natAbs, 1)

/-- The nearest binary number; what is beyond all of them by far is not computed. -/
def ofDecimal (digits : Nat) (exponent : Int) : Option Binary :=
  let size := exponent + (toString digits).length
  if digits = 0 ∨ size < -400 then some ⟨0, -1074⟩
  else if 400 < size then none
  else nearest (quotient digits exponent).1 (quotient digits exponent).2

def decimalAt (n d : Nat) (exponent : Int) : Nat :=
  if exponent < 0 then roundEven (n * Nat.pow 10 exponent.natAbs) d
  else roundEven n (d * Nat.pow 10 exponent.natAbs)

def Binary.quotient (b : Binary) : Nat × Nat :=
  if b.exponent < 0 then (b.mantissa, Nat.pow 2 b.exponent.natAbs)
  else (b.mantissa * Nat.pow 2 b.exponent.natAbs, 1)

def shortestFrom (b : Binary) (n d : Nat) : Nat → Int → Nat × Int
  | 0, e => (decimalAt n d e, e)
  | k + 1, e =>
    let m := decimalAt n d e
    if ofDecimal m e = some b then (m, e) else shortestFrom b n d k (e - 1)

def magnitude (n d : Nat) : Int :=
  if d ≤ n then ((toString (n / d)).length : Int)
  else 1 - ((toString (d / n)).length : Int)

def Binary.shortest (b : Binary) : Nat × Int :=
  if b.mantissa = 0 then (0, 0) else
  let (n, d) := b.quotient
  shortestFrom b n d 20 (magnitude n d + 1)

def zeros (n : Nat) : List Char := List.replicate n '0'

/-- Digits over a power of ten without an exponent; a point and a zero end a whole number. -/
def positional (digits : Nat) (exponent : Int) : List Char :=
  let ds := Nat.toDigits 10 digits
  if 0 ≤ exponent then ds ++ (if digits = 0 then [] else zeros exponent.natAbs) ++ ['.', '0']
  else
    let k := exponent.natAbs
    let ds := zeros (k + 1 - ds.length) ++ ds
    let fraction := ds.drop (ds.length - k)
    ds.take (ds.length - k) ++ '.' :: fraction

def signed (negative : Bool) (s : String) : String := if negative then "-" ++ s else s

def Decimal.display : Decimal → String
  | .undefined => "NaN"
  | .infinite negative => signed negative "inf"
  | .finite negative digits exponent =>
    match ofDecimal digits exponent with
    | none => signed negative "inf"
    | some b => signed negative (.ofList (positional b.shortest.1 b.shortest.2))

end AccessorGen.Number
