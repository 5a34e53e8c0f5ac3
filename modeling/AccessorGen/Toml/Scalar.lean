import AccessorGen.Toml.Text
import AccessorGen.Toml.Value

/-! Values without quotes and brackets: truth values, numbers, dates and times. -/

namespace AccessorGen.Toml.Scalar

def digitsFrom (base : Nat) (value : Nat) (afterDigit : Bool) : List Char → Option Nat
  | [] => if afterDigit then some value else none
  | '_' :: r => if afterDigit then digitsFrom base value false r else none
  | c :: r =>
    match Quoted.hexValue? c with
    | some d => if d < base then digitsFrom base (value * base + d) true r else none
    | none => none

def digits? (base : Nat) (s : List Char) : Option Nat := digitsFrom base 0 false s

def whole? (s : List Char) : Option Nat :=
  match s with
  | ['0'] => some 0
  | '0' :: _ => none
  | _ => digits? 10 s

def cutSign : List Char → Bool × List Char
  | '-' :: r => (true, r)
  | '+' :: r => (false, r)
  | s => (false, s)

def negate (negative : Bool) (n : Nat) : Int := if negative then -(n : Int) else n

def integer? (s : List Char) : Option Int :=
  match s with
  | '0' :: 'x' :: r => (digits? 16 r).map (↑·)
  | '0' :: 'o' :: r => (digits? 8 r).map (↑·)
  | '0' :: 'b' :: r => (digits? 2 r).map (↑·)
  | _ => (whole? (cutSign s).2).map (negate (cutSign s).1)

def isExponentMark (c : Char) : Bool := c == 'e' || c == 'E'

/-- The exponent behind its letter; it may begin with zeros. -/
def exponent? (s : List Char) : Option Int :=
  (digits? 10 (cutSign s).2).map (negate (cutSign s).1)

def fraction? (s : List Char) : Option (Nat × Nat) :=
  (digits? 10 s).map fun v => (v, (s.filter (· ≠ '_')).length)

def unsignedFloat? (negative : Bool) (s : List Char) : Option Number.Decimal :=
  let mantissa := s.takeWhile (!isExponentMark ·)
  let whole := mantissa.takeWhile (· ≠ '.')
  let e := match s.dropWhile (!isExponentMark ·) with
    | [] => some 0
    | _ :: r => exponent? r
  let f := match mantissa.dropWhile (· ≠ '.') with
    | [] => if s.any isExponentMark then some (0, 0) else none
    | _ :: r => fraction? r
  match whole? whole, f, e with
  | some w, some (v, k), some e => some (.finite negative (w * Nat.pow 10 k + v) (e - k))
  | _, _, _ => none

def float? (s : List Char) : Option Number.Decimal :=
  let (negative, r) := cutSign s
  if r = ['i', 'n', 'f'] then some (.infinite negative)
  else if r = ['n', 'a', 'n'] then some .undefined
  else unsignedFloat? negative r

def fixed? (n : Nat) (s : List Char) : Option (Nat × List Char) :=
  let ds := s.take n
  if ds.length = n ∧ ds.all Char.isDigit then (digits? 10 ds).map (·, s.drop n) else none

def char? (cs : List Char) : List Char → Option (List Char)
  | c :: r => if cs.contains c then some r else none
  | [] => none

def isLeap (year : Nat) : Bool := year % 4 == 0 && (year % 100 != 0 || year % 400 == 0)

def monthLength (year month : Nat) : Nat :=
  if month = 2 then if isLeap year then 29 else 28
  else if [4, 6, 9, 11].contains month then 30 else 31

def date? (s : List Char) : Option (List Char) := do
  let (year, r) ← fixed? 4 s
  let (month, r) ← fixed? 2 (← char? ['-'] r)
  let (day, r) ← fixed? 2 (← char? ['-'] r)
  if 1 ≤ month ∧ month ≤ 12 ∧ 1 ≤ day ∧ day ≤ monthLength year month then some r else none

/-- Seconds with a fraction; both may be missing. -/
def seconds? (s : List Char) : Option (List Char) :=
  match s with
  | ':' :: r => do
    let (second, r) ← fixed? 2 r
    if second > 60 then none
    else match r with
      | '.' :: r =>
        if (r.takeWhile Char.isDigit).isEmpty then none else some (r.dropWhile Char.isDigit)
      | _ => some r
  | _ => some s

def time? (s : List Char) : Option (List Char) := do
  let (hour, r) ← fixed? 2 s
  let (minute, r) ← fixed? 2 (← char? [':'] r)
  if hour > 23 ∨ minute > 59 then none else seconds? r

def zone? (s : List Char) : Option (List Char) :=
  match s with
  | [] => some []
  | c :: r =>
    if c == 'Z' || c == 'z' then some r
    else if c == '+' || c == '-' then do
      let (hour, r) ← fixed? 2 r
      let (minute, r) ← fixed? 2 (← char? [':'] r)
      if hour > 23 ∨ minute > 59 then none else some r
    else none

def isMoment (s : List Char) : Bool :=
  match date? s with
  | some [] => true
  | some r =>
    match (char? ['T', 't', ' '] r).bind time? with
    | some rest => zone? rest == some []
    | none => false
  | none => time? s == some []

def endsScalar (c : Char) : Bool :=
  [' ', '\t', '\n', '\r', ',', ']', '\x7d', '#', '=', '[', '\x7b', '"', '\''].contains c

def joinsTime : List Char → Bool
  | ' ' :: c :: _ => c.isDigit
  | _ => false

def cut (s : List Char) : List Char × List Char :=
  let word := s.takeWhile (!endsScalar ·)
  let rest := s.dropWhile (!endsScalar ·)
  if date? word = some [] ∧ joinsTime rest then
    let more := ' ' :: (rest.drop 1).takeWhile (!endsScalar ·)
    (word ++ more, rest.drop more.length)
  else (word, rest)

def value? (s : List Char) : Option Value :=
  if s = ['t', 'r', 'u', 'e'] then some (.boolean true)
  else if s = ['f', 'a', 'l', 's', 'e'] then some (.boolean false)
  else match integer? s with
    | some n => some (.integer n)
    | none =>
      match float? s with
      | some x => some (.float x)
      | none => if isMoment s then some .moment else none

end AccessorGen.Toml.Scalar
