import AccessorGen.Text.Unicode.Alphabetic
import AccessorGen.Text.Unicode.Combining
import AccessorGen.Text.Unicode.Invisible
import AccessorGen.Text.Unicode.Lower
import AccessorGen.Text.Unicode.Numeric
import AccessorGen.Text.Unicode.Upper
import AccessorGen.Text.Unicode.Uppercase
import AccessorGen.Text.Unicode.WordContinue
import AccessorGen.Text.Unicode.WordStart

/-! Character classes and case mappings over all of Unicode.
ASCII is decided by comparison, everything else by the tables. A case mapping gives a list,
since one letter may become several characters. -/

namespace AccessorGen.Text

def within (ranges : List (Nat × Nat)) (n : Nat) : Bool :=
  ranges.any fun r => r.1 ≤ n && n ≤ r.2

def onRun (first last step n : Nat) : Bool :=
  first ≤ n && n ≤ last && (n - first) % step == 0

def isLetter (c : Char) : Bool :=
  if c.toNat < 128 then c.isAlpha else within Unicode.alphabetic c.toNat

def isNumber (c : Char) : Bool :=
  if c.toNat < 128 then c.isDigit else within Unicode.numeric c.toNat

def isLetterOrNumber (c : Char) : Bool := isLetter c || isNumber c

def isCapital (c : Char) : Bool :=
  if c.toNat < 128 then c.isUpper
  else Unicode.uppercase.any fun (first, last, step) => onRun first last step c.toNat

def isBlank (c : Char) : Bool :=
  let n := c.toNat
  n == 32 || (9 ≤ n && n ≤ 13) || n == 0x85 || n == 0xA0 || n == 0x1680 ||
    (0x2000 ≤ n && n ≤ 0x200A) || n == 0x2028 || n == 0x2029 || n == 0x202F ||
    n == 0x205F || n == 0x3000

/-- May begin a word of source text; the underscore is allowed apart from this class. -/
def isWordStart (c : Char) : Bool :=
  if c.toNat < 128 then c.isAlpha else within Unicode.wordStart c.toNat

def isWordContinue (c : Char) : Bool :=
  if c.toNat < 128 then c.isAlphanum || c == '_' else within Unicode.wordContinue c.toNat

def isCombining (c : Char) : Bool :=
  c.toNat ≥ 128 && within Unicode.combining c.toNat

def isVisible (c : Char) : Bool :=
  if c.toNat < 128 then 32 ≤ c.toNat && c.toNat < 127
  else !within Unicode.invisible c.toNat

def image (runs : List (Nat × Nat × Nat × Nat)) (long : List (Nat × List Nat)) (c : Char) :
    List Char :=
  match long.lookup c.toNat with
  | some ns => ns.map Char.ofNat
  | none =>
    match runs.find? fun (first, last, step, _) => onRun first last step c.toNat with
    | some (first, _, _, target) => [Char.ofNat (target + (c.toNat - first))]
    | none => [c]

def upper (c : Char) : List Char :=
  if c.toNat < 128 then [c.toUpper] else image Unicode.upper Unicode.upperLong c

def lower (c : Char) : List Char :=
  if c.toNat < 128 then [c.toLower] else image Unicode.lower Unicode.lowerLong c

example : upper 'ß' = ['S', 'S'] ∧ lower 'İ' = ['i', '\u0307'] ∧ lower 'Σ' = ['σ'] := by decide

example : isLetter 'é' = true ∧ isCapital 'É' = true ∧ isNumber '٣' = true := by decide

end AccessorGen.Text
