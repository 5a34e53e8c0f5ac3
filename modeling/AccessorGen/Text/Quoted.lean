import AccessorGen.Text.Character

/-! Text between double quotes, with what is not visible written as an escape. -/

namespace AccessorGen.Text

def hexDigits (n : Nat) : List Char := Nat.toDigits 16 n

/-- One character between double quotes. `digitNext` says that an octal digit follows, before which
a zero character is written in two digits. -/
def escapeChar (digitNext : Bool) (c : Char) : List Char :=
  if c.toNat == 0 then if digitNext then ['\\', 'x', '0', '0'] else ['\\', '0']
  else if c == '\t' then ['\\', 't']
  else if c == '\r' then ['\\', 'r']
  else if c == '\n' then ['\\', 'n']
  else if c == '"' || c == '\\' then ['\\', c]
  else if c == '\'' then [c]
  else if isCombining c || !isVisible c then
    '\\' :: 'u' :: '\x7b' :: hexDigits c.toNat ++ ['\x7d']
  else [c]

def startsOctal : List Char → Bool
  | d :: _ => '0' ≤ d && d ≤ '7'
  | [] => false

/-- Whether `wary` of an octal digit behind a zero character. -/
def escapeText (wary : Bool) : List Char → List Char
  | [] => []
  | c :: r => escapeChar (wary && startsOctal r) c ++ escapeText wary r

def quotedWith (wary : Bool) (s : List Char) : List Char := '"' :: escapeText wary s ++ ['"']

def quoted (s : String) : String := .ofList (quotedWith false s.toList)

example : quoted "a\"\n" = "\"a\\\"\\n\"" := by decide

end AccessorGen.Text
