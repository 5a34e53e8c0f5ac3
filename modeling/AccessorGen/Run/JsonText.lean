import AccessorGen.Text.Pieces

/-! Values in JSON text, one element or member a line and two blanks a level. -/

namespace AccessorGen

inductive JsonText
  | text (s : String)
  | number (n : Nat)
  | list (elements : List JsonText)
  | object (members : List (String × JsonText))
  deriving Repr, Inhabited

namespace JsonText

def hexDigit (n : Nat) : Char := (Nat.toDigits 16 n).getLastD '0'

def escaped (c : Char) : List Char :=
  if c == '"' || c == '\\' then ['\\', c]
  else if c == '\n' then ['\\', 'n']
  else if c == '\r' then ['\\', 'r']
  else if c == '\t' then ['\\', 't']
  else if c.toNat == 8 then ['\\', 'b']
  else if c.toNat == 12 then ['\\', 'f']
  else if c.toNat < 32 then
    ['\\', 'u', '0', '0', hexDigit (c.toNat / 16), hexDigit (c.toNat % 16)]
  else [c]

def quoted (s : String) : List Char := '"' :: s.toList.flatMap escaped ++ ['"']

def newline (level : Nat) : List Char := '\n' :: List.replicate (2 * level) ' '

/-- Pieces between two brackets, each on a line of its own; nothing stands in an empty pair. -/
def bracketed (level : Nat) (left right : Char) : List (List Char) → List Char
  | [] => [left, right]
  | pieces =>
    left :: newline (level + 1) ++ Text.joinWith (',' :: newline (level + 1)) pieces ++
      newline level ++ [right]

mutual

def chars (level : Nat) : JsonText → List Char
  | .text s => quoted s
  | .number n => (toString n).toList
  | .list elements => bracketed level '[' ']' (elementChars (level + 1) elements)
  | .object members => bracketed level '\x7b' '\x7d' (memberChars (level + 1) members)

def elementChars (level : Nat) : List JsonText → List (List Char)
  | [] => []
  | e :: rest => e.chars level :: elementChars level rest

def memberChars (level : Nat) : List (String × JsonText) → List (List Char)
  | [] => []
  | (name, v) :: rest => (quoted name ++ ':' :: ' ' :: v.chars level) :: memberChars level rest

end

def render (v : JsonText) : String := .ofList (v.chars 0)

def texts (ss : List String) : JsonText := .list (ss.map .text)

example : quoted "a\"\x01é" = "\"a\\\"\\u0001é\"".toList := by decide

end JsonText

end AccessorGen
