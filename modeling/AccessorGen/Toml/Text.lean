import AccessorGen.Text.Pieces

/-! Quoted text in a TOML document, read by a machine that sees one character at a time. -/

namespace AccessorGen.Toml.Quoted

/-- Which quote ends the text, whether there may be line ends in it, and whether there are
escapes. -/
structure Style where
  quote : Char
  multiline : Bool
  escapes : Bool

/-- `quotes` counts quotes that may end the text; `fold` stands between a backslash at the end of a
line and the line end, and `folding` behind it. -/
inductive State
  | plain
  | quotes (count : Nat)
  | afterReturn
  | escape
  | code (left value : Nat)
  | fold
  | foldReturn
  | folding
  | foldingReturn
  deriving DecidableEq, Repr

/-- `doneBefore` ends the text in front of the character. -/
inductive Verdict
  | go (next : State) (out : List Char)
  | done (out : List Char)
  | doneBefore (out : List Char)
  | fail

def isAllowed (c : Char) : Bool := c == '\t' || (c.toNat ≥ 32 && c.toNat != 127)

def plainStep (st : Style) (c : Char) : Verdict :=
  if c == st.quote then if st.multiline then .go (.quotes 1) [] else .done []
  else if c == '\\' && st.escapes then .go .escape []
  else if c == '\n' then if st.multiline then .go .plain [c] else .fail
  else if c == '\r' then if st.multiline then .go .afterReturn [] else .fail
  else if isAllowed c then .go .plain [c]
  else .fail

def Verdict.after (out : List Char) : Verdict → Verdict
  | .go next more => .go next (out ++ more)
  | .done more => .done (out ++ more)
  | .doneBefore more => .doneBefore (out ++ more)
  | .fail => .fail

def quotesStep (st : Style) (count : Nat) (c : Char) : Verdict :=
  if c == st.quote then
    if count + 1 == 5 then .done [c, c] else .go (.quotes (count + 1)) []
  else if count ≥ 3 then .doneBefore (List.replicate (count - 3) st.quote)
  else (plainStep st c).after (List.replicate count st.quote)

def simpleEscapes : List (Char × Char) :=
  [('b', '\x08'), ('t', '\t'), ('n', '\n'), ('f', '\x0c'), ('r', '\r'), ('e', '\x1b'), ('"', '"'),
   ('\\', '\\')]

def codeLengths : List (Char × Nat) := [('x', 2), ('u', 4), ('U', 8)]

def foldStep (c : Char) : Verdict :=
  if c == ' ' || c == '\t' then .go .fold []
  else if c == '\n' then .go .folding []
  else if c == '\r' then .go .foldReturn []
  else .fail

def escapeStep (st : Style) (c : Char) : Verdict :=
  match simpleEscapes.lookup c with
  | some d => .go .plain [d]
  | none =>
    match codeLengths.lookup c with
    | some n => .go (.code n 0) []
    | none => if st.multiline then foldStep c else .fail

def hexValue? (c : Char) : Option Nat :=
  if c.isDigit then some (c.toNat - 48)
  else if 'a' ≤ c ∧ c ≤ 'f' then some (c.toNat - 87)
  else if 'A' ≤ c ∧ c ≤ 'F' then some (c.toNat - 55)
  else none

def codeStep (left value : Nat) (c : Char) : Verdict :=
  match hexValue? c with
  | none => .fail
  | some d =>
    let v := value * 16 + d
    if left ≤ 1 then if v.isValidChar then .go .plain [Char.ofNat v] else .fail
    else .go (.code (left - 1) v) []

def foldingStep (st : Style) (c : Char) : Verdict :=
  if c == ' ' || c == '\t' || c == '\n' then .go .folding []
  else if c == '\r' then .go .foldingReturn []
  else plainStep st c

def step (st : Style) : State → Char → Verdict
  | .plain, c => plainStep st c
  | .quotes count, c => quotesStep st count c
  | .afterReturn, c => if c == '\n' then .go .plain ['\r', '\n'] else .fail
  | .escape, c => escapeStep st c
  | .code left value, c => codeStep left value c
  | .fold, c => foldStep c
  | .foldReturn, c => if c == '\n' then .go .folding [] else .fail
  | .folding, c => foldingStep st c
  | .foldingReturn, c => if c == '\n' then .go .folding [] else .fail

def run (st : Style) : State → List Char → Option (List Char × List Char)
  | .quotes count, [] =>
    if count ≥ 3 then some (List.replicate (count - 3) st.quote, []) else none
  | _, [] => none
  | state, c :: r =>
    match step st state c with
    | .go next out =>
      match run st next r with
      | some (s, rest) => some (out ++ s, rest)
      | none => none
    | .done out => some (out, r)
    | .doneBefore out => some (out, c :: r)
    | .fail => none

def dropLineEnd : List Char → List Char
  | '\n' :: r => r
  | '\r' :: '\n' :: r => r
  | s => s

def line? : List Char → Option (List Char × List Char)
  | '"' :: r => run ⟨'"', false, true⟩ .plain r
  | '\'' :: r => run ⟨'\'', false, false⟩ .plain r
  | _ => none

/-- Text in quotes; three of them allow line ends. -/
def any? : List Char → Option (List Char × List Char)
  | '"' :: '"' :: '"' :: r => run ⟨'"', true, true⟩ .plain (dropLineEnd r)
  | '\'' :: '\'' :: '\'' :: r => run ⟨'\'', true, false⟩ .plain (dropLineEnd r)
  | s => line? s

example : any? "\"\"\"\na\\\n  b\"\"\"\" c".toList = some ("ab\"".toList, " c".toList) := by decide

example : any? "'a\\n' # x".toList = some ("a\\n".toList, " # x".toList) := by decide

example : any? "\"\\u00e9\\q\"".toList = none := by decide

end AccessorGen.Toml.Quoted
