import AccessorGen.Source.Token

/-! The text of tokens as it is customary for a type: single spaces between words, after commas and
around plus signs and arrows, and none inside brackets. -/

namespace AccessorGen.Source.Spelling

/-- What stands in front: the beginning or something that binds to the next token, a word, a keyword
that is set off even from a bracket, or a separator that wants a space. -/
inductive Before
  | tight | word | keyword | spaced
  deriving DecidableEq, Repr

structure State where
  before : Before
  arrow : Bool
  deriving DecidableEq, Repr

def start : State := ⟨.tight, false⟩

def isKeyword (w : String) : Bool := ["mut", "const", "dyn", "impl"].contains w

def blank (needed : Bool) : List Char := if needed then [' '] else []

def mark (st : State) (c : Char) (joint : Bool) : List Char × State :=
  if c == ',' || c == ';' then ([c], { st with before := .spaced })
  else if c == '+' || c == '=' then
    (blank (st.before != .tight) ++ [c], { st with before := .spaced })
  else if c == '-' && joint then (blank (st.before != .tight) ++ [c], ⟨.tight, true⟩)
  else if c == '>' then
    if st.arrow then ([c], ⟨.spaced, false⟩) else ([c], { st with before := .word })
  else (blank (st.before == .spaced) ++ [c], { st with before := .tight })

mutual

def token (st : State) : Token → List Char × State
  | .word w _ =>
    (blank (st.before != .tight) ++ w.text.toList,
      { st with before := if isKeyword w then .keyword else .word })
  | .literal s _ => (blank (st.before != .tight) ++ s.toList, { st with before := .word })
  | .group d content _ =>
    (blank (st.before == .keyword || st.before == .spaced) ++
      d.opening :: tokens start content ++ [d.closing], { st with before := .word })
  | .mark c joint _ => mark st c joint

def tokens (st : State) : List Token → List Char
  | [] => []
  | t :: ts => (token st t).1 ++ tokens (token st t).2 ts

end

def text (ts : List Token) : String := .ofList (tokens start ts)

theorem tokens_cons (st : State) (t : Token) (ts : List Token) :
    tokens st (t :: ts) = (token st t).1 ++ tokens (token st t).2 ts := by rw [tokens]

end AccessorGen.Source.Spelling
