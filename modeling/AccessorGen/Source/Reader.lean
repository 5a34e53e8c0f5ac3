import AccessorGen.Source.Token

/-! Reading a list of tokens. A reader consumes tokens from the front and keeps the consumed ones
in the form in which they are written back: the marks of one operator joint to each other, the
last one not joint to what follows. Tokens left over in a group are an error of their own, which
counts only when nothing else is wrong. -/

namespace AccessorGen.Source

/-- `close` is where an error at the end of the tokens is shown, `stray` the first token found left
over in a group, and `printed` what has been consumed, last first. -/
structure Cursor where
  rest : List Token
  close : Span
  stray : Option SyntaxError := none
  printed : List Token := []

abbrev Reader := StateT Cursor (Except SyntaxError)

namespace Look

def keywords : List String :=
  ["_", "abstract", "as", "async", "await", "become", "box", "break", "const", "continue", "crate",
   "do", "dyn", "else", "enum", "extern", "false", "final", "fn", "for", "if", "impl", "in", "let",
   "loop", "macro", "match", "mod", "move", "mut", "override", "priv", "pub", "ref", "return",
   "Self", "self", "static", "struct", "super", "trait", "true", "try", "type", "typeof", "unsafe",
   "unsized", "use", "virtual", "where", "while", "yield"]

/-- The tokens behind the first one; a lifetime counts as one token. -/
def skip : List Token → List Token
  | .mark '\'' _ _ :: .word _ _ :: ts => ts
  | _ :: ts => ts
  | [] => []

def anyWord : List Token → Bool
  | .word _ _ :: _ => true
  | _ => false

def name : List Token → Bool
  | .word w _ :: _ => !keywords.contains w
  | _ => false

def word (w : String) : List Token → Bool
  | .word v _ :: _ => v.text == w
  | _ => false

def words (ws : List String) : List Token → Bool
  | .word v _ :: _ => ws.contains v
  | _ => false

def operatorChars : List Char → List Token → Bool
  | [], _ => false
  | [c], .mark d _ _ :: _ => c == d && c != '\''
  | c :: cs, .mark d joint _ :: ts => c == d && joint && c != '\'' && operatorChars cs ts
  | _, _ => false

def mark (op : String) (ts : List Token) : Bool := operatorChars op.toList ts

def marks (ops : List String) (ts : List Token) : Bool := ops.any fun op => mark op ts

def lifetime : List Token → Bool
  | .mark '\'' true _ :: .word _ _ :: _ => true
  | _ => false

def group (d : Delimiter) : List Token → Bool
  | .group e _ _ :: _ => d == e
  | _ => false

def paren : List Token → Bool := group .paren

def bracket : List Token → Bool := group .bracket

def brace : List Token → Bool := group .brace

inductive LiteralKind
  | text | int | float | other
  deriving DecidableEq, Repr

def hasExponent : List Char → Bool
  | e :: r => (e == 'e' || e == 'E') &&
    match r.dropWhile fun c => c == '_' || c == '+' || c == '-' with
    | c :: _ => c.isDigit
    | [] => false
  | [] => false

def kindOfChars (s : List Char) : LiteralKind :=
  match s with
  | '"' :: _ => .text
  | 'r' :: _ => .text
  | '0' :: 'x' :: _ => .int
  | '0' :: 'o' :: _ => .int
  | '0' :: 'b' :: _ => .int
  | c :: _ =>
    if !c.isDigit then .other else
    match s.dropWhile fun c => c.isDigit || c == '_' with
    | '.' :: _ => .float
    | r => if hasExponent r then .float else .int
  | [] => .other

def kindOf (text : String) : LiteralKind := kindOfChars text.toList

def anyLiteral : List Token → Bool
  | .literal _ _ :: _ => true
  | _ => false

def textLiteral : List Token → Bool
  | .literal s _ :: _ => kindOf s == .text
  | _ => false

def isNumber (s : String) : Bool := kindOf s == .int || kindOf s == .float

def constant : List Token → Bool
  | .literal _ _ :: _ => true
  | .word w _ :: _ => w.text == "true" || w.text == "false"
  | .mark '-' _ _ :: .literal s _ :: _ => isNumber s
  | _ => false

end Look

namespace Reader

def tokens : Reader (List Token) := return (← get).rest

def atEnd : Reader Bool := return (← get).rest.isEmpty

def sees (test : List Token → Bool) : Reader Bool := return test (← get).rest

def failAt {α : Type} (span : Span) (message : String) : Reader α := throw ⟨message, span⟩

def fail {α : Type} (message : String) : Reader α := do
  let c ← get
  match c.rest with
  | t :: _ => failAt t.place message
  | [] => failAt c.close ("unexpected end of input, " ++ message)

def failExpected {α : Type} : List String → Reader α
  | [] => do
    let c ← get
    match c.rest with
    | t :: _ => failAt t.span "unexpected token"
    | [] => failAt c.close "unexpected end of input"
  | [a] => fail ("expected " ++ a)
  | [a, b] => fail ("expected " ++ a ++ " or " ++ b)
  | as => fail ("expected one of: " ++ ", ".intercalate as)

def quote (s : String) : String := "`" ++ s ++ "`"

def here : Reader Span := do
  let c ← get
  return match c.rest with
    | t :: _ => t.place
    | [] => c.close

def emit (ts : List Token) : Reader Unit :=
  modify fun c => { c with printed := ts.reverse ++ c.printed }

def advance (rest : List Token) : Reader Unit := modify fun c => { c with rest := rest }

def attempt {α : Type} (p : Reader α) : Reader (Option α) := fun c =>
  match p c with
  | .ok (a, c') => .ok (some a, c')
  | .error _ => .ok (none, c)

def peek {α : Type} (p : Reader α) : Reader (Option α) := fun c =>
  match p c with
  | .ok (a, _) => .ok (some a, c)
  | .error _ => .ok (none, c)

/-- The tokens that a reader would leave; nothing is consumed. -/
def behind {α : Type} (p : Reader α) : Reader (List Token) := fun c =>
  match p c with
  | .ok (_, c') => .ok (c'.rest, c)
  | .error e => .error e

def apart {α : Type} (p : Reader α) : Reader (α × List Token) := fun c =>
  match p { c with printed := [] } with
  | .ok (a, c') => .ok ((a, c'.printed.reverse), { c' with printed := c.printed })
  | .error e => .error e

def printing {α : Type} (p : Reader α) : Reader (α × List Token) := do
  let (a, ts) ← apart p
  emit ts
  return (a, ts)

def asWritten {α : Type} (p : Reader α) : Reader α := fun c =>
  match p c with
  | .ok (a, c') =>
    let raw := c.rest.take (c.rest.length - c'.rest.length)
    .ok (a, { c' with printed := raw.reverse ++ c.printed })
  | .error e => .error e

def anyWord : Reader Word := do
  match ← tokens with
  | .word w s :: ts => do
    advance ts
    emit [.word w s]
    return w
  | _ => fail "expected ident"

def name : Reader Word := do
  match ← tokens with
  | .word w s :: ts =>
    if Look.keywords.contains w then fail ("expected identifier, found keyword " ++ quote w)
    else
      advance ts
      emit [.word w s]
      return w
  | _ => fail "expected identifier"

def word (w : String) : Reader Unit := do
  if ← sees (Look.word w) then discard anyWord else fail ("expected " ++ quote w)

def word? (w : String) : Reader Bool := do
  if ← sees (Look.word w) then
    discard anyWord
    return true
  else return false

def operatorTokens (span : Span) : List Char → List Token
  | [] => []
  | [c] => [.mark c false span]
  | c :: cs => .mark c true span :: operatorTokens span cs

def mark (op : String) : Reader Unit := do
  let ts ← tokens
  if Look.mark op ts then
    emit (operatorTokens (← here) op.toList)
    advance (ts.drop op.length)
  else fail ("expected " ++ quote op)

def mark? (op : String) : Reader Bool := do
  if ← sees (Look.mark op) then
    mark op
    return true
  else return false

def lifetime : Reader Unit := do
  match ← tokens with
  | .mark '\'' true s :: .word w s' :: ts =>
    advance ts
    emit [.mark '\'' true s, .word w s']
  | _ => fail "expected lifetime"

def lifetime? : Reader Bool := do
  if ← sees Look.lifetime then
    lifetime
    return true
  else return false

def anyLiteral : Reader Unit := do
  match ← tokens with
  | .literal s span :: ts =>
    advance ts
    emit [.literal s span]
  | _ => fail "expected literal"

def constant : Reader Unit := do
  match ← tokens with
  | .mark '-' _ span :: .literal s _ :: ts =>
    if Look.isNumber s then
      advance ts
      emit [.literal ("-" ++ s) span]
    else fail "expected literal"
  | .word w span :: ts =>
    if w.text == "true" || w.text == "false" then
      advance ts
      emit [.word w span]
    else fail "expected literal"
  | _ => anyLiteral

def groupName : Delimiter → String
  | .paren => "parentheses"
  | .bracket => "square brackets"
  | .brace => "curly braces"

def leftOver (d : Delimiter) : List Token → Option SyntaxError
  | [] => none
  | t :: _ => some ⟨"unexpected token, expected " ++ quote (.singleton d.closing), t.span⟩

/-- Reads the inside of a group. What the reader leaves there is noted as stray. -/
def inside {α : Type} (d : Delimiter) (p : Reader α) : Reader α := do
  let c ← get
  match c.rest with
  | .group e content span :: ts =>
    if d = e then
      let (a, c') ← (p { rest := content, close := span.last, stray := c.stray } :
        Except SyntaxError (α × Cursor))
      set { c with
        rest := ts
        stray := c'.stray <|> leftOver d c'.rest
        printed := .group d c'.printed.reverse span :: c.printed }
      return a
    else fail ("expected " ++ groupName d)
  | _ => fail ("expected " ++ groupName d)

/-- A group of any kind, kept as it stands; gives its delimiter. -/
def anyGroup : Reader Delimiter := do
  match ← tokens with
  | .group d content span :: ts =>
    advance ts
    emit [.group d content span]
    return d
  | _ => fail "expected one of: parentheses, square brackets, curly braces"

def remaining : Reader Unit := do
  let ts ← tokens
  advance []
  emit ts

/-- Repeats a step until it says stop; the tokens in front bound the number of turns. -/
def repeatFrom {α : Type} (step : Reader (Option α)) : Nat → Reader (List α)
  | 0 => return []
  | n + 1 => do
    match ← step with
    | some a => return a :: (← repeatFrom step n)
    | none => return []

def repeating {α : Type} (step : Reader (Option α)) : Reader (List α) := do
  repeatFrom step ((← tokens).length + 1)

def many {α : Type} (p : Reader α) : Reader (List α) :=
  repeating do if ← atEnd then return none else return some (← p)

def manyWhile {α : Type} (test : List Token → Bool) (p : Reader α) : Reader (List α) :=
  repeating do if ← sees test then return some (← p) else return none

def chainFrom {α : Type} (p : Reader α) (more : Reader Bool) : Nat → Reader (List α)
  | 0 => return []
  | n + 1 => do
    let a ← p
    if ← more then return a :: (← chainFrom p more n) else return [a]

def chain {α : Type} (p : Reader α) (more : Reader Bool) : Reader (List α) := do
  chainFrom p more ((← tokens).length + 1)

/-- Things with a separator between them, up to a place where the list stops. A separator may stand
at the end. -/
def separated {α : Type} (sep : String) (stop : List Token → Bool) (p : Reader α) :
    Reader (List α) := do
  if ← sees stop then return []
  chain p do
    if ← sees stop then return false
    mark sep
    return !(← sees stop)

def commas {α : Type} (p : Reader α) : Reader (List α) := separated "," List.isEmpty p

end Reader

end AccessorGen.Source
