import AccessorGen.Toml.Scalar

/-! The reading of a TOML document. Places are counted in bytes. -/

namespace AccessorGen.Toml

structure Place where
  rest : List Char
  offset : Nat

abbrev Scan := StateT Place Option

namespace Scan

def rest : Scan (List Char) := return (← get).rest

def offset : Scan Nat := return (← get).offset

def moveTo (rest : List Char) : Scan Unit := modify fun p =>
  ⟨rest, p.offset + Text.utf8Length (p.rest.take (p.rest.length - rest.length))⟩

def skipWhile (test : Char → Bool) : Scan Unit := do moveTo ((← rest).dropWhile test)

def space : Scan Unit := skipWhile fun c => c == ' ' || c == '\t'

def char (c : Char) : Scan Unit := do
  match ← rest with
  | d :: r => if c = d then moveTo r else failure
  | [] => failure

def char? (c : Char) : Scan Bool := do
  if (← rest).head? = some c then
    char c
    return true
  else return false

def lineEnd? : Scan Bool := do
  match ← rest with
  | '\n' :: r => moveTo r; return true
  | '\r' :: '\n' :: r => moveTo r; return true
  | _ => return false

def comment : Scan Unit := do
  if ← char? '#' then skipWhile Quoted.isAllowed

def spanned {α : Type} (p : Scan α) : Scan (ByteSpan × α) := do
  let start ← offset
  let a ← p
  return (⟨start, (← offset) - start⟩, a)

def cutBy {α : Type} (p : List Char → Option (α × List Char)) : Scan α := do
  match p (← rest) with
  | some (a, r) =>
    moveTo r
    return a
  | none => failure

end Scan

open Scan

def isBareKeyChar (c : Char) : Bool := c.isAlphanum || c == '_' || c == '-'

def bareKey (s : List Char) : Option (List Char × List Char) :=
  let word := s.takeWhile isBareKeyChar
  if word.isEmpty then none else some (word, s.drop word.length)

def key : Scan Key := do
  let (span, name) ← spanned (cutBy fun s => Quoted.line? s <|> bareKey s)
  return ⟨.ofList name, span⟩

/-- Keys with dots between them; space may surround the dots. -/
def keysFrom : Nat → Scan (List Key)
  | 0 => failure
  | n + 1 => do
    let k ← key
    space
    if ← char? '.' then
      space
      return k :: (← keysFrom n)
    else return [k]

def keys : Scan (List Key) := do keysFrom ((← rest).length + 1)

def splitKeys (ks : List Key) : Option (List Key × Key) :=
  match ks.getLast? with
  | some k => some (ks.dropLast, k)
  | none => none

def gapFrom : Nat → Scan Unit
  | 0 => return
  | n + 1 => do
    space
    comment
    if ← lineEnd? then gapFrom n

def gap : Scan Unit := do gapFrom ((← rest).length + 1)

def scalar : Scan Value := do
  let (word, r) := Scalar.cut (← rest)
  match Scalar.value? word with
  | some v =>
    moveTo r
    return v
  | none => failure

/-- Things with commas between them up to a closing bracket; a comma may stand at the end. -/
def listFrom {α : Type} (close : Char) (one : α → Scan α) : Nat → α → Scan α
  | 0, _ => failure
  | n + 1, acc => do
    gap
    if ← char? close then return acc
    let acc ← one acc
    gap
    if ← char? ',' then listFrom close one n acc
    else
      char close
      return acc

def inlineEntry (value : Scan Value) (es : Entries) : Scan Entries := do
  match splitKeys (← keys) with
  | none => failure
  | some (path, k) =>
    char '='
    space
    let v ← spanned value
    match addDotted path k v .inline es with
    | some es' => return es'
    | none => failure

def valueAt : Nat → Scan Value
  | 0 => failure
  | n + 1 => do
    let s ← rest
    match s with
    | '"' :: _ => return .text (.ofList (← cutBy Quoted.any?))
    | '\'' :: _ => return .text (.ofList (← cutBy Quoted.any?))
    | '[' :: _ =>
      char '['
      let elements ← listFrom ']' (fun acc => do return acc ++ [← spanned (valueAt n)])
        (s.length + 1) []
      return .array false elements
    | '\x7b' :: _ =>
      char '\x7b'
      return .table .inline (← listFrom '\x7d' (inlineEntry (valueAt n)) (s.length + 1) [])
    | _ => scalar

def value : Scan Value := do valueAt ((← rest).length + 1)

structure Header where
  keys : List Key
  ofArray : Bool
  span : ByteSpan

/-- The tables so far, the header that was read last, and the entries under it. -/
structure Draft where
  root : Entries := []
  header : Option Header := none
  current : Entries := []

namespace Draft

def close (d : Draft) : Option Entries :=
  match d.header with
  | none => some d.current
  | some h =>
    match splitKeys h.keys with
    | none => none
    | some (path, k) =>
      let table : Element := (h.span, .table .headed d.current)
      changeAt false (fun _ es =>
        if h.ofArray then
          match es.find? k.name with
          | some (span, .array true elements) =>
            some (es.set k (span, .array true (elements ++ [table])))
          | some _ => none
          | none => some (es ++ [(k, h.span, .array true [table])])
        else es.add k table) path .headed d.root

def claim (path : List Key) (k : Key) (root : Entries) : Option (Entries × Entries) := do
  let found := changeAt false (fun _ es => some es) path .headed root
  match found with
  | none => none
  | some root =>
    let taken := tableAt path root
    match taken.bind (·.find? k.name) with
    | none => some (root, [])
    | some (_, .table .implied inner) =>
      let root' ← changeAt false (fun _ es => some (es.erase k.name)) path .headed root
      some (root', inner)
    | some _ => none
where
  /-- The entries at the end of a path that exists. -/
  tableAt : List Key → Entries → Option Entries
    | [], es => some es
    | k :: path, es =>
      match es.find? k.name with
      | some (_, .table _ inner) => tableAt path inner
      | some (_, .array true elements) =>
        match elements.getLast? with
        | some (_, .table _ inner) => tableAt path inner
        | _ => none
      | _ => none

def start (d : Draft) (h : Header) : Option Draft := do
  let root ← d.close
  if h.ofArray then return ⟨root, some h, []⟩
  let (path, k) ← splitKeys h.keys
  let (root', inner) ← claim path k root
  return ⟨root', some h, inner⟩

def addEntry (d : Draft) (ks : List Key) (v : Element) : Option Draft := do
  let (path, k) ← splitKeys ks
  return { d with current := ← addDotted path k v .headed d.current }

end Draft

def header : Scan Header := do
  let (span, ks, ofArray) ← spanned do
    char '['
    let ofArray ← char? '['
    space
    let ks ← keys
    char ']'
    if ofArray then char ']'
    return (ks, ofArray)
  return ⟨ks, ofArray, span⟩

def entry (d : Draft) : Scan Draft := do
  let ks ← keys
  char '='
  space
  let v ← spanned value
  d.addEntry ks v

def line (d : Draft) : Scan Draft := do
  space
  let d ← match (← rest).head? with
    | some '[' => do d.start (← header)
    | some c => if c == '#' || c == '\n' || c == '\r' then pure d else entry d
    | none => pure d
  space
  comment
  return d

def linesFrom : Nat → Draft → Scan Draft
  | 0, _ => failure
  | n + 1, d => do
    let d ← line d
    if (← rest).isEmpty then return d
    if ← lineEnd? then linesFrom n d else failure

/-- The entries of a document. A byte order mark in front does not count, but has its bytes. -/
def document : Scan Entries := do
  discard (char? '\ufeff')
  let d ← linesFrom ((← rest).length + 1) {}
  d.close

def parse (s : String) : Option Entries :=
  match document ⟨s.toList, 0⟩ with
  | some (es, _) => some es
  | none => none

end AccessorGen.Toml
