import AccessorGen.Input.SourceText
import AccessorGen.Number.Shortest

/-! Values of a TOML document and the tables they are put into. A table remembers how it came about,
since that decides whether later lines may add to it. -/

namespace AccessorGen.Toml

structure Key where
  name : String
  span : ByteSpan
  deriving DecidableEq, Repr

/-- A table has a header of its own, or is implied by a longer header, or comes from dots in a key,
or stands in braces. -/
inductive TableForm
  | headed | implied | dotted | inline
  deriving DecidableEq, Repr

namespace TableForm

def isImplicit (f : TableForm) : Bool := f == .implied || f == .dotted

end TableForm

/-- An array of tables grows by headers, other arrays stand in brackets. -/
inductive Value
  | text (s : String)
  | integer (n : Int)
  | float (x : Number.Decimal)
  | boolean (b : Bool)
  | moment
  | array (ofTables : Bool) (elements : List (ByteSpan × Value))
  | table (form : TableForm) (entries : List (Key × ByteSpan × Value))
  deriving Repr, Inhabited

abbrev Element := ByteSpan × Value

abbrev Entries := List (Key × ByteSpan × Value)

namespace Entries

def find? (es : Entries) (name : String) : Option Element :=
  match List.find? (fun e => e.1.name == name) es with
  | some (_, v) => some v
  | none => none

def erase (es : Entries) (name : String) : Entries := List.filter (fun e => e.1.name != name) es

def set (es : Entries) (k : Key) (v : Element) : Entries :=
  List.map (fun e => if e.1.name == k.name then (e.1, v) else e) es

/-- Adds an entry; a name may stand only once. -/
def add (es : Entries) (k : Key) (v : Element) : Option Entries :=
  match es.find? k.name with
  | some _ => none
  | none => some (es ++ [(k, v)])

def sorted (es : Entries) : Entries := List.mergeSort es fun a b => decide (a.1.name ≤ b.1.name)

end Entries

/-- Changes the table at the end of a path. Missing tables are made; `dotted` says that the path
stands in a key and not in a header. A key goes only into tables that came about by keys, and in
both cases not into one in braces. -/
def changeAt (dotted : Bool) (change : TableForm → Entries → Option Entries) :
    List Key → TableForm → Entries → Option Entries
  | [], form, es => change form es
  | k :: path, _, es =>
    match es.find? k.name with
    | none => do
      let form : TableForm := if dotted then .dotted else .implied
      let inner ← changeAt dotted change path form []
      return es ++ [(k, k.span, .table form inner)]
    | some (span, .table form inner) =>
      if form == .inline || (dotted && !form.isImplicit) then none
      else do
        let inner' ← changeAt dotted change path form inner
        return es.set k (span, .table form inner')
    | some (span, .array true elements) =>
      if dotted then none
      else match elements.reverse with
        | (last, .table form inner) :: before => do
          let inner' ← changeAt dotted change path form inner
          return es.set k (span, .array true (before.reverse ++ [(last, .table form inner')]))
        | _ => none
    | some _ => none

/-- Adds a value under a key with dots in it. The table it ends in has to come from dots itself
exactly if the key has any. -/
def addDotted (path : List Key) (k : Key) (v : Element) (form : TableForm) (es : Entries) :
    Option Entries :=
  changeAt true (fun f inner => if (f == .dotted) == path.isEmpty then none else inner.add k v)
    path form es

end AccessorGen.Toml
