import AccessorGen.Text.Pieces

/-! Paths. The text of a path is kept as it was put together; equality, order and relative paths go
by its components. Repeated slashes, a slash at the end and dots are not components, a dot in front
excepted. -/

namespace AccessorGen

inductive Component
  | top | here | up
  | name (s : List Char)
  deriving DecidableEq, Repr

namespace Component

def text : Component → List Char
  | .top => ['/']
  | .here => ['.']
  | .up => ['.', '.']
  | .name s => s

def rank : Component → Nat
  | .top => 0
  | .here => 1
  | .up => 2
  | .name _ => 3

/-- The slash precedes the dot, the dot the two dots, these every name; names go by code points. -/
def le : Component → Component → Bool
  | .name s, .name t => Text.le s t
  | a, b => a.rank ≤ b.rank

def ofPiece? (piece : List Char) : Option Component :=
  if piece = [] ∨ piece = ['.'] then none
  else if piece = ['.', '.'] then some .up
  else some (.name piece)

end Component

structure Path where
  text : String
  deriving DecidableEq, Repr, Inhabited

namespace Path

def isAbsolute (p : Path) : Bool := p.text.toList.head? == some '/'

def componentsOf (s : List Char) : List Component :=
  match Text.cutAt '/' s with
  | [] => []
  | first :: rest =>
    let body := rest.filterMap Component.ofPiece?
    if first = [] then if rest = [] then [] else .top :: body
    else if first = ['.'] then .here :: body
    else (Component.ofPiece? first).toList ++ body

def components (p : Path) : List Component := componentsOf p.text.toList

def same (p q : Path) : Bool := p.components == q.components

def leList : List Component → List Component → Bool
  | [], _ => true
  | _ :: _, [] => false
  | a :: as, b :: bs => if a = b then leList as bs else a.le b

def le (p q : Path) : Bool := leList p.components q.components

def joinChars (p q : List Char) : List Char :=
  if q.head? = some '/' then q
  else if p = [] ∨ p.getLast? = some '/' then p ++ q
  else p ++ '/' :: q

/-- An absolute path replaces what it is joined to; else one slash stands between the texts,
unless the first is empty or ends in one. -/
def join (p q : Path) : Path := ⟨.ofList (joinChars p.text.toList q.text.toList)⟩

def push (p : Path) (s : String) : Path := p.join ⟨s⟩

def ofSegments (segments : List String) : Path := segments.foldl push ⟨""⟩

def slashed (p : Path) : String :=
  .ofList (Text.joinWith ['/'] (p.components.map Component.text))

def idle (piece : List Char) : Bool := piece = [] ∨ piece = ['.']

def lead (s : List Char) : Option (List Char) × List (List Char) :=
  match Text.cutAt '/' s with
  | [] => (none, [])
  | first :: rest =>
    if first = [] then if rest = [] then (none, []) else (some ['/'], rest)
    else if first = ['.'] then (some ['.'], rest)
    else (none, first :: rest)

def glue : Option (List Char) → List (List Char) → List Char
  | none, body => Text.joinWith ['/'] body
  | some l, [] => l
  | some ['/'], body => '/' :: Text.joinWith ['/'] body
  | some l, body => l ++ '/' :: Text.joinWith ['/'] body

def trimIdleEnd (body : List (List Char)) : List (List Char) :=
  (body.reverse.dropWhile idle).reverse

/-- The path without its last component; none for the empty path and the slash. -/
def parent (p : Path) : Option Path :=
  let (front, body) := lead p.text.toList
  match (trimIdleEnd body).reverse with
  | _ :: rest => some ⟨.ofList (glue front (trimIdleEnd rest.reverse))⟩
  | [] => if front = some ['.'] then some ⟨""⟩ else none

def fileName (p : Path) : Option (List Char) :=
  match p.components.getLast? with
  | some (.name s) => some s
  | _ => none

/-- Cuts a file name at its last dot; a dot in front counts as part of the stem. -/
def cutName (s : List Char) : List Char × Option (List Char) :=
  let after := (s.reverse.takeWhile (· ≠ '.')).reverse
  let stem := s.take (s.length - after.length - 1)
  if s.contains '.' ∧ stem ≠ [] then (stem, some after) else (s, none)

def stem (p : Path) : Option (List Char) := p.fileName.map fun s => (cutName s).1

def ending (p : Path) : Option (List Char) := p.fileName.bind fun s => (cutName s).2

def dropComponents : Nat → List (List Char) → List (List Char)
  | _, [] => []
  | 0, body => body.dropWhile idle
  | n + 1, piece :: body =>
    if idle piece then dropComponents (n + 1) body else dropComponents n body

def relativeTo (p base : Path) : Option Path :=
  let n := base.components.length
  let (front, body) := lead p.text.toList
  if base.components.isPrefixOf p.components then
    let rest :=
      if n = 0 then glue front (trimIdleEnd body)
      else glue none (trimIdleEnd (dropComponents (n - front.toList.length) body))
    some ⟨.ofList rest⟩
  else none

def sort (ps : List Path) : List Path := ps.mergeSort le

theorem componentsOf_nil : componentsOf [] = [] := rfl

example : (Path.mk "a//./b/").components = [.name ['a'], .name ['b']] := by decide

example : (Path.mk "a//b/./c/").parent = some ⟨"a//b"⟩ ∧ (Path.mk "./a").parent = some ⟨"."⟩ ∧
    (Path.mk "/a").parent = some ⟨"/"⟩ ∧ (Path.mk "a").parent = some ⟨""⟩ := by decide

example : (Path.mk "src/./a//b.c.rs").relativeTo ⟨"src/"⟩ = some ⟨"a//b.c.rs"⟩ ∧
    (Path.mk "x/b.c.rs").stem = some "b.c".toList ∧ (Path.mk ".rs").ending = none := by decide

example : (Path.mk "a/b").le ⟨"a-b"⟩ = true ∧ (Path.mk "a-b").le ⟨"a/b"⟩ = false := by decide

end Path

end AccessorGen
