import AccessorGen.File.Path

/-! A file system as a value: a tree of directories and files and the directory that relative
paths start from. A path is walked component by component; what stands before the last component
has to be a directory that exists. -/

namespace AccessorGen

/-- What a file holds: text, or bytes that are no text. -/
inductive Content
  | text (s : String)
  | binary (bytes : List UInt8)
  deriving DecidableEq, Repr

def Content.ofBytes (bytes : List UInt8) : Content :=
  match String.fromUTF8? ⟨bytes.toArray⟩ with
  | some s => .text s
  | none => .binary bytes

inductive OsError
  | notFound | exists | notDirectory | isDirectory
  deriving DecidableEq, Repr

def OsError.message : OsError → String
  | .notFound => "No such file or directory (os error 2)"
  | .exists => "File exists (os error 17)"
  | .notDirectory => "Not a directory (os error 20)"
  | .isDirectory => "Is a directory (os error 21)"

/-- Entries stand in the order in which a listing of the directory gives them. -/
inductive Node
  | file (content : Content)
  | dir (entries : List (String × Node))
  deriving Repr, Inhabited

abbrev Place := List String

namespace Node

def isDir : Node → Bool
  | .dir _ => true
  | .file _ => false

def get : Node → Place → Option Node
  | n, [] => some n
  | .dir entries, s :: place => (entries.lookup s).bind (·.get place)
  | .file _, _ :: _ => none

def setEntry (name : String) (n : Node) : List (String × Node) → List (String × Node)
  | [] => [(name, n)]
  | (s, m) :: rest => if s = name then (name, n) :: rest else (s, m) :: setEntry name n rest

def dropEntry (name : String) (entries : List (String × Node)) : List (String × Node) :=
  entries.filter fun (s, _) => s ≠ name

/-- Puts a node at a place; nothing happens where the place has no directory above it. -/
def set (new : Node) : Node → Place → Node
  | _, [] => new
  | .file c, _ :: _ => .file c
  | .dir entries, [s] => .dir (setEntry s new entries)
  | .dir entries, s :: t :: place =>
    match entries.lookup s with
    | some n => .dir (setEntry s (set new n (t :: place)) entries)
    | none => .dir entries

def remove : Node → Place → Node
  | n, [] => n
  | .file c, _ :: _ => .file c
  | .dir entries, [s] => .dir (dropEntry s entries)
  | .dir entries, s :: t :: place =>
    match entries.lookup s with
    | some n => .dir (setEntry s (n.remove (t :: place)) entries)
    | none => .dir entries

mutual

/-- Every path below a node, a directory before what it holds; a file comes with its content. -/
def listing (at_ : Path) : Node → List (Path × Option Content)
  | .file c => [(at_, some c)]
  | .dir entries => (at_, none) :: listingAll at_ entries

def listingAll (at_ : Path) : List (String × Node) → List (Path × Option Content)
  | [] => []
  | (s, n) :: rest => n.listing (at_.push s) ++ listingAll at_ rest

end

end Node

structure FileTree where
  root : Node
  here : Place
  deriving Repr, Inhabited

namespace FileTree

def empty : FileTree := ⟨.dir [], []⟩

def step (place : Place) : Component → Place
  | .top => []
  | .here => place
  | .up => place.dropLast
  | .name s => place ++ [.ofList s]

def enter (t : FileTree) (place : Place) : Except OsError Unit :=
  match t.root.get place with
  | some (.dir _) => .ok ()
  | some (.file _) => .error .notDirectory
  | none => .error .notFound

def walk (t : FileTree) (place : Place) : List Component → Except OsError Place
  | [] => .ok place
  | c :: cs => do
    t.enter place
    t.walk (step place c) cs

def idleEnd (p : Path) : List (List Char) :=
  (Text.cutAt '/' p.text.toList).reverse.takeWhile Path.idle

def lastStep (p : Path) : List Component := if (idleEnd p).contains ['.'] then [.here] else []

/-- The place a path names. The place itself need not exist, all above it has to. -/
def resolve (t : FileTree) (p : Path) : Except OsError Place :=
  match p.components with
  | [] => .error .notFound
  | .top :: cs => t.walk [] (cs ++ lastStep p)
  | cs => t.walk t.here (cs ++ lastStep p)

def endsInSlash (p : Path) : Bool := (idleEnd p).head? == some []

def find (t : FileTree) (p : Path) : Except OsError Node := do
  let place ← t.resolve p
  match t.root.get place with
  | some (.file c) => if endsInSlash p then .error .notDirectory else .ok (.file c)
  | some n => .ok n
  | none => .error .notFound

def contains (t : FileTree) (p : Path) : Bool := (t.find p).isOk

def isDir (t : FileTree) (p : Path) : Bool :=
  match t.find p with
  | .ok n => n.isDir
  | .error _ => false

/-- The text of a file; none for a directory, for bytes that are no text, and for nothing. -/
def readText (t : FileTree) (p : Path) : Option String :=
  match t.find p with
  | .ok (.file (.text s)) => some s
  | _ => none

def makeDir (t : FileTree) (p : Path) : Except OsError FileTree := do
  let place ← t.resolve p
  match t.root.get place with
  | some _ => .error .exists
  | none => .ok { t with root := .set (.dir []) t.root place }

def ancestors (p : Path) : List Path :=
  let rec go : Nat → Path → List Path
    | 0, _ => []
    | n + 1, p =>
      if p.text.isEmpty then [] else
        p :: match p.parent with
          | some q => go n q
          | none => []
  go (p.text.length + 1) p

def ensureDir (t : FileTree) (p : Path) : Except OsError Unit × FileTree :=
  match t.makeDir p with
  | .ok t' => (.ok (), t')
  | .error e => if t.isDir p then (.ok (), t) else (.error e, t)

/-- Makes the directories of a list that goes upwards, from the first one that is not missing its
parent down again. Directories made before a failure stay. -/
def makeFrom (t : FileTree) : List Path → Except OsError Unit × FileTree
  | [] => (.ok (), t)
  | p :: above =>
    if t.makeDir p matches .error .notFound then
      match t.makeFrom above with
      | (.ok (), t') => t'.ensureDir p
      | failure => failure
    else t.ensureDir p

def makeDirs (t : FileTree) (p : Path) : Except OsError Unit × FileTree := t.makeFrom (ancestors p)

def writeText (t : FileTree) (p : Path) (s : String) : Except OsError FileTree := do
  let place ← t.resolve p
  match t.root.get place with
  | some (.dir _) => .error .isDirectory
  | _ =>
    if endsInSlash p then .error .isDirectory
    else .ok { t with root := .set (.file (.text s)) t.root place }

end FileTree

end AccessorGen
