import AccessorGen.Companion.Basic
import AccessorGen.Layout.Writer

/-! Items of generated source: structs, functions, impl blocks, imports and module declarations,
each with its fragments. -/

namespace AccessorGen.Render

def visibilityWord : Visibility → String
  | .exposed => "pub "
  | .hidden => ""

def attributeLine (text : String) : Fragment := .line ("#[" ++ text ++ "]")

def docLine (doc : Option String) : List Fragment := doc.toList.map .doc

structure FieldItem where
  name : String
  type : String
  doc : Option String := none
  attributes : List String := []
  visibility : Visibility := .exposed

def FieldItem.fragments (f : FieldItem) : List Fragment :=
  docLine f.doc ++ f.attributes.map attributeLine ++
    [.line (visibilityWord f.visibility ++ f.name ++ ": " ++ f.type ++ ",")]

structure StructItem where
  name : String
  doc : Option String := none
  derives : List String := []
  attributes : List String := []
  fields : List FieldItem := []
  visibility : Visibility := .exposed

def StructItem.header (s : StructItem) : String :=
  visibilityWord s.visibility ++ "struct " ++ s.name

def StructItem.fragments (s : StructItem) : List Fragment :=
  docLine s.doc ++
    (if s.derives.isEmpty then []
      else [attributeLine ("derive(" ++ ", ".intercalate s.derives ++ ")")]) ++
    s.attributes.map attributeLine ++
    [if s.fields.isEmpty then .line (s.header ++ " \x7b\x7d")
      else .block (s.header ++ " \x7b") (s.fields.flatMap FieldItem.fragments) (some "\x7d")]

inductive Receiver
  | shared | exclusive | owned
  deriving DecidableEq, Repr

def Receiver.text : Receiver → String
  | .shared => "&self"
  | .exclusive => "&mut self"
  | .owned => "self"

structure FunctionItem where
  name : String
  doc : Option String := none
  attributes : List String := []
  visibility : Visibility := .exposed
  receiver : Option Receiver := none
  params : List (String × String) := []
  returns : Option String := none
  body : List String := []

namespace FunctionItem

def paramTexts (f : FunctionItem) : List String :=
  f.receiver.toList.map Receiver.text ++ f.params.map fun (name, type) => name ++ ": " ++ type

def signature (f : FunctionItem) : String :=
  visibilityWord f.visibility ++ "fn " ++ f.name ++ "(" ++ ", ".intercalate f.paramTexts ++ ")" ++
    (match f.returns with
      | some type => " -> " ++ type
      | none => "") ++ " \x7b"

def fragments (f : FunctionItem) : List Fragment :=
  docLine f.doc ++ f.attributes.map attributeLine ++
    [.block f.signature (f.body.map .line) (some "\x7d")]

end FunctionItem

structure ImplItem where
  name : String
  interface : Option String := none
  attributes : List String := []
  methods : List FunctionItem := []

namespace ImplItem

def header (i : ImplItem) : String :=
  match i.interface with
  | some name => "impl " ++ name ++ " for " ++ i.name
  | none => "impl " ++ i.name

def spaced : List FunctionItem → List Fragment
  | [] => []
  | m :: ms => m.fragments ++ ms.flatMap fun m => .blank :: m.fragments

def fragments (i : ImplItem) : List Fragment :=
  i.attributes.map attributeLine ++
    [if i.methods.isEmpty then .line (i.header ++ " \x7b\x7d")
      else .block (i.header ++ " \x7b") (spaced i.methods) (some "\x7d")]

end ImplItem

structure ImportItem where
  path : String
  attributes : List String := []

namespace ImportItem

def glob (module : String) : ImportItem := { path := module ++ "::*" }

def fragments (u : ImportItem) : List Fragment :=
  u.attributes.map attributeLine ++ [.line ("use " ++ u.path ++ ";")]

end ImportItem

structure ModuleItem where
  name : String
  visibility : Visibility := .exposed

def ModuleItem.fragments (m : ModuleItem) : List Fragment :=
  [.line (visibilityWord m.visibility ++ "mod " ++ m.name ++ ";")]

end AccessorGen.Render
