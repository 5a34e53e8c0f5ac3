import AccessorGen.Input.Fault
import AccessorGen.Text.Identifier

/-! The settings of a generator run, their defaults and the checks on them. -/

namespace AccessorGen

/-- `marker` is the name of the attribute that marks a declaration. -/
structure Config where
  source : String := "src"
  output : String := "src/generated"
  marker : String := "custom_lombok"
  derives : List String := ["Debug", "Clone", "Default"]
  hardTabs : Bool := false
  tabSpaces : Nat := 4
  deriving DecidableEq, Repr

namespace Config

def isDefault (c : Config) : Bool := c == {}

/-- Identifiers joined by `::`, which may also stand in front. -/
def isDerivePath (s : String) : Bool :=
  let path := Text.without [':', ':'] s.toList
  !path.isEmpty && (Text.cutColons path).all Text.isIdentifierChars

def complaint (c : Config) : Option (String × String) :=
  if !Text.isIdentifier c.marker then
    some ("annotation", "annotation '" ++ c.marker ++ "' is not a valid identifier")
  else match c.derives.find? (!isDerivePath ·) with
    | some derive => some ("derives", "derive '" ++ derive ++ "' is not a valid path")
    | none =>
      if !c.hardTabs && !([2, 4, 8].contains c.tabSpaces) then
        some ("tab_spaces", "tab_spaces must be 2, 4 or 8")
      else if (Text.trim c.output.toList).isEmpty then
        some ("output", "output directory cannot be empty")
      else none

def cutAtEquals (line : List Char) : Option (List Char × List Char) :=
  match line.dropWhile (· ≠ '=') with
  | _ :: value => some (line.takeWhile (· ≠ '='), value)
  | [] => none

/-- The value on a line for a key, up to a comment behind a blank; in bytes from the start of the
line. -/
def valueOnLine? (key line : List Char) : Option ByteSpan :=
  match cutAtEquals line with
  | none => none
  | some (left, right) =>
    if Text.trim left = key then
      let value := Text.before [' ', '#'] right
      let blank := Text.utf8Length value - Text.utf8Length (Text.trimStart value)
      some ⟨Text.utf8Length left + 1 + blank, Text.utf8Length (Text.trim value)⟩
    else none

def valueFrom? (key : List Char) (offset : Nat) : List (List Char) → Option ByteSpan
  | [] => none
  | line :: rest =>
    match valueOnLine? key line with
    | some span => some ⟨offset + span.offset, span.length⟩
    | none => valueFrom? key (offset + Text.utf8Length line) rest

def valueSpan? (text key : String) : Option ByteSpan :=
  valueFrom? key.toList 0 (Text.lines text.toList)

def check (c : Config) (src : SourceText) : Except InputFault Unit :=
  match c.complaint with
  | some (key, message) => .error (.invalid src (valueSpan? src.text key) message)
  | none => .ok ()

example :
    valueSpan? "[generator]\n  tab_spaces =  3 # odd\n" "tab_spaces" = some ⟨28, 1⟩ := by decide

end Config

end AccessorGen
