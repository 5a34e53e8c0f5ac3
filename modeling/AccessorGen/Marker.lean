import AccessorGen.Source.Grammar
import AccessorGen.Text.Identifier

/-! The marker attribute itself. It leaves a struct with named fields or none as it is, and puts an
error for the compiler behind everything else. -/

namespace AccessorGen.Marker

open Source

def nowhere : Span := ⟨0, 0⟩

def errorTokens (message : String) : List Token :=
  [.mark ':' true nowhere, .mark ':' false nowhere, .word ⟨"core", by decide⟩ nowhere,
   .mark ':' true nowhere,
   .mark ':' false nowhere, .word ⟨"compile_error", by decide⟩ nowhere, .mark '!' false nowhere,
   .group .brace [.literal (Lexer.textLiteral message.toList) nowhere] nowhere]

/-- The name an item is reported under; the marker knows no name for the others. -/
def definitionName? : Definition → Option String
  | .struct name _ => some name
  | .enum name => some name
  | .interface name => some name
  | .union name => some name
  | .function name => some name
  | .constant name => some name
  | .static name => some name
  | .alias name => some name
  | _ => none

def itemName? : Item → Option String
  | .module _ name _ => some name
  | .single _ d => definitionName? d

def reportedName (i : Item) : String :=
  match itemName? i with
  | some name => Text.plainWord name
  | none => "this item"

def accepts : Item → Bool
  | .single _ (.struct _ (.named _)) => true
  | .single _ (.struct _ .unit) => true
  | _ => false

def misuse (name : String) : String := "CustomLombok can not be used on " ++ name

/-- Why the marker refuses what it stands on, if it does. The marker itself takes no arguments. -/
def refusal (arguments item : List Token) : Option String :=
  if !arguments.isEmpty then some "custom_lombok takes no arguments" else
  match parseItem item with
  | .error e => some e.message
  | .ok i =>
    if accepts i then none else some (misuse (reportedName i))

def expand (arguments item : List Token) : List Token :=
  match refusal arguments item with
  | none => item
  | some message => item ++ errorTokens message

theorem expand_of_refusal_eq_none {arguments item : List Token}
    (h : refusal arguments item = none) : expand arguments item = item := by simp [expand, h]

end AccessorGen.Marker
