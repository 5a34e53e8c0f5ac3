import AccessorGen.Text.Pieces

/-! What a round tells its caller: notes on what is picked up and errors on what is not made. -/

namespace AccessorGen

inductive Severity
  | note | error
  deriving DecidableEq, Repr

def Severity.name : Severity → String
  | .note => "note"
  | .error => "error"

structure Diagnostic where
  severity : Severity
  message : String
  element : Option String := none
  deriving DecidableEq, Repr

namespace Diagnostic

def note (message : String) : Diagnostic := ⟨.note, message, none⟩

def error (message : String) : Diagnostic := ⟨.error, message, none⟩

def about (d : Diagnostic) (element : String) : Diagnostic := { d with element := some element }

def isNote (d : Diagnostic) : Bool := d.severity == .note

def isError (d : Diagnostic) : Bool := d.severity == .error

def display (d : Diagnostic) : String :=
  d.severity.name ++ ": " ++ d.message ++
    match d.element with
    | some e => " (at " ++ e ++ ")"
    | none => ""

end Diagnostic

end AccessorGen
