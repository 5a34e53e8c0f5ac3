import AccessorGen.Run.Session

/-! Diagnostics told one by one to a stream that may fail. An error counts whether or not it could
be printed, and a run that generates ends with the count. -/

namespace AccessorGen

section Telling

variable {m : Type → Type} [Monad m]

/-- Writes lines in order up to the first that fails; gives whether all were written. -/
def printLines (write : String → m Bool) : List String → m Bool
  | [] => return true
  | line :: rest => do if ← write (line ++ "\n") then printLines write rest else return false

/-- The number of errors told so far. -/
structure Console where
  errors : Nat := 0
  deriving DecidableEq, Repr

namespace Console

def count (c : Console) (d : Diagnostic) : Console := if d.isError then ⟨c.errors + 1⟩ else c

/-- Counts a diagnostic and prints it; `log` is told of one that cannot be printed. -/
def tell (write : String → m Bool) (log : Diagnostic → m Unit) (c : Console) (d : Diagnostic) :
    m Console := do
  if !(← printLines write d.lines) then log d
  return c.count d

def tellAll (write : String → m Bool) (log : Diagnostic → m Unit) (c : Console) :
    List Diagnostic → m Console
  | [] => return c
  | d :: rest => do (← c.tell write log d).tellAll write log rest

def exitCode (c : Console) : UInt32 := if 0 < c.errors then 1 else 0

end Console

/-- Tells the diagnostics of a report and gives the exit code. Only a run that generates asks for the
count; a check has its code from the report, and with JSON text it tells nothing here. The program
panics, and has no code of its own, where it cannot say what is wrong with its input. -/
def Ending.conclude (write : String → m Bool) (log : Diagnostic → m Unit) (e : Ending) :
    m (Option UInt32) :=
  match e with
  | .generated report => do
    return some (← Console.tellAll write log {} report.diagnostics).exitCode
  | .checked report asJson => do
    if !asJson then discard (Console.tellAll write log {} report.diagnostics)
    return some e.exitCode
  | .told _ => return some e.exitCode
  | .misused _ => do
    discard (write e.errorOutput)
    return some e.exitCode
  | .refused _ => do return if ← write e.errorOutput then some e.exitCode else none

end Telling

end AccessorGen
