import AccessorGen.Companion.Build

/-! Sinks take the companions of a round. A sink is a step on a state: it is given a namespace and
a companion and answers with the next state and, on failure, the text of the cause. -/

namespace AccessorGen

structure Sink (σ : Type) where
  write : Namespace → Companion → σ → Except String Unit × σ

namespace Sink

def discard : Sink Unit := ⟨fun _ _ s => (.ok (), s)⟩

def memory : Sink (List (Namespace × Companion)) :=
  ⟨fun ns c kept => (.ok (), kept ++ [(ns, c)])⟩

def refusal (c : Companion) : String :=
  "cannot write " ++ c.name ++ ": no space left on device"

def failing (target : Option String) : Sink (List (Namespace × Companion)) :=
  ⟨fun ns c kept =>
    match target with
    | some name => if name = c.name then (.error (refusal c), kept) else memory.write ns c kept
    | none => (.error (refusal c), kept)⟩

end Sink

/-- Why a declaration of a round has no written companion. -/
inductive EmitFault
  | rejected (cause : Rejection)
  | sink (cause : String)
  deriving DecidableEq, Repr

namespace EmitFault

def message : EmitFault → String
  | .rejected cause => cause.message
  | .sink cause => "FATAL ERROR: " ++ cause

def isFatal : EmitFault → Bool
  | .rejected _ => false
  | .sink _ => true

end EmitFault

/-- Builds the companion and gives it to the sink once; a rejected declaration reaches no sink. -/
def Declaration.emit {σ : Type} (d : Declaration) (sink : Sink σ) (s : σ) :
    Except EmitFault Companion × σ :=
  match d.companion with
  | .error cause => (.error (.rejected cause), s)
  | .ok c =>
    match sink.write d.space c s with
    | (.ok (), s') => (.ok c, s')
    | (.error cause, s') => (.error (.sink cause), s')

end AccessorGen
