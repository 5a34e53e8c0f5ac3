import AccessorGen.Render.CompanionFile
import AccessorGen.Render.ModuleTree
import AccessorGen.Round.Process

/-! A round rendered in memory: the companions in the order of the round, then the module files
that declare them. -/

namespace AccessorGen

structure PreviewFile where
  path : String
  content : String
  deriving DecidableEq, Repr

def PreviewFile.ofOutput (f : OutputFile) : PreviewFile := ⟨f.path.slashed, f.content⟩

structure Preview where
  companions : List PreviewFile := []
  modules : ModuleTree := {}
  deriving DecidableEq, Repr

namespace Preview

def empty : Preview := {}

def sink (options : RenderOptions) : Sink Preview :=
  ⟨fun ns c s =>
    (.ok (),
      ⟨s.companions ++ [.ofOutput (Render.companionFile ns c options)],
        s.modules.insert ns c.name⟩)⟩

def files (s : Preview) : List PreviewFile := s.companions ++ s.modules.files.map .ofOutput

end Preview

def previewRound (options : RenderOptions) (ds : List Declaration) :
    RoundReport × List Diagnostic × List PreviewFile :=
  let (report, diagnostics, last) := process (Preview.sink options) ds .empty
  (report, diagnostics, last.files)

end AccessorGen
