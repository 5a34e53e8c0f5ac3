import AccessorGen.Run.Invocation
import AccessorGen.Render.CompanionFile

/-! What a run works on: the settings of the configuration file, with the choices of the command
line in place of its directories. -/

namespace AccessorGen

structure Settings where
  source : Path
  output : Path
  marker : String
  options : RenderOptions
  deriving DecidableEq, Repr

namespace Settings

def ofConfigFile (f : ConfigFile) : Settings :=
  { source := f.sourceDir
    output := f.outputDir
    marker := f.config.marker
    options := ⟨f.config.derives, .ofSettings f.config.hardTabs f.config.tabSpaces⟩ }

def override (s : Settings) (source output : Option Path) : Settings :=
  { s with source := source.getD s.source, output := output.getD s.output }

/-- The configuration file may be missing; a directory given on the command line is relative to
where the run starts, and not to that file. -/
def load (t : FileTree) (input : SourceChoice) (output : Option Path) :
    Except InputFault Settings := do
  return (ofConfigFile (← ConfigFile.openOrDefault t input.config)).override input.source output

end Settings

end AccessorGen
