import AccessorGen.File.Path
import AccessorGen.Input.SourceText

/-! Why a configuration or a source file cannot be used. -/

namespace AccessorGen

/-- `malformed` is a configuration that is no valid document of its format, `invalid` one with a
value that is not allowed, `badSource` a source file that cannot be parsed. -/
inductive InputFault
  | unreadable (path : Path)
  | missingSource (path : Path)
  | malformed (source : SourceText) (span : Option ByteSpan) (cause : String)
  | invalid (source : SourceText) (span : Option ByteSpan) (message : String)
  | badSource (source : SourceText) (span : ByteSpan) (cause : String)
  deriving DecidableEq, Repr

structure Label where
  text : String
  span : ByteSpan
  deriving DecidableEq, Repr

namespace InputFault

def message : InputFault → String
  | .unreadable path => "failed to read '" ++ path.text ++ "'"
  | .missingSource path => "source directory '" ++ path.text ++ "' does not exist"
  | .malformed .. => "failed to parse companion.toml"
  | .invalid _ _ message => message
  | .badSource source _ _ => "failed to parse '" ++ source.name ++ "'"

def code : InputFault → String
  | .unreadable _ => "companion::io"
  | .missingSource _ => "companion::missing_source"
  | .malformed .. => "companion::parse_error"
  | .invalid .. => "companion::validation_error"
  | .badSource .. => "companion::syntax_error"

def help : InputFault → Option String
  | .missingSource _ => some "set [generator].source in companion.toml or pass --source"
  | .badSource .. => some "the file must be valid Rust before accessors can be generated"
  | _ => none

def label : InputFault → Option Label
  | .malformed _ span _ => span.map fun s => ⟨"parse error here", s⟩
  | .invalid _ span message => span.map fun s => ⟨message, s⟩
  | .badSource _ span _ => some ⟨"syntax error here", span⟩
  | _ => none

def cause : InputFault → Option String
  | .malformed _ _ cause => some cause
  | .badSource _ _ cause => some cause
  | _ => none

def source : InputFault → Option SourceText
  | .malformed source _ _ => some source
  | .invalid source _ _ => some source
  | .badSource source _ _ => some source
  | _ => none

end InputFault

def SourceText.syntaxFault (src : SourceText) (start stop : Position) (cause : String) :
    InputFault :=
  .badSource src (src.spanBetween start stop) cause

end AccessorGen
