import AccessorGen.Discovery.Scan
import AccessorGen.Input.Fault
import AccessorGen.Source.Grammar

/-! The declarations of one source file. A byte order mark and a first line for the system's loader
are taken off before parsing; the places of errors are counted in what is left. -/

namespace AccessorGen

open Source

def withoutOrderMark (s : List Char) : List Char := Text.without [Lexer.byteOrderMark] s

/-- Whether the text begins with a line for the loader. Where an attribute follows `#!`, it does
not. -/
def startsLoaderLine : List Char → Bool
  | '#' :: '!' :: r => (Lexer.skipSpace r.length r).head? != some '['
  | _ => false

/-- The text without a first line for the loader; the end of that line stays. -/
def withoutLoaderLine (s : List Char) : List Char :=
  if startsLoaderLine s then s.dropWhile (· ≠ '\n') else s

def SourceText.parsed (src : SourceText) : List Char :=
  withoutLoaderLine (withoutOrderMark src.text.toList)

def SourceText.items (src : SourceText) : Except InputFault (List Item) :=
  match readText Source.items src.parsed with
  | .ok items => .ok items
  | .error e =>
    let position n := Position.behind src.parsed n
    .error (src.syntaxFault (position e.span.start) (position e.span.stop) e.message)

def SourceText.declarations (src : SourceText) (space : Namespace) (marker : String) :
    Except InputFault (List Declaration) := do
  return scan marker space (← src.items)

end AccessorGen
