import AccessorGen.Layout.Fragment
import AccessorGen.Layout.Indent

/-! Writing fragments with indentation. The writer holds the text so far and a level that never
falls below zero; a block leaves the level as it found it. -/

namespace AccessorGen

structure Writer where
  indent : Indent
  level : Nat := 0
  text : String := ""
  deriving DecidableEq, Repr

namespace Writer

def margin (indent : Indent) : Nat → String
  | 0 => ""
  | level + 1 => indent.text ++ margin indent level

def line (w : Writer) (s : String) : Writer :=
  { w with text := w.text ++ margin w.indent w.level ++ s ++ "\n" }

def blank (w : Writer) : Writer := { w with text := w.text ++ "\n" }

def doc (w : Writer) (s : String) : Writer := w.line ("/// " ++ s)

def deeper (w : Writer) : Writer := { w with level := w.level + 1 }

def shallower (w : Writer) : Writer := { w with level := w.level - 1 }

mutual

def fragment (w : Writer) : Fragment → Writer
  | .line s => w.line s
  | .blank => w.blank
  | .doc s => w.doc s
  | .block header body close =>
    let inner := ((w.line header).deeper.fragments body).shallower
    match close with
    | some s => inner.line s
    | none => inner

def fragments (w : Writer) : List Fragment → Writer
  | [] => w
  | f :: fs => (w.fragment f).fragments fs

end

def render (indent : Indent) (fs : List Fragment) : String :=
  (({ indent := indent } : Writer).fragments fs).text

example : render (.spaces 2) [.block "a" [.line "b", .blank] (some "c")] = "a\n  b\n\nc\n" := by
  decide

end Writer

end AccessorGen
