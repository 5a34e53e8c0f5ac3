import AccessorGen.Text.Pieces

/-! Named texts and places in them. A place is a line, counted from one, and a column, counted in
characters from zero; it is turned into bytes from the beginning of the text. -/

namespace AccessorGen

structure SourceText where
  text : String
  name : String
  deriving DecidableEq, Repr

structure Position where
  line : Nat
  column : Nat
  deriving DecidableEq, Repr

namespace Position

def behind (s : List Char) (n : Nat) : Position :=
  let before := s.take n
  ⟨before.count '\n' + 1, (before.reverse.takeWhile (· ≠ '\n')).length⟩

/-- The bytes in front of a position. A column behind the end of its line counts as the end, and so
does a line behind the last. -/
def byteOffset (s : List Char) (p : Position) : Nat :=
  let before := ((Text.lines s).take (p.line - 1)).flatten
  let line := (s.drop before.length).takeWhile (· ≠ '\n')
  Text.utf8Length before + Text.utf8Length (line.take p.column)

example : byteOffset "mod a;\nlet é ü;".toList ⟨2, 6⟩ = 14 := by decide

example : behind "mod a;\nlet é ü;".toList 13 = ⟨2, 6⟩ := by decide

end Position

/-- A stretch of a text in bytes. -/
structure ByteSpan where
  offset : Nat
  length : Nat
  deriving DecidableEq, Repr

/-- The bytes between two positions; none when the second comes first. -/
def SourceText.spanBetween (src : SourceText) (start stop : Position) : ByteSpan :=
  let offset := start.byteOffset src.text.toList
  ⟨offset, stop.byteOffset src.text.toList - offset⟩

end AccessorGen
