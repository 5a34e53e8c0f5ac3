/-! Pieces of source text before indentation: lines, blank lines, documentation lines, and blocks
whose body stands one level deeper. -/

namespace AccessorGen

inductive Fragment
  | line (text : String)
  | blank
  | doc (text : String)
  | block (header : String) (body : List Fragment) (close : Option String)
  deriving Repr

/-- A line with its level; the blank line has none. -/
inductive Row
  | text (level : Nat) (content : String)
  | blank
  deriving DecidableEq, Repr

namespace Row

def content : Row → String
  | .text _ content => content
  | .blank => ""

def deeper : Row → Row
  | .text level content => .text (level + 1) content
  | .blank => .blank

end Row

namespace Fragment

mutual

def rows (level : Nat) : Fragment → List Row
  | .line text => [.text level text]
  | .blank => [.blank]
  | .doc text => [.text level ("/// " ++ text)]
  | .block header body close =>
    .text level header :: rowsAll (level + 1) body ++ (close.toList.map (Row.text level))

def rowsAll (level : Nat) : List Fragment → List Row
  | [] => []
  | f :: fs => f.rows level ++ rowsAll level fs

end

theorem rowsAll_append (level : Nat) (fs gs : List Fragment) :
    rowsAll level (fs ++ gs) = rowsAll level fs ++ rowsAll level gs := by
  induction fs with
  | nil => rfl
  | cons f fs ih => simp [rowsAll, ih]

end Fragment

end AccessorGen
