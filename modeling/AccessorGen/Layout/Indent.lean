/-! The text of one indentation level. -/

namespace AccessorGen

inductive Indent
  | spaces (width : Nat)
  | tab
  deriving DecidableEq, Repr

namespace Indent

def four : Indent := .spaces 4

def ofSettings (hardTabs : Bool) (width : Nat) : Indent :=
  if hardTabs then .tab else .spaces width

/-- Two and eight spaces are written so; every other width is written as four. -/
def text : Indent → String
  | .tab => "\t"
  | .spaces 2 => "  "
  | .spaces 8 => "        "
  | .spaces _ => "    "

end Indent

end AccessorGen
