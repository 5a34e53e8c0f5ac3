import AccessorGen.Text.Identifier

/-! The module path a declaration lives in, with its reading from text and its display.
The root has no segments and is displayed as `crate`. -/

namespace AccessorGen

structure Namespace where
  segments : List String
  deriving DecidableEq, Repr, Inhabited

namespace Namespace

def root : Namespace := ⟨[]⟩

def isRoot (ns : Namespace) : Bool := ns.segments.isEmpty

def child (ns : Namespace) (segment : String) : Namespace := ⟨ns.segments ++ [segment]⟩

/-- The trimmed, non-empty pieces between the separators `::` and `.`. -/
def pathWords (s : List Char) : List (List Char) :=
  ((Text.cutColons s).flatMap (Text.cutAt '.')).map Text.trim |>.filter (!·.isEmpty)

def dropCrate : List (List Char) → List (List Char)
  | [] => []
  | w :: ws => if w = ['c', 'r', 'a', 't', 'e'] then ws else w :: ws

/-- Reads `a::b` or `a.b`; one leading `crate` and empty pieces are passed over. -/
def parse (s : String) : Namespace :=
  ⟨(dropCrate (pathWords s.toList)).map .ofList⟩

def display (ns : Namespace) : String :=
  if ns.isRoot then "crate" else "::".intercalate ns.segments

/-- The display of a name inside the namespace; a name in the root stands alone. -/
def qualify (ns : Namespace) (name : String) : String :=
  if ns.isRoot then name else ns.display ++ "::" ++ name

/-- Segment by segment, each by code points; a shorter path precedes its extensions. -/
def before : List String → List String → Bool
  | [], _ => true
  | _ :: _, [] => false
  | a :: as, b :: bs => if a = b then before as bs else decide (a < b)

def sort (spaces : List Namespace) : List Namespace :=
  spaces.mergeSort fun a b => before a.segments b.segments

@[simp] theorem segments_child (ns : Namespace) (s : String) :
    (ns.child s).segments = ns.segments ++ [s] := rfl

theorem isRoot_iff {ns : Namespace} : ns.isRoot = true ↔ ns = root := by
  cases ns with
  | mk segments => simp [isRoot, root]

example : parse "crate::com.example" = ⟨["com", "example"]⟩ := by decide

example : (parse "crate").isRoot = true ∧ (parse "a::crate").display = "a::crate" := by decide

end Namespace

end AccessorGen
