import AccessorGen.Text.Character

/-! Cutting text at separators and trimming it, over lists of characters.
Every cut gives at least one piece, and the pieces joined by the separator are the text again. -/

namespace AccessorGen.Text

def consFirst (c : Char) : List (List Char) → List (List Char)
  | [] => [[c]]
  | p :: ps => (c :: p) :: ps

/-- Cuts at every `::`, from left to right. -/
def cutColons : List Char → List (List Char)
  | [] => [[]]
  | ':' :: ':' :: r => [] :: cutColons r
  | c :: r => consFirst c (cutColons r)

def cutAt (sep : Char) : List Char → List (List Char)
  | [] => [[]]
  | c :: r => if c = sep then [] :: cutAt sep r else consFirst c (cutAt sep r)

def joinWith (sep : List Char) : List (List Char) → List Char
  | [] => []
  | [p] => p
  | p :: q :: ps => p ++ sep ++ joinWith sep (q :: ps)

def occurs (fragment : List Char) : List Char → Bool
  | [] => fragment.isEmpty
  | c :: r => fragment.isPrefixOf (c :: r) || occurs fragment r

def before (fragment : List Char) : List Char → List Char
  | [] => []
  | c :: r => if fragment.isPrefixOf (c :: r) then [] else c :: before fragment r

def without (fragment s : List Char) : List Char :=
  if fragment.isPrefixOf s then s.drop fragment.length else s

def trimStart (s : List Char) : List Char := s.dropWhile isBlank

def trimEnd (s : List Char) : List Char := (s.reverse.dropWhile isBlank).reverse

def trim (s : List Char) : List Char := trimEnd (trimStart s)

/-- Lines with their line ends; the last one may lack it, and no line is empty. -/
def lines : List Char → List (List Char)
  | [] => []
  | c :: r =>
    if c = '\n' then [c] :: lines r
    else match lines r with
      | [] => [[c]]
      | l :: ls => (c :: l) :: ls

def utf8Length : List Char → Nat
  | [] => 0
  | c :: cs => c.utf8Size + utf8Length cs

def le : List Char → List Char → Bool
  | [], _ => true
  | _ :: _, [] => false
  | a :: as, b :: bs => if a = b then le as bs else a.toNat < b.toNat

theorem consFirst_ne_nil (c : Char) (ps : List (List Char)) : consFirst c ps ≠ [] := by
  cases ps <;> simp [consFirst]

theorem cutAt_ne_nil (sep : Char) (s : List Char) : cutAt sep s ≠ [] := by
  cases s with
  | nil => simp [cutAt]
  | cons c r =>
    unfold cutAt
    split
    · simp
    · exact consFirst_ne_nil c _

theorem joinWith_consFirst (sep : List Char) (c : Char) (ps : List (List Char)) :
    joinWith sep (consFirst c ps) = c :: joinWith sep ps := by
  match ps with
  | [] => rfl
  | [p] => rfl
  | p :: q :: ps => rfl

theorem joinWith_cutAt (sep : Char) (s : List Char) : joinWith [sep] (cutAt sep s) = s := by
  induction s with
  | nil => rfl
  | cons c r ih =>
    unfold cutAt
    split
    next h =>
      subst h
      cases hr : cutAt c r with
      | nil => exact absurd hr (cutAt_ne_nil c r)
      | cons p ps => simp [joinWith, ← hr, ih]
    next h => rw [joinWith_consFirst, ih]

theorem flatten_lines (s : List Char) : (lines s).flatten = s := by
  induction s with
  | nil => rfl
  | cons c r ih =>
    unfold lines
    split
    · simp [ih]
    · cases hr : lines r with
      | nil => rw [hr] at ih; simpa using ih
      | cons l ls => rw [hr] at ih; simpa using ih

end AccessorGen.Text
