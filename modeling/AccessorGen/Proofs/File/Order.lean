import AccessorGen.File.Path
import Mathlib.Data.Char
import Mathlib.Data.List.Lex
import Mathlib.Data.Prod.Lex

/-! The order of paths. Texts, components and lists of components are each ordered totally, so that
the order of a set of paths is determined by the set; a directory precedes all that lies below
it. -/

namespace AccessorGen

namespace ListOrder

variable {α : Type} [LinearOrder α]

theorem nil_le (l : List α) : [] ≤ l := not_lt.1 (List.not_lt_nil l)

theorem not_cons_le_nil (a : α) (l : List α) : ¬a :: l ≤ [] := not_le.2 (List.nil_lt_cons a l)

theorem cons_le_cons_iff {a b : α} {l m : List α} :
    a :: l ≤ b :: m ↔ a < b ∨ a = b ∧ l ≤ m := by
  rw [← not_lt, ← not_lt, List.cons_lt_cons_iff]
  obtain h | rfl | h := lt_trichotomy a b
  · simp [h, h.not_gt, h.ne']
  · simp
  · simp [h, h.not_gt, h.ne']

end ListOrder

namespace Text

theorem le_iff {s t : List Char} : le s t = true ↔ s ≤ t := by
  induction s generalizing t with
  | nil => exact iff_of_true rfl (ListOrder.nil_le t)
  | cons c s ih =>
    cases t with
    | nil => exact iff_of_false Bool.false_ne_true (ListOrder.not_cons_le_nil c s)
    | cons d t =>
      rw [ListOrder.cons_le_cons_iff, le]
      by_cases h : c = d
      · simp [h, ih]
      · simp [h, Char.lt_def, UInt32.lt_iff_toNat_lt]

end Text

namespace Component

def key (c : Component) : Nat ×ₗ List Char := toLex (c.rank, c.text)

theorem key_injective : Function.Injective key := by
  intro a b h
  obtain ⟨hrank, htext⟩ := Prod.mk.inj (toLex_inj.1 h)
  cases a <;> cases b <;> simp_all [rank, text]

instance : LinearOrder Component := LinearOrder.lift' key key_injective

theorem le_iff {a b : Component} : a.le b = true ↔ a ≤ b := by
  have hkey : a ≤ b ↔ a.rank < b.rank ∨ a.rank = b.rank ∧ a.text ≤ b.text := Prod.Lex.le_iff
  rw [hkey]
  cases a <;> cases b <;> simp [le, rank, text, Text.le_iff]

end Component

namespace Path

theorem leList_iff {cs ds : List Component} : leList cs ds = true ↔ cs ≤ ds := by
  induction cs generalizing ds with
  | nil => exact iff_of_true rfl (ListOrder.nil_le ds)
  | cons c cs ih =>
    cases ds with
    | nil => exact iff_of_false Bool.false_ne_true (ListOrder.not_cons_le_nil c cs)
    | cons d ds =>
      rw [ListOrder.cons_le_cons_iff, leList]
      by_cases h : c = d
      · simp [h, ih]
      · simp [h, Component.le_iff, le_iff_lt_or_eq]

theorem leList_of_prefix {cs ds : List Component} (h : cs <+: ds) : leList cs ds = true :=
  leList_iff.2 (not_lt.1 h.le)

theorem le_total (p q : Path) : p.le q = true ∨ q.le p = true :=
  (LinearOrder.le_total p.components q.components).imp leList_iff.2 leList_iff.2

theorem le_trans {p q r : Path} (h : p.le q = true) (k : q.le r = true) : p.le r = true :=
  leList_iff.2 (Preorder.le_trans _ _ _ (leList_iff.1 h) (leList_iff.1 k))

theorem same_iff_components {p q : Path} : p.same q = true ↔ p.components = q.components := by
  simp [same]

theorem same_of_le_of_le {p q : Path} (h : p.le q = true) (k : q.le p = true) :
    p.same q = true :=
  same_iff_components.2
    (LinearOrder.toPartialOrder.le_antisymm _ _ (leList_iff.1 h) (leList_iff.1 k))

end Path

end AccessorGen
