import AccessorGen.Text.Pieces
import Mathlib.Data.List.Infix
import Mathlib.Data.List.TakeWhile

/-! Text without the white space at its ends. Trimming takes off white space and nothing else, and
leaves a text with none at its ends. -/

namespace AccessorGen.Text

section Trim

variable {s t u : List Char} {c : Char}

theorem trimStart_append (hs : ∀ c ∈ s, isBlank c = true) (hc : isBlank c = false) :
    trimStart (s ++ c :: t) = c :: t := by
  rw [trimStart, List.dropWhile_append_of_pos hs, List.dropWhile_cons, hc]
  rfl

theorem trimEnd_append (ht : ∀ c ∈ t, isBlank c = true) : trimEnd (s ++ t) = trimEnd s := by
  rw [trimEnd, List.reverse_append,
    List.dropWhile_append_of_pos fun c hc => ht c (List.mem_reverse.1 hc), trimEnd]

theorem front_trimEnd (hc : isBlank c = false) (s t : List Char) :
    s ++ [c] <+: trimEnd (s ++ c :: t) := by
  have hkept : (c :: s.reverse).dropWhile isBlank = c :: s.reverse := by
    rw [List.dropWhile_cons, hc]
    rfl
  rw [trimEnd, List.reverse_append, List.reverse_cons, List.append_assoc, List.singleton_append,
    List.dropWhile_append]
  split
  · rw [hkept, List.reverse_cons, List.reverse_reverse]
  · rw [List.reverse_append, List.reverse_cons, List.reverse_reverse]
    exact List.prefix_append _ _

theorem trimEnd_front (s : List Char) : trimEnd s <+: s := by
  rw [trimEnd, ← List.reverse_suffix, List.reverse_reverse]
  exact List.dropWhile_suffix _

theorem trimEnd_of_last (hc : isBlank c = false) (s : List Char) : trimEnd (s ++ [c]) = s ++ [c] :=
  (trimEnd_front _).eq_of_length_le (front_trimEnd hc s []).length_le

/-- No white space at either end. -/
structure Trimmed (s : List Char) : Prop where
  first : ∀ c ∈ s.head?, isBlank c = false
  last : ∀ c ∈ s.getLast?, isBlank c = false

instance (s : List Char) : Decidable (Trimmed s) :=
  decidable_of_iff (s.head?.all (!isBlank ·) = true ∧ s.getLast?.all (!isBlank ·) = true) <| by
    simp only [Option.all_eq_true, Bool.not_eq_true']
    exact ⟨fun ⟨hfirst, hlast⟩ => ⟨hfirst, hlast⟩, fun h => ⟨h.first, h.last⟩⟩

/-- The second text is the first without the white space at its ends. -/
structure TrimsTo (s t : List Char) : Prop where
  padded : ∃ a b, s = a ++ t ++ b ∧ (∀ c ∈ a, isBlank c = true) ∧ ∀ c ∈ b, isBlank c = true
  trimmed : Trimmed t

theorem isBlank_of_trimStart (h : trimStart s = c :: t) : isBlank c = false := by
  have hhead := s.head?_dropWhile_not isBlank
  rw [show s.dropWhile isBlank = c :: t from h] at hhead
  simpa using hhead

theorem exists_padding (s : List Char) : ∃ a b, s = a ++ trim s ++ b ∧ trimStart s = trim s ++ b ∧
    (∀ c ∈ a, isBlank c = true) ∧ (∀ c ∈ b, isBlank c = true) ∧ (trim s = [] → b = []) := by
  obtain ⟨b, hb⟩ := trimEnd_front (trimStart s)
  have hback : (trimStart s).reverse.takeWhile isBlank = b.reverse := by
    have hwhole : (trimStart s).reverse.takeWhile isBlank ++ (trimEnd (trimStart s)).reverse =
        b.reverse ++ (trimEnd (trimStart s)).reverse := by
      rw [← List.reverse_append, hb, trimEnd, List.reverse_reverse,
        List.takeWhile_append_dropWhile]
    exact List.append_cancel_right hwhole
  have hblank : ∀ c ∈ b, isBlank c = true := by
    intro c hc
    rw [← List.mem_reverse, ← hback] at hc
    exact List.all_eq_true.1 List.all_takeWhile c hc
  refine ⟨s.takeWhile isBlank, b, ?_, hb.symm, List.all_eq_true.1 List.all_takeWhile, hblank,
    fun hnil => ?_⟩
  · rw [List.append_assoc, trim, hb]
    exact List.takeWhile_append_dropWhile.symm
  · have hstart : trimStart s = b := by rw [← hb, show trimEnd (trimStart s) = [] from hnil]; rfl
    cases b with
    | nil => rfl
    | cons c r =>
      have hc := hblank c List.mem_cons_self
      rw [isBlank_of_trimStart hstart] at hc
      cases hc

theorem trimsTo_trim (s : List Char) : TrimsTo s (trim s) := by
  obtain ⟨a, b, hsplit, hstart, ha, hb, -⟩ := exists_padding s
  refine ⟨⟨a, b, hsplit, ha, hb⟩, fun c hc => ?_, fun c hc => ?_⟩
  · obtain ⟨r, hr⟩ := List.head?_eq_some_iff.1 hc
    rw [hr] at hstart
    exact isBlank_of_trimStart hstart
  · have hhead := (trimStart s).reverse.head?_dropWhile_not isBlank
    rw [trim, trimEnd, List.getLast?_reverse] at hc
    rw [Option.mem_def.1 hc] at hhead
    simpa using hhead

theorem trimsTo_iff : TrimsTo s t ↔ trim s = t := by
  refine ⟨fun h => ?_, fun h => h ▸ trimsTo_trim s⟩
  obtain ⟨⟨a, b, rfl, ha, hb⟩, htrimmed⟩ := h
  cases t with
  | nil =>
    have hall : ∀ c ∈ a ++ [] ++ b, isBlank c = true := by
      rw [List.append_nil]
      exact List.forall_mem_append.2 ⟨ha, hb⟩
    rw [trim, trimStart, List.dropWhile_eq_nil_iff.2 hall]
    rfl
  | cons c r =>
    obtain ⟨r', c', hlast⟩ : ∃ r' c', c :: r = r' ++ [c'] :=
      ⟨_, _, (List.dropLast_append_getLast (List.cons_ne_nil c r)).symm⟩
    have hc' : isBlank c' = false := htrimmed.last c' (by simp [hlast])
    rw [trim, List.append_assoc, List.cons_append, trimStart_append ha (htrimmed.first c rfl),
      ← List.cons_append, trimEnd_append hb, hlast, trimEnd_of_last hc']

theorem trim_of_trimmed (h : Trimmed s) : trim s = s :=
  trimsTo_iff.1 ⟨⟨[], [], (List.append_nil s).symm, nofun, nofun⟩, h⟩

theorem TrimsTo.append (h : TrimsTo s t) (hu : ∀ c ∈ u, isBlank c = true) :
    TrimsTo (s ++ u) t := by
  obtain ⟨⟨a, b, rfl, ha, hb⟩, htrimmed⟩ := h
  exact ⟨⟨a, b ++ u, by simp only [List.append_assoc], ha, List.forall_mem_append.2 ⟨hb, hu⟩⟩,
    htrimmed⟩

end Trim

end AccessorGen.Text
