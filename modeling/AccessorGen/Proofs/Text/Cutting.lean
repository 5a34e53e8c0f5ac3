import AccessorGen.Text.Pieces
import Mathlib.Data.List.Infix

/-! Cutting a text. The pieces of a text that is put together at a separator are those of both
parts, and a text without the separator is one piece; so what was joined is cut where it was joined.
The front of a text ends where a fragment is first met. -/

namespace AccessorGen.Text

theorem cutAt_append_cons (sep : Char) (a b : List Char) :
    cutAt sep (a ++ sep :: b) = cutAt sep a ++ cutAt sep b := by
  induction a with
  | nil => simp [cutAt]
  | cons c a ih =>
    simp only [List.cons_append, cutAt, ih]
    split
    · rfl
    · cases h : cutAt sep a with
      | nil => exact absurd h (cutAt_ne_nil sep a)
      | cons p ps => rfl

theorem cutAt_of_not_mem {sep : Char} {s : List Char} (h : sep ∉ s) : cutAt sep s = [s] := by
  induction s with
  | nil => rfl
  | cons c s ih =>
    have hc : c ≠ sep := fun e => h (by simp [e])
    have hs : sep ∉ s := fun m => h (by simp [m])
    simp [cutAt, hc, ih hs, consFirst]

theorem not_mem_of_mem_cutAt {sep : Char} {s p : List Char} (h : p ∈ cutAt sep s) : sep ∉ p := by
  induction s generalizing p with
  | nil =>
    rw [cutAt, List.mem_singleton] at h
    simp [h]
  | cons c r ih =>
    unfold cutAt at h
    split at h
    · rcases List.mem_cons.1 h with rfl | h
      · simp
      · exact ih h
    next hc =>
      cases hr : cutAt sep r with
      | nil => exact absurd hr (cutAt_ne_nil sep r)
      | cons q qs =>
        rw [hr, consFirst] at h
        rw [hr] at ih
        rcases List.mem_cons.1 h with rfl | h
        · rw [List.mem_cons, not_or]
          exact ⟨Ne.symm hc, ih (by simp)⟩
        · exact ih (by simp [h])

theorem cutAt_joinWith {sep : Char} {ps : List (List Char)} (hne : ps ≠ [])
    (h : ∀ p ∈ ps, sep ∉ p) : cutAt sep (joinWith [sep] ps) = ps := by
  induction ps with
  | nil => exact absurd rfl hne
  | cons p ps ih =>
    obtain ⟨hp, hps⟩ := List.forall_mem_cons.1 h
    cases ps with
    | nil => exact cutAt_of_not_mem hp
    | cons q qs =>
      rw [joinWith, List.append_assoc, List.singleton_append, cutAt_append_cons,
        cutAt_of_not_mem hp, ih (by simp) hps]
      rfl

theorem cutColons_of_not_mem {p : List Char} (h : ':' ∉ p) : cutColons p = [p] := by
  induction p with
  | nil => rfl
  | cons c p ih =>
    rw [List.mem_cons, not_or] at h
    rw [cutColons, ih h.2, consFirst]
    rintro r rfl
    exact absurd h.1 (by simp)

theorem cutColons_append {p : List Char} (h : ':' ∉ p) (r : List Char) :
    cutColons (p ++ ':' :: ':' :: r) = p :: cutColons r := by
  induction p with
  | nil => rfl
  | cons c p ih =>
    rw [List.mem_cons, not_or] at h
    rw [List.cons_append, cutColons, ih h.2, consFirst]
    rintro r' rfl
    exact absurd h.1 (by simp)

section Before

variable {fragment s t : List Char}

theorem before_front (fragment s : List Char) : before fragment s <+: s := by
  induction s with
  | nil => exact List.prefix_rfl
  | cons c s ih =>
    unfold before
    split
    · exact List.nil_prefix
    · exact List.cons_prefix_cons.2 ⟨rfl, ih⟩

theorem before_spec (fragment s : List Char) :
    ∃ rest, s = before fragment s ++ rest ∧ (rest = [] ∨ fragment <+: rest) := by
  induction s with
  | nil => exact ⟨[], rfl, .inl rfl⟩
  | cons c s ih =>
    unfold before
    split
    next h => exact ⟨c :: s, rfl, .inr (List.isPrefixOf_iff_prefix.1 h)⟩
    next h =>
      obtain ⟨rest, hs, hrest⟩ := ih
      exact ⟨rest, by rw [List.cons_append, ← hs], hrest⟩

theorem not_infix_before (h : fragment ≠ []) (s : List Char) : ¬fragment <:+: before fragment s := by
  induction s with
  | nil => exact fun hin => h (List.infix_nil.1 hin)
  | cons c s ih =>
    unfold before
    split
    · exact fun hin => h (List.infix_nil.1 hin)
    next hstart =>
      refine fun hin => (List.infix_cons_iff.1 hin).elim (fun hp => hstart ?_) ih
      have hfront : c :: before fragment s <+: c :: s :=
        List.cons_prefix_cons.2 ⟨rfl, before_front fragment s⟩
      exact List.isPrefixOf_iff_prefix.2 (hp.trans hfront)

theorem before_around (h : fragment <:+: s) (t : List Char) :
    before fragment (s ++ t) = before fragment s ∧ before fragment s ++ fragment <+: s := by
  induction s with
  | nil =>
    obtain rfl := List.infix_nil.1 h
    cases t <;> simp [before]
  | cons c s ih =>
    by_cases hstart : fragment <+: c :: s
    · have hlonger : fragment <+: c :: s ++ t := hstart.trans (List.prefix_append _ _)
      rw [List.cons_append] at hlonger ⊢
      simp only [before, List.isPrefixOf_iff_prefix.2 hstart, List.isPrefixOf_iff_prefix.2 hlonger,
        if_true]
      exact ⟨trivial, hstart⟩
    · have hlater : fragment <:+: s := (List.infix_cons_iff.1 h).resolve_left hstart
      have hlength : fragment.length ≤ (c :: s).length :=
        Nat.le_succ_of_le hlater.length_le
      -- long enough for the fragment, the text cannot begin with a part of it
      have hnot : ¬fragment <+: c :: (s ++ t) := fun hp =>
        hstart (List.prefix_of_prefix_length_le hp (List.prefix_append (c :: s) t) hlength)
      obtain ⟨hsame, hfront⟩ := ih hlater
      rw [List.cons_append, before, if_neg (mt List.isPrefixOf_iff_prefix.1 hnot), before,
        if_neg (mt List.isPrefixOf_iff_prefix.1 hstart), hsame]
      exact ⟨rfl, List.cons_prefix_cons.2 ⟨rfl, hfront⟩⟩

theorem before_append (h : ∀ u, u <:+ s → u ≠ [] → ¬fragment <+: u ++ t) :
    before fragment (s ++ t) = s ++ before fragment t := by
  induction s with
  | nil => rfl
  | cons c s ih =>
    have hstart : ¬fragment.isPrefixOf (c :: (s ++ t)) = true := fun hp =>
      h (c :: s) List.suffix_rfl (List.cons_ne_nil _ _) (List.isPrefixOf_iff_prefix.1 hp)
    rw [List.cons_append, before, if_neg hstart,
      ih fun u hu => h u (hu.trans (List.suffix_cons _ _)), List.cons_append]

end Before

end AccessorGen.Text
