import AccessorGen.Text.Pieces

/-! Lines of a text and their lengths in bytes. -/

namespace AccessorGen.Text

section Bytes

variable {s t : List Char}

theorem utf8Length_append (s t : List Char) :
    utf8Length (s ++ t) = utf8Length s + utf8Length t := by
  induction s with
  | nil => rw [List.nil_append, utf8Length, Nat.zero_add]
  | cons c s ih => rw [List.cons_append, utf8Length, utf8Length, ih, Nat.add_assoc]

theorem utf8Length_cons_pos (c : Char) (s : List Char) : 0 < utf8Length (c :: s) :=
  Nat.add_pos_left c.utf8Size_pos _

theorem utf8Length_le_of_prefix (h : s <+: t) : utf8Length s ≤ utf8Length t := by
  obtain ⟨r, rfl⟩ := h
  rw [utf8Length_append]
  exact Nat.le_add_right _ _

theorem utf8Length_take_lt {k : Nat} (h : k < s.length) : utf8Length (s.take k) < utf8Length s := by
  have hrest : s.drop k ≠ [] := fun hnil => absurd (List.drop_eq_nil_iff.1 hnil) (by omega)
  obtain ⟨c, r, hr⟩ := List.exists_cons_of_ne_nil hrest
  have hsum := congrArg utf8Length (s.take_append_drop k)
  rw [hr, utf8Length_append] at hsum
  have hpos := utf8Length_cons_pos c r
  omega

theorem utf8ByteSize_ofList (s : List Char) :
    (String.ofList s).utf8ByteSize = utf8Length s := by
  induction s with
  | nil => rfl
  | cons c s ih =>
    rw [String.ofList_cons, String.utf8ByteSize_append, String.utf8ByteSize_singleton, ih,
      utf8Length]

theorem exists_between {a b : List Char} (ha : a <+: s) (hb : b <+: s) :
    ∃ part rest, s = a ++ part ++ rest ∧ utf8Length part = utf8Length b - utf8Length a := by
  obtain ⟨part, rfl⟩ | hba := List.prefix_or_prefix_of_prefix ha hb
  · obtain ⟨rest, rfl⟩ := hb
    refine ⟨part, rest, rfl, ?_⟩
    rw [utf8Length_append, Nat.add_sub_cancel_left]
  · obtain ⟨rest, rfl⟩ := ha
    refine ⟨[], rest, by rw [List.append_nil], ?_⟩
    have hle := utf8Length_le_of_prefix hba
    rw [Nat.sub_eq_zero_of_le hle]
    rfl

end Bytes

section Lines

variable {l s : List Char}

theorem lines_newline (h : '\n' ∉ l) (r : List Char) :
    lines (l ++ '\n' :: r) = (l ++ ['\n']) :: lines r := by
  induction l with
  | nil => simp [lines]
  | cons c l ih =>
    have hc : c ≠ '\n' := fun e => h (by simp [e])
    have hl : '\n' ∉ l := fun m => h (by simp [m])
    simp [lines, hc, ih hl]

theorem lines_of_not_mem (h : '\n' ∉ l) (hne : l ≠ []) : lines l = [l] := by
  induction l with
  | nil => exact absurd rfl hne
  | cons c l ih =>
    obtain ⟨hc, hl⟩ := not_or.1 (mt List.mem_cons.2 h)
    rw [lines, if_neg (Ne.symm hc)]
    cases l with
    | nil => rfl
    | cons d l => rw [ih hl (List.cons_ne_nil d l)]

theorem lines_cons_ne (c : Char) (l : List Char) : lines (c :: l) ≠ [] := by
  intro h
  have hflat := flatten_lines (c :: l)
  rw [h] at hflat
  cases hflat

def WholeLines (s : List Char) : Prop := s = [] ∨ ∃ l, s = l ++ ['\n']

theorem WholeLines.lines_append (h : WholeLines s) (r : List Char) :
    lines (s ++ r) = lines s ++ lines r := by
  obtain rfl | ⟨l, rfl⟩ := h
  · rfl
  induction l with
  | nil => rw [List.nil_append, List.singleton_append, lines, if_pos rfl]; rfl
  | cons c l ih =>
    rw [List.cons_append, List.cons_append, lines, lines]
    split
    · rw [ih]
      rfl
    · rw [ih]
      cases hl : lines (l ++ ['\n']) with
      | nil =>
        cases l with
        | nil => exact absurd hl (lines_cons_ne _ _)
        | cons d l => exact absurd hl (lines_cons_ne _ _)
      | cons l' ls => rfl

theorem WholeLines.length_lines (h : WholeLines s) : (lines s).length = s.count '\n' := by
  obtain rfl | ⟨l, rfl⟩ := h
  · rfl
  induction l with
  | nil => rfl
  | cons c l ih =>
    rw [List.cons_append, lines]
    split
    next hc => rw [hc, List.length_cons, List.count_cons_self, ih]
    next hc =>
      rw [List.count_cons_of_ne hc, ← ih]
      cases hl : lines (l ++ ['\n']) with
      | nil =>
        cases l with
        | nil => exact absurd hl (lines_cons_ne _ _)
        | cons d l => exact absurd hl (lines_cons_ne _ _)
      | cons l' ls => rfl

theorem exists_wholeLines (s : List Char) : ∃ a b, s = a ++ b ∧ WholeLines a ∧ '\n' ∉ b := by
  induction s with
  | nil => exact ⟨[], [], rfl, .inl rfl, List.not_mem_nil⟩
  | cons c s ih =>
    obtain ⟨a, b, rfl, ha, hb⟩ := ih
    obtain rfl | ⟨l, rfl⟩ := ha
    · by_cases hc : c = '\n'
      · exact ⟨[c], b, rfl, .inr ⟨[], by rw [hc]; rfl⟩, hb⟩
      · exact ⟨[], c :: b, rfl, .inl rfl, List.not_mem_cons_of_ne_of_not_mem (Ne.symm hc) hb⟩
    · exact ⟨c :: (l ++ ['\n']), b, rfl, .inr ⟨c :: l, rfl⟩, hb⟩

theorem exists_newline {n : Nat} (h : n < s.count '\n') :
    ∃ a l r, s = a ++ (l ++ '\n' :: r) ∧ WholeLines a ∧ a.count '\n' = n ∧ '\n' ∉ l := by
  induction n with
  | zero =>
    obtain ⟨l, r, hs, hl⟩ := List.eq_append_cons_of_mem (List.count_pos_iff.1 h)
    exact ⟨[], l, r, hs, .inl rfl, rfl, hl⟩
  | succ n ih =>
    obtain ⟨a, l, rest, rfl, -, ha, hl⟩ := ih (Nat.lt_of_succ_lt h)
    have hwhole : (a ++ (l ++ ['\n'])).count '\n' = n + 1 := by
      simp [ha, List.count_eq_zero.2 hl]
    have hrest : 0 < rest.count '\n' := by
      simp only [List.count_append, List.count_cons_self] at h hwhole
      omega
    obtain ⟨l', r, rfl, hl'⟩ := List.eq_append_cons_of_mem (List.count_pos_iff.1 hrest)
    refine ⟨a ++ (l ++ ['\n']), l', r, by simp, .inr ⟨a ++ l, ?_⟩, hwhole, hl'⟩
    rw [List.append_assoc]

theorem prefix_take_lines {front : List Char} {n : Nat} (h : front.count '\n' < n) (t : List Char) :
    front <+: ((lines (front ++ t)).take n).flatten := by
  induction n generalizing front with
  | zero => exact absurd h (Nat.not_lt_zero _)
  | succ n ih =>
    by_cases hfront : '\n' ∈ front
    · obtain ⟨l, front, rfl, hl⟩ := List.eq_append_cons_of_mem hfront
      have hcount : front.count '\n' < n := by
        rw [List.count_append, List.count_cons_self] at h
        omega
      rw [List.append_assoc, List.cons_append, lines_newline hl, List.take_succ_cons,
        List.flatten_cons, List.append_assoc, List.singleton_append]
      exact (List.prefix_append_right_inj l).2 (List.cons_prefix_cons.2 ⟨rfl, ih hcount⟩)
    · by_cases ht : '\n' ∈ t
      · obtain ⟨l, r, rfl, hl⟩ := List.eq_append_cons_of_mem ht
        have hline : '\n' ∉ front ++ l := by simp [hfront, hl]
        rw [← List.append_assoc, lines_newline hline, List.take_succ_cons, List.flatten_cons,
          List.append_assoc, List.append_assoc]
        exact List.prefix_append _ _
      · obtain hnil | hne := Decidable.em (front ++ t = [])
        · rw [(List.append_eq_nil_iff.1 hnil).1]
          exact List.nil_prefix
        · rw [lines_of_not_mem (by simp [hfront, ht]) hne, List.take_succ_cons,
            List.flatten_cons, List.append_assoc]
          exact List.prefix_append _ _

theorem lines_cases (s : List Char) :
    s = [] ∨ ('\n' ∉ s ∧ lines s = [s]) ∨
      ∃ body rest, s = body ++ '\n' :: rest ∧ '\n' ∉ body ∧
        lines s = (body ++ ['\n']) :: lines rest := by
  by_cases hmem : '\n' ∈ s
  · obtain ⟨body, rest, rfl, hbody⟩ := List.eq_append_cons_of_mem hmem
    exact .inr (.inr ⟨body, rest, rfl, hbody, lines_newline hbody rest⟩)
  · by_cases hne : s = []
    · exact .inl hne
    · exact .inr (.inl ⟨hmem, lines_of_not_mem hmem hne⟩)

theorem split_at_line {line : List Char} {ls ls' : List (List Char)}
    (h : lines s = ls ++ line :: ls') :
    ∃ front body rest, s = front ++ body ++ rest ∧ WholeLines front ∧ lines front = ls ∧
      '\n' ∉ body ∧ (rest = [] ∧ line = body ∨ (∃ r, rest = '\n' :: r) ∧ line = body ++ ['\n']) := by
  induction ls generalizing s with
  | nil =>
    obtain rfl | ⟨hmem, hlines⟩ | ⟨body, rest, rfl, hbody, hlines⟩ := lines_cases s
    · cases h
    · obtain ⟨rfl, -⟩ := List.cons.inj (hlines.symm.trans h)
      exact ⟨[], _, [], by simp, .inl rfl, rfl, hmem, .inl ⟨rfl, rfl⟩⟩
    · obtain ⟨rfl, -⟩ := List.cons.inj (hlines.symm.trans h)
      exact ⟨[], body, _, rfl, .inl rfl, rfl, hbody, .inr ⟨⟨rest, rfl⟩, rfl⟩⟩
  | cons l ls ih =>
    obtain rfl | ⟨hmem, hlines⟩ | ⟨body, rest, rfl, hbody, hlines⟩ := lines_cases s
    · cases h
    · obtain ⟨-, hnil⟩ := List.cons.inj (hlines.symm.trans h)
      exact absurd hnil (by simp)
    · obtain ⟨rfl, hrest⟩ := List.cons.inj (hlines.symm.trans h)
      obtain ⟨front, body', rest', rfl, hwhole, hfront, hrest'⟩ := ih hrest
      refine ⟨body ++ '\n' :: front, body', rest', by simp, .inr ?_, ?_, hrest'⟩
      · obtain rfl | ⟨l, rfl⟩ := hwhole
        · exact ⟨body, rfl⟩
        · exact ⟨body ++ '\n' :: l, by simp⟩
      · rw [lines_newline hbody, hfront]

end Lines

end AccessorGen.Text
