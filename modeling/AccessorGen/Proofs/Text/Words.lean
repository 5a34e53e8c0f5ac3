import AccessorGen.Companion.Basic
import AccessorGen.Text.Identifier

/-! Characters that cannot get into an identifier, its capitalised form or its snake form. A file
name made from an identifier is one piece of a path, and the name of a companion goes in with its
own word. A part of a text can be taken off at a character that it cannot hold. -/

namespace AccessorGen.Text

theorem isIdentifierChars_mem {s : List Char} (h : isIdentifierChars s = true) {c : Char}
    (hc : c ∈ s) : (isLetterOrNumber c || c == '_') = true := by
  cases s with
  | nil => cases hc
  | cons d r =>
    simp only [isIdentifierChars, Bool.and_eq_true, List.all_eq_true] at h
    obtain ⟨⟨hfirst, -⟩, hrest⟩ := h
    rcases List.mem_cons.1 hc with rfl | hc
    · simp only [isLetterOrNumber, Bool.or_eq_true] at hfirst ⊢
      exact hfirst.imp_left .inl
    · exact hrest c hc

theorem not_mem_of_isIdentifier {s : String} (h : isIdentifier s = true) {c : Char}
    (hc : (isLetterOrNumber c || c == '_') = false) : c ∉ s.toList := fun hmem => by
  rw [isIdentifierChars_mem h hmem] at hc
  cases hc

theorem toList_ne_nil_of_isIdentifier {s : String} (h : isIdentifier s = true) :
    s.toList ≠ [] := by
  intro e
  rw [isIdentifier, e] at h
  cases h

theorem plainWord_of_isIdentifier {s : String} (h : isIdentifier s = true) : plainWord s = s := by
  have hmark : ¬['r', '#'].isPrefixOf s.toList = true := by
    intro hp
    obtain ⟨r, hr⟩ := List.isPrefixOf_iff_prefix.1 hp
    exact not_mem_of_isIdentifier h (c := '#') (by decide) (by simp [← hr])
  simp [plainWord, without, hmark]

theorem isIdentifier_append {s t : String} (hs : isIdentifier s = true)
    (ht : ∀ c ∈ t.toList, (isLetterOrNumber c || c == '_') = true) :
    isIdentifier (s ++ t) = true := by
  unfold isIdentifier at hs ⊢
  rw [String.toList_append]
  cases hc : s.toList with
  | nil =>
    rw [hc] at hs
    cases hs
  | cons c r =>
    rw [hc] at hs
    simp only [isIdentifierChars, List.cons_append, Bool.and_eq_true, List.all_eq_true,
      List.mem_append] at hs ⊢
    obtain ⟨⟨hfirst, hlone⟩, hrest⟩ := hs
    refine ⟨⟨hfirst, ?_⟩, fun d hd => hd.elim (hrest d) (ht d)⟩
    simp only [bne_iff_ne, ne_eq, List.cons.injEq, List.append_eq_nil_iff] at hlone ⊢
    exact fun h => hlone ⟨h.1, h.2.1⟩

theorem isIdentifier_nameFor {s : String} (h : isIdentifier s = true) :
    isIdentifier (Companion.nameFor s) = true :=
  isIdentifier_append h (List.all_eq_true.1 (by decide))

section Signs

variable {x : Char}

theorem ofNat_ne {n : Nat} (hx : 0 < x.toNat) (h : x.toNat < n) : Char.ofNat n ≠ x := by
  rintro rfl
  by_cases hn : n.isValidChar
  · have hvalue : (Char.ofNat n).toNat = n := by
      rw [Char.ofNat, dif_pos hn]
      rfl
    omega
  · have hvalue : (Char.ofNat n).toNat = 0 := by
      rw [Char.ofNat, dif_neg hn]
      rfl
    omega

theorem toLower_ne {c : Char} (hx : x.toNat < 48) (h : c ≠ x) : c.toLower ≠ x := by
  unfold Char.toLower
  split
  next hc =>
    rintro rfl
    have hlow : 65 ≤ c.val.toNat := UInt32.le_iff_toNat_le.1 hc.1
    have hhigh : c.val.toNat ≤ 90 := UInt32.le_iff_toNat_le.1 hc.2
    have hdiff : ('a'.val - 'A'.val).toNat = 32 := rfl
    have hsum : (c.val + ('a'.val - 'A'.val)).toNat < 48 := hx
    rw [UInt32.toNat_add, hdiff] at hsum
    omega
  · exact h

theorem toUpper_ne {c : Char} (hx : x.toNat < 48) (h : c ≠ x) : c.toUpper ≠ x := by
  unfold Char.toUpper
  split
  next hc =>
    rintro rfl
    have hlow : 97 ≤ c.val.toNat := UInt32.le_iff_toNat_le.1 hc.1
    have hhigh : c.val.toNat ≤ 122 := UInt32.le_iff_toNat_le.1 hc.2
    have hdiff : ('A'.val - 'a'.val).toNat = 4294967264 := rfl
    have hsum : (c.val + ('A'.val - 'a'.val)).toNat < 48 := hx
    rw [UInt32.toNat_add, hdiff] at hsum
    omega
  · exact h

theorem not_mem_image {runs : List (Nat × Nat × Nat × Nat)} {long : List (Nat × List Nat)}
    (hruns : ∀ r ∈ runs, 48 ≤ r.2.2.2) (hlong : ∀ e ∈ long, ∀ n ∈ e.2, 48 ≤ n) {c : Char}
    (hpos : 0 < x.toNat) (hx : x.toNat < 48) (h : c ≠ x) : x ∉ image runs long c := by
  unfold image
  split
  next ns hns =>
    intro hmem
    obtain ⟨n, hn, hd⟩ := List.mem_map.1 hmem
    obtain ⟨l₁, l₂, rfl, -⟩ := List.lookup_eq_some_iff.1 hns
    exact ofNat_ne hpos (Nat.lt_of_lt_of_le hx (hlong (c.toNat, ns) (by simp) n hn)) hd
  · split
    next first last step target hr =>
      intro hmem
      have htarget := hruns _ (List.mem_of_find?_eq_some hr)
      exact ofNat_ne hpos (Nat.lt_of_lt_of_le hx (Nat.le_add_right_of_le htarget))
        (List.mem_singleton.1 hmem).symm
    · intro hmem
      exact h (List.mem_singleton.1 hmem).symm

theorem not_mem_lower {c : Char} (hpos : 0 < x.toNat) (hx : x.toNat < 48) (h : c ≠ x) :
    x ∉ lower c := by
  unfold lower
  split
  · intro hmem
    exact toLower_ne hx h (List.mem_singleton.1 hmem).symm
  · exact not_mem_image (by decide +kernel) (by decide) hpos hx h

theorem not_mem_upper {c : Char} (hpos : 0 < x.toNat) (hx : x.toNat < 48) (h : c ≠ x) :
    x ∉ upper c := by
  unfold upper
  split
  · intro hmem
    exact toUpper_ne hx h (List.mem_singleton.1 hmem).symm
  · exact not_mem_image (by decide +kernel) (by decide +kernel) hpos hx h

theorem not_mem_capitalize {s : String} (hpos : 0 < x.toNat) (hx : x.toNat < 48)
    (h : x ∉ s.toList) : x ∉ (capitalize s).toList := by
  rw [toList_capitalize]
  cases hs : s.toList with
  | nil => simp [capitalizeChars]
  | cons c r =>
    rw [hs, List.mem_cons, not_or] at h
    rw [capitalizeChars, List.mem_append, not_or]
    exact ⟨not_mem_upper hpos hx (Ne.symm h.1), h.2⟩

theorem not_mem_snakeStep {c : Char} (hpos : 0 < x.toNat) (hx : x.toNat < 48) (h : c ≠ x) :
    x ∉ snakeStep c := by
  unfold snakeStep
  split
  · rw [List.mem_cons, not_or]
    refine ⟨?_, not_mem_lower hpos hx h⟩
    rintro rfl
    exact absurd hx (by decide)
  · exact not_mem_lower hpos hx h

theorem not_mem_snakeCase {s : String} (hpos : 0 < x.toNat) (hx : x.toNat < 48)
    (h : x ∉ s.toList) : x ∉ (snakeCase s).toList := by
  rw [toList_snakeCase]
  cases hs : s.toList with
  | nil => simp [snakeCaseChars]
  | cons c r =>
    rw [hs] at h
    intro hmem
    obtain ⟨d, hd, hdx⟩ := List.mem_map.1 hmem
    have hd' : d = x := by
      unfold dashToUnderscore at hdx
      split at hdx
      · subst hdx
        exact absurd hx (by decide)
      · exact hdx
    subst hd'
    rcases List.mem_append.1 hd with hd | hd
    · exact not_mem_lower hpos hx (fun e => h (by simp [e])) hd
    · obtain ⟨e, he, hd⟩ := List.mem_flatMap.1 hd
      exact not_mem_snakeStep hpos hx (fun e' => h (by simp [e' ▸ he])) hd

end Signs

theorem slash_not_mem_snakeCase {s : String} (h : '/' ∉ s.toList) :
    '/' ∉ (snakeCase s).toList :=
  not_mem_snakeCase (by decide) (by decide) h

theorem snakeCase_nameFor {s : String} (h : s.toList ≠ []) :
    snakeCase (Companion.nameFor s) = snakeCase s ++ "_data" := by
  obtain ⟨c, r, hs⟩ := List.exists_cons_of_ne_nil h
  have hword : (("Data".toList).flatMap snakeStep).map dashToUnderscore = "_data".toList := by
    decide
  apply String.toList_injective
  rw [toList_snakeCase, Companion.nameFor, String.toList_append, String.toList_append,
    toList_snakeCase, hs, List.cons_append, snakeCaseChars, snakeCaseChars, List.flatMap_append,
    ← List.append_assoc, List.map_append, hword]

theorem toList_intercalate (sep s : String) (ss : List String) :
    (sep.intercalate (s :: ss)).toList =
      s.toList ++ ss.flatMap fun t => sep.toList ++ t.toList := by
  induction ss generalizing s with
  | nil => simp
  | cons t ss ih => simp [String.intercalate_cons_cons, ih]

theorem mem_intercalate {sep : String} {ss : List String} {c : Char}
    (h : c ∈ (sep.intercalate ss).toList) : c ∈ sep.toList ∨ ∃ s ∈ ss, c ∈ s.toList := by
  cases ss with
  | nil => simp at h
  | cons s ss =>
    rw [toList_intercalate, List.mem_append, List.mem_flatMap] at h
    rcases h with h | ⟨t, ht, h⟩
    · exact .inr ⟨s, by simp, h⟩
    · rcases List.mem_append.1 h with h | h
      · exact .inl h
      · exact .inr ⟨t, List.mem_cons_of_mem _ ht, h⟩

theorem takeWhile_to {c : Char} {s r : List Char} (h : c ∉ s) :
    (s ++ c :: r).takeWhile (· ≠ c) = s := by
  rw [List.takeWhile_append_of_pos]
  · simp
  · intro d hd
    simpa using fun e : d = c => h (e ▸ hd)

theorem append_inj_of_not_mem {c : Char} {s t u v : List Char} (hs : c ∉ s) (ht : c ∉ t)
    (h : s ++ c :: u = t ++ c :: v) : s = t ∧ u = v := by
  have htake := congrArg (List.takeWhile (· ≠ c)) h
  rw [takeWhile_to hs, takeWhile_to ht] at htake
  subst htake
  exact ⟨rfl, (List.cons.inj (List.append_cancel_left h)).2⟩

end AccessorGen.Text
