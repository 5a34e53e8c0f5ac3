import AccessorGen.Proofs.Grammar.PathText
import AccessorGen.Text.Identifier

/-! Texts that are names to the grammar, and texts that are paths of such names. -/

namespace AccessorGen

theorem Text.cutColons_ne_nil (s : List Char) : Text.cutColons s ≠ [] := by
  unfold Text.cutColons
  split
  · simp
  · simp
  · exact Text.consFirst_ne_nil _ _

namespace Source

def isNameText (s : String) : Bool :=
  Lexeme.plainWord s.toList == some (s.toList, []) && !Look.keywords.contains s

theorem exists_name {s : String} (h : isNameText s = true) : ∃ n : Name, s = n.word.text := by
  simp only [isNameText, Bool.and_eq_true, beq_iff_eq, Bool.not_eq_true'] at h
  exact ⟨⟨⟨s, h.1⟩, h.2⟩, rfl⟩

theorem exists_names {ss : List String} (h : ss.all isNameText = true) :
    ∃ names : List Name, ss = names.map fun n => n.word.text := by
  induction ss with
  | nil => exact ⟨[], rfl⟩
  | cons s ss ih =>
    rw [List.all_cons, Bool.and_eq_true] at h
    obtain ⟨n, rfl⟩ := exists_name h.1
    obtain ⟨names, rfl⟩ := ih h.2
    exact ⟨n :: names, rfl⟩

def isPathNameText (s : String) : Bool :=
  Lexeme.plainWord s.toList == some (s.toList, []) &&
    (!Look.keywords.contains s || pathKeywords.contains s)

theorem exists_pathName {s : String} (h : isPathNameText s = true) :
    ∃ n : PathName, s = n.word.text := by
  simp only [isPathNameText, Bool.and_eq_true, beq_iff_eq] at h
  refine ⟨⟨⟨s, h.1⟩, fun hkey => ?_⟩, rfl⟩
  have hor := h.2
  rw [hkey] at hor
  exact hor

def pathNames (s : String) : List String :=
  (Text.cutColons (Text.without colonsText s.toList)).map String.ofList

theorem joinWith_cutColons (s : List Char) : Text.joinWith colonsText (Text.cutColons s) = s := by
  induction s using Text.cutColons.induct with
  | case1 => rfl
  | case2 r ih =>
    rw [Text.cutColons]
    cases hr : Text.cutColons r with
    | nil => rw [hr] at ih; exact absurd hr (Text.cutColons_ne_nil r)
    | cons p ps => rw [Text.joinWith, ← hr, ih]; rfl
  | case3 c r hne ih =>
    rw [Text.cutColons, Text.joinWith_consFirst, ih]
    exact hne

theorem exists_front {ps : List (List Char)} (hne : ps ≠ [])
    (h : (ps.map String.ofList).all isPathNameText = true) :
    ∃ front, ∃ last : PathName, Text.joinWith colonsText ps = pathText false front last.word ∧
      (ps.map String.ofList).getLast? = some last.word.text := by
  induction ps with
  | nil => exact absurd rfl hne
  | cons p ps ih =>
    rw [List.map_cons, List.all_cons, Bool.and_eq_true] at h
    obtain ⟨n, hn⟩ := exists_pathName h.1
    have hp : p = n.word.text.toList := by rw [← hn, String.toList_ofList]
    cases ps with
    | nil => exact ⟨[], n, by simpa [Text.joinWith, pathText] using hp, by simp [hn]⟩
    | cons q ps =>
      obtain ⟨front, last, hjoin, hlast⟩ := ih (List.cons_ne_nil q ps) h.2
      refine ⟨n :: front, last, ?_, by simpa using hlast⟩
      rw [Text.joinWith, hjoin, hp]
      simp [pathText]

theorem exists_pathText {s : String} (h : (pathNames s).all isPathNameText = true) :
    ∃ rooted front, ∃ last : PathName, s.toList = pathText rooted front last.word ∧
      (pathNames s).getLast? = some last.word.text := by
  obtain ⟨front, last, hjoin, hlast⟩ := exists_front (Text.cutColons_ne_nil _) h
  rw [joinWith_cutColons] at hjoin
  rw [Text.without] at hjoin
  split at hjoin
  next hprefix =>
    refine ⟨true, front, last, ?_, hlast⟩
    obtain ⟨r, hr⟩ := List.isPrefixOf_iff_prefix.1 hprefix
    rw [← hr] at hjoin ⊢
    rw [List.drop_left] at hjoin
    rw [hjoin]
    rfl
  · exact ⟨false, front, last, hjoin, hlast⟩

theorem isPathNameText_of_isNameText {s : String} (h : isNameText s = true) :
    isPathNameText s = true := by
  simp only [isNameText, Bool.and_eq_true] at h
  rw [isPathNameText, h.1, h.2]
  rfl

theorem exists_freePathText {s : String} (h : (pathNames s).all isNameText = true) :
    ∃ rooted front, ∃ last : Name, s.toList = pathText rooted front last.word := by
  rw [List.all_eq_true] at h
  obtain ⟨rooted, front, last, hs, hlast⟩ := exists_pathText
    (List.all_eq_true.2 fun t ht => isPathNameText_of_isNameText (h t ht))
  obtain ⟨n, hn⟩ := exists_name (h _ (List.mem_of_getLast? hlast))
  refine ⟨rooted, front, n, ?_⟩
  rw [hs, pathText, pathText, hn]

end Source

end AccessorGen
