import AccessorGen.File.Tree
import AccessorGen.Proofs.Text.Cutting

/-! Where a path leads. The place a path names does not depend on the file tree: dots stay, two dots
go up, names go down. A relative path joined to another is walked from where that one leads, and a
path that a tree resolves is resolved to its place. -/

namespace AccessorGen

def along (start : Place) (pieces : List (List Char)) : Place :=
  (pieces.filterMap Component.ofPiece?).foldl FileTree.step start

@[simp] theorem along_nil (start : Place) : along start [] = start := rfl

theorem along_append (start : Place) (ps qs : List (List Char)) :
    along start (ps ++ qs) = along (along start ps) qs := by
  simp [along, List.filterMap_append, List.foldl_append]

@[simp] theorem along_idle (start : Place) : along start [[]] = start := rfl

theorem along_cons (start : Place) (p : List Char) (ps : List (List Char)) :
    along start (p :: ps) = along (along start [p]) ps :=
  along_append start [p] ps

def IsName (s : List Char) : Prop := s ≠ [] ∧ s ≠ ['.'] ∧ s ≠ ['.', '.']

theorem along_name {s : List Char} (h : IsName s) (start : Place) :
    along start [s] = start ++ [.ofList s] := by
  obtain ⟨h1, h2, h3⟩ := h
  simp [along, Component.ofPiece?, h1, h2, h3, FileTree.step]

theorem along_names {pieces : List (List Char)} (h : ∀ s ∈ pieces, IsName s) (start : Place) :
    along start pieces = start ++ pieces.map .ofList := by
  induction pieces generalizing start with
  | nil => simp
  | cons s pieces ih =>
    rw [along_cons, along_name (h s (by simp)), ih (fun q hq => h q (by simp [hq]))]
    simp

namespace Path

/-- The place a path names from a starting directory, with all dots resolved. -/
def place (start : Place) (p : Path) : Place := p.components.foldl FileTree.step start

def IsRelative (p : Path) : Prop := p.text.toList.head? ≠ some '/'

theorem cutAt_head {s first : List Char} {rest : List (List Char)}
    (h : Text.cutAt '/' s = first :: rest) :
    s.head? = some '/' ↔ first = [] ∧ rest ≠ [] := by
  cases s with
  | nil =>
    obtain ⟨rfl, rfl⟩ : [] = first ∧ [] = rest := by simpa [Text.cutAt] using h
    simp
  | cons c s =>
    by_cases hc : c = '/'
    · subst hc
      simp only [Text.cutAt, if_true, List.cons.injEq] at h
      obtain ⟨rfl, rfl⟩ := h
      simp [Text.cutAt_ne_nil]
    · have hfirst : first ≠ [] := by
        simp only [Text.cutAt, hc, if_false] at h
        cases hs : Text.cutAt '/' s with
        | nil => exact absurd hs (Text.cutAt_ne_nil '/' s)
        | cons p ps =>
          rw [hs, Text.consFirst, List.cons.injEq] at h
          simp [← h.1]
      simp [hc, hfirst]

theorem place_of_relative {p : Path} (h : p.IsRelative) (start : Place) :
    p.place start = along start (Text.cutAt '/' p.text.toList) := by
  unfold place components componentsOf
  cases hcut : Text.cutAt '/' p.text.toList with
  | nil => exact absurd hcut (Text.cutAt_ne_nil '/' _)
  | cons first rest =>
    have hrest : first = [] → rest = [] := by
      intro hf
      by_contra hr
      exact h ((cutAt_head hcut).2 ⟨hf, hr⟩)
    by_cases h0 : first = []
    · simp [h0, hrest h0]
    · by_cases h1 : first = ['.']
      · simp [h1, along, Component.ofPiece?, FileTree.step]
      · cases ho : Component.ofPiece? first <;> simp [h0, h1, along, ho]

theorem place_of_absolute {p : Path} (h : ¬p.IsRelative) (start : Place) :
    p.place start = along [] (Text.cutAt '/' p.text.toList) := by
  unfold place components componentsOf
  cases hcut : Text.cutAt '/' p.text.toList with
  | nil => exact absurd hcut (Text.cutAt_ne_nil '/' _)
  | cons first rest =>
    obtain ⟨rfl, hr⟩ := (cutAt_head hcut).1 (not_not.1 h)
    simp [hr, along, FileTree.step, Component.ofPiece?]

theorem toList_join (p q : Path) :
    (p.join q).text.toList = joinChars p.text.toList q.text.toList := by
  simp [join]

theorem place_slash (start : Place) (p : Path) {a b : List Char}
    (h : p.text.toList = a ++ '/' :: b) :
    p.place start = along (along (if a.head? = some '/' ∨ a = [] then [] else start)
      (Text.cutAt '/' a)) (Text.cutAt '/' b) := by
  have hrel : p.IsRelative ↔ ¬(a.head? = some '/' ∨ a = []) := by
    unfold IsRelative
    rw [h]
    cases a <;> simp
  by_cases habs : a.head? = some '/' ∨ a = []
  · rw [if_pos habs, place_of_absolute (fun c => hrel.1 c habs), h, Text.cutAt_append_cons,
      along_append]
  · rw [if_neg habs, place_of_relative (hrel.2 habs), h, Text.cutAt_append_cons, along_append]

theorem place_join {q : Path} (hq : q.IsRelative) (p : Path) (start : Place) :
    (p.join q).place start = q.place (p.place start) := by
  have hjoin : (p.join q).text.toList = joinChars p.text.toList q.text.toList := toList_join p q
  rw [joinChars, if_neg hq] at hjoin
  rw [place_of_relative hq]
  by_cases hp : p.text.toList = []
  · have hrel : (p.join q).IsRelative := by
      unfold IsRelative
      rw [hjoin, hp]
      simpa [IsRelative] using hq
    have hstart : p.place start = start := by simp [place, components, hp, componentsOf_nil]
    rw [place_of_relative hrel, hstart, hjoin, hp]
    simp
  · by_cases hend : p.text.toList.getLast? = some '/'
    · obtain ⟨a, ha⟩ : ∃ a, p.text.toList = a ++ ['/'] := by
        obtain ⟨a, ha⟩ := List.getLast?_eq_some_iff.1 hend
        exact ⟨a, ha⟩
      rw [if_pos (Or.inr hend), ha, List.append_assoc, List.singleton_append] at hjoin
      rw [place_slash start _ hjoin, place_slash start p (b := []) ha]
      rfl
    · rw [if_neg (by simp [hp, hend])] at hjoin
      rw [place_slash start _ hjoin]
      congr 1
      by_cases habs : p.IsRelative
      · rw [place_of_relative habs, if_neg (by simpa [IsRelative, hp] using habs)]
      · rw [place_of_absolute habs, if_pos (Or.inl (not_not.1 habs))]

theorem place_push {s : String} (hs : '/' ∉ s.toList) (p : Path) (start : Place) :
    (p.push s).place start = along (p.place start) [s.toList] := by
  have hrel : Path.IsRelative ⟨s⟩ := by
    unfold IsRelative
    intro h
    exact hs (List.mem_of_mem_head? h)
  rw [push, place_join hrel, place_of_relative hrel, Text.cutAt_of_not_mem hs]

end Path

namespace FileTree

theorem place_lastStep (p : Path) (place : Place) : (lastStep p).foldl step place = place := by
  unfold lastStep
  split <;> rfl

theorem walk_eq_ok {t : FileTree} {cs : List Component} {start place : Place}
    (h : t.walk start cs = .ok place) : place = cs.foldl step start := by
  induction cs generalizing start with
  | nil => simpa [walk] using h.symm
  | cons c cs ih =>
    simp only [walk, bind, Except.bind] at h
    split at h
    · cases h
    · exact ih h

theorem resolve_eq_ok {t : FileTree} {p : Path} {place : Place} (h : t.resolve p = .ok place) :
    place = p.place t.here := by
  unfold resolve at h
  split at h
  · cases h
  next cs hcs =>
    have e := walk_eq_ok h
    rw [List.foldl_append, place_lastStep] at e
    rw [e, Path.place, hcs]
    rfl
  · have e := walk_eq_ok h
    rwa [List.foldl_append, place_lastStep] at e

end FileTree

end AccessorGen
