import AccessorGen.Text.Pieces
import Mathlib.Data.List.Infix

/-! Reading text by its brackets. A nest keeps the number of open brackets and whether the last
character was a dash, since the head of an arrow closes nothing. Text is cut at the commas outside
all brackets, and the text inside a bracket ends where that bracket is closed. -/

namespace AccessorGen

structure Nest where
  depth : Nat
  dash : Bool
  deriving DecidableEq

namespace Nest

/-- Outside all brackets. -/
def start : Nest := ⟨0, false⟩

def opens (c : Char) : Bool := ['(', '[', '<', '\x7b'].contains c

def closes (s : Nest) (c : Char) : Bool :=
  [')', ']', '\x7d'].contains c || (c == '>' && !s.dash)

def step (s : Nest) (c : Char) : Nest :=
  ⟨if opens c then s.depth + 1 else if s.closes c then s.depth - 1 else s.depth, c == '-'⟩

def through (s : Nest) (cs : List Char) : Nest := cs.foldl step s

@[simp] theorem through_nil (s : Nest) : s.through [] = s := rfl

@[simp] theorem through_cons (s : Nest) (c : Char) (cs : List Char) :
    s.through (c :: cs) = (s.step c).through cs := rfl

theorem through_append (s : Nest) (cs ds : List Char) :
    s.through (cs ++ ds) = (s.through cs).through ds :=
  List.foldl_append

/-- Nothing of a kind is met on the way through a text. -/
def avoids (p : Nest → Char → Bool) : Nest → List Char → Bool
  | _, [] => true
  | s, c :: r => !p s c && avoids p (s.step c) r

@[simp] theorem avoids_nil (p : Nest → Char → Bool) (s : Nest) : avoids p s [] = true := rfl

@[simp] theorem avoids_cons {p : Nest → Char → Bool} {s : Nest} {c : Char} {r : List Char} :
    avoids p s (c :: r) = true ↔ p s c = false ∧ avoids p (s.step c) r = true := by
  simp [avoids]

theorem avoids_append {p : Nest → Char → Bool} {s : Nest} {a b : List Char} :
    avoids p s (a ++ b) = true ↔ avoids p s a = true ∧ avoids p (s.through a) b = true := by
  induction a generalizing s with
  | nil => simp
  | cons c a ih => simp [ih, and_assoc]

theorem avoids_of_imp {p q : Nest → Char → Bool} (hpq : ∀ s c, q s c = true → p s c = true)
    {s : Nest} {cs : List Char} (h : avoids p s cs = true) : avoids q s cs = true := by
  induction cs generalizing s with
  | nil => rfl
  | cons c r ih =>
    obtain ⟨hc, hr⟩ := avoids_cons.1 h
    refine avoids_cons.2 ⟨?_, ih hr⟩
    by_contra hq
    rw [hpq s c (by simpa using hq)] at hc
    cases hc

/-- A comma outside all brackets. -/
def outerComma (s : Nest) (c : Char) : Bool := s.depth == 0 && c == ','

def outerClose (s : Nest) (c : Char) : Bool := s.depth == 0 && s.closes c

def dips (d : Nat) (s : Nest) (c : Char) : Bool :=
  decide (s.depth < d) || (decide (s.depth ≤ d) && s.closes c)

theorem dips_of_outerClose {s : Nest} {c : Char} (h : outerClose s c = true) :
    dips 0 s c = true := by
  simp only [outerClose, Bool.and_eq_true, beq_iff_eq] at h
  simp [dips, h.1, h.2]

theorem dips_of_outerComma {d : Nat} {s : Nest} {c : Char} (h : outerComma s c = true) :
    dips (d + 1) s c = true := by
  simp only [outerComma, Bool.and_eq_true, beq_iff_eq] at h
  simp [dips, h.1]

/-- Characters that a nest takes notice of. -/
def marks : List Char := ['(', '[', '<', '\x7b', ')', ']', '>', '\x7d', ',', '-']

def isPlain (c : Char) : Bool := !marks.contains c

theorem isPlain_of_class {p : Char → Bool} (hp : marks.any p = false) {c : Char}
    (h : p c = true) : isPlain c = true := by
  rw [isPlain, Bool.not_eq_true', ← Bool.not_eq_true, List.contains_iff_mem]
  intro hmem
  exact List.any_eq_false.1 hp c hmem h

theorem step_of_isPlain {c : Char} (h : isPlain c = true) (s : Nest) :
    s.step c = ⟨s.depth, false⟩ := by
  simp only [isPlain, marks, List.contains_cons, List.contains_nil, Bool.not_eq_true',
    Bool.or_eq_false_iff, Bool.or_false, beq_eq_false_iff_ne] at h
  simp [step, opens, closes, h]

theorem closes_of_isPlain {c : Char} (h : isPlain c = true) (s : Nest) : s.closes c = false := by
  simp only [isPlain, marks, List.contains_cons, List.contains_nil, Bool.not_eq_true',
    Bool.or_eq_false_iff, Bool.or_false, beq_eq_false_iff_ne] at h
  simp [closes, h]

theorem through_of_isPlain {cs : List Char} (h : ∀ c ∈ cs, isPlain c = true) (d : Nat) :
    through ⟨d, false⟩ cs = ⟨d, false⟩ := by
  induction cs with
  | nil => rfl
  | cons c r ih =>
    rw [through_cons, step_of_isPlain (h c (by simp)), ih fun e he => h e (by simp [he])]

theorem avoids_comma_of_isPlain {cs : List Char} (h : ∀ c ∈ cs, isPlain c = true) (s : Nest) :
    avoids outerComma s cs = true := by
  induction cs generalizing s with
  | nil => rfl
  | cons c r ih =>
    refine avoids_cons.2 ⟨?_, ih (fun e he => h e (by simp [he])) _⟩
    have hc : c ≠ ',' := by
      rintro rfl
      exact absurd (h ',' (by simp)) (by decide)
    simp [outerComma, hc]

theorem avoids_dips_of_isPlain {cs : List Char} (h : ∀ c ∈ cs, isPlain c = true) {d : Nat}
    {s : Nest} (hd : d ≤ s.depth) : avoids (dips d) s cs = true := by
  induction cs generalizing s with
  | nil => rfl
  | cons c r ih =>
    have hc := h c (by simp)
    refine avoids_cons.2 ⟨?_, ih (fun e he => h e (by simp [he])) ?_⟩
    · simp [dips, closes_of_isPlain hc, hd]
    · rw [step_of_isPlain hc]
      exact hd

/-- Cuts at every comma outside all brackets. -/
def cut : Nest → List Char → List (List Char)
  | _, [] => [[]]
  | s, c :: r =>
    if s.outerComma c then [] :: cut (s.step c) r else Text.consFirst c (cut (s.step c) r)

theorem cut_ne_nil (s : Nest) (cs : List Char) : cut s cs ≠ [] := by
  cases cs with
  | nil => simp [cut]
  | cons c r =>
    unfold cut
    split
    · simp
    · exact Text.consFirst_ne_nil c _

theorem cut_of_avoids {s : Nest} {p : List Char} (h : avoids outerComma s p = true) :
    cut s p = [p] := by
  induction p generalizing s with
  | nil => rfl
  | cons c r ih =>
    obtain ⟨hc, hr⟩ := avoids_cons.1 h
    simp [cut, hc, ih hr, Text.consFirst]

theorem step_comma (s : Nest) : s.step ',' = ⟨s.depth, false⟩ := by
  simp [step, opens, closes]

theorem cut_append_comma {s : Nest} {p r : List Char} (h : avoids outerComma s p = true)
    (hdepth : (s.through p).depth = 0) : cut s (p ++ ',' :: r) = p :: cut start r := by
  induction p generalizing s with
  | nil =>
    have hdepth : s.depth = 0 := hdepth
    simp [cut, outerComma, step_comma, start, hdepth]
  | cons c p ih =>
    obtain ⟨hc, hp⟩ := avoids_cons.1 h
    simp [cut, hc, ih hp hdepth, Text.consFirst]

theorem cut_pieces {s : Nest} {cs p : List Char} {ps : List (List Char)} (h : cut s cs = p :: ps) :
    avoids outerComma s p = true ∧
    (ps = [] → cs = p) ∧
    (ps ≠ [] → (s.through p).depth = 0 ∧ ∃ r, cs = p ++ ',' :: r ∧ cut start r = ps) := by
  induction cs generalizing s p with
  | nil =>
    obtain ⟨rfl, rfl⟩ : [] = p ∧ [] = ps := by simpa [cut] using h
    simp
  | cons c r ih =>
    unfold cut at h
    split at h
    next hc =>
      obtain ⟨rfl, rfl⟩ := List.cons.inj h
      simp only [outerComma, Bool.and_eq_true, beq_iff_eq] at hc
      obtain ⟨hdepth, rfl⟩ := hc
      refine ⟨rfl, fun hnil => ?_, fun _ => ⟨hdepth, r, rfl, ?_⟩⟩
      · exact absurd hnil (cut_ne_nil _ r)
      · rw [step_comma, hdepth]
        rfl
    next hc =>
      cases hcut : cut (s.step c) r with
      | nil => exact absurd hcut (cut_ne_nil _ r)
      | cons q qs =>
        rw [hcut, Text.consFirst] at h
        obtain ⟨rfl, rfl⟩ := List.cons.inj h
        obtain ⟨hq, hlast, hmore⟩ := ih hcut
        refine ⟨avoids_cons.2 ⟨by simpa using hc, hq⟩, fun e => by rw [hlast e], fun e => ?_⟩
        obtain ⟨hdepth, r', rfl, hcut'⟩ := hmore e
        exact ⟨hdepth, r', rfl, hcut'⟩

/-- The text up to the bracket that closes the one it stands in. -/
def inside : Nest → List Char → Option (List Char)
  | _, [] => none
  | s, c :: r => if s.outerClose c then some [] else (inside (s.step c) r).map (c :: ·)

theorem inside_of_avoids {s : Nest} {p r : List Char} {c : Char}
    (h : avoids outerClose s p = true) (hc : (s.through p).outerClose c = true) :
    inside s (p ++ c :: r) = some p := by
  induction p generalizing s with
  | nil =>
    have hc' : s.outerClose c = true := hc
    simp [inside, hc']
  | cons d p ih =>
    obtain ⟨hd, hp⟩ := avoids_cons.1 h
    simp [inside, hd, ih hp hc]

theorem depth_of_inside {s : Nest} {cs p : List Char} (h : inside s cs = some p) :
    (s.through p).depth = 0 := by
  induction cs generalizing s p with
  | nil => cases h
  | cons c r ih =>
    unfold inside at h
    split at h
    next hc =>
      obtain rfl := Option.some.inj h
      simp only [outerClose, Bool.and_eq_true, beq_iff_eq] at hc
      exact hc.1
    · obtain ⟨q, hq, rfl⟩ := Option.map_eq_some_iff.1 h
      exact ih (s := s.step c) hq

end Nest

end AccessorGen
