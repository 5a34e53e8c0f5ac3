import AccessorGen.Proofs.File.Place

/-! What a file tree shows at a place: nothing, a directory, or a file with its content. Putting a
node at a place changes what is seen there and below, and nothing else; a path keeps its meaning as
long as directories stay directories. -/

namespace AccessorGen

inductive View
  | dir
  | file (content : Content)
  deriving DecidableEq

namespace Node

def view : Node → View
  | .dir _ => .dir
  | .file c => .file c

def look (n : Node) (place : Place) : Option View := (n.get place).map view

@[simp] theorem look_nil (n : Node) : n.look [] = some n.view := rfl

theorem look_file_cons (c : Content) (s : String) (place : Place) :
    (Node.file c).look (s :: place) = none := rfl

theorem look_dir_cons (entries : List (String × Node)) (s : String) (place : Place) :
    (Node.dir entries).look (s :: place) = (entries.lookup s).bind (·.look place) := by
  simp only [look, get]
  cases entries.lookup s <;> rfl

theorem view_eq_dir {n : Node} (h : n.view = .dir) : ∃ entries, n = .dir entries := by
  cases n with
  | file c => cases h
  | dir entries => exact ⟨entries, rfl⟩

theorem lookup_setEntry (s u : String) (n : Node) (entries : List (String × Node)) :
    (setEntry s n entries).lookup u = if u = s then some n else entries.lookup u := by
  induction entries with
  | nil =>
    by_cases h : u = s
    · simp [setEntry, h]
    · simp [setEntry, List.lookup_cons, beq_false_of_ne h, h]
  | cons e entries ih =>
    obtain ⟨v, m⟩ := e
    by_cases hv : v = s
    · subst hv
      by_cases h : u = v
      · simp [setEntry, h]
      · simp [setEntry, List.lookup_cons, beq_false_of_ne h, h]
    · by_cases hu : u = v
      · subst hu
        simp [setEntry, hv]
      · simp [setEntry, List.lookup_cons, hv, beq_false_of_ne hu, ih]

theorem look_set (new : Node) {root : Node} {place : Place} (hne : place ≠ [])
    (hdir : root.look place.dropLast = some .dir) (q : Place) :
    (set new root place).look q =
      if place <+: q then new.look (q.drop place.length) else root.look q := by
  -- The last step replaces an entry of a directory; each step before it goes down one entry.
  induction place generalizing root q with
  | nil => exact absurd rfl hne
  | cons s place ih =>
    cases place with
    | nil =>
      obtain ⟨entries, rfl⟩ := view_eq_dir (Option.some.inj hdir)
      cases q with
      | nil => simp [set, view]
      | cons u q =>
        simp only [set, look_dir_cons, lookup_setEntry, List.cons_prefix_cons]
        by_cases hu : u = s
        · subst hu
          simp
        · simp [hu, Ne.symm hu]
    | cons u place =>
      rw [List.dropLast_cons_of_ne_nil (by simp)] at hdir
      cases root with
      | file c => simp [look_file_cons] at hdir
      | dir entries =>
        rw [look_dir_cons] at hdir
        cases hn : entries.lookup s with
        | none => simp [hn] at hdir
        | some n =>
          rw [hn, Option.bind_some] at hdir
          cases q with
          | nil => simp [set, hn, view]
          | cons v q =>
            simp only [set, hn, look_dir_cons, lookup_setEntry, List.cons_prefix_cons]
            by_cases hv : v = s
            · subst hv
              simp [hn, ih (by simp) hdir q]
            · simp [hv, Ne.symm hv]

theorem look_eq_dir_of_append {n : Node} {p q : Place} {v : View} (hq : q ≠ [])
    (h : n.look (p ++ q) = some v) : n.look p = some .dir := by
  induction p generalizing n with
  | nil =>
    cases q with
    | nil => exact absurd rfl hq
    | cons s q =>
      cases n with
      | file c => cases h
      | dir entries => rfl
  | cons s p ih =>
    cases n with
    | file c => cases h
    | dir entries =>
      rw [List.cons_append, look_dir_cons] at h
      rw [look_dir_cons]
      cases hn : entries.lookup s with
      | none => rw [hn] at h; cases h
      | some m =>
        rw [hn, Option.bind_some] at h
        exact ih h

theorem look_eq_dir_of_root {n : Node} {p : Place} (h : n.look p = some .dir) :
    n.look [] = some .dir := by
  by_cases hp : p = []
  · rwa [hp] at h
  · exact look_eq_dir_of_append hp h

theorem look_dropLast {n : Node} {p : Place} (h : n.look p = some .dir) :
    n.look p.dropLast = some .dir := by
  by_cases hp : p = []
  · subst hp
    exact h
  · rw [← List.dropLast_append_getLast hp] at h
    exact look_eq_dir_of_append (by simp) h

end Node

namespace FileTree

def look (t : FileTree) (place : Place) : Option View := t.root.look place

theorem enter_eq_ok_iff {t : FileTree} {place : Place} :
    t.enter place = .ok () ↔ t.look place = some .dir := by
  unfold enter look Node.look
  cases t.root.get place with
  | none => simp
  | some n => cases n <;> simp [Node.view]

def KeepsDirs (t u : FileTree) : Prop :=
  u.here = t.here ∧ ∀ q, t.look q = some .dir → u.look q = some .dir

theorem KeepsDirs.refl (t : FileTree) : KeepsDirs t t := ⟨rfl, fun _ h => h⟩

theorem KeepsDirs.trans {t u v : FileTree} (h : KeepsDirs t u) (k : KeepsDirs u v) :
    KeepsDirs t v :=
  ⟨k.1.trans h.1, fun q hq => k.2 q (h.2 q hq)⟩

theorem walk_keeps {t u : FileTree} (h : KeepsDirs t u) {cs : List Component}
    {start place : Place} (hw : t.walk start cs = .ok place) : u.walk start cs = .ok place := by
  induction cs generalizing start with
  | nil => simpa [walk] using hw
  | cons c cs ih =>
    simp only [walk, bind, Except.bind] at hw ⊢
    split at hw
    · cases hw
    next he =>
      rw [enter_eq_ok_iff.2 (h.2 _ (enter_eq_ok_iff.1 he))]
      exact ih hw

theorem resolve_keeps {t u : FileTree} (h : KeepsDirs t u) {p : Path} {place : Place}
    (hr : t.resolve p = .ok place) : u.resolve p = .ok place := by
  unfold resolve at hr ⊢
  split at hr
  · cases hr
  · exact walk_keeps h hr
  · rw [h.1]
    exact walk_keeps h hr

theorem walk_parent {t : FileTree} {cs : List Component} {start place : Place} (hcs : cs ≠ [])
    (h : t.walk start cs = .ok place) :
    t.look place = some .dir ∨ place ≠ [] ∧ t.look place.dropLast = some .dir := by
  induction cs generalizing start with
  | nil => exact absurd rfl hcs
  | cons c cs ih =>
    simp only [walk, bind, Except.bind] at h
    split at h
    · cases h
    next he =>
      have hdir : t.look start = some .dir := enter_eq_ok_iff.1 he
      by_cases hrest : cs = []
      · subst hrest
        obtain rfl : step start c = place := by simpa [walk] using h
        cases c with
        | top => exact .inl (Node.look_eq_dir_of_root hdir)
        | here => exact .inl hdir
        | up => exact .inl (Node.look_dropLast hdir)
        | name s => exact .inr ⟨by simp [step], by simpa [step] using hdir⟩
      · exact ih hrest h

theorem resolve_parent {t : FileTree} {p : Path} {place : Place} (h : t.resolve p = .ok place)
    (hne : place ≠ []) : t.look place = some .dir ∨ t.look place.dropLast = some .dir := by
  unfold resolve at h
  split at h
  · cases h
  next cs hcs =>
    by_cases hnil : cs ++ lastStep p = []
    · rw [hnil] at h
      exact absurd (by simpa [walk] using h.symm) hne
    · exact (walk_parent hnil h).imp_right And.right
  next hcs _ =>
    have hnil : p.components ++ lastStep p ≠ [] := fun e => hcs (List.append_eq_nil_iff.1 e).1
    exact (walk_parent hnil h).imp_right And.right

end FileTree

end AccessorGen
