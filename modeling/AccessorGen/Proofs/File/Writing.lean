import AccessorGen.File.Write
import AccessorGen.Proofs.File.View

/-! What writing does to a file tree. Making directories hides nothing that was seen before; a
successful write makes its text readable at its path and changes what is seen at no other place that
had something. A sequence of writes leaves at each path the text written there last. -/

namespace AccessorGen

namespace FileTree

def KeepsBut (except_ : Place → Prop) (t u : FileTree) : Prop :=
  KeepsDirs t u ∧ ∀ q v, ¬except_ q → t.look q = some v → u.look q = some v

def Keeps (t u : FileTree) : Prop := KeepsBut (fun _ => False) t u

theorem KeepsBut.refl (e : Place → Prop) (t : FileTree) : KeepsBut e t t :=
  ⟨.refl t, fun _ _ _ h => h⟩

theorem KeepsBut.trans {e : Place → Prop} {t u v : FileTree} (h : KeepsBut e t u)
    (k : KeepsBut e u v) : KeepsBut e t v :=
  ⟨h.1.trans k.1, fun q w hq hw => k.2 q w hq (h.2 q w hq hw)⟩

theorem Keeps.toBut {t u : FileTree} (h : Keeps t u) (e : Place → Prop) : KeepsBut e t u :=
  ⟨h.1, fun q v _ hv => h.2 q v not_false hv⟩

theorem keeps_of_look {t u : FileTree} (here : u.here = t.here)
    (h : ∀ q v, t.look q = some v → u.look q = some v) : Keeps t u :=
  ⟨⟨here, fun q => h q .dir⟩, fun q v _ => h q v⟩

theorem look_set_of_ne {new root : Node} {place q : Place} {v : View} (hne : place ≠ [])
    (hdir : root.look place.dropLast = some .dir) (hleaf : root.look place ≠ some .dir)
    (hq : q ≠ place) (h : root.look q = some v) : (Node.set new root place).look q = some v := by
  rw [Node.look_set new hne hdir]
  split
  next hpre =>
    obtain ⟨r, rfl⟩ := hpre
    refine absurd (Node.look_eq_dir_of_append ?_ h) hleaf
    rintro rfl
    exact hq (by simp)
  · exact h

theorem look_set_self {new root : Node} {place : Place} (hne : place ≠ [])
    (hdir : root.look place.dropLast = some .dir) :
    (Node.set new root place).look place = some new.view := by
  rw [Node.look_set new hne hdir, if_pos (List.prefix_refl _)]
  simp

theorem makeDir_eq_ok {t u : FileTree} {p : Path} (h : t.makeDir p = .ok u) :
    t.look (p.place t.here) = none ∧ p.place t.here ≠ [] ∧
      t.look (p.place t.here).dropLast = some .dir ∧
      u = { t with root := .set (.dir []) t.root (p.place t.here) } := by
  unfold makeDir at h
  cases hr : t.resolve p with
  | error e => rw [hr] at h; cases h
  | ok place =>
    rw [hr] at h
    simp only [bind, Except.bind] at h
    obtain rfl := resolve_eq_ok hr
    split at h
    · cases h
    next hnone =>
      have hlook : t.look (p.place t.here) = none := by simp [look, Node.look, hnone]
      have hne : p.place t.here ≠ [] := by
        intro e
        rw [e] at hlook
        simp [look] at hlook
      exact ⟨hlook, hne, (resolve_parent hr hne).resolve_left (by simp [hlook]),
        (Except.ok.inj h).symm⟩

theorem makeDir_keeps {t u : FileTree} {p : Path} (h : t.makeDir p = .ok u) : Keeps t u := by
  obtain ⟨hlook, hne, hdir, rfl⟩ := makeDir_eq_ok h
  refine keeps_of_look rfl fun q v hv => ?_
  refine look_set_of_ne hne hdir ?_ ?_ hv
  · change t.look (p.place t.here) ≠ _
    simp [hlook]
  · rintro rfl
    rw [hlook] at hv
    cases hv

section Steps

variable {P : FileTree → FileTree → Prop} (refl : ∀ t, P t t)
  (trans : ∀ {t u v}, P t u → P u v → P t v) (step : ∀ {t u p}, t.makeDir p = .ok u → P t u)

include refl step in
theorem ensureDir_of_steps (t : FileTree) (p : Path) : P t (t.ensureDir p).2 := by
  unfold ensureDir
  split
  next u h => exact step h
  · split <;> exact refl t

include refl trans step

theorem makeFrom_of_steps (t : FileTree) (ps : List Path) : P t (t.makeFrom ps).2 := by
  induction ps with
  | nil => exact refl t
  | cons p ps ih =>
    have here := ensureDir_of_steps refl step t p
    cases hr : t.makeFrom ps with
    | mk r u =>
      rw [hr] at ih
      have down := trans ih (ensureDir_of_steps refl step u p)
      cases r with
      | error e => simp only [makeFrom, hr]; split <;> [exact ih; exact here]
      | ok _ => simp only [makeFrom, hr]; split <;> [exact down; exact here]

theorem makeParent_of_steps (f : OutputFile) (t : FileTree) : P t (f.makeParent t).2 := by
  unfold OutputFile.makeParent
  split
  · exact refl t
  next dir _ =>
    have h : P t (t.makeDirs dir).2 := makeFrom_of_steps refl trans step t _
    split <;> rename_i hd <;> rwa [hd] at h

end Steps

theorem writeText_eq_ok {t u : FileTree} {p : Path} {s : String} (h : t.writeText p s = .ok u) :
    t.resolve p = .ok (p.place t.here) ∧ endsInSlash p = false ∧
      t.look (p.place t.here) ≠ some .dir ∧
      (p.place t.here ≠ [] → t.look (p.place t.here).dropLast = some .dir) ∧
      u = { t with root := .set (.file (.text s)) t.root (p.place t.here) } := by
  unfold writeText at h
  cases hr : t.resolve p with
  | error e => rw [hr] at h; cases h
  | ok place =>
    rw [hr] at h
    simp only [bind, Except.bind] at h
    obtain rfl := resolve_eq_ok hr
    split at h
    · cases h
    next hdir =>
      have hleaf : t.look (p.place t.here) ≠ some .dir := by
        intro hl
        obtain ⟨n, hn, hv⟩ := Option.map_eq_some_iff.1 hl
        obtain ⟨entries, rfl⟩ := Node.view_eq_dir hv
        exact hdir entries hn
      split at h
      · cases h
      next hslash =>
        exact ⟨rfl, by simpa using hslash, hleaf,
          fun hne => (resolve_parent hr hne).resolve_left hleaf, (Except.ok.inj h).symm⟩

theorem writeText_ok {t u : FileTree} {p : Path} {s : String} (h : t.writeText p s = .ok u) :
    ∃ place, t.resolve p = .ok place ∧ endsInSlash p = false ∧
      u.look place = some (.file (.text s)) ∧ KeepsBut (· = place) t u := by
  obtain ⟨hr, hslash, hleaf, hparent, rfl⟩ := writeText_eq_ok h
  refine ⟨_, hr, hslash, ?_⟩
  generalize p.place t.here = place at hleaf hparent
  by_cases hne : place = []
  · subst hne
    have hfile : ∀ q v, q ≠ [] → t.root.look q = some v → False := fun q v hq hv =>
      hleaf (Node.look_eq_dir_of_append (p := []) hq hv)
    refine ⟨by simp [look, Node.set, Node.view], ⟨rfl, fun q hq => ?_⟩, fun q v hq hv => ?_⟩
    · by_cases hq0 : q = []
      · subst hq0
        exact absurd hq hleaf
      · exact (hfile q _ hq0 hq).elim
    · exact (hfile q v hq hv).elim
  · have hkeep : ∀ q v, q ≠ place → t.root.look q = some v →
        (Node.set (.file (.text s)) t.root place).look q = some v :=
      fun q v hq hv => look_set_of_ne hne (hparent hne) hleaf hq hv
    refine ⟨look_set_self hne (hparent hne), ⟨rfl, fun q hq => hkeep q _ ?_ hq⟩, hkeep⟩
    rintro rfl
    exact hleaf hq

theorem readText_eq_some_iff {t : FileTree} {p : Path} {s : String} :
    t.readText p = some s ↔ endsInSlash p = false ∧
      ∃ place, t.resolve p = .ok place ∧ t.look place = some (.file (.text s)) := by
  unfold readText find look Node.look
  cases hr : t.resolve p with
  | error e => simp [bind, Except.bind]
  | ok place =>
    cases hg : t.root.get place with
    | none => simp [bind, Except.bind, hg]
    | some n =>
      cases n with
      | dir entries => simp [bind, Except.bind, hg, Node.view]
      | file c =>
        cases c <;> cases endsInSlash p <;> simp [bind, Except.bind, hg, Node.view]

theorem readText_keeps {t u : FileTree} {e : Place → Prop} (h : KeepsBut e t u) {p : Path}
    {s : String} (hp : ¬e (p.place t.here)) (hs : t.readText p = some s) :
    u.readText p = some s := by
  obtain ⟨hslash, place, hr, hl⟩ := readText_eq_some_iff.1 hs
  have hplace : place = p.place t.here := resolve_eq_ok hr
  exact readText_eq_some_iff.2
    ⟨hslash, place, resolve_keeps h.1 hr, h.2 place _ (hplace ▸ hp) hl⟩

end FileTree

namespace OutputFile

open FileTree

theorem makeParent_keeps (f : OutputFile) (t : FileTree) : Keeps t (f.makeParent t).2 :=
  makeParent_of_steps (.refl _) .trans makeDir_keeps f t

theorem write_ok {f : OutputFile} {t u : FileTree} {o : WriteOutcome}
    (h : f.write t = (.ok o, u)) :
    u.readText f.path = some f.content ∧ KeepsBut (· = f.path.place t.here) t u := by
  unfold write at h
  split at h
  next hcur =>
    obtain ⟨-, rfl⟩ := Prod.mk.inj h
    exact ⟨by simpa [isCurrent] using hcur, .refl _ t⟩
  · have hparent := makeParent_keeps f t
    split at h
    · cases h
    next v hv =>
      rw [hv] at hparent
      split at h
      · cases h
      next w hw =>
        obtain ⟨-, rfl⟩ := Prod.mk.inj h
        obtain ⟨place, hr, hslash, hl, hk⟩ := writeText_ok hw
        have hplace : place = f.path.place t.here := by rw [resolve_eq_ok hr, hparent.1.1]
        rw [← hplace]
        exact ⟨readText_eq_some_iff.2 ⟨hslash, place, resolve_keeps hk.1 hr, hl⟩,
          (hparent.toBut _).trans hk⟩

/-- The files are written one after another, and every write succeeds. -/
inductive WritesAll : List OutputFile → FileTree → FileTree → Prop
  | nil (t : FileTree) : WritesAll [] t t
  | cons {f : OutputFile} {fs : List OutputFile} {t u v : FileTree} {o : WriteOutcome}
      (first : f.write t = (.ok o, u)) (rest : WritesAll fs u v) : WritesAll (f :: fs) t v

theorem WritesAll.append {fs gs : List OutputFile} {t u v : FileTree} (h : WritesAll fs t u)
    (k : WritesAll gs u v) : WritesAll (fs ++ gs) t v := by
  induction h with
  | nil => exact k
  | cons first _ ih => exact .cons first (ih k)

theorem WritesAll.keeps {fs : List OutputFile} {t u : FileTree} (h : WritesAll fs t u) :
    KeepsBut (fun q => ∃ f ∈ fs, q = f.path.place t.here) t u := by
  induction h with
  | nil t => exact .refl _ t
  | @cons f fs t u v o first rest ih =>
    have hw := (write_ok first).2
    refine ⟨hw.1.trans ih.1, fun q w hq hl => ih.2 q w ?_ (hw.2 q w ?_ hl)⟩
    · rintro ⟨g, hg, rfl⟩
      exact hq ⟨g, by simp [hg], by rw [hw.1.1]⟩
    · exact fun e => hq ⟨f, by simp, e⟩

theorem WritesAll.readText {before after : List OutputFile} {f : OutputFile} {t u : FileTree}
    (h : WritesAll (before ++ f :: after) t u)
    (hlast : ∀ g ∈ after, g.path.place t.here ≠ f.path.place t.here) :
    u.readText f.path = some f.content := by
  induction before generalizing t with
  | nil =>
    cases h with
    | cons first rest =>
      obtain ⟨hread, hkeep⟩ := write_ok first
      refine readText_keeps rest.keeps ?_ hread
      rintro ⟨g, hg, e⟩
      rw [hkeep.1.1] at e
      exact hlast g hg e.symm
  | cons g before ih =>
    cases h with
    | cons first rest =>
      have hhere := (write_ok first).2.1.1
      exact ih rest (by rwa [hhere])

theorem WritesAll.look_text {fs : List OutputFile} {t u : FileTree} (h : WritesAll fs t u)
    {f : OutputFile} (hf : f ∈ fs) :
    ∃ g ∈ fs, u.look (f.path.place t.here) = some (.file (.text g.content)) := by
  induction h generalizing f with
  | nil => cases hf
  | @cons g fs t u v o first rest ih =>
    obtain ⟨hread, hkeep⟩ := write_ok first
    have hhere := hkeep.1.1
    rw [← hhere]
    by_cases hlater : ∃ k ∈ fs, k.path.place u.here = f.path.place u.here
    · obtain ⟨k, hk, hplace⟩ := hlater
      obtain ⟨l, hl, hlook⟩ := ih hk
      exact ⟨l, List.mem_cons_of_mem _ hl, hplace ▸ hlook⟩
    · rcases List.mem_cons.1 hf with rfl | hf
      · obtain ⟨-, place, hresolve, hlook⟩ := readText_eq_some_iff.1 hread
        rw [resolve_eq_ok hresolve] at hlook
        refine ⟨f, List.mem_cons_self, rest.keeps.2 _ _ ?_ hlook⟩
        rintro ⟨k, hk, hplace⟩
        exact hlater ⟨k, hk, hplace.symm⟩
      · exact absurd ⟨f, hf, rfl⟩ hlater

theorem WritesAll.look_file {fs : List OutputFile} {t u : FileTree} (h : WritesAll fs t u)
    {f : OutputFile} (hf : f ∈ fs) : ∃ c, u.look (f.path.place t.here) = some (.file c) :=
  let ⟨_, _, hlook⟩ := h.look_text hf
  ⟨_, hlook⟩

end OutputFile

end AccessorGen
