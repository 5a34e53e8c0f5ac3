import AccessorGen.Proofs.Discovery.Names
import AccessorGen.Proofs.File.Rewriting

/-! Trees as a file system has them: every entry has a proper name, and no two entries of a directory
have the same. Writing keeps a tree so, and makes no file where it does not write. -/

namespace AccessorGen

namespace Node

mutual

def sound : Node → Bool
  | .file _ => true
  | .dir entries => soundAll entries

def soundAll : List (String × Node) → Bool
  | [] => true
  | (s, n) :: rest => isEntryName s && (rest.lookup s).isNone && n.sound && soundAll rest

end

theorem soundAll_cons {s : String} {n : Node} {rest : List (String × Node)} :
    soundAll ((s, n) :: rest) = true ↔
      isEntryName s = true ∧ rest.lookup s = none ∧ n.sound = true ∧ soundAll rest = true := by
  simp only [soundAll, Bool.and_eq_true, Option.isNone_iff_eq_none]
  tauto

mutual

theorem wellNamed_of_sound {n : Node} (h : n.sound = true) : n.wellNamed = true := by
  cases n with
  | file c => rfl
  | dir entries => exact wellNamedAll_of_sound h

theorem wellNamedAll_of_sound {entries : List (String × Node)} (h : soundAll entries = true) :
    wellNamedAll entries = true := by
  match entries with
  | [] => rfl
  | (s, n) :: rest =>
    obtain ⟨hs, -, hn, hrest⟩ := soundAll_cons.1 h
    simp [wellNamedAll, hs, wellNamed_of_sound hn, wellNamedAll_of_sound hrest]

end

theorem sound_of_lookup {entries : List (String × Node)} {s : String} {n : Node}
    (h : soundAll entries = true) (hn : entries.lookup s = some n) :
    isEntryName s = true ∧ n.sound = true := by
  induction entries with
  | nil => cases hn
  | cons e entries ih =>
    obtain ⟨u, m⟩ := e
    obtain ⟨hu, -, hm, hrest⟩ := soundAll_cons.1 h
    rw [List.lookup_cons] at hn
    split at hn
    next he =>
      obtain rfl := Option.some.inj hn
      obtain rfl : s = u := by simpa using he
      exact ⟨hu, hm⟩
    · exact ih hrest hn

theorem entryNames_of_look {n : Node} {place : Place} {v : View} (h : n.sound = true)
    (hv : n.look place = some v) : ∀ s ∈ place, isEntryName s = true := by
  induction place generalizing n with
  | nil => simp
  | cons s place ih =>
    cases n with
    | file c => cases hv
    | dir entries =>
      rw [look_dir_cons] at hv
      obtain ⟨m, hm, hv⟩ := Option.bind_eq_some_iff.1 hv
      obtain ⟨hs, hsound⟩ := sound_of_lookup h hm
      exact List.forall_mem_cons.2 ⟨hs, ih hsound hv⟩

theorem sound_get {n m : Node} {place : Place} (h : n.sound = true)
    (hm : n.get place = some m) : m.sound = true := by
  induction place generalizing n with
  | nil =>
    obtain rfl := Option.some.inj hm
    exact h
  | cons s place ih =>
    obtain ⟨entries, k, rfl, hk, hm⟩ := get_cons_eq_some hm
    exact ih (sound_of_lookup h hk).2 hm

theorem soundAll_setEntry {s : String} {n : Node} {entries : List (String × Node)}
    (hs : isEntryName s = true) (hn : n.sound = true) (h : soundAll entries = true) :
    soundAll (setEntry s n entries) = true := by
  induction entries with
  | nil => exact soundAll_cons.2 ⟨hs, rfl, hn, rfl⟩
  | cons e entries ih =>
    obtain ⟨u, m⟩ := e
    obtain ⟨hu, hfree, hm, hrest⟩ := soundAll_cons.1 h
    unfold setEntry
    split
    next he =>
      subst he
      exact soundAll_cons.2 ⟨hs, hfree, hn, hrest⟩
    next he => exact soundAll_cons.2 ⟨hu, by rw [lookup_setEntry, if_neg he, hfree], hm, ih hrest⟩

theorem sound_set {new root : Node} {place : Place} (hnew : new.sound = true)
    (hroot : root.sound = true) (hplace : ∀ s ∈ place, isEntryName s = true) :
    (set new root place).sound = true := by
  induction place generalizing root with
  | nil => simpa [set] using hnew
  | cons s place ih =>
    obtain ⟨hs, hrest⟩ := List.forall_mem_cons.1 hplace
    cases root with
    | file c => rwa [set]
    | dir entries =>
      cases place with
      | nil => exact soundAll_setEntry hs hnew hroot
      | cons u place =>
        unfold set
        split
        next n hn => exact soundAll_setEntry hs (ih (sound_of_lookup hroot hn).2 hrest) hroot
        · exact hroot

end Node

namespace Path

theorem entryName_of_mem_components {p : Path} {s : List Char} (h : .name s ∈ p.components) :
    isEntryName (.ofList s) = true := by
  rw [components, components_lead, List.mem_append] at h
  rcases h with h | h
  · unfold frontComponents at h
    split at h
    · cases h
    · split at h <;> simp at h
  · obtain ⟨piece, hpiece, hname⟩ := List.mem_filterMap.1 h
    have hslash := slash_not_mem_lead p.text.toList piece hpiece
    unfold Component.ofPiece? at hname
    split at hname
    · cases hname
    next hidle =>
      split at hname
      · cases hname
      next hdots =>
        obtain rfl := Component.name.inj (Option.some.inj hname)
        rw [not_or] at hidle
        simp [isEntryName, hidle, hdots, hslash]

theorem entryNames_place {start : Place} (h : ∀ s ∈ start, isEntryName s = true) (p : Path) :
    ∀ s ∈ p.place start, isEntryName s = true := by
  have hwalk : ∀ cs : List Component, (∀ s, .name s ∈ cs → isEntryName (.ofList s) = true) →
      ∀ start : Place, (∀ s ∈ start, isEntryName s = true) →
      ∀ s ∈ cs.foldl FileTree.step start, isEntryName s = true := by
    intro cs
    induction cs with
    | nil => exact fun _ _ h => h
    | cons c cs ih =>
      intro hcs start hstart
      refine ih (fun s hs => hcs s (List.mem_cons_of_mem _ hs)) _ fun s hs => ?_
      cases c with
      | top => simp [FileTree.step] at hs
      | here => exact hstart s hs
      | up => exact hstart s (List.mem_of_mem_dropLast hs)
      | name w =>
        rcases List.mem_append.1 hs with hs | hs
        · exact hstart s hs
        · rw [List.mem_singleton.1 hs]
          exact hcs w List.mem_cons_self
  exact hwalk p.components (fun s => entryName_of_mem_components) start h

end Path

namespace FileTree

/-- The entries of all directories have proper names, each its own, and so has the way to the
directory that relative paths start from. -/
structure Sound (t : FileTree) : Prop where
  here : ∀ s ∈ t.here, isEntryName s = true
  root : t.root.sound = true

instance (t : FileTree) : Decidable t.Sound :=
  decidable_of_iff ((∀ s ∈ t.here, isEntryName s = true) ∧ t.root.sound = true)
    ⟨fun h => ⟨h.1, h.2⟩, fun h => ⟨h.here, h.root⟩⟩

theorem Sound.set {t : FileTree} (h : t.Sound) {n : Node} (hn : n.sound = true) (p : Path) :
    Sound { t with root := .set n t.root (p.place t.here) } :=
  ⟨h.here, Node.sound_set hn h.root (Path.entryNames_place h.here p)⟩

def MakesOnly (at_ : Place → Prop) (t u : FileTree) : Prop :=
  (t.Sound → u.Sound) ∧ ∀ q c, ¬at_ q → u.look q = some (.file c) → t.look q = some (.file c)

theorem MakesOnly.refl (at_ : Place → Prop) (t : FileTree) : MakesOnly at_ t t :=
  ⟨id, fun _ _ _ h => h⟩

theorem MakesOnly.trans {at_ : Place → Prop} {t u v : FileTree} (h : MakesOnly at_ t u)
    (k : MakesOnly at_ u v) : MakesOnly at_ t v :=
  ⟨k.1 ∘ h.1, fun q c hq hv => h.2 q c hq (k.2 q c hq hv)⟩

theorem MakesOnly.mono {at_ more : Place → Prop} {t u : FileTree} (h : MakesOnly at_ t u)
    (hmore : ∀ q, at_ q → more q) : MakesOnly more t u :=
  ⟨h.1, fun q c hq => h.2 q c fun hat => hq (hmore q hat)⟩

theorem makeDir_makes {t u : FileTree} {p : Path} (h : t.makeDir p = .ok u) :
    MakesOnly (fun _ => False) t u := by
  obtain ⟨-, hne, hdir, rfl⟩ := makeDir_eq_ok h
  refine ⟨fun hsound => hsound.set rfl p, fun q c _ hq => ?_⟩
  rw [look, Node.look_set _ hne hdir] at hq
  split at hq
  · cases hdrop : q.drop (p.place t.here).length with
    | nil => simp [hdrop, Node.view] at hq
    | cons s r => simp [hdrop, Node.look_dir_cons] at hq
  · exact hq

theorem writeText_makes {t u : FileTree} {p : Path} {s : String} (h : t.writeText p s = .ok u) :
    MakesOnly (· = p.place t.here) t u := by
  obtain ⟨-, -, -, hparent, rfl⟩ := writeText_eq_ok h
  refine ⟨fun hsound => hsound.set rfl p, fun q c hne hq => ?_⟩
  by_cases hroot : p.place t.here = []
  · rw [look, hroot, Node.set] at hq
    cases q with
    | nil => exact absurd hroot.symm hne
    | cons u q => cases hq
  · rw [look, Node.look_set _ hroot (hparent hroot)] at hq
    split at hq
    next hfront =>
      obtain ⟨r, rfl⟩ := hfront
      rw [List.drop_left] at hq
      cases r with
      | nil => simp at hne
      | cons s r => cases hq
    · exact hq

end FileTree

namespace OutputFile

open FileTree

theorem makeParent_makes (f : OutputFile) (t : FileTree) :
    MakesOnly (fun _ => False) t (f.makeParent t).2 :=
  makeParent_of_steps (.refl _) .trans makeDir_makes f t

theorem write_makes {f : OutputFile} {t u : FileTree} {o : WriteOutcome}
    (h : f.write t = (.ok o, u)) : MakesOnly (· = f.path.place t.here) t u := by
  unfold write at h
  split at h
  · obtain ⟨-, rfl⟩ := Prod.mk.inj h
    exact .refl _ t
  · have hparent := makeParent_makes f t
    have hhere := (makeParent_keeps f t).1.1
    split at h
    · cases h
    next v hv =>
      rw [hv] at hparent hhere
      split at h
      · cases h
      next w hw =>
        obtain ⟨-, rfl⟩ := Prod.mk.inj h
        have hfile := writeText_makes hw
        rw [hhere] at hfile
        exact (hparent.mono nofun).trans hfile

theorem WritesAll.makes {fs : List OutputFile} {t u : FileTree} (h : WritesAll fs t u) :
    MakesOnly (fun q => ∃ f ∈ fs, q = f.path.place t.here) t u := by
  induction h with
  | nil t => exact .refl _ t
  | @cons f fs t u v o first rest ih =>
    rw [(write_ok first).2.1.1] at ih
    refine ((write_makes first).mono fun q hq => ⟨f, by simp, hq⟩).trans (ih.mono ?_)
    rintro q ⟨g, hg, rfl⟩
    exact ⟨g, by simp [hg], rfl⟩

end OutputFile

end AccessorGen
