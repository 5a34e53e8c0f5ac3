import AccessorGen.Proofs.File.Sound

/-! Directories list their entries in some order that nobody promises. A listing assigns an order to
each directory; in a sound tree it changes nothing of what is seen at any place. -/

namespace AccessorGen

/-- An order of the entries for every directory. -/
structure Listing where
  order : Place → List (String × Node) → List (String × Node)
  perm : ∀ place entries, (order place entries).Perm entries

namespace Node

mutual

def listed (l : Listing) (at_ : Place) : Node → Node
  | .file c => .file c
  | .dir entries => .dir (l.order at_ (listedAll l at_ entries))

def listedAll (l : Listing) (at_ : Place) : List (String × Node) → List (String × Node)
  | [] => []
  | (s, n) :: rest => (s, n.listed l (at_ ++ [s])) :: listedAll l at_ rest

end

theorem soundAll_iff {entries : List (String × Node)} : soundAll entries = true ↔
    (∀ e ∈ entries, isEntryName e.1 = true ∧ e.2.sound = true) ∧
      (entries.map Prod.fst).Nodup := by
  induction entries with
  | nil => simp [soundAll]
  | cons e rest ih =>
    obtain ⟨s, n⟩ := e
    have hfree : rest.lookup s = none ↔ s ∉ rest.map Prod.fst := by
      rw [List.lookup_eq_none_iff, List.mem_map]
      constructor
      · rintro h ⟨e, he, rfl⟩
        simpa using h e he
      · intro h e he
        have hne : s ≠ e.1 := fun hs => h ⟨e, he, hs.symm⟩
        simpa using hne
    rw [soundAll_cons, ih, hfree, List.forall_mem_cons, List.map_cons, List.nodup_cons]
    tauto

theorem soundAll_perm {entries more : List (String × Node)} (h : entries.Perm more) :
    soundAll entries = soundAll more := by
  rw [Bool.eq_iff_iff, soundAll_iff, soundAll_iff, (h.map Prod.fst).nodup_iff]
  simp only [h.mem_iff]

theorem lookup_eq_some_iff {entries : List (String × Node)} (h : soundAll entries = true)
    {s : String} {n : Node} : entries.lookup s = some n ↔ (s, n) ∈ entries := by
  induction entries with
  | nil => simp
  | cons e rest ih =>
    obtain ⟨u, m⟩ := e
    obtain ⟨-, hfree, -, hrest⟩ := soundAll_cons.1 h
    rw [List.lookup_cons, List.mem_cons, Prod.mk.injEq]
    by_cases hs : s = u
    · subst hs
      have hnot : (s, n) ∉ rest := fun hmem => by
        rw [(ih hrest).2 hmem] at hfree
        cases hfree
      simp [hnot, eq_comm]
    · rw [beq_false_of_ne hs]
      simp [hs, ih hrest]

theorem lookup_perm {entries more : List (String × Node)} (hperm : entries.Perm more)
    (h : soundAll more = true) (s : String) : entries.lookup s = more.lookup s := by
  have hentries : soundAll entries = true := by rw [soundAll_perm hperm, h]
  refine Option.ext fun n => ?_
  rw [lookup_eq_some_iff hentries, lookup_eq_some_iff h, hperm.mem_iff]

theorem lookup_listedAll (l : Listing) (at_ : Place) (entries : List (String × Node))
    (s : String) :
    (listedAll l at_ entries).lookup s = (entries.lookup s).map (listed l (at_ ++ [s])) := by
  induction entries with
  | nil => rfl
  | cons e rest ih =>
    obtain ⟨u, n⟩ := e
    rw [listedAll, List.lookup_cons, List.lookup_cons]
    by_cases hs : s = u
    · subst hs
      simp
    · rw [beq_false_of_ne hs]
      exact ih

mutual

theorem sound_listed (l : Listing) (at_ : Place) {n : Node} (h : n.sound = true) :
    (n.listed l at_).sound = true := by
  cases n with
  | file c => rfl
  | dir entries =>
    rw [listed, sound, soundAll_perm (l.perm _ _)]
    exact soundAll_listedAll l at_ h

theorem soundAll_listedAll (l : Listing) (at_ : Place) {entries : List (String × Node)}
    (h : soundAll entries = true) : soundAll (listedAll l at_ entries) = true := by
  match entries with
  | [] => rfl
  | (s, n) :: rest =>
    obtain ⟨hs, hfree, hn, hrest⟩ := soundAll_cons.1 h
    refine soundAll_cons.2 ⟨hs, ?_, sound_listed l _ hn, soundAll_listedAll l at_ hrest⟩
    rw [lookup_listedAll, hfree, Option.map_none]

end

theorem look_listed (l : Listing) (at_ : Place) {n : Node} (h : n.sound = true) (q : Place) :
    (n.listed l at_).look q = n.look q := by
  induction q generalizing n at_ with
  | nil => cases n <;> rfl
  | cons s q ih =>
    cases n with
    | file c => rfl
    | dir entries =>
      rw [listed, look_dir_cons, look_dir_cons,
        lookup_perm (l.perm _ _) (soundAll_listedAll l at_ h), lookup_listedAll]
      cases hn : entries.lookup s with
      | none => rfl
      | some m => exact ih _ (sound_of_lookup h hn).2

end Node

namespace FileTree

def listed (l : Listing) (t : FileTree) : FileTree := { t with root := t.root.listed l [] }

theorem Sound.listed {t : FileTree} (h : t.Sound) (l : Listing) : (t.listed l).Sound :=
  ⟨h.here, Node.sound_listed l [] h.root⟩

theorem look_listed {t : FileTree} (h : t.Sound) (l : Listing) (q : Place) :
    (t.listed l).look q = t.look q := Node.look_listed l [] h.root q

end FileTree

end AccessorGen
