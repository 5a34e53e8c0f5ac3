import AccessorGen.Proofs.Render.ModuleChain
import Mathlib.Data.List.Pairwise
import Mathlib.Data.List.Sort
import Mathlib.Data.String.Basic

/-! A tree of modules is determined by what it declares. Directories and names stand in strict
order, and a directory has one spelling, so insertions of the same companions make the same tree:
which of them has come first, and how often each has come, is forgotten. -/

namespace AccessorGen

namespace ModuleTree

theorem pairwise_addName (name : String) {ns : List String} (h : ns.Pairwise (· < ·)) :
    (addName name ns).Pairwise (· < ·) := by
  induction ns with
  | nil => simp [addName]
  | cons n ns ih =>
    obtain ⟨hfirst, hrest⟩ := List.pairwise_cons.1 h
    unfold addName
    split
    · exact h
    next hne =>
      split
      next hlt =>
        refine List.pairwise_cons.2 ⟨fun m hm => ?_, h⟩
        rcases List.mem_cons.1 hm with rfl | hm
        · exact hlt
        · exact hlt.trans (hfirst m hm)
      next hlt =>
        have hafter : n < name := lt_of_le_of_ne (not_lt.1 hlt) (Ne.symm hne)
        refine List.pairwise_cons.2 ⟨fun m hm => ?_, ih hrest⟩
        rcases mem_addName.1 hm with rfl | hm
        · exact hafter
        · exact hfirst m hm

def NamesOrdered (t : ModuleTree) : Prop := ∀ e ∈ t.dirs, e.2.Pairwise (· < ·)

theorem namesOrdered_insertAll (xs : List (Namespace × String)) :
    (insertAll xs .empty).NamesOrdered := by
  refine insertAll_keeps (fun t dir name h => ?_) (by simp [NamesOrdered, empty]) xs
  exact forall_declareIn (by simp) (fun _ _ => pairwise_addName name) h

theorem not_before_self (e : Path × List String) : ¬Before e e :=
  fun h => h.2 (Path.same_iff_components.2 rfl)

theorem Before.asymm {a b : Path × List String} (h : Before a b) : ¬Before b a :=
  fun k => h.2 (Path.same_of_le_of_le h.1 k.1)

instance : Std.Irrefl Before := ⟨not_before_self⟩

instance : Std.Antisymm Before := ⟨fun _ _ h k => absurd k h.asymm⟩

theorem Ordered.entry_unique {t : ModuleTree} (h : t.Ordered) {a b : Path × List String}
    (ha : a ∈ t.dirs) (hb : b ∈ t.dirs) (hsame : a.1.components = b.1.components) : a = b := by
  have hsymm : Std.Symm fun a b : Path × List String => a.1.components = b.1.components → a = b :=
    ⟨fun _ _ h e => (h e.symm).symm⟩
  have hapart : t.dirs.Pairwise fun a b => a.1.components = b.1.components → a = b :=
    h.before.imp fun hab e => absurd (Path.same_iff_components.2 e) hab.2
  exact hapart.forall_of_forall (fun _ _ _ => rfl) ha hb hsame

theorem Ordered.lists_iff {t : ModuleTree} (h : t.Ordered) {e : Path × List String}
    (he : e ∈ t.dirs) {n : String} : Lists t.dirs e.1.components n ↔ n ∈ e.2 := by
  constructor
  · rintro ⟨f, hf, hsame, hn⟩
    rwa [← h.entry_unique hf he hsame]
  · exact fun hn => ⟨e, he, rfl, hn⟩

section Same

variable {xs ys : List (Namespace × String)} (hxy : ∀ x, x ∈ xs ↔ x ∈ ys)
  (hproper : ∀ x ∈ xs, ProperInsertion x)

include hxy

theorem lists_insertAll_congr {cs : List Component} {n : String} :
    Lists (insertAll xs .empty).dirs cs n ↔ Lists (insertAll ys .empty).dirs cs n := by
  simp only [lists_insertAll, hxy]

include hproper

theorem mem_paths_congr {d : Path} :
    d ∈ (insertAll xs .empty).paths ↔ d ∈ (insertAll ys .empty).paths := by
  rw [mem_paths_iff hproper, mem_paths_iff fun y hy => hproper y ((hxy y).2 hy)]
  simp only [hxy]

theorem mem_dirs_of_mem_dirs {e : Path × List String} (he : e ∈ (insertAll xs .empty).dirs) :
    e ∈ (insertAll ys .empty).dirs := by
  obtain ⟨f, hf, hdir⟩ := List.mem_map.1 ((mem_paths_congr hxy hproper).1 (List.mem_map_of_mem he))
  have hnames : e.2 = f.2 := by
    refine (namesOrdered_insertAll xs e he).eq_of_mem_iff (namesOrdered_insertAll ys f hf)
      fun n => ?_
    rw [← (ordered_empty.insertAll xs).lists_iff he, ← (ordered_empty.insertAll ys).lists_iff hf,
      hdir]
    exact lists_insertAll_congr hxy
  rwa [show e = f from Prod.ext hdir.symm hnames]

theorem insertAll_congr : insertAll xs .empty = insertAll ys .empty := by
  have hdirs : (insertAll xs .empty).dirs = (insertAll ys .empty).dirs :=
    (ordered_empty.insertAll xs).before.eq_of_mem_iff (ordered_empty.insertAll ys).before fun _ =>
      ⟨mem_dirs_of_mem_dirs hxy hproper, mem_dirs_of_mem_dirs (fun x => (hxy x).symm)
        fun y hy => hproper y ((hxy y).2 hy)⟩
  exact ModuleTree.mk.injEq _ _ ▸ hdirs

end Same

end ModuleTree

end AccessorGen
