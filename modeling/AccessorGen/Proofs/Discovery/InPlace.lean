import AccessorGen.Discovery.SourceFile
import AccessorGen.Proofs.Discovery.Scan
import AccessorGen.Proofs.Source.Equality
import Mathlib.Data.List.Forall2
import Mathlib.Data.List.Perm.Subperm

/-! Where declarations come from. An item of a file has an address: its index among the items of the
file, or that of a module there and behind it its address in the module. By their order as words in
a dictionary the addresses stand in source order, those inside a module right behind the module. The
scan finds one declaration for each annotated item in this order. Items that are kept only as their
tokens are not looked at; so what it finds is all that carries the marker unless one of them
does. -/

namespace AccessorGen

open Source

namespace Source

/-- The item at an address of an item, with the plain names of the modules that it lies in. -/
inductive Item.Located : Item → List Nat → List String → Item → Prop
  | here (i : Item) : Located i [] [] i
  | inside {marks : List String} {name : Word} {items : List Item} {n : Nat} {j : Item}
    {address : List Nat} {names : List String} {i : Item} (index : items[n]? = some j)
    (below : Located j address names i) :
    Located (.module marks name items) (n :: address) (Text.plainWord name :: names) i

/-- The item at an address of a file. -/
inductive At (items : List Item) : List Nat → List String → Item → Prop
  | at {n : Nat} {j : Item} {address : List Nat} {names : List String} {i : Item}
    (index : items[n]? = some j) (below : j.Located address names i) :
    At items (n :: address) names i

theorem Item.Located.unique {i j k : Item} {a : List Nat} {names names' : List String}
    (h : i.Located a names j) (h' : i.Located a names' k) : names = names' ∧ j = k := by
  induction h generalizing names' with
  | here i => cases h'; exact ⟨rfl, rfl⟩
  | inside index below ih =>
    cases h' with
    | inside index' below' =>
      obtain rfl := Option.some.inj (index.symm.trans index')
      obtain ⟨rfl, rfl⟩ := ih below'
      exact ⟨rfl, rfl⟩

theorem At.unique {items : List Item} {j k : Item} {a : List Nat} {names names' : List String}
    (h : At items a names j) (h' : At items a names' k) : names = names' ∧ j = k := by
  cases h with
  | «at» index below =>
    cases h' with
    | «at» index' below' =>
      obtain rfl := Option.some.inj (index.symm.trans index')
      exact below.unique below'

theorem Item.located_single_iff {marks : List String} {d : Definition} {a : List Nat}
    {names : List String} {j : Item} :
    (Item.single marks d).Located a names j ↔ a = [] ∧ names = [] ∧ j = .single marks d := by
  constructor
  · rintro ⟨⟩
    exact ⟨rfl, rfl, rfl⟩
  · rintro ⟨rfl, rfl, rfl⟩
    exact .here _

theorem Item.located_module_iff {marks : List String} {name : Word} {items : List Item}
    {a : List Nat} {names : List String} {j : Item} :
    (Item.module marks name items).Located a names j ↔
      (a = [] ∧ names = [] ∧ j = .module marks name items) ∨
      ∃ below, names = Text.plainWord name :: below ∧ At items a below j := by
  constructor
  · rintro (_ | ⟨index, below⟩)
    · exact .inl ⟨rfl, rfl, rfl⟩
    · exact .inr ⟨_, rfl, .at index below⟩
  · rintro (⟨rfl, rfl, rfl⟩ | ⟨below, rfl, ⟨index, hbelow⟩⟩)
    · exact .here _
    · exact .inside index hbelow

section Lists

variable {i j : Item} {rest : List Item} {a : List Nat} {names : List String} {k : Nat}

theorem not_at_nil : ¬At [] a names j := by
  rintro ⟨index, -⟩
  simp at index

theorem at_zero_iff : At (i :: rest) (0 :: a) names j ↔ i.Located a names j := by
  constructor
  · rintro ⟨index, below⟩
    obtain rfl := Option.some.inj index
    exact below
  · exact fun h => .at rfl h

theorem at_succ_iff : At (i :: rest) ((k + 1) :: a) names j ↔ At rest (k :: a) names j := by
  constructor
  · rintro ⟨index, below⟩
    exact .at (by simpa using index) below
  · rintro ⟨index, below⟩
    exact .at (by simpa using index) below

end Lists

end Source

section Addresses

variable (p : Item → Bool)

def ownAddress (i : Item) : List (List Nat) := if p i then [[]] else []

mutual

def addressesOf : Item → List (List Nat)
  | .module marks name items => ownAddress p (.module marks name items) ++ addressesAmong 0 items
  | .single marks d => ownAddress p (.single marks d)

def addressesAmong (n : Nat) : List Item → List (List Nat)
  | [] => []
  | i :: rest => (addressesOf i).map (n :: ·) ++ addressesAmong (n + 1) rest

end

theorem mem_ownAddress {i : Item} {a : List Nat} :
    a ∈ ownAddress p i ↔ a = [] ∧ p i = true := by
  unfold ownAddress
  split <;> simp_all

theorem pairwise_ownAddress (i : Item) : (ownAddress p i).Pairwise (· < ·) := by
  unfold ownAddress
  split
  · exact List.pairwise_singleton _ _
  · exact .nil

mutual

theorem mem_addressesOf (i : Item) {a : List Nat} :
    a ∈ addressesOf p i ↔ ∃ names j, i.Located a names j ∧ p j = true := by
  cases i with
  | single marks d =>
    simp only [addressesOf, mem_ownAddress, Item.located_single_iff]
    constructor
    · rintro ⟨rfl, hp⟩
      exact ⟨_, _, ⟨rfl, rfl, rfl⟩, hp⟩
    · rintro ⟨_, _, ⟨rfl, rfl, rfl⟩, hp⟩
      exact ⟨rfl, hp⟩
  | module marks name items =>
    simp only [addressesOf, List.mem_append, mem_ownAddress, mem_addressesAmong 0 items,
      Nat.zero_add, Item.located_module_iff]
    constructor
    · rintro (⟨rfl, hp⟩ | ⟨k, r, rfl, names, j, h, hp⟩)
      · exact ⟨_, _, .inl ⟨rfl, rfl, rfl⟩, hp⟩
      · exact ⟨_, j, .inr ⟨names, rfl, h⟩, hp⟩
    · rintro ⟨_, j, (⟨rfl, rfl, rfl⟩ | ⟨names, rfl, ⟨index, h⟩⟩), hp⟩
      · exact .inl ⟨rfl, hp⟩
      · exact .inr ⟨_, _, rfl, names, j, .at index h, hp⟩

theorem mem_addressesAmong (n : Nat) (items : List Item) {a : List Nat} :
    a ∈ addressesAmong p n items ↔ ∃ k r, a = (n + k) :: r ∧
      ∃ names j, At items (k :: r) names j ∧ p j = true := by
  match items with
  | [] => simp [addressesAmong, not_at_nil]
  | i :: rest =>
    simp only [addressesAmong, List.mem_append, List.mem_map, mem_addressesOf i,
      mem_addressesAmong (n + 1) rest]
    constructor
    · rintro (⟨r, ⟨names, j, h, hp⟩, rfl⟩ | ⟨k, r, rfl, names, j, h, hp⟩)
      · exact ⟨0, r, rfl, names, j, at_zero_iff.2 h, hp⟩
      · exact ⟨k + 1, r, by rw [Nat.add_right_comm, Nat.add_assoc], names, j, at_succ_iff.2 h, hp⟩
    · rintro ⟨k, r, rfl, names, j, h, hp⟩
      cases k with
      | zero => exact .inl ⟨r, ⟨names, j, at_zero_iff.1 h, hp⟩, rfl⟩
      | succ k =>
        exact .inr ⟨k, r, by rw [Nat.add_right_comm, Nat.add_assoc], names, j, at_succ_iff.1 h, hp⟩

end

mutual

theorem pairwise_addressesOf (i : Item) : (addressesOf p i).Pairwise (· < ·) := by
  cases i with
  | single marks d =>
    rw [addressesOf]
    exact pairwise_ownAddress p _
  | module marks name items =>
    rw [addressesOf, List.pairwise_append]
    refine ⟨pairwise_ownAddress p _, pairwise_addressesAmong 0 items, fun a ha b hb => ?_⟩
    obtain ⟨rfl, -⟩ := (mem_ownAddress p).1 ha
    obtain ⟨k, r, rfl, -⟩ := (mem_addressesAmong p _ _).1 hb
    exact List.nil_lt_cons _ _

theorem pairwise_addressesAmong (n : Nat) (items : List Item) :
    (addressesAmong p n items).Pairwise (· < ·) := by
  match items with
  | [] => exact .nil
  | i :: rest =>
    rw [addressesAmong, List.pairwise_append]
    refine ⟨?_, pairwise_addressesAmong (n + 1) rest, ?_⟩
    · exact (pairwise_addressesOf i).map _ fun a b h => List.cons_lt_cons_iff.2 (.inr ⟨rfl, h⟩)
    · intro a ha b hb
      obtain ⟨r, -, rfl⟩ := List.mem_map.1 ha
      obtain ⟨k, r', rfl, -⟩ := (mem_addressesAmong p _ _).1 hb
      exact List.cons_lt_cons_iff.2 (.inl (by omega))

end

end Addresses

def Namespace.descend (space : Namespace) (names : List String) : Namespace :=
  ⟨space.segments ++ names⟩

@[simp] theorem Namespace.descend_nil (space : Namespace) : space.descend [] = space := by
  rw [descend, List.append_nil]

@[simp] theorem Namespace.descend_cons (space : Namespace) (name : String) (names : List String) :
    space.descend (name :: names) = (space.child name).descend names := by
  rw [descend, descend, segments_child, List.append_assoc]
  rfl

/-- A declaration is that of an item in a namespace. For a struct with named fields its fields are
those in order, with plain names and references for types. -/
structure StandsFor (d : Declaration) (i : Item) (space : Namespace) : Prop where
  place : d.space = space
  name : d.name = (i.declaration space).name
  kind : d.kind = (i.declaration space).kind
  fields : ∀ marks name fields, i = .single marks (.struct name (.named fields)) →
    d.members.filter Member.isField =
      fields.map fun f => ⟨Text.plainWord f.1, .field f.2.reference⟩

theorem standsFor_withInherent (siblings : List Item) (space : Namespace) (i : Item) :
    StandsFor (withInherent siblings (i.declaration space)) i space := by
  obtain ⟨members, hd, -⟩ := withInherent_eq siblings (i.declaration space)
  refine ⟨?_, by rw [hd], by rw [hd], ?_⟩
  · rw [hd]
    exact declaration_space space i
  · rintro marks name fields rfl
    rw [fields_withInherent]
    refine List.filter_eq_self.2 fun m hm => ?_
    obtain ⟨f, -, rfl⟩ := List.mem_map.1 hm
    rfl

section Scans

variable {marker : String}

theorem declared_own (siblings : List Item) (space : Namespace) (i : Item) :
    List.Forall₂ (fun a d => ∃ names j, i.Located a names j ∧
      StandsFor d j (space.descend names)) (ownAddress (isAnnotated marker) i)
      (ownDeclaration marker siblings space i) := by
  unfold ownAddress ownDeclaration
  split
  · refine .cons ⟨[], i, .here i, ?_⟩ .nil
    rw [Namespace.descend_nil]
    exact standsFor_withInherent siblings space i
  · exact .nil

mutual

theorem declared_scanItem (siblings : List Item) (space : Namespace) (i : Item) :
    List.Forall₂ (fun a d => ∃ names j, i.Located a names j ∧
      StandsFor d j (space.descend names)) (addressesOf (isAnnotated marker) i)
      (scanItem marker siblings space i) := by
  cases i with
  | single marks d =>
    rw [addressesOf, scanItem]
    exact declared_own siblings space _
  | module marks name items =>
    rw [addressesOf, scanItem]
    refine List.rel_append (declared_own siblings space _) ?_
    refine (declared_scanAmong items (space.child (Text.plainWord name)) 0 items).imp ?_
    rintro a d ⟨k, r, rfl, names, j, h, hd⟩
    rw [Nat.zero_add]
    exact ⟨_, j, Item.located_module_iff.2 (.inr ⟨names, rfl, h⟩), by simpa using hd⟩

theorem declared_scanAmong (siblings : List Item) (space : Namespace) (n : Nat)
    (items : List Item) : List.Forall₂ (fun a d => ∃ k r, a = (n + k) :: r ∧
      ∃ names j, At items (k :: r) names j ∧ StandsFor d j (space.descend names))
      (addressesAmong (isAnnotated marker) n items) (scanAmong marker siblings space items) := by
  match items with
  | [] => exact .nil
  | i :: rest =>
    rw [addressesAmong, scanAmong]
    refine List.rel_append ?_ ?_
    · rw [List.forall₂_map_left_iff]
      refine (declared_scanItem siblings space i).imp ?_
      rintro a d ⟨names, j, h, hd⟩
      exact ⟨0, a, rfl, names, j, at_zero_iff.2 h, hd⟩
    · refine (declared_scanAmong siblings space (n + 1) rest).imp ?_
      rintro a d ⟨k, r, rfl, names, j, h, hd⟩
      exact ⟨k + 1, r, by rw [Nat.add_right_comm, Nat.add_assoc], names, j, at_succ_iff.2 h, hd⟩

end

variable {siblings : List Item} {space : Namespace}

theorem addressesAmong_append (p : Item → Bool) (n : Nat) (before after : List Item) :
    addressesAmong p n (before ++ after) =
      addressesAmong p n before ++ addressesAmong p (n + before.length) after := by
  induction before generalizing n with
  | nil => rfl
  | cons i before ih =>
    rw [List.cons_append, addressesAmong, addressesAmong, ih, List.append_assoc, List.length_cons,
      Nat.add_assoc, Nat.add_comm 1]

def Holds (marker : String) (j : Item) (a : List Nat) (space : Namespace) (as : List (List Nat))
    (ds : List Declaration) : Prop :=
  ∃ siblings first last before after,
    as = first ++ ((addressesOf (isAnnotated marker) j).map (a ++ ·) ++ last) ∧
    ds = before ++ (scanItem marker siblings space j ++ after) ∧ first.length = before.length

namespace Holds

variable {j : Item} {a : List Nat} {as : List (List Nat)} {ds : List Declaration}

theorem self (siblings : List Item) (space : Namespace) (j : Item) :
    Holds marker j [] space (addressesOf (isAnnotated marker) j)
      (scanItem marker siblings space j) :=
  ⟨siblings, [], [], [], [], by simp, by simp, rfl⟩

theorem map_cons (h : Holds marker j a space as ds) (n : Nat) :
    Holds marker j (n :: a) space (as.map (n :: ·)) ds := by
  obtain ⟨siblings, first, last, before, after, rfl, hds, hlength⟩ := h
  exact ⟨siblings, first.map (n :: ·), last.map (n :: ·), before, after, by simp, hds,
    by rw [List.length_map, hlength]⟩

theorem append (h : Holds marker j a space as ds) {front : List (List Nat)}
    {front' : List Declaration} (hfront : front.length = front'.length) (back : List (List Nat))
    (back' : List Declaration) :
    Holds marker j a space (front ++ (as ++ back)) (front' ++ (ds ++ back')) := by
  obtain ⟨siblings, first, last, before, after, rfl, rfl, hlength⟩ := h
  exact ⟨siblings, front ++ first, last ++ back, front' ++ before, after ++ back', by simp, by simp,
    by rw [List.length_append, List.length_append, hfront, hlength]⟩

theorem of_index {items : List Item} {n : Nat} {i : Item} (index : items[n]? = some i)
    {siblings : List Item} {inner : Namespace}
    (h : Holds marker j a inner (addressesOf (isAnnotated marker) i)
      (scanItem marker siblings space i)) :
    Holds marker j (n :: a) inner (addressesAmong (isAnnotated marker) 0 items)
      (scanAmong marker siblings space items) := by
  -- Both lists are cut at the item; in front of it they have one length.
  obtain ⟨hn, rfl⟩ := List.getElem?_eq_some_iff.1 index
  have hitems : items = items.take n ++ items[n] :: items.drop (n + 1) := by simp
  have hfront : (addressesAmong (isAnnotated marker) 0 (items.take n)).length =
      (scanAmong marker siblings space (items.take n)).length :=
    (declared_scanAmong siblings space 0 (items.take n)).length_eq
  have hcount : 0 + (items.take n).length = n := by simp; omega
  generalize items[n] = i at *
  rw [hitems, addressesAmong_append, scanAmong_append, addressesAmong, scanAmong, hcount]
  exact (h.map_cons n).append hfront _ _

theorem of_located {i : Item} {names : List String} (h : i.Located a names j)
    (siblings : List Item) (space : Namespace) :
    Holds marker j a (space.descend names) (addressesOf (isAnnotated marker) i)
      (scanItem marker siblings space i) := by
  induction h generalizing siblings space with
  | here i => simpa using self siblings space i
  | @inside marks name items n j address names i index below ih =>
    have hinner := of_index index (ih items (space.child (Text.plainWord name)))
    have hown : (ownAddress (isAnnotated marker) (.module marks name items)).length =
        (ownDeclaration marker siblings space (.module marks name items)).length :=
      (declared_own siblings space _).length_eq
    rw [addressesOf, scanItem, Namespace.descend_cons]
    simpa using hinner.append hown [] []

theorem of_at (marker : String) {items : List Item} {names : List String}
    (h : At items a names j) (space : Namespace) :
    Holds marker j a (space.descend names) (addressesAmong (isAnnotated marker) 0 items)
      (scan marker space items) := by
  obtain ⟨index, below⟩ := h
  exact of_index index (of_located below items space)

end Holds

end Scans

/-- The scan of a file gives one declaration for each item that carries the marker, in the order of
the addresses and in the namespace of the module, and that of a module in front of those inside
it. -/
structure FoundAt (marker : String) (space : Namespace) (items : List Item)
    (carries : Item → Prop) (as : List (List Nat)) : Prop where
  sorted : as.Pairwise (· < ·)
  complete : ∀ a, a ∈ as ↔ ∃ names i, At items a names i ∧ carries i
  declared : List.Forall₂ (fun a d => ∃ names i, At items a names i ∧
    StandsFor d i (space.descend names)) as (scan marker space items)
  modules : ∀ a names marks name inside, At items a names (.module marks name inside) →
    carries (.module marks name inside) → ∃ before d after,
      scan marker space items = before ++
        d :: (scan marker ((space.descend names).child (Text.plainWord name)) inside ++ after) ∧
      as[before.length]? = some a ∧ StandsFor d (.module marks name inside) (space.descend names)

def FoundInPlace (marker : String) (space : Namespace) (items : List Item)
    (carries : Item → Prop) : Prop :=
  ∃ as, FoundAt marker space items carries as

/-- The last words of the paths of all attributes, also where they are not looked at. -/
def Source.Item.attributes : Item → List String
  | .module marks _ _ => marks
  | .single marks _ => marks

section Files

variable (marker : String) (space : Namespace) (items : List Item)

theorem foundAt_annotated : FoundAt marker space items (isAnnotated marker · = true)
    (addressesAmong (isAnnotated marker) 0 items) := by
  refine ⟨pairwise_addressesAmong _ 0 items, fun a => ?_, ?_, ?_⟩
  · rw [mem_addressesAmong]
    simp only [Nat.zero_add]
    constructor
    · rintro ⟨k, r, rfl, h⟩
      exact h
    · rintro ⟨names, i, ⟨index, below⟩, hi⟩
      exact ⟨_, _, rfl, names, i, .at index below, hi⟩
  · refine (declared_scanAmong items space 0 items).imp ?_
    rintro a d ⟨k, r, rfl, h⟩
    rwa [Nat.zero_add]
  · intro a names marks name inside h hmarked
    obtain ⟨siblings, first, last, before, after, has, hds, hlength⟩ :=
      Holds.of_at marker h space
    rw [addressesOf, ownAddress, if_pos hmarked] at has
    rw [scanItem, ownDeclaration, if_pos hmarked] at hds
    refine ⟨before, _, after, by simpa [scan] using hds, ?_, standsFor_withInherent siblings _ _⟩
    simp [has, ← hlength]

theorem mem_attributes_iff {i : Item} : marker ∈ i.attributes ↔
    isAnnotated marker i = true ∨ ∃ marks, i = .single marks .verbatim ∧ marker ∈ marks := by
  cases i with
  | module marks name inside => simp [isAnnotated, Item.marks, Item.attributes]
  | single marks d => cases d <;> simp [isAnnotated, Item.marks, Item.attributes]

theorem FoundAt.length_eq {carries : Item → Prop} {as : List (List Nat)}
    (h : FoundAt marker space items carries as) :
    as.length = (addressesAmong (isAnnotated marker) 0 items).length :=
  h.declared.length_eq.trans (foundAt_annotated marker space items).declared.length_eq.symm

theorem FoundAt.nodup {carries : Item → Prop} {as : List (List Nat)}
    (h : FoundAt marker space items carries as) : as.Nodup := by
  refine h.sorted.imp fun {a b} hlt e => ?_
  rw [e] at hlt
  exact List.lt_irrefl b hlt

theorem not_found_verbatim {a : List Nat} {names marks : List String}
    (h : At items a names (.single marks .verbatim)) :
    a ∉ addressesAmong (isAnnotated marker) 0 items := by
  intro hmem
  obtain ⟨names', i, hat, hi⟩ := ((foundAt_annotated marker .root items).complete a).1 hmem
  obtain ⟨-, rfl⟩ := h.unique hat
  simp [isAnnotated, Item.marks] at hi

/-- Where everything that carries the marker is found in place, no item that is kept only as its
tokens carries it. -/
theorem FoundInPlace.not_mem_marks (h : FoundInPlace marker space items (marker ∈ ·.attributes))
    {a : List Nat} {names marks : List String} (hat : At items a names (.single marks .verbatim)) :
    marker ∉ marks := by
  intro hmarks
  obtain ⟨as, h⟩ := h
  have hannotated := foundAt_annotated marker space items
  have hsub : addressesAmong (isAnnotated marker) 0 items ⊆ as := fun b hb => by
    obtain ⟨names', i, hat', hi⟩ := (hannotated.complete b).1 hb
    exact (h.complete b).2 ⟨names', i, hat', (mem_attributes_iff marker).2 (.inl hi)⟩
  have hmem : a ∈ as := (h.complete a).2 ⟨names, _, hat, hmarks⟩
  -- With its address there would be one address more than there are declarations.
  have hnodup : (a :: addressesAmong (isAnnotated marker) 0 items).Nodup :=
    List.nodup_cons.2 ⟨not_found_verbatim marker items hat, hannotated.nodup⟩
  have hle := (List.subperm_of_subset hnodup (List.cons_subset.2 ⟨hmem, hsub⟩)).length_le
  rw [List.length_cons, h.length_eq] at hle
  omega

/-- The scan finds what is annotated, once and in place. It finds in this way what carries the
marker exactly when no item that is kept only as its tokens carries it. -/
theorem foundInPlace_iff :
    FoundInPlace marker space items (isAnnotated marker · = true) ∧
    (FoundInPlace marker space items (marker ∈ ·.attributes) ↔
      ∀ a names marks, At items a names (.single marks .verbatim) → marker ∉ marks) := by
  refine ⟨⟨_, foundAt_annotated marker space items⟩,
    fun h a names marks hat => h.not_mem_marks marker space items hat, fun hnone => ?_⟩
  have hsame (a : List Nat) (names : List String) (i : Item) (hat : At items a names i) :
      marker ∈ i.attributes ↔ isAnnotated marker i = true := by
    rw [mem_attributes_iff]
    refine or_iff_left ?_
    rintro ⟨marks, rfl, hmarks⟩
    exact hnone a names marks hat hmarks
  obtain ⟨hsorted, hcomplete, hdeclared, hmodules⟩ := foundAt_annotated marker space items
  refine ⟨_, hsorted, fun a => ?_, hdeclared, ?_⟩
  · rw [hcomplete]
    exact exists₂_congr fun names i => and_congr_right fun hat => (hsame a names i hat).symm
  · intro a names marks name inside hat hmarked
    exact hmodules a names marks name inside hat ((hsame a names _ hat).1 hmarked)

end Files

/-- A marked import that has no readable form is not found. -/
theorem missed_import : ∃ items,
    SourceText.items ⟨"#[custom_lombok] use \x7b::std::mem\x7d;", "lib.rs"⟩ = .ok items ∧
    At items [0] [] (.single ["custom_lombok"] .verbatim) ∧
    scan "custom_lombok" .root items = [] ∧
    ¬FoundInPlace "custom_lombok" .root items ("custom_lombok" ∈ ·.attributes) := by
  have hread : (SourceText.items
      ⟨"#[custom_lombok] use \x7b::std::mem\x7d;", "lib.rs"⟩).toOption.map id =
        some [.single ["custom_lombok"] .verbatim] := by decide +kernel
  obtain ⟨_, hitems, rfl⟩ := exists_items hread
  have hat : At [.single ["custom_lombok"] .verbatim] [0] []
      (.single ["custom_lombok"] .verbatim) := .at rfl (.here _)
  exact ⟨_, hitems, hat, by rfl, fun h => h.not_mem_marks _ _ _ hat (by decide)⟩

end AccessorGen
