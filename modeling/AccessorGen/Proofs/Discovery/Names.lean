import AccessorGen.Discovery.Folder
import AccessorGen.Proofs.File.Components
import AccessorGen.Proofs.Output.Places

/-! Names of discovered declarations. Segments of a namespace come from the components of a path
below the source directory and from the words of the source text, and neither holds a slash. -/

namespace AccessorGen

namespace Source

def Lexeme.isOutside (c : Char) : Bool := !isStart c && !Text.isWordContinue c && c != '#'

theorem Lexeme.not_mem_bareWord {c : Char} (hc : isOutside c = true) {s w rest : List Char}
    (h : bareWord s = some (w, rest)) : c ∉ w := by
  simp only [isOutside, Bool.and_eq_true, Bool.not_eq_true'] at hc
  cases s with
  | nil => cases h
  | cons d r =>
    simp only [bareWord] at h
    split at h
    next hd =>
      obtain ⟨rfl, -⟩ := Prod.mk.inj (Option.some.inj h)
      rw [List.mem_cons, not_or]
      constructor
      · rintro rfl
        rw [hc.1.1] at hd
        cases hd
      · intro hmem
        have hword := List.all_eq_true.1 List.all_takeWhile _ hmem
        rw [hc.1.2] at hword
        cases hword
    · cases h

theorem Word.not_mem (w : Word) {c : Char} (hc : Lexeme.isOutside c = true) :
    c ∉ w.text.toList := by
  have h := w.isWord
  unfold Lexeme.plainWord at h
  split at h
  · cases h
  · unfold Lexeme.word at h
    split at h
    next r heq =>
      split at h
      next v rest hv =>
        split at h
        · cases h
        · obtain ⟨hw, -⟩ := Prod.mk.inj (Option.some.inj h)
          rw [← hw, List.mem_cons, List.mem_cons, not_or, not_or]
          refine ⟨?_, ?_, Lexeme.not_mem_bareWord hc hv⟩
          · rintro rfl
            exact absurd hc (by decide)
          · rintro rfl
            exact absurd hc (by decide)
      · cases h
    · exact Lexeme.not_mem_bareWord hc h

theorem Word.not_mem_plain (w : Word) {c : Char} (hc : Lexeme.isOutside c = true) :
    c ∉ (Text.plainWord w).toList := by
  rw [Text.toList_plainWord, Text.without]
  split
  · exact fun h => w.not_mem hc (List.mem_of_mem_drop h)
  · exact w.not_mem hc

end Source

def Namespace.SlashFree (ns : Namespace) : Prop := ∀ s ∈ ns.segments, '/' ∉ s.toList

theorem slash_not_mem_cutName {s : List Char} (h : '/' ∉ s) : '/' ∉ (Path.cutName s).1 := by
  unfold Path.cutName
  dsimp only
  split
  · exact fun hmem => h (List.mem_of_mem_take hmem)
  · exact h

theorem slashFree_below {below : Path} (h : below.IsRelative) :
    (∀ s ∈ stemSegments below, '/' ∉ s.toList) ∧
    ∀ dir, below.parent = some dir →
      ∀ s ∈ dir.components.map (fun c => String.ofList c.text), '/' ∉ s.toList := by
  constructor
  · intro s hs
    unfold stemSegments Path.stem Path.fileName at hs
    cases hlast : below.components.getLast? with
    | none => simp [hlast] at hs
    | some c =>
      have hc := Path.slash_not_mem_of_isRelative h c (List.mem_of_getLast? hlast)
      cases c with
      | name piece =>
        simp only [hlast, Option.map_some] at hs
        split at hs
        · cases hs
        · obtain rfl := List.mem_singleton.1 hs
          rw [String.toList_ofList]
          exact slash_not_mem_cutName hc
      | top => simp [hlast] at hs
      | here => simp [hlast] at hs
      | up => simp [hlast] at hs
  · intro dir hdir s hs
    obtain ⟨c, hc, rfl⟩ := List.mem_map.1 hs
    rw [String.toList_ofList]
    exact Path.slash_not_mem_of_isRelative (Path.isRelative_parent h hdir) c hc

def Path.IsBelow (root p : Path) : Prop :=
  ∃ names : List String, (∀ s ∈ names, isEntryName s = true) ∧ p = names.foldl Path.push root

theorem slashFree_moduleNamespace {root file : Path} (hfile : root.IsBelow file) :
    (moduleNamespace root file).SlashFree := by
  obtain ⟨names, h, rfl⟩ := hfile
  have hfront : root.components <+: (names.foldl Path.push root).components := by
    rw [Path.components_pushAll h]
    exact List.prefix_append _ _
  have hempty : root.components = [] → (names.foldl Path.push root).IsRelative := by
    intro hnil
    refine Path.isRelative_pushAll (fun s hs => slash_not_mem_of_isEntryName (h s hs)) ?_
    rw [Path.IsRelative, Path.text_of_components_nil hnil]
    simp
  obtain ⟨below, hbelow, hrel⟩ := Path.exists_relativeTo hfront hempty
  obtain ⟨hstem, hdirs⟩ := slashFree_below hrel
  intro s hs
  rw [moduleNamespace, hbelow, Option.getD_some] at hs
  rcases List.mem_append.1 hs with hs | hs
  · split at hs
    next dir hdir => exact hdirs dir hdir s hs
    · cases hs
  · exact hstem s hs

mutual

/-- Whether all entries below a node have names that entries may have. -/
def Node.wellNamed : Node → Bool
  | .file _ => true
  | .dir entries => wellNamedAll entries

def Node.wellNamedAll : List (String × Node) → Bool
  | [] => true
  | (s, n) :: rest => isEntryName s && n.wellNamed && wellNamedAll rest

end

mutual

theorem Node.sources_below {root at_ : Path} (hat : root.IsBelow at_) {n : Node}
    (h : n.wellNamed = true) : ∀ f ∈ n.sources at_, root.IsBelow f.1 := by
  intro f hf
  cases n with
  | file c =>
    unfold Node.sources at hf
    split at hf
    · obtain rfl := List.mem_singleton.1 hf
      exact hat
    · cases hf
  | dir entries => exact sourcesAll_below hat h f hf

theorem Node.sourcesAll_below {root at_ : Path} (hat : root.IsBelow at_)
    {entries : List (String × Node)} (h : wellNamedAll entries = true) :
    ∀ f ∈ sourcesAll at_ entries, root.IsBelow f.1 := by
  intro f hf
  match entries with
  | [] => cases hf
  | (s, n) :: rest =>
    simp only [Node.wellNamedAll, Bool.and_eq_true] at h
    obtain ⟨⟨hs, hn⟩, hrest⟩ := h
    rw [Node.sourcesAll, List.mem_append] at hf
    rcases hf with hf | hf
    · obtain ⟨names, hnames, rfl⟩ := hat
      refine Node.sources_below ⟨names ++ [s], ?_, by simp⟩ hn f hf
      simpa [or_imp, forall_and] using ⟨hnames, hs⟩
    · exact Node.sourcesAll_below hat hrest f hf

end

def Declaration.SlashFree (d : Declaration) : Prop :=
  d.space.SlashFree ∧ (d.kind.isClass = true → '/' ∉ d.name.toList)

theorem Declaration.slashFree_of_kind {d : Declaration} (h : d.space.SlashFree)
    (hkind : d.kind ≠ .class) : d.SlashFree :=
  ⟨h, fun hclass => absurd (by simpa [DeclarationKind.isClass] using hclass) hkind⟩

namespace Source

theorem Definition.slashFree {ns : Namespace} (h : ns.SlashFree) (d : Definition) :
    (d.declaration ns).SlashFree := by
  cases d with
  | struct name fields =>
    cases fields <;> exact ⟨h, fun _ => name.not_mem_plain (by decide)⟩
  | macroCall name => cases name <;> exact Declaration.slashFree_of_kind h nofun
  | _ => exact Declaration.slashFree_of_kind h nofun

theorem Item.slashFree {ns : Namespace} (h : ns.SlashFree) (i : Item) :
    (i.declaration ns).SlashFree := by
  cases i with
  | module marks name items => exact Declaration.slashFree_of_kind h nofun
  | single marks d => exact d.slashFree h

end Source

open Source

theorem slashFree_withInherent (items : List Item) {d : Declaration} (h : d.SlashFree) :
    (withInherent items d).SlashFree := by
  unfold withInherent
  split
  · exact h
  · exact h

theorem slashFree_child {ns : Namespace} (h : ns.SlashFree) (w : Word) :
    (ns.child (Text.plainWord w)).SlashFree := by
  intro s hs
  rw [Namespace.segments_child, List.mem_append, List.mem_singleton] at hs
  rcases hs with hs | rfl
  · exact h s hs
  · exact w.not_mem_plain (by decide)

theorem slashFree_ownDeclaration (marker : String) (siblings : List Item) {ns : Namespace}
    (h : ns.SlashFree) (i : Item) :
    ∀ d ∈ ownDeclaration marker siblings ns i, d.SlashFree := by
  intro d hd
  unfold ownDeclaration at hd
  split at hd
  · obtain rfl := List.mem_singleton.1 hd
    exact slashFree_withInherent siblings (i.slashFree h)
  · cases hd

mutual

theorem slashFree_scanItem (marker : String) (siblings : List Item) {ns : Namespace}
    (h : ns.SlashFree) (i : Item) : ∀ d ∈ scanItem marker siblings ns i, d.SlashFree := by
  intro d hd
  cases i with
  | module marks name items =>
    rw [scanItem, List.mem_append] at hd
    rcases hd with hd | hd
    · exact slashFree_ownDeclaration marker siblings h _ d hd
    · exact slashFree_scanAmong marker items (slashFree_child h name) items d hd
  | single marks definition =>
    rw [scanItem] at hd
    exact slashFree_ownDeclaration marker siblings h _ d hd

theorem slashFree_scanAmong (marker : String) (siblings : List Item) {ns : Namespace}
    (h : ns.SlashFree) (items : List Item) :
    ∀ d ∈ scanAmong marker siblings ns items, d.SlashFree := by
  intro d hd
  match items with
  | [] => cases hd
  | i :: rest =>
    rw [scanAmong, List.mem_append] at hd
    rcases hd with hd | hd
    · exact slashFree_scanItem marker siblings h i d hd
    · exact slashFree_scanAmong marker siblings h rest d hd

end

theorem slashFree_fileDeclarations {root path : Path} {marker : String} {c : Content}
    {ds : List Declaration} (hpath : root.IsBelow path)
    (h : fileDeclarations root marker path c = .ok ds) : ∀ d ∈ ds, d.SlashFree := by
  cases c with
  | binary bytes => cases h
  | text s =>
    simp only [fileDeclarations, SourceText.declarations, bind, Except.bind] at h
    split at h
    · cases h
    · obtain rfl := Except.ok.inj h
      exact slashFree_scanAmong marker _ (slashFree_moduleNamespace hpath) _

theorem slashFree_filesDeclarations {root : Path} {marker : String}
    {files : List (Path × Content)} {ds : List Declaration}
    (hfiles : ∀ f ∈ files, root.IsBelow f.1)
    (h : filesDeclarations root marker files = .ok ds) : ∀ d ∈ ds, d.SlashFree := by
  induction files generalizing ds with
  | nil =>
    obtain rfl := Except.ok.inj h
    simp
  | cons f files ih =>
    obtain ⟨path, c⟩ := f
    simp only [filesDeclarations, bind, Except.bind] at h
    split at h
    · cases h
    next found hfound =>
      split at h
      · cases h
      next more hmore =>
        obtain rfl := Except.ok.inj h
        intro d hd
        rcases List.mem_append.1 hd with hd | hd
        · exact slashFree_fileDeclarations (hfiles (path, c) List.mem_cons_self) hfound d hd
        · exact ih (fun f hf => hfiles f (List.mem_cons_of_mem _ hf)) hmore d hd

theorem Node.wellNamed_of_lookup {entries : List (String × Node)} {s : String} {n : Node}
    (h : wellNamedAll entries = true) (hn : entries.lookup s = some n) : n.wellNamed = true := by
  induction entries with
  | nil => cases hn
  | cons e entries ih =>
    obtain ⟨u, m⟩ := e
    simp only [wellNamedAll, Bool.and_eq_true] at h
    rw [List.lookup_cons] at hn
    split at hn
    · obtain rfl := Option.some.inj hn
      exact h.1.2
    · exact ih h.2 hn

theorem Node.wellNamed_get {n m : Node} {place : Place} (h : n.wellNamed = true)
    (hget : n.get place = some m) : m.wellNamed = true := by
  induction place generalizing n with
  | nil =>
    obtain rfl := Option.some.inj hget
    exact h
  | cons s place ih =>
    cases n with
    | file c => cases hget
    | dir entries =>
      rw [Node.get, Option.bind_eq_some_iff] at hget
      obtain ⟨child, hchild, hget⟩ := hget
      exact ih (Node.wellNamed_of_lookup h hchild) hget

theorem wellNamed_of_find {t : FileTree} {p : Path} {n : Node} (ht : t.root.wellNamed = true)
    (h : t.find p = .ok n) : n.wellNamed = true := by
  unfold FileTree.find at h
  simp only [bind, Except.bind] at h
  split at h
  · cases h
  · split at h
    · split at h
      · cases h
      · obtain rfl := Except.ok.inj h
        rfl
    next hn =>
      obtain rfl := Except.ok.inj h
      exact Node.wellNamed_get ht hn
    · cases h

theorem slashFree_discover {t : FileTree} {root : Path} {marker : String}
    {ds : List Declaration} (ht : t.root.wellNamed = true)
    (h : discover t root marker = .ok ds) : ∀ d ∈ ds, d.SlashFree := by
  unfold discover at h
  split at h
  next entries hfind =>
    refine slashFree_filesDeclarations (fun f hf => ?_) h
    have hmem : f ∈ Node.sourcesAll root entries := (List.mergeSort_perm _ _).mem_iff.1 hf
    exact Node.sourcesAll_below ⟨[], by simp, rfl⟩ (wellNamed_of_find ht hfind) f hmem
  · cases h

end AccessorGen
