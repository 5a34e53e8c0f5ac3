import AccessorGen.Proofs.Discovery.Sources

/-! Texts that add nothing to a discovery: they are read without a fault and nothing in them is
annotated. Where two trees show the same files but at some places, and those of the one declare
nothing there, the other gives the same declarations exactly when its own declare nothing either. -/

namespace AccessorGen

open Source

mutual

def Source.Item.annotated (marker : String) : Item → Bool
  | .module marks name items =>
    isAnnotated marker (.module marks name items) || anyAnnotated marker items
  | .single marks d => isAnnotated marker (.single marks d)

def Source.anyAnnotated (marker : String) : List Item → Bool
  | [] => false
  | i :: rest => i.annotated marker || anyAnnotated marker rest

end

theorem ownDeclaration_eq_nil_iff {marker : String} {siblings : List Item} {space : Namespace}
    {i : Item} :
    ownDeclaration marker siblings space i = [] ↔ isAnnotated marker i = false := by
  unfold ownDeclaration
  split <;> simp [*]

mutual

theorem scanItem_eq_nil_iff {marker : String} {siblings : List Item} {space : Namespace}
    {i : Item} : scanItem marker siblings space i = [] ↔ i.annotated marker = false := by
  cases i with
  | module marks name items =>
    rw [scanItem, List.append_eq_nil_iff, ownDeclaration_eq_nil_iff, scanAmong_eq_nil_iff,
      Item.annotated, Bool.or_eq_false_iff]
  | single marks d => rw [scanItem, ownDeclaration_eq_nil_iff, Item.annotated]

theorem scanAmong_eq_nil_iff {marker : String} {siblings : List Item} {space : Namespace}
    {items : List Item} :
    scanAmong marker siblings space items = [] ↔ anyAnnotated marker items = false := by
  match items with
  | [] => simp [scanAmong, anyAnnotated]
  | i :: rest =>
    rw [scanAmong, List.append_eq_nil_iff, scanItem_eq_nil_iff, scanAmong_eq_nil_iff,
      anyAnnotated, Bool.or_eq_false_iff]

end

def DeclaresNothing (marker text : String) : Prop :=
  (SourceText.items ⟨text, ""⟩).toOption.any (fun items => !anyAnnotated marker items) = true

instance (marker text : String) : Decidable (DeclaresNothing marker text) :=
  inferInstanceAs (Decidable (_ = true))

theorem declaresNothing_iff {marker text : String} : DeclaresNothing marker text ↔
    ∃ items, SourceText.items ⟨text, ""⟩ = .ok items ∧ anyAnnotated marker items = false := by
  unfold DeclaresNothing
  cases SourceText.items ⟨text, ""⟩ <;> simp [Except.toOption]

theorem declarations_eq_nil_iff {marker text name : String} {space : Namespace} :
    SourceText.declarations ⟨text, name⟩ space marker = .ok [] ↔ DeclaresNothing marker text := by
  have hname : ∀ items, SourceText.items ⟨text, name⟩ = .ok items ↔
      SourceText.items ⟨text, ""⟩ = .ok items := by
    intro items
    have hparsed : SourceText.parsed ⟨text, name⟩ = SourceText.parsed ⟨text, ""⟩ := rfl
    cases hread : readText Source.items (SourceText.parsed ⟨text, ""⟩) with
    | ok found => simp [SourceText.items, hparsed, hread]
    | error e => simp [SourceText.items, hparsed, hread]
  rw [declaresNothing_iff, SourceText.declarations]
  simp only [bind, Except.bind, pure, Except.pure, scan]
  constructor
  · intro h
    split at h
    · cases h
    next items hitems =>
      exact ⟨items, (hname items).1 hitems, scanAmong_eq_nil_iff.1 (Except.ok.inj h)⟩
  · rintro ⟨items, hitems, hnone⟩
    rw [(hname items).2 hitems]
    exact congrArg Except.ok (scanAmong_eq_nil_iff.2 hnone)

def Content.Silent (marker : String) : Content → Prop
  | .text s => DeclaresNothing marker s
  | .binary _ => False

theorem fileDeclarations_eq_nil_iff {root path : Path} {marker : String} {c : Content} :
    fileDeclarations root marker path c = .ok [] ↔ c.Silent marker := by
  cases c with
  | text s => exact declarations_eq_nil_iff
  | binary bytes => simp [fileDeclarations, Content.Silent]

section Files

variable {root : Path} {marker : String} {files : List (Path × Content)}
  {p : Path × Content → Bool}

theorem filesDeclarations_filter
    (h : ∀ x ∈ files, p x = false → fileDeclarations root marker x.1 x.2 = .ok []) :
    filesDeclarations root marker (files.filter p) = filesDeclarations root marker files := by
  induction files with
  | nil => rfl
  | cons x files ih =>
    obtain ⟨hx, hrest⟩ := List.forall_mem_cons.1 h
    cases hk : p x with
    | true =>
      rw [List.filter_cons_of_pos hk, filesDeclarations, filesDeclarations, ih hrest]
    | false =>
      rw [List.filter_cons_of_neg (by simp [hk]), filesDeclarations, hx hk, ih hrest]
      cases filesDeclarations root marker files <;> rfl

theorem filesDeclarations_kept {ds : List Declaration}
    (h : filesDeclarations root marker files = .ok ds) :
    ∃ kept, filesDeclarations root marker (files.filter p) = .ok kept ∧
      kept.length ≤ ds.length ∧ (kept.length = ds.length →
        ∀ x ∈ files, p x = false → fileDeclarations root marker x.1 x.2 = .ok []) := by
  induction files generalizing ds with
  | nil => exact ⟨[], rfl, by simp, by simp⟩
  | cons x files ih =>
    simp only [filesDeclarations, bind, Except.bind] at h
    split at h
    · cases h
    next found hfound =>
      split at h
      · cases h
      next more hmore =>
        obtain rfl := Except.ok.inj h
        obtain ⟨kept, hkept, hle, hall⟩ := ih hmore
        rw [List.length_append]
        cases hk : p x with
        | true =>
          refine ⟨found ++ kept, ?_, by rw [List.length_append]; omega, fun heq => ?_⟩
          · rw [List.filter_cons_of_pos hk, filesDeclarations, hfound, hkept]
            rfl
          · rw [List.length_append] at heq
            refine List.forall_mem_cons.2 ⟨fun hno => ?_, hall (by omega)⟩
            rw [hk] at hno
            cases hno
        | false =>
          refine ⟨kept, by rwa [List.filter_cons_of_neg (by simp [hk])], by omega, fun heq => ?_⟩
          have hnil : found = [] := List.length_eq_zero_iff.1 (by omega)
          refine List.forall_mem_cons.2 ⟨fun _ => ?_, hall (by omega)⟩
          rw [hfound, hnil]

end Files

theorem discover_eq {t : FileTree} {root : Path} (h : t.isDir root = true) (marker : String) :
    discover t root marker = filesDeclarations root marker (t.sourceFiles root) := by
  obtain ⟨entries, hfind, -⟩ := FileTree.isDir_iff.1 h
  rw [discover, FileTree.sourceFiles, hfind]

theorem isDir_of_discover {t : FileTree} {root : Path} {marker : String} {ds : List Declaration}
    (h : discover t root marker = .ok ds) : t.isDir root = true := by
  unfold discover at h
  split at h
  next entries hfind => simp [FileTree.isDir, hfind, Node.isDir]
  · cases h

/-- The files at those of the places that lie below a directory add nothing to a discovery. -/
def SilentAt (marker : String) (root : Place) (ps : List Place) (t : FileTree) : Prop :=
  ∀ q ∈ ps, root <+: q → ∀ c, t.look q = some (.file c) → c.Silent marker

theorem silentAt_iff_look {marker : String} {root : Place} {ps : List Place} {t : FileTree} :
    SilentAt marker root ps t ↔ ∀ q ∈ ps, root <+: q → (match t.look q with
      | some (.file c) => c.Silent marker
      | _ => True) := by
  refine forall_congr' fun q => forall_congr' fun _ => forall_congr' fun _ => ?_
  split
  next c hc => simp [hc]
  next hother => exact ⟨fun _ => trivial, fun _ c hc => absurd hc (hother c)⟩

instance (marker : String) (c : Content) : Decidable (c.Silent marker) :=
  match c with
  | .text s => inferInstanceAs (Decidable (DeclaresNothing marker s))
  | .binary _ => .isFalse id

instance (marker : String) (root : Place) (ps : List Place) (t : FileTree) :
    Decidable (SilentAt marker root ps t) :=
  have (q : Place) : Decidable (match t.look q with
      | some (.file c) => c.Silent marker
      | _ => True) :=
    match t.look q with
    | some (.file c) => inferInstanceAs (Decidable (c.Silent marker))
    | some .dir => .isTrue trivial
    | none => .isTrue trivial
  decidable_of_iff _ silentAt_iff_look.symm

def IsSourcePlace (q : Place) : Prop :=
  ∃ stem : String, stem ≠ "" ∧ q.getLast? = some (stem ++ ".rs")

theorem ending_of_isSourcePlace (root : Path) {names : List String} {q : Place}
    (h : ∀ s ∈ names, isEntryName s = true) (hne : names ≠ []) (hq : IsSourcePlace (q ++ names)) :
    (names.foldl Path.push root).ending = some ['r', 's'] := by
  obtain ⟨stem, hstem, hlast⟩ := hq
  obtain ⟨front, last, rfl⟩ : ∃ front last, names = front ++ [last] :=
    ⟨_, _, (List.dropLast_append_getLast hne).symm⟩
  obtain rfl : last = stem ++ ".rs" := by simpa using hlast
  have hcut := cutName_source fun e => hstem (String.toList_eq_nil_iff.1 e)
  rw [Path.ending, Path.fileName, Path.components_pushAll h]
  simp [hcut]

section Trees

variable {t : FileTree} (ht : t.Sound) {ps : List Place} (hps : ∀ q ∈ ps, IsSourcePlace q)
  {root : Path} (hdir : t.isDir root = true)

include ht hps hdir

theorem silentAt_iff {marker : String} : SilentAt marker (root.place t.here) ps t ↔
    ∀ x ∈ t.sourceFiles root, x.1.place t.here ∈ ps → x.2.Silent marker := by
  constructor
  · intro h x hx hplace
    obtain ⟨hbelow, hlook⟩ := FileTree.place_sourceFile ht hdir hx
    exact h _ hplace hbelow _ hlook
  · rintro h q hq ⟨names, rfl⟩ c hlook
    have hne : names ≠ [] := by
      rintro rfl
      rw [List.append_nil, FileTree.look_of_isDir hdir] at hlook
      cases hlook
    have hnames : ∀ s ∈ names, isEntryName s = true := fun s hs =>
      Node.entryNames_of_look ht.root hlook s (List.mem_append_right _ hs)
    have hend := ending_of_isSourcePlace root hnames hne (hps _ hq)
    refine h (names.foldl Path.push root, c) ?_ ?_
    · exact (FileTree.mem_sourceFiles_iff ht hdir).2 ⟨names, rfl, hlook, hend⟩
    · rwa [FileTree.place_of_look ht hlook]

end Trees

/-- Where nothing at the places declared anything before, the same is discovered again exactly when
nothing there does afterwards. -/
theorem rediscover_iff {t u : FileTree} (ht : t.Sound) {ps : List Place}
    (hps : ∀ q ∈ ps, IsSourcePlace q) (hkeep : FileTree.KeepsBut (· ∈ ps) t u)
    (hmake : FileTree.MakesOnly (· ∈ ps) t u) {root : Path} {marker : String}
    {ds : List Declaration} (hds : discover t root marker = .ok ds)
    (hold : SilentAt marker (root.place t.here) ps t) :
    discover u root marker = .ok ds ↔ SilentAt marker (root.place t.here) ps u := by
  have hu : u.Sound := hmake.1 ht
  have hhere : u.here = t.here := hkeep.1.1
  have hdir : t.isDir root = true := isDir_of_discover hds
  have hudir : u.isDir root = true := FileTree.isDir_keeps hkeep.1 hdir
  have hsame := FileTree.sourceFiles_filter_eq ht hkeep hmake hdir
  rw [discover_eq hdir] at hds
  have hkept : filesDeclarations root marker
      ((u.sourceFiles root).filter fun x => x.1.place t.here ∉ ps) = .ok ds := by
    rw [hsame, filesDeclarations_filter fun x hx hplace => ?_, hds]
    exact fileDeclarations_eq_nil_iff.2
      ((silentAt_iff ht hps hdir).1 hold x hx (by simpa using hplace))
  rw [discover_eq hudir, ← hhere, silentAt_iff hu hps hudir, hhere]
  constructor
  · intro h x hx hplace
    obtain ⟨kept, hfilter, -, hall⟩ :=
      filesDeclarations_kept (p := fun x => x.1.place t.here ∉ ps) h
    obtain rfl := Except.ok.inj (hkept.symm.trans hfilter)
    exact fileDeclarations_eq_nil_iff.1 (hall rfl x hx (by simpa using hplace))
  · intro h
    rw [← hkept]
    refine (filesDeclarations_filter fun x hx hplace => ?_).symm
    exact fileDeclarations_eq_nil_iff.2 (h x hx (by simpa using hplace))

end AccessorGen
