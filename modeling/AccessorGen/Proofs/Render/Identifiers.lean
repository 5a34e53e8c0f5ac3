import AccessorGen.Proofs.Output.Resolution
import AccessorGen.Proofs.Render.Fields

/-! Identifiers in generated files. A file is taken as its items, which it is the text of, and the
words in the name positions of the items are gathered. Field names have been checked and are escaped
where they are reserved. Type names, namespace segments and capitalised names are written as they
are, so that these positions hold identifiers exactly when the declarations provide for it. -/

namespace AccessorGen

/-- An identifier, perhaps with the raw mark. -/
def IsWord (s : String) : Prop := Text.isIdentifier (Text.plainWord s) = true

instance (s : String) : Decidable (IsWord s) := inferInstanceAs (Decidable (_ = true))

namespace Text

def isWordChar (c : Char) : Bool := isLetterOrNumber c || c == '_'

end Text

namespace Names

theorem hash_not_mem_reserved {s : String} (h : isReserved s = true) : '#' ∉ s.toList := by
  have hall : ∀ w ∈ reserved, '#' ∉ w.toList := by decide
  exact hall s (List.contains_iff_mem.1 h)

theorem not_mem_safe {c : Char} (hc : c ∉ "r#".toList) {s : String} (h : c ∉ s.toList) :
    c ∉ (safe s).toList := by
  unfold safe
  split
  · rw [String.toList_append, List.mem_append, not_or]
    exact ⟨hc, h⟩
  · exact h

@[simp] theorem isWord_safe {s : String} : IsWord (safe s) ↔ IsWord s := by
  have hplain : Text.plainWord (safe s) = Text.plainWord s := by
    by_cases hr : isReserved s = true
    · rw [plainWord_safe (hash_not_mem_reserved hr),
        Text.plainWord_of_not_mem (hash_not_mem_reserved hr)]
    · rw [safe, Bool.eq_false_iff.2 hr, Bool.false_and, if_neg Bool.false_ne_true]
  rw [IsWord, IsWord, hplain]

theorem isReserved_safe {s : String} (h : Validity.fieldName s = true) :
    isReserved (safe s) = false := by
  have hwords : ∀ w ∈ unescapable, w ∈ Validity.pathWords := by decide
  have hraw : ¬isReserved ("r#" ++ s) = true := fun hr =>
    hash_not_mem_reserved hr (by simp)
  have hunescapable : unescapable.contains s = false := by
    rw [← Bool.not_eq_true, List.contains_iff_mem]
    intro hmem
    simp [Validity.fieldName, hwords s hmem] at h
  unfold safe
  split
  · exact Bool.eq_false_iff.2 hraw
  next hs =>
    rw [hunescapable] at hs
    simpa using hs

end Names

namespace Render

/-- An item of a generated file. -/
inductive GeneratedItem
  | imported (u : ImportItem)
  | struct (s : StructItem)
  | implementation (i : ImplItem)
  | module (m : ModuleItem)

/-- The modules on the path of an import of everything. -/
def ImportItem.segments (u : ImportItem) : List String :=
  (Text.cutColons u.path.toList).dropLast.map String.ofList

namespace GeneratedItem

def fragments : GeneratedItem → List Fragment
  | .imported u => u.fragments
  | .struct s => s.fragments
  | .implementation i => i.fragments
  | .module m => m.fragments

/-- The names of types, methods and modules. -/
def names : GeneratedItem → List String
  | .imported u => u.segments
  | .struct s => [s.name]
  | .implementation i => i.name :: i.methods.map FunctionItem.name
  | .module m => [m.name]

/-- The names of fields and parameters. -/
def labels : GeneratedItem → List String
  | .struct s => s.fields.map FieldItem.name
  | .implementation i => i.methods.flatMap fun m => m.params.map Prod.fst
  | _ => []

end GeneratedItem

/-- A file as groups of items, with a blank line between two groups. -/
structure GeneratedFile where
  path : Path
  header : String
  groups : List (List GeneratedItem)
  indent : Indent

namespace GeneratedFile

def shown (f : GeneratedFile) : PreviewFile :=
  ⟨f.path.slashed,
    (⟨f.groups.map (·.flatMap GeneratedItem.fragments)⟩ : SourceFile).renderUnder f.header f.indent⟩

def names (f : GeneratedFile) : List String := f.groups.flatten.flatMap GeneratedItem.names

def labels (f : GeneratedFile) : List String := f.groups.flatten.flatMap GeneratedItem.labels

end GeneratedFile

def companionItems (options : RenderOptions) (a : Namespace × Companion) : GeneratedFile :=
  ⟨companionPath a.1 a.2, companionHeader a.2,
    [[.imported (sourceImport a.1)], [.struct (companionStruct a.2 options.derives)],
      [.implementation (accessorImpl a.2)]], options.indent⟩

def moduleItems (e : Path × List String) : GeneratedFile :=
  ⟨ModuleTree.filePath e.1, ModuleTree.header,
    [e.2.map fun m => .module { name := Names.safe m }], .four⟩

/-- The files of a round as items. -/
def roundItems (options : RenderOptions) (as : List (Namespace × Companion)) :
    List GeneratedFile :=
  as.map (companionItems options) ++ (modulesOf as .empty).dirs.map moduleItems

theorem shown_companionItems (options : RenderOptions) (a : Namespace × Companion) :
    (companionItems options a).shown = .ofOutput (companionFile a.1 a.2 options) := by
  simp [GeneratedFile.shown, companionItems, PreviewFile.ofOutput, companionFile, companionText,
    companionSource, GeneratedItem.fragments]

theorem shown_moduleItems {e : Path × List String} (h : e.2 ≠ []) :
    (moduleItems e).shown =
      .ofOutput ⟨ModuleTree.filePath e.1, ModuleTree.fileText e.2⟩ := by
  have hitems : ((e.2.map fun m => GeneratedItem.module { name := Names.safe m }).flatMap
      GeneratedItem.fragments) =
        (e.2.map fun m => ({ name := Names.safe m } : ModuleItem).fragments).flatten := by
    rw [List.flatMap_def, List.map_map]
    rfl
  have hne : (e.2.map fun m =>
      ({ name := Names.safe m } : ModuleItem).fragments).flatten.isEmpty = false := by
    obtain ⟨name, rest, hcons⟩ := List.exists_cons_of_ne_nil h
    simp [hcons, ModuleItem.fragments]
  simp [GeneratedFile.shown, moduleItems, PreviewFile.ofOutput, ModuleTree.fileText,
    SourceFile.addGroup, SourceFile.add, hitems, hne]

theorem files_eq_items (options : RenderOptions) (ds : List Declaration) :
    (previewRound options ds).2.2 =
      (roundItems options (accepted ds)).map GeneratedFile.shown := by
  have hinhabited : ∀ e ∈ (modulesOf (accepted ds) .empty).dirs, e.2 ≠ [] := by
    rw [ModuleTree.modulesOf_eq_insertAll]
    exact (ModuleTree.ordered_empty.insertAll _).inhabited
  rw [files_previewRound, roundFiles, roundItems, List.map_append, List.map_append]
  congr 1
  · simp [companionFiles, shown_companionItems]
  · rw [ModuleTree.files, List.map_map, List.map_map]
    exact List.map_congr_left fun e he => (shown_moduleItems (hinhabited e he)).symm

theorem cutColons_glob {w : String} {ws : List String} (h : ∀ x ∈ w :: ws, ':' ∉ x.toList) :
    Text.cutColons ("::".intercalate (w :: ws) ++ "::*").toList =
      (w :: ws).map String.toList ++ [['*']] := by
  induction ws generalizing w with
  | nil =>
    have htext : ("::".intercalate [w] ++ "::*").toList = w.toList ++ ':' :: ':' :: ['*'] := by
      simp
    rw [htext, Text.cutColons_append (h w (by simp)), Text.cutColons_of_not_mem (by decide)]
    rfl
  | cons v ws ih =>
    obtain ⟨hw, hrest⟩ := List.forall_mem_cons.1 h
    have htext : ("::".intercalate (w :: v :: ws) ++ "::*").toList =
        w.toList ++ ':' :: ':' :: ("::".intercalate (v :: ws) ++ "::*").toList := by
      simp [String.intercalate_cons_cons]
    rw [htext, Text.cutColons_append hw, ih hrest]
    rfl

theorem segments_sourceImport {ns : Namespace} (h : ∀ s ∈ ns.segments, ':' ∉ s.toList) :
    (sourceImport ns).segments = "crate" :: ns.segments.map Names.safe := by
  have hcolon : ∀ x ∈ "crate" :: ns.segments.map Names.safe, ':' ∉ x.toList := by
    intro x hx
    rcases List.mem_cons.1 hx with rfl | hx
    · decide
    · obtain ⟨s, hs, rfl⟩ := List.mem_map.1 hx
      exact Names.not_mem_safe (by decide) (h s hs)
  have hcut := cutColons_glob hcolon
  rw [ImportItem.segments, show (sourceImport ns).path = Names.cratePath ns ++ "::*" from rfl,
    Names.cratePath, hcut, List.dropLast_concat, List.map_map]
  simp [Function.comp_def]

theorem colon_not_mem_plainWord {s : String} :
    ':' ∉ (Text.plainWord s).toList ↔ ':' ∉ s.toList := by
  rw [Text.toList_plainWord, Text.without]
  split
  next hraw =>
    obtain ⟨r, hr⟩ := List.isPrefixOf_iff_prefix.1 hraw
    simp [← hr]
  · rfl

theorem colon_not_mem_of_isWord {s : String} (h : IsWord s) : ':' ∉ s.toList :=
  colon_not_mem_plainWord.1 (Text.not_mem_of_isIdentifier h (by decide))

theorem mem_dirs_iff {as : List (Namespace × Companion)} {n : String} :
    (∃ e ∈ (modulesOf as .empty).dirs, n ∈ e.2) ↔
      ∃ a ∈ as, n ∈ Names.directories a.1 ∨ n = Names.moduleOf a.2.name := by
  have hlists : (∃ e ∈ (modulesOf as .empty).dirs, n ∈ e.2) ↔
      ∃ cs, ModuleTree.Lists (modulesOf as .empty).dirs cs n := by
    constructor
    · rintro ⟨e, he, hn⟩
      exact ⟨_, e, he, rfl, hn⟩
    · rintro ⟨-, e, he, -, hn⟩
      exact ⟨e, he, hn⟩
  rw [hlists, ModuleTree.modulesOf_eq_insertAll]
  constructor
  · rintro ⟨cs, hcs⟩
    obtain ⟨e, he, -⟩ | ⟨x, hx, p, hp, -⟩ := ModuleTree.lists_insertAll.1 hcs
    · cases he
    · obtain ⟨a, ha, rfl⟩ := List.mem_map.1 hx
      exact ⟨a, ha, hp.imp (fun hp => hp.subset (by simp)) And.right⟩
  · rintro ⟨a, ha, hn⟩
    obtain ⟨p, hp⟩ : ∃ p, ModuleTree.Declares (Names.moduleOf a.2.name) (Names.directories a.1)
        p n := by
      rcases hn with hn | rfl
      · obtain ⟨p, r, hsplit⟩ := List.append_of_mem hn
        exact ⟨p, .inl ⟨r, by simp [hsplit]⟩⟩
      · exact ⟨_, .inr ⟨rfl, rfl⟩⟩
    exact ⟨_, ModuleTree.lists_insertAll.2 (.inr ⟨_, List.mem_map_of_mem ha, p, hp, rfl⟩)⟩

theorem isWord_methodName {kind : AccessorKind} {field : String} :
    IsWord (Accessor.methodName kind field) ↔
      ∀ c ∈ (Text.capitalize field).toList, Text.isWordChar c = true := by
  have hplain : Text.plainWord (Accessor.methodName kind field) =
      Accessor.methodName kind field := by
    have hraw : ¬['r', '#'].isPrefixOf (Accessor.methodName kind field).toList = true := by
      cases kind <;> simp [Accessor.methodName, AccessorKind.verb]
    simp [Text.plainWord, Text.without, hraw]
  rw [IsWord, hplain]
  constructor
  · intro h c hc
    refine Text.isIdentifierChars_mem h ?_
    rw [Accessor.methodName, String.toList_append]
    exact List.mem_append_right _ hc
  · intro h
    refine Text.isIdentifier_append ?_ h
    cases kind <;> decide

theorem isWord_of_fieldName {s : String} (h : Validity.fieldName s = true) : IsWord s := by
  have hs : Text.isIdentifier s = true := (Bool.and_eq_true_iff.1 h).1
  rwa [IsWord, Text.plainWord_of_isIdentifier hs]

section Companion

variable {d : Declaration} {c : Companion} (h : d.companion = .ok c) {options : RenderOptions}

include h

theorem methods_accessorImpl : (accessorImpl c).methods =
    c.fields.flatMap fun f =>
      [accessorFunction (Accessor.getter f), accessorFunction (Accessor.setter f)] := by
  obtain ⟨rfl, -, -⟩ := companion_eq_ok h
  simp [accessorImpl, accessorsOf, List.map_flatMap, Accessor.pair]

theorem mem_names_companionItems {n : String} :
    n ∈ (companionItems options (d.space, c)).names ↔
      n ∈ (sourceImport d.space).segments ∨ n = c.name ∨
        ∃ f ∈ c.fields, ∃ kind, n = Accessor.methodName kind f.name := by
  have hmethods : (∃ f ∈ c.fields, n = Accessor.methodName .getter f.name ∨
      n = Accessor.methodName .setter f.name) ↔
      ∃ f ∈ c.fields, ∃ kind, n = Accessor.methodName kind f.name := by
    refine exists_congr fun f => and_congr_right fun _ => ⟨?_, ?_⟩
    · rintro (hn | hn)
      · exact ⟨.getter, hn⟩
      · exact ⟨.setter, hn⟩
    · rintro ⟨kind, hn⟩
      cases kind
      · exact .inl hn
      · exact .inr hn
  have hname : (accessorImpl c).name = c.name := rfl
  simp [GeneratedFile.names, companionItems, GeneratedItem.names, methods_accessorImpl h, hname,
    companionStruct, List.map_flatMap, accessorFunction, Accessor.getter, Accessor.setter,
    hmethods]

theorem mem_labels_companionItems {n : String} :
    n ∈ (companionItems options (d.space, c)).labels ↔ ∃ f ∈ c.fields, n = Names.safe f.name := by
  simp [GeneratedFile.labels, companionItems, GeneratedItem.labels, methods_accessorImpl h,
    companionStruct, fieldItem, accessorFunction, Accessor.getter, Accessor.setter,
    List.flatMap_assoc, eq_comm]

theorem isWord_names_companionItems (hcolon : ∀ s ∈ d.space.segments, ':' ∉ s.toList) :
    (∀ n ∈ (companionItems options (d.space, c)).names, IsWord n) ↔
      (∀ s ∈ d.space.segments, IsWord s) ∧ IsWord c.name ∧
        ∀ f ∈ c.fields, ∀ x ∈ (Text.capitalize f.name).toList, Text.isWordChar x = true := by
  have hcrate : IsWord "crate" := by decide
  constructor
  · intro hall
    refine ⟨fun s hs => ?_, hall _ ((mem_names_companionItems h).2 (.inr (.inl rfl))),
      fun f hf => ?_⟩
    · refine Names.isWord_safe.1 (hall _ ((mem_names_companionItems h).2 (.inl ?_)))
      rw [segments_sourceImport hcolon]
      exact List.mem_cons_of_mem _ (List.mem_map_of_mem hs)
    · exact isWord_methodName.1
        (hall _ ((mem_names_companionItems h).2 (.inr (.inr ⟨f, hf, .getter, rfl⟩))))
  · rintro ⟨hsegments, htype, hmethods⟩ n hn
    obtain hn | rfl | ⟨f, hf, kind, rfl⟩ := (mem_names_companionItems h).1 hn
    · rw [segments_sourceImport hcolon] at hn
      rcases List.mem_cons.1 hn with rfl | hn
      · exact hcrate
      · obtain ⟨s, hs, rfl⟩ := List.mem_map.1 hn
        exact Names.isWord_safe.2 (hsegments s hs)
    · exact htype
    · exact isWord_methodName.2 (hmethods f hf)

end Companion

/-- The words of a companion are identifiers in each form in which they are written. -/
structure WellSpelled (a : Namespace × Companion) : Prop where
  segments : ∀ s ∈ a.1.segments, IsWord s
  type : IsWord a.2.name
  module : IsWord (Names.moduleOf a.2.name)
  methods : ∀ f ∈ a.2.fields, ∀ c ∈ (Text.capitalize f.name).toList, Text.isWordChar c = true

theorem mem_names_moduleItems {e : Path × List String} {n : String} :
    n ∈ (moduleItems e).names ↔ ∃ m ∈ e.2, n = Names.safe m := by
  simp [GeneratedFile.names, moduleItems, GeneratedItem.names, List.flatMap_map]

theorem labels_moduleItems (e : Path × List String) : (moduleItems e).labels = [] := by
  simp [GeneratedFile.labels, moduleItems, GeneratedItem.labels, List.flatMap_map]

theorem isWord_plainWord {s : String} (h : IsWord s) : IsWord (Text.plainWord s) := by
  rwa [IsWord, Text.plainWord_of_isIdentifier h]

theorem isWord_names_modules {as : List (Namespace × Companion)} :
    (∀ e ∈ (modulesOf as .empty).dirs, ∀ n ∈ (moduleItems e).names, IsWord n) ↔
      ∀ a ∈ as, (∀ s ∈ Names.directories a.1, IsWord s) ∧ IsWord (Names.moduleOf a.2.name) := by
  constructor
  · intro hall
    have hdeclared : ∀ n, (∃ e ∈ (modulesOf as .empty).dirs, n ∈ e.2) → IsWord n := by
      rintro n ⟨e, he, hn⟩
      exact Names.isWord_safe.1 (hall e he _ (mem_names_moduleItems.2 ⟨n, hn, rfl⟩))
    exact fun a ha => ⟨fun s hs => hdeclared s (mem_dirs_iff.2 ⟨a, ha, .inl hs⟩),
      hdeclared _ (mem_dirs_iff.2 ⟨a, ha, .inr rfl⟩)⟩
  · intro hall e he n hn
    obtain ⟨m, hm, rfl⟩ := mem_names_moduleItems.1 hn
    obtain ⟨a, ha, hma⟩ := mem_dirs_iff.1 ⟨e, he, hm⟩
    rw [Names.isWord_safe]
    rcases hma with hma | rfl
    · exact (hall a ha).1 m hma
    · exact (hall a ha).2

theorem body_accessorImpl {d : Declaration} {c : Companion} (h : d.companion = .ok c)
    {options : RenderOptions} {m : FunctionItem} (hm : m ∈ (accessorImpl c).methods) :
    ∃ n ∈ (companionItems options (d.space, c)).labels,
      m.body = ["self." ++ n ++ ".clone()"] ∨ m.body = ["self." ++ n ++ " = " ++ n ++ ";"] := by
  rw [methods_accessorImpl h] at hm
  obtain ⟨f, hf, hm⟩ := List.mem_flatMap.1 hm
  refine ⟨Names.safe f.name, (mem_labels_companionItems h).2 ⟨f, hf, rfl⟩, ?_⟩
  obtain rfl | rfl : m = _ ∨ m = _ := by simpa using hm
  · exact .inl rfl
  · exact .inr rfl

/-- In the files of a round every name of a type, a method, a module and a step of an import is an
identifier exactly when the declarations it has accepted spell their words well. The names of fields
and parameters always are, and none of them is a bare reserved word. -/
theorem identifiers_iff (options : RenderOptions) (ds : List Declaration) :
    (previewRound options ds).2.2 =
      (roundItems options (accepted ds)).map GeneratedFile.shown ∧
    ((∀ f ∈ roundItems options (accepted ds), ∀ n ∈ f.names, IsWord n) ↔
      ∀ a ∈ accepted ds, WellSpelled a) ∧
    (∀ f ∈ roundItems options (accepted ds), ∀ n ∈ f.labels,
      IsWord n ∧ Names.isReserved n = false) ∧
    ∀ a ∈ accepted ds, ∀ m ∈ (accessorImpl a.2).methods,
      ∃ n ∈ (companionItems options a).labels,
        m.body = ["self." ++ n ++ ".clone()"] ∨ m.body = ["self." ++ n ++ " = " ++ n ++ ";"] := by
  refine ⟨files_eq_items options ds, ?_, ?_, fun a ha m hm => ?_⟩
  · have hsplit : (∀ f ∈ roundItems options (accepted ds), ∀ n ∈ f.names, IsWord n) ↔
        (∀ a ∈ accepted ds, ∀ n ∈ (companionItems options a).names, IsWord n) ∧
        ∀ e ∈ (modulesOf (accepted ds) .empty).dirs, ∀ n ∈ (moduleItems e).names, IsWord n := by
      simp only [roundItems, List.mem_append, List.mem_map, or_imp, forall_and,
        forall_exists_index, and_imp, forall_apply_eq_imp_iff₂]
    rw [hsplit, isWord_names_modules]
    constructor
    · rintro ⟨hcompanions, hmodules⟩ a ha
      obtain ⟨d, -, hd, hspace⟩ := mem_accepted.1 ha
      obtain ⟨hdirectories, hmodule⟩ := hmodules a ha
      have hnames := hcompanions a ha
      obtain ⟨ns, c⟩ := a
      subst hspace
      have hcolon : ∀ s ∈ d.space.segments, ':' ∉ s.toList := fun s hs =>
        colon_not_mem_plainWord.1 (colon_not_mem_of_isWord (hdirectories _ (List.mem_map_of_mem hs)))
      obtain ⟨hsegments, htype, hmethods⟩ := (isWord_names_companionItems hd hcolon).1 hnames
      exact ⟨hsegments, htype, hmodule, hmethods⟩
    · intro hall
      refine ⟨fun a ha => ?_, fun a ha => ⟨fun s hs => ?_, (hall a ha).module⟩⟩
      · obtain ⟨d, -, hd, hspace⟩ := mem_accepted.1 ha
        have hwell := hall a ha
        obtain ⟨ns, c⟩ := a
        subst hspace
        exact (isWord_names_companionItems hd fun s hs =>
          colon_not_mem_of_isWord (hwell.segments s hs)).2
            ⟨hwell.segments, hwell.type, hwell.methods⟩
      · obtain ⟨w, hw, rfl⟩ := List.mem_map.1 hs
        exact isWord_plainWord ((hall a ha).segments w hw)
  · intro f hf n hn
    rcases List.mem_append.1 hf with hf | hf
    · obtain ⟨a, ha, rfl⟩ := List.mem_map.1 hf
      obtain ⟨d, -, hd, hspace⟩ := mem_accepted.1 ha
      obtain ⟨ns, c⟩ := a
      subst hspace
      obtain ⟨g, hg, rfl⟩ := (mem_labels_companionItems hd).1 hn
      have hname := (Field.check_eq_ok_iff.1 ((companion_eq_ok hd).2.2 g ?_)).1
      · exact ⟨Names.isWord_safe.2 (isWord_of_fieldName hname), Names.isReserved_safe hname⟩
      · rwa [(companion_eq_ok hd).1] at hg
    · obtain ⟨e, -, rfl⟩ := List.mem_map.1 hf
      rw [labels_moduleItems] at hn
      cases hn
  · obtain ⟨d, -, hd, hspace⟩ := mem_accepted.1 ha
    obtain ⟨ns, c⟩ := a
    subst hspace
    exact body_accessorImpl hd hm

theorem forall_ascii {P : Char → Prop} (h : ∀ n : Fin 128, P (Char.ofNat n)) {c : Char}
    (hc : c.toNat < 128) : P c := by
  have hat := h ⟨c.toNat, hc⟩
  rwa [Char.ofNat_toNat] at hat

theorem isWordChar_snakeStep {c : Char} (hc : c.toNat < 128) (h : Text.isWordChar c = true) :
    ∀ x ∈ (Text.snakeStep c).map Text.dashToUnderscore, Text.isWordChar x = true :=
  List.all_eq_true.1 (forall_ascii (P := fun c => Text.isWordChar c = true →
    ((Text.snakeStep c).map Text.dashToUnderscore).all Text.isWordChar = true)
    (by decide +kernel) hc h)

theorem isWordChar_upper {c : Char} (hc : c.toNat < 128) (h : Text.isWordChar c = true) :
    ∀ x ∈ Text.upper c, Text.isWordChar x = true :=
  List.all_eq_true.1 (forall_ascii (P := fun c => Text.isWordChar c = true →
    (Text.upper c).all Text.isWordChar = true) (by decide +kernel) hc h)

theorem lower_first {c : Char} (hc : c.toNat < 128) : (Text.isLetter c || c == '_') = true →
    ∃ x, (Text.lower c).map Text.dashToUnderscore = [x] ∧
      (Text.isLetter x || x == '_') = true := by
  intro h
  refine ⟨Text.dashToUnderscore c.toLower, ?_, ?_⟩
  · rw [Text.lower, if_pos hc]
    rfl
  · exact forall_ascii (P := fun c => (Text.isLetter c || c == '_') = true →
      (Text.isLetter (Text.dashToUnderscore c.toLower) ||
        Text.dashToUnderscore c.toLower == '_') = true) (by decide +kernel) hc h

theorem isWord_moduleOf {s : String} (h : Text.isIdentifier s = true)
    (hascii : ∀ c ∈ s.toList, c.toNat < 128) :
    IsWord (Names.moduleOf (Companion.nameFor s)) := by
  have hchars : Text.isIdentifierChars s.toList = true := h
  obtain ⟨c, r, hs⟩ := List.exists_cons_of_ne_nil (Text.toList_ne_nil_of_isIdentifier h)
  have hword : ∀ x ∈ c :: r, Text.isWordChar x = true := fun x hx =>
    Text.isIdentifierChars_mem hchars (hs ▸ hx)
  rw [hs, Text.isIdentifierChars, Bool.and_eq_true, Bool.and_eq_true] at hchars
  rw [hs] at hascii
  obtain ⟨x, hx, hfirst⟩ := lower_first (hascii c (by simp)) hchars.1.1
  have hsnake : (Names.moduleOf (Companion.nameFor s)).toList =
      x :: ((r.flatMap Text.snakeStep).map Text.dashToUnderscore ++ "_data".toList) := by
    rw [Names.moduleOf, Text.snakeCase_nameFor (by simp [hs]), String.toList_append,
      Text.toList_snakeCase, hs, Text.snakeCaseChars, List.map_append, hx]
    rfl
  have hdata : ∀ y ∈ "_data".toList, Text.isWordChar y = true :=
    List.all_eq_true.1 (by decide)
  have hrest : ∀ y ∈ (r.flatMap Text.snakeStep).map Text.dashToUnderscore ++ "_data".toList,
      Text.isWordChar y = true := by
    intro y hy
    rcases List.mem_append.1 hy with hy | hy
    · rw [List.map_flatMap] at hy
      obtain ⟨z, hz, hy⟩ := List.mem_flatMap.1 hy
      exact isWordChar_snakeStep (hascii z (by simp [hz])) (hword z (by simp [hz])) y hy
    · exact hdata y hy
  have hident : Text.isIdentifier (Names.moduleOf (Companion.nameFor s)) = true := by
    rw [Text.isIdentifier, hsnake, Text.isIdentifierChars, Bool.and_eq_true, Bool.and_eq_true]
    exact ⟨⟨hfirst, by simp⟩, List.all_eq_true.2 hrest⟩
  rwa [IsWord, Text.plainWord_of_isIdentifier hident]

theorem wellSpelled_of_ascii {a : Namespace × Companion} (hsegments : ∀ s ∈ a.1.segments, IsWord s)
    (hname : Text.isIdentifier a.2.sourceName = true)
    (hascii : ∀ c ∈ a.2.sourceName.toList, c.toNat < 128)
    (hfields : ∀ f ∈ a.2.fields, Text.isIdentifier f.name = true)
    (hinitials : ∀ f ∈ a.2.fields, ∀ c ∈ f.name.toList.head?, c.toNat < 128) : WellSpelled a where
  segments := hsegments
  type := by
    rw [IsWord, Companion.name, Text.plainWord_of_isIdentifier (Text.isIdentifier_nameFor hname)]
    exact Text.isIdentifier_nameFor hname
  module := isWord_moduleOf hname hascii
  methods f hf x hx := by
    obtain ⟨c, r, hs⟩ := List.exists_cons_of_ne_nil
      (Text.toList_ne_nil_of_isIdentifier (hfields f hf))
    have hword : ∀ y ∈ c :: r, Text.isWordChar y = true := fun y hy =>
      Text.isIdentifierChars_mem (hfields f hf) (hs ▸ hy)
    rw [Text.toList_capitalize, hs, Text.capitalizeChars, List.mem_append] at hx
    rcases hx with hx | hx
    · exact isWordChar_upper (hinitials f hf c (by simp [hs])) (hword c (by simp)) x hx
    · exact hword x (by simp [hx])

section Runs

def shadyNames : List Declaration :=
  [⟨"User", ⟨["my-app"]⟩, .class, []⟩, ⟨"my-type", .root, .class, []⟩,
    ⟨"User", .root, .class, [⟨"ǰ", .field (.primitive .int)⟩]⟩]

/-- All three are accepted. The first gives `use crate::my-app::*;` and `pub mod my-app;`, the second
`pub struct my-typeData`, the third a method with a combining mark in its name. -/
theorem names_go_unchecked :
    (∀ d ∈ shadyNames, (previewRound {} [d]).1.skipped = [] ∧
      ∃ f ∈ roundItems {} (accepted [d]), ∃ n ∈ f.names, ¬IsWord n) ∧
    ⟨"mod.rs", ModuleTree.header ++ "\n\npub mod my-app;\n"⟩ ∈
      (previewRound {} [⟨"User", ⟨["my-app"]⟩, .class, []⟩]).2.2 := by
  decide +kernel

end Runs

end Render

end AccessorGen
