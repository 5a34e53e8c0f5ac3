import AccessorGen.Proofs.Output.Places

/-! Whether every companion of a round keeps a file of its own. The file is named by the snake form
of the source name, which forgets case and underscores; two accepted declarations of one namespace
whose names have the same snake form share a file, and the later text replaces the earlier. Nothing
else makes two files of a round meet. -/

namespace AccessorGen

open Render

/-- Names that can stand in source text. -/
def WellNamed (d : Declaration) : Prop :=
  Text.isIdentifier d.name = true ∧ ∀ s ∈ d.space.segments, Text.isIdentifier s = true

instance (d : Declaration) : Decidable (WellNamed d) := inferInstanceAs (Decidable (_ ∧ _))

/-- In one namespace, names have different snake forms. -/
def SnakeApart (a b : Namespace × Companion) : Prop :=
  a.1 = b.1 → Text.snakeCase a.2.sourceName ≠ Text.snakeCase b.2.sourceName

instance (a b : Namespace × Companion) : Decidable (SnakeApart a b) :=
  inferInstanceAs (Decidable (_ → _))

namespace OwnFiles

def Proper (a : Namespace × Companion) : Prop :=
  Text.isIdentifier a.2.sourceName = true ∧ ∀ s ∈ a.1.segments, Text.isIdentifier s = true

theorem proper_of_accepted {ds : List Declaration} (h : ∀ d ∈ ds, WellNamed d) :
    ∀ a ∈ accepted ds, Proper a := by
  intro a ha
  obtain ⟨d, hd, hc, hspace⟩ := mem_accepted.1 ha
  rw [Proper, (companion_eq_ok hc).1, ← hspace]
  exact h d hd

section Pair

variable {a b : Namespace × Companion}

theorem Proper.slashFree (h : Proper a) : SlashFree a :=
  ⟨fun s hs => Text.not_mem_of_isIdentifier (h.2 s hs) (by decide),
    Text.not_mem_of_isIdentifier h.1 (by decide)⟩

theorem Proper.isName (h : Proper a) : ∀ s ∈ a.1.segments, IsName s.toList := by
  intro s hs
  have hdot : '.' ∉ s.toList := Text.not_mem_of_isIdentifier (h.2 s hs) (by decide)
  exact ⟨Text.toList_ne_nil_of_isIdentifier (h.2 s hs), fun e => hdot (by simp [e]),
    fun e => hdot (by simp [e])⟩

theorem Proper.directories (h : Proper a) : Names.directories a.1 = a.1.segments := by
  unfold Names.directories
  rw [List.map_congr_left fun s hs => Text.plainWord_of_isIdentifier (h.2 s hs), List.map_id']

theorem Proper.place (h : Proper a) (output : Place) :
    companionPlace output a = output ++ a.1.segments ++ [Names.fileOf a.2.name] := by
  have hnames : ∀ s ∈ a.1.segments.map String.toList, IsName s := by
    intro s hs
    obtain ⟨w, hw, rfl⟩ := List.mem_map.1 hs
    exact h.isName w hw
  rw [companionPlace, h.directories, along_names hnames, List.map_map]
  congr 2
  exact List.map_id'' (fun s => String.ofList_toList) a.1.segments

theorem Proper.fileOf (h : Proper a) :
    Names.fileOf a.2.name = Text.snakeCase a.2.sourceName ++ "_data" ++ ".rs" := by
  rw [Names.fileOf, Names.moduleOf, Companion.name,
    Text.snakeCase_nameFor (Text.toList_ne_nil_of_isIdentifier h.1)]

theorem Proper.modulePlace_ne (h : Proper a) (output : Place) (dirs : List String) :
    modulePlace output dirs ≠ companionPlace output a := by
  rw [modulePlace, companionPlace, h.fileOf]
  intro e
  have hname := congrArg String.length (List.append_singleton_inj.1 e).2
  simp only [String.length_append] at hname
  have hlength : "mod.rs".length = 6 ∧ "_data".length = 5 ∧ ".rs".length = 3 := by decide
  omega

theorem place_eq_iff (ha : Proper a) (hb : Proper b) (output : Place) :
    companionPlace output a = companionPlace output b ↔ ¬SnakeApart a b := by
  rw [ha.place, hb.place, List.append_assoc, List.append_assoc, List.append_cancel_left_eq,
    List.append_singleton_inj, ha.fileOf, hb.fileOf, SnakeApart, Classical.not_imp, not_not,
    String.append_left_inj, String.append_left_inj, ← Namespace.mk.injEq]

theorem path_eq (ha : Proper a) (hb : Proper b) (h : ¬SnakeApart a b) :
    companionPath a.1 a.2 = companionPath b.1 b.2 := by
  obtain ⟨hspace, hsnake⟩ := Classical.not_imp.1 h
  rw [companionPath, companionPath, hspace, ha.fileOf, hb.fileOf, not_not.1 hsnake]

theorem same_iff (ha : Proper a) (hb : Proper b) :
    (companionPath a.1 a.2).same (companionPath b.1 b.2) = true ↔ ¬SnakeApart a b := by
  constructor
  · intro h
    have hplace := Path.place_eq_of_same h []
    rw [← Path.empty_join (companionPath a.1 a.2), ← Path.empty_join (companionPath b.1 b.2),
      place_companionPath ha.slashFree, place_companionPath hb.slashFree] at hplace
    exact (place_eq_iff ha hb _).1 hplace
  · intro h
    simp [Path.same, path_eq ha hb h]

theorem sourceName_eq (ha : Proper a) (hb : Proper b) {options : RenderOptions}
    (h : companionText a.1 a.2 options = companionText b.1 b.2 options) :
    a.2.sourceName = b.2.sourceName := by
  have htext : ∀ c : Namespace × Companion, ∃ r, (companionText c.1 c.2 options).toList =
      (generatedMark ++ " from `").toList ++ (c.2.sourceName.toList ++ '`' :: r) := by
    intro c
    unfold companionText SourceFile.renderUnder companionHeader
    dsimp only
    split <;> simp [List.append_assoc]
  obtain ⟨r, hr⟩ := htext a
  obtain ⟨s, hs⟩ := htext b
  rw [h, hs, List.append_cancel_left_eq] at hr
  have hmark : ('`' ∉ a.2.sourceName.toList) ∧ '`' ∉ b.2.sourceName.toList :=
    ⟨Text.not_mem_of_isIdentifier ha.1 (by decide), Text.not_mem_of_isIdentifier hb.1 (by decide)⟩
  obtain ⟨hname, -⟩ := Text.append_inj_of_not_mem hmark.2 hmark.1 hr
  exact (String.toList_injective hname).symm

end Pair

end OwnFiles

section Round

variable {options : RenderOptions} {output : Path} {ds : List Declaration} {t : FileTree}

theorem readText_companion (hproper : ∀ a ∈ accepted ds, OwnFiles.Proper a)
    (hwrites : RoundSucceeds options output ds t)
    (happart : (accepted ds).Pairwise SnakeApart) :
    ∀ a ∈ accepted ds, (generateRound options output ds t).2.readText
      (output.join (companionPath a.1 a.2)) = some (companionText a.1 a.2 options) := by
  intro a ha
  obtain ⟨before, after, hsplit⟩ := List.append_of_mem ha
  have hround := generateRound_writes hwrites
  rw [roundFiles, hsplit, companionFiles_append, companionFiles_cons, List.append_assoc,
    List.map_append, List.cons_append, List.map_cons] at hround
  refine hround.readText ?_
  rw [hsplit] at hproper happart
  have hslash : ∀ b ∈ before ++ a :: after, SlashFree b := fun b hb => (hproper b hb).slashFree
  have hplace : (output.join (companionPath a.1 a.2)).place t.here =
      companionPlace (output.place t.here) a :=
    place_companionPath (hslash a (by simp)) output t.here
  intro g hg
  obtain ⟨f, hf, rfl⟩ := List.mem_map.1 hg
  change (output.join f.path).place t.here ≠ (output.join (companionPath a.1 a.2)).place t.here
  rw [hplace]
  rcases List.mem_append.1 hf with hf | hf
  · -- a later companion has a place of its own
    obtain ⟨b, hb, rfl⟩ := List.mem_map.1 hf
    have hapart : SnakeApart a b :=
      List.rel_of_pairwise_cons (List.pairwise_append.1 happart).2.1 hb
    change (output.join (companionPath b.1 b.2)).place t.here ≠ _
    rw [place_companionPath (hslash b (by simp [hb])) output t.here]
    intro e
    exact (OwnFiles.place_eq_iff (hproper a (by simp)) (hproper b (by simp [hb])) _).1 e.symm hapart
  · -- a module file has another name
    rw [← hsplit] at hf hslash
    obtain ⟨b, -, p, -, hmodule⟩ := place_of_mem_files hslash output t.here hf
    rw [hmodule]
    exact (hproper a (by simp)).modulePlace_ne _ p

end Round

/-- No two companions have one path. -/
def PathsApart (as : List (Namespace × Companion)) : Prop :=
  as.Pairwise fun a b => ¬(companionPath a.1 a.2).same (companionPath b.1 b.2) = true

instance (as : List (Namespace × Companion)) : Decidable (PathsApart as) :=
  inferInstanceAs (Decidable (List.Pairwise _ as))

/-- The text of every companion can be read at its path. -/
def TextsKept (options : RenderOptions) (output : Path) (as : List (Namespace × Companion))
    (t : FileTree) : Prop :=
  ∀ a ∈ as, t.readText (output.join (companionPath a.1 a.2)) =
    some (companionText a.1 a.2 options)

instance (options : RenderOptions) (output : Path) (as : List (Namespace × Companion))
    (t : FileTree) : Decidable (TextsKept options output as t) :=
  inferInstanceAs (Decidable (∀ _ ∈ _, _))

theorem snakeApart_of_textsKept {options : RenderOptions} {output : Path} {ds : List Declaration}
    {t : FileTree} (hproper : ∀ a ∈ accepted ds, OwnFiles.Proper a)
    (hdistinct : (ds.map Declaration.qualifiedName).Nodup)
    (hkept : TextsKept options output (accepted ds) t) : (accepted ds).Pairwise SnakeApart := by
  have hqualified := List.pairwise_map.1 (hdistinct.sublist (qualified_accepted ds))
  refine hqualified.imp_of_mem fun {a b} ha hb hne => ?_
  by_contra hmeet
  have htexts : companionText a.1 a.2 options = companionText b.1 b.2 options := by
    have hread := hkept a ha
    rw [OwnFiles.path_eq (hproper a ha) (hproper b hb) hmeet, hkept b hb] at hread
    exact (Option.some.inj hread).symm
  have hspace : a.1 = b.1 := (Classical.not_imp.1 hmeet).1
  exact hne (by rw [hspace, OwnFiles.sourceName_eq (hproper a ha) (hproper b hb) htexts])

/-- After a round without a failing write, the generated companions have paths of their own, and
their texts are on disk, exactly when no two of one namespace have names of one snake form. -/
theorem companions_kept_iff {options : RenderOptions} {output : Path} {ds : List Declaration}
    {t : FileTree} (hnames : ∀ d ∈ ds, WellNamed d)
    (hdistinct : (ds.map Declaration.qualifiedName).Nodup)
    (hwrites : RoundSucceeds options output ds t) :
    (generateRound options output ds t).1.report.generated =
      (accepted ds).map (fun a => a.1.qualify a.2.name) ∧
    (PathsApart (accepted ds) ↔ (accepted ds).Pairwise SnakeApart) ∧
    (TextsKept options output (accepted ds) (generateRound options output ds t).2 ↔
      (accepted ds).Pairwise SnakeApart) := by
  have hproper := OwnFiles.proper_of_accepted hnames
  refine ⟨?_, ?_, ?_⟩
  · rw [(generateRound_eq options output ds t).2.2.2]
    exact process_generated hwrites.1
  · refine List.Pairwise.iff_of_mem fun {a b} ha hb => ?_
    rw [OwnFiles.same_iff (hproper a ha) (hproper b hb), not_not]
  · exact ⟨snakeApart_of_textsKept hproper hdistinct, readText_companion hproper hwrites⟩

section Runs

def plainClass (name : String) : Declaration := ⟨name, .root, .class, []⟩

theorem companions_kept_user_order :
    TextsKept {} ⟨"out"⟩ (accepted [plainClass "User", plainClass "Order"])
      (generateRound {} ⟨"out"⟩ [plainClass "User", plainClass "Order"] .empty).2 :=
  (companions_kept_iff (by decide) (by decide) (by decide +kernel)).2.2.2 (by decide)

def snakeTwins : List Declaration := [plainClass "FooBar", plainClass "Foo_bar"]

/-- The names differ, every write succeeds, and one of the two companions is gone. -/
theorem companion_lost_foo_bar :
    (∀ d ∈ snakeTwins, WellNamed d) ∧ (snakeTwins.map Declaration.qualifiedName).Nodup ∧
    RoundSucceeds {} ⟨"out"⟩ snakeTwins .empty ∧ ¬PathsApart (accepted snakeTwins) ∧
    ¬TextsKept {} ⟨"out"⟩ (accepted snakeTwins)
      (generateRound {} ⟨"out"⟩ snakeTwins .empty).2 := by
  decide +kernel

end Runs

end AccessorGen
