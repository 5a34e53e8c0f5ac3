import AccessorGen.Proofs.Output.Again
import AccessorGen.Proofs.Output.Inside
import AccessorGen.Proofs.Output.Readable
import AccessorGen.Run.Session

/-! Running again. The output directory may lie below the source directory, and then a second run
also reads what the first has written. It does the same as the first, and changes nothing, exactly
when it discovers the same declarations; and that is when no text that was written is at fault or
holds an annotated item, unless a file that declared something has been replaced. None is where the
names that are written are words and the types are paths. -/

namespace AccessorGen

theorem moduleOf_ne_empty (c : Companion) : Names.moduleOf c.name ≠ "" := by
  by_cases h : c.sourceName.toList = []
  · have hname : c.name = "Data" := by
      rw [Companion.name, Companion.nameFor, String.toList_eq_nil_iff.1 h, String.empty_append]
    rw [hname]
    decide
  · rw [Names.moduleOf, Companion.name, Text.snakeCase_nameFor h]
    simp

theorem isSourcePlace_roundFiles {options : RenderOptions} {as : List (Namespace × Companion)}
    (h : ∀ a ∈ as, SlashFree a) (output : Path) (start : Place) :
    ∀ f ∈ roundFiles options as, IsSourcePlace ((output.join f.path).place start) := by
  intro f hf
  rcases List.mem_append.1 hf with hf | hf
  · obtain ⟨a, ha, rfl⟩ := List.mem_map.1 hf
    refine ⟨Names.moduleOf a.2.name, moduleOf_ne_empty a.2, ?_⟩
    change ((output.join (Render.companionPath a.1 a.2)).place start).getLast? = _
    rw [place_companionPath (h a ha), companionPlace, List.getLast?_concat]
    rfl
  · obtain ⟨a, -, p, -, hplace⟩ := place_of_mem_files h output start hf
    refine ⟨"mod", by decide, ?_⟩
    rw [hplace, modulePlace, List.getLast?_concat]
    rfl

namespace Settings

/-- The tree that a run leaves. -/
def after (s : Settings) (t : FileTree) : FileTree := (s.generate t).2

/-- A run ends without a fault and without errors among its diagnostics. -/
def Succeeds (s : Settings) (t : FileTree) : Prop :=
  (Ending.ofGenerate (s.generate t).1).exitCode = 0

instance (s : Settings) (t : FileTree) : Decidable (s.Succeeds t) :=
  inferInstanceAs (Decidable (_ = _))

/-- The names that a run reports as generated. -/
def generated (s : Settings) (t : FileTree) : Except InputFault (List String) :=
  (s.generate t).1.map (·.round.generated)

/-- A second run succeeds, does the same as the first, and changes nothing. -/
structure Stable (s : Settings) (t : FileTree) : Prop where
  succeeds : s.Succeeds (s.after t)
  declarations : s.declarations (s.after t) = s.declarations t
  generated : s.generated (s.after t) = s.generated t
  tree : s.after (s.after t) = s.after t

/-- The places of the files of a run that writes everything. -/
def outputPlaces (s : Settings) (t : FileTree) : List Place :=
  match s.declarations t with
  | .ok ds => (writtenFiles s.options s.output ds).map fun f => f.path.place t.here
  | .error _ => []

/-- Nothing that a tree has at the places of a run, as far as they are below the source directory,
would be discovered or be a fault. -/
def SilentOutput (s : Settings) (t u : FileTree) : Prop :=
  SilentAt s.marker (s.source.place t.here) (s.outputPlaces t) u

instance (s : Settings) (t u : FileTree) : Decidable (s.SilentOutput t u) :=
  inferInstanceAs (Decidable (SilentAt _ _ _ _))

/-- The companions of a run are readable, and items are not annotated by the words that generated
attributes begin with. -/
def ReadableOutput (s : Settings) (t : FileTree) : Prop :=
  s.marker ∉ ["allow", "derive"] ∧
    (s.declarations t).toOption.any
      (fun ds => (accepted ds).all (isReadable s.options.derives)) = true

instance (s : Settings) (t : FileTree) : Decidable (s.ReadableOutput t) :=
  inferInstanceAs (Decidable (_ ∧ _))

section Runs

variable {s : Settings} {t : FileTree}

theorem generate_of_declarations {ds : List Declaration} (h : s.declarations t = .ok ds) :
    s.generate t =
      (.ok ⟨s.output, (generateRound s.options s.output ds t).1.report,
        (generateRound s.options s.output ds t).1.diagnostics,
        .stored (generateRound s.options s.output ds t).1.written
          (generateRound s.options s.output ds t).1.unchanged⟩,
        (generateRound s.options s.output ds t).2) := by
  rw [generate, h]

theorem succeeds_iff : s.Succeeds t ↔ ∃ ds, s.declarations t = .ok ds ∧
    (generateRound s.options s.output ds t).1.diagnostics.any Diagnostic.isError = false := by
  unfold Succeeds
  cases hds : s.declarations t with
  | error fault => simp [generate, hds, Ending.ofGenerate, Ending.exitCode]
  | ok ds =>
    rw [generate_of_declarations hds]
    simp [Ending.ofGenerate, Ending.exitCode, GenerateReport.hasErrors]

theorem stable_of_declarations (h : s.Succeeds t)
    (hsame : s.declarations (s.after t) = s.declarations t) : s.Stable t := by
  obtain ⟨ds, hds, hclean⟩ := succeeds_iff.1 h
  have hafter : s.after t = (generateRound s.options s.output ds t).2 := by
    rw [after, generate_of_declarations hds]
  have hagain : s.declarations (s.after t) = .ok ds := hsame.trans hds
  obtain ⟨hround, htree⟩ := generateRound_again (roundSucceeds_of_noErrors hclean).1
  obtain ⟨hreport, hdiagnostics⟩ :=
    generateRound_same (roundSucceeds_of_noErrors hclean).1 hround
  rw [← hafter] at hreport hdiagnostics htree
  refine ⟨succeeds_iff.2 ⟨ds, hagain, by rwa [← hdiagnostics]⟩, hsame, ?_, ?_⟩
  · rw [generated, generated, generate_of_declarations hagain, generate_of_declarations hds]
    simp [Except.map, hreport]
  · rw [after, generate_of_declarations hagain]
    exact htree

theorem writesAll_after {ds : List Declaration} (hds : s.declarations t = .ok ds)
    (hclean : (generateRound s.options s.output ds t).1.diagnostics.any Diagnostic.isError = false) :
    OutputFile.WritesAll (writtenFiles s.options s.output ds) t (s.after t) := by
  rw [after, generate_of_declarations hds]
  exact generateRound_writes (roundSucceeds_of_noErrors hclean).1

theorem outputPlaces_eq {ds : List Declaration} (hds : s.declarations t = .ok ds) :
    s.outputPlaces t =
      (writtenFiles s.options s.output ds).map fun f => f.path.place t.here := by
  rw [outputPlaces, hds]

/-- Where no file that declares something has been replaced, the same is discovered again exactly
when nothing written is at fault or declares something. -/
theorem rediscovers_iff (ht : t.Sound) (h : s.Succeeds t) (hold : s.SilentOutput t t) :
    s.declarations (s.after t) = s.declarations t ↔ s.SilentOutput t (s.after t) := by
  obtain ⟨ds, hds, hclean⟩ := succeeds_iff.1 h
  have hwrites := writesAll_after hds hclean
  have hplaces := outputPlaces_eq hds
  have hmem : (fun q => ∃ f ∈ writtenFiles s.options s.output ds, q = f.path.place t.here) =
      (· ∈ s.outputPlaces t) := by
    funext q
    simp [hplaces, eq_comm]
  have hkeep := hwrites.keeps
  have hmake := hwrites.makes
  rw [hmem] at hkeep hmake
  have hsource : ∀ q ∈ s.outputPlaces t, IsSourcePlace q := by
    intro q hq
    rw [hplaces] at hq
    obtain ⟨_, hwritten, rfl⟩ := List.mem_map.1 hq
    obtain ⟨f, hf, rfl⟩ := List.mem_map.1 hwritten
    have hslash := slashFree_discover (Node.wellNamed_of_sound ht.root) hds
    exact isSourcePlace_roundFiles (slashFree_accepted hslash) s.output t.here f hf
  rw [hds]
  exact rediscover_iff ht hsource hkeep hmake hds hold

theorem silentOutput_of_readable (h : s.Succeeds t) (hread : s.ReadableOutput t) :
    s.SilentOutput t (s.after t) := by
  obtain ⟨ds, hds, hclean⟩ := succeeds_iff.1 h
  obtain ⟨hmarker, hall⟩ := hread
  rw [hds] at hall
  have hsilent := declaresNothing_roundFiles hmarker (List.all_eq_true.1 hall)
  intro q hq _ c hlook
  rw [outputPlaces_eq hds] at hq
  obtain ⟨f, hf, rfl⟩ := List.mem_map.1 hq
  obtain ⟨g, hg, hwritten⟩ := (writesAll_after hds hclean).look_text hf
  obtain ⟨written, hround, rfl⟩ := List.mem_map.1 hg
  obtain rfl : c = .text written.content := by
    rw [hwritten] at hlook
    exact (View.file.inj (Option.some.inj hlook)).symm
  exact hsilent written hround

/-- After a run that succeeds on a sound tree, a second run is stable exactly when it discovers the
same declarations. Where no file that declares something has been replaced, this is the case exactly
when nothing written below the source directory is at fault or declares something; and that is so
whenever the names that are written are words and the types of the fields are paths. -/
theorem stable_iff (ht : t.Sound) (h : s.Succeeds t) :
    (s.Stable t ↔ s.declarations (s.after t) = s.declarations t) ∧
    (s.SilentOutput t t → (s.Stable t ↔ s.SilentOutput t (s.after t)) ∧
      (s.ReadableOutput t → s.Stable t)) := by
  have hstable : s.Stable t ↔ s.declarations (s.after t) = s.declarations t :=
    ⟨Stable.declarations, stable_of_declarations h⟩
  refine ⟨hstable, fun hold => ?_⟩
  have hsilent := hstable.trans (rediscovers_iff ht h hold)
  exact ⟨hsilent, fun hread => hsilent.2 (silentOutput_of_readable h hread)⟩

end Runs

section Examples

def userTree : FileTree :=
  { root := .dir [("src", .dir [("user.rs", .file (.text
      "#[custom_lombok] struct User \x7b id: u64, tags: Vec<Option<String>> \x7d"))])],
    here := [] }

def default : Settings := ⟨⟨"src"⟩, ⟨"src/generated"⟩, "custom_lombok", {}⟩

theorem stable_user : userTree.Sound ∧ default.Succeeds userTree ∧
    default.SilentOutput userTree userTree ∧ default.ReadableOutput userTree ∧
    default.Stable userTree := by
  have hsound : userTree.Sound := by decide
  have hrun : default.Succeeds userTree := by decide +kernel
  have hold : default.SilentOutput userTree userTree := by decide +kernel
  have hread : default.ReadableOutput userTree := by decide +kernel
  exact ⟨hsound, hrun, hold, hread, ((stable_iff hsound hrun).2 hold).2 hread⟩

/-- The module file of a file name that is no word cannot be read again. -/
theorem unstable_my_tool : (sourceTree "my-tool.rs").Sound ∧
    default.Succeeds (sourceTree "my-tool.rs") ∧
    default.SilentOutput (sourceTree "my-tool.rs") (sourceTree "my-tool.rs") ∧
    ¬default.Stable (sourceTree "my-tool.rs") := by
  have hsound : (sourceTree "my-tool.rs").Sound := by decide
  have hrun : default.Succeeds (sourceTree "my-tool.rs") := by decide +kernel
  have hold : default.SilentOutput (sourceTree "my-tool.rs") (sourceTree "my-tool.rs") := by
    decide +kernel
  have hnew : ¬default.SilentOutput (sourceTree "my-tool.rs")
      (default.after (sourceTree "my-tool.rs")) := by
    decide +kernel
  exact ⟨hsound, hrun, hold, fun h => hnew ((rediscovers_iff hsound hrun hold).1 h.declarations)⟩

end Examples

end Settings

end AccessorGen
