import AccessorGen.Proofs.Grammar.Measures
import AccessorGen.Proofs.Render.CompanionReads
import AccessorGen.Proofs.Render.ModuleText

/-! Generated files as sources: where the names in them are names to the lexer and the types are
paths, they are read without a fault, and nothing in them is annotated but with the words of
generated attributes. -/

namespace AccessorGen

open Source
open Source.Token (nowhere flatAll sizeAll plainAll)
open Source.Lexer (ReadsPlain Reads)

namespace Render

theorem reads_renderUnder {f : SourceFile} {fs : List Flat} (h : FragmentsRead f.fragments fs)
    {header : String} {line : List Char} (hheader : header.toList = '/' :: '/' :: ' ' :: line)
    (hline : '\n' ∉ line) (indent : Indent) :
    Reads (f.renderUnder header indent).toList fs := by
  have hcontent : ReadsPlain (f.render indent).toList fs := by
    have hrows := h indent 0 [] [] (.done rfl)
    rwa [List.append_nil, List.append_nil, ← Writer.render_eq] at hrows
  rw [SourceFile.renderUnder]
  split
  next hempty =>
    have hnil : (f.render indent).toList = [] := by
      rw [String.toList_eq_nil_iff]
      exact String.isEmpty_iff.1 hempty
    rw [hnil] at hcontent
    rw [String.toList_append, hheader]
    exact Lexer.reads_behind_comment hline hcontent
  · rw [String.toList_append, String.toList_append, hheader, List.append_assoc]
    exact Lexer.reads_behind_comment hline (hcontent.space (c := '\n') (by decide))

end Render

/-- A generated file declares nothing where the grammar takes the tokens of its fragments as items
without the mark. -/
theorem declaresNothing_renderUnder {f : Render.SourceFile} {ts : List Token} {marker : String}
    (hfragments : FragmentsRead f.fragments (flatAll ts)) {header : String} {line : List Char}
    (hheader : header.toList = '/' :: '/' :: ' ' :: line) (hline : '\n' ∉ line) (indent : Indent)
    (hplain : plainAll ts = true)
    (h : Takes (items (Grammar.level (4 * sizeAll ts + 16))) ts
      (fun is => anyAnnotated marker is = false) []) :
    DeclaresNothing marker (f.renderUnder header indent) := by
  obtain ⟨r, hr⟩ : ∃ r, (f.renderUnder header indent).toList = '/' :: r := by
    rw [Render.SourceFile.renderUnder]
    split <;> exact ⟨_, by simp only [String.toList_append, hheader]; rfl⟩
  have hreads := Render.reads_renderUnder hfragments hheader hline indent
  have hparsed : SourceText.parsed ⟨f.renderUnder header indent, ""⟩ = '/' :: r := by
    rw [SourceText.parsed, hr]
    rfl
  have hclosed : Flat.closed [] (flatAll ts) = true := by
    simpa [Flat.closed] using Token.closed_flatAll ts [] []
  rw [hr] at hreads
  obtain ⟨out, hout, hflat⟩ := Lexer.tokens_of_reads hreads (by decide) hclosed
  obtain ⟨is, hread, his⟩ := readAll_of_takes (Token.bareAll_eq hplain hflat) h
  have hitems : readText items ('/' :: r) = .ok is := by
    rw [readText, hout]
    exact hread
  refine declaresNothing_iff.2 ⟨is, ?_, his⟩
  rw [SourceText.items, hparsed, hitems]

theorem Source.CompanionSyntax.ne_nil_of_mem_itemTokens (c : CompanionSyntax) :
    ∀ ts ∈ c.itemTokens, ts ≠ [] := by
  simp [CompanionSyntax.itemTokens, importTokens, structTokens, implTokens]

theorem declaresNothing_companionText {ns : Namespace} {c : Companion} {options : RenderOptions}
    {s : CompanionSyntax} (h : c.WrittenWith ns options.derives s)
    (haccessors : c.accessors = accessorsOf c.fields) {marker : String}
    (hmarker : marker ∉ ["allow", "derive"]) :
    DeclaresNothing marker (Render.companionText ns c options) := by
  have hgroups : FragmentsRead (Render.companionSource ns c options.derives).fragments
      (flatAll s.itemTokens.flatten) :=
    Render.reads_groups (.cons (Render.reads_sourceImport h.space)
      (.cons (Render.reads_companionStruct h)
      (.cons (Render.reads_accessorImpl h haccessors) .nil)))
  have hheader : (Render.companionHeader c).toList = '/' :: '/' :: ' ' ::
      ("@generated by companion from `".toList ++ (c.sourceName.toList ++
        "`. Do not edit by hand.".toList)) := by
    simp [Render.companionHeader, generatedMark]
  have hname : '\n' ∉ c.name.toList := by
    rw [h.name]
    exact s.name.word.not_mem (by decide)
  have hsource : '\n' ∉ c.sourceName.toList := fun hin => hname (by
    rw [Companion.name, Companion.nameFor, String.toList_append]
    exact List.mem_append_left _ hin)
  refine declaresNothing_renderUnder hgroups hheader ?_ options.indent s.plain_itemTokens
    (takes_items _ s.itemTokens s.ne_nil_of_mem_itemTokens rfl
      (takes_itemTokens s s.levels_le) hmarker)
  simp only [List.mem_append, not_or]
  exact ⟨by decide, hsource, by decide⟩

theorem Render.fragments_addGroup (items : List (List Fragment)) :
    (({} : SourceFile).addGroup items).fragments = items.flatten := by
  rw [SourceFile.addGroup]
  split
  next hempty => exact (List.isEmpty_iff.1 hempty).symm
  · exact List.append_nil _

theorem declaresNothing_fileText {modules : List String} {names : List Name}
    (h : modules.map Names.safe = names.map fun n => n.word.text) (marker : String) :
    DeclaresNothing marker (ModuleTree.fileText modules) := by
  have hfragments : FragmentsRead (modules.map fun m =>
      ({ name := Names.safe m } : Render.ModuleItem).fragments).flatten
      (flatAll (names.map moduleTokens).flatten) := by
    induction modules generalizing names with
    | nil =>
      obtain rfl := List.map_eq_nil_iff.1 h.symm
      exact .nil
    | cons m modules ih =>
      cases names with
      | nil => cases h
      | cons n names =>
        obtain ⟨hm, h⟩ := List.cons.inj h
        rw [List.map_cons, List.map_cons, List.flatten_cons, List.flatten_cons,
          Token.flatAll_append]
        exact (Render.reads_moduleItem hm).append (ih h)
  have hplain : plainAll (names.map moduleTokens).flatten = true :=
    Token.plainAll_flatMap fun n _ => plain_moduleTokens n
  have hinner : ∀ q, (Look.mark "#" (names.map moduleTokens).flatten && q) = false := by
    cases names <;> intro q <;> rfl
  rw [← Render.fragments_addGroup] at hfragments
  refine declaresNothing_renderUnder hfragments rfl (by decide) .four hplain
    (takes_items [] _ ?_ (hinner _) ?_ List.not_mem_nil)
  · simp [moduleTokens]
  · rintro _ hts us
    obtain ⟨n, -, rfl⟩ := List.mem_map.1 hts
    exact (takes_moduleTokens n).mono fun i hi => ⟨[], List.Subset.refl _, hi⟩

end AccessorGen
