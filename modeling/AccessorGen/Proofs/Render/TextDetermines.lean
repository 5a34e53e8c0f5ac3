import AccessorGen.Proofs.Render.Identifiers

/-! What the text of a companion says. The text holds the namespace, the source name, the field names
and the types as they are written, and nothing else of the companion: two companions have one text
exactly when they agree in these. Each part ends at a character that it cannot hold, so it can be
taken off the front of the text. -/

namespace AccessorGen

namespace Names

theorem safe_inj {s t : String} (hs : '#' ∉ s.toList) (ht : '#' ∉ t.toList)
    (h : safe s = safe t) : s = t := by
  rw [← plainWord_safe hs, h, plainWord_safe ht]

end Names

namespace TypeRef

mutual

theorem newline_not_mem_source {t : TypeRef} (h : Validity.type t = true) :
    '\n' ∉ t.source.toList := by
  cases t with
  | primitive p => cases p <;> decide
  | named s =>
    intro hmem
    exact absurd (Validity.isPathChar_of_path h _ hmem) (by decide)
  | verbatim s => exact Validity.not_mem_of_verbatim h (by simp [Validity.forbidden])
  | generic base args =>
    obtain ⟨hbase, hargs⟩ := Bool.and_eq_true_iff.1 h
    have hplain : '\n' ∉ base.toList := fun hmem =>
      absurd (Validity.isPathChar_of_path hbase _ hmem) (by decide)
    rw [source, applied]
    split
    · exact hplain
    · simp only [String.toList_append, List.mem_append, not_or]
      refine ⟨⟨⟨hplain, by decide⟩, fun hmem => ?_⟩, by decide⟩
      obtain hsep | ⟨s, hs, hc⟩ := Text.mem_intercalate hmem
      · exact absurd hsep (by decide)
      · exact newline_not_mem_sources hargs s hs hc

theorem newline_not_mem_sources {ts : List TypeRef} (h : Validity.types ts = true) :
    ∀ s ∈ sourceAll ts, '\n' ∉ s.toList := by
  cases ts with
  | nil => simp [sourceAll]
  | cons t ts =>
    obtain ⟨ht, hts⟩ := Bool.and_eq_true_iff.1 h
    exact List.forall_mem_cons.2 ⟨newline_not_mem_source ht, newline_not_mem_sources hts⟩

end

end TypeRef

namespace Render

def asWritten (f : Field) : Field := ⟨f.name, .verbatim f.type.source⟩

theorem map_asWritten_inj {fs gs : List Field} :
    fs.map asWritten = gs.map asWritten ↔ fs.map Field.name = gs.map Field.name ∧
      fs.map (fun f => f.type.source) = gs.map (fun g => g.type.source) := by
  constructor
  · intro h
    have hnames := congrArg (List.map Field.name) h
    have htypes := congrArg (List.map fun f : Field => f.type.source) h
    simp only [List.map_map] at hnames htypes
    exact ⟨hnames, htypes⟩
  · rintro ⟨hnames, htypes⟩
    have hzip : ∀ fs : List Field, fs.map asWritten = List.zipWith (fun name text =>
        ⟨name, .verbatim text⟩) (fs.map Field.name) (fs.map fun f => f.type.source) := by
      intro fs
      simp [List.zipWith_map, asWritten]
    rw [hzip, hzip, hnames, htypes]

section Entry

variable {f g : Field} (hf : f.check = .ok ()) (hg : g.check = .ok ())

include hf

theorem not_mem_safe_of_check {c : Char} (hraw : c ∉ "r#".toList)
    (hc : (Text.isLetterOrNumber c || c == '_') = false) : c ∉ (Names.safe f.name).toList :=
  Names.not_mem_safe hraw (Text.not_mem_of_isIdentifier (isIdentifier_of_check hf) hc)

theorem newline_not_mem_entry : '\n' ∉ (fieldEntry f ++ ",").toList := by
  simp only [fieldEntry, String.toList_append, List.mem_append, not_or]
  exact ⟨⟨⟨not_mem_safe_of_check hf (by decide) (by decide), by decide⟩,
    TypeRef.newline_not_mem_source (valid_of_check hf)⟩, by decide⟩

include hg

theorem asWritten_eq_of_fieldEntry (h : fieldEntry f = fieldEntry g) : asWritten f = asWritten g := by
  have hcut : ∀ f, (fieldEntry f).toList =
      (Names.safe f.name).toList ++ ':' :: ' ' :: f.type.source.toList := by
    intro f
    simp [fieldEntry]
  have htexts := congrArg String.toList h
  rw [hcut, hcut] at htexts
  obtain ⟨hname, htype⟩ := Text.append_inj_of_not_mem
    (not_mem_safe_of_check hf (by decide) (by decide))
    (not_mem_safe_of_check hg (by decide) (by decide)) htexts
  have hash := fun {f : Field} (hf : f.check = .ok ()) =>
    Text.not_mem_of_isIdentifier (isIdentifier_of_check hf) (c := '#') (by decide)
  rw [asWritten, asWritten, Names.safe_inj (hash hf) (hash hg) (String.toList_injective hname),
    String.toList_injective (List.cons.inj htype).2]

theorem row_append_inj {indent : Indent} {u v : List Char}
    (h : ((Row.text 1 (fieldEntry f ++ ",")).written indent).toList ++ u =
      ((Row.text 1 (fieldEntry g ++ ",")).written indent).toList ++ v) :
    asWritten f = asWritten g ∧ u = v := by
  have hrow : ∀ (f : Field) u, ((Row.text 1 (fieldEntry f ++ ",")).written indent).toList ++ u =
      (Writer.margin indent 1).toList ++ ((fieldEntry f ++ ",").toList ++ '\n' :: u) := by
    intro f u
    simp [Row.written]
  rw [hrow, hrow, List.append_cancel_left_eq] at h
  obtain ⟨hentry, hrest⟩ := Text.append_inj_of_not_mem (newline_not_mem_entry hf)
    (newline_not_mem_entry hg) h
  have hentry := (String.append_left_inj ",").1 (String.toList_injective hentry)
  exact ⟨asWritten_eq_of_fieldEntry hf hg hentry, hrest⟩

end Entry

theorem row_ne_close (f : Field) (indent : Indent) (u v : List Char) :
    ((Row.text 1 (fieldEntry f ++ ",")).written indent).toList ++ u ≠ '\x7d' :: v := by
  obtain ⟨c, r, hmargin⟩ : ∃ c r, (Writer.margin indent 1).toList = c :: r := by
    refine List.exists_cons_of_ne_nil ?_
    simp only [Writer.margin, Indent.text]
    split <;> simp
  have hspace : c = ' ' ∨ c = '\t' := Writer.mem_margin (hmargin ▸ List.mem_cons_self)
  rw [Row.written, String.toList_append, String.toList_append, hmargin]
  intro h
  obtain rfl := (List.cons.inj h).1
  rcases hspace with h | h <;> cases h

theorem rows_append_inj {fs gs : List Field} (hfs : ∀ f ∈ fs, f.check = .ok ())
    (hgs : ∀ g ∈ gs, g.check = .ok ()) {indent : Indent} {u v : List Char}
    (h : (writtenRows indent (fs.map fun f => .text 1 (fieldEntry f ++ ","))).toList ++ '\x7d' :: u =
      (writtenRows indent (gs.map fun g => .text 1 (fieldEntry g ++ ","))).toList ++
        '\x7d' :: v) : fs.map asWritten = gs.map asWritten := by
  -- where one list ends before the other, a margin stands against the closing brace
  induction fs generalizing gs with
  | nil =>
    cases gs with
    | nil => rfl
    | cons g gs =>
      rw [List.map_cons, writtenRows, String.toList_append, List.append_assoc] at h
      exact absurd h.symm (row_ne_close g indent _ _)
  | cons f fs ih =>
    rw [List.map_cons, writtenRows, String.toList_append, List.append_assoc] at h
    cases gs with
    | nil => exact absurd h (row_ne_close f indent _ _)
    | cons g gs =>
      rw [List.map_cons, writtenRows, String.toList_append, List.append_assoc] at h
      obtain ⟨hf, hfs⟩ := List.forall_mem_cons.1 hfs
      obtain ⟨hg, hgs⟩ := List.forall_mem_cons.1 hgs
      obtain ⟨hfirst, hrest⟩ := row_append_inj hf hg h
      rw [List.map_cons, List.map_cons, hfirst, ih hfs hgs hrest]

theorem structBody_append_inj {c b : Companion} (hc : ∀ f ∈ c.fields, f.check = .ok ())
    (hb : ∀ f ∈ b.fields, f.check = .ok ()) {indent : Indent} {u v : List Char}
    (h : (structBody c indent).toList ++ '\x7d' :: u = (structBody b indent).toList ++ '\x7d' :: v) :
    c.fields.map asWritten = b.fields.map asWritten := by
  unfold structBody at h
  split at h
  next hnone =>
    split at h
    next hnone' => rw [List.isEmpty_iff.1 hnone, List.isEmpty_iff.1 hnone']
    · rw [String.toList_append] at h
      cases h
  · split at h
    · rw [String.toList_append] at h
      cases h
    · rw [String.toList_append, String.toList_append, List.append_assoc, List.append_assoc,
        List.append_cancel_left_eq] at h
      exact rows_append_inj hc hb h

section Space

variable {ns ms : Namespace} (hns : ∀ s ∈ ns.segments, Text.isIdentifier s = true)
  (hms : ∀ s ∈ ms.segments, Text.isIdentifier s = true)

include hns

theorem not_mem_cratePath {c : Char} (hraw : c ∉ "r#".toList)
    (hcrate : c ∉ "::".toList ∧ c ∉ "crate".toList)
    (hc : (Text.isLetterOrNumber c || c == '_') = false) : c ∉ (Names.cratePath ns).toList := by
  intro hmem
  obtain hsep | ⟨s, hs, hmem⟩ := Text.mem_intercalate hmem
  · exact hcrate.1 hsep
  · rcases List.mem_cons.1 hs with rfl | hs
    · exact hcrate.2 hmem
    · obtain ⟨w, hw, rfl⟩ := List.mem_map.1 hs
      exact Names.not_mem_safe hraw (Text.not_mem_of_isIdentifier (hns w hw) hc) hmem

include hms

theorem namespace_eq_of_cratePath (h : Names.cratePath ns = Names.cratePath ms) : ns = ms := by
  have hcolon := fun {ns : Namespace} (hns : ∀ s ∈ ns.segments, Text.isIdentifier s = true) s
    (hs : s ∈ ns.segments) => Text.not_mem_of_isIdentifier (hns s hs) (c := ':') (by decide)
  have himport : sourceImport ns = sourceImport ms := by rw [sourceImport, sourceImport, h]
  have hsegments := segments_sourceImport (hcolon hns)
  rw [himport, segments_sourceImport (hcolon hms)] at hsegments
  have hplain : ∀ {ns : Namespace}, (∀ s ∈ ns.segments, Text.isIdentifier s = true) →
      (ns.segments.map Names.safe).map Text.plainWord = ns.segments := by
    intro ns hns
    rw [List.map_map]
    refine (List.map_congr_left fun s hs => ?_).trans (List.map_id _)
    exact Names.plainWord_safe (Text.not_mem_of_isIdentifier (hns s hs) (by decide))
  have hlists := congrArg (List.map Text.plainWord) (List.cons.inj hsegments).2
  rw [hplain hns, hplain hms] at hlists
  exact Namespace.mk.injEq _ _ ▸ hlists.symm

end Space

theorem toList_companionText (ns : Namespace) (c : Companion) (options : RenderOptions) :
    ∃ rest, (companionText ns c options).toList =
      (companionHeader c ++ "\n\n#[allow(unused_imports)]\nuse ").toList ++
        ((Names.cratePath ns ++ "::").toList ++ '*' :: ((";\n" ++
          Writer.render options.indent (.blank :: deriveFragments options.derives) ++
            "pub struct " ++ c.name ++ " \x7b").toList ++
              ((structBody c options.indent).toList ++ '\x7d' :: rest))) := by
  have hlist : (companionSource ns c options.derives).fragments = (sourceImport ns).fragments ++
      ((.blank :: deriveFragments options.derives) ++
        ([structFragment c] ++ .blank :: (accessorImpl c).fragments)) := by
    simp [fragments_companionSource, fragments_companionStruct]
  have himport : Writer.render options.indent (sourceImport ns).fragments =
      "#[allow(unused_imports)]\nuse " ++ Names.cratePath ns ++ "::*;\n" := by
    apply String.toList_injective
    simp [sourceImport, ImportItem.glob, ImportItem.fragments, attributeLine, Writer.render_eq,
      Fragment.rowsAll, Fragment.rows, writtenRows, Row.written, Writer.margin]
  refine ⟨'\n' :: (Writer.render options.indent (.blank :: (accessorImpl c).fragments)).toList, ?_⟩
  rw [companionText_eq, hlist, Writer.render_append, Writer.render_append, Writer.render_append,
    himport, render_structFragment]
  simp

theorem companionText_asWritten (ns : Namespace) {c : Companion}
    (hc : c.accessors = accessorsOf c.fields) (options : RenderOptions) :
    companionText ns c options = companionText ns ⟨c.sourceName, c.fields.map asWritten,
      accessorsOf (c.fields.map asWritten)⟩ options := by
  have hitem : fieldItem ∘ asWritten = fieldItem := rfl
  have hpair : ∀ f, (Accessor.pair (asWritten f)).map accessorFunction =
      (Accessor.pair f).map accessorFunction := fun _ => rfl
  have hmethods : (accessorsOf (c.fields.map asWritten)).map accessorFunction =
      c.accessors.map accessorFunction := by
    rw [hc, accessorsOf, accessorsOf, List.map_flatMap, List.map_flatMap, List.flatMap_map]
    exact List.flatMap_congr fun f _ => hpair f
  simp only [companionText, companionSource, companionStruct, accessorImpl, companionHeader,
    Companion.name, Companion.hasFields, List.map_map, hitem, hmethods, List.isEmpty_map]
  rfl

theorem companionText_congr {ns : Namespace} {c b : Companion}
    (hc : c.accessors = accessorsOf c.fields) (hb : b.accessors = accessorsOf b.fields)
    (hname : c.sourceName = b.sourceName) (hfields : c.fields.map asWritten = b.fields.map asWritten)
    (options : RenderOptions) : companionText ns c options = companionText ns b options := by
  rw [companionText_asWritten ns hc, companionText_asWritten ns hb, hname, hfields]

section Pair

variable {a b : Namespace × Companion} (ha : OwnFiles.Proper a) (hb : OwnFiles.Proper b)

include ha

theorem star_not_mem_cratePath : '*' ∉ (Names.cratePath a.1 ++ "::").toList := by
  rw [String.toList_append, List.mem_append, not_or]
  exact ⟨not_mem_cratePath ha.2 (by decide) (by decide) (by decide), by decide⟩

include hb

theorem written_of_companionText (hac : ∀ f ∈ a.2.fields, f.check = .ok ())
    (hbc : ∀ f ∈ b.2.fields, f.check = .ok ()) {options : RenderOptions}
    (h : companionText a.1 a.2 options = companionText b.1 b.2 options) :
    a.1 = b.1 ∧ a.2.sourceName = b.2.sourceName ∧
      a.2.fields.map asWritten = b.2.fields.map asWritten := by
  have hname := OwnFiles.sourceName_eq ha hb h
  obtain ⟨aend, hatext⟩ := toList_companionText a.1 a.2 options
  obtain ⟨bend, hbtext⟩ := toList_companionText b.1 b.2 options
  have hlists := congrArg String.toList h
  rw [hatext, hbtext, companionHeader, companionHeader, Companion.name, Companion.name, hname,
    List.append_cancel_left_eq] at hlists
  obtain ⟨hcrate, hlists⟩ := Text.append_inj_of_not_mem (star_not_mem_cratePath ha)
    (star_not_mem_cratePath hb) hlists
  rw [List.append_cancel_left_eq] at hlists
  have hcrate := (String.append_left_inj "::").1 (String.toList_injective hcrate)
  exact ⟨namespace_eq_of_cratePath ha.2 hb.2 hcrate, hname, structBody_append_inj hac hbc hlists⟩

end Pair

/-- The text of a companion holds its namespace, its source name and the names and the written types
of its fields in order, and is made of nothing else of it. -/
theorem companionText_eq_iff {d e : Declaration} {c b : Companion} (hd : d.companion = .ok c)
    (he : e.companion = .ok b) (hdnames : WellNamed d) (henames : WellNamed e)
    (options : RenderOptions) :
    companionText d.space c options = companionText e.space b options ↔
      d.space = e.space ∧ c.sourceName = b.sourceName ∧
        c.fields.map Field.name = b.fields.map Field.name ∧
        c.fields.map (fun f => f.type.source) = b.fields.map (fun f => f.type.source) := by
  have hproper : ∀ {d : Declaration} {c : Companion}, d.companion = .ok c → WellNamed d →
      OwnFiles.Proper (d.space, c) := by
    intro d c hd hnames
    rw [(companion_eq_ok hd).1]
    exact hnames
  have hparts : ∀ {d : Declaration} {c : Companion}, d.companion = .ok c →
      c.accessors = accessorsOf c.fields ∧ ∀ f ∈ c.fields, f.check = .ok () := by
    intro d c hd
    obtain ⟨rfl, -, hfields⟩ := companion_eq_ok hd
    exact ⟨rfl, hfields⟩
  rw [← map_asWritten_inj]
  constructor
  · exact written_of_companionText (hproper hd hdnames) (hproper he henames) (hparts hd).2
      (hparts he).2
  · rintro ⟨hspace, hname, hfields⟩
    rw [hspace]
    exact companionText_congr (hparts hd).1 (hparts he).1 hname hfields options

section Runs

/-- An order of a shop; the type of its number is taken from the source. -/
def orderOf (number : TypeRef) : Declaration :=
  ⟨"Order", ⟨["shop", "type"]⟩, .class, [⟨"number", .field number⟩, ⟨"total", .method⟩,
    ⟨"match", .field (.generic "Vec" [.primitive .string])⟩]⟩

/-- What a type is held as does not come into the text: these companions differ and have one. -/
theorem companionText_orders :
    WellNamed (orderOf (.primitive .int)) ∧
    (orderOf (.primitive .int)).companion ≠ (orderOf (.named "i64")).companion ∧
    ∃ c b, (orderOf (.primitive .int)).companion = .ok c ∧
      (orderOf (.named "i64")).companion = .ok b ∧
      companionText ⟨["shop", "type"]⟩ c {} = companionText ⟨["shop", "type"]⟩ b {} := by
  refine ⟨by decide, by decide, _, _, rfl, rfl, ?_⟩
  exact (companionText_eq_iff (d := orderOf (.primitive .int)) (e := orderOf (.named "i64"))
    rfl rfl (by decide) (by decide) {}).2 (by decide)

end Runs

end Render

end AccessorGen
