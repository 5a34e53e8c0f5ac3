import AccessorGen.Proofs.Layout.Rows
import AccessorGen.Proofs.Render.TypeText
import AccessorGen.Proofs.Round.Accepted
import AccessorGen.Render.CompanionFile
import Mathlib.Data.List.TakeWhile

/-! Fields and setters in the text of a companion. The text is read back by its brackets: the body
of the struct is cut at the commas outside all brackets, and so is what stands between the brackets
of a setter. Each field is found again in its place exactly when its type stays in place. -/

namespace AccessorGen

/-- The text without blanks and line ends in front. -/
def skipSpace (s : List Char) : List Char := s.dropWhile [' ', '\t', '\n'].contains

/-- What stands between the outer commas; behind the last one there may be nothing. -/
def entries (s : List Char) : List (List Char) := (Nest.cut .start s).map skipSpace

/-- What stands between the first bracket and the one that closes it. -/
def parameters (signature : String) : Option (List (List Char)) :=
  (Nest.inside .start ((signature.toList.dropWhile (· ≠ '(')).drop 1)).map entries

def Clean (s : List Char) : Prop :=
  Nest.avoids Nest.outerComma .start s = true ∧ (Nest.through .start s).depth = 0

theorem avoids_skipSpace (s : List Char) :
    Nest.avoids Nest.outerComma .start (skipSpace s) = Nest.avoids Nest.outerComma .start s ∧
    Nest.through .start (skipSpace s) = Nest.through .start s := by
  have hspace : ∀ c ∈ s.takeWhile [' ', '\t', '\n'].contains, Nest.isPlain c = true :=
    fun c hc => Nest.isPlain_of_class (p := [' ', '\t', '\n'].contains) (by decide)
      (List.mem_takeWhile_imp hc)
  have hover := Nest.through_of_isPlain hspace 0
  have hsplit : s.takeWhile [' ', '\t', '\n'].contains ++ skipSpace s = s :=
    List.takeWhile_append_dropWhile
  constructor
  · rw [Bool.eq_iff_iff]
    conv_rhs => rw [← hsplit, Nest.avoids_append, Nest.start, hover]
    simp [Nest.start, Nest.avoids_comma_of_isPlain hspace]
  · conv_rhs => rw [← hsplit, Nest.through_append, Nest.start, hover]
    rfl

theorem clean_skipSpace (s : List Char) : Clean (skipSpace s) ↔ Clean s := by
  rw [Clean, Clean, (avoids_skipSpace s).1, (avoids_skipSpace s).2]

theorem clean_of_entries {s last : List Char} {es : List (List Char)}
    (h : entries s = es ++ [last]) :
    (∀ e ∈ es, Clean e) ∧ Nest.avoids Nest.outerComma .start last = true ∧
    (Nest.through .start s).depth = (Nest.through .start last).depth := by
  induction es generalizing s with
  | nil =>
    obtain ⟨p, hp, rfl⟩ := List.map_eq_singleton_iff.1 h
    obtain ⟨havoids, hall, -⟩ := Nest.cut_pieces hp
    obtain rfl := hall rfl
    rw [(avoids_skipSpace s).1, (avoids_skipSpace s).2]
    exact ⟨by simp, havoids, rfl⟩
  | cons e es ih =>
    obtain ⟨p, ps, hcut, rfl, hps⟩ := List.map_eq_cons_iff.1 h
    have hne : ps ≠ [] := by
      rintro rfl
      simp at hps
    obtain ⟨havoids, -, hmore⟩ := Nest.cut_pieces hcut
    obtain ⟨hdepth, r, rfl, hr⟩ := hmore hne
    obtain ⟨hrest, hlast, hend⟩ := ih (s := r) (by rw [entries, hr, hps]; rfl)
    refine ⟨List.forall_mem_cons.2 ⟨(clean_skipSpace p).2 ⟨havoids, hdepth⟩, hrest⟩, hlast, ?_⟩
    rw [Nest.through_append, Nest.through_cons, Nest.step_comma, hdepth]
    exact hend

theorem entries_cons {p r : List Char} (h : Clean p) :
    entries (p ++ ',' :: r) = skipSpace p :: entries r := by
  rw [entries, Nest.cut_append_comma h.1 h.2]
  rfl

theorem entries_single {p : List Char} (h : Clean p) : entries p = [skipSpace p] := by
  rw [entries, Nest.cut_of_avoids h.1]
  rfl

namespace Render

/-- A field as the struct and its setter spell it. -/
def fieldEntry (f : Field) : String := Names.safe f.name ++ ": " ++ f.type.source

theorem toList_fieldEntry (f : Field) :
    (fieldEntry f).toList = (Names.safe f.name ++ ": ").toList ++ f.type.source.toList := by
  simp [fieldEntry]

section Field

variable {f : Field} (hf : f.check = .ok ())

include hf

theorem isIdentifier_of_check : Text.isIdentifier f.name = true :=
  (Bool.and_eq_true_iff.1 (Field.check_eq_ok_iff.1 hf).1).1

theorem valid_of_check : Validity.type f.type = true := (Field.check_eq_ok_iff.1 hf).2

theorem isPlain_label : ∀ c ∈ (Names.safe f.name ++ ": ").toList, Nest.isPlain c = true := by
  have hname : ∀ c ∈ f.name.toList, Nest.isPlain c = true := fun c hc =>
    Nest.isPlain_of_word (Text.isIdentifierChars_mem (isIdentifier_of_check hf) hc)
  have hraw : ∀ c ∈ "r#".toList, Nest.isPlain c = true := List.all_eq_true.1 (by decide)
  have hcolon : ∀ c ∈ ": ".toList, Nest.isPlain c = true := List.all_eq_true.1 (by decide)
  intro c hc
  rw [String.toList_append, List.mem_append, Names.safe] at hc
  split at hc
  · rw [String.toList_append, List.mem_append] at hc
    rcases hc with (hc | hc) | hc
    · exact hraw c hc
    · exact hname c hc
    · exact hcolon c hc
  · rcases hc with hc | hc
    · exact hname c hc
    · exact hcolon c hc

theorem skipSpace_entry {lead : List Char}
    (hlead : ∀ c ∈ lead, [' ', '\t', '\n'].contains c = true) :
    skipSpace (lead ++ (fieldEntry f).toList) = (fieldEntry f).toList := by
  have hhead : ∃ c r, (Names.safe f.name).toList = c :: r ∧
      [' ', '\t', '\n'].contains c = false := by
    unfold Names.safe
    split
    · exact ⟨'r', '#' :: f.name.toList, by simp, by decide⟩
    · have hname := isIdentifier_of_check hf
      obtain ⟨c, r, hcr⟩ := List.exists_cons_of_ne_nil (Text.toList_ne_nil_of_isIdentifier hname)
      refine ⟨c, r, hcr, ?_⟩
      have hword := Text.isIdentifierChars_mem hname (c := c) (by rw [hcr]; simp)
      have hspace : [' ', '\t', '\n'].any (fun d => Text.isLetterOrNumber d || d == '_') = false := by
        decide
      rw [← Bool.not_eq_true, List.contains_iff_mem]
      intro hmem
      exact List.any_eq_false.1 hspace c hmem hword
  obtain ⟨c, r, hcr, hc⟩ := hhead
  rw [skipSpace, List.dropWhile_append_of_pos hlead, fieldEntry, String.toList_append,
    String.toList_append, hcr, List.cons_append, List.cons_append, List.dropWhile_cons_of_neg]
  simpa using hc

theorem clean_entry : Clean (fieldEntry f).toList ↔ f.type.staysInPlace = true := by
  have hlabel := isPlain_label hf
  rw [TypeRef.staysInPlace_iff (valid_of_check hf), Clean, toList_fieldEntry, Nest.avoids_append,
    Nest.through_append, Nest.start, Nest.through_of_isPlain hlabel]
  exact and_congr_left fun _ => and_iff_right (Nest.avoids_comma_of_isPlain hlabel _)

end Field

/-- What stands between the braces of the struct. -/
def structBody (c : Companion) (indent : Indent) : String :=
  if c.fields.isEmpty then ""
  else "\n" ++ writtenRows indent (c.fields.map fun f => .text 1 (fieldEntry f ++ ","))

theorem isSpace_margin (indent : Indent) (level : Nat) :
    ∀ c ∈ (Writer.margin indent level).toList, [' ', '\t', '\n'].contains c = true := by
  intro c hc
  obtain rfl | rfl := Writer.mem_margin hc <;> rfl

theorem clean_append_of_space {lead s : List Char}
    (hlead : ∀ c ∈ lead, [' ', '\t', '\n'].contains c = true) : Clean (lead ++ s) ↔ Clean s := by
  rw [← clean_skipSpace, ← clean_skipSpace s, skipSpace, skipSpace,
    List.dropWhile_append_of_pos hlead]

theorem entries_rows {fs : List Field} (hfs : ∀ f ∈ fs, f.check = .ok ())
    (hstay : ∀ f ∈ fs, f.type.staysInPlace = true) (indent : Indent) {lead : List Char}
    (hlead : ∀ c ∈ lead, [' ', '\t', '\n'].contains c = true) :
    entries (lead ++
      (writtenRows indent (fs.map fun f => .text 1 (fieldEntry f ++ ","))).toList) =
      fs.map (fun f => (fieldEntry f).toList) ++ [[]] := by
  induction fs generalizing lead with
  | nil =>
    have hclean : Clean lead := by
      rw [← List.append_nil lead, clean_append_of_space hlead]
      exact ⟨rfl, rfl⟩
    simpa [entries_single hclean, skipSpace] using hlead
  | cons f fs ih =>
    obtain ⟨hf, hrest⟩ := List.forall_mem_cons.1 hfs
    obtain ⟨hstayf, hstays⟩ := List.forall_mem_cons.1 hstay
    have hmargin : ∀ c ∈ lead ++ (Writer.margin indent 1).toList,
        [' ', '\t', '\n'].contains c = true := fun c hc =>
      (List.mem_append.1 hc).elim (hlead c) (isSpace_margin indent 1 c)
    have htext : lead ++ (writtenRows indent
        ((f :: fs).map fun f => .text 1 (fieldEntry f ++ ","))).toList =
        (lead ++ (Writer.margin indent 1).toList ++ (fieldEntry f).toList) ++ ',' :: (['\n'] ++
          (writtenRows indent (fs.map fun f => .text 1 (fieldEntry f ++ ","))).toList) := by
      simp [writtenRows, Row.written]
    have hclean : Clean (lead ++ (Writer.margin indent 1).toList ++ (fieldEntry f).toList) :=
      (clean_append_of_space hmargin).2 ((clean_entry hf).2 hstayf)
    rw [htext, entries_cons hclean, skipSpace_entry hf hmargin, ih hrest hstays
      (List.all_eq_true.1 (by decide))]
    rfl

theorem entries_structBody {c : Companion} (hfields : ∀ f ∈ c.fields, f.check = .ok ())
    (indent : Indent) :
    entries (structBody c indent).toList = c.fields.map (fun f => (fieldEntry f).toList) ++ [[]] ↔
      ∀ f ∈ c.fields, f.type.staysInPlace = true := by
  constructor
  · intro h f hf
    have hclean := (clean_of_entries h).1 _ (List.mem_map.2 ⟨f, hf, rfl⟩)
    exact (clean_entry (hfields f hf)).1 hclean
  · intro h
    unfold structBody
    split
    next hempty => simp [List.isEmpty_iff.1 hempty, entries, Nest.cut, skipSpace]
    · rw [String.toList_append]
      exact entries_rows hfields h indent (List.all_eq_true.1 (by decide))

theorem rowsAll_fields (fs : List Field) :
    Fragment.rowsAll 1 ((fs.map fieldItem).flatMap FieldItem.fragments) =
      fs.map fun f => .text 1 (fieldEntry f ++ ",") := by
  induction fs with
  | nil => rfl
  | cons f fs ih =>
    rw [List.map_cons, List.flatMap_cons, Fragment.rowsAll_append, ih]
    simp [FieldItem.fragments, fieldItem, docLine, Field.visibility, visibilityWord, fieldEntry,
      Fragment.rowsAll, Fragment.rows]

def structFragment (c : Companion) : Fragment :=
  if c.fields.isEmpty then .line ("pub struct " ++ c.name ++ " \x7b\x7d")
  else .block ("pub struct " ++ c.name ++ " \x7b")
    ((c.fields.map fieldItem).flatMap FieldItem.fragments) (some "\x7d")

theorem render_structFragment (c : Companion) (indent : Indent) :
    Writer.render indent [structFragment c] =
      "pub struct " ++ c.name ++ " \x7b" ++ structBody c indent ++ "\x7d\n" := by
  apply String.toList_injective
  unfold structFragment structBody
  split
  · simp [Writer.render_eq, Fragment.rowsAll, Fragment.rows, writtenRows, Row.written,
      Writer.margin]
  · simp [Writer.render_eq, Fragment.rowsAll, Fragment.rows, writtenRows, Row.written,
      Writer.margin, rowsAll_fields, writtenRows_append]

def deriveFragments (derives : List String) : List Fragment :=
  if derives.isEmpty then [] else [attributeLine ("derive(" ++ ", ".intercalate derives ++ ")")]

theorem fragments_companionStruct (c : Companion) (derives : List String) :
    (companionStruct c derives).fragments = deriveFragments derives ++ [structFragment c] := by
  simp [StructItem.fragments, companionStruct, docLine, structFragment, StructItem.header,
    Companion.visibility, visibilityWord, deriveFragments]

theorem companionText_eq (ns : Namespace) (c : Companion) (options : RenderOptions) :
    companionText ns c options = companionHeader c ++ "\n\n" ++
      Writer.render options.indent (companionSource ns c options.derives).fragments := by
  have hcontent : (Writer.render options.indent
      (companionSource ns c options.derives).fragments).isEmpty = false := by
    rw [String.isEmpty_eq_false_iff, ne_eq, ← String.toList_eq_nil_iff, Writer.render_eq]
    simp [companionSource, SourceFile.fragments, sourceImport, ImportItem.fragments, attributeLine,
      Fragment.rowsAll, Fragment.rows, writtenRows, Row.written]
  simp [companionText, SourceFile.renderUnder, SourceFile.render, hcontent]

theorem fragments_companionSource (ns : Namespace) (c : Companion) (derives : List String) :
    (companionSource ns c derives).fragments = (sourceImport ns).fragments ++
      .blank :: (companionStruct c derives).fragments ++ .blank :: (accessorImpl c).fragments := by
  simp [companionSource, SourceFile.fragments]

theorem companionText_struct (ns : Namespace) (c : Companion) (options : RenderOptions) :
    ∃ front back, companionText ns c options =
      front ++ ("pub struct " ++ c.name ++ " \x7b" ++ structBody c options.indent ++ "\x7d\n") ++
        back := by
  have hlist : (companionSource ns c options.derives).fragments =
      ((sourceImport ns).fragments ++ .blank :: deriveFragments options.derives) ++
        ([structFragment c] ++ .blank :: (accessorImpl c).fragments) := by
    simp [fragments_companionSource, fragments_companionStruct]
  rw [companionText_eq, hlist, Writer.render_append _ (_ ++ _),
    Writer.render_append _ [structFragment c], render_structFragment]
  refine ⟨companionHeader c ++ "\n\n" ++ Writer.render options.indent
    ((sourceImport ns).fragments ++ .blank :: deriveFragments options.derives),
    Writer.render options.indent (.blank :: (accessorImpl c).fragments), ?_⟩
  simp only [String.append_assoc]

theorem signature_setter (f : Field) :
    (accessorFunction (Accessor.setter f)).signature =
      "pub fn " ++ Accessor.methodName .setter f.name ++ "(" ++
        ("&mut self, " ++ fieldEntry f ++ ") \x7b") := by
  apply String.toList_injective
  simp [FunctionItem.signature, accessorFunction, Accessor.setter, FunctionItem.paramTexts,
    Accessor.visibility, visibilityWord, Receiver.text, fieldEntry]

theorem parameters_eq {name : String} (hname : '(' ∉ name.toList) (tail : String) :
    parameters (name ++ "(" ++ tail) = (Nest.inside .start tail.toList).map entries := by
  have hlist : ((name ++ "(" ++ tail).toList.dropWhile (· ≠ '(')).drop 1 = tail.toList := by
    rw [String.toList_append, String.toList_append, List.append_assoc,
      List.dropWhile_append_of_pos]
    · simp
    · intro c hc
      simpa using fun e : c = '(' => hname (e ▸ hc)
  rw [parameters, hlist]

section Setter

variable {f : Field} (hf : f.check = .ok ())

include hf

theorem bracket_not_mem_setter :
    '(' ∉ ("pub fn " ++ Accessor.methodName .setter f.name).toList := by
  have hname : '(' ∉ f.name.toList :=
    Text.not_mem_of_isIdentifier (isIdentifier_of_check hf) (by decide)
  have hcapital := Text.not_mem_capitalize (by decide) (by decide) hname
  rw [Accessor.methodName, String.toList_append, String.toList_append, List.mem_append,
    List.mem_append, not_or, not_or]
  exact ⟨by decide, by decide, hcapital⟩

theorem leaves_entry : TypeRef.Leaves f.type.unclosed (fieldEntry f) := by
  have hlabel := isPlain_label hf
  have htype := TypeRef.leaves_source (valid_of_check hf)
  constructor <;> intro d
  · rw [toList_fieldEntry, Nest.through_append, Nest.through_of_isPlain hlabel, htype.depth]
  · rw [toList_fieldEntry, Nest.avoids_append, Nest.through_of_isPlain hlabel]
    exact ⟨Nest.avoids_dips_of_isPlain hlabel (Nat.le_refl d), htype.avoids d⟩

/-- A setter is read back with one parameter besides the receiver exactly when the type of its
field stays in its place. -/
theorem parameters_setter :
    parameters (accessorFunction (Accessor.setter f)).signature =
        some ["&mut self".toList, (fieldEntry f).toList] ↔
      f.type.staysInPlace = true := by
  rw [signature_setter, parameters_eq (bracket_not_mem_setter hf)]
  constructor
  · intro h
    obtain ⟨p, hp, hentries⟩ := Option.map_eq_some_iff.1 h
    have hentries : entries p = ["&mut self".toList] ++ [(fieldEntry f).toList] := hentries
    obtain ⟨-, havoids, hdepth⟩ := clean_of_entries hentries
    exact (clean_entry hf).1 ⟨havoids, hdepth ▸ Nest.depth_of_inside hp⟩
  · intro h
    have hclean := (clean_entry hf).2 h
    have hreceiver : Nest.through .start "&mut self, ".toList = .start := by decide
    have hinside : Nest.inside .start ("&mut self, " ++ fieldEntry f ++ ") \x7b").toList =
        some ("&mut self, ".toList ++ (fieldEntry f).toList) := by
      have hlist : ("&mut self, " ++ fieldEntry f ++ ") \x7b").toList =
          "&mut self, ".toList ++ (fieldEntry f).toList ++ ')' :: " \x7b".toList := by
        simp
      rw [hlist]
      refine Nest.inside_of_avoids ?_ ?_
      · rw [Nest.avoids_append, hreceiver]
        exact ⟨by decide, Nest.avoids_of_imp (fun _ _ => Nest.dips_of_outerClose)
          ((leaves_entry hf).avoids 0)⟩
      · rw [Nest.through_append, hreceiver, Nest.outerClose, hclean.2]
        simp [Nest.closes]
    have hself : Clean "&mut self".toList := ⟨by decide, by decide⟩
    have hsplit : "&mut self, ".toList ++ (fieldEntry f).toList =
        "&mut self".toList ++ ',' :: ([' '] ++ (fieldEntry f).toList) := by simp
    have hlead : Clean ([' '] ++ (fieldEntry f).toList) :=
      (clean_append_of_space (List.all_eq_true.1 (by decide))).2 hclean
    rw [hinside, Option.map_some, hsplit, entries_cons hself, entries_single hlead,
      skipSpace_entry hf (List.all_eq_true.1 (by decide))]
    rfl

end Setter

theorem mem_rowsAll {r : Row} {fs : List Fragment} {f : Fragment} (hf : f ∈ fs) {level : Nat}
    (hr : r ∈ f.rows level) : r ∈ Fragment.rowsAll level fs := by
  obtain ⟨front, back, rfl⟩ := List.append_of_mem hf
  rw [Fragment.rowsAll_append, Fragment.rowsAll]
  simp [hr]

theorem mem_spaced {m : FunctionItem} {ms : List FunctionItem} (hm : m ∈ ms) {f : Fragment}
    (hf : f ∈ m.fragments) : f ∈ ImplItem.spaced ms := by
  cases ms with
  | nil => cases hm
  | cons n ms =>
    rw [ImplItem.spaced, List.mem_append, List.mem_flatMap]
    rcases List.mem_cons.1 hm with rfl | hm
    · exact .inl hf
    · exact .inr ⟨m, hm, List.mem_cons_of_mem _ hf⟩

theorem companionText_signature (ns : Namespace) {c : Companion} (options : RenderOptions)
    {a : Accessor} (ha : a ∈ c.accessors) :
    ∃ front back, companionText ns c options = front ++
      (Writer.margin options.indent 1 ++ (accessorFunction a).signature ++ "\n") ++ back := by
  have hmethod : accessorFunction a ∈ c.accessors.map accessorFunction := List.mem_map_of_mem ha
  have hrow : Row.text 1 (accessorFunction a).signature ∈
      Fragment.rowsAll 0 (companionSource ns c options.derives).fragments := by
    have hmethods : (c.accessors.map accessorFunction).isEmpty = false := by
      simpa [List.isEmpty_eq_false_iff] using List.ne_nil_of_mem ha
    rw [fragments_companionSource, Fragment.rowsAll_append, List.mem_append]
    refine .inr (List.mem_cons_of_mem _ ?_)
    refine mem_rowsAll (f := .block ((accessorImpl c).header ++ " \x7b")
      (ImplItem.spaced (c.accessors.map accessorFunction)) (some "\x7d")) ?_ ?_
    · simp [ImplItem.fragments, accessorImpl, hmethods]
    · rw [Fragment.rows]
      refine List.mem_append_left _ (List.mem_cons_of_mem _ ?_)
      have hblock : Fragment.block (accessorFunction a).signature
          ((accessorFunction a).body.map .line) (some "\x7d") ∈ (accessorFunction a).fragments := by
        simp [FunctionItem.fragments]
      refine mem_rowsAll (mem_spaced hmethod hblock) ?_
      simp [Fragment.rows]
  obtain ⟨front, back, hrows⟩ := List.append_of_mem hrow
  rw [companionText_eq, Writer.render_eq, hrows, writtenRows_append]
  refine ⟨companionHeader c ++ "\n\n" ++ writtenRows options.indent front,
    writtenRows options.indent back, ?_⟩
  simp only [writtenRows, Row.written, String.append_assoc]

/-- A companion is made of fields whose types may stand anywhere; what stands in the braces of its
struct and in the brackets of its setters is read back as the fields exactly when their types stay
in place. There are always as many accessors as a getter and a setter for each field. -/
theorem fields_in_place_iff {d : Declaration} {c : Companion} (h : d.companion = .ok c)
    (options : RenderOptions) :
    c.accessors.length = 2 * c.fields.length ∧
    (∃ front back, companionText d.space c options = front ++
      ("pub struct " ++ c.name ++ " \x7b" ++ structBody c options.indent ++ "\x7d\n") ++ back) ∧
    (entries (structBody c options.indent).toList =
        c.fields.map (fun f => (fieldEntry f).toList) ++ [[]] ↔
      ∀ f ∈ c.fields, f.type.staysInPlace = true) ∧
    ∀ f ∈ c.fields,
      (∃ front back, companionText d.space c options = front ++ (Writer.margin options.indent 1 ++
        (accessorFunction (Accessor.setter f)).signature ++ "\n") ++ back) ∧
      (parameters (accessorFunction (Accessor.setter f)).signature =
          some ["&mut self".toList, (fieldEntry f).toList] ↔ f.type.staysInPlace = true) := by
  obtain ⟨rfl, -, hfields⟩ := companion_eq_ok h
  refine ⟨length_accessorsOf _, companionText_struct _ _ options, entries_structBody hfields _,
    fun f hf => ⟨companionText_signature _ options ?_, parameters_setter (hfields f hf)⟩⟩
  exact List.mem_flatMap.2 ⟨f, hf, by simp [Accessor.pair]⟩

section Runs

def oneField (type : TypeRef) : Declaration := ⟨"User", .root, .class, [⟨"a", .field type⟩]⟩

def oneFieldCompanion (type : TypeRef) : Companion :=
  ⟨"User", [⟨"a", type⟩], accessorsOf [⟨"a", type⟩]⟩

theorem fields_in_place_map :
    entries (structBody (oneFieldCompanion (.verbatim "Map<u8, u8>")) .four).toList =
      ["a: Map<u8, u8>".toList, []] :=
  ((fields_in_place_iff (d := oneField (.verbatim "Map<u8, u8>")) (by decide) {}).2.2.1).2
    (by decide)

def splitType : TypeRef := .verbatim "u8, evil: u16"

/-- One accepted field becomes two, and its setter takes two parameters. -/
theorem field_out_of_place :
    (oneField splitType).companion = .ok (oneFieldCompanion splitType) ∧
    entries (structBody (oneFieldCompanion splitType) .four).toList =
      ["a: u8".toList, "evil: u16".toList, []] ∧
    entries (structBody (oneFieldCompanion splitType) .four).toList ≠
      [(fieldEntry ⟨"a", splitType⟩).toList, []] ∧
    parameters (accessorFunction (Accessor.setter ⟨"a", splitType⟩)).signature =
      some ["&mut self".toList, "a: u8".toList, "evil: u16".toList] := by
  decide

end Runs

end Render

end AccessorGen
