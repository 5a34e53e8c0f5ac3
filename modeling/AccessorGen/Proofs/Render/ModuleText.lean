import AccessorGen.Proofs.Layout.Rows
import AccessorGen.Proofs.Text.Lines
import AccessorGen.Proofs.Text.Words
import AccessorGen.Render.ModuleTree
import Mathlib.Data.List.Basic

/-! Reading a module file back. Every line `pub mod name;` of it declares one module, and the lines
of a rendered file declare its modules in their order, each without the mark that escapes it. -/

namespace AccessorGen

namespace Text

theorem plainWord_of_not_mem {s : String} (h : '#' ∉ s.toList) : plainWord s = s := by
  have hmark : ¬['r', '#'].isPrefixOf s.toList = true := by
    intro hp
    obtain ⟨r, hr⟩ := List.isPrefixOf_iff_prefix.1 hp
    exact h (by simp [← hr])
  simp [plainWord, without, hmark]

end Text

theorem Names.plainWord_safe {s : String} (h : '#' ∉ s.toList) :
    Text.plainWord (safe s) = s := by
  unfold safe
  split
  · simp [Text.plainWord, Text.without]
  · exact Text.plainWord_of_not_mem h

def declaredModule? (line : List Char) : Option String := do
  let rest ← line.dropPrefix? "pub mod ".toList
  let word ← rest.dropSuffix? ";\n".toList
  return Text.plainWord (.ofList word)

/-- The modules that the lines of a text declare. -/
def declaredModules (text : String) : List String :=
  (Text.lines text.toList).filterMap declaredModule?

def IsModuleName (name : String) : Prop := '\n' ∉ name.toList ∧ '#' ∉ name.toList

namespace ModuleTree

def declarationLine (name : String) : String := "pub mod " ++ Names.safe name ++ ";"

theorem toList_declarationLine (name : String) : (declarationLine name).toList =
    "pub mod ".toList ++ (Names.safe name).toList ++ ";".toList := by
  rw [declarationLine, String.toList_append, String.toList_append]

theorem declaredModule?_line {name : String} (h : IsModuleName name) :
    declaredModule? ((declarationLine name).toList ++ ['\n']) = some name := by
  have hprefix := List.dropPrefix?_append_of_beq ((Names.safe name).toList ++ ";\n".toList)
    (beq_self_eq_true "pub mod ".toList)
  have hsuffix : ((Names.safe name).toList ++ ";\n".toList).dropSuffix? ";\n".toList =
      some (Names.safe name).toList :=
    List.dropSuffix?_eq_some_iff.2 ⟨_, rfl, beq_self_eq_true _⟩
  have hline : (declarationLine name).toList ++ ['\n'] =
      "pub mod ".toList ++ ((Names.safe name).toList ++ ";\n".toList) := by
    rw [toList_declarationLine, List.append_assoc, List.append_assoc]
    rfl
  rw [declaredModule?, hline, hprefix]
  simp only [Option.bind_eq_bind, Option.bind_some, hsuffix, String.ofList_toList,
    Names.plainWord_safe h.2]
  rfl

theorem newline_not_mem_line {name : String} (h : IsModuleName name) :
    '\n' ∉ (declarationLine name).toList := by
  have hword : '\n' ∉ "pub mod ".toList ∧ '\n' ∉ "r#".toList ∧ '\n' ∉ ";".toList := by decide
  rw [toList_declarationLine, List.mem_append, List.mem_append, not_or, not_or, Names.safe]
  refine ⟨⟨hword.1, ?_⟩, hword.2.2⟩
  split
  · rw [String.toList_append, List.mem_append, not_or]
    exact ⟨hword.2.1, h.1⟩
  · exact h.1

/-- The rows of a module file without its header. -/
def declarations (names : List String) : List Char :=
  names.flatMap fun name => (declarationLine name).toList ++ ['\n']

theorem rendered_declarations (names : List String) :
    (Writer.render .four (names.flatMap fun name =>
      ({ name := Names.safe name } : Render.ModuleItem).fragments)).toList =
      declarations names := by
  rw [Writer.render_eq]
  induction names with
  | nil => rfl
  | cons name names ih =>
    rw [List.flatMap_cons, Fragment.rowsAll_append, writtenRows_append, String.toList_append, ih]
    simp [declarations, declarationLine, Render.ModuleItem.fragments, Fragment.rowsAll,
      Fragment.rows, writtenRows, Row.written, Writer.margin, Render.visibilityWord]

theorem toList_fileText {names : List String} (h : names ≠ []) :
    (fileText names).toList = (header ++ "\n\n").toList ++ declarations names := by
  obtain ⟨name, rest, rfl⟩ := List.exists_cons_of_ne_nil h
  have hitems : ((name :: rest).map fun m =>
      ({ name := Names.safe m } : Render.ModuleItem).fragments).flatten =
        (name :: rest).flatMap fun m =>
          ({ name := Names.safe m } : Render.ModuleItem).fragments := rfl
  have hne : ((name :: rest).flatMap fun m =>
      ({ name := Names.safe m } : Render.ModuleItem).fragments).isEmpty = false := by
    simp [Render.ModuleItem.fragments]
  have hrender := rendered_declarations (name :: rest)
  have htext : (Writer.render .four ((name :: rest).flatMap fun m =>
      ({ name := Names.safe m } : Render.ModuleItem).fragments)).isEmpty = false := by
    rw [String.isEmpty_eq_false_iff, ne_eq, ← String.toList_eq_nil_iff, hrender]
    simp [declarations, declarationLine]
  unfold fileText Render.SourceFile.addGroup Render.SourceFile.renderUnder
    Render.SourceFile.render
  rw [hitems, hne]
  simp only [Bool.false_eq_true, if_false, Render.SourceFile.add, List.nil_append,
    Render.SourceFile.fragments, List.flatMap_nil, List.append_nil, htext]
  rw [String.toList_append, hrender]

theorem lines_declarations {names : List String} (h : ∀ n ∈ names, IsModuleName n) :
    (Text.lines (declarations names)).filterMap declaredModule? = names := by
  induction names with
  | nil => rfl
  | cons name names ih =>
    obtain ⟨hname, hnames⟩ := List.forall_mem_cons.1 h
    have hlines : Text.lines (declarations (name :: names)) =
        ((declarationLine name).toList ++ ['\n']) :: Text.lines (declarations names) := by
      rw [declarations, List.flatMap_cons, List.append_assoc, List.singleton_append]
      exact Text.lines_newline (newline_not_mem_line hname) _
    rw [hlines, List.filterMap_cons, declaredModule?_line hname, ih hnames]

theorem declaredModules_fileText {names : List String} (hne : names ≠ [])
    (h : ∀ n ∈ names, IsModuleName n) : declaredModules (fileText names) = names := by
  have hheader : (header ++ "\n\n").toList = header.toList ++ '\n' :: ['\n'] := by
    rw [String.toList_append]
    rfl
  have hlines : Text.lines ((header ++ "\n\n").toList ++ declarations names) =
      (header.toList ++ ['\n']) :: ['\n'] :: Text.lines (declarations names) := by
    rw [hheader, List.append_assoc, List.cons_append, List.singleton_append,
      Text.lines_newline (by decide)]
    rfl
  have hfirst : declaredModule? (header.toList ++ ['\n']) = none := by decide
  have hsecond : declaredModule? ['\n'] = none := by decide
  rw [declaredModules, toList_fileText hne, hlines, List.filterMap_cons, hfirst,
    List.filterMap_cons, hsecond]
  exact lines_declarations h

end ModuleTree

end AccessorGen
