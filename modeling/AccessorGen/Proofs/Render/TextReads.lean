import AccessorGen.Proofs.Grammar.PathText
import AccessorGen.Proofs.Layout.Rows
import AccessorGen.Render.CompanionFile

/-! The text of generated items is read as their tokens, where the names in it are names to the
lexer and the types are paths. -/

namespace AccessorGen

open Source
open Source.Token (nowhere flatAll)
open Source.Lexer (ReadsPlain markChar?)
open Source.Lexeme (endsWord)

theorem toList_commas {α : Type} {text : α → List Char} {d : String} {ds : List String} {x : α}
    {xs : List α} (hd : d.toList = text x)
    (hds : List.Forall₂ (fun (d : String) x => d.toList = text x) ds xs) :
    (", ".intercalate (d :: ds)).toList = text x ++ xs.flatMap fun y => ',' :: ' ' :: text y := by
  rw [Text.toList_intercalate, hd]
  congr 1
  induction hds with
  | nil => rfl
  | cons hd _ ih =>
    rw [List.flatMap_cons, List.flatMap_cons, ih, hd]
    rfl

def LineReads (line : String) (fs : List Flat) : Prop :=
  ∀ r gs, ReadsPlain r gs → ReadsPlain (line.toList ++ '\n' :: r) (fs ++ gs)

def FragmentsRead (fragments : List Fragment) (fs : List Flat) : Prop :=
  ∀ indent level r gs, ReadsPlain r gs →
    ReadsPlain ((writtenRows indent (Fragment.rowsAll level fragments)).toList ++ r) (fs ++ gs)

theorem LineReads.row {line : String} {fs : List Flat} (h : LineReads line fs) (indent : Indent)
    (level : Nat) {r : List Char} {gs : List Flat} (hr : ReadsPlain r gs) :
    ReadsPlain (((Row.text level line).written indent).toList ++ r) (fs ++ gs) := by
  rw [Row.written, String.toList_append, String.toList_append, List.append_assoc, List.append_assoc]
  refine .spaces (fun c hc => ?_) (h r gs hr)
  obtain rfl | rfl := Writer.mem_margin hc <;> decide

namespace FragmentsRead

variable {fragments : List Fragment} {fs gs : List Flat}

theorem nil : FragmentsRead [] [] := fun _ _ _ _ h => h

theorem append {more : List Fragment} (h : FragmentsRead fragments fs) (k : FragmentsRead more gs) :
    FragmentsRead (fragments ++ more) (fs ++ gs) := by
  intro indent level r hs hr
  rw [Fragment.rowsAll_append, writtenRows_append, String.toList_append, List.append_assoc,
    List.append_assoc]
  exact h indent level _ _ (k indent level r hs hr)

theorem flatMap {ι : Type} {f : ι → List Fragment} {g : ι → List Flat} {xs : List ι}
    (h : ∀ x ∈ xs, FragmentsRead (f x) (g x)) : FragmentsRead (xs.flatMap f) (xs.flatMap g) := by
  induction xs with
  | nil => exact nil
  | cons x xs ih =>
    obtain ⟨hx, hxs⟩ := List.forall_mem_cons.1 h
    exact append hx (ih hxs)

theorem line {s : String} (h : LineReads s fs) : FragmentsRead [.line s] fs := by
  intro indent level r gs hr
  simpa [Fragment.rowsAll, Fragment.rows, writtenRows] using h.row indent level hr

theorem blank : FragmentsRead [.blank] [] := by
  intro indent level r gs hr
  simpa [Fragment.rowsAll, Fragment.rows, writtenRows, Row.written] using
    hr.space (c := '\n') (by decide)

theorem block {header : String} {hs : List Flat} (hheader : LineReads header fs)
    (hbody : FragmentsRead fragments gs) {close : String} (hclose : LineReads close hs) :
    FragmentsRead [.block header fragments (some close)] (fs ++ (gs ++ hs)) := by
  intro indent level r ks hr
  have hall := hheader.row indent level
    (hbody indent (level + 1) _ _ (hclose.row indent level hr))
  simpa [Fragment.rowsAll, Fragment.rows, writtenRows, writtenRows_append] using hall

end FragmentsRead

namespace Render

theorem reads_attributeLine (n : Name) {text : String} {content : List Token}
    (h : ∀ r gs, ReadsPlain (')' :: r) gs →
      ReadsPlain (text.toList ++ ')' :: r) (flatAll content ++ gs)) :
    FragmentsRead [attributeLine (n.word.text ++ "(" ++ text ++ ")")]
      (flatAll (attributeTokens n content)) := by
  refine .line fun r gs hr => ?_
  have hclosed : ReadsPlain (')' :: ']' :: '\n' :: r) (.closes .paren :: .closes .bracket :: gs) :=
    .closes .paren rfl (.closes .bracket rfl (hr.space (by decide)))
  have hname := n.word.reads rfl (.opens (c := '(') .paren rfl (h _ _ hclosed))
  have hopen : ReadsPlain ('#' :: '[' :: (n.word.text.toList ++ '(' :: (text.toList ++
      ')' :: ']' :: '\n' :: r))) _ := .mark false rfl rfl (.opens .bracket rfl hname)
  simpa [attributeTokens, Token.flat, Flat.ofMark, String.toList_append] using hopen

theorem reads_allow (w : Word) :
    FragmentsRead [attributeLine ("allow(" ++ w.text ++ ")")]
      (flatAll (attributeTokens .allow [.ofWord w])) := by
  refine reads_attributeLine .allow fun r gs hr => ?_
  simpa using w.reads rfl hr

theorem reads_starText (names : List Name) {r : List Char} {gs : List Flat}
    (hr : ReadsPlain (';' :: r) gs) :
    ReadsPlain ((names.flatMap fun n => ':' :: ':' :: n.word.text.toList) ++
      (':' :: ':' :: '*' :: ';' :: r)) (flatAll (starTokens names) ++ gs) := by
  induction names with
  | nil =>
    have hstar : ReadsPlain (':' :: ':' :: '*' :: ';' :: r) _ :=
      .mark true rfl rfl (.mark true rfl rfl (.mark true rfl rfl hr))
    simpa [starTokens, Token.flat, Flat.ofMark] using hstar
  | cons n names ih =>
    have hends : endsWord ((names.flatMap fun n => ':' :: ':' :: n.word.text.toList) ++
        (':' :: ':' :: '*' :: ';' :: r)) = true := by
      cases names <;> rfl
    have hname := reads_colons n.word (n.word.reads hends ih)
    simpa [starTokens, colonsText] using hname

theorem reads_sourceImport {ns : Namespace} {names : List Name}
    (h : ns.segments.map Names.safe = names.map fun n => n.word.text) :
    FragmentsRead (sourceImport ns).fragments
      (flatAll (CompanionSyntax.importFront.tokens ++ importTokens names)) := by
  have hline : LineReads ("use " ++ (Names.cratePath ns ++ "::*") ++ ";")
      (flatAll (importTokens names)) := by
    intro r gs hr
    have hstar := reads_starText names
      ((hr.space (c := '\n') (by decide)).mark (c := ';') false rfl rfl)
    have hends : endsWord ((names.flatMap fun n => ':' :: ':' :: n.word.text.toList) ++
        (':' :: ':' :: '*' :: ';' :: '\n' :: r)) = true := by
      cases names <;> rfl
    have huse := Word.use.reads (r := ' ' :: (Word.crate.text.toList ++ _)) rfl
      ((Word.crate.reads hends hstar).space (by decide))
    have hpath : (Names.cratePath ns).toList = Word.crate.text.toList ++
        names.flatMap fun n => ':' :: ':' :: n.word.text.toList := by
      rw [Names.cratePath, h, Text.toList_intercalate, List.flatMap_map]
      rfl
    simp only [String.toList_append, hpath, List.append_assoc]
    simp (disch := decide) only [importTokens, Token.flatAll_cons, Token.flatAll_append,
      Token.flatAll_nil, Token.flat_ofWord, Token.flat_mark, List.cons_append, List.nil_append,
      List.append_assoc, List.append_nil]
    exact huse
  rw [Token.flatAll_append]
  exact (reads_allow .unusedImports).append (.line hline)

theorem reads_moduleItem {name : String} {n : Name} (h : Names.safe name = n.word.text) :
    FragmentsRead ({ name := Names.safe name } : ModuleItem).fragments
      (flatAll (moduleTokens n)) := by
  refine .line fun r gs hr => ?_
  have hname := n.word.reads rfl
    ((hr.space (c := '\n') (by decide)).mark (c := ';') false rfl rfl)
  have hmod := Word.pub.reads (r := ' ' :: (Word.mod.text.toList ++ ' ' :: _)) rfl
    ((Word.mod.reads rfl (hname.space (c := ' ') (by decide))).space (by decide))
  simp only [h, visibilityWord, String.toList_append, List.append_assoc]
  simp (disch := decide) only [moduleTokens, Token.flatAll_cons, Token.flatAll_nil,
    Token.flat_ofWord, Token.flat_mark, List.cons_append, List.nil_append, List.append_nil]
  exact hmod

end Render

end AccessorGen
