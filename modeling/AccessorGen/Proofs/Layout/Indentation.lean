import AccessorGen.Proofs.Layout.Rows
import AccessorGen.Proofs.Text.Cutting
import AccessorGen.Render.SourceFile

/-! Indentation. A writer is driven by single steps, and whatever they were, a fragment adds its rows
at the level they lead to and leaves that level. The rows do not depend on the text of a level; so a
file has the same rows under every indentation, and the same lines but for the spaces and tabs in
front of them. -/

namespace AccessorGen

namespace Writer

/-- A single call of a writer; `emit` writes the fragments of an item. -/
inductive Step
  | line (text : String)
  | doc (text : String)
  | blank
  | deeper
  | shallower
  | emit (fragments : List Fragment)

/-- The level behind a step, which is never below zero. -/
def Step.levelAfter (level : Nat) : Step → Nat
  | .deeper => level + 1
  | .shallower => level - 1
  | .line _ | .doc _ | .blank | .emit _ => level

/-- The rows that a step adds at a level. -/
def Step.rows (level : Nat) : Step → List Row
  | .line text => [.text level text]
  | .doc text => [.text level ("/// " ++ text)]
  | .blank => [.blank]
  | .emit fragments => Fragment.rowsAll level fragments
  | .deeper | .shallower => []

def perform (w : Writer) : Step → Writer
  | .line text => w.line text
  | .doc text => w.doc text
  | .blank => w.blank
  | .deeper => w.deeper
  | .shallower => w.shallower
  | .emit fragments => w.fragments fragments

/-- A new writer after some steps. -/
def run (indent : Indent) (steps : List Step) : Writer := steps.foldl perform { indent := indent }

def levelAfter (level : Nat) (steps : List Step) : Nat := steps.foldl Step.levelAfter level

def rowsAfter : Nat → List Step → List Row
  | _, [] => []
  | level, s :: steps => s.rows level ++ rowsAfter (s.levelAfter level) steps

theorem margin_eq (indent : Indent) (level : Nat) :
    margin indent level = String.join (List.replicate level indent.text) := by
  induction level with
  | zero => rfl
  | succ level ih => rw [margin, ih, List.replicate_succ, String.join_cons]

theorem perform_eq (w : Writer) (s : Step) :
    w.perform s = { w with
      level := s.levelAfter w.level
      text := w.text ++ writtenRows w.indent (s.rows w.level) } := by
  cases s with
  | line text => simp [perform, line_eq, Step.rows, Step.levelAfter, writtenRows]
  | doc text => simp [perform, doc, line_eq, Step.rows, Step.levelAfter, writtenRows]
  | blank => simp [perform, blank, Step.rows, Step.levelAfter, writtenRows, Row.written]
  | deeper => simp [perform, deeper, Step.rows, Step.levelAfter]
  | shallower => simp [perform, shallower, Step.rows, Step.levelAfter]
  | emit fragments => simp [perform, fragments_eq, Step.rows, Step.levelAfter]

theorem foldl_perform (steps : List Step) (w : Writer) :
    steps.foldl perform w = { w with
      level := levelAfter w.level steps
      text := w.text ++ writtenRows w.indent (rowsAfter w.level steps) } := by
  induction steps generalizing w with
  | nil => simp [levelAfter, rowsAfter]
  | cons s steps ih =>
    rw [List.foldl_cons, ih, perform_eq]
    simp [levelAfter, rowsAfter, writtenRows_append, String.append_assoc]

theorem run_eq (indent : Indent) (steps : List Step) :
    run indent steps =
      ⟨indent, levelAfter 0 steps, writtenRows indent (rowsAfter 0 steps)⟩ := by
  rw [run, foldl_perform]
  simp

end Writer

namespace Text

def isMargin (c : Char) : Bool := c == ' ' || c == '\t'

/-- The lines of a text, each without the spaces and tabs in front. -/
def bareLines (s : List Char) : List (List Char) :=
  (cutAt '\n' s).map (List.dropWhile isMargin)

theorem bareLines_newline (s t : List Char) :
    bareLines (s ++ '\n' :: t) = bareLines s ++ bareLines t := by
  rw [bareLines, cutAt_append_cons, List.map_append]
  rfl

theorem bareLines_margin {m : List Char} (h : ∀ c ∈ m, isMargin c = true) (s : List Char) :
    bareLines (m ++ s) = bareLines s := by
  induction m with
  | nil => rfl
  | cons c m ih =>
    obtain ⟨hc, hm⟩ := List.forall_mem_cons.1 h
    have hne : c ≠ '\n' := by
      rintro rfl
      cases hc
    rw [← ih hm, List.cons_append, bareLines, cutAt, if_neg hne, bareLines]
    cases hcut : cutAt '\n' (m ++ s) with
    | nil => exact absurd hcut (cutAt_ne_nil '\n' _)
    | cons p ps => rw [consFirst, List.map_cons, List.dropWhile_cons, hc, List.map_cons]; rfl

end Text

open Text

theorem bareLines_written (indent : Indent) (r : Row) (t : List Char) :
    bareLines ((r.written indent).toList ++ t) = bareLines r.content.toList ++ bareLines t := by
  cases r with
  | blank =>
    have hwritten : (Row.blank.written indent).toList ++ t = [] ++ '\n' :: t := by
      simp [Row.written]
    rw [hwritten, bareLines_newline]
    rfl
  | text level content =>
    have hmargin : ∀ c ∈ (Writer.margin indent level).toList, isMargin c = true := fun c hc => by
      rcases Writer.mem_margin hc with rfl | rfl <;> rfl
    have hwritten : ((Row.text level content).written indent).toList ++ t =
        (Writer.margin indent level).toList ++ (content.toList ++ '\n' :: t) := by
      simp [Row.written]
    rw [hwritten, bareLines_margin hmargin, bareLines_newline]
    rfl

theorem bareLines_writtenRows (indent : Indent) (rs : List Row) :
    bareLines (writtenRows indent rs).toList =
      (rs.flatMap fun r => bareLines r.content.toList) ++ [[]] := by
  induction rs with
  | nil => rfl
  | cons r rs ih =>
    rw [writtenRows, String.toList_append, bareLines_written, ih, List.flatMap_cons,
      List.append_assoc]

theorem isEmpty_writtenRows (indent : Indent) (rs : List Row) :
    (writtenRows indent rs).isEmpty = rs.isEmpty := by
  cases rs with
  | nil => rfl
  | cons r rs => cases r <;> simp [writtenRows, Row.written]

namespace Render.SourceFile

/-- The rows of a file, whatever a level is written as. -/
def rows (f : SourceFile) : List Row := Fragment.rowsAll 0 f.fragments

theorem render_rows (f : SourceFile) (indent : Indent) :
    f.render indent = writtenRows indent f.rows :=
  Writer.render_eq indent f.fragments

theorem bareLines_render (f : SourceFile) (indent other : Indent) :
    bareLines (f.render indent).toList = bareLines (f.render other).toList := by
  rw [render_rows, render_rows, bareLines_writtenRows, bareLines_writtenRows]

theorem bareLines_renderUnder (f : SourceFile) (header : String) (indent other : Indent) :
    bareLines (f.renderUnder header indent).toList =
      bareLines (f.renderUnder header other).toList := by
  have hempty : (f.render indent).isEmpty = (f.render other).isEmpty := by
    rw [render_rows, render_rows, isEmpty_writtenRows, isEmpty_writtenRows]
  unfold renderUnder
  dsimp only
  rw [hempty]
  split
  · rfl
  · have hcut (s : String) : bareLines (header ++ "\n\n" ++ s).toList =
        bareLines header.toList ++ (bareLines [] ++ bareLines s.toList) := by
      have htext : (header ++ "\n\n" ++ s).toList =
          header.toList ++ '\n' :: ([] ++ '\n' :: s.toList) := by
        simp
      rw [htext, bareLines_newline, bareLines_newline]
    rw [hcut, hcut, f.bareLines_render indent other]

end Render.SourceFile

/-- After any steps a fragment adds its rows at the level they lead to, each behind as many copies
of the indentation, and leaves that level. A file has the same rows under every indentation, and the
same lines without the spaces and tabs in front. -/
theorem fragment_flattens (indent other : Indent) (steps : List Writer.Step) (f : Fragment)
    (file : Render.SourceFile) (header : String) :
    Writer.run indent steps =
        ⟨indent, Writer.levelAfter 0 steps, writtenRows indent (Writer.rowsAfter 0 steps)⟩ ∧
      (Writer.run indent steps).fragment f = { Writer.run indent steps with
        text := (Writer.run indent steps).text ++
          writtenRows indent (f.rows (Writer.levelAfter 0 steps)) } ∧
      (∀ level, Writer.margin indent level = String.join (List.replicate level indent.text)) ∧
      file.render indent = writtenRows indent file.rows ∧
      bareLines (file.render indent).toList = bareLines (file.render other).toList ∧
      bareLines (file.renderUnder header indent).toList =
        bareLines (file.renderUnder header other).toList := by
  have hrun := Writer.run_eq indent steps
  refine ⟨hrun, ?_, Writer.margin_eq indent, file.render_rows indent,
    file.bareLines_render indent other, file.bareLines_renderUnder header indent other⟩
  rw [Writer.fragment_eq, hrun]

end AccessorGen
