import AccessorGen.Layout.Writer

/-! The writer writes the rows of its fragments. Its level only decides the margins, and it ends at
the level it began with. -/

namespace AccessorGen

/-- A row as the writer leaves it, with its margin and its line end. -/
def Row.written (indent : Indent) : Row → String
  | .text level content => Writer.margin indent level ++ content ++ "\n"
  | .blank => "\n"

def writtenRows (indent : Indent) : List Row → String
  | [] => ""
  | r :: rs => r.written indent ++ writtenRows indent rs

@[simp] theorem writtenRows_nil (indent : Indent) : writtenRows indent [] = "" := rfl

theorem writtenRows_append (indent : Indent) (rs ss : List Row) :
    writtenRows indent (rs ++ ss) = writtenRows indent rs ++ writtenRows indent ss := by
  induction rs with
  | nil => simp
  | cons r rs ih => simp [writtenRows, ih, String.append_assoc]

namespace Writer

theorem mem_margin {indent : Indent} {level : Nat} {c : Char}
    (h : c ∈ (margin indent level).toList) : c = ' ' ∨ c = '\t' := by
  have htext : ∀ d ∈ indent.text.toList, d = ' ' ∨ d = '\t' := by
    unfold Indent.text
    split <;> simp
  induction level with
  | zero => simp [margin] at h
  | succ level ih =>
    rw [margin, String.toList_append, List.mem_append] at h
    exact h.elim (htext c) ih

theorem line_eq (w : Writer) (s : String) :
    w.line s = { w with text := w.text ++ (Row.text w.level s).written w.indent } := by
  simp [line, Row.written, String.append_assoc]

mutual

theorem fragment_eq (w : Writer) (f : Fragment) :
    w.fragment f = { w with text := w.text ++ writtenRows w.indent (f.rows w.level) } := by
  cases f with
  | line s => simp [fragment, line_eq, Fragment.rows, writtenRows]
  | blank => simp [fragment, blank, Fragment.rows, writtenRows, Row.written]
  | doc s => simp [fragment, doc, line_eq, Fragment.rows, writtenRows]
  | block header body close =>
    have hbody := fun v : Writer => fragments_eq v body
    cases close <;>
      simp [fragment, hbody, line_eq, deeper, shallower, Fragment.rows, writtenRows,
        writtenRows_append, String.append_assoc]

theorem fragments_eq (w : Writer) (fs : List Fragment) :
    w.fragments fs =
      { w with text := w.text ++ writtenRows w.indent (Fragment.rowsAll w.level fs) } := by
  cases fs with
  | nil => simp [fragments, Fragment.rowsAll]
  | cons f fs =>
    rw [fragments, fragment_eq w f, fragments_eq _ fs]
    simp [Fragment.rowsAll, writtenRows_append, String.append_assoc]

end

theorem render_eq (indent : Indent) (fs : List Fragment) :
    render indent fs = writtenRows indent (Fragment.rowsAll 0 fs) := by
  simp [render, fragments_eq]

theorem render_append (indent : Indent) (fs gs : List Fragment) :
    render indent (fs ++ gs) = render indent fs ++ render indent gs := by
  simp only [render_eq, Fragment.rowsAll_append, writtenRows_append]

end Writer

end AccessorGen
