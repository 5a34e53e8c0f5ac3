import AccessorGen.Input.SourceText
import AccessorGen.Proofs.Text.Lines
import Mathlib.Data.Prod.Lex

/-! Positions and the bytes in front of them, in the order of reading. Counting lines and columns up
to a place and then bytes up to the position gives the place. A position that is no place of the
text, because its line or the text is shorter, counts as the last place that is not behind it; so
the bytes grow with the position. -/

namespace AccessorGen

open Text

namespace Position

section

variable {a b : List Char}

theorem takeWhile_line (hb : '\n' ∉ b) (t : List Char) :
    (b ++ t).takeWhile (· ≠ '\n') = b ++ t.takeWhile (· ≠ '\n') :=
  List.takeWhile_append_of_pos fun c hc => by simpa using fun e : c = '\n' => hb (e ▸ hc)

theorem behind_append (ha : WholeLines a) (hb : '\n' ∉ b) (t : List Char) :
    behind (a ++ b ++ t) (a ++ b).length = ⟨a.count '\n' + 1, b.length⟩ := by
  have hline : (a ++ b).reverse.takeWhile (· ≠ '\n') = b.reverse := by
    rw [List.reverse_append, takeWhile_line (mt List.mem_reverse.1 hb)]
    obtain rfl | ⟨l, rfl⟩ := ha
    · simp
    · simp
  rw [behind, List.take_left, hline, List.count_append, List.count_eq_zero.2 hb, Nat.add_zero,
    List.length_reverse]

theorem byteOffset_wholeLines (ha : WholeLines a) (t : List Char) (column : Nat) :
    byteOffset (a ++ t) ⟨a.count '\n' + 1, column⟩ =
      utf8Length a + utf8Length ((t.takeWhile (· ≠ '\n')).take column) := by
  have hlines : ((lines (a ++ t)).take (a.count '\n')).flatten = a := by
    rw [ha.lines_append, ← ha.length_lines, List.take_left, flatten_lines]
  unfold byteOffset
  dsimp only
  rw [Nat.add_sub_cancel, hlines, List.drop_left]

theorem byteOffset_append (ha : WholeLines a) (hb : '\n' ∉ b) (t : List Char) :
    byteOffset (a ++ b ++ t) ⟨a.count '\n' + 1, b.length⟩ = utf8Length (a ++ b) := by
  rw [List.append_assoc, byteOffset_wholeLines ha, takeWhile_line hb, List.take_left,
    utf8Length_append]

theorem byteOffset_behind (s t : List Char) :
    byteOffset (s ++ t) (behind (s ++ t) s.length) = utf8Length s := by
  obtain ⟨a, b, rfl, ha, hb⟩ := exists_wholeLines s
  rw [behind_append ha hb, byteOffset_append ha hb]

end

theorem exists_front (s : List Char) (p : Position) :
    ∃ a, a <+: s ∧ p.byteOffset s = utf8Length a := by
  obtain ⟨before, hbefore⟩ : ∃ before, before = ((lines s).take (p.line - 1)).flatten := ⟨_, rfl⟩
  obtain ⟨rest, hrest⟩ : ∃ rest, s = before ++ rest := by
    refine ⟨((lines s).drop (p.line - 1)).flatten, ?_⟩
    rw [hbefore, ← List.flatten_append, List.take_append_drop, flatten_lines]
  have hline : (rest.takeWhile (· ≠ '\n')).take p.column <+: rest :=
    (List.take_prefix _ _).trans (List.takeWhile_prefix _)
  refine ⟨before ++ (rest.takeWhile (· ≠ '\n')).take p.column, ?_, ?_⟩
  · rw [hrest]
    exact (List.prefix_append_right_inj before).2 hline
  · unfold byteOffset
    dsimp only
    rw [← hbefore, hrest, List.drop_left, utf8Length_append]

instance : LinearOrder Position :=
  LinearOrder.lift' (fun p : Position => toLex (p.line, p.column)) fun p q h => by
    obtain ⟨hline, hcolumn⟩ := Prod.mk.inj (toLex.injective h)
    cases p
    cases q
    exact congrArg₂ _ hline hcolumn

theorem le_iff {p q : Position} :
    p ≤ q ↔ p.line < q.line ∨ p.line = q.line ∧ p.column ≤ q.column :=
  Prod.Lex.toLex_le_toLex

theorem lt_iff {p q : Position} :
    p < q ↔ p.line < q.line ∨ p.line = q.line ∧ p.column < q.column :=
  Prod.Lex.toLex_lt_toLex

section

variable {s front : List Char} {p : Position}

theorem utf8Length_le_byteOffset (hfront : front <+: s) (h : behind s front.length ≤ p) :
    utf8Length front ≤ p.byteOffset s := by
  obtain ⟨t, rfl⟩ := hfront
  obtain ⟨a, b, rfl, ha, hb⟩ := exists_wholeLines front
  rw [behind_append ha hb, le_iff] at h
  obtain hline | ⟨hline, hcolumn⟩ := h
  · -- the place is in front of the line of the position
    have hcount : (a ++ b).count '\n' < p.line - 1 := by
      rw [List.count_append, List.count_eq_zero.2 hb]
      exact Nat.lt_sub_of_add_lt hline
    have hlines := utf8Length_le_of_prefix (prefix_take_lines hcount t)
    exact hlines.trans (Nat.le_add_right _ _)
  · obtain ⟨line, column⟩ := p
    obtain rfl : a.count '\n' + 1 = line := hline
    rw [List.append_assoc, byteOffset_wholeLines ha, takeWhile_line hb, List.take_append,
      List.take_of_length_le hcolumn, utf8Length_append, utf8Length_append]
    exact Nat.add_le_add_left (Nat.le_add_right _ _) _

theorem byteOffset_lt_utf8Length (hfront : front <+: s) (hp : 1 ≤ p.line)
    (h : p < behind s front.length) : p.byteOffset s < utf8Length front := by
  obtain ⟨t, rfl⟩ := hfront
  obtain ⟨line, column⟩ := p
  obtain ⟨a, b, rfl, ha, hb⟩ := exists_wholeLines front
  rw [behind_append ha hb, lt_iff] at h
  obtain hline | ⟨hline, hcolumn⟩ := h
  · -- the line of the position ends in front of the place
    obtain ⟨n, rfl⟩ := Nat.exists_eq_add_of_le' hp
    have hcount : n < (a ++ b).count '\n' := by
      rw [List.count_append]
      exact Nat.lt_add_right _ (Nat.lt_of_succ_lt_succ hline)
    obtain ⟨x, l, r, hsplit, hx, rfl, hl⟩ := exists_newline hcount
    rw [hsplit, List.append_assoc, byteOffset_wholeLines hx, List.append_assoc, takeWhile_line hl]
    have hend : (('\n' :: r ++ t).takeWhile (· ≠ '\n')) = [] := by simp
    rw [hend, List.append_nil, utf8Length_append, utf8Length_append]
    have htake := utf8Length_le_of_prefix (List.take_prefix column l)
    have hpos := utf8Length_cons_pos '\n' r
    omega
  · obtain rfl : line = a.count '\n' + 1 := hline
    rw [List.append_assoc, byteOffset_wholeLines ha, takeWhile_line hb,
      List.take_append_of_le_length (Nat.le_of_lt hcolumn), utf8Length_append]
    exact Nat.add_lt_add_left (utf8Length_take_lt hcolumn) _

theorem le_byteOffset_iff (hfront : front <+: s) (hp : 1 ≤ p.line) :
    utf8Length front ≤ p.byteOffset s ↔ behind s front.length ≤ p := by
  refine ⟨fun hle => not_lt.1 fun hlt => ?_, utf8Length_le_byteOffset hfront⟩
  exact absurd hle (not_le.2 (byteOffset_lt_utf8Length hfront hp hlt))

theorem monotoneOn_byteOffset (s : List Char) : MonotoneOn (byteOffset s) {p | 1 ≤ p.line} := by
  intro p hp q _ hpq
  obtain ⟨front, hfront, hoffset⟩ := p.exists_front s
  have hbehind := (le_byteOffset_iff hfront hp).1 hoffset.ge
  rw [hoffset]
  exact utf8Length_le_byteOffset hfront (hbehind.trans hpq)

end

/-- The position of every place between characters, by its line and its column, gives the place back
in bytes, and a later position gives no earlier place, wherever the two are. -/
theorem byteOffset_inverts (text : String) :
    (∀ place : text.Pos,
      byteOffset text.toList (behind text.toList (text.sliceTo place).copy.length) =
        place.offset.byteIdx) ∧
    MonotoneOn (byteOffset text.toList) {p | 1 ≤ p.line} := by
  refine ⟨fun place => ?_, monotoneOn_byteOffset text.toList⟩
  obtain ⟨htext, hoffset⟩ := place.splits
  have hlist := congrArg String.toList htext
  rw [String.toList_append] at hlist
  rw [hlist, ← String.length_toList, byteOffset_behind, hoffset, ← utf8ByteSize_ofList,
    String.ofList_toList]
  rfl

end Position

def Sample.twoLines : String := "// \u00e9\nx"

/-- Behind the end of its line a position counts as the end, which is in front of the next line. -/
theorem Position.byteOffset_past_line :
    1 ≤ (⟨1, 40⟩ : Position).line ∧ (⟨1, 40⟩ : Position) ≤ ⟨2, 0⟩ ∧
      byteOffset Sample.twoLines.toList ⟨1, 40⟩ ≤ byteOffset Sample.twoLines.toList ⟨2, 0⟩ ∧
      byteOffset Sample.twoLines.toList ⟨1, 40⟩ = 5 ∧
      byteOffset Sample.twoLines.toList ⟨2, 0⟩ = 6 := by
  have hline : 1 ≤ (⟨1, 40⟩ : Position).line := by decide
  have hline' : 1 ≤ (⟨2, 0⟩ : Position).line := by decide
  have hle : (⟨1, 40⟩ : Position) ≤ ⟨2, 0⟩ := le_iff.2 (.inl (by decide))
  exact ⟨hline, hle, (byteOffset_inverts Sample.twoLines).2 hline hline' hle, by decide, by decide⟩

end AccessorGen
