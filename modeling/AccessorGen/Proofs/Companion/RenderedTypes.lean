import AccessorGen.Proofs.Companion.Verbatim
import AccessorGen.Proofs.Render.TypeText
import AccessorGen.Proofs.Source.Flat

/-! The text of an accepted type, checked as a verbatim type. Putting accepted parts together makes
no forbidden fragment and takes no semicolon out of its bracket. The text is accepted unless a
generic's last argument ends in a dash: the bracket that should close the generic is then taken for
the head of an arrow, and one bracket stays open. -/

namespace AccessorGen

theorem infix_append_cons {α : Type} {f x y : List α} {c : α} (hc : c ∉ f)
    (h : f <:+: x ++ c :: y) : f <:+: x ∨ f <:+: y := by
  obtain ⟨a, b, h⟩ := h
  obtain ⟨z, rfl, -⟩ | ⟨z, hfront, hz⟩ := List.append_eq_append_iff.1 h
  · exact .inl ⟨a, z, rfl⟩
  · obtain ⟨rfl, -⟩ | ⟨z, rfl, rfl⟩ := List.cons_eq_append_iff.1 hz
    · rw [List.append_nil] at hfront
      exact .inl ⟨a, [], by rw [hfront, List.append_nil]⟩
    · obtain ⟨w, -, rfl⟩ | ⟨w, rfl, hw⟩ := List.append_eq_append_iff.1 hfront
      · exact absurd (by simp) hc
      · obtain ⟨-, rfl⟩ | ⟨w, rfl, rfl⟩ := List.cons_eq_append_iff.1 hw
        · exact absurd List.mem_cons_self hc
        · exact .inr ⟨w, b, rfl⟩

namespace Validity

def seams : List Char := ['<', ',', ' ', '>']

theorem seam_not_mem {f : List Char} (hf : f ∈ forbidden) {c : Char} (hc : c ∈ seams) :
    c ∉ f := by
  have hall : (forbidden.all fun f => seams.all fun c => !f.contains c) = true := by decide
  simpa using List.all_eq_true.1 (List.all_eq_true.1 hall f hf) c hc

theorem seam_ne {c : Char} (hc : c ∈ seams) : c ≠ ';' ∧ (c == '-') = false := by
  have hall : (seams.all fun c => c != ';' && c != '-') = true := by decide
  simpa using List.all_eq_true.1 hall c hc

theorem Harmless.join {x y : List Char} {c : Char} (hx : Harmless x) (hc : c ∈ seams)
    (hy : Harmless y) : Harmless (x ++ c :: y) where
  allowed f hf hin :=
    (infix_append_cons (seam_not_mem hf hc) hin).elim (hx.allowed f hf) (hy.allowed f hf)
  semicolons a b h := by
    obtain ⟨hsemi, hdash⟩ := seam_ne hc
    obtain ⟨z, rfl, hz⟩ | ⟨z, rfl, hz⟩ := List.append_eq_append_iff.1 h
    · obtain ⟨-, hcons⟩ | ⟨z, rfl, rfl⟩ := List.cons_eq_append_iff.1 hz
      · exact absurd (List.cons.inj hcons).1.symm hsemi
      · obtain ⟨p, q, hpq, hq⟩ := hy.semicolons z b rfl
        refine ⟨brackets false x ++ brackets (dashAfter false x) [c] ++ p, q, ?_, hq⟩
        rw [brackets_append, brackets_cons _ c z, hdash, hpq]
        simp
    · obtain ⟨rfl, hcons⟩ | ⟨z, rfl, rfl⟩ := List.cons_eq_append_iff.1 hz
      · exact absurd (List.cons.inj hcons).1 hsemi
      · exact hx.semicolons a z rfl

theorem harmless_of_isPathChar {s : List Char} (h : ∀ c ∈ s, isPathChar c = true) :
    Harmless s where
  allowed f hf hin := by
    have hall : (forbidden.all fun f => f.any fun c => !isPathChar c) = true := by decide
    obtain ⟨c, hc, hother⟩ := List.any_eq_true.1 (List.all_eq_true.1 hall f hf)
    rw [h c (hin.subset hc)] at hother
    cases hother
  semicolons a b hs := by
    have hsemi : isPathChar ';' = true := h ';' (by simp [hs])
    exact absurd hsemi (by decide)

theorem Harmless.nil : Harmless [] := harmless_of_isPathChar (by simp)

theorem brackets_of_isPathChar {s : List Char} (h : ∀ c ∈ s, isPathChar c = true) (dash : Bool) :
    brackets dash s = [] := by
  induction s generalizing dash with
  | nil => rfl
  | cons c r ih =>
    obtain ⟨hc, hr⟩ := List.forall_mem_cons.1 h
    have hbracket : isBracket c = false := by
      rw [← Bool.not_eq_true, isBracket, List.contains_iff_mem]
      intro hmem
      have hnone : ['(', ')', '[', ']', '<', '>'].any isPathChar = false := by decide
      exact List.any_eq_false.1 hnone c hmem hc
    rw [brackets, hbracket]
    exact ih hr _

theorem brackets_applied {base inner : List Char} (hbase : ∀ c ∈ base, isPathChar c = true)
    (hdash : dashAfter false inner = false) :
    brackets false (base ++ '<' :: (inner ++ ['>'])) = '<' :: (brackets false inner ++ ['>']) := by
  have hopen : ∀ dash, brackets dash ('<' :: (inner ++ ['>'])) =
      '<' :: brackets false (inner ++ ['>']) := by
    simp [brackets, isBracket]
  rw [brackets_append, brackets_of_isPathChar hbase, hopen, brackets_append, hdash]
  rfl

theorem brackets_comma (s t : List Char) :
    brackets false (s ++ ',' :: ' ' :: t) = brackets false s ++ brackets false t := by
  rw [brackets_append]
  rfl

theorem isBlank_of_isPathChar {c : Char} (h : isPathChar c = true) : Text.isBlank c = false := by
  have hspace := Source.Lexer.isSpace_of_class (by decide +kernel) h
  simp only [Source.Lexer.isSpace, Bool.or_eq_false_iff] at hspace
  exact hspace.1.1

theorem dashAfter_false (s : String) : dashAfter false s.toList = endsInDash s := by
  unfold endsInDash
  cases hs : s.toList.getLast? with
  | none => rw [List.getLast?_eq_none_iff.1 hs]; rfl
  | some c =>
    obtain ⟨r, hr⟩ := List.getLast?_eq_some_iff.1 hs
    simp [hr, dashAfter]

end Validity

namespace TypeRef

open Validity

theorem path_sourceName (p : Primitive) : path p.sourceName = true := by
  cases p <;> decide

theorem toList_applied (base a : String) (as : List String) : (applied base (a :: as)).toList =
    base.toList ++ '<' :: ((", ".intercalate (a :: as)).toList ++ ['>']) := by
  simp [applied]

theorem toList_arguments (a b : String) (as : List String) :
    (", ".intercalate (a :: b :: as)).toList =
      a.toList ++ ',' :: ' ' :: (", ".intercalate (b :: as)).toList := by
  simp [String.intercalate_cons_cons]

mutual

theorem harmless_source {t : TypeRef} (h : Validity.type t = true) :
    Harmless t.source.toList := by
  cases t with
  | primitive p => exact harmless_of_isPathChar (isPathChar_of_path (path_sourceName p))
  | named s => exact harmless_of_isPathChar (isPathChar_of_path h)
  | verbatim s => exact (verbatimChars_iff.1 h).toHarmless
  | generic base args =>
    obtain ⟨hbase, hargs⟩ := Bool.and_eq_true_iff.1 h
    have hfront := harmless_of_isPathChar (isPathChar_of_path hbase)
    cases args with
    | nil => exact hfront
    | cons a as =>
      rw [source, sourceAll, toList_applied]
      exact hfront.join (by decide) ((harmless_arguments hargs).join (by decide) .nil)

theorem harmless_arguments {ts : List TypeRef} (h : Validity.types ts = true) :
    Harmless (", ".intercalate (sourceAll ts)).toList := by
  match ts with
  | [] => exact .nil
  | [t] => exact harmless_source (Bool.and_eq_true_iff.1 h).1
  | t :: u :: ts =>
    obtain ⟨ht, hrest⟩ := Bool.and_eq_true_iff.1 h
    have hmore := harmless_arguments hrest
    rw [sourceAll, sourceAll, toList_arguments]
    exact (harmless_source ht).join (by decide) (Harmless.nil.join (by decide) hmore)

end

mutual

theorem nested_source {t : TypeRef} (h : Validity.type t = true) (hclosed : t.unclosed = 0) :
    Nested (brackets false t.source.toList) := by
  cases t with
  | primitive p =>
    rw [source, brackets_of_isPathChar (isPathChar_of_path (path_sourceName p))]
    exact .nil
  | named s =>
    rw [source, brackets_of_isPathChar (isPathChar_of_path h)]
    exact .nil
  | verbatim s => exact (verbatimChars_iff.1 h).nested
  | generic base args =>
    obtain ⟨hbase, hargs⟩ := Bool.and_eq_true_iff.1 h
    have hfront := isPathChar_of_path hbase
    cases args with
    | nil =>
      have hname : (generic base []).source = base := rfl
      rw [hname, brackets_of_isPathChar hfront]
      exact .nil
    | cons a as =>
      rw [unclosed, Nat.add_eq_zero_iff, Bool.toNat_eq_zero,
        ← (leaves_arguments hargs).2] at hclosed
      have hinner := nested_arguments hargs hclosed.1
      have hdash : dashAfter false (", ".intercalate (a.source :: sourceAll as)).toList = false :=
        (dashAfter_false _).trans hclosed.2
      rw [source, sourceAll, toList_applied, brackets_applied hfront hdash]
      exact .cons (by decide) hinner .nil

theorem nested_arguments {ts : List TypeRef} (h : Validity.types ts = true)
    (hclosed : unclosedAll ts = 0) :
    Nested (brackets false (", ".intercalate (sourceAll ts)).toList) := by
  match ts with
  | [] => exact .nil
  | [t] => exact nested_source (Bool.and_eq_true_iff.1 h).1 (Nat.add_eq_zero_iff.1 hclosed).1
  | t :: u :: ts =>
    obtain ⟨ht, hrest⟩ := Bool.and_eq_true_iff.1 h
    obtain ⟨hfirst, hothers⟩ := Nat.add_eq_zero_iff.1 hclosed
    have hmore := nested_arguments hrest hothers
    rw [sourceAll, sourceAll, toList_arguments, brackets_comma]
    exact (nested_source ht hfirst).append hmore

end

theorem exists_not_blank_of_path {s : String} (h : path s = true) :
    ∃ c ∈ s.toList, Text.isBlank c = false := by
  cases hs : s.toList with
  | nil =>
    rw [path, hs] at h
    cases h
  | cons c r =>
    have hc := isPathChar_of_path h c (by simp [hs])
    exact ⟨c, by simp, isBlank_of_isPathChar hc⟩

theorem exists_not_blank {t : TypeRef} (h : Validity.type t = true) :
    ∃ c ∈ t.source.toList, Text.isBlank c = false := by
  cases t with
  | primitive p => exact exists_not_blank_of_path (path_sourceName p)
  | named s => exact exists_not_blank_of_path h
  | verbatim s => exact (verbatimChars_iff.1 h).notBlank
  | generic base args =>
    obtain ⟨c, hc, hblank⟩ := exists_not_blank_of_path (Bool.and_eq_true_iff.1 h).1
    refine ⟨c, ?_, hblank⟩
    cases args with
    | nil => exact hc
    | cons a as =>
      rw [source, sourceAll, toList_applied]
      exact List.mem_append_left _ hc

theorem verbatim_source_iff {t : TypeRef} (h : Validity.type t = true) :
    Validity.verbatim t.source = true ↔ t.unclosed = 0 := by
  constructor
  · intro hverbatim
    have hdepth := (scan_of_verbatim hverbatim 0).1
    rw [(leaves_source h).depth, Nat.zero_add] at hdepth
    exact hdepth
  · intro hclosed
    exact verbatimChars_iff.2 ⟨harmless_source h, exists_not_blank h, nested_source h hclosed⟩

end TypeRef

/-- The text of an accepted type holds nothing forbidden and no semicolon out of its place; as a
verbatim type it is accepted exactly when no generic in it has a last argument that ends in a
dash. -/
theorem Field.check_source_iff (name : String) (t : TypeRef)
    (h : Field.check ⟨name, t⟩ = .ok ()) :
    Validity.Harmless t.source.toList ∧
      (Field.check ⟨name, .verbatim t.source⟩ = .ok () ↔ t.unclosed = 0) := by
  obtain ⟨hname, htype⟩ := check_eq_ok_iff.1 h
  refine ⟨TypeRef.harmless_source htype, ?_⟩
  rw [check_eq_ok_iff, ← TypeRef.verbatim_source_iff htype]
  exact and_iff_right hname

section Runs

def pairsType : TypeRef :=
  .generic "Map" [.generic "Vec" [.verbatim "[u8; 2]"], .verbatim "fn() -> Option<u8>"]

theorem check_pairsType : Field.check ⟨"x", .verbatim pairsType.source⟩ = .ok () :=
  (Field.check_source_iff "x" pairsType (by decide)).2.2 (by decide)

def dashType : TypeRef := .generic "Vec" [.verbatim "a-"]

/-- The argument is accepted and the generic too, but not the text they are put together to. -/
theorem dashType_reopens : Field.check ⟨"x", dashType⟩ = .ok () ∧ dashType.source = "Vec<a->" ∧
    Field.check ⟨"x", .verbatim dashType.source⟩ = .error (.badType "x" "Vec<a->") := by
  decide

end Runs

end AccessorGen
