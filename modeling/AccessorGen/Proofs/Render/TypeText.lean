import AccessorGen.Proofs.Companion.Verbatim
import AccessorGen.Proofs.Render.Brackets
import AccessorGen.Proofs.Text.Words

/-! What a scan meets in the text of an accepted type. No accepted type closes a bracket that was
open before it. It leaves one open for every generic whose last argument ends in a dash, since the
bracket that should close the generic then reads as the head of an arrow. -/

namespace AccessorGen

namespace Text

theorem mem_consFirst {c d : Char} {p : List Char} {ps : List (List Char)} (h : d ∈ p)
    (hp : p ∈ ps) : ∃ q ∈ consFirst c ps, d ∈ q := by
  cases ps with
  | nil => cases hp
  | cons q qs =>
    rcases List.mem_cons.1 hp with rfl | hp
    · exact ⟨c :: p, by simp [consFirst], by simp [h]⟩
    · exact ⟨p, by simp [consFirst, hp], h⟩

theorem head_mem_consFirst (c : Char) (ps : List (List Char)) :
    ∃ q ∈ consFirst c ps, c ∈ q := by
  cases ps with
  | nil => exact ⟨[c], by simp [consFirst], by simp⟩
  | cons q qs => exact ⟨c :: q, by simp [consFirst], by simp⟩

theorem mem_cutColons {s : List Char} {c : Char} (h : c ∈ s) :
    c = ':' ∨ ∃ p ∈ cutColons s, c ∈ p := by
  induction s using cutColons.induct with
  | case1 => cases h
  | case2 r ih =>
    simp only [cutColons]
    rcases List.mem_cons.1 h with rfl | h
    · exact .inl rfl
    · rcases List.mem_cons.1 h with rfl | h
      · exact .inl rfl
      · exact (ih h).imp_right fun ⟨p, hp, hc⟩ => ⟨p, by simp [hp], hc⟩
  | case3 d r hne ih =>
    rw [cutColons]
    · rcases List.mem_cons.1 h with rfl | h
      · exact .inr (head_mem_consFirst c _)
      · exact (ih h).imp_right fun ⟨p, hp, hc⟩ => mem_consFirst hc hp
    · exact hne

end Text

theorem Nest.isPlain_of_word {c : Char} (h : (Text.isLetterOrNumber c || c == '_') = true) :
    Nest.isPlain c = true :=
  isPlain_of_class (p := fun c => Text.isLetterOrNumber c || c == '_') (by decide) h

namespace Validity

def isPathChar (c : Char) : Bool := Text.isLetterOrNumber c || ['_', ':', '#'].contains c

theorem isPathChar_of_word {c : Char} (h : (Text.isLetterOrNumber c || c == '_') = true) :
    isPathChar c = true := by
  simp only [isPathChar, Bool.or_eq_true, beq_iff_eq] at h ⊢
  exact h.imp_right fun h => by simp [h]

theorem isPathChar_of_pathSegment {s : List Char} (h : pathSegment s = true) :
    ∀ c ∈ s, isPathChar c = true := by
  intro c hc
  rw [pathSegment, Text.without] at h
  split at h
  next hmark =>
    obtain ⟨r, rfl⟩ := List.isPrefixOf_iff_prefix.1 hmark
    rcases List.mem_append.1 hc with hc | hc
    · have hmarks : ∀ d ∈ ['r', '#'], isPathChar d = true := List.all_eq_true.1 (by decide)
      exact hmarks c hc
    · rw [List.drop_left] at h
      exact isPathChar_of_word (Text.isIdentifierChars_mem h hc)
  · exact isPathChar_of_word (Text.isIdentifierChars_mem h hc)

theorem isPathChar_of_path {s : String} (h : path s = true) :
    ∀ c ∈ s.toList, isPathChar c = true := by
  intro c hc
  simp only [path, pathChars, Bool.and_eq_true, List.all_eq_true] at h
  obtain ⟨-, hall⟩ := h
  have hbody : ∀ c ∈ Text.without [':', ':'] s.toList, isPathChar c = true := by
    intro c hc
    obtain rfl | ⟨p, hp, hcp⟩ := Text.mem_cutColons hc
    · decide
    · exact isPathChar_of_pathSegment (hall p hp) c hcp
  rw [Text.without] at hbody
  split at hbody
  next hmark =>
    obtain ⟨r, hr⟩ := List.isPrefixOf_iff_prefix.1 hmark
    rw [← hr] at hbody hc
    rcases List.mem_append.1 hc with hc | hc
    · have hmarks : ∀ d ∈ [':', ':'], isPathChar d = true := List.all_eq_true.1 (by decide)
      exact hmarks c hc
    · exact hbody c (by simpa using hc)
  · exact hbody c hc

theorem isPlain_of_path {s : String} (h : path s = true) :
    ∀ c ∈ s.toList, Nest.isPlain c = true := fun c hc =>
  Nest.isPlain_of_class (p := isPathChar) (by decide) (isPathChar_of_path h c hc)

theorem step_of_opens {c : Char} (h : isBracket c = true) (hcl : closes c = none) (s : Nest) :
    s.step c = ⟨s.depth + 1, c == '-'⟩ ∧ s.closes c = false := by
  simp only [isBracket, List.contains_iff_mem, List.mem_cons, List.not_mem_nil, or_false] at h
  rcases h with rfl | rfl | rfl | rfl | rfl | rfl <;> first | exact ⟨rfl, rfl⟩ | cases hcl

theorem step_of_closes {c o : Char} (h : closes c = some o) {s : Nest}
    (harrow : (c == '>' && s.dash) = false) : s.step c = ⟨s.depth - 1, c == '-'⟩ := by
  unfold closes at h
  split at h
  · rfl
  · rfl
  · have hdash : s.dash = false := harrow
    simp [Nest.step, Nest.opens, Nest.closes, hdash]
  · cases h

theorem step_of_other {c : Char} {s : Nest} (h : (isBracket c && !(c == '>' && s.dash)) = false)
    (hleft : c ≠ '\x7b') (hright : c ≠ '\x7d') :
    s.step c = ⟨s.depth, c == '-'⟩ ∧ s.closes c = false := by
  by_cases hc : isBracket c = true
  · rw [hc, Bool.true_and, Bool.not_eq_false', Bool.and_eq_true, beq_iff_eq] at h
    obtain ⟨rfl, hdash⟩ := h
    simp [Nest.step, Nest.opens, Nest.closes, hdash]
  · simp only [isBracket, List.contains_iff_mem, List.mem_cons, List.not_mem_nil, or_false,
      not_or] at hc
    simp [Nest.step, Nest.opens, Nest.closes, hc, hleft, hright]

/-- One character of balanced text: the nest is as deep above its ground as the stack is high, and
what was open below the stack stays open. -/
theorem step_of_leftOpen {stack t : List Char} {dash : Bool} {c : Char} (hleft : c ≠ '\x7b')
    (hright : c ≠ '\x7d') (h : leftOpen stack (brackets dash [c]) = some t) (d : Nat) :
    Nest.step ⟨d + stack.length, dash⟩ c = ⟨d + t.length, c == '-'⟩ ∧
    Nest.dips d ⟨d + stack.length, dash⟩ c = false := by
  cases hc : isBracket c && !(c == '>' && dash) with
  | false =>
    have hword : brackets dash [c] = [] := by rw [brackets, hc, if_neg Bool.false_ne_true, brackets]
    rw [hword, leftOpen_nil] at h
    obtain rfl := Option.some.inj h
    obtain ⟨hstep, hcloses⟩ := step_of_other (s := ⟨d + stack.length, dash⟩) hc hleft hright
    exact ⟨hstep, by simp [Nest.dips, hcloses]⟩
  | true =>
    have hword : brackets dash [c] = [c] := by rw [brackets, hc, if_pos rfl, brackets]
    rw [hword] at h
    rw [Bool.and_eq_true, Bool.not_eq_true'] at hc
    obtain ⟨hbracket, harrow⟩ := hc
    cases hcl : closes c with
    | none =>
      rw [leftOpen_open hcl, leftOpen_nil] at h
      obtain rfl := Option.some.inj h
      obtain ⟨hstep, hcloses⟩ := step_of_opens hbracket hcl ⟨d + stack.length, dash⟩
      exact ⟨hstep, by simp [Nest.dips, hcloses]⟩
    | some o =>
      rw [leftOpen, hcl] at h
      cases stack with
      | nil => cases h
      | cons top below =>
        obtain ⟨rfl, hbelow⟩ : top = o ∧ below = t := by simpa using h
        rw [step_of_closes hcl harrow, hbelow]
        refine ⟨rfl, ?_⟩
        simp only [Nest.dips, List.length_cons, Bool.or_eq_false_iff, Bool.and_eq_false_iff,
          decide_eq_false_iff_not]
        exact ⟨by omega, .inl (by omega)⟩

theorem scan_of_balanced {stack s : List Char} {dash : Bool} (hopen : '\x7b' ∉ s)
    (hclose : '\x7d' ∉ s) (h : balanced stack dash s = true) (d : Nat) :
    (Nest.through ⟨d + stack.length, dash⟩ s).depth = d ∧
    Nest.avoids (Nest.dips d) ⟨d + stack.length, dash⟩ s = true := by
  induction s generalizing stack dash with
  | nil =>
    simp only [balanced, List.isEmpty_iff] at h
    simp [h]
  | cons c r ih =>
    rw [List.mem_cons, not_or] at hopen hclose
    obtain ⟨-, t, ht, hrest⟩ := balanced_cons_iff.1 h
    obtain ⟨hstep, hdips⟩ := step_of_leftOpen (Ne.symm hopen.1) (Ne.symm hclose.1) ht d
    obtain ⟨hdepth, havoids⟩ := ih hopen.2 hclose.2 hrest
    rw [Nest.through_cons, Nest.avoids_cons, hstep]
    exact ⟨hdepth, hdips, havoids⟩

theorem not_mem_of_verbatim {s : String} (h : verbatim s = true) {c : Char}
    (hc : [c] ∈ forbidden) : c ∉ s.toList := by
  intro hmem
  exact (verbatimChars_iff.1 h).allowed _ hc ((List.singleton_infix_iff c s.toList).2 hmem)

theorem scan_of_verbatim {s : String} (h : verbatim s = true) (d : Nat) :
    (Nest.through ⟨d, false⟩ s.toList).depth = d ∧
    Nest.avoids (Nest.dips d) ⟨d, false⟩ s.toList = true := by
  have hbrace := fun {c} => @not_mem_of_verbatim s h c
  rw [verbatim, verbatimChars, Bool.and_eq_true] at h
  exact scan_of_balanced (hbrace (by simp [forbidden])) (hbrace (by simp [forbidden])) h.2 d

end Validity

def endsInDash (s : String) : Bool := s.toList.getLast? == some '-'

theorem Nest.dash_through (d : Nat) (s : String) :
    (Nest.through ⟨d, false⟩ s.toList).dash = endsInDash s := by
  unfold endsInDash
  cases hs : s.toList.getLast? with
  | none => simp [List.getLast?_eq_none_iff.1 hs]
  | some c =>
    obtain ⟨r, hr⟩ := List.getLast?_eq_some_iff.1 hs
    simp [hr, Nest.through_append, Nest.step]

namespace TypeRef

mutual

/-- How many brackets the text of a type leaves open. -/
def unclosed : TypeRef → Nat
  | .generic _ args => unclosedAll args + ((sourceAll args).getLast?.any endsInDash).toNat
  | _ => 0

def unclosedAll : List TypeRef → Nat
  | [] => 0
  | t :: ts => t.unclosed + unclosedAll ts

end

/-- The text of a type neither leaves a bracket open nor holds a comma outside all brackets. -/
def staysInPlace (t : TypeRef) : Bool :=
  t.unclosed == 0 &&
    match t with
    | .verbatim s => Nest.avoids Nest.outerComma .start s.toList
    | _ => true

structure Leaves (n : Nat) (s : String) : Prop where
  depth (d : Nat) : (Nest.through ⟨d, false⟩ s.toList).depth = d + n
  avoids (d : Nat) : Nest.avoids (Nest.dips d) ⟨d, false⟩ s.toList = true

theorem Leaves.through {n : Nat} {s : String} (h : Leaves n s) (d : Nat) :
    Nest.through ⟨d, false⟩ s.toList = ⟨d + n, endsInDash s⟩ := by
  have hdepth := h.depth d
  have hdash := Nest.dash_through d s
  cases hs : Nest.through ⟨d, false⟩ s.toList
  simp_all

theorem leaves_of_isPlain {s : String} (h : ∀ c ∈ s.toList, Nest.isPlain c = true) :
    Leaves 0 s :=
  ⟨fun d => by rw [Nest.through_of_isPlain h]; rfl,
    fun d => Nest.avoids_dips_of_isPlain h (Nat.le_refl d)⟩

theorem avoids_dips_mono {d e : Nat} (hde : d ≤ e) {s : Nest} {cs : List Char}
    (h : Nest.avoids (Nest.dips e) s cs = true) : Nest.avoids (Nest.dips d) s cs = true := by
  refine Nest.avoids_of_imp (fun s c hd => ?_) h
  simp only [Nest.dips, Bool.or_eq_true, Bool.and_eq_true, decide_eq_true_eq] at hd ⊢
  exact hd.imp (fun hlt => by omega) (And.imp_left fun hle => by omega)

theorem Leaves.comma {m n : Nat} {s t : String} (hs : Leaves m s) (ht : Leaves n t) :
    Leaves (m + n) (s ++ ", " ++ t) := by
  have hsep : ∀ e b, Nest.through ⟨e, b⟩ ", ".toList = ⟨e, false⟩ := by
    intro e b
    simp [Nest.step, Nest.opens, Nest.closes]
  constructor <;> intro d
  · rw [String.toList_append, String.toList_append, Nest.through_append, Nest.through_append,
      hs.through, hsep, ht.depth, Nat.add_assoc]
  · rw [String.toList_append, String.toList_append, Nest.avoids_append, Nest.avoids_append,
      Nest.through_append, hs.through, hsep]
    refine ⟨⟨hs.avoids d, ?_⟩, avoids_dips_mono (by omega) (ht.avoids (d + m))⟩
    simp [Nest.dips, Nest.step, Nest.opens, Nest.closes]

theorem endsInDash_comma (s t : String) : endsInDash (s ++ ", " ++ t) = endsInDash t := by
  simp only [endsInDash, String.toList_append, List.getLast?_append]
  cases t.toList.getLast? <;> simp

/-- A base applied to its arguments: the last bracket closes the first one unless a dash stands
before it. -/
theorem Leaves.brackets {n : Nat} {base s : String}
    (hbase : ∀ c ∈ base.toList, Nest.isPlain c = true) (hs : Leaves n s) :
    Leaves (n + (endsInDash s).toNat) (base ++ "<" ++ s ++ ">") := by
  have hopen : ∀ d, Nest.through ⟨d, false⟩ (base ++ "<").toList = ⟨d + 1, false⟩ := by
    intro d
    rw [String.toList_append, Nest.through_append, Nest.through_of_isPlain hbase]
    simp [Nest.step, Nest.opens]
  constructor <;> intro d
  · rw [String.toList_append, String.toList_append, Nest.through_append, Nest.through_append, hopen,
      hs.through]
    cases endsInDash s
    · simp [Nest.step, Nest.opens, Nest.closes]
    · simp [Nest.step, Nest.opens, Nest.closes]
      omega
  · rw [String.toList_append, String.toList_append, Nest.avoids_append, Nest.avoids_append,
      Nest.through_append, hopen, hs.through]
    refine ⟨⟨?_, avoids_dips_mono (by omega) (hs.avoids (d + 1))⟩, ?_⟩
    · rw [String.toList_append, Nest.avoids_append, Nest.through_of_isPlain hbase]
      exact ⟨Nest.avoids_dips_of_isPlain hbase (Nat.le_refl d), by simp [Nest.dips, Nest.closes]⟩
    · simp [Nest.dips]
      omega

mutual

theorem leaves_source {t : TypeRef} (h : Validity.type t = true) : Leaves t.unclosed t.source := by
  cases t with
  | primitive p =>
    refine leaves_of_isPlain (List.all_eq_true.1 ?_)
    cases p <;> decide
  | named s => exact leaves_of_isPlain (Validity.isPlain_of_path h)
  | verbatim s =>
    exact ⟨fun d => (Validity.scan_of_verbatim h d).1, fun d => (Validity.scan_of_verbatim h d).2⟩
  | generic base args =>
    obtain ⟨hbase, hargs⟩ := Bool.and_eq_true_iff.1 h
    have hplain := Validity.isPlain_of_path hbase
    cases args with
    | nil => exact leaves_of_isPlain hplain
    | cons a as =>
      obtain ⟨hleaves, hdash⟩ := leaves_arguments hargs
      rw [source, unclosed, ← hdash]
      exact hleaves.brackets hplain

theorem leaves_arguments {ts : List TypeRef} (h : Validity.types ts = true) :
    Leaves (unclosedAll ts) (", ".intercalate (sourceAll ts)) ∧
    endsInDash (", ".intercalate (sourceAll ts)) = (sourceAll ts).getLast?.any endsInDash := by
  match ts with
  | [] => exact ⟨leaves_of_isPlain (by simp [sourceAll]), by simp [sourceAll, endsInDash]⟩
  | [t] =>
    have hfirst := leaves_source (Bool.and_eq_true_iff.1 h).1
    simpa [sourceAll, unclosedAll] using hfirst
  | t :: u :: ts =>
    obtain ⟨ht, hrest⟩ := Bool.and_eq_true_iff.1 h
    have hfirst := leaves_source ht
    obtain ⟨hleaves, hdash⟩ := leaves_arguments hrest
    have hmore : sourceAll (u :: ts) = u.source :: sourceAll ts := rfl
    rw [sourceAll, hmore, String.intercalate_cons_cons, ← hmore]
    refine ⟨hfirst.comma hleaves, ?_⟩
    rw [endsInDash_comma, hdash, hmore, List.getLast?_cons_cons]

end

/-- Only a type given as it stands may hold a comma outside all brackets: from the first bracket of
a generic on, the depth is never zero where a comma may stand. -/
theorem avoids_comma_source {t : TypeRef} (h : Validity.type t = true)
    (hform : ∀ s, t ≠ .verbatim s) : Nest.avoids Nest.outerComma .start t.source.toList = true := by
  cases t with
  | primitive p =>
    refine Nest.avoids_comma_of_isPlain (List.all_eq_true.1 ?_) _
    cases p <;> decide
  | named s => exact Nest.avoids_comma_of_isPlain (Validity.isPlain_of_path h) _
  | verbatim s => exact absurd rfl (hform s)
  | generic base args =>
    obtain ⟨hbase, hargs⟩ := Bool.and_eq_true_iff.1 h
    have hplain := Validity.isPlain_of_path hbase
    cases args with
    | nil => exact Nest.avoids_comma_of_isPlain hplain _
    | cons a as =>
      have hinner := (leaves_arguments hargs).1
      have hlist : (generic base (a :: as)).source.toList = base.toList ++
          '<' :: ((", ".intercalate (sourceAll (a :: as))).toList ++ ['>']) := by
        simp [source, applied, sourceAll]
      rw [hlist, Nest.avoids_append, Nest.start, Nest.through_of_isPlain hplain, Nest.avoids_cons,
        Nest.avoids_append]
      refine ⟨Nest.avoids_comma_of_isPlain hplain _, by simp [Nest.outerComma], ?_, ?_⟩
      · exact Nest.avoids_of_imp (fun _ _ => Nest.dips_of_outerComma) (hinner.avoids 1)
      · simp [Nest.outerComma]

/-- A type stays in its place exactly when a scan of its text finds no outer comma and ends outside
all brackets. -/
theorem staysInPlace_iff {t : TypeRef} (h : Validity.type t = true) :
    t.staysInPlace = true ↔
      Nest.avoids Nest.outerComma .start t.source.toList = true ∧
        (Nest.through .start t.source.toList).depth = 0 := by
  have hdepth : (Nest.through .start t.source.toList).depth = 0 ↔ t.unclosed = 0 := by
    rw [Nest.start, (leaves_source h).depth]
    omega
  have hcomma := avoids_comma_source h
  rw [hdepth]
  cases t with
  | verbatim s => simp [staysInPlace, source, and_comm]
  | primitive p => simp [staysInPlace, hcomma (by simp)]
  | named s => simp [staysInPlace, hcomma (by simp)]
  | generic base args => simp [staysInPlace, hcomma (by simp)]

end TypeRef

end AccessorGen
