import AccessorGen.Companion.Validity
import Mathlib.Data.List.DropRight
import Mathlib.Data.List.Induction
import Mathlib.Data.List.Infix

/-! Which texts are taken for types as they stand. The check reads a text once, with a stack of the
open brackets; what it takes is a text with something in it, without the fragments that could end
the type, whose brackets are nested, and in which a semicolon stands directly inside a square
bracket. -/

namespace AccessorGen

namespace Text

theorem trim_eq_nil_iff {s : List Char} : trim s = [] ↔ ∀ c ∈ s, isBlank c = true := by
  rw [trim, trimEnd, List.reverse_eq_nil_iff, List.dropWhile_eq_nil_iff]
  simp only [List.mem_reverse, trimStart]
  constructor
  · intro h
    have hnone : s.dropWhile isBlank = [] := by
      rw [← List.dropWhile_idempotent, List.dropWhile_eq_nil_iff]
      exact h
    exact List.dropWhile_eq_nil_iff.1 hnone
  · exact fun h c hc => h c ((List.dropWhile_sublist _).subset hc)

theorem occurs_iff {fragment s : List Char} : occurs fragment s = true ↔ fragment <:+: s := by
  induction s with
  | nil => simp [occurs]
  | cons c r ih => rw [occurs, Bool.or_eq_true, ih, List.isPrefixOf_iff_prefix, List.infix_cons_iff]

end Text

namespace Validity

def Pair (o c : Char) : Prop := (o, c) ∈ [('(', ')'), ('[', ']'), ('<', '>')]

instance (o c : Char) : Decidable (Pair o c) := inferInstanceAs (Decidable (_ ∈ _))

/-- Each bracket is closed by one of its kind, and the brackets in between are nested. -/
inductive Nested : List Char → Prop
  | nil : Nested []
  | cons {o c : Char} {u v : List Char} (pair : Pair o c) (inner : Nested u) (rest : Nested v) :
    Nested (o :: (u ++ c :: v))

def isBracket (c : Char) : Bool := ['(', ')', '[', ']', '<', '>'].contains c

/-- The brackets of a text, but no `>` behind a dash; the flag says that a dash comes before the
text. -/
def brackets : Bool → List Char → List Char
  | _, [] => []
  | afterDash, c :: r =>
    if isBracket c && !(c == '>' && afterDash) then c :: brackets (c == '-') r
    else brackets (c == '-') r

/-- None of the fragments that could end a type, and a square bracket as the innermost open one
around each semicolon: the brackets between the two are nested. -/
structure Harmless (s : List Char) : Prop where
  allowed : ∀ f ∈ [['\x7b'], ['\x7d'], ['"'], ['/', '/'], ['/', '*'], ['\n'], ['\r']], ¬f <:+: s
  semicolons : ∀ a b, s = a ++ ';' :: b →
    ∃ p q, brackets false a = p ++ '[' :: q ∧ Nested q

/-- The texts that the check takes. -/
structure IsVerbatim (s : List Char) : Prop extends Harmless s where
  notBlank : ∃ c ∈ s, Text.isBlank c = false
  nested : Nested (brackets false s)

theorem pair_iff {o c : Char} : Pair o c ↔ closes c = some o := by
  unfold closes
  split <;> simp_all [Pair, eq_comm]

theorem Pair.opens {o c : Char} (h : Pair o c) : closes o = none := by
  simp only [Pair, List.mem_cons, Prod.mk.injEq, List.not_mem_nil, or_false] at h
  obtain ⟨rfl, -⟩ | ⟨rfl, -⟩ | ⟨rfl, -⟩ := h <;> rfl

theorem Nested.append {u v : List Char} (hu : Nested u) (hv : Nested v) : Nested (u ++ v) := by
  induction hu with
  | nil => exact hv
  | cons pair inner _ _ ih =>
    rw [List.cons_append, List.append_assoc, List.cons_append]
    exact .cons pair inner ih

def leftOpen : List Char → List Char → Option (List Char)
  | stack, [] => some stack
  | stack, c :: w =>
    match closes c with
    | none => leftOpen (c :: stack) w
    | some o =>
      match stack with
      | top :: below => if top = o then leftOpen below w else none
      | [] => none

@[simp] theorem leftOpen_nil (stack : List Char) : leftOpen stack [] = some stack := rfl

theorem leftOpen_open {c : Char} (h : closes c = none) (stack w : List Char) :
    leftOpen stack (c :: w) = leftOpen (c :: stack) w := by
  rw [leftOpen, h]

theorem leftOpen_close {o c : Char} (h : closes c = some o) (stack w : List Char) :
    leftOpen (o :: stack) (c :: w) = leftOpen stack w := by
  rw [leftOpen, h]
  exact if_pos rfl

theorem leftOpen_append (stack u v : List Char) :
    leftOpen stack (u ++ v) = (leftOpen stack u).bind fun t => leftOpen t v := by
  induction u generalizing stack with
  | nil => rfl
  | cons c u ih =>
    rw [List.cons_append, leftOpen, leftOpen]
    cases closes c with
    | none => exact ih _
    | some o =>
      cases stack with
      | nil => rfl
      | cons top below =>
        dsimp only
        split
        · exact ih _
        · rfl

theorem Nested.leftOpen {u : List Char} (h : Nested u) (stack : List Char) :
    leftOpen stack u = some stack := by
  induction h generalizing stack with
  | nil => rfl
  | cons pair _ _ hinner hrest =>
    rw [leftOpen_open pair.opens, leftOpen_append, hinner, Option.bind_some,
      leftOpen_close (pair_iff.1 pair), hrest]

inductive Unclosed : List Char → List Char → Prop
  | nil {u : List Char} (nested : Nested u) : Unclosed u []
  | cons {w stack u : List Char} {o : Char} (outer : Unclosed w stack) (opens : closes o = none)
      (inner : Nested u) : Unclosed (w ++ o :: u) (o :: stack)

theorem Unclosed.append {w stack v : List Char} (h : Unclosed w stack) (hv : Nested v) :
    Unclosed (w ++ v) stack := by
  cases h with
  | nil nested => exact .nil (nested.append hv)
  | cons outer opens inner =>
    rw [List.append_assoc, List.cons_append]
    exact .cons outer opens (inner.append hv)

theorem leftOpen_eq_some_iff {w stack : List Char} :
    leftOpen [] w = some stack ↔ Unclosed w stack := by
  constructor
  · intro h
    -- from the end: the last bracket opens one more or closes the innermost one
    induction w using List.reverseRecOn generalizing stack with
    | nil =>
      obtain rfl := Option.some.inj h
      exact .nil .nil
    | append_singleton w c ih =>
      rw [leftOpen_append] at h
      obtain ⟨t, ht, h⟩ := Option.bind_eq_some_iff.1 h
      have hw := ih ht
      cases hc : closes c with
      | none =>
        rw [leftOpen_open hc] at h
        obtain rfl := Option.some.inj h
        exact .cons hw hc .nil
      | some o =>
        cases hw with
        | nil nested => simp [leftOpen, hc] at h
        | @cons w stack' u top outer opens inner =>
          by_cases htop : top = o
          · subst htop
            rw [leftOpen_close hc] at h
            obtain rfl := Option.some.inj h
            rw [List.append_assoc, List.cons_append]
            exact outer.append (.cons (pair_iff.2 hc) inner .nil)
          · simp [leftOpen, hc, htop] at h
  · intro h
    induction h with
    | nil nested => exact nested.leftOpen []
    | cons outer opens inner ih =>
      rw [leftOpen_append, ih, Option.bind_some, leftOpen_open opens, inner.leftOpen]

theorem nested_iff {w : List Char} : Nested w ↔ leftOpen [] w = some [] := by
  rw [leftOpen_eq_some_iff]
  constructor
  · exact .nil
  · rintro ⟨h⟩
    exact h

theorem exists_leftOpen_iff {w r t : List Char} (h : leftOpen [] (w ++ r) = some t) {o : Char}
    (ho : closes o = none) :
    (∃ below, leftOpen [] w = some (o :: below)) ↔ ∃ p q, w = p ++ o :: q ∧ Nested q := by
  constructor
  · rintro ⟨below, hw⟩
    obtain _ | ⟨outer, -, inner⟩ := leftOpen_eq_some_iff.1 hw
    exact ⟨_, _, rfl, inner⟩
  · rintro ⟨p, q, rfl, hq⟩
    rw [List.append_assoc, leftOpen_append] at h
    obtain ⟨below, hp, -⟩ := Option.bind_eq_some_iff.1 h
    refine ⟨below, ?_⟩
    rw [leftOpen_append, hp, Option.bind_some, leftOpen_open ho, hq.leftOpen]

theorem brackets_cons (dash : Bool) (c : Char) (r : List Char) :
    brackets dash (c :: r) = brackets dash [c] ++ brackets (c == '-') r := by
  rw [brackets, brackets]
  split <;> rfl

def dashAfter (dash : Bool) (s : List Char) : Bool := s.foldl (fun _ c => c == '-') dash

theorem brackets_append (dash : Bool) (a b : List Char) :
    brackets dash (a ++ b) = brackets dash a ++ brackets (dashAfter dash a) b := by
  induction a generalizing dash with
  | nil => rfl
  | cons c a ih =>
    rw [List.cons_append, brackets_cons, ih, brackets_cons dash c a, List.append_assoc]
    rfl

theorem leftOpen_brackets_cons (stack : List Char) (dash : Bool) (c : Char) (r : List Char) :
    leftOpen stack (brackets dash (c :: r)) =
      (leftOpen stack (brackets dash [c])).bind fun t => leftOpen t (brackets (c == '-') r) := by
  rw [brackets_cons, leftOpen_append]

theorem isBracket_of_closes {c o : Char} (h : closes c = some o) : isBracket c = true := by
  unfold closes at h
  split at h <;> first | rfl | cases h

theorem isBracket_of_other {c : Char} (hopens : ¬(c == '(' || c == '[' || c == '<') = true)
    (hcloses : closes c = none) : isBracket c = false := by
  rw [← Bool.not_eq_true, isBracket, List.contains_iff_mem]
  intro hmem
  simp only [List.mem_cons, List.not_mem_nil, or_false] at hmem
  rcases hmem with rfl | rfl | rfl | rfl | rfl | rfl
  all_goals first | exact hopens rfl | cases hcloses

theorem balanced_cons_iff {stack r : List Char} {dash : Bool} {c : Char} :
    balanced stack dash (c :: r) = true ↔ (c = ';' → stack.head? = some '[') ∧
      ∃ t, leftOpen stack (brackets dash [c]) = some t ∧ balanced t (c == '-') r = true := by
  rw [balanced]
  split
  next hopens =>
    simp only [Bool.or_eq_true, beq_iff_eq] at hopens
    rcases hopens with (rfl | rfl) | rfl <;> simp [brackets, isBracket, leftOpen, closes]
  next hopens =>
    split
    next harrow =>
      simp only [Bool.and_eq_true, beq_iff_eq] at harrow
      obtain ⟨rfl, rfl⟩ := harrow
      simp [brackets]
    next harrow =>
      cases hcl : closes c with
      | some o =>
        have hsemi : c ≠ ';' := by
          rintro rfl
          cases hcl
        have hword : brackets dash [c] = [c] := by
          simp_all [brackets, isBracket_of_closes hcl]
        rw [hword]
        cases stack with
        | nil => simp [leftOpen, hcl, hsemi]
        | cons top below => by_cases htop : top = o <;> simp [leftOpen, hcl, hsemi, htop]
      | none =>
        have hword : brackets dash [c] = [] := by
          simp [brackets, isBracket_of_other hopens hcl]
        rw [hword]
        by_cases hsemi : c = ';' <;> by_cases htop : stack.head? = some '[' <;>
          simp [hsemi, htop]

theorem balanced_iff {stack s : List Char} {dash : Bool} :
    balanced stack dash s = true ↔ leftOpen stack (brackets dash s) = some [] ∧
      ∀ a b, s = a ++ ';' :: b →
        ∃ below, leftOpen stack (brackets dash a) = some ('[' :: below) := by
  induction s generalizing stack dash with
  | nil => simp [balanced, brackets]
  | cons c r ih =>
    rw [balanced_cons_iff, leftOpen_brackets_cons stack dash c r]
    constructor
    · rintro ⟨hfirst, t, ht, hrest⟩
      obtain ⟨hall, hlater⟩ := ih.1 hrest
      refine ⟨by rw [ht]; exact hall, fun a b hsplit => ?_⟩
      obtain ⟨rfl, hcons⟩ | ⟨a, rfl, hr⟩ := List.cons_eq_append_iff.1 hsplit
      · obtain ⟨below, rfl⟩ := List.head?_eq_some_iff.1 (hfirst (List.cons.inj hcons).1.symm)
        exact ⟨below, rfl⟩
      · rw [leftOpen_brackets_cons stack dash c a, ht]
        exact hlater a b hr
    · rintro ⟨hall, hsemi⟩
      obtain ⟨t, ht, hrest⟩ := Option.bind_eq_some_iff.1 hall
      refine ⟨?_, t, ht, ih.2 ⟨hrest, fun a b hr => ?_⟩⟩
      · rintro rfl
        obtain ⟨below, hbelow⟩ := hsemi [] r rfl
        rw [Option.some.inj hbelow, List.head?_cons]
      · obtain ⟨below, hbelow⟩ := hsemi (c :: a) b (by rw [hr, List.cons_append])
        rw [leftOpen_brackets_cons stack dash c a, ht] at hbelow
        exact ⟨below, hbelow⟩

theorem verbatimChars_iff {s : List Char} : verbatimChars s = true ↔ IsVerbatim s := by
  have hblank : (Text.trim s).isEmpty = false ↔ ∃ c ∈ s, Text.isBlank c = false := by
    rw [← Bool.not_eq_true, List.isEmpty_iff, Text.trim_eq_nil_iff]
    simp
  have hallowed : (forbidden.all fun f => !Text.occurs f s) = true ↔
      ∀ f ∈ forbidden, ¬f <:+: s := by
    simp only [List.all_eq_true, Bool.not_eq_true', ← Bool.not_eq_true, Text.occurs_iff]
  rw [verbatimChars, Bool.and_eq_true, Bool.and_eq_true, Bool.not_eq_true', hblank, hallowed,
    balanced_iff, ← nested_iff]
  have hsemicolons : Nested (brackets false s) →
      ((∀ a b, s = a ++ ';' :: b →
          ∃ below, leftOpen [] (brackets false a) = some ('[' :: below)) ↔
        ∀ a b, s = a ++ ';' :: b → ∃ p q, brackets false a = p ++ '[' :: q ∧ Nested q) := by
    refine fun hnested => forall₂_congr fun a b => imp_congr_right fun hsplit => ?_
    rw [hsplit, brackets_append] at hnested
    exact exists_leftOpen_iff (nested_iff.1 hnested) rfl
  constructor
  · rintro ⟨⟨hsome, hfree⟩, hnested, hsemi⟩
    exact ⟨⟨hfree, (hsemicolons hnested).1 hsemi⟩, hsome, hnested⟩
  · rintro ⟨⟨hfree, hsemi⟩, hsome, hnested⟩
    exact ⟨⟨hsome, hfree⟩, hnested, (hsemicolons hnested).2 hsemi⟩

end Validity

theorem Field.check_eq_ok_iff {f : Field} : f.check = .ok () ↔
    Validity.fieldName f.name = true ∧ Validity.type f.type = true := by
  unfold Field.check
  cases Validity.fieldName f.name <;> cases Validity.type f.type <;> simp

/-- Under a proper name, a type is taken as it stands exactly when its text is verbatim. -/
theorem Field.check_verbatim_iff (name text : String) (hname : Validity.fieldName name = true) :
    Field.check ⟨name, .verbatim text⟩ = .ok () ↔ Validity.IsVerbatim text.toList := by
  rw [check_eq_ok_iff, ← Validity.verbatimChars_iff]
  exact and_iff_right hname

theorem isVerbatim_function :
    Validity.IsVerbatim "fn(x: [u8; 2]) -> Vec<!>".toList :=
  (Field.check_verbatim_iff "x" "fn(x: [u8; 2]) -> Vec<!>" (by decide)).1 (by decide)

end AccessorGen
