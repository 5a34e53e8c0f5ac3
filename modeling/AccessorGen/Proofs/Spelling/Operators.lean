import AccessorGen.Proofs.Source.Reading

/-! Operators of several characters, out of the joint marks they are written with. An operator is
as long as it can be, so what a mark adds to depends on the marks in front and on nothing else. -/

namespace AccessorGen.Source

/-- Operators of more than one character that count as wholes. -/
abbrev Operators := List (List Char)

/-- All of them; whatever one begins with is one, or a single mark. -/
def operators : Operators :=
  [['&', '&'], ['|', '|'], [':', ':'], ['-', '>'], ['=', '>'], ['<', '-'], ['=', '='], ['!', '='],
   ['<', '='], ['>', '='], ['+', '='], ['-', '='], ['*', '='], ['/', '='], ['%', '='], ['^', '='],
   ['&', '='], ['|', '='], ['<', '<'], ['>', '>'], ['<', '<', '='], ['>', '>', '='], ['.', '.'],
   ['.', '.', '.'], ['.', '.', '=']]

def firmOperators : Operators :=
  operators.filter fun o => o ∉ [['&', '&'], ['|', '|'], ['<', '-'], ['<', '<'], ['>', '>'],
    ['<', '<', '='], ['>', '>', '=']]

/-- A whole operator, or a token that is no mark. -/
inductive Atom
  | operator (text : List Char)
  | token (flat : Flat)
  deriving DecidableEq

namespace Atom

def text : Atom → List Char
  | .operator o => o
  | .token f => f.text

end Atom

/-- The operator read so far, and whether its last mark is joint. -/
abbrev Pending := Option (List Char × Bool)

variable {ops : Operators}

namespace Pending

def finish : Pending → List Atom
  | some (o, _) => [.operator o]
  | none => []

def text : Pending → List Char
  | some (o, _) => o
  | none => []

def joined? (ops : Operators) : Pending → Char → Option (List Char)
  | some (o, true), c => if ops.contains (o ++ [c]) then some (o ++ [c]) else none
  | _, _ => none

def after (ops : Operators) (p : Pending) : Flat → Pending
  | .mark c joint =>
    match p.joined? ops c with
    | some o => some (o, joint)
    | none => some ([c], joint)
  | _ => none

def emitted (ops : Operators) (p : Pending) : Flat → List Atom
  | .mark c _ => if (p.joined? ops c).isSome then [] else p.finish
  | f => p.finish ++ [.token f]

def through (ops : Operators) (p : Pending) (fs : List Flat) : Pending := fs.foldl (after ops) p

theorem through_append (p : Pending) (fs gs : List Flat) :
    p.through ops (fs ++ gs) = (p.through ops fs).through ops gs :=
  List.foldl_append

theorem after_of_not_isMark {f : Flat} (h : f.isMark = false) (p : Pending) :
    p.after ops f = none := by
  cases f <;> first | rfl | cases h

theorem emitted_of_not_isMark {f : Flat} (h : f.isMark = false) (p : Pending) :
    p.emitted ops f = p.finish ++ [.token f] := by
  cases f <;> first | rfl | cases h

theorem joined?_eq_some {p : Pending} {c : Char} {o' : List Char} :
    p.joined? ops c = some o' ↔
      ∃ o, p = some (o, true) ∧ o' = o ++ [c] ∧ ops.contains (o ++ [c]) = true := by
  unfold joined?
  split
  next o =>
    constructor
    · intro h
      split at h
      next known => exact ⟨o, rfl, (Option.some.inj h).symm, known⟩
      · cases h
    · rintro ⟨o, same, rfl, known⟩
      obtain ⟨rfl, -⟩ := Prod.mk.inj (Option.some.inj same)
      rw [if_pos known]
  next other =>
    constructor
    · intro h
      cases h
    · rintro ⟨o, rfl, -⟩
      exact absurd rfl (other o)

theorem finish_of_map_eq {p q : Pending} (same : q.map Prod.fst = p.map Prod.fst) :
    q.finish = p.finish := by
  cases p <;> cases q <;> simp_all [finish]

end Pending

def atoms (ops : Operators) (p : Pending) : List Flat → List Atom
  | [] => p.finish
  | f :: fs => p.emitted ops f ++ atoms ops (p.after ops f) fs

@[simp] theorem atoms_nil (p : Pending) : atoms ops p [] = p.finish := rfl

theorem atoms_cons (p : Pending) (f : Flat) (fs : List Flat) :
    atoms ops p (f :: fs) = p.emitted ops f ++ atoms ops (p.after ops f) fs := rfl

theorem atoms_token {f : Flat} (h : f.isMark = false) (p : Pending) (fs : List Flat) :
    atoms ops p (f :: fs) = p.finish ++ .token f :: atoms ops none fs := by
  rw [atoms_cons, Pending.emitted_of_not_isMark h, Pending.after_of_not_isMark h,
    List.append_assoc, List.singleton_append]

theorem atoms_joined {p : Pending} {c : Char} {o : List Char} (h : p.joined? ops c = some o)
    (joint : Bool) (fs : List Flat) :
    atoms ops p (.mark c joint :: fs) = atoms ops (some (o, joint)) fs := by
  simp [atoms_cons, Pending.emitted, Pending.after, h]

theorem atoms_apart {p : Pending} {c : Char} (h : p.joined? ops c = none) (joint : Bool)
    (fs : List Flat) :
    atoms ops p (.mark c joint :: fs) = p.finish ++ atoms ops (some ([c], joint)) fs := by
  simp [atoms_cons, Pending.emitted, Pending.after, h]

theorem atoms_pending (o : List Char) (joint : Bool) (fs : List Flat) :
    ∃ l rest, atoms ops (some (o, joint)) fs = .operator (o ++ l) :: rest := by
  induction fs generalizing o joint with
  | nil => exact ⟨[], [], by simp [Pending.finish]⟩
  | cons f fs ih =>
    cases isMark : f.isMark with
    | false => exact ⟨[], _, by rw [atoms_token isMark, List.append_nil]; rfl⟩
    | true =>
      obtain ⟨c, j, rfl⟩ := Flat.eq_mark isMark
      cases join : Pending.joined? ops (some (o, joint)) c with
      | none => exact ⟨[], _, by rw [atoms_apart join, List.append_nil]; rfl⟩
      | some o' =>
        obtain ⟨l, rest, same⟩ := ih o' j
        obtain ⟨_, start, rfl, -⟩ := Pending.joined?_eq_some.1 join
        obtain ⟨rfl, -⟩ := Prod.mk.inj (Option.some.inj start)
        exact ⟨c :: l, rest, by rw [atoms_joined join, same, List.append_assoc]; rfl⟩

theorem atoms_mark_ne {q : Pending} {c : Char} {o' : List Char} (join : q.joined? ops c = some o')
    (joint : Bool) (fs : List Flat) (rest : List Atom) :
    atoms ops q (.mark c joint :: fs) ≠ q.finish ++ rest := by
  obtain ⟨o, rfl, rfl, -⟩ := Pending.joined?_eq_some.1 join
  obtain ⟨l, tail, same⟩ := atoms_pending (o ++ [c]) joint fs
  rw [atoms_joined join, same]
  simp [Pending.finish]

theorem atoms_eq_token {p q : Pending} (same : q.map Prod.fst = p.map Prod.fst) {f : Flat}
    {fs : List Flat} {rest : List Atom} (h : atoms ops q fs = p.finish ++ .token f :: rest) :
    ∃ gs, fs = f :: gs ∧ atoms ops none gs = rest := by
  rw [← Pending.finish_of_map_eq same] at h
  cases fs with
  | nil => simp at h
  | cons g gs =>
    cases isMark : g.isMark with
    | false =>
      rw [atoms_token isMark] at h
      obtain ⟨first, tail⟩ := List.cons.inj (List.append_cancel_left h)
      exact ⟨gs, by rw [Atom.token.inj first], tail⟩
    | true =>
      exfalso
      obtain ⟨c, j, rfl⟩ := Flat.eq_mark isMark
      cases join : q.joined? ops c with
      | some o => exact atoms_mark_ne join j gs _ h
      | none =>
        obtain ⟨l, tail, first⟩ := atoms_pending [c] j gs
        rw [atoms_apart join, first] at h
        cases (List.cons.inj (List.append_cancel_left h)).1

theorem exists_joined {q : Pending} {o : List Char} (hq : q.map Prod.fst = some o) {c : Char}
    {l : List Char} {fs : List Flat} {rest : List Atom}
    (h : atoms ops q fs = .operator (o ++ c :: l) :: rest) :
    ∃ j fs', fs = .mark c j :: fs' ∧ q.joined? ops c = some (o ++ [c]) := by
  have longer : ∀ tail, atoms ops q fs ≠ q.finish ++ tail := by
    intro tail split
    obtain ⟨x, rfl, rfl⟩ := Option.map_eq_some_iff.1 hq
    rw [h] at split
    simp [Pending.finish] at split
  cases fs with
  | nil => exact absurd (List.append_nil _).symm (longer [])
  | cons g fs =>
    cases isMark : g.isMark with
    | false => exact absurd (atoms_token isMark q fs) (longer _)
    | true =>
      obtain ⟨d, j, rfl⟩ := Flat.eq_mark isMark
      cases join : q.joined? ops d with
      | none => exact absurd (atoms_apart join j fs) (longer _)
      | some o' =>
        obtain ⟨o₂, rfl, rfl, -⟩ := Pending.joined?_eq_some.1 join
        obtain rfl : o₂ = o := by simpa using hq
        obtain ⟨l', rest', first⟩ := atoms_pending (o₂ ++ [d]) j fs
        rw [atoms_joined join, first, List.append_assoc] at h
        have texts := Atom.operator.inj (List.cons.inj h).1
        obtain rfl : d = c := (List.cons.inj (List.append_cancel_left texts)).1
        exact ⟨j, fs, rfl, join⟩

theorem exists_apart {q : Pending} {c : Char} {l : List Char} {fs : List Flat} {rest : List Atom}
    (h : atoms ops q fs = q.finish ++ .operator (c :: l) :: rest) :
    ∃ j fs', fs = .mark c j :: fs' ∧ q.joined? ops c = none := by
  cases fs with
  | nil => simp at h
  | cons g fs =>
    cases isMark : g.isMark with
    | false =>
      rw [atoms_token isMark] at h
      cases (List.cons.inj (List.append_cancel_left h)).1
    | true =>
      obtain ⟨d, j, rfl⟩ := Flat.eq_mark isMark
      cases join : q.joined? ops d with
      | some o => exact absurd h (atoms_mark_ne join j fs _)
      | none =>
        obtain ⟨l', rest', first⟩ := atoms_pending [d] j fs
        rw [atoms_apart join, first] at h
        have texts := Atom.operator.inj (List.cons.inj (List.append_cancel_left h)).1
        obtain rfl : d = c := (List.cons.inj texts).1
        exact ⟨j, fs, rfl, join⟩

theorem atoms_eq_mark {p q : Pending} (same : q.map Prod.fst = p.map Prod.fst) {c : Char}
    {joint : Bool} {fs gs : List Flat} (h : atoms ops q fs = atoms ops p (.mark c joint :: gs)) :
    ∃ j fs', fs = .mark c j :: fs' ∧ q.joined? ops c = p.joined? ops c ∧
      atoms ops (q.after ops (.mark c j)) fs' = atoms ops (p.after ops (.mark c joint)) gs := by
  cases join : p.joined? ops c with
  | some o' =>
    obtain ⟨o, rfl, rfl, -⟩ := Pending.joined?_eq_some.1 join
    obtain ⟨l, rest, first⟩ := atoms_pending (o ++ [c]) joint gs
    rw [atoms_joined join] at h
    obtain ⟨j, fs', rfl, join'⟩ := exists_joined same
      (h.trans (by rw [first, List.append_assoc, List.singleton_append]))
    rw [atoms_joined join'] at h
    exact ⟨j, fs', rfl, join', by simpa [Pending.after, join, join'] using h⟩
  | none =>
    obtain ⟨l, rest, first⟩ := atoms_pending [c] joint gs
    rw [atoms_apart join, ← Pending.finish_of_map_eq same] at h
    obtain ⟨j, fs', rfl, join'⟩ := exists_apart (h.trans (by rw [first, List.singleton_append]))
    rw [atoms_apart join'] at h
    have tails := List.append_cancel_left h
    exact ⟨j, fs', rfl, join', by simpa [Pending.after, join, join'] using tails⟩

namespace Atom

def flat : Atom → Flat
  | .operator _ => .quote
  | .token f => f

end Atom

theorem text_finish (p : Pending) :
    p.finish.flatMap Atom.text = (p.map Prod.fst).getD [] := by
  cases p <;> simp [Pending.finish, Atom.text]

theorem text_atoms (p : Pending) (fs : List Flat) :
    (atoms ops p fs).flatMap Atom.text = (p.map Prod.fst).getD [] ++ Flat.textAll fs := by
  induction fs generalizing p with
  | nil => rw [atoms_nil, text_finish, Flat.textAll_nil, List.append_nil]
  | cons f fs ih =>
    cases isMark : f.isMark with
    | false =>
      rw [atoms_token isMark, List.flatMap_append, text_finish, List.flatMap_cons, ih]
      rfl
    | true =>
      obtain ⟨c, j, rfl⟩ := Flat.eq_mark isMark
      cases join : p.joined? ops c with
      | some o' =>
        obtain ⟨o, rfl, rfl, -⟩ := Pending.joined?_eq_some.1 join
        rw [atoms_joined join, ih]
        simp [Flat.text]
      | none =>
        rw [atoms_apart join, List.flatMap_append, text_finish, ih]
        simp [Flat.text]

theorem closed_quote (open_ : List Delimiter) (fs : List Flat) :
    Flat.closed open_ (.quote :: fs) = Flat.closed open_ fs := by cases open_ <;> rfl

theorem closed_finish (p : Pending) (open_ : List Delimiter) (fs : List Flat) :
    Flat.closed open_ (p.finish.map Atom.flat ++ fs) = Flat.closed open_ fs := by
  cases p with
  | none => rfl
  | some o => exact closed_quote open_ fs

theorem closed_atoms (p : Pending) (open_ : List Delimiter) (fs : List Flat) :
    Flat.closed open_ ((atoms ops p fs).map Atom.flat) = Flat.closed open_ fs := by
  induction fs generalizing p open_ with
  | nil =>
    rw [atoms_nil, ← List.append_nil (p.finish.map Atom.flat), closed_finish]
  | cons f fs ih =>
    cases isMark : f.isMark with
    | false =>
      rw [atoms_token isMark, List.map_append, closed_finish, List.map_cons, Atom.flat]
      cases f <;> cases open_ <;> simp [Flat.closed, ih]
    | true =>
      obtain ⟨c, j, rfl⟩ := Flat.eq_mark isMark
      have skip : Flat.closed open_ (.mark c j :: fs) = Flat.closed open_ fs := by
        cases open_ <;> rfl
      rw [skip]
      cases join : p.joined? ops c with
      | some o => rw [atoms_joined join, ih]
      | none => rw [atoms_apart join, List.map_append, closed_finish, ih]

end AccessorGen.Source
