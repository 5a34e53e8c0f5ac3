import AccessorGen.Proofs.Source.Flat

/-! Tokens without their places. Readers look at what tokens are and not where they stand, so what
is read from a text can be told from its tokens in a row. -/

namespace AccessorGen.Source

namespace Token

/-- A place for tokens whose place does not matter. -/
def nowhere : Span := ⟨0, 0⟩

mutual

def bare : Token → Token
  | .word w _ => .word w nowhere
  | .mark c joint _ => .mark c joint nowhere
  | .literal s _ => .literal s nowhere
  | .group d content _ => .group d (bareAll content) nowhere

def bareAll : List Token → List Token
  | [] => []
  | t :: ts => t.bare :: bareAll ts

end

@[simp] theorem bareAll_nil : bareAll [] = [] := by rw [bareAll]

@[simp] theorem bareAll_cons (t : Token) (ts : List Token) :
    bareAll (t :: ts) = t.bare :: bareAll ts := by rw [bareAll]

@[simp] theorem bare_word (w : Word) (s : Span) : (word w s).bare = .word w nowhere := by rw [bare]

@[simp] theorem bare_mark (c : Char) (joint : Bool) (s : Span) :
    (mark c joint s).bare = .mark c joint nowhere := by rw [bare]

@[simp] theorem bare_literal (text : String) (s : Span) :
    (literal text s).bare = .literal text nowhere := by rw [bare]

@[simp] theorem bare_group (d : Delimiter) (content : List Token) (s : Span) :
    (group d content s).bare = .group d (bareAll content) nowhere := by rw [bare]

theorem bareAll_eq_map (ts : List Token) : bareAll ts = ts.map bare := by
  induction ts with
  | nil => rfl
  | cons t ts ih => simp [ih]

theorem length_bareAll (ts : List Token) : (bareAll ts).length = ts.length := by
  simp [bareAll_eq_map]

mutual

theorem size_bare (t : Token) : t.bare.size = t.size := by
  cases t with
  | group d content s => rw [bare_group, size, size, sizeAll_bareAll content]
  | _ => simp [size]

theorem sizeAll_bareAll (ts : List Token) : sizeAll (bareAll ts) = sizeAll ts := by
  match ts with
  | [] => rfl
  | t :: ts => rw [bareAll_cons, sizeAll, sizeAll, size_bare t, sizeAll_bareAll ts]

end

theorem sizeAll_append (ts us : List Token) : sizeAll (ts ++ us) = sizeAll ts + sizeAll us := by
  induction ts with
  | nil => simp [sizeAll]
  | cons t ts ih => rw [List.cons_append, sizeAll, sizeAll, ih, Nat.add_assoc]

mutual

def plain : Token → Bool
  | .word _ s => s == nowhere
  | .mark c _ s => c != '\'' && s == nowhere
  | .literal _ s => s == nowhere
  | .group _ content s => plainAll content && s == nowhere

def plainAll : List Token → Bool
  | [] => true
  | t :: ts => t.plain && plainAll ts

end

mutual

theorem bare_of_plain {t : Token} (h : t.plain = true) : t.bare = t := by
  cases t with
  | group d content s =>
    simp only [plain, Bool.and_eq_true, beq_iff_eq] at h
    rw [bare_group, bareAll_of_plainAll h.1, h.2]
  | mark c joint s =>
    simp only [plain, Bool.and_eq_true, beq_iff_eq] at h
    rw [bare_mark, h.2]
  | word w s =>
    simp only [plain, beq_iff_eq] at h
    rw [bare_word, h]
  | literal text s =>
    simp only [plain, beq_iff_eq] at h
    rw [bare_literal, h]

theorem bareAll_of_plainAll {ts : List Token} (h : plainAll ts = true) : bareAll ts = ts := by
  match ts with
  | [] => rfl
  | t :: ts =>
    simp only [plainAll, Bool.and_eq_true] at h
    rw [bareAll_cons, bare_of_plain h.1, bareAll_of_plainAll h.2]

end

theorem plainAll_append (ts us : List Token) :
    plainAll (ts ++ us) = (plainAll ts && plainAll us) := by
  induction ts with
  | nil => rfl
  | cons t ts ih => rw [List.cons_append, plainAll, plainAll, ih, Bool.and_assoc]

theorem plainAll_flatMap {ι : Type} {f : ι → List Token} {xs : List ι}
    (h : ∀ x ∈ xs, plainAll (f x) = true) : plainAll (xs.flatMap f) = true := by
  induction xs with
  | nil => rfl
  | cons x xs ih =>
    obtain ⟨hx, hxs⟩ := List.forall_mem_cons.1 h
    rw [List.flatMap_cons, plainAll_append, hx, ih hxs]
    rfl

theorem flat_ne_closes (t : Token) (r : List Flat) (d : Delimiter) (r' : List Flat) :
    t.flat ++ r ≠ .closes d :: r' := by
  cases t <;> simp [flat, Flat.ofMark]
  split <;> simp

def Ends (r : List Flat) : Prop := r = [] ∨ ∃ d r', r = .closes d :: r'

theorem Ends.flatAll_cons {r : List Flat} (h : Ends r) (t : Token) (ts : List Token)
    (r' : List Flat) : flatAll (t :: ts) ++ r' ≠ r := by
  rw [Token.flatAll_cons, List.append_assoc]
  obtain rfl | ⟨d, r, rfl⟩ := h
  · intro e
    have hnil := (List.append_eq_nil_iff.1 e).1
    cases t <;> simp [flat] at hnil
  · exact flat_ne_closes t _ d r

theorem bare_eq_of_flat {t u : Token} {x y : List Flat}
    (hleaf : ∀ d content s, u ≠ .group d content s) (hplain : u.plain = true)
    (h : t.flat ++ x = u.flat ++ y) : t.bare = u.bare ∧ x = y := by
  cases u with
  | group d content s => exact absurd rfl (hleaf d content s)
  | word w s =>
    cases t with
    | word v s' =>
      simp only [flat, List.singleton_append, List.cons.injEq, Flat.word.injEq] at h
      obtain ⟨hw, hrest⟩ := h
      obtain rfl : v = w := by
        cases v
        cases w
        simpa [String.toList_inj] using hw
      exact ⟨rfl, hrest⟩
    | mark c joint s' =>
      simp only [flat, Flat.ofMark] at h
      split at h <;> cases h
    | _ => simp [flat] at h
  | mark c joint s =>
    have hc : c ≠ '\'' := by simpa [plain] using (Bool.and_eq_true_iff.1 hplain).1
    simp only [flat, Flat.ofMark, hc, if_false] at h
    cases t with
    | mark e joint' s' =>
      simp only [flat, Flat.ofMark] at h
      split at h
      · cases h
      · simp only [List.singleton_append, List.cons.injEq, Flat.mark.injEq] at h
        obtain ⟨⟨rfl, rfl⟩, hrest⟩ := h
        exact ⟨rfl, hrest⟩
    | _ => simp [flat] at h
  | literal text s =>
    cases t with
    | literal text' s' =>
      simp only [flat, List.singleton_append, List.cons.injEq, Flat.literal.injEq] at h
      obtain ⟨htext, hrest⟩ := h
      obtain rfl := String.toList_injective htext
      exact ⟨rfl, hrest⟩
    | mark c joint s' =>
      simp only [flat, Flat.ofMark] at h
      split at h <;> cases h
    | _ => simp [flat] at h

/-- In front of a row that begins with a group stands a group, and what is inside goes on to the
bracket that closes it. -/
theorem exists_group_of_flat {t : Token} {d : Delimiter} {content : List Token} {s : Span}
    {x y : List Flat} (h : t.flat ++ x = (Token.group d content s).flat ++ y) :
    ∃ more s', t = .group d more s' ∧
      flatAll more ++ .closes d :: x = flatAll content ++ .closes d :: y := by
  cases t with
  | group e more s' =>
    simp only [flat, List.cons_append, List.append_assoc, List.cons.injEq, Flat.opens.injEq] at h
    obtain ⟨rfl, hinside⟩ := h
    exact ⟨more, s', rfl, hinside⟩
  | mark c joint s' =>
    simp only [flat, Flat.ofMark] at h
    split at h <;> cases h
  | _ => simp [flat] at h

theorem bareAll_eq_of_flatAll (n : Nat) : ∀ {ts us : List Token} {r r' : List Flat},
    sizeAll us < n → plainAll us = true → Ends r → Ends r' →
    flatAll ts ++ r = flatAll us ++ r' → bareAll ts = bareAll us ∧ r = r' := by
  -- The induction is on the size, since a group holds a list of its own.
  induction n with
  | zero => exact fun h => absurd h (Nat.not_lt_zero _)
  | succ n ih =>
    intro ts us r r' hn hplain hr hr' h
    match ts, us with
    | [], [] => exact ⟨rfl, by simpa using h⟩
    | [], u :: us => exact absurd h.symm (by simpa using hr.flatAll_cons u us r')
    | t :: ts, [] => exact absurd h (by simpa using hr'.flatAll_cons t ts r)
    | t :: ts, u :: us =>
      rw [sizeAll] at hn
      simp only [plainAll, Bool.and_eq_true] at hplain
      rw [flatAll_cons, flatAll_cons, List.append_assoc, List.append_assoc] at h
      have hpos : 0 < u.size := by cases u <;> simp [size]
      have hhead : t.bare = u.bare ∧ flatAll ts ++ r = flatAll us ++ r' := by
        cases u with
        | group d content s =>
          obtain ⟨more, s', rfl, hinside⟩ := exists_group_of_flat h
          rw [size] at hn
          obtain ⟨hmore, hclose⟩ := ih (by omega) (Bool.and_eq_true_iff.1 hplain.1).1
            (.inr ⟨_, _, rfl⟩) (.inr ⟨_, _, rfl⟩) hinside
          exact ⟨by rw [bare_group, bare_group, hmore], (List.cons.inj hclose).2⟩
        | _ => exact bare_eq_of_flat nofun hplain.1 h
      obtain ⟨hrest, hends⟩ := ih (by omega) hplain.2 hr hr' hhead.2
      rw [bareAll_cons, bareAll_cons, hhead.1, hrest]
      exact ⟨rfl, hends⟩

theorem bareAll_eq {ts us : List Token} (hplain : plainAll us = true)
    (h : flatAll ts = flatAll us) : bareAll ts = us := by
  rw [← bareAll_of_plainAll hplain]
  exact (bareAll_eq_of_flatAll (sizeAll us + 1) (Nat.lt_succ_self _) hplain (.inl rfl) (.inl rfl)
    (by rw [h])).1

end Token

end AccessorGen.Source
