import AccessorGen.Source.Lexer

/-! What the readers of single lexemes give: the lexeme and the rest make up the text again, and the
first character of a literal or of a word tells which it is. -/

namespace AccessorGen.Source.Lexeme

def Cuts (cut : Cut) (s : List Char) : Prop := ∀ l r, cut = some (l, r) → l ++ r = s

theorem cuts_none (s : List Char) : Cuts none s := fun _ _ h => by cases h

theorem cuts_some {l r s : List Char} (h : l ++ r = s) : Cuts (some (l, r)) s := fun _ _ same => by
  obtain ⟨rfl, rfl⟩ := Prod.mk.inj (Option.some.inj same)
  exact h

theorem Cuts.prepend {cut : Cut} {s : List Char} (h : Cuts cut s) (start : List Char) :
    Cuts (prepend start cut) (start ++ s) := by
  cases cut with
  | none => exact cuts_none _
  | some parts =>
    obtain ⟨l, r⟩ := parts
    exact cuts_some (by rw [List.append_assoc, h l r rfl])

theorem bareWord_cuts (s : List Char) : Cuts (bareWord s) s := by
  cases s with
  | nil => exact cuts_none _
  | cons c r =>
    rw [bareWord]
    split
    · exact cuts_some (by rw [List.cons_append, List.takeWhile_append_dropWhile])
    · exact cuts_none _

theorem Cuts.withSuffix {cut : Cut} {s : List Char} (h : Cuts cut s) : Cuts (withSuffix cut) s := by
  cases cut with
  | none => exact cuts_none _
  | some parts =>
    obtain ⟨l, r⟩ := parts
    rw [Lexeme.withSuffix]
    split
    next w rest suffix =>
      exact cuts_some (by rw [List.append_assoc, bareWord_cuts r w rest suffix, h l r rfl])
    · exact h

theorem Cuts.wordBreak {cut : Cut} {s : List Char} (h : Cuts cut s) : Cuts (wordBreak cut) s := by
  unfold Lexeme.wordBreak
  split
  · split
    · exact cuts_none _
    · exact h
  · exact h

theorem exponent_cuts (signed valued : Bool) (s : List Char) :
    Cuts (exponent signed valued s) s := by
  induction s generalizing signed valued with
  | nil =>
    rw [exponent]
    split
    · exact cuts_some rfl
    · exact cuts_none _
  | cons c r ih =>
    rw [exponent]
    split
    · split
      · exact cuts_some rfl
      · split
        · exact cuts_none _
        · exact (ih true valued).prepend [c]
    · split
      · exact (ih signed true).prepend [c]
      · split
        · exact (ih signed valued).prepend [c]
        · split
          · exact cuts_some rfl
          · exact cuts_none _

theorem radixDigits_cuts (base : Nat) (empty : Bool) (s : List Char) :
    Cuts (radixDigits base empty s) s := by
  induction s generalizing empty with
  | nil =>
    rw [radixDigits]
    split
    · exact cuts_none _
    · exact cuts_some rfl
  | cons c r ih =>
    rw [radixDigits]
    split
    · split
      · exact cuts_none _
      · exact (ih empty).prepend [c]
    · split
      · split
        · exact (ih false).prepend [c]
        · split
          · exact cuts_none _
          · exact cuts_some rfl
      · split
        · exact cuts_none _
        · exact cuts_some rfl

theorem intDigits_cuts (s : List Char) : Cuts (intDigits s) s := by
  unfold intDigits
  split
  · exact (radixDigits_cuts 16 true _).prepend ['0', 'x']
  · exact (radixDigits_cuts 8 true _).prepend ['0', 'o']
  · exact (radixDigits_cuts 2 true _).prepend ['0', 'b']
  · exact radixDigits_cuts 10 true s

theorem fraction_cuts (whole r : List Char) :
    Cuts (match r.dropWhile isDigitOrUnderscore with
      | [] => some (whole ++ '.' :: r.takeWhile isDigitOrUnderscore, [])
      | e :: rest =>
        if e == 'e' || e == 'E' then
          match exponent false false rest with
          | some (x, rest') =>
            some (whole ++ '.' :: r.takeWhile isDigitOrUnderscore ++ e :: x, rest')
          | none => some (whole ++ '.' :: r.takeWhile isDigitOrUnderscore, e :: rest)
        else some (whole ++ '.' :: r.takeWhile isDigitOrUnderscore, e :: rest))
      (whole ++ '.' :: r) := by
  have digits : r.takeWhile isDigitOrUnderscore ++ r.dropWhile isDigitOrUnderscore = r :=
    List.takeWhile_append_dropWhile
  have start : ∀ rest, r.dropWhile isDigitOrUnderscore = rest →
      Cuts (some (whole ++ '.' :: r.takeWhile isDigitOrUnderscore, rest)) (whole ++ '.' :: r) := by
    intro rest after
    exact cuts_some (by rw [List.append_assoc, List.cons_append, ← after, digits])
  split
  next done => exact start [] done
  next e rest after =>
    split
    · split
      next x rest' power =>
        have parts := exponent_cuts false false rest x rest' power
        exact cuts_some (by
          rw [List.append_assoc, List.append_assoc, List.cons_append, List.cons_append, parts,
            ← after, digits])
      · exact start (e :: rest) after
    · exact start (e :: rest) after

theorem floatDigits_cuts (s : List Char) : Cuts (floatDigits s) s := by
  have whole : s.takeWhile isDigitOrUnderscore ++ s.dropWhile isDigitOrUnderscore = s :=
    List.takeWhile_append_dropWhile
  unfold floatDigits
  split
  · exact cuts_none _
  next d r =>
    split
    · exact cuts_none _
    · split
      next r' point =>
        have pointed := fraction_cuts ((d :: r).takeWhile isDigitOrUnderscore) r'
        rw [← point, whole] at pointed
        split
        · split
          · exact cuts_none _
          · exact pointed
        · exact pointed
      next e rest _ after =>
        split
        · have cut := (exponent_cuts false false rest).prepend
            ((d :: r).takeWhile isDigitOrUnderscore ++ [e])
          rwa [List.append_assoc, List.singleton_append, ← after, whole] at cut
        · exact cuts_none _
      · exact cuts_none _

theorem number_cuts (s : List Char) : Cuts (number s) s := by
  rw [number]
  split
  next cut found =>
    rw [← found]
    exact (floatDigits_cuts s).withSuffix.wordBreak
  · exact (intDigits_cuts s).withSuffix.wordBreak

theorem run_cuts {α : Type} (step : α → Char → Verdict α) (state : α) (s : List Char) :
    Cuts (run step state s) s := by
  induction s generalizing state with
  | nil => exact cuts_none _
  | cons c r ih =>
    rw [run]
    cases step state c with
    | go next => exact (ih next).prepend [c]
    | done => exact cuts_some rfl
    | fail => exact cuts_none _

theorem raw_cuts (flavor : Flavor) (s : List Char) : Cuts (raw flavor s) s := by
  have hashes : s.takeWhile (· == '#') ++ s.dropWhile (· == '#') = s :=
    List.takeWhile_append_dropWhile
  rw [raw]
  split
  · exact cuts_none _
  · split
    next r quote =>
      rw [quote] at hashes
      have cut := (run_cuts (rawStep flavor (s.takeWhile (· == '#')).length) .plain r).prepend
        (s.takeWhile (· == '#') ++ ['"'])
      rw [List.append_assoc, List.singleton_append, hashes] at cut
      exact cut
    · exact cuts_none _

theorem quoted_cuts (s : List Char) : Cuts (quoted s) s := by
  unfold quoted
  split
  · exact (run_cuts _ _ _).prepend ['"']
  · exact (raw_cuts _ _).prepend ['r']
  · exact (run_cuts _ _ _).prepend ['b', '"']
  · exact (raw_cuts _ _).prepend ['b', 'r']
  · exact (run_cuts _ _ _).prepend ['c', '"']
  · exact (raw_cuts _ _).prepend ['c', 'r']
  · exact (run_cuts _ _ _).prepend ['b', '\'']
  · exact (run_cuts _ _ _).prepend ['\'']
  · exact cuts_none _

theorem literal_append {s l r : List Char} (h : literal s = some (l, r)) : l ++ r = s := by
  rw [literal] at h
  split at h
  next cut found =>
    rw [← found] at h
    exact (quoted_cuts s).withSuffix l r h
  · exact number_cuts s l r h

theorem plainWord_append {s w r : List Char} (h : plainWord s = some (w, r)) : w ++ r = s := by
  rw [plainWord] at h
  split at h
  · cases h
  · exact word_append h

def Starts (kind : Char → Bool) (cut : Cut) : Prop :=
  ∀ l r, cut = some (l, r) → ∃ c l', l = c :: l' ∧ kind c = true

theorem starts_none (kind : Char → Bool) : Starts kind none := fun _ _ h => by cases h

theorem starts_some {kind : Char → Bool} {c : Char} {l r : List Char} (h : kind c = true) :
    Starts kind (some (c :: l, r)) := fun _ _ same => by
  obtain ⟨rfl, rfl⟩ := Prod.mk.inj (Option.some.inj same)
  exact ⟨c, l, rfl, h⟩

theorem starts_prepend {kind : Char → Bool} {c : Char} (h : kind c = true) (start : List Char)
    (cut : Cut) : Starts kind (prepend (c :: start) cut) := by
  cases cut with
  | none => exact starts_none kind
  | some parts => exact starts_some h

theorem Starts.withSuffix {kind : Char → Bool} {cut : Cut} (h : Starts kind cut) :
    Starts kind (withSuffix cut) := by
  cases cut with
  | none => exact starts_none kind
  | some parts =>
    obtain ⟨l, r⟩ := parts
    obtain ⟨c, l', rfl, hc⟩ := h l r rfl
    rw [Lexeme.withSuffix]
    split
    · exact starts_some hc
    · exact h

theorem Starts.wordBreak {kind : Char → Bool} {cut : Cut} (h : Starts kind cut) :
    Starts kind (wordBreak cut) := by
  unfold Lexeme.wordBreak
  split
  · split
    · exact starts_none kind
    · exact h
  · exact h

theorem bareWord_starts (s : List Char) : Starts isStart (bareWord s) := by
  cases s with
  | nil => exact starts_none _
  | cons c r =>
    rw [bareWord]
    split
    next hc => exact starts_some hc
    · exact starts_none _

theorem word_starts (s : List Char) : Starts isStart (word s) := by
  unfold word
  split
  · split
    · split
      · exact starts_none _
      · exact starts_some (by decide)
    · exact starts_none _
  · exact bareWord_starts s

theorem plainWord_starts (s : List Char) : Starts isStart (plainWord s) := by
  rw [plainWord]
  split
  · exact starts_none _
  · exact word_starts s

def startsLiteral (c : Char) : Bool := c.isDigit || ['"', 'r', 'b', 'c', '\''].contains c

theorem startsLiteral_of_isDigit {c : Char} (h : c.isDigit = true) : startsLiteral c = true := by
  rw [startsLiteral, h, Bool.true_or]

theorem quoted_starts (s : List Char) : Starts startsLiteral (quoted s) := by
  unfold quoted
  split <;> first | exact starts_prepend (by decide) _ _ | exact starts_none _

theorem floatDigits_starts (s : List Char) : Starts startsLiteral (floatDigits s) := by
  unfold floatDigits
  split
  · exact starts_none _
  next d r =>
    split
    · exact starts_none _
    next digit =>
      have digit : d.isDigit = true := by simpa using digit
      have start := startsLiteral_of_isDigit digit
      have whole : (d :: r).takeWhile isDigitOrUnderscore = d :: r.takeWhile isDigitOrUnderscore :=
        List.takeWhile_cons_of_pos (by simp [isDigitOrUnderscore, digit])
      simp only [whole]
      repeat' split
      all_goals first
        | exact starts_none _
        | exact starts_some start
        | exact starts_prepend start _ _

theorem hexValue?_decimal {c : Char} {v : Nat} (h : hexValue? c = some v) (small : v < 10) :
    c.isDigit = true := by
  simp only [hexValue?, Char.le_def, UInt32.le_iff_toNat_le] at h
  simp only [Char.isDigit, Bool.and_eq_true, decide_eq_true_eq, ge_iff_le, UInt32.le_iff_toNat_le]
  have bounds : ('a').val.toNat = 97 ∧ ('f').val.toNat = 102 ∧ ('A').val.toNat = 65 ∧
    ('F').val.toNat = 70 ∧ ('0').val.toNat = 48 ∧ ('9').val.toNat = 57 := by decide
  have toNat : c.toNat = c.val.toNat := rfl
  split at h
  next digit => exact digit
  · split at h
    · simp only [Option.some.injEq] at h; omega
    · split at h
      · simp only [Option.some.injEq] at h; omega
      · cases h

theorem radixDigits_starts (s : List Char) : Starts startsLiteral (radixDigits 10 true s) := by
  cases s with
  | nil => exact starts_none _
  | cons c r =>
    rw [radixDigits]
    split
    · exact starts_none _
    · split
      next v hex =>
        split
        next small =>
          exact starts_prepend (startsLiteral_of_isDigit (hexValue?_decimal hex small)) _ _
        · rw [if_pos (by simp)]
          exact starts_none _
      · exact starts_none _

theorem intDigits_starts (s : List Char) : Starts startsLiteral (intDigits s) := by
  unfold intDigits
  split
  · exact starts_prepend (by decide) _ _
  · exact starts_prepend (by decide) _ _
  · exact starts_prepend (by decide) _ _
  · exact radixDigits_starts s

theorem literal_starts (s : List Char) : Starts startsLiteral (literal s) := by
  rw [literal]
  split
  next cut found =>
    rw [← found]
    exact (quoted_starts s).withSuffix
  · rw [number]
    split
    next cut found =>
      rw [← found]
      exact (floatDigits_starts s).withSuffix.wordBreak
    · exact (intDigits_starts s).withSuffix.wordBreak

theorem literal_eq_none {c : Char} (h : startsLiteral c = false) (r : List Char) :
    literal (c :: r) = none := by
  cases found : literal (c :: r) with
  | none => rfl
  | some parts =>
    obtain ⟨d, l, same, start⟩ := literal_starts _ parts.1 parts.2 found
    have whole := literal_append found
    rw [same] at whole
    obtain ⟨rfl, -⟩ := List.cons.inj whole
    rw [h] at start
    cases start

end AccessorGen.Source.Lexeme
