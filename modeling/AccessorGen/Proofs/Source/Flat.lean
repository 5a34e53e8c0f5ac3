import AccessorGen.Proofs.Source.Lexemes

/-! Tokens in a row, in which the brackets of groups stand as tokens of their own. The token at the
front of a text is read from the text alone, and what is read is what stands there. -/

namespace AccessorGen.Source

/-- A token that holds no others. The quote of a lifetime is told from other marks. -/
inductive Flat
  | word (text : List Char)
  | literal (text : List Char)
  | quote
  | mark (char : Char) (joint : Bool)
  | opens (delimiter : Delimiter)
  | closes (delimiter : Delimiter)
  deriving DecidableEq

namespace Flat

def text : Flat → List Char
  | .word w => w
  | .literal s => s
  | .quote => ['\'']
  | .mark c _ => [c]
  | .opens d => [d.opening]
  | .closes d => [d.closing]

def ofMark (c : Char) (joint : Bool) : Flat := if c = '\'' then .quote else .mark c joint

def bare : Flat → Flat
  | .mark c _ => .mark c false
  | f => f

def isMark : Flat → Bool
  | .mark _ _ => true
  | _ => false

theorem eq_mark {f : Flat} (h : f.isMark = true) : ∃ c joint, f = .mark c joint := by
  cases f <;> first | exact ⟨_, _, rfl⟩ | cases h

theorem text_ofMark (c : Char) (joint : Bool) : (ofMark c joint).text = [c] := by
  rw [ofMark]
  split
  next quote => rw [quote, text]
  · rfl

theorem bare_eq_of_not_isMark {f g : Flat} (h : f.isMark = false) : g.bare = f.bare ↔ g = f := by
  cases f <;> cases g <;> simp_all [bare, isMark]

def closed : List Delimiter → List Flat → Bool
  | [], [] => true
  | _ :: _, [] => false
  | open_, .opens d :: fs => closed (d :: open_) fs
  | [], .closes _ :: _ => false
  | e :: open_, .closes d :: fs => e == d && closed open_ fs
  | open_, _ :: fs => closed open_ fs

end Flat

namespace Token

mutual

def flat : Token → List Flat
  | .word w _ => [.word w.text.toList]
  | .mark c joint _ => [.ofMark c joint]
  | .literal s _ => [.literal s.toList]
  | .group d content _ => .opens d :: flatAll content ++ [.closes d]

def flatAll : List Token → List Flat
  | [] => []
  | t :: ts => t.flat ++ flatAll ts

end

@[simp] theorem flatAll_nil : flatAll [] = [] := by rw [flatAll]

@[simp] theorem flatAll_cons (t : Token) (ts : List Token) :
    flatAll (t :: ts) = t.flat ++ flatAll ts := by rw [flatAll]

@[simp] theorem flatAll_append (ts us : List Token) :
    flatAll (ts ++ us) = flatAll ts ++ flatAll us := by
  induction ts with
  | nil => simp
  | cons t ts ih => simp [ih]

mutual

theorem closed_flat (t : Token) (open_ : List Delimiter) (fs : List Flat) :
    Flat.closed open_ (t.flat ++ fs) = Flat.closed open_ fs := by
  cases t with
  | word w s => simp [flat, Flat.closed]
  | literal text s => simp [flat, Flat.closed]
  | mark c joint s =>
    rw [flat, Flat.ofMark]
    split <;> simp [Flat.closed]
  | group d content s =>
    rw [flat, List.append_assoc, List.cons_append, Flat.closed, closed_flatAll content]
    simp [Flat.closed]

theorem closed_flatAll (ts : List Token) (open_ : List Delimiter) (fs : List Flat) :
    Flat.closed open_ (flatAll ts ++ fs) = Flat.closed open_ fs := by
  cases ts with
  | nil => simp
  | cons t ts => rw [flatAll_cons, List.append_assoc, closed_flat t, closed_flatAll ts]

end

end Token

namespace Lexer

def lead? : List Char → Option (Flat × List Char)
  | [] => none
  | c :: r =>
    match Delimiter.ofOpening? c with
    | some d => some (.opens d, r)
    | none =>
      match Delimiter.ofClosing? c with
      | some d => some (.closes d, r)
      | none =>
        match Lexeme.literal (c :: r) with
        | some (lexeme, rest) => some (.literal lexeme, rest)
        | none =>
          match mark? (c :: r) with
          | some (m, joint) => some (.ofMark m joint, r)
          | none =>
            match Lexeme.plainWord (c :: r) with
            | some (lexeme, rest) => some (.word lexeme, rest)
            | none => none

theorem markChar?_cons {c d : Char} {r : List Char} (h : markChar? (c :: r) = some d) :
    d = c ∧ markChars.contains c = true := by
  rw [markChar?] at h
  split at h
  · cases h
  · split at h
    next known => exact ⟨(Option.some.inj h).symm, known⟩
    · cases h

theorem mark?_cons {c m : Char} {r : List Char} {joint : Bool}
    (h : mark? (c :: r) = some (m, joint)) :
    m = c ∧ markChar? (c :: r) = some c ∧ (c ≠ '\'' → joint = (markChar? r).isSome) := by
  rw [mark?] at h
  split at h
  · cases h
  next quote =>
    obtain ⟨rfl, -⟩ := markChar?_cons quote
    split at h
    · obtain ⟨rfl, -⟩ := Prod.mk.inj (Option.some.inj h)
      exact ⟨rfl, quote, fun other => absurd rfl other⟩
    · cases h
  next d _ found =>
    obtain ⟨rfl, -⟩ := markChar?_cons found
    obtain ⟨rfl, rfl⟩ := Prod.mk.inj (Option.some.inj h)
    exact ⟨rfl, found, fun _ => rfl⟩

theorem ofOpening?_eq {c : Char} {d : Delimiter} (h : Delimiter.ofOpening? c = some d) :
    c = d.opening := by
  unfold Delimiter.ofOpening? at h
  split at h <;> cases h <;> rfl

theorem ofClosing?_eq {c : Char} {d : Delimiter} (h : Delimiter.ofClosing? c = some d) :
    c = d.closing := by
  unfold Delimiter.ofClosing? at h
  split at h <;> cases h <;> rfl

def leads (c : Char) : Bool :=
  (Delimiter.ofOpening? c).isSome || (Delimiter.ofClosing? c).isSome || Lexeme.startsLiteral c ||
    markChars.contains c || Lexeme.isStart c

theorem lead?_spec {s rest : List Char} {f : Flat} (h : lead? s = some (f, rest)) :
    f.text ++ rest = s ∧ ∃ c l, f.text = c :: l ∧ leads c = true := by
  cases s with
  | nil => cases h
  | cons c r =>
    rw [lead?] at h
    split at h
    next d opening =>
      obtain ⟨rfl, rfl⟩ := Prod.mk.inj (Option.some.inj h)
      obtain rfl := ofOpening?_eq opening
      exact ⟨rfl, _, [], rfl, by simp [leads, opening]⟩
    · split at h
      next d closing =>
        obtain ⟨rfl, rfl⟩ := Prod.mk.inj (Option.some.inj h)
        obtain rfl := ofClosing?_eq closing
        exact ⟨rfl, _, [], rfl, by simp [leads, closing]⟩
      · split at h
        next lexeme rest' literal =>
          obtain ⟨rfl, rfl⟩ := Prod.mk.inj (Option.some.inj h)
          obtain ⟨d, l, same, start⟩ := Lexeme.literal_starts _ _ _ literal
          exact ⟨Lexeme.literal_append literal, d, l, same, by simp [leads, start]⟩
        · split at h
          next m joint mark =>
            obtain ⟨rfl, rfl⟩ := Prod.mk.inj (Option.some.inj h)
            obtain ⟨rfl, found, -⟩ := mark?_cons mark
            have known := (markChar?_cons found).2
            rw [Flat.text_ofMark]
            exact ⟨rfl, m, [], rfl, by simp only [leads, known, Bool.or_true, Bool.true_or]⟩
          · split at h
            next lexeme rest' word =>
              obtain ⟨rfl, rfl⟩ := Prod.mk.inj (Option.some.inj h)
              obtain ⟨d, l, same, start⟩ := Lexeme.plainWord_starts _ _ _ word
              exact ⟨Lexeme.plainWord_append word, d, l, same, by simp [leads, start]⟩
            · cases h

theorem lead?_append {s rest : List Char} {f : Flat} (h : lead? s = some (f, rest)) :
    f.text ++ rest = s := (lead?_spec h).1

theorem leads_of_lead? {c : Char} {r rest : List Char} {f : Flat}
    (h : lead? (c :: r) = some (f, rest)) : leads c = true := by
  obtain ⟨whole, d, l, same, start⟩ := lead?_spec h
  rw [same] at whole
  exact (List.cons.inj whole).1 ▸ start

theorem length_of_lead? {s rest : List Char} {f : Flat} (h : lead? s = some (f, rest)) :
    rest.length < s.length := by
  obtain ⟨whole, c, l, same, -⟩ := lead?_spec h
  rw [← whole, same, List.length_append, List.length_cons]
  omega

def spaceCodes : List Nat :=
  [9, 10, 11, 12, 13, 32, 0x85, 0xA0, 0x1680, 0x2000, 0x2001, 0x2002, 0x2003, 0x2004, 0x2005,
   0x2006, 0x2007, 0x2008, 0x2009, 0x200A, 0x200E, 0x200F, 0x2028, 0x2029, 0x202F, 0x205F, 0x3000]

theorem toNat_mem_spaceCodes {c : Char} (h : isSpace c = true) : c.toNat ∈ spaceCodes := by
  simp only [isSpace, Text.isBlank, Bool.or_eq_true, Bool.and_eq_true, decide_eq_true_eq,
    beq_iff_eq] at h
  simp only [spaceCodes, List.mem_cons, List.not_mem_nil, or_false]
  rcases h with (h | h) | h
  · omega
  · have code : c.toNat = 0x200E := by rw [h]; rfl
    omega
  · have code : c.toNat = 0x200F := by rw [h]; rfl
    omega

theorem isSpace_of_class {p : Char → Bool} (hp : ∀ n ∈ spaceCodes, p (Char.ofNat n) = false)
    {c : Char} (h : p c = true) : isSpace c = false := by
  cases space : isSpace c with
  | false => rfl
  | true =>
    have clash := hp c.toNat (toNat_mem_spaceCodes space)
    rw [Char.ofNat_toNat, h] at clash
    cases clash

theorem isSpace_of_leads {c : Char} (h : leads c = true) : isSpace c = false :=
  isSpace_of_class (by decide +kernel) h

theorem lead?_mark {c m : Char} {joint : Bool} {r rest : List Char}
    (h : lead? (c :: r) = some (.mark m joint, rest)) :
    m = c ∧ markChar? (c :: r) = some c ∧ joint = (markChar? r).isSome ∧ rest = r := by
  rw [lead?] at h
  split at h
  · cases h
  · split at h
    · cases h
    · split at h
      · cases h
      · split at h
        next d j mark =>
          obtain ⟨rfl, found, next_⟩ := mark?_cons mark
          obtain ⟨same, rfl⟩ := Prod.mk.inj (Option.some.inj h)
          rw [Flat.ofMark] at same
          split at same
          · cases same
          next other =>
            obtain ⟨rfl, rfl⟩ := Flat.mark.inj same
            exact ⟨rfl, found, next_ other, rfl⟩
        · split at h <;> cases h

theorem lead?_behind_space {gap text rest r : List Char} {f : Flat}
    (space : ∀ c ∈ gap, isSpace c = true) (same : f.text = text)
    (h : lead? ((gap ++ (text ++ rest)).dropWhile isSpace) = some (f, r)) :
    r = rest ∧ lead? (text ++ rest) = some (f, rest) := by
  obtain ⟨whole, c, l, front, start⟩ := lead?_spec h
  subst same
  have drop : (f.text ++ rest).dropWhile isSpace = f.text ++ rest := by
    rw [front, List.cons_append]
    exact List.dropWhile_cons_of_neg (by simp [isSpace_of_leads start])
  rw [List.dropWhile_append_of_pos space, drop] at whole h
  obtain rfl := List.append_cancel_left whole
  exact ⟨rfl, h⟩

end Lexer

end AccessorGen.Source
