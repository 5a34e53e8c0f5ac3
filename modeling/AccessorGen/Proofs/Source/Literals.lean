import AccessorGen.Source.Lexer
import AccessorGen.Proofs.Text.Words

/-! What a literal between double quotes stands for. The grammar is that of the source language: a
character stands for itself or is written as an escape. A literal stands for one text only, and the
literal that is written for a text stands for that text. -/

namespace AccessorGen.Source.QuotedLiteral

def hexNumber? (start : Nat) : List Char → Option Nat
  | [] => some start
  | c :: rest =>
    match Lexeme.hexValue? c with
    | some v => hexNumber? (16 * start + v) rest
    | none => none

def letterEscapes : List (Char × Char) :=
  [('0', '\x00'), ('t', '\t'), ('n', '\n'), ('r', '\r'), ('"', '"'), ('\'', '\''), ('\\', '\\')]

/-- What is in front of the text shows a character, and the rest is behind it. -/
inductive Shows : List Char → Char → List Char → Prop
  | itself {c : Char} {rest : List Char} (hquote : c ≠ '"') (hslash : c ≠ '\\')
    (hreturn : c ≠ '\r') : Shows (c :: rest) c rest
  | letter {e c : Char} {rest : List Char} (h : (e, c) ∈ letterEscapes) :
    Shows ('\\' :: e :: rest) c rest
  | byte {a b c : Char} {rest : List Char} (h : hexNumber? 0 [a, b] = some c.toNat)
    (hascii : c.toNat < 128) : Shows ('\\' :: 'x' :: a :: b :: rest) c rest
  | scalar {digits behind rest : List Char} {c : Char} (hbehind : behind = digits ++ '\x7d' :: rest)
    (hlength : digits.length ≤ 6) (h : hexNumber? 0 digits = some c.toNat) :
    Shows ('\\' :: 'u' :: '\x7b' :: behind) c rest

/-- What is behind an opening quote shows a text and ends with the closing quote. -/
inductive Contents : List Char → List Char → Prop
  | closed : Contents ['"'] []
  | more {s rest text : List Char} {c : Char} (first : Shows s c rest)
    (others : Contents rest text) : Contents s (c :: text)

/-- The literal stands for the text. -/
def StandsFor (literal text : String) : Prop :=
  ∃ body, literal.toList = '"' :: body ∧ Contents body text.toList

theorem hexNumber?_append (start : Nat) (s t : List Char) : hexNumber? start (s ++ t) =
    (hexNumber? start s).bind fun n => hexNumber? n t := by
  induction s generalizing start with
  | nil => rfl
  | cons c s ih =>
    rw [List.cons_append, hexNumber?, hexNumber?]
    cases Lexeme.hexValue? c with
    | none => rfl
    | some v => exact ih _

theorem hexValue?_digitChar : ∀ n < 16, Lexeme.hexValue? n.digitChar = some n := by decide

theorem hexNumber?_toDigits (n : Nat) : hexNumber? 0 (Nat.toDigits 16 n) = some n := by
  induction n using Nat.strongRecOn with
  | ind n ih =>
    by_cases hsmall : n < 16
    · simp [Nat.toDigits_of_lt_base hsmall, hexNumber?, hexValue?_digitChar n hsmall]
    · have hlast := hexValue?_digitChar (n % 16) (Nat.mod_lt n (by decide))
      rw [Nat.toDigits_of_base_le (by decide) (Nat.le_of_not_lt hsmall), hexNumber?_append,
        ih (n / 16) (Nat.div_lt_self (by omega) (by decide)), Option.bind_some, hexNumber?, hlast]
      exact congrArg some (Nat.div_add_mod n 16)

theorem closing_not_mem_of_hexNumber? {start n : Nat} {s : List Char}
    (h : hexNumber? start s = some n) : '\x7d' ∉ s := by
  induction s generalizing start with
  | nil => exact List.not_mem_nil
  | cons c s ih =>
    rw [hexNumber?] at h
    cases hv : Lexeme.hexValue? c with
    | none => simp [hv] at h
    | some v =>
      rw [hv] at h
      rw [List.mem_cons, not_or]
      refine ⟨?_, ih h⟩
      rintro rfl
      cases hv

theorem length_toDigits_toNat (c : Char) : (Nat.toDigits 16 c.toNat).length ≤ 6 := by
  refine (Nat.length_toDigits_le_iff (by decide) (by decide)).2 ?_
  have hvalid : c.toNat < 0xd800 ∨ 0xdfff < c.toNat ∧ c.toNat < 0x110000 := c.valid
  omega

theorem Shows.unique {s rest rest' : List Char} {c c' : Char} (h : Shows s c rest)
    (h' : Shows s c' rest') : c = c' ∧ rest = rest' := by
  -- The character behind the backslash tells the three kinds of escapes apart.
  have hletters : ∀ p ∈ letterEscapes, ∀ q ∈ letterEscapes, p.1 = q.1 → p.2 = q.2 := by decide
  have hx : ∀ c, ('x', c) ∉ letterEscapes := by simp [letterEscapes]
  have hu : ∀ c, ('u', c) ∉ letterEscapes := by simp [letterEscapes]
  cases h with
  | itself hquote hslash hreturn =>
    cases h' with
    | itself => exact ⟨rfl, rfl⟩
    | _ => exact absurd rfl hslash
  | letter h =>
    cases h' with
    | itself _ hslash => exact absurd rfl hslash
    | letter h' => exact ⟨hletters _ h _ h' rfl, rfl⟩
    | byte => exact absurd h (hx _)
    | scalar => exact absurd h (hu _)
  | byte h =>
    cases h' with
    | itself _ hslash => exact absurd rfl hslash
    | letter h' => exact absurd h' (hx _)
    | byte h' => exact ⟨Char.toNat_inj.1 (Option.some.inj (h.symm.trans h')), rfl⟩
  | scalar hbehind _ h =>
    cases h' with
    | itself _ hslash => exact absurd rfl hslash
    | letter h' => exact absurd h' (hu _)
    | scalar hbehind' _ h' =>
      obtain ⟨rfl, hrest⟩ := Text.append_inj_of_not_mem (closing_not_mem_of_hexNumber? h)
        (closing_not_mem_of_hexNumber? h') (hbehind.symm.trans hbehind')
      exact ⟨Char.toNat_inj.1 (Option.some.inj (h.symm.trans h')), hrest⟩

theorem not_shows_quote {c : Char} {rest : List Char} : ¬Shows ['"'] c rest := by
  intro h
  cases h with
  | itself hquote => exact hquote rfl

theorem Contents.unique {s text text' : List Char} (h : Contents s text)
    (h' : Contents s text') : text = text' := by
  induction h generalizing text' with
  | closed =>
    cases h' with
    | closed => rfl
    | more first _ => exact absurd first not_shows_quote
  | more first others ih =>
    cases h' with
    | closed => exact absurd first not_shows_quote
    | more first' others' =>
      obtain ⟨rfl, rfl⟩ := first.unique first'
      rw [ih others']

theorem StandsFor.unique {literal text text' : String} (h : StandsFor literal text)
    (h' : StandsFor literal text') : text = text' := by
  obtain ⟨body, hbody, hcontents⟩ := h
  obtain ⟨body', hbody', hcontents'⟩ := h'
  obtain rfl := (List.cons.inj (hbody.symm.trans hbody')).2
  exact String.toList_inj.1 (hcontents.unique hcontents')

theorem Shows.of_beq {c d e : Char} {rest : List Char} (h : (c == d) = true)
    (hletter : (e, d) ∈ letterEscapes) : Shows ('\\' :: e :: rest) c rest := by
  obtain rfl := eq_of_beq h
  exact .letter hletter

theorem shows_escapeChar (digitNext : Bool) (c : Char) (rest : List Char) :
    Shows (Text.escapeChar digitNext c ++ rest) c rest := by
  unfold Text.escapeChar
  split
  · next hzero =>
    obtain rfl : c = '\x00' := Char.toNat_inj.1 (by simpa using hzero)
    split
    · exact .byte rfl (by decide)
    · exact .letter (by decide)
  split
  · next htab => exact .of_beq htab (by decide)
  split
  · next hreturn => exact .of_beq hreturn (by decide)
  · next hreturn =>
    split
    · next hnewline => exact .of_beq hnewline (by decide)
    split
    · next hquoted =>
      obtain h | h := Bool.or_eq_true_iff.1 hquoted
      all_goals
        obtain rfl := eq_of_beq h
        exact .letter (by decide)
    · next hquoted =>
      have hself : Shows (c :: rest) c rest :=
        .itself (by rintro rfl; exact hquoted rfl) (by rintro rfl; exact hquoted rfl)
          (by rintro rfl; exact hreturn rfl)
      split
      · exact hself
      split
      · exact .scalar (List.append_assoc (Text.hexDigits c.toNat) ['\x7d'] rest)
          (length_toDigits_toNat c) (hexNumber?_toDigits c.toNat)
      · exact hself

theorem contents_escapeText (wary : Bool) (text : List Char) :
    Contents (Text.escapeText wary text ++ ['"']) text := by
  induction text with
  | nil => exact .closed
  | cons c text ih =>
    rw [Text.escapeText, List.append_assoc]
    exact .more (shows_escapeChar _ c _) ih

theorem standsFor_textLiteral (text : String) :
    StandsFor (Lexer.textLiteral text.toList) text :=
  ⟨Text.escapeText true text.toList ++ ['"'], by simp [Lexer.textLiteral, Text.quotedWith],
    contents_escapeText true text.toList⟩

end AccessorGen.Source.QuotedLiteral
