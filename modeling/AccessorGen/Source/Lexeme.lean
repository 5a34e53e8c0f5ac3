import AccessorGen.Text.Character

/-! Single lexemes: words, numbers, and quoted literals. Each reader cuts the text into the lexeme
and what follows it. Quoted literals are read by machines that see one character at a time. -/

namespace AccessorGen.Source.Lexeme

abbrev Cut := Option (List Char × List Char)

def prepend (start : List Char) : Cut → Cut
  | some (lexeme, rest) => some (start ++ lexeme, rest)
  | none => none

def isStart (c : Char) : Bool := c == '_' || Text.isWordStart c

def bareWord : List Char → Cut
  | [] => none
  | c :: r => if isStart c then some (c :: r.takeWhile Text.isWordContinue,
      r.dropWhile Text.isWordContinue) else none

def neverRaw : List (List Char) :=
  [['_'], ['s', 'u', 'p', 'e', 'r'], ['s', 'e', 'l', 'f'], ['S', 'e', 'l', 'f'],
   ['c', 'r', 'a', 't', 'e']]

def word : List Char → Cut
  | 'r' :: '#' :: r =>
    match bareWord r with
    | some (w, rest) => if neverRaw.contains w then none else some ('r' :: '#' :: w, rest)
    | none => none
  | s => bareWord s

/-- Beginnings of quoted literals; where the literal is broken, no word starts there either. -/
def quoteStarts : List (List Char) :=
  [['r', '"'], ['r', '#', '"'], ['r', '#', '#'], ['b', '"'], ['b', '\''], ['b', 'r', '"'],
   ['b', 'r', '#'], ['c', '"'], ['c', 'r', '"'], ['c', 'r', '#']]

def plainWord (s : List Char) : Cut :=
  if quoteStarts.any (·.isPrefixOf s) then none else word s

theorem bareWord_self {s w rest : List Char} (h : bareWord s = some (w, rest)) :
    bareWord w = some (w, []) ∧ '#' ∉ w.drop 1 := by
  cases s with
  | nil => cases h
  | cons c r =>
    simp only [bareWord] at h
    split at h
    next hc =>
      obtain ⟨rfl, rfl⟩ := Prod.mk.inj (Option.some.inj h)
      have hall : ∀ d ∈ r.takeWhile Text.isWordContinue, Text.isWordContinue d = true :=
        fun d hd => List.all_eq_true.1 List.all_takeWhile d hd
      have hhash : '#' ∉ r.takeWhile Text.isWordContinue := fun hd =>
        absurd (hall '#' hd) (by decide)
      refine ⟨?_, hhash⟩
      rw [bareWord, if_pos hc, ← List.append_nil (r.takeWhile _), List.takeWhile_append_of_pos hall,
        List.dropWhile_append_of_pos hall]
      simp
    · cases h

theorem word_of_bareWord {w : List Char} (h : '#' ∉ w.drop 1) : word w = bareWord w := by
  unfold word
  split
  · simp at h
  · rfl

theorem word_self {s w rest : List Char} (h : word s = some (w, rest)) : word w = some (w, []) := by
  unfold word at h
  split at h
  next r =>
    split at h
    next v rest' hv =>
      split at h
      · cases h
      next hraw =>
        obtain ⟨rfl, rfl⟩ := Prod.mk.inj (Option.some.inj h)
        rw [word, (bareWord_self hv).1]
        exact if_neg hraw
    · cases h
  · obtain ⟨hself, hhash⟩ := bareWord_self h
    rw [word_of_bareWord hhash, hself]

theorem word_append {s w rest : List Char} (h : word s = some (w, rest)) : w ++ rest = s := by
  have hbare : ∀ {s w rest : List Char}, bareWord s = some (w, rest) → w ++ rest = s := by
    intro s w rest h
    cases s with
    | nil => cases h
    | cons c r =>
      simp only [bareWord] at h
      split at h
      · obtain ⟨rfl, rfl⟩ := Prod.mk.inj (Option.some.inj h)
        simp [List.takeWhile_append_dropWhile]
      · cases h
  unfold word at h
  split at h
  · split at h
    next v rest' hv =>
      split at h
      · cases h
      · obtain ⟨rfl, rfl⟩ := Prod.mk.inj (Option.some.inj h)
        simp [hbare hv]
    · cases h
  · exact hbare h

theorem plainWord_self {s w rest : List Char} (h : plainWord s = some (w, rest)) :
    plainWord w = some (w, []) := by
  unfold plainWord at h ⊢
  split at h
  · cases h
  next hstarts =>
    rw [if_neg, word_self h]
    intro hw
    obtain ⟨q, hq, hfront⟩ := List.any_eq_true.1 hw
    refine hstarts (List.any_eq_true.2 ⟨q, hq, ?_⟩)
    rw [List.isPrefixOf_iff_prefix] at hfront ⊢
    rw [← word_append h]
    exact hfront.trans (List.prefix_append w rest)

def withSuffix : Cut → Cut
  | some (lexeme, rest) =>
    match bareWord rest with
    | some (w, rest') => some (lexeme ++ w, rest')
    | none => some (lexeme, rest)
  | none => none

def hexValue? (c : Char) : Option Nat :=
  if '0' ≤ c ∧ c ≤ '9' then some (c.toNat - 48)
  else if 'a' ≤ c ∧ c ≤ 'f' then some (c.toNat - 87)
  else if 'A' ≤ c ∧ c ≤ 'F' then some (c.toNat - 55)
  else none

def isDigitOrUnderscore (c : Char) : Bool := c.isDigit || c == '_'

def exponent (signed valued : Bool) : List Char → Cut
  | [] => if valued then some ([], []) else none
  | c :: r =>
    if c == '+' || c == '-' then
      if valued then some ([], c :: r)
      else if signed then none
      else prepend [c] (exponent true valued r)
    else if c.isDigit then prepend [c] (exponent signed true r)
    else if c == '_' then prepend [c] (exponent signed valued r)
    else if valued then some ([], c :: r)
    else none

/-- Digits with a point, an exponent, or both. A point that starts a range or a field access is
none, and a broken exponent behind a point is left to the suffix. -/
def floatDigits (s : List Char) : Cut :=
  match s with
  | [] => none
  | d :: _ =>
    if !d.isDigit then none else
    let whole := s.takeWhile isDigitOrUnderscore
    match s.dropWhile isDigitOrUnderscore with
    | '.' :: r =>
      if (match r with
          | c :: _ => c == '.' || isStart c
          | [] => false) then none else
      let start := whole ++ '.' :: r.takeWhile isDigitOrUnderscore
      match r.dropWhile isDigitOrUnderscore with
      | [] => some (start, [])
      | e :: rest =>
        if e == 'e' || e == 'E' then
          match exponent false false rest with
          | some (x, rest') => some (start ++ e :: x, rest')
          | none => some (start, e :: rest)
        else some (start, e :: rest)
    | e :: rest =>
      if e == 'e' || e == 'E' then prepend (whole ++ [e]) (exponent false false rest) else none
    | [] => none

/-- The digits of a base; `empty` says that none has been read yet. -/
def radixDigits (base : Nat) (empty : Bool) : List Char → Cut
  | [] => if empty then none else some ([], [])
  | c :: r =>
    if c == '_' then
      if empty && base == 10 then none else prepend [c] (radixDigits base empty r)
    else match hexValue? c with
      | some v =>
        if v < base then prepend [c] (radixDigits base false r)
        else if c.isDigit || empty then none
        else some ([], c :: r)
      | none => if empty then none else some ([], c :: r)

def intDigits : List Char → Cut
  | '0' :: 'x' :: r => prepend ['0', 'x'] (radixDigits 16 true r)
  | '0' :: 'o' :: r => prepend ['0', 'o'] (radixDigits 8 true r)
  | '0' :: 'b' :: r => prepend ['0', 'b'] (radixDigits 2 true r)
  | s => radixDigits 10 true s

def wordBreak : Cut → Cut
  | some (lexeme, c :: rest) => if Text.isWordContinue c then none else some (lexeme, c :: rest)
  | other => other

def number (s : List Char) : Cut :=
  match wordBreak (withSuffix (floatDigits s)) with
  | some cut => some cut
  | none => wordBreak (withSuffix (intDigits s))

/-- Text, bytes, or text for a foreign string, which holds no zero character. -/
inductive Flavor
  | text | bytes | foreign
  deriving DecidableEq, Repr

inductive QuoteState
  | plain
  | afterReturn
  | escape
  | hexFirst
  | hexSecond (first : Nat)
  | codeOpen
  | codeDigits (count value : Nat)
  | skip
  | skipReturn
  deriving DecidableEq, Repr

inductive Verdict (α : Type)
  | go (state : α)
  | done
  | fail

def run {α : Type} (step : α → Char → Verdict α) : α → List Char → Cut
  | _, [] => none
  | state, c :: r =>
    match step state c with
    | .go next => prepend [c] (run step next r)
    | .done => some ([c], r)
    | .fail => none

def plainStep (flavor : Flavor) (c : Char) : Verdict QuoteState :=
  if c == '"' then .done
  else if c == '\r' then .go .afterReturn
  else if c == '\\' then .go .escape
  else match flavor with
    | .text => .go .plain
    | .bytes => if c.toNat < 128 then .go .plain else .fail
    | .foreign => if c.toNat == 0 then .fail else .go .plain

def isSimpleEscape (c : Char) : Bool := ['n', 'r', 't', '\\', '\'', '"'].contains c

def escapeStep (flavor : Flavor) (c : Char) : Verdict QuoteState :=
  if isSimpleEscape c then .go .plain
  else if c == '0' then if flavor == .foreign then .fail else .go .plain
  else if c == 'x' then .go .hexFirst
  else if c == 'u' then if flavor == .bytes then .fail else .go .codeOpen
  else if c == '\n' then .go .skip
  else if c == '\r' then .go .skipReturn
  else .fail

def isScalar (n : Nat) : Bool := n < 0xD800 || (0xDFFF < n && n < 0x110000)

def codeStep (count value : Nat) (c : Char) : Verdict QuoteState :=
  match hexValue? c with
  | some v => if count == 6 then .fail else .go (.codeDigits (count + 1) (value * 16 + v))
  | none =>
    if count == 0 then .fail
    else if c == '_' then .go (.codeDigits count value)
    else if c == '\x7d' && isScalar value then .go .plain
    else .fail

def skipStep (flavor : Flavor) (c : Char) : Verdict QuoteState :=
  if c == ' ' || c == '\t' || c == '\n' then .go .skip
  else if c == '\r' then .go .skipReturn
  else plainStep flavor c

def quoteStep (flavor : Flavor) : QuoteState → Char → Verdict QuoteState
  | .plain, c => plainStep flavor c
  | .afterReturn, c => if c == '\n' then .go .plain else .fail
  | .escape, c => escapeStep flavor c
  | .hexFirst, c =>
    match hexValue? c with
    | some v => if flavor == .text && v ≥ 8 then .fail else .go (.hexSecond v)
    | none => .fail
  | .hexSecond first, c =>
    match hexValue? c with
    | some v => if flavor == .foreign && first == 0 && v == 0 then .fail else .go .plain
    | none => .fail
  | .codeOpen, c => if c == '\x7b' then .go (.codeDigits 0 0) else .fail
  | .codeDigits count value, c =>
    if flavor == .foreign && value == 0 && c == '\x7d' then .fail else codeStep count value c
  | .skip, c => skipStep flavor c
  | .skipReturn, c => if c == '\n' then .go .skip else .fail

/-- Inside a raw string: `closing` counts the hashes read since a quote. -/
inductive RawState
  | plain
  | afterReturn
  | closing (hashes : Nat)
  deriving DecidableEq, Repr

def rawStep (flavor : Flavor) (hashes : Nat) (state : RawState) (c : Char) : Verdict RawState :=
  match state with
  | .afterReturn => if c == '\n' then .go .plain else .fail
  | _ =>
    if c == '"' then if hashes == 0 then .done else .go (.closing 0)
    else if c == '\r' then .go .afterReturn
    else if flavor == .bytes && c.toNat ≥ 128 then .fail
    else if flavor == .foreign && c.toNat == 0 then .fail
    else match state with
      | .closing seen =>
        if c == '#' then if seen + 1 == hashes then .done else .go (.closing (seen + 1))
        else .go .plain
      | _ => .go .plain

def cooked (flavor : Flavor) (s : List Char) : Cut := run (quoteStep flavor) .plain s

/-- The hashes, the quote, and the text up to the quote with as many hashes; 255 are the most. -/
def raw (flavor : Flavor) (s : List Char) : Cut :=
  let hashes := s.takeWhile (· == '#')
  if hashes.length > 255 then none else
  match s.dropWhile (· == '#') with
  | '"' :: r => prepend (hashes ++ ['"']) (run (rawStep flavor hashes.length) .plain r)
  | _ => none

/-- After the quote of a character: any character or an escape, then a quote. -/
inductive CharState
  | first
  | inside (state : QuoteState)
  | last
  deriving DecidableEq, Repr

def charStep (flavor : Flavor) : CharState → Char → Verdict CharState
  | .first, c =>
    if c == '\\' then .go (.inside .escape)
    else if flavor == .bytes && c.toNat ≥ 128 then .fail
    else .go .last
  | .inside .escape, '\n' => .fail
  | .inside .escape, '\r' => .fail
  | .inside state, c =>
    match quoteStep flavor state c with
    | .go .plain => .go .last
    | .go next => .go (.inside next)
    | _ => .fail
  | .last, c => if c == '\'' then .done else .fail

def character (flavor : Flavor) (s : List Char) : Cut := run (charStep flavor) .first s

def quoted : List Char → Cut
  | '"' :: r => prepend ['"'] (cooked .text r)
  | 'r' :: r => prepend ['r'] (raw .text r)
  | 'b' :: '"' :: r => prepend ['b', '"'] (cooked .bytes r)
  | 'b' :: 'r' :: r => prepend ['b', 'r'] (raw .bytes r)
  | 'c' :: '"' :: r => prepend ['c', '"'] (cooked .foreign r)
  | 'c' :: 'r' :: r => prepend ['c', 'r'] (raw .foreign r)
  | 'b' :: '\'' :: r => prepend ['b', '\''] (character .bytes r)
  | '\'' :: r => prepend ['\''] (character .text r)
  | _ => none

def literal (s : List Char) : Cut :=
  match withSuffix (quoted s) with
  | some cut => some cut
  | none => number s

end AccessorGen.Source.Lexeme
