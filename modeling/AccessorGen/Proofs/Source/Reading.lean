import AccessorGen.Proofs.Source.Comments

/-! Reading a text token by token, with no groups kept open. The tokens that are read from a text
are the ones a reading of it gives, once every bracket is closed; and a text that loses no slash is
read without passing over a comment. -/

namespace AccessorGen.Source

namespace Flat

def textAll (fs : List Flat) : List Char := fs.flatMap text

@[simp] theorem textAll_nil : textAll [] = [] := rfl

@[simp] theorem textAll_cons (f : Flat) (fs : List Flat) :
    textAll (f :: fs) = f.text ++ textAll fs := rfl

@[simp] theorem textAll_append (fs gs : List Flat) :
    textAll (fs ++ gs) = textAll fs ++ textAll gs := List.flatMap_append

end Flat

namespace Lexer

def docFlat (text : List Char) (inner : Bool) : List Flat :=
  Token.flatAll (docTokens text inner ⟨0, 0⟩)

theorem flatAll_docTokens (text : List Char) (inner : Bool) (span : Span) :
    Token.flatAll (docTokens text inner span) = docFlat text inner := by
  cases inner <;> simp [docFlat, docTokens, Token.flat]

theorem closed_docFlat (text : List Char) (inner : Bool) (open_ : List Delimiter)
    (fs : List Flat) : Flat.closed open_ (docFlat text inner ++ fs) = Flat.closed open_ fs :=
  Token.closed_flatAll _ open_ fs

inductive Reads : List Char → List Flat → Prop
  | done {s} (ended : skipSpace s.length s = []) : Reads s []
  | doc {s text inner rest fs}
      (comment : docComment? (skipSpace s.length s) = some (text, inner, rest))
      (reads : Reads rest fs) : Reads s (docFlat text inner ++ fs)
  | lead {s f rest fs} (plain : docComment? (skipSpace s.length s) = none)
      (front : lead? (skipSpace s.length s) = some (f, rest)) (reads : Reads rest fs) :
      Reads s (f :: fs)

inductive ReadsPlain : List Char → List Flat → Prop
  | done {s} (ended : s.dropWhile isSpace = []) : ReadsPlain s []
  | lead {s f rest fs} (front : lead? (s.dropWhile isSpace) = some (f, rest))
      (reads : ReadsPlain rest fs) : ReadsPlain s (f :: fs)

theorem commentKind?_of_lead? {s rest : List Char} {f : Flat} (h : lead? s = some (f, rest)) :
    commentKind? s = none := by
  cases kind : commentKind? s with
  | none => rfl
  | some k =>
    exfalso
    have comment : startsComment s = true := by
      unfold commentKind? at kind
      split at kind <;> first | rfl | cases kind
    obtain ⟨r, rfl⟩ := commentKind?_slash kind
    have mark : mark? ('/' :: r) = none := by simp [mark?, markChar?, comment]
    have literal : Lexeme.literal ('/' :: r) = none := Lexeme.literal_eq_none (by decide) r
    have word : Lexeme.plainWord ('/' :: r) = none := by
      cases found : Lexeme.plainWord ('/' :: r) with
      | none => rfl
      | some parts =>
        obtain ⟨d, l, same, start⟩ := Lexeme.plainWord_starts _ parts.1 parts.2 found
        have whole := Lexeme.plainWord_append found
        rw [same] at whole
        obtain ⟨rfl, -⟩ := List.cons.inj whole
        exact absurd start (by decide)
    rw [lead?, literal, mark, word] at h
    cases h

theorem ReadsPlain.reads {s : List Char} {fs : List Flat} (h : ReadsPlain s fs) : Reads s fs := by
  induction h with
  | @done s ended =>
    refine .done ?_
    rw [skipSpace_of_no_comment (Nat.le_refl _) (by rw [ended]; rfl), ended]
  | @lead s f rest fs front reads ih =>
    have none := commentKind?_of_lead? front
    have skip := skipSpace_of_no_comment (Nat.le_refl s.length) none
    exact .lead (by rw [skip]; exact docComment?_of_no_comment none) (by rw [skip]; exact front) ih

theorem weight_lead? {s rest : List Char} {f : Flat} (h : lead? s = some (f, rest)) :
    weight s = weight f.text + weight rest := by
  rw [← lead?_append h, weight_append]

theorem Reads.weight_le {s : List Char} {fs : List Flat} (h : Reads s fs) :
    weight (Flat.textAll fs) ≤ weight s := by
  induction h with
  | done ended => exact Nat.zero_le _
  | @doc s text inner rest fs comment reads ih =>
    have skip := weight_of_suffix (skipSpace_suffix s.length s)
    have less := (docComment?_spec comment).1
    have tokens : weight (Flat.textAll (docFlat text inner)) ≤ weight text :=
      weight_docTokens text inner ⟨0, 0⟩
    rw [Flat.textAll_append, weight_append]
    omega
  | @lead s f rest fs plain front reads ih =>
    have skip := weight_of_suffix (skipSpace_suffix s.length s)
    have parts := weight_lead? front
    rw [Flat.textAll_cons, weight_append]
    omega

theorem Reads.plain {s : List Char} {fs : List Flat} (h : Reads s fs)
    (keep : weight (Flat.textAll fs) = weight s) : ReadsPlain s fs := by
  induction h with
  | done ended => exact .done (skipSpace_eq_nil ended keep.symm)
  | @doc s text inner rest fs comment reads ih =>
    have skip := weight_of_suffix (skipSpace_suffix s.length s)
    have less := (docComment?_spec comment).1
    have tokens : weight (Flat.textAll (docFlat text inner)) ≤ weight text :=
      weight_docTokens text inner ⟨0, 0⟩
    have tail := reads.weight_le
    rw [Flat.textAll_append, weight_append] at keep
    omega
  | @lead s f rest fs plain front reads ih =>
    have skip := weight_of_suffix (skipSpace_suffix s.length s)
    have parts := weight_lead? front
    have tail := reads.weight_le
    rw [Flat.textAll_cons, weight_append] at keep
    rcases skipSpace_eq (Nat.le_refl s.length) with same | less
    · rw [same] at front
      exact .lead front (ih (by omega))
    · omega

def before : List Frame → List Token → List Flat
  | [], tokens => Token.flatAll tokens.reverse
  | f :: outer, tokens =>
    before outer f.before ++ .opens f.delimiter :: Token.flatAll tokens.reverse

theorem before_append (frames : List Frame) (tokens more : List Token) :
    before frames (more.reverse ++ tokens) = before frames tokens ++ Token.flatAll more := by
  cases frames <;> simp [before]

theorem before_cons (frames : List Frame) (t : Token) (tokens : List Token) :
    before frames (t :: tokens) = before frames tokens ++ t.flat := by
  cases frames <;> simp [before]

theorem before_open (d : Delimiter) (start : Nat) (frames : List Frame) (tokens : List Token) :
    before (⟨d, start, tokens⟩ :: frames) [] = before frames tokens ++ [.opens d] := by
  simp [before]

theorem before_close (f : Frame) (outer : List Frame) (tokens : List Token) (span : Span) :
    before outer (.group f.delimiter tokens.reverse span :: f.before) =
      before (f :: outer) tokens ++ [.closes f.delimiter] := by
  rw [before_cons, Token.flat, before]
  simp

theorem word?_plainWord (s : List Char) :
    (word? s).map (fun x => (x.1.text.toList, x.2)) = Lexeme.plainWord s := by
  unfold word?
  split
  next found => simp [found]
  next found => simp [found]

theorem leaf?_lead? {c : Char} {r : List Char} (span : Nat → Span)
    (opening : Delimiter.ofOpening? c = none) (closing : Delimiter.ofClosing? c = none) :
    (leaf? (c :: r) span).map (fun x => (x.1.flat, x.2)) =
      (lead? (c :: r)).map fun x => ([x.1], x.2) := by
  rw [leaf?, lead?, opening, closing]
  cases Lexeme.literal (c :: r) with
  | some cut => simp [Token.flat]
  | none =>
    cases mark : mark? (c :: r) with
    | some found => simp [Token.flat]
    | none =>
      rw [← word?_plainWord]
      cases word? (c :: r) with
      | some found => simp [Token.flat]
      | none => rfl

theorem lead?_of_leaf? {c : Char} {r rest : List Char} {span : Nat → Span} {t : Token}
    (opening : Delimiter.ofOpening? c = none) (closing : Delimiter.ofClosing? c = none)
    (h : leaf? (c :: r) span = some (t, rest)) :
    ∃ f, t.flat = [f] ∧ lead? (c :: r) = some (f, rest) := by
  have same := leaf?_lead? (r := r) span opening closing
  rw [h, Option.map_some, eq_comm, Option.map_eq_some_iff] at same
  obtain ⟨⟨f, rest'⟩, front, parts⟩ := same
  obtain ⟨flat, rfl⟩ := Prod.mk.inj parts
  exact ⟨f, flat.symm, front⟩

theorem leaf?_of_lead? {c : Char} {r rest : List Char} {f : Flat} (span : Nat → Span)
    (opening : Delimiter.ofOpening? c = none) (closing : Delimiter.ofClosing? c = none)
    (h : lead? (c :: r) = some (f, rest)) :
    ∃ t, t.flat = [f] ∧ leaf? (c :: r) span = some (t, rest) := by
  have same := leaf?_lead? (r := r) span opening closing
  rw [h, Option.map_some, Option.map_eq_some_iff] at same
  obtain ⟨⟨t, rest'⟩, front, parts⟩ := same
  obtain ⟨flat, rfl⟩ := Prod.mk.inj parts
  exact ⟨t, flat, front⟩

/-- A turn of the reader that ends well: nothing is left and no group is open, or some tokens are
read at the front and go behind what has been read. -/
theorem readFrom_turn {n at_ : Nat} {s : List Char} {frames : List Frame} {tokens out : List Token}
    (h : readFrom (n + 1) at_ s frames tokens = .ok out) :
    (skipSpace s.length s = [] ∧ Token.flatAll out = before frames tokens) ∨
    ∃ at' fs rest frames' tokens', readFrom n at' rest frames' tokens' = .ok out ∧
      before frames' tokens' = before frames tokens ++ fs ∧
      ∀ gs, Reads rest gs → Reads s (fs ++ gs) := by
  -- One case for each branch of the reader: a comment of the documentation, the end, an opening
  -- bracket, a closing one, and a leaf.
  unfold readFrom at h
  cases comment : docComment? (skipSpace s.length s) with
  | some found =>
    obtain ⟨text, inner, rest⟩ := found
    simp only [comment] at h
    refine .inr ⟨_, docFlat text inner, rest, _, _, h, ?_, fun gs => .doc comment⟩
    rw [before_append, flatAll_docTokens]
  | none =>
    cases front : skipSpace s.length s with
    | nil =>
      rw [front] at comment
      simp only [front, comment] at h
      cases frames with
      | nil =>
        obtain rfl := Except.ok.inj h
        exact .inl ⟨rfl, rfl⟩
      | cons f outer => cases h
    | cons c r =>
      have lead : ∀ {f rest}, lead? (c :: r) = some (f, rest) → ∀ gs, Reads rest gs →
          Reads s ([f] ++ gs) := fun found gs => .lead comment (front ▸ found)
      rw [front] at comment
      simp only [front, comment] at h
      cases opening : Delimiter.ofOpening? c with
      | some d =>
        simp only [opening] at h
        exact .inr ⟨_, _, r, _, _, h, before_open .., lead (by simp [lead?, opening])⟩
      | none =>
        cases closing : Delimiter.ofClosing? c with
        | some d =>
          simp only [opening, closing] at h
          cases frames with
          | nil => cases h
          | cons f outer =>
            simp only at h
            split at h
            next kind =>
              subst kind
              exact .inr ⟨_, _, r, _, _, h, before_close ..,
                lead (by simp [lead?, opening, closing])⟩
            · cases h
        | none =>
          simp only [opening, closing] at h
          split at h
          next t rest leaf =>
            obtain ⟨f, flat, found⟩ := lead?_of_leaf? opening closing leaf
            exact .inr ⟨_, _, rest, _, _, h, by rw [before_cons, flat], lead found⟩
          · cases h

theorem readFrom_sound {n at_ : Nat} {s : List Char} {frames : List Frame} {tokens out : List Token}
    (h : readFrom n at_ s frames tokens = .ok out) :
    ∃ fs, Reads s fs ∧ Token.flatAll out = before frames tokens ++ fs := by
  -- The frames are general, since brackets change them.
  induction n generalizing at_ s frames tokens with
  | zero => cases h
  | succ n ih =>
    obtain ⟨ended, same⟩ | ⟨_, fs, rest, _, _, hrest, step, reads⟩ := readFrom_turn h
    · exact ⟨[], .done ended, by rw [same, List.append_nil]⟩
    · obtain ⟨gs, hgs, same⟩ := ih hrest
      exact ⟨fs ++ gs, reads gs hgs, by rw [same, step, List.append_assoc]⟩

theorem exists_turn {s rest : List Char} {f : Flat} {fs : List Flat} {frames : List Frame}
    (plain : docComment? (skipSpace s.length s) = none)
    (front : lead? (skipSpace s.length s) = some (f, rest))
    (closed : Flat.closed (frames.map Frame.delimiter) (f :: fs) = true) (n at_ : Nat)
    (tokens : List Token) :
    ∃ at' frames' tokens',
      readFrom (n + 1) at_ s frames tokens = readFrom n at' rest frames' tokens' ∧
      before frames' tokens' = before frames tokens ++ [f] ∧
      Flat.closed (frames'.map Frame.delimiter) fs = true := by
  -- The token is an opening bracket, a closing one, or a leaf, as its first character says.
  simp only [readFrom]
  cases next_ : skipSpace s.length s with
  | nil =>
    rw [next_] at front
    cases front
  | cons c r =>
    rw [next_] at plain front
    simp only [plain]
    cases opening : Delimiter.ofOpening? c with
    | some d =>
      simp only [lead?, opening, Option.some.injEq, Prod.mk.injEq] at front ⊢
      obtain ⟨rfl, rfl⟩ := front
      rw [Flat.closed.eq_def] at closed
      exact ⟨_, _, _, rfl, before_open .., by simpa using closed⟩
    | none =>
      cases closing : Delimiter.ofClosing? c with
      | some d =>
        simp only [lead?, opening, closing, Option.some.injEq, Prod.mk.injEq] at front ⊢
        obtain ⟨rfl, rfl⟩ := front
        cases frames with
        | nil => cases closed
        | cons g outer =>
          simp only [List.map_cons, Flat.closed, Bool.and_eq_true, beq_iff_eq] at closed
          obtain ⟨rfl, closed⟩ := closed
          simp only [if_true]
          exact ⟨_, _, _, rfl, before_close .., closed⟩
      | none =>
        obtain ⟨t, flat, leaf⟩ := leaf?_of_lead? (fun length =>
          ⟨at_ + (s.length - (c :: r).length), at_ + (s.length - (c :: r).length) + length⟩)
          opening closing front
        simp only [leaf]
        rw [← List.singleton_append, ← flat, Token.closed_flat] at closed
        exact ⟨_, _, _, rfl, by rw [before_cons, flat], closed⟩

theorem readFrom_complete {s : List Char} {fs : List Flat} (h : Reads s fs) {n at_ : Nat}
    {frames : List Frame} {tokens : List Token} (fuel : s.length < n)
    (closed : Flat.closed (frames.map Frame.delimiter) fs = true) :
    ∃ out, readFrom n at_ s frames tokens = .ok out ∧
      Token.flatAll out = before frames tokens ++ fs := by
  induction h generalizing n at_ frames tokens with
  | @done s ended =>
    obtain ⟨n, rfl⟩ := Nat.exists_eq_succ_of_ne_zero (Nat.ne_of_gt (Nat.zero_lt_of_lt fuel))
    unfold readFrom
    cases frames with
    | nil => exact ⟨tokens.reverse, by simp [ended, docComment?, commentKind?], by simp [before]⟩
    | cons f outer => cases closed
  | @doc s text inner rest fs comment reads ih =>
    obtain ⟨n, rfl⟩ := Nat.exists_eq_succ_of_ne_zero (Nat.ne_of_gt (Nat.zero_lt_of_lt fuel))
    have skip := (skipSpace_suffix s.length s).length_le
    have less := (docComment?_spec comment).2
    rw [closed_docFlat] at closed
    unfold readFrom
    simp only [comment]
    rw [← List.append_assoc, ← flatAll_docTokens text inner, ← before_append]
    exact ih (by omega) closed
  | @lead s f rest fs plain front reads ih =>
    obtain ⟨n, rfl⟩ := Nat.exists_eq_succ_of_ne_zero (Nat.ne_of_gt (Nat.zero_lt_of_lt fuel))
    have skip := (skipSpace_suffix s.length s).length_le
    have less := length_of_lead? front
    obtain ⟨_, _, _, turn, step, hclosed⟩ := exists_turn plain front closed n at_ tokens
    rw [turn, List.append_cons, ← step]
    exact ih (by omega) hclosed

theorem plain_of_tokens {s : List Char} {out : List Token} (h : tokens s = .ok out)
    (keep : weight (Flat.textAll (Token.flatAll out)) = weight s) :
    ReadsPlain s (Token.flatAll out) := by
  cases s with
  | nil =>
    obtain rfl := Except.ok.inj h
    exact .done rfl
  | cons c r =>
    rw [tokens] at h
    split at h
    next mark =>
      exfalso
      obtain ⟨fs, reads, same⟩ := readFrom_sound h
      have less := reads.weight_le
      have heavy : weight [byteOrderMark] = 1 := rfl
      rw [mark, weight_cons] at keep
      rw [same, before, List.reverse_nil, Token.flatAll_nil, List.nil_append] at keep
      omega
    · obtain ⟨fs, reads, same⟩ := readFrom_sound h
      rw [before, List.reverse_nil, Token.flatAll_nil, List.nil_append] at same
      rw [same] at keep ⊢
      exact reads.plain keep

theorem tokens_of_reads {c : Char} {r : List Char} {fs : List Flat} (h : Reads (c :: r) fs)
    (hmark : c ≠ byteOrderMark) (closed : Flat.closed [] fs = true) :
    ∃ out, tokens (c :: r) = .ok out ∧ Token.flatAll out = fs := by
  rw [tokens, if_neg hmark]
  have hfuel : (c :: r).length < r.length + 2 := by simp
  have hread := @readFrom_complete (c :: r) fs h (r.length + 2) 0 [] [] hfuel closed
  simpa only [before, List.reverse_nil, Token.flatAll_nil, List.nil_append] using hread

theorem tokens_of_plain {s : List Char} {fs : List Flat} (h : ReadsPlain s fs)
    (closed : Flat.closed [] fs = true) : ∃ out, tokens s = .ok out ∧ Token.flatAll out = fs := by
  cases s with
  | nil =>
    cases h with
    | done ended => exact ⟨[], rfl, rfl⟩
    | lead front reads => cases front
  | cons c r =>
    refine tokens_of_reads h.reads (fun mark => ?_) closed
    have space : isSpace c = false := by rw [mark]; decide
    cases h with
    | done ended =>
      rw [List.dropWhile_cons_of_neg (by simp [space])] at ended
      cases ended
    | lead front reads =>
      rw [List.dropWhile_cons_of_neg (by simp [space])] at front
      have start := leads_of_lead? front
      rw [mark] at start
      exact absurd start (by decide +kernel)

end Lexer

end AccessorGen.Source
