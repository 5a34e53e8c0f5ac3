import AccessorGen.Proofs.Grammar.Bare
import AccessorGen.Source.Grammar.Basic

/-! What a reader takes. A reader that begins with tokens in front of it goes through, gives a
result with some property, and leaves tokens behind it; their places do not matter. There is one
rule for each way in which readers are put together. -/

namespace AccessorGen.Source

open Token (bareAll nowhere)

class Blind (test : List Token → Bool) : Prop where
  same : ∀ ts, test (bareAll ts) = test ts

theorem look_bareAll (test : List Token → Bool) [Blind test] (ts : List Token) :
    test (bareAll ts) = test ts := Blind.same ts

theorem look_eq (test : List Token → Bool) [Blind test] {ts us : List Token}
    (h : bareAll ts = us) : test ts = test us := by rw [← h, look_bareAll test]

namespace Look

@[simp] theorem mark_word (op : String) (w : Word) (s : Span) (ts : List Token) :
    mark op (.word w s :: ts) = false := by
  rw [mark]
  match op.toList with
  | [] => rfl
  | [_] => rfl
  | _ :: _ :: _ => rfl

@[simp] theorem marks_word (ops : List String) (w : Word) (s : Span) (ts : List Token) :
    marks ops (.word w s :: ts) = false := by simp [marks]

theorem skip_bareAll (ts : List Token) : skip (bareAll ts) = bareAll (skip ts) := by
  match ts with
  | [] => rfl
  | [t] => cases t <;> simp [skip]
  | t :: u :: ts =>
    cases t with
    | mark c joint s =>
      by_cases hc : c = '\''
      · subst hc
        cases u <;> simp [skip]
      · simp [skip, hc]
    | _ => simp [skip]

theorem operatorChars_bareAll (cs : List Char) (ts : List Token) :
    operatorChars cs (bareAll ts) = operatorChars cs ts := by
  induction cs generalizing ts with
  | nil => cases ts <;> rfl
  | cons c cs ih =>
    cases ts with
    | nil => cases cs <;> rfl
    | cons t ts =>
      cases t with
      | mark d joint s =>
        cases cs with
        | nil => simp [operatorChars]
        | cons c' cs => simp [operatorChars, ih]
      | _ => cases cs <;> simp [operatorChars]

instance : Blind name := ⟨fun ts => by
  match ts with
  | [] => rfl
  | t :: ts => cases t <;> simp [name]⟩

instance : Blind anyWord := ⟨fun ts => by
  match ts with
  | [] => rfl
  | t :: ts => cases t <;> simp [anyWord]⟩

instance (w : String) : Blind (word w) := ⟨fun ts => by
  match ts with
  | [] => rfl
  | t :: ts => cases t <;> simp [word]⟩

instance (ws : List String) : Blind (words ws) := ⟨fun ts => by
  match ts with
  | [] => rfl
  | t :: ts => cases t <;> simp [words]⟩

instance (op : String) : Blind (mark op) := ⟨operatorChars_bareAll op.toList⟩

instance (ops : List String) : Blind (marks ops) :=
  ⟨fun ts => congrArg (List.any ops) (funext fun op => look_bareAll (mark op) ts)⟩

instance : Blind lifetime := ⟨fun ts => by
  match ts with
  | [] => rfl
  | [t] => cases t <;> simp [lifetime]
  | t :: u :: ts =>
    cases t with
    | mark c joint s =>
      by_cases hc : c = '\'' ∧ joint = true
      · obtain ⟨rfl, rfl⟩ := hc
        cases u <;> simp [lifetime]
      · cases u <;> simp_all [lifetime]
    | _ => simp [lifetime]⟩

instance (d : Delimiter) : Blind (group d) := ⟨fun ts => by
  match ts with
  | [] => rfl
  | t :: ts => cases t <;> simp [group]⟩

instance : Blind paren := inferInstanceAs (Blind (group .paren))

instance : Blind bracket := inferInstanceAs (Blind (group .bracket))

instance : Blind brace := inferInstanceAs (Blind (group .brace))

instance : Blind textLiteral := ⟨fun ts => by
  match ts with
  | [] => rfl
  | t :: ts => cases t <;> simp [textLiteral]⟩

instance : Blind constant := ⟨fun ts => by
  match ts with
  | [] => rfl
  | [t] => cases t <;> simp [constant]
  | t :: u :: ts =>
    cases t with
    | mark c joint s =>
      by_cases hc : c = '-'
      · subst hc
        cases u <;> simp [constant]
      · cases u <;> simp [constant, hc]
    | _ => simp [constant]⟩

end Look

instance : Blind List.isEmpty := ⟨fun ts => by cases ts <;> simp⟩

section Tests

variable {p q : List Token → Bool}

instance [Blind p] [Blind q] : Blind fun ts => p ts && q ts :=
  ⟨fun ts => by rw [look_bareAll p, look_bareAll q]⟩

instance [Blind p] [Blind q] : Blind fun ts => p ts || q ts :=
  ⟨fun ts => by rw [look_bareAll p, look_bareAll q]⟩

instance [Blind p] : Blind fun ts => !p ts := ⟨fun ts => by rw [look_bareAll p]⟩

instance (b : Bool) : Blind fun _ => b := ⟨fun _ => rfl⟩

instance [Blind p] : Blind (Look.second p) :=
  ⟨fun ts => by rw [Look.second, Look.second, Look.skip_bareAll, look_bareAll p]⟩

instance [Blind p] : Blind (Look.third p) :=
  ⟨fun ts => by
    rw [Look.third, Look.third, Look.skip_bareAll, Look.skip_bareAll, look_bareAll p]⟩

instance : Blind Look.oneColon :=
  inferInstanceAs (Blind fun ts => Look.mark ":" ts && !Look.mark "::" ts)

instance : Blind Look.onePoint :=
  inferInstanceAs (Blind fun ts => Look.mark "." ts && !Look.mark ".." ts)

instance : Blind Look.assigns :=
  inferInstanceAs (Blind fun ts => Look.mark "=" ts && !Look.mark "=>" ts)

instance : Blind Look.bang :=
  inferInstanceAs (Blind fun ts => Look.mark "!" ts && !Look.mark "!=" ts)

instance : Blind Look.pathWord := inferInstanceAs (Blind (Look.words _))

instance : Blind Look.underscore := inferInstanceAs (Blind (Look.word "_"))

end Tests

section Front

variable {ts us S : List Token} {s : Span}

theorem eq_cons_of_bareAll {t : Token} (h : bareAll ts = t :: us) :
    ∃ t' ts', ts = t' :: ts' ∧ t'.bare = t ∧ bareAll ts' = us := by
  cases ts with
  | nil => simp at h
  | cons t' ts' => exact ⟨t', ts', rfl, by simpa using h⟩

theorem eq_word_cons {w : Word} (h : bareAll ts = .word w s :: us) :
    ∃ s' ts', ts = .word w s' :: ts' ∧ bareAll ts' = us := by
  obtain ⟨t, ts', rfl, ht, hts⟩ := eq_cons_of_bareAll h
  cases t with
  | word v s' =>
    simp only [Token.bare_word, Token.word.injEq] at ht
    exact ⟨s', ts', by rw [ht.1], hts⟩
  | _ => simp at ht

theorem eq_group_cons {d : Delimiter} (h : bareAll ts = .group d S s :: us) :
    ∃ content s' ts', ts = .group d content s' :: ts' ∧ bareAll content = S ∧
      bareAll ts' = us := by
  obtain ⟨t, ts', rfl, ht, hts⟩ := eq_cons_of_bareAll h
  cases t with
  | group e content s' =>
    simp only [Token.bare_group, Token.group.injEq] at ht
    exact ⟨content, s', ts', by rw [ht.1], ht.2.1, hts⟩
  | _ => simp at ht

end Front

/-- Beginning with the tokens `ts`, the reader gives a result with the property and leaves `us`, and
nothing more is left over in a group. -/
def Takes {α : Type} (p : Reader α) (ts : List Token) (Q : α → Prop) (us : List Token) : Prop :=
  ∀ c : Cursor, bareAll c.rest = ts →
    ∃ a c', p c = .ok (a, c') ∧ Q a ∧ bareAll c'.rest = us ∧ c'.stray = c.stray

def Refuses {α : Type} (p : Reader α) (ts : List Token) : Prop :=
  ∀ c : Cursor, bareAll c.rest = ts → ∃ e, p c = .error e

section Rules

variable {α β : Type} {p : Reader α} {f : α → Reader β} {q : Reader β} {a : α}
  {ts us vs : List Token} {P : α → Prop} {Q : β → Prop}

theorem Reader.bind_ok {c c' : Cursor} (h : p c = .ok (a, c')) : (p >>= f) c = f a c' := by
  simp only [bind, StateT.bind, h, Except.bind]

theorem Reader.bind_error {c : Cursor} {e : SyntaxError} (h : p c = .error e) :
    (p >>= f) c = .error e := by
  simp only [bind, StateT.bind, h, Except.bind]

namespace Takes

theorem pure (h : P a) : Takes (pure a) ts P ts := fun c hc => ⟨a, c, rfl, h, hc, rfl⟩

theorem bind (hp : Takes p ts P us) (hf : ∀ a, P a → Takes (f a) us Q vs) :
    Takes (p >>= f) ts Q vs := by
  intro c hc
  obtain ⟨a, c', hrun, ha, hus, hstray⟩ := hp c hc
  obtain ⟨b, c'', hrun', hb, hvs, hstray'⟩ := hf a ha c' hus
  exact ⟨b, c'', (Reader.bind_ok hrun).trans hrun', hb, hvs, hstray'.trans hstray⟩

theorem seq (hp : Takes p ts (· = a) us) (hf : Takes (f a) us Q vs) : Takes (p >>= f) ts Q vs :=
  hp.bind fun _ h => h ▸ hf

theorem skip (hp : Takes p ts P us) (hq : Takes q us Q vs) : Takes (p >>= fun _ => q) ts Q vs :=
  hp.bind fun _ _ => hq

theorem mono {R : α → Prop} (hp : Takes p ts P us) (h : ∀ a, P a → R a) : Takes p ts R us := by
  intro c hc
  obtain ⟨a, c', hrun, ha, hrest⟩ := hp c hc
  exact ⟨a, c', hrun, h a ha, hrest⟩

theorem any (hp : Takes p ts P us) : Takes p ts (fun _ => True) us := hp.mono fun _ _ => trivial

theorem map {g : α → β} (hp : Takes p ts P us) (h : ∀ a, P a → Q (g a)) :
    Takes (g <$> p) ts Q us := by
  intro c hc
  obtain ⟨a, c', hrun, ha, hrest⟩ := hp c hc
  exact ⟨g a, c', by rw [← bind_pure_comp]; exact Reader.bind_ok hrun, h a ha, hrest⟩

theorem discard (hp : Takes p ts P us) : Takes (Functor.discard p) ts (fun _ => True) us :=
  hp.map fun _ _ => trivial

section Choice

variable {p : Reader Bool} {A B : Reader β}

theorem ifTrue (hp : Takes p ts (· = true) us) (hA : Takes A us Q vs) :
    Takes (p >>= fun b => if b = true then A else B) ts Q vs := hp.seq hA

theorem ifFalse (hp : Takes p ts (· = false) us) (hB : Takes B us Q vs) :
    Takes (p >>= fun b => if b = true then A else B) ts Q vs := hp.seq hB

theorem unlessTrue (hp : Takes p ts (· = true) us) (hB : Takes B us Q vs) :
    Takes (p >>= fun b => if (!b) = true then A else B) ts Q vs := hp.seq hB

theorem unlessFalse (hp : Takes p ts (· = false) us) (hA : Takes A us Q vs) :
    Takes (p >>= fun b => if (!b) = true then A else B) ts Q vs := hp.seq hA

end Choice

theorem sees {test : List Token → Bool} [Blind test] {b : Bool} (h : test ts = b) :
    Takes (Reader.sees test) ts (· = b) ts := by
  intro c hc
  refine ⟨test c.rest, c, rfl, ?_, hc, rfl⟩
  rw [← h, ← hc, look_bareAll test]

theorem atEnd {b : Bool} (h : ts.isEmpty = b) : Takes Reader.atEnd ts (· = b) ts := by
  intro c hc
  refine ⟨c.rest.isEmpty, c, rfl, ?_, hc, rfl⟩
  rw [← h, ← hc, look_bareAll List.isEmpty]

theorem tokens : Takes Reader.tokens ts (fun a => bareAll a = ts) ts :=
  fun c hc => ⟨c.rest, c, rfl, hc, hc, rfl⟩

theorem get : Takes MonadState.get ts (fun c => bareAll c.rest = ts) ts :=
  fun c hc => ⟨c, c, rfl, hc, hc, rfl⟩

theorem here : Takes Reader.here ts (fun _ => True) ts := get.bind fun _ _ => .pure trivial

theorem emit (us : List Token) : Takes (Reader.emit us) ts (fun _ => True) ts :=
  fun _ hc => ⟨(), _, rfl, trivial, hc, rfl⟩

theorem advance {us rest : List Token} (h : bareAll rest = us) :
    Takes (Reader.advance rest) ts (fun _ => True) us :=
  fun _ _ => ⟨(), _, rfl, trivial, h, rfl⟩

theorem anyWord {w : Word} {s : Span} : Takes Reader.anyWord (.word w s :: ts) (· = w) ts := by
  refine tokens.bind fun a ha => ?_
  obtain ⟨s', ts', rfl, hts⟩ := eq_word_cons ha
  exact (advance hts).skip ((emit _).skip (.pure rfl))

theorem name {w : Word} {s : Span} (h : Look.keywords.contains w.text = false) :
    Takes Reader.name (.word w s :: ts) (· = w) ts := by
  refine tokens.bind fun a ha => ?_
  obtain ⟨s', ts', rfl, hts⟩ := eq_word_cons ha
  dsimp only
  rw [if_neg (by rw [h]; decide)]
  exact (advance hts).skip ((emit _).skip (.pure rfl))

theorem word {w : String} {v : Word} {s : Span} (h : v.text = w) :
    Takes (Reader.word w) (.word v s :: ts) (fun _ => True) ts :=
  .ifTrue (.sees (by simp [Look.word, h])) anyWord.discard

theorem wordYes {w : String} {v : Word} {s : Span} (h : v.text = w) :
    Takes (Reader.word? w) (.word v s :: ts) (· = true) ts :=
  .ifTrue (.sees (by simp [Look.word, h])) (.skip anyWord.discard (.pure rfl))

theorem wordNo {w : String} (h : Look.word w ts = false) :
    Takes (Reader.word? w) ts (· = false) ts := .ifFalse (.sees h) (.pure rfl)

theorem mark {op : String} (h : Look.mark op ts = true) :
    Takes (Reader.mark op) ts (fun _ => True) (ts.drop op.length) := by
  refine tokens.bind fun a ha => ?_
  have hmark : Look.mark op a = true := by rw [← look_bareAll (Look.mark op), ha, h]
  rw [if_pos hmark]
  refine here.bind fun _ _ => (emit _).skip (.advance ?_)
  rw [← ha, Token.bareAll_eq_map, Token.bareAll_eq_map, List.map_drop]

theorem markYes {op : String} (h : Look.mark op ts = true) :
    Takes (Reader.mark? op) ts (· = true) (ts.drop op.length) :=
  .ifTrue (.sees h) (.skip (.mark h) (.pure rfl))

theorem markNo {op : String} (h : Look.mark op ts = false) :
    Takes (Reader.mark? op) ts (· = false) ts := .ifFalse (.sees h) (.pure rfl)

theorem inside {d : Delimiter} {s : Span} {us : List Token} (h : Takes p ts P []) :
    Takes (Reader.inside d p) (.group d ts s :: us) P us := by
  intro c hc
  obtain ⟨content, s', us', hrest, hcontent, hus⟩ := eq_group_cons hc
  obtain ⟨a, c', hrun, ha, hend, hstray⟩ :=
    h { rest := content, close := s'.last, stray := c.stray } hcontent
  have hnil : c'.rest = [] := by
    cases hc' : c'.rest with
    | nil => rfl
    | cons t us => simp [hc'] at hend
  refine ⟨a, { c with
    rest := us'
    stray := c'.stray <|> Reader.leftOver d c'.rest
    printed := .group d c'.printed.reverse s' :: c.printed }, ?_, ha, hus, ?_⟩
  · rw [Reader.inside, Reader.bind_ok (rfl : (MonadState.get : Reader Cursor) c = .ok (c, c))]
    simp only [hrest, if_true]
    have hlift : (liftM (p { rest := content, close := s'.last, stray := c.stray }) :
        Reader (α × Cursor)) c = .ok ((a, c'), c) := by
      rw [hrun]
      rfl
    exact Reader.bind_ok hlift
  · simp [hnil, Reader.leftOver, hstray]

theorem anyGroup {d : Delimiter} {S : List Token} {s : Span} :
    Takes Reader.anyGroup (.group d S s :: ts) (· = d) ts := by
  refine tokens.bind fun a ha => ?_
  obtain ⟨content, s', ts', rfl, -, hts⟩ := eq_group_cons ha
  exact (advance hts).skip ((emit _).skip (.pure rfl))

theorem apart (h : Takes p ts P us) : Takes (Reader.apart p) ts (fun x => P x.1) us := by
  intro c hc
  obtain ⟨a, c', hrun, ha, hus, hstray⟩ := h { c with printed := [] } hc
  refine ⟨(a, c'.printed.reverse), { c' with printed := c.printed }, ?_, ha, hus, hstray⟩
  rw [Reader.apart, hrun]

theorem printing (h : Takes p ts P us) : Takes (Reader.printing p) ts (fun x => P x.1) us :=
  h.apart.bind fun _ ha => (emit _).skip (.pure ha)

theorem behind (h : Takes p ts P us) : Takes (Reader.behind p) ts (fun a => bareAll a = us) ts := by
  intro c hc
  obtain ⟨a, c', hrun, -, hus, -⟩ := h c hc
  refine ⟨c'.rest, c, ?_, hus, hc, rfl⟩
  rw [Reader.behind, hrun]

theorem peek (h : Takes p ts P us) :
    Takes (Reader.peek p) ts (fun x => ∃ a, x = some a ∧ P a) ts := by
  intro c hc
  obtain ⟨a, c', hrun, ha, -, -⟩ := h c hc
  refine ⟨some a, c, ?_, ⟨a, rfl, ha⟩, hc, rfl⟩
  rw [Reader.peek, hrun]

theorem attemptYes (h : Takes p ts P us) :
    Takes (Reader.attempt p) ts (fun x => ∃ a, x = some a ∧ P a) us := by
  intro c hc
  obtain ⟨a, c', hrun, ha, hrest⟩ := h c hc
  refine ⟨some a, c', ?_, ⟨a, rfl, ha⟩, hrest⟩
  rw [Reader.attempt, hrun]

theorem attemptNo (h : Refuses p ts) : Takes (Reader.attempt p) ts (· = none) ts := by
  intro c hc
  obtain ⟨e, hrun⟩ := h c hc
  refine ⟨none, c, ?_, rfl, hc, rfl⟩
  rw [Reader.attempt, hrun]

section Repetition

variable {ι : Type} {tok : ι → List Token} {n : Nat}

theorem lengthTokens {f : Nat → Reader β} (h : ∀ n, ts.length < n → Takes (f n) ts Q us) :
    Takes (do f ((← Reader.tokens).length + 1)) ts Q us := by
  refine tokens.bind fun a ha => h _ ?_
  rw [← ha, Token.length_bareAll]
  exact Nat.lt_succ_self _

theorem repeatNone {step : Reader (Option α)} (h : Takes step ts (· = none) us) :
    Takes (Reader.repeating step) ts (· = []) us := by
  refine lengthTokens fun n hn => ?_
  obtain ⟨n, rfl⟩ := Nat.exists_eq_succ_of_ne_zero (Nat.ne_of_gt (Nat.zero_lt_of_lt hn))
  exact .seq h (.pure rfl)

theorem repeatOnce {step : Reader (Option α)} (h : Takes step ts (· = some a) us)
    (hend : Takes step us (· = none) vs) (hne : ts ≠ []) :
    Takes (Reader.repeating step) ts (· = [a]) vs := by
  refine lengthTokens fun n hn => ?_
  have hpos := List.length_pos_iff.2 hne
  obtain ⟨n, rfl⟩ : ∃ m, n = m + 2 := ⟨n - 2, by omega⟩
  exact .seq h (.seq (.seq hend (.pure rfl)) (.pure rfl))

theorem manyWhileNone {test : List Token → Bool} [Blind test] (h : test ts = false) :
    Takes (Reader.manyWhile test p) ts (· = []) ts := .repeatNone (.ifFalse (.sees h) (.pure rfl))

theorem manyWhileOne {test : List Token → Bool} [Blind test] (hts : test ts = true)
    (hus : test us = false) (hne : ts ≠ []) (hp : Takes p ts (· = a) us) :
    Takes (Reader.manyWhile test p) ts (· = [a]) us :=
  .repeatOnce (.ifTrue (.sees hts) (hp.seq (.pure rfl))) (.ifFalse (.sees hus) (.pure rfl)) hne

theorem chainLast {more : Reader Bool} (hn : 0 < n) (hp : Takes p ts P us)
    (hmore : Takes more us (· = false) vs) :
    Takes (Reader.chainFrom p more n) ts (fun as => ∃ a, as = [a] ∧ P a) vs := by
  obtain ⟨n, rfl⟩ := Nat.exists_eq_succ_of_ne_zero (Nat.ne_of_gt hn)
  exact hp.bind fun a ha => .ifFalse hmore (.pure ⟨a, rfl, ha⟩)

theorem chainMore {more : Reader Bool} {ws : List Token} {R : List α → Prop} (hp : Takes p ts P us)
    (hmore : Takes more us (· = true) vs) (hrest : Takes (Reader.chainFrom p more n) vs R ws) :
    Takes (Reader.chainFrom p more (n + 1)) ts (fun as => ∃ a as', as = a :: as' ∧ P a ∧ R as')
      ws :=
  hp.bind fun a ha => .ifTrue hmore (hrest.bind fun as has => .pure ⟨a, as, rfl, ha, has⟩)

theorem many (xs : List ι) (hne : ∀ x ∈ xs, tok x ≠ [])
    (hp : ∀ x ∈ xs, ∀ us, Takes p (tok x ++ us) P us) :
    Takes (Reader.many p) (xs.flatMap tok) (fun as => ∀ a ∈ as, P a) [] := by
  refine lengthTokens fun n hn => ?_
  induction xs generalizing n with
  | nil =>
    obtain ⟨n, rfl⟩ := Nat.exists_eq_succ_of_ne_zero (Nat.ne_of_gt hn)
    exact .seq (.ifTrue (.atEnd rfl) (.pure rfl)) (.pure (by simp))
  | cons x xs ih =>
    obtain ⟨hx, hxs⟩ := List.forall_mem_cons.1 hp
    obtain ⟨hxne, hxsne⟩ := List.forall_mem_cons.1 hne
    rw [List.flatMap_cons] at hn ⊢
    have hpos := List.length_pos_iff.2 hxne
    rw [List.length_append] at hn
    obtain ⟨n, rfl⟩ := Nat.exists_eq_succ_of_ne_zero (Nat.ne_of_gt (Nat.zero_lt_of_lt hn))
    refine .bind (P := fun o => ∃ a, o = some a ∧ P a) (.ifFalse (.atEnd ?_)
      ((hx _).bind fun a ha => .pure ⟨a, rfl, ha⟩)) ?_
    · simp [hxne]
    · rintro _ ⟨a, rfl, ha⟩
      exact (ih hxsne hxs n (by omega)).bind fun as has => .pure (List.forall_mem_cons.2 ⟨ha, has⟩)

theorem commas {joint : Bool} {s : Span} (xs : List ι)
    (hp : ∀ x ∈ xs, ∀ us, Takes p (tok x ++ .mark ',' joint s :: us) P (.mark ',' joint s :: us)) :
    Takes (Reader.commas p) (xs.flatMap fun x => tok x ++ [.mark ',' joint s])
      (fun as => ∀ a ∈ as, P a) [] := by
  match xs with
  | [] => exact .ifTrue (.sees rfl) (.pure (by simp))
  | x :: xs =>
    refine .ifFalse (.sees (by simp)) (lengthTokens fun n hn => ?_)
    induction xs generalizing x n with
    | nil =>
      simp only [List.flatMap_cons, List.flatMap_nil, List.append_nil] at hn ⊢
      refine (chainLast (Nat.zero_lt_of_lt hn) (hp x (by simp) []) ?_).mono ?_
      · exact .ifFalse (.sees rfl) (.skip (.mark rfl) (.seq (.sees rfl) (.pure rfl)))
      · rintro _ ⟨a, rfl, ha⟩
        simpa using ha
    | cons y ys ih =>
      rw [List.flatMap_cons, List.append_assoc, List.singleton_append, List.length_append,
        List.length_cons] at hn
      rw [List.flatMap_cons, List.append_assoc, List.singleton_append]
      obtain ⟨n, rfl⟩ := Nat.exists_eq_succ_of_ne_zero (Nat.ne_of_gt (Nat.zero_lt_of_lt hn))
      refine (chainMore (hp x (by simp) _) ?_
        (ih y (fun z hz => hp z (List.mem_cons_of_mem x hz)) n (by omega))).mono ?_
      · refine .ifFalse (.sees rfl) (.skip (.mark rfl) (.seq (.sees (b := false) ?_) (.pure rfl)))
        simp [show ",".length = 1 from rfl]
      · rintro _ ⟨a, as, rfl, ha, has⟩
        exact List.forall_mem_cons.2 ⟨ha, has⟩

end Repetition

end Takes

namespace Refuses

theorem bindLeft (h : Refuses p ts) : Refuses (p >>= f) ts := by
  intro c hc
  obtain ⟨e, hrun⟩ := h c hc
  exact ⟨e, Reader.bind_error hrun⟩

theorem bind (hp : Takes p ts P us) (hf : ∀ a, P a → Refuses (f a) us) : Refuses (p >>= f) ts := by
  intro c hc
  obtain ⟨a, c', hrun, ha, hus, -⟩ := hp c hc
  obtain ⟨e, hrun'⟩ := hf a ha c' hus
  exact ⟨e, (Reader.bind_ok hrun).trans hrun'⟩

theorem fail (message : String) : Refuses (Reader.fail message : Reader α) ts := by
  rintro ⟨rest, close, stray, printed⟩ -
  cases rest <;> exact ⟨_, rfl⟩

theorem word {w : String} (h : Look.word w ts = false) : Refuses (Reader.word w) ts :=
  bind (.sees h) fun b hb => by
    subst hb
    exact fail _

end Refuses

end Rules

end AccessorGen.Source
