import AccessorGen.Toml.Document

/-! The readers of a TOML document go forward only: what a reader leaves is the end of what it
found. Quoted text and things in brackets end with their quote or bracket. -/

namespace AccessorGen.Toml

namespace Quoted

variable {st : Style} {state : State} {c : Char} {s r out : List Char}

theorem step_go_quotes {n : Nat} (h : step st state c = .go (.quotes n) out) : c = st.quote := by
  cases state <;> simp only [step] at h <;>
    grind [plainStep, quotesStep, Verdict.after, escapeStep, foldStep, codeStep, foldingStep]

theorem step_done (h : step st state c = .done out) : c = st.quote := by
  cases state <;> simp only [step] at h <;>
    grind [plainStep, quotesStep, Verdict.after, escapeStep, foldStep, codeStep, foldingStep]

theorem step_doneBefore (h : step st state c = .doneBefore out) : ∃ n, state = .quotes n := by
  cases state <;> simp only [step] at h <;>
    grind [plainStep, quotesStep, Verdict.after, escapeStep, foldStep, codeStep, foldingStep]

theorem run_eq_some (h : run st state s = some (out, r)) :
    (∃ t, s = t ++ st.quote :: r) ∨ ∃ n, state = .quotes n ∧ r = s := by
  induction s generalizing state out with
  | nil =>
    unfold run at h
    split at h
    · split at h
      · cases h
        exact .inr ⟨_, rfl, rfl⟩
      · cases h
    · cases h
    next hcons => cases hcons
  | cons c s ih =>
    unfold run at h
    split at h
    next hnil => cases hnil
    next hnil => cases hnil
    next hcons =>
    cases hcons
    split at h
    next next more hstep =>
      split at h
      next hrun =>
        cases h
        obtain ⟨t, rfl⟩ | ⟨n, rfl, rfl⟩ := ih hrun
        · exact .inl ⟨c :: t, rfl⟩
        · exact .inl ⟨[], by rw [step_go_quotes hstep]; rfl⟩
      · cases h
    next hstep =>
      cases h
      exact .inl ⟨[], by rw [step_done hstep]; rfl⟩
    next hstep =>
      cases h
      obtain ⟨n, hstate⟩ := step_doneBefore hstep
      exact .inr ⟨n, hstate, rfl⟩
    · cases h

theorem run_plain_eq_some (h : run st .plain s = some (out, r)) : ∃ t, s = t ++ st.quote :: r := by
  obtain h | ⟨n, hn, -⟩ := run_eq_some h
  · exact h
  · cases hn

theorem dropLineEnd_suffix (s : List Char) : dropLineEnd s <:+ s := by
  unfold dropLineEnd
  split
  · exact List.suffix_cons _ _
  · exact ⟨['\r', '\n'], rfl⟩
  · exact List.suffix_rfl

theorem line?_eq_some (h : line? s = some (out, r)) :
    ∃ q t, s = q :: (t ++ q :: r) ∧ (q = '"' ∨ q = '\'') := by
  unfold line? at h
  split at h
  · obtain ⟨t, rfl⟩ := run_plain_eq_some h
    exact ⟨_, t, rfl, .inl rfl⟩
  · obtain ⟨t, rfl⟩ := run_plain_eq_some h
    exact ⟨_, t, rfl, .inr rfl⟩
  · cases h

theorem any?_eq_some (h : any? s = some (out, r)) :
    ∃ q t, s = q :: (t ++ q :: r) ∧ (q = '"' ∨ q = '\'') := by
  have hthree {q : Char} {s : List Char} {t : List Char}
      (ht : dropLineEnd s = t ++ q :: r) : ∃ u, q :: q :: q :: s = q :: (u ++ q :: r) := by
    obtain ⟨u, hu⟩ := dropLineEnd_suffix s
    exact ⟨q :: q :: u ++ t, by rw [← hu, ht]; simp⟩
  unfold any? at h
  split at h
  · obtain ⟨t, ht⟩ := run_plain_eq_some h
    obtain ⟨u, hu⟩ := hthree ht
    exact ⟨_, u, hu, .inl rfl⟩
  · obtain ⟨t, ht⟩ := run_plain_eq_some h
    obtain ⟨u, hu⟩ := hthree ht
    exact ⟨_, u, hu, .inr rfl⟩
  · exact line?_eq_some h

end Quoted

namespace Scan

def Forward {α : Type} (m : Scan α) : Prop :=
  ∀ p a q, m p = some (a, q) → q.rest <:+ p.rest

section

variable {α β : Type} {p q : Place} {a a' : α} {b : β} {m : Scan α} {f : α → Scan β}

theorem bind_eq_some (h : (m >>= f) p = some (b, q)) :
    ∃ a p', m p = some (a, p') ∧ f a p' = some (b, q) := by
  obtain ⟨⟨a, p'⟩, hm, hf⟩ := Option.bind_eq_some_iff.1 h
  exact ⟨a, p', hm, hf⟩

theorem pure_eq_some (h : (pure a : Scan α) p = some (a', q)) : a = a' ∧ p = q := by
  cases h
  exact ⟨rfl, rfl⟩

theorem look_eq_some {k : List Char → Scan α} (h : (rest >>= k) p = some (a, q)) :
    ∃ s, p.rest = s ∧ k s p = some (a, q) := ⟨_, rfl, h⟩

theorem Forward.pure (a : α) : Forward (Pure.pure a) := fun _ _ _ h => by
  obtain ⟨-, rfl⟩ := pure_eq_some h
  exact List.suffix_rfl

theorem Forward.failure : Forward (Alternative.failure : Scan α) := nofun

theorem Forward.bind (hm : Forward m) (hf : ∀ a, Forward (f a)) : Forward (m >>= f) := by
  intro p b q h
  obtain ⟨a, p', h₁, h₂⟩ := bind_eq_some h
  exact (hf a _ _ _ h₂).trans (hm _ _ _ h₁)

theorem Forward.ite {c : Prop} [Decidable c] {m' : Scan α} (hm : Forward m) (hm' : Forward m') :
    Forward (if c then m else m') := by
  split
  · exact hm
  · exact hm'

theorem Forward.look {k : List Char → Scan α}
    (h : ∀ s p a q, p.rest = s → k s p = some (a, q) → q.rest <:+ s) : Forward (rest >>= k) := by
  intro p a q hk
  obtain ⟨s, rfl, hk⟩ := look_eq_some hk
  exact h _ p a q rfl hk

end

theorem rest_moveTo {r : List Char} {p q : Place} {u : Unit} (h : moveTo r p = some (u, q)) :
    q.rest = r := by
  cases h
  rfl

theorem forward_offset : Forward offset := fun _ _ _ h => by
  cases h
  exact List.suffix_rfl

theorem forward_skipWhile (test : Char → Bool) : Forward (skipWhile test) :=
  .look fun s p a q _ h => by
    rw [rest_moveTo h]
    exact List.dropWhile_suffix _

theorem forward_space : Forward space := forward_skipWhile _

theorem char_eq_some {c : Char} {p q : Place} {u : Unit} (h : char c p = some (u, q)) :
    p.rest = c :: q.rest := by
  obtain ⟨s, hs, h⟩ := look_eq_some h
  split at h
  · split at h
    next hc => rw [hs, rest_moveTo h, hc]
    · cases h
  · cases h

theorem forward_char (c : Char) : Forward (char c) := fun p _ _ h => by
  rw [char_eq_some h]
  exact List.suffix_cons _ _

theorem char?_eq_some {c : Char} {p q : Place} {found : Bool} (h : char? c p = some (found, q)) :
    if found then p.rest = c :: q.rest else q = p := by
  obtain ⟨s, hs, h⟩ := look_eq_some h
  split at h
  · obtain ⟨u, p', hchar, h⟩ := bind_eq_some h
    obtain ⟨rfl, rfl⟩ := pure_eq_some h
    exact char_eq_some hchar
  · obtain ⟨rfl, rfl⟩ := pure_eq_some h
    rfl

theorem forward_char? (c : Char) : Forward (char? c) := fun p found q h => by
  have h := char?_eq_some h
  split at h
  · rw [h]
    exact List.suffix_cons _ _
  · exact h ▸ List.suffix_rfl

theorem forward_lineEnd? : Forward lineEnd? :=
  .look fun s p a q hs h => by
    have hmoved {r : List Char} (h : (do moveTo r; return true : Scan Bool) p = some (a, q)) :
        q.rest = r := by
      obtain ⟨u, p', hmove, h⟩ := bind_eq_some h
      obtain ⟨-, rfl⟩ := pure_eq_some h
      exact rest_moveTo hmove
    split at h
    · rw [hmoved h]
      exact List.suffix_cons _ _
    · rw [hmoved h]
      exact ⟨['\r', '\n'], rfl⟩
    · obtain ⟨-, rfl⟩ := pure_eq_some h
      exact hs ▸ List.suffix_rfl

theorem forward_comment : Forward comment :=
  (forward_char? _).bind fun _ => .ite (forward_skipWhile _) (.pure _)

theorem Forward.spanned {α : Type} {m : Scan α} (hm : Forward m) : Forward (spanned m) :=
  forward_offset.bind fun _ => hm.bind fun _ => forward_offset.bind fun _ => .pure _

theorem cutBy_eq_some {α : Type} {cut : List Char → Option (α × List Char)} {p q : Place} {a : α}
    (h : cutBy cut p = some (a, q)) : cut p.rest = some (a, q.rest) := by
  obtain ⟨s, rfl, h⟩ := look_eq_some h
  generalize hcut : cut p.rest = taken at h
  split at h
  · obtain ⟨u, p', hmove, h⟩ := bind_eq_some h
    obtain ⟨rfl, rfl⟩ := pure_eq_some h
    rw [rest_moveTo hmove]
  · cases h

end Scan

open Scan

theorem key_suffix {s name r : List Char}
    (h : (Quoted.line? s <|> bareKey s) = some (name, r)) : r <:+ s := by
  cases hline : Quoted.line? s with
  | some taken =>
    rw [hline] at h
    obtain rfl := Option.some.inj h
    obtain ⟨c, t, rfl, -⟩ := Quoted.line?_eq_some hline
    exact ⟨c :: t ++ [c], by simp⟩
  | none =>
    rw [hline] at h
    have h : bareKey s = some (name, r) := h
    unfold bareKey at h
    dsimp only at h
    split at h
    · cases h
    · rw [← (Prod.mk.inj (Option.some.inj h)).2]
      exact List.drop_suffix _ _

theorem forward_key : Forward key :=
  Forward.bind (Forward.spanned fun _ _ _ h => key_suffix (cutBy_eq_some h)) fun _ => .pure _

theorem forward_keysFrom (n : Nat) : Forward (keysFrom n) := by
  induction n with
  | zero => exact .failure
  | succ n ih =>
    exact forward_key.bind fun _ => forward_space.bind fun _ => (forward_char? _).bind fun _ =>
      .ite (forward_space.bind fun _ => ih.bind fun _ => .pure _) (.pure _)

theorem forward_keys : Forward keys :=
  .look fun _ p a q hs h => hs ▸ forward_keysFrom _ p a q h

theorem forward_gapFrom (n : Nat) : Forward (gapFrom n) := by
  induction n with
  | zero => exact .pure _
  | succ n ih =>
    exact forward_space.bind fun _ => forward_comment.bind fun _ => forward_lineEnd?.bind fun _ =>
      .ite ih (.pure _)

theorem forward_gap : Forward gap := .look fun _ p a q hs h => hs ▸ forward_gapFrom _ p a q h

theorem listFrom_eq_some {α : Type} {close : Char} {one : α → Scan α}
    (hone : ∀ acc, Forward (one acc)) {n : Nat} {acc a : α} {p q : Place}
    (h : listFrom close one n acc p = some (a, q)) : ∃ t, p.rest = t ++ close :: q.rest := by
  induction n generalizing acc p with
  | zero => cases h
  | succ n ih =>
    obtain ⟨u, p₁, hgap, h₁⟩ := bind_eq_some h
    obtain ⟨closed, p₂, hclosed, h₂⟩ := bind_eq_some h₁
    have hback := forward_gap _ _ _ hgap
    cases closed with
    | true =>
      obtain ⟨rfl, rfl⟩ := pure_eq_some h₂
      obtain ⟨t, ht⟩ := hback
      exact ⟨t, by rw [← ht, char?_eq_some hclosed]⟩
    | false =>
      have hsame : p₂ = p₁ := char?_eq_some hclosed
      rw [if_neg Bool.false_ne_true, hsame] at h₂
      obtain ⟨acc', p₃, hacc, h₃⟩ := bind_eq_some h₂
      obtain ⟨u, p₄, hgap', h₄⟩ := bind_eq_some h₃
      obtain ⟨more, p₅, hmore, h₅⟩ := bind_eq_some h₄
      have hback := (forward_gap _ _ _ hgap').trans ((hone _ _ _ _ hacc).trans hback)
      cases more with
      | true =>
        obtain ⟨t, ht⟩ := ih h₅
        obtain ⟨t', ht'⟩ := ((forward_char? _) _ _ _ hmore).trans hback
        exact ⟨t' ++ t, by rw [← ht', ht, List.append_assoc]⟩
      | false =>
        have hsame : p₅ = p₄ := char?_eq_some hmore
        rw [if_neg Bool.false_ne_true, hsame] at h₅
        obtain ⟨u, p₆, hchar, h₆⟩ := bind_eq_some h₅
        obtain ⟨rfl, rfl⟩ := pure_eq_some h₆
        obtain ⟨t, ht⟩ := hback
        exact ⟨t, by rw [← ht, char_eq_some hchar]⟩

theorem forward_inlineEntry {value : Scan Value} (hvalue : Forward value) (es : Entries) :
    Forward (inlineEntry value es) := by
  refine forward_keys.bind fun ks => ?_
  split
  · exact .failure
  · refine (forward_char _).bind fun _ => forward_space.bind fun _ =>
      hvalue.spanned.bind fun v => ?_
    split
    · exact .pure _
    · exact .failure

end AccessorGen.Toml
