import AccessorGen.Proofs.Spelling.ReadBack

/-! What stands between the tokens of a text. Two neighbours have nothing or a single blank between
them: no blank stands at the inner side of a bracket or at an end of the text, and one always stands
between two words or literals, which would run together. -/

namespace AccessorGen.Source

namespace Flat

def isWordLike : Flat → Bool
  | .word _ | .literal _ => true
  | _ => false

theorem isWordLike_ofMark (c : Char) (joint : Bool) : (ofMark c joint).isWordLike = false := by
  unfold ofMark
  split <;> rfl

theorem ofMark_ne_opens (c : Char) (joint : Bool) (d : Delimiter) : ofMark c joint ≠ .opens d := by
  unfold ofMark
  split <;> nofun

theorem ofMark_ne_closes (c : Char) (joint : Bool) (d : Delimiter) :
    ofMark c joint ≠ .closes d := by
  unfold ofMark
  split <;> nofun

end Flat

namespace Spelling

/-- What may stand between two neighbours: nothing or a single blank. In front of the first token is
nothing. -/
structure Gap (front : Option Flat) (f : Flat) (gap : List Char) : Prop where
  single : gap = [] ∨ gap = [' ']
  first : front = none → gap = []
  opened : ∀ d, front = some (.opens d) → gap = []
  closes : ∀ d, f = .closes d → gap = []
  words : ∀ g, front = some g → g.isWordLike = true → f.isWordLike = true → gap = [' ']

/-- A text of the tokens in their order, each behind its gap, and of nothing else. -/
inductive Spaced : Option Flat → List Flat → List Char → Prop
  | done {front : Option Flat} : Spaced front [] []
  | token {front : Option Flat} {f : Flat} {fs : List Flat} {gap s : List Char}
      (allowed : Gap front f gap) (behind : Spaced (some f) fs s) :
      Spaced front (f :: fs) (gap ++ f.text ++ s)

structure Left (front : Option Flat) (st : State) : Prop where
  first : front = none → st.before = .tight
  opened : ∀ d, front = some (.opens d) → st.before = .tight
  words : ∀ g, front = some g → g.isWordLike = true → st.before ≠ .tight

section

variable {front : Option Flat} {f : Flat} {st : State} {needed : Bool}

theorem left_first : Left none start where
  first _ := rfl
  opened _ _ := rfl
  words _ h := nomatch h

theorem left_opens (d : Delimiter) : Left (some (.opens d)) start where
  first _ := rfl
  opened _ _ := rfl
  words g h word := by
    obtain rfl := Option.some.inj h
    cases word

theorem left_word (word : f.isWordLike = true) (loose : st.before ≠ .tight) :
    Left (some f) st where
  first h := nomatch h
  opened d h := by
    rw [Option.some.inj h] at word
    cases word
  words _ _ _ := loose

theorem left_other (word : f.isWordLike = false) (opens : ∀ d, f ≠ .opens d) (st : State) :
    Left (some f) st where
  first h := nomatch h
  opened d h := absurd (Option.some.inj h) (opens d)
  words g h word' := by
    rw [← Option.some.inj h, word] at word'
    cases word'

theorem Left.gap (left : Left front st) (closes : ∀ d, f ≠ .closes d)
    (tight : st.before = .tight → needed = false)
    (loose : f.isWordLike = true → st.before ≠ .tight → needed = true) :
    Gap front f (blank needed) where
  single := by cases needed <;> simp [blank]
  first h := by rw [tight (left.first h)]; rfl
  opened d h := by rw [tight (left.opened d h)]; rfl
  closes d h := absurd h (closes d)
  words g h word word' := by rw [loose word' (left.words g h word)]; rfl

theorem Left.gap_word (left : Left front st) (word : f.isWordLike = true) :
    Gap front f (blank (st.before != .tight)) := by
  refine left.gap (fun d same => ?_) (fun tight => ?_) fun _ loose => bne_iff_ne.2 loose
  · rw [same] at word
    cases word
  · rw [tight]
    rfl

theorem Left.gap_opens (left : Left front st) (d : Delimiter) :
    Gap front (.opens d) (blank (st.before == .keyword || st.before == .spaced)) := by
  refine left.gap nofun (fun tight => ?_) nofun
  rw [tight]
  rfl

theorem Left.gap_mark (left : Left front st) (c : Char) (joint : Bool) :
    ∃ gap, (mark st c joint).1 = gap ++ [c] ∧ Gap front (.ofMark c joint) gap := by
  obtain ⟨needed, same⟩ := mark_text st c joint
  refine ⟨blank needed, same,
    left.gap (Flat.ofMark_ne_closes c joint) (fun tight => ?_) fun word => ?_⟩
  · rw [mark_of_tight tight] at same
    cases needed with
    | false => rfl
    | true => simp [blank] at same
  · rw [Flat.isWordLike_ofMark] at word
    cases word

theorem gap_closes (front : Option Flat) (d : Delimiter) : Gap front (.closes d) [] where
  single := .inl rfl
  first _ := rfl
  opened _ _ := rfl
  closes _ _ := rfl
  words _ _ _ h := nomatch h

end

mutual

/-- A token goes behind what the state stands for, and in front of what may follow the state it
leaves. -/
theorem spaced_token (t : Token) {front : Option Flat} {st : State} (left : Left front st)
    {gs : List Flat} {s : List Char}
    (rest : ∀ f, Left (some f) (token st t).2 → Spaced (some f) gs s) :
    Spaced front (t.flat ++ gs) ((token st t).1 ++ s) := by
  cases t with
  | word w span =>
    rw [token] at rest ⊢
    have loose : (if isKeyword w then Before.keyword else .word) ≠ .tight := by split <;> nofun
    exact .token (left.gap_word rfl) (rest _ (left_word rfl loose))
  | literal text span =>
    rw [token] at rest ⊢
    exact .token (left.gap_word rfl) (rest _ (left_word rfl nofun))
  | mark c joint span =>
    obtain ⟨gap, same, allowed⟩ := left.gap_mark c joint
    have behind := rest (.ofMark c joint)
      (left_other (Flat.isWordLike_ofMark c joint) (Flat.ofMark_ne_opens c joint) _)
    rw [token, same, ← Flat.text_ofMark c joint]
    exact .token allowed behind
  | group d content span =>
    rw [token] at rest ⊢
    -- whatever the content ends in, the bracket follows at once
    have behind := rest _ (left_other (f := .closes d) rfl nofun { st with before := .word })
    have close (front : Option Flat) : Spaced front (.closes d :: gs) (d.closing :: s) :=
      .token (gap_closes front d) behind
    have whole := Spaced.token (left.gap_opens d) (spaced_tokens content (left_opens d) close)
    simpa only [Token.flat, Flat.text, List.append_assoc, List.cons_append, List.nil_append]
      using whole

theorem spaced_tokens (ts : List Token) {front : Option Flat} {st : State} (left : Left front st)
    {gs : List Flat} {s : List Char} (rest : ∀ front, Spaced front gs s) :
    Spaced front (Token.flatAll ts ++ gs) (tokens st ts ++ s) := by
  cases ts with
  | nil =>
    rw [tokens]
    exact rest front
  | cons t ts =>
    rw [tokens_cons, Token.flatAll_cons, List.append_assoc, List.append_assoc]
    exact spaced_token t left fun f behind => spaced_tokens ts behind rest

end

/-- The text of any tokens consists of them in their order, with the brackets of groups around what
is inside, and of gaps. -/
theorem spaced_text (ts : List Token) : Spaced none (Token.flatAll ts) (text ts).toList := by
  have whole := spaced_tokens ts left_first fun _ => .done
  rw [List.append_nil, List.append_nil] at whole
  rwa [text, String.toList_ofList]

/-- A keyword is set off from a bracket, a lifetime is not set off from its reference. -/
example : (parseType "& 'a mut[dyn Fn( u8,u8 )->T ;2]").toOption.map (text ·.printed) =
    some "&'a mut [dyn Fn(u8, u8) -> T; 2]" := by decide +kernel

end Spelling

end AccessorGen.Source
