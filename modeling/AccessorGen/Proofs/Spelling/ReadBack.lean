import AccessorGen.Proofs.Spelling.Operators
import AccessorGen.Discovery.TypeConversion
import AccessorGen.Source.Grammar

/-! When the text of tokens is read as the same tokens. Every token has to be what stands at the
front of the text from there on, and every mark that could make an operator longer has to stand next
to it just when the two were joint. -/

namespace AccessorGen.Source.Spelling

open Lexer

variable {ops : Operators}

/-- The tokens with their operators as wholes: what two token lists have in common that differ only
in the places they were read at and in where marks that form no operator stand together. -/
def wholes (ops : Operators) (ts : List Token) : List Atom := atoms ops none (Token.flatAll ts)

/-- The text of the tokens has the same tokens again. -/
def ReadsBack (ops : Operators) (ts : List Token) : Prop :=
  ∃ ts', Lexer.tokens (text ts).toList = .ok ts' ∧ wholes ops ts' = wholes ops ts

instance (ops : Operators) (ts : List Token) : Decidable (ReadsBack ops ts) :=
  match found : Lexer.tokens (text ts).toList with
  | .ok ts' => decidable_of_iff (wholes ops ts' = wholes ops ts)
      ⟨fun same => ⟨ts', found, same⟩, fun ⟨_, read, same⟩ => by
        obtain rfl := Except.ok.inj (found.symm.trans read)
        exact same⟩
  | .error _ => isFalse fun ⟨_, read, _⟩ => by
      rw [found] at read
      cases read

def stands (f : Flat) (rest : List Char) : Bool :=
  (lead? (f.text ++ rest)).map (fun x => (x.1.bare, x.2)) == some (f.bare, rest)

def joins (ops : Operators) (p : Pending) (c : Char) (glued : Bool) : Bool :=
  match p with
  | some (o, joint) => !ops.contains (o ++ [c]) || joint == glued
  | none => true

mutual

/-- Whether a token is told apart from its neighbours in the text: `p` is the operator in front, and
`rest` the text behind. -/
def keeps (ops : Operators) (st : State) (p : Pending) (rest : List Char) : Token → Bool
  | .word w _ => stands (.word w.text.toList) rest
  | .literal s _ => stands (.literal s.toList) rest
  | .mark c joint _ =>
    stands (.ofMark c joint) rest && (c == '\'' || joins ops p c ((mark st c joint).1 == [c]))
  | .group d content _ => keepsAll ops start none (d.closing :: rest) content

def keepsAll (ops : Operators) (st : State) (p : Pending) (rest : List Char) : List Token → Bool
  | [] => true
  | t :: ts =>
    keeps ops st p (tokens (token st t).2 ts ++ rest) t &&
      keepsAll ops (token st t).2 (p.through ops t.flat) rest ts

end

theorem stands_of_not_isMark {f : Flat} (single : f.isMark = false) {rest : List Char} :
    stands f rest = true ↔ lead? (f.text ++ rest) = some (f, rest) := by
  rw [stands, beq_iff_eq, Option.map_eq_some_iff]
  constructor
  · rintro ⟨⟨g, r⟩, found, same⟩
    obtain ⟨bare, rest⟩ := Prod.mk.inj same
    dsimp only at bare rest
    rw [found, rest, (Flat.bare_eq_of_not_isMark single).1 bare]
  · intro found
    exact ⟨_, found, rfl⟩

theorem stands_mark {c : Char} {joint : Bool} {rest : List Char} :
    stands (.mark c joint) rest = true ↔
      lead? (c :: rest) = some (.mark c (markChar? rest).isSome, rest) := by
  rw [stands, beq_iff_eq, Option.map_eq_some_iff]
  constructor
  · rintro ⟨⟨g, r⟩, found, same⟩
    obtain ⟨bare, rest⟩ := Prod.mk.inj same
    dsimp only at bare rest
    cases g <;> cases bare
    rw [Flat.text, List.singleton_append, rest] at found
    obtain ⟨-, -, rfl, -⟩ := lead?_mark found
    exact found
  · intro found
    exact ⟨_, found, rfl⟩

theorem joins_iff {p : Pending} {c : Char} {glued : Bool} :
    joins ops p c glued = true ↔
      Pending.joined? ops (p.map fun x => (x.1, glued)) c = p.joined? ops c := by
  cases p with
  | none => simp [joins, Pending.joined?]
  | some x =>
    obtain ⟨o, joint⟩ := x
    by_cases known : o ++ [c] ∈ ops <;> cases joint <;> cases glued <;>
      simp [joins, Pending.joined?, known]

def reread (p : Pending) (text : List Char) : Pending :=
  p.map fun x => (x.1, (markChar? text).isSome)

theorem map_reread (p : Pending) (text : List Char) :
    (reread p text).map Prod.fst = p.map Prod.fst := by
  cases p <;> rfl

def Same (ops : Operators) (text : List Char) (p : Pending) (fs : List Flat) : Prop :=
  ∃ fs', ReadsPlain text fs' ∧ atoms ops (reread p text) fs' = atoms ops p fs

theorem isSpace_of_mem_blank {needed : Bool} {c : Char} (h : c ∈ blank needed) :
    isSpace c = true := by
  cases needed with
  | false => cases h
  | true =>
    rw [blank, if_pos rfl, List.mem_singleton] at h
    rw [h]
    decide

theorem dropWhile_isSpace_front {needed : Bool} {s rest : List Char} {f : Flat}
    (front : lead? s = some (f, rest)) : (blank needed ++ s).dropWhile isSpace = s := by
  rw [List.dropWhile_append_of_pos fun _ => isSpace_of_mem_blank]
  cases s with
  | nil => rfl
  | cons c r => exact List.dropWhile_cons_of_neg (by simp [isSpace_of_leads (leads_of_lead? front)])

theorem same_single {f : Flat} (single : f.isMark = false) (needed : Bool) (p : Pending)
    (rest : List Char) (gs : List Flat) :
    Same ops (blank needed ++ (f.text ++ rest)) p (f :: gs) ↔
      stands f rest = true ∧ Same ops rest none gs := by
  rw [stands_of_not_isMark single]
  have finish := Pending.finish_of_map_eq (map_reread p (blank needed ++ (f.text ++ rest)))
  constructor
  · rintro ⟨fs', reads, same⟩
    rw [atoms_token single] at same
    obtain ⟨gs', rfl, tail⟩ := atoms_eq_token (map_reread p _) same
    cases reads with
    | lead front reads =>
      obtain ⟨rfl, front⟩ := lead?_behind_space (fun _ => isSpace_of_mem_blank) rfl front
      exact ⟨front, gs', reads, tail⟩
  · rintro ⟨front, gs', reads, same⟩
    refine ⟨f :: gs', .lead ?_ reads, ?_⟩
    · rw [dropWhile_isSpace_front front, front]
    · rw [atoms_token single, atoms_token single, finish]
      exact congrArg _ (congrArg _ same)

theorem markChar?_blank_append (needed : Bool) {c : Char} {rest : List Char}
    (mark : markChar? (c :: rest) = some c) :
    (markChar? (blank needed ++ c :: rest)).isSome = (blank needed ++ [c] == [c]) := by
  cases needed with
  | false =>
    rw [blank, if_neg (by simp), List.nil_append, mark]
    simp
  | true =>
    rw [blank, if_pos rfl, List.singleton_append]
    simp [markChar?, startsComment, markChars]

theorem after_reread {p q : Pending} {c : Char} {rest : List Char}
    (join : q.joined? ops c = p.joined? ops c) (joint : Bool) :
    q.after ops (.mark c (markChar? rest).isSome) = reread (p.after ops (.mark c joint)) rest := by
  rw [Pending.after, Pending.after, join]
  cases p.joined? ops c <;> rfl

theorem same_mark {c : Char} {joint : Bool} (needed : Bool) (p : Pending) (rest : List Char)
    (gs : List Flat) :
    Same ops (blank needed ++ (c :: rest)) p (.mark c joint :: gs) ↔
      (stands (.mark c joint) rest = true ∧ joins ops p c (blank needed ++ [c] == [c]) = true) ∧
        Same ops rest (p.after ops (.mark c joint)) gs := by
  rw [stands_mark, joins_iff]
  constructor
  · rintro ⟨fs', reads, same⟩
    obtain ⟨j, gs', rfl, join, tail⟩ := atoms_eq_mark (map_reread p _) same
    cases reads with
    | lead front reads =>
      have space : ∀ d ∈ blank needed, isSpace d = true := fun _ => isSpace_of_mem_blank
      obtain ⟨rfl, behind⟩ := @lead?_behind_space (blank needed) [c] rest _ _ space rfl front
      rw [List.singleton_append] at behind
      obtain ⟨-, mark, rfl, -⟩ := lead?_mark behind
      rw [after_reread join joint] at tail
      rw [reread, markChar?_blank_append needed mark] at join
      exact ⟨⟨behind, join⟩, gs', reads, tail⟩
  · rintro ⟨⟨front, join⟩, gs', reads, same⟩
    obtain ⟨-, mark, -⟩ := lead?_mark front
    refine ⟨.mark c (markChar? rest).isSome :: gs', .lead ?_ reads, ?_⟩
    · rw [dropWhile_isSpace_front front, front]
    · rw [← markChar?_blank_append needed mark] at join
      change Pending.joined? ops (reread p _) c = _ at join
      have finish := Pending.finish_of_map_eq (map_reread p (blank needed ++ c :: rest))
      rw [atoms_cons, atoms_cons, after_reread join joint, same, Pending.emitted, Pending.emitted,
        join, finish]

theorem same_closes (d : Delimiter) (p : Pending) (rest : List Char) (gs : List Flat) :
    Same ops (d.closing :: rest) p (.closes d :: gs) ↔ Same ops rest none gs := by
  have single := @same_single ops (.closes d) rfl false p rest gs
  have front : stands (.closes d) rest = true :=
    (stands_of_not_isMark rfl).2 (by cases d <;> rfl)
  rw [front] at single
  simpa [blank, Flat.text] using single

theorem stands_opens (d : Delimiter) (rest : List Char) : stands (.opens d) rest = true :=
  (stands_of_not_isMark rfl).2 (by cases d <;> rfl)

theorem mark_text (st : State) (c : Char) (joint : Bool) :
    ∃ needed, (mark st c joint).1 = blank needed ++ [c] := by
  unfold mark
  repeat' split
  all_goals first
    | exact ⟨_, rfl⟩
    | exact ⟨false, rfl⟩

mutual

theorem same_token (t : Token) (st : State) (p : Pending) (rest : List Char) (gs : List Flat) :
    Same ops ((token st t).1 ++ rest) p (t.flat ++ gs) ↔
      keeps ops st p rest t = true ∧ Same ops rest (p.through ops t.flat) gs := by
  cases t with
  | word w s =>
    rw [token, List.append_assoc, Token.flat, keeps]
    exact @same_single ops (.word w.text.toList) rfl _ p rest gs
  | literal text s =>
    rw [token, List.append_assoc, Token.flat, keeps]
    exact @same_single ops (.literal text.toList) rfl _ p rest gs
  | mark c joint s =>
    obtain ⟨needed, same⟩ := mark_text st c joint
    rw [token, Token.flat, keeps, same, List.append_assoc, Flat.ofMark, Bool.and_eq_true]
    split
    next quote =>
      subst quote
      rw [beq_self_eq_true, Bool.true_or, eq_self_iff_true, and_true]
      exact @same_single ops .quote rfl needed p rest gs
    next other =>
      rw [beq_eq_false_iff_ne.2 other, Bool.false_or]
      exact same_mark needed p rest gs
  | group d content s =>
    have opened := @same_single ops (.opens d) rfl (st.before == .keyword || st.before == .spaced) p
      (tokens start content ++ d.closing :: rest)
      (Token.flatAll content ++ .closes d :: gs)
    rw [stands_opens, same_tokens content start none (d.closing :: rest) (.closes d :: gs),
      same_closes] at opened
    have last : ∀ q : Pending, q.through ops [.closes d] = none := fun _ => rfl
    rw [keeps, Token.flat, Pending.through_append, last, token]
    simpa [Flat.text] using opened

theorem same_tokens (ts : List Token) (st : State) (p : Pending) (rest : List Char)
    (gs : List Flat) :
    Same ops (tokens st ts ++ rest) p (Token.flatAll ts ++ gs) ↔
      keepsAll ops st p rest ts = true ∧ Same ops rest (p.through ops (Token.flatAll ts)) gs := by
  cases ts with
  | nil => simp [tokens, keepsAll, Pending.through]
  | cons t ts =>
    rw [tokens_cons, Token.flatAll_cons, List.append_assoc, List.append_assoc, same_token t,
      same_tokens ts, keepsAll, Bool.and_eq_true, Pending.through_append, and_assoc]

end

theorem weight_blank (needed : Bool) : weight (blank needed) = 0 := by cases needed <;> rfl

mutual

theorem weight_token (t : Token) (st : State) :
    weight (token st t).1 = weight (Flat.textAll t.flat) := by
  cases t with
  | word w s => simp [token, Token.flat, Flat.text, weight_blank]
  | literal text s => simp [token, Token.flat, Flat.text, weight_blank]
  | mark c joint s =>
    obtain ⟨needed, same⟩ := mark_text st c joint
    simp [token, Token.flat, same, Flat.text_ofMark, weight_blank]
  | group d content s =>
    simp only [token, Token.flat, Flat.textAll_cons, Flat.textAll_append, Flat.textAll_nil,
      Flat.text, weight_append, weight_blank, List.cons_append, List.nil_append, List.append_nil]
    rw [weight_cons, weight_cons d.opening (_ ++ _), weight_append, weight_tokens content]
    omega

theorem weight_tokens (ts : List Token) (st : State) :
    weight (tokens st ts) = weight (Flat.textAll (Token.flatAll ts)) := by
  cases ts with
  | nil => simp [tokens]
  | cons t ts =>
    rw [tokens_cons, weight_append, weight_token t, weight_tokens ts, Token.flatAll_cons,
      Flat.textAll_append, weight_append]

end

theorem same_iff_readsBack (ts : List Token) :
    ReadsBack ops ts ↔ Same ops (tokens start ts) none (Token.flatAll ts) := by
  rw [ReadsBack, text, String.toList_ofList]
  constructor
  · rintro ⟨ts', read, same⟩
    -- the same atoms have the same slashes, so no comment was passed over
    have texts := congrArg (fun as => as.flatMap Atom.text) same
    simp only [wholes, text_atoms, Option.map_none, Option.getD_none, List.nil_append] at texts
    have keep : weight (Flat.textAll (Token.flatAll ts')) = weight (tokens start ts) := by
      rw [texts, weight_tokens]
    exact ⟨_, plain_of_tokens read keep, same⟩
  · rintro ⟨fs, reads, same⟩
    -- brackets are atoms, so they are closed in the one row as in the other
    have closed : Flat.closed [] fs = true := by
      have brackets := Token.closed_flatAll ts [] []
      rw [List.append_nil, ← closed_atoms none, ← same] at brackets
      rw [← closed_atoms (reread none (tokens start ts)), brackets]
      rfl
    obtain ⟨ts', read, rfl⟩ := tokens_of_plain reads closed
    exact ⟨ts', read, same⟩

/-- The text of tokens is read back as the tokens just when each of them is told apart. -/
theorem reads_back_iff (ops : Operators) (ts : List Token) :
    ReadsBack ops ts ↔ keepsAll ops start none [] ts = true := by
  have whole := @same_tokens ops ts start none [] []
  have nothing : Same ops [] (Pending.through ops none (Token.flatAll ts)) [] :=
    ⟨[], .done rfl, by rw [atoms_nil, atoms_nil, Pending.finish_of_map_eq (map_reread _ [])]⟩
  rw [List.append_nil, List.append_nil] at whole
  rw [same_iff_readsBack, whole]
  exact and_iff_left nothing

/-- The comparison of two constants comes apart. -/
theorem comparison_comes_apart :
    ∃ t, parseType "[u8; (A == B) as usize]" = .ok t ∧
      t.reference = .verbatim "[u8; (A = = B) as usize]" ∧
      text t.printed = "[u8; (A = = B) as usize]" ∧
      ¬ReadsBack operators t.printed ∧ ¬ReadsBack firmOperators t.printed := by
  have split : (match parseType "[u8; (A == B) as usize]" with
      | .ok t => decide (t.reference = .verbatim "[u8; (A = = B) as usize]" ∧
          text t.printed = "[u8; (A = = B) as usize]" ∧
          ¬ReadsBack operators t.printed ∧ ¬ReadsBack firmOperators t.printed)
      | .error _ => false) = true := by decide +kernel
  cases found : parseType "[u8; (A == B) as usize]" with
  | error e =>
    rw [found] at split
    cases split
  | ok t =>
    rw [found] at split
    exact ⟨t, rfl, of_decide_eq_true split⟩

theorem keepsAll_of_append {us vs : List Token} {st : State} {p : Pending} {rest : List Char}
    (h : keepsAll ops st p rest (us ++ vs) = true) :
    ∃ st' p', keepsAll ops st' p' rest vs = true := by
  induction us generalizing st p with
  | nil => exact ⟨st, p, h⟩
  | cons t us ih =>
    rw [List.cons_append, keepsAll, Bool.and_eq_true] at h
    exact ih h.2

/-- Two marks behind a word that form an operator have to be next to each other just when they were
joint. -/
theorem joint_of_keepsAll {us vs : List Token} {st : State} {p : Pending} {rest : List Char}
    {w : Word} {c d : Char} {joint j : Bool} {s₁ s₂ s₃ : Span} (plain : c ≠ '\'' ∧ d ≠ '\'')
    (pair : [c, d] ∈ ops)
    (h : keepsAll ops st p rest
      (us ++ .word w s₁ :: .mark c joint s₂ :: .mark d j s₃ :: vs) = true) :
    ∃ behind, joint = ((mark (mark behind c joint).2 d j).1 == [d]) := by
  obtain ⟨st', p', h⟩ := keepsAll_of_append h
  simp only [keepsAll, keeps, Bool.and_eq_true, token] at h
  obtain ⟨-, -, ⟨-, joins⟩, -⟩ := h
  refine ⟨⟨if isKeyword w.text then .keyword else .word, st'.arrow⟩, ?_⟩
  simpa [Token.flat, Flat.ofMark, plain, Pending.through, Pending.after, Pending.joined?,
    Spelling.joins, pair] using joins

theorem mark_of_tight {st : State} (tight : st.before = .tight) (c : Char) (joint : Bool) :
    (mark st c joint).1 = [c] := by
  unfold mark
  repeat' split
  all_goals simp [tight, blank]

theorem mark_equals_of_loose {st : State} (loose : st.before ≠ .tight) (joint : Bool) :
    (mark st '=' joint).1 = [' ', '='] := by
  simp [mark, blank, loose]

theorem before_mark_ne_tight {c : Char} (sign : c = '=' ∨ c = '+' ∨ c = '>') (st : State)
    (joint : Bool) : (mark st c joint).2.before ≠ .tight := by
  rcases sign with rfl | rfl | rfl
  · simp [mark]
  · simp [mark]
  · cases arrow : st.arrow <;> simp [mark, arrow]

theorem not_keepsAll_equals {us vs : List Token} {st : State} {p : Pending} {rest : List Char}
    {w : Word} {c : Char} {j : Bool} {s₁ s₂ s₃ : Span} (sign : c = '=' ∨ c = '+' ∨ c = '>')
    (pair : [c, '='] ∈ ops) :
    keepsAll ops st p rest
      (us ++ .word w s₁ :: .mark c true s₂ :: .mark '=' j s₃ :: vs) = false := by
  rw [← Bool.not_eq_true]
  intro h
  have plain : c ≠ '\'' ∧ '=' ≠ '\'' := by rcases sign with rfl | rfl | rfl <;> decide
  obtain ⟨behind, joint⟩ := joint_of_keepsAll plain pair h
  rw [mark_equals_of_loose (before_mark_ne_tight sign behind true)] at joint
  cases joint

theorem not_keepsAll_apart {us vs : List Token} {st : State} {p : Pending} {rest : List Char}
    {w : Word} {c d : Char} {j : Bool} {s₁ s₂ s₃ : Span}
    (binds : c ∉ [',', ';', '+', '=', '>', '\'']) (other : d ≠ '\'') (pair : [c, d] ∈ ops) :
    keepsAll ops st p rest
      (us ++ .word w s₁ :: .mark c false s₂ :: .mark d j s₃ :: vs) = false := by
  rw [← Bool.not_eq_true]
  intro h
  have plain : c ≠ '\'' ∧ d ≠ '\'' := ⟨by rintro rfl; simp at binds, other⟩
  obtain ⟨behind, joint⟩ := joint_of_keepsAll plain pair h
  have tight : (mark behind c false).2.before = .tight := by
    simp only [List.mem_cons, List.not_mem_nil, or_false, not_or] at binds
    simp [mark, binds]
  rw [mark_of_tight tight] at joint
  simp at joint

end AccessorGen.Source.Spelling
