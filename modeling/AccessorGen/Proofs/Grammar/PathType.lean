import AccessorGen.Discovery.TypeConversion
import AccessorGen.Proofs.Grammar.Takes
import AccessorGen.Source.Grammar

/-! Types that are paths: names joined by `::`, the last of them perhaps with arguments that are
such types again, and parentheses around any of them. The grammar takes the tokens of such a type
wherever nothing follows that could belong to it, and what it gives is converted to the reference
that the type stands for. -/

namespace AccessorGen.Source

open Token (bareAll nowhere)

structure Name where
  word : Word
  free : Look.keywords.contains word.text = false

def pathKeywords : List String := ["super", "self", "Self", "crate"]

structure PathName where
  word : Word
  fits : Look.keywords.contains word.text = true → pathKeywords.contains word.text = true

def Name.toPath (n : Name) : PathName := ⟨n.word, fun h => by rw [n.free] at h; cases h⟩

inductive PathType
  | plain (rooted : Bool) (front : List PathName) (last : PathName)
  | applied (rooted : Bool) (front : List PathName) (last : Name) (arg : PathType)
      (args : List PathType)
  | paren (inner : PathType)

def Token.ofWord (w : Word) : Token := .word w nowhere

def colons : List Token := [.mark ':' true nowhere, .mark ':' false nowhere]

def pathFront (rooted : Bool) (front : List PathName) : List Token :=
  (if rooted then colons else []) ++ front.flatMap fun n => .ofWord n.word :: colons

namespace PathType

def rooted : PathType → Bool
  | plain r _ _ => r
  | applied r _ _ _ _ => r
  | paren _ => false

mutual

/-- The tokens of a type; a mark at its end is joint or not, as what follows it says. -/
def tokens (joint : Bool) : PathType → List Token
  | plain r front last => pathFront r front ++ [.ofWord last.word]
  | applied r front last arg args =>
    pathFront r front ++ .ofWord last.word :: .mark '<' arg.rooted nowhere ::
      (arg.tokens true ++ (tokensBehind args ++ [.mark '>' joint nowhere]))
  | paren t => [.group .paren (t.tokens false) nowhere]

def tokensBehind : List PathType → List Token
  | [] => []
  | a :: as => .mark ',' false nowhere :: (a.tokens true ++ tokensBehind as)

end

mutual

def depth : PathType → Nat
  | plain _ _ _ => 0
  | applied _ _ _ arg args => max arg.depth (depthAll args) + 1
  | paren t => t.depth + 1

def depthAll : List PathType → Nat
  | [] => 0
  | a :: as => max a.depth (depthAll as)

end

end PathType

def frontName (start : String) (front : List PathName) : String :=
  front.foldl (fun t n => t ++ n.word.text ++ "::") start

def pathName (rooted : Bool) (front : List PathName) (last : Word) : String :=
  frontName (TypeExpr.pathStart rooted) front ++ last.text

namespace PathType

mutual

/-- The reference a type stands for; parentheses do not count. -/
def reference : PathType → TypeRef
  | plain r front last => .named (pathName r front last.word)
  | applied r front last arg args =>
    .generic (pathName r front last.word) (arg.reference :: references args)
  | paren t => t.reference

def references : List PathType → List TypeRef
  | [] => []
  | a :: as => a.reference :: references as

end

end PathType

namespace TypeExpr

theorem pathReference_front (start : String) (front : List PathName) (s : Segment) :
    pathReference start (front.map (fun n => .plain n.word) ++ [s]) =
      segmentReference (frontName start front) s := by
  induction front generalizing start with
  | nil => rw [List.map_nil, List.nil_append, pathReference]; rfl
  | cons n front ih =>
    rw [List.map_cons, List.cons_append, pathReference, ih]
    · rfl
    · simp

/-- Whether a type as it is read stands for a reference, whatever tokens it is written back with. -/
def StandsFor (e : TypeExpr) (t : TypeRef) : Prop := ∀ ts, (e.setPrinted ts).reference = t

theorem StandsFor.reference {e : TypeExpr} {t : TypeRef} (h : e.StandsFor t) : e.reference = t := by
  rw [← h e.printed]
  cases e <;> rfl

theorem StandsFor.setPrinted {e : TypeExpr} {t : TypeRef} (h : e.StandsFor t) (ts : List Token) :
    (e.setPrinted ts).StandsFor t := by
  intro us
  rw [← h us]
  cases e <;> rfl

theorem standsFor_path {rooted : Bool} {segments : List Segment} {t : TypeRef}
    (h : pathReference (pathStart rooted) segments = some t) (ts : List Token) :
    (path false rooted segments ts).StandsFor t := by
  intro us
  rw [TypeExpr.setPrinted, TypeExpr.reference, h]

end TypeExpr

def EndsType (us : List Token) : Prop := Look.marks ["<", "::", "!", "+", "=", ":"] us = false

theorem EndsType.mark {us : List Token} (h : EndsType us) {op : String}
    (hop : op ∈ ["<", "::", "!", "+", "=", ":"]) : Look.mark op us = false := by
  have hno := List.any_eq_false.1 h op hop
  simpa using hno

namespace Grammar

instance : Blind startsName := inferInstanceAs (Blind fun ts => Look.name ts || Look.pathWord ts)

instance : Blind startsConstant :=
  inferInstanceAs (Blind fun ts => Look.constant ts || Look.brace ts)

instance : Blind startsPath :=
  inferInstanceAs (Blind fun ts => Look.name ts || Look.pathWord ts || Look.marks _ ts)

instance : Blind startsFunctionType := inferInstanceAs (Blind (Look.words _))

instance (p : PathRead) : Blind (callsMacro p) :=
  inferInstanceAs (Blind fun ts => Look.bang ts && p.isNamePath)

end Grammar

theorem Name.look_words (n : Name) {ks : List String} {s : Span} (ts : List Token)
    (h : ∀ k ∈ ks, Look.keywords.contains k = true) :
    Look.words ks (.word n.word s :: ts) = false := by
  rw [Bool.eq_false_iff]
  intro hin
  have hkey := h _ (List.contains_iff_mem.1 hin)
  rw [n.free] at hkey
  cases hkey

theorem Look.words_singleton (k : String) (ts : List Token) : words [k] ts = word k ts := by
  rw [Bool.eq_iff_iff]
  cases ts with
  | nil => rfl
  | cons t ts => cases t <;> simp [words, word]

theorem Name.look_word (n : Name) {k : String} {s : Span} (ts : List Token)
    (h : Look.keywords.contains k = true) : Look.word k (.word n.word s :: ts) = false := by
  rw [← Look.words_singleton]
  exact n.look_words ts (by simpa using h)

theorem Name.look_name (n : Name) (s : Span) (ts : List Token) :
    Look.name (.word n.word s :: ts) = true := by
  rw [Look.name, n.free]
  rfl

theorem PathName.look_words (n : PathName) {ks : List String} {s : Span} (ts : List Token)
    (h : ∀ k ∈ ks, Look.keywords.contains k = true ∧ pathKeywords.contains k = false) :
    Look.words ks (.word n.word s :: ts) = false := by
  rw [Bool.eq_false_iff]
  intro hin
  obtain ⟨hkey, hpath⟩ := h _ (List.contains_iff_mem.1 hin)
  rw [n.fits hkey] at hpath
  cases hpath

theorem PathName.look_word (n : PathName) {k : String} {s : Span} (ts : List Token)
    (h : Look.keywords.contains k = true ∧ pathKeywords.contains k = false) :
    Look.word k (.word n.word s :: ts) = false := by
  rw [← Look.words_singleton]
  exact n.look_words ts (by simpa using h)

theorem PathName.look_constant (n : PathName) (s : Span) (ts : List Token) :
    Look.constant (.word n.word s :: ts) = false := by
  have htrue := n.look_word (k := "true") (s := s) ts (by decide)
  have hfalse := n.look_word (k := "false") (s := s) ts (by decide)
  simp only [Look.word] at htrue hfalse
  rw [Look.constant, htrue, hfalse, Bool.or_false]

section Names

variable {g : Grammar} {us : List Token}

theorem takes_segment (n : PathName) (bare : Bool) (hopen : Look.mark "<" us = false)
    (hjoin : (Look.mark "::" us && Look.third (Look.mark "<") us) = false) :
    Takes (g.segment bare) (.ofWord n.word :: us) (· = .plain n.word) us := by
  have hrest : ∀ w, Takes (do
      if ← Reader.sees fun ts => (bare && Look.mark "<" ts && !Look.mark "<=" ts) ||
          (Look.mark "::" ts && Look.third (Look.mark "<") ts) then
        return .angle w (← g.angleArguments)
      else return Segment.plain w) us (· = .plain w) us :=
    fun w => .ifFalse (.sees (by simp [hopen, hjoin])) (.pure rfl)
  unfold Grammar.segment
  cases hword : Look.words ["super", "self", "crate", "try"] (.ofWord n.word :: us) with
  | true => exact .ifTrue (.sees hword) (.seq .anyWord (.pure rfl))
  | false =>
    refine .ifFalse (.sees hword) ?_
    cases hself : Look.word "Self" (.ofWord n.word :: us) with
    | true => exact .ifTrue (.sees hself) (.seq .anyWord (hrest _))
    | false =>
      refine .ifFalse (.sees hself) (.seq (.name ?_) (hrest _))
      rw [Bool.eq_false_iff]
      intro hkey
      have hfits := n.fits hkey
      simp only [pathKeywords, Look.words, Look.word, Token.ofWord] at hfits hword hself
      simp_all

theorem takes_segments {bare : Bool} (front : List PathName) {w : Word} {ts : List Token}
    {P : Segment → Prop} (hfront : ∀ n ∈ front, ∀ v us, Takes (g.segment bare)
      (.ofWord n.word :: (colons ++ .ofWord v :: us)) (· = .plain n.word)
      (colons ++ .ofWord v :: us))
    (hlast : Takes (g.segment bare) (.ofWord w :: ts) P us) (hend : Look.mark "::" us = false) :
    Takes (Reader.chain (g.segment bare) do
        if ← Reader.sees fun ts => Look.mark "::" ts && !Look.third Look.paren ts then
          Reader.mark "::"
          return true
        else return false)
      ((front.flatMap fun n => .ofWord n.word :: colons) ++ .ofWord w :: ts)
      (fun segments => ∃ s, P s ∧ segments = front.map (fun n => .plain n.word) ++ [s]) us := by
  refine .lengthTokens fun n hn => ?_
  induction front generalizing n with
  | nil =>
    refine (Takes.chainLast (Nat.zero_lt_of_lt hn) hlast
      (.ifFalse (.sees (by simp [hend])) (.pure rfl))).mono ?_
    rintro _ ⟨s, rfl, hs⟩
    exact ⟨s, hs, rfl⟩
  | cons m front ih =>
    obtain ⟨v, us', hnext⟩ : ∃ v us', (front.flatMap fun n => .ofWord n.word :: colons) ++
        .ofWord w :: ts = .ofWord v :: us' := by
      cases front with
      | nil => exact ⟨w, ts, rfl⟩
      | cons n front => exact ⟨n.word, _, rfl⟩
    simp only [List.flatMap_cons, List.cons_append, List.append_assoc, List.length_cons] at hn ⊢
    obtain ⟨n, rfl⟩ := Nat.exists_eq_succ_of_ne_zero (Nat.ne_of_gt (Nat.zero_lt_of_lt hn))
    refine (Takes.chainMore (hnext ▸ hfront m (by simp) v us') ?_
      (ih (fun n hn => hfront n (by simp [hn])) n ?_)).mono ?_
    · rw [hnext]
      exact .ifTrue (.sees rfl) (.skip (.mark rfl) (.pure rfl))
    · rw [List.length_append] at hn
      omega
    · rintro _ ⟨_, _, rfl, rfl, s, hs, rfl⟩
      exact ⟨s, hs, rfl⟩

theorem takes_plainPath {bare : Bool} (rooted : Bool) (front : List PathName) {w : Word}
    {ts : List Token} {P : Segment → Prop} (hfront : ∀ n ∈ front, ∀ v us, Takes (g.segment bare)
      (.ofWord n.word :: (colons ++ .ofWord v :: us)) (· = .plain n.word)
      (colons ++ .ofWord v :: us))
    (hlast : Takes (g.segment bare) (.ofWord w :: ts) P us) (hend : Look.mark "::" us = false) :
    Takes (g.plainPath bare) (pathFront rooted front ++ .ofWord w :: ts)
      (fun p => ∃ s, P s ∧ p = ⟨false, rooted, front.map (fun n => .plain n.word) ++ [s]⟩) us := by
  have hchain := takes_segments front hfront hlast hend
  have hpath : ∀ segments, (∃ s, P s ∧ segments = front.map (fun n => .plain n.word) ++ [s]) →
      Takes (pure ⟨false, rooted, segments⟩ : Reader Grammar.PathRead) us
        (fun p => ∃ s, P s ∧ p = ⟨false, rooted, front.map (fun n => .plain n.word) ++ [s]⟩)
        us := by
    rintro _ ⟨s, hs, rfl⟩
    exact .pure ⟨s, hs, rfl⟩
  cases rooted with
  | true => exact .seq (.markYes rfl) (hchain.bind hpath)
  | false =>
    refine .seq (.markNo ?_) (hchain.bind hpath)
    cases front <;> rfl

end Names

section Types

variable {g : Grammar} {us : List Token}

theorem pathFront_cases (rooted : Bool) (front : List PathName) (last : PathName)
    (ts : List Token) :
    (∃ us, pathFront rooted front ++ .ofWord last.word :: ts = colons ++ us) ∨
      ∃ (n : PathName) (us : List Token), pathFront rooted front ++ .ofWord last.word :: ts =
        .ofWord n.word :: us := by
  cases rooted with
  | true => exact .inl ⟨_, by rw [pathFront, if_pos rfl, List.append_assoc]⟩
  | false =>
    cases front with
    | nil => exact .inr ⟨last, ts, rfl⟩
    | cons n front => exact .inr ⟨n, _, rfl⟩

theorem PathType.tokens_cases (t : PathType) (joint : Bool) :
    (∃ ts, t.tokens joint = colons ++ ts) ∨
      (∃ (n : PathName) (ts : List Token), t.tokens joint = .ofWord n.word :: ts) ∨
      ∃ content, t.tokens joint = [.group .paren content nowhere] := by
  cases t with
  | plain rooted front last =>
    rw [tokens]
    exact (pathFront_cases rooted front last []).imp_right .inl
  | applied rooted front last arg args =>
    rw [tokens]
    exact (pathFront_cases rooted front last.toPath _).imp_right .inl
  | paren t => exact .inr (.inr ⟨_, by rw [tokens]⟩)

def ReadsType (g : Grammar) (plus joint : Bool) (t : PathType) : Prop :=
  ∀ us, EndsType us →
    Takes (g.type plus) (t.tokens joint ++ us) (TypeExpr.StandsFor · t.reference) us

theorem endsType_comma (joint : Bool) (s : Span) : EndsType (.mark ',' joint s :: us) := rfl

theorem endsType_close (joint : Bool) (s : Span) : EndsType (.mark '>' joint s :: us) := rfl

theorem takes_argument {t : PathType} (h : ReadsType g true true t) (hend : EndsType us) :
    Takes g.argument (t.tokens true ++ us)
      (fun x => ∃ e : TypeExpr, x.2 = .type e ∧ e.reference = t.reference) us := by
  obtain ⟨hlifetime, hconstant⟩ : Look.lifetime (t.tokens true ++ us) = false ∧
      Grammar.startsConstant (t.tokens true ++ us) = false := by
    obtain ⟨ts, hts⟩ | ⟨n, ts, hts⟩ | ⟨content, hts⟩ := t.tokens_cases true
    · rw [hts]
      exact ⟨rfl, rfl⟩
    · rw [hts]
      refine ⟨rfl, ?_⟩
      rw [Grammar.startsConstant]
      exact (Bool.or_eq_false_iff.2 ⟨n.look_constant _ _, rfl⟩)
    · rw [hts]
      exact ⟨rfl, rfl⟩
  unfold Grammar.argument
  refine .ifFalse (.sees (by simp [hlifetime])) (.ifFalse (.sees hconstant) ?_)
  refine (h us hend).bind fun e he => ?_
  cases Grammar.mayBind e with
  | false => exact .pure ⟨e, rfl, he.reference⟩
  | true =>
    exact .ifFalse (.markNo (hend.mark (by decide)))
      (.ifFalse (.markNo (hend.mark (by decide))) (.pure ⟨e, rfl, he.reference⟩))

def IsArgument (t : PathType) (o : Option Grammar.PrintedArgument) : Prop :=
  ∃ a e, o = some a ∧ a.argument = .type e ∧ e.reference = t.reference

theorem PathType.mark_close_tokens (t : PathType) (ts : List Token) :
    Look.mark ">" (t.tokens true ++ ts) = false := by
  obtain ⟨us, hus⟩ | ⟨n, us, hus⟩ | ⟨content, hus⟩ := t.tokens_cases true <;> rw [hus] <;> rfl

theorem takes_readArgument_last {joint : Bool} {t : PathType} (h : ReadsType g true true t) :
    Takes g.readArgument (t.tokens true ++ .mark '>' joint nowhere :: us) (IsArgument t)
      (.mark '>' joint nowhere :: us) := by
  refine .ifFalse (.sees (t.mark_close_tokens _))
    ((takes_argument h (endsType_close _ _)).apart.bind ?_)
  rintro ⟨⟨isLifetime, argument⟩, printed⟩ ⟨e, hargument, he⟩
  exact .ifTrue (.sees rfl) (.seq (.pure rfl) (.pure ⟨_, e, rfl, hargument, he⟩))

theorem takes_readArgument_comma {t : PathType} (h : ReadsType g true true t) :
    Takes g.readArgument (t.tokens true ++ .mark ',' false nowhere :: us) (IsArgument t) us := by
  refine .ifFalse (.sees (t.mark_close_tokens _))
    ((takes_argument h (endsType_comma _ _)).apart.bind ?_)
  rintro ⟨⟨isLifetime, argument⟩, printed⟩ ⟨e, hargument, he⟩
  exact .ifFalse (.sees rfl) (Takes.bind (Takes.mark rfl).apart fun _ _ =>
    .seq (.pure rfl) (.pure ⟨_, e, rfl, hargument, he⟩))

theorem argumentReferences_cons {a : Grammar.PrintedArgument} {as : List Grammar.PrintedArgument}
    {t : PathType} {refs : List TypeRef} (h : IsArgument t (some a))
    (hrest : TypeExpr.argumentReferences (as.map (·.argument)) = some refs) :
    TypeExpr.argumentReferences ((a :: as).map (·.argument)) = some (t.reference :: refs) := by
  obtain ⟨_, e, ha, hargument, he⟩ := h
  obtain rfl := Option.some.inj ha
  rw [List.map_cons, hargument, TypeExpr.argumentReferences, hrest, he]

theorem takes_arguments {joint : Bool} (t : PathType) (ts : List PathType)
    (h : ∀ a ∈ t :: ts, ReadsType g true true a) :
    Takes (Reader.repeating g.readArgument)
      (t.tokens true ++ (PathType.tokensBehind ts ++ .mark '>' joint nowhere :: us))
      (fun as => TypeExpr.argumentReferences (as.map (·.argument)) =
        some (PathType.references (t :: ts))) (.mark '>' joint nowhere :: us) := by
  have hstop : Takes g.readArgument (.mark '>' joint nowhere :: us) (· = none)
      (.mark '>' joint nowhere :: us) := .ifTrue (.sees rfl) (.pure rfl)
  refine .lengthTokens fun n hn => ?_
  induction ts generalizing t n with
  | nil =>
    obtain ⟨n, rfl⟩ : ∃ m, n = m + 2 := by
      refine ⟨n - 2, ?_⟩
      simp only [PathType.tokensBehind, List.nil_append, List.length_append,
        List.length_cons] at hn
      omega
    refine (takes_readArgument_last (h t (by simp))).bind fun o ho => ?_
    obtain ⟨a, e, rfl, ha, he⟩ := ho
    exact .seq (.seq hstop (.pure rfl)) (.pure (argumentReferences_cons ⟨a, e, rfl, ha, he⟩ (by
      rw [List.map_nil, TypeExpr.argumentReferences, PathType.references])))
  | cons b ts ih =>
    simp only [PathType.tokensBehind, List.cons_append, List.append_assoc, List.length_append,
      List.length_cons] at hn ⊢
    obtain ⟨n, rfl⟩ := Nat.exists_eq_succ_of_ne_zero (Nat.ne_of_gt (Nat.zero_lt_of_lt hn))
    refine (takes_readArgument_comma (h t (by simp))).bind fun o ho => ?_
    obtain ⟨a, e, rfl, ha, he⟩ := ho
    refine (ih b (fun x hx => h x (List.mem_cons_of_mem t hx)) n ?_).bind fun as has =>
      .pure (argumentReferences_cons ⟨a, e, rfl, ha, he⟩ has)
    simp only [List.length_append, List.length_cons]
    omega

theorem takes_angleArguments {opening joint : Bool} (t : PathType) (ts : List PathType)
    (h : ∀ a ∈ t :: ts, ReadsType g true true a) :
    Takes g.angleArguments (.mark '<' opening nowhere ::
      (t.tokens true ++ (PathType.tokensBehind ts ++ .mark '>' joint nowhere :: us)))
      (fun as => TypeExpr.argumentReferences as = some (PathType.references (t :: ts))) us := by
  refine .skip (Takes.markNo rfl).discard (.skip (.mark rfl) (.bind .here fun _ _ => ?_))
  exact .bind (takes_arguments t ts h) fun _ has =>
    .skip (.emit _) (.skip (.mark rfl) (.pure has))

theorem takes_segment_applied {opening joint : Bool} (n : Name) (t : PathType) (ts : List PathType)
    (h : ∀ a ∈ t :: ts, ReadsType g true true a) :
    Takes (g.segment true) (.ofWord n.word :: .mark '<' opening nowhere ::
      (t.tokens true ++ (PathType.tokensBehind ts ++ .mark '>' joint nowhere :: us)))
      (fun s => ∃ as, s = .angle n.word as ∧
        TypeExpr.argumentReferences as = some (PathType.references (t :: ts))) us := by
  have hopen : Look.mark "<=" (.mark '<' opening nowhere ::
      (t.tokens true ++ (PathType.tokensBehind ts ++ .mark '>' joint nowhere :: us))) = false := by
    obtain ⟨vs, hvs⟩ | ⟨m, vs, hvs⟩ | ⟨content, hvs⟩ := t.tokens_cases true <;> rw [hvs] <;>
      cases opening <;> rfl
  unfold Grammar.segment
  refine .ifFalse (.sees (n.look_words _ (by decide))) (.ifFalse (.sees (n.look_word _ (by decide)))
    (.seq (.name n.free) (.ifTrue (.sees ?_) ?_)))
  · rw [hopen]
    rfl
  · exact (takes_angleArguments t ts h).bind fun as has => .pure ⟨as, rfl, has⟩

def PathType.InnerRead (g : Grammar) : PathType → Prop
  | .plain .. => True
  | .applied _ _ _ arg args => ∀ a ∈ arg :: args, ReadsType g true true a
  | .paren t => ReadsType g true false t

structure ReadsPath (g : Grammar) (ts : List Token) (t : TypeRef) (us : List Token) : Prop where
  begins : (∃ vs, ts = colons ++ vs) ∨ ∃ (n : PathName) (vs : List Token), ts = .ofWord n.word :: vs
  takes : Takes (g.path true) ts (fun p => p.qualified = false ∧
    TypeExpr.pathReference (TypeExpr.pathStart p.rooted) p.segments = some t) us

theorem readsPath (rooted : Bool) (front : List PathName) (last : PathName) {ts : List Token}
    {t : TypeRef} {P : Segment → Prop}
    (hlast : Takes (g.segment true) (.ofWord last.word :: ts) P us)
    (hend : Look.mark "::" us = false)
    (h : ∀ s, P s → TypeExpr.segmentReference (frontName (TypeExpr.pathStart rooted) front) s =
      some t) :
    ReadsPath g (pathFront rooted front ++ .ofWord last.word :: ts) t us := by
  have hbegins := pathFront_cases rooted front last ts
  refine ⟨hbegins, ?_⟩
  have hopen : Look.mark "<" (pathFront rooted front ++ .ofWord last.word :: ts) = false := by
    obtain ⟨vs, hvs⟩ | ⟨m, vs, hvs⟩ := hbegins <;> rw [hvs] <;> rfl
  unfold Grammar.path
  refine .ifFalse (.sees hopen) ((takes_plainPath rooted front (fun n _ v us => ?_) hlast
    hend).mono ?_)
  · exact takes_segment n true rfl rfl
  · rintro _ ⟨s, hs, rfl⟩
    exact ⟨rfl, (TypeExpr.pathReference_front _ front s).trans (h s hs)⟩

theorem takes_pathType {plus : Bool} {ts : List Token} {t : TypeRef} (h : ReadsPath g ts t us)
    (hend : EndsType us) : Takes (g.pathType plus false) ts (TypeExpr.StandsFor · t) us := by
  unfold Grammar.pathType
  refine h.takes.bind fun p hp => ?_
  obtain ⟨hqualified, hreference⟩ := hp
  dsimp only
  rw [if_neg (by simp [hqualified])]
  have hbang : Look.mark "!" us = false := hend.mark (by decide)
  refine .ifFalse (.sees (by simp [Grammar.callsMacro, Look.bang, hbang])) ?_
  rw [hqualified]
  cases plus with
  | true =>
    exact .ifFalse (.markNo (hend.mark (by decide)))
      (.pure (TypeExpr.standsFor_path hreference []))
  | false => exact .ifFalse (.pure rfl) (.pure (TypeExpr.standsFor_path hreference []))

theorem PathName.startsPath (n : PathName) (ts : List Token) :
    Grammar.startsPath (.ofWord n.word :: ts) = true := by
  have hfits := n.fits
  simp only [pathKeywords] at hfits
  simp only [Grammar.startsPath, Look.name, Look.pathWord, Look.words, Token.ofWord]
  cases h : Look.keywords.contains n.word.text with
  | false => rfl
  | true => rw [hfits h]; rfl

theorem takes_typeForm_path {plus : Bool} {ts : List Token} {t : TypeRef}
    (h : ReadsPath g ts t us) (hend : EndsType us) :
    Takes (g.typeForm plus) ts (TypeExpr.StandsFor · t) us := by
  obtain ⟨hfor, hparen, hfunction, hpath⟩ : Look.word "for" ts = false ∧ Look.paren ts = false ∧
      Grammar.startsFunctionType ts = false ∧ Grammar.startsPath ts = true := by
    obtain ⟨vs, rfl⟩ | ⟨n, vs, rfl⟩ := h.begins
    · exact ⟨rfl, rfl, rfl, rfl⟩
    · exact ⟨n.look_word _ (by decide), rfl, n.look_words _ (by decide), n.startsPath _⟩
  unfold Grammar.typeForm
  refine .seq (.unlessFalse (.wordNo hfor) (.pure rfl)) ?_
  refine .bind (.sees rfl) fun _ _ => ?_
  simp only [Bool.false_and, Bool.false_eq_true, if_false]
  exact .ifFalse (.sees hparen) (.ifFalse (.sees hfunction)
    (.ifTrue (.sees hpath) (takes_pathType h hend)))

theorem takes_typeForm_paren {plus : Bool} {t : PathType} (h : ReadsType g true false t)
    (hend : EndsType us) :
    Takes (g.typeForm plus) (.group .paren (t.tokens false) nowhere :: us)
      (TypeExpr.StandsFor · t.reference) us := by
  have hinner : Takes (g.type true) (t.tokens false) (TypeExpr.StandsFor · t.reference) [] := by
    simpa using h [] rfl
  have hinside : Takes g.parenInside (t.tokens false)
      (fun r => ∃ e : TypeExpr, r = .inner e ∧ e.StandsFor t.reference) [] := by
    obtain ⟨hempty, hlifetime, hquestion⟩ : (t.tokens false).isEmpty = false ∧
        Look.lifetime (t.tokens false) = false ∧ Look.mark "?" (t.tokens false) = false := by
      obtain ⟨vs, hvs⟩ | ⟨n, vs, hvs⟩ | ⟨content, hvs⟩ := t.tokens_cases false <;> rw [hvs] <;>
        exact ⟨rfl, rfl, rfl⟩
    unfold Grammar.parenInside
    refine .ifFalse (.atEnd hempty) (.ifFalse (.sees hlifetime) (.ifFalse (.sees hquestion) ?_))
    exact hinner.bind fun e he => .ifFalse (.markNo rfl) (.pure ⟨e, rfl, he⟩)
  have hplus : Look.mark "+" us = false := hend.mark (by decide)
  unfold Grammar.typeForm
  refine .seq (.unlessFalse (.wordNo rfl) (.pure rfl)) ?_
  refine .bind (.sees rfl) fun _ _ => ?_
  simp only [Bool.false_and, Bool.false_eq_true, if_false]
  refine .ifTrue (.sees rfl) (.bind (.inside hinside) ?_)
  rintro _ ⟨e, rfl, he⟩
  refine .seq (.sees hplus) ?_
  rw [Bool.and_false, if_neg Bool.false_ne_true]
  exact .pure fun ts => (TypeExpr.reference_paren e ts).trans he.reference

theorem takes_readType {plus joint : Bool} (t : PathType) (hend : EndsType us)
    (h : t.InnerRead g) :
    Takes (g.readType plus) (t.tokens joint ++ us) (TypeExpr.StandsFor · t.reference) us := by
  have hcolons : Look.mark "::" us = false := hend.mark (by decide)
  have hform : Takes (g.typeForm plus) (t.tokens joint ++ us) (TypeExpr.StandsFor · t.reference)
      us := by
    cases t with
    | plain rooted front last =>
      rw [PathType.tokens, List.append_assoc, List.singleton_append, PathType.reference]
      refine takes_typeForm_path (readsPath rooted front last
        (takes_segment last true (hend.mark (by decide)) (by rw [hcolons, Bool.false_and]))
        hcolons ?_) hend
      rintro _ rfl
      rw [TypeExpr.segmentReference, pathName]
    | applied rooted front last arg args =>
      rw [PathType.tokens, List.append_assoc, List.cons_append, List.cons_append,
        List.append_assoc, List.append_assoc, PathType.reference]
      refine takes_typeForm_path (readsPath rooted front last.toPath
        (takes_segment_applied last arg args h) hcolons ?_) hend
      rintro _ ⟨as, rfl, has⟩
      rw [TypeExpr.segmentReference, has, PathType.references, pathName]
    | paren t =>
      rw [PathType.tokens, List.singleton_append, PathType.reference]
      exact takes_typeForm_paren h hend
  refine hform.printing.bind ?_
  rintro ⟨e, printed⟩ he
  exact .pure (he.setPrinted printed)

theorem PathType.depth_le_depthAll {a : PathType} {ts : List PathType} (h : a ∈ ts) :
    a.depth ≤ depthAll ts := by
  induction ts with
  | nil => cases h
  | cons b ts ih =>
    rw [depthAll]
    rcases List.mem_cons.1 h with rfl | h
    · omega
    · have := ih h
      omega

theorem readsType_level {plus joint : Bool} (t : PathType) {n : Nat} (h : t.depth < n) :
    ReadsType (Grammar.level n) plus joint t := by
  induction n generalizing t plus joint with
  | zero => exact absurd h (Nat.not_lt_zero _)
  | succ n ih =>
    refine fun us hend => takes_readType t hend ?_
    cases t with
    | plain => trivial
    | applied rooted front last arg args =>
      intro a ha
      rw [PathType.depth] at h
      refine ih a ?_
      rcases List.mem_cons.1 ha with rfl | ha
      · omega
      · have := PathType.depth_le_depthAll ha
        omega
    | paren t =>
      rw [PathType.depth] at h
      exact ih t (by omega)

end Types

end AccessorGen.Source
