import AccessorGen.Proofs.Grammar.Body

/-! Accessors as members of an `impl` block: a getter that lends the receiver and gives the type of
a field, and a setter that lends it to be changed and takes a value of that type. -/

namespace AccessorGen.Source

open Token (bareAll nowhere)

namespace Word

def pub : Word := ⟨"pub", by decide⟩

def fn : Word := ⟨"fn", by decide⟩

def mutable : Word := ⟨"mut", by decide⟩

def clone : Word := ⟨"clone", by decide⟩

end Word

def Name.clone : Name := ⟨.clone, by decide⟩

section Bodies

/-- The tokens of `self.x.clone()`. -/
def cloneTokens (n : Name) : List Token :=
  [.ofWord .self, dot, .ofWord n.word, dot, .ofWord .clone, .group .paren [] nowhere]

/-- The tokens of `self.x = x;`. -/
def assignTokens (n : Name) : List Token :=
  [.ofWord .self, dot, .ofWord n.word, equalsSign, .ofWord n.word, .mark ';' false nowhere]

theorem takes_cloneTokens (n : Name) (k : Nat) :
    Takes (Grammar.level (k + 3)).statements (cloneTokens n) (fun _ => True) [] := by
  refine takes_statements rfl (by simp [cloneTokens]) (takes_readStatement ?_ (.inl rfl))
  exact takes_readEarly .self (takes_unary_clone n .clone)
    (takes_readBinary_end ⟨rfl, rfl, rfl, rfl⟩)

theorem takes_assignTokens (n : Name) (k : Nat) :
    Takes (Grammar.level (k + 4)).statements (assignTokens n) (fun _ => True) [] := by
  have hend : EndsExpr [.mark ';' false nowhere] := ⟨by decide, rfl, rfl, rfl⟩
  refine takes_statements rfl (by simp [assignTokens]) (takes_readStatement ?_ (.inr rfl))
  refine takes_readEarly .self (takes_unary_field n ⟨rfl, rfl, rfl, rfl⟩ rfl) ?_
  exact takes_readBinary_assign hend (takes_unary_name n ⟨rfl, rfl, rfl, rfl⟩ rfl)

end Bodies

section Signatures

variable {g : Grammar} {us vs : List Token}

/-- The tokens of `&self` or `&mut self`. -/
def receiverTokens (exclusive : Bool) : List Token :=
  .mark '&' false nowhere :: ((if exclusive then [.ofWord .mutable] else []) ++ [.ofWord .self])

theorem takes_receiver (exclusive : Bool) :
    Takes g.receiver (receiverTokens exclusive ++ us) (fun _ => True) us := by
  have hlifetime : ∀ w ts, Takes Reader.lifetime? (.ofWord w :: ts) (· = false) (.ofWord w :: ts) :=
    fun w ts => .ifFalse (.sees rfl) (.pure rfl)
  have hself : ∀ ts, Takes (Reader.word "self") (.ofWord .self :: ts) (fun _ => True) ts :=
    fun ts => .word rfl
  unfold Grammar.receiver
  refine .seq (.markYes rfl) ?_
  cases exclusive with
  | true =>
    exact .skip (hlifetime _ _).discard (.skip (Takes.wordYes rfl).discard (.skip (hself _)
      (.pure trivial)))
  | false =>
    exact .skip (hlifetime _ _).discard (.skip (Takes.wordNo rfl).discard (.skip (hself _)
      (.pure trivial)))

theorem takes_functionInputs_receiver (exclusive : Bool) {n : Nat}
    (h : us = [] ∨ ∃ ts, us = .mark ',' false nowhere :: ts ∧
      Takes (g.functionInputs false n) ts (fun _ => True) []) :
    Takes (g.functionInputs true (n + 1)) (receiverTokens exclusive ++ us) (fun _ => True) [] := by
  unfold Grammar.functionInputs
  refine .ifFalse (.atEnd rfl) (.skip (takes_outer_none rfl).discard (.ifFalse (.markNo rfl) ?_))
  refine .bind .here fun _ _ => (takes_receiver exclusive).attemptYes.bind ?_
  rintro _ ⟨⟨⟩, rfl, -⟩
  rcases h with rfl | ⟨ts, rfl, hts⟩
  · exact .ifTrue (.atEnd rfl) (.pure trivial)
  · exact .ifFalse (.atEnd rfl) (.skip (.mark rfl) (.skip hts.discard (.pure trivial)))

instance : Blind Grammar.beginsPathPattern := ⟨fun ts => by
  simp only [Grammar.beginsPathPattern, look_bareAll Look.name, look_bareAll (Look.word _),
    look_bareAll (Look.words _), look_bareAll (Look.marks _), look_bareAll (Look.second _)]⟩

theorem takes_pattern_name (n : Name) :
    Takes g.readPattern (.ofWord n.word :: .mark ':' false nowhere :: us) (fun _ => True)
      (.mark ':' false nowhere :: us) := by
  have hself : Look.word "self" (.ofWord n.word :: .mark ':' false nowhere :: us) = false :=
    n.look_word _ (by decide)
  have hwords : ∀ ks, (∀ k ∈ ks, Look.keywords.contains k = true) →
      Look.words ks (.ofWord n.word :: .mark ':' false nowhere :: us) = false :=
    fun ks => n.look_words _
  have hpath : Grammar.beginsPathPattern (.ofWord n.word :: .mark ':' false nowhere :: us) =
      false := by
    have hsecond : Look.second (fun r => Look.marks ["::", "!", ".."] r || Look.brace r ||
      Look.paren r) (.ofWord n.word :: .mark ':' false nowhere :: us) = false := rfl
    rw [Grammar.beginsPathPattern, hsecond, hself, hwords _ (by decide)]
    simp [Token.ofWord]
  have hconstant : (Look.mark "-" (.ofWord n.word :: .mark ':' false nowhere :: us) ||
      Look.constant (.ofWord n.word :: .mark ':' false nowhere :: us) ||
      Look.word "const" (.ofWord n.word :: .mark ':' false nowhere :: us)) = false := by
    rw [Bool.or_eq_false_iff, Bool.or_eq_false_iff]
    exact ⟨⟨rfl, n.toPath.look_constant _ _⟩, n.look_word _ (by decide)⟩
  have hnamed : (Look.words ["ref", "mut", "self"] (.ofWord n.word :: .mark ':' false nowhere :: us)
      || Look.name (.ofWord n.word :: .mark ':' false nowhere :: us)) = true :=
    Bool.or_eq_true_iff.2 (.inr (n.look_name _ _))
  have hform : Takes g.namePattern (.ofWord n.word :: .mark ':' false nowhere :: us)
      (fun _ => True) (.mark ':' false nowhere :: us) :=
    .skip (Takes.wordNo (n.look_word _ (by decide))).discard
      (.skip (Takes.wordNo (n.look_word _ (by decide))).discard
      (.unlessFalse (.wordNo hself)
      (.skip (Takes.name n.free).discard (.ifFalse (.markNo rfl) (.pure trivial)))))
  unfold Grammar.readPattern
  exact .ifFalse (.sees hpath) (.ifFalse (.wordNo (n.look_word _ (by decide)))
    (.ifFalse (.sees (n.look_word _ (by decide))) (.ifFalse (.sees hconstant)
    (.ifTrue (.sees hnamed) (.skip hform (.pure trivial))))))

theorem takes_functionInputs_typed (name : Name) (t : PathType) {n : Nat}
    (hpattern : Takes g.pattern
      (.ofWord name.word :: .mark ':' false nowhere :: t.tokens false) (fun _ => True)
      (.mark ':' false nowhere :: t.tokens false))
    (htype : ReadsType g true false t) :
    Takes (g.functionInputs false (n + 1))
      (.ofWord name.word :: .mark ':' false nowhere :: t.tokens false) (fun _ => True) [] := by
  unfold Grammar.functionInputs
  have hreceiver : Refuses g.receiver
      (.ofWord name.word :: .mark ':' false nowhere :: t.tokens false) := by
    refine .bind (.markNo rfl) fun b hb => ?_
    subst hb
    refine .bind (Takes.wordNo (name.look_word _ (by decide))).discard fun _ _ => ?_
    exact .bindLeft (.word (name.look_word _ (by decide)))
  have hend : Takes (g.type true) (t.tokens false) (fun _ => True) [] := by
    simpa using (htype [] rfl).any
  have hvariadic : Look.mark "..." (t.tokens false) = false := by
    obtain ⟨ts, hts⟩ | ⟨n, ts, hts⟩ | ⟨content, hts⟩ := t.tokens_cases false <;> rw [hts] <;> rfl
  refine .ifFalse (.atEnd rfl) (.skip (takes_outer_none rfl).discard (.ifFalse (.markNo rfl) ?_))
  refine .bind .here fun _ _ => .seq (.attemptNo hreceiver) ?_
  refine .ifFalse (.sees ?_) (.skip hpattern.discard (.skip (.mark rfl)
    (.ifFalse (.markNo hvariadic) (.skip hend.discard (.ifTrue (.atEnd rfl) (.pure trivial))))))
  exact Bool.and_eq_false_iff.2 (.inr rfl)

theorem takes_generics_none (h : Look.mark "<" us = false) : Takes g.generics us (· = false) us :=
  .unlessFalse (.sees h) (.pure rfl)

theorem takes_whereClause_none (h : Look.word "where" us = false) :
    Takes g.whereClause us (· = false) us := .unlessFalse (.wordNo h) (.pure rfl)

def outputTokens : Option PathType → List Token
  | some t => .mark '-' true nowhere :: .mark '>' false nowhere :: t.tokens false
  | none => []

theorem takes_output (out : Option PathType) (h : ∀ t ∈ out, ReadsType g true false t)
    (hend : EndsType us) (harrow : Look.mark "->" us = false) :
    Takes (g.output true) (outputTokens out ++ us) (fun _ => True) us := by
  cases out with
  | none => exact .ifFalse (.markNo harrow) (.pure trivial)
  | some t => exact .ifTrue (.markYes rfl) ((h t rfl us hend).bind fun _ _ => .pure trivial)

def functionTokens (name : Name) (inputs : List Token) (out : Option PathType)
    (body : List Token) : List Token :=
  .ofWord .fn :: .ofWord name.word :: .group .paren inputs nowhere ::
    (outputTokens out ++ [.group .brace body nowhere])

theorem takes_signature (name : Name) {inputs body : List Token} {out : Option PathType}
    (hinputs : ∀ n, inputs.length < n →
      Takes (g.functionInputs true n) inputs (fun _ => True) [])
    (hout : ∀ t ∈ out, ReadsType g true false t) :
    Takes (g.signature false) (functionTokens name inputs out body ++ us) (fun _ => True)
      (.group .brace body nowhere :: us) := by
  have hbody : Takes (g.output true)
      (outputTokens out ++ [.group .brace body nowhere] ++ us) (fun _ => True)
      (.group .brace body nowhere :: us) := by
    rw [List.append_assoc]
    exact takes_output out hout rfl rfl
  unfold Grammar.signature
  refine .skip (Takes.wordNo rfl).discard (.skip (Takes.wordNo rfl).discard
    (.seq (.pure rfl) (.skip (Takes.wordNo rfl).discard ?_)))
  refine .skip (P := fun _ => True) (.ifFalse (.wordNo rfl) (.pure trivial)) (.skip (.word rfl)
    (.seq (.name name.free) (.skip (takes_generics_none rfl).discard ?_)))
  refine .bind (Takes.inside (.lengthTokens (f := fun n => g.functionInputs true n) hinputs))
    fun _ _ => ?_
  exact hbody.bind fun _ _ => .skip (takes_whereClause_none rfl).discard (.pure trivial)

theorem takes_visibility (w : Word) :
    Takes Grammar.visibility (.ofWord .pub :: .ofWord w :: us) (· = true) (.ofWord w :: us) := by
  unfold Grammar.visibility
  refine .unlessTrue (.wordYes rfl) (.bind .tokens fun ts hts => ?_)
  obtain ⟨s, ts, rfl, -⟩ := eq_word_cons hts
  exact .pure rfl

theorem takes_implMember (name : Name) {inputs body : List Token} {out : Option PathType}
    (hinputs : ∀ n, inputs.length < n →
      Takes (g.functionInputs true n) inputs (fun _ => True) [])
    (hout : ∀ t ∈ out, ReadsType g true false t)
    (hhash : Look.mark "#" body = false)
    (hbody : Takes g.statements body (fun _ => True) []) :
    Takes g.implMember (.ofWord .pub :: (functionTokens name inputs out body ++ us))
      (fun _ => True) us := by
  have hblock : Takes g.body (.group .brace body nowhere :: us) (fun _ => True) us := by
    refine .inside (.seq (.manyWhileNone ?_) (.skip hbody (.pure trivial)))
    rw [hhash, Bool.false_and]
  have hvisible : Takes Grammar.visibility
      (.ofWord .pub :: (functionTokens name inputs out body ++ us)) (· = true)
      (functionTokens name inputs out body ++ us) := takes_visibility .fn
  unfold Grammar.implMember
  refine .skip (takes_outer_none rfl).discard (.seq (.sees rfl) (hvisible.behind.bind ?_))
  intro ahead hahead
  obtain ⟨s, ts, rfl, -⟩ := eq_word_cons hahead
  have hdefault : Grammar.startsDefault (.word .fn s :: ts) = false := rfl
  have hfunction : Grammar.startsFunction false (.word .fn s :: ts) = true := rfl
  simp only [hdefault, Bool.false_eq_true, if_false, hfunction, if_true]
  refine .skip hvisible.discard (.skip (Takes.wordNo rfl).discard ?_)
  exact (takes_signature name hinputs hout).bind fun _ _ =>
    .ifFalse (.markNo rfl) (.skip hblock.discard (.pure trivial))

end Signatures

section Accessors

structure FieldSyntax where
  name : Name
  type : PathType
  getter : Name
  setter : Name

namespace FieldSyntax

def getterTokens (f : FieldSyntax) : List Token :=
  .ofWord .pub :: functionTokens f.getter (receiverTokens false) (some f.type) (cloneTokens f.name)

def setterTokens (f : FieldSyntax) : List Token :=
  .ofWord .pub :: functionTokens f.setter
    (receiverTokens true ++ .mark ',' false nowhere :: .ofWord f.name.word ::
      .mark ':' false nowhere :: f.type.tokens false)
    none (assignTokens f.name)

end FieldSyntax

theorem takes_getterTokens (f : FieldSyntax) {n : Nat} (h : f.type.depth < n) (us : List Token) :
    Takes (Grammar.level (n + 3)).implMember (f.getterTokens ++ us) (fun _ => True) us := by
  refine takes_implMember f.getter (fun k hk => ?_) ?_ rfl (takes_cloneTokens f.name n)
  · obtain ⟨k, rfl⟩ := Nat.exists_eq_succ_of_ne_zero (Nat.ne_of_gt (Nat.zero_lt_of_lt hk))
    exact takes_functionInputs_receiver false (.inl rfl)
  · rintro _ ⟨⟩
    exact readsType_level f.type (by omega)

theorem takes_setterTokens (f : FieldSyntax) {n : Nat} (h : f.type.depth < n) (us : List Token) :
    Takes (Grammar.level (n + 4)).implMember (f.setterTokens ++ us) (fun _ => True) us := by
  refine takes_implMember f.setter (fun k hk => ?_) (by rintro _ ⟨⟩) rfl
    (takes_assignTokens f.name n)
  obtain ⟨k, rfl⟩ : ∃ l, k = l + 2 := ⟨k - 2, by
    simp only [receiverTokens, List.length_append, List.length_cons] at hk
    omega⟩
  refine takes_functionInputs_receiver true (.inr ⟨_, rfl, ?_⟩)
  exact takes_functionInputs_typed f.name f.type (takes_pattern_name f.name)
    (readsType_level f.type (by omega))

end Accessors

end AccessorGen.Source
