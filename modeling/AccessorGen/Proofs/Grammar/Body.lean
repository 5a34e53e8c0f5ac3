import AccessorGen.Proofs.Grammar.PathType

/-! Bodies of accessors: a field of the receiver that is cloned, and one that is assigned. -/

namespace AccessorGen.Source

open Token (bareAll nowhere)

def Word.self : Word := ⟨"self", by decide⟩

def PathName.self : PathName := ⟨.self, by decide⟩

def dot : Token := .mark '.' false nowhere

namespace Grammar

instance : Blind seesFloat := ⟨fun ts => by
  match ts with
  | [] => rfl
  | t :: ts => cases t <;> simp [seesFloat]⟩

instance : Blind startsItem := ⟨fun ts => by
  simp only [startsItem, look_bareAll (Look.word _), look_bareAll (Look.words _),
    look_bareAll (Look.second _), look_bareAll (Look.third _)]⟩

instance : Blind startsPathAtom :=
  inferInstanceAs (Blind fun ts => startsPath ts ||
    (Look.word "try" ts && Look.second (Look.marks ["!", "::"]) ts))

end Grammar

section Expressions

variable {g : Grammar} {us vs : List Token}

structure EndsOperand (us : List Token) : Prop where
  paren : Look.paren us = false
  bracket : Look.bracket us = false
  brace : Look.brace us = false
  marks : Look.marks ["::", "<", "!", "#", "?"] us = false

theorem EndsOperand.mark (h : EndsOperand us) {op : String}
    (hop : op ∈ ["::", "<", "!", "#", "?"]) : Look.mark op us = false := by
  have hno := List.any_eq_false.1 h.marks op hop
  simpa using hno

theorem takes_pathAtom (n : PathName) (structs : Bool) (hend : EndsOperand us) :
    Takes (g.pathAtom structs) (.ofWord n.word :: us) (· = .plain) us := by
  have hcolons : Look.mark "::" us = false := hend.mark (by decide)
  have hbang : Look.mark "!" us = false := hend.mark (by decide)
  have hsegment : Takes (g.segment false) (.ofWord n.word :: us) (fun _ => True) us :=
    (takes_segment n false (hend.mark (by decide)) (by rw [hcolons, Bool.false_and])).any
  have hpath : Takes (g.path false) (.ofWord n.word :: us) (fun _ => True) us :=
    .ifFalse (.sees rfl) (takes_plainPath false [] (by simp) hsegment hcolons).any
  unfold Grammar.pathAtom
  refine hpath.bind fun p _ => ?_
  refine .ifFalse (.sees (by simp [Grammar.callsMacro, Look.bang, hbang])) ?_
  refine .seq (.sees hend.brace) ?_
  simp only [Bool.and_false, Bool.false_eq_true, if_false]
  exact .pure rfl

theorem takes_simpleAtom (n : PathName) (structs : Bool) (hend : EndsOperand us) :
    Takes (g.simpleAtom? structs) (.ofWord n.word :: us) (· = false) (.ofWord n.word :: us) := by
  unfold Grammar.simpleAtom?
  refine .bind .tokens fun ts hts => ?_
  obtain ⟨s, ts, rfl, hrest⟩ := eq_word_cons hts
  have hhash : Look.mark "#" ts = false := by
    rw [look_eq (Look.mark "#") hrest, hend.mark (by decide)]
  simp (disch := decide) only [n.look_constant, hhash, Grammar.startsAsyncBlock,
    Grammar.startsClosure, Grammar.bindsParameters, n.look_word, n.look_words, Look.mark_word,
    Look.paren, Look.bracket, Look.group, Look.second, Look.skip, Bool.false_and, Bool.and_false,
    Bool.or_false, Bool.false_eq_true, if_false]
  unfold Grammar.jump?
  refine .bind .tokens fun ts hts => ?_
  obtain ⟨s, ts, rfl, -⟩ := eq_word_cons hts
  simp (disch := decide) only [n.look_word, Bool.false_eq_true, if_false]
  exact .pure rfl

theorem takes_atom (n : PathName) (structs : Bool) (hend : EndsOperand us) :
    Takes (g.atom structs) (.ofWord n.word :: us) (· = .plain) us := by
  refine .ifFalse (takes_simpleAtom n structs hend) (.ifTrue (.sees ?_) ?_)
  · rw [Grammar.startsPathAtom, n.startsPath, Bool.true_or]
  · exact takes_pathAtom n structs hend

theorem takes_member (n : Name) :
    Takes Grammar.member (.ofWord n.word :: us) (· = true) us := by
  unfold Grammar.member
  refine .bind .tokens fun ts hts => ?_
  obtain ⟨s, ts, rfl, -⟩ := eq_word_cons hts
  dsimp only
  rw [n.look_name]
  exact .skip (Takes.name n.free).discard (.pure rfl)

theorem takes_fieldAccess (n : Name) (hend : EndsOperand us) :
    Takes g.memberAccess (dot :: .ofWord n.word :: us) (fun _ => True) us := by
  unfold Grammar.memberAccess
  refine .skip (.mark rfl) (.ifFalse (.sees rfl) (.ifFalse (.wordNo (n.look_word _ (by decide)))
    (.seq (takes_member n) (.seq (.sees (hend.mark (by decide))) ?_))))
  simp only [Bool.and_false, Bool.false_eq_true, if_false]
  refine .seq (.sees hend.paren) ?_
  exact .pure trivial

theorem takes_methodCall (n : Name) :
    Takes g.memberAccess (dot :: .ofWord n.word :: .group .paren [] nowhere :: us)
      (fun _ => True) us := by
  unfold Grammar.memberAccess
  refine .skip (.mark rfl) (.ifFalse (.sees rfl) (.ifFalse (.wordNo (n.look_word _ (by decide)))
    (.seq (takes_member n) (.seq (.sees rfl) (.seq (.sees rfl) ?_)))))
  exact (Takes.inside (.ifTrue (.sees rfl) (.pure rfl))).discard

theorem takes_trailersFrom_end (n : Nat) (hend : EndsOperand us)
    (hpoint : Look.onePoint us = false) :
    Takes (g.trailersFrom n .plain) us (· = .plain) us := by
  cases n with
  | zero => exact .pure rfl
  | succ n =>
    have hquestion : Look.mark "?" us = false := hend.mark (by decide)
    refine .ifFalse (.sees hend.paren) (.seq (.sees hpoint) ?_)
    exact .ifFalse (.sees hend.bracket) (.seq (.sees hquestion) (.pure rfl))

theorem takes_trailersFrom_member {n : Nat} {ts : List Token}
    (h : Takes g.memberAccess (dot :: ts) (fun _ => True) us)
    (hrest : Takes (g.trailersFrom n .plain) us (· = .plain) vs) :
    Takes (g.trailersFrom (n + 1) .plain) (dot :: ts) (· = .plain) vs := by
  have hpoint : Look.onePoint (dot :: ts) = true := rfl
  exact .ifFalse (.sees rfl) (.seq (.sees hpoint) (h.skip hrest))

theorem takes_outer_none (h : Look.mark "#" us = false) : Takes g.outer us (· = []) us :=
  .manyWhileNone h

theorem takes_readUnary (n : PathName) (hend : EndsOperand us)
    (h : Takes (g.trailers .plain) us (· = .plain) vs) :
    Takes (g.readUnary true) (.ofWord n.word :: us) (· = .plain) vs := by
  unfold Grammar.readUnary
  refine .seq (takes_outer_none rfl) (.ifFalse (.markNo rfl) (.ifFalse (.sees rfl) ?_))
  exact .bind .here fun _ _ => .seq (takes_atom n true hend) (.seq h (.pure rfl))

theorem takes_unary_field (n : Name) (hend : EndsOperand us) (hpoint : Look.onePoint us = false) :
    Takes (g.readUnary true) (.ofWord .self :: dot :: .ofWord n.word :: us) (· = .plain) us := by
  refine takes_readUnary .self ⟨rfl, rfl, rfl, rfl⟩
    (.lengthTokens (f := fun k => g.trailersFrom k .plain) fun k hk => ?_)
  obtain ⟨k, rfl⟩ := Nat.exists_eq_succ_of_ne_zero (Nat.ne_of_gt (Nat.zero_lt_of_lt hk))
  exact takes_trailersFrom_member (takes_fieldAccess n hend) (takes_trailersFrom_end k hend hpoint)

theorem takes_unary_clone (n m : Name) : Takes (g.readUnary true)
    [.ofWord .self, dot, .ofWord n.word, dot, .ofWord m.word, .group .paren [] nowhere]
    (· = .plain) [] := by
  refine takes_readUnary .self ⟨rfl, rfl, rfl, rfl⟩
    (.lengthTokens (f := fun k => g.trailersFrom k .plain) fun k hk => ?_)
  obtain ⟨k, rfl⟩ : ∃ l, k = l + 2 := ⟨k - 2, by
    simp only [List.length_cons, List.length_nil] at hk
    omega⟩
  refine takes_trailersFrom_member (takes_fieldAccess n ⟨rfl, rfl, rfl, rfl⟩) ?_
  exact takes_trailersFrom_member (takes_methodCall m)
    (takes_trailersFrom_end k ⟨rfl, rfl, rfl, rfl⟩ rfl)

theorem takes_unary_name (n : Name) (hend : EndsOperand us) (hpoint : Look.onePoint us = false) :
    Takes (g.readUnary true) (.ofWord n.word :: us) (· = .plain) us :=
  takes_readUnary n.toPath hend (.lengthTokens (f := fun k => g.trailersFrom k .plain)
    fun k _ => takes_trailersFrom_end k hend hpoint)

theorem operator?_eq {ts : List Token} (h : bareAll ts = us) :
    Grammar.operator? ts = Grammar.operator? us := by
  simp only [Grammar.operator?, look_eq (Look.mark _) h]

structure EndsExpr (us : List Token) : Prop where
  operator : Grammar.operator? us = none
  assigns : Look.assigns us = false
  range : Look.mark ".." us = false
  cast : Look.word "as" us = false

theorem EndsExpr.nextPrecedence {ts : List Token} (hend : EndsExpr us) (h : bareAll ts = us) :
    Grammar.nextPrecedence ts = .jump := by
  have hoperator : Grammar.operator? ts = none := (operator?_eq h).trans hend.operator
  have hassigns : Look.assigns ts = false := (look_eq Look.assigns h).trans hend.assigns
  have hrange : Look.mark ".." ts = false := (look_eq (Look.mark "..") h).trans hend.range
  have hcast : Look.word "as" ts = false := (look_eq (Look.word "as") h).trans hend.cast
  simp [Grammar.nextPrecedence, hoperator, hassigns, hrange, hcast]

theorem takes_binaryFrom_end (n : Nat) (hend : EndsExpr us) :
    Takes (g.binaryFrom true .jump n .plain) us (· = .plain) us := by
  cases n with
  | zero => exact .pure rfl
  | succ n =>
    unfold Grammar.binaryFrom
    rw [if_neg (by decide)]
    refine .bind .tokens fun ts hts => ?_
    rw [operator?_eq hts, hend.operator]
    refine .seq (.sees hend.assigns) (.seq (.sees hend.range) (.seq (.sees hend.cast) ?_))
    exact .pure rfl

theorem takes_readBinary_end (hend : EndsExpr us) :
    Takes (g.readBinary true .jump .plain) us (· = .plain) us :=
  .lengthTokens (f := fun n => g.binaryFrom true .jump n .plain)
    fun n _ => takes_binaryFrom_end n hend

theorem takes_operand_end {p : Precedence} {ts : List Token} (hend : EndsExpr us)
    (h : Takes (g.unary true) ts (· = .plain) us) :
    Takes (g.operand true p) ts (· = .plain) us := by
  refine .seq h (.lengthTokens (f := fun n => g.operandFrom true p n .plain) fun n _ => ?_)
  cases n with
  | zero => exact .pure rfl
  | succ n =>
    refine .bind .tokens fun ts hts => ?_
    dsimp only
    rw [hend.nextPrecedence hts, if_neg (by cases p <;> decide)]
    exact .pure rfl

def equalsSign : Token := .mark '=' false nowhere

theorem takes_readBinary_assign {w : Word} {ts : List Token} (hend : EndsExpr us)
    (h : Takes (g.unary true) (.ofWord w :: ts) (· = .plain) us) :
    Takes (g.readBinary true .jump .plain) (equalsSign :: .ofWord w :: ts) (· = .plain) us := by
  refine .lengthTokens (f := fun n => g.binaryFrom true .jump n .plain) fun n hn => ?_
  obtain ⟨n, rfl⟩ := Nat.exists_eq_succ_of_ne_zero (Nat.ne_of_gt (Nat.zero_lt_of_lt hn))
  unfold Grammar.binaryFrom
  rw [if_neg (by decide)]
  refine .bind .tokens fun vs hvs => ?_
  have hoperator : Grammar.operator? (equalsSign :: .ofWord w :: ts) = none := by
    simp [Grammar.operator?, Grammar.operators, Look.mark, Look.operatorChars, equalsSign]
  have hassigns : Look.assigns (equalsSign :: .ofWord w :: ts) = true := rfl
  rw [operator?_eq hvs, hoperator]
  refine .seq (.sees hassigns) (.skip (.mark rfl) ?_)
  exact .skip (takes_operand_end hend h).discard (takes_binaryFrom_end n hend)

theorem takes_blockAtom (n : PathName) :
    Takes g.blockAtom? (.ofWord n.word :: us) (· = false) (.ofWord n.word :: us) := by
  unfold Grammar.blockAtom?
  refine .bind .tokens fun ts hts => ?_
  obtain ⟨s, ts, rfl, -⟩ := eq_word_cons hts
  simp (disch := decide) only [n.look_word, Look.brace, Look.group, Look.lifetime, Bool.false_and,
    Bool.or_false, Bool.false_eq_true, if_false]
  exact .pure rfl

theorem takes_readEarly (n : PathName) {ts : List Token}
    (hunary : Takes (g.unary true) (.ofWord n.word :: ts) (· = .plain) us)
    (hbinary : Takes (g.binary true .jump .plain) us (· = .plain) vs) :
    Takes g.readEarly (.ofWord n.word :: ts) (· = .plain) vs :=
  .skip (takes_outer_none rfl).discard (.ifFalse (takes_blockAtom n) (.seq hunary hbinary))

theorem takes_namePath {w : Word} (hw : Grammar.startsName (.ofWord w :: us) = true)
    (hend : Look.mark "::" us = false) :
    Takes Grammar.namePath (.ofWord w :: us) (· = [w]) us := by
  unfold Grammar.namePath
  refine .skip (Takes.markNo rfl).discard (.ifTrue (.sees hw) (.lengthTokens fun n hn => ?_))
  refine (Takes.chainLast (Nat.zero_lt_of_lt hn) .anyWord
    (.ifFalse (.markNo hend) (.pure rfl))).mono ?_
  rintro _ ⟨a, rfl, rfl⟩
  rfl

theorem takes_readStatement {ts : List Token}
    (h : Takes g.early (.ofWord .self :: dot :: ts) (· = .plain) us)
    (hend : us = [] ∨ us = [.mark ';' false nowhere]) :
    Takes g.readStatement (.ofWord .self :: dot :: ts) (fun _ => True) [] := by
  unfold Grammar.readStatement
  refine .skip (takes_outer_none rfl).discard ?_
  have hpath : Takes (do discard Grammar.namePath; Reader.tokens) (.ofWord .self :: dot :: ts)
      (fun a => bareAll a = dot :: ts) (dot :: ts) :=
    .skip (takes_namePath rfl rfl).discard .tokens
  refine hpath.peek.bind ?_
  rintro _ ⟨ahead, rfl, hahead⟩
  have hbang : Look.mark "!" ahead = false := (look_eq (Look.mark "!") hahead).trans rfl
  have hbrace : Grammar.callsBraceMacro ahead = false := by simp [Grammar.callsBraceMacro, hbang]
  have hitem : Grammar.callsItemMacro ahead = false := by simp [Grammar.callsItemMacro, hbang]
  simp only [Option.getD_some, hbrace, hitem, Bool.false_and, Bool.false_or, Bool.false_eq_true,
    if_false]
  refine .ifFalse (.sees rfl) (.ifFalse (.sees rfl) (.seq h ?_))
  rcases hend with rfl | rfl
  · exact .ifFalse (.markNo rfl) (.pure trivial)
  · exact .ifTrue (.markYes rfl) (.pure trivial)

theorem takes_statements {ts : List Token} (hts : Look.mark ";" ts = false) (hne : ts ≠ [])
    (h : Takes g.statement ts (fun _ => True) []) : Takes g.statements ts (fun _ => True) [] := by
  refine (@Takes.repeatOnce Unit () ts [] [] _ ?_ ?_ hne).discard
  · refine .skip (Takes.manyWhileNone hts).discard (.ifFalse (.atEnd (by simpa using hne)) ?_)
    refine h.bind fun b _ => ?_
    cases b with
    | false => exact .pure rfl
    | true => exact .unlessTrue (.atEnd rfl) (.pure rfl)
  · exact .skip (Takes.manyWhileNone rfl).discard (.ifTrue (.atEnd rfl) (.pure rfl))

end Expressions

end AccessorGen.Source
