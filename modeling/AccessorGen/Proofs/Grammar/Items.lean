import AccessorGen.Proofs.Grammar.Method
import AccessorGen.Proofs.Discovery.Silent

/-! The items of generated source: imports, structs, `impl` blocks and declarations of modules. The
grammar takes them, and what it makes of them has no marks but those of the generated attributes. -/

namespace AccessorGen.Source

open Token (bareAll nowhere)

namespace Word

def use : Word := ⟨"use", by decide⟩

def crate : Word := ⟨"crate", by decide⟩

def struct : Word := ⟨"struct", by decide⟩

def impl : Word := ⟨"impl", by decide⟩

def mod : Word := ⟨"mod", by decide⟩

def allow : Word := ⟨"allow", by decide⟩

def derive : Word := ⟨"derive", by decide⟩

def unusedImports : Word := ⟨"unused_imports", by decide⟩

def nonSnakeCase : Word := ⟨"non_snake_case", by decide⟩

end Word

namespace Name

def allow : Name := ⟨.allow, by decide⟩

def derive : Name := ⟨.derive, by decide⟩

end Name

section Attributes

variable {g : Grammar} {us : List Token}

def attributeTokens (n : Name) (content : List Token) : List Token :=
  [.mark '#' false nowhere,
    .group .bracket [.ofWord n.word, .group .paren content nowhere] nowhere]

instance : Blind Grammar.isGroup := ⟨fun ts => by
  match ts with
  | [] => rfl
  | t :: ts => cases t <;> simp [Grammar.isGroup]⟩

theorem takes_attribute (n : Name) (content : List Token) (hus : Look.mark "#" us = false) :
    Takes g.outer (attributeTokens n content ++ us) (· = [n.word.text]) us := by
  have hname : Grammar.startsName [.ofWord n.word, .group .paren content nowhere] = true :=
    Bool.or_eq_true_iff.2 (.inl (n.look_name _ _))
  have hpath : Takes Grammar.attributePath [.ofWord n.word, .group .paren content nowhere]
      (· = [n.word]) [.group .paren content nowhere] :=
    .ifFalse (.sees (n.look_word _ (by decide))) (takes_namePath hname rfl)
  have hbody : Takes g.attributeBody [.ofWord n.word, .group .paren content nowhere]
      (· = n.word.text) [] :=
    .seq hpath (.ifTrue (.sees rfl) (.skip Takes.anyGroup.discard (.pure rfl)))
  refine .manyWhileOne rfl hus (by simp [attributeTokens]) ?_
  exact .skip (.mark rfl) (.inside hbody)

abbrev Front := Option (Name × List Token)

def Front.tokens (front : Front) : List Token := front.elim [] fun a => attributeTokens a.1 a.2

def Front.marks (front : Front) : List String := (front.map (·.1.word.text)).toList

theorem takes_outer (front : Front) (hus : Look.mark "#" us = false) :
    Takes g.outer (front.tokens ++ us) (· = front.marks) us := by
  cases front with
  | none => exact takes_outer_none hus
  | some a => exact takes_attribute a.1 a.2 hus

end Attributes

def Item.IsLeaf (marks : List String) (i : Item) : Prop :=
  (∃ name, i = .module marks name []) ∨ ∃ d, i = .single marks d

theorem Item.IsLeaf.annotated {marks : List String} {i : Item} (h : i.IsLeaf marks)
    {marker : String} (hmarker : marker ∉ marks) : i.annotated marker = false := by
  obtain ⟨name, rfl⟩ | ⟨d, rfl⟩ := h
  · simp [Item.annotated, anyAnnotated, isAnnotated, Item.marks, hmarker]
  · cases d <;> simp [Item.annotated, isAnnotated, Item.marks, hmarker]

theorem Item.IsLeaf.addMarks {i : Item} (h : i.IsLeaf []) (outer : List String) :
    (i.addMarks outer).IsLeaf outer := by
  obtain ⟨name, rfl⟩ | ⟨d, rfl⟩ := h
  · exact .inl ⟨name, by rw [Item.addMarks, List.append_nil]⟩
  · exact .inr ⟨d, by rw [Item.addMarks, List.append_nil]⟩

section Items

variable {g : Grammar} {us : List Token}

theorem takes_readItem (front : Front) (form : Reader Item) {ts : List Token}
    (hhash : Look.mark "#" ts = false)
    (hahead : Takes (Reader.behind Grammar.visibility) ts
      (fun ahead => ∀ visible, g.itemForm visible ahead = form) ts)
    (hform : Takes form ts (Item.IsLeaf []) us) :
    Takes g.readItem (front.tokens ++ ts) (Item.IsLeaf front.marks) us := by
  refine .seq (takes_outer front hhash) (.bind (.sees rfl) fun visible _ => ?_)
  refine hahead.bind fun ahead hsame => ?_
  rw [hsame visible]
  exact hform.bind fun i hi => .pure (hi.addMarks _)

theorem takes_public (w : Word) (ts : List Token) {form : Reader Item}
    (h : ∀ s ts visible, g.itemForm visible (.word w s :: ts) = form) :
    Takes (Reader.behind Grammar.visibility) (.ofWord .pub :: .ofWord w :: ts)
      (fun ahead => ∀ visible, g.itemForm visible ahead = form)
      (.ofWord .pub :: .ofWord w :: ts) := by
  refine (takes_visibility w).behind.mono fun ahead hahead visible => ?_
  obtain ⟨s, ts, rfl, -⟩ := eq_word_cons hahead
  exact h s ts visible

theorem takes_visibility_none (h : Look.word "pub" us = false) :
    Takes Grammar.visibility us (· = false) us := .unlessFalse (.wordNo h) (.pure rfl)

theorem takes_private {w : Word} (hw : (w.text == "pub") = false) (ts : List Token)
    {form : Reader Item} (h : ∀ s ts visible, g.itemForm visible (.word w s :: ts) = form) :
    Takes (Reader.behind Grammar.visibility) (.ofWord w :: ts)
      (fun ahead => ∀ visible, g.itemForm visible ahead = form) (.ofWord w :: ts) := by
  have hvisible : Takes Grammar.visibility (.ofWord w :: ts) (· = false) (.ofWord w :: ts) :=
    takes_visibility_none hw
  refine hvisible.behind.mono fun ahead hahead visible => ?_
  obtain ⟨s, ts, rfl, -⟩ := eq_word_cons hahead
  exact h s ts visible

theorem takes_withInner {ts : List Token} {p : Reader (List String × Definition)}
    (h : Takes p ts (fun x => x.1 = []) us) :
    Takes (Grammar.withInner p) ts (Item.IsLeaf []) us := by
  refine h.bind ?_
  rintro ⟨marks, d⟩ rfl
  exact .pure (.inr ⟨d, rfl⟩)

theorem takes_bare {ts : List Token} {p : Reader Definition} (h : Takes p ts (fun _ => True) us) :
    Takes (Grammar.bare p) ts (fun x => x.1 = []) us := h.bind fun _ _ => .pure rfl

def moduleTokens (n : Name) : List Token :=
  [.ofWord .pub, .ofWord .mod, .ofWord n.word, .mark ';' false nowhere]

theorem takes_moduleTokens (n : Name) :
    Takes g.readItem (moduleTokens n ++ us) (Item.IsLeaf []) us := by
  refine takes_readItem none g.moduleItem rfl (takes_public .mod _ fun _ _ _ => rfl) ?_
  unfold Grammar.moduleItem
  refine .skip (takes_visibility .mod).discard (.skip (Takes.wordNo rfl).discard
    (.skip (.word rfl) (.ifFalse (.sees (n.look_word _ (by decide)))
    (.seq (.name n.free) (.ifTrue (.markYes rfl) (.pure (.inl ⟨_, rfl⟩)))))))

def starTokens : List Name → List Token
  | [] => [.mark ':' true nowhere, .mark ':' true nowhere, .mark '*' true nowhere]
  | n :: ns => colons ++ .ofWord n.word :: starTokens ns

theorem takes_useTree {w : Word} (hw : (Look.name [.ofWord w] ||
      Look.words ["self", "super", "crate", "try"] [.ofWord w]) = true)
    (names : List Name) {n : Nat} (h : names.length + 2 ≤ n) (rooted : Bool) :
    Takes ((Grammar.level n).useTree rooted) (.ofWord w :: (starTokens names ++ us))
      (fun _ => True) us := by
  induction names generalizing w n rooted with
  | nil =>
    obtain ⟨n, rfl⟩ : ∃ m, n = m + 2 := ⟨n - 2, by simp at h; omega⟩
    refine .ifTrue (.sees hw) (.skip Takes.anyWord.discard (.ifTrue (.markYes rfl) ?_))
    exact .ifFalse (.sees rfl) (.ifTrue (.markYes rfl) (.pure trivial))
  | cons m names ih =>
    rw [List.length_cons] at h
    obtain ⟨n, rfl⟩ : ∃ m, n = m + 1 := ⟨n - 1, by omega⟩
    have hm : (Look.name [.ofWord m.word] ||
        Look.words ["self", "super", "crate", "try"] [.ofWord m.word]) = true :=
      Bool.or_eq_true_iff.2 (.inl (m.look_name _ _))
    refine .ifTrue (.sees hw) (.skip Takes.anyWord.discard (.ifTrue (.markYes rfl) ?_))
    exact ih hm (by omega) false

def importTokens (names : List Name) : List Token :=
  .ofWord .use :: .ofWord .crate :: (starTokens names ++ [.mark ';' false nowhere])

theorem takes_useItem (names : List Name) {n : Nat} (h : names.length + 2 ≤ n) :
    Takes ((Grammar.level n).useItem) (importTokens names ++ us) (fun _ => True) us := by
  rw [importTokens, List.cons_append, List.cons_append, List.append_assoc]
  unfold Grammar.useItem
  refine .skip (takes_visibility_none rfl).discard (.skip (.word rfl) (.seq (.markNo rfl) ?_))
  exact (takes_useTree rfl names h true).bind fun _ _ => .skip (.mark rfl) (.pure trivial)

/-- The tokens of a private field with the comma behind it left out. -/
def FieldSyntax.tokens (f : FieldSyntax) : List Token :=
  .ofWord f.name.word :: .mark ':' false nowhere :: f.type.tokens true

def comma : Token := .mark ',' false nowhere

def structTokens (name : Name) (fields : List FieldSyntax) : List Token :=
  [.ofWord .pub, .ofWord .struct, .ofWord name.word,
    .group .brace (fields.flatMap fun f => f.tokens ++ [comma]) nowhere]

instance : Blind Grammar.startsNestedFields :=
  inferInstanceAs (Blind fun ts => Look.word "struct" ts ||
    (Look.word "union" ts && Look.second Look.brace ts))

theorem takes_namedFields {fields : List FieldSyntax}
    (h : ∀ f ∈ fields, ReadsType g true true f.type) :
    Takes g.namedFields
      (.group .brace (fields.flatMap fun f => f.tokens ++ [comma]) nowhere :: us)
      (fun _ => True) us := by
  unfold Grammar.namedFields
  refine .bind .tokens fun ts _ => ?_
  rw [Grammar.namedFieldsAt]
  refine (Takes.inside (.commas (P := fun _ => True) fields fun f hf us' => ?_)).any
  have hword : ∀ {k} us, Look.keywords.contains k = true →
      Look.word k (.ofWord f.name.word :: us) = false := fun us hk => f.name.look_word us hk
  have htype : Takes (g.fieldType false (discard (g.namedFieldsAt (Token.sizeAll ts))))
      (f.type.tokens true ++ comma :: us') (fun _ => True) (comma :: us') := by
    refine .bind (.sees rfl) fun _ _ => ?_
    simp only [Bool.false_and, Bool.false_eq_true, if_false]
    exact (h f hf (comma :: us') rfl).any
  refine .skip (takes_outer_none rfl).discard
    (.skip (takes_visibility_none (hword _ (by decide))).discard
    (.seq (.sees (hword _ (by decide))) (.seq (.name f.name.free) (.skip (.mark rfl) ?_))))
  exact htype.bind fun _ _ => .pure trivial

theorem takes_structItem (name : Name) {fields : List FieldSyntax}
    (h : ∀ f ∈ fields, ReadsType g true true f.type) :
    Takes g.structItem (structTokens name fields ++ us) (fun _ => True) us := by
  unfold Grammar.structItem
  refine .skip (takes_visibility .struct).discard (.skip (.word rfl) (.seq (.name name.free)
    (.skip (takes_generics_none rfl).discard ?_)))
  refine .bind (P := fun _ => True) ?_ fun _ _ => .pure trivial
  unfold Grammar.structFields
  refine .seq (takes_whereClause_none rfl) (.seq (.sees rfl) (.ifTrue (.sees rfl) ?_))
  exact (takes_namedFields h).bind fun _ _ => .pure trivial

def implTokens (name : Name) (fields : List FieldSyntax) : List Token :=
  [.ofWord .impl, .ofWord name.word, .group .brace
    (fields.flatMap fun f => f.getterTokens ++ f.setterTokens) nowhere]

instance : Blind Grammar.startsConst :=
  inferInstanceAs (Blind fun ts => Look.word "const" ts ||
    (Look.mark "?" ts && Look.second (Look.word "const") ts))

instance : Blind Grammar.startsGenerics := ⟨fun ts => by
  simp only [Grammar.startsGenerics, look_bareAll (Look.mark _), look_bareAll (Look.second _)]⟩

theorem takes_members (fields : List FieldSyntax) {n : Nat}
    (h : ∀ f ∈ fields, f.type.depth < n) :
    Takes (Reader.many (Grammar.level (n + 4)).implMember)
      (fields.flatMap fun f => f.getterTokens ++ f.setterTokens) (fun _ => True) [] := by
  have hflat : (fields.flatMap fun f => f.getterTokens ++ f.setterTokens) =
      (fields.flatMap fun f => [f.getterTokens, f.setterTokens]).flatMap id := by
    rw [List.flatMap_assoc]
    simp
  rw [hflat]
  refine (Takes.many (P := fun _ => True) _ ?_ ?_).any
  · simp only [List.mem_flatMap, List.mem_cons, List.not_mem_nil, or_false]
    rintro _ ⟨f, -, rfl | rfl⟩ <;> simp [FieldSyntax.getterTokens, FieldSyntax.setterTokens]
  · simp only [List.mem_flatMap, List.mem_cons, List.not_mem_nil, or_false]
    rintro _ ⟨f, hf, rfl | rfl⟩ us
    · exact takes_getterTokens f (Nat.lt_succ_of_lt (h f hf)) us
    · exact takes_setterTokens f (h f hf) us

theorem takes_implItem (name : Name) (fields : List FieldSyntax) {n : Nat}
    (h : ∀ f ∈ fields, f.type.depth < n) :
    Takes (Grammar.level (n + 4)).implItem (implTokens name fields ++ us)
      (fun x => x.1 = []) us := by
  have hname : ReadsType (Grammar.level (n + 4)) true false (.plain false [] name.toPath) :=
    readsType_level _ (by simp [PathType.depth])
  have hself : Takes ((Grammar.level (n + 4)).type true) (.ofWord name.word :: .group .brace
      (fields.flatMap fun f => f.getterTokens ++ f.setterTokens) nowhere :: us) (fun _ => True)
      (.group .brace (fields.flatMap fun f => f.getterTokens ++ f.setterTokens) nowhere :: us) :=
    (hname (.group .brace _ nowhere :: us) rfl).any
  unfold Grammar.implItem
  refine .seq (takes_visibility_none rfl) (.skip (Takes.wordNo rfl).discard
    (.skip (Takes.wordNo rfl).discard (.skip (.word rfl) (.ifFalse (.sees rfl) ?_))))
  have hconst : ∀ us, Grammar.startsConst (.ofWord name.word :: us) = false := fun us =>
    Bool.or_eq_false_iff.2 ⟨name.look_word us (by decide), rfl⟩
  refine .seq (.sees (hconst _)) (.bind .here fun _ _ => .seq (.sees rfl) ?_)
  refine hself.bind fun first _ => .seq (.wordNo rfl) (.seq (.pure rfl)
    (.skip (takes_whereClause_none rfl).discard ?_))
  have hinner : Takes (Grammar.level (n + 4)).inner
      (fields.flatMap fun f => f.getterTokens ++ f.setterTokens) (· = [])
      (fields.flatMap fun f => f.getterTokens ++ f.setterTokens) := by
    refine .manyWhileNone ?_
    cases fields <;> rfl
  refine .bind (P := fun x => x.1 = []) (.inside (.seq hinner ((takes_members fields h).bind
    fun _ _ => .pure rfl))) ?_
  rintro ⟨marks, members⟩ rfl
  exact .pure rfl

theorem readAll_of_takes {α : Type} {p : Grammar → Reader α} {ts us : List Token}
    {P : α → Prop} (hbare : bareAll ts = us)
    (h : Takes (p (Grammar.level (4 * Token.sizeAll us + 16))) us P []) :
    ∃ a, readAll p ts = .ok a ∧ P a := by
  have hsize : Token.sizeAll ts = Token.sizeAll us := by rw [← hbare, Token.sizeAll_bareAll]
  obtain ⟨a, c, hrun, ha, hrest, hstray⟩ := h { rest := ts, close := ⟨0, 0⟩ } hbare
  have hnil : c.rest = [] := by
    rw [← List.length_eq_zero_iff, ← Token.length_bareAll, hrest]
    rfl
  refine ⟨a, ?_, ha⟩
  rw [readAll, Grammar.forTokens, hsize, hrun]
  simp only [hstray, hnil]

structure PlainPath where
  rooted : Bool
  front : List PathName
  last : PathName

def PlainPath.tokens (p : PlainPath) : List Token :=
  pathFront p.rooted p.front ++ [.ofWord p.last.word]

structure CompanionSyntax where
  space : List Name
  derives : List PlainPath
  name : Name
  fields : List FieldSyntax

namespace CompanionSyntax

def importFront : Front := some (.allow, [.ofWord .unusedImports])

def deriveFront (c : CompanionSyntax) : Front :=
  match c.derives with
  | [] => none
  | p :: ps => some (.derive, p.tokens ++ ps.flatMap fun q => comma :: q.tokens)

def implFront (c : CompanionSyntax) : Front :=
  if c.fields.isEmpty then none else some (.allow, [.ofWord .nonSnakeCase])

def itemTokens (c : CompanionSyntax) : List (List Token) :=
  [importFront.tokens ++ importTokens c.space,
    c.deriveFront.tokens ++ structTokens c.name c.fields,
    c.implFront.tokens ++ implTokens c.name c.fields]

def levels (c : CompanionSyntax) : Nat :=
  c.space.length + PathType.depthAll (c.fields.map FieldSyntax.type) + 6

theorem depth_lt_levels {c : CompanionSyntax} {f : FieldSyntax} (h : f ∈ c.fields) :
    f.type.depth + 6 ≤ c.levels := by
  have hdepth := PathType.depth_le_depthAll (List.mem_map_of_mem (f := FieldSyntax.type) h)
  rw [levels]
  omega

end CompanionSyntax

theorem takes_itemTokens (c : CompanionSyntax) {n : Nat} (h : c.levels ≤ n) :
    ∀ ts ∈ c.itemTokens, ∀ us, Takes ((Grammar.level n).item) (ts ++ us)
      (fun i => ∃ marks : List String, marks ⊆ ["allow", "derive"] ∧ i.IsLeaf marks) us := by
  obtain ⟨n, rfl⟩ : ∃ m, n = m + 5 := ⟨n - 5, by rw [CompanionSyntax.levels] at h; omega⟩
  have hdepth : ∀ f ∈ c.fields, f.type.depth < n := fun f hf => by
    have := CompanionSyntax.depth_lt_levels hf
    omega
  have hspace : c.space.length + 2 ≤ n + 4 := by
    rw [CompanionSyntax.levels] at h
    omega
  simp only [CompanionSyntax.itemTokens, List.mem_cons, List.not_mem_nil, or_false]
  rintro _ (rfl | rfl | rfl) us <;> rw [List.append_assoc]
  · refine (takes_readItem CompanionSyntax.importFront
      (Grammar.withInner (Grammar.bare (Grammar.level (n + 4)).useItem)) rfl
      (takes_private rfl _ fun _ _ _ => rfl) ?_).mono fun i hi => ⟨_, by decide, hi⟩
    exact takes_withInner (takes_bare (takes_useItem c.space hspace))
  · refine (takes_readItem c.deriveFront
      (Grammar.withInner (Grammar.bare (Grammar.level (n + 4)).structItem)) rfl
      (takes_public .struct _ fun _ _ _ => rfl) ?_).mono fun i hi => ⟨_, ?_, hi⟩
    · refine takes_withInner (takes_bare (takes_structItem c.name fun f hf => ?_))
      exact readsType_level f.type (Nat.lt_add_right 4 (hdepth f hf))
    · cases hderives : c.derives <;> simp [CompanionSyntax.deriveFront, hderives, Front.marks,
        Name.derive, Word.derive]
  · refine (takes_readItem c.implFront
      (Grammar.withInner (Grammar.level (n + 4)).implItem) rfl
      (takes_private rfl _ fun _ _ _ => rfl) ?_).mono fun i hi => ⟨_, ?_, hi⟩
    · exact takes_withInner (takes_implItem c.name c.fields hdepth)
    · rw [CompanionSyntax.implFront]
      split <;> simp [Front.marks, Name.allow, Word.allow]

theorem takes_items (marks : List String) (parts : List (List Token)) {n : Nat}
    (hne : ∀ ts ∈ parts, ts ≠ [])
    (hinner : (Look.mark "#" parts.flatten && Look.second (Look.mark "!") parts.flatten) = false)
    (h : ∀ ts ∈ parts, ∀ us, Takes ((Grammar.level n).item) (ts ++ us)
      (fun i => ∃ ms : List String, ms ⊆ marks ∧ i.IsLeaf ms) us) {marker : String}
    (hmarker : marker ∉ marks) :
    Takes (items (Grammar.level n)) parts.flatten
      (fun is => anyAnnotated marker is = false) [] := by
  have hmany := Takes.many parts hne h
  rw [List.flatMap_id'] at hmany
  refine .skip (Takes.manyWhileNone hinner).discard (hmany.mono fun is his => ?_)
  induction is with
  | nil => rfl
  | cons i is ih =>
    obtain ⟨⟨ms, hms, hi⟩, his⟩ := List.forall_mem_cons.1 his
    rw [anyAnnotated, hi.annotated fun hin => hmarker (hms hin), ih his]
    rfl

end Items

end AccessorGen.Source
