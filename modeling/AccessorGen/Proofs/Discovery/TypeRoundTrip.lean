import AccessorGen.Proofs.Grammar.Measures
import AccessorGen.Proofs.Grammar.PathNames
import AccessorGen.Proofs.Render.TextReads

/-! Types that are written and read back. A type built of named and generic types comes back from
its text as it was, however many parentheses stand around it and around the types inside it. -/

namespace AccessorGen

open Source
open Source.Token (flatAll sizeAll)

namespace Source

theorem toList_frontName (start : String) (front : List PathName) :
    (frontName start front).toList =
      start.toList ++ front.flatMap fun n => n.word.text.toList ++ colonsText := by
  induction front generalizing start with
  | nil => simp [frontName]
  | cons n front ih =>
    have hcons : frontName start (n :: front) = frontName (start ++ n.word.text ++ "::") front :=
      rfl
    rw [hcons, ih]
    simp [colonsText]

theorem toList_pathName (rooted : Bool) (front : List PathName) (last : Word) :
    (pathName rooted front last).toList = pathText rooted front last := by
  rw [pathName, String.toList_append, toList_frontName, pathText, List.append_assoc]
  cases rooted <;> rfl

theorem pathName_eq {rooted : Bool} {front : List PathName} {last : Word} {s : String}
    (h : s.toList = pathText rooted front last) : pathName rooted front last = s := by
  rw [← String.toList_inj, toList_pathName, h]

namespace PathType

theorem parseType_text (p : PathType) {s : String} (hs : s.toList = p.text) :
    ∃ e, parseType s = .ok e ∧ e.reference = p.reference := by
  have hreads : Lexer.ReadsPlain (p.text ++ []) (flatAll (p.tokens false) ++ []) :=
    p.reads_text rfl rfl (.done rfl)
  rw [List.append_nil, List.append_nil] at hreads
  have hclosed : Flat.closed [] (flatAll (p.tokens false)) = true := by
    simpa [Flat.closed] using Token.closed_flatAll (p.tokens false) [] []
  obtain ⟨out, hout, hflat⟩ := Lexer.tokens_of_plain hreads hclosed
  have hdepth := p.depth_le_sizeAll false
  have htype : ReadsType (Grammar.level (4 * sizeAll (p.tokens false) + 16)) true false p :=
    readsType_level p (by omega)
  have htakes := htype [] rfl
  rw [List.append_nil] at htakes
  obtain ⟨e, hread, he⟩ := readAll_of_takes (p := fun g => g.type true)
    (Token.bareAll_eq (p.plain_tokens false) hflat) htakes
  refine ⟨e, ?_, he.reference⟩
  rw [parseType, readText, hs, hout]
  exact hread

end PathType

end Source

namespace TypeRef

mutual

/-- Whether the type is built of named and generic types alone, each generic one with an argument,
and the names in all paths are no keywords. -/
def isStructured : TypeRef → Bool
  | .primitive _ => false
  | .named s => (pathNames s).all isNameText
  | .verbatim _ => false
  | .generic base args =>
    (pathNames base).all isNameText && !args.isEmpty && areStructured args

def areStructured : List TypeRef → Bool
  | [] => true
  | t :: ts => t.isStructured && areStructured ts

end

mutual

/-- A text of the type: the one that is rendered, one in which arguments are written in another way,
or one in parentheses. -/
inductive Written : TypeRef → String → Prop
  | rendered (t : TypeRef) : Written t t.source
  | applied {base : String} {args : List TypeRef} {texts : List String}
    (h : AllWritten args texts) : Written (.generic base args) (applied base texts)
  | paren {t : TypeRef} {s : String} (h : Written t s) : Written t ("(" ++ s ++ ")")

inductive AllWritten : List TypeRef → List String → Prop
  | nil : AllWritten [] []
  | cons {t : TypeRef} {ts : List TypeRef} {s : String} {ss : List String} (head : Written t s)
    (tail : AllWritten ts ss) : AllWritten (t :: ts) (s :: ss)

end

def Spells (s : String) (p : PathType) (t : TypeRef) : Prop := s.toList = p.text ∧ p.reference = t

theorem exists_spells_applied {base : String} {args : List TypeRef} {texts : List String}
    {ps : List PathType} (hbase : (pathNames base).all isNameText = true)
    (hne : args.isEmpty = false)
    (htexts : List.Forall₂ (fun (s : String) p => s.toList = PathType.text p) texts ps)
    (hargs : PathType.references ps = args) :
    ∃ p, Spells (TypeRef.applied base texts) p (.generic base args) := by
  obtain ⟨rooted, front, last, hs⟩ := exists_freePathText hbase
  cases htexts with
  | nil => rw [← hargs] at hne; cases hne
  | @cons s p ss ps hp hps =>
    refine ⟨.applied rooted front last p ps, ?_, ?_⟩
    · have hcommas := toList_commas hp hps
      rw [← PathType.textBehind_eq] at hcommas
      simp [TypeRef.applied, PathType.text, hs, hcommas]
    · rw [PathType.reference, pathName_eq hs, ← hargs, PathType.references]

mutual

theorem exists_spells_source {t : TypeRef} (h : t.isStructured = true) :
    ∃ p, Spells t.source p t := by
  cases t with
  | primitive p => cases h
  | verbatim s => cases h
  | named s =>
    obtain ⟨rooted, front, last, hs⟩ := exists_freePathText h
    refine ⟨.plain rooted front last.toPath, hs, ?_⟩
    rw [PathType.reference]
    exact congrArg TypeRef.named (pathName_eq hs)
  | generic base args =>
    simp only [isStructured, Bool.and_eq_true, Bool.not_eq_true'] at h
    obtain ⟨⟨hbase, hne⟩, hargs⟩ := h
    obtain ⟨ps, htexts, hrefs⟩ := exists_spells_sources hargs
    exact exists_spells_applied hbase hne htexts hrefs

theorem exists_spells_sources {ts : List TypeRef} (h : areStructured ts = true) :
    ∃ ps, List.Forall₂ (fun (s : String) p => s.toList = PathType.text p) (sourceAll ts) ps ∧
      PathType.references ps = ts := by
  match ts with
  | [] => exact ⟨[], .nil, rfl⟩
  | t :: ts =>
    simp only [areStructured, Bool.and_eq_true] at h
    obtain ⟨p, hp, rfl⟩ := exists_spells_source h.1
    obtain ⟨ps, hps, rfl⟩ := exists_spells_sources h.2
    exact ⟨p :: ps, .cons hp hps, rfl⟩

end

mutual

theorem exists_spells {t : TypeRef} {s : String} (h : t.isStructured = true) (hs : Written t s) :
    ∃ p, Spells s p t := by
  match hs with
  | .rendered _ => exact exists_spells_source h
  | .applied hargs =>
    simp only [isStructured, Bool.and_eq_true, Bool.not_eq_true'] at h
    obtain ⟨⟨hbase, hne⟩, hall⟩ := h
    obtain ⟨ps, htexts, hrefs⟩ := exists_spells_all hall hargs
    exact exists_spells_applied hbase hne htexts hrefs
  | .paren hs =>
    obtain ⟨p, hp, rfl⟩ := exists_spells h hs
    exact ⟨.paren p, by simp [PathType.text, hp], rfl⟩

theorem exists_spells_all {ts : List TypeRef} {ss : List String} (h : areStructured ts = true)
    (hs : AllWritten ts ss) :
    ∃ ps, List.Forall₂ (fun (s : String) p => s.toList = PathType.text p) ss ps ∧
      PathType.references ps = ts := by
  match hs with
  | .nil => exact ⟨[], .nil, rfl⟩
  | .cons head tail =>
    simp only [areStructured, Bool.and_eq_true] at h
    obtain ⟨p, hp, rfl⟩ := exists_spells h.1 head
    obtain ⟨ps, hps, rfl⟩ := exists_spells_all h.2 tail
    exact ⟨p :: ps, .cons hp hps, rfl⟩

end

/-- Every text of a structured type is read, and converted back to that type. -/
theorem reference_parseType {t : TypeRef} (h : t.isStructured = true) {s : String}
    (hs : Written t s) : (parseType s).map TypeExpr.reference = .ok t := by
  obtain ⟨p, htext, rfl⟩ := exists_spells h hs
  obtain ⟨e, hread, he⟩ := p.parseType_text htext
  rw [hread, Except.map, he]

/-- A raw name behind a leading `::`, and arguments in two brackets with parentheses around them. -/
theorem reference_parseType_map :
    (generic "Map" [.named "::std::r#type", generic "Vec" [.named "u8"]]).isStructured = true ∧
    Written (generic "Map" [.named "::std::r#type", generic "Vec" [.named "u8"]])
      "(Map<(::std::r#type), Vec<(u8)>>)" ∧
    (parseType "(Map<(::std::r#type), Vec<(u8)>>)").map TypeExpr.reference =
      .ok (generic "Map" [.named "::std::r#type", generic "Vec" [.named "u8"]]) := by
  have hstructured : (generic "Map" [.named "::std::r#type",
      generic "Vec" [.named "u8"]]).isStructured = true := by decide +kernel
  have hwritten : Written (generic "Map" [.named "::std::r#type", generic "Vec" [.named "u8"]])
      ("(" ++ applied "Map" ["(" ++ "::std::r#type" ++ ")", applied "Vec" ["(" ++ "u8" ++ ")"]] ++
        ")") :=
    .paren (.applied (.cons (.paren (.rendered (.named "::std::r#type")))
      (.cons (.applied (.cons (.paren (.rendered (.named "u8"))) .nil)) .nil)))
  have htext : "(" ++ applied "Map" ["(" ++ "::std::r#type" ++ ")",
      applied "Vec" ["(" ++ "u8" ++ ")"]] ++ ")" = "(Map<(::std::r#type), Vec<(u8)>>)" := by decide
  rw [htext] at hwritten
  exact ⟨hstructured, hwritten, reference_parseType hstructured hwritten⟩

end TypeRef

end AccessorGen
