import AccessorGen.Proofs.Render.TextReads

/-! The text of a companion's struct and of its accessors is read as their tokens. -/

namespace AccessorGen

open Source
open Source.Token (nowhere flatAll)
open Source.Lexer (ReadsPlain markChar?)
open Source.Lexeme (endsWord)

structure Field.WrittenWith (f : Field) (s : FieldSyntax) : Prop where
  name : Names.safe f.name = s.name.word.text
  type : f.type.source.toList = s.type.text
  getter : Accessor.methodName .getter f.name = s.getter.word.text
  setter : Accessor.methodName .setter f.name = s.setter.word.text

structure Companion.WrittenWith (c : Companion) (ns : Namespace) (derives : List String)
    (s : CompanionSyntax) : Prop where
  space : ns.segments.map Names.safe = s.space.map fun n => n.word.text
  derives : List.Forall₂ (fun d p => d.toList = PlainPath.text p) derives s.derives
  name : c.name = s.name.word.text
  fields : List.Forall₂ Field.WrittenWith c.fields s.fields

namespace Render

def HeaderReads (header : String) (front : List Token) : Prop :=
  ∀ r gs, ReadsPlain (' ' :: '\x7b' :: r) gs →
    ReadsPlain (header.toList ++ ' ' :: '\x7b' :: r) (flatAll front ++ gs)

theorem reads_braced {header : String} {front content : List Token} {fragments : List Fragment}
    (hheader : HeaderReads header front) (hbody : FragmentsRead fragments (flatAll content)) :
    FragmentsRead [.block (header ++ " \x7b") fragments (some "\x7d")]
      (flatAll (front ++ [.group .brace content nowhere])) := by
  have hopen : LineReads (header ++ " \x7b") (flatAll front ++ [.opens .brace]) := by
    intro r gs hr
    simp only [String.toList_append, List.append_assoc]
    exact hheader _ _ (.space (by decide) (.opens .brace rfl (hr.space (by decide))))
  have hclose : LineReads "\x7d" [.closes .brace] := fun r gs hr =>
    .closes .brace rfl (hr.space (by decide))
  simpa [Token.flat_group] using FragmentsRead.block hopen hbody hclose

theorem reads_empty {header : String} {front : List Token} (hheader : HeaderReads header front) :
    FragmentsRead [.line (header ++ " \x7b\x7d")]
      (flatAll (front ++ [.group .brace [] nowhere])) := by
  refine .line fun r gs hr => ?_
  simp only [String.toList_append, List.append_assoc, Token.flatAll_append, Token.flatAll_cons,
    Token.flatAll_nil, Token.flat_group, List.append_nil]
  exact hheader _ _ (.space (by decide) (.opens .brace rfl (.closes .brace rfl
    (hr.space (by decide)))))

section Fields

variable {f : Field} {s : FieldSyntax} {r : List Char} {gs : List Flat}

theorem reads_typed (h : f.WrittenWith s) (joint : Bool) (hends : endsWord r = true)
    (hjoint : (markChar? r).isSome = joint) (hr : ReadsPlain r gs) :
    ReadsPlain ((Names.safe f.name).toList ++ ':' :: ' ' :: (f.type.source.toList ++ r))
      (flatAll (.ofWord s.name.word :: .mark ':' false nowhere :: s.type.tokens joint) ++ gs) := by
  rw [h.name, h.type]
  have htype := s.type.reads_text hends hjoint hr
  have hall := s.name.word.reads (r := ':' :: ' ' :: (s.type.text ++ r)) rfl
    (.mark false rfl rfl (htype.space (by decide)))
  simpa [Token.flat_mark] using hall

theorem reads_fieldItem (h : f.WrittenWith s) :
    FragmentsRead (fieldItem f).fragments (flatAll (s.tokens ++ [comma])) := by
  refine .line fun r gs hr => ?_
  have hcomma := (hr.space (c := '\n') (by decide)).mark (c := ',') false rfl rfl
  have hall := reads_typed h true rfl rfl hcomma
  simpa [fieldItem, visibilityWord, Field.visibility, FieldSyntax.tokens, comma,
    Token.flat_mark] using hall

end Fields

theorem reads_fieldItems {fields : List Field} {syntaxes : List FieldSyntax}
    (h : List.Forall₂ Field.WrittenWith fields syntaxes) :
    FragmentsRead ((fields.map fieldItem).flatMap FieldItem.fragments)
      (flatAll (syntaxes.flatMap fun s => s.tokens ++ [comma])) := by
  induction h with
  | nil => exact .nil
  | cons hf _ ih =>
    simp only [List.map_cons, List.flatMap_cons]
    rw [Token.flatAll_append]
    exact (reads_fieldItem hf).append ih

theorem reads_derives (p : PlainPath) (ps : List PlainPath) {r : List Char} {gs : List Flat}
    (hr : ReadsPlain (')' :: r) gs) :
    ReadsPlain (p.text ++ ((ps.flatMap fun q => ',' :: ' ' :: q.text) ++ ')' :: r))
      (flatAll (p.tokens ++ ps.flatMap fun q => comma :: q.tokens) ++ gs) := by
  have hends : endsWord ((ps.flatMap fun q => ',' :: ' ' :: q.text) ++ ')' :: r) = true := by
    cases ps <;> rfl
  have hrest : ReadsPlain ((ps.flatMap fun q => ',' :: ' ' :: q.text) ++ ')' :: r)
      (flatAll (ps.flatMap fun q => comma :: q.tokens) ++ gs) := by
    induction ps generalizing p with
    | nil => exact hr
    | cons q ps ih =>
      have hends : endsWord ((ps.flatMap fun q => ',' :: ' ' :: q.text) ++ ')' :: r) = true := by
        cases ps <;> rfl
      have hq := reads_pathText q.rooted q.front q.last.word hends (ih q hends)
      have hcomma := (hq.space (c := ' ') (by decide)).mark (c := ',') false rfl rfl
      simpa [comma, PlainPath.text, PlainPath.tokens, Token.flat_mark] using hcomma
  rw [Token.flatAll_append, List.append_assoc]
  exact reads_pathText p.rooted p.front p.last.word hends hrest

theorem reads_deriveLine {derives : List String} {s : CompanionSyntax}
    (h : List.Forall₂ (fun d p => d.toList = PlainPath.text p) derives s.derives) :
    FragmentsRead (if derives.isEmpty then []
      else [attributeLine ("derive(" ++ ", ".intercalate derives ++ ")")])
      (flatAll s.deriveFront.tokens) := by
  unfold CompanionSyntax.deriveFront
  generalize s.derives = paths at h
  cases h with
  | nil => exact .nil
  | @cons d p ds ps hd hds =>
    refine reads_attributeLine .derive fun r gs hr => ?_
    rw [toList_commas hd hds, List.append_assoc]
    exact reads_derives p ps hr

theorem reads_companionStruct {c : Companion} {derives : List String} {s : CompanionSyntax}
    {ns : Namespace} (h : c.WrittenWith ns derives s) :
    FragmentsRead (companionStruct c derives).fragments
      (flatAll (s.deriveFront.tokens ++ structTokens s.name s.fields)) := by
  obtain ⟨-, hderives, hname, hfields⟩ := h
  have hheader : HeaderReads (companionStruct c derives).header
      [.ofWord .pub, .ofWord .struct, .ofWord s.name.word] := by
    intro r gs hr
    have hpub := Word.pub.reads (r := ' ' :: (Word.struct.text.toList ++ ' ' :: _)) rfl
      ((Word.struct.reads rfl ((s.name.word.reads rfl hr).space (c := ' ') (by decide))).space
        (by decide))
    simp only [StructItem.header, companionStruct, Companion.visibility, visibilityWord, hname,
      String.toList_append, List.append_assoc]
    simp only [Token.flatAll_cons, Token.flatAll_nil, Token.flat_ofWord, List.cons_append,
      List.nil_append, List.append_nil]
    exact hpub
  have hbody : FragmentsRead [if c.fields.isEmpty
      then .line ((companionStruct c derives).header ++ " \x7b\x7d")
      else .block ((companionStruct c derives).header ++ " \x7b")
        ((c.fields.map fieldItem).flatMap FieldItem.fragments) (some "\x7d")]
      (flatAll (structTokens s.name s.fields)) := by
    have hall := reads_fieldItems hfields
    generalize c.fields = fields, s.fields = syntaxes at hfields hall
    cases hfields with
    | nil => exact reads_empty hheader
    | cons _ _ => exact reads_braced hheader hall
  rw [Token.flatAll_append]
  have hfragments := (reads_deriveLine hderives).append hbody
  simpa [StructItem.fragments, companionStruct, docLine] using hfragments

/-- A signature up to the brace. -/
def FunctionItem.header (f : FunctionItem) : String :=
  visibilityWord f.visibility ++ "fn " ++ f.name ++ "(" ++ ", ".intercalate f.paramTexts ++ ")" ++
    match f.returns with
      | some type => " -> " ++ type
      | none => ""

theorem fragments_getter (f : Field) : (accessorFunction (.getter f)).fragments =
    [.block ((accessorFunction (.getter f)).header ++ " \x7b")
      [.line ("self." ++ Names.safe f.name ++ ".clone()")] (some "\x7d")] := rfl

theorem header_getter (f : Field) : (accessorFunction (.getter f)).header.toList =
    "pub fn ".toList ++ ((Accessor.methodName .getter f.name).toList ++
      '(' :: ("&self".toList ++ ')' :: (" -> ".toList ++ f.type.source.toList))) := by
  simp [FunctionItem.header, accessorFunction, Accessor.getter, Accessor.visibility,
    visibilityWord, FunctionItem.paramTexts, Receiver.text]

theorem header_setter (f : Field) : (accessorFunction (.setter f)).header.toList =
    "pub fn ".toList ++ ((Accessor.methodName .setter f.name).toList ++
      '(' :: ("&mut self, ".toList ++ ((Names.safe f.name).toList ++
        ':' :: ' ' :: f.type.source.toList) ++ ')' :: [])) := by
  simp [FunctionItem.header, accessorFunction, Accessor.setter, Accessor.visibility,
    visibilityWord, FunctionItem.paramTexts, Receiver.text]

theorem fragments_setter (f : Field) : (accessorFunction (.setter f)).fragments =
    [.block ((accessorFunction (.setter f)).header ++ " \x7b")
      [.line ("self." ++ Names.safe f.name ++ " = " ++ Names.safe f.name ++ ";")]
      (some "\x7d")] := rfl

section Accessors

variable {f : Field} {s : FieldSyntax}

def signatureTokens (n : Name) (inputs : List Token) (out : Option PathType) : List Token :=
  .ofWord .pub :: .ofWord .fn :: .ofWord n.word :: .group .paren inputs nowhere :: outputTokens out

theorem reads_signature (n : Name) (params output : List Char) {inputs : List Token}
    (out : Option PathType)
    (hparams : ∀ r gs, ReadsPlain (')' :: r) gs →
      ReadsPlain (params ++ ')' :: r) (flatAll inputs ++ gs))
    (houtput : ∀ r gs, ReadsPlain (' ' :: '\x7b' :: r) gs →
      ReadsPlain (output ++ ' ' :: '\x7b' :: r) (flatAll (outputTokens out) ++ gs))
    {header : String} (h : header.toList = "pub fn ".toList ++
      (n.word.text.toList ++ '(' :: (params ++ ')' :: output))) :
    HeaderReads header (signatureTokens n inputs out) := by
  intro r gs hr
  have hname := n.word.reads rfl (.opens (c := '(') .paren rfl
    (hparams _ _ (.closes .paren rfl (houtput r gs hr))))
  have hpub := Word.pub.reads (r := ' ' :: (Word.fn.text.toList ++ ' ' :: _)) rfl
    ((Word.fn.reads rfl (hname.space (c := ' ') (by decide))).space (by decide))
  rw [h]
  simp only [signatureTokens, Token.flatAll_cons, Token.flat_ofWord, Token.flat_group,
    List.cons_append, List.nil_append, List.append_assoc]
  exact hpub

theorem reads_getterHeader (h : f.WrittenWith s) :
    HeaderReads (accessorFunction (.getter f)).header
      (signatureTokens s.getter (receiverTokens false) (some s.type)) := by
  refine reads_signature s.getter "&self".toList (" -> ".toList ++ f.type.source.toList)
    (some s.type) (fun r gs hr => ?_) (fun r gs hr => ?_) ?_
  · exact .mark false rfl rfl (Word.self.reads rfl hr)
  · have htype : ReadsPlain _ (flatAll (s.type.tokens false) ++ gs) :=
      s.type.reads_text rfl rfl hr
    have harrow := (((htype.space (c := ' ') (by decide)).mark (c := '>') false rfl rfl).mark
      (c := '-') true rfl rfl).space (c := ' ') (by decide)
    rw [h.type]
    simpa [outputTokens, Token.flat_mark] using harrow
  · rw [header_getter, h.getter]

theorem reads_clone (h : f.WrittenWith s) :
    FragmentsRead [.line ("self." ++ Names.safe f.name ++ ".clone()")]
      (flatAll (cloneTokens s.name)) := by
  refine .line fun r gs hr => ?_
  have hclone := Word.clone.reads (r := '(' :: ')' :: '\n' :: r) rfl
    (.opens .paren rfl (.closes .paren rfl (hr.space (by decide))))
  have hname := s.name.word.reads (r := '.' :: (Word.clone.text.toList ++ _)) rfl
    (.mark false rfl rfl hclone)
  have hself := Word.self.reads (r := '.' :: (s.name.word.text.toList ++ _)) rfl
    (.mark false rfl (by rw [s.name.word.markChar?_append]; rfl) hname)
  simp only [h.name, String.toList_append, List.append_assoc]
  simp (disch := decide) only [cloneTokens, dot, Token.flatAll_cons, Token.flatAll_nil,
    Token.flat_ofWord, Token.flat_mark, Token.flat_group, List.cons_append, List.nil_append,
    List.append_nil]
  exact hself

theorem reads_getter (h : f.WrittenWith s) :
    FragmentsRead (accessorFunction (.getter f)).fragments (flatAll s.getterTokens) := by
  have hall := reads_braced (reads_getterHeader h) (reads_clone h)
  rw [fragments_getter]
  simpa only [FieldSyntax.getterTokens, functionTokens, signatureTokens, List.cons_append]
    using hall

theorem reads_setterHeader (h : f.WrittenWith s) :
    HeaderReads (accessorFunction (.setter f)).header
      (signatureTokens s.setter (receiverTokens true ++ .mark ',' false nowhere ::
        .ofWord s.name.word :: .mark ':' false nowhere :: s.type.tokens false) none) := by
  refine reads_signature s.setter ("&mut self, ".toList ++
    ((Names.safe f.name).toList ++ ':' :: ' ' :: f.type.source.toList)) [] none
    (fun r gs hr => ?_) (fun r gs hr => hr) ?_
  · have hparam := (reads_typed h false rfl rfl hr).space (c := ' ') (by decide)
    have hself := Word.self.reads (r := ',' :: ' ' :: _) rfl
      (hparam.mark (c := ',') false rfl rfl)
    have hall := (Word.mutable.reads (r := ' ' :: (Word.self.text.toList ++ _)) rfl
      (hself.space (by decide))).mark (c := '&') false rfl rfl
    simp only [receiverTokens, if_true, Token.flatAll_append]
    simp (disch := decide) only [Token.flatAll_cons, Token.flatAll_nil, Token.flat_ofWord,
      Token.flat_mark, List.cons_append, List.nil_append, List.append_nil,
      List.append_assoc] at hall ⊢
    exact hall
  · rw [header_setter, h.setter]

theorem reads_assign (h : f.WrittenWith s) :
    FragmentsRead [.line ("self." ++ Names.safe f.name ++ " = " ++ Names.safe f.name ++ ";")]
      (flatAll (assignTokens s.name)) := by
  refine .line fun r gs hr => ?_
  have hvalue := s.name.word.reads (r := ';' :: '\n' :: r) rfl
    ((hr.space (by decide)).mark false rfl rfl)
  have hname := s.name.word.reads (r := ' ' :: '=' :: ' ' :: (s.name.word.text.toList ++ _)) rfl
    (((hvalue.space (by decide)).mark false rfl rfl).space (by decide))
  have hself := Word.self.reads (r := '.' :: (s.name.word.text.toList ++ _)) rfl
    (.mark false rfl (by rw [s.name.word.markChar?_append]; rfl) hname)
  simp only [h.name, String.toList_append, List.append_assoc]
  simp (disch := decide) only [assignTokens, dot, equalsSign, Token.flatAll_cons,
    Token.flatAll_nil, Token.flat_ofWord, Token.flat_mark, List.cons_append, List.nil_append,
    List.append_nil]
  exact hself

theorem reads_setter (h : f.WrittenWith s) :
    FragmentsRead (accessorFunction (.setter f)).fragments (flatAll s.setterTokens) := by
  have hall := reads_braced (reads_setterHeader h) (reads_assign h)
  rw [fragments_setter]
  simpa only [FieldSyntax.setterTokens, functionTokens, signatureTokens, outputTokens,
    List.cons_append, List.append_assoc, List.nil_append] using hall

end Accessors

theorem reads_groups {groups : List (List Fragment)} {parts : List (List Token)}
    (h : List.Forall₂ (fun g ts => FragmentsRead g (flatAll ts)) groups parts) :
    FragmentsRead (SourceFile.fragments ⟨groups⟩) (flatAll parts.flatten) := by
  cases h with
  | nil => exact .nil
  | @cons g ts groups parts hg hgroups =>
    have hrest : FragmentsRead (groups.flatMap fun g => .blank :: g) (flatAll parts.flatten) := by
      induction hgroups with
      | nil => exact .nil
      | cons hg _ ih =>
        rw [List.flatMap_cons, List.flatten_cons, Token.flatAll_append]
        exact (FragmentsRead.blank.append hg).append ih
    rw [SourceFile.fragments, List.flatten_cons, Token.flatAll_append]
    exact hg.append hrest

theorem spaced_eq (ms : List FunctionItem) :
    ImplItem.spaced ms = SourceFile.fragments ⟨ms.map FunctionItem.fragments⟩ := by
  cases ms <;> simp [ImplItem.spaced, SourceFile.fragments, List.flatMap_map]

theorem reads_accessors {fields : List Field} {syntaxes : List FieldSyntax}
    (h : List.Forall₂ Field.WrittenWith fields syntaxes) :
    FragmentsRead (ImplItem.spaced ((accessorsOf fields).map accessorFunction))
      (flatAll (syntaxes.flatMap fun s => s.getterTokens ++ s.setterTokens)) := by
  have hparts : (syntaxes.flatMap fun s => s.getterTokens ++ s.setterTokens) =
      (syntaxes.flatMap fun s => [s.getterTokens, s.setterTokens]).flatten := by
    rw [← List.flatMap_id', List.flatMap_assoc]
    simp
  rw [hparts, spaced_eq]
  refine reads_groups ?_
  clear hparts
  induction h with
  | nil => exact .nil
  | cons hf _ ih => exact .cons (reads_getter hf) (.cons (reads_setter hf) ih)

theorem reads_accessorImpl {c : Companion} {ns : Namespace} {derives : List String}
    {s : CompanionSyntax} (h : c.WrittenWith ns derives s)
    (haccessors : c.accessors = accessorsOf c.fields) :
    FragmentsRead (accessorImpl c).fragments
      (flatAll (s.implFront.tokens ++ implTokens s.name s.fields)) := by
  obtain ⟨-, -, hname, hfields⟩ := h
  have hheader : HeaderReads ("impl " ++ c.name) [.ofWord .impl, .ofWord s.name.word] := by
    intro r gs hr
    have himpl := Word.impl.reads (r := ' ' :: (s.name.word.text.toList ++ ' ' :: _)) rfl
      ((s.name.word.reads rfl hr).space (by decide))
    simp only [hname, String.toList_append, List.append_assoc]
    simp only [Token.flatAll_cons, Token.flatAll_nil, Token.flat_ofWord, List.cons_append,
      List.nil_append, List.append_nil]
    exact himpl
  have hbody := reads_accessors hfields
  rw [Token.flatAll_append, accessorImpl, ImplItem.fragments, CompanionSyntax.implFront,
    Companion.hasFields, haccessors]
  generalize c.fields = fields, s.fields = syntaxes at hfields hbody
  cases hfields with
  | nil => exact reads_empty hheader
  | cons _ _ => exact (reads_allow .nonSnakeCase).append (reads_braced hheader hbody)

end Render

end AccessorGen
