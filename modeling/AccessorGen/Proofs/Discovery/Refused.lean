import AccessorGen.Companion.Build
import AccessorGen.Discovery.SourceFile
import AccessorGen.Marker
import AccessorGen.Proofs.Discovery.Names
import AccessorGen.Proofs.Discovery.Scan
import AccessorGen.Proofs.Grammar.Method
import AccessorGen.Proofs.Source.Equality
import AccessorGen.Proofs.Source.Literals

/-! The marker attribute and the discovery judge an item alike. The marker lets stand what is
discovered as a class and nothing else; and the compiler stops with the words in which a round
rejects the declaration just where the marker knows the refused item by its name. -/

namespace AccessorGen

open Source

/-- An item that is no class and that the marker knows by a name. It knows none for imports, trait
aliases, macro calls and `impl` blocks, nor for what is kept only as its tokens, such as a function
without a body. -/
inductive Source.Item.Refusable : Item → Word → Prop
  | tupleStruct (marks : List String) (name : Word) :
    Refusable (.single marks (.struct name .tuple)) name
  | enum (marks : List String) (name : Word) : Refusable (.single marks (.enum name)) name
  | interface (marks : List String) (name : Word) : Refusable (.single marks (.interface name)) name
  | union (marks : List String) (name : Word) : Refusable (.single marks (.union name)) name
  | function (marks : List String) (name : Word) : Refusable (.single marks (.function name)) name
  | constant (marks : List String) (name : Word) : Refusable (.single marks (.constant name)) name
  | static (marks : List String) (name : Word) : Refusable (.single marks (.static name)) name
  | alias (marks : List String) (name : Word) : Refusable (.single marks (.alias name)) name
  | module (marks : List String) (name : Word) (items : List Item) :
    Refusable (.module marks name items) name

/-- The declaration of an item with further marks in front of its own. What is inside a module comes
behind its own declaration. -/
def discovered (marker : String) (siblings : List Item) (space : Namespace) (outer : List String)
    (i : Item) : Option Declaration :=
  (scanItem marker siblings space (i.addMarks outer)).head?

/-- Tokens that are an item which, marked, is discovered as a class. -/
def DiscoversClass (marker : String) (siblings : List Item) (space : Namespace)
    (outer : List String) (ts : List Token) : Prop :=
  ∃ i, parseItem ts = .ok i ∧
    ∃ d, discovered marker siblings space outer i = some d ∧ d.kind = .class

section Discovery

variable {marker : String} {siblings : List Item} {space : Namespace} {outer : List String}

theorem declaration_addMarks (i : Item) :
    (i.addMarks outer).declaration space = i.declaration space := by
  cases i <;> rfl

theorem discovered_verbatim (marks : List String) :
    discovered marker siblings space outer (.single marks .verbatim) = none := by
  simp [discovered, Item.addMarks, scanItem, ownDeclaration, isAnnotated, Item.marks]

theorem accepts_iff_kind (space : Namespace) (i : Item) :
    Marker.accepts i = true ↔ (i.declaration space).kind = .class := by
  cases i with
  | module marks name items => simp [Marker.accepts, Item.declaration, otherDeclaration]
  | single marks d =>
    cases d with
    | struct name fields =>
      cases fields <;>
        simp [Marker.accepts, Item.declaration, Definition.declaration, structDeclaration]
    | macroCall name =>
      cases name <;>
        simp [Marker.accepts, Item.declaration, Definition.declaration, otherDeclaration]
    | _ => simp [Marker.accepts, Item.declaration, Definition.declaration, otherDeclaration]

theorem not_accepts_of_refusable {i : Item} {name : Word} (h : i.Refusable name) :
    Marker.accepts i = false := by
  cases h <;> rfl

/-- A refused item that is no block goes by one name for the marker and for the discovery just when
the marker knows it by a name. For the others the marker has two words, and neither a name nor what
the discovery says in place of one is these. -/
theorem name_eq_reportedName_iff (space : Namespace) {i : Item} (hblock : ¬i.IsBlock)
    (hrefused : Marker.accepts i = false) :
    (i.declaration space).name = Marker.reportedName i ↔ ∃ name, i.Refusable name := by
  have hword (name : Word) : Text.plainWord name ≠ "this item" := fun h =>
    name.not_mem_plain (c := ' ') (by decide) (by rw [h]; decide)
  have hitem : "item" ≠ "this item" := by decide
  have hnone {i : Item} (h : ∀ name, ¬i.Refusable name)
      (hname : (i.declaration space).name ≠ Marker.reportedName i) :
      (i.declaration space).name = Marker.reportedName i ↔ ∃ name, i.Refusable name :=
    iff_of_false hname fun ⟨name, hname⟩ => h name hname
  cases i with
  | module marks name items => exact iff_of_true rfl ⟨_, .module ..⟩
  | single marks d =>
    cases d with
    | struct name fields =>
      cases fields with
      | tuple => exact iff_of_true rfl ⟨_, .tupleStruct ..⟩
      | named fields => cases hrefused
      | unit => cases hrefused
    | enum name => exact iff_of_true rfl ⟨_, .enum ..⟩
    | interface name => exact iff_of_true rfl ⟨_, .interface ..⟩
    | union name => exact iff_of_true rfl ⟨_, .union ..⟩
    | function name => exact iff_of_true rfl ⟨_, .function ..⟩
    | constant name => exact iff_of_true rfl ⟨_, .constant ..⟩
    | static name => exact iff_of_true rfl ⟨_, .static ..⟩
    | «alias» name => exact iff_of_true rfl ⟨_, .alias ..⟩
    | block ofTrait self members => exact absurd (.block ..) hblock
    | traitAlias name => exact hnone nofun (hword name)
    | macroCall name =>
      cases name with
      | none => exact hnone nofun hitem
      | some name => exact hnone nofun (hword name)
    | foreign => exact hnone nofun hitem
    | verbatim => exact hnone nofun hitem

section Marked

variable (hmarker : marker ∈ outer) (siblings : List Item) (space : Namespace)
include hmarker

/-- A marked item is found with the members of its siblings, unless it is kept only as its tokens,
where attributes are not looked at. -/
theorem discovered_of_mem (i : Item) :
    discovered marker siblings space outer i = some (withInherent siblings (i.declaration space)) ∨
      ∃ marks, i = .single marks .verbatim := by
  have hfound (h : isAnnotated marker (i.addMarks outer) = true) :
      discovered marker siblings space outer i =
        some (withInherent siblings (i.declaration space)) := by
    rw [discovered, scanItem_eq, ownDeclaration, if_pos h, declaration_addMarks]
    rfl
  cases i with
  | module marks name items =>
    exact .inl (hfound (by simp [isAnnotated, Item.addMarks, Item.marks, hmarker]))
  | single marks d =>
    cases d with
    | verbatim => exact .inr ⟨marks, rfl⟩
    | _ => exact .inl (hfound (by simp [isAnnotated, Item.addMarks, Item.marks, hmarker]))

theorem accepts_iff_class (i : Item) : Marker.accepts i = true ↔
    ∃ d, discovered marker siblings space outer i = some d ∧ d.kind = .class := by
  obtain hfound | ⟨marks, rfl⟩ := discovered_of_mem hmarker siblings space i
  · obtain ⟨members, hd, -⟩ := withInherent_eq siblings (i.declaration space)
    rw [hfound, hd, accepts_iff_kind space]
    simp
  · rw [discovered_verbatim]
    simp [Marker.accepts]

theorem discovered_of_refused {i : Item} (hrefused : Marker.accepts i = false) {d : Declaration}
    (h : discovered marker siblings space outer i = some d) :
    d.name = (i.declaration space).name ∧ d.companion = .error (.notAClass d.name d.kind) := by
  have hkind : (i.declaration space).kind.isClass = false := by
    have hnot : (i.declaration space).kind ≠ .class := by
      simp [← accepts_iff_kind, hrefused]
    simpa [DeclarationKind.isClass] using hnot
  obtain hfound | ⟨marks, rfl⟩ := discovered_of_mem hmarker siblings space i
  · rw [withInherent_of_not_class siblings hkind, h] at hfound
    obtain rfl := Option.some.inj hfound
    exact ⟨rfl, by rw [Declaration.companion, hkind]; rfl⟩
  · rw [discovered_verbatim] at h
    cases h

theorem exists_discovered_of_refusable {i : Item} {name : Word} (h : i.Refusable name) :
    ∃ d, discovered marker siblings space outer i = some d := by
  obtain hfound | ⟨marks, rfl⟩ := discovered_of_mem hmarker siblings space i
  · exact ⟨_, hfound⟩
  · cases h

end Marked

end Discovery

namespace Marker

open Token (bareAll)

/-- The tokens are `::core::compile_error! { "…" }`, wherever they stand, with a literal for the
message. -/
def IsCompileError (message : String) (call : List Token) : Prop :=
  ∃ (core error : Word) (literal : String), core.text = "core" ∧ error.text = "compile_error" ∧
    QuotedLiteral.StandsFor literal message ∧ bareAll call =
      [.mark ':' true nowhere, .mark ':' false nowhere, .word core nowhere,
       .mark ':' true nowhere, .mark ':' false nowhere, .word error nowhere,
       .mark '!' false nowhere, .group .brace [.literal literal nowhere] nowhere]

theorem isCompileError_errorTokens (message : String) :
    IsCompileError message (errorTokens message) :=
  ⟨⟨"core", by decide⟩, ⟨"compile_error", by decide⟩, _, rfl, rfl,
    QuotedLiteral.standsFor_textLiteral message, by simp [errorTokens, nowhere, Token.nowhere]⟩

theorem IsCompileError.unique {message message' : String} {call : List Token}
    (h : IsCompileError message call) (h' : IsCompileError message' call) : message = message' := by
  obtain ⟨_, _, literal, -, -, hstands, hcall⟩ := h
  obtain ⟨_, _, literal', -, -, hstands', hcall'⟩ := h'
  have hsame := hcall.symm.trans hcall'
  obtain ⟨-, -, rfl⟩ : _ ∧ _ ∧ literal = literal' := by simpa using hsame
  exact hstands.unique hstands'

theorem IsCompileError.ne_nil {message : String} {call : List Token}
    (h : IsCompileError message call) : call ≠ [] := by
  rintro rfl
  obtain ⟨_, _, _, -, -, -, hcall⟩ := h
  simp at hcall

theorem misuse_eq_message (name : String) (kind : DeclarationKind) :
    misuse name = (Rejection.notAClass name kind).message := rfl

theorem misuse_injective : Function.Injective misuse := fun _ _ h => (String.append_right_inj _).1 h

theorem expand_eq_self_iff {arguments item : List Token} :
    expand arguments item = item ↔ refusal arguments item = none := by
  refine ⟨fun h => ?_, expand_of_refusal_eq_none⟩
  cases hrefused : refusal arguments item with
  | none => rfl
  | some message => simp [expand, hrefused, errorTokens] at h

theorem expand_eq_or (arguments item : List Token) : expand arguments item = item ∨
    ∃ message, expand arguments item = item ++ errorTokens message := by
  cases h : refusal arguments item with
  | none => exact .inl (expand_eq_self_iff.2 h)
  | some message => exact .inr ⟨message, by rw [expand, h]⟩

theorem refusal_of_parsed {item : List Token} {i : Item} (h : parseItem item = .ok i) :
    refusal [] item = if accepts i then none else some (misuse (reportedName i)) := by
  simp [refusal, h]

theorem refusal_eq_none_iff {arguments item : List Token} : refusal arguments item = none ↔
    arguments = [] ∧ ∃ i, parseItem item = .ok i ∧ accepts i = true := by
  cases arguments with
  | cons t ts => simp [refusal]
  | nil =>
    cases h : parseItem item with
    | error e => simp [refusal, h]
    | ok i => simp [refusal, h]

theorem expand_of_refused {item : List Token} {i : Item} (hparsed : parseItem item = .ok i)
    (hrefused : accepts i = false) :
    expand [] item = item ++ errorTokens (misuse (reportedName i)) := by
  rw [expand, refusal_of_parsed hparsed, hrefused]
  rfl

theorem refused_of_isCompileError {item call : List Token} {i : Item} {message : String}
    (hparsed : parseItem item = .ok i) (hexpand : expand [] item = item ++ call)
    (hcall : IsCompileError message call) :
    accepts i = false ∧ message = misuse (reportedName i) := by
  have hrefused : accepts i = false := by
    by_contra haccepts
    rw [Bool.not_eq_false] at haccepts
    have hself : expand [] item = item :=
      expand_eq_self_iff.2 (by rw [refusal_of_parsed hparsed, haccepts]; rfl)
    exact hcall.ne_nil (List.self_eq_append_right.1 (hself.symm.trans hexpand))
  rw [expand_of_refused hparsed hrefused] at hexpand
  obtain rfl := List.append_cancel_left hexpand
  exact ⟨hrefused, hcall.unique (isCompileError_errorTokens _)⟩

/-- The marker attribute leaves the tokens of an item as they are if it has no arguments and the
marked item is discovered as a class, and has one error behind them else. For an item that is no
block the error has the message with which its declaration is rejected just when the marker knows
the item by a name. What is kept only as its tokens is not discovered at all, and the marker has no
name for it. -/
theorem expand_agrees {marker : String} {outer : List String} (hmarker : marker ∈ outer)
    (siblings : List Item) (space : Namespace) (ts : List Token) :
    (∀ arguments, expand arguments ts = ts ↔
      arguments = [] ∧ DiscoversClass marker siblings space outer ts) ∧
    (∀ arguments, arguments ≠ [] ∨ ¬DiscoversClass marker siblings space outer ts →
      ∃ message call, expand arguments ts = ts ++ call ∧ IsCompileError message call) ∧
    (∀ i, parseItem ts = .ok i → ¬i.IsBlock →
      ((∃ d cause call, discovered marker siblings space outer i = some d ∧
          d.companion = .error cause ∧ cause = .notAClass d.name d.kind ∧
          expand [] ts = ts ++ call ∧ IsCompileError cause.message call) ↔
        ∃ name, i.Refusable name)) ∧
    ∀ marks, parseItem ts = .ok (.single marks .verbatim) →
      discovered marker siblings space outer (.single marks .verbatim) = none ∧
      ∃ call, expand [] ts = ts ++ call ∧
        IsCompileError "CustomLombok can not be used on this item" call := by
  have hself (arguments : List Token) : expand arguments ts = ts ↔
      arguments = [] ∧ DiscoversClass marker siblings space outer ts := by
    simp only [expand_eq_self_iff, refusal_eq_none_iff, DiscoversClass,
      accepts_iff_class hmarker siblings space]
  refine ⟨hself, fun arguments hother => ?_, fun i hparsed hblock => ⟨?_, ?_⟩,
    fun marks hparsed => ⟨discovered_verbatim marks, _, expand_of_refused hparsed rfl,
      isCompileError_errorTokens _⟩⟩
  · obtain hsame | ⟨message, hexpand⟩ := expand_eq_or arguments ts
    · obtain ⟨hnone, hclass⟩ := (hself arguments).1 hsame
      exact absurd hother (not_or.2 ⟨not_not_intro hnone, not_not_intro hclass⟩)
    · exact ⟨message, _, hexpand, isCompileError_errorTokens message⟩
  · rintro ⟨d, _, call, hfound, -, rfl, hexpand, hcall⟩
    obtain ⟨hrefused, hmessage⟩ := refused_of_isCompileError hparsed hexpand hcall
    have hname : d.name = reportedName i := misuse_injective hmessage
    rw [(discovered_of_refused hmarker siblings space hrefused hfound).1] at hname
    exact (name_eq_reportedName_iff space hblock hrefused).1 hname
  · rintro ⟨name, h⟩
    -- The message of the rejection is the marker's own when both name the item alike.
    have hrefused := not_accepts_of_refusable h
    obtain ⟨d, hfound⟩ := exists_discovered_of_refusable hmarker siblings space h
    obtain ⟨hname, hcompanion⟩ := discovered_of_refused hmarker siblings space hrefused hfound
    refine ⟨d, _, _, hfound, hcompanion, rfl, expand_of_refused hparsed hrefused, ?_⟩
    rw [← misuse_eq_message, hname, (name_eq_reportedName_iff space hblock hrefused).2 ⟨name, h⟩]
    exact isCompileError_errorTokens _

def enumTokens : List Token :=
  [.word ⟨"enum", by decide⟩ nowhere, .word ⟨"r#type", by decide⟩ nowhere, .group .brace [] nowhere]

theorem expand_enum :
    discovered "custom_lombok" [] .root ["custom_lombok"]
      (.single [] (.enum ⟨"r#type", by decide⟩)) = some ⟨"type", .root, .enum, []⟩ ∧
    ∃ call, expand [] enumTokens = enumTokens ++ call ∧
      IsCompileError "CustomLombok can not be used on type" call := by
  have hmarker : "custom_lombok" ∈ ["custom_lombok"] := by decide
  have hparsed : parseItem enumTokens = .ok (.single [] (.enum ⟨"r#type", by decide⟩)) := by rfl
  obtain ⟨d, _, call, hfound, -, rfl, hexpand, hcall⟩ :=
    ((expand_agrees hmarker [] .root enumTokens).2.2.1 _ hparsed nofun).2 ⟨_, .enum [] _⟩
  have hd : discovered "custom_lombok" [] .root ["custom_lombok"]
      (.single [] (.enum ⟨"r#type", by decide⟩)) = some ⟨"type", .root, .enum, []⟩ := by rfl
  obtain rfl := Option.some.inj (hfound.symm.trans hd)
  exact ⟨hfound, call, hexpand, hcall⟩

def bodilessTokens : List Token :=
  [.word .fn nowhere, .word ⟨"f", by decide⟩ nowhere, .group .paren [] nowhere,
   .mark ';' false nowhere]

/-- A marked function without a body is not found, and the error behind it is not about its name. -/
theorem expand_bodiless :
    SourceText.items ⟨"#[custom_lombok] fn f();", "lib.rs"⟩ =
      .ok [.single ["custom_lombok"] .verbatim] ∧
    scan "custom_lombok" .root [.single ["custom_lombok"] .verbatim] = [] ∧
    parseItem bodilessTokens = .ok (.single [] .verbatim) ∧
    ∃ call, expand [] bodilessTokens = bodilessTokens ++ call ∧
      IsCompileError "CustomLombok can not be used on this item" call ∧
      ∀ kind, ¬IsCompileError (Rejection.notAClass "f" kind).message call := by
  have hread : (SourceText.items ⟨"#[custom_lombok] fn f();", "lib.rs"⟩).toOption.map id =
      some [.single ["custom_lombok"] .verbatim] := by decide +kernel
  obtain ⟨_, hitems, rfl⟩ := exists_items hread
  have hparsed : parseItem bodilessTokens = .ok (.single [] .verbatim) := by rfl
  have hcall := isCompileError_errorTokens (misuse (reportedName (.single [] .verbatim)))
  have hother : "f" ≠ reportedName (.single [] .verbatim) := by decide
  exact ⟨hitems, by rfl, hparsed, _, expand_of_refused hparsed rfl, hcall,
    fun kind h => hother (misuse_injective (h.unique hcall))⟩

end Marker

end AccessorGen
