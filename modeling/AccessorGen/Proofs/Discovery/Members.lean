import Mathlib.Data.List.Basic
import AccessorGen.Discovery.SourceFile
import AccessorGen.Proofs.Discovery.Scan

/-! The members of a class. Behind its fields stand the functions, constants and types of the plain
`impl` blocks of the same module. A name and the same name behind a raw mark are one identifier, but
the scan compares the names in blocks as they are spelled. So the members are all there exactly when
no block and no output of a function spells the name of the class with a raw mark. -/

namespace AccessorGen

open Source

namespace Text

theorem plainWord_raw (s : String) : plainWord ("r#" ++ s) = s := by
  rw [← String.toList_inj, toList_plainWord, String.toList_append]
  rfl

theorem plainWord_eq_or (s : String) : plainWord s = s ∨ s = "r#" ++ plainWord s := by
  by_cases hraw : ['r', '#'].isPrefixOf s.toList = true
  · obtain ⟨r, hr⟩ := List.isPrefixOf_iff_prefix.1 hraw
    refine .inr ?_
    rw [← String.toList_inj, String.toList_append, toList_plainWord, without, if_pos hraw, ← hr]
    rfl
  · refine .inl ?_
    rw [← String.toList_inj, toList_plainWord, without, if_neg hraw]

theorem plainWord_eq_iff {s t : String} (ht : plainWord t = t) :
    plainWord s = t ↔ s = t ∨ s = "r#" ++ t := by
  constructor
  · rintro rfl
    exact (plainWord_eq_or s).imp_left Eq.symm
  · rintro (rfl | rfl)
    · exact ht
    · exact plainWord_raw t

end Text

namespace Source

theorem Lexeme.bareWord_of_word {s : List Char}
    (h : word ('r' :: '#' :: s) = some ('r' :: '#' :: s, [])) : bareWord s = some (s, []) := by
  rw [word] at h
  split at h
  next v rest hbare =>
    split at h
    · cases h
    · obtain ⟨hv, rfl⟩ := Prod.mk.inj (Option.some.inj h)
      rw [hbare, (List.cons.inj (List.cons.inj hv).2).2]
  · cases h

theorem Word.plainWord_plainWord (w : Word) :
    Text.plainWord (Text.plainWord w) = Text.plainWord w := by
  obtain hplain | hraw := Text.plainWord_eq_or w
  · rw [hplain, hplain]
  · have hword : Lexeme.word w.text.toList = some (w.text.toList, []) := by
      have h := w.isWord
      unfold Lexeme.plainWord at h
      split at h
      · cases h
      · exact h
    have htext : w.text.toList = 'r' :: '#' :: (Text.plainWord w).toList := by
      refine (congrArg String.toList hraw).trans ?_
      rw [String.toList_append]
      rfl
    rw [htext] at hword
    -- a bare word holds no second mark
    obtain ⟨-, hmark⟩ := Lexeme.bareWord_self (Lexeme.bareWord_of_word hword)
    obtain hplain | hagain := Text.plainWord_eq_or (Text.plainWord w)
    · exact hplain
    · rw [hagain, String.toList_append] at hmark
      exact absurd (by simp) hmark

def TypeExpr.denotes (name : String) : TypeExpr → Bool
  | .path false false [.plain n] _ => Text.plainWord n == name
  | _ => false

theorem TypeExpr.denotes_eq {name : String} (hname : Text.plainWord name = name) (t : TypeExpr) :
    t.denotes name = (t.isName name || t.isName ("r#" ++ name)) := by
  unfold denotes
  split
  next n printed =>
    rw [Bool.eq_iff_iff]
    simp [isName, Text.plainWord_eq_iff hname]
  next hnone =>
    have hno (other : String) : t.isName other = false := by
      unfold isName
      split
      next n printed => exact absurd rfl (hnone n printed)
      · rfl
    rw [hno, hno]
    rfl

theorem TypeExpr.isName_unique {t : TypeExpr} {a b : String} (ha : t.isName a = true)
    (hb : t.isName b = true) : a = b := by
  unfold isName at ha hb
  split at ha
  · simp_all
  · cases ha

end Source

/-- Whether a function makes values of the type: it has no receiver and gives `Self` or the type by
its name. -/
def Source.makes (type : String) (hasReceiver : Bool) : Option TypeExpr → Bool
  | some output => !hasReceiver && (output.isName "Self" || output.denotes type)
  | none => false

/-- A function, a constant or a type of a block as a member of the class it belongs to. -/
def Source.ImplMember.asMember? (type : String) : ImplMember → Option Member
  | .function name hasReceiver output =>
    some ⟨Text.plainWord name, if makes type hasReceiver output then .constructor else .method⟩
  | .constant name t => some ⟨Text.plainWord name, .constant t.reference⟩
  | .alias name => some ⟨Text.plainWord name, .typeAlias⟩
  | .other => none

/-- What a block that belongs to no trait holds for the type. -/
def Source.Item.blockFor (type : String) : Item → List ImplMember
  | .single _ (.block false self members) => if self.denotes type then members else []
  | _ => []

/-- The members that the blocks among the items hold for the type, in source order. -/
def blockMembers (items : List Item) (type : String) : List Member :=
  (items.flatMap (Item.blockFor type)).filterMap (ImplMember.asMember? type)

def Source.Fields.members : Fields → List Member
  | .named fields => fieldMembers fields
  | _ => []

/-- In front of what a block holds, and in the outputs of its functions, the type is spelled without
a raw mark. -/
def Source.Item.SpellsPlainly (type : String) : Item → Prop
  | .single _ (.block false self members) =>
    (self.isName ("r#" ++ type) = true → ∀ m ∈ members, m.asMember? type = none) ∧
    (self.isName type = true → ∀ name output, .function name false (some output) ∈ members →
      output.isName ("r#" ++ type) = false)
  | _ => True

section Lists

variable {α β : Type} {xs : List α}

theorem flatMap_eq_iff {f g : α → List β} (h : ∀ x ∈ xs, (f x).length ≤ (g x).length) :
    xs.flatMap f = xs.flatMap g ↔ ∀ x ∈ xs, f x = g x := by
  refine ⟨fun heq => ?_, List.flatMap_congr⟩
  induction xs with
  | nil => simp
  | cons x xs ih =>
    obtain ⟨hx, hxs⟩ := List.forall_mem_cons.1 h
    have hrest : (xs.flatMap f).length ≤ (xs.flatMap g).length := by
      rw [List.length_flatMap, List.length_flatMap]
      clear heq ih h
      induction xs with
      | nil => simp
      | cons y ys ih =>
        obtain ⟨hy, hys⟩ := List.forall_mem_cons.1 hxs
        simpa using Nat.add_le_add hy (ih hys)
    have hlength := congrArg List.length heq
    rw [List.flatMap_cons, List.flatMap_cons] at heq
    simp only [List.flatMap_cons, List.length_append] at hlength
    obtain ⟨hhead, htail⟩ := List.append_inj heq (by omega)
    exact List.forall_mem_cons.2 ⟨hhead, ih hxs htail⟩

theorem filterMap_eq_iff {f g : α → Option β} (h : ∀ x ∈ xs, (f x).isSome = (g x).isSome) :
    xs.filterMap f = xs.filterMap g ↔ ∀ x ∈ xs, f x = g x := by
  have hpieces : ∀ x, (f x).toList = (g x).toList ↔ f x = g x := fun x => by
    cases f x <;> cases g x <;> simp
  simp only [List.filterMap_eq_flatMap_toList]
  rw [flatMap_eq_iff fun x hx => ?_]
  · simp only [hpieces]
  · have hx := h x hx
    cases hf : f x <;> cases hg : g x <;> simp_all

end Lists

namespace Source

variable {type : String}

theorem ImplMember.isSome_member? (m : ImplMember) :
    (m.member? type).isSome = (m.asMember? type).isSome := by cases m <;> rfl

theorem raw_ne (type : String) : "r#" ++ type ≠ type ∧ "r#" ++ type ≠ "Self" := by
  constructor <;> intro h
  · have hlength := congrArg String.length h
    rw [String.length_append] at hlength
    have hmark : "r#".length = 2 := rfl
    omega
  · have htext := congrArg String.toList h
    rw [String.toList_append] at htext
    exact absurd (List.cons.inj htext).1 (by decide)

theorem ImplMember.member?_eq_iff (hname : Text.plainWord type = type) (m : ImplMember) :
    m.member? type = m.asMember? type ↔ ∀ name output, m = .function name false (some output) →
      output.isName ("r#" ++ type) = false := by
  cases m with
  | function name hasReceiver output =>
    cases output with
    | none => simp [member?, asMember?, functionKind, makes]
    | some output =>
      cases hasReceiver with
      | true => simp [member?, asMember?, functionKind, makes]
      | false =>
        have hraw : output.isName ("r#" ++ type) = true →
            output.isName type = false ∧ output.isName "Self" = false := fun h =>
          ⟨Bool.eq_false_iff.2 fun ht => (raw_ne type).1 (TypeExpr.isName_unique h ht),
            Bool.eq_false_iff.2 fun hs => (raw_ne type).2 (TypeExpr.isName_unique h hs)⟩
        simp only [member?, asMember?, functionKind, makes, output.denotes_eq hname]
        cases h : output.isName ("r#" ++ type) with
        | true => simp [hraw h, h]
        | false => simp [h]
  | constant name t => simp [member?, asMember?]
  | «alias» name => simp [member?, asMember?]
  | other => simp [member?, asMember?]

theorem Item.block_or (type : String) (i : Item) :
    (∃ marks self members, i = .single marks (.block false self members)) ∨
      i.membersOf type = [] ∧ i.blockFor type = [] ∧ i.SpellsPlainly type := by
  cases i with
  | module marks name items => exact .inr ⟨rfl, rfl, trivial⟩
  | single marks d =>
    cases d with
    | block ofTrait self members =>
      cases ofTrait with
      | false => exact .inl ⟨marks, self, members, rfl⟩
      | true => exact .inr ⟨rfl, rfl, trivial⟩
    | _ => exact .inr ⟨rfl, rfl, trivial⟩

theorem Item.length_membersOf_le (hname : Text.plainWord type = type) (i : Item) :
    (i.membersOf type).length ≤
      ((i.blockFor type).filterMap (ImplMember.asMember? type)).length := by
  obtain ⟨marks, self, members, rfl⟩ | ⟨hnone, -, -⟩ := i.block_or type
  · rw [membersOf, blockFor, TypeExpr.denotes_eq hname]
    cases self.isName type with
    | true =>
      simp only [Bool.true_or, if_true]
      rw [List.length_filterMap_eq_countP, List.length_filterMap_eq_countP]
      exact Nat.le_of_eq (congrArg (List.countP · members)
        (funext fun m => ImplMember.isSome_member? m))
    | false => simp
  · rw [hnone]
    exact Nat.zero_le _

theorem Item.membersOf_eq_iff (hname : Text.plainWord type = type) (i : Item) :
    i.membersOf type = (i.blockFor type).filterMap (ImplMember.asMember? type) ↔
      i.SpellsPlainly type := by
  obtain ⟨marks, self, members, rfl⟩ | ⟨hnone, hempty, hplain⟩ := i.block_or type
  · rw [membersOf, blockFor, SpellsPlainly, TypeExpr.denotes_eq hname]
    cases hplain : self.isName type with
    | true =>
      have hraw : self.isName ("r#" ++ type) = false := Bool.eq_false_iff.2 fun h =>
        (raw_ne type).1 (TypeExpr.isName_unique h hplain)
      simp only [Bool.true_or, if_true, hraw, Bool.false_eq_true, false_implies, true_and,
        true_implies]
      rw [filterMap_eq_iff fun m _ => ImplMember.isSome_member? m]
      simp only [ImplMember.member?_eq_iff hname]
      exact ⟨fun h name output hm => h _ hm name output rfl,
        fun h m hm name output e => h name output (e ▸ hm)⟩
    | false =>
      cases hraw : self.isName ("r#" ++ type) with
      | true =>
        simp only [Bool.false_eq_true, if_false, Bool.false_or, if_true, true_implies,
          false_implies, and_true]
        rw [eq_comm, List.filterMap_eq_nil_iff]
      | false => simp
  · rw [hnone, hempty]
    exact iff_of_true rfl hplain

end Source

/-- The scan finds all members of the blocks exactly when no block spells the type with a raw
mark. -/
theorem inherentMembers_eq_iff {type : String} (hname : Text.plainWord type = type)
    (items : List Item) :
    inherentMembers items type = blockMembers items type ↔ ∀ i ∈ items, i.SpellsPlainly type := by
  rw [inherentMembers, blockMembers, List.filterMap_flatMap,
    flatMap_eq_iff fun i _ => Item.length_membersOf_le hname i]
  simp only [Item.membersOf_eq_iff hname]

/-- The items of a file, or of a module at any depth in it, and the namespace they stand in. -/
inductive ItemsIn (file : List Item) (space : Namespace) : List Item → Namespace → Prop
  | file : ItemsIn file space file space
  | module {items inside : List Item} {inner : Namespace} {marks : List String} {name : Word}
    (outer : ItemsIn file space items inner) (mem : .module marks name inside ∈ items) :
    ItemsIn file space inside (inner.child (Text.plainWord name))

section Modules

variable {marker : String} {file items : List Item} {space inner : Namespace}

theorem scanItem_within {i : Item} (h : i ∈ items) :
    scanItem marker items space i <:+: scan marker space items := by
  obtain ⟨before, after, rfl⟩ := List.mem_iff_append.1 h
  rw [scan, scanAmong_append, scanAmong]
  exact ⟨_, _, List.append_assoc _ _ _⟩

theorem ItemsIn.scan_within (h : ItemsIn file space items inner) :
    scan marker inner items <:+: scan marker space file := by
  induction h with
  | file => exact List.infix_rfl
  | @module items inside inner marks name outer mem ih =>
    have hitem : scanItem marker items inner (.module marks name inside) <:+:
        scan marker inner items := scanItem_within mem
    rw [scanItem_eq, declarationsInside] at hitem
    exact (List.suffix_append _ _).isInfix.trans (hitem.trans ih)

end Modules

section Classes

variable {marker : String} {file items : List Item} {space inner : Namespace} {marks : List String}
  {name : Word} {fields : Fields}

theorem structDeclaration_of_ne_tuple (hclass : fields ≠ .tuple) (type : String) :
    structDeclaration type inner fields = ⟨type, inner, .class, fields.members⟩ := by
  cases fields with
  | named fields => rfl
  | tuple => exact absurd rfl hclass
  | unit => rfl

/-- An annotated struct with named fields or none, in the file or in a module at any depth, is found
as a class. It has the fields and behind them what the blocks beside it hold for it, each in order,
exactly when these blocks spell its name without a raw mark. -/
theorem members_complete_iff (hin : ItemsIn file space items inner)
    (hitem : .single marks (.struct name fields) ∈ items) (hmarked : marker ∈ marks)
    (hclass : fields ≠ .tuple) :
    ∃ d, ownDeclaration marker items inner (.single marks (.struct name fields)) = [d] ∧
      d ∈ scan marker space file ∧
      d.name = Text.plainWord name ∧ d.space = inner ∧ d.kind = .class ∧
      (d.members = fields.members ++ blockMembers items d.name ↔
        ∀ i ∈ items, i.SpellsPlainly d.name) := by
  have hown : ownDeclaration marker items inner (.single marks (.struct name fields)) =
      [⟨Text.plainWord name, inner, .class,
        fields.members ++ inherentMembers items (Text.plainWord name)⟩] := by
    have hmarks : isAnnotated marker (.single marks (.struct name fields)) = true :=
      List.contains_iff_mem.2 hmarked
    rw [ownDeclaration, if_pos hmarks, Item.declaration, Definition.declaration,
      structDeclaration_of_ne_tuple hclass]
    rfl
  refine ⟨_, hown, ?_, rfl, rfl, rfl, ?_⟩
  · refine hin.scan_within.subset ((scanItem_within hitem).subset ?_)
    rw [scanItem, hown]
    exact List.mem_singleton_self _
  · rw [List.append_cancel_left_eq]
    exact inherentMembers_eq_iff name.plainWord_plainWord items

end Classes

namespace Sample

def point : Word := ⟨"Point", by decide⟩

def byName (w : Word) : TypeExpr := .path false false [.plain w] []

def pointItems : List Item :=
  [.single [] (.block false (byName point)
    [.function ⟨"origin", by decide⟩ false (some (byName point)),
      .function ⟨"moved", by decide⟩ true (some (byName ⟨"Self", by decide⟩))]),
    .single ["custom_lombok"]
      (.struct point (.named [(⟨"x", by decide⟩, byName ⟨"f64", by decide⟩)]))]

def shapesFile : List Item := [.module [] ⟨"shapes", by decide⟩ pointItems]

def rawType : SourceText :=
  ⟨"#[custom_lombok] struct r#type \x7b a: u8 \x7d " ++
    "impl r#type \x7b fn make() -> Self \x7b todo!() \x7d \x7d", "lib.rs"⟩

end Sample

open Sample in
theorem members_complete_point : ∃ d ∈ scan "custom_lombok" .root shapesFile,
    d.name = "Point" ∧ d.space = Namespace.root.child "shapes" ∧
    d.members = [⟨"x", .field (.named "f64")⟩, ⟨"origin", .constructor⟩, ⟨"moved", .method⟩] := by
  have hplain : ∀ i ∈ pointItems, i.SpellsPlainly "Point" := by
    rw [← inherentMembers_eq_iff rfl]
    decide
  have hshapes : Text.plainWord "shapes" = "shapes" := by decide
  have hpoint : Text.plainWord point = "Point" := by decide
  have hin : ItemsIn shapesFile .root pointItems _ := .module .file (List.mem_singleton_self _)
  obtain ⟨d, -, hd, hname, hspace, -, hmembers⟩ := members_complete_iff hin
    (List.mem_cons_of_mem _ (List.mem_singleton_self _)) (List.mem_singleton_self _) (by nofun)
  rw [hpoint] at hname
  rw [hshapes] at hspace
  rw [hname] at hmembers
  refine ⟨d, hd, hname, hspace, (hmembers.2 hplain).trans ?_⟩
  decide

/-- A block for the name behind a raw mark adds nothing. -/
theorem raw_block_left_out : ∃ items,
    SourceText.items Sample.rawType = .ok items ∧
    scan "custom_lombok" .root items = [⟨"type", .root, .class, [⟨"a", .field (.named "u8")⟩]⟩] ∧
    blockMembers items "type" = [⟨"make", .constructor⟩] := by
  have hread : (SourceText.items Sample.rawType).toOption.map
        (fun items => (scan "custom_lombok" .root items, blockMembers items "type")) =
      some ([⟨"type", .root, .class, [⟨"a", .field (.named "u8")⟩]⟩],
        [⟨"make", .constructor⟩]) := by
    decide +kernel
  obtain ⟨items, hitems, hfound⟩ := exists_items hread
  exact ⟨items, hitems, Prod.mk.inj hfound⟩

end AccessorGen
