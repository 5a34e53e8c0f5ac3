import AccessorGen.Discovery.SourceFile

/-! What the scan gives for one item: its own declaration, if it is annotated, and behind it those
of the items inside. From its siblings a class gets members, but no fields. -/

namespace AccessorGen

open Source

theorem functionKind_eq (type : String) (hasReceiver : Bool) (output : Option TypeExpr) :
    functionKind type hasReceiver output = .constructor ∨
      functionKind type hasReceiver output = .method := by
  cases output with
  | none => exact .inr rfl
  | some t =>
    rw [functionKind]
    split
    · exact .inl rfl
    · exact .inr rfl

theorem isField_of_member? {type : String} {i : ImplMember} {m : Member}
    (h : i.member? type = some m) : m.isField = false := by
  cases i with
  | function name hasReceiver output =>
    obtain rfl := Option.some.inj h
    rw [Member.isField]
    obtain hkind | hkind := functionKind_eq type hasReceiver output <;> rw [hkind]
  | constant name t =>
    obtain rfl := Option.some.inj h
    rfl
  | «alias» name =>
    obtain rfl := Option.some.inj h
    rfl
  | other => cases h

theorem isField_inherentMembers {siblings : List Item} {type : String} {m : Member}
    (h : m ∈ inherentMembers siblings type) : m.isField = false := by
  obtain ⟨i, -, hi⟩ := List.mem_flatMap.1 h
  unfold Item.membersOf at hi
  split at hi
  · split at hi
    · obtain ⟨member, -, hm⟩ := List.mem_filterMap.1 hi
      exact isField_of_member? hm
    · cases hi
  · cases hi

theorem withInherent_eq (siblings : List Item) (d : Declaration) :
    ∃ members, withInherent siblings d = { d with members := d.members ++ members } ∧
      ∀ m ∈ members, m.isField = false := by
  unfold withInherent
  split
  · exact ⟨_, rfl, fun _ hm => isField_inherentMembers hm⟩
  · exact ⟨[], by rw [List.append_nil], fun _ hm => absurd hm List.not_mem_nil⟩

theorem fields_withInherent (siblings : List Item) (d : Declaration) :
    (withInherent siblings d).members.filter Member.isField = d.members.filter Member.isField := by
  obtain ⟨members, hd, hmembers⟩ := withInherent_eq siblings d
  have hnone : members.filter Member.isField = [] :=
    List.filter_eq_nil_iff.2 fun m hm => by simp [hmembers m hm]
  rw [hd, List.filter_append, hnone, List.append_nil]

theorem withInherent_of_not_class {d : Declaration} (siblings : List Item)
    (h : d.kind.isClass = false) : withInherent siblings d = d := by
  rw [withInherent, h]
  rfl

section Items

variable {marker : String} {siblings : List Item} {space : Namespace}

theorem declaration_space (space : Namespace) (i : Item) : (i.declaration space).space = space := by
  cases i with
  | module marks name items => rfl
  | single marks d =>
    cases d with
    | struct name fields => cases fields <;> rfl
    | macroCall name => cases name <;> rfl
    | _ => rfl

def declarationsInside (marker : String) (space : Namespace) : Item → List Declaration
  | .module _ name items => scan marker (space.child (Text.plainWord name)) items
  | .single _ _ => []

theorem scanItem_eq (i : Item) : scanItem marker siblings space i =
    ownDeclaration marker siblings space i ++ declarationsInside marker space i := by
  cases i with
  | module marks name items => rw [scanItem, declarationsInside, scan]
  | single marks d => rw [scanItem, declarationsInside, List.append_nil]

theorem scanAmong_append (before after : List Item) :
    scanAmong marker siblings space (before ++ after) =
      scanAmong marker siblings space before ++ scanAmong marker siblings space after := by
  induction before with
  | nil => rfl
  | cons i before ih => rw [List.cons_append, scanAmong, scanAmong, ih, List.append_assoc]

end Items

/-- An `impl` block, of a trait or not. -/
inductive Source.Item.IsBlock : Item → Prop
  | block (marks : List String) (ofTrait : Bool) (self : TypeExpr) (members : List ImplMember) :
    IsBlock (.single marks (.block ofTrait self members))

theorem exists_items {X : Type} {src : SourceText} {f : List Item → X} {x : X}
    (h : src.items.toOption.map f = some x) : ∃ items, src.items = .ok items ∧ f items = x := by
  cases hitems : src.items with
  | error fault => simp [hitems, Except.toOption] at h
  | ok items =>
    rw [hitems] at h
    exact ⟨items, rfl, Option.some.inj h⟩

end AccessorGen
