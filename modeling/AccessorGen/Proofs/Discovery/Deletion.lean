import AccessorGen.Proofs.Discovery.Unplaced
import AccessorGen.Proofs.Output.Agreement
import AccessorGen.Proofs.Source.Equality

/-! What a round does not depend on. Items that are not annotated and hold no others add nothing to
a discovery, and the members that `impl` blocks add to a class are no fields. So two files with the
same annotated items inside the same modules, wherever these stand in the files, have the same
preview, and no `impl` block, annotated or not, changes a companion. -/

namespace AccessorGen

open Source

namespace Source

/-- The second list is left of the first when some items with a property are deleted, in it and at
every depth of its modules. -/
inductive Deletes (p : Item → Prop) : List Item → List Item → Prop
  | nil : Deletes p [] []
  | drop {i : Item} {rest left : List Item} (gone : p i) (others : Deletes p rest left) :
    Deletes p (i :: rest) left
  | single {marks : List String} {d : Definition} {rest left : List Item}
    (others : Deletes p rest left) : Deletes p (.single marks d :: rest) (.single marks d :: left)
  | module {marks : List String} {name : Word} {items kept rest left : List Item}
    (inside : Deletes p items kept) (others : Deletes p rest left) :
    Deletes p (.module marks name items :: rest) (.module marks name kept :: left)

/-- Both files are the same when some items with a property are deleted from each, wherever what is
left stands in the one and in the other. -/
def SameBut (p : Item → Prop) (a b : List Item) : Prop :=
  ∃ c, Deletes p (Item.bareAll a) c ∧ Deletes p (Item.bareAll b) c

namespace Item

/-- An item that is not annotated and holds no others. A module that is in another file has nothing
inside. -/
inductive Idle (marker : String) : Item → Prop
  | single {marks : List String} {d : Definition}
    (plain : isAnnotated marker (.single marks d) = false) : Idle marker (.single marks d)
  | module {marks : List String} {name : Word}
    (plain : isAnnotated marker (.module marks name []) = false) :
    Idle marker (.module marks name [])

end Item

end Source

namespace Declaration

def core (d : Declaration) : Declaration := { d with members := d.members.filter Member.isField }

theorem fields_core (d : Declaration) : d.core.fields = d.fields := by
  unfold fields core
  rw [List.filterMap_filter]
  refine List.filterMap_congr fun m _ => ?_
  obtain ⟨name, kind⟩ := m
  cases kind <;> rfl

theorem companion_core (d : Declaration) : d.core.companion = d.companion := by
  rw [companion, companion, fields_core]
  rfl

theorem core_withInherent (siblings : List Item) (d : Declaration) :
    (withInherent siblings d).core = d.core := by
  obtain ⟨members, hd, -⟩ := withInherent_eq siblings d
  rw [core, fields_withInherent, hd]
  rfl

theorem emit_core {σ : Type} (sink : Sink σ) (d : Declaration) (s : σ) :
    d.core.emit sink s = d.emit sink s := by
  rw [emit, emit, companion_core]
  rfl

end Declaration

theorem process_core {σ : Type} (sink : Sink σ) (ds : List Declaration) (s : σ) :
    process sink (ds.map Declaration.core) s = process sink ds s := by
  induction ds generalizing s with
  | nil => rfl
  | cons d ds ih =>
    have hcore : d.core.emit sink s = ((d.emit sink s).1, (d.emit sink s).2) :=
      Declaration.emit_core sink d s
    rw [List.map_cons, process_cons hcore, process_cons rfl, ih]
    rfl

section Scans

variable {X : Type} {f : Declaration → Option X} {marker : String} {p : Item → Prop}

theorem filterMap_ownDeclaration (hf : ∀ siblings d, f (withInherent siblings d) = f d)
    (siblings siblings' : List Item) {space : Namespace} {i j : Item} (hmarks : i.marks = j.marks)
    (hsame : i.declaration space = j.declaration space) :
    (ownDeclaration marker siblings space i).filterMap f =
      (ownDeclaration marker siblings' space j).filterMap f := by
  unfold ownDeclaration isAnnotated
  rw [hmarks, hsame]
  split
  · simp only [List.filterMap_cons, hf]
  · rfl

/-- What is read off the declarations of a file does not change with a deletion of items that
contribute nothing to it, if the members of siblings do not matter. -/
theorem filterMap_scanAmong_of_deletes (hf : ∀ siblings d, f (withInherent siblings d) = f d)
    (hp : ∀ i, p i → ∀ siblings space, (scanItem marker siblings space i).filterMap f = [])
    {items left : List Item} (h : Deletes p items left) (siblings siblings' : List Item)
    (space : Namespace) : (scanAmong marker siblings space items).filterMap f =
      (scanAmong marker siblings' space left).filterMap f := by
  -- A deletion also changes the siblings of what is left, so these are general on both sides.
  induction h generalizing siblings siblings' space with
  | nil => rfl
  | drop gone others ih =>
    rw [scanAmong, List.filterMap_append, hp _ gone, ih siblings siblings']
    rfl
  | single others ih =>
    simp only [scanAmong, scanItem, List.filterMap_append]
    rw [filterMap_ownDeclaration hf siblings siblings' rfl rfl, ih siblings siblings']
  | @module marks name items kept rest left inside others ihinside ih =>
    -- The declaration of a module does not depend on what is inside.
    have hown : (ownDeclaration marker siblings space (.module marks name items)).filterMap f =
        (ownDeclaration marker siblings' space (.module marks name kept)).filterMap f :=
      filterMap_ownDeclaration hf siblings siblings' rfl rfl
    simp only [scanAmong, scanItem, List.filterMap_append]
    rw [hown, ihinside items kept, ih siblings siblings']

theorem filterMap_scan_of_sameBut (hf : ∀ siblings d, f (withInherent siblings d) = f d)
    (hp : ∀ i, p i → ∀ siblings space, (scanItem marker siblings space i).filterMap f = [])
    {a b : List Item} (h : SameBut p a b) (space : Namespace) :
    (scan marker space a).filterMap f = (scan marker space b).filterMap f := by
  obtain ⟨c, ha, hb⟩ := h
  rw [← scan_bareAll marker space a, ← scan_bareAll marker space b]
  exact (filterMap_scanAmong_of_deletes hf hp ha (Item.bareAll a) c space).trans
    (filterMap_scanAmong_of_deletes hf hp hb (Item.bareAll b) c space).symm

theorem scanItem_of_idle {i : Item} (h : i.Idle marker) (siblings : List Item)
    (space : Namespace) : scanItem marker siblings space i = [] := by
  cases h with
  | single plain => simp [scanItem, ownDeclaration, plain]
  | module plain => simp [scanItem, scanAmong, ownDeclaration, plain]

theorem accepted_scanItem_of_isBlock {i : Item} (h : i.IsBlock) (siblings : List Item)
    (space : Namespace) : accepted (scanItem marker siblings space i) = [] := by
  cases h with
  | block marks ofTrait self members =>
    rw [scanItem, ownDeclaration]
    split
    · exact accepted_cons_error rfl []
    · rfl

end Scans

section Previews

variable {marker : String} {a b : List Item}

theorem core_scan_of_sameBut (h : SameBut (Item.Idle marker) a b) (space : Namespace) :
    (scan marker space a).map Declaration.core = (scan marker space b).map Declaration.core := by
  simp only [← List.filterMap_eq_map]
  refine filterMap_scan_of_sameBut (fun siblings d => ?_) (fun i hi siblings space => ?_) h space
  · exact congrArg some (d.core_withInherent siblings)
  · rw [scanItem_of_idle hi]
    rfl

theorem accepted_scan_of_sameBut (h : SameBut (fun i => i.Idle marker ∨ i.IsBlock) a b)
    (space : Namespace) : accepted (scan marker space a) = accepted (scan marker space b) := by
  refine filterMap_scan_of_sameBut (fun siblings d => ?_) (fun i hi siblings space => ?_) h space
  · obtain ⟨members, hd, -⟩ := withInherent_eq siblings d
    rw [← Declaration.companion_core (withInherent siblings d), d.core_withInherent,
      Declaration.companion_core, hd]
  · obtain hidle | hblock := hi
    · rw [scanItem_of_idle hidle]
      rfl
    · exact accepted_scanItem_of_isBlock hblock siblings space

/-- Two files have the same preview, its report and its diagnostics included, if they are the same
but for items that are not annotated and hold no others. They have the same companions in the same
files, and report them alike, if they are the same but for such items and for `impl` blocks. -/
theorem preview_of_sameBut (marker : String) (a b : List Item) (space : Namespace)
    (options : RenderOptions) :
    (SameBut (Item.Idle marker) a b →
      previewRound options (scan marker space a) = previewRound options (scan marker space b)) ∧
    (SameBut (fun i => i.Idle marker ∨ i.IsBlock) a b →
      accepted (scan marker space a) = accepted (scan marker space b) ∧
      (previewRound options (scan marker space a)).1.generated =
        (previewRound options (scan marker space b)).1.generated ∧
      (previewRound options (scan marker space a)).2.2 =
        (previewRound options (scan marker space b)).2.2) := by
  refine ⟨fun h => ?_, fun h => ?_⟩
  · rw [previewRound, previewRound, ← process_core _ (scan marker space a),
      ← process_core _ (scan marker space b), core_scan_of_sameBut h]
  · have hsame := accepted_scan_of_sameBut h space
    refine ⟨hsame, ?_, ?_⟩
    · have hgenerated (ds : List Declaration) : (previewRound options ds).1.generated =
          (accepted ds).map fun a => a.1.qualify a.2.name :=
        process_generated (failed_preview options ds .empty)
      rw [hgenerated, hgenerated, hsame]
    · rw [files_previewRound, files_previewRound, hsame]

end Previews

section Examples

def userText (front : String) : SourceText :=
  ⟨"mod data \x7b " ++ front ++
    "#[custom_lombok] struct User \x7b next: Option<User> \x7d fn run() \x7b\x7d \x7d", "lib.rs"⟩

def userBlockText : String := "impl User \x7b fn new() -> User \x7b todo!() \x7d \x7d "

def user : Word := ⟨"User", by decide⟩

def userType : TypeExpr := .path false false [.plain user] [.word user Token.nowhere]

def optionType : TypeExpr :=
  .path false false [.angle ⟨"Option", by decide⟩ [.type userType]]
    [.word ⟨"Option", by decide⟩ Token.nowhere, .mark '<' false Token.nowhere,
      .word user Token.nowhere, .mark '>' false Token.nowhere]

def userBlock (marks : List String) : Item :=
  .single marks (.block false userType [.function ⟨"new", by decide⟩ false (some userType)])

def moduleWith (front : List Item) : List Item :=
  [.module [] ⟨"data", by decide⟩ (front ++
    [.single ["custom_lombok"] (.struct user (.named [(⟨"next", by decide⟩, optionType)])),
      .single [] (.function ⟨"run", by decide⟩)])]

/-- Blocks in front of a class move it and change nothing else. -/
theorem preview_user : ∃ a b c, (userText "").items = .ok a ∧
    (userText userBlockText).items = .ok b ∧
    (userText ("#[custom_lombok] " ++ userBlockText)).items = .ok c ∧
    previewRound {} (scan "custom_lombok" .root a) =
      previewRound {} (scan "custom_lombok" .root b) ∧
    accepted (scan "custom_lombok" .root b) = accepted (scan "custom_lombok" .root c) ∧
    (accepted (scan "custom_lombok" .root b)).map (·.2.name) = ["UserData"] := by
  have hread : (userText "").items.toOption.map Item.bareAll = some (moduleWith []) := by
    decide +kernel
  have hreadBlock : (userText userBlockText).items.toOption.map Item.bareAll =
      some (moduleWith [userBlock []]) := by decide +kernel
  have hreadMarked : (userText ("#[custom_lombok] " ++ userBlockText)).items.toOption.map
      Item.bareAll = some (moduleWith [userBlock ["custom_lombok"]]) := by decide +kernel
  obtain ⟨a, ha, hbare⟩ := exists_items hread
  obtain ⟨b, hb, hbareBlock⟩ := exists_items hreadBlock
  obtain ⟨c, hc, hbareMarked⟩ := exists_items hreadMarked
  have hblock : (userBlock []).Idle "custom_lombok" := .single (by decide)
  have hnone : SameBut (Item.Idle "custom_lombok") a b := by
    refine ⟨moduleWith [], ?_, ?_⟩
    · rw [hbare]
      exact .module (.single (.single .nil)) .nil
    · rw [hbareBlock]
      exact .module (.drop hblock (.single (.single .nil))) .nil
  have hmarked : SameBut (fun i => i.Idle "custom_lombok" ∨ i.IsBlock) b c := by
    refine ⟨moduleWith [], ?_, ?_⟩
    · rw [hbareBlock]
      exact .module (.drop (.inl hblock) (.single (.single .nil))) .nil
    · rw [hbareMarked]
      exact .module (.drop (.inr (.block ..)) (.single (.single .nil))) .nil
  refine ⟨a, b, c, ha, hb, hc, (preview_of_sameBut _ _ _ .root {}).1 hnone,
    ((preview_of_sameBut _ _ _ .root {}).2 hmarked).1, ?_⟩
  rw [← scan_bareAll, hbareBlock]
  decide +kernel

end Examples

end AccessorGen
