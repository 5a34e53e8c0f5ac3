import AccessorGen.Proofs.Discovery.Scan
import AccessorGen.Proofs.Grammar.Bare

/-! Syntax trees without the places of their tokens. A discovery does not look at places, so items
that stand elsewhere in a file but are written alike give the same declarations. -/

namespace AccessorGen

namespace Source

open Token (nowhere)

mutual

def TypeExpr.bare : TypeExpr → TypeExpr
  | .path qualified rooted segments printed =>
    .path qualified rooted (Segment.bareAll segments) (Token.bareAll printed)
  | .paren inner printed => .paren inner.bare (Token.bareAll printed)
  | .bounds single printed => .bounds single (Token.bareAll printed)
  | .other printed => .other (Token.bareAll printed)

def Segment.bare : Segment → Segment
  | .plain name => .plain name
  | .angle name args => .angle name (Argument.bareAll args)
  | .round name => .round name

def Segment.bareAll : List Segment → List Segment
  | [] => []
  | s :: rest => s.bare :: Segment.bareAll rest

def Argument.bare : Argument → Argument
  | .type t => .type t.bare
  | .other => .other

def Argument.bareAll : List Argument → List Argument
  | [] => []
  | a :: rest => a.bare :: Argument.bareAll rest

end

def Fields.bare : Fields → Fields
  | .named fields => .named (fields.map fun f => (f.1, f.2.bare))
  | .tuple => .tuple
  | .unit => .unit

def ImplMember.bare : ImplMember → ImplMember
  | .function name hasReceiver output => .function name hasReceiver (output.map TypeExpr.bare)
  | .constant name type => .constant name type.bare
  | .alias name => .alias name
  | .other => .other

def Definition.bare : Definition → Definition
  | .struct name fields => .struct name fields.bare
  | .block ofTrait self members => .block ofTrait self.bare (members.map ImplMember.bare)
  | d => d

mutual

def Item.bare : Item → Item
  | .module marks name items => .module marks name (Item.bareAll items)
  | .single marks d => .single marks d.bare

def Item.bareAll : List Item → List Item
  | [] => []
  | i :: rest => i.bare :: Item.bareAll rest

end

namespace Spelling

mutual

theorem token_bare (st : State) (t : Token) : token st t.bare = token st t := by
  cases t with
  | group d content s => rw [Token.bare_group, token, token, tokens_bareAll start content]
  | _ => simp [token]

theorem tokens_bareAll (st : State) (ts : List Token) :
    tokens st (Token.bareAll ts) = tokens st ts := by
  match ts with
  | [] => rw [Token.bareAll_nil]
  | t :: ts => rw [Token.bareAll_cons, tokens, tokens, token_bare st t, tokens_bareAll _ ts]

end

theorem text_bareAll (ts : List Token) : text (Token.bareAll ts) = text ts := by
  rw [text, text, tokens_bareAll]

end Spelling

namespace TypeExpr

theorem printed_bare (t : TypeExpr) : t.bare.printed = Token.bareAll t.printed := by
  cases t <;> simp [bare, printed]

theorem isName_bare (name : String) (t : TypeExpr) : t.bare.isName name = t.isName name := by
  match t with
  | .path true _ _ _ => simp [bare, isName]
  | .path false true _ _ => simp [bare, isName]
  | .path false false [] _ => simp [bare, Segment.bareAll, isName]
  | .path false false [s] _ => cases s <;> simp [bare, Segment.bareAll, Segment.bare, isName]
  | .path false false (_ :: _ :: _) _ => simp [bare, Segment.bareAll, isName]
  | .paren _ _ => simp [bare, isName]
  | .bounds _ _ => simp [bare, isName]
  | .other _ => simp [bare, isName]

mutual

theorem reference_bare (t : TypeExpr) : t.bare.reference = t.reference := by
  match t with
  | .path true rooted segments printed =>
    rw [bare, reference, reference, Spelling.text_bareAll]
  | .path false rooted segments printed =>
    rw [bare, reference, reference, pathReference_bareAll _ segments, Spelling.text_bareAll]
  | .paren inner printed => rw [bare, reference_paren, reference_paren, reference_bare inner]
  | .bounds single printed => rw [bare, reference, reference, Spelling.text_bareAll]
  | .other printed => rw [bare, reference, reference, Spelling.text_bareAll]

theorem pathReference_bareAll (start : String) (segments : List Segment) :
    pathReference start (Segment.bareAll segments) = pathReference start segments := by
  match segments with
  | [] => rw [Segment.bareAll]
  | [s] =>
    rw [Segment.bareAll, Segment.bareAll, pathReference, pathReference, segmentReference_bare]
  | .plain name :: s :: rest =>
    have hrest := pathReference_bareAll (start ++ name.text ++ "::") (s :: rest)
    simpa [Segment.bareAll, Segment.bare, pathReference] using hrest
  | .angle name args :: s :: rest => simp [Segment.bareAll, Segment.bare, pathReference]
  | .round name :: s :: rest => simp [Segment.bareAll, Segment.bare, pathReference]

theorem segmentReference_bare (start : String) (s : Segment) :
    segmentReference start s.bare = segmentReference start s := by
  match s with
  | .plain name => rw [Segment.bare]
  | .angle name args =>
    rw [Segment.bare, segmentReference, segmentReference, argumentReferences_bareAll args]
  | .round name => rw [Segment.bare]

theorem argumentReferences_bareAll (args : List Argument) :
    argumentReferences (Argument.bareAll args) = argumentReferences args := by
  match args with
  | [] => rw [Argument.bareAll]
  | .type t :: rest =>
    rw [Argument.bareAll, Argument.bare, argumentReferences, argumentReferences,
      argumentReferences_bareAll rest, reference_bare t]
  | .other :: rest => rw [Argument.bareAll, Argument.bare, argumentReferences, argumentReferences]

end

end TypeExpr

end Source

open Source

theorem fieldMembers_bare (fields : List (Word × TypeExpr)) :
    fieldMembers (fields.map fun f => (f.1, f.2.bare)) = fieldMembers fields := by
  simp [fieldMembers, TypeExpr.reference_bare]

theorem definition_declaration_bare (space : Namespace) (d : Definition) :
    d.bare.declaration space = d.declaration space := by
  cases d with
  | struct name fields =>
    cases fields with
    | named fields =>
      simp only [Definition.bare, Fields.bare, Definition.declaration, structDeclaration,
        fieldMembers_bare]
    | _ => rfl
  | block ofTrait self members =>
    simp only [Definition.bare, Definition.declaration, TypeExpr.printed_bare,
      Spelling.text_bareAll]
  | _ => rfl

theorem declaration_bare (space : Namespace) (i : Item) :
    i.bare.declaration space = i.declaration space := by
  cases i with
  | module marks name items => simp only [Item.bare, Item.declaration]
  | single marks d => simp only [Item.bare, Item.declaration, definition_declaration_bare]

theorem marks_bare (i : Item) : i.bare.marks = i.marks := by
  cases i with
  | module marks name items => simp only [Item.bare, Item.marks]
  | single marks d => cases d <;> simp only [Item.bare, Definition.bare, Item.marks]

theorem isAnnotated_bare (marker : String) (i : Item) :
    isAnnotated marker i.bare = isAnnotated marker i := by
  rw [isAnnotated, isAnnotated, marks_bare]

theorem functionKind_bare (type : String) (hasReceiver : Bool) (output : Option TypeExpr) :
    functionKind type hasReceiver (output.map TypeExpr.bare) =
      functionKind type hasReceiver output := by
  cases output with
  | none => rfl
  | some t => simp only [Option.map_some, functionKind, TypeExpr.isName_bare]

theorem member?_bare (type : String) (m : ImplMember) : m.bare.member? type = m.member? type := by
  cases m with
  | function name hasReceiver output =>
    simp only [ImplMember.bare, ImplMember.member?, functionKind_bare]
  | constant name t => simp only [ImplMember.bare, ImplMember.member?, TypeExpr.reference_bare]
  | _ => rfl

theorem membersOf_bare (type : String) (i : Item) : i.bare.membersOf type = i.membersOf type := by
  cases i with
  | module marks name items => simp only [Item.bare, Item.membersOf]
  | single marks d =>
    cases d with
    | block ofTrait self members =>
      cases ofTrait <;>
        simp only [Item.bare, Definition.bare, Item.membersOf, TypeExpr.isName_bare,
          List.filterMap_map, Function.comp_def, member?_bare]
    | _ => simp only [Item.bare, Definition.bare, Item.membersOf]

theorem inherentMembers_bareAll (items : List Item) (type : String) :
    inherentMembers (Item.bareAll items) type = inherentMembers items type := by
  induction items with
  | nil => simp only [Item.bareAll]
  | cons i items ih =>
    rw [inherentMembers] at ih ⊢
    rw [Item.bareAll, List.flatMap_cons, ih, membersOf_bare]
    rfl

theorem withInherent_bareAll (siblings : List Item) (d : Declaration) :
    withInherent (Item.bareAll siblings) d = withInherent siblings d := by
  rw [withInherent, withInherent, inherentMembers_bareAll]

theorem ownDeclaration_bare (marker : String) (siblings : List Item) (space : Namespace)
    (i : Item) : ownDeclaration marker (Item.bareAll siblings) space i.bare =
      ownDeclaration marker siblings space i := by
  rw [ownDeclaration, ownDeclaration, isAnnotated_bare, withInherent_bareAll, declaration_bare]

mutual

theorem scanItem_bare (marker : String) (siblings : List Item) (space : Namespace) (i : Item) :
    scanItem marker (Item.bareAll siblings) space i.bare = scanItem marker siblings space i := by
  have hown := ownDeclaration_bare marker siblings space i
  match i with
  | .module marks name items =>
    -- Inside a module the siblings are its own items.
    rw [Item.bare] at hown ⊢
    rw [scanItem, scanItem, hown, scanAmong_bareAll marker items _ items]
  | .single marks d =>
    rw [Item.bare] at hown ⊢
    rw [scanItem, scanItem, hown]

theorem scanAmong_bareAll (marker : String) (siblings : List Item) (space : Namespace)
    (items : List Item) : scanAmong marker (Item.bareAll siblings) space (Item.bareAll items) =
      scanAmong marker siblings space items := by
  match items with
  | [] => rw [Item.bareAll, scanAmong, scanAmong]
  | i :: items =>
    rw [Item.bareAll, scanAmong, scanAmong, scanItem_bare marker siblings space i,
      scanAmong_bareAll marker siblings space items]

end

theorem scan_bareAll (marker : String) (space : Namespace) (items : List Item) :
    scan marker space (Item.bareAll items) = scan marker space items :=
  scanAmong_bareAll marker items space items

end AccessorGen
