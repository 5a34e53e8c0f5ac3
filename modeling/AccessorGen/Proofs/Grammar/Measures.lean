import AccessorGen.Proofs.Grammar.Items

/-! The tokens of generated items have no quotes among them, and there are enough of them for the
grammar that is made for their number to read them. -/

namespace AccessorGen.Source

open Token (nowhere sizeAll size plainAll sizeAll_append plainAll_append
  plainAll_flatMap)

theorem plain_pathFront (rooted : Bool) (front : List PathName) :
    plainAll (pathFront rooted front) = true := by
  rw [pathFront, plainAll_append, plainAll_flatMap fun _ _ => rfl]
  cases rooted <;> rfl

namespace PathType

mutual

theorem plain_tokens (t : PathType) (joint : Bool) : plainAll (t.tokens joint) = true := by
  cases t with
  | plain rooted front last =>
    rw [tokens, plainAll_append, plain_pathFront]
    rfl
  | applied rooted front last arg args =>
    have hargs := plain_tokensBehind args
    simp [tokens, plainAll_append, plain_pathFront, plainAll, Token.plain, Token.ofWord,
      plain_tokens arg, hargs]
  | paren t => simp [tokens, plainAll, Token.plain, plain_tokens t]

theorem plain_tokensBehind (ts : List PathType) : plainAll (tokensBehind ts) = true := by
  match ts with
  | [] => rfl
  | a :: as =>
    simp [tokensBehind, plainAll_append, plainAll, Token.plain, plain_tokens a,
      plain_tokensBehind as]

theorem depth_le_sizeAll (t : PathType) (joint : Bool) : t.depth ≤ sizeAll (t.tokens joint) := by
  cases t with
  | plain rooted front last => exact Nat.zero_le _
  | applied rooted front last arg args =>
    have harg := depth_le_sizeAll arg true
    have hargs := depthAll_le_sizeAll args
    simp only [depth, tokens, sizeAll_append, sizeAll, size, Token.ofWord]
    omega
  | paren t =>
    have hinner := depth_le_sizeAll t false
    simp only [depth, tokens, sizeAll, size]
    omega

theorem depthAll_le_sizeAll (ts : List PathType) : depthAll ts ≤ sizeAll (tokensBehind ts) := by
  match ts with
  | [] => exact Nat.zero_le _
  | a :: as =>
    have ha := depth_le_sizeAll a true
    have has := depthAll_le_sizeAll as
    simp only [depthAll, tokensBehind, sizeAll_append, sizeAll, size]
    omega

end

end PathType

theorem plain_attributeTokens (n : Name) {content : List Token}
    (h : plainAll content = true) : plainAll (attributeTokens n content) = true := by
  simp [attributeTokens, plainAll, Token.plain, Token.ofWord, h]

theorem plain_starTokens (names : List Name) : plainAll (starTokens names) = true := by
  induction names with
  | nil => rfl
  | cons n names ih => rw [starTokens, plainAll_append, plainAll, ih]; rfl

theorem plain_moduleTokens (n : Name) : plainAll (moduleTokens n) = true := rfl

theorem plain_derived (p : PlainPath) : plainAll p.tokens = true := by
  rw [PlainPath.tokens, plainAll_append, plain_pathFront]
  rfl

theorem plain_fieldTokens (f : FieldSyntax) : plainAll (f.tokens ++ [comma]) = true := by
  simp [FieldSyntax.tokens, comma, plainAll_append, plainAll, Token.plain, Token.ofWord,
    PathType.plain_tokens]

theorem plain_accessorTokens (f : FieldSyntax) :
    plainAll (f.getterTokens ++ f.setterTokens) = true := by
  simp [FieldSyntax.getterTokens, FieldSyntax.setterTokens, functionTokens, receiverTokens,
    outputTokens, cloneTokens, assignTokens, dot, equalsSign, plainAll_append, plainAll,
    Token.plain, Token.ofWord, PathType.plain_tokens]

namespace CompanionSyntax

theorem plain_itemTokens (c : CompanionSyntax) :
    plainAll c.itemTokens.flatten = true := by
  have hderive : plainAll c.deriveFront.tokens = true := by
    unfold deriveFront
    cases c.derives with
    | nil => rfl
    | cons p ps =>
      refine plain_attributeTokens _ ?_
      rw [plainAll_append, plain_derived, plainAll_flatMap fun q _ => ?_]
      · rfl
      · rw [plainAll, plain_derived]
        rfl
  have himpl : plainAll c.implFront.tokens = true := by
    unfold implFront
    split <;> rfl
  have hfields := plainAll_flatMap fun f (_ : f ∈ c.fields) => plain_fieldTokens f
  have haccessors := plainAll_flatMap fun f (_ : f ∈ c.fields) => plain_accessorTokens f
  have hstar := plain_starTokens c.space
  have himport : plainAll importFront.tokens = true := rfl
  simp [itemTokens, plainAll_append, importTokens, structTokens, implTokens, plainAll,
    Token.plain, Token.ofWord, hderive, himpl, hfields, haccessors, hstar, himport]

theorem length_le_sizeAll (names : List Name) : names.length ≤ sizeAll (starTokens names) := by
  induction names with
  | nil => exact Nat.zero_le _
  | cons n names ih =>
    simp only [starTokens, colons, sizeAll_append, sizeAll, size, List.length_cons, Token.ofWord]
    omega

theorem depthAll_le_sizeAll (fields : List FieldSyntax) :
    PathType.depthAll (fields.map FieldSyntax.type) ≤
      sizeAll (fields.flatMap fun f => f.tokens ++ [comma]) := by
  induction fields with
  | nil => exact Nat.zero_le _
  | cons f fields ih =>
    have htype := f.type.depth_le_sizeAll true
    simp only [List.map_cons, PathType.depthAll, List.flatMap_cons, sizeAll_append,
      FieldSyntax.tokens, sizeAll, size, Token.ofWord] at ih ⊢
    omega

theorem levels_le (c : CompanionSyntax) : c.levels ≤ 4 * sizeAll c.itemTokens.flatten + 16 := by
  have hspace := length_le_sizeAll c.space
  have hfields := depthAll_le_sizeAll c.fields
  simp only [levels, itemTokens, List.flatten_cons, sizeAll_append, importTokens, structTokens,
    sizeAll, size]
  omega

end CompanionSyntax

end AccessorGen.Source
