import AccessorGen.Source.Syntax

/-! Equality of tokens and of syntax trees is decidable. It is decided along the trees by hand, since
a token and an item hold lists of their own kind. -/

namespace AccessorGen.Source

mutual

def Token.decEq : (t u : Token) → Decidable (t = u)
  | .word v s, .word w s' => decidable_of_iff (v = w ∧ s = s') (by simp)
  | .mark c joint s, .mark d joint' s' =>
    decidable_of_iff (c = d ∧ joint = joint' ∧ s = s') (by simp)
  | .literal text s, .literal text' s' => decidable_of_iff (text = text' ∧ s = s') (by simp)
  | .group d ts s, .group e us s' =>
    have := Token.decEqAll ts us
    decidable_of_iff (d = e ∧ ts = us ∧ s = s') (by simp)
  | .word .., .mark .. | .word .., .literal .. | .word .., .group .. => isFalse nofun
  | .mark .., .word .. | .mark .., .literal .. | .mark .., .group .. => isFalse nofun
  | .literal .., .word .. | .literal .., .mark .. | .literal .., .group .. => isFalse nofun
  | .group .., .word .. | .group .., .mark .. | .group .., .literal .. => isFalse nofun

def Token.decEqAll : (ts us : List Token) → Decidable (ts = us)
  | [], [] => isTrue rfl
  | t :: ts, u :: us =>
    have := Token.decEq t u
    have := Token.decEqAll ts us
    decidable_of_iff (t = u ∧ ts = us) (by simp)
  | [], _ :: _ | _ :: _, [] => isFalse nofun

end

instance : DecidableEq Token := Token.decEq

mutual

def TypeExpr.decEq : (t u : TypeExpr) → Decidable (t = u)
  | .path q r ss p, .path q' r' ss' p' =>
    have := Segment.decEqAll ss ss'
    decidable_of_iff (q = q' ∧ r = r' ∧ ss = ss' ∧ p = p') (by simp)
  | .paren t p, .paren t' p' =>
    have := TypeExpr.decEq t t'
    decidable_of_iff (t = t' ∧ p = p') (by simp)
  | .bounds single p, .bounds single' p' =>
    decidable_of_iff (single = single' ∧ p = p') (by simp)
  | .other p, .other p' => decidable_of_iff (p = p') (by simp)
  | .path .., .paren .. | .path .., .bounds .. | .path .., .other .. => isFalse nofun
  | .paren .., .path .. | .paren .., .bounds .. | .paren .., .other .. => isFalse nofun
  | .bounds .., .path .. | .bounds .., .paren .. | .bounds .., .other .. => isFalse nofun
  | .other .., .path .. | .other .., .paren .. | .other .., .bounds .. => isFalse nofun

def Segment.decEq : (s s' : Segment) → Decidable (s = s')
  | .plain n, .plain n' => decidable_of_iff (n = n') (by simp)
  | .angle n as, .angle n' as' =>
    have := Argument.decEqAll as as'
    decidable_of_iff (n = n' ∧ as = as') (by simp)
  | .round n, .round n' => decidable_of_iff (n = n') (by simp)
  | .plain .., .angle .. | .plain .., .round .. => isFalse nofun
  | .angle .., .plain .. | .angle .., .round .. => isFalse nofun
  | .round .., .plain .. | .round .., .angle .. => isFalse nofun

def Segment.decEqAll : (ss ss' : List Segment) → Decidable (ss = ss')
  | [], [] => isTrue rfl
  | s :: ss, s' :: ss' =>
    have := Segment.decEq s s'
    have := Segment.decEqAll ss ss'
    decidable_of_iff (s = s' ∧ ss = ss') (by simp)
  | [], _ :: _ | _ :: _, [] => isFalse nofun

def Argument.decEq : (a a' : Argument) → Decidable (a = a')
  | .type t, .type t' =>
    have := TypeExpr.decEq t t'
    decidable_of_iff (t = t') (by simp)
  | .other, .other => isTrue rfl
  | .type .., .other | .other, .type .. => isFalse nofun

def Argument.decEqAll : (as as' : List Argument) → Decidable (as = as')
  | [], [] => isTrue rfl
  | a :: as, a' :: as' =>
    have := Argument.decEq a a'
    have := Argument.decEqAll as as'
    decidable_of_iff (a = a' ∧ as = as') (by simp)
  | [], _ :: _ | _ :: _, [] => isFalse nofun

end

instance : DecidableEq TypeExpr := TypeExpr.decEq

deriving instance DecidableEq for Fields, ImplMember, Definition

mutual

def Item.decEq : (i j : Item) → Decidable (i = j)
  | .module marks n items, .module marks' n' items' =>
    have := Item.decEqAll items items'
    decidable_of_iff (marks = marks' ∧ n = n' ∧ items = items') (by simp)
  | .single marks d, .single marks' d' => decidable_of_iff (marks = marks' ∧ d = d') (by simp)
  | .module .., .single .. | .single .., .module .. => isFalse nofun

def Item.decEqAll : (items items' : List Item) → Decidable (items = items')
  | [], [] => isTrue rfl
  | i :: items, j :: items' =>
    have := Item.decEq i j
    have := Item.decEqAll items items'
    decidable_of_iff (i = j ∧ items = items') (by simp)
  | [], _ :: _ | _ :: _, [] => isFalse nofun

end

instance : DecidableEq Item := Item.decEq

end AccessorGen.Source
