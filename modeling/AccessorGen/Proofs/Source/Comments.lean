import AccessorGen.Proofs.Source.Flat
import Mathlib.Data.List.Infix

/-! Comments use up text. Whatever reading makes of a text, slashes are not gained by it, and they
are lost wherever a comment is passed over or becomes an attribute. A byte order mark is counted
with the slashes, since it is passed over too. -/

namespace AccessorGen.Source.Lexer

def isHeavy (c : Char) : Bool := c == '/' || c == byteOrderMark

def weight (s : List Char) : Nat := s.countP isHeavy

@[simp] theorem weight_nil : weight [] = 0 := rfl

@[simp] theorem weight_append (s t : List Char) : weight (s ++ t) = weight s + weight t :=
  List.countP_append

theorem weight_cons (c : Char) (s : List Char) : weight (c :: s) = weight [c] + weight s :=
  weight_append [c] s

theorem weight_of_suffix {s t : List Char} (h : s <:+ t) : weight s ≤ weight t :=
  h.sublist.countP_le

theorem weight_of_not_heavy {s : List Char} (h : ∀ c ∈ s, isHeavy c = false) : weight s = 0 :=
  List.countP_eq_zero.2 fun c hc => by simp [h c hc]

theorem commentKind?_slash {s : List Char} {kind : CommentKind} (h : commentKind? s = some kind) :
    ∃ r, s = '/' :: r := by
  unfold commentKind? at h
  split at h <;> first | exact ⟨_, rfl⟩ | cases h

theorem commentKind?_head {c : Char} {r : List Char} {kind : CommentKind}
    (h : commentKind? (c :: r) = some kind) : c = '/' := by
  obtain ⟨r', same⟩ := commentKind?_slash h
  exact (List.cons.inj same).1

theorem blockComment_cuts (depth : Nat) (s : List Char) :
    Lexeme.Cuts (blockComment depth s) s := by
  fun_induction blockComment depth s with
  | case1 depth r ih => exact ih.prepend ['/', '*']
  | case2 depth r shallow => exact Lexeme.cuts_some rfl
  | case3 depth r deep ih => exact ih.prepend ['*', '/']
  | case4 depth c r _ _ ih => exact ih.prepend [c]
  | case5 depth => exact Lexeme.cuts_none _

theorem blockComment_starts (depth : Nat) (s : List Char) :
    Lexeme.Starts (fun _ => true) (blockComment depth s) := by
  unfold blockComment
  split
  · exact Lexeme.starts_prepend rfl _ _
  · split
    · exact Lexeme.starts_some rfl
    · exact Lexeme.starts_prepend rfl _ _
  · exact Lexeme.starts_prepend rfl _ _
  · exact Lexeme.starts_none _

theorem blockComment_slash {depth : Nat} {r l rest : List Char}
    (h : blockComment depth ('/' :: r) = some (l, rest)) :
    ∃ l', l = '/' :: l' ∧ l' ++ rest = r := by
  obtain ⟨c, l', rfl, -⟩ := blockComment_starts depth _ l rest h
  have whole := blockComment_cuts depth _ _ _ h
  rw [List.cons_append] at whole
  obtain ⟨rfl, tail⟩ := List.cons.inj whole
  exact ⟨l', rfl, tail⟩

theorem lineRest_suffix (s : List Char) : (lineRest s).2 <:+ s := by
  fun_induction lineRest s with
  | case1 => exact List.suffix_rfl
  | case2 r => exact List.suffix_rfl
  | case3 r => exact List.suffix_cons _ _
  | case4 c r _ _ text rest found ih =>
    rw [found] at ih
    exact ih.trans (List.suffix_cons c r)

theorem weight_lineRest (s : List Char) :
    weight (lineRest s).1 + weight (lineRest s).2 ≤ weight s := by
  fun_induction lineRest s with
  | case1 => simp
  | case2 r => simp
  | case3 r =>
    have keep := weight_of_suffix (List.suffix_cons '\r' ('\n' :: r))
    simpa using keep
  | case4 c r _ _ text rest found ih =>
    simp only [found] at ih
    simp only [weight_cons c r, weight_cons c text]
    omega

theorem weight_slash (s : List Char) : weight ('/' :: s) = 1 + weight s := weight_cons '/' s

theorem dropWhile_isSpace_slash (r : List Char) :
    ('/' :: r).dropWhile isSpace = '/' :: r := List.dropWhile_cons_of_neg (by decide)

/-- One turn passes over a comment, whose first character is a slash, or over one space, or nothing
is left to pass over. -/
theorem skipSpace_turn (n : Nat) (c : Char) (r : List Char) :
    (c = '/' ∧ ∃ r', r' <:+ r ∧ skipSpace (n + 1) (c :: r) = skipSpace n r') ∨
    (isSpace c = true ∧ skipSpace (n + 1) (c :: r) = skipSpace n r) ∨
    ((c :: r).dropWhile isSpace = c :: r ∧ skipSpace (n + 1) (c :: r) = c :: r) := by
  rw [skipSpace]
  split
  next line =>
    exact .inl ⟨commentKind?_head line, _, List.dropWhile_suffix _, rfl⟩
  next block =>
    obtain rfl := commentKind?_head block
    split
    next comment rest found =>
      obtain ⟨comment', -, whole⟩ := blockComment_slash found
      exact .inl ⟨rfl, rest, ⟨comment', whole⟩, rfl⟩
    · exact .inr (.inr ⟨dropWhile_isSpace_slash r, rfl⟩)
  next kind _ _ doc =>
    obtain rfl := commentKind?_head doc
    exact .inr (.inr ⟨dropWhile_isSpace_slash r, rfl⟩)
  · split
    next space => exact .inr (.inl ⟨space, rfl⟩)
    next other => exact .inr (.inr ⟨List.dropWhile_cons_of_neg other, rfl⟩)

theorem skipSpace_suffix (n : Nat) (s : List Char) : skipSpace n s <:+ s := by
  induction n generalizing s with
  | zero => exact List.suffix_rfl
  | succ n ih =>
    cases s with
    | nil => exact List.suffix_rfl
    | cons c r =>
      obtain ⟨-, r', behind, turn⟩ | ⟨-, turn⟩ | ⟨-, turn⟩ := skipSpace_turn n c r
      · rw [turn]
        exact ((ih r').trans behind).trans (List.suffix_cons c r)
      · rw [turn]
        exact (ih r).trans (List.suffix_cons c r)
      · rw [turn]

theorem skipSpace_eq {n : Nat} {s : List Char} (fuel : s.length ≤ n) :
    skipSpace n s = s.dropWhile isSpace ∨ weight (skipSpace n s) < weight s := by
  induction n generalizing s with
  | zero =>
    obtain rfl := List.length_eq_zero_iff.1 (Nat.le_zero.1 fuel)
    exact .inl rfl
  | succ n ih =>
    cases s with
    | nil => exact .inl rfl
    | cons c r =>
      rw [List.length_cons, Nat.add_le_add_iff_right] at fuel
      obtain ⟨rfl, r', behind, turn⟩ | ⟨space, turn⟩ | ⟨stays, turn⟩ := skipSpace_turn n c r
      · -- The slash has weight; what follows the comment is a suffix and weighs no more.
        have less := weight_of_suffix ((skipSpace_suffix n r').trans behind)
        rw [turn, weight_slash]
        exact .inr (by omega)
      · rw [turn, List.dropWhile_cons_of_pos space]
        have keep := weight_of_suffix (List.suffix_cons c r)
        exact (ih fuel).imp_right fun less => Nat.lt_of_lt_of_le less keep
      · exact .inl (turn.trans stays.symm)

theorem skipSpace_eq_nil {s : List Char} (h : skipSpace s.length s = []) (light : weight s = 0) :
    s.dropWhile isSpace = [] := by
  rcases skipSpace_eq (Nat.le_refl s.length) with same | less
  · rw [← same, h]
  · omega

theorem skipSpace_of_no_comment {n : Nat} {s : List Char} (fuel : s.length ≤ n)
    (none : commentKind? (s.dropWhile isSpace) = none) : skipSpace n s = s.dropWhile isSpace := by
  induction n generalizing s with
  | zero =>
    obtain rfl := List.length_eq_zero_iff.1 (Nat.le_zero.1 fuel)
    rfl
  | succ n ih =>
    cases s with
    | nil => rfl
    | cons c r =>
      rw [List.length_cons, Nat.add_le_add_iff_right] at fuel
      cases space : isSpace c with
      | true =>
        rw [List.dropWhile_cons_of_pos space] at none ⊢
        have plain : commentKind? (c :: r) = .none := by
          cases kind : commentKind? (c :: r) with
          | none => rfl
          | some k =>
            obtain rfl := commentKind?_head kind
            exact absurd space (by decide)
        rw [skipSpace, plain]
        simp only [space, if_true]
        exact ih fuel none
      | false =>
        rw [List.dropWhile_cons_of_neg (by simp [space])] at none ⊢
        rw [skipSpace, none]
        simp [space]

theorem docComment?_of_no_comment {s : List Char} (h : commentKind? s = none) :
    docComment? s = none := by
  simp [docComment?, h]

theorem weight_docLine (r : List Char) :
    weight (lineRest (('/' :: r).drop 3)).1 + weight (lineRest (('/' :: r).drop 3)).2 <
      weight ('/' :: r) ∧
    (lineRest (('/' :: r).drop 3)).2.length < ('/' :: r).length := by
  have less := weight_lineRest (('/' :: r).drop 3)
  have short := (lineRest_suffix (('/' :: r).drop 3)).length_le
  have keep := weight_of_suffix (List.drop_suffix 2 r)
  simp only [List.drop_succ_cons, List.length_drop] at less short ⊢
  rw [weight_slash, List.length_cons]
  omega

theorem weight_docBlock {r comment rest : List Char}
    (h : blockComment 0 ('/' :: r) = some (comment, rest)) :
    weight ((comment.drop 3).take (comment.length - 5)) + weight rest < weight ('/' :: r) ∧
    rest.length < ('/' :: r).length := by
  obtain ⟨comment', rfl, whole⟩ := blockComment_slash h
  have less := (List.take_sublist (('/' :: comment').length - 5)
    (('/' :: comment').drop 3)).countP_le (p := isHeavy)
  have keep := weight_of_suffix (List.drop_suffix 2 comment')
  rw [List.drop_succ_cons] at less ⊢
  rw [weight_slash, ← whole, weight_append]
  simp only [weight, List.length_cons, List.length_append] at less keep ⊢
  omega

theorem docComment?_spec {s text rest : List Char} {inner : Bool}
    (h : docComment? s = some (text, inner, rest)) :
    weight text + weight rest < weight s ∧ rest.length < s.length := by
  cases kind : commentKind? s with
  | none =>
    rw [docComment?_of_no_comment kind] at h
    cases h
  | some k =>
    obtain ⟨r, rfl⟩ := commentKind?_slash kind
    cases k with
    | plainLine | plainBlock => simp [docComment?, kind] at h
    | docLine side =>
      simp only [docComment?, kind] at h
      split at h
      · cases h
      · obtain ⟨rfl, -, rfl⟩ := Option.some.inj h
        exact weight_docLine r
    | docBlock side =>
      simp only [docComment?, kind] at h
      cases block : blockComment 0 ('/' :: r) with
      | none => simp [block] at h
      | some found =>
        rw [block] at h
        dsimp only at h
        split at h
        · cases h
        · obtain ⟨rfl, -, rfl⟩ := Option.some.inj h
          exact weight_docBlock block

theorem mem_toDigitsCore {base fuel n : Nat} {ds : List Char} {c : Char}
    (h : c ∈ Nat.toDigitsCore base fuel n ds) : c ∈ ds ∨ ∃ m, c = Nat.digitChar m := by
  induction fuel generalizing n ds with
  | zero => exact .inl h
  | succ fuel ih =>
    rw [Nat.toDigitsCore] at h
    split at h
    · rcases List.mem_cons.1 h with rfl | h
      · exact .inr ⟨_, rfl⟩
      · exact .inl h
    · rcases ih h with h | digit
      · rcases List.mem_cons.1 h with rfl | h
        · exact .inr ⟨_, rfl⟩
        · exact .inl h
      · exact .inr digit

theorem isHeavy_digitChar (n : Nat) : isHeavy n.digitChar = false := by
  have small : ∀ m < 16, isHeavy (Nat.digitChar m) = false := by decide
  by_cases digit : n < 16
  · exact small n digit
  · have other : n.digitChar = '*' := by
      unfold Nat.digitChar
      repeat rw [if_neg (by omega)]
    rw [other]
    rfl

theorem weight_hexDigits (n : Nat) : weight (Text.hexDigits n) = 0 := by
  refine weight_of_not_heavy fun c hc => ?_
  rcases mem_toDigitsCore hc with h | ⟨m, rfl⟩
  · cases h
  · exact isHeavy_digitChar m

theorem weight_escapeChar (digitNext : Bool) (c : Char) :
    weight (Text.escapeChar digitNext c) ≤ weight [c] := by
  unfold Text.escapeChar
  split
  · split <;> exact Nat.zero_le _
  · split
    · exact Nat.zero_le _
    · split
      · exact Nat.zero_le _
      · split
        · exact Nat.zero_le _
        · split
          · rw [weight_cons]
            exact Nat.le_of_eq (Nat.zero_add _)
          · split
            · exact Nat.le_refl _
            · split
              · rw [show '\\' :: 'u' :: '\x7b' :: Text.hexDigits c.toNat ++ ['\x7d'] =
                  ['\\', 'u', '\x7b'] ++ (Text.hexDigits c.toNat ++ ['\x7d']) from rfl,
                  weight_append, weight_append, weight_hexDigits]
                exact Nat.zero_le _
              · exact Nat.le_refl _

theorem weight_escapeText (wary : Bool) (s : List Char) :
    weight (Text.escapeText wary s) ≤ weight s := by
  induction s with
  | nil => exact Nat.le_refl _
  | cons c r ih =>
    rw [Text.escapeText, weight_append, weight_cons c r]
    exact Nat.add_le_add (weight_escapeChar _ c) ih

theorem weight_docTokens (text : List Char) (inner : Bool) (span : Span) :
    weight ((Token.flatAll (docTokens text inner span)).flatMap Flat.text) ≤ weight text := by
  have quoted : weight (Text.quotedWith true text) ≤ weight text := by
    rw [Text.quotedWith, List.cons_append, weight_cons, weight_append]
    have escaped := weight_escapeText true text
    have quotes : weight ['"'] = 0 := rfl
    omega
  cases inner <;>
    simpa [docTokens, Token.flat, Flat.ofMark, Flat.text, textLiteral, Delimiter.opening,
      Delimiter.closing, weight, List.countP_cons, isHeavy, byteOrderMark] using quoted

end AccessorGen.Source.Lexer
