import AccessorGen.Proofs.File.Place

/-! The components of paths put together from names. A name pushed on a path is one more component,
so what was pushed on a base is relative to that base, and relative paths have no part that holds a
slash. -/

namespace AccessorGen

def isEntryName (s : String) : Bool :=
  s.toList != [] && s.toList != ['.'] && s.toList != ['.', '.'] && !s.toList.contains '/'

theorem isName_of_isEntryName {s : String} (h : isEntryName s = true) : IsName s.toList := by
  simp only [isEntryName, Bool.and_eq_true, bne_iff_ne] at h
  exact ⟨h.1.1.1, h.1.1.2, h.1.2⟩

theorem slash_not_mem_of_isEntryName {s : String} (h : isEntryName s = true) :
    '/' ∉ s.toList := by
  simp only [isEntryName, Bool.and_eq_true] at h
  simpa using h.2

namespace Path

theorem ofPiece?_name {s : List Char} (h : IsName s) : Component.ofPiece? s = some (.name s) := by
  obtain ⟨h1, h2, h3⟩ := h
  simp [Component.ofPiece?, h1, h2, h3]

theorem componentsOf_slash {a b : List Char} (hb : '/' ∉ b) :
    componentsOf (a ++ '/' :: b) =
      (if a = [] then [.top] else componentsOf a) ++ (Component.ofPiece? b).toList := by
  unfold componentsOf
  rw [Text.cutAt_append_cons, Text.cutAt_of_not_mem hb]
  by_cases ha : a = []
  · subst ha
    cases ho : Component.ofPiece? b <;> simp [Text.cutAt, ho]
  · rw [if_neg ha]
    cases hcut : Text.cutAt '/' a with
    | nil => exact absurd hcut (Text.cutAt_ne_nil '/' a)
    | cons first rest =>
      have hbody : (rest ++ [b]).filterMap Component.ofPiece? =
          rest.filterMap Component.ofPiece? ++ (Component.ofPiece? b).toList := by
        rw [List.filterMap_append]
        cases ho : Component.ofPiece? b <;> simp [ho]
      have hrest : first = [] → rest ≠ [] := by
        rintro rfl rfl
        have hjoin := Text.joinWith_cutAt '/' a
        rw [hcut] at hjoin
        exact ha hjoin.symm
      simp only [List.cons_append, hbody]
      by_cases hfirst : first = []
      · simp [hfirst, hrest hfirst]
      · by_cases hdot : first = ['.']
        · simp [hdot]
        · simp [hfirst, hdot]

theorem text_of_components_nil {p : Path} (h : p.components = []) : p.text.toList = [] := by
  unfold components componentsOf at h
  cases hcut : Text.cutAt '/' p.text.toList with
  | nil => exact absurd hcut (Text.cutAt_ne_nil '/' _)
  | cons first rest =>
    rw [hcut] at h
    by_cases hfirst : first = []
    · by_cases hrest : rest = []
      · have hjoin := Text.joinWith_cutAt '/' p.text.toList
        rw [hcut, hfirst, hrest] at hjoin
        exact hjoin.symm
      · simp [hfirst, hrest] at h
    · by_cases hdot : first = ['.']
      · simp [hdot] at h
      · by_cases hdots : first = ['.', '.'] <;>
          simp [Component.ofPiece?, hfirst, hdot, hdots] at h

theorem components_push {s : String} (hs : isEntryName s = true) (p : Path) :
    (p.push s).components = p.components ++ [.name s.toList] := by
  have hslash := slash_not_mem_of_isEntryName hs
  have hpiece := ofPiece?_name (isName_of_isEntryName hs)
  have hhead : s.toList.head? ≠ some '/' := fun e => hslash (List.mem_of_mem_head? e)
  rw [components, components, push, toList_join, joinChars, if_neg hhead]
  by_cases hp : p.text.toList = []
  · rw [if_pos (.inl hp), hp, List.nil_append, componentsOf, Text.cutAt_of_not_mem hslash]
    obtain ⟨h1, h2, -⟩ := isName_of_isEntryName hs
    simp [h1, h2, hpiece, componentsOf_nil]
  · by_cases hend : p.text.toList.getLast? = some '/'
    · obtain ⟨a, ha⟩ := List.getLast?_eq_some_iff.1 hend
      rw [if_pos (.inr hend), ha, List.append_assoc, List.singleton_append,
        componentsOf_slash hslash, componentsOf_slash (b := []) (by simp), hpiece]
      simp [Component.ofPiece?]
    · rw [if_neg (by simp [hp, hend]), componentsOf_slash hslash, if_neg hp, hpiece]
      rfl

theorem components_pushAll {ss : List String} (h : ∀ s ∈ ss, isEntryName s = true) (p : Path) :
    (ss.foldl push p).components = p.components ++ ss.map fun s => .name s.toList := by
  induction ss generalizing p with
  | nil => simp
  | cons s ss ih =>
    rw [List.foldl_cons, ih (fun q hq => h q (by simp [hq])), components_push (h s (by simp))]
    simp

theorem rest_eq_nil_of_isRelative {p : Path} (hp : p.IsRelative) {first : List Char}
    {rest : List (List Char)} (hpieces : Text.cutAt '/' p.text.toList = first :: rest)
    (hfirst : first = []) : rest = [] := by
  by_contra hrest
  exact hp ((cutAt_head hpieces).2 ⟨hfirst, hrest⟩)

theorem slash_not_mem_of_isRelative {p : Path} (hp : p.IsRelative) :
    ∀ c ∈ p.components, '/' ∉ c.text := by
  have hpiece : ∀ piece, '/' ∉ piece → ∀ c ∈ (Component.ofPiece? piece), '/' ∉ c.text := by
    intro piece hslash c hc
    unfold Component.ofPiece? at hc
    split at hc
    · cases hc
    · split at hc <;> obtain rfl := Option.some.inj hc
      · decide
      · exact hslash
  have hcut : ∀ q ∈ Text.cutAt '/' p.text.toList, '/' ∉ q := fun q => Text.not_mem_of_mem_cutAt
  unfold components componentsOf
  cases hpieces : Text.cutAt '/' p.text.toList with
  | nil => simp
  | cons first rest =>
    rw [hpieces] at hcut
    have hbody : ∀ c ∈ rest.filterMap Component.ofPiece?, '/' ∉ c.text := by
      intro c hc
      obtain ⟨q, hq, hqc⟩ := List.mem_filterMap.1 hc
      exact hpiece q (hcut q (by simp [hq])) c hqc
    have hrest := rest_eq_nil_of_isRelative hp hpieces
    by_cases hfirst : first = []
    · simp [hfirst, hrest hfirst]
    · by_cases hdot : first = ['.']
      · simp only [hdot]
        exact List.forall_mem_cons.2 ⟨by decide, hbody⟩
      · simp only [hfirst, hdot, if_false]
        intro c hc
        rcases List.mem_append.1 hc with hc | hc
        · exact hpiece first (hcut first (by simp)) c (by simpa using hc)
        · exact hbody c hc

def StartsFree (body : List (List Char)) : Prop := ∀ q ∈ body.head?, q ≠ [] ∧ '/' ∉ q

theorem StartsFree.of_front {body front : List (List Char)} (h : StartsFree body)
    (hfront : front <+: body) : StartsFree front := by
  cases front with
  | nil => simp [StartsFree]
  | cons q qs =>
    obtain ⟨rest, rfl⟩ := hfront
    exact h

theorem trimIdleEnd_front (body : List (List Char)) : trimIdleEnd body <+: body := by
  rw [trimIdleEnd, ← List.reverse_suffix, List.reverse_reverse]
  exact List.dropWhile_suffix _

theorem head_joinWith {body : List (List Char)} (h : StartsFree body) :
    (Text.joinWith ['/'] body).head? ≠ some '/' := by
  cases body with
  | nil => simp [Text.joinWith]
  | cons q qs =>
    obtain ⟨hne, hslash⟩ := h q rfl
    obtain ⟨c, r, rfl⟩ := List.exists_cons_of_ne_nil hne
    have hc : c ≠ '/' := fun e => hslash (by simp [e])
    cases qs <;> simpa [Text.joinWith] using hc

theorem head_glue {front : Option (List Char)} {body : List (List Char)}
    (hfront : front = none ∧ StartsFree body ∨ front = some ['.']) :
    (glue front body).head? ≠ some '/' := by
  rcases hfront with ⟨rfl, hbody⟩ | rfl
  · exact head_joinWith hbody
  · cases body <;> simp [glue]

theorem lead_of_isRelative {p : Path} (hp : p.IsRelative) :
    (lead p.text.toList).1 = none ∧ StartsFree (lead p.text.toList).2 ∨
      (lead p.text.toList).1 = some ['.'] := by
  unfold lead
  cases hpieces : Text.cutAt '/' p.text.toList with
  | nil => exact absurd hpieces (Text.cutAt_ne_nil '/' _)
  | cons first rest =>
    have hrest := rest_eq_nil_of_isRelative hp hpieces
    by_cases hfirst : first = []
    · exact .inl (by simp [hfirst, hrest hfirst, StartsFree])
    · by_cases hdot : first = ['.']
      · exact .inr (by simp [hdot])
      · refine .inl ?_
        simp only [hfirst, hdot, if_false]
        refine ⟨trivial, fun q hq => ?_⟩
        obtain rfl : first = q := by simpa using hq
        exact ⟨hfirst, Text.not_mem_of_mem_cutAt (by rw [hpieces]; simp)⟩

theorem isRelative_ofList {s : List Char} (h : s.head? ≠ some '/') :
    IsRelative ⟨.ofList s⟩ := by
  simpa [IsRelative] using h

theorem isRelative_parent {p q : Path} (hp : p.IsRelative) (h : p.parent = some q) :
    q.IsRelative := by
  have hlead := lead_of_isRelative hp
  unfold parent at h
  cases hl : lead p.text.toList with
  | mk front body =>
    rw [hl] at h hlead
    dsimp only at h hlead
    split at h
    next last rest hrev =>
      obtain rfl := Option.some.inj h
      refine isRelative_ofList (head_glue (hlead.imp_left (And.imp_right fun hfree => ?_)))
      have hbody : rest.reverse <+: trimIdleEnd body := by
        rw [List.reverse_eq_cons_iff.1 hrev]
        exact List.prefix_append _ _
      exact hfree.of_front
        (((trimIdleEnd_front _).trans hbody).trans (trimIdleEnd_front body))
    · split at h
      · obtain rfl := Option.some.inj h
        simp [IsRelative]
      · cases h

theorem startsFree_dropComponents {n : Nat} {body : List (List Char)}
    (hslash : ∀ q ∈ body, '/' ∉ q) : StartsFree (dropComponents n body) := by
  induction body generalizing n with
  | nil => cases n <;> simp [dropComponents, StartsFree]
  | cons piece body ih =>
    have hrest : ∀ q ∈ body, '/' ∉ q := fun q hq => hslash q (by simp [hq])
    cases n with
    | zero =>
      intro q hq
      have hidle := List.head?_dropWhile_not idle (piece :: body)
      have hq : (List.dropWhile idle (piece :: body)).head? = some q := by
        simpa [dropComponents] using hq
      rw [hq] at hidle
      refine ⟨?_, hslash q ((List.dropWhile_suffix _).subset (List.mem_of_mem_head? hq))⟩
      rintro rfl
      simp [idle] at hidle
    | succ n =>
      unfold dropComponents
      split
      · exact ih hrest
      · exact ih hrest

theorem slash_not_mem_lead (s : List Char) : ∀ q ∈ (lead s).2, '/' ∉ q := by
  have hcut : ∀ q ∈ Text.cutAt '/' s, '/' ∉ q := fun q => Text.not_mem_of_mem_cutAt
  unfold lead
  cases hpieces : Text.cutAt '/' s with
  | nil => simp
  | cons first rest =>
    rw [hpieces] at hcut
    have hrest : ∀ q ∈ rest, '/' ∉ q := fun q hq => hcut q (by simp [hq])
    by_cases hfirst : first = []
    · by_cases hnil : rest = []
      · simp [hfirst, hnil]
      · simpa [hfirst, hnil] using hrest
    · by_cases hdot : first = ['.']
      · simpa [hdot] using hrest
      · simpa [hfirst, hdot] using hcut

/-- A path that begins with the components of a base is relative to it, and what is left of it is a
relative path. -/
theorem exists_relativeTo {p base : Path} (hfront : base.components <+: p.components)
    (hempty : base.components = [] → p.IsRelative) :
    ∃ below, p.relativeTo base = some below ∧ below.IsRelative := by
  simp only [relativeTo, List.isPrefixOf_iff_prefix.2 hfront, if_true]
  refine ⟨_, rfl, isRelative_ofList ?_⟩
  split
  next hzero =>
    have hlead := lead_of_isRelative (hempty (List.length_eq_zero_iff.1 hzero))
    exact head_glue (hlead.imp_left (And.imp_right fun h => h.of_front (trimIdleEnd_front _)))
  · exact head_glue (.inl ⟨rfl, (startsFree_dropComponents (slash_not_mem_lead _)).of_front
      (trimIdleEnd_front _)⟩)

end Path

theorem cutName_source {stem : List Char} (h : stem ≠ []) :
    Path.cutName (stem ++ ['.', 'r', 's']) = (stem, some ['r', 's']) := by
  have hafter : ((stem ++ ['.', 'r', 's']).reverse.takeWhile (· ≠ '.')).reverse = ['r', 's'] := by
    simp
  unfold Path.cutName
  simp only [hafter]
  simp [h]

theorem exists_before_dot {s : List Char} (h : '.' ∈ s) :
    ∃ front, s = front ++ '.' :: (s.reverse.takeWhile (· ≠ '.')).reverse := by
  have hback : s.reverse.takeWhile (· ≠ '.') ++ s.reverse.dropWhile (· ≠ '.') = s.reverse :=
    List.takeWhile_append_dropWhile
  cases hrest : s.reverse.dropWhile (· ≠ '.') with
  | nil =>
    rw [hrest, List.append_nil] at hback
    have hmem : '.' ∈ s.reverse.takeWhile (· ≠ '.') := by
      rw [hback]
      exact List.mem_reverse.2 h
    simpa using List.all_eq_true.1 List.all_takeWhile _ hmem
  | cons c rest =>
    have hc : c = '.' := by
      have hhead := List.head?_dropWhile_not (fun c => decide (c ≠ '.')) s.reverse
      rw [hrest] at hhead
      simpa using hhead
    refine ⟨rest.reverse, ?_⟩
    rw [hrest, hc] at hback
    simpa using (congrArg List.reverse hback).symm

theorem eq_of_cutName {s stem ending : List Char} (h : Path.cutName s = (stem, some ending)) :
    stem ≠ [] ∧ s = stem ++ '.' :: ending := by
  unfold Path.cutName at h
  dsimp only at h
  split at h
  next hdot =>
    obtain ⟨hdot, hstem⟩ := hdot
    obtain ⟨rfl, hending⟩ := Prod.mk.inj h
    obtain rfl := Option.some.inj hending
    obtain ⟨front, hs⟩ := exists_before_dot (by simpa using hdot)
    generalize (s.reverse.takeWhile (· ≠ '.')).reverse = after at hs hstem ⊢
    have htake : s.take (s.length - after.length - 1) = front := by
      rw [hs]
      refine List.take_left' ?_
      simp
      omega
    rw [htake] at hstem ⊢
    exact ⟨hstem, hs⟩
  · cases (Prod.mk.inj h).2

end AccessorGen
