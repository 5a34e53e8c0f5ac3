import AccessorGen.Proofs.Config.Forward
import Mathlib.Data.List.Basic

/-! The text a TOML value is read from. It stands between quotes or brackets, or is made of the
characters of numbers, dates and words; so white space and a comment are never at its ends. -/

namespace AccessorGen

namespace Text

theorem test_of_dropWhile {test : Char → Bool} {s r : List Char} {c : Char}
    (h : s.dropWhile test = c :: r) :
    test c = false := by
  have hc := s.head_dropWhile_not test (by rw [h]; exact List.cons_ne_nil _ _)
  simpa only [h, List.head_cons] using hc

def Solid (s : List Char) : Prop := ∀ c ∈ s, isBlank c = false

instance (s : List Char) : Decidable (Solid s) :=
  decidable_of_iff (s.all (!isBlank ·) = true) (by simp [Solid, List.all_eq_true])

section Solid

variable {c : Char} {s t : List Char}

theorem isBlank_of_print (h : 33 ≤ c.toNat) (h' : c.toNat < 127) : isBlank c = false := by
  unfold isBlank
  simp only [Bool.or_eq_false_iff, Bool.and_eq_false_iff, beq_eq_false_iff_ne, ne_eq,
    decide_eq_false_iff_not]
  omega

theorem isBlank_of_isDigit (h : c.isDigit = true) : isBlank c = false := by
  simp only [Char.isDigit, Bool.and_eq_true, decide_eq_true_eq, UInt32.le_iff_toNat_le] at h
  have h48 : ('0' : Char).val.toNat = 48 := rfl
  have h57 : ('9' : Char).val.toNat = 57 := rfl
  have hc : c.toNat = c.val.toNat := rfl
  exact isBlank_of_print (by omega) (by omega)

theorem Solid.nil : Solid [] := nofun

theorem Solid.cons (hc : isBlank c = false) (hs : Solid s) : Solid (c :: s) :=
  List.forall_mem_cons.2 ⟨hc, hs⟩

theorem Solid.append (hs : Solid s) (ht : Solid t) : Solid (s ++ t) :=
  List.forall_mem_append.2 ⟨hs, ht⟩

theorem Solid.of_cut {test : Char → Bool} (hfront : Solid (s.takeWhile test))
    (hback : ∀ c r, s.dropWhile test = c :: r → isBlank c = false ∧ Solid r) : Solid s := by
  rw [← List.takeWhile_append_dropWhile (p := test) (l := s)]
  refine hfront.append ?_
  cases hs : s.dropWhile test with
  | nil => exact .nil
  | cons c r => exact .cons (hback c r hs).1 (hback c r hs).2

end Solid

end Text

open Text

namespace Toml

namespace Quoted

theorem isBlank_of_hexValue? {c : Char} {d : Nat} (h : hexValue? c = some d) :
    isBlank c = false := by
  unfold hexValue? at h
  have between {a b : Char} (ha : 33 ≤ a.toNat) (hb : b.toNat < 127) (h : a ≤ c ∧ c ≤ b) :
      isBlank c = false :=
    isBlank_of_print (Nat.le_trans ha h.1) (Nat.lt_of_le_of_lt h.2 hb)
  split at h
  next hdigit => exact isBlank_of_isDigit hdigit
  split at h
  next hlower => exact between (by decide) (by decide) hlower
  split at h
  next hupper => exact between (by decide) (by decide) hupper
  · cases h

end Quoted

namespace Scalar

variable {s r : List Char}

theorem solid_of_digitsFrom {base value n : Nat} {afterDigit : Bool}
    (h : digitsFrom base value afterDigit s = some n) : Solid s := by
  induction s generalizing value afterDigit with
  | nil => exact .nil
  | cons c r ih =>
    unfold digitsFrom at h
    split at h
    next hnil => cases hnil
    next hcons =>
      cases hcons
      split at h
      · exact .cons rfl (ih h)
      · cases h
    next hcons =>
      cases hcons
      split at h
      next d hd =>
        split at h
        · exact .cons (Quoted.isBlank_of_hexValue? hd) (ih h)
        · cases h
      · cases h

theorem solid_of_digits? {base n : Nat} (h : digits? base s = some n) : Solid s :=
  solid_of_digitsFrom h

theorem solid_of_whole? {n : Nat} (h : whole? s = some n) : Solid s := by
  unfold whole? at h
  split at h
  · exact .cons rfl .nil
  · cases h
  · exact solid_of_digits? h

theorem solid_of_cutSign (h : Solid (cutSign s).2) : Solid s := by
  unfold cutSign at h
  split at h
  · exact .cons rfl h
  · exact .cons rfl h
  · exact h

theorem solid_of_integer? {n : Int} (h : integer? s = some n) : Solid s := by
  unfold integer? at h
  have hradix {c : Char} {base : Nat} {r : List Char} (hc : isBlank c = false)
      (h : ((digits? base r).map (↑·) : Option Int) = some n) : Solid ('0' :: c :: r) := by
    obtain ⟨k, hk, -⟩ := Option.map_eq_some_iff.1 h
    obtain ⟨d, hd, -⟩ := Option.bind_eq_some_iff.1 hk
    exact .cons rfl (.cons hc (solid_of_digits? hd))
  split at h
  · exact hradix rfl h
  · exact hradix rfl h
  · exact hradix rfl h
  · obtain ⟨k, hk, -⟩ := Option.map_eq_some_iff.1 h
    exact solid_of_cutSign (solid_of_whole? hk)

theorem solid_of_exponent? {n : Int} (h : exponent? s = some n) : Solid s := by
  obtain ⟨k, hk, -⟩ := Option.map_eq_some_iff.1 h
  exact solid_of_cutSign (solid_of_digits? hk)

theorem solid_of_fraction? {n : Nat × Nat} (h : fraction? s = some n) : Solid s := by
  obtain ⟨k, hk, -⟩ := Option.map_eq_some_iff.1 h
  exact solid_of_digits? hk

theorem solid_of_unsignedFloat? {negative : Bool} {x : Number.Decimal}
    (h : unsignedFloat? negative s = some x) : Solid s := by
  unfold unsignedFloat? at h
  dsimp only at h
  split at h
  next w v k e hwhole hfraction hexponent =>
    have hmantissa : Solid (s.takeWhile (!isExponentMark ·)) := by
      refine .of_cut (solid_of_whole? hwhole) fun c r hc => ?_
      rw [hc] at hfraction
      have hpoint : c = '.' := by simpa using test_of_dropWhile hc
      exact ⟨hpoint ▸ rfl, solid_of_fraction? hfraction⟩
    refine .of_cut hmantissa fun c r hc => ?_
    rw [hc] at hexponent
    have hmark : isExponentMark c = true := by simpa using test_of_dropWhile hc
    refine ⟨?_, solid_of_exponent? hexponent⟩
    obtain h | h : c = 'e' ∨ c = 'E' := by simpa [isExponentMark] using hmark
    · exact h ▸ rfl
    · exact h ▸ rfl
  · cases h

theorem solid_of_float? {x : Number.Decimal} (h : float? s = some x) : Solid s := by
  unfold float? at h
  dsimp only at h
  refine solid_of_cutSign ?_
  split at h
  next hinf =>
    rw [hinf]
    decide
  split at h
  next hnan =>
    rw [hnan]
    decide
  · exact solid_of_unsignedFloat? h

def TakesSolid (s r : List Char) : Prop := ∃ w, Solid w ∧ s = w ++ r

theorem TakesSolid.refl (s : List Char) : TakesSolid s s := ⟨[], .nil, rfl⟩

theorem TakesSolid.trans {t : List Char} (h : TakesSolid s r) (h' : TakesSolid r t) :
    TakesSolid s t := by
  obtain ⟨w, hw, rfl⟩ := h
  obtain ⟨v, hv, rfl⟩ := h'
  exact ⟨w ++ v, hw.append hv, (List.append_assoc _ _ _).symm⟩

theorem TakesSolid.cons {c : Char} (hc : isBlank c = false) (h : TakesSolid s r) :
    TakesSolid (c :: s) r := by
  obtain ⟨w, hw, rfl⟩ := h
  exact ⟨c :: w, hw.cons hc, rfl⟩

theorem TakesSolid.solid (h : TakesSolid s []) : Solid s := by
  obtain ⟨w, hw, rfl⟩ := h
  rwa [List.append_nil]

theorem fixed?_eq_some {n k : Nat} (h : fixed? n s = some (k, r)) : TakesSolid s r := by
  unfold fixed? at h
  dsimp only at h
  split at h
  next hdigits =>
    obtain ⟨k, -, hk⟩ := Option.map_eq_some_iff.1 h
    obtain rfl := (Prod.mk.inj hk).2
    exact ⟨s.take n, fun c hc => isBlank_of_isDigit (List.all_eq_true.1 hdigits.2 c hc),
      (s.take_append_drop n).symm⟩
  · cases h

theorem char?_eq_some {cs : List Char} (hcs : Solid cs) (h : char? cs s = some r) :
    TakesSolid s r := by
  unfold char? at h
  split at h
  next c t =>
    split at h
    next hc =>
      obtain rfl := Option.some.inj h
      exact .cons (hcs c (by simpa using hc)) (.refl _)
    · cases h
  · cases h

theorem date?_eq_some (h : date? s = some r) : TakesSolid s r := by
  obtain ⟨⟨year, r₁⟩, hyear, h⟩ := Option.bind_eq_some_iff.1 h
  obtain ⟨r₂, hdash, h⟩ := Option.bind_eq_some_iff.1 h
  obtain ⟨⟨month, r₃⟩, hmonth, h⟩ := Option.bind_eq_some_iff.1 h
  obtain ⟨r₄, hdash', h⟩ := Option.bind_eq_some_iff.1 h
  obtain ⟨⟨day, r₅⟩, hday, h⟩ := Option.bind_eq_some_iff.1 h
  dsimp only at h
  split at h
  · obtain rfl := Option.some.inj h
    exact (fixed?_eq_some hyear).trans <| (char?_eq_some (by decide) hdash).trans <|
      (fixed?_eq_some hmonth).trans <| (char?_eq_some (by decide) hdash').trans <|
        fixed?_eq_some hday
  · cases h

theorem seconds?_eq_some (h : seconds? s = some r) : TakesSolid s r := by
  unfold seconds? at h
  split at h
  next t =>
    obtain ⟨⟨second, r₁⟩, hsecond, h⟩ := Option.bind_eq_some_iff.1 h
    refine .cons rfl ((fixed?_eq_some hsecond).trans ?_)
    dsimp only at h
    split at h
    · cases h
    split at h
    next fraction =>
      split at h
      · cases h
      · obtain rfl := Option.some.inj h
        have hdigits : Solid (fraction.takeWhile Char.isDigit) := fun c hc =>
          isBlank_of_isDigit (List.all_eq_true.1 List.all_takeWhile c hc)
        exact .cons rfl ⟨_, hdigits, List.takeWhile_append_dropWhile.symm⟩
    · obtain rfl := Option.some.inj h
      exact .refl _
  · obtain rfl := Option.some.inj h
    exact .refl _

theorem clock_eq_some {next : List Char → Option (List Char)}
    (hnext : ∀ t, next t = some r → TakesSolid t r)
    (h : (do
      let (hour, t) ← fixed? 2 s
      let (minute, t) ← fixed? 2 (← char? [':'] t)
      if hour > 23 ∨ minute > 59 then none else next t) = some r) : TakesSolid s r := by
  obtain ⟨⟨hour, r₁⟩, hhour, h⟩ := Option.bind_eq_some_iff.1 h
  obtain ⟨r₂, hcolon, h⟩ := Option.bind_eq_some_iff.1 h
  obtain ⟨⟨minute, r₃⟩, hminute, h⟩ := Option.bind_eq_some_iff.1 h
  dsimp only at h
  split at h
  · cases h
  · exact (fixed?_eq_some hhour).trans <| (char?_eq_some (by decide) hcolon).trans <|
      (fixed?_eq_some hminute).trans <| hnext _ h

theorem time?_eq_some (h : time? s = some r) : TakesSolid s r :=
  clock_eq_some (fun _ => seconds?_eq_some) h

theorem zone?_eq_some (h : zone? s = some r) : TakesSolid s r := by
  unfold zone? at h
  split at h
  · obtain rfl := Option.some.inj h
    exact .refl _
  next c t =>
    split at h
    next hzulu =>
      obtain rfl := Option.some.inj h
      obtain rfl | rfl : c = 'Z' ∨ c = 'z' := by simpa using hzulu
      · exact .cons rfl (.refl _)
      · exact .cons rfl (.refl _)
    split at h
    next hsign =>
      have hclock : TakesSolid t r :=
        clock_eq_some (fun u hu => Option.some.inj hu ▸ .refl u) h
      obtain rfl | rfl : c = '+' ∨ c = '-' := by simpa using hsign
      · exact .cons rfl hclock
      · exact .cons rfl hclock
    · cases h

theorem blank_of_isMoment (h : isMoment s = true) : ∀ c ∈ s, isBlank c = false ∨ c = ' ' := by
  unfold isMoment at h
  split at h
  next hdate => exact fun c hc => .inl ((date?_eq_some hdate).solid c hc)
  next r hne hdate =>
    split at h
    next rest htime =>
      obtain ⟨t, hsep, htime⟩ := Option.bind_eq_some_iff.1 htime
      have htail : Solid t := by
        refine ((time?_eq_some htime).trans (zone?_eq_some ?_)).solid
        simpa using h
      obtain ⟨w, hw, rfl⟩ := date?_eq_some hdate
      unfold char? at hsep
      split at hsep
      next c u =>
        split at hsep
        next hc =>
          obtain rfl := Option.some.inj hsep
          have hc : isBlank c = false ∨ c = ' ' := by
            obtain rfl | rfl | rfl : c = 'T' ∨ c = 't' ∨ c = ' ' := by simpa using hc
            · exact .inl rfl
            · exact .inl rfl
            · exact .inr rfl
          refine List.forall_mem_append.2 ⟨fun d hd => .inl (hw d hd), ?_⟩
          exact List.forall_mem_cons.2 ⟨hc, fun d hd => .inl (htail d hd)⟩
        · cases hsep
      · cases hsep
    · cases h
  · exact fun c hc => .inl ((time?_eq_some (by simpa using h)).solid c hc)

theorem blank_of_value? {v : Value} (h : value? s = some v) :
    ∀ c ∈ s, isBlank c = false ∨ c = ' ' := by
  have of_solid (hs : Solid s) : ∀ c ∈ s, isBlank c = false ∨ c = ' ' := fun c hc => .inl (hs c hc)
  unfold value? at h
  split at h
  next htrue => exact of_solid (htrue ▸ by decide)
  split at h
  next hfalse => exact of_solid (hfalse ▸ by decide)
  split at h
  next n hn => exact of_solid (solid_of_integer? hn)
  split at h
  next x hx => exact of_solid (solid_of_float? hx)
  split at h
  next hmoment => exact blank_of_isMoment hmoment
  · cases h

theorem endsScalar_of_isDigit {c : Char} (h : c.isDigit = true) : endsScalar c = false := by
  have hnone : [' ', '\t', '\n', '\r', ',', ']', '\x7d', '#', '=', '[', '\x7b', '"', '\''].all
      (!Char.isDigit ·) = true := by decide
  refine Bool.eq_false_iff.2 fun hends => ?_
  have hc := List.all_eq_true.1 hnone c (List.contains_iff_mem.1 hends)
  rw [h] at hc
  cases hc

theorem endsScalar_of_mem_word {s : List Char} {c : Char} (h : c ∈ s.takeWhile (!endsScalar ·)) :
    endsScalar c = false := by
  simpa using List.all_eq_true.1 List.all_takeWhile c h

theorem mem_of_ends {w m v : List Char} (hw : w ≠ []) (hv : v ≠ []) {c : Char}
    (h : (w ++ (m ++ v)).head? = some c ∨ (w ++ (m ++ v)).getLast? = some c) : c ∈ w ∨ c ∈ v := by
  rw [List.head?_append_of_ne_nil _ hw, List.getLast?_append_of_ne_nil _ (by simp [hv]),
    List.getLast?_append_of_ne_nil _ hv] at h
  exact h.imp List.mem_of_mem_head? List.mem_of_getLast?

theorem exists_of_joinsTime {rest : List Char} (h : joinsTime rest = true) :
    ∃ r, rest = ' ' :: r ∧ r.takeWhile (!endsScalar ·) ≠ [] := by
  unfold joinsTime at h
  split at h
  next c r =>
    refine ⟨c :: r, rfl, ?_⟩
    rw [List.takeWhile_cons, endsScalar_of_isDigit h]
    exact List.cons_ne_nil c _
  · cases h

theorem cut_spec (s : List Char) : (cut s).1 ++ (cut s).2 = s ∧
    ∀ c, (cut s).1.head? = some c ∨ (cut s).1.getLast? = some c → endsScalar c = false := by
  have happend := List.takeWhile_append_dropWhile (p := (!endsScalar ·)) (l := s)
  unfold cut
  dsimp only
  split
  next hjoins =>
    obtain ⟨hdate, hjoins⟩ := hjoins
    have hword : s.takeWhile (!endsScalar ·) ≠ [] := by
      intro hnil
      rw [hnil] at hdate
      exact absurd hdate (by decide)
    obtain ⟨r, hrest, hmore⟩ := exists_of_joinsTime hjoins
    rw [hrest] at happend ⊢
    rw [List.drop_one, List.tail_cons]
    constructor
    · have hfront : ' ' :: r.takeWhile (!endsScalar ·) <+: ' ' :: r :=
        List.cons_prefix_cons.2 ⟨rfl, List.takeWhile_prefix _⟩
      rw [List.append_assoc]
      exact (congrArg _ (List.prefix_iff_eq_append.1 hfront)).trans happend
    · intro c hc
      exact (mem_of_ends (m := [' ']) hword hmore hc).elim endsScalar_of_mem_word
        endsScalar_of_mem_word
  · refine ⟨happend, fun c hc => endsScalar_of_mem_word (s := s) ?_⟩
    exact hc.elim List.mem_of_mem_head? List.mem_of_getLast?

end Scalar

structure IsValueText (s : List Char) : Prop where
  first : ∃ c r, s = c :: r ∧ isBlank c = false ∧ c ≠ '#'
  last : ∃ r c, s = r ++ [c] ∧ isBlank c = false

def TakesValueText {α : Type} (m : Scan α) : Prop :=
  ∀ p a q, m p = some (a, q) → ∃ w, IsValueText w ∧ p.rest = w ++ q.rest

theorem TakesValueText.forward {α : Type} {m : Scan α} (h : TakesValueText m) : m.Forward := by
  intro p a q hm
  obtain ⟨w, -, hw⟩ := h p a q hm
  exact hw ▸ List.suffix_append _ _

theorem IsValueText.of_solid {s : List Char} (hs : Solid s) (hne : s ≠ []) (hhash : '#' ∉ s) :
    IsValueText s := by
  constructor
  · obtain ⟨c, r, rfl⟩ := List.exists_cons_of_ne_nil hne
    exact ⟨c, r, rfl, hs c List.mem_cons_self, fun e => hhash (e ▸ List.mem_cons_self)⟩
  · obtain ⟨r, c, rfl⟩ := (List.eq_nil_or_concat s).resolve_left hne
    exact ⟨r, c, by simp, hs c (by simp)⟩

theorem IsValueText.framed {a b : Char} (ha : isBlank a = false) (hne : a ≠ '#')
    (hb : isBlank b = false) (t : List Char) : IsValueText (a :: (t ++ [b])) :=
  ⟨⟨a, _, rfl, ha, hne⟩, ⟨a :: t, b, rfl, hb⟩⟩

theorem takesValueText_scalar : TakesValueText scalar := by
  intro p v q h
  obtain ⟨s, hs, h⟩ := Scan.look_eq_some h
  obtain ⟨happend, hends⟩ := Scalar.cut_spec s
  generalize Scalar.cut s = taken at h happend hends
  obtain ⟨word, r⟩ := taken
  dsimp only at h happend hends
  generalize hv : Scalar.value? word = found at h
  split at h
  next v' =>
    obtain ⟨u, p', hmove, h⟩ := Scan.bind_eq_some h
    obtain ⟨-, rfl⟩ := Scan.pure_eq_some h
    refine ⟨word, ?_, by rw [hs, Scan.rest_moveTo hmove, happend]⟩
    have hink (c : Char) (hc : c ∈ word) (hend : Scalar.endsScalar c = false) :
        isBlank c = false ∧ c ≠ '#' := by
      refine ⟨(Scalar.blank_of_value? hv c hc).resolve_right ?_, ?_⟩
      · rintro rfl
        exact absurd hend (by decide)
      · rintro rfl
        exact absurd hend (by decide)
    have hne : word ≠ [] := by
      rintro rfl
      cases hv
    constructor
    · obtain ⟨c, t, rfl⟩ := List.exists_cons_of_ne_nil hne
      exact ⟨c, t, rfl, hink c List.mem_cons_self (hends c (.inl rfl))⟩
    · obtain ⟨t, c, rfl⟩ := List.eq_nil_or_concat word |>.resolve_left hne
      exact ⟨t, c, by simp, (hink c (by simp) (hends c (.inr (by simp)))).1⟩
  · cases h

theorem takesValueText_list {α β : Type} {opening closing : Char} (ho : isBlank opening = false)
    (hne : opening ≠ '#') (hc : isBlank closing = false) {one : α → Scan α}
    (hone : ∀ acc, (one acc).Forward) (n : Nat) (acc : α) (f : α → β) :
    TakesValueText (do
      Scan.char opening
      let all ← listFrom closing one n acc
      return f all) := by
  intro p b q h
  obtain ⟨u, p₁, hopen, h⟩ := Scan.bind_eq_some h
  obtain ⟨all, p₂, hall, h⟩ := Scan.bind_eq_some h
  obtain ⟨-, rfl⟩ := Scan.pure_eq_some h
  obtain ⟨t, ht⟩ := listFrom_eq_some hone hall
  exact ⟨_, .framed ho hne hc t, by rw [Scan.char_eq_some hopen, ht]; simp⟩

theorem takesValueText_quoted : TakesValueText (do
    return Value.text (.ofList (← Scan.cutBy Quoted.any?))) := by
  intro p v q h
  obtain ⟨s, p₁, hcut, h⟩ := Scan.bind_eq_some h
  obtain ⟨-, rfl⟩ := Scan.pure_eq_some h
  obtain ⟨c, t, hs, hc⟩ := Quoted.any?_eq_some (Scan.cutBy_eq_some hcut)
  refine ⟨c :: (t ++ [c]), ?_, by rw [hs]; simp⟩
  obtain rfl | rfl := hc
  · exact .framed rfl (by decide) rfl t
  · exact .framed rfl (by decide) rfl t

theorem takesValueText_valueAt (n : Nat) : TakesValueText (valueAt n) := by
  induction n with
  | zero => nofun
  | succ n ih =>
    intro p v q h
    obtain ⟨s, hs, h⟩ := Scan.look_eq_some h
    split at h
    · exact takesValueText_quoted _ _ _ h
    · exact takesValueText_quoted _ _ _ h
    · refine takesValueText_list rfl (by decide) rfl (fun acc => ?_) _ _ (Value.array false) _ _ _ h
      exact ih.forward.spanned.bind fun _ => .pure _
    · exact takesValueText_list rfl (by decide) rfl (forward_inlineEntry ih.forward) _ _
        (Value.table .inline) _ _ _ h
    · exact takesValueText_scalar _ _ _ h

theorem isValueText_of_value {s r : List Char} {o o' : Nat} {v : Value}
    (h : value ⟨s ++ r, o⟩ = some (v, ⟨r, o'⟩)) : IsValueText s := by
  obtain ⟨t, -, h⟩ := Scan.look_eq_some h
  obtain ⟨w, hw, happend⟩ := takesValueText_valueAt _ _ _ _ h
  exact List.append_cancel_right happend ▸ hw

end Toml

end AccessorGen
