import AccessorGen.Companion.Build
import Mathlib.Data.List.Induction
import Mathlib.Data.List.Nodup

/-! Which declarations have a companion, what it holds, and why the others have none. A companion is
made of a class whose fields all pass their checks and whose field names differ even when their
first letters are put in upper case; a refusal names the first field that stands in the way. -/

namespace AccessorGen

/-- What is wrong with a field; its type counts only under a proper name. -/
inductive Field.Faulty (f : Field) : FieldFault → Prop
  | name (bad : Validity.fieldName f.name = false) : f.Faulty (.badName f.name)
  | type (named : Validity.fieldName f.name = true) (bad : Validity.type f.type = false) :
    f.Faulty (.badType f.name f.type.display)

theorem Field.check_of_faulty {f : Field} {fault : FieldFault} (h : f.Faulty fault) :
    f.check = .error fault := by
  cases h with
  | name bad => simp [Field.check, bad]
  | type named bad => simp [Field.check, named, bad]

theorem Field.check_or_faulty (f : Field) : f.check = .ok () ∨ ∃ fault, f.Faulty fault := by
  cases hname : Validity.fieldName f.name with
  | false => exact .inr ⟨_, .name hname⟩
  | true =>
    cases htype : Validity.type f.type with
    | false => exact .inr ⟨_, .type hname htype⟩
    | true => exact .inl (by simp [Field.check, hname, htype])

def FirstFault (fields : List Field) (fault : FieldFault) : Prop :=
  ∃ front f back, fields = front ++ f :: back ∧ (∀ g ∈ front, g.check = .ok ()) ∧ f.Faulty fault

theorem firstFault_cons {f : Field} {fields : List Field} {fault : FieldFault}
    (hf : f.check = .ok ()) (h : FirstFault fields fault) : FirstFault (f :: fields) fault := by
  obtain ⟨front, g, back, rfl, hfront, hg⟩ := h
  exact ⟨f :: front, g, back, rfl, List.forall_mem_cons.2 ⟨hf, hfront⟩, hg⟩

theorem checkFields_cons_ok {f : Field} (hf : f.check = .ok ()) (fields : List Field) :
    checkFields (f :: fields) = checkFields fields := by
  change (f.check >>= fun _ => checkFields fields) = checkFields fields
  rw [hf]
  rfl

theorem checkFields_of_all {fields : List Field} (h : ∀ f ∈ fields, f.check = .ok ()) :
    checkFields fields = .ok () := by
  induction fields with
  | nil => rfl
  | cons f fields ih =>
    obtain ⟨hf, hrest⟩ := List.forall_mem_cons.1 h
    rw [checkFields_cons_ok hf, ih hrest]

theorem checkFields_of_firstFault {fields : List Field} {fault : FieldFault}
    (h : FirstFault fields fault) : checkFields fields = .error fault := by
  obtain ⟨front, f, back, rfl, hfront, hf⟩ := h
  induction front with
  | nil =>
    change (f.check >>= fun _ => checkFields back) = .error fault
    rw [Field.check_of_faulty hf]
    rfl
  | cons g front ih =>
    obtain ⟨hg, hrest⟩ := List.forall_mem_cons.1 hfront
    rw [List.cons_append, checkFields_cons_ok hg, ih hrest]

theorem all_or_firstFault (fields : List Field) :
    (∀ f ∈ fields, f.check = .ok ()) ∨ ∃ fault, FirstFault fields fault := by
  induction fields with
  | nil => exact .inl (by simp)
  | cons f fields ih =>
    rcases f.check_or_faulty with hf | ⟨fault, hf⟩
    · rcases ih with hrest | ⟨fault, hrest⟩
      · exact .inl (List.forall_mem_cons.2 ⟨hf, hrest⟩)
      · exact .inr ⟨fault, firstFault_cons hf hrest⟩
    · exact .inr ⟨fault, [], f, fields, rfl, by simp, hf⟩

def Field.capital (f : Field) : String := Text.capitalize f.name

theorem methodName_inj {kind kind' : AccessorKind} {s t : String} :
    Accessor.methodName kind s = Accessor.methodName kind' t ↔
      kind = kind' ∧ Text.capitalize s = Text.capitalize t := by
  have hverbs : ∀ a b, "get" ++ a ≠ "set" ++ b := by
    intro a b h
    have hlist := congrArg String.toList h
    simp at hlist
  cases kind <;> cases kind' <;>
    simp [Accessor.methodName, AccessorKind.verb, hverbs, (hverbs _ _).symm]

theorem methodName_beq (kind kind' : AccessorKind) (f g : Field) :
    (Accessor.methodName kind f.name == Accessor.methodName kind' g.name) =
      decide (kind = kind' ∧ g.capital = f.capital) := by
  rw [Bool.eq_iff_iff, beq_iff_eq, methodName_inj, decide_eq_true_iff, eq_comm (a := g.capital)]
  rfl

def CapitalsApart (fields : List Field) : Prop := (fields.map Field.capital).Nodup

instance (fields : List Field) : Decidable (CapitalsApart fields) :=
  inferInstanceAs (Decidable (List.Nodup _))

theorem filter_eq_singleton {α β : Type} [DecidableEq β] {key : α → β} {l : List α} {a : α}
    (h : (l.map key).Nodup) (ha : a ∈ l) : l.filter (fun b => key b = key a) = [a] := by
  obtain ⟨front, back, rfl⟩ := List.append_of_mem ha
  rw [List.map_append, List.map_cons, List.nodup_middle, List.nodup_cons, ← List.map_append] at h
  have hother : ∀ b ∈ front ++ back, ¬key b = key a := fun b hb e =>
    h.1 (e ▸ List.mem_map_of_mem hb)
  rw [List.filter_append, List.filter_cons_of_pos (by simp),
    List.filter_eq_nil_iff.2 fun b hb => by simpa using hother b (by simp [hb]),
    List.filter_eq_nil_iff.2 fun b hb => by simpa using hother b (by simp [hb]), List.nil_append]

def FirstRepeat (fields : List Field) (first second : Field) : Prop :=
  ∃ before after, fields = before ++ second :: after ∧ CapitalsApart before ∧
    before.filter (fun f => f.capital = second.capital) = [first]

theorem firstRepeat_or_apart (fields : List Field) :
    CapitalsApart fields ∨ ∃ first second, FirstRepeat fields first second := by
  induction fields using List.reverseRecOn with
  | nil => exact .inl List.nodup_nil
  | append_singleton fields f ih =>
    rcases ih with hapart | ⟨first, second, before, after, rfl, hbefore, hfirst⟩
    · by_cases hf : f.capital ∈ fields.map Field.capital
      · obtain ⟨g, hg, hsame⟩ := List.mem_map.1 hf
        refine .inr ⟨g, f, fields, [], rfl, hapart, ?_⟩
        rw [← hsame]
        exact filter_eq_singleton hapart hg
      · refine .inl ?_
        rw [CapitalsApart, List.map_append, List.nodup_append_comm]
        exact List.nodup_cons.2 ⟨hf, hapart⟩
    · exact .inr ⟨first, second, before, after ++ [f], by simp, hbefore, hfirst⟩

namespace Accessor

def seenAfter : List Field → List (String × String)
  | [] => []
  | f :: done =>
    (methodName .setter f.name, f.name) :: (methodName .getter f.name, f.name) :: seenAfter done

theorem lookup_seenAfter (kind : AccessorKind) (f : Field) (done : List Field) :
    (seenAfter done).lookup (methodName kind f.name) =
      (done.find? fun g => g.capital = f.capital).map Field.name := by
  induction done with
  | nil => rfl
  | cons g done ih =>
    rw [seenAfter, List.lookup_cons, List.lookup_cons, methodName_beq, methodName_beq, ih]
    by_cases hsame : g.capital = f.capital
    · cases kind <;> simp [hsame]
    · simp [hsame]

theorem checkFrom_field (done : List Field) (f : Field) (fields : List Field) :
    checkFrom (seenAfter done) (accessorsOf (f :: fields)) =
      match done.find? fun g => g.capital = f.capital with
      | some first => .error (.collision (methodName .getter f.name) first.name f.name)
      | none => checkFrom (seenAfter (f :: done)) (accessorsOf fields) := by
  have hpair : accessorsOf (f :: fields) = getter f :: setter f :: accessorsOf fields := rfl
  have hgetter := lookup_seenAfter .getter f done
  have hsetter := lookup_seenAfter .setter f done
  rw [hpair, checkFrom, getter, hgetter]
  cases hfind : done.find? fun g => g.capital = f.capital with
  | some first => simp
  | none =>
    rw [hfind] at hsetter
    simp [checkFrom, setter, List.lookup_cons, methodName_beq, hsetter, seenAfter]

theorem checkFrom_apart {done front : List Field} (h : CapitalsApart (front.reverse ++ done))
    (back : List Field) : checkFrom (seenAfter done) (accessorsOf (front ++ back)) =
      checkFrom (seenAfter (front.reverse ++ done)) (accessorsOf back) := by
  induction front generalizing done with
  | nil => rfl
  | cons f front ih =>
    rw [List.reverse_cons, List.append_assoc, List.singleton_append] at h ⊢
    have hnew : f.capital ∉ done.map Field.capital := by
      rw [CapitalsApart, List.map_append, List.nodup_append] at h
      exact (List.nodup_cons.1 h.2.1).1
    have hfind : (done.find? fun g => g.capital = f.capital) = none := by
      rw [List.find?_eq_none]
      intro g hg hsame
      exact hnew (List.mem_map.2 ⟨g, hg, by simpa using hsame⟩)
    rw [List.cons_append, checkFrom_field, hfind]
    exact ih h

theorem checkDistinct_append {front : List Field} (h : CapitalsApart front) (back : List Field) :
    checkDistinct (accessorsOf (front ++ back)) =
      checkFrom (seenAfter front.reverse) (accessorsOf back) := by
  have hapart : CapitalsApart (front.reverse ++ []) := by
    rw [List.append_nil, CapitalsApart, List.map_reverse, List.nodup_reverse]
    exact h
  have hwalk := checkFrom_apart hapart back
  rwa [List.append_nil] at hwalk

theorem checkDistinct_of_apart {fields : List Field} (h : CapitalsApart fields) :
    checkDistinct (accessorsOf fields) = .ok () := by
  have hwalk := checkDistinct_append h []
  rwa [List.append_nil] at hwalk

theorem checkDistinct_of_firstRepeat {fields : List Field} {first second : Field}
    (h : FirstRepeat fields first second) : checkDistinct (accessorsOf fields) =
      .error (.collision (methodName .getter second.name) first.name second.name) := by
  obtain ⟨before, after, rfl, hapart, hfirst⟩ := h
  have hfind : (before.reverse.find? fun g => g.capital = second.capital) = some first := by
    rw [← List.head?_filter, List.filter_reverse, hfirst]
    rfl
  rw [checkDistinct_append hapart, checkFrom_field, hfind]

end Accessor

/-- What a declaration must be for a companion to be made of it. -/
structure Acceptable (d : Declaration) : Prop where
  isClass : d.kind = .class
  checks : ∀ f ∈ d.fields, f.check = .ok ()
  apart : CapitalsApart d.fields

def Field.member (f : Field) : Member := ⟨f.name, .field f.type⟩

/-- What a companion takes from its declaration: the members that are fields, and a getter and a
setter of each in their order, under names that are all different. -/
structure MadeFrom (d : Declaration) (c : Companion) : Prop where
  sourceName : c.sourceName = d.name
  fields : c.fields.map Field.member = d.members.filter Member.isField
  length : c.accessors.length = 2 * c.fields.length
  accessors : ∀ i f, c.fields[i]? = some f →
    c.accessors[2 * i]? = some (.getter f) ∧ c.accessors[2 * i + 1]? = some (.setter f)
  methods : (c.accessors.map Accessor.method).Nodup

/-- What comes of a declaration: the kind is judged first, then the fields one by one, and the
method names last. -/
inductive Judged (d : Declaration) : Except Rejection Companion → Prop
  | accepted {c : Companion} (h : Acceptable d) (made : MadeFrom d c) : Judged d (.ok c)
  | notAClass (h : d.kind ≠ .class) : Judged d (.error (.notAClass d.name d.kind))
  | fault {fault : FieldFault} (isClass : d.kind = .class) (first : FirstFault d.fields fault) :
    Judged d (.error (.invalid d.name fault))
  | collision {first second : Field} (isClass : d.kind = .class)
    (checks : ∀ f ∈ d.fields, f.check = .ok ()) (repeated : FirstRepeat d.fields first second) :
    Judged d (.error (.invalid d.name
      (.collision (Accessor.methodName .getter second.name) first.name second.name)))

theorem members_fields (d : Declaration) :
    d.fields.map Field.member = d.members.filter Member.isField := by
  rw [Declaration.fields]
  induction d.members with
  | nil => rfl
  | cons m members ih =>
    obtain ⟨name, kind⟩ := m
    rw [List.filterMap_cons, List.filter_cons, ← ih]
    cases kind <;> rfl

theorem member_injective : Function.Injective Field.member := by
  rintro ⟨name, type⟩ ⟨name', type'⟩ h
  simpa [Field.member] using h

theorem getElem?_accessorsOf (fields : List Field) (i : Nat) :
    (accessorsOf fields)[2 * i]? = fields[i]?.map .getter ∧
    (accessorsOf fields)[2 * i + 1]? = fields[i]?.map .setter := by
  induction fields generalizing i with
  | nil => simp [accessorsOf]
  | cons f fields ih =>
    have hpair : accessorsOf (f :: fields) = .getter f :: .setter f :: accessorsOf fields := rfl
    rw [hpair]
    cases i with
    | zero => exact ⟨rfl, rfl⟩
    | succ i => simpa [Nat.mul_add] using ih i

theorem nodup_methods {fields : List Field} (h : CapitalsApart fields) :
    ((accessorsOf fields).map Accessor.method).Nodup := by
  induction fields with
  | nil => exact List.nodup_nil
  | cons f fields ih =>
    obtain ⟨hnew, hrest⟩ := List.nodup_cons.1 h
    have hother : ∀ kind, Accessor.methodName kind f.name ∉
        (accessorsOf fields).map Accessor.method := by
      intro kind hmem
      obtain ⟨a, ha, hmethod⟩ := List.mem_map.1 hmem
      obtain ⟨g, hg, ha⟩ := List.mem_flatMap.1 ha
      refine hnew (List.mem_map.2 ⟨g, hg, ?_⟩)
      simp only [Accessor.pair, List.mem_cons, List.not_mem_nil, or_false] at ha
      rcases ha with rfl | rfl <;> exact (methodName_inj.1 hmethod).2
    change (Accessor.methodName .getter f.name :: Accessor.methodName .setter f.name ::
      (accessorsOf fields).map Accessor.method).Nodup
    refine List.nodup_cons.2 ⟨?_, List.nodup_cons.2 ⟨hother .setter, ih hrest⟩⟩
    rw [List.mem_cons, not_or]
    exact ⟨fun e => absurd (methodName_inj.1 e).1 (by decide), hother .getter⟩

theorem MadeFrom.eq {d : Declaration} {c : Companion} (h : MadeFrom d c) :
    c = ⟨d.name, d.fields, accessorsOf d.fields⟩ := by
  obtain ⟨name, fields, accessors⟩ := c
  obtain rfl : name = d.name := h.sourceName
  obtain rfl : fields = d.fields :=
    member_injective.list_map (h.fields.trans (members_fields d).symm)
  have hlength : accessors.length = 2 * d.fields.length := h.length
  have hevery : accessors = accessorsOf d.fields := by
    refine List.ext_getElem? fun n => ?_
    have hparity : n = 2 * (n / 2) ∨ n = 2 * (n / 2) + 1 := by omega
    cases hf : d.fields[n / 2]? with
    | none =>
      have hend := List.getElem?_eq_none_iff.1 hf
      rw [List.getElem?_eq_none (by omega), List.getElem?_eq_none]
      rw [length_accessorsOf]
      omega
    | some f =>
      obtain ⟨hgetter, hsetter⟩ := h.accessors (n / 2) f hf
      obtain ⟨hgetter', hsetter'⟩ := getElem?_accessorsOf d.fields (n / 2)
      rw [hf] at hgetter' hsetter'
      rcases hparity with hn | hn
      · rw [hn, hgetter']
        exact hgetter
      · rw [hn, hsetter']
        exact hsetter
  rw [hevery]

theorem madeFrom_of_apart {d : Declaration} (h : CapitalsApart d.fields) :
    MadeFrom d ⟨d.name, d.fields, accessorsOf d.fields⟩ where
  sourceName := rfl
  fields := members_fields d
  length := length_accessorsOf d.fields
  accessors i f hf := by
    have hentries := getElem?_accessorsOf d.fields i
    rwa [hf] at hentries
  methods := nodup_methods h

section Outcomes

variable {d : Declaration}

theorem companion_of_not_class (h : d.kind ≠ .class) :
    d.companion = .error (.notAClass d.name d.kind) := by
  have hclass : d.kind.isClass = false := by simpa [DeclarationKind.isClass] using h
  simp [Declaration.companion, hclass]

theorem companion_of_class (h : d.kind = .class) :
    d.companion = (companionOf d.name d.fields).mapError (.invalid d.name) := by
  simp [Declaration.companion, h, DeclarationKind.isClass]

theorem companion_of_acceptable (h : Acceptable d) :
    d.companion = .ok ⟨d.name, d.fields, accessorsOf d.fields⟩ := by
  rw [companion_of_class h.isClass, companionOf, checkFields_of_all h.checks]
  simp only [bind, Except.bind, Accessor.checkDistinct_of_apart h.apart]
  rfl

theorem companion_of_firstFault {fault : FieldFault} (h : d.kind = .class)
    (hfault : FirstFault d.fields fault) : d.companion = .error (.invalid d.name fault) := by
  rw [companion_of_class h, companionOf, checkFields_of_firstFault hfault]
  rfl

theorem companion_of_firstRepeat {first second : Field} (h : d.kind = .class)
    (hchecks : ∀ f ∈ d.fields, f.check = .ok ()) (hrepeat : FirstRepeat d.fields first second) :
    d.companion = .error (.invalid d.name
      (.collision (Accessor.methodName .getter second.name) first.name second.name)) := by
  rw [companion_of_class h, companionOf, checkFields_of_all hchecks]
  simp only [bind, Except.bind, Accessor.checkDistinct_of_firstRepeat hrepeat]
  rfl

theorem judged_companion (d : Declaration) : Judged d d.companion := by
  by_cases hclass : d.kind = .class
  · rcases all_or_firstFault d.fields with hchecks | ⟨fault, hfault⟩
    · rcases firstRepeat_or_apart d.fields with hapart | ⟨first, second, hrepeat⟩
      · rw [companion_of_acceptable ⟨hclass, hchecks, hapart⟩]
        exact .accepted ⟨hclass, hchecks, hapart⟩ (madeFrom_of_apart hapart)
      · rw [companion_of_firstRepeat hclass hchecks hrepeat]
        exact .collision hclass hchecks hrepeat
    · rw [companion_of_firstFault hclass hfault]
      exact .fault hclass hfault
  · rw [companion_of_not_class hclass]
    exact .notAClass hclass

theorem acceptable_of_companion {c : Companion} (h : d.companion = .ok c) :
    Acceptable d ∧ MadeFrom d c := by
  have hjudged := judged_companion d
  rw [h] at hjudged
  cases hjudged with
  | accepted hacceptable hmade => exact ⟨hacceptable, hmade⟩

theorem Judged.companion_eq {r : Except Rejection Companion} (h : Judged d r) :
    d.companion = r := by
  cases h with
  | accepted hacceptable hmade => rw [companion_of_acceptable hacceptable, hmade.eq]
  | notAClass hclass => exact companion_of_not_class hclass
  | fault hclass hfault => exact companion_of_firstFault hclass hfault
  | collision hclass hchecks hrepeat => exact companion_of_firstRepeat hclass hchecks hrepeat

end Outcomes

/-- A companion is made exactly of the acceptable declarations, and what comes of a declaration is
exactly what it is judged to be: a companion made from it, or the first reason against one. -/
theorem companion_eq_iff (d : Declaration) :
    ((∃ c, d.companion = .ok c) ↔ Acceptable d) ∧ ∀ r, d.companion = r ↔ Judged d r := by
  refine ⟨⟨?_, fun h => ⟨_, companion_of_acceptable h⟩⟩, fun r => ⟨?_, Judged.companion_eq⟩⟩
  · rintro ⟨c, hc⟩
    exact (acceptable_of_companion hc).1
  · rintro rfl
    exact judged_companion d

example : (⟨"User", .root, .class, [⟨"id", .field (.primitive .int)⟩, ⟨"new", .method⟩,
    ⟨"ß", .field (.primitive .int)⟩, ⟨"SS", .field (.primitive .int)⟩]⟩ : Declaration).companion =
      .error (.invalid "User" (.collision "getSS" "ß" "SS")) := by
  decide

end AccessorGen
