import AccessorGen.Proofs.Companion.Acceptance
import Mathlib.Logic.Function.Basic

/-! The laws of getters and setters. A companion means a record with a value under each field name,
which is read and changed by calling methods by their names. Every accepted companion obeys the
laws of fields: a method name stands for one accessor, a getter gives what its field was last set
to, and a setter changes its own field only. -/

namespace AccessorGen

abbrev Record (α : Type) := String → α

/-- Runs a body with the arguments of a call, to the result of the call and the record after it. The
value of the parameter is the argument. -/
def AccessorBody.run {α : Type} (r : Record α) : AccessorBody → List α →
    Option (Option α × Record α)
  | .returnField field, [] => some (some (r field), r)
  | .assignField field _, [v] => some (none, Function.update r field v)
  | _, _ => none

namespace Companion

variable {α : Type}

/-- A call of a method runs the body of an accessor of that name. -/
def Calls (c : Companion) (method : String) (args : List α) (r : Record α) (result : Option α)
    (s : Record α) : Prop :=
  ∃ a ∈ c.accessors, a.method = method ∧ a.body.run r args = some (result, s)

/-- One call after another, each of a method with one argument that gives no result. -/
inductive Sets (c : Companion) : List (String × α) → Record α → Record α → Prop
  | nil (r : Record α) : Sets c [] r r
  | cons {method : String} {v : α} {calls : List (String × α)} {r s u : Record α}
    (first : c.Calls method [v] r none s) (rest : Sets c calls s u) :
    Sets c ((method, v) :: calls) r u

end Companion

def lastArgument {α : Type} (method : String) (calls : List (String × α)) : Option α :=
  (calls.findRev? (·.1 = method)).map Prod.snd

theorem lastArgument_cons {α : Type} (method : String) (call : String × α)
    (calls : List (String × α)) : lastArgument method (call :: calls) =
      (lastArgument method calls).or (if call.1 = method then some call.2 else none) := by
  unfold lastArgument
  rw [List.findRev?]
  cases List.findRev? (·.1 = method) calls with
  | some last => rfl
  | none =>
    by_cases h : call.1 = method <;> simp [h]

/-- The laws of fields. Calls are told apart by method names alone, so each law says what every
accessor of the name does; the setter calls of any sequence go through, and no others do. -/
structure FieldLaws (c : Companion) : Prop where
  names : (c.fields.map Field.name).Nodup
  one : ∀ a ∈ c.accessors, c.accessors.filter (fun b => b.method = a.method) = [a]
  set : ∀ {α : Type} (r : Record α) (v : α), ∀ f ∈ c.fields, ∀ result s,
    c.Calls (Accessor.methodName .setter f.name) [v] r result s ↔
      result = none ∧ s f.name = v ∧ ∀ name ≠ f.name, s name = r name
  sets : ∀ {α : Type} (calls : List (String × α)) (r : Record α), (∃ s, c.Sets calls r s) ↔
    ∀ call ∈ calls, ∃ f ∈ c.fields, call.1 = Accessor.methodName .setter f.name
  get : ∀ {α : Type} (calls : List (String × α)) (r s : Record α), c.Sets calls r s →
    ∀ f ∈ c.fields, ∀ result u, c.Calls (Accessor.methodName .getter f.name) [] s result u ↔
      result = some ((lastArgument (Accessor.methodName .setter f.name) calls).getD (r f.name)) ∧
        u = s

theorem mem_accessorsOf {fields : List Field} {a : Accessor} :
    a ∈ accessorsOf fields ↔ ∃ f ∈ fields, a = .getter f ∨ a = .setter f := by
  simp [accessorsOf, Accessor.pair]

namespace Companion

section Laws

variable {c : Companion} (hpairs : c.accessors = accessorsOf c.fields)
  {α : Type} {r s : Record α} {result : Option α}

include hpairs

theorem exists_setter_of_calls {method : String} {v : α} (h : c.Calls method [v] r result s) :
    ∃ f ∈ c.fields, method = Accessor.methodName .setter f.name := by
  obtain ⟨a, ha, rfl, hrun⟩ := h
  rw [hpairs] at ha
  obtain ⟨f, hf, rfl | rfl⟩ := mem_accessorsOf.1 ha
  · cases hrun
  · exact ⟨f, hf, rfl⟩

variable (hapart : CapitalsApart c.fields)

include hapart

theorem calls_iff {a : Accessor} (ha : a ∈ c.accessors) {args : List α} :
    c.Calls a.method args r result s ↔ a.body.run r args = some (result, s) := by
  constructor
  · rintro ⟨b, hb, hmethod, hrun⟩
    have hmethods : (c.accessors.map Accessor.method).Nodup := hpairs ▸ nodup_methods hapart
    rwa [← List.inj_on_of_nodup_map hmethods hb ha hmethod]
  · exact fun hrun => ⟨a, ha, rfl, hrun⟩

variable {f : Field} (hf : f ∈ c.fields)

include hf

theorem calls_setter_iff {v : α} :
    c.Calls (Accessor.methodName .setter f.name) [v] r result s ↔
      result = none ∧ s = Function.update r f.name v := by
  have hsetter : Accessor.setter f ∈ c.accessors := hpairs ▸ mem_accessorsOf.2 ⟨f, hf, .inr rfl⟩
  have hcalls : c.Calls (Accessor.setter f).method [v] r result s ↔
      (Accessor.setter f).body.run r [v] = some (result, s) := calls_iff hpairs hapart hsetter
  refine hcalls.trans ?_
  simp [Accessor.setter, AccessorBody.run, eq_comm]

theorem calls_getter_iff :
    c.Calls (Accessor.methodName .getter f.name) [] r result s ↔
      result = some (r f.name) ∧ s = r := by
  have hgetter : Accessor.getter f ∈ c.accessors := hpairs ▸ mem_accessorsOf.2 ⟨f, hf, .inl rfl⟩
  have hcalls : c.Calls (Accessor.getter f).method [] r result s ↔
      (Accessor.getter f).body.run r [] = some (result, s) := calls_iff hpairs hapart hgetter
  refine hcalls.trans ?_
  simp [Accessor.getter, AccessorBody.run, eq_comm]

omit hf

theorem exists_sets_iff {calls : List (String × α)} :
    (∃ s, c.Sets calls r s) ↔
      ∀ call ∈ calls, ∃ f ∈ c.fields, call.1 = Accessor.methodName .setter f.name := by
  induction calls generalizing r with
  | nil => exact iff_of_true ⟨r, .nil r⟩ (by simp)
  | cons call calls ih =>
    obtain ⟨method, v⟩ := call
    rw [List.forall_mem_cons]
    constructor
    · rintro ⟨u, hsets⟩
      cases hsets with
      | cons hfirst hrest => exact ⟨exists_setter_of_calls hpairs hfirst, ih.1 ⟨u, hrest⟩⟩
    · rintro ⟨⟨f, hf, rfl⟩, hcalls⟩
      obtain ⟨u, hrest⟩ := (ih (r := Function.update r f.name v)).2 hcalls
      exact ⟨u, .cons ((calls_setter_iff hpairs hapart hf).2 ⟨rfl, rfl⟩) hrest⟩

include hf

theorem value_of_sets {calls : List (String × α)} (h : c.Sets calls r s) :
    s f.name = (lastArgument (Accessor.methodName .setter f.name) calls).getD (r f.name) := by
  induction h with
  | nil r => rfl
  | @cons method v calls r s u hfirst hrest ih =>
    obtain ⟨g, hg, rfl⟩ := exists_setter_of_calls hpairs hfirst
    obtain ⟨-, rfl⟩ := (calls_setter_iff hpairs hapart hg).1 hfirst
    rw [ih, lastArgument_cons]
    cases lastArgument (Accessor.methodName .setter f.name) calls with
    | some last => rfl
    | none =>
      -- no later call for the field, so the first call decides
      by_cases hsame : g = f
      · subst hsame
        simp
      · have hcapital : g.capital ≠ f.capital := fun e =>
          hsame (List.inj_on_of_nodup_map hapart hg hf e)
        have hname : f.name ≠ g.name := fun e => hcapital (congrArg Text.capitalize e.symm)
        have hmethod : Accessor.methodName .setter g.name ≠ Accessor.methodName .setter f.name :=
          fun e => hcapital (methodName_inj.1 e).2
        simp [hname, hmethod]

end Laws

end Companion

/-- Getters and setters of an accepted companion obey the laws of fields. -/
theorem fieldLaws_companion {d : Declaration} {c : Companion} (h : d.companion = .ok c) :
    FieldLaws c := by
  obtain ⟨hacceptable, hmade⟩ := acceptable_of_companion h
  obtain rfl := hmade.eq
  have hapart := hacceptable.apart
  refine ⟨?_, fun a ha => filter_eq_singleton (nodup_methods hapart) ha, ?_,
    fun _ _ => Companion.exists_sets_iff rfl hapart, ?_⟩
  · refine List.Nodup.of_map Text.capitalize ?_
    rw [List.map_map]
    exact hapart
  · intro α r v f hf result s
    rw [Companion.calls_setter_iff rfl hapart hf, Function.eq_update_iff]
  · intro α calls r s hsets f hf result u
    rw [Companion.calls_getter_iff rfl hapart hf, Companion.value_of_sets rfl hapart hf hsets]

def caseTwins : Declaration :=
  ⟨"User", .root, .class, [⟨"id", .field (.primitive .int)⟩, ⟨"new", .constructor⟩,
    ⟨"iD", .field (.named "Key")⟩, ⟨"getId", .method⟩]⟩

theorem fieldLaws_caseTwins : FieldLaws ⟨"User", [⟨"id", .primitive .int⟩, ⟨"iD", .named "Key"⟩],
    accessorsOf [⟨"id", .primitive .int⟩, ⟨"iD", .named "Key"⟩]⟩ :=
  fieldLaws_companion (d := caseTwins) (by decide)

end AccessorGen
