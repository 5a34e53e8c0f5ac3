import AccessorGen.Output.Directory
import AccessorGen.Proofs.Round.Ledger

/-! What one declaration of a round can do to another. A rejected declaration leaves no trace but
its own diagnostics. Where a sink takes or refuses a companion whatever it has been given before,
every declaration ends in the list, and has the diagnostics, of a round of its own; only the cause
that a sink gives for a refusal may depend on what came before. -/

namespace AccessorGen

def withoutRejected (ds : List Declaration) : List Declaration := ds.filter (·.companion.isOk)

/-- The sink and the lists of written and refused companions would be the same without the rejected
declarations. -/
structure IgnoresRejected {σ : Type} (sink : Sink σ) (ds : List Declaration) (s : σ) : Prop where
  calls : (process sink.recording (withoutRejected ds) (s, [])).2.2.2 =
    (process sink.recording ds (s, [])).2.2.2
  state : (process sink (withoutRejected ds) s).2.2 = (process sink ds s).2.2
  generated : (process sink (withoutRejected ds) s).1.generated = (process sink ds s).1.generated
  failed : (process sink (withoutRejected ds) s).1.failed = (process sink ds s).1.failed

section Rounds

variable {σ : Type} (sink : Sink σ)

theorem process_withoutRejected (ds : List Declaration) (s : σ) :
    (process sink (withoutRejected ds) s).2.2 = (process sink ds s).2.2 ∧
    (process sink (withoutRejected ds) s).1.generated = (process sink ds s).1.generated ∧
    (process sink (withoutRejected ds) s).1.failed = (process sink ds s).1.failed := by
  induction ds generalizing s with
  | nil => exact ⟨rfl, rfl, rfl⟩
  | cons d ds ih =>
    cases hd : d.companion with
    | error cause =>
      have hdrop : withoutRejected (d :: ds) = withoutRejected ds :=
        List.filter_cons_of_neg (by simp [hd, Except.isOk, Except.toBool])
      rw [hdrop, process_cons (emit_of_error hd)]
      exact ih s
    | ok c =>
      have hkeep : withoutRejected (d :: ds) = d :: withoutRejected ds :=
        List.filter_cons_of_pos (by simp [hd, Except.isOk, Except.toBool])
      obtain ⟨hstate, hgenerated, hfailed⟩ := ih (d.next sink s)
      rw [hkeep, process_cons (emit_eq sink d s), process_cons (emit_eq sink d s)]
      simp only [RoundReport.append, hstate, hgenerated, hfailed, and_self]

theorem ignoresRejected (ds : List Declaration) (s : σ) : IgnoresRejected sink ds s := by
  obtain ⟨hstate, hgenerated, hfailed⟩ := process_withoutRejected sink ds s
  have hrecorded := (process_withoutRejected sink.recording ds (s, [])).1
  exact ⟨congrArg Prod.snd hrecorded, hstate, hgenerated, hfailed⟩

theorem process_append (ds es : List Declaration) (s : σ) :
    process sink (ds ++ es) s =
      ((process sink ds s).1.append (process sink es (process sink ds s).2.2).1,
        (process sink ds s).2.1 ++ (process sink es (process sink ds s).2.2).2.1,
        (process sink es (process sink ds s).2.2).2.2) := by
  induction ds generalizing s with
  | nil => rfl
  | cons d ds ih =>
    rw [List.cons_append, process_cons (emit_eq sink d s), process_cons (emit_eq sink d s), ih]
    simp [RoundReport.append, List.append_assoc]

theorem process_single (d : Declaration) (s : σ) :
    (process sink [d] s).1 = ⟨(d.entry sink s).generated?.toList,
      (d.entry sink s).skipped?.toList, (d.entry sink s).failed?.toList⟩ ∧
    (process sink [d] s).2.1 = (d.entry sink s).diagnostics := by
  obtain ⟨hreport, hdiagnostics⟩ := process_ledger sink [d] s
  rw [hreport, hdiagnostics, ledger, ledger]
  simp only [filterMap_cons_toList, List.filterMap_nil, List.append_nil, List.flatMap_cons,
    List.flatMap_nil, and_self]

end Rounds

namespace Sink

variable {σ : Type}

/-- Whether a write succeeds depends on the namespace and the companion alone. -/
def SteadySuccess (sink : Sink σ) : Prop :=
  ∀ ns c s s', (sink.write ns c s).1.isOk = (sink.write ns c s').1.isOk

/-- The answer to a write, the cause of a refusal included, depends on the namespace and the
companion alone. -/
def SteadyAnswer (sink : Sink σ) : Prop :=
  ∀ ns c s s', (sink.write ns c s).1 = (sink.write ns c s').1

theorem SteadyAnswer.success {sink : Sink σ} (h : sink.SteadyAnswer) : sink.SteadySuccess :=
  fun ns c s s' => congrArg Except.isOk (h ns c s s')

theorem steadyAnswer_memory : memory.SteadyAnswer := fun _ _ _ _ => rfl

theorem steadyAnswer_failing (target : Option String) : (failing target).SteadyAnswer := by
  intro ns c s s'
  cases target with
  | none => rfl
  | some name =>
    simp only [failing]
    split <;> rfl

end Sink

section Steady

variable {σ : Type} {sink : Sink σ} (d : Declaration) (s s' : σ)

theorem fate_of_steadySuccess (h : sink.SteadySuccess) :
    d.fate sink s = d.fate sink s' ∨ ∃ c cause cause',
      d.fate sink s = .failed c cause ∧ d.fate sink s' = .failed c cause' := by
  unfold Declaration.fate
  cases d.companion with
  | error cause => exact .inl rfl
  | ok c =>
    have hok := h d.space c s s'
    cases hw : (sink.write d.space c s).1 with
    | ok _ =>
      cases hw' : (sink.write d.space c s').1 with
      | ok _ => exact .inl (by simp [hw, hw'])
      | error cause' => simp [hw, hw', Except.isOk, Except.toBool] at hok
    | error cause =>
      cases hw' : (sink.write d.space c s').1 with
      | ok _ => simp [hw, hw', Except.isOk, Except.toBool] at hok
      | error cause' => exact .inr ⟨c, cause, cause', by simp [hw], by simp [hw']⟩

theorem fate_of_steadyAnswer (h : sink.SteadyAnswer) : d.fate sink s = d.fate sink s' := by
  unfold Declaration.fate
  cases d.companion with
  | error cause => rfl
  | ok c => simp only [h d.space c s s']

end Steady

def SameButCause (xs ys : List Diagnostic) : Prop :=
  xs = ys ∨ ∃ front element cause cause',
    xs = front ++ [⟨.error, "FATAL ERROR: " ++ cause, element⟩] ∧
    ys = front ++ [⟨.error, "FATAL ERROR: " ++ cause', element⟩]

/-- A declaration has its part of a round between the parts of those before and after it, and the
part is that of a round of its own from another state: the same list and the same diagnostics, the
cause of a failed write excepted where the sink's answer may depend on the state. -/
structure TurnsAlone {σ : Type} (sink : Sink σ) (before : List Declaration) (d : Declaration)
    (after : List Declaration) (s fresh : σ) : Prop where
  parts : process sink (before ++ d :: after) s =
    let turn := process sink [d] (process sink before s).2.2
    let rest := process sink after turn.2.2
    ((process sink before s).1.append (turn.1.append rest.1),
      (process sink before s).2.1 ++ (turn.2.1 ++ rest.2.1), rest.2.2)
  report : (process sink [d] (process sink before s).2.2).1 = (process sink [d] fresh).1
  messages : SameButCause (process sink [d] (process sink before s).2.2).2.1
    (process sink [d] fresh).2.1
  diagnostics : (process sink [d] fresh).1.failed = [] ∨ sink.SteadyAnswer →
    (process sink [d] (process sink before s).2.2).2.1 = (process sink [d] fresh).2.1

theorem turnsAlone_of_steadySuccess {σ : Type} {sink : Sink σ} (h : sink.SteadySuccess)
    (before : List Declaration) (d : Declaration) (after : List Declaration) (s fresh : σ) :
    TurnsAlone sink before d after s fresh := by
  have hfate := fate_of_steadySuccess d (process sink before s).2.2 fresh h
  obtain ⟨hreport, hdiagnostics⟩ := process_single sink d (process sink before s).2.2
  obtain ⟨hreport', hdiagnostics'⟩ := process_single sink d fresh
  refine ⟨?_, ?_, ?_, ?_⟩
  · rw [process_append, ← List.singleton_append, process_append]
  · rw [hreport, hreport']
    rcases hfate with hfate | ⟨c, cause, cause', hfate, hfate'⟩
    · rw [Declaration.entry, hfate, Declaration.entry]
    · simp only [Declaration.entry, Entry.generated?, Entry.skipped?, Entry.failed?, hfate, hfate']
  · rw [hdiagnostics, hdiagnostics']
    rcases hfate with hfate | ⟨c, cause, cause', hfate, hfate'⟩
    · exact .inl (by rw [Declaration.entry, hfate, Declaration.entry])
    · refine .inr ⟨(Entry.note? (d.entry sink fresh)).toList, some d.qualifiedName, cause, cause',
        ?_, ?_⟩
      · rw [Declaration.entry, hfate]
        rfl
      · rw [Declaration.entry, hfate']
        rfl
  · intro hsteady
    rw [hdiagnostics, hdiagnostics']
    have hsame : d.fate sink (process sink before s).2.2 = d.fate sink fresh := by
      rcases hsteady with hwritten | hsteady
      · refine hfate.resolve_right ?_
        rintro ⟨c, cause, cause', -, hfate'⟩
        rw [hreport'] at hwritten
        simp [Declaration.entry, Entry.failed?, hfate'] at hwritten
      · exact fate_of_steadyAnswer d _ fresh hsteady
    rw [Declaration.entry, hsame, Declaration.entry]

/-- A rejected declaration changes nothing for the others; and with a sink that takes or refuses a
companion whatever came before, neither does any other declaration, but for the cause of a later
refusal. The sinks in memory give the same causes as well. -/
theorem elements_isolated :
    (∀ {σ : Type} (sink : Sink σ) (ds : List Declaration) (s : σ), IgnoresRejected sink ds s) ∧
    (∀ {σ : Type} (sink : Sink σ), sink.SteadySuccess → ∀ before d after s fresh,
      TurnsAlone sink before d after s fresh) ∧
    Sink.memory.SteadyAnswer ∧ ∀ target, (Sink.failing target).SteadyAnswer :=
  ⟨ignoresRejected, fun _ h => turnsAlone_of_steadySuccess h, Sink.steadyAnswer_memory,
    Sink.steadyAnswer_failing⟩

section Runs

def classIn (segment name : String) : Declaration := ⟨name, ⟨[segment]⟩, .class, []⟩

/-- A rejected declaration and a refused companion on both sides of one that is written. -/
theorem isolated_shop_order :
    IgnoresRejected (Sink.failing (some "UserData"))
      [⟨"Shape", .root, .interface, []⟩, classIn "shop" "User", classIn "shop" "Order"] [] ∧
    TurnsAlone (Sink.failing (some "UserData"))
      [⟨"Shape", .root, .interface, []⟩, classIn "shop" "User"] (classIn "shop" "Order")
      [classIn "shop" "User"] [] [] :=
  ⟨elements_isolated.1 _ _ _,
    elements_isolated.2.1 _ (elements_isolated.2.2.2 _).success _ _ _ _ _⟩

def Sink.refusing : Sink Bool :=
  ⟨fun _ _ tried => (.error (if tried then "device is gone" else "no space left"), true)⟩

def fileTree (name : String) : FileTree := ⟨.dir [(name, .file (.text ""))], []⟩

/-- Whether it succeeds depends on nothing, and yet a second refusal reads otherwise than the same
refusal alone. So it is below a file that is reached through a directory which the first attempt
makes. -/
theorem refusal_reads_otherwise :
    Sink.refusing.SteadySuccess ∧
    (process Sink.refusing [classIn "a" "User", classIn "a" "Order"] false).2.1 ≠
      (process Sink.refusing [classIn "a" "User"] false).2.1 ++
        (process Sink.refusing [classIn "a" "Order"] false).2.1 ∧
    let round := fun ds => (generateRound {} ⟨"x/../f"⟩ ds (fileTree "f")).1
    (round [classIn "a" "User", classIn "a" "Order"]).report.generated = [] ∧
    (round [classIn "a" "User", classIn "a" "Order"]).diagnostics ≠
      (round [classIn "a" "User"]).diagnostics ++ (round [classIn "a" "Order"]).diagnostics := by
  refine ⟨fun _ _ _ _ => rfl, ?_⟩
  decide +kernel

end Runs

end AccessorGen
