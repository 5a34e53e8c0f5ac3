import AccessorGen.Proofs.Round.Accepted

/-! What a round accounts for. Every declaration has one fate: its companion is written, or it is
rejected and the sink is not asked, or the sink refuses its companion. The report, the diagnostics
and the calls of the sink are read off the fates in the order of the declarations. -/

namespace AccessorGen

/-- What a sink was given, and what it answered. -/
structure Call where
  space : Namespace
  companion : Companion
  answer : Except String Unit

def Sink.recording {σ : Type} (sink : Sink σ) : Sink (σ × List Call) :=
  ⟨fun ns c s =>
    let (answer, s') := sink.write ns c s.1
    (answer, s', s.2 ++ [⟨ns, c, answer⟩])⟩

inductive Fate
  | generated (c : Companion)
  | skipped (cause : Rejection)
  | failed (c : Companion) (cause : String)

namespace Fate

def built : Fate → Except Rejection Companion
  | generated c => .ok c
  | skipped cause => .error cause
  | failed c _ => .ok c

def result : Fate → Except EmitFault Companion
  | generated c => .ok c
  | skipped cause => .error (.rejected cause)
  | failed _ cause => .error (.sink cause)

/-- The text of the error that reports it; what is generated has none. -/
def fault? : Fate → Option String
  | generated _ => none
  | skipped cause => some cause.message
  | failed _ cause => some ("FATAL ERROR: " ++ cause)

end Fate

structure Entry where
  declaration : Declaration
  fate : Fate

namespace Entry

def generated? (e : Entry) : Option String :=
  match e.fate with
  | .generated c => some (e.declaration.space.qualify c.name)
  | _ => none

def skipped? (e : Entry) : Option String :=
  match e.fate with
  | .skipped _ => some e.declaration.qualifiedName
  | _ => none

def failed? (e : Entry) : Option String :=
  match e.fate with
  | .failed .. => some e.declaration.qualifiedName
  | _ => none

/-- The call of the sink it stands for; none where there is no companion to write. -/
def call? (e : Entry) : Option Call :=
  match e.fate with
  | .generated c => some ⟨e.declaration.space, c, .ok ()⟩
  | .skipped _ => none
  | .failed c cause => some ⟨e.declaration.space, c, .error cause⟩

def note? (e : Entry) : Option Diagnostic :=
  if e.declaration.kind.isClass then
    some ⟨.note, "Processing " ++ e.declaration.name, some e.declaration.qualifiedName⟩
  else none

def error? (e : Entry) : Option Diagnostic :=
  e.fate.fault?.map fun text => ⟨.error, text, some e.declaration.qualifiedName⟩

/-- A note on a class, then an error on what is not generated; both name the declaration. -/
def diagnostics (e : Entry) : List Diagnostic := e.note?.toList ++ e.error?.toList

end Entry

section Turn

variable {σ : Type} (sink : Sink σ) (d : Declaration) (s : σ)

def Declaration.fate : Fate :=
  match d.companion with
  | .error cause => .skipped cause
  | .ok c =>
    match (sink.write d.space c s).1 with
    | .ok () => .generated c
    | .error cause => .failed c cause

def Declaration.next : σ :=
  match d.companion with
  | .error _ => s
  | .ok c => (sink.write d.space c s).2

def Declaration.entry : Entry := ⟨d, d.fate sink s⟩

theorem turn_cases :
    (∃ cause, d.companion = .error cause ∧ d.fate sink s = .skipped cause ∧ d.next sink s = s) ∨
    (∃ c s', d.companion = .ok c ∧ sink.write d.space c s = (.ok (), s') ∧
      d.fate sink s = .generated c ∧ d.next sink s = s') ∨
    ∃ c cause s', d.companion = .ok c ∧ sink.write d.space c s = (.error cause, s') ∧
      d.fate sink s = .failed c cause ∧ d.next sink s = s' := by
  unfold Declaration.fate Declaration.next
  cases d.companion with
  | error cause => exact .inl ⟨cause, rfl, rfl, rfl⟩
  | ok c =>
    cases hw : sink.write d.space c s with
    | mk answer s' =>
      cases answer with
      | ok _ => exact .inr (.inl ⟨c, s', rfl, hw, by simp [hw], by simp [hw]⟩)
      | error cause => exact .inr (.inr ⟨c, cause, s', rfl, hw, by simp [hw], by simp [hw]⟩)

theorem built_fate : (d.fate sink s).built = d.companion := by
  obtain ⟨cause, hd, hf, -⟩ | ⟨c, s', hd, -, hf, -⟩ | ⟨c, cause, s', hd, -, hf, -⟩ :=
    turn_cases sink d s <;> rw [hd, hf] <;> rfl

theorem emit_eq : d.emit sink s = ((d.fate sink s).result, d.next sink s) := by
  obtain ⟨cause, hd, hf, hn⟩ | ⟨c, s', hd, hw, hf, hn⟩ | ⟨c, cause, s', hd, hw, hf, hn⟩ :=
    turn_cases sink d s
  · rw [emit_of_error hd, hf, hn]
    rfl
  · rw [emit_of_ok hd hw, hf, hn]
    rfl
  · rw [emit_of_refused hd hw, hf, hn]
    rfl

theorem turn_recording (calls : List Call) :
    d.fate sink.recording (s, calls) = d.fate sink s ∧
    d.next sink.recording (s, calls) =
      (d.next sink s, calls ++ (d.entry sink s).call?.toList) := by
  have hwrite : ∀ ns c, sink.recording.write ns c (s, calls) =
      ((sink.write ns c s).1, (sink.write ns c s).2,
        calls ++ [⟨ns, c, (sink.write ns c s).1⟩]) := fun _ _ => rfl
  unfold Declaration.entry Entry.call?
  obtain ⟨cause, hd, hf, hn⟩ | ⟨c, s', hd, hw, hf, hn⟩ | ⟨c, cause, s', hd, hw, hf, hn⟩ :=
    turn_cases sink d s
  · simp [Declaration.fate, Declaration.next, hd]
  · simp [Declaration.fate, Declaration.next, hd, hwrite, hw]
  · simp [Declaration.fate, Declaration.next, hd, hwrite, hw]

end Turn

theorem outcome_result (e : Entry) : e.declaration.outcome e.fate.result =
    ⟨⟨e.generated?.toList, e.skipped?.toList, e.failed?.toList⟩, e.diagnostics⟩ := by
  obtain ⟨d, fate⟩ := e
  have hnote : d.opening = (Entry.note? ⟨d, fate⟩).toList := by
    unfold Declaration.opening Entry.note?
    split <;> rfl
  unfold Entry.diagnostics
  rw [← hnote]
  cases fate <;> simp [Declaration.outcome, Fate.result, Entry.generated?, Entry.skipped?,
    Entry.failed?, Entry.error?, Fate.fault?, EmitFault.message, Diagnostic.error,
    Diagnostic.about]

section Round

variable {σ : Type} (sink : Sink σ)

/-- The entries of a round, each made in the state that the turns before it have left. -/
def ledger : List Declaration → σ → List Entry
  | [], _ => []
  | d :: ds, s => d.entry sink s :: ledger ds (d.next sink s)

theorem declarations_ledger (ds : List Declaration) (s : σ) :
    (ledger sink ds s).map Entry.declaration = ds := by
  induction ds generalizing s with
  | nil => rfl
  | cons d ds ih => rw [ledger, List.map_cons, ih, Declaration.entry]

theorem built_ledger (ds : List Declaration) (s : σ) :
    ∀ e ∈ ledger sink ds s, e.fate.built = e.declaration.companion := by
  induction ds generalizing s with
  | nil => simp [ledger]
  | cons d ds ih => exact List.forall_mem_cons.2 ⟨built_fate sink d s, ih _⟩

theorem filterMap_cons_toList {α β : Type} (f : α → Option β) (a : α) (as : List α) :
    (a :: as).filterMap f = (f a).toList ++ as.filterMap f := by
  cases h : f a <;> simp [h]

theorem process_ledger (ds : List Declaration) (s : σ) :
    (process sink ds s).1 = ⟨(ledger sink ds s).filterMap Entry.generated?,
      (ledger sink ds s).filterMap Entry.skipped?, (ledger sink ds s).filterMap Entry.failed?⟩ ∧
    (process sink ds s).2.1 = (ledger sink ds s).flatMap Entry.diagnostics := by
  induction ds generalizing s with
  | nil => exact ⟨rfl, rfl⟩
  | cons d ds ih =>
    obtain ⟨hreport, hdiagnostics⟩ := ih (d.next sink s)
    rw [process_cons (emit_eq sink d s), hreport, hdiagnostics, ledger, Declaration.entry,
      outcome_result ⟨d, d.fate sink s⟩, filterMap_cons_toList, filterMap_cons_toList,
      filterMap_cons_toList]
    exact ⟨rfl, rfl⟩

theorem ledger_recording (ds : List Declaration) (s : σ) (calls : List Call) :
    ledger sink.recording ds (s, calls) = ledger sink ds s ∧
    (process sink.recording ds (s, calls)).2.2 =
      ((process sink ds s).2.2, calls ++ (ledger sink ds s).filterMap Entry.call?) := by
  induction ds generalizing s calls with
  | nil => exact ⟨rfl, by simp [process, ledger]⟩
  | cons d ds ih =>
    obtain ⟨hfate, hnext⟩ := turn_recording sink d s calls
    obtain ⟨hledger, hstate⟩ := ih (d.next sink s) (calls ++ (d.entry sink s).call?.toList)
    rw [process_cons (emit_eq sink.recording d _), process_cons (emit_eq sink d s), ledger, ledger,
      Declaration.entry, hfate, hnext, hledger, hstate, filterMap_cons_toList, List.append_assoc]
    exact ⟨rfl, rfl⟩

theorem process_recording (ds : List Declaration) (s : σ) :
    process sink.recording ds (s, []) = ((process sink ds s).1, (process sink ds s).2.1,
      (process sink ds s).2.2, (ledger sink ds s).filterMap Entry.call?) := by
  obtain ⟨hledger, hstate⟩ := ledger_recording sink ds s []
  obtain ⟨hreport, hdiagnostics⟩ := process_ledger sink.recording ds (s, [])
  obtain ⟨hreport', hdiagnostics'⟩ := process_ledger sink ds s
  rw [hledger, ← hreport'] at hreport
  rw [hledger, ← hdiagnostics'] at hdiagnostics
  refine Prod.ext hreport (Prod.ext hdiagnostics ?_)
  rw [hstate, List.nil_append]

theorem calls_ledger (ds : List Declaration) (s : σ) :
    ((ledger sink ds s).filterMap Entry.call?).map (fun c => (c.space, c.companion)) =
      accepted ds := by
  induction ds generalizing s with
  | nil => rfl
  | cons d ds ih =>
    rw [ledger, filterMap_cons_toList, List.map_append, ih]
    obtain ⟨cause, hd, hf, -⟩ | ⟨c, s', hd, -, hf, -⟩ | ⟨c, cause, s', hd, -, hf, -⟩ :=
      turn_cases sink d s
    · simp [Declaration.entry, Entry.call?, hf, accepted_cons_error hd]
    · simp [Declaration.entry, Entry.call?, hf, accepted_cons_ok hd]
    · simp [Declaration.entry, Entry.call?, hf, accepted_cons_ok hd]

theorem processed_eq_length (ds : List Declaration) (s : σ) :
    (process sink ds s).1.processed = ds.length := by
  induction ds generalizing s with
  | nil => rfl
  | cons d ds ih =>
    have hone : (d.outcome (d.fate sink s).result).report.processed = 1 := by
      cases d.fate sink s <;> rfl
    rw [process_cons (emit_eq sink d s), RoundReport.processed_append, ih, hone,
      List.length_cons, Nat.add_comm]

end Round

/-- What the entries of a round account for: each declaration in order with what came of building
its companion; the calls of the sink, which are those of the accepted companions; the report, in
which each entry stands once; and the diagnostics. -/
structure Accounts {σ : Type} (sink : Sink σ) (ds : List Declaration) (s : σ)
    (entries : List Entry) : Prop where
  declarations : entries.map Entry.declaration = ds
  built : ∀ e ∈ entries, e.fate.built = e.declaration.companion
  recorded : process sink.recording ds (s, []) = ((process sink ds s).1, (process sink ds s).2.1,
    (process sink ds s).2.2, entries.filterMap Entry.call?)
  calls : (entries.filterMap Entry.call?).map (fun c => (c.space, c.companion)) = accepted ds
  generated : (process sink ds s).1.generated = entries.filterMap Entry.generated?
  skipped : (process sink ds s).1.skipped = entries.filterMap Entry.skipped?
  failed : (process sink ds s).1.failed = entries.filterMap Entry.failed?
  processed : (process sink ds s).1.processed = ds.length
  diagnostics : (process sink ds s).2.1 = entries.flatMap Entry.diagnostics
  hasErrors : (process sink ds s).1.hasErrors = true ↔
    ∃ x ∈ (process sink ds s).2.1, x.severity = .error

/-- Every round of every sink is accounted for by its ledger. -/
theorem accounts_ledger {σ : Type} (sink : Sink σ) (ds : List Declaration) (s : σ) :
    Accounts sink ds s (ledger sink ds s) where
  declarations := declarations_ledger sink ds s
  built := built_ledger sink ds s
  recorded := process_recording sink ds s
  calls := calls_ledger sink ds s
  generated := by rw [(process_ledger sink ds s).1]
  skipped := by rw [(process_ledger sink ds s).1]
  failed := by rw [(process_ledger sink ds s).1]
  processed := processed_eq_length sink ds s
  diagnostics := (process_ledger sink ds s).2
  hasErrors := by
    rw [process_hasErrors, List.any_eq_true]
    simp [Diagnostic.isError]

end AccessorGen
