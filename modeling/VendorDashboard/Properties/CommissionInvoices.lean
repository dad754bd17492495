import VendorDashboard.Finance.CommissionInvoiceExecution
import VendorDashboard.Properties.PayoutBooks

/-!
# A commission is invoiced once

The record is read, the provider is asked, and the outcome is written without looking at the record
again.  So a request that is answered with an error of the server counts as failed and is sent
again, and the provider has two invoices (`commissionInvoice_createdTwice`).

`Orderly` is the condition under which all is well: a request is sent only while the record is
still pending or failed and the outcome of every earlier request is recorded; the provider answers
with success or refuses; what may have created an invoice is recorded, and over a status that the
function accepts; and the invoice that the provider shows for a record contradicts none of its
identifiers.

Then at most one request of a record may have created an invoice, and it is the one whose outcome
the record shows (`InvoiceStore.Sound`).  What a step guarantees to the other calls is
`InvoiceStore.Guarantees`.
-/

namespace VendorDashboard.Finance

open Table Transaction Run Interleaving

variable {toLowerCase : String → String}

/-! ## The condition -/

/-- Where the row has an identifier of the invoice, the record has the same one or none. -/
def ProviderIdentifiers.Agrees (row record : ProviderIdentifiers) : Prop :=
  (∀ x ∈ row.providerInvoiceId, ∀ y ∈ record.providerInvoiceId, x = y) ∧
    (∀ x ∈ row.providerUuid, ∀ y ∈ record.providerUuid, x = y) ∧
      ∀ x ∈ row.providerEttn, ∀ y ∈ record.providerEttn, x = y

instance (row record : ProviderIdentifiers) : Decidable (row.Agrees record) :=
  inferInstanceAs (Decidable (_ ∧ _ ∧ _))

/-- The call may have created an invoice. -/
def CreateOutcome.Uncertain : CreateOutcome → Prop
  | .unknown _ | .unrecorded => True
  | _ => False

instance (o : CreateOutcome) : Decidable o.Uncertain :=
  match o with
  | .created _ | .failed .. => inferInstanceAs (Decidable False)
  | .unknown _ | .unrecorded => inferInstanceAs (Decidable True)

/-- The record is in one of these statuses. -/
def InvoiceStore.HasStatus (s : InvoiceStore) (id : Id) (statuses : List InvoiceStatus) : Prop :=
  ∀ r ∈ s.records, r.id = id → r.status ∈ statuses

instance (s : InvoiceStore) (id : Id) (statuses : List InvoiceStatus) :
    Decidable (s.HasStatus id statuses) :=
  inferInstanceAs (Decidable (∀ _ ∈ _, _))

/-- The condition on one step of a call. -/
def InvoiceProcess.Orderly (toLowerCase : String → String) (s : InvoiceStore)
    (answer : InvoiceAnswer) : InvoiceProcess → Prop
  | .execute input (.create _) =>
      s.HasStatus input.settlementCommissionInvoiceId [.pending, .failed] ∧
        ∀ c ∈ s.calls, c.record = input.settlementCommissionInvoiceId → c.recorded ∨ c.Rejected
  | .execute _ .awaitCreate =>
      match answer with
      | .result (.response result) => result.ok ∨ (CreateResult.response result).Rejected
      | _ => True
  | .execute _ (.readForOutcome outcome) =>
      match answer with
      | .failed => ¬outcome.Uncertain
      | _ => True
  | .execute input (.writeOutcome outcome) =>
      match answer with
      | .failed => ¬outcome.Uncertain
      | _ => s.HasStatus input.settlementCommissionInvoiceId outcome.write.allowed
  | .execute _ (.listInvoices record) =>
      match answer with
      | .rows (.ok rows) => ∀ row ∈ rows, invoiceMatchesRecord toLowerCase row record.identifiers →
          (rowIdentifiers row).Agrees record.identifiers
      | _ => True
  | .resolve id write .write =>
      match answer with
      | .failed => True
      | _ => s.HasStatus id write.allowed
  | _ => True

instance (toLowerCase : String → String) (s : InvoiceStore) (answer : InvoiceAnswer)
    (p : InvoiceProcess) :
    Decidable (p.Orderly toLowerCase s answer) := by
  unfold InvoiceProcess.Orderly
  repeat' split
  all_goals infer_instance

/-- The condition on a move. -/
def Orderly (toLowerCase : String → String) (w : InvoiceWorld) :
    Move InvoiceCall InvoiceAnswer InvoiceMove → Prop
  | .run i answer => ∀ p ∈ w.process i, p.Orderly toLowerCase w.shared answer
  | _ => True

instance (toLowerCase : String → String) (w : InvoiceWorld)
    (m : Move InvoiceCall InvoiceAnswer InvoiceMove) :
    Decidable (Orderly toLowerCase w m) :=
  match m with
  | .run i answer =>
      inferInstanceAs (Decidable (∀ p ∈ w.process i, p.Orderly toLowerCase w.shared answer))
  | .start .. | .outside _ => .isTrue trivial

/-! ## The property -/

namespace InvoiceStore

variable (s : InvoiceStore)

/-- At most one invoice of a record exists at the provider. -/
def InvoicedOnce : Prop :=
  ∀ c ∈ s.calls, ∀ c' ∈ s.calls, c.effect = true → c'.effect = true → c.record = c'.record →
    c.run = c'.run

/-- A created record stays so and keeps the identifiers that it has. -/
def KeepsCreated (s s' : InvoiceStore) : Prop :=
  ∀ r ∈ s.records, r.status = .created → ∃ r' ∈ s'.records, r'.id = r.id ∧ r'.status = .created ∧
    (∀ x ∈ r.identifiers.providerInvoiceId, r'.identifiers.providerInvoiceId = some x) ∧
    (∀ x ∈ r.identifiers.providerUuid, r'.identifiers.providerUuid = some x) ∧
    (∀ x ∈ r.identifiers.providerEttn, r'.identifiers.providerEttn = some x) ∧
    ∀ x ∈ r.identifiers.invoiceNo, r'.identifiers.invoiceNo = some x

end InvoiceStore

/-- The call may have created an invoice, as far as is known. -/
def InvoiceCreateCall.MayExist (c : InvoiceCreateCall) : Prop := ¬c.Rejected ∧ c.disproved = false

/-- Once an execution has ended, a record whose invoice may exist is neither pending nor failed. -/
def EndedRecorded (w : InvoiceWorld) : Prop :=
  ∀ i input result, w.process i = some (.execute input (.ended result)) →
    ∀ c ∈ w.shared.calls, c.run = i → c.MayExist →
      ∀ r ∈ w.shared.records, r.id = c.record → r.status ≠ .pending ∧ r.status ≠ .failed

/-! ## The invariant -/

namespace InvoiceStore

variable {s s' : InvoiceStore} {i j : ℕ} {id : Id}

def HasRecord (s : InvoiceStore) (id : Id) (P : CommissionInvoiceRecord → Prop) : Prop :=
  ∃ r ∈ s.records, r.id = id ∧ P r

def HasCall (s : InvoiceStore) (i : ℕ) (id : Id) (P : InvoiceCreateCall → Prop) : Prop :=
  ∃ c ∈ s.calls, c.run = i ∧ c.record = id ∧ P c

def NoCall (s : InvoiceStore) (i : ℕ) : Prop := ∀ c ∈ s.calls, c.run ≠ i

structure Sound (s : InvoiceStore) : Prop where
  record_key : KeyUnique CommissionInvoiceRecord.id s.records
  run_key : KeyUnique InvoiceCreateCall.run s.calls
  known : ∀ c ∈ s.calls, s.HasRecord c.record fun _ => True
  notCancelled : ∀ r ∈ s.records, r.status ≠ .cancelled
  effect : ∀ c ∈ s.calls, c.effect = true → c.MayExist
  /-- Two requests of a record that may have created an invoice are one. -/
  one : ∀ c ∈ s.calls, ∀ c' ∈ s.calls, c.MayExist → c'.MayExist → c.record = c'.record →
    c.run = c'.run
  recorded : ∀ c ∈ s.calls, c.recorded = true → c.MayExist → s.HasStatus c.record [.created, .unknown]
  explained : ∀ r ∈ s.records, r.status = .created ∨ r.status = .unknown →
    ∃ c ∈ s.calls, c.record = r.id ∧ c.recorded = true ∧ c.MayExist
  disproved : ∀ c ∈ s.calls, c.disproved = true → c.recorded = true ∨ c.Rejected
  unanswered : ∀ c ∈ s.calls, c.result = none → c.recorded = false

/-- A request whose outcome is still open finds its record pending or failed. -/
lemma Sound.open_status (h : s.Sound) {c : InvoiceCreateCall} (hc : c ∈ s.calls)
    (hopen : c.recorded = false) (hnot : ¬c.Rejected) : s.HasStatus c.record [.pending, .failed] := by
  intro r hr hid
  have hmay : c.MayExist := by
    refine ⟨hnot, ?_⟩
    by_contra hd
    rcases h.disproved c hc (by simpa using hd) with hrec | hrej
    · rw [hopen] at hrec
      cases hrec
    · exact hnot hrej
  have hcancelled := h.notCancelled r hr
  have hexplained : ¬(r.status = .created ∨ r.status = .unknown) := by
    intro hstatus
    obtain ⟨c', hc', hrecord, hrecorded, hmay'⟩ := h.explained r hr hstatus
    have hrun := h.one c hc c' hc' hmay hmay' (hid.symm.trans hrecord.symm)
    obtain rfl := h.run_key.eq hc hc' hrun
    rw [hopen] at hrecorded
    cases hrecorded
  cases hs : r.status <;> simp_all

end InvoiceStore

/-- The outcome says what the answer was. -/
def CreateOutcome.Explains (o : CreateOutcome) (c : InvoiceCreateCall) : Prop :=
  match o with
  | .created identifiers => ¬c.Rejected ∧ ∀ x ∈ identifiers.invoiceNo, Json.readText x = some x
  | .failed .. => c.Rejected
  | _ => ¬c.Rejected

/-- The call is the one that created the record, and reconciles it. -/
def InvoiceStore.Reconciles (s : InvoiceStore) (i : ℕ) (id : Id)
    (P : CommissionInvoiceRecord → Prop) : Prop :=
  s.HasCall i id (fun c => c.recorded = true ∧ c.MayExist) ∧
    s.HasRecord id fun r => r.status = .created ∧
      (∀ x ∈ r.identifiers.invoiceNo, Json.readText x = some x) ∧ P r

def ExecutePosition.Sound (i : ℕ) (id : Id) (s : InvoiceStore) : ExecutePosition → Prop
  | .readRecord => s.NoCall i
  | .findActive _ | .login _ | .readForRetry _ | .incrementRetry _ | .create _ =>
      s.NoCall i ∧ s.HasRecord id fun _ => True
  | .awaitCreate => s.HasCall i id fun c => c.recorded = false ∧ c.result = none
  | .readForOutcome outcome =>
      (s.HasCall i id fun c => c.recorded = false ∧ c.result ≠ none ∧ outcome.Explains c) ∨
        -- the record was marked created and the answer was lost
        outcome = .unrecorded ∧ s.Reconciles i id fun _ => True
  | .writeOutcome outcome =>
      s.HasCall i id fun c => c.recorded = false ∧ c.result ≠ none ∧ outcome.Explains c
  | .readForPreview => s.Reconciles i id fun _ => True
  | .listInvoices record => s.Reconciles i id fun r => r.identifiers = record.identifiers
  | .readForReconciliation input => s.Reconciles i id fun r => input.identifiers.Agrees r.identifiers
  | .writeReconciliation input existing => s.Reconciles i id fun r =>
      input.identifiers.Agrees r.identifiers ∧ r.identifiers = existing.identifiers
  | .ended _ => ∀ c ∈ s.calls, c.run = i → c.recorded = true ∨ c.Rejected

/-- A resolution of an unknown record. -/
def RecordWrite.Resolves : RecordWrite → Prop
  | .resolveUnknownAsCreated .. | .resolveUnknownAsFailed .. => True
  | _ => False

def InvoiceProcess.Sound (i : ℕ) (s : InvoiceStore) : InvoiceProcess → Prop
  | .execute input position => position.Sound i input.settlementCommissionInvoiceId s
  | .resolve _ write _ => write.Resolves ∧ s.NoCall i
  | .createPending _ _ => s.NoCall i

/-! ## What a step writes -/

/-- What the conditions of a run say of one step of a call. -/
structure InvoiceProcess.Allowed (toLowerCase : String → String) (i : ℕ) (answer : InvoiceAnswer)
    (s : InvoiceStore) (p : InvoiceProcess) : Prop where
  orderly : p.Orderly toLowerCase s answer
  behaves : ∀ result, answer = .result result → result.Rejected →
    ∀ c ∈ s.calls, c.run = i → c.effect = false
  truthful : ∀ id failureCode failureMessage reconciledBy,
    p = .resolve id (.resolveUnknownAsFailed failureCode failureMessage reconciledBy) .write →
      ∀ c ∈ s.calls, c.record = id → c.effect = false

/-- The answer is a success, a refusal or none. -/
def CreateResult.Definite : CreateResult → Prop
  | .response result => result.ok ∨ (CreateResult.response result).Rejected
  | .thrown => True

/-- What a step of a call writes; what is known of the writes of an allowed step stands after
`ok`. -/
inductive InvoiceProcess.Writes (ok : Prop) (i : ℕ) (s : InvoiceStore) :
    InvoiceProcess → InvoiceStore → Prop
  | nothing {p : InvoiceProcess} : Writes ok i s p s
  | retried {input : ExecuteInput} {record : CommissionInvoiceRecord} (now : Instant) :
      Writes ok i s (.execute input (.incrementRetry record))
        (s.write input.settlementCommissionInvoiceId .incrementRetry now)
  | called {input : ExecuteInput} {record : CommissionInvoiceRecord}
      (h : ok → s.HasStatus input.settlementCommissionInvoiceId [.pending, .failed] ∧
        ∀ c ∈ s.calls, c.record = input.settlementCommissionInvoiceId → c.recorded ∨ c.Rejected) :
      Writes ok i s (.execute input (.create record)) (s.call i input.settlementCommissionInvoiceId)
  | answered {input : ExecuteInput} {result : CreateResult}
      (h : ok → result.Definite ∧
        (result.Rejected → ∀ c ∈ s.calls, c.run = i → c.effect = false)) :
      Writes ok i s (.execute input .awaitCreate) (s.answered i result)
  | recorded {input : ExecuteInput} {outcome : CreateOutcome} (now : Instant)
      (h : ok → s.HasStatus input.settlementCommissionInvoiceId outcome.write.allowed) :
      Writes ok i s (.execute input (.writeOutcome outcome))
        (s.writeOutcome i input.settlementCommissionInvoiceId outcome now)
  | reconciled {input : ExecuteInput} {reconciliation : InvoiceReconciliation}
      {existing : CommissionInvoiceRecord} (now : Instant) :
      Writes ok i s (.execute input (.writeReconciliation reconciliation existing))
        (s.updateRecord input.settlementCommissionInvoiceId (reconciliation.apply existing now))
  | resolved {id : Id} {write : RecordWrite} (now : Instant)
      (h : ok → s.HasStatus id write.allowed ∧
        ∀ failureCode failureMessage reconciledBy,
          write = .resolveUnknownAsFailed failureCode failureMessage reconciledBy →
            ∀ c ∈ s.calls, c.record = id → c.effect = false) :
      Writes ok i s (.resolve id write .write) (s.resolve id write now)
  | inserted {settlementApprovalId : Id} {vendorId : String} {snapshot : Json} {id : Id}
      {now : Instant} {s' : InvoiceStore}
      (h : s.insertRecord (pendingRecord id settlementApprovalId vendorId snapshot now) = some s') :
      Writes ok i s (.createPending settlementApprovalId (.insert vendorId snapshot)) s'

namespace InvoiceProcess

variable {ok : Prop} {i : ℕ} {answer : InvoiceAnswer} {s s' : InvoiceStore}
  {p p' : InvoiceProcess}

lemma execute_writes {input : ExecuteInput} {position position' : ExecutePosition}
    (hok : ok → Allowed toLowerCase i answer s (.execute input position))
    (h : position.run toLowerCase input i answer s = some (s', position')) :
    Writes ok i s (.execute input position) s' := by
  unfold ExecutePosition.run at h
  split at h
  all_goals simp only [Option.some.injEq, Prod.mk.injEq, reduceCtorEq] at h
  all_goals rw [← h.1]
  case h_5 now => exact .retried now
  case h_6 now => exact .retried now
  case h_7 => exact .called fun hk => (hok hk).orderly
  case h_8 result =>
    refine .answered fun hk => ⟨?_, (hok hk).behaves result rfl⟩
    cases result with
    | response result => exact (hok hk).orderly
    | thrown => trivial
  case h_11 now => exact .recorded now fun hk => (hok hk).orderly
  case h_12 now => exact .recorded now fun hk => (hok hk).orderly
  case h_20 now => exact .reconciled now
  case h_21 now => exact .reconciled now
  all_goals exact .nothing

lemma resolve_writes {id : Id} {write : RecordWrite} {position position' : ResolvePosition}
    (hok : ok → Allowed toLowerCase i answer s (.resolve id write position))
    (h : position.run id write answer s = some (s', position')) :
    Writes ok i s (.resolve id write position) s' := by
  unfold ResolvePosition.run at h
  split at h
  all_goals simp only [Option.some.injEq, Prod.mk.injEq, reduceCtorEq] at h
  all_goals rw [← h.1]
  case h_2 now =>
    refine .resolved now fun hk => ⟨(hok hk).orderly, fun _ _ _ hwrite => ?_⟩
    exact (hok hk).truthful _ _ _ _ (by rw [hwrite])
  case h_3 now =>
    refine .resolved now fun hk => ⟨(hok hk).orderly, fun _ _ _ hwrite => ?_⟩
    exact (hok hk).truthful _ _ _ _ (by rw [hwrite])
  all_goals exact .nothing

lemma createPending_writes {settlementApprovalId : Id} {position position' : PendingPosition}
    (h : position.run settlementApprovalId answer s = some (s', position')) :
    Writes ok i s (.createPending settlementApprovalId position) s' := by
  unfold PendingPosition.run at h
  split at h
  case h_3 vendorId snapshot id now =>
    split at h
    · rename_i hinsert
      simp only [Option.some.injEq, Prod.mk.injEq] at h
      rw [← h.1]
      exact .inserted hinsert
    · simp only [Option.some.injEq, Prod.mk.injEq] at h
      rw [← h.1]
      exact .nothing
  all_goals simp only [Option.some.injEq, Prod.mk.injEq, reduceCtorEq] at h
  all_goals rw [← h.1]
  all_goals exact .nothing

/-- **What a step of a call writes.** -/
theorem run_writes (hok : ok → p.Allowed toLowerCase i answer s)
    (h : p.run toLowerCase i answer s = some (s', p')) :
    Writes ok i s p s' := by
  cases p with
  | execute input position =>
      obtain ⟨⟨s₁, q⟩, hrun, heq⟩ := Option.map_eq_some_iff.mp h
      obtain ⟨rfl, -⟩ := Prod.mk.inj heq
      exact execute_writes hok hrun
  | resolve id write position =>
      obtain ⟨⟨s₁, q⟩, hrun, heq⟩ := Option.map_eq_some_iff.mp h
      obtain ⟨rfl, -⟩ := Prod.mk.inj heq
      exact resolve_writes hok hrun
  | createPending settlementApprovalId position =>
      obtain ⟨⟨s₁, q⟩, hrun, heq⟩ := Option.map_eq_some_iff.mp h
      obtain ⟨rfl, -⟩ := Prod.mk.inj heq
      exact createPending_writes hrun

end InvoiceProcess

/-! ## The store -/

namespace InvoiceStore

variable {s s' : InvoiceStore} {i : ℕ} {id : Id}

lemma mem_updateRecord {f : CommissionInvoiceRecord → CommissionInvoiceRecord}
    {r' : CommissionInvoiceRecord} :
    r' ∈ (s.updateRecord id f).records ↔
      ∃ r ∈ s.records, (r.id = id ∧ r' = f r) ∨ (r.id ≠ id ∧ r' = r) := by
  unfold updateRecord
  rw [mem_updateWhere]
  refine exists_congr fun r => and_congr_right fun _ => ?_
  by_cases hid : r.id = id
  · simp only [hid, decide_true, if_true, true_and, ne_eq, not_true, false_and, or_false, eq_comm]
  · simp only [hid, decide_false, Bool.false_eq_true, if_false, false_and, ne_eq, not_false_eq_true,
      true_and, false_or, eq_comm]

lemma mem_updateCalls {q : InvoiceCreateCall → Bool} {f : InvoiceCreateCall → InvoiceCreateCall}
    {c' : InvoiceCreateCall} :
    c' ∈ (s.updateCalls q f).calls ↔
      ∃ c ∈ s.calls, (q c = true ∧ c' = f c) ∨ (q c = false ∧ c' = c) := by
  unfold updateCalls
  rw [mem_updateWhere]
  refine exists_congr fun c => and_congr_right fun _ => ?_
  cases q c with
  | true =>
      simp only [if_true, true_and, Bool.true_eq_false, false_and, or_false]
      exact eq_comm
  | false =>
      simp only [Bool.false_eq_true, if_false, false_and, true_and, false_or]
      exact eq_comm

lemma HasRecord.updateRecord {k : Id} {P Q : CommissionInvoiceRecord → Prop}
    {f : CommissionInvoiceRecord → CommissionInvoiceRecord} (hf : ∀ r, (f r).id = r.id)
    (h : s.HasRecord k P) (hsame : ∀ r ∈ s.records, r.id = k → k = id → P r → Q (f r))
    (hother : ∀ r, k ≠ id → P r → Q r) : (s.updateRecord id f).HasRecord k Q := by
  obtain ⟨r, hr, hrk, hP⟩ := h
  by_cases hid : r.id = id
  · exact ⟨f r, mem_updateRecord.mpr ⟨r, hr, .inl ⟨hid, rfl⟩⟩, (hf r).trans hrk,
      hsame r hr hrk (hrk.symm.trans hid) hP⟩
  · exact ⟨r, mem_updateRecord.mpr ⟨r, hr, .inr ⟨hid, rfl⟩⟩, hrk,
      hother r (fun heq => hid (hrk.trans heq)) hP⟩

lemma HasStatus.updateRecord_other {k : Id} {l : List InvoiceStatus}
    {f : CommissionInvoiceRecord → CommissionInvoiceRecord} (hf : ∀ r, (f r).id = r.id)
    (h : s.HasStatus k l) (hne : k ≠ id) : (s.updateRecord id f).HasStatus k l := by
  intro r' hr' hk
  obtain ⟨r, hr, ⟨hid, rfl⟩ | ⟨-, rfl⟩⟩ := mem_updateRecord.mp hr'
  · exact absurd (hk.symm.trans ((hf r).trans hid)) hne
  · exact h r' hr hk

lemma hasStatus_updateRecord {l : List InvoiceStatus}
    {f : CommissionInvoiceRecord → CommissionInvoiceRecord}
    (h : ∀ r ∈ s.records, r.id = id → (f r).status ∈ l) : (s.updateRecord id f).HasStatus id l := by
  intro r' hr' hk
  obtain ⟨r, hr, ⟨hid, rfl⟩ | ⟨hid, rfl⟩⟩ := mem_updateRecord.mp hr'
  · exact h r hr hid
  · exact absurd hk hid

/-- Two lists of statuses without a common one exclude each other on a record that exists. -/
lemma HasStatus.absurd {l l' : List InvoiceStatus} {P : CommissionInvoiceRecord → Prop}
    (h : s.HasStatus id l) (h' : s.HasStatus id l') (hrecord : s.HasRecord id P)
    (hdisjoint : ∀ status ∈ l, status ∉ l') : False := by
  obtain ⟨r, hr, hid, -⟩ := hrecord
  exact hdisjoint _ (h r hr hid) (h' r hr hid)

lemma updateRecord_key {f : CommissionInvoiceRecord → CommissionInvoiceRecord}
    (hf : ∀ r, (f r).id = r.id) (h : KeyUnique CommissionInvoiceRecord.id s.records) :
    KeyUnique CommissionInvoiceRecord.id (s.updateRecord id f).records :=
  h.updateWhere hf

lemma updateCalls_key {q : InvoiceCreateCall → Bool} {f : InvoiceCreateCall → InvoiceCreateCall}
    (hf : ∀ c, (f c).run = c.run) (h : KeyUnique InvoiceCreateCall.run s.calls) :
    KeyUnique InvoiceCreateCall.run (s.updateCalls q f).calls :=
  h.updateWhere hf

/-- The call of run `i` is the only one. -/
lemma Sound.call_eq {P : InvoiceCreateCall → Prop} (h : s.Sound) (hcall : s.HasCall i id P)
    {c : InvoiceCreateCall} (hc : c ∈ s.calls) (hrun : c.run = i) : c.record = id ∧ P c := by
  obtain ⟨c', hc', hrun', hrecord, hP⟩ := hcall
  obtain rfl := h.run_key.eq hc hc' (hrun.trans hrun'.symm)
  exact ⟨hrecord, hP⟩

/-- One request of a record stays the only one when no other may have created an invoice. -/
lemma Sound.one_of_mayExist {calls : List InvoiceCreateCall} (h : s.Sound)
    (hmay : ∀ c' ∈ calls, c'.MayExist → ∃ c ∈ s.calls, c.run = c'.run ∧ c.record = c'.record ∧
      c.MayExist) :
    ∀ c ∈ calls, ∀ c' ∈ calls, c.MayExist → c'.MayExist → c.record = c'.record → c.run = c'.run := by
  intro c₁ hc₁ c₂ hc₂ hm₁ hm₂ heq
  obtain ⟨d₁, hd₁, hrun₁, hrecord₁, hmay₁⟩ := hmay c₁ hc₁ hm₁
  obtain ⟨d₂, hd₂, hrun₂, hrecord₂, hmay₂⟩ := hmay c₂ hc₂ hm₂
  have hone := h.one d₁ hd₁ d₂ hd₂ hmay₁ hmay₂ (hrecord₁.trans (heq.trans hrecord₂.symm))
  exact hrun₁.symm.trans (hone.trans hrun₂)

lemma Sound.congr (h : s.Sound) (hrecords : s'.records = s.records) (hcalls : s'.calls = s.calls) :
    s'.Sound := by
  obtain ⟨finance, records, calls⟩ := s
  obtain ⟨finance', records', calls'⟩ := s'
  obtain rfl : records' = records := hrecords
  obtain rfl : calls' = calls := hcalls
  exact ⟨h.record_key, h.run_key, h.known, h.notCancelled, h.effect, h.one, h.recorded, h.explained,
    h.disproved, h.unanswered⟩

/-- An update that keeps the status. -/
lemma Sound.updateRecord {f : CommissionInvoiceRecord → CommissionInvoiceRecord} (h : s.Sound)
    (hf : ∀ r, (f r).id = r.id) (hstatus : ∀ r, (f r).status = r.status) :
    (s.updateRecord id f).Sound where
  record_key := updateRecord_key hf h.record_key
  run_key := h.run_key
  known := fun c hc => (h.known c hc).updateRecord hf (fun _ _ _ _ _ => trivial) fun _ _ _ => trivial
  notCancelled := by
    intro r' hr'
    obtain ⟨r, hr, ⟨-, rfl⟩ | ⟨-, rfl⟩⟩ := mem_updateRecord.mp hr'
    · rw [hstatus]
      exact h.notCancelled r hr
    · exact h.notCancelled _ hr
  effect := h.effect
  one := h.one
  recorded := by
    intro c hc hrec hmay
    have hbefore := h.recorded c hc hrec hmay
    intro r' hr' hk
    obtain ⟨r, hr, ⟨-, rfl⟩ | ⟨-, rfl⟩⟩ := mem_updateRecord.mp hr'
    · rw [hstatus]
      exact hbefore r hr ((hf r).symm.trans hk)
    · exact hbefore _ hr hk
  explained := by
    intro r' hr' hs
    obtain ⟨r, hr, ⟨-, rfl⟩ | ⟨-, rfl⟩⟩ := mem_updateRecord.mp hr'
    · rw [hstatus] at hs
      rw [hf]
      exact h.explained r hr hs
    · exact h.explained _ hr hs
  disproved := h.disproved
  unanswered := h.unanswered

/-- A request is sent. -/
lemma Sound.call (h : s.Sound) (hno : s.NoCall i) (hrecord : s.HasRecord id fun _ => True)
    (hstatus : s.HasStatus id [.pending, .failed])
    (hsettled : ∀ c ∈ s.calls, c.record = id → c.recorded ∨ c.Rejected) : (s.call i id).Sound := by
  -- no earlier request of the record may have created an invoice
  have hnone : ∀ c ∈ s.calls, c.record = id → ¬c.MayExist := by
    intro c hc hid hmay
    rcases hsettled c hc hid with hrec | hrej
    · have hbefore := h.recorded c hc hrec hmay
      rw [hid] at hbefore
      exact hbefore.absurd hstatus hrecord (by decide)
    · exact hmay.1 hrej
  have hmem : ∀ c ∈ (s.call i id).calls, c ∈ s.calls ∨ c = ⟨i, id, none, false, false, false⟩ := by
    intro c hc
    simpa [InvoiceStore.call] using hc
  refine
    { record_key := h.record_key
      run_key := ?_
      known := ?_
      notCancelled := h.notCancelled
      effect := ?_
      one := ?_
      recorded := ?_
      explained := ?_
      disproved := ?_
      unanswered := ?_ }
  · refine keyUnique_append.mpr ⟨h.run_key, by simp [KeyUnique], fun c hc c' hc' => ?_⟩
    obtain rfl := List.mem_singleton.mp hc'
    exact hno c hc
  · intro c hc
    rcases hmem c hc with hc | rfl
    · exact h.known c hc
    · exact hrecord
  · intro c hc he
    rcases hmem c hc with hc | rfl
    · exact h.effect c hc he
    · cases he
  · intro c hc c' hc' hmay hmay' heq
    rcases hmem c hc with hc | rfl <;> rcases hmem c' hc' with hc' | rfl
    · exact h.one c hc c' hc' hmay hmay' heq
    · exact absurd hmay (hnone c hc heq)
    · exact absurd hmay' (hnone c' hc' heq.symm)
    · rfl
  · intro c hc hrec hmay
    rcases hmem c hc with hc | rfl
    · exact h.recorded c hc hrec hmay
    · cases hrec
  · intro r hr hs
    obtain ⟨c, hc, hrest⟩ := h.explained r hr hs
    exact ⟨c, List.mem_append_left _ hc, hrest⟩
  · intro c hc hd
    rcases hmem c hc with hc | rfl
    · exact h.disproved c hc hd
    · cases hd
  · intro c hc hresult
    rcases hmem c hc with hc | rfl
    · exact h.unanswered c hc hresult
    · rfl

/-- A request is answered. -/
lemma Sound.answered {result : CreateResult} (h : s.Sound)
    (hcall : s.HasCall i id fun c => c.recorded = false ∧ c.result = none)
    (hbehaves : result.Rejected → ∀ c ∈ s.calls, c.run = i → c.effect = false) :
    (s.answered i result).Sound := by
  have hmem : ∀ c' ∈ (s.answered i result).calls, ∃ c ∈ s.calls,
      (c.run = i ∧ c' = { c with result := some result }) ∨ (c.run ≠ i ∧ c' = c) := by
    intro c' hc'
    obtain ⟨c, hc, ⟨hrun, rfl⟩ | ⟨hrun, rfl⟩⟩ := mem_updateCalls.mp hc'
    · exact ⟨c, hc, .inl ⟨of_decide_eq_true hrun, rfl⟩⟩
    · exact ⟨c', hc, .inr ⟨of_decide_eq_false hrun, rfl⟩⟩
  -- a request may have created an invoice as long as it is not answered
  have hbefore : ∀ c ∈ s.calls, c.run = i → c.recorded = false ∧ c.MayExist := by
    intro c hc hrun
    obtain ⟨-, hrecorded, hresult⟩ := h.call_eq hcall hc hrun
    have hrejected : ¬c.Rejected := by
      rintro ⟨r, hr, -⟩
      rw [hresult] at hr
      cases hr
    refine ⟨hrecorded, hrejected, ?_⟩
    by_contra hd
    rcases h.disproved c hc (by simpa using hd) with hrec | hrej
    · rw [hrecorded] at hrec
      cases hrec
    · exact hrejected hrej
  refine
    { record_key := h.record_key
      run_key := updateCalls_key (fun _ => rfl) h.run_key
      known := ?_
      notCancelled := h.notCancelled
      effect := ?_
      one := ?_
      recorded := ?_
      explained := ?_
      disproved := ?_
      unanswered := ?_ }
  · intro c' hc'
    obtain ⟨c, hc, ⟨-, rfl⟩ | ⟨-, rfl⟩⟩ := hmem c' hc'
    · exact h.known c hc
    · exact h.known _ hc
  · intro c' hc' he
    obtain ⟨c, hc, ⟨hrun, rfl⟩ | ⟨-, rfl⟩⟩ := hmem c' hc'
    · refine ⟨?_, (hbefore c hc hrun).2.2⟩
      rintro ⟨r, hr, hrejected⟩
      obtain rfl := Option.some.inj hr
      have hno := hbehaves hrejected c hc hrun
      rw [show c.effect = true from he] at hno
      cases hno
    · exact h.effect _ hc he
  · have hmay : ∀ c' ∈ (s.answered i result).calls, c'.MayExist → ∃ c ∈ s.calls,
        c.run = c'.run ∧ c.record = c'.record ∧ c.MayExist := by
      intro c' hc' hm
      obtain ⟨c, hc, ⟨hrun, rfl⟩ | ⟨-, rfl⟩⟩ := hmem c' hc'
      · exact ⟨c, hc, rfl, rfl, (hbefore c hc hrun).2⟩
      · exact ⟨_, hc, rfl, rfl, hm⟩
    exact h.one_of_mayExist hmay
  · intro c' hc' hrec hm
    obtain ⟨c, hc, ⟨hrun, rfl⟩ | ⟨-, rfl⟩⟩ := hmem c' hc'
    · have hno := (hbefore c hc hrun).1
      rw [show c.recorded = true from hrec] at hno
      cases hno
    · exact h.recorded _ hc hrec hm
  · intro r hr hs
    obtain ⟨c, hc, hrecord, hrec, hm⟩ := h.explained r hr hs
    refine ⟨c, mem_updateCalls.mpr ⟨c, hc, .inr ⟨?_, rfl⟩⟩, hrecord, hrec, hm⟩
    by_contra hrun
    have hno := (hbefore c hc (by simpa using hrun)).1
    rw [hrec] at hno
    cases hno
  · intro c' hc' hd
    obtain ⟨c, hc, ⟨hrun, rfl⟩ | ⟨-, rfl⟩⟩ := hmem c' hc'
    · have hno := (hbefore c hc hrun).2.2
      rw [show c.disproved = true from hd] at hno
      cases hno
    · exact h.disproved _ hc hd
  · intro c' hc' hresult
    obtain ⟨c, hc, ⟨-, rfl⟩ | ⟨-, rfl⟩⟩ := hmem c' hc'
    · cases hresult
    · exact h.unanswered _ hc hresult

/-- What recording an outcome leaves as the status. -/
lemma outcome_status (outcome : CreateOutcome) (now : Instant) (r : CommissionInvoiceRecord) :
    (outcome.write.apply now r).status ≠ .cancelled ∧
      ((∃ failureCode failureMessage, outcome = .failed failureCode failureMessage) ∨
        (outcome.write.apply now r).status ∈ [InvoiceStatus.created, .unknown]) := by
  cases outcome with
  | failed failureCode failureMessage =>
      exact ⟨by simp [CreateOutcome.write, RecordWrite.apply], .inl ⟨_, _, rfl⟩⟩
  | created identifiers => exact ⟨by simp [CreateOutcome.write, RecordWrite.apply], .inr (by simp [CreateOutcome.write, RecordWrite.apply])⟩
  | unknown reason => exact ⟨by simp [CreateOutcome.write, RecordWrite.apply], .inr (by simp [CreateOutcome.write, RecordWrite.apply])⟩
  | unrecorded => exact ⟨by simp [CreateOutcome.write, RecordWrite.apply], .inr (by simp [CreateOutcome.write, RecordWrite.apply])⟩

lemma outcome_allowed (outcome : CreateOutcome) : outcome.write.allowed = [.pending, .failed] := by
  cases outcome <;> rfl

/-- An outcome is recorded. -/
lemma Sound.writeOutcome {outcome : CreateOutcome} (now : Instant) (h : s.Sound)
    (hcall : s.HasCall i id fun c => c.recorded = false ∧ c.result ≠ none ∧ outcome.Explains c)
    (hstatus : s.HasStatus id outcome.write.allowed) : (s.writeOutcome i id outcome now).Sound := by
  rw [outcome_allowed] at hstatus
  have hf : ∀ r, (outcome.write.apply now r).id = r.id := outcome.write.apply_id now
  have hrecord : s.HasRecord id fun _ => True := by
    obtain ⟨c, hc, -, hid, -⟩ := hcall
    exact hid ▸ h.known c hc
  have hmem : ∀ c' ∈ (s.writeOutcome i id outcome now).calls, ∃ c ∈ s.calls,
      (c.run = i ∧ c' = { c with recorded := true }) ∨ (c.run ≠ i ∧ c' = c) := by
    intro c' hc'
    obtain ⟨c, hc, ⟨hrun, rfl⟩ | ⟨hrun, rfl⟩⟩ := mem_updateCalls.mp hc'
    · exact ⟨c, hc, .inl ⟨of_decide_eq_true hrun, rfl⟩⟩
    · exact ⟨c', hc, .inr ⟨of_decide_eq_false hrun, rfl⟩⟩
  -- the recorded requests of the record did not create an invoice
  have hothers : ∀ c ∈ s.calls, c.recorded = true → c.MayExist → c.record ≠ id := by
    rintro c hc hrec hm rfl
    exact (h.recorded c hc hrec hm).absurd hstatus hrecord (by decide)
  refine
    { record_key := updateRecord_key hf h.record_key
      run_key := updateCalls_key (fun _ => rfl) h.run_key
      known := ?_
      notCancelled := ?_
      effect := ?_
      one := ?_
      recorded := ?_
      explained := ?_
      disproved := ?_
      unanswered := ?_ }
  · intro c' hc'
    obtain ⟨c, hc, ⟨-, rfl⟩ | ⟨-, rfl⟩⟩ := hmem c' hc'
    all_goals
      exact (h.known _ hc).updateRecord hf (fun _ _ _ _ _ => trivial) fun _ _ _ => trivial
  · intro r' hr'
    obtain ⟨r, hr, ⟨-, rfl⟩ | ⟨-, rfl⟩⟩ := mem_updateRecord.mp hr'
    · exact (outcome_status _ _ _).1
    · exact h.notCancelled _ hr
  · intro c' hc' he
    obtain ⟨c, hc, ⟨-, rfl⟩ | ⟨-, rfl⟩⟩ := hmem c' hc'
    · exact h.effect c hc he
    · exact h.effect c' hc he
  · have hmay : ∀ c' ∈ (s.writeOutcome i id outcome now).calls, c'.MayExist → ∃ c ∈ s.calls,
        c.run = c'.run ∧ c.record = c'.record ∧ c.MayExist := by
      intro c' hc' hm
      obtain ⟨c, hc, ⟨-, rfl⟩ | ⟨-, rfl⟩⟩ := hmem c' hc'
      · exact ⟨c, hc, rfl, rfl, hm⟩
      · exact ⟨c', hc, rfl, rfl, hm⟩
    exact h.one_of_mayExist hmay
  · intro c' hc' hrec hm
    obtain ⟨c, hc, ⟨hrun, rfl⟩ | ⟨-, rfl⟩⟩ := hmem c' hc'
    · obtain ⟨hid, -, -, hexplains⟩ := h.call_eq hcall hc hrun
      rw [show c.record = id from hid]
      refine hasStatus_updateRecord fun r _ _ => ?_
      rcases (outcome_status outcome now r).2 with
        ⟨failureCode, failureMessage, rfl⟩ | hnew
      · exact absurd hexplains hm.1
      · exact hnew
    · exact (h.recorded _ hc hrec hm).updateRecord_other hf (hothers _ hc hrec hm)
  · intro r' hr' hs
    obtain ⟨r, hr, ⟨hid, rfl⟩ | ⟨hid, rfl⟩⟩ := mem_updateRecord.mp hr'
    · obtain ⟨c, hc, hrun, hcid, hopen, -, hexplains⟩ := hcall
      refine ⟨{ c with recorded := true }, mem_updateCalls.mpr ⟨c, hc, .inl ⟨by simpa using hrun, rfl⟩⟩,
        hcid.trans ((hf r).trans hid).symm, rfl, ?_⟩
      have hrejected : ¬c.Rejected := by
        cases outcome with
        | failed failureCode failureMessage => rcases hs with hs | hs <;> cases hs
        | created identifiers => exact hexplains.1
        | unknown reason => exact hexplains
        | unrecorded => exact hexplains
      refine ⟨hrejected, ?_⟩
      by_contra hd
      rcases h.disproved c hc (by simpa using hd) with hrec | hrej
      · rw [hopen] at hrec
        cases hrec
      · exact hrejected hrej
    · obtain ⟨c, hc, hcid, hrec, hm⟩ := h.explained r' hr hs
      refine ⟨c, mem_updateCalls.mpr ⟨c, hc, .inr ⟨?_, rfl⟩⟩, hcid, hrec, hm⟩
      by_contra hrun
      have hsame := (h.call_eq hcall hc (by simpa using hrun)).1
      exact hid (hcid.symm.trans hsame)
  · intro c' hc' hd
    obtain ⟨c, hc, ⟨-, rfl⟩ | ⟨-, rfl⟩⟩ := hmem c' hc'
    · exact .inl rfl
    · exact h.disproved c' hc hd
  · intro c' hc' hresult
    obtain ⟨c, hc, ⟨hrun, rfl⟩ | ⟨-, rfl⟩⟩ := hmem c' hc'
    · exact absurd hresult (h.call_eq hcall hc hrun).2.2.1
    · exact h.unanswered c' hc hresult

/-- An unknown record is resolved as created. -/
lemma Sound.resolveCreated {identifiers : ProviderIdentifiers} {reconciledBy : Option String}
    (now : Instant) (h : s.Sound) (hstatus : s.HasStatus id [.unknown]) :
    (s.write id (.resolveUnknownAsCreated identifiers reconciledBy) now).Sound := by
  have hf : ∀ r, ((RecordWrite.resolveUnknownAsCreated identifiers reconciledBy).apply now r).id =
      r.id := fun _ => rfl
  refine
    { h with
      record_key := updateRecord_key hf h.record_key
      known := ?_
      notCancelled := ?_
      recorded := ?_
      explained := ?_ }
  · intro c hc
    exact (h.known c hc).updateRecord hf (fun _ _ _ _ _ => trivial) fun _ _ _ => trivial
  · intro r' hr'
    obtain ⟨r, hr, ⟨-, rfl⟩ | ⟨-, rfl⟩⟩ := mem_updateRecord.mp hr'
    · exact fun hs => by cases hs
    · exact h.notCancelled _ hr
  · intro c hc hrec hm
    by_cases hid : c.record = id
    · rw [hid]
      exact hasStatus_updateRecord fun r _ _ => List.mem_cons_self
    · exact (h.recorded c hc hrec hm).updateRecord_other hf hid
  · intro r' hr' hs
    obtain ⟨r, hr, ⟨hid, rfl⟩ | ⟨-, rfl⟩⟩ := mem_updateRecord.mp hr'
    · exact h.explained r hr (.inr (List.mem_singleton.mp (hstatus r hr hid)))
    · exact h.explained _ hr hs

/-- An unknown record is resolved as failed, truthfully. -/
lemma Sound.resolveFailed {failureCode failureMessage reconciledBy : Option String} (now : Instant)
    (h : s.Sound) (hstatus : s.HasStatus id [.unknown])
    (htruthful : ∀ c ∈ s.calls, c.record = id → c.effect = false) :
    ((s.write id (.resolveUnknownAsFailed failureCode failureMessage reconciledBy) now).disproved
      id).Sound := by
  have hf : ∀ r, ((RecordWrite.resolveUnknownAsFailed failureCode failureMessage
      reconciledBy).apply now r).id = r.id := fun _ => rfl
  have hmem : ∀ c' ∈ ((s.write id (.resolveUnknownAsFailed failureCode failureMessage reconciledBy)
      now).disproved id).calls, ∃ c ∈ s.calls,
        (c.record = id ∧ c' = { c with disproved := true }) ∨ (c.record ≠ id ∧ c' = c) := by
    intro c' hc'
    obtain ⟨c, hc, ⟨hid, rfl⟩ | ⟨hid, rfl⟩⟩ := mem_updateCalls.mp hc'
    · exact ⟨c, hc, .inl ⟨of_decide_eq_true hid, rfl⟩⟩
    · exact ⟨c', hc, .inr ⟨of_decide_eq_false hid, rfl⟩⟩
  have hmay : ∀ c' ∈ ((s.write id (.resolveUnknownAsFailed failureCode failureMessage reconciledBy)
      now).disproved id).calls, c'.MayExist → c' ∈ s.calls ∧ c'.record ≠ id := by
    intro c' hc' hm
    obtain ⟨c, hc, ⟨-, rfl⟩ | ⟨hid, rfl⟩⟩ := hmem c' hc'
    · cases hm.2
    · exact ⟨hc, hid⟩
  refine
    { record_key := updateRecord_key hf h.record_key
      run_key := updateCalls_key (fun _ => rfl) h.run_key
      known := ?_
      notCancelled := ?_
      effect := ?_
      one := ?_
      recorded := ?_
      explained := ?_
      disproved := ?_
      unanswered := ?_ }
  · intro c' hc'
    obtain ⟨c, hc, ⟨-, rfl⟩ | ⟨-, rfl⟩⟩ := hmem c' hc'
    all_goals
      exact (h.known _ hc).updateRecord hf (fun _ _ _ _ _ => trivial) fun _ _ _ => trivial
  · intro r' hr'
    obtain ⟨r, hr, ⟨-, rfl⟩ | ⟨-, rfl⟩⟩ := mem_updateRecord.mp hr'
    · exact fun hs => by cases hs
    · exact h.notCancelled _ hr
  · intro c' hc' he
    obtain ⟨c, hc, ⟨hid, rfl⟩ | ⟨-, rfl⟩⟩ := hmem c' hc'
    · have hno := htruthful c hc hid
      rw [show c.effect = true from he] at hno
      cases hno
    · exact h.effect _ hc he
  · intro c₁ hc₁ c₂ hc₂ hm₁ hm₂ heq
    exact h.one c₁ (hmay c₁ hc₁ hm₁).1 c₂ (hmay c₂ hc₂ hm₂).1 hm₁ hm₂ heq
  · intro c' hc' hrec hm
    obtain ⟨hc, hid⟩ := hmay c' hc' hm
    exact (h.recorded c' hc hrec hm).updateRecord_other hf hid
  · intro r' hr' hs
    obtain ⟨r, hr, ⟨-, rfl⟩ | ⟨hid, rfl⟩⟩ := mem_updateRecord.mp hr'
    · rcases hs with hs | hs <;> cases hs
    · obtain ⟨c, hc, hcid, hrest⟩ := h.explained r' hr hs
      refine ⟨c, mem_updateCalls.mpr ⟨c, hc, .inr ⟨?_, rfl⟩⟩, hcid, hrest⟩
      rw [hcid]
      exact decide_eq_false hid
  · intro c' hc' hd
    obtain ⟨c, hc, ⟨hid, rfl⟩ | ⟨-, rfl⟩⟩ := hmem c' hc'
    · -- an open request would have kept the record from being unknown
      by_contra hnot
      obtain ⟨hopen, hrejected⟩ := not_or.mp hnot
      have hpending := h.open_status hc (by simpa using hopen) hrejected
      rw [hid] at hpending
      exact hpending.absurd hstatus (hid ▸ h.known c hc) (by decide)
    · exact h.disproved _ hc hd
  · intro c' hc' hresult
    obtain ⟨c, hc, ⟨-, rfl⟩ | ⟨-, rfl⟩⟩ := hmem c' hc'
    · exact h.unanswered c hc hresult
    · exact h.unanswered c' hc hresult

lemma insertRecord_ok {r : CommissionInvoiceRecord} (h : s.insertRecord r = some s') :
    (∀ r' ∈ s.records, r'.id ≠ r.id) ∧ s' = { s with records := s.records ++ [r] } := by
  unfold insertRecord at h
  split at h
  · rename_i hfresh
    exact ⟨hfresh.1, (Option.some.inj h).symm⟩
  · cases h

/-- A pending record is inserted. -/
lemma Sound.insertRecord {r : CommissionInvoiceRecord} (h : s.Sound) (hpending : r.status = .pending)
    (hinsert : s.insertRecord r = some s') : s'.Sound := by
  obtain ⟨hfresh, rfl⟩ := insertRecord_ok hinsert
  refine
    { h with
      record_key := ?_
      known := ?_
      notCancelled := ?_
      recorded := ?_
      explained := ?_ }
  · refine keyUnique_append.mpr ⟨h.record_key, by simp [KeyUnique], fun r₁ hr₁ r₂ hr₂ => ?_⟩
    obtain rfl := List.mem_singleton.mp hr₂
    exact hfresh r₁ hr₁
  · intro c hc
    obtain ⟨r₁, hr₁, hid, -⟩ := h.known c hc
    exact ⟨r₁, List.mem_append_left _ hr₁, hid, trivial⟩
  · intro r₁ hr₁
    rcases List.mem_append.mp hr₁ with hr₁ | hr₁
    · exact h.notCancelled r₁ hr₁
    · obtain rfl := List.mem_singleton.mp hr₁
      rw [hpending]
      decide
  · intro c hc hrec hm r₁ hr₁ hid
    rcases List.mem_append.mp hr₁ with hr₁ | hr₁
    · exact h.recorded c hc hrec hm r₁ hr₁ hid
    · obtain rfl := List.mem_singleton.mp hr₁
      obtain ⟨r₂, hr₂, hid₂, -⟩ := h.known c hc
      exact absurd (hid₂.trans hid.symm) (hfresh r₂ hr₂)
  · intro r₁ hr₁ hs
    rcases List.mem_append.mp hr₁ with hr₁ | hr₁
    · exact h.explained r₁ hr₁ hs
    · obtain rfl := List.mem_singleton.mp hr₁
      rw [hpending] at hs
      rcases hs with hs | hs <;> cases hs

/-- The provider creates the invoice of a request that it has not refused. -/
lemma Sound.takesEffect (h : s.Sound) (hmay : ∀ c ∈ s.calls, c.run = i → c.MayExist) :
    (s.takesEffect i).Sound := by
  have hmem : ∀ c' ∈ (s.takesEffect i).calls, ∃ c ∈ s.calls, c'.run = c.run ∧
      c'.record = c.record ∧ c'.result = c.result ∧ c'.recorded = c.recorded ∧
        c'.disproved = c.disproved ∧ (c'.effect = true → c.effect = true ∨ c.run = i) := by
    intro c' hc'
    obtain ⟨c, hc, ⟨hrun, rfl⟩ | ⟨-, rfl⟩⟩ := mem_updateCalls.mp hc'
    · exact ⟨c, hc, rfl, rfl, rfl, rfl, rfl, fun _ => .inr (of_decide_eq_true hrun)⟩
    · exact ⟨c', hc, rfl, rfl, rfl, rfl, rfl, .inl⟩
  have hsame : ∀ c c' : InvoiceCreateCall, c'.result = c.result → c'.disproved = c.disproved →
      (c'.MayExist ↔ c.MayExist) ∧ (c'.Rejected ↔ c.Rejected) := by
    intro c c' hresult hdisproved
    unfold InvoiceCreateCall.MayExist InvoiceCreateCall.Rejected
    rw [hresult, hdisproved]
    exact ⟨Iff.rfl, Iff.rfl⟩
  refine
    { record_key := h.record_key
      run_key := updateCalls_key (fun _ => rfl) h.run_key
      known := ?_
      notCancelled := h.notCancelled
      effect := ?_
      one := ?_
      recorded := ?_
      explained := ?_
      disproved := ?_
      unanswered := ?_ }
  · intro c' hc'
    obtain ⟨c, hc, -, hrecord, -⟩ := hmem c' hc'
    rw [hrecord]
    exact h.known c hc
  · intro c' hc' he
    obtain ⟨c, hc, -, -, hresult, -, hdisproved, heffect⟩ := hmem c' hc'
    rw [(hsame c c' hresult hdisproved).1]
    rcases heffect he with he | hrun
    · exact h.effect c hc he
    · exact hmay c hc hrun
  · refine h.one_of_mayExist fun c' hc' hm => ?_
    obtain ⟨c, hc, hrun, hrecord, hresult, -, hdisproved, -⟩ := hmem c' hc'
    exact ⟨c, hc, hrun.symm, hrecord.symm, (hsame c c' hresult hdisproved).1.mp hm⟩
  · intro c' hc' hrec hm
    obtain ⟨c, hc, -, hrecord, hresult, hrecorded, hdisproved, -⟩ := hmem c' hc'
    rw [(hsame c c' hresult hdisproved).1] at hm
    rw [hrecord]
    exact h.recorded c hc (hrecorded ▸ hrec) hm
  · intro r hr hs
    obtain ⟨c, hc, hcid, hrec, hm⟩ := h.explained r hr hs
    by_cases hrun : c.run = i
    · exact ⟨{ c with effect := true },
        mem_updateCalls.mpr ⟨c, hc, .inl ⟨decide_eq_true hrun, rfl⟩⟩, hcid, hrec, hm⟩
    · exact ⟨c, mem_updateCalls.mpr ⟨c, hc, .inr ⟨decide_eq_false hrun, rfl⟩⟩, hcid, hrec, hm⟩
  · intro c' hc' hd
    obtain ⟨c, hc, -, -, hresult, hrecorded, hdisproved, -⟩ := hmem c' hc'
    rw [hrecorded, (hsame c c' hresult hdisproved).2]
    exact h.disproved c hc (hdisproved ▸ hd)
  · intro c' hc' hnone
    obtain ⟨c, hc, -, -, hresult, hrecorded, -, -⟩ := hmem c' hc'
    rw [hrecorded]
    exact h.unanswered c hc (hresult ▸ hnone)

end InvoiceStore

/-! ## What the other calls can rely on -/

/-- A step of run `i` keeps the records, the requests of the other runs, and the created records
that another run reconciles. -/
structure InvoiceStore.Guarantees (i : ℕ) (s s' : InvoiceStore) : Prop where
  record : ∀ id, s.HasRecord id (fun _ => True) → s'.HasRecord id fun _ => True
  call : ∀ c ∈ s.calls, c.run ≠ i → ∃ c' ∈ s'.calls, c'.run = c.run ∧ c'.record = c.record ∧
    c'.recorded = c.recorded ∧ c'.result = c.result
  back : ∀ c' ∈ s'.calls, c'.run ≠ i → ∃ c ∈ s.calls, c.run = c'.run ∧ c.recorded = c'.recorded ∧
    c.result = c'.result
  reconciles : ∀ j id (Q : ProviderIdentifiers → Prop), j ≠ i →
    s.Reconciles j id (fun r => Q r.identifiers) → s'.Reconciles j id fun r => Q r.identifiers

namespace InvoiceStore

variable {s s' : InvoiceStore} {i j : ℕ} {id : Id}

/-- What is known of a request is kept, given the requests of the run. -/
lemma Reconciles.mono {P Q : CommissionInvoiceRecord → Prop} (h : s.Reconciles j id P)
    (hcall : ∀ c ∈ s.calls, c.run = j → c.record = id → c.recorded = true → c.MayExist →
      s'.HasCall j id fun c => c.recorded = true ∧ c.MayExist)
    (hrecord : ∀ r ∈ s.records, r.id = id → r.status = .created → P r → ∃ r' ∈ s'.records,
      r'.id = id ∧ r'.status = .created ∧ r'.identifiers.invoiceNo = r.identifiers.invoiceNo ∧ Q r') :
    s'.Reconciles j id Q := by
  obtain ⟨⟨c, hc, hrun, hcid, hrec, hm⟩, r, hr, hrid, hstatus, htext, hP⟩ := h
  refine ⟨hcall c hc hrun hcid hrec hm, ?_⟩
  obtain ⟨r', hr', hid', hstatus', hno, hQ⟩ := hrecord r hr hrid hstatus hP
  refine ⟨r', hr', hid', hstatus', ?_, hQ⟩
  rw [hno]
  exact htext

lemma Reconciles.weaken {P Q : CommissionInvoiceRecord → Prop} (h : s.Reconciles i id P)
    (hPQ : ∀ r, P r → Q r) : s.Reconciles i id Q := by
  obtain ⟨hcall, r, hr, hid, hstatus, htext, hP⟩ := h
  exact ⟨hcall, r, hr, hid, hstatus, htext, hPQ r hP⟩

/-- A record that is reconciled is created. -/
lemma Reconciles.absurd {P : CommissionInvoiceRecord → Prop} (h : s.Reconciles j id P)
    {l : List InvoiceStatus} (hstatus : s.HasStatus id l) (hl : InvoiceStatus.created ∉ l) : False := by
  obtain ⟨-, r, hr, hid, hcreated, -⟩ := h
  have hmem := hstatus r hr hid
  rw [hcreated] at hmem
  exact hl hmem

/-- Two runs do not reconcile the same record. -/
lemma Sound.reconciles_unique {P Q : CommissionInvoiceRecord → Prop} (h : s.Sound)
    (hi : s.Reconciles i id P) (hj : s.Reconciles j id Q) : i = j := by
  obtain ⟨⟨c, hc, hrun, hcid, -, hm⟩, -⟩ := hi
  obtain ⟨⟨c', hc', hrun', hcid', -, hm'⟩, -⟩ := hj
  have hone := h.one c hc c' hc' hm hm' (hcid.trans hcid'.symm)
  rw [← hrun, ← hrun', hone]

lemma Guarantees.refl : Guarantees i s s :=
  ⟨fun _ h => h, fun c hc _ => ⟨c, hc, rfl, rfl, rfl, rfl⟩, fun c hc _ => ⟨c, hc, rfl, rfl, rfl⟩,
    fun _ _ _ _ h => h⟩

/-- An update of the record that only `i` may reconcile, or that keeps what is known of it. -/
lemma Guarantees.updateRecord {f : CommissionInvoiceRecord → CommissionInvoiceRecord}
    (hf : ∀ r, (f r).id = r.id)
    (hcreated : ∀ j Q, j ≠ i → s.Reconciles j id Q → ∀ r, (f r).status = r.status ∧
      (f r).identifiers = r.identifiers) : Guarantees i s (s.updateRecord id f) := by
  refine ⟨?_, fun c hc _ => ⟨c, hc, rfl, rfl, rfl, rfl⟩, fun c hc _ => ⟨c, hc, rfl, rfl, rfl⟩, ?_⟩
  · intro k h
    exact h.updateRecord hf (fun _ _ _ _ _ => trivial) fun _ _ _ => trivial
  · intro j k Q hj h
    refine h.mono (fun c hc hrun hcid hrec hm => ⟨c, hc, hrun, hcid, hrec, hm⟩) ?_
    intro r hr hrid hstatus hQ
    by_cases hid : r.id = id
    · obtain ⟨hsame, hsame'⟩ := hcreated j _ hj (by rwa [← hid, hrid]) r
      refine ⟨f r, mem_updateRecord.mpr ⟨r, hr, .inl ⟨hid, rfl⟩⟩, (hf r).trans hrid,
        hsame.trans hstatus, ?_, ?_⟩
      · rw [hsame']
      · rwa [hsame']
    · exact ⟨r, mem_updateRecord.mpr ⟨r, hr, .inr ⟨hid, rfl⟩⟩, hrid, hstatus, rfl, hQ⟩

lemma Guarantees.trans {t : InvoiceStore} (h : Guarantees i s s') (h' : Guarantees i s' t) :
    Guarantees i s t := by
  refine ⟨fun k hk => h'.record k (h.record k hk), fun c hc hrun => ?_, fun c hc hrun => ?_,
    fun j k Q hj hk => h'.reconciles j k Q hj (h.reconciles j k Q hj hk)⟩
  · obtain ⟨c', hc', hrun', hrecord', hrec', hresult'⟩ := h.call c hc hrun
    obtain ⟨c'', hc'', hrun'', hrecord'', hrec'', hresult''⟩ := h'.call c' hc' (hrun' ▸ hrun)
    exact ⟨c'', hc'', hrun''.trans hrun', hrecord''.trans hrecord', hrec''.trans hrec',
      hresult''.trans hresult'⟩
  · obtain ⟨c', hc', hrun', hrec', hresult'⟩ := h'.back c hc hrun
    obtain ⟨c'', hc'', hrun'', hrec'', hresult''⟩ := h.back c' hc' (hrun' ▸ hrun)
    exact ⟨c'', hc'', hrun''.trans hrun', hrec''.trans hrec', hresult''.trans hresult'⟩

/-- A change of the call of run `i`. -/
lemma Guarantees.updateCall {f : InvoiceCreateCall → InvoiceCreateCall}
    (hf : ∀ c, (f c).run = c.run) :
    Guarantees i s (s.updateCalls (fun c => decide (c.run = i)) f) := by
  refine ⟨fun _ h => h, fun c hc hrun => ?_, fun c' hc' hrun => ?_, fun j k Q hj h => ?_⟩
  · exact ⟨c, mem_updateCalls.mpr ⟨c, hc, .inr ⟨decide_eq_false hrun, rfl⟩⟩, rfl, rfl, rfl, rfl⟩
  · obtain ⟨c, hc, ⟨hsel, rfl⟩ | ⟨-, rfl⟩⟩ := mem_updateCalls.mp hc'
    · exact absurd ((hf c).trans (of_decide_eq_true hsel)) hrun
    · exact ⟨c', hc, rfl, rfl, rfl⟩
  · refine h.mono (fun c hc hrun hcid hrec hm => ?_) fun r hr hrid hstatus hQ =>
      ⟨r, hr, hrid, hstatus, rfl, hQ⟩
    refine ⟨c, mem_updateCalls.mpr ⟨c, hc, .inr ⟨decide_eq_false ?_, rfl⟩⟩, hrun, hcid, hrec, hm⟩
    rw [hrun]
    exact hj

/-- The requests of a record that nobody reconciles are found to have created no invoice. -/
lemma Guarantees.disproved (hno : ∀ j Q, j ≠ i → ¬s.Reconciles j id Q) :
    Guarantees i s (s.disproved id) := by
  refine ⟨fun _ h => h, fun c hc _ => ?_, fun c' hc' _ => ?_, fun j k Q hj h => ?_⟩
  · by_cases hid : c.record = id
    · exact ⟨{ c with disproved := true },
        mem_updateCalls.mpr ⟨c, hc, .inl ⟨decide_eq_true hid, rfl⟩⟩, rfl, rfl, rfl, rfl⟩
    · exact ⟨c, mem_updateCalls.mpr ⟨c, hc, .inr ⟨decide_eq_false hid, rfl⟩⟩, rfl, rfl, rfl, rfl⟩
  · obtain ⟨c, hc, ⟨-, rfl⟩ | ⟨-, rfl⟩⟩ := mem_updateCalls.mp hc'
    · exact ⟨c, hc, rfl, rfl, rfl⟩
    · exact ⟨c', hc, rfl, rfl, rfl⟩
  · have hid : k ≠ id := by
      rintro rfl
      exact hno j _ hj h
    refine h.mono (fun c hc hrun hcid hrec hm => ?_) fun r hr hrid hstatus hQ =>
      ⟨r, hr, hrid, hstatus, rfl, hQ⟩
    refine ⟨c, mem_updateCalls.mpr ⟨c, hc, .inr ⟨decide_eq_false ?_, rfl⟩⟩, hrun, hcid, hrec, hm⟩
    rw [hcid]
    exact hid

end InvoiceStore

namespace InvoiceProcess

open InvoiceStore

variable {i j : ℕ} {s s' : InvoiceStore} {p q : InvoiceProcess}

/-- **What a step of an allowed call guarantees to the others.** -/
theorem Writes.guarantees (hs : s.Sound) (hp : p.Sound i s) (h : Writes True i s p s') :
    Guarantees i s s' := by
  cases h with
  | nothing => exact .refl
  | retried now =>
      exact .updateRecord (RecordWrite.apply_id _ _) fun _ _ _ _ _ => ⟨rfl, rfl⟩
  | @called input record h =>
      refine ⟨fun _ hk => hk, fun c hc _ => ⟨c, List.mem_append_left _ hc, rfl, rfl, rfl, rfl⟩,
        fun c' hc' hrun => ?_, fun j k Q hj hk => ?_⟩
      · rcases List.mem_append.mp hc' with hc | hc
        · exact ⟨c', hc, rfl, rfl, rfl⟩
        · obtain rfl := List.mem_singleton.mp hc
          exact absurd rfl hrun
      · exact hk.mono (fun c hc hrun hcid hrec hm =>
          ⟨c, List.mem_append_left _ hc, hrun, hcid, hrec, hm⟩) fun r hr hrid hstatus hQ =>
            ⟨r, hr, hrid, hstatus, rfl, hQ⟩
  | answered h => exact .updateCall fun _ => rfl
  | @recorded input outcome now h =>
      refine Guarantees.trans (.updateRecord (RecordWrite.apply_id _ _) ?_) (.updateCall fun _ => rfl)
      intro j Q hj hk
      refine absurd hk fun hk => hk.absurd (h trivial) ?_
      rw [outcome_allowed]
      decide
  | @reconciled input reconciliation existing now =>
      refine .updateRecord (fun _ => rfl) fun j Q hj hk => ?_
      exact absurd (hs.reconciles_unique hp hk).symm hj
  | @resolved id write now h =>
      have hresolves := hp.1
      cases write with
      | resolveUnknownAsCreated identifiers reconciledBy =>
          exact .updateRecord (fun _ => rfl) fun j Q hj hk =>
            absurd hk fun hk => hk.absurd (h trivial).1 (by simp [RecordWrite.allowed])
      | resolveUnknownAsFailed failureCode failureMessage reconciledBy =>
          have hno : ∀ j Q, j ≠ i → ¬s.Reconciles j id Q := fun j Q hj hk =>
            hk.absurd (h trivial).1 (by simp [RecordWrite.allowed])
          have hwrite : Guarantees i s (s.write id
              (.resolveUnknownAsFailed failureCode failureMessage reconciledBy) now) :=
            .updateRecord (fun _ => rfl) fun j Q hj hk => absurd hk (hno j Q hj)
          refine hwrite.trans (.disproved fun j Q hj hk => ?_)
          obtain ⟨-, r', hr', hid, hcreated, -⟩ := hk
          obtain ⟨r, hr, ⟨-, rfl⟩ | ⟨hne, rfl⟩⟩ := mem_updateRecord.mp hr'
          · cases hcreated
          · exact hne hid
      | markCreated identifiers => exact hresolves.elim
      | markFailed failureCode failureMessage => exact hresolves.elim
      | markUnknown reason => exact hresolves.elim
      | incrementRetry => exact hresolves.elim
  | inserted h =>
      obtain ⟨-, rfl⟩ := insertRecord_ok h
      refine ⟨?_, fun c hc _ => ⟨c, hc, rfl, rfl, rfl, rfl⟩, fun c hc _ => ⟨c, hc, rfl, rfl, rfl⟩, ?_⟩
      · rintro k ⟨r, hr, hid, -⟩
        exact ⟨r, List.mem_append_left _ hr, hid, trivial⟩
      · intro j k Q hj hk
        exact hk.mono (fun c hc hrun hcid hrec hm => ⟨c, hc, hrun, hcid, hrec, hm⟩)
          fun r hr hrid hstatus hQ => ⟨r, List.mem_append_left _ hr, hrid, hstatus, rfl, hQ⟩

lemma NoCall.frame (hg : Guarantees i s s') (hj : j ≠ i) (h : s.NoCall j) : s'.NoCall j := by
  intro c' hc' hrun
  obtain ⟨c, hc, hrun', -⟩ := hg.back c' hc' (by rwa [hrun])
  exact h c hc (hrun'.trans hrun)

lemma HasCall.frame {id : Id} {P : InvoiceCreateCall → Prop}
    (hP : ∀ c c' : InvoiceCreateCall, c'.recorded = c.recorded → c'.result = c.result → P c → P c')
    (hg : Guarantees i s s') (hj : j ≠ i) (h : s.HasCall j id P) : s'.HasCall j id P := by
  obtain ⟨c, hc, hrun, hid, hp⟩ := h
  obtain ⟨c', hc', hrun', hid', hrec, hresult⟩ := hg.call c hc (by rwa [hrun])
  exact ⟨c', hc', hrun'.trans hrun, hid'.trans hid, hP c c' hrec hresult hp⟩

lemma rejected_congr {c c' : InvoiceCreateCall} (h : c'.result = c.result) :
    c'.Rejected ↔ c.Rejected := by
  unfold InvoiceCreateCall.Rejected
  rw [h]

lemma explains_congr {o : CreateOutcome} {c c' : InvoiceCreateCall} (h : c'.result = c.result)
    (hc : o.Explains c) : o.Explains c' := by
  cases o with
  | created identifiers => exact ⟨fun hr => hc.1 ((rejected_congr h).mp hr), hc.2⟩
  | failed failureCode failureMessage => exact (rejected_congr h).mpr hc
  | unknown reason => exact fun hr => hc ((rejected_congr h).mp hr)
  | unrecorded => exact fun hr => hc ((rejected_congr h).mp hr)

/-- **A call stays sound** under the steps of the others. -/
theorem Sound.frame (hg : Guarantees i s s') (hj : j ≠ i) (h : q.Sound j s) : q.Sound j s' := by
  cases q with
  | resolve id write position => exact ⟨h.1, NoCall.frame hg hj h.2⟩
  | createPending settlementApprovalId position => exact NoCall.frame hg hj h
  | execute input position =>
      cases position with
      | readRecord => exact NoCall.frame hg hj h
      | findActive record => exact ⟨NoCall.frame hg hj h.1, hg.record _ h.2⟩
      | login record => exact ⟨NoCall.frame hg hj h.1, hg.record _ h.2⟩
      | readForRetry record => exact ⟨NoCall.frame hg hj h.1, hg.record _ h.2⟩
      | incrementRetry record => exact ⟨NoCall.frame hg hj h.1, hg.record _ h.2⟩
      | create record => exact ⟨NoCall.frame hg hj h.1, hg.record _ h.2⟩
      | awaitCreate =>
          exact HasCall.frame (fun _ _ hrec hresult hp => ⟨hrec.trans hp.1, hresult.trans hp.2⟩) hg hj h
      | readForOutcome outcome =>
          rcases h with h | ⟨heq, h⟩
          · exact .inl (HasCall.frame (fun _ _ hrec hresult hp =>
              ⟨hrec.trans hp.1, hresult ▸ hp.2.1, explains_congr hresult hp.2.2⟩) hg hj h)
          · exact .inr ⟨heq, hg.reconciles j _ (fun _ => True) hj h⟩
      | writeOutcome outcome =>
          exact HasCall.frame (fun _ _ hrec hresult hp =>
            ⟨hrec.trans hp.1, hresult ▸ hp.2.1, explains_congr hresult hp.2.2⟩) hg hj h
      | readForPreview => exact hg.reconciles j _ (fun _ => True) hj h
      | listInvoices record => exact hg.reconciles j _ (fun ids => ids = record.identifiers) hj h
      | readForReconciliation reconciliation =>
          exact hg.reconciles j _ (fun ids => reconciliation.identifiers.Agrees ids) hj h
      | writeReconciliation reconciliation existing =>
          exact hg.reconciles j _ (fun ids => reconciliation.identifiers.Agrees ids ∧
            ids = existing.identifiers) hj h
      | ended result =>
          intro c' hc' hrun
          obtain ⟨c, hc, hrun', hrec, hresult⟩ := hg.back c' hc' (by rwa [hrun])
          rcases h c hc (hrun'.trans hrun) with hr | hr
          · exact .inl (hrec.symm.trans hr)
          · exact .inr ((rejected_congr hresult).mp hr)

/-- **The store stays sound** under a step of an allowed call. -/
theorem Writes.store (hs : s.Sound) (hp : p.Sound i s) (h : Writes True i s p s') : s'.Sound := by
  cases h with
  | nothing => exact hs
  | retried now => exact hs.updateRecord (RecordWrite.apply_id _ _) fun _ => rfl
  | called h => exact hs.call hp.1 hp.2 (h trivial).1 (h trivial).2
  | answered h => exact hs.answered hp (h trivial).2
  | recorded now h => exact hs.writeOutcome now hp (h trivial)
  | reconciled now => exact hs.updateRecord (fun _ => rfl) fun _ => rfl
  | @resolved id write now h =>
      have hresolves := hp.1
      cases write with
      | resolveUnknownAsCreated identifiers reconciledBy =>
          exact hs.resolveCreated now (h trivial).1
      | resolveUnknownAsFailed failureCode failureMessage reconciledBy =>
          exact hs.resolveFailed now (h trivial).1 ((h trivial).2 _ _ _ rfl)
      | markCreated identifiers => exact hresolves.elim
      | markFailed failureCode failureMessage => exact hresolves.elim
      | markUnknown reason => exact hresolves.elim
      | incrementRetry => exact hresolves.elim
  | inserted h => exact hs.insertRecord rfl h

/-! ## The steps of an execution -/

lemma afterReadRecord_sound {id : Id} {approval : Option SettlementApproval} (hno : s.NoCall i) :
    (afterReadRecord (s.findRecord id) approval).Sound i id s := by
  have hended : ∀ blockers, (blocked blockers).Sound i id s :=
    fun _ c hc hrun => absurd hrun (hno c hc)
  unfold afterReadRecord
  split
  · exact hended _
  · rename_i record hfind
    split
    · exact ⟨hno, record, mem_of_findRow hfind, key_of_findRow hfind, trivial⟩
    · exact hended _

lemma afterFindActive_sound {id : Id} {env : LogoEnv} {record : CommissionInvoiceRecord}
    {active : Option CommissionInvoiceRecord} (hno : s.NoCall i)
    (hrecord : s.HasRecord id fun _ => True) :
    (afterFindActive env record active).Sound i id s := by
  have hended : ∀ blockers, (blocked blockers).Sound i id s :=
    fun _ c hc hrun => absurd hrun (hno c hc)
  unfold afterFindActive
  split
  · exact hended _
  · split
    · split
      · exact ⟨hno, hrecord⟩
      · exact hended _
    · exact hended _

lemma afterLogin_sound {id : Id} {env : LogoEnv} {record : CommissionInvoiceRecord}
    {login : Except String LogoLogin} (hno : s.NoCall i) (hrecord : s.HasRecord id fun _ => True) :
    (afterLogin env record login).Sound i id s := by
  have hended : ∀ blockers, (blocked blockers).Sound i id s :=
    fun _ c hc hrun => absurd hrun (hno c hc)
  unfold afterLogin
  repeat' split
  all_goals first | exact hended _ | exact ⟨hno, hrecord⟩

/-- The outcome says what a definite answer was. -/
lemma outcomeOf_explains {c : InvoiceCreateCall} {result : CreateResult} (hresult : c.result = some result)
    (hdefinite : result.Definite) : (outcomeOf result).Explains c := by
  have hrejected : c.Rejected ↔ result.Rejected := by
    unfold InvoiceCreateCall.Rejected
    rw [hresult]
    simp
  unfold outcomeOf
  cases result with
  | thrown => exact fun hr => hrejected.mp hr
  | response result =>
      simp only
      split
      · rename_i hok
        have hr : c.Rejected := by
          rcases hdefinite with h | h
          · rw [hok] at h
            cases h
          · exact hrejected.mpr h
        split <;> exact hr
      · rename_i hok
        have hr : ¬c.Rejected := by
          intro hr
          obtain ⟨hlow, -⟩ := hrejected.mp hr
          simp only [LogoIsbasiRawResult.ok, decide_eq_false_iff_not, not_not] at hok
          omega
        split
        · exact hr
        · exact ⟨hr, fun x hx => Json.readText_of_readRecordString hx⟩

/-- After an outcome is recorded, the call is not open any more. -/
lemma writeOutcome_sound {id : Id} {outcome : CreateOutcome} (now : Instant) :
    ∀ c ∈ (s.writeOutcome i id outcome now).calls, c.run = i → c.recorded = true ∨ c.Rejected := by
  intro c' hc' hrun
  obtain ⟨c, hc, ⟨-, rfl⟩ | ⟨hne, rfl⟩⟩ := mem_updateCalls.mp hc'
  · exact .inl rfl
  · exact absurd hrun (of_decide_eq_false hne)

/-- The run that created the record reconciles it. -/
lemma reconciles_of_created {id : Id} {identifiers : ProviderIdentifiers} {now : Instant}
    (hs : s.Sound) (hcall : s.HasCall i id fun c => c.recorded = false ∧ c.result ≠ none ∧
      (CreateOutcome.created identifiers).Explains c) :
    (s.writeOutcome i id (.created identifiers) now).Reconciles i id fun _ => True := by
  obtain ⟨c, hc, hrun, hid, hopen, hanswered, hrejected, htext⟩ := hcall
  refine ⟨⟨{ c with recorded := true }, mem_updateCalls.mpr ⟨c, hc, .inl ⟨by simpa using hrun, rfl⟩⟩,
    hrun, hid, rfl, hrejected, ?_⟩, ?_⟩
  · by_contra hd
    rcases hs.disproved c hc (by simpa using hd) with hrec | hrej
    · rw [hopen] at hrec
      cases hrec
    · exact hrejected hrej
  · obtain ⟨r, hr, hrid, -⟩ := hs.known c hc
    exact ⟨_, mem_updateRecord.mpr ⟨r, hr, .inl ⟨hrid.trans hid, rfl⟩⟩, hrid.trans hid, rfl, htext,
      trivial⟩

/-- What follows an error while an outcome is recorded; a call that may have created an invoice
meets none. -/
lemma thrown_sound {id : Id} {outcome : CreateOutcome} {error : String}
    (hcall : s.HasCall i id fun c => c.recorded = false ∧ c.result ≠ none ∧ outcome.Explains c)
    (hs : s.Sound) (hcertain : ¬outcome.Uncertain) : (outcome.thrown error).Sound i id s := by
  cases outcome with
  | created identifiers =>
      obtain ⟨c, hc, hrun, hid, hopen, hanswered, hexplains⟩ := hcall
      exact .inl ⟨c, hc, hrun, hid, hopen, hanswered, hexplains.1⟩
  | failed failureCode failureMessage =>
      intro c hc hrun
      exact .inr (hs.call_eq hcall hc hrun).2.2.2
  | unknown reason => exact absurd trivial hcertain
  | unrecorded => exact absurd trivial hcertain

/-- The check of an uncertain outcome passes. -/
lemma readFor_ok {id : Id} {outcome : CreateOutcome} (hs : s.Sound)
    (hcall : s.HasCall i id fun c => c.recorded = false ∧ c.result ≠ none ∧ outcome.Explains c)
    (huncertain : outcome.Uncertain) : ∃ r, readFor outcome.write (s.findRecord id) = .ok r := by
  obtain ⟨c, hc, -, rfl, hopen, -, hexplains⟩ := hcall
  have hrejected : ¬c.Rejected := by
    cases outcome with
    | created identifiers => exact hexplains.1
    | failed failureCode failureMessage => exact huncertain.elim
    | unknown reason => exact hexplains
    | unrecorded => exact hexplains
  have hstatus := hs.open_status hc hopen hrejected
  obtain ⟨r, hr, hid, -⟩ := hs.known c hc
  have hfind : s.findRecord c.record = some r := hid ▸ findRow_of_mem hs.record_key hr
  refine ⟨r, ?_⟩
  have hwrite : outcome.write ≠ .incrementRetry := by
    cases outcome <;> simp [CreateOutcome.write]
  have hmem : r.status ∈ outcome.write.allowed := outcome_allowed outcome ▸ hstatus r hr hid
  simp [readFor, hfind, getOrThrow, RecordWrite.assertStatus, hwrite, require, hmem, bind,
    Except.bind, pure, Except.pure]

lemma agrees_none {ids : ProviderIdentifiers} : ProviderIdentifiers.none.Agrees ids :=
  ⟨fun _ h => (by cases h), fun _ h => (by cases h), fun _ h => (by cases h)⟩

/-- What is recorded of the provider's invoices agrees with the record when the rows do. -/
lemma reconciliationOf_agrees {ids : ProviderIdentifiers} {rows : List Json}
    (h : ∀ row ∈ rows, invoiceMatchesRecord toLowerCase row ids → (rowIdentifiers row).Agrees ids) :
    (reconciliationOf toLowerCase ids rows).identifiers.Agrees ids := by
  have hor : ∀ {found read : Option String}, (∀ x ∈ found, ∀ y ∈ read, x = y) →
      ∀ x ∈ found.or read, ∀ y ∈ read, x = y := by
    intro found read hagree x hx y hy
    cases found with
    | none => exact Option.mem_unique hx hy
    | some z => exact hagree x hx y hy
  unfold reconciliationOf
  split
  · exact agrees_none
  · rename_i row hrow
    have hmem : row ∈ rows.filter fun row => invoiceMatchesRecord toLowerCase row ids := by
      rw [hrow]
      exact List.mem_cons_self
    obtain ⟨hrow, hmatch⟩ := List.mem_filter.mp hmem
    obtain ⟨hid, huuid, hettn⟩ := h row hrow hmatch
    exact ⟨hor hid, hor huuid, hor hettn⟩
  · exact agrees_none

/-- The update of a reconciliation keeps the identifiers that the record has. -/
lemma apply_keeps {input : InvoiceReconciliation} {existing r : CommissionInvoiceRecord}
    (now : Instant) (hagrees : input.identifiers.Agrees r.identifiers)
    (heq : r.identifiers = existing.identifiers)
    (htext : ∀ x ∈ r.identifiers.invoiceNo, Json.readText x = some x) :
    let ids := (input.apply existing now r).identifiers
    (∀ x ∈ r.identifiers.providerInvoiceId, ids.providerInvoiceId = some x) ∧
      (∀ x ∈ r.identifiers.providerUuid, ids.providerUuid = some x) ∧
      (∀ x ∈ r.identifiers.providerEttn, ids.providerEttn = some x) ∧
      (∀ x ∈ r.identifiers.invoiceNo, ids.invoiceNo = some x) ∧
      ∀ x ∈ ids.invoiceNo, Json.readText x = some x := by
  have hor : ∀ {found read : Option String}, (∀ x ∈ found, ∀ y ∈ read, x = y) →
      ∀ x ∈ read, found.or read = some x := by
    intro found read hagree x hx
    cases found with
    | none => exact hx
    | some z => rw [Option.some_or, hagree z rfl x hx]
  obtain ⟨hid, huuid, hettn⟩ := hagrees
  simp only [InvoiceReconciliation.apply, ← heq]
  refine ⟨hor hid, hor huuid, hor hettn, fun x hx => ?_, fun x hx => ?_⟩
  · split
    · exact hx
    · rename_i hconflict
      refine hor (fun z hz y hy => ?_) x hx
      -- without a conflict the number that was found is the one of the record
      by_contra hne
      refine hconflict ?_
      have hread : r.identifiers.invoiceNo.bind Json.readText = some y := by
        rw [hy, Option.bind_some]
        exact htext y hy
      rw [hasInvoiceNoConflict, hz, hread]
      exact decide_eq_true hne
  · split at hx
    · exact htext x hx
    · cases hfound : input.identifiers.invoiceNo.bind Json.readText with
      | none =>
          rw [hfound] at hx
          exact htext x hx
      | some z =>
          rw [hfound] at hx
          obtain rfl := Option.some.inj hx
          obtain ⟨raw, -, hraw⟩ := Option.bind_eq_some_iff.mp hfound
          exact Json.readText_of_readText hraw

lemma reconciles_ended {id : Id} {P : CommissionInvoiceRecord → Prop}
    {result : Except String ExecuteResult} (hs : s.Sound) (h : s.Reconciles i id P) :
    (ExecutePosition.ended result).Sound i id s :=
  fun _ hc hrun => .inl (hs.call_eq h.1 hc hrun).2.1

lemma reconciles_thrown {id : Id} {input : InvoiceReconciliation}
    {P : CommissionInvoiceRecord → Prop} (hs : s.Sound) (h : s.Reconciles i id P) :
    input.thrown.Sound i id s := by
  unfold InvoiceReconciliation.thrown
  split
  · exact reconciles_ended hs h
  · exact h.mono (fun c hc hrun hcid hrec hm => ⟨c, hc, hrun, hcid, hrec, hm⟩)
      fun r hr hid hstatus _ => ⟨r, hr, hid, hstatus, rfl, agrees_none⟩

/-- The record that is found is the one that the run reconciles. -/
lemma reconciles_found {id : Id} {P : CommissionInvoiceRecord → Prop} (hs : s.Sound)
    (h : s.Reconciles i id P) {r : CommissionInvoiceRecord} (hfind : s.findRecord id = some r) :
    s.Reconciles i id fun r' => P r' ∧ r' = r := by
  obtain ⟨hcall, r', hr', hid, hstatus, htext, hP⟩ := h
  have heq : r' = r := hs.record_key.eq hr' (mem_of_findRow hfind)
    (hid.trans (key_of_findRow hfind).symm)
  exact ⟨hcall, r', hr', hid, hstatus, htext, hP, heq⟩

lemma afterReadForPreview_sound {id : Id} (hs : s.Sound) (h : s.Reconciles i id fun _ => True) :
    (afterReadForPreview toLowerCase (s.findRecord id)).Sound i id s := by
  unfold afterReadForPreview
  split
  · rename_i record hrecord
    have hfind := (Option.filter_eq_some_iff.mp hrecord).1
    exact (reconciles_found hs h hfind).weaken fun r hr => by rw [hr.2]
  · exact h.weaken fun _ _ => agrees_none

/-- The update of a reconciliation leaves a record that the run reconciles. -/
lemma reconciles_update {id : Id} {input : InvoiceReconciliation} {existing : CommissionInvoiceRecord}
    {now : Instant} (h : s.Reconciles i id fun r => input.identifiers.Agrees r.identifiers ∧
      r.identifiers = existing.identifiers) :
    (s.updateRecord id (input.apply existing now)).Reconciles i id fun _ => True := by
  obtain ⟨⟨c, hc, hcall⟩, r, hr, hid, hstatus, htext, hagrees, heq⟩ := h
  refine ⟨⟨c, hc, hcall⟩, _, mem_updateRecord.mpr ⟨r, hr, .inl ⟨hid, rfl⟩⟩, hid, hstatus, ?_, trivial⟩
  exact (apply_keeps _ hagrees heq htext).2.2.2.2

/-- A created record does not become unknown. -/
lemma readFor_created {id : Id} {P : CommissionInvoiceRecord → Prop} {r : CommissionInvoiceRecord}
    (hs : s.Sound) (h : s.Reconciles i id P) :
    readFor CreateOutcome.unrecorded.write (s.findRecord id) ≠ .ok r := by
  intro hread
  simp only [readFor, bind_eq_ok, getOrThrow_eq_ok, pure_eq_ok] at hread
  obtain ⟨found, hfind, u, hassert, rfl⟩ := hread
  have hallowed := RecordWrite.assertStatus_ok hassert
  obtain ⟨-, r', -, -, hcreated, -, -, rfl⟩ := reconciles_found hs h hfind
  rw [hcreated] at hallowed
  simp [CreateOutcome.write, RecordWrite.allowed] at hallowed

/-- **An execution stays sound** under its own steps. -/
theorem execute_sound {input : ExecuteInput} {position position' : ExecutePosition}
    {answer : InvoiceAnswer} (hs : s.Sound)
    (hp : position.Sound i input.settlementCommissionInvoiceId s)
    (hok : Allowed toLowerCase i answer s (.execute input position))
    (h : position.run toLowerCase input i answer s = some (s', position')) (hs' : s'.Sound) :
    position'.Sound i input.settlementCommissionInvoiceId s' := by
  have horderly := hok.orderly
  unfold ExecutePosition.run at h
  split at h
  all_goals simp only [Option.some.injEq, Prod.mk.injEq, reduceCtorEq] at h
  all_goals obtain ⟨rfl, rfl⟩ := h
  case h_1 => exact afterReadRecord_sound hp
  case h_2 => exact afterFindActive_sound hp.1 hp.2
  case h_3 => exact afterLogin_sound hp.1 hp.2
  case h_4 =>
    split
    · exact hp
    · exact fun c hc hrun => absurd hrun (hp.1 c hc)
  case h_5 now =>
    exact ⟨hp.1, hp.2.updateRecord (RecordWrite.apply_id _ _) (fun _ _ _ _ _ => trivial)
      fun _ _ _ => trivial⟩
  case h_6 now => exact fun c hc hrun => absurd hrun (hp.1 c hc)
  case h_7 =>
    exact ⟨_, List.mem_append_right _ (List.mem_singleton.mpr rfl), rfl, rfl, rfl, rfl⟩
  case h_8 result =>
    obtain ⟨c, hc, hrun, hid, hopen, hnone⟩ := hp
    refine .inl ⟨_, mem_updateCalls.mpr ⟨c, hc, .inl ⟨decide_eq_true hrun, rfl⟩⟩, hrun, hid, hopen,
      by simp, outcomeOf_explains rfl ?_⟩
    cases result with
    | response result => exact horderly
    | thrown => trivial
  case h_9 outcome now =>
    rcases hp with hp | ⟨rfl, hp⟩
    · split
      · exact hp
      · rename_i error herror
        refine thrown_sound hp hs fun huncertain => ?_
        obtain ⟨r, hr⟩ := readFor_ok hs hp huncertain
        rw [hr] at herror
        cases herror
    · split
      · rename_i r hr
        exact absurd hr (readFor_created hs hp)
      · exact reconciles_ended hs hp
  case h_10 outcome =>
    rcases hp with hp | ⟨rfl, hp⟩
    · exact thrown_sound hp hs horderly
    · exact reconciles_ended hs hp
  case h_11 outcome now =>
    have hended := @writeOutcome_sound i s input.settlementCommissionInvoiceId outcome now
    cases outcome with
    | created identifiers => exact reconciles_of_created hs hp
    | failed failureCode failureMessage => exact hended
    | unknown reason => exact hended
    | unrecorded => exact hended
  case h_12 outcome now =>
    have hended := @writeOutcome_sound i s input.settlementCommissionInvoiceId outcome now
    cases outcome with
    | created identifiers => exact .inr ⟨rfl, reconciles_of_created hs hp⟩
    | failed failureCode failureMessage => exact hended
    | unknown reason => exact hended
    | unrecorded => exact hended
  case h_13 outcome => exact thrown_sound hp hs horderly
  case h_14 => exact afterReadForPreview_sound hs hp
  case h_15 => exact hp.weaken fun _ _ => agrees_none
  case h_16 => exact hp.weaken fun _ _ => agrees_none
  case h_17 record rows =>
    refine hp.weaken fun r hr => ?_
    rw [hr]
    exact reconciliationOf_agrees horderly
  case h_18 reconciliation now =>
    split
    · rename_i existing hread
      have hfind : s.findRecord input.settlementCommissionInvoiceId = some existing := by
        simp only [readForApply, bind_eq_ok, getOrThrow_eq_ok, pure_eq_ok] at hread
        obtain ⟨r, hr, -, -, rfl⟩ := hread
        exact hr
      exact (reconciles_found hs hp hfind).weaken fun r hr => ⟨hr.1, by rw [hr.2]⟩
    · exact reconciles_thrown hs hp
  case h_19 reconciliation => exact reconciles_thrown hs hp
  case h_20 => exact reconciles_ended hs' (reconciles_update hp)
  case h_21 => exact reconciles_thrown hs' (reconciles_update hp)
  case h_22 => exact reconciles_thrown hs hp
  case h_23 => exact fun c hc hrun => absurd hrun (hp c hc)
  all_goals exact fun c hc hrun => absurd hrun (hp.1 c hc)

/-- **A call stays sound** under its own steps. -/
theorem run_sound {answer : InvoiceAnswer} (hs : s.Sound) (hp : p.Sound i s)
    (hok : p.Allowed toLowerCase i answer s) (h : p.run toLowerCase i answer s = some (s', q)) :
    s'.Sound ∧ q.Sound i s' := by
  have hwrites : Writes True i s p s' := run_writes (fun _ => hok) h
  have hs' := hwrites.store hs hp
  refine ⟨hs', ?_⟩
  cases p with
  | execute input position =>
      obtain ⟨⟨s₁, position'⟩, hrun, heq⟩ := Option.map_eq_some_iff.mp h
      obtain ⟨rfl, rfl⟩ := Prod.mk.inj heq
      exact execute_sound hs hp hok hrun hs'
  | resolve id write position =>
      obtain ⟨⟨s₁, position'⟩, hrun, heq⟩ := Option.map_eq_some_iff.mp h
      obtain ⟨rfl, rfl⟩ := Prod.mk.inj heq
      refine ⟨hp.1, ?_⟩
      cases hwrites with
      | nothing => exact hp.2
      | resolved now h =>
          intro c' hc'
          unfold InvoiceStore.resolve at hc'
          split at hc'
          · obtain ⟨c, hc, ⟨-, rfl⟩ | ⟨-, rfl⟩⟩ := mem_updateCalls.mp hc'
            · exact hp.2 c hc
            · exact hp.2 _ hc
          · exact hp.2 c' hc'
  | createPending settlementApprovalId position =>
      obtain ⟨⟨s₁, position'⟩, hrun, heq⟩ := Option.map_eq_some_iff.mp h
      obtain ⟨rfl, rfl⟩ := Prod.mk.inj heq
      cases hwrites with
      | nothing => exact hp
      | inserted h =>
          obtain ⟨-, rfl⟩ := insertRecord_ok h
          exact hp

/-- **Created records stay** under a step of an allowed call. -/
theorem Writes.keepsCreated (hs : s.Sound) (hp : p.Sound i s) (h : Writes True i s p s') :
    s.KeepsCreated s' := by
  have hsame : ∀ r ∈ s.records, r.status = .created → r ∈ s'.records → ∃ r' ∈ s'.records,
      r'.id = r.id ∧ r'.status = .created ∧
      (∀ x ∈ r.identifiers.providerInvoiceId, r'.identifiers.providerInvoiceId = some x) ∧
      (∀ x ∈ r.identifiers.providerUuid, r'.identifiers.providerUuid = some x) ∧
      (∀ x ∈ r.identifiers.providerEttn, r'.identifiers.providerEttn = some x) ∧
      ∀ x ∈ r.identifiers.invoiceNo, r'.identifiers.invoiceNo = some x :=
    fun r _ hcreated hr' => ⟨r, hr', rfl, hcreated, fun _ h => h, fun _ h => h, fun _ h => h,
      fun _ h => h⟩
  intro r hr hcreated
  cases h with
  | nothing => exact hsame r hr hcreated hr
  | called h => exact hsame r hr hcreated hr
  | answered h => exact hsame r hr hcreated hr
  | inserted h =>
      obtain ⟨-, rfl⟩ := insertRecord_ok h
      exact hsame r hr hcreated (List.mem_append_left _ hr)
  | @retried input record now =>
      by_cases hid : r.id = input.settlementCommissionInvoiceId
      · exact ⟨_, mem_updateRecord.mpr ⟨r, hr, .inl ⟨hid, rfl⟩⟩, rfl, hcreated, fun _ h => h,
          fun _ h => h, fun _ h => h, fun _ h => h⟩
      · exact hsame r hr hcreated (mem_updateRecord.mpr ⟨r, hr, .inr ⟨hid, rfl⟩⟩)
  | @recorded input outcome now h =>
      have hallowed := h trivial
      rw [outcome_allowed] at hallowed
      by_cases hid : r.id = input.settlementCommissionInvoiceId
      · have hmem := hallowed r hr hid
        rw [hcreated] at hmem
        exact absurd hmem (by decide)
      · exact hsame r hr hcreated (mem_updateRecord.mpr ⟨r, hr, .inr ⟨hid, rfl⟩⟩)
  | @reconciled input reconciliation existing now =>
      by_cases hid : r.id = input.settlementCommissionInvoiceId
      · obtain ⟨-, r', hr', hid', -, htext, hagrees, heq⟩ := hp
        obtain rfl := hs.record_key.eq hr hr' (hid.trans hid'.symm)
        have hkeeps := apply_keeps now hagrees heq htext
        exact ⟨_, mem_updateRecord.mpr ⟨r, hr, .inl ⟨hid, rfl⟩⟩, rfl, hcreated, hkeeps.1,
          hkeeps.2.1, hkeeps.2.2.1, hkeeps.2.2.2.1⟩
      · exact hsame r hr hcreated (mem_updateRecord.mpr ⟨r, hr, .inr ⟨hid, rfl⟩⟩)
  | @resolved id write now h =>
      have hresolves := hp.1
      have hunknown : s.HasStatus id [.unknown] := by
        have hallowed := (h trivial).1
        cases write <;> first | exact hresolves.elim | exact hallowed
      have hid : r.id ≠ id := by
        intro hid
        have hmem := hunknown r hr hid
        rw [hcreated] at hmem
        exact absurd hmem (by decide)
      refine hsame r hr hcreated ?_
      unfold InvoiceStore.resolve
      split <;> exact mem_updateRecord.mpr ⟨r, hr, .inr ⟨hid, rfl⟩⟩

end InvoiceProcess

/-! ## Runs -/

open InvoiceStore InvoiceProcess

lemma allowed_of_orderly {w : InvoiceWorld} {i : ℕ} {answer : InvoiceAnswer} {p : InvoiceProcess}
    (hok : Admissible w (.run i answer) ∧ Orderly toLowerCase w (.run i answer)) (hp : w.process i = some p) :
    p.Allowed toLowerCase i answer w.shared where
  orderly := hok.2 p hp
  behaves := by
    rintro result rfl
    exact hok.1.1
  truthful := by
    rintro id failureCode failureMessage reconciledBy rfl
    exact hok.1.2 _ hp

/-- **The invariant of orderly runs.** -/
theorem invoiceProgram_sound : (invoiceProgram toLowerCase).SoundFresh InvoiceStore.New
    (fun w m => Admissible w m ∧ Orderly toLowerCase w m) InvoiceStore.Sound (fun i s => s.NoCall i)
    fun i s p => p.Sound i s where
  init := by
    rintro ⟨finance, records, calls⟩ ⟨-, rfl, rfl⟩
    refine ⟨?_, fun i c hc => by simp at hc⟩
    exact
      { record_key := .nil _
        run_key := .nil _
        known := fun c hc => by simp at hc
        notCancelled := fun r hr => by simp at hr
        effect := fun c hc => by simp at hc
        one := fun c hc => by simp at hc
        recorded := fun c hc => by simp at hc
        explained := fun r hr => by simp at hr
        disproved := fun c hc => by simp at hc
        unanswered := fun c hc => by simp at hc }
  start := by
    intro i s input _ hno
    cases input with
    | execute input => exact hno
    | resolveUnknownAsCreated id identifiers reconciledBy evidence => exact ⟨trivial, hno⟩
    | resolveUnknownAsFailed id failureCode failureMessage reconciledBy evidence =>
        exact ⟨trivial, hno⟩
    | createPending settlementApprovalId => exact hno
  run := fun w i answer p s q hw hp hok hrun =>
    run_sound hw.store (hw.process i p hp) (allowed_of_orderly hok hp) hrun
  interference := by
    intro w i answer p s q hw hp hok hrun j hj
    have hwrites : Writes True i w.shared p s :=
      run_writes (fun _ => allowed_of_orderly hok hp) hrun
    have hguarantees := hwrites.guarantees hw.store (hw.process i p hp)
    exact ⟨fun r hr => Sound.frame hguarantees hj (hw.process j r hr),
      fun hr => NoCall.frame hguarantees hj (hw.fresh j hr)⟩
  outside := by
    intro w e s hw hok he
    cases e with
    | finance a =>
        simp only [invoiceProgram, InvoiceMove.apply] at he
        split at he
        · obtain ⟨finance, -, rfl⟩ := Option.map_eq_some_iff.mp he
          refine ⟨hw.store.congr rfl rfl, fun j r hr => ?_, hw.fresh⟩
          have hguarantees : Guarantees (j + 1) w.shared { w.shared with finance } :=
            ⟨fun _ h => h, fun c hc _ => ⟨c, hc, rfl, rfl, rfl, rfl⟩,
              fun c hc _ => ⟨c, hc, rfl, rfl, rfl⟩, fun _ _ _ _ h => h⟩
          exact Sound.frame hguarantees (Nat.ne_add_one j) (hw.process j r hr)
        · cases he
    | takesEffect run =>
        obtain rfl := Option.some.inj he
        have hbehaves : ∀ c ∈ w.shared.calls, c.run = run → c.MayExist :=
          fun c hc hrun => ⟨hok.1.1 c hc hrun, hok.1.2 c hc hrun⟩
        have hguarantees : ∀ j, Guarantees (j + 1) w.shared (w.shared.takesEffect run) := by
          intro j
          refine ⟨fun _ h => h, fun c hc _ => ?_, fun c' hc' _ => ?_, fun k id Q _ hk => ?_⟩
          · by_cases hrun : c.run = run
            · exact ⟨{ c with effect := true },
                mem_updateCalls.mpr ⟨c, hc, .inl ⟨decide_eq_true hrun, rfl⟩⟩, rfl, rfl, rfl, rfl⟩
            · exact ⟨c, mem_updateCalls.mpr ⟨c, hc, .inr ⟨decide_eq_false hrun, rfl⟩⟩, rfl, rfl,
                rfl, rfl⟩
          · obtain ⟨c, hc, ⟨-, rfl⟩ | ⟨-, rfl⟩⟩ := mem_updateCalls.mp hc'
            · exact ⟨c, hc, rfl, rfl, rfl⟩
            · exact ⟨c', hc, rfl, rfl, rfl⟩
          · refine hk.mono (fun c hc hrun hcid hrec hm => ?_) fun r hr hrid hstatus hQ =>
              ⟨r, hr, hrid, hstatus, rfl, hQ⟩
            by_cases hsame : c.run = run
            · exact ⟨{ c with effect := true },
                mem_updateCalls.mpr ⟨c, hc, .inl ⟨decide_eq_true hsame, rfl⟩⟩, hrun, hcid, hrec, hm⟩
            · exact ⟨c, mem_updateCalls.mpr ⟨c, hc, .inr ⟨decide_eq_false hsame, rfl⟩⟩, hrun, hcid,
                hrec, hm⟩
        refine ⟨hw.store.takesEffect hbehaves, fun j r hr => ?_, fun j hr => ?_⟩
        · exact Sound.frame (hguarantees j) (Nat.ne_add_one j) (hw.process j r hr)
        · exact NoCall.frame (hguarantees j) (Nat.ne_add_one j) (hw.fresh j hr)

/-- **A commission is invoiced once.**  In every orderly run at most one invoice of a record exists
at the provider, no execution ends with a record pending or failed whose invoice may exist, and a
created record stays created with the identifiers it has. -/
theorem commissionInvoice_createdOnce {w : InvoiceWorld}
    (hw : (invoiceProgram toLowerCase).Reaches InvoiceStore.New
      (fun w m => Admissible w m ∧ Orderly toLowerCase w m) w) :
    w.shared.InvoicedOnce ∧ EndedRecorded w ∧ ∀ m w', Admissible w m → Orderly toLowerCase w m →
      (invoiceProgram toLowerCase).step m w = .ok w' → w.shared.KeepsCreated w'.shared := by
  have hsound := invoiceProgram_sound.holds hw
  refine ⟨fun c hc c' hc' he he' heq => ?_, fun i input result hp c hc hrun hm r hr hid => ?_,
    fun m w' hadmissible horderly hstep => ?_⟩
  · exact hsound.store.one c hc c' hc' (hsound.store.effect c hc he)
      (hsound.store.effect c' hc' he') heq
  · have hrecorded : c.recorded = true := by
      rcases hsound.process i _ hp c hc hrun with hrec | hrejected
      · exact hrec
      · exact absurd hrejected hm.1
    have hmem := hsound.store.recorded c hc hrecorded hm r hr hid
    constructor
    all_goals
      intro hs
      rw [hs] at hmem
      exact absurd hmem (by decide)
  · have hkeep : ∀ records : InvoiceStore, records.records = w.shared.records →
        w.shared.KeepsCreated records := by
      intro s hs r hr hcreated
      exact ⟨r, hs ▸ hr, rfl, hcreated, fun _ h => h, fun _ h => h, fun _ h => h, fun _ h => h⟩
    rcases Program.step_shared hstep with hsame | ⟨i, answer, p, q, rfl, hp, hrun⟩ | ⟨e, rfl, he⟩
    · exact hkeep _ (by rw [hsame])
    · have hwrites : Writes True i w.shared p w'.shared :=
        run_writes (fun _ => allowed_of_orderly ⟨hadmissible, horderly⟩ hp) hrun
      exact hwrites.keepsCreated hsound.store (hsound.process i p hp)
    · refine hkeep _ ?_
      cases e with
      | finance a =>
          simp only [invoiceProgram, InvoiceMove.apply] at he
          split at he
          · obtain ⟨finance, -, heq⟩ := Option.map_eq_some_iff.mp he
            rw [← heq]
          · cases he
      | takesEffect run =>
          rw [← Option.some.inj he]
          rfl

/-! ### A request that is sent twice -/

/-- The settlement of one sale, approved. -/
def sampleSettlement : List (Move InvoiceCall InvoiceAnswer InvoiceMove) :=
  [.outside (.finance (.recordSale (TwoPayouts.allocation 1) (TwoPayouts.sale 1))),
    .outside (.finance (.createDraftApproval TwoPayouts.draftInput ⟨1, 1, 1, 1, 1⟩ 10)),
    .outside (.finance (.approveSettlement 1 1 11))]

def sampleSnapshot : Json :=
  .object [("provider", .string "LOGO_ISBASI"), ("vendorId", .string "v"),
    ("settlementApprovalSnapshot", .object []), ("settlementBillingSnapshot", .object []),
    ("settlementLineSnapshotSummary", .object []), ("executionSnapshotGuard", .object []),
    ("logoPayload", .object [])]

/-- Run `i` looks at the settlement and finds no record of it. -/
def samplePending (i : ℕ) : List (Move InvoiceCall InvoiceAnswer InvoiceMove) :=
  [.start i (.createPending 1), .run i (.snapshot (.ok sampleSnapshot)), .run i (.statement 12)]

def sampleInsert (i : ℕ) : Move InvoiceCall InvoiceAnswer InvoiceMove := .run i (.inserted 7 12)

def sampleLogoEnv : LogoEnv := ⟨true, some "test", none, some "u", some "k", some "n", some "p"⟩

/-- Run `i` executes the record as far as the login. -/
def sampleExecute (i : ℕ) : List (Move InvoiceCall InvoiceAnswer InvoiceMove) :=
  [.start i (.execute ⟨7, sampleLogoEnv⟩), .run i (.statement 13), .run i (.statement 13),
    .run i (.login (.ok ⟨true, false, false, none⟩))]

/-- Run `i` sends the request, and the provider creates an invoice. -/
def sampleSend (i : ℕ) : List (Move InvoiceCall InvoiceAnswer InvoiceMove) :=
  [.run i .sent, .outside (.takesEffect i)]

/-- Run `i` gets an answer with this status and records it. -/
def sampleOutcome (i status : ℕ) : List (Move InvoiceCall InvoiceAnswer InvoiceMove) :=
  [.run i (.result (.response ⟨status, .object [("id", .string "i9")], false⟩)),
    .run i (.statement 14), .run i (.statement 15)]

def sampleInvoiceStore : InvoiceStore := ⟨FinanceDb.empty, [], []⟩

lemma sampleInvoiceStore_new : sampleInvoiceStore.New := ⟨.start rfl, rfl, rfl⟩

/-- The invoice is created, and reconciled with the row that the provider shows for it. -/
theorem commissionInvoice_createdOnce_reconciled : ∃ w : InvoiceWorld,
    (w.shared.calls.map fun c => (c.record, c.effect)) = [(7, true)] ∧ w.shared.InvoicedOnce ∧
      EndedRecorded w := by
  have hrun : Succeeds (runActions (guarded (fun w m => Admissible w m ∧ Orderly Text.toLowerCase w m) ()
      (invoiceProgram Text.toLowerCase).step) (sampleSettlement ++ samplePending 0 ++
        [sampleInsert 0] ++ sampleExecute 1 ++ sampleSend 1 ++ sampleOutcome 1 200 ++
        [.run 1 (.statement 16), .run 1 (.rows (.ok [.object [("id", .string "i9")]])),
          .run 1 (.statement 17), .run 1 (.statement 18)]) (.init sampleInvoiceStore)) fun w =>
      (w.shared.calls.map fun c => (c.record, c.effect)) = [(7, true)] := by
    decide +kernel
  obtain ⟨w, hw, hcalls⟩ := succeeds_iff.mp hrun
  have honce := commissionInvoice_createdOnce
    (reachable_of_runGuarded (.start ⟨_, sampleInvoiceStore_new, rfl⟩) hw)
  exact ⟨w, hcalls, honce.1, honce.2.1⟩

/-- The provider answers with an error of the server after it has created the invoice.  The record
counts as failed, and its retry creates a second one. -/
theorem commissionInvoice_createdTwice : ∃ w : InvoiceWorld,
    (invoiceProgram Text.toLowerCase).Reaches InvoiceStore.New Admissible w ∧
      ¬w.shared.InvoicedOnce := by
  have hrun : Succeeds (runActions (guarded Admissible () (invoiceProgram Text.toLowerCase).step)
      (sampleSettlement ++ samplePending 0 ++ [sampleInsert 0] ++
        sampleExecute 1 ++ sampleSend 1 ++ sampleOutcome 1 500 ++
        sampleExecute 2 ++ [.run 2 (.statement 16), .run 2 (.statement 16)] ++ sampleSend 2)
      (.init sampleInvoiceStore)) fun w =>
      (w.shared.calls.map fun c => (c.run, c.record, c.effect)) = [(1, 7, true), (2, 7, true)] := by
    decide +kernel
  obtain ⟨w, hw, hcalls⟩ := succeeds_iff.mp hrun
  refine ⟨w, reachable_of_runGuarded (.start ⟨_, sampleInvoiceStore_new, rfl⟩) hw, fun honce => ?_⟩
  have hmem : ∀ run, (run, 7, true) ∈ (w.shared.calls.map fun c => (c.run, c.record, c.effect)) →
      ∃ c ∈ w.shared.calls, c.run = run ∧ c.record = 7 ∧ c.effect = true := by
    intro run hrun
    obtain ⟨c, hc, heq⟩ := List.mem_map.mp hrun
    obtain ⟨rfl, hrest⟩ := Prod.mk.inj heq
    obtain ⟨hrecord, heffect⟩ := Prod.mk.inj hrest
    exact ⟨c, hc, rfl, hrecord, heffect⟩
  obtain ⟨c, hc, hrun, hrecord, heffect⟩ := hmem 1 (by rw [hcalls]; decide)
  obtain ⟨c', hc', hrun', hrecord', heffect'⟩ := hmem 2 (by rw [hcalls]; decide)
  have hone := honce c hc c' hc' heffect heffect' (hrecord.trans hrecord'.symm)
  rw [hrun, hrun'] at hone
  exact absurd hone (by decide)

end VendorDashboard.Finance
