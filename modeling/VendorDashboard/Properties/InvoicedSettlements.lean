import VendorDashboard.Properties.CommissionInvoices
import VendorDashboard.Properties.SettlementHistory

/-!
# An invoiced settlement stays approved

A record that is not cancelled blocks the cancellation of its settlement, and no function cancels a
record.  So from the moment an execution has read its record together with an approved settlement,
that settlement is not cancelled any more: no request is sent for a cancelled one.

The creation of a record looks at the settlement earlier than it inserts the record, and a
cancellation between the two finds nothing to block it (`cancelledSettlement_invoiced`).  When each
record is inserted while its settlement is not cancelled, no cancelled settlement has a record that
is pending, created or unknown (`invoicedSettlement_staysApproved`).
-/

namespace VendorDashboard.Finance

open Table Transaction Run Interleaving

variable {toLowerCase : String → String}

/-! ## The condition and the property -/

/-- The settlement is cancelled. -/
def FinanceDb.SettlementCancelled (db : FinanceDb) (id : Id) : Prop :=
  ∃ a ∈ db.findApproval id, a.status = .cancelled

instance (db : FinanceDb) (id : Id) : Decidable (db.SettlementCancelled id) :=
  inferInstanceAs (Decidable (∃ _ ∈ _, _))

/-- A record is inserted while its settlement is not cancelled. -/
def InvoiceProcess.InsertsInTime (s : InvoiceStore) : InvoiceProcess → Prop
  | .createPending settlementApprovalId (.insert ..) =>
      ¬s.finance.SettlementCancelled settlementApprovalId
  | _ => True

instance (s : InvoiceStore) (p : InvoiceProcess) : Decidable (p.InsertsInTime s) := by
  unfold InvoiceProcess.InsertsInTime
  split <;> infer_instance

def InsertsInTime (w : InvoiceWorld) : Move InvoiceCall InvoiceAnswer InvoiceMove → Prop
  | .run i (.inserted ..) => ∀ p ∈ w.process i, p.InsertsInTime w.shared
  | _ => True

instance (w : InvoiceWorld) (m : Move InvoiceCall InvoiceAnswer InvoiceMove) :
    Decidable (InsertsInTime w m) :=
  match m with
  | .run i (.inserted ..) =>
      inferInstanceAs (Decidable (∀ p ∈ w.process i, p.InsertsInTime w.shared))
  | .start .. | .outside _ | .run _ (.statement _) | .run _ .failed | .run _ (.lost _)
  | .run _ (.login _) | .run _ .sent | .run _ (.result _) | .run _ (.rows _)
  | .run _ (.snapshot _) => .isTrue trivial

/-- No cancelled settlement has a record that is pending, created or unknown. -/
def InvoiceStore.InvoicedNotCancelled (s : InvoiceStore) : Prop :=
  ∀ r ∈ s.records, r.status ∈ [InvoiceStatus.pending, .created, .unknown] →
    ¬s.finance.SettlementCancelled r.settlementApprovalId

/-- No execution is about to send a request for a cancelled settlement. -/
def SendsForApproved (w : InvoiceWorld) : Prop :=
  ∀ i input record, w.process i = some (.execute input (.create record)) →
    ∀ r ∈ w.shared.records, r.id = input.settlementCommissionInvoiceId →
      ¬w.shared.finance.SettlementCancelled r.settlementApprovalId

/-! ## Settlements -/

namespace FinanceDb

/-- The settlement exists and is not cancelled. -/
def SettlementLive (db : FinanceDb) (id : Id) : Prop :=
  ∃ a, db.findApproval id = some a ∧ a.status ≠ .cancelled

variable {db db' : FinanceDb} {a : Action} {id : Id}

lemma SettlementLive.not_cancelled (h : db.SettlementLive id) : ¬db.SettlementCancelled id := by
  rintro ⟨b, hb, hcancelled⟩
  obtain ⟨a, ha, hlive⟩ := h
  obtain rfl := Option.mem_unique ha hb
  exact hlive hcancelled

lemma settlementLive_of_not_cancelled (hexists : (db.findApproval id).isSome)
    (h : ¬db.SettlementCancelled id) : db.SettlementLive id := by
  obtain ⟨a, ha⟩ := Option.isSome_iff_exists.mp hexists
  exact ⟨a, ha, fun hcancelled => h ⟨a, ha, hcancelled⟩⟩

lemma findApproval_updateWhere {p : SettlementApproval → Bool}
    {f : SettlementApproval → SettlementApproval} (hf : ∀ x, (f x).id = x.id)
    (h : db'.settlementApproval = updateWhere p f db.settlementApproval) :
    db'.findApproval id = (db.findApproval id).map fun x => if p x then f x else x := by
  unfold findApproval
  rw [h, updateWhere, findRow_map]
  intro x
  split
  · exact hf x
  · rfl

/-- The settlements after a transaction: they stay, and only an unblocked cancellation cancels
one. -/
lemma findApproval_step (h : db.Integrity) (hs : step a db = .ok db') {x : SettlementApproval}
    (hx : db.findApproval id = some x) : ∃ x', db'.findApproval id = some x' ∧
      (x'.status = .cancelled → x.status = .cancelled ∨
        db.findFirstCancellationGuard id = none) := by
  have hsame : db'.settlementApproval = db.settlementApproval → ∃ x',
      db'.findApproval id = some x' ∧ (x'.status = .cancelled → x.status = .cancelled ∨
        db.findFirstCancellationGuard id = none) := by
    intro heq
    refine ⟨x, ?_, .inl⟩
    unfold findApproval
    rw [heq]
    exact hx
  by_cases hkeeps : a.keepsApprovals = true
  · exact hsame (KeepsHistory.step h hkeeps hs).approvals
  · cases a with
    | createDraftApproval input ids now =>
        obtain ⟨totals, hrows⟩ := (createDraftApproval_writes h hs).approvals
        refine ⟨x, ?_, .inl⟩
        unfold findApproval findRow at hx ⊢
        rw [hrows, List.find?_append, hx]
        rfl
    | approveSettlement approvalId firstAdjustmentId now =>
        have hrows := (executeCanonicalSettlementApproval_writes hs).approvals
        have hid : ∀ x, (approvedRow now x).id = x.id := fun _ => rfl
        refine ⟨_, by rw [findApproval_updateWhere hid hrows, hx]; rfl, fun hc => ?_⟩
        beta_reduce at hc
        split at hc
        · cases hc
        · exact .inl hc
    | cancelSettlement cancelledId =>
        have hrows := (cancelSettlementApproval_writes h hs).approvals
        obtain ⟨-, -, -, hguard, -⟩ := cancelSettlementApproval_ok hs
        have hsame : ∀ x, (cancelledRow x).id = x.id := fun _ => rfl
        refine ⟨_, by rw [findApproval_updateWhere hsame hrows, hx]; rfl, fun hc => ?_⟩
        beta_reduce at hc
        split at hc
        · rename_i hid
          have hkey : x.id = id := key_of_findRow hx
          rw [← hkey, of_decide_eq_true hid]
          exact .inr hguard
        · exact .inl hc
    | _ => exact absurd rfl hkeeps

/-- **A settlement with a record stays live.** -/
lemma SettlementLive.step (h : db.Integrity) (hs : Finance.step a db = .ok db')
    (hlive : db.SettlementLive id)
    (hinvoice : ∃ i ∈ db.settlementCommissionInvoice, i.settlementApprovalId = id ∧
      i.status ≠ .cancelled) : db'.SettlementLive id := by
  obtain ⟨x, hx, hnot⟩ := hlive
  obtain ⟨x', hx', hcancelled⟩ := findApproval_step h hs hx
  refine ⟨x', hx', fun hc => ?_⟩
  rcases hcancelled hc with hc | hguard
  · exact hnot hc
  · -- the record blocks the cancellation
    obtain ⟨i, hi, hid, hstatus⟩ := hinvoice
    have hany : (db.settlementCommissionInvoice.any fun i =>
        decide (i.settlementApprovalId = id) && decide (i.status ≠ .cancelled)) = true :=
      List.any_eq_true.mpr ⟨i, hi, by simp [hid, hstatus]⟩
    unfold findFirstCancellationGuard at hguard
    rw [hany, if_pos rfl] at hguard
    split at hguard <;> cases hguard

end FinanceDb

/-! ## The invariant -/

/-- The invariant of the store; in a run whose records are inserted in time their settlements are
live. -/
structure InvoiceStore.Blocks (inTime : Prop) (s : InvoiceStore) : Prop where
  finance : ReachableDb s.finance
  record_key : KeyUnique CommissionInvoiceRecord.id s.records
  notCancelled : ∀ r ∈ s.records, r.status ≠ .cancelled
  live : inTime → ∀ r ∈ s.records, s.finance.SettlementLive r.settlementApprovalId

/-- The record exists, and its settlement is live. -/
def InvoiceStore.RecordLive (s : InvoiceStore) (id : Id) : Prop :=
  s.HasRecord id fun r => s.finance.SettlementLive r.settlementApprovalId

def InvoiceProcess.Approved (s : InvoiceStore) : InvoiceProcess → Prop
  | .execute input position =>
      match position with
      | .findActive _ | .login _ | .readForRetry _ | .incrementRetry _ | .create _ =>
          s.RecordLive input.settlementCommissionInvoiceId
      | _ => True
  | .createPending settlementApprovalId position =>
      match position with
      | .findActive .. | .insert .. => (s.finance.findApproval settlementApprovalId).isSome
      | _ => True
  | _ => True

namespace InvoiceStore

variable {s s' : InvoiceStore} {inTime : Prop} {id : Id}

lemma db_reachable (h : ReachableDb s.finance) : ReachableDb s.db := by
  refine .step h ⟨.setCommissionInvoices (s.records.map CommissionInvoiceRecord.toInvoice), trivial, ?_⟩
  rfl

/-- What the calls change of the records: their settlements and their number of cancelled ones
stay. -/
structure KeepsSettlements (s s' : InvoiceStore) : Prop where
  finance : s'.finance = s.finance
  key : KeyUnique CommissionInvoiceRecord.id s.records →
    KeyUnique CommissionInvoiceRecord.id s'.records
  forth : ∀ r ∈ s.records, ∃ r' ∈ s'.records, r'.id = r.id ∧
    r'.settlementApprovalId = r.settlementApprovalId
  back : ∀ r' ∈ s'.records, ∃ r ∈ s.records, r.settlementApprovalId = r'.settlementApprovalId ∧
    (r.status ≠ .cancelled → r'.status ≠ .cancelled)

lemma KeepsSettlements.of_eq (hfinance : s'.finance = s.finance) (hrecords : s'.records = s.records) :
    KeepsSettlements s s' := by
  refine ⟨hfinance, ?_, ?_, ?_⟩
  all_goals rw [hrecords]
  · exact id
  · exact fun r hr => ⟨r, hr, rfl, rfl⟩
  · exact fun r hr => ⟨r, hr, rfl, id⟩

lemma KeepsSettlements.updateRecord {f : CommissionInvoiceRecord → CommissionInvoiceRecord}
    (hid : ∀ r, (f r).id = r.id)
    (hsettlement : ∀ r, (f r).settlementApprovalId = r.settlementApprovalId)
    (hstatus : ∀ r, r.status ≠ .cancelled → (f r).status ≠ .cancelled) :
    KeepsSettlements s (s.updateRecord id f) := by
  refine ⟨rfl, updateRecord_key hid, fun r hr => ?_, fun r' hr' => ?_⟩
  · by_cases h : r.id = id
    · exact ⟨f r, mem_updateRecord.mpr ⟨r, hr, .inl ⟨h, rfl⟩⟩, hid r, hsettlement r⟩
    · exact ⟨r, mem_updateRecord.mpr ⟨r, hr, .inr ⟨h, rfl⟩⟩, rfl, rfl⟩
  · obtain ⟨r, hr, ⟨-, rfl⟩ | ⟨-, rfl⟩⟩ := mem_updateRecord.mp hr'
    · exact ⟨r, hr, (hsettlement r).symm, hstatus r⟩
    · exact ⟨r', hr, rfl, fun h => h⟩

lemma KeepsSettlements.congr {t : InvoiceStore} (h : KeepsSettlements s s')
    (hfinance : t.finance = s'.finance) (hrecords : t.records = s'.records) : KeepsSettlements s t := by
  obtain ⟨hf, hk, hforth, hback⟩ := h
  rw [← hrecords] at hk hforth hback
  exact ⟨hfinance.trans hf, hk, hforth, hback⟩

lemma KeepsSettlements.write (write : RecordWrite) (now : Instant) :
    KeepsSettlements s (s.write id write now) := by
  refine .updateRecord (write.apply_id now) (write.apply_settlementApprovalId now) fun r hr => ?_
  cases write <;> first | exact hr | exact fun h => by cases h

lemma Blocks.keeps (h : s.Blocks inTime) (hk : KeepsSettlements s s') : s'.Blocks inTime where
  finance := hk.finance ▸ h.finance
  record_key := hk.key h.record_key
  notCancelled := by
    intro r' hr'
    obtain ⟨r, hr, -, hstatus⟩ := hk.back r' hr'
    exact hstatus (h.notCancelled r hr)
  live := by
    intro hin r' hr'
    obtain ⟨r, hr, hsettlement, -⟩ := hk.back r' hr'
    rw [hk.finance, ← hsettlement]
    exact h.live hin r hr

lemma RecordLive.keeps (h : s.RecordLive id) (hk : KeepsSettlements s s') : s'.RecordLive id := by
  obtain ⟨r, hr, hid, hlive⟩ := h
  obtain ⟨r', hr', hid', hsettlement⟩ := hk.forth r hr
  refine ⟨r', hr', hid'.trans hid, ?_⟩
  simp only [hk.finance, hsettlement]
  exact hlive

end InvoiceStore

namespace InvoiceProcess

open InvoiceStore

variable {ok : Prop} {i : ℕ} {s s' : InvoiceStore} {p q : InvoiceProcess} {answer : InvoiceAnswer}

/-- A call inserts a record of the settlement it was called for, or keeps all settlements. -/
lemma Writes.settlements (h : Writes ok i s p s') : KeepsSettlements s s' ∨
    ∃ settlementApprovalId vendorId snapshot id now,
      p = .createPending settlementApprovalId (.insert vendorId snapshot) ∧
        s.insertRecord (pendingRecord id settlementApprovalId vendorId snapshot now) = some s' := by
  cases h with
  | nothing => exact .inl (.of_eq rfl rfl)
  | retried now => exact .inl (.write _ now)
  | called h => exact .inl (.of_eq rfl rfl)
  | answered h => exact .inl (.of_eq rfl rfl)
  | recorded now h => exact .inl ((KeepsSettlements.write _ now).congr rfl rfl)
  | reconciled now => exact .inl (.updateRecord (fun _ => rfl) (fun _ => rfl) fun _ h => h)
  | resolved now h =>
      unfold InvoiceStore.resolve
      split
      · exact .inl ((KeepsSettlements.write _ now).congr rfl rfl)
      · exact .inl (.write _ now)
  | inserted h => exact .inr ⟨_, _, _, _, _, rfl, h⟩

lemma Approved.keeps (h : p.Approved s) (hk : KeepsSettlements s s') : p.Approved s' := by
  cases p with
  | execute input position =>
      cases position <;> first | exact trivial | exact RecordLive.keeps h hk
  | resolve id write position => trivial
  | createPending settlementApprovalId position =>
      cases position <;> first | exact trivial | (simp only [Approved, hk.finance]; exact h)

lemma Approved.insert {r : CommissionInvoiceRecord} (h : p.Approved s)
    (hinsert : s.insertRecord r = some s') : p.Approved s' := by
  obtain ⟨-, rfl⟩ := insertRecord_ok hinsert
  have hlive : ∀ id, s.RecordLive id → RecordLive { s with records := s.records ++ [r] } id := by
    rintro id ⟨r', hr', hid, hlive⟩
    exact ⟨r', List.mem_append_left _ hr', hid, hlive⟩
  cases p with
  | execute input position =>
      cases position <;> first | exact trivial | exact hlive _ h
  | resolve id write position => trivial
  | createPending settlementApprovalId position =>
      cases position <;> first | exact trivial | exact h

/-- A step of a call keeps the invariant of the store. -/
lemma Writes.blocks {inTime : Prop} (hs : s.Blocks inTime) (hp : p.Approved s)
    (hin : inTime → p.InsertsInTime s) (h : Writes ok i s p s') : s'.Blocks inTime := by
  rcases h.settlements with hk | ⟨settlementApprovalId, vendorId, snapshot, id, now, rfl, hinsert⟩
  · exact hs.keeps hk
  · obtain ⟨hfresh, rfl⟩ := insertRecord_ok hinsert
    refine ⟨hs.finance, ?_, ?_, fun hstrict r hr => ?_⟩
    · refine keyUnique_append.mpr ⟨hs.record_key, by simp [KeyUnique], fun r hr r' hr' => ?_⟩
      obtain rfl := List.mem_singleton.mp hr'
      exact hfresh r hr
    · intro r hr
      rcases List.mem_append.mp hr with hr | hr
      · exact hs.notCancelled r hr
      · obtain rfl := List.mem_singleton.mp hr
        exact fun h => by cases h
    · rcases List.mem_append.mp hr with hr | hr
      · exact hs.live hstrict r hr
      · obtain rfl := List.mem_singleton.mp hr
        exact FinanceDb.settlementLive_of_not_cancelled hp (hin hstrict)

lemma executionBlockers_nil {record : CommissionInvoiceRecord} {approval : Option SettlementApproval}
    (h : executionBlockers record approval = []) : approval.map (·.status) = some .approved := by
  unfold executionBlockers at h
  split at h
  · cases h
  · split at h
    · cases h
    · split at h
      · cases h
      · rename_i happroved
        exact not_not.mp happroved

/-- The record is read together with an approved settlement. -/
lemma afterReadRecord_live {id : Id} (input : ExecuteInput) (hid : input.settlementCommissionInvoiceId = id) :
    Approved s (.execute input (afterReadRecord (s.findRecord id)
      ((s.findRecord id).bind fun r => s.finance.findApproval r.settlementApprovalId))) := by
  cases hfind : s.findRecord id with
  | none => exact trivial
  | some record =>
      simp only [afterReadRecord, Option.bind_some]
      split
      · rename_i hnil
        obtain ⟨x, hx, hstatus⟩ := Option.map_eq_some_iff.mp (executionBlockers_nil hnil)
        refine ⟨record, mem_of_findRow hfind, (key_of_findRow hfind).trans hid.symm, x, hx, ?_⟩
        rw [hstatus]
        decide
      · exact trivial

/-- A step of a call keeps what is known of it. -/
lemma run_approved (hp : p.Approved s) (h : p.run toLowerCase i answer s = some (s', q)) :
    q.Approved s' := by
  have hwrites : Writes False i s p s' := run_writes (fun h => h.elim) h
  have hp' : p.Approved s' := by
    rcases hwrites.settlements with hk | ⟨_, _, _, _, _, -, hinsert⟩
    · exact hp.keeps hk
    · exact hp.insert hinsert
  cases p with
  | resolve id write position =>
      obtain ⟨⟨s₁, position'⟩, -, heq⟩ := Option.map_eq_some_iff.mp h
      obtain ⟨rfl, rfl⟩ := Prod.mk.inj heq
      trivial
  | createPending settlementApprovalId position =>
      obtain ⟨⟨s₁, position'⟩, hrun, heq⟩ := Option.map_eq_some_iff.mp h
      obtain ⟨rfl, rfl⟩ := Prod.mk.inj heq
      unfold PendingPosition.run at hrun
      split at hrun
      case h_1 built =>
        simp only [Option.some.injEq, Prod.mk.injEq] at hrun
        obtain ⟨rfl, rfl⟩ := hrun
        unfold afterBuildSnapshot
        split
        · exact trivial
        · rename_i happroved
          have hsome : (s.finance.findApproval settlementApprovalId).isSome := by
            obtain ⟨x, hx, -⟩ := Option.map_eq_some_iff.mp (not_not.mp happroved)
            rw [hx]
            rfl
          repeat' split
          all_goals first | exact trivial | exact hsome
      case h_2 vendorId snapshot now =>
        simp only [Option.some.injEq, Prod.mk.injEq] at hrun
        obtain ⟨rfl, rfl⟩ := hrun
        split
        · exact trivial
        · exact hp'
      case h_3 vendorId snapshot id now =>
        split at hrun
        all_goals
          simp only [Option.some.injEq, Prod.mk.injEq] at hrun
          obtain ⟨rfl, rfl⟩ := hrun
          exact trivial
      all_goals simp only [Option.some.injEq, Prod.mk.injEq, reduceCtorEq] at hrun
      all_goals
        obtain ⟨rfl, rfl⟩ := hrun
        exact trivial
  | execute input position =>
      obtain ⟨⟨s₁, position'⟩, hrun, heq⟩ := Option.map_eq_some_iff.mp h
      obtain ⟨rfl, rfl⟩ := Prod.mk.inj heq
      unfold ExecutePosition.run at hrun
      split at hrun
      all_goals simp only [Option.some.injEq, Prod.mk.injEq, reduceCtorEq] at hrun
      all_goals obtain ⟨rfl, rfl⟩ := hrun
      case h_1 => exact afterReadRecord_live input rfl
      case h_2 record now =>
        unfold afterFindActive
        repeat' split
        all_goals first | exact trivial | exact hp'
      case h_3 record session =>
        unfold afterLogin
        repeat' split
        all_goals first | exact trivial | exact hp'
      case h_4 record now =>
        split
        · exact hp'
        · exact trivial
      case h_5 record now => exact hp'
      case h_9 outcome now =>
        split
        · exact trivial
        · cases outcome <;> exact trivial
      case h_10 outcome => cases outcome <;> exact trivial
      case h_11 outcome now => cases outcome <;> exact trivial
      case h_12 outcome now => cases outcome <;> exact trivial
      case h_13 outcome => cases outcome <;> exact trivial
      case h_14 now =>
        unfold afterReadForPreview
        split <;> exact trivial
      case h_18 reconciliation now =>
        unfold InvoiceReconciliation.thrown
        repeat' split
        all_goals exact trivial
      case h_19 reconciliation =>
        unfold InvoiceReconciliation.thrown
        split <;> exact trivial
      case h_21 reconciliation existing now =>
        unfold InvoiceReconciliation.thrown
        split <;> exact trivial
      case h_22 reconciliation existing =>
        unfold InvoiceReconciliation.thrown
        split <;> exact trivial
      all_goals exact trivial

end InvoiceProcess

/-! ## Runs -/

open InvoiceStore InvoiceProcess

/-- A settlement with a record stays live under the finance transactions. -/
lemma InvoiceStore.Blocks.live_step {inTime : Prop} {s : InvoiceStore} {a : Action}
    {finance : FinanceDb} (h : s.Blocks inTime) (hs : step a s.db = .ok finance)
    {r : CommissionInvoiceRecord} (hr : r ∈ s.records)
    (hlive : s.finance.SettlementLive r.settlementApprovalId) :
    finance.SettlementLive r.settlementApprovalId := by
  have hdb : s.db.SettlementLive r.settlementApprovalId := hlive
  exact hdb.step (db_reachable h.finance).integrity hs
    ⟨r.toInvoice, List.mem_map_of_mem hr, rfl, h.notCancelled r hr⟩

/-- **The invariant of all runs**, and of those whose records are inserted in time. -/
theorem invoiceProgram_blocks (inTime : Prop) : (invoiceProgram toLowerCase).Sound InvoiceStore.New
    (fun w m => inTime → InsertsInTime w m) (InvoiceStore.Blocks inTime) fun _ s p => p.Approved s where
  init := by
    rintro ⟨finance, records, calls⟩ ⟨hfinance, rfl, rfl⟩
    exact ⟨hfinance, .nil _, fun r hr => by simp at hr, fun _ r hr => by simp at hr⟩
  start := by
    intro i s input _
    cases input with
    | execute input => exact trivial
    | resolveUnknownAsCreated id identifiers reconciledBy evidence => exact trivial
    | resolveUnknownAsFailed id failureCode failureMessage reconciledBy evidence => exact trivial
    | createPending settlementApprovalId => exact trivial
  run := by
    intro w i answer p s q hw hp hok hrun
    have happroved := hw.2 i p hp
    have hwrites : Writes False i w.shared p s := run_writes (fun h => h.elim) hrun
    refine ⟨?_, run_approved happroved hrun⟩
    by_cases hinserted : ∃ id now, answer = .inserted id now
    · obtain ⟨id, now, rfl⟩ := hinserted
      exact hwrites.blocks hw.1 happroved fun hin => hok hin p hp
    · -- without an insertion all settlements are kept
      rcases hwrites.settlements with hk | ⟨_, _, _, _, _, rfl, hinsert⟩
      · exact hw.1.keeps hk
      · obtain ⟨⟨s₁, position'⟩, hposition, heq⟩ := Option.map_eq_some_iff.mp hrun
        unfold PendingPosition.run at hposition
        split at hposition
        case h_3 => exact absurd ⟨_, _, rfl⟩ hinserted
        all_goals simp only [Option.some.injEq, Prod.mk.injEq, reduceCtorEq] at hposition
        all_goals
          obtain ⟨rfl, -⟩ := hposition
          obtain ⟨rfl, -⟩ := Prod.mk.inj heq
          exact hw.1
  interference := by
    intro w i answer p s q hw hp hok hrun j r hj hr
    have hwrites : Writes False i w.shared p s := run_writes (fun h => h.elim) hrun
    rcases hwrites.settlements with hk | ⟨_, _, _, _, _, -, hinsert⟩
    · exact (hw.2 j r hr).keeps hk
    · exact (hw.2 j r hr).insert hinsert
  outside := by
    intro w e s hw _ he
    cases e with
    | takesEffect run =>
        obtain rfl := Option.some.inj he
        have hk : KeepsSettlements w.shared (w.shared.takesEffect run) := .of_eq rfl rfl
        exact ⟨hw.1.keeps hk, fun j r hr => (hw.2 j r hr).keeps hk⟩
    | finance a =>
        simp only [invoiceProgram, InvoiceMove.apply] at he
        split at he
        · obtain ⟨finance, hstep, rfl⟩ := Option.map_eq_some_iff.mp he
          have hok : step a w.shared.db = .ok finance := by
            cases hresult : step a w.shared.db with
            | error error =>
                rw [hresult] at hstep
                cases hstep
            | ok db =>
                rw [hresult] at hstep
                rw [Option.some.inj hstep]
          refine ⟨⟨?_, hw.1.record_key, hw.1.notCancelled, fun hin r hr =>
            hw.1.live_step hok hr (hw.1.live hin r hr)⟩, fun j r hr => ?_⟩
          · exact .step (db_reachable hw.1.finance) ⟨a, trivial, hok⟩
          · have happroved := hw.2 j r hr
            have hlive : ∀ id, w.shared.RecordLive id →
                RecordLive { w.shared with finance } id := by
              rintro id ⟨record, hrecord, hid, hlive⟩
              exact ⟨record, hrecord, hid, hw.1.live_step hok hrecord hlive⟩
            cases r with
            | execute input position =>
                cases position <;> first | exact trivial | exact hlive _ happroved
            | resolve id write position => exact trivial
            | createPending settlementApprovalId position =>
                have hsome : (w.shared.finance.findApproval settlementApprovalId).isSome →
                    (finance.findApproval settlementApprovalId).isSome := by
                  intro hsome
                  obtain ⟨x, hx⟩ := Option.isSome_iff_exists.mp hsome
                  have hx' : w.shared.db.findApproval settlementApprovalId = some x := hx
                  obtain ⟨x', hfound, -⟩ := FinanceDb.findApproval_step
                    (db_reachable hw.1.finance).integrity hok hx'
                  rw [hfound]
                  rfl
                cases position <;> first | exact trivial | exact hsome happroved
        · cases he

/-- In every run no execution is about to send a request for a cancelled settlement. -/
lemma sendsForApproved {w : InvoiceWorld}
    (hw : (invoiceProgram toLowerCase).Reaches InvoiceStore.New (fun _ _ => True) w) : SendsForApproved w := by
  have hsound := (invoiceProgram_blocks False).holds
    (hw.mono fun _ _ _ hfalse => hfalse.elim)
  intro i input record hp r hr hid
  obtain ⟨r', hr', hid', hlive⟩ := hsound.2 i _ hp
  obtain rfl := hsound.1.record_key.eq hr hr' (hid.trans hid'.symm)
  exact hlive.not_cancelled

/-- **An invoiced settlement stays approved.**  In every run whose records are inserted while their
settlement is not cancelled, no cancelled settlement has a record that is pending, created or
unknown, and no request is sent for a cancelled settlement. -/
theorem invoicedSettlement_staysApproved {w : InvoiceWorld}
    (hw : (invoiceProgram toLowerCase).Reaches InvoiceStore.New InsertsInTime w) :
    w.shared.InvoicedNotCancelled ∧ SendsForApproved w := by
  have hsound := (invoiceProgram_blocks True).holds (hw.mono fun _ _ hok _ => hok)
  refine ⟨fun r hr _ => (hsound.1.live trivial r hr).not_cancelled, ?_⟩
  exact sendsForApproved (hw.mono fun _ _ _ => trivial)

/-! ### A cancellation between the look at the settlement and the insertion -/

/-- The record is inserted and executed, and the cancellation is refused. -/
theorem invoicedSettlement_staysApproved_executed : ∃ w : InvoiceWorld,
    (w.shared.records.map (·.status)) = [.created] ∧
      ¬ Succeeds (step (.cancelSettlement 1) w.shared.db) (fun _ => True) ∧
      w.shared.InvoicedNotCancelled ∧ SendsForApproved w := by
  have hrun : Succeeds (runActions (guarded InsertsInTime () (invoiceProgram Text.toLowerCase).step)
      (sampleSettlement ++ samplePending 0 ++ [sampleInsert 0] ++ sampleExecute 1 ++ sampleSend 1 ++
        sampleOutcome 1 200) (.init sampleInvoiceStore)) fun w =>
      (w.shared.records.map (·.status)) = [.created] ∧
        ¬ Succeeds (step (.cancelSettlement 1) w.shared.db) (fun _ => True) := by
    decide +kernel
  obtain ⟨w, hw, hcreated, hrefused⟩ := succeeds_iff.mp hrun
  exact ⟨w, hcreated, hrefused, invoicedSettlement_staysApproved
    (reachable_of_runGuarded (.start ⟨_, sampleInvoiceStore_new, rfl⟩) hw)⟩

/-- The settlement is cancelled after the call has looked at it; then the record is inserted. -/
theorem cancelledSettlement_invoiced : ∃ w : InvoiceWorld,
    (invoiceProgram Text.toLowerCase).Reaches InvoiceStore.New (fun _ _ => True) w ∧
      ¬w.shared.InvoicedNotCancelled := by
  have hrun : Succeeds (runActions (invoiceProgram Text.toLowerCase).step
      (sampleSettlement ++ samplePending 0 ++ [.outside (.finance (.cancelSettlement 1)),
        sampleInsert 0]) (.init sampleInvoiceStore)) fun w =>
      ∃ r ∈ w.shared.records, r.status ∈ [InvoiceStatus.pending, .created, .unknown] ∧
        w.shared.finance.SettlementCancelled r.settlementApprovalId := by
    decide +kernel
  obtain ⟨w, hw, r, hr, hstatus, hcancelled⟩ := succeeds_iff.mp hrun
  exact ⟨w, reachable_of_runActions (.start ⟨_, sampleInvoiceStore_new, rfl⟩)
    (fun _ _ _ => trivial) hw, fun h => h r hr hstatus hcancelled⟩

end VendorDashboard.Finance
