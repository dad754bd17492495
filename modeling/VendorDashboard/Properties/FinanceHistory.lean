import VendorDashboard.Properties.SalePayouts

/-!
# What later transactions keep

Where money was fixed, the books of a reachable state only grow: settlement lines and refunds keep
what they were written with, settlements keep their amounts, and a completed payout batch stays as
it is, with its lines (`FinanceDb.KeepsRecords`).
-/

namespace VendorDashboard.Finance

open Table Transaction Run

/-- The states that runs reach from `db`. -/
def LaterDb (db db' : FinanceDb) : Prop :=
  Reachable (fun s => s = db) (Commits step fun _ _ => True) db'

/-- All of a settlement but its status and what the status brings. -/
def SettlementApproval.frozen (a : SettlementApproval) : SettlementApproval :=
  { a with status := .draft, approvedAt := none, cancelledFromStatus := none }

/-- A draft is approved or cancelled, an approved settlement is cancelled, and nothing follows a
cancellation. -/
structure SettlementApproval.Becomes (a a' : SettlementApproval) : Prop where
  frozen : a'.frozen = a.frozen
  draft : a'.status = .draft → a' = a
  approved : a.status = .approved → a' = a ∨ a'.status = .cancelled
  cancelled : a.status = .cancelled → a' = a

lemma SettlementApproval.Becomes.refl (a : SettlementApproval) : a.Becomes a :=
  ⟨rfl, fun _ => rfl, fun _ => Or.inl rfl, fun _ => rfl⟩

lemma SettlementApproval.Becomes.trans {a b c : SettlementApproval} (h : a.Becomes b)
    (h' : b.Becomes c) : a.Becomes c where
  frozen := h'.frozen.trans h.frozen
  draft := fun hc => by
    obtain rfl := h'.draft hc
    exact h.draft hc
  approved := fun ha => by
    rcases h.approved ha with rfl | hb
    · exact h'.approved ha
    · obtain rfl := h'.cancelled hb
      exact Or.inr hb
  cancelled := fun ha => by
    obtain rfl := h.cancelled ha
    exact h'.cancelled ha

namespace FinanceDb

variable {db db' : FinanceDb}

/-- What `db'` still has of `db`. -/
structure KeepsRecords (db db' : FinanceDb) : Prop extends KeepsRefunds db db' where
  lines : db.settlementApprovalLine.map (·.content) <+: db'.settlementApprovalLine.map (·.content)
  approvals : ∀ a ∈ db.settlementApproval, ∃ a' ∈ db'.settlementApproval, a.Becomes a'
  completed : ∀ b ∈ db.payoutBatch, b.status.isCompleted = true →
    b ∈ db'.payoutBatch ∧ db'.batchLinesOf b.id = db.batchLinesOf b.id

lemma KeepsRecords.refl (db : FinanceDb) : db.KeepsRecords db :=
  { KeepsRefunds.refl db with
    lines := List.prefix_rfl
    approvals := fun a ha => ⟨a, ha, .refl a⟩
    completed := fun _ hb _ => ⟨hb, rfl⟩ }

lemma KeepsRecords.trans {db'' : FinanceDb} (h : db.KeepsRecords db')
    (h' : db'.KeepsRecords db'') : db.KeepsRecords db'' where
  toKeepsRefunds := h.toKeepsRefunds.trans h'.toKeepsRefunds
  lines := h.lines.trans h'.lines
  approvals := fun a ha => by
    obtain ⟨b, hb, hab⟩ := h.approvals a ha
    obtain ⟨c, hc, hbc⟩ := h'.approvals b hb
    exact ⟨c, hc, hab.trans hbc⟩
  completed := fun b hb hdone => by
    obtain ⟨hb', hlines⟩ := h.completed b hb hdone
    obtain ⟨hb'', hlines'⟩ := h'.completed b hb' hdone
    exact ⟨hb'', hlines'.trans hlines⟩

/-- A step that writes one settlement. -/
lemma becomes_of_updateWhere {id : Id} {d : SettlementApproval}
    {f : SettlementApproval → SettlementApproval} (h : db.Integrity)
    (hfind : db.findApproval id = some d) (hf : d.Becomes (f d))
    (happrovals : db'.settlementApproval =
      updateWhere (fun a => decide (a.id = id)) f db.settlementApproval) :
    ∀ a ∈ db.settlementApproval, ∃ a' ∈ db'.settlementApproval, a.Becomes a' := by
  intro a ha
  rw [happrovals]
  refine ⟨_, mem_updateWhere.mpr ⟨a, ha, rfl⟩, ?_⟩
  by_cases hid : a.id = id
  · obtain rfl : a = d := h.approval_key.eq ha (mem_of_findRow hfind)
      (hid.trans (key_of_findRow hfind).symm)
    rw [if_pos (by simpa using hid)]
    exact hf
  · rw [if_neg (by simpa using hid)]
    exact .refl a

/-- A completed batch stays: a step leaves completed batches alone or completes one in review. -/
lemma PayoutBooks.keepsCompleted {a : Action} (hb : db.PayoutBooks) (h : db.Integrity)
    (hs : Finance.step a db = .ok db') : ∀ b ∈ db.payoutBatch, b.status.isCompleted = true →
      b ∈ db'.payoutBatch ∧ db'.batchLinesOf b.id = db.batchLinesOf b.id := by
  intro b hmem hdone
  rcases hb.completions h hs with hk | ⟨c, d, p, hc⟩
  · have hgives : b.status.gives ≠ none := by
      cases hstatus : b.status with
      | paid | cashlessCompleted => simp [PayoutBatchStatus.gives]
      | _ =>
          rw [hstatus] at hdone
          cases hdone
    exact ⟨(hk.batches b hgives).mpr hmem, hk.lines b hmem hgives⟩
  · have hne : b.id ≠ c.id := by
      intro hid
      obtain rfl := h.batch_key.eq hmem hc.mem hid
      rw [hc.isReview] at hdone
      cases hdone
    refine ⟨(hc.batches b).mpr (Or.inl ⟨hmem, hne⟩), ?_⟩
    unfold batchLinesOf
    rw [hc.lines]

end FinanceDb

open FinanceDb in
/-- **Every transaction keeps the records.** -/
theorem FinanceDb.KeepsRecords.step {db db' : FinanceDb} {a : Action} (hb : db.PayoutBooks)
    (h : db.Integrity) (hs : Finance.step a db = .ok db') : db.KeepsRecords db' := by
  have hcompleted := hb.keepsCompleted h hs
  by_cases ha : a.keepsApprovals = true
  · have hk := KeepsHistory.step h ha hs
    exact
      { hk.toKeepsRefunds with
        lines := by rw [hk.lines]
        approvals := fun a ha => ⟨a, hk.approvals ▸ ha, .refl a⟩
        completed := hcompleted }
  -- the three writers of settlements
  cases a with
  | createDraftApproval input ids now =>
      have hw := createDraftApproval_writes h hs
      obtain ⟨totals, happrovals⟩ := hw.approvals
      obtain ⟨new, hlines, -⟩ := hw.lines
      exact
        { hw.toKeepsRefunds with
          lines := ⟨new, hlines.symm⟩
          approvals := fun a ha => ⟨a, happrovals ▸ List.mem_append_left _ ha, .refl a⟩
          completed := hcompleted }
  | approveSettlement id firstAdjustmentId now =>
      have hw := executeCanonicalSettlementApproval_writes hs
      obtain ⟨d, hfind, hdraft⟩ := hw.existing
      have hbecomes : d.Becomes (approvedRow now d) :=
        ⟨rfl, by simp [approvedRow], by simp [hdraft], by simp [hdraft]⟩
      exact
        { hw.toKeepsRefunds with
          lines := by rw [hw.lines]
          approvals := becomes_of_updateWhere h hfind hbecomes hw.approvals
          completed := hcompleted }
  | cancelSettlement id =>
      have hw := cancelSettlementApproval_writes h hs
      obtain ⟨d, hfind, hcancellable⟩ := hw.existing
      have hbecomes : d.Becomes (cancelledRow d) :=
        ⟨rfl, by simp [cancelledRow], fun _ => Or.inr rfl, fun hc => absurd hc hcancellable⟩
      exact
        { hw.toKeepsRefunds with
          lines := by rw [hw.lines]
          approvals := becomes_of_updateWhere h hfind hbecomes hw.approvals
          completed := hcompleted }
  | _ => exact absurd rfl ha

/-- A run goes on from a reachable state to reachable states. -/
lemma ReachableDb.later {db db' : FinanceDb} (h : ReachableDb db) (hl : LaterDb db db') :
    ReachableDb db' := by
  refine Reachable.invariant (fun s hs => hs ▸ h) ?_ hl
  rintro s t - hs ⟨a, -, ha⟩
  exact Reachable.step hs ⟨a, trivial, ha⟩

/-- **Money that was fixed stays fixed**: whatever transactions follow a reachable state, its
settlement lines, its refunds and the evidence of its ledger rows are kept, a settlement keeps its
amounts and never returns to an earlier status, and a completed payout batch is not changed. -/
theorem ReachableDb.records_kept {db db' : FinanceDb} (h : ReachableDb db) (hl : LaterDb db db') :
    db.KeepsRecords db' := by
  refine Reachable.invariant (P := fun t => db.KeepsRecords t) ?_ ?_ hl
  · rintro s rfl
    exact .refl s
  · rintro s t hr hk ⟨a, -, ha⟩
    have hs := h.later hr
    exact hk.trans (.step hs.payoutBooks hs.integrity ha)

/-- The first payout stays while the second is offered, reviewed and paid. -/
theorem records_kept_twoPayouts : ∃ db db', ReachableDb db ∧ LaterDb db db' ∧
    db.payoutBatch.map (·.status) = [.paid, .draft] ∧
    db'.payoutBatch.map (·.status) = [.paid, .paid] ∧ db.KeepsRecords db' := by
  have hrun : Succeeds (runActions step TwoPayouts.reserved FinanceDb.empty) fun db =>
      db.payoutBatch.map (·.status) = [.paid, .draft] ∧
        Succeeds (runActions step (TwoPayouts.finalized.drop TwoPayouts.reserved.length) db)
          fun db' => db'.payoutBatch.map (·.status) = [.paid, .paid] := by
    decide +kernel
  obtain ⟨db, hdb, hpaid, hrest⟩ := succeeds_iff.mp hrun
  obtain ⟨db', hdb', hpaid'⟩ := succeeds_iff.mp hrest
  have hreach : ReachableDb db := reachableWith_of_runActions (fun _ _ _ => trivial) hdb
  have hlater : LaterDb db db' := reachable_of_runActions (.start rfl) (fun _ _ _ => trivial) hdb'
  exact ⟨db, db', hreach, hlater, hpaid, hpaid', hreach.records_kept hlater⟩

end VendorDashboard.Finance
