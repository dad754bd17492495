import VendorDashboard.Returns.AbandonedReturnAutoCancel

/-!
# What a run of the auto-cancel does to returns

A run cancels a return only if its records were abandoned when it last read them, leaves what
others record about them, and marks the records after Shopify has cancelled the return.  Records
that are cancelled already are not looked at (`cancelled_sibling_refunded`), and the snapshot and
the status of a record are written from the copy that was read (`shipment_overwritten`).
-/

namespace VendorDashboard.ReturnAutoCancel

open Finance (Id Instant)
open Interleaving Run Table Text Transaction

abbrev AutoCancelWorld := World ReturnStore AutoCancelCall

abbrev AutoCancelMove := Move RunInput AutoCancelAnswer ReturnMove

/-! ## What is claimed -/

/-- Nothing has happened to the approved return for the days of the policy. -/
structure Abandoned (now : Instant) (autoCancelDays : ℕ) (r : ReturnAutoCancelRecord) : Prop where
  approved : isApprovedLocalReturn r.record = true
  old : autoCancelDays * DAY_MS ≤ now - getApprovalTimestamp r.record
  refundId : present r.record.sourceShopifyRefundId = none
  refundRecords : r.refundRecords = []
  financeEntries : r.financeEntries = []
  received : r.record.vendorReceivedAt = none
  decision : present r.record.vendorDecision = none
  shipment : hasLocalReturnShipmentEvidence r.record = false

/-- A record of a return that may be cancelled: one that is cancelled already is not looked at. -/
def MayCancel (now : Instant) (autoCancelDays : ℕ) (r : ReturnAutoCancelRecord) : Prop :=
  r.record.returnRequestSource = some "shopify_return_request" ∧
    ((isApprovedLocalReturn r.record = false ∧ isCancelledLocalReturn r.record = true) ∨
      Abandoned now autoCancelDays r)

/-- What others record about a return: the receipt, the decision, the refund and the shipment. -/
structure KeepsFacts (r r' : ReturnRecord) : Prop where
  id : r'.id = r.id
  received : r'.vendorReceivedAt = r.vendorReceivedAt
  decision : r'.vendorDecision = r.vendorDecision
  refundId : r'.sourceShopifyRefundId = r.sourceShopifyRefundId
  shipmentId : r'.returnProviderShipmentId = r.returnProviderShipmentId
  trackingNumber : r'.returnTrackingNumber = r.returnTrackingNumber
  label : r'.returnLabel = r.returnLabel

/-- The rows keep what others recorded, and the refunds are the same. -/
structure StoreKeepsFacts (s s' : ReturnStore) : Prop where
  records : List.Forall₂ KeepsFacts s.returnRecord s'.returnRecord
  refundRecord : s'.refundRecord = s.refundRecord
  refundEntries : s'.refundEntries = s.refundEntries

/-- The record `id` is there, and cancelled. -/
def RecordCancelled (s : ReturnStore) (id : Id) : Prop :=
  id ∈ s.returnRecord.map ReturnRecord.id ∧ ∀ r ∈ s.returnRecord, r.id = id →
    r.returnLifecycleStatus = some "cancelled" ∧ r.status = "cancelled"

/-- The move of the surroundings does not write the record. -/
def LeavesRecord (id : Id) (w : AutoCancelWorld) : AutoCancelMove → Prop
  | .outside e => ∀ r ∈ w.shared.returnRecord, r.id = id → e.writes r = false
  | _ => True

/-- The results of the run so far. -/
def AutoCancelCall.results : AutoCancelCall → List AutoCancelResult
  | .candidates _ => []
  | .related _ _ run => run.results
  | .fetch _ _ _ run => run.results
  | .cancel _ _ _ _ run => run.results
  | .persist _ _ _ run => run.results
  | .mark _ _ _ _ run => run.results
  | .ended run => run.results

/-! ## The gate -/

lemma present_isSome_eq_false {value : Option String} :
    (present value).isSome = false ↔ present value = none := by
  rw [Option.isSome_eq_false_iff, Option.isNone_iff_eq_none]

/-- The record is not skipped if it may be cancelled. -/
lemma getLocalSkipReason_eq_none_iff {r : ReturnAutoCancelRecord} {now : Instant}
    {autoCancelDays : ℕ} :
    getLocalSkipReason r now autoCancelDays true = none ↔ MayCancel now autoCancelDays r := by
  unfold getLocalSkipReason MayCancel
  by_cases hsource : r.record.returnRequestSource = some "shopify_return_request"
  swap
  · simp [hsource]
  by_cases happroved : isApprovedLocalReturn r.record = true
  swap
  · have hnot : ¬Abandoned now autoCancelDays r := fun h => happroved h.approved
    simp only [hsource, happroved, hnot, or_false, true_and]
    by_cases hcancelled : isCancelledLocalReturn r.record = true
    · simp [hcancelled]
    · simp [hcancelled]
  · simp only [hsource, happroved, ne_eq, not_true_eq_false, if_false, Bool.not_true,
      Bool.false_eq_true, true_and, Bool.true_eq_false, false_and, false_or]
    constructor
    · intro h
      split_ifs at h with hold hrefund hrecords hentries hreceived hdecision hshipment
      exact ⟨happroved, not_lt.mp hold, present_isSome_eq_false.mp (by simpa using hrefund),
        by simpa using hrecords, by simpa using hentries, by simpa using hreceived,
        present_isSome_eq_false.mp (by simpa using hdecision), by simpa using hshipment⟩
    · intro h
      have hold : ¬now - getApprovalTimestamp r.record < autoCancelDays * DAY_MS :=
        not_lt.mpr h.old
      simp [hold, h.refundId, h.refundRecords, h.financeEntries, h.received, h.decision, h.shipment]

lemma localSkip_eq_none_iff {run : RunState} {relatedRecords : List ReturnAutoCancelRecord} :
    localSkip run relatedRecords = none ↔
      ∀ r ∈ relatedRecords, MayCancel run.input.now run.input.autoCancelDays r := by
  unfold localSkip
  rw [List.findSome?_eq_none_iff]
  refine forall₂_congr fun r _ => ?_
  rw [Option.map_eq_none_iff, getLocalSkipReason_eq_none_iff]

lemma truthy_of_present {value : Option String} (h : (present value).isSome = true) :
    truthy value = true := by
  cases value with
  | none => cases h
  | some text =>
      by_cases hempty : text = ""
      · subst hempty
        cases h
      · simp [truthy, hempty]

lemma present_or_of_resolve {r : ReturnRecord} (h : (resolveShopifyReturnGid r).isSome = true) :
    (present r.sourceShopifyReturnGid).isSome = true ∨
      (present r.sourceShopifyReturnId).isSome = true := by
  unfold resolveShopifyReturnGid at h
  rw [Option.isSome_or, Option.isSome_map] at h
  exact Bool.or_eq_true_iff.mp h

/-- A return that Shopify can be asked about has a gid or an id. -/
lemma truthy_of_resolve {r : ReturnRecord} (h : (resolveShopifyReturnGid r).isSome = true) :
    (truthy r.sourceShopifyReturnGid || truthy r.sourceShopifyReturnId) = true := by
  rcases present_or_of_resolve h with hgid | hid
  · rw [truthy_of_present hgid, Bool.true_or]
  · rw [truthy_of_present hid, Bool.or_true]

/-! ## What a step does -/

/-- A step of a run, by its position and the answer. -/
inductive AutoCancelCall.Steps (s : ReturnStore) :
    AutoCancelAnswer → AutoCancelCall → ReturnStore → AutoCancelCall → Prop
  | page {input : RunInput} {rows : List ReturnRecord} (hpage : IsPage input s.returnRecord rows) :
      Steps s (.rows rows) (.candidates input) s
        (RunState.advance ⟨input, [], [], []⟩ (rows.map s.included))
  | related {candidate : ReturnAutoCancelRecord} {gid : String} {run : RunState} :
      Steps s .done (.related candidate gid run) s
        (.afterRelated candidate gid (findRelatedReturnRecords s candidate) run)
  | fetch {candidate : ReturnAutoCancelRecord} {gid : String}
      {relatedRecords : List ReturnAutoCancelRecord} {run : RunState}
      {state : ShopifyReturnCancellationState} :
      Steps s (.state state) (.fetch candidate gid relatedRecords run) s
        (.afterFetch candidate gid relatedRecords run state)
  | fetchThrown {candidate : ReturnAutoCancelRecord} {gid : String}
      {relatedRecords : List ReturnAutoCancelRecord} {run : RunState} {message : String} :
      Steps s (.thrown message) (.fetch candidate gid relatedRecords run) s
        (run.stop candidate gid .failed "canonical_fetch_failed" (idsOf relatedRecords) none
          (.error message))
  | cancel {candidate : ReturnAutoCancelRecord} {gid : String}
      {relatedRecords : List ReturnAutoCancelRecord} {canonicalStatus : String} {run : RunState}
      {result : CancelShopifyReturnResult} :
      Steps s (.cancelled result) (.cancel candidate gid relatedRecords canonicalStatus run) s
        (.afterCancel candidate gid relatedRecords canonicalStatus run result)
  | cancelThrown {candidate : ReturnAutoCancelRecord} {gid : String}
      {relatedRecords : List ReturnAutoCancelRecord} {canonicalStatus : String} {run : RunState}
      {message : String} :
      Steps s (.thrown message) (.cancel candidate gid relatedRecords canonicalStatus run) s
        (run.stop candidate gid .failed "shopify_cancel_failed" (idsOf relatedRecords)
          (some canonicalStatus) (.error message))
  | persist {candidate : ReturnAutoCancelRecord} {attempt : AutoCancelAttempt}
      {result : AutoCancelResult} {run : RunState} :
      Steps s .done (.persist candidate attempt result run)
        (persistAutoCancelSnapshot candidate attempt s) ((run.conclude result).advance run.rest)
  | mark {record : ReturnAutoCancelRecord} {left : List ReturnAutoCancelRecord}
      {attempt : AutoCancelAttempt} {result : AutoCancelResult} {run : RunState} :
      Steps s .done (.mark record left attempt result run)
        (markLocalReturnRecordCancelled record attempt s) (run.marking attempt result left)

lemma run_steps {s s' : ReturnStore} {answer : AutoCancelAnswer} {p q : AutoCancelCall}
    (h : p.run answer s = some (s', q)) : p.Steps s answer s' q := by
  cases p <;> cases answer <;>
    simp only [AutoCancelCall.run, Option.some.injEq, Prod.mk.injEq, reduceCtorEq,
      Option.ite_none_right_eq_some] at h
  case candidates.rows =>
    obtain ⟨hpage, rfl, rfl⟩ := h
    exact .page hpage
  all_goals
    obtain ⟨rfl, rfl⟩ := h
    constructor

/-- What follows the answer of Shopify about the return. -/
lemma afterFetch_cases {P : AutoCancelCall → Prop} {candidate : ReturnAutoCancelRecord}
    {gid : String} {relatedRecords : List ReturnAutoCancelRecord} {run : RunState}
    {state : ShopifyReturnCancellationState}
    (hready : ∀ result, run.input.dryRun = true → P ((run.conclude result).advance run.rest))
    (hmarking : ∀ attempt result, isCancelledState state = true → run.input.dryRun = false →
      P (run.marking attempt result relatedRecords))
    (hstop : ∀ status reason affected canonicalStatus details, isCancelledState state = false →
      canonicalSkipReason run.input state ≠ none →
        P (run.stop candidate gid status reason affected canonicalStatus details))
    (hcancel : ∀ canonicalStatus, canonicalSkipReason run.input state = none →
      run.input.dryRun = false → P (.cancel candidate gid relatedRecords canonicalStatus run)) :
    P (.afterFetch candidate gid relatedRecords run state) := by
  unfold AutoCancelCall.afterFetch
  dsimp only
  by_cases hcancelled : isCancelledState state = true
  · rw [if_pos hcancelled]
    by_cases hdry : run.input.dryRun = true
    · rw [if_pos hdry]
      exact hready _ hdry
    · rw [if_neg hdry]
      exact hmarking _ _ hcancelled (Bool.eq_false_iff.mpr hdry)
  · rw [if_neg hcancelled]
    cases hskip : canonicalSkipReason run.input state with
    | some skip =>
        have hne : canonicalSkipReason run.input state ≠ none := by
          rw [hskip]
          exact Option.some_ne_none _
        exact hstop _ _ _ _ _ (Bool.eq_false_iff.mpr hcancelled) hne
    | none =>
        dsimp only
        by_cases hdry : run.input.dryRun = true
        · rw [if_pos hdry]
          exact hready _ hdry
        · rw [if_neg hdry]
          exact hcancel _ hskip (Bool.eq_false_iff.mpr hdry)

/-- What follows the answer of Shopify about the cancellation. -/
lemma afterCancel_cases {P : AutoCancelCall → Prop} {candidate : ReturnAutoCancelRecord}
    {gid canonicalStatus : String} {relatedRecords : List ReturnAutoCancelRecord} {run : RunState}
    {result : CancelShopifyReturnResult}
    (hmarking : ∀ attempt concluded, isCancelledResult result = true →
      P (run.marking attempt concluded relatedRecords))
    (hstop : ∀ status reason affected canonicalStatus details, isCancelledResult result = false →
      P (run.stop candidate gid status reason affected canonicalStatus details)) :
    P (.afterCancel candidate gid relatedRecords canonicalStatus run result) := by
  unfold AutoCancelCall.afterCancel
  dsimp only
  by_cases hcancelled : isCancelledResult result = true
  · rw [if_pos hcancelled]
    exact hmarking _ _ hcancelled
  · rw [if_neg hcancelled]
    exact hstop _ _ _ _ _ (Bool.eq_false_iff.mpr hcancelled)

/-! ## What a step writes -/

section Writes

variable {s s' : ReturnStore}

lemma StoreKeepsFacts.refl (s : ReturnStore) : StoreKeepsFacts s s where
  records := List.forall₂_same.mpr fun _ _ => ⟨rfl, rfl, rfl, rfl, rfl, rfl, rfl⟩
  refundRecord := rfl
  refundEntries := rfl

lemma StoreKeepsFacts.update {id : Id} {f : ReturnRecord → ReturnRecord}
    (hf : ∀ r, KeepsFacts r (f r)) : StoreKeepsFacts s (s.update id f) where
  records := by
    unfold ReturnStore.update updateWhere
    rw [List.forall₂_map_right_iff]
    refine List.forall₂_same.mpr fun r _ => ?_
    split
    · obtain ⟨hid, hreceived, hdecision, hrefund, hshipment, htracking, hlabel⟩ := hf r
      exact ⟨hid, hreceived, hdecision, hrefund, hshipment, htracking, hlabel⟩
    · exact ⟨rfl, rfl, rfl, rfl, rfl, rfl, rfl⟩
  refundRecord := rfl
  refundEntries := rfl

/-- What a step of a run writes: the snapshot of a candidate, or the mark of a record. -/
inductive Writes (s s' : ReturnStore) : Prop
  | persist (record : ReturnAutoCancelRecord) (attempt : AutoCancelAttempt)
      (hstore : s' = persistAutoCancelSnapshot record attempt s)
  | mark (record : ReturnAutoCancelRecord) (attempt : AutoCancelAttempt)
      (hstore : s' = markLocalReturnRecordCancelled record attempt s)

lemma run_writes {answer : AutoCancelAnswer} {p q : AutoCancelCall}
    (h : p.run answer s = some (s', q)) : s' = s ∨ Writes s s' := by
  cases run_steps h with
  | persist => exact Or.inr (.persist _ _ rfl)
  | mark => exact Or.inr (.mark _ _ rfl)
  | _ => exact Or.inl rfl

lemma Writes.keepsFacts (h : Writes s s') : StoreKeepsFacts s s' := by
  cases h with
  | persist record attempt hstore =>
      rw [hstore]
      exact .update fun _ => ⟨rfl, rfl, rfl, rfl, rfl, rfl, rfl⟩
  | mark record attempt hstore =>
      rw [hstore]
      exact .update fun _ => ⟨rfl, rfl, rfl, rfl, rfl, rfl, rfl⟩

/-- A step of a run keeps what others recorded. -/
lemma run_keepsFacts {answer : AutoCancelAnswer} {p q : AutoCancelCall}
    (h : p.run answer s = some (s', q)) : StoreKeepsFacts s s' := by
  rcases run_writes h with rfl | hwrites
  · exact .refl _
  · exact hwrites.keepsFacts

/-! ### Cancelled records -/

lemma ids_update {id : Id} {f : ReturnRecord → ReturnRecord} (hf : ∀ r, (f r).id = r.id) :
    (s.update id f).returnRecord.map ReturnRecord.id = s.returnRecord.map ReturnRecord.id := by
  unfold ReturnStore.update
  apply map_updateWhere
  exact hf

/-- The mark cancels the record. -/
lemma recordCancelled_mark {record : ReturnAutoCancelRecord} {attempt : AutoCancelAttempt}
    (h : record.record.id ∈ s.returnRecord.map ReturnRecord.id) :
    RecordCancelled (markLocalReturnRecordCancelled record attempt s) record.record.id := by
  constructor
  · unfold markLocalReturnRecordCancelled
    rw [ids_update]
    · exact h
    · exact fun _ => rfl
  · intro r hr hid
    obtain ⟨x, hx, rfl⟩ := mem_updateWhere.mp hr
    split at hid
    · rename_i hwritten
      rw [if_pos hwritten]
      exact ⟨rfl, rfl⟩
    · rename_i hnot
      exact (hnot (beq_iff_eq.mpr hid)).elim

lemma RecordCancelled.update {id id' : Id} {f : ReturnRecord → ReturnRecord}
    (h : RecordCancelled s id) (hid : ∀ r, (f r).id = r.id)
    (hf : ∀ r, r.returnLifecycleStatus = some "cancelled" ∧ r.status = "cancelled" →
      (f r).returnLifecycleStatus = some "cancelled" ∧ (f r).status = "cancelled") :
    RecordCancelled (s.update id' f) id := by
  constructor
  · rw [ids_update hid]
    exact h.1
  · intro r hr hrid
    obtain ⟨x, hx, rfl⟩ := mem_updateWhere.mp hr
    split at hrid
    · rename_i hwritten
      rw [if_pos hwritten]
      exact hf x (h.2 x hx ((hid x).symm.trans hrid))
    · rename_i hnot
      rw [if_neg hnot]
      exact h.2 x hx hrid

/-- No step of a run brings a cancelled record back. -/
lemma RecordCancelled.writes {id : Id} (h : RecordCancelled s id) (hwrites : Writes s s') :
    RecordCancelled s' id := by
  cases hwrites with
  | persist record attempt hstore =>
      rw [hstore]
      exact h.update (fun _ => rfl) fun _ hr => hr
  | mark record attempt hstore =>
      rw [hstore]
      exact h.update (fun _ => rfl) fun _ _ => ⟨rfl, rfl⟩

lemma Writes.ids (h : Writes s s') :
    s'.returnRecord.map ReturnRecord.id = s.returnRecord.map ReturnRecord.id := by
  cases h with
  | persist record attempt hstore =>
      rw [hstore]
      exact ids_update fun _ => rfl
  | mark record attempt hstore =>
      rw [hstore]
      exact ids_update fun _ => rfl

lemma change_id (clock : Instant) (e : ReturnMove) (r : ReturnRecord) :
    (e.change clock r).id = r.id := by
  cases e <;> rfl

/-- The rows after a move of the surroundings. -/
lemma outside_records {e : ReturnMove} (h : s.outside e = some s') :
    s'.returnRecord = updateWhere e.writes (e.change s.clock) s.returnRecord ∨
      ∃ record, record.id ∉ s.returnRecord.map ReturnRecord.id ∧
        s'.returnRecord = s.returnRecord ++ [record] := by
  unfold ReturnStore.outside at h
  cases e with
  | tick time =>
      obtain rfl := Option.some.inj h
      exact Or.inl (updateWhere_eq_self fun _ _ => rfl).symm
  | createReturn record =>
      dsimp only at h
      split at h
      · rename_i hnew
        obtain rfl := Option.some.inj h
        exact Or.inr ⟨record, hnew, rfl⟩
      · cases h
  | requestReturn id returnId gid trackingNumber =>
      obtain rfl := Option.some.inj h
      exact Or.inl rfl
  | lifecycle returnId gid status trackingNumber =>
      obtain rfl := Option.some.inj h
      exact Or.inl rfl
  | receive id =>
      obtain rfl := Option.some.inj h
      exact Or.inl rfl
  | decide id decision =>
      obtain rfl := Option.some.inj h
      exact Or.inl rfl
  | ship id shipmentId trackingNumber label snapshot =>
      obtain rfl := Option.some.inj h
      exact Or.inl rfl
  | setSnapshot id snapshot =>
      obtain rfl := Option.some.inj h
      exact Or.inl rfl
  | refund allocationId id refundId =>
      obtain rfl := Option.some.inj h
      exact Or.inl rfl

lemma outside_ids {e : ReturnMove} (h : s.outside e = some s') {id : Id}
    (hid : id ∈ s.returnRecord.map ReturnRecord.id) :
    id ∈ s'.returnRecord.map ReturnRecord.id := by
  rcases outside_records h with hrows | ⟨record, -, hrows⟩
  · rw [hrows, map_updateWhere (change_id s.clock e)]
    exact hid
  · rw [hrows, List.map_append]
    exact List.mem_append_left _ hid

/-- A move that does not write the record leaves it cancelled. -/
lemma RecordCancelled.outside {e : ReturnMove} {id : Id} (h : RecordCancelled s id)
    (hout : s.outside e = some s')
    (hleaves : ∀ r ∈ s.returnRecord, r.id = id → e.writes r = false) : RecordCancelled s' id := by
  refine ⟨outside_ids hout h.1, fun r hr hid => ?_⟩
  rcases outside_records hout with hrows | ⟨record, hnew, hrows⟩
  · rw [hrows] at hr
    obtain ⟨x, hx, rfl⟩ := mem_updateWhere.mp hr
    have hxid : x.id = id := by
      split at hid
      · exact (change_id _ _ _).symm.trans hid
      · exact hid
    rw [if_neg (by rw [hleaves x hx hxid]; exact Bool.false_ne_true)]
    exact h.2 x hx hxid
  · rw [hrows, List.mem_append, List.mem_singleton] at hr
    rcases hr with hr | rfl
    · exact h.2 r hr hid
    · rw [hid] at hnew
      exact (hnew h.1).elim

end Writes

/-! ## What a run relies on -/

section Runs

variable {w w' : AutoCancelWorld}

/-- `w'` comes after `w`. -/
def Later (w w' : AutoCancelWorld) : Prop :=
  Reachable (fun v => v = w) (Commits autoCancelRuns.step fun _ _ => True) w'

lemma Later.refl (w : AutoCancelWorld) : Later w w := .start rfl

lemma Later.step {v : AutoCancelWorld} (h : Later v w) {m : AutoCancelMove}
    (hstep : autoCancelRuns.step m w = .ok w') : Later v w' :=
  Reachable.step h ⟨m, trivial, hstep⟩

abbrev AutoCancelReaches (w : AutoCancelWorld) : Prop :=
  autoCancelRuns.Reaches (fun _ => True) (fun _ _ => True) w

/-- The records were read in a world before, where all of them could be cancelled. -/
def WasRead (w : AutoCancelWorld) (i : ℕ) (candidate : ReturnAutoCancelRecord) (gid : String)
    (relatedRecords : List ReturnAutoCancelRecord) (run : RunState) : Prop :=
  ∃ w₀, AutoCancelReaches w₀ ∧ Later w₀ w ∧
    w₀.process i = some (.related candidate gid run) ∧
    relatedRecords = findRelatedReturnRecords w₀.shared candidate ∧
    ∀ r ∈ relatedRecords, MayCancel run.input.now run.input.autoCancelDays r

/-- What the position of a run relies on. -/
def AutoCancelCall.RestsOn (w : AutoCancelWorld) (i : ℕ) : AutoCancelCall → Prop
  | .related candidate _ _ => (truthy candidate.record.sourceShopifyReturnGid ||
      truthy candidate.record.sourceShopifyReturnId) = true
  | .fetch candidate gid relatedRecords run => WasRead w i candidate gid relatedRecords run
  | .cancel candidate gid relatedRecords _ run =>
      WasRead w i candidate gid relatedRecords run ∧ run.input.dryRun = false
  | _ => True

lemma WasRead.step {i : ℕ} {candidate : ReturnAutoCancelRecord} {gid : String}
    {relatedRecords : List ReturnAutoCancelRecord} {run : RunState}
    (h : WasRead w i candidate gid relatedRecords run) {m : AutoCancelMove}
    (hstep : autoCancelRuns.step m w = .ok w') :
    WasRead w' i candidate gid relatedRecords run := by
  obtain ⟨w₀, hreaches, hlater, hread⟩ := h
  exact ⟨w₀, hreaches, hlater.step hstep, hread⟩

lemma AutoCancelCall.RestsOn.step {i : ℕ} {p : AutoCancelCall} (h : p.RestsOn w i)
    {m : AutoCancelMove} (hstep : autoCancelRuns.step m w = .ok w') : p.RestsOn w' i := by
  cases p with
  | fetch => exact WasRead.step h hstep
  | cancel => exact ⟨WasRead.step h.1 hstep, h.2⟩
  | candidates => trivial
  | related => exact h
  | persist => trivial
  | mark => trivial
  | ended => trivial

lemma restsOn_advance (w : AutoCancelWorld) (i : ℕ) (rest : List ReturnAutoCancelRecord)
    (run : RunState) : (run.advance rest).RestsOn w i := by
  induction rest generalizing run with
  | nil => trivial
  | cons candidate rest ih =>
      unfold RunState.advance
      dsimp only
      split
      · exact ih run
      · split
        · rename_i gid hgid
          exact truthy_of_resolve (by rw [hgid]; rfl)
        · split
          · exact ih _
          · trivial

lemma restsOn_stop (w : AutoCancelWorld) (i : ℕ) (run : RunState)
    (candidate : ReturnAutoCancelRecord) (gid : String) (status : AutoCancelStatus)
    (reason : String) (affected : List Id) (canonicalStatus : Option String)
    (details : AutoCancelDetails) :
    (run.stop candidate gid status reason affected canonicalStatus details).RestsOn w i := by
  unfold RunState.stop
  dsimp only
  split
  · exact restsOn_advance w i _ _
  · trivial

lemma restsOn_marking (w : AutoCancelWorld) (i : ℕ) (run : RunState) (attempt : AutoCancelAttempt)
    (result : AutoCancelResult) (left : List ReturnAutoCancelRecord) :
    (run.marking attempt result left).RestsOn w i := by
  cases left with
  | nil => exact restsOn_advance w i _ _
  | cons record left => trivial

/-- The next position of a run rests on what was read. -/
lemma restsOn_run {i : ℕ} {p q : AutoCancelCall} {answer : AutoCancelAnswer} {s : ReturnStore}
    (hw : AutoCancelReaches w) (hp : w.process i = some p) (h : p.RestsOn w i)
    (hrun : p.run answer w.shared = some (s, q)) : q.RestsOn w i := by
  cases run_steps hrun with
  | page => exact restsOn_advance w i _ _
  | related =>
      unfold AutoCancelCall.afterRelated
      split
      · exact restsOn_stop w i ..
      · rename_i hskip
        exact ⟨w, hw, .refl w, hp, rfl, localSkip_eq_none_iff.mp hskip⟩
  | fetch =>
      refine afterFetch_cases (P := fun q => q.RestsOn w i) ?_ ?_ ?_ ?_
      · exact fun _ _ => restsOn_advance w i _ _
      · exact fun _ _ _ _ => restsOn_marking w i ..
      · exact fun _ _ _ _ _ _ _ => restsOn_stop w i ..
      · exact fun _ _ hdry => ⟨h, hdry⟩
  | fetchThrown => exact restsOn_stop w i ..
  | cancel =>
      refine afterCancel_cases (P := fun q => q.RestsOn w i) ?_ ?_
      · exact fun _ _ _ => restsOn_marking w i ..
      · exact fun _ _ _ _ _ _ => restsOn_stop w i ..
  | cancelThrown => exact restsOn_stop w i ..
  | persist => exact restsOn_advance w i _ _
  | mark => exact restsOn_marking w i ..

/-- In every reachable world the positions rest on what was read. -/
lemma restsOn_of_reaches (hw : AutoCancelReaches w) :
    ∀ i p, w.process i = some p → p.RestsOn w i := by
  refine Reachable.invariant (P := fun w => ∀ i p, w.process i = some p → p.RestsOn w i)
    ?_ ?_ hw
  · rintro _ ⟨s, -, rfl⟩ i p hp
    cases hp
  · rintro u v hu ih ⟨m, -, hstep⟩ i p hp
    cases m with
    | start j input =>
        obtain ⟨-, rfl⟩ := Program.step_start_ok.mp hstep
        rcases World.withProcess_some hp with ⟨rfl, rfl⟩ | ⟨-, hold⟩
        · trivial
        · exact (ih i p hold).step hstep
    | run j answer =>
        obtain ⟨p', s, q, hp', hrun, rfl⟩ := Program.step_run_ok.mp hstep
        rcases World.withProcess_some hp with ⟨rfl, rfl⟩ | ⟨-, hold⟩
        · exact (restsOn_run hu hp' (ih i p' hp') hrun).step hstep
        · exact (ih i p hold).step hstep
    | outside e =>
        obtain ⟨s, -, rfl⟩ := Program.step_outside_ok.mp hstep
        exact (ih i p hp).step hstep

end Runs

/-! ## After a cancellation -/

section Marks

variable {w w' : AutoCancelWorld}

/-- The run is at the records of a return that Shopify has cancelled, and `id` is to come. -/
def AutoCancelCall.AwaitsMark (id : Id) (concluded : ℕ) : AutoCancelCall → Prop
  | .mark record left _ _ run => run.results.length = concluded ∧ id ∈ idsOf (record :: left)
  | _ => False

lemma awaitsMark_marking {id : Id} {run : RunState} {attempt : AutoCancelAttempt}
    {result : AutoCancelResult} {left : List ReturnAutoCancelRecord} (hid : id ∈ idsOf left) :
    (run.marking attempt result left).AwaitsMark id run.results.length := by
  cases left with
  | nil => cases hid
  | cons record left => exact ⟨rfl, hid⟩

/-- The record is cancelled, or the run `i` will mark it. -/
def MarkPending (id : Id) (i concluded : ℕ) (w : AutoCancelWorld) : Prop :=
  id ∈ w.shared.returnRecord.map ReturnRecord.id ∧
    (RecordCancelled w.shared id ∨ ∃ p, w.process i = some p ∧ p.AwaitsMark id concluded)

/-- The run at a mark goes on with the records that are left. -/
lemma markPending_run {id : Id} {concluded : ℕ} {s s' : ReturnStore} {p q : AutoCancelCall}
    {answer : AutoCancelAnswer} (hid : id ∈ s.returnRecord.map ReturnRecord.id)
    (hawaits : p.AwaitsMark id concluded) (hrun : p.run answer s = some (s', q)) :
    RecordCancelled s' id ∨ q.AwaitsMark id concluded := by
  cases run_steps hrun with
  | @mark record left attempt result run =>
      obtain ⟨rfl, hmem⟩ := hawaits
      by_cases hsame : record.record.id = id
      · subst hsame
        exact Or.inl (recordCancelled_mark hid)
      · refine Or.inr (awaitsMark_marking ?_)
        rcases List.mem_cons.mp hmem with rfl | hleft
        · exact (hsame rfl).elim
        · exact hleft
  | _ => exact hawaits.elim

lemma markPending_step {id : Id} {i concluded : ℕ} (h : MarkPending id i concluded w)
    {m : AutoCancelMove} (hleaves : LeavesRecord id w m)
    (hstep : autoCancelRuns.step m w = .ok w') : MarkPending id i concluded w' := by
  obtain ⟨hid, hpending⟩ := h
  cases m with
  | start j input =>
      obtain ⟨hnone, rfl⟩ := Program.step_start_ok.mp hstep
      refine ⟨hid, ?_⟩
      rcases hpending with hcancelled | ⟨p, hp, hawaits⟩
      · exact Or.inl hcancelled
      · have hne : i ≠ j := by
          rintro rfl
          rw [hnone] at hp
          cases hp
        exact Or.inr ⟨p, (World.withProcess_other w _ hne).trans hp, hawaits⟩
  | run j answer =>
      obtain ⟨p', s, q, hp', hrun, rfl⟩ := Program.step_run_ok.mp hstep
      have hwrites := run_writes hrun
      have hid' : id ∈ s.returnRecord.map ReturnRecord.id := by
        rcases hwrites with rfl | hwrites
        · exact hid
        · rw [hwrites.ids]
          exact hid
      refine ⟨hid', ?_⟩
      rcases hpending with hcancelled | ⟨p, hp, hawaits⟩
      · rcases hwrites with rfl | hwrites
        · exact Or.inl hcancelled
        · exact Or.inl (hcancelled.writes hwrites)
      · by_cases hij : i = j
        · subst hij
          rw [hp] at hp'
          obtain rfl := Option.some.inj hp'
          rcases markPending_run hid hawaits hrun with hcancelled | hawaits'
          · exact Or.inl hcancelled
          · exact Or.inr ⟨q, World.withProcess_same _ i q, hawaits'⟩
        · refine Or.inr ⟨p, ?_, hawaits⟩
          exact (World.withProcess_other _ q hij).trans hp
  | outside e =>
      obtain ⟨s, hout, rfl⟩ := Program.step_outside_ok.mp hstep
      refine ⟨outside_ids hout hid, ?_⟩
      rcases hpending with hcancelled | hawaits
      · exact Or.inl (hcancelled.outside hout hleaves)
      · exact Or.inr hawaits

/-- A run of which no move of the surroundings writes the record. -/
def LaterLeaving (id : Id) (w w' : AutoCancelWorld) : Prop :=
  Reachable (fun v => v = w) (Commits autoCancelRuns.step (LeavesRecord id)) w'

lemma markPending_of_later {id : Id} {i concluded : ℕ} (h : MarkPending id i concluded w)
    (hlater : LaterLeaving id w w') : MarkPending id i concluded w' := by
  refine Reachable.invariant ?_ ?_ hlater
  · rintro v rfl
    exact h
  · rintro u v - hu ⟨m, hleaves, hstep⟩
    exact markPending_step hu hleaves hstep

end Marks

/-! ## Together -/

section Together

variable {w w' : AutoCancelWorld}

lemma ids_of_later {id : Id} (hid : id ∈ w.shared.returnRecord.map ReturnRecord.id)
    (h : Later w w') : id ∈ w'.shared.returnRecord.map ReturnRecord.id := by
  refine Reachable.invariant
    (P := fun v : AutoCancelWorld => id ∈ v.shared.returnRecord.map ReturnRecord.id) ?_ ?_ h
  · rintro v rfl
    exact hid
  · rintro u v - hu ⟨m, -, hstep⟩
    rcases Program.step_shared hstep with hsame | ⟨i, answer, p, q, rfl, hp, hrun⟩ | ⟨e, -, hout⟩
    · rw [hsame]
      exact hu
    · rcases run_writes hrun with hsame | hwrites
      · rw [hsame]
        exact hu
      · rw [hwrites.ids]
        exact hu
    · exact outside_ids hout hu

/-- The records of a return that a run has read are in the table. -/
lemma WasRead.mem {i : ℕ} {candidate : ReturnAutoCancelRecord} {gid : String}
    {relatedRecords : List ReturnAutoCancelRecord} {run : RunState}
    (h : WasRead w i candidate gid relatedRecords run) :
    ∀ id ∈ idsOf relatedRecords, id ∈ w.shared.returnRecord.map ReturnRecord.id := by
  obtain ⟨w₀, hreaches, hlater, hp, rfl, -⟩ := h
  intro id hid
  refine ids_of_later ?_ hlater
  have htruthy : (truthy candidate.record.sourceShopifyReturnGid ||
      truthy candidate.record.sourceShopifyReturnId) = true := restsOn_of_reaches hreaches i _ hp
  unfold findRelatedReturnRecords idsOf at hid
  rw [if_pos htruthy, List.map_map] at hid
  obtain ⟨x, hx, rfl⟩ := List.mem_map.mp hid
  exact List.mem_map_of_mem (List.mem_filter.mp hx).1

/-- After a cancellation, the records that nobody else writes are cancelled once the run has gone
on to the next candidate. -/
lemma recordCancelled_of_cancel (hw : AutoCancelReaches w) {i : ℕ}
    {candidate : ReturnAutoCancelRecord} {gid canonicalStatus : String}
    {relatedRecords : List ReturnAutoCancelRecord} {run : RunState}
    {result : CancelShopifyReturnResult}
    (hp : w.process i = some (.cancel candidate gid relatedRecords canonicalStatus run))
    (hresult : isCancelledResult result = true) {w₁ : AutoCancelWorld}
    (hstep : autoCancelRuns.step (.run i (.cancelled result)) w = .ok w₁) {id : Id}
    (hid : id ∈ idsOf relatedRecords) (hlater : LaterLeaving id w₁ w') {p : AutoCancelCall}
    (hp' : w'.process i = some p) (hconcluded : run.results.length < p.results.length) :
    RecordCancelled w'.shared id := by
  obtain ⟨hread, -⟩ := restsOn_of_reaches hw i _ hp
  obtain ⟨p₀, s, q, hp₀, hrun, rfl⟩ := Program.step_run_ok.mp hstep
  rw [hp] at hp₀
  obtain rfl := Option.some.inj hp₀
  have hrun' : AutoCancelCall.run (.cancelled result) w.shared
      (.cancel candidate gid relatedRecords canonicalStatus run) = some (s, q) := hrun
  have hpending : MarkPending id i run.results.length
      (World.withProcess { w with shared := s } i q) := by
    cases run_steps hrun' with
    | cancel =>
        refine ⟨hread.mem id hid, Or.inr ⟨_, World.withProcess_same _ i _, ?_⟩⟩
        refine afterCancel_cases (P := fun q => q.AwaitsMark id run.results.length) ?_ ?_
        · exact fun _ _ _ => awaitsMark_marking hid
        · intro _ _ _ _ _ hnot
          rw [hresult] at hnot
          cases hnot
  obtain ⟨-, hcancelled | ⟨p', hp'', hawaits⟩⟩ := markPending_of_later hpending hlater
  · exact hcancelled
  · rw [hp'] at hp''
    obtain rfl := Option.some.inj hp''
    cases p with
    | mark =>
        obtain ⟨hlength, -⟩ := hawaits
        change _ < List.length _ at hconcluded
        exact absurd hlength (ne_of_gt hconcluded)
    | _ => exact hawaits.elim

lemma run_step_keepsFacts {i : ℕ} {answer : AutoCancelAnswer}
    (hstep : autoCancelRuns.step (.run i answer) w = .ok w') :
    StoreKeepsFacts w.shared w'.shared := by
  obtain ⟨p, s, q, -, hrun, rfl⟩ := Program.step_run_ok.mp hstep
  exact run_keepsFacts hrun

end Together

end VendorDashboard.ReturnAutoCancel
