import VendorDashboard.Shopify.ReturnLifecycle
import VendorDashboard.Framework.Run

/-!
# The status of a return

A run of one return processes its webhooks, in any order and any number of times, while orders and
allocations change.  Neither webhook function looks at the status that the records have, so an event
of an earlier stage takes a finished return back (`returnLifecycle_goesBack`).

When no event is behind the records (`InOrder`), the records of the return agree in every state,
their status never goes back, and it is the one of the latest stage processed so far
(`returnLifecycle_forward`).
-/

namespace VendorDashboard.Shopify

open Finance (Instant)
open Table Transaction Run

/-! ## Runs -/

/-- How far a status is: terminal statuses are at the same stage. -/
def ReturnLifecycleStatus.stage : ReturnLifecycleStatus → ℕ
  | .requested => 1
  | .approved => 2
  | .declined | .closed | .cancelled => 3
  | .other _ => 0

def ReturnLifecycleTopic.stage (topic : ReturnLifecycleTopic) : ℕ :=
  (mapLifecycleStatus topic).stage

structure ReturnEvent where
  topic : ReturnLifecycleTopic
  eventId : String
  payload : ReturnWebhookPayload
  answer : ReturnAnswer

inductive ReturnMove
  | process (e : ReturnEvent)
  /-- The orders and the owners of their lines change. -/
  | changeOrders (orders : List ReturnOrder) (owners : List AllocationLineOwner)

/-- The database and the topics whose transaction was committed. -/
structure ReturnRun where
  db : ReturnDb
  committed : List ReturnLifecycleTopic

namespace ReturnRun

def step (identity : ReturnIdentity) : ReturnMove → ReturnRun → Except Unit ReturnRun
  | .process e, w => .ok
      { db := (w.db.processReturnWebhook e.topic e.eventId e.payload e.answer).1
        committed := match w.db.ingest identity e.topic e.eventId e.payload e.answer with
          | .ok _ => w.committed ++ [e.topic]
          | .error _ => w.committed }
  | .changeOrders orders owners, w => .ok
      { w with db := { w.db with shopifyOrder := orders, allocationLineOwner := owners } }

/-- A database without records of the return. -/
def New (identity : ReturnIdentity) (w : ReturnRun) : Prop :=
  w.committed = [] ∧ KeyUnique ReturnRecord.id w.db.returnRecord ∧
    ∀ r ∈ w.db.returnRecord, ¬identity.Owns r

/-- The event is one of the return. -/
def EventOf (identity : ReturnIdentity) (_ : ReturnRun) : ReturnMove → Prop
  | .process e => resolveReturnIdentity e.payload = some identity
  | .changeOrders _ _ => True

/-- The event is one of the return and not behind the records. -/
def InOrder (identity : ReturnIdentity) (w : ReturnRun) : ReturnMove → Prop
  | .process e => resolveReturnIdentity e.payload = some identity ∧
      ∀ r ∈ w.db.returnRecord, identity.Owns r → r.status.stage ≤ e.topic.stage
  | .changeOrders _ _ => True

def Reaches (identity : ReturnIdentity) (ok : ReturnRun → ReturnMove → Prop) (w : ReturnRun) :
    Prop :=
  Reachable (New identity) (Commits (step identity) ok) w

/-! ## The property -/

/-- The records of the return agree, in both columns. -/
def Agrees (identity : ReturnIdentity) (w : ReturnRun) : Prop :=
  ∀ r ∈ w.db.returnRecord, identity.Owns r → ∀ r' ∈ w.db.returnRecord, identity.Owns r' →
    r.status = r'.status ∧ r.returnLifecycleStatus = some r'.status

/-- The status is the one of the latest stage. -/
def IsLatest (identity : ReturnIdentity) (w : ReturnRun) : Prop :=
  ∀ r ∈ w.db.returnRecord, identity.Owns r → ∃ topic ∈ w.committed,
    r.status = mapLifecycleStatus topic ∧ ∀ other ∈ w.committed, other.stage ≤ topic.stage

/-- No record of the return goes back, in neither column. -/
def GoesForward (identity : ReturnIdentity) (w w' : ReturnRun) : Prop :=
  ∀ r ∈ w.db.returnRecord, identity.Owns r → ∀ r' ∈ w'.db.returnRecord, r'.id = r.id →
    r.status.stage ≤ r'.status.stage ∧
      ∀ s ∈ r.returnLifecycleStatus, ∀ s' ∈ r'.returnLifecycleStatus, s.stage ≤ s'.stage

end ReturnRun

/-! ## What an event does to the records -/

namespace ReturnDb

variable {db db' : ReturnDb} {identity : ReturnIdentity} {topic : ReturnLifecycleTopic}
  {eventId : String} {payload : ReturnWebhookPayload} {answer : ReturnAnswer} {count : ℕ}

/-- The record has the status of the topic, in both columns. -/
def HasStatusOf (topic : ReturnLifecycleTopic) (r : ReturnRecord) : Prop :=
  r.status = mapLifecycleStatus topic ∧ r.returnLifecycleStatus = some (mapLifecycleStatus topic)

/-- Every record afterwards was there before, or has the status of the topic. -/
structure Writes (identity : ReturnIdentity) (topic : ReturnLifecycleTopic)
    (records records' : List ReturnRecord) : Prop where
  key : KeyUnique ReturnRecord.id records → KeyUnique ReturnRecord.id records'
  row : ∀ r ∈ records', r ∈ records ∨ HasStatusOf topic r ∧ identity.Owns r
  owned : ∀ r ∈ records, identity.Owns r → ∃ r' ∈ records', identity.Owns r'

lemma Writes.refl (records : List ReturnRecord) : Writes identity topic records records :=
  ⟨id, fun _ hr => .inl hr, fun r hr howns => ⟨r, hr, howns⟩⟩

lemma Writes.trans {a b c : List ReturnRecord} (h : Writes identity topic a b)
    (h' : Writes identity topic b c) : Writes identity topic a c := by
  refine ⟨fun hkey => h'.key (h.key hkey), fun r hr => ?_, fun r hr howns => ?_⟩
  · rcases h'.row r hr with hr | hr
    · exact h.row r hr
    · exact .inr hr
  · obtain ⟨r', hr', howns'⟩ := h.owned r hr howns
    exact h'.owned r' hr' howns'

lemma requestedRecord_hasStatus (order : String) (tracking : Option ReturnTracking)
    (m : MappedReturnLine) (r : ReturnRecord) :
    HasStatusOf .request (requestedRecord identity payload order tracking answer.now m r) :=
  ⟨rfl, rfl⟩

lemma requestedRecord_owns (order : String) (tracking : Option ReturnTracking)
    (m : MappedReturnLine) (r : ReturnRecord) :
    identity.Owns (requestedRecord identity payload order tracking answer.now m r) :=
  .inl rfl

lemma upsertRequested_writes {order : String} {tracking : Option ReturnTracking}
    {m : MappedReturnLine}
    (h : db.upsertRequested identity payload order tracking answer m = .ok db') :
    Writes identity .request db.returnRecord db'.returnRecord := by
  simp only [upsertRequested, bind_eq_ok, pure_eq_ok] at h
  obtain ⟨owner, -, rfl⟩ := h
  split
  · refine ⟨fun hkey => hkey.updateWhere fun _ => rfl, fun r' hr' => ?_, fun r hr howns => ?_⟩
    · obtain ⟨r, hr, rfl⟩ := mem_updateWhere.mp hr'
      split
      · exact .inr ⟨requestedRecord_hasStatus _ _ _ _, requestedRecord_owns _ _ _ _⟩
      · exact .inl hr
    · refine ⟨_, mem_updateWhere.mpr ⟨r, hr, rfl⟩, ?_⟩
      split
      · exact requestedRecord_owns _ _ _ _
      · exact howns
  · rename_i hnew
    simp only [List.any_eq_true, decide_eq_true_eq, not_exists, not_and] at hnew
    refine ⟨fun hkey => ?_, fun r hr => ?_, fun r hr howns => ⟨r, List.mem_append_left _ hr, howns⟩⟩
    · refine keyUnique_append.mpr ⟨hkey, by simp [KeyUnique], fun r hr r' hr' => ?_⟩
      obtain rfl := List.mem_singleton.mp hr'
      exact hnew r hr
    · rcases List.mem_append.mp hr with hr | hr
      · exact .inl hr
      · obtain rfl := List.mem_singleton.mp hr
        exact .inr ⟨requestedRecord_hasStatus _ _ _ _, requestedRecord_owns _ _ _ _⟩

lemma ingestReturnRequest_writes
    (h : db.ingestReturnRequest identity eventId payload answer = .ok (db', count)) :
    Writes identity .request db.returnRecord db'.returnRecord := by
  simp only [ingestReturnRequest, bind_eq_ok, pure_eq_ok, getOrThrow_eq_ok, Prod.mk.injEq] at h
  obtain ⟨details, -, orderId, -, order, -, mapped, -, written, hloop, rfl, -⟩ := h
  have hwritten : Writes identity .request db.returnRecord written.returnRecord := by
    refine foldlM_preserves (P := fun d : ReturnDb =>
      Writes identity .request db.returnRecord d.returnRecord) ?_ ?_ hloop
    · intro d m d' _ hd hm
      exact hd.trans (upsertRequested_writes hm)
    · exact .refl _
  exact hwritten

lemma restatedRecord_id (r : ReturnRecord) : (restatedRecord topic answer r).id = r.id := by
  unfold restatedRecord
  cases answer.details <;> rfl

lemma restatedRecord_hasStatus (r : ReturnRecord) :
    HasStatusOf topic (restatedRecord topic answer r) := by
  unfold restatedRecord
  cases answer.details <;> exact ⟨rfl, rfl⟩

lemma restatedRecord_owns {r : ReturnRecord} (h : identity.Owns r) :
    identity.Owns (restatedRecord topic answer r) := by
  unfold restatedRecord
  cases answer.details <;> exact h

/-- A later event gives every record of the return its status. -/
lemma applyReturnLifecycleStatus_records
    (h : db.applyReturnLifecycleStatus identity topic eventId answer = .ok (db', count)) :
    db'.returnRecord = updateWhere (fun r => decide (identity.Owns r))
      (restatedRecord topic answer) db.returnRecord := by
  simp only [applyReturnLifecycleStatus, bind_eq_ok, pure_eq_ok, Prod.mk.injEq] at h
  obtain ⟨-, -, rfl, -⟩ := h
  rfl

lemma applyReturnLifecycleStatus_writes
    (h : db.applyReturnLifecycleStatus identity topic eventId answer = .ok (db', count)) :
    Writes identity topic db.returnRecord db'.returnRecord := by
  rw [applyReturnLifecycleStatus_records h]
  refine ⟨fun hkey => hkey.updateWhere restatedRecord_id, fun r' hr' => ?_, fun r hr howns => ?_⟩
  · obtain ⟨r, hr, rfl⟩ := mem_updateWhere.mp hr'
    split
    · rename_i howns
      exact .inr ⟨restatedRecord_hasStatus r, restatedRecord_owns (of_decide_eq_true howns)⟩
    · exact .inl hr
  · refine ⟨_, mem_updateWhere.mpr ⟨r, hr, rfl⟩, ?_⟩
    split
    · exact restatedRecord_owns howns
    · exact howns

/-- A transaction writes the status of its topic, or nothing. -/
lemma ingest_writes (h : db.ingest identity topic eventId payload answer = .ok (db', count)) :
    Writes identity topic db.returnRecord db'.returnRecord := by
  cases topic with
  | request => exact ingestReturnRequest_writes h
  | approve => exact applyReturnLifecycleStatus_writes h
  | decline => exact applyReturnLifecycleStatus_writes h
  | close => exact applyReturnLifecycleStatus_writes h
  | cancel => exact applyReturnLifecycleStatus_writes h

/-- When no record is ahead of the event, all of them have its status afterwards. -/
lemma ingest_hasStatus (h : db.ingest identity topic eventId payload answer = .ok (db', count))
    (hstatus : ∀ r ∈ db.returnRecord, identity.Owns r → r.status.stage ≤ topic.stage ∧
      ∃ earlier, HasStatusOf earlier r) :
    ∀ r ∈ db'.returnRecord, identity.Owns r → HasStatusOf topic r := by
  intro r hr howns
  have hlater : topic ≠ .request → HasStatusOf topic r := by
    intro hne
    have happlied : db.applyReturnLifecycleStatus identity topic eventId answer =
        .ok (db', count) := by
      cases topic <;> first | exact absurd rfl hne | exact h
    rw [applyReturnLifecycleStatus_records happlied] at hr
    obtain ⟨r₀, hr₀, rfl⟩ := mem_updateWhere.mp hr
    split at howns
    · rename_i hsel
      rw [if_pos hsel]
      exact restatedRecord_hasStatus r₀
    · rename_i hsel
      exact absurd (decide_eq_true howns) hsel
  by_cases hrequest : topic = .request
  · subst hrequest
    rcases (ingest_writes h).row r hr with hr | ⟨hs, -⟩
    · -- a record that the request did not write was requested before
      obtain ⟨hstage, earlier, hearlier⟩ := hstatus r hr howns
      rw [hearlier.1] at hstage
      have heq : earlier = .request := by
        cases earlier <;> first | rfl | exact absurd hstage (by decide)
      rwa [heq] at hearlier
    · exact hs
  · exact hlater hrequest

/-- The records after an event. -/
lemma processReturnWebhook_records (hidentity : resolveReturnIdentity payload = some identity) :
    (db.processReturnWebhook topic eventId payload answer).1.returnRecord =
      match db.ingest identity topic eventId payload answer with
      | .ok (db', _) => db'.returnRecord
      | .error _ => db.returnRecord := by
  simp only [processReturnWebhook, hidentity]
  cases db.ingest identity topic eventId payload answer with
  | error error => rfl
  | ok result =>
      obtain ⟨db', count⟩ := result
      simp only
      cases pickupCounts topic count answer <;> rfl

end ReturnDb

/-! ## Runs in order -/

namespace ReturnRun

variable {identity : ReturnIdentity} {w w' : ReturnRun} {m : ReturnMove}

/-- What holds in every state of a run in order. -/
structure Sound (identity : ReturnIdentity) (w : ReturnRun) : Prop where
  key : KeyUnique ReturnRecord.id w.db.returnRecord
  status : ∀ r ∈ w.db.returnRecord, identity.Owns r → ∃ topic ∈ w.committed,
    ReturnDb.HasStatusOf topic r ∧ ∀ other ∈ w.committed, other.stage ≤ topic.stage
  agrees : Agrees identity w
  /-- Before the first record only requests without lines can have been processed. -/
  first : (∀ r ∈ w.db.returnRecord, ¬identity.Owns r) → ∀ other ∈ w.committed, other = .request

lemma New.sound (h : New identity w) : Sound identity w where
  key := h.2.1
  status := fun r hr howns => absurd howns (h.2.2 r hr)
  agrees := fun r hr howns => absurd howns (h.2.2 r hr)
  first := fun _ other hother => by simp [h.1] at hother

/-- The two outcomes of an event. -/
lemma step_process {e : ReturnEvent} (hidentity : resolveReturnIdentity e.payload = some identity)
    (h : step identity (.process e) w = .ok w') :
    (w'.db.returnRecord = w.db.returnRecord ∧ w'.committed = w.committed) ∨
      ∃ db' count, w.db.ingest identity e.topic e.eventId e.payload e.answer = .ok (db', count) ∧
        w'.db.returnRecord = db'.returnRecord ∧ w'.committed = w.committed ++ [e.topic] := by
  obtain rfl := Except.ok.inj h
  have hrecords :
      (w.db.processReturnWebhook e.topic e.eventId e.payload e.answer).1.returnRecord = _ :=
    ReturnDb.processReturnWebhook_records hidentity
  cases hingest : w.db.ingest identity e.topic e.eventId e.payload e.answer with
  | error error =>
      simp only [hingest] at hrecords
      exact .inl ⟨hrecords, by simp⟩
  | ok result =>
      simp only [hingest] at hrecords
      exact .inr ⟨result.1, result.2, rfl, hrecords, by simp⟩

/-- Without new records the statuses are those of before. -/
lemma Sound.of_eq (hw : Sound identity w) (hrecords : w'.db.returnRecord = w.db.returnRecord)
    (hcommitted : w'.committed = w.committed) : Sound identity w' := by
  refine ⟨hrecords ▸ hw.key, ?_, ?_, ?_⟩
  · rw [hrecords, hcommitted]
    exact hw.status
  · unfold Agrees
    rw [hrecords]
    exact hw.agrees
  · rw [hrecords, hcommitted]
    exact hw.first

lemma Sound.goesForward_of_eq (hw : Sound identity w)
    (hrecords : w'.db.returnRecord = w.db.returnRecord) : GoesForward identity w w' := by
  intro r hr _ r' hr' hid
  rw [hrecords] at hr'
  obtain rfl := hw.key.eq hr hr' hid.symm
  refine ⟨le_refl _, fun s hs s' hs' => ?_⟩
  rw [Option.mem_unique hs hs']

/-- An event that is not behind the records is at the latest stage so far. -/
lemma Sound.latest (hw : Sound identity w) {topic : ReturnLifecycleTopic}
    (hok : ∀ r ∈ w.db.returnRecord, identity.Owns r → r.status.stage ≤ topic.stage) :
    ∀ other ∈ w.committed, other.stage ≤ topic.stage := by
  intro other hother
  by_cases hnone : ∀ r ∈ w.db.returnRecord, ¬identity.Owns r
  · rw [hw.first hnone other hother]
    cases topic <;> decide
  · push Not at hnone
    obtain ⟨r, hr, howns⟩ := hnone
    obtain ⟨latest, -, hstatus, hmax⟩ := hw.status r hr howns
    have hstage := hok r hr howns
    rw [hstatus.1] at hstage
    exact (hmax other hother).trans hstage

/-- An event that commits before there is a record is a request. -/
lemma request_of_first {e : ReturnEvent} {db' : ReturnDb} {count : ℕ}
    (hnone : ∀ r ∈ w.db.returnRecord, ¬identity.Owns r)
    (h : w.db.ingest identity e.topic e.eventId e.payload e.answer = .ok (db', count)) :
    e.topic = .request := by
  by_contra hne
  have happlied : w.db.applyReturnLifecycleStatus identity e.topic e.eventId e.answer =
      .ok (db', count) := by
    generalize e.topic = topic at h hne ⊢
    cases topic <;> first | exact absurd rfl hne | exact h
  simp only [ReturnDb.applyReturnLifecycleStatus, bind_eq_ok, require_eq_ok] at happlied
  obtain ⟨-, hcount, -⟩ := happlied
  refine hcount ?_
  rw [List.length_eq_zero_iff, List.filter_eq_nil_iff]
  simpa using hnone

/-- **One event in order.** -/
theorem Sound.step (hw : Sound identity w) (hok : InOrder identity w m)
    (h : ReturnRun.step identity m w = .ok w') : Sound identity w' ∧ GoesForward identity w w' := by
  cases m with
  | changeOrders orders owners =>
      obtain rfl := Except.ok.inj h
      exact ⟨hw.of_eq rfl rfl, hw.goesForward_of_eq rfl⟩
  | process e =>
      rcases step_process hok.1 h with
        ⟨hrecords, hcommitted⟩ | ⟨db', count, hingest, hrecords, hcommitted⟩
      · exact ⟨hw.of_eq hrecords hcommitted, hw.goesForward_of_eq hrecords⟩
      · have hwrites := ReturnDb.ingest_writes hingest
        have hlatest := hw.latest hok.2
        have hstatus := ReturnDb.ingest_hasStatus hingest fun r hr howns => by
          obtain ⟨topic, -, hs, -⟩ := hw.status r hr howns
          exact ⟨hok.2 r hr howns, topic, hs⟩
        refine ⟨⟨hrecords ▸ hwrites.key hw.key, ?_, ?_, ?_⟩, ?_⟩
        · rw [hrecords, hcommitted]
          refine fun r hr howns => ⟨e.topic, by simp, hstatus r hr howns, ?_⟩
          rw [List.forall_mem_append]
          exact ⟨hlatest, by simp⟩
        · unfold Agrees
          rw [hrecords]
          intro r hr howns r' hr' howns'
          obtain ⟨hs, hs'⟩ := hstatus r hr howns
          have hother := (hstatus r' hr' howns').1
          exact ⟨hs.trans hother.symm, by rw [hs', hother]⟩
        · rw [hrecords, hcommitted]
          intro hnone
          have hbefore : ∀ r ∈ w.db.returnRecord, ¬identity.Owns r := by
            intro r hr howns
            obtain ⟨r', hr', howns'⟩ := hwrites.owned r hr howns
            exact hnone r' hr' howns'
          rw [List.forall_mem_append]
          exact ⟨hw.first hbefore, by simpa using request_of_first hbefore hingest⟩
        · intro r hr howns r' hr' hid
          rw [hrecords] at hr'
          rcases hwrites.row r' hr' with hold | ⟨hs, -⟩
          · obtain rfl := hw.key.eq hr hold hid.symm
            exact ⟨le_refl _, fun s hs s' hs' => (Option.mem_unique hs hs') ▸ le_refl _⟩
          · obtain ⟨topic, -, hbefore, -⟩ := hw.status r hr howns
            have hstage := hok.2 r hr howns
            refine ⟨hs.1 ▸ hstage, fun s hmem s' hmem' => ?_⟩
            rw [hbefore.2] at hmem
            rw [hs.2] at hmem'
            obtain rfl := Option.some.inj hmem
            obtain rfl := Option.some.inj hmem'
            rw [hbefore.1] at hstage
            exact hstage

/-- **The status of a return goes forward**, as long as no event is behind its records: the records
agree, their status is the one of the latest stage processed, and no event takes it back. -/
theorem returnLifecycle_forward (hw : Reaches identity (InOrder identity) w) :
    Agrees identity w ∧ IsLatest identity w ∧ ∀ m w', InOrder identity w m →
      step identity m w = .ok w' → GoesForward identity w w' := by
  have hsound : Sound identity w := by
    unfold Reaches at hw
    refine hw.invariant (fun _ hs => hs.sound) ?_
    rintro s t - hs ⟨m, hok, hstep⟩
    exact (hs.step hok hstep).1
  refine ⟨hsound.agrees, fun r hr howns => ?_, fun m w' hok hstep => (hsound.step hok hstep).2⟩
  obtain ⟨topic, htopic, hs, hmax⟩ := hsound.status r hr howns
  exact ⟨topic, htopic, hs.1, hmax⟩

/-! ### A late approval -/

def sampleReturn : ReturnIdentity := ⟨"70", "gid://shopify/Return/70"⟩

/-- An order with one line, owned by one allocation. -/
def sampleReturnDb : ReturnDb where
  webhookEvent := []
  shopifyOrder := [⟨"o1", "900", [⟨"l1", "500", some "SKU"⟩]⟩]
  allocationLineOwner := [⟨"l1", ⟨"a1", "v1", "#1001"⟩⟩]
  returnRecord := []

def sampleReturnAnswer : ReturnAnswer where
  details := .ok ⟨"gid://shopify/Order/900",
    [⟨"gid://shopify/ReturnLineItem/1", some "gid://shopify/LineItem/500", some "SKU", none, none,
      none⟩], none⟩
  economicOwner := fun _ => .ok "v1"
  pickups := .ok (0, 1)
  now := 0

def sampleReturnEvent (topic : ReturnLifecycleTopic) : ReturnMove :=
  .process ⟨topic, "e", ⟨.other, .number "70", .other⟩, sampleReturnAnswer⟩

lemma sampleReturnDb_new : New sampleReturn ⟨sampleReturnDb, []⟩ :=
  ⟨rfl, .nil _, by simp [sampleReturnDb]⟩

instance (identity : ReturnIdentity) (w : ReturnRun) : DecidablePred (InOrder identity w)
  | .process _ => inferInstanceAs (Decidable (_ ∧ _))
  | .changeOrders _ _ => .isTrue trivial

instance (identity : ReturnIdentity) (w : ReturnRun) : DecidablePred (EventOf identity w)
  | .process _ => inferInstanceAs (Decidable (_ = _))
  | .changeOrders _ _ => .isTrue trivial

/-- Request, approval and closing in this order. -/
theorem returnLifecycle_forward_closed : ∃ w, w.committed = [.request, .approve, .close] ∧
    Agrees sampleReturn w ∧ IsLatest sampleReturn w := by
  have hrun : Succeeds (runActions (guarded (InOrder sampleReturn) () (step sampleReturn))
      [sampleReturnEvent .request, sampleReturnEvent .approve, sampleReturnEvent .close]
      ⟨sampleReturnDb, []⟩) fun w => w.committed = [.request, .approve, .close] := by
    decide +kernel
  obtain ⟨w, hw, hcommitted⟩ := succeeds_iff.mp hrun
  have hforward := returnLifecycle_forward (reachable_of_runGuarded (.start sampleReturnDb_new) hw)
  exact ⟨w, hcommitted, hforward.1, hforward.2.1⟩

/-- The approval comes again after the closing, and the closed record is approved again. -/
theorem returnLifecycle_goesBack : ∃ w w', Reaches sampleReturn (EventOf sampleReturn) w ∧
    step sampleReturn (sampleReturnEvent .approve) w = .ok w' ∧
      ¬GoesForward sampleReturn w w' ∧ ¬IsLatest sampleReturn w' := by
  have hrun : Succeeds (runActions (guarded (EventOf sampleReturn) () (step sampleReturn))
      [sampleReturnEvent .request, sampleReturnEvent .close] ⟨sampleReturnDb, []⟩) fun w =>
        ∃ r ∈ w.db.returnRecord, sampleReturn.Owns r ∧ r.status = .closed ∧
          ∃ r' ∈ (w.db.processReturnWebhook .approve "e" ⟨.other, .number "70", .other⟩
            sampleReturnAnswer).1.returnRecord, r'.id = r.id ∧ sampleReturn.Owns r' ∧
              r'.status = .approved ∧ w.committed = [.request, .close] := by
    decide +kernel
  obtain ⟨w, hw, r, hr, howns, hclosed, r', hr', hid, howns', happroved, hcommitted⟩ :=
    succeeds_iff.mp hrun
  refine ⟨w, _, reachable_of_runGuarded (.start sampleReturnDb_new) hw, rfl, ?_, ?_⟩
  · intro hforward
    have hstage := (hforward r hr howns r' hr' hid).1
    rw [hclosed, happroved] at hstage
    exact absurd hstage (by decide)
  · intro hlatest
    obtain ⟨topic, -, hstatus, hmax⟩ := hlatest r' hr' howns'
    have hclose : ReturnLifecycleTopic.close.stage ≤ topic.stage := by
      refine hmax _ ?_
      simp only [hcommitted]
      split <;> simp
    rw [happroved] at hstatus
    cases topic <;> first | exact absurd hstatus (by decide) | exact absurd hclose (by decide)

end ReturnRun

end VendorDashboard.Shopify
