import VendorDashboard.Properties.AdminRefundSteps

/-!
# An administrator's refund pays once

While the calls are careful, the calls of `createShopifyRefund` for the lines of one allocation
carry one key, unless Shopify refused the earlier key, and the attempt of a refund that exists is
neither failed nor back to a preview.

A call is not careful when it locks an attempt beside another one that is in progress, sends an
attempt that no longer is, or writes an attempt as failed or as a preview although a call under its
key may have taken effect.  The reads and the writes of the services are separate statements and
the writes do not look at the status, so that each of these happens
(`adminRefund_paysTwice`).
-/

namespace VendorDashboard.Orders

open Finance (Id Instant)
open Table Transaction Run Interleaving

/-! ## The property -/

namespace AdminRefundStore

variable (s : AdminRefundStore)

/-- No attempt, no claim, and no call to Shopify. -/
structure Fresh : Prop where
  attempts : s.db.outboundShopifyRefundAttempt = []
  claims : s.db.orderShippingRefundClaim = []
  calls : s.calls = []
  allocations : KeyUnique VendorAllocation.id s.db.vendorAllocation

/-- Two calls for the lines of one allocation have one key, unless a call under the earlier key was
answered with user errors before. -/
def PaysOnce : Prop :=
  ∀ earlier c', earlier ++ [c'] <+: s.calls → ∀ c ∈ earlier,
    c.input.refundLineItems ≠ [] → c'.input.refundLineItems ≠ [] →
    c.input.idempotencyKey.allocationId = c'.input.idempotencyKey.allocationId →
    c.input.idempotencyKey ≠ c'.input.idempotencyKey →
      ∃ x ∈ earlier, x.input.idempotencyKey = c.input.idempotencyKey ∧ x.outcome = .userErrors

/-- The attempt of a refund that exists is neither failed nor a preview. -/
def RefundsStand : Prop :=
  ∀ a ∈ s.db.outboundShopifyRefundAttempt, s.HasRefund ⟨a.vendorAllocationId, a.id⟩ →
    a.status ≠ .failed ∧ a.status ≠ .previewed

/-! ## Careful calls -/

/-- Every call under the key of the attempt was answered with user errors. -/
def OnlyUserErrors (attemptId : Id) : Prop :=
  ∀ c ∈ s.calls, c.input.idempotencyKey.attemptId = attemptId → c.outcome = .userErrors

def InProgress (attemptId : Id) : Prop :=
  ∃ a ∈ s.db.outboundShopifyRefundAttempt, a.id = attemptId ∧ a.InProgress

instance (attemptId : Id) : Decidable (s.OnlyUserErrors attemptId) :=
  inferInstanceAs (Decidable (∀ c ∈ s.calls, _))

instance (attemptId : Id) : Decidable (s.InProgress attemptId) :=
  inferInstanceAs (Decidable (∃ a ∈ s.db.outboundShopifyRefundAttempt, _))

end AdminRefundStore

/-- An attempt is locked while no other one of its allocation is in progress, and sent while it is;
and it is written as failed or as a preview while Shopify has refused every call under its key. -/
def AdminRefundPosition.Careful (s : AdminRefundStore) : AdminRefundPosition → Prop
  | .writeLock existing request _ => ∀ a ∈ s.db.outboundShopifyRefundAttempt,
      a.vendorAllocationId = request.target.allocationId → a.InProgress → existing = some a.id
  | .createShopifyRefund _ e => s.InProgress e.attemptId
  | .writePreview (some id) _ => s.OnlyUserErrors id
  | .failAttempt _ _ e => s.OnlyUserErrors e.attemptId
  | _ => True

instance (s : AdminRefundStore) (p : AdminRefundPosition) : Decidable (p.Careful s) := by
  unfold AdminRefundPosition.Careful
  split <;> infer_instance

/-- The executions and previews, with nothing else. -/
abbrev adminRefundCalls :
    Program AdminRefundStore AdminRefundPosition AdminRefundCall AdminRefundReply Empty :=
  adminRefunds fun e _ => e.elim

abbrev AdminRefundWorld : Type := Interleaving.World AdminRefundStore AdminRefundPosition

/-- Every step that takes effect is careful. -/
def CarefulCalls {ε : Type} (w : AdminRefundWorld) : Move AdminRefundCall AdminRefundReply ε → Prop
  | .run i reply => ∀ p ∈ w.process i, p.TakesEffect reply → p.Careful w.shared
  | _ => True

instance {ε : Type} (w : AdminRefundWorld) (m : Move AdminRefundCall AdminRefundReply ε) :
    Decidable (CarefulCalls w m) := by
  unfold CarefulCalls
  split <;> infer_instance

/-! ## The invariant -/

/-- At most one attempt of an allocation is in progress, and the attempt of every call is, unless
Shopify has refused all calls under its key. -/
structure AdminRefundStore.KeysSound (s : AdminRefundStore) : Prop where
  key : KeyUnique OutboundShopifyRefundAttempt.id s.db.outboundShopifyRefundAttempt
  single : ∀ a ∈ s.db.outboundShopifyRefundAttempt, ∀ b ∈ s.db.outboundShopifyRefundAttempt,
    a.InProgress → b.InProgress → a.vendorAllocationId = b.vendorAllocationId → a.id = b.id
  called : ∀ c ∈ s.calls, ∃ a ∈ s.db.outboundShopifyRefundAttempt,
    a.id = c.input.idempotencyKey.attemptId ∧
      a.vendorAllocationId = c.input.idempotencyKey.allocationId ∧
        (a.InProgress ∨ s.OnlyUserErrors a.id)
  once : s.calls.Pairwise fun c c' =>
    c.input.idempotencyKey.allocationId = c'.input.idempotencyKey.allocationId →
      c.input.idempotencyKey ≠ c'.input.idempotencyKey → c.outcome = .userErrors

/-- What is known of a call: its attempt exists, and so does the refund that it records. -/
structure AdminRefundPosition.Owns (s : AdminRefundStore) (p : AdminRefundPosition) : Prop where
  attempt : ∀ key, p.attempt = some key → s.db.HasAttempt key
  call : p.CallsOwnKey
  refunded : ∀ e, p.refundedBy = some e → s.HasRefund e.key

namespace AdminRefundStore

variable {s s' : AdminRefundStore} {id : Id} {key : ShopifyRefundIdempotencyKey}
  {f : OutboundShopifyRefundAttempt → OutboundShopifyRefundAttempt}

lemma Fresh.keysSound (h : s.Fresh) : s.KeysSound where
  key := by
    rw [h.attempts]
    exact .nil _
  single := fun a ha => by
    rw [h.attempts] at ha
    cases ha
  called := fun c hc => by
    rw [h.calls] at hc
    cases hc
  once := by
    rw [h.calls]
    exact .nil

/-- An attempt is updated. -/
lemma KeysSound.update (h : s.KeysSound) (hid : ∀ a, (f a).id = a.id)
    (halloc : ∀ a, (f a).vendorAllocationId = a.vendorAllocationId)
    (hsingle : ∀ a ∈ s.db.outboundShopifyRefundAttempt, a.id = id → (f a).InProgress →
      ∀ b ∈ s.db.outboundShopifyRefundAttempt, b.InProgress →
        b.vendorAllocationId = a.vendorAllocationId → b.id = id)
    (hcalled : (∀ a, (f a).InProgress) ∨ s.OnlyUserErrors id) :
    (s.withDb (s.db.updateAttempt id f)).KeysSound where
  key := h.key.updateWhere hid
  single := by
    intro a' ha' b' hb' hina hinb hsame
    obtain ⟨a, ha, hcase⟩ := CancellationDb.mem_updateAttempt.mp ha'
    obtain ⟨b, hb, hcase'⟩ := CancellationDb.mem_updateAttempt.mp hb'
    rcases hcase with ⟨haid, rfl⟩ | ⟨-, rfl⟩ <;> rcases hcase' with ⟨hbid, rfl⟩ | ⟨-, rfl⟩
    · rw [hid, hid, haid, hbid]
    · rw [halloc] at hsame
      rw [hid, haid, hsingle a ha haid hina b' hb hinb hsame.symm]
    · rw [halloc] at hsame
      rw [hid, hbid, hsingle b hb hbid hinb a' ha hina hsame]
    · exact h.single a' ha b' hb hina hinb hsame
  called := by
    intro c hc
    obtain ⟨a, ha, hkey, halloc', hstate⟩ := h.called c hc
    by_cases haid : a.id = id
    · refine ⟨f a, CancellationDb.mem_updateAttempt.mpr ⟨a, ha, .inl ⟨haid, rfl⟩⟩,
        (hid a).trans hkey, (halloc a).trans halloc', ?_⟩
      rcases hcalled with hprogress | herrors
      · exact .inl (hprogress a)
      · rw [hid, haid]
        exact .inr herrors
    · exact ⟨a, CancellationDb.mem_updateAttempt.mpr ⟨a, ha, .inr ⟨haid, rfl⟩⟩, hkey, halloc', hstate⟩
  once := h.once

/-- An attempt is inserted. -/
lemma KeysSound.insert {attempt : OutboundShopifyRefundAttempt} {db : CancellationDb}
    (h : s.KeysSound) (hdb : s.db.insertAttempt attempt = .ok db)
    (hsingle : attempt.InProgress → ∀ a ∈ s.db.outboundShopifyRefundAttempt,
      a.vendorAllocationId = attempt.vendorAllocationId → ¬a.InProgress) :
    (s.withDb db).KeysSound := by
  obtain ⟨hkey, rfl⟩ := CancellationDb.insertAttempt_ok hdb
  refine ⟨hkey, ?_, fun c hc => ?_, h.once⟩
  · intro a ha b hb hina hinb hsame
    rcases List.mem_append.mp ha with ha | ha <;> rcases List.mem_append.mp hb with hb | hb
    · exact h.single a ha b hb hina hinb hsame
    · rw [List.mem_singleton.mp hb] at hinb hsame
      exact absurd hina (hsingle hinb a ha hsame)
    · rw [List.mem_singleton.mp ha] at hina hsame
      exact absurd hinb (hsingle hina b hb hsame.symm)
    · rw [List.mem_singleton.mp ha, List.mem_singleton.mp hb]
  · obtain ⟨a, ha, hrest⟩ := h.called c hc
    exact ⟨a, List.mem_append_left _ ha, hrest⟩

/-- Shopify is called under the key of an attempt in progress. -/
lemma KeysSound.call {input : CreateShopifyRefundInput} {outcome : RefundCallOutcome}
    (h : s.KeysSound) (hkey : s.db.HasAttempt input.idempotencyKey)
    (hprogress : s.InProgress input.idempotencyKey.attemptId)
    (hs : s.createShopifyRefund input outcome = some s') : s'.KeysSound := by
  obtain ⟨-, rfl⟩ := AdminRefundPosition.createShopifyRefund_ok hs
  obtain ⟨a, ha, haid, halloc⟩ := hkey
  obtain ⟨a', ha', haid', hin⟩ := hprogress
  obtain rfl : a' = a := h.key.eq ha' ha (haid'.trans haid.symm)
  refine ⟨h.key, h.single, fun c hc => ?_, ?_⟩
  · rcases List.mem_append.mp hc with hc | hc
    · obtain ⟨b, hb, hbid, hballoc, hstate⟩ := h.called c hc
      refine ⟨b, hb, hbid, hballoc, ?_⟩
      by_cases hsame : b.id = a'.id
      · obtain rfl := h.key.eq hb ha hsame
        exact .inl hin
      · refine hstate.imp_right fun herrors x hx hxid => ?_
        rcases List.mem_append.mp hx with hx | hx
        · exact herrors x hx hxid
        · obtain rfl := List.mem_singleton.mp hx
          exact absurd (hxid.symm.trans haid.symm) hsame
    · obtain rfl := List.mem_singleton.mp hc
      exact ⟨a', ha, haid, halloc, .inl hin⟩
  · refine List.pairwise_append.mpr ⟨h.once, List.pairwise_singleton _ _, fun c hc c' hc' => ?_⟩
    obtain rfl := List.mem_singleton.mp hc'
    intro hsame hne
    obtain ⟨b, hb, hbid, hballoc, hstate⟩ := h.called c hc
    rcases hstate with hbin | herrors
    · -- both attempts are in progress, so that they are one
      have hid := h.single b hb a' ha hbin hin (hballoc.trans (hsame.trans halloc.symm))
      refine absurd ?_ hne
      have hattempt : c.input.idempotencyKey.attemptId = input.idempotencyKey.attemptId := by
        rw [← hbid, hid, haid]
      cases hc₀ : c.input.idempotencyKey
      cases hi₀ : input.idempotencyKey
      rw [hc₀, hi₀] at hattempt
      rw [hc₀] at hsame
      dsimp only at hsame hattempt
      rw [hi₀] at hsame
      rw [hsame, hattempt]
    · exact herrors c hc hbid.symm

/-- The attempt of a refund that exists is in progress. -/
lemma KeysSound.inProgress (h : s.KeysSound) (hrefund : s.HasRefund key) :
    ∃ a ∈ s.db.outboundShopifyRefundAttempt, a.id = key.attemptId ∧
      a.vendorAllocationId = key.allocationId ∧ a.InProgress := by
  obtain ⟨c, hc, rfl, refundId, hcreated⟩ := hrefund
  obtain ⟨a, ha, hid, halloc, hin | herrors⟩ := h.called c hc
  · exact ⟨a, ha, hid, halloc, hin⟩
  · have hrefused := herrors c hc hid.symm
    rw [hcreated] at hrefused
    cases hrefused

lemma KeysSound.paysOnce (h : s.KeysSound) : s.PaysOnce := by
  intro earlier c' hprefix c hc _ _ hsame hne
  obtain ⟨rest, hrest⟩ := hprefix
  have hpairwise := h.once
  rw [← hrest, List.append_assoc, List.pairwise_append] at hpairwise
  have hrefused := hpairwise.2.2 c hc c' (List.mem_append_left _ (List.mem_singleton_self c')) hsame
    hne
  exact ⟨c, hc, rfl, hrefused⟩

lemma KeysSound.refundsStand (h : s.KeysSound) : s.RefundsStand := by
  intro a ha hrefund
  obtain ⟨b, hb, hid, -, hin⟩ := h.inProgress hrefund
  obtain rfl := h.key.eq hb ha hid
  rcases hin with hready | hpending
  · rw [hready]
    exact ⟨by decide, by decide⟩
  · rw [hpending]
    exact ⟨by decide, by decide⟩

end AdminRefundStore

/-! ## Steps -/

namespace AdminRefundPosition

variable {p q : AdminRefundPosition} {s s' : AdminRefundStore}

lemma Owns.start (s : AdminRefundStore) (call : AdminRefundCall) : (start call).Owns s := by
  unfold AdminRefundPosition.start
  split
  · exact ⟨(fun _ hkey => by cases hkey), (fun _ _ heq => by cases heq), fun _ he => by cases he⟩
  · exact ⟨(fun _ hkey => by cases hkey), (fun _ _ heq => by cases heq), fun _ he => by cases he⟩

/-- What is known of a call stays true while others take steps. -/
lemma Owns.grows {r : AdminRefundPosition} (hr : r.Owns s)
    (hattempt : ∀ key, s.db.HasAttempt key → s'.db.HasAttempt key)
    (hrefund : ∀ key, s.HasRefund key → s'.HasRefund key) : r.Owns s' :=
  ⟨fun key hkey => hattempt key (hr.attempt key hkey), hr.call,
    fun e he => hrefund e.key (hr.refunded e he)⟩

lemma Owns.follows (hp : p.Owns s) (h : p.Follows s' q)
    (hattempt : ∀ key, s.db.HasAttempt key → s'.db.HasAttempt key)
    (hrefund : ∀ key, s.HasRefund key → s'.HasRefund key) : q.Owns s' where
  attempt := fun key hkey => (h.attempt key hkey).elim
    (fun hkey => hattempt key (hp.attempt key hkey)) id
  call := h.call
  refunded := fun e he => by
    rcases h.refunded e he with ⟨e₀, he₀, hkey⟩ | hnew
    · rw [← hkey]
      exact hrefund _ (hp.refunded e₀ he₀)
    · exact hnew

/-- A careful step keeps the invariant of the store. -/
lemma Writes.keysSound (h : Writes s p s') (hs : s.KeysSound) (hp : p.Owns s)
    (hcareful : p.Careful s) : s'.KeysSound := by
  cases h with
  | nothing => exact hs
  | @preview existing input newId now db hdb =>
      cases existing with
      | some id =>
          obtain rfl := Except.ok.inj hdb
          refine hs.update (fun _ => rfl) (fun _ => rfl) (fun a _ _ hin => ?_) (.inr hcareful)
          rcases hin with hin | hin <;> cases hin
      | none => exact hs.insert hdb fun hin => by rcases hin with hin | hin <;> cases hin
  | @lock existing request refundShipping newId now db hdb =>
      cases existing with
      | some id =>
          obtain rfl := Except.ok.inj hdb
          obtain ⟨x, hx, hxid, hxalloc⟩ := hp.attempt _ rfl
          refine hs.update (fun _ => rfl) (fun _ => rfl) (fun a ha haid _ b hb hin hsame => ?_)
            (.inl fun _ => .inl rfl)
          obtain rfl : a = x := hs.key.eq ha hx (haid.trans hxid.symm)
          exact (Option.some.inj (hcareful b hb (hsame.trans hxalloc) hin)).symm
      | none =>
          refine hs.insert hdb fun _ a ha halloc hin => ?_
          cases hcareful a ha halloc hin
  | claim hdb =>
      obtain ⟨-, -, rfl⟩ := insertShippingClaim_ok hdb
      exact ⟨hs.key, hs.single, hs.called, hs.once⟩
  | @call input e outcome s' hs' =>
      have hkey := (hp.call input e rfl).1
      refine hs.call ?_ ?_ hs'
      · rw [hkey]
        exact hp.attempt e.key rfl
      · rw [hkey]
        exact hcareful
  | fail response again e =>
      refine hs.update (fun _ => rfl) (fun _ => rfl) (fun a _ _ hin => ?_) (.inr hcareful)
      rcases hin with hin | hin <;> cases hin
  | submitted refundId check e =>
      refine hs.update (fun _ => rfl) (fun _ => rfl) (fun a ha haid _ b hb hin hsame => ?_)
        (.inl fun _ => .inr rfl)
      -- the attempt of the refund is in progress already
      obtain ⟨x, hx, hxid, -, hxin⟩ := hs.inProgress (hp.refunded e rfl)
      obtain rfl : a = x := hs.key.eq ha hx (haid.trans hxid.symm)
      exact (hs.single b hb a ha hin hxin hsame).trans haid
  | review => exact ⟨hs.key, hs.single, hs.called, hs.once⟩

end AdminRefundPosition

/-! ## Runs -/

lemma adminRefundCalls_sound : adminRefundCalls.Sound AdminRefundStore.Fresh CarefulCalls
    AdminRefundStore.KeysSound fun _ s p => p.Owns s where
  init := fun _ h => h.keysSound
  start := fun _ s call _ => .start s call
  run := by
    intro w i reply p s q hw hp hok hrun
    have howns := hw.2 i p hp
    have hfollows := AdminRefundPosition.run_follows howns.call hrun
    rcases AdminRefundPosition.run_writes hrun with rfl | ⟨heffect, hwrites⟩
    · exact ⟨hw.1, howns.follows hfollows (fun _ h => h) fun _ h => h⟩
    · exact ⟨hwrites.keysSound hw.1 howns (hok p hp heffect),
        howns.follows hfollows (fun _ => hwrites.hasAttempt) fun _ => hwrites.hasRefund⟩
  interference := by
    intro w i reply p s q hw hp _ hrun j r _ hr
    have howns := hw.2 j r hr
    rcases AdminRefundPosition.run_writes hrun with rfl | ⟨-, hwrites⟩
    · exact howns
    · exact howns.grows (fun _ => hwrites.hasAttempt) fun _ => hwrites.hasRefund
  outside := fun _ e => e.elim

/-- **An administrator's refund pays the customer once**, in every run whose steps are careful: the
calls to Shopify for the lines of an allocation carry one key, unless the earlier key was refused,
and the attempt of a refund that exists is neither failed nor a preview. -/
theorem adminRefund_paysOnce {w : AdminRefundWorld}
    (h : adminRefundCalls.Reaches AdminRefundStore.Fresh CarefulCalls w) :
    w.shared.PaysOnce ∧ w.shared.RefundsStand :=
  have hsound := (adminRefundCalls_sound.holds h).1
  ⟨hsound.paysOnce, hsound.refundsStand⟩

/-! ## Runs that pay twice -/

section Samples

/-- An order with one line, whose allocation is in review. -/
def sampleReviewedDb : CancellationDb :=
  { CancellationDb.empty with
    shopifyOrder := [⟨1, 100, some "TRY", [⟨11, 111, 1⟩]⟩]
    vendorAllocation :=
      [{ id := 21
         orderId := 1
         allocationStatus := .vendorBlocked
         reassignmentRequired := true
         hasCancellationReason := true
         cancelRefundReviewStatus := some .pendingReview
         existingShipmentAuthority := .pending
         localShipmentConflict := false
         hasReturnRecords := false
         refundRecords := []
         hasCompletedEconomicTransfer := false
         hasOpenFinanceIntegrityAlert := false
         hasProgressedFinance := false
         hasFinanceConflict := false }]
    vendorAllocationLineItem := [⟨21, 11, 1⟩] }

def sampleRefundStore : AdminRefundStore := ⟨sampleReviewedDb, []⟩

lemma sampleRefundStore_fresh : sampleRefundStore.Fresh :=
  ⟨rfl, rfl, rfl, by simp [KeyUnique, sampleRefundStore, sampleReviewedDb]⟩

abbrev AdminRefundMove : Type := Move AdminRefundCall AdminRefundReply Empty

def sampleExecution : AdminRefundCall :=
  .execute 100 21 ⟨true, some "NO_RESTOCK", some "Customer cancelled.", false, false⟩

def samplePreview : AdminRefundCall := .preview 100 21 (some "NO_RESTOCK")

/-- Call `i` reads the allocation, which has no shipments, and its order, whose shipping stays. -/
def sampleChecks (i : ℕ) : List AdminRefundMove :=
  [.run i (.answered (.evidence ⟨false, true, false⟩)), .run i (.answered (.eligibility []))]

/-- Call `i` looks for an attempt and for a preview. -/
def sampleLooks (i : ℕ) : List AdminRefundMove :=
  [.run i (.answered (.statement 0)), .run i (.answered (.statement 0))]

def sampleSuggestedRefund : PreviewSuggestedRefundResult :=
  ⟨[(111, 1)], some ⟨[⟨some 1, some 100, some "gateway", none⟩], some 100, none, none⟩, []⟩

/-- Call `i` prepares the refund with Shopify. -/
def samplePrepares (i : ℕ) : List AdminRefundMove :=
  [.run i (.answered (.classification ⟨.noCancellationNeeded, false, true, 0⟩)),
    .run i (.answered (.eligibility [])), .run i (.answered (.preview sampleSuggestedRefund))]

/-- Two executions of an allocation each find no attempt, lock one, and refund the line. -/
def sampleTwoAttempts : List AdminRefundMove :=
  [.start 0 sampleExecution, .start 1 sampleExecution] ++ sampleChecks 0 ++ sampleChecks 1 ++
    sampleLooks 0 ++ sampleLooks 1 ++
    [.run 0 (.answered (.inserted 51 1)), .run 1 (.answered (.inserted 52 2))] ++
    samplePrepares 0 ++ samplePrepares 1 ++
    [.run 0 (.answered (.created 900 true)), .run 1 (.answered (.created 901 true))]

/-- A refund takes effect but its answer is lost; the execution that is called next takes over the
attempt, and its classification fails. -/
def sampleFailedRetry : List AdminRefundMove :=
  [.start 0 sampleExecution] ++ sampleChecks 0 ++ sampleLooks 0 ++
    [.run 0 (.answered (.inserted 51 1))] ++ samplePrepares 0 ++
    [.run 0 (.lost (.created 900 true)), .start 1 sampleExecution] ++ sampleChecks 1 ++
    [.run 1 (.answered (.statement 0)), .run 1 .failed, .run 1 (.answered (.statement 2))]

/-- A preview reads the preview before it, which an execution locks and sends before the preview is
written. -/
def sampleStalePreview : List AdminRefundMove :=
  [.start 0 samplePreview] ++ sampleChecks 0 ++
    [.run 0 (.answered (.statement 0)), .run 0 (.answered (.previewed false [])),
      .run 0 (.answered (.statement 0)), .run 0 (.answered (.inserted 51 1)),
      .start 1 samplePreview] ++ sampleChecks 1 ++
    [.run 1 (.answered (.statement 0)), .run 1 (.answered (.previewed false [])),
      .run 1 (.answered (.statement 0)), .start 2 sampleExecution] ++ sampleChecks 2 ++
    sampleLooks 2 ++ [.run 2 (.answered (.inserted 52 2))] ++ samplePrepares 2 ++
    [.run 2 (.answered (.created 900 true)), .run 2 (.answered (.statement 3)),
      .run 2 (.answered (.statement 3)), .run 1 (.answered (.inserted 53 4))]

/-- Of two executions the first one's refund takes effect but its answer is lost; the second one
takes over the attempt and gets the same refund. -/
def sampleTakenOver : List AdminRefundMove :=
  [.start 0 sampleExecution, .start 1 sampleExecution] ++ sampleChecks 0 ++ sampleChecks 1 ++
    sampleLooks 0 ++ [.run 0 (.answered (.inserted 51 1))] ++ samplePrepares 0 ++
    [.run 0 (.lost (.created 900 true)), .run 1 (.answered (.statement 0))] ++ samplePrepares 1 ++
    [.run 1 (.answered (.created 900 true)), .run 1 (.answered (.statement 2)),
      .run 1 (.answered (.statement 2))]

/-- No call is running. -/
def NoCallRuns (w : AdminRefundWorld) : Prop :=
  ∀ i p, w.process i = some p → p.hasEnded = true

/-- Both executions have sent the refund of the line, under one key. -/
theorem adminRefund_paysOnce_takenOver : ∃ w,
    adminRefundCalls.Reaches AdminRefundStore.Fresh CarefulCalls w ∧
      w.shared.calls.map (fun c => (c.input.idempotencyKey, c.outcome)) =
        [(⟨21, 51⟩, .created 900), (⟨21, 51⟩, .created 900)] ∧
      (w.shared.PaysOnce ∧ w.shared.RefundsStand) := by
  have hrun : Succeeds (runActions (guarded CarefulCalls () adminRefundCalls.step)
      sampleTakenOver (.init sampleRefundStore)) fun w =>
        w.shared.calls.map (fun c => (c.input.idempotencyKey, c.outcome)) =
          [(⟨21, 51⟩, .created 900), (⟨21, 51⟩, .created 900)] := by
    decide +kernel
  obtain ⟨w, hw, hcalls⟩ := succeeds_iff.mp hrun
  have hreach : adminRefundCalls.Reaches AdminRefundStore.Fresh CarefulCalls w :=
    reachable_of_runGuarded (.start ⟨_, sampleRefundStore_fresh, rfl⟩) hw
  exact ⟨w, hreach, hcalls, adminRefund_paysOnce hreach⟩

/-- The attempt is one of a refund that exists, and has the status. -/
def RefundedWith (s : AdminRefundStore) (status : RefundAttemptStatus) : Prop :=
  ∃ a ∈ s.db.outboundShopifyRefundAttempt, a.status = status ∧
    ∃ c ∈ s.calls, c.input.idempotencyKey = ⟨a.vendorAllocationId, a.id⟩ ∧ c.outcome = .created 900

instance (s : AdminRefundStore) (status : RefundAttemptStatus) :
    Decidable (RefundedWith s status) :=
  inferInstanceAs (Decidable (∃ a ∈ s.db.outboundShopifyRefundAttempt, _))

lemma RefundedWith.not_refundsStand {s : AdminRefundStore} {status : RefundAttemptStatus}
    (h : RefundedWith s status) (hstatus : status = .failed ∨ status = .previewed) :
    ¬s.RefundsStand := by
  intro hstand
  obtain ⟨a, ha, rfl, c, hc, hkey, hcreated⟩ := h
  obtain ⟨hfailed, hpreviewed⟩ := hstand a ha ⟨c, hc, hkey, 900, hcreated⟩
  exact hstatus.elim hfailed hpreviewed

/-- The run starts no call but those below `n`. -/
def startsBelow (n : ℕ) (ms : List AdminRefundMove) : Bool :=
  ms.all fun m => match m with
    | .start i _ => decide (i < n)
    | _ => true

lemma startsBelow_iff {n : ℕ} {ms : List AdminRefundMove} :
    startsBelow n ms = true ↔ ∀ m ∈ ms, ∀ i call, m = .start i call → i < n := by
  unfold startsBelow
  rw [List.all_eq_true]
  refine forall₂_congr fun m _ => ?_
  cases m with
  | start i call => simp
  | run i reply => simp
  | outside e => simp

/-- Of the calls `0`, `1` and `2`, each that was started has ended. -/
lemma noCallRuns_of_run {ε : Type} {outside : ε → AdminRefundStore → Option AdminRefundStore}
    {ms : List (Move AdminRefundCall AdminRefundReply ε)} {s : AdminRefundStore}
    {w : AdminRefundWorld} (hw : runActions (adminRefunds outside).step ms (.init s) = .ok w)
    (hms : ∀ m ∈ ms, ∀ i call, m = .start i call → i < 3)
    (hended : ∀ i < 3, (w.process i).all (·.hasEnded) = true) : NoCallRuns w := by
  intro i p hp
  by_cases hi : i < 3
  · have hall := hended i hi
    rw [hp] at hall
    exact hall
  · have hnone : w.process i = none :=
      Program.process_none_of_runActions rfl (fun m hm call heq => hi (hms m hm i call heq)) hw
    rw [hnone] at hp
    cases hp

/-- A run whose calls have all ended and that leaves a refund under such a status. -/
lemma exists_lostRefund (ms : List AdminRefundMove) {status : RefundAttemptStatus}
    (hstatus : status = .failed ∨ status = .previewed) (hms : startsBelow 3 ms = true)
    (hrun : Succeeds (runActions adminRefundCalls.step ms (.init sampleRefundStore)) fun w =>
      RefundedWith w.shared status ∧ ∀ i < 3, (w.process i).all (·.hasEnded) = true) :
    ∃ w, adminRefundCalls.Reaches AdminRefundStore.Fresh (fun _ _ => True) w ∧ NoCallRuns w ∧
      RefundedWith w.shared status ∧ ¬w.shared.RefundsStand := by
  obtain ⟨w, hw, hrefunded, hended⟩ := succeeds_iff.mp hrun
  exact ⟨w, reachable_of_runActions (.start ⟨_, sampleRefundStore_fresh, rfl⟩)
    (fun _ _ _ => trivial) hw, noCallRuns_of_run hw (startsBelow_iff.mp hms) hended,
      hrefunded, hrefunded.not_refundsStand hstatus⟩

/-- Two executions send two keys; an execution that takes over an attempt fails it although its
refund exists; and a preview is written over an attempt that was sent. -/
theorem adminRefund_paysTwice :
    (∃ w, adminRefundCalls.Reaches AdminRefundStore.Fresh (fun _ _ => True) w ∧
      ¬w.shared.PaysOnce) ∧
    (∃ w, adminRefundCalls.Reaches AdminRefundStore.Fresh (fun _ _ => True) w ∧ NoCallRuns w ∧
      RefundedWith w.shared .failed ∧ ¬w.shared.RefundsStand) ∧
    ∃ w, adminRefundCalls.Reaches AdminRefundStore.Fresh (fun _ _ => True) w ∧ NoCallRuns w ∧
      RefundedWith w.shared .previewed ∧ ¬w.shared.RefundsStand := by
  refine ⟨?_, ?_, ?_⟩
  · have hrun : Succeeds (runActions adminRefundCalls.step sampleTwoAttempts
        (.init sampleRefundStore)) fun w => w.shared.calls.map
          (fun c => (c.input.refundLineItems, c.input.idempotencyKey, c.outcome)) =
            [([(111, 1)], ⟨21, 51⟩, .created 900), ([(111, 1)], ⟨21, 52⟩, .created 901)] := by
      decide +kernel
    obtain ⟨w, hw, hcalls⟩ := succeeds_iff.mp hrun
    refine ⟨w, reachable_of_runActions (.start ⟨_, sampleRefundStore_fresh, rfl⟩)
      (fun _ _ _ => trivial) hw, fun hpays => ?_⟩
    obtain ⟨c, rest, hc, hfirst, hrest⟩ := List.map_eq_cons_iff.mp hcalls
    obtain ⟨c', rest', hc', hsecond, hnil⟩ := List.map_eq_cons_iff.mp hrest
    obtain rfl := List.map_eq_nil_iff.mp hnil
    simp only [Prod.mk.injEq] at hfirst hsecond
    obtain ⟨hlines, hkey, houtcome⟩ := hfirst
    obtain ⟨hlines', hkey', -⟩ := hsecond
    have hprefix : [c] ++ [c'] <+: w.shared.calls := by
      rw [hc, hc']
      exact List.prefix_refl _
    obtain ⟨x, hx, -, hrefused⟩ := hpays [c] c' hprefix c (List.mem_singleton_self c)
      (by simp [hlines]) (by simp [hlines']) (by rw [hkey, hkey']) (by rw [hkey, hkey']; decide)
    obtain rfl := List.mem_singleton.mp hx
    rw [houtcome] at hrefused
    cases hrefused
  · exact exists_lostRefund sampleFailedRetry (.inl rfl) (by decide) (by decide +kernel)
  · exact exists_lostRefund sampleStalePreview (.inr rfl) (by decide) (by decide +kernel)

end Samples

end VendorDashboard.Orders
