import VendorDashboard.VendorIntegration.SopyoOrderPush

/-!
# A Sopyo order is created at most once and never denied

The call that takes a push out of `PENDING` is the only one that may create the order, and the only
one that may write `BLOCKED`: a reconciliation gives up with `RECONCILE_REQUIRED`.  So although a
stalled call can lose its claim and create the order afterwards, nothing it leaves behind says that
there is none.

`Dispatch.Writes` says what a step does to the store, `SopyoPushStore.Sound` and `Dispatch.Sound`
are the invariants.
-/

namespace VendorDashboard.VendorIntegration

open Finance (Id Instant)
open Interleaving Transaction Run

variable {β : Type}

/-! ## The invariants -/

/-- The provider was called for no order, or has rejected it. -/
def AllRejected (calls : List CreateCall) : Prop :=
  ∀ c ∈ calls, ∃ r, c.result = some r ∧ r.IsRejected

/-- The provider has shown an order with this code that came from here. -/
def ShowsOrder (seen : List SopyoOrderByCode) (orderCode : Id) (id : Option ℕ) : Prop :=
  ∃ o ∈ seen, o.orderType = some "SOPYOAPI" ∧ o.orderCode = orderCode ∧ id = some o.id

lemma ShowsOrder.mono {seen orders : List SopyoOrderByCode} {orderCode : Id} {id : Option ℕ}
    (h : ShowsOrder seen orderCode id) : ShowsOrder (seen ++ orders) orderCode id := by
  obtain ⟨o, ho, hfacts⟩ := h
  exact ⟨o, List.mem_append_left _ ho, hfacts⟩

structure SopyoPushStore.Sound (s : SopyoPushStore) : Prop where
  pending : s.push.status = .pending ↔ s.claimant = none
  calls : s.calls = [] ∨ ∃ c i, s.calls = [c] ∧ c.run = i ∧ s.claimant = some i
  rejected : ∀ c ∈ s.calls, ∀ r, c.result = some r → r.IsRejected → c.effect = false
  blocked : s.push.status = .blocked → AllRejected s.calls
  succeeded : s.push.status = .succeeded →
    ShowsOrder s.seen s.push.orderCode s.push.sopyoOrderId

/-- The call holds a claim, or held one, and has not called the provider. -/
def DispatchPosition.BeforeCreate : DispatchPosition β → Prop
  | .loadPayload _ | .authenticate _ _ | .lookup _ _ | .reloadPayload _ _ | .create _ _ => True
  | _ => False

/-- The call has claimed the push and not ended. -/
def DispatchPosition.Claimed : DispatchPosition β → Prop
  | .readPush | .claim _ | .ended _ => False
  | _ => True

lemma DispatchPosition.BeforeCreate.claimed {p : DispatchPosition β} (h : p.BeforeCreate) :
    p.Claimed := by
  cases p <;> simp_all [DispatchPosition.BeforeCreate, DispatchPosition.Claimed]

/-- A call that creates the order gets here; a reconciliation does not. -/
def DispatchPosition.Creates : DispatchPosition β → Prop
  | .reloadPayload _ _ | .create _ _ | .awaitCreate _ | .lookupAfter _ _ => True
  | _ => False

/-- The push as the call read it. -/
def DispatchPosition.push? : DispatchPosition β → Option SopyoOrderPush
  | .readPush | .ended _ => none
  | .claim push | .loadPayload push | .authenticate push _ | .lookup push _
  | .reloadPayload push _ | .create push _ | .awaitCreate push | .lookupAfter push _
  | .finish push _ => some push

/-- The outcome that is about to be written. -/
structure PushOutcome.Sound (o : PushOutcome) (reconcileOnly : Bool) (s : SopyoPushStore) :
    Prop where
  status : o.status = .succeeded ∨ o.status = .blocked ∨ o.status = .reconcileRequired
  blocked : o.status = .blocked → reconcileOnly = false ∧ AllRejected s.calls
  succeeded : o.status = .succeeded → ShowsOrder s.seen s.push.orderCode o.sopyoOrderId

structure Dispatch.Sound (i : ℕ) (s : SopyoPushStore) (d : Dispatch β) : Prop where
  push : ∀ push, d.position.push? = some push → push.orderCode = s.push.orderCode
  claimant : d.reconcileOnly = false → d.position.Claimed →
    s.claimant = some i ∧ s.push.status ≠ .blocked
  creates : d.position.Creates → d.reconcileOnly = false
  beforeCreate : d.reconcileOnly = false → d.position.BeforeCreate → s.calls = []
  awaiting : ∀ push, d.position = .awaitCreate push → ∃ effect, s.calls = [⟨i, none, effect⟩]
  outcome : ∀ push o, d.position = .finish push o → o.Sound d.reconcileOnly s

/-! ## What a step writes -/

inductive Dispatch.Writes (i : ℕ) (s : SopyoPushStore) (d : Dispatch β) : SopyoPushStore → Prop
  | see (orders : List SopyoOrderByCode) : Dispatch.Writes i s d (s.see orders)
  | claim {claimTime : Instant} (h : s.push.Claimable d.reconcileOnly claimTime) :
      Dispatch.Writes i s d (s.claimBy i d.reconcileOnly claimTime)
  | call {push : SopyoOrderPush} {payload : β} (hposition : d.position = .create push payload) :
      Dispatch.Writes i s d (s.call i)
  | answered {push : SopyoOrderPush} {result : SopyoCreateOrderResult}
      (hposition : d.position = .awaitCreate push)
      (hbehaves : result.IsRejected → ∀ c ∈ s.calls, c.run = i → c.effect = false)
      (orders : List SopyoOrderByCode) :
      Dispatch.Writes i s d ((s.updateCall i fun c => { c with result := some result }).see orders)
  | finish {push push' : SopyoOrderPush} {outcome : PushOutcome} {now : Instant}
      (hposition : d.position = .finish push outcome)
      (hpush : s.push.finish i outcome now = some push') :
      Dispatch.Writes i s d { s with push := push' }

namespace SopyoPushStore

variable {s : SopyoPushStore}

@[simp] lemma see_nil : s.see [] = s := by
  simp [see]

end SopyoPushStore

namespace Dispatch

variable {build : BuildSopyoOrderPayload β} {i : ℕ} {s s' : SopyoPushStore} {d d' : Dispatch β}

lemma Writes.nothing : Dispatch.Writes i s d s := by
  have h : Dispatch.Writes i s d (s.see []) := .see []
  rwa [SopyoPushStore.see_nil] at h

lemma claim_writes (push : SopyoOrderPush) (claimTime : Instant) :
    Dispatch.Writes i s d (d.claim i s push claimTime).1 := by
  unfold claim
  split
  · exact .claim ‹_›
  · exact .nothing

lemma finish_writes {push : SopyoOrderPush} {outcome : PushOutcome} {now : Instant}
    (hposition : d.position = .finish push outcome) :
    Dispatch.Writes i s d (d.finish i s outcome now).1 := by
  unfold finish
  cases hpush : s.push.finish i outcome now with
  | none => exact .nothing
  | some push' => exact .finish hposition hpush

/-- **What a step of a dispatch writes.** -/
theorem run_writes [DecidableEq β] {answer : DispatchAnswer}
    (hbehaves : ∀ result, answer = .result result → result.IsRejected →
      ∀ c ∈ s.calls, c.run = i → c.effect = false)
    (h : d.run build i answer s = some (s', d')) : Dispatch.Writes i s d s' := by
  unfold run at h
  split at h
  all_goals simp only [Option.some.injEq, Prod.mk.injEq, reduceCtorEq] at h
  case h_2 push claimTime hp =>
    have hclaim : Dispatch.Writes i s d (d.claim i s push claimTime).1 :=
      claim_writes push claimTime
    rw [h] at hclaim
    exact hclaim
  case h_3 push claimTime hp =>
    rw [← h.1]
    exact claim_writes push claimTime
  case h_7 push payload orders hp =>
    rw [← h.1]
    exact .see orders
  case h_10 push payload hp =>
    rw [← h.1]
    exact .call hp
  case h_11 push result hp =>
    rw [← h.1]
    exact .answered hp (hbehaves result rfl) result.shown
  case h_12 push httpStatus orders hp =>
    rw [← h.1]
    exact .see orders
  case h_14 push outcome now hp =>
    have hfinish : Dispatch.Writes i s d (d.finish i s outcome now).1 := finish_writes hp
    rw [h] at hfinish
    exact hfinish
  case h_15 push outcome now hp =>
    rw [← h.1]
    exact finish_writes hp
  all_goals
    rw [← h.1]
    exact .nothing

end Dispatch

/-! ## The store -/

namespace SopyoPushStore

variable {s : SopyoPushStore} {i : ℕ}

lemma Sound.see (h : s.Sound) (orders : List SopyoOrderByCode) : (s.see orders).Sound where
  pending := h.pending
  calls := h.calls
  rejected := h.rejected
  blocked := h.blocked
  succeeded := fun hs => (h.succeeded hs).mono

lemma Sound.claimBy {reconcileOnly : Bool} {claimTime : Instant} (h : s.Sound)
    (hclaim : s.push.Claimable reconcileOnly claimTime) :
    (s.claimBy i reconcileOnly claimTime).Sound := by
  have hclaimant : (s.claimBy i reconcileOnly claimTime).claimant ≠ none := by
    unfold SopyoPushStore.claimBy
    cases reconcileOnly with
    | false => simp
    | true =>
        intro hnone
        have hpending := h.pending.mpr hnone
        rcases hclaim with hstatus | ⟨hstatus, -⟩ <;> rw [hpending] at hstatus <;> cases hstatus
  have hcalls : reconcileOnly = false → s.calls = [] := by
    rintro rfl
    have hnone := h.pending.mp hclaim
    rcases h.calls with hcalls | ⟨c, k, -, -, hsome⟩
    · exact hcalls
    · rw [hnone] at hsome
      cases hsome
  exact
    { pending := by
        constructor
        · intro hs
          cases hs
        · exact fun hnone => absurd hnone hclaimant
      calls := by
        cases reconcileOnly with
        | false => exact .inl (hcalls rfl)
        | true => exact h.calls
      rejected := h.rejected
      blocked := fun hs => by cases hs
      succeeded := fun hs => by cases hs }

lemma mem_updateCall {f : CreateCall → CreateCall} {c : CreateCall}
    (hc : c ∈ (s.updateCall i f).calls) :
    ∃ c₀ ∈ s.calls, (c₀.run = i ∧ c = f c₀) ∨ (c₀.run ≠ i ∧ c = c₀) := by
  obtain ⟨c₀, hc₀, rfl⟩ := List.mem_map.mp hc
  by_cases hrun : c₀.run = i
  · exact ⟨c₀, hc₀, .inl ⟨hrun, if_pos hrun⟩⟩
  · exact ⟨c₀, hc₀, .inr ⟨hrun, if_neg hrun⟩⟩

lemma updateCall_calls {f : CreateCall → CreateCall} (hf : ∀ c, (f c).run = c.run) (h : s.Sound) :
    (s.updateCall i f).calls = [] ∨
      ∃ c k, (s.updateCall i f).calls = [c] ∧ c.run = k ∧ s.claimant = some k := by
  rcases h.calls with hcalls | ⟨c, k, hcalls, hrun, hclaimant⟩
  · left
    simp [updateCall, hcalls]
  · right
    refine ⟨if c.run = i then f c else c, k, by simp [updateCall, hcalls], ?_, hclaimant⟩
    split
    · rw [hf, hrun]
    · exact hrun

lemma allRejected_takesEffect {run : ℕ} (h : AllRejected s.calls) :
    AllRejected (s.updateCall run fun c => { c with effect := true }).calls := by
  intro c hc
  obtain ⟨c₀, hc₀, ⟨-, rfl⟩ | ⟨-, rfl⟩⟩ := mem_updateCall hc
  · exact h c₀ hc₀
  · exact h c hc₀

/-- The provider creates the order of a call that it has not rejected. -/
lemma Sound.takesEffect (h : s.Sound)
    (hbehaves : ∀ c ∈ s.calls, c.run = i → ∀ r ∈ c.result, ¬r.IsRejected) :
    (s.updateCall i fun c => { c with effect := true }).Sound where
  pending := h.pending
  calls := updateCall_calls (fun _ => rfl) h
  rejected := by
    intro c hc r hr hrejected
    obtain ⟨c₀, hc₀, ⟨hrun, rfl⟩ | ⟨-, rfl⟩⟩ := mem_updateCall hc
    · exact absurd hrejected (hbehaves c₀ hc₀ hrun r hr)
    · exact h.rejected c hc₀ r hr hrejected
  blocked := fun hs => allRejected_takesEffect (h.blocked hs)
  succeeded := h.succeeded

end SopyoPushStore

namespace Dispatch

variable {i : ℕ} {s s' : SopyoPushStore} {d d' : Dispatch β}

/-- The store stays sound. -/
lemma Writes.store (hs : s.Sound) (hd : d.Sound i s) (h : Dispatch.Writes i s d s') : s'.Sound := by
  cases h with
  | see orders => exact hs.see orders
  | claim hclaim => exact hs.claimBy hclaim
  | @call push payload hposition =>
      have honly : d.reconcileOnly = false := hd.creates (by rw [hposition]; trivial)
      obtain ⟨hclaimant, hblocked⟩ := hd.claimant honly (by rw [hposition]; trivial)
      have hcalls := hd.beforeCreate honly (by rw [hposition]; trivial)
      exact
        { pending := hs.pending
          calls := .inr ⟨⟨i, none, false⟩, i, by simp [SopyoPushStore.call, hcalls], rfl, hclaimant⟩
          rejected := by
            intro c hc
            simp only [SopyoPushStore.call, hcalls, List.nil_append, List.mem_singleton] at hc
            rw [hc]
            exact fun _ _ _ => rfl
          blocked := fun hstatus => absurd hstatus hblocked
          succeeded := hs.succeeded }
  | @answered push result hposition hbehaves orders =>
      have honly : d.reconcileOnly = false := hd.creates (by rw [hposition]; trivial)
      obtain ⟨-, hblocked⟩ := hd.claimant honly (by rw [hposition]; trivial)
      refine SopyoPushStore.Sound.see ?_ orders
      exact
        { pending := hs.pending
          calls := SopyoPushStore.updateCall_calls (fun _ => rfl) hs
          rejected := by
            intro c hc r hr hrejected
            obtain ⟨c₀, hc₀, ⟨hrun, rfl⟩ | ⟨-, rfl⟩⟩ := SopyoPushStore.mem_updateCall hc
            · obtain rfl := Option.some.inj hr
              exact hbehaves hrejected c₀ hc₀ hrun
            · exact hs.rejected c hc₀ r hr hrejected
          blocked := fun hstatus => absurd hstatus hblocked
          succeeded := hs.succeeded }
  | @finish push push' outcome now hposition hpush =>
      have ho := hd.outcome push outcome hposition
      unfold SopyoOrderPush.finish at hpush
      split at hpush
      · rename_i hclaim
        obtain rfl := Option.some.inj hpush
        have hclaimant : s.claimant ≠ none := by
          intro hnone
          have hpending := hs.pending.mpr hnone
          rw [hclaim.1] at hpending
          cases hpending
        refine
          { pending := ⟨fun hstatus => ?_, fun hnone => absurd hnone hclaimant⟩
            calls := hs.calls
            rejected := hs.rejected
            blocked := fun hstatus => (ho.blocked hstatus).2
            succeeded := ho.succeeded }
        have hstatus : outcome.status = .pending := hstatus
        rcases ho.status with h | h | h <;> rw [hstatus] at h <;> cases h
      · cases hpush

/-! ## The calls -/

lemma Sound.see (h : d.Sound i s) (orders : List SopyoOrderByCode) : d.Sound i (s.see orders) where
  push := h.push
  claimant := h.claimant
  creates := h.creates
  beforeCreate := h.beforeCreate
  awaiting := h.awaiting
  outcome := fun push o hposition =>
    have ho := h.outcome push o hposition
    ⟨ho.status, ho.blocked, fun hs => (ho.succeeded hs).mono⟩

/-- Two calls that both claimed a new push are one. -/
lemma Sound.unique {j : ℕ} {e : Dispatch β} (hd : d.Sound i s) (he : e.Sound j s)
    (hdOnly : d.reconcileOnly = false) (hdClaimed : d.position.Claimed)
    (heOnly : e.reconcileOnly = false) (heClaimed : e.position.Claimed) : i = j := by
  have hi := (hd.claimant hdOnly hdClaimed).1
  have hj := (he.claimant heOnly heClaimed).1
  exact Option.some.inj (hi.symm.trans hj)

/-- A call that did not claim the new push depends on the push and on what was shown only. -/
lemma Sound.frame (h : d.Sound i s) (hpush : s'.push = s.push)
    (hseen : s.seen <+: s'.seen) (hexclusive : d.reconcileOnly = false → ¬d.position.Claimed) :
    d.Sound i s' where
  push := by
    rw [hpush]
    exact h.push
  claimant := fun honly hclaimed => absurd hclaimed (hexclusive honly)
  creates := h.creates
  beforeCreate := fun honly hbefore => absurd hbefore.claimed (hexclusive honly)
  awaiting := by
    intro push hposition
    refine absurd ?_ (hexclusive (h.creates ?_))
    all_goals
      rw [hposition]
      trivial
  outcome := by
    intro push o hposition
    have ho := h.outcome push o hposition
    refine ⟨ho.status, fun hblocked => ?_, fun hsucceeded => ?_⟩
    · refine absurd ?_ (hexclusive (ho.blocked hblocked).1)
      rw [hposition]
      trivial
    · obtain ⟨orders, horders⟩ := hseen
      rw [← horders, hpush]
      exact (ho.succeeded hsucceeded).mono

/-- A step of another call leaves a call sound: what only one call may do, only one does. -/
lemma Writes.other {j : ℕ} {e : Dispatch β} (hs : s.Sound) (hd : d.Sound i s) (he : e.Sound j s)
    (hij : j ≠ i) (h : Dispatch.Writes i s d s') : e.Sound j s' := by
  -- a call that claimed the push when it was new keeps every other one from doing so
  have hexclusive : d.reconcileOnly = false → d.position.Claimed → e.reconcileOnly = false →
      ¬e.position.Claimed :=
    fun hdOnly hdClaimed heOnly heClaimed =>
      hij (Sound.unique hd he hdOnly hdClaimed heOnly heClaimed).symm
  cases h with
  | see orders => exact he.see orders
  | @claim claimTime hclaim =>
      refine { he with claimant := fun honly hclaimed => ?_, outcome := ?_ }
      · obtain ⟨hclaimant, -⟩ := he.claimant honly hclaimed
        refine ⟨?_, by show SopyoOrderPushStatus.processing ≠ _; decide⟩
        cases hreconcile : d.reconcileOnly with
        | true => exact hclaimant
        | false =>
            rw [hreconcile] at hclaim
            rw [hs.pending.mp hclaim] at hclaimant
            cases hclaimant
      · intro push o hposition
        have ho := he.outcome push o hposition
        exact ⟨ho.status, ho.blocked, ho.succeeded⟩
  | @call push payload hposition =>
      have honly : d.reconcileOnly = false := hd.creates (by rw [hposition]; trivial)
      exact he.frame rfl (List.prefix_refl _)
        (hexclusive honly (by rw [hposition]; trivial))
  | @answered push result hposition hbehaves orders =>
      have honly : d.reconcileOnly = false := hd.creates (by rw [hposition]; trivial)
      exact he.frame rfl (List.prefix_append _ _)
        (hexclusive honly (by rw [hposition]; trivial))
  | @finish push push' outcome now hposition hpush =>
      have hdOutcome := hd.outcome push outcome hposition
      unfold SopyoOrderPush.finish at hpush
      split at hpush
      · obtain rfl := Option.some.inj hpush
        refine { he with claimant := fun honly hclaimed => ?_, outcome := ?_ }
        · obtain ⟨hclaimant, -⟩ := he.claimant honly hclaimed
          refine ⟨hclaimant, fun hblocked => ?_⟩
          have hdOnly := (hdOutcome.blocked hblocked).1
          exact hexclusive hdOnly (by rw [hposition]; trivial) honly hclaimed
        · intro push o hposition
          have ho := he.outcome push o hposition
          exact ⟨ho.status, ho.blocked, ho.succeeded⟩
      · cases hpush

end Dispatch

/-! ## The call that takes the step -/

namespace PushOutcome

variable {s : SopyoPushStore} {reconcileOnly : Bool} {reasonCode : Option String}
  {sopyoOrderId httpStatus : Option ℕ} {result : Option PushResult}

lemma Sound.reconcileRequired :
    Sound ⟨.reconcileRequired, reasonCode, sopyoOrderId, httpStatus, result⟩ reconcileOnly s where
  status := .inr (.inr rfl)
  blocked := fun h => by cases h
  succeeded := fun h => by cases h

lemma Sound.ofBlocked (honly : reconcileOnly = false) (hrejected : AllRejected s.calls) :
    Sound ⟨.blocked, reasonCode, sopyoOrderId, httpStatus, result⟩ reconcileOnly s where
  status := .inr (.inl rfl)
  blocked := fun _ => ⟨honly, hrejected⟩
  succeeded := fun h => by cases h

lemma Sound.ofSucceeded (hshown : ShowsOrder s.seen s.push.orderCode sopyoOrderId) :
    Sound ⟨.succeeded, reasonCode, sopyoOrderId, httpStatus, result⟩ reconcileOnly s where
  status := .inl rfl
  blocked := fun h => by cases h
  succeeded := fun _ => hshown

end PushOutcome

namespace Dispatch

variable {i : ℕ} {s s' : SopyoPushStore} {d d' : Dispatch β} {push : SopyoOrderPush}

lemma allRejected_nil (h : s.calls = []) : AllRejected s.calls := by
  intro c hc
  rw [h] at hc
  cases hc

lemma sound_ended (result : Option DispatchResult) : (d.goTo (.ended result)).Sound i s where
  push := fun push h => by cases h
  claimant := fun _ h => h.elim
  creates := fun h => h.elim
  beforeCreate := fun _ h => h.elim
  awaiting := fun push h => by cases h
  outcome := fun push o h => by cases h

lemma Sound.finishWith {status : SopyoOrderPushStatus} {reasonCode : Option String}
    {sopyoOrderId httpStatus : Option ℕ} {result : Option PushResult} (h : d.Sound i s)
    (hpush : d.position.push? = some push) (hclaimed : d.position.Claimed)
    (ho : PushOutcome.Sound ⟨status, reasonCode, sopyoOrderId, httpStatus, result⟩ d.reconcileOnly
      s) : (d.finishWith push status reasonCode sopyoOrderId httpStatus result).Sound i s where
  push := fun push' h' => by
    obtain rfl := Option.some.inj h'
    exact h.push push hpush
  claimant := fun honly _ => h.claimant honly hclaimed
  creates := fun h => h.elim
  beforeCreate := fun _ h => h.elim
  awaiting := fun push h => by cases h
  outcome := fun push' o h => by
    cases h
    exact ho

lemma Sound.giveUp {reasonCode : String} (h : d.Sound i s) (hpush : d.position.push? = some push)
    (hbefore : d.position.BeforeCreate) : (d.giveUp push reasonCode).Sound i s := by
  refine h.finishWith hpush hbefore.claimed ?_
  cases honly : d.reconcileOnly with
  | true => exact .reconcileRequired
  | false => exact .ofBlocked rfl (allRejected_nil (h.beforeCreate honly hbefore))

/-- On to another position before the order is created. -/
lemma Sound.advance {position : DispatchPosition β} (h : d.Sound i s)
    (hpush : position.push? = d.position.push?) (hbefore : d.position.BeforeCreate)
    (hposition : position.BeforeCreate) (hcreates : position.Creates → d.reconcileOnly = false) :
    (d.goTo position).Sound i s where
  push := fun push' h' => h.push push' (hpush ▸ h')
  claimant := fun honly _ => h.claimant honly hbefore.claimed
  creates := hcreates
  beforeCreate := fun honly _ => h.beforeCreate honly hbefore
  awaiting := fun push' h' => by
    have h' : position = .awaitCreate push' := h'
    rw [h'] at hposition
    exact hposition.elim
  outcome := fun push' o h' => by
    have h' : position = .finish push' o := h'
    rw [h'] at hposition
    exact hposition.elim

lemma Sound.afterLoad (h : d.Sound i s) (hposition : d.position = .loadPayload push)
    (loaded : Except String (Option β)) : (d.afterLoad push loaded).Sound i s := by
  have hpush : d.position.push? = some push := by rw [hposition]; rfl
  have hbefore : d.position.BeforeCreate := by rw [hposition]; trivial
  cases loaded with
  | error reasonCode => exact h.giveUp hpush hbefore
  | ok payload => exact h.advance hpush.symm hbefore trivial fun h => h.elim

/-- An order that a lookup shows carries the code of the push. -/
lemma showsOrder {orders : List SopyoOrderByCode} {order : SopyoOrderByCode}
    (horders : ∀ o ∈ orders, o.orderCode = s.push.orderCode) (hmem : order ∈ orders)
    (htype : order.orderType = some "SOPYOAPI") :
    ShowsOrder (s.see orders).seen s.push.orderCode (some order.id) :=
  ⟨order, List.mem_append_right _ hmem, htype, horders order hmem, rfl⟩

lemma Sound.afterLookup {payload : Option β} {orders : List SopyoOrderByCode} (h : d.Sound i s)
    (hposition : d.position = .lookup push payload)
    (horders : ∀ o ∈ orders, o.orderCode = s.push.orderCode) :
    (d.afterLookup push payload orders).Sound i (s.see orders) := by
  have hpush : d.position.push? = some push := by rw [hposition]; rfl
  have hbefore : d.position.BeforeCreate := by rw [hposition]; trivial
  have hsee := h.see orders
  unfold Dispatch.afterLookup
  split
  · rename_i order
    split
    · rename_i htype
      exact hsee.finishWith hpush hbefore.claimed
        (.ofSucceeded (showsOrder horders (List.mem_singleton_self order) htype))
    · exact hsee.finishWith hpush hbefore.claimed .reconcileRequired
  · exact hsee.finishWith hpush hbefore.claimed .reconcileRequired
  · split
    · exact hsee.finishWith hpush hbefore.claimed .reconcileRequired
    · rename_i honly
      rw [Bool.not_eq_true] at honly
      split
      · exact hsee.finishWith hpush hbefore.claimed
          (.ofBlocked honly (allRejected_nil (hsee.beforeCreate honly hbefore)))
      · exact hsee.advance hpush.symm hbefore trivial fun _ => honly

lemma Sound.afterReload [DecidableEq β] {payload : β} (h : d.Sound i s)
    (hposition : d.position = .reloadPayload push payload) (fresh : Except String (Option β)) :
    (d.afterReload push payload fresh).Sound i s := by
  have hpush : d.position.push? = some push := by rw [hposition]; rfl
  have hbefore : d.position.BeforeCreate := by rw [hposition]; trivial
  have honly : d.reconcileOnly = false := h.creates (by rw [hposition]; trivial)
  have hblocked : (d.finishWith push .blocked (some "SOURCE_CHANGED_BEFORE_CREATE") none none
      none).Sound i s :=
    h.finishWith hpush hbefore.claimed
      (.ofBlocked honly (allRejected_nil (h.beforeCreate honly hbefore)))
  unfold Dispatch.afterReload
  split
  · split
    · exact h.advance hpush.symm hbefore trivial fun _ => honly
    · exact hblocked
  · exact hblocked

lemma Sound.call {payload : β} (h : d.Sound i s) (hposition : d.position = .create push payload) :
    (d.goTo (.awaitCreate push)).Sound i (s.call i) := by
  have honly : d.reconcileOnly = false := h.creates (by rw [hposition]; trivial)
  have hcalls := h.beforeCreate honly (by rw [hposition]; trivial)
  exact
    { push := fun push' h' => h.push push' (by rw [hposition]; exact h')
      claimant := fun _ _ => h.claimant honly (by rw [hposition]; trivial)
      creates := fun _ => honly
      beforeCreate := fun _ h => h.elim
      awaiting := fun _ _ => ⟨false, by simp [SopyoPushStore.call, hcalls]⟩
      outcome := fun push' o h' => by cases h' }

lemma Sound.afterCreate {result : SopyoCreateOrderResult} (h : d.Sound i s)
    (hposition : d.position = .awaitCreate push) :
    (d.afterCreate push result).Sound i
      ((s.updateCall i fun c => { c with result := some result }).see result.shown) := by
  have hpush : d.position.push? = some push := by rw [hposition]; rfl
  have hcode := h.push push hpush
  have hclaimed : d.position.Claimed := by rw [hposition]; trivial
  have honly : d.reconcileOnly = false := h.creates (by rw [hposition]; trivial)
  obtain ⟨effect, hcalls⟩ := h.awaiting push hposition
  -- the position after the answer is judged on its own, not through the one before
  have hfinish : ∀ {status reasonCode sopyoOrderId httpStatus pushResult},
      PushOutcome.Sound ⟨status, reasonCode, sopyoOrderId, httpStatus, pushResult⟩ d.reconcileOnly
        ((s.updateCall i fun c => { c with result := some result }).see result.shown) →
      (d.finishWith push status reasonCode sopyoOrderId httpStatus pushResult).Sound i
        ((s.updateCall i fun c => { c with result := some result }).see result.shown) := by
    intro status reasonCode sopyoOrderId httpStatus pushResult ho
    exact
      { push := fun push' h' => by
          obtain rfl := Option.some.inj h'
          exact hcode
        claimant := fun _ _ => h.claimant honly hclaimed
        creates := fun h => h.elim
        beforeCreate := fun _ h => h.elim
        awaiting := fun push h => by cases h
        outcome := fun push' o h' => by
          cases h'
          exact ho }
  cases result with
  | created id orderCode orderType =>
      by_cases hmatches : orderCode = push.orderCode ∧ orderType = "SOPYOAPI"
      · simp only [Dispatch.afterCreate, if_pos hmatches]
        exact hfinish (.ofSucceeded ⟨⟨id, orderCode, some orderType⟩,
          List.mem_append_right _ (List.mem_singleton_self _), congrArg some hmatches.2,
          hmatches.1.trans hcode, rfl⟩)
      · simp only [Dispatch.afterCreate, if_neg hmatches]
        exact hfinish .reconcileRequired
  | rejected httpStatus message =>
      refine hfinish (.ofBlocked honly ?_)
      intro c hc
      obtain ⟨c₀, hc₀, ⟨-, rfl⟩ | ⟨hrun, -⟩⟩ := SopyoPushStore.mem_updateCall hc
      · exact ⟨_, rfl, trivial⟩
      · rw [hcalls] at hc₀
        obtain rfl := List.mem_singleton.mp hc₀
        exact absurd rfl hrun
  | ambiguous ambiguousReason httpStatus =>
      exact
        { push := fun push' h' => by
            obtain rfl := Option.some.inj h'
            exact hcode
          claimant := fun _ _ => h.claimant honly hclaimed
          creates := fun _ => honly
          beforeCreate := fun _ h => h.elim
          awaiting := fun push h => by cases h
          outcome := fun push o h => by cases h }

lemma Sound.afterAmbiguous {httpStatus : Option ℕ} {orders : List SopyoOrderByCode}
    (h : d.Sound i s) (hposition : d.position = .lookupAfter push httpStatus)
    (horders : ∀ o ∈ orders, o.orderCode = s.push.orderCode) :
    (d.afterAmbiguous push httpStatus orders).Sound i (s.see orders) := by
  have hpush : d.position.push? = some push := by rw [hposition]; rfl
  have hclaimed : d.position.Claimed := by rw [hposition]; trivial
  have hsee := h.see orders
  unfold Dispatch.afterAmbiguous
  split
  · exact hsee.finishWith hpush hclaimed .reconcileRequired
  · rename_i order
    split
    · rename_i htype
      exact hsee.finishWith hpush hclaimed
        (.ofSucceeded (showsOrder horders (List.mem_singleton_self order) htype))
    · exact hsee.finishWith hpush hclaimed .reconcileRequired
  · exact hsee.finishWith hpush hclaimed .reconcileRequired

lemma Sound.claim {claimTime : Instant} (hs : s.Sound) (h : d.Sound i s)
    (hposition : d.position = .claim push) :
    (d.claim i s push claimTime).2.Sound i (d.claim i s push claimTime).1 := by
  have hcode := h.push push (by rw [hposition]; rfl)
  unfold Dispatch.claim
  split
  · rename_i hclaim
    refine
      { push := fun push' h' => by
          obtain rfl := Option.some.inj h'
          exact hcode
        claimant := fun honly _ => ⟨?_, by show SopyoOrderPushStatus.processing ≠ _; decide⟩
        creates := fun h => h.elim
        beforeCreate := fun honly _ => ?_
        awaiting := fun push h => by cases h
        outcome := fun push o h => by cases h }
    · have honly : d.reconcileOnly = false := honly
      show (if d.reconcileOnly then s.claimant else some i) = some i
      rw [honly]
      rfl
    · have honly : d.reconcileOnly = false := honly
      rw [honly] at hclaim
      have hnone := hs.pending.mp hclaim
      rcases hs.calls with hcalls | ⟨c, k, -, -, hsome⟩
      · exact hcalls
      · rw [hnone] at hsome
        cases hsome
  · exact sound_ended _

lemma sound_finish {outcome : PushOutcome} {now : Instant} :
    (d.finish i s outcome now).2.Sound i (d.finish i s outcome now).1 := by
  unfold Dispatch.finish
  cases s.push.finish i outcome now <;> exact sound_ended _

/-- **The call that takes a step stays sound.** -/
theorem run_sound [DecidableEq β] {build : BuildSopyoOrderPayload β} {answer : DispatchAnswer}
    (hs : s.Sound) (hd : d.Sound i s)
    (horders : ∀ orders, answer = .orders orders → ∀ o ∈ orders, o.orderCode = s.push.orderCode)
    (h : d.run build i answer s = some (s', d')) : d'.Sound i s' := by
  unfold run at h
  split at h
  all_goals simp only [Option.some.injEq, Prod.mk.injEq, reduceCtorEq] at h
  case h_1 hp =>
    obtain ⟨rfl, rfl⟩ := h
    exact
      { push := fun push' h' => by
          obtain rfl := Option.some.inj h'
          rfl
        claimant := fun _ h => h.elim
        creates := fun h => h.elim
        beforeCreate := fun _ h => h.elim
        awaiting := fun push h => by cases h
        outcome := fun push o h => by cases h }
  case h_2 push claimTime hp =>
    have hclaim : (d.claim i s push claimTime).2.Sound i (d.claim i s push claimTime).1 :=
      hd.claim hs hp
    rw [h] at hclaim
    exact hclaim
  case h_3 =>
    obtain ⟨-, rfl⟩ := h
    exact sound_ended _
  case h_4 push reads hp =>
    obtain ⟨rfl, rfl⟩ := h
    exact hd.afterLoad hp _
  case h_5 push payload hp =>
    obtain ⟨rfl, rfl⟩ := h
    exact hd.advance (by rw [hp]; rfl) (by rw [hp]; trivial) trivial fun h => h.elim
  case h_6 push payload hp =>
    obtain ⟨rfl, rfl⟩ := h
    exact hd.giveUp (by rw [hp]; rfl) (by rw [hp]; trivial)
  case h_7 push payload orders hp =>
    obtain ⟨rfl, rfl⟩ := h
    exact hd.afterLookup hp (horders orders rfl)
  case h_8 push payload hp =>
    obtain ⟨rfl, rfl⟩ := h
    exact hd.giveUp (by rw [hp]; rfl) (by rw [hp]; trivial)
  case h_9 push payload reads hp =>
    obtain ⟨rfl, rfl⟩ := h
    exact hd.afterReload hp _
  case h_10 push payload hp =>
    obtain ⟨rfl, rfl⟩ := h
    exact hd.call hp
  case h_11 push result hp =>
    obtain ⟨rfl, rfl⟩ := h
    exact hd.afterCreate hp
  case h_12 push httpStatus orders hp =>
    obtain ⟨rfl, rfl⟩ := h
    exact hd.afterAmbiguous hp (horders orders rfl)
  case h_13 push httpStatus hp =>
    obtain ⟨rfl, rfl⟩ := h
    exact hd.finishWith (by rw [hp]; rfl) (by rw [hp]; trivial) .reconcileRequired
  case h_14 push outcome now hp =>
    have hfinish : (d.finish i s outcome now).2.Sound i (d.finish i s outcome now).1 :=
      sound_finish
    rw [h] at hfinish
    exact hfinish
  all_goals
    obtain ⟨-, rfl⟩ := h
    exact sound_ended _

/-- A claim, or a write under the claim. -/
lemma Writes.updates (h : Dispatch.Writes i s d s') : s'.push = s.push ∨
    (∃ claimTime, s.push.Claimable d.reconcileOnly claimTime ∧ s'.push = s.push.claim i claimTime) ∨
    s.push.status = .processing ∧ s.push.claimToken = some i := by
  cases h with
  | see => exact .inl rfl
  | @claim claimTime hclaim => exact .inr (.inl ⟨claimTime, hclaim, rfl⟩)
  | call => exact .inl rfl
  | answered => exact .inl rfl
  | finish _ hpush =>
      unfold SopyoOrderPush.finish at hpush
      split at hpush
      · exact .inr (.inr ‹_›)
      · cases hpush

lemma Writes.final (h : Dispatch.Writes i s d s')
    (hfinal : s.push.status = .succeeded ∨ s.push.status = .blocked) : s'.push = s.push := by
  rcases h.updates with heq | ⟨claimTime, hclaim, -⟩ | ⟨hstatus, -⟩
  · exact heq
  · unfold SopyoOrderPush.Claimable at hclaim
    split at hclaim
    · rcases hclaim with hstatus | ⟨hstatus, -⟩ <;> simp [hstatus] at hfinal
    · simp [hclaim] at hfinal
  · simp [hstatus] at hfinal

/-- The provider creates the order of a call. -/
lemma Sound.takesEffect {run : ℕ} (h : d.Sound i s) :
    d.Sound i (s.updateCall run fun c => { c with effect := true }) where
  push := h.push
  claimant := h.claimant
  creates := h.creates
  beforeCreate := fun honly hbefore => by
    simp [SopyoPushStore.updateCall, h.beforeCreate honly hbefore]
  awaiting := fun push hposition => by
    obtain ⟨effect, hcalls⟩ := h.awaiting push hposition
    by_cases hrun : i = run
    · exact ⟨true, by simp [SopyoPushStore.updateCall, hcalls, hrun]⟩
    · exact ⟨effect, by simp [SopyoPushStore.updateCall, hcalls, hrun]⟩
  outcome := fun push o hposition =>
    have ho := h.outcome push o hposition
    ⟨ho.status, fun hblocked => ⟨(ho.blocked hblocked).1,
      SopyoPushStore.allRejected_takesEffect (ho.blocked hblocked).2⟩, ho.succeeded⟩

end Dispatch

/-! ## Runs -/

lemma SopyoPushStore.New.sound {s : SopyoPushStore} (h : s.New) : s.Sound := by
  obtain ⟨vendorAllocationId, assignedVendorId, rfl⟩ := h
  exact
    { pending := ⟨fun _ => rfl, fun _ => rfl⟩
      calls := .inl rfl
      rejected := fun c hc => by cases hc
      blocked := fun hs => by cases hs
      succeeded := fun hs => by cases hs }

lemma ProviderBehaves.orders {w : World SopyoPushStore (Dispatch β)} {i : ℕ}
    {answer : DispatchAnswer} (h : ProviderBehaves w (.run i answer)) :
    ∀ orders, answer = .orders orders → ∀ o ∈ orders, o.orderCode = w.shared.push.orderCode := by
  rintro orders rfl
  exact h

lemma ProviderBehaves.result {w : World SopyoPushStore (Dispatch β)} {i : ℕ}
    {answer : DispatchAnswer} (h : ProviderBehaves w (.run i answer)) :
    ∀ result, answer = .result result → result.IsRejected →
      ∀ c ∈ w.shared.calls, c.run = i → c.effect = false := by
  rintro result rfl
  exact h

section Runs

variable [DecidableEq β] {build : BuildSopyoOrderPayload β} {w : World SopyoPushStore (Dispatch β)}

theorem sopyoOrderPushDispatch_sound : Program.Sound (sopyoOrderPushDispatch build)
    SopyoPushStore.New ProviderBehaves SopyoPushStore.Sound Dispatch.Sound where
  init := fun s hs => hs.sound
  start := fun i s reconcileOnly _ =>
    { push := fun push h => by cases h
      claimant := fun _ h => h.elim
      creates := fun h => h.elim
      beforeCreate := fun _ h => h.elim
      awaiting := fun push h => by cases h
      outcome := fun push o h => by cases h }
  run := by
    intro w i answer d s d' hw hd hbehaves hrun
    have hwrites := Dispatch.run_writes hbehaves.result hrun
    exact ⟨hwrites.store hw.1 (hw.2 i d hd),
      Dispatch.run_sound hw.1 (hw.2 i d hd) hbehaves.orders hrun⟩
  interference := by
    intro w i answer d s d' hw hd hbehaves hrun j e hij he
    have hwrites := Dispatch.run_writes hbehaves.result hrun
    exact hwrites.other hw.1 (hw.2 i d hd) (hw.2 j e he) hij
  outside := by
    intro w e s hw hbehaves he
    obtain rfl := Option.some.inj he
    exact ⟨hw.1.takesEffect hbehaves, fun j d hd => (hw.2 j d hd).takesEffect⟩

/-- **A Sopyo order is created at most once and never denied.**  In every run: at most one call of
the provider, the push is written only by the call whose token it carries, `SUCCEEDED` and `BLOCKED`
stay, `SUCCEEDED` names an order that the provider has shown, and `BLOCKED` means that there is
none. -/
theorem sopyoOrderPush_createdOnce
    (hw : (sopyoOrderPushDispatch build).Reaches SopyoPushStore.New ProviderBehaves w) :
    w.shared.calls.length ≤ 1 ∧
      (w.shared.push.status = .succeeded →
        ShowsOrder w.shared.seen w.shared.push.orderCode w.shared.push.sopyoOrderId) ∧
      (w.shared.push.status = .blocked →
        AllRejected w.shared.calls ∧ ∀ c ∈ w.shared.calls, c.effect = false) ∧
      ∀ m w', ProviderBehaves w m → (sopyoOrderPushDispatch build).step m w = .ok w' →
        (w.shared.push.status = .succeeded ∨ w.shared.push.status = .blocked →
          w'.shared.push = w.shared.push) ∧
        (w'.shared.push = w.shared.push ∨ ∃ i answer, m = .run i answer ∧
          ((∃ reconcileOnly claimTime, w.shared.push.Claimable reconcileOnly claimTime ∧
              w'.shared.push = w.shared.push.claim i claimTime) ∨
            w.shared.push.status = .processing ∧ w.shared.push.claimToken = some i)) := by
  obtain ⟨hstore, hcalls⟩ := sopyoOrderPushDispatch_sound.holds hw
  refine ⟨?_, hstore.succeeded, fun hblocked => ⟨hstore.blocked hblocked, ?_⟩, ?_⟩
  · rcases hstore.calls with hnone | ⟨c, i, hone, -⟩
    · simp [hnone]
    · simp [hone]
  · intro c hc
    obtain ⟨r, hr, hrejected⟩ := hstore.blocked hblocked c hc
    exact hstore.rejected c hc r hr hrejected
  · intro m w' hbehaves hs
    rcases Program.step_shared hs with heq | ⟨i, answer, d, d', rfl, hd, hrun⟩ | ⟨e, rfl, he⟩
    · rw [heq]
      exact ⟨fun _ => rfl, .inl rfl⟩
    · have hwrites := Dispatch.run_writes hbehaves.result hrun
      refine ⟨hwrites.final, ?_⟩
      rcases hwrites.updates with hsame | ⟨claimTime, hclaim, hpush⟩ | hheld
      · exact .inl hsame
      · exact .inr ⟨i, answer, rfl, .inl ⟨d.reconcileOnly, claimTime, hclaim, hpush⟩⟩
      · exact .inr ⟨i, answer, rfl, .inr hheld⟩
    · rw [← Option.some.inj he]
      exact ⟨fun _ => rfl, .inl rfl⟩

end Runs

/-! ### A timeout after the order was created -/

def sopyoSampleReads : CanonicalReads where
  allocation := some
    { id := 1
      assignedVendorId := 4
      outboundMethodSnapshot := some .vendorIntegration
      outboundIntegrationProviderSnapshot := some .sopyo
      allocationStatus := .active
      reassignmentRequired := false
      order :=
        { id := 2
          sourceShopifyOrderId := "900"
          cancelledAt := none
          currency := "TRY"
          totalPrice := some 110
          discountAmount := some 0
          shippingAmount := some 10
          taxesIncluded := some true }
      lineItems := [
        { quantity := 1
          lineAmount := some 100
          shopifyOrderLineItem :=
            { shopifyOrderId := 2
              sku := some "SKU"
              title := some "Title"
              quantity := 1
              unitPrice := some 100
              lineTotalVatIncluded := some 100 } }] }
  allocationCount := 1
  orderLineCount := 1
  events := [some "payload"]

def sopyoSampleStore : SopyoPushStore := ⟨SopyoOrderPush.created 1 4, [], [], none⟩

/-- The provider creates the order, its answer is lost, and a lookup finds it. -/
def sopyoSampleRun : List (Move Bool DispatchAnswer TakesEffect) :=
  [.start 1 false, .run 1 (.statement 0), .run 1 (.statement 0), .run 1 (.reads sopyoSampleReads),
    .run 1 .authenticated, .run 1 (.orders []), .run 1 (.reads sopyoSampleReads), .run 1 .sent,
    .outside ⟨1⟩, .run 1 (.result (.ambiguous "TIMEOUT" none)),
    .run 1 (.orders [⟨7, 1, some "SOPYOAPI"⟩]), .run 1 (.statement 0)]

/-- The witness: the push ends `SUCCEEDED` with the order that the lookup has shown. -/
theorem sopyoOrderPush_createdOnce_timeout : ∃ w : World SopyoPushStore (Dispatch Unit),
    w.shared.push.status = .succeeded ∧
      ShowsOrder w.shared.seen w.shared.push.orderCode w.shared.push.sopyoOrderId := by
  have hrun : Succeeds (runActions (guarded ProviderBehaves ()
      (sopyoOrderPushDispatch (fun _ _ _ _ => .ok ())).step) sopyoSampleRun
      (World.init sopyoSampleStore)) fun w => w.shared.push.status = .succeeded := by
    decide +kernel
  obtain ⟨w, hw, hstatus⟩ := succeeds_iff.mp hrun
  have hreaches : (sopyoOrderPushDispatch fun _ _ _ _ => .ok ()).Reaches SopyoPushStore.New
      ProviderBehaves w := reachable_of_runGuarded (.start ⟨_, ⟨1, 4, rfl⟩, rfl⟩) hw
  exact ⟨w, hstatus, (sopyoOrderPush_createdOnce hreaches).2.1 hstatus⟩

end VendorDashboard.VendorIntegration
