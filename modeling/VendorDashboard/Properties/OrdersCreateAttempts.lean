import VendorDashboard.Framework.Table
import VendorDashboard.Shopify.OrdersCreateExecutor

/-!
# Fenced orders/create execution

One attempt at most commits the effects of an order, an attempt writes nothing once another has
claimed the event, and an event is never lost: until it is processed or has a recorded end, its time
comes and one class of candidates has it.

The row lock carries the first: what the locking transaction has verified stays true until it
commits, since every other update waits.  The generation carries the second.  `Attempt.Steps` says
what a step does; `ExecutionStore.Sound` and `Attempt.Sound` are the invariants.
-/

namespace VendorDashboard.Shopify

open Finance (Id Instant)
open Interleaving Table Transaction Run

/-! ## Positions -/

/-- The attempt has not claimed the event. -/
def AttemptPosition.Claiming : AttemptPosition → Prop
  | .discover | .claim _ | .readEvent | .claimForAdminRecovery _ => True
  | _ => False

/-- The attempt has verified its ownership and holds the row lock. -/
def AttemptPosition.InTransaction : AttemptPosition → Prop
  | .finalizeSuccess | .commit _ _ => True
  | _ => False

structure AttemptPosition.Free (p : AttemptPosition) : Prop where
  claiming : ¬p.Claiming
  transaction : ¬p.InTransaction

/-! ## What a step does -/

variable {i : ℕ} {s s' : ExecutionStore} {a a' : Attempt}

/-- What a claim does to the event. -/
structure WebhookEvent.Claims (e e' : WebhookEvent) : Prop where
  unprocessed : e.status ≠ .processed
  budget : e.executionAttemptCount < e.executionMaxAttempts
  status : e'.status = .processing
  generation : e'.processingGeneration = e.processingGeneration + 1
  attempts : e'.executionAttemptCount = e.executionAttemptCount + 1
  maxAttempts : e'.executionMaxAttempts = e.executionMaxAttempts
  lease : e'.processingLeaseExpiresAt.isSome
  order : e'.sourceShopifyOrderId.isSome

/-- What an attempt becomes by a step that neither claims nor enters or leaves the transaction. -/
structure Attempt.Keeps (a a' : Attempt) : Prop where
  context : a'.context = a.context
  position : a'.position = a.position ∨ (a.position.Claiming ∧ a'.position.Claiming) ∨
    (a.position.InTransaction ∧ a'.position.InTransaction) ∨
      (¬a.position.InTransaction ∧ a'.position.Free)

inductive Attempt.Steps (i : ℕ) (s : ExecutionStore) (a : Attempt) : ExecutionStore → Attempt → Prop
  | stays {a' : Attempt} (hkeeps : a.Keeps a') : Attempt.Steps i s a s a'
  | claim {event : WebhookEvent} {a' : Attempt} (hlock : s.lock = none)
      (hposition : a.position.Claiming) (hclaim : s.event.Claims event)
      (hcontext : ∃ order, a'.context = some ⟨event.processingGeneration, order⟩)
      (hfree : a'.position.Free) :
      Attempt.Steps i s a { s with
        event
        claims := s.claims ++ [(event.processingGeneration, i)]
        record := none } a'
  | fence {event : WebhookEvent} {a' : Attempt} {t : Instant} (hlock : s.lock = none)
      (hposition : a.position.Claiming) (hevent : s.event.fenceExpiredExhausted t = some event)
      (hcontext : a'.context = a.context) (hfree : a'.position.Free) :
      Attempt.Steps i s a { s with event, record := some .exhausted } a'
  | heartbeat {context : FencedExecutionContext} {event : WebhookEvent} {a' : Attempt}
      {leaseMs : ℕ} {t : Instant} (hcontext : a.context = some context) (hlock : s.lock = none)
      (hevent : s.event.heartbeat context leaseMs t s.clock = some event) (hkeeps : a.Keeps a') :
      Attempt.Steps i s a { s with event } a'
  | retryable {context : FencedExecutionContext} {event : WebhookEvent} {a' : Attempt}
      {error : String} {t : Instant} {record : Option FailureRecord}
      (hcontext : a.context = some context) (hlock : s.lock = none)
      (hevent : s.event.finalizeRetryable context error t = some event)
      (hrecord : record = none → s.event.executionAttemptCount < s.event.executionMaxAttempts)
      (hcontext' : a'.context = a.context) (hfree : a'.position.Free) :
      Attempt.Steps i s a { s with event, record } a'
  | terminal {context : FencedExecutionContext} {event : WebhookEvent} {a' : Attempt}
      {error : String} {t : Instant} (hcontext : a.context = some context) (hlock : s.lock = none)
      (hevent : s.event.finalizeTerminal context error t = some event)
      (hcontext' : a'.context = a.context) (hfree : a'.position.Free) :
      Attempt.Steps i s a { s with event, record := some .terminal } a'
  | lock {context : FencedExecutionContext} {a' : Attempt} (hcontext : a.context = some context)
      (hlock : s.lock = none) (hverified : s.event.Verified context s.clock)
      (hcontext' : a'.context = a.context) (hposition : a'.position = .finalizeSuccess) :
      Attempt.Steps i s a { s with lock := some i } a'
  | rollback {a' : Attempt} (hposition : a.position.InTransaction)
      (hcontext : a'.context = a.context) (hfree : a'.position.Free) :
      Attempt.Steps i s a { s with lock := none } a'
  | commit {context : FencedExecutionContext} {a' : Attempt} {shopifyOrderId : Id}
      {clock : Instant} (hcontext : a.context = some context)
      (hposition : a.position = .commit shopifyOrderId clock)
      (hcontext' : a'.context = a.context) (hfree : a'.position.Free) :
      Attempt.Steps i s a (Attempt.commit s context shopifyOrderId clock) a'

/-! ### Where an attempt goes after the processing -/

/-- The attempt keeps its context and is outside of a transaction. -/
structure Attempt.Settles (a a' : Attempt) : Prop where
  context : a'.context = a.context
  free : a'.position.Free

namespace Attempt

lemma settles_finished (outcome : AttemptOutcome) : a.Settles (a.finished outcome) :=
  ⟨rfl, fun h => h, fun h => h⟩

lemma settles_finalizeFailure (retryable : Bool) (error : String) :
    a.Settles (a.finalizeFailure retryable error) := by
  unfold finalizeFailure
  cases retryable <;> exact ⟨rfl, fun h => h, fun h => h⟩

lemma settles_afterResult (result : OrderIngestionResult) : a.Settles (a.afterResult result) := by
  unfold afterResult
  cases a.kind with
  | executor =>
      dsimp only
      split
      · exact settles_finished _
      · split
        · exact settles_finished _
        · cases result with
          | ok => exact settles_finished _
          | failure retryable error => exact settles_finalizeFailure retryable error
  | adminRecovery orderId =>
      cases result with
      | ok => exact settles_finished _
      | failure retryable error => exact settles_finalizeFailure retryable error

lemma settles_afterFailure (retryable : Bool) (error : String) :
    a.Settles (a.afterFailure retryable error) := by
  unfold afterFailure
  cases a.kind with
  | executor => exact settles_afterResult _
  | adminRecovery orderId =>
      dsimp only
      split
      · exact settles_finished _
      · exact settles_finalizeFailure retryable error

lemma settles_afterLostFence : a.Settles a.afterLostFence := by
  unfold afterLostFence
  cases a.kind with
  | executor => exact settles_finished _
  | adminRecovery orderId =>
      dsimp only
      split
      · exact settles_finished _
      · exact settles_finalizeFailure _ _

lemma settles_afterAbort : a.Settles a.afterAbort := by
  unfold afterAbort
  cases a.kind with
  | executor =>
      dsimp only
      split
      · exact settles_finished _
      · split
        · exact settles_finished _
        · exact settles_finalizeFailure _ _
  | adminRecovery orderId =>
      dsimp only
      split
      · exact settles_finished _
      · exact settles_finalizeFailure _ _

lemma Steps.ofSettles (h : a.Settles a') (hposition : ¬a.position.InTransaction) :
    Steps i s a s a' :=
  .stays ⟨h.context, .inr (.inr (.inr ⟨hposition, h.free⟩))⟩

end Attempt

/-! ### Each statement -/

variable {leaseMs batchSize : ℕ} {t : Instant}

lemma WebhookEvent.IsCandidate.unprocessed {e : WebhookEvent} {kind : CandidateKind}
    (h : e.IsCandidate t kind) : e.status ≠ .processed ∧ e.sourceShopifyOrderId.isSome := by
  cases kind <;> exact ⟨by rw [h.1]; decide, h.2.1⟩

lemma WebhookEvent.claim_claims {e e' : WebhookEvent} {kind : CandidateKind}
    (h : e.claim kind leaseMs t = some e') : e.Claims e' := by
  unfold WebhookEvent.claim at h
  split at h
  · rename_i hclaim
    obtain rfl := Option.some.inj h
    obtain ⟨hkind, hcandidate⟩ := hclaim
    have hbudget : e.executionAttemptCount < e.executionMaxAttempts := by
      cases kind with
      | exhaustedProcessing => exact absurd rfl hkind
      | received => exact hcandidate.2.2.2
      | failed => exact hcandidate.2.2.2
      | expiredProcessing => exact hcandidate.2.2.2
    exact ⟨hcandidate.unprocessed.1, hbudget, rfl, rfl, rfl, rfl, rfl, hcandidate.unprocessed.2⟩
  · cases h

lemma WebhookEvent.claimForAdminRecovery_claims {e e' : WebhookEvent}
    {expectedStatus : WebhookStatus} {orderId : String}
    (h : e.claimForAdminRecovery expectedStatus orderId leaseMs t = some e') : e.Claims e' := by
  unfold WebhookEvent.claimForAdminRecovery at h
  split at h
  · rename_i hclaim
    obtain rfl := Option.some.inj h
    obtain ⟨hstatus, hexpected, -, hbudget⟩ := hclaim
    have hunprocessed : e.status ≠ .processed := by
      rw [hstatus]
      rcases hexpected with hexpected | hexpected <;> rw [hexpected] <;> decide
    exact ⟨hunprocessed, hbudget, rfl, rfl, rfl, rfl, rfl, rfl⟩
  · cases h

namespace Attempt

lemma claimed_steps {next : AttemptPosition} {update : Option WebhookEvent}
    (hposition : a.position.Claiming) (hnext : next.Free)
    (hclaims : ∀ event, update = some event → s.event.Claims event)
    (h : a.claimed i s next update = some (s', a')) :
    Steps i s a s' a' ∧ ¬a'.position.InTransaction := by
  have htransaction : ¬a.position.InTransaction := by
    cases hp : a.position <;> rw [hp] at hposition <;> first | exact fun h => h | exact hposition.elim
  unfold claimed at h
  split at h
  · obtain ⟨rfl, rfl⟩ := Prod.mk.inj (Option.some.inj h)
    exact ⟨.ofSettles (settles_finished _) htransaction, fun h => h⟩
  · rename_i event
    split at h
    · cases h
    · rename_i hlock
      obtain ⟨rfl, rfl⟩ := Prod.mk.inj (Option.some.inj h)
      rw [Bool.not_eq_true, Option.isSome_eq_false_iff, Option.isNone_iff_eq_none] at hlock
      have hfree : (if event.sourceShopifyOrderId.getD "" = "" then AttemptPosition.ended .threw
          else next).Free := by
        split
        · exact ⟨fun h => h, fun h => h⟩
        · exact hnext
      exact ⟨.claim hlock hposition (hclaims event rfl) ⟨_, rfl⟩ hfree, hfree.transaction⟩

lemma recorded_stays {unmatched outcome : AttemptOutcome} {record : Option FailureRecord}
    {update : Option WebhookEvent} (h : a.recorded s unmatched outcome record update = some (s', a')) :
    (s' = s ∧ a.Settles a') ∨ ∃ event, update = some event ∧ s.lock = none ∧
      s' = { s with event, record } ∧ a.Settles a' := by
  unfold recorded at h
  split at h
  · obtain ⟨rfl, rfl⟩ := Prod.mk.inj (Option.some.inj h)
    exact .inl ⟨rfl, settles_finished _⟩
  · rename_i event
    split at h
    · cases h
    · rename_i hlock
      obtain ⟨rfl, rfl⟩ := Prod.mk.inj (Option.some.inj h)
      rw [Bool.not_eq_true, Option.isSome_eq_false_iff, Option.isNone_iff_eq_none] at hlock
      exact .inr ⟨event, rfl, hlock, rfl, settles_finished _⟩

lemma processCandidate_steps {kind : CandidateKind} (hposition : a.position = .claim kind)
    (h : a.processCandidate leaseMs i s kind t = some (s', a')) :
    Steps i s a s' a' ∧ ¬a'.position.InTransaction := by
  have hclaiming : a.position.Claiming := by rw [hposition]; trivial
  unfold processCandidate at h
  split at h
  · rcases recorded_stays h with ⟨rfl, hsettles⟩ | ⟨event, hevent, hlock, rfl, hsettles⟩
    · exact ⟨.ofSettles hsettles (by rw [hposition]; exact fun h => h), hsettles.free.transaction⟩
    · exact ⟨.fence hlock hclaiming hevent hsettles.context hsettles.free,
        hsettles.free.transaction⟩
  · have hprepare : AttemptPosition.prepare.Free := ⟨fun h => h, fun h => h⟩
    exact claimed_steps hclaiming hprepare (fun event hevent => WebhookEvent.claim_claims hevent) h

lemma retryable_steps {context : FencedExecutionContext} {error : String}
    (hcontext : a.context = some context) (hposition : ¬a.position.InTransaction)
    (h : a.retryable s context error t = some (s', a')) :
    Steps i s a s' a' ∧ ¬a'.position.InTransaction := by
  unfold retryable at h
  split at h
  · rename_i hbudget
    rcases recorded_stays h with ⟨rfl, hsettles⟩ | ⟨event, hevent, hlock, rfl, hsettles⟩
    · exact ⟨.ofSettles hsettles hposition, hsettles.free.transaction⟩
    · exact ⟨.retryable hcontext hlock hevent (fun _ => hbudget) hsettles.context hsettles.free,
        hsettles.free.transaction⟩
  · rcases recorded_stays h with ⟨rfl, hsettles⟩ | ⟨event, hevent, hlock, rfl, hsettles⟩
    · exact ⟨.ofSettles hsettles hposition, hsettles.free.transaction⟩
    · exact ⟨.retryable hcontext hlock hevent nofun hsettles.context hsettles.free,
        hsettles.free.transaction⟩

lemma terminal_steps {context : FencedExecutionContext} {error : String}
    (hcontext : a.context = some context) (hposition : ¬a.position.InTransaction)
    (h : a.terminal s context error t = some (s', a')) :
    Steps i s a s' a' ∧ ¬a'.position.InTransaction := by
  rcases recorded_stays h with ⟨rfl, hsettles⟩ | ⟨event, hevent, hlock, rfl, hsettles⟩
  · exact ⟨.ofSettles hsettles hposition, hsettles.free.transaction⟩
  · exact ⟨.terminal hcontext hlock hevent hsettles.context hsettles.free,
      hsettles.free.transaction⟩

/-- The answer of a statement outside of the transaction is lost. -/
lemma Steps.threw (h : Steps i s a s' a') (hposition : ¬a.position.InTransaction)
    (hposition' : ¬a'.position.InTransaction) :
    Steps i s a s' (a'.finished .threw) := by
  have hfree : (AttemptPosition.ended .threw).Free := ⟨fun h => h, fun h => h⟩
  cases h with
  | stays hkeeps => exact .stays ⟨hkeeps.context, .inr (.inr (.inr ⟨hposition, hfree⟩))⟩
  | claim hlock hclaiming hclaim hcontext _ => exact .claim hlock hclaiming hclaim hcontext hfree
  | fence hlock hclaiming hevent hcontext _ => exact .fence hlock hclaiming hevent hcontext hfree
  | heartbeat hcontext hlock hevent hkeeps =>
      exact .heartbeat hcontext hlock hevent
        ⟨hkeeps.context, .inr (.inr (.inr ⟨hposition, hfree⟩))⟩
  | retryable hcontext hlock hevent hrecord hcontext' _ =>
      exact .retryable hcontext hlock hevent hrecord hcontext' hfree
  | terminal hcontext hlock hevent hcontext' _ =>
      exact .terminal hcontext hlock hevent hcontext' hfree
  | lock _ _ _ _ hfinalize =>
      rw [hfinalize] at hposition'
      exact absurd trivial hposition'
  | rollback hin => exact absurd hin hposition
  | commit _ hcommit =>
      rw [hcommit] at hposition
      exact absurd trivial hposition

lemma heartbeat_steps {context : FencedExecutionContext} (hcontext : a.context = some context)
    (h : a.heartbeat leaseMs s context t = some (s', a')) : Steps i s a s' a' := by
  unfold heartbeat at h
  split at h
  · obtain ⟨rfl, rfl⟩ := Prod.mk.inj (Option.some.inj h)
    exact .stays ⟨rfl, .inl rfl⟩
  · rename_i event hevent
    split at h
    · cases h
    · rename_i hlock
      obtain ⟨rfl, rfl⟩ := Prod.mk.inj (Option.some.inj h)
      rw [Bool.not_eq_true, Option.isSome_eq_false_iff, Option.isNone_iff_eq_none] at hlock
      exact .heartbeat hcontext hlock hevent ⟨rfl, .inl rfl⟩

lemma lockOwnership_steps {context : FencedExecutionContext} (hcontext : a.context = some context)
    (hposition : ¬a.position.InTransaction)
    (h : a.lockOwnership i s context = some (s', a')) : Steps i s a s' a' := by
  unfold lockOwnership at h
  split at h
  · rename_i hverified
    split at h
    · cases h
    · rename_i hlock
      obtain ⟨rfl, rfl⟩ := Prod.mk.inj (Option.some.inj h)
      rw [Bool.not_eq_true, Option.isSome_eq_false_iff, Option.isNone_iff_eq_none] at hlock
      exact .lock hcontext hlock hverified rfl rfl
  · obtain ⟨rfl, rfl⟩ := Prod.mk.inj (Option.some.inj h)
    exact .ofSettles settles_afterLostFence hposition

lemma claimForAdminRecovery_steps {expectedStatus : WebhookStatus} {orderId : String}
    (hposition : a.position.Claiming)
    (h : a.claimed i s .processing
      (s.event.claimForAdminRecovery expectedStatus orderId leaseMs t) = some (s', a')) :
    Steps i s a s' a' ∧ ¬a'.position.InTransaction := by
  have hprocessing : AttemptPosition.processing.Free := ⟨fun h => h, fun h => h⟩
  exact claimed_steps hposition hprocessing
    (fun event hevent => WebhookEvent.claimForAdminRecovery_claims hevent) h

lemma rollback_steps {next : Attempt} (hposition : a.position.InTransaction)
    (hsettles : a.Settles next) (h : rollback s next = (s', a')) : Steps i s a s' a' := by
  obtain ⟨rfl, rfl⟩ := Prod.mk.inj h
  exact .rollback hposition hsettles.context hsettles.free

lemma commit_steps {context : FencedExecutionContext} {shopifyOrderId : Id} {clock : Instant}
    {next : Attempt} (hcontext : a.context = some context)
    (hposition : a.position = .commit shopifyOrderId clock) (hsettles : a.Settles next) :
    Steps i s a (commit s context shopifyOrderId clock) next :=
  .commit hcontext hposition hsettles.context hsettles.free

/-- **What a step of an attempt does.** -/
theorem run_steps {answer : AttemptAnswer} (h : a.run leaseMs batchSize i answer s = some (s', a')) :
    Steps i s a s' a' := by
  unfold run at h
  split at h
  case isFalse => cases h
  case isTrue hbegun =>
  unfold perform at h
  split at h
  all_goals
    try simp only [Option.some.injEq, Prod.mk.injEq, reduceCtorEq, Option.map_eq_some_iff] at h
  case h_1 hc => exact heartbeat_steps hc h
  case h_2 =>
    obtain ⟨rfl, rfl⟩ := h
    exact .stays ⟨rfl, .inl rfl⟩
  case h_3 =>
    obtain ⟨rfl, rfl⟩ := h
    exact .stays ⟨rfl, .inl rfl⟩
  case h_4 hp =>
    have hposition : ¬a.position.InTransaction := by rw [hp]; exact fun h => h
    split at h
    · obtain ⟨rfl, rfl⟩ := Prod.mk.inj (Option.some.inj h)
      exact .ofSettles (settles_finished _) hposition
    · obtain ⟨rfl, rfl⟩ := Prod.mk.inj (Option.some.inj h)
      exact .stays ⟨rfl, .inr (.inl ⟨by rw [hp]; trivial, trivial⟩)⟩
  case h_5 hp => exact (processCandidate_steps hp h).1
  case h_6 hp =>
    obtain ⟨⟨s₁, a₁⟩, hstep, rfl, rfl⟩ := h
    have hsteps := processCandidate_steps hp hstep
    exact hsteps.1.threw (by rw [hp]; exact fun h => h) hsteps.2
  case h_7 hp =>
    obtain ⟨rfl, rfl⟩ := h
    exact .stays ⟨rfl, .inr (.inl ⟨by rw [hp]; trivial, trivial⟩)⟩
  case h_8 hp =>
    split at h
    · cases h
    · exact (claimForAdminRecovery_steps (by rw [hp]; trivial) h).1
  case h_9 hp =>
    split at h
    · cases h
    · obtain ⟨⟨s₁, a₁⟩, hstep, hthrew⟩ := Option.map_eq_some_iff.mp h
      obtain ⟨rfl, rfl⟩ := Prod.mk.inj hthrew
      have hsteps := claimForAdminRecovery_steps (by rw [hp]; trivial) hstep
      exact hsteps.1.threw (by rw [hp]; exact fun h => h) hsteps.2
  case h_10 hp =>
    obtain ⟨rfl, rfl⟩ := h
    exact .stays ⟨rfl, .inr (.inr (.inr ⟨by rw [hp]; exact fun h => h, fun h => h, fun h => h⟩))⟩
  case h_11 hp =>
    obtain ⟨rfl, rfl⟩ := h
    exact .ofSettles (settles_finalizeFailure _ _) (by rw [hp]; exact fun h => h)
  case h_12 hp =>
    obtain ⟨rfl, rfl⟩ := h
    exact .ofSettles (settles_afterResult _) (by rw [hp]; exact fun h => h)
  case h_13 hp =>
    obtain ⟨rfl, rfl⟩ := h
    exact .ofSettles (settles_afterFailure _ _) (by rw [hp]; exact fun h => h)
  case h_14 hp =>
    obtain ⟨rfl, rfl⟩ := h
    exact .ofSettles settles_afterLostFence (by rw [hp]; exact fun h => h)
  case h_15 hp =>
    obtain ⟨rfl, rfl⟩ := h
    exact .ofSettles settles_afterAbort (by rw [hp]; exact fun h => h)
  case h_16 hp =>
    obtain ⟨rfl, rfl⟩ := h
    exact .stays ⟨rfl, .inr (.inr (.inr ⟨by rw [hp]; exact fun h => h, fun h => h, fun h => h⟩))⟩
  case h_17 hp hc => exact lockOwnership_steps hc (by rw [hp]; exact fun h => h) h
  case h_18 hp =>
    obtain ⟨rfl, rfl⟩ := h
    exact .ofSettles (settles_afterResult _) (by rw [hp]; exact fun h => h)
  case h_19 hp hc =>
    split at h
    · obtain ⟨rfl, rfl⟩ := Prod.mk.inj (Option.some.inj h)
      exact .stays ⟨rfl, .inr (.inr (.inl ⟨by rw [hp]; trivial, trivial⟩))⟩
    · exact rollback_steps (by rw [hp]; trivial) settles_afterLostFence (Option.some.inj h)
  case h_20 hp => exact rollback_steps (by rw [hp]; trivial) (settles_afterResult _) h
  case h_21 hp hc =>
    obtain ⟨rfl, rfl⟩ := h
    exact commit_steps hc hp (settles_afterResult _)
  case h_22 hp => exact rollback_steps (by rw [hp]; trivial) (settles_afterResult _) h
  case h_23 hp hc =>
    obtain ⟨rfl, rfl⟩ := h
    exact commit_steps hc hp (settles_afterResult _)
  case h_24 hp hc => exact (retryable_steps hc (by rw [hp]; exact fun h => h) h).1
  case h_25 hp hc =>
    obtain ⟨⟨s₁, a₁⟩, hstep, rfl, rfl⟩ := h
    have hsteps := retryable_steps (i := i) hc (by rw [hp]; exact fun h => h) hstep
    exact hsteps.1.threw (by rw [hp]; exact fun h => h) hsteps.2
  case h_26 hp hc => exact (terminal_steps hc (by rw [hp]; exact fun h => h) h).1
  case h_27 hp hc =>
    obtain ⟨⟨s₁, a₁⟩, hstep, rfl, rfl⟩ := h
    have hsteps := terminal_steps (i := i) hc (by rw [hp]; exact fun h => h) hstep
    exact hsteps.1.threw (by rw [hp]; exact fun h => h) hsteps.2
  all_goals
    rename_i hp
    obtain ⟨rfl, rfl⟩ := h
    exact .ofSettles (settles_finished _) (by rw [hp]; exact fun h => h)

end Attempt

/-! ## The invariants -/

structure ExecutionStore.Sound (s : ExecutionStore) : Prop where
  order : s.event.sourceShopifyOrderId.isSome
  budget : s.event.executionAttemptCount ≤ s.event.executionMaxAttempts
  received : s.event.status = .received → s.event.executionAvailableAt.isSome ∧
    s.event.executionAttemptCount < s.event.executionMaxAttempts
  processing : s.event.status = .processing → s.event.processingLeaseExpiresAt.isSome
  failed : s.event.status = .failed → (s.event.executionAvailableAt.isSome ∧
    s.event.executionAttemptCount < s.event.executionMaxAttempts) ∨
      (s.event.executionAvailableAt = none ∧ s.record.isSome)
  committed : s.committed = [] ∨ (s.event.status = .processed ∧ ∃ g, s.committed = [g])
  claims : ∀ g j, (g, j) ∈ s.claims → g ≤ s.event.processingGeneration
  claimsUnique : KeyUnique Prod.fst s.claims

structure Attempt.Sound (i : ℕ) (s : ExecutionStore) (a : Attempt) : Prop where
  claiming : a.position.Claiming → a.context = none
  context : ∀ context, a.context = some context → (context.processingGeneration, i) ∈ s.claims
  transaction : a.position.InTransaction →
    s.lock = some i ∧ ∃ context, a.context = some context ∧ s.event.OwnedBy context

lemma ExecutionStore.Sound.uncommitted (h : s.Sound) (hstatus : s.event.status ≠ .processed) :
    s.committed = [] := by
  rcases h.committed with hnil | ⟨hprocessed, -⟩
  · exact hnil
  · exact absurd hprocessed hstatus

lemma WebhookEvent.OwnedBy.unprocessed {e : WebhookEvent} {context : FencedExecutionContext}
    (h : e.OwnedBy context) : e.status ≠ .processed := by
  rw [h.1]
  decide

lemma ExecutionStore.Sound.claimed {event : WebhookEvent} (h : s.Sound)
    (hclaim : s.event.Claims event) :
    ExecutionStore.Sound { s with
      event
      claims := s.claims ++ [(event.processingGeneration, i)]
      record := none } where
  order := hclaim.order
  budget := by
    show event.executionAttemptCount ≤ event.executionMaxAttempts
    rw [hclaim.attempts, hclaim.maxAttempts]
    exact hclaim.budget
  received := fun hstatus => by
    have hstatus : event.status = .received := hstatus
    rw [hclaim.status] at hstatus
    cases hstatus
  processing := fun _ => hclaim.lease
  failed := fun hstatus => by
    have hstatus : event.status = .failed := hstatus
    rw [hclaim.status] at hstatus
    cases hstatus
  committed := .inl (h.uncommitted hclaim.unprocessed)
  claims := by
    intro g j hmem
    show g ≤ event.processingGeneration
    rcases List.mem_append.mp hmem with hmem | hmem
    · have := h.claims g j hmem
      rw [hclaim.generation]
      omega
    · rw [List.mem_singleton] at hmem
      exact (Prod.mk.inj hmem).1.le
  claimsUnique := by
    refine keyUnique_append.mpr ⟨h.claimsUnique, by simp [KeyUnique], ?_⟩
    rintro ⟨g, j⟩ hmem ⟨g', j'⟩ hmem' heq
    rw [List.mem_singleton] at hmem'
    have hle := h.claims g j hmem
    have hgeneration := hclaim.generation
    have : g' = event.processingGeneration := (Prod.mk.inj hmem').1
    have : g = g' := heq
    omega

lemma ExecutionStore.Sound.fenced {event : WebhookEvent} {t : Instant} (h : s.Sound)
    (hevent : s.event.fenceExpiredExhausted t = some event) :
    ExecutionStore.Sound { s with event, record := some .exhausted } := by
  unfold WebhookEvent.fenceExpiredExhausted at hevent
  split at hevent
  · rename_i hcandidate
    obtain rfl := Option.some.inj hevent
    exact
      { order := h.order
        budget := h.budget
        received := nofun
        processing := nofun
        failed := fun _ => .inr ⟨rfl, rfl⟩
        committed := .inl (h.uncommitted hcandidate.unprocessed.1)
        claims := fun g j hmem => (h.claims g j hmem).trans (Nat.le_succ _)
        claimsUnique := h.claimsUnique }
  · cases hevent

lemma ExecutionStore.Sound.heartbeat {context : FencedExecutionContext} {event : WebhookEvent}
    {t clock : Instant} (h : s.Sound)
    (hevent : s.event.heartbeat context leaseMs t clock = some event) :
    ExecutionStore.Sound { s with event } := by
  unfold WebhookEvent.heartbeat at hevent
  split at hevent
  · obtain rfl := Option.some.inj hevent
    exact { h with processing := fun _ => rfl }
  · cases hevent

/-- A failure of an attempt that owns the event is recorded. -/
lemma ExecutionStore.Sound.failedBy {context : FencedExecutionContext} {event : WebhookEvent}
    {record : Option FailureRecord} (h : s.Sound) (howned : s.event.OwnedBy context)
    (hstatus : event.status = .failed)
    (hevent : event = { s.event with
      status := event.status
      processingLeaseExpiresAt := event.processingLeaseExpiresAt
      executionAvailableAt := event.executionAvailableAt
      errorMessage := event.errorMessage })
    (hend : (event.executionAvailableAt.isSome ∧
      s.event.executionAttemptCount < s.event.executionMaxAttempts) ∨
        (event.executionAvailableAt = none ∧ record.isSome)) :
    ExecutionStore.Sound { s with event, record } := by
  have hcommitted := h.uncommitted howned.unprocessed
  rw [hevent]
  exact
    { order := h.order
      budget := h.budget
      received := fun h' => by
        have h' : event.status = .received := h'
        rw [hstatus] at h'
        cases h'
      processing := fun h' => by
        have h' : event.status = .processing := h'
        rw [hstatus] at h'
        cases h'
      failed := fun _ => hend
      committed := .inl hcommitted
      claims := h.claims
      claimsUnique := h.claimsUnique }

lemma ExecutionStore.Sound.retryable {context : FencedExecutionContext} {event : WebhookEvent}
    {error : String} {record : Option FailureRecord} (h : s.Sound)
    (hevent : s.event.finalizeRetryable context error t = some event)
    (hrecord : record = none → s.event.executionAttemptCount < s.event.executionMaxAttempts) :
    ExecutionStore.Sound { s with event, record } := by
  unfold WebhookEvent.finalizeRetryable at hevent
  split at hevent
  · rename_i howned
    obtain rfl := Option.some.inj hevent
    refine h.failedBy howned.1 rfl rfl ?_
    dsimp only
    split
    · exact .inl ⟨rfl, ‹_›⟩
    · rename_i hexhausted
      refine .inr ⟨rfl, Option.isSome_iff_ne_none.mpr fun hnone => ?_⟩
      exact hexhausted (hrecord hnone)
  · cases hevent

lemma ExecutionStore.Sound.terminal {context : FencedExecutionContext} {event : WebhookEvent}
    {error : String} (h : s.Sound)
    (hevent : s.event.finalizeTerminal context error t = some event) :
    ExecutionStore.Sound { s with event, record := some .terminal } := by
  unfold WebhookEvent.finalizeTerminal at hevent
  split at hevent
  · rename_i howned
    obtain rfl := Option.some.inj hevent
    exact h.failedBy howned.1 rfl rfl (.inr ⟨rfl, rfl⟩)
  · cases hevent

namespace Attempt

/-- The store stays sound. -/
lemma Steps.store (hs : s.Sound) (ha : a.Sound i s) (h : Steps i s a s' a') : s'.Sound := by
  cases h with
  | stays => exact hs
  | claim _ _ hclaim => exact hs.claimed hclaim
  | fence _ _ hevent => exact hs.fenced hevent
  | heartbeat _ _ hevent => exact hs.heartbeat hevent
  | retryable _ _ hevent hrecord => exact hs.retryable hevent hrecord
  | terminal _ _ hevent => exact hs.terminal hevent
  | lock => exact { hs with }
  | rollback => exact { hs with }
  | @commit context a' shopifyOrderId clock _ hposition =>
      obtain ⟨-, owner, -, howned⟩ := ha.transaction (by rw [hposition]; trivial)
      have hcommitted := hs.uncommitted howned.unprocessed
      exact
        { order := hs.order
          budget := hs.budget
          received := nofun
          processing := nofun
          failed := nofun
          committed := .inr ⟨rfl, _, by rw [Attempt.commit, hcommitted, List.nil_append]⟩
          claims := hs.claims
          claimsUnique := hs.claimsUnique }

/-- A step of an attempt that does not hold the lock changes nothing for one that does. -/
lemma Steps.locked {j : ℕ} (hij : j ≠ i) (ha : a.Sound i s) (hlock : s.lock = some j)
    (h : Steps i s a s' a') : s'.lock = some j ∧ s'.event = s.event := by
  have hout : ¬a.position.InTransaction := by
    intro hin
    have hown := (ha.transaction hin).1
    rw [hlock] at hown
    exact hij (Option.some.inj hown)
  cases h with
  | stays => exact ⟨hlock, rfl⟩
  | claim hfree => rw [hlock] at hfree; cases hfree
  | fence hfree => rw [hlock] at hfree; cases hfree
  | heartbeat _ hfree => rw [hlock] at hfree; cases hfree
  | retryable _ hfree => rw [hlock] at hfree; cases hfree
  | terminal _ hfree => rw [hlock] at hfree; cases hfree
  | lock _ hfree => rw [hlock] at hfree; cases hfree
  | rollback hin => exact absurd hin hout
  | commit _ hposition =>
      rw [hposition] at hout
      exact absurd trivial hout

lemma Steps.claims (h : Steps i s a s' a') : s.claims ⊆ s'.claims := by
  cases h with
  | claim => exact List.subset_append_left _ _
  | _ => exact List.Subset.refl _

/-- **A step of another attempt leaves an attempt sound.** -/
lemma Steps.other {j : ℕ} {b : Attempt} (hij : j ≠ i) (ha : a.Sound i s) (hb : b.Sound j s)
    (h : Steps i s a s' a') : b.Sound j s' where
  claiming := hb.claiming
  context := fun context hcontext => h.claims (hb.context context hcontext)
  transaction := by
    intro hin
    obtain ⟨hlock, context, hcontext, howned⟩ := hb.transaction hin
    obtain ⟨hlock', hevent⟩ := h.locked hij ha hlock
    exact ⟨hlock', context, hcontext, hevent ▸ howned⟩

/-- An attempt outside of the transaction, with the context that it had. -/
lemma Sound.settled (h : a.Sound i s) (hclaims : s.claims ⊆ s'.claims)
    (hcontext : a'.context = a.context) (hfree : a'.position.Free) : a'.Sound i s' where
  claiming := fun hclaiming => absurd hclaiming hfree.claiming
  context := fun context hc => hclaims (h.context context (hcontext ▸ hc))
  transaction := fun hin => absurd hin hfree.transaction

lemma Sound.keeps (h : a.Sound i s) (hkeeps : a.Keeps a') : a'.Sound i s where
  claiming := by
    intro hclaiming
    rw [hkeeps.context]
    refine h.claiming ?_
    rcases hkeeps.position with heq | ⟨hfrom, -⟩ | ⟨-, hin⟩ | ⟨-, hfree⟩
    · rwa [heq] at hclaiming
    · exact hfrom
    · cases hp : a'.position <;> rw [hp] at hclaiming hin <;>
        first | exact hclaiming.elim | exact hin.elim
    · exact absurd hclaiming hfree.claiming
  context := fun context hc => h.context context (hkeeps.context ▸ hc)
  transaction := by
    intro hin
    rw [hkeeps.context]
    refine h.transaction ?_
    rcases hkeeps.position with heq | ⟨-, hclaiming⟩ | ⟨hfrom, -⟩ | ⟨-, hfree⟩
    · rwa [heq] at hin
    · cases hp : a'.position <;> rw [hp] at hclaiming hin <;>
        first | exact hclaiming.elim | exact hin.elim
    · exact hfrom
    · exact absurd hin hfree.transaction

/-- **The attempt that takes a step stays sound.** -/
lemma Steps.self (ha : a.Sound i s) (h : Steps i s a s' a') : a'.Sound i s' := by
  cases h with
  | stays hkeeps => exact ha.keeps hkeeps
  | @claim event a' _ _ _ hcontext hfree =>
      refine ⟨fun hclaiming => absurd hclaiming hfree.claiming, fun context hc => ?_,
        fun hin => absurd hin hfree.transaction⟩
      obtain ⟨order, horder⟩ := hcontext
      obtain rfl := Option.some.inj (horder.symm.trans hc)
      exact List.mem_append_right _ (List.mem_singleton_self _)
  | fence _ _ _ hcontext hfree => exact ha.settled (List.Subset.refl _) hcontext hfree
  | heartbeat _ hlock _ hkeeps =>
      have hkept := ha.keeps hkeeps
      refine ⟨hkept.claiming, hkept.context, fun hin => ?_⟩
      have hown := (hkept.transaction hin).1
      rw [hlock] at hown
      cases hown
  | retryable _ _ _ _ hcontext hfree => exact ha.settled (List.Subset.refl _) hcontext hfree
  | terminal _ _ _ hcontext hfree => exact ha.settled (List.Subset.refl _) hcontext hfree
  | @lock context a' hc _ hverified hcontext hposition =>
      refine ⟨fun hclaiming => ?_, fun context' hc' => ha.context context' (hcontext ▸ hc'),
        fun _ => ⟨rfl, context, hcontext.trans hc, hverified.1⟩⟩
      rw [hposition] at hclaiming
      exact hclaiming.elim
  | rollback _ hcontext hfree => exact ha.settled (List.Subset.refl _) hcontext hfree
  | commit _ _ hcontext hfree => exact ha.settled (List.Subset.refl _) hcontext hfree

/-- **An event is written by a claim, or by its owner.** -/
theorem Steps.event (ha : a.Sound i s) (h : Steps i s a s' a') : s'.event = s.event ∨
    (a.position.Claiming ∧ s.event.status ≠ .processed) ∨
      ∃ context, a.context = some context ∧ s.event.OwnedBy context := by
  cases h with
  | stays => exact .inl rfl
  | claim _ hposition hclaim => exact .inr (.inl ⟨hposition, hclaim.unprocessed⟩)
  | fence _ hposition hevent =>
      unfold WebhookEvent.fenceExpiredExhausted at hevent
      split at hevent
      · exact .inr (.inl ⟨hposition, (WebhookEvent.IsCandidate.unprocessed ‹_›).1⟩)
      · cases hevent
  | heartbeat hcontext _ hevent =>
      unfold WebhookEvent.heartbeat at hevent
      split at hevent
      · rename_i howned
        exact .inr (.inr ⟨_, hcontext, howned.1⟩)
      · cases hevent
  | retryable hcontext _ hevent =>
      unfold WebhookEvent.finalizeRetryable at hevent
      split at hevent
      · rename_i howned
        exact .inr (.inr ⟨_, hcontext, howned.1⟩)
      · cases hevent
  | terminal hcontext _ hevent =>
      unfold WebhookEvent.finalizeTerminal at hevent
      split at hevent
      · rename_i howned
        exact .inr (.inr ⟨_, hcontext, howned.1⟩)
      · cases hevent
  | lock => exact .inl rfl
  | rollback => exact .inl rfl
  | commit _ hposition =>
      obtain ⟨-, owner, howner, howned⟩ := ha.transaction (by rw [hposition]; trivial)
      exact .inr (.inr ⟨owner, howner, howned⟩)

/-- `PROCESSED` is not left. -/
lemma Steps.final (ha : a.Sound i s) (hfinal : s.event.status = .processed)
    (h : Steps i s a s' a') : s'.event = s.event := by
  rcases h.event ha with hsame | ⟨-, hunprocessed⟩ | ⟨context, -, howned⟩
  · exact hsame
  · exact absurd hfinal hunprocessed
  · exact absurd hfinal howned.unprocessed

/-- An attempt writes nothing once another has claimed the event. -/
lemma Steps.stale {context : FencedExecutionContext} (ha : a.Sound i s)
    (hcontext : a.context = some context)
    (hstale : context.processingGeneration < s.event.processingGeneration)
    (h : Steps i s a s' a') : s'.event = s.event := by
  rcases h.event ha with hsame | ⟨hclaiming, -⟩ | ⟨context', hcontext', howned⟩
  · exact hsame
  · rw [ha.claiming hclaiming] at hcontext
    cases hcontext
  · obtain rfl := Option.some.inj (hcontext.symm.trans hcontext')
    exact absurd howned.2.1.symm hstale.ne

/-- The generation only grows. -/
lemma Steps.generation (h : Steps i s a s' a') :
    s.event.processingGeneration ≤ s'.event.processingGeneration := by
  cases h with
  | stays => exact le_refl _
  | claim _ _ hclaim => exact hclaim.generation ▸ Nat.le_succ _
  | fence _ _ hevent =>
      unfold WebhookEvent.fenceExpiredExhausted at hevent
      split at hevent
      · obtain rfl := Option.some.inj hevent
        exact Nat.le_succ _
      · cases hevent
  | heartbeat _ _ hevent =>
      unfold WebhookEvent.heartbeat at hevent
      split at hevent
      · obtain rfl := Option.some.inj hevent
        exact le_refl _
      · cases hevent
  | retryable _ _ hevent =>
      unfold WebhookEvent.finalizeRetryable at hevent
      split at hevent
      · obtain rfl := Option.some.inj hevent
        exact le_refl _
      · cases hevent
  | terminal _ _ hevent =>
      unfold WebhookEvent.finalizeTerminal at hevent
      split at hevent
      · obtain rfl := Option.some.inj hevent
        exact le_refl _
      · cases hevent
  | lock => exact le_refl _
  | rollback => exact le_refl _
  | commit => exact le_refl _

/-- A claim makes every earlier context stale. -/
lemma Steps.newClaim {context : FencedExecutionContext} (hcontext : a.context = none)
    (hcontext' : a'.context = some context) (h : Steps i s a s' a') :
    context.processingGeneration = s'.event.processingGeneration ∧
      s'.event.processingGeneration = s.event.processingGeneration + 1 := by
  have hold : a'.context ≠ a.context := by
    rw [hcontext, hcontext']
    exact nofun
  cases h with
  | stays hkeeps => exact absurd hkeeps.context hold
  | claim _ _ hclaim hnew =>
      obtain ⟨order, hnew⟩ := hnew
      obtain rfl := Option.some.inj (hnew.symm.trans hcontext')
      exact ⟨rfl, hclaim.generation⟩
  | fence _ _ _ hkept => exact absurd hkept hold
  | heartbeat _ _ _ hkeeps => exact absurd hkeeps.context hold
  | retryable _ _ _ _ hkept => exact absurd hkept hold
  | terminal _ _ _ hkept => exact absurd hkept hold
  | lock _ _ _ hkept => exact absurd hkept hold
  | rollback _ hkept => exact absurd hkept hold
  | commit _ _ hkept => exact absurd hkept hold

end Attempt

/-! ## Runs -/

lemma ExecutionStore.New.sound (h : s.New) : s.Sound := by
  obtain ⟨orderId, maxAttempts, now, hbudget, rfl⟩ := h
  exact
    { order := rfl
      budget := hbudget.le
      received := fun _ => ⟨rfl, hbudget⟩
      processing := nofun
      failed := nofun
      committed := .inl rfl
      claims := fun g j hmem => (List.not_mem_nil hmem).elim
      claimsUnique := KeyUnique.nil _ }

lemma Attempt.sound_start (kind : AttemptKind) : (Attempt.start kind).Sound i s := by
  cases kind with
  | executor => exact ⟨fun _ => rfl, nofun, fun h => h.elim⟩
  | adminRecovery orderId => exact ⟨fun _ => rfl, nofun, fun h => h.elim⟩

theorem ordersCreateExecution_sound (leaseMs batchSize : ℕ) :
    Program.Sound (ordersCreateExecution leaseMs batchSize) ExecutionStore.New (fun _ _ => True)
      ExecutionStore.Sound Attempt.Sound where
  init := fun s hs => hs.sound
  start := fun i s kind _ => Attempt.sound_start kind
  run := by
    intro w i answer a s a' hw ha _ hrun
    have hsteps := Attempt.run_steps hrun
    exact ⟨hsteps.store hw.1 (hw.2 i a ha), hsteps.self (hw.2 i a ha)⟩
  interference := by
    intro w i answer a s a' hw ha _ hrun j b hij hb
    exact (Attempt.run_steps hrun).other hij (hw.2 i a ha) (hw.2 j b hb)
  outside := by
    intro w tick s hw _ htick
    have htick : (if w.shared.clock ≤ tick.clock then some { w.shared with clock := tick.clock }
      else none) = some s := htick
    split at htick
    · obtain rfl := Option.some.inj htick
      refine ⟨{ hw.1 with }, fun j b hb => ?_⟩
      have hsound := hw.2 j b hb
      exact ⟨hsound.claiming, hsound.context, hsound.transaction⟩
    · cases htick

/-- When the event is to be taken up again. -/
def WebhookEvent.availableAt (e : WebhookEvent) : Option Instant :=
  if e.status = .processing then e.processingLeaseExpiresAt else e.executionAvailableAt

/-- The event has a recorded end. -/
def ExecutionStore.Ended (s : ExecutionStore) : Prop :=
  s.event.status = .failed ∧ s.event.executionAvailableAt = none ∧ s.record.isSome

/-- The classes of candidates exclude each other. -/
lemma WebhookEvent.IsCandidate.unique {e : WebhookEvent} {kind kind' : CandidateKind}
    (h : e.IsCandidate t kind) (h' : e.IsCandidate t kind') : kind = kind' := by
  cases kind <;> cases kind' <;> first
    | rfl
    | exact absurd (h.1.symm.trans h'.1) (by decide)
    | exact absurd h.2.2.2 (not_lt.mpr h'.2.2.2)
    | exact absurd h'.2.2.2 (not_lt.mpr h.2.2.2)

lemma WebhookEvent.IsCandidate.discover {e : WebhookEvent} {kind : CandidateKind}
    (h : e.IsCandidate t kind) (hbatch : 0 < batchSize) : e.discover batchSize t = [kind] := by
  have heq : ∀ k, decide (e.IsCandidate t k) = decide (k = kind) := fun k =>
    decide_eq_decide.mpr ⟨fun hk => hk.unique h, fun hk => hk ▸ h⟩
  unfold WebhookEvent.discover
  simp only [heq]
  cases kind <;> exact List.take_of_length_le hbatch

/-- **A sound event is not lost.** -/
theorem ExecutionStore.Sound.discovered (h : s.Sound) (hbatch : 0 < batchSize)
    (hunprocessed : s.event.status ≠ .processed) :
    s.Ended ∨ ∃ d, s.event.availableAt = some d ∧
      ∀ t, d ≤ t → ∃ kind, s.event.discover batchSize t = [kind] := by
  have hkinds : ∀ t kind, s.event.IsCandidate t kind →
      ∃ kind, s.event.discover batchSize t = [kind] :=
    fun t kind hkind => ⟨kind, hkind.discover hbatch⟩
  cases hstatus : s.event.status with
  | processed => exact absurd hstatus hunprocessed
  | received =>
      obtain ⟨havailable, hbudget⟩ := h.received hstatus
      obtain ⟨d, hd⟩ := Option.isSome_iff_exists.mp havailable
      refine .inr ⟨d, ?_, fun t ht => ?_⟩
      · rw [WebhookEvent.availableAt, if_neg (by rw [hstatus]; decide), hd]
      · exact hkinds t .received ⟨hstatus, h.order, ⟨d, hd, ht⟩, hbudget⟩
  | failed =>
      rcases h.failed hstatus with ⟨havailable, hbudget⟩ | hended
      · obtain ⟨d, hd⟩ := Option.isSome_iff_exists.mp havailable
        refine .inr ⟨d, ?_, fun t ht => ?_⟩
        · rw [WebhookEvent.availableAt, if_neg (by rw [hstatus]; decide), hd]
        · exact hkinds t .failed ⟨hstatus, h.order, ⟨d, hd, ht⟩, hbudget⟩
      · exact .inl ⟨hstatus, hended⟩
  | processing =>
      obtain ⟨d, hd⟩ := Option.isSome_iff_exists.mp (h.processing hstatus)
      refine .inr ⟨d, by rw [WebhookEvent.availableAt, if_pos hstatus, hd], fun t ht => ?_⟩
      by_cases hbudget : s.event.executionAttemptCount < s.event.executionMaxAttempts
      · exact hkinds t .expiredProcessing ⟨hstatus, h.order, ⟨d, hd, ht⟩, hbudget⟩
      · exact hkinds t .exhaustedProcessing ⟨hstatus, h.order, ⟨d, hd, ht⟩, not_lt.mp hbudget⟩

/-- **Fenced orders/create execution is safe and loses nothing**, in every run: at most one attempt
commits the effects of the order, the attempts stay within the budget, an event that is not
processed has a recorded end or is discovered in one class once its time has come, and no step
changes an event that is processed, or one that another attempt has claimed. -/
theorem ordersCreateExecution_fenced (hbatch : 0 < batchSize) {w : World ExecutionStore Attempt}
    (hw : (ordersCreateExecution leaseMs batchSize).Reaches ExecutionStore.New (fun _ _ => True) w) :
    w.shared.committed.length ≤ 1 ∧
      w.shared.event.executionAttemptCount ≤ w.shared.event.executionMaxAttempts ∧
      (w.shared.event.status ≠ .processed → w.shared.Ended ∨
        ∃ d, w.shared.event.availableAt = some d ∧
          ∀ t, d ≤ t → ∃ kind, w.shared.event.discover batchSize t = [kind]) ∧
      (∀ i a context, w.process i = some a → a.context = some context →
        context.processingGeneration ≤ w.shared.event.processingGeneration) ∧
      ∀ m w', (ordersCreateExecution leaseMs batchSize).step m w = .ok w' →
        w.shared.event.processingGeneration ≤ w'.shared.event.processingGeneration ∧
        (w.shared.event.status = .processed → w'.shared.event = w.shared.event) ∧
        ∀ i answer a, m = .run i answer → w.process i = some a →
          (∀ context, a.context = some context →
            context.processingGeneration < w.shared.event.processingGeneration →
              w'.shared.event = w.shared.event) ∧
          (∀ a' context, a.context = none → w'.process i = some a' → a'.context = some context →
            w'.shared.event.processingGeneration = w.shared.event.processingGeneration + 1) := by
  have hsound := (ordersCreateExecution_sound leaseMs batchSize).holds hw
  refine ⟨?_, hsound.1.budget, hsound.1.discovered hbatch, fun i a context ha hcontext => ?_,
    fun m w' hs => ?_⟩
  · rcases hsound.1.committed with hnil | ⟨-, g, hone⟩
    · simp [hnil]
    · simp [hone]
  · exact hsound.1.claims _ i ((hsound.2 i a ha).context context hcontext)
  · have hevent : w.shared.event.processingGeneration ≤ w'.shared.event.processingGeneration ∧
        (w.shared.event.status = .processed → w'.shared.event = w.shared.event) := by
      rcases Program.step_shared hs with heq | ⟨i, answer, a, a', -, ha, hrun⟩ | ⟨tick, -, htick⟩
      · rw [heq]
        exact ⟨le_refl _, fun _ => rfl⟩
      · have hsteps := Attempt.run_steps hrun
        exact ⟨hsteps.generation, hsteps.final (hsound.2 i a ha)⟩
      · have htick : (if w.shared.clock ≤ tick.clock then
            some { w.shared with clock := tick.clock } else none) = some w'.shared := htick
        split at htick
        · rw [← Option.some.inj htick]
          exact ⟨le_refl _, fun _ => rfl⟩
        · cases htick
    refine ⟨hevent.1, hevent.2, ?_⟩
    rintro i answer a rfl ha
    obtain ⟨a₁, s', a', ha₁, hrun, rfl⟩ := Program.step_run_ok.mp hs
    obtain rfl := Option.some.inj (ha.symm.trans ha₁)
    have hsteps := Attempt.run_steps hrun
    refine ⟨fun context hcontext hstale => hsteps.stale (hsound.2 i a ha) hcontext hstale,
      fun b context hnone hb hcontext => ?_⟩
    rw [World.withProcess_same] at hb
    obtain rfl := Option.some.inj hb
    exact (hsteps.newClaim hnone hcontext).2

/-! ### A stalled attempt -/

/-- An attempt claims the event and stalls, a second takes over the expired lease and commits, and
the first one fails its verification. -/
def stalledAttempt : List (Move AttemptKind AttemptAnswer Tick) :=
  [.start 1 .executor, .run 1 (.statement 0), .run 1 (.statement 0), .run 1 .prepared,
    .run 1 .transaction, .outside ⟨100⟩, .start 2 .executor, .run 2 (.statement 100),
    .run 2 (.statement 100), .run 2 .prepared, .run 2 .transaction, .run 2 (.statement 100),
    .run 2 (.effects 7), .run 2 (.statement 100), .run 1 (.statement 100)]

/-- The witness: two claims, one commit. -/
theorem ordersCreateExecution_fenced_stalled : ∃ w : World ExecutionStore Attempt,
    w.shared.committed = [2] ∧ w.shared.claims = [(1, 1), (2, 2)] ∧
      w.shared.committed.length ≤ 1 := by
  have hrun : Succeeds (runActions (ordersCreateExecution 10 5).step stalledAttempt
      (World.init ⟨WebhookEvent.enrolled "900" 3 0, 0, none, [], [], none⟩))
      fun w => w.shared.committed = [2] ∧ w.shared.claims = [(1, 1), (2, 2)] := by
    decide +kernel
  obtain ⟨w, hw, hcommitted, hclaims⟩ := succeeds_iff.mp hrun
  have hreaches : (ordersCreateExecution 10 5).Reaches ExecutionStore.New (fun _ _ => True) w :=
    reachable_of_runActions (.start ⟨_, ⟨"900", 3, 0, by decide, rfl⟩, rfl⟩)
      (fun _ _ _ => trivial) hw
  exact ⟨w, hcommitted, hclaims, (ordersCreateExecution_fenced (by decide) hreaches).1⟩

end VendorDashboard.Shopify
