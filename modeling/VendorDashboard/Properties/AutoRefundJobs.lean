import VendorDashboard.Orders.AutoRefundExecutor
import Mathlib.Data.List.Nodup
import Mathlib.Data.Finset.Interval
import Mathlib.Order.Interval.Finset.Nat

/-!
# Automatic refund jobs are fenced

`Cycle.Writes` says once what a step of a cycle can do to the store.  From it follow the invariant
of the job (`AutoRefundStore.Sound`) and that of each cycle (`Cycle.Sound`): the generation counts
the claims, each claim belongs to the cycle that made it, and each generation starts `processItem`
at most once.

The limit of the attempts is enforced by `finish`.  An attempt that never finishes leaves the job
`PROCESSING`, and its takeover is a claim like any other; `CycleAdmits` excludes the takeovers that
exceed the limit.
-/

namespace VendorDashboard.Orders

open Finance (Id Instant)
open Interleaving Transaction Run

/-! ## The updates of the job -/

namespace OperationalJob

variable {job seen job' : OperationalJob} {o : JobOwnership} {leaseMs batchSize : ℕ} {now : Instant}

/-- A job that is in no final state. -/
def Open (job : OperationalJob) : Prop := job.status ≠ .completed ∧ job.status ≠ .failed

instance (job : OperationalJob) : Decidable job.Open := inferInstanceAs (Decidable (_ ∧ _))

lemma Open.of_status {status : OperationalJobStatus} (h : job.status = status)
    (hopen : status ≠ .completed ∧ status ≠ .failed) : job.Open := by
  rw [← h] at hopen
  exact hopen

lemma claim_eq_some : job.claim seen leaseMs now = some job' ↔
    (job.status = seen.status ∧ job.processingGeneration = seen.processingGeneration) ∧
      job' =
        { job with
          status := .processing
          processingGeneration := seen.processingGeneration + 1
          processingLeaseExpiresAt := some (now + leaseMs)
          startedAt := some now
          lastAttemptAt := some now
          retryCount := job.retryCount + 1
          errorSummary := none } := by
  unfold claim
  split
  · rename_i h
    rw [Option.some.injEq, and_iff_right h]
    exact eq_comm
  · rename_i h
    simp [h]

lemma mem_discover (h : seen ∈ job.discover batchSize now) : seen = job ∧ job.Due now := by
  have hmem := List.mem_of_mem_take h
  simp only [List.mem_filter, List.mem_singleton, decide_eq_true_eq] at hmem
  obtain ⟨rfl, hdue⟩ := hmem
  exact ⟨rfl, hdue⟩

lemma Due.open (h : job.Due now) : job.Open := by
  obtain ⟨-, ⟨h, -⟩ | ⟨h, -⟩ | ⟨h, -⟩⟩ := h
  all_goals exact .of_status h (by decide)

/-- A job that is due is discovered. -/
lemma discover_of_due (hbatch : 0 < batchSize) (h : job.Due now) :
    job.discover batchSize now = [job] := by
  simp only [discover, List.filter_singleton, decide_eq_true h, cond_true]
  exact List.take_of_length_le hbatch

/-- What an owner's update does: nothing, when the job is not the owner's any more. -/
structure OwnerUpdate (job : OperationalJob) (o : JobOwnership) (job' : OperationalJob) : Prop where
  item : job'.customerCancellationRequestItemId = job.customerCancellationRequestItemId
  retryCount : job'.retryCount = job.retryCount
  maxRetries : job'.maxRetries = job.maxRetries
  generation : job'.processingGeneration = job.processingGeneration
  cases : job' = job ∨ (job.OwnedBy o ∧ (¬job'.Open ∨
    (job'.status = .processing ∧ job'.processingLeaseExpiresAt.isSome) ∨
      (job'.status = .retryScheduled ∧ job'.nextRetryAt.isSome ∧ o.attempt < o.maxRetries)))

lemma finish_update (outcome : CustomerCancellationAutoRefundProcessResult)
    (error : Option String) (now : Instant) :
    job.OwnerUpdate o (job.finish o outcome error now) := by
  unfold finish
  split
  · rename_i howned
    split
    · exact ⟨rfl, rfl, rfl, rfl, .inr ⟨howned, .inl fun h => h.1 rfl⟩⟩
    · split
      · exact ⟨rfl, rfl, rfl, rfl, .inr ⟨howned, .inl fun h => h.2 rfl⟩⟩
      · rename_i hterminal
        rw [not_or, not_le] at hterminal
        exact ⟨rfl, rfl, rfl, rfl, .inr ⟨howned, .inr (.inr ⟨rfl, rfl, hterminal.2⟩)⟩⟩
  · exact ⟨rfl, rfl, rfl, rfl, .inl rfl⟩

lemma heartbeat_update (now : Instant) : job.OwnerUpdate o (job.heartbeat o leaseMs now) := by
  unfold heartbeat
  split
  · rename_i howned
    exact ⟨rfl, rfl, rfl, rfl, .inr ⟨howned, .inr (.inl ⟨howned.1, rfl⟩)⟩⟩
  · exact ⟨rfl, rfl, rfl, rfl, .inl rfl⟩

end OperationalJob

/-! ## The steps of a cycle -/

/-- The candidates that a cycle still holds. -/
def CyclePosition.candidates : CyclePosition → List OperationalJob
  | .next candidates | .claimed candidates | .processing candidates | .finish candidates _
  | .finishAfterThrow candidates _ => candidates
  | .discover | .ended => []

/-- The claim was made and `processItem` is still to be started. -/
def CyclePosition.IsClaimed : CyclePosition → Prop
  | .claimed _ => True
  | _ => False

/-- What a step of cycle `i` does. -/
inductive Cycle.Steps (leaseMs batchSize i : ℕ) (s : AutoRefundStore) (c : Cycle) :
    AutoRefundStore → Cycle → Prop
  | move {position : CyclePosition} (hcandidates : position.candidates ⊆ c.position.candidates)
      (hposition : ¬position.IsClaimed) : Cycle.Steps leaseMs batchSize i s c s (c.goTo position)
  | discover (now : Instant) :
      Cycle.Steps leaseMs batchSize i s c s (c.goTo (.next (s.job.discover batchSize now)))
  | claim {seen job : OperationalJob} {rest : List OperationalJob} {now : Instant}
      (hposition : c.position = .next (seen :: rest))
      (hclaim : s.job.claim seen leaseMs now = some job) :
      Cycle.Steps leaseMs batchSize i s c (s.claimBy i job)
        ⟨.claimed rest, some ⟨seen.processingGeneration + 1, seen.retryCount + 1,
          seen.maxRetries⟩⟩
  | claimLost {seen job : OperationalJob} {rest : List OperationalJob} {now : Instant}
      (hposition : c.position = .next (seen :: rest))
      (hclaim : s.job.claim seen leaseMs now = some job) :
      Cycle.Steps leaseMs batchSize i s c (s.claimBy i job) (c.goTo .ended)
  | update {o : JobOwnership} {job : OperationalJob} {position : CyclePosition}
      (ho : c.ownership = some o) (hjob : s.job.OwnerUpdate o job)
      (hcandidates : position.candidates ⊆ c.position.candidates)
      (hposition : position.IsClaimed → c.position.IsClaimed) :
      Cycle.Steps leaseMs batchSize i s c (s.withJob job) (c.goTo position)
  | start {o : JobOwnership} {rest : List OperationalJob} (hposition : c.position = .claimed rest)
      (ho : c.ownership = some o) :
      Cycle.Steps leaseMs batchSize i s c { s with starts := s.starts ++ [o.generation] }
        (c.goTo (.processing rest))

namespace Cycle

variable {leaseMs batchSize i : ℕ} {s s' : AutoRefundStore} {c c' : Cycle}

lemma claim_steps {seen : OperationalJob} {rest : List OperationalJob} {now : Instant}
    (hposition : c.position = .next (seen :: rest)) :
    Cycle.Steps leaseMs batchSize i s c (c.claim leaseMs i s seen rest now).1
        (c.claim leaseMs i s seen rest now).2 ∧
      Cycle.Steps leaseMs batchSize i s c (c.claim leaseMs i s seen rest now).1
        (c.goTo .ended) := by
  have hended : Cycle.Steps leaseMs batchSize i s c s (c.goTo .ended) :=
    .move (List.nil_subset _) id
  unfold claim
  split
  · exact ⟨hended, hended⟩
  · cases hclaim : s.job.claim seen leaseMs now with
    | none =>
        refine ⟨.move ?_ id, hended⟩
        rw [hposition]
        exact List.subset_cons_self _ _
    | some job => exact ⟨.claim hposition hclaim, .claimLost hposition hclaim⟩

lemma finishJob_steps (outcome : CustomerCancellationAutoRefundProcessResult)
    (error : Option String) (now : Instant) {position : CyclePosition}
    (hcandidates : position.candidates ⊆ c.position.candidates)
    (hposition : ¬position.IsClaimed) :
    Cycle.Steps leaseMs batchSize i s c (c.finishJob s outcome error now) (c.goTo position) := by
  unfold finishJob
  cases ho : c.ownership with
  | none => exact .move hcandidates hposition
  | some o =>
      exact .update ho (OperationalJob.finish_update outcome error now) hcandidates
        fun h => absurd h hposition

/-- **What a step of a cycle does** is one of the steps. -/
theorem run_steps {answer : CycleAnswer}
    (h : c.run leaseMs batchSize i answer s = some (s', c')) :
    Cycle.Steps leaseMs batchSize i s c s' c' := by
  have hmove : ∀ {p position : CyclePosition}, c.position = p →
      position.candidates ⊆ p.candidates → ¬position.IsClaimed →
        Cycle.Steps leaseMs batchSize i s c s (c.goTo position) := by
    rintro p position rfl hcandidates hposition
    exact .move hcandidates hposition
  have hfinish : ∀ {p position : CyclePosition}
      (outcome : CustomerCancellationAutoRefundProcessResult) (error : Option String)
      (now : Instant), c.position = p → position.candidates ⊆ p.candidates →
        ¬position.IsClaimed →
          Cycle.Steps leaseMs batchSize i s c (c.finishJob s outcome error now)
            (c.goTo position) := by
    rintro p position outcome error now rfl hcandidates hposition
    exact finishJob_steps outcome error now hcandidates hposition
  unfold run at h
  split at h
  all_goals
    simp only [Option.some.injEq, Prod.mk.injEq, Option.map_eq_some_iff, reduceCtorEq] at h
  case h_1 now =>
    obtain ⟨o, ho, rfl, rfl⟩ := h
    exact .update ho (OperationalJob.heartbeat_update now) (List.Subset.refl _) id
  case h_2 now hp =>
    obtain ⟨rfl, rfl⟩ := h
    exact .discover now
  case h_3 error hp =>
    obtain ⟨rfl, rfl⟩ := h
    exact hmove hp (List.nil_subset _) id
  case h_4 now error hp =>
    obtain ⟨rfl, rfl⟩ := h
    exact hmove hp (List.nil_subset _) id
  case h_5 hp =>
    obtain ⟨rfl, rfl⟩ := h
    exact hmove hp (List.nil_subset _) id
  case h_6 rest hp =>
    obtain ⟨rfl, rfl⟩ := h
    exact hmove hp (List.nil_subset _) id
  case h_7 now seen rest hp =>
    have hclaim := (@claim_steps leaseMs batchSize i s c seen rest now hp).1
    rw [h] at hclaim
    exact hclaim
  case h_8 error seen rest hp =>
    obtain ⟨rfl, rfl⟩ := h
    exact hmove hp (List.nil_subset _) id
  case h_9 now error seen rest hp =>
    obtain ⟨rfl, rfl⟩ := h
    exact (claim_steps hp).2
  case h_10 rest hp =>
    obtain ⟨o, ho, rfl, rfl⟩ := h
    exact .start hp ho
  case h_11 outcome rest hp =>
    obtain ⟨rfl, rfl⟩ := h
    exact hmove hp (List.Subset.refl _) id
  case h_12 error rest hp =>
    obtain ⟨rfl, rfl⟩ := h
    exact hmove hp (List.Subset.refl _) id
  case h_13 now rest outcome hp =>
    obtain ⟨rfl, rfl⟩ := h
    exact hfinish outcome none now hp (List.Subset.refl _) id
  case h_14 error rest outcome hp =>
    obtain ⟨rfl, rfl⟩ := h
    exact hmove hp (List.Subset.refl _) id
  case h_15 now error rest outcome hp =>
    obtain ⟨rfl, rfl⟩ := h
    exact hfinish outcome none now hp (List.Subset.refl _) id
  case h_16 now rest error hp =>
    obtain ⟨rfl, rfl⟩ := h
    exact hfinish .retryable (some error) now hp (List.Subset.refl _) id
  case h_17 error rest _ hp =>
    obtain ⟨rfl, rfl⟩ := h
    exact hmove hp (List.nil_subset _) id
  case h_18 now _ rest error hp =>
    obtain ⟨rfl, rfl⟩ := h
    exact hfinish .retryable (some error) now hp (List.nil_subset _) id

end Cycle

/-! ## The invariants -/

structure AutoRefundStore.Sound (s : AutoRefundStore) : Prop where
  item : s.job.customerCancellationRequestItemId.isSome
  retryCount : s.job.retryCount = s.job.processingGeneration
  claimants : s.claimants.length = s.job.processingGeneration
  positive : 0 < s.job.maxRetries
  bounded : s.job.retryCount ≤ s.job.maxRetries
  statuses : s.job.status = .pending ∨ s.job.status = .processing ∨
    s.job.status = .retryScheduled ∨ ¬s.job.Open
  pending : s.job.status = .pending → s.job.retryCount = 0
  processing : s.job.status = .processing → s.job.processingLeaseExpiresAt.isSome
  retryScheduled : s.job.status = .retryScheduled →
    s.job.nextRetryAt.isSome ∧ s.job.retryCount < s.job.maxRetries
  starts_nodup : s.starts.Nodup
  starts_le : ∀ g ∈ s.starts, 0 < g ∧ g ≤ s.job.processingGeneration

/-- The claim was made by cycle `i`. -/
structure JobOwnership.Belongs (o : JobOwnership) (i : ℕ) (s : AutoRefundStore) : Prop where
  positive : 0 < o.generation
  le : o.generation ≤ s.job.processingGeneration
  attempt : o.attempt = o.generation
  maxRetries : o.maxRetries = s.job.maxRetries
  claimant : s.claimants[o.generation - 1]? = some i

/-- The job was once discovered as `seen`. -/
structure OperationalJob.Candidate (seen : OperationalJob) (s : AutoRefundStore) : Prop where
  isOpen : seen.Open
  retryCount : seen.retryCount = seen.processingGeneration
  maxRetries : seen.maxRetries = s.job.maxRetries

structure Cycle.Sound (i : ℕ) (s : AutoRefundStore) (c : Cycle) : Prop where
  ownership : ∀ o, c.ownership = some o → o.Belongs i s
  candidates : ∀ seen ∈ c.position.candidates, seen.Candidate s
  claimed : c.position.IsClaimed → ∀ o, c.ownership = some o → o.generation ∉ s.starts

/-- A claim of `seen` takes over an attempt whose lease expired. -/
def OperationalJob.TakenOver (job seen : OperationalJob) : Prop :=
  job.status = .processing ∧ seen.status = .processing ∧
    job.processingGeneration = seen.processingGeneration

instance (job seen : OperationalJob) : Decidable (job.TakenOver seen) :=
  inferInstanceAs (Decidable (_ ∧ _))

/-- The job that a cycle is about to claim. -/
def Cycle.candidate (c : Cycle) : Option OperationalJob :=
  match c.position with
  | .next (seen :: _) => some seen
  | _ => none

/-- No claim takes over an attempt that was the last one. -/
def CycleAdmits (w : Interleaving.World AutoRefundStore Cycle) : Move Unit CycleAnswer Empty → Prop
  | .run i _ => ∀ c ∈ w.process i, ∀ seen ∈ c.candidate, w.shared.job.TakenOver seen →
      w.shared.job.retryCount < w.shared.job.maxRetries
  | _ => True

instance (w : Interleaving.World AutoRefundStore Cycle) (m : Move Unit CycleAnswer Empty) :
    Decidable (CycleAdmits w m) :=
  match m with
  | .run i _ => inferInstanceAs (Decidable (∀ c ∈ w.process i, ∀ seen ∈ c.candidate,
      w.shared.job.TakenOver seen → w.shared.job.retryCount < w.shared.job.maxRetries))
  | .start _ _ => isTrue trivial
  | .outside _ => isTrue trivial

/-- The store has kept its claims and may have got new ones. -/
structure AutoRefundStore.Extends (s s' : AutoRefundStore) : Prop where
  maxRetries : s'.job.maxRetries = s.job.maxRetries
  generation : s.job.processingGeneration ≤ s'.job.processingGeneration
  claimants : s.claimants <+: s'.claimants

lemma JobOwnership.Belongs.mono {o : JobOwnership} {i : ℕ} {s s' : AutoRefundStore}
    (h : o.Belongs i s) (hs : s.Extends s') : o.Belongs i s' where
  positive := h.positive
  le := h.le.trans hs.generation
  attempt := h.attempt
  maxRetries := h.maxRetries.trans hs.maxRetries.symm
  claimant := by
    obtain ⟨new, hnew⟩ := hs.claimants
    obtain ⟨hlt, -⟩ := List.getElem?_eq_some_iff.mp h.claimant
    rw [← hnew, List.getElem?_append_left hlt]
    exact h.claimant

lemma OperationalJob.Candidate.mono {seen : OperationalJob} {s s' : AutoRefundStore}
    (h : seen.Candidate s) (hs : s.Extends s') : seen.Candidate s' :=
  ⟨h.isOpen, h.retryCount, h.maxRetries.trans hs.maxRetries.symm⟩

namespace Cycle

variable {leaseMs batchSize i : ℕ} {s s' : AutoRefundStore} {c c' : Cycle}

lemma Steps.extends (h : Cycle.Steps leaseMs batchSize i s c s' c') : s.Extends s' := by
  cases h with
  | move | discover | start => exact ⟨rfl, le_refl _, List.prefix_refl _⟩
  | claim _ hclaim | claimLost _ hclaim =>
      obtain ⟨⟨-, hgeneration⟩, rfl⟩ := OperationalJob.claim_eq_some.mp hclaim
      refine ⟨rfl, ?_, List.prefix_append _ _⟩
      show s.job.processingGeneration ≤ _ + 1
      omega
  | update _ hjob => exact ⟨hjob.maxRetries, hjob.generation.ge, List.prefix_refl _⟩

/-- The store stays sound. -/
lemma Steps.store (hs : s.Sound) (hc : c.Sound i s)
    (hadmits : ∀ seen ∈ c.candidate, s.job.TakenOver seen → s.job.retryCount < s.job.maxRetries)
    (h : Cycle.Steps leaseMs batchSize i s c s' c') : s'.Sound := by
  have hclaim : ∀ {seen job : OperationalJob} {rest : List OperationalJob} {now : Instant},
      c.position = .next (seen :: rest) → s.job.claim seen leaseMs now = some job →
        (s.claimBy i job).Sound := by
    intro seen job rest now hposition hclaim
    obtain ⟨⟨hstatus, hgeneration⟩, rfl⟩ := OperationalJob.claim_eq_some.mp hclaim
    have hseen : seen.Candidate s := by
      refine hc.candidates seen ?_
      rw [hposition]
      exact List.mem_cons_self
    have hleft : s.job.retryCount < s.job.maxRetries := by
      rcases hs.statuses with hjob | hjob | hjob | hjob
      · rw [hs.pending hjob]
        exact hs.positive
      · have htaken : s.job.TakenOver seen := ⟨hjob, hstatus ▸ hjob, hgeneration⟩
        refine hadmits seen ?_ htaken
        unfold candidate
        rw [hposition]
        rfl
      · exact (hs.retryScheduled hjob).2
      · exact absurd (.of_status hstatus hseen.isOpen) hjob
    have hcount := hs.retryCount
    have hle := hs.starts_le
    exact
      { item := hs.item
        retryCount := by show s.job.retryCount + 1 = seen.processingGeneration + 1; omega
        claimants := by
          show (s.claimants ++ [i]).length = seen.processingGeneration + 1
          rw [List.length_append, hs.claimants, hgeneration, List.length_singleton]
        positive := hs.positive
        bounded := hleft
        statuses := .inr (.inl rfl)
        pending := fun h => by cases h
        processing := fun _ => rfl
        retryScheduled := fun h => by cases h
        starts_nodup := hs.starts_nodup
        starts_le := fun g hg => ⟨(hle g hg).1, by
          have := (hle g hg).2
          show g ≤ seen.processingGeneration + 1
          omega⟩ }
  cases h with
  | move | discover => exact hs
  | claim hposition hjob | claimLost hposition hjob => exact hclaim hposition hjob
  | @update o job position ho hjob =>
      have hbelongs := hc.ownership o ho
      rcases hjob.cases with rfl | ⟨howned, hcases⟩
      · exact hs
      · have hcount := hs.retryCount
        have hjobCount := hjob.retryCount
        have hjobMax := hjob.maxRetries
        have hjobGeneration := hjob.generation
        have hattempt := hbelongs.attempt
        have hmax := hbelongs.maxRetries
        have hgeneration : s.job.processingGeneration = o.generation := howned.2
        have hstatuses : job.status = .pending ∨ job.status = .processing ∨
            job.status = .retryScheduled ∨ ¬job.Open := by
          rcases hcases with h | ⟨h, -⟩ | ⟨h, -⟩
          · exact .inr (.inr (.inr h))
          · exact .inr (.inl h)
          · exact .inr (.inr (.inl h))
        exact
          { item := by rw [AutoRefundStore.withJob, hjob.item]; exact hs.item
            retryCount := by show job.retryCount = job.processingGeneration; omega
            claimants := by
              show s.claimants.length = job.processingGeneration
              rw [hs.claimants, hjobGeneration]
            positive := by show 0 < job.maxRetries; rw [hjobMax]; exact hs.positive
            bounded := by
              show job.retryCount ≤ job.maxRetries
              rw [hjobCount, hjobMax]
              exact hs.bounded
            statuses := hstatuses
            pending := fun h => by
              have h : job.status = .pending := h
              rcases hcases with hopen | ⟨hstatus, -⟩ | ⟨hstatus, -⟩
              · exact absurd (.of_status h (by decide)) hopen
              · rw [h] at hstatus; cases hstatus
              · rw [h] at hstatus; cases hstatus
            processing := fun h => by
              have h : job.status = .processing := h
              rcases hcases with hopen | ⟨-, hlease⟩ | ⟨hstatus, -⟩
              · exact absurd (.of_status h (by decide)) hopen
              · exact hlease
              · rw [h] at hstatus; cases hstatus
            retryScheduled := fun h => by
              have h : job.status = .retryScheduled := h
              rcases hcases with hopen | ⟨hstatus, -⟩ | ⟨-, hretry, hleft⟩
              · exact absurd (.of_status h (by decide)) hopen
              · rw [h] at hstatus; cases hstatus
              · refine ⟨hretry, ?_⟩
                show job.retryCount < job.maxRetries
                omega
            starts_nodup := hs.starts_nodup
            starts_le := fun g hg => by
              have := hs.starts_le g hg
              refine ⟨this.1, ?_⟩
              show g ≤ job.processingGeneration
              omega }
  | @start o rest hposition ho =>
      have hbelongs := hc.ownership o ho
      have hnew : o.generation ∉ s.starts := by
        refine hc.claimed ?_ o ho
        rw [hposition]
        trivial
      refine { hs with starts_nodup := ?_, starts_le := ?_ }
      · rw [List.nodup_append]
        refine ⟨hs.starts_nodup, List.nodup_singleton _, ?_⟩
        intro a ha b hb hab
        obtain rfl := List.mem_singleton.mp hb
        exact hnew (hab ▸ ha)
      · intro g hg
        rcases List.mem_append.mp hg with hg | hg
        · exact hs.starts_le g hg
        · obtain rfl := List.mem_singleton.mp hg
          exact ⟨hbelongs.positive, hbelongs.le⟩

/-- The cycle that takes the step stays sound. -/
lemma Steps.self (hs : s.Sound) (hc : c.Sound i s)
    (h : Cycle.Steps leaseMs batchSize i s c s' c') : c'.Sound i s' := by
  have hextends := h.extends
  have hownership : ∀ o, c.ownership = some o → o.Belongs i s' :=
    fun o ho => (hc.ownership o ho).mono hextends
  have hcandidates : ∀ seen ∈ c.position.candidates, seen.Candidate s' :=
    fun seen hseen => (hc.candidates seen hseen).mono hextends
  cases h with
  | move hsub hposition =>
      exact ⟨hownership, fun seen hseen => hcandidates seen (hsub hseen),
        fun hclaimed => absurd hclaimed hposition⟩
  | discover now =>
      refine ⟨hownership, fun seen hseen => ?_, fun hclaimed => hclaimed.elim⟩
      obtain ⟨rfl, hdue⟩ := OperationalJob.mem_discover hseen
      exact ⟨hdue.open, hs.retryCount, rfl⟩
  | @claim seen job rest now hposition hclaim =>
      obtain ⟨⟨-, hgeneration⟩, rfl⟩ := OperationalJob.claim_eq_some.mp hclaim
      rw [hposition] at hcandidates
      have hseen := hcandidates seen List.mem_cons_self
      have hlength := hs.claimants
      refine ⟨fun o ho => ?_, fun x hx => hcandidates x (List.mem_cons_of_mem _ hx),
        fun _ o ho => ?_⟩
      · obtain rfl := Option.some.inj ho
        exact
          { positive := Nat.succ_pos _
            le := le_refl _
            attempt := congrArg Nat.succ hseen.retryCount
            maxRetries := hseen.maxRetries
            claimant := by
              show (s.claimants ++ [i])[seen.processingGeneration + 1 - 1]? = some i
              rw [Nat.add_sub_cancel, ← hgeneration, ← hlength, List.getElem?_concat_length] }
      · obtain rfl := Option.some.inj ho
        intro hmem
        have hle := (hs.starts_le _ hmem).2
        have : seen.processingGeneration + 1 ≤ s.job.processingGeneration := hle
        omega
  | claimLost hposition hclaim =>
      exact ⟨hownership, fun seen hseen => (List.not_mem_nil hseen).elim,
        fun hclaimed => hclaimed.elim⟩
  | update ho hjob hsub hposition =>
      exact ⟨hownership, fun seen hseen => hcandidates seen (hsub hseen),
        fun hclaimed => hc.claimed (hposition hclaimed)⟩
  | start hposition ho =>
      rw [hposition] at hcandidates
      exact ⟨hownership, hcandidates, fun hclaimed => hclaimed.elim⟩

/-- Another cycle stays sound: a claim belongs to one cycle. -/
lemma Steps.other {j : ℕ} {d : Cycle} (hc : c.Sound i s) (hd : d.Sound j s) (hij : j ≠ i)
    (h : Cycle.Steps leaseMs batchSize i s c s' c') : d.Sound j s' := by
  have hextends := h.extends
  refine ⟨fun o ho => (hd.ownership o ho).mono hextends,
    fun seen hseen => (hd.candidates seen hseen).mono hextends, fun hclaimed o ho => ?_⟩
  have hnew := hd.claimed hclaimed o ho
  cases h with
  | move | discover | claim | claimLost | update => exact hnew
  | @start o' rest hposition ho' =>
      rw [List.mem_append, not_or, List.mem_singleton]
      refine ⟨hnew, fun heq => hij ?_⟩
      have hi := (hc.ownership o' ho').claimant
      have hj := (hd.ownership o ho).claimant
      rw [heq, hi] at hj
      exact (Option.some.inj hj).symm

/-- The step is a heartbeat or belongs to a `finish`. -/
def IsOwnerWrite (c : Cycle) (answer : CycleAnswer) : Prop :=
  match answer, c.position with
  | .heartbeat _, _ | _, .finish _ _ | _, .finishAfterThrow _ _ => True
  | _, _ => False

/-- **Fencing.**  A heartbeat or a `finish` for an older claim changes nothing. -/
theorem run_stale {o : JobOwnership} {answer : CycleAnswer} (ho : c.ownership = some o)
    (hwrite : c.IsOwnerWrite answer) (hstale : o.generation ≠ s.job.processingGeneration)
    (h : c.run leaseMs batchSize i answer s = some (s', c')) : s'.job = s.job := by
  have howned : ¬s.job.OwnedBy o := fun howned => hstale howned.2.symm
  have hfinish : ∀ outcome error now, (c.finishJob s outcome error now).job = s.job := by
    intro outcome error now
    unfold finishJob
    rw [ho]
    exact if_neg howned
  unfold run at h
  split at h
  all_goals
    simp only [Option.some.injEq, Prod.mk.injEq, Option.map_eq_some_iff, reduceCtorEq] at h
  case h_1 now =>
    obtain ⟨o', ho', rfl, -⟩ := h
    obtain rfl := Option.some.inj (ho.symm.trans ho')
    exact if_neg howned
  case h_7 now seen rest hp =>
    unfold IsOwnerWrite at hwrite
    rw [hp] at hwrite
    exact hwrite.elim
  case h_9 now error seen rest hp =>
    unfold IsOwnerWrite at hwrite
    rw [hp] at hwrite
    exact hwrite.elim
  case h_10 rest hp =>
    obtain ⟨o', -, rfl, -⟩ := h
    rfl
  case h_13 | h_15 | h_16 | h_18 =>
    rw [← h.1]
    exact hfinish _ _ _
  all_goals rw [← h.1]

/-- A final job is never changed again. -/
theorem Steps.final (hc : c.Sound i s) (hfinal : ¬s.job.Open)
    (h : Cycle.Steps leaseMs batchSize i s c s' c') : s'.job = s.job := by
  cases h with
  | move | discover | start => rfl
  | @claim seen job rest now hposition hclaim | @claimLost seen job rest now hposition hclaim =>
      obtain ⟨⟨hstatus, -⟩, -⟩ := OperationalJob.claim_eq_some.mp hclaim
      have hseen : seen.Candidate s := by
        refine hc.candidates seen ?_
        rw [hposition]
        exact List.mem_cons_self
      exact absurd (.of_status hstatus hseen.isOpen) hfinal
  | update ho hjob =>
      rcases hjob.cases with rfl | ⟨howned, -⟩
      · rfl
      · exact absurd (.of_status howned.1 (by decide)) hfinal

end Cycle

/-! ## Every run -/

lemma AutoRefundStore.New.sound {s : AutoRefundStore} (h : s.New) : s.Sound := by
  obtain ⟨itemId, maxRetries, scheduledAt, hpositive, rfl⟩ := h
  exact
    { item := rfl
      retryCount := rfl
      claimants := rfl
      positive := hpositive
      bounded := Nat.zero_le _
      statuses := .inl rfl
      pending := fun _ => rfl
      processing := fun h => by cases h
      retryScheduled := fun h => by cases h
      starts_nodup := List.nodup_nil
      starts_le := fun g hg => by cases hg }

theorem autoRefundExecutor_sound (leaseMs batchSize : ℕ) :
    Program.Sound (autoRefundExecutor leaseMs batchSize) AutoRefundStore.New CycleAdmits
      AutoRefundStore.Sound Cycle.Sound where
  init := fun s hs => hs.sound
  start := fun i s _ hs =>
    { ownership := fun o ho => by cases ho
      candidates := fun seen hseen => (List.not_mem_nil hseen).elim
      claimed := fun h => h.elim }
  run := by
    intro w i answer c s c' hw hc hadmits hrun
    have hstep := Cycle.run_steps hrun
    have hsound := hw.2 i c hc
    exact ⟨hstep.store hw.1 hsound (hadmits c hc), hstep.self hw.1 hsound⟩
  interference := by
    intro w i answer c s c' hw hc _ hrun j d hij hd
    exact (Cycle.run_steps hrun).other (hw.2 i c hc) (hw.2 j d hd) hij
  outside := fun _ e _ _ _ _ => e.elim

/-- When the job is to be taken up again: its scheduled time, its retry time or the end of its
lease. -/
def OperationalJob.availableAt (job : OperationalJob) : Option Instant :=
  match job.status with
  | .pending => some job.scheduledAt
  | .retryScheduled => job.nextRetryAt
  | .processing => job.processingLeaseExpiresAt
  | _ => none

/-- A sound job that is not final is discovered once its time has passed. -/
theorem AutoRefundStore.Sound.discovered {s : AutoRefundStore} {batchSize : ℕ} (h : s.Sound)
    (hbatch : 0 < batchSize) (hopen : s.job.Open) : ∃ t, s.job.availableAt = some t ∧
      ∀ now, t < now → s.job.discover batchSize now = [s.job] := by
  have hdue : ∃ t, s.job.availableAt = some t ∧ ∀ now, t < now → s.job.Due now := by
    unfold OperationalJob.availableAt
    rcases h.statuses with hstatus | hstatus | hstatus | hstatus
    · rw [hstatus]
      exact ⟨_, rfl, fun now hnow => ⟨h.item, .inl ⟨hstatus, hnow.le⟩⟩⟩
    · rw [hstatus]
      obtain ⟨t, ht⟩ := Option.isSome_iff_exists.mp (h.processing hstatus)
      exact ⟨t, ht, fun now hnow => ⟨h.item, .inr (.inr ⟨hstatus, t, ht, hnow⟩)⟩⟩
    · rw [hstatus]
      obtain ⟨t, ht⟩ := Option.isSome_iff_exists.mp (h.retryScheduled hstatus).1
      exact ⟨t, ht, fun now hnow => ⟨h.item, .inr (.inl ⟨hstatus, t, ht, hnow.le⟩)⟩⟩
    · exact absurd hopen hstatus
  obtain ⟨t, ht, hdue⟩ := hdue
  exact ⟨t, ht, fun now hnow => OperationalJob.discover_of_due hbatch (hdue now hnow)⟩

/-- Each generation starts `processItem` at most once, so the starts are bounded. -/
lemma AutoRefundStore.Sound.starts_length {s : AutoRefundStore} (h : s.Sound) :
    s.starts.length ≤ s.job.maxRetries := by
  have hsub : s.starts ⊆ List.range' 1 s.job.processingGeneration := by
    intro g hg
    rw [List.mem_range'_1]
    have := h.starts_le g hg
    omega
  have hlength := (h.starts_nodup.subperm hsub).length_le
  rw [List.length_range', ← h.retryCount] at hlength
  exact hlength.trans h.bounded

/-- **Automatic refund jobs are bounded and fenced** in every run that takes over no last
attempt. -/
theorem autoRefundJobs_bounded_fenced {leaseMs batchSize : ℕ} (hbatch : 0 < batchSize)
    {w : Interleaving.World AutoRefundStore Cycle}
    (hw : (autoRefundExecutor leaseMs batchSize).Reaches AutoRefundStore.New CycleAdmits w) :
    w.shared.starts.length ≤ w.shared.job.maxRetries ∧
      (∀ m w', (autoRefundExecutor leaseMs batchSize).step m w = .ok w' →
        (¬w.shared.job.Open → w'.shared.job = w.shared.job) ∧
          ∀ i answer c o, m = .run i answer → w.process i = some c → c.ownership = some o →
            c.IsOwnerWrite answer → o.generation < w.shared.job.processingGeneration →
              w'.shared.job = w.shared.job) ∧
      (w.shared.job.Open → ∃ t, w.shared.job.availableAt = some t ∧
        ∀ now, t < now → w.shared.job.discover batchSize now = [w.shared.job]) := by
  have hsound := (autoRefundExecutor_sound leaseMs batchSize).holds hw
  refine ⟨hsound.1.starts_length, fun m w' hs => ⟨fun hfinal => ?_, ?_⟩,
    hsound.1.discovered hbatch⟩
  · rcases Program.step_shared hs with heq | ⟨i, answer, c, c', -, hc, hrun⟩ | ⟨e, -⟩
    · rw [heq]
    · exact (Cycle.run_steps hrun).final (hsound.2 i c hc) hfinal
    · exact e.elim
  · rintro i answer c o rfl hc ho hwrite hstale
    obtain ⟨c₁, s', c', hc₁, hrun, rfl⟩ := Program.step_run_ok.mp hs
    obtain rfl := Option.some.inj (hc.symm.trans hc₁)
    exact Cycle.run_stale ho hwrite hstale.ne hrun

/-! ### Attempts that never finish -/

/-- A cycle discovers and claims the job, starts `processItem` and crashes. -/
def crashingCycle (i : ℕ) : List (Move Unit CycleAnswer Empty) :=
  [.start i (), .run i (.statement (100 * i)), .run i (.statement (100 * i)), .run i .proceed]

/-- The job as the code creates it, at time 0. -/
def autoRefundSampleStore : AutoRefundStore := ⟨OperationalJob.created 1 8 0, [], []⟩

/-- A second cycle takes over the job of the first, whose `processItem` throws afterwards: its
`finish` changes nothing. -/
theorem autoRefundJobs_bounded_fenced_two : ∃ w w' : Interleaving.World AutoRefundStore Cycle,
    w.shared.starts = [1, 2] ∧ w.shared.starts.length ≤ w.shared.job.maxRetries ∧
      (autoRefundExecutor 10 5).step (.run 1 (.statement 205)) w = .ok w' ∧
        w'.shared.job = w.shared.job := by
  have hrun : Succeeds (runActions (guarded CycleAdmits () (autoRefundExecutor 10 5).step)
      (crashingCycle 1 ++ crashingCycle 2 ++ [.run 1 (.threw "timeout")])
        (Interleaving.World.init autoRefundSampleStore)) fun w => w.shared.starts = [1, 2] ∧
        Succeeds ((autoRefundExecutor 10 5).step (.run 1 (.statement 205)) w) (fun _ => True) ∧
          ∃ c ∈ w.process 1, c.position = .finishAfterThrow [] "timeout" ∧
            ∃ o ∈ c.ownership, o.generation < w.shared.job.processingGeneration := by
    decide +kernel
  obtain ⟨w, hw, hstarts, hstep, c, hc, hposition, o, ho, hstale⟩ := succeeds_iff.mp hrun
  obtain ⟨w', hw', -⟩ := succeeds_iff.mp hstep
  have hreaches : (autoRefundExecutor 10 5).Reaches AutoRefundStore.New CycleAdmits w :=
    reachable_of_runGuarded (.start ⟨_, ⟨1, 8, 0, by decide, rfl⟩, rfl⟩) hw
  obtain ⟨hbound, hfenced, -⟩ := autoRefundJobs_bounded_fenced (by decide) hreaches
  refine ⟨w, w', hstarts, hbound, hw', (hfenced _ _ hw').2 1 _ c o rfl hc ho ?_ hstale⟩
  unfold Cycle.IsOwnerWrite
  rw [hposition]
  trivial

/-- Nine attempts, none of which finishes, start `processItem` nine times. -/
theorem autoRefundJobs_bounded_fenced_fails : ∃ w : Interleaving.World AutoRefundStore Cycle,
    (autoRefundExecutor 10 5).Reaches AutoRefundStore.New (fun _ _ => True) w ∧
      w.shared.job.maxRetries < w.shared.starts.length := by
  have hrun : Succeeds (runActions (autoRefundExecutor 10 5).step
      ((List.range' 1 9).flatMap crashingCycle) (Interleaving.World.init autoRefundSampleStore))
      fun w => w.shared.job.maxRetries < w.shared.starts.length := by
    decide +kernel
  obtain ⟨w, hw, hstarts⟩ := succeeds_iff.mp hrun
  refine ⟨w, ?_, hstarts⟩
  exact reachable_of_runActions (.start ⟨_, ⟨1, 8, 0, by decide, rfl⟩, rfl⟩)
    (fun _ _ _ => trivial) hw

end VendorDashboard.Orders
