import VendorDashboard.Properties.ReplacementApproval

/-!
# The records of the automatic approval

`ApprovalDb.Moves` says once what a transaction can do to the tables of the approval workflow.
From it follows the invariant of the tables (`ApprovalDb.Consistent`): a settlement's link to an
attempt, the attempt's outcome and the approval log tell the same story.  `ApprovalDb.Grows` is what
no transaction takes back: a final attempt, an entry of the log, the adjustments and the evidence of
refunds.  `ApprovalDb.ReachableDb.approved_once` is the result for every run.
-/

namespace VendorDashboard.Finance

open Table Transaction Run

namespace ApprovalDb

/-- What a transaction does. -/
inductive Moves (d : ApprovalDb) : ApprovalDb → Prop
  | nothing : Moves d d
  | finance {a : Action} {finance : FinanceDb} (ha : a.keepsApprovals = true)
      (hs : Finance.step a d.finance = .ok finance) : Moves d { d with finance }
  | draft {input : SettlementApprovalInput} {ids : DraftIds} {now : Instant} {finance : FinanceDb}
      {columns : ApprovalColumns}
      (hlink : columns.successfulAutoApprovalAttemptId = none)
      (hs : d.finance.createDraftApprovalInTransaction input ids now = .ok finance) :
      Moves d
        { d with
          finance
          approvalColumns := Function.update d.approvalColumns ids.approvalId columns }
  | approve {id firstAdjustmentId : Id} {approvedBy : Option String} {now : Instant}
      {finance : FinanceDb}
      (hs : d.finance.executeCanonicalSettlementApproval id firstAdjustmentId now = .ok finance) :
      Moves d
        { d.withColumns id fun c => { c with approvedBy } with
          finance
          approvalLog := d.approvalLog ++ [(id, none)] }
  | cancel {id : Id} {finance : FinanceDb}
      (hs : d.finance.cancelSettlementApproval id = .ok finance) : Moves d { d with finance }
  | createAttempt {attempt : SettlementAutoApprovalAttempt}
      {events : List SettlementAutoApprovalAttemptEvent} (hstarted : attempt.outcome = .started)
      (hkey : KeyUnique SettlementAutoApprovalAttempt.id
        (d.settlementAutoApprovalAttempt ++ [attempt])) :
      Moves d
        { d with
          settlementAutoApprovalAttempt := d.settlementAutoApprovalAttempt ++ [attempt]
          settlementAutoApprovalAttemptEvent := events }
  | systemApprove {identity : AttemptIdentity} {firstAdjustmentId : Id} {now : Instant}
      {finance : FinanceDb} {attempt : SettlementAutoApprovalAttempt}
      {events : List SettlementAutoApprovalAttemptEvent} {reasonCode : Option String}
      (hattempt : d.findAttempt identity.attemptId = some attempt)
      (hsettlement : attempt.settlementApprovalId = identity.settlementApprovalId)
      (hstarted : attempt.outcome = .started)
      (hs : d.finance.executeCanonicalSettlementApproval identity.settlementApprovalId
        firstAdjustmentId now = .ok finance) :
      Moves d
        { withOutcome { d.withColumns identity.settlementApprovalId fun c =>
            { c with
              approvedBy := some ACTOR
              successfulAutoApprovalAttemptId := some identity.attemptId } with
            finance
            approvalLog :=
              d.approvalLog ++ [(identity.settlementApprovalId, some identity.attemptId)] }
            identity.attemptId .approved reasonCode with
          settlementAutoApprovalAttemptEvent := events }
  | outcome {attempt : SettlementAutoApprovalAttempt}
      {outcome : SettlementAutoApprovalAttemptOutcome} {reasonCode : Option String}
      {events : List SettlementAutoApprovalAttemptEvent} {attemptId : AttemptId}
      (hattempt : d.findAttempt attemptId = some attempt) (hopen : ¬attempt.outcome.Terminal)
      (hne : outcome ≠ .approved) :
      Moves d { d.withOutcome attemptId outcome reasonCode with
        settlementAutoApprovalAttemptEvent := events }
  | event {events : List SettlementAutoApprovalAttemptEvent} :
      Moves d { d with settlementAutoApprovalAttemptEvent := events }

lemma mapError_eq_ok {ε ε' α : Type} {f : ε → ε'} {x : Except ε α} {a : α} :
    x.mapError f = .ok a ↔ x = .ok a := by
  cases x <;> simp [Except.mapError]

variable {d d' : ApprovalDb}

lemma createDraft_moves {input : SettlementApprovalInput}
    {origin : Option SettlementDraftCreationOrigin} {request : Option ReplacementRequest}
    {ids : DraftIds} {now : Instant} (hs : d.createDraft input origin request ids now = .ok d') :
    d.Moves d' := by
  simp only [createDraft, bind_eq_ok, pure_eq_ok] at hs
  obtain ⟨finance, hfinance, rfl⟩ := hs
  exact .draft rfl hfinance

lemma createControlledSettlementReplacementDraft_moves {input : ReplacementRequest}
    {assessment : SettlementReplacementAssessment} {ids : DraftIds} {now : Instant}
    (hs : d.createControlledSettlementReplacementDraft input assessment ids now = .ok d') :
    d.Moves d' := by
  simp only [createControlledSettlementReplacementDraft, bind_eq_ok, require_eq_ok] at hs
  obtain ⟨-, -, hs⟩ := hs
  split at hs
  · simp only [bind_eq_ok, require_eq_ok, pure_eq_ok] at hs
    obtain ⟨-, -, rfl⟩ := hs
    exact .nothing
  · simp only [bind_eq_ok, require_eq_ok, getOrThrow_eq_ok] at hs
    obtain ⟨-, -, -, -, cutoff, -, hs⟩ := hs
    exact createDraft_moves hs

lemma appendOutcome_moves {identity : AttemptIdentity}
    {outcome : SettlementAutoApprovalAttemptOutcome} {reasonCode : String}
    (hs : d.appendOutcome identity outcome reasonCode = .ok d') : d.Moves d' := by
  simp only [appendOutcome, loadAttempt, bind_eq_ok, getOrThrow_eq_ok, require_eq_ok,
    pure_eq_ok] at hs
  obtain ⟨_, ⟨attempt, hattempt, -, -, rfl⟩, hs⟩ := hs
  split at hs
  · obtain rfl := pure_eq_ok.mp hs
    exact .nothing
  · simp only [bind_eq_ok, require_eq_ok, pure_eq_ok] at hs
    obtain ⟨-, ⟨hopen, hne⟩, rfl⟩ := hs
    exact .outcome hattempt hopen hne

lemma approveAsTrustedSystem_moves {identity : AttemptIdentity} {firstAdjustmentId : Id}
    {now : Instant}
    (hs : d.approveSettlementApprovalAsTrustedSystem identity firstAdjustmentId now = .ok d') :
    d.Moves d' := by
  unfold approveSettlementApprovalAsTrustedSystem at hs
  split at hs
  · cases hs
  · rename_i hauthority
    simp only [assertSystemAuthority, bind_eq_ok, getOrThrow_eq_ok, require_eq_ok] at hauthority
    obtain ⟨existing, -, -, -, -, hattempt, -⟩ := hauthority
    simp only [Option.any_eq_true, Bool.and_eq_true, decide_eq_true_eq] at hattempt
    obtain ⟨attempt, hattempt, ⟨⟨hsettlement, -⟩, -⟩, hstarted⟩ := hattempt
    simp only [bind_eq_ok, pure_eq_ok] at hs
    obtain ⟨finance, hfinance, rfl⟩ := hs
    have hcanonical : d.finance.executeCanonicalSettlementApproval identity.settlementApprovalId
        firstAdjustmentId now = .ok finance := by
      unfold executeCanonicalSettlementApproval at hfinance
      split at hfinance
      · rename_i hok
        rw [hok]
        exact congrArg _ (Except.ok.inj hfinance)
      · split at hfinance <;> cases hfinance
    exact .systemApprove hattempt hsettlement hstarted hcanonical

/-- **What a transaction does** is one of the moves. -/
theorem step_moves {a : ApprovalAction} (hs : step a d = .ok d') : d.Moves d' := by
  cases a with
  | finance a =>
      simp only [step, mapError_eq_ok, bind_eq_ok, require_eq_ok, pure_eq_ok] at hs
      obtain ⟨-, ha, finance, hfinance, rfl⟩ := hs
      exact .finance ha hfinance
  | createDraftApproval input origin ids now =>
      simp only [step, mapError_eq_ok, createDraftApprovalWithOrigin, bind_eq_ok] at hs
      obtain ⟨-, -, hs⟩ := hs
      exact createDraft_moves hs
  | createReplacementDraft input assessment ids now =>
      exact createControlledSettlementReplacementDraft_moves (mapError_eq_ok.mp hs)
  | approveSettlement id approvedBy firstAdjustmentId now =>
      simp only [step, mapError_eq_ok, approveSettlementApproval, bind_eq_ok, pure_eq_ok] at hs
      obtain ⟨finance, hfinance, rfl⟩ := hs
      exact .approve hfinance
  | cancelSettlement id =>
      simp only [step, mapError_eq_ok, cancelSettlementApproval, bind_eq_ok, pure_eq_ok] at hs
      obtain ⟨finance, hfinance, rfl⟩ := hs
      exact .cancel hfinance
  | createAttempt identity =>
      simp only [step, mapError_eq_ok, createAttempt, bind_eq_ok, insertRows_eq_ok,
        pure_eq_ok] at hs
      obtain ⟨-, -, _, ⟨hkey, rfl⟩, rfl⟩ := hs
      exact .createAttempt rfl hkey
  | approveAsTrustedSystem identity firstAdjustmentId now => exact approveAsTrustedSystem_moves hs
  | appendOutcome identity outcome reasonCode =>
      exact appendOutcome_moves (mapError_eq_ok.mp hs)
  | recordRollback identity =>
      simp only [step, mapError_eq_ok, recordRollback, bind_eq_ok, pure_eq_ok] at hs
      obtain ⟨_, -, rfl⟩ := hs
      exact .event

/-! ## The finance tables -/

/-- Each move makes one step of the finance system, or none. -/
lemma Moves.finance_step (h : d.Moves d') :
    d'.finance = d.finance ∨ ∃ a, Finance.step a d.finance = .ok d'.finance := by
  cases h with
  | nothing | createAttempt | outcome | event => exact Or.inl rfl
  | finance _ hs => exact Or.inr ⟨_, hs⟩
  | draft _ hs => exact Or.inr ⟨.createDraftApproval _ _ _, hs⟩
  | approve hs => exact Or.inr ⟨.approveSettlement _ _ _, hs⟩
  | cancel hs => exact Or.inr ⟨.cancelSettlement _, hs⟩
  | systemApprove _ _ _ hs => exact Or.inr ⟨.approveSettlement _ _ _, hs⟩

lemma ReachableDb.finance (h : d.ReachableDb) : Finance.ReachableDb d.finance := by
  refine h.invariant (P := fun d => Finance.ReachableDb d.finance) (.start rfl) ?_
  intro s a t _ hs hstep
  rcases (step_moves hstep).finance_step with hsame | ⟨b, hb⟩
  · rw [hsame]
    exact hs
  · exact Reachable.step hs ⟨b, trivial, hb⟩

end ApprovalDb

/-- What the row of an approved settlement keeps. -/
def SettlementApproval.WasApproved (s : SettlementApproval) : Prop :=
  s.HistoricallyApproved ∧ s.approvedAt ≠ none

/-- The settlements of `db` are settlements of `db'`, and stay approved. -/
def FinanceDb.KeepsApproved (db db' : FinanceDb) : Prop :=
  ∀ s ∈ db.settlementApproval, ∃ s' ∈ db'.settlementApproval,
    FinanceDb.identity s' = FinanceDb.identity s ∧ (s.WasApproved → s'.WasApproved)

namespace FinanceDb

variable {db db' : FinanceDb}

lemma KeepsApproved.rewrite {p : SettlementApproval → Bool}
    {f : SettlementApproval → SettlementApproval}
    (happrovals : db'.settlementApproval = updateWhere p f db.settlementApproval)
    (hf : ∀ s, identity (f s) = identity s)
    (hkept : ∀ s ∈ db.settlementApproval, p s = true → s.WasApproved → (f s).WasApproved) :
    db.KeepsApproved db' := by
  intro s hs
  refine ⟨if p s = true then f s else s, ?_, ?_, fun happroved => ?_⟩
  · rw [happrovals]
    exact mem_updateWhere.mpr ⟨s, hs, rfl⟩
  · split
    · exact hf s
    · rfl
  · split
    · rename_i hp
      exact hkept s hs hp happroved
    · exact happroved

lemma KeepsApproved.step {a : Action} (hi : db.Integrity) (hs : Finance.step a db = .ok db') :
    db.KeepsApproved db' := by
  by_cases ha : a.keepsApprovals = true
  · intro s hs'
    exact ⟨s, by rwa [(KeepsHistory.step hi ha hs).approvals], rfl, id⟩
  · cases a with
    | createDraftApproval input ids now =>
        obtain ⟨totals, happrovals⟩ := (createDraftApproval_writes hi hs).approvals
        intro s hs'
        exact ⟨s, by rw [happrovals]; exact List.mem_append_left _ hs', rfl, id⟩
    | approveSettlement id firstAdjustmentId now =>
        have hw := executeCanonicalSettlementApproval_writes hs
        refine .rewrite hw.approvals (fun _ => rfl) fun s _ _ _ => ?_
        exact ⟨Or.inl rfl, by simp [approvedRow]⟩
    | cancelSettlement id =>
        have hw := cancelSettlementApproval_writes hi hs
        obtain ⟨existing, hfind, hopen⟩ := hw.existing
        refine .rewrite hw.approvals (fun _ => rfl) fun s hs' hp happroved => ?_
        obtain rfl : s = existing := hi.approval_key.eq hs' (mem_of_findRow hfind)
          ((of_decide_eq_true hp).trans (key_of_findRow hfind).symm)
        rcases happroved.1 with hstatus | ⟨hstatus, -⟩
        · exact ⟨Or.inr ⟨rfl, congrArg some hstatus⟩, happroved.2⟩
        · exact absurd hstatus hopen
    | _ => exact absurd rfl ha

end FinanceDb

namespace ApprovalDb

variable {d d' : ApprovalDb}

/-- A settlement's link, the outcome of the attempt and the log tell the same story. -/
structure Consistent (d : ApprovalDb) : Prop where
  attempt_key : KeyUnique SettlementAutoApprovalAttempt.id d.settlementAutoApprovalAttempt
  log_key : KeyUnique Prod.fst d.approvalLog
  logged : ∀ x ∈ d.approvalLog, ∃ s ∈ d.finance.settlementApproval, s.id = x.1 ∧ s.WasApproved
  link : ∀ id attemptId, (d.approvalColumns id).successfulAutoApprovalAttemptId = some attemptId ↔
    (id, some attemptId) ∈ d.approvalLog
  actor : ∀ id attemptId, (id, some attemptId) ∈ d.approvalLog →
    (d.approvalColumns id).approvedBy = some ACTOR
  attempt : ∀ id attemptId, (id, some attemptId) ∈ d.approvalLog →
    ∃ t ∈ d.settlementAutoApprovalAttempt, t.id = attemptId ∧ t.outcome = .approved
  approved : ∀ t ∈ d.settlementAutoApprovalAttempt, t.outcome = .approved →
    (t.settlementApprovalId, some t.id) ∈ d.approvalLog

lemma logged_of_keepsApproved (hk : d.finance.KeepsApproved d'.finance)
    (h : ∀ x ∈ d.approvalLog, ∃ s ∈ d.finance.settlementApproval, s.id = x.1 ∧ s.WasApproved) :
    ∀ x ∈ d.approvalLog, ∃ s ∈ d'.finance.settlementApproval, s.id = x.1 ∧ s.WasApproved := by
  intro x hx
  obtain ⟨s, hs, hid, happroved⟩ := h x hx
  obtain ⟨s', hs', hsame, hkept⟩ := hk s hs
  exact ⟨s', hs', (congrArg Prod.fst hsame).trans hid, hkept happroved⟩

/-- A settlement that is approved now has no entry in the log yet. -/
lemma Consistent.unlogged (h : d.Consistent) (hi : d.finance.Integrity) {s : SettlementApproval}
    (hs : s ∈ d.finance.settlementApproval) (hdraft : s.status = .draft) :
    ∀ x ∈ d.approvalLog, x.1 ≠ s.id := by
  intro x hx hid
  obtain ⟨t, ht, htid, happroved, -⟩ := h.logged x hx
  obtain rfl := hi.approval_key.eq ht hs (htid.trans hid)
  rcases happroved with hstatus | ⟨hstatus, -⟩
  · rw [hdraft] at hstatus
    cases hstatus
  · rw [hdraft] at hstatus
    cases hstatus

/-- The attempts and the log are as they were; columns are written of settlements that the log
does not name. -/
lemma Consistent.keeps (h : d.Consistent) (hk : d.finance.KeepsApproved d'.finance)
    (hattempts : d'.settlementAutoApprovalAttempt = d.settlementAutoApprovalAttempt)
    (hlog : d'.approvalLog = d.approvalLog)
    (hcolumns : ∀ id, d'.approvalColumns id = d.approvalColumns id ∨
      (∀ x ∈ d.approvalLog, x.1 ≠ id) ∧
        (d'.approvalColumns id).successfulAutoApprovalAttemptId = none) : d'.Consistent where
  attempt_key := hattempts ▸ h.attempt_key
  log_key := hlog ▸ h.log_key
  logged := by
    rw [hlog]
    exact logged_of_keepsApproved hk h.logged
  link := by
    intro id attemptId
    rw [hlog]
    rcases hcolumns id with hsame | ⟨hfree, hnone⟩
    · rw [hsame]
      exact h.link id attemptId
    · rw [hnone]
      constructor
      · intro hsome
        cases hsome
      · intro hmem
        exact absurd rfl (hfree _ hmem)
  actor := by
    intro id attemptId hmem
    rw [hlog] at hmem
    rcases hcolumns id with hsame | ⟨hfree, -⟩
    · rw [hsame]
      exact h.actor id attemptId hmem
    · exact absurd rfl (hfree _ hmem)
  attempt := by
    rw [hlog, hattempts]
    exact h.attempt
  approved := by
    rw [hlog, hattempts]
    exact h.approved

/-- The draft `existing` is approved, by the attempt `entry` or by a user. -/
lemma Consistent.logs {existing : SettlementApproval} (h : d.Consistent)
    (entry : Option AttemptId) (hi : d.finance.Integrity)
    (hk : d.finance.KeepsApproved d'.finance)
    (hs : existing ∈ d.finance.settlementApproval) (hdraft : existing.status = .draft)
    (happroved : ∃ s ∈ d'.finance.settlementApproval, s.id = existing.id ∧ s.WasApproved)
    (hlog : d'.approvalLog = d.approvalLog ++ [(existing.id, entry)])
    (hother : ∀ id, id ≠ existing.id → d'.approvalColumns id = d.approvalColumns id)
    (hlink : (d'.approvalColumns existing.id).successfulAutoApprovalAttemptId = entry)
    (hactor : ∀ attemptId, entry = some attemptId →
      (d'.approvalColumns existing.id).approvedBy = some ACTOR)
    (hkey : KeyUnique SettlementAutoApprovalAttempt.id d'.settlementAutoApprovalAttempt)
    (hattempt : ∀ attemptId, entry = some attemptId →
      ∃ t ∈ d'.settlementAutoApprovalAttempt, t.id = attemptId ∧ t.outcome = .approved)
    (hkept : ∀ t ∈ d.settlementAutoApprovalAttempt, t.outcome = .approved →
      t ∈ d'.settlementAutoApprovalAttempt)
    (hnew : ∀ t ∈ d'.settlementAutoApprovalAttempt, t.outcome = .approved →
      t ∈ d.settlementAutoApprovalAttempt ∨
        (t.settlementApprovalId = existing.id ∧ entry = some t.id)) : d'.Consistent := by
  have hfree := h.unlogged hi hs hdraft
  have hmem : ∀ id attemptId, (id, some attemptId) ∈ d'.approvalLog ↔
      (id, some attemptId) ∈ d.approvalLog ∨ (id = existing.id ∧ entry = some attemptId) := by
    intro id attemptId
    rw [hlog, List.mem_append, List.mem_singleton, Prod.mk.injEq]
    exact or_congr Iff.rfl (and_congr Iff.rfl eq_comm)
  have hne : ∀ id attemptId, (id, some attemptId) ∈ d.approvalLog → id ≠ existing.id :=
    fun id attemptId hx => hfree (id, some attemptId) hx
  refine
    { attempt_key := hkey
      log_key := ?_
      logged := ?_
      link := ?_
      actor := ?_
      attempt := ?_
      approved := ?_ }
  · rw [hlog]
    refine keyUnique_append.mpr ⟨h.log_key, by simp [KeyUnique], fun x hx y hy => ?_⟩
    obtain rfl := List.mem_singleton.mp hy
    exact hfree x hx
  · intro x hx
    rw [hlog] at hx
    rcases List.mem_append.mp hx with hx | hx
    · exact logged_of_keepsApproved hk h.logged x hx
    · obtain rfl := List.mem_singleton.mp hx
      exact happroved
  · intro id attemptId
    rw [hmem]
    by_cases hid : id = existing.id
    · subst hid
      rw [hlink]
      constructor
      · intro hentry
        exact Or.inr ⟨rfl, hentry⟩
      · rintro (hold | ⟨-, hentry⟩)
        · exact absurd rfl (hne _ _ hold)
        · exact hentry
    · rw [hother id hid, h.link id attemptId]
      simp [hid]
  · intro id attemptId hx
    rcases (hmem id attemptId).mp hx with hold | ⟨rfl, hentry⟩
    · rw [hother id (hne _ _ hold)]
      exact h.actor id attemptId hold
    · exact hactor attemptId hentry
  · intro id attemptId hx
    rcases (hmem id attemptId).mp hx with hold | ⟨-, hentry⟩
    · obtain ⟨t, ht, hid, houtcome⟩ := h.attempt id attemptId hold
      exact ⟨t, hkept t ht houtcome, hid, houtcome⟩
    · exact hattempt attemptId hentry
  · intro t ht houtcome
    rw [hmem]
    rcases hnew t ht houtcome with hold | hentry
    · exact Or.inl (h.approved t hold houtcome)
    · exact Or.inr hentry

/-- A settlement that has just been approved. -/
lemma wasApproved_of_writes {db db' : FinanceDb} {id : Id} {now : Instant}
    (hw : db.WritesApproval db' id now) : ∃ existing ∈ db.settlementApproval, existing.id = id ∧
      existing.status = .draft ∧ ∃ s ∈ db'.settlementApproval, s.id = id ∧ s.WasApproved := by
  obtain ⟨existing, hfind, hdraft⟩ := hw.existing
  have hid : existing.id = id := key_of_findRow hfind
  refine ⟨existing, mem_of_findRow hfind, hid, hdraft, FinanceDb.approvedRow now existing, ?_, hid,
    Or.inl rfl, by simp [FinanceDb.approvedRow]⟩
  rw [hw.approvals]
  exact mem_updateWhere.mpr ⟨existing, mem_of_findRow hfind, by rw [if_pos (decide_eq_true hid)]⟩

theorem Consistent.moves (h : d.Consistent) (hi : d.finance.Integrity) (hm : d.Moves d') :
    d'.Consistent := by
  have hk : d.finance.KeepsApproved d'.finance := by
    rcases hm.finance_step with hsame | ⟨a, ha⟩
    · intro s hs
      exact ⟨s, hsame ▸ hs, rfl, id⟩
    · exact .step hi ha
  cases hm with
  | nothing => exact h
  | event => exact h.keeps hk rfl rfl fun _ => Or.inl rfl
  | finance ha hs => exact h.keeps hk rfl rfl fun _ => Or.inl rfl
  | cancel hs => exact h.keeps hk rfl rfl fun _ => Or.inl rfl
  | @draft input ids now finance columns hlink hs =>
      have hfresh := (FinanceDb.createDraftApproval_writes hi hs).fresh
      refine h.keeps hk rfl rfl fun id => ?_
      by_cases hid : id = ids.approvalId
      · subst hid
        refine Or.inr ⟨fun x hx heq => ?_, ?_⟩
        · obtain ⟨s, hs, hsid, -⟩ := h.logged x hx
          exact hfresh s hs (hsid.trans heq)
        · exact (congrArg ApprovalColumns.successfulAutoApprovalAttemptId
            (Function.update_self _ _ _)).trans hlink
      · exact Or.inl (Function.update_of_ne hid _ _)
  | @approve id firstAdjustmentId approvedBy now finance hs =>
      obtain ⟨existing, hmem, rfl, hdraft, happroved⟩ :=
        wasApproved_of_writes (FinanceDb.executeCanonicalSettlementApproval_writes hs)
      refine h.logs none hi hk hmem hdraft happroved rfl
        (fun id hid => Function.update_of_ne hid _ _) ?_ (by simp) h.attempt_key (by simp)
        (fun t ht _ => ht) fun t ht _ => Or.inl ht
      -- the draft had no link before
      refine (congrArg ApprovalColumns.successfulAutoApprovalAttemptId
        (Function.update_self _ _ _)).trans ?_
      cases hbefore : (d.approvalColumns existing.id).successfulAutoApprovalAttemptId with
      | none => rfl
      | some attemptId =>
          exact absurd rfl (h.unlogged hi hmem hdraft _ ((h.link _ _).mp hbefore))
  | @createAttempt attempt events hstarted hkey =>
      have hne : attempt.outcome ≠ .approved := by
        rw [hstarted]
        decide
      refine ⟨hkey, h.log_key, h.logged, h.link, h.actor, fun id attemptId hx => ?_, ?_⟩
      · exact exists_mem_append_left (h.attempt id attemptId hx)
      · rw [List.forall_mem_append]
        refine ⟨h.approved, fun t ht houtcome => ?_⟩
        obtain rfl := List.mem_singleton.mp ht
        exact absurd houtcome hne
  | @systemApprove identity firstAdjustmentId now finance attempt events reasonCode hattempt
      hsettlement hstarted hs =>
      obtain ⟨existing, hmem, hid, hdraft, happroved⟩ :=
        wasApproved_of_writes (FinanceDb.executeCanonicalSettlementApproval_writes hs)
      have hne : attempt.outcome ≠ .approved := by
        rw [hstarted]
        decide
      have hattemptId : attempt.id = identity.attemptId := key_of_findRow hattempt
      have hrow : ∀ t ∈ d.settlementAutoApprovalAttempt, t.id = identity.attemptId → t = attempt :=
        fun t ht heq => h.attempt_key.eq ht (mem_of_findRow hattempt) (heq.trans hattemptId.symm)
      rw [← hid] at happroved
      refine h.logs (some identity.attemptId) hi hk hmem hdraft
        happroved (by rw [hid]; rfl) (fun id hne => Function.update_of_ne (hid ▸ hne) _ _) ?_ ?_
        (h.attempt_key.updateWhere fun _ => rfl) ?_ ?_ ?_
      · rw [hid]
        exact (congrArg ApprovalColumns.successfulAutoApprovalAttemptId
          (Function.update_self _ _ _)).trans rfl
      · intro _ _
        rw [hid]
        exact (congrArg ApprovalColumns.approvedBy (Function.update_self _ _ _)).trans rfl
      · intro attemptId hentry
        obtain rfl := Option.some.inj hentry
        exact ⟨_, mem_updateWhere.mpr ⟨attempt, mem_of_findRow hattempt, rfl⟩, by simp [hattemptId],
          by simp [hattemptId]⟩
      · intro t ht houtcome
        refine mem_updateWhere.mpr ⟨t, ht, ?_⟩
        have hother : t.id ≠ identity.attemptId := by
          intro heq
          rw [hrow t ht heq] at houtcome
          exact hne houtcome
        simp [hother]
      · intro t' ht' houtcome
        obtain ⟨t, ht, rfl⟩ := mem_updateWhere.mp ht'
        by_cases heq : t.id = identity.attemptId
        · obtain rfl := hrow t ht heq
          refine Or.inr ?_
          simp [heq, hsettlement, hid]
        · rw [if_neg (by simpa using heq)]
          exact Or.inl ht
  | @outcome attempt result reasonCode events attemptId hattempt hopen hne =>
      have hattemptId : attempt.id = attemptId := key_of_findRow hattempt
      have hrow : ∀ t ∈ d.settlementAutoApprovalAttempt, t.id = attemptId → t = attempt :=
        fun t ht heq => h.attempt_key.eq ht (mem_of_findRow hattempt) (heq.trans hattemptId.symm)
      refine ⟨h.attempt_key.updateWhere fun _ => rfl, h.log_key, h.logged, h.link, h.actor, ?_, ?_⟩
      · intro id i hx
        obtain ⟨t, ht, hid, houtcome⟩ := h.attempt id i hx
        refine ⟨t, mem_updateWhere.mpr ⟨t, ht, ?_⟩, hid, houtcome⟩
        have hother : t.id ≠ attemptId := by
          intro heq
          rw [← hrow t ht heq, houtcome] at hopen
          exact hopen ⟨by decide, by decide⟩
        simp [hother]
      · intro t' ht' houtcome
        obtain ⟨t, ht, rfl⟩ := mem_updateWhere.mp ht'
        by_cases heq : t.id = attemptId
        · rw [if_pos (by simpa using heq)] at houtcome
          exact absurd houtcome hne
        · rw [if_neg (by simpa using heq)] at houtcome ⊢
          exact h.approved t ht houtcome

/-! ## What no transaction takes back -/

lemma keepsRefunds_step {db db' : FinanceDb} {a : Action} (hi : db.Integrity)
    (hs : Finance.step a db = .ok db') : db.KeepsRefunds db' := by
  by_cases ha : a.keepsApprovals = true
  · exact (FinanceDb.KeepsHistory.step hi ha hs).toKeepsRefunds
  · cases a with
    | createDraftApproval input ids now =>
        exact (FinanceDb.createDraftApproval_writes hi hs).toKeepsRefunds
    | approveSettlement id firstAdjustmentId now =>
        exact (FinanceDb.executeCanonicalSettlementApproval_writes hs).toKeepsRefunds
    | cancelSettlement id => exact (FinanceDb.cancelSettlementApproval_writes hi hs).toKeepsRefunds
    | _ => exact absurd rfl ha

structure Grows (d d' : ApprovalDb) : Prop where
  log : ∀ x ∈ d.approvalLog, x ∈ d'.approvalLog
  attempts : ∀ t ∈ d.settlementAutoApprovalAttempt, t.outcome.Terminal →
    t ∈ d'.settlementAutoApprovalAttempt
  approvals : d.finance.KeepsApproved d'.finance
  refunds : d.finance.KeepsRefunds d'.finance

/-- An update of one open attempt leaves the final ones alone. -/
lemma Consistent.terminal_mem (h : d.Consistent) {attempt : SettlementAutoApprovalAttempt}
    {attemptId : AttemptId} (hattempt : d.findAttempt attemptId = some attempt)
    (hopen : ¬attempt.outcome.Terminal)
    {f : SettlementAutoApprovalAttempt → SettlementAutoApprovalAttempt} :
    ∀ t ∈ d.settlementAutoApprovalAttempt, t.outcome.Terminal →
      t ∈ updateWhere (fun t => decide (t.id = attemptId)) f d.settlementAutoApprovalAttempt := by
  intro t ht hterminal
  refine mem_updateWhere.mpr ⟨t, ht, ?_⟩
  have hother : t.id ≠ attemptId := by
    intro heq
    have hsame := h.attempt_key.eq ht (mem_of_findRow hattempt)
      (heq.trans (key_of_findRow hattempt).symm)
    rw [hsame] at hterminal
    exact hopen hterminal
  simp [hother]

theorem Moves.grows (h : d.Consistent) (hi : d.finance.Integrity) (hm : d.Moves d') :
    d.Grows d' := by
  have hfinance : d.finance.KeepsApproved d'.finance ∧ d.finance.KeepsRefunds d'.finance := by
    rcases hm.finance_step with hsame | ⟨a, ha⟩
    · rw [hsame]
      exact ⟨fun s hs => ⟨s, hs, rfl, id⟩, .refl _⟩
    · exact ⟨.step hi ha, keepsRefunds_step hi ha⟩
  refine ⟨?_, ?_, hfinance.1, hfinance.2⟩
  · cases hm with
    | approve | systemApprove => exact fun x hx => List.mem_append_left _ hx
    | _ => exact fun x hx => hx
  · cases hm with
    | createAttempt => exact fun t ht _ => List.mem_append_left _ ht
    | outcome hattempt hopen _ => exact h.terminal_mem hattempt hopen
    | systemApprove hattempt _ hstarted _ =>
        exact h.terminal_mem hattempt fun hterminal => hterminal.1 hstarted
    | _ => exact fun t ht _ => ht

theorem ReachableDb.consistent (h : d.ReachableDb) : d.Consistent := by
  refine h.invariant (P := Consistent) ?_ fun s a t hr hs hstep =>
    hs.moves (ReachableDb.integrity hr.finance) (step_moves hstep)
  refine ⟨.nil _, .nil _, ?_, ?_, ?_, ?_, ?_⟩
  · intro x hx
    cases hx
  · intro id attemptId
    simp [ApprovalDb.empty, ApprovalColumns.blank]
  · intro id attemptId hx
    cases hx
  · intro id attemptId hx
    cases hx
  · intro t ht
    cases ht

lemma ReachableDb.later (h : d.ReachableDb) (hl : d.Later d') : d'.ReachableDb := by
  unfold Later at hl
  refine Reachable.invariant (P := ReachableDb) (fun s hs => ?_) (fun s t _ hs hstep => ?_) hl
  · rw [hs]
    exact h
  · exact Reachable.step hs hstep

/-- **A settlement is approved once, and an attempt is approved exactly when it did it**: in every
reachable state the attempt's outcome, the settlement's link and the log of committed approvals
agree, and a final attempt never changes. -/
theorem ReachableDb.approved_once (h : d.ReachableDb) :
    KeyUnique Prod.fst d.approvalLog ∧
    (∀ t ∈ d.settlementAutoApprovalAttempt,
      (t.outcome = .approved ↔ (t.settlementApprovalId, some t.id) ∈ d.approvalLog) ∧
      (t.outcome = .approved ↔
        (d.approvalColumns t.settlementApprovalId).successfulAutoApprovalAttemptId = some t.id)) ∧
    (∀ t ∈ d.settlementAutoApprovalAttempt, ∀ u ∈ d.settlementAutoApprovalAttempt,
      t.outcome = .approved → u.outcome = .approved →
        t.settlementApprovalId = u.settlementApprovalId → t = u) ∧
    ∀ d', d.Later d' → ∀ t ∈ d.settlementAutoApprovalAttempt, t.outcome.Terminal →
      t ∈ d'.settlementAutoApprovalAttempt := by
  have hc := h.consistent
  have hlogged : ∀ t ∈ d.settlementAutoApprovalAttempt,
      t.outcome = .approved ↔ (t.settlementApprovalId, some t.id) ∈ d.approvalLog := by
    refine fun t ht => ⟨hc.approved t ht, fun hx => ?_⟩
    obtain ⟨u, hu, hid, houtcome⟩ := hc.attempt _ _ hx
    rwa [hc.attempt_key.eq ht hu hid.symm]
  refine ⟨hc.log_key, fun t ht => ⟨hlogged t ht, (hlogged t ht).trans (hc.link _ _).symm⟩, ?_, ?_⟩
  · intro t ht u hu htout huout hsame
    have hentry := hc.log_key.eq (hc.approved t ht htout) (hc.approved u hu huout) hsame
    exact hc.attempt_key.eq ht hu (Option.some.inj (congrArg Prod.snd hentry))
  · intro d' hl
    refine hl.rule (R := fun d d' => ∀ t ∈ d.settlementAutoApprovalAttempt, t.outcome.Terminal →
      t ∈ d'.settlementAutoApprovalAttempt) (fun t ht _ => ht) fun s a s' hls hs hstep t ht hfinal => ?_
    have hreachable := h.later hls
    exact (Moves.grows hreachable.consistent (ReachableDb.integrity hreachable.finance)
      (step_moves hstep)).attempts t (hs t ht hfinal) hfinal

/-- Two attempts for one draft: the second approves it, and the first is then blocked. -/
def competingAttempts : List ApprovalAction :=
  [.finance (.recordSale (TwoPayouts.allocation 1) (TwoPayouts.sale 1)),
    .createDraftApproval TwoPayouts.draftInput (some .adminManual) ⟨1, 10, 10, 10, 10⟩ 3,
    .createAttempt ⟨.uuid 7, 1, 1⟩, .createAttempt ⟨.uuid 8, 1, 1⟩,
    .approveAsTrustedSystem ⟨.uuid 8, 1, 1⟩ 90 4,
    .appendOutcome ⟨.uuid 7, 1, 1⟩ .blocked "SETTLEMENT_NOT_DRAFT"]

/-- The first attempt does not approve the settlement a second time, and a cancellation leaves both
attempts as they are. -/
theorem approved_once_competingAttempts : ∃ d d' : ApprovalDb, d.ReachableDb ∧ d.Later d' ∧
    d.settlementAutoApprovalAttempt.map (·.outcome) = [.blocked, .approved] ∧
      (¬Succeeds (step (.approveAsTrustedSystem ⟨.uuid 7, 1, 1⟩ 91 5) d) fun _ => True) ∧
        (KeyUnique Prod.fst d.approvalLog ∧ d.approvalLog = [(1, some (.uuid 8))]) ∧
          (d'.finance.settlementApproval.map (·.status) = [.cancelled] ∧
            ∀ t ∈ d.settlementAutoApprovalAttempt, t ∈ d'.settlementAutoApprovalAttempt) := by
  have hrun : Succeeds (runActions step competingAttempts ApprovalDb.empty) fun d =>
      d.settlementAutoApprovalAttempt.map (·.outcome) = [.blocked, .approved] ∧
        d.approvalLog = [(1, some (.uuid 8))] ∧
        (∀ t ∈ d.settlementAutoApprovalAttempt, t.outcome.Terminal) ∧
        ¬Succeeds (step (.approveAsTrustedSystem ⟨.uuid 7, 1, 1⟩ 91 5) d) (fun _ => True) ∧
        Succeeds (step (.cancelSettlement 1) d) fun d' =>
          d'.finance.settlementApproval.map (·.status) = [.cancelled] := by
    decide +kernel
  obtain ⟨d, hd, houtcomes, hlog, hfinal, hrefused, hcancel⟩ := succeeds_iff.mp hrun
  obtain ⟨d', hd', hcancelled⟩ := succeeds_iff.mp hcancel
  have hreachable : d.ReachableDb :=
    reachable_of_runActions (.start rfl) (fun _ _ _ => trivial) hd
  obtain ⟨hkey, -, -, hkept⟩ := hreachable.approved_once
  have hlater : d.Later d' := .step (.start rfl) ⟨_, trivial, hd'⟩
  exact ⟨d, d', hreachable, hlater, houtcomes, hrefused, ⟨hkey, hlog⟩, hcancelled,
    fun t ht => hkept d' hlater t ht (hfinal t ht)⟩

end ApprovalDb

end VendorDashboard.Finance
