import VendorDashboard.ProductPanel.VariantDisableOutbox

/-!
# A resolved variant-disable event stays resolved

A run writes an event from the copy that it read, so it must be the only one that records an outcome
since then.  `SendAdmits` is this condition on the interleaving, together with a complete
environment and the two database calls that follow up a resolved request.  Under it the attempts
are the recorded requests, a resolved event stays resolved, and its failure signal is off once the
run that resolved it has got past it.

`SendRun.Writes` says what a step does to the store; `OutboxStore.Pending` is what a run knows of an
event whose outcome it has not recorded.
-/

namespace VendorDashboard.ProductPanel

open Finance (Id Instant)
open Interleaving Table Transaction Run

variable {env : ProductPanelEnv} {w : World OutboxStore SendRun} {i : ℕ} {c c' : SendRun}
  {s s' : OutboxStore}

/-! ## What a step writes -/

inductive SendRun.Writes (env : ProductPanelEnv) (w : World OutboxStore SendRun) (i : ℕ)
    (c : SendRun) : OutboxStore → Prop
  | nothing : SendRun.Writes env w i c w.shared
  | resolved {event : OutboxEvent} {now : Instant} (hposition : c.position = .writeResolved event)
      (hclear : w.shared.Unrecorded i event) :
      SendRun.Writes env w i c
        (w.shared.updateEvent event.id fun r => r.resolve i event env.dryRun now)
  | failed {event : OutboxEvent} {error : String} {source : FailureSource} {now : Instant}
      (hposition : c.position = .markFailed event error source)
      (hclear : w.shared.Unrecorded i event) :
      SendRun.Writes env w i c
        (w.shared.updateEvent event.id fun r => r.fail i event source.posted env.dryRun error now)
  | signalResolved {event : OutboxEvent} (hposition : c.position = .resolveSignal event) :
      SendRun.Writes env w i c (w.shared.resolveSignal event.id)
  | signalRaised {event : OutboxEvent} {source : FailureSource}
      (hposition : c.position = .raiseSignal event source)
      (hmay : signalMayBeRaised w event.id) :
      SendRun.Writes env w i c (w.shared.setSignal event.id .active)

/-- **What a step of a run writes**, when the condition admits it. -/
theorem SendRun.run_writes {answer : SendAnswer} (hadmits : c.admits env w i answer = true)
    (h : c.run env i answer w.shared = some (s', c')) : SendRun.Writes env w i c s' := by
  unfold SendRun.run at h
  dsimp only at h
  split at h
  all_goals try simp only [Option.some.injEq, Prod.mk.injEq, reduceCtorEq] at h
  case h_3 event r hp =>
    split at h
    · simp only [Option.some.injEq, Prod.mk.injEq] at h
      rw [← h.1]
      exact .nothing
    · cases h
  case h_5 event now hp =>
    simp only [SendRun.admits, hp] at hadmits
    rw [← h.1]
    exact .resolved hp (of_decide_eq_true hadmits)
  case h_7 event now error hp =>
    simp only [SendRun.admits, hp, Bool.false_eq_true] at hadmits
  case h_8 event now hp =>
    rw [← h.1]
    exact .signalResolved hp
  case h_10 event now error hp =>
    rw [← h.1]
    exact .signalResolved hp
  case h_11 event error source now hp =>
    simp only [SendRun.admits, hp] at hadmits
    rw [← h.1]
    exact .failed hp (of_decide_eq_true hadmits)
  case h_13 event error source now error' hp =>
    simp only [SendRun.admits, hp] at hadmits
    rw [← h.1]
    exact .failed hp (of_decide_eq_true hadmits)
  case h_14 event source now hp =>
    simp only [SendRun.admits, hp] at hadmits
    rw [← h.1]
    exact .signalRaised hp (of_decide_eq_true hadmits)
  case h_16 event source now error hp =>
    simp only [SendRun.admits, hp] at hadmits
    rw [← h.1]
    exact .signalRaised hp (of_decide_eq_true hadmits)
  all_goals
    rw [← h.1]
    exact .nothing

/-- What a step did to one row. -/
inductive SendRun.WritesRow (env : ProductPanelEnv) (i : ℕ) (c : SendRun) (r : OutboxEvent) :
    OutboxEvent → Prop
  | same : SendRun.WritesRow env i c r r
  | resolved {event : OutboxEvent} {now : Instant} (hposition : c.position = .writeResolved event)
      (hclear : r.recorded.erase i = event.recorded) (hid : r.id = event.id) :
      SendRun.WritesRow env i c r (r.resolve i event env.dryRun now)
  | failed {event : OutboxEvent} {error : String} {source : FailureSource} {now : Instant}
      (hposition : c.position = .markFailed event error source)
      (hclear : r.recorded.erase i = event.recorded) (hid : r.id = event.id) :
      SendRun.WritesRow env i c r (r.fail i event source.posted env.dryRun error now)

lemma SendRun.WritesRow.id {r r' : OutboxEvent} (h : SendRun.WritesRow env i c r r') :
    r'.id = r.id := by
  cases h <;> rfl

lemma mem_updateEvent {id : Id} {f : OutboxEvent → OutboxEvent} {r' : OutboxEvent}
    (h : r' ∈ (s.updateEvent id f).events) :
    ∃ r ∈ s.events, (r.id = id ∧ r' = f r) ∨ (r.id ≠ id ∧ r' = r) := by
  obtain ⟨r, hr, rfl⟩ := mem_updateWhere.mp h
  by_cases hid : r.id = id
  · exact ⟨r, hr, .inl ⟨hid, if_pos (decide_eq_true hid)⟩⟩
  · exact ⟨r, hr, .inr ⟨hid, if_neg (by simpa using hid)⟩⟩

lemma resolveSignal_events (s : OutboxStore) (id : Id) :
    (s.resolveSignal id).events = s.events := by
  unfold OutboxStore.resolveSignal
  split <;> rfl

/-- **Every row after a step comes from one before.** -/
theorem SendRun.Writes.row (h : SendRun.Writes env w i c s') {r' : OutboxEvent}
    (hr' : r' ∈ s'.events) :
    ∃ r ∈ w.shared.events, SendRun.WritesRow env i c r r' := by
  cases h with
  | nothing => exact ⟨r', hr', .same⟩
  | resolved hposition hclear =>
      obtain ⟨r, hr, ⟨hid, rfl⟩ | ⟨-, rfl⟩⟩ := mem_updateEvent hr'
      · exact ⟨r, hr, .resolved hposition (hclear r hr hid) hid⟩
      · exact ⟨r', hr, .same⟩
  | failed hposition hclear =>
      obtain ⟨r, hr, ⟨hid, rfl⟩ | ⟨-, rfl⟩⟩ := mem_updateEvent hr'
      · exact ⟨r, hr, .failed hposition (hclear r hr hid) hid⟩
      · exact ⟨r', hr, .same⟩
  | signalResolved => exact ⟨r', by rwa [resolveSignal_events] at hr', .same⟩
  | signalRaised => exact ⟨r', hr', .same⟩

/-- The rows stay, and each has changed by a step. -/
theorem SendRun.Writes.row_after (h : SendRun.Writes env w i c s') {r : OutboxEvent}
    (hr : r ∈ w.shared.events) : ∃ r' ∈ s'.events, SendRun.WritesRow env i c r r' := by
  cases h with
  | nothing => exact ⟨r, hr, .same⟩
  | @resolved event now hposition hclear =>
      refine ⟨_, mem_updateWhere.mpr ⟨r, hr, rfl⟩, ?_⟩
      by_cases hid : r.id = event.id
      · rw [if_pos (decide_eq_true hid)]
        exact .resolved hposition (hclear r hr hid) hid
      · rw [if_neg (by simpa using hid)]
        exact .same
  | @failed event error source now hposition hclear =>
      refine ⟨_, mem_updateWhere.mpr ⟨r, hr, rfl⟩, ?_⟩
      by_cases hid : r.id = event.id
      · rw [if_pos (decide_eq_true hid)]
        exact .failed hposition (hclear r hr hid) hid
      · rw [if_neg (by simpa using hid)]
        exact .same
  | signalResolved => exact ⟨r, by rwa [resolveSignal_events], .same⟩
  | signalRaised => exact ⟨r, hr, .same⟩

/-- **A signal is activated by the step that raises it only.** -/
theorem SendRun.Writes.active (h : SendRun.Writes env w i c s') {id : Id}
    (hactive : s'.signal id = some .active) : w.shared.signal id = some .active ∨
      ∃ event source, c.position = .raiseSignal event source ∧ event.id = id ∧
        signalMayBeRaised w id := by
  cases h with
  | nothing => exact .inl hactive
  | resolved => exact .inl hactive
  | failed => exact .inl hactive
  | @signalResolved event hposition =>
      unfold OutboxStore.resolveSignal at hactive
      split at hactive
      · by_cases hid : id = event.id
        · simp [OutboxStore.setSignal, hid] at hactive
        · simp only [OutboxStore.setSignal, Function.update_of_ne hid] at hactive
          exact .inl hactive
      · exact .inl hactive
  | @signalRaised event source hposition hmay =>
      by_cases hid : id = event.id
      · rw [hid]
        exact .inr ⟨event, source, hposition, rfl, hmay⟩
      · simp only [OutboxStore.setSignal, Function.update_of_ne hid] at hactive
        exact .inl hactive

/-! ## The invariants -/

structure OutboxEvent.Sound (r : OutboxEvent) : Prop where
  attempts : r.attemptCount = r.recorded.card
  resolver : r.Resolved → r.resolver.isSome

structure OutboxStore.Sound (s : OutboxStore) : Prop where
  ids : KeyUnique OutboxEvent.id s.events
  events : ∀ r ∈ s.events, r.Sound

/-- A run that has not been started has left nothing. -/
def OutboxStore.Fresh (i : ℕ) (s : OutboxStore) : Prop :=
  ∀ r ∈ s.events, i ∉ r.recorded ∧ r.resolver ≠ some i

/-- What run `i` knows of an event for which it may record an outcome. -/
structure OutboxStore.Pending (s : OutboxStore) (i : ℕ) (seen : OutboxEvent) : Prop where
  attempts : seen.attemptCount = seen.recorded.card
  fresh : i ∉ seen.recorded
  row : ∃ r ∈ s.events, r.id = seen.id
  mono : ∀ r ∈ s.events, r.id = seen.id → seen.recorded ⊆ r.recorded
  unresolved : ∀ r ∈ s.events, r.id = seen.id → r.recorded ⊆ insert i seen.recorded → ¬r.Resolved

/-- Run `i` has recorded no outcome for the event. -/
def OutboxStore.Untouched (s : OutboxStore) (i : ℕ) (seen : OutboxEvent) : Prop :=
  ∀ r ∈ s.events, r.id = seen.id → i ∉ r.recorded

lemma SendPosition.resolvesSignal_eq_true {id : Id} {p : SendPosition}
    (h : p.resolvesSignal id = true) : ∃ event, p = .resolveSignal event ∧ event.id = id := by
  unfold SendPosition.resolvesSignal at h
  split at h
  · exact ⟨_, rfl, of_decide_eq_true h⟩
  · cases h

/-- The event that a run works on. -/
def SendPosition.event : SendPosition → Option OutboxEvent
  | .post event | .writeResolved event | .resolveSignal event | .markFailed event _ _
  | .raiseSignal event _ => some event
  | _ => none

/-- The event whose outcome may still be recorded. -/
def SendPosition.pending : SendPosition → Option OutboxEvent
  | .post event | .writeResolved event | .markFailed event _ _ | .raiseSignal event _ => some event
  | _ => none

/-- The event for which the run has recorded nothing. -/
def SendPosition.untouched : SendPosition → Option OutboxEvent
  | .post event | .writeResolved event => some event
  | _ => none

def SendPosition.source : SendPosition → Option FailureSource
  | .markFailed _ _ source | .raiseSignal _ source => some source
  | _ => none

/-- The batch has not been read. -/
def SendPosition.reading : SendPosition → Prop
  | .readCandidates | .readEvents _ _ _ => True
  | _ => False

/-- The statuses of the events that will be read. -/
def SendPosition.statuses : SendPosition → List OutboxStatus
  | .readEvents _ statuses _ => statuses
  | _ => []

lemma SendPosition.statuses_eq_nil {p : SendPosition} (h : ¬p.reading) : p.statuses = [] := by
  cases p <;> first | rfl | exact absurd trivial h

/-- Every event of the result was either resolved or failed. -/
def SendPosition.Balanced : SendPosition → Prop
  | .readLatest result | .ended (.sent result) => result.resolved + result.failed = result.processed
  | .ended (.sentForOrder result) => result.resolved + result.failed = result.attempted
  | _ => True

/-- An event that is still to come. -/
structure OutboxStore.Waiting (env : ProductPanelEnv) (s : OutboxStore) (i : ℕ)
    (seen : OutboxEvent) : Prop where
  pending : s.Pending i seen
  untouched : s.Untouched i seen
  variant : seen.hasVariant = true
  configured : env.configured = true
  url : env.urlParses = true

structure SendRun.Sound (env : ProductPanelEnv) (i : ℕ) (s : OutboxStore) (c : SendRun) :
    Prop where
  reading : c.position.reading → s.Fresh i ∧ c.resolved = 0 ∧ c.failed = 0
  statuses : c.position.statuses ⊆ retryableStatuses
  waiting : ∀ e ∈ c.rest, s.Waiting env i e
  distinct : (c.rest.map OutboxEvent.id).Nodup
  event : ∀ e, c.position.event = some e → e.id ∉ c.rest.map OutboxEvent.id ∧
    env.urlParses = true ∧ c.resolved + c.failed + c.rest.length + 1 = c.processed
  pending : ∀ e, c.position.pending = some e → s.Pending i e
  untouched : ∀ e, c.position.untouched = some e → s.Untouched i e
  posted : ∀ source, c.position.source = some source → source.posted = true
  signal : ∀ r ∈ s.events, r.Resolved → r.resolver = some i →
    c.position.resolvesSignal r.id = false → s.signal r.id ≠ some .active
  balanced : c.position.Balanced

/-! ## The store -/

/-- Before it writes, a run that is the only one to have recorded an outcome since it read the event
counts right. -/
lemma OutboxStore.Pending.card {r seen : OutboxEvent} (h : s.Pending i seen)
    (hclear : r.recorded.erase i = seen.recorded) :
    seen.attemptCount + 1 = (insert i r.recorded).card := by
  have hinsert : insert i r.recorded = insert i seen.recorded := by
    rw [← hclear]
    ext j
    by_cases hj : j = i <;> simp [hj]
  rw [hinsert, Finset.card_insert_of_notMem h.fresh, h.attempts]

lemma subset_of_erase {r seen : OutboxEvent} (hclear : r.recorded.erase i = seen.recorded) :
    r.recorded ⊆ insert i seen.recorded := by
  rw [← hclear]
  intro j hj
  by_cases hji : j = i <;> simp [hji, hj]

lemma OutboxEvent.fail_not_resolved {r seen : OutboxEvent} {posted dryRun : Bool} {error : String}
    {now : Instant} : ¬(r.fail i seen posted dryRun error now).Resolved := by
  rintro (h | h) <;> cases h

lemma OutboxEvent.resolve_resolved (r seen : OutboxEvent) (dryRun : Bool) (now : Instant) :
    (r.resolve i seen dryRun now).Resolved := by
  cases dryRun
  · exact .inl rfl
  · exact .inr rfl

lemma SendRun.WritesRow.sound {r r' : OutboxEvent} (hr : r.Sound) (hc : c.Sound env i s)
    (h : SendRun.WritesRow env i c r r') : r'.Sound := by
  cases h with
  | same => exact hr
  | resolved hposition hclear hid =>
      have hpending := hc.pending _ (by rw [hposition]; rfl)
      exact ⟨hpending.card hclear, fun _ => rfl⟩
  | failed hposition hclear hid =>
      have hpending := hc.pending _ (by rw [hposition]; rfl)
      have hposted := hc.posted _ (by rw [hposition]; rfl)
      refine ⟨?_, fun hresolved => absurd hresolved OutboxEvent.fail_not_resolved⟩
      simp only [OutboxEvent.fail, hposted, if_true]
      exact hpending.card hclear

/-- A resolved event stays resolved. -/
lemma SendRun.WritesRow.resolved_stays {r r' : OutboxEvent} (hr : r ∈ s.events)
    (hresolved : r.Resolved) (hc : c.Sound env i s) (h : SendRun.WritesRow env i c r r') :
    r'.Resolved := by
  cases h with
  | same => exact hresolved
  | resolved => exact OutboxEvent.resolve_resolved ..
  | failed hposition hclear hid =>
      have hpending := hc.pending _ (by rw [hposition]; rfl)
      exact absurd hresolved (hpending.unresolved r hr hid (subset_of_erase hclear))

lemma SendRun.Writes.store (hs : w.shared.Sound) (hc : c.Sound env i w.shared)
    (h : SendRun.Writes env w i c s') : s'.Sound := by
  have hevents : ∀ r ∈ s'.events, r.Sound := by
    intro r' hr'
    obtain ⟨r, hr, hrow⟩ := h.row hr'
    exact hrow.sound (hs.events r hr) hc
  cases h with
  | nothing => exact hs
  | resolved => exact ⟨hs.ids.updateWhere fun _ => rfl, hevents⟩
  | failed => exact ⟨hs.ids.updateWhere fun _ => rfl, hevents⟩
  | signalResolved => exact ⟨by rw [resolveSignal_events]; exact hs.ids, hevents⟩
  | signalRaised => exact ⟨hs.ids, hevents⟩

/-! ## The other runs -/

lemma SendRun.WritesRow.recorded {r r' : OutboxEvent} (h : SendRun.WritesRow env i c r r') :
    r.recorded ⊆ r'.recorded ∧ r'.recorded ⊆ insert i r.recorded := by
  cases h with
  | same => exact ⟨subset_rfl, Finset.subset_insert i _⟩
  | resolved => exact ⟨Finset.subset_insert i _, subset_rfl⟩
  | failed =>
      unfold OutboxEvent.fail
      dsimp only
      split
      · exact ⟨Finset.subset_insert i _, subset_rfl⟩
      · exact ⟨subset_rfl, Finset.subset_insert i _⟩

lemma SendRun.WritesRow.notMem {r r' : OutboxEvent} {j : ℕ} (hij : j ≠ i)
    (h : SendRun.WritesRow env i c r r') (hj : j ∉ r.recorded) : j ∉ r'.recorded := by
  intro hmem
  rcases Finset.mem_insert.mp (h.recorded.2 hmem) with heq | hmem
  · exact hij heq
  · exact hj hmem

lemma SendRun.Writes.pending {j : ℕ} {seen : OutboxEvent} (hij : j ≠ i)
    (hc : c.Sound env i w.shared) (h : SendRun.Writes env w i c s')
    (hpending : w.shared.Pending j seen) : s'.Pending j seen where
  attempts := hpending.attempts
  fresh := hpending.fresh
  row := by
    obtain ⟨r, hr, hid⟩ := hpending.row
    obtain ⟨r', hr', hrow⟩ := h.row_after hr
    exact ⟨r', hr', hrow.id.trans hid⟩
  mono := by
    intro r' hr' hid
    obtain ⟨r, hr, hrow⟩ := h.row hr'
    exact (hpending.mono r hr (hrow.id ▸ hid)).trans hrow.recorded.1
  unresolved := by
    intro r' hr' hid hsubset
    obtain ⟨r, hr, hrow⟩ := h.row hr'
    cases hrow with
    | same => exact hpending.unresolved r' hr hid hsubset
    | resolved hposition hclear hevent =>
        -- run `i` has recorded its first outcome, of which `j` cannot know
        have huntouched := hc.untouched _ (by rw [hposition]; rfl) r hr hevent
        rcases Finset.mem_insert.mp (hsubset (Finset.mem_insert_self i _)) with heq | hmem
        · exact absurd heq.symm hij
        · exact absurd (hpending.mono r hr hid hmem) huntouched
    | failed => exact OutboxEvent.fail_not_resolved

lemma SendRun.Writes.untouched {j : ℕ} {seen : OutboxEvent} (hij : j ≠ i)
    (h : SendRun.Writes env w i c s') (huntouched : w.shared.Untouched j seen) :
    s'.Untouched j seen := by
  intro r' hr' hid
  obtain ⟨r, hr, hrow⟩ := h.row hr'
  exact hrow.notMem hij (huntouched r hr (hrow.id ▸ hid))

lemma SendRun.Writes.fresh {j : ℕ} (hij : j ≠ i) (h : SendRun.Writes env w i c s')
    (hfresh : w.shared.Fresh j) : s'.Fresh j := by
  intro r' hr'
  obtain ⟨r, hr, hrow⟩ := h.row hr'
  refine ⟨hrow.notMem hij (hfresh r hr).1, ?_⟩
  cases hrow with
  | same => exact (hfresh r' hr).2
  | resolved => exact fun heq => hij (Option.some.inj heq).symm
  | failed => exact (hfresh r hr).2

/-- **A step of another run leaves a run sound.** -/
lemma SendRun.Writes.other {j : ℕ} {d : SendRun} (hij : j ≠ i) (hc : c.Sound env i w.shared)
    (hd : d.Sound env j w.shared) (hprocess : w.process j = some d)
    (h : SendRun.Writes env w i c s') : d.Sound env j s' where
  reading := fun hreading =>
    have hread := hd.reading hreading
    ⟨h.fresh hij hread.1, hread.2⟩
  statuses := hd.statuses
  waiting := fun e he =>
    have hwaiting := hd.waiting e he
    { hwaiting with
      pending := h.pending hij hc hwaiting.pending
      untouched := h.untouched hij hwaiting.untouched }
  distinct := hd.distinct
  event := hd.event
  pending := fun e he => h.pending hij hc (hd.pending e he)
  untouched := fun e he => h.untouched hij (hd.untouched e he)
  posted := hd.posted
  signal := by
    intro r' hr' hresolved hresolver hpast hactive
    obtain ⟨r, hr, hrow⟩ := h.row hr'
    cases hrow with
    | resolved => exact hij (Option.some.inj hresolver).symm
    | failed => exact OutboxEvent.fail_not_resolved hresolved
    | same =>
        rcases h.active hactive with hactive | ⟨event, source, -, -, hmay⟩
        · exact hd.signal r' hr hresolved hresolver hpast hactive
        · have := hmay r' hr rfl hresolved j hresolver d hprocess
          rw [hpast] at this
          cases this
  balanced := hd.balanced

/-! ## The run that takes the step -/

section SameRows

variable {seen : OutboxEvent} (hrows : ∀ r ∈ s'.events, r.id = seen.id → r ∈ s.events)
  (hids : s'.events.map OutboxEvent.id = s.events.map OutboxEvent.id)

include hrows hids

lemma OutboxStore.Pending.sameRows (h : s.Pending i seen) : s'.Pending i seen where
  attempts := h.attempts
  fresh := h.fresh
  row := by
    obtain ⟨r, hr, hid⟩ := h.row
    have hmem := List.mem_map_of_mem (f := OutboxEvent.id) hr
    rw [← hids] at hmem
    obtain ⟨r', hr', hid'⟩ := List.mem_map.mp hmem
    exact ⟨r', hr', hid'.trans hid⟩
  mono := fun r hr hid => h.mono r (hrows r hr hid) hid
  unresolved := fun r hr hid => h.unresolved r (hrows r hr hid) hid

lemma OutboxStore.Waiting.sameRows (h : s.Waiting env i seen) : s'.Waiting env i seen :=
  { h with
    pending := h.pending.sameRows hrows hids
    untouched := fun r hr hid => h.untouched r (hrows r hr hid) hid }

end SameRows

/-- An update of one event leaves the others. -/
lemma updateEvent_sameRows {seen event : OutboxEvent} {f : OutboxEvent → OutboxEvent}
    (hf : ∀ r, (f r).id = r.id) (hne : event.id ≠ seen.id) :
    ∀ r ∈ (s.updateEvent event.id f).events, r.id = seen.id → r ∈ s.events := by
  intro r' hr' hid
  obtain ⟨r, hr, ⟨hevent, rfl⟩ | ⟨-, rfl⟩⟩ := mem_updateEvent hr'
  · rw [hf, hevent] at hid
    exact absurd hid hne
  · exact hr

lemma updateEvent_ids {id : Id} {f : OutboxEvent → OutboxEvent} (hf : ∀ r, (f r).id = r.id) :
    (s.updateEvent id f).events.map OutboxEvent.id = s.events.map OutboxEvent.id :=
  map_updateWhere hf s.events

namespace SendRun

/-- On to another position, with the same event. -/
lemma Sound.goTo {position : SendPosition} (h : c.Sound env i s) (hreading : ¬position.reading)
    (hevent : ∀ e, position.event = some e → c.position.event = some e)
    (hpending : ∀ e, position.pending = some e → s.Pending i e)
    (huntouched : ∀ e, position.untouched = some e → s.Untouched i e)
    (hposted : ∀ source, position.source = some source → source.posted = true)
    (hpast : ∀ id, position.resolvesSignal id = false → c.position.resolvesSignal id = false)
    (hbalanced : position.Balanced) : (c.goTo position).Sound env i s where
  reading := fun hposition => absurd hposition hreading
  statuses := by
    show position.statuses ⊆ _
    rw [SendPosition.statuses_eq_nil hreading]
    exact List.nil_subset _
  waiting := h.waiting
  distinct := h.distinct
  event := fun e he => h.event e (hevent e he)
  pending := hpending
  untouched := huntouched
  posted := hposted
  signal := fun r hr hresolved hresolver hposition =>
    h.signal r hr hresolved hresolver (hpast r.id hposition)
  balanced := hbalanced

/-- A run that threw. -/
lemma Sound.threw (h : c.Sound env i s) (hpast : ∀ id, c.position.resolvesSignal id = false) :
    (c.goTo (.ended .threw)).Sound env i s :=
  h.goTo (fun h => h) (fun _ he => by cases he) (fun _ he => by cases he) (fun _ he => by cases he)
    (fun _ he => by cases he) (fun id _ => hpast id) trivial

/-- A failure of the event is to be recorded. -/
lemma Sound.markFailed {event : OutboxEvent} {error : String} {source : FailureSource}
    (h : c.Sound env i s) (hpending : c.position.pending = some event)
    (hposted : source.posted = true) :
    (c.goTo (.markFailed event error source)).Sound env i s := by
  have hposition : c.position.event = some event ∧ ∀ id, c.position.resolvesSignal id = false := by
    cases hc : c.position <;> rw [hc] at hpending <;>
      simp_all [SendPosition.pending, SendPosition.event, SendPosition.resolvesSignal]
  refine h.goTo (fun h => h) (fun e he => he ▸ hposition.1) (fun e he => ?_) (fun _ he => by cases he)
    (fun source' hs => ?_) (fun id _ => hposition.2 id) trivial
  · exact h.pending e (he ▸ hpending)
  · obtain rfl := Option.some.inj hs
    exact hposted

lemma Sound.markFailedThrew {event : OutboxEvent} {error : String} {source : FailureSource}
    (h : c.Sound env i s) (hpending : c.position.pending = some event)
    (hpast : ∀ id, c.position.resolvesSignal id = false) :
    (c.markFailedThrew event error source).Sound env i s := by
  cases source with
  | answered => exact h.markFailed hpending rfl
  | unsent => exact h.threw hpast
  | caught posted => exact h.threw hpast

/-- Between two events. -/
structure Between (env : ProductPanelEnv) (i : ℕ) (s : OutboxStore) (c : SendRun) : Prop where
  waiting : ∀ e ∈ c.rest, s.Waiting env i e
  distinct : (c.rest.map OutboxEvent.id).Nodup
  count : c.resolved + c.failed + c.rest.length = c.processed
  signal : ∀ r ∈ s.events, r.Resolved → r.resolver = some i → s.signal r.id ≠ some .active

lemma Between.ended {position : SendPosition} (h : c.Between env i s)
    (hreading : ¬position.reading) (hevent : position.event = none)
    (hpending : position.pending = none) (huntouched : position.untouched = none)
    (hsource : position.source = none) (hbalanced : position.Balanced) :
    (c.goTo position).Sound env i s where
  reading := fun hposition => absurd hposition hreading
  statuses := by
    show position.statuses ⊆ _
    rw [SendPosition.statuses_eq_nil hreading]
    exact List.nil_subset _
  waiting := h.waiting
  distinct := h.distinct
  event := fun e he => by
    rw [show (c.goTo position).position.event = none from hevent] at he
    cases he
  pending := fun e he => by
    rw [show (c.goTo position).position.pending = none from hpending] at he
    cases he
  untouched := fun e he => by
    rw [show (c.goTo position).position.untouched = none from huntouched] at he
    cases he
  posted := fun source hs => by
    rw [show (c.goTo position).position.source = none from hsource] at hs
    cases hs
  signal := fun r hr hresolved hresolver _ => h.signal r hr hresolved hresolver
  balanced := hbalanced

/-- The run goes on to the next event, or returns. -/
lemma Between.proceed (h : c.Between env i s) : (c.proceed env).Sound env i s := by
  unfold SendRun.proceed
  split
  · rename_i hrest
    have hcount := h.count
    rw [hrest, List.length_nil, Nat.add_zero] at hcount
    unfold SendRun.returned
    split
    · exact h.ended (fun h => h) rfl rfl rfl rfl hcount
    · exact h.ended (fun h => h) rfl rfl rfl rfl hcount
  · rename_i event rest hrest
    have hwaiting := h.waiting
    have hdistinct := h.distinct
    have hcount := h.count
    rw [hrest] at hwaiting hdistinct hcount
    have hevent := hwaiting event List.mem_cons_self
    rw [List.map_cons, List.nodup_cons] at hdistinct
    simp only [hevent.variant, hevent.configured, if_true]
    exact
      { reading := fun h => h.elim
        statuses := List.nil_subset _
        waiting := fun e he => hwaiting e (List.mem_cons_of_mem _ he)
        distinct := hdistinct.2
        event := fun e he => by
          obtain rfl := Option.some.inj he
          exact ⟨hdistinct.1, hevent.url, by rw [← hcount, List.length_cons]; rfl⟩
        pending := fun e he => by
          obtain rfl := Option.some.inj he
          exact hevent.pending
        untouched := fun e he => by
          obtain rfl := Option.some.inj he
          exact hevent.untouched
        posted := fun source hs => by cases hs
        signal := fun r hr hresolved hresolver _ => h.signal r hr hresolved hresolver
        balanced := trivial }

/-- The run leaves an event behind. -/
lemma Sound.between {event : OutboxEvent} (h : c.Sound env i s)
    (hevent : c.position.event = some event)
    (hrows : s'.events = s.events) {resolved failed : ℕ}
    (hcount : resolved + failed = c.resolved + c.failed + 1)
    (hsignal : ∀ r ∈ s'.events, r.Resolved → r.resolver = some i →
      s'.signal r.id ≠ some .active) :
    SendRun.Between env i s' { c with resolved, failed } where
  waiting := fun e he => (h.waiting e he).sameRows (fun r hr _ => hrows ▸ hr) (by rw [hrows])
  distinct := h.distinct
  count := by
    have hprocessed := (h.event event hevent).2.2
    show resolved + failed + c.rest.length = c.processed
    omega
  signal := hsignal

end SendRun

/-! ### Reading the batch -/

lemma OutboxStore.mem_findByIds {eventIds : List Id} {statuses : List OutboxStatus} {limit : ℕ}
    {e : OutboxEvent} (he : e ∈ s.findByIds eventIds statuses limit) :
    e ∈ s.events ∧ e.status ∈ statuses := by
  have hmem := List.mem_of_mem_take he
  rw [List.mem_insertionSort, List.mem_filter, Bool.and_eq_true] at hmem
  exact ⟨hmem.1, of_decide_eq_true hmem.2.1⟩

lemma OutboxStore.findByIds_distinct (hids : KeyUnique OutboxEvent.id s.events)
    (eventIds : List Id) (statuses : List OutboxStatus) (limit : ℕ) :
    ((s.findByIds eventIds statuses limit).map OutboxEvent.id).Nodup := by
  unfold OutboxStore.findByIds OutboxStore.page
  rw [List.map_take]
  refine List.Nodup.sublist (List.take_sublist _ _) ?_
  rw [((List.perm_insertionSort _ _).map _).nodup_iff]
  exact List.Nodup.sublist (List.filter_sublist.map _) hids

/-- An event that was just read waits for its outcome. -/
lemma OutboxStore.Sound.waiting {e : OutboxEvent} (hs : s.Sound) (hfresh : s.Fresh i)
    (he : e ∈ s.events) (hstatus : e.status ∈ retryableStatuses)
    (hsendable : (e.hasVariant && env.configured && env.urlParses) = true) :
    s.Waiting env i e := by
  simp only [Bool.and_eq_true] at hsendable
  have hsame : ∀ r ∈ s.events, r.id = e.id → r = e := fun r hr hid => hs.ids.eq hr he hid
  have hopen : ¬e.Resolved := by
    rintro (h | h) <;> rw [h] at hstatus <;> simp [retryableStatuses] at hstatus
  exact
    { pending :=
        { attempts := (hs.events e he).attempts
          fresh := (hfresh e he).1
          row := ⟨e, he, rfl⟩
          mono := fun r hr hid => by rw [hsame r hr hid]
          unresolved := fun r hr hid _ => by rwa [hsame r hr hid] }
      untouched := fun r hr _ => (hfresh r hr).1
      variant := hsendable.1.1
      configured := hsendable.1.2
      url := hsendable.2 }

namespace SendRun

lemma Sound.afterCandidates {candidates : List OutboxEvent} (h : c.Sound env i s)
    (hposition : c.position = .readCandidates) :
    (c.afterCandidates candidates).Sound env i s := by
  have hread := h.reading (by rw [hposition]; trivial)
  unfold SendRun.afterCandidates
  dsimp only
  split
  · exact
      { h with
        reading := fun h => h.elim
        statuses := List.nil_subset _
        event := fun e he => by cases he
        pending := fun e he => by cases he
        untouched := fun e he => by cases he
        posted := fun source hs => by cases hs
        signal := fun r hr hresolved hresolver _ =>
          h.signal r hr hresolved hresolver (by rw [hposition]; rfl)
        balanced := rfl }
  · exact
      { h with
        reading := fun _ => hread
        statuses := List.Subset.refl _
        event := fun e he => by cases he
        pending := fun e he => by cases he
        untouched := fun e he => by cases he
        posted := fun source hs => by cases hs
        signal := fun r hr hresolved hresolver _ =>
          h.signal r hr hresolved hresolver (by rw [hposition]; rfl)
        balanced := trivial }

lemma Sound.afterRead {eventIds : List Id} {statuses : List OutboxStatus} {limit : ℕ}
    (hs : s.Sound) (h : c.Sound env i s)
    (hposition : c.position = .readEvents eventIds statuses limit)
    (hsendable : ∀ e ∈ s.findByIds eventIds statuses limit,
      (e.hasVariant && env.configured && env.urlParses) = true) :
    (c.afterRead env (s.findByIds eventIds statuses limit)).Sound env i s := by
  obtain ⟨hfresh, hresolved, hfailed⟩ := h.reading (by rw [hposition]; trivial)
  have hstatuses := h.statuses
  rw [hposition] at hstatuses
  refine Between.proceed ⟨fun e he => ?_, s.findByIds_distinct hs.ids _ _ _, ?_, ?_⟩
  · obtain ⟨hmem, hstatus⟩ := OutboxStore.mem_findByIds he
    exact hs.waiting hfresh hmem (hstatuses hstatus) (hsendable e he)
  · show c.resolved + c.failed + (s.findByIds eventIds statuses limit).length =
      (s.findByIds eventIds statuses limit).length
    omega
  · exact fun r hr _ hresolver => absurd hresolver (hfresh r hr).2

/-! ### Writing an event -/

lemma Sound.writeResolved {event : OutboxEvent} {now : Instant} (h : c.Sound env i s)
    (hposition : c.position = .writeResolved event) :
    (c.goTo (.resolveSignal event)).Sound env i
      (s.updateEvent event.id fun r => r.resolve i event env.dryRun now) where
  reading := fun h => h.elim
  statuses := List.nil_subset _
  waiting := by
    intro e he
    refine (h.waiting e he).sameRows (updateEvent_sameRows (fun _ => rfl) ?_)
      (updateEvent_ids fun _ => rfl)
    intro hid
    exact (h.event event (by rw [hposition]; rfl)).1 (hid ▸ List.mem_map_of_mem he)
  distinct := h.distinct
  event := fun e he => by
    obtain rfl := Option.some.inj he
    exact h.event event (by rw [hposition]; rfl)
  pending := fun e he => by cases he
  untouched := fun e he => by cases he
  posted := fun source hs => by cases hs
  signal := by
    intro r' hr' hresolved hresolver hpast
    obtain ⟨r, hr, ⟨hid, rfl⟩ | ⟨-, rfl⟩⟩ := mem_updateEvent hr'
    · exact absurd hid.symm (of_decide_eq_false hpast)
    · exact h.signal r' hr hresolved hresolver (by rw [hposition]; rfl)
  balanced := trivial

/-- After the update of `markProductPanelEventFailed`, before its answer. -/
lemma Sound.failed {event : OutboxEvent} {error error' : String} {source : FailureSource}
    {now : Instant} (h : c.Sound env i s)
    (hposition : c.position = .markFailed event error source) :
    c.Sound env i (s.updateEvent event.id fun r => r.fail i event source.posted env.dryRun error' now)
    where
  reading := fun hreading => by
    rw [hposition] at hreading
    exact hreading.elim
  statuses := h.statuses
  waiting := by
    intro e he
    refine (h.waiting e he).sameRows (updateEvent_sameRows (fun _ => rfl) ?_)
      (updateEvent_ids fun _ => rfl)
    intro hid
    exact (h.event event (by rw [hposition]; rfl)).1 (hid ▸ List.mem_map_of_mem he)
  distinct := h.distinct
  event := h.event
  pending := by
    intro e he
    rw [hposition] at he
    obtain rfl := Option.some.inj he
    have hpending := h.pending event (by rw [hposition]; rfl)
    refine ⟨hpending.attempts, hpending.fresh, ?_, fun r' hr' hid => ?_,
      fun r' hr' hid hsubset => ?_⟩
    · obtain ⟨r, hr, hid⟩ := hpending.row
      exact exists_mem_updateWhere ⟨r, hr, hid⟩ fun r hid => hid
    · obtain ⟨r, hr, ⟨hevent, rfl⟩ | ⟨-, rfl⟩⟩ := mem_updateEvent hr'
      · refine (hpending.mono r hr hevent).trans ?_
        unfold OutboxEvent.fail
        dsimp only
        split
        · exact Finset.subset_insert i _
        · exact subset_rfl
      · exact hpending.mono r' hr hid
    · obtain ⟨r, hr, ⟨-, rfl⟩ | ⟨-, rfl⟩⟩ := mem_updateEvent hr'
      · exact OutboxEvent.fail_not_resolved
      · exact hpending.unresolved r' hr hid hsubset
  untouched := fun e he => by
    rw [hposition] at he
    cases he
  posted := h.posted
  signal := by
    intro r' hr' hresolved hresolver hpast
    obtain ⟨r, hr, ⟨-, rfl⟩ | ⟨-, rfl⟩⟩ := mem_updateEvent hr'
    · exact absurd hresolved OutboxEvent.fail_not_resolved
    · exact h.signal r' hr hresolved hresolver hpast
  balanced := h.balanced

/-- A signal of the event was raised, or not. -/
lemma Sound.signalRaised {event : OutboxEvent} {source : FailureSource}
    (h : c.Sound env i w.shared) (hposition : c.position = .raiseSignal event source)
    (hprocess : w.process i = some c) (hmay : signalMayBeRaised w event.id) :
    ∀ r ∈ w.shared.events, r.Resolved → r.resolver = some i →
      (w.shared.setSignal event.id .active).signal r.id ≠ some .active := by
  intro r hr hresolved hresolver
  by_cases hid : r.id = event.id
  · -- the run itself is not past its update of the signal
    have hpast := hmay r hr hid hresolved i hresolver c hprocess
    rw [hposition] at hpast
    cases hpast
  · simp only [OutboxStore.setSignal, Function.update_of_ne hid]
    exact h.signal r hr hresolved hresolver (by rw [hposition]; rfl)

lemma Sound.afterSignalRaised {event : OutboxEvent} {source : FailureSource}
    (h : c.Sound env i w.shared) (hposition : c.position = .raiseSignal event source)
    (hprocess : w.process i = some c) (hmay : signalMayBeRaised w event.id) :
    c.Sound env i (w.shared.setSignal event.id .active) := by
  have hrows : ∀ r ∈ (w.shared.setSignal event.id .active).events, r ∈ w.shared.events :=
    fun _ hr => hr
  exact
    { h with
      signal := fun r hr hresolved hresolver _ =>
        h.signalRaised hposition hprocess hmay r hr hresolved hresolver
      reading := h.reading
      waiting := fun e he => (h.waiting e he).sameRows (fun r hr _ => hrows r hr) rfl
      pending := fun e he => (h.pending e he).sameRows (fun r hr _ => hrows r hr) rfl
      untouched := h.untouched }

lemma Sound.signalResolved {event : OutboxEvent} (h : c.Sound env i s)
    (hposition : c.position = .resolveSignal event) :
    ∀ r ∈ (s.resolveSignal event.id).events, r.Resolved → r.resolver = some i →
      (s.resolveSignal event.id).signal r.id ≠ some .active := by
  intro r hr hresolved hresolver hactive
  rw [resolveSignal_events] at hr
  unfold OutboxStore.resolveSignal at hactive
  by_cases hid : r.id = event.id
  · rw [← hid] at hactive
    split at hactive
    · simp [OutboxStore.setSignal] at hactive
    · rename_i hoff
      exact hoff (.inl hactive)
  · have hpast : c.position.resolvesSignal r.id = false := by
      rw [hposition]
      exact decide_eq_false (Ne.symm hid)
    refine h.signal r hr hresolved hresolver hpast ?_
    split at hactive
    · simpa [OutboxStore.setSignal, Function.update_of_ne hid] using hactive
    · exact hactive

/-- **The run that takes a step stays sound.** -/
theorem run_sound {answer : SendAnswer} (hs : w.shared.Sound) (h : c.Sound env i w.shared)
    (hprocess : w.process i = some c) (hadmits : c.admits env w i answer = true)
    (hrun : c.run env i answer w.shared = some (s', c')) : c'.Sound env i s' := by
  unfold SendRun.run at hrun
  dsimp only at hrun
  split at hrun
  all_goals try simp only [Option.some.injEq, Prod.mk.injEq, reduceCtorEq] at hrun
  case h_1 hp =>
    obtain ⟨rfl, rfl⟩ := hrun
    exact h.afterCandidates hp
  case h_2 eventIds statuses limit now hp =>
    obtain ⟨rfl, rfl⟩ := hrun
    simp only [SendRun.admits, hp] at hadmits
    exact h.afterRead hs hp (List.all_eq_true.mp hadmits)
  case h_3 event r hp =>
    split at hrun
    · simp only [Option.some.injEq, Prod.mk.injEq] at hrun
      obtain ⟨rfl, rfl⟩ := hrun
      unfold SendRun.afterResponse
      split
      · exact h.goTo (fun h => h) (fun e he => by rw [hp]; exact he)
          (fun e he => h.pending e (by rw [hp]; exact he))
          (fun e he => h.untouched e (by rw [hp]; exact he)) (fun _ hs => by cases hs)
          (fun _ _ => by rw [hp]; rfl) trivial
      · exact h.markFailed (by rw [hp]; rfl) rfl
    · cases hrun
  case h_4 event error hp =>
    obtain ⟨rfl, rfl⟩ := hrun
    exact h.markFailed (by rw [hp]; rfl) (h.event event (by rw [hp]; rfl)).2.1
  case h_5 event now hp =>
    obtain ⟨rfl, rfl⟩ := hrun
    exact h.writeResolved hp
  case h_6 event error hp =>
    obtain ⟨rfl, rfl⟩ := hrun
    exact h.markFailed (by rw [hp]; rfl) rfl
  case h_8 event now hp =>
    obtain ⟨rfl, rfl⟩ := hrun
    refine Between.proceed (h.between (by rw [hp]; rfl) (resolveSignal_events _ _) ?_
      (h.signalResolved hp))
    omega
  case h_11 event error source now hp =>
    obtain ⟨rfl, rfl⟩ := hrun
    have hfailed : c.Sound env i (w.shared.updateEvent event.id fun r =>
        r.fail i event source.posted env.dryRun error now) := h.failed hp
    exact hfailed.goTo (fun h => h) (fun e he => by rw [hp]; exact he)
      (fun e he => hfailed.pending e (by rw [hp]; exact he)) (fun _ he => by cases he)
      (fun source hs => h.posted source (by rw [hp]; exact hs)) (fun _ _ => by rw [hp]; rfl) trivial
  case h_12 event error source error' hp =>
    obtain ⟨rfl, rfl⟩ := hrun
    exact h.markFailedThrew (by rw [hp]; rfl) (fun _ => by rw [hp]; rfl)
  case h_13 event error source now error' hp =>
    obtain ⟨rfl, rfl⟩ := hrun
    exact (h.failed hp).markFailedThrew (by rw [hp]; rfl) (fun _ => by rw [hp]; rfl)
  case h_14 event source now hp =>
    obtain ⟨rfl, rfl⟩ := hrun
    simp only [SendRun.admits, hp] at hadmits
    have hsignal := h.signalRaised hp hprocess (of_decide_eq_true hadmits)
    have hbetween : Between env i (w.shared.setSignal event.id .active)
        { c with resolved := c.resolved, failed := c.failed + 1 } :=
      h.between (by rw [hp]; rfl) (by rfl) (by omega) hsignal
    exact hbetween.proceed
  case h_15 event source error hp =>
    obtain ⟨rfl, rfl⟩ := hrun
    exact h.markFailedThrew (by rw [hp]; rfl) (fun _ => by rw [hp]; rfl)
  case h_16 event source now error hp =>
    obtain ⟨rfl, rfl⟩ := hrun
    simp only [SendRun.admits, hp] at hadmits
    have hraised := h.afterSignalRaised hp hprocess (of_decide_eq_true hadmits)
    exact hraised.markFailedThrew (by rw [hp]; rfl) (fun _ => by rw [hp]; rfl)
  case h_17 result now hp =>
    obtain ⟨rfl, rfl⟩ := hrun
    have hbalanced := h.balanced
    rw [hp] at hbalanced
    exact h.goTo (fun h => h) (fun _ he => by cases he) (fun _ he => by cases he)
      (fun _ he => by cases he) (fun _ hs => by cases hs) (fun _ _ => by rw [hp]; rfl) hbalanced
  case h_7 event now error hp =>
    simp only [SendRun.admits, hp, Bool.false_eq_true] at hadmits
  case h_9 event error hp =>
    simp only [SendRun.admits, hp, Bool.false_eq_true] at hadmits
  case h_10 event now error hp =>
    simp only [SendRun.admits, hp, Bool.false_eq_true] at hadmits
  case h_18 error hp =>
    obtain ⟨rfl, rfl⟩ := hrun
    exact h.threw fun _ => by rw [hp]; rfl
  case h_19 eventIds statuses limit error hp =>
    obtain ⟨rfl, rfl⟩ := hrun
    exact h.threw fun _ => by rw [hp]; rfl
  case h_20 result error hp =>
    obtain ⟨rfl, rfl⟩ := hrun
    exact h.threw fun _ => by rw [hp]; rfl

end SendRun

/-! ## The surroundings -/

/-- A replay of the enqueueing leaves what the invariants speak of. -/
structure OutboxEvent.Replayed (r r' : OutboxEvent) : Prop where
  id : r'.id = r.id
  attemptCount : r'.attemptCount = r.attemptCount
  status : r'.status = r.status
  recorded : r'.recorded = r.recorded
  resolver : r'.resolver = r.resolver

structure OutboxEvent.IsNew (s : OutboxStore) (r' : OutboxEvent) : Prop where
  id : ∀ r ∈ s.events, r.id ≠ r'.id
  attemptCount : r'.attemptCount = 0
  unresolved : ¬r'.Resolved
  recorded : r'.recorded = ∅
  resolver : r'.resolver = none

/-- What the surroundings do to the store. -/
structure OutboxStore.Surrounded (s s' : OutboxStore) : Prop where
  row : ∀ r' ∈ s'.events, (∃ r ∈ s.events, r.Replayed r') ∨ r'.IsNew s
  kept : ∀ r ∈ s.events, ∃ r' ∈ s'.events, r.Replayed r'
  ids : KeyUnique OutboxEvent.id s.events → KeyUnique OutboxEvent.id s'.events
  active : ∀ id, s'.signal id = some .active → s.signal id = some .active

lemma OutboxEvent.Replayed.refl (r : OutboxEvent) : r.Replayed r := ⟨rfl, rfl, rfl, rfl, rfl⟩

lemma OutboxEvent.Replayed.resolved_iff {r r' : OutboxEvent} (h : r.Replayed r') :
    r'.Resolved ↔ r.Resolved := by
  unfold OutboxEvent.Resolved
  rw [h.status]

lemma OutboxEvent.enqueued_isNew {id : Id} (key : String) (variant : Option String)
    (order : String) (requestedAt : Instant) (dryRun : Bool) (hnew : ∀ r ∈ s.events, r.id ≠ id) :
    (OutboxEvent.enqueued id key variant order requestedAt dryRun).IsNew s where
  id := hnew
  attemptCount := rfl
  unresolved := by
    rintro (h | h) <;> simp only [OutboxEvent.enqueued] at h <;> split at h <;> cases h
  recorded := rfl
  resolver := rfl

/-- **The surroundings resolve no event, record no outcome and activate no signal.** -/
theorem OutboxStore.outside_surrounded {e : OutboxMove} (h : s.outside e = some s') :
    s.Surrounded s' := by
  cases e with
  | enqueue id key variant order requestedAt dryRun =>
      simp only [OutboxStore.outside, OutboxStore.enqueue] at h
      split at h
      · obtain rfl := Option.some.inj h
        refine ⟨fun r' hr' => ?_, fun r hr => ?_, fun hids => hids.updateWhere fun _ => rfl,
          fun _ hactive => hactive⟩
        · obtain ⟨r, hr, rfl⟩ := mem_updateWhere.mp hr'
          refine .inl ⟨r, hr, ?_⟩
          split
          · exact ⟨rfl, rfl, rfl, rfl, rfl⟩
          · exact .refl r
        · refine ⟨_, mem_updateWhere.mpr ⟨r, hr, rfl⟩, ?_⟩
          split
          · exact ⟨rfl, rfl, rfl, rfl, rfl⟩
          · exact .refl r
      · split at h
        · cases h
        · rename_i hid
          obtain rfl := Option.some.inj h
          have hnew : ∀ r ∈ s.events, r.id ≠ id := by
            intro r hr heq
            exact hid (List.any_eq_true.mpr ⟨r, hr, decide_eq_true heq⟩)
          have henqueued := OutboxEvent.enqueued_isNew key variant order requestedAt dryRun hnew
          refine ⟨fun r' hr' => ?_, fun r hr => ⟨r, List.mem_append_left _ hr, .refl r⟩,
            fun hids => ?_, fun _ hactive => hactive⟩
          · rcases List.mem_append.mp hr' with hr' | hr'
            · exact .inl ⟨r', hr', .refl r'⟩
            · rw [List.mem_singleton.mp hr']
              exact .inr henqueued
          · refine keyUnique_append.mpr ⟨hids, by simp [KeyUnique], ?_⟩
            intro r hr r' hr' heq
            rw [List.mem_singleton.mp hr'] at heq
            exact hnew r hr heq
  | signalAction eventId status =>
      simp only [OutboxStore.outside] at h
      split at h
      · rename_i hstatus
        obtain rfl := Option.some.inj h
        refine ⟨fun r' hr' => .inl ⟨r', hr', .refl r'⟩, fun r hr => ⟨r, hr, .refl r⟩,
          fun hids => hids, fun id hactive => ?_⟩
        by_cases hid : id = eventId
        · simp only [OutboxStore.setSignal, hid, Function.update_self, Option.some.injEq] at hactive
          exact absurd hactive hstatus.1
        · simp only [OutboxStore.setSignal, Function.update_of_ne hid] at hactive
          exact hactive
      · cases h

namespace OutboxStore.Surrounded

variable (h : s.Surrounded s')

include h

lemma sound (hs : s.Sound) : s'.Sound where
  ids := h.ids hs.ids
  events := by
    intro r' hr'
    rcases h.row r' hr' with ⟨r, hr, hsame⟩ | hnew
    · have hsound := hs.events r hr
      refine ⟨?_, fun hresolved => ?_⟩
      · rw [hsame.attemptCount, hsame.recorded]
        exact hsound.attempts
      · rw [hsame.resolver]
        exact hsound.resolver (hsame.resolved_iff.mp hresolved)
    · refine ⟨?_, fun hresolved => absurd hresolved hnew.unresolved⟩
      rw [hnew.attemptCount, hnew.recorded, Finset.card_empty]

lemma fresh (hfresh : s.Fresh i) : s'.Fresh i := by
  intro r' hr'
  rcases h.row r' hr' with ⟨r, hr, hsame⟩ | hnew
  · rw [hsame.recorded, hsame.resolver]
    exact hfresh r hr
  · rw [hnew.recorded, hnew.resolver]
    exact ⟨Finset.notMem_empty i, nofun⟩

lemma pending {seen : OutboxEvent} (hpending : s.Pending i seen) : s'.Pending i seen := by
  -- a new event is not the one that was read
  have hrow : ∀ r' ∈ s'.events, r'.id = seen.id → ∃ r ∈ s.events, r.id = seen.id ∧
      r.Replayed r' := by
    intro r' hr' hid
    rcases h.row r' hr' with ⟨r, hr, hsame⟩ | hnew
    · exact ⟨r, hr, hsame.id.symm.trans hid, hsame⟩
    · obtain ⟨r, hr, hseen⟩ := hpending.row
      exact absurd (hseen.trans hid.symm) (hnew.id r hr)
  refine ⟨hpending.attempts, hpending.fresh, ?_, fun r' hr' hid => ?_,
    fun r' hr' hid hsubset => ?_⟩
  · obtain ⟨r, hr, hid⟩ := hpending.row
    obtain ⟨r', hr', hsame⟩ := h.kept r hr
    exact ⟨r', hr', hsame.id.trans hid⟩
  · obtain ⟨r, hr, hid, hsame⟩ := hrow r' hr' hid
    rw [hsame.recorded]
    exact hpending.mono r hr hid
  · obtain ⟨r, hr, hid, hsame⟩ := hrow r' hr' hid
    rw [hsame.recorded] at hsubset
    rw [hsame.resolved_iff]
    exact hpending.unresolved r hr hid hsubset

lemma untouched {seen : OutboxEvent} (huntouched : s.Untouched i seen) : s'.Untouched i seen := by
  intro r' hr' hid
  rcases h.row r' hr' with ⟨r, hr, hsame⟩ | hnew
  · rw [hsame.recorded]
    exact huntouched r hr (hsame.id.symm.trans hid)
  · rw [hnew.recorded]
    exact Finset.notMem_empty i

lemma run (hc : c.Sound env i s) : c.Sound env i s' where
  reading := fun hreading => ⟨h.fresh (hc.reading hreading).1, (hc.reading hreading).2⟩
  statuses := hc.statuses
  waiting := fun e he =>
    { hc.waiting e he with
      pending := h.pending (hc.waiting e he).pending
      untouched := h.untouched (hc.waiting e he).untouched }
  distinct := hc.distinct
  event := hc.event
  pending := fun e he => h.pending (hc.pending e he)
  untouched := fun e he => h.untouched (hc.untouched e he)
  posted := hc.posted
  signal := by
    intro r' hr' hresolved hresolver hpast hactive
    rcases h.row r' hr' with ⟨r, hr, hsame⟩ | hnew
    · rw [hsame.resolver] at hresolver
      rw [hsame.id] at hpast hactive
      exact hc.signal r hr (hsame.resolved_iff.mp hresolved) hresolver hpast (h.active r.id hactive)
    · exact hnew.unresolved hresolved
  balanced := hc.balanced

end OutboxStore.Surrounded

/-! ## Runs -/

/-- A run that works on no event. -/
lemma OutboxStore.Fresh.idle {call : SendCall} {position : SendPosition} (hfresh : s.Fresh i)
    (hstatuses : position.statuses ⊆ retryableStatuses) (hevent : position.event = none)
    (hpending : position.pending = none) (huntouched : position.untouched = none)
    (hsource : position.source = none) (hbalanced : position.Balanced) :
    SendRun.Sound env i s ⟨call, 0, [], 0, 0, 0, position⟩ where
  reading := fun _ => ⟨hfresh, rfl, rfl⟩
  statuses := hstatuses
  waiting := fun e he => by cases he
  distinct := List.nodup_nil
  event := fun e he => by
    rw [hevent] at he
    cases he
  pending := fun e he => by
    rw [hpending] at he
    cases he
  untouched := fun e he => by
    rw [huntouched] at he
    cases he
  posted := fun source hs => by
    rw [hsource] at hs
    cases hs
  signal := fun r hr _ hresolver => absurd hresolver (hfresh r hr).2
  balanced := hbalanced

lemma SendRun.sound_start (hfresh : s.Fresh i) (call : SendCall) :
    (SendRun.start env call).Sound env i s := by
  unfold SendRun.start SendRun.goTo
  dsimp only
  split
  · split
    · exact hfresh.idle (List.nil_subset _) rfl rfl rfl rfl rfl
    · split
      · exact hfresh.idle (List.nil_subset _) rfl rfl rfl rfl rfl
      · exact hfresh.idle (by simp [SendPosition.statuses, retryableStatuses]) rfl rfl rfl rfl trivial
  · split
    · exact hfresh.idle (List.nil_subset _) rfl rfl rfl rfl trivial
    · split
      · exact hfresh.idle (List.nil_subset _) rfl rfl rfl rfl trivial
      · split
        · exact hfresh.idle (List.nil_subset _) rfl rfl rfl rfl trivial
        · exact hfresh.idle (List.nil_subset _) rfl rfl rfl rfl trivial

theorem productPanelOutbox_sound (env : ProductPanelEnv) :
    Program.SoundFresh (productPanelOutbox env) (· = OutboxStore.empty) (SendAdmits env)
      OutboxStore.Sound OutboxStore.Fresh (SendRun.Sound env) where
  init := by
    rintro s rfl
    exact ⟨⟨List.nodup_nil, fun r hr => by cases hr⟩, fun i r hr => by cases hr⟩
  start := fun i s call _ hfresh => SendRun.sound_start hfresh call
  run := by
    intro w i answer c s c' hw hc hadmits hrun
    have hsound := hw.process i c hc
    have hwrites := SendRun.run_writes (hadmits c hc) hrun
    exact ⟨hwrites.store hw.store hsound, SendRun.run_sound hw.store hsound hc (hadmits c hc) hrun⟩
  interference := by
    intro w i answer c s c' hw hc hadmits hrun j hij
    have hwrites := SendRun.run_writes (hadmits c hc) hrun
    exact ⟨fun d hd => hwrites.other hij (hw.process i c hc) (hw.process j d hd) hd,
      fun hd => hwrites.fresh hij (hw.fresh j hd)⟩
  outside := by
    intro w e s hw _ he
    have hsurrounded := OutboxStore.outside_surrounded he
    exact ⟨hsurrounded.sound hw.store, fun j d hd => hsurrounded.run (hw.process j d hd),
      fun j hd => hsurrounded.fresh (hw.fresh j hd)⟩

/-- **A resolved variant-disable event stays resolved.**  In every run that `SendAdmits` admits: the
attempts of an event are the posted requests with a recorded outcome; the failure signal of a
resolved event is active only while the run that resolved it is about to resolve the signal; a
result counts every event once; and no step takes an event out of `RESOLVED` or
`RESOLVED_DRY_RUN`. -/
theorem variantDisableEvents_stayResolved {env : ProductPanelEnv}
    {w : World OutboxStore SendRun}
    (hw : (productPanelOutbox env).Reaches (· = OutboxStore.empty) (SendAdmits env) w) :
    (∀ r ∈ w.shared.events, r.attemptCount = r.recorded.card) ∧
      (∀ r ∈ w.shared.events, r.Resolved → w.shared.signal r.id = some .active →
        ∃ i c event, r.resolver = some i ∧ w.process i = some c ∧
          c.position = .resolveSignal event ∧ event.id = r.id) ∧
      (∀ i c, w.process i = some c → c.position.Balanced) ∧
      ∀ m w', SendAdmits env w m → (productPanelOutbox env).step m w = .ok w' →
        ∀ r ∈ w.shared.events, r.Resolved → ∃ r' ∈ w'.shared.events, r'.id = r.id ∧ r'.Resolved := by
  have hsound := (productPanelOutbox_sound env).holds hw
  refine ⟨fun r hr => (hsound.store.events r hr).attempts, ?_,
    fun i c hc => (hsound.process i c hc).balanced, ?_⟩
  · intro r hr hresolved hactive
    obtain ⟨i, hresolver⟩ := Option.isSome_iff_exists.mp ((hsound.store.events r hr).resolver hresolved)
    cases hc : w.process i with
    | none => exact absurd hresolver (hsound.fresh i hc r hr).2
    | some c =>
        have hpast : c.position.resolvesSignal r.id = true := by
          by_contra hpast
          rw [Bool.not_eq_true] at hpast
          exact (hsound.process i c hc).signal r hr hresolved hresolver hpast hactive
        obtain ⟨event, hposition, hid⟩ := SendPosition.resolvesSignal_eq_true hpast
        exact ⟨i, c, event, hresolver, hc, hposition, hid⟩
  · intro m w' hadmits hs r hr hresolved
    rcases Program.step_shared hs with heq | ⟨i, answer, c, c', rfl, hc, hrun⟩ | ⟨e, rfl, he⟩
    · exact ⟨r, heq ▸ hr, rfl, hresolved⟩
    · obtain ⟨r', hr', hrow⟩ := (SendRun.run_writes (hadmits c hc) hrun).row_after hr
      exact ⟨r', hr', hrow.id, hrow.resolved_stays hr hresolved (hsound.process i c hc)⟩
    · obtain ⟨r', hr', hsame⟩ := (OutboxStore.outside_surrounded he).kept r hr
      exact ⟨r', hr', hsame.id, hsame.resolved_iff.mpr hresolved⟩

/-! ### A failing update of the signal -/

def productPanelSampleEnv : ProductPanelEnv where
  enabled := true
  dryRun := false
  baseUrl := some "https://panel.example"
  hmacSecret := some "secret"
  urlParses := true

/-- The order of one event is rejected, and the automatic run reads it. -/
def sampleEnqueue : List (Move SendCall SendAnswer OutboxMove) :=
  [.outside (.enqueue 7 "key" (some "variant") "order" 0 true), .start 1 (.automatic [7]),
    .run 1 (.statement 1)]

def sampleResolved : SendAnswer := .response ⟨true, 200, true, false, true, true, true, false⟩

/-- The first request fails, and a manual run resolves the event. -/
def sampleRetry : List (Move SendCall SendAnswer OutboxMove) :=
  sampleEnqueue ++ [.run 1 (.failed "timeout"), .run 1 (.statement 2), .run 1 (.statement 3),
    .start 2 (.manual "order" none), .run 2 (.statement 4), .run 2 (.statement 4),
    .run 2 sampleResolved, .run 2 (.statement 5), .run 2 (.statement 5), .run 2 (.statement 6)]

/-- The witness: two requests, two attempts. -/
theorem variantDisableEvents_stayResolved_retry : ∃ w : World OutboxStore SendRun,
    w.shared.events.map OutboxEvent.attemptCount = [2] ∧
      ∀ r ∈ w.shared.events, r.attemptCount = r.recorded.card := by
  have hrun : Succeeds (runActions (guarded (SendAdmits productPanelSampleEnv) ()
      (productPanelOutbox productPanelSampleEnv).step) sampleRetry (World.init .empty))
      fun w => w.shared.events.map OutboxEvent.attemptCount = [2] := by
    decide +kernel
  obtain ⟨w, hw, hattempts⟩ := succeeds_iff.mp hrun
  have hreaches : (productPanelOutbox productPanelSampleEnv).Reaches (· = OutboxStore.empty)
      (SendAdmits productPanelSampleEnv) w := reachable_of_runGuarded (.start ⟨_, rfl, rfl⟩) hw
  exact ⟨w, hattempts, (variantDisableEvents_stayResolved hreaches).1⟩

/-- The request is answered and the event `RESOLVED`; the update of its signal fails, and the `catch`
marks the event `FAILED`. -/
theorem variantDisableEvents_stayResolved_fails : ∃ w w' : World OutboxStore SendRun,
    (productPanelOutbox productPanelSampleEnv).Reaches (· = OutboxStore.empty) (fun _ _ => True) w ∧
      (productPanelOutbox productPanelSampleEnv).step (.run 1 (.statement 3)) w = .ok w' ∧
      w.shared.events.map OutboxEvent.status = [.resolved] ∧
      w'.shared.events.map OutboxEvent.status = [.failed] := by
  have hrun : Succeeds (runActions (productPanelOutbox productPanelSampleEnv).step
      (sampleEnqueue ++ [.run 1 sampleResolved, .run 1 (.statement 2), .run 1 (.failed "timeout")])
      (World.init .empty)) fun w => w.shared.events.map OutboxEvent.status = [.resolved] ∧
        Succeeds ((productPanelOutbox productPanelSampleEnv).step (.run 1 (.statement 3)) w)
          fun w' => w'.shared.events.map OutboxEvent.status = [.failed] := by
    decide +kernel
  obtain ⟨w, hw, hresolved, hstep⟩ := succeeds_iff.mp hrun
  obtain ⟨w', hw', hfailed⟩ := succeeds_iff.mp hstep
  refine ⟨w, w', ?_, hw', hresolved, hfailed⟩
  exact reachable_of_runActions (.start ⟨_, rfl, rfl⟩) (fun _ _ _ => trivial) hw

end VendorDashboard.ProductPanel
