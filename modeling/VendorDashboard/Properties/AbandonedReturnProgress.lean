import Mathlib.Data.Finset.Card
import VendorDashboard.Properties.AbandonedReturns

/-!
# Repeated runs of the auto-cancel

A run takes the first `limit` candidates, and a skipped one keeps its place in their order.  An
eligible return is reached by repeated runs if each time fewer candidates than `limit` are not
eligible (`recordCancelled_of_repeats`); otherwise those in front of it can take all the places.
-/

namespace VendorDashboard.ReturnAutoCancel

open Finance (Id Instant)
open Interleaving Run Table Text Transaction

/-! ## Runs that nothing else interferes with -/

/-- What Shopify answers about a return, as long as nobody has cancelled it; `none` if the call
throws. -/
structure Shopify where
  state : String → Option ShopifyReturnCancellationState
  cancel : String → Option CancelShopifyReturnResult

def Shopify.Answers (shopify : Shopify) : AutoCancelCall → AutoCancelAnswer → Prop
  | .fetch _ gid _ _, .state state => shopify.state gid = some state ∨ isCancelledState state = true
  | .fetch _ gid _ _, .thrown _ => shopify.state gid = none
  | .cancel _ gid _ _ _, .cancelled result => shopify.cancel gid = some result
  | .cancel _ gid _ _ _, .thrown _ => shopify.cancel gid = none
  | _, _ => True

/-- A run goes to its end on its own. -/
inductive RunsTo (shopify : Shopify) :
    ReturnStore → AutoCancelCall → ReturnStore → RunState → Prop
  | ended {s : ReturnStore} {run : RunState} : RunsTo shopify s (.ended run) s run
  | step {s s₁ s' : ReturnStore} {p q : AutoCancelCall} {answer : AutoCancelAnswer}
      {run : RunState} : shopify.Answers p answer → p.run answer s = some (s₁, q) →
        RunsTo shopify s₁ q s' run → RunsTo shopify s p s' run

def CompleteRun (shopify : Shopify) (input : RunInput) (s s' : ReturnStore) : Prop :=
  ∃ run, RunsTo shopify s (.candidates input) s' run

/-- Runs one after another, with time passing in between. -/
inductive Repeats (shopify : Shopify) (ok : RunInput → ReturnStore → Prop) :
    List RunInput → ReturnStore → ReturnStore → Prop
  | nil {s : ReturnStore} : Repeats shopify ok [] s s
  | cons {input : RunInput} {inputs : List RunInput} {s s₁ s' : ReturnStore} {clock : Instant} :
      ok input s → CompleteRun shopify input s s₁ →
        Repeats shopify ok inputs { s₁ with clock := clock } s' →
          Repeats shopify ok (input :: inputs) s s'

/-! ## Eligible returns -/

def returnRows (s : ReturnStore) (r : ReturnRecord) : List ReturnRecord :=
  s.returnRecord.filter (sameReturn r)

/-- Shopify lets the return be cancelled. -/
def Shopify.Cancels (shopify : Shopify) (input : RunInput) (gid : String) : Prop :=
  (∃ state, shopify.state gid = some state ∧ canonicalSkipReason input state = none) ∧
    ∃ result, shopify.cancel gid = some result ∧ isCancelledResult result = true

/-- A candidate whose return can be cancelled.  The records of the return are told by its gid and
its id. -/
structure Eligible (shopify : Shopify) (input : RunInput) (s : ReturnStore) (r : ReturnRecord) :
    Prop where
  mem : r ∈ s.returnRecord
  candidate : isCandidate input r = true
  identified : (resolveShopifyReturnGid r).isSome = true
  whole : ∀ b ∈ returnRows s r, ∀ c ∈ s.returnRecord, sameReturn b c = sameReturn r c
  key : ∀ c ∈ s.returnRecord, getShopifyReturnKey c = getShopifyReturnKey r → sameReturn r c = true
  mayCancel : ∀ b ∈ returnRows s r, MayCancel input.now input.autoCancelDays (s.included b)
  cancels : ∀ b ∈ returnRows s r, ∃ gid, resolveShopifyReturnGid b = some gid ∧
    shopify.Cancels input gid

/-- Fewer candidates than `limit` are not eligible. -/
def NotCrowded (shopify : Shopify) (input : RunInput) (s : ReturnStore) : Prop :=
  ∃ stuck : List ReturnRecord, stuck.length < input.limit ∧
    ∀ r ∈ s.returnRecord, isCandidate input r = true → Eligible shopify input s r ∨ r ∈ stuck

section Eligible

variable {shopify : Shopify} {input input' : RunInput} {s s' : ReturnStore} {r : ReturnRecord}

/-- The columns that tell the records of a return. -/
structure SameIdentity (x y : ReturnRecord) : Prop where
  id : x.id = y.id
  gid : x.sourceShopifyReturnGid = y.sourceShopifyReturnGid
  returnId : x.sourceShopifyReturnId = y.sourceShopifyReturnId

lemma SameIdentity.sameReturn_left {x y : ReturnRecord} (h : SameIdentity x y) (c : ReturnRecord) :
    sameReturn x c = sameReturn y c := by
  unfold sameReturn
  rw [h.gid, h.returnId]

lemma SameIdentity.sameReturn_right {x y : ReturnRecord} (h : SameIdentity x y) (c : ReturnRecord) :
    sameReturn c x = sameReturn c y := by
  unfold sameReturn
  rw [h.gid, h.returnId]

lemma SameIdentity.key {x y : ReturnRecord} (h : SameIdentity x y) :
    getShopifyReturnKey x = getShopifyReturnKey y := by
  unfold getShopifyReturnKey
  rw [h.gid, h.returnId]

lemma SameIdentity.resolve {x y : ReturnRecord} (h : SameIdentity x y) :
    resolveShopifyReturnGid x = resolveShopifyReturnGid y := by
  unfold resolveShopifyReturnGid
  rw [h.gid, h.returnId]

/-- A record that Shopify can be asked about is one of its return. -/
lemma sameReturn_self (h : (resolveShopifyReturnGid r).isSome = true) : sameReturn r r = true := by
  unfold sameReturn
  rcases present_or_of_resolve h with hgid | hid
  · simp [truthy_of_present hgid]
  · simp [truthy_of_present hid]

/-- The key of a return is what Shopify can be asked with. -/
lemma key_isSome (r : ReturnRecord) :
    (getShopifyReturnKey r).isSome = (resolveShopifyReturnGid r).isSome := by
  unfold getShopifyReturnKey resolveShopifyReturnGid
  rw [Option.isSome_or, Option.isSome_or, Option.isSome_map]

lemma Eligible.mem_returnRows (h : Eligible shopify input s r) : r ∈ returnRows s r :=
  List.mem_filter.mpr ⟨h.mem, sameReturn_self h.identified⟩

/-- What may be cancelled may be cancelled later. -/
lemma MayCancel.later {now now' : Instant} {autoCancelDays : ℕ} {b : ReturnAutoCancelRecord}
    (h : MayCancel now autoCancelDays b) (hnow : now ≤ now') : MayCancel now' autoCancelDays b := by
  obtain ⟨hsource, hcancelled | habandoned⟩ := h
  · exact ⟨hsource, Or.inl hcancelled⟩
  · exact ⟨hsource, Or.inr { habandoned with old := habandoned.old.trans (by gcongr) }⟩

lemma Shopify.Cancels.later {gid : String} (h : shopify.Cancels input gid)
    (hdays : input'.autoCancelDays = input.autoCancelDays) (hnow : input.now ≤ input'.now) :
    shopify.Cancels input' gid := by
  obtain ⟨⟨state, hstate, hskip⟩, hcancel⟩ := h
  refine ⟨⟨state, hstate, ?_⟩, hcancel⟩
  unfold canonicalSkipReason at hskip ⊢
  split_ifs at hskip with hopen hrefunds hrecent hshipment
  rw [if_neg hopen, if_neg hrefunds, if_neg, if_neg hshipment]
  intro hrecent'
  obtain ⟨approvedAt, hsome, htoo⟩ := (Option.any_eq_true _ _).mp hrecent'
  refine hrecent ((Option.any_eq_true _ _).mpr ⟨approvedAt, hsome, ?_⟩)
  rw [decide_eq_true_eq] at htoo ⊢
  rw [hdays] at htoo
  exact lt_of_le_of_lt (by gcongr) htoo

lemma isCandidate_later (h : isCandidate input r = true) (hdry : input'.dryRun = input.dryRun)
    (hdays : input'.autoCancelDays = input.autoCancelDays) (hnow : input.now ≤ input'.now) :
    isCandidate input' r = true := by
  unfold isCandidate at h ⊢
  rw [hdry, hdays]
  simp only [Bool.and_eq_true, decide_eq_true_eq] at h ⊢
  exact ⟨h.1, h.2.trans (by gcongr)⟩

/-- An eligible return is eligible later. -/
lemma Eligible.later (h : Eligible shopify input s r) (hdry : input'.dryRun = input.dryRun)
    (hdays : input'.autoCancelDays = input.autoCancelDays) (hnow : input.now ≤ input'.now) :
    Eligible shopify input' s r where
  mem := h.mem
  candidate := isCandidate_later h.candidate hdry hdays hnow
  identified := h.identified
  whole := h.whole
  key := h.key
  mayCancel b hb := by
    rw [hdays]
    exact (h.mayCancel b hb).later hnow
  cancels b hb := by
    obtain ⟨gid, hgid, hcancels⟩ := h.cancels b hb
    exact ⟨gid, hgid, hcancels.later hdays hnow⟩

/-- A write of one record that keeps the columns of its return. -/
structure WritesRecord (id : Id) (s s' : ReturnStore) : Prop where
  store : ∃ f : ReturnRecord → ReturnRecord, s' = s.update id f ∧ ∀ x, SameIdentity (f x) x

lemma writesRecord_persist (record : ReturnAutoCancelRecord) (attempt : AutoCancelAttempt)
    (s : ReturnStore) :
    WritesRecord record.record.id s (persistAutoCancelSnapshot record attempt s) :=
  ⟨_, rfl, fun _ => ⟨rfl, rfl, rfl⟩⟩

lemma writesRecord_mark (record : ReturnAutoCancelRecord) (attempt : AutoCancelAttempt)
    (s : ReturnStore) :
    WritesRecord record.record.id s (markLocalReturnRecordCancelled record attempt s) :=
  ⟨_, rfl, fun _ => ⟨rfl, rfl, rfl⟩⟩

/-- A record after the write has the columns of one before, and the other way round. -/
lemma WritesRecord.identity {id : Id} (h : WritesRecord id s s') :
    (∀ x' ∈ s'.returnRecord, ∃ x ∈ s.returnRecord, SameIdentity x x') ∧
      ∀ x ∈ s.returnRecord, ∃ x' ∈ s'.returnRecord, SameIdentity x' x := by
  obtain ⟨f, rfl, hf⟩ := h.store
  constructor
  · intro x' hx'
    obtain ⟨x, hx, rfl⟩ := mem_updateWhere.mp hx'
    refine ⟨x, hx, ?_⟩
    split
    · exact ⟨(hf x).id.symm, (hf x).gid.symm, (hf x).returnId.symm⟩
    · exact ⟨rfl, rfl, rfl⟩
  · intro x hx
    refine ⟨_, mem_updateWhere.mpr ⟨x, hx, rfl⟩, ?_⟩
    split
    · exact ⟨(hf x).id, (hf x).gid, (hf x).returnId⟩
    · exact ⟨rfl, rfl, rfl⟩

lemma WritesRecord.returnRows {id : Id} (h : WritesRecord id s s')
    (hid : ∀ b ∈ returnRows s r, b.id ≠ id) : returnRows s' r = returnRows s r := by
  obtain ⟨f, rfl, hf⟩ := h.store
  unfold ReturnAutoCancel.returnRows ReturnStore.update
  rw [filter_updateWhere]
  · exact updateWhere_eq_self fun b hb => beq_eq_false_iff_ne.mpr (hid b hb)
  · intro x
    exact SameIdentity.sameReturn_right ⟨(hf x).id, (hf x).gid, (hf x).returnId⟩ r

lemma WritesRecord.included {id : Id} (h : WritesRecord id s s') (x : ReturnRecord) :
    s'.included x = s.included x := by
  obtain ⟨f, rfl, -⟩ := h.store
  rfl

lemma WritesRecord.keyUnique {id : Id} (h : WritesRecord id s s')
    (hs : KeyUnique ReturnRecord.id s.returnRecord) :
    KeyUnique ReturnRecord.id s'.returnRecord := by
  obtain ⟨f, rfl, hf⟩ := h.store
  unfold KeyUnique
  rw [ids_update fun x => (hf x).id]
  exact hs

/-- A write of a record of another return leaves the return eligible. -/
lemma Eligible.writes {id : Id} (h : Eligible shopify input s r) (hwrites : WritesRecord id s s')
    (hid : ∀ b ∈ returnRows s r, b.id ≠ id) : Eligible shopify input s' r := by
  have hrows := hwrites.returnRows hid
  have hmem : r ∈ returnRows s' r := by
    rw [hrows]
    exact h.mem_returnRows
  refine ⟨(List.mem_filter.mp hmem).1, h.candidate, h.identified, ?_, ?_, ?_, ?_⟩
  · intro b hb c hc
    rw [hrows] at hb
    obtain ⟨x, hx, hsame⟩ := hwrites.identity.1 c hc
    rw [← hsame.sameReturn_right, ← hsame.sameReturn_right]
    exact h.whole b hb x hx
  · intro c hc hkey
    obtain ⟨x, hx, hsame⟩ := hwrites.identity.1 c hc
    rw [← hsame.sameReturn_right]
    exact h.key x hx (hsame.key.trans hkey)
  · intro b hb
    rw [hrows] at hb
    rw [hwrites.included]
    exact h.mayCancel b hb
  · intro b hb
    rw [hrows] at hb
    exact h.cancels b hb

end Eligible

/-! ## One run -/

section OneRun

variable {shopify : Shopify} {input : RunInput} {s s' : ReturnStore} {r : ReturnRecord}
  {inPage : Prop} {run : RunState} {c : ReturnAutoCancelRecord}

/-- The record is one of the table, as far as its return is concerned. -/
def Known (s : ReturnStore) (c : ReturnAutoCancelRecord) : Prop :=
  ∃ x ∈ s.returnRecord, SameIdentity x c.record

/-- The run has not come to the return of `r`, which is in front of it if it was in the page. -/
structure Ready (s : ReturnStore) (r : ReturnRecord) (input : RunInput) (inPage : Prop)
    (run : RunState) (rest : List ReturnAutoCancelRecord) : Prop where
  sameInput : run.input = input
  known : ∀ c ∈ rest, Known s c
  fresh : ∀ k ∈ getShopifyReturnKey r, k ∉ run.processedReturnKeys
  ahead : inPage → ∃ c ∈ rest, c.record = r

/-- The run is at a candidate: one of the return, or one before it. -/
structure Turn (s : ReturnStore) (r : ReturnRecord) (input : RunInput) (inPage : Prop)
    (c : ReturnAutoCancelRecord) (run : RunState) : Prop where
  sameInput : run.input = input
  known : Known s c
  before : sameReturn r c.record = true ∨ Ready s r input inPage run run.rest

/-- Where a run is that has not cancelled the return of `r`. -/
def AutoCancelCall.Faces (s : ReturnStore) (r : ReturnRecord) (input : RunInput) (inPage : Prop) :
    AutoCancelCall → Prop
  | .candidates _ => False
  | .related c gid run =>
      Turn s r input inPage c run ∧ resolveShopifyReturnGid c.record = some gid
  | .fetch c gid relatedRecords run | .cancel c gid relatedRecords _ run =>
      Turn s r input inPage c run ∧ resolveShopifyReturnGid c.record = some gid ∧
        relatedRecords = findRelatedReturnRecords s c
  | .persist c _ _ run => Known s c ∧ sameReturn r c.record = false ∧
      Ready s r input inPage run run.rest
  | .mark record left _ _ run =>
      (∀ x ∈ record :: left, Known s x ∧ sameReturn r x.record = false) ∧
        Ready s r input inPage run run.rest
  | .ended _ => ¬inPage

/-- Every record of the return is cancelled, or about to be marked. -/
def AllPending (ids : List Id) (s : ReturnStore) (p : AutoCancelCall) : Prop :=
  ∀ id ∈ ids, id ∈ s.returnRecord.map ReturnRecord.id ∧
    (RecordCancelled s id ∨ ∃ concluded, p.AwaitsMark id concluded)

lemma sameReturn_comm (a b : ReturnRecord) : sameReturn a b = sameReturn b a := by
  have hcolumn : ∀ x y : Option String, (truthy x && y == x) = (truthy y && x == y) := by
    intro x y
    by_cases hsame : x = y
    · subst hsame
      rfl
    · rw [beq_eq_false_iff_ne.mpr hsame, beq_eq_false_iff_ne.mpr (Ne.symm hsame), Bool.and_false,
        Bool.and_false]
  unfold sameReturn
  rw [hcolumn a.sourceShopifyReturnGid, hcolumn a.sourceShopifyReturnId]

/-- A record of another return is no row of this one. -/
lemma Known.ne_id (h : Known s c) (hs : KeyUnique ReturnRecord.id s.returnRecord)
    (hother : sameReturn r c.record = false) : ∀ b ∈ returnRows s r, b.id ≠ c.record.id := by
  intro b hb hid
  obtain ⟨x, hx, hsame⟩ := h
  obtain ⟨hmem, hrow⟩ := List.mem_filter.mp hb
  obtain rfl := hs.eq hmem hx (hid.trans hsame.id.symm)
  rw [hsame.sameReturn_right, hother] at hrow
  cases hrow

/-- The records that are read for a record of the return are the rows of the return. -/
lemma Eligible.related_own (h : Eligible shopify input s r) (hknown : Known s c)
    (hown : sameReturn r c.record = true) :
    findRelatedReturnRecords s c = (returnRows s r).map s.included := by
  obtain ⟨x, hx, hsame⟩ := hknown
  have hrow : x ∈ returnRows s r := by
    refine List.mem_filter.mpr ⟨hx, ?_⟩
    rw [hsame.sameReturn_right]
    exact hown
  have htruthy : (truthy c.record.sourceShopifyReturnGid ||
      truthy c.record.sourceShopifyReturnId) = true := by
    rw [sameReturn_comm] at hown
    unfold sameReturn at hown
    rcases Bool.or_eq_true_iff.mp hown with hgid | hid
    · rw [(Bool.and_eq_true_iff.mp hgid).1, Bool.true_or]
    · rw [(Bool.and_eq_true_iff.mp hid).1, Bool.or_true]
  unfold findRelatedReturnRecords
  rw [if_pos htruthy]
  refine congrArg (List.map s.included) (List.filter_congr fun y hy => ?_)
  rw [← hsame.sameReturn_left]
  exact h.whole x hrow y hy

/-- The records that are read for a record of another return are none of this one. -/
lemma Eligible.related_other (h : Eligible shopify input s r) (hknown : Known s c)
    (hother : sameReturn r c.record = false) :
    ∀ y ∈ findRelatedReturnRecords s c, Known s y ∧ sameReturn r y.record = false := by
  intro y hy
  unfold findRelatedReturnRecords at hy
  split at hy
  · obtain ⟨y₀, hy₀, rfl⟩ := List.mem_map.mp hy
    obtain ⟨hmem, hrelated⟩ := List.mem_filter.mp hy₀
    refine ⟨⟨y₀, hmem, rfl, rfl, rfl⟩, ?_⟩
    change sameReturn r y₀ = false
    by_contra hown
    rw [Bool.not_eq_false] at hown
    obtain ⟨x, hx, hsame⟩ := hknown
    have hwhole := h.whole y₀ (List.mem_filter.mpr ⟨hmem, hown⟩) x hx
    rw [hsame.sameReturn_right, hsame.sameReturn_right, hother, sameReturn_comm, hrelated] at hwhole
    cases hwhole
  · rw [List.mem_singleton.mp hy]
    exact ⟨hknown, hother⟩

/-- A candidate of another return has another key. -/
lemma Eligible.key_ne (h : Eligible shopify input s r) (hknown : Known s c)
    (hother : sameReturn r c.record = false) :
    getShopifyReturnKey c.record ≠ getShopifyReturnKey r := by
  intro hkey
  obtain ⟨x, hx, hsame⟩ := hknown
  have hown := h.key x hx (hsame.key.trans hkey)
  rw [hsame.sameReturn_right, hother] at hown
  cases hown

lemma Eligible.resolve_own (h : Eligible shopify input s r) (hknown : Known s c)
    (hown : sameReturn r c.record = true) :
    ∃ gid, resolveShopifyReturnGid c.record = some gid ∧ shopify.Cancels input gid := by
  obtain ⟨x, hx, hsame⟩ := hknown
  have hrow : x ∈ returnRows s r := by
    refine List.mem_filter.mpr ⟨hx, ?_⟩
    rw [hsame.sameReturn_right]
    exact hown
  obtain ⟨gid, hgid, hcancels⟩ := h.cancels x hrow
  exact ⟨gid, hsame.resolve.symm.trans hgid, hcancels⟩

/-- The next candidate that is processed. -/
lemma faces_advance (h : Eligible shopify input s r) (hdry : input.dryRun = false)
    (rest : List ReturnAutoCancelRecord) (run : RunState)
    (hready : Ready s r input inPage run rest) : (run.advance rest).Faces s r input inPage := by
  induction rest generalizing run with
  | nil =>
      intro hpage
      obtain ⟨c, hc, -⟩ := hready.ahead hpage
      cases hc
  | cons c rest ih =>
      obtain ⟨hinput, hknown, hfresh, hahead⟩ := hready
      have hkey : (getShopifyReturnKey r).isSome = true := by
        rw [key_isSome]
        exact h.identified
      obtain ⟨k, hk⟩ := Option.isSome_iff_exists.mp hkey
      have hrest : ∀ c' ∈ rest, Known s c' := fun c' hc' => hknown c' (List.mem_cons_of_mem _ hc')
      have hc := hknown c List.mem_cons_self
      have hdry' : run.input.dryRun = false := by
        rw [hinput]
        exact hdry
      unfold RunState.advance
      dsimp only
      rw [hdry', Bool.not_false, Bool.true_and]
      by_cases hdone :
          (getShopifyReturnKey c.record).any (run.processedReturnKeys.contains ·) = true
      · rw [if_pos hdone]
        refine ih run ⟨hinput, hrest, hfresh, fun hpage => ?_⟩
        obtain ⟨c', hc', hrow⟩ := hahead hpage
        rcases List.mem_cons.mp hc' with rfl | hc'
        · rw [hrow, hk, Option.any_some, List.contains_iff_mem] at hdone
          exact (hfresh k hk hdone).elim
        · exact ⟨c', hc', hrow⟩
      · rw [if_neg hdone]
        have hnext : sameReturn r c.record = false → Ready s r input inPage
            { run with
              rest := rest
              processedReturnKeys :=
                run.processedReturnKeys ++ (getShopifyReturnKey c.record).toList } rest := by
          intro hother
          refine ⟨hinput, hrest, fun k' hk' hmem => ?_, fun hpage => ?_⟩
          · rcases List.mem_append.mp hmem with hold | hnew
            · exact hfresh k' hk' hold
            · exact h.key_ne hc hother ((Option.mem_toList.mp hnew).trans hk'.symm)
          · obtain ⟨c', hc', hrow⟩ := hahead hpage
            rcases List.mem_cons.mp hc' with rfl | hc'
            · rw [hrow, sameReturn_self h.identified] at hother
              cases hother
            · exact ⟨c', hc', hrow⟩
        cases hgid : resolveShopifyReturnGid c.record with
        | some gid =>
            refine ⟨⟨hinput, hc, ?_⟩, hgid⟩
            cases hown : sameReturn r c.record with
            | true => exact Or.inl rfl
            | false => exact Or.inr (hnext hown)
        | none =>
            have hother : sameReturn r c.record = false := by
              by_contra hown
              obtain ⟨gid, hgid', -⟩ := h.resolve_own hc ((Bool.not_eq_false _).mp hown)
              rw [hgid] at hgid'
              cases hgid'
            exact ⟨hc, hother, hnext hother⟩

lemma faces_stop (hdry : input.dryRun = false) (hknown : Known s c)
    (hother : sameReturn r c.record = false) (hready : Ready s r input inPage run run.rest)
    (gid : String) (status : AutoCancelStatus) (reason : String) (affected : List Id)
    (canonicalStatus : Option String) (details : AutoCancelDetails) :
    (run.stop c gid status reason affected canonicalStatus details).Faces s r input inPage := by
  have hdry' : ¬run.input.dryRun = true := by
    rw [hready.sameInput, hdry]
    exact Bool.false_ne_true
  unfold RunState.stop
  dsimp only
  rw [if_neg hdry']
  exact ⟨hknown, hother, hready⟩

lemma Ready.conclude {result : AutoCancelResult} {rest : List ReturnAutoCancelRecord}
    (h : Ready s r input inPage run rest) : Ready s r input inPage (run.conclude result) rest :=
  ⟨h.sameInput, h.known, h.fresh, h.ahead⟩

lemma faces_marking (h : Eligible shopify input s r) (hdry : input.dryRun = false)
    (hready : Ready s r input inPage run run.rest) (attempt : AutoCancelAttempt)
    (result : AutoCancelResult) {left : List ReturnAutoCancelRecord}
    (hleft : ∀ x ∈ left, Known s x ∧ sameReturn r x.record = false) :
    (run.marking attempt result left).Faces s r input inPage := by
  cases left with
  | nil => exact faces_advance h hdry run.rest _ hready.conclude
  | cons record left => exact ⟨hleft, hready⟩

lemma Known.writes {id : Id} (h : Known s c) (hwrites : WritesRecord id s s') : Known s' c := by
  obtain ⟨x, hx, hsame⟩ := h
  obtain ⟨x', hx', hsame'⟩ := hwrites.identity.2 x hx
  exact ⟨x', hx', hsame'.id.trans hsame.id, hsame'.gid.trans hsame.gid,
    hsame'.returnId.trans hsame.returnId⟩

lemma Ready.writes {id : Id} {rest : List ReturnAutoCancelRecord}
    (h : Ready s r input inPage run rest) (hwrites : WritesRecord id s s') :
    Ready s' r input inPage run rest :=
  ⟨h.sameInput, fun c hc => (h.known c hc).writes hwrites, h.fresh, h.ahead⟩

end OneRun

/-! ### Its steps -/

section Steps

variable {shopify : Shopify} {input : RunInput} {s s' : ReturnStore} {r : ReturnRecord}
  {inPage : Prop}

/-- The run has not cancelled the return, which has not changed. -/
structure Untouched (shopify : Shopify) (input : RunInput) (r : ReturnRecord) (inPage : Prop)
    (rows : List ReturnRecord) (s : ReturnStore) (p : AutoCancelCall) : Prop where
  eligible : Eligible shopify input s r
  ids : KeyUnique ReturnRecord.id s.returnRecord
  rows : returnRows s r = rows
  faces : p.Faces s r input inPage

lemma idsOf_related_own (rows : List ReturnRecord) :
    idsOf (rows.map s.included) = rows.map ReturnRecord.id := by
  unfold idsOf
  rw [List.map_map]
  rfl

/-- Once its records are to be marked, the return will be cancelled. -/
lemma allPending_marking {rows : List ReturnRecord} (hrows : ∀ b ∈ rows, b ∈ s.returnRecord)
    (run : RunState) (attempt : AutoCancelAttempt) (result : AutoCancelResult) :
    AllPending (rows.map ReturnRecord.id) s
      (run.marking attempt result (rows.map s.included)) := by
  intro id hid
  obtain ⟨b, hb, rfl⟩ := List.mem_map.mp hid
  refine ⟨List.mem_map_of_mem (hrows b hb), Or.inr ⟨run.results.length, ?_⟩⟩
  refine awaitsMark_marking ?_
  rw [idsOf_related_own]
  exact hid

/-- A write of another return's record leaves the return as it is. -/
lemma Untouched.writes {rows : List ReturnRecord} {p q : AutoCancelCall} {id : Id}
    (h : Untouched shopify input r inPage rows s p) (hwrites : WritesRecord id s s')
    (hid : ∀ b ∈ returnRows s r, b.id ≠ id)
    (hfaces : Eligible shopify input s' r → q.Faces s' r input inPage) :
    Untouched shopify input r inPage rows s' q :=
  have heligible := h.eligible.writes hwrites hid
  ⟨heligible, hwrites.keyUnique h.ids, (hwrites.returnRows hid).trans h.rows, hfaces heligible⟩

lemma Untouched.next {rows : List ReturnRecord} {p q : AutoCancelCall}
    (h : Untouched shopify input r inPage rows s p) (hfaces : q.Faces s r input inPage) :
    Untouched shopify input r inPage rows s q :=
  ⟨h.eligible, h.ids, h.rows, hfaces⟩

lemma Untouched.mem_rows {rows : List ReturnRecord} {p : AutoCancelCall}
    (h : Untouched shopify input r inPage rows s p) : ∀ b ∈ rows, b ∈ s.returnRecord := by
  intro b hb
  rw [← h.rows] at hb
  exact (List.mem_filter.mp hb).1

/-- A step leaves the return as it is, or begins to mark its records. -/
lemma Untouched.step {rows : List ReturnRecord} {p q : AutoCancelCall} {answer : AutoCancelAnswer}
    (h : Untouched shopify input r inPage rows s p) (hdry : input.dryRun = false)
    (hanswer : shopify.Answers p answer) (hrun : p.run answer s = some (s', q)) :
    Untouched shopify input r inPage rows s' q ∨ AllPending (rows.map ReturnRecord.id) s' q := by
  have hfaces := h.faces
  cases run_steps hrun with
  | page => exact hfaces.elim
  | @related c gid run =>
      obtain ⟨⟨hinput, hknown, hbefore⟩, hgid⟩ := hfaces
      refine Or.inl (h.next ?_)
      unfold AutoCancelCall.afterRelated
      cases hown : sameReturn r c.record with
      | true =>
          have hskip : localSkip run (findRelatedReturnRecords s c) = none := by
            rw [localSkip_eq_none_iff, h.eligible.related_own hknown hown, hinput]
            intro y hy
            obtain ⟨b, hb, rfl⟩ := List.mem_map.mp hy
            exact h.eligible.mayCancel b hb
          rw [hskip]
          exact ⟨⟨hinput, hknown, Or.inl hown⟩, hgid, rfl⟩
      | false =>
          have hready := hbefore.resolve_left (by rw [hown]; exact Bool.false_ne_true)
          cases hskip : localSkip run (findRelatedReturnRecords s c) with
          | some skip => exact faces_stop hdry hknown hown hready ..
          | none => exact ⟨⟨hinput, hknown, Or.inr hready⟩, hgid, rfl⟩
  | @fetch c gid relatedRecords run state =>
      obtain ⟨⟨hinput, hknown, hbefore⟩, hgid, rfl⟩ := hfaces
      cases hown : sameReturn r c.record with
      | true =>
          obtain ⟨gid', hgid', ⟨state', hstate', hcancels⟩, -⟩ :=
            h.eligible.resolve_own hknown hown
          obtain rfl := Option.some.inj (hgid.symm.trans hgid')
          refine afterFetch_cases (P := fun q => Untouched shopify input r inPage rows s q ∨
            AllPending (rows.map ReturnRecord.id) s q) ?_ ?_ ?_ ?_
          · intro _ hdry'
            rw [hinput, hdry] at hdry'
            cases hdry'
          · intro attempt result _ _
            right
            rw [h.eligible.related_own hknown hown, h.rows]
            exact allPending_marking h.mem_rows run attempt result
          · intro _ _ _ _ _ hnot hskip
            rcases hanswer with hstate | hcancelled
            · rw [hstate'] at hstate
              obtain rfl := Option.some.inj hstate
              rw [hinput] at hskip
              exact (hskip hcancels).elim
            · rw [hcancelled] at hnot
              cases hnot
          · intro _ _ _
            exact Or.inl (h.next ⟨⟨hinput, hknown, Or.inl hown⟩, hgid, rfl⟩)
      | false =>
          have hready := hbefore.resolve_left (by rw [hown]; exact Bool.false_ne_true)
          refine Or.inl (h.next ?_)
          refine afterFetch_cases (P := fun q => q.Faces s r input inPage) ?_ ?_ ?_ ?_
          · exact fun _ _ => faces_advance h.eligible hdry _ _ hready.conclude
          · exact fun _ _ _ _ =>
              faces_marking h.eligible hdry hready _ _ (h.eligible.related_other hknown hown)
          · exact fun _ _ _ _ _ _ _ => faces_stop hdry hknown hown hready ..
          · exact fun _ _ _ => ⟨⟨hinput, hknown, Or.inr hready⟩, hgid, rfl⟩
  | @fetchThrown c gid relatedRecords run message =>
      obtain ⟨⟨hinput, hknown, hbefore⟩, hgid, rfl⟩ := hfaces
      cases hown : sameReturn r c.record with
      | true =>
          obtain ⟨gid', hgid', ⟨state', hstate', -⟩, -⟩ := h.eligible.resolve_own hknown hown
          obtain rfl := Option.some.inj (hgid.symm.trans hgid')
          change shopify.state gid = none at hanswer
          rw [hstate'] at hanswer
          cases hanswer
      | false =>
          have hready := hbefore.resolve_left (by rw [hown]; exact Bool.false_ne_true)
          exact Or.inl (h.next (faces_stop hdry hknown hown hready ..))
  | @cancel c gid relatedRecords canonicalStatus run result =>
      obtain ⟨⟨hinput, hknown, hbefore⟩, hgid, rfl⟩ := hfaces
      cases hown : sameReturn r c.record with
      | true =>
          obtain ⟨gid', hgid', -, result', hresult', hcancelled⟩ :=
            h.eligible.resolve_own hknown hown
          obtain rfl := Option.some.inj (hgid.symm.trans hgid')
          change shopify.cancel gid = some result at hanswer
          rw [hresult'] at hanswer
          obtain rfl := Option.some.inj hanswer
          refine Or.inr (afterCancel_cases (P := AllPending (rows.map ReturnRecord.id) s) ?_ ?_)
          · intro attempt concluded _
            rw [h.eligible.related_own hknown hown, h.rows]
            exact allPending_marking h.mem_rows run attempt concluded
          · intro _ _ _ _ _ hnot
            rw [hcancelled] at hnot
            cases hnot
      | false =>
          have hready := hbefore.resolve_left (by rw [hown]; exact Bool.false_ne_true)
          refine Or.inl (h.next ?_)
          refine afterCancel_cases (P := fun q => q.Faces s r input inPage) ?_ ?_
          · exact fun _ _ _ =>
              faces_marking h.eligible hdry hready _ _ (h.eligible.related_other hknown hown)
          · exact fun _ _ _ _ _ _ => faces_stop hdry hknown hown hready ..
  | @cancelThrown c gid relatedRecords canonicalStatus run message =>
      obtain ⟨⟨hinput, hknown, hbefore⟩, hgid, rfl⟩ := hfaces
      cases hown : sameReturn r c.record with
      | true =>
          obtain ⟨gid', hgid', -, result', hresult', -⟩ := h.eligible.resolve_own hknown hown
          obtain rfl := Option.some.inj (hgid.symm.trans hgid')
          change shopify.cancel gid = none at hanswer
          rw [hresult'] at hanswer
          cases hanswer
      | false =>
          have hready := hbefore.resolve_left (by rw [hown]; exact Bool.false_ne_true)
          exact Or.inl (h.next (faces_stop hdry hknown hown hready ..))
  | @persist c attempt result run =>
      obtain ⟨hknown, hother, hready⟩ := hfaces
      have hwrites := writesRecord_persist c attempt s
      refine Or.inl (h.writes hwrites (hknown.ne_id h.ids hother) fun heligible => ?_)
      exact faces_advance heligible hdry _ _ (hready.writes hwrites).conclude
  | @mark record left attempt result run =>
      obtain ⟨hleft, hready⟩ := hfaces
      have hwrites := writesRecord_mark record attempt s
      obtain ⟨hknown, hother⟩ := hleft record List.mem_cons_self
      refine Or.inl (h.writes hwrites (hknown.ne_id h.ids hother) fun heligible => ?_)
      refine faces_marking heligible hdry (hready.writes hwrites) _ _ fun x hx => ?_
      obtain ⟨hknown', hother'⟩ := hleft x (List.mem_cons_of_mem _ hx)
      exact ⟨hknown'.writes hwrites, hother'⟩

/-- A step keeps the records cancelled or about to be marked. -/
lemma AllPending.step {ids : List Id} {p q : AutoCancelCall} {answer : AutoCancelAnswer}
    (h : AllPending ids s p) (hrun : p.run answer s = some (s', q)) : AllPending ids s' q := by
  intro id hid
  obtain ⟨hmem, hpending⟩ := h id hid
  have hwrites := run_writes hrun
  have hmem' : id ∈ s'.returnRecord.map ReturnRecord.id := by
    rcases hwrites with rfl | hwrites
    · exact hmem
    · rw [hwrites.ids]
      exact hmem
  refine ⟨hmem', ?_⟩
  rcases hpending with hcancelled | ⟨concluded, hawaits⟩
  · rcases hwrites with rfl | hwrites
    · exact Or.inl hcancelled
    · exact Or.inl (hcancelled.writes hwrites)
  · rcases markPending_run hmem hawaits hrun with hcancelled | hawaits'
    · exact Or.inl hcancelled
    · exact Or.inr ⟨concluded, hawaits'⟩

/-- At the end of a run the records are cancelled. -/
lemma AllPending.runsTo {ids : List Id} {p : AutoCancelCall} {run : RunState}
    (hrun : RunsTo shopify s p s' run) (h : AllPending ids s p) :
    ∀ id ∈ ids, RecordCancelled s' id := by
  induction hrun with
  | ended =>
      intro id hid
      obtain ⟨-, hcancelled | ⟨_, hawaits⟩⟩ := h id hid
      · exact hcancelled
      · exact hawaits.elim
  | step _ hstep _ ih => exact ih (h.step hstep)

/-- A run that takes a candidate of an eligible return cancels the return. -/
lemma Untouched.runsTo {rows : List ReturnRecord} {p : AutoCancelCall} {run : RunState}
    (hdry : input.dryRun = false) (hrun : RunsTo shopify s p s' run)
    (h : Untouched shopify input r inPage rows s p) :
    (¬inPage ∧ Eligible shopify input s' r ∧ returnRows s' r = rows) ∨
      ∀ id ∈ rows.map ReturnRecord.id, RecordCancelled s' id := by
  induction hrun with
  | ended => exact Or.inl ⟨h.faces, h.eligible, h.rows⟩
  | step hanswer hstep hrest ih =>
      rcases h.step hdry hanswer hstep with hnext | hpending
      · exact ih hnext
      · exact Or.inr (hpending.runsTo hrest)

end Steps

/-! ## Repeated runs -/

section Repeats

variable {shopify : Shopify} {input : RunInput} {s s' : ReturnStore} {r : ReturnRecord}

lemma RunsTo.ids {p : AutoCancelCall} {run : RunState} (h : RunsTo shopify s p s' run) :
    s'.returnRecord.map ReturnRecord.id = s.returnRecord.map ReturnRecord.id := by
  induction h with
  | ended => rfl
  | step _ hstep _ ih =>
      rw [ih]
      rcases run_writes hstep with rfl | hwrites
      · rfl
      · exact hwrites.ids

/-- A run writes no refunds. -/
lemma RunsTo.included {p : AutoCancelCall} {run : RunState} (h : RunsTo shopify s p s' run)
    (b : ReturnRecord) : s'.included b = s.included b := by
  induction h with
  | ended => rfl
  | step _ hstep _ ih =>
      have hkeeps := run_keepsFacts hstep
      rw [ih]
      unfold ReturnStore.included
      rw [hkeeps.refundRecord, hkeeps.refundEntries]

lemma RunsTo.recordCancelled {p : AutoCancelCall} {run : RunState} {id : Id}
    (h : RunsTo shopify s p s' run) (hcancelled : RecordCancelled s id) :
    RecordCancelled s' id := by
  induction h with
  | ended => exact hcancelled
  | step _ hstep _ ih =>
      refine ih ?_
      rcases run_writes hstep with rfl | hwrites
      · exact hcancelled
      · exact hcancelled.writes hwrites

/-- The first step of a run reads a page. -/
lemma CompleteRun.page (h : CompleteRun shopify input s s') :
    ∃ rows run, IsPage input s.returnRecord rows ∧
      RunsTo shopify s (RunState.advance ⟨input, [], [], []⟩ (rows.map s.included)) s' run := by
  obtain ⟨run, hrun⟩ := h
  cases hrun with
  | step _ hstep hrest =>
      cases run_steps hstep with
      | page hpage => exact ⟨_, run, hpage, hrest⟩

/-- A run cancels an eligible return or leaves it as it is, and the latter only if it was not in
the page. -/
lemma Eligible.runsTo (h : Eligible shopify input s r) (hdry : input.dryRun = false)
    (hids : KeyUnique ReturnRecord.id s.returnRecord) {rows : List ReturnRecord} {run : RunState}
    (hpage : IsPage input s.returnRecord rows)
    (hrun : RunsTo shopify s (RunState.advance ⟨input, [], [], []⟩ (rows.map s.included)) s' run) :
    (r ∉ rows ∧ Eligible shopify input s' r ∧ returnRows s' r = returnRows s r) ∨
      ∀ b ∈ returnRows s r, RecordCancelled s' b.id := by
  have hready : Ready s r input (r ∈ rows) ⟨input, [], [], []⟩ (rows.map s.included) := by
    refine ⟨rfl, fun c hc => ?_, fun _ _ hmem => (List.not_mem_nil hmem).elim, fun hr => ?_⟩
    · obtain ⟨x, hx, rfl⟩ := List.mem_map.mp hc
      exact ⟨x, (hpage.candidates x hx).1, rfl, rfl, rfl⟩
    · exact ⟨s.included r, List.mem_map_of_mem hr, rfl⟩
  have hbegin : Untouched shopify input r (r ∈ rows) (returnRows s r) s
      (RunState.advance ⟨input, [], [], []⟩ (rows.map s.included)) :=
    ⟨h, hids, rfl, faces_advance h hdry _ _ hready⟩
  rcases hbegin.runsTo hdry hrun with huntouched | hcancelled
  · exact Or.inl huntouched
  · exact Or.inr fun b hb => hcancelled b.id (List.mem_map_of_mem hb)

/-- If not all places of the page are taken, some eligible candidate is in it. -/
lemma NotCrowded.eligible_mem (hcrowd : NotCrowded shopify input s)
    (h : Eligible shopify input s r) {rows : List ReturnRecord}
    (hpage : IsPage input s.returnRecord rows) : ∃ b ∈ rows, Eligible shopify input s b := by
  obtain ⟨stuck, hlength, hstuck⟩ := hcrowd
  by_cases hall : (s.returnRecord.filter (isCandidate input)).length ≤ input.limit
  · refine ⟨r, ?_, h⟩
    -- the page has all candidates
    have hlen : rows.length = (s.returnRecord.filter (isCandidate input)).length := by
      rw [hpage.length, Nat.min_eq_right hall]
    have hsub : rows ⊆ s.returnRecord.filter (isCandidate input) :=
      fun x hx => List.mem_filter.mpr (hpage.candidates x hx)
    have hperm := (List.subperm_of_subset hpage.nodup hsub).perm_of_length_le (by omega)
    exact hperm.mem_iff.mpr (List.mem_filter.mpr ⟨h.mem, h.candidate⟩)
  · by_contra hnone
    have hsub : rows ⊆ stuck := by
      intro x hx
      obtain ⟨hmem, hcandidate⟩ := hpage.candidates x hx
      rcases hstuck x hmem hcandidate with heligible | hx'
      · exact (hnone ⟨x, hx, heligible⟩).elim
      · exact hx'
    have hle := (List.subperm_of_subset hpage.nodup hsub).length_le
    rw [hpage.length] at hle
    omega

/-- The records that are not cancelled. -/
def openIds (s : ReturnStore) : Finset Id :=
  ((s.returnRecord.filter fun r =>
    !(r.returnLifecycleStatus == some "cancelled" && r.status == "cancelled")).map
      ReturnRecord.id).toFinset

lemma mem_openIds {id : Id} :
    id ∈ openIds s ↔ id ∈ s.returnRecord.map ReturnRecord.id ∧ ¬RecordCancelled s id := by
  simp only [openIds, List.mem_toFinset, List.mem_map, List.mem_filter, Bool.not_eq_true',
    Bool.and_eq_false_iff, beq_eq_false_iff_ne]
  constructor
  · rintro ⟨r, ⟨hr, hopen⟩, rfl⟩
    refine ⟨⟨r, hr, rfl⟩, fun hcancelled => ?_⟩
    obtain ⟨hlifecycle, hstatus⟩ := hcancelled.2 r hr rfl
    rcases hopen with hne | hne
    · exact hne hlifecycle
    · exact hne hstatus
  · rintro ⟨hid, hopen⟩
    by_contra hnone
    refine hopen ⟨List.mem_map.mpr hid, fun r hr hrid => ?_⟩
    by_contra hnot
    refine hnone ⟨r, ⟨hr, ?_⟩, hrid⟩
    by_cases hlifecycle : r.returnLifecycleStatus = some "cancelled"
    · exact Or.inr fun hstatus => hnot ⟨hlifecycle, hstatus⟩
    · exact Or.inl hlifecycle

lemma RunsTo.openIds_subset {p : AutoCancelCall} {run : RunState}
    (h : RunsTo shopify s p s' run) : openIds s' ⊆ openIds s := by
  intro id hid
  obtain ⟨hmem, hopen⟩ := mem_openIds.mp hid
  rw [h.ids] at hmem
  exact mem_openIds.mpr ⟨hmem, fun hcancelled => hopen (h.recordCancelled hcancelled)⟩

/-- A candidate is not cancelled. -/
lemma candidate_open (hr : r ∈ s.returnRecord) (h : isCandidate input r = true) :
    r.id ∈ openIds s := by
  refine mem_openIds.mpr ⟨List.mem_map_of_mem hr, fun hcancelled => ?_⟩
  obtain ⟨hlifecycle, hstatus⟩ := hcancelled.2 r hr rfl
  unfold isCandidate at h
  simp [hlifecycle, hstatus] at h

/-- A run that is not crowded cancels a record if some return is eligible. -/
lemma openIds_card_lt (h : Eligible shopify input s r) (hdry : input.dryRun = false)
    (hids : KeyUnique ReturnRecord.id s.returnRecord) (hcrowd : NotCrowded shopify input s)
    {rows : List ReturnRecord} {run : RunState} (hpage : IsPage input s.returnRecord rows)
    (hrun : RunsTo shopify s (RunState.advance ⟨input, [], [], []⟩ (rows.map s.included)) s' run) :
    (openIds s').card < (openIds s).card := by
  obtain ⟨b, hb, heligible⟩ := hcrowd.eligible_mem h hpage
  refine Finset.card_lt_card ⟨hrun.openIds_subset, fun hsub => ?_⟩
  have hopen := hsub (candidate_open heligible.mem heligible.candidate)
  rcases heligible.runsTo hdry hids hpage hrun with ⟨hnot, -⟩ | hcancelled
  · exact hnot hb
  · exact (mem_openIds.mp hopen).2 (hcancelled b heligible.mem_returnRows)

/-- Time does not change a return. -/
lemma Eligible.clock (h : Eligible shopify input s r) (clock : Instant) :
    Eligible shopify input { s with clock := clock } r :=
  ⟨h.mem, h.candidate, h.identified, h.whole, h.key, h.mayCancel, h.cancels⟩

lemma Repeats.recordCancelled {ok : RunInput → ReturnStore → Prop} {inputs : List RunInput}
    {id : Id} (h : Repeats shopify ok inputs s s') (hcancelled : RecordCancelled s id) :
    RecordCancelled s' id := by
  induction h with
  | nil => exact hcancelled
  | cons _ hrun _ ih =>
      obtain ⟨run, hrun⟩ := hrun
      exact ih (hrun.recordCancelled hcancelled)

/-- The runs come after the input, with its policy. -/
def FollowsInput (input : RunInput) (inputs : List RunInput) : Prop :=
  ∀ i ∈ inputs, i.dryRun = false ∧ i.autoCancelDays = input.autoCancelDays ∧ input.now ≤ i.now

/-- Each of the runs cancels the return or another record. -/
lemma Eligible.repeats (h : Eligible shopify input s r) (hdry : input.dryRun = false)
    (hids : KeyUnique ReturnRecord.id s.returnRecord) {inputs : List RunInput}
    (hinputs : FollowsInput input inputs)
    (hruns : Repeats shopify (NotCrowded shopify) inputs s s') :
    (∀ b ∈ returnRows s r, RecordCancelled s' b.id) ∨
      (r.id ∈ openIds s' ∧ (openIds s').card + inputs.length ≤ (openIds s).card) := by
  induction hruns with
  | nil => exact Or.inr ⟨candidate_open h.mem h.candidate, le_rfl⟩
  | @cons i inputs s s₁ s' clock hcrowd hrun hrest ih =>
      obtain ⟨hidry, hdays, hnow⟩ := hinputs i List.mem_cons_self
      have hi := h.later (hidry.trans hdry.symm) hdays hnow
      obtain ⟨rows, run, hpage, hrun⟩ := hrun.page
      have hcard := openIds_card_lt hi hidry hids hcrowd hpage hrun
      have hids₁ : KeyUnique ReturnRecord.id s₁.returnRecord := by
        unfold KeyUnique
        rw [hrun.ids]
        exact hids
      rcases hi.runsTo hidry hids hpage hrun with ⟨-, heligible, hrows⟩ | hcancelled
      · have h₁ : Eligible shopify input s₁ r :=
          ⟨heligible.mem, h.candidate, h.identified, heligible.whole, heligible.key, by
            intro b hb
            rw [hrows] at hb
            have hsame : s₁.included b = s.included b := hrun.included b
            rw [hsame]
            exact h.mayCancel b hb, by
            intro b hb
            rw [hrows] at hb
            exact h.cancels b hb⟩
        rcases ih (h₁.clock clock) hids₁ (fun j hj => hinputs j (List.mem_cons_of_mem _ hj)) with
          hdone | ⟨hopen, hle⟩
        · left
          intro b hb
          rw [← hrows] at hb
          exact hdone b hb
        · right
          refine ⟨hopen, ?_⟩
          have hclock : openIds { s₁ with clock := clock } = openIds s₁ := rfl
          rw [hclock] at hle
          rw [List.length_cons]
          omega
      · left
        intro b hb
        exact hrest.recordCancelled (hcancelled b hb)

end Repeats

/-! ## A run comes to its end -/

section Ends

variable {shopify : Shopify} {input : RunInput} {s : ReturnStore}

def Ends (shopify : Shopify) (s : ReturnStore) (p : AutoCancelCall) : Prop :=
  ∃ s' run, RunsTo shopify s p s' run

lemma Ends.step {s₁ : ReturnStore} {p q : AutoCancelCall} {answer : AutoCancelAnswer}
    (hanswer : shopify.Answers p answer) (hstep : p.run answer s = some (s₁, q))
    (h : Ends shopify s₁ q) : Ends shopify s p := by
  obtain ⟨s', run, hrun⟩ := h
  exact ⟨s', run, .step hanswer hstep hrun⟩

/-- Whatever happened before, a run with these candidates left ends. -/
def EndsFrom (shopify : Shopify) (rest : List ReturnAutoCancelRecord) : Prop :=
  ∀ s run, Ends shopify s (RunState.advance run rest)

section Candidate

variable {run : RunState} (h : EndsFrom shopify run.rest)
include h

lemma ends_persist (candidate : ReturnAutoCancelRecord) (attempt : AutoCancelAttempt)
    (result : AutoCancelResult) : Ends shopify s (.persist candidate attempt result run) :=
  @Ends.step _ _ _ _ _ .done trivial rfl (h _ _)

lemma ends_stop (candidate : ReturnAutoCancelRecord) (gid : String) (status : AutoCancelStatus)
    (reason : String) (affected : List Id) (canonicalStatus : Option String)
    (details : AutoCancelDetails) :
    Ends shopify s (run.stop candidate gid status reason affected canonicalStatus details) := by
  unfold RunState.stop
  dsimp only
  split
  · exact h s _
  · exact ends_persist h ..

lemma ends_marking (attempt : AutoCancelAttempt) (result : AutoCancelResult)
    (left : List ReturnAutoCancelRecord) : Ends shopify s (run.marking attempt result left) := by
  induction left generalizing s with
  | nil => exact h s _
  | cons record left ih => exact @Ends.step _ _ _ _ _ .done trivial rfl ih

lemma ends_cancel (candidate : ReturnAutoCancelRecord) (gid : String)
    (relatedRecords : List ReturnAutoCancelRecord) (canonicalStatus : String) :
    Ends shopify s (.cancel candidate gid relatedRecords canonicalStatus run) := by
  cases hresult : shopify.cancel gid with
  | none => exact @Ends.step _ _ _ _ _ (.thrown "") hresult rfl (ends_stop h ..)
  | some result =>
      refine @Ends.step _ _ _ _ _ (.cancelled result) hresult rfl ?_
      refine afterCancel_cases (P := Ends shopify s) ?_ ?_
      · exact fun _ _ _ => ends_marking h ..
      · exact fun _ _ _ _ _ _ => ends_stop h ..

lemma ends_fetch (candidate : ReturnAutoCancelRecord) (gid : String)
    (relatedRecords : List ReturnAutoCancelRecord) :
    Ends shopify s (.fetch candidate gid relatedRecords run) := by
  cases hstate : shopify.state gid with
  | none => exact @Ends.step _ _ _ _ _ (.thrown "") hstate rfl (ends_stop h ..)
  | some state =>
      refine @Ends.step _ _ _ _ _ (.state state) (Or.inl hstate) rfl ?_
      refine afterFetch_cases (P := Ends shopify s) ?_ ?_ ?_ ?_
      · exact fun _ _ => h s _
      · exact fun _ _ _ _ => ends_marking h ..
      · exact fun _ _ _ _ _ _ _ => ends_stop h ..
      · exact fun _ _ _ => ends_cancel h ..

lemma ends_related (candidate : ReturnAutoCancelRecord) (gid : String) :
    Ends shopify s (.related candidate gid run) := by
  refine @Ends.step _ _ _ _ _ .done trivial rfl ?_
  unfold AutoCancelCall.afterRelated
  split
  · exact ends_stop h ..
  · exact ends_fetch h ..

end Candidate

lemma endsFrom (rest : List ReturnAutoCancelRecord) : EndsFrom shopify rest := by
  induction rest with
  | nil => exact fun s run => ⟨s, _, .ended⟩
  | cons candidate rest ih =>
      intro s run
      unfold RunState.advance
      dsimp only
      split
      · exact ih s run
      · split
        · exact @ends_related shopify s { run with rest := rest, processedReturnKeys := _ } ih ..
        · split
          · exact ih s _
          · exact @ends_persist shopify s { run with rest := rest, processedReturnKeys := _ } ih ..

lemma before_trans {a b c : ReturnRecord} (hab : before b a = false) (hbc : before c b = false) :
    before c a = false := by
  unfold before at hab hbc ⊢
  cases hc : c.requestUpdatedAt with
  | none => rfl
  | some z =>
      rw [hc] at hbc
      cases hb : b.requestUpdatedAt with
      | none =>
          rw [hb] at hbc
          cases hbc
      | some y =>
          rw [hb] at hab hbc
          cases ha : a.requestUpdatedAt with
          | none =>
              rw [ha] at hab
              cases hab
          | some x =>
              rw [ha] at hab
              have hxy : x ≤ y := by simpa using hab
              have hyz : y ≤ z := by simpa using hbc
              simpa using hxy.trans hyz

lemma before_total (a b : ReturnRecord) : (!before b a || !before a b) = true := by
  unfold before
  cases ha : a.requestUpdatedAt <;> cases hb : b.requestUpdatedAt <;>
    simp only [Bool.not_false, Bool.not_true, Bool.or_true, Bool.or_false]
  rename_i x y
  rcases le_total x y with hle | hle
  · simp [not_lt.mpr hle]
  · simp [not_lt.mpr hle]

/-- The query has an answer. -/
lemma exists_page (input : RunInput) (hids : KeyUnique ReturnRecord.id s.returnRecord) :
    ∃ rows, IsPage input s.returnRecord rows := by
  have hperm := List.mergeSort_perm (s.returnRecord.filter (isCandidate input))
    fun a b => !before b a
  have hsorted : (List.mergeSort (s.returnRecord.filter (isCandidate input))
      fun a b => !before b a).Pairwise fun a b => before b a = false := by
    refine (List.pairwise_mergeSort ?_ before_total _).imp fun {a b} hab => ?_
    · intro a b c hab hbc
      rw [Bool.not_eq_true'] at hab hbc ⊢
      exact before_trans hab hbc
    · rwa [Bool.not_eq_true'] at hab
  generalize List.mergeSort (s.returnRecord.filter (isCandidate input)) (fun a b => !before b a) =
    sorted at hperm hsorted
  have hnodup : sorted.Nodup :=
    hperm.nodup_iff.mpr ((List.Nodup.of_map _ hids).filter _)
  refine ⟨sorted.take input.limit, (List.take_sublist _ _).nodup hnodup, fun r hr => ?_,
    hsorted.sublist (List.take_sublist _ _), ?_, fun r hr hcandidate hnot a ha => ?_⟩
  · exact List.mem_filter.mp (hperm.mem_iff.mp (List.mem_of_mem_take hr))
  · rw [List.length_take, hperm.length_eq]
  · have hmem := hperm.mem_iff.mpr (List.mem_filter.mpr ⟨hr, hcandidate⟩)
    rw [← List.take_append_drop input.limit sorted] at hmem hsorted
    rcases List.mem_append.mp hmem with htake | hdrop
    · exact (hnot htake).elim
    · exact (List.pairwise_append.mp hsorted).2.2 a ha r hdrop

/-- A run that is left alone comes to its end. -/
theorem exists_completeRun (shopify : Shopify) (input : RunInput)
    (hids : KeyUnique ReturnRecord.id s.returnRecord) : ∃ s', CompleteRun shopify input s s' := by
  obtain ⟨rows, hpage⟩ := exists_page input hids
  obtain ⟨s', run, hrun⟩ := @endsFrom shopify (rows.map s.included) s ⟨input, [], [], []⟩
  refine ⟨s', run, @RunsTo.step _ _ _ _ _ _ (.rows rows) run trivial ?_ hrun⟩
  unfold AutoCancelCall.run
  dsimp only
  rw [if_pos hpage]

end Ends

/-- After as many runs as there are records, an eligible return is cancelled, if no run was
crowded. -/
theorem recordCancelled_of_repeats {shopify : Shopify} {input : RunInput} {s s' : ReturnStore}
    {r : ReturnRecord} (h : Eligible shopify input s r) (hdry : input.dryRun = false)
    (hids : KeyUnique ReturnRecord.id s.returnRecord) {inputs : List RunInput}
    (hinputs : FollowsInput input inputs) (hlength : s.returnRecord.length ≤ inputs.length)
    (hruns : Repeats shopify (NotCrowded shopify) inputs s s') :
    ∀ b ∈ returnRows s r, RecordCancelled s' b.id := by
  rcases h.repeats hdry hids hinputs hruns with hdone | ⟨hopen, hcard⟩
  · exact hdone
  · exfalso
    have hpos := Finset.card_pos.mpr ⟨_, hopen⟩
    have hle : (openIds s).card ≤ s.returnRecord.length := by
      refine (List.toFinset_card_le _).trans ?_
      rw [List.length_map]
      exact List.length_filter_le _ _
    omega

/-- **The auto-cancel.**  A return is cancelled only if, when its records were read last, each of
them was cancelled already or abandoned.  After the cancellation its records are cancelled, unless
somebody else has written them.  A run leaves what others record, and repeated runs reach every
eligible return as long as fewer than `limit` candidates are not eligible. -/
theorem autoCancel_sound :
    (∀ w, AutoCancelReaches w → ∀ i candidate gid relatedRecords canonicalStatus run,
      w.process i = some (.cancel candidate gid relatedRecords canonicalStatus run) →
        WasRead w i candidate gid relatedRecords run ∧ run.input.dryRun = false) ∧
    (∀ w, AutoCancelReaches w → ∀ i candidate gid relatedRecords canonicalStatus run result w₁,
      w.process i = some (.cancel candidate gid relatedRecords canonicalStatus run) →
      isCancelledResult result = true →
      autoCancelRuns.step (.run i (.cancelled result)) w = .ok w₁ →
        ∀ id ∈ idsOf relatedRecords, ∀ w' p, LaterLeaving id w₁ w' → w'.process i = some p →
          run.results.length < p.results.length → RecordCancelled w'.shared id) ∧
    (∀ w w' i answer, autoCancelRuns.step (.run i answer) w = .ok w' →
      StoreKeepsFacts w.shared w'.shared) ∧
    ∀ shopify input s r, KeyUnique ReturnRecord.id s.returnRecord → input.dryRun = false →
      Eligible shopify input s r → ∀ inputs s', FollowsInput input inputs →
        s.returnRecord.length ≤ inputs.length →
          Repeats shopify (NotCrowded shopify) inputs s s' →
            ∀ b ∈ returnRows s r, RecordCancelled s' b.id := by
  refine ⟨?_, ?_, ?_, ?_⟩
  · intro w hw i candidate gid relatedRecords canonicalStatus run hp
    exact restsOn_of_reaches hw i _ hp
  · intro w hw i candidate gid relatedRecords canonicalStatus run result w₁ hp hresult hstep id hid
      w' p hlater hp' hconcluded
    exact recordCancelled_of_cancel hw hp hresult hstep hid hlater hp' hconcluded
  · intro w w' i answer hstep
    exact run_step_keepsFacts hstep
  · intro shopify input s r hids hdry heligible inputs s' hinputs hlength hruns
    exact recordCancelled_of_repeats heligible hdry hids hinputs hlength hruns

/-! ## Sample returns -/

section Sample

def sampleReturn (id allocation : Id) (gid returnId status : String) (at_ : Instant) :
    ReturnRecord where
  id := id
  vendorAllocationId := allocation
  sourceShopifyRefundId := none
  sourceShopifyReturnId := some returnId
  sourceShopifyReturnGid := some gid
  returnLifecycleStatus := some status
  returnRequestSource := some "shopify_return_request"
  requestUpdatedAt := some at_
  status := status
  returnProviderShipmentId := none
  returnTrackingNumber := none
  returnLabel := none
  returnProviderSnapshot := []
  vendorReceivedAt := none
  vendorDecision := none
  createdAt := 0
  updatedAt := at_

/-- A return of two records. -/
def sampleFirst : ReturnRecord :=
  sampleReturn 1 1 "gid://shopify/Return/1" "1" "approved" 0

/-- Its other record is cancelled already. -/
def sampleSibling : ReturnRecord :=
  sampleReturn 2 2 "gid://shopify/Return/1" "1" "cancelled" 0

/-- Another return, approved a moment later. -/
def sampleSecond : ReturnRecord :=
  sampleReturn 3 3 "gid://shopify/Return/2" "2" "approved" 1

def sampleInput (now : Instant) : RunInput := ⟨now, 14, 1, false⟩

/-- Twenty days. -/
def sampleNow : Instant := 1728000000

def sampleOpen : ShopifyReturnCancellationState where
  status := "OPEN"
  requestApprovedAt := some 0
  refundIds := []
  transactionIds := []
  reverseFulfillmentOrders := []

def sampleCancelled : CancelShopifyReturnResult := ⟨some "CANCELED", []⟩

def sampleShopify : Shopify := ⟨fun _ => some sampleOpen, fun _ => some sampleCancelled⟩

/-- The refund of the cancelled record's allocation. -/
def sampleReturnStore : ReturnStore := ⟨[sampleFirst, sampleSibling], [⟨2, "9"⟩], [2], sampleNow⟩

/-- A run up to the call of `cancelReturn`. -/
def sampleCalls : List AutoCancelMove :=
  [.start 0 (sampleInput sampleNow), .run 0 (.rows [sampleFirst]), .run 0 .done,
    .run 0 (.state sampleOpen)]

/-- What a run that is about to cancel a return has read of it. -/
def AutoCancelCall.toCancel : AutoCancelCall → Option (List ReturnAutoCancelRecord)
  | .cancel _ _ relatedRecords _ _ => some relatedRecords
  | _ => none

lemma AutoCancelCall.toCancel_eq_some {p : AutoCancelCall}
    {relatedRecords : List ReturnAutoCancelRecord} (h : p.toCancel = some relatedRecords) :
    ∃ candidate gid canonicalStatus run,
      p = .cancel candidate gid relatedRecords canonicalStatus run := by
  cases p with
  | cancel =>
      obtain rfl := Option.some.inj h
      exact ⟨_, _, _, _, rfl⟩
  | _ => cases h

/-- The snapshot of the record still has the shipment. -/
def hasShipped (s : ReturnStore) (id : Id) : Bool :=
  s.returnRecord.any fun r => r.id == id &&
    r.returnProviderSnapshot.lookup "kargonomiReturnShipmentSucceeded" == some (.flag true)

lemma sampleCalls_run : Succeeds (runActions autoCancelRuns.step sampleCalls
    (World.init sampleReturnStore)) fun w => ∃ p ∈ w.process 0, ∃ relatedRecords ∈ p.toCancel,
      ∃ r ∈ relatedRecords, r.refundRecords ≠ [] := by
  decide +kernel

instance (id : Id) (w : AutoCancelWorld) : DecidablePred (LeavesRecord id w) := fun m => by
  unfold LeavesRecord
  split <;> infer_instance

lemma eligible_second {s : ReturnStore} {now : Instant} (hnow : sampleNow ≤ now)
    (hrows : returnRows s sampleSecond = [sampleSecond])
    (hkeys : ∀ c ∈ s.returnRecord, getShopifyReturnKey c = getShopifyReturnKey sampleSecond →
      sameReturn sampleSecond c = true)
    (hincluded : s.included sampleSecond = ⟨sampleSecond, [], []⟩) :
    Eligible sampleShopify (sampleInput now) s sampleSecond := by
  have hmem : sampleSecond ∈ returnRows s sampleSecond := by
    rw [hrows]
    exact List.mem_singleton_self _
  have hfirst : Eligible sampleShopify (sampleInput sampleNow) s sampleSecond := by
    refine ⟨(List.mem_filter.mp hmem).1, by decide +kernel, by decide +kernel, ?_, hkeys, ?_, ?_⟩
    · intro b hb c _
      rw [hrows, List.mem_singleton] at hb
      rw [hb]
    · intro b hb
      rw [hrows, List.mem_singleton] at hb
      rw [hb, hincluded]
      exact getLocalSkipReason_eq_none_iff.mp (by decide +kernel)
    · intro b hb
      rw [hrows, List.mem_singleton] at hb
      rw [hb]
      exact ⟨"gid://shopify/Return/2", by decide +kernel,
        ⟨sampleOpen, rfl, by decide +kernel⟩, sampleCancelled, rfl, by decide +kernel⟩
  exact hfirst.later rfl rfl hnow

/-- The witness: a run cancels the return of `sampleFirst`, and another one that of
`sampleSecond`. -/
theorem autoCancel_sound_sample : ∃ (w w₁ w' : AutoCancelWorld) (s' : ReturnStore),
    (∃ candidate gid relatedRecords run,
      WasRead w 0 candidate gid relatedRecords run ∧ run.input.dryRun = false) ∧
    StoreKeepsFacts w.shared w₁.shared ∧ RecordCancelled w'.shared 1 ∧
    CompleteRun sampleShopify (sampleInput sampleNow) ⟨[sampleSecond], [], [], sampleNow⟩ s' ∧
    RecordCancelled s' 3 := by
  have hrun : Succeeds (runActions autoCancelRuns.step sampleCalls
      (World.init sampleReturnStore)) fun w => (∃ p ∈ w.process 0, ∃ relatedRecords ∈ p.toCancel,
        1 ∈ idsOf relatedRecords ∧ p.results = []) ∧
          Succeeds (autoCancelRuns.step (.run 0 (.cancelled sampleCancelled)) w) fun w₁ =>
            Succeeds (runActions (guarded (LeavesRecord 1) () autoCancelRuns.step)
              [.run 0 .done, .run 0 .done] w₁) fun w' =>
                ∃ p ∈ w'.process 0, 0 < p.results.length := by
    decide +kernel
  obtain ⟨w, hw, ⟨p, hp, relatedRecords, hcancel, hmem, hresults⟩, hstep⟩ := succeeds_iff.mp hrun
  obtain ⟨w₁, hw₁, hmarks⟩ := succeeds_iff.mp hstep
  obtain ⟨w', hw', p', hp', hconcluded⟩ := succeeds_iff.mp hmarks
  obtain ⟨candidate, gid, canonicalStatus, run, rfl⟩ := AutoCancelCall.toCancel_eq_some hcancel
  have hreach : AutoCancelReaches w :=
    reachable_of_runActions (.start ⟨_, trivial, rfl⟩) (fun _ _ _ => trivial) hw
  have hlater : LaterLeaving 1 w₁ w' := reachable_of_runGuarded (.start rfl) hw'
  have hlength : run.results.length < p'.results.length := by
    change run.results = [] at hresults
    rw [hresults]
    exact hconcluded
  have hids : KeyUnique ReturnRecord.id [sampleSecond] := List.nodup_singleton _
  have heligible : Eligible sampleShopify (sampleInput sampleNow)
      ⟨[sampleSecond], [], [], sampleNow⟩ sampleSecond :=
    eligible_second le_rfl (by decide +kernel) (by decide +kernel) rfl
  obtain ⟨s', hs'⟩ := @exists_completeRun ⟨[sampleSecond], [], [], sampleNow⟩ sampleShopify
    (sampleInput sampleNow) hids
  have hcrowd : NotCrowded sampleShopify (sampleInput sampleNow)
      ⟨[sampleSecond], [], [], sampleNow⟩ := by
    refine ⟨[], by decide, fun r hr _ => Or.inl ?_⟩
    rw [List.mem_singleton.mp hr]
    exact heligible
  have hrepeats : Repeats sampleShopify (NotCrowded sampleShopify) [sampleInput sampleNow]
      ⟨[sampleSecond], [], [], sampleNow⟩ { s' with clock := s'.clock } :=
    .cons hcrowd hs' .nil
  refine ⟨w, w₁, w', s', ⟨candidate, gid, relatedRecords, run, ?_⟩, ?_, ?_, hs', ?_⟩
  · exact autoCancel_sound.1 w hreach 0 candidate gid relatedRecords canonicalStatus run hp
  · exact autoCancel_sound.2.2.1 w w₁ 0 _ hw₁
  · exact autoCancel_sound.2.1 w hreach 0 candidate gid relatedRecords canonicalStatus run
      sampleCancelled w₁ hp (by decide +kernel) hw₁ 1 hmem w' p' hlater hp' hlength
  · refine autoCancel_sound.2.2.2 sampleShopify (sampleInput sampleNow) _ sampleSecond hids rfl
      heligible [sampleInput sampleNow] _ ?_ le_rfl hrepeats sampleSecond heligible.mem_returnRows
    intro i hi
    rw [List.mem_singleton.mp hi]
    exact ⟨rfl, rfl, le_rfl⟩

/-! ### What fails without these conditions -/

/-- The record whose return comes first: its allocation has a refund. -/
structure Starved (s : ReturnStore) : Prop where
  returnRecord : ∃ snapshot updatedAt, s.returnRecord =
    [{ sampleFirst with returnProviderSnapshot := snapshot, updatedAt := updatedAt }, sampleSecond]
  refundRecord : s.refundRecord = [⟨1, "9"⟩]
  refundEntries : s.refundEntries = []

/-- The only place of the page is taken by the record that is skipped. -/
lemma Starved.page {s : ReturnStore} (h : Starved s) {now : Instant} (hnow : sampleNow ≤ now)
    {rows : List ReturnRecord} (hpage : IsPage (sampleInput now) s.returnRecord rows) :
    ∃ snapshot updatedAt, rows =
      [{ sampleFirst with returnProviderSnapshot := snapshot, updatedAt := updatedAt }] ∧
      s.returnRecord = [{ sampleFirst with
        returnProviderSnapshot := snapshot, updatedAt := updatedAt }, sampleSecond] := by
  obtain ⟨snapshot, updatedAt, hrecords⟩ := h.returnRecord
  refine ⟨snapshot, updatedAt, ?_, hrecords⟩
  generalize hfirst :
    ({ sampleFirst with returnProviderSnapshot := snapshot, updatedAt := updatedAt } :
      ReturnRecord) = first at hrecords ⊢
  have hcandidate : isCandidate (sampleInput now) first = true := by
    have hold : (0 : ℤ) ≤ now - ((14 : ℕ) : ℤ) * DAY_MS := by
      have hday : DAY_MS = 86400000 := by decide
      have hstart : (1728000000 : ℤ) ≤ now := hnow
      rw [hday]
      omega
    rw [← hfirst]
    change decide ((0 : ℤ) ≤ now - ((14 : ℕ) : ℤ) * DAY_MS) = true
    exact decide_eq_true hold
  have hbefore : before first sampleSecond = true := by
    rw [← hfirst]
    rfl
  have hlength : rows.length = 1 := by
    rw [hpage.length, hrecords, List.filter_cons_of_pos hcandidate, List.length_cons]
    exact Nat.min_eq_left (Nat.succ_le_succ (Nat.zero_le _))
  obtain ⟨x, rfl⟩ := List.length_eq_one_iff.mp hlength
  by_cases hx : x = first
  · rw [hx]
  · have hmem := (hpage.candidates x (List.mem_singleton_self _)).1
    rw [hrecords] at hmem
    rcases List.mem_cons.mp hmem with hx' | hmem
    · exact (hx hx').elim
    · obtain rfl := List.mem_singleton.mp hmem
      have hlast := hpage.first first (by rw [hrecords]; exact List.mem_cons_self) hcandidate
        (fun hin => hx (List.mem_singleton.mp hin).symm) _ (List.mem_singleton_self _)
      rw [hbefore] at hlast
      cases hlast

lemma Starved.persist {s : ReturnStore} (h : Starved s) {c : ReturnAutoCancelRecord}
    (hid : c.record.id = 1) (attempt : AutoCancelAttempt) :
    Starved (persistAutoCancelSnapshot c attempt s) := by
  obtain ⟨snapshot, updatedAt, hrecords⟩ := h.returnRecord
  refine ⟨⟨buildAutoCancelSnapshot c.record.returnProviderSnapshot attempt, s.clock, ?_⟩,
    h.refundRecord, h.refundEntries⟩
  unfold persistAutoCancelSnapshot ReturnStore.update
  dsimp only
  rw [hrecords, hid]
  rfl

/-- The record in front is skipped and stays in front. -/
lemma Starved.completeRun {s s' : ReturnStore} (h : Starved s) {now : Instant}
    (hnow : sampleNow ≤ now) (hrun : CompleteRun sampleShopify (sampleInput now) s s') :
    Starved s' := by
  obtain ⟨rows, run, hpage, hrun⟩ := hrun.page
  obtain ⟨snapshot, updatedAt, rfl, hrecords⟩ := h.page hnow hpage
  generalize hfirst :
    ({ sampleFirst with returnProviderSnapshot := snapshot, updatedAt := updatedAt } :
      ReturnRecord) = first at hrecords hrun
  have hkey : getShopifyReturnKey first = some "gid://shopify/Return/1" := by
    rw [← hfirst]
    exact (by decide +kernel :
      getShopifyReturnKey sampleFirst = some "gid://shopify/Return/1")
  have hgid : resolveShopifyReturnGid first = some "gid://shopify/Return/1" := by
    rw [← hfirst]
    exact (by decide +kernel :
      resolveShopifyReturnGid sampleFirst = some "gid://shopify/Return/1")
  have hadvance : RunState.advance ⟨sampleInput now, [], [], []⟩ [s.included first] =
      .related (s.included first) "gid://shopify/Return/1"
        ⟨sampleInput now, [], ["gid://shopify/Return/1"], []⟩ := by
    unfold RunState.advance
    dsimp only [ReturnStore.included]
    rw [hkey, hgid]
    rfl
  have hrelated : findRelatedReturnRecords s (s.included first) = [s.included first] := by
    have hself : sameReturn first first = true := sameReturn_self (by rw [hgid]; rfl)
    have hother : sameReturn first sampleSecond = false := by
      rw [← hfirst]
      exact (by decide +kernel : sameReturn sampleFirst sampleSecond = false)
    unfold findRelatedReturnRecords
    rw [if_pos (truthy_of_resolve (by change (resolveShopifyReturnGid first).isSome = true
                                      rw [hgid]; rfl)), hrecords]
    change ((([first, sampleSecond] : List ReturnRecord).filter (sameReturn first)).map
      s.included) = [s.included first]
    rw [List.filter_cons_of_pos hself, List.filter_cons_of_neg (by rw [hother]; decide)]
    rfl
  have hskip : getLocalSkipReason (s.included first) now 14 true = some "refund_record_exists" := by
    have hrefunds : (s.included first).refundRecords = [⟨1, "9"⟩] := by
      unfold ReturnStore.included
      rw [h.refundRecord, ← hfirst]
      rfl
    have hsource : (s.included first).record.returnRequestSource =
        some "shopify_return_request" := by
      rw [← hfirst]
      rfl
    have happroved : isApprovedLocalReturn (s.included first).record = true := by
      rw [← hfirst]
      exact (by decide +kernel : isApprovedLocalReturn sampleFirst = true)
    have hrefundId : present (s.included first).record.sourceShopifyRefundId = none := by
      rw [← hfirst]
      rfl
    have hold : ¬now - getApprovalTimestamp (s.included first).record < (14 : ℕ) * DAY_MS := by
      have hday : DAY_MS = 86400000 := by decide
      have hstart : (1728000000 : ℤ) ≤ now := hnow
      have hlong : ((14 : ℕ) : ℤ) * 86400000 ≤ now := by omega
      rw [hday, ← hfirst]
      change ¬(now : ℤ) - 0 < ((14 : ℕ) : ℤ) * 86400000
      rw [sub_zero]
      exact not_lt.mpr hlong
    unfold getLocalSkipReason
    rw [if_neg (not_not.mpr hsource), happroved, if_neg hold, hrefundId, hrefunds]
    rfl
  have hlocal : localSkip ⟨sampleInput now, [], ["gid://shopify/Return/1"], []⟩
      [s.included first] = some (s.included first, "refund_record_exists") := by
    unfold localSkip
    simp only [List.findSome?_cons, sampleInput, hskip, Option.map_some]
  change RunsTo sampleShopify s (RunState.advance ⟨sampleInput now, [], [], []⟩
    [s.included first]) s' run at hrun
  rw [hadvance] at hrun
  cases hrun with
  | step _ hstep hrest =>
      cases run_steps hstep with
      | related =>
          rw [hrelated] at hrest
          unfold AutoCancelCall.afterRelated at hrest
          rw [hlocal] at hrest
          cases hrest with
          | step _ hstep' hrest' =>
              cases run_steps hstep' with
              | persist =>
                  cases hrest' with
                  | ended =>
                      refine h.persist ?_ _
                      rw [← hfirst]
                      rfl
                  | step _ hstep'' _ => cases hstep''

lemma Starved.repeats {s s' : ReturnStore} (h : Starved s) {inputs : List RunInput}
    (hinputs : ∀ i ∈ inputs, ∃ now, sampleNow ≤ now ∧ i = sampleInput now)
    (hruns : Repeats sampleShopify (fun _ _ => True) inputs s s') : Starved s' := by
  induction hruns with
  | nil => exact h
  | cons _ hrun _ ih =>
      obtain ⟨now, hnow, rfl⟩ := hinputs _ List.mem_cons_self
      have h₁ := h.completeRun hnow hrun
      exact ih ⟨h₁.returnRecord, h₁.refundRecord, h₁.refundEntries⟩
        fun i hi => hinputs i (List.mem_cons_of_mem _ hi)

/-- However often the run is repeated, it does not reach the second return. -/
lemma starved_eligible {s : ReturnStore} (h : Starved s) {now : Instant} (hnow : sampleNow ≤ now) :
    Eligible sampleShopify (sampleInput now) s sampleSecond := by
  obtain ⟨snapshot, updatedAt, hrecords⟩ := h.returnRecord
  refine eligible_second hnow ?_ ?_ ?_
  · unfold returnRows
    rw [hrecords, List.filter_cons_of_neg, List.filter_cons_of_pos]
    · rfl
    · decide +kernel
    · exact (by decide +kernel : ¬sameReturn sampleSecond sampleFirst = true)
  · intro c hc
    rw [hrecords] at hc
    rcases List.mem_cons.mp hc with rfl | hc
    · exact (by decide +kernel :
        getShopifyReturnKey sampleFirst = getShopifyReturnKey sampleSecond →
          sameReturn sampleSecond sampleFirst = true)
    · rw [List.mem_singleton.mp hc]
      decide +kernel
  · unfold ReturnStore.included
    rw [h.refundRecord, h.refundEntries]
    rfl

/-- **What fails.**  A return is cancelled whose other record, cancelled already, has a refund; a
shipment that is recorded during a run is overwritten; and a return that can be cancelled is never
reached behind one that is always skipped. -/
theorem autoCancel_fails :
    (∃ w, AutoCancelReaches w ∧ ∃ candidate gid relatedRecords canonicalStatus run,
      w.process 0 = some (.cancel candidate gid relatedRecords canonicalStatus run) ∧
        ∃ r ∈ relatedRecords, r.refundRecords ≠ []) ∧
    (∃ w w', AutoCancelReaches w ∧ runActions autoCancelRuns.step
      [.run 0 (.cancelled sampleCancelled), .run 0 .done] w = .ok w' ∧
        hasShipped w.shared 1 = true ∧ hasShipped w'.shared 1 = false) ∧
    ∀ inputs s', (∀ i ∈ inputs, ∃ now, sampleNow ≤ now ∧ i = sampleInput now) →
      Repeats sampleShopify (fun _ _ => True) inputs
          ⟨[sampleFirst, sampleSecond], [⟨1, "9"⟩], [], sampleNow⟩ s' →
        Eligible sampleShopify (sampleInput sampleNow) s' sampleSecond := by
  refine ⟨?_, ?_, ?_⟩
  · obtain ⟨w, hw, p, hp, relatedRecords, hcancel, hrefund⟩ := succeeds_iff.mp sampleCalls_run
    obtain ⟨candidate, gid, canonicalStatus, run, rfl⟩ := AutoCancelCall.toCancel_eq_some hcancel
    exact ⟨w, reachable_of_runActions (.start ⟨_, trivial, rfl⟩) (fun _ _ _ => trivial) hw,
      candidate, gid, relatedRecords, canonicalStatus, run, hp, hrefund⟩
  · have hrun : Succeeds (runActions autoCancelRuns.step
        (sampleCalls ++ [.outside (.ship 1 (some "S") (some "T") none
          [("kargonomiReturnShipmentSucceeded", .flag true)])]) (World.init sampleReturnStore))
        fun w => hasShipped w.shared 1 = true ∧ Succeeds (runActions autoCancelRuns.step
          [.run 0 (.cancelled sampleCancelled), .run 0 .done] w) fun w' =>
            hasShipped w'.shared 1 = false := by
      decide +kernel
    obtain ⟨w, hw, hshipped, hmarked⟩ := succeeds_iff.mp hrun
    obtain ⟨w', hw', hlost⟩ := succeeds_iff.mp hmarked
    exact ⟨w, w', reachable_of_runActions (.start ⟨_, trivial, rfl⟩) (fun _ _ _ => trivial) hw,
      hw', hshipped, hlost⟩
  · intro inputs s' hinputs hruns
    have hstarved : Starved ⟨[sampleFirst, sampleSecond], [⟨1, "9"⟩], [], sampleNow⟩ :=
      ⟨⟨[], 0, rfl⟩, rfl, rfl⟩
    exact starved_eligible (hstarved.repeats hinputs hruns) le_rfl

end Sample

end VendorDashboard.ReturnAutoCancel
