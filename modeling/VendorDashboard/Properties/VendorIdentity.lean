import VendorDashboard.Shopify.VendorIdentityCutover
import VendorDashboard.Framework.Transaction
import Mathlib.Algebra.Order.Archimedean.Real.Basic
import Mathlib.Tactic.Linarith

/-!
# Vendor identity cutovers route to the right vendor

An order was created at an instant `t` and Shopify prints that instant with up to three digits
after the second, cutting the rest off.  The routing sees the text only.  It still answers by `t`:
a cutover is at a whole millisecond, so with three digits nothing is lost, and with fewer the text
stays in its second, where the routing refuses to decide when the cutover is in it too
(`cutover_decided`).

What the routing refuses is stated for slugs that are not blank and for the years that have four
digits; the samples at the end show why.
-/

namespace VendorDashboard.Shopify

open Text Timestamp Transaction
open Decimal (digitChar digitValue)

/-! ## Slugs -/

/-- A slug that was normalized stays as it is. -/
lemma normalizeSlug_of_mem {lower : LowerCase} {input : OrderSellerEvidence} {slug : String}
    (hslug : slug ∈ input.slugs lower) (hne : slug ≠ "") :
    normalizeSlug lower (some slug) = slug := by
  obtain ⟨value, -, rfl⟩ := List.mem_map.mp (List.mem_eraseDups.mp hslug)
  cases value with
  | none => exact absurd rfl hne
  | some s =>
      change lower.apply (trim (lower.apply (trim s))) = lower.apply (trim s)
      rw [lower.trim_apply _ (trim_trim s), lower.apply_apply]

/-! ## Times -/

/-- The text of a four-digit year is read as the instant that it was cut off to. -/
lemma validUtcInstant_printUtc {d : ℕ} (hd : d ≤ 3) {ms : ℤ} (hyear : FourDigitYear ms) :
    validUtcInstant (some (printUtc d ms)) = some (truncate d ms) := by
  unfold validUtcInstant
  rw [Option.bind_some, scan_printUtc hd hyear, Option.bind_some, newDate_printed hd hyear,
    Option.bind_some, if_pos (isoText_printUtc hd hyear).symm]

lemma validUtcInstant_printUtc_of_not {d : ℕ} {ms : ℤ} (hyear : ¬ FourDigitYear ms) :
    validUtcInstant (some (printUtc d ms)) = none := by
  unfold validUtcInstant
  rw [Option.bind_some, scan_printUtc_of_not hyear, Option.bind_none]

/-- The digits that were printed are counted. -/
lemma fractionalDigits_printUtc {d : ℕ} (hd : d ≤ 3) (ms : ℤ) :
    fractionalDigits (printUtc d ms).toList = d := by
  have htwo : ∀ n, digits 2 n = [digitChar (n / 10), digitChar n] := fun _ => rfl
  have hthree : ∀ n, digits 3 n = [digitChar (n / 10 / 10), digitChar (n / 10), digitChar n] :=
    fun _ => rfl
  have hdigit : ∀ n, (digitValue (digitChar n)).isSome = true := isSome_digitValue
  have hcolon : (digitValue ':').isSome = false := rfl
  have hpoint : (digitValue '.').isSome = false := rfl
  unfold fractionalDigits printUtc secondText fractionText
  rw [String.toList_ofList, htwo (timeFields ms).second, hthree]
  interval_cases d <;> simp [hdigit, hcolon, hpoint]

/-- **The cut-off time decides like the true one**, unless the cutover is in its second and digits
are missing. -/
lemma cutover_decided {t : ℝ} {d : ℕ} (hd : d ≤ 3) {cutoverAt : ℤ}
    (hdecided : ¬ (d < 3 ∧ truncate d ⌊t⌋ / 1000 = cutoverAt / 1000)) :
    truncate d ⌊t⌋ < cutoverAt ↔ t < cutoverAt := by
  rw [← Int.floor_lt]
  have hle := truncate_le d ⌊t⌋
  have hsecond := truncate_second hd ⌊t⌋
  by_cases hthree : d = 3
  · rw [hthree, truncate_three]
  · have hother : truncate d ⌊t⌋ / 1000 ≠ cutoverAt / 1000 :=
      fun h => hdecided ⟨by omega, h⟩
    omega

/-! ## The map -/

/-- The vendor an order that was created at `t` belongs to. -/
structure IsTarget (t : ℝ) (cutovers : List VendorIdentityCutoverSnapshot)
    (slug vendorId : String) : Prop where
  /-- An active cutover hands the slug over at its time. -/
  cutover : ∀ mapping ∈ cutovers, mapping.externalSellerSlug = slug → mapping.active = true →
    ∃ cutoverAt, mapping.approvedCutoverAt = some cutoverAt ∧
      (t < cutoverAt → vendorId = mapping.previousVendorId) ∧
      (cutoverAt ≤ t → vendorId = mapping.replacementVendorId)
  /-- Without an active cutover the slug is its own vendor. -/
  slug : (∀ mapping ∈ cutovers, mapping.externalSellerSlug = slug → mapping.active = false) →
    vendorId = slug

variable {lower : LowerCase} {input : OrderSellerEvidence} {t : ℝ} {d : ℕ}

/-- A cutover answers with a known vendor, the one of the order's time. -/
lemma resolveCutover_ok {mapping : VendorIdentityCutoverSnapshot} {order : Option CanonicalOrder}
    {known : List String} {vendorId : String} {authority : VendorIdentityAuthority} (hd : d ≤ 3)
    (hprinted : order.bind (·.createdAtUtc) = some (printUtc d ⌊t⌋))
    (h : resolveCutover mapping order known = .ok (vendorId, authority)) :
    vendorId ∈ known ∧ ∃ cutoverAt, mapping.approvedCutoverAt = some cutoverAt ∧
      (t < cutoverAt → vendorId = mapping.previousVendorId) ∧
      (cutoverAt ≤ t → vendorId = mapping.replacementVendorId) := by
  have hyear : FourDigitYear ⌊t⌋ := by
    by_contra hyear
    simp only [resolveCutover, hprinted, validUtcInstant_printUtc_of_not hyear] at h
    split_ifs at h
  simp only [resolveCutover, hprinted, validUtcInstant_printUtc hd hyear, Option.map_some,
    Option.getD_some, fractionalDigits_printUtc hd] at h
  split_ifs at h
  cases happroved : mapping.approvedCutoverAt with
  | none => simp [happroved] at h
  | some cutoverAt =>
      simp only [happroved] at h
      split_ifs at h with hboundary hbefore hknown hknown
      · obtain ⟨rfl, -⟩ := Prod.mk.inj (Except.ok.inj h)
        have hlt := (cutover_decided hd hboundary).mp hbefore
        exact ⟨hknown, cutoverAt, rfl, fun _ => rfl, fun hle => absurd hlt (not_lt.mpr hle)⟩
      · obtain ⟨rfl, -⟩ := Prod.mk.inj (Except.ok.inj h)
        have hge := mt (cutover_decided hd hboundary).mpr hbefore
        exact ⟨hknown, cutoverAt, rfl, fun hlt => absurd hlt hge, fun _ => rfl⟩

/-- The cutovers of a slug. -/
def cutoversOf (cutovers : List VendorIdentityCutoverSnapshot) (slug : String) :
    List VendorIdentityCutoverSnapshot :=
  cutovers.filter fun mapping => decide (mapping.externalSellerSlug = slug)

lemma mem_cutoversOf {cutovers : List VendorIdentityCutoverSnapshot} {slug : String}
    {mapping : VendorIdentityCutoverSnapshot} :
    mapping ∈ cutoversOf cutovers slug ↔
      mapping ∈ cutovers ∧ mapping.externalSellerSlug = slug := by
  simp [cutoversOf]

section Slug

variable {slug : String} {order : Option CanonicalOrder}
  {cutovers : List VendorIdentityCutoverSnapshot} {known : List String}

lemma resolveVendorIdentity_of_none (hslug : normalizeSlug lower (some slug) = slug)
    (hne : slug ≠ "") (hnone : cutoversOf cutovers slug = []) :
    resolveVendorIdentity lower (some slug) order cutovers known =
      if slug ∈ known then .ok (slug, .legacySlug) else .error .unknownVendor := by
  unfold cutoversOf at hnone
  simp only [resolveVendorIdentity, hslug, hne, if_false, hnone]

lemma resolveVendorIdentity_of_one (hslug : normalizeSlug lower (some slug) = slug)
    (hne : slug ≠ "") {mapping : VendorIdentityCutoverSnapshot}
    (hone : cutoversOf cutovers slug = [mapping]) :
    resolveVendorIdentity lower (some slug) order cutovers known =
      if validCutover mapping slug = false then .error .invalidCutoverConfiguration
      else if mapping.active = false then
        if slug ∈ known then .ok (slug, .legacySlug) else .error .unknownVendor
      else resolveCutover mapping order known := by
  unfold cutoversOf at hone
  simp only [resolveVendorIdentity, hslug, hne, if_false, hone]

lemma resolveVendorIdentity_of_many (hslug : normalizeSlug lower (some slug) = slug)
    (hne : slug ≠ "") {mapping mapping' : VendorIdentityCutoverSnapshot}
    {rest : List VendorIdentityCutoverSnapshot}
    (hmany : cutoversOf cutovers slug = mapping :: mapping' :: rest) :
    resolveVendorIdentity lower (some slug) order cutovers known =
      .error .conflictingCutoverConfiguration := by
  unfold cutoversOf at hmany
  simp only [resolveVendorIdentity, hslug, hne, if_false, hmany]

/-- A slug is resolved to a known vendor, the one an order of this time belongs to. -/
lemma resolveVendorIdentity_ok (hd : d ≤ 3)
    (hprinted : order.bind (·.createdAtUtc) = some (printUtc d ⌊t⌋))
    (hslug : normalizeSlug lower (some slug) = slug) (hne : slug ≠ "") {vendorId : String}
    {authority : VendorIdentityAuthority}
    (h : resolveVendorIdentity lower (some slug) order cutovers known =
      .ok (vendorId, authority)) :
    IsTarget t cutovers slug vendorId ∧ vendorId ∈ known := by
  rcases hfilter : cutoversOf cutovers slug with _ | ⟨mapping, _ | ⟨mapping', rest⟩⟩
  · rw [resolveVendorIdentity_of_none hslug hne hfilter] at h
    split_ifs at h with hknown
    obtain ⟨rfl, -⟩ := Prod.mk.inj (Except.ok.inj h)
    refine ⟨⟨fun m hmem hext _ => ?_, fun _ => rfl⟩, hknown⟩
    have hm : m ∈ cutoversOf cutovers slug := mem_cutoversOf.mpr ⟨hmem, hext⟩
    rw [hfilter] at hm
    cases hm
  · have honly : ∀ m ∈ cutovers, m.externalSellerSlug = slug → m = mapping := by
      intro m hmem hext
      have hm : m ∈ cutoversOf cutovers slug := mem_cutoversOf.mpr ⟨hmem, hext⟩
      rw [hfilter] at hm
      exact List.mem_singleton.mp hm
    have hmapping : mapping ∈ cutovers ∧ mapping.externalSellerSlug = slug := by
      rw [← mem_cutoversOf, hfilter]
      exact List.mem_singleton_self mapping
    rw [resolveVendorIdentity_of_one hslug hne hfilter] at h
    split_ifs at h with hvalid hactive hknown
    · obtain ⟨rfl, -⟩ := Prod.mk.inj (Except.ok.inj h)
      refine ⟨⟨fun m hmem hext hm => ?_, fun _ => rfl⟩, hknown⟩
      rw [honly m hmem hext, hactive] at hm
      cases hm
    · obtain ⟨hknown, cutoverAt, happroved, hbefore, hafter⟩ := resolveCutover_ok hd hprinted h
      refine ⟨⟨fun m hmem hext _ => ?_, fun hnone => ?_⟩, hknown⟩
      · rw [honly m hmem hext]
        exact ⟨cutoverAt, happroved, hbefore, hafter⟩
      · exact absurd (hnone mapping hmapping.1 hmapping.2) hactive
  · rw [resolveVendorIdentity_of_many hslug hne hfilter] at h
    cases h

end Slug

/-! ## The refusals -/

/-- The evidence is the order's own, from the Admin API. -/
structure OrderSellerEvidence.IdentityMatches (input : OrderSellerEvidence) : Prop where
  source : input.canonicalOrder.bind (·.source) = some .shopifyAdminGraphql
  orderGid : input.canonicalOrder.bind (·.orderGid) = some input.expectedGid
  isOrderGid : isOrderGid input.expectedGid = true

/-- Each slug that is cut over has one cutover, and it is valid. -/
def OrderSellerEvidence.OneValidCutover (input : OrderSellerEvidence) (lower : LowerCase) : Prop :=
  ∀ slug ∈ input.slugs lower, ∀ mapping ∈ cutoversOf input.cutovers slug,
    cutoversOf input.cutovers slug = [mapping] ∧ validCutover mapping slug = true

/-- The vendors that the order belongs to are known. -/
def OrderSellerEvidence.TargetsKnown (input : OrderSellerEvidence) (lower : LowerCase) (t : ℝ) :
    Prop :=
  ∀ slug ∈ input.slugs lower, ∃ vendorId ∈ input.knownVendorIds,
    IsTarget t input.cutovers slug vendorId

/-- An active cutover of a slug of the order is in the same second of UTC as `t`. -/
def OrderSellerEvidence.AtBoundary (input : OrderSellerEvidence) (lower : LowerCase) (t : ℝ) :
    Prop :=
  ∃ slug ∈ input.slugs lower, ∃ mapping ∈ cutoversOf input.cutovers slug, mapping.active = true ∧
    ∃ cutoverAt : ℤ, mapping.approvedCutoverAt = some cutoverAt ∧
      ⌊t / 1000⌋ = ⌊(cutoverAt : ℝ) / 1000⌋

lemma floor_second (t : ℝ) : ⌊t / 1000⌋ = ⌊t⌋ / 1000 := by
  have h := Int.floor_div_natCast t 1000
  simpa using h

/-- A cutover is not decided only when digits are missing and its second is that of the order. -/
lemma resolveCutover_error {mapping : VendorIdentityCutoverSnapshot} {order : Option CanonicalOrder}
    {known : List String} {reason : RoutingReason} {orderGid : String} {cutoverAt : ℤ} (hd : d ≤ 3)
    (hprinted : order.bind (·.createdAtUtc) = some (printUtc d ⌊t⌋)) (hyear : FourDigitYear ⌊t⌋)
    (hsource : order.bind (·.source) = some .shopifyAdminGraphql)
    (hgid : order.bind (·.orderGid) = some orderGid) (hisGid : isOrderGid orderGid = true)
    (happroved : mapping.approvedCutoverAt = some cutoverAt)
    (hbefore : t < cutoverAt → mapping.previousVendorId ∈ known)
    (hafter : cutoverAt ≤ t → mapping.replacementVendorId ∈ known)
    (h : resolveCutover mapping order known = .error reason) :
    d < 3 ∧ ⌊t / 1000⌋ = ⌊(cutoverAt : ℝ) / 1000⌋ := by
  simp only [resolveCutover, hprinted, validUtcInstant_printUtc hd hyear, Option.map_some,
    Option.getD_some, fractionalDigits_printUtc hd, hsource, hgid, hisGid, happroved, ne_eq,
    not_true_eq_false, if_false, Bool.true_eq_false] at h
  by_cases hboundary : d < 3 ∧ truncate d ⌊t⌋ / 1000 = cutoverAt / 1000
  · refine ⟨hboundary.1, ?_⟩
    rw [floor_second, floor_second, Int.floor_intCast, ← truncate_second hd]
    exact hboundary.2
  · rw [if_neg hboundary] at h
    by_cases hlt : truncate d ⌊t⌋ < cutoverAt
    · have hknown := hbefore ((cutover_decided hd hboundary).mp hlt)
      rw [if_pos hlt, if_pos hknown] at h
      cases h
    · have hknown := hafter (not_lt.mp (mt (cutover_decided hd hboundary).mpr hlt))
      rw [if_neg hlt, if_pos hknown] at h
      cases h

/-- A slug is refused only at the boundary of its cutover. -/
lemma resolveVendorIdentity_error {slug : String} (hd : d ≤ 3)
    (hprinted : input.canonicalOrder.bind (·.createdAtUtc) = some (printUtc d ⌊t⌋))
    (hyear : FourDigitYear ⌊t⌋) (hidentity : input.IdentityMatches)
    (hvalid : input.OneValidCutover lower) (hknown : input.TargetsKnown lower t)
    (hmem : slug ∈ input.slugs lower) (hne : slug ≠ "") {reason : RoutingReason}
    (h : resolveVendorIdentity lower (some slug) input.canonicalOrder input.cutovers
      input.knownVendorIds = .error reason) :
    d < 3 ∧ input.AtBoundary lower t := by
  have hslug := normalizeSlug_of_mem hmem hne
  obtain ⟨vendorId, hvendor, htarget⟩ := hknown slug hmem
  rcases hfilter : cutoversOf input.cutovers slug with _ | ⟨mapping, _ | ⟨mapping', rest⟩⟩
  · have hself : vendorId = slug := htarget.slug fun m hm hext => by
      have hm' : m ∈ cutoversOf input.cutovers slug := mem_cutoversOf.mpr ⟨hm, hext⟩
      rw [hfilter] at hm'
      cases hm'
    rw [resolveVendorIdentity_of_none hslug hne hfilter, if_pos (hself ▸ hvendor)] at h
    cases h
  · have hmapping : mapping ∈ cutoversOf input.cutovers slug := by
      rw [hfilter]
      exact List.mem_singleton_self mapping
    obtain ⟨-, hvalid'⟩ := hvalid slug hmem mapping hmapping
    obtain ⟨hin, hext⟩ := mem_cutoversOf.mp hmapping
    rw [resolveVendorIdentity_of_one hslug hne hfilter, hvalid'] at h
    by_cases hactive : mapping.active = true
    · simp only [hactive, Bool.true_eq_false, if_false] at h
      obtain ⟨cutoverAt, happroved, hbefore, hafter⟩ := htarget.cutover mapping hin hext hactive
      obtain ⟨hdigits, hsecond⟩ := resolveCutover_error hd hprinted hyear hidentity.source
        hidentity.orderGid hidentity.isOrderGid happroved (fun hlt => hbefore hlt ▸ hvendor)
        (fun hle => hafter hle ▸ hvendor) h
      exact ⟨hdigits, slug, hmem, mapping, hmapping, hactive, cutoverAt, happroved, hsecond⟩
    · have hinactive : mapping.active = false := by simpa using hactive
      have hself : vendorId = slug := htarget.slug fun m hm hm' => by
        have hone : m ∈ cutoversOf input.cutovers slug := mem_cutoversOf.mpr ⟨hm, hm'⟩
        rw [hfilter] at hone
        rw [List.mem_singleton.mp hone, hinactive]
      simp only [hinactive, Bool.true_eq_false, if_false, if_true] at h
      rw [if_pos (hself ▸ hvendor)] at h
      cases h
  · have hmapping : mapping ∈ cutoversOf input.cutovers slug := by
      rw [hfilter]
      exact List.mem_cons_self
    have hone := (hvalid slug hmem mapping hmapping).1
    rw [hfilter] at hone
    cases hone

/-! ## Orders -/

lemma resolveSlug_eq_ok {slug : String} {entry : String × String}
    (h : resolveSlug lower input slug = .ok entry) : entry.1 = slug ∧ ∃ authority,
      resolveVendorIdentity lower (some slug) input.canonicalOrder input.cutovers
        input.knownVendorIds = .ok (entry.2, authority) := by
  unfold resolveSlug at h
  cases hresult : resolveVendorIdentity lower (some slug) input.canonicalOrder input.cutovers
      input.knownVendorIds with
  | error reason =>
      rw [hresult] at h
      cases h
  | ok result =>
      rw [hresult] at h
      obtain rfl := Except.ok.inj h
      exact ⟨rfl, result.2, rfl⟩

lemma resolveSlug_eq_error {slug : String} {reason : RoutingReason}
    (h : resolveSlug lower input slug = .error reason) :
    resolveVendorIdentity lower (some slug) input.canonicalOrder input.cutovers
      input.knownVendorIds = .error reason := by
  unfold resolveSlug at h
  cases hresult : resolveVendorIdentity lower (some slug) input.canonicalOrder input.cutovers
      input.knownVendorIds with
  | error reason' =>
      rw [hresult] at h
      obtain rfl := Except.error.inj h
      rfl
  | ok result =>
      rw [hresult] at h
      cases h

/-- The map has an entry for each slug, in the order of the slugs. -/
lemma mapM_resolveSlug_ok {slugs : List String} {vendors : List (String × String)}
    (h : slugs.mapM (resolveSlug lower input) = .ok vendors) :
    vendors.map Prod.fst = slugs ∧ ∀ entry ∈ vendors,
      resolveSlug lower input entry.1 = .ok entry := by
  induction slugs generalizing vendors with
  | nil =>
      rw [List.mapM_nil, pure_eq_ok] at h
      subst h
      exact ⟨rfl, fun entry hentry => by cases hentry⟩
  | cons slug slugs ih =>
      simp only [List.mapM_cons, bind_eq_ok, pure_eq_ok] at h
      obtain ⟨entry, hentry, rest, hrest, rfl⟩ := h
      obtain ⟨hkeys, hall⟩ := ih hrest
      have hkey := (resolveSlug_eq_ok hentry).1
      refine ⟨by rw [List.map_cons, hkey, hkeys], fun e he => ?_⟩
      rcases List.mem_cons.mp he with rfl | he
      · rw [hkey]
        exact hentry
      · exact hall e he

/-- An order is refused for one of its slugs. -/
lemma mapM_resolveSlug_error {slugs : List String} {reason : RoutingReason}
    (h : slugs.mapM (resolveSlug lower input) = .error reason) :
    ∃ slug ∈ slugs, resolveSlug lower input slug = .error reason := by
  induction slugs with
  | nil =>
      rw [List.mapM_nil] at h
      cases h
  | cons slug slugs ih =>
      rw [List.mapM_cons] at h
      cases hslug : resolveSlug lower input slug with
      | error reason' =>
          rw [hslug] at h
          obtain rfl := Except.error.inj h
          exact ⟨slug, List.mem_cons_self, hslug⟩
      | ok entry =>
          rw [hslug] at h
          cases hrest : slugs.mapM (resolveSlug lower input) with
          | error reason' =>
              rw [hrest] at h
              obtain rfl := Except.error.inj h
              obtain ⟨slug', hmem, herror⟩ := ih hrest
              exact ⟨slug', List.mem_cons_of_mem _ hmem, herror⟩
          | ok rest =>
              rw [hrest] at h
              cases h

/-- **A cutover never routes an order to the wrong vendor.**  An order that was created at `t`, its
time printed with `d` digits, is answered by `t`, with one known vendor for each slug.  If its
evidence and the cutovers are in order, it is refused only when `t` is in the second of a cutover
and digits are missing. -/
theorem resolveOrderSellerVendorsFromEvidence_routes (lower : LowerCase)
    (input : OrderSellerEvidence) {t : ℝ} {d : ℕ} (hd : d ≤ 3)
    (hprinted : input.canonicalOrder.bind (·.createdAtUtc) = some (printUtc d ⌊t⌋)) :
    (∀ vendors, resolveOrderSellerVendorsFromEvidence lower input = .ok vendors →
      vendors.map Prod.fst = input.slugs lower ∧ ∀ slug vendorId, (slug, vendorId) ∈ vendors →
        IsTarget t input.cutovers slug vendorId ∧ vendorId ∈ input.knownVendorIds) ∧
    (input.IdentityMatches → input.OneValidCutover lower → input.TargetsKnown lower t →
      (∀ slug ∈ input.slugs lower, slug ≠ "") → FourDigitYear ⌊t⌋ →
      ∀ reason, resolveOrderSellerVendorsFromEvidence lower input = .error reason →
        d < 3 ∧ input.AtBoundary lower t) := by
  constructor
  · intro vendors hok
    unfold resolveOrderSellerVendorsFromEvidence at hok
    simp only at hok
    split_ifs at hok with hblank hmismatch
    obtain ⟨hkeys, hentries⟩ := mapM_resolveSlug_ok hok
    refine ⟨hkeys, fun slug vendorId hmem => ?_⟩
    have hslug : slug ∈ input.slugs lower := by
      rw [← hkeys]
      exact List.mem_map_of_mem (f := Prod.fst) hmem
    have hne : slug ≠ "" := fun h => hblank (h ▸ hslug)
    obtain ⟨-, authority, hresult⟩ := resolveSlug_eq_ok (hentries _ hmem)
    exact resolveVendorIdentity_ok hd hprinted (normalizeSlug_of_mem hslug hne) hne hresult
  · intro hidentity hvalid hknown hblank hyear reason herror
    unfold resolveOrderSellerVendorsFromEvidence at herror
    simp only [hidentity.orderGid, ne_eq, not_true_eq_false, and_false, if_false] at herror
    rw [if_neg fun h => hblank "" h rfl] at herror
    obtain ⟨slug, hmem, hslug⟩ := mapM_resolveSlug_error herror
    exact resolveVendorIdentity_error hd hprinted hyear hidentity hvalid hknown hmem
      (hblank slug hmem) (resolveSlug_eq_error hslug)

/-! ## Samples -/

lemma toLower_cases (c : Char) :
    c.toLower = c ∨ ∃ n, 65 ≤ n ∧ n ≤ 90 ∧ c = Char.ofNat n := by
  by_cases hupper : c.val ≥ 'A'.val ∧ c.val ≤ 'Z'.val
  · exact Or.inr ⟨c.toNat, hupper.1, hupper.2, (Char.ofNat_toNat c).symm⟩
  · exact Or.inl (dif_neg hupper)

lemma toLower_toLower (c : Char) : c.toLower.toLower = c.toLower := by
  rcases toLower_cases c with hc | ⟨n, hlow, hhigh, rfl⟩
  · rw [hc, hc]
  · interval_cases n <;> rfl

lemma isSpace_toLower (c : Char) : isSpace c.toLower = isSpace c := by
  rcases toLower_cases c with hc | ⟨n, hlow, hhigh, rfl⟩
  · rw [hc]
  · interval_cases n <;> rfl

/-- Lower-casing of the ASCII letters. -/
def LowerCase.ascii : LowerCase where
  apply s := String.ofList (s.toList.map Char.toLower)
  apply_apply s := by
    rw [String.toList_ofList, List.map_map]
    exact congrArg String.ofList (List.map_congr_left fun c _ => toLower_toLower c)
  trim_apply s hs := by
    have hcomp : (isSpace ∘ Char.toLower) = isSpace := funext isSpace_toLower
    have htrim : trim (String.ofList (s.toList.map Char.toLower)) =
        String.ofList ((trim s).toList.map Char.toLower) := by
      unfold trim
      simp only [String.toList_ofList, List.dropWhile_map, ← List.map_reverse, hcomp]
    rw [htrim, hs]

def cutoverSample : VendorIdentityCutoverSnapshot where
  externalSellerSlug := "a"
  previousVendorId := "a"
  replacementVendorId := "b"
  approvedCutoverAt := some 2000
  active := true
  activatedAt := some (some 0)

/-- An order of the second before a cutover, its time printed with one digit. -/
def orderSample : OrderSellerEvidence where
  sellerSlugs := [some " A"]
  sourceShopifyOrderId := "1"
  canonicalOrder := some
    ⟨some "gid://shopify/Order/1", some "1970-01-01T00:00:01.9Z", some .shopifyAdminGraphql⟩
  cutovers := [cutoverSample]
  knownVendorIds := ["a", "b"]

section CutOver

variable {order : OrderSellerEvidence}

lemma oneValidCutover_of_cutoverSample (hslugs : order.slugs .ascii = ["a"])
    (hcutovers : order.cutovers = [cutoverSample]) : order.OneValidCutover .ascii := by
  intro slug hslug mapping hmapping
  rw [hslugs, List.mem_singleton] at hslug
  subst hslug
  have hone : cutoversOf order.cutovers "a" = [cutoverSample] := by
    rw [hcutovers]
    decide +kernel
  rw [hone, List.mem_singleton] at hmapping
  subst hmapping
  exact ⟨hone, by decide +kernel⟩

/-- After the cutover the order belongs to the replacement. -/
lemma targetsKnown_of_cutoverSample {t : ℝ} (ht : 2000 ≤ t)
    (hslugs : order.slugs .ascii = ["a"]) (hcutovers : order.cutovers = [cutoverSample])
    (hknown : order.knownVendorIds = ["a", "b"]) : order.TargetsKnown .ascii t := by
  intro slug hslug
  rw [hslugs, List.mem_singleton] at hslug
  subst hslug
  refine ⟨"b", by simp [hknown], ?_⟩
  rw [hcutovers]
  refine ⟨fun mapping hmapping _ _ => ?_, fun hnone => ?_⟩
  · obtain rfl : mapping = cutoverSample := List.mem_singleton.mp hmapping
    exact ⟨2000, rfl, fun hlt => absurd hlt (by push_cast; linarith), fun _ => rfl⟩
  · exact absurd (hnone cutoverSample (List.mem_singleton_self _) rfl) (by decide)

end CutOver

/-- An order of the second of the cutover, its time printed without digits. -/
def boundaryOrder : OrderSellerEvidence :=
  { orderSample with
    canonicalOrder := some
      ⟨some "gid://shopify/Order/1", some "1970-01-01T00:00:02Z", some .shopifyAdminGraphql⟩ }

/-- The first order goes to the vendor before the cutover; the second is refused, at the boundary. -/
theorem resolveOrderSellerVendorsFromEvidence_routes_sample :
    (resolveOrderSellerVendorsFromEvidence .ascii orderSample = .ok [("a", "a")] ∧
      IsTarget 1999.5 orderSample.cutovers "a" "a") ∧
    ∃ reason, resolveOrderSellerVendorsFromEvidence .ascii boundaryOrder = .error reason ∧
      boundaryOrder.AtBoundary .ascii 2400.5 := by
  have hok : resolveOrderSellerVendorsFromEvidence .ascii orderSample = .ok [("a", "a")] := by
    decide +kernel
  have hfloor : ⌊(1999.5 : ℝ)⌋ = 1999 := by
    rw [Int.floor_eq_iff]
    norm_num
  have hprinted : orderSample.canonicalOrder.bind (·.createdAtUtc) =
      some (printUtc 1 ⌊(1999.5 : ℝ)⌋) := by
    rw [hfloor]
    decide +kernel
  obtain ⟨hroutes, -⟩ := resolveOrderSellerVendorsFromEvidence_routes .ascii orderSample
    (by omega : 1 ≤ 3) hprinted
  refine ⟨⟨hok, ((hroutes _ hok).2 "a" "a" (by decide)).1⟩, .shopifyOrderTimeMissingOrInvalid, ?_⟩
  have herror : resolveOrderSellerVendorsFromEvidence .ascii boundaryOrder =
      .error .shopifyOrderTimeMissingOrInvalid := by
    decide +kernel
  have hfloor' : ⌊(2400.5 : ℝ)⌋ = 2400 := by
    rw [Int.floor_eq_iff]
    norm_num
  have hprinted' : boundaryOrder.canonicalOrder.bind (·.createdAtUtc) =
      some (printUtc 0 ⌊(2400.5 : ℝ)⌋) := by
    rw [hfloor']
    decide +kernel
  have hslugs : boundaryOrder.slugs .ascii = ["a"] := by decide +kernel
  obtain ⟨-, hrefuses⟩ := resolveOrderSellerVendorsFromEvidence_routes .ascii boundaryOrder
    (by omega : 0 ≤ 3) hprinted'
  exact ⟨herror, (hrefuses ⟨rfl, rfl, by decide +kernel⟩
    (oneValidCutover_of_cutoverSample hslugs rfl)
    (targetsKnown_of_cutoverSample (by norm_num) hslugs rfl rfl) (by simp [hslugs])
    (by rw [hfloor']; decide +kernel) _ herror).2⟩

/-- An order with a line without a seller slug.  A vendor with an empty identifier is known. -/
def blankOrder : OrderSellerEvidence where
  sellerSlugs := [none]
  sourceShopifyOrderId := "1"
  canonicalOrder := some
    ⟨some "gid://shopify/Order/1", some "1970-01-01T00:00:00.000Z", some .shopifyAdminGraphql⟩
  cutovers := []
  knownVendorIds := [""]

/-- An order of the first instant of the year 10000, long after the cutover. -/
def farOrder : OrderSellerEvidence :=
  { orderSample with
    sellerSlugs := [some "a"]
    canonicalOrder := some ⟨some "gid://shopify/Order/1", some "+010000-01-01T00:00:00.000Z",
      some .shopifyAdminGraphql⟩ }

/-- Both orders are refused away from the second of any cutover: a slug that is blank, and a year
that is not written with four digits. -/
theorem routing_refuses_elsewhere :
    (blankOrder.canonicalOrder.bind (·.createdAtUtc) = some (printUtc 3 ⌊(0 : ℝ)⌋) ∧
      blankOrder.IdentityMatches ∧ blankOrder.OneValidCutover .ascii ∧
      blankOrder.TargetsKnown .ascii 0 ∧
      resolveOrderSellerVendorsFromEvidence .ascii blankOrder = .error .sellerSlugMissing) ∧
    (farOrder.canonicalOrder.bind (·.createdAtUtc) =
        some (printUtc 3 ⌊(253402300800000 : ℝ)⌋) ∧
      farOrder.IdentityMatches ∧ farOrder.OneValidCutover .ascii ∧
      farOrder.TargetsKnown .ascii 253402300800000 ∧
      resolveOrderSellerVendorsFromEvidence .ascii farOrder =
        .error .shopifyOrderTimeMissingOrInvalid) := by
  have hfloor : ⌊(253402300800000 : ℝ)⌋ = 253402300800000 := Int.floor_ofNat _
  refine ⟨⟨?_, ⟨rfl, rfl, by decide +kernel⟩, ?_, ?_, by decide +kernel⟩,
    ⟨?_, ⟨rfl, rfl, by decide +kernel⟩, ?_, ?_, by decide +kernel⟩⟩
  · rw [Int.floor_zero]
    decide +kernel
  · intro slug _ mapping hmapping
    exact absurd hmapping List.not_mem_nil
  · intro slug hslug
    have hblank : slug = "" := by
      have hslugs : blankOrder.slugs .ascii = [""] := by decide +kernel
      rw [hslugs] at hslug
      exact List.mem_singleton.mp hslug
    exact ⟨"", List.mem_singleton_self "", fun _ h => absurd h List.not_mem_nil,
      fun _ => hblank.symm⟩
  · rw [hfloor]
    decide +kernel
  · exact oneValidCutover_of_cutoverSample (by decide +kernel) rfl
  · exact targetsKnown_of_cutoverSample (by norm_num) (by decide +kernel) rfl rfl

end VendorDashboard.Shopify
