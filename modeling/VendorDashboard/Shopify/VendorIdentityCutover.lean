import VendorDashboard.Framework.Text
import VendorDashboard.Framework.Timestamp

/-!
# Vendor identity cutovers

A seller slug is the identifier of its vendor until a cutover hands it to another vendor.
`resolveVendorIdentity` decides for one slug, by the time at which Shopify created the order, and
`resolveOrderSellerVendorsFromEvidence` for all slugs of an order.

The time arrives as text.  A date that is not valid is `none` in a `DateValue`.  The tables by which
letters are lower-cased are a parameter (`LowerCase`); all that is used of them is that they leave
nothing to be done a second time.
-/

namespace VendorDashboard.Shopify

open Text Timestamp
open Decimal (digitValue)

/-- `toLowerCase`: it leaves no upper case, and brings no blank to the ends of a text. -/
structure LowerCase where
  apply : String → String
  apply_apply : ∀ s, apply (apply s) = apply s
  trim_apply : ∀ s, trim s = s → trim (apply s) = apply s

/-- A date in milliseconds, unless it is invalid. -/
abbrev DateValue := Option ℤ

structure VendorIdentityCutoverSnapshot where
  externalSellerSlug : String
  previousVendorId : String
  replacementVendorId : String
  approvedCutoverAt : DateValue
  active : Bool
  activatedAt : Option DateValue
  deriving DecidableEq

inductive CanonicalOrderSource
  | shopifyAdminGraphql
  deriving DecidableEq

structure CanonicalOrder where
  orderGid : Option String
  createdAtUtc : Option String
  source : Option CanonicalOrderSource
  deriving DecidableEq

inductive VendorIdentityAuthority
  | legacySlug | approvedCutover
  deriving DecidableEq

/-- The reasons of a `VendorIdentityRoutingError`. -/
inductive RoutingReason
  | sellerSlugMissing | conflictingCutoverConfiguration | invalidCutoverConfiguration
  | shopifyOrderIdentityMissing | shopifyOrderTimeMissingOrInvalid
  | shopifyOrderAuthorityUnverified | unknownVendor | shopifyOrderIdentityMismatch
  deriving DecidableEq

/-! ## One slug -/

def validUtcInstant (value : Option String) : DateValue :=
  value.bind fun value => (scan value.toList).bind fun t => (newDate t).bind fun timestamp =>
    if toISOString timestamp = isoText value.toList t then some timestamp else none

/-- `/^[a-z0-9][a-z0-9_-]*$/`. -/
def isSellerSlug (s : String) : Bool :=
  let alnum (c : Char) := decide ('a' ≤ c ∧ c ≤ 'z' ∨ '0' ≤ c ∧ c ≤ '9')
  match s.toList with
  | [] => false
  | c :: cs => alnum c && cs.all fun d => alnum d || d = '_' || d = '-'

def validCutover (mapping : VendorIdentityCutoverSnapshot) (slug : String) : Bool :=
  decide (mapping.externalSellerSlug = slug) && isSellerSlug mapping.externalSellerSlug &&
    decide (mapping.previousVendorId ≠ "" ∧ mapping.replacementVendorId ≠ "") &&
    decide (mapping.previousVendorId = slug) &&
    decide (mapping.previousVendorId ≠ mapping.replacementVendorId) &&
    mapping.approvedCutoverAt.isSome &&
    (if mapping.active then mapping.activatedAt.any Option.isSome
      else decide (mapping.activatedAt = none))

def ORDER_GID : String := "gid://shopify/Order/"

/-- `/^gid:\/\/shopify\/Order\/[0-9]+$/`. -/
def isOrderGid (s : String) : Bool :=
  let number := s.toList.drop ORDER_GID.toList.length
  ORDER_GID.toList.isPrefixOf s.toList && decide (number ≠ []) &&
    number.all fun c => (digitValue c).isSome

/-- The length of what `/\.(\d+)Z$/` captures, and `0` when it does not match. -/
def fractionalDigits (s : List Char) : ℕ :=
  match s.reverse with
  | 'Z' :: rest =>
      if (rest.dropWhile fun c => (digitValue c).isSome).head? = some '.' then
        (rest.takeWhile fun c => (digitValue c).isSome).length
      else 0
  | _ => 0

/-- The trimmed and lower-cased slug; a missing one is the empty text. -/
def normalizeSlug (lower : LowerCase) (slug : Option String) : String :=
  (slug.map fun s => lower.apply (trim s)).getD ""

/-- The order's time decides which vendor of an active cutover an order belongs to. -/
def resolveCutover (mapping : VendorIdentityCutoverSnapshot)
    (canonicalOrder : Option CanonicalOrder) (knownVendorIds : List String) :
    Except RoutingReason (String × VendorIdentityAuthority) :=
  if canonicalOrder.bind (·.source) ≠ some .shopifyAdminGraphql then
    .error .shopifyOrderAuthorityUnverified
  else if isOrderGid ((canonicalOrder.bind (·.orderGid)).getD "") = false then
    .error .shopifyOrderIdentityMissing
  else match validUtcInstant (canonicalOrder.bind (·.createdAtUtc)),
      mapping.approvedCutoverAt with
    | some createdAt, some approvedCutoverAt =>
        let digits := ((canonicalOrder.bind (·.createdAtUtc)).map
          fun text => fractionalDigits text.toList).getD 0
        -- Lower-than-millisecond precision cannot establish the boundary second.
        if digits < 3 ∧ createdAt / 1000 = approvedCutoverAt / 1000 then
          .error .shopifyOrderTimeMissingOrInvalid
        else
          let vendorId := if createdAt < approvedCutoverAt then mapping.previousVendorId
            else mapping.replacementVendorId
          if vendorId ∈ knownVendorIds then .ok (vendorId, .approvedCutover)
          else .error .unknownVendor
    | _, _ => .error .shopifyOrderTimeMissingOrInvalid

def resolveVendorIdentity (lower : LowerCase) (externalSellerSlug : Option String)
    (canonicalOrder : Option CanonicalOrder) (cutovers : List VendorIdentityCutoverSnapshot)
    (knownVendorIds : List String) : Except RoutingReason (String × VendorIdentityAuthority) :=
  let slug := normalizeSlug lower externalSellerSlug
  if slug = "" then .error .sellerSlugMissing
  else match cutovers.filter fun mapping => decide (mapping.externalSellerSlug = slug) with
    | [] =>
        if slug ∈ knownVendorIds then .ok (slug, .legacySlug) else .error .unknownVendor
    | [mapping] =>
        if validCutover mapping slug = false then .error .invalidCutoverConfiguration
        else if mapping.active = false then
          if slug ∈ knownVendorIds then .ok (slug, .legacySlug) else .error .unknownVendor
        else resolveCutover mapping canonicalOrder knownVendorIds
    | _ :: _ :: _ => .error .conflictingCutoverConfiguration

/-! ## An order -/

structure OrderSellerEvidence where
  sellerSlugs : List (Option String)
  sourceShopifyOrderId : String
  canonicalOrder : Option CanonicalOrder
  cutovers : List VendorIdentityCutoverSnapshot
  knownVendorIds : List String

namespace OrderSellerEvidence

/-- The distinct normalized slugs, in the order of the lines. -/
def slugs (input : OrderSellerEvidence) (lower : LowerCase) : List String :=
  (input.sellerSlugs.map (normalizeSlug lower)).eraseDups

def expectedGid (input : OrderSellerEvidence) : String := ORDER_GID ++ input.sourceShopifyOrderId

end OrderSellerEvidence

/-- A slug with its vendor, an entry of the map. -/
def resolveSlug (lower : LowerCase) (input : OrderSellerEvidence) (slug : String) :
    Except RoutingReason (String × String) :=
  (resolveVendorIdentity lower (some slug) input.canonicalOrder input.cutovers
    input.knownVendorIds).map fun result => (slug, result.1)

/-- The vendor of each slug of an order. -/
def resolveOrderSellerVendorsFromEvidence (lower : LowerCase) (input : OrderSellerEvidence) :
    Except RoutingReason (List (String × String)) :=
  let slugs := input.slugs lower
  if "" ∈ slugs then .error .sellerSlugMissing
  else if (input.cutovers.any fun mapping =>
        mapping.active && decide (mapping.externalSellerSlug ∈ slugs)) = true ∧
      input.canonicalOrder.bind (·.orderGid) ≠ some input.expectedGid then
    .error .shopifyOrderIdentityMismatch
  else slugs.mapM (resolveSlug lower input)

end VendorDashboard.Shopify
