import MarketplaceService.Lib.CalendarTime
import MarketplaceService.Lib.MachineInt
import MarketplaceService.Lib.Serde
import MarketplaceService.Lib.Text

/-!
The commands that clients send: the envelope of `parse_command` and the payload
of each of its kinds.
-/

namespace MarketplaceService.Commands

open CalendarTime (DateTime)

abbrev I64 := Serde.Bounded MachineInt.minimum MachineInt.maximum

theorem zero_fits : MachineInt.minimum ≤ 0 ∧ 0 ≤ MachineInt.maximum := by decide

abbrev I32 := Serde.Bounded (-2 ^ 31) (2 ^ 31 - 1)

abbrev U32 := Serde.Bounded 0 (2 ^ 32 - 1)

abbrev U64 := Serde.Bounded 0 (2 ^ 64 - 1)

def commerceContractVersion : U64 := ⟨1, by decide⟩

def maxSafeInteger : ℤ := 9007199254740991

def isLowerHexChar (char : Char) : Bool :=
  char.isDigit || (decide ('a' ≤ char) && decide (char ≤ 'f'))

/-- Eight, four, four, four and twelve lowercase hexadecimal digits. -/
def isHyphenated (text : String) : Bool :=
  text.toList.length == 36 && text.toList.zipIdx.all fun (char, index) =>
    if index ∈ [8, 13, 18, 23] then char == '-' else isLowerHexChar char

/-- A `Uuid` by the text it is printed as. -/
structure Uuid where
  text : String
  hyphenated : isHyphenated text = true

structure ValidationIssue where
  path : String
  message : String
deriving DecidableEq

structure Money where
  amountMinor : I64
  currency : String
  exponent : I32
deriving DecidableEq

def Money.sameAsset (money other : Money) : Bool :=
  money.currency == other.currency && money.exponent == other.exponent

inductive SaleFormat where
  | fixedPrice
  | auction
deriving DecidableEq

inductive FulfillmentMethod where
  | shipping
  | pickup
  | digital
deriving DecidableEq

def defaultFulfillmentMethods : List FulfillmentMethod := [.shipping]

def defaultTitle : String := "Marketplace item"

structure AuctionTerms where
  startsAt : DateTime
  endsAt : DateTime
  minimumIncrement : Money
  antiSnipingWindowSeconds : I64
  antiSnipingExtensionSeconds : I64

structure AuctionReserve where
  expectedRecordRevision : I64
  recordRevision : I64
  reservePrice : Option Money

structure DigitalLockMetadata where
  policyUri : String
  criterionId : String

structure RegisterListingPayload where
  sellerPubky : String
  listingId : String
  title : String
  listingRevision : I64
  contentHash : String
  quantity : I64
  unitPrice : Money
  shippingMinor : I64
  saleFormat : SaleFormat
  auctionTerms : Option AuctionTerms
  auctionReserve : Option AuctionReserve
  fulfillmentMethods : List FulfillmentMethod
  digitalLock : Option DigitalLockMetadata

structure SyncListingPayload where
  sellerPubky : String
  listingId : String

structure SyncDropPayload where
  sellerPubky : String
  dropId : String

/-- `CancelDropPayload`, `ReleaseDropListingsPayload` and `CloseAuctionPayload`. -/
structure EmptyPayload where

structure ReserveInventoryPayload where
  quantity : I64
  reservationTtlSeconds : I64

structure VariantOption where
  name : String
  value : String

structure CheckoutLine where
  listingAggregateId : String
  expectedRevision : I64
  quantity : I64
  variantId : Option String
  variantOptions : Option (List VariantOption)
  fulfillment : Option FulfillmentMethod

structure DeliveryAddress where
  name : String
  line1 : String
  line2 : String
  city : String
  region : String
  postalCode : String
  countryCode : String

structure CreateCheckoutPayload where
  lines : List CheckoutLine
  deliveryAddress : Option DeliveryAddress
  deliveryEmail : Option String
  guaranteePolicyVersion : U32

structure SetDeliveryEmailPayload where
  orderId : Uuid
  deliveryEmail : String

inductive DigitalDeliveryChannel where
  | email
  | message
deriving DecidableEq

structure DeliverDigitalPayload where
  orderId : Uuid
  channel : DigitalDeliveryChannel

structure OfferTermsPayload where
  amount : Money
  quantity : I64
  expiresInSeconds : I64
  message : String

structure CounterOfferPayload where
  offerId : Uuid
  amount : Money
  quantity : I64
  expiresInSeconds : I64
  message : String

structure OfferActionPayload where
  offerId : Uuid

structure OfferCheckoutPayload where
  offerId : Uuid
  awardId : Uuid
  listingAggregateId : String
  listingRevision : I64
  listingRecordSha256 : String
  variantId : String
  quantity : I64
  deliveryAddress : Option DeliveryAddress
  fulfillment : Option FulfillmentMethod
  guaranteePolicyVersion : U32

structure PlaceBidPayload where
  maximumAmount : Money

inductive SandboxPaymentTarget where
  | detected
  | confirmed
  | expired
  | manualReview
deriving DecidableEq

structure AdvanceSandboxPaymentPayload where
  paymentId : Uuid
  target : SandboxPaymentTarget
  confirmations : I64

structure RegisterLocksPayload where
  paymentId : Uuid
  bundleId : String

structure PrepareLocksPayload where
  paymentId : Uuid

structure OrderActionPayload where
  orderId : Uuid

structure RequestCancellationPayload where
  orderId : Uuid
  reason : String

structure ShipOrderPayload where
  orderId : Uuid
  carrier : String
  trackingNumber : String

inductive PickupDetailsKind where
  | address
  | spot
deriving DecidableEq

structure PickupWindow where
  day : String
  start : String
  finish : String

structure PickupAvailability where
  windows : Option (List PickupWindow)
  zone : String

structure PickupDetails where
  kind : PickupDetailsKind
  address : Option DeliveryAddress
  spot : Option String
  instructions : String
  availability : PickupAvailability

structure SetPickupDetailsPayload where
  expectedVersion : I64
  details : PickupDetails

structure ClearPickupDetailsPayload where
  expectedVersion : I64

structure DigitalFile where
  deliverableId : String
  version : I64
  key : String
  iv : String
  ciphertextBlake3 : String
  plaintextBlake3 : String
  sizeBytes : I64
  contentType : String
  fileName : String

inductive DigitalDelivery where
  | file (file : DigitalFile)
  | link (url : String)
  | text (text : String)
  | email
  | message

structure SetDigitalDeliveryPayload where
  expectedVersion : I64
  delivery : DigitalDelivery

structure ClearDigitalDeliveryPayload where
  expectedVersion : I64

structure RequestReturnPayload where
  orderId : Uuid
  reason : String
  requestedAmountMinor : I64

structure RecordExternalRefundPayload where
  orderId : Uuid
  amountMinor : I64
  transactionId : String

structure ReviewTermsPayload where
  orderId : Uuid
  rating : I64
  text : String
  allowAmountBand : Bool

structure SetBandConsentPayload where
  allowsAmountBand : Bool

inductive CommandPayload where
  | registerListing (payload : RegisterListingPayload)
  | syncListing (payload : SyncListingPayload)
  | syncDrop (payload : SyncDropPayload)
  | cancelDrop (payload : EmptyPayload)
  | releaseDropListings (payload : EmptyPayload)
  | reserveInventory (payload : ReserveInventoryPayload)
  | createCheckout (payload : CreateCheckoutPayload)
  | createOffer (payload : OfferTermsPayload)
  | counterOffer (payload : CounterOfferPayload)
  | acceptOffer (payload : OfferActionPayload)
  | offerCheckout (payload : OfferCheckoutPayload)
  | rejectOffer (payload : OfferActionPayload)
  | withdrawOffer (payload : OfferActionPayload)
  | placeBid (payload : PlaceBidPayload)
  | closeAuction (payload : EmptyPayload)
  | advanceSandboxPayment (payload : AdvanceSandboxPaymentPayload)
  | prepareLocks (payload : PrepareLocksPayload)
  | registerLocks (payload : RegisterLocksPayload)
  | requestCancellation (payload : RequestCancellationPayload)
  | approveCancellation (payload : OrderActionPayload)
  | shipOrder (payload : ShipOrderPayload)
  | confirmDelivery (payload : OrderActionPayload)
  | setPickupDetails (payload : SetPickupDetailsPayload)
  | clearPickupDetails (payload : ClearPickupDetailsPayload)
  | setDigitalDelivery (payload : SetDigitalDeliveryPayload)
  | clearDigitalDelivery (payload : ClearDigitalDeliveryPayload)
  | setDeliveryEmail (payload : SetDeliveryEmailPayload)
  | deliverDigital (payload : DeliverDigitalPayload)
  | markReadyForPickup (payload : OrderActionPayload)
  | confirmPickup (payload : OrderActionPayload)
  | requestReturn (payload : RequestReturnPayload)
  | approveReturn (payload : OrderActionPayload)
  | receiveReturn (payload : OrderActionPayload)
  | recordExternalRefund (payload : RecordExternalRefundPayload)
  | createReview (payload : ReviewTermsPayload)
  | updateReview (payload : ReviewTermsPayload)
  | setBandConsent (payload : SetBandConsentPayload)

structure RawEnvelope where
  version : U64
  commandId : Uuid
  aggregateId : String
  expectedRevision : I64
  issuedAt : DateTime
  kind : String
  payload : Serde.Value

structure Command where
  commandId : Uuid
  aggregateId : String
  expectedRevision : I64
  issuedAt : DateTime
  payload : CommandPayload

/-- Code of other packages that commands are read and hashed with: what the
`uuid`, `chrono` and `url` parsers accept (of a URL its scheme and host), the text
of the `serde` error for a type, and the bytes and digest of a JSON value. -/
structure Externals where
  parseUuid : String → Option Uuid
  parseTime : String → Option DateTime
  parseUrl : String → Option (String × Option String)
  serdeError : String → Serde.Value → String
  toVec : Serde.Value → List UInt8
  sha256 : List UInt8 → List UInt8
  parseUuid_text : ∀ uuid, parseUuid uuid.text = some uuid
  parseTime_rfc3339 : ∀ format time,
    parseTime (CalendarTime.rfc3339 format time) = some (time.truncated format)

end MarketplaceService.Commands
