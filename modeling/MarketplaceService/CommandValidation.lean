import MarketplaceService.CommandCodecs
import MarketplaceService.LockResource
import MarketplaceService.Postal

/-!
The checks of each payload. A check that also normalizes gives its issues
together with the normalized value; a payload is accepted when it has no issue.
-/

namespace MarketplaceService.Commands

/-- One issue, unless the condition holds. -/
def check (condition : Bool) (path message : String) : List ValidationIssue :=
  if condition then [] else [⟨path, message⟩]

/-- `(low..=high).contains`. -/
def within (low high value : ℤ) : Bool := decide (low ≤ value) && decide (value ≤ high)

/-- The value, or its issues. -/
def report {α : Type} (checked : List ValidationIssue × α) : Except (List ValidationIssue) α :=
  if checked.1 = [] then .ok checked.2 else .error checked.1

/-! Texts. -/

def isUpperAscii (char : Char) : Bool := decide ('A' ≤ char) && decide (char ≤ 'Z')

def isLowerAscii (char : Char) : Bool := decide ('a' ≤ char) && decide (char ≤ 'z')

def isIdChar (char : Char) : Bool :=
  isUpperAscii char || isLowerAscii char || char.isDigit || char == '_' || char == '-'

/-- So many characters of a class. -/
def spans (low high : ℕ) (accepts : Char → Bool) (text : List Char) : Bool :=
  decide (low ≤ text.length) && decide (text.length ≤ high) && text.all accepts

/-- `aggregate_id_regex`. -/
def isAggregateId (value : String) : Bool :=
  match Text.splitOnce [':'] value.toList with
  | some (first :: kind, id) =>
      isLowerAscii first &&
        spans 1 31 (fun char => isLowerAscii char || char.isDigit || char == '_' || char == '-')
          kind &&
        spans 1 256 isIdChar id
  | _ => false

/-- `entity_id_regex`. -/
def isEntityId (value : String) : Bool := spans 1 128 isIdChar value.toList

/-- `content_hash_regex`. -/
def isContentHash (value : String) : Bool := spans 64 64 isLowerHexChar value.toList

/-- `currency_regex`. -/
def isCurrency (value : String) : Bool :=
  match value.toList with
  | first :: rest =>
      isUpperAscii first && spans 2 11 (fun char => isUpperAscii char || char.isDigit) rest
  | [] => false

/-- `country_code_regex`. -/
def isCountryCode (value : String) : Bool := spans 2 2 isUpperAscii value.toList

/-- `crockford_bundle_id_regex`. -/
def isBundleId (value : String) : Bool :=
  spans 26 26 (fun char => Base32.crockford.contains char) value.toList

/-- `hhmm_regex`. -/
def isHhmm (value : String) : Bool :=
  match value.toList with
  | [hour, hours, ':', minute, minutes] =>
      ((hour == '0' || hour == '1') && hours.isDigit ||
        hour == '2' && decide ('0' ≤ hours) && decide (hours ≤ '3')) &&
      decide ('0' ≤ minute) && decide (minute ≤ '5') && minutes.isDigit
  | _ => false

def isControl (char : Char) : Bool :=
  decide (char.toNat ≤ 0x1F) || decide (0x7F ≤ char.toNat) && decide (char.toNat ≤ 0x9F)

def weekdays : List String := ["mon", "tue", "wed", "thu", "fri", "sat", "sun"]

def isLowerHex (value : String) (length : ℕ) : Bool :=
  value.utf8ByteSize == length && value.toList.all isLowerHexChar

def isTokenChar (char : Char) : Bool :=
  isUpperAscii char || isLowerAscii char || char.isDigit || "!#$&-^_.+".toList.contains char

def isValidContentType (value : String) : Bool :=
  match Text.splitOnce ['/'] value.toList with
  | some (kind, subtype) =>
      decide (value.utf8ByteSize ≤ 127) && (!kind.isEmpty && kind.all isTokenChar) &&
        (!subtype.isEmpty && subtype.all isTokenChar)
  | none => false

def isValidFileName (value : String) : Bool :=
  within 1 255 value.length && Text.trim value == value && value != "." && value != ".." &&
    !value.toList.any fun char => isControl char || char == '/' || char == '\\'

def isValidDigitalLink (externals : Externals) (value : String) : Bool :=
  decide (value.length ≤ 2048) &&
    !(value.toList.any fun char => isControl char || Text.isWhitespace char) &&
    match externals.parseUrl value with
    | some (scheme, some host) => scheme == "https" && host != ""
    | _ => false

/-! Shared checks. -/

def validateMoney (path : String) (money : Money) : List ValidationIssue :=
  check (within 0 maxSafeInteger money.amountMinor) (path ++ ".amount_minor")
      "Expected a non-negative safe integer amount" ++
    check (isCurrency money.currency) (path ++ ".currency") "Expected an uppercase asset code" ++
    check (within 0 18 money.exponent) (path ++ ".exponent")
      "Expected an exponent between 0 and 18"

def validatePositiveMoney (path : String) (money : Money) : List ValidationIssue :=
  validateMoney path money ++
    check (decide (0 < money.amountMinor.val)) (path ++ ".amount_minor")
      "Expected a positive monetary amount"

def validateTrimmed (path value : String) (min max : ℕ) : List ValidationIssue × String :=
  let trimmed := Text.trim value
  (check (within min max trimmed.length) path s!"Expected between {min} and {max} characters",
    trimmed)

def validatePrintable (path value : String) : List ValidationIssue :=
  check (!value.toList.any isControl) path "Expected printable characters only"

def validateRange (path message : String) (low high value : ℤ) : List ValidationIssue :=
  check (within low high value) path message

def validatePubky (value : String) : List ValidationIssue :=
  check (isValidPubky value.toList) "payload.seller_pubky"
    "Expected a 52-character z-base-32 Pubky"

def validateEntityId (path value : String) : List ValidationIssue :=
  check (isEntityId value) path "Expected a path-safe commerce identifier"

def validateAggregateId (path value : String) : List ValidationIssue :=
  check (isAggregateId value) path "Expected type:identifier aggregate format"

def validateQuantity (path : String) (quantity : I64) : List ValidationIssue :=
  validateRange path "Expected a quantity between 1 and 1000000" 1 1000000 quantity

def validatePolicyVersion (version : U32) : List ValidationIssue :=
  check (version.val == 1) "payload.guarantee_policy_version"
    "Expected guarantee policy version 1"

def validateDeliveryAddress (path : String) (address : DeliveryAddress) :
    List ValidationIssue × DeliveryAddress :=
  let name := validateTrimmed (path ++ ".name") address.name 1 100
  let line1 := validateTrimmed (path ++ ".line1") address.line1 1 200
  let line2 := validateTrimmed (path ++ ".line2") address.line2 0 200
  let city := validateTrimmed (path ++ ".city") address.city 1 100
  let postalCode := validateTrimmed (path ++ ".postal_code") address.postalCode 1 32
  let region :=
    if isCountryCode address.countryCode then
      match canonicalizeRegion address.countryCode address.region with
      | .ok region => ([], region)
      | .error message => ([⟨path ++ ".region", message⟩], address.region)
    else
      let region := Text.trim address.region
      (⟨path ++ ".country_code", "Expected an ISO 3166-1 alpha-2 country code"⟩ ::
        check (decide (region.length ≤ 100)) (path ++ ".region") "Expected at most 100 characters",
        region)
  (name.1 ++ line1.1 ++ line2.1 ++ city.1 ++ postalCode.1 ++ region.1,
    { address with
      name := name.2
      line1 := line1.2
      line2 := line2.2
      city := city.2
      region := region.2
      postalCode := postalCode.2 })

/-! Listings and drops. -/

def validateAuctionTerms (unitPrice : Money) (terms : AuctionTerms) : List ValidationIssue :=
  check (decide (terms.startsAt.units < terms.endsAt.units)) "payload.auction_terms.ends_at"
      "Auction end must follow start" ++
    validatePositiveMoney "payload.auction_terms.minimum_increment" terms.minimumIncrement ++
    check (terms.minimumIncrement.sameAsset unitPrice) "payload.auction_terms.minimum_increment"
      "Auction amounts must use the listing asset and exponent" ++
    validateRange "payload.auction_terms.anti_sniping_window_seconds"
      "Expected a window between 0 and 3600 seconds" 0 3600 terms.antiSnipingWindowSeconds ++
    validateRange "payload.auction_terms.anti_sniping_extension_seconds"
      "Expected an extension between 0 and 3600 seconds" 0 3600 terms.antiSnipingExtensionSeconds

def validateReservePrice (unitPrice reservePrice : Money) : List ValidationIssue :=
  validatePositiveMoney "payload.auction_reserve.reserve_price" reservePrice ++
    if reservePrice.sameAsset unitPrice then
      check (decide (unitPrice.amountMinor.val ≤ reservePrice.amountMinor.val))
        "payload.auction_reserve.reserve_price.amount_minor"
        "Auction reserve must not be below the opening price"
    else
      [⟨"payload.auction_reserve.reserve_price",
        "Auction amounts must use the listing asset and exponent"⟩]

def validateAuctionReserve (unitPrice : Money) (reserve : AuctionReserve) :
    List ValidationIssue :=
  validateRange "payload.auction_reserve.expected_record_revision"
      "Expected a non-negative reserve record revision" 0 maxSafeInteger
      reserve.expectedRecordRevision ++
    validateRange "payload.auction_reserve.record_revision"
      "Expected a positive reserve record revision" 1 maxSafeInteger reserve.recordRevision ++
    (reserve.reservePrice.map (validateReservePrice unitPrice)).getD []

def repeatedMethods (seen : List FulfillmentMethod) :
    List FulfillmentMethod → List ValidationIssue
  | [] => []
  | method :: rest =>
      check (!seen.contains method) "payload.fulfillment_methods"
          "Fulfillment methods must be unique" ++
        repeatedMethods (method :: seen) rest

def validateDigitalLock (lock : DigitalLockMetadata) :
    List ValidationIssue × DigitalLockMetadata :=
  let criterion := validateEntityId "payload.digital_lock.criterionId" lock.criterionId
  match canonicalLockResource lock.policyUri with
  | some canonical => (criterion, { lock with policyUri := canonical })
  | none =>
      (⟨"payload.digital_lock.policyUri", "Expected a canonical Locks public resource"⟩ ::
        criterion, lock)

/-- A check of what may be absent. -/
def validateOptional {α : Type} (validate : α → List ValidationIssue × α) :
    Option α → List ValidationIssue × Option α
  | none => ([], none)
  | some value => ((validate value).1, some (validate value).2)

/-- `validate_listing_payload`, before its issues are looked at. -/
def checkListing (requireAuctionReserve : Bool) (payload : RegisterListingPayload) :
    List ValidationIssue × RegisterListingPayload :=
  let title := validateTrimmed "payload.title" payload.title 1 80
  let lock := validateOptional validateDigitalLock payload.digitalLock
  let isAuction := payload.saleFormat == .auction
  let hasReserve := payload.auctionReserve.isSome
  (validatePubky payload.sellerPubky ++
    validateEntityId "payload.listing_id" payload.listingId ++ title.1 ++
    validateRange "payload.listing_revision" "Expected a positive listing revision" 1
      maxSafeInteger payload.listingRevision ++
    check (isContentHash payload.contentHash) "payload.content_hash"
      "Expected a 64-character lowercase hex hash" ++
    validateQuantity "payload.quantity" payload.quantity ++
    validatePositiveMoney "payload.unit_price" payload.unitPrice ++
    validateRange "payload.shipping_minor" "Expected a non-negative shipping amount" 0
      maxSafeInteger payload.shippingMinor ++
    check (isAuction == payload.auctionTerms.isSome) "payload.auction_terms"
      "Auction format and terms must be configured together" ++
    check (!(!isAuction && hasReserve || requireAuctionReserve && isAuction && !hasReserve))
      "payload.auction_reserve"
      "Auction format and reserve authority must be configured together" ++
    (payload.auctionTerms.map (validateAuctionTerms payload.unitPrice)).getD [] ++
    (payload.auctionReserve.map (validateAuctionReserve payload.unitPrice)).getD [] ++
    check (!payload.fulfillmentMethods.isEmpty) "payload.fulfillment_methods"
      "Expected at least one fulfillment method" ++
    repeatedMethods [] payload.fulfillmentMethods ++
    check (!(isAuction && payload.fulfillmentMethods != [.shipping])) "payload.fulfillment_methods"
      "Auction listings are shipping-only" ++ lock.1,
    { payload with
      title := title.2
      digitalLock := lock.2 })

def validateListingPayload (requireAuctionReserve : Bool) (payload : RegisterListingPayload) :
    Except (List ValidationIssue) RegisterListingPayload :=
  report (checkListing requireAuctionReserve payload)

def validateRegisterListingPayload := validateListingPayload true

def validatePublicListingPayload := validateListingPayload false

def validateSyncListing (payload : SyncListingPayload) :
    Except (List ValidationIssue) SyncListingPayload :=
  report (validatePubky payload.sellerPubky ++
    validateEntityId "payload.listing_id" payload.listingId, payload)

def validateSyncDrop (payload : SyncDropPayload) :
    Except (List ValidationIssue) SyncDropPayload :=
  report (validatePubky payload.sellerPubky ++
    validateEntityId "payload.drop_id" payload.dropId, payload)

def validateReserveInventory (payload : ReserveInventoryPayload) :
    Except (List ValidationIssue) ReserveInventoryPayload :=
  report (validateQuantity "payload.quantity" payload.quantity ++
    validateRange "payload.reservation_ttl_seconds"
      "Expected a reservation TTL between 60 and 1800 seconds" 60 1800
      payload.reservationTtlSeconds, payload)

/-! Offers and bids. -/

def validateOfferTerms (amount : Money) (quantity expiresInSeconds : I64) (message : String) :
    List ValidationIssue × String :=
  let message := validateTrimmed "payload.message" message 0 500
  (validatePositiveMoney "payload.amount" amount ++
    validateQuantity "payload.quantity" quantity ++
    validateRange "payload.expires_in_seconds"
      "Expected an offer lifetime between 300 and 604800 seconds" 300 604800 expiresInSeconds ++
    message.1, message.2)

def validateCreateOffer (payload : OfferTermsPayload) :
    Except (List ValidationIssue) OfferTermsPayload :=
  let terms := validateOfferTerms payload.amount payload.quantity payload.expiresInSeconds
    payload.message
  report (terms.1, { payload with message := terms.2 })

def validateCounterOffer (payload : CounterOfferPayload) :
    Except (List ValidationIssue) CounterOfferPayload :=
  let terms := validateOfferTerms payload.amount payload.quantity payload.expiresInSeconds
    payload.message
  report (terms.1, { payload with message := terms.2 })

def checkOfferAddress (fulfillment : FulfillmentMethod) (address : Option DeliveryAddress) :
    List ValidationIssue × Option DeliveryAddress :=
  match fulfillment, address with
  | .shipping, some address =>
      let checked := validateDeliveryAddress "payload.delivery_address" address
      (checked.1, some checked.2)
  | .shipping, none =>
      ([⟨"payload.delivery_address", "A delivery address is required when the offer ships"⟩], none)
  | .pickup, some address =>
      ([⟨"payload.delivery_address",
        "A pickup offer checkout must not carry a delivery address"⟩], some address)
  | .pickup, none => ([], none)
  | .digital, address =>
      ([⟨"payload.fulfillment", "Offer checkout supports shipping or pickup"⟩], address)

def validateOfferCheckout (payload : OfferCheckoutPayload) :
    Except (List ValidationIssue) OfferCheckoutPayload :=
  let address := checkOfferAddress (payload.fulfillment.getD .shipping) payload.deliveryAddress
  report (validateAggregateId "payload.listing_aggregate_id" payload.listingAggregateId ++
    validateRange "payload.listing_revision" "Expected a positive listing revision" 1
      maxSafeInteger payload.listingRevision ++
    check (isContentHash payload.listingRecordSha256) "payload.listing_record_sha256"
      "Expected a 64-character lowercase hex hash" ++
    validateEntityId "payload.variant_id" payload.variantId ++
    validateQuantity "payload.quantity" payload.quantity ++ address.1 ++
    validatePolicyVersion payload.guaranteePolicyVersion,
    { payload with deliveryAddress := address.2 })

def validatePlaceBid (payload : PlaceBidPayload) :
    Except (List ValidationIssue) PlaceBidPayload :=
  report (validatePositiveMoney "payload.maximum_amount" payload.maximumAmount, payload)

/-! Payments, orders and fulfillment. -/

def validateAdvanceSandboxPayment (payload : AdvanceSandboxPaymentPayload) :
    Except (List ValidationIssue) AdvanceSandboxPaymentPayload :=
  report (validateRange "payload.confirmations" "Expected between 0 and 6 confirmations" 0 6
    payload.confirmations, payload)

def validateRegisterLocks (payload : RegisterLocksPayload) :
    Except (List ValidationIssue) RegisterLocksPayload :=
  report (check (isBundleId payload.bundleId) "payload.bundle_id"
    "Expected a canonical 26-character Crockford-base32 bundle id", payload)

def validateRequestCancellation (payload : RequestCancellationPayload) :
    Except (List ValidationIssue) RequestCancellationPayload :=
  let reason := validateTrimmed "payload.reason" payload.reason 1 500
  report (reason.1, { payload with reason := reason.2 })

def validateShipOrder (payload : ShipOrderPayload) :
    Except (List ValidationIssue) ShipOrderPayload :=
  let carrier := validateTrimmed "payload.carrier" payload.carrier 1 100
  let trackingNumber := validateTrimmed "payload.tracking_number" payload.trackingNumber 1 200
  report (carrier.1 ++ validatePrintable "payload.carrier" carrier.2 ++ trackingNumber.1 ++
    validatePrintable "payload.tracking_number" trackingNumber.2,
    { payload with
      carrier := carrier.2
      trackingNumber := trackingNumber.2 })

def validateRequestReturn (payload : RequestReturnPayload) :
    Except (List ValidationIssue) RequestReturnPayload :=
  let reason := validateTrimmed "payload.reason" payload.reason 1 1000
  report (reason.1 ++ validateRange "payload.requested_amount_minor"
    "Expected a positive requested amount" 1 maxSafeInteger payload.requestedAmountMinor,
    { payload with reason := reason.2 })

def validateRecordExternalRefund (payload : RecordExternalRefundPayload) :
    Except (List ValidationIssue) RecordExternalRefundPayload :=
  let transactionId := validateTrimmed "payload.transaction_id" payload.transactionId 8 200
  report (validateRange "payload.amount_minor" "Expected a positive refund amount" 1
    maxSafeInteger payload.amountMinor ++ transactionId.1,
    { payload with transactionId := transactionId.2 })

def validateReviewTerms (payload : ReviewTermsPayload) :
    Except (List ValidationIssue) ReviewTermsPayload :=
  let text := validateTrimmed "payload.text" payload.text 1 5000
  report (validateRange "payload.rating" "Expected a rating between 1 and 5" 1 5 payload.rating ++
    text.1, { payload with text := text.2 })

/-! Pickup details and digital deliveries. -/

def validateSpot (spot : String) : List ValidationIssue × String :=
  let spot := validateTrimmed "payload.details.spot" spot 1 200
  (spot.1 ++ validatePrintable "payload.details.spot" spot.2, spot.2)

def checkPickupPlace (kind : PickupDetailsKind) (address : Option DeliveryAddress)
    (spot : Option String) : List ValidationIssue × Option DeliveryAddress × Option String :=
  match kind with
  | .address =>
      let checked := validateOptional (validateDeliveryAddress "payload.details.address") address
      (checked.1 ++ check address.isSome "payload.details.address"
          "Address-kind pickup details require an address" ++
        check spot.isNone "payload.details.spot"
          "Address-kind pickup details cannot carry a spot", checked.2, spot)
  | .spot =>
      let checked := validateOptional validateSpot spot
      (checked.1 ++ check spot.isSome "payload.details.spot"
          "Spot-kind pickup details require a meeting point" ++
        check address.isNone "payload.details.address"
          "Spot-kind pickup details cannot carry an address", address, checked.2)

def validateWindow (index : ℕ) (window : PickupWindow) : List ValidationIssue :=
  let path := s!"payload.details.availability.windows.{index}"
  check (weekdays.contains window.day) (path ++ ".day") "Expected a weekday (mon..sun)" ++
    check (isHhmm window.start) (path ++ ".start") "Expected a 24-hour HH:MM wall-clock time" ++
    check (isHhmm window.finish) (path ++ ".end") "Expected a 24-hour HH:MM wall-clock time" ++
    check (!(isHhmm window.start && isHhmm window.finish && decide (window.finish ≤ window.start)))
      (path ++ ".end") "Window end must follow start"

def validateWindows (windows : List PickupWindow) : List ValidationIssue :=
  check (within 1 14 windows.length) "payload.details.availability.windows"
      "Expected between 1 and 14 availability windows" ++
    windows.zipIdx.flatMap fun (window, index) => validateWindow index window

def validatePickupDetails (details : PickupDetails) : List ValidationIssue × PickupDetails :=
  let place := checkPickupPlace details.kind details.address details.spot
  let instructions := validateTrimmed "payload.details.instructions" details.instructions 0 1000
  let zone := validateTrimmed "payload.details.availability.zone" details.availability.zone 3 64
  (place.1 ++ instructions.1 ++
    validatePrintable "payload.details.instructions" instructions.2 ++ zone.1 ++
    validatePrintable "payload.details.availability.zone" zone.2 ++
    check (zone.2.toList.contains '/') "payload.details.availability.zone"
      "Expected an IANA timezone (Area/City)" ++
    (details.availability.windows.map validateWindows).getD [],
    { details with
      address := place.2.1
      spot := place.2.2
      instructions := instructions.2
      availability := { details.availability with zone := zone.2 } })

def validateSetPickupDetails (payload : SetPickupDetailsPayload) :
    Except (List ValidationIssue) SetPickupDetailsPayload :=
  let details := validatePickupDetails payload.details
  report (validateRange "payload.expected_version" "Expected a non-negative details version" 0
    maxSafeInteger payload.expectedVersion ++ details.1, { payload with details := details.2 })

def validateClearPickupDetails (payload : ClearPickupDetailsPayload) :
    Except (List ValidationIssue) ClearPickupDetailsPayload :=
  report (validateRange "payload.expected_version" "Expected a non-negative details version" 0
    maxSafeInteger payload.expectedVersion, payload)

def validateLowerHex (path message value : String) (length : ℕ) : List ValidationIssue :=
  check (isLowerHex value length) path message

def validateDigitalFile (expectedVersion : I64) (file : DigitalFile) : List ValidationIssue :=
  validateLowerHex "payload.delivery.deliverable_id"
      "Expected 32 lowercase hexadecimal characters" file.deliverableId 32 ++
    check (file.version.val == MachineInt.wrap (expectedVersion.val + 1)) "payload.delivery.version"
      "Expected the next delivery version" ++
    validateLowerHex "payload.delivery.key" "Expected 64 lowercase hexadecimal characters"
      file.key 64 ++
    validateLowerHex "payload.delivery.iv" "Expected 24 lowercase hexadecimal characters"
      file.iv 24 ++
    validateLowerHex "payload.delivery.ciphertext_blake3"
      "Expected 64 lowercase hexadecimal characters" file.ciphertextBlake3 64 ++
    validateLowerHex "payload.delivery.plaintext_blake3"
      "Expected 64 lowercase hexadecimal characters" file.plaintextBlake3 64 ++
    check (decide (1 ≤ file.sizeBytes.val)) "payload.delivery.size_bytes"
      "Expected a positive file size" ++
    check (isValidContentType file.contentType) "payload.delivery.content_type"
      "Expected a MIME type such as application/pdf" ++
    check (isValidFileName file.fileName) "payload.delivery.file_name"
      "Expected a file name of 1-255 characters without slashes or control characters"

def validateDelivery (externals : Externals) (expectedVersion : I64) :
    DigitalDelivery → List ValidationIssue
  | .file file => validateDigitalFile expectedVersion file
  | .link url =>
      check (isValidDigitalLink externals url) "payload.delivery.url"
        "Expected an https:// link of at most 2048 characters"
  | .text text =>
      check (Text.trim text != "" && decide (text.length ≤ 4000) &&
          !text.toList.contains (Char.ofNat 0)) "payload.delivery.text"
        "Expected 1-4000 characters of text"
  | .email => []
  | .message => []

def validateSetDigitalDelivery (externals : Externals) (payload : SetDigitalDeliveryPayload) :
    Except (List ValidationIssue) SetDigitalDeliveryPayload :=
  report (validateRange "payload.expected_version" "Expected a non-negative delivery version" 0
    (maxSafeInteger - 1) payload.expectedVersion ++
    validateDelivery externals payload.expectedVersion payload.delivery, payload)

def validateClearDigitalDelivery (payload : ClearDigitalDeliveryPayload) :
    Except (List ValidationIssue) ClearDigitalDeliveryPayload :=
  report (validateRange "payload.expected_version" "Expected a non-negative delivery version" 0
    maxSafeInteger payload.expectedVersion, payload)

/-! Checkouts. -/

def validateVariantOption (path : String) (option : VariantOption) :
    List ValidationIssue × VariantOption :=
  let name := validateTrimmed (path ++ ".name") option.name 1 40
  let value := validateTrimmed (path ++ ".value") option.value 1 80
  (name.1 ++ value.1 ++ validatePrintable (path ++ ".name") name.2 ++
    validatePrintable (path ++ ".value") value.2, ⟨name.2, value.2⟩)

def validateVariantOptions (path : String) (index : ℕ) :
    List VariantOption → List ValidationIssue × List VariantOption
  | [] => ([], [])
  | option :: rest =>
      let checked := validateVariantOption s!"{path}.{index}" option
      let others := validateVariantOptions path (index + 1) rest
      (checked.1 ++ others.1, checked.2 :: others.2)

/-- The chosen options of a line: one to three, and only with a variant id. -/
def checkVariantOptions (path : String) (variantId : Option String)
    (options : List VariantOption) : List ValidationIssue × List VariantOption :=
  let checked := validateVariantOptions path 0 options
  (check variantId.isSome path "Variant options require a variant id" ++
    check (within 1 3 options.length) path "Expected between 1 and 3 variant options" ++
    checked.1, checked.2)

def validateLine (index : ℕ) (line : CheckoutLine) : List ValidationIssue × CheckoutLine :=
  let path := s!"payload.lines.{index}"
  let options :=
    validateOptional (checkVariantOptions (path ++ ".variant_options") line.variantId)
      line.variantOptions
  (validateAggregateId (path ++ ".listing_aggregate_id") line.listingAggregateId ++
    validateRange (path ++ ".expected_revision") "Expected a positive expected revision" 1
      maxSafeInteger line.expectedRevision ++
    validateQuantity (path ++ ".quantity") line.quantity ++
    (line.variantId.map (validateEntityId (path ++ ".variant_id"))).getD [] ++ options.1,
    { line with variantOptions := options.2 })

def validateLines (seen : List String) (index : ℕ) :
    List CheckoutLine → List ValidationIssue × List CheckoutLine
  | [] => ([], [])
  | line :: rest =>
      let checked := validateLine index line
      let others := validateLines (line.listingAggregateId :: seen) (index + 1) rest
      (checked.1 ++
        check (!seen.contains line.listingAggregateId) "payload.lines"
          "Checkout listing lines must be unique" ++ others.1, checked.2 :: others.2)

def checkCheckoutAddress (anyShipping allPickup : Bool) (address : Option DeliveryAddress) :
    List ValidationIssue × Option DeliveryAddress :=
  match address, anyShipping with
  | some address, true =>
      let checked := validateDeliveryAddress "payload.delivery_address" address
      (checked.1, some checked.2)
  | some address, false =>
      ([⟨"payload.delivery_address",
        if allPickup then "A pickup-only checkout must not carry a delivery address"
        else "A checkout with no shipped line must not carry a delivery address"⟩], some address)
  | none, true =>
      ([⟨"payload.delivery_address",
        "A delivery address is required when any checkout line ships"⟩], none)
  | none, false => ([], none)

def CheckoutLine.ships (line : CheckoutLine) : Bool :=
  line.fulfillment == none || line.fulfillment == some .shipping

def validateCreateCheckout (payload : CreateCheckoutPayload) :
    Except (List ValidationIssue) CreateCheckoutPayload :=
  let lines := validateLines [] 0 payload.lines
  let address := checkCheckoutAddress (lines.2.any CheckoutLine.ships)
    (lines.2.all fun line => line.fulfillment == some .pickup) payload.deliveryAddress
  report (check (within 1 50 payload.lines.length) "payload.lines"
      "Expected between 1 and 50 checkout lines" ++ lines.1 ++ address.1 ++
      validatePolicyVersion payload.guaranteePolicyVersion,
    { payload with
      lines := lines.2
      deliveryAddress := address.2 })

end MarketplaceService.Commands
