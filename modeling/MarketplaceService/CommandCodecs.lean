import MarketplaceService.CommandTypes

/-!
How commands are written and read as JSON: the `Serialize` and `Deserialize` of
each type of the envelope and of the payloads.
-/

namespace MarketplaceService.Commands

open Serde

def i64 : Codec I64 := bounded _ _

def i32 : Codec I32 := bounded _ _

def u32 : Codec U32 := bounded _ _

def u64 : Codec U64 := bounded _ _

def Externals.uuid (externals : Externals) : Codec Uuid :=
  spelled Uuid.text externals.parseUuid externals.parseUuid_text

def Externals.dateTime (externals : Externals) : Codec CalendarTime.DateTime :=
  spelled (CalendarTime.rfc3339 .autoSi) externals.parseTime
    (externals.parseTime_rfc3339 .autoSi)

/-! Shared types. -/

def moneyFields : Fields Money :=
  (Fields.cons (required "amount_minor" i64) <|
    Fields.cons (required "currency" text) <|
    Fields.cons (required "exponent" i32) Fields.nil).as
  (fun (amountMinor, currency, exponent, _) => ⟨amountMinor, currency, exponent⟩)
  (fun money => (money.amountMinor, money.currency, money.exponent, ()))
  (fun _ => rfl)

def money : Codec Money := record moneyFields

def SaleFormat.name : SaleFormat → String
  | .fixedPrice => "fixed_price"
  | .auction => "auction"

def SaleFormat.ofName : String → Option SaleFormat
  | "fixed_price" => some .fixedPrice
  | "auction" => some .auction
  | _ => none

def saleFormat : Codec SaleFormat :=
  enumeration SaleFormat.name SaleFormat.ofName (by rintro (_ | _) <;> rfl)

def FulfillmentMethod.name : FulfillmentMethod → String
  | .shipping => "shipping"
  | .pickup => "pickup"
  | .digital => "digital"

def FulfillmentMethod.ofName : String → Option FulfillmentMethod
  | "shipping" => some .shipping
  | "pickup" => some .pickup
  | "digital" => some .digital
  | _ => none

def fulfillmentMethod : Codec FulfillmentMethod :=
  enumeration FulfillmentMethod.name FulfillmentMethod.ofName (by rintro (_ | _ | _) <;> rfl)

def DigitalDeliveryChannel.name : DigitalDeliveryChannel → String
  | .email => "email"
  | .message => "message"

def DigitalDeliveryChannel.ofName : String → Option DigitalDeliveryChannel
  | "email" => some .email
  | "message" => some .message
  | _ => none

def digitalDeliveryChannel : Codec DigitalDeliveryChannel :=
  enumeration DigitalDeliveryChannel.name DigitalDeliveryChannel.ofName
    (by rintro (_ | _) <;> rfl)

/-- `as_str`, which is also the serialized name. -/
def SandboxPaymentTarget.asStr : SandboxPaymentTarget → String
  | .detected => "detected"
  | .confirmed => "confirmed"
  | .expired => "expired"
  | .manualReview => "manual_review"

def SandboxPaymentTarget.ofName : String → Option SandboxPaymentTarget
  | "detected" => some .detected
  | "confirmed" => some .confirmed
  | "expired" => some .expired
  | "manual_review" => some .manualReview
  | _ => none

def sandboxPaymentTarget : Codec SandboxPaymentTarget :=
  enumeration SandboxPaymentTarget.asStr SandboxPaymentTarget.ofName
    (by rintro (_ | _ | _ | _) <;> rfl)

def PickupDetailsKind.name : PickupDetailsKind → String
  | .address => "address"
  | .spot => "spot"

def PickupDetailsKind.ofName : String → Option PickupDetailsKind
  | "address" => some .address
  | "spot" => some .spot
  | _ => none

def pickupDetailsKind : Codec PickupDetailsKind :=
  enumeration PickupDetailsKind.name PickupDetailsKind.ofName (by rintro (_ | _) <;> rfl)

def deliveryAddress : Codec DeliveryAddress :=
  record ((Fields.cons (required "name" text) <|
    Fields.cons (required "line1" text) <|
    Fields.cons (required "line2" text) <|
    Fields.cons (required "city" text) <|
    Fields.cons (defaulted "region" text "") <|
    Fields.cons (required "postal_code" text) <|
    Fields.cons (required "country_code" text) Fields.nil).as
  (fun (name, line1, line2, city, region, postalCode, countryCode, _) =>
    ⟨name, line1, line2, city, region, postalCode, countryCode⟩)
  (fun address => (address.name, address.line1, address.line2, address.city, address.region,
    address.postalCode, address.countryCode, ()))
  (fun _ => rfl))

/-! Listings and drops. -/

def Externals.auctionTerms (externals : Externals) : Codec AuctionTerms :=
  record ((Fields.cons (required "starts_at" externals.dateTime) <|
    Fields.cons (required "ends_at" externals.dateTime) <|
    Fields.cons (required "minimum_increment" money) <|
    Fields.cons (required "anti_sniping_window_seconds" i64) <|
    Fields.cons (required "anti_sniping_extension_seconds" i64) Fields.nil).as
  (fun (startsAt, endsAt, increment, window, extension, _) =>
    ⟨startsAt, endsAt, increment, window, extension⟩)
  (fun terms => (terms.startsAt, terms.endsAt, terms.minimumIncrement,
    terms.antiSnipingWindowSeconds, terms.antiSnipingExtensionSeconds, ()))
  (fun _ => rfl))

def auctionReserve : Codec AuctionReserve :=
  record ((Fields.cons (required "expected_record_revision" i64) <|
    Fields.cons (required "record_revision" i64) <|
    Fields.cons (required "reserve_price" (nullable money (record_solid _))) Fields.nil).as
  (fun (expected, revision, price, _) => ⟨expected, revision, price⟩)
  (fun reserve => (reserve.expectedRecordRevision, reserve.recordRevision,
    reserve.reservePrice, ()))
  (fun _ => rfl))

def digitalLockMetadata : Codec DigitalLockMetadata :=
  record ((Fields.cons (required "policyUri" text) <|
    Fields.cons (required "criterionId" text) Fields.nil).as
  (fun (policyUri, criterionId, _) => ⟨policyUri, criterionId⟩)
  (fun lock => (lock.policyUri, lock.criterionId, ()))
  (fun _ => rfl))

def Externals.registerListing (externals : Externals) : Codec RegisterListingPayload :=
  record ((Fields.cons (required "seller_pubky" text) <|
    Fields.cons (required "listing_id" text) <|
    Fields.cons (defaulted "title" text defaultTitle) <|
    Fields.cons (required "listing_revision" i64) <|
    Fields.cons (required "content_hash" text) <|
    Fields.cons (required "quantity" i64) <|
    Fields.cons (required "unit_price" money) <|
    Fields.cons (defaulted "shipping_minor" i64 ⟨0, by decide⟩) <|
    Fields.cons (defaulted "sale_format" saleFormat .fixedPrice) <|
    Fields.cons (optional "auction_terms" (nullable externals.auctionTerms (record_solid _))) <|
    Fields.cons (optional "auction_reserve" (nullable auctionReserve (record_solid _))) <|
    Fields.cons (omitted "fulfillment_methods" (list fulfillmentMethod)
      defaultFulfillmentMethods) <|
    Fields.cons (optional "digital_lock" (nullable digitalLockMetadata (record_solid _)))
      Fields.nil).as
  (fun (sellerPubky, listingId, title, listingRevision, contentHash, quantity, unitPrice,
      shippingMinor, saleFormat, auctionTerms, auctionReserve, fulfillmentMethods, digitalLock,
      _) =>
    ⟨sellerPubky, listingId, title, listingRevision, contentHash, quantity, unitPrice,
      shippingMinor, saleFormat, auctionTerms, auctionReserve, fulfillmentMethods, digitalLock⟩)
  (fun payload => (payload.sellerPubky, payload.listingId, payload.title,
    payload.listingRevision, payload.contentHash, payload.quantity, payload.unitPrice,
    payload.shippingMinor, payload.saleFormat, payload.auctionTerms, payload.auctionReserve,
    payload.fulfillmentMethods, payload.digitalLock, ()))
  (fun _ => rfl))

def syncListing : Codec SyncListingPayload :=
  record ((Fields.cons (required "seller_pubky" text) <|
    Fields.cons (required "listing_id" text) Fields.nil).as
  (fun (sellerPubky, listingId, _) => ⟨sellerPubky, listingId⟩)
  (fun payload => (payload.sellerPubky, payload.listingId, ()))
  (fun _ => rfl))

def syncDrop : Codec SyncDropPayload :=
  record ((Fields.cons (required "seller_pubky" text) <|
    Fields.cons (required "drop_id" text) Fields.nil).as
  (fun (sellerPubky, dropId, _) => ⟨sellerPubky, dropId⟩)
  (fun payload => (payload.sellerPubky, payload.dropId, ()))
  (fun _ => rfl))

def emptyPayload : Codec EmptyPayload :=
  record (Fields.nil.as (fun _ => ⟨⟩) (fun _ => ()) (fun _ => rfl))

def reserveInventory : Codec ReserveInventoryPayload :=
  record ((Fields.cons (required "quantity" i64) <|
    Fields.cons (required "reservation_ttl_seconds" i64) Fields.nil).as
  (fun (quantity, ttl, _) => ⟨quantity, ttl⟩)
  (fun payload => (payload.quantity, payload.reservationTtlSeconds, ()))
  (fun _ => rfl))

/-! Checkouts and offers. -/

def variantOption : Codec VariantOption :=
  record ((Fields.cons (required "name" text) <|
    Fields.cons (required "value" text) Fields.nil).as
  (fun (name, value, _) => ⟨name, value⟩)
  (fun option => (option.name, option.value, ()))
  (fun _ => rfl))

def checkoutLine : Codec CheckoutLine :=
  record ((Fields.cons (required "listing_aggregate_id" text) <|
    Fields.cons (required "expected_revision" i64) <|
    Fields.cons (required "quantity" i64) <|
    Fields.cons (optional "variant_id" (nullable text text_solid)) <|
    Fields.cons (optional "variant_options" (nullable (list variantOption) (list_solid _))) <|
    Fields.cons (optional "fulfillment" (nullable fulfillmentMethod (enumeration_solid _ _ _)))
      Fields.nil).as
  (fun (listing, revision, quantity, variantId, variantOptions, fulfillment, _) =>
    ⟨listing, revision, quantity, variantId, variantOptions, fulfillment⟩)
  (fun line => (line.listingAggregateId, line.expectedRevision, line.quantity, line.variantId,
    line.variantOptions, line.fulfillment, ()))
  (fun _ => rfl))

def createCheckout : Codec CreateCheckoutPayload :=
  record ((Fields.cons (required "lines" (list checkoutLine)) <|
    Fields.cons (optional "delivery_address" (nullable deliveryAddress (record_solid _))) <|
    Fields.cons (optional "delivery_email" (nullable text text_solid)) <|
    Fields.cons (required "guarantee_policy_version" u32) Fields.nil).as
  (fun (lines, address, email, version, _) => ⟨lines, address, email, version⟩)
  (fun payload => (payload.lines, payload.deliveryAddress, payload.deliveryEmail,
    payload.guaranteePolicyVersion, ()))
  (fun _ => rfl))

def offerTerms : Codec OfferTermsPayload :=
  record ((Fields.cons (required "amount" money) <|
    Fields.cons (required "quantity" i64) <|
    Fields.cons (required "expires_in_seconds" i64) <|
    Fields.cons (required "message" text) Fields.nil).as
  (fun (amount, quantity, expires, message, _) => ⟨amount, quantity, expires, message⟩)
  (fun payload => (payload.amount, payload.quantity, payload.expiresInSeconds,
    payload.message, ()))
  (fun _ => rfl))

def Externals.counterOffer (externals : Externals) : Codec CounterOfferPayload :=
  record ((Fields.cons (required "offer_id" externals.uuid) <|
    Fields.cons (required "amount" money) <|
    Fields.cons (required "quantity" i64) <|
    Fields.cons (required "expires_in_seconds" i64) <|
    Fields.cons (required "message" text) Fields.nil).as
  (fun (offerId, amount, quantity, expires, message, _) =>
    ⟨offerId, amount, quantity, expires, message⟩)
  (fun payload => (payload.offerId, payload.amount, payload.quantity, payload.expiresInSeconds,
    payload.message, ()))
  (fun _ => rfl))

def Externals.offerAction (externals : Externals) : Codec OfferActionPayload :=
  record ((Fields.cons (required "offer_id" externals.uuid) Fields.nil).as
  (fun (offerId, _) => ⟨offerId⟩) (fun payload => (payload.offerId, ())) (fun _ => rfl))

def Externals.offerCheckout (externals : Externals) : Codec OfferCheckoutPayload :=
  record ((Fields.cons (required "offer_id" externals.uuid) <|
    Fields.cons (required "award_id" externals.uuid) <|
    Fields.cons (required "listing_aggregate_id" text) <|
    Fields.cons (required "listing_revision" i64) <|
    Fields.cons (required "listing_record_sha256" text) <|
    Fields.cons (required "variant_id" text) <|
    Fields.cons (required "quantity" i64) <|
    Fields.cons (optional "delivery_address" (nullable deliveryAddress (record_solid _))) <|
    Fields.cons (optional "fulfillment" (nullable fulfillmentMethod (enumeration_solid _ _ _))) <|
    Fields.cons (required "guarantee_policy_version" u32) Fields.nil).as
  (fun (offerId, awardId, listing, revision, sha256, variantId, quantity, address, fulfillment,
      version, _) =>
    ⟨offerId, awardId, listing, revision, sha256, variantId, quantity, address, fulfillment,
      version⟩)
  (fun payload => (payload.offerId, payload.awardId, payload.listingAggregateId,
    payload.listingRevision, payload.listingRecordSha256, payload.variantId, payload.quantity,
    payload.deliveryAddress, payload.fulfillment, payload.guaranteePolicyVersion, ()))
  (fun _ => rfl))

def placeBid : Codec PlaceBidPayload :=
  record ((Fields.cons (required "maximum_amount" money) Fields.nil).as
  (fun (amount, _) => ⟨amount⟩) (fun payload => (payload.maximumAmount, ())) (fun _ => rfl))

/-! Payments, orders and fulfillment. -/

def Externals.advanceSandboxPayment (externals : Externals) :
    Codec AdvanceSandboxPaymentPayload :=
  record ((Fields.cons (required "payment_id" externals.uuid) <|
    Fields.cons (required "target" sandboxPaymentTarget) <|
    Fields.cons (required "confirmations" i64) Fields.nil).as
  (fun (paymentId, target, confirmations, _) => ⟨paymentId, target, confirmations⟩)
  (fun payload => (payload.paymentId, payload.target, payload.confirmations, ()))
  (fun _ => rfl))

def Externals.registerLocks (externals : Externals) : Codec RegisterLocksPayload :=
  record ((Fields.cons (required "payment_id" externals.uuid) <|
    Fields.cons (required "bundle_id" text) Fields.nil).as
  (fun (paymentId, bundleId, _) => ⟨paymentId, bundleId⟩)
  (fun payload => (payload.paymentId, payload.bundleId, ()))
  (fun _ => rfl))

def Externals.prepareLocks (externals : Externals) : Codec PrepareLocksPayload :=
  record ((Fields.cons (required "payment_id" externals.uuid) Fields.nil).as
  (fun (paymentId, _) => ⟨paymentId⟩) (fun payload => (payload.paymentId, ())) (fun _ => rfl))

def Externals.orderAction (externals : Externals) : Codec OrderActionPayload :=
  record ((Fields.cons (required "order_id" externals.uuid) Fields.nil).as
  (fun (orderId, _) => ⟨orderId⟩) (fun payload => (payload.orderId, ())) (fun _ => rfl))

def Externals.requestCancellation (externals : Externals) : Codec RequestCancellationPayload :=
  record ((Fields.cons (required "order_id" externals.uuid) <|
    Fields.cons (required "reason" text) Fields.nil).as
  (fun (orderId, reason, _) => ⟨orderId, reason⟩)
  (fun payload => (payload.orderId, payload.reason, ()))
  (fun _ => rfl))

def Externals.shipOrder (externals : Externals) : Codec ShipOrderPayload :=
  record ((Fields.cons (required "order_id" externals.uuid) <|
    Fields.cons (required "carrier" text) <|
    Fields.cons (required "tracking_number" text) Fields.nil).as
  (fun (orderId, carrier, number, _) => ⟨orderId, carrier, number⟩)
  (fun payload => (payload.orderId, payload.carrier, payload.trackingNumber, ()))
  (fun _ => rfl))

def Externals.setDeliveryEmail (externals : Externals) : Codec SetDeliveryEmailPayload :=
  record ((Fields.cons (required "order_id" externals.uuid) <|
    Fields.cons (required "delivery_email" text) Fields.nil).as
  (fun (orderId, email, _) => ⟨orderId, email⟩)
  (fun payload => (payload.orderId, payload.deliveryEmail, ()))
  (fun _ => rfl))

def Externals.deliverDigital (externals : Externals) : Codec DeliverDigitalPayload :=
  record ((Fields.cons (required "order_id" externals.uuid) <|
    Fields.cons (required "channel" digitalDeliveryChannel) Fields.nil).as
  (fun (orderId, channel, _) => ⟨orderId, channel⟩)
  (fun payload => (payload.orderId, payload.channel, ()))
  (fun _ => rfl))

def Externals.requestReturn (externals : Externals) : Codec RequestReturnPayload :=
  record ((Fields.cons (required "order_id" externals.uuid) <|
    Fields.cons (required "reason" text) <|
    Fields.cons (required "requested_amount_minor" i64) Fields.nil).as
  (fun (orderId, reason, amount, _) => ⟨orderId, reason, amount⟩)
  (fun payload => (payload.orderId, payload.reason, payload.requestedAmountMinor, ()))
  (fun _ => rfl))

def Externals.recordExternalRefund (externals : Externals) :
    Codec RecordExternalRefundPayload :=
  record ((Fields.cons (required "order_id" externals.uuid) <|
    Fields.cons (required "amount_minor" i64) <|
    Fields.cons (required "transaction_id" text) Fields.nil).as
  (fun (orderId, amount, transaction, _) => ⟨orderId, amount, transaction⟩)
  (fun payload => (payload.orderId, payload.amountMinor, payload.transactionId, ()))
  (fun _ => rfl))

def Externals.reviewTerms (externals : Externals) : Codec ReviewTermsPayload :=
  record ((Fields.cons (required "order_id" externals.uuid) <|
    Fields.cons (required "rating" i64) <|
    Fields.cons (required "text" text) <|
    Fields.cons (defaulted "allow_amount_band" boolean false) Fields.nil).as
  (fun (orderId, rating, text, band, _) => ⟨orderId, rating, text, band⟩)
  (fun payload => (payload.orderId, payload.rating, payload.text, payload.allowAmountBand, ()))
  (fun _ => rfl))

def setBandConsent : Codec SetBandConsentPayload :=
  record ((Fields.cons (required "allows_amount_band" boolean) Fields.nil).as
  (fun (band, _) => ⟨band⟩) (fun payload => (payload.allowsAmountBand, ())) (fun _ => rfl))

/-! Pickup details and digital deliveries. -/

def pickupWindow : Codec PickupWindow :=
  record ((Fields.cons (required "day" text) <|
    Fields.cons (required "start" text) <|
    Fields.cons (required "end" text) Fields.nil).as
  (fun (day, start, finish, _) => ⟨day, start, finish⟩)
  (fun window => (window.day, window.start, window.finish, ()))
  (fun _ => rfl))

def pickupAvailability : Codec PickupAvailability :=
  record ((Fields.cons (optional "windows" (nullable (list pickupWindow) (list_solid _))) <|
    Fields.cons (required "zone" text) Fields.nil).as
  (fun (windows, zone, _) => ⟨windows, zone⟩)
  (fun availability => (availability.windows, availability.zone, ()))
  (fun _ => rfl))

def pickupDetails : Codec PickupDetails :=
  record ((Fields.cons (required "kind" pickupDetailsKind) <|
    Fields.cons (optional "address" (nullable deliveryAddress (record_solid _))) <|
    Fields.cons (optional "spot" (nullable text text_solid)) <|
    Fields.cons (defaulted "instructions" text "") <|
    Fields.cons (required "availability" pickupAvailability) Fields.nil).as
  (fun (kind, address, spot, instructions, availability, _) =>
    ⟨kind, address, spot, instructions, availability⟩)
  (fun details => (details.kind, details.address, details.spot, details.instructions,
    details.availability, ()))
  (fun _ => rfl))

def setPickupDetails : Codec SetPickupDetailsPayload :=
  record ((Fields.cons (required "expected_version" i64) <|
    Fields.cons (required "details" pickupDetails) Fields.nil).as
  (fun (version, details, _) => ⟨version, details⟩)
  (fun payload => (payload.expectedVersion, payload.details, ()))
  (fun _ => rfl))

def clearPickupDetails : Codec ClearPickupDetailsPayload :=
  record ((Fields.cons (required "expected_version" i64) Fields.nil).as
  (fun (version, _) => ⟨version⟩) (fun payload => (payload.expectedVersion, ())) (fun _ => rfl))

def digitalFile : Fields DigitalFile :=
  (Fields.cons (required "deliverable_id" text) <|
    Fields.cons (required "version" i64) <|
    Fields.cons (required "key" text) <|
    Fields.cons (required "iv" text) <|
    Fields.cons (required "ciphertext_blake3" text) <|
    Fields.cons (required "plaintext_blake3" text) <|
    Fields.cons (required "size_bytes" i64) <|
    Fields.cons (required "content_type" text) <|
    Fields.cons (required "file_name" text) Fields.nil).as
  (fun (deliverableId, version, key, iv, ciphertext, plaintext, size, contentType, fileName,
      _) =>
    ⟨deliverableId, version, key, iv, ciphertext, plaintext, size, contentType, fileName⟩)
  (fun file => (file.deliverableId, file.version, file.key, file.iv, file.ciphertextBlake3,
    file.plaintextBlake3, file.sizeBytes, file.contentType, file.fileName, ()))
  (fun _ => rfl)

def oneText (name : String) : Fields String :=
  (Fields.cons (required name text) Fields.nil).as Prod.fst (fun value => (value, ()))
    (fun _ => rfl)

def DigitalDelivery.write : DigitalDelivery → String × List (String × Value)
  | .file content => ("file", digitalFile.encode content)
  | .link url => ("link", (oneText "url").encode url)
  | .text value => ("text", (oneText "text").encode value)
  | .email => ("email", [])
  | .message => ("message", [])

def DigitalDelivery.variant : String → Option (Variant DigitalDelivery)
  | "file" => some (digitalFile.variant .file)
  | "link" => some ((oneText "url").variant .link)
  | "text" => some ((oneText "text").variant .text)
  | "email" => some (Fields.nil.variant fun _ => .email)
  | "message" => some (Fields.nil.variant fun _ => .message)
  | _ => none

theorem DigitalDelivery.write_untagged (delivery : DigitalDelivery) :
    ∀ entry ∈ delivery.write.2, entry.1 ≠ "kind" := by
  have named : ∀ {α : Type} (fields : Fields α) (value : α), "kind" ∉ fields.names →
      ∀ entry ∈ fields.encode value, entry.1 ≠ "kind" := by
    intro α fields value free entry member same
    exact free (same ▸ fields.encode_named value entry member)
  cases delivery with
  | file content => exact named digitalFile content (of_decide_eq_true rfl)
  | link url => exact named (oneText "url") url (of_decide_eq_true rfl)
  | text value => exact named (oneText "text") value (of_decide_eq_true rfl)
  | email => exact nofun
  | message => exact nofun

theorem DigitalDelivery.variant_write (delivery : DigitalDelivery) :
    ∃ variant, DigitalDelivery.variant delivery.write.1 = some variant ∧
      variant.decodeObject delivery.write.2 = some delivery := by
  cases delivery with
  | file content => exact ⟨_, rfl, digitalFile.variant_encode _ content⟩
  | link url => exact ⟨_, rfl, (oneText "url").variant_encode _ url⟩
  | text value => exact ⟨_, rfl, (oneText "text").variant_encode _ value⟩
  | email => exact ⟨_, rfl, Fields.nil.variant_encode _ ()⟩
  | message => exact ⟨_, rfl, Fields.nil.variant_encode _ ()⟩

def digitalDelivery : Codec DigitalDelivery :=
  tagged ⟨"kind", DigitalDelivery.write, DigitalDelivery.variant,
    DigitalDelivery.write_untagged, DigitalDelivery.variant_write⟩

def setDigitalDelivery : Codec SetDigitalDeliveryPayload :=
  record ((Fields.cons (required "expected_version" i64) <|
    Fields.cons (required "delivery" digitalDelivery) Fields.nil).as
  (fun (version, delivery, _) => ⟨version, delivery⟩)
  (fun payload => (payload.expectedVersion, payload.delivery, ()))
  (fun _ => rfl))

def clearDigitalDelivery : Codec ClearDigitalDeliveryPayload :=
  record ((Fields.cons (required "expected_version" i64) Fields.nil).as
  (fun (version, _) => ⟨version⟩) (fun payload => (payload.expectedVersion, ())) (fun _ => rfl))

def Externals.rawEnvelopeFields (externals : Externals) : Fields RawEnvelope :=
  (Fields.cons (required "version" u64) <|
    Fields.cons (required "command_id" externals.uuid) <|
    Fields.cons (required "aggregate_id" text) <|
    Fields.cons (required "expected_revision" i64) <|
    Fields.cons (required "issued_at" externals.dateTime) <|
    Fields.cons (required "kind" text) <|
    Fields.cons (required "payload" any) Fields.nil).as
  (fun (version, commandId, aggregateId, revision, issuedAt, kind, payload, _) =>
    ⟨version, commandId, aggregateId, revision, issuedAt, kind, payload⟩)
  (fun envelope => (envelope.version, envelope.commandId, envelope.aggregateId,
    envelope.expectedRevision, envelope.issuedAt, envelope.kind, envelope.payload, ()))
  (fun _ => rfl)

def Externals.rawEnvelope (externals : Externals) : Codec RawEnvelope :=
  record externals.rawEnvelopeFields

end MarketplaceService.Commands
