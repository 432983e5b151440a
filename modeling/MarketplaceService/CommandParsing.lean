import MarketplaceService.CommandValidation

/-!
`parse_command`, and the canonical JSON of a command with the hash of its bytes.
-/

namespace MarketplaceService.Commands

def CommandPayload.kind : CommandPayload → String
  | .registerListing _ => "listing.register"
  | .syncListing _ => "listing.sync"
  | .syncDrop _ => "drop.sync"
  | .cancelDrop _ => "drop.cancel"
  | .releaseDropListings _ => "drop.release_listings"
  | .reserveInventory _ => "inventory.reserve"
  | .createCheckout _ => "checkout.create"
  | .createOffer _ => "offer.create"
  | .counterOffer _ => "offer.counter"
  | .acceptOffer _ => "offer.accept"
  | .offerCheckout _ => "offer.checkout"
  | .rejectOffer _ => "offer.reject"
  | .withdrawOffer _ => "offer.withdraw"
  | .placeBid _ => "auction.place_bid"
  | .closeAuction _ => "auction.close"
  | .advanceSandboxPayment _ => "payment.sandbox_advance"
  | .prepareLocks _ => "payment.prepare_locks"
  | .registerLocks _ => "payment.register_locks"
  | .requestCancellation _ => "order.cancel_request"
  | .approveCancellation _ => "order.cancel_approve"
  | .shipOrder _ => "fulfillment.ship"
  | .confirmDelivery _ => "fulfillment.confirm_delivery"
  | .setPickupDetails _ => "pickup_details.set"
  | .clearPickupDetails _ => "pickup_details.clear"
  | .setDigitalDelivery _ => "digital_delivery.set"
  | .clearDigitalDelivery _ => "digital_delivery.clear"
  | .setDeliveryEmail _ => "order.set_delivery_email"
  | .deliverDigital _ => "fulfillment.deliver_digital"
  | .markReadyForPickup _ => "fulfillment.mark_ready"
  | .confirmPickup _ => "fulfillment.confirm_pickup"
  | .requestReturn _ => "return.request"
  | .approveReturn _ => "return.approve"
  | .receiveReturn _ => "return.receive"
  | .recordExternalRefund _ => "refund.record_external"
  | .createReview _ => "review.create"
  | .updateReview _ => "review.update"
  | .setBandConsent _ => "attestation.set_band_consent"

section Parsing
variable (externals : Externals)

def payloadJson : CommandPayload → Serde.Value
  | .registerListing payload => externals.registerListing.encode payload
  | .syncListing payload => syncListing.encode payload
  | .syncDrop payload => syncDrop.encode payload
  | .cancelDrop payload => emptyPayload.encode payload
  | .releaseDropListings payload => emptyPayload.encode payload
  | .reserveInventory payload => reserveInventory.encode payload
  | .createCheckout payload => createCheckout.encode payload
  | .createOffer payload => offerTerms.encode payload
  | .counterOffer payload => externals.counterOffer.encode payload
  | .acceptOffer payload => externals.offerAction.encode payload
  | .offerCheckout payload => externals.offerCheckout.encode payload
  | .rejectOffer payload => externals.offerAction.encode payload
  | .withdrawOffer payload => externals.offerAction.encode payload
  | .placeBid payload => placeBid.encode payload
  | .closeAuction payload => emptyPayload.encode payload
  | .advanceSandboxPayment payload => externals.advanceSandboxPayment.encode payload
  | .prepareLocks payload => externals.prepareLocks.encode payload
  | .registerLocks payload => externals.registerLocks.encode payload
  | .requestCancellation payload => externals.requestCancellation.encode payload
  | .approveCancellation payload => externals.orderAction.encode payload
  | .shipOrder payload => externals.shipOrder.encode payload
  | .confirmDelivery payload => externals.orderAction.encode payload
  | .setPickupDetails payload => setPickupDetails.encode payload
  | .clearPickupDetails payload => clearPickupDetails.encode payload
  | .setDigitalDelivery payload => setDigitalDelivery.encode payload
  | .clearDigitalDelivery payload => clearDigitalDelivery.encode payload
  | .setDeliveryEmail payload => externals.setDeliveryEmail.encode payload
  | .deliverDigital payload => externals.deliverDigital.encode payload
  | .markReadyForPickup payload => externals.orderAction.encode payload
  | .confirmPickup payload => externals.orderAction.encode payload
  | .requestReturn payload => externals.requestReturn.encode payload
  | .approveReturn payload => externals.orderAction.encode payload
  | .receiveReturn payload => externals.orderAction.encode payload
  | .recordExternalRefund payload => externals.recordExternalRefund.encode payload
  | .createReview payload => externals.reviewTerms.encode payload
  | .updateReview payload => externals.reviewTerms.encode payload
  | .setBandConsent payload => setBandConsent.encode payload

def canonicalJson (command : Command) : Serde.Value :=
  .obj [("version", u64.encode commerceContractVersion),
    ("command_id", externals.uuid.encode command.commandId),
    ("aggregate_id", .str command.aggregateId),
    ("expected_revision", i64.encode command.expectedRevision),
    ("issued_at", .str (CalendarTime.rfc3339 .millis command.issuedAt)),
    ("kind", .str command.payload.kind),
    ("payload", payloadJson externals command.payload)]

def hexByte (byte : UInt8) : List Char :=
  [Nat.digitChar (byte.toNat / 16), Nat.digitChar (byte.toNat % 16)]

def requestHash (command : Command) : String :=
  String.ofList ((externals.sha256 (externals.toVec (canonicalJson externals command))).flatMap
    hexByte)

/-- `parse_payload`, the checks of the kind, and its constructor. -/
def parseWith {α : Type} (name : String) (codec : Serde.Codec α)
    (validate : α → Except (List ValidationIssue) α) (wrap : α → CommandPayload)
    (value : Serde.Value) : Except (List ValidationIssue) CommandPayload :=
  match codec.decode value with
  | some payload => (validate payload).map wrap
  | none => .error [⟨"payload", "Invalid payload: " ++ externals.serdeError name value⟩]

def parsePayload (kind : String) (value : Serde.Value) :
    Except (List ValidationIssue) CommandPayload :=
  match kind with
  | "listing.register" =>
      parseWith externals "RegisterListingPayload" externals.registerListing
        validateRegisterListingPayload .registerListing value
  | "listing.sync" =>
      parseWith externals "SyncListingPayload" syncListing validateSyncListing .syncListing value
  | "drop.sync" =>
      parseWith externals "SyncDropPayload" syncDrop validateSyncDrop .syncDrop value
  | "drop.cancel" =>
      parseWith externals "CancelDropPayload" emptyPayload .ok .cancelDrop value
  | "drop.release_listings" =>
      parseWith externals "ReleaseDropListingsPayload" emptyPayload .ok .releaseDropListings value
  | "inventory.reserve" =>
      parseWith externals "ReserveInventoryPayload" reserveInventory validateReserveInventory
        .reserveInventory value
  | "checkout.create" =>
      parseWith externals "CreateCheckoutPayload" createCheckout validateCreateCheckout
        .createCheckout value
  | "offer.create" =>
      parseWith externals "OfferTermsPayload" offerTerms validateCreateOffer .createOffer value
  | "offer.counter" =>
      parseWith externals "CounterOfferPayload" externals.counterOffer validateCounterOffer
        .counterOffer value
  | "offer.accept" =>
      parseWith externals "OfferActionPayload" externals.offerAction .ok .acceptOffer value
  | "offer.checkout" =>
      parseWith externals "OfferCheckoutPayload" externals.offerCheckout validateOfferCheckout
        .offerCheckout value
  | "offer.reject" =>
      parseWith externals "OfferActionPayload" externals.offerAction .ok .rejectOffer value
  | "offer.withdraw" =>
      parseWith externals "OfferActionPayload" externals.offerAction .ok .withdrawOffer value
  | "auction.place_bid" =>
      parseWith externals "PlaceBidPayload" placeBid validatePlaceBid .placeBid value
  | "auction.close" =>
      parseWith externals "CloseAuctionPayload" emptyPayload .ok .closeAuction value
  | "payment.sandbox_advance" =>
      parseWith externals "AdvanceSandboxPaymentPayload" externals.advanceSandboxPayment
        validateAdvanceSandboxPayment .advanceSandboxPayment value
  | "payment.prepare_locks" =>
      parseWith externals "PrepareLocksPayload" externals.prepareLocks .ok .prepareLocks value
  | "payment.register_locks" =>
      parseWith externals "RegisterLocksPayload" externals.registerLocks validateRegisterLocks
        .registerLocks value
  | "order.cancel_request" =>
      parseWith externals "RequestCancellationPayload" externals.requestCancellation
        validateRequestCancellation .requestCancellation value
  | "order.cancel_approve" =>
      parseWith externals "OrderActionPayload" externals.orderAction .ok .approveCancellation value
  | "fulfillment.ship" =>
      parseWith externals "ShipOrderPayload" externals.shipOrder validateShipOrder .shipOrder value
  | "fulfillment.confirm_delivery" =>
      parseWith externals "OrderActionPayload" externals.orderAction .ok .confirmDelivery value
  | "pickup_details.set" =>
      parseWith externals "SetPickupDetailsPayload" setPickupDetails validateSetPickupDetails
        .setPickupDetails value
  | "pickup_details.clear" =>
      parseWith externals "ClearPickupDetailsPayload" clearPickupDetails
        validateClearPickupDetails .clearPickupDetails value
  | "digital_delivery.set" =>
      parseWith externals "SetDigitalDeliveryPayload" setDigitalDelivery
        (validateSetDigitalDelivery externals) .setDigitalDelivery value
  | "digital_delivery.clear" =>
      parseWith externals "ClearDigitalDeliveryPayload" clearDigitalDelivery
        validateClearDigitalDelivery .clearDigitalDelivery value
  | "order.set_delivery_email" =>
      parseWith externals "SetDeliveryEmailPayload" externals.setDeliveryEmail .ok
        .setDeliveryEmail value
  | "fulfillment.deliver_digital" =>
      parseWith externals "DeliverDigitalPayload" externals.deliverDigital .ok .deliverDigital
        value
  | "fulfillment.mark_ready" =>
      parseWith externals "OrderActionPayload" externals.orderAction .ok .markReadyForPickup value
  | "fulfillment.confirm_pickup" =>
      parseWith externals "OrderActionPayload" externals.orderAction .ok .confirmPickup value
  | "return.request" =>
      parseWith externals "RequestReturnPayload" externals.requestReturn validateRequestReturn
        .requestReturn value
  | "return.approve" =>
      parseWith externals "OrderActionPayload" externals.orderAction .ok .approveReturn value
  | "return.receive" =>
      parseWith externals "OrderActionPayload" externals.orderAction .ok .receiveReturn value
  | "refund.record_external" =>
      parseWith externals "RecordExternalRefundPayload" externals.recordExternalRefund
        validateRecordExternalRefund .recordExternalRefund value
  | "review.create" =>
      parseWith externals "ReviewTermsPayload" externals.reviewTerms validateReviewTerms
        .createReview value
  | "review.update" =>
      parseWith externals "ReviewTermsPayload" externals.reviewTerms validateReviewTerms
        .updateReview value
  | "attestation.set_band_consent" =>
      parseWith externals "SetBandConsentPayload" setBandConsent .ok .setBandConsent value
  | _ => .error [⟨"kind", "Unsupported command kind"⟩]

def envelopeIssues (envelope : RawEnvelope) : List ValidationIssue :=
  check (envelope.version == commerceContractVersion) "version" "Unsupported command version" ++
    validateAggregateId "aggregate_id" envelope.aggregateId ++
    validateRange "expected_revision" "Expected a non-negative revision" 0 maxSafeInteger
      envelope.expectedRevision

def parseCommand (raw : Serde.Value) : Except (List ValidationIssue) Command :=
  match externals.rawEnvelope.decode raw with
  | none => .error [⟨"", "Invalid envelope: " ++ externals.serdeError "RawEnvelope" raw⟩]
  | some envelope =>
      if envelopeIssues envelope = [] then
        (parsePayload externals envelope.kind envelope.payload).map fun payload =>
          ⟨envelope.commandId, envelope.aggregateId, envelope.expectedRevision,
            envelope.issuedAt, payload⟩
      else .error (envelopeIssues envelope)

end Parsing

end MarketplaceService.Commands
