import MarketplaceService.Auctions
import MarketplaceService.Lib.MachineInt
import MarketplaceService.System

/-!
The service with its offers. A desk is the service and the row of each offer;
a buyer opens an offer on a listing, the participants answer each other, and an
acceptance, the expiry of an award and its checkout write the offer row and the
inventory in one transaction. Every other command of the service leaves the
offers alone.
-/

namespace MarketplaceService

abbrev OfferId := ℕ

inductive OfferState where
  | pending
  | countered
  | accepted
  | converted
  | rejected
  | withdrawn
  | expired
deriving DecidableEq, Repr

/-- The `action` of a history entry. -/
inductive OfferMove where
  | created
  | countered
  | accepted
  | rejected
  | withdrawn
deriving DecidableEq, Repr

structure HistoryEntry where
  revision : ℕ
  actor : Pubky
  move : OfferMove
  amount : Money
  quantity : ℕ
  message : String
  occurredAt : Time
deriving DecidableEq, Repr

inductive ExpiryReason where
  | negotiationWindow
  | awardWindow
deriving DecidableEq, Repr

structure AwardVariantSnapshot where
  id : String
  sku : Option String
  quantity : ℕ
deriving DecidableEq, Repr

structure AwardListingSnapshot where
  rawSha256 : String
  revision : ℕ
  title : String
  currency : String
  exponent : ℕ
  shippingMinor : ℕ
  fulfillmentMethods : List Fulfillment
  variants : List AwardVariantSnapshot
deriving DecidableEq, Repr

/-- What reading the seller's record gives: nothing without a homeserver, else the
terms in its bytes, or why there are none. -/
inductive TermsFetch where
  | disabled
  | found (snapshot : AwardListingSnapshot)
  | malformed
  | tooLarge
  | unavailable
deriving DecidableEq, Repr

/-- The columns an acceptance writes. -/
structure AcceptedTerms where
  award : Award
  acceptedAt : Time
  awardExpiresAt : Time
  unitPriceMinor : ℕ
  listingTitle : String
  listingRevision : ℕ
  listingRecordSha256 : String
  variantId : String
  variantSku : Option String
  totalMinor : ℕ
deriving DecidableEq, Repr

structure OfferRow where
  aggregateId : String
  listing : ListingId
  buyerPubky : Pubky
  sellerPubky : Pubky
  revision : ℕ
  state : OfferState
  offeredBy : Pubky
  amount : Money
  quantity : ℕ
  message : String
  history : List HistoryEntry
  expiresAt : Time
  createdAt : Time
  updatedAt : Time
  variantId : Option String
  termsListingRevision : Option ℕ
  termsListingRecordSha256 : Option String
  accepted : Option AcceptedTerms
  convertedOrderId : Option OrderId
  expiryReason : Option ExpiryReason
deriving DecidableEq, Repr

structure OfferTerms where
  amount : Money
  quantity : ℕ
  expiresInSeconds : ℕ
  message : String
  amount_pos : 0 < amount.amountMinor
  quantity_pos : 0 < quantity

/-- The kinds of refusal that only offers have, beside those of the service. -/
inductive OfferFailure where
  | service (failure : Failure)
  | offerExpired
  | awardExpired
  | awardAlreadyConverted
  | awardListingChanged
  | awardVariantMismatch
  | awardQuantityMismatch
  | awardHoldMissing
deriving DecidableEq, Repr

namespace OfferFailure

def message : OfferFailure → Option String
  | .service (.refused _ text) => some text
  | .service _ => none
  | .offerExpired => some "The offer has expired."
  | .awardExpired =>
      some "This accepted offer's checkout window has expired. Nothing was ordered."
  | .awardAlreadyConverted =>
      some "This accepted offer has already been converted to an order."
  | .awardListingChanged =>
      some "The listing snapshot does not match the offer terms."
  | .awardVariantMismatch =>
      some "The checkout variant does not match the accepted offer."
  | .awardQuantityMismatch =>
      some "The checkout quantity does not match the accepted offer."
  | .awardHoldMissing =>
      some "The inventory reserved for this accepted offer is no longer held."

def refused (kind : RefusalKind) (message : String) : OfferFailure :=
  .service (.refused kind message)

end OfferFailure

def offerAggregateId (id : OfferId) : String := "offer:" ++ toString id

def otherParticipant (offer : OfferRow) (actor : Pubky) : Pubky :=
  if actor = offer.sellerPubky then offer.buyerPubky else offer.sellerPubky

def OfferRow.isActionable (offer : OfferRow) : Bool :=
  offer.state == .pending || offer.state == .countered

namespace TermsFetch

/-- The terms of a new offer: an unreachable record leaves it without a snapshot. -/
def optional : TermsFetch → Except OfferFailure (Option AwardListingSnapshot)
  | .found snapshot => .ok (some snapshot)
  | .malformed | .tooLarge => .error .awardListingChanged
  | .disabled | .unavailable => .ok none

/-- The terms of an answer, which needs the record. -/
def required : TermsFetch → Except OfferFailure AwardListingSnapshot
  | .found snapshot => .ok snapshot
  | .malformed | .tooLarge => .error .awardListingChanged
  | .disabled | .unavailable =>
      .error (.refused .invalidState "The seller listing record is unavailable.")

end TermsFetch

def AwardListingSnapshot.soleVariant (snapshot : AwardListingSnapshot) :
    Option AwardVariantSnapshot :=
  match snapshot.variants with
  | [variant] => some variant
  | _ => none

/-! The rows. -/

def newOffer (id : OfferId) (listing : ListingId) (buyer seller : Pubky) (terms : OfferTerms)
    (snapshot : Option AwardListingSnapshot) (now : Time) : OfferRow :=
  { aggregateId := offerAggregateId id
    listing := listing
    buyerPubky := buyer
    sellerPubky := seller
    revision := 1
    state := .pending
    offeredBy := buyer
    amount := terms.amount
    quantity := terms.quantity
    message := terms.message
    history := [⟨1, buyer, .created, terms.amount, terms.quantity, terms.message, now⟩]
    expiresAt := now + terms.expiresInSeconds
    createdAt := now
    updatedAt := now
    variantId := (snapshot.bind AwardListingSnapshot.soleVariant).map AwardVariantSnapshot.id
    termsListingRevision := snapshot.map AwardListingSnapshot.revision
    termsListingRecordSha256 := snapshot.map AwardListingSnapshot.rawSha256
    accepted := none
    convertedOrderId := none
    expiryReason := none }

namespace OfferRow

/-- The row after a counteroffer; a refreshed record replaces the terms it names. -/
def countered (offer : OfferRow) (actor : Pubky) (terms : OfferTerms)
    (refreshed : Option (AwardListingSnapshot × String)) (now : Time) : OfferRow :=
  { offer with
    revision := offer.revision + 1
    state := .countered
    offeredBy := actor
    amount := terms.amount
    quantity := terms.quantity
    message := terms.message
    expiresAt := now + terms.expiresInSeconds
    updatedAt := now
    history := offer.history ++
      [⟨offer.revision + 1, actor, .countered, terms.amount, terms.quantity, terms.message, now⟩]
    variantId := (refreshed.map Prod.snd).or offer.variantId
    termsListingRevision := (refreshed.map (·.1.revision)).or offer.termsListingRevision
    termsListingRecordSha256 := (refreshed.map (·.1.rawSha256)).or offer.termsListingRecordSha256 }

/-- An entry that ends the negotiation: no message, the terms as they stand. -/
def finishEntry (offer : OfferRow) (actor : Pubky) (move : OfferMove) (now : Time) :
    HistoryEntry :=
  ⟨offer.revision + 1, actor, move, offer.amount, offer.quantity, "", now⟩

/-- `finish_offer`. -/
def finished (offer : OfferRow) (actor : Pubky) (state : OfferState) (move : OfferMove)
    (now : Time) : OfferRow :=
  { offer with
    revision := offer.revision + 1
    state := state
    updatedAt := now
    history := offer.history ++ [offer.finishEntry actor move now] }

def awarded (offer : OfferRow) (actor : Pubky) (terms : AcceptedTerms) (now : Time) : OfferRow :=
  { offer.finished actor .accepted .accepted now with accepted := some terms }

/-- The sweeps and the checkout leave the history as it is. -/
def expired (offer : OfferRow) (reason : ExpiryReason) (now : Time) : OfferRow :=
  { offer with
    revision := offer.revision + 1
    state := .expired
    expiryReason := some reason
    updatedAt := now }

def converted (offer : OfferRow) (order : OrderId) (now : Time) : OfferRow :=
  { offer with
    revision := offer.revision + 1
    state := .converted
    convertedOrderId := some order
    updatedAt := now }

def award (offer : OfferRow) (snapshot : AwardListingSnapshot) (award : AwardId)
    (reservation : ReservationId) : Award :=
  { id := award
    reservationId := reservation
    listing := offer.listing
    buyerPubky := offer.buyerPubky
    sellerPubky := offer.sellerPubky
    quantity := offer.quantity
    createdAt := offer.createdAt
    subtotalMinor := offer.amount.amountMinor * offer.quantity
    shippingMinor := snapshot.shippingMinor
    currency := offer.amount.currency
    exponent := offer.amount.exponent
    fulfillmentMethods := snapshot.fulfillmentMethods }

/-- The columns of an acceptance. -/
def acceptedTerms (offer : OfferRow) (snapshot : AwardListingSnapshot)
    (variant : AwardVariantSnapshot) (award : Award) (now : Time) : AcceptedTerms :=
  { award := award
    acceptedAt := now
    awardExpiresAt := now + acceptedOfferHoldSeconds
    unitPriceMinor := offer.amount.amountMinor
    listingTitle := snapshot.title
    listingRevision := snapshot.revision
    listingRecordSha256 := snapshot.rawSha256
    variantId := variant.id
    variantSku := variant.sku
    totalMinor := award.subtotalMinor + award.shippingMinor }

def otherRecord (offer : OfferRow) (snapshot : AwardListingSnapshot) : Bool :=
  offer.termsListingRecordSha256.any (· != snapshot.rawSha256) ||
    offer.termsListingRevision.any (· != snapshot.revision)

/-- The variant an offer asks for among those of the record. -/
def pickVariant (offer : OfferRow) (snapshot : AwardListingSnapshot) :
    Option AwardVariantSnapshot :=
  match offer.variantId with
  | some id => snapshot.variants.find? (·.id == id)
  | none => snapshot.soleVariant

end OfferRow

/-! The commands. -/

structure OfferDesk where
  sys : Sys
  offers : Keyed.Table OfferId OfferRow
  /-- Rows that commands in progress have read before their lock. -/
  located : List (OfferId × OfferRow)

namespace OfferDesk

def setOffer (desk : OfferDesk) (id : OfferId) (offer : OfferRow) : OfferDesk :=
  { desk with offers := desk.offers.set id offer }

def listing (desk : OfferDesk) (id : ListingId) : Option Listing :=
  desk.sys.inventory.listings.find? id

def actionableOffer (desk : OfferDesk) (actor : Pubky) (id : OfferId) (aggregateId : String)
    (now : Time) : Except OfferFailure OfferRow :=
  match desk.offers.find? id with
  | none => .error (.refused .notFound "The offer was not found.")
  | some offer =>
      if aggregateId ≠ offer.aggregateId then
        .error (.refused .invalidCommand "The offer aggregate id is invalid.")
      else if actor ≠ offer.buyerPubky ∧ actor ≠ offer.sellerPubky then
        .error (.refused .unauthorized "Only offer participants may act on it.")
      else if !offer.isActionable then
        .error (.refused .invalidState "The offer is no longer actionable.")
      else if offer.expiresAt ≤ now then
        .error .offerExpired
      else
        .ok offer

def create (desk : OfferDesk) (id : OfferId) (listingId : ListingId) (sender : Sender)
    (terms : OfferTerms) (fetch : TermsFetch) (now : Time) : Except OfferFailure OfferDesk :=
  match (desk.listing listingId).filter (!·.isDeleted) with
  | none => .error (.refused .notFound "The listing is not registered.")
  | some listing =>
      if listing.sellerPubky = sender.actor then
        .error (.refused .unauthorized "A seller cannot make an offer on their own listing.")
      else if sender.expectedRevision ≠ listing.serverRevision then
        .error (.refused .revisionConflict "The listing revision is stale.")
      else if listing.availableQuantity < terms.quantity then
        .error (.refused .insufficientInventory "The requested offer quantity is unavailable.")
      else if (listing.unitPriceCurrency, listing.unitPriceExponent) ≠
          (terms.amount.currency, terms.amount.exponent) then
        .error (.refused .invalidCommand
          "Offer amount must use the listing asset and exponent.")
      else if .shipping ∉ listing.fulfillmentMethods ∧ .pickup ∉ listing.fulfillmentMethods then
        .error (.refused .invalidState "Offers are not available on digital items.")
      else do
        let snapshot ← fetch.optional
        if (desk.offers.find? id).isSome then
          .error (.service (.database "offers_pkey"))
        else
          return desk.setOffer id
            (newOffer id listingId sender.actor listing.sellerPubky terms snapshot now)

/-- The record of a counteroffer, read for a participant before the lock. -/
def refreshedTerms (desk : OfferDesk) (id : OfferId) (actor : Pubky) (fetch : TermsFetch) :
    Except OfferFailure (Option AwardListingSnapshot) :=
  match fetch, desk.offers.find? id with
  | .disabled, _ | _, none => .ok none
  | fetch, some locator =>
      if actor ≠ locator.buyerPubky ∧ actor ≠ locator.sellerPubky then .ok none
      else if (desk.listing locator.listing).isNone then
        .error (.refused .notFound "The offer listing is unavailable.")
      else fetch.required.map some

def refreshedVariant (offer : OfferRow) (terms : OfferTerms) :
    Option AwardListingSnapshot →
      Except OfferFailure (Option (AwardListingSnapshot × String))
  | none => .ok none
  | some snapshot =>
      if (snapshot.currency, snapshot.exponent) ≠
          (terms.amount.currency, terms.amount.exponent) then
        .error .awardListingChanged
      else
        match offer.pickVariant snapshot with
        | none => .error .awardVariantMismatch
        | some variant =>
            if variant.quantity < terms.quantity then
              .error (.refused .insufficientInventory
                "The counteroffer quantity is unavailable.")
            else .ok (some (snapshot, variant.id))

def counter (desk : OfferDesk) (id : OfferId) (aggregateId : String) (sender : Sender)
    (terms : OfferTerms) (fetch : TermsFetch) (now : Time) : Except OfferFailure OfferDesk := do
  let snapshot ← desk.refreshedTerms id sender.actor fetch
  let offer ← desk.actionableOffer sender.actor id aggregateId now
  if sender.expectedRevision ≠ offer.revision then
    .error (.refused .revisionConflict "The offer revision is stale.")
  else if sender.actor = offer.offeredBy then
    .error (.refused .unauthorized "The current offer author cannot counter their own terms.")
  else if (offer.amount.currency, offer.amount.exponent) ≠
      (terms.amount.currency, terms.amount.exponent) then
    .error (.refused .invalidCommand
      "Counteroffer amount must use the original asset and exponent.")
  else
    let refreshed ← refreshedVariant offer terms snapshot
    match (desk.listing offer.listing).filter (·.acceptsCommitmentCreatedAt offer.createdAt) with
    | none => .error (.refused .notFound "The offer listing is unavailable.")
    | some listing =>
        if listing.availableQuantity < terms.quantity then
          .error (.refused .insufficientInventory "The counteroffer quantity is unavailable.")
        else
          return desk.setOffer id (offer.countered sender.actor terms refreshed now)

/-- The terms of an acceptance: without a homeserver, those of the row read first. -/
def acceptedSnapshot (desk : OfferDesk) (locator : OfferRow) :
    TermsFetch → Except OfferFailure AwardListingSnapshot
  | .disabled =>
      .ok
        { rawSha256 := locator.termsListingRecordSha256.getD locator.listing
          revision := locator.termsListingRevision.getD 1
          title := "Marketplace item"
          currency := locator.amount.currency
          exponent := locator.amount.exponent
          shippingMinor := 0
          fulfillmentMethods := [.shipping]
          variants :=
            [{ id := locator.variantId.getD locator.listing
               sku := none
               quantity := locator.quantity }] }
  | fetch =>
      if (desk.listing locator.listing).isNone then
        .error (.refused .notFound "The offer listing is unavailable.")
      else fetch.required

def sameListing (desk : OfferDesk) (offer : OfferRow) : TermsFetch → Bool
  | .disabled => true
  | _ => (desk.listing offer.listing).any (·.sellerPubky == offer.sellerPubky)

/-- The inventory and the columns of an acceptance. -/
def award (desk : OfferDesk) (id : OfferId) (offer : OfferRow) (actor : Pubky)
    (terms : AcceptedTerms) (now : Time) : Except OfferFailure OfferDesk := do
  let inventory ← (acceptOffer desk.sys.inventory terms.award now).mapError .service
  if MachineInt.maximum < terms.award.subtotalMinor then
    .error (.service (.internal "offer amount overflow"))
  else if MachineInt.maximum < terms.totalMinor then
    .error (.service (.internal "offer total overflow"))
  else
    return { desk with
      sys := { desk.sys with inventory := inventory }
      offers := desk.offers.set id (offer.awarded actor terms now) }

/-- `offer.accept` of a row that was read before its lock. -/
def accept (desk : OfferDesk) (id : OfferId) (aggregateId : String) (sender : Sender)
    (locator : OfferRow) (fetch : TermsFetch) (award : AwardId) (reservation : ReservationId)
    (now : Time) : Except OfferFailure OfferDesk := do
  let snapshot ← desk.acceptedSnapshot locator fetch
  let offer ← desk.actionableOffer sender.actor id aggregateId now
  if !desk.sameListing offer fetch then
    .error .awardListingChanged
  else if sender.expectedRevision ≠ offer.revision then
    .error (.refused .revisionConflict "The offer revision is stale.")
  else if sender.actor = offer.offeredBy then
    .error (.refused .unauthorized "The current offer author cannot accept their own terms.")
  else if offer.otherRecord snapshot then
    .error .awardListingChanged
  else
    match offer.pickVariant snapshot with
    | none => .error .awardVariantMismatch
    | some variant =>
        if variant.quantity < offer.quantity ∨ snapshot.currency ≠ offer.amount.currency ∨
            snapshot.exponent ≠ offer.amount.exponent then
          .error (.refused .invalidCommand
            "Offer amount must use the listing asset and exponent.")
        else
          desk.award id offer sender.actor
            (offer.acceptedTerms snapshot variant (offer.award snapshot award reservation) now) now

def reject (desk : OfferDesk) (id : OfferId) (aggregateId : String) (sender : Sender)
    (now : Time) : Except OfferFailure OfferDesk := do
  let offer ← desk.actionableOffer sender.actor id aggregateId now
  if sender.expectedRevision ≠ offer.revision then
    .error (.refused .revisionConflict "The offer revision is stale.")
  else if sender.actor = offer.offeredBy then
    .error (.refused .unauthorized "The current offer author cannot reject their own terms.")
  else
    return desk.setOffer id (offer.finished sender.actor .rejected .rejected now)

/-- `offer.withdraw`: authorship is checked before the revision. -/
def withdraw (desk : OfferDesk) (id : OfferId) (aggregateId : String) (sender : Sender)
    (now : Time) : Except OfferFailure OfferDesk := do
  let offer ← desk.actionableOffer sender.actor id aggregateId now
  if sender.actor ≠ offer.offeredBy then
    .error (.refused .unauthorized "Only the current offer author may withdraw it.")
  else if sender.expectedRevision ≠ offer.revision then
    .error (.refused .revisionConflict "The offer revision is stale.")
  else
    return desk.setOffer id (offer.finished sender.actor .withdrawn .withdrawn now)

/-! The sweeps and the checkout. -/

/-- One row of `expire_due_offers`. -/
def expireOffer (desk : OfferDesk) (id : OfferId) (now : Time) : Option OfferDesk :=
  (desk.offers.find? id).bind fun offer =>
    if offer.isActionable ∧ offer.expiresAt ≤ now then
      some (desk.setOffer id (offer.expired .negotiationWindow now))
    else none

/-- `expire_due_award`. -/
def expireAward (desk : OfferDesk) (id : OfferId) (now : Time) : Except OfferFailure OfferDesk :=
  match desk.offers.find? id with
  | none => .ok desk
  | some offer =>
      match offer.accepted with
      | none => .ok desk
      | some terms =>
          if offer.state = .accepted ∧ terms.awardExpiresAt ≤ now then do
            let inventory ← (expireDueAward desk.sys.inventory terms.award).mapError .service
            return { desk with
              sys := { desk.sys with inventory := inventory }
              offers := desk.offers.set id (offer.expired .awardWindow now) }
          else .ok desk

/-- What the buyer says about the award, and how it is to be fulfilled. -/
structure AwardCheckout where
  award : AwardId
  listing : ListingId
  listingRevision : ℕ
  listingRecordSha256 : String
  variantId : String
  quantity : ℕ
  fulfillment : Option Fulfillment
  hasAddress : Bool

def checkedAward (desk : OfferDesk) (id : OfferId) (aggregateId : String) (sender : Sender)
    (payload : AwardCheckout) (now : Time) : Except OfferFailure (OfferRow × AcceptedTerms) :=
  match desk.offers.find? id with
  | none =>
      .error (.refused .unauthorized "Only the accepted offer's buyer may place this order.")
  | some offer =>
      if aggregateId ≠ offerAggregateId id then
        .error (.refused .invalidCommand "The offer checkout input is invalid.")
      else if sender.actor ≠ offer.buyerPubky then
        .error (.refused .unauthorized "Only the accepted offer's buyer may place this order.")
      else if offer.state = .converted then
        .error .awardAlreadyConverted
      else if sender.expectedRevision ≠ offer.revision then
        .error (.refused .revisionConflict "The offer revision is stale.")
      else if offer.expiryReason = some .awardWindow ∨
          (offer.state = .accepted ∧ !offer.accepted.any (now < ·.awardExpiresAt)) then
        .error .awardExpired
      else if offer.state ≠ .accepted then
        .error (.refused .invalidState "Only an accepted offer can enter offer checkout.")
      else
        match offer.accepted with
        | none => .error .awardVariantMismatch
        | some terms =>
            if terms.variantId ≠ payload.variantId then
              .error .awardVariantMismatch
            else if terms.award.id ≠ payload.award ∨ terms.award.listing ≠ payload.listing ∨
                terms.listingRevision ≠ payload.listingRevision ∨
                terms.listingRecordSha256 ≠ payload.listingRecordSha256 then
              .error .awardListingChanged
            else if terms.award.quantity ≠ payload.quantity then
              .error .awardQuantityMismatch
            else .ok (offer, terms)

def checkout (desk : OfferDesk) (id : OfferId) (aggregateId : String) (sender : Sender)
    (payload : AwardCheckout) (order : OrderId) (holdWindowSeconds : ℕ) (now : Time) :
    Except OfferFailure OfferDesk := do
  let (offer, terms) ← desk.checkedAward id aggregateId sender payload now
  let fulfillment := payload.fulfillment.getD .shipping
  let (book, inventory) ←
    (offerCheckout desk.sys.inventory terms.award order fulfillment holdWindowSeconds now).mapError
      .service
  if fulfillment = .pickup ∧ payload.hasAddress then
    .error (.refused .invalidCommand
      "A checkout with no shipped group must not carry a delivery address.")
  else if fulfillment ≠ .pickup ∧ !payload.hasAddress then
    .error (.refused .invalidCommand
      "A delivery address is required when any checkout group ships.")
  else
    match desk.sys.insert inventory [book] with
    | none => .error (.service (.database "orders_pkey"))
    | some sys =>
        return { desk with sys := sys, offers := desk.offers.set id (offer.converted order now) }

end OfferDesk

/-! The system. -/

def Action.readsOffer : Action → Bool
  | .acceptOffer .. | .expireAward _ | .offerCheckout .. => true
  | _ => false

inductive DeskAction where
  | service (action : Action)
  | locate (id : OfferId)
  | create (id : OfferId) (listing : ListingId) (sender : Sender) (terms : OfferTerms)
      (fetch : TermsFetch) (readAt : Time)
  | counter (id : OfferId) (aggregateId : String) (sender : Sender) (terms : OfferTerms)
      (fetch : TermsFetch) (readAt : Time)
  | accept (id : OfferId) (aggregateId : String) (sender : Sender) (locator : OfferRow)
      (fetch : TermsFetch) (award : AwardId) (reservation : ReservationId) (readAt : Time)
  | reject (id : OfferId) (aggregateId : String) (sender : Sender)
  | withdraw (id : OfferId) (aggregateId : String) (sender : Sender)
  | expireOffer (id : OfferId)
  | expireAward (id : OfferId)
  | checkout (id : OfferId) (aggregateId : String) (sender : Sender)
      (payload : OfferDesk.AwardCheckout) (order : OrderId) (holdWindowSeconds : ℕ)

/-- The commands that fetch a record have read the clock before, at `readAt`, and
lock the offer row after it. An acceptance works besides on a row that was read. -/
def OfferDesk.step (references : References) (desk : OfferDesk) : DeskAction → Option OfferDesk
  | .service action =>
      if action.readsOffer then none
      else (desk.sys.step references action).map fun sys => { desk with sys := sys }
  | .locate id =>
      (desk.offers.find? id).map fun offer =>
        { desk with located := (id, offer) :: desk.located }
  | .create id listing sender terms fetch readAt =>
      if readAt ≤ desk.sys.clock then
        (desk.create id listing sender terms fetch readAt).toOption
      else none
  | .counter id aggregateId sender terms fetch readAt =>
      if readAt ≤ desk.sys.clock then
        (desk.counter id aggregateId sender terms fetch readAt).toOption
      else none
  | .accept id aggregateId sender locator fetch award reservation readAt =>
      if readAt ≤ desk.sys.clock ∧ (id, locator) ∈ desk.located then
        (desk.accept id aggregateId sender locator fetch award reservation readAt).toOption
      else none
  | .reject id aggregateId sender => (desk.reject id aggregateId sender desk.sys.clock).toOption
  | .withdraw id aggregateId sender =>
      (desk.withdraw id aggregateId sender desk.sys.clock).toOption
  | .expireOffer id => desk.expireOffer id desk.sys.clock
  | .expireAward id => (desk.expireAward id desk.sys.clock).toOption
  | .checkout id aggregateId sender payload order holdWindowSeconds =>
      (desk.checkout id aggregateId sender payload order holdWindowSeconds
        desk.sys.clock).toOption

def emptyDesk : OfferDesk := { sys := emptySys, offers := .empty, located := [] }

def offerDesk (references : References) : Runs.System OfferDesk DeskAction :=
  { initial := fun desk => desk = emptyDesk
    step := fun desk action => desk.step references action }

/-! A small negotiation, for concrete runs. -/

/-- An hour to answer dollars for one lamp. -/
def lampTerms (amountMinor : ℕ) (positive : 0 < amountMinor) : OfferTerms :=
  { amount := { amountMinor := amountMinor, currency := "USD", exponent := 2 }
    quantity := 1
    expiresInSeconds := 3600
    message := ""
    amount_pos := positive
    quantity_pos := Nat.one_pos }

def lampBidTerms : OfferTerms := lampTerms 2000 (Nat.succ_pos 1999)

def lampAskTerms : OfferTerms := lampTerms 2200 (Nat.succ_pos 2199)

/-- The row of the buyer's offer and the seller's counteroffer. -/
def counteredLamp : OfferRow :=
  (newOffer 1 "lamp" "buyer" "seller" lampBidTerms none 0).countered "seller" lampAskTerms none 0

def negotiatedLamp : List DeskAction :=
  [ .service (.registerListing "lamp" (sampleRecord 1 "USD" 2) ⟨"seller", 0⟩ false)
  , .create 1 "lamp" ⟨"buyer", 1⟩ lampBidTerms .disabled 0
  , .counter 1 "offer:1" ⟨"seller", 1⟩ lampAskTerms .disabled 0 ]

def acceptedLamp : List DeskAction :=
  [ .locate 1
  , .accept 1 "offer:1" ⟨"buyer", 2⟩ counteredLamp .disabled 5 6 0 ]

/-- The buyer's checkout of award 5 as order 7. -/
def convertedLamp : DeskAction :=
  .checkout 1 "offer:1" ⟨"buyer", 3⟩
    { award := 5
      listing := "lamp"
      listingRevision := 1
      listingRecordSha256 := "lamp"
      variantId := "lamp"
      quantity := 1
      fulfillment := none
      hasAddress := true } 7 600

end MarketplaceService
