import MarketplaceService.DeletionFollower
import MarketplaceService.ProxyPrices
import MarketplaceService.Lib.Unwinding

/-!
What the parties of an auction are told (`handlers/auction.rs`, `queries.rs`,
`model.rs`, `reserve_secrecy.rs`). A floor is the service with its auctions, the
visible amount that each bid left, and the notifications written so far; a
request is answered with a JSON body or a refusal, and a refused request leaves
the floor as it was. The columns of a listing that no rule reads, its title,
hash and write time, are not modelled, and times are rendered by a function that
is given.
-/

namespace MarketplaceService

/-! JSON values and the reserve guards. -/

inductive Json where
  | null
  | bool (value : Bool)
  | num (value : ℤ)
  | str (text : String)
  | arr (items : List Json)
  | obj (fields : List (String × Json))

def forbiddenReserveKeys : List String :=
  ["reserve_price", "reservePrice", "reserve_met", "reserveMet"]

def sellerOnlyReserveMetadataKeys : List String :=
  ["reserve_record_revision", "last_reserve_command_id"]

def isReserveAudienceKey (key : String) : Bool :=
  forbiddenReserveKeys.contains key || sellerOnlyReserveMetadataKeys.contains key

mutual

def Json.ensureReserveFree : Json → Bool
  | .obj fields => Json.fieldsReserveFree fields
  | .arr items => Json.itemsReserveFree items
  | _ => true

def Json.fieldsReserveFree : List (String × Json) → Bool
  | [] => true
  | (key, value) :: rest =>
      !isReserveAudienceKey key && value.ensureReserveFree && Json.fieldsReserveFree rest

def Json.itemsReserveFree : List Json → Bool
  | [] => true
  | value :: rest => value.ensureReserveFree && Json.itemsReserveFree rest

end

def Json.isText (text : String) : Json → Bool
  | .str other => other == text
  | _ => false

def sellerObject (actor : Pubky) (fields : List (String × Json)) : Bool :=
  fields.any fun field => field.1 == "seller_pubky" && field.2.isText actor

def sellerReserveKeys : List String :=
  ["reserve_price", "reserve_met", "reserve_record_revision", "last_reserve_command_id"]

mutual

def Json.ensureActorReserveAudience (actor : Pubky) : Json → Bool
  | .obj fields => Json.fieldsForActor actor (sellerObject actor fields) fields
  | .arr items => Json.itemsForActor actor items
  | _ => true

def Json.fieldsForActor (actor : Pubky) (own : Bool) : List (String × Json) → Bool
  | [] => true
  | (key, value) :: rest =>
      (!isReserveAudienceKey key || (own && sellerReserveKeys.contains key)) &&
        value.ensureActorReserveAudience actor && Json.fieldsForActor actor own rest

def Json.itemsForActor (actor : Pubky) : List Json → Bool
  | [] => true
  | value :: rest => value.ensureActorReserveAudience actor && Json.itemsForActor actor rest

end

/-- `projection[key] = value`. -/
def Json.set (document : Json) (key : String) (value : Json) : Json :=
  match document with
  | .obj fields => .obj (fields.filter (·.1 != key) ++ [(key, value)])
  | other => other

/-! Projections. -/

def moneyJson (amountMinor : ℕ) (currency : String) (exponent : ℕ) : Json :=
  .obj [("amount_minor", .num amountMinor), ("currency", .str currency),
    ("exponent", .num exponent)]

def Money.json (money : Money) : Json := moneyJson money.amountMinor money.currency money.exponent

def AuctionStatus.text : AuctionStatus → String
  | .scheduled => "scheduled"
  | .active => "active"
  | .sold => "sold"
  | .unsold => "unsold"
  | .cancelled => "cancelled"

def ListingState.text : ListingState → String
  | .available => "available"
  | .reserved => "reserved"
  | .sold => "sold"

def SaleFormat.text : SaleFormat → String
  | .fixedPrice => "fixed_price"
  | .auction => "auction"

def Fulfillment.text : Fulfillment → String
  | .shipping => "shipping"
  | .pickup => "pickup"
  | .digital => "digital"

def DigitalDeliveryKind.name : DigitalDeliveryKind → String
  | .file => "file"
  | .link => "link"
  | .text => "text"
  | .email => "email"
  | .message => "message"

section Views

variable (formatTimestamp : Time → String)

def AuctionState.toValue (auction : AuctionState) : Json :=
  .obj [
    ("starts_at", .str (formatTimestamp auction.startsAt)),
    ("ends_at", .str (formatTimestamp auction.endsAt)),
    ("minimum_increment", auction.minimumIncrement.json),
    ("anti_sniping_window_seconds", .num auction.antiSnipingWindowSeconds),
    ("anti_sniping_extension_seconds", .num auction.antiSnipingExtensionSeconds),
    ("status", .str auction.status.text),
    ("current_price", auction.currentPrice.json),
    ("leader_pubky", (auction.leaderPubky.map Json.str).getD .null),
    ("bid_count", .num auction.bidCount)]

def Listing.digitalDeliveryProjection (listing : Listing) : Json :=
  match listing.currentVersion with
  | none => .null
  | some kind => .obj [("kind", .str kind.name)]

/-- `public_projection`; the auction is the column of the listing. -/
def publicProjection (id : ListingId) (listing : Listing) (auction : Option AuctionState) :
    Option Json :=
  let projection : Json := .obj [
    ("aggregate_id", .str id),
    ("seller_pubky", .str listing.sellerPubky),
    ("listing_revision", .num listing.listingRevision),
    ("server_revision", .num listing.serverRevision),
    ("state", .str listing.state.text),
    ("total_quantity", .num listing.totalQuantity),
    ("available_quantity", .num listing.availableQuantity),
    ("reserved_quantity", .num listing.reservedQuantity),
    ("sold_quantity", .num listing.soldQuantity),
    ("unit_price", listing.unitPrice.json),
    ("shipping",
      moneyJson listing.shippingMinor listing.unitPriceCurrency listing.unitPriceExponent),
    ("sale_format", .str listing.saleFormat.text),
    ("auction", (auction.map (AuctionState.toValue formatTimestamp)).getD .null),
    ("fulfillment_methods", .arr (listing.fulfillmentMethods.map fun method => .str method.text)),
    ("digital_delivery", listing.digitalDeliveryProjection)]
  if projection.ensureReserveFree then some projection else none

/-- `reserve_met`. -/
def AuctionReserve.met (reserve : AuctionReserve) (auction : AuctionState) : Option Bool :=
  match auction.leaderPubky, reserve.reservePrice with
  | none, _ => some false
  | some _, none => some true
  | some _, some price =>
      if price.sameAsset auction.currentPrice then
        some (decide (price.amountMinor ≤ auction.currentPrice.amountMinor))
      else none

/-- `projection_for_actor_with_auction`. The seller also sees the reserve; the id
of the command that wrote it is not modelled. -/
def projectionForActorWithAuction (id : ListingId) (listing : Listing)
    (auction : Option AuctionState) (actor : Pubky) (reserve : Option AuctionReserve)
    (viewerBid : Option Json) : Option Json := do
  let base ← publicProjection formatTimestamp id listing auction
  let projection := match viewerBid with
    | some view => base.set "viewer_bid" view
    | none => base
  if listing.saleFormat = .auction ∧ actor = listing.sellerPubky then
    let reserve ← reserve
    if reserve.listingRevision ≠ listing.listingRevision then none
    else
      let auction ← auction
      if !auction.currentPrice.sameAsset listing.unitPrice ||
          !auction.minimumIncrement.sameAsset listing.unitPrice then none
      else
        let met ← reserve.met auction
        some (((projection.set "reserve_price"
          ((reserve.reservePrice.map Money.json).getD .null)).set "reserve_met" (.bool met)).set
            "reserve_record_revision" (.num reserve.recordRevision))
  else if projection.ensureReserveFree then some projection
  else none

def viewerBidJson (auction : AuctionState) (maximumMinor : ℕ) (currency : String)
    (exponent : ℕ) : Json :=
  .obj [
    ("maximum_amount", moneyJson maximumMinor currency exponent),
    ("minimum_next_bid", moneyJson
      (personalMinimumNextBid auction.currentPrice.amountMinor
        auction.minimumIncrement.amountMinor maximumMinor) currency exponent)]

def Bid.view (bid : Bid) (id : ListingId) : Json :=
  .obj [
    ("listing_aggregate_id", .str id),
    ("bidder_pubky", .str bid.bidderPubky),
    ("maximum_amount", moneyJson bid.maximumAmountMinor bid.currency bid.exponent),
    ("sequence", .num bid.sequence),
    ("created_at", .str (formatTimestamp bid.createdAt))]

/-- The columns of a bid that `list_listing_bids` reads. -/
structure BidHistoryRow where
  sequence : ℕ
  bidderPubky : Pubky
  visibleAmountMinor : ℕ
  currency : String
  exponent : ℕ
  createdAt : Time
deriving DecidableEq, Repr

def BidHistoryRow.json (row : BidHistoryRow) : Json :=
  .obj [
    ("sequence", .num row.sequence),
    ("bidder_pubky", .str row.bidderPubky),
    ("visible_amount", moneyJson row.visibleAmountMinor row.currency row.exponent),
    ("created_at", .str (formatTimestamp row.createdAt))]

end Views

/-! The floor. -/

inductive AuctionNoticeKind where
  | outbid
  | auctionWon
  | auctionEnded
deriving DecidableEq, Repr

/-- A notification intent. -/
structure AuctionNotice where
  kind : AuctionNoticeKind
  recipientPubky : Pubky
  actorPubky : Pubky
  aggregateId : ListingId
  amount : Money
deriving DecidableEq, Repr

structure Floor where
  house : House
  history : Keyed.Table ListingId (List BidHistoryRow)
  notices : List AuctionNotice

inductive FloorRequest where
  | service (action : Action)
  | register (id : ListingId) (listingId : String) (registration : AuctionRegistration)
      (sender : Sender)
  | placeBid (id : ListingId) (command : BidCommand)
  | close (id : ListingId) (closer : Closer) (reservation : ReservationId) (order : OrderId)
  | getListing (id : ListingId) (actor : Pubky)
  | listListingBids (id : ListingId) (actor : Pubky)

/-- Who is answered; a step of the service is not on behalf of one actor. -/
def FloorRequest.caller : FloorRequest → Option Pubky
  | .service _ => none
  | .register _ _ _ sender => some sender.actor
  | .placeBid _ command => some command.sender.actor
  | .close _ (.seller sender) _ _ => some sender.actor
  | .close _ .worker _ _ => none
  | .getListing _ actor => some actor
  | .listListingBids _ actor => some actor

/-- A body, a refusal with the revision that some refusals carry, or the answer
to an internal error. What the seller alone is told of a registration or a close
that is done is not modelled. -/
inductive FloorResponse where
  | body (value : Json)
  | refused (failure : Failure) (currentRevision : Option ℕ)
  | internal
  | served

/-- The request was carried out. -/
def FloorResponse.isDone : FloorResponse → Bool
  | .body _ | .served => true
  | .refused .. | .internal => false

/-- `refused_with_revision` of the auction commands. -/
def House.refusal (house : House) (id : ListingId) (failure : Failure) : FloorResponse :=
  match failure with
  | .refused .revisionConflict _ | .refused .bidTooLow _ =>
      .refused failure ((house.sys.inventory.listings.find? id).map Listing.serverRevision)
  | _ => .refused failure none

def guardCommandResult (actor : Pubky) (body : Json) : FloorResponse :=
  if body.ensureActorReserveAudience actor then .body body else .internal

/-- The displaced leader hears of the new visible price. -/
def outbidNotices (id : ListingId) (listing : Listing) (before after : AuctionState)
    (actor : Pubky) : List AuctionNotice :=
  match before.leaderPubky with
  | none => []
  | some previous =>
      if some previous ≠ after.leaderPubky ∧ previous ≠ actor then
        [{ kind := .outbid
           recipientPubky := previous
           actorPubky := actor
           aggregateId := id
           amount := { listing.unitPrice with amountMinor := after.currentPrice.amountMinor } }]
      else []

def closeNotices (id : ListingId) (file : AuctionFile) (winner : Option Pubky) (actor : Pubky) :
    List AuctionNotice :=
  let notice (kind : AuctionNoticeKind) (recipient : Pubky) : AuctionNotice :=
    { kind := kind
      recipientPubky := recipient
      actorPubky := actor
      aggregateId := id
      amount := file.auction.currentPrice }
  winner.toList.map (notice .auctionWon) ++
    (((file.bids.map Bid.bidderPubky).dedup.insertionSort (· ≤ ·)).filter fun bidder =>
      winner ≠ some bidder).map (notice .auctionEnded)

def BidCommand.historyRow (command : BidCommand) (before after : AuctionFile) (now : Time) :
    BidHistoryRow :=
  let bid := command.row before now
  { sequence := bid.sequence
    bidderPubky := bid.bidderPubky
    visibleAmountMinor := after.auction.currentPrice.amountMinor
    currency := bid.currency
    exponent := bid.exponent
    createdAt := bid.createdAt }

section Requests

variable (formatTimestamp : Time → String)

/-- The answer to `auction.place_bid`. -/
def bidResult (id : ListingId) (listing : Listing) (before after : AuctionFile)
    (command : BidCommand) (now : Time) : Option FloorResponse :=
  let actor := command.sender.actor
  let viewer := viewerBidJson after.auction command.maximumAmount.amountMinor
    command.maximumAmount.currency command.maximumAmount.exponent
  (projectionForActorWithAuction formatTimestamp id listing (some after.auction) actor after.reserve
    (some viewer)).map fun view =>
      guardCommandResult actor (.obj [
        ("kind", .str "bid"),
        ("listing", view),
        ("bid", (command.row before now).view formatTimestamp id)])

/-- A projection that fails takes the whole bid back. -/
def Floor.placeBid (floor : Floor) (id : ListingId) (command : BidCommand) :
    Floor × FloorResponse :=
  let now := floor.house.sys.clock
  match floor.house.placeBid id command now with
  | .error failure => (floor, floor.house.refusal id failure)
  | .ok house =>
      match floor.house.files.find? id, house.files.find? id,
        house.sys.inventory.listings.find? id with
      | some before, some after, some listing =>
          match bidResult formatTimestamp id listing before after command now with
          | none => (floor, .internal)
          | some response =>
              ({ house := house
                 history := floor.history.set id
                  ((floor.history.find? id).getD [] ++ [command.historyRow before after now])
                 notices := floor.notices ++
                  outbidNotices id listing before.auction after.auction command.sender.actor },
                response)
      | _, _, _ => (floor, .internal)

def Closer.actor (closer : Closer) (listing : Listing) : Pubky :=
  match closer with
  | .seller sender => sender.actor
  | .worker => listing.sellerPubky

def Floor.close (floor : Floor) (id : ListingId) (closer : Closer) (reservation : ReservationId)
    (order : OrderId) : Floor × FloorResponse :=
  match floor.house.close id closer reservation order floor.house.sys.clock with
  | .error failure => (floor, floor.house.refusal id failure)
  | .ok house =>
      match floor.house.files.find? id, floor.house.sys.inventory.listings.find? id with
      | some file, some listing =>
          match auctionWinner listing file with
          | .error _ => (floor, .internal)
          | .ok winner =>
              ({ floor with
                 house := house
                 notices := floor.notices ++ closeNotices id file winner (closer.actor listing) },
                .served)
      | _, _ => (floor, .internal)

/-- `register_addresses_its_own_listing` comes first. -/
def Floor.register (floor : Floor) (id : ListingId) (listingId : String)
    (registration : AuctionRegistration) (sender : Sender) : Floor × FloorResponse :=
  if sender.actor ≠ registration.record.sellerPubky then
    (floor, .refused
      (.refused .unauthorized "Only the listing seller may register inventory.") none)
  else if id ≠ listingAggregateId (registration.record.sellerPubky, listingId) then
    (floor, .refused (.refused .invalidCommand
      "The listing aggregate id does not match its seller and listing.") none)
  else
    match floor.house.register id registration sender floor.house.sys.clock with
    | .error failure => (floor, floor.house.refusal id failure)
    | .ok house => ({ floor with house := house }, .served)

def ownBid (bids : List Bid) (actor : Pubky) : Option Bid :=
  ((bids.filter (·.bidderPubky == actor)).insertionSort fun left right =>
    right.maximumAmountMinor ≤ left.maximumAmountMinor).head?

def listingMissingBody : FloorResponse :=
  .refused (.refused .notFound "The listing was not found.") none

def viewerBid (file : Option AuctionFile) (actor : Pubky) : Option Json :=
  file.bind fun file =>
    (ownBid file.bids actor).map fun bid =>
      viewerBidJson file.auction bid.maximumAmountMinor bid.currency bid.exponent

def Floor.getListing (floor : Floor) (id : ListingId) (actor : Pubky) : FloorResponse :=
  match (floor.house.sys.inventory.listings.find? id).filter (!·.isDeleted) with
  | none => listingMissingBody
  | some listing =>
      let file := floor.house.files.find? id
      match projectionForActorWithAuction formatTimestamp id listing (file.map AuctionFile.auction)
          actor (file.bind AuctionFile.reserve) (viewerBid file actor) with
      | none => .internal
      | some view => .body view

def Floor.listListingBids (floor : Floor) (id : ListingId) (actor : Pubky) : FloorResponse :=
  match floor.house.sys.inventory.listings.find? id with
  | none => listingMissingBody
  | some listing =>
      let file := floor.house.files.find? id
      let bids := (file.map AuctionFile.bids).getD []
      if listing.isDeleted ∧ actor ≠ listing.sellerPubky ∧
          bids.any (·.bidderPubky == actor) = false then
        listingMissingBody
      else
        let body : Json := .obj [
          ("bids", .arr (((floor.history.find? id).getD []).map
            (BidHistoryRow.json formatTimestamp))),
          ("auction", (file.map fun file => file.auction.toValue formatTimestamp).getD .null),
          ("server_time", .str (formatTimestamp floor.house.sys.clock))]
        if body.ensureReserveFree then .body body else .internal

def Floor.service (references : References) (floor : Floor) (action : Action) :
    Floor × FloorResponse :=
  match floor.house.step references (.service action) with
  | some house => ({ floor with house := house }, .served)
  | none => (floor, .internal)

def Floor.serve (references : References) (floor : Floor) : FloorRequest → Floor × FloorResponse
  | .service action => floor.service references action
  | .register id listingId registration sender => floor.register id listingId registration sender
  | .placeBid id command => floor.placeBid formatTimestamp id command
  | .close id closer reservation order => floor.close id closer reservation order
  | .getListing id actor => (floor, floor.getListing formatTimestamp id actor)
  | .listListingBids id actor => (floor, floor.listListingBids formatTimestamp id actor)

def Floor.run (references : References) (floor : Floor) (requests : List FloorRequest) :
    Floor × List FloorResponse :=
  Unwinding.run (Floor.serve formatTimestamp references) floor requests

end Requests

def emptyFloor : Floor := { house := emptyHouse, history := .empty, notices := [] }

/-- The answers to an actor's own requests. -/
def received (actor : Pubky) (requests : List FloorRequest) (responses : List FloorResponse) :
    List FloorResponse :=
  Unwinding.observed (fun request => request.caller == some actor) requests responses

def Floor.noticesFor (floor : Floor) (actor : Pubky) : List AuctionNotice :=
  floor.notices.filter (·.recipientPubky == actor)

end MarketplaceService
