import Mathlib.Data.List.Sort
import MarketplaceService.Catalog

/-!
Auctions (`handlers/auction.rs`, the auction parts of `register_listing.rs` and
`workers.rs`): proxy bidding with maximums, the visible price of the two best
bidders, anti-sniping, the reserve and the close. What a listing's auction
column, its reserve row and its bids hold is kept together in an
`AuctionFile`; the listing row itself is the catalog's. Bid ids and the visible
amount copied to each bid are not modelled, and the reserve is read in the
clear.
-/

namespace MarketplaceService

/-- `Number.MAX_SAFE_INTEGER`, the largest amount a command may carry. -/
def maxSafeInteger : ℕ := 9007199254740991

structure Money where
  amountMinor : ℕ
  currency : String
  exponent : ℕ
deriving DecidableEq, Repr

def Money.sameAsset (left right : Money) : Bool :=
  left.currency == right.currency && left.exponent == right.exponent

def Listing.unitPrice (listing : Listing) : Money :=
  { amountMinor := listing.unitPriceAmountMinor
    currency := listing.unitPriceCurrency
    exponent := listing.unitPriceExponent }

inductive AuctionStatus where
  | scheduled
  | active
  | sold
  | unsold
  | cancelled
deriving DecidableEq, Repr

structure AuctionTerms where
  startsAt : Time
  endsAt : Time
  minimumIncrement : Money
  antiSnipingWindowSeconds : ℕ
  antiSnipingExtensionSeconds : ℕ
  ends_after : startsAt < endsAt
  increment_pos : 0 < minimumIncrement.amountMinor
  window_le : antiSnipingWindowSeconds ≤ 3600
  extension_le : antiSnipingExtensionSeconds ≤ 3600
deriving DecidableEq

/-- `listings.auction`. -/
structure AuctionState where
  startsAt : Time
  endsAt : Time
  minimumIncrement : Money
  antiSnipingWindowSeconds : ℕ
  antiSnipingExtensionSeconds : ℕ
  status : AuctionStatus
  currentPrice : Money
  leaderPubky : Option Pubky
  bidCount : ℕ
deriving DecidableEq, Repr

/-- A row of `listing_auction_reserves`. -/
structure AuctionReserve where
  listingRevision : ℕ
  recordRevision : ℕ
  reservePrice : Option Money
deriving DecidableEq, Repr

structure Bid where
  bidderPubky : Pubky
  maximumAmountMinor : ℕ
  currency : String
  exponent : ℕ
  sequence : ℕ
  createdAt : Time
deriving DecidableEq, Repr

structure AuctionFile where
  auction : AuctionState
  reserve : Option AuctionReserve
  bids : List Bid
deriving DecidableEq

/-! Registration. -/

/-- `auction_json`: an edit keeps the status, the price, the leader and the
count; a new auction starts at once or is scheduled. -/
def auctionJson (terms : AuctionTerms) (unitPrice : Money) (current : Option AuctionState)
    (now : Time) : AuctionState :=
  { startsAt := terms.startsAt
    endsAt := terms.endsAt
    minimumIncrement := terms.minimumIncrement
    antiSnipingWindowSeconds := terms.antiSnipingWindowSeconds
    antiSnipingExtensionSeconds := terms.antiSnipingExtensionSeconds
    status := (current.map AuctionState.status).getD
      (if now < terms.startsAt then .scheduled else .active)
    currentPrice := (current.map AuctionState.currentPrice).getD unitPrice
    leaderPubky := current.bind AuctionState.leaderPubky
    bidCount := (current.map AuctionState.bidCount).getD 0 }

structure ReserveAuthority where
  expectedRecordRevision : ℕ
  recordRevision : ℕ
  reservePrice : Option Money
deriving DecidableEq, Repr

def ListingRecord.unitPrice (record : ListingRecord) : Money :=
  { amountMinor := record.unitPriceAmountMinor
    currency := record.unitPriceCurrency
    exponent := record.unitPriceExponent }

/-- The registration's amounts are in the listing's asset, it offers a unit at
least, and the reserve is not below the start price. -/
def wellFormedAuction (record : ListingRecord) (terms : AuctionTerms)
    (reserve : ReserveAuthority) : Bool :=
  record.saleFormat == .auction && terms.minimumIncrement.sameAsset record.unitPrice &&
    decide (0 < record.unitPriceAmountMinor) && decide (0 < record.quantity) &&
    reserve.reservePrice.all fun price =>
      price.sameAsset record.unitPrice && decide (record.unitPriceAmountMinor ≤ price.amountMinor)

def reserveRevisionGate (current : Option AuctionFile) (record : ListingRecord)
    (reserve : ReserveAuthority) : Except Failure Unit :=
  match current with
  | none =>
      if record.listingRevision ≠ 1 ∨ reserve.expectedRecordRevision ≠ 0 ∨
          reserve.recordRevision ≠ 1 then
        .error (.refused .revisionConflict "The reserve record revision is stale.")
      else .ok ()
  | some file =>
      match file.reserve with
      | none =>
          .error (.refused .invariantViolation "The listing reserve authority is inconsistent.")
      | some stored =>
          if reserve.expectedRecordRevision ≠ stored.recordRevision ∨
              reserve.recordRevision ≠ stored.recordRevision + 1 then
            .error (.refused .revisionConflict "The reserve record revision is stale.")
          else .ok ()

def termsChanged (listing : Listing) (auction : AuctionState) (record : ListingRecord)
    (terms : AuctionTerms) : Bool :=
  listing.unitPrice != record.unitPrice || auction.startsAt != terms.startsAt ||
    auction.endsAt != terms.endsAt || auction.minimumIncrement != terms.minimumIncrement ||
    auction.antiSnipingWindowSeconds != terms.antiSnipingWindowSeconds ||
    auction.antiSnipingExtensionSeconds != terms.antiSnipingExtensionSeconds

def allowedDecrease (auction : AuctionState) (stored candidate : Option Money) (now : Time) :
    Bool :=
  match stored, candidate with
  | some stored, some candidate =>
      candidate.sameAsset stored && decide (candidate.amountMinor < stored.amountMinor) &&
        auction.status == .scheduled && decide (now < auction.startsAt) && auction.bidCount == 0
  | _, _ => false

/-- `validate_edit` of an auction. -/
def validateEdit (listing : Listing) (file : AuctionFile) (record : ListingRecord)
    (terms : AuctionTerms) (reserve : ReserveAuthority) (now : Time) : Except Failure Unit :=
  match file.reserve with
  | none => .error (.refused .invariantViolation "The auction reserve authority is missing.")
  | some stored =>
      if termsChanged listing file.auction record terms then
        .error (.refused .invalidState "Auction terms cannot change after registration.")
      else if stored.reservePrice ≠ reserve.reservePrice ∧
          !allowedDecrease file.auction stored.reservePrice reserve.reservePrice now then
        .error (.refused .invalidState "The auction reserve change is not permitted.")
      else .ok ()

/-- `auction_json` and `persist_reserve`: the file a registration leaves. -/
def registeredFile (current : Option AuctionFile) (record : ListingRecord) (terms : AuctionTerms)
    (reserve : ReserveAuthority) (now : Time) : AuctionFile :=
  { auction := auctionJson terms record.unitPrice (current.map AuctionFile.auction) now
    reserve := some
      { listingRevision := record.listingRevision
        recordRevision := reserve.recordRevision
        reservePrice := reserve.reservePrice }
    bids := (current.map AuctionFile.bids).getD [] }

/-! Bidding. -/

def saturatingAdd (left right : ℕ) : ℕ := min (left + right) i64Max

/-- The lowest maximum accepted from a bidder. -/
def personalMinimumNextBid (currentPriceMinor minimumIncrementMinor bidderPreviousMaximum : ℕ) :
    ℕ :=
  let visiblePriceMinimum := saturatingAdd currentPriceMinor minimumIncrementMinor
  if bidderPreviousMaximum = 0 then visiblePriceMinimum
  else max visiblePriceMinimum (saturatingAdd bidderPreviousMaximum 1)

def bidderPreviousMaximum (bids : List Bid) (bidder : Pubky) : ℕ :=
  ((bids.filter (·.bidderPubky == bidder)).map Bid.maximumAmountMinor).foldl max 0

/-- The bid replaces its bidder's standing one. -/
def Bid.outranks (bid current : Bid) : Bool :=
  decide (current.maximumAmountMinor < bid.maximumAmountMinor) ||
    (bid.maximumAmountMinor == current.maximumAmountMinor &&
      decide (bid.sequence < current.sequence))

/-- One bid more: the bidder's own representative, or a new one. -/
def represent (bid : Bid) : List Bid → List Bid
  | [] => [bid]
  | current :: rest =>
      if current.bidderPubky = bid.bidderPubky then
        (if bid.outranks current then bid else current) :: rest
      else current :: represent bid rest

/-- Maximum descending, then sequence ascending. -/
def Bid.comesFirst (left right : Bid) : Prop :=
  right.maximumAmountMinor < left.maximumAmountMinor ∨
    left.maximumAmountMinor = right.maximumAmountMinor ∧ left.sequence ≤ right.sequence

instance : DecidableRel Bid.comesFirst := fun left right =>
  inferInstanceAs (Decidable (right.maximumAmountMinor < left.maximumAmountMinor ∨
    left.maximumAmountMinor = right.maximumAmountMinor ∧ left.sequence ≤ right.sequence))

def rankedBidderMaximums (bids : List Bid) : List Bid :=
  (bids.foldl (fun latest bid => represent bid latest) []).insertionSort Bid.comesFirst

/-- The price two bidders make, or the start price for one. -/
def visibleAmount (ranked : List Bid) (minimumIncrementMinor unitPriceMinor : ℕ) : ℕ :=
  match ranked with
  | leader :: runnerUp :: _ =>
      min leader.maximumAmountMinor (runnerUp.maximumAmountMinor + minimumIncrementMinor)
  | _ => unitPriceMinor

/-- A validated `auction.place_bid`. -/
structure BidCommand where
  sender : Sender
  maximumAmount : Money
  safe : maximumAmount.amountMinor ≤ maxSafeInteger
  positive : 0 < maximumAmount.amountMinor
deriving DecidableEq

def auctionNotOpen : Failure :=
  .refused .auctionClosed "The auction is not open for bidding."

/-- The auction after a bid: price, leader, count, and a later end when the bid
falls into the anti-sniping window. -/
def AuctionState.withBid (auction : AuctionState) (visible : ℕ) (leader : Pubky) (now : Time) :
    AuctionState :=
  { auction with
    endsAt :=
      if 0 < auction.antiSnipingWindowSeconds ∧
          auction.endsAt - now ≤ auction.antiSnipingWindowSeconds then
        now + auction.antiSnipingExtensionSeconds
      else auction.endsAt
    currentPrice := { auction.currentPrice with amountMinor := visible }
    leaderPubky := some leader
    bidCount := auction.bidCount + 1 }

def BidCommand.row (command : BidCommand) (file : AuctionFile) (now : Time) : Bid :=
  { bidderPubky := command.sender.actor
    maximumAmountMinor := command.maximumAmount.amountMinor
    currency := command.maximumAmount.currency
    exponent := command.maximumAmount.exponent
    sequence := file.auction.bidCount + 1
    createdAt := now }

def AuctionFile.withBid (file : AuctionFile) (bid : Bid) (unitPriceMinor : ℕ) (now : Time) :
    AuctionFile :=
  let bids := file.bids ++ [bid]
  let ranked := rankedBidderMaximums bids
  { auction := file.auction.withBid
      (visibleAmount ranked file.auction.minimumIncrement.amountMinor unitPriceMinor)
      ((ranked.head?.map Bid.bidderPubky).getD bid.bidderPubky) now
    reserve := file.reserve
    bids := bids }

/-- `place_bid`, apart from the listing row. -/
def placeAuctionBid (listing : Option Listing) (file : Option AuctionFile) (command : BidCommand)
    (now : Time) : Except Failure AuctionFile :=
  match listing.filter (!·.isDeleted) with
  | none => .error (.refused .notFound "The auction listing is not registered.")
  | some listing =>
      if listing.sellerPubky = command.sender.actor then
        .error (.refused .unauthorized "A seller cannot bid on their own auction.")
      else
        match file.filter fun _ => listing.saleFormat == .auction with
        | none => .error (.refused .invalidState "This listing is not an auction.")
        | some file =>
            if file.reserve.isNone then
              .error (.refused .invariantViolation "The auction reserve authority is missing.")
            else if file.auction.status ≠ .active then .error auctionNotOpen
            else if command.sender.expectedRevision ≠ listing.serverRevision then
              .error (.refused .revisionConflict "The auction revision is stale.")
            else if now < file.auction.startsAt ∨ file.auction.endsAt ≤ now then
              .error auctionNotOpen
            else if !command.maximumAmount.sameAsset listing.unitPrice then
              .error (.refused .invalidCommand
                "Bid maximum must use the auction asset and exponent.")
            else if command.maximumAmount.amountMinor <
                personalMinimumNextBid file.auction.currentPrice.amountMinor
                  file.auction.minimumIncrement.amountMinor
                  (bidderPreviousMaximum file.bids command.sender.actor) then
              .error (.refused .bidTooLow
                ("Bid maximum must meet the current visible price increment and exceed the " ++
                  "prior maximum."))
            else
              let bid := command.row file now
              if file.bids.any (·.sequence == bid.sequence) then
                .error (.database "bids_listing_sequence_unique")
              else .ok (file.withBid bid listing.unitPriceAmountMinor now)

/-! The close. -/

def reserveSatisfied (listing : Listing) (auction : AuctionState) (reserve : AuctionReserve) :
    Except Failure Bool :=
  if reserve.listingRevision ≠ listing.listingRevision then
    .error (.database "auction reserve revision is inconsistent")
  else if !auction.currentPrice.sameAsset listing.unitPrice ||
      !auction.minimumIncrement.sameAsset listing.unitPrice then
    .error (.database "auction current-price asset is inconsistent")
  else
    match reserve.reservePrice with
    | none => .ok true
    | some price =>
        if !price.sameAsset listing.unitPrice then
          .error (.database "auction reserve asset is inconsistent")
        else .ok (decide (price.amountMinor ≤ auction.currentPrice.amountMinor))

/-- Who wins when the auction closes: the leader, once the reserve is met, of a
listing that was not deleted. -/
def auctionWinner (listing : Listing) (file : AuctionFile) : Except Failure (Option Pubky) :=
  match file.reserve with
  | none => .error (.database "auction reserve authority is missing")
  | some reserve =>
      (reserveSatisfied listing file.auction reserve).map fun satisfied =>
        if satisfied && !listing.isDeleted then file.auction.leaderPubky else none

/-- Who closes: the seller, with the revision read, or the server-time worker. -/
inductive Closer where
  | seller (sender : Sender)
  | worker
deriving DecidableEq, Repr

/-- The checks of `auction.close` and of `close_one_due_auction`. -/
def closeGate (listing : Option Listing) (file : Option AuctionFile) (closer : Closer)
    (now : Time) : Except Failure (Listing × AuctionFile) :=
  match listing, file with
  | some listing, some file =>
      match closer with
      | .seller sender =>
          if listing.sellerPubky ≠ sender.actor then
            .error (.refused .unauthorized "Only the seller may close this sandbox auction.")
          else if listing.saleFormat ≠ .auction ∨ file.auction.status ≠ .active then
            .error (.refused .invalidState "The auction is not active.")
          else if sender.expectedRevision ≠ listing.serverRevision then
            .error (.refused .revisionConflict "The auction revision is stale.")
          else if now < file.auction.endsAt then
            .error (.refused .auctionClosed "The auction has not ended yet.")
          else .ok (listing, file)
      | .worker =>
          if listing.saleFormat = .auction ∧ file.auction.status = .active ∧
              file.auction.endsAt ≤ now then
            .ok (listing, file)
          else .error (.internal "not due")
  | _, _ => .error (.refused .notFound "The auction listing is not registered.")

/-- The rows `close_due_auctions` selects, before its batch limit. -/
def dueAuction (listing : Listing) (file : AuctionFile) (now : Time) : Bool :=
  listing.saleFormat == .auction && file.auction.status == .active &&
    decide (file.auction.endsAt ≤ now)

end MarketplaceService
