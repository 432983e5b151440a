import MarketplaceService.Auctions
import MarketplaceService.DropGate

/-!
The service with its auctions. A house is the service and the auction file of
each listing; the commands on an auction write its file and its listing row in
one transaction, every other command of the service leaves the files alone.
Each step of a house is a step of the service, and what a step does to one
auction is one of five things.
-/

namespace MarketplaceService

structure House where
  sys : Sys
  files : Keyed.Table ListingId AuctionFile
deriving DecidableEq

/-- A validated `listing.register` of an auction. -/
structure AuctionRegistration where
  record : ListingRecord
  terms : AuctionTerms
  reserve : ReserveAuthority
  wellFormed : wellFormedAuction record terms reserve = true
deriving DecidableEq

inductive HouseAction where
  | service (action : Action)
  | register (id : ListingId) (registration : AuctionRegistration) (sender : Sender)
  | placeBid (id : ListingId) (command : BidCommand)
  | close (id : ListingId) (closer : Closer) (reservation : ReservationId) (order : OrderId)
deriving DecidableEq

def Action.readsFile : Action → Bool
  | .placeBid _ | .closeAuction .. | .closeUnsold _ => true
  | .registerListing _ record _ _ => record.saleFormat == .auction
  | _ => false

/-- The record as the catalog stores it: a new auction that has started is
active. -/
def AuctionRegistration.listed (registration : AuctionRegistration) (now : Time) : ListingRecord :=
  { registration.record with auctionStarted := decide (registration.terms.startsAt ≤ now) }

def AuctionRegistration.editGate (registration : AuctionRegistration) (listing : Option Listing)
    (file : Option AuctionFile) (now : Time) : Except Failure Unit :=
  match listing, file with
  | some listing, some file =>
      validateEdit listing file registration.record registration.terms registration.reserve now
  | _, _ => .ok ()

/-- `listing.register` of an auction. -/
def House.register (house : House) (id : ListingId) (registration : AuctionRegistration)
    (sender : Sender) (now : Time) : Except Failure House := do
  let file := house.files.find? id
  reserveRevisionGate file registration.record registration.reserve
  registration.editGate (house.sys.inventory.listings.find? id) file now
  let inventory ← registerListing house.sys.inventory id (registration.listed now) sender true now
  return {
    sys := { house.sys with inventory := inventory }
    files := house.files.set id
      (registeredFile file registration.record registration.terms registration.reserve now) }

def House.placeBid (house : House) (id : ListingId) (command : BidCommand) (now : Time) :
    Except Failure House := do
  let file ← placeAuctionBid (house.sys.inventory.listings.find? id) (house.files.find? id)
    command now
  let inventory ← MarketplaceService.placeBid house.sys.inventory id
  return { sys := { house.sys with inventory := inventory }, files := house.files.set id file }

def AuctionFile.closed (file : AuctionFile) (status : AuctionStatus) : AuctionFile :=
  { file with auction := { file.auction with status := status } }

/-- `close_locked_auction` behind either gate. -/
def House.close (house : House) (id : ListingId) (closer : Closer) (reservation : ReservationId)
    (order : OrderId) (now : Time) : Except Failure House := do
  let (listing, file) ← closeGate (house.sys.inventory.listings.find? id) (house.files.find? id)
    closer now
  match ← auctionWinner listing file with
  | some winner =>
      let (book, inventory) ← closeAuction house.sys.inventory id winner
        file.auction.currentPrice.amountMinor reservation order now
      match house.sys.insert inventory [book] with
      | none => .error (.database "orders_pkey")
      | some sys => .ok { sys := sys, files := house.files.set id (file.closed .sold) }
  | none =>
      let inventory ← closeUnsold house.sys.inventory id
      .ok {
        sys := { house.sys with inventory := inventory }
        files := house.files.set id (file.closed .unsold) }

def House.step (references : References) (house : House) : HouseAction → Option House
  | .service action =>
      if action.readsFile then none
      else (house.sys.step references action).map fun sys => { house with sys := sys }
  | .register id registration sender =>
      (house.register id registration sender house.sys.clock).toOption
  | .placeBid id command => (house.placeBid id command house.sys.clock).toOption
  | .close id closer reservation order =>
      (house.close id closer reservation order house.sys.clock).toOption

def emptyHouse : House := { sys := emptySys, files := .empty }

def auctionHouse (references : References) : Runs.System House HouseAction :=
  { initial := fun house => house = emptyHouse
    step := fun house action => house.step references action }

/-! A small auction, for concrete runs. -/

/-- A lamp from 25 dollars in steps of one, between the two times. -/
def lampRegistration (startsAt length : ℕ) (running : 0 < length) : AuctionRegistration :=
  { record := { sampleRecord 1 "USD" 2 with saleFormat := .auction }
    terms :=
      { startsAt := startsAt
        endsAt := startsAt + length
        minimumIncrement := { amountMinor := 100, currency := "USD", exponent := 2 }
        antiSnipingWindowSeconds := 0
        antiSnipingExtensionSeconds := 0
        ends_after := Nat.lt_add_of_pos_right running
        increment_pos := by decide
        window_le := Nat.zero_le _
        extension_le := Nat.zero_le _ }
    reserve := { expectedRecordRevision := 0, recordRevision := 1, reservePrice := none }
    wellFormed := rfl }

def lampAuction (startsAt length : ℕ) (running : 0 < length := by decide) : HouseAction :=
  .register "lamp" (lampRegistration startsAt length running) ⟨"seller", 0⟩

/-! The bounds that the sample runs share. -/

theorem lamp_running : 0 < 100 := by decide

theorem lampMaximum_safe : 3000 ≤ maxSafeInteger := by decide

theorem lampMaximum_pos : 0 < 3000 := by decide

def lampBid (bidder : Pubky) (maximum revision : ℕ) (safe : maximum ≤ maxSafeInteger := by decide)
    (positive : 0 < maximum := by decide) : HouseAction :=
  .placeBid "lamp"
    { sender := ⟨bidder, revision⟩
      maximumAmount := { amountMinor := maximum, currency := "USD", exponent := 2 }
      safe := safe
      positive := positive }

end MarketplaceService
