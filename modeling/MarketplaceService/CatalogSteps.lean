import MarketplaceService.DropCounts
import MarketplaceService.Settlement
import MarketplaceService.System

/-!
What the commands and sweeps over the stock did, given that they succeeded: one
inversion for each function of the catalog and of the checkout. The frames and
the laws of the later modules read these and never the functions.
-/

namespace MarketplaceService

variable {inventory after : Inventory} {now : Time}

/-! Listings. -/

/-- What a registration writes from the record, and what it keeps of the row. -/
structure Registered (record : ListingRecord) (current : Option Listing) (listing : Listing) :
    Prop where
  format : listing.saleFormat = record.saleFormat
  reserved : listing.reservedQuantity = (current.map Listing.reservedQuantity).getD 0
  sold : listing.soldQuantity = (current.map Listing.soldQuantity).getD 0
  revision : listing.serverRevision = (current.map Listing.serverRevision).getD 0 + 1
  auction : listing.auctionActive = (current.map Listing.auctionActive).getD
    (record.saleFormat = .auction && record.auctionStarted)
  version : listing.currentVersion = current.bind Listing.currentVersion

theorem applyRegistration_ok {current : Option Listing} {record : ListingRecord}
    {listing : Listing} (applied : applyRegistration current record now = .ok listing) :
    Registered record current listing := by
  unfold applyRegistration at applied
  simp only at applied
  split at applied
  · cases applied
    exact ⟨rfl, rfl, rfl, rfl, rfl, rfl⟩
  · cases applied

theorem tombstone_ok {id : ListingId} (deleted : tombstone inventory id now = some after) :
    ∃ listing bindings, inventory.listings.find? id = some listing ∧ listing.isDeleted = false ∧
      bindings.rows = inventory.dropListings.rows.map (fun row =>
        (row.1, if row.1.2 = id then { row.2 with active := false, released := true }
          else row.2)) ∧
      after = { inventory.setListing id { listing with
          deletedAt := some now
          serverRevision := listing.serverRevision + 1 } with dropListings := bindings } := by
  unfold tombstone at deleted
  split at deleted
  · cases deleted
  · rename_i listing found
    obtain ⟨live, written⟩ := Option.ite_none_left_eq_some.mp deleted
    cases written
    exact ⟨listing, _, found, Bool.eq_false_iff.mpr live, rfl, rfl⟩

theorem adjustInventory_ok {id : ListingId} {sender : Sender} {delta : ℤ}
    (adjusted : adjustInventory inventory id sender delta = .ok after) :
    ∃ listing balanced, inventory.listings.find? id = some listing ∧
      listing.sellerPubky = sender.actor ∧ listing.serverRevision = sender.expectedRevision ∧
      0 ≤ (listing.totalQuantity : ℤ) + delta ∧ 0 ≤ (listing.availableQuantity : ℤ) + delta ∧
      after = inventory.setListing id { listing with
        totalQuantity := ((listing.totalQuantity : ℤ) + delta).toNat
        availableQuantity := ((listing.availableQuantity : ℤ) + delta).toNat
        serverRevision := listing.serverRevision + 1
        state :=
          if 0 < ((listing.availableQuantity : ℤ) + delta).toNat then .available
          else if 0 < listing.reservedQuantity then .reserved
          else .sold
        balanced := balanced } := by
  unfold adjustInventory at adjusted
  split at adjusted
  · cases adjusted
  · rename_i listing found
    obtain ⟨own, adjusted⟩ := Outcome.guard_ok adjusted
    obtain ⟨current, adjusted⟩ := Outcome.guard_ok adjusted
    split at adjusted
    · rename_i fits
      cases adjusted
      exact ⟨listing, _, found, not_not.mp own, not_not.mp current, fits.1, fits.2, rfl⟩
    · cases adjusted

/-! Reservations and awards. -/

theorem holdForReservation_ok {listing held : Listing} {quantity : ℕ} {unavailable : String}
    (ran : holdForReservation listing quantity unavailable = .ok held) :
    ∃ enough, held = listing.hold quantity enough := by
  unfold holdForReservation at ran
  split at ran
  · rename_i enough
    simp only at ran
    split at ran
    · cases ran
      exact ⟨enough, rfl⟩
    · cases ran
  · cases ran

theorem insertReservation_ok {id : ReservationId} {reservation : Reservation}
    (inserted : inventory.insertReservation id reservation = .ok after) :
    inventory.reservations.find? id = none ∧
      after = { inventory with reservations := inventory.reservations.set id reservation } := by
  unfold Inventory.insertReservation at inserted
  obtain ⟨fresh, written⟩ := Outcome.guard_ok inserted
  cases written
  have free : (inventory.reservations.find? id).isSome ≠ true := fresh
  exact ⟨Option.not_isSome_iff_eq_none.mp free, rfl⟩

theorem restockReservation_ok {reservation : Reservation} {state : Listing → ListingState}
    (restocked : restockReservation inventory reservation state = .ok after) :
    ∃ listing enough, inventory.listings.find? reservation.listing = some listing ∧
      after = inventory.setListing reservation.listing
        { listing.release reservation.quantity .reserved enough with state := state listing } := by
  unfold restockReservation at restocked
  split at restocked
  · cases restocked
  · rename_i listing found
    split at restocked
    · rename_i enough
      cases restocked
      exact ⟨listing, enough, found, rfl⟩
    · cases restocked

/-- The expiry of one reservation: nothing was due, or the units went back to
the drop it is stamped with and to the listing. -/
inductive Lapsing (inventory : Inventory) (id : ReservationId) (now : Time) : Inventory → Prop
  | kept : Lapsing inventory id now inventory
  | lapsed {reservation : Reservation} {gate after : Inventory}
      (found : inventory.reservations.find? id = some reservation)
      (active : reservation.status = .active) (due : reservation.expiresAt ≤ now)
      (unoffered : reservation.offerAwardId = none)
      (unstamped : reservation.dropAggregateId = none → gate = { inventory with
        reservations := inventory.reservations.set id { reservation with status := .expired } })
      (credited : ∀ dropId, reservation.dropAggregateId = some dropId →
        creditDropRelease { inventory with
            reservations := inventory.reservations.set id { reservation with status := .expired } }
          dropId reservation.buyerPubky reservation.quantity now = (true, gate))
      (same : SameListings { inventory with
        reservations := inventory.reservations.set id { reservation with status := .expired } }
          gate)
      (restocked : restockReservation gate reservation (fun _ => .available) = .ok after) :
      Lapsing inventory id now after

theorem expireDueReservation_ok {id : ReservationId}
    (expired : expireDueReservation inventory id now = .ok after) :
    Lapsing inventory id now after := by
  unfold expireDueReservation at expired
  split at expired
  · cases expired
    exact .kept
  · rename_i reservation found
    split at expired
    · rename_i due
      obtain ⟨active, late, unoffered⟩ := due
      simp only at expired
      split at expired
      · rename_i unstamped
        refine .lapsed found active late unoffered (fun _ => rfl) ?_ ⟨rfl, rfl⟩ expired
        intro dropId stamped
        rw [unstamped] at stamped
        cases stamped
      · rename_i dropId stamped
        split at expired
        · rename_i credited ran
          obtain ⟨drop, -, -, -, same, -⟩ := creditDropRelease_true ran
          refine .lapsed found active late unoffered ?_ ?_ same expired
          · intro unstamped
            rw [unstamped] at stamped
            cases stamped
          · intro other named
            obtain rfl : dropId = other := Option.some.inj (stamped.symm.trans named)
            exact ran
        · cases expired
    · cases expired
      exact .kept

theorem acceptOffer_ok {award : Award} (accepted : acceptOffer inventory award now = .ok after) :
    ∃ listing held, inventory.listings.find? award.listing = some listing ∧
      listing.acceptsCommitmentCreatedAt award.createdAt = true ∧
      holdForReservation listing award.quantity
        "The offered quantity is no longer available." = .ok held ∧
      (inventory.setListing award.listing held).insertReservation award.reservationId
        { listing := award.listing
          buyerPubky := award.buyerPubky
          quantity := award.quantity
          status := .active
          expiresAt := now + acceptedOfferHoldSeconds
          dropAggregateId := none
          offerAwardId := some award.id } = .ok after := by
  unfold acceptOffer at accepted
  split at accepted
  · cases accepted
  · rename_i listing found
    split at accepted
    · rename_i accepts
      obtain ⟨held, taken, inserted⟩ := Outcome.bind_ok accepted
      exact ⟨listing, held, found, accepts, taken, inserted⟩
    · cases accepted

theorem expireDueAward_ok {award : Award}
    (expired : expireDueAward inventory award = .ok after) :
    ∃ reservation, inventory.reservations.find? award.reservationId = some reservation ∧
      reservation.status = .active ∧ reservation.offerAwardId = some award.id ∧
      reservation.listing = award.listing ∧ reservation.quantity = award.quantity ∧
      restockReservation
        { inventory with
          reservations := inventory.reservations.set award.reservationId
            { reservation with status := .expired } }
        reservation
        (fun listing => if listing.availableQuantity = 0 then .available else listing.state) =
          .ok after := by
  unfold expireDueAward at expired
  split at expired
  · cases expired
  · rename_i reservation found
    obtain ⟨live, expired⟩ := Outcome.guard_ok expired
    obtain ⟨matched, expired⟩ := Outcome.guard_ok expired
    simp only [not_or, not_not] at live matched
    exact ⟨reservation, found, live.1, live.2, matched.1, matched.2, expired⟩

/-! Drops. -/

theorem cancelDrop_ok {dropId : DropId} {sender : Sender}
    (cancelled : cancelDrop inventory dropId sender now = .ok after) :
    ∃ drop, inventory.drops.find? dropId = some drop ∧ drop.sellerPubky = sender.actor ∧
      sender.expectedRevision = drop.revision ∧ isActiveState (effectiveState drop now) = true ∧
      after = deactivateDropListingBindings
        { inventory with
          drops := inventory.drops.set dropId { drop with
            state := .endedCancelled
            revision := drop.revision + 1
            updatedAt := now } }
        dropId := by
  unfold cancelDrop at cancelled
  split at cancelled
  · cases cancelled
  · rename_i drop found
    obtain ⟨own, cancelled⟩ := Outcome.guard_ok cancelled
    obtain ⟨current, cancelled⟩ := Outcome.guard_ok cancelled
    obtain ⟨active, cancelled⟩ := Outcome.guard_ok cancelled
    cases cancelled
    exact ⟨drop, found, not_not.mp own, not_not.mp current, by simpa using active, rfl⟩

/-! Checkout. -/

inductive Claiming (inventory : Inventory) :
    Option DropId → List ResolvedLine → Inventory → Prop
  | nothing {resolved : List ResolvedLine} : Claiming inventory none resolved inventory
  | claim {dropId : DropId} {claim : ResolvedLine}
      (enough : claim.line.quantity ≤ claim.row.availableQuantity) :
      Claiming inventory (some dropId) [claim]
        (inventory.setListing claim.line.listing (claim.row.hold claim.line.quantity enough))

theorem holdClaim_ok {dropId : Option DropId} {resolved : List ResolvedLine}
    (held : holdClaim dropId resolved inventory = .ok after) :
    Claiming inventory dropId resolved after := by
  unfold holdClaim at held
  split at held
  · split at held
    · rename_i enough
      cases held
      exact .claim enough
    · cases held
  · cases held
  · cases held
    exact .nothing

theorem checkoutCreate_ok {request : CheckoutRequest} {books : List OrderBook}
    (created : checkoutCreate inventory request now = .ok (books, after)) :
    ∃ dropId gated resolved asset, claimDrop inventory request now = .ok (dropId, gated) ∧
      resolveLines gated request.buyer request.lines = .ok resolved ∧
      (∀ entry ∈ resolved, (entry.row.unitPriceCurrency, entry.row.unitPriceExponent) = asset) ∧
      request.orderIds.length = (groupLines resolved).length ∧
      books = ((request.orderIds.zip (groupLines resolved)).map fun drawn =>
        groupBook request dropId asset now drawn.1 drawn.2) ∧
      holdClaim dropId resolved gated = .ok after := by
  unfold checkoutCreate at created
  obtain ⟨⟨dropId, gated⟩, claimed, created⟩ := Outcome.bind_ok created
  obtain ⟨resolved, resolves, created⟩ := Outcome.bind_ok created
  cases resolved with
  | nil => cases created
  | cons first rest =>
      dsimp only at created
      obtain ⟨uniform, created⟩ := Outcome.guard_ok created
      obtain ⟨ids, created⟩ := Outcome.guard_ok created
      obtain ⟨stocked, held, written⟩ := Outcome.bind_ok created
      cases Outcome.pure_ok written
      refine ⟨dropId, gated, first :: rest, _, claimed, resolves, ?_, not_not.mp ids,
        List.map_uncurry_zip_eq_zipWith.symm, held⟩
      intro entry member
      by_contra other
      exact uniform (List.any_eq_true.mpr ⟨entry, member, decide_eq_true other⟩)

/-- The checkout of an accepted offer converts the award's reservation into
the order's hold. -/
inductive OfferSale (inventory : Inventory) (award : Award) (id : OrderId)
    (fulfillment : Fulfillment) (holdWindowSeconds : ℕ) (now : Time) :
    OrderBook → Inventory → Prop
  | intro {reservation : Reservation} {listing : Listing}
      (found : inventory.reservations.find? award.reservationId = some reservation)
      (active : reservation.status = .active) (open_window : now < reservation.expiresAt)
      (stored : inventory.listings.find? reservation.listing = some listing)
      (accepts : listing.acceptsCommitmentCreatedAt award.createdAt = true)
      (buyer : reservation.buyerPubky = award.buyerPubky)
      (on : reservation.listing = award.listing) (units : reservation.quantity = award.quantity)
      (owned : reservation.offerAwardId = some award.id)
      (reserved : reservation.quantity ≤ listing.reservedQuantity)
      (offered : fulfillment ∈ award.fulfillmentMethods) (positive : 0 < reservation.quantity) :
      OfferSale inventory award id fulfillment holdWindowSeconds now
        (newBook
          { newOrder id award.buyerPubky award.sellerPubky
              [{ listing := award.listing
                 quantity := reservation.quantity
                 digitalKind := none
                 quantity_pos := positive }]
              (if fulfillment = .pickup then award.subtotalMinor
                else award.subtotalMinor + award.shippingMinor)
              award.currency award.exponent fulfillment now with
            offerAwardId := some award.id
            stockHeld := true
            holdExpiresAt := some (now + holdWindowSeconds) }
          false)
        { inventory with
          reservations := inventory.reservations.set award.reservationId
            { reservation with status := .converted } }

theorem offerCheckout_ok {award : Award} {id : OrderId} {fulfillment : Fulfillment}
    {holdWindowSeconds : ℕ} {book : OrderBook}
    (created : offerCheckout inventory award id fulfillment holdWindowSeconds now =
      .ok (book, after)) :
    OfferSale inventory award id fulfillment holdWindowSeconds now book after := by
  unfold offerCheckout at created
  split at created
  · cases created
  · rename_i reservation found
    obtain ⟨live, created⟩ := Outcome.guard_ok created
    split at created
    · cases created
    · rename_i listing stored
      obtain ⟨accepts, created⟩ := Outcome.guard_ok created
      obtain ⟨matched, created⟩ := Outcome.guard_ok created
      obtain ⟨offered, created⟩ := Outcome.guard_ok created
      split at created
      · rename_i positive
        cases created
        simp only [not_or, not_not, not_le, not_lt] at live matched
        obtain ⟨buyer, on, units, owned, reserved⟩ := matched
        exact .intro found live.1 live.2 stored (by simpa using accepts) buyer on units owned
          reserved (not_not.mp offered) positive
      · cases created

inductive AuctionSale (inventory : Inventory) (listingId : ListingId) (winner : Pubky)
    (priceMinor : ℕ) (reservationId : ReservationId) (id : OrderId) (now : Time) :
    OrderBook → Inventory → Prop
  | intro {listing : Listing} {after : Inventory}
      (found : inventory.listings.find? listingId = some listing)
      (live : listing.isDeleted = false) (format : listing.saleFormat = .auction)
      (active : listing.auctionActive = true) (enough : 1 ≤ listing.availableQuantity)
      (inserted : (inventory.setListing listingId { listing.hold 1 enough with
            state := .reserved
            auctionActive := false }).insertReservation reservationId
          { listing := listingId
            buyerPubky := winner
            quantity := 1
            status := .active
            expiresAt := now + auctionHoldSeconds
            dropAggregateId := none
            offerAwardId := none } = .ok after) :
      AuctionSale inventory listingId winner priceMinor reservationId id now
        (newBook
          { newOrder id winner listing.sellerPubky
              [{ listing := listingId, quantity := 1, digitalKind := none,
                 quantity_pos := Nat.one_pos }]
              (priceMinor + listing.shippingMinor) listing.unitPriceCurrency
              listing.unitPriceExponent .shipping now with
            auctionAggregateId := some listingId }
          false)
        after

theorem closeAuction_ok {listingId : ListingId} {winner : Pubky} {priceMinor : ℕ}
    {reservation : ReservationId} {id : OrderId} {book : OrderBook}
    (closed : closeAuction inventory listingId winner priceMinor reservation id now =
      .ok (book, after)) :
    AuctionSale inventory listingId winner priceMinor reservation id now book after := by
  unfold closeAuction at closed
  split at closed
  · cases closed
  · rename_i listing found
    obtain ⟨live, closed⟩ := Outcome.guard_ok closed
    split at closed
    · obtain ⟨written, inserted, closed⟩ := Outcome.bind_ok closed
      cases Outcome.pure_ok closed
      simp only [not_or, not_not, Bool.not_eq_true, Bool.not_eq_false] at live
      exact .intro found live.1 live.2.1 live.2.2 _ inserted
    · cases closed

end MarketplaceService
