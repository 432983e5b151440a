import Mathlib.Data.Set.NAry
import MarketplaceService.CatalogSteps
import MarketplaceService.OrderPostings

/-!
What the seller's commands, the reservations and the new orders post to the
stock ledger. A reservation moves its own share of the reserved column and
posts nothing; a new order posts what it holds from the start.
-/

namespace MarketplaceService

section Catalog

variable {inventory after : Inventory} {now : Time}

theorem setListing_posted {id : ListingId} {listing : Listing}
    (format : ∀ old ∈ inventory.listings.find? id, listing.saleFormat = old.saleFormat)
    (reserved : listing.reservedQuantity = inventory.reservedOf id)
    (sold : listing.soldQuantity = inventory.soldOf id) :
    Posted (fun _ => 0) (fun _ => 0) inventory (inventory.setListing id listing) := by
  refine ⟨?_, ?_, ?_⟩
  · intro other old found
    by_cases same : other = id
    · subst same
      exact ⟨listing, Keyed.Table.find?_set_self .., format old found⟩
    · refine ⟨old, ?_, rfl⟩
      rw [Inventory.setListing, Keyed.Table.find?_set_ne _ _ same]
      exact found
  · intro other _
    by_cases same : other = id
    · subst same
      simp [Inventory.reservedOf, Inventory.activeOn, Inventory.setListing, reserved]
    · simp [Inventory.reservedOf, Inventory.activeOn, Inventory.setListing,
        Keyed.Table.find?_set_ne _ _ same]
  · intro other _
    by_cases same : other = id
    · subst same
      simp [Inventory.soldOf, Inventory.setListing, sold]
    · simp [Inventory.soldOf, Inventory.setListing, Keyed.Table.find?_set_ne _ _ same]

/-- A write of a present listing. -/
theorem relist_posted {id : ListingId} {old listing : Listing}
    (found : inventory.listings.find? id = some old)
    (format : listing.saleFormat = old.saleFormat)
    (reserved : listing.reservedQuantity = old.reservedQuantity)
    (sold : listing.soldQuantity = old.soldQuantity) :
    Posted (fun _ => 0) (fun _ => 0) inventory (inventory.setListing id listing) := by
  refine setListing_posted ?_ (by simp [Inventory.reservedOf, found, reserved])
    (by simp [Inventory.soldOf, found, sold])
  intro stored present
  obtain rfl : stored = old := Option.mem_unique present found
  exact format

/-! Registration. -/

/-- The row that a registration or a sync writes over the current one. -/
inductive Relisted (record : ListingRecord) (now : Time) : Option Listing → Listing → Prop
  | registered {current : Option Listing} {listing : Listing}
      (format : ∀ old ∈ current, record.saleFormat = old.saleFormat)
      (applied : applyRegistration current record now = .ok listing) :
      Relisted record now current listing
  | kept {old : Listing} : Relisted record now (some old) old
  | healed {old : Listing} : Relisted record now (some old)
      { old with
        serverRevision := old.serverRevision + 1
        shippingMinor := record.shippingMinor
        fulfillmentMethods := record.fulfillmentMethods }

theorem registerListing_ok {id : ListingId} {record : ListingRecord} {sender : Sender}
    {recordFound : Bool}
    (registered : registerListing inventory id record sender recordFound now = .ok after) :
    ∃ listing, after = inventory.setListing id listing ∧
      Relisted record now (inventory.listings.find? id) listing := by
  unfold registerListing at registered
  obtain ⟨-, registered⟩ := Outcome.guard_ok registered
  simp only at registered
  obtain ⟨-, registered⟩ := Outcome.guard_ok registered
  obtain ⟨-, registered⟩ := Outcome.guard_ok registered
  obtain ⟨-, registered⟩ := Outcome.guard_ok registered
  obtain ⟨-, registered⟩ := Outcome.guard_ok registered
  obtain ⟨format, registered⟩ := Outcome.guard_ok registered
  obtain ⟨listing, applied, written⟩ := Outcome.bind_ok registered
  refine ⟨listing, Outcome.pure_ok written, .registered ?_ applied⟩
  intro old found
  rw [Option.mem_def.mp found] at format
  by_contra other
  exact format (by simpa using fun same => other same.symm)

theorem fixedPrice_of_not_auction {format : SaleFormat} (other : ¬ format = .auction) :
    format = .fixedPrice := by
  cases format with
  | fixedPrice => rfl
  | auction => exact absurd rfl other

theorem syncListing_ok {id : ListingId} {record : ListingRecord}
    (synced : syncListing inventory id record now = .ok after) :
    ∃ listing, after = inventory.setListing id listing ∧
      Relisted record now (inventory.listings.find? id) listing := by
  unfold syncListing at synced
  simp only at synced
  have applied {current : Option Listing}
      (format : ∀ old ∈ current, record.saleFormat = old.saleFormat)
      (ran : (do
        let listing ← applyRegistration current record now
        return inventory.setListing id listing) = (.ok after : Except Failure Inventory)) :
      ∃ listing, after = inventory.setListing id listing ∧ Relisted record now current listing := by
    obtain ⟨listing, taken, same⟩ := Outcome.bind_ok ran
    exact ⟨listing, Outcome.pure_ok same, .registered format taken⟩
  cases found : inventory.listings.find? id with
  | none =>
      simp only [found] at synced
      split at synced
      · cases synced
      · exact applied (by simp) synced
  | some current =>
      simp only [found] at synced
      split at synced
      · split at synced
        · cases synced
        · rename_i fixed
          rw [not_or, not_not, not_not] at fixed
          exact applied (by simp [fixed.1, fixed.2]) synced
      · split at synced
        · split at synced
          · cases synced
          · cases synced
            exact ⟨current, rfl, .kept⟩
        · rename_i fixed
          split at synced
          · cases synced
          · rename_i sale
            split at synced
            · exact applied (by simp [fixedPrice_of_not_auction sale,
                fixedPrice_of_not_auction fixed]) synced
            · split at synced
              · cases synced
                exact ⟨_, rfl, .healed⟩
              · cases synced
                exact ⟨current, rfl, .kept⟩

theorem Relisted.posted {id : ListingId} {record : ListingRecord} {listing : Listing}
    (relisted : Relisted record now (inventory.listings.find? id) listing) :
    Posted (fun _ => 0) (fun _ => 0) inventory (inventory.setListing id listing) := by
  cases stored : inventory.listings.find? id with
  | none =>
      rw [stored] at relisted
      cases relisted with
      | registered format applied =>
          obtain ⟨-, reserved, sold, -, -, -⟩ := applyRegistration_ok applied
          refine setListing_posted ?_ (by simpa [Inventory.reservedOf, stored] using reserved)
            (by simpa [Inventory.soldOf, stored] using sold)
          intro old present
          rw [stored] at present
          cases present
  | some old =>
      rw [stored] at relisted
      cases relisted with
      | registered format applied =>
          obtain ⟨sale, reserved, sold, -, -, -⟩ := applyRegistration_ok applied
          exact relist_posted stored (sale.trans (format old rfl)) (by simpa using reserved)
            (by simpa using sold)
      | kept => exact relist_posted stored rfl rfl rfl
      | healed => exact relist_posted stored rfl rfl rfl

theorem registerListing_posted {id : ListingId} {record : ListingRecord} {sender : Sender}
    {recordFound : Bool}
    (registered : registerListing inventory id record sender recordFound now = .ok after) :
    Posted (fun _ => 0) (fun _ => 0) inventory after := by
  obtain ⟨listing, rfl, relisted⟩ := registerListing_ok registered
  exact relisted.posted

theorem syncListing_posted {id : ListingId} {record : ListingRecord}
    (synced : syncListing inventory id record now = .ok after) :
    Posted (fun _ => 0) (fun _ => 0) inventory after := by
  obtain ⟨listing, rfl, relisted⟩ := syncListing_ok synced
  exact relisted.posted

theorem tombstone_posted {id : ListingId} (deleted : tombstone inventory id now = some after) :
    Posted (fun _ => 0) (fun _ => 0) inventory after := by
  obtain ⟨listing, bindings, found, -, -, rfl⟩ := tombstone_ok deleted
  have relisted := @relist_posted inventory id listing { listing with
    deletedAt := some now
    serverRevision := listing.serverRevision + 1 } found rfl rfl rfl
  exact relisted.after_nothing (.of_same ⟨rfl, rfl⟩)

theorem adjustInventory_posted {id : ListingId} {sender : Sender} {delta : ℤ}
    (adjusted : adjustInventory inventory id sender delta = .ok after) :
    Posted (fun _ => 0) (fun _ => 0) inventory after := by
  obtain ⟨listing, balanced, found, -, -, -, -, rfl⟩ := adjustInventory_ok adjusted
  exact relist_posted found rfl rfl rfl

theorem activeAuction_ok {id : ListingId} {listing : Listing}
    (active : activeAuction inventory id = .ok listing) :
    inventory.listings.find? id = some listing ∧ listing.saleFormat = .auction ∧
      listing.auctionActive = true := by
  unfold activeAuction at active
  split at active
  · cases active
  · rename_i row found
    obtain ⟨live, active⟩ := Outcome.guard_ok active
    cases active
    simp only [not_or, not_not, Bool.not_eq_false] at live
    exact ⟨found, live.1, live.2⟩

theorem placeBid_ok {id : ListingId} (bid : placeBid inventory id = .ok after) :
    ∃ listing, inventory.listings.find? id = some listing ∧ listing.saleFormat = .auction ∧
      listing.auctionActive = true ∧ listing.isDeleted = false ∧
      after = inventory.setListing id { listing with
        serverRevision := listing.serverRevision + 1 } := by
  unfold placeBid at bid
  obtain ⟨listing, active, bid⟩ := Outcome.bind_ok bid
  obtain ⟨live, bid⟩ := Outcome.guard_ok bid
  obtain ⟨found, format, open_auction⟩ := activeAuction_ok active
  exact ⟨listing, found, format, open_auction, by simpa using live, Outcome.pure_ok bid⟩

theorem closeUnsold_ok {id : ListingId} (closed : closeUnsold inventory id = .ok after) :
    ∃ listing, inventory.listings.find? id = some listing ∧ listing.saleFormat = .auction ∧
      listing.auctionActive = true ∧
      after = inventory.setListing id { listing with
        serverRevision := listing.serverRevision + 1
        state := .available
        auctionActive := false } := by
  unfold closeUnsold at closed
  obtain ⟨listing, active, closed⟩ := Outcome.bind_ok closed
  obtain ⟨found, format, open_auction⟩ := activeAuction_ok active
  exact ⟨listing, found, format, open_auction, Outcome.pure_ok closed⟩

theorem placeBid_posted {id : ListingId} (bid : placeBid inventory id = .ok after) :
    Posted (fun _ => 0) (fun _ => 0) inventory after := by
  obtain ⟨listing, found, -, -, -, rfl⟩ := placeBid_ok bid
  exact relist_posted found rfl rfl rfl

theorem closeUnsold_posted {id : ListingId} (closed : closeUnsold inventory id = .ok after) :
    Posted (fun _ => 0) (fun _ => 0) inventory after := by
  obtain ⟨listing, found, -, -, rfl⟩ := closeUnsold_ok closed
  exact relist_posted found rfl rfl rfl

theorem setDigitalVersion_posted {id : ListingId} {kind : Option DigitalDeliveryKind}
    (written : setDigitalVersion inventory id kind = some after) :
    Posted (fun _ => 0) (fun _ => 0) inventory after := by
  obtain ⟨listing, found, rfl⟩ := Option.map_eq_some_iff.mp written
  exact relist_posted found rfl rfl rfl

/-! Reservations. -/

theorem moveListing_posted {id : ListingId} {listing moved : Listing} {units : ℤ}
    {kept : ListingId → ℤ} {reservations : Keyed.Table ReservationId Reservation}
    (found : inventory.listings.find? id = some listing) (shifted : Shifted units 0 listing moved)
    (active : ∀ other, (reservations.sum (Reservation.activeOn other) : ℤ) =
      inventory.activeOn other + kept other) :
    Posted (fun other => (if other = id then units else 0) - kept other) (fun _ => 0) inventory
      { inventory with
        listings := inventory.listings.set id moved
        reservations := reservations } := by
  refine ⟨?_, ?_, ?_⟩
  · intro other old present
    by_cases same : other = id
    · subst same
      obtain rfl : old = listing := Option.mem_unique present found
      exact ⟨moved, Keyed.Table.find?_set_self .., shifted.saleFormat⟩
    · refine ⟨old, ?_, rfl⟩
      rw [Keyed.Table.find?_set_ne _ _ same]
      exact present
  · intro other _
    have counted := active other
    have reserved := shifted.reserved
    unfold Inventory.activeOn at counted ⊢
    rw [counted]
    by_cases same : other = id
    · subst same
      simp only [Inventory.reservedOf, Keyed.Table.find?_set_self, found, Option.map_some,
        Option.getD_some, if_true]
      omega
    · simp only [Inventory.reservedOf, Keyed.Table.find?_set_ne _ _ same, same, if_false]
      omega
  · intro other _
    have sold := shifted.sold
    by_cases same : other = id
    · subst same
      simp only [Inventory.soldOf, Keyed.Table.find?_set_self, found, Option.map_some,
        Option.getD_some]
      omega
    · simp [Inventory.soldOf, Keyed.Table.find?_set_ne _ _ same]

theorem reservation_posted {id : ListingId} {listing moved : Listing} {units : ℤ}
    {reservations : Keyed.Table ReservationId Reservation}
    (found : inventory.listings.find? id = some listing) (shifted : Shifted units 0 listing moved)
    (active : ∀ other, (reservations.sum (Reservation.activeOn other) : ℤ) =
      inventory.activeOn other + if other = id then units else 0) :
    Posted (fun _ => 0) (fun _ => 0) inventory
      { inventory with
        listings := inventory.listings.set id moved
        reservations := reservations } :=
  (moveListing_posted found shifted active).congr (by simp) (by simp)

theorem insertReservation_posted {id : ListingId} {listing moved : Listing} {key : ReservationId}
    {reservation : Reservation} (found : inventory.listings.find? id = some listing)
    (shifted : Shifted reservation.quantity 0 listing moved) (on : reservation.listing = id)
    (active : reservation.status = .active)
    (inserted : (inventory.setListing id moved).insertReservation key reservation = .ok after) :
    Posted (fun _ => 0) (fun _ => 0) inventory after := by
  obtain ⟨absent, rfl⟩ := insertReservation_ok inserted
  refine reservation_posted found shifted fun other => ?_
  have sum := inventory.reservations.sum_set_of_fresh
      (Reservation.activeOn other) reservation absent
  change ((inventory.reservations.set key reservation).sum _ : ℤ) = _
  rw [sum, Reservation.activeOn, on]
  by_cases same : other = id
  · subst same
    simp [active, Inventory.activeOn]
  · have rev : id ≠ other := fun eq => same eq.symm
    simp [same, rev, Inventory.activeOn]

theorem endReservation_active {key : ReservationId} {reservation : Reservation}
    {status : ReservationStatus} (found : inventory.reservations.find? key = some reservation)
    (active : reservation.status = .active) (ended : status ≠ .active) (other : ListingId) :
    ((inventory.reservations.set key { reservation with status := status }).sum
      (Reservation.activeOn other) : ℤ) =
      inventory.activeOn other +
        if other = reservation.listing then -(reservation.quantity : ℤ) else 0 := by
  have sum := inventory.reservations.sum_set_of_find? (Reservation.activeOn other)
    { reservation with status := status } found
  have kept : reservation.activeOn other =
      if other = reservation.listing then reservation.quantity else 0 := by
    simp [Reservation.activeOn, active, eq_comm]
  have none_left : Reservation.activeOn other { reservation with status := status } = 0 := by
    simp [Reservation.activeOn, ended]
  rw [kept, none_left] at sum
  unfold Inventory.activeOn
  by_cases same : other = reservation.listing
  · simp only [same, if_true] at sum ⊢
    omega
  · simp only [same, if_false] at sum ⊢
    omega

theorem restockReservation_posted {key : ReservationId} {reservation : Reservation}
    {status : ReservationStatus} {state : Listing → ListingState} {drops : Inventory}
    (found : inventory.reservations.find? key = some reservation)
    (active : reservation.status = .active) (ended : status ≠ .active)
    (same : SameListings { inventory with
      reservations := inventory.reservations.set key { reservation with status := status } } drops)
    (restocked : restockReservation drops reservation state = .ok after) :
    Posted (fun _ => 0) (fun _ => 0) inventory after := by
  obtain ⟨listings, reservations⟩ := same
  simp only at listings reservations
  obtain ⟨listing, enough, stored, rfl⟩ := restockReservation_ok restocked
  rw [listings] at stored
  have shifted := release_reserved_shifted listing reservation.quantity enough
  have relabelled : Shifted (-reservation.quantity) 0 listing
      { listing.release reservation.quantity .reserved enough with state := state listing } :=
    ⟨shifted.available, shifted.reserved, shifted.sold, shifted.total, shifted.saleFormat,
      shifted.deletedAt, shifted.recreatedAt, shifted.currentVersion⟩
  have posted := reservation_posted stored relabelled (endReservation_active found active ended)
  refine posted.after_nothing (.of_same ⟨?_, ?_⟩)
  · simp [Inventory.setListing, listings]
  · simp [Inventory.setListing, reservations]

theorem holdForReservation_shifted {listing held : Listing} {quantity : ℕ} {unavailable : String}
    (ran : holdForReservation listing quantity unavailable = .ok held) :
    Shifted quantity 0 listing held := by
  obtain ⟨enough, rfl⟩ := holdForReservation_ok ran
  exact hold_shifted listing quantity enough

theorem enforceDropGate_same {dropId : DropId} {drop : Drop} {buyer : Pubky} {units : ℕ}
    (found : inventory.drops.find? dropId = some drop)
    (gated : enforceDropGate inventory dropId drop buyer units now = .ok after) :
    SameListings inventory after :=
  (enforceDropGate_ok found gated).2.2.1

/-- What a reservation went through: the gate of a bound drop, the hold of the
listing, the new row. -/
inductive Reserving (inventory : Inventory) (key : ReservationId) (id : ListingId)
    (sender : Sender) (quantity ttlSeconds : ℕ) (now : Time) (after : Inventory) : Prop
  | intro {listing held : Listing} {gate : Inventory}
      (found : inventory.listings.find? id = some listing) (live : listing.isDeleted = false)
      (foreign : listing.sellerPubky ≠ sender.actor)
      (gated : match lockBoundDrop inventory id with
        | none => gate = inventory
        | some (dropId, drop) =>
            quantity = 1 ∧ enforceDropGate inventory dropId drop sender.actor 1 now = .ok gate)
      (same : SameListings inventory gate)
      (taken : holdForReservation listing quantity "The requested quantity is unavailable." =
        .ok held)
      (inserted : (gate.setListing id held).insertReservation key
        { listing := id
          buyerPubky := sender.actor
          quantity := quantity
          status := .active
          expiresAt := now + ttlSeconds
          dropAggregateId := (lockBoundDrop inventory id).map Prod.fst
          offerAwardId := none } = .ok after)

theorem reserveInventory_ok {key : ReservationId} {id : ListingId} {sender : Sender}
    {quantity ttlSeconds : ℕ}
    (reserved : reserveInventory inventory key id sender quantity ttlSeconds now = .ok after) :
    Reserving inventory key id sender quantity ttlSeconds now after := by
  unfold reserveInventory at reserved
  split at reserved
  · cases reserved
  · rename_i listing found
    obtain ⟨live, reserved⟩ := Outcome.guard_ok reserved
    obtain ⟨foreign, reserved⟩ := Outcome.guard_ok reserved
    obtain ⟨-, reserved⟩ := Outcome.guard_ok reserved
    obtain ⟨-, reserved⟩ := Outcome.guard_ok reserved
    simp only at reserved
    have present : listing.isDeleted = false := by simpa using live
    cases bound : lockBoundDrop inventory id with
    | none =>
        simp only [bound] at reserved
        obtain ⟨gate, ran, rest⟩ := Outcome.bind_ok reserved
        cases ran
        obtain ⟨held, taken, inserted⟩ := Outcome.bind_ok rest
        refine .intro found present foreign ?_ ⟨rfl, rfl⟩ taken (by rw [bound]; exact inserted)
        rw [bound]
    | some chosen =>
        obtain ⟨dropId, drop⟩ := chosen
        simp only [bound] at reserved
        split at reserved
        · cases reserved
        · rename_i single
          obtain ⟨gate, ran, rest⟩ := Outcome.bind_ok reserved
          obtain ⟨held, taken, inserted⟩ := Outcome.bind_ok rest
          refine .intro found present foreign ?_
            (enforceDropGate_same (lockBoundDrop_found bound) ran)
            taken (by rw [bound]; exact inserted)
          rw [bound]
          exact ⟨not_not.mp single, ran⟩

theorem reserveInventory_posted {key : ReservationId} {id : ListingId} {sender : Sender}
    {quantity ttlSeconds : ℕ}
    (reserved : reserveInventory inventory key id sender quantity ttlSeconds now = .ok after) :
    Posted (fun _ => 0) (fun _ => 0) inventory after := by
  obtain ⟨found, -, -, -, same, taken, inserted⟩ := reserveInventory_ok reserved
  rw [← same.1] at found
  exact (Posted.of_same same).after_nothing
    (insertReservation_posted found (holdForReservation_shifted taken) rfl rfl inserted)

theorem expireDueReservation_posted {key : ReservationId}
    (expired : expireDueReservation inventory key now = .ok after) :
    Posted (fun _ => 0) (fun _ => 0) inventory after := by
  cases expireDueReservation_ok expired with
  | kept => exact .refl _
  | lapsed found active _ _ _ _ same restocked =>
      exact restockReservation_posted found active (by simp) same restocked

theorem acceptOffer_posted {award : Award}
    (accepted : acceptOffer inventory award now = .ok after) :
    Posted (fun _ => 0) (fun _ => 0) inventory after := by
  obtain ⟨listing, held, found, -, taken, inserted⟩ := acceptOffer_ok accepted
  exact insertReservation_posted found (holdForReservation_shifted taken) rfl rfl inserted

theorem expireDueAward_posted {award : Award}
    (expired : expireDueAward inventory award = .ok after) :
    Posted (fun _ => 0) (fun _ => 0) inventory after := by
  obtain ⟨reservation, found, active, -, -, -, restocked⟩ := expireDueAward_ok expired
  exact restockReservation_posted found active (by simp) ⟨rfl, rfl⟩ restocked

/-! Drops. -/

theorem insertDropListingBindings_same {dropId : DropId} {active : Bool} {ids : List ListingId} :
    ∀ {inventory : Inventory}, insertDropListingBindings inventory dropId active ids = .ok after →
      SameListings inventory after := by
  induction ids with
  | nil =>
      intro inventory inserted
      cases inserted
      exact ⟨rfl, rfl⟩
  | cons id rest ih =>
      intro inventory inserted
      unfold insertDropListingBindings at inserted
      split at inserted
      · cases inserted
      · obtain ⟨-, inserted⟩ := Outcome.guard_ok inserted
        obtain ⟨-, inserted⟩ := Outcome.guard_ok inserted
        have same := ih inserted
        exact same

theorem syncDrop_same {dropId : DropId} {record : DropRecord}
    (synced : syncDrop inventory dropId record now = .ok after) : SameListings inventory after := by
  unfold syncDrop at synced
  simp only at synced
  split at synced
  · have same := insertDropListingBindings_same synced
    exact same
  · split at synced
    · cases synced
      exact ⟨rfl, rfl⟩
    · obtain ⟨-, synced⟩ := Outcome.guard_ok synced
      split at synced
      · have same := insertDropListingBindings_same synced
        exact same
      · cases synced

theorem cancelDrop_same {dropId : DropId} {sender : Sender}
    (cancelled : cancelDrop inventory dropId sender now = .ok after) :
    SameListings inventory after := by
  obtain ⟨drop, -, -, -, -, rfl⟩ := cancelDrop_ok cancelled
  exact ⟨rfl, rfl⟩

theorem releaseDropListings_same {dropId : DropId} {sender : Sender}
    (released : releaseDropListings inventory dropId sender now = .ok after) :
    SameListings inventory after := by
  unfold releaseDropListings at released
  split at released
  · cases released
  · rename_i row found
    obtain ⟨-, released⟩ := Outcome.guard_ok released
    obtain ⟨-, released⟩ := Outcome.guard_ok released
    have moved := (applyTimeTransitions_counts inventory dropId row now found).2.1
    simp only at released
    obtain ⟨-, released⟩ := Outcome.guard_ok released
    cases released
    exact moved

theorem transitionDueDrop_same (inventory : Inventory) (dropId : DropId) (now : Time) :
    SameListings inventory (transitionDueDrop inventory dropId now) := by
  unfold transitionDueDrop
  split
  · exact ⟨rfl, rfl⟩
  · rename_i drop found
    exact (applyTimeTransitions_counts inventory dropId drop now found).2.1

/-! New orders. -/

theorem newBook_heldOn (order : Order) (locksAuthority : Bool) (id : ListingId) :
    (newBook order locksAuthority).standing.heldOn id =
      if order.stockHeld = true then linesOn id order.lines else 0 := rfl

theorem offerCheckout_posted {award : Award} {id : OrderId} {fulfillment : Fulfillment}
    {holdWindowSeconds : ℕ} {book : OrderBook}
    (created : offerCheckout inventory award id fulfillment holdWindowSeconds now =
      .ok (book, after)) :
    Posted (fun id => book.standing.heldOn id) (fun _ => 0) inventory after ∧
      Placed after book.order.terms := by
  cases offerCheckout_ok created with
  | @intro reservation listing found active _ _ _ _ on _ _ _ _ positive =>
      refine ⟨⟨fun _ old present => ⟨old, present, rfl⟩, ?_,
          fun _ _ => by simp [Inventory.soldOf]⟩,
        by simp [Order.terms, newBook, newOrder], fun _ => .inl (by
          simp [Order.terms, newBook, newOrder])⟩
      intro other _
      have active := @endReservation_active inventory _ _ .converted found active (by simp) other
      rw [newBook_heldOn]
      simp only [Inventory.activeOn, Inventory.reservedOf] at active ⊢
      rw [active, on]
      by_cases same : other = award.listing
      · subst same
        simp only [newOrder, if_true, linesOn_cons, linesOn_nil]
        push_cast
        ring
      · have rev : award.listing ≠ other := fun eq => same eq.symm
        simp [newOrder, linesOn_cons, same, rev]

theorem closeAuction_posted {listingId : ListingId} {winner : Pubky} {priceMinor : ℕ}
    {reservation : ReservationId} {id : OrderId} {book : OrderBook}
    (created : closeAuction inventory listingId winner priceMinor reservation id now =
      .ok (book, after)) :
    Posted (fun id => book.standing.heldOn id) (fun _ => 0) inventory after ∧
      Placed after book.order.terms := by
  cases closeAuction_ok created with
  | @intro listing _ found _ auction _ enough inserted =>
      have shifted := hold_shifted listing 1 enough
      have closed : Shifted ((1 : ℕ) : ℤ) 0 listing
          { listing.hold 1 enough with state := .reserved, auctionActive := false } :=
        ⟨shifted.available, shifted.reserved, shifted.sold, shifted.total, shifted.saleFormat,
          shifted.deletedAt, shifted.recreatedAt, shifted.currentVersion⟩
      have posted := insertReservation_posted found closed rfl rfl inserted
      refine ⟨posted.congr (by simp [newBook_heldOn, newOrder]) (by simp), ?_, by
        simp [Order.terms, newBook, newOrder]⟩
      intro named_auction named
      obtain rfl : listingId = named_auction := by
        simpa [Order.terms, newBook, newOrder] using named
      obtain ⟨moved, present, format⟩ := posted.format listingId listing found
      exact ⟨⟨moved, present, format.trans auction⟩, by
        simp [Order.terms, newBook, newOrder]⟩

/-! Checkout. -/

theorem resolveLine_ok {buyer : Pubky} {line : CheckoutLine} {resolved : ResolvedLine}
    (ran : resolveLine inventory buyer line = .ok resolved) :
    resolved.line = line ∧ inventory.listings.find? line.listing = some resolved.row ∧
      resolved.row.saleFormat = .fixedPrice := by
  unfold resolveLine at ran
  split at ran
  · cases ran
  · rename_i row found
    obtain ⟨-, ran⟩ := Outcome.guard_ok ran
    obtain ⟨-, ran⟩ := Outcome.guard_ok ran
    obtain ⟨fixed, ran⟩ := Outcome.guard_ok ran
    obtain ⟨-, ran⟩ := Outcome.guard_ok ran
    obtain ⟨-, ran⟩ := Outcome.guard_ok ran
    obtain ⟨-, ran⟩ := Outcome.guard_ok ran
    obtain ⟨-, ran⟩ := Outcome.guard_ok ran
    obtain ⟨-, ran⟩ := Outcome.guard_ok ran
    obtain ⟨-, ran⟩ := Outcome.guard_ok ran
    cases ran
    exact ⟨rfl, found, not_not.mp fixed⟩

theorem resolveLines_ok {buyer : Pubky} {lines : List CheckoutLine} :
    ∀ {resolved : List ResolvedLine}, resolveLines inventory buyer lines = .ok resolved →
      resolved.map ResolvedLine.line = lines ∧
        ∀ entry ∈ resolved, inventory.listings.find? entry.line.listing = some entry.row ∧
          entry.row.saleFormat = .fixedPrice := by
  induction lines with
  | nil =>
      intro resolved ran
      cases ran
      simp
  | cons line rest ih =>
      intro resolved ran
      unfold resolveLines at ran
      obtain ⟨first, one, ran⟩ := Outcome.bind_ok ran
      obtain ⟨tail, others, written⟩ := Outcome.bind_ok ran
      cases Outcome.pure_ok written
      obtain ⟨same, found, fixed⟩ := resolveLine_ok one
      obtain ⟨lines, rows⟩ := ih others
      refine ⟨by simp [same, lines], ?_⟩
      intro entry member
      rcases List.mem_cons.mp member with rfl | there
      · rw [same]
        exact ⟨found, fixed⟩
      · exact rows entry there

theorem addToGroup_mem {resolved entry : ResolvedLine} {groups : List CheckoutGroup}
    {group : CheckoutGroup} (member : group ∈ addToGroup resolved groups)
    (here : entry ∈ group.lines) :
    entry = resolved ∨ ∃ old ∈ groups, entry ∈ old.lines := by
  induction groups with
  | nil =>
      simp only [addToGroup, List.mem_singleton] at member
      subst member
      exact .inl (by simpa using here)
  | cons head rest ih =>
      unfold addToGroup at member
      split at member
      · rcases List.mem_cons.mp member with rfl | there
        · simp only [List.mem_append, List.mem_singleton] at here
          rcases here with old | new
          · exact .inr ⟨head, List.mem_cons_self, old⟩
          · exact .inl new
        · exact .inr ⟨group, List.mem_cons_of_mem _ there, here⟩
      · rcases List.mem_cons.mp member with rfl | there
        · exact .inr ⟨group, List.mem_cons_self, here⟩
        · rcases ih there with new | ⟨old, known, lines⟩
          · exact .inl new
          · exact .inr ⟨old, List.mem_cons_of_mem _ known, lines⟩

theorem groupLines_mem {lines : List ResolvedLine} {group : CheckoutGroup} {entry : ResolvedLine}
    (member : group ∈ groupLines lines) (here : entry ∈ group.lines) : entry ∈ lines := by
  have grouped : ∀ (lines : List ResolvedLine) (groups : List CheckoutGroup),
      group ∈ lines.foldl (fun groups resolved => addToGroup resolved groups) groups →
        entry ∈ lines ∨ ∃ old ∈ groups, entry ∈ old.lines := by
    intro lines
    induction lines with
    | nil => exact fun groups member => .inr ⟨group, member, here⟩
    | cons first rest ih =>
        intro groups member
        rcases ih _ member with there | ⟨old, known, lines⟩
        · exact .inl (List.mem_cons_of_mem _ there)
        · rcases addToGroup_mem known lines with rfl | earlier
          · exact .inl List.mem_cons_self
          · exact .inr earlier
  rcases grouped lines [] member with there | ⟨old, known, -⟩
  · exact there
  · cases known

theorem hold_posted {id : ListingId} {listing moved : Listing} {units : ℕ}
    (found : inventory.listings.find? id = some listing) (shifted : Shifted units 0 listing moved) :
    Posted (fun other => if other = id then units else 0) (fun _ => 0) inventory
      (inventory.setListing id moved) := by
  have posted := @moveListing_posted inventory id listing moved units (fun _ => 0)
    inventory.reservations found shifted (by simp [Inventory.activeOn])
  exact posted.congr (by simp) (by simp)

theorem claimDrop_ok {request : CheckoutRequest} {dropId : Option DropId} {gated : Inventory}
    (claimed : claimDrop inventory request now = .ok (dropId, gated)) :
    SameListings inventory gated ∧
      (dropId.isSome = true → ∃ line, request.lines = [line] ∧ line.quantity = 1) := by
  unfold claimDrop at claimed
  split at claimed
  · cases claimed
    exact ⟨⟨rfl, rfl⟩, by simp⟩
  · rename_i chosen drop bound
    split at claimed
    · rename_i line only
      obtain ⟨single, claimed⟩ := Outcome.guard_ok claimed
      obtain ⟨gate, ran, written⟩ := Outcome.bind_ok claimed
      cases Outcome.pure_ok written
      obtain ⟨entry, member, locked⟩ := List.exists_of_findSome?_eq_some bound
      exact ⟨enforceDropGate_same (lockBoundDrop_found locked) ran, fun _ =>
        ⟨line, only, not_not.mp single⟩⟩
    · cases claimed

theorem holdClaim_posted {dropId : Option DropId} {resolved : List ResolvedLine}
    (rows : ∀ entry ∈ resolved, inventory.listings.find? entry.line.listing = some entry.row)
    (held : holdClaim dropId resolved inventory = .ok after) :
    Posted (fun id => if dropId.isSome = true then
      linesOn id (resolved.map ResolvedLine.orderLine) else 0) (fun _ => 0) inventory after := by
  cases holdClaim_ok held with
  | nothing => exact (Posted.refl _).congr (by simp) (by simp)
  | @claim _ claim enough =>
      have posted := hold_posted (rows claim (by simp))
        (hold_shifted claim.row claim.line.quantity enough)
      refine posted.congr ?_ (by simp)
      intro id _
      by_cases same : id = claim.line.listing
      · simp [same, linesOn_cons, ResolvedLine.orderLine]
      · have rev : claim.line.listing ≠ id := fun eq => same eq.symm
        simp [same, rev, linesOn_cons, ResolvedLine.orderLine]

theorem checkoutCreate_posted {request : CheckoutRequest} {books : List OrderBook}
    (created : checkoutCreate inventory request now = .ok (books, after)) :
    Posted (fun id => (books.map fun book => book.standing.heldOn id).sum) (fun _ => 0)
        inventory after ∧
      ∀ book ∈ books, Placed after book.order.terms := by
  obtain ⟨dropId, gated, resolved, asset, claimed, ran, -, ids, rfl, held⟩ :=
    checkoutCreate_ok created
  obtain ⟨same, single⟩ := claimDrop_ok claimed
  obtain ⟨lines, rows⟩ := resolveLines_ok ran
  have posted := (Posted.of_same same).after_nothing
    (holdClaim_posted (fun entry member => (rows entry member).1) held)
  refine ⟨posted.congr ?_ (by simp), ?_⟩
  · intro id _
    cases dropId with
    | none =>
        simp only [Option.isSome_none, Bool.false_eq_true, if_false]
        apply List.sum_eq_zero
        intro units member
        obtain ⟨book, created, rfl⟩ := List.mem_map.mp member
        obtain ⟨pair, -, rfl⟩ := List.mem_map.mp created
        rfl
    | some drop =>
        -- a drop claim is one line, so one group and one order
        obtain ⟨line, only, -⟩ := single rfl
        rw [only] at lines
        obtain ⟨entry, rfl⟩ : ∃ entry, resolved = [entry] :=
          List.length_eq_one_iff.mp (by simpa using congrArg List.length lines)
        obtain ⟨order, listed⟩ : ∃ order, request.orderIds = [order] :=
          List.length_eq_one_iff.mp (by simpa [groupLines, addToGroup] using ids)
        simp [listed, groupLines, addToGroup, groupBook, newBook_heldOn, newOrder]
  · intro book member
    obtain ⟨⟨order, group⟩, paired, rfl⟩ := List.mem_map.mp member
    have grouped : group ∈ groupLines resolved := (List.of_mem_zip paired).2
    refine ⟨by simp [Order.terms, groupBook, newBook, newOrder], fun _ => .inr ?_⟩
    intro line placed
    obtain ⟨entry, here, rfl⟩ : ∃ entry ∈ group.lines, entry.orderLine = line := by
      simpa [Order.terms, groupBook, newBook, newOrder] using placed
    obtain ⟨found, fixed⟩ := rows entry (groupLines_mem grouped here)
    have stored : inventory.listings.find? entry.line.listing = some entry.row := by
      rw [← same.1]
      exact found
    obtain ⟨moved, present, format⟩ := posted.format _ _ stored
    exact ⟨moved, present, format.trans fixed⟩

end Catalog

end MarketplaceService
