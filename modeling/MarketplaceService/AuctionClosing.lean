import MarketplaceService.AuctionFiles

/-!
Whether a due auction can close. The close moves one unit from available to
reserved whenever there is a winner, and nothing else keeps that unit for it:
a reservation, an accepted offer, an adjustment, an edit or an order's own hold
may take the last one. In a run whose steps leave every active auction a unit,
every active auction has one and its close succeeds.
-/

namespace MarketplaceService

/-- The step leaves each active auction a unit: it asks for fewer than are
available, and an edit keeps one over those reserved and sold. -/
def sparesAuctions (house : House) : HouseAction → Prop
  | .service action =>
      ∀ row ∈ house.sys.inventory.listings.rows, row.2.saleFormat = .auction →
        row.2.auctionActive = true → action.asks house.sys row.1 < row.2.availableQuantity
  | .register id registration _ =>
      ∀ listing ∈ house.sys.inventory.listings.find? id, listing.auctionActive = true →
        listing.reservedQuantity + listing.soldQuantity < registration.record.quantity
  | _ => True

instance (house : House) (action : HouseAction) : Decidable (sparesAuctions house action) := by
  unfold sparesAuctions
  split <;> infer_instance

/-- Every active auction has a unit. -/
def Stocked (house : House) : Prop :=
  ∀ id lot, house.lotOf id = some lot → lot.active = true →
    0 < house.sys.inventory.availableOf id

section Steps

variable {references : References} {house after : House}

theorem register_stocked {id : ListingId} {registration : AuctionRegistration} {sender : Sender}
    {now : Time} (stocked : Stocked house)
    (spares : sparesAuctions house (.register id registration sender))
    (registered : house.register id registration sender now = .ok after) : Stocked after := by
  obtain ⟨listed, -, -, -⟩ := register_base registered
  obtain ⟨format, -, quantity, -⟩ := wellFormedAuction_iff registration.wellFormed
  have auction : (registration.listed now).saleFormat = .auction := format
  obtain ⟨listing, written, applied, -⟩ := registerListing_auction auction listed
  intro other lot shown active
  rw [House.lotOf, written, lotOf_setListing] at shown
  rw [written, availableOf_setListing]
  by_cases here : other = id
  · subst here
    rw [if_pos rfl] at shown ⊢
    obtain ⟨-, same⟩ := Option.ite_none_right_eq_some.mp shown
    obtain rfl := Option.some.inj same
    cases found : house.sys.inventory.listings.find? other with
    | none =>
        rw [found] at applied
        obtain ⟨-, -, -, -, -, available⟩ := applyRegistration_opens applied
        rw [available]
        exact quantity
    | some old =>
        rw [found] at applied
        obtain ⟨-, -, -, -, kept, available⟩ := applyRegistration_edits applied
        have left := spares old found (kept.symm.trans active)
        change old.reservedQuantity + old.soldQuantity < (registration.listed now).quantity at left
        omega
  · rw [if_neg here] at shown ⊢
    exact stocked other lot shown active

theorem placeBid_stocked {id : ListingId} {command : BidCommand} {now : Time}
    (stocked : Stocked house) (placed : house.placeBid id command now = .ok after) :
    Stocked after := by
  obtain ⟨-, -, -, -, -, moved, -, -⟩ := placeBid_base placed
  obtain ⟨row, present, format, live, -, written⟩ := placeBid_ok moved
  intro other lot shown active
  rw [House.lotOf, written, lotOf_setListing] at shown
  rw [written, availableOf_setListing]
  by_cases here : other = id
  · subst here
    rw [if_pos rfl]
    have before := stocked other row.lot (lotOf_found present format) live
    rwa [Inventory.availableOf, present] at before
  · rw [if_neg here] at shown ⊢
    exact stocked other lot shown active

theorem closeAuction_available {inventory written : Inventory} {id : ListingId} {winner : Pubky}
    {priceMinor : ℕ} {reservation : ReservationId} {order : OrderId} {now : Time}
    {book : OrderBook}
    (closed : closeAuction inventory id winner priceMinor reservation order now =
      .ok (book, written)) {other : ListingId} (apart : other ≠ id) :
    written.availableOf other = inventory.availableOf other := by
  cases closeAuction_ok closed with
  | intro _ _ _ _ _ inserted =>
      rw [Inventory.availableOf, (insertReservation_tables inserted).1]
      refine (availableOf_setListing other).trans ?_
      rw [if_neg apart]

theorem close_stocked {id : ListingId} {reservation : ReservationId} {order : OrderId} {now : Time}
    (stocked : Stocked house) (closing : Closing house id reservation order now after) :
    Stocked after := by
  have elsewhere {lot : Lot} {other : ListingId} {state : Lot} (listed : house.lotOf id = some lot)
      (lots : after.lotOf other =
        if other = id then some { lot with active := false } else house.lotOf other)
      (available : other ≠ id → after.sys.inventory.availableOf other =
        house.sys.inventory.availableOf other)
      (shown : after.lotOf other = some state) (active : state.active = true) :
      0 < after.sys.inventory.availableOf other := by
    by_cases here : other = id
    · rw [if_pos here] at lots
      obtain rfl := Option.some.inj (lots.symm.trans shown)
      cases active
    · rw [if_neg here] at lots
      rw [available here]
      exact stocked other state (lots.symm.trans shown) active
  intro other state shown active
  cases closing with
  | sold found filed live won closed inserted files =>
      obtain ⟨lot, listed, lots⟩ := closeAuction_lots closed
      refine elsewhere listed ((lotOf_insert inserted other).trans (lots other)) ?_ shown active
      intro apart
      rw [insert_inventory inserted]
      exact closeAuction_available closed apart
  | unsold found filed live closed written files =>
      obtain ⟨lot, listed, lots⟩ := closeUnsold_lots closed
      refine elsewhere listed ?_ ?_ shown active
      · rw [House.lotOf, written]
        exact lots other
      · intro apart
        obtain ⟨row, -, -, -, rfl⟩ := closeUnsold_ok closed
        rw [written]
        refine (availableOf_setListing other).trans ?_
        rw [if_neg apart]

theorem Stocked.step {action : HouseAction} (stocked : Stocked house)
    (sound : ∀ id cell, house.sys.cells.find? id = some cell → Sound cell)
    (spares : sparesAuctions house action)
    (stepped : house.step references action = some after) : Stocked after := by
  cases action with
  | service action =>
      obtain ⟨plain, stepped⟩ := Option.ite_none_left_eq_some.mp stepped
      obtain ⟨sys, ran, rfl⟩ := Option.map_eq_some_iff.mp stepped
      have asks := step_asks sound (by simpa using plain) ran
      intro id lot listed active
      have before : house.lotOf id = some lot := (asks.lots id).symm.trans listed
      obtain ⟨listing, found, format, rfl⟩ := lotOf_listing before
      have asked : action.asks house.sys id < listing.availableQuantity :=
        spares (id, listing) (Keyed.lookup_mem _ _ _ found) format active
      have left := asks.available id
          (by rw [show house.sys.inventory.lotOf id = _ from before]; rfl)
      rw [Inventory.availableOf, found] at left
      simp only [Option.map_some, Option.getD_some] at left
      change 0 < sys.inventory.availableOf id
      omega
  | register id registration sender =>
      exact register_stocked stocked spares (Outcome.toOption_some stepped)
  | placeBid id command => exact placeBid_stocked stocked (Outcome.toOption_some stepped)
  | close id closer reservation order =>
      exact close_stocked stocked (close_ok (Outcome.toOption_some stepped))

end Steps

theorem reachable_stocked {references : References} {house : House}
    (reached : Runs.Reachable (auctionHouse references) sparesAuctions house) : Stocked house := by
  refine Runs.invariant_under (auctionHouse references) sparesAuctions
    (fun house => ∀ id cell, house.sys.cells.find? id = some cell → Sound cell) Stocked
    (fun _ reached _ _ found => reachable_sound (house_reachable reached) found) ?_ ?_ reached
  · intro house init
    rw [show house = emptyHouse from init]
    intro id lot listed
    cases listed
  · intro before action after sound stocked spares stepped
    exact stocked.step sound spares stepped

/-! The close. -/

/-- The worker, or the seller who read the current revision. -/
def Closer.mayClose (closer : Closer) (listing : Listing) : Prop :=
  match closer with
  | .seller sender =>
      sender.actor = listing.sellerPubky ∧ sender.expectedRevision = listing.serverRevision
  | .worker => True

instance (closer : Closer) (listing : Listing) : Decidable (closer.mayClose listing) := by
  unfold Closer.mayClose
  split <;> infer_instance

theorem closeGate_passes {listing : Listing} {file : AuctionFile} {closer : Closer} {now : Time}
    (format : listing.saleFormat = .auction) (active : file.auction.status = .active)
    (ended : file.auction.endsAt ≤ now) (may : closer.mayClose listing) :
    closeGate (some listing) (some file) closer now = .ok (listing, file) := by
  cases closer with
  | seller sender =>
      obtain ⟨actor, revision⟩ := may
      simp [closeGate, actor, revision, format, active, not_lt.mpr ended]
  | worker => simp [closeGate, format, active, ended]

theorem auctionWinner_decided {listing : Listing} {file : AuctionFile}
    (fits : Fits listing.lot file) : ∃ winner, auctionWinner listing file = .ok winner ∧
      (listing.isDeleted = true → winner = none) := by
  obtain ⟨reserve, stored, revision, asset⟩ := fits.reserve
  have current : reserve.listingRevision = listing.listingRevision := revision
  have price : file.auction.currentPrice.sameAsset listing.unitPrice = true := fits.price
  have increment : file.auction.minimumIncrement.sameAsset listing.unitPrice = true :=
    fits.increment
  have satisfied : ∃ met, reserveSatisfied listing file.auction reserve = .ok met := by
    unfold reserveSatisfied
    rw [if_neg (not_not.mpr current), price, increment]
    simp only [Bool.not_true, Bool.or_self, Bool.false_eq_true, if_false]
    cases offered : reserve.reservePrice with
    | none => exact ⟨true, rfl⟩
    | some floor =>
        have same : floor.sameAsset listing.unitPrice = true := asset floor offered
        simp only [same, Bool.not_true, Bool.false_eq_true, if_false]
        exact ⟨_, rfl⟩
  obtain ⟨met, decided⟩ := satisfied
  rw [Option.mem_def] at stored
  refine ⟨_, by rw [auctionWinner, stored]; simp only [decided]; rfl, ?_⟩
  intro deleted
  simp [deleted]

theorem closeAuction_succeeds {inventory : Inventory} {id : ListingId} {listing : Listing}
    (found : inventory.listings.find? id = some listing) (live : listing.isDeleted = false)
    (format : listing.saleFormat = .auction) (active : listing.auctionActive = true)
    (available : 1 ≤ listing.availableQuantity) {reservation : ReservationId}
    (fresh : inventory.reservations.find? reservation = none) (winner : Pubky) (priceMinor : ℕ)
    (order : OrderId) (now : Time) :
    ∃ book written, closeAuction inventory id winner priceMinor reservation order now =
      .ok (book, written) ∧ book.order.id = order := by
  have unkept : ((inventory.setListing id { listing.hold 1 available with
      state := .reserved, auctionActive := false }).reservations.find? reservation).isSome =
        false := by
    rw [show (inventory.setListing id _).reservations = inventory.reservations from rfl, fresh]
    rfl
  unfold closeAuction
  rw [found]
  simp only [live, Bool.false_eq_true, format, active, ne_eq, not_true_eq_false, or_self,
    if_false, Bool.true_eq_false, available, dite_true]
  unfold Inventory.insertReservation
  rw [if_neg (by rw [unkept]; exact Bool.false_ne_true)]
  exact ⟨_, _, rfl, rfl⟩

theorem closeUnsold_succeeds {inventory : Inventory} {id : ListingId} {listing : Listing}
    (found : inventory.listings.find? id = some listing) (format : listing.saleFormat = .auction)
    (active : listing.auctionActive = true) :
    ∃ written, closeUnsold inventory id = .ok written := by
  unfold closeUnsold activeAuction
  rw [found]
  simp only [format, active, ne_eq, not_true_eq_false, Bool.true_eq_false, or_self, if_false]
  exact ⟨_, rfl⟩

theorem close_succeeds {house : House} {id : ListingId} {listing : Listing} {file : AuctionFile}
    {closer : Closer} {reservation : ReservationId} {order : OrderId} {now : Time}
    (found : house.sys.inventory.listings.find? id = some listing)
    (filed : house.files.find? id = some file) (format : listing.saleFormat = .auction)
    (fits : Fits listing.lot file) (status : file.auction.status = .active)
    (available : 1 ≤ listing.availableQuantity) (ended : file.auction.endsAt ≤ now)
    (may : closer.mayClose listing)
    (unreserved : house.sys.inventory.reservations.find? reservation = none)
    (unordered : house.sys.cells.find? order = none) :
    ∃ after, house.close id closer reservation order now = .ok after := by
  have active : listing.auctionActive = true := fits.active.mpr status
  obtain ⟨winner, won, deleted⟩ := auctionWinner_decided fits
  unfold House.close
  rw [found, filed, closeGate_passes format status ended may]
  change ∃ after, (auctionWinner listing file >>= _) = .ok after
  rw [won]
  cases winner with
  | none =>
      obtain ⟨written, closed⟩ := closeUnsold_succeeds found format active
      change ∃ after, (closeUnsold house.sys.inventory id >>= _) = .ok after
      rw [closed]
      exact ⟨_, rfl⟩
  | some winner =>
      have live : listing.isDeleted = false := by
        cases gone : listing.isDeleted with
        | false => rfl
        | true => cases deleted gone
      obtain ⟨book, written, closed, named⟩ := closeAuction_succeeds found live format active
        available unreserved winner file.auction.currentPrice.amountMinor order now
      change ∃ after, (closeAuction house.sys.inventory id winner
        file.auction.currentPrice.amountMinor reservation order now >>= _) = .ok after
      rw [closed]
      simp only [Sys.insert, named, unordered, Option.isSome_none, Bool.false_eq_true, if_false,
        bind, Except.bind]
      exact ⟨_, rfl⟩

/-- In every run that leaves active auctions a unit, an active auction has one
and a reserve row of the current revision, and from its end on its close
succeeds. -/
theorem active_auction_closes (references : References) (house : House)
    (reached : Runs.Reachable (auctionHouse references) sparesAuctions house) (id : ListingId)
    (listing : Listing) (found : house.sys.inventory.listings.find? id = some listing)
    (format : listing.saleFormat = .auction) (file : AuctionFile)
    (filed : house.files.find? id = some file) (active : file.auction.status = .active) :
    1 ≤ listing.availableQuantity ∧
      (∃ reserve ∈ file.reserve, reserve.listingRevision = listing.listingRevision) ∧
      ∀ closer reservation order now, file.auction.endsAt ≤ now → closer.mayClose listing →
        house.sys.inventory.reservations.find? reservation = none →
        house.sys.cells.find? order = none →
        ∃ after, house.close id closer reservation order now = .ok after := by
  have listed := lotOf_found found format
  obtain ⟨stored, present, fits⟩ := (reachable_catalogued reached).listed id _ listed
  obtain rfl : stored = file := Option.some.inj (present.symm.trans filed)
  have available : 1 ≤ listing.availableQuantity := by
    have stocked := reachable_stocked reached id _ listed (fits.active.mpr active)
    rwa [Inventory.availableOf, found] at stocked
  obtain ⟨reserve, kept, revision, -⟩ := fits.reserve
  refine ⟨available, ⟨reserve, kept, revision⟩, ?_⟩
  intro closer reservation order now ended may unreserved unordered
  exact close_succeeds found filed format fits active available ended may unreserved unordered

def endedLamp : List HouseAction :=
  [lampAuction 0 100, lampBid "alice" 3000 1, .service (.tick 100)]

/-- Nobody else took the lamp, and the worker closes it. -/
theorem ended_lamp_closes :
    ∃ house, Runs.Reachable (auctionHouse sampleReferences) sparesAuctions house ∧
      ∃ after, house.close "lamp" .worker 1 7 100 = .ok after := by
  obtain ⟨house, reached, listing, found, format, file, filed, active, ended, unkept, unmade⟩ :=
    @Runs.exists_reachable_of_run _ _ (auctionHouse sampleReferences) sparesAuctions _ rfl endedLamp
      (fun house => ∃ listing ∈ house.sys.inventory.listings.find? "lamp",
        listing.saleFormat = .auction ∧ ∃ file ∈ house.files.find? "lamp",
          file.auction.status = .active ∧ file.auction.endsAt ≤ 100 ∧
            house.sys.inventory.reservations.find? 1 = none ∧ house.sys.cells.find? 7 = none)
      (by decide +kernel) (by decide +kernel)
  have closes := (active_auction_closes sampleReferences house reached "lamp" listing found format
    file filed active).2.2
  exact ⟨house, reached, closes .worker 1 7 100 ended trivial unkept unmade⟩

/-- A buyer reserves the only lamp while it is under auction: at its end the
auction is active, nothing is available, and the close fails. -/
theorem reserved_lamp_cannot_close :
    ∃ house, Runs.Reachable (auctionHouse sampleReferences) Runs.anyStep house ∧
      ∃ listing ∈ house.sys.inventory.listings.find? "lamp",
        listing.saleFormat = .auction ∧ listing.availableQuantity = 0 ∧
          ∃ file ∈ house.files.find? "lamp", file.auction.status = .active ∧
            file.auction.endsAt ≤ 100 ∧ house.sys.inventory.reservations.find? 1 = none ∧
            house.sys.cells.find? 7 = none ∧ ¬ ∃ after,
              house.close "lamp" .worker 1 7 100 = .ok after := by
  obtain ⟨house, reached, listing, found, format, none_left, file, filed, active, ended, unkept,
    unmade, fails⟩ :=
    Runs.exists_reachable_of_run (auctionHouse sampleReferences) rfl
      [ lampAuction 0 100
      , lampBid "alice" 3000 1
      , .service (.reserveInventory 5 "lamp" ⟨"carol", 2⟩ 1 600)
      , .service (.tick 100) ]
      (fun house => ∃ listing ∈ house.sys.inventory.listings.find? "lamp",
        listing.saleFormat = .auction ∧ listing.availableQuantity = 0 ∧
          ∃ file ∈ house.files.find? "lamp", file.auction.status = .active ∧
            file.auction.endsAt ≤ 100 ∧ house.sys.inventory.reservations.find? 1 = none ∧
            house.sys.cells.find? 7 = none ∧
            (house.close "lamp" .worker 1 7 100).toOption = none)
      (Runs.meets_anyStep _ _ _) (by decide +kernel)
  refine ⟨house, reached, listing, found, format, none_left, file, filed, active, ended, unkept,
    unmade, ?_⟩
  rintro ⟨after, closed⟩
  rw [closed] at fails
  cases fails

end MarketplaceService
