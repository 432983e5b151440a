import MarketplaceService.AuctionFrame

/-!
The auction files over whole runs. Each command on an auction is read back to
what it does to the lot and the file; from these the five things a step may do
to one auction, and the invariant that a lot and its file fit: the label of the
file is the label of the row, the reserve row is of the current listing
revision and every amount is in the listing's asset.
-/

namespace MarketplaceService

/-! The commands, read backwards. -/

/-- What an accepted bid met. -/
structure Bidding (listing : Listing) (file : AuctionFile) (command : BidCommand) (now : Time) :
    Prop where
  live : listing.isDeleted = false
  foreign : listing.sellerPubky ≠ command.sender.actor
  format : listing.saleFormat = .auction
  reserved : file.reserve.isSome = true
  active : file.auction.status = .active
  current : command.sender.expectedRevision = listing.serverRevision
  begun : file.auction.startsAt ≤ now
  running : now < file.auction.endsAt
  asset : command.maximumAmount.sameAsset listing.unitPrice = true
  enough : personalMinimumNextBid file.auction.currentPrice.amountMinor
    file.auction.minimumIncrement.amountMinor
    (bidderPreviousMaximum file.bids command.sender.actor) ≤ command.maximumAmount.amountMinor
  fresh : file.bids.any (·.sequence == file.auction.bidCount + 1) = false

theorem placeAuctionBid_ok {listing? : Option Listing} {file? : Option AuctionFile}
    {command : BidCommand} {now : Time} {placed : AuctionFile}
    (accepted : placeAuctionBid listing? file? command now = .ok placed) :
    ∃ listing file, listing? = some listing ∧ file? = some file ∧
      Bidding listing file command now ∧
      placed = file.withBid (command.row file now) listing.unitPriceAmountMinor now := by
  unfold placeAuctionBid at accepted
  split at accepted
  · cases accepted
  · rename_i listing shown
    obtain ⟨found, live⟩ := Option.filter_eq_some_iff.mp shown
    obtain ⟨foreign, accepted⟩ := Outcome.guard_ok accepted
    split at accepted
    · cases accepted
    · rename_i file filed
      obtain ⟨present, format⟩ := Option.filter_eq_some_iff.mp filed
      obtain ⟨reserved, accepted⟩ := Outcome.guard_ok accepted
      obtain ⟨active, accepted⟩ := Outcome.guard_ok accepted
      obtain ⟨current, accepted⟩ := Outcome.guard_ok accepted
      obtain ⟨window, accepted⟩ := Outcome.guard_ok accepted
      obtain ⟨asset, accepted⟩ := Outcome.guard_ok accepted
      obtain ⟨enough, accepted⟩ := Outcome.guard_ok accepted
      obtain ⟨fresh, accepted⟩ := Outcome.guard_ok accepted
      cases accepted
      rw [not_or, not_lt, not_le] at window
      refine ⟨listing, file, found, present, ?_, rfl⟩
      exact
        { live := by simpa using live
          foreign := foreign
          format := by simpa using format
          reserved := by simpa [Option.isSome_iff_ne_none] using reserved
          active := not_not.mp active
          current := not_not.mp current
          begun := window.1
          running := window.2
          asset := by simpa using asset
          enough := not_lt.mp enough
          fresh := by simpa [BidCommand.row] using fresh }

theorem Bidding.accepted {listing : Listing} {file : AuctionFile} {command : BidCommand}
    {now : Time} (bidding : Bidding listing file command now) :
    placeAuctionBid (some listing) (some file) command now =
      .ok (file.withBid (command.row file now) listing.unitPriceAmountMinor now) := by
  have window : ¬ (now < file.auction.startsAt ∨ file.auction.endsAt ≤ now) :=
    not_or.mpr ⟨not_lt.mpr bidding.begun, not_le.mpr bidding.running⟩
  have reserved : file.reserve.isNone = false := by
    have present := bidding.reserved
    cases stored : file.reserve with
    | none =>
        rw [stored] at present
        cases present
    | some row => rfl
  simp only [placeAuctionBid, Option.filter_some, bidding.live, Bool.not_false, if_true,
    bidding.foreign, if_false, bidding.format, beq_self_eq_true, reserved, Bool.false_eq_true,
    bidding.active, ne_eq, not_true_eq_false, bidding.current, window, bidding.asset,
    Bool.not_true, not_lt.mpr bidding.enough, BidCommand.row, bidding.fresh]

theorem validateEdit_ok {listing : Listing} {file : AuctionFile} {record : ListingRecord}
    {terms : AuctionTerms} {reserve : ReserveAuthority} {now : Time}
    (valid : validateEdit listing file record terms reserve now = .ok ()) :
    termsChanged listing file.auction record terms = false := by
  unfold validateEdit at valid
  split at valid
  · cases valid
  · obtain ⟨same, -⟩ := Outcome.guard_ok valid
    simpa using same

theorem wellFormedAuction_iff {record : ListingRecord} {terms : AuctionTerms}
    {reserve : ReserveAuthority} (wellFormed : wellFormedAuction record terms reserve = true) :
    record.saleFormat = .auction ∧ terms.minimumIncrement.sameAsset record.unitPrice = true ∧
      0 < record.quantity ∧
      ∀ price ∈ reserve.reservePrice, price.sameAsset record.unitPrice = true := by
  simp only [wellFormedAuction, Bool.and_eq_true, beq_iff_eq, decide_eq_true_eq] at wellFormed
  obtain ⟨⟨⟨⟨format, increment⟩, -⟩, quantity⟩, priced⟩ := wellFormed
  refine ⟨format, increment, quantity, ?_⟩
  intro price offered
  rw [Option.mem_def] at offered
  rw [offered] at priced
  simp only [Option.all_some, Bool.and_eq_true] at priced
  exact priced.1

theorem registeredFile_edit {listing : Listing} {file : AuctionFile} {record : ListingRecord}
    {terms : AuctionTerms} {reserve : ReserveAuthority} {now : Time}
    (same : termsChanged listing file.auction record terms = false) :
    registeredFile (some file) record terms reserve now =
      { file with
        reserve := some
          { listingRevision := record.listingRevision
            recordRevision := reserve.recordRevision
            reservePrice := reserve.reservePrice } } := by
  simp only [termsChanged, Bool.or_eq_false_iff, bne_eq_false_iff_eq] at same
  obtain ⟨⟨⟨⟨⟨-, starts⟩, ends⟩, increment⟩, window⟩, extension⟩ := same
  unfold registeredFile auctionJson
  simp [← starts, ← ends, ← increment, ← window, ← extension]

/-! The steps of a house are steps of the service. -/

section House

variable {references : References} {house after : House}

theorem register_base {id : ListingId} {registration : AuctionRegistration} {sender : Sender}
    {now : Time} (registered : house.register id registration sender now = .ok after) :
    registerListing house.sys.inventory id (registration.listed now) sender true now =
        .ok after.sys.inventory ∧
      after.sys = { house.sys with inventory := after.sys.inventory } ∧
      after.files = house.files.set id (registeredFile (house.files.find? id) registration.record
        registration.terms registration.reserve now) ∧
      ∀ listing ∈ house.sys.inventory.listings.find? id, ∀ file ∈ house.files.find? id,
        termsChanged listing file.auction registration.record registration.terms = false := by
  unfold House.register at registered
  obtain ⟨-, -, registered⟩ := Outcome.bind_ok registered
  obtain ⟨⟨⟩, valid, registered⟩ := Outcome.bind_ok registered
  obtain ⟨inventory, listed, written⟩ := Outcome.bind_ok registered
  cases Outcome.pure_ok written
  refine ⟨listed, rfl, rfl, ?_⟩
  intro listing found file filed
  rw [Option.mem_def] at found filed
  rw [found, filed] at valid
  exact validateEdit_ok valid

theorem placeBid_base {id : ListingId} {command : BidCommand} {now : Time}
    (placed : house.placeBid id command now = .ok after) :
    ∃ listing file, house.sys.inventory.listings.find? id = some listing ∧
      house.files.find? id = some file ∧ Bidding listing file command now ∧
      placeBid house.sys.inventory id = .ok after.sys.inventory ∧
      after.sys = { house.sys with inventory := after.sys.inventory } ∧
      after.files = house.files.set id
        (file.withBid (command.row file now) listing.unitPriceAmountMinor now) := by
  unfold House.placeBid at placed
  obtain ⟨file, accepted, placed⟩ := Outcome.bind_ok placed
  obtain ⟨inventory, moved, written⟩ := Outcome.bind_ok placed
  cases Outcome.pure_ok written
  obtain ⟨listing, file, found, filed, bidding, rfl⟩ := placeAuctionBid_ok accepted
  exact ⟨listing, file, found, filed, bidding, moved, rfl, rfl⟩

theorem closeGate_ok {listing? : Option Listing} {file? : Option AuctionFile} {closer : Closer}
    {now : Time} {listing : Listing} {file : AuctionFile}
    (passed : closeGate listing? file? closer now = .ok (listing, file)) :
    listing? = some listing ∧ file? = some file ∧ listing.saleFormat = .auction ∧
      file.auction.status = .active ∧ file.auction.endsAt ≤ now := by
  unfold closeGate at passed
  split at passed
  · split at passed
    · obtain ⟨-, passed⟩ := Outcome.guard_ok passed
      obtain ⟨live, passed⟩ := Outcome.guard_ok passed
      obtain ⟨-, passed⟩ := Outcome.guard_ok passed
      obtain ⟨ended, passed⟩ := Outcome.guard_ok passed
      cases passed
      rw [not_or, not_not, not_not] at live
      exact ⟨rfl, rfl, live.1, live.2, not_lt.mp ended⟩
    · split at passed
      · rename_i due
        cases passed
        exact ⟨rfl, rfl, due⟩
      · cases passed
  · cases passed

inductive Closing (house : House) (id : ListingId) (reservation : ReservationId) (order : OrderId)
    (now : Time) (after : House) : Prop
  | sold {listing : Listing} {file : AuctionFile} {winner : Pubky} {book : OrderBook}
      {inventory : Inventory} (found : house.sys.inventory.listings.find? id = some listing)
      (filed : house.files.find? id = some file) (active : file.auction.status = .active)
      (won : auctionWinner listing file = .ok (some winner))
      (closed : closeAuction house.sys.inventory id winner file.auction.currentPrice.amountMinor
        reservation order now = .ok (book, inventory))
      (inserted : house.sys.insert inventory [book] = some after.sys)
      (files : after.files = house.files.set id (file.closed .sold))
  | unsold {listing : Listing} {file : AuctionFile} {inventory : Inventory}
      (found : house.sys.inventory.listings.find? id = some listing)
      (filed : house.files.find? id = some file) (active : file.auction.status = .active)
      (closed : closeUnsold house.sys.inventory id = .ok inventory)
      (written : after.sys = { house.sys with inventory := inventory })
      (files : after.files = house.files.set id (file.closed .unsold))

theorem close_ok {id : ListingId} {closer : Closer} {reservation : ReservationId} {order : OrderId}
    {now : Time} (closed : house.close id closer reservation order now = .ok after) :
    Closing house id reservation order now after := by
  unfold House.close at closed
  obtain ⟨⟨listing, file⟩, passed, closed⟩ := Outcome.bind_ok closed
  obtain ⟨found, filed, -, active, -⟩ := closeGate_ok passed
  obtain ⟨winner?, won, closed⟩ := Outcome.bind_ok closed
  cases winner? with
  | none =>
      obtain ⟨inventory, written, closed⟩ := Outcome.bind_ok closed
      cases closed
      exact .unsold found filed active written rfl rfl
  | some winner =>
      obtain ⟨⟨book, inventory⟩, sold, closed⟩ := Outcome.bind_ok closed
      simp only at closed
      split at closed
      · cases closed
      · rename_i inserted
        cases closed
        exact .sold found filed active won sold inserted rfl

theorem house_base {action : HouseAction} (stepped : house.step references action = some after) :
    ∃ base, house.sys.step references base = some after.sys := by
  cases action with
  | service action =>
      obtain ⟨-, stepped⟩ := Option.ite_none_left_eq_some.mp stepped
      obtain ⟨sys, ran, rfl⟩ := Option.map_eq_some_iff.mp stepped
      exact ⟨action, ran⟩
  | register id registration sender =>
      obtain ⟨listed, same, -, -⟩ := register_base (Outcome.toOption_some stepped)
      refine ⟨.registerListing id (registration.listed house.sys.clock) sender true, ?_⟩
      rw [same]
      simp [Sys.step, Sys.setInventory, listed, Except.toOption]
  | placeBid id command =>
      obtain ⟨-, -, -, -, -, moved, same, -⟩ := placeBid_base (Outcome.toOption_some stepped)
      refine ⟨.placeBid id, ?_⟩
      rw [same]
      simp [Sys.step, Sys.setInventory, moved, Except.toOption]
  | close id closer reservation order =>
      cases close_ok (Outcome.toOption_some stepped) with
      | @sold listing file winner book inventory found filed active won closed inserted files =>
          refine ⟨.closeAuction id winner file.auction.currentPrice.amountMinor reservation order,
            ?_⟩
          simpa [Sys.step, closed, Except.toOption] using inserted
      | unsold found filed active closed written files =>
          refine ⟨.closeUnsold id, ?_⟩
          rw [written]
          simp [Sys.step, Sys.setInventory, closed, Except.toOption]

theorem house_reachable {allowed : House → HouseAction → Prop}
    (reached : Runs.Reachable (auctionHouse references) allowed house) :
    Runs.Reachable (marketplace references) Runs.anyStep house.sys := by
  induction reached with
  | start init =>
      rw [show _ = emptyHouse from init]
      exact .start rfl
  | next _ _ stepped ih =>
      obtain ⟨base, ran⟩ := house_base stepped
      exact .next ih trivial ran

end House

/-! What a step does to one auction. -/

theorem registerListing_auction {inventory after : Inventory} {id : ListingId}
    {record : ListingRecord} {sender : Sender} {recordFound : Bool} {now : Time}
    (auction : record.saleFormat = .auction)
    (registered : registerListing inventory id record sender recordFound now = .ok after) :
    ∃ listing, after = inventory.setListing id listing ∧
      applyRegistration (inventory.listings.find? id) record now = .ok listing ∧
      ∀ old ∈ inventory.listings.find? id, old.saleFormat = .auction := by
  unfold registerListing at registered
  obtain ⟨-, registered⟩ := Outcome.guard_ok registered
  simp only at registered
  obtain ⟨-, registered⟩ := Outcome.guard_ok registered
  obtain ⟨-, registered⟩ := Outcome.guard_ok registered
  obtain ⟨-, registered⟩ := Outcome.guard_ok registered
  obtain ⟨-, registered⟩ := Outcome.guard_ok registered
  obtain ⟨format, registered⟩ := Outcome.guard_ok registered
  obtain ⟨listing, applied, written⟩ := Outcome.bind_ok registered
  refine ⟨listing, Outcome.pure_ok written, applied, ?_⟩
  intro old found
  rw [Option.mem_def.mp found, auction] at format
  by_contra other
  exact format (by simpa using other)

def AuctionRegistration.lot (registration : AuctionRegistration) (now : Time) : Lot :=
  { sellerPubky := registration.record.sellerPubky
    listingRevision := registration.record.listingRevision
    unitPrice := registration.record.unitPrice
    active := decide (registration.terms.startsAt ≤ now) }

theorem applyRegistration_opens {record : ListingRecord} {now : Time} {listing : Listing}
    (applied : applyRegistration none record now = .ok listing) :
    listing.sellerPubky = record.sellerPubky ∧ listing.listingRevision = record.listingRevision ∧
      listing.unitPrice = record.unitPrice ∧ listing.saleFormat = record.saleFormat ∧
      listing.auctionActive = (record.saleFormat = .auction && record.auctionStarted) ∧
      listing.availableQuantity = record.quantity := by
  unfold applyRegistration at applied
  simp only [Option.map_none, Option.getD_none] at applied
  split at applied
  · cases applied
    exact ⟨rfl, rfl, rfl, rfl, rfl, by simp⟩
  · cases applied

theorem applyRegistration_edits {record : ListingRecord} {now : Time} {old listing : Listing}
    (applied : applyRegistration (some old) record now = .ok listing) :
    listing.sellerPubky = old.sellerPubky ∧ listing.listingRevision = record.listingRevision ∧
      listing.unitPrice = record.unitPrice ∧ listing.saleFormat = record.saleFormat ∧
      listing.auctionActive = old.auctionActive ∧
      listing.availableQuantity = record.quantity - (old.reservedQuantity + old.soldQuantity) := by
  unfold applyRegistration at applied
  simp only [Option.map_some, Option.getD_some] at applied
  split at applied
  · cases applied
    exact ⟨rfl, rfl, rfl, rfl, rfl, rfl⟩
  · cases applied

def AuctionRegistration.reserveRow (registration : AuctionRegistration) : AuctionReserve :=
  { listingRevision := registration.record.listingRevision
    recordRevision := registration.reserve.recordRevision
    reservePrice := registration.reserve.reservePrice }

def House.lotOf (house : House) (id : ListingId) : Option Lot := house.sys.inventory.lotOf id

inductive LotStep (id : ListingId) (now : Time) (house after : House) : Prop
  | kept (lot : after.lotOf id = house.lotOf id)
      (file : after.files.find? id = house.files.find? id)
  | opened {registration : AuctionRegistration} (unlisted : house.lotOf id = none)
      (lot : after.lotOf id = some (registration.lot now))
      (file : after.files.find? id = some (registeredFile none registration.record
        registration.terms registration.reserve now))
  | edited {registration : AuctionRegistration} {lot : Lot} {file : AuctionFile}
      (listed : house.lotOf id = some lot) (filed : house.files.find? id = some file)
      (price : registration.record.unitPrice = lot.unitPrice)
      (lotAfter : after.lotOf id = some { lot with
        listingRevision := registration.record.listingRevision })
      (fileAfter : after.files.find? id = some { file with
        reserve := some registration.reserveRow })
  | bid {listing : Listing} {file : AuctionFile} {command : BidCommand}
      (found : house.sys.inventory.listings.find? id = some listing)
      (filed : house.files.find? id = some file) (bidding : Bidding listing file command now)
      (lot : after.lotOf id = house.lotOf id)
      (fileAfter : after.files.find? id = some
        (file.withBid (command.row file now) listing.unitPriceAmountMinor now))
  | closed {lot : Lot} {file : AuctionFile} {status : AuctionStatus}
      (listed : house.lotOf id = some lot) (filed : house.files.find? id = some file)
      (active : file.auction.status = .active) (ended : status = .sold ∨ status = .unsold)
      (lotAfter : after.lotOf id = some { lot with active := false })
      (fileAfter : after.files.find? id = some (file.closed status))

structure Fits (lot : Lot) (file : AuctionFile) : Prop where
  active : lot.active = true ↔ file.auction.status = .active
  reserve : ∃ stored ∈ file.reserve, stored.listingRevision = lot.listingRevision ∧
    ∀ price ∈ stored.reservePrice, price.sameAsset lot.unitPrice = true
  price : file.auction.currentPrice.sameAsset lot.unitPrice = true
  increment : file.auction.minimumIncrement.sameAsset lot.unitPrice = true
  raises : 0 < file.auction.minimumIncrement.amountMinor
  counted : file.bids.map Bid.sequence = List.range' 1 file.auction.bidCount

structure Catalogued (house : House) : Prop where
  unlisted : ∀ id, house.lotOf id = none → house.files.find? id = none
  listed : ∀ id, ∀ lot ∈ house.lotOf id, ∃ file ∈ house.files.find? id, Fits lot file

section Steps

variable {references : References} {house after : House}

theorem lotOf_insert {sys after : Sys} {inventory : Inventory} {books : List OrderBook}
    (inserted : sys.insert inventory books = some after) (id : ListingId) :
    after.inventory.lotOf id = inventory.lotOf id := by
  rw [insert_inventory inserted]

theorem register_opens {id : ListingId} {registration : AuctionRegistration} {sender : Sender}
    {now : Time} (catalogued : Catalogued house)
    (registered : house.register id registration sender now = .ok after)
    (found : house.sys.inventory.listings.find? id = none) : LotStep id now house after := by
  obtain ⟨listed, -, files, -⟩ := register_base registered
  have auction : (registration.listed now).saleFormat = .auction :=
    (wellFormedAuction_iff registration.wellFormed).1
  obtain ⟨listing, written, applied, -⟩ := registerListing_auction auction listed
  rw [found] at applied
  obtain ⟨seller, revision, price, format, active, -⟩ := applyRegistration_opens applied
  have unlisted : house.lotOf id = none := by
    rw [House.lotOf, Inventory.lotOf, found, Option.bind_none]
  have lot : listing.lot? = some (registration.lot now) := by
    rw [Listing.lot?, if_pos (format.trans auction), Listing.lot, seller, revision, price, active]
    rw [auction]
    simp [AuctionRegistration.lot, AuctionRegistration.listed, ListingRecord.unitPrice]
  refine @LotStep.opened _ _ _ _ registration unlisted ?_ ?_
  · rw [House.lotOf, written, lotOf_setListing, if_pos rfl, lot]
  · rw [files, Keyed.Table.find?_set, if_pos rfl, catalogued.unlisted id unlisted]

theorem register_edits {id : ListingId} {registration : AuctionRegistration} {sender : Sender}
    {now : Time} {old : Listing} (catalogued : Catalogued house)
    (registered : house.register id registration sender now = .ok after)
    (found : house.sys.inventory.listings.find? id = some old) : LotStep id now house after := by
  obtain ⟨listed, -, files, unchanged⟩ := register_base registered
  have auction : (registration.listed now).saleFormat = .auction :=
    (wellFormedAuction_iff registration.wellFormed).1
  obtain ⟨listing, written, applied, before⟩ := registerListing_auction auction listed
  rw [found] at applied
  obtain ⟨seller, revision, unit, format, active, -⟩ := applyRegistration_edits applied
  have shown : house.lotOf id = some old.lot := lotOf_found found (before old found)
  obtain ⟨file, filed, -⟩ := catalogued.listed id old.lot shown
  have same := unchanged old found file filed
  have price : registration.record.unitPrice = old.unitPrice := by
    simp only [termsChanged, Bool.or_eq_false_iff, bne_eq_false_iff_eq] at same
    exact same.1.1.1.1.1.symm
  have lot : listing.lot? = some { old.lot with
      listingRevision := registration.record.listingRevision } := by
    have kept : listing.unitPrice = old.unitPrice := unit.trans price
    rw [Listing.lot?, if_pos (format.trans auction), Listing.lot, seller, revision, kept, active]
    rfl
  refine @LotStep.edited _ _ _ _ registration old.lot file shown filed price ?_ ?_
  · rw [House.lotOf, written, lotOf_setListing, if_pos rfl, lot]
  · rw [files, Keyed.Table.find?_set, if_pos rfl, Option.mem_def.mp filed,
      registeredFile_edit same]
    rfl

theorem register_lots {id : ListingId} {registration : AuctionRegistration} {sender : Sender}
    {now : Time} (catalogued : Catalogued house)
    (registered : house.register id registration sender now = .ok after) (other : ListingId) :
    LotStep other now house after := by
  by_cases here : other = id
  · subst here
    cases found : house.sys.inventory.listings.find? other with
    | none => exact register_opens catalogued registered found
    | some old => exact register_edits catalogued registered found
  · obtain ⟨listed, -, files, -⟩ := register_base registered
    obtain ⟨listing, written, -⟩ := registerListing_ok listed
    refine .kept ?_ ?_
    · rw [House.lotOf, written, lotOf_setListing, if_neg here]
      rfl
    · rw [files, Keyed.Table.find?_set, if_neg here]

theorem placeBid_lots {id : ListingId} {command : BidCommand} {now : Time}
    (placed : house.placeBid id command now = .ok after) (other : ListingId) :
    LotStep other now house after := by
  obtain ⟨listing, file, found, filed, bidding, moved, -, files⟩ := placeBid_base placed
  obtain ⟨row, present, -, -, -, written⟩ := placeBid_ok moved
  have lots : after.lotOf other = house.lotOf other := by
    rw [House.lotOf, written, lotOf_setListing]
    by_cases here : other = id
    · rw [if_pos here, here, House.lotOf, Inventory.lotOf, present]
      rfl
    · rw [if_neg here]
      rfl
  by_cases here : other = id
  · subst here
    refine .bid found filed bidding lots ?_
    rw [files, Keyed.Table.find?_set, if_pos rfl]
  · refine .kept lots ?_
    rw [files, Keyed.Table.find?_set, if_neg here]

theorem closeAuction_lots {inventory written : Inventory} {id : ListingId} {winner : Pubky}
    {priceMinor : ℕ} {reservation : ReservationId} {order : OrderId} {now : Time}
    {book : OrderBook}
    (closed : closeAuction inventory id winner priceMinor reservation order now =
      .ok (book, written)) :
    ∃ lot, inventory.lotOf id = some lot ∧ ∀ other, written.lotOf other =
      if other = id then some { lot with active := false } else inventory.lotOf other := by
  cases closeAuction_ok closed with
  | @intro listing _ found _ format _ _ inserted =>
      refine ⟨listing.lot, lotOf_found found format, fun other => ?_⟩
      rw [Inventory.lotOf, (insertReservation_tables inserted).1]
      refine (lotOf_setListing other).trans ?_
      by_cases here : other = id
      · rw [if_pos here, if_pos here, Listing.lot?, if_pos (by exact format)]
        rfl
      · rw [if_neg here, if_neg here]

theorem closeUnsold_lots {inventory written : Inventory} {id : ListingId}
    (closed : closeUnsold inventory id = .ok written) :
    ∃ lot, inventory.lotOf id = some lot ∧ ∀ other, written.lotOf other =
      if other = id then some { lot with active := false } else inventory.lotOf other := by
  obtain ⟨listing, found, format, -, rfl⟩ := closeUnsold_ok closed
  refine ⟨listing.lot, lotOf_found found format, fun other => ?_⟩
  refine (lotOf_setListing other).trans ?_
  by_cases here : other = id
  · rw [if_pos here, if_pos here, Listing.lot?, if_pos (by exact format)]
    rfl
  · rw [if_neg here, if_neg here]

theorem close_lots {id : ListingId} {reservation : ReservationId} {order : OrderId} {now : Time}
    (closing : Closing house id reservation order now after) (other : ListingId) :
    LotStep other now house after := by
  -- either way the row ends its auction and the file takes the label
  have closes {lot : Lot} {file : AuctionFile} {status : AuctionStatus}
      (listed : house.lotOf id = some lot) (filed : house.files.find? id = some file)
      (active : file.auction.status = .active) (ended : status = .sold ∨ status = .unsold)
      (lots : after.lotOf other =
        if other = id then some { lot with active := false } else house.lotOf other)
      (files : after.files = house.files.set id (file.closed status)) :
      LotStep other now house after := by
    by_cases here : other = id
    · subst here
      rw [if_pos rfl] at lots
      refine .closed listed filed active ended lots ?_
      rw [files, Keyed.Table.find?_set, if_pos rfl]
    · rw [if_neg here] at lots
      refine .kept lots ?_
      rw [files, Keyed.Table.find?_set, if_neg here]
  cases closing with
  | sold found filed active won closed inserted files =>
      obtain ⟨lot, listed, lots⟩ := closeAuction_lots closed
      exact closes listed filed active (.inl rfl)
        ((lotOf_insert inserted other).trans (lots other)) files
  | unsold found filed active closed written files =>
      obtain ⟨lot, listed, lots⟩ := closeUnsold_lots closed
      refine closes listed filed active (.inr rfl) ?_ files
      rw [House.lotOf, written]
      exact lots other

theorem house_lots {action : HouseAction} (catalogued : Catalogued house)
    (sound : ∀ id cell, house.sys.cells.find? id = some cell → Sound cell)
    (stepped : house.step references action = some after) (id : ListingId) :
    LotStep id house.sys.clock house after := by
  cases action with
  | service action =>
      obtain ⟨plain, stepped⟩ := Option.ite_none_left_eq_some.mp stepped
      obtain ⟨sys, ran, rfl⟩ := Option.map_eq_some_iff.mp stepped
      have asks := step_asks sound (by simpa using plain) ran
      exact .kept (asks.lots id) rfl
  | register named registration sender =>
      exact register_lots catalogued (Outcome.toOption_some stepped) id
  | placeBid named command => exact placeBid_lots (Outcome.toOption_some stepped) id
  | close named closer reservation order =>
      exact close_lots (close_ok (Outcome.toOption_some stepped)) id

/-! The invariant. -/

theorem sameAsset_refl (money : Money) : money.sameAsset money = true := by
  simp [Money.sameAsset]

theorem Fits.opened (registration : AuctionRegistration) (now : Time) :
    Fits (registration.lot now)
      (registeredFile none registration.record registration.terms registration.reserve now) := by
  obtain ⟨-, increment, -, reserve⟩ := wellFormedAuction_iff registration.wellFormed
  refine ⟨?_, ⟨_, rfl, rfl, reserve⟩, sameAsset_refl _, increment,
    registration.terms.increment_pos, rfl⟩
  by_cases started : registration.terms.startsAt ≤ now
  · simp [AuctionRegistration.lot, registeredFile, auctionJson, started]
  · simp [AuctionRegistration.lot, registeredFile, auctionJson, started, not_le.mp started]

theorem Fits.edited {lot : Lot} {file : AuctionFile} {registration : AuctionRegistration}
    (fits : Fits lot file) (price : registration.record.unitPrice = lot.unitPrice) :
    Fits { lot with listingRevision := registration.record.listingRevision }
      { file with reserve := some registration.reserveRow } := by
  obtain ⟨-, -, -, reserve⟩ := wellFormedAuction_iff registration.wellFormed
  rw [price] at reserve
  exact ⟨fits.active, ⟨_, rfl, rfl, reserve⟩, fits.price, fits.increment, fits.raises,
    fits.counted⟩

theorem Fits.bid {lot : Lot} {file : AuctionFile} (fits : Fits lot file) (command : BidCommand)
    (unitPriceMinor : ℕ) (now : Time) :
    Fits lot (file.withBid (command.row file now) unitPriceMinor now) := by
  refine ⟨fits.active, fits.reserve, fits.price, fits.increment, fits.raises, ?_⟩
  simp only [AuctionFile.withBid, AuctionState.withBid, List.map_append, fits.counted,
    List.map_cons, List.map_nil, BidCommand.row]
  rw [List.range'_concat]
  simp [Nat.add_comm]

theorem Fits.closed {lot : Lot} {file : AuctionFile} {status : AuctionStatus}
    (fits : Fits lot file) (ended : status = .sold ∨ status = .unsold) :
    Fits { lot with active := false } (file.closed status) := by
  refine ⟨?_, fits.reserve, fits.price, fits.increment, fits.raises, fits.counted⟩
  rcases ended with rfl | rfl <;> simp [AuctionFile.closed]

theorem Catalogued.step {action : HouseAction} (catalogued : Catalogued house)
    (sound : ∀ id cell, house.sys.cells.find? id = some cell → Sound cell)
    (stepped : house.step references action = some after) : Catalogued after := by
  constructor
  · intro id unlisted
    cases house_lots catalogued sound stepped id with
    | kept lot file =>
        rw [file]
        exact catalogued.unlisted id (lot.symm.trans unlisted)
    | opened _ lot file => cases lot.symm.trans unlisted
    | edited listed filed price lotAfter fileAfter => cases lotAfter.symm.trans unlisted
    | bid found filed bidding lot fileAfter =>
        have listed := lotOf_found found bidding.format
        cases listed.symm.trans (lot.symm.trans unlisted)
    | closed listed filed active ended lotAfter fileAfter => cases lotAfter.symm.trans unlisted
  · intro id lot listed
    -- the lot and the file before fit, and each step keeps the fit
    have fit {old : Lot} {file : AuctionFile} (before : house.lotOf id = some old)
        (filed : house.files.find? id = some file) : Fits old file := by
      obtain ⟨stored, present, fits⟩ := catalogued.listed id old before
      obtain rfl : stored = file := Option.some.inj (present.symm.trans filed)
      exact fits
    rw [Option.mem_def] at listed
    cases house_lots catalogued sound stepped id with
    | kept same file =>
        obtain ⟨stored, present, fits⟩ := catalogued.listed id lot (same.symm.trans listed)
        exact ⟨stored, file.trans present, fits⟩
    | opened _ opens file =>
        obtain rfl := Option.some.inj (opens.symm.trans listed)
        exact ⟨_, file, .opened _ _⟩
    | edited before filed price lotAfter fileAfter =>
        obtain rfl := Option.some.inj (lotAfter.symm.trans listed)
        exact ⟨_, fileAfter, (fit before filed).edited price⟩
    | bid found filed bidding same fileAfter =>
        exact ⟨_, fileAfter, (fit (same.symm.trans listed) filed).bid _ _ _⟩
    | closed before filed active ended lotAfter fileAfter =>
        obtain rfl := Option.some.inj (lotAfter.symm.trans listed)
        exact ⟨_, fileAfter, (fit before filed).closed ended⟩

end Steps

theorem reachable_catalogued {references : References} {allowed : House → HouseAction → Prop}
    {house : House} (reached : Runs.Reachable (auctionHouse references) allowed house) :
    Catalogued house := by
  refine Runs.invariant_under (auctionHouse references) allowed
    (fun house => ∀ id cell, house.sys.cells.find? id = some cell → Sound cell) Catalogued
    (fun _ reached _ _ found => reachable_sound (house_reachable reached) found) ?_ ?_ reached
  · intro house init
    rw [show house = emptyHouse from init]
    constructor
    · exact fun _ _ => rfl
    · intro id lot listed
      cases listed
  · intro before action after sound catalogued _ stepped
    exact catalogued.step sound stepped

end MarketplaceService
