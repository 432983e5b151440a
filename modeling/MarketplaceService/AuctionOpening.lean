import MarketplaceService.AuctionFiles

/-!
When an auction takes bids. The label of a new auction is `active` if it has
started and `scheduled` otherwise, and no command or worker ever moves a
scheduled auction on: bidding, closing and the worker's selection all ask for
the label `active`. In a run that registers auctions only from their start on,
every auction that was not closed takes bids until its end and is then due.
-/

namespace MarketplaceService

def opensStarted (house : House) : HouseAction → Prop
  | .register id registration _ =>
      house.sys.inventory.listings.find? id = none →
        registration.terms.startsAt ≤ house.sys.clock
  | _ => True

instance (house : House) : (action : HouseAction) → Decidable (opensStarted house action)
  | .register id registration _ =>
      inferInstanceAs (Decidable (house.sys.inventory.listings.find? id = none →
        registration.terms.startsAt ≤ house.sys.clock))
  | .service _ => .isTrue trivial
  | .placeBid .. => .isTrue trivial
  | .close .. => .isTrue trivial

/-- An auction is active until it is closed. -/
def Opened (house : House) : Prop :=
  ∀ id file, house.files.find? id = some file →
    file.auction.status = .active ∨ file.auction.status = .sold ∨ file.auction.status = .unsold

section Steps

variable {references : References} {house after : House}

theorem register_opened {id : ListingId} {registration : AuctionRegistration} {sender : Sender}
    (catalogued : Catalogued house) (opened : Opened house)
    (started : opensStarted house (.register id registration sender))
    (registered : house.register id registration sender house.sys.clock = .ok after) :
    Opened after := by
  obtain ⟨listed, -, files, unchanged⟩ := register_base registered
  have auction : (registration.listed house.sys.clock).saleFormat = .auction :=
    (wellFormedAuction_iff registration.wellFormed).1
  obtain ⟨listing, -, -, before⟩ := registerListing_auction auction listed
  intro other file filed
  rw [files, Keyed.Table.find?_set] at filed
  by_cases here : other = id
  · subst here
    rw [if_pos rfl] at filed
    cases found : house.sys.inventory.listings.find? other with
    | none =>
        have unlisted : house.lotOf other = none := by
          rw [House.lotOf, Inventory.lotOf, found, Option.bind_none]
        rw [catalogued.unlisted other unlisted] at filed
        obtain rfl := Option.some.inj filed
        have begun := not_lt.mpr (started found)
        simp [registeredFile, auctionJson, begun]
    | some old =>
        have shown : house.lotOf other = some old.lot := lotOf_found found (before old found)
        obtain ⟨stored, present, -⟩ := catalogued.listed other old.lot shown
        rw [Option.mem_def] at present
        rw [present, registeredFile_edit (unchanged old found stored present)] at filed
        obtain rfl := Option.some.inj filed
        exact opened other stored present
  · rw [if_neg here] at filed
    exact opened other file filed

theorem Opened.set {id : ListingId} {file : AuctionFile} (opened : Opened house)
    (label : file.auction.status = .active ∨ file.auction.status = .sold ∨
      file.auction.status = .unsold)
    (files : after.files = house.files.set id file) : Opened after := by
  intro other stored filed
  rw [files, Keyed.Table.find?_set] at filed
  by_cases here : other = id
  · rw [if_pos here] at filed
    obtain rfl := Option.some.inj filed
    exact label
  · rw [if_neg here] at filed
    exact opened other stored filed

theorem Opened.step {action : HouseAction} (opened : Opened house) (catalogued : Catalogued house)
    (started : opensStarted house action)
    (stepped : house.step references action = some after) : Opened after := by
  cases action with
  | service action =>
      obtain ⟨-, stepped⟩ := Option.ite_none_left_eq_some.mp stepped
      obtain ⟨sys, -, rfl⟩ := Option.map_eq_some_iff.mp stepped
      exact opened
  | register id registration sender =>
      exact register_opened catalogued opened started (Outcome.toOption_some stepped)
  | placeBid id command =>
      obtain ⟨listing, file, -, -, bidding, -, -, files⟩ :=
        placeBid_base (Outcome.toOption_some stepped)
      exact opened.set (.inl (by exact bidding.active)) files
  | close id closer reservation order =>
      cases close_ok (Outcome.toOption_some stepped) with
      | sold found filed active won closed inserted files =>
          exact opened.set (.inr (.inl rfl)) files
      | unsold found filed active closed written files =>
          exact opened.set (.inr (.inr rfl)) files

end Steps

theorem reachable_opened {references : References} {house : House}
    (reached : Runs.Reachable (auctionHouse references) opensStarted house) : Opened house := by
  refine Runs.invariant_under (auctionHouse references) opensStarted Catalogued Opened
    (fun _ => reachable_catalogued) ?_ ?_ reached
  · intro house init
    rw [show house = emptyHouse from init]
    intro id file filed
    cases filed
  · intro before action after catalogued opened started stepped
    exact opened.step catalogued started stepped

/-! Bidding. -/

/-- A bid well formed for the listing and its auction as they stand. -/
structure Offers (listing : Listing) (file : AuctionFile) (command : BidCommand) : Prop where
  foreign : command.sender.actor ≠ listing.sellerPubky
  current : command.sender.expectedRevision = listing.serverRevision
  asset : command.maximumAmount.sameAsset listing.unitPrice = true
  enough : personalMinimumNextBid file.auction.currentPrice.amountMinor
    file.auction.minimumIncrement.amountMinor
    (bidderPreviousMaximum file.bids command.sender.actor) ≤ command.maximumAmount.amountMinor

theorem Fits.fresh {lot : Lot} {file : AuctionFile} (fits : Fits lot file) :
    file.bids.any (·.sequence == file.auction.bidCount + 1) = false := by
  apply Bool.eq_false_iff.mpr
  intro taken
  obtain ⟨bid, member, same⟩ := List.any_eq_true.mp taken
  have counted : bid.sequence ∈ List.range' 1 file.auction.bidCount := by
    rw [← fits.counted]
    exact List.mem_map_of_mem member
  have last : bid.sequence = file.auction.bidCount + 1 := by simpa using same
  rw [List.mem_range'_1] at counted
  omega

theorem placeBid_succeeds {house : House} {id : ListingId} {listing : Listing}
    {file : AuctionFile} {command : BidCommand} {now : Time}
    (found : house.sys.inventory.listings.find? id = some listing)
    (format : listing.saleFormat = .auction) (live : listing.isDeleted = false)
    (filed : house.files.find? id = some file) (fits : Fits listing.lot file)
    (active : file.auction.status = .active) (begun : file.auction.startsAt ≤ now)
    (running : now < file.auction.endsAt) (offers : Offers listing file command) :
    ∃ after, house.placeBid id command now = .ok after := by
  have reserved : file.reserve.isSome = true := by
    obtain ⟨reserve, stored, -⟩ := fits.reserve
    rw [Option.mem_def.mp stored]
    rfl
  have bidding : Bidding listing file command now :=
    { live := live
      foreign := offers.foreign.symm
      format := format
      reserved := reserved
      active := active
      current := offers.current
      begun := begun
      running := running
      asset := offers.asset
      enough := offers.enough
      fresh := fits.fresh }
  have open_row : listing.auctionActive = true := fits.active.mpr active
  have moved : ∃ inventory, placeBid house.sys.inventory id = .ok inventory := by
    unfold placeBid activeAuction
    rw [found]
    simp only [format, open_row, ne_eq, not_true_eq_false, Bool.true_eq_false, or_self, if_false,
      bind, Except.bind, live, Bool.false_eq_true]
    exact ⟨_, rfl⟩
  obtain ⟨inventory, moved⟩ := moved
  unfold House.placeBid
  rw [found, filed, bidding.accepted]
  change ∃ after, (MarketplaceService.placeBid house.sys.inventory id >>= _) = .ok after
  rw [moved]
  exact ⟨_, rfl⟩

/-- In every run that registers auctions from their start on, a live auction
that was not closed or cancelled takes every well-formed bid while it runs, and
it is due from its end on. -/
theorem unclosed_auction_takes_bids (references : References) (house : House)
    (reached : Runs.Reachable (auctionHouse references) opensStarted house) (id : ListingId)
    (listing : Listing) (found : house.sys.inventory.listings.find? id = some listing)
    (format : listing.saleFormat = .auction) (live : listing.isDeleted = false)
    (file : AuctionFile) (filed : house.files.find? id = some file)
    (unclosed : file.auction.status ∉ [AuctionStatus.sold, .unsold, .cancelled]) :
    (∀ now command, file.auction.startsAt ≤ now → now < file.auction.endsAt →
      Offers listing file command → ∃ after, house.placeBid id command now = .ok after) ∧
    ∀ now, file.auction.endsAt ≤ now → dueAuction listing file now = true := by
  have listed := lotOf_found found format
  obtain ⟨stored, present, fits⟩ := (reachable_catalogued reached).listed id _ listed
  obtain rfl : stored = file := Option.some.inj (present.symm.trans filed)
  have active : stored.auction.status = .active := by
    rcases reachable_opened reached id stored filed with active | sold | unsold
    · exact active
    · rw [sold] at unclosed
      exact absurd (by simp) unclosed
    · rw [unsold] at unclosed
      exact absurd (by simp) unclosed
  constructor
  · intro now command begun running offers
    exact placeBid_succeeds found format live filed fits active begun running offers
  · intro now ended
    simp [dueAuction, format, active, ended]

/-- The lamp's auction, registered at its start, takes the first bid. -/
theorem started_lamp_takes_bid :
    ∃ house, Runs.Reachable (auctionHouse sampleReferences) opensStarted house ∧
      ∃ after, house.placeBid "lamp"
        { sender := ⟨"alice", 1⟩
          maximumAmount := { amountMinor := 3000, currency := "USD", exponent := 2 }
          safe := by decide
          positive := by decide } 60 = .ok after := by
  obtain ⟨house, reached, listing, found, format, live, file, filed, unclosed, begun, running,
    seller, revision, asset, enough⟩ :=
    @Runs.exists_reachable_of_run _ _ (auctionHouse sampleReferences) opensStarted _ rfl
      [lampAuction 0 100]
      (fun house => ∃ listing ∈ house.sys.inventory.listings.find? "lamp",
        listing.saleFormat = .auction ∧ listing.isDeleted = false ∧
          ∃ file ∈ house.files.find? "lamp",
            file.auction.status ∉ [AuctionStatus.sold, .unsold, .cancelled] ∧
              file.auction.startsAt ≤ 60 ∧ 60 < file.auction.endsAt ∧
              "alice" ≠ listing.sellerPubky ∧ 1 = listing.serverRevision ∧
              (Money.mk 3000 "USD" 2).sameAsset listing.unitPrice = true ∧
              personalMinimumNextBid file.auction.currentPrice.amountMinor
                file.auction.minimumIncrement.amountMinor
                (bidderPreviousMaximum file.bids "alice") ≤ 3000)
      (by decide +kernel) (by decide +kernel)
  have takes := (unclosed_auction_takes_bids sampleReferences house reached "lamp" listing found
    format live file filed unclosed).1
  exact ⟨house, reached, takes 60 _ begun running ⟨seller, revision, asset, enough⟩⟩

/-- An auction registered before its start: at a time between its start and its
end it refuses a well-formed bid, and after its end it is not due. -/
theorem scheduled_lamp_stays_closed :
    ∃ house, Runs.Reachable (auctionHouse sampleReferences) Runs.anyStep house ∧
      ∃ listing ∈ house.sys.inventory.listings.find? "lamp",
        listing.saleFormat = .auction ∧ listing.isDeleted = false ∧
          ∃ file ∈ house.files.find? "lamp",
            file.auction.status ∉ [AuctionStatus.sold, .unsold, .cancelled] ∧
              file.auction.startsAt ≤ 60 ∧ 60 < file.auction.endsAt ∧
              (∃ command, Offers listing file command ∧
                ¬ ∃ after, house.placeBid "lamp" command 60 = .ok after) ∧
              file.auction.endsAt ≤ 200 ∧ dueAuction listing file 200 = false := by
  let command : BidCommand :=
    { sender := ⟨"alice", 1⟩
      maximumAmount := { amountMinor := 3000, currency := "USD", exponent := 2 }
      safe := by decide
      positive := by decide }
  obtain ⟨house, reached, listing, found, format, live, file, filed, unclosed, begun, running,
    seller, revision, asset, enough, fails, ended, undue⟩ :=
    Runs.exists_reachable_of_run (auctionHouse sampleReferences) rfl
      [lampAuction 50 100, .service (.tick 60)]
      (fun house => ∃ listing ∈ house.sys.inventory.listings.find? "lamp",
        listing.saleFormat = .auction ∧ listing.isDeleted = false ∧
          ∃ file ∈ house.files.find? "lamp",
            file.auction.status ∉ [AuctionStatus.sold, .unsold, .cancelled] ∧
              file.auction.startsAt ≤ 60 ∧ 60 < file.auction.endsAt ∧
              "alice" ≠ listing.sellerPubky ∧ 1 = listing.serverRevision ∧
              (Money.mk 3000 "USD" 2).sameAsset listing.unitPrice = true ∧
              personalMinimumNextBid file.auction.currentPrice.amountMinor
                file.auction.minimumIncrement.amountMinor
                (bidderPreviousMaximum file.bids "alice") ≤ 3000 ∧
              (house.placeBid "lamp" command 60).toOption = none ∧
              file.auction.endsAt ≤ 200 ∧ dueAuction listing file 200 = false)
      (Runs.meets_anyStep _ _ _) (by decide +kernel)
  refine ⟨house, reached, listing, found, format, live, file, filed, unclosed, begun, running,
    ⟨command, ⟨seller, revision, asset, enough⟩, ?_⟩, ended, undue⟩
  rintro ⟨after, placed⟩
  rw [placed] at fails
  cases fails

end MarketplaceService
