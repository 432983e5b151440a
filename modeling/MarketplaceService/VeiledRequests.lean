import MarketplaceService.AuctionVeil

/-!
Requests on two floors under a veil. Two floors that differ in what a veil hides
of one auction answer another actor's request alike and stay so: what a request
does to the service, the bid history and the notifications does not depend on
the reserve before the close, nor on the maximums of a leader that all the
others stay an increment behind.
-/

namespace MarketplaceService

variable {veil : Veil} {id key : ListingId} {left right : Floor} {actor : Pubky}
  {formatTimestamp : Time → String}

/-! What is public names no reserve. -/

theorem moneyJson_reserveFree (amountMinor : ℕ) (currency : String) (exponent : ℕ) :
    (moneyJson amountMinor currency exponent).ensureReserveFree = true := by
  simp [moneyJson, Json.ensureReserveFree, Json.fieldsReserveFree, isReserveAudienceKey,
    forbiddenReserveKeys, sellerOnlyReserveMetadataKeys]

theorem fieldsReserveFree_iff (fields : List (String × Json)) :
    Json.fieldsReserveFree fields = true ↔
      ∀ field ∈ fields, isReserveAudienceKey field.1 = false ∧
        field.2.ensureReserveFree = true := by
  induction fields with
  | nil => simp [Json.fieldsReserveFree]
  | cons field rest ih => simp [Json.fieldsReserveFree, ih, and_assoc]

theorem textsReserveFree (texts : List String) :
    Json.itemsReserveFree (texts.map Json.str) = true := by
  induction texts with
  | nil => rfl
  | cons text rest ih => simpa [Json.itemsReserveFree, Json.ensureReserveFree] using ih

theorem auction_reserveFree (formatTimestamp : Time → String) (auction : AuctionState) :
    (auction.toValue formatTimestamp).ensureReserveFree = true := by
  have money (amount : Money) : amount.json.ensureReserveFree = true :=
    moneyJson_reserveFree amount.amountMinor amount.currency amount.exponent
  have leader : ((auction.leaderPubky.map Json.str).getD .null).ensureReserveFree = true := by
    cases auction.leaderPubky with
    | none => rfl
    | some pubky => rfl
  unfold AuctionState.toValue
  refine (fieldsReserveFree_iff _).mpr fun field member => ?_
  simp only [List.mem_cons, List.not_mem_nil, or_false] at member
  rcases member with rfl | rfl | rfl | rfl | rfl | rfl | rfl | rfl | rfl
  · exact ⟨rfl, rfl⟩
  · exact ⟨rfl, rfl⟩
  · exact ⟨rfl, money auction.minimumIncrement⟩
  · exact ⟨rfl, rfl⟩
  · exact ⟨rfl, rfl⟩
  · exact ⟨rfl, rfl⟩
  · exact ⟨rfl, money auction.currentPrice⟩
  · exact ⟨rfl, leader⟩
  · exact ⟨rfl, rfl⟩

theorem publicProjection_shown (formatTimestamp : Time → String) (id : ListingId)
    (listing : Listing)
    (auction : Option AuctionState) : ∃ fields,
      publicProjection formatTimestamp id listing auction = some (.obj fields) ∧
        Json.fieldsReserveFree fields = true := by
  have methods := textsReserveFree (listing.fulfillmentMethods.map Fulfillment.text)
  rw [List.map_map] at methods
  refine ⟨_, if_pos ?_, ?_⟩ <;>
  cases auction <;> cases delivered : listing.currentVersion <;>
  simp [Json.ensureReserveFree, Json.fieldsReserveFree, isReserveAudienceKey, Function.comp_def,
    forbiddenReserveKeys, sellerOnlyReserveMetadataKeys, Money.json, moneyJson_reserveFree,
    auction_reserveFree, Listing.digitalDeliveryProjection, delivered] at methods ⊢
  all_goals exact methods

theorem set_reserveFree {fields : List (String × Json)} {key : String} {value : Json}
    (free : Json.fieldsReserveFree fields = true) (open_key : isReserveAudienceKey key = false)
    (open_value : value.ensureReserveFree = true) :
    ((Json.obj fields).set key value).ensureReserveFree = true := by
  refine (fieldsReserveFree_iff _).mpr fun field member => ?_
  rcases List.mem_append.mp member with kept | added
  · exact (fieldsReserveFree_iff fields).mp free field (List.mem_of_mem_filter kept)
  · rw [List.mem_singleton.mp added]
    exact ⟨open_key, open_value⟩

theorem viewerBid_reserveFree (auction : AuctionState) (maximumMinor : ℕ) (currency : String)
    (exponent : ℕ) :
    (viewerBidJson auction maximumMinor currency exponent).ensureReserveFree = true := by
  simp [viewerBidJson, Json.ensureReserveFree, Json.fieldsReserveFree, isReserveAudienceKey,
    forbiddenReserveKeys, sellerOnlyReserveMetadataKeys, moneyJson_reserveFree]

theorem bidResult_shown {formatTimestamp : Time → String} {id : ListingId} {listing : Listing}
    {before after : AuctionFile} {command : BidCommand} {now : Time}
    (foreign : listing.sellerPubky ≠ command.sender.actor) :
    ∃ response, bidResult formatTimestamp id listing before after command now = some response := by
  obtain ⟨fields, shown, free⟩ :=
    publicProjection_shown formatTimestamp id listing (some after.auction)
  have other : ¬ (listing.saleFormat = .auction ∧ command.sender.actor = listing.sellerPubky) :=
    fun own => foreign own.2.symm
  have whole := set_reserveFree free (by decide : isReserveAudienceKey "viewer_bid" = false)
    (viewerBid_reserveFree after.auction command.maximumAmount.amountMinor
      command.maximumAmount.currency command.maximumAmount.exponent)
  simp only [bidResult, projectionForActorWithAuction, shown, Option.bind_eq_bind,
    Option.bind_some, if_neg other, whole, if_true, Option.map_some]
  exact ⟨_, rfl⟩

/-! Queries. -/

theorem projection_blind {listing : Listing} {auction : Option AuctionState}
    {viewer : Option Json} (outside : listing.sellerPubky ≠ actor)
    (first second : Option AuctionReserve) :
    projectionForActorWithAuction formatTimestamp id listing auction actor first viewer =
      projectionForActorWithAuction formatTimestamp id listing auction actor second viewer := by
  have other : ¬ (listing.saleFormat = .auction ∧ actor = listing.sellerPubky) :=
    fun own => outside own.2.symm
  simp only [projectionForActorWithAuction, if_neg other]

theorem Veil.Veiled.auction (veiled : veil.Veiled id left right) (key : ListingId) :
    (left.house.files.find? key).map AuctionFile.auction =
      (right.house.files.find? key).map AuctionFile.auction := by
  rcases rel_cases (veiled.files key) with ⟨first, second⟩ | ⟨one, two, first, second, alike⟩
  · rw [first, second]
  · rw [first, second, Option.map_some, Option.map_some, alike.auction]

theorem Veil.Veiled.bidders (veiled : veil.Veiled id left right) (key : ListingId) :
    (((left.house.files.find? key).map AuctionFile.bids).getD []).map Bid.bidderPubky =
      (((right.house.files.find? key).map AuctionFile.bids).getD []).map Bid.bidderPubky := by
  rcases rel_cases (veiled.files key) with ⟨first, second⟩ | ⟨one, two, first, second, alike⟩
  · rw [first, second]
  · rw [first, second]
    exact alike.bidders

theorem Veil.Veiled.viewerBid (veiled : veil.Veiled id left right)
    (other : veil.leader ≠ some actor) (key : ListingId) :
    MarketplaceService.viewerBid (left.house.files.find? key) actor =
      MarketplaceService.viewerBid (right.house.files.find? key) actor := by
  rcases rel_cases (veiled.files key) with ⟨first, second⟩ | ⟨one, two, first, second, alike⟩
  · rw [first, second]
  · have own := @Veil.Alike.shown _ one two alike (· == actor) (by
      intro bidder same
      rw [beq_iff_eq.mp same]
      exact under_leader other)
    rw [first, second]
    simp only [MarketplaceService.viewerBid, ownBid, Option.bind_some, own, alike.auction]

theorem Veil.Veiled.projection (veiled : veil.Veiled id left right) {listing : Listing}
    (outside : veil.reserve = true → key = id → listing.sellerPubky ≠ actor)
    (auction : Option AuctionState) (viewer : Option Json) :
    projectionForActorWithAuction formatTimestamp key listing auction actor
        ((left.house.files.find? key).bind AuctionFile.reserve) viewer =
      projectionForActorWithAuction formatTimestamp key listing auction actor
        ((right.house.files.find? key).bind AuctionFile.reserve) viewer := by
  cases hidden : (veil.under id key).reserve with
  | false =>
      rcases rel_cases (veiled.files key) with ⟨first, second⟩ | ⟨one, two, first, second, alike⟩
      · rw [first, second]
      · rw [first, second, Option.bind_some, Option.bind_some, alike.open_reserve hidden]
  | true =>
      unfold Veil.under at hidden
      split at hidden
      · rename_i same
        exact projection_blind (outside hidden same) _ _
      · cases hidden

theorem getListing_veiled (veiled : veil.Veiled id left right) (other : veil.leader ≠ some actor)
    (outside : veil.reserve = true →
      ∀ listing ∈ left.house.sys.inventory.listings.find? id, listing.sellerPubky ≠ actor) :
    left.getListing formatTimestamp key actor = right.getListing formatTimestamp key actor := by
  unfold Floor.getListing
  rw [veiled.sys]
  cases shown : (right.house.sys.inventory.listings.find? key).filter (!·.isDeleted) with
  | none => rfl
  | some listing =>
      have foreign : veil.reserve = true → key = id → listing.sellerPubky ≠ actor := by
        intro hidden same
        refine outside hidden listing ?_
        rw [veiled.sys, ← same]
        exact (Option.filter_eq_some_iff.mp shown).1
      simp only [veiled.auction key, veiled.viewerBid other key, veiled.projection foreign]

theorem listListingBids_veiled (veiled : veil.Veiled id left right) :
    left.listListingBids formatTimestamp key actor =
      right.listListingBids formatTimestamp key actor := by
  have among (bids : List Bid) : bids.any (·.bidderPubky == actor) =
      (bids.map Bid.bidderPubky).any (· == actor) := by
    rw [List.any_map]
    rfl
  have shown : ((left.house.files.find? key).map fun file =>
      file.auction.toValue formatTimestamp) =
        (right.house.files.find? key).map fun file => file.auction.toValue formatTimestamp := by
    have column := congrArg (Option.map (AuctionState.toValue formatTimestamp)) (veiled.auction key)
    simpa only [Option.map_map, Function.comp_def] using column
  unfold Floor.listListingBids
  rw [veiled.sys, veiled.history]
  simp only [among, veiled.bidders key, shown]

/-! Bids. -/

theorem bidResult_blind {listing : Listing} {before before' after after' : AuctionFile}
    {command : BidCommand} {now : Time} (foreign : listing.sellerPubky ≠ command.sender.actor)
    (auction : after.auction = after'.auction)
    (row : command.row before now = command.row before' now) :
    bidResult formatTimestamp id listing before after command now =
      bidResult formatTimestamp id listing before' after' command now := by
  unfold bidResult
  simp only [auction, row]
  rw [projection_blind foreign after.reserve after'.reserve]

def Floor.bidden (floor : Floor) (id : ListingId) (command : BidCommand) (listing : Listing)
    (file : AuctionFile) (inventory : Inventory) : Floor :=
  let now := floor.house.sys.clock
  let after := file.withBid (command.row file now) listing.unitPriceAmountMinor now
  { house :=
      { sys := { floor.house.sys with inventory := inventory }
        files := floor.house.files.set id after }
    history := floor.history.set id
      ((floor.history.find? id).getD [] ++ [command.historyRow file after now])
    notices := floor.notices ++
      outbidNotices id { listing with serverRevision := listing.serverRevision + 1 } file.auction
        after.auction command.sender.actor }

inductive BidMove (formatTimestamp : Time → String) (floor : Floor) (id : ListingId)
    (command : BidCommand) : Prop
  | refused {failure : Failure}
      (failed : floor.house.placeBid id command floor.house.sys.clock = .error failure)
      (answered : floor.placeBid formatTimestamp id command =
        (floor, floor.house.refusal id failure))
  | taken {house : House} {listing : Listing} {file : AuctionFile} {inventory : Inventory}
      {response : FloorResponse}
      (placed : floor.house.placeBid id command floor.house.sys.clock = .ok house)
      (found : floor.house.sys.inventory.listings.find? id = some listing)
      (filed : floor.house.files.find? id = some file)
      (bidding : Bidding listing file command floor.house.sys.clock)
      (moved : MarketplaceService.placeBid floor.house.sys.inventory id = .ok inventory)
      (shown : bidResult formatTimestamp id
        { listing with serverRevision := listing.serverRevision + 1 } file
        (file.withBid (command.row file floor.house.sys.clock) listing.unitPriceAmountMinor
          floor.house.sys.clock) command floor.house.sys.clock = some response)
      (answered : floor.placeBid formatTimestamp id command =
        (floor.bidden id command listing file inventory, response))

theorem placeBid_moves (formatTimestamp : Time → String) (floor : Floor) (id : ListingId)
    (command : BidCommand) : BidMove formatTimestamp floor id command := by
  cases placed : floor.house.placeBid id command floor.house.sys.clock with
  | error failure =>
      refine .refused placed ?_
      simp only [Floor.placeBid, placed]
  | ok after =>
      obtain ⟨listing, file, found, filed, bidding, moved, sys, files⟩ := placeBid_base placed
      obtain ⟨row, present, -, -, -, written⟩ := placeBid_ok moved
      obtain rfl : row = listing := Option.some.inj (present.symm.trans found)
      obtain ⟨afterSys, afterFiles⟩ := after
      simp only at sys files moved written
      subst files
      have listed : afterSys.inventory.listings.find? id =
          some { row with serverRevision := row.serverRevision + 1 } := by
        rw [written, Inventory.setListing, Keyed.Table.find?_set, if_pos rfl]
      obtain ⟨response, shown⟩ := @bidResult_shown formatTimestamp id
        { row with serverRevision := row.serverRevision + 1 } file
        (file.withBid (command.row file floor.house.sys.clock) row.unitPriceAmountMinor
          floor.house.sys.clock) command floor.house.sys.clock bidding.foreign
      refine .taken placed found filed bidding moved shown ?_
      rw [Floor.placeBid]
      simp only [placed, filed, Keyed.Table.find?_set, if_true, listed, shown, Floor.bidden, ← sys]

theorem refusal_undone (house : House) (id : ListingId) (failure : Failure) :
    (house.refusal id failure).isDone = false := by
  unfold House.refusal
  split <;> rfl

theorem placeBid_agrees (veiled : veil.Veiled id left right) {command : BidCommand} {now : Time}
    (other : (veil.under id key).leader ≠ some command.sender.actor) :
    (left.house.placeBid key command now).map (fun _ => ()) =
      (right.house.placeBid key command now).map fun _ => () := by
  have accepted : (placeAuctionBid (right.house.sys.inventory.listings.find? key)
      (left.house.files.find? key) command now).map (fun _ => ()) =
        (placeAuctionBid (right.house.sys.inventory.listings.find? key)
          (right.house.files.find? key) command now).map fun _ => () := by
    rcases rel_cases (veiled.files key) with ⟨first, second⟩ | ⟨one, two, first, second, alike⟩
    · rw [first, second]
    · rw [first, second]
      exact placeAuctionBid_alike alike other
  unfold House.placeBid
  rw [veiled.sys]
  generalize placeAuctionBid (right.house.sys.inventory.listings.find? key)
    (left.house.files.find? key) command now = first at accepted ⊢
  generalize placeAuctionBid (right.house.sys.inventory.listings.find? key)
    (right.house.files.find? key) command now = second at accepted ⊢
  cases first <;> cases second <;> cases accepted
  · rfl
  · cases MarketplaceService.placeBid right.house.sys.inventory key <;> rfl

/-- Two rows of a bid on files that are alike, apart from a hidden maximum. -/
structure SameRows (veil : Veil) (one two : BidCommand) : Prop where
  sender : one.sender = two.sender
  currency : one.maximumAmount.currency = two.maximumAmount.currency
  exponent : one.maximumAmount.exponent = two.maximumAmount.exponent
  amount : veil.leader ≠ some one.sender.actor →
    one.maximumAmount.amountMinor = two.maximumAmount.amountMinor

theorem SameRows.masked {one two : BidCommand} (same : SameRows veil one two)
    {file other : AuctionFile} (alike : veil.Alike file other) (now : Time) :
    veil.mask (one.row file now) = veil.mask (two.row other now) := by
  unfold Veil.mask BidCommand.row
  simp only [← same.sender, ← same.currency, ← same.exponent, alike.auction]
  split
  · rfl
  · rename_i shown
    rw [same.amount shown]

/-- Two bids that are taken. -/
theorem Veil.Veiled.bidden (veiled : veil.Veiled id left right) {one two : BidCommand}
    {file other : AuctionFile} {listing : Listing} {inventory : Inventory}
    (alike : (veil.under id key).Alike file other) (same : SameRows (veil.under id key) one two)
    (positive : 0 < file.auction.minimumIncrement.amountMinor)
    (leftLeads : ∀ leader ∈ (veil.under id key).leader, ∀ after ∈
      (left.bidden key one listing file inventory).house.files.find? key, after.Leads leader)
    (rightLeads : ∀ leader ∈ (veil.under id key).leader, ∀ after ∈
      (right.bidden key two listing other inventory).house.files.find? key, after.Leads leader) :
    (file.withBid (one.row file left.house.sys.clock) listing.unitPriceAmountMinor
        left.house.sys.clock).auction =
      (other.withBid (two.row other right.house.sys.clock) listing.unitPriceAmountMinor
        right.house.sys.clock).auction ∧
    veil.Veiled id (left.bidden key one listing file inventory)
      (right.bidden key two listing other inventory) := by
  have stored (floor : Floor) (command : BidCommand) (before : AuctionFile) :
      (floor.bidden key command listing before inventory).house.files.find? key =
        some (before.withBid (command.row before floor.house.sys.clock)
          listing.unitPriceAmountMinor floor.house.sys.clock) := by
    simp only [Floor.bidden, Keyed.Table.find?_set, if_true]
  have auction := @Veil.Alike.auction_withBid _ file other left.house.sys.clock alike
    (one.row file left.house.sys.clock) (two.row other left.house.sys.clock)
    (same.masked alike _) listing.unitPriceAmountMinor positive (by
      intro leader hidden
      refine ⟨leftLeads leader hidden _ (stored left one file), ?_⟩
      rw [veiled.sys]
      exact rightLeads leader hidden _ (stored right two other))
  have after := @Veil.Alike.withBid _ file other alike _ _ (same.masked alike _) _ _ auction
  rw [← veiled.sys]
  refine ⟨auction, veiled.written after ?_ ?_ ?_ rfl (by rw [Floor.bidden, veiled.sys])⟩
  · simp only [Floor.bidden, veiled.sys]
  · have row : one.historyRow file (file.withBid (one.row file left.house.sys.clock)
        listing.unitPriceAmountMinor left.house.sys.clock) left.house.sys.clock =
        two.historyRow other (other.withBid (two.row other left.house.sys.clock)
          listing.unitPriceAmountMinor left.house.sys.clock) left.house.sys.clock := by
      simp only [BidCommand.historyRow, auction]
      simp only [BidCommand.row, same.sender, same.currency, same.exponent, alike.auction]
    simp only [Floor.bidden, ← veiled.sys, veiled.history, row]
  · simp only [Floor.bidden, ← veiled.sys, veiled.notices, alike.auction, auction, same.sender]

theorem leads_under {floor : Floor}
    (leads : ∀ leader ∈ veil.leader, ∀ file ∈ floor.house.files.find? id, file.Leads leader) :
    ∀ leader ∈ (veil.under id key).leader, ∀ file ∈ floor.house.files.find? key,
      file.Leads leader := by
  intro leader hidden
  unfold Veil.under at hidden
  split at hidden
  · rename_i same
    rw [same]
    exact leads leader hidden
  · cases hidden

theorem placeBid_veiled (veiled : veil.Veiled id left right) {command : BidCommand}
    (other : (veil.under id key).leader ≠ some command.sender.actor)
    (positive : ∀ file ∈ left.house.files.find? key,
      0 < file.auction.minimumIncrement.amountMinor)
    (leftLeads : ∀ leader ∈ veil.leader, ∀ file ∈
      (left.placeBid formatTimestamp key command).1.house.files.find? id, file.Leads leader)
    (rightLeads : ∀ leader ∈ veil.leader, ∀ file ∈
      (right.placeBid formatTimestamp key command).1.house.files.find? id, file.Leads leader) :
    veil.Veiled id (left.placeBid formatTimestamp key command).1
        (right.placeBid formatTimestamp key command).1 ∧
      (left.placeBid formatTimestamp key command).2 =
        (right.placeBid formatTimestamp key command).2 := by
  have agreed := @placeBid_agrees veil id key left right veiled command
    right.house.sys.clock other
  cases placeBid_moves formatTimestamp left key command with
  | @refused failure failed answered =>
      rw [veiled.sys] at failed
      cases placeBid_moves formatTimestamp right key command with
      | @refused second again settled =>
          rw [failed, again] at agreed
          cases agreed
          rw [answered, settled]
          exact ⟨veiled, veiled.refusal key failure⟩
      | taken placed =>
          rw [failed, placed] at agreed
          cases agreed
  | @taken house listing file inventory response placed found filed bidding moved shown answered =>
      rw [veiled.sys] at placed
      cases placeBid_moves formatTimestamp right key command with
      | refused failed =>
          rw [placed, failed] at agreed
          cases agreed
      | @taken _ row twin inventory' second _ found' filed' _ moved' shown' settled =>
          rw [veiled.sys] at found moved
          obtain rfl := Option.some.inj (found.symm.trans found')
          cases moved.symm.trans moved'
          have related := veiled.files key
          rw [filed, filed'] at related
          cases related with
          | some alike =>
              rw [answered] at leftLeads ⊢
              rw [settled] at rightLeads ⊢
              obtain ⟨auction, bidden⟩ := veiled.bidden alike
                ⟨rfl, rfl, rfl, fun _ => rfl⟩ (positive file filed) (leads_under leftLeads)
                (leads_under rightLeads)
              refine ⟨bidden, ?_⟩
              rw [← veiled.sys] at shown' auction
              have row : command.row file left.house.sys.clock =
                  command.row twin left.house.sys.clock := by
                simp only [BidCommand.row, alike.auction]
              refine Option.some.inj
                (shown.symm.trans ((bidResult_blind ?_ auction row).trans shown'))
              exact bidding.foreign

theorem hiddenBid_veiled (veiled : veil.Veiled id left right) {one two : BidCommand}
    (same : SameRows veil one two)
    (positive : ∀ file ∈ left.house.files.find? id, 0 < file.auction.minimumIncrement.amountMinor)
    (leftDone : (left.placeBid formatTimestamp id one).2.isDone = true)
    (rightDone : (right.placeBid formatTimestamp id two).2.isDone = true)
    (leftLeads : ∀ leader ∈ veil.leader, ∀ file ∈
      (left.placeBid formatTimestamp id one).1.house.files.find? id, file.Leads leader)
    (rightLeads : ∀ leader ∈ veil.leader, ∀ file ∈
      (right.placeBid formatTimestamp id two).1.house.files.find? id, file.Leads leader) :
    veil.Veiled id (left.placeBid formatTimestamp id one).1
      (right.placeBid formatTimestamp id two).1 := by
  cases placeBid_moves formatTimestamp left id one with
  | refused failed answered =>
      rw [answered, refusal_undone] at leftDone
      cases leftDone
  | @taken _ listing file inventory _ _ found filed _ moved _ answered =>
      cases placeBid_moves formatTimestamp right id two with
      | refused failed settled =>
          rw [settled, refusal_undone] at rightDone
          cases rightDone
      | @taken _ row twin inventory' _ _ found' filed' _ moved' _ settled =>
          rw [veiled.sys] at found moved
          obtain rfl := Option.some.inj (found.symm.trans found')
          cases moved.symm.trans moved'
          have related := veiled.files id
          rw [filed, filed', under_self] at related
          cases related with
          | some alike =>
              rw [answered] at leftLeads ⊢
              rw [settled] at rightLeads ⊢
              rw [← under_self veil id] at alike same
              exact (veiled.bidden alike same (positive file filed) (leads_under leftLeads)
                (leads_under rightLeads)).2

/-! Registrations. -/

/-- Two registrations that differ in a hidden reserve. -/
structure SameListing (veil : Veil) (one two : AuctionRegistration) : Prop where
  record : one.record = two.record
  terms : one.terms = two.terms
  expected : one.reserve.expectedRecordRevision = two.reserve.expectedRecordRevision
  revision : one.reserve.recordRevision = two.reserve.recordRevision
  price : veil.reserve = false → one.reserve.reservePrice = two.reserve.reservePrice

theorem SameListing.refl (registration : AuctionRegistration) :
    SameListing veil registration registration :=
  ⟨rfl, rfl, rfl, rfl, fun _ => rfl⟩

theorem registeredFile_alike {first second : Option AuctionFile}
    (related : Option.Rel veil.Alike first second) {one two : AuctionRegistration}
    (same : SameListing veil one two) (now : Time) :
    veil.Alike (registeredFile first one.record one.terms one.reserve now)
      (registeredFile second two.record two.terms two.reserve now) := by
  have row : veil.Reserves
      { listingRevision := one.record.listingRevision
        recordRevision := one.reserve.recordRevision
        reservePrice := one.reserve.reservePrice }
      { listingRevision := two.record.listingRevision
        recordRevision := two.reserve.recordRevision
        reservePrice := two.reserve.reservePrice } :=
    ⟨congrArg ListingRecord.listingRevision same.record, same.revision, same.price⟩
  cases related with
  | none => exact ⟨by simp only [registeredFile, same.record, same.terms], .some row, rfl⟩
  | some alike =>
      refine ⟨?_, .some row, alike.bids⟩
      simp only [registeredFile, Option.map_some, same.record, same.terms, alike.auction]

theorem Veil.Veiled.registered (veiled : veil.Veiled id left right)
    {one two : AuctionRegistration} {sender : Sender}
    (same : SameListing (veil.under id key) one two) {first second : House}
    (leftDone : left.house.register key one sender left.house.sys.clock = .ok first)
    (rightDone : right.house.register key two sender right.house.sys.clock = .ok second) :
    veil.Veiled id { left with house := first } { right with house := second } := by
  obtain ⟨listed, sys, files, -⟩ := register_base leftDone
  obtain ⟨listed', sys', files', -⟩ := register_base rightDone
  have row : one.listed left.house.sys.clock = two.listed right.house.sys.clock := by
    simp only [AuctionRegistration.listed, same.record, same.terms, veiled.sys]
  rw [row, veiled.sys, listed'] at listed
  refine veiled.written (registeredFile_alike (veiled.files key) same left.house.sys.clock) ?_
    veiled.history veiled.notices files (by rw [veiled.sys]; exact files')
  change first.sys = second.sys
  rw [sys, sys', veiled.sys, Except.ok.inj listed]

/-- With the reserve in the open, one registration is done in both houses or
refused alike. -/
theorem register_agrees (veiled : veil.Veiled id left right)
    (shown : (veil.under id key).reserve = false) {registration : AuctionRegistration}
    {sender : Sender} {now : Time} :
    (left.house.register key registration sender now).map (fun _ => ()) =
      (right.house.register key registration sender now).map fun _ => () := by
  have gates : reserveRevisionGate (left.house.files.find? key) registration.record
        registration.reserve = reserveRevisionGate (right.house.files.find? key)
          registration.record registration.reserve ∧
      registration.editGate (right.house.sys.inventory.listings.find? key)
        (left.house.files.find? key) now =
          registration.editGate (right.house.sys.inventory.listings.find? key)
            (right.house.files.find? key) now := by
    rcases rel_cases (veiled.files key) with ⟨first, second⟩ | ⟨one, two, first, second, alike⟩
    · rw [first, second]
      exact ⟨rfl, rfl⟩
    · rw [first, second]
      have reserve := alike.open_reserve shown
      refine ⟨by simp only [reserveRevisionGate, reserve], ?_⟩
      cases right.house.sys.inventory.listings.find? key with
      | none => rfl
      | some listing =>
          simp only [AuctionRegistration.editGate, validateEdit, reserve, alike.auction]
  unfold House.register
  dsimp only
  rw [veiled.sys, gates.1, gates.2]
  cases reserveRevisionGate (right.house.files.find? key) registration.record
    registration.reserve with
  | error failure => rfl
  | ok passed =>
      cases registration.editGate (right.house.sys.inventory.listings.find? key)
        (right.house.files.find? key) now with
      | error failure => rfl
      | ok valid =>
          cases registerListing right.house.sys.inventory key (registration.listed now) sender
            true now <;> rfl

theorem register_veiled (veiled : veil.Veiled id left right)
    (shown : (veil.under id key).reserve = false) {listingId : String}
    {registration : AuctionRegistration} {sender : Sender} :
    veil.Veiled id (left.register key listingId registration sender).1
        (right.register key listingId registration sender).1 ∧
      (left.register key listingId registration sender).2 =
        (right.register key listingId registration sender).2 := by
  have agreed := @register_agrees veil id key left right veiled shown registration sender
    right.house.sys.clock
  unfold Floor.register
  split_ifs
  · exact ⟨veiled, rfl⟩
  · exact ⟨veiled, rfl⟩
  · rcases Outcome.agree_cases agreed with
      ⟨failure, first, second⟩ | ⟨house, house', first, second⟩
    · simp only [veiled.sys, first, second]
      exact ⟨veiled, veiled.refusal key failure⟩
    · rw [← veiled.sys] at first
      simp only [first, second]
      exact ⟨veiled.registered (SameListing.refl registration) first second, trivial⟩

/-- Two registrations with hidden reserves, done in both or in none. -/
theorem hiddenRegister_veiled (veiled : veil.Veiled id left right) {listingId : String}
    {one two : AuctionRegistration} {sender : Sender} (same : SameListing veil one two)
    (foreign : ∀ name, listingAggregateId (actor, name) ≠ id)
    (together : (left.register id listingId one sender).2.isDone =
      (right.register id listingId two sender).2.isDone) :
    veil.Veiled id (left.register id listingId one sender).1
        (right.register id listingId two sender).1 ∧
      (sender.actor = actor → (left.register id listingId one sender).2 =
        (right.register id listingId two sender).2) := by
  unfold Floor.register at together ⊢
  rw [same.record] at together ⊢
  by_cases own : sender.actor = two.record.sellerPubky
  · by_cases addressed : id = listingAggregateId (two.record.sellerPubky, listingId)
    · simp only [own, ne_eq, not_true_eq_false, if_false, ← addressed] at together ⊢
      refine ⟨?_, fun named => ?_⟩
      · cases first : left.house.register id one sender left.house.sys.clock with
        | error failure =>
            cases second : right.house.register id two sender right.house.sys.clock with
            | error other => exact veiled
            | ok house =>
                rw [first, second] at together
                simp only [refusal_undone] at together
                cases together
        | ok house =>
            cases second : right.house.register id two sender right.house.sys.clock with
            | error other =>
                rw [first, second] at together
                simp only [refusal_undone] at together
                cases together
            | ok house' =>
                rw [← under_self veil id] at same
                exact veiled.registered same first second
      · exact absurd (addressed.symm) (named ▸ foreign listingId)
    · simp only [own, ne_eq, not_true_eq_false, if_false, addressed, not_false_eq_true, if_true]
      exact ⟨veiled, fun _ => trivial⟩
  · simp only [ne_eq, own, not_false_eq_true, if_true]
    exact ⟨veiled, fun _ => trivial⟩

/-! Closes. -/

theorem closeGate_alike {one two : AuctionFile} (alike : veil.Alike one two)
    (listing? : Option Listing) (closer : Closer) (now : Time) :
    (∃ failure, closeGate listing? (some one) closer now = .error failure ∧
      closeGate listing? (some two) closer now = .error failure) ∨
    ∃ listing, listing? = some listing ∧
      closeGate listing? (some one) closer now = .ok (listing, one) ∧
      closeGate listing? (some two) closer now = .ok (listing, two) := by
  cases listing? with
  | none => exact .inl ⟨_, rfl, rfl⟩
  | some listing =>
      cases closer <;> simp only [closeGate, alike.auction] <;> split_ifs <;>
        first
        | exact .inl ⟨_, rfl, rfl⟩
        | exact .inr ⟨listing, rfl, rfl, rfl⟩

/-- Two closes that are done, with one winner. -/
structure ClosedAlike (veil : Veil) (left right : House) (key : ListingId)
    (first second : House) : Prop where
  sys : first.sys = second.sys
  files : ∃ listing one two winner status, right.sys.inventory.listings.find? key = some listing ∧
    left.files.find? key = some one ∧ right.files.find? key = some two ∧ veil.Alike one two ∧
    auctionWinner listing one = .ok winner ∧ auctionWinner listing two = .ok winner ∧
    first.files = left.files.set key (one.closed status) ∧
    second.files = right.files.set key (two.closed status)

theorem close_agrees (veiled : veil.Veiled id left right)
    (shown : (veil.under id key).reserve = false) (closer : Closer) (reservation : ReservationId)
    (order : OrderId) (now : Time) :
    (∃ failure, left.house.close key closer reservation order now = .error failure ∧
      right.house.close key closer reservation order now = .error failure) ∨
    ∃ first second, left.house.close key closer reservation order now = .ok first ∧
      right.house.close key closer reservation order now = .ok second ∧
      ClosedAlike (veil.under id key) left.house right.house key first second := by
  unfold House.close
  rw [veiled.sys]
  rcases rel_cases (veiled.files key) with ⟨absent, absent'⟩ | ⟨one, two, filed, filed', alike⟩
  · have shut : closeGate (right.house.sys.inventory.listings.find? key) none closer now =
        .error (.refused .notFound "The auction listing is not registered.") := by
      cases right.house.sys.inventory.listings.find? key <;> rfl
    rw [absent, absent', shut]
    exact .inl ⟨_, rfl, rfl⟩
  · rw [filed, filed']
    rcases closeGate_alike alike (right.house.sys.inventory.listings.find? key) closer now with
      ⟨failure, first, second⟩ | ⟨listing, found, first, second⟩
    · rw [first, second]
      exact .inl ⟨failure, rfl, rfl⟩
    · have won : auctionWinner listing one = auctionWinner listing two := by
        simp only [auctionWinner, alike.open_reserve shown, alike.auction]
      simp only [first, second, bind, Except.bind, won, alike.auction]
      cases winner : auctionWinner listing two with
      | error failure => exact .inl ⟨failure, rfl, rfl⟩
      | ok winner? =>
          have closed (status : AuctionStatus) (sys : Sys) :
              ClosedAlike (veil.under id key) left.house right.house key
                { sys := sys, files := left.house.files.set key (one.closed status) }
                { sys := sys, files := right.house.files.set key (two.closed status) } :=
            ⟨rfl, listing, one, two, winner?, status, found, filed, filed', alike,
              won.trans winner, winner, rfl, rfl⟩
          cases winner? with
          | none =>
              cases closeUnsold right.house.sys.inventory key with
              | error failure => exact .inl ⟨failure, rfl, rfl⟩
              | ok inventory => exact .inr ⟨_, _, rfl, rfl, closed .unsold _⟩
          | some leader =>
              cases sale : closeAuction right.house.sys.inventory key leader
                two.auction.currentPrice.amountMinor reservation order now with
              | error failure =>
                  simp only [sale]
                  exact .inl ⟨failure, rfl, rfl⟩
              | ok sold =>
                  cases inserted : right.house.sys.insert sold.2 [sold.1] with
                  | none =>
                      simp only [sale, inserted]
                      exact .inl ⟨_, rfl, rfl⟩
                  | some sys =>
                      simp only [sale, inserted]
                      exact .inr ⟨_, _, rfl, rfl, closed .sold sys⟩

theorem closeNotices_alike {one two : AuctionFile} (alike : veil.Alike one two)
    (winner : Option Pubky) :
    closeNotices key one winner actor = closeNotices key two winner actor := by
  unfold closeNotices
  rw [alike.auction, alike.bidders]

theorem close_veiled (veiled : veil.Veiled id left right)
    (shown : (veil.under id key).reserve = false) {closer : Closer} {reservation : ReservationId}
    {order : OrderId} :
    veil.Veiled id (left.close key closer reservation order).1
        (right.close key closer reservation order).1 ∧
      (left.close key closer reservation order).2 =
        (right.close key closer reservation order).2 := by
  unfold Floor.close
  rcases close_agrees veiled shown closer reservation order right.house.sys.clock with
    ⟨failure, first, second⟩ | ⟨house, house', first, second, closed⟩
  · rw [veiled.sys]
    simp only [first, second]
    exact ⟨veiled, veiled.refusal key failure⟩
  · obtain ⟨sys, listing, one, two, winner, status, found, filed, filed', alike, won, won', files,
      files'⟩ := closed
    rw [veiled.sys]
    simp only [first, second, filed, filed', found, won, won']
    refine ⟨veiled.written (alike.closed status) sys veiled.history ?_ files files', trivial⟩
    change left.notices ++ _ = right.notices ++ _
    rw [veiled.notices, closeNotices_alike alike]

theorem close_undone {floor : Floor} {closer : Closer} {reservation : ReservationId}
    {order : OrderId} (undone : (floor.close key closer reservation order).2.isDone = false) :
    (floor.close key closer reservation order).1 = floor := by
  unfold Floor.close at undone ⊢
  split at undone
  · rfl
  · split at undone
    · split at undone
      · simp_all
      · cases undone
    · rfl

theorem foreignClose_veiled (veiled : veil.Veiled id left right) {sender : Sender}
    (outside : ∀ listing ∈ left.house.sys.inventory.listings.find? key,
      listing.sellerPubky ≠ sender.actor) {reservation : ReservationId} {order : OrderId} :
    (left.close key (.seller sender) reservation order).2 =
      (right.close key (.seller sender) reservation order).2 := by
  have refused (floor : Floor) (same : floor.house.sys = left.house.sys) :
      (floor.close key (.seller sender) reservation order).2 =
        if (left.house.sys.inventory.listings.find? key).isSome &&
            (floor.house.files.find? key).isSome then
          floor.house.refusal key
            (.refused .unauthorized "Only the seller may close this sandbox auction.")
        else
          floor.house.refusal key
            (.refused .notFound "The auction listing is not registered.") := by
    unfold Floor.close House.close
    rw [same]
    cases found : left.house.sys.inventory.listings.find? key with
    | none => rfl
    | some listing =>
        cases floor.house.files.find? key with
        | none => rfl
        | some file =>
            have gate : closeGate (some listing) (some file) (.seller sender)
                left.house.sys.clock = .error (.refused .unauthorized
                  "Only the seller may close this sandbox auction.") :=
              if_pos (outside listing found)
            rw [gate]
            rfl
  have filed : (left.house.files.find? key).isSome = (right.house.files.find? key).isSome := by
    rcases rel_cases (veiled.files key) with ⟨first, second⟩ | ⟨one, two, first, second, -⟩ <;>
      rw [first, second]
    rfl
  rw [refused left rfl, refused right veiled.sys.symm, filed]
  split <;> exact veiled.refusal key _

end MarketplaceService
