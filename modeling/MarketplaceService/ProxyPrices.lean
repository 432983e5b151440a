import MarketplaceService.AuctionFiles
import MarketplaceService.Lib.Ranking

/-!
The price of a proxy auction. The ranking of the bids is a ranking by bidder of
the general kind, so the leader and the runner-up are known from the whole
history; the visible price is what these two make. Over whole runs the price is
the one the recorded bids call for and every accepted maximum is an increment
above the opening price, so a bid never lowers the price.
-/

namespace MarketplaceService

/-! The ranking. -/

instance : Std.Total Bid.comesFirst where
  total left right := by
    unfold Bid.comesFirst
    omega

instance : IsTrans Bid Bid.comesFirst where
  trans first second third ahead further := by
    unfold Bid.comesFirst at *
    omega

theorem outranks_iff (bid current : Bid) :
    bid.outranks current = true ↔ ¬ current.comesFirst bid := by
  simp only [Bid.outranks, Bool.or_eq_true, Bool.and_eq_true, decide_eq_true_eq, beq_iff_eq,
    Bid.comesFirst]
  omega

theorem represent_eq (bid : Bid) (kept : List Bid) :
    represent bid kept = Ranking.represent Bid.bidderPubky Bid.comesFirst bid kept := by
  induction kept with
  | nil => rfl
  | cons current rest ih =>
      unfold represent Ranking.represent
      rw [ih]
      by_cases ahead : current.comesFirst bid
      · have stays : ¬ bid.outranks current = true := fun out => (outranks_iff _ _).mp out ahead
        simp [ahead, stays]
      · have moves : bid.outranks current = true := (outranks_iff _ _).mpr ahead
        simp [ahead, moves]

theorem rankedBidderMaximums_eq (bids : List Bid) :
    rankedBidderMaximums bids = Ranking.ranked Bid.bidderPubky Bid.comesFirst bids := by
  unfold rankedBidderMaximums Ranking.ranked Ranking.representatives
  simp only [represent_eq]

theorem bid_standings (bids : List Bid) :
    Ranking.Standings Bid.bidderPubky Bid.comesFirst bids (rankedBidderMaximums bids) := by
  rw [rankedBidderMaximums_eq]
  exact Ranking.standings bids

theorem comesFirst_maximum {left right : Bid} (ahead : left.comesFirst right) :
    right.maximumAmountMinor ≤ left.maximumAmountMinor := by
  unfold Bid.comesFirst at ahead
  omega

theorem foldl_max_le {amounts : List ℕ} {start bound : ℕ} (low : start ≤ bound)
    (all : ∀ amount ∈ amounts, amount ≤ bound) : amounts.foldl max start ≤ bound := by
  induction amounts generalizing start with
  | nil => exact low
  | cons head rest ih =>
      apply ih (max_le low (all head (by simp)))
      exact fun amount member => all amount (List.mem_cons_of_mem _ member)

theorem le_foldl_max (amounts : List ℕ) (start : ℕ) :
    start ≤ amounts.foldl max start ∧ ∀ amount ∈ amounts, amount ≤ amounts.foldl max start := by
  induction amounts generalizing start with
  | nil => simp
  | cons head rest ih =>
      obtain ⟨base, all⟩ := ih (max start head)
      refine ⟨(le_max_left _ _).trans base, ?_⟩
      intro amount member
      rcases List.mem_cons.mp member with rfl | tail
      · exact (le_max_right _ _).trans base
      · exact all amount tail

theorem bidderPreviousMaximum_leader {bids : List Bid} {leader : Bid} (member : leader ∈ bids)
    (leads : ∀ bid ∈ bids, leader.comesFirst bid) :
    bidderPreviousMaximum bids leader.bidderPubky = leader.maximumAmountMinor := by
  unfold bidderPreviousMaximum
  apply le_antisymm
  · refine foldl_max_le (Nat.zero_le _) ?_
    intro amount listed
    obtain ⟨bid, own, rfl⟩ := List.mem_map.mp listed
    exact comesFirst_maximum (leads bid (List.mem_filter.mp own).1)
  · refine (le_foldl_max _ 0).2 _ (List.mem_map.mpr ⟨leader, ?_, rfl⟩)
    exact List.mem_filter.mpr ⟨member, by simp⟩

/-! The price. -/

/-- An accepted maximum is an increment above the visible price: the cap of the
threshold is out of a command's reach. -/
theorem personalMinimum_raises {price increment previous maximum : ℕ}
    (enough : personalMinimumNextBid price increment previous ≤ maximum)
    (safe : maximum ≤ maxSafeInteger) : price + increment ≤ maximum := by
  have visible : saturatingAdd price increment ≤ maximum := by
    unfold personalMinimumNextBid at enough
    simp only at enough
    split at enough
    · exact enough
    · exact (le_max_left _ _).trans enough
  unfold saturatingAdd at visible
  have reach : maxSafeInteger < i64Max := by decide
  omega

/-- The price is the one the bids call for, and each maximum is an increment
above the opening price. -/
structure Priced (unitPriceMinor : ℕ) (file : AuctionFile) : Prop where
  price : file.auction.currentPrice.amountMinor = visibleAmount (rankedBidderMaximums file.bids)
    file.auction.minimumIncrement.amountMinor unitPriceMinor
  above : ∀ bid ∈ file.bids,
    unitPriceMinor + file.auction.minimumIncrement.amountMinor ≤ bid.maximumAmountMinor

theorem visibleAmount_floor {bids : List Bid} {increment unitPriceMinor : ℕ}
    (above : ∀ bid ∈ bids, unitPriceMinor + increment ≤ bid.maximumAmountMinor) :
    unitPriceMinor ≤ visibleAmount (rankedBidderMaximums bids) increment unitPriceMinor := by
  have standings := bid_standings bids
  cases ranked : rankedBidderMaximums bids with
  | nil => exact Nat.le_refl _
  | cons leader others =>
      rw [ranked] at standings
      cases standings with
      | alone member leads => exact Nat.le_refl _
      | led member second apart leads follows =>
          have top := above _ member
          have next := above _ second
          simp only [visibleAmount]
          omega

theorem visibleAmount_rises {bids : List Bid} {bid : Bid} {increment unitPriceMinor : ℕ}
    (above : ∀ bid ∈ bids, unitPriceMinor + increment ≤ bid.maximumAmountMinor)
    (raises : unitPriceMinor + increment ≤ bid.maximumAmountMinor) :
    visibleAmount (rankedBidderMaximums bids) increment unitPriceMinor ≤
      visibleAmount (rankedBidderMaximums (bids ++ [bid])) increment unitPriceMinor := by
  have grown : ∀ other ∈ bids ++ [bid],
      unitPriceMinor + increment ≤ other.maximumAmountMinor := by
    intro other member
    rcases List.mem_append.mp member with before | here
    · exact above other before
    · rw [List.mem_singleton.mp here]
      exact raises
  have floor := visibleAmount_floor grown
  have before := bid_standings bids
  have after := bid_standings (bids ++ [bid])
  have kept {other : Bid} (member : other ∈ bids) : other ∈ bids ++ [bid] :=
    List.mem_append_left _ member
  cases ranked : rankedBidderMaximums bids with
  | nil => simpa [visibleAmount] using floor
  | cons leader others =>
      rw [ranked] at before
      cases before with
      | alone member leads => simpa [visibleAmount] using floor
      | @led _ runnerUp rest member second apart leads follows =>
          cases again : rankedBidderMaximums (bids ++ [bid]) with
          | nil =>
              rw [again] at after
              cases after with
              | empty none => cases (none ▸ kept member : leader ∈ ([] : List Bid))
          | cons top tail =>
              rw [again] at after
              cases after with
              | alone _ alike =>
                  -- two bidders stood before, so one bidder cannot stand alone
                  have left := (alike leader (kept member)).1
                  have right := (alike runnerUp (kept second)).1
                  exact absurd (right.trans left.symm) apart
              | @led _ next rest _ _ _ tops nexts =>
                  have high := comesFirst_maximum (tops leader (kept member))
                  simp only [visibleAmount]
                  by_cases deposed : leader.bidderPubky = top.bidderPubky
                  · have other : runnerUp.bidderPubky ≠ top.bidderPubky := deposed ▸ apart
                    have low := comesFirst_maximum (nexts runnerUp (kept second) other)
                    omega
                  · have low := comesFirst_maximum (nexts leader (kept member) deposed)
                    omega

/-- What an accepted bid leaves: the leader has the highest maximum, the first
of equals; the price lies between the opening price and the leader's maximum,
not below any other maximum, and not below what it was. -/
structure PriceLaw (unitPriceMinor priceBefore : ℕ) (file : AuctionFile) (leader : Pubky) :
    Prop where
  leads : ∃ lead ∈ file.bids, lead.bidderPubky = leader ∧ ∀ bid ∈ file.bids, lead.comesFirst bid
  floor : unitPriceMinor ≤ file.auction.currentPrice.amountMinor
  ceiling : file.auction.currentPrice.amountMinor ≤ bidderPreviousMaximum file.bids leader
  others : ∀ bidder, bidder ≠ leader →
    bidderPreviousMaximum file.bids bidder ≤ file.auction.currentPrice.amountMinor
  rises : priceBefore ≤ file.auction.currentPrice.amountMinor

theorem bidderPreviousMaximum_le {bids : List Bid} {bidder : Pubky} {bound : ℕ}
    (all : ∀ bid ∈ bids, bid.bidderPubky = bidder → bid.maximumAmountMinor ≤ bound) :
    bidderPreviousMaximum bids bidder ≤ bound := by
  refine foldl_max_le (Nat.zero_le _) ?_
  intro amount listed
  obtain ⟨bid, own, rfl⟩ := List.mem_map.mp listed
  obtain ⟨member, named⟩ := List.mem_filter.mp own
  exact all bid member (by simpa using named)

section Bids

variable {file : AuctionFile} {bid : Bid} {unitPriceMinor : ℕ} {now : Time}

theorem Priced.withBid (priced : Priced unitPriceMinor file)
    (raises : file.auction.currentPrice.amountMinor + file.auction.minimumIncrement.amountMinor ≤
      bid.maximumAmountMinor) : Priced unitPriceMinor (file.withBid bid unitPriceMinor now) := by
  refine ⟨rfl, ?_⟩
  intro other member
  have floor := visibleAmount_floor priced.above
  rw [← priced.price] at floor
  change other ∈ file.bids ++ [bid] at member
  rcases List.mem_append.mp member with before | here
  · exact priced.above other before
  · rw [List.mem_singleton.mp here]
    change unitPriceMinor + file.auction.minimumIncrement.amountMinor ≤ _
    omega

theorem Priced.lawful (priced : Priced unitPriceMinor file)
    (raises : file.auction.currentPrice.amountMinor + file.auction.minimumIncrement.amountMinor ≤
      bid.maximumAmountMinor) :
    ∃ leader, (file.withBid bid unitPriceMinor now).auction.leaderPubky = some leader ∧
      PriceLaw unitPriceMinor file.auction.currentPrice.amountMinor
        (file.withBid bid unitPriceMinor now) leader := by
  have after := @Priced.withBid file bid unitPriceMinor now priced raises
  have above : ∀ other ∈ file.bids ++ [bid],
      unitPriceMinor + file.auction.minimumIncrement.amountMinor ≤ other.maximumAmountMinor :=
    after.above
  have floor := visibleAmount_floor above
  have first := visibleAmount_floor priced.above
  rw [← priced.price] at first
  have rises := visibleAmount_rises priced.above
    (show unitPriceMinor + file.auction.minimumIncrement.amountMinor ≤ bid.maximumAmountMinor by
      omega)
  rw [← priced.price] at rises
  have price : (file.withBid bid unitPriceMinor now).auction.currentPrice.amountMinor =
      visibleAmount (rankedBidderMaximums (file.bids ++ [bid]))
        file.auction.minimumIncrement.amountMinor unitPriceMinor := rfl
  have standings := bid_standings (file.bids ++ [bid])
  cases ranked : rankedBidderMaximums (file.bids ++ [bid]) with
  | nil =>
      rw [ranked] at standings
      cases standings with
      | empty none => simp at none
  | cons leader others =>
      have named : (file.withBid bid unitPriceMinor now).auction.leaderPubky =
          some leader.bidderPubky := by
        simp [AuctionFile.withBid, AuctionState.withBid, ranked]
      refine ⟨leader.bidderPubky, named, ?_⟩
      rw [ranked] at standings price floor rises
      cases standings with
      | alone member leads =>
          have highest := bidderPreviousMaximum_leader member fun other known =>
            (leads other known).2
          refine ⟨⟨leader, member, rfl, fun other known => (leads other known).2⟩, ?_, ?_, ?_, ?_⟩
          · rw [price]
            exact floor
          · change _ ≤ bidderPreviousMaximum (file.bids ++ [bid]) leader.bidderPubky
            rw [price, highest]
            have own := above leader member
            simp only [visibleAmount]
            omega
          · intro bidder other
            refine bidderPreviousMaximum_le fun known listed own => ?_
            exact absurd (own.symm.trans (leads known listed).1) other
          · rw [price]
            exact rises
      | led member second apart leads follows =>
          have highest := bidderPreviousMaximum_leader member leads
          refine ⟨⟨leader, member, rfl, leads⟩, ?_, ?_, ?_, ?_⟩
          · rw [price]
            exact floor
          · change _ ≤ bidderPreviousMaximum (file.bids ++ [bid]) leader.bidderPubky
            rw [price, highest]
            exact min_le_left _ _
          · intro bidder other
            refine bidderPreviousMaximum_le fun known listed own => ?_
            have behind := comesFirst_maximum (follows known listed (own ▸ other))
            have below := comesFirst_maximum (leads _ second)
            rw [price]
            simp only [visibleAmount]
            omega
          · rw [price]
            exact rises

end Bids

/-! Over whole runs. -/

def PricedHouse (house : House) : Prop :=
  ∀ id lot file, house.lotOf id = some lot → house.files.find? id = some file →
    Priced lot.unitPrice.amountMinor file

theorem PricedHouse.step {references : References} {house after : House} {action : HouseAction}
    (priced : PricedHouse house) (catalogued : Catalogued house)
    (sound : ∀ id cell, house.sys.cells.find? id = some cell → Sound cell)
    (stepped : house.step references action = some after) : PricedHouse after := by
  intro id lot file listed filed
  cases house_lots catalogued sound stepped id with
  | kept sameLot sameFile =>
      exact priced id lot file (sameLot.symm.trans listed) (sameFile.symm.trans filed)
  | opened unlisted opens opened =>
      obtain rfl := Option.some.inj (opens.symm.trans listed)
      obtain rfl := Option.some.inj (opened.symm.trans filed)
      exact ⟨rfl, fun bid member => by cases member⟩
  | edited before stored price lotAfter fileAfter =>
      obtain rfl := Option.some.inj (lotAfter.symm.trans listed)
      obtain rfl := Option.some.inj (fileAfter.symm.trans filed)
      have known := priced id _ _ before stored
      exact ⟨known.price, known.above⟩
  | bid found stored bidding sameLot fileAfter =>
      obtain rfl := Option.some.inj (fileAfter.symm.trans filed)
      have before := lotOf_found found bidding.format
      obtain rfl := Option.some.inj (before.symm.trans (sameLot.symm.trans listed))
      exact (priced id _ _ before stored).withBid
        (personalMinimum_raises bidding.enough (BidCommand.safe _))
  | closed before stored active ended lotAfter fileAfter =>
      obtain rfl := Option.some.inj (lotAfter.symm.trans listed)
      obtain rfl := Option.some.inj (fileAfter.symm.trans filed)
      have known := priced id _ _ before stored
      exact ⟨known.price, known.above⟩

theorem reachable_priced {references : References} {allowed : House → HouseAction → Prop}
    {house : House} (reached : Runs.Reachable (auctionHouse references) allowed house) :
    PricedHouse house := by
  refine Runs.invariant_under (auctionHouse references) allowed
    (fun house => Catalogued house ∧ ∀ id cell, house.sys.cells.find? id = some cell → Sound cell)
    PricedHouse ?_ ?_ ?_ reached
  · intro house reached
    exact ⟨reachable_catalogued reached,
      fun _ _ found => reachable_sound (house_reachable reached) found⟩
  · intro house init
    rw [show house = emptyHouse from init]
    intro id lot file listed
    cases listed
  · intro before action after known priced _ stepped
    exact priced.step known.1 known.2 stepped

/-- After every accepted bid of every run the leader and the price are lawful. -/
theorem proxy_price_law (references : References) (house after : House)
    (reached : Runs.Reachable (auctionHouse references) Runs.anyStep house) (id : ListingId)
    (command : BidCommand)
    (placed : house.step references (.placeBid id command) = some after) :
    ∃ listing ∈ after.sys.inventory.listings.find? id, ∃ before ∈ house.files.find? id,
      ∃ file ∈ after.files.find? id, ∃ leader ∈ file.auction.leaderPubky,
        file.bids = before.bids ++ [command.row before house.sys.clock] ∧
          PriceLaw listing.unitPriceAmountMinor before.auction.currentPrice.amountMinor file
            leader := by
  obtain ⟨listing, file, found, filed, bidding, moved, -, files⟩ :=
    placeBid_base (Outcome.toOption_some placed)
  obtain ⟨row, present, -, -, -, written⟩ := placeBid_ok moved
  obtain rfl : row = listing := Option.some.inj (present.symm.trans found)
  have priced : Priced row.unitPriceAmountMinor file :=
    reachable_priced reached id _ file (lotOf_found found bidding.format) filed
  obtain ⟨leader, named, lawful⟩ := @Priced.lawful file (command.row file house.sys.clock) _
    house.sys.clock priced
    (personalMinimum_raises bidding.enough command.safe)
  refine ⟨{ row with serverRevision := row.serverRevision + 1 }, ?_, file, filed, _, ?_, leader,
    named, rfl, lawful⟩
  · rw [Option.mem_def, written, Inventory.setListing, Keyed.Table.find?_set, if_pos rfl]
  · rw [Option.mem_def, files, Keyed.Table.find?_set, if_pos rfl]

/-- Two bidders on the lamp, and the second one's bid is on its way. -/
def contestedLamp : List HouseAction :=
  [lampAuction 0 100 lamp_running, lampBid "alice" 3000 1 lampMaximum_safe lampMaximum_pos]

/-- The second bidder leads at an increment over the first one's maximum. -/
theorem contested_lamp_price :
    ∃ house, Runs.Reachable (auctionHouse sampleReferences) Runs.anyStep house ∧
      ∃ after, house.step sampleReferences (lampBid "bob" 4000 2) = some after ∧
        ∃ file ∈ after.files.find? "lamp", file.auction.currentPrice.amountMinor = 3100 ∧
          PriceLaw 2500 2500 file "bob" := by
  obtain ⟨house, reached, after, stepped, shown⟩ :=
    Runs.exists_reachable_of_run (auctionHouse sampleReferences) rfl contestedLamp
      (fun house => ∃ after ∈ house.step sampleReferences (lampBid "bob" 4000 2),
        ((after.sys.inventory.listings.find? "lamp").map Listing.unitPriceAmountMinor,
          (house.files.find? "lamp").map fun file => file.auction.currentPrice.amountMinor,
          (after.files.find? "lamp").map fun file =>
            (file.auction.currentPrice.amountMinor, file.auction.leaderPubky)) =
          (some 2500, some 2500, some (3100, some "bob")))
      (Runs.meets_anyStep _ _ _) (by decide +kernel)
  obtain ⟨listing, found, before, stored, file, filed, leader, named, -, lawful⟩ :=
    proxy_price_law sampleReferences house after reached "lamp" _ stepped
  rw [Option.mem_def] at found stored filed named
  simp only [found, stored, filed, Option.map_some, Prod.mk.injEq, Option.some.injEq] at shown
  obtain ⟨unit, opening, price, leading⟩ := shown
  obtain rfl : leader = "bob" := Option.some.inj (named.symm.trans leading)
  rw [unit, opening] at lawful
  exact ⟨house, reached, after, stepped, file, filed, price, lawful⟩

end MarketplaceService
