import MarketplaceService.AuctionFloor

/-!
What one auction may hide, and files that differ in no more. A veil hides the
reserve of an auction, or the maximums of one bidder, or both. Files that agree
on all that the veil leaves take a bid alike, and where all the others stay an
increment behind the hidden bidder they come to one price: that price is made
by the others.
-/

namespace MarketplaceService

/-! What is hidden. -/

structure Veil where
  reserve : Bool
  leader : Option Pubky

/-- The bid without a hidden maximum. -/
def Veil.mask (veil : Veil) (bid : Bid) : Bid :=
  if veil.leader = some bid.bidderPubky then { bid with maximumAmountMinor := 0 } else bid

/-- Two reserve rows that differ in a hidden price. -/
def Veil.Reserves (veil : Veil) (one two : AuctionReserve) : Prop :=
  one.listingRevision = two.listingRevision ∧ one.recordRevision = two.recordRevision ∧
    (veil.reserve = false → one.reservePrice = two.reservePrice)

structure Veil.Alike (veil : Veil) (one two : AuctionFile) : Prop where
  auction : one.auction = two.auction
  reserve : Option.Rel veil.Reserves one.reserve two.reserve
  bids : one.bids.map veil.mask = two.bids.map veil.mask

/-- Only the one auction has something to hide. -/
def Veil.under (veil : Veil) (id key : ListingId) : Veil :=
  if key = id then veil else { reserve := false, leader := none }

/-- Two floors that differ in what is hidden of one auction. -/
structure Veil.Veiled (veil : Veil) (id : ListingId) (left right : Floor) : Prop where
  sys : left.house.sys = right.house.sys
  history : left.history = right.history
  notices : left.notices = right.notices
  files : ∀ key, Option.Rel (veil.under id key).Alike (left.house.files.find? key)
    (right.house.files.find? key)

theorem rel_cases {α β : Type} {related : α → β → Prop} {one : Option α} {two : Option β}
    (rel : Option.Rel related one two) :
    one = none ∧ two = none ∨ ∃ a b, one = some a ∧ two = some b ∧ related a b := by
  cases rel with
  | none => exact .inl ⟨rfl, rfl⟩
  | some same => exact .inr ⟨_, _, rfl, rfl, same⟩

variable {veil : Veil} {id : ListingId} {left right : Floor}

/-! Files that are alike. -/

section Files

variable {one two : AuctionFile}

theorem Veil.Reserves.refl (row : AuctionReserve) : veil.Reserves row row :=
  ⟨rfl, rfl, fun _ => rfl⟩

theorem Veil.Alike.refl (file : AuctionFile) : veil.Alike file file := by
  refine ⟨rfl, ?_, rfl⟩
  cases file.reserve with
  | none => exact .none
  | some row => exact .some (Veil.Reserves.refl row)

theorem mask_bidder (bid : Bid) : (veil.mask bid).bidderPubky = bid.bidderPubky := by
  unfold Veil.mask
  split <;> rfl

theorem mask_sequence (bid : Bid) : (veil.mask bid).sequence = bid.sequence := by
  unfold Veil.mask
  split <;> rfl

theorem mask_open {bid : Bid} (shown : veil.leader ≠ some bid.bidderPubky) : veil.mask bid = bid :=
  if_neg shown

theorem Veil.Alike.bidders (alike : veil.Alike one two) :
    one.bids.map Bid.bidderPubky = two.bids.map Bid.bidderPubky := by
  have masked := congrArg (List.map Bid.bidderPubky) alike.bids
  simpa only [List.map_map, Function.comp_def, mask_bidder] using masked

theorem Veil.Alike.sequences (alike : veil.Alike one two) :
    one.bids.map Bid.sequence = two.bids.map Bid.sequence := by
  have masked := congrArg (List.map Bid.sequence) alike.bids
  simpa only [List.map_map, Function.comp_def, mask_sequence] using masked

theorem Veil.Alike.shown (alike : veil.Alike one two) {bidders : Pubky → Bool}
    (apart : ∀ bidder, bidders bidder = true → veil.leader ≠ some bidder) :
    one.bids.filter (fun bid => bidders bid.bidderPubky) =
      two.bids.filter (fun bid => bidders bid.bidderPubky) := by
  have unmasked (bids : List Bid) :
      (bids.map veil.mask).filter (fun bid => bidders bid.bidderPubky) =
        bids.filter (fun bid => bidders bid.bidderPubky) := by
    induction bids with
    | nil => rfl
    | cons bid rest ih =>
        rw [List.map_cons, List.filter_cons, List.filter_cons, mask_bidder, ih]
        by_cases picked : bidders bid.bidderPubky = true
        · rw [if_pos picked, if_pos picked, mask_open (apart _ picked)]
        · rw [if_neg picked, if_neg picked]
  rw [← unmasked, alike.bids, unmasked]

theorem Veil.Alike.maximum (alike : veil.Alike one two) {actor : Pubky}
    (other : veil.leader ≠ some actor) :
    bidderPreviousMaximum one.bids actor = bidderPreviousMaximum two.bids actor := by
  unfold bidderPreviousMaximum
  rw [@Veil.Alike.shown veil one two alike (· == actor)]
  intro bidder same
  rw [beq_iff_eq.mp same]
  exact other

theorem Veil.Alike.reserved (alike : veil.Alike one two) :
    one.reserve.isNone = two.reserve.isNone := by
  rcases rel_cases alike.reserve with ⟨first, second⟩ | ⟨row, other, first, second, -⟩ <;>
    rw [first, second]
  rfl

theorem Veil.Alike.open_reserve (alike : veil.Alike one two) (shown : veil.reserve = false) :
    one.reserve = two.reserve := by
  rcases rel_cases alike.reserve with ⟨first, second⟩ | ⟨row, other, first, second, same⟩
  · rw [first, second]
  · obtain ⟨listing, record, price⟩ := same
    rw [first, second, Option.some.injEq]
    cases row
    cases other
    rw [AuctionReserve.mk.injEq]
    exact ⟨listing, record, price shown⟩

theorem Veil.Alike.withBid (alike : veil.Alike one two) {first second : Bid}
    (masked : veil.mask first = veil.mask second) {unitPriceMinor : ℕ} {now : Time}
    (auction : (one.withBid first unitPriceMinor now).auction =
      (two.withBid second unitPriceMinor now).auction) :
    veil.Alike (one.withBid first unitPriceMinor now) (two.withBid second unitPriceMinor now) := by
  refine ⟨auction, alike.reserve, ?_⟩
  change (one.bids ++ [first]).map veil.mask = (two.bids ++ [second]).map veil.mask
  rw [List.map_append, List.map_append, alike.bids, List.map_singleton, List.map_singleton, masked]

theorem Veil.Alike.closed (alike : veil.Alike one two) (status : AuctionStatus) :
    veil.Alike (one.closed status) (two.closed status) := by
  refine ⟨?_, alike.reserve, alike.bids⟩
  unfold AuctionFile.closed
  rw [alike.auction]

theorem Veil.Alike.open_bids (alike : veil.Alike one two) (shown : veil.leader = none) :
    one.bids = two.bids := by
  have everything := @Veil.Alike.shown veil one two alike (fun _ => true)
    (fun bidder _ => by simp [shown])
  simpa using everything

end Files

/-! Floors under a veil. -/

theorem Veil.Veiled.refl (floor : Floor) : veil.Veiled id floor floor := by
  refine ⟨rfl, rfl, rfl, fun key => ?_⟩
  cases floor.house.files.find? key with
  | none => exact .none
  | some file => exact .some (Veil.Alike.refl file)

theorem Veil.Veiled.written (veiled : veil.Veiled id left right) {key : ListingId}
    {one two : AuctionFile} (alike : (veil.under id key).Alike one two) {first second : Floor}
    (sys : first.house.sys = second.house.sys) (history : first.history = second.history)
    (notices : first.notices = second.notices)
    (leftFiles : first.house.files = left.house.files.set key one)
    (rightFiles : second.house.files = right.house.files.set key two) :
    veil.Veiled id first second := by
  refine ⟨sys, history, notices, fun other => ?_⟩
  rw [leftFiles, rightFiles, Keyed.Table.find?_set, Keyed.Table.find?_set]
  split
  · rename_i same
    subst same
    exact .some alike
  · exact veiled.files other

theorem Veil.Veiled.refusal (veiled : veil.Veiled id left right) (key : ListingId)
    (failure : Failure) : left.house.refusal key failure = right.house.refusal key failure := by
  unfold House.refusal
  rw [veiled.sys]

theorem under_leader {veil : Veil} {id key : ListingId} {actor : Pubky}
    (other : veil.leader ≠ some actor) : (veil.under id key).leader ≠ some actor := by
  unfold Veil.under
  split
  · exact other
  · exact nofun

theorem under_self (veil : Veil) (id : ListingId) : veil.under id id = veil := if_pos rfl

/-! A leader whom nobody presses. -/

/-- Every other bidder's maximum stays an increment behind the leader's. -/
def AuctionFile.Leads (file : AuctionFile) (leader : Pubky) : Prop :=
  ∀ bid ∈ file.bids, bid.bidderPubky ≠ leader →
    bid.maximumAmountMinor + file.auction.minimumIncrement.amountMinor ≤
      bidderPreviousMaximum file.bids leader

instance (file : AuctionFile) (leader : Pubky) : Decidable (file.Leads leader) :=
  inferInstanceAs (Decidable (∀ bid ∈ file.bids, bid.bidderPubky ≠ leader →
    bid.maximumAmountMinor + file.auction.minimumIncrement.amountMinor ≤
      bidderPreviousMaximum file.bids leader))

def othersBids (bids : List Bid) (leader : Pubky) : List Bid :=
  bids.filter fun bid => bid.bidderPubky != leader

/-- The price that the others make. -/
def pressedAmount (others : List Bid) (minimumIncrementMinor unitPriceMinor : ℕ) : ℕ :=
  if others = [] then unitPriceMinor
  else (others.map Bid.maximumAmountMinor).foldl max 0 + minimumIncrementMinor

section Leader

variable {bids : List Bid} {leader : Pubky} {increment : ℕ}

theorem leader_ranks {first : Bid} (positive : 0 < increment)
    (leads : ∀ bid ∈ bids, bid.bidderPubky ≠ leader →
      bid.maximumAmountMinor + increment ≤ bidderPreviousMaximum bids leader)
    (member : first ∈ bids) (ahead : ∀ bid ∈ bids, first.comesFirst bid) :
    first.bidderPubky = leader := by
  by_contra other
  have behind := leads first member other
  have bounded : bidderPreviousMaximum bids leader ≤ first.maximumAmountMinor :=
    bidderPreviousMaximum_le fun bid listed _ => comesFirst_maximum (ahead bid listed)
  omega

theorem leader_price (positive : 0 < increment) (unitPriceMinor : ℕ)
    (leads : ∀ bid ∈ bids, bid.bidderPubky ≠ leader →
      bid.maximumAmountMinor + increment ≤ bidderPreviousMaximum bids leader)
    (some : bids ≠ []) :
    (rankedBidderMaximums bids).head?.map Bid.bidderPubky = .some leader ∧
      visibleAmount (rankedBidderMaximums bids) increment unitPriceMinor =
        pressedAmount (othersBids bids leader) increment unitPriceMinor := by
  have standings := bid_standings bids
  cases ranked : rankedBidderMaximums bids with
  | nil =>
      rw [ranked] at standings
      cases standings with
      | empty none => exact absurd none some
  | cons first rest =>
      rw [ranked] at standings
      cases standings with
      | alone member alike =>
          have named := leader_ranks positive leads member fun bid listed => (alike bid listed).2
          have nobody : othersBids bids leader = [] := by
            refine List.filter_eq_nil_iff.mpr fun bid listed => ?_
            simp [(alike bid listed).1, named]
          exact ⟨by simp [named], by rw [nobody]; rfl⟩
      | @led _ next tail member second apart ahead follows =>
          have named := leader_ranks positive leads member ahead
          have highest := bidderPreviousMaximum_leader member ahead
          rw [named] at highest apart follows
          have pressed := leads next second apart
          rw [highest] at pressed
          have other : next ∈ othersBids bids leader :=
            List.mem_filter.mpr ⟨second, by simpa using apart⟩
          have most : ((othersBids bids leader).map Bid.maximumAmountMinor).foldl max 0 =
              next.maximumAmountMinor := by
            apply le_antisymm
            · refine foldl_max_le (Nat.zero_le _) fun amount listed => ?_
              obtain ⟨bid, picked, rfl⟩ := List.mem_map.mp listed
              obtain ⟨known, named⟩ := List.mem_filter.mp picked
              exact comesFirst_maximum (follows bid known (by simpa using named))
            · exact (le_foldl_max _ 0).2 _ (List.mem_map.mpr ⟨next, other, rfl⟩)
          refine ⟨by simp [named], ?_⟩
          rw [pressedAmount, if_neg (List.ne_nil_of_mem other), most]
          simp only [visibleAmount]
          omega

end Leader

/-! A bid on two files. -/

section Bids

variable {one two : AuctionFile} {listing? : Option Listing} {command : BidCommand} {now : Time}

theorem Veil.Alike.taken (alike : veil.Alike one two) (sequence : ℕ) :
    one.bids.any (·.sequence == sequence) = two.bids.any (·.sequence == sequence) := by
  have mapped (bids : List Bid) : bids.any (·.sequence == sequence) =
      (bids.map Bid.sequence).any (· == sequence) := by
    rw [List.any_map]
    rfl
  rw [mapped, mapped, alike.sequences]

theorem placeAuctionBid_alike (alike : veil.Alike one two)
    (other : veil.leader ≠ some command.sender.actor) :
    (placeAuctionBid listing? (some one) command now).map (fun _ => ()) =
      (placeAuctionBid listing? (some two) command now).map fun _ => () := by
  unfold placeAuctionBid
  cases listing?.filter (!·.isDeleted) with
  | none => rfl
  | some listing =>
      by_cases format : (listing.saleFormat == .auction) = true
      · have taken := alike.taken (two.auction.bidCount + 1)
        cases clash : two.bids.any (fun bid => bid.sequence == two.auction.bidCount + 1) with
        | false =>
            rw [clash] at taken
            simp only [Option.filter_some, format, if_true, BidCommand.row, alike.auction,
              alike.reserved, alike.maximum other, taken, clash, Bool.false_eq_true, if_false]
            split_ifs <;> rfl
        | true =>
            rw [clash] at taken
            simp only [Option.filter_some, format, if_true, BidCommand.row, alike.auction,
              alike.reserved, alike.maximum other, taken, clash]
      · simp only [Option.filter_some, format, Bool.false_eq_true, if_false]

theorem withBid_unpressed {file : AuctionFile} {bid : Bid} {unitPriceMinor : ℕ} {leader : Pubky}
    (positive : 0 < file.auction.minimumIncrement.amountMinor)
    (leads : (file.withBid bid unitPriceMinor now).Leads leader) :
    (file.withBid bid unitPriceMinor now).auction =
      file.auction.withBid (pressedAmount (othersBids (file.bids ++ [bid]) leader)
        file.auction.minimumIncrement.amountMinor unitPriceMinor) leader now := by
  have pressed : ∀ other ∈ file.bids ++ [bid], other.bidderPubky ≠ leader →
      other.maximumAmountMinor + file.auction.minimumIncrement.amountMinor ≤
        bidderPreviousMaximum (file.bids ++ [bid]) leader := leads
  obtain ⟨head, price⟩ := leader_price positive unitPriceMinor pressed (by simp)
  simp only [AuctionFile.withBid, head, price, Option.getD_some]

/-- The two files come to one auction: their bids are the same, or the hidden
bidder leads both unpressed. -/
theorem Veil.Alike.auction_withBid (alike : veil.Alike one two) {first second : Bid}
    (masked : veil.mask first = veil.mask second) (unitPriceMinor : ℕ)
    (positive : 0 < one.auction.minimumIncrement.amountMinor)
    (leads : ∀ leader ∈ veil.leader, (one.withBid first unitPriceMinor now).Leads leader ∧
      (two.withBid second unitPriceMinor now).Leads leader) :
    (one.withBid first unitPriceMinor now).auction =
      (two.withBid second unitPriceMinor now).auction := by
  have grown : veil.Alike { one with bids := one.bids ++ [first] }
      { two with bids := two.bids ++ [second] } := by
    refine ⟨alike.auction, alike.reserve, ?_⟩
    simp only [List.map_append, alike.bids, List.map_singleton, masked]
  cases hidden : veil.leader with
  | none =>
      have same : one.bids ++ [first] = two.bids ++ [second] := grown.open_bids hidden
      obtain ⟨before, last⟩ := List.append_inj' same rfl
      simp only [AuctionFile.withBid, before, alike.auction, List.singleton_inj.mp last]
  | some leader =>
      obtain ⟨leftLeads, rightLeads⟩ := leads leader hidden
      have others : othersBids (one.bids ++ [first]) leader =
          othersBids (two.bids ++ [second]) leader := by
        refine @Veil.Alike.shown veil _ _ grown (fun bidder => bidder != leader) ?_
        intro bidder apart same
        rw [hidden, Option.some.injEq] at same
        simp [same] at apart
      rw [withBid_unpressed positive leftLeads,
        withBid_unpressed (alike.auction ▸ positive) rightLeads, others, alike.auction]

end Bids

end MarketplaceService
