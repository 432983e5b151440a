import MarketplaceService.OrderPostings

/-!
The writes that the steps on one order are made of. They move quantities
between the columns of listings, and they may touch the reservations of the
order's own buyer on its own auctioned listing; every other reservation keeps
its row, every listing keeps its format and its auction, and the sold columns
move by what the order buys and gives back.
-/

namespace MarketplaceService

/-- What a listing is, apart from its quantities, its label and its
revision. -/
structure Plate where
  sellerPubky : Pubky
  listingRevision : ℕ
  unitPriceAmountMinor : ℕ
  unitPriceCurrency : String
  unitPriceExponent : ℕ
  shippingMinor : ℕ
  saleFormat : SaleFormat
  auctionActive : Bool
  fulfillmentMethods : List Fulfillment
  generation : ℕ
  deletedAt : Option Time
  recreatedAt : Option Time
  currentVersion : Option DigitalDeliveryKind

def Listing.plate (listing : Listing) : Plate :=
  { sellerPubky := listing.sellerPubky
    listingRevision := listing.listingRevision
    unitPriceAmountMinor := listing.unitPriceAmountMinor
    unitPriceCurrency := listing.unitPriceCurrency
    unitPriceExponent := listing.unitPriceExponent
    shippingMinor := listing.shippingMinor
    saleFormat := listing.saleFormat
    auctionActive := listing.auctionActive
    fulfillmentMethods := listing.fulfillmentMethods
    generation := listing.generation
    deletedAt := listing.deletedAt
    recreatedAt := listing.recreatedAt
    currentVersion := listing.currentVersion }

def Inventory.plate (inventory : Inventory) (id : ListingId) : Option Plate :=
  (inventory.listings.find? id).map Listing.plate

/-- Whose a reservation is and for what. -/
structure Claim where
  listing : ListingId
  buyerPubky : Pubky
  quantity : ℕ
  dropAggregateId : Option DropId
  offerAwardId : Option AwardId

def Reservation.claim (reservation : Reservation) : Claim :=
  { listing := reservation.listing
    buyerPubky := reservation.buyerPubky
    quantity := reservation.quantity
    dropAggregateId := reservation.dropAggregateId
    offerAwardId := reservation.offerAwardId }

def Inventory.claim (inventory : Inventory) (id : ReservationId) : Option Claim :=
  (inventory.reservations.find? id).map Reservation.claim

def Terms.reserves (terms : Terms) (reservation : Reservation) : Prop :=
  terms.auction = some reservation.listing ∧ terms.buyer = reservation.buyerPubky

theorem forLines_plates {each : Line → Listing → Except Failure Listing} {missing : Failure}
    (keeps : ∀ line listing moved, each line listing = .ok moved → moved.plate = listing.plate)
    (lines : List Line) (inventory : Inventory) (id : ListingId) :
    (forLines each missing lines inventory).2.plate id = inventory.plate id := by
  induction lines generalizing inventory with
  | nil => rfl
  | cons line rest ih =>
      simp only [forLines]
      cases found : inventory.listings.find? line.listing with
      | none => rfl
      | some listing =>
          simp only
          cases stepped : each line listing with
          | error failure => rfl
          | ok moved =>
              simp only
              rw [ih]
              unfold Inventory.plate
              rw [Keyed.Table.find?_set]
              split
              · rename_i same
                rw [same, found, Option.map_some, Option.map_some, keeps line listing moved stepped]
              · rfl

theorem releaseLine_plate {column : HeldQuantity} (line : Line) (listing moved : Listing)
    (taken : releaseLine column line listing = .ok moved) : moved.plate = listing.plate := by
  obtain ⟨enough, rfl⟩ := releaseLine_ok taken
  cases column <;> rfl

theorem acquireLine_plate {createdAt : Time} (line : Line) (listing moved : Listing)
    (taken : acquireLine createdAt line listing = .ok moved) : moved.plate = listing.plate := by
  obtain ⟨enough, rfl⟩ := acquireLine_ok taken
  rfl

theorem reacquireLine_plate {createdAt : Time} (line : Line) (listing moved : Listing)
    (taken : reacquireLine createdAt line listing = .ok moved) : moved.plate = listing.plate := by
  obtain ⟨enough, rfl⟩ := reacquireLine_ok taken
  rfl

theorem sellLine_plate (line : Line) (listing moved : Listing)
    (taken : sellLine line listing = .ok moved) : moved.plate = listing.plate := by
  obtain ⟨enough, rfl⟩ := sellLine_ok taken
  rfl

def Listing.label (listing : Listing) : ListingState :=
  if 0 < listing.availableQuantity then .available
  else if 0 < listing.reservedQuantity then .reserved
  else .sold

theorem hold_label (listing : Listing) {quantity : ℕ} (positive : 0 < quantity)
    (enough : quantity ≤ listing.availableQuantity) :
    (listing.hold quantity enough).state = (listing.hold quantity enough).label := by
  unfold Listing.label Listing.hold
  simp only
  by_cases last : listing.availableQuantity = quantity
  · have held : 0 < listing.reservedQuantity + quantity := by omega
    simp [last, held]
  · have left : 0 < listing.availableQuantity - quantity := by omega
    simp [last, left]

theorem release_label (listing : Listing) {quantity : ℕ} (positive : 0 < quantity)
    {column : HeldQuantity} (enough : quantity ≤ listing.held column) :
    (listing.release quantity column enough).state =
      (listing.release quantity column enough).label := by
  have back : 0 < listing.availableQuantity + quantity := by omega
  cases column <;> simp [Listing.label, Listing.release, back]

theorem sell_label (listing : Listing) (quantity : ℕ)
    (enough : quantity ≤ listing.reservedQuantity) :
    (listing.sell quantity enough).state = (listing.sell quantity enough).label := by
  simp [Listing.label, Listing.sell]

theorem releaseLine_label {column : HeldQuantity} (line : Line) (listing moved : Listing)
    (taken : releaseLine column line listing = .ok moved) : moved.state = moved.label := by
  obtain ⟨enough, rfl⟩ := releaseLine_ok taken
  exact release_label listing line.quantity_pos enough

theorem acquireLine_label {createdAt : Time} (line : Line) (listing moved : Listing)
    (taken : acquireLine createdAt line listing = .ok moved) : moved.state = moved.label := by
  obtain ⟨enough, rfl⟩ := acquireLine_ok taken
  exact hold_label listing line.quantity_pos enough

theorem reacquireLine_label {createdAt : Time} (line : Line) (listing moved : Listing)
    (taken : reacquireLine createdAt line listing = .ok moved) : moved.state = moved.label := by
  obtain ⟨enough, rfl⟩ := reacquireLine_ok taken
  exact hold_label listing line.quantity_pos enough

theorem sellLine_label (line : Line) (listing moved : Listing)
    (taken : sellLine line listing = .ok moved) : moved.state = moved.label := by
  obtain ⟨enough, rfl⟩ := sellLine_ok taken
  exact sell_label listing line.quantity enough

theorem releaseLine_revision {column : HeldQuantity} (line : Line) (listing moved : Listing)
    (taken : releaseLine column line listing = .ok moved) :
    listing.serverRevision < moved.serverRevision := by
  obtain ⟨enough, rfl⟩ := releaseLine_ok taken
  cases column <;> exact Nat.lt_succ_self _

theorem acquireLine_revision {createdAt : Time} (line : Line) (listing moved : Listing)
    (taken : acquireLine createdAt line listing = .ok moved) :
    listing.serverRevision < moved.serverRevision := by
  obtain ⟨enough, rfl⟩ := acquireLine_ok taken
  exact Nat.lt_succ_self _

theorem reacquireLine_revision {createdAt : Time} (line : Line) (listing moved : Listing)
    (taken : reacquireLine createdAt line listing = .ok moved) :
    listing.serverRevision < moved.serverRevision := by
  obtain ⟨enough, rfl⟩ := reacquireLine_ok taken
  exact Nat.lt_succ_self _

theorem sellLine_revision (line : Line) (listing moved : Listing)
    (taken : sellLine line listing = .ok moved) :
    listing.serverRevision < moved.serverRevision := by
  obtain ⟨enough, rfl⟩ := sellLine_ok taken
  exact Nat.lt_succ_self _

/-- The writes of the stock functions of an order on these terms, with the
units they add to the sold column of each listing. -/
inductive Writes (terms : Terms) : (ListingId → ℤ) → Inventory → Inventory → Prop
  | same {before after : Inventory} (same : SameListings before after) :
      Writes terms (fun _ => 0) before after
  | reservations {inventory : Inventory} {hit : Reservation → Bool}
      {change : Reservation → Reservation} (own : ∀ row, hit row = true → terms.reserves row)
      (kept : ∀ row, (change row).claim = row.claim) :
      Writes terms (fun _ => 0) inventory { inventory with
        reservations := inventory.reservations.updateWhere hit change }
  | moved {each : Line → Listing → Except Failure Listing} {missing : Failure} {lines : List Line}
      {before after : Inventory} {result : Except Failure Unit} (move : LineMove each)
      (unsold : move.sold = 0)
      (plates : ∀ line listing moved, each line listing = .ok moved → moved.plate = listing.plate)
      (labels : ∀ line listing moved, each line listing = .ok moved → moved.state = moved.label)
      (revisions : ∀ line listing moved, each line listing = .ok moved →
        listing.serverRevision < moved.serverRevision)
      (ran : forLines each missing lines before = (result, after)) :
      Writes terms (fun _ => 0) before after
  | sold {lines : List Line} {before after : Inventory}
      (ran : forLines sellLine listingMissing lines before = (.ok (), after)) :
      Writes terms (fun id => linesOn id lines) before after
  | returned {lines : List Line} {before after : Inventory}
      (ran : releaseLines .sold lines before = (.ok (), after)) :
      Writes terms (fun id => -linesOn id lines) before after
  | trans {first second : ListingId → ℤ} {before middle after : Inventory}
      (left : Writes terms first before middle) (right : Writes terms second middle after) :
      Writes terms (fun id => first id + second id) before after

namespace Writes

variable {terms : Terms} {sold : ListingId → ℤ} {before middle after : Inventory}

theorem refl (terms : Terms) (inventory : Inventory) :
    Writes terms (fun _ => 0) inventory inventory :=
  .same ⟨rfl, rfl⟩

theorem congr {other : ListingId → ℤ} (writes : Writes terms sold before after)
    (same : ∀ id, sold id = other id) : Writes terms other before after := by
  obtain rfl : sold = other := funext same
  exact writes

theorem after_nothing (left : Writes terms (fun _ => 0) before middle)
    (right : Writes terms sold middle after) : Writes terms sold before after :=
  (left.trans right).congr (by simp)

end Writes

structure Frames (terms : Terms) (before after : Inventory) : Prop where
  plates : ∀ id, after.plate id = before.plate id
  claims : ∀ id, after.claim id = before.claim id
  reservations : ∀ id, ∀ row ∈ before.reservations.find? id, ¬ terms.reserves row →
    after.reservations.find? id = some row

namespace Frames

variable {terms : Terms} {before after inventory : Inventory}

theorem of_plates (reservations : after.reservations = before.reservations)
    (plates : ∀ id, after.plate id = before.plate id) : Frames terms before after := by
  refine ⟨plates, ?_, ?_⟩
  · intro id
    rw [Inventory.claim, Inventory.claim, reservations]
  · intro id row found _
    rw [reservations]
    exact found

theorem of_lines {each : Line → Listing → Except Failure Listing} {missing : Failure}
    (keeps : ∀ line listing moved, each line listing = .ok moved → moved.plate = listing.plate)
    {lines : List Line} {result : Except Failure Unit}
    (ran : forLines each missing lines before = (result, after)) : Frames terms before after := by
  refine of_plates (forLines_frame ran).1 fun id => ?_
  have kept := @forLines_plates each missing keeps lines before id
  rw [ran] at kept
  exact kept

theorem of_reservations {hit : Reservation → Bool} {change : Reservation → Reservation}
    (own : ∀ row, hit row = true → terms.reserves row)
    (kept : ∀ row, (change row).claim = row.claim) :
    Frames terms inventory { inventory with
      reservations := inventory.reservations.updateWhere hit change } := by
  refine ⟨fun _ => rfl, ?_, ?_⟩
  · intro id
    unfold Inventory.claim
    rw [Keyed.Table.find?_updateWhere]
    cases found : inventory.reservations.find? id with
    | none => rfl
    | some row =>
        simp only [Option.map_some]
        split
        · rw [kept row]
        · rfl
  · intro id row found other
    have missed : hit row ≠ true := fun met => other (own row met)
    rw [Option.mem_def] at found
    rw [Keyed.Table.find?_updateWhere, found, Option.map_some, if_neg missed]

end Frames

theorem Writes.frames {terms : Terms} {sold : ListingId → ℤ} {before after : Inventory}
    (writes : Writes terms sold before after) : Frames terms before after := by
  induction writes with
  | same same =>
      refine .of_plates same.2 fun id => ?_
      rw [Inventory.plate, Inventory.plate, same.1]
  | reservations own kept => exact .of_reservations own kept
  | moved move unsold plates labels revisions ran => exact .of_lines plates ran
  | sold ran => exact .of_lines sellLine_plate ran
  | returned ran => exact .of_lines releaseLine_plate ran
  | trans _ _ first second =>
      constructor
      · exact fun id => (second.plates id).trans (first.plates id)
      · exact fun id => (second.claims id).trans (first.claims id)
      · intro id row found other
        exact second.reservations id row (first.reservations id row found other) other

/-! The labels. -/

/-- Every listing row has the label its quantities call for. -/
def Inventory.labelled (inventory : Inventory) : Prop :=
  ∀ id, ∀ listing ∈ inventory.listings.find? id, listing.state = listing.label

theorem Inventory.labelled_set {inventory : Inventory} {id : ListingId} {listing : Listing}
    (known : inventory.labelled) (label : listing.state = listing.label) :
    (inventory.setListing id listing).labelled := by
  intro other row found
  rw [Inventory.setListing, Option.mem_def, Keyed.Table.find?_set] at found
  split at found
  · cases found
    exact label
  · exact known other row found

theorem forLines_labelled {each : Line → Listing → Except Failure Listing} {missing : Failure}
    (labels : ∀ line listing moved, each line listing = .ok moved → moved.state = moved.label)
    {lines : List Line} {result : Except Failure Unit} {after : Inventory} :
    ∀ {inventory : Inventory}, inventory.labelled →
      forLines each missing lines inventory = (result, after) → after.labelled := by
  induction lines with
  | nil =>
      intro inventory known ran
      cases ran
      exact known
  | cons line rest ih =>
      intro inventory known ran
      simp only [forLines] at ran
      cases found : inventory.listings.find? line.listing with
      | none =>
          simp only [found] at ran
          cases ran
          exact known
      | some listing =>
          cases stepped : each line listing with
          | error failure =>
              simp only [found, stepped] at ran
              cases ran
              exact known
          | ok moved =>
              simp only [found, stepped] at ran
              exact ih (Inventory.labelled_set known (labels line listing moved stepped)) ran

theorem Writes.labelled {terms : Terms} {sold : ListingId → ℤ} {before after : Inventory}
    (writes : Writes terms sold before after) (known : before.labelled) : after.labelled := by
  induction writes with
  | same same =>
      intro id listing found
      rw [same.1] at found
      exact known id listing found
  | reservations own kept => exact known
  | moved move unsold plates labels revisions ran => exact forLines_labelled labels known ran
  | sold ran => exact forLines_labelled sellLine_label known ran
  | returned ran => exact forLines_labelled releaseLine_label known ran
  | trans _ _ first second => exact second (first known)

/-! The sold columns. -/

theorem ShiftedAt.sold {r s : ℤ} {before after : Inventory} {id : ListingId}
    (shifted : ShiftedAt r s (before.listings.find? id) (after.listings.find? id))
    (missing : before.listings.find? id = none → s = 0) :
    (after.soldOf id : ℤ) = before.soldOf id + s := by
  unfold Inventory.soldOf
  cases found : before.listings.find? id with
  | none => simp [shifted.missing found, missing found]
  | some listing =>
      obtain ⟨moved, present, shift⟩ := shifted.found found
      rw [present]
      exact shift.sold

theorem forLines_sold {each : Line → Listing → Except Failure Listing} {missing : Failure}
    (move : LineMove each) {lines : List Line} {before after : Inventory}
    (ran : forLines each missing lines before = (.ok (), after)) (id : ListingId) :
    (after.soldOf id : ℤ) = before.soldOf id + move.sold * linesOn id lines := by
  apply (forLines_shifted move ran id).sold
  intro absent
  rw [forLines_missing move ran absent]
  simp

theorem Writes.soldOf {terms : Terms} {sold : ListingId → ℤ} {before after : Inventory}
    (writes : Writes terms sold before after) (id : ListingId) :
    (after.soldOf id : ℤ) = before.soldOf id + sold id := by
  induction writes with
  | same same => simp [Inventory.soldOf, same.1]
  | reservations own kept => simp [Inventory.soldOf]
  | @moved each missing lines before after result move unsold plates labels revisions ran =>
      -- a loop that stopped did what it does on the lines before
      cases result with
      | ok done => simpa [unsold] using forLines_sold move ran id
      | error failure =>
          obtain ⟨taken, line, rest, -, done, -⟩ := forLines_stop ran
          simpa [unsold] using forLines_sold move done id
  | sold ran => simpa [sellMove] using forLines_sold sellMove ran id
  | returned ran => simpa [releaseSoldMove] using forLines_sold releaseSoldMove ran id
  | trans _ _ first second =>
      simp only
      omega

theorem isWinningHold_reserves {order : Order} {auction : ListingId}
    (auctioned : order.auctionAggregateId = some auction) (row : Reservation)
    (met : isWinningHold auction order.buyerPubky row = true) : order.terms.reserves row := by
  simp only [isWinningHold, Bool.and_eq_true, beq_iff_eq] at met
  exact ⟨by simp [Order.terms, auctioned, met.1.1], met.1.2.symm⟩

theorem isLapsedHold_reserves {order : Order} {auction : ListingId}
    (auctioned : order.auctionAggregateId = some auction) (row : Reservation)
    (met : isLapsedHold auction order.buyerPubky row = true) : order.terms.reserves row := by
  simp only [isLapsedHold, Bool.and_eq_true, beq_iff_eq] at met
  exact ⟨by simp [Order.terms, auctioned, met.1.1], met.1.2.symm⟩

/-! The stock functions. -/

section Functions

variable {inventory after : Inventory} {order : Order} {now : Time}

theorem creditThenRelease_writes {lines : List Line} {terms : Terms}
    (ran : orRollback (andThen (creditOrderDrop inventory order now)
      fun inventory => releaseLines .reserved lines inventory) = .ok after) :
    Writes terms (fun _ => 0) inventory after := by
  obtain ⟨credited, same, released⟩ := creditThenRelease ran
  exact (Writes.same same).after_nothing (.moved releaseReservedMove rfl releaseLine_plate
    releaseLine_label releaseLine_revision released)

theorem releaseHeld_writes {terms : Terms}
    (released : releaseHeld inventory order now = .ok after) :
    Writes terms (fun _ => 0) inventory after := by
  unfold releaseHeld at released
  rcases Outcome.ite_ok released with ⟨-, ran⟩ | ⟨-, rfl⟩
  · exact creditThenRelease_writes ran
  · exact .refl _ _

theorem returnSold_writes {terms : Terms} (returned : returnSold inventory order now = .ok after) :
    Writes terms (fun id => -linesOn id order.lines) inventory after := by
  obtain ⟨credited, same, released⟩ := creditThenRelease returned
  exact (Writes.same same).after_nothing (.returned released)

theorem tolerateLegacy_writes {terms : Terms} {sold : ListingId → ℤ}
    {result : Except Failure Unit × Inventory} (writes : Writes terms sold inventory result.2)
    (kept : tolerateLegacy order result = .ok after) : Writes terms sold inventory after := by
  unfold tolerateLegacy at kept
  split at kept
  · cases kept
    exact writes
  · split at kept
    · cases kept
      exact writes
    · cases kept

theorem releaseUnpaidHold_writes {terms : Terms}
    (released : releaseUnpaidHold inventory order now = .ok after) :
    Writes terms (fun _ => 0) inventory after := by
  unfold releaseUnpaidHold at released
  obtain ⟨credited, credit, rest⟩ := Outcome.bind_ok released
  have first : Writes terms (fun _ => 0) inventory credited :=
    .same (tolerateLegacy_same (creditOrderDrop_same inventory order now) credit)
  have second : Writes terms (fun _ => 0) credited
      (releaseLines .reserved order.lines credited).2 :=
    .moved releaseReservedMove rfl releaseLine_plate releaseLine_label releaseLine_revision rfl
  exact first.after_nothing (tolerateLegacy_writes second rest)

theorem releaseReservedHold_writes {auction : ListingId}
    (auctioned : order.auctionAggregateId = some auction)
    (released : releaseReservedHold inventory auction order = .ok after) :
    Writes order.terms (fun _ => 0) inventory after := by
  unfold releaseReservedHold at released
  simp only at released
  split at released
  · cases released
    exact .refl _ _
  · have lapsed : Writes order.terms (fun _ => 0) inventory { inventory with
        reservations := inventory.reservations.updateWhere
          (isWinningHold auction order.buyerPubky) fun reservation =>
            { reservation with status := .released } } :=
      .reservations (isWinningHold_reserves auctioned) fun _ => rfl
    exact lapsed.after_nothing
      (.moved releaseReservedMove rfl releaseLine_plate releaseLine_label releaseLine_revision
        (orRollback_ok released))

theorem cancelledHold_writes (released : cancelledHold inventory order now = .ok after) :
    Writes order.terms (fun _ => 0) inventory after := by
  unfold cancelledHold at released
  split at released
  · rename_i auction auctioned
    exact releaseReservedHold_writes auctioned released
  · exact releaseHeld_writes released

theorem releasePending_writes (released : releasePending inventory order now = .ok after) :
    Writes order.terms (fun _ => 0) inventory after := by
  unfold releasePending at released
  split at released
  · rename_i auction auctioned
    exact releaseReservedHold_writes auctioned released
  · rcases Outcome.ite_ok released with ⟨-, ran⟩ | ⟨-, rfl⟩
    · exact releaseUnpaidHold_writes ran
    · exact .refl _ _

theorem convertHold_writes (converted : convertHold inventory order = .ok after) :
    Writes order.terms (fun _ => 0) inventory after := by
  unfold convertHold at converted
  cases auctioned : order.auctionAggregateId with
  | none =>
      simp only [auctioned] at converted
      split at converted <;> cases converted
      exact .refl _ _
  | some auction =>
      simp only [auctioned] at converted
      obtain ⟨-, converted⟩ := Outcome.guard_ok converted
      cases converted
      exact .reservations (isWinningHold_reserves auctioned) fun _ => rfl

theorem confirmStock_writes {edition : Option ℕ}
    (confirmed : confirmStock inventory order now = .ok (edition, after)) :
    Writes order.terms (fun id => linesOn id order.lines) inventory after := by
  unfold confirmStock at confirmed
  obtain ⟨converted, first, confirmed⟩ := Outcome.bind_ok confirmed
  obtain ⟨⟨counted, recorded⟩, second, confirmed⟩ := Outcome.bind_ok confirmed
  obtain ⟨sold, third, written⟩ := Outcome.bind_ok confirmed
  cases Outcome.pure_ok written
  exact (convertHold_writes first).after_nothing
    ((Writes.same (recordEdition_same second)).after_nothing (.sold (orRollback_ok third)))

theorem reacquireReservation_writes (inventory : Inventory) (order : Order) (now : Time) :
    Writes order.terms (fun _ => 0) inventory (reacquireReservation inventory order now).2 := by
  unfold reacquireReservation
  cases auctioned : order.auctionAggregateId with
  | none => exact .refl _ _
  | some auction =>
      have writes : Writes order.terms (fun _ => 0) inventory { inventory with
          reservations := inventory.reservations.updateWhere
            (isLapsedHold auction order.buyerPubky) fun reservation =>
              { reservation with status := .active, expiresAt := now + 3600 } } :=
        .reservations (isLapsedHold_reserves auctioned) fun _ => rfl
      simp only
      split
      · exact writes
      · exact writes

theorem andThen_writes {terms : Terms} {first : Except Failure Unit × Inventory}
    {next : Inventory → Except Failure Unit × Inventory}
    (before : Writes terms (fun _ => 0) inventory first.2)
    (rest : ∀ middle, Writes terms (fun _ => 0) middle (next middle).2) :
    Writes terms (fun _ => 0) inventory (andThen first next).2 := by
  obtain ⟨outcome, middle⟩ := first
  cases outcome with
  | error failure => exact before
  | ok done => exact before.after_nothing (rest middle)

theorem reacquireStock_writes (inventory : Inventory) (order : Order) (now : Time) :
    Writes order.terms (fun _ => 0) inventory (reacquireStock inventory order now).2 := by
  unfold reacquireStock
  apply andThen_writes
  · exact .same (reacquireDrop_cases inventory order now rfl).1
  · intro middle
    apply andThen_writes
    · exact reacquireReservation_writes middle order now
    · intro last
      exact .moved (reacquireMove order.createdAt) rfl reacquireLine_plate reacquireLine_label
        reacquireLine_revision rfl

theorem Terms.extend_writes (terms : Terms) (deadline : Time) (inventory : Inventory) :
    Writes terms (fun _ => 0) inventory (terms.extend deadline inventory) := by
  unfold Terms.extend
  split
  · exact .refl _ _
  · rename_i auction auctioned
    refine .reservations ?_ fun _ => rfl
    intro row met
    simp only [isWinningHold, Bool.and_eq_true, beq_iff_eq] at met
    exact ⟨by rw [auctioned, met.1.1], met.1.2.symm⟩

end Functions

/-! The moves. -/

section Moves

variable {references : References} {now : Time} {inventory after : Inventory}
  {standing done : Standing} {order : Order}

theorem Acquire.writes (acquired : Acquire inventory standing after done) :
    Writes standing.terms (fun _ => 0) inventory after := by
  cases acquired with
  | auction auctioned => exact .refl _ _
  | kept single pending held => exact .refl _ _
  | taken single pending free acquired =>
      exact .moved (acquireMove _) rfl acquireLine_plate acquireLine_label acquireLine_revision
        (orRollback_ok acquired)

/-- The sold columns move by what the receipt of the order is for. -/
def Buys (standing done : Standing) : Inventory → Inventory → Prop :=
  Writes standing.terms (fun id => done.boughtOn id - standing.boughtOn id)

theorem Buys.of_kept (receipt : done.receipt = standing.receipt)
    (terms : done.terms = standing.terms)
    (writes : Writes standing.terms (fun _ => 0) inventory after) :
    Buys standing done inventory after := by
  refine writes.congr fun id => ?_
  simp [Standing.boughtOn, receipt, terms]

theorem Buys.relabel {start last : Standing} (buys : Buys standing done inventory after)
    (first : standing.receipt = start.receipt ∧ standing.terms = start.terms)
    (second : last.receipt = done.receipt ∧ last.terms = done.terms) :
    Buys start last inventory after := by
  unfold Buys Standing.boughtOn at buys ⊢
  rw [← first.1, ← first.2, second.1, second.2]
  exact buys

theorem Refund.buys (routed : Refund now inventory standing after done) :
    Buys standing done inventory after := by
  cases routed with
  | cancelled shows_row open_payment pending released =>
      exact .of_kept rfl rfl (releaseHeld_writes released)
  | kept open_payment settled => exact .of_kept rfl rfl (.refl _ _)

theorem Confirm.buys (confirmed : Confirm now order inventory standing after done) :
    Buys standing done inventory after := by
  obtain ⟨terms, -, -, unpaid, stocked⟩ := confirmed
  have writes := confirmStock_writes stocked
  have lines : order.lines = standing.terms.lines := congrArg Terms.lines terms
  rw [terms] at writes
  refine writes.congr fun id => ?_
  simp [Standing.boughtOn, Standing.confirm, unpaid, lines]

theorem Retake.buys (retaken : Retake now inventory standing after done) :
    Buys standing done inventory after := by
  obtain ⟨shows_row, reacquired, stored, confirmed⟩ := retaken
  rename_i order row middle
  have first := reacquireStock_writes inventory order now
  rw [reacquired, shows_row.terms] at first
  exact first.after_nothing confirmed.buys

theorem Late.buys (late : Late now inventory standing after done) :
    Buys standing done inventory after := by
  cases late with
  | undeliverable routed => exact routed.buys
  | held open_payment pending held => exact .of_kept rfl rfl (.refl _ _)
  | completed unheld unresolved retaken => exact retaken.buys
  | @lost order _ _ _ shows_row deliverable unheld failed routed =>
      have first := reacquireStock_writes inventory order now
      rw [failed, shows_row.terms] at first
      exact first.after_nothing routed.buys

theorem Settle.buys (settled : Settle now inventory standing after done) :
    Buys standing done inventory after := by
  cases settled with
  | confirmed shows_row confirmed => exact confirmed.buys
  | refunded routed => exact routed.buys
  | reviewed => exact .of_kept rfl rfl (.refl _ _)

theorem Resolve.buys (resolved : Resolve now inventory standing after done) :
    Buys standing done inventory after := by
  cases resolved with
  | intact shows_row pending present confirmed => exact confirmed.buys
  | retaken shows_row open_order lost retaken => exact retaken.buys
  | gaveBack shows_row pending closed released =>
      apply Buys.of_kept rfl rfl
      rw [← shows_row.terms]
      exact cancelledHold_writes released
  | closed cancelled closed => exact .of_kept rfl rfl (.refl _ _)

theorem Move.writes {action : OrderAction} {returned : List Line}
    (move : Move references now inventory standing action returned after done) :
    Writes standing.terms
      (fun id => done.boughtOn id - standing.boughtOn id - linesOn id returned)
      inventory after := by
  have bought (buys : Buys standing done inventory after) :
      Writes standing.terms
        (fun id => done.boughtOn id - standing.boughtOn id - linesOn id ([] : List Line))
        inventory after :=
    buys.congr (by simp [linesOn])
  have gaveBack {lines : List Line} (receipt : done.receipt = standing.receipt)
      (terms : done.terms = standing.terms)
      (writes : Writes standing.terms (fun id => -linesOn id lines) inventory after) :
      Writes standing.terms
        (fun id => done.boughtOn id - standing.boughtOn id - linesOn id lines) inventory after :=
    writes.congr (by simp [Standing.boughtOn, receipt, terms])
  cases move with
  | stay => exact bought (.of_kept rfl rfl (.refl _ _))
  | bindFiat known chosen unbound pending awaiting unlocked acquired =>
      have writes := acquired.writes
      obtain ⟨held, rfl, -, -⟩ := acquired.frame
      exact bought (.of_kept rfl rfl writes)
  | bindBitcoin chosen prepared unbound pending awaiting unlocked acquired =>
      have writes := acquired.writes
      obtain ⟨held, rfl, -, -⟩ := acquired.frame
      exact bought (.of_kept rfl rfl writes)
  | activate answer preparing => exact bought (.of_kept rfl rfl (.refl _ _))
  | track answer current voided settled =>
      apply bought
      obtain ⟨terms, -, receipt⟩ := standing.activate.lapse_kept
      split
      · exact .of_kept receipt terms (.refl _ _)
      · exact .of_kept rfl rfl (.refl _ _)
  | voidPrepare answer voids shows_row preparing released =>
      apply bought
      apply Buys.of_kept rfl rfl
      rcases Outcome.ite_ok released with ⟨-, ran⟩ | ⟨-, rfl⟩
      · exact .moved releaseReservedMove rfl releaseLine_plate releaseLine_label
          releaseLine_revision (orRollback_ok ran)
      · exact .refl _ _
  | dropRequest preparing settled => exact bought (.of_kept rfl rfl (.refl _ _))
  | expirePreparing answer shows_row preparing released =>
      exact bought (.of_kept rfl rfl (releaseUnpaidHold_writes released))
  | expireHeld shows_row pending held settled outside open_payment released =>
      obtain ⟨terms, -, receipt⟩ := standing.lapse_kept
      exact bought (.of_kept receipt terms (releaseUnpaidHold_writes released))
  | expireIdle pending free unbound single unstamped awaiting =>
      exact bought (.of_kept rfl rfl (.refl _ _))
  | cancelPending shows_row pending outside released =>
      apply bought
      apply Buys.of_kept standing.endRequest_kept.2 standing.endRequest_kept.1
      rw [← shows_row.terms]
      exact releasePending_writes released
  | cancelPaid shows_row paid returned =>
      have writes : Writes standing.terms _ inventory after := returnSold_writes returned
      rw [shows_row.lines] at writes
      exact gaveBack rfl rfl writes
  | requestCancel paid => exact bought (.of_kept rfl rfl (.refl _ _))
  | approveCancel shows_row requested releasable returned =>
      exact gaveBack rfl rfl (returnSold_writes returned)
  | fulfil command paid ended ready label recorded => exact bought (.of_kept rfl rfl (.refl _ _))
  | settle rail awaiting settled => exact bought settled.buys
  | late rail money expired late => exact bought late.buys
  | settlePoll rail awaiting gate settled froze =>
      exact bought (settled.buys.relabel ⟨rfl, rfl⟩ ⟨rfl, rfl⟩)
  | latePoll rail money open_payment outside froze late =>
      exact bought (late.buys.relabel ⟨rfl, rfl⟩ ⟨rfl, rfl⟩)
  | fallback advanced froze => exact bought (.of_kept rfl rfl (.refl _ _))
  | confirmSeller window awaiting confirmed froze first queued pinned =>
      exact bought (confirmed.buys.relabel ⟨rfl, rfl⟩ ⟨rfl, rfl⟩)
  | windowLapsed request awaiting opened due froze => exact bought (.of_kept rfl rfl (.refl _ _))
  | resolve paykit review unresolved resolved first queued pinned =>
      exact bought (resolved.buys.relabel ⟨rfl, rfl⟩ ⟨rfl, rfl⟩)
  | routeMismatch watching unbound paykit open_payment outside untracked unresolved froze =>
      exact bought (.of_kept rfl rfl (.refl _ _))
  | routeLate watching unbound paykit open_payment outside untracked froze swapped late =>
      apply bought
      have same := swapped.eq
      refine late.buys.relabel ⟨?_, ?_⟩ ⟨rfl, rfl⟩ <;> rw [same] <;> rfl
  | detect rail pending => exact bought (.of_kept rfl rfl (.refl _ _))
  | refresh rail request amount => exact bought (.of_kept rfl rfl (.refl _ _))
  | enterWindow rail entry reported awaiting froze first extended =>
      subst extended
      exact bought (.of_kept rfl rfl (standing.terms.extend_writes _ inventory))
  | sandbox sandbox target_ok unconfirmed acquired =>
      apply bought
      rcases acquired with taken | ⟨rfl, rfl⟩
      · have writes := taken.writes
        obtain ⟨held, rfl, -, -⟩ := taken.frame
        exact .of_kept rfl rfl writes
      · exact .of_kept rfl rfl (.refl _ _)
  | sandboxSettle sandbox open_payment acquired settled =>
      apply bought
      rcases acquired with taken | ⟨rfl, rfl⟩
      · have rest := settled.buys
        have first := taken.writes
        obtain ⟨held, rfl, -, -⟩ := taken.frame
        exact first.after_nothing rest
      · exact settled.buys
  | prepareLocks unbound unlocked pending awaiting priced acquired =>
      have writes := acquired.writes
      obtain ⟨held, rfl, -, -⟩ := acquired.frame
      exact bought (.of_kept rfl rfl writes)
  | registerLocks locks => exact bought (.of_kept rfl rfl (.refl _ _))

end Moves

end MarketplaceService
