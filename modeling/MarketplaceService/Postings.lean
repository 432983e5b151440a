import MarketplaceService.LateCompletion
import MarketplaceService.Standing

/-!
Postings to the stock ledger. What a transaction does to a fixed-price listing
is two numbers: how much of the reserved column it posts to orders (reserved
units that no active reservation accounts for), and how much of the sold
column. Each stock function of the service is given its postings here; auction
listings keep their format and are otherwise left out of the ledger.
-/

namespace MarketplaceService

def Inventory.reservedOf (inventory : Inventory) (id : ListingId) : ℕ :=
  ((inventory.listings.find? id).map Listing.reservedQuantity).getD 0

def Inventory.soldOf (inventory : Inventory) (id : ListingId) : ℕ :=
  ((inventory.listings.find? id).map Listing.soldQuantity).getD 0

def Reservation.activeOn (id : ListingId) (reservation : Reservation) : ℕ :=
  if reservation.listing = id ∧ reservation.status = .active then reservation.quantity else 0

def Inventory.activeOn (inventory : Inventory) (id : ListingId) : ℕ :=
  inventory.reservations.sum (Reservation.activeOn id)

/-- A listing of the ledger: at a fixed price, or not registered yet. -/
def Counted (inventory : Inventory) (id : ListingId) : Prop :=
  ∀ listing ∈ inventory.listings.find? id, listing.saleFormat = .fixedPrice

/-- A transaction posts these units to the orders' share of the reserved column
and to the sold column of the listings of the ledger. -/
structure Posted (held sold : ListingId → ℤ) (before after : Inventory) : Prop where
  format : ∀ id, ∀ listing ∈ before.listings.find? id,
    ∃ moved ∈ after.listings.find? id, moved.saleFormat = listing.saleFormat
  reserved : ∀ id, Counted after id → (after.reservedOf id : ℤ) - after.activeOn id =
    before.reservedOf id - before.activeOn id + held id
  sold : ∀ id, Counted after id → (after.soldOf id : ℤ) = before.soldOf id + sold id

namespace Posted

variable {held sold : ListingId → ℤ} {before middle after : Inventory}

theorem counted (posted : Posted held sold before after) {id : ListingId}
    (counted : Counted after id) : Counted before id := by
  intro listing found
  obtain ⟨moved, present, format⟩ := posted.format id listing found
  rw [← format]
  exact counted moved present

theorem refl (inventory : Inventory) : Posted (fun _ => 0) (fun _ => 0) inventory inventory :=
  ⟨fun _ listing found => ⟨listing, found, rfl⟩, by simp, by simp⟩

theorem trans {held' sold' : ListingId → ℤ} (first : Posted held sold before middle)
    (second : Posted held' sold' middle after) :
    Posted (fun id => held id + held' id) (fun id => sold id + sold' id) before after := by
  refine ⟨?_, ?_, ?_⟩
  · intro id listing found
    obtain ⟨moved, present, format⟩ := first.format id listing found
    obtain ⟨last, stored, same⟩ := second.format id moved present
    exact ⟨last, stored, same.trans format⟩
  · intro id counted
    have left := first.reserved id (second.counted counted)
    have right := second.reserved id counted
    omega
  · intro id counted
    have left := first.sold id (second.counted counted)
    have right := second.sold id counted
    omega

theorem congr {held' sold' : ListingId → ℤ} (posted : Posted held sold before after)
    (same_held : ∀ id, Counted before id → held' id = held id)
    (same_sold : ∀ id, Counted before id → sold' id = sold id) :
    Posted held' sold' before after := by
  refine ⟨posted.format, ?_, ?_⟩
  · intro id counted
    rw [same_held id (posted.counted counted)]
    exact posted.reserved id counted
  · intro id counted
    rw [same_sold id (posted.counted counted)]
    exact posted.sold id counted

theorem after_nothing (first : Posted (fun _ => 0) (fun _ => 0) before middle)
    (second : Posted held sold middle after) : Posted held sold before after :=
  (first.trans second).congr (by simp) (by simp)

/-- Writes to the drops post nothing. -/
theorem of_same (same : SameListings before after) :
    Posted (fun _ => 0) (fun _ => 0) before after := by
  obtain ⟨listings, reservations⟩ := same
  refine ⟨?_, ?_, ?_⟩
  · intro id listing found
    exact ⟨listing, by rw [listings]; exact found, rfl⟩
  · intro id _
    simp [Inventory.reservedOf, Inventory.activeOn, listings, reservations]
  · intro id _
    simp [Inventory.soldOf, listings]

end Posted

/-! Loops over lines. -/

section Loop

variable {each : Line → Listing → Except Failure Listing} {missing : Failure}

/-- A completed loop has found every listing it was asked for. -/
theorem forLines_missing (move : LineMove each) {lines : List Line} {inventory after : Inventory}
    (done : forLines each missing lines inventory = (.ok (), after)) {id : ListingId}
    (absent : inventory.listings.find? id = none) : linesOn id lines = 0 := by
  apply linesOn_eq_zero
  intro line member same
  have completed : (forLines each missing lines inventory).1 = .ok () := by rw [done]
  obtain ⟨listing, found, -⟩ := (forLines_completes move lines inventory).mp completed line member
  rw [same, absent] at found
  cases found

theorem forLines_posted (move : LineMove each) {lines : List Line} {inventory after : Inventory}
    (done : forLines each missing lines inventory = (.ok (), after)) :
    Posted (fun id => move.reserved * linesOn id lines) (fun id => move.sold * linesOn id lines)
      inventory after := by
  have reservations := (forLines_frame done).1
  refine ⟨?_, ?_, ?_⟩
  · intro id listing found
    obtain ⟨moved, present, shifted⟩ := (forLines_shifted move done id).found found
    exact ⟨moved, present, shifted.saleFormat⟩
  · intro id _
    have active : after.activeOn id = inventory.activeOn id := by
      simp [Inventory.activeOn, reservations]
    rw [active]
    cases found : inventory.listings.find? id with
    | none =>
        have present := (forLines_shifted move done id).missing found
        simp [Inventory.reservedOf, found, present, forLines_missing move done found]
    | some listing =>
        obtain ⟨moved, present, shifted⟩ := (forLines_shifted move done id).found found
        have reserved := shifted.reserved
        simp only [Inventory.reservedOf, found, present, Option.map_some, Option.getD_some]
        omega
  · intro id _
    cases found : inventory.listings.find? id with
    | none =>
        have present := (forLines_shifted move done id).missing found
        simp [Inventory.soldOf, found, present, forLines_missing move done found]
    | some listing =>
        obtain ⟨moved, present, shifted⟩ := (forLines_shifted move done id).found found
        have sold := shifted.sold
        simpa [Inventory.soldOf, found, present] using sold

end Loop

/-! Where an order's lines are. -/

def Auctioned (inventory : Inventory) (id : ListingId) : Prop :=
  ∃ listing ∈ inventory.listings.find? id, listing.saleFormat = .auction

theorem Auctioned.ne {inventory : Inventory} {auction id : ListingId}
    (auctioned : Auctioned inventory auction) (counted : Counted inventory id) : auction ≠ id := by
  rintro rfl
  obtain ⟨listing, found, format⟩ := auctioned
  have fixed := counted listing found
  rw [format] at fixed
  cases fixed

/-- An auction order is for its auction alone. Any other order of more than one
line is for fixed-price listings. -/
structure Placed (inventory : Inventory) (terms : Terms) : Prop where
  auction : ∀ auction ∈ terms.auction,
    Auctioned inventory auction ∧ ∀ line ∈ terms.lines, line.listing = auction
  single : terms.auction = none → terms.lines.length ≤ 1 ∨
    ∀ line ∈ terms.lines, ∃ listing ∈ inventory.listings.find? line.listing,
      listing.saleFormat = .fixedPrice

theorem Placed.linesOn {inventory : Inventory} {terms : Terms} (placed : Placed inventory terms)
    (auctioned : terms.auction.isSome = true) {id : ListingId} (counted : Counted inventory id) :
    linesOn id terms.lines = 0 := by
  obtain ⟨auction, named⟩ := Option.isSome_iff_exists.mp auctioned
  obtain ⟨listed, lines⟩ := placed.auction auction named
  apply linesOn_eq_zero
  intro line member same
  exact listed.ne counted ((lines line member).symm.trans same)

theorem Placed.posted {held sold : ListingId → ℤ} {before after : Inventory} {terms : Terms}
    (placed : Placed before terms) (posted : Posted held sold before after) :
    Placed after terms := by
  refine ⟨?_, ?_⟩
  · intro auction named
    obtain ⟨⟨listing, found, format⟩, lines⟩ := placed.auction auction named
    obtain ⟨moved, present, same⟩ := posted.format auction listing found
    exact ⟨⟨moved, present, same.trans format⟩, lines⟩
  · intro single
    rcases placed.single single with short | fixed
    · exact .inl short
    · right
      intro line member
      obtain ⟨listing, found, format⟩ := fixed line member
      obtain ⟨moved, present, same⟩ := posted.format line.listing listing found
      exact ⟨moved, present, same.trans format⟩

theorem reservations_posted {inventory : Inventory} (hit : Reservation → Bool)
    (change : Reservation → Reservation)
    (same : ∀ id, Counted inventory id → ∀ reservation, hit reservation = true →
      (change reservation).activeOn id = reservation.activeOn id) :
    Posted (fun _ => 0) (fun _ => 0) inventory
      { inventory with reservations := inventory.reservations.updateWhere hit change } := by
  refine ⟨fun _ listing found => ⟨listing, found, rfl⟩, ?_, fun _ _ => by simp [Inventory.soldOf]⟩
  intro id counted
  have active : (inventory.reservations.updateWhere hit change).sum (Reservation.activeOn id) =
      inventory.reservations.sum (Reservation.activeOn id) :=
    Keyed.Table.sum_updateWhere_of_same _ _ _ _ (same id counted)
  simp [Inventory.reservedOf, Inventory.activeOn, active]

theorem updateWhere_posted {inventory : Inventory} {auction : ListingId}
    (auctioned : Auctioned inventory auction) (hit : Reservation → Bool)
    (change : Reservation → Reservation)
    (on_auction : ∀ reservation, hit reservation = true → reservation.listing = auction)
    (stays : ∀ reservation, (change reservation).listing = reservation.listing) :
    Posted (fun _ => 0) (fun _ => 0) inventory
      { inventory with reservations := inventory.reservations.updateWhere hit change } := by
  apply reservations_posted
  intro id counted reservation met
  have elsewhere : reservation.listing ≠ id := by
    rw [on_auction reservation met]
    exact auctioned.ne counted
  simp [Reservation.activeOn, stays, elsewhere]

/-! The stock functions. -/

section Stock

variable {inventory after : Inventory} {order : Order} {now : Time}

theorem acquireLines_posted {createdAt : Time} {lines : List Line}
    (acquired : acquireLines createdAt lines inventory = .ok after) :
    Posted (fun id => linesOn id lines) (fun _ => 0) inventory after := by
  have posted := forLines_posted (acquireMove createdAt) (orRollback_ok acquired)
  refine posted.congr ?_ ?_
  · intro id _
    simp [acquireMove]
  · intro id _
    simp [acquireMove]

theorem releaseLines_posted {lines : List Line}
    (released : releaseLines .reserved lines inventory = (.ok (), after)) :
    Posted (fun id => -linesOn id lines) (fun _ => 0) inventory after := by
  refine (forLines_posted releaseReservedMove released).congr ?_ ?_
  · intro id _
    simp [releaseReservedMove]
  · intro id _
    simp [releaseReservedMove]

theorem creditOrderDrop_same (inventory : Inventory) (order : Order) (now : Time) :
    SameListings inventory (creditOrderDrop inventory order now).2 := by
  have credits (dropId : DropId) :
      SameListings inventory
        (creditDropRelease inventory dropId order.buyerPubky order.units now).2 := by
    unfold creditDropRelease
    split
    · exact ⟨rfl, rfl⟩
    · split
      · simp only
        split
        · exact ⟨rfl, rfl⟩
        · split <;> exact ⟨rfl, rfl⟩
      · exact ⟨rfl, rfl⟩
  unfold creditOrderDrop
  split
  · exact ⟨rfl, rfl⟩
  · rename_i dropId stamped
    have same := credits dropId
    revert same
    cases creditDropRelease inventory dropId order.buyerPubky order.units now with
    | mk added credited => cases added <;> exact id

theorem creditThenRelease {column : HeldQuantity} {lines : List Line}
    (ran : orRollback (andThen (creditOrderDrop inventory order now)
      fun inventory => releaseLines column lines inventory) = .ok after) :
    ∃ credited, SameListings inventory credited ∧
      releaseLines column lines credited = (.ok (), after) := by
  have same := creditOrderDrop_same inventory order now
  obtain ⟨credited, credit, released⟩ := andThen_ok (orRollback_ok ran)
  rw [credit] at same
  exact ⟨credited, same, released⟩

theorem releaseHeld_posted (released : releaseHeld inventory order now = .ok after) :
    Posted (fun id => if order.stockHeld = true ∧ order.auctionAggregateId = none then
      -linesOn id order.lines else 0) (fun _ => 0) inventory after := by
  unfold releaseHeld at released
  rcases Outcome.ite_ok released with ⟨held, ran⟩ | ⟨free, rfl⟩
  · obtain ⟨credited, same, done⟩ := creditThenRelease ran
    refine ((Posted.of_same same).after_nothing (releaseLines_posted done)).congr ?_ (by simp)
    intro id _
    simp [held]
  · refine (Posted.refl _).congr ?_ (by simp)
    intro id _
    rw [if_neg free]

theorem returnSold_posted (returned : returnSold inventory order now = .ok after) :
    Posted (fun _ => 0) (fun id => -linesOn id order.lines) inventory after := by
  obtain ⟨credited, same, done⟩ := creditThenRelease returned
  have posted := forLines_posted releaseSoldMove done
  refine ((Posted.of_same same).after_nothing posted).congr ?_ ?_
  · intro id _
    simp [releaseSoldMove]
  · intro id _
    simp [releaseSoldMove]

def Accounted (inventory : Inventory) (lines : List Line) : Prop :=
  ∀ id, Counted inventory id → linesOn id lines ≤ inventory.reservedOf id

theorem release_stop_uncounted {taken rest : List Line} {line : Line}
    (accounted : Accounted inventory (taken ++ line :: rest))
    (ran : releaseLines .reserved taken inventory = (.ok (), after))
    (refuses : ∀ listing moved, after.listings.find? line.listing = some listing →
      releaseLine .reserved line listing ≠ .ok moved) : ¬ Counted inventory line.listing := by
  intro counted
  have enough := accounted line.listing counted
  rw [linesOn_append, linesOn_cons, if_pos rfl] at enough
  cases found : inventory.listings.find? line.listing with
  | none =>
      have positive := line.quantity_pos
      simp only [Inventory.reservedOf, found, Option.map_none, Option.getD_none] at enough
      omega
  | some listing =>
      obtain ⟨moved, present, shifted⟩ := (forLines_shifted releaseReservedMove ran _).found found
      have reserved := shifted.reserved
      simp only [releaseReservedMove] at reserved
      simp only [Inventory.reservedOf, found, Option.map_some, Option.getD_some] at enough
      obtain ⟨released, takes⟩ := (releaseReservedMove.takes line moved).mpr
        ⟨trivial, show line.quantity ≤ moved.reservedQuantity by omega⟩
      exact refuses moved released present takes

theorem tolerateLegacy_posted (placed : Placed inventory order.terms)
    (accounted : Accounted inventory order.lines)
    (released : tolerateLegacy order (releaseLines .reserved order.lines inventory) = .ok after) :
    Posted (fun id => -linesOn id order.lines) (fun _ => 0) inventory after := by
  unfold tolerateLegacy at released
  cases ran : releaseLines .reserved order.lines inventory with
  | mk result written =>
      rw [ran] at released
      cases result with
      | ok done =>
          cases released
          exact releaseLines_posted ran
      | error failure =>
          obtain ⟨taken, line, rest, split, before, refuses⟩ := forLines_stop ran
          simp only at released
          split at released
          · cases released
            rw [split] at accounted
            have outside := release_stop_uncounted accounted before refuses
            have posted := releaseLines_posted before
            refine posted.congr ?_ (by simp)
            intro id counted
            -- the listings of the ledger have all their lines among those taken
            suffices same : linesOn id order.lines = linesOn id taken by rw [same]
            cases auctioned : order.auctionAggregateId with
            | some auction =>
                have named : order.terms.auction.isSome = true := by
                  simp [Order.terms, auctioned]
                have none_here : linesOn id order.lines = 0 := placed.linesOn named counted
                rw [split, linesOn_append] at none_here
                rw [split, linesOn_append]
                omega
            | none =>
                rcases placed.single auctioned with short | fixed
                · change order.lines.length ≤ 1 at short
                  rw [split, List.length_append, List.length_cons] at short
                  obtain rfl : taken = [] := List.length_eq_zero_iff.mp (by omega)
                  obtain rfl : rest = [] := List.length_eq_zero_iff.mp (by omega)
                  rw [split]
                  apply linesOn_eq_zero
                  intro only member same
                  obtain rfl : only = line := by simpa using member
                  rw [← same] at counted
                  exact outside counted
                · exfalso
                  obtain ⟨listing, found, format⟩ := fixed line (by
                    change line ∈ order.lines
                    simp [split])
                  apply outside
                  intro stored present
                  obtain rfl : stored = listing := Option.mem_unique present found
                  exact format
          · cases released

theorem Accounted.of_same {lines : List Line} (same : SameListings inventory after)
    (accounted : Accounted inventory lines) : Accounted after lines := by
  intro id counted
  have kept := accounted id (by unfold Counted at counted ⊢; rwa [← same.1])
  simpa [Inventory.reservedOf, same.1] using kept

theorem tolerateLegacy_same {result : Except Failure Unit × Inventory}
    (same : SameListings inventory result.2) (kept : tolerateLegacy order result = .ok after) :
    SameListings inventory after := by
  unfold tolerateLegacy at kept
  split at kept
  · cases kept
    exact same
  · split at kept
    · cases kept
      exact same
    · cases kept

theorem releaseUnpaidHold_posted (placed : Placed inventory order.terms)
    (accounted : Accounted inventory order.lines)
    (released : releaseUnpaidHold inventory order now = .ok after) :
    Posted (fun id => -linesOn id order.lines) (fun _ => 0) inventory after := by
  unfold releaseUnpaidHold at released
  obtain ⟨credited, credit, rest⟩ := Outcome.bind_ok released
  have same := tolerateLegacy_same (creditOrderDrop_same inventory order now) credit
  have first := Posted.of_same same
  have second := tolerateLegacy_posted (placed.posted first) (accounted.of_same same) rest
  exact first.after_nothing second

theorem Posted.auction_lines {held sold : ListingId → ℤ} {k l : ℤ}
    (placed : Placed inventory order.terms)
    (auctioned : order.auctionAggregateId.isSome = true)
    (posted : Posted held sold inventory after)
    (by_lines : ∀ id, held id = k * linesOn id order.lines ∧ sold id = l * linesOn id order.lines) :
    Posted (fun _ => 0) (fun _ => 0) inventory after := by
  have nothing {id : ListingId} (counted : Counted inventory id) : linesOn id order.lines = 0 :=
    placed.linesOn auctioned counted
  refine posted.congr ?_ ?_
  · intro id counted
    simp [(by_lines id).1, nothing counted]
  · intro id counted
    simp [(by_lines id).2, nothing counted]

theorem releaseReservedHold_posted {auction : ListingId} (placed : Placed inventory order.terms)
    (auctioned : order.auctionAggregateId = some auction)
    (released : releaseReservedHold inventory auction order = .ok after) :
    Posted (fun _ => 0) (fun _ => 0) inventory after := by
  unfold releaseReservedHold at released
  simp only at released
  split at released
  · cases released
    exact .refl _
  · have first := updateWhere_posted (placed.auction auction auctioned).1
      (isWinningHold auction order.buyerPubky)
      (fun reservation => { reservation with status := .released })
      (by
        intro reservation met
        simp only [isWinningHold, Bool.and_eq_true, beq_iff_eq] at met
        exact met.1.1)
      (fun _ => rfl)
    have lines := releaseLines_posted (orRollback_ok released)
    have second := @Posted.auction_lines _ _ order _ _ (-1) 0 (placed.posted first)
      (by simp [auctioned]) lines (by simp)
    exact first.after_nothing second

theorem cancelledHold_posted (placed : Placed inventory order.terms)
    (released : cancelledHold inventory order now = .ok after) :
    Posted (fun id => if order.stockHeld = true ∧ order.auctionAggregateId = none then
      -linesOn id order.lines else 0) (fun _ => 0) inventory after := by
  unfold cancelledHold at released
  split at released
  · rename_i auction auctioned
    refine (releaseReservedHold_posted placed auctioned released).congr ?_ (by simp)
    intro id _
    simp [auctioned]
  · exact releaseHeld_posted released

theorem releasePending_posted (placed : Placed inventory order.terms)
    (accounted : order.stockHeld = true → Accounted inventory order.lines)
    (released : releasePending inventory order now = .ok after) :
    Posted (fun id => if order.stockHeld = true ∧ order.auctionAggregateId = none then
      -linesOn id order.lines else 0) (fun _ => 0) inventory after := by
  unfold releasePending at released
  split at released
  · rename_i auction auctioned
    refine (releaseReservedHold_posted placed auctioned released).congr ?_ (by simp)
    intro id _
    simp [auctioned]
  · rename_i single
    rcases Outcome.ite_ok released with ⟨held, ran⟩ | ⟨free, rfl⟩
    · refine (releaseUnpaidHold_posted placed (accounted held) ran).congr ?_ (by simp)
      intro id _
      simp [held, single]
    · refine (Posted.refl _).congr ?_ (by simp)
      intro id _
      simp [free]

theorem convertHold_posted (placed : Placed inventory order.terms)
    (converted : convertHold inventory order = .ok after) :
    Posted (fun _ => 0) (fun _ => 0) inventory after ∧
      (order.auctionAggregateId = none → order.stockHeld = true) := by
  unfold convertHold at converted
  cases auctioned : order.auctionAggregateId with
  | none =>
      simp only [auctioned] at converted
      split at converted
      · rename_i held
        cases converted
        exact ⟨.refl _, fun _ => held⟩
      · cases converted
  | some auction =>
      simp only [auctioned] at converted
      obtain ⟨-, converted⟩ := Outcome.guard_ok converted
      cases converted
      refine ⟨updateWhere_posted (placed.auction auction auctioned).1 _ _ ?_ fun _ => rfl, by simp⟩
      intro reservation met
      simp only [isWinningHold, Bool.and_eq_true, beq_iff_eq] at met
      exact met.1.1

theorem recordEdition_same {edition : Option ℕ}
    (recorded : recordEdition inventory order now = .ok (edition, after)) :
    SameListings inventory after := by
  unfold recordEdition at recorded
  split at recorded
  · cases recorded
    exact ⟨rfl, rfl⟩
  · split at recorded
    · cases recorded
    · rename_i counted paid
      cases recorded
      obtain ⟨drop, -, -, same, -⟩ := recordPaidUnit_ok paid
      exact same

theorem confirmStock_posted {edition : Option ℕ} (placed : Placed inventory order.terms)
    (confirmed : confirmStock inventory order now = .ok (edition, after)) :
    Posted (fun id => -linesOn id order.lines) (fun id => linesOn id order.lines) inventory after ∧
      (order.auctionAggregateId = none → order.stockHeld = true) := by
  unfold confirmStock at confirmed
  obtain ⟨converted, first, confirmed⟩ := Outcome.bind_ok confirmed
  obtain ⟨⟨counted, recorded⟩, second, confirmed⟩ := Outcome.bind_ok confirmed
  obtain ⟨sold, third, written⟩ := Outcome.bind_ok confirmed
  cases Outcome.pure_ok written
  obtain ⟨posted, held⟩ := convertHold_posted placed first
  have lines := forLines_posted sellMove (orRollback_ok third)
  have before := posted.after_nothing (.of_same (recordEdition_same second))
  refine ⟨(before.after_nothing lines).congr ?_ ?_, held⟩
  · intro id _
    simp [sellMove]
  · intro id _
    simp [sellMove]

theorem reacquireReservation_posted {result : Except Failure Unit}
    (placed : Placed inventory order.terms)
    (ran : reacquireReservation inventory order now = (result, after)) :
    Posted (fun _ => 0) (fun _ => 0) inventory after := by
  unfold reacquireReservation at ran
  cases auctioned : order.auctionAggregateId with
  | none =>
      simp only [auctioned] at ran
      cases ran
      exact .refl _
  | some auction =>
      have posted := updateWhere_posted (placed.auction auction auctioned).1
        (isLapsedHold auction order.buyerPubky)
        (fun reservation => { reservation with status := .active, expiresAt := now + 3600 })
        (by
          intro reservation met
          simp only [isLapsedHold, Bool.and_eq_true, beq_iff_eq] at met
          exact met.1.1)
        (fun _ => rfl)
      simp only [auctioned] at ran
      split at ran
      · cases ran
        exact posted
      · cases ran
        exact posted

theorem reacquireStock_posted (placed : Placed inventory order.terms)
    (ran : reacquireStock inventory order now = (.ok (), after)) :
    Posted (fun id => linesOn id order.lines) (fun _ => 0) inventory after := by
  obtain ⟨debited, retaken, drop, reservation, lines⟩ := reacquireStock_ok ran
  have first := Posted.of_same (reacquireDrop_cases inventory order now drop).1
  have second := reacquireReservation_posted (placed.posted first) reservation
  have third := forLines_posted (reacquireMove order.createdAt) lines
  refine ((first.after_nothing second).after_nothing third).congr ?_ ?_
  · intro id _
    simp [reacquireMove]
  · intro id _
    simp [reacquireMove]

/-- Late money would take the first line of the order and miss a later one. -/
def TakesPart (inventory : Inventory) (order : Order) : Prop :=
  order.auctionAggregateId = none ∧ DropRetakeable inventory order ∧
    (∃ line ∈ order.lines.head?, Takeable inventory order.createdAt line) ∧
    ¬ LinesRetakeable inventory order

instance (inventory : Inventory) (order : Order) : Decidable (TakesPart inventory order) :=
  inferInstanceAs (Decidable (_ ∧ _ ∧ _ ∧ _))

/-- The first line of a loop that went through was there to be taken. -/
theorem Takeable.of_first {createdAt : Time} {line : Line} {rest : List Line}
    (ran : reacquireLines createdAt (line :: rest) inventory = (.ok (), after)) :
    Takeable inventory createdAt line := by
  have completed : (reacquireLines createdAt (line :: rest) inventory).1 = .ok () := by rw [ran]
  obtain ⟨listing, found, accepts, enough⟩ :=
    (forLines_completes (reacquireMove createdAt) _ inventory).mp completed line (by simp)
  rw [linesOn_cons, if_pos rfl] at enough
  have room : line.quantity + linesOn line.listing rest ≤ listing.availableQuantity := enough
  exact ⟨listing, found, accepts, by omega⟩

theorem DropRetakeable.of_debited {debited : Inventory}
    (ran : reacquireDrop inventory order now = (.ok (), debited)) :
    DropRetakeable inventory order := by
  rw [← reacquireDrop_ok_iff inventory order now, ran]

theorem Takeable.of_same {createdAt : Time} {line : Line} (same : SameListings inventory after)
    (takeable : Takeable after createdAt line) : Takeable inventory createdAt line := by
  unfold Takeable at takeable ⊢
  rwa [← same.1]

/-- Missing stock posts nothing unless the first line was taken. -/
theorem reacquireStock_lost_posted (placed : Placed inventory order.terms)
    (whole : ¬ TakesPart inventory order)
    (failed : reacquireStock inventory order now = (.error .stockUnavailable, after)) :
    Posted (fun _ => 0) (fun _ => 0) inventory after := by
  have failing : ¬ Retakeable inventory order := by
    rw [← reacquireStock_ok_iff inventory order now, failed]
    simp
  unfold reacquireStock at failed
  cases drop : reacquireDrop inventory order now with
  | mk debit debited =>
      have same := (reacquireDrop_cases inventory order now drop).1
      have first := Posted.of_same same
      rw [drop] at failed
      cases debit with
      | error failure =>
          simp only [andThen, Prod.mk.injEq] at failed
          obtain ⟨-, rfl⟩ := failed
          exact first
      | ok done =>
          simp only [andThen] at failed
          cases reservation : reacquireReservation debited order now with
          | mk outcome retaken =>
              have second := reacquireReservation_posted (placed.posted first) reservation
              have both := first.after_nothing second
              rw [reservation] at failed
              cases outcome with
              | error failure =>
                  simp only [Prod.mk.injEq] at failed
                  obtain ⟨-, rfl⟩ := failed
                  exact both
              | ok done =>
                  simp only at failed
                  obtain ⟨taken, line, rest, split, ran, refuses⟩ := forLines_stop failed
                  have third := forLines_posted (reacquireMove order.createdAt) ran
                  refine (both.after_nothing third).congr ?_ (by simp [reacquireMove])
                  intro id counted
                  suffices nothing : linesOn id taken = 0 by simp [nothing]
                  cases auctioned : order.auctionAggregateId with
                  | some auction =>
                      have none_here : linesOn id order.lines = 0 :=
                        placed.linesOn (by simp [Order.terms, auctioned]) counted
                      rw [split, linesOn_append] at none_here
                      omega
                  | none =>
                      cases taken with
                      | nil => rfl
                      | cons head others =>
                          exfalso
                          simp only [reacquireReservation, auctioned, Prod.mk.injEq, true_and]
                            at reservation
                          subst reservation
                          refine whole ⟨auctioned, .of_debited drop,
                            ⟨head, by simp [split], ?_⟩, ?_⟩
                          · exact (Takeable.of_first ran).of_same same
                          · intro lines
                            exact failing ⟨.of_debited drop, by simp [auctioned], lines⟩

end Stock

end MarketplaceService
