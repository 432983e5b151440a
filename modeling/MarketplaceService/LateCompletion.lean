import MarketplaceService.LateStock

/-!
When late money completes an order, read off the rows before the call: the
stock can be taken again, the payment is open and unresolved, and the
confirmation that follows meets no refusal and no constraint.
-/

namespace MarketplaceService

/-! Taking the stock again. -/

/-- The drop has the units, and the buyer's counter row, if any, the room. -/
def DropRetakeable (inventory : Inventory) (order : Order) : Prop :=
  ∀ dropId ∈ order.dropAggregateId,
    ∃ drop ∈ inventory.drops.find? dropId, order.units ≤ drop.remainingQuantity ∧
      ∀ purchase ∈ inventory.dropPurchases.find? (dropId, order.buyerPubky),
        purchase.quantity + order.units ≤ purchase.perBuyerLimit

instance (inventory : Inventory) (order : Order) : Decidable (DropRetakeable inventory order) :=
  inferInstanceAs (Decidable (∀ dropId ∈ order.dropAggregateId,
    ∃ drop ∈ inventory.drops.find? dropId, order.units ≤ drop.remainingQuantity ∧
      ∀ purchase ∈ inventory.dropPurchases.find? (dropId, order.buyerPubky),
        purchase.quantity + order.units ≤ purchase.perBuyerLimit))

/-- Every listing of the order takes its commitment and has the units of all
its lines on it. -/
def LinesRetakeable (inventory : Inventory) (order : Order) : Prop :=
  ∀ line ∈ order.lines, ∃ listing ∈ inventory.listings.find? line.listing,
    listing.acceptsCommitmentCreatedAt order.createdAt = true ∧
      linesOn line.listing order.lines ≤ listing.availableQuantity

instance (inventory : Inventory) (order : Order) : Decidable (LinesRetakeable inventory order) :=
  inferInstanceAs (Decidable (∀ line ∈ order.lines,
    ∃ listing ∈ inventory.listings.find? line.listing,
      listing.acceptsCommitmentCreatedAt order.createdAt = true ∧
        linesOn line.listing order.lines ≤ listing.availableQuantity))

/-- The stock of the order can be taken again: its drop units, exactly one
lapsed reservation of an auction, and its lines. -/
def Retakeable (inventory : Inventory) (order : Order) : Prop :=
  DropRetakeable inventory order ∧
    (∀ auction ∈ order.auctionAggregateId,
      inventory.reservations.countWhere (isLapsedHold auction order.buyerPubky) = 1) ∧
    LinesRetakeable inventory order

instance (inventory : Inventory) (order : Order) : Decidable (Retakeable inventory order) :=
  inferInstanceAs (Decidable (_ ∧ _ ∧ _))

theorem reacquireDrop_ok_iff (inventory : Inventory) (order : Order) (now : Time) :
    (reacquireDrop inventory order now).1 = .ok () ↔ DropRetakeable inventory order := by
  unfold reacquireDrop DropRetakeable
  cases stamped : order.dropAggregateId with
  | none => simp
  | some dropId =>
      cases found : inventory.drops.find? dropId with
      | none => simp [found]
      | some drop =>
          have moved := applyTimeTransitions_counts inventory dropId drop now found
          revert moved
          simp only [Option.mem_def, Option.some.injEq, forall_eq', found, exists_eq_left']
          generalize applyTimeTransitions inventory dropId drop now = transitioned
          rintro ⟨counts, -, purchases, -⟩
          have remaining := (Counts.ext_remaining counts).1
          simp only [remaining, purchases]
          by_cases lacks : drop.remainingQuantity < order.units
          · simp only [lacks, if_true, reduceCtorEq, false_iff, not_and]
            intro enough
            omega
          · simp only [lacks, if_false]
            cases counted : inventory.dropPurchases.find? (dropId, order.buyerPubky) with
            | none => simpa using lacks
            | some purchase =>
                unfold DropPurchase.add
                by_cases within : purchase.quantity + order.units ≤ purchase.perBuyerLimit
                · simpa [within] using lacks
                · simp [within]

/-- Every step of `reacquire_hold` succeeds exactly on stock that can be
retaken. The lines are checked on the listings as they were: no earlier step
writes a listing. -/
theorem reacquireStock_ok_iff (inventory : Inventory) (order : Order) (now : Time) :
    (reacquireStock inventory order now).1 = .ok () ↔ Retakeable inventory order := by
  unfold reacquireStock Retakeable
  rw [← reacquireDrop_ok_iff inventory order now]
  cases ran : reacquireDrop inventory order now with
  | mk result middle =>
      cases result with
      | error failure => simp [andThen]
      | ok done =>
          have kept : middle.listings = inventory.listings ∧
              middle.reservations = inventory.reservations :=
            (reacquireDrop_cases inventory order now ran).1
          simp only [andThen, true_and]
          cases again : reacquireReservation middle order now with
          | mk outcome retaken =>
              have split := reacquireReservation_cases middle order now again
              have succeeds : outcome = .ok () ↔ ∀ auction ∈ order.auctionAggregateId,
                  inventory.reservations.countWhere
                    (isLapsedHold auction order.buyerPubky) = 1 := by
                cases auctioned : order.auctionAggregateId with
                | none =>
                    simp only [auctioned] at split
                    simp [split.2.2.2.1]
                | some auction =>
                    simp only [auctioned] at split
                    rw [split.2.2.2.1, kept.2]
                    simp
              cases outcome with
              | error failure =>
                  simp only [reduceCtorEq, false_iff] at succeeds ⊢
                  exact fun both => succeeds both.1
              | ok done =>
                  have one := succeeds.mp rfl
                  rw [and_iff_right one]
                  have completes := @forLines_completes _ .stockUnavailable
                    (reacquireMove order.createdAt) order.lines retaken
                  rw [split.1, kept.1] at completes
                  exact completes

/-! Confirming. -/

/-- The order holds its stock, its drop has an edition left, and its lines are
reserved. -/
def Confirmable (inventory : Inventory) (order : Order) : Prop :=
  (order.auctionAggregateId = none → order.stockHeld = true) ∧
    (∀ auction ∈ order.auctionAggregateId,
      inventory.reservations.countWhere (isWinningHold auction order.buyerPubky) ≠ 0) ∧
    (∀ dropId ∈ order.dropAggregateId,
      ∃ drop ∈ inventory.drops.find? dropId, drop.paidQuantity + 1 ≤ drop.totalQuantity) ∧
    ∀ line ∈ order.lines, ∃ listing ∈ inventory.listings.find? line.listing,
      linesOn line.listing order.lines ≤ listing.reservedQuantity

theorem convertHold_frame {inventory after : Inventory} {order : Order}
    (converted : convertHold inventory order = .ok after) :
    after.listings = inventory.listings ∧ after.drops = inventory.drops ∧
      after.dropPurchases = inventory.dropPurchases := by
  unfold convertHold at converted
  cases auctioned : order.auctionAggregateId with
  | none =>
      simp only [auctioned] at converted
      split at converted
      · cases converted
        exact ⟨rfl, rfl, rfl⟩
      · cases converted
  | some auction =>
      simp only [auctioned] at converted
      split at converted
      · cases converted
      · cases converted
        exact ⟨rfl, rfl, rfl⟩

theorem convertHold_ok_iff (inventory : Inventory) (order : Order) :
    (∃ after, convertHold inventory order = .ok after) ↔
      (order.auctionAggregateId = none → order.stockHeld = true) ∧
        ∀ auction ∈ order.auctionAggregateId,
          inventory.reservations.countWhere (isWinningHold auction order.buyerPubky) ≠ 0 := by
  unfold convertHold
  cases auctioned : order.auctionAggregateId with
  | none => cases order.stockHeld <;> simp
  | some auction =>
      by_cases lost :
          inventory.reservations.countWhere (isWinningHold auction order.buyerPubky) = 0
      · simp [lost]
      · simp [lost]

theorem recordPaidUnit_listings {inventory after : Inventory} {dropId : DropId} {now : Time}
    {edition : ℕ} (counted : recordPaidUnit inventory dropId now = .ok (edition, after)) :
    after.listings = inventory.listings := by
  obtain ⟨drop, -, -, same, -⟩ := recordPaidUnit_ok counted
  exact same.1

theorem confirmStock_ok_iff (inventory : Inventory) (order : Order) (now : Time) :
    (∃ stocked, confirmStock inventory order now = .ok stocked) ↔
      Confirmable inventory order := by
  unfold confirmStock Confirmable
  constructor
  · rintro ⟨stocked, ran⟩
    obtain ⟨converted, held, rest⟩ := Outcome.bind_ok ran
    obtain ⟨⟨edition, counted⟩, editioned, last⟩ := Outcome.bind_ok rest
    obtain ⟨sold, sells, -⟩ := Outcome.bind_ok last
    have keeps := (convertHold_ok_iff inventory order).mp ⟨converted, held⟩
    obtain ⟨listings, drops, -⟩ := convertHold_frame held
    refine ⟨keeps.1, keeps.2, ?_, ?_⟩
    · intro dropId stamped
      simp only [Option.mem_def] at stamped
      unfold recordEdition at editioned
      simp only [stamped] at editioned
      cases unit : recordPaidUnit converted dropId now with
      | error failure => simp [unit] at editioned
      | ok pair =>
          have room := (recordPaidUnit_ok_iff converted dropId now).mp ⟨pair, unit⟩
          rwa [drops] at room
    · have unchanged : counted.listings = inventory.listings := by
        unfold recordEdition at editioned
        cases stamped : order.dropAggregateId with
        | none =>
            simp only [stamped] at editioned
            cases editioned
            exact listings
        | some dropId =>
            simp only [stamped] at editioned
            cases unit : recordPaidUnit converted dropId now with
            | error failure => simp [unit] at editioned
            | ok pair =>
                simp only [unit] at editioned
                cases editioned
                exact (recordPaidUnit_listings unit).trans listings
      have completes : (forLines sellLine listingMissing order.lines counted).1 = .ok () := by
        unfold sellLines orRollback at sells
        cases result : (forLines sellLine listingMissing order.lines counted).1 with
        | error failure => simp [result] at sells
        | ok done => rfl
      have reserved := (forLines_completes sellMove order.lines counted).mp completes
      rw [unchanged] at reserved
      intro line member
      obtain ⟨listing, present, -, enough⟩ := reserved line member
      exact ⟨listing, present, enough⟩
  · rintro ⟨holds, wins, editions, lines⟩
    obtain ⟨converted, held⟩ := (convertHold_ok_iff inventory order).mpr ⟨holds, wins⟩
    obtain ⟨listings, drops, -⟩ := convertHold_frame held
    have edition_counted : ∃ edition counted,
        recordEdition converted order now = .ok (edition, counted) ∧
          counted.listings = inventory.listings := by
      unfold recordEdition
      cases stamped : order.dropAggregateId with
      | none => exact ⟨none, converted, rfl, listings⟩
      | some dropId =>
          have room := editions dropId stamped
          rw [← drops] at room
          obtain ⟨⟨edition, counted⟩, unit⟩ := (recordPaidUnit_ok_iff converted dropId now).mpr room
          refine ⟨some edition, counted, by simp [unit], ?_⟩
          exact (recordPaidUnit_listings unit).trans listings
    obtain ⟨edition, counted, editioned, unchanged⟩ := edition_counted
    have completes : (forLines sellLine listingMissing order.lines counted).1 = .ok () := by
      refine (forLines_completes sellMove order.lines counted).mpr ?_
      rw [unchanged]
      intro line member
      obtain ⟨listing, present, enough⟩ := lines line member
      exact ⟨listing, present, trivial, enough⟩
    have sells : sellLines order.lines counted =
        .ok (forLines sellLine listingMissing order.lines counted).2 := by
      unfold sellLines orRollback
      rw [completes]
    refine ⟨(edition, (forLines sellLine listingMissing order.lines counted).2), ?_⟩
    simp only [held, editioned, sells, bind, Except.bind, pure, Except.pure]

/-! The stock after it was taken again. -/

theorem andThen_ok {State : Type} {first : Except Failure Unit × State}
    {next : State → Except Failure Unit × State} {after : State}
    (ran : andThen first next = (.ok (), after)) :
    ∃ middle, first = (.ok (), middle) ∧ next middle = (.ok (), after) := by
  obtain ⟨result, middle⟩ := first
  cases result with
  | error failure => simp [andThen] at ran
  | ok done => exact ⟨middle, rfl, ran⟩

theorem reacquireStock_ok {inventory after : Inventory} {order : Order} {now : Time}
    (ran : reacquireStock inventory order now = (.ok (), after)) :
    ∃ debited retaken, reacquireDrop inventory order now = (.ok (), debited) ∧
      reacquireReservation debited order now = (.ok (), retaken) ∧
      reacquireLines order.createdAt order.lines retaken = (.ok (), after) := by
  obtain ⟨debited, drop, ran⟩ := andThen_ok ran
  obtain ⟨retaken, reservation, lines⟩ := andThen_ok ran
  exact ⟨debited, retaken, drop, reservation, lines⟩

/-- The lines move from available to reserved. -/
theorem reacquireStock_listings {inventory after : Inventory} {order : Order} {now : Time}
    (ran : reacquireStock inventory order now = (.ok (), after)) (id : ListingId) :
    ShiftedAt (linesOn id order.lines) 0 (inventory.listings.find? id)
      (after.listings.find? id) := by
  obtain ⟨debited, retaken, drop, reservation, lines⟩ := reacquireStock_ok ran
  have kept := (reacquireDrop_cases inventory order now drop).1.1
  have same := (reacquireReservation_cases debited order now reservation).1
  have shifted := forLines_shifted (reacquireMove order.createdAt) lines id
  rw [same, kept] at shifted
  simpa [reacquireMove] using shifted

theorem reacquireStock_counts {inventory after : Inventory} {order : Order} {now : Time}
    (ran : reacquireStock inventory order now = (.ok (), after)) (id : DropId) :
    (after.countsOf id).map (fun counts => (counts.total, counts.paid)) =
      (inventory.countsOf id).map fun counts => (counts.total, counts.paid) := by
  obtain ⟨debited, retaken, drop, reservation, lines⟩ := reacquireStock_ok ran
  have drops : after.drops = debited.drops :=
    (forLines_frame lines).2.1.trans (reacquireReservation_cases debited order now reservation).2.1
  have same : after.countsOf id = debited.countsOf id := by
    unfold Inventory.countsOf
    rw [drops]
  rw [same]
  rcases (reacquireDrop_cases inventory order now drop).2 with
    ⟨-, -, rfl⟩ | ⟨-, failed, -⟩ | ⟨dropId, row, -, found, -, -, counts, -⟩
  · rfl
  · cases failed
  · rw [counts id]
    by_cases here : id = dropId
    · subst here
      simp [Inventory.countsOf, found, Drop.counts]
    · simp [here]

theorem edition_left_iff (inventory : Inventory) (dropId : DropId) :
    (∃ drop ∈ inventory.drops.find? dropId, drop.paidQuantity + 1 ≤ drop.totalQuantity) ↔
      ∃ pair ∈ (inventory.countsOf dropId).map (fun counts => (counts.total, counts.paid)),
        pair.2 + 1 ≤ pair.1 := by
  unfold Inventory.countsOf
  cases found : inventory.drops.find? dropId with
  | none => simp
  | some drop => simp [Drop.counts]

/-- Stock that was taken again is confirmed unless the drop is out of editions. -/
theorem reacquireStock_confirmable {inventory after : Inventory} {order row : Order} {now : Time}
    (ran : reacquireStock inventory order now = (.ok (), after))
    (stored : row = if order.auctionAggregateId = none then { order with stockHeld := true }
      else order) :
    Confirmable after row ↔ ∀ dropId ∈ order.dropAggregateId,
      ∃ drop ∈ inventory.drops.find? dropId, drop.paidQuantity + 1 ≤ drop.totalQuantity := by
  have auction : row.auctionAggregateId = order.auctionAggregateId := by
    rw [stored]
    split <;> rfl
  have stamp : row.dropAggregateId = order.dropAggregateId := by
    rw [stored]
    split <;> rfl
  have lines : row.lines = order.lines := by
    rw [stored]
    split <;> rfl
  have buyer : row.buyerPubky = order.buyerPubky := by
    rw [stored]
    split <;> rfl
  have held : row.auctionAggregateId = none → row.stockHeld = true := by
    intro single
    rw [auction] at single
    rw [stored, if_pos single]
  have wins : ∀ auctioned ∈ row.auctionAggregateId,
      after.reservations.countWhere (isWinningHold auctioned row.buyerPubky) ≠ 0 := by
    intro auctioned named
    rw [auction] at named
    simp only [Option.mem_def] at named
    obtain ⟨debited, retaken, -, reservation, looped⟩ := reacquireStock_ok ran
    have cases := (reacquireReservation_cases debited order now reservation).2.2.2
    simp only [named] at cases
    have one : debited.reservations.countWhere (isLapsedHold auctioned order.buyerPubky) ≠ 0 := by
      simp only [true_iff] at cases
      rw [cases.1]
      exact Nat.one_ne_zero
    obtain ⟨id, lapsed, found, hit⟩ := (Keyed.Table.countWhere_ne_zero_iff _ _).mp one
    apply (Keyed.Table.countWhere_ne_zero_iff _ _).mpr
    refine ⟨id, { lapsed with status := .active, expiresAt := now + 3600 }, ?_, ?_⟩
    · rw [(forLines_frame looped).1, cases.2, Keyed.Table.find?_updateWhere, found]
      simp [hit]
    · simp only [isLapsedHold, Bool.and_eq_true] at hit
      simp [isWinningHold, buyer, hit.1.1, hit.1.2]
  have reserved : ∀ line ∈ row.lines, ∃ listing ∈ after.listings.find? line.listing,
      linesOn line.listing row.lines ≤ listing.reservedQuantity := by
    intro line member
    rw [lines] at member ⊢
    have retakeable := (reacquireStock_ok_iff inventory order now).mp (by rw [ran])
    obtain ⟨listing, found, -⟩ := retakeable.2.2 line member
    obtain ⟨moved, present, moves⟩ := (reacquireStock_listings ran line.listing).found found
    refine ⟨moved, present, ?_⟩
    have shift := moves.reserved
    omega
  have editions : (∀ dropId ∈ row.dropAggregateId, ∃ drop ∈ after.drops.find? dropId,
      drop.paidQuantity + 1 ≤ drop.totalQuantity) ↔ ∀ dropId ∈ order.dropAggregateId,
        ∃ drop ∈ inventory.drops.find? dropId, drop.paidQuantity + 1 ≤ drop.totalQuantity := by
    rw [stamp]
    refine forall_congr' fun dropId => forall_congr' fun _ => ?_
    rw [edition_left_iff, edition_left_iff, reacquireStock_counts ran]
  exact ⟨fun confirmable => editions.mp confirmable.2.2.1,
    fun left => ⟨held, wins, editions.mpr left, reserved⟩⟩

theorem reacquireStock_unpinnable {inventory after : Inventory} {order : Order} {now : Time}
    (ran : reacquireStock inventory order now = (.ok (), after)) :
    unpinnable after order = unpinnable inventory order := by
  have version (id : ListingId) : (after.listings.find? id).bind Listing.currentVersion =
      (inventory.listings.find? id).bind Listing.currentVersion := by
    have shifted := reacquireStock_listings ran id
    cases found : inventory.listings.find? id with
    | none => rw [shifted.missing found]
    | some listing =>
        obtain ⟨moved, present, moves⟩ := shifted.found found
        simp [present, moves.currentVersion]
  unfold unpinnable
  simp only [version]

/-! The confirmation. -/

theorem confirmOrder_ok_iff (view : View) (order : Order) (now : Time) :
    (∃ after, confirmOrder view order now = .ok after) ↔
      canTransition orderMachine order.state .paid = true ∧
        unpinnable view.inventory order = false ∧ view.book.receipt = none ∧
        Confirmable view.inventory order := by
  constructor
  · rintro ⟨after, confirmed⟩
    obtain ⟨payable, deliverable, unpaid, edition, inventory, stocked, -⟩ :=
      confirmOrder_ok confirmed
    exact ⟨payable, deliverable, unpaid,
      (confirmStock_ok_iff view.inventory order now).mp ⟨_, stocked⟩⟩
  · rintro ⟨payable, deliverable, unpaid, confirmable⟩
    obtain ⟨⟨edition, inventory⟩, stocked⟩ :=
      (confirmStock_ok_iff view.inventory order now).mpr confirmable
    unfold confirmOrder
    simp [payable, deliverable, unpaid, stocked, bind, Except.bind]

theorem completeLateOrder_ok_iff (view : View) (now : Time) :
    (∃ after, completeLateOrder view now = .ok after) ↔
      view.book.payment.state ∈ [PaymentState.expired, .awaitingEntitlement, .manualReview] ∧
        view.book.payment.resolution = none ∧ view.book.payment.manualReviewEnteredAt = none ∧
        canTransition orderMachine view.book.order.state .paid = true ∧
        unpinnable view.inventory view.book.order = false ∧ view.book.receipt = none ∧
        Confirmable view.inventory view.book.order := by
  constructor
  · rintro ⟨after, completed⟩
    obtain ⟨opened, unresolved, unentered, confirmed⟩ := completeLateOrder_ok completed
    exact ⟨opened, unresolved, unentered, (confirmOrder_ok_iff { view with
      book.payment := view.book.payment.moved .confirmed none none } view.book.order now).mp
        ⟨after, confirmed⟩⟩
  · rintro ⟨opened, unresolved, unentered, confirms⟩
    obtain ⟨after, confirmed⟩ := (confirmOrder_ok_iff { view with
      book.payment := view.book.payment.moved .confirmed none none }
      view.book.order now).mpr confirms
    refine ⟨after, ?_⟩
    have updated : view.book.updatePayment { view.book.payment with
        state := .confirmed
        revision := view.book.payment.revision + 1
        reviewReason := none } =
          .ok { view.book with payment := view.book.payment.moved .confirmed none none } := by
      unfold OrderBook.updatePayment
      rw [if_pos (by simp [Payment.checks, unentered])]
      simp [Payment.moved, unentered]
    unfold completeLateOrder
    simp only
    rw [if_pos ⟨opened, unresolved⟩, updated]
    exact confirmed

/-! The refund. -/

/-- The hold of the order is accounted to its drop and its listings, so that it
can be given back. -/
def HeldReturnable (inventory : Inventory) (order : Order) : Prop :=
  order.stockHeld = true → order.auctionAggregateId = none →
    (∀ dropId ∈ order.dropAggregateId, ∃ drop ∈ inventory.drops.find? dropId,
      drop.remainingQuantity + order.units ≤ drop.totalQuantity ∧
        ∃ purchase ∈ inventory.dropPurchases.find? (dropId, order.buyerPubky),
          order.units ≤ purchase.quantity) ∧
    ∀ line ∈ order.lines, ∃ listing ∈ inventory.listings.find? line.listing,
      linesOn line.listing order.lines ≤ listing.reservedQuantity

theorem creditOrderDrop_ok_iff (inventory : Inventory) (order : Order) (now : Time) :
    (creditOrderDrop inventory order now).1 = .ok () ↔
      ∀ dropId ∈ order.dropAggregateId, ∃ drop ∈ inventory.drops.find? dropId,
        drop.remainingQuantity + order.units ≤ drop.totalQuantity ∧
          ∃ purchase ∈ inventory.dropPurchases.find? (dropId, order.buyerPubky),
            order.units ≤ purchase.quantity := by
  unfold creditOrderDrop
  cases stamped : order.dropAggregateId with
  | none => simp
  | some dropId =>
      simp only [Option.mem_def, Option.some.injEq, forall_eq']
      unfold creditDropRelease
      cases found : inventory.drops.find? dropId with
      | none => simp
      | some drop =>
          simp only [Option.some.injEq, exists_eq_left']
          by_cases fits : drop.remainingQuantity + order.units ≤ drop.totalQuantity
          · cases counted : inventory.dropPurchases.find? (dropId, order.buyerPubky) with
            | none => simp [fits]
            | some purchase =>
                by_cases enough : order.units ≤ purchase.quantity <;> simp [fits, enough]
          · simp [fits]

theorem creditOrderDrop_listings (inventory : Inventory) (order : Order) (now : Time)
    (credited : (creditOrderDrop inventory order now).1 = .ok ()) :
    (creditOrderDrop inventory order now).2.listings = inventory.listings := by
  unfold creditOrderDrop at credited ⊢
  cases stamped : order.dropAggregateId with
  | none => rfl
  | some dropId =>
      simp only [stamped] at credited ⊢
      cases released : creditDropRelease inventory dropId order.buyerPubky order.units now with
      | mk added after =>
          cases added with
          | false => simp [released] at credited
          | true =>
              obtain ⟨drop, -, -, -, same, -⟩ := creditDropRelease_true released
              exact same.1

theorem andThen_ok_iff {State : Type} (first : Except Failure Unit × State)
    (next : State → Except Failure Unit × State) :
    (andThen first next).1 = .ok () ↔ first.1 = .ok () ∧ (next first.2).1 = .ok () := by
  obtain ⟨outcome, state⟩ := first
  cases outcome <;> simp [andThen]

theorem releaseHeld_ok_iff (inventory : Inventory) (order : Order) (now : Time) :
    (∃ after, releaseHeld inventory order now = .ok after) ↔ HeldReturnable inventory order := by
  unfold releaseHeld HeldReturnable
  by_cases held : order.stockHeld = true ∧ order.auctionAggregateId = none
  · rw [if_pos held, orRollback_ok_iff, andThen_ok_iff]
    simp only [held, forall_const]
    rw [← creditOrderDrop_ok_iff inventory order now]
    refine and_congr_right fun credited => ?_
    have completes := @forLines_completes _ listingMissing releaseReservedMove order.lines
      (creditOrderDrop inventory order now).2
    rw [creditOrderDrop_listings inventory order now credited] at completes
    simpa [releaseLines, releaseReservedMove] using completes
  · rw [if_neg held]
    simp only [Except.ok.injEq, exists_eq', true_iff]
    exact fun stocked single => absurd ⟨stocked, single⟩ held

theorem refundRequired_ok_iff (view : View) (order : Order) (reason : String) (now : Time) :
    (∃ after, refundRequired view order reason now = .ok after) ↔
      view.book.payment.state ∈
          [PaymentState.expired, .awaitingEntitlement, .manualReview, .detected] ∧
        view.book.payment.resolution = none ∧
        (order.state = .pendingPayment → HeldReturnable view.inventory order) := by
  rw [← releaseHeld_ok_iff view.inventory order now]
  constructor
  · rintro ⟨after, routed⟩
    obtain ⟨opened, unresolved, -, released⟩ := refundRequired_ok routed
    refine ⟨opened, unresolved, fun pending => ?_⟩
    rcases released with ⟨-, gave⟩ | ⟨settled, -⟩
    · exact ⟨after.inventory, gave⟩
    · exact absurd pending settled
  · rintro ⟨opened, unresolved, releases⟩
    unfold refundRequired stampReviewReason
    simp only [opened, unresolved, and_self, if_true]
    by_cases pending : order.state = .pendingPayment
    · obtain ⟨inventory, gave⟩ := releases pending
      simp [pending, gave, bind, Except.bind, pure, Except.pure]
    · simp [pending, bind, Except.bind, pure, Except.pure]

/-! Late money. -/

/-- The buyer's counter row has room for the units the drop has. -/
def LimitAllows (inventory : Inventory) (order : Order) : Prop :=
  ∀ dropId ∈ order.dropAggregateId, ∀ drop ∈ inventory.drops.find? dropId,
    order.units ≤ drop.remainingQuantity →
      ∀ purchase ∈ inventory.dropPurchases.find? (dropId, order.buyerPubky),
        purchase.quantity + order.units ≤ purchase.perBuyerLimit

theorem reacquireLines_failure {createdAt : Time} {lines : List Line} {failure : Failure} :
    ∀ {inventory after : Inventory},
      reacquireLines createdAt lines inventory = (.error failure, after) →
        failure = .stockUnavailable := by
  unfold reacquireLines
  induction lines with
  | nil =>
      intro inventory after failed
      cases failed
  | cons line rest ih =>
      intro inventory after failed
      unfold forLines at failed
      split at failed
      · cases failed
        rfl
      · rename_i listing found
        split at failed
        · rename_i reason refused
          cases failed
          unfold reacquireLine at refused
          split at refused
          · split at refused
            · cases refused
            · cases refused
              rfl
          · cases refused
            rfl
        · exact ih failed

/-- After the drop debit only missing stock is reported. -/
theorem reacquire_rest_failure {inventory after : Inventory} {order : Order} {now : Time}
    {failure : Failure}
    (failed : andThen (reacquireReservation inventory order now)
      (fun inventory => reacquireLines order.createdAt order.lines inventory) =
        (.error failure, after)) : failure = .stockUnavailable := by
  unfold reacquireReservation at failed
  cases auctioned : order.auctionAggregateId with
  | none =>
      simp only [auctioned, andThen] at failed
      exact reacquireLines_failure failed
  | some auction =>
      simp only [auctioned] at failed
      split at failed
      · exact reacquireLines_failure failed
      · cases failed
        rfl

/-- Missing stock is the only failure of `reacquire_hold`, but for a buyer whose
counter is full. -/
theorem reacquireStock_lost_iff {inventory after : Inventory} {order : Order} {now : Time}
    {failure : Failure} (failed : reacquireStock inventory order now = (.error failure, after)) :
    failure = .stockUnavailable ↔ LimitAllows inventory order := by
  unfold reacquireStock at failed
  cases ran : reacquireDrop inventory order now with
  | mk result debited =>
      rw [ran] at failed
      rcases (reacquireDrop_cases inventory order now ran).2 with
        ⟨unstamped, rfl, -⟩ | ⟨lacks, rfl, -⟩ |
        ⟨dropId, drop, stamped, found, enough, other, -, full, -⟩
      · refine iff_of_true (reacquire_rest_failure failed) fun dropId stamped => ?_
        rw [unstamped] at stamped
        cases stamped
      · cases failed
        refine iff_of_true rfl fun dropId stamped drop found enough => ?_
        obtain ⟨lacking, named, short⟩ := lacks
        obtain rfl : lacking = dropId := Option.mem_unique named stamped
        exact absurd enough (by have := short drop found; omega)
      · have limit : LimitAllows inventory order ↔
            ∀ purchase ∈ inventory.dropPurchases.find? (dropId, order.buyerPubky),
              purchase.quantity + order.units ≤ purchase.perBuyerLimit := by
          unfold LimitAllows
          simp [stamped, found, enough]
        rw [limit, ← full]
        cases result with
        | error reason =>
            cases failed
            refine iff_of_false (fun named => other (by rw [named])) (by simp)
        | ok done => exact iff_of_true (reacquire_rest_failure failed) rfl

/-- The rows let late money settle: its payment is open and unresolved, a
refund can give the hold back, and stock that can be taken again can be
confirmed. -/
structure LateSettles (view : View) : Prop where
  outside : view.book.order.paykitRequestState ≠ some .awaitingSellerConfirmation
  opened : view.book.payment.state ∈
    [PaymentState.expired, .awaitingEntitlement, .manualReview, .detected]
  unresolved : view.book.payment.resolution = none
  refundable : unpinnable view.inventory view.book.order = true →
    view.book.order.state = .pendingPayment → HeldReturnable view.inventory view.book.order
  limit : unpinnable view.inventory view.book.order = false →
    ¬ (view.book.order.state = .pendingPayment ∧ view.book.order.stockHeld = true) →
      LimitAllows view.inventory view.book.order
  completes : unpinnable view.inventory view.book.order = false →
    ¬ (view.book.order.state = .pendingPayment ∧ view.book.order.stockHeld = true) →
      Retakeable view.inventory view.book.order →
        view.book.payment.state ≠ .detected ∧ view.book.payment.manualReviewEnteredAt = none ∧
        canTransition orderMachine view.book.order.state .paid = true ∧
        view.book.receipt = none ∧
        ∀ dropId ∈ view.book.order.dropAggregateId, ∃ drop ∈ view.inventory.drops.find? dropId,
          drop.paidQuantity + 1 ≤ drop.totalQuantity

theorem Retakeable.limitAllows {inventory : Inventory} {order : Order}
    (retakeable : Retakeable inventory order) : LimitAllows inventory order := by
  intro dropId stamped drop found _ purchase counted
  obtain ⟨row, present, -, room⟩ := retakeable.1 dropId stamped
  exact room purchase counted

theorem stampReviewReason_ok_iff (view : View) (reason : ReviewReason) (now : Time) :
    (∃ after, stampReviewReason view reason now = .ok after) ↔
      view.book.payment.state ∈
          [PaymentState.expired, .awaitingEntitlement, .manualReview, .detected] ∧
        view.book.payment.resolution = none := by
  constructor
  · rintro ⟨after, stamped⟩
    obtain ⟨opened, unresolved, -⟩ := stampReviewReason_ok stamped
    exact ⟨opened, unresolved⟩
  · intro opened
    unfold stampReviewReason
    simp only
    rw [if_pos opened]
    exact ⟨_, rfl⟩

theorem completable_state (state : PaymentState) :
    state ∈ [PaymentState.expired, .awaitingEntitlement, .manualReview] ↔
      state ∈ [PaymentState.expired, .awaitingEntitlement, .manualReview, .detected] ∧
        state ≠ .detected := by
  cases state <;> simp

/-- Lost stock that was free again completes the order exactly when the
confirmation meets no refusal. -/
theorem applyLateMoney_taken_iff {view held : View} {now : Time}
    (retaken : reacquireHold view view.book.order now = (.ok (), held))
    (deliverable : unpinnable view.inventory view.book.order = false) :
    (∃ after, completeLateOrder held now = .ok after) ↔
      view.book.payment.state ∈ [PaymentState.expired, .awaitingEntitlement, .manualReview] ∧
        view.book.payment.resolution = none ∧ view.book.payment.manualReviewEnteredAt = none ∧
        canTransition orderMachine view.book.order.state .paid = true ∧
        view.book.receipt = none ∧
        ∀ dropId ∈ view.book.order.dropAggregateId, ∃ drop ∈ view.inventory.drops.find? dropId,
          drop.paidQuantity + 1 ≤ drop.totalQuantity := by
  obtain ⟨stock, written⟩ := reacquireHold_book retaken
  have row : held.book.order = if view.book.order.auctionAggregateId = none then
      { view.book.order with stockHeld := true } else view.book.order := by
    rcases written with ⟨-, single, book⟩ | ⟨auctioned, book⟩
    · rw [book, if_pos single]
    · have some_auction := auctioned rfl
      rw [book, if_neg fun single => by simp [single] at some_auction]
  have confirms := reacquireStock_confirmable stock row
  have payment : held.book.payment = view.book.payment := by
    rcases written with ⟨-, -, book⟩ | ⟨-, book⟩ <;> rw [book]
  have receipt : held.book.receipt = view.book.receipt := by
    rcases written with ⟨-, -, book⟩ | ⟨-, book⟩ <;> rw [book]
  have state : held.book.order.state = view.book.order.state := by
    rw [row]
    split <;> rfl
  have pinnable : unpinnable held.inventory held.book.order = false := by
    have same : unpinnable held.inventory held.book.order =
        unpinnable held.inventory view.book.order := by
      rw [row]
      split <;> rfl
    rw [same, reacquireStock_unpinnable stock, deliverable]
  rw [completeLateOrder_ok_iff, payment, receipt, state, confirms]
  simp [pinnable]

theorem applyLateMoney_ok_iff (view : View) (now : Time) :
    (∃ result, applyLateMoney view view.book.order now = .ok result) ↔ LateSettles view := by
  have mapped {outcome : LateMoneyOutcome} {step : Except Failure View} :
      (∃ result, (do let after ← step; return (outcome, after)) =
        (.ok result : Except Failure (LateMoneyOutcome × View))) ↔ ∃ after, step = .ok after := by
    cases step <;> simp [bind, Except.bind, pure, Except.pure]
  unfold applyLateMoney
  by_cases window : view.book.order.paykitRequestState = some .awaitingSellerConfirmation
  · rw [if_pos window]
    exact iff_of_false (by simp) fun settles => settles.outside window
  rw [if_neg window]
  by_cases undeliverable : unpinnable view.inventory view.book.order = true
  · rw [if_pos undeliverable, mapped, refundRequired_ok_iff]
    constructor
    · rintro ⟨opened, unresolved, returnable⟩
      exact ⟨window, opened, unresolved, fun _ => returnable,
        fun deliverable => by simp [undeliverable] at deliverable,
        fun deliverable => by simp [undeliverable] at deliverable⟩
    · exact fun settles => ⟨settles.opened, settles.unresolved, settles.refundable undeliverable⟩
  have deliverable : unpinnable view.inventory view.book.order = false := by
    simpa using undeliverable
  rw [if_neg undeliverable]
  by_cases held : view.book.order.state = .pendingPayment ∧ view.book.order.stockHeld = true
  · rw [if_pos held, mapped, stampReviewReason_ok_iff]
    constructor
    · rintro ⟨opened, unresolved⟩
      exact ⟨window, opened, unresolved, fun unpinned => absurd unpinned undeliverable,
        fun _ unheld => absurd held unheld, fun _ unheld => absurd held unheld⟩
    · exact fun settles => ⟨settles.opened, settles.unresolved⟩
  rw [if_neg held]
  cases ran : reacquireHold view view.book.order now with
  | mk result retaken =>
      obtain ⟨stock, written⟩ := reacquireHold_book ran
      have takes := reacquireStock_ok_iff view.inventory view.book.order now
      rw [stock] at takes
      cases result with
      | ok done =>
          have retakeable := takes.mp rfl
          simp only
          rw [mapped, applyLateMoney_taken_iff ran deliverable, completable_state]
          constructor
          · rintro ⟨⟨opened, undetected⟩, unresolved, unentered, payable, unpaid, editions⟩
            exact ⟨window, opened, unresolved, fun unpinned => absurd unpinned undeliverable,
              fun _ _ => retakeable.limitAllows,
              fun _ _ _ => ⟨undetected, unentered, payable, unpaid, editions⟩⟩
          · intro settles
            obtain ⟨undetected, unentered, payable, unpaid, editions⟩ :=
              settles.completes deliverable held retakeable
            exact ⟨⟨settles.opened, undetected⟩, settles.unresolved, unentered, payable, unpaid,
              editions⟩
      | error failure =>
          have lost : ¬ Retakeable view.inventory view.book.order := fun again => by
            cases takes.mpr again
          have limit := reacquireStock_lost_iff stock
          have same : retaken.book = view.book := by
            rcases written with ⟨taken, -⟩ | ⟨-, same⟩
            · cases taken
            · exact same
          by_cases missing : failure = .stockUnavailable
          · subst missing
            simp only
            rw [mapped, refundRequired_ok_iff, same]
            constructor
            · rintro ⟨opened, unresolved, -⟩
              exact ⟨window, opened, unresolved, fun unpinned => absurd unpinned undeliverable,
                fun _ _ => limit.mp rfl, fun _ _ again => absurd again lost⟩
            · intro settles
              exact ⟨settles.opened, settles.unresolved,
                fun pending stocked => absurd ⟨pending, stocked⟩ held⟩
          · refine iff_of_false ?_ fun settles =>
              missing (limit.mpr (settles.limit deliverable held))
            cases failure <;> simp at missing ⊢

end MarketplaceService
