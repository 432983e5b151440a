import MarketplaceService.StockTakers

/-!
The drop gate. A listing bound to a drop is to be sold through it: whoever
takes a unit debits the drop and counts it to the buyer. `inventory.reserve`
and a drop claim at checkout pass `enforce_drop_gate`, late money debits the
drop its order is stamped with, but `offer.accept` and the payment hold ask
for no drop, and a stamp is decided when the order is created, not when the
listing is bound.
-/

namespace MarketplaceService

/-! The transactions that pass the gate. -/

section Gate

variable {inventory after : Inventory} {now : Time}

theorem availableOf_setListing {id : ListingId} {listing : Listing} (other : ListingId) :
    (inventory.setListing id listing).availableOf other =
      if other = id then listing.availableQuantity else inventory.availableOf other := by
  unfold Inventory.availableOf Inventory.setListing
  rw [Keyed.Table.find?_set]
  by_cases here : other = id <;> simp [here]

theorem insertReservation_tables {id : ReservationId} {reservation : Reservation}
    (inserted : inventory.insertReservation id reservation = .ok after) :
    after.listings = inventory.listings ∧ after.drops = inventory.drops ∧
      after.dropPurchases = inventory.dropPurchases := by
  obtain ⟨-, rfl⟩ := insertReservation_ok inserted
  exact ⟨rfl, rfl, rfl⟩

/-- A checkout holds stock only for a claim of one unit of a drop. -/
inductive CheckoutHold (inventory : Inventory) (request : CheckoutRequest) (now : Time)
    (books : List OrderBook) (after : Inventory) : Prop
  | nothing (same : after = inventory)
      (unstamped : ∀ book ∈ books, book.order.dropAggregateId = none)
  | claim {line : CheckoutLine} {dropId : DropId} {drop : Drop} {gated : Inventory}
      {listing moved : Listing} (bound : lockBoundDrop inventory line.listing = some (dropId, drop))
      (gate : enforceDropGate inventory dropId drop request.buyer 1 now = .ok gated)
      (found : inventory.listings.find? line.listing = some listing)
      (shifted : Shifted 1 0 listing moved) (written : after = gated.setListing line.listing moved)
      (stamped : ∀ book ∈ books, book.order.dropAggregateId = some dropId ∧
        book.order.buyerPubky = request.buyer ∧
        ∃ only, book.order.lines = [only] ∧ only.quantity = 1)
      (single : books.length = 1)

theorem checkoutCreate_hold {request : CheckoutRequest} {books : List OrderBook}
    (created : checkoutCreate inventory request now = .ok (books, after)) :
    CheckoutHold inventory request now books after := by
  obtain ⟨stamp, gated, resolved, asset, claimed, ran, -, ids, rfl, held⟩ :=
    checkoutCreate_ok created
  obtain ⟨lines, rows⟩ := resolveLines_ok ran
  unfold claimDrop at claimed
  split at claimed
  · cases claimed
    cases held
    refine .nothing rfl ?_
    intro book member
    obtain ⟨pair, -, rfl⟩ := List.mem_map.mp member
    rfl
  · rename_i dropId drop bound
    split at claimed
    · rename_i line only
      obtain ⟨single, claimed⟩ := Outcome.guard_ok claimed
      obtain ⟨gate, passed, written⟩ := Outcome.bind_ok claimed
      cases Outcome.pure_ok written
      rw [only] at lines bound
      obtain ⟨first, rfl⟩ : ∃ first, resolved = [first] :=
        List.length_eq_one_iff.mp (by simpa using congrArg List.length lines)
      obtain rfl : first.line = line := by simpa using lines
      have locked : lockBoundDrop inventory first.line.listing = some (dropId, drop) := by
        obtain ⟨entry, member, locked⟩ := List.exists_of_findSome?_eq_some bound
        rwa [List.mem_singleton.mp member] at locked
      have found : inventory.listings.find? first.line.listing = some first.row := by
        rw [← (enforceDropGate_same (lockBoundDrop_found locked) passed).1]
        exact (rows first (by simp)).1
      cases holdClaim_ok held with
      | claim enough =>
          have one : first.line.quantity = 1 := not_not.mp single
          have shifted := hold_shifted first.row first.line.quantity enough
          refine .claim locked passed found (by simpa [one] using shifted) rfl ?_ ?_
          · intro book member
            obtain ⟨⟨order, group⟩, paired, rfl⟩ := List.mem_map.mp member
            have grouped : group ∈ groupLines [first] := (List.of_mem_zip paired).2
            obtain rfl : group = _ := List.mem_singleton.mp grouped
            exact ⟨rfl, rfl, first.orderLine, rfl, one⟩
          · rw [List.length_map, List.length_zip, ids, Nat.min_self]
            rfl
    · cases claimed

end Gate

/-! The terms of the drops, over whole runs. -/

theorem Taking.sameTerms {now : Time} {inventory after : Inventory} {standing done : Standing}
    {action : OrderAction} (taking : Taking now inventory standing action after done) :
    SameTerms inventory after := by
  cases taking with
  | nothing restocked => exact restocked.terms
  | hold acquires single free acquired rest =>
      obtain ⟨-, drops, purchases, -⟩ := forLines_frame (orRollback_ok acquired)
      exact (SameTerms.of_tables drops purchases).trans rest.terms
  | @retake order result taken retakes terms deliverable unheld ran rest holds =>
      have first : SameTerms inventory taken := by
        unfold reacquireStock at ran
        have debits := @reacquireDrop_terms inventory now order
        cases debited : reacquireDrop inventory order now with
        | mk outcome middle =>
            rw [debited] at debits ran
            cases outcome with
            | error failure =>
                cases ran
                exact debits
            | ok _ =>
                have reserved := reacquireReservation_cases middle order now rfl
                have tables : SameTerms middle (reacquireReservation middle order now).2 :=
                  .of_tables reserved.2.1 reserved.2.2.1
                cases again : reacquireReservation middle order now with
                | mk outcome last =>
                    rw [again] at tables
                    simp only [andThen, again] at ran
                    cases outcome with
                    | error failure =>
                        cases ran
                        exact debits.trans tables
                    | ok _ =>
                        obtain ⟨-, drops, purchases, -⟩ := forLines_frame ran
                        exact debits.trans (tables.trans (.of_tables drops purchases))
      exact first.trans rest.terms

theorem CellStep.taking {references : References} {now : Time} {inventory after : Inventory}
    {cell done : Cell} {action : OrderAction} (sound : Sound cell)
    (step : CellStep references now inventory cell action after done) :
    Taking now inventory cell.book.standing action after done.book.standing := by
  obtain ⟨moved, move, tidied⟩ := step.moves
  have taking := move.taking sound.coherent
  cases taking with
  | nothing restocked => exact .nothing restocked
  | hold acquires single free acquired rest => exact .hold acquires single free acquired rest
  | retake retakes terms deliverable unheld ran rest holds =>
      refine .retake ?_ terms deliverable unheld ran rest holds
      cases retakes with
      | late entered => exact .late entered
      | reported rail money flagged => exact .reported rail money flagged
      | ruled unpaid paid =>
          refine .ruled unpaid ?_
          rw [tidied.eq]
          exact paid

/-- A `drop.sync`: its drop, its record and the time it has read. -/
def Action.syncOf : Action → Option (DropId × DropRecord × Time)
  | .syncDrop id record readAt => some (id, record, readAt)
  | _ => none

/-- The time by which a step judges whether a drop has started. -/
def Action.readAt (sys : Sys) (action : Action) : Time :=
  (action.syncOf.map fun sync => sync.2.2).getD sys.clock

theorem step_dropTerms {references : References} {sys after : Sys} {action : Action}
    (sound : ∀ id cell, sys.cells.find? id = some cell → Sound cell)
    (stepped : sys.step references action = some after) :
    TermsStep (action.readAt sys) sys.inventory after.inventory := by
  have stocked {result : Except Failure Inventory}
      (keeps : ∀ inventory, result = .ok inventory →
        TermsStep (action.readAt sys) sys.inventory inventory)
      (stocked : sys.setInventory result = some after) :
      TermsStep (action.readAt sys) sys.inventory after.inventory := by
    obtain ⟨inventory, ran, rfl⟩ := Option.map_eq_some_iff.mp stocked
    exact keeps inventory (Outcome.toOption_some ran)
  cases action with
  | tick seconds =>
      cases stepped
      exact .of_tables rfl rfl
  | order id now step =>
      obtain ⟨cell, found, -⟩ := Option.bind_eq_some_iff.mp stepped
      obtain ⟨done, -, ran⟩ := order_step found stepped
      have sound := sound id cell found
      exact .of_same ((stepCell_steps sound ran).taking sound).sameTerms
  | checkout request =>
      obtain ⟨⟨books, inventory⟩, created, inserted⟩ := Option.bind_eq_some_iff.mp stepped
      rw [insert_inventory inserted]
      cases checkoutCreate_hold (Outcome.toOption_some created) with
      | nothing same unstamped =>
          rw [same]
          exact .of_tables rfl rfl
      | claim bound gate found shifted written stamped =>
          rw [written]
          exact (enforceDropGate_terms (lockBoundDrop_found bound) gate).1.then_same
            (.of_tables rfl rfl)
  | offerCheckout award order fulfillment holdWindowSeconds =>
      obtain ⟨⟨book, inventory⟩, created, inserted⟩ := Option.bind_eq_some_iff.mp stepped
      rw [insert_inventory inserted]
      exact .of_same (offerCheckout_terms (Outcome.toOption_some created)).1
  | closeAuction listing winner priceMinor reservation order =>
      obtain ⟨⟨book, inventory⟩, created, inserted⟩ := Option.bind_eq_some_iff.mp stepped
      rw [insert_inventory inserted]
      exact .of_same (closeAuction_terms (Outcome.toOption_some created)).1
  | placeBid listing => exact stocked (fun _ ran => .of_same (placeBid_terms ran)) stepped
  | closeUnsold listing => exact stocked (fun _ ran => .of_same (closeUnsold_terms ran)) stepped
  | registerListing listing record sender recordFound =>
      refine stocked (fun inventory ran => ?_) stepped
      obtain ⟨listing, rfl, -⟩ := registerListing_ok ran
      exact .of_tables rfl rfl
  | syncListing listing record =>
      refine stocked (fun inventory ran => ?_) stepped
      obtain ⟨listing, rfl, -⟩ := syncListing_ok ran
      exact .of_tables rfl rfl
  | tombstone listing =>
      obtain ⟨inventory, deleted, rfl⟩ := Option.map_eq_some_iff.mp stepped
      exact .of_same (tombstone_terms deleted)
  | adjustInventory listing sender delta =>
      exact stocked (fun _ ran => .of_same (adjustInventory_terms ran)) stepped
  | setDigitalVersion listing kind =>
      obtain ⟨inventory, written, rfl⟩ := Option.map_eq_some_iff.mp stepped
      obtain ⟨listing, -, rfl⟩ := Option.map_eq_some_iff.mp written
      exact .of_tables rfl rfl
  | reserveInventory reservation listing sender quantity ttlSeconds =>
      refine stocked (fun inventory ran => ?_) stepped
      obtain ⟨-, -, -, gated, -, taken, written⟩ := reserveInventory_ok ran
      rename_i held gate
      have moved : SameTerms gate (gate.setListing listing held) := .of_tables rfl rfl
      have listed := moved.trans (insertReservation_terms written)
      split at gated
      · rw [← gated]
        exact .of_same listed
      · rename_i dropId drop bound
        exact (enforceDropGate_terms (lockBoundDrop_found bound) gated.2).1.then_same listed
  | expireReservation reservation =>
      obtain ⟨-, stepped⟩ := Option.ite_none_left_eq_some.mp stepped
      exact stocked (fun _ ran => .of_same (expireDueReservation_terms ran)) stepped
  | acceptOffer award readAt =>
      obtain ⟨-, stepped⟩ := Option.ite_none_left_eq_some.mp stepped
      exact stocked (fun _ ran => .of_same (acceptOffer_terms ran)) stepped
  | expireAward award => exact stocked (fun _ ran => .of_same (expireDueAward_terms ran)) stepped
  | syncDrop drop record readAt =>
      obtain ⟨-, stepped⟩ := Option.ite_none_left_eq_some.mp stepped
      refine stocked (fun _ ran => syncDrop_termsStep ran ?_) stepped
      exact (syncDrop_found ran).imp_right fun found drop known => (found drop known).2
  | cancelDrop drop sender => exact stocked (fun _ ran => .of_same (cancelDrop_terms ran)) stepped
  | releaseDropListings drop sender =>
      exact stocked (fun _ ran => .of_same (releaseDropListings_terms ran)) stepped
  | transitionDrop drop =>
      cases stepped
      exact .of_same (transitionDueDrop_terms ..)

/-- A stamped order is for one unit of one listing, and its buyer has a counter
row at the drop. -/
def WholeStamp (inventory : Inventory) (order : Order) : Prop :=
  ∀ dropId ∈ order.dropAggregateId,
    (∃ only, order.lines = [only] ∧ only.quantity = 1) ∧
      (inventory.limitOf (dropId, order.buyerPubky)).isSome = true

theorem WholeStamp.of_terms {before after : Inventory} {order other : Order} {now : Time}
    (whole : WholeStamp before order) (terms : other.terms = order.terms)
    (step : TermsStep now before after) : WholeStamp after other := by
  simp only [Order.terms, Terms.mk.injEq] at terms
  obtain ⟨-, -, drop, buyer, -, lines, -⟩ := terms
  intro dropId stamped
  rw [drop] at stamped
  obtain ⟨single, counted⟩ := whole dropId stamped
  rw [lines, buyer]
  exact ⟨single, step.rows _ counted⟩

def DropBooks (sys : Sys) : Prop :=
  ∀ id cell, sys.cells.find? id = some cell → WholeStamp sys.inventory cell.book.order

def Action.creates : Action → Bool
  | .checkout _ | .offerCheckout .. | .closeAuction .. => true
  | _ => false

theorem step_beside {references : References} {sys after : Sys} {action : Action}
    (stepped : sys.step references action = some after) (foreign : action.onOrder = none)
    (plain : action.creates = false) : after.cells = sys.cells ∧ sys.clock ≤ after.clock := by
  have stocked {result : Except Failure Inventory}
      (written : sys.setInventory result = some after) :
      after.cells = sys.cells ∧ sys.clock ≤ after.clock := by
    obtain ⟨inventory, -, rfl⟩ := Option.map_eq_some_iff.mp written
    exact ⟨rfl, Nat.le_refl _⟩
  cases action with
  | tick seconds =>
      cases stepped
      exact ⟨rfl, Nat.le_add_right _ _⟩
  | order id now step => cases foreign
  | checkout request => cases plain
  | offerCheckout award order fulfillment holdWindowSeconds => cases plain
  | closeAuction listing winner priceMinor reservation order => cases plain
  | placeBid listing => exact stocked stepped
  | closeUnsold listing => exact stocked stepped
  | registerListing listing record sender recordFound => exact stocked stepped
  | syncListing listing record => exact stocked stepped
  | tombstone listing =>
      obtain ⟨inventory, -, rfl⟩ := Option.map_eq_some_iff.mp stepped
      exact ⟨rfl, Nat.le_refl _⟩
  | adjustInventory listing sender delta => exact stocked stepped
  | setDigitalVersion listing kind =>
      obtain ⟨inventory, -, rfl⟩ := Option.map_eq_some_iff.mp stepped
      exact ⟨rfl, Nat.le_refl _⟩
  | reserveInventory reservation listing sender quantity ttlSeconds => exact stocked stepped
  | expireReservation reservation =>
      obtain ⟨-, stepped⟩ := Option.ite_none_left_eq_some.mp stepped
      exact stocked stepped
  | acceptOffer award readAt =>
      obtain ⟨-, stepped⟩ := Option.ite_none_left_eq_some.mp stepped
      exact stocked stepped
  | expireAward award => exact stocked stepped
  | syncDrop drop record readAt =>
      obtain ⟨-, stepped⟩ := Option.ite_none_left_eq_some.mp stepped
      exact stocked stepped
  | cancelDrop drop sender => exact stocked stepped
  | releaseDropListings drop sender => exact stocked stepped
  | transitionDrop drop =>
      cases stepped
      exact ⟨rfl, Nat.le_refl _⟩

theorem insert_clock {inventory : Inventory} {books : List OrderBook} :
    ∀ {sys after : Sys}, sys.insert inventory books = some after → sys.clock = after.clock := by
  induction books with
  | nil =>
      intro sys after inserted
      cases inserted
      rfl
  | cons book rest ih =>
      intro sys after inserted
      unfold Sys.insert at inserted
      obtain ⟨-, inserted⟩ := Option.ite_none_left_eq_some.mp inserted
      have tail := ih inserted
      exact tail

theorem step_clock {references : References} {sys after : Sys} {action : Action}
    (stepped : sys.step references action = some after) : sys.clock ≤ after.clock := by
  cases ordered : action.onOrder with
  | some step =>
      obtain rfl : action = .order step.1 step.2.1 step.2.2 := by
        cases action <;> cases ordered
        rfl
      obtain ⟨cell, -, stepped⟩ := Option.bind_eq_some_iff.mp stepped
      obtain ⟨pair, -, rfl⟩ := Option.map_eq_some_iff.mp stepped
      exact Nat.le_refl _
  | none =>
      by_cases creates : action.creates = true
      · cases action <;> cases creates
        all_goals
          obtain ⟨pair, -, written⟩ := Option.bind_eq_some_iff.mp stepped
          exact (insert_clock written).le
      · exact (step_beside stepped ordered (by simpa using creates)).2

theorem created_stamp {references : References} {sys after : Sys} {action : Action} {id : OrderId}
    {cell : Cell} (stepped : sys.step references action = some after)
    (foreign : action.onOrder = none) (found : after.cells.find? id = some cell) :
    sys.cells.find? id = some cell ∨ WholeStamp after.inventory cell.book.order := by
  have inserts {inventory : Inventory} {books : List OrderBook}
      (whole : ∀ book ∈ books, WholeStamp inventory book.order)
      (inserted : sys.insert inventory books = some after) :
      sys.cells.find? id = some cell ∨ WholeStamp after.inventory cell.book.order := by
    rcases insert_cells inserted found with old | ⟨-, book, member, -, rfl⟩
    · exact .inl old
    · rw [insert_inventory inserted]
      exact .inr (whole book member)
  have single {inventory : Inventory} {book : OrderBook}
      (unstamped : book.order.dropAggregateId = none)
      (inserted : sys.insert inventory [book] = some after) :
      sys.cells.find? id = some cell ∨ WholeStamp after.inventory cell.book.order := by
    refine inserts ?_ inserted
    intro only member
    rw [List.mem_singleton.mp member, WholeStamp, unstamped]
    simp
  by_cases creates : action.creates = true
  · cases action with
    | checkout request =>
        obtain ⟨⟨books, inventory⟩, created, inserted⟩ := Option.bind_eq_some_iff.mp stepped
        refine inserts ?_ inserted
        intro book member dropId stamp
        cases checkoutCreate_hold (Outcome.toOption_some created) with
        | nothing same unstamped =>
            rw [unstamped book member] at stamp
            cases stamp
        | claim bound gate found shifted written stamped =>
            obtain ⟨named, buyer, lines⟩ := stamped book member
            rw [named] at stamp
            cases stamp
            refine ⟨lines, ?_⟩
            rw [written, buyer]
            exact Option.isSome_of_eq_some
              (enforceDropGate_terms (lockBoundDrop_found bound) gate).2
    | offerCheckout award order fulfillment holdWindowSeconds =>
        obtain ⟨⟨book, inventory⟩, created, inserted⟩ := Option.bind_eq_some_iff.mp stepped
        exact single (offerCheckout_terms (Outcome.toOption_some created)).2 inserted
    | closeAuction listing winner priceMinor reservation order =>
        obtain ⟨⟨book, inventory⟩, created, inserted⟩ := Option.bind_eq_some_iff.mp stepped
        exact single (closeAuction_terms (Outcome.toOption_some created)).2 inserted
    | _ => cases creates
  · rw [(step_beside stepped foreign (by simpa using creates)).1] at found
    exact .inl found

theorem DropBooks.step {references : References} {sys after : Sys} {action : Action}
    (books : DropBooks sys) (sound : ∀ id cell, sys.cells.find? id = some cell → Sound cell)
    (stepped : sys.step references action = some after) : DropBooks after := by
  have terms := step_dropTerms sound stepped
  intro id cell found
  have beside (foreign : action.onOrder = none) : WholeStamp after.inventory cell.book.order := by
    rcases created_stamp stepped foreign found with old | whole
    · exact (books id cell old).of_terms rfl terms
    · exact whole
  cases step_inv stepped with
  | created foreign fresh inserted => exact beside foreign
  | beside foreign cells => exact beside foreign
  | @order other now step before done named present ran cells =>
      rw [cells, Keyed.Table.find?_set] at found
      split at found
      · cases found
        have known := sound other before present
        have steady := (stepCell_steps known ran).steady known
        exact (books other before present).of_terms steady.terms terms
      · exact (books id cell found).of_terms rfl terms

theorem reachable_dropBooks {references : References} {allowed : Sys → Action → Prop} {sys : Sys}
    (reached : Runs.Reachable (marketplace references) allowed sys) : DropBooks sys := by
  refine Runs.invariant_under (marketplace references) allowed
    (fun sys => ∀ id cell, sys.cells.find? id = some cell → Sound cell) DropBooks
    (fun _ reached _ _ found => reachable_sound reached found) ?_ ?_ reached
  · intro sys init
    rw [show sys = emptySys from init]
    intro id cell found
    cases found
  · intro before action after sound books _ stepped
    exact books.step sound stepped

/-! What a loop takes. -/

theorem linesOn_mem {id : ListingId} {lines : List Line} (positive : 0 < linesOn id lines) :
    ∃ line ∈ lines, line.listing = id ∧ line.quantity ≤ linesOn id lines := by
  induction lines with
  | nil => cases positive
  | cons head rest ih =>
      rw [linesOn_cons] at positive ⊢
      by_cases here : head.listing = id
      · refine ⟨head, List.mem_cons_self, here, ?_⟩
        rw [if_pos here]
        exact Nat.le_add_right _ _
      · rw [if_neg here, Nat.zero_add] at positive ⊢
        obtain ⟨line, member, same, within⟩ := ih positive
        exact ⟨line, List.mem_cons_of_mem _ member, same, within⟩

theorem forLines_available {each : Line → Listing → Except Failure Listing} {missing : Failure}
    (move : LineMove each) (takes : move.reserved = 1) (unsold : move.sold = 0) {lines : List Line}
    {inventory after : Inventory} (ran : forLines each missing lines inventory = (.ok (), after))
    (id : ListingId) : after.availableOf id + linesOn id lines = inventory.availableOf id := by
  have shifted := forLines_shifted move ran id
  unfold Inventory.availableOf
  cases found : inventory.listings.find? id with
  | none => simp [shifted.missing found, forLines_missing move ran found]
  | some listing =>
      obtain ⟨moved, present, shift⟩ := shifted.found found
      have available := shift.available
      rw [takes, unsold] at available
      simp only [present, Option.map_some, Option.getD_some]
      omega

theorem reacquireStock_takes {inventory taken : Inventory} {order : Order} {now : Time}
    {result : Except Failure Unit} {id : ListingId}
    (ran : reacquireStock inventory order now = (result, taken))
    (lowered : taken.availableOf id < inventory.availableOf id) :
    ∃ debited lines rest, reacquireDrop inventory order now = (.ok (), debited) ∧
      taken.drops = debited.drops ∧ taken.dropPurchases = debited.dropPurchases ∧
      order.lines = lines ++ rest ∧
      taken.availableOf id + linesOn id lines = inventory.availableOf id := by
  have unmoved {middle : Inventory} (listings : middle.listings = inventory.listings) :
      middle.availableOf id = inventory.availableOf id := by
    rw [Inventory.availableOf, Inventory.availableOf, listings]
  unfold reacquireStock at ran
  cases debit : reacquireDrop inventory order now with
  | mk outcome debited =>
      have listings := (reacquireDrop_cases inventory order now debit).1.1
      rw [debit] at ran
      cases outcome with
      | error failure =>
          cases ran
          exact absurd (unmoved listings) lowered.ne
      | ok _ =>
          simp only [andThen] at ran
          cases again : reacquireReservation debited order now with
          | mk outcome reserved =>
              obtain ⟨kept, drops, purchases, -⟩ :=
                reacquireReservation_cases debited order now again
              rw [again] at ran
              cases outcome with
              | error failure =>
                  cases ran
                  exact absurd (unmoved (kept.trans listings)) lowered.ne
              | ok _ =>
                  simp only at ran
                  have frame := forLines_frame ran
                  obtain ⟨lines, rest, split, looped⟩ : ∃ lines rest, order.lines = lines ++ rest ∧
                      reacquireLines order.createdAt lines reserved = (.ok (), taken) := by
                    cases result with
                    | ok _ => exact ⟨order.lines, [], by simp, ran⟩
                    | error failure =>
                        obtain ⟨lines, line, rest, split, looped, -⟩ := forLines_stop ran
                        exact ⟨lines, line :: rest, split, looped⟩
                  have available :=
                    forLines_available (reacquireMove order.createdAt) rfl rfl looped id
                  rw [unmoved (kept.trans listings)] at available
                  exact ⟨debited, lines, rest, rfl, frame.2.1.trans drops,
                    frame.2.2.1.trans purchases, split, available⟩

/-! The law. -/

/-- The step takes a lost hold again: money that comes late, or the ruling
that the order is paid. -/
def OrderAction.retakes (book : OrderBook) : OrderAction → Bool
  | .resolveReview input => input.outcome == .paid
  | action =>
      action.entersLate book ||
        (action.rail == some .poll && action.appliesMoney && action.reportsLate)

/-- For whom a transaction takes stock, when, and whether a buyer started
it. -/
structure Taker where
  buyer : Pubky
  now : Time
  initiated : Bool
deriving DecidableEq, Repr

/-- The transactions that move units from available to reserved for a
buyer. -/
def Action.taker (sys : Sys) : Action → Option Taker
  | .checkout request => some { buyer := request.buyer, now := sys.clock, initiated := true }
  | .reserveInventory _ _ sender _ _ =>
      some { buyer := sender.actor, now := sys.clock, initiated := true }
  | .acceptOffer award readAt =>
      some { buyer := award.buyerPubky, now := readAt, initiated := true }
  | .order id now step =>
      (sys.cells.find? id).map fun cell =>
        { buyer := cell.book.order.buyerPubky
          now := now
          initiated := !step.retakes cell.book }
  | _ => none

/-- The units a transaction takes out of a listing's available column. -/
def takenUnits (before after : Inventory) (id : ListingId) : ℕ :=
  before.availableOf id - after.availableOf id

/-- The units are debited from the drop and counted to the buyer, within the
limit of the counter row: that of the drop at the buyer's first unit. A buyer
takes them while the drop is on sale, and within the drop's own limit. -/
structure Gated (taker : Taker) (dropId : DropId) (drop : Drop) (units : ℕ)
    (before after : Inventory) : Prop where
  debited : ∃ row ∈ after.drops.find? dropId, row.remainingQuantity + units = drop.remainingQuantity
  counted : heldUnits after dropId taker.buyer = heldUnits before dropId taker.buyer + units
  within : ∃ limit ∈ after.limitOf (dropId, taker.buyer),
    heldUnits after dropId taker.buyer ≤ limit ∧
      limit = (before.limitOf (dropId, taker.buyer)).getD drop.perBuyerLimit
  onSale : taker.initiated = true → drop.startsAt ≤ taker.now ∧
    (∀ ends ∈ drop.endsAt, taker.now < ends) ∧ isActiveState drop.state = true ∧
      heldUnits after dropId taker.buyer ≤ drop.perBuyerLimit

/-- Whatever the transaction takes of a listing bound to a drop passes the
gate. -/
def GateLaw (sys : Sys) (action : Action) (after : Sys) : Prop :=
  ∀ taker ∈ action.taker sys, ∀ listing, ∀ bound ∈ lockBoundDrop sys.inventory listing,
    0 < takenUnits sys.inventory after.inventory listing →
      Gated taker bound.1 bound.2 (takenUnits sys.inventory after.inventory listing)
        sys.inventory after.inventory

def holdsUnbound (inventory : Inventory) (order : Order) : Prop :=
  order.auctionAggregateId = none → order.stockHeld = false →
    ∀ line ∈ order.lines, lockBoundDrop inventory line.listing = none

instance (inventory : Inventory) (order : Order) : Decidable (holdsUnbound inventory order) :=
  inferInstanceAs (Decidable (_ → _ → ∀ line ∈ order.lines, _))

/-- A deliverable order without its hold finds units only of listings that are
unbound or bound to the order's own drop. -/
def retakesOwn (inventory : Inventory) (order : Order) : Prop :=
  unpinnable inventory order = false →
    ¬ (order.state = .pendingPayment ∧ order.stockHeld = true) →
      ∀ line ∈ order.lines, line.quantity ≤ inventory.availableOf line.listing →
        ∀ bound ∈ lockBoundDrop inventory line.listing, order.dropAggregateId = some bound.1

instance (inventory : Inventory) (order : Order) : Decidable (retakesOwn inventory order) :=
  inferInstanceAs (Decidable (_ → _ → ∀ line ∈ order.lines, _ →
    ∀ bound ∈ lockBoundDrop inventory line.listing, _))

/-- No accepted offer, payment hold or late money goes around the gate. -/
def throughGate (sys : Sys) : Action → Prop
  | .acceptOffer award _ => lockBoundDrop sys.inventory award.listing = none
  | .order id _ step =>
      ∀ cell ∈ sys.cells.find? id,
        (step.acquiresHold = true → holdsUnbound sys.inventory cell.book.order) ∧
          (step.retakes cell.book = true → retakesOwn sys.inventory cell.book.order)
  | _ => True

/-! The order steps that take a hold again. -/

section Resolution

variable {view after : View} {input : ResolutionInput} {now : Time}

theorem cancelHeldOrder_receipt {reason : String}
    (cancelled : cancelHeldOrder view reason now = .ok after) :
    after.book.receipt = view.book.receipt := by
  unfold cancelHeldOrder at cancelled
  simp only at cancelled
  split at cancelled <;>
    obtain ⟨inventory, -, written⟩ := Outcome.bind_ok cancelled <;>
    cases Outcome.pure_ok written <;> rfl

theorem applyRefundedEffects_receipt (ran : applyRefundedEffects view input now = .ok after) :
    after.book.receipt = view.book.receipt := by
  unfold applyRefundedEffects at ran
  simp only at ran
  split at ran
  · obtain ⟨middle, cancelled, ran⟩ := Outcome.bind_ok ran
    obtain ⟨-, ran⟩ := Outcome.guard_ok ran
    split at ran
    · cases ran
    · obtain ⟨book, updated, written⟩ := Outcome.bind_ok ran
      cases Outcome.pure_ok written
      obtain ⟨rfl, -, -⟩ := updateOrder_ok updated
      have kept := cancelHeldOrder_receipt cancelled
      exact kept
  · obtain ⟨-, ran⟩ := Outcome.guard_ok ran
    split at ran
    · cases ran
    · obtain ⟨book, updated, written⟩ := Outcome.bind_ok ran
      cases Outcome.pure_ok written
      obtain ⟨rfl, -, -⟩ := updateOrder_ok updated
      rfl

theorem applyAbandonedEffects_receipt (ran : applyAbandonedEffects view now = .ok after) :
    after.book.receipt = view.book.receipt := by
  unfold applyAbandonedEffects at ran
  split at ran
  · exact cancelHeldOrder_receipt ran
  · cases ran
    rfl
  · cases ran

theorem resolution_receipt (resolved : applyManualReviewResolution view input now = .ok after)
    (other : input.outcome ≠ .paid) : after.book.receipt = view.book.receipt := by
  unfold applyManualReviewResolution at resolved
  simp only at resolved
  obtain ⟨-, resolved⟩ := Outcome.guard_ok resolved
  obtain ⟨-, resolved⟩ := Outcome.guard_ok resolved
  obtain ⟨-, resolved⟩ := Outcome.guard_ok resolved
  have finish {applied : View} {book : OrderBook} {row : ManualResolution}
      (queued : enqueueResolveRow { applied.book with manualResolution := some row }
        view.book.order = .ok book) : book.receipt = applied.book.receipt := by
    obtain ⟨-, -, rfl⟩ := enqueueResolveRow_ok queued
    rfl
  cases decided : input.outcome with
  | paid => exact absurd decided other
  | refunded =>
      simp only [decided] at resolved
      obtain ⟨applied, ran, rest⟩ := Outcome.bind_ok resolved
      obtain ⟨-, rest⟩ := Outcome.guard_ok rest
      obtain ⟨book, queued, written⟩ := Outcome.bind_ok rest
      cases Outcome.pure_ok written
      have effects := applyRefundedEffects_receipt ran
      exact (finish queued).trans effects
  | abandoned =>
      simp only [decided] at resolved
      obtain ⟨applied, ran, rest⟩ := Outcome.bind_ok resolved
      obtain ⟨-, rest⟩ := Outcome.guard_ok rest
      obtain ⟨book, queued, written⟩ := Outcome.bind_ok rest
      cases Outcome.pure_ok written
      have effects := applyAbandonedEffects_receipt ran
      exact (finish queued).trans effects

end Resolution

theorem Retakes.retakes {references : References} {inventory after : Inventory} {cell done : Cell}
    {now : Time} {action : OrderAction}
    (retakes : Retakes cell.book.standing done.book.standing action)
    (ran : stepCell references inventory cell now action = some (after, done)) :
    action.retakes cell.book = true := by
  have other (entered : action.entersLate cell.book = true ∨
      action.rail = some .poll ∧ action.appliesMoney = true ∧ action.reportsLate = true) :
      action.retakes cell.book = true := by
    unfold OrderAction.retakes
    split
    · rcases entered with late | ⟨rail, -⟩
      · cases late
      · cases rail
    · rcases entered with late | ⟨rail, money, flagged⟩
      · simp [late]
      · simp [rail, money, flagged]
  cases retakes with
  | late entered => exact other (.inl entered.entersLate)
  | reported rail money flagged => exact other (.inr ⟨rail, money, flagged⟩)
  | @ruled input unpaid paid =>
      have outcome : input.outcome = .paid := by
        by_contra unruled
        obtain ⟨effect, transacted, -, rfl⟩ := stepCell_transacts ran
        obtain ⟨-, transacted⟩ := Option.ite_none_right_eq_some.mp transacted
        have same := resolution_receipt (Effect.ofView_some transacted).1 unruled
        have kept : effect.view.book.receipt = cell.book.receipt := same
        have issued : effect.view.book.standing.receipt.isSome = true := paid
        rw [OrderBook.standing, kept] at issued
        rw [OrderBook.standing] at unpaid
        simp only at issued unpaid
        rw [unpaid] at issued
        cases issued
      simp [OrderAction.retakes, outcome]

/-! The gate, step by step. -/

theorem remaining_row {inventory : Inventory} {dropId : DropId} {left : ℕ}
    (counts : (inventory.countsOf dropId).map Counts.remaining = some left) :
    ∃ row ∈ inventory.drops.find? dropId, row.remainingQuantity = left := by
  obtain ⟨counted, known, same⟩ := Option.map_eq_some_iff.mp counts
  obtain ⟨row, found, rfl⟩ := Option.map_eq_some_iff.mp known
  exact ⟨row, found, same⟩

/-- A hold of one unit that passed `enforce_drop_gate`. -/
theorem Gated.of_gate {taker : Taker} {inventory gated after : Inventory} {dropId : DropId}
    {drop : Drop} (found : inventory.drops.find? dropId = some drop)
    (gate : enforceDropGate inventory dropId drop taker.buyer 1 taker.now = .ok gated)
    (drops : after.drops = gated.drops) (purchases : after.dropPurchases = gated.dropPurchases) :
    Gated taker dropId drop 1 inventory after := by
  obtain ⟨begun, running, active, room⟩ := enforceDropGate_open found gate
  obtain ⟨enough, -, -, counts, held, -⟩ := enforceDropGate_ok found gate
  have counted : heldUnits after dropId taker.buyer =
      heldUnits inventory dropId taker.buyer + 1 := by
    rw [heldUnits_congr purchases, held, if_pos rfl]
  have limit : after.limitOf (dropId, taker.buyer) =
      some ((inventory.limitOf (dropId, taker.buyer)).getD drop.perBuyerLimit) := by
    rw [Inventory.limitOf, purchases]
    exact (enforceDropGate_terms found gate).2
  refine ⟨?_, counted, ⟨_, limit, heldUnits_le_limit limit, rfl⟩,
    fun _ => ⟨begun, running, active, by rw [counted]; exact room⟩⟩
  have left : (after.countsOf dropId).map Counts.remaining =
      some (drop.remainingQuantity - 1) := by
    rw [Inventory.countsOf, drops]
    have known := counts dropId
    rw [if_pos rfl, Inventory.countsOf] at known
    rw [known]
    rfl
  obtain ⟨row, present, remaining⟩ := remaining_row left
  exact ⟨row, present, by omega⟩

theorem order_gated {references : References} {sys after : Sys} {id : OrderId} {now : Time}
    {step : OrderAction} {cell done : Cell} (books : DropBooks sys) (sound : Sound cell)
    (found : sys.cells.find? id = some cell)
    (guard : (step.acquiresHold = true → holdsUnbound sys.inventory cell.book.order) ∧
      (step.retakes cell.book = true → retakesOwn sys.inventory cell.book.order))
    (ran : stepCell references sys.inventory cell now step = some (after.inventory, done))
    {listing : ListingId} {dropId : DropId} {drop : Drop}
    (bound : lockBoundDrop sys.inventory listing = some (dropId, drop))
    (taken : 0 < takenUnits sys.inventory after.inventory listing) :
    Gated { buyer := cell.book.order.buyerPubky, now := now, initiated := !step.retakes cell.book }
      dropId drop (takenUnits sys.inventory after.inventory listing) sys.inventory
      after.inventory := by
  unfold takenUnits at taken ⊢
  have taking := (stepCell_steps sound ran).taking sound
  have kept_limits := taking.sameTerms.limits
  cases taking with
  | nothing restocked =>
      have kept := restocked.available listing
      omega
  | @hold held acquires single free acquired rest =>
      have unbound := guard.1 acquires single free
      have untouched : linesOn listing cell.book.order.lines = 0 := by
        apply linesOn_eq_zero
        rintro line member rfl
        rw [unbound line member] at bound
        cases bound
      have available := forLines_available (acquireMove _) rfl rfl (orRollback_ok acquired) listing
      have kept := rest.available listing
      change held.availableOf listing + linesOn listing cell.book.order.lines = _ at available
      omega
  | @retake order result moved retakes terms deliverable unheld retaken rest holds =>
      have retaking := retakes.retakes ran
      have kept := rest.available listing
      have lowered : moved.availableOf listing < sys.inventory.availableOf listing := by omega
      obtain ⟨debited, lines, left, debit, drops, purchases, split, available⟩ :=
        reacquireStock_takes retaken lowered
      have same : order.terms = cell.book.order.terms := terms
      simp only [Order.terms, Terms.mk.injEq] at same
      obtain ⟨-, -, stamp, buyer, -, ordered, -⟩ := same
      -- the line that was taken was there to take, so its drop is the order's
      obtain ⟨line, member, named, within⟩ :=
        @linesOn_mem listing lines (by omega)
      have own : cell.book.order.dropAggregateId = some dropId := by
        refine guard.2 retaking ?_ unheld line ?_ ?_ (dropId, drop) ?_
        · rw [← unpinnable_of_terms terms]
          exact deliverable
        · rw [← ordered, split]
          exact List.mem_append_left _ member
        · rw [named]
          omega
        · rw [named]
          exact bound
      obtain ⟨⟨only, lone, one⟩, counter⟩ := books id cell found dropId own
      have whole : lines = [only] := by
        rw [← ordered, split] at lone
        cases lines with
        | nil => cases member
        | cons head tail =>
            simp only [List.cons_append, List.cons.injEq, List.append_eq_nil_iff] at lone
            rw [lone.1, lone.2.1]
      have unit : linesOn listing lines = 1 := by
        rw [whole] at member ⊢
        rw [List.mem_singleton.mp member] at named
        simp [linesOn_cons, named, one]
      have units : order.units = 1 := by simp [Order.units, ordered, lone, one]
      have amount :
          sys.inventory.availableOf listing - after.inventory.availableOf listing = 1 := by
        omega
      rw [amount]
      have present := lockBoundDrop_found bound
      rcases (reacquireDrop_cases sys.inventory order now debit).2 with
        ⟨unstamped, -⟩ | ⟨-, failed, -⟩ |
          ⟨stamped, row, named_drop, stored, enough, -, counts, -, counters⟩
      · rw [stamp, own] at unstamped
        cases unstamped
      · cases failed
      · rw [stamp, own] at named_drop
        cases named_drop
        rw [present] at stored
        cases stored
        obtain ⟨purchase, counted⟩ : ∃ purchase,
            sys.inventory.dropPurchases.find? (dropId, cell.book.order.buyerPubky) =
              some purchase := by
          rw [Inventory.limitOf, Option.isSome_map] at counter
          exact Option.isSome_iff_exists.mp counter
        have held : heldUnits after.inventory dropId cell.book.order.buyerPubky =
            heldUnits sys.inventory dropId cell.book.order.buyerPubky + 1 := by
          have raised := counters (dropId, order.buyerPubky)
          rw [buyer, counted] at raised
          unfold heldUnits
          rw [holds.purchases, purchases, raised, counted]
          simp [units]
        have limit : after.inventory.limitOf (dropId, cell.book.order.buyerPubky) =
            some purchase.perBuyerLimit := by
          rw [kept_limits, Inventory.limitOf, counted]
          rfl
        refine ⟨?_, held, ⟨_, limit, heldUnits_le_limit limit, ?_⟩, by simp [retaking]⟩
        rotate_left
        · rw [← kept_limits, limit]
          rfl
        have remaining : (after.inventory.countsOf dropId).map Counts.remaining =
            some (drop.remainingQuantity - 1) := by
          rw [holds.remaining, Inventory.countsOf, drops]
          have known := counts dropId
          rw [if_pos rfl, Inventory.countsOf] at known
          rw [known, units]
          rfl
        obtain ⟨last, stocked, equal⟩ := remaining_row remaining
        exact ⟨last, stocked, by omega⟩

def lampDrop : Action :=
  .syncDrop "drop"
    { sellerPubky := "seller"
      revision := 1
      startsAt := 100
      endsAt := none
      totalQuantity := 1
      perBuyerLimit := 1
      listingIds := ["lamp"] } 0

/-- A claim of the drop's lamp that expired unpaid, and its money on the
way. -/
def lapsedClaim : List Action :=
  [ .registerListing "lamp" (sampleRecord 1 "USD" 2) ⟨"seller", 0⟩ false
  , lampDrop
  , .tick 100
  , sampleCheckout ["lamp"] 1 ] ++
  sampleBind 1 .stripe none none ++
  [ .order 7 1000 .expireWindow
  , .order 7 1100 (.verifyStripe "buyer" none) ]

end MarketplaceService
