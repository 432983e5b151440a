import MarketplaceService.ServiceFrame

/-!
What limits the holds of a drop: its schedule and its per-buyer limit, with the
copy of the limit in each buyer's counter row. Only `drop.sync` writes the
terms of a drop, and not once it has started by the time the sync has read; no
statement deletes a counter row or rewrites its limit.
-/

namespace MarketplaceService

structure DropTerms where
  startsAt : Time
  endsAt : Option Time
  perBuyerLimit : ℕ
deriving DecidableEq, Repr

def Drop.terms (drop : Drop) : DropTerms :=
  { startsAt := drop.startsAt, endsAt := drop.endsAt, perBuyerLimit := drop.perBuyerLimit }

def Inventory.dropTerms (inventory : Inventory) (dropId : DropId) : Option DropTerms :=
  (inventory.drops.find? dropId).map Drop.terms

/-- The limit a buyer's counter row was created with. -/
def Inventory.limitOf (inventory : Inventory) (key : DropId × Pubky) : Option ℕ :=
  (inventory.dropPurchases.find? key).map DropPurchase.perBuyerLimit

theorem heldUnits_le_limit {inventory : Inventory} {dropId : DropId} {buyer : Pubky} {limit : ℕ}
    (known : inventory.limitOf (dropId, buyer) = some limit) :
    heldUnits inventory dropId buyer ≤ limit := by
  obtain ⟨purchase, found, rfl⟩ := Option.map_eq_some_iff.mp known
  simpa [heldUnits, found] using purchase.within

structure SameTerms (before after : Inventory) : Prop where
  drops : ∀ dropId, after.dropTerms dropId = before.dropTerms dropId
  limits : ∀ key, after.limitOf key = before.limitOf key

namespace SameTerms

variable {before middle after inventory : Inventory}

theorem refl (inventory : Inventory) : SameTerms inventory inventory :=
  ⟨fun _ => rfl, fun _ => rfl⟩

theorem trans (left : SameTerms before middle) (right : SameTerms middle after) :
    SameTerms before after :=
  ⟨fun dropId => (right.drops dropId).trans (left.drops dropId),
    fun key => (right.limits key).trans (left.limits key)⟩

theorem of_tables (drops : after.drops = before.drops)
    (purchases : after.dropPurchases = before.dropPurchases) : SameTerms before after := by
  constructor
  · intro dropId
    rw [Inventory.dropTerms, Inventory.dropTerms, drops]
  · intro key
    rw [Inventory.limitOf, Inventory.limitOf, purchases]

theorem set_drop {dropId : DropId} {drop row : Drop}
    (found : inventory.drops.find? dropId = some drop)
    (drops : after.drops = inventory.drops.set dropId row) (same : row.terms = drop.terms)
    (purchases : after.dropPurchases = inventory.dropPurchases) : SameTerms inventory after := by
  constructor
  · intro id
    rw [Inventory.dropTerms, Inventory.dropTerms, drops, Keyed.Table.find?_set]
    by_cases here : id = dropId
    · simp [here, found, same]
    · simp [here]
  · intro key
    rw [Inventory.limitOf, Inventory.limitOf, purchases]

theorem set_purchase {key : DropId × Pubky} {purchase row : DropPurchase}
    (found : inventory.dropPurchases.find? key = some purchase)
    (purchases : after.dropPurchases = inventory.dropPurchases.set key row)
    (same : row.perBuyerLimit = purchase.perBuyerLimit) (drops : after.drops = inventory.drops) :
    SameTerms inventory after := by
  constructor
  · intro id
    rw [Inventory.dropTerms, Inventory.dropTerms, drops]
  · intro other
    rw [Inventory.limitOf, Inventory.limitOf, purchases, Keyed.Table.find?_set]
    by_cases here : other = key
    · simp [here, found, same]
    · simp [here]

end SameTerms

/-! The drop functions. -/

section Functions

variable {inventory after : Inventory} {dropId : DropId} {drop : Drop} {now : Time}

theorem applyTimeTransitions_terms (found : inventory.drops.find? dropId = some drop) :
    (applyTimeTransitions inventory dropId drop now).1.terms = drop.terms ∧
      (applyTimeTransitions inventory dropId drop now).2.drops.find? dropId =
        some (applyTimeTransitions inventory dropId drop now).1 ∧
      (applyTimeTransitions inventory dropId drop now).2.dropPurchases =
        inventory.dropPurchases ∧
      SameTerms inventory (applyTimeTransitions inventory dropId drop now).2 := by
  unfold applyTimeTransitions
  simp only
  split
  · exact ⟨rfl, found, rfl, .refl _⟩
  · split
    · exact ⟨rfl, Keyed.Table.find?_set_self _ _ _, rfl, .set_drop found rfl rfl rfl⟩
    · exact ⟨rfl, Keyed.Table.find?_set_self _ _ _, rfl, .set_drop found rfl rfl rfl⟩

theorem creditDropRelease_terms {buyer : Pubky} {units : ℕ} :
    SameTerms inventory (creditDropRelease inventory dropId buyer units now).2 := by
  unfold creditDropRelease
  split
  · exact .refl _
  · rename_i row found
    split
    · rename_i fits
      have credited : SameTerms inventory { inventory with
          drops := inventory.drops.set dropId (row.credit units now fits) } :=
        .set_drop found rfl rfl rfl
      simp only
      split
      · exact credited
      · rename_i purchase counted
        split
        · exact credited.trans (.set_purchase counted rfl rfl rfl)
        · exact credited
    · exact .refl _

theorem recordPaidUnit_terms {edition : ℕ}
    (counted : recordPaidUnit inventory dropId now = .ok (edition, after)) :
    SameTerms inventory after := by
  unfold recordPaidUnit at counted
  split at counted
  · cases counted
  · rename_i row found
    obtain ⟨-, present, -, moved⟩ := @applyTimeTransitions_terms inventory dropId row now found
    simp only at counted
    split at counted
    · split at counted
      · cases counted
        exact moved.trans (.set_drop present rfl rfl rfl)
      · cases counted
        exact moved.trans (.set_drop present rfl rfl rfl)
    · cases counted

theorem creditOrderDrop_terms (order : Order) :
    SameTerms inventory (creditOrderDrop inventory order now).2 := by
  unfold creditOrderDrop
  split
  · exact .refl _
  · rename_i stamp stamped
    have credited := @creditDropRelease_terms inventory stamp now order.buyerPubky order.units
    split
    · rename_i released ran
      rwa [ran] at credited
    · rename_i released ran
      rwa [ran] at credited

theorem reacquireDrop_terms (order : Order) :
    SameTerms inventory (reacquireDrop inventory order now).2 := by
  unfold reacquireDrop
  split
  · exact .refl _
  · rename_i stamp stamped
    split
    · exact .refl _
    · rename_i row found
      obtain ⟨-, present, purchases, moved⟩ :=
        @applyTimeTransitions_terms inventory stamp row now found
      simp only
      split
      · exact moved
      · have debited : SameTerms inventory { (applyTimeTransitions inventory stamp row now).2 with
            drops := (applyTimeTransitions inventory stamp row now).2.drops.set stamp
              ((applyTimeTransitions inventory stamp row now).1.debit order.units now) } :=
          moved.trans (.set_drop present rfl rfl rfl)
        split
        · exact debited
        · rename_i purchase counted
          unfold DropPurchase.add
          split
          · exact debited
          · rename_i raised added
            split at added
            · cases added
              exact debited.trans (.set_purchase counted rfl rfl rfl)
            · cases added

theorem enforceDropGate_open {buyer : Pubky} {units : ℕ}
    (found : inventory.drops.find? dropId = some drop)
    (gated : enforceDropGate inventory dropId drop buyer units now = .ok after) :
    drop.startsAt ≤ now ∧ (∀ ends ∈ drop.endsAt, now < ends) ∧ isActiveState drop.state = true ∧
      heldUnits inventory dropId buyer + units ≤ drop.perBuyerLimit := by
  obtain ⟨terms, -, purchases, -⟩ := @applyTimeTransitions_terms inventory dropId drop now found
  have labelled : (applyTimeTransitions inventory dropId drop now).1.state = .live →
      isActiveState drop.state = true ∧ derivedState drop.startsAt drop.endsAt now = .live := by
    unfold applyTimeTransitions
    simp only
    split
    · rename_i kept
      intro live
      have active : isActiveState drop.state = true := by
        rw [show drop.state = .live from live]
        rfl
      refine ⟨active, ?_⟩
      simp only [active, Bool.not_true, Bool.false_or, decide_eq_true_eq] at kept
      exact kept.trans live
    · rename_i moved
      intro live
      simp only [Bool.or_eq_true, Bool.not_eq_true', not_or, Bool.not_eq_false] at moved
      exact ⟨moved.1, live⟩
  have opened : derivedState drop.startsAt drop.endsAt now = .live →
      drop.startsAt ≤ now ∧ ∀ ends ∈ drop.endsAt, now < ends := by
    unfold derivedState
    split
    · intro closed
      cases closed
    · rename_i running
      split
      · rename_i begun
        refine fun _ => ⟨begun, fun ends scheduled => ?_⟩
        rw [Option.mem_def] at scheduled
        simpa [scheduled] using running
      · intro announced
        cases announced
  revert gated
  unfold enforceDropGate
  simp only
  split
  · intro refused
    cases refused
  · split
    · intro refused
      cases refused
    · rename_i live
      split
      · intro refused
        cases refused
      · split
        · intro refused
          cases refused
        · rename_i within
          intro _
          obtain ⟨active, derived⟩ := labelled (not_not.mp live)
          obtain ⟨begun, running⟩ := opened derived
          refine ⟨begun, running, active, ?_⟩
          rw [heldUnits_congr purchases,
            show (applyTimeTransitions inventory dropId drop now).1.perBuyerLimit =
              drop.perBuyerLimit from congrArg DropTerms.perBuyerLimit terms] at within
          exact not_lt.mp within

end Functions

/-! What a step may do to the terms. -/

/-- A drop that has started keeps its terms, a counter row stays, and a new one
copies the limit of a started drop. -/
structure TermsStep (now : Time) (before after : Inventory) : Prop where
  drops : ∀ dropId, ∀ terms ∈ before.dropTerms dropId, terms.startsAt ≤ now →
    after.dropTerms dropId = some terms
  rows : ∀ key, (before.limitOf key).isSome = true → (after.limitOf key).isSome = true
  limits : ∀ key, ∀ limit ∈ after.limitOf key, before.limitOf key = some limit ∨
    ∃ terms ∈ before.dropTerms key.1, terms.startsAt ≤ now ∧ limit = terms.perBuyerLimit

section Steps

variable {now : Time} {before middle after inventory : Inventory}

theorem TermsStep.of_same (same : SameTerms before after) : TermsStep now before after := by
  constructor
  · intro dropId terms found _
    rw [same.drops]
    exact found
  · intro key present
    rw [same.limits]
    exact present
  · intro key limit found
    rw [same.limits] at found
    exact .inl found

theorem TermsStep.then_same (step : TermsStep now before middle) (same : SameTerms middle after) :
    TermsStep now before after := by
  constructor
  · intro dropId terms found begun
    rw [same.drops]
    exact step.drops dropId terms found begun
  · intro key present
    rw [same.limits]
    exact step.rows key present
  · intro key limit found
    rw [same.limits] at found
    exact step.limits key limit found

theorem TermsStep.of_tables (drops : after.drops = before.drops)
    (purchases : after.dropPurchases = before.dropPurchases) : TermsStep now before after :=
  .of_same (.of_tables drops purchases)

theorem enforceDropGate_terms {dropId : DropId} {drop : Drop} {buyer : Pubky} {units : ℕ}
    (found : inventory.drops.find? dropId = some drop)
    (gated : enforceDropGate inventory dropId drop buyer units now = .ok after) :
    TermsStep now inventory after ∧ after.limitOf (dropId, buyer) =
      some ((inventory.limitOf (dropId, buyer)).getD drop.perBuyerLimit) := by
  have begun := (enforceDropGate_open found gated).1
  obtain ⟨terms, present, purchases, moved⟩ :=
    @applyTimeTransitions_terms inventory dropId drop now found
  revert gated
  unfold enforceDropGate
  simp only
  generalize applyTimeTransitions inventory dropId drop now = transitioned at *
  intro gated
  obtain ⟨-, gated⟩ := Outcome.guard_ok gated
  obtain ⟨-, gated⟩ := Outcome.guard_ok gated
  obtain ⟨-, gated⟩ := Outcome.guard_ok gated
  obtain ⟨-, gated⟩ := Outcome.guard_ok gated
  split at gated
  · cases gated
  · rename_i purchase upserted
    cases gated
    have limit : purchase.perBuyerLimit =
        (inventory.limitOf (dropId, buyer)).getD drop.perBuyerLimit := by
      rw [← moved.limits]
      unfold upsertPurchase at upserted
      split at upserted
      · rename_i held counted
        unfold DropPurchase.add at upserted
        split at upserted <;> cases upserted
        simp [Inventory.limitOf, counted]
      · rename_i missing
        split at upserted <;> cases upserted
        have limit : transitioned.1.perBuyerLimit = drop.perBuyerLimit :=
          congrArg DropTerms.perBuyerLimit terms
        simpa [Inventory.limitOf, missing] using limit
    have drops (id : DropId) : Inventory.dropTerms { transitioned.2 with
        drops := transitioned.2.drops.set dropId (transitioned.1.debit units now)
        dropPurchases := transitioned.2.dropPurchases.set (dropId, buyer) purchase } id =
          inventory.dropTerms id := by
      rw [← moved.drops id, Inventory.dropTerms, Inventory.dropTerms, Keyed.Table.find?_set]
      by_cases here : id = dropId
      · simp only [here, present, if_true, Option.map_some]
        rfl
      · simp [here]
    have limits (key : DropId × Pubky) : Inventory.limitOf { transitioned.2 with
        drops := transitioned.2.drops.set dropId (transitioned.1.debit units now)
        dropPurchases := transitioned.2.dropPurchases.set (dropId, buyer) purchase } key =
          if key = (dropId, buyer) then some purchase.perBuyerLimit else inventory.limitOf key := by
      rw [← moved.limits key, Inventory.limitOf, Inventory.limitOf, Keyed.Table.find?_set]
      by_cases here : key = (dropId, buyer) <;> simp [here]
    refine ⟨⟨?_, ?_, ?_⟩, by rw [limits, if_pos rfl, limit]⟩
    · intro id old known _
      rw [drops]
      exact known
    · intro key known
      rw [limits]
      by_cases here : key = (dropId, buyer) <;> simp [here, known]
    · intro key copied known
      rw [limits] at known
      by_cases here : key = (dropId, buyer)
      · simp only [here, if_true, Option.mem_def, Option.some.injEq] at known
        subst known
        rw [here, limit]
        cases inventory.limitOf (dropId, buyer) with
        | some old => exact .inl rfl
        | none => exact .inr ⟨drop.terms, by simp [Inventory.dropTerms, found], begun, rfl⟩
      · simp only [here, if_false] at known
        exact .inl known

end Steps

/-! The seller's commands and the holds of no order. -/

section Catalog

variable {inventory after : Inventory} {now : Time}

theorem insertReservation_terms {id : ReservationId} {reservation : Reservation}
    (inserted : inventory.insertReservation id reservation = .ok after) :
    SameTerms inventory after := by
  obtain ⟨-, rfl⟩ := insertReservation_ok inserted
  exact .of_tables rfl rfl

theorem tombstone_terms {id : ListingId} (deleted : tombstone inventory id now = some after) :
    SameTerms inventory after := by
  obtain ⟨listing, bindings, -, -, -, rfl⟩ := tombstone_ok deleted
  exact .of_tables rfl rfl

theorem adjustInventory_terms {id : ListingId} {sender : Sender} {delta : ℤ}
    (adjusted : adjustInventory inventory id sender delta = .ok after) :
    SameTerms inventory after := by
  obtain ⟨listing, balanced, -, -, -, -, -, rfl⟩ := adjustInventory_ok adjusted
  exact .of_tables rfl rfl

theorem placeBid_terms {id : ListingId} (bid : placeBid inventory id = .ok after) :
    SameTerms inventory after := by
  obtain ⟨listing, -, -, -, -, rfl⟩ := placeBid_ok bid
  exact .of_tables rfl rfl

theorem closeUnsold_terms {id : ListingId} (closed : closeUnsold inventory id = .ok after) :
    SameTerms inventory after := by
  obtain ⟨listing, -, -, -, rfl⟩ := closeUnsold_ok closed
  exact .of_tables rfl rfl

theorem restockReservation_terms {reservation : Reservation} {state : Listing → ListingState}
    (restocked : restockReservation inventory reservation state = .ok after) :
    SameTerms inventory after := by
  obtain ⟨listing, enough, -, rfl⟩ := restockReservation_ok restocked
  exact .of_tables rfl rfl

theorem expireDueReservation_terms {id : ReservationId}
    (expired : expireDueReservation inventory id now = .ok after) : SameTerms inventory after := by
  cases expireDueReservation_ok expired with
  | kept => exact .refl _
  | @lapsed reservation gate _ found _ _ _ unstamped credited _ restocked =>
      have marked : SameTerms inventory { inventory with
          reservations := inventory.reservations.set id { reservation with status := .expired } } :=
        .of_tables rfl rfl
      cases stamped : reservation.dropAggregateId with
      | none =>
          obtain rfl := unstamped stamped
          exact marked.trans (restockReservation_terms restocked)
      | some dropId =>
          have credits := @creditDropRelease_terms { inventory with
            reservations := inventory.reservations.set id { reservation with status := .expired } }
            dropId now reservation.buyerPubky reservation.quantity
          rw [credited dropId stamped] at credits
          exact marked.trans (credits.trans (restockReservation_terms restocked))

theorem acceptOffer_terms {award : Award} (accepted : acceptOffer inventory award now = .ok after) :
    SameTerms inventory after := by
  obtain ⟨listing, held, -, -, -, inserted⟩ := acceptOffer_ok accepted
  have listed : SameTerms inventory (inventory.setListing award.listing held) :=
    .of_tables rfl rfl
  exact listed.trans (insertReservation_terms inserted)

theorem expireDueAward_terms {award : Award}
    (expired : expireDueAward inventory award = .ok after) :
    SameTerms inventory after := by
  obtain ⟨reservation, -, -, -, -, -, restocked⟩ := expireDueAward_ok expired
  have marked : SameTerms inventory { inventory with
      reservations := inventory.reservations.set award.reservationId
        { reservation with status := .expired } } := .of_tables rfl rfl
  exact marked.trans (restockReservation_terms restocked)

theorem offerCheckout_terms {award : Award} {id : OrderId} {fulfillment : Fulfillment}
    {holdWindowSeconds : ℕ} {book : OrderBook}
    (created : offerCheckout inventory award id fulfillment holdWindowSeconds now =
      .ok (book, after)) :
    SameTerms inventory after ∧ book.order.dropAggregateId = none := by
  cases offerCheckout_ok created with
  | intro => exact ⟨.of_tables rfl rfl, rfl⟩

theorem closeAuction_terms {listingId : ListingId} {winner : Pubky} {priceMinor : ℕ}
    {reservation : ReservationId} {id : OrderId} {book : OrderBook}
    (created : closeAuction inventory listingId winner priceMinor reservation id now =
      .ok (book, after)) :
    SameTerms inventory after ∧ book.order.dropAggregateId = none := by
  cases closeAuction_ok created with
  | @intro listing _ _ _ _ _ enough inserted =>
      have listed : SameTerms inventory (inventory.setListing listingId
          { listing.hold 1 enough with state := .reserved, auctionActive := false }) :=
        .of_tables rfl rfl
      exact ⟨listed.trans (insertReservation_terms inserted), rfl⟩

theorem cancelDrop_terms {dropId : DropId} {sender : Sender}
    (cancelled : cancelDrop inventory dropId sender now = .ok after) :
    SameTerms inventory after := by
  obtain ⟨drop, found, -, -, -, rfl⟩ := cancelDrop_ok cancelled
  exact .set_drop found rfl rfl rfl

theorem releaseDropListings_terms {dropId : DropId} {sender : Sender}
    (released : releaseDropListings inventory dropId sender now = .ok after) :
    SameTerms inventory after := by
  unfold releaseDropListings at released
  split at released
  · cases released
  · rename_i drop found
    obtain ⟨-, released⟩ := Outcome.guard_ok released
    obtain ⟨-, released⟩ := Outcome.guard_ok released
    simp only at released
    obtain ⟨-, present, -, moved⟩ := @applyTimeTransitions_terms inventory dropId drop now found
    obtain ⟨-, released⟩ := Outcome.guard_ok released
    cases released
    exact moved.trans (.set_drop present rfl rfl rfl)

theorem transitionDueDrop_terms (inventory : Inventory) (dropId : DropId) (now : Time) :
    SameTerms inventory (transitionDueDrop inventory dropId now) := by
  unfold transitionDueDrop
  split
  · exact .refl _
  · rename_i drop found
    obtain ⟨-, -, -, moved⟩ := @applyTimeTransitions_terms inventory dropId drop now found
    exact moved

theorem insertDropListingBindings_tables {dropId : DropId} {active : Bool} {ids : List ListingId} :
    ∀ {inventory : Inventory},
      insertDropListingBindings inventory dropId active ids = .ok after →
        after.drops = inventory.drops ∧ after.dropPurchases = inventory.dropPurchases := by
  induction ids with
  | nil =>
      intro inventory bound
      cases bound
      exact ⟨rfl, rfl⟩
  | cons id rest ih =>
      intro inventory bound
      unfold insertDropListingBindings at bound
      split at bound
      · cases bound
      · obtain ⟨-, bound⟩ := Outcome.guard_ok bound
        obtain ⟨-, bound⟩ := Outcome.guard_ok bound
        have rest := ih bound
        exact rest

theorem effectiveState_announced {drop : Drop} (announced : effectiveState drop now = .announced) :
    now < drop.startsAt := by
  unfold effectiveState derivedState at announced
  split at announced
  · split at announced
    · cases announced
    · split at announced
      · cases announced
      · rename_i later
        exact not_le.mp later
  · rename_i ended
    simp [announced, isActiveState] at ended

theorem syncDrop_found {dropId : DropId} {record : DropRecord}
    (synced : syncDrop inventory dropId record now = .ok after) :
    after = inventory ∨ ∀ drop ∈ inventory.drops.find? dropId,
      drop.recordRevision < record.revision ∧ now < drop.startsAt := by
  cases found : inventory.drops.find? dropId with
  | none => exact .inr fun _ known => nomatch known
  | some drop =>
      unfold syncDrop at synced
      simp only [found] at synced
      split at synced
      · cases synced
        exact .inl rfl
      · rename_i newer
        obtain ⟨announced, -⟩ := Outcome.guard_ok synced
        refine .inr fun row known => ?_
        obtain rfl := Option.some.inj known
        exact ⟨not_le.mp newer, effectiveState_announced (not_not.mp announced)⟩

theorem syncDrop_others {dropId : DropId} {record : DropRecord}
    (synced : syncDrop inventory dropId record now = .ok after) :
    (∀ id, id ≠ dropId → after.dropTerms id = inventory.dropTerms id) ∧
      ∀ key, after.limitOf key = inventory.limitOf key := by
  have writes {written : Inventory} {row : Drop}
      (bound : insertDropListingBindings written dropId
        (isActiveState (derivedState record.startsAt record.endsAt now)) record.listingIds =
          .ok after)
      (drops : written.drops = inventory.drops.set dropId row)
      (purchases : written.dropPurchases = inventory.dropPurchases) :
      (∀ id, id ≠ dropId → after.dropTerms id = inventory.dropTerms id) ∧
        ∀ key, after.limitOf key = inventory.limitOf key := by
    obtain ⟨tables, counters⟩ := insertDropListingBindings_tables bound
    constructor
    · intro id other
      rw [Inventory.dropTerms, tables, drops, Keyed.Table.find?_set_ne _ _ other]
      rfl
    · intro key
      rw [Inventory.limitOf, counters, purchases]
      rfl
  unfold syncDrop at synced
  simp only at synced
  split at synced
  · exact writes synced rfl rfl
  · split at synced
    · cases synced
      exact ⟨fun _ _ => rfl, fun _ => rfl⟩
    · obtain ⟨-, synced⟩ := Outcome.guard_ok synced
      split at synced
      · exact writes synced rfl rfl
      · cases synced

theorem syncDrop_termsStep {dropId : DropId} {record : DropRecord} {clock : Time}
    (synced : syncDrop inventory dropId record now = .ok after)
    (inTime : after = inventory ∨ ∀ drop ∈ inventory.drops.find? dropId, clock < drop.startsAt) :
    TermsStep clock inventory after := by
  rcases inTime with rfl | fresh
  · exact .of_tables rfl rfl
  · obtain ⟨others, limits⟩ := syncDrop_others synced
    constructor
    · intro id terms known begun
      have other : id ≠ dropId := by
        rintro rfl
        obtain ⟨drop, found, rfl⟩ := Option.map_eq_some_iff.mp known
        exact absurd begun (not_le.mpr (fresh drop found))
      rw [others id other]
      exact known
    · intro key present
      rw [limits]
      exact present
    · intro key limit known
      rw [limits] at known
      exact .inl known

end Catalog

end MarketplaceService
