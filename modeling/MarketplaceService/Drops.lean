import MarketplaceService.Holds

/-!
Drops (`handlers/drops.rs`): the gate that debits a hold of drop units, the
paid-unit counter of a confirmation and the credit of a released hold. The
buyer's counter row carries its own limit, so an increment past it is a
database error, not a refusal.
-/

namespace MarketplaceService

def dropNotStarted : String := "The drop has not started."
def dropEnded : String := "The drop has ended."
def dropSoldOut : String := "The drop is sold out."
def dropPerBuyerLimit : String := "You have reached this drop's per-buyer limit."
def dropSingleLine : String := "A drop order is one unit of one listing per checkout."

/-- `derived_state`: the state server time gives a schedule. -/
def derivedState (startsAt : Time) (endsAt : Option Time) (now : Time) : DropState :=
  if endsAt.any fun ends => ends ≤ now then .endedClosed
  else if startsAt ≤ now then .live
  else .announced

def isActiveState : DropState → Bool
  | .announced | .live => true
  | _ => false

def deactivateDropListingBindings (inventory : Inventory) (dropId : DropId) : Inventory :=
  { inventory with
    dropListings :=
      ⟨inventory.dropListings.rows.map fun row =>
          (row.1, if row.1.1 = dropId then { row.2 with active := false } else row.2), by
        rw [List.map_map]
        exact inventory.dropListings.nodup⟩ }

/-- `apply_time_transitions` on the locked drop `drop` of `dropId`. -/
def applyTimeTransitions (inventory : Inventory) (dropId : DropId) (drop : Drop) (now : Time) :
    Drop × Inventory :=
  let target := derivedState drop.startsAt drop.endsAt now
  if !isActiveState drop.state || target = drop.state then
    (drop, inventory)
  else
    let moved := { drop with state := target, revision := drop.revision + 1, updatedAt := now }
    let written := { inventory with drops := inventory.drops.set dropId moved }
    (moved, if isActiveState target then written else deactivateDropListingBindings written dropId)

/-- Adds units to the buyer's counter row; the row's CHECK refuses a quantity
past the limit it was created with. -/
def DropPurchase.add (purchase : DropPurchase) (units : ℕ) : Except Failure DropPurchase :=
  if within : purchase.quantity + units ≤ purchase.perBuyerLimit then
    .ok { purchase with quantity := purchase.quantity + units, within := within }
  else
    .error (.database "drop_purchases_within_limit")

def Drop.debit (drop : Drop) (units : ℕ) (now : Time) : Drop :=
  { drop with
    remainingQuantity := drop.remainingQuantity - units
    revision := drop.revision + 1
    updatedAt := now
    remaining_le := Nat.le_trans (Nat.sub_le _ _) drop.remaining_le }

def Drop.credit (drop : Drop) (units : ℕ) (now : Time)
    (fits : drop.remainingQuantity + units ≤ drop.totalQuantity) : Drop :=
  { drop with
    remainingQuantity := drop.remainingQuantity + units
    revision := drop.revision + 1
    updatedAt := now
    remaining_le := fits }

/-- The upsert of `enforce_drop_gate` into `drop_purchases`. -/
def upsertPurchase (existing : Option DropPurchase) (units perBuyerLimit : ℕ) :
    Except Failure DropPurchase :=
  match existing with
  | some purchase => purchase.add units
  | none =>
      if within : units ≤ perBuyerLimit then
        .ok { quantity := units, perBuyerLimit := perBuyerLimit, within := within }
      else
        .error (.database "drop_purchases_within_limit")

def heldUnits (inventory : Inventory) (dropId : DropId) (buyer : Pubky) : ℕ :=
  ((inventory.dropPurchases.find? (dropId, buyer)).map DropPurchase.quantity).getD 0

/-- `enforce_drop_gate` on the locked drop `drop` of `dropId`. -/
def enforceDropGate (inventory : Inventory) (dropId : DropId) (drop : Drop) (buyer : Pubky)
    (units : ℕ) (now : Time) : Except Failure Inventory :=
  let (drop, inventory) := applyTimeTransitions inventory dropId drop now
  if drop.state = .announced then
    .error (.refused .invalidState dropNotStarted)
  else if drop.state ≠ .live then
    .error (.refused .invalidState dropEnded)
  else if drop.remainingQuantity < units then
    .error (.refused .insufficientInventory dropSoldOut)
  else if drop.perBuyerLimit < heldUnits inventory dropId buyer + units then
    .error (.refused .invalidState dropPerBuyerLimit)
  else
    match upsertPurchase (inventory.dropPurchases.find? (dropId, buyer)) units
        drop.perBuyerLimit with
    | .error failure => .error failure
    | .ok purchase =>
        .ok { inventory with
          drops := inventory.drops.set dropId (drop.debit units now)
          dropPurchases := inventory.dropPurchases.set (dropId, buyer) purchase }

/-- A binding `lock_bound_drop` considers: unreleased, on the listing's
current generation, with the drop row it joins. -/
def boundCandidates (inventory : Inventory) (listingId : ListingId) :
    List (DropId × DropListing × Drop) :=
  match inventory.listings.find? listingId with
  | none => []
  | some listing =>
      inventory.dropListings.rows.filterMap fun row =>
        if row.1.2 = listingId ∧ row.2.released = false ∧
            row.2.listingGeneration = listing.generation then
          (inventory.drops.find? row.1.1).map fun drop => (row.1.1, row.2, drop)
        else none

/-- `ORDER BY dl.active DESC, d.updated_at DESC, d.aggregate_id`. -/
def boundBefore (left right : DropId × DropListing × Drop) : Bool :=
  if left.2.1.active ≠ right.2.1.active then left.2.1.active
  else if left.2.2.updatedAt ≠ right.2.2.updatedAt then
    decide (right.2.2.updatedAt < left.2.2.updatedAt)
  else decide (left.1 < right.1)

def lockBoundDrop (inventory : Inventory) (listingId : ListingId) : Option (DropId × Drop) :=
  ((boundCandidates inventory listingId).foldl
    (fun best candidate =>
      match best with
      | none => some candidate
      | some kept => if boundBefore candidate kept then some candidate else some kept)
    none).map fun chosen => (chosen.1, chosen.2.2)

/-- `record_paid_unit`: the new paid count is the order's edition; the last
unit ends a live drop sold out. -/
def recordPaidUnit (inventory : Inventory) (dropId : DropId) (now : Time) :
    Except Failure (ℕ × Inventory) :=
  match inventory.drops.find? dropId with
  | none => .error (.refused .invariantViolation "The order's drop is missing.")
  | some row =>
      let (drop, inventory) := applyTimeTransitions inventory dropId row now
      if fits : drop.paidQuantity + 1 ≤ drop.totalQuantity then
        let counted :=
          { drop with
            paidQuantity := drop.paidQuantity + 1
            revision := drop.revision + 1
            updatedAt := now
            paid_le := fits }
        if counted.paidQuantity = counted.totalQuantity ∧ counted.state = .live then
          let ended := { counted with state := .endedSoldOut, revision := counted.revision + 1 }
          .ok (counted.paidQuantity, deactivateDropListingBindings
            { inventory with drops := inventory.drops.set dropId ended } dropId)
        else
          .ok (counted.paidQuantity,
            { inventory with drops := inventory.drops.set dropId counted })
      else
        .error (.database "drops_paid_quantity_check")

/-- `credit_drop_release`: whether the accounting adds up, and the writes made
until then. -/
def creditDropRelease (inventory : Inventory) (dropId : DropId) (buyer : Pubky) (units : ℕ)
    (now : Time) : Bool × Inventory :=
  match inventory.drops.find? dropId with
  | none => (false, inventory)
  | some drop =>
      if fits : drop.remainingQuantity + units ≤ drop.totalQuantity then
        let credited :=
          { inventory with drops := inventory.drops.set dropId (drop.credit units now fits) }
        match inventory.dropPurchases.find? (dropId, buyer) with
        | none => (false, credited)
        | some purchase =>
            if units ≤ purchase.quantity then
              let lowered :=
                { purchase with
                  quantity := purchase.quantity - units
                  within := Nat.le_trans (Nat.sub_le _ _) purchase.within }
              (true, { credited with
                dropPurchases := credited.dropPurchases.set (dropId, buyer) lowered })
            else (false, credited)
      else (false, inventory)

/-- `credit_order_drop` of `handlers/cancellation.rs`: nothing to do without a
drop stamp. -/
def creditOrderDrop (inventory : Inventory) (order : Order) (now : Time) :
    Except Failure Unit × Inventory :=
  match order.dropAggregateId with
  | none => (.ok (), inventory)
  | some dropId =>
      match creditDropRelease inventory dropId order.buyerPubky order.units now with
      | (true, credited) => (.ok (), credited)
      | (false, credited) =>
          (.error (.refused .invariantViolation
            "The drop units held by this order are no longer accounted to its drop."), credited)

end MarketplaceService
