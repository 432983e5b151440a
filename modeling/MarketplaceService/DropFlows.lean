import MarketplaceService.DropGate
import MarketplaceService.StockLedger

/-!
What each transaction does to the units of a drop: how much it adds to what is
left, paid or reserved. A step of a stamped order adds at most what the order
no longer accounts for, unless it cancels a paid order.
-/

namespace MarketplaceService

/-! What the transactions do to the counters. -/

/-- The units of a drop outside unpaid holds: left, or paid. -/
def Counts.unheld (counts : Counts) : ℕ := counts.remaining + counts.paid

def Inventory.unheldOf (inventory : Inventory) (dropId : DropId) : ℕ :=
  ((inventory.countsOf dropId).map Counts.unheld).getD 0

def Inventory.paidOf (inventory : Inventory) (dropId : DropId) : ℕ :=
  ((inventory.countsOf dropId).map Counts.paid).getD 0

def Reservation.heldOf (dropId : DropId) (reservation : Reservation) : ℕ :=
  if reservation.status = .active ∧ reservation.dropAggregateId = some dropId then
    reservation.quantity
  else 0

def Inventory.reservedUnits (inventory : Inventory) (dropId : DropId) : ℕ :=
  inventory.reservations.sum (Reservation.heldOf dropId)

/-- A write that adds at most `gain` units to what is left, paid or reserved of
the stamped drop, and nothing to any other. -/
structure DropFlow (stamp : Option DropId) (gain : ℤ) (before after : Inventory) : Prop where
  totals : ∀ id, (after.countsOf id).map Counts.total = (before.countsOf id).map Counts.total
  units : ∀ id, (after.unheldOf id + after.reservedUnits id : ℤ) ≤
    before.unheldOf id + before.reservedUnits id + if stamp = some id then gain else 0
  paid : ∀ id, stamp ≠ some id → after.paidOf id = before.paidOf id

namespace DropFlow

variable {stamp : Option DropId} {gain more : ℤ} {before middle after inventory : Inventory}

theorem refl (stamp : Option DropId) (inventory : Inventory) :
    DropFlow stamp 0 inventory inventory :=
  ⟨fun _ => rfl, fun _ => by simp, fun _ _ => rfl⟩

theorem trans (left : DropFlow stamp gain before middle)
    (right : DropFlow stamp more middle after) : DropFlow stamp (gain + more) before after := by
  constructor
  · intro id
    exact (right.totals id).trans (left.totals id)
  · intro id
    have first := left.units id
    have second := right.units id
    split at first <;> split <;> simp_all <;> omega
  · intro id other
    exact (right.paid id other).trans (left.paid id other)

theorem mono (flow : DropFlow stamp gain before after) (bound : stamp.isSome = true → gain ≤ more) :
    DropFlow stamp more before after := by
  refine ⟨flow.totals, fun id => ?_, flow.paid⟩
  have units := flow.units id
  split at units
  · rename_i here
    have within := bound (by simp [here])
    rw [if_pos here]
    omega
  · rename_i other
    rw [if_neg other]
    exact units

theorem of_tables (drops : after.drops = before.drops)
    (reservations : after.reservations = before.reservations) :
    DropFlow stamp 0 before after := by
  have counts (id : DropId) : after.countsOf id = before.countsOf id := by
    rw [Inventory.countsOf, Inventory.countsOf, drops]
  constructor
  · intro id
    rw [counts]
  · intro id
    simp [Inventory.unheldOf, Inventory.reservedUnits, counts, reservations]
  · intro id _
    rw [Inventory.paidOf, Inventory.paidOf, counts]

theorem of_reservations (drops : after.drops = before.drops)
    (lowered : ∀ id, after.reservedUnits id ≤ before.reservedUnits id) :
    DropFlow stamp 0 before after := by
  have counts (id : DropId) : after.countsOf id = before.countsOf id := by
    rw [Inventory.countsOf, Inventory.countsOf, drops]
  constructor
  · intro id
    rw [counts]
  · intro id
    have fewer := lowered id
    rw [Inventory.unheldOf, Inventory.unheldOf, counts]
    split <;> omega
  · intro id _
    rw [Inventory.paidOf, Inventory.paidOf, counts]

/-- A write to the counters of one drop. -/
theorem of_counts {dropId : DropId} {drop : Drop} {counts : Counts}
    (same : SameListings before after) (found : before.drops.find? dropId = some drop)
    (written : ∀ id, after.countsOf id =
      if id = dropId then some counts else before.countsOf id)
    (total : counts.total = drop.totalQuantity)
    (units : (counts.unheld : ℤ) ≤ drop.counts.unheld + gain) :
    DropFlow (some dropId) gain before after := by
  have known : before.countsOf dropId = some drop.counts := by
    rw [Inventory.countsOf, found, Option.map_some]
  have reserved (id : DropId) : after.reservedUnits id = before.reservedUnits id := by
    rw [Inventory.reservedUnits, Inventory.reservedUnits, same.2]
  constructor
  · intro id
    rw [written id]
    by_cases here : id = dropId
    · simp [here, known, total, Drop.counts]
    · simp [here]
  · intro id
    rw [reserved id, Inventory.unheldOf, Inventory.unheldOf, written id]
    by_cases here : id = dropId
    · simp only [here, known, if_true, Option.map_some, Option.getD_some]
      omega
    · have other : dropId ≠ id := fun same => here same.symm
      simp [here, other]
  · intro id other
    have elsewhere : id ≠ dropId := fun same => other (by rw [same])
    rw [Inventory.paidOf, Inventory.paidOf, written id, if_neg elsewhere]

theorem of_trade {dropId : DropId} {drop : Drop} {counts : Counts}
    (found : before.drops.find? dropId = some drop)
    (written : ∀ id, after.countsOf id =
      if id = dropId then some counts else before.countsOf id)
    (total : counts.total = drop.totalQuantity) (paid : counts.paid = drop.paidQuantity)
    (traded : counts.unheld + after.reservedUnits dropId ≤
      drop.counts.unheld + before.reservedUnits dropId)
    (others : ∀ id, id ≠ dropId → after.reservedUnits id ≤ before.reservedUnits id) :
    DropFlow none 0 before after := by
  have known : before.countsOf dropId = some drop.counts := by
    rw [Inventory.countsOf, found, Option.map_some]
  constructor
  · intro id
    rw [written id]
    by_cases here : id = dropId
    · simp [here, known, total, Drop.counts]
    · simp [here]
  · intro id
    rw [Inventory.unheldOf, Inventory.unheldOf, written id]
    by_cases here : id = dropId
    · subst here
      simp only [known, if_true, Option.map_some, Option.getD_some, reduceCtorEq, if_false]
      omega
    · have fewer := others id here
      simp only [here, reduceCtorEq, if_false]
      omega
  · intro id _
    rw [Inventory.paidOf, Inventory.paidOf, written id]
    by_cases here : id = dropId
    · simp [here, known, paid, Drop.counts]
    · simp [here]

theorem of_labels (same : SameListings before after)
    (counts : ∀ id, after.countsOf id = before.countsOf id) : DropFlow stamp 0 before after := by
  constructor
  · intro id
    rw [counts]
  · intro id
    simp [Inventory.unheldOf, Inventory.reservedUnits, counts, same.2]
  · intro id _
    rw [Inventory.paidOf, Inventory.paidOf, counts]

end DropFlow

/-! The stock functions of an order. -/

section Functions

variable {inventory after : Inventory} {order : Order} {now : Time}

theorem forLines_flow {each : Line → Listing → Except Failure Listing} {missing : Failure}
    {lines : List Line} {result : Except Failure Unit} (stamp : Option DropId)
    (ran : forLines each missing lines inventory = (result, after)) :
    DropFlow stamp 0 inventory after := by
  obtain ⟨reservations, drops, -⟩ := forLines_frame ran
  exact .of_tables drops reservations

theorem updateWhere_reservedUnits {hit : Reservation → Bool} {change : Reservation → Reservation}
    (lowers : ∀ key row, inventory.reservations.find? key = some row → hit row = true →
      ∀ dropId, (change row).heldOf dropId ≤ row.heldOf dropId) (stamp : Option DropId) :
    DropFlow stamp 0 inventory { inventory with
      reservations := inventory.reservations.updateWhere hit change } := by
  refine .of_reservations rfl fun id => ?_
  exact inventory.reservations.sum_updateWhere_le hit change (Reservation.heldOf id)
    fun key row found met => lowers key row found met id

theorem heldOf_inactive {reservation : Reservation} {status : ReservationStatus}
    (closed : status ≠ .active) (dropId : DropId) :
    ({ reservation with status := status } : Reservation).heldOf dropId = 0 := by
  simp [Reservation.heldOf, closed]

theorem convertHold_flow (converted : convertHold inventory order = .ok after)
    (stamp : Option DropId) : DropFlow stamp 0 inventory after := by
  unfold convertHold at converted
  split at converted
  · split at converted <;> cases converted
    exact .refl _ _
  · obtain ⟨-, converted⟩ := Outcome.guard_ok converted
    cases converted
    refine updateWhere_reservedUnits ?_ stamp
    intro key row found met dropId
    rw [heldOf_inactive (by decide)]
    exact Nat.zero_le _

theorem creditOrderDrop_flow (inventory : Inventory) (order : Order) (now : Time) :
    DropFlow order.dropAggregateId order.units inventory
      (creditOrderDrop inventory order now).2 := by
  have nothing {stamp : Option DropId} :
      DropFlow stamp (order.units : ℤ) inventory inventory :=
    (DropFlow.refl _ _).mono fun _ => Int.natCast_nonneg _
  unfold creditOrderDrop
  cases stamped : order.dropAggregateId with
  | none => exact nothing
  | some dropId =>
      have credits : DropFlow (some dropId) order.units inventory
          (creditDropRelease inventory dropId order.buyerPubky order.units now).2 := by
        unfold creditDropRelease
        cases found : inventory.drops.find? dropId with
        | none => exact nothing
        | some drop =>
            simp only
            split
            · rename_i fits
              have written (last : Inventory) (same : SameListings inventory last)
                  (drops : last.drops = inventory.drops.set dropId
                    (drop.credit order.units now fits)) :
                  DropFlow (some dropId) order.units inventory last := by
                refine .of_counts same found
                  (countsOf_set last inventory.drops dropId · _ drops) rfl ?_
                simp only [Counts.unheld, Drop.counts, Drop.credit]
                omega
              split
              · exact written _ ⟨rfl, rfl⟩ rfl
              · split
                · exact written _ ⟨rfl, rfl⟩ rfl
                · exact written _ ⟨rfl, rfl⟩ rfl
            · exact nothing
      simp only
      split
      · rename_i credited ran
        rwa [ran] at credits
      · rename_i credited ran
        rwa [ran] at credits

theorem recordEdition_flow {edition : Option ℕ}
    (recorded : recordEdition inventory order now = .ok (edition, after)) :
    DropFlow order.dropAggregateId 1 inventory after := by
  unfold recordEdition at recorded
  cases stamped : order.dropAggregateId with
  | none =>
      simp only [stamped] at recorded
      cases recorded
      exact (DropFlow.refl _ _).mono fun _ => Int.one_nonneg
  | some dropId =>
      simp only [stamped] at recorded
      split at recorded
      · cases recorded
      · rename_i number counted ran
        cases recorded
        obtain ⟨drop, found, -, same, -, counts⟩ := recordPaidUnit_ok ran
        refine .of_counts same found counts rfl ?_
        simp only [Counts.unheld, Drop.counts]
        omega

theorem confirmStock_flow {edition : Option ℕ}
    (confirmed : confirmStock inventory order now = .ok (edition, after)) :
    DropFlow order.dropAggregateId 1 inventory after := by
  unfold confirmStock at confirmed
  obtain ⟨converted, first, confirmed⟩ := Outcome.bind_ok confirmed
  obtain ⟨⟨number, recorded⟩, second, confirmed⟩ := Outcome.bind_ok confirmed
  obtain ⟨sold, third, written⟩ := Outcome.bind_ok confirmed
  cases Outcome.pure_ok written
  have converts := convertHold_flow first order.dropAggregateId
  have sells := forLines_flow order.dropAggregateId (orRollback_ok third)
  exact ((converts.trans (recordEdition_flow second)).trans sells).mono fun _ => by omega

theorem creditThenRelease_flow {column : HeldQuantity} {lines : List Line}
    (ran : orRollback (andThen (creditOrderDrop inventory order now)
      fun inventory => releaseLines column lines inventory) = .ok after) :
    DropFlow order.dropAggregateId order.units inventory after := by
  have first := creditOrderDrop_flow inventory order now
  obtain ⟨credited, credit, released⟩ := andThen_ok (orRollback_ok ran)
  rw [credit] at first
  exact (first.trans (forLines_flow order.dropAggregateId released)).mono fun _ => by omega

theorem tolerateLegacy_flow {result : Except Failure Unit × Inventory} {stamp : Option DropId}
    {gain : ℤ} (flow : DropFlow stamp gain inventory result.2)
    (kept : tolerateLegacy order result = .ok after) : DropFlow stamp gain inventory after := by
  unfold tolerateLegacy at kept
  split at kept
  · cases kept
    exact flow
  · split at kept
    · cases kept
      exact flow
    · cases kept

theorem releaseUnpaidHold_flow (released : releaseUnpaidHold inventory order now = .ok after) :
    DropFlow order.dropAggregateId order.units inventory after := by
  unfold releaseUnpaidHold at released
  obtain ⟨credited, credit, rest⟩ := Outcome.bind_ok released
  have first := tolerateLegacy_flow (creditOrderDrop_flow inventory order now) credit
  have second : DropFlow order.dropAggregateId 0 credited after :=
    tolerateLegacy_flow (forLines_flow order.dropAggregateId rfl) rest
  exact (first.trans second).mono fun _ => by omega

theorem releaseReservedHold_flow {auction : ListingId}
    (released : releaseReservedHold inventory auction order = .ok after) (stamp : Option DropId) :
    DropFlow stamp 0 inventory after := by
  unfold releaseReservedHold at released
  simp only at released
  split at released
  · cases released
    exact .refl _ _
  · have freed := @updateWhere_reservedUnits inventory (isWinningHold auction order.buyerPubky)
      (fun reservation => { reservation with status := .released })
      (fun key row found met dropId => by
        rw [heldOf_inactive (by decide)]
        exact Nat.zero_le _) stamp
    exact (freed.trans (forLines_flow stamp (orRollback_ok released))).mono fun _ => by omega

theorem releaseHeld_flow (released : releaseHeld inventory order now = .ok after) :
    DropFlow order.dropAggregateId (if order.stockHeld then order.units else 0)
      inventory after := by
  unfold releaseHeld at released
  rcases Outcome.ite_ok released with ⟨⟨held, -⟩, ran⟩ | ⟨-, rfl⟩
  · rw [if_pos held]
    exact creditThenRelease_flow ran
  · refine (DropFlow.refl _ _).mono fun _ => ?_
    split
    · exact Int.natCast_nonneg _
    · exact Int.le_refl _

theorem cancelledHold_flow (released : cancelledHold inventory order now = .ok after) :
    DropFlow order.dropAggregateId order.units inventory after := by
  unfold cancelledHold at released
  split at released
  · exact (releaseReservedHold_flow released _).mono fun _ => Int.natCast_nonneg _
  · refine (releaseHeld_flow released).mono fun _ => ?_
    split
    · exact Int.le_refl _
    · exact Int.natCast_nonneg _

theorem releasePending_flow (released : releasePending inventory order now = .ok after) :
    DropFlow order.dropAggregateId order.units inventory after := by
  unfold releasePending at released
  split at released
  · exact (releaseReservedHold_flow released _).mono fun _ => Int.natCast_nonneg _
  · rcases Outcome.ite_ok released with ⟨-, ran⟩ | ⟨-, rfl⟩
    · exact releaseUnpaidHold_flow ran
    · exact (DropFlow.refl _ _).mono fun _ => Int.natCast_nonneg _

theorem extend_flow (terms : Terms) (deadline : Time) (inventory : Inventory)
    (stamp : Option DropId) : DropFlow stamp 0 inventory (terms.extend deadline inventory) := by
  unfold Terms.extend
  split
  · exact .refl _ _
  · apply updateWhere_reservedUnits
    intro key row found met dropId
    exact Nat.le_refl (row.heldOf dropId)

/-- No reservation that a late payment of the order would bring back is
stamped. -/
def lapsedUnstamped (inventory : Inventory) (order : Order) : Prop :=
  ∀ auction ∈ order.auctionAggregateId, ∀ row ∈ inventory.reservations.rows,
    isLapsedHold auction order.buyerPubky row.2 = true → row.2.dropAggregateId = none

instance (inventory : Inventory) (order : Order) : Decidable (lapsedUnstamped inventory order) :=
  inferInstanceAs (Decidable (∀ auction ∈ order.auctionAggregateId,
    ∀ row ∈ inventory.reservations.rows, _))

theorem reacquireReservation_flow {result : Except Failure Unit}
    (unstamped : lapsedUnstamped inventory order)
    (ran : reacquireReservation inventory order now = (result, after)) (stamp : Option DropId) :
    DropFlow stamp 0 inventory after := by
  obtain ⟨-, drops, -, written⟩ := reacquireReservation_cases inventory order now ran
  cases auctioned : order.auctionAggregateId with
  | none =>
      simp only [auctioned] at written
      rw [written.2]
      exact .refl _ _
  | some auction =>
      simp only [auctioned] at written
      refine .of_reservations drops fun id => ?_
      rw [Inventory.reservedUnits, written.2]
      apply Keyed.Table.sum_updateWhere_le
      intro key row found met
      have member := Keyed.lookup_mem key row inventory.reservations.rows found
      have free : row.dropAggregateId = none := unstamped auction auctioned (key, row) member met
      have nothing (status : ReservationStatus) (deadline : Time) :
          ({ row with status := status, expiresAt := deadline } : Reservation).heldOf id = 0 := by
        simp [Reservation.heldOf, free]
      rw [nothing]
      exact Nat.zero_le _

/-- A hold taken again debits the drop, and never credits it. -/
theorem reacquireStock_flow {result : Except Failure Unit}
    (unstamped : lapsedUnstamped inventory order)
    (ran : reacquireStock inventory order now = (result, after)) :
    DropFlow order.dropAggregateId (if result = .ok () then -(order.units : ℤ) else 0)
      inventory after := by
  unfold reacquireStock at ran
  cases debited : reacquireDrop inventory order now with
  | mk outcome middle =>
      obtain ⟨same, debit⟩ := reacquireDrop_cases inventory order now debited
      have first : DropFlow order.dropAggregateId
          (if outcome = .ok () then -(order.units : ℤ) else 0) inventory middle := by
        rcases debit with ⟨none_stamped, rfl, rfl⟩ | ⟨-, rfl, -, counts⟩ |
          ⟨dropId, drop, stamped, found, enough, -, counts, -⟩
        · rw [none_stamped]
          exact (DropFlow.refl _ _).mono fun stamped => Bool.noConfusion stamped
        · exact .of_labels same counts
        · rw [stamped]
          refine .of_counts same found counts rfl ?_
          simp only [Counts.unheld, Drop.counts]
          split <;> omega
      rw [debited] at ran
      cases outcome with
      | error failure =>
          cases ran
          simpa using first
      | ok _ =>
          have kept : lapsedUnstamped middle order := by
            unfold lapsedUnstamped
            rw [same.2]
            exact unstamped
          simp only [andThen] at ran
          simp only [if_true] at first
          cases again : reacquireReservation middle order now with
          | mk outcome reserved =>
              have second := reacquireReservation_flow kept again order.dropAggregateId
              rw [again] at ran
              cases outcome with
              | error failure =>
                  cases ran
                  exact (first.trans second).mono fun _ => by simp
              | ok _ =>
                  have third := forLines_flow order.dropAggregateId ran
                  refine ((first.trans second).trans third).mono fun _ => ?_
                  split <;> omega

end Functions

/-! The moves of an order. -/

def Terms.units (terms : Terms) : ℕ := (terms.lines.map Line.quantity).sum

/-- The units a pending order accounts for, held or not. -/
def Standing.owned (standing : Standing) : ℕ :=
  if standing.state = .pendingPayment then standing.terms.units else 0

/-- What a step of an order gives back to its drop or counts there, the order
no longer accounts for. -/
def Standing.Flows (standing done : Standing) (before after : Inventory) : Prop :=
  DropFlow standing.terms.drop (standing.owned - done.owned) before after

def Terms.singleUnit (terms : Terms) : Prop :=
  terms.drop.isSome = true → terms.units = 1 ∧ terms.auction = none

section Moves

variable {now : Time} {inventory middle after : Inventory} {standing done : Standing}
  {order : Order} {dropped : Option DropId}

/-- A step beside the drops, after which no settled order is pending. -/
theorem Standing.Flows.of_flow {gain : ℤ} (flow : DropFlow standing.terms.drop gain inventory after)
    (bound : standing.terms.drop.isSome = true → gain ≤ standing.owned - done.owned) :
    standing.Flows done inventory after :=
  flow.mono bound

theorem Standing.owned_le (terms : done.terms = standing.terms)
    (settled : done.state = .pendingPayment → standing.state = .pendingPayment) :
    done.owned ≤ standing.owned := by
  unfold Standing.owned
  by_cases pending : done.state = .pendingPayment
  · rw [if_pos pending, if_pos (settled pending), terms]
  · rw [if_neg pending]
    exact Nat.zero_le _

theorem Standing.Flows.beside (flow : DropFlow standing.terms.drop 0 inventory after)
    (terms : done.terms = standing.terms)
    (settled : done.state = .pendingPayment → standing.state = .pendingPayment) :
    standing.Flows done inventory after := by
  refine .of_flow flow fun _ => ?_
  have lowered := Standing.owned_le terms settled
  omega

theorem Standing.Flows.kept (terms : done.terms = standing.terms)
    (settled : done.state = .pendingPayment → standing.state = .pendingPayment) :
    standing.Flows done inventory inventory :=
  .beside (.refl _ _) terms settled

theorem Standing.Flows.relabel {start last : Standing} (flows : standing.Flows done inventory after)
    (first : start.terms = standing.terms ∧ start.state = standing.state)
    (second : last.terms = done.terms ∧ last.state = done.state) :
    start.Flows last inventory after := by
  have begins : start.owned = standing.owned := by
    rw [Standing.owned, Standing.owned, first.1, first.2]
  have ends : last.owned = done.owned := by
    rw [Standing.owned, Standing.owned, second.1, second.2]
  rw [Standing.Flows, first.1, begins, ends]
  exact flows

theorem Order.Shows.units (shows_row : order.Shows standing) :
    order.units = standing.terms.units := by
  rw [Order.units, shows_row.lines, Terms.units]

theorem Order.Shows.stamp (shows_row : order.Shows standing) :
    order.dropAggregateId = standing.terms.drop := congrArg Terms.drop shows_row.terms

theorem Standing.Flows.released (shows_row : order.Shows standing)
    (pending : standing.state = .pendingPayment) (ended : done.state ≠ .pendingPayment)
    (flow : DropFlow order.dropAggregateId order.units inventory after) :
    standing.Flows done inventory after := by
  rw [shows_row.stamp, shows_row.units] at flow
  refine .of_flow flow fun _ => ?_
  simp [Standing.owned, pending, ended]

theorem Acquire.flows (acquired : Acquire inventory standing after done) :
    DropFlow dropped 0 inventory after ∧ done.terms = standing.terms ∧
      done.state = standing.state := by
  cases acquired with
  | auction auctioned => exact ⟨.refl _ _, rfl, rfl⟩
  | kept single pending held => exact ⟨.refl _ _, rfl, rfl⟩
  | taken single pending free acquired =>
      exact ⟨forLines_flow dropped (orRollback_ok acquired), rfl, rfl⟩

theorem Refund.flows (routed : Refund now inventory standing after done) :
    standing.Flows done inventory after := by
  cases routed with
  | @cancelled order _ shows_row open_payment pending released =>
      refine .released shows_row pending (by simp [Standing.close]) ?_
      refine (releaseHeld_flow released).mono fun _ => ?_
      split
      · exact Int.le_refl _
      · exact Int.natCast_nonneg _
  | kept open_payment settled => exact .kept rfl id

theorem Confirm.flows (single : standing.terms.singleUnit)
    (pending : standing.terms.drop.isSome = true → standing.state = .pendingPayment)
    (confirmed : Confirm now order inventory standing after done) :
    standing.Flows done inventory after := by
  obtain ⟨terms, payable, deliverable, unpaid, stocked⟩ := confirmed
  have stamp : order.dropAggregateId = standing.terms.drop := congrArg Terms.drop terms
  have flow := confirmStock_flow stocked
  rw [stamp] at flow
  refine .of_flow flow fun stamped => ?_
  have paid : (standing.confirm order.paykitPins (confirmedState order)).state ≠
      .pendingPayment := by
    change confirmedState order ≠ _
    unfold confirmedState
    split <;> decide
  rw [Standing.owned, Standing.owned, if_pos (pending stamped), if_neg paid, (single stamped).1]
  decide

/-- The debit of a hold taken again pays for the unit its confirmation
counts. -/
theorem Retake.flows (single : standing.terms.singleUnit)
    (unstamped : ∀ order : Order, order.terms = standing.terms → lapsedUnstamped inventory order)
    (retaken : Retake now inventory standing after done) : standing.Flows done inventory after := by
  obtain ⟨shows_row, reacquired, stored, confirmed⟩ := retaken
  rename_i order row taken
  have debit := reacquireStock_flow (unstamped order shows_row.terms) reacquired
  rw [if_pos rfl, shows_row.stamp, shows_row.units] at debit
  obtain ⟨terms, payable, deliverable, unpaid, stocked⟩ := confirmed
  have flow := confirmStock_flow stocked
  rw [show row.dropAggregateId = standing.terms.drop from congrArg Terms.drop terms] at flow
  refine .of_flow (debit.trans flow) fun stamped => ?_
  have paid : (standing.confirm row.paykitPins (confirmedState row)).state ≠ .pendingPayment := by
    change confirmedState row ≠ _
    unfold confirmedState
    split <;> decide
  rw [Standing.owned, Standing.owned, if_neg paid, (single stamped).1]
  split <;> decide

theorem Late.flows (single : standing.terms.singleUnit)
    (unstamped : ¬ (standing.state = .pendingPayment ∧ standing.held = true) →
      ∀ order : Order, order.terms = standing.terms → lapsedUnstamped inventory order)
    (late : Late now inventory standing after done) : standing.Flows done inventory after := by
  cases late with
  | undeliverable routed => exact routed.flows
  | held open_payment pending held => exact .kept rfl id
  | completed unheld unresolved retaken => exact retaken.flows single (unstamped unheld)
  | lost shows_row deliverable unheld failed routed =>
      have lost := reacquireStock_flow (unstamped unheld _ shows_row.terms) failed
      rw [if_neg (by simp), shows_row.stamp] at lost
      exact .of_flow (lost.trans routed.flows) fun _ => by omega

theorem Confirm.pending (owns : standing.HoldsOwn) (single : standing.terms.singleUnit)
    (shows_row : order.Shows standing)
    (confirmed : Confirm now order inventory standing after done) :
    standing.terms.drop.isSome = true → standing.state = .pendingPayment := by
  intro stamped
  obtain ⟨terms, payable, deliverable, unpaid, stocked⟩ := confirmed
  have alone : order.auctionAggregateId = none :=
    shows_row.auction.trans (single stamped).2
  unfold confirmStock at stocked
  obtain ⟨converted, first, -⟩ := Outcome.bind_ok stocked
  simp only [convertHold, alone] at first
  split at first
  · rename_i held
    exact (owns (shows_row.held.symm.trans held)).1
  · cases first

theorem Settle.flows (owns : standing.HoldsOwn) (single : standing.terms.singleUnit)
    (settled : Settle now inventory standing after done) : standing.Flows done inventory after := by
  cases settled with
  | confirmed shows_row confirmed =>
      exact confirmed.flows single (confirmed.pending owns single shows_row)
  | refunded routed => exact routed.flows
  | reviewed => exact .kept rfl id

theorem Resolve.flows (single : standing.terms.singleUnit)
    (unstamped : standing.receipt = none ∧ done.receipt.isSome = true →
      ∀ order : Order, order.terms = standing.terms → lapsedUnstamped inventory order)
    (resolved : Resolve now inventory standing after done) :
    standing.Flows done inventory after := by
  cases resolved with
  | intact shows_row pending present confirmed => exact confirmed.flows single fun _ => pending
  | retaken shows_row open_order lost retaken =>
      have issued : standing.receipt = none ∧ done.receipt.isSome = true := by
        cases retaken with
        | intro shows_row reacquired stored confirmed =>
            cases confirmed with
            | intro terms payable deliverable unpaid stocked => exact ⟨unpaid, rfl⟩
      exact retaken.flows single (unstamped issued)
  | gaveBack shows_row pending closed released =>
      refine .released shows_row pending ?_ (cancelledHold_flow released)
      cases closed <;> simp [Standing.close]
  | closed cancelled closed =>
      refine .kept rfl fun pending => ?_
      cases closed <;> cases pending

theorem Move.flows {references : References} {action : OrderAction} {returned : List Line}
    (coherent : Coherent standing) (single : standing.terms.singleUnit)
    (keeps : standing.terms.drop.isSome = true → returned = [])
    (unstamped : Retakes standing done action →
      ∀ order : Order, order.terms = standing.terms → lapsedUnstamped inventory order)
    (move : Move references now inventory standing action returned after done) :
    standing.Flows done inventory after := by
  -- A bind takes the lines again when their hold has lapsed, and otherwise leaves the stock.
  have acquires {middle : Inventory} {held : Standing}
      (acquired : Acquire inventory standing middle held ∨ middle = inventory ∧ held = standing) :
      DropFlow standing.terms.drop 0 inventory middle ∧ held.terms = standing.terms ∧
        held.state = standing.state := by
    rcases acquired with taken | ⟨rfl, rfl⟩
    · exact taken.flows
    · exact ⟨.refl _ _, rfl, rfl⟩
  have acquired_owns {middle : Inventory} {held : Standing}
      (acquired : Acquire inventory standing middle held ∨ middle = inventory ∧ held = standing) :
      held.HoldsOwn := by
    rcases acquired with taken | ⟨-, rfl⟩
    · exact (coherent.acquired taken).held
    · exact coherent.held
  cases move with
  | stay => exact .kept rfl id
  | bindFiat known chosen unbound pending awaiting unlocked acquired =>
      obtain ⟨flow, terms, state⟩ := acquires (.inl acquired)
      exact .beside flow terms fun _ => pending
  | bindBitcoin chosen prepared unbound pending awaiting unlocked acquired =>
      obtain ⟨flow, terms, state⟩ := acquires (.inl acquired)
      exact .beside flow terms fun _ => pending
  | activate answer preparing => exact .kept rfl id
  | track answer current voided settled =>
      obtain ⟨terms, -⟩ := standing.activate.lapse_kept
      split
      · refine .kept terms fun pending => ?_
        unfold Standing.lapse at pending
        split at pending <;> exact pending
      · exact .kept rfl id
  | voidPrepare answer voids shows_row preparing released =>
      refine .beside ?_ rfl id
      rcases Outcome.ite_ok released with ⟨-, ran⟩ | ⟨-, rfl⟩
      · exact forLines_flow _ (orRollback_ok ran)
      · exact .refl _ _
  | dropRequest preparing settled => exact .kept rfl id
  | expirePreparing answer shows_row preparing released =>
      obtain ⟨bound, awaiting, -⟩ := coherent.preparing preparing
      have pending := (coherent.open_payment bound awaiting).1
      have ended : OrderState.cancelled ≠ .pendingPayment := by decide
      exact .released shows_row pending ended (releaseUnpaidHold_flow released)
  | expireHeld shows_row pending held settled outside open_payment released =>
      have ended : OrderState.cancelled ≠ .pendingPayment := by decide
      exact .released shows_row pending ended (releaseUnpaidHold_flow released)
  | expireIdle pending free unbound only unstamped awaiting => exact .kept rfl fun _ => pending
  | cancelPending shows_row pending outside released =>
      have ended : OrderState.cancelled ≠ .pendingPayment := by decide
      exact .released shows_row pending ended (releasePending_flow released)
  | cancelPaid shows_row paid gave =>
      have flow := creditThenRelease_flow gave
      rw [shows_row.stamp] at flow
      refine .of_flow flow fun stamped => ?_
      -- A stamped order has one unit, which the condition does not let it give back.
      have one := (single stamped).1
      rw [Terms.units, keeps stamped] at one
      cases one
  | requestCancel paid =>
      refine .kept rfl fun pending => ?_
      cases pending
  | @approveCancel _ order _ _ shows_row requested releasable gave =>
      have flow := creditThenRelease_flow gave
      rw [show ({ order with lines := returned } : Order).dropAggregateId = standing.terms.drop from
        shows_row.stamp] at flow
      refine .of_flow flow fun stamped => ?_
      simp [keeps stamped, Order.units, Standing.owned, requested]
  | fulfil command paid ended ready label recorded =>
      refine .kept rfl fun pending => ?_
      simp only at pending
      simp [pending] at label
  | settle rail awaiting settled => exact settled.flows coherent.held single
  | late rail money expired late =>
      refine late.flows single fun _ => unstamped (.late ?_)
      rcases rail with fiat | locks
      · exact .expired fiat money expired
      · exact .expired locks money expired
  | settlePoll rail awaiting gate settled froze =>
      exact (settled.flows coherent.held single).relabel ⟨rfl, rfl⟩ ⟨rfl, rfl⟩
  | @latePoll _ _ _ seen observed rail money open_payment outside froze late flagged =>
      have retakes : Retakes standing done action := by
        rcases open_payment with awaiting | expired
        · exact .reported rail money (flagged awaiting)
        · exact .late (.expired rail money expired)
      have reported : (standing.report seen observed).terms.singleUnit := single
      exact (late.flows reported fun _ => unstamped retakes).relabel ⟨rfl, rfl⟩ ⟨rfl, rfl⟩
  | fallback advanced froze => exact .kept rfl id
  | confirmSeller window awaiting confirmed froze first queued pinned =>
      have bound := (coherent.window window).1
      have pending := (coherent.open_payment bound awaiting).1
      exact (confirmed.flows single fun _ => pending).relabel ⟨rfl, rfl⟩ ⟨rfl, rfl⟩
  | windowLapsed request awaiting opened due froze => exact .kept rfl id
  | resolve paykit review unresolved resolved first queued pinned =>
      refine (resolved.flows single ?_).relabel ⟨rfl, rfl⟩ ⟨rfl, rfl⟩
      intro issued
      exact unstamped (.ruled issued.1 issued.2)
  | routeMismatch watching unbound paykit open_payment outside untracked unresolved froze =>
      exact .kept rfl id
  | routeLate watching unbound paykit open_payment outside untracked froze swapped late =>
      have same := swapped.eq
      have lapsed := unstamped (.late (.released unbound paykit open_payment outside untracked))
      refine (late.flows ?_ fun _ order terms => ?_).relabel ?_ ⟨rfl, rfl⟩
      · rw [same]
        exact single
      · rw [same] at terms
        exact lapsed order terms
      · rw [same]
        exact ⟨rfl, rfl⟩
  | detect rail pending => exact .kept rfl id
  | refresh rail request amount => exact .kept rfl id
  | enterWindow rail entry reported awaiting froze first extended =>
      subst extended
      exact .beside (extend_flow _ _ _ _) rfl id
  | sandbox sandbox target_ok unconfirmed acquired =>
      obtain ⟨flow, terms, state⟩ := acquires acquired
      exact .beside flow terms fun pending => state.symm.trans pending
  | sandboxSettle sandbox open_payment acquired settled =>
      obtain ⟨flow, terms, state⟩ := acquires acquired
      have owns := acquired_owns acquired
      rw [← terms] at single
      have flows := (settled.flows owns single).relabel ⟨terms.symm, state.symm⟩ ⟨rfl, rfl⟩
      exact .of_flow (flow.trans flows) fun _ => by omega
  | prepareLocks unbound unlocked pending awaiting priced acquired =>
      obtain ⟨flow, terms, state⟩ := acquires (.inl acquired)
      exact .beside flow terms fun _ => pending
  | registerLocks locks => exact .kept rfl id

end Moves

/-! The transactions beside the orders. -/

def Stamps (before after : Inventory) : Prop :=
  ∀ key, ∀ row ∈ after.reservations.find? key, before.claim key = some row.claim ∨
    ∀ dropId ∈ row.dropAggregateId, (after.limitOf (dropId, row.buyerPubky)).isSome = true

/-- A transaction that leaves the books of the drops balanced by itself. -/
structure Balances (before after : Inventory) : Prop where
  flow : DropFlow none 0 before after
  stamps : Stamps before after

section Catalog

variable {inventory middle after : Inventory} {now : Time}

theorem Stamps.of_same (same : after.reservations = inventory.reservations) :
    Stamps inventory after := by
  intro key row found
  rw [same] at found
  left
  rw [Inventory.claim, Option.mem_def.mp found, Option.map_some]

theorem Balances.of_tables (drops : after.drops = inventory.drops)
    (reservations : after.reservations = inventory.reservations) : Balances inventory after :=
  ⟨.of_tables drops reservations, .of_same reservations⟩

theorem Balances.of_labels (same : SameListings inventory after)
    (counts : ∀ id, after.countsOf id = inventory.countsOf id) : Balances inventory after :=
  ⟨.of_labels same counts, .of_same same.2⟩

theorem Stamps.of_status {key : ReservationId} {reservation : Reservation}
    {status : ReservationStatus} (found : inventory.reservations.find? key = some reservation)
    (reservations : after.reservations =
      inventory.reservations.set key { reservation with status := status }) :
    Stamps inventory after := by
  intro other row present
  left
  rw [reservations, Option.mem_def, Keyed.Table.find?_set] at present
  split at present
  · rename_i here
    cases present
    rw [here, Inventory.claim, found, Option.map_some]
    rfl
  · rw [Inventory.claim, present, Option.map_some]

theorem Balances.of_status {key : ReservationId} {reservation : Reservation}
    {status : ReservationStatus} (found : inventory.reservations.find? key = some reservation)
    (closed : status ≠ .active) (drops : after.drops = inventory.drops)
    (reservations : after.reservations =
      inventory.reservations.set key { reservation with status := status }) :
    Balances inventory after := by
  constructor
  · refine .of_reservations drops fun id => ?_
    have share := inventory.reservations.sum_set_of_find? (Reservation.heldOf id)
      { reservation with status := status } found
    rw [heldOf_inactive closed] at share
    rw [Inventory.reservedUnits, Inventory.reservedUnits, reservations]
    omega
  · exact .of_status found reservations

theorem Balances.then_tables (balances : Balances inventory middle)
    (drops : after.drops = middle.drops) (purchases : after.dropPurchases = middle.dropPurchases)
    (reservations : after.reservations = middle.reservations) : Balances inventory after := by
  constructor
  · exact (balances.flow.trans (.of_tables drops reservations)).mono fun _ => by omega
  · intro key row present
    rw [reservations] at present
    have limits (pair : DropId × Pubky) : after.limitOf pair = middle.limitOf pair := by
      rw [Inventory.limitOf, Inventory.limitOf, purchases]
    simpa [limits] using balances.stamps key row present

theorem insertReservation_units {key : ReservationId} {row : Reservation}
    (inserted : inventory.insertReservation key row = .ok after) :
    after.drops = inventory.drops ∧ after.dropPurchases = inventory.dropPurchases ∧
      inventory.reservations.find? key = none ∧
      after.reservations = inventory.reservations.set key row ∧
      ∀ id, after.reservedUnits id = inventory.reservedUnits id + row.heldOf id := by
  obtain ⟨absent, rfl⟩ := insertReservation_ok inserted
  exact ⟨rfl, rfl, absent, rfl, fun id => inventory.reservations.sum_set_of_fresh _ row absent⟩

theorem Balances.inserted {key : ReservationId} {row : Reservation}
    (unstamped : row.dropAggregateId = none)
    (inserted : inventory.insertReservation key row = .ok after) : Balances inventory after := by
  obtain ⟨drops, -, -, reservations, units⟩ := insertReservation_units inserted
  constructor
  · refine .of_reservations drops fun id => ?_
    rw [units id]
    simp [Reservation.heldOf, unstamped]
  · intro other found present
    rw [reservations, Option.mem_def, Keyed.Table.find?_set] at present
    split at present
    · cases present
      right
      simp [unstamped]
    · left
      rw [Inventory.claim, present, Option.map_some]

theorem reserveInventory_balances {key : ReservationId} {id : ListingId} {sender : Sender}
    {quantity ttlSeconds : ℕ}
    (reserved : reserveInventory inventory key id sender quantity ttlSeconds now = .ok after) :
    Balances inventory after := by
  obtain ⟨-, -, -, gated, same, -, inserted⟩ := reserveInventory_ok reserved
  rename_i listing held gate
  cases bound : lockBoundDrop inventory id with
  | none =>
      simp only [bound] at gated
      subst gated
      have unstamped := Balances.inserted (by simp [bound]) inserted
      have listed : Balances gate (gate.setListing id held) := .of_tables rfl rfl
      constructor
      · exact (listed.flow.trans unstamped.flow).mono fun _ => by omega
      · exact unstamped.stamps
  | some chosen =>
      obtain ⟨dropId, drop⟩ := chosen
      simp only [bound] at gated
      obtain ⟨rfl, passed⟩ := gated
      have found := lockBoundDrop_found bound
      obtain ⟨enough, -, -, counts, -⟩ := enforceDropGate_ok found passed
      obtain ⟨drops, purchases, fresh, reservations, units⟩ := insertReservation_units inserted
      have counted (other : DropId) : after.countsOf other = gate.countsOf other := by
        rw [Inventory.countsOf, drops]
        rfl
      have claimed (other : DropId) : after.reservedUnits other =
          inventory.reservedUnits other + if other = dropId then 1 else 0 := by
        rw [units other, Inventory.reservedUnits, Inventory.setListing, same.2, bound]
        by_cases here : other = dropId
        · simp [here, Reservation.heldOf, Inventory.reservedUnits]
        · have elsewhere : dropId ≠ other := fun same => here same.symm
          simp [here, elsewhere, Reservation.heldOf, Inventory.reservedUnits]
      constructor
      · refine .of_trade found (fun other => (counted other).trans (counts other)) rfl rfl ?_ ?_
        · rw [claimed, if_pos rfl]
          simp only [Counts.unheld, Drop.counts]
          omega
        · intro other elsewhere
          rw [claimed, if_neg elsewhere]
          exact Nat.le_refl _
      · intro other row present
        rw [reservations, Option.mem_def, Keyed.Table.find?_set] at present
        split at present
        · cases present
          right
          intro stamp named
          simp only [bound, Option.map_some, Option.mem_def, Option.some.injEq] at named
          rw [Inventory.limitOf, purchases, ← named]
          exact Option.isSome_of_eq_some (enforceDropGate_terms found passed).2
        · left
          have old : inventory.reservations.find? other = some row := by
            rw [← same.2]
            exact present
          rw [Inventory.claim, old, Option.map_some]

theorem restockReservation_tables {reservation : Reservation} {state : Listing → ListingState}
    (restocked : restockReservation inventory reservation state = .ok after) :
    after.drops = inventory.drops ∧ after.dropPurchases = inventory.dropPurchases ∧
      after.reservations = inventory.reservations := by
  obtain ⟨listing, enough, -, rfl⟩ := restockReservation_ok restocked
  exact ⟨rfl, rfl, rfl⟩

/-- A lapsed reservation gives its units back to the drop. -/
theorem expireDueReservation_balances {key : ReservationId}
    (expired : expireDueReservation inventory key now = .ok after) : Balances inventory after := by
  cases expireDueReservation_ok expired with
  | kept => exact .of_tables rfl rfl
  | @lapsed reservation gate _ found active _ _ unstamped credited same restocked =>
      have lapsed : Balances inventory { inventory with
          reservations :=
            inventory.reservations.set key { reservation with status := .expired } } :=
        .of_status found (by decide) rfl rfl
      obtain ⟨drops, purchases, reservations⟩ := restockReservation_tables restocked
      cases stamped : reservation.dropAggregateId with
      | none =>
          obtain rfl := unstamped stamped
          exact lapsed.then_tables drops purchases reservations
      | some dropId =>
          obtain ⟨drop, present, -, -, -, counts, -⟩ :=
            creditDropRelease_true (credited dropId stamped)
          have counted (other : DropId) : after.countsOf other = gate.countsOf other := by
            rw [Inventory.countsOf, drops]
            rfl
          have share (other : DropId) : after.reservedUnits other + reservation.heldOf other =
              inventory.reservedUnits other := by
            have exchanged := inventory.reservations.sum_set_of_find? (Reservation.heldOf other)
              { reservation with status := .expired } found
            have nothing := @heldOf_inactive reservation .expired (by decide) other
            rw [nothing] at exchanged
            rw [Inventory.reservedUnits, reservations, same.2]
            exact exchanged
          have held : reservation.heldOf dropId = reservation.quantity := by
            simp [Reservation.heldOf, active, stamped]
          constructor
          · refine .of_trade present (fun other => (counted other).trans (counts other)) rfl rfl
              ?_ ?_
            · have own := share dropId
              rw [held] at own
              simp only [Counts.unheld, Drop.counts]
              omega
            · intro other _
              have own := share other
              omega
          · exact .of_status found (reservations.trans same.2)

theorem acceptOffer_balances {award : Award}
    (accepted : acceptOffer inventory award now = .ok after) : Balances inventory after := by
  obtain ⟨listing, held, -, -, -, inserted⟩ := acceptOffer_ok accepted
  obtain ⟨flow, stamps⟩ := Balances.inserted rfl inserted
  have listed : DropFlow none 0 inventory (inventory.setListing award.listing held) :=
    .of_tables rfl rfl
  exact ⟨(listed.trans flow).mono fun _ => by omega, stamps⟩

theorem expireDueAward_balances {award : Award}
    (expired : expireDueAward inventory award = .ok after) : Balances inventory after := by
  obtain ⟨reservation, found, -, -, -, -, restocked⟩ := expireDueAward_ok expired
  have lapsed : Balances inventory { inventory with
      reservations := inventory.reservations.set award.reservationId
        { reservation with status := .expired } } := .of_status found (by decide) rfl rfl
  obtain ⟨drops, purchases, reservations⟩ := restockReservation_tables restocked
  exact lapsed.then_tables drops purchases reservations

theorem offerCheckout_balances {award : Award} {id : OrderId} {fulfillment : Fulfillment}
    {holdWindowSeconds : ℕ} {book : OrderBook}
    (created : offerCheckout inventory award id fulfillment holdWindowSeconds now =
      .ok (book, after)) : Balances inventory after := by
  cases offerCheckout_ok created with
  | intro found => exact .of_status found (by decide) rfl rfl

theorem closeAuction_balances {listingId : ListingId} {winner : Pubky} {priceMinor : ℕ}
    {reservation : ReservationId} {id : OrderId} {book : OrderBook}
    (created : closeAuction inventory listingId winner priceMinor reservation id now =
      .ok (book, after)) : Balances inventory after := by
  cases closeAuction_ok created with
  | @intro listing _ _ _ _ _ enough inserted =>
      obtain ⟨flow, stamps⟩ := Balances.inserted rfl inserted
      have listed : DropFlow none 0 inventory (inventory.setListing listingId
          { listing.hold 1 enough with state := .reserved, auctionActive := false }) :=
        .of_tables rfl rfl
      exact ⟨(listed.trans flow).mono fun _ => by omega, stamps⟩

theorem tombstone_balances {id : ListingId} (deleted : tombstone inventory id now = some after) :
    Balances inventory after := by
  obtain ⟨listing, bindings, -, -, -, rfl⟩ := tombstone_ok deleted
  exact .of_tables rfl rfl

theorem adjustInventory_balances {id : ListingId} {sender : Sender} {delta : ℤ}
    (adjusted : adjustInventory inventory id sender delta = .ok after) :
    Balances inventory after := by
  obtain ⟨listing, balanced, -, -, -, -, -, rfl⟩ := adjustInventory_ok adjusted
  exact .of_tables rfl rfl

theorem Balances.set_drop {dropId : DropId} {drop row : Drop}
    (found : inventory.drops.find? dropId = some drop) (same : SameListings inventory after)
    (drops : after.drops = inventory.drops.set dropId row) (counts : row.counts = drop.counts) :
    Balances inventory after := by
  refine .of_labels same fun id => ?_
  rw [countsOf_set _ _ _ _ _ drops, counts]
  by_cases here : id = dropId
  · simp [here, Inventory.countsOf, found]
  · simp [here, Inventory.countsOf]

theorem cancelDrop_balances {dropId : DropId} {sender : Sender}
    (cancelled : cancelDrop inventory dropId sender now = .ok after) :
    Balances inventory after := by
  obtain ⟨drop, found, -, -, -, rfl⟩ := cancelDrop_ok cancelled
  exact .set_drop found ⟨rfl, rfl⟩ rfl rfl

theorem releaseDropListings_balances {dropId : DropId} {sender : Sender}
    (released : releaseDropListings inventory dropId sender now = .ok after) :
    Balances inventory after := by
  unfold releaseDropListings at released
  split at released
  · cases released
  · rename_i drop found
    obtain ⟨-, released⟩ := Outcome.guard_ok released
    obtain ⟨-, released⟩ := Outcome.guard_ok released
    simp only at released
    obtain ⟨counts, same, -, others⟩ := applyTimeTransitions_counts inventory dropId drop now found
    obtain ⟨-, released⟩ := Outcome.guard_ok released
    cases released
    refine .of_labels same fun id => ?_
    rw [countsOf_set _ _ _ _ _ rfl, ← others id]
    by_cases here : id = dropId
    · have present := (@applyTimeTransitions_terms inventory dropId drop now found).2.1
      simp only [here, if_true, Inventory.countsOf, present, Option.map_some]
      rfl
    · simp [here, Inventory.countsOf]

theorem transitionDueDrop_balances (inventory : Inventory) (dropId : DropId) (now : Time) :
    Balances inventory (transitionDueDrop inventory dropId now) := by
  unfold transitionDueDrop
  split
  · exact .of_tables rfl rfl
  · rename_i drop found
    obtain ⟨-, same, -, others⟩ := applyTimeTransitions_counts inventory dropId drop now found
    exact .of_labels same others

/-- A sync leaves the counters, or starts the units of its drop over: all are
left, and as many paid as before. -/
theorem syncDrop_counts {dropId : DropId} {record : DropRecord}
    (synced : syncDrop inventory dropId record now = .ok after) :
    (∀ id, id ≠ dropId → after.countsOf id = inventory.countsOf id) ∧
      (after.countsOf dropId = inventory.countsOf dropId ∨
        ∃ counts ∈ after.countsOf dropId, counts.remaining = counts.total ∧
          counts.paid = inventory.paidOf dropId) := by
  have writes {written : Inventory} {row : Drop}
      (bound : insertDropListingBindings written dropId
        (isActiveState (derivedState record.startsAt record.endsAt now)) record.listingIds =
          .ok after)
      (drops : written.drops = inventory.drops.set dropId row)
      (full : row.remainingQuantity = row.totalQuantity)
      (paid : row.paidQuantity = inventory.paidOf dropId) :
      (∀ id, id ≠ dropId → after.countsOf id = inventory.countsOf id) ∧
      (after.countsOf dropId = inventory.countsOf dropId ∨
        ∃ counts ∈ after.countsOf dropId, counts.remaining = counts.total ∧
          counts.paid = inventory.paidOf dropId) := by
    have tables := (insertDropListingBindings_tables bound).1.trans drops
    refine ⟨fun id other => ?_, .inr ⟨row.counts, ?_, full, paid⟩⟩
    · rw [countsOf_set _ _ _ _ _ tables, if_neg other, Inventory.countsOf]
    · rw [Option.mem_def, countsOf_set _ _ _ _ _ tables, if_pos rfl]
  unfold syncDrop at synced
  simp only at synced
  split at synced
  · rename_i missing
    refine writes synced rfl rfl ?_
    simp [Inventory.paidOf, Inventory.countsOf, missing]
  · rename_i drop found
    split at synced
    · cases synced
      exact ⟨fun _ _ => rfl, .inl rfl⟩
    · obtain ⟨-, synced⟩ := Outcome.guard_ok synced
      split at synced
      · refine writes synced rfl rfl ?_
        simp [Inventory.paidOf, Inventory.countsOf, found, Drop.counts]
      · cases synced

end Catalog

end MarketplaceService
