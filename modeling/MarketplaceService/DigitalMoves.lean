import MarketplaceService.DigitalDelivery
import MarketplaceService.DigitalFrame
import MarketplaceService.MachineEdges

/-!
What a step does to the digital deliveries. Beside the steps of the service and
its gateway, which leave the versions alone, a step sets or clears the
deliverable of one listing, pins the lines of one order in its receipt
transaction, or lets a buyer open a line.
-/

namespace MarketplaceService

variable {references : References} {service after : DigitalService} {action : DigitalAction}

/-! The current version. -/

namespace DigitalService

theorem currentVersion_same (versions : after.versions = service.versions) (listing : ListingId) :
    after.currentVersion listing = service.currentVersion listing := by
  rw [currentVersion, currentVersion, versions]

theorem scan_supersede (id listing : ListingId) (now : Time) :
    ((service.supersedeVersions id now).rows.find? fun row =>
      row.1.1 == listing && row.2.supersededAt.isNone) =
      if listing = id then none
      else service.versions.rows.find? fun row =>
        row.1.1 == listing && row.2.supersededAt.isNone := by
  simp only [supersedeVersions, Keyed.Table.keep, Keyed.Table.mapRows, List.find?_filter,
    List.find?_map]
  split
  · rename_i same
    subst same
    rw [Option.map_eq_none_iff, List.find?_eq_none]
    intro row _
    by_cases own : row.1.1 = listing ∧ row.2.supersededAt = none
    · simp [own]
    · simp only [not_and] at own
      by_cases key : row.1.1 = listing
      · simp [key, own key]
      · simp [key]
  · rename_i differs
    -- The rows of another listing are neither superseded nor deleted.
    have past : ((fun row : (ListingId × ℕ) × DigitalVersion =>
          decide (((row.1.1 != id || service.pinnedByLive row.1) = true) ∧
            (row.1.1 == listing && row.2.supersededAt.isNone) = true)) ∘
          fun row : (ListingId × ℕ) × DigitalVersion => (row.1,
            if row.1.1 = id ∧ row.2.supersededAt = none then
            { row.2 with supersededAt := some now } else row.2)) =
        fun row => row.1.1 == listing && row.2.supersededAt.isNone := by
      funext row
      by_cases key : row.1.1 = listing
      · cases superseded : row.2.supersededAt <;> simp [key, differs, superseded]
      · simp [key]
    rw [past]
    cases found : service.versions.rows.find? fun row =>
        row.1.1 == listing && row.2.supersededAt.isNone with
    | none => rfl
    | some row =>
        have hit := List.find?_some found
        simp only [Bool.and_eq_true, beq_iff_eq] at hit
        simp [hit.1, differs]

theorem currentVersion_cleared {id : ListingId} {now : Time}
    (versions : after.versions = service.supersedeVersions id now) (listing : ListingId) :
    after.currentVersion listing =
      if listing = id then none else service.currentVersion listing := by
  rw [currentVersion, versions, scan_supersede]
  split <;> rfl

theorem currentVersion_set {id : ListingId} {number : ℕ} {row : DigitalVersion} {now : Time}
    (versions : after.versions = (service.supersedeVersions id now).set (id, number) row)
    (current : row.supersededAt = none) (listing : ListingId) :
    after.currentVersion listing =
      if listing = id then some (number, row) else service.currentVersion listing := by
  have scan := @scan_supersede service id listing now
  rw [currentVersion, versions]
  split
  · rename_i same
    rw [if_pos same] at scan
    subst same
    rw [Keyed.Table.set, Keyed.scan_put_of_none scan (by simp [current])]
    rfl
  · rename_i differs
    rw [if_neg differs] at scan
    rw [Keyed.Table.set, Keyed.scan_put_of_miss _ _ (by simp [Ne.symm differs]), scan]
    rfl

theorem currentVersion_row {listing : ListingId} {current : ℕ × DigitalVersion}
    (found : service.currentVersion listing = some current) :
    service.versions.find? (listing, current.1) = some current.2 ∧
      current.2.supersededAt = none := by
  obtain ⟨row, scanned, rfl⟩ := Option.map_eq_some_iff.mp found
  have hit := List.find?_some scanned
  simp only [Bool.and_eq_true, beq_iff_eq, Option.isNone_iff_eq_none] at hit
  have stored := Keyed.Table.find?_of_mem _ (List.mem_of_find?_eq_some scanned)
  rw [← hit.1]
  exact ⟨stored, hit.2⟩

end DigitalService

/-! Moves. -/

/-- What the buyer's entitlement to a line rests on. -/
structure Entitled (service : DigitalService) (id : OrderId) (actor : Pubky) (index : ℕ)
    (cell : Cell) (pin : DigitalPin) : Prop where
  found : service.cell id = some cell
  digital : cell.book.order.fulfillment = .digital
  buyer : cell.book.order.buyerPubky = actor
  receipt : cell.book.receipt.isSome = true
  stands : paymentTakenBack cell.book.order (service.gate.file id) = none
  open_order : cell.book.order.state ∉ digitalEndedOrderStates
  pinned : service.pins.find? (id, index) = some pin
  rail : pin.confirmingAdapter ≠ .sandbox

theorem entitlement_ok {id : OrderId} {actor : Pubky} {index : ℕ} {order : Order}
    {pin : DigitalPin} (ran : service.entitlement id actor index = .ok (order, pin)) :
    ∃ cell, cell.book.order = order ∧ Entitled service id actor index cell pin := by
  unfold DigitalService.entitlement at ran
  split at ran
  · cases ran
  · rename_i cell found
    obtain ⟨visible, ran⟩ := Outcome.guard_ok ran
    obtain ⟨buyer, ran⟩ := Outcome.guard_ok ran
    obtain ⟨receipt, ran⟩ := Outcome.guard_ok ran
    split at ran
    · cases ran
    · rename_i stands
      obtain ⟨open_order, ran⟩ := Outcome.guard_ok ran
      split at ran
      · cases ran
      · rename_i pin pinned
        obtain ⟨rail, ran⟩ := Outcome.guard_ok ran
        cases ran
        refine ⟨cell, rfl, found, ?_, not_not.mp buyer, ?_, stands, open_order, pinned, rail⟩
        · exact not_not.mp (not_or.mp visible).1
        · simpa [Option.isSome_iff_ne_none] using receipt

def IssuesDigital (before after : Cell) : Prop :=
  before.book.receipt = none ∧ after.book.receipt.isSome = true ∧
    after.book.order.fulfillment = .digital

/-- The row that `digital_delivery.set` inserts. -/
def Deliverable.row (delivery : Deliverable) : DigitalVersion where
  deliverableId := delivery.deliverableId
  kind := delivery.kind
  payload := delivery.payload
  supersededAt := none

inductive DigitalMove (references : References) (service : DigitalService) :
    DigitalAction → DigitalService → Prop
  | configured {keys : Bool} {maxBytes : ℕ} :
      DigitalMove references service (.configure keys maxBytes) { service with keys, maxBytes }
  | advanced {step : GatewayAction} {gate : GatewaySys} (foreign : step.writesDelivery = false)
      (stepped : service.gate.step references step = some gate)
      (unissued : ∀ id now own, step = .service (.order id now own) → ∀ before cell,
        service.cell id = some before → gate.sys.cells.find? id = some cell →
        ¬ IssuesDigital before cell) :
      DigitalMove references service (.gate step) { service with gate }
  | confirmed {id : OrderId} {now : Time} {step : OrderAction} {gate : GatewaySys}
      {before cell : Cell} {pins : Keyed.Table (OrderId × ℕ) DigitalPin}
      (foreign : (GatewayAction.service (.order id now step)).writesDelivery = false)
      (stepped : service.gate.step references (.service (.order id now step)) = some gate)
      (found : service.cell id = some before) (present : gate.sys.cells.find? id = some cell)
      (issues : IssuesDigital before cell)
      (pinned : service.pinDigitalLines id cell.book.order cell.book.payment.adapter = some pins) :
      DigitalMove references service (.gate (.service (.order id now step)))
        { service with gate, pins }
  | set {sender : Sender} {id : ListingId} {delivery : Deliverable} {unverified : Option Failure}
      {now : Time} {gate : GatewaySys} {last : ℕ}
      (free : ((service.currentVersion id).any fun current => current.2.kind != delivery.kind) =
        true → service.listingDigitalInUse id = false)
      (written : DigitalService.setKind service.gate id (some delivery.kind) = some gate) :
      DigitalMove references service (.set sender id delivery unverified now)
        { service with
          gate
          versions := (service.supersedeVersions id now).set (id, last + 1) delivery.row
          counters := service.counters.set id { lastVersion := last + 1, clearedAt := none } }
  | cleared {sender : Sender} {id : ListingId} {now : Time} {gate : GatewaySys} {last : ℕ}
      (free : service.listingDigitalInUse id = false)
      (written : DigitalService.setKind service.gate id none = some gate) :
      DigitalMove references service (.clear sender id now)
        { service with
          gate
          versions := service.supersedeVersions id now
          counters := service.counters.set id { lastVersion := last, clearedAt := some now } }
  | reread {id : OrderId} {actor : Pubky} {line : ℕ} {limited : Bool} {now : Time} :
      DigitalMove references service (.read id actor line limited now) service
  | opened {id : OrderId} {actor : Pubky} {line : ℕ} {limited : Bool} {now : Time}
      {gate : GatewaySys} {cell : Cell} {pin : DigitalPin}
      (entitled : Entitled service id actor line cell pin)
      (stepped : service.gate.step references (.service (.order id now (.openLine line))) =
        some gate) :
      DigitalMove references service (.read id actor line limited now)
        { service with gate, access := ⟨id, line, now⟩ :: service.access }

theorem advance_moves_digital {step : GatewayAction} (foreign : step.writesDelivery = false)
    (ran : service.advance references step = some after) :
    DigitalMove references service (.gate step) after := by
  obtain ⟨gate, stepped, written⟩ := Option.bind_eq_some_iff.mp ran
  split at written
  · rename_i id now own
    split at written
    · rename_i before cell found present
      split at written
      · rename_i issued
        obtain ⟨pins, pinned, same⟩ := Option.bind_eq_some_iff.mp written
        cases same
        exact .confirmed foreign stepped found present issued pinned
      · rename_i unissued
        cases written
        refine .advanced foreign stepped ?_
        rintro other _ _ ⟨⟩ first last stored written issues
        obtain rfl := Option.some.inj (stored.symm.trans found)
        obtain rfl := Option.some.inj (written.symm.trans present)
        exact unissued issues
    · rename_i absent
      cases written
      refine .advanced foreign stepped ?_
      rintro other _ _ ⟨⟩ first last stored written
      exact absurd written (absent first last stored)
  · rename_i other
    cases written
    refine .advanced foreign stepped ?_
    rintro id now own rfl
    exact absurd rfl (other id now own)

theorem digital_step_inv (stepped : service.step references action = some after) :
    DigitalMove references service action after := by
  cases action with
  | gate step =>
      obtain ⟨foreign, ran⟩ := Option.ite_none_left_eq_some.mp stepped
      exact advance_moves_digital (by simpa using foreign) ran
  | configure keys maxBytes =>
      cases stepped
      exact .configured
  | set sender listing delivery unverified now =>
      have ran := Outcome.toOption_some stepped
      unfold DigitalService.setDelivery at ran
      obtain ⟨row, owned, ran⟩ := Outcome.bind_ok ran
      obtain ⟨publishes, ran⟩ := Outcome.guard_ok ran
      obtain ⟨⟨⟩, checked, ran⟩ := Outcome.bind_ok ran
      obtain ⟨last, locked, ran⟩ := Outcome.bind_ok ran
      obtain ⟨free, ran⟩ := Outcome.guard_ok ran
      split at ran
      · cases ran
      · rename_i gate written
        cases ran
        refine .set ?_ written
        intro changes
        simpa [changes] using free
  | clear sender listing now =>
      have ran := Outcome.toOption_some stepped
      unfold DigitalService.clearDelivery at ran
      obtain ⟨row, owned, ran⟩ := Outcome.bind_ok ran
      obtain ⟨last, locked, ran⟩ := Outcome.bind_ok ran
      obtain ⟨free, ran⟩ := Outcome.guard_ok ran
      split at ran
      · cases ran
      · rename_i gate written
        cases ran
        exact .cleared (by simpa using free) written
  | read order actor line limited now =>
      obtain ⟨⟨delivered, service⟩, ran, rfl⟩ := Option.map_eq_some_iff.mp stepped
      have ran := Outcome.toOption_some ran
      unfold DigitalService.getOrderDigitalDelivery at ran
      obtain ⟨⟨book, pin⟩, entitled, ran⟩ := Outcome.bind_ok ran
      obtain ⟨keyed, ran⟩ := Outcome.guard_ok ran
      obtain ⟨allowed, ran⟩ := Outcome.guard_ok ran
      split at ran
      · cases ran
      · rename_i written logged
        cases ran
        unfold DigitalService.recordAccess at logged
        split at logged
        · cases logged
          exact .reread
        · obtain ⟨gate, opened, rfl⟩ := Option.map_eq_some_iff.mp logged
          obtain ⟨cell, -, entitled⟩ := entitlement_ok entitled
          exact .opened entitled opened

end MarketplaceService
