import MarketplaceService.System

/-!
Pickup terms (`handlers/pickup.rs`, `pickup.rs`, migration
`0020_local_pickup.sql`) beside the service: the sealed details of a listing
with their version counter, the versions and snapshots that a confirmation pins
to the lines of an order, and the commands that ask whether the terms changed
since.

A sealed text stands in its column as it is; a row that does not open rolls the
confirmation back, which is no step. The two DELETEs of the retention purge are
two steps. The columns of `orders` that only the purge reads are inputs of it.
Notifications to the buyers are not modelled.
-/

namespace MarketplaceService

structure PickupCounter where
  lastVersion : ℕ
  clearedAt : Option Time
deriving DecidableEq, Repr

structure PickupSnapshot where
  listing : ListingId
  version : ℕ
  details : String
  confirmingAdapter : Adapter
deriving DecidableEq, Repr

inductive HandoverRole where
  | buyer
  | seller
deriving DecidableEq, Repr

/-- A record of the run: what was confirmed, set and cleared. -/
inductive PickupEvent where
  | confirmed (order : OrderId)
  | set (listing : ListingId) (version : ℕ)
  | cleared (listing : ListingId)
deriving DecidableEq, Repr

/-- `versionsAtPayment` has `version_at_payment` of each line of an order. The
newest event comes first. -/
structure PickupService where
  sys : Sys
  details : Keyed.Table (ListingId × ℕ) String
  counters : Keyed.Table ListingId PickupCounter
  snapshots : Keyed.Table (OrderId × ℕ) PickupSnapshot
  versionsAtPayment : Keyed.Table OrderId (List (Option ℕ))
  firstRevealedAt : Keyed.Table OrderId Time
  handovers : Keyed.Table OrderId (HandoverRole × Time)
  keys : Bool
  sandboxPayments : Bool
  log : List PickupEvent
deriving DecidableEq

/-- What the terms-change queries read of an order. -/
structure PickupOrder where
  order : Order
  hasReceipt : Bool
  versionsAtPayment : List (Option ℕ)
deriving DecidableEq

def pinnedLines (lines : List Line) (versions : List (Option ℕ)) : List (ListingId × ℕ) :=
  (lines.zip versions).filterMap fun line => line.2.map fun version => (line.1.listing, version)

def PickupOrder.pinned (row : PickupOrder) : List (ListingId × ℕ) :=
  pinnedLines row.order.lines row.versionsAtPayment

def pickupUnavailable : Failure :=
  .refused .invalidState "Pickup is unavailable on this deployment."

def termsChangedAfterPayment : Failure :=
  .refused .invalidState ("The pickup terms changed after payment; the seller cannot confirm " ++
    "the handover until the buyer has seen the change.")

def terminalOrderStates : List OrderState := [.completed, .cancelled, .refundedExternal, .closed]

namespace PickupService

/-! Details. -/

def cleared (service : PickupService) (listing : ListingId) : Bool :=
  (service.counters.find? listing).any fun counter => counter.clearedAt.isSome

def versionsOf (service : PickupService) (listing : ListingId) : List ℕ :=
  (service.details.rows.filter fun row => row.1.1 == listing).map fun row => row.1.2

/-- The version of `current_details`, and the maximum that
`order_has_unresolved_terms_change` selects. -/
def currentVersion (service : PickupService) (listing : ListingId) : Option ℕ :=
  if service.cleared listing then none else (service.versionsOf listing).max?

def currentDetails (service : PickupService) (listing : ListingId) : Option (ℕ × String) :=
  (service.currentVersion listing).bind fun version =>
    (service.details.find? (listing, version)).map fun details => (version, details)

def guardDetailsCommand (service : PickupService) (sender : Sender) (id : ListingId) :
    Except Failure Listing :=
  if !service.keys || service.sandboxPayments then .error pickupUnavailable
  else
    match service.sys.inventory.listings.find? id with
    | none => .error (.refused .notFound "The listing was not found.")
    | some listing =>
        if listing.sellerPubky ≠ sender.actor then
          .error (.refused .unauthorized "Only the listing seller may manage its pickup details.")
        else .ok listing

/-- `lock_counter_cas`; the expected version is the sender's revision. -/
def lockCounterCas (service : PickupService) (sender : Sender) (id : ListingId) :
    Except Failure PickupCounter :=
  let counter := (service.counters.find? id).getD ⟨0, none⟩
  if counter.lastVersion ≠ sender.expectedRevision then
    .error (.refused .revisionConflict "The pickup details version is stale.")
  else .ok counter

/-- `pickup_details.set`. -/
def setDetails (service : PickupService) (sender : Sender) (id : ListingId) (details : String) :
    Except Failure PickupService := do
  let listing ← service.guardDetailsCommand sender id
  if .pickup ∉ listing.fulfillmentMethods then
    .error (.refused .invalidState "The listing does not publish pickup.")
  else
    let counter ← service.lockCounterCas sender id
    let version := counter.lastVersion + 1
    if (service.details.find? (id, version)).isSome then
      .error (.database "listing_pickup_details_pkey")
    else
      return { service with
        details := service.details.set (id, version) details
        counters := service.counters.set id ⟨version, none⟩
        log := .set id version :: service.log }

/-- The order is paid and not at its end. -/
def keepsExhibit (service : PickupService) (id : OrderId) : Bool :=
  (service.sys.cells.find? id).any fun cell =>
    cell.book.receipt.isSome && !terminalOrderStates.contains cell.book.order.state

/-- `pickup_details.clear`: versions pinned by an open order are kept. -/
def clearDetails (service : PickupService) (sender : Sender) (id : ListingId) (now : Time) :
    Except Failure PickupService := do
  let _ ← service.guardDetailsCommand sender id
  let counter ← service.lockCounterCas sender id
  return { service with
    details := service.details.keep fun key =>
      key.1 != id || service.snapshots.rows.any fun row =>
        row.2.listing == key.1 && row.2.version == key.2 && service.keepsExhibit row.1.1
    counters := service.counters.set id { counter with clearedAt := some now }
    log := .cleared id :: service.log }

/-! Pins. -/

/-- One line of `pin_pickup_lines`; a line that was pinned before keeps its
snapshot. -/
def pinLine (details : ListingId → Option (ℕ × String)) (id : OrderId) (adapter : Adapter)
    (snapshots : Keyed.Table (OrderId × ℕ) PickupSnapshot) (line : Line × ℕ) :
    Keyed.Table (OrderId × ℕ) PickupSnapshot :=
  match details line.1.listing with
  | none => snapshots
  | some (version, text) =>
      if (snapshots.find? (id, line.2)).isSome then snapshots
      else snapshots.set (id, line.2) ⟨line.1.listing, version, text, adapter⟩

def pinPickupLines (service : PickupService) (id : OrderId) (lines : List Line)
    (adapter : Adapter) : PickupService :=
  if service.keys then
    { service with
      snapshots :=
        lines.zipIdx.foldl (pinLine service.currentDetails id adapter) service.snapshots
      versionsAtPayment := service.versionsAtPayment.set id
        (lines.map fun line => (service.currentDetails line.listing).map Prod.fst) }
  else service

/-! Terms changes. -/

def pickupOrder (service : PickupService) (id : OrderId) : Option PickupOrder :=
  (service.sys.cells.find? id).map fun cell =>
    { order := cell.book.order
      hasReceipt := cell.book.receipt.isSome
      versionsAtPayment := (service.versionsAtPayment.find? id).getD [] }

def termsChanged (current : Option ℕ) (pinned : ℕ) : Bool :=
  match current with
  | none => true
  | some version => pinned < version

def orderHasUnresolvedTermsChange (service : PickupService) (row : PickupOrder) : Bool :=
  row.order.fulfillment == .pickup && row.pinned.any fun line =>
    termsChanged (service.currentVersion line.1) line.2

def flaggedLines (row : PickupOrder) : List (ListingId × ℕ) :=
  if row.order.fulfillment = .pickup ∧ row.hasReceipt then row.pinned else []

/-- The grouped query of `pickup_terms_changed_flags`. -/
def currentVersions (service : PickupService) (referenced : List ListingId) :
    List (ListingId × ℕ) :=
  let rows := service.details.rows.filter fun row =>
    referenced.contains row.1.1 && !service.cleared row.1.1
  (rows.map fun row => row.1.1).dedup.filterMap fun listing =>
    ((rows.filter fun row => row.1.1 == listing).map fun row => row.1.2).max?.map
      fun version => (listing, version)

def pickupTermsChangedFlags (service : PickupService) (orders : List PickupOrder) :
    Keyed.Table OrderId Bool :=
  let referenced := ((orders.flatMap flaggedLines).map Prod.fst).dedup
  let versions := service.currentVersions referenced
  orders.foldl (fun flags row =>
    if row.order.fulfillment = .pickup ∧ row.hasReceipt then
      flags.set row.order.id
        (row.pinned.any fun line => termsChanged (versions.lookup line.1) line.2)
    else flags) .empty

/-! Retention. -/

/-- The first DELETE of `purge_terminal_pickup_retention`. `aged` are the orders
last updated before the cutoff, `reversed` those with a reversal outstanding. -/
def purgeSnapshots (service : PickupService) (aged reversed : List OrderId) : PickupService :=
  { service with
    snapshots := service.snapshots.keep fun key =>
      !(service.sys.cells.find? key.1).any fun cell =>
        terminalOrderStates.contains cell.book.order.state && !reversed.contains key.1 &&
          (cell.book.order.state != .cancelled || cell.book.order.externalRefund.isSome ||
            aged.contains key.1) }

/-- The second one. -/
def purgeVersions (service : PickupService) : PickupService :=
  { service with
    details := service.details.keep fun key =>
      (service.snapshots.rows.any fun row => row.2.listing == key.1 && row.2.version == key.2) ||
        !(service.cleared key.1 || (service.versionsOf key.1).max?.any (key.2 < ·)) }

/-! Commands on an order. -/

/-- `get_order_pickup_details`, which stamps the first reveal. -/
def reveal (service : PickupService) (id : OrderId) (actor : Pubky) (now : Time) :
    Option PickupService := do
  let cell ← service.sys.cells.find? id
  let pins := service.snapshots.rows.filter fun row => row.1.1 == id
  if cell.book.order.buyerPubky = actor ∧ !service.sandboxPayments ∧ service.keys ∧
      cell.book.receipt.isSome ∧ cell.book.order.state ∉ terminalOrderStates ∧
      cell.book.order.fulfillment = .pickup ∧ pins ≠ [] ∧
      pins.all (fun row => row.2.confirmingAdapter != .sandbox) then
    some { service with
      firstRevealedAt :=
        if (service.firstRevealedAt.find? id).isSome then service.firstRevealedAt
        else service.firstRevealedAt.set id now }
  else none

/-- The orders that the step gives a receipt are pinned in its transaction. -/
def advance (references : References) (service : PickupService) (action : Action) :
    Option PickupService :=
  (service.sys.step references action).map fun sys =>
    let after := { service with sys }
    match action with
    | .order id _ _ =>
        match service.sys.cells.find? id, sys.cells.find? id with
        | some before, some cell =>
            if before.book.receipt = none ∧ cell.book.receipt.isSome then
              let pinned :=
                if cell.book.order.fulfillment = .pickup then
                  after.pinPickupLines id cell.book.order.lines cell.book.payment.adapter
                else after
              { pinned with log := .confirmed id :: service.log }
            else after
        | _, _ => after
    | _ => after

/-- `order.cancel_request`: the buyer's way out is open after a terms change or
the first reveal. -/
def cancelRequest (references : References) (service : PickupService) (id : OrderId)
    (sender : Sender) (reason : String) (now : Time) : Option PickupService := do
  let row ← service.pickupOrder id
  let exitOpen := service.orderHasUnresolvedTermsChange row ||
    (service.firstRevealedAt.find? id).isSome
  service.advance references (.order id now (.cancel sender reason exitOpen))

def confirmPickup (references : References) (service : PickupService) (id : OrderId)
    (sender : Sender) (now : Time) : Except Failure PickupService :=
  match service.pickupOrder id with
  | none => .error (.refused .notFound "The order was not found.")
  | some row => do
      guardOrderAction row.order sender
      if row.order.fulfillment ≠ .pickup then
        .error (.refused .invalidState "This command applies only to pickup orders.")
      else if row.order.state ≠ .paid ∧ row.order.state ≠ .readyForPickup then
        .error (.refused .invalidState "The order is not awaiting a pickup handover.")
      else
        let role : HandoverRole := if sender.actor = row.order.buyerPubky then .buyer else .seller
        if role = .seller ∧ service.orderHasUnresolvedTermsChange row then
          .error termsChangedAfterPayment
        else
          match service.advance references (.order id now (.fulfill .confirmPickup)) with
          | none => .error (.internal "update order")
          | some after =>
              return { after with
                handovers :=
                  if (after.handovers.find? id).isSome then after.handovers
                  else after.handovers.set id (role, now) }

end PickupService

/-! The system. -/

inductive PickupAction where
  | service (action : Action)
  | configure (keys sandboxPayments : Bool)
  | set (sender : Sender) (listing : ListingId) (details : String)
  | clear (sender : Sender) (listing : ListingId) (now : Time)
  | purgeSnapshots (aged reversed : List OrderId)
  | purgeVersions
  | reveal (order : OrderId) (actor : Pubky) (now : Time)
  | cancelRequest (order : OrderId) (sender : Sender) (reason : String) (now : Time)
  | confirmPickup (order : OrderId) (sender : Sender) (now : Time)
deriving DecidableEq

def Action.readsTerms : Action → Bool
  | .order _ _ (.cancel ..) | .order _ _ (.fulfill .confirmPickup) => true
  | _ => false

def PickupService.step (references : References) (service : PickupService) :
    PickupAction → Option PickupService
  | .service action => if action.readsTerms then none else service.advance references action
  | .configure keys sandboxPayments => some { service with keys, sandboxPayments }
  | .set sender listing details => (service.setDetails sender listing details).toOption
  | .clear sender listing now => (service.clearDetails sender listing now).toOption
  | .purgeSnapshots aged reversed => some (service.purgeSnapshots aged reversed)
  | .purgeVersions => some service.purgeVersions
  | .reveal order actor now => service.reveal order actor now
  | .cancelRequest order sender reason now =>
      service.cancelRequest references order sender reason now
  | .confirmPickup order sender now => (service.confirmPickup references order sender now).toOption

def emptyPickup : PickupService where
  sys := emptySys
  details := .empty
  counters := .empty
  snapshots := .empty
  versionsAtPayment := .empty
  firstRevealedAt := .empty
  handovers := .empty
  keys := false
  sandboxPayments := false
  log := []

def pickups (references : References) : Runs.System PickupService PickupAction where
  initial service := service = emptyPickup
  step := PickupService.step references

end MarketplaceService
