import MarketplaceService.GatewayRefunds

/-!
Digital delivery (`handlers/digital.rs`, `handlers/digital_orders.rs`, migration
`0040_digital_delivery.sql`) beside the service and its gateway: the versions of
a listing's deliverable with their counter, the versions that a confirmation
pins to the instant lines of an order, the buyer's download of one line and the
log it leaves.

`digital_delivery.set`, `digital_delivery.clear` and `checkout.create` hold the
listing row they decide on until they commit, and a download holds its order
row, so each is one step. A sealed payload stands in its column as it is; a row
that does not open aborts the transaction, which is no step. The homeserver's
answer about a file and the token buckets of the download are inputs.
-/

namespace MarketplaceService

structure DigitalCounter where
  lastVersion : ℕ
  clearedAt : Option Time
deriving DecidableEq, Repr

/-- A row of `listing_digital_versions`. -/
structure DigitalVersion where
  deliverableId : String
  kind : DigitalDeliveryKind
  payload : String
  supersededAt : Option Time
deriving DecidableEq, Repr

/-- A row of `order_digital_pins`. -/
structure DigitalPin where
  listing : ListingId
  deliverableId : String
  version : ℕ
  kind : DigitalDeliveryKind
  payload : String
  confirmingAdapter : Adapter
deriving DecidableEq, Repr

/-- A row of `order_digital_access`. -/
structure DigitalAccess where
  order : OrderId
  line : ℕ
  accessedAt : Time
deriving DecidableEq, Repr

structure DigitalService where
  gate : GatewaySys
  versions : Keyed.Table (ListingId × ℕ) DigitalVersion
  counters : Keyed.Table ListingId DigitalCounter
  pins : Keyed.Table (OrderId × ℕ) DigitalPin
  access : List DigitalAccess
  keys : Bool
  maxBytes : ℕ

/-- What a seller sets. `sizeBytes` is read of a file only. -/
structure Deliverable where
  kind : DigitalDeliveryKind
  deliverableId : String
  payload : String
  sizeBytes : ℕ
deriving DecidableEq, Repr

def digitalEndedOrderStates : List OrderState := [.cancelled, .refundedExternal, .closed]

inductive TakenBack where
  | reversed
  | refunded
deriving DecidableEq, Repr

def TakenBack.message : TakenBack → String
  | .reversed => "The payment was reversed, so the purchase is no longer available."
  | .refunded => "PayPal refunded this payment, so the purchase is no longer available."

def paymentTakenBack (order : Order) (file : GatewayFile) : Option TakenBack :=
  if file.paymentReversedAt.isSome then some .reversed
  else if order.externalRefund.isSome ∧ order.state ∉ digitalEndedOrderStates then some .refunded
  else none

def digitalUnavailable : Failure :=
  .refused .invalidState "Digital delivery is unavailable on this deployment."

def digitalInUse : Failure :=
  .refused .invalidState
    "Buyers are paying for or still downloading this listing's digital delivery."

def Order.instantLinesAt (order : Order) : List (ℕ × ListingId × DigitalDeliveryKind) :=
  order.lines.zipIdx.filterMap fun line =>
    match line.1.digitalKind with
    | some kind => if kind.isInstant then some (line.2, line.1.listing, kind) else none
    | none => none

namespace DigitalService

def inventory (service : DigitalService) : Inventory := service.gate.sys.inventory

def cell (service : DigitalService) (id : OrderId) : Option Cell := service.gate.sys.cells.find? id

/-! Deliverables. -/

/-- `current_version`, with its number. -/
def currentVersion (service : DigitalService) (listing : ListingId) :
    Option (ℕ × DigitalVersion) :=
  (service.versions.rows.find? fun row => row.1.1 == listing && row.2.supersededAt.isNone).map
    fun row => (row.1.2, row.2)

def usesDelivery (book : OrderBook) (listing : ListingId) : Bool :=
  book.order.fulfillment == .digital &&
    (book.order.state == .pendingPayment ||
      book.receipt.isSome && !digitalEndedOrderStates.contains book.order.state) &&
    book.order.lines.any fun line => line.listing == listing

def listingDigitalInUse (service : DigitalService) (listing : ListingId) : Bool :=
  service.gate.sys.cells.rows.any fun row => usesDelivery row.2.book listing

def ownListing (service : DigitalService) (sender : Sender) (id : ListingId) :
    Except Failure Listing :=
  if !service.keys then .error digitalUnavailable
  else
    match service.inventory.listings.find? id with
    | none => .error (.refused .notFound "The listing was not found.")
    | some listing =>
        if listing.sellerPubky ≠ sender.actor then
          .error (.refused .unauthorized "Only the listing seller may manage its digital delivery.")
        else .ok listing

def checkFile (service : DigitalService) (delivery : Deliverable) (unverified : Option Failure) :
    Except Failure Unit :=
  if delivery.kind ≠ .file then .ok ()
  else if service.maxBytes < delivery.sizeBytes then
    .error (.refused .invalidCommand "The file is larger than this deployment accepts.")
  else
    match unverified with
    | some failure => .error failure
    | none => .ok ()

/-- `lock_counter_cas`; the expected version is the sender's revision. -/
def lockCounterCas (service : DigitalService) (sender : Sender) (id : ListingId) :
    Except Failure ℕ :=
  let last := ((service.counters.find? id).map DigitalCounter.lastVersion).getD 0
  if last ≠ sender.expectedRevision then
    .error (.refused .revisionConflict "The digital delivery version is stale.")
  else .ok last

def pinnedByLive (service : DigitalService) (key : ListingId × ℕ) : Bool :=
  service.pins.rows.any fun row =>
    row.2.listing == key.1 && row.2.version == key.2 &&
      (service.cell row.1.1).any fun cell =>
        !digitalEndedOrderStates.contains cell.book.order.state

def supersedeVersions (service : DigitalService) (id : ListingId) (now : Time) :
    Keyed.Table (ListingId × ℕ) DigitalVersion :=
  (service.versions.mapRows fun key row =>
    if key.1 = id ∧ row.supersededAt = none then { row with supersededAt := some now }
    else row).keep fun key => key.1 != id || service.pinnedByLive key

def setKind (gate : GatewaySys) (id : ListingId) (kind : Option DigitalDeliveryKind) :
    Option GatewaySys :=
  (setDigitalVersion gate.sys.inventory id kind).map fun inventory =>
    { gate with sys := { gate.sys with inventory } }

/-- `digital_delivery.set`. -/
def setDelivery (service : DigitalService) (sender : Sender) (id : ListingId)
    (delivery : Deliverable) (unverified : Option Failure) (now : Time) :
    Except Failure DigitalService := do
  let listing ← service.ownListing sender id
  if .digital ∉ listing.fulfillmentMethods then
    .error (.refused .invalidState "The listing does not publish digital delivery.")
  else
    service.checkFile delivery unverified
    let last ← service.lockCounterCas sender id
    if ((service.currentVersion id).any fun current => current.2.kind != delivery.kind) &&
        service.listingDigitalInUse id then
      .error digitalInUse
    else
      match setKind service.gate id (some delivery.kind) with
      | none => .error (.internal "update listings")
      | some gate =>
          return { service with
            gate
            versions := (service.supersedeVersions id now).set (id, last + 1)
              { deliverableId := delivery.deliverableId
                kind := delivery.kind
                payload := delivery.payload
                supersededAt := none }
            counters := service.counters.set id { lastVersion := last + 1, clearedAt := none } }

/-- `digital_delivery.clear`. -/
def clearDelivery (service : DigitalService) (sender : Sender) (id : ListingId) (now : Time) :
    Except Failure DigitalService := do
  let _ ← service.ownListing sender id
  let last ← service.lockCounterCas sender id
  if service.listingDigitalInUse id then .error digitalInUse
  else
    match setKind service.gate id none with
    | none => .error (.internal "update listings")
    | some gate =>
        return { service with
          gate
          versions := service.supersedeVersions id now
          counters := service.counters.set id { lastVersion := last, clearedAt := some now } }

/-! Pins. -/

/-- `unpinnable`, over the version rows. -/
def unpinnable (service : DigitalService) (order : Order) : Bool :=
  order.fulfillment == .digital && order.instantLines.any fun line =>
    !(service.currentVersion line.1).any fun current => current.2.kind == line.2

/-- One instant line of `pin_digital_lines`. -/
def pinLine (service : DigitalService) (id : OrderId) (adapter : Adapter)
    (pins : Keyed.Table (OrderId × ℕ) DigitalPin) (line : ℕ × ListingId × DigitalDeliveryKind) :
    Option (Keyed.Table (OrderId × ℕ) DigitalPin) :=
  if (pins.find? (id, line.1)).isSome then none
  else
    (service.currentVersion line.2.1).map fun current =>
      pins.set (id, line.1)
        { listing := line.2.1
          deliverableId := current.2.deliverableId
          version := current.1
          kind := line.2.2
          payload := current.2.payload
          confirmingAdapter := adapter }

/-- `pin_digital_lines`; an order with instant lines needs the key. -/
def pinDigitalLines (service : DigitalService) (id : OrderId) (order : Order)
    (adapter : Adapter) : Option (Keyed.Table (OrderId × ℕ) DigitalPin) :=
  if order.instantLinesAt.isEmpty then some service.pins
  else if service.keys then order.instantLinesAt.foldlM (service.pinLine id adapter) service.pins
  else none

/-- A digital order that a step gives a receipt is pinned in its transaction. -/
def advance (references : References) (service : DigitalService) (action : GatewayAction) :
    Option DigitalService := do
  let gate ← service.gate.step references action
  match action with
  | .service (.order id _ _) =>
      match service.cell id, gate.sys.cells.find? id with
      | some before, some cell =>
          if before.book.receipt = none ∧ cell.book.receipt.isSome ∧
              cell.book.order.fulfillment = .digital then
            let pins ← service.pinDigitalLines id cell.book.order cell.book.payment.adapter
            return { service with gate, pins }
          else return { service with gate }
      | _, _ => return { service with gate }
  | _ => return { service with gate }

/-! The download. -/

def accessCoalesceSeconds : ℕ := 3600

structure DeliveredLine where
  lineIndex : ℕ
  listing : ListingId
  kind : DigitalDeliveryKind
  sellerPubky : Pubky
  deliverableId : String
  version : ℕ
  payload : String
deriving DecidableEq, Repr

/-- Whether the buyer may read the line, and the pin that is read. -/
def entitlement (service : DigitalService) (id : OrderId) (actor : Pubky) (index : ℕ) :
    Except Failure (Order × DigitalPin) :=
  match service.cell id with
  | none => .error (.refused .notFound "The order was not found.")
  | some cell =>
      let order := cell.book.order
      if order.fulfillment ≠ .digital ∨
          actor ≠ order.buyerPubky ∧ actor ≠ order.sellerPubky then
        .error (.refused .notFound "The order was not found.")
      else if order.buyerPubky ≠ actor then
        .error (.refused .unauthorized "Only the buyer may open the purchase.")
      else if cell.book.receipt.isNone then
        .error (.refused .invalidState "The purchase is available once payment is confirmed.")
      else
        match paymentTakenBack order (service.gate.file id) with
        | some taken => .error (.refused .invalidState taken.message)
        | none =>
            if order.state ∈ digitalEndedOrderStates then
              .error (.refused .invalidState
                "The order was refunded or cancelled; the purchase is no longer available.")
            else
              match service.pins.find? (id, index) with
              | none => .error (.refused .notFound "The order line has no download.")
              | some pin =>
                  if pin.confirmingAdapter = .sandbox then
                    .error (.refused .invalidState "Sandbox orders do not deliver purchases.")
                  else .ok (order, pin)

/-- The access row of a read; a repeated read within the hour adds none. -/
def recordAccess (references : References) (service : DigitalService) (id : OrderId) (index : ℕ)
    (now : Time) : Option DigitalService :=
  if service.access.any fun row =>
      row.order == id && row.line == index && now < row.accessedAt + accessCoalesceSeconds then
    some service
  else
    (service.gate.step references (.service (.order id now (.openLine index)))).map fun gate =>
      { service with gate, access := ⟨id, index, now⟩ :: service.access }

def getOrderDigitalDelivery (references : References) (service : DigitalService) (id : OrderId)
    (actor : Pubky) (index : ℕ) (limited : Bool) (now : Time) :
    Except Failure (DeliveredLine × DigitalService) := do
  let (order, pin) ← service.entitlement id actor index
  if !service.keys then .error digitalUnavailable
  else if limited then .error (.refused .invalidState "Too many downloads; try again shortly.")
  else
    match service.recordAccess references id index now with
    | none => .error (.internal "digital delivery access log")
    | some after =>
        return (
          { lineIndex := index
            listing := pin.listing
            kind := pin.kind
            sellerPubky := order.sellerPubky
            deliverableId := pin.deliverableId
            version := pin.version
            payload := pin.payload }, after)

end DigitalService

/-! The system. -/

inductive DigitalAction where
  | gate (action : GatewayAction)
  | configure (keys : Bool) (maxBytes : ℕ)
  | set (sender : Sender) (listing : ListingId) (delivery : Deliverable)
      (unverified : Option Failure) (now : Time)
  | clear (sender : Sender) (listing : ListingId) (now : Time)
  | read (order : OrderId) (actor : Pubky) (line : ℕ) (limited : Bool) (now : Time)
deriving DecidableEq

def GatewayAction.writesDelivery : GatewayAction → Bool
  | .service (.setDigitalVersion ..) | .service (.order _ _ (.openLine _)) => true
  | _ => false

def DigitalService.step (references : References) (service : DigitalService) :
    DigitalAction → Option DigitalService
  | .gate action => if action.writesDelivery then none else service.advance references action
  | .configure keys maxBytes => some { service with keys, maxBytes }
  | .set sender listing delivery unverified now =>
      (service.setDelivery sender listing delivery unverified now).toOption
  | .clear sender listing now => (service.clearDelivery sender listing now).toOption
  | .read order actor line limited now =>
      (service.getOrderDigitalDelivery references order actor line limited now).toOption.map
        Prod.snd

def emptyDigital : DigitalService where
  gate := { sys := emptySys, files := .empty }
  versions := .empty
  counters := .empty
  pins := .empty
  access := []
  keys := false
  maxBytes := 0

def digitalDeliveries (references : References) : Runs.System DigitalService DigitalAction where
  initial service := service = emptyDigital
  step := DigitalService.step references

end MarketplaceService
