import MarketplaceService.Settlement
import MarketplaceService.System
import Mathlib.Data.Set.Insert

/-!
The standing of an order: the part of its rows that decides what a later step
may do, and the moves between standings. A move says everything a committed
step can do to a standing and to the stock, with the guards it was taken
under; columns that no rule reads (revisions, deadlines, observations, texts)
are gone. Every rule about an order is proved of the moves, and the steps of
the service are shown to be moves elsewhere.
-/

namespace MarketplaceService

/-- What an order was placed for. No command rewrites it. -/
structure Terms where
  id : OrderId
  auction : Option ListingId
  drop : Option DropId
  buyer : Pubky
  seller : Pubky
  lines : List Line
  totalMinor : ℕ
  currency : String
  exponent : ℕ
  fulfillment : Fulfillment
  createdAt : Time

def Order.terms (order : Order) : Terms :=
  { id := order.id
    auction := order.auctionAggregateId
    drop := order.dropAggregateId
    buyer := order.buyerPubky
    seller := order.sellerPubky
    lines := order.lines
    totalMinor := order.totalMinor
    currency := order.currency
    exponent := order.exponent
    fulfillment := order.fulfillment
    createdAt := order.createdAt }

/-- The winning reservation of an auction order, kept until `deadline`. -/
def Terms.extend (terms : Terms) (deadline : Time) (inventory : Inventory) : Inventory :=
  match terms.auction with
  | none => inventory
  | some auction =>
      { inventory with
        reservations := inventory.reservations.updateWhere (isWinningHold auction terms.buyer)
          fun reservation => { reservation with expiresAt := deadline } }

/-- An amount with its denomination. -/
structure Charge where
  amountMinor : ℕ
  currency : String
  exponent : ℕ
deriving DecidableEq, Repr

def Terms.charge (terms : Terms) : Charge :=
  { amountMinor := terms.totalMinor, currency := terms.currency, exponent := terms.exponent }

def PaykitPins.charge (pins : PaykitPins) : Charge :=
  { amountMinor := pins.totalSats, currency := "SAT", exponent := 0 }

def Payment.charge (payment : Payment) : Charge :=
  { amountMinor := payment.amountMinor
    currency := payment.currency
    exponent := payment.exponent }

def Receipt.charge (receipt : Receipt) : Charge :=
  { amountMinor := receipt.totalMinor
    currency := receipt.currency
    exponent := receipt.exponent }

/-- What an order knows of its Paykit money: the observation the polls keep
current, the amount frozen from the first one, and the seller window. -/
structure Sighting where
  observation : Option Observation
  observed : Option ℕ
  window : Option SellerWindow
deriving DecidableEq, Repr

/-- The rows the seller's decisions leave: the two audit rows and the invoice
of the resolve row. -/
structure Ruling where
  confirmation : Option SellerConfirmation
  resolution : Option ManualResolution
  outbox : Option InvoiceId
deriving DecidableEq, Repr

structure Standing where
  terms : Terms
  state : OrderState
  held : Bool
  method : Option PaymentMethod
  reference : Option Reference
  request : Option RequestState
  activation : Option ActivationState
  pins : Option PaykitPins
  adapter : Adapter
  payment : PaymentState
  resolved : Bool
  charge : Charge
  receipt : Option Charge
  refund : Option ExternalRefund
  sighting : Sighting
  ruling : Ruling
  locks : Bool
  /-- The invoices with a released-attempt row. -/
  watched : Set InvoiceId
  /-- The invoices of undelivered activate rows. -/
  due : Set InvoiceId

def activateDue (outbox : List OutboxRow) : Set InvoiceId :=
  { invoice | ∃ row ∈ outbox,
    row.kind = .paykitActivate ∧ row.deliveredAt = none ∧ row.invoiceId = invoice }

def Order.sighting (order : Order) : Sighting :=
  { observation := order.paykitObservation
    observed := order.paykitObservedSats
    window := order.sellerWindow }

def OrderBook.ruling (book : OrderBook) : Ruling :=
  { confirmation := book.sellerConfirmation
    resolution := book.manualResolution
    outbox := book.resolveOutbox }

def OrderBook.standing (book : OrderBook) : Standing :=
  { terms := book.order.terms
    state := book.order.state
    held := book.order.stockHeld
    method := book.order.paymentMethod
    reference := book.order.paykitRequestReference
    request := book.order.paykitRequestState
    activation := book.order.paykitActivationState
    pins := book.order.paykitPins
    adapter := book.payment.adapter
    payment := book.payment.state
    resolved := book.payment.resolution.isSome
    charge := book.payment.charge
    receipt := book.receipt.map Receipt.charge
    refund := book.order.externalRefund
    sighting := book.order.sighting
    ruling := book.ruling
    locks := book.locks.isSome
    watched := { invoice | (book.attempts.find? invoice).isSome = true }
    due := activateDue book.outbox }

/-! What a move writes. -/

namespace Standing

def invoice (standing : Standing) : Option InvoiceId := standing.pins.map PaykitPins.invoiceId

/-- The pins get a released-attempt row. -/
def release (standing : Standing) : Standing :=
  { standing with
    watched := standing.watched ∪ { invoice | standing.invoice = some invoice } }

def bind (standing : Standing) (method : PaymentMethod) (reference : Option Reference)
    (adapter : Adapter) : Standing :=
  { standing.release with
    method := some method
    reference := reference
    request := reference.map fun _ => .preparing
    adapter := adapter }

def prepare (standing : Standing) (pins : PaykitPins) : Standing :=
  { standing with
    pins := some pins
    activation := some .preparing
    charge := pins.charge
    due := insert pins.invoiceId standing.due }

def activate (standing : Standing) : Standing :=
  { standing with activation := some .active, request := some .pending }

/-- The bind is undone; of the charge only the amount is restored. -/
def voidPrepare (standing : Standing) : Standing :=
  { standing.release with
    activation := some .voided
    request := none
    method := none
    held := false
    adapter := .sandbox
    charge := { standing.charge with amountMinor := standing.terms.totalMinor } }

/-- The preparing request is let go, the bind stays. -/
def dropRequest (standing : Standing) : Standing :=
  { standing.release with activation := some .voided, request := none }

def pay (standing : Standing) (payment : PaymentState) : Standing :=
  { standing with payment := payment }

def close (standing : Standing) (state : OrderState) : Standing :=
  { standing with state := state, held := false }

/-- A confirmed report is consumed: it closes the seller window and leaves the
observation and the frozen amount. -/
def report (standing : Standing) (observation : Option Observation) (observed : Option ℕ) :
    Standing :=
  { standing with
    request := some .confirmed
    sighting := { observation := observation, observed := observed, window := none } }

/-- A released attempt becomes the order's own again, with what was seen on
it. -/
def restore (standing : Standing) (pins : PaykitPins) (reference : Reference)
    (observation : Option Observation) (observed : Option ℕ) : Standing :=
  { standing.release.report observation observed with
    method := some .bitcoin
    reference := some reference
    activation := some .active
    pins := some pins
    adapter := .paykit
    charge := pins.charge }

def confirm (standing : Standing) (pins : Option PaykitPins) (state : OrderState) : Standing :=
  { standing with
    payment := .confirmed
    receipt := some ((pins.map PaykitPins.charge).getD standing.terms.charge)
    state := state
    held := false }

end Standing

def Standing.lapse (standing : Standing) : Standing :=
  if standing.payment = .awaitingEntitlement then standing.pay .expired else standing

/-- `end_paykit_request` on a standing. -/
def Standing.endRequest (standing : Standing) : Standing :=
  if standing.adapter = .paykit then
    if standing.activation = some .preparing ∧ standing.pins.isSome = true then
      standing.lapse.dropRequest
    else standing.lapse
  else standing

/-- A frozen amount stays, and is positive. -/
structure Standing.Freezes (standing : Standing) (observed : Option ℕ) : Prop where
  kept : ∀ sats ∈ standing.sighting.observed, observed = some sats
  positive : ∀ sats ∈ observed, 0 < sats

/-- The frozen amount, or the one of the observation. -/
def Standing.coalesced (standing : Standing) : Option ℕ :=
  standing.sighting.observed.or (standing.sighting.observation.bind Observation.observedSats)

/-- A standing up to bookkeeping: more invoices are watched, fewer are due. -/
structure Standing.Tidied (before after : Standing) : Prop where
  same : { after with watched := before.watched, due := before.due } = before
  watched : before.watched ⊆ after.watched
  due : after.due ⊆ before.due

theorem Standing.Tidied.eq {before after : Standing} (tidied : before.Tidied after) :
    after = { before with watched := after.watched, due := after.due } := by
  conv_rhs => rw [← tidied.same]

/-! The parts of a move. -/

/-- The row a stock function is given is the stored row. -/
structure Order.Shows (order : Order) (standing : Standing) : Prop where
  terms : order.terms = standing.terms
  state : order.state = standing.state
  held : order.stockHeld = standing.held
  pins : order.paykitPins = standing.pins

/-- `acquire_payment_hold`. -/
inductive Acquire (inventory : Inventory) (standing : Standing) : Inventory → Standing → Prop
  | auction (auctioned : standing.terms.auction.isSome = true) :
      Acquire inventory standing inventory standing
  | kept (single : standing.terms.auction = none) (pending : standing.state = .pendingPayment)
      (held : standing.held = true) : Acquire inventory standing inventory standing
  | taken {after : Inventory} (single : standing.terms.auction = none)
      (pending : standing.state = .pendingPayment) (free : standing.held = false)
      (acquired : acquireLines standing.terms.createdAt standing.terms.lines inventory =
        .ok after) :
      Acquire inventory standing after { standing with held := true }

/-- The states `stamp_review_reason` takes a payment from. -/
def Standing.reviewable (standing : Standing) : Prop :=
  standing.payment ∈ [PaymentState.expired, .awaitingEntitlement, .manualReview, .detected] ∧
    standing.resolved = false

/-- `refund_required`. -/
inductive Refund (now : Time) (inventory : Inventory) (standing : Standing) :
    Inventory → Standing → Prop
  | cancelled {order : Order} {after : Inventory} (shows_row : order.Shows standing)
      (open_payment : standing.reviewable) (pending : standing.state = .pendingPayment)
      (released : releaseHeld inventory order now = .ok after) :
      Refund now inventory standing after ((standing.pay .manualReview).close .cancelled)
  | kept (open_payment : standing.reviewable) (settled : standing.state ≠ .pendingPayment) :
      Refund now inventory standing inventory (standing.pay .manualReview)

/-- `confirm_order` of `order`, with the payment confirmed beside it. -/
inductive Confirm (now : Time) (order : Order) (inventory : Inventory) (standing : Standing) :
    Inventory → Standing → Prop
  | intro {edition : Option ℕ} {after : Inventory} (terms : order.terms = standing.terms)
      (payable : canTransition orderMachine order.state .paid = true)
      (deliverable : unpinnable inventory order = false)
      (unpaid : standing.receipt = none)
      (stocked : confirmStock inventory order now = .ok (edition, after)) :
      Confirm now order inventory standing after
        (standing.confirm order.paykitPins (confirmedState order))

/-- `reacquire_hold` of a lost hold, then the confirmation. -/
inductive Retake (now : Time) (inventory : Inventory) (standing : Standing) :
    Inventory → Standing → Prop
  | intro {order row : Order} {retaken after : Inventory} {done : Standing}
      (shows_row : order.Shows standing)
      (reacquired : reacquireStock inventory order now = (.ok (), retaken))
      (stored : row = if order.auctionAggregateId = none then { order with stockHeld := true }
        else order)
      (confirmed : Confirm now row retaken standing after done) :
      Retake now inventory standing after done

/-- `apply_late_money`. -/
inductive Late (now : Time) (inventory : Inventory) (standing : Standing) :
    Inventory → Standing → Prop
  | undeliverable {after : Inventory} {done : Standing}
      (routed : Refund now inventory standing after done) : Late now inventory standing after done
  | held (open_payment : standing.reviewable) (pending : standing.state = .pendingPayment)
      (held : standing.held = true) :
      Late now inventory standing inventory (standing.pay .manualReview)
  | completed {after : Inventory} {done : Standing}
      (unheld : ¬ (standing.state = .pendingPayment ∧ standing.held = true))
      (unresolved : standing.resolved = false)
      (retaken : Retake now inventory standing after done) :
      Late now inventory standing after done
  | lost {order : Order} {taken after : Inventory} {done : Standing}
      (shows_row : order.Shows standing)
      (deliverable : unpinnable inventory order = false)
      (unheld : ¬ (standing.state = .pendingPayment ∧ standing.held = true))
      (failed : reacquireStock inventory order now = (.error .stockUnavailable, taken))
      (routed : Refund now taken standing after done) : Late now inventory standing after done

/-- The on-time answers to an awaiting payment: confirmed, to be refunded, or
to be reviewed. -/
inductive Settle (now : Time) (inventory : Inventory) (standing : Standing) :
    Inventory → Standing → Prop
  | confirmed {order : Order} {after : Inventory} {done : Standing}
      (shows_row : order.Shows standing)
      (confirmed : Confirm now order inventory standing after done) :
      Settle now inventory standing after done
  | refunded {after : Inventory} {done : Standing}
      (routed : Refund now inventory standing after done) : Settle now inventory standing after done
  | reviewed : Settle now inventory standing inventory (standing.pay .manualReview)

/-- The hold of a pending order, given back by `cancel_held_order`. -/
def cancelledHold (inventory : Inventory) (order : Order) (now : Time) :
    Except Failure Inventory :=
  match order.auctionAggregateId with
  | some auction => releaseReservedHold inventory auction order
  | none => releaseHeld inventory order now

/-- The two outcomes that close an order: its refund is recorded, or it is
abandoned. -/
inductive Closes (standing : Standing) : PaymentState → OrderState → Option ExternalRefund → Prop
  | refunded (refund : ExternalRefund) :
      Closes standing .confirmed .refundedExternal (some refund)
  | abandoned : Closes standing .expired .cancelled standing.refund

/-- The outcomes of `apply_manual_review_resolution`. -/
inductive Resolve (now : Time) (inventory : Inventory) (standing : Standing) :
    Inventory → Standing → Prop
  | intact {order : Order} {after : Inventory} {done : Standing} (shows_row : order.Shows standing)
      (pending : standing.state = .pendingPayment)
      (present : holdPresent inventory order = true)
      (confirmed : Confirm now order inventory standing after done) :
      Resolve now inventory standing after done
  | retaken {order : Order} {after : Inventory} {done : Standing} (shows_row : order.Shows standing)
      (open_order : standing.state = .pendingPayment ∨ standing.state = .cancelled)
      (lost : ¬ (standing.state = .pendingPayment ∧ holdPresent inventory order = true))
      (retaken : Retake now inventory standing after done) :
      Resolve now inventory standing after done
  | gaveBack {order : Order} {after : Inventory} {payment : PaymentState} {state : OrderState}
      {refund : Option ExternalRefund}
      (shows_row : order.Shows standing) (pending : standing.state = .pendingPayment)
      (closed : Closes standing payment state refund)
      (released : cancelledHold inventory order now = .ok after) :
      Resolve now inventory standing after
        { (standing.pay payment).close state with refund := refund }
  | closed {payment : PaymentState} {state : OrderState} {refund : Option ExternalRefund}
      (cancelled : standing.state = .cancelled) (closed : Closes standing payment state refund) :
      Resolve now inventory standing inventory
        { standing.pay payment with state := state, refund := refund }

/-! Moves. -/

/-- The rail whose answer a step applies. -/
inductive Rail where
  | fiat
  | locks
  | poll
deriving DecidableEq

def OrderAction.rail : OrderAction → Option Rail
  | .applyFiat .. | .reviewFiat => some .fiat
  | .applyLocks | .reviewLocks => some .locks
  | .applyPoll .. | .settleRefused .. | .settleAdvanced .. => some .poll
  | _ => none

def OrderAction.answersAbout : OrderAction → Option InvoiceId
  | .answerActivate _ invoice _ _ => some invoice
  | .answerVoid _ invoice _ => some invoice
  | .answerPreparingVoid _ pin _ => some pin.invoiceId
  | _ => none

/-- The answers that report an invoice published. -/
def OrderAction.findsLive : OrderAction → Option InvoiceId
  | .answerActivate _ invoice totalSats (.activated observing activatedTotal) =>
      if observing = true ∧ activatedTotal = totalSats then some invoice else none
  | .answerVoid _ invoice (.error .invoiceFinalized) => some invoice
  | _ => none

def OrderAction.answersPrepare : OrderAction → Option InvoiceId
  | .answerActivate _ invoice _ _ => some invoice
  | .answerPreparingVoid _ pin _ => some pin.invoiceId
  | _ => none

def OrderAction.answersLease : OrderAction → Bool
  | .answerPreparingVoid .. => true
  | _ => false

def OrderAction.prepares : OrderAction → Option InvoiceId
  | .bind request =>
      if request.method = .bitcoin then request.phase1.map Phase1.invoiceId else none
  | _ => none

def OrderAction.appliesMoney : OrderAction → Bool
  | .applyFiat .. | .applyLocks => true
  | .applyPoll row (.confirmed _ facts) =>
      row.pinsPresent && row.paykitRequestState != .awaitingSellerConfirmation &&
        (facts.lateSettlement || facts.allocationMode == .exclusive)
  | .settleAdvanced row confirmed _ _ => row.pinsPresent && confirmed
  | .routeReleased _ amountMatched _ => amountMatched
  | _ => false

/-- The answers to an activate request that undo its bind. -/
def OrderAction.voidsPrepare : OrderAction → Bool
  | .answerActivate _ _ totalSats (.activated observing activatedTotal) =>
      observing && activatedTotal != totalSats
  | .answerActivate _ _ _ (.error failure) => failure != .unavailable
  | _ => false

/-- The second transaction of a refused confirmation. -/
def OrderAction.isFallback : OrderAction → Bool
  | .settleRefused .. => true
  | _ => false

def OrderAction.reportedSats : OrderAction → Option (Option ℕ)
  | .applyPoll _ (.confirmed _ facts) => some facts.observation.observedSats
  | .applyPoll _ (.detected facts) => some facts.observation.observedSats
  | _ => none

def OrderAction.reportsGone : OrderAction → Bool
  | .applyPoll _ .undetected => true
  | _ => false

/-- The reports that may open the seller window, with the amount verdict they
store: on time, for a shared address. -/
def OrderAction.entersWindow : OrderAction → Option Bool
  | .applyPoll row (.confirmed amountMatched facts) =>
      if row.paykitRequestState ≠ .awaitingSellerConfirmation ∧ !facts.lateSettlement ∧
          facts.allocationMode = .sharedManual then some amountMatched
      else none
  | .applyPoll row (.detected facts) =>
      if row.paykitRequestState ≠ .awaitingSellerConfirmation ∧ !facts.lateSettlement ∧
          facts.allocationMode = .sharedManual then some true
      else none
  | _ => none

def OrderAction.reportsLate : OrderAction → Bool
  | .applyPoll _ (.confirmed _ facts) => facts.lateSettlement
  | _ => false

/-- The lines an approved cancellation gives back: all of them, or at least
the lines a digital order's buyer cannot have opened. -/
def Releasable (terms : Terms) (lines : List Line) : Prop :=
  lines.Sublist terms.lines ∧
    ∀ line ∈ terms.lines,
      terms.fulfillment ≠ .digital ∨ line.digitalKind.any DigitalDeliveryKind.isInstant = false →
        line ∈ lines

/-- A committed step on an order, the lines it returns to stock, and what it
does to the stock and to the standing. -/
inductive Move (references : References) (now : Time) (inventory : Inventory)
    (standing : Standing) : OrderAction → List Line → Inventory → Standing → Prop
  | stay {action : OrderAction} :
      Move references now inventory standing action [] inventory standing
  | bindFiat {request : BindRequest} {fiat : FiatMethod} {after : Inventory} {held : Standing}
      (known : fiat = stripeMethod ∨ fiat = paypalMethod) (chosen : request.method = fiat.method)
      (unbound : standing.method = none) (pending : standing.state = .pendingPayment)
      (awaiting : standing.payment = .awaitingEntitlement) (unlocked : standing.adapter ≠ .locks)
      (acquired : Acquire inventory standing after held) :
      Move references now inventory standing (.bind request) [] after
        (held.bind fiat.method none fiat.adapter)
  | bindBitcoin {request : BindRequest} {pins : PaykitPins} {after : Inventory} {held : Standing}
      (chosen : request.method = .bitcoin)
      (prepared : request.phase1.map Phase1.invoiceId = some pins.invoiceId)
      (unbound : standing.method = none) (pending : standing.state = .pendingPayment)
      (awaiting : standing.payment = .awaitingEntitlement) (unlocked : standing.adapter ≠ .locks)
      (acquired : Acquire inventory standing after held) :
      Move references now inventory standing (.bind request) [] after
        ((held.bind .bitcoin
          (some (references.attemptReference standing.terms.id request.attempt)) .paykit).prepare
            pins)
  | activate {action : OrderAction} {invoice : InvoiceId}
      (answer : action.answersPrepare = some invoice)
      (preparing : standing.activation = some .preparing) :
      Move references now inventory standing action [] inventory standing.activate
  | track {action : OrderAction} {invoice : InvoiceId}
      (answer : action.answersAbout = some invoice) (current : standing.invoice = some invoice)
      (voided : standing.activation = some .voided)
      (settled : standing.state ≠ .pendingPayment)
      (live : action.findsLive = some invoice) :
      Move references now inventory standing action [] inventory
        (if standing.adapter = .paykit then standing.activate.lapse else standing.activate)
  | voidPrepare {action : OrderAction} {invoice : InvoiceId} {order : Order} {after : Inventory}
      (answer : action.answersPrepare = some invoice) (voids : action.voidsPrepare = true)
      (shows_row : order.Shows standing) (preparing : standing.activation = some .preparing)
      (released : (if order.stockHeld then orRollback (releaseLines .reserved order.lines inventory)
        else .ok inventory) = .ok after) :
      Move references now inventory standing action [] after standing.voidPrepare
  | dropRequest {row : ℕ} {entry : OutboxRow} (preparing : standing.activation = some .preparing)
      (settled : standing.state ≠ .pendingPayment) :
      Move references now inventory standing (.sendActivate row entry) [] inventory
        standing.dropRequest
  | expirePreparing {action : OrderAction} {invoice : InvoiceId} {order : Order}
      {after : Inventory} (answer : action.answersPrepare = some invoice)
      (shows_row : order.Shows standing) (preparing : standing.activation = some .preparing)
      (released : releaseUnpaidHold inventory order now = .ok after)
      (leased : action.answersLease = true) :
      Move references now inventory standing action [] after
        ((standing.pay .expired).close .cancelled).dropRequest
  | expireHeld {order : Order} {after : Inventory} (shows_row : order.Shows standing)
      (pending : standing.state = .pendingPayment) (held : standing.held = true)
      (settled : standing.activation ≠ some .preparing)
      (outside : standing.request ≠ some .awaitingSellerConfirmation)
      (open_payment : standing.payment = .awaitingEntitlement ∨ standing.payment = .detected ∨
        standing.payment = .expired)
      (released : releaseUnpaidHold inventory order now = .ok after) :
      Move references now inventory standing .expireWindow [] after
        (standing.lapse.close .cancelled)
  | expireIdle {window : ℕ} (pending : standing.state = .pendingPayment)
      (free : standing.held = false) (unbound : standing.method = none)
      (single : standing.terms.auction = none) (unstamped : standing.terms.drop = none)
      (awaiting : standing.payment = .awaitingEntitlement) :
      Move references now inventory standing (.expireIdle window) [] inventory
        ((standing.pay .expired).close .cancelled)
  | cancelPending {sender : Sender} {reason : String} {exitOpen : Bool} {order : Order}
      {after : Inventory}
      (shows_row : order.Shows standing) (pending : standing.state = .pendingPayment)
      (outside : standing.request ≠ some .awaitingSellerConfirmation)
      (released : releasePending inventory order now = .ok after) :
      Move references now inventory standing (.cancel sender reason exitOpen) [] after
        (standing.endRequest.close .cancelled)
  | cancelPaid {sender : Sender} {reason : String} {exitOpen : Bool} {order : Order}
      {after : Inventory}
      (shows_row : order.Shows standing)
      (paid : standing.state = .paid ∨ standing.state = .readyForPickup)
      (returned : returnSold inventory order now = .ok after) :
      Move references now inventory standing (.cancel sender reason exitOpen) standing.terms.lines
        after (standing.close .cancelled)
  | requestCancel {sender : Sender} {reason : String} {exitOpen : Bool}
      (paid : standing.state = .paid ∨ standing.state = .processing ∨
        standing.state = .readyForPickup) :
      Move references now inventory standing (.cancel sender reason exitOpen) [] inventory
        (standing.close .cancelRequested)
  | approveCancel {sender : Sender} {order : Order} {lines : List Line} {after : Inventory}
      (shows_row : order.Shows standing) (requested : standing.state = .cancelRequested)
      (releasable : Releasable standing.terms lines)
      (returned : returnSold inventory { order with lines := lines } now = .ok after) :
      Move references now inventory standing (.approveCancel sender) lines after
        { standing with state := .cancelled }
  | fulfil {action : OrderAction} {state : OrderState} {refund : Option ExternalRefund}
      (command : (∃ step, action = .fulfill step) ∨
        ∃ sender refund, action = .recordRefund sender refund)
      (paid : standing.state ∉ [OrderState.pendingPayment, .cancelRequested, .refundedExternal])
      (ended : standing.state = .cancelled → state = .refundedExternal)
      (ready : state = .readyForPickup → standing.terms.fulfillment = .pickup)
      (label : state ∈ [OrderState.readyForPickup, .shipped, .delivered, .completed,
        .returnRequested, .returnApproved, .returnReceived, .refundedExternal])
      (recorded : if state = .refundedExternal then standing.refund = none ∧ refund.isSome = true
        else refund = standing.refund) :
      Move references now inventory standing action [] inventory
        { standing with state := state, refund := refund }
  | settle {action : OrderAction} {after : Inventory} {done : Standing}
      (rail : action.rail = some .fiat ∨ action.rail = some .locks)
      (awaiting : standing.payment = .awaitingEntitlement)
      (settled : Settle now inventory standing after done) :
      Move references now inventory standing action [] after done
  | late {action : OrderAction} {after : Inventory} {done : Standing}
      (rail : action.rail = some .fiat ∨ action.rail = some .locks)
      (money : action.appliesMoney = true) (expired : standing.payment = .expired)
      (late : Late now inventory standing after done) :
      Move references now inventory standing action [] after done
  | settlePoll {action : OrderAction} {after : Inventory} {done : Standing}
      {seen : Option Observation} {observed : Option ℕ}
      (rail : action.rail = some .poll) (awaiting : standing.payment = .awaitingEntitlement)
      (gate : standing.request ≠ some .awaitingSellerConfirmation ∨ action.isFallback = true)
      (settled : Settle now inventory standing after done)
      (froze : standing.Freezes observed) :
      Move references now inventory standing action [] after (done.report seen observed)
  | latePoll {action : OrderAction} {after : Inventory} {done : Standing}
      {seen : Option Observation} {observed : Option ℕ}
      (rail : action.rail = some .poll) (money : action.appliesMoney = true)
      (open_payment : standing.payment = .awaitingEntitlement ∨ standing.payment = .expired)
      (outside : standing.request ≠ some .awaitingSellerConfirmation)
      (froze : standing.Freezes observed)
      (late : Late now inventory (standing.report seen observed) after done)
      (flagged : standing.payment = .awaitingEntitlement → action.reportsLate = true) :
      Move references now inventory standing action [] after done
  | fallback {row : ClaimedPaykitOrder} {amountMatched : Bool} {observation : PaykitObservation}
      {seen : Option Observation} {observed : Option ℕ}
      (advanced : standing.payment ≠ .awaitingEntitlement)
      (froze : standing.Freezes observed) :
      Move references now inventory standing (.settleRefused row amountMatched observation) []
        inventory (standing.report seen observed)
  | confirmSeller {order : Order} {after : Inventory} {done : Standing}
      (window : standing.request = some .awaitingSellerConfirmation)
      (awaiting : standing.payment = .awaitingEntitlement)
      (confirmed : Confirm now order inventory standing after done)
      (froze : standing.Freezes standing.coalesced)
      (first : standing.ruling.confirmation = none) (queued : standing.ruling.outbox = none)
      (pinned : order.paykitPins.isSome = true) :
      Move references now inventory standing (.confirmBitcoin order) [] after
        { done.report standing.sighting.observation standing.coalesced with
          ruling.confirmation := some (sellerConfirmationRow order now)
          ruling.outbox := order.paykitInvoiceId }
  | windowLapsed {window : SellerWindow}
      (request : standing.request = some .awaitingSellerConfirmation)
      (awaiting : standing.payment = .awaitingEntitlement)
      (opened : standing.sighting.window = some window) (due : window.deadline ≤ now)
      (froze : standing.Freezes standing.coalesced) :
      Move references now inventory standing .routeSellerWindow [] inventory
        ((standing.pay .manualReview).report standing.sighting.observation standing.coalesced)
  | resolve {input : ResolutionInput} {after : Inventory} {done : Standing}
      {row : ManualResolution}
      (paykit : standing.adapter = .paykit) (review : standing.payment = .manualReview)
      (unresolved : standing.resolved = false)
      (resolved : Resolve now inventory standing after done)
      (first : standing.ruling.resolution = none) (queued : standing.ruling.outbox = none)
      (pinned : standing.pins.isSome = true) :
      Move references now inventory standing (.resolveReview input) [] after
        { done with
          resolved := true
          ruling.resolution := some row
          ruling.outbox := standing.invoice }
  | routeMismatch {claimed : WatchedAttempt} {amountMatched : Bool}
      {observation : PaykitObservation} {pins : PaykitPins} {reference : Reference}
      {seen : Option Observation} {observed : Option ℕ}
      (watching : claimed.invoiceId ∈ standing.watched)
      (unbound : standing.method = none ∨ standing.method = some .bitcoin)
      (paykit : standing.adapter = .paykit ∨ standing.adapter = .sandbox)
      (open_payment : standing.payment = .awaitingEntitlement ∨ standing.payment = .expired)
      (outside : standing.request ≠ some .awaitingSellerConfirmation)
      (untracked : ¬ (standing.invoice = some claimed.invoiceId ∧ standing.request.isSome = true))
      (unresolved : standing.resolved = false) (froze : standing.Freezes observed) :
      Move references now inventory standing (.routeReleased claimed amountMatched observation) []
        inventory ((standing.restore pins reference seen observed).pay .manualReview)
  | routeLate {claimed : WatchedAttempt} {observation : PaykitObservation} {pins : PaykitPins}
      {reference : Reference} {after : Inventory} {restored done : Standing}
      {seen : Option Observation} {observed : Option ℕ}
      (watching : claimed.invoiceId ∈ standing.watched)
      (unbound : standing.method = none ∨ standing.method = some .bitcoin)
      (paykit : standing.adapter = .paykit ∨ standing.adapter = .sandbox)
      (open_payment : standing.payment = .awaitingEntitlement ∨ standing.payment = .expired)
      (outside : standing.request ≠ some .awaitingSellerConfirmation)
      (untracked : ¬ (standing.invoice = some claimed.invoiceId ∧ standing.request.isSome = true))
      (froze : standing.Freezes observed)
      (swapped : (standing.restore pins reference seen observed).Tidied restored)
      (late : Late now inventory restored after done) :
      Move references now inventory standing (.routeReleased claimed true observation) []
        after done
  | detect {action : OrderAction} (rail : action.rail = some .poll)
      (pending : standing.request = some .pending) :
      Move references now inventory standing action [] inventory
        { standing with request := some .detected }
  | refresh {action : OrderAction} {seen : Observation} (rail : action.rail = some .poll)
      (request : standing.request = some .awaitingSellerConfirmation)
      (amount : action.reportedSats = some seen.observedSats ∨ action.reportsGone = true ∧
        ∃ old ∈ standing.sighting.observation, seen.observedSats = old.observedSats) :
      Move references now inventory standing action [] inventory
        { standing with sighting.observation := some seen }
  | enterWindow {action : OrderAction} {after : Inventory} {seen : Observation}
      {observed : Option ℕ} (rail : action.rail = some .poll)
      (entry : action.entersWindow = some seen.amountMatched)
      (reported : standing.request = some .pending ∨ standing.request = some .detected)
      (awaiting : standing.payment = .awaitingEntitlement)
      (froze : standing.Freezes observed)
      (first : observed = standing.sighting.observed.or seen.observedSats)
      (extended : after = standing.terms.extend (now + sellerConfirmationWindowSeconds) inventory) :
      Move references now inventory standing action [] after
        { standing with
          request := some .awaitingSellerConfirmation
          sighting :=
            { observation := some seen
              observed := observed
              window := some
                { enteredAt := now, deadline := now + sellerConfirmationWindowSeconds } } }
  | sandbox {sender : Sender} {target : PaymentState} {confirmations windowSeconds : ℕ}
      {after : Inventory} {held : Standing}
      (sandbox : standing.adapter = .sandbox) (target_ok : target ∈ sandboxTargets standing.payment)
      (unconfirmed : target ≠ .confirmed)
      (acquired : Acquire inventory standing after held ∨ after = inventory ∧ held = standing) :
      Move references now inventory standing
        (.advanceSandbox sender target confirmations windowSeconds) [] after (held.pay target)
  | sandboxSettle {sender : Sender} {confirmations windowSeconds : ℕ} {middle after : Inventory}
      {held done : Standing} (sandbox : standing.adapter = .sandbox)
      (open_payment : standing.payment = .awaitingEntitlement ∨ standing.payment = .detected)
      (acquired : Acquire inventory standing middle held ∨ middle = inventory ∧ held = standing)
      (settled : Settle now middle held after done) :
      Move references now inventory standing
        (.advanceSandbox sender .confirmed confirmations windowSeconds) [] after done
  | prepareLocks {actor : Pubky} {windowSeconds : ℕ} {after : Inventory} {held : Standing}
      (unbound : standing.method = none) (unlocked : standing.locks = false)
      (pending : standing.state = .pendingPayment)
      (awaiting : standing.payment = .awaitingEntitlement)
      (priced : standing.charge = standing.terms.charge)
      (acquired : Acquire inventory standing after held) :
      Move references now inventory standing (.prepareLocks actor windowSeconds) [] after
        { held with locks := true, adapter := .locks }
  | registerLocks {actor : Pubky} (locks : standing.locks = true) :
      Move references now inventory standing (.registerLocks actor) [] inventory
        { standing with adapter := .locks }

end MarketplaceService
