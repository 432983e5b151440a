import MarketplaceService.Lib.Table
import MarketplaceService.Machines

/-!
The rows of the service's tables (`crates/service/migrations`, `model.rs`).
Every row that belongs to one order (the order, its payment, its receipt, its
released Paykit attempts, its Paykit outbox rows) is kept together in an
`OrderBook`, because every statement of the modelled code addresses those rows
by the order's id. Stock lives in an `Inventory`, shared by all orders.

A CHECK on quantities is a field of its row, so a stored row cannot break it.
The CHECKs and the trigger on payment and order labels are `checks` functions
that each write runs; a write they refuse is a database error.

Times are seconds. Event rows, notification intents, titles, addresses and the
`updated_at` columns of orders, payments and listings are not modelled: no
modelled function reads them.
-/

namespace MarketplaceService

abbrev Time := ℕ
abbrev OrderId := ℕ
abbrev InvoiceId := ℕ
abbrev ReservationId := ℕ
abbrev AwardId := ℕ
abbrev Pubky := String
abbrev ListingId := String
abbrev DropId := String
abbrev Reference := String

/-! Stock. -/

inductive SaleFormat where
  | fixedPrice
  | auction
deriving DecidableEq, Repr

inductive DigitalDeliveryKind where
  | file
  | link
  | text
  | email
  | message
deriving DecidableEq, Repr

/-- File, link and text are released at confirmation, the others by the
seller. -/
def DigitalDeliveryKind.isInstant : DigitalDeliveryKind → Bool
  | .file | .link | .text => true
  | .email | .message => false

inductive Fulfillment where
  | shipping
  | pickup
  | digital
deriving DecidableEq, Repr

structure Listing where
  sellerPubky : Pubky
  listingRevision : ℕ
  serverRevision : ℕ
  state : ListingState
  totalQuantity : ℕ
  availableQuantity : ℕ
  reservedQuantity : ℕ
  soldQuantity : ℕ
  balanced : availableQuantity + reservedQuantity + soldQuantity = totalQuantity
  unitPriceAmountMinor : ℕ
  unitPriceCurrency : String
  unitPriceExponent : ℕ
  shippingMinor : ℕ
  saleFormat : SaleFormat
  /-- Whether the stored auction has the status `active`. -/
  auctionActive : Bool
  fulfillmentMethods : List Fulfillment
  generation : ℕ
  deletedAt : Option Time
  recreatedAt : Option Time
  /-- The kind of the current `listing_digital_versions` row, if any. -/
  currentVersion : Option DigitalDeliveryKind
deriving DecidableEq

def Listing.isDeleted (listing : Listing) : Bool := listing.deletedAt.isSome

def Listing.acceptsCommitmentCreatedAt (listing : Listing) (createdAt : Time) : Bool :=
  !listing.isDeleted && listing.recreatedAt.all fun recreated => recreated ≤ createdAt

structure Reservation where
  listing : ListingId
  buyerPubky : Pubky
  quantity : ℕ
  status : ReservationStatus
  expiresAt : Time
  dropAggregateId : Option DropId
  offerAwardId : Option AwardId
deriving DecidableEq

structure Drop where
  sellerPubky : Pubky
  revision : ℕ
  recordRevision : ℕ
  state : DropState
  startsAt : Time
  endsAt : Option Time
  totalQuantity : ℕ
  perBuyerLimit : ℕ
  remainingQuantity : ℕ
  paidQuantity : ℕ
  updatedAt : Time
  remaining_le : remainingQuantity ≤ totalQuantity
  paid_le : paidQuantity ≤ totalQuantity
deriving DecidableEq

/-- A `drop_purchases` row: how many units of the drop a buyer owns. -/
structure DropPurchase where
  quantity : ℕ
  perBuyerLimit : ℕ
  within : quantity ≤ perBuyerLimit
deriving DecidableEq

structure DropListing where
  active : Bool
  released : Bool
  listingGeneration : ℕ
deriving DecidableEq

structure Inventory where
  listings : Keyed.Table ListingId Listing
  reservations : Keyed.Table ReservationId Reservation
  drops : Keyed.Table DropId Drop
  dropPurchases : Keyed.Table (DropId × Pubky) DropPurchase
  dropListings : Keyed.Table (DropId × ListingId) DropListing
deriving DecidableEq

/-! Orders. -/

inductive PaymentMethod where
  | bitcoin
  | stripe
  | paypal
deriving DecidableEq, Repr

inductive Adapter where
  | sandbox
  | locks
  | paykit
  | stripe
  | paypal
deriving DecidableEq, Repr

inductive HoldSource where
  | checkout
  | locks
  | bind
  | sandbox
  | dropClaim
deriving DecidableEq, Repr

inductive RequestState where
  | preparing
  | pending
  | detected
  | confirmed
  | awaitingSellerConfirmation
deriving DecidableEq, Repr

inductive ActivationState where
  | preparing
  | active
  | voided
deriving DecidableEq, Repr

inductive DeliveryState where
  | pending
  | delivered
  | failed
deriving DecidableEq, Repr

/-- `paykit_allocation_mode`: the two modes the poll dispatches on, and any
other text or none. -/
inductive AllocationMode where
  | sharedManual
  | exclusive
  | unknown
deriving DecidableEq, Repr

inductive ReviewReason where
  | lateSettlement
  | refundRequired
  | amountMismatch
  | unpinnedLegacy
deriving DecidableEq, Repr

inductive ResolutionOutcome where
  | paid
  | refunded
  | abandoned
deriving DecidableEq, Repr

inductive VerifiedBy where
  | processor
  | gateway
  | seller
deriving DecidableEq, Repr

structure Line where
  listing : ListingId
  quantity : ℕ
  digitalKind : Option DigitalDeliveryKind
  quantity_pos : 0 < quantity
deriving DecidableEq

/-- The bind-time FX quote of a USD order. -/
structure Quote where
  quotedSats : ℕ
  currency : String
  exponent : ℕ
deriving DecidableEq, Repr

/-- What phase 1 of a bitcoin bind persists about the prepared invoice. The
bind and the restore of a released attempt write these columns together, and
a bind charges a positive amount. -/
structure PaykitPins where
  invoiceId : InvoiceId
  stackId : String
  stackEndpoint : String
  totalSats : ℕ
  expiresAt : Time
  prepareExpiresAt : Time
  allocationMode : AllocationMode
  addressFingerprint : String
  quote : Option Quote
  total_pos : 0 < totalSats
deriving DecidableEq

/-- `paykit_observation`: facts for the seller's decision. -/
structure Observation where
  confirmed : Bool
  observedSats : Option ℕ
  confirmations : Option ℕ
  amountMatched : Bool
  txid : Option String
  observedAt : Time
  disappeared : Bool
deriving DecidableEq, Repr

structure SellerWindow where
  enteredAt : Time
  deadline : Time
deriving DecidableEq, Repr

structure ExternalRefund where
  amountMinor : ℕ
  reference : String
deriving DecidableEq, Repr

structure Order where
  id : OrderId
  auctionAggregateId : Option ListingId
  dropAggregateId : Option DropId
  buyerPubky : Pubky
  sellerPubky : Pubky
  revision : ℕ
  state : OrderState
  lines : List Line
  totalMinor : ℕ
  currency : String
  exponent : ℕ
  fulfillment : Fulfillment
  createdAt : Time
  offerAwardId : Option AwardId
  edition : Option ℕ
  cancellationReason : Option String
  stockHeld : Bool
  holdExpiresAt : Option Time
  holdSource : Option HoldSource
  externalRefund : Option ExternalRefund
  paymentMethod : Option PaymentMethod
  fiatTransactionRef : Option String
  fiatVerifiedBy : Option VerifiedBy
  paykitRequestReference : Option Reference
  paykitRequestState : Option RequestState
  paykitDeliveryState : Option DeliveryState
  paykitPins : Option PaykitPins
  paykitObservedSats : Option ℕ
  paykitObservation : Option Observation
  paykitBindAttempt : ℕ
  paykitActivationState : Option ActivationState
  sellerWindow : Option SellerWindow
deriving DecidableEq

def Order.paykitInvoiceId (order : Order) : Option InvoiceId :=
  order.paykitPins.map PaykitPins.invoiceId

def Order.paykitTotalSats (order : Order) : Option ℕ :=
  order.paykitPins.map PaykitPins.totalSats

def Order.bitcoinQuotedSats (order : Order) : Option ℕ :=
  (order.paykitPins.bind PaykitPins.quote).map Quote.quotedSats

/-- The sum every drop debit and credit of the order moves. -/
def Order.units (order : Order) : ℕ := (order.lines.map Line.quantity).sum

/-- How many units of a listing a list of lines asks for. -/
def linesOn (listing : ListingId) (lines : List Line) : ℕ :=
  ((lines.filter fun line => line.listing = listing).map Line.quantity).sum

structure Resolution where
  id : ℕ
  outcome : ResolutionOutcome
  bySeller : Option Pubky
  refundReference : Option String
deriving DecidableEq, Repr

structure Payment where
  revision : ℕ
  adapter : Adapter
  state : PaymentState
  confirmations : ℕ
  amountMinor : ℕ
  currency : String
  exponent : ℕ
  manualReviewEnteredAt : Option Time
  reviewReason : Option ReviewReason
  resolution : Option Resolution
deriving DecidableEq, Repr

structure Receipt where
  totalMinor : ℕ
  currency : String
  exponent : ℕ
  merchandiseTotalMinor : ℕ
  merchandiseCurrency : String
  merchandiseExponent : ℕ
  issuedAt : Time
deriving DecidableEq, Repr

inductive AttemptState where
  | watching
  | closedUnpaid
  | lateMoney
  | needsReview
  | resolved
deriving DecidableEq, Repr

inductive AttemptReviewReason where
  | paymentSettled
  | otherRail
  | detectedUnconfirmed
deriving DecidableEq, Repr

/-- A `paykit_superseded_attempts` row; its key is the invoice. The poll
schedule of the row is not modelled: a claim may come at any time. -/
structure Attempt where
  reference : Option Reference
  pins : PaykitPins
  releasedAt : Time
  state : AttemptState
  detectedAt : Option Time
  observation : Option Observation
  reviewReason : Option AttemptReviewReason
  closedAt : Option Time
deriving DecidableEq

inductive OutboxKind where
  | paykitActivate
  | paykitVoid
deriving DecidableEq, Repr

structure OutboxRow where
  kind : OutboxKind
  invoiceId : InvoiceId
  stackId : String
  stackEndpoint : String
  activationAttempt : ℕ
  createdAt : Time
  leaseUntil : Option Time
  deliveredAt : Option Time
deriving DecidableEq, Repr

/-- A `payment_locks_correlations` row: prepared, then registered with a
bundle, then verified. -/
structure LocksCorrelation where
  registered : Bool
  pending : Bool
  windowExpiresAt : Time
deriving DecidableEq, Repr

/-- A `paykit_seller_confirmations` row. `paykitObservation` is `none` where
the row holds an empty document. -/
structure SellerConfirmation where
  confirmedAt : Time
  confirmedTxid : Option String
  confirmedAmountSats : Option ℕ
  paykitObservation : Option Observation
deriving DecidableEq, Repr

/-- A `paykit_manual_resolutions` row, with its observed-payment snapshot. -/
structure ManualResolution where
  resolutionId : ℕ
  outcome : ResolutionOutcome
  resolvedAt : Time
  resolvedBy : Option Pubky
  refundReference : Option String
  paykitObservation : Option Observation
  paykitObservedSats : Option ℕ
deriving DecidableEq, Repr

/-- The rows of one order. The position of an outbox row is its id, and
`openedLines` are the line indices in `order_digital_access`. The two audit
tables and the resolve outbox are keyed by the order. -/
structure OrderBook where
  order : Order
  payment : Payment
  receipt : Option Receipt
  attempts : Keyed.Table InvoiceId Attempt
  outbox : List OutboxRow
  locks : Option LocksCorrelation
  /-- Whether checkout fixed a Locks authority for the payment. -/
  locksSnapshot : Bool
  openedLines : List ℕ
  sellerConfirmation : Option SellerConfirmation
  manualResolution : Option ManualResolution
  /-- The invoice of the order's one `paykit_resolve_outbox` row. -/
  resolveOutbox : Option InvoiceId
deriving DecidableEq

/-- What a transaction on one order reads and writes. -/
structure View where
  inventory : Inventory
  book : OrderBook
deriving DecidableEq

/-! Failures, and the writes that a CHECK or a trigger guards. -/

inductive RefusalKind where
  | notFound
  | unauthorized
  | invalidState
  | invalidCommand
  | insufficientInventory
  | invariantViolation
  | revisionConflict
  | upstreamUnavailable
  | auctionClosed
  | bidTooLow
  | idempotencyConflict
deriving DecidableEq, Repr

/-- Why a transaction stops: a refusal with its text, a `ResolutionFailure`
of the review code, or a statement the database refused. -/
inductive Failure where
  | refused (kind : RefusalKind) (message : String)
  | stockUnavailable
  | internal (step : String)
  | database (constraint : String)
deriving DecidableEq, Repr

/-- `payments_manual_review_entry_check` and `payments_resolution_check`. -/
def Payment.checks (payment : Payment) : Bool :=
  ((payment.state == .manualReview) == payment.manualReviewEnteredAt.isSome) &&
    (payment.resolution.isNone || payment.state != .manualReview)

/-- `orders_paykit_observed_sats_check`, `orders_external_refund_within_total`
and `orders_seller_confirmation_window_check`; the last compares nothing while
the request state is NULL. -/
def Order.checks (order : Order) : Bool :=
  (order.paykitObservedSats.all fun sats => 0 < sats && order.paykitPins.isSome) &&
    (order.externalRefund.all fun refund => 0 < refund.amountMinor &&
      refund.amountMinor ≤ max order.totalMinor (order.paykitTotalSats.getD order.totalMinor)) &&
    (order.paykitRequestState.all fun state =>
      (state == .awaitingSellerConfirmation) == order.sellerWindow.isSome)

/-- The trigger `reject_paykit_observed_sats_rewrite`. -/
def Order.keepsObserved (before after : Order) : Bool :=
  before.paykitObservedSats.isNone || after.paykitObservedSats == before.paykitObservedSats

def OrderBook.updateOrder (book : OrderBook) (order : Order) : Except Failure OrderBook :=
  if !book.order.keepsObserved order then
    .error (.database "paykit_observed_sats is single-assignment")
  else if !order.checks then
    .error (.database "orders check")
  else
    .ok { book with order := order }

def OrderBook.updatePayment (book : OrderBook) (payment : Payment) :
    Except Failure OrderBook :=
  if payment.checks then
    .ok { book with payment := payment }
  else
    .error (.database "payments check")

theorem Payment.checks_iff (payment : Payment) :
    payment.checks = true ↔
      ((payment.state = .manualReview ↔ payment.manualReviewEnteredAt.isSome = true) ∧
        (payment.resolution = none ∨ payment.state ≠ .manualReview)) := by
  unfold Payment.checks
  by_cases review : payment.state = .manualReview
  · simp [review]
  · have other : (payment.state == .manualReview) = false := by simpa using review
    simp [review, other]

theorem updateOrder_ok {book after : OrderBook} {order : Order}
    (updated : book.updateOrder order = .ok after) :
    after = { book with order := order } ∧ book.order.keepsObserved order = true ∧
      order.checks = true := by
  unfold OrderBook.updateOrder at updated
  by_cases kept : book.order.keepsObserved order = true
  · by_cases checked : order.checks = true
    · simp only [kept, checked, Bool.not_true, Bool.false_eq_true, if_false] at updated
      exact ⟨(Except.ok.inj updated).symm, kept, checked⟩
    · simp [kept, checked] at updated
  · simp [kept] at updated

theorem updatePayment_ok {book after : OrderBook} {payment : Payment}
    (updated : book.updatePayment payment = .ok after) :
    after = { book with payment := payment } ∧ payment.checks = true := by
  unfold OrderBook.updatePayment at updated
  by_cases checked : payment.checks = true
  · simp only [checked, if_true] at updated
    exact ⟨(Except.ok.inj updated).symm, checked⟩
  · simp [checked] at updated

/-- The references a deployment derives: a truncated digest of the order and
its attempt number, and the per-order reference of earlier attempts. -/
structure References where
  attemptReference : OrderId → ℕ → Reference
  legacyOrderReference : OrderId → Reference

end MarketplaceService
