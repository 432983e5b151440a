import MarketplaceService.Activation
import MarketplaceService.Checkout
import MarketplaceService.Lib.Run
import MarketplaceService.PaymentMethods
import MarketplaceService.Poll

/-!
The service as a transition system. A step is one committed transaction, or one
read that starts work outside a transaction. What such work still knows when it
comes back is a `Message` in flight: the order a poll claimed, the invoice an
activate request named, a verified fiat payment. A message may wait for any
time while other steps run, and a step consumes the message it applies. A
transaction that fails writes nothing, so it is not a step.

The remote parties are inputs of the steps and answer anything. A cell keeps,
beside the rows of its order, what the rows do not remember: every invoice the
order ever carried, whether a Stripe session matched, and the lines a cancelled
paid order gave back.
-/

namespace MarketplaceService

inductive Message where
  /-- A reserved bind attempt, before the bind transaction. -/
  | bindReserved (attempt : ℕ)
  | polled (row : ClaimedPaykitOrder)
  /-- The second transaction of a report whose confirmation was refused. -/
  | confirmationRefused (row : ClaimedPaykitOrder) (amountMatched : Bool)
      (observation : PaykitObservation)
  /-- The second transaction of a `shared_manual` report on an advanced payment. -/
  | paymentAdvanced (row : ClaimedPaykitOrder) (confirmed amountMatched : Bool)
      (observation : PaykitObservation)
  | claimedRow (row : ℕ) (entry : OutboxRow)
  | activateSent (row : ℕ) (invoice : InvoiceId) (totalSats : ℕ)
  | voidSent (row : ℕ) (invoice : InvoiceId)
  | preparingLeased (row : ℕ)
  | preparingVoidSent (row : ℕ) (pin : PreparingPin)
  | attemptPolled (claimed : WatchedAttempt)
  | fiatPaid (transactionRef : Option String) (verifiedBy : VerifiedBy)
  | fiatRefused
  | locksClaimed
  | locksRefused
  | sellerConfirming (order : Order)
deriving DecidableEq

structure Cell where
  book : OrderBook
  inFlight : List Message
  everPinned : List InvoiceId
  stripeMatched : Bool
  returned : List Line
deriving DecidableEq

/-- The steps of one order. A constructor names the message it applies. -/
inductive OrderAction where
  | reserveBind (actor : Pubky)
  | bind (request : BindRequest)
  | claimPoll
  | recordDelivery (row : ClaimedPaykitOrder) (delivery : DeliveryState)
  | applyPoll (row : ClaimedPaykitOrder) (outcome : PaykitStatusOutcome)
  | settleRefused (row : ClaimedPaykitOrder) (amountMatched : Bool)
      (observation : PaykitObservation)
  | settleAdvanced (row : ClaimedPaykitOrder) (confirmed amountMatched : Bool)
      (observation : PaykitObservation)
  | claimOutbox (row leaseSeconds : ℕ)
  | sendActivate (row : ℕ) (entry : OutboxRow)
  | answerActivate (row : ℕ) (invoice : InvoiceId) (totalSats : ℕ) (answer : ActivateAnswer)
  | sendVoid (row : ℕ) (entry : OutboxRow)
  | answerVoid (row : ℕ) (invoice : InvoiceId) (answer : VoidAnswer)
  | leasePreparing (leaseSeconds : ℕ)
  | sendPreparingVoid (row : ℕ)
  | answerPreparingVoid (row : ℕ) (pin : PreparingPin) (answer : VoidAnswer)
  | claimReleased (invoice : InvoiceId)
  | routeReleased (claimed : WatchedAttempt) (amountMatched : Bool)
      (observation : PaykitObservation)
  | detectReleased (claimed : WatchedAttempt) (observation : PaykitObservation)
  | closeReleased (claimed : WatchedAttempt)
  | escalateReleased (invoice : InvoiceId)
  | verifyStripe (actor : Pubky) (session : Option String)
  | verifyPaypal (transactionRef : Option String) (verifiedBy : VerifiedBy)
  | applyFiat (transactionRef : Option String) (verifiedBy : VerifiedBy)
  | reviewFiat
  | prepareLocks (actor : Pubky) (windowSeconds : ℕ)
  | registerLocks (actor : Pubky)
  | claimLocks
  | applyLocks
  | reviewLocks
  | advanceSandbox (sender : Sender) (target : PaymentState) (confirmations windowSeconds : ℕ)
  | expireWindow
  | expireIdle (checkoutHoldWindowSeconds : ℕ)
  | cancel (sender : Sender) (reason : String) (exitOpen : Bool)
  | approveCancel (sender : Sender)
  | fulfill (step : FulfillmentStep)
  | recordRefund (sender : Sender) (refund : ExternalRefund)
  | openLine (index : ℕ)
  | readSellerConfirm (actor : Pubky)
  | confirmBitcoin (order : Order)
  | routeSellerWindow
  | resolveReview (input : ResolutionInput)
deriving DecidableEq

/-- The message a step applies. Its delivery is recorded without using the
claim up. -/
def OrderAction.consumes : OrderAction → Option Message
  | .bind request => some (.bindReserved request.attempt)
  | .recordDelivery row _ => some (.polled row)
  | .applyPoll row _ => some (.polled row)
  | .settleRefused row amountMatched observation =>
      some (.confirmationRefused row amountMatched observation)
  | .settleAdvanced row confirmed amountMatched observation =>
      some (.paymentAdvanced row confirmed amountMatched observation)
  | .sendActivate row entry => some (.claimedRow row entry)
  | .answerActivate row invoice totalSats _ => some (.activateSent row invoice totalSats)
  | .sendVoid row entry => some (.claimedRow row entry)
  | .answerVoid row invoice _ => some (.voidSent row invoice)
  | .sendPreparingVoid row => some (.preparingLeased row)
  | .answerPreparingVoid row pin _ => some (.preparingVoidSent row pin)
  | .routeReleased claimed _ _ => some (.attemptPolled claimed)
  | .detectReleased claimed _ => some (.attemptPolled claimed)
  | .closeReleased claimed => some (.attemptPolled claimed)
  | .applyFiat transactionRef verifiedBy => some (.fiatPaid transactionRef verifiedBy)
  | .reviewFiat => some .fiatRefused
  | .applyLocks => some .locksClaimed
  | .reviewLocks => some .locksRefused
  | .confirmBitcoin order => some (.sellerConfirming order)
  | _ => none

/-- What a step leaves: the rows, and the messages it sends on their way. -/
structure Effect where
  view : View
  sent : List Message

def Effect.ofView (result : Except Failure View) : Option Effect :=
  result.toOption.map fun view => { view := view, sent := [] }

def Effect.ofBook (view : View) (result : Except Failure OrderBook) : Option Effect :=
  result.toOption.map fun book => { view := { view with book := book }, sent := [] }

def Effect.ofConfirm (view : View) (refused : Message) (result : Except Failure ConfirmResult) :
    Option Effect :=
  result.toOption.map fun
    | .done after => { view := after, sent := [] }
    | .refused => { view := view, sent := [refused] }

def Effect.ofSettle (view : View) (refused : Message) (result : Except Failure SettleResult) :
    Option Effect :=
  result.toOption.map fun
    | .done after => { view := after, sent := [] }
    | .confirmationRefused => { view := view, sent := [refused] }

def Effect.ofShared (view : View) (advanced : Message) (result : Except Failure SharedResult) :
    Option Effect :=
  result.toOption.map fun
    | .done after => { view := after, sent := [] }
    | .paymentAdvanced => { view := view, sent := [advanced] }

def Effect.read (view : View) (message : Option Message) : Option Effect :=
  message.map fun message => { view := view, sent := [message] }

/-! The processes that dispatch on an answer. -/

/-- `apply_confirmed_paykit_payment` for a claimed order. -/
def settleConfirmed (view : View) (row : ClaimedPaykitOrder) (amountMatched : Bool)
    (observation : PaykitObservation) (lateSettlement : Bool) (now : Time) : Option Effect :=
  Effect.ofSettle view (.confirmationRefused row amountMatched observation)
    (applyConfirmedPaykitPayment view row amountMatched observation lateSettlement now)

/-- `apply_shared_manual_observation` for a claimed order. -/
def observeShared (view : View) (row : ClaimedPaykitOrder) (confirmed amountMatched : Bool)
    (observation : PaykitObservation) (now : Time) : Option Effect :=
  Effect.ofShared view (.paymentAdvanced row confirmed amountMatched observation)
    (applySharedManualObservation view row confirmed amountMatched observation now)

/-- `apply_paykit_status_outcome`: the late flag governs first, then the mode
the report names. -/
def applyPaykitStatusOutcome (view : View) (row : ClaimedPaykitOrder)
    (outcome : PaykitStatusOutcome) (now : Time) : Option Effect :=
  if row.paykitRequestState = .awaitingSellerConfirmation then
    Effect.ofBook view (.ok (applyReportInsideSellerWindow view.book outcome now))
  else
    match outcome with
    | .confirmed amountMatched facts =>
        if facts.lateSettlement then
          settleConfirmed view row amountMatched facts.observation true now
        else
          match facts.allocationMode with
          | .sharedManual => observeShared view row true amountMatched facts.observation now
          | .exclusive => settleConfirmed view row amountMatched facts.observation false now
          | .unknown => Effect.ofBook view (.ok view.book)
    | .detected facts =>
        if facts.lateSettlement then
          Effect.ofBook view (.ok (markPaykitDetected view.book row))
        else
          match facts.allocationMode with
          | .sharedManual => observeShared view row false true facts.observation now
          | .exclusive => Effect.ofBook view (.ok (markPaykitDetected view.book row))
          | .unknown => Effect.ofBook view (.ok view.book)
    | .undetected =>
        if row.paykitAllocationMode = some .sharedManual then
          Effect.ofBook view (.ok (markSharedManualDisappeared view.book))
        else Effect.ofBook view (.ok view.book)
    | .notFound | .unavailable => Effect.ofBook view (.ok view.book)

/-- The second transaction of a `shared_manual` report whose payment has
advanced: the ordinary late path, or the display flip. -/
def settleAdvanced (view : View) (row : ClaimedPaykitOrder) (confirmed amountMatched : Bool)
    (observation : PaykitObservation) (now : Time) : Option Effect :=
  if confirmed then settleConfirmed view row amountMatched observation false now
  else Effect.ofBook view (.ok (markPaykitDetected view.book row))

/-- The first transaction of `deliver_paykit_activation` for a claimed row;
the request it sends names the invoice of the row. -/
def sendActivate (view : View) (row : ℕ) (entry : OutboxRow) (now : Time) : Option Effect :=
  if entry.kind = .paykitActivate then
    (beginActivation view.book row entry.activationAttempt now).toOption.map fun
      | .settled book => { view := { view with book := book }, sent := [] }
      | .send book totalSats =>
          { view := { view with book := book }
            sent := [.activateSent row entry.invoiceId totalSats] }
  else none

/-- `verify_fiat_payment` up to its transaction: a payment that has left
`awaiting_entitlement` is not looked up. -/
def verifyStripe (book : OrderBook) (actor : Pubky) (session : Option String) :
    Option Message :=
  if (actor = book.order.buyerPubky ∨ actor = book.order.sellerPubky) ∧
      book.order.paymentMethod = some .stripe then
    if book.payment.state ≠ .awaitingEntitlement then some (.fiatPaid none .processor)
    else session.map fun id => .fiatPaid (some id) .processor
  else none

/-- The PayPal notification and the seller's `confirm-received`, up to their
transaction. -/
def verifyPaypal (book : OrderBook) (transactionRef : Option String) (verifiedBy : VerifiedBy) :
    Option Message :=
  if book.order.paymentMethod = some .paypal ∧ verifiedBy ≠ .processor then
    some (.fiatPaid transactionRef verifiedBy)
  else none

def transact (references : References) (view : View) (now : Time) : OrderAction → Option Effect
  | .reserveBind actor =>
      (reserveBindAttempt view.book actor).map fun reserved =>
        { view := { view with book := reserved.2 }, sent := [.bindReserved reserved.1] }
  | .bind request => Effect.ofView (bindPaymentMethod references view request now)
  | .claimPoll => Effect.read view ((claimPaykitOrder view.book now).map .polled)
  | .recordDelivery row delivery =>
      some {
        view := { view with book := recordPaykitDelivery view.book row delivery }
        sent := [.polled row] }
  | .applyPoll row outcome => applyPaykitStatusOutcome view row outcome now
  | .settleRefused _ amountMatched observation =>
      Effect.ofBook view (settleFallback view.book amountMatched observation now)
  | .settleAdvanced row confirmed amountMatched observation =>
      settleAdvanced view row confirmed amountMatched observation now
  | .claimOutbox row leaseSeconds =>
      (claimOutboxRow view.book row leaseSeconds now).map fun claimed =>
        { view := { view with book := claimed.2 }, sent := [.claimedRow row claimed.1] }
  | .sendActivate row entry => sendActivate view row entry now
  | .answerActivate row invoice totalSats answer =>
      Effect.ofView (applyActivateAnswer view row invoice totalSats answer now)
  | .sendVoid row entry =>
      if entry.kind = .paykitVoid then
        some { view := view, sent := [.voidSent row entry.invoiceId] }
      else none
  | .answerVoid row invoice answer =>
      Effect.ofBook view (applyVoidAnswer view.book row invoice answer now)
  | .leasePreparing leaseSeconds =>
      if preparingDue view.book now then
        (leaseActivateRow view.book leaseSeconds now).map fun leased =>
          { view := { view with book := leased.2 }, sent := [.preparingLeased leased.1] }
      else none
  | .sendPreparingVoid row =>
      Effect.read view ((readPreparingPin view.book.order).map (.preparingVoidSent row))
  | .answerPreparingVoid row pin answer =>
      Effect.ofView (applyPreparingVoidAnswer view row pin answer now)
  | .claimReleased invoice =>
      Effect.read view ((claimAttempt view.book invoice).map .attemptPolled)
  | .routeReleased claimed amountMatched observation =>
      (routeReleasedSettlement references view claimed amountMatched observation now).toOption.map
        fun routed => { view := routed.2, sent := [] }
  | .detectReleased claimed observation =>
      Effect.ofBook view (.ok (detectAttempt view.book claimed.invoiceId observation now))
  | .closeReleased claimed => Effect.ofBook view (.ok (closeUnpaid view.book claimed now))
  | .escalateReleased invoice => Effect.ofBook view (.ok (escalateDetection view.book invoice now))
  | .verifyStripe actor session => Effect.read view (verifyStripe view.book actor session)
  | .verifyPaypal transactionRef verifiedBy =>
      Effect.read view (verifyPaypal view.book transactionRef verifiedBy)
  | .applyFiat transactionRef verifiedBy =>
      Effect.ofConfirm view .fiatRefused (applyFiatPaid view transactionRef verifiedBy now)
  | .reviewFiat => Effect.ofBook view (reviewAwaiting view.book now)
  | .prepareLocks actor windowSeconds =>
      Effect.ofView (prepareLocks view actor windowSeconds now)
  | .registerLocks actor => Effect.ofBook view (registerLocks view.book actor now)
  | .claimLocks => Effect.read view (if locksDue view.book then some .locksClaimed else none)
  | .applyLocks => Effect.ofConfirm view .locksRefused (applyCompletedLifecycle view now)
  | .reviewLocks => Effect.ofBook view (locksReview view.book now)
  | .advanceSandbox sender target confirmations windowSeconds =>
      Effect.ofView (advanceSandbox view sender target confirmations windowSeconds now)
  | .expireWindow => Effect.ofView (expireDuePaymentWindow view now)
  | .expireIdle checkoutHoldWindowSeconds =>
      Effect.ofBook view (expireIdleUnboundCheckout view.book checkoutHoldWindowSeconds now)
  | .cancel sender reason exitOpen =>
      Effect.ofView (cancelRequest view sender reason exitOpen now)
  | .approveCancel sender => Effect.ofView (approveCancellation view sender now)
  | .fulfill step =>
      (advanceFulfillment view.book step).map fun book =>
        { view := { view with book := book }, sent := [] }
  | .recordRefund sender refund =>
      Effect.ofBook view (recordExternalRefund view.book sender refund)
  | .openLine index =>
      (openDigitalLine view.book index).map fun book =>
        { view := { view with book := book }, sent := [] }
  | .readSellerConfirm actor =>
      Effect.read view ((readSellerConfirmation view.book actor).map .sellerConfirming)
  | .confirmBitcoin order => Effect.ofView (confirmBitcoinPayment view order now)
  | .routeSellerWindow => Effect.ofBook view (routeSellerConfirmationWindow view.book now)
  | .resolveReview input =>
      if input.requested view.book.order then
        Effect.ofView (applyManualReviewResolution view input now)
      else none

/-- The paid lines a cancellation gives back to stock. -/
def OrderAction.returns (action : OrderAction) (book : OrderBook) : List Line :=
  match action with
  | .approveCancel _ => releasableLines book
  | .cancel _ _ exitOpen =>
      if cancelKind book.order exitOpen = .unilateral then book.order.lines else []
  | _ => []

/-- Whether the step is a call of `find_paid_session` that found a session. -/
def OrderAction.findsSession (action : OrderAction) (book : OrderBook) : Bool :=
  match action with
  | .verifyStripe _ session =>
      session.isSome && book.payment.state == .awaitingEntitlement
  | _ => false

def Cell.after (cell : Cell) (action : OrderAction) (effect : Effect) : Cell :=
  { book := effect.view.book
    inFlight :=
      (match action.consumes with
        | none => cell.inFlight
        | some message => cell.inFlight.erase message) ++ effect.sent
    everPinned := cell.everPinned ++ effect.view.book.order.paykitInvoiceId.toList
    stripeMatched := cell.stripeMatched || action.findsSession cell.book
    returned := cell.returned ++ action.returns cell.book }

def stepCell (references : References) (inventory : Inventory) (cell : Cell) (now : Time)
    (action : OrderAction) : Option (Inventory × Cell) :=
  if action.consumes.all fun message => message ∈ cell.inFlight then
    (transact references ⟨inventory, cell.book⟩ now action).map fun effect =>
      (effect.view.inventory, cell.after action effect)
  else none

def newCell (book : OrderBook) : Cell :=
  { book := book, inFlight := [], everPinned := [], stripeMatched := false, returned := [] }

/-! The whole service. -/

structure Sys where
  inventory : Inventory
  cells : Keyed.Table OrderId Cell
  clock : Time
deriving DecidableEq

inductive Action where
  | tick (seconds : ℕ)
  | order (id : OrderId) (now : Time) (action : OrderAction)
  | checkout (request : CheckoutRequest)
  | offerCheckout (award : Award) (id : OrderId) (fulfillment : Fulfillment)
      (holdWindowSeconds : ℕ)
  | closeAuction (listing : ListingId) (winner : Pubky) (priceMinor : ℕ)
      (reservation : ReservationId) (id : OrderId)
  | placeBid (listing : ListingId)
  | closeUnsold (listing : ListingId)
  | registerListing (id : ListingId) (record : ListingRecord) (sender : Sender)
      (recordFound : Bool)
  | syncListing (id : ListingId) (record : ListingRecord)
  | tombstone (id : ListingId)
  | adjustInventory (id : ListingId) (sender : Sender) (delta : ℤ)
  | setDigitalVersion (id : ListingId) (kind : Option DigitalDeliveryKind)
  | reserveInventory (id : ReservationId) (listing : ListingId) (sender : Sender)
      (quantity ttlSeconds : ℕ)
  | expireReservation (id : ReservationId)
  | acceptOffer (award : Award) (readAt : Time)
  | expireAward (award : Award)
  | syncDrop (id : DropId) (record : DropRecord) (readAt : Time)
  | cancelDrop (id : DropId) (sender : Sender)
  | releaseDropListings (id : DropId) (sender : Sender)
  | transitionDrop (id : DropId)
deriving DecidableEq

/-- New orders under ids no order has. -/
def Sys.insert (sys : Sys) (inventory : Inventory) : List OrderBook → Option Sys
  | [] => some { sys with inventory := inventory }
  | book :: rest =>
      if (sys.cells.find? book.order.id).isSome then none
      else
        ({ sys with cells := sys.cells.set book.order.id (newCell book) } : Sys).insert
          inventory rest

def Sys.setInventory (sys : Sys) (result : Except Failure Inventory) : Option Sys :=
  result.toOption.map fun inventory => { sys with inventory := inventory }

/-- An order of the buyer keeps the reservation from the expiry sweep. -/
def Sys.protectedReservation (sys : Sys) (id : ReservationId) : Bool :=
  (sys.inventory.reservations.find? id).any fun reservation =>
    sys.cells.rows.any fun cell => protectsReservation cell.2.book reservation

/-- Seller and checkout commands run at the clock, but a `drop.sync` at the
time it read before it fetched its record; a transaction on an order may carry
any time its process read. -/
def Sys.step (references : References) (sys : Sys) : Action → Option Sys
  | .tick seconds => some { sys with clock := sys.clock + seconds }
  | .order id now action =>
      (sys.cells.find? id).bind fun cell =>
        (stepCell references sys.inventory cell now action).map fun stepped =>
          { sys with
            inventory := stepped.1
            cells := sys.cells.set id stepped.2 }
  | .checkout request =>
      (checkoutCreate sys.inventory request sys.clock).toOption.bind fun created =>
        sys.insert created.2 created.1
  | .offerCheckout award id fulfillment holdWindowSeconds =>
      (offerCheckout sys.inventory award id fulfillment holdWindowSeconds
        sys.clock).toOption.bind fun created => sys.insert created.2 [created.1]
  | .closeAuction listing winner priceMinor reservation id =>
      (closeAuction sys.inventory listing winner priceMinor reservation id
        sys.clock).toOption.bind fun created => sys.insert created.2 [created.1]
  | .placeBid listing => sys.setInventory (placeBid sys.inventory listing)
  | .closeUnsold listing => sys.setInventory (closeUnsold sys.inventory listing)
  | .registerListing id record sender recordFound =>
      sys.setInventory (registerListing sys.inventory id record sender recordFound sys.clock)
  | .syncListing id record => sys.setInventory (syncListing sys.inventory id record sys.clock)
  | .tombstone id =>
      (tombstone sys.inventory id sys.clock).map fun inventory =>
        { sys with inventory := inventory }
  | .adjustInventory id sender delta =>
      sys.setInventory (adjustInventory sys.inventory id sender delta)
  | .setDigitalVersion id kind =>
      (setDigitalVersion sys.inventory id kind).map fun inventory =>
        { sys with inventory := inventory }
  | .reserveInventory id listing sender quantity ttlSeconds =>
      sys.setInventory
        (reserveInventory sys.inventory id listing sender quantity ttlSeconds sys.clock)
  | .expireReservation id =>
      if sys.protectedReservation id then none
      else sys.setInventory (expireDueReservation sys.inventory id sys.clock)
  | .acceptOffer award readAt =>
      -- the record is fetched between the clock read and the lock on the offer row
      if sys.clock < readAt then none
      else sys.setInventory (acceptOffer sys.inventory award readAt)
  | .expireAward award => sys.setInventory (expireDueAward sys.inventory award)
  | .syncDrop id record readAt =>
      -- as above, the lock being the drop row's
      if sys.clock < readAt then none
      else sys.setInventory (syncDrop sys.inventory id record readAt)
  | .cancelDrop id sender => sys.setInventory (cancelDrop sys.inventory id sender sys.clock)
  | .releaseDropListings id sender =>
      sys.setInventory (releaseDropListings sys.inventory id sender sys.clock)
  | .transitionDrop id =>
      some { sys with inventory := transitionDueDrop sys.inventory id sys.clock }

def emptyInventory : Inventory :=
  { listings := .empty
    reservations := .empty
    drops := .empty
    dropPurchases := .empty
    dropListings := .empty }

def emptySys : Sys := { inventory := emptyInventory, cells := .empty, clock := 0 }

/-- The service from an empty database. -/
def marketplace (references : References) : Runs.System Sys Action :=
  { initial := fun sys => sys = emptySys
    step := fun sys action => sys.step references action }

/-! A small deployment, for concrete runs. -/

def sampleReferences : References :=
  { attemptReference := fun order attempt => "bind-" ++ toString order ++ "-" ++ toString attempt
    legacyOrderReference := fun order => "order-" ++ toString order }

def sampleRecord (quantity : ℕ) (currency : String) (exponent : ℕ) : ListingRecord :=
  { sellerPubky := "seller"
    listingRevision := 1
    quantity := quantity
    unitPriceAmountMinor := 2500
    unitPriceCurrency := currency
    unitPriceExponent := exponent
    shippingMinor := 0
    saleFormat := .fixedPrice
    auctionStarted := false
    fulfillmentMethods := [.shipping] }

def sampleConfig : SellerConfig :=
  { bitcoinEnabled := true
    stripePaymentLink := true
    paypalMerchantEmail := true
    paypalAmount := true }

/-- A buyer's checkout of one unit of each listing as order 7. -/
def sampleCheckout (listings : List ListingId) (revision : ℕ) : Action :=
  .checkout
    { buyer := "buyer"
      lines := listings.map fun listing =>
        { listing := listing
          quantity := 1
          expectedRevision := revision
          fulfillment := .shipping
          quantity_pos := Nat.one_pos }
      orderIds := [7]
      locksAuthority := false
      dropClaimWindowSeconds := 600 }

/-- The two steps of a bind of order 7. -/
def sampleBind (attempt : ℕ) (method : PaymentMethod) (fxSats : Option ℕ)
    (phase1 : Option Phase1) : List Action :=
  [ .order 7 0 (.reserveBind "buyer")
  , .order 7 0 (.bind
      { actor := "buyer"
        method := method
        config := sampleConfig
        attempt := attempt
        fxSats := fxSats
        phase1 := phase1
        windowSeconds := 600 }) ]

def samplePhase1 (invoice totalSats : ℕ) : Phase1 :=
  { invoiceId := invoice
    stackId := "stack"
    stackEndpoint := "endpoint"
    totalSats := totalSats
    nonceSats := 0
    expiresAt := 600
    prepareExpiresAt := 300
    allocationMode := .exclusive
    addressFingerprint := "fingerprint" }

def lampOrder : List Action :=
  [ .registerListing "lamp" (sampleRecord 1 "USD" 2) ⟨"seller", 0⟩ false
  , sampleCheckout ["lamp"] 1 ]

def bitcoinBind (attempt invoice : ℕ) : List Action :=
  sampleBind attempt .bitcoin (some 5000) (some (samplePhase1 invoice 5000))

def activateRequest (row invoice : ℕ) : List Action :=
  [ .order 7 0 (.claimOutbox row 60)
  , .order 7 0 (.sendActivate row
      { kind := .paykitActivate
        invoiceId := invoice
        stackId := "stack"
        stackEndpoint := "endpoint"
        activationAttempt := 0
        createdAt := 0
        leaseUntil := none
        deliveredAt := none }) ]

/-- Two workers ask Paykit to activate invoice 1, the second after the lease of
the first has lapsed, and the refusal of one request voids the bind. -/
def doubledRequest : List Action :=
  lampOrder ++ bitcoinBind 1 1 ++ activateRequest 0 1 ++
    [ .order 7 60 (.claimOutbox 0 60)
    , .order 7 60 (.sendActivate 0
        { kind := .paykitActivate
          invoiceId := 1
          stackId := "stack"
          stackEndpoint := "endpoint"
          activationAttempt := 1
          createdAt := 0
          leaseUntil := some 60
          deliveredAt := none })
    , .order 7 80 (.answerActivate 0 1 5000 (.error .prepareExpired)) ]

/-- Invoice 1 is refused, and the order bound again with invoice 2. -/
def reboundRequest : List Action :=
  lampOrder ++ bitcoinBind 1 1 ++ activateRequest 0 1 ++
    [.order 7 0 (.answerActivate 0 1 5000 (.error .prepareExpired))] ++
    bitcoinBind 2 2 ++ activateRequest 1 2

/-- The lamp bound to Bitcoin for 5000 sats, active and polled. -/
def polledLamp : List Action :=
  lampOrder ++ bitcoinBind 1 1 ++ activateRequest 0 1 ++
    [ .order 7 0 (.answerActivate 0 1 5000 (.activated true 5000))
    , .order 7 10 .claimPoll ]

def confirmedReport : PaykitStatusOutcome :=
  .confirmed true
    { allocationMode := .exclusive
      lateSettlement := false
      observation := { observedSats := some 5000, confirmations := some 3 } }

def pendingClaim (attempt : ℕ) : ClaimedPaykitOrder :=
  { paykitRequestReference := sampleReferences.attemptReference 7 attempt
    paykitRequestState := .pending
    paykitAllocationMode := some .exclusive
    pinsPresent := true }

end MarketplaceService
