import MarketplaceService.LineLoops
import MarketplaceService.Lib.Outcome
import MarketplaceService.Standing

/-!
A Bitcoin bind and the void of its prepared request, as one change of an
unbound order. The void is meant to put the payment row back; it restores the
adapter and the amount but not the currency and the exponent, and it gives back
a hold the order may have had before the bind. What a later payment command
reads of this is compared here, rail by rail.
-/

namespace MarketplaceService

inductive PaymentCommand where
  | bind (request : BindRequest)
  | locks (actor : Pubky) (windowSeconds : ℕ)
deriving DecidableEq, Repr

namespace PaymentCommand

def apply (references : References) (view : View) (now : Time) :
    PaymentCommand → Except Failure View
  | .bind request => bindPaymentMethod references view request now
  | .locks actor windowSeconds => prepareLocks view actor windowSeconds now

def windowSeconds : PaymentCommand → ℕ
  | .bind request => request.windowSeconds
  | .locks _ windowSeconds => windowSeconds

/-- Whether the command prices the payment itself. -/
def reprices : PaymentCommand → Bool
  | .bind request => request.method == .bitcoin
  | .locks .. => false

end PaymentCommand

/-- An order that may start a payment. -/
structure Startable (book : OrderBook) : Prop where
  unbound : book.order.paymentMethod = none
  pending : book.order.state = .pendingPayment
  awaiting : book.payment.state = .awaitingEntitlement
  unlocked : book.payment.adapter ≠ .locks

/-! The payment hold. -/

/-- `acquire_payment_hold` finds the stock. -/
def Holdable (view : View) : Prop :=
  view.book.order.auctionAggregateId.isSome = true ∨ view.book.order.stockHeld = true ∨
    ∃ after, acquireLines view.book.order.createdAt view.book.order.lines view.inventory =
      .ok after

def holdDeadline (order : Order) (windowSeconds : ℕ) (now : Time) : Option Time :=
  if order.auctionAggregateId.isSome = true then order.holdExpiresAt
  else some (now + windowSeconds)

theorem acquirePaymentHold_ok {view held : View} {windowSeconds : ℕ} {source : HoldSource}
    {now : Time} (acquired : acquirePaymentHold view windowSeconds source now = .ok held) :
    ∃ stocked origin, held.book = { view.book with
        order.stockHeld := stocked
        order.holdExpiresAt := holdDeadline view.book.order windowSeconds now
        order.holdSource := origin } ∧
      ((view.book.order.auctionAggregateId.isSome = true ∨ view.book.order.stockHeld = true) ∧
          stocked = view.book.order.stockHeld ∧ held.inventory = view.inventory ∨
        view.book.order.auctionAggregateId = none ∧ view.book.order.stockHeld = false ∧
          stocked = true ∧
          acquireLines view.book.order.createdAt view.book.order.lines view.inventory =
            .ok held.inventory) := by
  unfold acquirePaymentHold at acquired
  simp only at acquired
  unfold holdDeadline
  by_cases auctioned : view.book.order.auctionAggregateId.isSome = true
  · rw [if_pos auctioned] at acquired
    cases acquired
    rw [if_pos auctioned]
    exact ⟨_, _, rfl, .inl ⟨.inl auctioned, rfl, rfl⟩⟩
  · rw [if_neg auctioned] at acquired
    rw [if_neg auctioned]
    obtain ⟨-, acquired⟩ := Outcome.guard_ok acquired
    by_cases stocked : view.book.order.stockHeld = true
    · rw [if_pos stocked] at acquired
      cases acquired
      exact ⟨_, _, rfl, .inl ⟨.inr stocked, rfl, rfl⟩⟩
    · rw [if_neg stocked] at acquired
      split at acquired
      · cases acquired
      · rename_i after taken
        cases acquired
        exact ⟨_, _, rfl, .inr ⟨by simpa using auctioned, by simpa using stocked, rfl, taken⟩⟩

theorem acquirePaymentHold_ok_iff {view : View} (pending : view.book.order.state = .pendingPayment)
    (windowSeconds : ℕ) (source : HoldSource) (now : Time) :
    (∃ held, acquirePaymentHold view windowSeconds source now = .ok held) ↔ Holdable view := by
  unfold acquirePaymentHold Holdable
  simp only
  by_cases auctioned : view.book.order.auctionAggregateId.isSome = true
  · rw [if_pos auctioned]
    exact ⟨fun _ => .inl auctioned, fun _ => ⟨view, rfl⟩⟩
  · rw [if_neg auctioned, if_neg (not_not.mpr pending)]
    by_cases stocked : view.book.order.stockHeld = true
    · rw [if_pos stocked]
      exact ⟨fun _ => .inr (.inl stocked), fun _ => ⟨_, rfl⟩⟩
    · rw [if_neg stocked]
      cases acquireLines view.book.order.createdAt view.book.order.lines view.inventory with
      | error failure => simp [auctioned, stocked]
      | ok after => simp

/-! What a command accepts and charges. -/

/-- The command's own conditions, beside the hold, and the charge it leaves. -/
def Charges (book : OrderBook) (now : Time) (charge : Charge) :
    PaymentCommand → Prop
  | .bind request =>
      book.order.buyerPubky = request.actor ∧
        match request.method with
        | .stripe =>
            request.config.stripePaymentLink = true ∧
              isFiatCurrency book.order.currency = true ∧ charge = book.payment.charge
        | .paypal =>
            request.config.paypalMerchantEmail = true ∧
              isFiatCurrency book.order.currency = true ∧ request.config.paypalAmount = true ∧
              charge = book.payment.charge
        | .bitcoin =>
            request.config.bitcoinEnabled = true ∧
              ∃ amount phase1 pins, bitcoinAmount book.order request.fxSats = .ok amount ∧
                request.phase1 = some phase1 ∧
                preparedPins amount phase1 ((holdDeadline book.order request.windowSeconds now).getD
                  (now + request.windowSeconds)) = .ok pins ∧
                charge = pins.charge
  | .locks actor _ =>
      book.order.buyerPubky = actor ∧ book.locks = none ∧ book.locksSnapshot = true ∧
        book.payment.charge = book.order.terms.charge ∧ charge = book.payment.charge

theorem recordReleasedAttempt_frame (book : OrderBook) (now : Time) :
    ∃ attempts, recordReleasedAttempt book now = { book with attempts := attempts } := by
  unfold recordReleasedAttempt
  split
  · exact ⟨_, rfl⟩
  · split
    · exact ⟨_, rfl⟩
    · exact ⟨_, rfl⟩

theorem bindOrder_charge (book : OrderBook) (method : PaymentMethod)
    (reference : Option Reference) (adapter : Adapter) (now : Time) :
    (bindOrder book method reference adapter now).payment.charge = book.payment.charge := by
  obtain ⟨attempts, recorded⟩ := recordReleasedAttempt_frame book now
  simp [bindOrder, recorded, Payment.charge]

theorem bindFiat_charges_iff {view : View} (pending : view.book.order.state = .pendingPayment)
    (fiat : FiatMethod) (configured checkoutUrl : Bool) (windowSeconds : ℕ) (now : Time)
    (charge : Charge) :
    (∃ after, bindFiat view fiat configured checkoutUrl windowSeconds now = .ok after ∧
        after.book.payment.charge = charge) ↔
      Holdable view ∧ configured = true ∧ isFiatCurrency view.book.order.currency = true ∧
        checkoutUrl = true ∧ charge = view.book.payment.charge := by
  unfold bindFiat
  constructor
  · rintro ⟨after, bound, rfl⟩
    obtain ⟨held, acquired, bound⟩ := Outcome.bind_ok bound
    obtain ⟨stocked, origin, book, -⟩ := acquirePaymentHold_ok acquired
    obtain ⟨set_up, bound⟩ := Outcome.guard_ok bound
    obtain ⟨priced, bound⟩ := Outcome.guard_ok bound
    obtain ⟨carried, bound⟩ := Outcome.guard_ok bound
    cases bound
    rw [book] at priced
    refine ⟨(acquirePaymentHold_ok_iff pending _ _ _).mp ⟨held, acquired⟩, by simpa using set_up,
      by simpa using priced, by simpa using carried, ?_⟩
    simp only
    rw [bindOrder_charge, book]
  · rintro ⟨holdable, rfl, priced, rfl, rfl⟩
    obtain ⟨held, acquired⟩ :=
      (acquirePaymentHold_ok_iff pending windowSeconds .bind now).mpr holdable
    obtain ⟨stocked, origin, book, -⟩ := acquirePaymentHold_ok acquired
    have currency : isFiatCurrency held.book.order.currency = true := by
      rw [book]
      exact priced
    refine ⟨{ held with book := bindOrder held.book fiat.method none fiat.adapter now }, ?_, ?_⟩
    · rw [acquired]
      simp [bind, Except.bind, currency, pure, Except.pure]
    · simp only
      rw [bindOrder_charge, book]

theorem bindBitcoin_charges_iff {references : References} {view : View} {request : BindRequest}
    (pending : view.book.order.state = .pendingPayment) (now : Time) (charge : Charge) :
    (∃ after, bindBitcoin references view request now = .ok after ∧
        after.book.payment.charge = charge) ↔
      Holdable view ∧ request.config.bitcoinEnabled = true ∧
        ∃ amount phase1 pins, bitcoinAmount view.book.order request.fxSats = .ok amount ∧
          request.phase1 = some phase1 ∧
          preparedPins amount phase1
            ((holdDeadline view.book.order request.windowSeconds now).getD
              (now + request.windowSeconds)) = .ok pins ∧
          charge = pins.charge := by
  unfold bindBitcoin
  have deadline {held : View} {method : PaymentMethod} {reference : Option Reference}
      {adapter : Adapter}
      (acquired : acquirePaymentHold view request.windowSeconds .bind now = .ok held) :
      (bindOrder held.book method reference adapter now).order.holdExpiresAt =
        holdDeadline view.book.order request.windowSeconds now := by
    obtain ⟨stocked, origin, book, -⟩ := acquirePaymentHold_ok acquired
    obtain ⟨attempts, recorded⟩ := recordReleasedAttempt_frame held.book now
    unfold bindOrder
    rw [recorded, book]
  constructor
  · rintro ⟨after, bound, rfl⟩
    obtain ⟨enabled, bound⟩ := Outcome.guard_ok bound
    obtain ⟨amount, priced, bound⟩ := Outcome.bind_ok bound
    obtain ⟨held, acquired, bound⟩ := Outcome.bind_ok bound
    simp only at bound
    split at bound
    · cases bound
    · rename_i phase1 answered
      obtain ⟨pins, prepared, bound⟩ := Outcome.bind_ok bound
      cases bound
      rw [deadline acquired] at prepared
      exact ⟨(acquirePaymentHold_ok_iff pending _ _ _).mp ⟨held, acquired⟩, by simpa using enabled,
        amount, phase1, pins, priced, answered, prepared, rfl⟩
  · rintro ⟨holdable, enabled, amount, phase1, pins, priced, answered, prepared, rfl⟩
    obtain ⟨held, acquired⟩ :=
      (acquirePaymentHold_ok_iff pending request.windowSeconds .bind now).mpr holdable
    let reference := references.attemptReference held.book.order.id request.attempt
    let book := bindOrder held.book .bitcoin (some reference) .paykit now
    refine ⟨{ held with book := persistPrepare book pins now }, ?_, rfl⟩
    simp only [enabled, priced, acquired, answered, deadline acquired, prepared, bind, Except.bind,
      Bool.not_true, Bool.false_eq_true, if_false, pure, Except.pure]
    rfl

theorem prepareLocks_charges_iff {view : View} (startable : Startable view.book) (actor : Pubky)
    (windowSeconds : ℕ) (now : Time) (charge : Charge) :
    (∃ after, prepareLocks view actor windowSeconds now = .ok after ∧
        after.book.payment.charge = charge) ↔
      Holdable view ∧ view.book.order.buyerPubky = actor ∧ view.book.locks = none ∧
        view.book.locksSnapshot = true ∧
        view.book.payment.charge = view.book.order.terms.charge ∧
        charge = view.book.payment.charge := by
  obtain ⟨unbound, pending, awaiting, -⟩ := startable
  have priced : view.book.payment.charge = view.book.order.terms.charge ↔
      ¬ (view.book.payment.amountMinor ≠ view.book.order.totalMinor ∨
        view.book.payment.currency ≠ view.book.order.currency ∨
        view.book.payment.exponent ≠ view.book.order.exponent) := by
    simp [Payment.charge, Terms.charge, Order.terms]
  unfold prepareLocks
  simp only
  constructor
  · rintro ⟨after, prepared, rfl⟩
    obtain ⟨buyer, prepared⟩ := Outcome.guard_ok prepared
    obtain ⟨unlocked, prepared⟩ := Outcome.guard_ok prepared
    obtain ⟨-, prepared⟩ := Outcome.guard_ok prepared
    obtain ⟨-, prepared⟩ := Outcome.guard_ok prepared
    obtain ⟨snapshot, prepared⟩ := Outcome.guard_ok prepared
    obtain ⟨-, prepared⟩ := Outcome.guard_ok prepared
    obtain ⟨same, prepared⟩ := Outcome.guard_ok prepared
    obtain ⟨held, acquired, prepared⟩ := Outcome.bind_ok prepared
    obtain ⟨stocked, origin, book, -⟩ := acquirePaymentHold_ok acquired
    cases prepared
    refine ⟨(acquirePaymentHold_ok_iff pending _ _ _).mp ⟨held, acquired⟩, not_not.mp buyer,
      by simpa using unlocked, by simpa using snapshot, priced.mpr same, ?_⟩
    simp [Payment.charge, book]
  · rintro ⟨holdable, buyer, unlocked, snapshot, same, rfl⟩
    obtain ⟨held, acquired⟩ :=
      (acquirePaymentHold_ok_iff pending windowSeconds .locks now).mpr holdable
    obtain ⟨stocked, origin, book, -⟩ := acquirePaymentHold_ok acquired
    refine ⟨{ held with
      book.locks := some
        { registered := false, pending := true, windowExpiresAt := now + windowSeconds }
      book.payment.revision := held.book.payment.revision + 1
      book.payment.adapter := .locks }, ?_, ?_⟩
    · rw [if_neg (not_not.mpr buyer), if_neg (by simp [unlocked]), if_neg (not_not.mpr awaiting),
        if_neg (not_not.mpr pending), if_neg (by simp [snapshot]), if_neg (by simp [unbound]),
        if_neg (priced.mp same), acquired]
      rfl
    · simp [Payment.charge, book]

/-- A startable order's command is accepted with a charge when the order gets
its hold and the command's own conditions are met. -/
theorem apply_charges_iff {references : References} {view : View} (startable : Startable view.book)
    (now : Time) (charge : Charge) (command : PaymentCommand) :
    (∃ after, command.apply references view now = .ok after ∧
        after.book.payment.charge = charge) ↔
      Holdable view ∧ Charges view.book now charge command := by
  cases command with
  | bind request =>
      obtain ⟨unbound, pending, awaiting, unlocked⟩ := startable
      unfold PaymentCommand.apply bindPaymentMethod Charges
      simp only [unbound, pending, awaiting, unlocked, ne_eq, not_true_eq_false, if_false]
      by_cases buyer : view.book.order.buyerPubky = request.actor
      · rw [if_neg (not_not.mpr buyer)]
        cases request.method with
        | bitcoin => simp only [bindBitcoin_charges_iff pending, buyer, true_and]
        | stripe => simp only [bindFiat_charges_iff pending, buyer, true_and]
        | paypal => simp only [bindFiat_charges_iff pending, buyer, true_and]
      · simp [buyer]
  | locks actor windowSeconds =>
      exact prepareLocks_charges_iff startable actor windowSeconds now charge

/-! The bind, then the void. -/

def ListingsAccept (inventory : Inventory) (order : Order) : Prop :=
  ∀ line ∈ order.lines, ∃ listing ∈ inventory.listings.find? line.listing,
    listing.acceptsCommitmentCreatedAt order.createdAt = true

instance (inventory : Inventory) (order : Order) : Decidable (ListingsAccept inventory order) :=
  inferInstanceAs (Decidable (∀ line ∈ order.lines,
    ∃ listing ∈ inventory.listings.find? line.listing,
      listing.acceptsCommitmentCreatedAt order.createdAt = true))

theorem acquire_after_release_iff {createdAt : Time} {lines : List Line}
    {inventory after : Inventory}
    (released : releaseLines .reserved lines inventory = (.ok (), after)) :
    (∃ taken, acquireLines createdAt lines after = .ok taken) ↔
      ∀ line ∈ lines, ∃ listing ∈ inventory.listings.find? line.listing,
        listing.acceptsCommitmentCreatedAt createdAt = true := by
  have shifted := forLines_shifted releaseReservedMove released
  unfold acquireLines
  rw [orRollback_ok_iff, forLines_completes (acquireMove createdAt)]
  constructor
  · intro all line member
    obtain ⟨moved, present, ready, -⟩ := all line member
    cases found : inventory.listings.find? line.listing with
    | none =>
        rw [(shifted line.listing).missing found] at present
        cases present
    | some listing =>
        obtain ⟨same, stored, shift⟩ := (shifted line.listing).found found
        obtain rfl : moved = same := Option.some.inj (present.symm.trans stored)
        refine ⟨listing, rfl, ?_⟩
        rw [← shift.accepts]
        exact ready
  · intro all line member
    obtain ⟨listing, found, accepts⟩ := all line member
    obtain ⟨moved, present, shift⟩ := (shifted line.listing).found found
    refine ⟨moved, present, (shift.accepts createdAt).trans accepts, ?_⟩
    have room := shift.available
    simp only [releaseReservedMove] at room
    change linesOn line.listing lines ≤ moved.availableQuantity
    omega

/-- What a Bitcoin bind and its void leave of an order. -/
structure Voided (view voided : View) : Prop where
  order : ∃ revision reference pins origin, voided.book.order = { view.book.order with
    revision := revision
    paymentMethod := none
    paykitRequestReference := reference
    paykitRequestState := none
    paykitDeliveryState := none
    paykitPins := pins
    paykitActivationState := some .voided
    stockHeld := false
    holdExpiresAt := none
    holdSource := origin }
  awaiting : voided.book.payment.state = .awaitingEntitlement
  adapter : voided.book.payment.adapter = .sandbox
  charge : voided.book.payment.charge =
    { amountMinor := view.book.order.totalMinor, currency := "SAT", exponent := 0 }
  locks : voided.book.locks = view.book.locks
  snapshot : voided.book.locksSnapshot = view.book.locksSnapshot
  stock : view.book.order.auctionAggregateId = none →
    ((∃ taken, acquireLines view.book.order.createdAt view.book.order.lines voided.inventory =
        .ok taken) ↔
      (view.book.order.stockHeld = true → ListingsAccept view.inventory view.book.order))

theorem voidPrepareEffects_ok {view voided : View} {row : ℕ} {now : Time}
    (preparing : view.book.order.paykitActivationState = some .preparing)
    (voids : voidPrepareEffects view row now = .ok voided) :
    ∃ attempts, (if view.book.order.stockHeld = true then
        orRollback (releaseLines .reserved view.book.order.lines view.inventory)
      else .ok view.inventory) = .ok voided.inventory ∧
      voided.book = { view.book with
        attempts := attempts
        outbox := stampDelivered view.book.outbox row now
        order.revision := view.book.order.revision + 1
        order.paykitActivationState := some .voided
        order.paykitRequestState := none
        order.paymentMethod := none
        order.stockHeld := false
        order.holdExpiresAt := none
        payment.revision := view.book.payment.revision + 1
        payment.adapter := .sandbox
        payment.amountMinor := view.book.order.totalMinor } := by
  obtain ⟨attempts, recorded⟩ := recordReleasedAttempt_frame view.book now
  unfold voidPrepareEffects at voids
  simp only at voids
  rw [if_neg (not_not.mpr preparing), recorded] at voids
  refine ⟨attempts, ?_⟩
  split at voids
  · rename_i held
    obtain ⟨inventory, released, written⟩ := Outcome.bind_ok voids
    cases Outcome.pure_ok written
    exact ⟨by rw [if_pos held]; exact released, rfl⟩
  · rename_i free
    obtain ⟨inventory, same, written⟩ := Outcome.bind_ok voids
    cases Outcome.pure_ok written
    exact ⟨by rw [if_neg free]; exact same, rfl⟩

/-- The stock after a hold that was taken or kept and then given back. -/
theorem restocked_iff {createdAt : Time} {lines : List Line} {held before : Bool}
    {inventory taken after : Inventory}
    (acquired : before = true ∧ held = before ∧ taken = inventory ∨
      before = false ∧ held = true ∧ acquireLines createdAt lines inventory = .ok taken)
    (released : (if held = true then orRollback (releaseLines .reserved lines taken)
      else .ok taken) = .ok after) :
    (∃ again, acquireLines createdAt lines after = .ok again) ↔
      (before = true → ∀ line ∈ lines, ∃ listing ∈ inventory.listings.find? line.listing,
        listing.acceptsCommitmentCreatedAt createdAt = true) := by
  have gave_back : held = true → releaseLines .reserved lines taken = (.ok (), after) := by
    intro own
    rw [if_pos own] at released
    exact orRollback_ok released
  rcases acquired with ⟨rfl, rfl, rfl⟩ | ⟨rfl, rfl, acquired⟩
  · rw [acquire_after_release_iff (gave_back rfl)]
    exact ⟨fun all _ => all, fun all => all rfl⟩
  · rw [acquire_after_release_iff (gave_back rfl)]
    refine ⟨fun _ free => absurd free (by simp), fun _ => ?_⟩
    -- the lines were taken from these listings, so they accept
    have ran := orRollback_ok acquired
    have completed : (forLines (acquireLine createdAt) listingMissing lines inventory).1 =
        .ok () := by
      rw [ran]
    intro line member
    obtain ⟨listing, found, ready, -⟩ :=
      (forLines_completes (acquireMove createdAt) lines inventory).mp completed line member
    obtain ⟨moved, present, shift⟩ := (forLines_shifted (acquireMove createdAt) ran _).found found
    exact ⟨moved, present, (shift.accepts createdAt).trans ready⟩

theorem bind_then_void {references : References} {view bound voided : View} {request : BindRequest}
    {bindAt voidAt : Time} {row : ℕ} (unbound : view.book.order.paymentMethod = none)
    (bitcoin : request.method = .bitcoin)
    (binds : bindPaymentMethod references view request bindAt = .ok bound)
    (voids : voidPrepareEffects bound row voidAt = .ok voided) :
    Startable view.book ∧ Voided view voided := by
  unfold bindPaymentMethod at binds
  simp only [unbound, bitcoin] at binds
  obtain ⟨-, binds⟩ := Outcome.guard_ok binds
  obtain ⟨pending, binds⟩ := Outcome.guard_ok binds
  obtain ⟨awaiting, binds⟩ := Outcome.guard_ok binds
  obtain ⟨unlocked, binds⟩ := Outcome.guard_ok binds
  refine ⟨⟨unbound, not_not.mp pending, not_not.mp awaiting, unlocked⟩, ?_⟩
  unfold bindBitcoin at binds
  obtain ⟨-, binds⟩ := Outcome.guard_ok binds
  obtain ⟨amount, -, binds⟩ := Outcome.bind_ok binds
  obtain ⟨held, acquired, binds⟩ := Outcome.bind_ok binds
  obtain ⟨stocked, origin, book, stock⟩ := acquirePaymentHold_ok acquired
  simp only at binds
  split at binds
  · cases binds
  · obtain ⟨pins, -, binds⟩ := Outcome.bind_ok binds
    cases binds
    obtain ⟨attempts, recorded⟩ := recordReleasedAttempt_frame held.book bindAt
    obtain ⟨watched, released, written⟩ := voidPrepareEffects_ok rfl voids
    rw [book] at recorded
    simp only [persistPrepare, bindOrder, book, recorded] at released written
    refine ⟨⟨_, _, _, _, congrArg OrderBook.order written⟩, ?_, by rw [written], ?_,
      by rw [written], by rw [written], ?_⟩
    · rw [written]
      exact not_not.mp awaiting
    · rw [written]
      rfl
    · intro single
      refine restocked_iff ?_ released
      rcases stock with ⟨kept, own, same⟩ | ⟨-, free, own, taken⟩
      · left
        have before : view.book.order.stockHeld = true := by simpa [single] using kept
        exact ⟨before, own, same⟩
      · exact .inr ⟨free, own, taken⟩

theorem Voided.startable {view voided : View} (startable : Startable view.book)
    (undone : Voided view voided) : Startable voided.book := by
  obtain ⟨revision, reference, pins, origin, order⟩ := undone.order
  refine ⟨by rw [order], ?_, undone.awaiting, ?_⟩
  · rw [order]
    exact startable.pending
  · rw [undone.adapter]
    simp

/-- When a payment command finds the order as it was before the bind: the
command prices the payment itself, or the payment was in satoshis already; a
hold from before the bind can be taken again; and an auction order, whose
deadline the void clears, had none or the one the command asks for. -/
structure Undone (view : View) (now : Time) (command : PaymentCommand) : Prop where
  priced : command.reprices = true ∨ view.book.payment.charge =
    { amountMinor := view.book.order.totalMinor, currency := "SAT", exponent := 0 }
  stocked : view.book.order.auctionAggregateId = none → view.book.order.stockHeld = true →
    ListingsAccept view.inventory view.book.order
  deadline : command.reprices = true → view.book.order.auctionAggregateId.isSome = true →
    view.book.order.holdExpiresAt.getD (now + command.windowSeconds) =
      now + command.windowSeconds

theorem Voided.holdable_iff {view voided : View} (undone : Voided view voided) :
    Holdable voided ↔ (view.book.order.auctionAggregateId = none →
      view.book.order.stockHeld = true → ListingsAccept view.inventory view.book.order) := by
  obtain ⟨revision, reference, pins, origin, order⟩ := undone.order
  unfold Holdable
  rw [order]
  cases auctioned : view.book.order.auctionAggregateId with
  | some auction => simp
  | none => simpa using undone.stock auctioned

theorem preparedPins_deadline {amount : BitcoinAmount} {phase1 : Phase1} {expiresAt : Time}
    {pins : PaykitPins} (prepared : preparedPins amount phase1 expiresAt = .ok pins) :
    phase1.expiresAt = expiresAt := by
  unfold preparedPins at prepared
  split at prepared
  · split at prepared
    · assumption
    · cases prepared
  · cases prepared

theorem Voided.charges_iff {view voided : View} {now : Time} {charge : Charge}
    {command : PaymentCommand} (undone : Voided view voided)
    (before : Charges view.book now charge command) :
    Charges voided.book now charge command ↔
      (command.reprices = true ∨ view.book.payment.charge =
        { amountMinor := view.book.order.totalMinor, currency := "SAT", exponent := 0 }) ∧
      (command.reprices = true → view.book.order.auctionAggregateId.isSome = true →
        view.book.order.holdExpiresAt.getD (now + command.windowSeconds) =
          now + command.windowSeconds) := by
  obtain ⟨revision, reference, pins, origin, order⟩ := undone.order
  cases command with
  | locks actor windowSeconds =>
      obtain ⟨buyer, unlocked, snapshot, priced, rfl⟩ := before
      simp only [Charges, order, undone.locks, undone.snapshot, undone.charge, buyer, unlocked,
        snapshot, true_and, PaymentCommand.reprices, Bool.false_eq_true, false_or, false_imp_iff,
        and_true]
      constructor
      · rintro ⟨-, same⟩
        exact same
      · intro same
        refine ⟨?_, same⟩
        rw [← same]
        exact priced
  | bind request =>
      obtain ⟨buyer, before⟩ := before
      simp only [Charges, order, undone.charge, buyer, true_and, PaymentCommand.reprices]
      cases chosen : request.method with
      | stripe =>
          simp only [chosen] at before
          obtain ⟨linked, fiat, rfl⟩ := before
          simp [linked, fiat]
      | paypal =>
          simp only [chosen] at before
          obtain ⟨email, fiat, amount, rfl⟩ := before
          simp [email, fiat, amount]
      | bitcoin =>
          simp only [chosen] at before
          obtain ⟨enabled, amount, phase1, prepared, priced, answered, pinned, rfl⟩ := before
          have deadline := preparedPins_deadline pinned
          simp only [enabled, true_and, beq_self_eq_true, true_or, forall_const,
            PaymentCommand.windowSeconds]
          cases auctioned : view.book.order.auctionAggregateId with
          | none =>
              rw [holdDeadline, if_neg (by simp [auctioned])] at pinned
              simp only [Option.isSome_none, Bool.false_eq_true, false_imp_iff, iff_true]
              refine ⟨amount, phase1, prepared, priced, answered, ?_, rfl⟩
              rw [holdDeadline, if_neg (by simp)]
              exact pinned
          | some auction =>
              rw [holdDeadline, if_pos (by simp [auctioned])] at pinned deadline
              simp only [holdDeadline, Option.isSome_some, if_true, Option.getD_none, forall_const]
              constructor
              · rintro ⟨amount', phase1', pins', -, answered', pinned', -⟩
                obtain rfl : phase1 = phase1' := Option.some.inj (answered.symm.trans answered')
                exact deadline.symm.trans (preparedPins_deadline pinned')
              · intro same
                rw [same] at pinned
                exact ⟨amount, phase1, prepared, priced, answered, pinned, rfl⟩

/-- A payment command is accepted with the same charge after a Bitcoin bind
and its void exactly when the bind and the void are undone for it. -/
theorem command_alike_after_void_iff (references : References) (view bound voided first : View)
    (request : BindRequest) (bindAt voidAt now : Time) (row : ℕ) (command : PaymentCommand)
    (unbound : view.book.order.paymentMethod = none) (bitcoin : request.method = .bitcoin)
    (binds : bindPaymentMethod references view request bindAt = .ok bound)
    (voids : voidPrepareEffects bound row voidAt = .ok voided)
    (accepted : command.apply references view now = .ok first) :
    (∃ again, command.apply references voided now = .ok again ∧
        again.book.payment.charge = first.book.payment.charge) ↔
      Undone view now command := by
  obtain ⟨startable, undone⟩ := bind_then_void unbound bitcoin binds voids
  obtain ⟨-, charges⟩ :=
    (apply_charges_iff startable now first.book.payment.charge command).mp ⟨first, accepted, rfl⟩
  rw [apply_charges_iff (undone.startable startable), undone.holdable_iff,
    undone.charges_iff charges]
  constructor
  · rintro ⟨stocked, priced, deadline⟩
    exact ⟨priced, stocked, deadline⟩
  · rintro ⟨priced, stocked, deadline⟩
    exact ⟨stocked, priced, deadline⟩

def lockedLamp : List Action :=
  [ .registerListing "lamp" (sampleRecord 1 "USD" 2) ⟨"seller", 0⟩ false
  , .checkout
      { buyer := "buyer"
        lines := [{
          listing := "lamp"
          quantity := 1
          expectedRevision := 1
          fulfillment := .shipping
          quantity_pos := Nat.one_pos }]
        orderIds := [7]
        locksAuthority := true
        dropClaimWindowSeconds := 600 } ]

def lampBitcoin : BindRequest :=
  { actor := "buyer"
    method := .bitcoin
    config := sampleConfig
    attempt := 1
    fxSats := some 5000
    phase1 := some (samplePhase1 1 5000)
    windowSeconds := 600 }

theorem bitcoin_alike_after_void :
    ∃ sys, Runs.Reachable (marketplace sampleReferences) Runs.anyStep sys ∧
      ∃ cell ∈ sys.cells.find? 7,
      ∃ bound ∈ (bindPaymentMethod sampleReferences ⟨sys.inventory, cell.book⟩ lampBitcoin
        0).toOption,
      ∃ voided ∈ (voidPrepareEffects bound 0 5).toOption,
      ∃ first ∈ ((PaymentCommand.bind lampBitcoin).apply sampleReferences
        ⟨sys.inventory, cell.book⟩ 0).toOption,
      ∃ again, (PaymentCommand.bind lampBitcoin).apply sampleReferences voided 0 = .ok again ∧
        again.book.payment.charge = first.book.payment.charge := by
  obtain ⟨sys, reached, cell, found, unbound, bound, binds, voided, voids, first, accepted,
      alike⟩ :=
    Runs.exists_reachable_of_run (marketplace sampleReferences) rfl lockedLamp
      (fun sys => ∃ cell ∈ sys.cells.find? 7, cell.book.order.paymentMethod = none ∧
        ∃ bound ∈ (bindPaymentMethod sampleReferences ⟨sys.inventory, cell.book⟩ lampBitcoin
          0).toOption,
        ∃ voided ∈ (voidPrepareEffects bound 0 5).toOption,
        ∃ first ∈ ((PaymentCommand.bind lampBitcoin).apply sampleReferences
          ⟨sys.inventory, cell.book⟩ 0).toOption,
          cell.book.order.auctionAggregateId = none ∧ cell.book.order.stockHeld = false)
      (Runs.meets_anyStep _ _ _) (by decide +kernel)
  refine ⟨sys, reached, cell, found, bound, binds, voided, voids, first, accepted, ?_⟩
  refine (command_alike_after_void_iff sampleReferences _ bound voided first lampBitcoin 0 5 0 0
    (.bind lampBitcoin) unbound rfl (Outcome.toOption_some binds) (Outcome.toOption_some voids)
    (Outcome.toOption_some accepted)).mpr ⟨.inl rfl, ?_, ?_⟩
  · intro _ held
    rw [alike.2] at held
    cases held
  · intro _ auctioned
    simp [alike.1] at auctioned

/-- The Locks rail is open before a Bitcoin bind and its void, and shut after
them: the payment is left in satoshis. -/
theorem locks_refused_after_void :
    ∃ sys, Runs.Reachable (marketplace sampleReferences) Runs.anyStep sys ∧
      ∃ cell ∈ sys.cells.find? 7, cell.book.order.paymentMethod = none ∧
      ∃ bound ∈ (bindPaymentMethod sampleReferences ⟨sys.inventory, cell.book⟩ lampBitcoin
        0).toOption,
      ∃ voided ∈ (voidPrepareEffects bound 0 5).toOption,
      ∃ first ∈ ((PaymentCommand.locks "buyer" 600).apply sampleReferences
        ⟨sys.inventory, cell.book⟩ 0).toOption,
      ¬ ∃ again, (PaymentCommand.locks "buyer" 600).apply sampleReferences voided 0 = .ok again ∧
        again.book.payment.charge = first.book.payment.charge := by
  obtain ⟨sys, reached, cell, found, unbound, bound, binds, voided, voids, first, accepted,
      refused⟩ :=
    Runs.exists_reachable_of_run (marketplace sampleReferences) rfl lockedLamp
      (fun sys => ∃ cell ∈ sys.cells.find? 7, cell.book.order.paymentMethod = none ∧
        ∃ bound ∈ (bindPaymentMethod sampleReferences ⟨sys.inventory, cell.book⟩ lampBitcoin
          0).toOption,
        ∃ voided ∈ (voidPrepareEffects bound 0 5).toOption,
        ∃ first ∈ ((PaymentCommand.locks "buyer" 600).apply sampleReferences
          ⟨sys.inventory, cell.book⟩ 0).toOption,
          ((PaymentCommand.locks "buyer" 600).apply sampleReferences voided 0).toOption = none)
      (Runs.meets_anyStep _ _ _) (by decide +kernel)
  refine ⟨sys, reached, cell, found, unbound, bound, binds, voided, voids, first, accepted, ?_⟩
  rintro ⟨again, ran, -⟩
  rw [ran] at refused
  cases refused

end MarketplaceService
