import MarketplaceService.SellerWindow

/-!
The audit of the seller's decisions. The confirmation writes its audit row from
the order it read before its transaction, and the polls keep refreshing the
observation until the window closes: the row is faithful while no report comes
between the read and the transaction, and while the reports inside the window
carry the amount that was frozen when it opened.
-/

namespace MarketplaceService

def Message.readOrder : Message → Option Order
  | .sellerConfirming order => some order
  | _ => none

def OrderAction.sights (action : OrderAction) (book : OrderBook) : Bool :=
  action.entersWindow.isSome ||
    (book.order.paykitRequestState == some .awaitingSellerConfirmation &&
      (action.reportedSats.isSome || action.reportsGone))

/-- No report comes between the read and the transaction of the seller's
confirmation, and a report inside the window carries the frozen amount. -/
def Undisturbed (cell : Cell) (action : OrderAction) : Prop :=
  (action.sights cell.book = true →
    ∀ message ∈ cell.inFlight, message.readOrder = none) ∧
  (cell.book.order.paykitRequestState = some .awaitingSellerConfirmation →
    ∀ reported ∈ action.reportedSats, ∀ sats ∈ cell.book.order.paykitObservedSats,
      reported = some sats)

instance (cell : Cell) (action : OrderAction) : Decidable (Undisturbed cell action) := by
  unfold Undisturbed
  infer_instance

/-! What was seen of an open payment. -/

theorem Decided.closed {before after : Standing} (decided : Decided before after) :
    after.payment ≠ .awaitingEntitlement := by
  intro awaiting
  rcases decided.payment with same | same <;> rw [awaiting] at same <;> cases same

theorem Acquire.sighting {inventory after : Inventory} {standing done : Standing}
    (acquired : Acquire inventory standing after done) : done.sighting = standing.sighting := by
  obtain ⟨held, rfl, -, -⟩ := acquired.frame
  rfl

/-- What was seen is written with a decision on the payment or with the entry
into the window. -/
theorem Move.sighting_kept {references : References} {now : Time} {inventory after : Inventory}
    {standing done : Standing} {action : OrderAction} {returned : List Line}
    (move : Move references now inventory standing action returned after done)
    (awaiting : done.payment = .awaitingEntitlement)
    (outside : done.request ≠ some .awaitingSellerConfirmation) :
    done.sighting = standing.sighting := by
  cases move with
  | stay => rfl
  | bindFiat known chosen none_bound pending open_payment unlocked acquired =>
      exact acquired.sighting
  | bindBitcoin chosen prepared none_bound pending open_payment unlocked acquired =>
      exact acquired.sighting
  | activate answer preparing => rfl
  | track answer current voided settled =>
      split
      · obtain ⟨payment, same, -, -⟩ := standing.activate.lapse_frame
        rw [same]
        rfl
      · rfl
  | voidPrepare answer voids shows_row preparing released => rfl
  | dropRequest preparing settled => rfl
  | expirePreparing answer shows_row preparing released => rfl
  | expireHeld shows_row pending held settled out open_payment released =>
      obtain ⟨payment, same, -, -⟩ := standing.lapse_frame
      rw [same]
      rfl
  | expireIdle pending free none_bound single unstamped open_payment => rfl
  | cancelPending shows_row pending out released =>
      obtain ⟨payment, -, same | ⟨preparing, same⟩⟩ := standing.endRequest_cases <;> rw [same] <;>
        rfl
  | cancelPaid shows_row paid returned => rfl
  | requestCancel paid => rfl
  | approveCancel shows_row requested releasable returned => rfl
  | fulfil command paid ended ready label recorded => rfl
  | settle rail open_payment settled => exact settled.decided.sighting
  | late rail money expired late => exact late.decided.sighting
  | settlePoll rail open_payment gate settled froze =>
      exact absurd awaiting settled.decided.closed
  | latePoll rail money open_payment out froze late => exact absurd awaiting late.decided.closed
  | fallback advanced froze => exact absurd awaiting advanced
  | confirmSeller window open_payment confirmed froze first queued pinned =>
      exact absurd awaiting confirmed.decided.closed
  | windowLapsed request open_payment opened due froze => cases awaiting
  | resolve paykit review unresolved resolved first queued pinned =>
      rcases resolved.payment with same | same <;> cases same.symm.trans awaiting
  | routeMismatch watching unbound paykit open_payment out untracked unresolved froze =>
      cases awaiting
  | routeLate watching unbound paykit open_payment out untracked froze swapped late =>
      exact absurd awaiting late.decided.closed
  | detect rail pending => rfl
  | refresh rail request amount => exact absurd request outside
  | enterWindow rail entry reported open_payment froze first extended => exact absurd rfl outside
  | sandbox sandbox target_ok unconfirmed acquired =>
      rcases acquired with taken | ⟨-, rfl⟩
      · exact taken.sighting
      · rfl
  | sandboxSettle sandbox open_payment acquired settled =>
      exact absurd awaiting settled.decided.closed
  | prepareLocks none_bound unlocked pending open_payment priced acquired =>
      exact acquired.sighting
  | registerLocks locks => rfl

/-- What the seller's confirmation relies on. -/
structure Audited (cell : Cell) : Prop where
  /-- Nothing is frozen on an open payment before its window. -/
  unfrozen : cell.book.standing.payment = .awaitingEntitlement →
    cell.book.standing.request ≠ some .awaitingSellerConfirmation →
      cell.book.standing.sighting.observed = none
  /-- Inside the window the observation carries the frozen amount. -/
  amount : cell.book.standing.request = some .awaitingSellerConfirmation →
    ∀ sats ∈ cell.book.standing.sighting.observed,
      cell.book.standing.sighting.observation.bind Observation.observedSats = some sats
  /-- What a confirmation in flight has read is the current observation. -/
  current : cell.book.standing.request = some .awaitingSellerConfirmation →
    ∀ order, .sellerConfirming order ∈ cell.inFlight →
      order.paykitObservation = cell.book.standing.sighting.observation

theorem Sends.sellerConfirm {now : Time} {view after : View} {action : OrderAction} {order : Order}
    (sends : Sends now view action after (.sellerConfirming order)) :
    (∃ actor, action = .readSellerConfirm actor) ∧ order = view.book.order := by
  cases sends with
  | sellerConfirming => exact ⟨⟨_, rfl⟩, rfl⟩
  | stripePaid verified =>
      obtain ⟨transactionRef, other, -⟩ := verifyStripe_ok verified
      cases other
  | paypalPaid verified => cases (verifyPaypal_ok verified).1

theorem Fresh.audited {book : OrderBook} (fresh : Fresh book) : Audited (newCell book) := by
  obtain ⟨held, start⟩ := fresh.standing
  constructor
  · intro _ _
    change book.standing.sighting.observed = none
    rw [start]
    rfl
  · intro window
    change book.standing.request = _ at window
    rw [start] at window
    cases window
  · intro _ order flying
    cases flying

theorem CellStep.audited {references : References} {now : Time} {inventory after : Inventory}
    {cell done : Cell} {action : OrderAction} (sound : Sound cell) (audited : Audited cell)
    (undisturbed : Undisturbed cell action)
    (step : CellStep references now inventory cell action after done) : Audited done := by
  obtain ⟨moved, move, tidied⟩ := step.moves
  obtain ⟨quiet, agrees⟩ := undisturbed
  have sighting : done.book.standing.sighting = moved.sighting := by rw [tidied.eq]
  have request : done.book.standing.request = moved.request := by rw [tidied.eq]
  have payment : done.book.standing.payment = moved.payment := by rw [tidied.eq]
  have silenced (sights : action.sights cell.book = true) (order : Order) :
      .sellerConfirming order ∉ done.inFlight := by
    intro flying
    rcases step.sends _ flying with old | new
    · have confirms := quiet sights _ old
      cases confirms
    · obtain ⟨⟨actor, rfl⟩, -⟩ := new.sellerConfirm
      simp [OrderAction.sights, OrderAction.entersWindow, OrderAction.reportedSats,
        OrderAction.reportsGone] at sights
  by_cases inside : moved.request = some .awaitingSellerConfirmation
  · refine ⟨fun _ outside => absurd (request.trans inside) outside, fun _ => ?_, fun _ => ?_⟩
    all_goals
      rw [sighting]
      by_cases was : cell.book.standing.request = some .awaitingSellerConfirmation
    · cases move.inside sound.coherent step.speaks was with
      | kept => exact audited.amount was
      | refreshed rail amount =>
          intro sats frozen
          rcases amount with reported | ⟨-, old, seen, same⟩
          · exact agrees was _ reported sats frozen
          · have before := audited.amount was sats frozen
            rw [Option.mem_def.mp seen] at before
            exact same.trans before
      | confirmed confirmed => cases inside
      | lapsed opened due => cases inside
      | refused fallback settled => cases inside
    · cases move.enters was inside with
      | intro entry reported awaiting froze first =>
          intro sats frozen
          rw [audited.unfrozen awaiting was, Option.none_or] at first
          exact first.symm.trans frozen
    · cases move.inside sound.coherent step.speaks was with
      | kept =>
          intro order flying
          rcases step.sends _ flying with old | new
          · exact audited.current was order old
          · rw [new.sellerConfirm.2]
            rfl
      | refreshed rail amount =>
          intro order flying
          refine absurd flying (silenced ?_ order)
          have shown : cell.book.order.paykitRequestState = some .awaitingSellerConfirmation := was
          rcases amount with reported | ⟨gone, -⟩
          · simp [OrderAction.sights, shown, reported]
          · simp [OrderAction.sights, shown, gone]
      | confirmed confirmed => cases inside
      | lapsed opened due => cases inside
      | refused fallback settled => cases inside
    · cases move.enters was inside with
      | intro entry reported awaiting froze first =>
          intro order flying
          refine absurd flying (silenced ?_ order)
          simp [OrderAction.sights, entry]
  · refine ⟨?_, fun window => absurd (request.symm.trans window) inside,
      fun window => absurd (request.symm.trans window) inside⟩
    intro awaiting _
    rw [payment] at awaiting
    have still : cell.book.standing.payment = .awaitingEntitlement := by
      by_contra closed
      exact (move.steady sound.coherent).closed closed awaiting
    have outside : cell.book.standing.request ≠ some .awaitingSellerConfirmation := by
      intro was
      cases move.inside sound.coherent step.speaks was with
      | kept => exact inside was
      | refreshed rail amount => exact inside was
      | confirmed confirmed => exact confirmed.decided.closed awaiting
      | lapsed opened due => cases awaiting
      | refused fallback settled => exact settled.decided.closed awaiting
    rw [sighting, move.sighting_kept awaiting inside]
    exact audited.unfrozen still outside

/-! The audit rows. -/

theorem confirmBitcoinPayment_ok {view after : View} {order : Order} {now : Time}
    (confirmed : confirmBitcoinPayment view order now = .ok after) :
    view.book.order.paykitRequestState = some .awaitingSellerConfirmation ∧
      after.book.sellerConfirmation = some (sellerConfirmationRow order now) ∧
      after.book.order.paykitObservation = view.book.order.paykitObservation ∧
      after.book.order.paykitObservedSats = coalesceObserved view.book.order := by
  unfold confirmBitcoinPayment at confirmed
  obtain ⟨window, confirmed⟩ := Outcome.guard_ok confirmed
  obtain ⟨-, confirmed⟩ := Outcome.guard_ok confirmed
  obtain ⟨reported, updated, confirmed⟩ := Outcome.bind_ok confirmed
  obtain ⟨rfl, -, -⟩ := updateOrder_ok updated
  obtain ⟨paid, decided, confirmed⟩ := Outcome.bind_ok confirmed
  obtain ⟨rfl, -⟩ := updatePayment_ok decided
  obtain ⟨done, ran, confirmed⟩ := Outcome.bind_ok confirmed
  obtain ⟨-, confirmed⟩ := Outcome.guard_ok confirmed
  obtain ⟨queued, enqueued, written⟩ := Outcome.bind_ok confirmed
  cases Outcome.pure_ok written
  obtain ⟨-, -, -, edition, inventory, -, rfl⟩ := confirmOrder_ok ran
  obtain ⟨-, -, rfl⟩ := enqueueResolveRow_ok enqueued
  exact ⟨not_not.mp window, rfl, rfl, rfl⟩

/-- The seller's decisions are on record once, and a confirmation that commits
records what the order holds then. -/
structure DecisionsRecorded (references : References) (sys : Sys) (id : OrderId) (cell : Cell) :
    Prop where
  exclusive : ¬ (cell.book.sellerConfirmation.isSome = true ∧
    cell.book.manualResolution.isSome = true)
  queued : cell.book.resolveOutbox.isSome = true ↔
    cell.book.sellerConfirmation.isSome = true ∨ cell.book.manualResolution.isSome = true
  kept : ∀ (now : Time) (action : OrderAction) (after : Sys),
    sys.step references (.order id now action) = some after →
      ∃ done ∈ after.cells.find? id,
        (∀ row ∈ cell.book.sellerConfirmation, row ∈ done.book.sellerConfirmation) ∧
        (∀ row ∈ cell.book.manualResolution, row ∈ done.book.manualResolution) ∧
        ∀ invoice ∈ cell.book.resolveOutbox, invoice ∈ done.book.resolveOutbox
  faithful : ∀ (now : Time) (order : Order) (after : Sys),
    sys.step references (.order id now (.confirmBitcoin order)) = some after →
      ∃ done ∈ after.cells.find? id, ∃ row ∈ done.book.sellerConfirmation,
        row.paykitObservation = done.book.order.paykitObservation ∧
          row.confirmedAmountSats = done.book.order.paykitObservedSats

/-- A ruling on record stays. -/
theorem Decision.keeps {now : Time} {inventory after : Inventory} {standing done : Standing}
    (ruled : Ruled standing) (decision : Decision now inventory standing after done) :
    (∀ row ∈ standing.ruling.confirmation, row ∈ done.ruling.confirmation) ∧
      (∀ row ∈ standing.ruling.resolution, row ∈ done.ruling.resolution) ∧
      ∀ invoice ∈ standing.ruling.outbox, invoice ∈ done.ruling.outbox := by
  cases decision with
  | undecided same =>
      rw [same.ruling]
      exact ⟨fun _ => id, fun _ => id, fun _ => id⟩
  | confirmed window awaiting confirmed pinned =>
      rw [ruled.unruled (by simp [awaiting]) (by simp [awaiting])]
      simp
  | resolved review resolved pinned =>
      rw [ruled.unruled (by simp [review]) (by simp [review])]
      simp

theorem seller_decisions_recorded (references : References) (sys : Sys)
    (reached : Runs.Reachable (marketplace references) (eachOrder Undisturbed) sys) (id : OrderId)
    (cell : Cell) (found : sys.cells.find? id = some cell) :
    DecisionsRecorded references sys id cell := by
  obtain ⟨sound, audited⟩ := cells_invariant Audited (fun _ fresh => fresh.audited)
    (fun found meets sound audited ran =>
      (stepCell_steps sound ran).audited sound audited (eachOrder_order meets found)) reached found
  obtain ⟨ruled, -⟩ := reachable_ruled reached found
  constructor
  · rintro ⟨confirmed, resolved⟩
    have unresolved := (ruled.confirmation confirmed).2
    rw [ruled.resolution.mp resolved] at unresolved
    cases unresolved
  · exact ruled.outbox
  · intro now action after stepped
    obtain ⟨done, present, ran⟩ := order_step found stepped
    obtain ⟨moved, move, tidied⟩ := (stepCell_steps sound ran).moves
    have same : done.book.ruling = moved.ruling := congrArg Standing.ruling tidied.eq
    have keeps := (move.decision sound.coherent).keeps ruled
    rw [← same] at keeps
    exact ⟨done, present, keeps⟩
  · intro now order after stepped
    obtain ⟨done, present, ran⟩ := order_step found stepped
    have consumed := (stepCell_steps sound ran).consumed (.sellerConfirming order) rfl
    unfold stepCell at ran
    obtain ⟨-, ran⟩ := Option.ite_none_right_eq_some.mp ran
    obtain ⟨effect, transacted, same⟩ := Option.map_eq_some_iff.mp ran
    obtain ⟨-, rfl⟩ := Prod.mk.inj same
    obtain ⟨view, committed, rfl⟩ := Option.map_eq_some_iff.mp transacted
    obtain ⟨window, row, observation, observed⟩ :=
      confirmBitcoinPayment_ok (Outcome.toOption_some committed)
    have current : order.paykitObservation = cell.book.order.paykitObservation :=
      audited.current window order consumed
    refine ⟨_, present, sellerConfirmationRow order now, row, ?_, ?_⟩
    · exact current.trans observation.symm
    · refine Eq.trans ?_ observed.symm
      change order.paykitObservation.bind Observation.observedSats = _
      rw [current]
      unfold coalesceObserved
      cases frozen : cell.book.order.paykitObservedSats with
      | none => rfl
      | some sats => exact audited.amount window sats frozen

/-- A report of 5000 sats on a shared address, in the transaction `txid`. -/
def sharedReport (txid : String) : PaykitStatusOutcome :=
  .confirmed true
    { allocationMode := .sharedManual
      lateSettlement := false
      observation := { observedSats := some 5000, confirmations := some 3, txid := some txid } }

/-- The lamp in its seller window, the poll in the window under way, and the
seller about to confirm. -/
def attestedLamp : List Action :=
  polledLamp ++
  [ .order 7 20 (.applyPoll (pendingClaim 1) (sharedReport "first"))
  , .order 7 30 .claimPoll
  , .order 7 40 (.readSellerConfirm "seller") ]

theorem attested_lamp_recorded :
    ∃ sys, Runs.Reachable (marketplace sampleReferences) (eachOrder Undisturbed) sys ∧
      ∃ cell ∈ sys.cells.find? 7, DecisionsRecorded sampleReferences sys 7 cell ∧
        ∃ order ∈ cell.inFlight.filterMap Message.readOrder,
          (sys.step sampleReferences (.order 7 50 (.confirmBitcoin order))).isSome = true := by
  obtain ⟨sys, reached, cell, found, order, reading, commits⟩ :=
    @Runs.exists_reachable_of_run _ _ (marketplace sampleReferences) (eachOrder Undisturbed) _ rfl
      attestedLamp
      (fun sys => ∃ cell ∈ sys.cells.find? 7,
        ∃ order ∈ cell.inFlight.filterMap Message.readOrder,
          (sys.step sampleReferences (.order 7 50 (.confirmBitcoin order))).isSome = true)
      (by decide +kernel) (by decide +kernel)
  exact ⟨sys, reached, cell, found,
    seller_decisions_recorded sampleReferences sys reached 7 cell found, order, reading, commits⟩

/-- The claim of order 7's attempt inside its seller window. -/
def windowClaim : ClaimedPaykitOrder :=
  { pendingClaim 1 with paykitRequestState := .awaitingSellerConfirmation }

set_option synthInstance.maxSize 512 in
/-- A report of another transaction comes between the seller's read and the
confirmation: the audit row names the first, the order the second. -/
theorem refreshed_observation_misses_audit :
    ∃ sys, Runs.Reachable (marketplace sampleReferences) Runs.anyStep sys ∧
      ∃ cell ∈ sys.cells.find? 7, ∃ order ∈ cell.inFlight.filterMap Message.readOrder,
        ∃ after ∈ sys.step sampleReferences (.order 7 50 (.confirmBitcoin order)),
          ∃ done ∈ after.cells.find? 7, ∃ row ∈ done.book.sellerConfirmation,
            row.confirmedTxid = some "first" ∧
              done.book.order.paykitObservation.bind Observation.txid = some "second" ∧
              row.paykitObservation ≠ done.book.order.paykitObservation := by
  exact Runs.exists_reachable_of_run (marketplace sampleReferences) rfl
    (attestedLamp ++ [.order 7 45 (.applyPoll windowClaim (sharedReport "second"))])
    (fun sys => ∃ cell ∈ sys.cells.find? 7, ∃ order ∈ cell.inFlight.filterMap Message.readOrder,
      ∃ after ∈ sys.step sampleReferences (.order 7 50 (.confirmBitcoin order)),
        ∃ done ∈ after.cells.find? 7, ∃ row ∈ done.book.sellerConfirmation,
          row.confirmedTxid = some "first" ∧
            done.book.order.paykitObservation.bind Observation.txid = some "second" ∧
            row.paykitObservation ≠ done.book.order.paykitObservation)
    (Runs.meets_anyStep _ _ _) (by decide +kernel)

end MarketplaceService
