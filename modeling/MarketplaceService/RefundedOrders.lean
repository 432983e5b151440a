import MarketplaceService.GatewayRefunds
import MarketplaceService.RefundMoves

/-!
Refunded orders, over whole runs of the marketplace and its gateway. A refunded
order that no money finds stocked keeps its receipt or its lack of one, and only
a canceled reversal takes it out of `refunded_external`.
-/

namespace MarketplaceService

def refundsStand (gate : GatewaySys) : GatewayAction → Prop
  | .service (.order id _ step) => ∀ cell ∈ gate.sys.cells.find? id,
      cell.book.refunded → ¬ step.findsStock gate.sys.inventory cell.book
  | _ => True

instance (gate : GatewaySys) (action : GatewayAction) : Decidable (refundsStand gate action) :=
  match action with
  | .service (.order id _ step) =>
      inferInstanceAs (Decidable (∀ cell ∈ gate.sys.cells.find? id,
        cell.book.refunded → ¬ step.findsStock gate.sys.inventory cell.book))
  | .service (.tick ..) | .service (.checkout ..) | .service (.offerCheckout ..)
  | .service (.closeAuction ..) | .service (.placeBid ..) | .service (.closeUnsold ..)
  | .service (.registerListing ..) | .service (.syncListing ..)
  | .service (.tombstone ..) | .service (.adjustInventory ..) | .service (.setDigitalVersion ..)
  | .service (.reserveInventory ..) | .service (.expireReservation ..)
  | .service (.acceptOffer ..) | .service (.expireAward ..) | .service (.syncDrop ..)
  | .service (.cancelDrop ..) | .service (.releaseDropListings ..) | .service (.transitionDrop ..)
  | .settle .. | .notify .. | .recordRefund .. => inferInstanceAs (Decidable True)

/-! The orders of the marketplace, beside their notifications. -/

/-- What an order's rows keep: a refund is marked, and an order in a paid state
has its receipt. -/
structure Recorded (cell : Cell) : Prop where
  sound : Sound cell
  marked : cell.book.standing.Marked
  paid : cell.book.order.state ∉ unpaidStates → cell.book.receipt.isSome = true

/-- What the ledger of an order remembers: states a full refund was taken from,
paid ones of orders with a receipt. -/
def Remembers (file : GatewayFile) (cell : Cell) : Prop :=
  ∀ row ∈ file.ledger, ∀ state ∈ row.fromState,
    state ∈ fullRefundSources ∧ (state ∉ unpaidStates → cell.book.receipt.isSome = true)

theorem Fresh.recorded {book : OrderBook} (fresh : Fresh book) : Recorded (newCell book) := by
  obtain ⟨held, start⟩ := fresh.standing
  have same : (newCell book).book.standing = book.order.terms.start held := start
  refine ⟨fresh.sound, ?_, ?_⟩
  · intro refund
    rw [same] at refund
    cases refund
  · intro paid
    have state : (newCell book).book.order.state = .pendingPayment := congrArg Standing.state same
    rw [state] at paid
    exact absurd (List.mem_cons_self ..) paid

section Cells

variable {references : References} {now : Time} {inventory after : Inventory} {cell done : Cell}
  {action : OrderAction}

theorem second_unissued {view : View} {effect : Effect}
    (second : action = .reviewFiat ∨ action = .reviewLocks)
    (ran : transact references view now action = some effect) :
    effect.view.book.receipt = view.book.receipt := by
  have reviewed {book written : OrderBook} (ran : reviewAwaiting book now = .ok written) :
      written.receipt = book.receipt := by
    unfold reviewAwaiting at ran
    split at ran
    · obtain ⟨rfl, -⟩ := updatePayment_ok ran
      rfl
    · cases ran
      rfl
  rcases second with rfl | rfl
  · obtain ⟨book, settled, rfl⟩ := Option.map_eq_some_iff.mp ran
    exact reviewed (Outcome.toOption_some settled)
  · obtain ⟨book, settled, rfl⟩ := Option.map_eq_some_iff.mp ran
    have done := Outcome.toOption_some settled
    unfold locksReview at done
    obtain ⟨written, first, last⟩ := Outcome.bind_ok done
    cases Outcome.pure_ok last
    have kept := reviewed first
    exact kept

theorem Finds.findsStock {book : OrderBook} (marked : book.standing.Marked)
    (unpaid : book.receipt = none) (refunded : book.refunded)
    (first : action ≠ .reviewFiat ∧ action ≠ .reviewLocks)
    (finds : Finds inventory book.standing action) : action.findsStock inventory book := by
  cases finds with
  | late entered unheld unresolved terms deliverable retakes =>
      have same : _ = book.order.terms := terms
      refine ⟨?_, .inl ⟨entered.entersLate, ?_, unheld, retakes.of_terms same⟩⟩
      · rw [← unpinnable_of_terms same]
        exact deliverable
      · exact Option.not_isSome_iff_eq_none.mp (by simpa [OrderBook.standing] using unresolved)
  | onTime rail awaiting shows_row deliverable confirms =>
      have same : _ = book.order.terms := shows_row.terms
      refine ⟨?_, .inr ⟨?_, confirms.of_terms same shows_row.held⟩⟩
      · rw [← unpinnable_of_terms same]
        exact deliverable
      · have open_payment : book.payment.state = .awaitingEntitlement := awaiting
        cases action <;>
          simp [OrderAction.rail, OrderAction.settlesOnTime, open_payment] at rail first ⊢
  | sandbox sandbox open_payment shows_row deliverable confirms =>
      have same : _ = book.order.terms := shows_row.terms
      refine ⟨?_, .inr ⟨?_, confirms.of_terms same shows_row.held⟩⟩
      · rw [← unpinnable_of_terms same]
        exact deliverable
      · have adapter : book.payment.adapter = .sandbox := sandbox
        have state : book.payment.state = .awaitingEntitlement ∨ book.payment.state = .detected :=
          open_payment
        simpa [OrderAction.settlesOnTime, adapter] using state
  | opened open_order other =>
      have state : book.order.state = .pendingPayment ∨ book.order.state = .cancelled := open_order
      have unmarked : ¬ book.order.state = .refundedExternal := by
        rcases state with same | same <;> simp [same]
      rcases refunded with label | recorded
      · exact absurd label unmarked
      · rcases marked recorded with label | paid | paypal
        · exact absurd label unmarked
        · have none_issued : book.standing.receipt = none := Option.map_eq_none_iff.mpr unpaid
          rw [none_issued] at paid
          cases paid
        · exact absurd paypal other

theorem Recorded.step (recorded : Recorded cell)
    (stepped : stepCell references inventory cell now action = some (after, done)) :
    Recorded done := by
  have step := stepCell_steps recorded.sound stepped
  obtain ⟨moved, move, tidied⟩ := step.moves
  have standing := tidied.eq
  refine ⟨step.sound recorded.sound, ?_, ?_⟩
  · have marked := (move.refundMove recorded.sound.coherent step.speaks).marked recorded.marked
    rw [standing]
    exact marked
  · intro paid
    have label : done.book.order.state = moved.state := congrArg Standing.state standing
    have receipt : done.book.standing.receipt = moved.receipt :=
      (congrArg Standing.receipt standing).trans rfl
    have issued (some_receipt : moved.receipt.isSome = true) :
        done.book.receipt.isSome = true := by
      rw [← receipt] at some_receipt
      exact Option.isSome_map.symm.trans some_receipt
    rw [label] at paid
    generalize action.returns cell.book = returned at move
    cases move.receipts with
    | issued unpaid paid => exact issued paid
    | kept same state =>
        apply issued
        rw [same]
        exact Option.isSome_map.trans (recorded.paid (state paid))
    | gaveBack same was cancelled sublist =>
        rw [cancelled] at paid
        exact absurd (by simp [unpaidStates]) paid

theorem Recorded.stands (recorded : Recorded cell) (refunded : cell.book.refunded)
    (guarded : ¬ action.findsStock inventory cell.book)
    (stepped : stepCell references inventory cell now action = some (after, done)) :
    (cell.book.receipt = none → done.book.receipt = none) ∧
      (cell.book.order.state = .refundedExternal → done.book.order.state = .refundedExternal) := by
  have step := stepCell_steps recorded.sound stepped
  obtain ⟨moved, move, tidied⟩ := step.moves
  have label : done.book.order.state = moved.state := congrArg Standing.state tidied.eq
  have receipt : done.book.standing.receipt = moved.receipt :=
    (congrArg Standing.receipt tidied.eq).trans rfl
  have kept (same : moved.receipt = cell.book.standing.receipt)
      (unpaid : cell.book.receipt = none) :
      done.book.receipt = none := by
    have none_before : cell.book.standing.receipt = none := Option.map_eq_none_iff.mpr unpaid
    exact Option.map_eq_none_iff.mp (receipt.trans (same.trans none_before))
  rw [label]
  cases move.refundMove recorded.sound.coherent step.speaks with
  | kept same refund method state => exact ⟨kept same, state⟩
  | recorded same state => exact ⟨kept same, fun _ => state⟩
  | issued unpaid paid finds =>
      have none_before : cell.book.receipt = none := Option.map_eq_none_iff.mp unpaid
      by_cases second : action = .reviewFiat ∨ action = .reviewLocks
      · obtain ⟨effect, ran, -, rfl⟩ := stepCell_transacts stepped
        have same : effect.view.book.receipt = cell.book.receipt := second_unissued second ran
        have none_after : (cell.after action effect).book.standing.receipt = none :=
          Option.map_eq_none_iff.mpr (same.trans none_before)
        rw [← receipt, none_after] at paid
        cases paid
      · rw [not_or] at second
        exact absurd (finds.findsStock recorded.marked none_before refunded
          second) guarded

end Cells

/-! Notifications. -/

/-- What a notification does to the state of its order. -/
inductive Relabels (order : Order) (file : GatewayFile) (record : GatewayRecord) :
    OrderState → Option OrderState → Prop
  | kept : Relabels order file record order.state none
  | refunded (source : order.state ∈ fullRefundSources)
      (status : record.status ≠ .canceledReversal) :
      Relabels order file record .refundedExternal (some order.state)
  | restored {row : LedgerRow} {state : OrderState} (member : row ∈ file.ledger)
      (replaced : row.fromState = some state) (was : order.state = .refundedExternal)
      (status : record.status = .canceledReversal) : Relabels order file record state none

theorem refundChange_relabels (order : Order) (file : GatewayFile) (record : GatewayRecord)
    (now : Time) (status : record.status ≠ .canceledReversal) :
    Relabels order file record (refundChange order file record now).state
      (refundChange order file record now).fromState := by
  simp only [refundChange]
  split
  · rename_i transition
    have source : order.state ∈ fullRefundSources := by
      simp only [Bool.and_eq_true, List.contains_iff_mem] at transition
      exact transition.2
    exact .refunded source status
  · exact .kept

theorem restoreChange_relabels (order : Order) (file : GatewayFile) (record : GatewayRecord)
    (now : Time) (status : record.status = .canceledReversal) :
    Relabels order file record (restoreChange order file record now).state
      (restoreChange order file record now).fromState := by
  simp only [restoreChange]
  split
  · rename_i reopen
    simp only [Bool.and_eq_true, beq_iff_eq] at reopen
    cases replaced : (file.rows.reverse.find? fun row => row.fromState.isSome).bind
        LedgerRow.fromState with
    | none => exact .kept
    | some state =>
        obtain ⟨row, found, from_state⟩ := Option.bind_eq_some_iff.mp replaced
        have member : row ∈ file.ledger := by
          have listed := List.mem_of_find?_eq_some found
          rw [List.mem_reverse] at listed
          exact (List.mem_insertionSort _).mp listed
        exact .restored member from_state reopen.1.1 status
  · exact .kept

theorem orderChange_relabels (order : Order) (file : GatewayFile) (record : GatewayRecord)
    (now : Time) :
    Relabels order file record (orderChange order file record now).state
      (orderChange order file record now).fromState := by
  unfold orderChange
  split
  · rename_i status
    exact refundChange_relabels order file record now (by simp [status])
  · rename_i status
    exact refundChange_relabels order file record now (by simp [status])
  · rename_i status
    exact restoreChange_relabels order file record now status

section Notifications

variable {cell : Cell} {file : GatewayFile}

/-- An order that a write relabels away from no payment, into none. -/
theorem Recorded.relabelled (recorded : Recorded cell) {book : OrderBook} {revision : ℕ}
    {state : OrderState} {refund : Option ExternalRefund}
    (written : book = { cell.book with order := { cell.book.order with
      revision := revision, state := state, externalRefund := refund } })
    (label : state = cell.book.order.state ∨
      cell.book.order.state ≠ .pendingPayment ∧ state ≠ .pendingPayment)
    (marked : book.standing.Marked)
    (paid : state ∉ unpaidStates → cell.book.receipt.isSome = true) :
    Recorded { cell with book := book } := by
  have standing : book.standing =
      { cell.book.standing with state := state, refund := refund } := by
    rw [written]
    rfl
  refine ⟨⟨?_, ?_⟩, marked, ?_⟩
  · change Coherent book.standing
    rw [standing]
    rcases label with rfl | ⟨was, now_label⟩
    · exact recorded.sound.coherent.beside refund _ _
    · exact recorded.sound.coherent.relabelled was now_label refund
  · intro message waiting
    have backed := recorded.sound.backed message waiting
    change Backed book.standing message
    rw [standing]
    exact backed
  · intro label
    rw [written] at label ⊢
    exact paid label

theorem recordOnOrder_ok {record : GatewayRecord} {now : Time} {written : OrderBook × GatewayFile}
    (ran : recordOnOrder cell.book file record now = .ok written) :
    ∃ state refund from_state, Relabels cell.book.order file record state from_state ∧
      written.1 = { cell.book with order := { cell.book.order with
        revision := cell.book.order.revision + 1, state := state, externalRefund := refund } } ∧
      written.2.paypalTxnId = file.paypalTxnId ∧
      ∀ row ∈ written.2.ledger, row ∈ file.ledger ∨ row.fromState = from_state := by
  unfold recordOnOrder at ran
  obtain ⟨book, updated, last⟩ := Outcome.bind_ok ran
  obtain ⟨rfl, -⟩ := updateOrder_ok updated
  cases Outcome.pure_ok last
  refine ⟨_, _, _, orderChange_relabels cell.book.order file record now, rfl, rfl, ?_⟩
  intro row member
  rcases List.mem_append.mp member with old | added
  · exact .inl old
  · rw [List.mem_singleton.mp added]
    exact .inr rfl

theorem Recorded.notified (recorded : Recorded cell) (remembers : Remembers file cell)
    (paypal : cell.book.order.paymentMethod = some .paypal) {record : GatewayRecord} {now : Time}
    {written : OrderBook × GatewayFile}
    (ran : recordOnOrder cell.book file record now = .ok written) :
    Recorded { cell with book := written.1 } ∧
      Remembers written.2 { cell with book := written.1 } := by
  obtain ⟨state, refund, from_state, relabels, stored, -, rows⟩ := recordOnOrder_ok ran
  have marked : written.1.standing.Marked := by
    intro _
    rw [stored]
    exact .inr (.inr paypal)
  have receipt : written.1.receipt = cell.book.receipt := by rw [stored]
  have remembered (fresh : ∀ state ∈ from_state,
      state ∈ fullRefundSources ∧ (state ∉ unpaidStates → cell.book.receipt.isSome = true)) :
      Remembers written.2 { cell with book := written.1 } := by
    intro row member state named
    rw [show ({ cell with book := written.1 } : Cell).book.receipt = cell.book.receipt from receipt]
    rcases rows row member with old | added
    · exact remembers row old state named
    · rw [added] at named
      exact fresh state named
  cases relabels with
  | kept =>
      exact ⟨recorded.relabelled stored (.inl rfl) marked recorded.paid, remembered (by simp)⟩
  | refunded source status =>
      have open_order : cell.book.order.state ≠ .pendingPayment := by
        intro pending
        rw [pending] at source
        simp [fullRefundSources] at source
      refine ⟨recorded.relabelled stored (.inr ⟨open_order, by simp⟩) marked
        (fun paid => absurd (by simp [unpaidStates]) paid), remembered ?_⟩
      intro state named
      obtain rfl := Option.some.inj named
      exact ⟨source, recorded.paid⟩
  | restored member replaced was status =>
      obtain ⟨source, paid⟩ := remembers _ member _ replaced
      have open_order : state ≠ .pendingPayment := by
        rintro rfl
        simp [fullRefundSources] at source
      exact ⟨recorded.relabelled stored (.inr ⟨by simp [was], open_order⟩) marked paid,
        remembered (by simp)⟩

theorem refundSources_of_allowed {state : OrderState} {fulfillment : Fulfillment}
    (allowed : ¬ (!((state == .returnReceived || state == .cancelled) ||
      (fulfillment == .digital && (state == .delivered || state == .completed)))) = true) :
    state ∈ [OrderState.returnReceived, .cancelled, .delivered, .completed] := by
  simp only [Bool.not_eq_true', Bool.not_eq_false, Bool.or_eq_true, Bool.and_eq_true,
    beq_iff_eq] at allowed
  rcases allowed with (same | same) | ⟨-, same | same⟩ <;> simp [same]

theorem recordOverGateway_ok {sender : Sender} {refund : ExternalRefund} {book : OrderBook}
    (ran : recordOverGateway cell.book file sender refund = .ok book) :
    cell.book.order.state ∈ [OrderState.returnReceived, .cancelled, .delivered, .completed] ∧
      book = { cell.book with order := { cell.book.order with
        revision := cell.book.order.revision + 1
        state := .refundedExternal
        externalRefund := some refund } } := by
  unfold recordOverGateway at ran
  obtain ⟨-, -, rest⟩ := Outcome.bind_ok ran
  split at rest
  · cases rest
  · split at rest
    · cases rest
    · rename_i refundable
      obtain ⟨rfl, -⟩ := updateOrder_ok rest
      refine ⟨?_, rfl⟩
      rw [Bool.or_eq_true, Bool.or_eq_true, not_or, not_or] at refundable
      exact refundSources_of_allowed refundable.1.1

end Notifications

/-! The marketplace with its gateway. -/

inductive GatewayStep (references : References) (gate : GatewaySys) (action : GatewayAction)
    (after : GatewaySys) : Prop
  | service {step : Action} (named : action = .service step)
      (stepped : gate.sys.step references step = some after.sys) (files : after.files = gate.files)
  | settled {id : OrderId} {txn : String} {cell : Cell} (named : action = .settle id txn)
      (found : gate.sys.cells.find? id = some cell)
      (paypal : cell.book.order.paymentMethod = some .paypal) (same : after.sys = gate.sys)
      (files : after.files = gate.files.set id { gate.file id with paypalTxnId := some txn })
  | notified {id : OrderId} {now : Time} {record : GatewayRecord} {cell : Cell}
      {written : OrderBook × GatewayFile} (named : action = .notify id now record)
      (found : gate.sys.cells.find? id = some cell)
      (owned : (gate.file id).paypalTxnId = some record.parentTxnId)
      (ran : recordOnOrder cell.book (gate.file id) record now = .ok written)
      (same : after.sys =
        { gate.sys with cells := gate.sys.cells.set id { cell with book := written.1 } })
      (files : after.files = gate.files.set id written.2)
  | recorded {id : OrderId} {sender : Sender} {refund : ExternalRefund} {cell : Cell}
      {book : OrderBook} (named : action = .recordRefund id sender refund)
      (found : gate.sys.cells.find? id = some cell)
      (ran : recordOverGateway cell.book (gate.file id) sender refund = .ok book)
      (same : after.sys =
        { gate.sys with cells := gate.sys.cells.set id { cell with book := book } })
      (files : after.files = gate.files)

section System

variable {references : References} {gate after : GatewaySys} {action : GatewayAction}

theorem gateway_step_inv (stepped : gate.step references action = some after) :
    GatewayStep references gate action after := by
  cases action with
  | service step =>
      obtain ⟨sys, ran, rfl⟩ := Option.map_eq_some_iff.mp stepped
      exact .service rfl ran rfl
  | settle id txn =>
      obtain ⟨cell, found, rest⟩ := Option.bind_eq_some_iff.mp stepped
      obtain ⟨⟨paypal, -⟩, same⟩ := Option.ite_none_right_eq_some.mp rest
      cases same
      exact .settled rfl found paypal rfl rfl
  | notify id now record =>
      obtain ⟨cell, found, rest⟩ := Option.bind_eq_some_iff.mp stepped
      obtain ⟨⟨owned, -⟩, rest⟩ := Option.ite_none_right_eq_some.mp rest
      obtain ⟨written, ran, rfl⟩ := Option.map_eq_some_iff.mp rest
      exact .notified rfl found owned (Outcome.toOption_some ran) rfl rfl
  | recordRefund id sender refund =>
      obtain ⟨cell, found, rest⟩ := Option.bind_eq_some_iff.mp stepped
      obtain ⟨book, ran, rfl⟩ := Option.map_eq_some_iff.mp rest
      exact .recorded rfl found (Outcome.toOption_some ran) rfl rfl

structure GatewayKept (gate : GatewaySys) : Prop where
  orders : ∀ id cell, gate.sys.cells.find? id = some cell → Recorded cell ∧
    Remembers (gate.file id) cell ∧
      ((gate.file id).paypalTxnId.isSome = true → cell.book.order.paymentMethod = some .paypal)
  absent : ∀ id, gate.sys.cells.find? id = none → gate.files.find? id = none

theorem GatewayKept.sound (kept : GatewayKept gate) (id : OrderId) (cell : Cell)
    (found : gate.sys.cells.find? id = some cell) : Sound cell :=
  (kept.orders id cell found).1.sound

theorem GatewayKept.written (kept : GatewayKept gate) {id : OrderId} {done : Cell}
    {file : GatewayFile}
    (cells : ∀ other, after.sys.cells.find? other =
      if other = id then some done else gate.sys.cells.find? other)
    (files : ∀ other, after.file other = if other = id then file else gate.file other)
    (absent : ∀ other, other ≠ id → after.files.find? other = gate.files.find? other)
    (recorded : Recorded done ∧ Remembers file done ∧
      (file.paypalTxnId.isSome = true → done.book.order.paymentMethod = some .paypal)) :
    GatewayKept after := by
  refine ⟨?_, ?_⟩
  · intro other stored present
    rw [cells] at present
    rw [files]
    split at present
    · rename_i same
      cases present
      rw [if_pos same]
      exact recorded
    · rename_i differs
      rw [if_neg differs]
      exact kept.orders other stored present
  · intro other none_stored
    rw [cells] at none_stored
    split at none_stored
    · cases none_stored
    · rename_i differs
      rw [absent other differs]
      exact kept.absent other none_stored

theorem GatewaySys.file_set {id : OrderId} {file : GatewayFile}
    (files : after.files = gate.files.set id file) (other : OrderId) :
    after.file other = if other = id then file else gate.file other := by
  unfold GatewaySys.file
  rw [files, Keyed.Table.find?_set]
  split <;> rfl

theorem GatewaySys.file_same (files : after.files = gate.files) (id : OrderId) :
    after.file id = gate.file id := by
  unfold GatewaySys.file
  rw [files]

theorem receipt_stays {cell done : Cell} {inventory stocked : Inventory} {now : Time}
    {step : OrderAction} (sound : Sound cell)
    (ran : stepCell references inventory cell now step = some (stocked, done))
    (paid : cell.book.receipt.isSome = true) : done.book.receipt.isSome = true := by
  have was : cell.book.standing.receipt.isSome = true := Option.isSome_map.trans paid
  obtain ⟨moved, move, tidied⟩ := (stepCell_steps sound ran).moves
  have receipt : done.book.standing.receipt = moved.receipt :=
    (congrArg Standing.receipt tidied.eq).trans rfl
  have stays : moved.receipt.isSome = true := by
    generalize step.returns cell.book = returned at move
    cases move.receipts with
    | issued unpaid paid => exact paid
    | kept same _ =>
        rw [same]
        exact was
    | gaveBack same _ _ _ =>
        rw [same]
        exact was
  rw [← receipt] at stays
  exact Option.isSome_map.symm.trans stays

theorem GatewayKept.stepped (kept : GatewayKept gate) {id : OrderId} {cell done : Cell}
    {inventory stocked : Inventory} {now : Time} {step : OrderAction}
    (found : gate.sys.cells.find? id = some cell)
    (ran : stepCell references inventory cell now step = some (stocked, done)) :
    Recorded done ∧ Remembers (gate.file id) done ∧
      ((gate.file id).paypalTxnId.isSome = true →
        done.book.order.paymentMethod = some .paypal) := by
  obtain ⟨recorded, remembers, owned⟩ := kept.orders id cell found
  have own := stepCell_steps recorded.sound ran
  refine ⟨recorded.step ran, ?_, ?_⟩
  · intro row member state named
    obtain ⟨source, paid⟩ := remembers row member state named
    refine ⟨source, fun label => ?_⟩
    exact receipt_stays recorded.sound ran (paid label)
  · intro verified
    have bound : cell.book.standing.method = some .paypal := owned verified
    exact ((own.steady recorded.sound).fiat (.inr bound)).trans bound

theorem GatewayKept.step (kept : GatewayKept gate)
    (stepped : gate.step references action = some after) : GatewayKept after := by
  cases gateway_step_inv stepped with
  | @service step named ran files =>
      refine ⟨?_, ?_⟩
      · intro id done present
        rw [GatewaySys.file_same files]
        cases found : gate.sys.cells.find? id with
        | some cell =>
            obtain ⟨next, stored, same | ⟨now, action, -, moved⟩⟩ := step_keeps ran found
            · obtain rfl := Option.some.inj (present.symm.trans stored)
              rw [same]
              exact kept.orders id cell found
            · obtain rfl := Option.some.inj (present.symm.trans stored)
              exact kept.stepped found moved
        | none =>
            have empty : gate.file id = {} := by
              unfold GatewaySys.file
              rw [kept.absent id found]
              rfl
            cases step_cells ran present with
            | same old => cases found.symm.trans old
            | stepped named old moved => cases found.symm.trans old
            | @fresh book fresh created =>
                rw [created, empty]
                refine ⟨fresh.recorded, ?_, ?_⟩
                · intro row member
                  cases member
                · intro verified
                  cases verified
      · intro id none_stored
        rw [files]
        apply kept.absent
        cases found : gate.sys.cells.find? id with
        | none => rfl
        | some cell =>
            obtain ⟨next, stored, -⟩ := step_keeps ran found
            cases none_stored.symm.trans stored
  | @settled id txn cell named found paypal same files =>
      obtain ⟨recorded, remembers, -⟩ := kept.orders id cell found
      refine kept.written ?_ (GatewaySys.file_set files) ?_ ⟨recorded, remembers, fun _ => paypal⟩
      · intro other
        rw [same]
        split
        · rename_i own
          rw [own, found]
        · rfl
      · intro other differs
        rw [files, Keyed.Table.find?_set_ne _ _ differs]
  | @notified id now record cell written named found owned ran same files =>
      obtain ⟨recorded, remembers, owner⟩ := kept.orders id cell found
      have paypal := owner (by rw [owned]; rfl)
      obtain ⟨noted, remembered⟩ := recorded.notified remembers paypal ran
      refine kept.written ?_ (GatewaySys.file_set files) ?_ ⟨noted, remembered, fun _ => ?_⟩
      · intro other
        rw [same]
        exact Keyed.Table.find?_set ..
      · intro other differs
        rw [files, Keyed.Table.find?_set_ne _ _ differs]
      · obtain ⟨state, refund, from_state, -, stored, -⟩ := recordOnOrder_ok ran
        rw [stored]
        exact paypal
  | @recorded id sender refund cell book named found ran same files =>
      obtain ⟨recorded, remembers, owner⟩ := kept.orders id cell found
      obtain ⟨source, stored⟩ := recordOverGateway_ok ran
      have open_order : cell.book.order.state ≠ .pendingPayment := by
        intro pending
        simp [pending] at source
      have marked : book.standing.Marked := by
        intro _
        rw [stored]
        exact .inl rfl
      have noted := recorded.relabelled stored (.inr ⟨open_order, by simp⟩) marked
        fun paid => absurd (by simp [unpaidStates]) paid
      have receipt : book.receipt = cell.book.receipt := by rw [stored]
      refine @GatewayKept.written gate after kept id _ (gate.file id) ?_ ?_ ?_ ⟨noted, ?_, ?_⟩
      · intro other
        rw [same]
        exact Keyed.Table.find?_set ..
      · intro other
        rw [GatewaySys.file_same files]
        split
        · rename_i own
          rw [own]
        · rfl
      · intro other _
        rw [files]
      · intro row member state named
        change state ∈ fullRefundSources ∧ (_ → book.receipt.isSome = true)
        rw [receipt]
        exact remembers row member state named
      · intro verified
        rw [stored]
        exact owner verified

theorem reachable_gatewayKept {allowed : GatewaySys → GatewayAction → Prop}
    (reached : Runs.Reachable (gatewayMarketplace references) allowed gate) : GatewayKept gate := by
  refine Runs.invariant (gatewayMarketplace references) allowed GatewayKept ?_ ?_ reached
  · intro gate init
    rw [show gate = { sys := emptySys, files := .empty } from init]
    refine ⟨?_, fun _ _ => rfl⟩
    intro id cell found
    cases found
  · intro before action after kept _ stepped
    exact kept.step stepped

end System

/-- What holds of a refunded order across a step: no receipt is issued, no unit
is sold to it, an order that was never paid is not paid now, and only a canceled
reversal takes it out of `refunded_external`, with no receipt and no stock
moved. -/
structure RefundLaw (gate : GatewaySys) (action : GatewayAction) (after : GatewaySys)
    (id : OrderId) (cell done : Cell) : Prop where
  receipt : done.book.receipt.map Receipt.charge = cell.book.receipt.map Receipt.charge
  unpaid : cell.book.receipt = none → done.book.order.state ∈ unpaidStates
  sold : ∀ now step, action = .service (.order id now step) →
    ∀ listing, after.sys.inventory.soldOf listing ≤ gate.sys.inventory.soldOf listing
  exit : cell.book.order.state = .refundedExternal →
    done.book.order.state = .refundedExternal ∨
      ∃ now record, action = .notify id now record ∧ record.status = .canceledReversal ∧
        after.sys.inventory = gate.sys.inventory ∧ done.book.receipt = cell.book.receipt

section Laws

variable {references : References} {gate after : GatewaySys} {action : GatewayAction}
  {id : OrderId} {cell : Cell}

/-- An order that is never paid stays so while it has no receipt. -/
theorem Recorded.unpaid {done : Cell} (recorded : Recorded done)
    (receipt : done.book.receipt = none) : done.book.order.state ∈ unpaidStates := by
  by_contra paid
  have issued := recorded.paid paid
  rw [receipt] at issued
  cases issued

theorem RefundLaw.of_same (kept : GatewayKept gate) (found : gate.sys.cells.find? id = some cell)
    (foreign : ∀ now step, action ≠ .service (.order id now step)) :
    RefundLaw gate action after id cell cell :=
  ⟨rfl, (kept.orders id cell found).1.unpaid, fun now step named => absurd named (foreign now step),
    .inl⟩

theorem service_refundLaw (kept : GatewayKept gate) {step : Action}
    (guarded : refundsStand gate (.service step))
    (ran : gate.sys.step references step = some after.sys)
    (found : gate.sys.cells.find? id = some cell) (refunded : cell.book.refunded) :
    ∃ done, after.sys.cells.find? id = some done ∧
      RefundLaw gate (.service step) after id cell done := by
  by_cases own : ∃ now action, step = .order id now action
  · obtain ⟨now, action, rfl⟩ := own
    obtain ⟨done, present, moved⟩ := order_step found ran
    obtain ⟨recorded, -⟩ := kept.orders id cell found
    obtain ⟨unissued, label⟩ := recorded.stands refunded (guarded cell found refunded) moved
    refine ⟨done, present, ?_⟩
    rcases order_receipts kept.sound found ran present moved with ⟨same, shrinks⟩ | issues
    · exact ⟨same, fun unpaid => (recorded.step moved).unpaid (unissued unpaid),
        fun _ _ _ => shrinks, fun was => .inl (label was)⟩
    · have paid := issues.paid
      rw [unissued issues.unpaid] at paid
      cases paid
  · obtain ⟨done, present, rfl | ⟨now, action, named, -⟩⟩ := step_keeps ran found
    · refine ⟨done, present, .of_same kept found ?_⟩
      rintro now action named
      cases named
      exact own ⟨now, action, rfl⟩
    · exact absurd ⟨now, action, named⟩ own

theorem GatewayStep.refundLaw (kept : GatewayKept gate) (guarded : refundsStand gate action)
    (step : GatewayStep references gate action after)
    (found : gate.sys.cells.find? id = some cell) (refunded : cell.book.refunded) :
    ∃ done, after.sys.cells.find? id = some done ∧ RefundLaw gate action after id cell done := by
  cases step with
  | service named ran files =>
      subst named
      exact service_refundLaw kept guarded ran found refunded
  | settled named stored paypal same files =>
      refine ⟨cell, ?_, .of_same kept found ?_⟩
      · rw [same]
        exact found
      · rintro now action rfl
        cases named
  | @notified own now record row written named stored owned ran same files =>
      by_cases here : id = own
      · subst here
        obtain rfl := Option.some.inj (found.symm.trans stored)
        obtain ⟨recorded, remembers, owner⟩ := kept.orders id cell found
        obtain ⟨noted, -⟩ := recorded.notified remembers (owner (by rw [owned]; rfl)) ran
        obtain ⟨state, refund, from_state, relabels, book, -⟩ := recordOnOrder_ok ran
        have receipt : written.1.receipt = cell.book.receipt := by rw [book]
        refine ⟨{ cell with book := written.1 }, ?_, ?_, ?_, ?_, ?_⟩
        · rw [same]
          exact Keyed.Table.find?_set_self ..
        · exact congrArg (Option.map Receipt.charge) receipt
        · intro unpaid
          exact noted.unpaid (receipt.trans unpaid)
        · rintro now action rfl
          cases named
        · intro was
          by_cases label : written.1.order.state = .refundedExternal
          · exact .inl label
          · refine .inr ⟨now, record, named, ?_, ?_, receipt⟩
            · rw [book] at label
              cases relabels with
              | kept => exact absurd was label
              | refunded source status => exact absurd rfl label
              | restored member replaced _ status => exact status
            · rw [same]
      · refine ⟨cell, ?_, .of_same kept found ?_⟩
        · rw [same]
          exact (Keyed.Table.find?_set_ne _ _ here).trans found
        · rintro now action rfl
          cases named
  | @recorded own sender refund row book named stored ran same files =>
      by_cases here : id = own
      · subst here
        obtain rfl := Option.some.inj (found.symm.trans stored)
        obtain ⟨-, written⟩ := recordOverGateway_ok ran
        refine ⟨{ cell with book := book }, ?_, ?_, ?_, ?_, ?_⟩
        · rw [same]
          exact Keyed.Table.find?_set_self ..
        · rw [written]
        · intro _
          rw [written]
          simp [unpaidStates]
        · rintro now action rfl
          cases named
        · intro _
          left
          rw [written]
      · refine ⟨cell, ?_, .of_same kept found ?_⟩
        · rw [same]
          exact (Keyed.Table.find?_set_ne _ _ here).trans found
        · rintro now action rfl
          cases named

end Laws

/-- In a run in which no money finds the stock of a refunded order, no step
completes one. -/
theorem refunded_order_never_completed (references : References) (gate : GatewaySys)
    (reached : Runs.Reachable (gatewayMarketplace references) refundsStand gate)
    (action : GatewayAction) (after : GatewaySys) (guarded : refundsStand gate action)
    (stepped : gate.step references action = some after) (id : OrderId) (cell : Cell)
    (found : gate.sys.cells.find? id = some cell) (refunded : cell.book.refunded) :
    ∃ done, after.sys.cells.find? id = some done ∧ RefundLaw gate action after id cell done :=
  (gateway_step_inv stepped).refundLaw (reachable_gatewayKept reached) guarded found refunded

/-- The lamp paid through PayPal, and the payment reversed in full. -/
def reversedLamp : List GatewayAction :=
  (lampOrder ++ sampleBind 1 .paypal none none ++
    [ Action.order 7 10 (.verifyPaypal (some "payment") .gateway)
    , .order 7 10 (.applyFiat (some "payment") .gateway) ]).map GatewayAction.service ++
  [ .settle 7 "payment"
  , .notify 7 20
      { txnId := "reversal", parentTxnId := "payment", status := .reversed, amountMinor := 2500 } ]

def lampReversalCanceled : GatewayAction :=
  .notify 7 30
    { txnId := "cancellation"
      parentTxnId := "payment"
      status := .canceledReversal
      amountMinor := 2500 }

/-- The reversal is canceled, and the lamp's order is paid again, by its own
receipt. -/
theorem canceled_reversal_restores_lamp :
    ∃ gate, Runs.Reachable (gatewayMarketplace sampleReferences) refundsStand gate ∧
      ∃ cell, gate.sys.cells.find? 7 = some cell ∧ cell.book.order.state = .refundedExternal ∧
        ∃ after, gate.step sampleReferences lampReversalCanceled = some after ∧
          (∃ done ∈ after.sys.cells.find? 7, done.book.order.state = .paid) ∧
          ∃ done, after.sys.cells.find? 7 = some done ∧
            RefundLaw gate lampReversalCanceled after 7 cell done := by
  obtain ⟨gate, reached, cell, found, refunded, after, stepped, restored⟩ :=
    @Runs.exists_reachable_of_run _ _ (gatewayMarketplace sampleReferences) refundsStand _ rfl
      reversedLamp
      (fun gate => ∃ cell ∈ gate.sys.cells.find? 7, cell.book.order.state = .refundedExternal ∧
        ∃ after ∈ gate.step sampleReferences lampReversalCanceled,
          ∃ done ∈ after.sys.cells.find? 7, done.book.order.state = .paid)
      (by decide +kernel) (by decide +kernel)
  exact ⟨gate, reached, cell, found, refunded, after, stepped, restored,
    refunded_order_never_completed sampleReferences gate reached lampReversalCanceled after trivial
      stepped 7 cell found (.inl refunded)⟩

/-- The buyer cancels the unpaid lamp, the seller records a refund for it, and
the money of the watched invoice completes it. -/
theorem late_money_completes_refunded_lamp :
    ∃ gate, Runs.Reachable (gatewayMarketplace sampleReferences) Runs.anyStep gate ∧
      ∃ cell ∈ gate.sys.cells.find? 7, cell.book.order.state = .refundedExternal ∧
        cell.book.order.externalRefund.isSome = true ∧ cell.book.receipt = none ∧
        ∃ after ∈ gate.step sampleReferences (.service (.order 7 40
            (.applyPoll (pendingClaim 1) confirmedReport))),
          ∃ done ∈ after.sys.cells.find? 7, done.book.order.state = .paid ∧
            done.book.receipt.isSome = true ∧
            after.sys.inventory.soldOf "lamp" = gate.sys.inventory.soldOf "lamp" + 1 := by
  obtain ⟨gate, reached, completed⟩ :=
    Runs.exists_reachable_of_run (gatewayMarketplace sampleReferences) rfl
      ((polledLamp ++
        [ Action.order 7 20 (.cancel ⟨"buyer", 2⟩ "changed my mind" false)
        , .order 7 30 (.recordRefund ⟨"seller", 3⟩ ⟨2500, "cash"⟩) ]).map GatewayAction.service)
      (fun gate => ∃ cell ∈ gate.sys.cells.find? 7, cell.book.order.state = .refundedExternal ∧
        cell.book.order.externalRefund.isSome = true ∧ cell.book.receipt = none ∧
        ∃ after ∈ gate.step sampleReferences (.service (.order 7 40
            (.applyPoll (pendingClaim 1) confirmedReport))),
          ∃ done ∈ after.sys.cells.find? 7, done.book.order.state = .paid ∧
            done.book.receipt.isSome = true ∧
            after.sys.inventory.soldOf "lamp" = gate.sys.inventory.soldOf "lamp" + 1)
      (Runs.meets_anyStep _ _ _) (by decide +kernel)
  exact ⟨gate, reached, completed⟩

end MarketplaceService
