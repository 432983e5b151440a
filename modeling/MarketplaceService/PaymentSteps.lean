import MarketplaceService.SellerWindow

/-!
The states of a payment, step by step. A payment lapses from awaiting, is
settled as confirmed or sent to review, leaves a review by a resolution only,
and stays confirmed.
-/

namespace MarketplaceService

inductive Lapses (standing : Standing) : OrderAction → Prop
  | window : Lapses standing .expireWindow
  | idle {checkoutHoldWindowSeconds : ℕ} :
      Lapses standing (.expireIdle checkoutHoldWindowSeconds)
  | cancel {sender : Sender} {reason : String} {exitOpen : Bool}
      (paykit : standing.adapter = .paykit) (pending : standing.state = .pendingPayment) :
      Lapses standing (.cancel sender reason exitOpen)
  | preparing {action : OrderAction} (preparing : standing.activation = some .preparing) :
      Lapses standing action

inductive PaymentStep (standing : Standing) (action : OrderAction) (done : Standing) : Prop
  | kept (payment : done.payment = standing.payment)
      (adapter : standing.payment = .detected → done.adapter = standing.adapter)
  | lapsed (awaiting : standing.payment = .awaitingEntitlement) (expired : done.payment = .expired)
      (lapses : Lapses standing action)
  | settled (unsettled : standing.payment ≠ .confirmed ∧ standing.payment ≠ .manualReview)
      (settled : done.payment = .manualReview ∨ done.payment = .confirmed)
  | resolved (review : standing.payment = .manualReview) (resolved : done.resolved = true)
      (closed : done.payment = .confirmed ∨ done.payment = .expired)
  | sandbox (sandbox : standing.adapter = .sandbox) (kept : done.adapter = .sandbox)
      (unsettled : standing.payment = .awaitingEntitlement ∨ standing.payment = .detected)

section Moves

variable {references : References} {now : Time} {inventory after : Inventory}
  {standing done : Standing} {action : OrderAction} {returned : List Line}

theorem PaymentStep.of_decided (unsettled : standing.payment = .awaitingEntitlement ∨
      standing.payment = .detected ∨ standing.payment = .expired)
    (decided : done.payment = .manualReview ∨ done.payment = .confirmed) :
    PaymentStep standing action done := by
  refine .settled ?_ decided
  rcases unsettled with same | same | same <;> simp [same]

theorem PaymentStep.of_lapse (same : done.payment = standing.lapse.payment)
    (adapter : done.adapter = standing.adapter)
    (lapses : standing.payment = .awaitingEntitlement → Lapses standing action) :
    PaymentStep standing action done := by
  unfold Standing.lapse at same
  split at same
  · rename_i awaiting
    exact .lapsed awaiting same (lapses awaiting)
  · exact .kept same fun _ => adapter

theorem Move.paymentStep (coherent : Coherent standing)
    (move : Move references now inventory standing action returned after done) :
    PaymentStep standing action done := by
  cases move with
  | stay => exact .kept rfl fun _ => rfl
  | bindFiat known chosen unbound pending awaiting unlocked acquired =>
      obtain ⟨held, rfl, -, -⟩ := acquired.frame
      exact .kept rfl (by simp [awaiting])
  | bindBitcoin chosen prepared unbound pending awaiting unlocked acquired =>
      obtain ⟨held, rfl, -, -⟩ := acquired.frame
      exact .kept rfl (by simp [awaiting])
  | activate answer preparing => exact .kept rfl fun _ => rfl
  | track answer current voided settled =>
      split
      · rename_i paykit
        -- a settled Paykit order has no awaiting payment, so nothing lapses
        have closed : standing.activate.payment ≠ .awaitingEntitlement := fun awaiting =>
          settled (coherent.open_payment (coherent.bitcoin.mpr paykit) awaiting).1
        have same : standing.activate.lapse = standing.activate := by
          unfold Standing.lapse
          rw [if_neg closed]
        rw [same]
        exact .kept rfl fun _ => rfl
      · exact .kept rfl fun _ => rfl
  | voidPrepare answer voids shows_row preparing released =>
      have awaiting := (coherent.preparing preparing).2.1
      exact .kept rfl (by simp [awaiting])
  | dropRequest preparing settled => exact .kept rfl fun _ => rfl
  | expirePreparing answer shows_row preparing released =>
      exact .lapsed (coherent.preparing preparing).2.1 rfl (.preparing preparing)
  | expireHeld shows_row pending held settled outside open_payment released =>
      obtain ⟨payment, same, -, -⟩ := standing.lapse_frame
      refine .of_lapse rfl ?_ fun _ => .window
      rw [same]
      rfl
  | expireIdle pending free unbound single unstamped awaiting => exact .lapsed awaiting rfl .idle
  | cancelPending shows_row pending outside released =>
      by_cases paykit : standing.adapter = .paykit
      · have lapses : standing.endRequest.payment = standing.lapse.payment ∧
            standing.endRequest.adapter = standing.adapter := by
          obtain ⟨payment, same, -, -⟩ := standing.lapse_frame
          have adapter : standing.lapse.adapter = standing.adapter := by
            rw [same]
            rfl
          unfold Standing.endRequest
          rw [if_pos paykit]
          split
          · exact ⟨rfl, adapter⟩
          · exact ⟨rfl, adapter⟩
        exact .of_lapse lapses.1 lapses.2 fun _ => .cancel paykit pending
      · have same : standing.endRequest = standing := by
          unfold Standing.endRequest
          rw [if_neg paykit]
        rw [same]
        exact .kept rfl fun _ => rfl
  | cancelPaid shows_row paid returned => exact .kept rfl fun _ => rfl
  | requestCancel paid => exact .kept rfl fun _ => rfl
  | approveCancel shows_row requested releasable returned => exact .kept rfl fun _ => rfl
  | fulfil command paid ended ready label recorded => exact .kept rfl fun _ => rfl
  | settle rail awaiting settled => exact .of_decided (.inl awaiting) settled.decided.payment
  | late rail money expired late => exact .of_decided (.inr (.inr expired)) late.decided.payment
  | settlePoll rail awaiting gate settled froze =>
      exact .of_decided (.inl awaiting) settled.decided.payment
  | latePoll rail money open_payment outside froze late =>
      refine .of_decided ?_ late.decided.payment
      exact open_payment.imp id .inr
  | fallback advanced froze => exact .kept rfl fun _ => rfl
  | confirmSeller window awaiting confirmed froze first queued pinned =>
      cases confirmed
      exact .of_decided (.inl awaiting) (.inr rfl)
  | windowLapsed request awaiting opened due froze =>
      exact .of_decided (.inl awaiting) (.inl rfl)
  | resolve paykit review unresolved resolved first queued pinned =>
      exact .resolved review rfl resolved.payment
  | routeMismatch watching unbound paykit open_payment outside untracked unresolved froze =>
      exact .of_decided (open_payment.imp id .inr) (.inl rfl)
  | routeLate watching unbound paykit open_payment outside untracked froze swapped late =>
      exact .of_decided (open_payment.imp id .inr) late.decided.payment
  | detect rail pending => exact .kept rfl fun _ => rfl
  | refresh rail request amount => exact .kept rfl fun _ => rfl
  | enterWindow rail entry reported awaiting froze first extended => exact .kept rfl fun _ => rfl
  | sandbox sandbox target_ok unconfirmed acquired =>
      have unsettled : standing.payment = .awaitingEntitlement ∨ standing.payment = .detected := by
        cases state : standing.payment <;> simp [state, sandboxTargets] at target_ok ⊢
      rcases acquired with taken | ⟨-, rfl⟩
      · obtain ⟨held, rfl, -, -⟩ := taken.frame
        exact .sandbox sandbox sandbox unsettled
      · exact .sandbox sandbox sandbox unsettled
  | sandboxSettle sandbox open_payment acquired settled =>
      exact .of_decided (open_payment.imp id .inl) settled.decided.payment
  | prepareLocks unbound unlocked pending awaiting priced acquired =>
      obtain ⟨held, rfl, -, -⟩ := acquired.frame
      exact .kept rfl (by simp [awaiting])
  | registerLocks locks =>
      exact .kept rfl fun _ => (coherent.locks.mp locks).symm

def Standing.Sent (standing : Standing) : Prop :=
  standing.activation = some .active → standing.request ≠ some .preparing

theorem Decided.sent (decided : Decided standing done) (sent : standing.Sent) : done.Sent := by
  obtain ⟨state, held, payment, receipt, rfl, -⟩ := decided
  exact sent

theorem Move.sent (sent : standing.Sent)
    (move : Move references now inventory standing action returned after done) : done.Sent := by
  intro active preparing
  cases move with
  | stay => exact sent active preparing
  | bindFiat known chosen unbound pending awaiting unlocked acquired => cases preparing
  | bindBitcoin chosen prepared unbound pending awaiting unlocked acquired => cases active
  | activate answer waiting => cases preparing
  | track answer current voided settled =>
      split at preparing
      · rw [Standing.lapse_request] at preparing
        cases preparing
      · cases preparing
  | voidPrepare answer voids shows_row waiting released => cases active
  | dropRequest waiting settled => cases preparing
  | expirePreparing answer shows_row waiting released => cases preparing
  | expireHeld shows_row pending held settled outside open_payment released =>
      obtain ⟨payment, same, -, -⟩ := standing.lapse_frame
      rw [same] at active preparing
      exact sent active preparing
  | expireIdle pending free unbound single unstamped awaiting => exact sent active preparing
  | cancelPending shows_row pending outside released =>
      obtain ⟨payment, -, same | ⟨waiting, same⟩⟩ := standing.endRequest_cases
      · rw [same] at active preparing
        exact sent active preparing
      · rw [same] at preparing
        cases preparing
  | cancelPaid shows_row paid returned => exact sent active preparing
  | requestCancel paid => exact sent active preparing
  | approveCancel shows_row requested releasable returned => exact sent active preparing
  | fulfil command paid ended ready label recorded => exact sent active preparing
  | settle rail awaiting settled => exact settled.decided.sent sent active preparing
  | late rail money expired late => exact late.decided.sent sent active preparing
  | settlePoll rail awaiting gate settled froze => cases preparing
  | latePoll rail money open_payment outside froze late =>
      rw [late.decided.request] at preparing
      cases preparing
  | fallback advanced froze => cases preparing
  | confirmSeller window awaiting confirmed froze first queued pinned => cases preparing
  | windowLapsed request awaiting opened due froze => cases preparing
  | resolve paykit review unresolved resolved first queued pinned =>
      rcases resolved.outcome with decided | ⟨payment, state, held, refund, rfl, -⟩
      · exact decided.sent sent active preparing
      · exact sent active preparing
  | routeMismatch watching unbound paykit open_payment outside untracked unresolved froze =>
      cases preparing
  | routeLate watching unbound paykit open_payment outside untracked froze swapped late =>
      rw [late.decided.request, swapped.eq] at preparing
      cases preparing
  | detect rail pending => cases preparing
  | refresh rail request amount => exact sent active preparing
  | enterWindow rail entry reported awaiting froze first extended => cases preparing
  | sandbox sandbox target_ok unconfirmed acquired =>
      rcases acquired with taken | ⟨-, rfl⟩
      · obtain ⟨held, rfl, -, -⟩ := taken.frame
        exact sent active preparing
      · exact sent active preparing
  | sandboxSettle sandbox open_payment acquired settled =>
      rcases acquired with taken | ⟨-, rfl⟩
      · obtain ⟨held, rfl, -, -⟩ := taken.frame
        exact settled.decided.sent sent active preparing
      · exact settled.decided.sent sent active preparing
  | prepareLocks unbound unlocked pending awaiting priced acquired =>
      obtain ⟨held, rfl, -, -⟩ := acquired.frame
      exact sent active preparing
  | registerLocks locks => exact sent active preparing

end Moves

end MarketplaceService
