import MarketplaceService.Rulings

/-!
The seller window from the outside and from the inside. A window is entered by
one kind of report; an order inside it is left alone, refreshed by the poll, or
taken out of it by the seller, by the reaper of lapsed windows, or by the second
transaction of a report whose confirmation was refused before the window opened.
-/

namespace MarketplaceService

def Cell.inWindow (cell : Cell) : Prop :=
  cell.book.order.paykitRequestState = some .awaitingSellerConfirmation

instance (cell : Cell) : Decidable cell.inWindow :=
  inferInstanceAs (Decidable (_ = _))

inductive InsideMove (now : Time) (inventory : Inventory) (standing : Standing) :
    OrderAction → Inventory → Standing → Prop
  | kept {action : OrderAction} : InsideMove now inventory standing action inventory standing
  | refreshed {action : OrderAction} {seen : Observation} (rail : action.rail = some .poll)
      (amount : action.reportedSats = some seen.observedSats ∨ action.reportsGone = true ∧
        ∃ old ∈ standing.sighting.observation, seen.observedSats = old.observedSats) :
      InsideMove now inventory standing action inventory
        { standing with sighting.observation := some seen }
  | confirmed {order : Order} {after : Inventory} {done : Standing}
      (confirmed : Confirm now order inventory standing after done) :
      InsideMove now inventory standing (.confirmBitcoin order) after
        { done.report standing.sighting.observation standing.coalesced with
          ruling.confirmation := some (sellerConfirmationRow order now)
          ruling.outbox := order.paykitInvoiceId }
  | lapsed {window : SellerWindow} (opened : standing.sighting.window = some window)
      (due : window.deadline ≤ now) :
      InsideMove now inventory standing .routeSellerWindow inventory
        ((standing.pay .manualReview).report standing.sighting.observation standing.coalesced)
  | refused {action : OrderAction} {after : Inventory} {done : Standing}
      {seen : Option Observation} {observed : Option ℕ} (fallback : action.isFallback = true)
      (settled : Settle now inventory standing after done) :
      InsideMove now inventory standing action after (done.report seen observed)

inductive EnterMove (now : Time) (inventory : Inventory) (standing : Standing)
    (action : OrderAction) : Inventory → Standing → Prop
  | intro {seen : Observation} {observed : Option ℕ}
      (entry : action.entersWindow = some seen.amountMatched)
      (reported : standing.request = some .pending ∨ standing.request = some .detected)
      (awaiting : standing.payment = .awaitingEntitlement)
      (froze : standing.Freezes observed)
      (first : observed = standing.sighting.observed.or seen.observedSats) :
      EnterMove now inventory standing action
        (standing.terms.extend (now + sellerConfirmationWindowSeconds) inventory)
        { standing with
          request := some .awaitingSellerConfirmation
          sighting :=
            { observation := some seen
              observed := observed
              window := some
                { enteredAt := now, deadline := now + sellerConfirmationWindowSeconds } } }

section Window

variable {references : References} {now : Time} {inventory after : Inventory}
  {standing done : Standing} {action : OrderAction} {returned : List Line}

theorem Move.inside (coherent : Coherent standing) (speaks : Speaks action standing)
    (window : standing.request = some .awaitingSellerConfirmation)
    (move : Move references now inventory standing action returned after done) :
    InsideMove now inventory standing action after done := by
  obtain ⟨bound, awaiting⟩ := coherent.window window
  have pending := (coherent.open_payment bound awaiting).1
  have active := coherent.active bound _ window (by simp)
  have adapter := coherent.bitcoin.mp bound
  have unprepared (preparing : standing.activation = some .preparing) : False := by
    rw [active] at preparing
    cases preparing
  have unbound {absent : Prop} (none_bound : standing.method = none) : absent := by
    rw [bound] at none_bound
    cases none_bound
  cases move with
  | stay => exact .kept
  | bindFiat known chosen none_bound => exact unbound none_bound
  | bindBitcoin chosen prepared none_bound => exact unbound none_bound
  | activate answer preparing => exact (unprepared preparing).elim
  | track answer current voided settled => exact absurd pending settled
  | voidPrepare answer voids shows_row preparing released => exact (unprepared preparing).elim
  | dropRequest preparing settled => exact (unprepared preparing).elim
  | expirePreparing answer shows_row preparing released => exact (unprepared preparing).elim
  | expireHeld shows_row pending held settled outside open_payment released =>
      exact absurd window outside
  | expireIdle pending free none_bound => exact unbound none_bound
  | cancelPending shows_row pending outside released => exact absurd window outside
  | cancelPaid shows_row paid returned =>
      rcases paid with same | same <;> rw [pending] at same <;> cases same
  | requestCancel paid =>
      rcases paid with same | same | same <;> rw [pending] at same <;> cases same
  | approveCancel shows_row requested releasable returned =>
      rw [pending] at requested
      cases requested
  | fulfil command paid ended ready label recorded => simp [pending] at paid
  | settle rail waiting settled => exact absurd bound (coherent.spoken_method speaks rail)
  | late rail money expired late =>
      rw [awaiting] at expired
      cases expired
  | settlePoll rail waiting gate settled froze =>
      rcases gate with outside | fallback
      · exact absurd window outside
      · exact .refused fallback settled
  | latePoll rail money open_payment outside froze late => exact absurd window outside
  | fallback advanced froze => exact absurd awaiting advanced
  | confirmSeller inside waiting confirmed froze first queued pinned => exact .confirmed confirmed
  | windowLapsed request waiting opened due froze => exact .lapsed opened due
  | resolve paykit review unresolved resolved first queued pinned =>
      rw [awaiting] at review
      cases review
  | routeMismatch watching unbound paykit open_payment outside untracked unresolved froze =>
      exact absurd window outside
  | routeLate watching unbound paykit open_payment outside untracked froze swapped late =>
      exact absurd window outside
  | detect rail waiting =>
      rw [window] at waiting
      cases waiting
  | refresh rail request amount => exact .refreshed rail amount
  | enterWindow rail entry reported waiting froze first extended =>
      rcases reported with same | same <;> rw [window] at same <;> cases same
  | sandbox sandbox target_ok unconfirmed acquired =>
      rw [adapter] at sandbox
      cases sandbox
  | sandboxSettle sandbox open_payment acquired settled =>
      rw [adapter] at sandbox
      cases sandbox
  | prepareLocks none_bound => exact unbound none_bound
  | registerLocks locks =>
      have locked := coherent.locks.mp locks
      rw [adapter] at locked
      cases locked

theorem Acquire.request (acquired : Acquire inventory standing after done) :
    done.request = standing.request := by
  obtain ⟨held, rfl, -, -⟩ := acquired.frame
  rfl

theorem Standing.lapse_request (standing : Standing) :
    standing.lapse.request = standing.request := by
  obtain ⟨payment, same, -, -⟩ := standing.lapse_frame
  rw [same]
  rfl

theorem Move.enters (outside : standing.request ≠ some .awaitingSellerConfirmation)
    (inside : done.request = some .awaitingSellerConfirmation)
    (move : Move references now inventory standing action returned after done) :
    EnterMove now inventory standing action after done := by
  have kept {entered : Prop} (same : done.request = standing.request) : entered :=
    absurd (same.symm.trans inside) outside
  cases move with
  | enterWindow rail entry reported awaiting froze first extended =>
      subst extended
      exact .intro entry reported awaiting froze first
  | stay => exact kept rfl
  | bindFiat known chosen none_bound pending awaiting unlocked acquired => cases inside
  | bindBitcoin chosen prepared none_bound pending awaiting unlocked acquired => cases inside
  | activate answer preparing => cases inside
  | track answer current voided settled =>
      split at inside
      · rw [Standing.lapse_request] at inside
        cases inside
      · cases inside
  | voidPrepare answer voids shows_row preparing released => cases inside
  | dropRequest preparing settled => cases inside
  | expirePreparing answer shows_row preparing released => cases inside
  | expireHeld shows_row pending held settled out open_payment released =>
      exact kept standing.lapse_request
  | expireIdle pending free none_bound single unstamped awaiting => exact kept rfl
  | cancelPending shows_row pending out released =>
      obtain ⟨payment, -, same | ⟨preparing, same⟩⟩ := standing.endRequest_cases
      · rw [same] at inside
        exact absurd inside out
      · rw [same] at inside
        cases inside
  | cancelPaid shows_row paid returned => exact kept rfl
  | requestCancel paid => exact kept rfl
  | approveCancel shows_row requested releasable returned => exact kept rfl
  | fulfil command paid ended ready label recorded => exact kept rfl
  | settle rail waiting settled => exact kept settled.decided.request
  | late rail money expired late => exact kept late.decided.request
  | settlePoll rail waiting gate settled froze => cases inside
  | latePoll rail money open_payment out froze late =>
      rw [late.decided.request] at inside
      cases inside
  | fallback advanced froze => cases inside
  | confirmSeller window waiting confirmed froze first queued pinned => exact absurd window outside
  | windowLapsed request waiting opened due froze => cases inside
  | resolve paykit review unresolved resolved first queued pinned =>
      rcases resolved.outcome with decided | ⟨payment, state, held, refund, rfl, -⟩
      · exact kept decided.request
      · exact kept rfl
  | routeMismatch watching unbound paykit open_payment out untracked unresolved froze =>
      cases inside
  | routeLate watching unbound paykit open_payment out untracked froze swapped late =>
      rw [late.decided.request, swapped.eq] at inside
      cases inside
  | detect rail waiting => cases inside
  | refresh rail request amount => exact absurd request outside
  | sandbox sandbox target_ok unconfirmed acquired =>
      rcases acquired with taken | ⟨-, rfl⟩
      · exact kept taken.request
      · exact kept rfl
  | sandboxSettle sandbox open_payment acquired settled =>
      rcases acquired with taken | ⟨-, rfl⟩
      · exact kept (settled.decided.request.trans taken.request)
      · exact kept settled.decided.request
  | prepareLocks none_bound unlocked pending awaiting priced acquired =>
      exact kept acquired.request
  | registerLocks locks => exact kept rfl

end Window

end MarketplaceService
