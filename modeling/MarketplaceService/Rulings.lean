import MarketplaceService.Cells
import MarketplaceService.Receipts

/-!
What the seller's decisions leave, over the life of an order. The amount
frozen on an order is positive, the seller window is open exactly while the
request waits for the seller, and an audit row belongs to a payment that was
decided: a confirmed payment stays confirmed, a resolved one keeps its outcome.
So a payment under review has no ruling yet.
-/

namespace MarketplaceService

structure Sighted (standing : Standing) : Prop where
  positive : ∀ sats ∈ standing.sighting.observed, 0 < sats
  window : standing.sighting.window.isSome = true ↔
    standing.request = some .awaitingSellerConfirmation

structure Ruled (standing : Standing) : Prop where
  confirmation : standing.ruling.confirmation.isSome = true →
    standing.payment = .confirmed ∧ standing.resolved = false
  resolution : standing.ruling.resolution.isSome = true ↔ standing.resolved = true
  decided : standing.resolved = true →
    standing.payment = .confirmed ∨ standing.payment = .expired
  outbox : standing.ruling.outbox.isSome = true ↔
    standing.ruling.confirmation.isSome = true ∨ standing.ruling.resolution.isSome = true

theorem Ruled.unruled {standing : Standing} (ruled : Ruled standing)
    (unconfirmed : standing.payment ≠ .confirmed) (unexpired : standing.payment ≠ .expired) :
    standing.ruling = { confirmation := none, resolution := none, outbox := none } := by
  have no_confirmation : standing.ruling.confirmation.isSome ≠ true :=
    fun present => unconfirmed (ruled.confirmation present).1
  have no_resolution : standing.ruling.resolution.isSome ≠ true := by
    intro present
    rcases ruled.decided (ruled.resolution.mp present) with same | same
    · exact unconfirmed same
    · exact unexpired same
  have no_outbox : standing.ruling.outbox.isSome ≠ true := by
    intro present
    rcases ruled.outbox.mp present with confirmed | resolved
    · exact no_confirmation confirmed
    · exact no_resolution resolved
  have confirmation := Option.not_isSome_iff_eq_none.mp no_confirmation
  have resolution := Option.not_isSome_iff_eq_none.mp no_resolution
  have outbox := Option.not_isSome_iff_eq_none.mp no_outbox
  rw [← confirmation, ← resolution, ← outbox]

/-- A step that rules on nothing: the audit rows stay, and so does a payment
that is decided. -/
structure Undecided (before after : Standing) : Prop where
  ruling : after.ruling = before.ruling
  resolved : after.resolved = before.resolved
  confirmed : before.payment = .confirmed → after.payment = .confirmed
  closed : before.resolved = true → before.payment = .expired → after.payment = .expired

namespace Undecided

variable {first second third : Standing}

/-- The payment row is not written. -/
theorem of_same (ruling : second.ruling = first.ruling)
    (resolved : second.resolved = first.resolved)
    (payment : second.payment = first.payment) : Undecided first second :=
  ⟨ruling, resolved, fun confirmed => payment.trans confirmed, fun _ expired =>
    payment.trans expired⟩

/-- A payment that was neither confirmed nor resolved may go anywhere. -/
theorem of_open (ruling : second.ruling = first.ruling)
    (resolved : second.resolved = first.resolved)
    (open_payment : first.payment ≠ .confirmed)
    (unresolved : first.payment = .expired → first.resolved = false) : Undecided first second := by
  refine ⟨ruling, resolved, fun confirmed => absurd confirmed open_payment, ?_⟩
  intro closed expired
  rw [unresolved expired] at closed
  cases closed

theorem trans (left : Undecided first second) (right : Undecided second third) :
    Undecided first third where
  ruling := right.ruling.trans left.ruling
  resolved := right.resolved.trans left.resolved
  confirmed paid := right.confirmed (left.confirmed paid)
  closed ruled expired := right.closed (left.resolved.trans ruled) (left.closed ruled expired)

theorem tidied (tidied : first.Tidied second) : Undecided first second := by
  rw [tidied.eq]
  exact .of_same rfl rfl rfl

theorem ruled (undecided : Undecided first second) (ruled : Ruled first) : Ruled second := by
  obtain ⟨ruling, resolved, confirmed, closed⟩ := undecided
  constructor
  · intro present
    rw [ruling] at present
    obtain ⟨paid, open_review⟩ := ruled.confirmation present
    exact ⟨confirmed paid, resolved.trans open_review⟩
  · rw [ruling, resolved]
    exact ruled.resolution
  · intro ended
    rw [resolved] at ended
    rcases ruled.decided ended with paid | expired
    · exact .inl (confirmed paid)
    · exact .inr (closed ended expired)
  · rw [ruling]
    exact ruled.outbox

end Undecided

theorem Decided.undecided {before after : Standing} (decided : Decided before after)
    (open_payment : before.payment ≠ .confirmed)
    (unresolved : before.payment = .expired → before.resolved = false) :
    Undecided before after := by
  obtain ⟨state, held, payment, receipt, rfl, -⟩ := decided
  exact .of_open rfl rfl open_payment unresolved

theorem Acquire.undecided {inventory after : Inventory} {standing done : Standing}
    (acquired : Acquire inventory standing after done) : Undecided standing done := by
  obtain ⟨held, rfl, -, -⟩ := acquired.frame
  exact .of_same rfl rfl rfl

theorem Standing.lapse_undecided (standing : Standing) : Undecided standing standing.lapse := by
  unfold Standing.lapse
  split
  · rename_i awaiting
    exact .of_open rfl rfl (by simp [awaiting]) (by simp [awaiting])
  · exact .of_same rfl rfl rfl

theorem Standing.endRequest_undecided (standing : Standing) :
    Undecided standing standing.endRequest := by
  unfold Standing.endRequest
  split
  · split
    · exact standing.lapse_undecided.trans (.of_same rfl rfl rfl)
    · exact standing.lapse_undecided
  · exact .of_same rfl rfl rfl

/-- What a move does to the rulings: nothing, or it is the seller's
confirmation or a resolution of a review, each with its audit row and its
resolve row. -/
inductive Decision (now : Time) (inventory : Inventory) (standing : Standing) (after : Inventory) :
    Standing → Prop
  | undecided {done : Standing} (same : Undecided standing done) :
      Decision now inventory standing after done
  | confirmed {order : Order} {done : Standing}
      (window : standing.request = some .awaitingSellerConfirmation)
      (awaiting : standing.payment = .awaitingEntitlement)
      (confirmed : Confirm now order inventory standing after done)
      (pinned : order.paykitPins.isSome = true) :
      Decision now inventory standing after
        { done.report standing.sighting.observation standing.coalesced with
          ruling.confirmation := some (sellerConfirmationRow order now)
          ruling.outbox := order.paykitInvoiceId }
  | resolved {done : Standing} {row : ManualResolution}
      (review : standing.payment = .manualReview)
      (resolved : Resolve now inventory standing after done)
      (pinned : standing.pins.isSome = true) :
      Decision now inventory standing after
        { done with
          resolved := true
          ruling.resolution := some row
          ruling.outbox := standing.invoice }

theorem Move.decision {references : References} {now : Time} {inventory after : Inventory}
    {standing done : Standing} {action : OrderAction} {returned : List Line}
    (coherent : Coherent standing)
    (move : Move references now inventory standing action returned after done) :
    Decision now inventory standing after done := by
  have open_case (open_payment : standing.payment = .awaitingEntitlement ∨
      standing.payment = .expired) : standing.payment ≠ .confirmed := by
    rcases open_payment with same | same <;> simp [same]
  cases move with
  | stay => exact .undecided (.of_same rfl rfl rfl)
  | bindFiat known chosen unbound pending awaiting unlocked acquired =>
      apply Decision.undecided
      exact acquired.undecided.trans (.of_same rfl rfl rfl)
  | bindBitcoin chosen prepared unbound pending awaiting unlocked acquired =>
      apply Decision.undecided
      exact acquired.undecided.trans (.of_same rfl rfl rfl)
  | activate answer preparing => exact .undecided (.of_same rfl rfl rfl)
  | track answer current voided settled =>
      apply Decision.undecided
      split
      · have activates : Undecided standing standing.activate := .of_same rfl rfl rfl
        exact activates.trans (Standing.lapse_undecided _)
      · exact .of_same rfl rfl rfl
  | voidPrepare answer voids shows_row preparing released => exact .undecided (.of_same rfl rfl rfl)
  | dropRequest preparing settled => exact .undecided (.of_same rfl rfl rfl)
  | expirePreparing answer shows_row preparing released =>
      apply Decision.undecided
      have awaiting := (coherent.preparing preparing).2.1
      exact .of_open rfl rfl (by simp [awaiting]) (by simp [awaiting])
  | expireHeld shows_row pending held settled outside open_payment released =>
      apply Decision.undecided
      exact standing.lapse_undecided.trans (.of_same rfl rfl rfl)
  | expireIdle pending free unbound single unstamped awaiting =>
      apply Decision.undecided
      exact .of_open rfl rfl (by simp [awaiting]) (by simp [awaiting])
  | cancelPending shows_row pending outside released =>
      apply Decision.undecided
      exact standing.endRequest_undecided.trans (.of_same rfl rfl rfl)
  | cancelPaid shows_row paid returned => exact .undecided (.of_same rfl rfl rfl)
  | requestCancel paid => exact .undecided (.of_same rfl rfl rfl)
  | approveCancel shows_row requested releasable returned => exact .undecided (.of_same rfl rfl rfl)
  | fulfil command paid ended ready label recorded => exact .undecided (.of_same rfl rfl rfl)
  | settle rail awaiting settled =>
      apply Decision.undecided
      exact settled.decided.undecided (by simp [awaiting]) (by simp [awaiting])
  | late rail money expired late =>
      apply Decision.undecided
      exact late.decided.undecided (by simp [expired]) fun _ => late.unresolved
  | settlePoll rail awaiting gate settled froze =>
      apply Decision.undecided
      refine (settled.decided.undecided (by simp [awaiting]) (by simp [awaiting])).trans ?_
      exact .of_same rfl rfl rfl
  | @latePoll _ _ _ seen observed rail money open_payment outside froze late =>
      apply Decision.undecided
      have reports : Undecided standing (standing.report seen observed) := .of_same rfl rfl rfl
      refine reports.trans (late.decided.undecided (open_case open_payment) ?_)
      exact fun _ => late.unresolved
  | fallback advanced froze => exact .undecided (.of_same rfl rfl rfl)
  | confirmSeller window awaiting confirmed froze first queued pinned =>
      exact .confirmed window awaiting confirmed pinned
  | windowLapsed request awaiting opened due froze =>
      apply Decision.undecided
      exact .of_open rfl rfl (by simp [awaiting]) (by simp [awaiting])
  | resolve paykit review unresolved resolved first queued pinned =>
      exact .resolved review resolved pinned
  | routeMismatch watching unbound paykit open_payment outside untracked unresolved froze =>
      apply Decision.undecided
      exact .of_open rfl rfl (open_case open_payment) fun _ => unresolved
  | @routeLate _ _ pins reference _ restored _ seen observed watching unbound paykit open_payment
      outside untracked froze swapped late =>
      apply Decision.undecided
      have restores : Undecided standing (standing.restore pins reference seen observed) :=
        .of_same rfl rfl rfl
      refine (restores.trans (.tidied swapped)).trans
        (late.decided.undecided ?_ fun _ => late.unresolved)
      rw [swapped.eq]
      exact open_case open_payment
  | detect rail pending => exact .undecided (.of_same rfl rfl rfl)
  | refresh rail request amount => exact .undecided (.of_same rfl rfl rfl)
  | enterWindow rail entry reported awaiting froze first extended =>
      exact .undecided (.of_same rfl rfl rfl)
  | sandbox sandbox target_ok unconfirmed acquired =>
      apply Decision.undecided
      have open_payment : standing.payment ≠ .confirmed ∧ standing.payment ≠ .expired := by
        constructor <;> intro same <;> simp [same, sandboxTargets] at target_ok
      have unresolved (expired : standing.payment = .expired) : standing.resolved = false :=
        absurd expired open_payment.2
      rcases acquired with taken | ⟨-, rfl⟩
      · obtain ⟨held, rfl, -, -⟩ := taken.frame
        exact .of_open rfl rfl open_payment.1 unresolved
      · exact .of_open rfl rfl open_payment.1 unresolved
  | sandboxSettle sandbox open_payment acquired settled =>
      apply Decision.undecided
      have unconfirmed : standing.payment ≠ .confirmed ∧ standing.payment ≠ .expired := by
        rcases open_payment with same | same <;> simp [same]
      rcases acquired with taken | ⟨-, rfl⟩
      · refine taken.undecided.trans (settled.decided.undecided ?_ ?_)
        · obtain ⟨held, rfl, -, -⟩ := taken.frame
          exact unconfirmed.1
        · obtain ⟨held, rfl, -, -⟩ := taken.frame
          exact fun expired => absurd expired unconfirmed.2
      · refine settled.decided.undecided unconfirmed.1 ?_
        exact fun expired => absurd expired unconfirmed.2
  | prepareLocks unbound unlocked pending awaiting priced acquired =>
      apply Decision.undecided
      exact acquired.undecided.trans (.of_same rfl rfl rfl)
  | registerLocks locks => exact .undecided (.of_same rfl rfl rfl)

theorem Resolve.payment {now : Time} {inventory after : Inventory} {standing done : Standing}
    (resolved : Resolve now inventory standing after done) :
    done.payment = .confirmed ∨ done.payment = .expired := by
  cases resolved with
  | intact shows_row pending present confirmed =>
      cases confirmed
      exact .inl rfl
  | retaken shows_row open_order lost retaken =>
      obtain ⟨-, -, -, confirmed⟩ := retaken
      cases confirmed
      exact .inl rfl
  | gaveBack shows_row pending closed released =>
      cases closed with
      | refunded refund => exact .inl rfl
      | abandoned => exact .inr rfl
  | closed cancelled closed =>
      cases closed with
      | refunded refund => exact .inl rfl
      | abandoned => exact .inr rfl

theorem Move.ruled {references : References} {now : Time} {inventory after : Inventory}
    {standing done : Standing} {action : OrderAction} {returned : List Line}
    (coherent : Coherent standing) (ruled : Ruled standing)
    (move : Move references now inventory standing action returned after done) : Ruled done := by
  cases move.decision coherent with
  | undecided same => exact same.ruled ruled
  | confirmed window awaiting confirmed pinned =>
      have unresolved : standing.resolved = false := by
        cases ended : standing.resolved with
        | false => rfl
        | true =>
            rcases ruled.decided ended with same | same <;> rw [awaiting] at same <;> cases same
      obtain ⟨terms, payable, deliverable, unpaid, stocked⟩ := confirmed
      constructor
      · exact fun _ => ⟨rfl, unresolved⟩
      · exact ruled.resolution
      · intro ended
        rw [show standing.resolved = true from ended] at unresolved
        cases unresolved
      · refine ⟨fun _ => .inl rfl, fun _ => ?_⟩
        simpa [Order.paykitInvoiceId] using pinned
  | resolved review resolved pinned =>
      have unconfirmed : standing.ruling.confirmation.isSome ≠ true := by
        intro present
        have confirmed := (ruled.confirmation present).1
        rw [review] at confirmed
        cases confirmed
      have same := resolved.ruling
      constructor
      · intro present
        simp only [same] at present
        exact absurd present unconfirmed
      · exact ⟨fun _ => rfl, fun _ => rfl⟩
      · exact fun _ => resolved.payment
      · refine ⟨fun _ => .inr rfl, fun _ => ?_⟩
        simpa [Standing.invoice] using pinned

/-! What was seen of the money. -/

namespace Sighted

variable {standing done : Standing}

/-- Neither the sighting nor the request is written. -/
theorem of_same (sighted : Sighted standing) (same : done.sighting = standing.sighting)
    (request : done.request = standing.request) : Sighted done := by
  constructor
  · rw [same]
    exact sighted.positive
  · rw [same, request]
    exact sighted.window

theorem of_outside (sighted : Sighted standing) (same : done.sighting = standing.sighting)
    (before : standing.request ≠ some .awaitingSellerConfirmation)
    (after : done.request ≠ some .awaitingSellerConfirmation) : Sighted done := by
  constructor
  · rw [same]
    exact sighted.positive
  · rw [same]
    exact ⟨fun opened => absurd (sighted.window.mp opened) before, fun still => absurd still after⟩

theorem of_report {observed : Option ℕ} (froze : standing.Freezes observed)
    (sighting : done.sighting.observed = observed ∧ done.sighting.window = none)
    (request : done.request = some .confirmed) : Sighted done := by
  constructor
  · rw [sighting.1]
    exact froze.positive
  · simp [sighting.2, request]

theorem tidied {tidy : Standing} (sighted : Sighted standing) (tidied : standing.Tidied tidy) :
    Sighted tidy := by
  have same := tidied.eq
  exact sighted.of_same (by rw [same]) (by rw [same])

end Sighted

theorem Decided.request {before after : Standing} (decided : Decided before after) :
    after.request = before.request := by
  obtain ⟨state, held, payment, receipt, rfl, -⟩ := decided
  rfl

theorem Decided.sighted {before after : Standing} (decided : Decided before after)
    (sighted : Sighted before) : Sighted after :=
  sighted.of_same decided.sighting decided.request

theorem Acquire.sighted {inventory after : Inventory} {standing done : Standing}
    (acquired : Acquire inventory standing after done) (sighted : Sighted standing) :
    Sighted done := by
  obtain ⟨held, rfl, -, -⟩ := acquired.frame
  exact sighted.of_same rfl rfl

theorem Move.sighted {references : References} {now : Time} {inventory after : Inventory}
    {standing done : Standing} {action : OrderAction} {returned : List Line}
    (coherent : Coherent standing) (sighted : Sighted standing)
    (move : Move references now inventory standing action returned after done) : Sighted done := by
  have unasked (pending : standing.state = .pendingPayment) (unbound : standing.method = none) :
      standing.request ≠ some .awaitingSellerConfirmation := by
    rw [(coherent.idle pending (by simp [unbound])).1]
    simp
  have unsettled (preparing : standing.activation = some .preparing) :
      standing.request ≠ some .awaitingSellerConfirmation := by
    rw [(coherent.preparing preparing).2.2]
    simp
  cases move with
  | stay => exact sighted
  | bindFiat known chosen unbound pending awaiting unlocked acquired =>
      have outside := unasked pending unbound
      obtain ⟨held, rfl, -, -⟩ := acquired.frame
      exact sighted.of_outside rfl outside (by simp [Standing.bind])
  | bindBitcoin chosen prepared unbound pending awaiting unlocked acquired =>
      have outside := unasked pending unbound
      obtain ⟨held, rfl, -, -⟩ := acquired.frame
      exact sighted.of_outside rfl outside (by simp [Standing.bind, Standing.prepare])
  | activate answer preparing =>
      exact sighted.of_outside rfl (unsettled preparing) (by simp [Standing.activate])
  | track answer current voided settled =>
      have outside : standing.request ≠ some .awaitingSellerConfirmation := by
        intro window
        have active := coherent.active (coherent.window window).1 _ window (by simp)
        rw [voided] at active
        cases active
      have activated : Sighted standing.activate :=
        sighted.of_outside rfl outside (by simp [Standing.activate])
      split
      · obtain ⟨payment, same, -, -⟩ := standing.activate.lapse_frame
        rw [same]
        exact activated.of_same rfl rfl
      · exact activated
  | voidPrepare answer voids shows_row preparing released =>
      exact sighted.of_outside rfl (unsettled preparing) (by simp [Standing.voidPrepare])
  | dropRequest preparing settled =>
      exact sighted.of_outside rfl (unsettled preparing) (by simp [Standing.dropRequest])
  | expirePreparing answer shows_row preparing released =>
      exact sighted.of_outside rfl (unsettled preparing) (by simp [Standing.dropRequest])
  | expireHeld shows_row pending held settled outside open_payment released =>
      obtain ⟨payment, same, -, -⟩ := standing.lapse_frame
      rw [same]
      exact sighted.of_same rfl rfl
  | expireIdle pending free unbound single unstamped awaiting => exact sighted.of_same rfl rfl
  | cancelPending shows_row pending outside released =>
      obtain ⟨payment, -, same | ⟨preparing, same⟩⟩ := standing.endRequest_cases
      · rw [same]
        exact sighted.of_same rfl rfl
      · rw [same]
        exact sighted.of_outside rfl outside (by simp [Standing.close, Standing.dropRequest])
  | cancelPaid shows_row paid returned => exact sighted.of_same rfl rfl
  | requestCancel paid => exact sighted.of_same rfl rfl
  | approveCancel shows_row requested releasable returned => exact sighted.of_same rfl rfl
  | fulfil command paid ended ready label recorded => exact sighted.of_same rfl rfl
  | settle rail awaiting settled => exact settled.decided.sighted sighted
  | late rail money expired late => exact late.decided.sighted sighted
  | settlePoll rail awaiting gate settled froze => exact .of_report froze ⟨rfl, rfl⟩ rfl
  | @latePoll _ _ _ seen observed rail money open_payment outside froze late =>
      have reported : Sighted (standing.report seen observed) := .of_report froze ⟨rfl, rfl⟩ rfl
      exact late.decided.sighted reported
  | fallback advanced froze => exact .of_report froze ⟨rfl, rfl⟩ rfl
  | confirmSeller window awaiting confirmed froze first queued pinned =>
      exact .of_report froze ⟨rfl, rfl⟩ rfl
  | windowLapsed request awaiting opened due froze => exact .of_report froze ⟨rfl, rfl⟩ rfl
  | resolve paykit review unresolved resolved first queued pinned =>
      rcases resolved.outcome with decided | ⟨payment, state, held, refund, rfl, -⟩
      · exact (decided.sighted sighted).of_same rfl rfl
      · exact sighted.of_same rfl rfl
  | routeMismatch watching unbound paykit open_payment outside untracked unresolved froze =>
      exact .of_report froze ⟨rfl, rfl⟩ rfl
  | @routeLate _ _ pins reference _ restored _ seen observed watching unbound paykit open_payment
      outside untracked froze swapped late =>
      have reported : Sighted (standing.restore pins reference seen observed) :=
        .of_report froze ⟨rfl, rfl⟩ rfl
      exact late.decided.sighted (reported.tidied swapped)
  | detect rail pending => exact sighted.of_outside rfl (by simp [pending]) (by simp)
  | refresh rail request amount => exact ⟨sighted.positive, sighted.window⟩
  | enterWindow rail entry reported awaiting froze first extended =>
      exact ⟨froze.positive, by simp⟩
  | sandbox sandbox target_ok unconfirmed acquired =>
      rcases acquired with taken | ⟨-, rfl⟩
      · exact (taken.sighted sighted).of_same rfl rfl
      · exact sighted.of_same rfl rfl
  | sandboxSettle sandbox open_payment acquired settled =>
      rcases acquired with taken | ⟨-, rfl⟩
      · exact settled.decided.sighted (taken.sighted sighted)
      · exact settled.decided.sighted sighted
  | prepareLocks unbound unlocked pending awaiting priced acquired =>
      exact (acquired.sighted sighted).of_same rfl rfl
  | registerLocks locks => exact sighted.of_same rfl rfl

/-! Over every run. -/

theorem Terms.start_ruled (terms : Terms) (held : Bool) : Ruled (terms.start held) := by
  constructor <;> simp [Terms.start]

theorem Terms.start_sighted (terms : Terms) (held : Bool) : Sighted (terms.start held) := by
  constructor <;> simp [Terms.start]

theorem reachable_ruled {references : References} {allowed : Sys → Action → Prop} {sys : Sys}
    (reached : Runs.Reachable (marketplace references) allowed sys) {id : OrderId} {cell : Cell}
    (found : sys.cells.find? id = some cell) :
    Ruled cell.book.standing ∧ Sighted cell.book.standing := by
  refine (cells_invariant (fun cell => Ruled cell.book.standing ∧ Sighted cell.book.standing)
    ?_ ?_ reached found).2
  · intro book fresh
    obtain ⟨held, start⟩ := fresh.standing
    change Ruled book.standing ∧ Sighted book.standing
    rw [start]
    exact ⟨Terms.start_ruled _ held, Terms.start_sighted _ held⟩
  · intro sys id now action cell inventory done found meets sound known ran
    obtain ⟨ruled, sighted⟩ := known
    obtain ⟨moved, move, tidied⟩ := (stepCell_steps sound ran).moves
    constructor
    · exact (Undecided.tidied tidied).ruled (move.ruled sound.coherent ruled)
    · exact (move.sighted sound.coherent sighted).tidied tidied

end MarketplaceService
