import MarketplaceService.Coherence
import MarketplaceService.Postings

/-!
What a move of an order posts to the stock ledger: exactly the change of what
the order holds and of what it has bought, less what it gives back. The one
exception is late money that takes part of its lines and then finds the rest
gone.
-/

namespace MarketplaceService

namespace Standing

/-- The units of a listing that the order holds unpaid. -/
def heldOn (standing : Standing) (id : ListingId) : ℕ :=
  if standing.held = true then linesOn id standing.terms.lines else 0

/-- The units of a listing that the order's receipt is for. -/
def boughtOn (standing : Standing) (id : ListingId) : ℕ :=
  if standing.receipt.isSome = true then linesOn id standing.terms.lines else 0

/-- Only a pending order outside an auction holds stock of its own. -/
def HoldsOwn (standing : Standing) : Prop :=
  standing.held = true → standing.state = .pendingPayment ∧ standing.terms.auction = none

end Standing

/-- The postings between two standings of an order that gave these lines back. -/
def Posts (standing done : Standing) (returned : List Line) : Inventory → Inventory → Prop :=
  Posted (fun id => done.heldOn id - standing.heldOn id)
    (fun id => done.boughtOn id - standing.boughtOn id - linesOn id returned)

section Posts

variable {inventory middle after : Inventory} {standing done : Standing} {now : Time}

/-- A move beside the stock keeps what the order holds and has bought. -/
theorem Posts.kept (terms : done.terms = standing.terms) (held : done.held = standing.held)
    (receipt : done.receipt = standing.receipt) : Posts standing done [] inventory inventory := by
  refine (Posted.refl inventory).congr ?_ ?_
  · intro id _
    simp [Standing.heldOn, terms, held]
  · intro id _
    simp [Standing.boughtOn, terms, receipt]

/-- The same stock, under a standing that holds and has bought the same. -/
theorem Posts.relabel {start last : Standing} {returned : List Line}
    (posts : Posts standing done returned inventory after)
    (first : start.terms = standing.terms ∧ start.held = standing.held ∧
      start.receipt = standing.receipt)
    (second : last.terms = done.terms ∧ last.held = done.held ∧ last.receipt = done.receipt) :
    Posts start last returned inventory after := by
  obtain ⟨terms, held, receipt⟩ := first
  obtain ⟨terms', held', receipt'⟩ := second
  refine Posted.congr posts ?_ ?_
  · intro id _
    simp [Standing.heldOn, terms, held, terms', held']
  · intro id _
    simp [Standing.boughtOn, terms, receipt, terms', receipt']

theorem Posts.after_nothing {returned : List Line}
    (first : Posted (fun _ => 0) (fun _ => 0) inventory middle)
    (posts : Posts standing done returned middle after) :
    Posts standing done returned inventory after :=
  Posted.after_nothing first posts

theorem Posts.trans {between : Standing} {returned : List Line}
    (first : Posts standing between [] inventory middle)
    (second : Posts between done returned middle after) :
    Posts standing done returned inventory after := by
  refine (Posted.trans first second).congr ?_ ?_
  · intro id _
    ring
  · intro id _
    simp only [linesOn_nil]
    push_cast
    ring

theorem Order.Shows.lines {order : Order} (shows_row : order.Shows standing) :
    order.lines = standing.terms.lines := congrArg Terms.lines shows_row.terms

theorem Order.Shows.auction {order : Order} (shows_row : order.Shows standing) :
    order.auctionAggregateId = standing.terms.auction := congrArg Terms.auction shows_row.terms

theorem Posts.of_release {order : Order} (shows_row : order.Shows standing)
    (owns : standing.HoldsOwn)
    (posted : Posted (fun id => if order.stockHeld = true ∧ order.auctionAggregateId = none then
      -linesOn id order.lines else 0) (fun _ => 0) inventory after)
    (terms : done.terms = standing.terms) (free : done.held = false)
    (receipt : done.receipt = standing.receipt) : Posts standing done [] inventory after := by
  refine posted.congr ?_ ?_
  · intro id _
    rw [shows_row.held, shows_row.auction, shows_row.lines]
    by_cases held : standing.held = true
    · simp [Standing.heldOn, held, free, (owns held).2]
    · simp [Standing.heldOn, held, free]
  · intro id _
    simp [Standing.boughtOn, terms, receipt]

theorem Acquire.posts (acquired : Acquire inventory standing after done) :
    Posts standing done [] inventory after := by
  cases acquired with
  | auction auctioned => exact .kept rfl rfl rfl
  | kept single pending held => exact .kept rfl rfl rfl
  | taken single pending free acquired =>
      refine (acquireLines_posted acquired).congr ?_ ?_
      · intro id _
        simp [Standing.heldOn, free]
      · intro id _
        simp [Standing.boughtOn]

theorem Refund.posts (owns : standing.HoldsOwn)
    (routed : Refund now inventory standing after done) :
    Posts standing done [] inventory after := by
  cases routed with
  | cancelled shows_row open_payment pending released =>
      exact .of_release shows_row owns (releaseHeld_posted released) rfl rfl rfl
  | kept open_payment settled => exact .kept rfl rfl rfl

theorem Confirm.posted {order : Order} (placed : Placed inventory standing.terms)
    (confirmed : Confirm now order inventory standing after done) :
    Posted (fun id => -linesOn id standing.terms.lines) (fun id => linesOn id standing.terms.lines)
        inventory after ∧
      (standing.terms.auction = none → order.stockHeld = true) ∧
      done.terms = standing.terms ∧ done.held = false ∧ done.receipt.isSome = true ∧
      standing.receipt = none := by
  obtain ⟨terms, payable, deliverable, unpaid, stocked⟩ := confirmed
  have lines : order.lines = standing.terms.lines := congrArg Terms.lines terms
  have auction : order.auctionAggregateId = standing.terms.auction := congrArg Terms.auction terms
  rw [← terms] at placed
  obtain ⟨posted, held⟩ := confirmStock_posted placed stocked
  rw [lines] at posted
  rw [auction] at held
  exact ⟨posted, held, rfl, rfl, rfl, unpaid⟩

theorem Confirm.posts {order : Order} (placed : Placed inventory standing.terms)
    (held : standing.terms.auction = none → order.stockHeld = true → standing.held = true)
    (confirmed : Confirm now order inventory standing after done) :
    Posts standing done [] inventory after := by
  obtain ⟨posted, own, terms, free, bought, unpaid⟩ := confirmed.posted placed
  refine posted.congr ?_ ?_
  · intro id counted
    cases auctioned : standing.terms.auction with
    | none =>
        simp [Standing.heldOn, free, held auctioned (own auctioned)]
    | some auction =>
        have nothing := placed.linesOn (by simp [auctioned]) counted
        simp [Standing.heldOn, free, nothing]
  · intro id _
    simp [Standing.boughtOn, bought, unpaid, terms]

theorem Retake.posts (placed : Placed inventory standing.terms) (free : standing.held = false)
    (retaken : Retake now inventory standing after done) :
    Posts standing done [] inventory after := by
  obtain ⟨shows_row, reacquired, stored, confirmed⟩ := retaken
  have first := placed
  rw [← shows_row.terms] at first
  have taken := reacquireStock_posted first reacquired
  rw [shows_row.lines] at taken
  obtain ⟨posted, -, terms, released, bought, unpaid⟩ := confirmed.posted (placed.posted taken)
  refine (taken.trans posted).congr ?_ ?_
  · intro id _
    simp [Standing.heldOn, free, released]
  · intro id _
    simp [Standing.boughtOn, bought, unpaid, terms]

/-- Late money finds all the stock of the order or none of it. -/
def WholeStock (inventory : Inventory) (standing : Standing) : Prop :=
  ∀ order : Order, order.Shows standing → unpinnable inventory order = false →
    ¬ (standing.state = .pendingPayment ∧ standing.held = true) → standing.resolved = false →
      ¬ TakesPart inventory order

theorem Late.posts (placed : Placed inventory standing.terms) (owns : standing.HoldsOwn)
    (whole : WholeStock inventory standing) (late : Late now inventory standing after done) :
    Posts standing done [] inventory after := by
  cases late with
  | undeliverable routed => exact routed.posts owns
  | held open_payment pending held => exact .kept rfl rfl rfl
  | completed unheld unresolved retaken =>
      refine retaken.posts placed ?_
      by_contra held
      have own : standing.held = true := by simpa using held
      exact unheld ⟨(owns own).1, own⟩
  | lost shows_row deliverable unheld failed routed =>
      have resolved : standing.resolved = false := by
        cases routed with
        | cancelled _ open_payment _ _ => exact open_payment.2
        | kept open_payment _ => exact open_payment.2
      have first := placed
      rw [← shows_row.terms] at first
      have nothing := reacquireStock_lost_posted first
        (whole _ shows_row deliverable unheld resolved) failed
      exact .after_nothing nothing (routed.posts owns)

theorem Settle.posts (placed : Placed inventory standing.terms) (owns : standing.HoldsOwn)
    (settled : Settle now inventory standing after done) :
    Posts standing done [] inventory after := by
  cases settled with
  | confirmed shows_row confirmed =>
      refine confirmed.posts placed fun _ held => ?_
      rw [← shows_row.held]
      exact held
  | refunded routed => exact routed.posts owns
  | reviewed => exact .kept rfl rfl rfl

theorem Resolve.posts (placed : Placed inventory standing.terms) (owns : standing.HoldsOwn)
    (resolved : Resolve now inventory standing after done) :
    Posts standing done [] inventory after := by
  cases resolved with
  | intact shows_row pending present confirmed =>
      refine confirmed.posts placed fun _ held => ?_
      rw [← shows_row.held]
      exact held
  | retaken shows_row open_order lost retaken =>
      refine retaken.posts placed ?_
      by_contra held
      have own : standing.held = true := by simpa using held
      apply lost
      refine ⟨(owns own).1, ?_⟩
      unfold holdPresent
      rw [shows_row.auction, (owns own).2]
      simp only
      rw [shows_row.held, own]
  | gaveBack shows_row pending closed released =>
      have first := placed
      rw [← shows_row.terms] at first
      exact .of_release shows_row owns (cancelledHold_posted first released) rfl rfl rfl
  | closed cancelled closed => exact .kept rfl rfl rfl

/-- The steps that reach `apply_late_money`. -/
inductive EntersLate (standing : Standing) : OrderAction → Prop
  | expired {action : OrderAction} {rail : Rail} (named : action.rail = some rail)
      (money : action.appliesMoney = true) (expired : standing.payment = .expired) :
      EntersLate standing action
  | released {claimed : WatchedAttempt} {observation : PaykitObservation}
      (unbound : standing.method = none ∨ standing.method = some .bitcoin)
      (paykit : standing.adapter = .paykit ∨ standing.adapter = .sandbox)
      (open_payment : standing.payment = .awaitingEntitlement ∨ standing.payment = .expired)
      (outside : standing.request ≠ some .awaitingSellerConfirmation)
      (untracked : ¬ (standing.invoice = some claimed.invoiceId ∧
        standing.request.isSome = true)) :
      EntersLate standing (.routeReleased claimed true observation)

theorem WholeStock.of_awaiting (coherent : Coherent standing)
    (bound : standing.method = some .bitcoin)
    (awaiting : standing.payment = .awaitingEntitlement) : WholeStock inventory standing := by
  obtain ⟨pending, held, -⟩ := coherent.open_payment bound awaiting
  intro order shows_row _ unheld _ takes
  apply unheld
  refine ⟨pending, held ?_⟩
  rw [← shows_row.auction]
  exact takes.1

/-- The row a function was given, for a standing that differs in its labels. -/
theorem WholeStock.relabel {other : Standing} (whole : WholeStock inventory standing)
    (terms : other.terms = standing.terms) (state : other.state = standing.state)
    (held : other.held = standing.held) (resolved : other.resolved = standing.resolved) :
    WholeStock inventory other := by
  intro order shows_row deliverable unheld unresolved takes
  rw [state, held] at unheld
  rw [resolved] at unresolved
  -- the pins of the row are read by no stock function
  refine whole { order with paykitPins := standing.pins } ?_ deliverable unheld unresolved takes
  exact ⟨shows_row.terms.trans terms, shows_row.state.trans state, shows_row.held.trans held, rfl⟩

theorem Standing.lapse_kept (standing : Standing) :
    standing.lapse.terms = standing.terms ∧ standing.lapse.held = standing.held ∧
      standing.lapse.receipt = standing.receipt := by
  unfold Standing.lapse
  split <;> exact ⟨rfl, rfl, rfl⟩

theorem Standing.endRequest_kept (standing : Standing) :
    standing.endRequest.terms = standing.terms ∧
      standing.endRequest.receipt = standing.receipt := by
  obtain ⟨terms, -, receipt⟩ := standing.lapse_kept
  unfold Standing.endRequest
  split
  · split
    · exact ⟨terms, receipt⟩
    · exact ⟨terms, receipt⟩
  · exact ⟨rfl, rfl⟩

theorem Posts.of_unpaid {order : Order} (shows_row : order.Shows standing)
    (placed : Placed inventory standing.terms) (owns : standing.HoldsOwn)
    (held : standing.terms.auction = none → standing.held = true)
    (accounted : standing.held = true → Accounted inventory standing.terms.lines)
    (released : releaseUnpaidHold inventory order now = .ok after)
    (terms : done.terms = standing.terms) (free : done.held = false)
    (receipt : done.receipt = standing.receipt) : Posts standing done [] inventory after := by
  have covered : Accounted inventory order.lines := by
    rw [shows_row.lines]
    cases auctioned : standing.terms.auction with
    | none => exact accounted (held auctioned)
    | some auction =>
        intro id counted
        rw [placed.linesOn (by simp [auctioned]) counted]
        exact Nat.zero_le _
  have first := placed
  rw [← shows_row.terms] at first
  refine .of_release shows_row owns ((releaseUnpaidHold_posted first covered released).congr ?_
    (by simp)) terms free receipt
  intro id counted
  rw [shows_row.held, shows_row.auction, shows_row.lines]
  cases auctioned : standing.terms.auction with
  | none => simp [held auctioned]
  | some auction => simp [placed.linesOn (by simp [auctioned]) counted]

/-- An undone bind gives back what the order held of its own. -/
theorem Posts.of_voided {order : Order} (shows_row : order.Shows standing)
    (owns : standing.HoldsOwn)
    (released : (if order.stockHeld then orRollback (releaseLines .reserved order.lines inventory)
      else .ok inventory) = .ok after) :
    Posts standing standing.voidPrepare [] inventory after := by
  have posted : Posted (fun id => if order.stockHeld = true ∧ order.auctionAggregateId = none then
      -linesOn id order.lines else 0) (fun _ => 0) inventory after := by
    rcases Outcome.ite_ok released with ⟨held, ran⟩ | ⟨free, rfl⟩
    · refine (releaseLines_posted (orRollback_ok ran)).congr ?_ (by simp)
      intro id _
      have single := (owns (shows_row.held.symm.trans held)).2
      rw [shows_row.auction]
      simp [held, single]
    · refine (Posted.refl _).congr ?_ (by simp)
      intro id _
      simp [free]
  exact .of_release shows_row owns posted rfl rfl rfl

/-- A cancellation of a paid order gives back the lines it names. -/
theorem Posts.of_return {order : Order} (returned : returnSold inventory order now = .ok after)
    (terms : done.terms = standing.terms) (held : done.held = standing.held)
    (receipt : done.receipt = standing.receipt) :
    Posts standing done order.lines inventory after := by
  refine (returnSold_posted returned).congr ?_ ?_
  · intro id _
    simp [Standing.heldOn, terms, held]
  · intro id _
    simp [Standing.boughtOn, terms, receipt]

theorem Posts.of_acquired {held : Standing}
    (acquired : Acquire inventory standing after held ∨ after = inventory ∧ held = standing) :
    Posts standing held [] inventory after := by
  rcases acquired with taken | ⟨rfl, rfl⟩
  · exact taken.posts
  · exact .kept rfl rfl rfl

theorem Late.posts_relabelled {restored : Standing} (placed : Placed inventory standing.terms)
    (owns : standing.HoldsOwn) (whole : WholeStock inventory standing)
    (terms : restored.terms = standing.terms) (state : restored.state = standing.state)
    (held : restored.held = standing.held) (resolved : restored.resolved = standing.resolved)
    (receipt : restored.receipt = standing.receipt)
    (late : Late now inventory restored after done) :
    Posts standing done [] inventory after := by
  have own : restored.HoldsOwn := by
    intro stocked
    rw [state, terms]
    exact owns (held.symm.trans stocked)
  rw [← terms] at placed
  have posts := late.posts placed own (whole.relabel terms state held resolved)
  exact posts.relabel ⟨terms.symm, held.symm, receipt.symm⟩ ⟨rfl, rfl, rfl⟩

theorem Posts.of_extension {until_time : Time} (terms : done.terms = standing.terms)
    (held : done.held = standing.held) (receipt : done.receipt = standing.receipt) :
    Posts standing done [] inventory (standing.terms.extend until_time inventory) := by
  unfold Terms.extend
  split
  · exact .kept terms held receipt
  · rename_i auction auctioned
    have extends_only := @reservations_posted inventory
      (isWinningHold auction standing.terms.buyer)
      (fun reservation => { reservation with expiresAt := until_time })
      (fun id _ reservation _ => rfl)
    exact .after_nothing extends_only (.kept terms held receipt)

theorem Settle.posts_acquired {held : Standing} (coherent : Coherent standing)
    (placed : Placed inventory standing.terms)
    (acquired : Acquire inventory standing middle held ∨ middle = inventory ∧ held = standing)
    (settled : Settle now middle held after done) : Posts standing done [] inventory after := by
  rcases acquired with taken | ⟨rfl, rfl⟩
  · have first := taken.posts
    obtain ⟨hold, rfl, -, -⟩ := taken.frame
    have own : Standing.HoldsOwn { standing with held := hold } := (coherent.acquired taken).held
    exact first.trans (settled.posts (placed.posted first) own)
  · exact settled.posts placed coherent.held

theorem Move.posts {references : References} {action : OrderAction} {returned : List Line}
    (coherent : Coherent standing) (speaks : Speaks action standing)
    (placed : Placed inventory standing.terms)
    (accounted : standing.held = true → Accounted inventory standing.terms.lines)
    (whole : EntersLate standing action → WholeStock inventory standing)
    (move : Move references now inventory standing action returned after done) :
    Posts standing done returned inventory after := by
  have owns : standing.HoldsOwn := coherent.held
  cases move with
  | stay => exact .kept rfl rfl rfl
  | bindFiat known chosen unbound pending awaiting other acquired =>
      exact acquired.posts.relabel ⟨rfl, rfl, rfl⟩ ⟨rfl, rfl, rfl⟩
  | bindBitcoin chosen prepared unbound pending awaiting other acquired =>
      exact acquired.posts.relabel ⟨rfl, rfl, rfl⟩ ⟨rfl, rfl, rfl⟩
  | activate answer preparing => exact .kept rfl rfl rfl
  | track answer current voided settled =>
      obtain ⟨terms, held, receipt⟩ := standing.activate.lapse_kept
      split
      · exact .kept terms held receipt
      · exact .kept rfl rfl rfl
  | voidPrepare answer voids shows_row preparing released =>
      exact .of_voided shows_row owns released
  | dropRequest preparing settled => exact .kept rfl rfl rfl
  | expirePreparing answer shows_row preparing released =>
      obtain ⟨bound, awaiting, -⟩ := coherent.preparing preparing
      have held := (coherent.open_payment bound awaiting).2.1
      exact .of_unpaid shows_row placed owns held accounted released rfl rfl rfl
  | expireHeld shows_row pending held settled outside open_payment released =>
      obtain ⟨terms, -, receipt⟩ := standing.lapse_kept
      exact .of_unpaid shows_row placed owns (fun _ => held) accounted released terms rfl receipt
  | expireIdle pending free unbound single unstamped awaiting =>
      exact .kept rfl free.symm rfl
  | @cancelPending _ _ _ order _ shows_row pending outside released =>
      obtain ⟨terms, receipt⟩ := standing.endRequest_kept
      have covered : order.stockHeld = true → Accounted inventory order.lines := by
        intro held
        rw [shows_row.lines]
        exact accounted (shows_row.held.symm.trans held)
      rw [← shows_row.terms] at placed
      exact .of_release shows_row owns (releasePending_posted placed covered released) terms rfl
        receipt
  | cancelPaid shows_row paid returned =>
      have free : standing.held = false := coherent.unheld (by
        rcases paid with same | same <;> simp [same])
      rw [← shows_row.lines]
      exact .of_return returned rfl free.symm rfl
  | requestCancel paid =>
      have free : standing.held = false := coherent.unheld (by
        rcases paid with same | same | same <;> simp [same])
      exact .kept rfl free.symm rfl
  | approveCancel shows_row requested releasable returned =>
      exact .of_return returned rfl rfl rfl
  | fulfil command paid ended ready label recorded => exact .kept rfl rfl rfl
  | settle rail awaiting settled => exact settled.posts placed owns
  | late rail money expired late =>
      refine late.posts placed owns (whole ?_)
      rcases rail with named | named <;> exact .expired named money expired
  | settlePoll rail awaiting gate settled froze =>
      exact (settled.posts placed owns).relabel ⟨rfl, rfl, rfl⟩ ⟨rfl, rfl, rfl⟩
  | latePoll rail money open_payment outside froze late =>
      have stock : WholeStock inventory standing := by
        rcases open_payment with awaiting | expired
        · simp only [Speaks, rail] at speaks
          exact .of_awaiting coherent speaks.1 awaiting
        · exact whole (.expired rail money expired)
      refine late.posts_relabelled placed owns stock ?_ ?_ ?_ ?_ ?_ <;> rfl
  | fallback advanced froze => exact .kept rfl rfl rfl
  | confirmSeller window awaiting confirmed froze first queued pinned =>
      have bound := (coherent.window window).1
      have held := (coherent.open_payment bound awaiting).2.1
      exact (confirmed.posts placed fun single _ => held single).relabel ⟨rfl, rfl, rfl⟩
        ⟨rfl, rfl, rfl⟩
  | windowLapsed request awaiting opened due froze => exact .kept rfl rfl rfl
  | resolve paykit review unresolved resolved first queued pinned =>
      exact (resolved.posts placed owns).relabel ⟨rfl, rfl, rfl⟩ ⟨rfl, rfl, rfl⟩
  | routeMismatch watching unbound paykit open_payment outside untracked unresolved froze =>
      exact .kept rfl rfl rfl
  | routeLate watching unbound paykit open_payment outside untracked froze swapped late =>
      have stock := whole (.released unbound paykit open_payment outside untracked)
      have same := swapped.eq
      refine late.posts_relabelled placed owns stock ?_ ?_ ?_ ?_ ?_ <;> rw [same] <;> rfl
  | detect rail pending => exact .kept rfl rfl rfl
  | refresh rail request amount => exact .kept rfl rfl rfl
  | enterWindow rail entry reported awaiting froze first extended =>
      subst extended
      exact .of_extension rfl rfl rfl
  | sandbox sandbox target_ok unconfirmed acquired =>
      exact (Posts.of_acquired acquired).relabel ⟨rfl, rfl, rfl⟩ ⟨rfl, rfl, rfl⟩
  | sandboxSettle sandbox open_payment acquired settled =>
      exact settled.posts_acquired coherent placed acquired
  | prepareLocks unbound unlocked pending awaiting priced acquired =>
      exact acquired.posts.relabel ⟨rfl, rfl, rfl⟩ ⟨rfl, rfl, rfl⟩
  | registerLocks locks => exact .kept rfl rfl rfl

end Posts

end MarketplaceService
