import MarketplaceService.DropTerms
import MarketplaceService.RefundMoves

/-!
Which steps of an order take units out of a listing's available column: the
payment hold of a bind, of Locks or of the sandbox, and a hold taken again for
late money or by a ruling that the order is paid. Every other step leaves at
least what was available, and no step rewrites the terms of a drop.
-/

namespace MarketplaceService

def Inventory.availableOf (inventory : Inventory) (id : ListingId) : ℕ :=
  ((inventory.listings.find? id).map Listing.availableQuantity).getD 0

/-- Nothing available is taken, and the drops keep their terms. -/
structure Restocked (before after : Inventory) : Prop where
  available : ∀ id, before.availableOf id ≤ after.availableOf id
  terms : SameTerms before after

namespace Restocked

variable {before middle after inventory : Inventory}

theorem refl (inventory : Inventory) : Restocked inventory inventory :=
  ⟨fun _ => Nat.le_refl _, .refl _⟩

theorem trans (left : Restocked before middle) (right : Restocked middle after) :
    Restocked before after :=
  ⟨fun id => (left.available id).trans (right.available id), left.terms.trans right.terms⟩

theorem of_same (same : SameListings before after) (terms : SameTerms before after) :
    Restocked before after := by
  refine ⟨fun id => ?_, terms⟩
  rw [Inventory.availableOf, Inventory.availableOf, same.1]

theorem of_reservations (reservations : Keyed.Table ReservationId Reservation) :
    Restocked inventory { inventory with reservations := reservations } :=
  ⟨fun _ => Nat.le_refl _, .of_tables rfl rfl⟩

end Restocked

theorem forLines_restocked {each : Line → Listing → Except Failure Listing} {missing : Failure}
    (gives : ∀ line listing moved, each line listing = .ok moved →
      listing.availableQuantity ≤ moved.availableQuantity)
    (lines : List Line) (inventory : Inventory) :
    Restocked inventory (forLines each missing lines inventory).2 := by
  induction lines generalizing inventory with
  | nil => exact .refl _
  | cons line rest ih =>
      simp only [forLines]
      cases found : inventory.listings.find? line.listing with
      | none => exact .refl _
      | some listing =>
          cases stepped : each line listing with
          | error failure =>
              simp only [stepped]
              exact .refl _
          | ok moved =>
              simp only [stepped]
              have first : Restocked inventory { inventory with
                  listings := inventory.listings.set line.listing moved } := by
                refine ⟨fun id => ?_, .of_tables rfl rfl⟩
                unfold Inventory.availableOf
                rw [Keyed.Table.find?_set]
                by_cases here : id = line.listing
                · simpa [here, found] using gives line listing moved stepped
                · simp [here]
              exact first.trans (ih _)

/-! The stock functions. -/

section Functions

variable {inventory after : Inventory} {order : Order} {now : Time}

theorem releaseLines_restocked (column : HeldQuantity) (lines : List Line)
    (inventory : Inventory) : Restocked inventory (releaseLines column lines inventory).2 := by
  apply forLines_restocked
  intro line listing moved released
  obtain ⟨enough, rfl⟩ := releaseLine_ok released
  cases column
  · exact Nat.le_add_right _ _
  · exact Nat.le_add_right _ _

theorem creditOrderDrop_restocked (inventory : Inventory) (order : Order) (now : Time) :
    Restocked inventory (creditOrderDrop inventory order now).2 :=
  .of_same (creditOrderDrop_same inventory order now) (creditOrderDrop_terms order)

theorem creditThenRelease_restocked {column : HeldQuantity} {lines : List Line}
    (ran : orRollback (andThen (creditOrderDrop inventory order now)
      fun inventory => releaseLines column lines inventory) = .ok after) :
    Restocked inventory after := by
  have first := creditOrderDrop_restocked inventory order now
  obtain ⟨credited, credit, released⟩ := andThen_ok (orRollback_ok ran)
  have second := releaseLines_restocked column lines credited
  rw [credit] at first
  rw [released] at second
  exact first.trans second

theorem releaseHeld_restocked (released : releaseHeld inventory order now = .ok after) :
    Restocked inventory after := by
  unfold releaseHeld at released
  rcases Outcome.ite_ok released with ⟨-, ran⟩ | ⟨-, rfl⟩
  · exact creditThenRelease_restocked ran
  · exact .refl _

theorem tolerateLegacy_restocked {result : Except Failure Unit × Inventory}
    (restocked : Restocked inventory result.2) (kept : tolerateLegacy order result = .ok after) :
    Restocked inventory after := by
  unfold tolerateLegacy at kept
  split at kept
  · cases kept
    exact restocked
  · split at kept
    · cases kept
      exact restocked
    · cases kept

theorem releaseUnpaidHold_restocked
    (released : releaseUnpaidHold inventory order now = .ok after) :
    Restocked inventory after := by
  unfold releaseUnpaidHold at released
  obtain ⟨credited, credit, rest⟩ := Outcome.bind_ok released
  have first := tolerateLegacy_restocked (creditOrderDrop_restocked inventory order now) credit
  have second :=
    tolerateLegacy_restocked (releaseLines_restocked .reserved order.lines credited) rest
  exact first.trans second

theorem releaseReservedHold_restocked {auction : ListingId}
    (released : releaseReservedHold inventory auction order = .ok after) :
    Restocked inventory after := by
  unfold releaseReservedHold at released
  simp only at released
  split at released
  · cases released
    exact .refl _
  · have lines := releaseLines_restocked .reserved order.lines { inventory with
      reservations := inventory.reservations.updateWhere
        (isWinningHold auction order.buyerPubky) fun reservation =>
          { reservation with status := .released } }
    rw [orRollback_ok released] at lines
    exact (Restocked.of_reservations _).trans lines

theorem cancelledHold_restocked (released : cancelledHold inventory order now = .ok after) :
    Restocked inventory after := by
  unfold cancelledHold at released
  split at released
  · exact releaseReservedHold_restocked released
  · exact releaseHeld_restocked released

theorem releasePending_restocked (released : releasePending inventory order now = .ok after) :
    Restocked inventory after := by
  unfold releasePending at released
  split at released
  · exact releaseReservedHold_restocked released
  · rcases Outcome.ite_ok released with ⟨-, ran⟩ | ⟨-, rfl⟩
    · exact releaseUnpaidHold_restocked ran
    · exact .refl _

theorem extend_restocked (terms : Terms) (deadline : Time) (inventory : Inventory) :
    Restocked inventory (terms.extend deadline inventory) := by
  unfold Terms.extend
  split
  · exact .refl _
  · exact .of_reservations _

end Functions

/-! The confirmation. -/

/-- The units left in each drop and the buyers' counters stay. -/
structure SameHolds (before after : Inventory) : Prop where
  remaining : ∀ dropId, (after.countsOf dropId).map Counts.remaining =
    (before.countsOf dropId).map Counts.remaining
  purchases : after.dropPurchases = before.dropPurchases

section Confirmation

variable {before middle inventory after : Inventory} {order : Order} {now : Time}

theorem SameHolds.of_tables (drops : after.drops = before.drops)
    (purchases : after.dropPurchases = before.dropPurchases) : SameHolds before after := by
  refine ⟨fun dropId => ?_, purchases⟩
  rw [Inventory.countsOf, Inventory.countsOf, drops]

theorem SameHolds.trans (left : SameHolds before middle) (right : SameHolds middle after) :
    SameHolds before after :=
  ⟨fun dropId => (right.remaining dropId).trans (left.remaining dropId),
    right.purchases.trans left.purchases⟩

theorem recordEdition_restocked {edition : Option ℕ}
    (recorded : recordEdition inventory order now = .ok (edition, after)) :
    Restocked inventory after ∧ SameHolds inventory after := by
  have same := recordEdition_same recorded
  unfold recordEdition at recorded
  split at recorded
  · cases recorded
    exact ⟨.refl _, .of_tables rfl rfl⟩
  · rename_i dropId stamped
    split at recorded
    · cases recorded
    · rename_i number counted ran
      cases recorded
      refine ⟨.of_same same (recordPaidUnit_terms ran), ?_⟩
      obtain ⟨drop, found, -, -, purchases, counts⟩ := recordPaidUnit_ok ran
      refine ⟨fun id => ?_, purchases⟩
      rw [counts id]
      by_cases here : id = dropId
      · simp [here, Inventory.countsOf, found, Drop.counts]
      · simp [here]

theorem confirmStock_restocked {edition : Option ℕ}
    (confirmed : confirmStock inventory order now = .ok (edition, after)) :
    Restocked inventory after ∧ SameHolds inventory after := by
  unfold confirmStock at confirmed
  obtain ⟨converted, first, confirmed⟩ := Outcome.bind_ok confirmed
  obtain ⟨⟨counted, recorded⟩, second, confirmed⟩ := Outcome.bind_ok confirmed
  obtain ⟨sold, third, written⟩ := Outcome.bind_ok confirmed
  cases Outcome.pure_ok written
  have converts : Restocked inventory converted ∧ SameHolds inventory converted := by
    obtain ⟨listings, drops, purchases⟩ := convertHold_frame first
    refine ⟨⟨fun id => ?_, .of_tables drops purchases⟩, .of_tables drops purchases⟩
    rw [Inventory.availableOf, Inventory.availableOf, listings]
  have records := recordEdition_restocked second
  have sells : Restocked recorded after := by
    have looped := @forLines_restocked sellLine listingMissing (fun line listing moved taken => by
      obtain ⟨enough, rfl⟩ := sellLine_ok taken
      exact Nat.le_refl _) order.lines recorded
    rw [orRollback_ok third] at looped
    exact looped
  obtain ⟨-, drops, purchases, -⟩ := forLines_frame (orRollback_ok third)
  exact ⟨converts.1.trans (records.1.trans sells),
    converts.2.trans (records.2.trans (.of_tables drops purchases))⟩

end Confirmation

/-! The moves. -/

def OrderAction.acquiresHold : OrderAction → Bool
  | .bind _ | .prepareLocks .. | .advanceSandbox .. => true
  | _ => false

/-- The steps that may take a lost hold again. -/
inductive Retakes (standing done : Standing) : OrderAction → Prop
  | late {action : OrderAction} (entered : EntersLate standing action) :
      Retakes standing done action
  | reported {action : OrderAction} (rail : action.rail = some .poll)
      (money : action.appliesMoney = true) (flagged : action.reportsLate = true) :
      Retakes standing done action
  | ruled {input : ResolutionInput} (unpaid : standing.receipt = none)
      (paid : done.receipt.isSome = true) : Retakes standing done (.resolveReview input)

/-- What a move takes from the available columns: nothing, the payment hold, or
the hold of an order that lost it, as far as the lines went. -/
inductive Taking (now : Time) (inventory : Inventory) (standing : Standing) (action : OrderAction)
    (after : Inventory) (done : Standing) : Prop
  | nothing (restocked : Restocked inventory after)
  | hold {held : Inventory} (acquires : action.acquiresHold = true)
      (single : standing.terms.auction = none) (free : standing.held = false)
      (acquired : acquireLines standing.terms.createdAt standing.terms.lines inventory = .ok held)
      (rest : Restocked held after)
  | retake {order : Order} {result : Except Failure Unit} {taken : Inventory}
      (retakes : Retakes standing done action) (terms : order.terms = standing.terms)
      (deliverable : unpinnable inventory order = false)
      (unheld : ¬ (standing.state = .pendingPayment ∧ standing.held = true))
      (ran : reacquireStock inventory order now = (result, taken))
      (rest : Restocked taken after) (holds : SameHolds taken after)

section Moves

variable {references : References} {now : Time} {inventory after : Inventory}
  {standing done : Standing} {order : Order} {action : OrderAction} {returned : List Line}

theorem Acquire.taking {middle : Inventory} {held : Standing}
    (acquires : action.acquiresHold = true) (acquired : Acquire inventory standing middle held)
    (rest : Restocked middle after) : Taking now inventory standing action after done := by
  cases acquired with
  | auction auctioned => exact .nothing rest
  | kept single pending held => exact .nothing rest
  | taken single pending free acquired => exact .hold acquires single free acquired rest

theorem Refund.restocked (routed : Refund now inventory standing after done) :
    Restocked inventory after := by
  cases routed with
  | cancelled shows_row open_payment pending released => exact releaseHeld_restocked released
  | kept open_payment settled => exact .refl _

theorem Confirm.restocked (confirmed : Confirm now order inventory standing after done) :
    Restocked inventory after ∧ SameHolds inventory after := by
  obtain ⟨-, -, -, -, stocked⟩ := confirmed
  exact confirmStock_restocked stocked

theorem Settle.restocked (settled : Settle now inventory standing after done) :
    Restocked inventory after := by
  cases settled with
  | confirmed shows_row confirmed => exact confirmed.restocked.1
  | refunded routed => exact routed.restocked
  | reviewed => exact .refl _

theorem Retake.taking {start last : Standing} (retakes : Retakes start last action)
    (terms : standing.terms = start.terms)
    (unheld : ¬ (start.state = .pendingPayment ∧ start.held = true))
    (retaken : Retake now inventory standing after done) :
    Taking now inventory start action after last := by
  obtain ⟨shows_row, reacquired, stored, confirmed⟩ := retaken
  rename_i order row middle
  have deliverable : unpinnable inventory order = false := by
    obtain ⟨same, -, pinned, -, -⟩ := confirmed
    rw [← reacquireStock_unpinnable reacquired]
    rwa [unpinnable_of_terms (same.trans shows_row.terms.symm)] at pinned
  exact .retake retakes (shows_row.terms.trans terms) deliverable unheld reacquired
    confirmed.restocked.1 confirmed.restocked.2

/-- An order without its hold gives nothing back on its way to a refund. -/
theorem Refund.unheld (routed : Refund now inventory standing after done)
    (unheld : ¬ (standing.state = .pendingPayment ∧ standing.held = true)) : after = inventory := by
  cases routed with
  | @cancelled order _ shows_row open_payment pending released =>
      unfold releaseHeld at released
      rcases Outcome.ite_ok released with ⟨⟨held, -⟩, -⟩ | ⟨-, same⟩
      · exact absurd ⟨pending, shows_row.held.symm.trans held⟩ unheld
      · exact same
  | kept open_payment settled => rfl

theorem Late.taking {start : Standing} (late : Late now inventory standing after done)
    (retakes : Retakes start done action) (terms : standing.terms = start.terms)
    (state : standing.state = start.state) (held : standing.held = start.held) :
    Taking now inventory start action after done := by
  cases late with
  | undeliverable routed => exact .nothing routed.restocked
  | held open_payment pending held => exact .nothing (.refl _)
  | completed unheld unresolved retaken =>
      rw [state, held] at unheld
      exact retaken.taking retakes terms unheld
  | lost shows_row deliverable unheld failed routed =>
      obtain rfl := routed.unheld unheld
      rw [state, held] at unheld
      exact .retake retakes (shows_row.terms.trans terms) deliverable unheld failed (.refl _)
        (.of_tables rfl rfl)

/-- Only the ruling that the order is paid takes a lost hold again. -/
theorem Resolve.taking {input : ResolutionInput} {last : Standing}
    (resolved : Resolve now inventory standing after done) (coherent : Coherent standing)
    (receipt : last.receipt = done.receipt) :
    Taking now inventory standing (.resolveReview input) after last := by
  cases resolved with
  | intact shows_row pending present confirmed => exact .nothing confirmed.restocked.1
  | @retaken order _ _ shows_row open_order lost retaken =>
      have unheld : ¬ (standing.state = .pendingPayment ∧ standing.held = true) := by
        rintro ⟨pending, held⟩
        have single : order.auctionAggregateId = none :=
          shows_row.auction.trans (coherent.held held).2
        apply lost
        refine ⟨pending, ?_⟩
        rw [holdPresent, single]
        exact shows_row.held.trans held
      have issued : standing.receipt = none ∧ done.receipt.isSome = true := by
        cases retaken with
        | intro shows_row reacquired stored confirmed =>
            cases confirmed with
            | intro terms payable deliverable unpaid stocked => exact ⟨unpaid, rfl⟩
      rw [← receipt] at issued
      exact retaken.taking (.ruled issued.1 issued.2) rfl unheld
  | gaveBack shows_row pending closed released => exact .nothing (cancelledHold_restocked released)
  | closed cancelled closed => exact .nothing (.refl _)

theorem Move.taking (coherent : Coherent standing)
    (move : Move references now inventory standing action returned after done) :
    Taking now inventory standing action after done := by
  cases move with
  | stay => exact .nothing (.refl _)
  | bindFiat known chosen unbound pending awaiting unlocked acquired =>
      exact acquired.taking rfl (.refl _)
  | bindBitcoin chosen prepared unbound pending awaiting unlocked acquired =>
      exact acquired.taking rfl (.refl _)
  | activate answer preparing => exact .nothing (.refl _)
  | track answer current voided settled => exact .nothing (.refl _)
  | @voidPrepare _ _ order _ answer voids shows_row preparing released =>
      apply Taking.nothing
      rcases Outcome.ite_ok released with ⟨-, ran⟩ | ⟨-, rfl⟩
      · have lines := releaseLines_restocked .reserved order.lines inventory
        rw [orRollback_ok ran] at lines
        exact lines
      · exact .refl _
  | dropRequest preparing settled => exact .nothing (.refl _)
  | expirePreparing answer shows_row preparing released =>
      exact .nothing (releaseUnpaidHold_restocked released)
  | expireHeld shows_row pending held settled outside open_payment released =>
      exact .nothing (releaseUnpaidHold_restocked released)
  | expireIdle pending free unbound single unstamped awaiting => exact .nothing (.refl _)
  | cancelPending shows_row pending outside released =>
      exact .nothing (releasePending_restocked released)
  | cancelPaid shows_row paid returned => exact .nothing (creditThenRelease_restocked returned)
  | requestCancel paid => exact .nothing (.refl _)
  | approveCancel shows_row requested releasable returned =>
      exact .nothing (creditThenRelease_restocked returned)
  | fulfil command paid ended ready label recorded => exact .nothing (.refl _)
  | settle rail awaiting settled => exact .nothing settled.restocked
  | late rail money expired late =>
      refine late.taking (.late ?_) rfl rfl rfl
      rcases rail with fiat | locks
      · exact .expired fiat money expired
      · exact .expired locks money expired
  | settlePoll rail awaiting gate settled froze => exact .nothing settled.restocked
  | latePoll rail money open_payment outside froze late flagged =>
      refine late.taking ?_ rfl rfl rfl
      rcases open_payment with awaiting | expired
      · exact .reported rail money (flagged awaiting)
      · exact .late (.expired rail money expired)
  | fallback advanced froze => exact .nothing (.refl _)
  | confirmSeller window awaiting confirmed froze first queued pinned =>
      exact .nothing confirmed.restocked.1
  | windowLapsed request awaiting opened due froze => exact .nothing (.refl _)
  | resolve paykit review unresolved resolved first queued pinned =>
      exact resolved.taking coherent rfl
  | routeMismatch watching unbound paykit open_payment outside untracked unresolved froze =>
      exact .nothing (.refl _)
  | routeLate watching unbound paykit open_payment outside untracked froze swapped late =>
      have same := swapped.eq
      refine late.taking (.late (.released unbound paykit open_payment outside untracked)) ?_ ?_ ?_
        <;> rw [same] <;> rfl
  | detect rail pending => exact .nothing (.refl _)
  | refresh rail request amount => exact .nothing (.refl _)
  | enterWindow rail entry reported awaiting froze first extended =>
      subst extended
      exact .nothing (extend_restocked _ _ _)
  | sandbox sandbox target_ok unconfirmed acquired =>
      rcases acquired with taken | ⟨rfl, rfl⟩
      · exact taken.taking rfl (.refl _)
      · exact .nothing (.refl _)
  | sandboxSettle sandbox open_payment acquired settled =>
      rcases acquired with taken | ⟨rfl, rfl⟩
      · exact taken.taking rfl settled.restocked
      · exact .nothing settled.restocked
  | prepareLocks unbound unlocked pending awaiting priced acquired =>
      exact acquired.taking rfl (.refl _)
  | registerLocks locks => exact .nothing (.refl _)

end Moves

end MarketplaceService
