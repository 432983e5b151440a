import MarketplaceService.DigitalMoves

/-!
Deliverability of pending orders. The kind on a listing is that of its current
version, and a digital order in `pending_payment` names the kind that each of
its listings has: a checkout copies it, and neither a change of the kind nor a
clearing passes while such an order stands. The receipt transaction therefore
finds a version to pin for every instant line.
-/

namespace MarketplaceService

/-! Orders across a step of the gateway. -/

section Gateway

variable {references : References} {gate next : GatewaySys} {action : GatewayAction}
  {id : OrderId} {cell done : Cell}

theorem into_pending {before after : OrderState}
    (named : canTransition orderMachine before after = true) (pending : after = .pendingPayment) :
    before = .pendingPayment := by
  subst pending
  revert named
  cases before <;> decide

theorem OrderTurn.into_pending {action : OrderAction} {before after : Standing}
    (turn : OrderTurn action before after) (pending : after.state = .pendingPayment) :
    before.state = .pendingPayment := by
  cases turn with
  | edge named => exact MarketplaceService.into_pending named pending
  | deliveredAtOnce _ _ delivered => cases delivered.symm.trans pending
  | refundResolved _ _ _ refunded => cases refunded.symm.trans pending

/-- What an order keeps across every step: its terms and its receipt. No step
makes it pending again, and only a step of its own issues the receipt. -/
structure Persists (action : GatewayAction) (id : OrderId) (before after : OrderBook) : Prop where
  terms : after.order.terms = before.order.terms
  receipt : before.receipt.isSome = true → after.receipt.isSome = true
  pending : after.order.state = .pendingPayment → before.order.state = .pendingPayment
  issued : before.receipt = none → after.receipt.isSome = true →
    ∃ now step, action = .service (.order id now step)

theorem gateway_persists (kept : GatewayKept gate)
    (stepped : gate.step references action = some next)
    (found : gate.sys.cells.find? id = some cell)
    (present : next.sys.cells.find? id = some done) :
    Persists action id cell.book done.book := by
  have unissued {receipt : Option Receipt} (none_before : receipt = none)
      (paid : receipt.isSome = true) : ∃ now step, action = .service (.order id now step) := by
    rw [none_before] at paid
    cases paid
  obtain ⟨stored, placed, turn⟩ := gateway_turn kept stepped found
  obtain rfl := Option.some.inj (present.symm.trans placed)
  cases turn with
  | @own now step named turn =>
      subst named
      obtain ⟨sys, ran, rfl⟩ := Option.map_eq_some_iff.mp stepped
      obtain ⟨last, written, moved⟩ := order_step found ran
      obtain rfl := Option.some.inj (present.symm.trans written)
      have sound := kept.sound id cell found
      exact ⟨((stepCell_steps sound moved).steady sound).terms, receipt_stays sound moved,
        turn.order.into_pending, fun _ _ => ⟨now, step, rfl⟩⟩
  | still same =>
      rw [same]
      exact ⟨rfl, fun paid => paid, fun pending => pending, unissued⟩
  | refund gateway written edge =>
      rw [written]
      refine ⟨rfl, fun paid => paid, fun pending => ?_, unissued⟩
      rcases edge with same | edge
      · exact same.symm.trans pending
      · exact MarketplaceService.into_pending (canTransition_of_mem edge.1) pending

end Gateway

/-! Pins. -/

def DigitalService.Delivers (service : DigitalService)
    (line : ℕ × ListingId × DigitalDeliveryKind) (version : ℕ) (row : DigitalVersion) : Prop :=
  service.versions.find? (line.2.1, version) = some row ∧ row.supersededAt = none ∧
    row.kind = line.2.2

/-- What `pin_digital_lines` copies of a version. -/
def DigitalVersion.pin (row : DigitalVersion) (line : ℕ × ListingId × DigitalDeliveryKind)
    (version : ℕ) (adapter : Adapter) : DigitalPin where
  listing := line.2.1
  deliverableId := row.deliverableId
  version := version
  kind := line.2.2
  payload := row.payload
  confirmingAdapter := adapter

section Pins

variable {service : DigitalService} {id : OrderId} {adapter : Adapter} {order : Order}
  {lines : List (ℕ × ListingId × DigitalDeliveryKind)}
  {line : ℕ × ListingId × DigitalDeliveryKind}
  {pins done : Keyed.Table (OrderId × ℕ) DigitalPin}

theorem mem_instantLinesAt (member : line ∈ order.instantLinesAt) :
    ∃ entry ∈ order.lines, entry.listing = line.2.1 ∧ entry.digitalKind = some line.2.2 ∧
      line.2.2.isInstant = true := by
  obtain ⟨⟨entry, index⟩, listed, kept⟩ := List.mem_filterMap.mp member
  dsimp only at kept
  split at kept
  · rename_i kind named
    obtain ⟨instant, same⟩ := Option.ite_none_right_eq_some.mp kept
    cases same
    exact ⟨entry, List.fst_mem_of_mem_zipIdx listed, rfl, named, instant⟩
  · cases kept

theorem mem_instantLines {entry : ListingId × DigitalDeliveryKind}
    (member : entry ∈ order.instantLines) :
    ∃ line ∈ order.lines, line.listing = entry.1 ∧ line.digitalKind = some entry.2 := by
  obtain ⟨line, listed, kept⟩ := List.mem_filterMap.mp member
  split at kept
  · rename_i kind named
    obtain ⟨-, same⟩ := Option.ite_none_right_eq_some.mp kept
    cases same
    exact ⟨line, listed, rfl, named⟩
  · cases kept

theorem instantLinesAt_nodup (order : Order) : (order.instantLinesAt.map Prod.fst).Nodup := by
  have indices : (order.lines.zipIdx.map Prod.snd).Nodup := by
    rw [List.zipIdx_map_snd]
    exact List.nodup_range'
  refine List.Nodup.sublist ?_ indices
  unfold Order.instantLinesAt
  generalize order.lines.zipIdx = entries
  induction entries with
  | nil => exact .slnil
  | cons head rest ih =>
      simp only [List.filterMap_cons, List.map_cons]
      split
      · exact ih.cons _
      · rename_i kept
        split at kept
        · obtain ⟨-, same⟩ := Option.ite_none_right_eq_some.mp kept
          cases same
          exact ih.cons_cons _
        · cases kept

theorem pinLine_ok (ran : service.pinLine id adapter pins line = some done) :
    pins.find? (id, line.1) = none ∧ ∃ current, service.currentVersion line.2.1 = some current ∧
      done = pins.set (id, line.1) (current.2.pin line current.1 adapter) := by
  obtain ⟨fresh, ran⟩ := Option.ite_none_left_eq_some.mp ran
  obtain ⟨current, found, rfl⟩ := Option.map_eq_some_iff.mp ran
  exact ⟨by simpa using fresh, current, found, rfl⟩

theorem pinLines_ok (ran : lines.foldlM (service.pinLine id adapter) pins = some done) :
    (∀ key pin, pins.find? key = some pin → done.find? key = some pin) ∧
      (∀ key, (done.find? key).isSome = true → (pins.find? key).isSome = true ∨ key.1 = id) ∧
      ∀ line ∈ lines, ∃ current, service.currentVersion line.2.1 = some current ∧
        done.find? (id, line.1) = some (current.2.pin line current.1 adapter) := by
  induction lines generalizing pins with
  | nil =>
      cases ran
      exact ⟨fun _ _ found => found, fun _ found => .inl found, fun _ member => by cases member⟩
  | cons head rest ih =>
      obtain ⟨middle, first, ran⟩ := Option.bind_eq_some_iff.mp ran
      obtain ⟨fresh, current, found, rfl⟩ := pinLine_ok first
      obtain ⟨kept, added, pinned⟩ := ih ran
      refine ⟨?_, ?_, ?_⟩
      · intro key pin stored
        apply kept
        rw [Keyed.Table.find?_set, if_neg, stored]
        rintro rfl
        cases fresh.symm.trans stored
      · intro key stored
        rcases added key stored with before | own
        · rw [Keyed.Table.find?_set] at before
          split at before
          · rename_i same
            exact .inr (congrArg Prod.fst same)
          · exact .inl before
        · exact .inr own
      · intro line member
        rcases List.mem_cons.mp member with rfl | later
        · exact ⟨current, found, kept _ _ (Keyed.Table.find?_set_self ..)⟩
        · exact pinned line later

theorem pinLines_succeed (distinct : (lines.map Prod.fst).Nodup)
    (fresh : ∀ line ∈ lines, pins.find? (id, line.1) = none)
    (current : ∀ line ∈ lines, (service.currentVersion line.2.1).isSome = true) :
    (lines.foldlM (service.pinLine id adapter) pins).isSome = true := by
  induction lines generalizing pins with
  | nil => rfl
  | cons head rest ih =>
      obtain ⟨version, found⟩ := Option.isSome_iff_exists.mp (current head (by simp))
      have first : service.pinLine id adapter pins head =
          some (pins.set (id, head.1) (version.2.pin head version.1 adapter)) := by
        simp [DigitalService.pinLine, fresh head (by simp), found, DigitalVersion.pin]
      rw [List.foldlM_cons, first, Option.bind_eq_bind, Option.bind_some]
      rw [List.map_cons, List.nodup_cons] at distinct
      apply ih distinct.2
      · intro line member
        rw [Keyed.Table.find?_set_ne]
        · exact fresh line (List.mem_cons_of_mem _ member)
        · intro same
          have index : line.1 = head.1 := congrArg Prod.snd same
          exact distinct.1 (index ▸ List.mem_map_of_mem member)
      · intro line member
        exact current line (List.mem_cons_of_mem _ member)

theorem pinDigitalLines_ok (ran : service.pinDigitalLines id order adapter = some done) :
    (∀ key, (done.find? key).isSome = true →
      (service.pins.find? key).isSome = true ∨ key.1 = id) ∧
      ∀ line ∈ order.instantLinesAt, ∃ current, service.currentVersion line.2.1 = some current ∧
        done.find? (id, line.1) = some (current.2.pin line current.1 adapter) := by
  unfold DigitalService.pinDigitalLines at ran
  split at ran
  · rename_i empty
    cases ran
    refine ⟨fun key found => .inl found, ?_⟩
    intro line member
    rw [List.isEmpty_iff.mp empty] at member
    cases member
  · obtain ⟨-, ran⟩ := Option.ite_none_right_eq_some.mp ran
    exact (pinLines_ok ran).2

end Pins

/-! The invariant. -/

def NamesKinds (inventory : Inventory) (order : Order) : Prop :=
  ∀ line ∈ order.lines, ∀ kind ∈ line.digitalKind, inventory.versionOf line.listing = some kind

/-- The digital orders in `pending_payment` name the kinds of their listings. -/
def PendingNames (sys : Sys) : Prop :=
  ∀ id cell, sys.cells.find? id = some cell → cell.book.order.fulfillment = .digital →
    cell.book.order.state = .pendingPayment → NamesKinds sys.inventory cell.book.order

structure Deliverability (service : DigitalService) : Prop where
  kept : GatewayKept service.gate
  mirrored : ∀ listing, service.inventory.versionOf listing =
    (service.currentVersion listing).map fun current => current.2.kind
  pending : PendingNames service.gate.sys
  pinned : ∀ key, (service.pins.find? key).isSome = true →
    ∃ cell, service.cell key.1 = some cell ∧ cell.book.receipt.isSome = true

section Invariant

variable {references : References} {service after : DigitalService} {gate : GatewaySys}

theorem NamesKinds.same {before after : Inventory} {order : Order}
    (names : NamesKinds before order) (same : SameVersions before after) :
    NamesKinds after order := by
  intro line listed kind named
  rw [same line.listing]
  exact names line listed kind named

/-- The kinds across a step that is not a seller's delivery command. -/
theorem gateway_versions {step : GatewayAction} (kept : GatewayKept service.gate)
    (foreign : ∀ listing kind, step ≠ .service (.setDigitalVersion listing kind))
    (stepped : service.gate.step references step = some gate) :
    SameVersions service.gate.sys.inventory gate.sys.inventory := by
  cases gateway_step_inv stepped with
  | @service own named ran files =>
      refine step_versions (fun id cell => kept.sound id cell) ?_ ran
      cases own with
      | setDigitalVersion listing kind => exact absurd named (foreign listing kind)
      | _ => rfl
  | settled named stored paypal same files =>
      rw [same]
      exact .refl _
  | notified named stored owned ran same files =>
      rw [same]
      exact .refl _
  | recorded named stored ran same files =>
      rw [same]
      exact .refl _

theorem gateway_pendingNames {step : GatewayAction} (kept : GatewayKept service.gate)
    (pending : PendingNames service.gate.sys)
    (foreign : ∀ listing kind, step ≠ .service (.setDigitalVersion listing kind))
    (stepped : service.gate.step references step = some gate) : PendingNames gate.sys := by
  intro id done present digital unpaid
  apply NamesKinds.same _ (gateway_versions kept foreign stepped)
  cases found : service.gate.sys.cells.find? id with
  | some cell =>
      have persists := gateway_persists kept stepped found present
      have terms := persists.terms
      have lines : done.book.order.lines = cell.book.order.lines := congrArg Terms.lines terms
      have delivery : done.book.order.fulfillment = cell.book.order.fulfillment :=
        congrArg Terms.fulfillment terms
      rw [delivery] at digital
      rw [NamesKinds, lines]
      exact pending id cell found digital (persists.pending unpaid)
  | none =>
      cases gateway_step_inv stepped with
      | service named ran files => exact added_versions ran found present
      | settled named stored paypal same files =>
          rw [same] at present
          cases found.symm.trans present
      | notified named stored owned ran same files =>
          rw [same] at present
          rw [Keyed.Table.find?_set] at present
          split at present
          · rename_i own
            rw [own] at found
            cases found.symm.trans stored
          · cases found.symm.trans present
      | recorded named stored ran same files =>
          rw [same] at present
          rw [Keyed.Table.find?_set] at present
          split at present
          · rename_i own
            rw [own] at found
            cases found.symm.trans stored
          · cases found.symm.trans present

/-- A step that is not a seller's delivery command, with the pins it writes. -/
theorem Deliverability.gated {step : GatewayAction} (fit : Deliverability service)
    (foreign : ∀ listing kind, step ≠ .service (.setDigitalVersion listing kind))
    (stepped : service.gate.step references step = some gate) (landed : after.gate = gate)
    (versions : after.versions = service.versions)
    (pins : ∀ key, (after.pins.find? key).isSome = true →
      (service.pins.find? key).isSome = true ∨
        ∃ cell, gate.sys.cells.find? key.1 = some cell ∧ cell.book.receipt.isSome = true) :
    Deliverability after := by
  subst landed
  have same := gateway_versions fit.kept foreign stepped
  refine ⟨fit.kept.step stepped, ?_, gateway_pendingNames fit.kept fit.pending foreign stepped, ?_⟩
  · intro listing
    rw [DigitalService.currentVersion_same versions]
    exact (same listing).trans (fit.mirrored listing)
  · intro key stored
    rcases pins key stored with old | issued
    · obtain ⟨cell, found, paid⟩ := fit.pinned key old
      obtain ⟨done, present, -⟩ := gateway_turn fit.kept stepped found
      exact ⟨done, present, (gateway_persists fit.kept stepped found present).receipt paid⟩
    · exact issued

theorem listingDigitalInUse_of_pending {id : OrderId} {cell : Cell} {line : Line}
    (found : service.cell id = some cell) (digital : cell.book.order.fulfillment = .digital)
    (pending : cell.book.order.state = .pendingPayment) (listed : line ∈ cell.book.order.lines) :
    service.listingDigitalInUse line.listing = true := by
  unfold DigitalService.listingDigitalInUse
  rw [List.any_eq_true]
  refine ⟨(id, cell), Keyed.lookup_mem id cell _ found, ?_⟩
  simp only [DigitalService.usesDelivery, digital, pending, beq_self_eq_true, Bool.true_or,
    Bool.and_true, Bool.true_and, List.any_eq_true, beq_iff_eq]
  exact ⟨line, listed, rfl⟩

theorem setKind_step {id : ListingId} {kind : Option DigitalDeliveryKind}
    (written : DigitalService.setKind service.gate id kind = some gate) :
    service.gate.step references (.service (.setDigitalVersion id kind)) = some gate ∧
      gate.sys.cells = service.gate.sys.cells ∧
      ∀ listing, gate.sys.inventory.versionOf listing =
        if listing = id then kind else service.inventory.versionOf listing := by
  obtain ⟨inventory, stored, rfl⟩ := Option.map_eq_some_iff.mp written
  refine ⟨?_, rfl, ?_⟩
  · change ((setDigitalVersion service.gate.sys.inventory id kind).map _).map _ = _
    rw [stored]
    rfl
  · obtain ⟨listing, found, rfl⟩ := Option.map_eq_some_iff.mp stored
    intro other
    change ((service.gate.sys.inventory.listings.set id _).find? other).bind _ = _
    rw [Keyed.Table.find?_set]
    split
    · rfl
    · rfl

/-- A delivery command writes the kind of one listing. It is refused while an
order names another kind, so the pending orders stay deliverable. -/
theorem Deliverability.commanded {id : ListingId} {kind : Option DigitalDeliveryKind}
    (fit : Deliverability service)
    (written : DigitalService.setKind service.gate id kind = some gate)
    (landed : after.gate = gate) (pins : after.pins = service.pins)
    (current : ∀ listing, (after.currentVersion listing).map (fun current => current.2.kind) =
      if listing = id then kind else (service.currentVersion listing).map fun row => row.2.kind)
    (free : service.inventory.versionOf id ≠ kind → service.listingDigitalInUse id = false ∨
      service.inventory.versionOf id = none) :
    Deliverability after := by
  subst landed
  obtain ⟨stepped, cells, kinds⟩ :=
    @setKind_step sampleReferences service after.gate id kind written
  refine ⟨fit.kept.step stepped, ?_, ?_, ?_⟩
  · intro listing
    rw [current]
    refine (kinds listing).trans ?_
    rw [fit.mirrored]
  · intro order cell present digital pending line listed named_kind named
    rw [cells] at present
    have before := fit.pending order cell present digital pending line listed named_kind named
    rw [kinds]
    split
    · rename_i own
      by_contra changes
      have used := listingDigitalInUse_of_pending present digital pending listed
      rw [own] at before used
      rcases free (fun same => changes (same.symm.trans before)) with unused | none_set
      · cases unused.symm.trans used
      · cases before.symm.trans none_set
    · exact before
  · intro key stored
    rw [pins] at stored
    unfold DigitalService.cell
    rw [cells]
    exact fit.pinned key stored

theorem writesDelivery_foreign {step : GatewayAction} (foreign : step.writesDelivery = false)
    (listing : ListingId) (kind : Option DigitalDeliveryKind) :
    step ≠ .service (.setDigitalVersion listing kind) := by
  rintro rfl
  cases foreign

theorem Deliverability.step {action : DigitalAction} (fit : Deliverability service)
    (ran : service.step references action = some after) : Deliverability after := by
  cases digital_step_inv ran with
  | configured => exact ⟨fit.kept, fit.mirrored, fit.pending, fit.pinned⟩
  | advanced foreign stepped unissued =>
      exact fit.gated (writesDelivery_foreign foreign) stepped rfl rfl fun _ stored => .inl stored
  | @confirmed id now step gate before cell pins foreign stepped found present issues pinned =>
      refine fit.gated (writesDelivery_foreign foreign) stepped rfl rfl ?_
      intro key stored
      rcases (pinDigitalLines_ok pinned).1 key stored with old | own
      · exact .inl old
      · rw [own]
        exact .inr ⟨cell, present, issues.2.1⟩
  | @set sender id delivery unverified now gate last free written =>
      refine fit.commanded written rfl rfl ?_ ?_
      · intro listing
        rw [DigitalService.currentVersion_set rfl rfl]
        split <;> rfl
      · intro changes
        rw [fit.mirrored] at changes ⊢
        cases current : service.currentVersion id with
        | none => exact .inr rfl
        | some row =>
            refine .inl (free ?_)
            simpa [current] using changes
  | @cleared sender id now gate last free written =>
      refine fit.commanded written rfl rfl ?_ (fun _ => .inl free)
      intro listing
      rw [DigitalService.currentVersion_cleared rfl]
      split <;> rfl
  | reread => exact fit
  | opened entitled stepped =>
      refine fit.gated ?_ stepped rfl rfl fun _ stored => .inl stored
      intro listing kind same
      cases same

theorem Deliverability.empty : Deliverability emptyDigital where
  kept := @reachable_gatewayKept sampleReferences _ Runs.anyStep (.start rfl)
  mirrored _ := rfl
  pending _ _ found := by cases found
  pinned _ found := by cases found

theorem reachable_deliverability {allowed : DigitalService → DigitalAction → Prop}
    (reached : Runs.Reachable (digitalDeliveries references) allowed service) :
    Deliverability service := by
  refine Runs.invariant (digitalDeliveries references) allowed Deliverability ?_ ?_ reached
  · intro service init
    rw [show service = emptyDigital from init]
    exact .empty
  · intro before action after fit _ stepped
    exact fit.step stepped

/-! The law. -/

variable {id : OrderId} {cell : Cell}

theorem Deliverability.delivers (fit : Deliverability service)
    (found : service.cell id = some cell) (digital : cell.book.order.fulfillment = .digital)
    (pending : cell.book.order.state = .pendingPayment) {line : Line}
    (listed : line ∈ cell.book.order.lines) {kind : DigitalDeliveryKind}
    (named : line.digitalKind = some kind) :
    ∃ current, service.currentVersion line.listing = some current ∧ current.2.kind = kind := by
  have names := fit.pending id cell found digital pending line listed kind named
  exact Option.map_eq_some_iff.mp ((fit.mirrored line.listing).symm.trans names)

theorem Deliverability.pinnable (fit : Deliverability service)
    (found : service.cell id = some cell) (digital : cell.book.order.fulfillment = .digital)
    (pending : cell.book.order.state = .pendingPayment) :
    service.unpinnable cell.book.order = false ∧
      unpinnable service.inventory cell.book.order = false := by
  constructor
  · simp only [DigitalService.unpinnable, Bool.and_eq_false_imp, List.any_eq_false]
    intro _ entry member
    obtain ⟨line, listed, listing, named⟩ := mem_instantLines member
    obtain ⟨current, stands, kind⟩ := fit.delivers found digital pending listed named
    rw [listing] at stands
    simp [stands, kind]
  · simp only [unpinnable, Bool.and_eq_false_imp, List.any_eq_false]
    intro _ entry member
    obtain ⟨line, listed, listing, named⟩ := mem_instantLines member
    have names := fit.pending id cell found digital pending line listed entry.2 named
    rw [listing] at names
    rw [show (service.inventory.listings.find? entry.1).bind Listing.currentVersion =
      some entry.2 from names]
    simp

theorem Deliverability.pins (fit : Deliverability service)
    (found : service.cell id = some cell) (digital : cell.book.order.fulfillment = .digital)
    (pending : cell.book.order.state = .pendingPayment) (keyed : service.keys = true)
    (adapter : Adapter) :
    (service.pinDigitalLines id cell.book.order adapter).isSome = true := by
  unfold DigitalService.pinDigitalLines
  split
  · rfl
  · refine pinLines_succeed (instantLinesAt_nodup _) ?_ ?_
    · intro line _
      by_contra pinned
      obtain ⟨paid, stored, receipt⟩ :=
        fit.pinned (id, line.1) (Option.isSome_iff_ne_none.mpr pinned)
      obtain rfl := Option.some.inj (found.symm.trans stored)
      have coherent := (fit.kept.sound id cell found).coherent
      exact (coherent.receipt (Option.isSome_map.trans receipt)).2 pending
    · intro line member
      obtain ⟨entry, listed, listing, named, -⟩ := mem_instantLinesAt member
      obtain ⟨current, stands, -⟩ := fit.delivers found digital pending listed named
      rw [← listing, stands]
      rfl

theorem Deliverability.confirms {action : DigitalAction} {done : Cell}
    (fit : Deliverability service)
    (found : service.cell id = some cell) (digital : cell.book.order.fulfillment = .digital)
    (pending : cell.book.order.state = .pendingPayment)
    (ran : service.step references action = some after) (present : after.cell id = some done)
    (paid : done.book.receipt.isSome = true) {line : ℕ × ListingId × DigitalDeliveryKind}
    (member : line ∈ cell.book.order.instantLinesAt) :
    ∃ current, service.currentVersion line.2.1 = some current ∧ current.2.kind = line.2.2 ∧
      after.pins.find? (id, line.1) =
        some (current.2.pin line current.1 done.book.payment.adapter) := by
  have unpaid : cell.book.receipt = none := by
    by_contra some_receipt
    have receipt : cell.book.receipt.isSome = true := Option.isSome_iff_ne_none.mpr some_receipt
    have coherent := (fit.kept.sound id cell found).coherent
    exact (coherent.receipt (Option.isSome_map.trans receipt)).2 pending
  have unmoved (same : cell = done) : False := by
    rw [← same, unpaid] at paid
    cases paid
  have kinds : ∃ current, service.currentVersion line.2.1 = some current ∧
      current.2.kind = line.2.2 := by
    obtain ⟨entry, listed, listing, named, -⟩ := mem_instantLinesAt member
    rw [← listing]
    exact fit.delivers found digital pending listed named
  cases digital_step_inv ran with
  | configured => exact (unmoved (Option.some.inj (found.symm.trans present))).elim
  | @advanced step gate foreign stepped unissued =>
      have persists := gateway_persists fit.kept stepped found present
      obtain ⟨now, own, rfl⟩ := persists.issued unpaid paid
      have delivery : done.book.order.fulfillment = cell.book.order.fulfillment :=
        congrArg Terms.fulfillment persists.terms
      exact absurd ⟨unpaid, paid, delivery.trans digital⟩
        (unissued id now own rfl cell done found present)
  | @confirmed other now step gate before confirmed pins foreign stepped stored placed issues
      pinned =>
      have persists := gateway_persists fit.kept stepped found present
      obtain ⟨at_time, own, same⟩ := persists.issued unpaid paid
      cases same
      obtain rfl := Option.some.inj (placed.symm.trans present)
      have lines : confirmed.book.order.instantLinesAt = cell.book.order.instantLinesAt := by
        unfold Order.instantLinesAt
        rw [show confirmed.book.order.lines = cell.book.order.lines from
          congrArg Terms.lines persists.terms]
      obtain ⟨current, stands, kind⟩ := kinds
      obtain ⟨version, pinned_version, copied⟩ :=
        (pinDigitalLines_ok pinned).2 line (lines ▸ member)
      obtain rfl := Option.some.inj (stands.symm.trans pinned_version)
      exact ⟨current, stands, kind, copied⟩
  | set free written =>
      have cells := (@setKind_step references _ _ _ _ written).2.1
      refine (unmoved (Option.some.inj (found.symm.trans ?_))).elim
      exact (congrArg (fun table => table.find? id) cells).symm.trans present
  | cleared free written =>
      have cells := (@setKind_step references _ _ _ _ written).2.1
      refine (unmoved (Option.some.inj (found.symm.trans ?_))).elim
      exact (congrArg (fun table => table.find? id) cells).symm.trans present
  | reread => exact (unmoved (Option.some.inj (found.symm.trans present))).elim
  | opened entitled stepped =>
      have persists := gateway_persists fit.kept stepped found present
      obtain ⟨at_time, own, same⟩ := persists.issued unpaid paid
      cases same
      -- A line is opened under the receipt, which the order does not have.
      obtain rfl := Option.some.inj (found.symm.trans entitled.found)
      have receipt := entitled.receipt
      rw [unpaid] at receipt
      cases receipt

end Invariant

/-- In every reachable state each instant line of a digital order in
`pending_payment` has a current version of its kind. The order is not
unpinnable; with the key its lines can be pinned; and the step that issues its
receipt pins each of them to that version. -/
theorem pending_digital_orders_deliver (references : References) (service : DigitalService)
    (reached : Runs.Reachable (digitalDeliveries references) Runs.anyStep service) (id : OrderId)
    (cell : Cell) (found : service.cell id = some cell)
    (digital : cell.book.order.fulfillment = .digital)
    (pending : cell.book.order.state = .pendingPayment) :
    (∀ line ∈ cell.book.order.instantLinesAt, ∃ version row, service.Delivers line version row) ∧
    service.unpinnable cell.book.order = false ∧
    unpinnable service.inventory cell.book.order = false ∧
    (service.keys = true → ∀ adapter,
      (service.pinDigitalLines id cell.book.order adapter).isSome = true) ∧
    ∀ action after done, service.step references action = some after →
      after.cell id = some done → done.book.receipt.isSome = true →
      ∀ line ∈ cell.book.order.instantLinesAt, ∃ version row, service.Delivers line version row ∧
        after.pins.find? (id, line.1) =
          some (row.pin line version done.book.payment.adapter) := by
  have fit := reachable_deliverability reached
  obtain ⟨rows, kinds⟩ := fit.pinnable found digital pending
  refine ⟨?_, rows, kinds, fit.pins found digital pending, ?_⟩
  · intro line member
    obtain ⟨entry, listed, listing, named, -⟩ := mem_instantLinesAt member
    obtain ⟨current, stands, kind⟩ := fit.delivers found digital pending listed named
    rw [listing] at stands
    obtain ⟨stored, current_row⟩ := DigitalService.currentVersion_row stands
    exact ⟨current.1, current.2, stored, current_row, kind⟩
  · intro action after done ran present paid line member
    obtain ⟨current, stands, kind, pinned⟩ :=
      fit.confirms found digital pending ran present paid member
    obtain ⟨stored, current_row⟩ := DigitalService.currentVersion_row stands
    exact ⟨current.1, current.2, ⟨stored, current_row, kind⟩, pinned⟩

def bookOrder : List DigitalAction :=
  [ .gate (.service (.registerListing "book"
      { sampleRecord 1 "USD" 2 with fulfillmentMethods := [.digital] } ⟨"seller", 0⟩ false))
  , .configure true 1000
  , .set ⟨"seller", 0⟩ "book"
      { kind := .file, deliverableId := "epub", payload := "sealed", sizeBytes := 10 } none 1
  , .gate (.service (.checkout
      { buyer := "buyer"
        lines :=
          [{ listing := "book"
             quantity := 1
             expectedRevision := 1
             fulfillment := .digital
             quantity_pos := Nat.one_pos }]
        orderIds := [7]
        locksAuthority := false
        dropClaimWindowSeconds := 600 })) ] ++
  (sampleBind 1 .paypal none none ++
    [Action.order 7 10 (.verifyPaypal (some "payment") .gateway)]).map fun action =>
      .gate (.service action)

/-- The payment of the book pins its file. -/
theorem paid_book_is_pinned :
    ∃ service, Runs.Reachable (digitalDeliveries sampleReferences) Runs.anyStep service ∧
      ∃ cell, service.cell 7 = some cell ∧ cell.book.order.instantLinesAt = [(0, "book", .file)] ∧
        ∃ after done, service.step sampleReferences (.gate (.service (.order 7 10
            (.applyFiat (some "payment") .gateway)))) = some after ∧
          after.cell 7 = some done ∧ done.book.receipt.isSome = true ∧
          ∃ version row, service.Delivers (0, "book", .file) version row ∧
            after.pins.find? (7, 0) =
              some (row.pin (0, "book", .file) version done.book.payment.adapter) := by
  obtain ⟨service, reached, cell, found, digital, pending, lines, after, stepped, done, present,
      paid⟩ :=
    Runs.exists_reachable_of_run (digitalDeliveries sampleReferences) rfl bookOrder
      (fun service => ∃ cell ∈ service.cell 7, cell.book.order.fulfillment = .digital ∧
        cell.book.order.state = .pendingPayment ∧
        cell.book.order.instantLinesAt = [(0, "book", .file)] ∧
        ∃ after ∈ service.step sampleReferences (.gate (.service (.order 7 10
            (.applyFiat (some "payment") .gateway)))),
          ∃ done ∈ after.cell 7, done.book.receipt.isSome = true)
      (Runs.meets_anyStep _ _ _) (by decide +kernel)
  obtain ⟨-, -, -, -, confirmed⟩ :=
    pending_digital_orders_deliver sampleReferences service reached 7 cell found digital pending
  exact ⟨service, reached, cell, found, lines, after, done, stepped, present, paid,
    confirmed _ after done stepped present paid (0, "book", .file) (by simp [lines])⟩

end MarketplaceService
