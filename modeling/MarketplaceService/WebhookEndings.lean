import MarketplaceService.WebhookLog

/-!
A webhook delivery ends one way. The guards of the UPDATEs keep `delivered_at`
and `dead_lettered_at` apart in every run. The rest of the law needs workers
that know the row they write to: an outcome is counted from the attempt count
at the claim, and the dead letter is inserted whether or not the UPDATE found
an open row, so a worker whose lease lapsed can set the count back and can
leave a dead letter for a delivery that another worker delivered.
-/

namespace MarketplaceService

variable {config : WebhookConfig} {service after : WebhookService} {action : WebhookAction}

/-! The condition. -/

def WebhookPhase.sent : WebhookPhase → Option ClaimedDelivery
  | .sending delivery _ => some delivery
  | _ => none

/-- The answer to a delivery is recorded on a row whose count is the claimed
one, and nothing that was delivered is given up. -/
def knowsRow (config : WebhookConfig) (service : WebhookService) : WebhookAction → Prop
  | .answer worker status =>
      ∀ pass ∈ service.pass worker, ∀ delivery ∈ pass.phase.sent,
        (∀ row ∈ service.deliveries.find? delivery.key, row.isOpen = true →
          row.attemptCount = delivery.attemptCount) ∧
        (deliveryOutcome config delivery pass.now status = .deadLettered →
          delivery.key ∉ service.sent)
  | _ => True

instance (config : WebhookConfig) (service : WebhookService) :
    DecidablePred (knowsRow config service)
  | .answer worker status =>
      inferInstanceAs (Decidable (∀ pass ∈ service.pass worker, ∀ delivery ∈ pass.phase.sent,
        (∀ row ∈ service.deliveries.find? delivery.key, row.isOpen = true →
          row.attemptCount = delivery.attemptCount) ∧
        (deliveryOutcome config delivery pass.now status = .deadLettered →
          delivery.key ∉ service.sent)))
  | .tick _ | .insert .. | .finish .. | .add .. | .delete .. | .page .. | .start _ | .advance _
  | .claim .. | .stop _ => .isTrue trivial

/-! Rows. -/

/-- What a row keeps from one step to the next. -/
structure Outlasts (row later : WebhookDelivery) : Prop where
  delivered : row.deliveredAt ≠ none → later.deliveredAt = row.deliveredAt
  deadLettered : row.deadLetteredAt ≠ none → later.deadLetteredAt = row.deadLetteredAt
  attempts : row.attemptCount ≤ later.attemptCount

theorem Outlasts.refl (row : WebhookDelivery) : Outlasts row row :=
  ⟨fun _ => rfl, fun _ => rfl, Nat.le_refl _⟩

theorem Outlasts.trans {first second third : WebhookDelivery} (left : Outlasts first second)
    (right : Outlasts second third) : Outlasts first third where
  delivered set := by
    have same := left.delivered set
    exact (right.delivered (same ▸ set)).trans same
  deadLettered set := by
    have same := left.deadLettered set
    exact (right.deadLettered (same ▸ set)).trans same
  attempts := left.attempts.trans right.attempts

theorem WebhookDelivery.open_columns {row : WebhookDelivery} (isOpen : row.isOpen = true) :
    row.deliveredAt = none ∧ row.deadLetteredAt = none := by
  simpa [WebhookDelivery.isOpen] using isOpen

theorem WebhookDelivery.bury_outlasts (row : WebhookDelivery) (now : Time) :
    Outlasts row (row.bury now) := by
  unfold WebhookDelivery.bury
  split
  · rename_i isOpen
    refine ⟨fun _ => rfl, fun set => ?_, Nat.le_refl _⟩
    exact absurd (open_columns isOpen).2 set
  · exact .refl row

theorem WebhookDelivery.record_closed {row : WebhookDelivery} {outcome : DeliveryOutcome}
    {attempt : ℕ} {status : Option ℕ} {now : Time} (closed : row.isOpen ≠ true) :
    row.record outcome attempt status now = row := by
  unfold WebhookDelivery.record
  rw [dif_neg closed]

/-- What the UPDATE writes to an open row. -/
structure Records (row later : WebhookDelivery) (outcome : DeliveryOutcome) (attempt : ℕ) :
    Prop where
  attempts : later.attemptCount = attempt
  recorded : later.recorded = row.recorded + 1
  delivered : later.deliveredAt.isSome = true ↔ outcome = .delivered
  deadLettered : later.deadLetteredAt.isSome = true ↔ outcome = .deadLettered

theorem WebhookDelivery.record_open {row : WebhookDelivery} {outcome : DeliveryOutcome}
    {attempt : ℕ} {status : Option ℕ} {now : Time} (isOpen : row.isOpen = true) :
    Records row (row.record outcome attempt status now) outcome attempt := by
  obtain ⟨undelivered, unburied⟩ := open_columns isOpen
  unfold WebhookDelivery.record
  rw [dif_pos isOpen]
  cases outcome with
  | delivered => exact ⟨rfl, rfl, by simp, by simp [unburied]⟩
  | deadLettered => exact ⟨rfl, rfl, by simp [undelivered], by simp⟩
  | retry next => exact ⟨rfl, rfl, by simp [undelivered], by simp [unburied]⟩

theorem WebhookDelivery.record_outlasts {row : WebhookDelivery} {outcome : DeliveryOutcome}
    {attempt : ℕ} {status : Option ℕ} {now : Time}
    (grows : row.isOpen = true → row.attemptCount ≤ attempt) :
    Outlasts row (row.record outcome attempt status now) := by
  by_cases isOpen : row.isOpen = true
  · obtain ⟨undelivered, unburied⟩ := open_columns isOpen
    refine ⟨fun set => absurd undelivered set, fun set => absurd unburied set, ?_⟩
    rw [(record_open isOpen).attempts]
    exact grows isOpen
  · rw [record_closed isOpen]
    exact .refl row

/-! The invariant. -/

def WebhookPhase.claims : WebhookPhase → List ClaimedDelivery
  | .deliveries claimed => claimed
  | .sending delivery rest => delivery :: rest
  | _ => []

/-- A pass delivers what was inserted. -/
def Claims (service : WebhookService) : Prop :=
  ∀ worker pass, service.pass worker = some pass → ∀ delivery ∈ pass.phase.claims,
    delivery.key ∈ service.enqueued

theorem Claims.step (claims : Claims service) (filed : Filed service)
    (move : WebhookMove config service action after) : Claims after := by
  intro worker pass running delivery member
  apply move.keeps_enqueued
  cases move.pass_origin running with
  | kept runs still => exact claims worker pass runs delivery member
  | started => cases member
  | @advanced old middle next acts runs moved written =>
      have before := claims worker old runs delivery
      cases moved with
      | took phase free =>
          rw [phase] at before
          exact before member
      | left phase =>
          rw [phase] at before
          exact before (List.mem_cons_of_mem _ member)
      | _ => cases member
  | claimed runs rows =>
      obtain ⟨row, found⟩ := rows delivery member
      exact filed.stocked _ _ found
  | answered runs phase =>
      apply claims worker _ runs delivery
      rw [phase]
      exact List.mem_cons_of_mem _ member

/-- The records of the run agree with the rows, and a dead letter is one of a
delivery that was dead-lettered. -/
structure Ends (service : WebhookService) : Prop where
  counted : ∀ key row, service.deliveries.find? key = some row → row.attemptCount = row.recorded
  sent : ∀ key row, service.deliveries.find? key = some row →
    (key ∈ service.sent ↔ row.deliveredAt.isSome = true)
  buried : ∀ key row, service.deliveries.find? key = some row →
    (key ∈ service.buried ↔ row.deadLetteredAt.isSome = true)
  gone : ∀ key ∈ service.enqueued, service.deliveries.find? key = none →
    key ∈ service.sent ∨ key ∈ service.buried
  known : ∀ key, key ∈ service.sent ∨ key ∈ service.buried → key ∈ service.enqueued
  either : ∀ key ∈ service.sent, key ∉ service.buried
  lettered : ∀ key letter, service.deadLetters.find? key = some letter → key ∈ service.buried

theorem Ends.congr {middle : WebhookService} (ends : Ends service)
    (deliveries : middle.deliveries = service.deliveries) (sent : middle.sent = service.sent)
    (buried : middle.buried = service.buried) (enqueued : middle.enqueued = service.enqueued)
    (letters : middle.deadLetters = service.deadLetters) : Ends middle := by
  constructor
  · rw [deliveries]
    exact ends.counted
  · rw [deliveries, sent]
    exact ends.sent
  · rw [deliveries, buried]
    exact ends.buried
  · rw [enqueued, deliveries, sent, buried]
    exact ends.gone
  · rw [enqueued, sent, buried]
    exact ends.known
  · rw [sent, buried]
    exact ends.either
  · rw [letters, buried]
    exact ends.lettered

theorem Ends.of_open (ends : Ends service) {key : DeliveryKey} {row : WebhookDelivery}
    (found : service.deliveries.find? key = some row) (isOpen : row.isOpen = true) :
    key ∉ service.sent ∧ key ∉ service.buried := by
  obtain ⟨undelivered, unburied⟩ := WebhookDelivery.open_columns isOpen
  constructor
  · rw [ends.sent key row found, undelivered]
    simp
  · rw [ends.buried key row found, unburied]
    simp

theorem Ends.of_closed (ends : Ends service) {key : DeliveryKey} {row : WebhookDelivery}
    (found : service.deliveries.find? key = some row) (closed : row.isOpen ≠ true) :
    key ∈ service.sent ∨ key ∈ service.buried := by
  rw [ends.sent key row found, ends.buried key row found]
  by_contra neither
  rw [not_or] at neither
  apply closed
  simpa [WebhookDelivery.isOpen] using neither

/-! Steps. -/

theorem mem_openKeys {id : EndpointId} {key : DeliveryKey} {row : WebhookDelivery}
    (found : service.deliveries.find? key = some row) :
    key ∈ service.openKeys id ↔ key.1 = id ∧ row.isOpen = true := by
  simp only [WebhookService.openKeys, List.mem_map, List.mem_filter, Bool.and_eq_true, beq_iff_eq]
  constructor
  · rintro ⟨entry, ⟨member, same, isOpen⟩, rfl⟩
    rw [service.deliveries.find?_of_mem member] at found
    cases found
    exact ⟨same, isOpen⟩
  · rintro ⟨same, isOpen⟩
    exact ⟨(key, row), ⟨Keyed.lookup_mem _ _ _ found, same, isOpen⟩, rfl⟩

theorem openKeys_stored {id : EndpointId} {key : DeliveryKey}
    (member : key ∈ service.openKeys id) :
    ∃ row, service.deliveries.find? key = some row ∧ row.isOpen = true := by
  simp only [WebhookService.openKeys, List.mem_map, List.mem_filter, Bool.and_eq_true] at member
  obtain ⟨entry, ⟨listed, -, isOpen⟩, rfl⟩ := member
  exact ⟨entry.2, service.deliveries.find?_of_mem listed, isOpen⟩

theorem WebhookDelivery.bury_columns (row : WebhookDelivery) (now : Time) :
    (row.bury now).attemptCount = row.attemptCount ∧ (row.bury now).recorded = row.recorded ∧
      (row.bury now).deliveredAt = row.deliveredAt ∧
      ((row.bury now).deadLetteredAt.isSome = true ↔
        row.isOpen = true ∨ row.deadLetteredAt.isSome = true) := by
  unfold WebhookDelivery.bury
  split
  · rename_i isOpen
    exact ⟨rfl, rfl, rfl, by simp [isOpen]⟩
  · rename_i closed
    exact ⟨rfl, rfl, rfl, by simp [closed]⟩

theorem Ends.deleted {id : EndpointId} {endpoint : WebhookEndpoint} (ends : Ends service)
    (filed : Filed service) :
    Ends { service with
      endpoints := service.endpoints.set id endpoint
      deliveries := service.deliveries.mapRows fun key row =>
        if key.1 = id then row.bury service.now else row
      buried := service.openKeys id ++ service.buried } := by
  -- A row of the new table is a row of the old one, buried if it is the endpoint's.
  have rows : ∀ key later, (service.deliveries.mapRows fun key row =>
      if key.1 = id then row.bury service.now else row).find? key = some later →
      ∃ row, service.deliveries.find? key = some row ∧
        later.attemptCount = row.attemptCount ∧ later.recorded = row.recorded ∧
        later.deliveredAt = row.deliveredAt ∧
        (later.deadLetteredAt.isSome = true ↔
          key.1 = id ∧ row.isOpen = true ∨ row.deadLetteredAt.isSome = true) := by
    intro key later stored
    rw [Keyed.Table.find?_mapRows] at stored
    obtain ⟨row, found, changed⟩ := Option.map_eq_some_iff.mp stored
    refine ⟨row, found, ?_⟩
    split at changed
    · rename_i same
      obtain ⟨attempts, recorded, delivered, buried⟩ := row.bury_columns service.now
      subst changed
      exact ⟨attempts, recorded, delivered, by rw [buried]; simp [same]⟩
    · rename_i other
      subst changed
      exact ⟨rfl, rfl, rfl, by simp [other]⟩
  constructor
  · intro key later stored
    obtain ⟨row, found, attempts, recorded, -⟩ := rows key later stored
    rw [attempts, recorded]
    exact ends.counted key row found
  · intro key later stored
    obtain ⟨row, found, -, -, delivered, -⟩ := rows key later stored
    rw [delivered]
    exact ends.sent key row found
  · intro key later stored
    obtain ⟨row, found, -, -, -, buried⟩ := rows key later stored
    rw [buried, List.mem_append, mem_openKeys found, ends.buried key row found]
  · intro key listed unset
    rw [Keyed.Table.find?_mapRows, Option.map_eq_none_iff] at unset
    exact (ends.gone key listed unset).imp_right fun before => List.mem_append_right _ before
  · rintro key (sent | buried)
    · exact ends.known key (.inl sent)
    · rcases List.mem_append.mp buried with new | before
      · obtain ⟨row, found, -⟩ := openKeys_stored new
        exact filed.stocked key row found
      · exact ends.known key (.inr before)
  · intro key sent buried
    rcases List.mem_append.mp buried with new | before
    · obtain ⟨row, found, isOpen⟩ := openKeys_stored new
      exact (ends.of_open found isOpen).1 sent
    · exact ends.either key sent before
  · intro key letter stored
    exact List.mem_append_right _ (ends.lettered key letter stored)

theorem Ends.purged (ends : Ends service) (kept : DeliveryKey → Bool)
    (ended : ∀ key row, service.deliveries.find? key = some row → kept key = false →
      row.isOpen ≠ true) :
    Ends { service with deliveries := service.deliveries.keep kept } := by
  have rows : ∀ key later, (service.deliveries.keep kept).find? key = some later →
      service.deliveries.find? key = some later := by
    intro key later stored
    rw [Keyed.Table.find?_keep] at stored
    split at stored
    · exact stored
    · cases stored
  constructor
  · exact fun key later stored => ends.counted key later (rows key later stored)
  · exact fun key later stored => ends.sent key later (rows key later stored)
  · exact fun key later stored => ends.buried key later (rows key later stored)
  · intro key listed unset
    cases found : service.deliveries.find? key with
    | none => exact ends.gone key listed found
    | some row =>
        rw [Keyed.Table.find?_keep, found] at unset
        split at unset
        · cases unset
        · rename_i dropped
          exact ends.of_closed found (ended key row found (by simpa using dropped))
  · exact ends.known
  · exact ends.either
  · exact ends.lettered

theorem purgeDue_mem {now : Time} {ended : List (DeliveryKey × Time)} {key : DeliveryKey}
    (due : key ∈ WebhookService.purgeDue config now ended) : ∃ time, (key, time) ∈ ended := by
  obtain ⟨entry, taken, rfl⟩ := List.mem_map.mp due
  have sorted := (List.mem_insertionSort _).mp (List.mem_of_mem_take taken)
  exact ⟨entry.2, List.mem_of_mem_filter sorted⟩

theorem Ends.purgeDeliveries (ends : Ends service) (now : Time) :
    Ends (service.purgeDeliveries config now) := by
  apply ends.purged
  intro key row found dropped isOpen
  simp only [Bool.not_eq_eq_eq_not, Bool.not_false, List.contains_eq_mem, decide_eq_true_eq]
    at dropped
  obtain ⟨time, listed⟩ := purgeDue_mem dropped
  obtain ⟨entry, member, mapped⟩ := List.mem_filterMap.mp listed
  obtain ⟨moment, endedAt, same⟩ := Option.map_eq_some_iff.mp mapped
  cases same
  rw [service.deliveries.find?_of_mem member] at found
  cases found
  obtain ⟨undelivered, unburied⟩ := WebhookDelivery.open_columns isOpen
  simp [WebhookDelivery.endedAt, undelivered, unburied] at endedAt

theorem Ends.stored {id : EndpointId} {rows : List DomainEvent} {next : ℕ}
    {rest : List EndpointId} {endpoint : WebhookEndpoint} {now : Time} (ends : Ends service)
    (filed : Filed service) (orderly : Orderly service)
    (reads : PhaseReads service (.chosen id rows next rest)) :
    Ends ((service.setCursor id endpoint next now).insertDeliveries id now rows) := by
  have inserts := insertDeliveries_inserts id now rows (service.setCursor id endpoint next now)
  have fresh : ∀ row ∈ rows, (id, row.id) ∉ service.enqueued :=
    fun row member => filed.fresh orderly reads member
  obtain ⟨deliveries, enqueued, framed⟩ :=
    insertDeliveries_frame id now rows (service.setCursor id endpoint next now)
  have sent : ((service.setCursor id endpoint next now).insertDeliveries id now rows).sent =
      service.sent := by
    rw [framed]
    rfl
  have buried : ((service.setCursor id endpoint next now).insertDeliveries id now rows).buried =
      service.buried := by
    rw [framed]
    rfl
  have letters : ((service.setCursor id endpoint next now).insertDeliveries id now
      rows).deadLetters = service.deadLetters := by
    rw [framed]
    rfl
  constructor
  · intro key later stored
    rcases inserts.delivery key later stored with old | ⟨-, new, -⟩
    · exact ends.counted key later old
    · rw [new]
      rfl
  · intro key later stored
    rw [sent]
    rcases inserts.delivery key later stored with old | ⟨-, rfl, -, row, member, rfl⟩
    · exact ends.sent key later old
    · simp only [WebhookService.newDelivery, Option.isSome_none, Bool.false_eq_true, iff_false]
      exact fun listed => fresh row member (ends.known _ (.inl listed))
  · intro key later stored
    rw [buried]
    rcases inserts.delivery key later stored with old | ⟨-, rfl, -, row, member, rfl⟩
    · exact ends.buried key later old
    · simp only [WebhookService.newDelivery, Option.isSome_none, Bool.false_eq_true, iff_false]
      exact fun listed => fresh row member (ends.known _ (.inr listed))
  · intro key listed unset
    rw [sent, buried]
    rcases inserts.origin key listed with old | ⟨row, member, rfl⟩
    · apply ends.gone key old
      by_contra present
      exact inserts.stays key present unset
    · exact absurd unset (inserts.placed row member)
  · intro key
    rw [sent, buried]
    exact fun either => inserts.kept key (ends.known key either)
  · rw [sent, buried]
    exact ends.either
  · rw [letters, buried]
    exact ends.lettered

theorem persistOutcome_row {delivery : ClaimedDelivery} {now : Time} {status : Option ℕ}
    {key : DeliveryKey} {later : WebhookDelivery}
    (stored : (service.persistOutcome config delivery now status).deliveries.find? key =
      some later) :
    ∃ row, service.deliveries.find? key = some row ∧
      (later = row ∧ (key ≠ delivery.key ∨ row.isOpen ≠ true) ∨
        key = delivery.key ∧ row.isOpen = true ∧
          Records row later (deliveryOutcome config delivery now status)
            (delivery.attemptCount + 1)) := by
  rw [persistOutcome_deliveries, Keyed.Table.find?_mapRows] at stored
  obtain ⟨row, found, changed⟩ := Option.map_eq_some_iff.mp stored
  refine ⟨row, found, ?_⟩
  split at changed
  · rename_i same
    by_cases isOpen : row.isOpen = true
    · subst changed
      exact .inr ⟨same, isOpen, WebhookDelivery.record_open isOpen⟩
    · rw [WebhookDelivery.record_closed isOpen] at changed
      exact .inl ⟨changed.symm, .inr isOpen⟩
  · rename_i other
    exact .inl ⟨changed.symm, .inl other⟩

/-- What an answer adds to the records: the key of a row that was open, in the
one that fits the outcome. -/
structure Marks (service after : WebhookService) (key : DeliveryKey) (outcome : DeliveryOutcome) :
    Prop where
  sent : ∀ other, other ∈ after.sent ↔
    other ∈ service.sent ∨ other = key ∧ service.isOpen key = true ∧ outcome = .delivered
  buried : ∀ other, other ∈ after.buried ↔
    other ∈ service.buried ∨ other = key ∧ service.isOpen key = true ∧ outcome = .deadLettered
  letters : ∀ other letter, after.deadLetters.find? other = some letter →
    (∃ old, service.deadLetters.find? other = some old) ∨ other = key ∧ outcome = .deadLettered
  enqueued : after.enqueued = service.enqueued

theorem mem_marked {key other : DeliveryKey} {keys : List DeliveryKey} {hit : Bool} :
    other ∈ (if hit then key :: keys else keys) ↔ other ∈ keys ∨ other = key ∧ hit = true := by
  cases hit with
  | false => simp
  | true => simp [or_comm]

theorem insertDeadLetter_frame (service : WebhookService) (key : DeliveryKey)
    (letter : DeadLetter) : ∃ deadLetters,
      service.insertDeadLetter key letter = { service with deadLetters } ∧
      ∀ other found, deadLetters.find? other = some found →
        (∃ old, service.deadLetters.find? other = some old) ∨ other = key := by
  unfold WebhookService.insertDeadLetter
  cases present : service.deadLetters.find? key with
  | some old => exact ⟨service.deadLetters, rfl, fun other found stored => .inl ⟨found, stored⟩⟩
  | none =>
      refine ⟨_, rfl, fun other found stored => ?_⟩
      rw [Keyed.Table.find?_set] at stored
      split at stored
      · exact .inr ‹_›
      · exact .inl ⟨found, stored⟩

theorem persistOutcome_marks (config : WebhookConfig) (service : WebhookService)
    (delivery : ClaimedDelivery) (now : Time)
    (status : Option ℕ) :
    Marks service (service.persistOutcome config delivery now status) delivery.key
      (deliveryOutcome config delivery now status) := by
  unfold WebhookService.persistOutcome
  cases deliveryOutcome config delivery now status with
  | delivered =>
      exact ⟨fun other => by simp [mem_marked], fun other => by simp,
        fun other letter stored => .inl ⟨letter, stored⟩, rfl⟩
  | deadLettered =>
      obtain ⟨letters, framed, origin⟩ := insertDeadLetter_frame
        { service with
          deliveries := service.deliveries.mapRows fun key row =>
            if key = delivery.key then
              row.record .deadLettered (delivery.attemptCount + 1) status now
            else row
          buried := if service.isOpen delivery.key then delivery.key :: service.buried
            else service.buried }
        delivery.key ⟨delivery.attemptCount + 1, status, now⟩
      simp only [framed]
      exact ⟨fun other => by simp, fun other => by simp [mem_marked],
        fun other letter stored => (origin other letter stored).imp_right fun same => ⟨same, rfl⟩,
        rfl⟩
  | retry next =>
      exact ⟨fun other => by simp, fun other => by simp,
        fun other letter stored => .inl ⟨letter, stored⟩, rfl⟩

theorem isOpen_iff {key : DeliveryKey} {row : WebhookDelivery}
    (found : service.deliveries.find? key = some row) :
    service.isOpen key = true ↔ row.isOpen = true := by
  simp [WebhookService.isOpen, found]

theorem isOpen_stored {key : DeliveryKey} (isOpen : service.isOpen key = true) :
    ∃ row, service.deliveries.find? key = some row ∧ row.isOpen = true := by
  unfold WebhookService.isOpen at isOpen
  cases found : service.deliveries.find? key with
  | none =>
      rw [found] at isOpen
      cases isOpen
  | some row =>
      rw [found] at isOpen
      exact ⟨row, rfl, isOpen⟩

theorem Ends.answered {delivery : ClaimedDelivery} {now : Time} {status : Option ℕ}
    (ends : Ends service) (listed : delivery.key ∈ service.enqueued)
    (current : ∀ row ∈ service.deliveries.find? delivery.key, row.isOpen = true →
      row.attemptCount = delivery.attemptCount)
    (undelivered : deliveryOutcome config delivery now status = .deadLettered →
      delivery.key ∉ service.sent) :
    Ends (service.persistOutcome config delivery now status) := by
  have marks := persistOutcome_marks config service delivery now status
  constructor
  · intro key later stored
    obtain ⟨row, found, ⟨rfl, -⟩ | ⟨rfl, isOpen, records⟩⟩ := persistOutcome_row stored
    · exact ends.counted key _ found
    · rw [records.attempts, records.recorded, ← ends.counted _ row found,
        current row found isOpen]
  · intro key later stored
    rw [marks.sent]
    obtain ⟨row, found, ⟨rfl, other | closed⟩ | ⟨rfl, isOpen, records⟩⟩ := persistOutcome_row stored
    · rw [ends.sent key _ found]
      simp [other]
    · rw [ends.sent key _ found]
      refine or_iff_left ?_
      rintro ⟨rfl, isOpen, -⟩
      exact closed ((isOpen_iff found).mp isOpen)
    · rw [records.delivered, isOpen_iff found]
      simp [(ends.of_open found isOpen).1, isOpen]
  · intro key later stored
    rw [marks.buried]
    obtain ⟨row, found, ⟨rfl, other | closed⟩ | ⟨rfl, isOpen, records⟩⟩ := persistOutcome_row stored
    · rw [ends.buried key _ found]
      simp [other]
    · rw [ends.buried key _ found]
      refine or_iff_left ?_
      rintro ⟨rfl, isOpen, -⟩
      exact closed ((isOpen_iff found).mp isOpen)
    · rw [records.deadLettered, isOpen_iff found]
      simp [(ends.of_open found isOpen).2, isOpen]
  · intro key member unset
    rw [marks.enqueued] at member
    rw [persistOutcome_deliveries, Keyed.Table.find?_mapRows, Option.map_eq_none_iff] at unset
    rw [marks.sent, marks.buried]
    exact (ends.gone key member unset).imp .inl .inl
  · intro key
    rw [marks.sent, marks.buried, marks.enqueued]
    rintro ((sent | ⟨rfl, -⟩) | buried | ⟨rfl, -⟩)
    · exact ends.known key (.inl sent)
    · exact listed
    · exact ends.known key (.inr buried)
    · exact listed
  · intro key
    rw [marks.sent, marks.buried]
    rintro (sent | ⟨rfl, isOpen, delivered⟩) (buried | ⟨same, -, buries⟩)
    · exact ends.either key sent buried
    · exact undelivered buries (same ▸ sent)
    · obtain ⟨row, found, rowOpen⟩ := isOpen_stored isOpen
      exact (ends.of_open found rowOpen).2 buried
    · rw [delivered] at buries
      cases buries
  · intro key letter stored
    rw [marks.buried]
    rcases marks.letters key letter stored with ⟨old, before⟩ | ⟨rfl, buries⟩
    · exact .inl (ends.lettered key old before)
    · -- The UPDATE hit an open row, or the delivery had ended before, and not as delivered.
      by_cases isOpen : service.isOpen delivery.key = true
      · exact .inr ⟨rfl, isOpen, buries⟩
      · have ended : delivery.key ∈ service.sent ∨ delivery.key ∈ service.buried := by
          cases found : service.deliveries.find? delivery.key with
          | none => exact ends.gone _ listed found
          | some row =>
              rw [isOpen_iff found] at isOpen
              exact ends.of_closed found isOpen
        exact .inl (ended.resolve_left (undelivered buries))

theorem Ends.leased (ends : Ends service) (keys : List DeliveryKey) (leaseUntil : Time) :
    Ends (service.leaseDeliveries keys leaseUntil) := by
  have rows : ∀ key later,
      (service.leaseDeliveries keys leaseUntil).deliveries.find? key = some later →
      ∃ row, service.deliveries.find? key = some row ∧
        later.attemptCount = row.attemptCount ∧ later.recorded = row.recorded ∧
        later.deliveredAt = row.deliveredAt ∧ later.deadLetteredAt = row.deadLetteredAt := by
    intro key later stored
    rw [WebhookService.leaseDeliveries, Keyed.Table.find?_mapRows] at stored
    obtain ⟨row, found, changed⟩ := Option.map_eq_some_iff.mp stored
    refine ⟨row, found, ?_⟩
    split at changed <;> subst changed <;> exact ⟨rfl, rfl, rfl, rfl⟩
  constructor
  · intro key later stored
    obtain ⟨row, found, attempts, recorded, -⟩ := rows key later stored
    rw [attempts, recorded]
    exact ends.counted key row found
  · intro key later stored
    obtain ⟨row, found, -, -, delivered, -⟩ := rows key later stored
    rw [delivered]
    exact ends.sent key row found
  · intro key later stored
    obtain ⟨row, found, -, -, -, buried⟩ := rows key later stored
    rw [buried]
    exact ends.buried key row found
  · intro key listed unset
    rw [WebhookService.leaseDeliveries, Keyed.Table.find?_mapRows, Option.map_eq_none_iff]
      at unset
    exact ends.gone key listed unset
  · exact ends.known
  · exact ends.either
  · exact ends.lettered

theorem Ends.empty : Ends .empty where
  counted key row found := by cases found
  sent key row found := by cases found
  buried key row found := by cases found
  gone key listed := by cases listed
  known key := by
    rintro (sent | buried)
    · cases sent
    · cases buried
  either key sent := by cases sent
  lettered key letter stored := by cases stored

theorem Claims.empty : Claims .empty := by
  intro worker pass running
  cases running

theorem Ends.step (ends : Ends service) (claims : Claims service) (sound : WebhooksSound service)
    (allowed : knowsRow config service action) (move : WebhookMove config service action after) :
    Ends after := by
  cases move with
  | deleted found free => exact ends.deleted sound.filed
  | @advanced worker pass middle next running moved =>
      cases moved with
      | purgeLetters phase =>
          refine ⟨ends.counted, ends.sent, ends.buried, ends.gone, ends.known, ends.either, ?_⟩
          intro key letter stored
          simp only [WebhookService.setPhase, WebhookService.purgeLetters,
            Keyed.Table.find?_keep] at stored
          split at stored
          · exact ends.lettered key letter stored
          · cases stored
      | purgeDeliveries phase =>
          exact (ends.purgeDeliveries pass.now).congr rfl rfl rfl rfl rfl
      | @stored id cursor rows rest endpoint phase found =>
          have reads := sound.works worker pass running
          rw [phase] at reads
          exact (@Ends.stored service id rows cursor rest endpoint pass.now ends sound.filed
            sound.orderly reads).congr rfl rfl rfl rfl rfl
      | _ => exact ends.congr rfl rfl rfl rfl rfl
  | claimed running phase rows => exact (ends.leased _ _).congr rfl rfl rfl rfl rfl
  | @answered worker status pass delivery rest running phase =>
      obtain ⟨current, undelivered⟩ := allowed pass running delivery (by rw [phase]; rfl)
      have listed : delivery.key ∈ service.enqueued := by
        apply claims worker pass running
        rw [phase]
        exact List.mem_cons_self
      exact (ends.answered listed current undelivered).congr rfl rfl rfl rfl rfl
  | _ => exact ends.congr rfl rfl rfl rfl rfl

theorem outlasts_step (sound : WebhooksSound service) (allowed : knowsRow config service action)
    (move : WebhookMove config service action after) {key : DeliveryKey} {later : WebhookDelivery}
    (listed : key ∈ service.enqueued) (stored : after.deliveries.find? key = some later) :
    ∃ row, service.deliveries.find? key = some row ∧ Outlasts row later := by
  cases move.delivery_origin stored with
  | kept found => exact ⟨_, found, .refl _⟩
  | leased found => exact ⟨_, found, fun _ => rfl, fun _ => rfl, Nat.le_refl _⟩
  | buried found => exact ⟨_, found, WebhookDelivery.bury_outlasts _ _⟩
  | @recorded worker status pass delivery rest row acts running phase same found =>
      subst acts
      refine ⟨row, found, WebhookDelivery.record_outlasts fun isOpen => ?_⟩
      have current := (allowed pass running delivery (by rw [phase]; rfl)).1 row (same ▸ found)
        isOpen
      omega
  | @enqueued worker pass rows next rest event running phase member same filed =>
      have reads := sound.works worker pass running
      rw [phase] at reads
      have fresh := sound.filed.fresh sound.orderly reads member
      rw [same] at fresh
      exact absurd listed fresh

/-- Over every run that meets the condition. -/
theorem webhook_deliveries_end_once (config : WebhookConfig) (service later : WebhookService)
    (actions : List WebhookAction)
    (reached : Runs.Reachable (webhooks config) (knowsRow config) service)
    (meets : Runs.Meets (webhooks config) (knowsRow config) service actions)
    (ran : Runs.run (webhooks config) service actions = some later) :
    (∀ key row, service.deliveries.find? key = some row →
      (row.deliveredAt = none ∨ row.deadLetteredAt = none) ∧ row.attemptCount = row.recorded ∧
        (key ∈ service.sent ↔ row.deliveredAt.isSome = true) ∧
        (key ∈ service.buried ↔ row.deadLetteredAt.isSome = true)) ∧
    (∀ key ∈ service.sent, key ∉ service.buried) ∧
    (∀ key letter, service.deadLetters.find? key = some letter →
      key ∈ service.buried ∧ key ∉ service.sent) ∧
    ∀ key row next, service.deliveries.find? key = some row →
      later.deliveries.find? key = some next →
      (row.deliveredAt ≠ none → next.deliveredAt = row.deliveredAt) ∧
      (row.deadLetteredAt ≠ none → next.deadLetteredAt = row.deadLetteredAt) ∧
      row.attemptCount ≤ next.attemptCount := by
  have invariant : ∀ state, Runs.Reachable (webhooks config) (knowsRow config) state →
      Claims state ∧ Ends state := by
    intro state known
    refine Runs.invariant_under (webhooks config) (knowsRow config) WebhooksSound
      (fun state => Claims state ∧ Ends state) (fun state => reachable_webhooks_sound) ?_ ?_ known
    · rintro start rfl
      exact ⟨.empty, .empty⟩
    · intro before action after sound ⟨claims, ends⟩ allowed stepped
      have move := webhook_step_inverts stepped
      exact ⟨claims.step sound.filed move, ends.step claims sound allowed move⟩
  have ends := (invariant service reached).2
  refine ⟨fun key row found => ?_, ends.either, fun key letter stored => ?_,
    fun key row next found stored => ?_⟩
  · exact ⟨row.exclusive, ends.counted key row found, ends.sent key row found,
      ends.buried key row found⟩
  · exact ⟨ends.lettered key letter stored, fun sent =>
      ends.either key sent (ends.lettered key letter stored)⟩
  · have kept : key ∈ later.enqueued ∧ ∀ last, later.deliveries.find? key = some last →
        Outlasts row last := by
      refine @Runs.kept_by_run _ _ _ _ (fun state => key ∈ state.enqueued ∧
        ∀ last, state.deliveries.find? key = some last → Outlasts row last) ?_ _ _ _ reached ?_
        meets ran
      · intro before action after prior ⟨listed, outlasts⟩ allowed stepped
        have move := webhook_step_inverts stepped
        refine ⟨move.keeps_enqueued listed, fun last present => ?_⟩
        obtain ⟨middle, held, further⟩ := outlasts_step (reachable_webhooks_sound prior) allowed
          move listed present
        exact (outlasts middle held).trans further
      · refine ⟨(reachable_webhooks_sound reached).filed.stocked key row found, ?_⟩
        intro last present
        rw [found] at present
        cases present
        exact .refl row
    have outlasts := kept.2 next stored
    exact ⟨outlasts.delivered, outlasts.deadLettered, outlasts.attempts⟩

/-! Samples. -/

theorem sampleBatch_pos : 0 < 100 := by decide

def sampleWebhooks : WebhookConfig where
  leaseSeconds := 30
  maxAttempts := 1
  maxAgeHours := 24
  enqueueBatchSize := 100
  enqueueEndpointsPerPass := 100
  maxPendingPerSeller := 10000
  maxEndpointsPerSeller := 100
  terminalRetentionDays := 30
  purgeBatchSize := 500
  retryBaseSeconds := 5
  retryMaxSeconds := 3600
  eventRetentionDays := 30
  positiveBatch := sampleBatch_pos

def lampEvent (id : EventId) : DomainEvent where
  id := id
  sequence := 0
  aggregateId := "listing:alice:lamp"
  revision := id
  kind := "listing.synced"
  occurredAt := 90
  sellerPubky := some "alice"

def claimedDelivery : List WebhookAction :=
  [.tick 100, .add 1 "alice" "https://alice.example/hook", .insert 1 (lampEvent 1),
    .finish 1 true, .start 1] ++ List.replicate 8 (.advance 1) ++ [.claim 1 []]

/-- The worker delivers it, and a later pass finds nothing to do. -/
theorem delivered_lamp_stays_delivered :
    ∃ service later, Runs.Reachable (webhooks sampleWebhooks) (knowsRow sampleWebhooks) service ∧
      Runs.run (webhooks sampleWebhooks) service [.tick 200, .start 2] = some later ∧
      ∃ row next, service.deliveries.find? (1, 1) = some row ∧
        later.deliveries.find? (1, 1) = some next ∧ row.deliveredAt = some 100 ∧
        next.deliveredAt = row.deliveredAt := by
  obtain ⟨service, reached, later, ran, meets, row, found, next, present, delivered⟩ :=
    @Runs.exists_reachable_of_run _ _ (webhooks sampleWebhooks) (knowsRow sampleWebhooks) .empty
      rfl (claimedDelivery ++ [.advance 1, .answer 1 (some 200)])
      (fun service =>
        ∃ later ∈ Runs.run (webhooks sampleWebhooks) service [.tick 200, .start 2],
          Runs.Meets (webhooks sampleWebhooks) (knowsRow sampleWebhooks) service
            [.tick 200, .start 2] ∧
          ∃ row ∈ service.deliveries.find? (1, 1), ∃ next ∈ later.deliveries.find? (1, 1),
            row.deliveredAt = some 100)
      (by decide +kernel) (by decide +kernel)
  have kept := (webhook_deliveries_end_once sampleWebhooks service later _ reached meets
    ran).2.2.2 (1, 1) row next found present
  have set : row.deliveredAt ≠ none := by
    rw [delivered]
    intro unset
    cases unset
  exact ⟨service, later, reached, ran, row, next, found, present, delivered, kept.1 set⟩

/-- The lease lapses, a second worker delivers the event, and the first one,
whose call fails, leaves a dead letter. -/
theorem delivered_lamp_gets_a_dead_letter :
    ∃ service, Runs.Reachable (webhooks sampleWebhooks) Runs.anyStep service ∧
      ∃ row ∈ service.deliveries.find? (1, 1), row.deliveredAt = some 131 ∧
        row.deadLetteredAt = none ∧ (1, 1) ∉ service.buried ∧
        (service.deadLetters.find? (1, 1)).isSome = true :=
  @Runs.exists_reachable_of_run _ _ (webhooks sampleWebhooks) Runs.anyStep .empty rfl
    (claimedDelivery ++ [.tick 131, .start 2] ++ List.replicate 8 (.advance 2) ++
      [.claim 2 [], .advance 2, .answer 2 (some 200), .advance 1, .answer 1 (some 500)]) _
    (Runs.meets_anyStep _ _ _) (by decide +kernel)

end MarketplaceService
