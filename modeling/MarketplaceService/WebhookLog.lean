import MarketplaceService.WebhookSteps

/-!
What holds of the event log, the locks and the cursors in every run: an event
stands in one place, an endpoint has one pass at work, a pass works from the
cursor that its endpoint stores, and a delivery is inserted at most once.
-/

namespace MarketplaceService

variable {config : WebhookConfig} {service after : WebhookService} {action : WebhookAction}

/-! The readers. -/

theorem mem_sellerEvents {events : List DomainEvent} {seller : Pubky} {cursor : ℕ} {now : Time}
    {event : DomainEvent} :
    event ∈ config.sellerEvents events seller cursor now ↔
      event ∈ events ∧ event.sellerPubky = some seller ∧ cursor < event.sequence ∧
        config.expired now event = false := by
  simp only [WebhookConfig.sellerEvents, List.mem_insertionSort, List.mem_filter,
    Bool.and_eq_true, beq_iff_eq, decide_eq_true_eq, Bool.not_eq_true', and_assoc]

instance : Std.Total fun left right : DomainEvent => left.sequence ≤ right.sequence :=
  ⟨fun left right => Nat.le_total left.sequence right.sequence⟩

instance : IsTrans DomainEvent fun left right => left.sequence ≤ right.sequence :=
  ⟨fun _ _ _ first second => Nat.le_trans first second⟩

theorem sellerEvents_ordered (events : List DomainEvent) (seller : Pubky) (cursor : ℕ)
    (now : Time) :
    (config.sellerEvents events seller cursor now).Pairwise
      fun left right => left.sequence ≤ right.sequence :=
  List.pairwise_insertionSort _ _

theorem le_maxSequence {events : List DomainEvent} {event : DomainEvent}
    (member : event ∈ events) : event.sequence ≤ maxSequence events := by
  induction events with
  | nil => cases member
  | cons head rest ih =>
      cases member with
      | head => exact le_max_left _ _
      | tail _ there => exact (ih there).trans (le_max_right _ _)

theorem maxSequence_le {events : List DomainEvent} {bound : ℕ}
    (below : ∀ event ∈ events, event.sequence ≤ bound) : maxSequence events ≤ bound := by
  induction events with
  | nil => exact Nat.zero_le bound
  | cons head rest ih =>
      exact max_le (below head List.mem_cons_self)
        (ih fun event member => below event (List.mem_cons_of_mem head member))

/-- The rows of a full batch end with the next cursor. -/
theorem le_lastSequence {rows : List DomainEvent} (cursor : ℕ)
    (ordered : rows.Pairwise fun left right => left.sequence ≤ right.sequence) :
    ∀ row ∈ rows, row.sequence ≤ (rows.getLast?.map (·.sequence)).getD cursor := by
  induction rows with
  | nil =>
      intro row member
      cases member
  | cons head rest ih =>
      intro row member
      cases rest with
      | nil =>
          rw [List.mem_singleton.mp member]
          exact Nat.le_refl _
      | cons second tail =>
          obtain ⟨first, others⟩ := List.pairwise_cons.mp ordered
          rw [List.getLast?_cons_cons]
          cases member with
          | head =>
              exact (first second List.mem_cons_self).trans
                (ih others second List.mem_cons_self)
          | tail _ there => exact ih others row there

/-! The log. -/

/-- The event stands in the log, or in the transaction. -/
def WebhookService.Holds (service : WebhookService) :
    Option TransactionId → DomainEvent → Prop
  | none, event => event ∈ service.events
  | some transaction, event =>
      ∃ written, service.transactions.find? transaction = some written ∧ event ∈ written

structure Orderly (service : WebhookService) : Prop where
  distinct : ∀ place event otherPlace other, service.Holds place event →
    service.Holds otherPlace other → event.id = other.id ∨ event.sequence = other.sequence →
    place = otherPlace ∧ event = other
  drawn : ∀ place event, service.Holds place event → event.sequence < service.nextSequence

theorem WebhookService.Holds.listed {place : Option TransactionId} {event : DomainEvent}
    (holds : service.Holds place event) : event ∈ service.events ++ service.openEvents := by
  cases place with
  | none => exact List.mem_append_left _ holds
  | some transaction =>
      obtain ⟨written, found, member⟩ := holds
      apply List.mem_append_right
      exact List.mem_flatMap.mpr ⟨(transaction, written), Keyed.lookup_mem _ _ _ found, member⟩

theorem holds_insert {transaction : TransactionId} {event other : DomainEvent}
    {place : Option TransactionId}
    (holds : WebhookService.Holds
      { service with
        nextSequence := service.nextSequence + 1
        transactions := service.transactions.set transaction
          ((service.transactions.find? transaction).getD [] ++ [event]) } place other) :
    service.Holds place other ∨ place = some transaction ∧ other = event := by
  cases place with
  | none => exact .inl holds
  | some owner =>
      obtain ⟨written, found, member⟩ := holds
      rw [Keyed.Table.find?_set] at found
      split at found
      · rename_i same
        subst same
        cases found
        rcases List.mem_append.mp member with before | new
        · cases open' : service.transactions.find? owner with
          | none =>
              rw [open'] at before
              cases before
          | some rows =>
              rw [open'] at before
              exact .inl ⟨rows, open', before⟩
        · exact .inr ⟨rfl, List.mem_singleton.mp new⟩
      · exact .inl ⟨written, found, member⟩

theorem holds_finish {transaction : TransactionId} {commits : Bool} {written : List DomainEvent}
    {place : Option TransactionId} {event : DomainEvent}
    (holds : WebhookService.Holds
      { service with
        transactions := service.transactions.keep fun other => other != transaction
        events := if commits then service.events ++ written else service.events } place event) :
    service.Holds place event ∧ place ≠ some transaction ∨
      place = none ∧ commits = true ∧ event ∈ written := by
  cases place with
  | none =>
      cases commits with
      | false => exact .inl ⟨holds, by intro same; cases same⟩
      | true =>
          rcases List.mem_append.mp holds with before | new
          · exact .inl ⟨before, by intro same; cases same⟩
          · exact .inr ⟨rfl, rfl, new⟩
  | some owner =>
      obtain ⟨rows, present, member⟩ := holds
      rw [Keyed.Table.find?_keep] at present
      split at present
      · rename_i other
        refine .inl ⟨⟨rows, present, member⟩, ?_⟩
        intro same
        cases same
        simp at other
      · cases present

theorem Orderly.inserted {transaction : TransactionId} {event : DomainEvent}
    (orderly : Orderly service)
    (fresh : ∀ other ∈ service.events ++ service.openEvents, other.id ≠ event.id) :
    Orderly { service with
      nextSequence := service.nextSequence + 1
      transactions := service.transactions.set transaction
        ((service.transactions.find? transaction).getD [] ++
          [{ event with sequence := service.nextSequence }]) } := by
  constructor
  · intro place first otherPlace second holds otherHolds same
    rcases holds_insert holds with old | ⟨rfl, rfl⟩ <;>
      rcases holds_insert otherHolds with otherOld | ⟨rfl, rfl⟩
    · exact orderly.distinct _ _ _ _ old otherOld same
    · rcases same with ids | sequences
      · exact absurd ids (fresh first old.listed)
      · have drawn := orderly.drawn _ _ old
        simp only at sequences
        omega
    · rcases same with ids | sequences
      · exact absurd ids.symm (fresh second otherOld.listed)
      · have drawn := orderly.drawn _ _ otherOld
        simp only at sequences
        omega
    · exact ⟨rfl, rfl⟩
  · intro place other holds
    rcases holds_insert holds with old | ⟨rfl, rfl⟩
    · exact (orderly.drawn _ _ old).trans (Nat.lt_succ_self _)
    · exact Nat.lt_succ_self _

theorem Orderly.finished {transaction : TransactionId} {commits : Bool}
    {written : List DomainEvent} (orderly : Orderly service)
    (found : service.transactions.find? transaction = some written) :
    Orderly { service with
      transactions := service.transactions.keep fun other => other != transaction
      events := if commits then service.events ++ written else service.events } := by
  have committed : ∀ event ∈ written, service.Holds (some transaction) event :=
    fun event member => ⟨written, found, member⟩
  constructor
  · intro place first otherPlace second holds otherHolds same
    rcases holds_finish holds with ⟨old, place_ne⟩ | ⟨rfl, -, new⟩ <;>
      rcases holds_finish otherHolds with ⟨otherOld, other_ne⟩ | ⟨rfl, -, otherNew⟩
    · exact orderly.distinct _ _ _ _ old otherOld same
    · exact absurd (orderly.distinct _ _ _ _ old (committed _ otherNew) same).1 place_ne
    · exact absurd (orderly.distinct _ _ _ _ (committed _ new) otherOld same).1.symm other_ne
    · exact ⟨rfl, (orderly.distinct _ _ _ _ (committed _ new) (committed _ otherNew) same).2⟩
  · intro place event holds
    rcases holds_finish holds with ⟨old, -⟩ | ⟨-, -, new⟩
    · exact orderly.drawn _ _ old
    · exact orderly.drawn _ _ (committed _ new)

/-! Frames. -/

theorem insertDeliveries_frame (endpoint : EndpointId) (now : Time) (rows : List DomainEvent) :
    ∀ service : WebhookService, ∃ deliveries enqueued,
      service.insertDeliveries endpoint now rows = { service with deliveries, enqueued } := by
  induction rows with
  | nil => exact fun service => ⟨service.deliveries, service.enqueued, rfl⟩
  | cons event rest ih =>
      intro service
      cases found : service.deliveries.find? (endpoint, event.id) with
      | some row =>
          simp only [WebhookService.insertDeliveries, found]
          exact ih service
      | none =>
          simp only [WebhookService.insertDeliveries, found]
          obtain ⟨deliveries, enqueued, framed⟩ := ih
            { service with
              deliveries := service.deliveries.set (endpoint, event.id)
                (WebhookService.newDelivery now)
              enqueued := (endpoint, event.id) :: service.enqueued }
          exact ⟨deliveries, enqueued, framed⟩

theorem persistOutcome_frame (config : WebhookConfig) (delivery : ClaimedDelivery) (now : Time)
    (status : Option ℕ)
    (service : WebhookService) : ∃ deliveries deadLetters sent buried,
      service.persistOutcome config delivery now status =
        { service with deliveries, deadLetters, sent, buried } := by
  unfold WebhookService.persistOutcome
  cases deliveryOutcome config delivery now status with
  | delivered => exact ⟨_, _, _, _, rfl⟩
  | deadLettered =>
      simp only [WebhookService.insertDeadLetter]
      split <;> exact ⟨_, _, _, _, rfl⟩
  | retry next => exact ⟨_, _, _, _, rfl⟩

theorem Advance.log {pass : WebhookPass} {middle : WebhookService} {next : WebhookPhase}
    (moved : Advance config service pass middle next) :
    middle.events = service.events ∧ middle.transactions = service.transactions ∧
      middle.nextSequence = service.nextSequence ∧ middle.passes = service.passes ∧
      middle.now = service.now ∧ middle.shown = service.shown := by
  cases moved with
  | @stored id next rows rest endpoint phase found =>
      obtain ⟨deliveries, enqueued, framed⟩ :=
        insertDeliveries_frame id pass.now rows (service.setCursor id endpoint next pass.now)
      rw [framed]
      exact ⟨rfl, rfl, rfl, rfl, rfl, rfl⟩
  | _ => exact ⟨rfl, rfl, rfl, rfl, rfl, rfl⟩

theorem Orderly.congr {middle : WebhookService} (orderly : Orderly service)
    (events : middle.events = service.events)
    (transactions : middle.transactions = service.transactions)
    (sequence : middle.nextSequence = service.nextSequence) : Orderly middle := by
  have holds : ∀ place event, middle.Holds place event → service.Holds place event := by
    intro place event holds
    cases place with
    | none =>
        simp only [WebhookService.Holds, events] at holds
        exact holds
    | some owner =>
        obtain ⟨written, found, member⟩ := holds
        exact ⟨written, transactions ▸ found, member⟩
  exact
    ⟨fun _ _ _ _ first second same =>
      orderly.distinct _ _ _ _ (holds _ _ first) (holds _ _ second) same,
    fun _ _ drawn => sequence ▸ orderly.drawn _ _ (holds _ _ drawn)⟩

theorem Orderly.step (orderly : Orderly service) (move : WebhookMove config service action after) :
    Orderly after := by
  cases move with
  | inserted fresh => exact orderly.inserted fresh
  | finished found => exact orderly.finished found
  | advanced running moved =>
      obtain ⟨events, transactions, sequence, -⟩ := moved.log
      exact orderly.congr events transactions sequence
  | @answered worker status pass delivery rest running phase =>
      obtain ⟨deliveries, deadLetters, sent, buried, framed⟩ :=
        persistOutcome_frame config delivery pass.now status service
      rw [framed]
      exact orderly.congr rfl rfl rfl
  | _ => exact orderly.congr rfl rfl rfl

/-! Locks. -/

theorem pass_set (service : WebhookService) (worker other : WebhookWorkerId)
    (pass : Option WebhookPass) :
    WebhookService.pass { service with passes := service.passes.set worker pass } other =
      if other = worker then pass else service.pass other := by
  simp only [WebhookService.pass, Keyed.Table.find?_set]
  split <;> rfl

theorem pass_setPhase {middle : WebhookService} (same : middle.passes = service.passes)
    (worker other : WebhookWorkerId) (pass : WebhookPass) (next : WebhookPhase) :
    (middle.setPhase worker pass next).pass other =
      if other = worker then some { pass with phase := next } else service.pass other := by
  rw [WebhookService.setPhase, pass_set]
  simp only [WebhookService.pass, same]

theorem not_locked {id : EndpointId} (free : service.lockFree id = true)
    {worker : WebhookWorkerId} {pass : WebhookPass} (running : service.pass worker = some pass) :
    pass.phase.locks ≠ some id := by
  intro locked
  have found := Keyed.lookup_mem _ _ _ (Option.join_eq_some_iff.mp running)
  have unlocked := List.all_eq_true.mp free _ found
  simp [locked] at unlocked

/-- An endpoint is locked by one pass at most. -/
def Exclusive (service : WebhookService) : Prop :=
  ∀ worker pass other otherPass id, service.pass worker = some pass →
    service.pass other = some otherPass → pass.phase.locks = some id →
    otherPass.phase.locks = some id → worker = other

theorem Exclusive.moved {middle : WebhookService} {worker : WebhookWorkerId} {pass : WebhookPass}
    {next : WebhookPhase} (exclusive : Exclusive service)
    (running : service.pass worker = some pass) (same : middle.passes = service.passes)
    (takes : ∀ id, next.locks = some id →
      pass.phase.locks = some id ∨ service.lockFree id = true) :
    Exclusive (middle.setPhase worker pass next) := by
  have other_unlocked : ∀ other otherPass id, service.pass other = some otherPass →
      next.locks = some id → otherPass.phase.locks = some id → other = worker := by
    intro other otherPass id present locks otherLocks
    rcases takes id locks with held | free
    · exact exclusive _ _ _ _ id present running otherLocks held
    · exact absurd otherLocks (not_locked free present)
  intro first firstPass second secondPass id firstRuns secondRuns firstLocks secondLocks
  rw [pass_setPhase same] at firstRuns secondRuns
  split at firstRuns <;> split at secondRuns
  · rename_i one two
    exact one.trans two.symm
  · rename_i one two
    cases firstRuns
    exact absurd (other_unlocked _ _ id secondRuns firstLocks secondLocks) two
  · rename_i one two
    cases secondRuns
    exact absurd (other_unlocked _ _ id firstRuns secondLocks firstLocks) one
  · exact exclusive _ _ _ _ id firstRuns secondRuns firstLocks secondLocks

theorem Exclusive.unlocked {worker : WebhookWorkerId} {pass : Option WebhookPass}
    (exclusive : Exclusive service) (unlocked : ∀ running ∈ pass, running.phase.locks = none) :
    Exclusive { service with passes := service.passes.set worker pass } := by
  intro first firstPass second secondPass id firstRuns secondRuns firstLocks secondLocks
  rw [pass_set] at firstRuns secondRuns
  split at firstRuns
  · rw [unlocked firstPass firstRuns] at firstLocks
    cases firstLocks
  · split at secondRuns
    · rw [unlocked secondPass secondRuns] at secondLocks
      cases secondLocks
    · exact exclusive _ _ _ _ id firstRuns secondRuns firstLocks secondLocks

theorem Advance.locks {pass : WebhookPass} {middle : WebhookService} {next : WebhookPhase}
    (moved : Advance config service pass middle next) {id : EndpointId}
    (locks : next.locks = some id) :
    pass.phase.locks = some id ∨ service.lockFree id = true := by
  cases moved with
  | room phase free found positive =>
      cases locks
      exact .inr free
  | short phase sells read length =>
      cases locks
      exact .inl (by rw [phase]; rfl)
  | whole phase sells read length =>
      cases locks
      exact .inl (by rw [phase]; rfl)
  | highest phase =>
      cases locks
      exact .inl (by rw [phase]; rfl)
  | took phase free =>
      cases locks
      exact .inr free
  | _ => cases locks

theorem Exclusive.step (exclusive : Exclusive service)
    (move : WebhookMove config service action after) : Exclusive after := by
  cases move with
  | started idle =>
      apply exclusive.unlocked
      rintro running ⟨⟩
      rfl
  | advanced running moved =>
      exact exclusive.moved running moved.log.2.2.2.1 fun id locks => moved.locks locks
  | claimed running phase rows =>
      apply exclusive.moved running rfl
      rintro id ⟨⟩
  | @answered worker status pass delivery rest running phase =>
      obtain ⟨deliveries, deadLetters, sent, buried, framed⟩ :=
        persistOutcome_frame config delivery pass.now status service
      rw [framed]
      apply exclusive.moved running rfl
      rintro id ⟨⟩
  | stopped =>
      apply exclusive.unlocked
      rintro running ⟨⟩
  | _ => exact exclusive

inductive PassOrigin (config : WebhookConfig) (service after : WebhookService)
    (action : WebhookAction) (worker : WebhookWorkerId) : WebhookPass → Prop
  | kept {pass : WebhookPass} (running : service.pass worker = some pass)
      (still : action ≠ .advance worker) : PassOrigin config service after action worker pass
  | started : PassOrigin config service after action worker ⟨service.now, .purgeLetters⟩
  | advanced {pass : WebhookPass} {middle : WebhookService} {next : WebhookPhase}
      (acts : action = .advance worker) (running : service.pass worker = some pass)
      (moved : Advance config service pass middle next)
      (written : after = middle.setPhase worker pass next) :
      PassOrigin config service after action worker { pass with phase := next }
  | claimed {pass : WebhookPass} {claimed : List ClaimedDelivery}
      (running : service.pass worker = some pass)
      (rows : ∀ delivery ∈ claimed, ∃ row, service.deliveries.find? delivery.key = some row) :
      PassOrigin config service after action worker { pass with phase := .deliveries claimed }
  | answered {pass : WebhookPass} {delivery : ClaimedDelivery} {rest : List ClaimedDelivery}
      (running : service.pass worker = some pass) (phase : pass.phase = .sending delivery rest) :
      PassOrigin config service after action worker { pass with phase := .deliveries rest }

theorem WebhookMove.pass_origin (move : WebhookMove config service action after)
    {worker : WebhookWorkerId} {pass : WebhookPass} (running : after.pass worker = some pass) :
    PassOrigin config service after action worker pass := by
  cases move with
  | started idle =>
      rw [pass_set] at running
      split at running
      · cases running
        exact .started
      · exact .kept running (by intro same; cases same)
  | advanced runs moved =>
      rw [pass_setPhase moved.log.2.2.2.1] at running
      split at running
      · rename_i same
        subst same
        cases running
        exact .advanced rfl runs moved rfl
      · rename_i other
        exact .kept running (by intro same; cases same; exact other rfl)
  | claimed runs phase rows =>
      rw [pass_setPhase rfl] at running
      split at running
      · rename_i same
        subst same
        cases running
        exact .claimed runs rows
      · exact .kept running (by intro same; cases same)
  | @answered mover status old delivery rest runs phase =>
      obtain ⟨deliveries, deadLetters, sent, buried, framed⟩ :=
        persistOutcome_frame config delivery old.now status service
      rw [framed, pass_setPhase rfl] at running
      split at running
      · rename_i same
        subst same
        cases running
        exact .answered runs phase
      · exact .kept running (by intro same; cases same)
  | stopped =>
      rw [pass_set] at running
      split at running
      · cases running
      · exact .kept running (by intro same; cases same)
  | _ => exact .kept running (by intro same; cases same)

/-! Endpoints. -/

/-- An endpoint keeps its seller, stays deleted once it is, and gets its cursor
from the pass that holds it. -/
structure Continues (service : WebhookService) (action : WebhookAction) (id : EndpointId)
    (endpoint later : WebhookEndpoint) : Prop where
  seller : later.sellerPubky = endpoint.sellerPubky
  committedBefore : later.committedBefore = endpoint.committedBefore
  deleted : later.deletedAt = none → endpoint.deletedAt = none
  cursor : later.enqueueSequence = endpoint.enqueueSequence ∨
    ∃ worker pass rows next rest, action = .advance worker ∧
      service.pass worker = some pass ∧ pass.phase = .chosen id rows next rest ∧
      later.enqueueSequence = next

theorem Continues.refl (service : WebhookService) (action : WebhookAction) (id : EndpointId)
    (endpoint : WebhookEndpoint) : Continues service action id endpoint endpoint :=
  ⟨rfl, rfl, fun isOpen => isOpen, .inl rfl⟩

theorem continues_set {target id : EndpointId} {stored written endpoint : WebhookEndpoint}
    (present : service.endpoints.find? target = some stored)
    (same : Continues service action target stored written)
    (found : service.endpoints.find? id = some endpoint) :
    ∃ later, (service.endpoints.set target written).find? id = some later ∧
      Continues service action id endpoint later := by
  by_cases hit : id = target
  · subst hit
    rw [present] at found
    cases found
    exact ⟨written, Keyed.Table.find?_set_self _ _ _, same⟩
  · exact ⟨endpoint, (Keyed.Table.find?_set_ne _ _ hit).trans found, .refl _ _ _ _⟩

theorem WebhookMove.keeps_endpoint (move : WebhookMove config service action after)
    {id : EndpointId} {endpoint : WebhookEndpoint}
    (found : service.endpoints.find? id = some endpoint) :
    ∃ later, after.endpoints.find? id = some later ∧
      Continues service action id endpoint later := by
  cases move with
  | added free =>
      refine ⟨endpoint, ?_, .refl _ _ _ _⟩
      rw [Keyed.Table.find?_set_ne _ _ (by rintro rfl; rw [free] at found; cases found)]
      exact found
  | deleted present free =>
      apply continues_set present _ found
      refine ⟨rfl, rfl, ?_, .inl rfl⟩
      intro isOpen
      cases isOpen
  | @advanced worker pass middle next running moved =>
      cases moved with
      | full phase free present =>
          exact continues_set present ⟨rfl, rfl, fun isOpen => isOpen, .inl rfl⟩ found
      | @stored target cursor rows rest stored phase present =>
          obtain ⟨deliveries, enqueued, framed⟩ := insertDeliveries_frame target pass.now rows
            (service.setCursor target stored cursor pass.now)
          rw [framed]
          exact continues_set present ⟨rfl, rfl, fun isOpen => isOpen,
            .inr ⟨worker, pass, rows, cursor, rest, rfl, running, phase, rfl⟩⟩ found
      | _ => exact ⟨endpoint, found, .refl _ _ _ _⟩
  | @answered worker status pass delivery rest running phase =>
      obtain ⟨deliveries, deadLetters, sent, buried, framed⟩ :=
        persistOutcome_frame config delivery pass.now status service
      rw [framed]
      exact ⟨endpoint, found, .refl _ _ _ _⟩
  | _ => exact ⟨endpoint, found, .refl _ _ _ _⟩

theorem WebhookMove.keeps_events (move : WebhookMove config service action after)
    {event : DomainEvent} (member : event ∈ service.events) : event ∈ after.events := by
  cases move with
  | @finished transaction commits written found =>
      cases commits with
      | false => exact member
      | true => exact List.mem_append_left _ member
  | advanced running moved => exact moved.log.1 ▸ member
  | @answered worker status pass delivery rest running phase =>
      obtain ⟨deliveries, deadLetters, sent, buried, framed⟩ :=
        persistOutcome_frame config delivery pass.now status service
      rw [framed]
      exact member
  | _ => exact member

/-! Cursors. -/

/-- A pass at an endpoint works from the cursor that the endpoint stores. -/
def PhaseReads (service : WebhookService) : WebhookPhase → Prop
  | .room id cursor limit _ =>
      0 < limit ∧ ∃ endpoint, service.endpoints.find? id = some endpoint ∧
        endpoint.enqueueSequence = cursor
  | .batch id cursor _ rows _ =>
      (∃ endpoint, service.endpoints.find? id = some endpoint ∧
        endpoint.enqueueSequence = cursor) ∧
      ∀ row ∈ rows, row ∈ service.events ∧ cursor < row.sequence
  | .chosen id rows next _ =>
      ∃ endpoint, service.endpoints.find? id = some endpoint ∧
        endpoint.enqueueSequence ≤ next ∧
        ∀ row ∈ rows, row ∈ service.events ∧ endpoint.enqueueSequence < row.sequence ∧
          row.sequence ≤ next
  | _ => True

def PassesRead (service : WebhookService) : Prop :=
  ∀ worker pass, service.pass worker = some pass → PhaseReads service pass.phase

theorem PhaseReads.kept {phase : WebhookPhase} (reads : PhaseReads service phase)
    (events : ∀ event ∈ service.events, event ∈ after.events)
    (endpoints : ∀ id, phase.locks = some id → ∀ endpoint,
      service.endpoints.find? id = some endpoint →
      ∃ later, after.endpoints.find? id = some later ∧
        later.enqueueSequence = endpoint.enqueueSequence) : PhaseReads after phase := by
  cases phase with
  | room id cursor limit rest =>
      obtain ⟨positive, endpoint, found, same⟩ := reads
      obtain ⟨later, present, kept⟩ := endpoints id rfl endpoint found
      exact ⟨positive, later, present, kept.trans same⟩
  | batch id cursor limit rows rest =>
      obtain ⟨⟨endpoint, found, same⟩, batch⟩ := reads
      obtain ⟨later, present, kept⟩ := endpoints id rfl endpoint found
      exact ⟨⟨later, present, kept.trans same⟩,
        fun row member => ⟨events row (batch row member).1, (batch row member).2⟩⟩
  | chosen id rows next rest =>
      obtain ⟨endpoint, found, below, batch⟩ := reads
      obtain ⟨later, present, kept⟩ := endpoints id rfl endpoint found
      refine ⟨later, present, kept ▸ below, fun row member => ?_⟩
      obtain ⟨committed, above, within⟩ := batch row member
      exact ⟨events row committed, kept ▸ above, within⟩
  | _ => trivial

theorem Advance.reads {pass : WebhookPass} {middle : WebhookService} {next : WebhookPhase}
    (moved : Advance config service pass middle next) (reads : PhaseReads service pass.phase) :
    PhaseReads middle next := by
  cases moved with
  | room phase free found positive => exact ⟨positive, _, found, rfl⟩
  | short phase sells read length =>
      rw [phase] at reads
      obtain ⟨-, stored⟩ := reads
      refine ⟨stored, fun row member => ?_⟩
      rw [read] at member
      have listed := mem_sellerEvents.mp (List.mem_of_mem_take member)
      exact ⟨listed.1, listed.2.2.1⟩
  | @whole id cursor limit rest seller rows phase sells read length =>
      rw [phase] at reads
      obtain ⟨positive, endpoint, found, same⟩ := reads
      have ordered : rows.Pairwise fun left right => left.sequence ≤ right.sequence := by
        rw [read]
        exact (sellerEvents_ordered _ _ _ _).sublist (List.take_sublist _ _)
      have batch : ∀ row ∈ rows, row ∈ service.events ∧ cursor < row.sequence := by
        intro row member
        rw [read] at member
        have listed := mem_sellerEvents.mp (List.mem_of_mem_take member)
        exact ⟨listed.1, listed.2.2.1⟩
      have within := le_lastSequence cursor ordered
      subst same
      refine ⟨endpoint, found, ?_, fun row member =>
        ⟨(batch row member).1, (batch row member).2, within row member⟩⟩
      cases rows with
      | nil =>
          simp only [List.length_nil] at length
          omega
      | cons first others =>
          exact ((batch first List.mem_cons_self).2.trans_le
            (within first List.mem_cons_self)).le
  | highest phase =>
      rw [phase] at reads
      obtain ⟨⟨endpoint, found, same⟩, batch⟩ := reads
      subst same
      refine ⟨endpoint, found, le_max_right _ _, fun row member => ?_⟩
      obtain ⟨committed, above⟩ := batch row member
      exact ⟨committed, above, (le_maxSequence committed).trans (le_max_left _ _)⟩
  | _ => trivial

/-- A pass that does not move holds its endpoint, so no other pass stores its
cursor. -/
theorem PassesRead.still (works : PassesRead service) (exclusive : Exclusive service)
    (move : WebhookMove config service action after) {worker : WebhookWorkerId}
    {pass : WebhookPass} (running : service.pass worker = some pass)
    (still : action ≠ .advance worker) : PhaseReads after pass.phase := by
  apply (works worker pass running).kept fun event member => move.keeps_events member
  intro id locks endpoint found
  obtain ⟨later, present, continues⟩ := move.keeps_endpoint found
  rcases continues.cursor with kept | ⟨other, otherPass, rows, next, rest, acts, runs, phase, -⟩
  · exact ⟨later, present, kept⟩
  · have same := exclusive _ _ _ _ id running runs locks (by rw [phase]; rfl)
    subst same
    exact absurd acts still

theorem PassesRead.step (works : PassesRead service) (exclusive : Exclusive service)
    (move : WebhookMove config service action after) : PassesRead after := by
  intro worker pass running
  cases move.pass_origin running with
  | kept runs still => exact works.still exclusive move runs still
  | started => trivial
  | @advanced old middle next acts runs moved written =>
      subst written
      exact (moved.reads (works worker old runs)).kept (fun event member => member)
        fun id locks endpoint found => ⟨endpoint, found, rfl⟩
  | claimed runs rows => trivial
  | answered runs phase => trivial

/-! Deliveries. -/

structure Inserts (service after : WebhookService) (endpoint : EndpointId) (now : Time)
    (rows : List DomainEvent) : Prop where
  kept : ∀ key ∈ service.enqueued, key ∈ after.enqueued
  listed : (∀ key row, service.deliveries.find? key = some row → key ∈ service.enqueued) →
    ∀ row ∈ rows, (endpoint, row.id) ∈ after.enqueued
  origin : ∀ key ∈ after.enqueued, key ∈ service.enqueued ∨ ∃ row ∈ rows, key = (endpoint, row.id)
  delivery : ∀ key later, after.deliveries.find? key = some later →
    service.deliveries.find? key = some later ∨
      service.deliveries.find? key = none ∧ later = WebhookService.newDelivery now ∧
        key ∈ after.enqueued ∧ ∃ row ∈ rows, key = (endpoint, row.id)
  stays : ∀ key, service.deliveries.find? key ≠ none → after.deliveries.find? key ≠ none
  placed : ∀ row ∈ rows, after.deliveries.find? (endpoint, row.id) ≠ none
  once : service.enqueued.Nodup → (∀ row ∈ rows, (endpoint, row.id) ∈ service.enqueued →
    service.deliveries.find? (endpoint, row.id) ≠ none) → after.enqueued.Nodup

theorem Inserts.nil (service : WebhookService) (endpoint : EndpointId) (now : Time) :
    Inserts service service endpoint now [] where
  kept _ member := member
  listed _ row member := by cases member
  origin _ member := .inl member
  delivery _ _ found := .inl found
  stays _ present := present
  placed row member := by cases member
  once unique _ := unique

theorem Inserts.present {endpoint : EndpointId} {now : Time} {event : DomainEvent}
    {rest : List DomainEvent} {row : WebhookDelivery}
    (found : service.deliveries.find? (endpoint, event.id) = some row)
    (inserts : Inserts service after endpoint now rest) :
    Inserts service after endpoint now (event :: rest) where
  kept := inserts.kept
  listed stocked other member := by
    cases member with
    | head => exact inserts.kept _ (stocked _ _ found)
    | tail _ there => exact inserts.listed stocked other there
  origin key member := by
    rcases inserts.origin key member with old | ⟨other, there, same⟩
    · exact .inl old
    · exact .inr ⟨other, List.mem_cons_of_mem _ there, same⟩
  delivery key later stored := by
    rcases inserts.delivery key later stored with old | ⟨free, new, filed, other, there, same⟩
    · exact .inl old
    · exact .inr ⟨free, new, filed, other, List.mem_cons_of_mem _ there, same⟩
  stays := inserts.stays
  placed other member := by
    cases member with
    | head => exact inserts.stays _ (by rw [found]; intro unset; cases unset)
    | tail _ there => exact inserts.placed other there
  once unique fresh := inserts.once unique fun other there =>
    fresh other (List.mem_cons_of_mem _ there)

theorem Inserts.absent {endpoint : EndpointId} {now : Time} {event : DomainEvent}
    {rest : List DomainEvent}
    (free : service.deliveries.find? (endpoint, event.id) = none)
    (inserts : Inserts
      { service with
        deliveries := service.deliveries.set (endpoint, event.id) (WebhookService.newDelivery now)
        enqueued := (endpoint, event.id) :: service.enqueued } after endpoint now rest) :
    Inserts service after endpoint now (event :: rest) where
  kept key member := inserts.kept key (List.mem_cons_of_mem _ member)
  listed stocked other member := by
    cases member with
    | head => exact inserts.kept _ List.mem_cons_self
    | tail _ there =>
        refine inserts.listed (fun key row found => ?_) other there
        rw [Keyed.Table.find?_set] at found
        split at found
        · rename_i same
          exact same ▸ List.mem_cons_self
        · exact List.mem_cons_of_mem _ (stocked key row found)
  origin key member := by
    rcases inserts.origin key member with old | ⟨other, there, same⟩
    · cases old with
      | head => exact .inr ⟨event, List.mem_cons_self, rfl⟩
      | tail _ before => exact .inl before
    · exact .inr ⟨other, List.mem_cons_of_mem _ there, same⟩
  delivery key later stored := by
    rcases inserts.delivery key later stored with old | ⟨unset, new, filed, other, there, same⟩
    · rw [Keyed.Table.find?_set] at old
      split at old
      · rename_i same
        subst same
        cases old
        exact .inr ⟨free, rfl, inserts.kept _ List.mem_cons_self, event, List.mem_cons_self, rfl⟩
      · exact .inl old
    · refine .inr ⟨?_, new, filed, other, List.mem_cons_of_mem _ there, same⟩
      rw [Keyed.Table.find?_set] at unset
      split at unset
      · cases unset
      · exact unset
  stays key present := by
    apply inserts.stays
    rw [Keyed.Table.find?_set]
    split
    · intro unset
      cases unset
    · exact present
  placed other member := by
    cases member with
    | head =>
        apply inserts.stays
        rw [Keyed.Table.find?_set_self]
        intro unset
        cases unset
    | tail _ there => exact inserts.placed other there
  once unique fresh := by
    apply inserts.once
    · refine List.nodup_cons.mpr ⟨fun filed => ?_, unique⟩
      exact fresh event List.mem_cons_self filed free
    · intro other there filed
      rw [Keyed.Table.find?_set]
      split
      · intro unset
        cases unset
      · rename_i different
        rcases List.mem_cons.mp filed with same | before
        · exact absurd same different
        · exact fresh other (List.mem_cons_of_mem _ there) before

theorem insertDeliveries_inserts (endpoint : EndpointId) (now : Time) (rows : List DomainEvent) :
    ∀ service : WebhookService,
      Inserts service (service.insertDeliveries endpoint now rows) endpoint now rows := by
  induction rows with
  | nil => exact fun service => .nil service endpoint now
  | cons event rest ih =>
      intro service
      cases found : service.deliveries.find? (endpoint, event.id) with
      | some row =>
          simp only [WebhookService.insertDeliveries, found]
          exact (ih service).present found
      | none =>
          simp only [WebhookService.insertDeliveries, found]
          exact (ih _).absent found

inductive DeliveryOrigin (config : WebhookConfig) (service after : WebhookService)
    (action : WebhookAction) (key : DeliveryKey) : WebhookDelivery → Prop
  | kept {row : WebhookDelivery} (found : service.deliveries.find? key = some row) :
      DeliveryOrigin config service after action key row
  | leased {row : WebhookDelivery} {leaseUntil : Time}
      (found : service.deliveries.find? key = some row) :
      DeliveryOrigin config service after action key { row with leaseUntil := some leaseUntil }
  | buried {row : WebhookDelivery} (found : service.deliveries.find? key = some row) :
      DeliveryOrigin config service after action key (row.bury service.now)
  | recorded {worker : WebhookWorkerId} {status : Option ℕ} {pass : WebhookPass}
      {delivery : ClaimedDelivery} {rest : List ClaimedDelivery} {row : WebhookDelivery}
      (acts : action = .answer worker status) (running : service.pass worker = some pass)
      (phase : pass.phase = .sending delivery rest) (same : delivery.key = key)
      (found : service.deliveries.find? key = some row) :
      DeliveryOrigin config service after action key
        (row.record (deliveryOutcome config delivery pass.now status) (delivery.attemptCount + 1)
          status pass.now)
  | enqueued {worker : WebhookWorkerId} {pass : WebhookPass} {rows : List DomainEvent} {next : ℕ}
      {rest : List EndpointId} {event : DomainEvent} (running : service.pass worker = some pass)
      (phase : pass.phase = .chosen key.1 rows next rest) (member : event ∈ rows)
      (same : event.id = key.2) (filed : key ∈ after.enqueued) :
      DeliveryOrigin config service after action key (WebhookService.newDelivery pass.now)

theorem persistOutcome_deliveries (config : WebhookConfig) (delivery : ClaimedDelivery)
    (now : Time) (status : Option ℕ) (service : WebhookService) :
    (service.persistOutcome config delivery now status).deliveries =
      service.deliveries.mapRows fun key row =>
        if key = delivery.key then
          row.record (deliveryOutcome config delivery now status) (delivery.attemptCount + 1)
            status now
        else row := by
  unfold WebhookService.persistOutcome
  cases deliveryOutcome config delivery now status with
  | delivered => rfl
  | deadLettered =>
      simp only [WebhookService.insertDeadLetter]
      split <;> rfl
  | retry next => rfl

theorem WebhookMove.delivery_origin (move : WebhookMove config service action after)
    {key : DeliveryKey} {later : WebhookDelivery}
    (stored : after.deliveries.find? key = some later) :
    DeliveryOrigin config service after action key later := by
  cases move with
  | deleted present free =>
      rw [Keyed.Table.find?_mapRows] at stored
      obtain ⟨row, found, changed⟩ := Option.map_eq_some_iff.mp stored
      split at changed
      · exact changed ▸ .buried found
      · exact changed ▸ .kept found
  | @advanced worker pass middle next running moved =>
      cases moved with
      | purgeDeliveries phase =>
          simp only [WebhookService.setPhase, WebhookService.purgeDeliveries,
            Keyed.Table.find?_keep] at stored
          split at stored
          · exact .kept stored
          · cases stored
      | @stored id cursor rows rest endpoint phase found =>
          have inserts := insertDeliveries_inserts id pass.now rows
            (service.setCursor id endpoint cursor pass.now)
          rcases inserts.delivery key later stored with old | ⟨-, new, filed, event, member, same⟩
          · exact .kept old
          · subst same
            exact new ▸ .enqueued running phase member rfl filed
      | _ => exact .kept stored
  | claimed running phase rows =>
      simp only [WebhookService.setPhase, WebhookService.leaseDeliveries,
        Keyed.Table.find?_mapRows] at stored
      obtain ⟨row, found, changed⟩ := Option.map_eq_some_iff.mp stored
      split at changed
      · exact changed ▸ .leased found
      · exact changed ▸ .kept found
  | answered running phase =>
      simp only [WebhookService.setPhase, persistOutcome_deliveries,
        Keyed.Table.find?_mapRows] at stored
      obtain ⟨row, found, changed⟩ := Option.map_eq_some_iff.mp stored
      split at changed
      · rename_i same
        exact changed ▸ .recorded rfl running phase same.symm found
      · exact changed ▸ .kept found
  | _ => exact .kept stored

/-- Every inserted delivery is of an event that its endpoint's cursor has
passed, and none is inserted twice. -/
structure Filed (service : WebhookService) : Prop where
  listed : ∀ id event, (id, event) ∈ service.enqueued →
    ∃ endpoint row, service.endpoints.find? id = some endpoint ∧ row ∈ service.events ∧
      row.id = event ∧ row.sequence ≤ endpoint.enqueueSequence
  stocked : ∀ key row, service.deliveries.find? key = some row → key ∈ service.enqueued
  once : service.enqueued.Nodup

/-- A row that a pass is about to insert was not inserted before. -/
theorem Filed.fresh (filed : Filed service) (orderly : Orderly service) {id : EndpointId}
    {rows : List DomainEvent} {next : ℕ} {rest : List EndpointId} {row : DomainEvent}
    (reads : PhaseReads service (.chosen id rows next rest)) (member : row ∈ rows) :
    (id, row.id) ∉ service.enqueued := by
  intro before
  obtain ⟨endpoint, found, -, batch⟩ := reads
  obtain ⟨committed, above, -⟩ := batch row member
  obtain ⟨stored, old, present, logged, same, passed⟩ := filed.listed id row.id before
  have equal := (orderly.distinct none old none row logged committed (.inl same)).2
  rw [found] at present
  cases present
  subst equal
  exact absurd passed (not_le.mpr above)

theorem Filed.stored {id : EndpointId} {rows : List DomainEvent} {next : ℕ}
    {rest : List EndpointId} {endpoint : WebhookEndpoint} {now : Time} (filed : Filed service)
    (orderly : Orderly service) (reads : PhaseReads service (.chosen id rows next rest))
    (found : service.endpoints.find? id = some endpoint) :
    Filed ((service.setCursor id endpoint next now).insertDeliveries id now rows) := by
  have fresh : ∀ row ∈ rows, (id, row.id) ∉ service.enqueued :=
    fun row member => filed.fresh orderly reads member
  have inserts := insertDeliveries_inserts id now rows (service.setCursor id endpoint next now)
  obtain ⟨deliveries, enqueued, framed⟩ :=
    insertDeliveries_frame id now rows (service.setCursor id endpoint next now)
  obtain ⟨stored, present, below, batch⟩ := reads
  rw [found] at present
  cases present
  constructor
  · intro other event member
    rcases inserts.origin (other, event) member with old | ⟨row, there, same⟩
    · obtain ⟨holder, row, held, logged, named, passed⟩ := filed.listed other event old
      rw [framed]
      by_cases hit : other = id
      · subst hit
        rw [found] at held
        cases held
        exact ⟨_, row, Keyed.Table.find?_set_self _ _ _, logged, named, passed.trans below⟩
      · exact ⟨holder, row, (Keyed.Table.find?_set_ne _ _ hit).trans held, logged, named, passed⟩
    · cases same
      rw [framed]
      exact ⟨_, row, Keyed.Table.find?_set_self _ _ _, (batch row there).1, rfl,
        (batch row there).2.2⟩
  · intro key later present
    rcases inserts.delivery key later present with old | ⟨-, -, listed, -⟩
    · exact inserts.kept key (filed.stocked key later old)
    · exact listed
  · exact inserts.once filed.once fun row member listed => absurd listed (fresh row member)

/-- Everything but the store of a cursor leaves the record of inserts. -/
theorem WebhookMove.enqueued (move : WebhookMove config service action after) :
    after.enqueued = service.enqueued ∨
      ∃ worker pass id rows next rest endpoint, action = .advance worker ∧
        service.pass worker = some pass ∧ pass.phase = .chosen id rows next rest ∧
        service.endpoints.find? id = some endpoint ∧
        after = ((service.setCursor id endpoint next pass.now).insertDeliveries id pass.now
          rows).setPhase worker pass (.endpoints rest) := by
  cases move with
  | @advanced worker pass middle next running moved =>
      cases moved with
      | @stored id cursor rows rest endpoint phase found =>
          exact .inr ⟨worker, pass, id, rows, cursor, rest, endpoint, rfl, running, phase, found,
            rfl⟩
      | _ => exact .inl rfl
  | @answered worker status pass delivery rest running phase =>
      obtain ⟨deliveries, deadLetters, sent, buried, framed⟩ :=
        persistOutcome_frame config delivery pass.now status service
      rw [framed]
      exact .inl rfl
  | _ => exact .inl rfl

theorem WebhookMove.keeps_enqueued (move : WebhookMove config service action after)
    {key : DeliveryKey} (listed : key ∈ service.enqueued) : key ∈ after.enqueued := by
  rcases move.enqueued with same | ⟨worker, pass, id, rows, next, rest, endpoint, -, -, -, -, rfl⟩
  · exact same ▸ listed
  · exact (insertDeliveries_inserts id pass.now rows
      (service.setCursor id endpoint next pass.now)).kept key listed

theorem Filed.step (filed : Filed service) (orderly : Orderly service) (works : PassesRead service)
    (move : WebhookMove config service action after) : Filed after := by
  rcases move.enqueued with same | ⟨worker, pass, id, rows, next, rest, endpoint, -, runs, phase,
    found, rfl⟩
  · constructor
    · intro id event member
      rw [same] at member
      obtain ⟨endpoint, row, found, logged, named, passed⟩ := filed.listed id event member
      obtain ⟨later, present, continues⟩ := move.keeps_endpoint found
      refine ⟨later, row, present, move.keeps_events logged, named, ?_⟩
      rcases continues.cursor with kept | ⟨worker, pass, rows, next, rest, -, runs, phase, moved⟩
      · exact kept ▸ passed
      · have reads := works worker pass runs
        rw [phase] at reads
        obtain ⟨stored, again, below, -⟩ := reads
        rw [found] at again
        cases again
        exact moved ▸ passed.trans below
    · intro key row stored
      cases move.delivery_origin stored with
      | kept found => exact same ▸ filed.stocked key _ found
      | leased found => exact same ▸ filed.stocked key _ found
      | buried found => exact same ▸ filed.stocked key _ found
      | recorded acts running phase hit found => exact same ▸ filed.stocked key _ found
      | enqueued running phase member named listed => exact listed
    · rw [same]
      exact filed.once
  · have reads := works worker pass runs
    rw [phase] at reads
    have stored := @Filed.stored service id rows next rest endpoint pass.now filed orderly reads
      found
    exact ⟨stored.listed, stored.stocked, stored.once⟩

/-! The laws of every run. -/

structure WebhooksSound (service : WebhookService) : Prop where
  orderly : Orderly service
  exclusive : Exclusive service
  works : PassesRead service
  filed : Filed service

theorem WebhooksSound.step (sound : WebhooksSound service)
    (move : WebhookMove config service action after) :
    WebhooksSound after where
  orderly := sound.orderly.step move
  exclusive := sound.exclusive.step move
  works := sound.works.step sound.exclusive move
  filed := sound.filed.step sound.orderly sound.works move

theorem WebhooksSound.empty : WebhooksSound .empty where
  orderly := by
    constructor
    · rintro (_ | owner) event otherPlace other holds
      · cases holds
      · obtain ⟨written, found, -⟩ := holds
        cases found
    · rintro (_ | owner) event holds
      · cases holds
      · obtain ⟨written, found, -⟩ := holds
        cases found
  exclusive := by
    intro worker pass other otherPass id running
    cases running
  works := by
    intro worker pass running
    cases running
  filed := by
    constructor
    · intro id event member
      cases member
    · intro key row found
      cases found
    · exact List.nodup_nil

theorem reachable_webhooks_sound {allowed : WebhookService → WebhookAction → Prop}
    (reached : Runs.Reachable (webhooks config) allowed service) : WebhooksSound service := by
  refine Runs.invariant (webhooks config) allowed WebhooksSound ?_ ?_ reached
  · rintro start rfl
    exact .empty
  · intro before action later sound _ stepped
    exact sound.step (webhook_step_inverts stepped)

end MarketplaceService
