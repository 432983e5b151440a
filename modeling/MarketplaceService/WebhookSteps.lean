import MarketplaceService.Webhooks

/-!
What one step of the webhook service can do. `WebhookMove` inverts the step
function once; `Advance` lists the statements of a pass that need no input.
-/

namespace MarketplaceService

variable {config : WebhookConfig} {service after : WebhookService}

namespace WebhookService

def leaseDeliveries (service : WebhookService) (keys : List DeliveryKey) (leaseUntil : Time) :
    WebhookService :=
  { service with
    deliveries := service.deliveries.mapRows fun key row =>
      if key ∈ keys then { row with leaseUntil := some leaseUntil } else row }

def setCursor (service : WebhookService) (id : EndpointId) (endpoint : WebhookEndpoint)
    (next : ℕ) (now : Time) : WebhookService :=
  { service with
    endpoints := service.endpoints.set id
      { endpoint with enqueueSequence := next, enqueueCheckedAt := some now } }

end WebhookService

inductive Advance (config : WebhookConfig) (service : WebhookService) (pass : WebhookPass) :
    WebhookService → WebhookPhase → Prop
  | purgeLetters (phase : pass.phase = .purgeLetters) :
      Advance config service pass (service.purgeLetters config pass.now) .purgeDeliveries
  | purgeDeliveries (phase : pass.phase = .purgeDeliveries) :
      Advance config service pass (service.purgeDeliveries config pass.now) .list
  | listed (phase : pass.phase = .list) :
      Advance config service pass service (.endpoints (service.enqueueTargets config))
  | drained (phase : pass.phase = .endpoints []) :
      Advance config service pass service .claiming
  | passedOver {id : EndpointId} {rest : List EndpointId}
      (phase : pass.phase = .endpoints (id :: rest)) :
      Advance config service pass service (.endpoints rest)
  | full {id : EndpointId} {rest : List EndpointId} {endpoint : WebhookEndpoint}
      (phase : pass.phase = .endpoints (id :: rest)) (free : service.lockFree id = true)
      (found : service.endpoints.find? id = some endpoint) :
      Advance config service pass
        (service.setCursor id endpoint endpoint.enqueueSequence pass.now) (.endpoints rest)
  | room {id : EndpointId} {rest : List EndpointId} {endpoint : WebhookEndpoint} {limit : ℕ}
      (phase : pass.phase = .endpoints (id :: rest)) (free : service.lockFree id = true)
      (found : service.endpoints.find? id = some endpoint) (positive : 0 < limit) :
      Advance config service pass service (.room id endpoint.enqueueSequence limit rest)
  | short {id : EndpointId} {cursor limit : ℕ} {rest : List EndpointId} {seller : Pubky}
      {rows : List DomainEvent} (phase : pass.phase = .room id cursor limit rest)
      (sells : service.sellerOf id = some seller)
      (read : rows = (config.sellerEvents service.events seller cursor pass.now).take limit)
      (length : rows.length ≠ limit) :
      Advance config service pass service (.batch id cursor limit rows rest)
  | whole {id : EndpointId} {cursor limit : ℕ} {rest : List EndpointId} {seller : Pubky}
      {rows : List DomainEvent} (phase : pass.phase = .room id cursor limit rest)
      (sells : service.sellerOf id = some seller)
      (read : rows = (config.sellerEvents service.events seller cursor pass.now).take limit)
      (length : rows.length = limit) :
      Advance config service pass service
        (.chosen id rows ((rows.getLast?.map (·.sequence)).getD cursor) rest)
  | highest {id : EndpointId} {cursor limit : ℕ} {rows : List DomainEvent}
      {rest : List EndpointId} (phase : pass.phase = .batch id cursor limit rows rest) :
      Advance config service pass service
        (.chosen id rows (max (maxSequence service.events) cursor) rest)
  | stored {id : EndpointId} {next : ℕ} {rows : List DomainEvent} {rest : List EndpointId}
      {endpoint : WebhookEndpoint} (phase : pass.phase = .chosen id rows next rest)
      (found : service.endpoints.find? id = some endpoint) :
      Advance config service pass
        ((service.setCursor id endpoint next pass.now).insertDeliveries id pass.now rows)
        (.endpoints rest)
  | took {delivery : ClaimedDelivery} {rest : List ClaimedDelivery}
      (phase : pass.phase = .deliveries (delivery :: rest))
      (free : service.lockFree delivery.key.1 = true) :
      Advance config service pass service (.sending delivery rest)
  | left {delivery : ClaimedDelivery} {rest : List ClaimedDelivery}
      (phase : pass.phase = .deliveries (delivery :: rest)) :
      Advance config service pass service (.deliveries rest)

theorem countRoom_inverts {worker : WebhookWorkerId} {pass : WebhookPass} {id : EndpointId}
    {rest : List EndpointId} (phase : pass.phase = .endpoints (id :: rest))
    (counted : service.countRoom config worker pass id rest = some after) :
    ∃ middle next, Advance config service pass middle next ∧
      after = middle.setPhase worker pass next := by
  unfold WebhookService.countRoom at counted
  split at counted
  · rename_i free
    split at counted
    · rename_i endpoint found
      split at counted
      · split at counted
        · simp only at counted
          split at counted
          · cases counted
            exact ⟨_, _, .full phase free found, rfl⟩
          · rename_i room
            cases counted
            have positive : 0 < min (config.maxPendingPerSeller -
                service.pendingOf endpoint.sellerPubky) config.enqueueBatchSize := by
              have batch := config.positiveBatch
              omega
            exact ⟨_, _, .room phase free found positive, rfl⟩
        · cases counted
      · cases counted
        exact ⟨_, _, .passedOver phase, rfl⟩
    · cases counted
      exact ⟨_, _, .passedOver phase, rfl⟩
  · cases counted

theorem readBatch_inverts {worker : WebhookWorkerId} {pass : WebhookPass} {id : EndpointId}
    {cursor limit : ℕ} {rest : List EndpointId} (phase : pass.phase = .room id cursor limit rest)
    (read : service.readBatch config worker pass id cursor limit rest = some after) :
    ∃ middle next, Advance config service pass middle next ∧
      after = middle.setPhase worker pass next := by
  obtain ⟨seller, sells, moved⟩ := Option.map_eq_some_iff.mp read
  simp only at moved
  split at moved
  · rename_i length
    exact ⟨_, _, .whole phase sells rfl length, moved.symm⟩
  · rename_i length
    exact ⟨_, _, .short phase sells rfl length, moved.symm⟩

theorem takeDelivery_inverts {worker : WebhookWorkerId} {pass : WebhookPass}
    {delivery : ClaimedDelivery} {rest : List ClaimedDelivery}
    (phase : pass.phase = .deliveries (delivery :: rest))
    (taken : service.takeDelivery worker pass delivery rest = some after) :
    ∃ middle next, Advance config service pass middle next ∧
      after = middle.setPhase worker pass next := by
  unfold WebhookService.takeDelivery at taken
  split at taken
  · rename_i free
    split at taken
    · cases taken
      exact ⟨_, _, .took phase free, rfl⟩
    · cases taken
      exact ⟨_, _, .left phase, rfl⟩
  · cases taken

theorem advance_inverts {worker : WebhookWorkerId} {pass : WebhookPass}
    (advanced : service.advance config worker pass = some after) :
    ∃ middle next, Advance config service pass middle next ∧
      after = middle.setPhase worker pass next := by
  unfold WebhookService.advance at advanced
  cases phase : pass.phase with
  | purgeLetters =>
      simp only [phase, Option.some.injEq] at advanced
      exact ⟨_, _, .purgeLetters phase, advanced.symm⟩
  | purgeDeliveries =>
      simp only [phase, Option.some.injEq] at advanced
      exact ⟨_, _, .purgeDeliveries phase, advanced.symm⟩
  | list =>
      simp only [phase, Option.some.injEq] at advanced
      exact ⟨_, _, .listed phase, advanced.symm⟩
  | endpoints ids =>
      cases ids with
      | nil =>
          simp only [phase, Option.some.injEq] at advanced
          exact ⟨_, _, .drained phase, advanced.symm⟩
      | cons id rest =>
          simp only [phase] at advanced
          exact countRoom_inverts phase advanced
  | room id cursor limit rest =>
      simp only [phase] at advanced
      exact readBatch_inverts phase advanced
  | batch id cursor limit rows rest =>
      simp only [phase, Option.some.injEq] at advanced
      exact ⟨_, _, .highest phase, advanced.symm⟩
  | chosen id rows next rest =>
      simp only [phase] at advanced
      obtain ⟨endpoint, found, moved⟩ := Option.map_eq_some_iff.mp advanced
      exact ⟨_, _, .stored phase found, moved.symm⟩
  | claiming =>
      simp only [phase] at advanced
      cases advanced
  | deliveries claimed =>
      cases claimed with
      | nil =>
          simp only [phase] at advanced
          cases advanced
      | cons delivery rest =>
          simp only [phase] at advanced
          exact takeDelivery_inverts phase advanced
  | sending delivery rest =>
      simp only [phase] at advanced
      cases advanced

inductive WebhookMove (config : WebhookConfig) (service : WebhookService) :
    WebhookAction → WebhookService → Prop
  | ticked {time : Time} (later : service.now ≤ time) :
      WebhookMove config service (.tick time) { service with now := time }
  | inserted {transaction : TransactionId} {event : DomainEvent}
      (fresh : ∀ other ∈ service.events ++ service.openEvents, other.id ≠ event.id) :
      WebhookMove config service (.insert transaction event)
        { service with
          nextSequence := service.nextSequence + 1
          transactions := service.transactions.set transaction
            ((service.transactions.find? transaction).getD [] ++
              [{ event with sequence := service.nextSequence }]) }
  | finished {transaction : TransactionId} {commits : Bool} {written : List DomainEvent}
      (found : service.transactions.find? transaction = some written) :
      WebhookMove config service (.finish transaction commits)
        { service with
          transactions := service.transactions.keep fun other => other != transaction
          events := if commits then service.events ++ written else service.events }
  | added {id : EndpointId} {seller : Pubky} {url : String}
      (free : service.endpoints.find? id = none) :
      WebhookMove config service (.add id seller url)
        { service with
          endpoints := service.endpoints.set id
            { sellerPubky := seller, endpointUrl := url
              enqueueSequence := maxSequence service.events, enqueueCheckedAt := none
              createdAt := service.now, deletedAt := none
              committedBefore := service.events.map (·.id) } }
  | deleted {id : EndpointId} {seller : Pubky} {endpoint : WebhookEndpoint}
      (found : service.endpoints.find? id = some endpoint) (free : service.lockFree id = true) :
      WebhookMove config service (.delete id seller)
        { service with
          endpoints := service.endpoints.set id { endpoint with deletedAt := some service.now }
          deliveries := service.deliveries.mapRows fun key row =>
            if key.1 = id then row.bury service.now else row
          buried := service.openKeys id ++ service.buried }
  | paged {seller : Pubky} {cursor limit : ℕ} {rows : List DomainEvent}
      (read : rows = (config.sellerEvents service.events seller cursor service.now).take limit) :
      WebhookMove config service (.page seller cursor limit)
        { service with
          shown := rows.map (fun row => (seller, row.sequence)) ++ service.shown }
  | refused {seller : Pubky} {cursor limit : ℕ} :
      WebhookMove config service (.page seller cursor limit) service
  | started {worker : WebhookWorkerId} (idle : service.pass worker = none) :
      WebhookMove config service (.start worker)
        { service with
          passes := service.passes.set worker (some ⟨service.now, .purgeLetters⟩) }
  | advanced {worker : WebhookWorkerId} {pass : WebhookPass} {middle : WebhookService}
      {next : WebhookPhase} (running : service.pass worker = some pass)
      (moved : Advance config service pass middle next) :
      WebhookMove config service (.advance worker) (middle.setPhase worker pass next)
  | claimed {worker : WebhookWorkerId} {locked : List DeliveryKey} {pass : WebhookPass}
      {keys : List DeliveryKey} {claimed : List ClaimedDelivery}
      (running : service.pass worker = some pass) (phase : pass.phase = .claiming)
      (rows : ∀ delivery ∈ claimed, ∃ row, service.deliveries.find? delivery.key = some row) :
      WebhookMove config service (.claim worker locked)
        ((service.leaseDeliveries keys (pass.now + config.leaseSeconds)).setPhase worker pass
          (.deliveries claimed))
  | answered {worker : WebhookWorkerId} {status : Option ℕ} {pass : WebhookPass}
      {delivery : ClaimedDelivery} {rest : List ClaimedDelivery}
      (running : service.pass worker = some pass) (phase : pass.phase = .sending delivery rest) :
      WebhookMove config service (.answer worker status)
        ((service.persistOutcome config delivery pass.now status).setPhase worker pass
          (.deliveries rest))
  | stopped {worker : WebhookWorkerId} :
      WebhookMove config service (.stop worker)
        { service with passes := service.passes.set worker none }

theorem listSellerEvents_ok {events rows : List DomainEvent} {seller : Pubky} {cursor limit : ℕ}
    {now : Time} (listed : config.listSellerEvents events seller cursor limit now = .ok rows) :
    rows = (config.sellerEvents events seller cursor now).take limit := by
  unfold WebhookConfig.listSellerEvents at listed
  simp only at listed
  split at listed
  · cases listed
  · split at listed
    · cases listed
    · split at listed
      · cases listed
      · cases listed
        rfl

theorem dueDeliveries_mem {now : Time} {locked : List DeliveryKey}
    {entry : DeliveryKey × WebhookDelivery} {live : DeliveryKey × WebhookDelivery → Bool}
    (due : entry ∈ (service.dueDeliveries now locked).filter live) :
    entry ∈ service.deliveries.rows := by
  have taken := List.mem_of_mem_take (List.mem_of_mem_filter due)
  exact List.mem_of_mem_filter ((List.mem_insertionSort _).mp taken)

theorem webhook_step_inverts {action : WebhookAction}
    (stepped : service.step config action = some after) :
    WebhookMove config service action after := by
  cases action with
  | tick time =>
      simp only [WebhookService.step] at stepped
      split at stepped
      · cases stepped
        exact .ticked ‹_›
      · cases stepped
  | insert transaction event =>
      simp only [WebhookService.step, WebhookService.insertEvent] at stepped
      split at stepped
      · rename_i fresh
        cases stepped
        exact .inserted fun other member => (fresh other member).1
      · cases stepped
  | finish transaction commits =>
      obtain ⟨written, found, moved⟩ := Option.map_eq_some_iff.mp stepped
      cases moved
      exact .finished found
  | add id seller url =>
      simp only [WebhookService.step, WebhookService.addWebhook] at stepped
      split at stepped
      · rename_i free
        cases stepped
        exact .added (Option.isNone_iff_eq_none.mp free.1)
      · cases stepped
  | delete id seller =>
      simp only [WebhookService.step, WebhookService.deleteWebhook] at stepped
      split at stepped
      · rename_i endpoint found
        split at stepped
        · rename_i allowed
          cases stepped
          exact .deleted found allowed.2.2
        · cases stepped
      · cases stepped
  | page seller cursor limit =>
      simp only [WebhookService.step] at stepped
      split at stepped
      · rename_i rows listed
        cases stepped
        exact .paged (listSellerEvents_ok listed)
      · cases stepped
        exact .refused
  | start worker =>
      simp only [WebhookService.step] at stepped
      split at stepped
      · rename_i idle
        cases stepped
        exact .started (Option.isNone_iff_eq_none.mp idle)
      · cases stepped
  | advance worker =>
      obtain ⟨pass, running, moved⟩ := Option.bind_eq_some_iff.mp stepped
      obtain ⟨middle, next, advances, written⟩ := advance_inverts moved
      subst written
      exact .advanced running advances
  | claim worker locked =>
      obtain ⟨pass, running, moved⟩ := Option.bind_eq_some_iff.mp stepped
      cases phase : pass.phase with
      | claiming =>
          simp only [phase] at moved
          cases moved
          apply WebhookMove.claimed running phase
          intro delivery member
          obtain ⟨entry, due, rfl⟩ := List.mem_map.mp member
          exact ⟨entry.2, service.deliveries.find?_of_mem (dueDeliveries_mem due)⟩
      | _ =>
          simp only [phase] at moved
          cases moved
  | answer worker status =>
      obtain ⟨pass, running, moved⟩ := Option.bind_eq_some_iff.mp stepped
      cases phase : pass.phase with
      | sending delivery rest =>
          simp only [phase] at moved
          cases moved
          exact .answered running phase
      | _ =>
          simp only [phase] at moved
          cases moved
  | stop worker =>
      cases stepped
      exact .stopped

end MarketplaceService
