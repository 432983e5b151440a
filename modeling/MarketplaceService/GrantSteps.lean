import MarketplaceService.GrantFlows

/-!
What a step of the grant handoff can do. Every UPDATE of a flow is an edit: it
keeps the flow at work, or closes it without a result, and it needs a flow that
is at work. What remains is the completion of a flow, the two requests that
fetch the result, the sweep and the purge.
-/

namespace MarketplaceService

variable {config : GrantConfig} {service after : GrantService} {action : GrantAction}

/-! Batches. -/

theorem GrantService.mem_batchOf {due : GrantFlow → Bool} {key : GrantFlow → ℕ}
    {locked : List FlowId} {id : FlowId} (member : id ∈ service.batchOf config due key locked) :
    ∃ flow, service.flows.find? id = some flow ∧ due flow = true := by
  obtain ⟨entry, taken, rfl⟩ := List.mem_map.mp member
  have sorted := (List.mem_insertionSort _).mp (List.mem_of_mem_take taken)
  obtain ⟨listed, met⟩ := List.mem_filter.mp sorted
  refine ⟨entry.2, service.flows.find?_of_mem listed, ?_⟩
  exact (Bool.and_eq_true_iff.mp met).1

theorem GrantService.due_of_mem_batchOf {due : GrantFlow → Bool} {key : GrantFlow → ℕ}
    {locked : List FlowId} {id : FlowId} {flow : GrantFlow}
    (member : id ∈ service.batchOf config due key locked)
    (found : service.flows.find? id = some flow) : due flow = true := by
  obtain ⟨held, same, met⟩ := GrantService.mem_batchOf member
  rw [found] at same
  cases same
  exact met

/-! Edits. -/

def GrantStatus.atWork : GrantStatus → Bool
  | .awaiting | .verifying => true
  | _ => false

/-- A flow that ended without a result. -/
def GrantStatus.unsettled : GrantStatus → Bool
  | .mismatch | .expired | .cancelled | .invalid | .failed => true
  | _ => false

inductive ClosesAt (service : GrantService) (id : FlowId) (flow : GrantFlow) : Time → Prop
  | now : ClosesAt service id flow service.now
  | due {time : Time} (passed : flow.expiresAt ≤ time) : ClosesAt service id flow time
  | lapsed {time lease : Time} (leased : flow.leaseUntil = some lease) (passed : lease ≤ time) :
      ClosesAt service id flow time
  | started {worker : ℕ} {task : GrantTask} (running : service.task worker = some task)
      (same : task.flow = id) : ClosesAt service id flow task.startedAt

inductive FlowEdit (service : GrantService) (id : FlowId) (flow : GrantFlow) : GrantFlow → Prop
  | working {status : GrantStatus} {version : ℕ} {owner : Option ℕ} {lease : Option Time}
      {approved : Option Pubky} (before : flow.status.atWork = true)
      (later : status.atWork = true)
      (fresh : ∀ time ∈ lease, flow.leaseUntil = some time ∨ service.now ≤ time) :
      FlowEdit service id flow
        { flow with
          status, version, leaseOwner := owner, leaseUntil := lease, approvedPubky := approved }
  | closed {status : GrantStatus} {code : TerminalCode} {time : Time} {owner : Option ℕ}
      {lease : Option Time} {approved : Option Pubky} (before : flow.status.atWork = true)
      (later : status.unsettled = true) (fresh : ∀ time ∈ lease, flow.leaseUntil = some time)
      (closes : ClosesAt service id flow time) :
      FlowEdit service id flow
        { flow.close status code time with
          leaseOwner := owner, leaseUntil := lease, approvedPubky := approved }

def TasksFrom (service : GrantService) (tasks : Keyed.Table ℕ (Option GrantTask)) : Prop :=
  ∀ worker task, (tasks.find? worker).join = some task → ∃ old, service.task worker = some old ∧
    old.flow = task.flow ∧ old.expectedPubky = task.expectedPubky ∧
    old.startedAt = task.startedAt

theorem TasksFrom.refl (service : GrantService) : TasksFrom service service.tasks :=
  fun _ task found => ⟨task, found, rfl, rfl, rfl⟩

theorem TasksFrom.removed (service : GrantService) (worker : ℕ) :
    TasksFrom service (service.tasks.set worker none) := by
  intro other task found
  rw [Keyed.Table.find?_set] at found
  split at found
  · cases found
  · exact ⟨task, found, rfl, rfl, rfl⟩

theorem TasksFrom.moved {worker version : ℕ} {task : GrantTask} {phase : LeasePhase}
    (running : service.task worker = some task) :
    TasksFrom service (service.tasks.set worker (some { task with version, phase })) := by
  intro other later found
  rw [Keyed.Table.find?_set] at found
  split at found
  · rename_i same
    cases found
    exact ⟨task, same ▸ running, rfl, rfl, rfl⟩
  · exact ⟨later, found, rfl, rfl, rfl⟩

/-! Steps. -/

/-- A pass and the phase that its next statement leads to. -/
def closingPhase : ReaperPhase → Option ReaperPhase
  | .expire => some .stale
  | .stale => some .staleExchanging
  | .staleExchanging => some .sweep
  | _ => none

inductive GrantMove (config : GrantConfig) (service : GrantService) :
    GrantAction → GrantService → Prop
  | ticked {time : Time} (later : service.now ≤ time) :
      GrantMove config service (.tick time) { service with now := time }
  | checked {creation : ℕ} {assertion : Assertion}
      (accepted : validateAssertionTimes assertion.iat assertion.exp service.now = true) :
      GrantMove config service (.check creation assertion)
        { service with
          creations := service.creations.set creation (some ⟨assertion, service.now⟩) }
  | refused {creation : ℕ} {id : FlowId} :
      GrantMove config service (.insert creation id)
        { service with creations := service.creations.set creation none }
  | inserted {creation : ℕ} {id : FlowId} {pending : PendingCreation}
      (found : (service.creations.find? creation).join = some pending)
      (fresh : service.records.find? id = none)
      (unused : ∀ other flow, service.flows.find? other = some flow →
        flow.assertionJti ≠ pending.assertion.jti) :
      GrantMove config service (.insert creation id)
        { service with
          creations := service.creations.set creation none
          flows := service.flows.set id (GrantService.newFlow config pending)
          records := service.records.set id ⟨pending.assertion, pending.checkedAt, [], none⟩ }
  | acquired {worker owner : ℕ} {id : FlowId} {flow later : GrantFlow}
      (found : service.flows.find? id = some flow) (edit : FlowEdit service id flow later) :
      GrantMove config service (.acquire worker owner id)
        { service with
          flows := service.flows.set id later
          tasks := service.tasks.set worker
            (some ⟨id, flow.expectedPubky, owner, flow.version + 1, service.now, .polling⟩) }
  | edited {action : GrantAction} {id : FlowId} {flow later : GrantFlow}
      {tasks : Keyed.Table ℕ (Option GrantTask)} {requests : Keyed.Table RequestId Time}
      (found : service.flows.find? id = some flow) (edit : FlowEdit service id flow later)
      (from' : TasksFrom service tasks) :
      GrantMove config service action
        { service with flows := service.flows.set id later, tasks, requests }
  | idle {action : GrantAction} {tasks : Keyed.Table ℕ (Option GrantTask)}
      {requests : Keyed.Table RequestId Time} (from' : TasksFrom service tasks) :
      GrantMove config service action { service with tasks, requests }
  | completed {worker : ℕ} {approved : Pubky} {verified : List Capability}
      {session : SessionId} {bearer token : Secret} {task : GrantTask} {flow : GrantFlow}
      {record : FlowRecord} {row : AuthSession} {payload : SealedResult}
      (running : service.task worker = some task)
      (found : service.flows.find? task.flow = some flow)
      (recorded : service.records.find? task.flow = some record)
      (verifying : flow.status = .verifying) (fresh : service.freshSession session = true)
      (owner : row.pubky = task.expectedPubky)
      (allowed : ∀ capability ∈ row.capabilities, allowlistedCapability capability = true) :
      GrantMove config service (.settle worker approved verified session bearer token)
        { service with
          sessions := service.sessions.set session row
          flows := service.flows.set task.flow
            { flow.release with
              status := .complete, approvedPubky := some approved, terminalAt := some service.now
              resultToken := some token, resultTokenExpiresAt := some (service.now + 60)
              resultPayload := some payload, resultAuthSessionId := some session }
          records := service.records.set task.flow
            { record with sessions := (session, row) :: record.sessions }
          tasks := service.tasks.set worker none }
  | startedReaper {reaper : ℕ} :
      GrantMove config service (.startReaper reaper)
        { service with reapers := service.reapers.set reaper (some ⟨service.now, .expire⟩) }
  | stoppedReaper {reaper : ℕ} :
      GrantMove config service (.stopReaper reaper)
        { service with reapers := service.reapers.set reaper none }
  | closed {reaper : ℕ} {locked ids : List FlowId} {pass : ReaperPass} {phase : ReaperPhase}
      {change : GrantFlow → GrantFlow}
      (running : (service.reapers.find? reaper).join = some pass)
      (follows : closingPhase pass.phase = some phase)
      (edits : ∀ id flow, id ∈ ids → service.flows.find? id = some flow →
        FlowEdit service id flow (change flow)) :
      GrantMove config service (.reap reaper locked)
        { service.updateFlows ids change with
          reapers := service.reapers.set reaper (some { pass with phase }) }
  | swept {reaper : ℕ} {locked : List FlowId} {pass : ReaperPass}
      (running : (service.reapers.find? reaper).join = some pass) (phase : pass.phase = .sweep) :
      GrantMove config service (.reap reaper locked)
        { service.sweep (service.sweepBatch config pass.now locked) with
          reapers := service.reapers.set reaper (some { pass with phase := .nonces }) }
  | nonces {reaper : ℕ} {locked : List FlowId} {pass : ReaperPass} {kept : NonceId → Bool}
      (running : (service.reapers.find? reaper).join = some pass) (phase : pass.phase = .nonces) :
      GrantMove config service (.reap reaper locked)
        { service with
          nonces := service.nonces.keep kept
          reapers := service.reapers.set reaper (some { pass with phase := .requests }) }
  | requests {reaper : ℕ} {locked : List FlowId} {pass : ReaperPass} {kept : RequestId → Bool}
      (running : (service.reapers.find? reaper).join = some pass)
      (phase : pass.phase = .requests) :
      GrantMove config service (.reap reaper locked)
        { service with
          requests := service.requests.keep kept
          reapers := service.reapers.set reaper (some { pass with phase := .purge }) }
  | purged {reaper : ℕ} {locked ids : List FlowId} {pass : ReaperPass}
      (running : (service.reapers.find? reaper).join = some pass) (phase : pass.phase = .purge)
      (due : ∀ id ∈ ids, ∃ flow, service.flows.find? id = some flow ∧
        GrantService.purgeDue config pass.now flow = true) :
      GrantMove config service (.reap reaper locked)
        { service.purge ids with reapers := service.reapers.set reaper none }
  | issued {request : RequestId} {id : NonceId} {flow : FlowId} {purpose : NoncePurpose}
      {principal : String} {nonce : Secret} {row : ResultNonce}
      {requests : Keyed.Table RequestId Time} (fresh : service.freshNonce id = true) :
      GrantMove config service (.nonce request id flow purpose principal nonce)
        { service with nonces := service.nonces.set id row, requests }
  | ticketed {request : RequestId} {presented : GrantService.Presented} {flow : GrantFlow}
      {row : ResultNonce} {requests : Keyed.Table RequestId Time}
      (found : service.flows.find? presented.flow = some flow)
      (result : GrantService.resultOpen flow presented service.now = true)
      (nonce : service.nonces.find? presented.nonceId = some row) (unused : row.usedAt = none) :
      GrantMove config service (.ticket request presented)
        { service with
          nonces := service.nonces.set presented.nonceId { row with usedAt := some service.now }
          handoffs := ⟨.ticket, presented.flow, presented.nonceId⟩ :: service.handoffs
          flows := service.flows.set presented.flow
            { flow with resultTokenDeliveredAt := some service.now }
          requests }
  | claimed {request : RequestId} {presented : GrantService.Presented} {flow : GrantFlow}
      {row : ResultNonce} {requests : Keyed.Table RequestId Time}
      (found : service.flows.find? presented.flow = some flow)
      (result : GrantService.resultOpen flow presented service.now = true)
      (delivered : flow.resultTokenDeliveredAt.isSome = true)
      (nonce : service.nonces.find? presented.nonceId = some row) (unused : row.usedAt = none) :
      GrantMove config service (.claim request presented)
        { service with
          nonces := service.nonces.set presented.nonceId { row with usedAt := some service.now }
          handoffs := ⟨.claim, presented.flow, presented.nonceId⟩ :: service.handoffs
          flows := service.flows.set presented.flow
            { flow with
              resultClaimedAt := some service.now, resultToken := none, resultPayload := none }
          requests }
  | revoked {session : SessionId} {row : AuthSession}
      (found : service.sessions.find? session = some row) :
      GrantMove config service (.revoke session)
        { service with
          sessions := service.sessions.set session
            { row with revokedAt := some (row.revokedAt.getD service.now) } }

/-! Inversion. -/

theorem GrantFlow.ownedBy_verifying {flow : GrantFlow} {task : GrantTask}
    (owned : flow.ownedBy task = true) : flow.status = .verifying := by
  simp only [GrantFlow.ownedBy, Bool.and_eq_true, beq_iff_eq] at owned
  exact owned.1.1

theorem GrantStatus.verifying_atWork {flow : GrantFlow} (verifying : flow.status = .verifying) :
    flow.status.atWork = true := by
  rw [verifying]
  rfl

/-- A fenced UPDATE that edits, after which the task goes on as `tasks` says. -/
theorem updateOwned_moves {task : GrantTask} {change : GrantFlow → GrantFlow}
    {tasks : Keyed.Table ℕ (Option GrantTask)} (from' : TasksFrom service tasks)
    (edits : ∀ flow, service.flows.find? task.flow = some flow → flow.ownedBy task = true →
      FlowEdit service task.flow flow (change flow)) :
    GrantMove config service action { service.updateOwned task change with tasks } := by
  unfold GrantService.updateOwned
  cases found : service.flows.find? task.flow with
  | none => exact .idle from'
  | some flow =>
      dsimp only
      split
      · rename_i owned
        exact .edited found (edits flow found owned) from'
      · exact .idle from'

theorem terminalizeOwned_moves {worker : ℕ} {task : GrantTask} {status : GrantStatus}
    {code : TerminalCode} {approved : Option Pubky} {now : Time}
    (unsettled : status.unsettled = true)
    (closes : ∀ flow, ClosesAt service task.flow flow now) :
    GrantMove config service action
      ((service.terminalizeOwned task status code approved now).setTask worker none) := by
  have tasks : (service.terminalizeOwned task status code approved now).tasks = service.tasks := by
    unfold GrantService.terminalizeOwned GrantService.updateOwned
    split
    · split
      · rfl
      · rfl
    · rfl
  unfold GrantService.setTask
  rw [tasks]
  apply updateOwned_moves (.removed service worker)
  intro flow found owned
  exact .closed (GrantStatus.verifying_atWork (GrantFlow.ownedBy_verifying owned)) unsettled
    (by rintro time ⟨⟩) (closes flow)

theorem settleVerified_moves {worker : ℕ} {task : GrantTask} {approved : Pubky}
    {requested verified : List Capability} {session : SessionId} {bearer token : Secret}
    (running : service.task worker = some task)
    (fresh : service.freshSession session = true) :
    GrantMove config service (.settle worker approved verified session bearer token)
      ((service.settleVerified config task approved requested verified session bearer
        token).setTask worker none) := by
  unfold GrantService.settleVerified
  split
  · exact terminalizeOwned_moves rfl fun _ => .now
  · rename_i same
    rw [ne_eq, not_not] at same
    cases capable : sessionCapabilitiesForGrant config verified requested with
    | none => exact terminalizeOwned_moves rfl fun _ => .now
    | some capabilities =>
        have allowed : ∀ capability ∈ capabilities, allowlistedCapability capability = true := by
          unfold sessionCapabilitiesForGrant at capable
          split at capable
          · rename_i passes
            cases capable
            simp only [Bool.and_eq_true, List.all_eq_true] at passes
            exact passes.1.2
          · cases capable
        unfold GrantService.completeOwned GrantService.setTask
        dsimp only
        cases found : service.flows.find? task.flow with
        | none => exact .idle (.removed service worker)
        | some flow =>
            cases recorded : service.records.find? task.flow with
            | none => exact .idle (.removed service worker)
            | some record =>
                dsimp only
                split
                · rename_i owned
                  exact .completed running found recorded (GrantFlow.ownedBy_verifying owned)
                    fresh same allowed
                · exact .idle (.removed service worker)

theorem insertFlow_moves {creation : ℕ} {id : FlowId}
    (stepped : service.insertFlow config creation id = some after) :
    GrantMove config service (.insert creation id) after := by
  simp only [GrantService.insertFlow, Option.bind_eq_bind] at stepped
  obtain ⟨pending, found, rest⟩ := Option.bind_eq_some_iff.mp stepped
  split at rest
  · cases rest
  · rename_i fresh
    split at rest
    · cases rest
      exact .refused
    · rename_i admitted
      cases rest
      simp only [not_or, Option.not_isSome_iff_eq_none] at fresh admitted
      apply GrantMove.inserted found fresh.1
      intro other flow held same
      exact admitted.2 ((service.flows.countWhere_ne_zero_iff _).mpr
        ⟨other, flow, held, beq_iff_eq.mpr same⟩)

theorem acquire_moves {worker owner : ℕ} {id : FlowId}
    (stepped : service.acquire config worker owner id = some after) :
    GrantMove config service (.acquire worker owner id) after := by
  unfold GrantService.acquire at stepped
  cases found : service.flows.find? id with
  | none =>
      rw [found] at stepped
      cases stepped
  | some flow =>
      rw [found] at stepped
      dsimp only at stepped
      split at stepped
      · rename_i free
        cases stepped
        apply GrantMove.acquired found
        apply FlowEdit.working
        · rw [free.1]
          rfl
        · rfl
        · rintro time ⟨⟩
          exact .inr (Nat.le_add_right _ _)
      · cases stepped

theorem heartbeatLease_moves (task : GrantTask) :
    GrantMove config service action (service.heartbeatLease config task) := by
  unfold GrantService.heartbeatLease
  cases found : service.flows.find? task.flow with
  | none => exact .idle (.refl service)
  | some flow =>
      dsimp only
      split
      · rename_i owned
        apply GrantMove.edited found _ (.refl service)
        apply FlowEdit.working (GrantStatus.verifying_atWork owned.1)
          (GrantStatus.verifying_atWork owned.1)
        rintro time ⟨⟩
        exact .inr (Nat.le_add_right _ _)
      · exact .idle (.refl service)

theorem returnOwnedToAwaiting_moves (worker : ℕ) (task : GrantTask) :
    GrantMove config service action ((service.returnOwnedToAwaiting task).setTask worker none) := by
  have tasks : (service.returnOwnedToAwaiting task).tasks = service.tasks := by
    unfold GrantService.returnOwnedToAwaiting GrantService.updateOwned
    split
    · split
      · rfl
      · rfl
    · rfl
  unfold GrantService.setTask
  rw [tasks]
  apply updateOwned_moves (.removed service worker)
  intro flow found owned
  have working := GrantStatus.verifying_atWork (GrantFlow.ownedBy_verifying owned)
  split
  · exact .working working rfl (by rintro time ⟨⟩)
  · exact .working working working fun time leased => .inl leased

theorem enterExchanging_moves {worker : ℕ} {task : GrantTask} {approved : Pubky}
    {requested : List Capability} (running : service.task worker = some task) :
    GrantMove config service action
      (service.enterExchanging config worker task approved requested) := by
  unfold GrantService.enterExchanging
  cases found : service.flows.find? task.flow with
  | none => exact .idle (.removed service worker)
  | some flow =>
      dsimp only
      split
      · rename_i owned
        have working := GrantStatus.verifying_atWork (GrantFlow.ownedBy_verifying owned.1)
        apply GrantMove.edited found _ (.moved running)
        apply FlowEdit.working working working
        rintro time ⟨⟩
        exact .inr (Nat.le_add_right _ _)
      · exact .idle (.removed service worker)

theorem failTask_moves {worker : ℕ} {task : GrantTask} {failure : GrantService.TaskFailure}
    (running : service.task worker = some task) :
    GrantMove config service action ((service.failTask task failure).setTask worker none) := by
  have unsettled : failure.outcome.1.unsettled = true := by
    cases failure with
    | _ => rfl
  unfold GrantService.failTask
  split
  · exact terminalizeOwned_moves unsettled fun _ => .started running rfl
  · exact terminalizeOwned_moves unsettled fun _ => .now

theorem staleDue_edit {id : FlowId} {flow : GrantFlow} {code : TerminalCode} {now : Time}
    {exchanging : Bool} (due : GrantService.staleDue now exchanging flow = true) :
    FlowEdit service id flow (flow.close .failed code now).release := by
  simp only [GrantService.staleDue, Bool.and_eq_true, beq_iff_eq, Option.any_eq_true,
    decide_eq_true_eq] at due
  obtain ⟨⟨verifying, lease, leased, passed⟩, -⟩ := due
  exact .closed (GrantStatus.verifying_atWork verifying) rfl (by rintro time ⟨⟩)
    (.lapsed leased passed)

theorem reap_moves {reaper : ℕ} {pass : ReaperPass} {locked : List FlowId}
    (running : (service.reapers.find? reaper).join = some pass) :
    GrantMove config service (.reap reaper locked) (service.reap config reaper pass locked) := by
  unfold GrantService.reap
  cases phase : pass.phase with
  | expire =>
      apply GrantMove.closed running (by rw [phase]; rfl)
      intro id flow member found
      have due := GrantService.due_of_mem_batchOf member found
      simp only [GrantService.expireDue, Bool.and_eq_true, beq_iff_eq, decide_eq_true_eq] at due
      apply FlowEdit.closed _ rfl (fun _ leased => leased) (.due due.2)
      rw [due.1]
      rfl
  | stale =>
      apply GrantMove.closed running (by rw [phase]; rfl)
      intro id flow member found
      exact staleDue_edit (GrantService.due_of_mem_batchOf member found)
  | staleExchanging =>
      apply GrantMove.closed running (by rw [phase]; rfl)
      intro id flow member found
      exact staleDue_edit (GrantService.due_of_mem_batchOf member found)
  | sweep => exact .swept running phase
  | nonces =>
      dsimp only
      exact .nonces running phase
  | requests =>
      dsimp only
      exact .requests running phase
  | purge => exact .purged running phase fun id member => GrantService.mem_batchOf member

theorem cancelFlow_moves (requests : Keyed.Table RequestId Time) (id : FlowId)
    (deliveryId : Secret) :
    GrantMove config service action
      (GrantService.cancelFlow { service with requests } id deliveryId) := by
  unfold GrantService.cancelFlow
  dsimp only
  cases found : service.flows.find? id with
  | none => exact .idle (.refl service)
  | some flow =>
      dsimp only
      split
      · rename_i open'
        apply GrantMove.edited found _ (.refl service)
        apply FlowEdit.closed _ rfl (fun _ leased => leased) .now
        rw [open'.2]
        rfl
      · exact .idle (.refl service)

theorem consumeNonce_inverts {presented : GrantService.Presented} {purpose : NoncePurpose}
    (consumed : service.consumeNonce presented purpose = some after) :
    ∃ row, service.nonces.find? presented.nonceId = some row ∧ row.usedAt = none ∧
      after = { service with
        nonces := service.nonces.set presented.nonceId { row with usedAt := some service.now }
        handoffs := ⟨purpose, presented.flow, presented.nonceId⟩ :: service.handoffs } := by
  unfold GrantService.consumeNonce at consumed
  cases found : service.nonces.find? presented.nonceId with
  | none =>
      rw [found] at consumed
      cases consumed
  | some row =>
      rw [found] at consumed
      dsimp only at consumed
      split at consumed
      · rename_i valid
        cases consumed
        exact ⟨row, rfl, valid.2.2.2.2.2.1, rfl⟩
      · cases consumed

theorem resultTicket_moves {request : RequestId} {presented : GrantService.Presented}
    (requests : Keyed.Table RequestId Time) :
    GrantMove config service (.ticket request presented)
      ((GrantService.resultTicket { service with requests } presented).getD
        { service with requests }) := by
  cases answered : GrantService.resultTicket { service with requests } presented with
  | none => exact .idle (.refl service)
  | some later =>
      simp only [GrantService.resultTicket, Option.bind_eq_bind] at answered
      obtain ⟨flow, found, rest⟩ := Option.bind_eq_some_iff.mp answered
      split at rest
      · rename_i fetchable
        obtain ⟨middle, consumed, written⟩ := Option.bind_eq_some_iff.mp rest
        obtain ⟨row, nonce, unused, rfl⟩ := consumeNonce_inverts consumed
        cases written
        exact .ticketed found fetchable.1 nonce unused
      · cases rest

theorem claimResult_moves {request : RequestId} {presented : GrantService.Presented}
    (requests : Keyed.Table RequestId Time) :
    GrantMove config service (.claim request presented)
      ((GrantService.claimResult { service with requests } presented).getD
        { service with requests }) := by
  cases answered : GrantService.claimResult { service with requests } presented with
  | none => exact .idle (.refl service)
  | some later =>
      simp only [GrantService.claimResult, Option.bind_eq_bind] at answered
      obtain ⟨flow, found, rest⟩ := Option.bind_eq_some_iff.mp answered
      split at rest
      · rename_i fetchable
        obtain ⟨middle, consumed, written⟩ := Option.bind_eq_some_iff.mp rest
        obtain ⟨row, nonce, unused, rfl⟩ := consumeNonce_inverts consumed
        cases written
        exact .claimed found fetchable.1 fetchable.2.1 nonce unused
      · cases rest

theorem consumeRequest_inverts {request : RequestId}
    (admitted : service.consumeRequest request = some after) :
    after = { service with requests := service.requests.set request service.now } := by
  unfold GrantService.consumeRequest at admitted
  split at admitted
  · cases admitted
  · cases admitted
    rfl

theorem grant_step_inverts (stepped : (grantHandoff config).step service action = some after) :
    GrantMove config service action after := by
  change service.step config action = some after at stepped
  cases action with
  | tick time =>
      simp only [GrantService.step] at stepped
      split at stepped
      · cases stepped
        exact .ticked ‹_›
      · cases stepped
  | check creation assertion =>
      simp only [GrantService.step, GrantService.checkAssertion] at stepped
      split at stepped
      · cases stepped
        exact .checked ‹_›
      · cases stepped
  | insert creation id => exact insertFlow_moves stepped
  | acquire worker owner id => exact acquire_moves stepped
  | heartbeat worker =>
      obtain ⟨task, running, written⟩ := Option.bind_eq_some_iff.mp stepped
      cases written
      exact heartbeatLease_moves task
  | giveBack worker =>
      obtain ⟨task, running, written⟩ := Option.bind_eq_some_iff.mp stepped
      split at written
      · cases written
        exact returnOwnedToAwaiting_moves worker task
      · cases written
  | exchange worker approved requested =>
      obtain ⟨task, running, written⟩ := Option.bind_eq_some_iff.mp stepped
      split at written
      · cases written
        exact enterExchanging_moves running
      · cases written
  | settle worker approved verified session bearer token =>
      obtain ⟨task, running, written⟩ := Option.bind_eq_some_iff.mp stepped
      split at written
      · split at written
        · rename_i fresh
          cases written
          exact settleVerified_moves running fresh
        · cases written
      · cases written
  | fail worker failure =>
      obtain ⟨task, running, written⟩ := Option.bind_eq_some_iff.mp stepped
      cases written
      exact failTask_moves running
  | stop worker =>
      cases stepped
      exact .idle (.removed service worker)
  | startReaper reaper =>
      cases stepped
      exact .startedReaper
  | reap reaper locked =>
      obtain ⟨pass, running, written⟩ := Option.bind_eq_some_iff.mp stepped
      cases written
      exact reap_moves running
  | stopReaper reaper =>
      cases stepped
      exact .stoppedReaper
  | cancel request id deliveryId =>
      obtain ⟨admitted, consumed, written⟩ := Option.bind_eq_some_iff.mp stepped
      cases consumeRequest_inverts consumed
      cases written
      exact cancelFlow_moves _ id deliveryId
  | nonce request id flow purpose principal nonce =>
      obtain ⟨admitted, consumed, written⟩ := Option.bind_eq_some_iff.mp stepped
      cases consumeRequest_inverts consumed
      split at written
      · rename_i fresh
        cases written
        unfold GrantService.issueResultNonce
        split
        · exact .issued fresh
        · exact .idle (.refl service)
      · cases written
  | ticket request presented =>
      obtain ⟨admitted, consumed, written⟩ := Option.bind_eq_some_iff.mp stepped
      cases consumeRequest_inverts consumed
      cases written
      exact resultTicket_moves _
  | claim request presented =>
      obtain ⟨admitted, consumed, written⟩ := Option.bind_eq_some_iff.mp stepped
      cases consumeRequest_inverts consumed
      cases written
      exact claimResult_moves _
  | revoke session =>
      obtain ⟨row, found, written⟩ := Option.map_eq_some_iff.mp stepped
      cases written
      exact .revoked found

end MarketplaceService
