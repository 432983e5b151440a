import Mathlib.Data.List.Sort
import MarketplaceService.Lib.Run
import MarketplaceService.Schema

/-!
The grant handoff (`grant.rs`, migration `0036_grant_flows.sql`): flows that a
signed assertion opens, workers that lease a flow and settle it, the reaper,
and the requests of the client that cancel a flow or fetch its session.

A transaction and the reading of the clock that goes with it are one step. The
check of an assertion and the transaction that inserts its flow are two, and so
are the statements of a pass of the reaper, which reads the clock once. A scan
that leases a batch is one step for each of its flows. Requests that the rate
limits or the service signature refuse do nothing and are not steps.

Signatures, sealing and keyed hashes are ideal: a sealed payload and a hashed
secret stand in their column as they are, a proof of possession is valid or
not, and generated ids and secrets are fresh. `scope_covers_path` of
`pubky-common` is the parameter `covers`. Key epochs, the relay state and the
client key are not modelled.
-/

namespace MarketplaceService

abbrev FlowId := ℕ
abbrev SessionId := ℕ
abbrev NonceId := ℕ
abbrev RequestId := ℕ
abbrev Secret := ℕ

/-! Assertions. -/

/-- The claims of an assertion whose signature, audience, issuer and purpose
have been verified. -/
structure Assertion where
  jti : ℕ
  iat : Int64
  exp : Int64
  expectedPubky : Pubky
  deliveryId : Secret
deriving DecidableEq

/-- `validate_assertion_times`. The subtraction is that of `i64` in a release
build. -/
def validateAssertionTimes (iat exp : Int64) (now : Time) : Bool :=
  !(exp ≤ iat || 60 < exp - iat || (now : ℤ) + 5 < iat.toInt || exp.toInt ≤ (now : ℤ))

/-! Capabilities. -/

inductive CapabilityAction where
  | read
  | write
deriving DecidableEq, Repr

structure Capability where
  scope : String
  actions : List CapabilityAction
deriving DecidableEq, Repr

def inventoryServiceScope : String := "/pub/pubky.app/marketplace-service/v1/"
def privAppScope : String := "/priv/pubky.app/"

def allowlistedCapability (capability : Capability) : Bool :=
  inventoryServiceScope.toList.isPrefixOf capability.scope.toList ||
    privAppScope.toList.isPrefixOf capability.scope.toList

structure GrantConfig where
  flowTtlSeconds : ℕ
  verifyLeaseSeconds : ℕ
  maxLiveFlows : ℕ
  reaperBatchSize : ℕ
  terminalRetentionSeconds : ℕ
  sessionTtlSeconds : ℕ
  covers : String → String → Bool
  longRetention : 600 ≤ terminalRetentionSeconds

def capabilityCovers (config : GrantConfig) (requested granted : Capability) : Bool :=
  config.covers requested.scope granted.scope &&
    granted.actions.all fun action => requested.actions.contains action

/-- `session_capabilities_for_grant` on normalized capabilities. -/
def sessionCapabilitiesForGrant (config : GrantConfig) (verified requested : List Capability) :
    Option (List Capability) :=
  if requested.all allowlistedCapability && verified.all allowlistedCapability &&
      verified.all fun granted => requested.any fun wanted =>
        capabilityCovers config wanted granted then some verified
  else none

/-! Rows. -/

inductive GrantStatus where
  | awaiting
  | verifying
  | complete
  | mismatch
  | expired
  | cancelled
  | invalid
  | failed
deriving DecidableEq, Repr

inductive TerminalCode where
  | identityMismatch
  | grantInvalid
  | storageFailure
  | relayTransport
  | grantExchange
  | leaseLost
  | flowExpired
  | cancelled
deriving DecidableEq, Repr

structure SealedResult where
  bearer : Secret
  resultToken : Secret
  sessionExpiresAt : Time
deriving DecidableEq, Repr

structure GrantFlow where
  expectedPubky : Pubky
  assertionJti : ℕ
  deliveryId : Secret
  status : GrantStatus
  version : ℕ
  leaseOwner : Option ℕ
  leaseUntil : Option Time
  approvedPubky : Option Pubky
  terminalCode : Option TerminalCode
  resultToken : Option Secret
  resultTokenExpiresAt : Option Time
  resultTokenDeliveredAt : Option Time
  resultPayload : Option SealedResult
  resultAuthSessionId : Option SessionId
  createdAt : Time
  expiresAt : Time
  terminalAt : Option Time
  resultClaimedAt : Option Time
deriving DecidableEq, Repr

structure AuthSession where
  bearer : Secret
  pubky : Pubky
  capabilities : List Capability
  createdAt : Time
  expiresAt : Time
  revokedAt : Option Time
deriving DecidableEq, Repr

/-- `authenticate`: the session is not expired and not revoked. -/
def AuthSession.usable (session : AuthSession) (now : Time) : Bool :=
  now < session.expiresAt && session.revokedAt.isNone

inductive NoncePurpose where
  | ticket
  | claim
deriving DecidableEq, Repr

structure ResultNonce where
  flow : FlowId
  purpose : NoncePurpose
  principal : String
  nonce : Secret
  createdAt : Time
  expiresAt : Time
  usedAt : Option Time
deriving DecidableEq, Repr

/-! Tasks. -/

structure PendingCreation where
  assertion : Assertion
  checkedAt : Time
deriving DecidableEq

inductive LeasePhase where
  | polling
  | exchanging (approved : Pubky) (requested : List Capability)
deriving DecidableEq, Repr

/-- A lease and where `process_lease` stands with it. -/
structure GrantTask where
  flow : FlowId
  expectedPubky : Pubky
  owner : ℕ
  version : ℕ
  startedAt : Time
  phase : LeasePhase
deriving DecidableEq, Repr

inductive ReaperPhase where
  | expire
  | stale
  | staleExchanging
  | sweep
  | nonces
  | requests
  | purge
deriving DecidableEq, Repr

structure ReaperPass where
  now : Time
  phase : ReaperPhase
deriving DecidableEq, Repr

structure FlowRecord where
  assertion : Assertion
  checkedAt : Time
  sessions : List (SessionId × AuthSession)
  purgedAs : Option GrantStatus
deriving DecidableEq

/-- A successful ticket or claim request. -/
structure Handoff where
  purpose : NoncePurpose
  flow : FlowId
  nonce : NonceId
deriving DecidableEq, Repr

/-- The last two fields are records of the run; the newest handoff comes
first. -/
structure GrantService where
  now : Time
  flows : Keyed.Table FlowId GrantFlow
  sessions : Keyed.Table SessionId AuthSession
  nonces : Keyed.Table NonceId ResultNonce
  requests : Keyed.Table RequestId Time
  creations : Keyed.Table ℕ (Option PendingCreation)
  tasks : Keyed.Table ℕ (Option GrantTask)
  reapers : Keyed.Table ℕ (Option ReaperPass)
  records : Keyed.Table FlowId FlowRecord
  handoffs : List Handoff

namespace GrantFlow

/-- Secrets of a flow that ends without a result. -/
def close (flow : GrantFlow) (status : GrantStatus) (code : TerminalCode) (now : Time) :
    GrantFlow :=
  { flow with
    status, terminalCode := some code, terminalAt := some now, resultPayload := none
    resultToken := none }

def release (flow : GrantFlow) : GrantFlow := { flow with leaseOwner := none, leaseUntil := none }

/-- The fence of every write of a worker. -/
def ownedBy (flow : GrantFlow) (task : GrantTask) : Bool :=
  flow.status == .verifying && flow.leaseOwner == some task.owner && flow.version == task.version

def live (flow : GrantFlow) (now : Time) : Bool :=
  (flow.status == .awaiting || flow.status == .verifying || flow.status == .complete) &&
    now < flow.expiresAt && flow.resultClaimedAt.isNone

end GrantFlow

namespace GrantService

/-! Creation. -/

def checkAssertion (service : GrantService) (creation : ℕ) (assertion : Assertion) :
    Option GrantService :=
  if validateAssertionTimes assertion.iat assertion.exp service.now then
    some { service with
      creations := service.creations.set creation (some ⟨assertion, service.now⟩) }
  else none

def newFlow (config : GrantConfig) (pending : PendingCreation) : GrantFlow where
  expectedPubky := pending.assertion.expectedPubky
  assertionJti := pending.assertion.jti
  deliveryId := pending.assertion.deliveryId
  status := .awaiting
  version := 0
  leaseOwner := none
  leaseUntil := none
  approvedPubky := none
  terminalCode := none
  resultToken := none
  resultTokenExpiresAt := none
  resultTokenDeliveredAt := none
  resultPayload := none
  resultAuthSessionId := none
  createdAt := pending.checkedAt
  expiresAt := pending.checkedAt + config.flowTtlSeconds
  terminalAt := none
  resultClaimedAt := none

/-- The transaction of `create_flow`: a full house or a used assertion id
refuses it. -/
def insertFlow (config : GrantConfig) (service : GrantService) (creation : ℕ) (id : FlowId) :
    Option GrantService := do
  let pending ← (service.creations.find? creation).join
  if (service.records.find? id).isSome ∨ (service.flows.find? id).isSome then none
  else
    let service := { service with creations := service.creations.set creation none }
    if config.maxLiveFlows ≤ service.flows.countWhere (·.live pending.checkedAt) ∨
        service.flows.countWhere (·.assertionJti == pending.assertion.jti) ≠ 0 then some service
    else some { service with
      flows := service.flows.set id (newFlow config pending)
      records := service.records.set id ⟨pending.assertion, pending.checkedAt, [], none⟩ }

/-! Workers. -/

def task (service : GrantService) (worker : ℕ) : Option GrantTask :=
  (service.tasks.find? worker).join

def setTask (service : GrantService) (worker : ℕ) (task : Option GrantTask) : GrantService :=
  { service with tasks := service.tasks.set worker task }

/-- `acquire_flows`, for one flow. -/
def acquire (config : GrantConfig) (service : GrantService) (worker owner : ℕ) (id : FlowId) :
    Option GrantService :=
  match service.flows.find? id with
  | some flow =>
      if flow.status = .awaiting ∧ service.now < flow.expiresAt ∧ (service.task worker).isNone then
        some ({ service with
          flows := service.flows.set id
            { flow with
              status := .verifying, leaseOwner := some owner
              leaseUntil := some (service.now + config.verifyLeaseSeconds)
              version := flow.version + 1 } }.setTask worker
          (some ⟨id, flow.expectedPubky, owner, flow.version + 1, service.now, .polling⟩))
      else none
  | none => none

def updateOwned (service : GrantService) (task : GrantTask) (change : GrantFlow → GrantFlow) :
    GrantService :=
  match service.flows.find? task.flow with
  | some flow =>
      if flow.ownedBy task then
        { service with flows := service.flows.set task.flow (change flow) }
      else service
  | none => service

def terminalizeOwned (service : GrantService) (task : GrantTask) (status : GrantStatus)
    (code : TerminalCode) (approved : Option Pubky) (now : Time) : GrantService :=
  service.updateOwned task fun flow =>
    { (flow.close status code now).release with approvedPubky := approved }

def returnOwnedToAwaiting (service : GrantService) (task : GrantTask) : GrantService :=
  service.updateOwned task fun flow =>
    if flow.approvedPubky.isNone then { flow.release with status := .awaiting } else flow

/-- `heartbeat_lease`, which is fenced by the owner only. -/
def heartbeatLease (config : GrantConfig) (service : GrantService) (task : GrantTask) :
    GrantService :=
  match service.flows.find? task.flow with
  | some flow =>
      if flow.status = .verifying ∧ flow.leaseOwner = some task.owner then
        { service with
          flows := service.flows.set task.flow
            { flow with leaseUntil := some (service.now + config.verifyLeaseSeconds) } }
      else service
  | none => service

/-- `enter_exchanging`; missing when the flow is not the task's any more. -/
def enterExchanging (config : GrantConfig) (service : GrantService) (worker : ℕ)
    (task : GrantTask) (approved : Pubky) (requested : List Capability) : GrantService :=
  match service.flows.find? task.flow with
  | some flow =>
      if flow.ownedBy task ∧ flow.approvedPubky = none then
        { service with
          flows := service.flows.set task.flow
            { flow with
              approvedPubky := some approved
              leaseUntil := some (service.now + config.verifyLeaseSeconds)
              version := flow.version + 1 } }.setTask worker
          (some { task with version := task.version + 1, phase := .exchanging approved requested })
      else service.setTask worker none
  | none => service.setTask worker none

def completeOwned (config : GrantConfig) (service : GrantService) (task : GrantTask)
    (approved : Pubky) (capabilities : List Capability) (session : SessionId)
    (bearer token : Secret) : GrantService :=
  match service.flows.find? task.flow, service.records.find? task.flow with
  | some flow, some record =>
      if flow.ownedBy task then
        let expiresAt := service.now + config.sessionTtlSeconds
        let row : AuthSession := ⟨bearer, approved, capabilities, service.now, expiresAt, none⟩
        { service with
          sessions := service.sessions.set session row
          flows := service.flows.set task.flow
            { flow.release with
              status := .complete, approvedPubky := some approved, terminalAt := some service.now
              resultToken := some token, resultTokenExpiresAt := some (service.now + 60)
              resultPayload := some ⟨bearer, token, expiresAt⟩
              resultAuthSessionId := some session }
          records := service.records.set task.flow
            { record with sessions := (session, row) :: record.sessions } }
      else service
  | _, _ => service

def freshSession (service : GrantService) (session : SessionId) : Bool :=
  (service.sessions.find? session).isNone && service.records.rows.all fun entry =>
    entry.2.sessions.all fun issued => issued.1 != session

def settleVerified (config : GrantConfig) (service : GrantService) (task : GrantTask)
    (approved : Pubky) (requested verified : List Capability) (session : SessionId)
    (bearer token : Secret) : GrantService :=
  if approved ≠ task.expectedPubky then
    service.terminalizeOwned task .mismatch .identityMismatch (some approved) service.now
  else
    match sessionCapabilitiesForGrant config verified requested with
    | some capabilities =>
        service.completeOwned config task approved capabilities session bearer token
    | none => service.terminalizeOwned task .invalid .grantInvalid (some approved) service.now

/-- Why `process_lease` gives a flow up. -/
inductive TaskFailure where
  | storageFailure
  | grantInvalid
  | relayTransport
  | grantExchange
deriving DecidableEq, Repr

def TaskFailure.outcome : TaskFailure → GrantStatus × TerminalCode
  | .storageFailure => (.failed, .storageFailure)
  | .grantInvalid => (.invalid, .grantInvalid)
  | .relayTransport => (.failed, .relayTransport)
  | .grantExchange => (.failed, .grantExchange)

def failTask (service : GrantService) (task : GrantTask) (failure : TaskFailure) : GrantService :=
  match task.phase with
  | .polling =>
      service.terminalizeOwned task failure.outcome.1 failure.outcome.2 none task.startedAt
  | .exchanging approved _ =>
      service.terminalizeOwned task failure.outcome.1 failure.outcome.2 (some approved) service.now

/-! The reaper. -/

/-- The rows of a batch: the first ones by `key`, less those that another
transaction holds locked. -/
def batchOf (config : GrantConfig) (service : GrantService) (due : GrantFlow → Bool)
    (key : GrantFlow → ℕ) (locked : List FlowId) : List FlowId :=
  (((service.flows.rows.filter fun entry =>
      due entry.2 && !locked.contains entry.1).insertionSort fun left right =>
      key left.2 ≤ key right.2).take config.reaperBatchSize).map Prod.fst

def updateFlows (service : GrantService) (ids : List FlowId) (change : GrantFlow → GrantFlow) :
    GrantService :=
  { service with
    flows := service.flows.mapRows fun id flow => if id ∈ ids then change flow else flow }

def expireDue (now : Time) (flow : GrantFlow) : Bool :=
  flow.status == .awaiting && flow.expiresAt ≤ now

def staleDue (now : Time) (exchanging : Bool) (flow : GrantFlow) : Bool :=
  flow.status == .verifying && flow.leaseUntil.any (· ≤ now) &&
    flow.approvedPubky.isSome == exchanging

def sweepDue (now : Time) (flow : GrantFlow) : Bool :=
  flow.status == .complete && flow.resultClaimedAt.isNone &&
    flow.resultTokenExpiresAt.any (· ≤ now) &&
    (flow.resultPayload.isSome || flow.resultAuthSessionId.isSome)

def purgeDue (config : GrantConfig) (now : Time) (flow : GrantFlow) : Bool :=
  flow.terminalAt.any fun ended => ended + config.terminalRetentionSeconds ≤ now

def sweepBatch (config : GrantConfig) (service : GrantService) (now : Time)
    (locked : List FlowId) : List FlowId :=
  service.batchOf config (sweepDue now) (fun flow => flow.resultTokenExpiresAt.getD 0) locked

/-- The sessions of the swept flows are deleted. -/
def sweep (service : GrantService) (ids : List FlowId) : GrantService :=
  let gone := ids.filterMap fun id => (service.flows.find? id).bind (·.resultAuthSessionId)
  { service.updateFlows ids fun flow =>
      { flow with
        resultToken := none, resultPayload := none, resultTokenExpiresAt := none
        resultAuthSessionId := none, terminalCode := some .flowExpired } with
    sessions := service.sessions.keep fun session => !gone.contains session }

/-- Rows past the retention are deleted, with their nonces. -/
def purge (service : GrantService) (ids : List FlowId) : GrantService :=
  { service with
    flows := service.flows.keep fun id => !ids.contains id
    nonces := service.nonces.keep fun nonce =>
      !((service.nonces.find? nonce).any fun row => ids.contains row.flow)
    records := service.records.mapRows fun id record =>
      if id ∈ ids then { record with purgedAs := (service.flows.find? id).map (·.status) }
      else record }

/-- The next statement of a pass. -/
def reap (config : GrantConfig) (service : GrantService) (reaper : ℕ) (pass : ReaperPass)
    (locked : List FlowId) : GrantService :=
  let goOn (service : GrantService) (phase : ReaperPhase) : GrantService :=
    { service with reapers := service.reapers.set reaper (some { pass with phase }) }
  match pass.phase with
  | .expire =>
      goOn (service.updateFlows
        (service.batchOf config (expireDue pass.now) (·.expiresAt) locked)
        (·.close .expired .flowExpired pass.now)) .stale
  | .stale =>
      goOn (service.updateFlows
        (service.batchOf config (staleDue pass.now false) (fun flow => flow.leaseUntil.getD 0)
          locked)
        fun flow => (flow.close .failed .leaseLost pass.now).release) .staleExchanging
  | .staleExchanging =>
      goOn (service.updateFlows
        (service.batchOf config (staleDue pass.now true) (fun flow => flow.leaseUntil.getD 0)
          locked)
        fun flow => (flow.close .failed .grantExchange pass.now).release) .sweep
  | .sweep => goOn (service.sweep (service.sweepBatch config pass.now locked)) .nonces
  | .nonces =>
      goOn { service with
        nonces := service.nonces.keep fun nonce =>
          (service.nonces.find? nonce).any fun row => pass.now < row.expiresAt } .requests
  | .requests =>
      goOn { service with
        requests := service.requests.keep fun request =>
          (service.requests.find? request).any fun usedAt =>
            pass.now < usedAt + config.terminalRetentionSeconds } .purge
  | .purge =>
      { service.purge (service.batchOf config (purgeDue config pass.now)
          (fun flow => flow.terminalAt.getD 0) []) with
        reapers := service.reapers.set reaper none }

/-! Requests of the client. -/

/-- `consume_service_request`. -/
def consumeRequest (service : GrantService) (request : RequestId) : Option GrantService :=
  if (service.requests.find? request).isSome then none
  else some { service with requests := service.requests.set request service.now }

def cancelFlow (service : GrantService) (id : FlowId) (deliveryId : Secret) : GrantService :=
  match service.flows.find? id with
  | some flow =>
      if flow.deliveryId = deliveryId ∧ flow.status = .awaiting then
        { service with
          flows := service.flows.set id (flow.close .cancelled .cancelled service.now) }
      else service
  | none => service

def issueResultNonce (service : GrantService) (id : NonceId) (flow : FlowId)
    (purpose : NoncePurpose) (principal : String) (nonce : Secret) : GrantService :=
  if (service.flows.find? flow).isSome then
    { service with
      nonces := service.nonces.set id
        ⟨flow, purpose, principal, nonce, service.now, service.now + 30, none⟩ }
  else service

def freshNonce (service : GrantService) (id : NonceId) : Bool :=
  (service.nonces.find? id).isNone && service.handoffs.all fun handoff => handoff.nonce != id

/-- What a ticket or claim request presents. -/
structure Presented where
  flow : FlowId
  nonceId : NonceId
  nonce : Secret
  principal : String
  deliveryId : Secret
  token : Secret
  /-- The age and the signature of the proof of possession. -/
  proves : Bool
deriving DecidableEq, Repr

/-- `verify_pop_and_consume`. -/
def consumeNonce (service : GrantService) (presented : Presented) (purpose : NoncePurpose) :
    Option GrantService :=
  match service.nonces.find? presented.nonceId with
  | some row =>
      if presented.proves ∧ row.flow = presented.flow ∧ row.purpose = purpose ∧
          row.principal = presented.principal ∧ service.now < row.expiresAt ∧
          row.usedAt = none ∧ row.nonce = presented.nonce then
        some { service with
          nonces := service.nonces.set presented.nonceId { row with usedAt := some service.now }
          handoffs := ⟨purpose, presented.flow, presented.nonceId⟩ :: service.handoffs }
      else none
  | none => none

def resultOpen (flow : GrantFlow) (presented : Presented) (now : Time) : Bool :=
  flow.status == .complete && flow.resultClaimedAt.isNone &&
    flow.resultTokenExpiresAt.any (now < ·) && flow.deliveryId == presented.deliveryId &&
    flow.resultPayload.isSome

/-- The transaction of `result_ticket`, which answers the result token. -/
def resultTicket (service : GrantService) (presented : Presented) : Option GrantService := do
  let flow ← service.flows.find? presented.flow
  if resultOpen flow presented service.now ∧ flow.resultTokenDeliveredAt = none then
    let consumed ← service.consumeNonce presented .ticket
    some { consumed with
      flows := consumed.flows.set presented.flow
        { flow with resultTokenDeliveredAt := some service.now } }
  else none

/-- The transaction of `claim_result`, which answers the bearer of the session.
A session that the flow still names must be there. -/
def claimResult (service : GrantService) (presented : Presented) : Option GrantService := do
  let flow ← service.flows.find? presented.flow
  if resultOpen flow presented service.now ∧ flow.resultTokenDeliveredAt.isSome ∧
      flow.resultToken = some presented.token ∧
      flow.resultAuthSessionId.all fun session => (service.sessions.find? session).isSome then
    let consumed ← service.consumeNonce presented .claim
    some { consumed with
      flows := consumed.flows.set presented.flow
        { flow with
          resultClaimedAt := some service.now, resultToken := none, resultPayload := none } }
  else none

end GrantService

/-! The system. -/

inductive GrantAction where
  | tick (time : Time)
  | check (creation : ℕ) (assertion : Assertion)
  | insert (creation : ℕ) (id : FlowId)
  | acquire (worker owner : ℕ) (id : FlowId)
  | heartbeat (worker : ℕ)
  | giveBack (worker : ℕ)
  | exchange (worker : ℕ) (approved : Pubky) (requested : List Capability)
  | settle (worker : ℕ) (approved : Pubky) (verified : List Capability) (session : SessionId)
      (bearer token : Secret)
  | fail (worker : ℕ) (failure : GrantService.TaskFailure)
  | stop (worker : ℕ)
  | startReaper (reaper : ℕ)
  | reap (reaper : ℕ) (locked : List FlowId)
  | stopReaper (reaper : ℕ)
  | cancel (request : RequestId) (id : FlowId) (deliveryId : Secret)
  | nonce (request : RequestId) (id : NonceId) (flow : FlowId) (purpose : NoncePurpose)
      (principal : String) (nonce : Secret)
  | ticket (request : RequestId) (presented : GrantService.Presented)
  | claim (request : RequestId) (presented : GrantService.Presented)
  | revoke (session : SessionId)
deriving DecidableEq

namespace GrantService

def step (config : GrantConfig) (service : GrantService) : GrantAction → Option GrantService
  | .tick time => if service.now ≤ time then some { service with now := time } else none
  | .check creation assertion => service.checkAssertion creation assertion
  | .insert creation id => service.insertFlow config creation id
  | .acquire worker owner id => service.acquire config worker owner id
  | .heartbeat worker => do
      let task ← service.task worker
      some (service.heartbeatLease config task)
  | .giveBack worker => do
      let task ← service.task worker
      match task.phase with
      | .polling => some ((service.returnOwnedToAwaiting task).setTask worker none)
      | .exchanging .. => none
  | .exchange worker approved requested => do
      let task ← service.task worker
      match task.phase with
      | .polling => some (service.enterExchanging config worker task approved requested)
      | .exchanging .. => none
  | .settle worker approved verified session bearer token => do
      let task ← service.task worker
      match task.phase with
      | .exchanging _ requested =>
          if service.freshSession session then
            some ((service.settleVerified config task approved requested verified session bearer
              token).setTask worker none)
          else none
      | .polling => none
  | .fail worker failure => do
      let task ← service.task worker
      some ((service.failTask task failure).setTask worker none)
  | .stop worker => some (service.setTask worker none)
  | .startReaper reaper =>
      some { service with reapers := service.reapers.set reaper (some ⟨service.now, .expire⟩) }
  | .reap reaper locked => do
      let pass ← (service.reapers.find? reaper).join
      some (service.reap config reaper pass locked)
  | .stopReaper reaper => some { service with reapers := service.reapers.set reaper none }
  | .cancel request id deliveryId => do
      let admitted ← service.consumeRequest request
      some (admitted.cancelFlow id deliveryId)
  | .nonce request id flow purpose principal nonce => do
      let admitted ← service.consumeRequest request
      if service.freshNonce id then
        some (admitted.issueResultNonce id flow purpose principal nonce)
      else none
  | .ticket request presented => do
      let admitted ← service.consumeRequest request
      some ((admitted.resultTicket presented).getD admitted)
  | .claim request presented => do
      let admitted ← service.consumeRequest request
      some ((admitted.claimResult presented).getD admitted)
  | .revoke session =>
      (service.sessions.find? session).map fun row =>
        { service with
          sessions := service.sessions.set session
            { row with revokedAt := some (row.revokedAt.getD service.now) } }

def empty : GrantService where
  now := 0
  flows := .empty
  sessions := .empty
  nonces := .empty
  requests := .empty
  creations := .empty
  tasks := .empty
  reapers := .empty
  records := .empty
  handoffs := []

end GrantService

def grantHandoff (config : GrantConfig) : Runs.System GrantService GrantAction where
  initial service := service = .empty
  step := GrantService.step config

end MarketplaceService
