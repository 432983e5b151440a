import MarketplaceService.Catalog
import MarketplaceService.Lib.Run

/-!
The executor of commands (`executor.rs`): one accepted result for each actor
and command id. Executions run concurrently, in any number of processes; each
is a sequence of steps, and between two of them the others may take theirs. The
rows of the aggregates, events and outbox are a `Domain`, of which the executor
knows nothing; the handlers are a function, of which it knows nothing either.
A transaction is its pending writes until it commits. The flights of one
process only delay an execution, so they are not modelled.
-/

namespace MarketplaceService

abbrev CommandId := ℕ
abbrev ExecutionId := ℕ

inductive CommandKind where
  | registerListing
  | createCheckout
  | prepareLocks (paymentId : ℕ)
  | other (kind : String)
deriving DecidableEq, Repr

structure Command (Payload : Type) where
  commandId : CommandId
  aggregateId : String
  expectedRevision : ℕ
  kind : CommandKind
  payload : Payload

/-! Results. -/

/-- What a projection reads of an order row: its plain view, and the address
with what decides who may see it. -/
structure OrderRow where
  rawView : String
  sellerPubky : Pubky
  fulfillment : Fulfillment
  state : OrderState
  deliveryAddress : Option String
deriving DecidableEq, Repr

structure OrderView where
  view : String
  deliveryAddress : Option String
deriving DecidableEq, Repr

inductive ProjectionContext where
  | buyerSingleOrder (authenticatedActor : Pubky)
  | sellerSingleOrder (authenticatedActor : Pubky)
  | participantList (authenticatedActor : Pubky)
  | commandResult (authenticatedActor : Pubky)
  | receipt
  | attestation
  | notification
deriving DecidableEq, Repr

def canRevealDeliveryAddress (actor seller : Pubky) (fulfillment : Fulfillment)
    (state : OrderState) : Bool :=
  actor == seller && fulfillment == .shipping && (state == .paid || state == .processing)

/-- Only the seller's view of one order shows the address. -/
def OrderRow.project (row : OrderRow) : ProjectionContext → OrderView
  | .sellerSingleOrder actor =>
      { view := row.rawView
        deliveryAddress :=
          if canRevealDeliveryAddress actor row.sellerPubky row.fulfillment row.state then
            row.deliveryAddress
          else none }
  | _ => { view := row.rawView, deliveryAddress := none }

inductive HandlerValue where
  | checkout (orders : List OrderRow) (payments : String)
  | preparedLocks (clientReference rest : String)
  | other (result : String)
deriving DecidableEq, Repr

structure HandlerSuccess where
  revision : ℕ
  eventIds : List ℕ
  result : HandlerValue
deriving DecidableEq, Repr

/-- The result of a response or of a `command_results` row. -/
inductive ResultBody where
  | checkout (orders : List OrderView) (payments : String)
  | preparedLocks (clientReference rest : String)
  | sealedLocks (clientReferenceSealed rest : String)
  | other (result : String)
deriving DecidableEq, Repr

structure Body where
  commandId : CommandId
  aggregateId : String
  revision : ℕ
  eventIds : List ℕ
  result : ResultBody
deriving DecidableEq, Repr

def HandlerValue.body : HandlerValue → ResultBody
  | .checkout orders payments =>
      .checkout (orders.map fun row => row.project (.commandResult "")) payments
  | .preparedLocks clientReference rest => .preparedLocks clientReference rest
  | .other result => .other result

def successBody {Payload : Type} (command : Command Payload) (success : HandlerSuccess) : Body :=
  { commandId := command.commandId
    aggregateId := command.aggregateId
    revision := success.revision
    eventIds := success.eventIds
    result := success.result.body }

/-- `redact_command_result`: the addresses of rows stored before the redaction
are removed; a result without orders cannot be processed. -/
def redactCommandResult (body : Body) : Option Body :=
  match body.result with
  | .checkout orders payments =>
      some { body with
        result := .checkout (orders.map fun order => { order with deliveryAddress := none })
          payments }
  | _ => none

/-- The keys of the Locks runtime. A seal draws a nonce, and what was sealed to
a payment and a buyer opens to the same reference. -/
structure LocksKeys where
  sealReference : (nonce paymentId : ℕ) → (actor : Pubky) → (clientReference : String) → String
  openReference : (paymentId : ℕ) → (actor : Pubky) → (sealedReference : String) → Option String
  opens : ∀ nonce paymentId actor clientReference,
    openReference paymentId actor (sealReference nonce paymentId actor clientReference) =
      some clientReference

def sealPrepareLocksResult (keys : LocksKeys) (nonce paymentId : ℕ) (actor : Pubky) (body : Body) :
    Option Body :=
  match body.result with
  | .preparedLocks clientReference rest =>
      some { body with
        result := .sealedLocks (keys.sealReference nonce paymentId actor clientReference) rest }
  | _ => none

def unsealPrepareLocksResult (keys : LocksKeys) (paymentId : ℕ) (actor : Pubky) (stored : Body) :
    Option Body :=
  match stored.result with
  | .sealedLocks sealedReference rest =>
      (keys.openReference paymentId actor sealedReference).map fun clientReference =>
        { stored with result := .preparedLocks clientReference rest }
  | _ => none

/-! The deployment. -/

inductive RegisterRecordPrefetch where
  | notNeeded
  | found (record : String)
  | notFound
  | unavailable
  | noHomeserver
deriving DecidableEq, Repr

/-- What a handler ends in: its writes and its result, a refusal, or an error of
the database. -/
inductive Handled (Domain : Type) where
  | success (writes : Domain → Domain) (success : HandlerSuccess)
  | refusal (kind : RefusalKind) (message : String)
  | uniqueViolation
  | databaseError

/-- The digest, the Locks runtime and the handlers. A handler reads the rows as
its statements find them. -/
structure Deployment (Domain Payload : Type) where
  requestHash : Command Payload → String
  locks : Option LocksKeys
  publicRecordRequest : Pubky → Command Payload → Domain → Bool
  dispatch : Pubky → Command Payload → RegisterRecordPrefetch → Domain → Time → Handled Domain

/-- A row of `command_results`. -/
structure StoredResult where
  requestHash : String
  result : Body
deriving DecidableEq, Repr

inductive Response where
  | accepted (body : Body)
  | refused (kind : RefusalKind) (message : String)
  /-- An error of the database, or a connection that was lost. -/
  | failed
deriving DecidableEq, Repr

def resultNotProcessed : Response :=
  .refused .invariantViolation "The stored command result could not be processed."

def idempotencyConflict : Response :=
  .refused .idempotencyConflict "The command id was already used with different input."

section Steps

variable {Domain Payload : Type}

def Deployment.storedBody (deployment : Deployment Domain Payload) (actor : Pubky)
    (command : Command Payload) (nonce : ℕ) (body : Body) : Option Body :=
  match command.kind with
  | .prepareLocks paymentId =>
      deployment.locks.bind fun keys => sealPrepareLocksResult keys nonce paymentId actor body
  | _ => some body

def Deployment.replay (deployment : Deployment Domain Payload) (actor : Pubky)
    (command : Command Payload) (stored : Body) : Response :=
  match command.kind with
  | .createCheckout =>
      match redactCommandResult stored with
      | some body => .accepted body
      | none => resultNotProcessed
  | .prepareLocks paymentId =>
      match deployment.locks.bind fun keys =>
          unsealPrepareLocksResult keys paymentId actor stored with
      | some body => .accepted body
      | none => resultNotProcessed
  | _ => .accepted stored

def Deployment.storedResultResponse (deployment : Deployment Domain Payload) (actor : Pubky)
    (command : Command Payload) (stored : StoredResult) : Response :=
  if stored.requestHash = deployment.requestHash command then
    deployment.replay actor command stored.result
  else idempotencyConflict

/-! Executions. -/

/-- Where an execution stands: before its transaction, waiting for the advisory
lock of its actor and command id, holding it, past the lookup, with its writes
and its result row pending, or answered. -/
inductive Phase (Domain : Type) where
  | arrived
  | prefetching
  | waiting (record : RegisterRecordPrefetch)
  | locked (record : RegisterRecordPrefetch)
  | cleared (record : RegisterRecordPrefetch)
  | handled (writes : Domain → Domain) (body stored : Body)
  | answered (response : Response)

def Phase.holdsLock : Phase Domain → Bool
  | .locked _ | .cleared _ | .handled .. => true
  | _ => false

structure Execution (Domain Payload : Type) where
  actor : Pubky
  command : Command Payload
  phase : Phase Domain

def Execution.key (execution : Execution Domain Payload) : Pubky × CommandId :=
  (execution.actor, execution.command.commandId)

/-- A committed execution, with the body it stored. -/
structure Commit where
  execution : ExecutionId
  key : Pubky × CommandId
  body : Body
deriving DecidableEq, Repr

/-- The database and the executions. `commits` is history. -/
structure Server (Domain Payload : Type) where
  domain : Domain
  results : Keyed.Table (Pubky × CommandId) StoredResult
  executions : Keyed.Table ExecutionId (Execution Domain Payload)
  commits : List Commit

inductive ExecutorAction (Domain Payload : Type) where
  | submit (id : ExecutionId) (actor : Pubky) (command : Command Payload)
  | request (id : ExecutionId)
  | prefetch (id : ExecutionId) (record : RegisterRecordPrefetch)
  | lock (id : ExecutionId)
  | lookup (id : ExecutionId)
  | dispatch (id : ExecutionId) (view : Domain) (now : Time) (nonce : ℕ)
  | commit (id : ExecutionId) (delivered : Bool)
  | fail (id : ExecutionId)
  /-- Any other transaction. -/
  | work (change : Domain → Domain)

def ExecutorAction.execution : ExecutorAction Domain Payload → Option ExecutionId
  | .submit id .. | .request id | .prefetch id _ | .lock id | .lookup id | .dispatch id ..
  | .commit id _ | .fail id => some id
  | .work _ => none

def Server.lockFree (server : Server Domain Payload) (id : ExecutionId)
    (key : Pubky × CommandId) : Bool :=
  server.executions.rows.all fun row =>
    row.1 == id || row.2.key != key || !row.2.phase.holdsLock

/-- The phase an execution enters, when the step writes no row. -/
def Deployment.advance (deployment : Deployment Domain Payload) (server : Server Domain Payload)
    (id : ExecutionId) (execution : Execution Domain Payload) :
    ExecutorAction Domain Payload → Option (Phase Domain)
  | .request _ =>
      match execution.phase with
      | .arrived =>
          some (if deployment.publicRecordRequest execution.actor execution.command server.domain
            then .prefetching else .waiting .notNeeded)
      | _ => none
  | .prefetch _ record =>
      match execution.phase with
      | .prefetching =>
          -- a stored result answers before the homeserver is read
          match server.results.find? execution.key with
          | some stored =>
              some (.answered
                (deployment.storedResultResponse execution.actor execution.command stored))
          | none => some (.waiting record)
      | _ => none
  | .lock _ =>
      match execution.phase with
      | .waiting record =>
          if server.lockFree id execution.key then some (.locked record) else none
      | _ => none
  | .lookup _ =>
      match execution.phase with
      | .locked record =>
          match server.results.find? execution.key with
          | some stored =>
              some (.answered
                (deployment.storedResultResponse execution.actor execution.command stored))
          | none => some (.cleared record)
      | _ => none
  | .dispatch _ view now nonce =>
      match execution.phase with
      | .cleared record =>
          match deployment.dispatch execution.actor execution.command record view now with
          | .success writes success =>
              let body := successBody execution.command success
              match deployment.storedBody execution.actor execution.command nonce body with
              | some stored => some (.handled writes body stored)
              | none =>
                  some (.answered
                    (.refused .invariantViolation "The command result could not be protected."))
          | .refusal kind message => some (.answered (.refused kind message))
          | .uniqueViolation =>
              some (.answered
                (.refused .invariantViolation "A uniqueness constraint rejected the command."))
          | .databaseError => some (.answered .failed)
      | _ => none
  | .fail _ =>
      match execution.phase with
      | .answered _ => none
      | _ => some (.answered .failed)
  | _ => none

def Server.enter (server : Server Domain Payload) (id : ExecutionId)
    (execution : Execution Domain Payload) (phase : Phase Domain) : Server Domain Payload :=
  { server with executions := server.executions.set id { execution with phase := phase } }

/-- The writes and the result row become visible together, unless the primary
key has the row already; the answer may be lost. -/
def Deployment.commit (deployment : Deployment Domain Payload) (server : Server Domain Payload)
    (id : ExecutionId) (execution : Execution Domain Payload) (delivered : Bool) :
    Option (Server Domain Payload) :=
  match execution.phase with
  | .handled writes body stored =>
      if (server.results.find? execution.key).isSome then
        some (server.enter id execution (.answered .failed))
      else
        some {
          domain := writes server.domain
          results := server.results.set execution.key
            { requestHash := deployment.requestHash execution.command, result := stored }
          executions := server.executions.set id { execution with
            phase := .answered (if delivered then .accepted body else .failed) }
          commits :=
            { execution := id, key := execution.key, body := body } :: server.commits }
  | _ => none

def Deployment.step (deployment : Deployment Domain Payload) (server : Server Domain Payload)
    (action : ExecutorAction Domain Payload) : Option (Server Domain Payload) :=
  match action with
  | .submit id actor command =>
      if (server.executions.find? id).isSome then none
      else
        some { server with
          executions := server.executions.set id
            { actor := actor, command := command, phase := .arrived } }
  | .commit id delivered =>
      (server.executions.find? id).bind fun execution =>
        deployment.commit server id execution delivered
  | .work change => some { server with domain := change server.domain }
  | .request id | .prefetch id _ | .lock id | .lookup id | .dispatch id .. | .fail id =>
      (server.executions.find? id).bind fun execution =>
        (deployment.advance server id execution action).map (server.enter id execution)

/-- The executor over a database that holds these rows and no result. -/
def executor (deployment : Deployment Domain Payload) (start : Domain) :
    Runs.System (Server Domain Payload) (ExecutorAction Domain Payload) :=
  { initial := fun server =>
      server = { domain := start, results := .empty, executions := .empty, commits := [] }
    step := deployment.step }

end Steps

end MarketplaceService
