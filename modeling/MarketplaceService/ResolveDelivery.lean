import Mathlib.Data.List.Sort
import MarketplaceService.Lib.DigitText
import MarketplaceService.Lib.Run
import MarketplaceService.Lib.Text
import MarketplaceService.Schema

/-!
The delivery of `paykit.resolve` rows (`resolve_delivery.rs`, migration
`0023_shared_manual_resolution.sql`).

Every statement of this arm is its own transaction. A worker leases the due
rows and then, for one row after the other, compares the row's stack with what
its endpoint reports, sends the resolution and records the outcome; other
workers and the operator act between any two of these. The identity cache
belongs to a process, and every worker runs in one.

The answers of the endpoint are inputs. `chrono`'s reading of an HTTP date is
the parameter `httpDate`, and an instant past the last one that `chrono` knows
panics, which ends the pass.
-/

namespace MarketplaceService

/-! Rows. -/

inductive ResolveDeliveryState where
  | queued
  | delivered
  | terminalUnresolved
deriving DecidableEq, Repr

inductive ResolveOutcome where
  | paidManually
  | refunded
  | abandoned
deriving DecidableEq, Repr

def ResolveOutcome.wire : ResolveOutcome → String
  | .paidManually => "paid_manually"
  | .refunded => "refunded"
  | .abandoned => "abandoned"

inductive TerminalReason where
  | deliveryDeadlineExceeded
  | stackPinMismatch
  | unmappedResolveError
  | unknownInvoice
  | invoiceNotActivated
  | invoiceAlreadyResolved
  | invoiceFinalized
  | voidBaselineFailed
  | voidPrepareExpired
  | voidCancelled
  | stackIdentityMismatch
  | operatorTerminated
deriving DecidableEq, Repr

structure Acknowledgement where
  acknowledgedAt : Time
  acknowledgedBy : String
  note : String
deriving DecidableEq, Repr

structure ResolveColumns where
  orderId : OrderId
  invoiceId : InvoiceId
  resolution : ResolveOutcome
  resolvedAt : Time
  stackId : String
  stackEndpoint : String
  deliveryState : ResolveDeliveryState
  terminalReason : Option TerminalReason
  terminalDetail : Option String
  attemptCount : ℕ
  lastAttemptAt : Option Time
  nextAttemptAt : Time
  leaseUntil : Option Time
  authAlerted : Bool
  deliveryDeadline : Time
  acknowledgement : Option Acknowledgement
  deliveredAt : Option Time
  createdAt : Time
  updatedAt : Time
deriving DecidableEq, Repr

def ResolveColumns.checks (columns : ResolveColumns) : Bool :=
  (columns.deliveryState == .delivered) == columns.deliveredAt.isSome &&
    (columns.deliveryState == .terminalUnresolved) == columns.terminalReason.isSome &&
    columns.attemptCount ≤ 2147483647

/-- A row of `paykit_resolve_outbox`. -/
abbrev ResolveRow := { columns : ResolveColumns // columns.checks = true }

abbrev ResolveRowId := ℕ
abbrev ResolveTable := Keyed.Table ResolveRowId ResolveRow

/-- An UPDATE of one row. It fails on a row that the CHECKs refuse, and changes
nothing when there is no such row. -/
def updateResolveRow (rows : ResolveTable) (id : ResolveRowId)
    (change : ResolveColumns → ResolveColumns) : Option ResolveTable :=
  match rows.find? id with
  | none => some rows
  | some row =>
      if valid : (change row.1).checks = true then some (rows.set id ⟨change row.1, valid⟩)
      else none

/-! Schedules. -/

def resolveClaimBatch : ℕ := 50
def backoffBaseSeconds : ℕ := 30
def backoffCapSeconds : ℕ := 900
def pinCacheTtlSeconds : ℕ := 15
def resolveDeliveryDeadlineSeconds : ℕ := 3600

def resolveBackoffSeconds (attemptCount : ℕ) : ℕ :=
  min (backoffBaseSeconds * 2 ^ min attemptCount 5) backoffCapSeconds

/-- The last second of `DateTime<Utc>`. -/
def lastInstant : ℤ := 8210266876799

def headerDigits (digits : List Char) : Option ℕ :=
  if digits ≠ [] ∧ digits.all Char.isDigit then
    some (DigitText.readDigits digits)
  else none

/-- `str::parse::<i64>`. -/
def parseI64 (text : List Char) : Option ℤ :=
  let value : Option ℤ := match text with
    | '-' :: digits => (headerDigits digits).map fun read => -(read : ℤ)
    | '+' :: digits => (headerDigits digits).map fun read => (read : ℤ)
    | digits => (headerDigits digits).map fun read => (read : ℤ)
  value.filter fun read => -(2 ^ 63) ≤ read ∧ read < 2 ^ 63

structure ResolveConfig where
  leaseSeconds : ℕ
  httpDate : String → Option ℤ

/-- `retry_after_due_at`: the inner value is the due instant of a header that
parses; the outer one is missing when the addition panics. -/
def retryAfterDueAt (config : ResolveConfig) (header : String) (now : Time) :
    Option (Option ℤ) :=
  let trimmed := Text.trim header
  match parseI64 trimmed.toList with
  | some seconds =>
      if (now : ℤ) + max seconds 0 ≤ lastInstant then some (some (now + max seconds 0)) else none
  | none => some (config.httpDate trimmed)

/-! The writes of an attempt. -/

inductive ResolveStatement where
  | stampDelivered (id : ResolveRowId) (now : Time)
  | stampTerminal (id : ResolveRowId) (reason : TerminalReason) (detail : Option String)
      (now : Time)
  | scheduleRetry (id : ResolveRowId) (now next : Time)
  | alertAuth (id : ResolveRowId)
deriving DecidableEq, Repr

def ResolveStatement.target : ResolveStatement → ResolveRowId
  | .stampDelivered id _ | .stampTerminal id .. | .scheduleRetry id .. | .alertAuth id => id

def ResolveStatement.change : ResolveStatement → ResolveColumns → ResolveColumns
  | .stampDelivered _ now, row =>
      { row with
        deliveryState := .delivered, deliveredAt := some now, leaseUntil := none
        attemptCount := row.attemptCount + 1, lastAttemptAt := some now, updatedAt := now }
  | .stampTerminal _ reason detail now, row =>
      { row with
        deliveryState := .terminalUnresolved, terminalReason := some reason
        terminalDetail := detail, leaseUntil := none, attemptCount := row.attemptCount + 1
        lastAttemptAt := some now, updatedAt := now }
  | .scheduleRetry _ now next, row =>
      { row with
        attemptCount := row.attemptCount + 1, lastAttemptAt := some now, nextAttemptAt := next
        leaseUntil := none, updatedAt := now }
  | .alertAuth _, row => { row with authAlerted := true }

structure ClaimedResolveRow where
  id : ResolveRowId
  orderId : OrderId
  invoiceId : InvoiceId
  resolution : ResolveOutcome
  resolvedAt : Time
  stackId : String
  stackEndpoint : String
  attemptCount : ℕ
  deliveryDeadline : Time
  authAlerted : Bool
deriving DecidableEq, Repr

def ResolveColumns.claimed (row : ResolveColumns) (id : ResolveRowId) : ClaimedResolveRow where
  id := id
  orderId := row.orderId
  invoiceId := row.invoiceId
  resolution := row.resolution
  resolvedAt := row.resolvedAt
  stackId := row.stackId
  stackEndpoint := row.stackEndpoint
  attemptCount := row.attemptCount
  deliveryDeadline := row.deliveryDeadline
  authAlerted := row.authAlerted

/-- The outcome of a resolve call. `resolved` is the resolution that the body of
a success names. -/
structure PaykitResolveResponse where
  status : ℕ
  code : Option String
  retryAfter : Option String
  resolved : Option String
deriving DecidableEq, Repr

def PaykitResolveResponse.isSuccess (response : PaykitResolveResponse) : Bool :=
  200 ≤ response.status && response.status < 300

def PaykitResolveResponse.isServerError (response : PaykitResolveResponse) : Bool :=
  500 ≤ response.status && response.status < 600

def stampTerminal (row : ClaimedResolveRow) (reason : TerminalReason) (detail : Option String)
    (now : Time) : List ResolveStatement :=
  [.stampTerminal row.id reason detail now]

/-- The floor that a `Retry-After` sets; missing when its addition panics. -/
def retryFloor (config : ResolveConfig) (retryAfter : Option String) (now : Time) :
    Option (Option ℤ) :=
  match retryAfter with
  | some header => retryAfterDueAt config header now
  | none => some none

/-- The backoff, or a floor past it. -/
def laterDue (backoffDueAt : Time) : Option ℤ → Time
  | some due => if (backoffDueAt : ℤ) < due then due.toNat else backoffDueAt
  | none => backoffDueAt

/-- `schedule_retry`; missing when it panics. -/
def scheduleRetry (config : ResolveConfig) (row : ClaimedResolveRow) (retryAfter : Option String)
    (now : Time) : Option (List ResolveStatement) :=
  let backoffDueAt := now + resolveBackoffSeconds row.attemptCount
  if (backoffDueAt : ℤ) ≤ lastInstant then
    (retryFloor config retryAfter now).map fun floor =>
      let next := laterDue backoffDueAt floor
      if row.deliveryDeadline ≤ next then
        stampTerminal row .deliveryDeadlineExceeded none row.deliveryDeadline
      else [.scheduleRetry row.id now next]
  else none

def namedRefusal (status : ℕ) (code : String) : Option (Option TerminalReason) :=
  match status, code with
  | 404, "unknown_invoice" => some (some .unknownInvoice)
  | 409, "invoice_not_activated" => some (some .invoiceNotActivated)
  | 409, "invoice_already_resolved" => some (some .invoiceAlreadyResolved)
  | 409, "invoice_finalized" => some (some .invoiceFinalized)
  | 409, "void_baseline_failed" => some (some .voidBaselineFailed)
  | 409, "void_prepare_expired" => some (some .voidPrepareExpired)
  | 409, "void_cancelled" => some (some .voidCancelled)
  | 409, "stack_identity_mismatch" => some (some .stackIdentityMismatch)
  | 409, "invoice_baseline_in_progress" => some none
  | _, _ => none

def classifyResponse (config : ResolveConfig) (row : ClaimedResolveRow)
    (response : PaykitResolveResponse) (now : Time) : Option (List ResolveStatement) :=
  let code := response.code.getD ""
  if response.isSuccess then
    match response.resolved with
    | some resolved =>
        if resolved = row.resolution.wire then some [.stampDelivered row.id now]
        else some (stampTerminal row .unmappedResolveError
          (some ("status=" ++ toString response.status ++ " resolution_mismatch:" ++ resolved)) now)
    | none => scheduleRetry config row none now
  else if response.status ∈ [408, 425, 429] ∨ response.isServerError then
    scheduleRetry config row (if response.status ∈ [429, 503] then response.retryAfter else none)
      now
  else if response.status ∈ [401, 403] then
    (scheduleRetry config row none now).map fun retry =>
      if row.authAlerted then retry else .alertAuth row.id :: retry
  else match namedRefusal response.status code with
    | some (some reason) => some (stampTerminal row reason none now)
    | some none => scheduleRetry config row none now
    | none => some (stampTerminal row .unmappedResolveError
        (some ("status=" ++ toString response.status ++ " code=" ++ code)) now)

/-! Workers. -/

abbrev ProcessId := ℕ
abbrev ResolveWorkerId := ℕ

/-- The identity that an endpoint reported, and when. -/
abbrev ResolvePinCache := Keyed.Table String (Option String × Time)

def ResolvePinCache.get (cache : ResolvePinCache) (endpoint : String) (now : Time) :
    Option (Option String) :=
  match cache.find? endpoint with
  | some (stackId, fetchedAt) =>
      if fetchedAt + pinCacheTtlSeconds < now then none else some stackId
  | none => none

/-- Where `deliver_one_resolve_row` stands. -/
inductive ResolveAttempt where
  | between
  | asking (row : ClaimedResolveRow)
  | sending (row : ClaimedResolveRow)
  | writing (statements : List ResolveStatement)
deriving DecidableEq, Repr

structure ResolvePass where
  process : ProcessId
  now : Time
  claimed : List ClaimedResolveRow
  attempt : ResolveAttempt
deriving DecidableEq, Repr

structure ResolveOutbox where
  rows : ResolveTable
  caches : Keyed.Table ProcessId ResolvePinCache
  passes : Keyed.Table ResolveWorkerId (Option ResolvePass)

def ResolveOutbox.cache (outbox : ResolveOutbox) (process : ProcessId) : ResolvePinCache :=
  (outbox.caches.find? process).getD .empty

def ResolveOutbox.pass (outbox : ResolveOutbox) (worker : ResolveWorkerId) : Option ResolvePass :=
  (outbox.passes.find? worker).join

def ResolveOutbox.setPass (outbox : ResolveOutbox) (worker : ResolveWorkerId)
    (pass : Option ResolvePass) : ResolveOutbox :=
  { outbox with passes := outbox.passes.set worker pass }

def ResolveColumns.due (row : ResolveColumns) (now : Time) : Bool :=
  row.deliveryState == .queued && row.nextAttemptAt ≤ now && row.leaseUntil.all (· ≤ now)

/-- The due rows in the order of their ids, less those that another statement
holds locked. -/
def dueResolveRows (rows : ResolveTable) (now : Time) (locked : List ResolveRowId) :
    List (ResolveRowId × ResolveRow) :=
  ((rows.rows.filter fun entry => entry.2.1.due now && !locked.contains entry.1).insertionSort
    fun left right => left.1 ≤ right.1).take resolveClaimBatch

def leaseResolveRows (rows : ResolveTable) (leaseUntil : Time) (ids : List ResolveRowId) :
    ResolveTable :=
  rows.mapRows fun id row =>
    if id ∈ ids then ⟨{ row.1 with leaseUntil := some leaseUntil }, row.2⟩ else row

/-- `claim_due_resolve_rows`. -/
def ResolveOutbox.claim (config : ResolveConfig) (outbox : ResolveOutbox)
    (worker : ResolveWorkerId) (process : ProcessId) (now : Time) (locked : List ResolveRowId) :
    ResolveOutbox :=
  let due := dueResolveRows outbox.rows now locked
  let leased := leaseResolveRows outbox.rows (now + config.leaseSeconds) (due.map Prod.fst)
  let claimed := due.map fun entry : ResolveRowId × ResolveRow => entry.2.1.claimed entry.1
  { outbox with rows := leased }.setPass worker
    (some { process, now, claimed, attempt := .between })

/-- What follows when the endpoint's identity is known. -/
def ResolvePass.compare (pass : ResolvePass) (row : ClaimedResolveRow)
    (reported : Option String) : ResolvePass :=
  if reported = some row.stackId then { pass with attempt := .sending row }
  else { pass with attempt := .writing (stampTerminal row .stackPinMismatch none pass.now) }

def ResolvePass.retry (config : ResolveConfig) (pass : ResolvePass) (row : ClaimedResolveRow) :
    Option ResolvePass :=
  (scheduleRetry config row none pass.now).map fun statements =>
    { pass with attempt := .writing statements }

def ResolvePass.begin (pass : ResolvePass) (cache : ResolvePinCache) : Option ResolvePass :=
  match pass.attempt, pass.claimed with
  | .between, row :: rest =>
      let pass := { pass with claimed := rest }
      if row.deliveryDeadline ≤ pass.now then
        some { pass with
          attempt := .writing
            (stampTerminal row .deliveryDeadlineExceeded none row.deliveryDeadline) }
      else
        match cache.get row.stackEndpoint pass.now with
        | some reported => some (pass.compare row reported)
        | none => some { pass with attempt := .asking row }
  | _, _ => none

/-! The operator. -/

def terminateResolveDelivery (rows : ResolveTable) (id : ResolveRowId)
    (operator reasonText : String) (now : Time) : Option ResolveTable :=
  updateResolveRow rows id fun row =>
    if row.deliveryState = .queued then
      { row with
        deliveryState := .terminalUnresolved, terminalReason := some .operatorTerminated
        leaseUntil := none, acknowledgement := some ⟨now, operator, reasonText⟩, updatedAt := now }
    else row

def acknowledgeResolveRow (rows : ResolveTable) (id : ResolveRowId) (operator note : String)
    (now : Time) : Option ResolveTable :=
  updateResolveRow rows id fun row =>
    if row.deliveryState = .terminalUnresolved ∧ row.acknowledgement = none then
      { row with acknowledgement := some ⟨now, operator, note⟩, updatedAt := now }
    else row

/-! The system. -/

/-- The row that `enqueue_resolve_row` inserts. -/
def queuedResolveRow (orderId : OrderId) (invoiceId : InvoiceId) (resolution : ResolveOutcome)
    (stackId stackEndpoint : String) (now : Time) : ResolveRow where
  val :=
    { orderId, invoiceId, resolution, resolvedAt := now, stackId, stackEndpoint
      deliveryState := .queued, terminalReason := none, terminalDetail := none, attemptCount := 0
      lastAttemptAt := none, nextAttemptAt := now, leaseUntil := none, authAlerted := false
      deliveryDeadline := now + resolveDeliveryDeadlineSeconds, acknowledgement := none
      deliveredAt := none, createdAt := now, updatedAt := now }
  property := rfl

inductive ResolveAction where
  | enqueue (id : ResolveRowId) (orderId : OrderId) (invoiceId : InvoiceId)
      (resolution : ResolveOutcome) (stackId stackEndpoint : String) (now : Time)
  | claim (worker : ResolveWorkerId) (process : ProcessId) (now : Time)
      (locked : List ResolveRowId)
  | begin (worker : ResolveWorkerId)
  | identity (worker : ResolveWorkerId) (reported : Option (Option String))
  | response (worker : ResolveWorkerId) (answer : Option PaykitResolveResponse)
  | write (worker : ResolveWorkerId) (up : Bool)
  | stop (worker : ResolveWorkerId)
  | terminate (id : ResolveRowId) (operator reasonText : String) (now : Time)
  | acknowledge (id : ResolveRowId) (operator note : String) (now : Time)
deriving DecidableEq, Repr

/-- The answer to the readiness request; a failed request is not cached. -/
def ResolveOutbox.receiveIdentity (config : ResolveConfig) (outbox : ResolveOutbox)
    (worker : ResolveWorkerId) (pass : ResolvePass) (row : ClaimedResolveRow) :
    Option (Option String) → ResolveOutbox
  | some reported =>
      { outbox with
        caches := outbox.caches.set pass.process
          ((outbox.cache pass.process).set row.stackEndpoint (reported, pass.now)) }.setPass
        worker (some (pass.compare row reported))
  | none => outbox.setPass worker (pass.retry config row)

def ResolveOutbox.receiveResponse (config : ResolveConfig) (outbox : ResolveOutbox)
    (worker : ResolveWorkerId) (pass : ResolvePass) (row : ClaimedResolveRow) :
    Option PaykitResolveResponse → ResolveOutbox
  | some response =>
      outbox.setPass worker ((classifyResponse config row response pass.now).map
        fun statements => { pass with attempt := .writing statements })
  | none => outbox.setPass worker (pass.retry config row)

/-- The next statement of an attempt. A statement that fails ends the attempt,
and the pass goes on with its batch. -/
def ResolveOutbox.write (outbox : ResolveOutbox) (worker : ResolveWorkerId) (pass : ResolvePass)
    (up : Bool) : List ResolveStatement → ResolveOutbox
  | [] => outbox.setPass worker (some { pass with attempt := .between })
  | statement :: rest =>
      match updateResolveRow outbox.rows statement.target statement.change, up with
      | some rows, true =>
          { outbox with rows }.setPass worker (some { pass with attempt := .writing rest })
      | _, _ => outbox.setPass worker (some { pass with attempt := .between })

def ResolveOutbox.step (config : ResolveConfig) (outbox : ResolveOutbox) :
    ResolveAction → Option ResolveOutbox
  | .enqueue id orderId invoiceId resolution stackId stackEndpoint now =>
      if (outbox.rows.find? id).isNone ∧ outbox.rows.countWhere (·.1.orderId == orderId) = 0 then
        some { outbox with
          rows := outbox.rows.set id
            (queuedResolveRow orderId invoiceId resolution stackId stackEndpoint now) }
      else none
  | .claim worker process now locked =>
      if (outbox.pass worker).isNone then some (outbox.claim config worker process now locked)
      else none
  | .begin worker => do
      let pass ← outbox.pass worker
      let next ← pass.begin (outbox.cache pass.process)
      some (outbox.setPass worker (some next))
  | .identity worker reported => do
      let pass ← outbox.pass worker
      match pass.attempt with
      | .asking row => some (outbox.receiveIdentity config worker pass row reported)
      | _ => none
  | .response worker answer => do
      let pass ← outbox.pass worker
      match pass.attempt with
      | .sending row => some (outbox.receiveResponse config worker pass row answer)
      | _ => none
  | .write worker up => do
      let pass ← outbox.pass worker
      match pass.attempt with
      | .writing statements => some (outbox.write worker pass up statements)
      | _ => none
  | .stop worker => some (outbox.setPass worker none)
  | .terminate id operator reasonText now =>
      (terminateResolveDelivery outbox.rows id operator reasonText now).map
        fun rows => { outbox with rows }
  | .acknowledge id operator note now =>
      (acknowledgeResolveRow outbox.rows id operator note now).map fun rows => { outbox with rows }

/-- It starts with no rows and no passes. -/
def resolveDelivery (config : ResolveConfig) : Runs.System ResolveOutbox ResolveAction where
  initial outbox := outbox.rows = .empty ∧ outbox.caches = .empty ∧ outbox.passes = .empty
  step := ResolveOutbox.step config

end MarketplaceService
