import Mathlib.Data.List.Sort
import MarketplaceService.Lib.Run
import MarketplaceService.Schema

/-!
The event log as sellers follow it (`automation.rs`, `insert_event`, migrations
`0001_init.sql` and `0035_automation_apis.sql`): webhook endpoints with their
cursors, webhook deliveries, and the pages of `list_seller_events`.

An event draws its sequence when its transaction inserts it and can be read
once the transaction has committed. Every statement of a pass reads what is
committed at that moment; what a transaction of the pass writes appears at its
commit. The lock on an endpoint is held from the start of such a transaction
to its end, the lock on a seller while room is counted and used. Ids are
fresh. Signing keys and bodies are not modelled: no modelled function reads
them. The aggregate of an event is committed with the event or before it and
keeps its seller, so an event carries the seller that the joins of
`SELLER_EVENT_FROM` find. The answers of the endpoints are inputs.
-/

namespace MarketplaceService

abbrev EventId := ℕ
abbrev EndpointId := ℕ
abbrev TransactionId := ℕ
abbrev WebhookWorkerId := ℕ
abbrev DeliveryKey := EndpointId × EventId

instance : LawfulBEq DeliveryKey := inferInstanceAs (LawfulBEq (EndpointId × EventId))

/-! Rows. -/

structure DomainEvent where
  id : EventId
  sequence : ℕ
  aggregateId : String
  revision : ℕ
  kind : String
  occurredAt : Time
  sellerPubky : Option Pubky
deriving DecidableEq, Repr

structure WebhookEndpoint where
  sellerPubky : Pubky
  endpointUrl : String
  enqueueSequence : ℕ
  /-- Missing for the default, `-infinity`. -/
  enqueueCheckedAt : Option Time
  createdAt : Time
  deletedAt : Option Time
  /-- The events that had committed when the endpoint was registered; a record
  of the run, not a column. -/
  committedBefore : List EventId
deriving DecidableEq, Repr

def WebhookEndpoint.isActive (endpoint : WebhookEndpoint) : Bool := endpoint.deletedAt.isNone

structure WebhookDelivery where
  attemptCount : ℕ
  nextAttemptAt : Time
  leaseUntil : Option Time
  deliveredAt : Option Time
  deadLetteredAt : Option Time
  lastStatus : Option ℕ
  createdAt : Time
  /-- How many outcomes were written to the row; a record of the run, not a
  column. -/
  recorded : ℕ
  exclusive : deliveredAt = none ∨ deadLetteredAt = none
deriving DecidableEq, Repr

def WebhookDelivery.isOpen (row : WebhookDelivery) : Bool :=
  row.deliveredAt.isNone && row.deadLetteredAt.isNone

def WebhookDelivery.bury (row : WebhookDelivery) (now : Time) : WebhookDelivery :=
  if isOpen : row.isOpen = true then
    { row with
      deadLetteredAt := some now, leaseUntil := none
      exclusive := .inl (by simpa using (Bool.and_eq_true_iff.mp isOpen).1) }
  else row

def WebhookDelivery.endedAt (row : WebhookDelivery) : Option Time :=
  row.deliveredAt.or row.deadLetteredAt

structure DeadLetter where
  attemptCount : ℕ
  finalStatus : Option ℕ
  deadLetteredAt : Time
deriving DecidableEq, Repr

structure WebhookConfig where
  leaseSeconds : ℕ
  maxAttempts : ℕ
  maxAgeHours : ℕ
  enqueueBatchSize : ℕ
  enqueueEndpointsPerPass : ℕ
  maxPendingPerSeller : ℕ
  maxEndpointsPerSeller : ℕ
  terminalRetentionDays : ℕ
  purgeBatchSize : ℕ
  retryBaseSeconds : ℕ
  retryMaxSeconds : ℕ
  eventRetentionDays : ℕ
  positiveBatch : 0 < enqueueBatchSize

def deliveryBatchSize : ℕ := 50
def maxPageSize : ℕ := 200
def daySeconds : ℕ := 86400

/-! Readers of the event log. -/

/-- The event is older than the retention cutoff. -/
def WebhookConfig.expired (config : WebhookConfig) (now : Time) (event : DomainEvent) : Bool :=
  event.occurredAt + config.eventRetentionDays * daySeconds < now

/-- The rows of the feed query, in the order of their sequences. -/
def WebhookConfig.sellerEvents (config : WebhookConfig) (events : List DomainEvent)
    (seller : Pubky) (cursor : ℕ) (now : Time) : List DomainEvent :=
  (events.filter fun event =>
      event.sellerPubky == some seller && cursor < event.sequence &&
        !config.expired now event).insertionSort
    fun left right => left.sequence ≤ right.sequence

/-- `MAX(sequence)`; 0 for an empty log. -/
def maxSequence (events : List DomainEvent) : ℕ :=
  events.foldr (fun event highest => max event.sequence highest) 0

inductive PageRefusal where
  | cursorExpired
  | invalidCursor
  | invalidLimit
deriving DecidableEq, Repr

/-- `list_seller_events` for the seller. -/
def WebhookConfig.listSellerEvents (config : WebhookConfig) (events : List DomainEvent)
    (seller : Pubky) (cursor limit : ℕ) (now : Time) : Except PageRefusal (List DomainEvent) :=
  if limit < 1 ∨ maxPageSize < limit then .error .invalidLimit
  else
    let own := events.find? fun event =>
      event.sellerPubky == some seller && event.sequence == cursor
    let minimum := (config.sellerEvents events seller 0 now).head?.map (·.sequence)
    if 0 < cursor ∧ (own.any (config.expired now) ∨
        own.isNone ∧ minimum.any fun least => cursor < least - 1) then .error .cursorExpired
    else if 0 < cursor ∧ own.isNone then .error .invalidCursor
    else .ok ((config.sellerEvents events seller cursor now).take limit)

/-! Passes. -/

structure ClaimedDelivery where
  key : DeliveryKey
  attemptCount : ℕ
  createdAt : Time
deriving DecidableEq, Repr

/-- Where `run_webhook_pass` stands. -/
inductive WebhookPhase where
  | purgeLetters
  | purgeDeliveries
  | list
  | endpoints (rest : List EndpointId)
  | room (endpoint : EndpointId) (cursor limit : ℕ) (rest : List EndpointId)
  | batch (endpoint : EndpointId) (cursor limit : ℕ) (rows : List DomainEvent)
      (rest : List EndpointId)
  | chosen (endpoint : EndpointId) (rows : List DomainEvent) (next : ℕ)
      (rest : List EndpointId)
  | claiming
  | deliveries (rest : List ClaimedDelivery)
  | sending (delivery : ClaimedDelivery) (rest : List ClaimedDelivery)
deriving DecidableEq, Repr

def WebhookPhase.locks : WebhookPhase → Option EndpointId
  | .room endpoint .. | .batch endpoint .. | .chosen endpoint .. => some endpoint
  | .sending delivery _ => some delivery.key.1
  | _ => none

/-- The endpoint whose seller's lock the pass holds. -/
def WebhookPhase.enqueues : WebhookPhase → Option EndpointId
  | .room endpoint .. | .batch endpoint .. | .chosen endpoint .. => some endpoint
  | _ => none

structure WebhookPass where
  now : Time
  phase : WebhookPhase
deriving DecidableEq, Repr

/-- The last three fields are records of the run: the deliveries that were ever
inserted, those that were ever delivered or dead-lettered, and the cursors that
pages have handed out. -/
structure WebhookService where
  now : Time
  nextSequence : ℕ
  transactions : Keyed.Table TransactionId (List DomainEvent)
  events : List DomainEvent
  endpoints : Keyed.Table EndpointId WebhookEndpoint
  deliveries : Keyed.Table DeliveryKey WebhookDelivery
  deadLetters : Keyed.Table DeliveryKey DeadLetter
  passes : Keyed.Table WebhookWorkerId (Option WebhookPass)
  enqueued : List DeliveryKey
  sent : List DeliveryKey
  buried : List DeliveryKey
  shown : List (Pubky × ℕ)

namespace WebhookService

def pass (service : WebhookService) (worker : WebhookWorkerId) : Option WebhookPass :=
  (service.passes.find? worker).join

def setPhase (service : WebhookService) (worker : WebhookWorkerId) (pass : WebhookPass)
    (phase : WebhookPhase) : WebhookService :=
  { service with passes := service.passes.set worker (some { pass with phase }) }

def lockFree (service : WebhookService) (endpoint : EndpointId) : Bool :=
  service.passes.rows.all fun entry =>
    entry.2.all fun pass => pass.phase.locks != some endpoint

def sellerOf (service : WebhookService) (endpoint : EndpointId) : Option Pubky :=
  (service.endpoints.find? endpoint).map (·.sellerPubky)

def sellerFree (service : WebhookService) (seller : Pubky) : Bool :=
  service.passes.rows.all fun entry =>
    entry.2.all fun pass => (pass.phase.enqueues.bind service.sellerOf) != some seller

/-! Events. -/

def openEvents (service : WebhookService) : List DomainEvent :=
  service.transactions.rows.flatMap Prod.snd

/-- `insert_event` in a transaction. Another event, committed or not, with the
same id or the same revision of the aggregate holds it up or refuses it. -/
def insertEvent (service : WebhookService) (transaction : TransactionId) (event : DomainEvent) :
    Option WebhookService :=
  if ∀ other ∈ service.events ++ service.openEvents, other.id ≠ event.id ∧
      (other.aggregateId, other.revision) ≠ (event.aggregateId, event.revision) then
    let written := (service.transactions.find? transaction).getD []
    some { service with
      nextSequence := service.nextSequence + 1
      transactions := service.transactions.set transaction
        (written ++ [{ event with sequence := service.nextSequence }]) }
  else none

def endTransaction (service : WebhookService) (transaction : TransactionId) (commits : Bool) :
    Option WebhookService :=
  (service.transactions.find? transaction).map fun written =>
    { service with
      transactions := service.transactions.keep fun other => other != transaction
      events := if commits then service.events ++ written else service.events }

/-! Endpoints. -/

/-- `add_webhook`, with a URL that has been validated. -/
def addWebhook (config : WebhookConfig) (service : WebhookService) (id : EndpointId)
    (seller : Pubky) (url : String) : Option WebhookService :=
  if (service.endpoints.find? id).isNone ∧ service.sellerFree seller ∧
      service.endpoints.countWhere (fun endpoint =>
        endpoint.sellerPubky == seller && endpoint.isActive) < config.maxEndpointsPerSeller ∧
      service.endpoints.countWhere (fun endpoint => endpoint.sellerPubky == seller &&
        endpoint.isActive && endpoint.endpointUrl == url) = 0 then
    some { service with
      endpoints := service.endpoints.set id
        { sellerPubky := seller, endpointUrl := url
          enqueueSequence := maxSequence service.events, enqueueCheckedAt := none
          createdAt := service.now, deletedAt := none
          committedBefore := service.events.map (·.id) } }
  else none

def openKeys (service : WebhookService) (endpoint : EndpointId) : List DeliveryKey :=
  (service.deliveries.rows.filter fun row =>
    row.1.1 == endpoint && row.2.isOpen).map Prod.fst

def deleteWebhook (service : WebhookService) (id : EndpointId) (seller : Pubky) :
    Option WebhookService :=
  match service.endpoints.find? id with
  | some endpoint =>
      if endpoint.sellerPubky = seller ∧ endpoint.isActive ∧ service.lockFree id then
        some { service with
          endpoints := service.endpoints.set id { endpoint with deletedAt := some service.now }
          deliveries := service.deliveries.mapRows fun key row =>
            if key.1 = id then row.bury service.now else row
          buried := service.openKeys id ++ service.buried }
      else none
  | none => none

/-! The purge. -/

/-- The keys of the oldest rows past the cutoff, at most a batch of them. -/
def purgeDue (config : WebhookConfig) (now : Time) (ended : List (DeliveryKey × Time)) :
    List DeliveryKey :=
  (((ended.filter fun row => row.2 + config.terminalRetentionDays * daySeconds < now).insertionSort
    fun left right => left.2 ≤ right.2).take config.purgeBatchSize).map Prod.fst

def purgeLetters (config : WebhookConfig) (service : WebhookService) (now : Time) :
    WebhookService :=
  let due := purgeDue config now
    (service.deadLetters.rows.map fun row => (row.1, row.2.deadLetteredAt))
  { service with deadLetters := service.deadLetters.keep fun key => !due.contains key }

def purgeDeliveries (config : WebhookConfig) (service : WebhookService) (now : Time) :
    WebhookService :=
  let due := purgeDue config now
    (service.deliveries.rows.filterMap fun row =>
      row.2.endedAt.map fun ended => (row.1, ended))
  { service with deliveries := service.deliveries.keep fun key => !due.contains key }

/-! Enqueueing. -/

/-- `-infinity` comes before every time. -/
def checkRank (endpoint : WebhookEndpoint) : ℕ := (endpoint.enqueueCheckedAt.map (· + 1)).getD 0

/-- The active endpoints that were checked longest ago. -/
def enqueueTargets (config : WebhookConfig) (service : WebhookService) : List EndpointId :=
  (((service.endpoints.rows.filter fun row => row.2.isActive).insertionSort fun left right =>
      checkRank left.2 < checkRank right.2 ∨
        checkRank left.2 = checkRank right.2 ∧ left.1 ≤ right.1).take
    config.enqueueEndpointsPerPass).map Prod.fst

def pendingOf (service : WebhookService) (seller : Pubky) : ℕ :=
  service.deliveries.rows.countP fun row =>
    service.sellerOf row.1.1 == some seller && row.2.isOpen

/-- The transaction of one endpoint up to its room. An endpoint that was deleted
meanwhile is passed over, and one without room is only marked as checked. -/
def countRoom (config : WebhookConfig) (service : WebhookService) (worker : WebhookWorkerId)
    (pass : WebhookPass) (id : EndpointId) (rest : List EndpointId) : Option WebhookService :=
  if service.lockFree id then
    match service.endpoints.find? id with
    | some endpoint =>
        if endpoint.isActive then
          if service.sellerFree endpoint.sellerPubky then
            let room := config.maxPendingPerSeller - service.pendingOf endpoint.sellerPubky
            if room = 0 then
              some ({ service with
                endpoints := service.endpoints.set id
                  { endpoint with enqueueCheckedAt := some pass.now } }.setPhase worker pass
                (.endpoints rest))
            else
              some (service.setPhase worker pass (.room id endpoint.enqueueSequence
                (min room config.enqueueBatchSize) rest))
          else none
        else some (service.setPhase worker pass (.endpoints rest))
    | none => some (service.setPhase worker pass (.endpoints rest))
  else none

def readBatch (config : WebhookConfig) (service : WebhookService) (worker : WebhookWorkerId)
    (pass : WebhookPass) (id : EndpointId) (cursor limit : ℕ) (rest : List EndpointId) :
    Option WebhookService :=
  (service.sellerOf id).map fun seller =>
    let rows := (config.sellerEvents service.events seller cursor pass.now).take limit
    if rows.length = limit then
      service.setPhase worker pass
        (.chosen id rows ((rows.getLast?.map (·.sequence)).getD cursor) rest)
    else service.setPhase worker pass (.batch id cursor limit rows rest)

def newDelivery (now : Time) : WebhookDelivery where
  attemptCount := 0
  nextAttemptAt := now
  leaseUntil := none
  deliveredAt := none
  deadLetteredAt := none
  lastStatus := none
  createdAt := now
  recorded := 0
  exclusive := .inl rfl

/-- `INSERT … ON CONFLICT DO NOTHING`, for each row of the batch. -/
def insertDeliveries (service : WebhookService) (endpoint : EndpointId) (now : Time) :
    List DomainEvent → WebhookService
  | [] => service
  | event :: rest =>
      match service.deliveries.find? (endpoint, event.id) with
      | some _ => service.insertDeliveries endpoint now rest
      | none =>
          { service with
            deliveries := service.deliveries.set (endpoint, event.id) (newDelivery now)
            enqueued := (endpoint, event.id) :: service.enqueued }.insertDeliveries endpoint now
            rest

/-- The commit of the endpoint's transaction. -/
def storeCursor (service : WebhookService) (worker : WebhookWorkerId) (pass : WebhookPass)
    (id : EndpointId) (rows : List DomainEvent) (next : ℕ) (rest : List EndpointId) :
    Option WebhookService :=
  (service.endpoints.find? id).map fun endpoint =>
    ({ service with
      endpoints := service.endpoints.set id
        { endpoint with
          enqueueSequence := next
          enqueueCheckedAt := some pass.now } }.insertDeliveries id pass.now rows).setPhase
      worker pass (.endpoints rest)

/-! Deliveries. -/

def dueDelivery (now : Time) (row : WebhookDelivery) : Bool :=
  row.isOpen && row.nextAttemptAt ≤ now && row.leaseUntil.all (· ≤ now)

/-- The due deliveries in the order of the claim, less those that another
statement holds locked. -/
def dueDeliveries (service : WebhookService) (now : Time) (locked : List DeliveryKey) :
    List (DeliveryKey × WebhookDelivery) :=
  ((service.deliveries.rows.filter fun row =>
      dueDelivery now row.2 && !locked.contains row.1).insertionSort fun left right =>
      left.2.nextAttemptAt < right.2.nextAttemptAt ∨
        left.2.nextAttemptAt = right.2.nextAttemptAt ∧
          (left.1.1 < right.1.1 ∨ left.1.1 = right.1.1 ∧ left.1.2 ≤ right.1.2)).take
    deliveryBatchSize

def activeEndpoint (service : WebhookService) (id : EndpointId) : Bool :=
  (service.endpoints.find? id).any (·.isActive)

def claimDeliveries (config : WebhookConfig) (service : WebhookService)
    (worker : WebhookWorkerId) (pass : WebhookPass) (locked : List DeliveryKey) :
    WebhookService :=
  let due := (service.dueDeliveries pass.now locked).filter fun row =>
    service.activeEndpoint row.1.1
  let keys := due.map Prod.fst
  let claimed := due.map fun row : DeliveryKey × WebhookDelivery =>
    { key := row.1, attemptCount := row.2.attemptCount, createdAt := row.2.createdAt }
  { service with
    deliveries := service.deliveries.mapRows fun key row =>
      if key ∈ keys then { row with leaseUntil := some (pass.now + config.leaseSeconds) }
      else row }.setPhase worker pass (.deliveries claimed)

end WebhookService

/-- What `persist_delivery_outcome` makes of an answer. -/
inductive DeliveryOutcome where
  | delivered
  | deadLettered
  | retry (next : Time)
deriving DecidableEq, Repr

def deliveryOutcome (config : WebhookConfig) (delivery : ClaimedDelivery) (now : Time)
    (status : Option ℕ) : DeliveryOutcome :=
  let attempt := delivery.attemptCount + 1
  if status.any fun code => 200 ≤ code && code < 300 then .delivered
  else if config.maxAttempts ≤ attempt ∨
      delivery.createdAt + config.maxAgeHours * 3600 ≤ now then .deadLettered
  else .retry (now +
    min (config.retryBaseSeconds * 2 ^ min (attempt - 1) 20) config.retryMaxSeconds)

/-- The guarded UPDATE of an outcome. -/
def WebhookDelivery.record (row : WebhookDelivery) (outcome : DeliveryOutcome) (attempt : ℕ)
    (status : Option ℕ) (now : Time) : WebhookDelivery :=
  if isOpen : row.isOpen = true then
    have open' := Bool.and_eq_true_iff.mp isOpen
    match outcome with
    | .delivered =>
        { row with
          attemptCount := attempt, lastStatus := status, deliveredAt := some now
          leaseUntil := none, recorded := row.recorded + 1
          exclusive := .inr (by simpa using open'.2) }
    | .deadLettered =>
        { row with
          attemptCount := attempt, lastStatus := status, deadLetteredAt := some now
          leaseUntil := none, recorded := row.recorded + 1
          exclusive := .inl (by simpa using open'.1) }
    | .retry next =>
        { row with
          attemptCount := attempt, lastStatus := status, nextAttemptAt := next
          leaseUntil := none, recorded := row.recorded + 1 }
  else row

namespace WebhookService

/-- The lock on the endpoint of the next delivery, which is passed over if the
endpoint was deleted meanwhile. -/
def takeDelivery (service : WebhookService) (worker : WebhookWorkerId) (pass : WebhookPass)
    (delivery : ClaimedDelivery) (rest : List ClaimedDelivery) : Option WebhookService :=
  if service.lockFree delivery.key.1 then
    if service.activeEndpoint delivery.key.1 then
      some (service.setPhase worker pass (.sending delivery rest))
    else some (service.setPhase worker pass (.deliveries rest))
  else none

/-- The dead letter that `persist_delivery_outcome` inserts, whatever its UPDATE
found. -/
def insertDeadLetter (service : WebhookService) (key : DeliveryKey) (letter : DeadLetter) :
    WebhookService :=
  match service.deadLetters.find? key with
  | some _ => service
  | none => { service with deadLetters := service.deadLetters.set key letter }

def isOpen (service : WebhookService) (key : DeliveryKey) : Bool :=
  (service.deliveries.find? key).any (·.isOpen)

/-- `persist_delivery_outcome` and the commit of the delivery's transaction. -/
def persistOutcome (config : WebhookConfig) (service : WebhookService) (delivery : ClaimedDelivery)
    (now : Time) (status : Option ℕ) : WebhookService :=
  let attempt := delivery.attemptCount + 1
  let outcome := deliveryOutcome config delivery now status
  let hit := service.isOpen delivery.key
  let written : WebhookService :=
    { service with
      deliveries := service.deliveries.mapRows fun key row =>
        if key = delivery.key then row.record outcome attempt status now else row }
  match outcome with
  | .delivered =>
      { written with sent := if hit then delivery.key :: service.sent else service.sent }
  | .deadLettered =>
      { written with
        buried := if hit then delivery.key :: service.buried else service.buried }.insertDeadLetter
        delivery.key ⟨attempt, status, now⟩
  | .retry _ => written

end WebhookService

/-! The system. -/

inductive WebhookAction where
  | tick (time : Time)
  | insert (transaction : TransactionId) (event : DomainEvent)
  | finish (transaction : TransactionId) (commits : Bool)
  | add (id : EndpointId) (seller : Pubky) (url : String)
  | delete (id : EndpointId) (seller : Pubky)
  | page (seller : Pubky) (cursor limit : ℕ)
  | start (worker : WebhookWorkerId)
  | advance (worker : WebhookWorkerId)
  | claim (worker : WebhookWorkerId) (locked : List DeliveryKey)
  | answer (worker : WebhookWorkerId) (status : Option ℕ)
  | stop (worker : WebhookWorkerId)
deriving DecidableEq, Repr

namespace WebhookService

/-- The next statement of a pass that needs no input. -/
def advance (config : WebhookConfig) (service : WebhookService) (worker : WebhookWorkerId)
    (pass : WebhookPass) : Option WebhookService :=
  match pass.phase with
  | .purgeLetters =>
      some ((service.purgeLetters config pass.now).setPhase worker pass .purgeDeliveries)
  | .purgeDeliveries =>
      some ((service.purgeDeliveries config pass.now).setPhase worker pass .list)
  | .list => some (service.setPhase worker pass (.endpoints (service.enqueueTargets config)))
  | .endpoints [] => some (service.setPhase worker pass .claiming)
  | .endpoints (id :: rest) => service.countRoom config worker pass id rest
  | .room id cursor limit rest => service.readBatch config worker pass id cursor limit rest
  | .batch id cursor _ rows rest =>
      some (service.setPhase worker pass
        (.chosen id rows (max (maxSequence service.events) cursor) rest))
  | .chosen id rows next rest => service.storeCursor worker pass id rows next rest
  | .deliveries (delivery :: rest) => service.takeDelivery worker pass delivery rest
  | .claiming | .deliveries [] | .sending .. => none

def step (config : WebhookConfig) (service : WebhookService) :
    WebhookAction → Option WebhookService
  | .tick time => if service.now ≤ time then some { service with now := time } else none
  | .insert transaction event => service.insertEvent transaction event
  | .finish transaction commits => service.endTransaction transaction commits
  | .add id seller url => service.addWebhook config id seller url
  | .delete id seller => service.deleteWebhook id seller
  | .page seller cursor limit =>
      match config.listSellerEvents service.events seller cursor limit service.now with
      | .ok rows =>
          some { service with
            shown := rows.map (fun row => (seller, row.sequence)) ++ service.shown }
      | .error _ => some service
  | .start worker =>
      if (service.pass worker).isNone then
        some { service with
          passes := service.passes.set worker (some ⟨service.now, .purgeLetters⟩) }
      else none
  | .advance worker => do
      let pass ← service.pass worker
      service.advance config worker pass
  | .claim worker locked => do
      let pass ← service.pass worker
      match pass.phase with
      | .claiming => some (service.claimDeliveries config worker pass locked)
      | _ => none
  | .answer worker status => do
      let pass ← service.pass worker
      match pass.phase with
      | .sending delivery rest =>
          some ((service.persistOutcome config delivery pass.now status).setPhase worker pass
            (.deliveries rest))
      | _ => none
  | .stop worker => some { service with passes := service.passes.set worker none }

/-- Nothing has happened yet. Sequences start at 1. -/
def empty : WebhookService where
  now := 0
  nextSequence := 1
  transactions := .empty
  events := []
  endpoints := .empty
  deliveries := .empty
  deadLetters := .empty
  passes := .empty
  enqueued := []
  sent := []
  buried := []
  shown := []

end WebhookService

def webhooks (config : WebhookConfig) : Runs.System WebhookService WebhookAction where
  initial service := service = .empty
  step := WebhookService.step config

end MarketplaceService
