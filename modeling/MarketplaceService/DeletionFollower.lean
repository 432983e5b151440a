import MarketplaceService.ListingDeletion
import MarketplaceService.Lib.Run
import Mathlib.Data.List.Sort

/-!
The deletion follower and the commands beside it (`listing_deletion.rs`,
`register_listing.rs`, `sync_listing.rs`, `workers.rs`). Registrations, syncs
and follower passes of any number of processes run concurrently: each takes one
step at a time, a read of the homeserver, a read of the database or a
transaction. A transaction that locks the listing row is one step, at its commit.
A follower's write is two: it share-locks its lease row, and then commits before
the deadline it counted for the lease, or not at all.
-/

namespace MarketplaceService

def confirmWindow : ℕ := 20
def followPage : ℕ := 100
def followSellersPerPass : ℕ := 10
def followSettlesPerPass : ℕ := 20
def followPollSeconds : ℕ := 60
def followRevivalChecksPerPass : ℕ := 5

/-! The proof of a deletion. -/

inductive DeletionCheck where
  | deleted (cursor : Cursor)
  | notDeleted
  | unavailable
deriving DecidableEq, Repr

def latestEventIsDelete (log : EventLog) (key : RecordKey) (up : Bool) : DeletionCheck :=
  let path := listingRecordPath key.2
  match log.answer key.1 (log.backward key.1 path confirmWindow) up with
  | .events events =>
      match events.find? fun event => event.path == path with
      | some { kind := .del, cursor, .. } => .deleted cursor
      | _ => .notDeleted
  | .unknownUser => .notDeleted
  | .unavailable => .unavailable

/-! Passes. -/

/-- Where `settle_deletion` stands. -/
inductive SettlePhase where
  | observe
  | fetch (observed : LiveListing)
  | events (observed : LiveListing)
  | confirmed (observed : LiveListing) (cursor : Cursor)
  | locked (observed : LiveListing) (cursor : Cursor)
deriving DecidableEq, Repr

inductive SettleOutcome where
  | tombstoned
  | notDeleted (observed : Option ℕ)
  | unsettled
deriving DecidableEq, Repr

structure Batch where
  seller : Pubky
  afterCursor : Option Cursor
  events : List HomeserverEvent
  settledThrough : Option Cursor
  pageLength : ℕ
deriving DecidableEq, Repr

abbrev DueSellers := List (Pubky × Option Cursor)

/-- Where `follow_homeserver_deletions` stands. The flag of a write says that
its transaction has locked the lease row. -/
inductive Job where
  | acquired
  | revivals (due : List RecordKey)
  | revival (key : RecordKey) (settle : SettlePhase) (due : List RecordKey)
  | attempt (key : RecordKey) (confirmed : Option ℕ) (locked : Bool) (due : List RecordKey)
  | sellers
  | following (due : DueSellers)
  | batch (batch : Batch) (due : DueSellers)
  | settling (batch : Batch) (listingId : String) (cursor : Cursor) (settle : SettlePhase)
      (due : DueSellers)
  | poll (seller : Pubky) (cursor : Option Cursor) (polledAt : Time) (locked : Bool)
      (due : DueSellers)
  | releasing
deriving DecidableEq, Repr

structure FollowerPass where
  holder : ℕ
  fence : ℕ
  started : Time
  deadline : Time
  leaseDeadline : Time
  /-- The time the pass began to follow. -/
  now : Time
  settles : ℕ
  tombstoned : ℕ
  job : Job
deriving DecidableEq, Repr

def FollowerPass.authority (pass : FollowerPass) : DeletionAuthority :=
  .follower pass.holder pass.fence

/-- The revivals are checked in the first half of the pass. -/
def FollowerPass.revivalDeadline (pass : FollowerPass) : Time :=
  pass.now + (pass.deadline - pass.now) / 2

def FollowerPass.locksLease (pass : FollowerPass) : Bool :=
  match pass.job with
  | .revival _ (.locked ..) _ | .attempt _ _ true _ | .settling _ _ _ (.locked ..) _
  | .poll _ _ _ true _ => true
  | _ => false

/-! Commands. -/

inductive RegisterPhase where
  | request
  | prefetch
  | commit (prefetched : RecordPrefetch)
deriving DecidableEq, Repr

inductive SyncPhase where
  | fetch
  | apply (record : HomeserverRecord)
  | observe
  | events (observed : LiveListing)
  | confirmed (observed : LiveListing) (cursor : Cursor)
deriving DecidableEq, Repr

inductive Activity where
  | register (sender : Sender) (listingId : String) (payload : PublicListing)
      (phase : RegisterPhase)
  | sync (key : RecordKey) (phase : SyncPhase)
  | pass (pass : FollowerPass)
  | ended
deriving DecidableEq, Repr

/-! The state. -/

abbrev ActivityId := ℕ

structure DeletionCursor where
  eventCursor : Option Cursor
  polledAt : Time
deriving DecidableEq, Repr

structure RevivalCheck where
  checkedGeneration : Option ℕ
  attemptedAt : Time
deriving DecidableEq, Repr

/-- The homeserver, the tables and the activities. A row of `listings` is keyed
by its seller and listing id, of which the aggregate id is made. -/
structure Storefront where
  now : Time
  log : EventLog
  rows : Keyed.Table RecordKey ListingRow
  lease : Option Lease
  cursors : Keyed.Table Pubky DeletionCursor
  checks : Keyed.Table RecordKey RevivalCheck
  activities : Keyed.Table ActivityId Activity

/-- `holds_lease`, in a transaction begun before the deadline. -/
def Storefront.holdsLease (store : Storefront) (pass : FollowerPass) : Bool :=
  decide (store.now < pass.leaseDeadline) &&
    store.lease.any fun lease =>
      lease.holder == pass.holder && lease.fence == pass.fence &&
        decide (store.now < lease.leaseUntil)

def Storefront.leaseLocked (store : Storefront) : Bool :=
  store.activities.rows.any fun row =>
    match row.2 with
    | .pass pass => pass.locksLease
    | _ => false

/-- A revived row that the follower has not confirmed at its generation. -/
def revivalDue (row : ListingRow) (check : Option RevivalCheck) : Bool :=
  row.isLive && row.revivedFromCursor.isSome &&
    (check.bind RevivalCheck.checkedGeneration).all fun checked =>
      decide (checked < row.listing.generation)

/-- `ORDER BY tried NULLS FIRST, name`. -/
def triedBefore {K : Type} (tried : K → Option Time) (name : K → String) (left right : K) : Bool :=
  match tried left, tried right with
  | none, none => decide (name left ≤ name right)
  | none, some _ => true
  | some _, none => false
  | some first, some second =>
      decide (first < second) || (first == second && decide (name left ≤ name right))

def dueFirst {K : Type} (tried : K → Option Time) (name : K → String) (limit : ℕ)
    (keys : List K) : List K :=
  (keys.insertionSort fun left right => triedBefore tried name left right = true).take limit

def listingAggregateId (key : RecordKey) : String := "listing:" ++ key.1 ++ "_" ++ key.2

def Storefront.dueRevivals (store : Storefront) : List RecordKey :=
  dueFirst (fun key => (store.checks.find? key).map RevivalCheck.attemptedAt) listingAggregateId
    followRevivalChecksPerPass
    ((store.rows.rows.filter fun row => revivalDue row.2 (store.checks.find? row.1)).map Prod.fst)

/-- The sellers with a live listing whose last poll is old enough, with their
cursors. -/
def Storefront.dueSellers (store : Storefront) (now : Time) : DueSellers :=
  let polledAt := fun seller => (store.cursors.find? seller).map DeletionCursor.polledAt
  let sellers := ((store.rows.rows.filter fun row => row.2.isLive).map fun row => row.1.1).dedup
  (dueFirst polledAt id followSellersPerPass (sellers.filter fun seller =>
    (polledAt seller).all fun polled => decide (polled + followPollSeconds ≤ now))).map
      fun seller => (seller, (store.cursors.find? seller).bind DeletionCursor.eventCursor)

/-- The upsert of `record_poll`: the cursor only moves forward. -/
def Storefront.recordPoll (store : Storefront) (seller : Pubky) (cursor : Option Cursor)
    (polledAt : Time) : Storefront :=
  let stored := (store.cursors.find? seller).bind DeletionCursor.eventCursor
  { store with
    cursors := store.cursors.set seller
      { eventCursor := if markerBehind stored cursor then cursor else stored
        polledAt := polledAt } }

/-- The upsert of `record_revival_attempt`. -/
def Storefront.recordRevivalAttempt (store : Storefront) (key : RecordKey)
    (confirmed : Option ℕ) : Storefront :=
  let checked := (store.checks.find? key).bind RevivalCheck.checkedGeneration
  { store with
    checks := store.checks.set key
      { checkedGeneration := if markerBehind checked confirmed then confirmed else checked
        attemptedAt := store.now } }

def Storefront.setActivity (store : Storefront) (id : ActivityId) (activity : Activity) :
    Storefront :=
  { store with activities := store.activities.set id activity }

def Storefront.setRow (store : Storefront) (key : RecordKey) (row : ListingRow) : Storefront :=
  { store with rows := store.rows.set key row }

/-! Steps. -/

/-- What a step of `settle_deletion` leads to. -/
inductive SettleProgress where
  | next (settle : SettlePhase)
  | settled (outcome : SettleOutcome)
  | halt
deriving DecidableEq, Repr

/-- `settle_deletion`. Only its last step writes a row. -/
def Storefront.settle (store : Storefront) (pass : FollowerPass) (key : RecordKey) (up : Bool) :
    SettlePhase → Storefront × SettleProgress
  | .observe =>
      if store.now < pass.leaseDeadline then
        match observeLive (store.rows.find? key) with
        | some observed => (store, .next (.fetch observed))
        | none => (store, .settled (.notDeleted none))
      else (store, .halt)
  | .fetch observed =>
      match store.log.fetchListing key up with
      | .notFound => (store, .next (.events observed))
      | .found _ => (store, .settled (.notDeleted (some observed.generation)))
      | .unavailable => (store, .settled .unsettled)
  | .events observed =>
      match latestEventIsDelete store.log key up with
      | .deleted cursor => (store, .next (.confirmed observed cursor))
      | .notDeleted => (store, .settled (.notDeleted (some observed.generation)))
      | .unavailable => (store, .settled .unsettled)
  | .confirmed observed cursor =>
      if store.holdsLease pass then (store, .next (.locked observed cursor)) else (store, .halt)
  | .locked observed cursor =>
      if store.now < pass.leaseDeadline then
        match tombstoneRow pass.authority store.lease (store.rows.find? key) cursor
            observed.recordEpoch store.now with
        | .written row => (store.setRow key row, .settled .tombstoned)
        | .unmatched =>
            match observeLive (store.rows.find? key) with
            | some live =>
                if live.recordEpoch ≠ observed.recordEpoch then (store, .settled .unsettled)
                else (store, .settled (.notDeleted (some observed.generation)))
            | none => (store, .settled (.notDeleted (some observed.generation)))
        | .raised => (store, .halt)
      else (store, .halt)

def revivalJob (key : RecordKey) (due : List RecordKey) : SettleProgress → Job
  | .next settle => .revival key settle due
  | .settled .tombstoned | .settled (.notDeleted none) => .revivals due
  | .settled (.notDeleted (some generation)) => .attempt key (some generation) false due
  | .settled .unsettled => .attempt key none false due
  | .halt => .releasing

/-- The poll of a batch that is read to its end or broken off. A full page that
is read to its end leaves the seller due. -/
def batchPoll (pass : FollowerPass) (store : Storefront) (batch : Batch) (complete : Bool)
    (due : DueSellers) : Job :=
  .poll batch.seller batch.settledThrough
    (if complete && batch.pageLength == followPage then pass.now - followPollSeconds
      else store.now) false due

def settlingJob (pass : FollowerPass) (store : Storefront) (batch : Batch) (listingId : String)
    (cursor : Cursor) (due : DueSellers) : SettleProgress → Job
  | .next settle => .settling batch listingId cursor settle due
  | .settled .tombstoned | .settled (.notDeleted _) =>
      .batch { batch with settledThrough := some cursor } due
  | .settled .unsettled => batchPoll pass store batch false due
  | .halt => .releasing

def SettleProgress.tombstones : SettleProgress → ℕ
  | .settled .tombstoned => 1
  | _ => 0

/-- One event of a batch: a delete that is the latest event of the batch for its
listing is settled. -/
def batchJob (pass : FollowerPass) (store : Storefront) (batch : Batch) (due : DueSellers) :
    FollowerPass :=
  match batch.events with
  | [] => { pass with job := batchPoll pass store batch true due }
  | event :: later =>
      let rest := { batch with events := later }
      let superseded := later.any fun other =>
        eventListingId other.path == eventListingId event.path
      match eventListingId event.path, event.kind, superseded with
      | some listingId, .del, false =>
          if followSettlesPerPass ≤ pass.settles then
            { pass with job := batchPoll pass store batch false due }
          else
            { pass with
              settles := pass.settles + 1
              job := .settling rest listingId event.cursor .observe due }
      | _, _, _ => { pass with job := .batch { rest with settledThrough := some event.cursor } due }

/-- `release_fenced_lease`. -/
def Storefront.releaseLease (store : Storefront) (pass : FollowerPass) : Storefront :=
  { store with
    lease := store.lease.map fun lease =>
      if lease.holder = pass.holder ∧ lease.fence = pass.fence ∧
          store.now < pass.leaseDeadline then
        { lease with leaseUntil := min lease.leaseUntil store.now }
      else lease }

/-- One step of a pass. `none` is its end. -/
def Storefront.advancePass (store : Storefront) (pass : FollowerPass) (up : Bool) :
    Storefront × Option FollowerPass :=
  match pass.job with
  | .acquired =>
      let begun := { pass with now := store.now }
      if begun.revivalDeadline ≤ store.now then (store, some { begun with job := .sellers })
      else if store.now < pass.leaseDeadline then
        (store, some { begun with job := .revivals store.dueRevivals })
      else (store, some { begun with job := .releasing })
  | .revivals [] => (store, some { pass with job := .sellers })
  | .revivals (key :: due) =>
      if pass.revivalDeadline ≤ store.now then (store, some { pass with job := .sellers })
      else (store, some { pass with job := .revival key .observe due })
  | .revival key settle due =>
      let (after, settling) := store.settle pass key up settle
      (after, some { pass with
        tombstoned := pass.tombstoned + settling.tombstones
        job := revivalJob key due settling })
  | .attempt key confirmed false due =>
      (store, some { pass with
        job := if store.holdsLease pass then .attempt key confirmed true due else .releasing })
  | .attempt key confirmed true due =>
      if store.now < pass.leaseDeadline then
        (store.recordRevivalAttempt key confirmed, some { pass with job := .revivals due })
      else (store, some { pass with job := .releasing })
  | .sellers =>
      (store, some { pass with
        job := if store.now < pass.leaseDeadline then .following (store.dueSellers pass.now)
          else .releasing })
  | .following [] => (store, some { pass with job := .releasing })
  | .following ((seller, cursor) :: due) =>
      if pass.deadline ≤ store.now ∨ followSettlesPerPass ≤ pass.settles then
        (store, some { pass with job := .releasing })
      else
        match store.log.answer seller (store.log.forward seller listingsPath cursor followPage)
            up with
        | .events events =>
            (store, some { pass with
              job := .batch
                { seller := seller
                  afterCursor := cursor
                  events := events
                  settledThrough := none
                  pageLength := events.length } due })
        | .unknownUser | .unavailable =>
            (store, some { pass with job := .poll seller none store.now false due })
  | .batch batch due => (store, some (batchJob pass store batch due))
  | .settling batch listingId cursor settle due =>
      let (after, settling) := store.settle pass (batch.seller, listingId) up settle
      (after, some { pass with
        tombstoned := pass.tombstoned + settling.tombstones
        job := settlingJob pass store batch listingId cursor due settling })
  | .poll seller cursor polledAt false due =>
      (store, some { pass with
        job := if store.holdsLease pass then .poll seller cursor polledAt true due
          else .releasing })
  | .poll seller cursor polledAt true due =>
      if store.now < pass.leaseDeadline then
        (store.recordPoll seller cursor polledAt, some { pass with job := .following due })
      else (store, some { pass with job := .releasing })
  | .releasing => (store.releaseLease pass, none)

def Storefront.recordWrite (store : Storefront) : Activity → Option (RecordKey × ListingRow)
  | .register sender listingId payload (.commit prefetched) =>
      let key := (payload.terms.sellerPubky, listingId)
      let current := store.rows.find? key
      match registerRow current payload sender prefetched store.now with
      | .ok row => (storeRow store.lease current row).map fun row => (key, row)
      | .error _ => none
  | .sync key (.apply record) =>
      let current := store.rows.find? key
      match (syncPayload record key.1).bind fun payload => syncRow current payload store.now with
      | .ok row => (storeRow store.lease current row).map fun row => (key, row)
      | .error _ => none
  | _ => none

def Storefront.commitRecord (store : Storefront) (activity : Activity) : Storefront :=
  match store.recordWrite activity with
  | some (key, row) => store.setRow key row
  | none => store

/-- `public_record_request`: an auction, a Locks payload at the cap, and a
registration that would revive read the record first. -/
def Storefront.publicRecordRequest (store : Storefront) (sender : Sender) (listingId : String)
    (payload : PublicListing) : Bool :=
  sender.actor == payload.terms.sellerPubky &&
    (needsPublicRecord payload ||
      (sender.expectedRevision == 0 &&
        (store.rows.find? (payload.terms.sellerPubky, listingId)).any fun row => !row.isLive))

/-- One step of an activity. -/
def Storefront.advance (store : Storefront) (up : Bool) : Activity → Option (Storefront × Activity)
  | .register sender listingId payload phase =>
      match phase with
      | .request =>
          some (store, .register sender listingId payload
            (if store.publicRecordRequest sender listingId payload then .prefetch
              else .commit .notNeeded))
      | .prefetch =>
          some (store, .register sender listingId payload
            (.commit
              (match store.log.fetchListing (payload.terms.sellerPubky, listingId) up with
              | .found record => .found record
              | .notFound => .notFound
              | .unavailable => .unavailable)))
      | .commit prefetched =>
          some (store.commitRecord (.register sender listingId payload (.commit prefetched)),
            .ended)
  | .sync key phase =>
      match phase with
      | .fetch =>
          match store.log.fetchListing key up with
          | .found record => some (store, .sync key (.apply record))
          | .notFound => some (store, .sync key .observe)
          | .unavailable => some (store, .ended)
      | .apply record => some (store.commitRecord (.sync key (.apply record)), .ended)
      | .observe =>
          match observeLive (store.rows.find? key) with
          | some observed => some (store, .sync key (.events observed))
          | none => some (store, .ended)
      | .events observed =>
          match latestEventIsDelete store.log key up with
          | .deleted cursor => some (store, .sync key (.confirmed observed cursor))
          | .notDeleted | .unavailable => some (store, .ended)
      | .confirmed observed cursor =>
          match tombstoneRow .command store.lease (store.rows.find? key) cursor
              observed.recordEpoch store.now with
          | .written row => some (store.setRow key row, .ended)
          | .unmatched | .raised => some (store, .ended)
  | .pass pass =>
      let (after, next) := store.advancePass pass up
      some (after, match next with
        | some next => .pass next
        | none => .ended)
  | .ended => none

/-! The system. -/

structure FollowerConfig where
  leaseSeconds : ℕ
  passBudget : ℕ
deriving DecidableEq, Repr

/-- `entity_id_regex`. -/
def isValidEntityId (value : String) : Bool :=
  decide (0 < value.toList.length) && decide (value.toList.length ≤ 128) &&
    value.toList.all fun char => char.isAlphanum || char == '_' || char == '-'

/-- `try_acquire_fenced_lease`. -/
def acquireLease (lease : Option Lease) (holder : ℕ) (now : Time) (leaseSeconds : ℕ) :
    Option Lease :=
  match lease with
  | none => some { holder := holder, leaseUntil := now + leaseSeconds, fence := 1 }
  | some row =>
      if row.leaseUntil ≤ now ∨ row.holder = holder then
        some { holder := holder, leaseUntil := now + leaseSeconds, fence := row.fence + 1 }
      else none

def Listing.keepsRecord (listing after : Listing) : Bool :=
  after.sellerPubky == listing.sellerPubky &&
    after.listingRevision == listing.listingRevision &&
    after.unitPriceAmountMinor == listing.unitPriceAmountMinor &&
    after.shippingMinor == listing.shippingMinor &&
    after.saleFormat == listing.saleFormat &&
    after.fulfillmentMethods == listing.fulfillmentMethods &&
    after.generation == listing.generation &&
    after.deletedAt == listing.deletedAt &&
    after.recreatedAt == listing.recreatedAt

inductive StorefrontAction where
  | tick (now : Time)
  | publish (event : HomeserverEvent)
  /-- Any other writer of a listing row: stock, auction and revision. -/
  | trade (key : RecordKey) (listing : Listing)
  | register (id : ActivityId) (sender : Sender) (listingId : String) (payload : PublicListing)
  | sync (id : ActivityId) (key : RecordKey)
  /-- The follower takes its lease; the clock is read before the row is locked. -/
  | acquire (id : ActivityId) (holder : ℕ) (started leaseNow : Time)
  | advance (id : ActivityId) (up : Bool)
  /-- A crash, a lost connection, a refusal or a deadline. -/
  | halt (id : ActivityId)

def Storefront.spawn (store : Storefront) (id : ActivityId) (activity : Activity) :
    Option Storefront :=
  if (store.activities.find? id).isSome then none else some (store.setActivity id activity)

def Storefront.trade (store : Storefront) (key : RecordKey) (listing : Listing) :
    Option Storefront :=
  match store.rows.find? key with
  | none => none
  | some row =>
      if kept : row.listing.keepsRecord listing = true then
        some (store.setRow key { row with
          listing := listing
          evidence := by
            have deleted : listing.deletedAt = row.listing.deletedAt := by
              simp only [Listing.keepsRecord, Bool.and_eq_true, beq_iff_eq] at kept
              exact kept.1.2
            rw [deleted]
            exact row.evidence })
      else none

def Storefront.acquire (config : FollowerConfig) (store : Storefront) (id : ActivityId)
    (holder : ℕ) (started leaseNow : Time) : Option Storefront :=
  if started ≤ leaseNow ∧ leaseNow ≤ store.now ∧ store.leaseLocked = false then
    (acquireLease store.lease holder leaseNow config.leaseSeconds).bind fun lease =>
      { store with lease := some lease }.spawn id (.pass
        { holder := holder
          fence := lease.fence
          started := started
          deadline := started + config.passBudget
          leaseDeadline := started + config.leaseSeconds
          now := leaseNow
          settles := 0
          tombstoned := 0
          job := .acquired })
  else none

def Storefront.step (config : FollowerConfig) (store : Storefront) :
    StorefrontAction → Option Storefront
  | .tick now => if store.now ≤ now then some { store with now := now } else none
  | .publish event => (store.log.write event).map fun log => { store with log := log }
  | .trade key listing => store.trade key listing
  | .register id sender listingId payload =>
      if isValidEntityId listingId then
        store.spawn id (.register sender listingId payload .request)
      else none
  | .sync id key => if isValidEntityId key.2 then store.spawn id (.sync key .fetch) else none
  | .acquire id holder started leaseNow => store.acquire config id holder started leaseNow
  | .advance id up =>
      (store.activities.find? id).bind fun activity =>
        (store.advance up activity).map fun (after, next) => after.setActivity id next
  | .halt id =>
      match store.activities.find? id with
      | some (.pass pass) =>
          some (store.setActivity id
            (if pass.job = .releasing then .ended else .pass { pass with job := .releasing }))
      | some _ => some (store.setActivity id .ended)
      | none => none

/-- No listing, no lease and no cursor; the homeserver may have a history. -/
def storefront (config : FollowerConfig) : Runs.System Storefront StorefrontAction :=
  { initial := fun store =>
      store.rows = .empty ∧ store.lease = none ∧ store.cursors = .empty ∧ store.checks = .empty ∧
        store.activities = .empty
    step := Storefront.step config }

end MarketplaceService
