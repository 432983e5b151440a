import MarketplaceService.Catalog

/-!
The homeserver as the deletion follower reads it (`homeserver.rs`): a log of
the events each user wrote, the record at a path, and batches of the events
under a path prefix. The events of one user share the prefix `pubky://{user}`
of their URIs, so a path stands for the URI. The cursors of the log grow.
-/

namespace MarketplaceService

abbrev Cursor := ℕ

structure PublicListing where
  terms : ListingRecord
  title : String
  contentHash : String
  /-- The policy URI and the criterion id. -/
  digitalLock : Option (String × String)
deriving DecidableEq, Repr

/-- A record as the service reads it: the registration it derives, unless it
cannot be interpreted, and whether it publishes shipping or pickup. -/
structure HomeserverRecord where
  derives : Option PublicListing
  publishesPhysicalFulfillment : Bool
deriving DecidableEq, Repr

/-- `registration_payload_from_record`. -/
def HomeserverRecord.registration (record : HomeserverRecord) (seller : Pubky) :
    Option PublicListing :=
  record.derives.map fun payload =>
    { payload with terms := { payload.terms with sellerPubky := seller } }

inductive HomeserverEventKind where
  | put (record : HomeserverRecord)
  | del
deriving DecidableEq, Repr

structure HomeserverEvent where
  kind : HomeserverEventKind
  user : Pubky
  path : String
  cursor : Cursor
deriving DecidableEq, Repr

/-- The events, newest first. -/
structure EventLog where
  events : List HomeserverEvent
  ordered : events.Pairwise fun newer older => older.cursor < newer.cursor

def EventLog.empty : EventLog := ⟨[], .nil⟩

def EventLog.write (log : EventLog) (event : HomeserverEvent) : Option EventLog :=
  if newest : ∀ older ∈ log.events, older.cursor < event.cursor then
    some ⟨event :: log.events, List.pairwise_cons.mpr ⟨newest, log.ordered⟩⟩
  else none

def listingsPath : String := "/pub/pubky.app/marketplace/v1/listings/"

def listingRecordPath (listingId : String) : String := listingsPath ++ listingId

def underPath (path : String) (event : HomeserverEvent) : Bool :=
  path.toList.isPrefixOf event.path.toList

/-- `event_listing_id`: the listing record the path names, if any. -/
def eventListingId (path : String) : Option String :=
  let id := path.toList.drop listingsPath.toList.length
  if listingsPath.toList.isPrefixOf path.toList && !id.isEmpty && !id.contains '/' then
    some (String.ofList id)
  else none

abbrev RecordKey := Pubky × String

def EventLog.latestEvent (log : EventLog) (key : RecordKey) : Option HomeserverEvent :=
  log.events.find? fun event => event.user == key.1 && event.path == listingRecordPath key.2

inductive HomeserverFetchOutcome where
  | found (record : HomeserverRecord)
  | notFound
  | unavailable
deriving DecidableEq, Repr

/-- `fetch_listing`. `up` is whether the homeserver answers. -/
def EventLog.fetchListing (log : EventLog) (key : RecordKey) (up : Bool) :
    HomeserverFetchOutcome :=
  if up then
    match log.latestEvent key with
    | some { kind := .put record, .. } => .found record
    | _ => .notFound
  else .unavailable

inductive HomeserverEventsOutcome where
  | events (events : List HomeserverEvent)
  | unknownUser
  | unavailable
deriving DecidableEq, Repr

/-- The events a batch is cut from, newest first. -/
def EventLog.matching (log : EventLog) (user : Pubky) (path : String)
    (afterCursor : Option Cursor) : List HomeserverEvent :=
  log.events.filter fun event =>
    event.user == user && underPath path event &&
      afterCursor.all fun cursor => decide (cursor < event.cursor)

/-- `listing_events` in cursor order, strictly after the cursor. -/
def EventLog.forward (log : EventLog) (user : Pubky) (path : String)
    (afterCursor : Option Cursor) (limit : ℕ) : List HomeserverEvent :=
  (log.matching user path afterCursor).reverse.take limit

/-- `listing_events` in reverse order, from the newest event on. -/
def EventLog.backward (log : EventLog) (user : Pubky) (path : String) (limit : ℕ) :
    List HomeserverEvent :=
  (log.matching user path none).take limit

def EventLog.answer (log : EventLog) (user : Pubky) (batch : List HomeserverEvent) (up : Bool) :
    HomeserverEventsOutcome :=
  if up then
    if log.events.any fun event => event.user == user then .events batch else .unknownUser
  else .unavailable

/-! What an answer says about the log. -/

theorem EventLog.latestEvent_mem {log : EventLog} {key : RecordKey} {event : HomeserverEvent}
    (latest : log.latestEvent key = some event) :
    event ∈ log.events ∧ event.user = key.1 ∧ event.path = listingRecordPath key.2 := by
  have named := List.find?_some latest
  simp only [Bool.and_eq_true, beq_iff_eq] at named
  exact ⟨List.mem_of_find?_eq_some latest, named⟩

theorem EventLog.latestEvent_latest {log : EventLog} {key : RecordKey}
    {event other : HomeserverEvent}
    (latest : log.latestEvent key = some event) (member : other ∈ log.events)
    (user : other.user = key.1) (path : other.path = listingRecordPath key.2) :
    other.cursor ≤ event.cursor := by
  obtain ⟨-, newer, older, split, skipped⟩ := List.find?_eq_some_iff_append.mp latest
  have ordered := log.ordered
  rw [split] at member ordered
  rcases List.mem_append.mp member with before | after
  · have unnamed := skipped other before
    simp [user, path] at unnamed
  · rcases List.mem_cons.mp after with rfl | later
    · exact le_rfl
    · exact (List.rel_of_pairwise_cons (List.pairwise_append.mp ordered).2.1 later).le

theorem EventLog.write_events {log after : EventLog} {event : HomeserverEvent}
    (written : log.write event = some after) :
    after.events = event :: log.events ∧ ∀ older ∈ log.events, older.cursor < event.cursor := by
  unfold EventLog.write at written
  split at written
  · rename_i newest
    cases written
    exact ⟨rfl, newest⟩
  · cases written

theorem EventLog.write_latest {log after : EventLog} {event : HomeserverEvent}
    (written : log.write event = some after) (key : RecordKey) :
    after.latestEvent key =
      if event.user = key.1 ∧ event.path = listingRecordPath key.2 then some event
      else log.latestEvent key := by
  rw [EventLog.latestEvent, (EventLog.write_events written).1, List.find?_cons]
  by_cases named : event.user = key.1 ∧ event.path = listingRecordPath key.2
  · simp [named]
  · rw [if_neg named]
    have unnamed : (event.user == key.1 && event.path == listingRecordPath key.2) = false := by
      rw [Bool.eq_false_iff]
      simpa using named
    rw [unnamed]
    rfl

theorem EventLog.fetchListing_found {log : EventLog} {key : RecordKey} {up : Bool}
    {record : HomeserverRecord} (found : log.fetchListing key up = .found record) :
    ∃ event, log.latestEvent key = some event ∧ event.kind = .put record := by
  unfold EventLog.fetchListing at found
  split at found
  · split at found
    · rename_i latest
      cases found
      exact ⟨_, latest, rfl⟩
    · cases found
  · cases found

theorem EventLog.backward_latest {log : EventLog} {key : RecordKey} {limit : ℕ}
    {event : HomeserverEvent}
    (found : (log.backward key.1 (listingRecordPath key.2) limit).find?
      (fun event => event.path == listingRecordPath key.2) = some event) :
    log.latestEvent key = some event := by
  have whole : (log.matching key.1 (listingRecordPath key.2) none).find?
      (fun event => event.path == listingRecordPath key.2) = some event := by
    rw [← List.take_append_drop limit (log.matching key.1 (listingRecordPath key.2) none),
      List.find?_append]
    change (List.find? _ (log.backward key.1 (listingRecordPath key.2) limit)).or _ = _
    rw [found, Option.some_or]
  rw [EventLog.matching, List.find?_filter] at whole
  rw [EventLog.latestEvent, ← whole]
  congr 1
  funext other
  -- the exact path is under itself
  by_cases named : other.path = listingRecordPath key.2
  · have whole : underPath (listingRecordPath key.2) other = true := by
      simp [underPath, named]
    simp only [whole, named, BEq.rfl, Option.all_none, Bool.and_true, and_true,
      Bool.decide_eq_true]
  · simp [named]

end MarketplaceService
