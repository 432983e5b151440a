import MarketplaceService.Homeserver

/-!
The writers of a listing row (`register_listing.rs`, `sync_listing.rs`,
`listing_deletion.rs`) and the triggers they write through (migrations 0050 and
0051). A row is the listing with the columns of its record and of its deletion.
The drop bindings a tombstone releases and the event it inserts are left out,
and so are the refusals that depend on the reserve of an auction: a command may
end without a write at any of its steps.
-/

namespace MarketplaceService

structure ListingRow where
  listing : Listing
  title : String
  contentHash : String
  digitalLock : Option (String × String)
  /-- Counts the record-derived writes the service accepted. -/
  recordEpoch : ℕ
  deletedEventCursor : Option Cursor
  /-- The delete the last revival superseded. -/
  revivedFromCursor : Option Cursor
  /-- `listings_deletion_evidence_check`. -/
  evidence : listing.deletedAt.isSome = deletedEventCursor.isSome
deriving DecidableEq

def ListingRow.isLive (row : ListingRow) : Bool := row.listing.deletedAt.isNone

structure RecordColumns where
  listingRevision : ℕ
  title : String
  contentHash : String
  unitPriceAmountMinor : ℕ
  shippingMinor : ℕ
  fulfillmentMethods : List Fulfillment
  digitalLock : Option (String × String)
deriving DecidableEq, Repr

def ListingRow.record (row : ListingRow) : RecordColumns :=
  { listingRevision := row.listing.listingRevision
    title := row.title
    contentHash := row.contentHash
    unitPriceAmountMinor := row.listing.unitPriceAmountMinor
    shippingMinor := row.listing.shippingMinor
    fulfillmentMethods := row.listing.fulfillmentMethods
    digitalLock := row.digitalLock }

/-! Authority and triggers. -/

/-- The `listing_deletions` row of `worker_leases`. -/
structure Lease where
  holder : ℕ
  leaseUntil : Time
  fence : ℕ
deriving DecidableEq, Repr

inductive DeletionAuthority where
  | command
  | follower (holder fence : ℕ)
deriving DecidableEq, Repr

/-- What a transaction declared with `set_config`. -/
structure Declared where
  authority : Option DeletionAuthority
  observedEpoch : Option ℕ
deriving DecidableEq, Repr

def Declared.nothing : Declared := { authority := none, observedEpoch := none }

/-- `listing_deletion_authority_holds_lease`, or the command's own authority. -/
def DeletionAuthority.holds (lease : Option Lease) : DeletionAuthority → Bool
  | .command => true
  | .follower holder fence => lease.any fun row => row.holder == holder && row.fence == fence

def markerBehind (marker other : Option Cursor) : Bool :=
  other.any fun later => marker.all fun cursor => decide (cursor < later)

/-- `listings_deletion_guard`. `none` is the exception it raises. -/
def deletionGuard (declared : Declared) (lease : Option Lease) (old new : ListingRow) :
    Option ListingRow :=
  if markerBehind new.revivedFromCursor old.revivedFromCursor then none
  else if !old.isLive && new.isLive then
    if markerBehind new.revivedFromCursor old.deletedEventCursor then
      some { new with revivedFromCursor := old.deletedEventCursor }
    else some new
  else if old.isLive && !new.isLive then
    if !(declared.authority.any fun authority => authority.holds lease) then none
    else if declared.observedEpoch ≠ some old.recordEpoch then none
    else if markerBehind new.deletedEventCursor new.revivedFromCursor then none
    else some new
  else some new

/-- `listings_record_epoch`. -/
def recordEpochTrigger (old new : ListingRow) : ListingRow :=
  if (!old.isLive && new.isLive) ∨ new.record ≠ old.record then
    { new with recordEpoch := old.recordEpoch + 1 }
  else if new.recordEpoch ≠ old.recordEpoch + 1 then
    { new with recordEpoch := old.recordEpoch }
  else new

/-- An `UPDATE` of one row of `listings`. -/
def updateListings (declared : Declared) (lease : Option Lease) (old new : ListingRow) :
    Option ListingRow :=
  (deletionGuard declared lease old new).map (recordEpochTrigger old)

/-! The tombstone. -/

structure LiveListing where
  generation : ℕ
  recordEpoch : ℕ
deriving DecidableEq, Repr

def observeLive (row : Option ListingRow) : Option LiveListing :=
  row.bind fun row =>
    if row.isLive then
      some { generation := row.listing.generation, recordEpoch := row.recordEpoch }
    else none

def tombstoneFence (row : ListingRow) (eventCursor : Cursor) (observedEpoch : ℕ) : Bool :=
  row.recordEpoch == observedEpoch && !markerBehind (some eventCursor) row.revivedFromCursor

def ListingRow.deleted (row : ListingRow) (eventCursor : Cursor) (now : Time) : ListingRow :=
  { row with
    listing := { row.listing with
      deletedAt := some now
      serverRevision := row.listing.serverRevision + 1 }
    deletedEventCursor := some eventCursor
    evidence := rfl }

inductive Tombstone where
  | written (row : ListingRow)
  /-- The row is missing, tombstoned or fenced off. -/
  | unmatched
  | raised

/-- `tombstone`. -/
def tombstoneRow (authority : DeletionAuthority) (lease : Option Lease) (row : Option ListingRow)
    (eventCursor : Cursor) (observedEpoch : ℕ) (now : Time) : Tombstone :=
  match row with
  | none => .unmatched
  | some row =>
      if row.isLive && tombstoneFence row eventCursor observedEpoch then
        match updateListings { authority := some authority, observedEpoch := some observedEpoch }
            lease row (row.deleted eventCursor now) with
        | some deleted => .written deleted
        | none => .raised
      else .unmatched

/-! Registration. -/

/-- The row `apply_registration` writes, before the triggers see it. -/
def applyToRow (current : Option ListingRow) (payload : PublicListing) (now : Time) :
    Except Failure ListingRow := do
  let listing ← applyRegistration (current.map ListingRow.listing) payload.terms now
  return {
    listing := { listing with deletedAt := none }
    title := payload.title
    contentHash := payload.contentHash
    digitalLock := payload.digitalLock
    recordEpoch := (current.map ListingRow.recordEpoch).getD 0
    deletedEventCursor := none
    revivedFromCursor := current.bind ListingRow.revivedFromCursor
    evidence := rfl }

inductive RecordPrefetch where
  | notNeeded
  | found (record : HomeserverRecord)
  | notFound
  | unavailable
deriving DecidableEq, Repr

def recordNotFound : Failure :=
  .refused .notFound "The seller's homeserver has no such listing record."

def recordUnavailable : Failure :=
  .refused .upstreamUnavailable
    "The seller's homeserver could not be reached. Try again shortly."

def recordNotInterpreted : Failure :=
  .refused .invalidState
    "The seller's listing record could not be interpreted for registration."

def unlimitedStockQuantity : ℕ := 1000000

def PublicListing.registersUnlimitedCapWithPhysicalMethods (payload : PublicListing) : Bool :=
  payload.terms.quantity == unlimitedStockQuantity &&
    payload.terms.fulfillmentMethods.any fun method => method == .shipping || method == .pickup

def unlimitedCapRefusal : Failure :=
  .refused .invalidState
    ("1000000 is reserved for unlimited digital stock; " ++
      "a listing that ships or offers pickup cannot register it.")

/-- `refuse_unlimited_cap`: only a Locks payload that its record derives is
exempt. -/
def refuseUnlimitedCap (payload : PublicListing) (prefetched : RecordPrefetch) : Option Failure :=
  if !payload.registersUnlimitedCapWithPhysicalMethods then none
  else if payload.digitalLock.isNone then some unlimitedCapRefusal
  else
    match prefetched with
    | .found record =>
        if record.publishesPhysicalFulfillment then some unlimitedCapRefusal
        else if (record.registration payload.terms.sellerPubky).any fun candidate =>
            candidate.terms.fulfillmentMethods == payload.terms.fulfillmentMethods &&
            candidate.digitalLock == payload.digitalLock &&
            candidate.terms.quantity == payload.terms.quantity &&
            candidate.terms.listingRevision == payload.terms.listingRevision &&
            candidate.contentHash == payload.contentHash then none
        else some unlimitedCapRefusal
    | .notFound => some recordNotFound
    | .unavailable => some recordUnavailable
    | .notNeeded => some unlimitedCapRefusal

def refuseRevivalWithoutRecord : RecordPrefetch → Option Failure
  | .found _ => none
  | .notFound => some recordNotFound
  | .unavailable => some recordUnavailable
  | .notNeeded =>
      some (.refused .invalidState
        "This listing was deleted. Publish its record again to re-create it.")

def refuseAuctionWithoutRecord (payload : PublicListing) : RecordPrefetch → Option Failure
  | .found record =>
      match record.registration payload.terms.sellerPubky with
      | some candidate =>
          if candidate = payload then none
          else
            some (.refused .revisionConflict
              "The public listing candidate does not match the registration command.")
      | none => some recordNotInterpreted
  | .notFound => some recordNotFound
  | .unavailable => some recordUnavailable
  | .notNeeded =>
      some (.refused .invalidCommand "Listing registration is not enabled on this deployment.")

def recreatedAuctionRefused : Failure :=
  .refused .invalidState "This listing id was deleted. Publish the auction under a new id."

def sellerRegistrationRequired : Failure :=
  .refused .invalidState
    "The seller must register this auction with its private reserve authority."

def needsPublicRecord (payload : PublicListing) : Bool :=
  payload.terms.saleFormat == .auction ||
    (payload.digitalLock.isSome && payload.registersUnlimitedCapWithPhysicalMethods)

/-- `listing.register` on the row it locked. -/
def registerRow (current : Option ListingRow) (payload : PublicListing) (sender : Sender)
    (prefetched : RecordPrefetch) (now : Time) : Except Failure ListingRow :=
  if sender.actor ≠ payload.terms.sellerPubky then
    .error (.refused .unauthorized "Only the listing seller may register inventory.")
  else if let some refusal := refuseUnlimitedCap payload prefetched then .error refusal
  else if let some refusal :=
      if payload.terms.saleFormat = .auction then refuseAuctionWithoutRecord payload prefetched
      else none then
    .error refusal
  else
    let revision := (current.map fun row => row.listing.serverRevision).getD 0
    let reviving := current.any fun row => !row.isLive
    if sender.expectedRevision ≠ revision ∧ !(reviving && sender.expectedRevision == 0) then
      .error revisionStale
    else if reviving ∧ (payload.terms.saleFormat ≠ .fixedPrice ∨
        current.any fun row => row.listing.saleFormat ≠ .fixedPrice) then
      .error recreatedAuctionRefused
    else if let some refusal :=
        if reviving then refuseRevivalWithoutRecord prefetched else none then
      .error refusal
    else if !reviving && current.any fun row =>
        payload.terms.listingRevision ≤ row.listing.listingRevision then
      .error (.refused .revisionConflict "The public listing revision must advance.")
    else if current.any fun row => row.listing.saleFormat ≠ payload.terms.saleFormat then
      .error (.refused .invalidState
        "The listing sale format cannot change after registration.")
    else applyToRow current payload now

/-- An equal revision heals the columns the service derives from the record. -/
def ListingRow.healed (row : ListingRow) (payload : PublicListing) : ListingRow :=
  { row with
    listing := { row.listing with
      serverRevision := row.listing.serverRevision + 1
      shippingMinor := payload.terms.shippingMinor
      fulfillmentMethods := payload.terms.fulfillmentMethods }
    digitalLock := payload.digitalLock }

/-- `confirm_record`. -/
def ListingRow.confirmed (row : ListingRow) : ListingRow :=
  { row with recordEpoch := row.recordEpoch + 1 }

/-- The registration `listing.sync` derives from the record it fetched. -/
def syncPayload (record : HomeserverRecord) (seller : Pubky) : Except Failure PublicListing :=
  match record.registration seller with
  | none => .error recordNotInterpreted
  | some payload =>
      if payload.registersUnlimitedCapWithPhysicalMethods &&
          record.publishesPhysicalFulfillment then
        .error unlimitedCapRefusal
      else .ok payload

/-- `listing.sync` of a record that was found, on the row it locked. -/
def syncRow (current : Option ListingRow) (payload : PublicListing) (now : Time) :
    Except Failure ListingRow :=
  match current with
  | none =>
      if payload.terms.saleFormat = .auction then .error sellerRegistrationRequired
      else applyToRow none payload now
  | some row =>
      if !row.isLive then
        if row.listing.saleFormat ≠ .fixedPrice ∨ payload.terms.saleFormat ≠ .fixedPrice then
          .error recreatedAuctionRefused
        else applyToRow (some row) payload now
      else if row.listing.saleFormat = .auction then
        if payload.terms.saleFormat ≠ .auction ∨
            row.listing.listingRevision < payload.terms.listingRevision then
          .error sellerRegistrationRequired
        else .ok row.confirmed
      else if payload.terms.saleFormat = .auction then .error sellerRegistrationRequired
      else if row.listing.listingRevision < payload.terms.listingRevision then
        applyToRow (some row) payload now
      else if payload.terms.listingRevision = row.listing.listingRevision ∧
          (payload.terms.shippingMinor ≠ row.listing.shippingMinor ∨
            payload.terms.fulfillmentMethods ≠ row.listing.fulfillmentMethods ∨
            payload.digitalLock ≠ row.digitalLock) then
        .ok (row.healed payload)
      else .ok row.confirmed

/-- The write of a registration or a sync: a new row is inserted at epoch 0, a
known one passes the triggers. -/
def storeRow (lease : Option Lease) (current : Option ListingRow) (row : ListingRow) :
    Option ListingRow :=
  match current with
  | none => some { row with recordEpoch := 0 }
  | some old => updateListings .nothing lease old row

end MarketplaceService
