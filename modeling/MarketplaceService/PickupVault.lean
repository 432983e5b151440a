import Mathlib.Data.Prod.Lex
import Mathlib.Data.String.Basic
import Mathlib.Data.Sum.Order
import MarketplaceService.DigitalVault
import MarketplaceService.PickupTerms

/-!
The sealed rows of local pickup (`pickup.rs`, `handlers/pickup.rs`, migration
`0020_local_pickup.sql`): the versions of a listing's pickup details and the
snapshots that a confirmation pins to order lines, with their writers and the
re-seal pass over them.

As with the digital rows, a payload column is generic, a writer is one
transaction with the checks on these tables, and which orders count is an input.
A receipt transaction runs once for an order, so `confirmed` remembers the orders
that were pinned.
-/

namespace MarketplaceService

def detailsAad (listing : ListingId) (version : ℕ) : Bytes :=
  textBytes (listing ++ "\n" ++ toString version)

def uuidBytes (order : OrderId) : Bytes :=
  (List.range 16).map fun index => UInt8.ofNat (order / 256 ^ (15 - index))

def snapshotAad (order : OrderId) (lineIndex version : ℕ) : Bytes :=
  uuidBytes order ++ textBytes ("\n" ++ toString lineIndex ++ "\n" ++ toString version)

/-- A row of `pickup_line_snapshots`. -/
structure SealedSnapshot (π : Type) where
  listing : ListingId
  version : ℕ
  snapshot : π

/-- `listing_pickup_details` by listing and version, and the snapshots by order
and line. -/
structure PickupVault (π : Type) where
  details : Keyed.Table (ListingId × ℕ) π
  counters : Keyed.Table ListingId PickupCounter
  snapshots : Keyed.Table (OrderId × ℕ) (SealedSnapshot π)
  confirmed : List OrderId

/-- The writers. `live` and `due` say of the orders what the statement reads of
them. -/
inductive PickupWriter where
  | set (listing : ListingId) (expectedVersion : ℕ) (details : Bytes) (nonce : XNonce)
  | clear (listing : ListingId) (expectedVersion : ℕ) (live : OrderId → Bool) (now : Time)
  | pinPickupLines (order : OrderId) (lines : List (ℕ × ListingId × XNonce))
  | purgeSnapshots (due : OrderId → Bool)
  | purgeVersions

namespace PickupVault

variable {π : Type}

def lastVersion (vault : PickupVault π) (listing : ListingId) : ℕ :=
  ((vault.counters.find? listing).map PickupCounter.lastVersion).getD 0

def cleared (vault : PickupVault π) (listing : ListingId) : Bool :=
  ((vault.counters.find? listing).bind PickupCounter.clearedAt).isSome

def maxVersion (vault : PickupVault π) (listing : ListingId) : Option ℕ :=
  ((vault.details.rows.filter fun row => row.1.1 == listing).map fun row => row.1.2).max?

def currentDetails (vault : PickupVault π) (listing : ListingId) : Option (ℕ × π) :=
  if vault.cleared listing then none
  else
    (vault.maxVersion listing).bind fun version =>
      (vault.details.find? (listing, version)).map fun details => (version, details)

def lockCounterCas (vault : PickupVault π) (listing : ListingId) (expectedVersion : ℕ) :
    Option ℕ :=
  if vault.lastVersion listing = expectedVersion then some (vault.lastVersion listing) else none

def set (coder : Coder π) (vault : PickupVault π) (listing : ListingId) (expectedVersion : ℕ)
    (details : Bytes) (nonce : XNonce) : Option (PickupVault π) :=
  (vault.lockCounterCas listing expectedVersion).bind fun last =>
    if (vault.details.find? (listing, last + 1)).isSome then none
    else
      some { vault with
        details := vault.details.set (listing, last + 1)
          (coder.sealPayload nonce (detailsAad listing (last + 1)) details)
        counters := vault.counters.set listing { lastVersion := last + 1, clearedAt := none } }

/-- A version that the snapshot of such an order refers to. -/
def referenced (vault : PickupVault π) (counts : OrderId → Bool) (key : ListingId × ℕ) : Bool :=
  vault.snapshots.rows.any fun row =>
    row.2.listing == key.1 && row.2.version == key.2 && counts row.1.1

def clear (vault : PickupVault π) (listing : ListingId) (expectedVersion : ℕ)
    (live : OrderId → Bool) (now : Time) : Option (PickupVault π) :=
  (vault.lockCounterCas listing expectedVersion).map fun last =>
    { vault with
      details := vault.details.keepRows fun key _ => key.1 != listing || vault.referenced live key
      counters := vault.counters.set listing { lastVersion := last, clearedAt := some now } }

/-- One line of `pin_pickup_lines`. A line without current details pins nothing,
and a pinned line keeps its snapshot. -/
def pinLine (coder : Coder π) (order : OrderId) (vault : PickupVault π)
    (line : ℕ × ListingId × XNonce) : Option (PickupVault π) :=
  match vault.currentDetails line.2.1 with
  | none => some vault
  | some (version, details) =>
      (coder.openPayload (detailsAad line.2.1 version) details).map fun plaintext =>
        if (vault.snapshots.find? (order, line.1)).isSome then vault
        else
          { vault with
            snapshots := vault.snapshots.set (order, line.1)
              { listing := line.2.1
                version
                snapshot := coder.sealPayload line.2.2 (snapshotAad order line.1 version)
                  plaintext } }

/-- `pin_pickup_lines` in its receipt transaction. -/
def pinPickupLines (coder : Coder π) (vault : PickupVault π) (order : OrderId)
    (lines : List (ℕ × ListingId × XNonce)) : Option (PickupVault π) :=
  if order ∈ vault.confirmed then none
  else lines.foldlM (pinLine coder order) { vault with confirmed := order :: vault.confirmed }

/-- The first statement of `purge_terminal_pickup_retention`. -/
def purgeSnapshots (vault : PickupVault π) (due : OrderId → Bool) : PickupVault π :=
  { vault with snapshots := vault.snapshots.keepRows fun key _ => !due key.1 }

/-- Its second statement. -/
def purgeVersions (vault : PickupVault π) : PickupVault π :=
  { vault with
    details := vault.details.keepRows fun key _ =>
      vault.referenced (fun _ => true) key ||
        !(vault.cleared key.1 || (vault.maxVersion key.1).any fun latest => key.2 < latest) }

def apply (coder : Coder π) (vault : PickupVault π) : PickupWriter → Option (PickupVault π)
  | .set listing expectedVersion details nonce =>
      vault.set coder listing expectedVersion details nonce
  | .clear listing expectedVersion live now => vault.clear listing expectedVersion live now
  | .pinPickupLines order lines => vault.pinPickupLines coder order lines
  | .purgeSnapshots due => some (vault.purgeSnapshots due)
  | .purgeVersions => some vault.purgeVersions

def empty : PickupVault π where
  details := .empty
  counters := .empty
  snapshots := .empty
  confirmed := []

end PickupVault

inductive PickupFamily where
  | details
  | snapshot
deriving DecidableEq, Repr

/-- The keys the families are paged by: listing and version, order and line. -/
inductive PickupPosition where
  | details (key : ListingId × ℕ)
  | snapshot (key : OrderId × ℕ)
deriving DecidableEq

def PickupPosition.rank : PickupPosition → (ListingId ×ₗ ℕ) ⊕ₗ (OrderId ×ₗ ℕ)
  | .details key => toLex (.inl (toLex key))
  | .snapshot key => toLex (.inr (toLex key))

theorem PickupPosition.rank_injective : Function.Injective PickupPosition.rank := by
  intro first second same
  cases first with
  | details key =>
      cases second with
      | details other => exact congrArg _ (Sum.inl.inj same)
      | snapshot other => cases same
  | snapshot key =>
      cases second with
      | details other => cases same
      | snapshot other => exact congrArg _ (Sum.inr.inj same)

def PickupPosition.family : PickupPosition → PickupFamily
  | .details _ => .details
  | .snapshot _ => .snapshot

/-- Within a family, the order of the table's key. -/
instance : LinearOrder PickupPosition :=
  LinearOrder.lift' PickupPosition.rank PickupPosition.rank_injective

structure PickupRow where
  position : PickupPosition
  version : ℕ
  ciphertext : Bytes

def PickupPosition.aad (position : PickupPosition) (version : ℕ) : Bytes :=
  match position with
  | .details key => detailsAad key.1 version
  | .snapshot key => snapshotAad key.1 key.2 version

namespace PickupVault

def familyRows (vault : PickupVault Bytes) : PickupFamily → List PickupRow
  | .details => vault.details.rows.map fun row => ⟨.details row.1, row.1.2, row.2⟩
  | .snapshot =>
      vault.snapshots.rows.map fun row => ⟨.snapshot row.1, row.2.version, row.2.snapshot⟩

/-- The write of the pickup pass: by listing and version, or by order, line and
version. It does not look at the ciphertext it replaces. -/
def writeResealed (vault : PickupVault Bytes) (_ : PickupFamily) (read : PickupRow)
    (resealed : Bytes) : PickupVault Bytes × Bool :=
  match read.position with
  | .details key =>
      match vault.details.find? key with
      | some _ => ({ vault with details := vault.details.set key resealed }, true)
      | none => (vault, true)
  | .snapshot key =>
      match vault.snapshots.find? key with
      | some row =>
          if row.version = read.version then
            ({ vault with snapshots := vault.snapshots.set key { row with snapshot := resealed } },
              true)
          else (vault, true)
      | none => (vault, true)

end PickupVault

def pickupTarget : ResealTarget (PickupVault Bytes) PickupFamily PickupRow PickupPosition where
  families := [.details, .snapshot]
  start := none
  rows := PickupVault.familyRows
  position := PickupRow.position
  aad row := row.position.aad row.version
  ciphertext := PickupRow.ciphertext
  write := PickupVault.writeResealed
  countBatch := none

end MarketplaceService
