import Mathlib.Data.PNat.Basic
import MarketplaceService.DigitalDelivery
import MarketplaceService.Lib.TableImage
import MarketplaceService.ResealPass

/-!
The sealed rows of digital delivery (`digital.rs`, `handlers/digital.rs`,
`handlers/digital_orders.rs`, `handlers/digital_manual.rs`): deliverable
versions, order pins and buyer emails, with their writers and the re-seal pass
over them.

The tables are generic in what stands in a payload column. Sealed, it is a
ciphertext; opened, it is the plaintext or nothing where a row does not open.
A writer is one transaction. It stands here with the checks on these tables'
rows; the checks on listings and orders only refuse, and a refusal writes
nothing. Which orders still count for a deletion or a purge is an input, as
other commands decide it. Ids come from sequences: a value is given out once.
-/

namespace MarketplaceService

def textBytes (text : String) : Bytes := text.toList.flatMap String.utf8EncodeChar

def DigitalDeliveryKind.asStr : DigitalDeliveryKind → String
  | .file => "file"
  | .link => "link"
  | .text => "text"
  | .email => "email"
  | .message => "message"

def versionAad (listing : ListingId) (deliverableId : String) (version : ℕ)
    (kind : DigitalDeliveryKind) : Bytes :=
  textBytes ("digital-version/v1|" ++ listing ++ "|" ++ deliverableId ++ "|" ++ toString version ++
    "|" ++ kind.asStr)

def pinAad (order : OrderId) (lineIndex : ℕ) (listing : ListingId) (deliverableId : String)
    (version : ℕ) : Bytes :=
  textBytes ("digital-pin/v1|" ++ toString order ++ "|" ++ toString lineIndex ++ "|" ++ listing ++
    "|" ++ deliverableId ++ "|" ++ toString version)

def emailAad (order : OrderId) (buyerPubky : Pubky) : Bytes :=
  textBytes ("buyer-email/v1|" ++ toString order ++ "|" ++ buyerPubky)

/-- How a payload gets into a column and out of it: nonce, associated data and
plaintext. -/
structure Coder (π : Type) where
  sealPayload : XNonce → Bytes → Bytes → π
  openPayload : Bytes → π → Option Bytes

def sealedCoder (aead : Aead) (keys : RotatingKeys) : Coder Bytes where
  sealPayload := keys.sealBytes aead
  openPayload := keys.openSealed aead

/-- Nothing is sealed; a row that does not open holds nothing. -/
def plainCoder : Coder (Option Bytes) where
  sealPayload _ _ plaintext := some plaintext
  openPayload _ payload := payload

inductive SealedFamily where
  | version
  | pin
  | email
deriving DecidableEq, Repr

def SealedFamily.all : List SealedFamily := [.version, .pin, .email]

/-- A row of `listing_digital_versions`. -/
structure SealedVersion (π : Type) where
  listing : ListingId
  deliverableId : String
  version : ℕ
  kind : DigitalDeliveryKind
  payload : π
  supersededAt : Option Time

/-- A row of `order_digital_pins`. -/
structure SealedPin (π : Type) where
  order : OrderId
  lineIndex : ℕ
  listing : ListingId
  deliverableId : String
  version : ℕ
  kind : DigitalDeliveryKind
  payload : π

/-- A row of `order_delivery_emails`. -/
structure SealedEmail (π : Type) where
  order : OrderId
  buyerPubky : Pubky
  email : Option π
  purgedAt : Option Time

def SealedVersion.aad {π : Type} (row : SealedVersion π) : Bytes :=
  versionAad row.listing row.deliverableId row.version row.kind

def SealedPin.aad {π : Type} (row : SealedPin π) : Bytes :=
  pinAad row.order row.lineIndex row.listing row.deliverableId row.version

def SealedEmail.aad {π : Type} (row : SealedEmail π) : Bytes :=
  emailAad row.order row.buyerPubky

structure DigitalVault (π : Type) where
  versions : Keyed.Table ℕ+ (SealedVersion π)
  counters : Keyed.Table ListingId DigitalCounter
  pins : Keyed.Table ℕ+ (SealedPin π)
  emails : Keyed.Table ℕ+ (SealedEmail π)
  drawn : SealedFamily → List ℕ+

/-- One line of `pin_digital_lines`, with the id and the nonce it draws. -/
structure PinnedLine where
  lineIndex : ℕ
  listing : ListingId
  kind : DigitalDeliveryKind
  id : ℕ+
  nonce : XNonce

/-- The writers. `live` and `due` say of the orders what the statement reads of
them. -/
inductive DigitalWriter where
  | set (listing : ListingId) (expectedVersion : ℕ) (kind : DigitalDeliveryKind)
      (deliverableId : String) (payload : Bytes) (nonce : XNonce) (id : ℕ+)
      (live : OrderId → Bool) (now : Time)
  | clear (listing : ListingId) (expectedVersion : ℕ) (live : OrderId → Bool) (now : Time)
  | pinDigitalLines (order : OrderId) (lines : List PinnedLine)
  | storeDeliveryEmail (order : OrderId) (email : Bytes) (nonce : XNonce) (id : ℕ+) (now : Time)
  | purgeDeliveryEmails (due : OrderId → Bool) (now : Time)

namespace DigitalVault

variable {π : Type}

def draw (vault : DigitalVault π) (family : SealedFamily) (id : ℕ+) : SealedFamily → List ℕ+ :=
  Function.update vault.drawn family (id :: vault.drawn family)

def lockCounterCas (vault : DigitalVault π) (listing : ListingId) (expectedVersion : ℕ) :
    Option ℕ :=
  let last := ((vault.counters.find? listing).map DigitalCounter.lastVersion).getD 0
  if last = expectedVersion then some last else none

def currentVersion (vault : DigitalVault π) (listing : ListingId) : Option (SealedVersion π) :=
  (vault.versions.rows.find? fun row =>
    row.2.listing == listing && row.2.supersededAt.isNone).map Prod.snd

def pinnedByLive (vault : DigitalVault π) (live : OrderId → Bool) (row : SealedVersion π) : Bool :=
  vault.pins.rows.any fun pin =>
    pin.2.listing == row.listing && pin.2.version == row.version && live pin.2.order

def supersedeVersions (vault : DigitalVault π) (listing : ListingId) (live : OrderId → Bool)
    (now : Time) : Keyed.Table ℕ+ (SealedVersion π) :=
  (vault.versions.mapRows fun _ row =>
    if row.listing = listing ∧ row.supersededAt = none then { row with supersededAt := some now }
    else row).keepRows fun _ row =>
      !(row.listing == listing && row.supersededAt.isSome && !vault.pinnedByLive live row)

def set (coder : Coder π) (vault : DigitalVault π) (listing : ListingId) (expectedVersion : ℕ)
    (kind : DigitalDeliveryKind) (deliverableId : String) (payload : Bytes) (nonce : XNonce)
    (id : ℕ+) (live : OrderId → Bool) (now : Time) : Option (DigitalVault π) :=
  if id ∈ vault.drawn .version then none
  else
    (vault.lockCounterCas listing expectedVersion).map fun last =>
      { vault with
        versions := (vault.supersedeVersions listing live now).set id
          { listing
            deliverableId
            version := last + 1
            kind
            payload := coder.sealPayload nonce (versionAad listing deliverableId (last + 1) kind)
              payload
            supersededAt := none }
        counters := vault.counters.set listing { lastVersion := last + 1, clearedAt := none }
        drawn := vault.draw .version id }

def clear (vault : DigitalVault π) (listing : ListingId) (expectedVersion : ℕ)
    (live : OrderId → Bool) (now : Time) : Option (DigitalVault π) :=
  (vault.lockCounterCas listing expectedVersion).map fun last =>
    { vault with
      versions := vault.supersedeVersions listing live now
      counters := vault.counters.set listing { lastVersion := last, clearedAt := some now } }

/-- One line of `pin_digital_lines`. An order whose line has no version of its
kind is `unpinnable` and never gets here. -/
def pinLine (coder : Coder π) (order : OrderId) (vault : DigitalVault π) (line : PinnedLine) :
    Option (DigitalVault π) :=
  if line.id ∈ vault.drawn .pin ∨
      (vault.pins.rows.any fun pin =>
        pin.2.order == order && pin.2.lineIndex == line.lineIndex) then
    none
  else
    match vault.currentVersion line.listing with
    | none => none
    | some current =>
        if current.kind ≠ line.kind then none
        else
          (coder.openPayload current.aad current.payload).map fun plaintext =>
            { vault with
              pins := vault.pins.set line.id
                { order
                  lineIndex := line.lineIndex
                  listing := line.listing
                  deliverableId := current.deliverableId
                  version := current.version
                  kind := line.kind
                  payload := coder.sealPayload line.nonce
                    (pinAad order line.lineIndex line.listing current.deliverableId current.version)
                    plaintext }
              drawn := vault.draw .pin line.id }

/-- `store_delivery_email`; both callers pass the order's buyer. -/
def storeDeliveryEmail (buyer : OrderId → Pubky) (coder : Coder π) (vault : DigitalVault π)
    (order : OrderId) (email : Bytes) (nonce : XNonce) (id : ℕ+) : Option (DigitalVault π) :=
  let sealedEmail := coder.sealPayload nonce (emailAad order (buyer order)) email
  match vault.emails.rows.find? fun row => row.2.order == order with
  | some row =>
      some { vault with
        emails := vault.emails.set row.1
          { row.2 with email := some sealedEmail, purgedAt := none } }
  | none =>
      if id ∈ vault.drawn .email then none
      else
        some { vault with
          emails := vault.emails.set id
            { order, buyerPubky := buyer order, email := some sealedEmail, purgedAt := none }
          drawn := vault.draw .email id }

def purgeDeliveryEmails (vault : DigitalVault π) (due : OrderId → Bool) (now : Time) :
    DigitalVault π :=
  { vault with
    emails := vault.emails.mapRows fun _ row =>
      if row.email.isSome && due row.order then { row with email := none, purgedAt := some now }
      else row }

def apply (buyer : OrderId → Pubky) (coder : Coder π) (vault : DigitalVault π) :
    DigitalWriter → Option (DigitalVault π)
  | .set listing expectedVersion kind deliverableId payload nonce id live now =>
      vault.set coder listing expectedVersion kind deliverableId payload nonce id live now
  | .clear listing expectedVersion live now => vault.clear listing expectedVersion live now
  | .pinDigitalLines order lines => lines.foldlM (pinLine coder order) vault
  | .storeDeliveryEmail order email nonce id _ =>
      vault.storeDeliveryEmail buyer coder order email nonce id
  | .purgeDeliveryEmails due now => some (vault.purgeDeliveryEmails due now)

def empty : DigitalVault π where
  versions := .empty
  counters := .empty
  pins := .empty
  emails := .empty
  drawn _ := []

end DigitalVault

structure SealedRow where
  id : ℕ+
  aad : Bytes
  ciphertext : Bytes
deriving DecidableEq

namespace DigitalVault

/-- `family_rows`, before they are ordered and cut. -/
def familyRows (vault : DigitalVault Bytes) : SealedFamily → List SealedRow
  | .version => vault.versions.rows.map fun row => ⟨row.1, row.2.aad, row.2.payload⟩
  | .pin => vault.pins.rows.map fun row => ⟨row.1, row.2.aad, row.2.payload⟩
  | .email => vault.emails.rows.filterMap fun row =>
      row.2.email.map fun ciphertext => ⟨row.1, row.2.aad, ciphertext⟩

/-- `write_resealed`: only where the ciphertext that was read still stands. -/
def writeResealed (vault : DigitalVault Bytes) (family : SealedFamily) (read : SealedRow)
    (resealed : Bytes) : DigitalVault Bytes × Bool :=
  match family with
  | .version =>
      match vault.versions.find? read.id with
      | some row =>
          if row.payload = read.ciphertext then
            ({ vault with versions := vault.versions.set read.id { row with payload := resealed } },
              true)
          else (vault, false)
      | none => (vault, false)
  | .pin =>
      match vault.pins.find? read.id with
      | some row =>
          if row.payload = read.ciphertext then
            ({ vault with pins := vault.pins.set read.id { row with payload := resealed } }, true)
          else (vault, false)
      | none => (vault, false)
  | .email =>
      match vault.emails.find? read.id with
      | some row =>
          if row.email = some read.ciphertext then
            ({ vault with emails := vault.emails.set read.id { row with email := some resealed } },
              true)
          else (vault, false)
      | none => (vault, false)

end DigitalVault

def digitalTarget : ResealTarget (DigitalVault Bytes) SealedFamily SealedRow ℕ where
  families := SealedFamily.all
  start := some 0
  rows := DigitalVault.familyRows
  position row := row.id
  aad := SealedRow.aad
  ciphertext := SealedRow.ciphertext
  write := DigitalVault.writeResealed
  countBatch := some resealBatchSize

end MarketplaceService
