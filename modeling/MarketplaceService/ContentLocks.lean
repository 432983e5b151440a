import MarketplaceService.Lib.Base32
import MarketplaceService.Lib.CanonicalJson
import MarketplaceService.LockTimestamps

/-!
Content locks: the typed document of a lock, the canonical bytes that its value is
written as, and the id that is their hash.
-/

namespace MarketplaceService.ContentLocks

open CalendarTime (OffsetDateTime)
open Serde

/-- Keys, JSON texts and hashes as their packages have them. A JSON text in canonical
form spells the canonical document, in which each number is the one that it is
written as. -/
structure Packages where
  parsePublicKey : String → Option String
  reread : Number → Number
  toVec : Value → Option (List UInt8)
  fromSlice : List UInt8 → Option Value
  blake3 : List UInt8 → Base32.Bytes
  parsePublicKey_display : ∀ {text key}, parsePublicKey text = some key →
    parsePublicKey key = some key
  fromSlice_toVec : ∀ {document bytes}, toVec document = some bytes →
    fromSlice bytes = some (document.canonical reread)

abbrev U16 := Bounded 0 (2 ^ 16 - 1)

abbrev U64 := Bounded 0 (2 ^ 64 - 1)

/-- `PubkyIdentity`, in its normal form. -/
abbrev PubkyIdentity (packages : Packages) :=
  { key : String // packages.parsePublicKey key = some key }

def PubkyIdentity.parse (packages : Packages) (text : String) : Option (PubkyIdentity packages) :=
  match parsed : packages.parsePublicKey text with
  | some key => some ⟨key, packages.parsePublicKey_display parsed⟩
  | none => none

theorem PubkyIdentity.parse_own {packages : Packages} (identity : PubkyIdentity packages) :
    PubkyIdentity.parse packages identity.val = some identity := by
  unfold PubkyIdentity.parse
  split
  case h_1 key parsed =>
    rw [identity.property] at parsed
    exact congrArg some (Subtype.ext (Option.some.inj parsed).symm)
  case h_2 parsed =>
    rw [identity.property] at parsed
    cases parsed

abbrev GuardedResourceHash := { bytes : Base32.Bytes // bytes.length = 32 }

def GuardedResourceHash.format (hash : GuardedResourceHash) : String :=
  String.ofList (Base32.encode hash.val)

def GuardedResourceHash.parse (text : String) : Option GuardedResourceHash :=
  match Base32.decode text.toList with
  | some decoded => if long : decoded.length = 32 then some ⟨decoded, long⟩ else none
  | none => none

theorem GuardedResourceHash.parse_format (hash : GuardedResourceHash) :
    GuardedResourceHash.parse hash.format = some hash := by
  unfold GuardedResourceHash.parse GuardedResourceHash.format
  rw [String.toList_ofList, Base32.decode_encode]
  exact dif_pos hash.property

structure GuardedResource where
  path : String
  hash : GuardedResourceHash
  contentType : String
  size : U64

structure SecondaryGuardedResource where
  hash : GuardedResourceHash
  contentType : String
  size : U64
deriving DecidableEq

inductive VerifierType where
  | devStatic
  | paykitPayment

structure Criterion where
  criterionId : String
  verifierType : VerifierType
  params : OrderedValue

inductive LockLogic where
  | all (criteria : List String)
  | any (criteria : List String)

structure AccessPolicy where
  requestedCredentialTtlSeconds : U64

structure LockServerConfig (packages : Packages) where
  override : Option (PubkyIdentity packages)

structure LockOf (packages : Packages) (τ : Type) where
  version : U16
  creator : PubkyIdentity packages
  primaryResource : Option GuardedResource
  secondaryResources : Dictionary SecondaryGuardedResource
  criteria : List Criterion
  lockLogic : LockLogic
  accessPolicy : AccessPolicy
  lockServer : LockServerConfig packages
  createdAt : τ

abbrev ContentLock (packages : Packages) := LockOf packages OffsetDateTime

def LockOf.dated {packages : Packages} {τ σ : Type} (lock : LockOf packages τ) (time : σ) :
    LockOf packages σ :=
  ⟨lock.version, lock.creator, lock.primaryResource, lock.secondaryResources, lock.criteria,
    lock.lockLogic, lock.accessPolicy, lock.lockServer, time⟩

/-- `PartialEq`, by which the same instant in two offsets is the same. -/
def ContentLock.Same {packages : Packages} (lock other : ContentLock packages) : Prop :=
  lock.dated () = other.dated () ∧ lock.createdAt.instant = other.createdAt.instant

/-! The wire. -/

def pubkyIdentity (packages : Packages) : Codec (PubkyIdentity packages) :=
  spelled Subtype.val (PubkyIdentity.parse packages) PubkyIdentity.parse_own

def guardedResourceHash : Codec GuardedResourceHash :=
  spelled GuardedResourceHash.format GuardedResourceHash.parse GuardedResourceHash.parse_format

def guardedResourceFields : Fields GuardedResource :=
  (Fields.cons (required "path" text) <|
    Fields.cons (required "hash" guardedResourceHash) <|
    Fields.cons (required "content_type" text) <|
    Fields.cons (required "size" (bounded 0 (2 ^ 64 - 1))) Fields.nil).as
  (fun (path, hash, contentType, size, _) => ⟨path, hash, contentType, size⟩)
  (fun resource => (resource.path, resource.hash, resource.contentType, resource.size, ()))
  (fun _ => rfl)

def secondaryGuardedResourceFields : Fields SecondaryGuardedResource :=
  (Fields.cons (required "hash" guardedResourceHash) <|
    Fields.cons (required "content_type" text) <|
    Fields.cons (required "size" (bounded 0 (2 ^ 64 - 1))) Fields.nil).as
  (fun (hash, contentType, size, _) => ⟨hash, contentType, size⟩)
  (fun resource => (resource.hash, resource.contentType, resource.size, ()))
  (fun _ => rfl)

def VerifierType.name : VerifierType → String
  | .devStatic => "dev-static"
  | .paykitPayment => "paykit-payment"

def VerifierType.ofName : String → Option VerifierType
  | "dev-static" => some .devStatic
  | "paykit-payment" => some .paykitPayment
  | _ => none

def verifierType : Codec VerifierType :=
  enumeration VerifierType.name VerifierType.ofName (by rintro (_ | _) <;> rfl)

def criterionFields : Fields Criterion :=
  (Fields.cons (required "criterion_id" text) <|
    Fields.cons (required "verifier_type" verifierType) <|
    Fields.cons (required "params" verbatim) Fields.nil).as
  (fun (criterionId, verifierType, params, _) => ⟨criterionId, verifierType, params⟩)
  (fun criterion => (criterion.criterionId, criterion.verifierType, criterion.params, ()))
  (fun _ => rfl)

def logicFields : Fields (List String) :=
  (Fields.cons (required "criteria" (list text)) Fields.nil).as
  (fun (criteria, _) => criteria) (fun criteria => (criteria, ())) (fun _ => rfl)

def LockLogic.write : LockLogic → String × List (String × Value)
  | .all criteria => ("all", logicFields.encode criteria)
  | .any criteria => ("any", logicFields.encode criteria)

def LockLogic.variant : String → Option (Variant LockLogic)
  | "all" => some (logicFields.variant .all)
  | "any" => some (logicFields.variant .any)
  | _ => none

theorem LockLogic.write_untagged (logic : LockLogic) :
    ∀ entry ∈ logic.write.2, entry.1 ≠ "type" := by
  have named (criteria : List String) :
      ∀ entry ∈ logicFields.encode criteria, entry.1 ≠ "type" := by
    intro entry member same
    have listed := logicFields.encode_named criteria entry member
    rw [same] at listed
    exact absurd listed (of_decide_eq_true rfl)
  cases logic with
  | all criteria => exact named criteria
  | any criteria => exact named criteria

theorem LockLogic.variant_write (logic : LockLogic) :
    ∃ variant, LockLogic.variant logic.write.1 = some variant ∧
      variant.decodeObject logic.write.2 = some logic := by
  cases logic with
  | all criteria => exact ⟨_, rfl, logicFields.variant_encode _ criteria⟩
  | any criteria => exact ⟨_, rfl, logicFields.variant_encode _ criteria⟩

def lockLogic : Codec LockLogic :=
  tagged ⟨"type", LockLogic.write, LockLogic.variant, LockLogic.write_untagged,
    LockLogic.variant_write⟩

def accessPolicyFields : Fields AccessPolicy :=
  (Fields.cons (required "requested_credential_ttl_seconds" (bounded 0 (2 ^ 64 - 1)))
    Fields.nil).as
  (fun (seconds, _) => ⟨seconds⟩) (fun policy => (policy.requestedCredentialTtlSeconds, ()))
  (fun _ => rfl)

def lockServerConfigFields (packages : Packages) : Fields (LockServerConfig packages) :=
  (Fields.cons (present "override"
    (nullable (pubkyIdentity packages) (spelled_solid _ _ _))) Fields.nil).as
  (fun (identity, _) => ⟨identity⟩) (fun config => (config.override, ())) (fun _ => rfl)

def noSecondaryResources : Dictionary SecondaryGuardedResource := ⟨[], List.Pairwise.nil⟩

def lockFields (packages : Packages) : Fields (LockOf packages String) :=
  (Fields.cons (required "version" (bounded 0 (2 ^ 16 - 1))) <|
    Fields.cons (required "creator" (pubkyIdentity packages)) <|
    Fields.cons (skippedNone "primary_resource"
      (nullable (record guardedResourceFields) (record_solid _))) <|
    Fields.cons (omitted "secondary_resources"
      (dictionary (record secondaryGuardedResourceFields)) noSecondaryResources) <|
    Fields.cons (required "criteria" (list (record criterionFields))) <|
    Fields.cons (required "lock_logic" lockLogic) <|
    Fields.cons (required "access_policy" (record accessPolicyFields)) <|
    Fields.cons (required "lock_server" (record (lockServerConfigFields packages))) <|
    Fields.cons (required "created_at" text) Fields.nil).as
  (fun (version, creator, primaryResource, secondaryResources, criteria, lockLogic, accessPolicy,
    lockServer, createdAt, _) => ⟨version, creator, primaryResource, secondaryResources, criteria,
    lockLogic, accessPolicy, lockServer, createdAt⟩)
  (fun lock => (lock.version, lock.creator, lock.primaryResource, lock.secondaryResources,
    lock.criteria, lock.lockLogic, lock.accessPolicy, lock.lockServer, lock.createdAt, ()))
  (fun _ => rfl)

def ContentLock.toDocument {packages : Packages} (lock : ContentLock packages) : Value :=
  (record (lockFields packages)).encode (lock.dated (String.ofList (serialize lock.createdAt)))

/-- `serde_json::from_value`. -/
def fromDocument (packages : Packages) (document : Value) : Option (ContentLock packages) :=
  ((record (lockFields packages)).decode document).bind fun lock =>
    (deserialize lock.createdAt.toList).map lock.dated

def ContentLock.canonicalJsonBytes {packages : Packages} (lock : ContentLock packages) :
    Option (List UInt8) :=
  packages.toVec lock.toDocument

def ContentLock.lockId {packages : Packages} (lock : ContentLock packages) : Option String :=
  lock.canonicalJsonBytes.map fun canonical =>
    String.ofList (Base32.encode (packages.blake3 canonical))

end MarketplaceService.ContentLocks
