import MarketplaceService.ContentLocks

/-!
When the canonical form of a content lock is a fixed point: its creation time is no
leap second that its text moves, and its numbers are written as themselves.
-/

namespace MarketplaceService.ContentLocks

open CalendarTime (OffsetDateTime)
open Serde

section
variable {packages : Packages}

theorem text_exact (reread : Number → Number) : text.Exact reread :=
  exact_of_str reread id fun _ => rfl

theorem guardedResource_exact (reread : Number → Number) :
    (record guardedResourceFields).Exact reread := by
  refine record_exact (as_exact (fun _ => rfl) ?_)
  exact cons_exact (text_exact reread) <| cons_exact (exact_of_str reread _ fun _ => rfl) <|
    cons_exact (text_exact reread) <| cons_exact (bounded_exact reread _ _) (nil_exact reread)

theorem secondaryGuardedResource_exact (reread : Number → Number) :
    (record secondaryGuardedResourceFields).Exact reread := by
  refine record_exact (as_exact (fun _ => rfl) ?_)
  exact cons_exact (exact_of_str reread _ fun _ => rfl) <| cons_exact (text_exact reread) <|
    cons_exact (bounded_exact reread _ _) (nil_exact reread)

theorem criterion_exact (reread : Number → Number) : (record criterionFields).Exact reread := by
  refine record_exact (as_exact (fun _ => rfl) ?_)
  exact cons_exact (text_exact reread) <| cons_exact (exact_of_str reread _ fun _ => rfl) <|
    cons_exact (verbatim_exact reread) (nil_exact reread)

theorem logicFields_exact (reread : Number → Number) : logicFields.Exact reread :=
  as_exact (fun _ => rfl) <| cons_exact (list_exact (text_exact reread)) (nil_exact reread)

theorem lockLogic_exact (reread : Number → Number) : lockLogic.Exact reread := by
  have variant (wrap : List String → LockLogic) (inj : Function.Injective wrap)
      (criteria : List String) (name : Value) :
      (logicFields.variant wrap).decodeObject ((canonicalMembers reread
        (("type", name) :: logicFields.encode criteria)).filter fun entry => entry.1 != "type") =
          some (wrap criteria) ↔
        ∀ entry ∈ logicFields.encode criteria, entry.2.Kept reread := by
    rw [reread_variant logicFields wrap (of_decide_eq_true rfl), ← logicFields_exact reread,
      Option.map_eq_some_iff]
    exact ⟨fun ⟨_, read, same⟩ => inj same ▸ read, fun read => ⟨_, read, rfl⟩⟩
  intro logic
  unfold lockLogic
  rw [reread_tagged]
  cases logic with
  | all criteria =>
      refine (variant .all (fun _ _ same => LockLogic.all.inj same) criteria _).trans ?_
      change _ ↔ EntriesKept reread (("type", .str "all") :: logicFields.encode criteria)
      rw [entriesKept_iff, List.forall_mem_cons]
      exact (and_iff_right trivial).symm
  | any criteria =>
      refine (variant .any (fun _ _ same => LockLogic.any.inj same) criteria _).trans ?_
      change _ ↔ EntriesKept reread (("type", .str "any") :: logicFields.encode criteria)
      rw [entriesKept_iff, List.forall_mem_cons]
      exact (and_iff_right trivial).symm

theorem lock_exact (reread : Number → Number) : (record (lockFields packages)).Exact reread := by
  refine record_exact (as_exact (fun _ => rfl) ?_)
  have identity : (pubkyIdentity packages).Exact reread := exact_of_str reread _ fun _ => rfl
  have policy : (record accessPolicyFields).Exact reread :=
    record_exact <| as_exact (fun _ => rfl) <|
      cons_exact (bounded_exact reread _ _) (nil_exact reread)
  have server : (record (lockServerConfigFields packages)).Exact reread :=
    record_exact <| as_exact (fun _ => rfl) <|
      cons_exact (nullable_exact (spelled_solid _ _ _) identity) (nil_exact reread)
  exact cons_exact (bounded_exact reread _ _) <| cons_exact identity <|
    cons_exact (nullable_exact (record_solid _) (guardedResource_exact reread)) <|
    cons_exact (dictionary_exact (secondaryGuardedResource_exact reread)) <|
    cons_exact (list_exact (criterion_exact reread)) <| cons_exact (lockLogic_exact reread) <|
    cons_exact policy <| cons_exact server <| cons_exact (text_exact reread) (nil_exact reread)

theorem reread_createdAt {reread : Number → Number} {lock again : LockOf packages String}
    (read : (record (lockFields packages)).reread reread lock = some again) :
    again.createdAt = lock.createdAt := by
  rw [reread_record] at read
  obtain ⟨parts, members, rfl⟩ := Option.map_eq_some_iff.mp read
  obtain ⟨-, members⟩ := Fields.reread_parts members
  obtain ⟨-, members⟩ := Fields.reread_parts members
  obtain ⟨-, members⟩ := Fields.reread_parts members
  obtain ⟨-, members⟩ := Fields.reread_parts members
  obtain ⟨-, members⟩ := Fields.reread_parts members
  obtain ⟨-, members⟩ := Fields.reread_parts members
  obtain ⟨-, members⟩ := Fields.reread_parts members
  obtain ⟨-, members⟩ := Fields.reread_parts members
  exact (Option.some.inj (show some lock.createdAt = _ from (Fields.reread_parts members).1)).symm

/-- The text is read back as another value, with the fraction that it has there. -/
theorem fromDocument_reread {lock : ContentLock packages} {bytes : List UInt8}
    (plain : 0 ≤ lock.createdAt.time.year ∧ lock.createdAt.time.year ≤ 9999)
    (canonical : lock.canonicalJsonBytes = some bytes) :
    ((packages.fromSlice bytes).bind (fromDocument packages)) =
      ((record (lockFields packages)).reread packages.reread
        (lock.dated (String.ofList (serialize lock.createdAt)))).map
        fun again => again.dated (reread lock.createdAt) := by
  rw [packages.fromSlice_toVec canonical, Option.bind_some]
  change (Option.bind ((record (lockFields packages)).reread packages.reread _) _) = _
  cases read : (record (lockFields packages)).reread packages.reread
      (lock.dated (String.ofList (serialize lock.createdAt))) with
  | none => rfl
  | some again =>
      have text := reread_createdAt read
      change (deserialize again.createdAt.toList).map again.dated = _
      rw [text]
      change (deserialize (String.ofList (serialize lock.createdAt)).toList).map again.dated = _
      rw [String.toList_ofList, deserialize_serialize plain]
      rfl

/-- The canonical bytes are those of a value that is equal to the lock and has them too. -/
def ContentLock.Fixed (lock : ContentLock packages) (bytes : List UInt8) : Prop :=
  ∃ again, (packages.fromSlice bytes).bind (fromDocument packages) = some again ∧
    again.Same lock ∧ again.canonicalJsonBytes = some bytes ∧ again.lockId = lock.lockId

theorem fixed_iff {lock : ContentLock packages} {bytes : List UInt8}
    (plain : 0 ≤ lock.createdAt.time.year ∧ lock.createdAt.time.year ≤ 9999)
    (canonical : lock.canonicalJsonBytes = some bytes) :
    lock.Fixed bytes ↔ Steady lock.createdAt ∧ lock.toDocument.Kept packages.reread := by
  have kept := lock_exact packages.reread (lock.dated (String.ofList (serialize lock.createdAt)))
  unfold ContentLock.Fixed
  rw [fromDocument_reread plain canonical]
  constructor
  · rintro ⟨again, read, ⟨parts, instant⟩, -⟩
    obtain ⟨wire, reread, rfl⟩ := Option.map_eq_some_iff.mp read
    have text := reread_createdAt reread
    have whole : wire = lock.dated (String.ofList (serialize lock.createdAt)) := by
      cases wire
      cases lock
      cases parts
      cases text
      rfl
    exact ⟨steady_of_instant instant, kept.mp (reread.trans (congrArg some whole))⟩
  · rintro ⟨steady, numbers⟩
    refine ⟨lock, ?_, ⟨rfl, rfl⟩, canonical, rfl⟩
    rw [kept.mpr numbers, reread_of_steady steady]
    rfl

end

/-- A lock is a fixed point of its canonical form, and a timestamp is printed as the
same instant, exactly away from the leap seconds that lose a digit of their fraction;
the numbers of a lock are those that are written as themselves. -/
theorem canonical_form_fixed (packages : Packages) :
    (∀ document lock bytes, fromDocument packages document = some lock →
      lock.canonicalJsonBytes = some bytes →
      (lock.Fixed bytes ↔ Steady lock.createdAt ∧ lock.toDocument.Kept packages.reread)) ∧
    ∀ text value, deserialize text = some value →
      ((∃ again, deserialize (serialize value) = some again ∧
        again.instant = value.instant) ↔ Steady value) := by
  constructor
  · intro document lock bytes decoded canonical
    obtain ⟨wire, -, dated⟩ := Option.bind_eq_some_iff.mp decoded
    obtain ⟨createdAt, read, rfl⟩ := Option.map_eq_some_iff.mp dated
    exact fixed_iff (deserialize_year read) canonical
  · intro text value read
    rw [deserialize_serialize (deserialize_year read)]
    constructor
    · rintro ⟨again, same, instant⟩
      cases same
      exact steady_of_instant instant
    · intro steady
      exact ⟨_, rfl, by rw [reread_of_steady steady]⟩

/-! A lock for one post, which is written without the empty map that it was read with. -/

def postCreator : String := "pubky7jfgaa9nutjyixzikb7tgmsf9gkwq7iqz498zr1nd5ig1fng4esy"

def postParams : Value :=
  .obj [("amount", .str "13700"), ("asset", .str "USD"), ("recipient_pubky", .str postCreator)]

def postResource : Value :=
  .obj [("path", .str "/priv/locks.app/content/post.json"),
    ("hash", .str "0W3GE1R70W3GE1R70W3GE1R70W3GE1R70W3GE1R70W3GE1R70W3G"),
    ("content_type", .str "application/json"), ("size", .integer 5)]

def postDocument (createdAt : String) : Value :=
  .obj [("access_policy", .obj [("requested_credential_ttl_seconds", .integer 900)]),
    ("created_at", .str createdAt), ("creator", .str postCreator),
    ("criteria", .arr [.obj [("criterion_id", .str "paykit"), ("params", postParams),
      ("verifier_type", .str "paykit-payment")]]),
    ("lock_logic", .obj [("criteria", .arr [.str "paykit"]), ("type", .str "all")]),
    ("lock_server", .obj [("override", .null)]), ("primary_resource", postResource),
    ("secondary_resources", .obj []), ("version", .integer 1)]

def postTyped (createdAt : String) : Value :=
  .obj [("version", .integer 1), ("creator", .str postCreator), ("primary_resource", postResource),
    ("criteria", .arr [.obj [("criterion_id", .str "paykit"),
      ("verifier_type", .str "paykit-payment"), ("params", postParams)]]),
    ("lock_logic", .obj [("type", .str "all"), ("criteria", .arr [.str "paykit"])]),
    ("access_policy", .obj [("requested_credential_ttl_seconds", .integer 900)]),
    ("lock_server", .obj [("override", .null)]), ("created_at", .str createdAt)]

def postCanonical (createdAt : String) : Value :=
  .obj [("access_policy", .obj [("requested_credential_ttl_seconds", .integer 900)]),
    ("created_at", .str createdAt), ("creator", .str postCreator),
    ("criteria", .arr [.obj [("criterion_id", .str "paykit"), ("params", postParams),
      ("verifier_type", .str "paykit-payment")]]),
    ("lock_logic", .obj [("criteria", .arr [.str "paykit"]), ("type", .str "all")]),
    ("lock_server", .obj [("override", .null)]),
    ("primary_resource", .obj [("content_type", .str "application/json"),
      ("hash", .str "0W3GE1R70W3GE1R70W3GE1R70W3GE1R70W3GE1R70W3GE1R70W3G"),
      ("path", .str "/priv/locks.app/content/post.json"), ("size", .integer 5)]),
    ("version", .integer 1)]

def postBytes (createdAt : String) : List UInt8 :=
  ("\x7b\"access_policy\":\x7b\"requested_credential_ttl_seconds\":900\x7d," ++
    "\"created_at\":\"" ++ createdAt ++ "\",\"creator\":\"" ++ postCreator ++ "\"," ++
    "\"criteria\":[\x7b\"criterion_id\":\"paykit\"," ++
    "\"params\":\x7b\"amount\":\"13700\",\"asset\":\"USD\"," ++
    "\"recipient_pubky\":\"" ++ postCreator ++ "\"\x7d," ++
    "\"verifier_type\":\"paykit-payment\"\x7d]," ++
    "\"lock_logic\":\x7b\"criteria\":[\"paykit\"],\"type\":\"all\"\x7d," ++
    "\"lock_server\":\x7b\"override\":null\x7d," ++
    "\"primary_resource\":\x7b\"content_type\":\"application/json\"," ++
    "\"hash\":\"0W3GE1R70W3GE1R70W3GE1R70W3GE1R70W3GE1R70W3GE1R70W3G\"," ++
    "\"path\":\"/priv/locks.app/content/post.json\",\"size\":5\x7d," ++
    "\"version\":1\x7d").toUTF8.toList

def postKey (text : String) : Option String :=
  if text = postCreator then some postCreator else none

/-- The packages as they treat one key and the lock of one post: the canonical document
is written as its bytes and read from them, and the digest is the one of these bytes. -/
def postPackages (createdAt : String) (digest : Base32.Bytes) : Packages where
  parsePublicKey := postKey
  reread := id
  toVec document :=
    if document.canonical id = postCanonical createdAt then some (postBytes createdAt) else none
  fromSlice bytes :=
    if bytes = postBytes createdAt then some (postCanonical createdAt) else none
  blake3 _ := digest
  parsePublicKey_display parsed := by
    unfold postKey at parsed
    split at parsed
    · cases parsed
      exact if_pos rfl
    · cases parsed
  fromSlice_toVec written := by
    split at written
    case isTrue same =>
      cases written
      rw [if_pos rfl, same]
    case isFalse => cases written

def postHash : GuardedResourceHash := ⟨⟨32, 7 * ((256 ^ 32 - 1) / 255), by decide⟩, rfl⟩

def postLock (createdAt : String) (digest : Base32.Bytes) (moment : OffsetDateTime) :
    ContentLock (postPackages createdAt digest) :=
  ⟨⟨1, by decide⟩, ⟨postCreator, show postKey postCreator = _ from if_pos rfl⟩,
    some ⟨"/priv/locks.app/content/post.json", postHash, "application/json", ⟨5, by decide⟩⟩,
    noSecondaryResources, [⟨"paykit", .paykitPayment, ⟨postParams, rfl⟩⟩], .all ["paykit"],
    ⟨⟨900, by decide⟩⟩, ⟨none⟩, moment⟩

theorem post_canonical {createdAt : String} {moment : OffsetDateTime} (digest : Base32.Bytes)
    (printed : String.ofList (serialize moment) = createdAt)
    (ordered : (postTyped createdAt).canonical id = postCanonical createdAt) :
    (postLock createdAt digest moment).canonicalJsonBytes = some (postBytes createdAt) := by
  have typed : (postLock createdAt digest moment).toDocument = postTyped createdAt := by
    subst printed
    rfl
  unfold ContentLock.canonicalJsonBytes
  rw [typed]
  simp only [postPackages, if_pos ordered]

def postDigest : Base32.Bytes :=
  ⟨32, 0x2fc8f602ee53f5ad382d7c4edaff828ef76d36b2f168ec51a3f01979c4361668, by decide⟩

def postMoment : OffsetDateTime :=
  ⟨⟨2026, 5, 29, 12, 0, 0, 0, by decide, by decide, by decide, by decide⟩, 0, by decide⟩

theorem post_fixed :
    (postLock "2026-05-29T12:00:00Z" postDigest postMoment).Fixed
      (postBytes "2026-05-29T12:00:00Z") ∧
    (postLock "2026-05-29T12:00:00Z" postDigest postMoment).lockId =
      some "5Z4FC0QEAFTTTE1DFH7DNZW2HVVPTDNJY5MERMD3Y0CQKH1P2SM0" ∧
    ∃ again, deserialize (serialize postMoment) = some again ∧
      again.instant = postMoment.instant := by
  have decoded : fromDocument (postPackages "2026-05-29T12:00:00Z" postDigest)
      (postDocument "2026-05-29T12:00:00Z") = some (postLock _ _ postMoment) := by rfl
  have printed : String.ofList (serialize postMoment) = "2026-05-29T12:00:00Z" := by rfl
  have canonical := post_canonical postDigest printed (by rfl)
  have read : deserialize "2026-05-29T12:00:00Z".toList = some postMoment := by rfl
  have steady : Steady postMoment := by decide
  obtain ⟨fixed, reprinted⟩ := canonical_form_fixed (postPackages "2026-05-29T12:00:00Z" postDigest)
  refine ⟨(fixed _ _ _ decoded canonical).mpr ⟨steady, (kept_iff id _).mpr rfl⟩, ?_,
    (reprinted _ _ read).mpr steady⟩
  unfold ContentLock.lockId
  rw [canonical]
  rfl

def leapMoment : OffsetDateTime :=
  ⟨⟨2016, 12, 31, 23, 59, 59, 1000000000, by decide, by decide, by decide, by decide⟩, 0,
    by decide⟩

def leapDigest : Base32.Bytes :=
  ⟨32, 0xaee160518ad65e69d441e9593de37efc4dce7c16cfade2bd9b8fb618dc38f09f, by decide⟩

/-- It is printed with a tenth of a second more, and so is read as another instant. -/
theorem leap_moved :
    ¬ ((∀ packages document lock bytes, fromDocument packages document = some lock →
        lock.canonicalJsonBytes = some bytes → lock.Fixed bytes) ∧
      ∀ text value, deserialize text = some value →
        ∃ again, deserialize (serialize value) = some again ∧ again.instant = value.instant) ∧
    deserialize "2016-12-31T23:59:60Z".toList = some leapMoment ∧
    String.ofList (serialize leapMoment) = "2016-12-31T23:59:60.1Z" ∧
    ∃ lock bytes, fromDocument (postPackages "2016-12-31T23:59:60.1Z" leapDigest)
        (postDocument "2016-12-31T23:59:60Z") = some lock ∧
      lock.canonicalJsonBytes = some bytes ∧ ¬ lock.Fixed bytes := by
  have read : deserialize "2016-12-31T23:59:60Z".toList = some leapMoment := by rfl
  have decoded : fromDocument (postPackages "2016-12-31T23:59:60.1Z" leapDigest)
      (postDocument "2016-12-31T23:59:60Z") = some (postLock _ _ leapMoment) := by rfl
  have printed : String.ofList (serialize leapMoment) = "2016-12-31T23:59:60.1Z" := by rfl
  have canonical := post_canonical leapDigest printed (by rfl)
  have moved : ¬ (postLock "2016-12-31T23:59:60.1Z" leapDigest leapMoment).Fixed
      (postBytes "2016-12-31T23:59:60.1Z") := by
    intro fixed
    have steady : Steady leapMoment := ((fixed_iff (by decide) canonical).mp fixed).1
    exact absurd steady (by decide)
  refine ⟨fun ⟨locks, _⟩ => moved (locks _ _ _ _ decoded canonical), read, printed, _, _, decoded,
    canonical, moved⟩

end MarketplaceService.ContentLocks
