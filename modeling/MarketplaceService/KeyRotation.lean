import MarketplaceService.DigitalReseal
import MarketplaceService.PickupReseal

/-!
A key rotation over both services: their writers and any number of re-seal
passes, in any order. The opened rows are those of the writers alone, a row that
was purged stays away until it is written again, and a pass that completes leaves
every row under the current key.
-/

namespace MarketplaceService

/-- The sealed rows of both services with the passes under way. -/
structure RotationWorld where
  digital : SealedWorld (DigitalVault Bytes) SealedFamily SealedRow ℕ
  pickup : SealedWorld (PickupVault Bytes) PickupFamily PickupRow PickupPosition

inductive RotationAction where
  | digital (action : SealedAction DigitalWriter)
  | pickup (action : SealedAction PickupWriter)

def RotationAction.digital? : RotationAction → Option (SealedAction DigitalWriter)
  | .digital action => some action
  | .pickup _ => none

def RotationAction.pickup? : RotationAction → Option (SealedAction PickupWriter)
  | .digital _ => none
  | .pickup action => some action

/-- The cipher, the two key rings and the buyers of the orders. -/
structure RotationSetting where
  aead : Aead
  digitalKeys : RotatingKeys
  pickupKeys : RotatingKeys
  buyer : OrderId → Pubky

def plainPickup : Runs.System (PickupVault (Option Bytes)) PickupWriter :=
  plainSystem fun vault writer => vault.apply plainCoder writer

namespace RotationSetting

variable (setting : RotationSetting)

def digitalSystem : Runs.System (SealedWorld (DigitalVault Bytes) SealedFamily SealedRow ℕ)
    (SealedAction DigitalWriter) :=
  sealedSystem digitalTarget setting.aead setting.digitalKeys (DigitalVault.Sound setting.buyer)
    fun vault writer => vault.apply setting.buyer
      (sealedCoder setting.aead setting.digitalKeys) writer

def pickupSystem :
    Runs.System (SealedWorld (PickupVault Bytes) PickupFamily PickupRow PickupPosition)
    (SealedAction PickupWriter) :=
  sealedSystem pickupTarget setting.aead setting.pickupKeys PickupVault.Sound
    fun vault writer => vault.apply (sealedCoder setting.aead setting.pickupKeys) writer

def rotations : Runs.System RotationWorld RotationAction where
  initial world :=
    setting.digitalSystem.initial world.digital ∧ setting.pickupSystem.initial world.pickup
  step world
    | .digital action =>
        (setting.digitalSystem.step world.digital action).map fun digital => { world with digital }
    | .pickup action =>
        (setting.pickupSystem.step world.pickup action).map fun pickup => { world with pickup }

def plainDigital : Runs.System (DigitalVault (Option Bytes)) DigitalWriter :=
  plainSystem fun vault writer => vault.apply setting.buyer plainCoder writer

def openedDigital (world : RotationWorld) : DigitalVault (Option Bytes) :=
  world.digital.store.opened setting.aead setting.digitalKeys

def openedPickup (world : RotationWorld) : PickupVault (Option Bytes) :=
  world.pickup.store.opened setting.aead setting.pickupKeys

def BothKeys : Prop :=
  setting.digitalKeys.hasPrevious = true ∧ setting.pickupKeys.hasPrevious = true

variable {setting}

theorem run_parts {actions : List RotationAction} : ∀ {world after : RotationWorld},
    Runs.run setting.rotations world actions = some after →
      Runs.run setting.digitalSystem world.digital (actions.filterMap RotationAction.digital?) =
          some after.digital ∧
        Runs.run setting.pickupSystem world.pickup (actions.filterMap RotationAction.pickup?) =
          some after.pickup := by
  induction actions with
  | nil =>
      intro world after ran
      cases ran
      exact ⟨rfl, rfl⟩
  | cons action rest ih =>
      intro world after ran
      obtain ⟨middle, stepped, tail⟩ := Option.bind_eq_some_iff.mp ran
      obtain ⟨digital, pickup⟩ := ih tail
      cases action with
      | digital action =>
          obtain ⟨next, moved, rfl⟩ := Option.map_eq_some_iff.mp stepped
          exact ⟨Runs.run_step moved digital, pickup⟩
      | pickup action =>
          obtain ⟨next, moved, rfl⟩ := Option.map_eq_some_iff.mp stepped
          exact ⟨digital, Runs.run_step moved pickup⟩

end RotationSetting

/-! Rows that are gone. -/

namespace DigitalVault

variable {aead : Aead} {keys : RotatingKeys} {buyer : OrderId → Pubky}

def Deleted (vault : DigitalVault Bytes) (id : ℕ+) : Prop :=
  id ∈ vault.drawn .version ∧ vault.versions.find? id = none

def Purged (vault : DigitalVault Bytes) (order : OrderId) (id : ℕ+) : Prop :=
  id ∈ vault.drawn .email ∧
    ∃ row, vault.emails.find? id = some row ∧ row.order = order ∧ row.email = none

/-- The writer that brings an address back. -/
def Stores (order : OrderId) (writer : DigitalWriter) : Prop :=
  ∃ email nonce id now, writer = .storeDeliveryEmail order email nonce id now

theorem Rewrites.deleted {before after : DigitalVault Bytes}
    (rewrites : Rewrites aead keys before after) {id : ℕ+} (gone : before.Deleted id) :
    after.Deleted id := by
  refine ⟨rewrites.drawn .version id gone.1, ?_⟩
  cases found : after.versions.find? id with
  | none => rfl
  | some row =>
      have entered : after.entry .version id = some (row.aad, some row.payload) := by
        simp [DigitalVault.entry, found]
      rcases rewrites.entry .version id _ _ entered with ⟨old, stood, -⟩ | ⟨unseen, -, -⟩
      · simp [DigitalVault.entry, gone.2] at stood
      · exact absurd gone.1 unseen

theorem opened_deleted {before after : DigitalVault Bytes}
    (same : after.opened aead keys = before.opened aead keys) {id : ℕ+} (gone : before.Deleted id) :
    after.Deleted id := by
  have drawn : after.drawn = before.drawn :=
    congrArg (fun vault : DigitalVault (Option Bytes) => vault.drawn) same
  have rows := congrArg (fun vault => vault.versions.find? id) same
  simp only [opened, Keyed.Table.find?_image, gone.2, Option.map_none,
    Option.map_eq_none_iff] at rows
  exact ⟨drawn ▸ gone.1, rows⟩

theorem opened_purged {before after : DigitalVault Bytes}
    (same : after.opened aead keys = before.opened aead keys) {order : OrderId} {id : ℕ+}
    (gone : before.Purged order id) : after.Purged order id := by
  obtain ⟨drawn, row, found, mine, empty⟩ := gone
  have ids : after.drawn = before.drawn :=
    congrArg (fun vault : DigitalVault (Option Bytes) => vault.drawn) same
  have rows := congrArg (fun vault => vault.emails.find? id) same
  simp only [opened, Keyed.Table.find?_image, found, Option.map_some] at rows
  obtain ⟨now, stands, shape⟩ := Option.map_eq_some_iff.mp rows
  refine ⟨ids ▸ drawn, now, stands, ?_, ?_⟩
  · have orders := congrArg SealedEmail.order shape
    exact orders.trans mine
  · have emails := congrArg SealedEmail.email shape
    simpa [SealedEmail.opened, empty] using emails

theorem pinLines_emails {order : OrderId} {lines : List PinnedLine} :
    ∀ {vault after : DigitalVault Bytes},
      lines.foldlM (pinLine (sealedCoder aead keys) order) vault = some after →
      after.emails = vault.emails := by
  induction lines with
  | nil =>
      intro vault after ran
      cases ran
      rfl
  | cons line rest ih =>
      intro vault after ran
      obtain ⟨middle, first, tail⟩ := Option.bind_eq_some_iff.mp ran
      exact (ih tail).trans (pinLine_rewrites first).2

theorem apply_purged {vault after : DigitalVault Bytes} {writer : DigitalWriter} {order : OrderId}
    {id : ℕ+} (sound : Sound buyer vault)
    (ran : vault.apply buyer (sealedCoder aead keys) writer = some after)
    (other : ¬ Stores order writer) (gone : vault.Purged order id) : after.Purged order id := by
  have drawn := (apply_sealed sound ran).1.drawn .email id gone.1
  obtain ⟨known, row, found, mine, empty⟩ := gone
  cases writer with
  | set listing expectedVersion kind deliverableId payload nonce id live now =>
      simp only [apply, set] at ran
      split at ran
      · cases ran
      · obtain ⟨last, -, rfl⟩ := Option.map_eq_some_iff.mp ran
        exact ⟨drawn, row, found, mine, empty⟩
  | clear listing expectedVersion live now =>
      obtain ⟨last, -, rfl⟩ := Option.map_eq_some_iff.mp ran
      exact ⟨drawn, row, found, mine, empty⟩
  | pinDigitalLines pinned lines =>
      refine ⟨drawn, row, ?_, mine, empty⟩
      rw [pinLines_emails ran]
      exact found
  | storeDeliveryEmail stored email nonce fresh now =>
      have apart : stored ≠ order := by
        rintro rfl
        exact other ⟨email, nonce, fresh, now, rfl⟩
      simp only [apply, storeDeliveryEmail] at ran
      split at ran
      · rename_i held searched
        cases ran
        have theirs : held.2.order = stored := by simpa using List.find?_some searched
        have present : vault.emails.find? held.1 = some held.2 :=
          vault.emails.mem_rows_iff.mp (List.mem_of_find?_eq_some searched)
        have elsewhere : id ≠ held.1 := by
          rintro rfl
          rw [found, Option.some.injEq] at present
          exact apart (theirs.symm.trans (present ▸ mine))
        refine ⟨drawn, row, ?_, mine, empty⟩
        rw [Keyed.Table.find?_set_ne _ _ elsewhere]
        exact found
      · split at ran
        · cases ran
        · rename_i unseen
          cases ran
          have elsewhere : id ≠ fresh := fun same => unseen (same ▸ known)
          refine ⟨drawn, row, ?_, mine, empty⟩
          rw [Keyed.Table.find?_set_ne _ _ elsewhere]
          exact found
  | purgeDeliveryEmails due now =>
      obtain rfl := Option.some.inj ran
      refine ⟨drawn, row, ?_, mine, empty⟩
      simp only [purgeDeliveryEmails, Keyed.Table.find?_mapRows, found, Option.map_some, empty,
        Option.isSome_none, Bool.false_and, Bool.false_eq_true, if_false]

end DigitalVault

namespace PickupVault

variable {aead : Aead} {keys : RotatingKeys}

def Deleted (vault : PickupVault Bytes) (position : PickupPosition) : Prop :=
  vault.Used position ∧ vault.entry position = none

theorem Rewrites.deleted {before after : PickupVault Bytes}
    (rewrites : Rewrites aead keys before after) {position : PickupPosition}
    (gone : before.Deleted position) : after.Deleted position := by
  refine ⟨rewrites.used position gone.1, ?_⟩
  cases found : after.entry position with
  | none => rfl
  | some row =>
      rcases rewrites.entry position row.1 row.2 found with stood | ⟨unused, -, -⟩
      · rw [gone.2] at stood
        cases stood
      · exact absurd gone.1 unused

theorem opened_deleted {before after : PickupVault Bytes}
    (same : after.opened aead keys = before.opened aead keys) {position : PickupPosition}
    (gone : before.Deleted position) : after.Deleted position := by
  have counters : after.counters = before.counters :=
    congrArg (fun vault : PickupVault (Option Bytes) => vault.counters) same
  have confirmed : after.confirmed = before.confirmed :=
    congrArg (fun vault : PickupVault (Option Bytes) => vault.confirmed) same
  cases position with
  | details key =>
      have rows := congrArg (fun vault => vault.details.find? key) same
      have missing := Option.map_eq_none_iff.mp gone.2
      simp only [opened, Keyed.Table.find?_image, missing, Option.map_none,
        Option.map_eq_none_iff] at rows
      refine ⟨?_, Option.map_eq_none_iff.mpr rows⟩
      have used := gone.1
      simp only [Used, lastVersion, counters] at used ⊢
      exact used
  | snapshot key =>
      have rows := congrArg (fun vault => vault.snapshots.find? key) same
      have missing := Option.map_eq_none_iff.mp gone.2
      simp only [opened, Keyed.Table.find?_image, missing, Option.map_none,
        Option.map_eq_none_iff] at rows
      refine ⟨?_, Option.map_eq_none_iff.mpr rows⟩
      have used := gone.1
      simp only [Used, confirmed] at used ⊢
      exact used

end PickupVault

namespace RotationSetting

variable {setting : RotationSetting}

theorem digital_sound {start : RotationWorld} (init : setting.rotations.initial start) :
    digitalTarget.WorldSound setting.aead setting.digitalKeys (DigitalVault.Sound setting.buyer)
      DigitalVault.Held start.digital :=
  ResealTarget.initial_sound init.1

theorem pickup_sound {start : RotationWorld} (init : setting.rotations.initial start) :
    pickupTarget.WorldSound setting.aead setting.pickupKeys PickupVault.Sound
      (PickupVault.Held setting.aead setting.pickupKeys) start.pickup :=
  ResealTarget.initial_sound init.2

end RotationSetting

def digitalWriters (actions : List RotationAction) : List DigitalWriter :=
  (actions.filterMap RotationAction.digital?).filterMap SealedAction.writer?

def pickupWriters (actions : List RotationAction) : List PickupWriter :=
  (actions.filterMap RotationAction.pickup?).filterMap SealedAction.writer?

/-- A rotation loses no payload. In every state that a run reaches the rows open
to what the writers of the run alone leave in them; a row that is gone stays gone
unless its address is stored again; and once a pass has completed with nothing
left under the previous key, every row of its service opens under the current
key alone, to what it opened to before. -/
theorem key_rotation_loses_no_payload (setting : RotationSetting) (both : setting.BothKeys)
    {start world : RotationWorld} {actions : List RotationAction}
    (init : setting.rotations.initial start)
    (ran : Runs.run setting.rotations start actions = some world) :
    (Runs.run setting.plainDigital (setting.openedDigital start) (digitalWriters actions) =
          some (setting.openedDigital world) ∧
        Runs.run plainPickup (setting.openedPickup start) (pickupWriters actions) =
          some (setting.openedPickup world)) ∧
      (∀ more later, Runs.run setting.rotations world more = some later →
        (∀ id, world.digital.store.Deleted id → later.digital.store.Deleted id) ∧
        (∀ order id, world.digital.store.Purged order id →
          (∀ writer ∈ digitalWriters more, ¬ DigitalVault.Stores order writer) →
          later.digital.store.Purged order id) ∧
        ∀ position, world.pickup.store.Deleted position → later.pickup.store.Deleted position) ∧
      (∀ worker progress, world.digital.passes.find? worker = some (.completed progress) →
        progress.remainingUnderPrevious = 0 →
        ∀ family, ∀ row ∈ world.digital.store.familyRows family, ∃ plaintext,
          setting.digitalKeys.currentOnly.openSealed setting.aead row.aad row.ciphertext =
              some plaintext ∧
            setting.digitalKeys.openSealed setting.aead row.aad row.ciphertext = some plaintext) ∧
      ∀ worker progress, world.pickup.passes.find? worker = some (.completed progress) →
        progress.remainingUnderPrevious = 0 →
        ∀ family, ∀ row ∈ world.pickup.store.familyRows family, ∃ plaintext,
          setting.pickupKeys.currentOnly.openSealed setting.aead (row.position.aad row.version)
              row.ciphertext = some plaintext ∧
            setting.pickupKeys.openSealed setting.aead (row.position.aad row.version)
              row.ciphertext = some plaintext := by
  have digital := DigitalVault.digital_law setting.buyer setting.aead setting.digitalKeys
  have pickup := PickupVault.pickup_law setting.aead setting.pickupKeys
  obtain ⟨digitalRan, pickupRan⟩ := RotationSetting.run_parts ran
  obtain ⟨digitalSound, digitalPlain⟩ :=
    digital.run both.1 (RotationSetting.digital_sound init) digitalRan
  obtain ⟨pickupSound, pickupPlain⟩ :=
    pickup.run both.2 (RotationSetting.pickup_sound init) pickupRan
  refine ⟨⟨digitalPlain, pickupPlain⟩, fun more later moved => ?_, ?_, ?_⟩
  · obtain ⟨digitalMoved, pickupMoved⟩ := RotationSetting.run_parts moved
    refine ⟨fun id gone => ?_, fun order id gone others => ?_, fun position gone => ?_⟩
    · exact digital.kept_by_run both.1 (fun _ => True)
        (fun sound wrote _ => (DigitalVault.apply_sealed sound wrote).1.deleted)
        (fun same => DigitalVault.opened_deleted same) digitalSound digitalMoved
        (fun _ _ => trivial) gone
    · exact digital.kept_by_run both.1 (fun writer => ¬ DigitalVault.Stores order writer)
        (fun sound wrote other => DigitalVault.apply_purged sound wrote other)
        (fun same => DigitalVault.opened_purged same) digitalSound digitalMoved others gone
    · exact pickup.kept_by_run both.2 (fun _ => True)
        (fun _ wrote _ => (PickupVault.apply_sealed wrote).1.deleted)
        (fun same => PickupVault.opened_deleted same) pickupSound pickupMoved
        (fun _ _ => trivial) gone
  · intro worker progress completed _ family row member
    have fresh := digitalSound.2 worker _ completed family row member
    obtain ⟨plaintext, opens⟩ := RotatingKeys.opens_of_current fresh
    exact ⟨plaintext, (RotatingKeys.open_currentOnly fresh).trans opens, opens⟩
  · intro worker progress completed _ family row member
    have fresh := pickupSound.2 worker _ completed family row member
    obtain ⟨plaintext, opens⟩ := RotatingKeys.opens_of_current fresh
    exact ⟨plaintext, (RotatingKeys.open_currentOnly fresh).trans opens, opens⟩

/-! A rotation of two addresses, one of which its buyer replaces while the pass
holds the old ciphertext. The cipher writes its key, nonce and associated data
before a message and opens it under no others. -/

def delimited (bytes : Bytes) : Bytes := List.replicate bytes.length 1 ++ 0 :: bytes

def frame (key : SealKey) (nonce aad : Bytes) : Bytes := key.1 ++ delimited nonce ++ delimited aad

def framing : Aead where
  encrypt key nonce aad message := frame key nonce aad ++ message
  decrypt key nonce aad ciphertext :=
    if frame key nonce aad <+: ciphertext then
      some (ciphertext.drop (frame key nonce aad).length)
    else none
  decrypts key nonce aad message := by
    rw [if_pos (List.prefix_append _ _), List.drop_left]
  tagged key nonce aad message := by simp [frame, delimited]

def oldKey : SealKey := ⟨List.replicate keyLen 7, by decide⟩

def newKey : SealKey := ⟨List.replicate keyLen 6, by decide⟩

example : framing.decrypt oldKey [1] [2] (framing.encrypt oldKey [1] [2] [3]) = some [3] ∧
    framing.decrypt oldKey [1] [4] (framing.encrypt oldKey [1] [2] [3]) = none ∧
    framing.decrypt oldKey [4] [2] (framing.encrypt oldKey [1] [2] [3]) = none := by decide

def drawnNonce : XNonce := ⟨List.replicate xnonceLen 0, by decide⟩

def rotatingKeys : RotatingKeys := ⟨newKey, some oldKey, by decide⟩

def rotatingSetting : RotationSetting := ⟨framing, rotatingKeys, rotatingKeys, fun _ => "buyer"⟩

def oldAddress (order : OrderId) (address : Bytes) : SealedEmail Bytes where
  order
  buyerPubky := "buyer"
  email := some (framing.sealBytes oldKey drawnNonce (emailAad order "buyer") address)
  purgedAt := none

def oldAddresses : RotationWorld where
  digital :=
    { store :=
        { (DigitalVault.empty : DigitalVault Bytes) with
          emails := ⟨[(1, oldAddress 7 [1]), (2, oldAddress 9 [2])], by decide⟩
          drawn := fun _ => [1, 2] }
      passes := .empty }
  pickup := { store := .empty, passes := .empty }

def rotatingRun : List RotationAction :=
  [.digital (.beginPass 0)] ++ List.replicate 3 (.digital (.advance 0 drawnNonce)) ++
    [.digital (.write (.storeDeliveryEmail 7 [3] drawnNonce 3 0))] ++
    List.replicate 9 (.digital (.advance 0 drawnNonce))

/-- The pass re-sealed one row, skipped the other and found nothing left. -/
def rotated (world : RotationWorld) : Bool :=
  match world.digital.passes.find? 0 with
  | some (.completed progress) =>
      progress.resealed .email == 1 && progress.skippedChanged == 1 &&
        progress.remainingUnderPrevious == 0
  | _ => false

theorem oldAddresses_initial : rotatingSetting.rotations.initial oldAddresses := by
  have rows : ∀ id row, oldAddresses.digital.store.emails.find? id = some row →
      id ∈ ([1, 2] : List ℕ+) ∧ row.buyerPubky = "buyer" := by
    intro id row found
    have member := oldAddresses.digital.store.emails.mem_rows_iff.mpr found
    simp only [oldAddresses, List.mem_cons, Prod.mk.injEq, List.not_mem_nil, or_false] at member
    rcases member with ⟨rfl, rfl⟩ | ⟨rfl, rfl⟩
    · exact ⟨by decide, rfl⟩
    · exact ⟨by decide, rfl⟩
  refine ⟨⟨⟨fun family id present => ?_, fun id row found => (rows id row found).2⟩, rfl⟩, ?_, rfl⟩
  · cases family with
    | version => cases present
    | pin => cases present
    | email =>
        obtain ⟨data, found⟩ := Option.isSome_iff_exists.mp present
        obtain ⟨row, stands, -⟩ := Option.map_eq_some_iff.mp found
        exact (rows id row stands).1
  · intro position present
    cases position with
    | details key => cases present
    | snapshot key => cases present

theorem replaced_address_survives_rotation :
    ∃ world, Runs.run rotatingSetting.rotations oldAddresses rotatingRun = some world ∧
      rotated world = true ∧
      Runs.run rotatingSetting.plainDigital (rotatingSetting.openedDigital oldAddresses)
          [.storeDeliveryEmail 7 [3] drawnNonce 3 0] =
        some (rotatingSetting.openedDigital world) ∧
      ∀ family, ∀ row ∈ world.digital.store.familyRows family, ∃ plaintext,
        rotatingKeys.currentOnly.openSealed framing row.aad row.ciphertext = some plaintext := by
  have ran : (Runs.run rotatingSetting.rotations oldAddresses rotatingRun).any rotated = true := by
    decide +kernel
  obtain ⟨world, moved, done⟩ := (Option.any_eq_true _ _).mp ran
  obtain ⟨⟨plain, -⟩, -, digital, -⟩ := key_rotation_loses_no_payload rotatingSetting
    ⟨rfl, rfl⟩ oldAddresses_initial moved
  refine ⟨world, moved, done, plain, fun family row member => ?_⟩
  unfold rotated at done
  split at done
  · rename_i progress completed
    simp only [Bool.and_eq_true, beq_iff_eq] at done
    obtain ⟨plaintext, opens, -⟩ := digital 0 progress completed done.2 family row member
    exact ⟨plaintext, opens⟩
  · cases done

end MarketplaceService
