import MarketplaceService.GrantSteps

/-!
The grant handoff is one-use and bound to an identity. A flow is fenced by its
status: a session is issued to a flow that is verifying, which then is complete
for good, and a claim needs a complete flow that was not claimed. Two parts of
the law need more. The subtraction in the check of an assertion can overflow,
and the assertion is then accepted for longer than its flow is kept. And the
sweep leaves out rows that are locked or beyond its batch, which the purge of
the same pass may delete.
-/

namespace MarketplaceService

variable {config : GrantConfig} {service after : GrantService} {action : GrantAction}

/-! The condition. -/

/-- The lifetime of the assertion does not overflow, its flow is inserted soon
after the check, and the sweep takes what the purge may take. -/
def keepsPace (config : GrantConfig) (service : GrantService) : GrantAction → Prop
  | .check _ assertion => assertion.exp.toInt - assertion.iat.toInt < 2 ^ 63
  | .insert creation _ =>
      ∀ pending ∈ (service.creations.find? creation).join,
        service.now + 65 ≤ pending.checkedAt + config.terminalRetentionSeconds
  | .reap reaper locked =>
      ∀ pass ∈ (service.reapers.find? reaper).join, pass.phase = .sweep →
        ∀ entry ∈ service.flows.rows, GrantService.sweepDue pass.now entry.2 = true →
          GrantService.purgeDue config pass.now entry.2 = true →
          entry.1 ∈ service.sweepBatch config pass.now locked
  | _ => True

instance (config : GrantConfig) (service : GrantService) :
    DecidablePred (keepsPace config service)
  | .check _ assertion =>
      inferInstanceAs (Decidable (assertion.exp.toInt - assertion.iat.toInt < 2 ^ 63))
  | .insert creation _ =>
      inferInstanceAs (Decidable (∀ pending ∈ (service.creations.find? creation).join,
        service.now + 65 ≤ pending.checkedAt + config.terminalRetentionSeconds))
  | .reap reaper locked =>
      inferInstanceAs (Decidable (∀ pass ∈ (service.reapers.find? reaper).join,
        pass.phase = .sweep → ∀ entry ∈ service.flows.rows,
          GrantService.sweepDue pass.now entry.2 = true →
          GrantService.purgeDue config pass.now entry.2 = true →
          entry.1 ∈ service.sweepBatch config pass.now locked))
  | .tick _ | .acquire .. | .heartbeat _ | .giveBack _ | .exchange .. | .settle .. | .fail ..
  | .stop _ | .startReaper _ | .stopReaper _ | .cancel .. | .nonce .. | .ticket .. | .claim ..
  | .revoke _ => .isTrue trivial

/-! Assertions. -/

def Accepted (assertion : Assertion) (now : Time) : Prop :=
  validateAssertionTimes assertion.iat assertion.exp now = true ∧
    assertion.exp.toInt - assertion.iat.toInt < 2 ^ 63

theorem Accepted.window {assertion : Assertion} {now : Time} (accepted : Accepted assertion now) :
    (now : ℤ) < assertion.exp.toInt ∧ assertion.exp.toInt ≤ (now : ℤ) + 65 := by
  obtain ⟨passes, short⟩ := accepted
  simp only [validateAssertionTimes, Bool.not_eq_true', Bool.or_eq_false_iff,
    decide_eq_false_iff_not, Int64.le_iff_toInt_le, Int64.lt_iff_toInt_lt, not_le, not_lt]
    at passes
  obtain ⟨⟨⟨ordered, brief⟩, early⟩, late⟩ := passes
  have exact' : (assertion.exp - assertion.iat).toInt =
      assertion.exp.toInt - assertion.iat.toInt := by
    rw [Int64.toInt_sub]
    apply Int.bmod_eq_of_le_mul_two
    · omega
    · omega
  rw [exact'] at brief
  have sixty : (60 : Int64).toInt = 60 := rfl
  omega

/-! Invariants of a flow. -/

structure FlowFits (sessions : Keyed.Table SessionId AuthSession) (handoffs : List Handoff)
    (id : FlowId) (flow : GrantFlow) (record : FlowRecord) : Prop where
  jti : flow.assertionJti = record.assertion.jti
  pubky : flow.expectedPubky = record.assertion.expectedPubky
  created : flow.createdAt = record.checkedAt
  standing : record.purgedAs = none
  expires : flow.createdAt ≤ flow.expiresAt
  leased : ∀ time ∈ flow.leaseUntil, flow.createdAt ≤ time
  ended : ∀ time ∈ flow.terminalAt, flow.createdAt ≤ time
  empty : flow.status ≠ .complete → record.sessions = []
  swept : ∀ issued ∈ record.sessions, flow.resultAuthSessionId = none →
    sessions.find? issued.1 = none
  named : ∀ session ∈ flow.resultAuthSessionId, (∃ row, (session, row) ∈ record.sessions) ∧
    ∃ time, flow.terminalAt = some time ∧ flow.resultTokenExpiresAt = some (time + 60)
  delivered : flow.resultTokenDeliveredAt.isSome = true →
    ∃ handoff ∈ handoffs, handoff.purpose = .ticket ∧ handoff.flow = id
  claimed : ∀ handoff ∈ handoffs, handoff.purpose = .claim → handoff.flow = id →
    flow.resultClaimedAt.isSome = true

structure RecordFits (config : GrantConfig) (now : Time) (row : Option GrantFlow)
    (record : FlowRecord) : Prop where
  single : record.sessions.length ≤ 1
  bound : ∀ issued ∈ record.sessions, issued.2.pubky = record.assertion.expectedPubky ∧
    ∀ capability ∈ issued.2.capabilities, allowlistedCapability capability = true
  accepted : Accepted record.assertion record.checkedAt
  past : record.checkedAt ≤ now
  gone : row = none → record.checkedAt + config.terminalRetentionSeconds ≤ now
  purged : ∀ status ∈ record.purgedAs, status ≠ .complete → record.sessions = []

theorem RecordFits.only {now : Time} {row : Option GrantFlow} {record : FlowRecord}
    (fits : RecordFits config now row record) {first second : SessionId × AuthSession}
    (left : first ∈ record.sessions) (right : second ∈ record.sessions) : first = second := by
  have single := fits.single
  cases sessions : record.sessions with
  | nil =>
      rw [sessions] at left
      cases left
  | cons head rest =>
      rw [sessions, List.length_cons, Nat.succ_le_succ_iff, Nat.le_zero, List.length_eq_zero_iff]
        at single
      rw [sessions, single, List.mem_singleton] at left right
      rw [left, right]

def FlowsFit (service : GrantService) : Prop :=
  ∀ id flow, service.flows.find? id = some flow →
    ∃ record, service.records.find? id = some record ∧
      FlowFits service.sessions service.handoffs id flow record

def RecordsFit (config : GrantConfig) (service : GrantService) : Prop :=
  ∀ id record, service.records.find? id = some record →
    RecordFits config service.now (service.flows.find? id) record

theorem FlowFits.edit {sessions : Keyed.Table SessionId AuthSession} {handoffs : List Handoff}
    {id : FlowId} {flow later : GrantFlow} {record : FlowRecord}
    (fits : FlowFits sessions handoffs id flow record) (edit : FlowEdit service id flow later)
    (past : record.checkedAt ≤ service.now)
    (started : ∀ worker task, service.task worker = some task → task.flow = id →
      record.checkedAt ≤ task.startedAt) :
    FlowFits sessions handoffs id later record := by
  have working : ∀ status : GrantStatus, status.atWork = true → status ≠ .complete := by
    rintro status works rfl
    cases works
  have old := fits.created
  cases edit with
  | working before after fresh =>
      refine { fits with empty := fun _ => fits.empty (working _ before), leased := ?_ }
      intro time leased
      rcases fresh time leased with same | new
      · exact fits.leased time same
      · exact old.le.trans (past.trans new)
  | @closed status code time owner lease approved before after fresh closes =>
      have late : flow.createdAt ≤ time := by
        cases closes with
        | now => exact old.le.trans past
        | due passed => exact fits.expires.trans passed
        | lapsed leased passed => exact (fits.leased _ leased).trans passed
        | started running same => exact old.le.trans (started _ _ running same)
      have none' := fits.empty (working _ before)
      refine { fits with
        empty := fun _ => none', leased := ?_, ended := ?_, named := ?_ }
      · exact fun time leased => fits.leased time (fresh time leased)
      · rintro _ ⟨⟩
        exact late
      · intro session named
        obtain ⟨⟨row, issued⟩, -⟩ := fits.named session named
        rw [none'] at issued
        cases issued

/-! Invariants of the service. -/

def CreationsFit (service : GrantService) : Prop :=
  ∀ creation pending, (service.creations.find? creation).join = some pending →
    Accepted pending.assertion pending.checkedAt ∧ pending.checkedAt ≤ service.now

def TasksFit (service : GrantService) : Prop :=
  ∀ worker task, service.task worker = some task →
    ∃ record, service.records.find? task.flow = some record ∧
      record.assertion.expectedPubky = task.expectedPubky ∧ record.checkedAt ≤ task.startedAt

def ReaperPhase.pastSweep : ReaperPhase → Bool
  | .nonces | .requests | .purge => true
  | _ => false

/-- Nothing unclaimed is left to purge at `time`. -/
def Cleared (config : GrantConfig) (service : GrantService) (time : Time) : Prop :=
  ∀ id flow, service.flows.find? id = some flow →
    GrantService.purgeDue config time flow = true → flow.resultClaimedAt = none →
    flow.resultAuthSessionId = none

def PassesFit (config : GrantConfig) (service : GrantService) : Prop :=
  ∀ reaper pass, (service.reapers.find? reaper).join = some pass → pass.now ≤ service.now ∧
    (pass.phase.pastSweep = true → Cleared config service pass.now)

def Chained : List Handoff → Prop
  | [] => True
  | newest :: older =>
      (newest.purpose = .claim →
        (∃ ticket ∈ older, ticket.purpose = .ticket ∧ ticket.flow = newest.flow) ∧
          ∀ other ∈ older, other.purpose = .claim → other.flow ≠ newest.flow) ∧
      Chained older

structure LogFits (service : GrantService) : Prop where
  known : ∀ handoff ∈ service.handoffs, (service.records.find? handoff.flow).isSome = true
  used : ∀ handoff ∈ service.handoffs, ∀ row ∈ service.nonces.find? handoff.nonce,
    row.usedAt.isSome = true
  nodup : (service.handoffs.map Handoff.nonce).Nodup
  chained : Chained service.handoffs

def SingleFlows (service : GrantService) : Prop :=
  ∀ id other record twin, service.records.find? id = some record →
    service.records.find? other = some twin → record.assertion = twin.assertion → id = other

structure GrantSound (config : GrantConfig) (service : GrantService) : Prop where
  flows : FlowsFit service
  records : RecordsFit config service
  creations : CreationsFit service
  tasks : TasksFit service
  passes : PassesFit config service
  log : LogFits service
  single : SingleFlows service

theorem GrantSound.empty : GrantSound config .empty where
  flows _ _ found := by cases found
  records _ _ found := by cases found
  creations _ _ found := by cases found
  tasks _ _ found := by cases found
  passes _ _ found := by cases found
  log := ⟨by simp [GrantService.empty], by simp [GrantService.empty], List.nodup_nil, trivial⟩
  single _ _ _ _ found := by cases found

/-! Records over a step. -/

theorem GrantMove.now_le (move : GrantMove config service action after) :
    service.now ≤ after.now := by
  cases move with
  | ticked later => exact later
  | _ => exact le_refl _

theorem GrantMove.keeps_record (move : GrantMove config service action after) {id : FlowId}
    {record : FlowRecord} (found : service.records.find? id = some record) :
    ∃ later, after.records.find? id = some later ∧ later.assertion = record.assertion ∧
      later.checkedAt = record.checkedAt := by
  cases move with
  | @inserted creation opened pending pended fresh unused =>
      have other : id ≠ opened := by
        rintro rfl
        rw [fresh] at found
        cases found
      refine ⟨record, ?_, rfl, rfl⟩
      simp only
      rw [Keyed.Table.find?_set_ne _ _ other]
      exact found
  | @completed worker approved verified session bearer token task flow held row payload running
      stored recorded verifying fresh owner allowed =>
      by_cases same : id = task.flow
      · subst same
        rw [recorded] at found
        cases found
        exact ⟨_, Keyed.Table.find?_set_self _ _ _, rfl, rfl⟩
      · refine ⟨record, ?_, rfl, rfl⟩
        simp only
        rw [Keyed.Table.find?_set_ne _ _ same]
        exact found
  | @purged reaper locked ids pass running phase due =>
      simp only [GrantService.purge, Keyed.Table.find?_mapRows, found, Option.map_some]
      split
      · exact ⟨_, rfl, rfl, rfl⟩
      · exact ⟨_, rfl, rfl, rfl⟩
  | _ => exact ⟨record, found, rfl, rfl⟩

theorem GrantMove.record_origin (move : GrantMove config service action after) {id : FlowId}
    {later : FlowRecord} (found : after.records.find? id = some later) :
    (∃ record, service.records.find? id = some record ∧ record.assertion = later.assertion) ∨
      ∃ creation pending, action = .insert creation id ∧
        (service.creations.find? creation).join = some pending ∧
        later.assertion = pending.assertion ∧
        ∀ other flow, service.flows.find? other = some flow →
          flow.assertionJti ≠ pending.assertion.jti := by
  cases move with
  | @inserted creation opened pending pended fresh unused =>
      simp only [Keyed.Table.find?_set] at found
      split at found
      · rename_i same
        subst same
        cases found
        exact .inr ⟨creation, pending, rfl, pended, rfl, unused⟩
      · exact .inl ⟨later, found, rfl⟩
  | @completed worker approved verified session bearer token task flow held row payload running
      stored recorded verifying fresh owner allowed =>
      simp only [Keyed.Table.find?_set] at found
      split at found
      · rename_i same
        subst same
        cases found
        exact .inl ⟨held, recorded, rfl⟩
      · exact .inl ⟨later, found, rfl⟩
  | @purged reaper locked ids pass running phase due =>
      simp only [GrantService.purge, Keyed.Table.find?_mapRows] at found
      obtain ⟨record, held, changed⟩ := Option.map_eq_some_iff.mp found
      refine .inl ⟨record, held, ?_⟩
      split at changed
      · subst changed
        rfl
      · rw [changed]
  | _ => exact .inl ⟨later, found, rfl⟩

/-! Creations, tasks and the law of assertions. -/

theorem CreationsFit.step (creations : CreationsFit service)
    (allowed : keepsPace config service action)
    (move : GrantMove config service action after) : CreationsFit after := by
  have kept : ∀ creation pending, (service.creations.find? creation).join = some pending →
      Accepted pending.assertion pending.checkedAt ∧ pending.checkedAt ≤ after.now := by
    intro creation pending found
    obtain ⟨accepted, past⟩ := creations creation pending found
    exact ⟨accepted, past.trans move.now_le⟩
  intro creation pending found
  cases move with
  | @checked checking assertion accepted =>
      simp only [Keyed.Table.find?_set] at found
      split at found
      · cases found
        exact ⟨⟨accepted, allowed⟩, le_refl _⟩
      · exact kept creation pending found
  | refused =>
      simp only [Keyed.Table.find?_set] at found
      split at found
      · cases found
      · exact kept creation pending found
  | inserted pended fresh unused =>
      simp only [Keyed.Table.find?_set] at found
      split at found
      · cases found
      · exact kept creation pending found
  | _ => exact kept creation pending found

theorem TasksFit.step (tasks : TasksFit service) (flows : FlowsFit service)
    (records : RecordsFit config service) (move : GrantMove config service action after) :
    TasksFit after := by
  have kept : TasksFrom service after.tasks → TasksFit after := by
    intro from' worker task running
    obtain ⟨old, before, same, pubky, started⟩ := from' worker task running
    obtain ⟨record, found, expected, past⟩ := tasks worker old before
    obtain ⟨later, held, assertion, checked⟩ := move.keeps_record found
    refine ⟨later, same ▸ held, by rw [assertion, expected, pubky], ?_⟩
    rw [checked, ← started]
    exact past
  cases move with
  | @acquired worker owner id flow later found edit =>
      intro other task running
      simp only [GrantService.task, Keyed.Table.find?_set] at running
      split at running
      · cases running
        obtain ⟨record, held, fits⟩ := flows id flow found
        exact ⟨record, held, fits.pubky.symm, (records id record held).past⟩
      · exact tasks other task running
  | edited found edit from' => exact kept from'
  | idle from' => exact kept from'
  | completed running found recorded verifying fresh owner allowed =>
      exact kept (.removed service _)
  | _ => exact kept (.refl service)

theorem SingleFlows.step (sound : GrantSound config service)
    (allowed : keepsPace config service action)
    (move : GrantMove config service action after) : SingleFlows after := by
  -- The assertion of a record is not that of a flow that is inserted.
  have apart : ∀ creation id pending other record, action = .insert creation id →
      (service.creations.find? creation).join = some pending →
      (∀ held flow, service.flows.find? held = some flow →
        flow.assertionJti ≠ pending.assertion.jti) →
      service.records.find? other = some record → record.assertion ≠ pending.assertion := by
    rintro creation id pending other record rfl pended unused recorded same
    cases row : service.flows.find? other with
    | some flow =>
        obtain ⟨record', recorded', fits⟩ := sound.flows other flow row
        rw [recorded] at recorded'
        cases recorded'
        apply unused other flow row
        rw [fits.jti, same]
    | none =>
        have fits := sound.records other record recorded
        rw [row] at fits
        have gone := fits.gone rfl
        have first := fits.accepted.window
        have second := (sound.creations creation pending pended).1.window
        have soon := allowed pending pended
        rw [same] at first
        change (_ : ℕ) + _ ≤ (_ : ℕ) at gone
        change (_ : ℕ) + 65 ≤ (_ : ℕ) + _ at soon
        omega
  intro id other record twin found stored same
  rcases move.record_origin found with
    ⟨old, before, kept⟩ | ⟨creation, pending, acts, pended, is, unused⟩
  · rcases move.record_origin stored with
      ⟨older, earlier, held⟩ | ⟨creation, pending, acts, pended, is, unused⟩
    · exact sound.single id other old older before earlier (by rw [kept, held, same])
    · exact absurd (by rw [kept, same, is]) (apart creation other pending id old acts pended unused
        before)
  · rcases move.record_origin stored with
      ⟨older, earlier, held⟩ | ⟨creation', pending', acts', pended', is', unused'⟩
    · exact absurd (by rw [held, ← same, is]) (apart creation id pending other older acts pended
        unused earlier)
    · rw [acts] at acts'
      cases acts'
      rfl

/-! The log. -/

theorem LogFits.logged (log : LogFits service) {handoff : Handoff} {row : ResultNonce}
    (known : (service.records.find? handoff.flow).isSome = true)
    (nonce : service.nonces.find? handoff.nonce = some row) (unused : row.usedAt = none)
    (chained : Chained (handoff :: service.handoffs)) :
    LogFits { service with
      nonces := service.nonces.set handoff.nonce { row with usedAt := some service.now }
      handoffs := handoff :: service.handoffs } where
  known other member := by
    rcases List.mem_cons.mp member with rfl | older
    · exact known
    · exact log.known other older
  used other member held found := by
    simp only [Option.mem_def, Keyed.Table.find?_set] at found
    split at found
    · cases found
      rfl
    · rename_i apart
      rcases List.mem_cons.mp member with rfl | older
      · exact absurd rfl apart
      · exact log.used other older held found
  nodup := by
    refine List.nodup_cons.mpr ⟨fun member => ?_, log.nodup⟩
    obtain ⟨other, older, same⟩ := List.mem_map.mp member
    have used := log.used other older row (same ▸ nonce)
    rw [unused] at used
    cases used
  chained := chained

theorem resultOpen_columns {flow : GrantFlow} {presented : GrantService.Presented} {now : Time}
    (result : GrantService.resultOpen flow presented now = true) :
    flow.status = .complete ∧ flow.resultClaimedAt = none := by
  simp only [GrantService.resultOpen, Bool.and_eq_true, beq_iff_eq, Option.isNone_iff_eq_none]
    at result
  exact ⟨result.1.1.1.1, result.1.1.1.2⟩

theorem LogFits.step (log : LogFits service) (flows : FlowsFit service)
    (move : GrantMove config service action after) : LogFits after := by
  have known : ∀ handoff ∈ service.handoffs, (after.records.find? handoff.flow).isSome = true := by
    intro handoff member
    obtain ⟨record, found⟩ := Option.isSome_iff_exists.mp (log.known handoff member)
    obtain ⟨later, held, -⟩ := move.keeps_record found
    rw [held]
    rfl
  have dropped : ∀ kept : NonceId → Bool, ∀ handoff ∈ service.handoffs,
      ∀ row ∈ (service.nonces.keep kept).find? handoff.nonce, row.usedAt.isSome = true := by
    intro kept handoff member row found
    simp only [Option.mem_def, Keyed.Table.find?_keep] at found
    split at found
    · exact log.used handoff member row found
    · cases found
  cases move with
  | nonces running phase => exact ⟨known, dropped _, log.nodup, log.chained⟩
  | purged running phase due => exact ⟨known, dropped _, log.nodup, log.chained⟩
  | @issued request id flow purpose principal nonce row requests fresh =>
      refine ⟨known, fun handoff member held found => ?_, log.nodup, log.chained⟩
      simp only [GrantService.freshNonce, Bool.and_eq_true, List.all_eq_true, bne_iff_ne] at fresh
      simp only [Option.mem_def] at found
      rw [Keyed.Table.find?_set_ne _ _ (fresh.2 handoff member)] at found
      exact log.used handoff member held found
  | @ticketed request presented flow row requests found result nonce unused =>
      obtain ⟨record, recorded, fits⟩ := flows _ flow found
      have chained : Chained (⟨.ticket, presented.flow, presented.nonceId⟩ :: service.handoffs) :=
        ⟨fun claim => (by cases claim), log.chained⟩
      have logged := log.logged (by rw [recorded]; rfl) nonce unused chained
      exact ⟨logged.known, logged.used, logged.nodup, logged.chained⟩
  | @claimed request presented flow row requests found result delivered nonce unused =>
      obtain ⟨record, recorded, fits⟩ := flows _ flow found
      have chained : Chained (⟨.claim, presented.flow, presented.nonceId⟩ :: service.handoffs) := by
        refine ⟨fun _ => ⟨fits.delivered delivered, fun other member claim same => ?_⟩, log.chained⟩
        have claimed := fits.claimed other member claim same
        rw [(resultOpen_columns result).2] at claimed
        cases claimed
      have logged := log.logged (by rw [recorded]; rfl) nonce unused chained
      exact ⟨logged.known, logged.used, logged.nodup, logged.chained⟩
  | _ => exact ⟨known, log.used, log.nodup, log.chained⟩

/-! The reaper. -/

theorem GrantMove.result_origin (move : GrantMove config service action after)
    (flows : FlowsFit service) {id : FlowId} {later : GrantFlow} {session : SessionId}
    (found : after.flows.find? id = some later) (named : later.resultAuthSessionId = some session)
    (unclaimed : later.resultClaimedAt = none) :
    (∃ flow, service.flows.find? id = some flow ∧ flow.resultAuthSessionId = some session ∧
      flow.resultClaimedAt = none ∧ flow.terminalAt = later.terminalAt) ∨
      later.terminalAt = some service.now := by
  have edited : ∀ flow, service.flows.find? id = some flow → FlowEdit service id flow later →
      ∃ flow, service.flows.find? id = some flow ∧ flow.resultAuthSessionId = some session ∧
        flow.resultClaimedAt = none ∧ flow.terminalAt = later.terminalAt := by
    intro flow held edit
    cases edit with
    | working before after fresh => exact ⟨flow, held, named, unclaimed, rfl⟩
    | closed before after fresh closes =>
        obtain ⟨record, -, fits⟩ := flows id flow held
        obtain ⟨⟨row, issued⟩, -⟩ := fits.named session named
        have none' := fits.empty (by intro complete; rw [complete] at before; cases before)
        rw [none'] at issued
        cases issued
  have written : ∀ target flow row, service.flows.find? target = some flow →
      (service.flows.set target row).find? id = some later →
      (id = target ∧ later = row) ∨ service.flows.find? id = some later := by
    intro target flow row held stored
    rw [Keyed.Table.find?_set] at stored
    split at stored
    · cases stored
      exact .inl ⟨‹_›, rfl⟩
    · exact .inr stored
  cases move with
  | inserted pended fresh unused =>
      simp only [Keyed.Table.find?_set] at found
      split at found
      · cases found
        cases named
      · exact .inl ⟨later, found, named, unclaimed, rfl⟩
  | acquired held edit =>
      rcases written _ _ _ held found with ⟨rfl, rfl⟩ | same
      · exact .inl (edited _ held edit)
      · exact .inl ⟨later, same, named, unclaimed, rfl⟩
  | edited held edit from' =>
      rcases written _ _ _ held found with ⟨rfl, rfl⟩ | same
      · exact .inl (edited _ held edit)
      · exact .inl ⟨later, same, named, unclaimed, rfl⟩
  | completed running held recorded verifying fresh owner allowed =>
      rcases written _ _ _ held found with ⟨rfl, rfl⟩ | same
      · exact .inr rfl
      · exact .inl ⟨later, same, named, unclaimed, rfl⟩
  | closed running follows edits =>
      simp only [GrantService.updateFlows, Keyed.Table.find?_mapRows] at found
      obtain ⟨flow, held, changed⟩ := Option.map_eq_some_iff.mp found
      split at changed
      · rename_i member
        exact .inl (edited flow held (changed ▸ edits id flow member held))
      · subst changed
        exact .inl ⟨flow, held, named, unclaimed, rfl⟩
  | swept running phase =>
      simp only [GrantService.sweep, GrantService.updateFlows, Keyed.Table.find?_mapRows] at found
      obtain ⟨flow, held, changed⟩ := Option.map_eq_some_iff.mp found
      split at changed
      · subst changed
        cases named
      · subst changed
        exact .inl ⟨flow, held, named, unclaimed, rfl⟩
  | purged running phase due =>
      simp only [GrantService.purge, Keyed.Table.find?_keep] at found
      split at found
      · exact .inl ⟨later, found, named, unclaimed, rfl⟩
      · cases found
  | ticketed held result nonce unused =>
      rcases written _ _ _ held found with ⟨rfl, rfl⟩ | same
      · exact .inl ⟨_, held, named, unclaimed, rfl⟩
      · exact .inl ⟨later, same, named, unclaimed, rfl⟩
  | claimed held result delivered nonce unused =>
      rcases written _ _ _ held found with ⟨rfl, rfl⟩ | same
      · cases unclaimed
      · exact .inl ⟨later, same, named, unclaimed, rfl⟩
  | _ => exact .inl ⟨later, found, named, unclaimed, rfl⟩

theorem Cleared.step {time : Time} (cleared : Cleared config service time)
    (flows : FlowsFit service) (past : time ≤ service.now)
    (move : GrantMove config service action after) : Cleared config after time := by
  intro id later found due unclaimed
  cases named : later.resultAuthSessionId with
  | none => rfl
  | some session =>
      exfalso
      rcases move.result_origin flows found named unclaimed with
        ⟨flow, held, names, open', ended⟩ | ended
      · have none' := cleared id flow held (by rw [GrantService.purgeDue, ended]; exact due) open'
        rw [names] at none'
        cases none'
      · simp only [GrantService.purgeDue, ended, Option.any_some, decide_eq_true_eq] at due
        have long := config.longRetention
        change (_ : ℕ) ≤ (_ : ℕ) at due past
        omega

theorem sweep_cleared (flows : FlowsFit service) {reaper : ℕ} {locked : List FlowId}
    {pass : ReaperPass} (running : (service.reapers.find? reaper).join = some pass)
    (phase : pass.phase = .sweep) (allowed : keepsPace config service (.reap reaper locked)) :
    Cleared config (service.sweep (service.sweepBatch config pass.now locked)) pass.now := by
  intro id later found due unclaimed
  simp only [GrantService.sweep, GrantService.updateFlows, Keyed.Table.find?_mapRows] at found
  obtain ⟨flow, held, changed⟩ := Option.map_eq_some_iff.mp found
  split at changed
  · subst changed
    rfl
  · rename_i missed
    subst changed
    cases named : flow.resultAuthSessionId with
    | none => rfl
    | some session =>
        exfalso
        obtain ⟨record, recorded, fits⟩ := flows id flow held
        obtain ⟨⟨row, issued⟩, time, ended, token⟩ := fits.named session named
        have complete : flow.status = .complete := by
          by_contra other
          rw [fits.empty other] at issued
          cases issued
        apply missed
        apply allowed pass running phase (id, flow) (Keyed.lookup_mem _ _ _ held) _ due
        have long := config.longRetention
        simp only [GrantService.purgeDue, ended, Option.any_some, decide_eq_true_eq] at due
        simp only [GrantService.sweepDue, complete, unclaimed, token, named, Option.any_some,
          Option.isNone_none, Option.isSome_some, Bool.or_true, Bool.and_true, beq_self_eq_true,
          Bool.true_and, decide_eq_true_eq]
        exact (Nat.add_le_add_left (Nat.le_trans (by decide) long) time).trans due

theorem closingPhase_open {phase next : ReaperPhase} (follows : closingPhase phase = some next) :
    next.pastSweep = false := by
  cases phase with
  | expire | stale | staleExchanging =>
      cases follows
      rfl
  | _ => cases follows

theorem PassesFit.step (passes : PassesFit config service) (flows : FlowsFit service)
    (allowed : keepsPace config service action)
    (move : GrantMove config service action after) : PassesFit config after := by
  have kept : ∀ reaper pass, (service.reapers.find? reaper).join = some pass →
      pass.now ≤ after.now ∧ (pass.phase.pastSweep = true → Cleared config after pass.now) := by
    intro reaper pass found
    obtain ⟨past, cleared⟩ := passes reaper pass found
    exact ⟨past.trans move.now_le, fun done => (cleared done).step flows past move⟩
  -- A pass that a step of its reaper leaves.
  have moved : ∀ reaper, ∀ pass : Option ReaperPass,
      (∀ next ∈ pass, next.now ≤ after.now ∧
        (next.phase.pastSweep = true → Cleared config after next.now)) →
      after.reapers = service.reapers.set reaper pass → PassesFit config after := by
    intro reaper pass fits same other next found
    rw [same, Keyed.Table.find?_set] at found
    split at found
    · exact fits next found
    · exact kept other next found
  cases move with
  | @startedReaper reaper =>
      refine moved reaper _ ?_ rfl
      rintro next ⟨⟩
      exact ⟨le_refl _, fun done => by cases done⟩
  | @stoppedReaper reaper => exact moved reaper none (by rintro next ⟨⟩) rfl
  | @closed reaper locked ids pass phase change running follows edits =>
      refine moved reaper _ ?_ rfl
      rintro next ⟨⟩
      refine ⟨(passes reaper pass running).1, fun done => ?_⟩
      rw [closingPhase_open follows] at done
      cases done
  | @swept reaper locked pass running phase =>
      refine moved reaper _ ?_ rfl
      rintro next ⟨⟩
      exact ⟨(passes reaper pass running).1, fun _ => sweep_cleared flows running phase allowed⟩
  | @nonces reaper locked pass kept' running phase =>
      refine moved reaper _ ?_ rfl
      rintro next ⟨⟩
      exact ⟨(passes reaper pass running).1,
        fun _ => (passes reaper pass running).2 (by rw [phase]; rfl)⟩
  | @requests reaper locked pass kept' running phase =>
      refine moved reaper _ ?_ rfl
      rintro next ⟨⟩
      exact ⟨(passes reaper pass running).1,
        fun _ => (passes reaper pass running).2 (by rw [phase]; rfl)⟩
  | @purged reaper locked ids pass running phase due =>
      exact moved reaper none (by rintro next ⟨⟩) rfl
  | _ => exact kept

/-! Rows over a step. -/

/-- An UPDATE of one row. -/
theorem FlowsFit.set (flows : FlowsFit service) {id : FlowId} {flow later : GrantFlow}
    (found : service.flows.find? id = some flow)
    (fits : ∀ record, service.records.find? id = some record →
      FlowFits service.sessions service.handoffs id flow record →
      FlowFits service.sessions service.handoffs id later record) :
    FlowsFit { service with flows := service.flows.set id later } := by
  intro other row stored
  simp only [Keyed.Table.find?_set] at stored
  split at stored
  · rename_i same
    subst same
    cases stored
    obtain ⟨record, recorded, before⟩ := flows other flow found
    exact ⟨record, recorded, fits record recorded before⟩
  · exact flows other row stored

theorem FlowFits.logged {sessions : Keyed.Table SessionId AuthSession} {handoffs : List Handoff}
    {id : FlowId} {flow : GrantFlow} {record : FlowRecord} {handoff : Handoff}
    (fits : FlowFits sessions handoffs id flow record)
    (claims : handoff.purpose = .claim → handoff.flow = id → flow.resultClaimedAt.isSome = true) :
    FlowFits sessions (handoff :: handoffs) id flow record where
  __ := fits
  delivered given := by
    obtain ⟨ticket, member, is⟩ := fits.delivered given
    exact ⟨ticket, List.mem_cons_of_mem _ member, is⟩
  claimed other member claim same := by
    rcases List.mem_cons.mp member with rfl | older
    · exact claims claim same
    · exact fits.claimed other older claim same

theorem FlowsFit.logged (flows : FlowsFit service) (handoff : Handoff) {flow later : GrantFlow}
    (found : service.flows.find? handoff.flow = some flow)
    (fits : ∀ record, FlowFits service.sessions service.handoffs handoff.flow flow record →
      FlowFits service.sessions (handoff :: service.handoffs) handoff.flow later record) :
    FlowsFit { service with
      handoffs := handoff :: service.handoffs
      flows := service.flows.set handoff.flow later } := by
  intro other row stored
  simp only [Keyed.Table.find?_set] at stored
  split at stored
  · rename_i same
    subst same
    cases stored
    obtain ⟨record, recorded, before⟩ := flows _ flow found
    exact ⟨record, recorded, fits record before⟩
  · rename_i apart
    obtain ⟨record, recorded, before⟩ := flows other row stored
    exact ⟨record, recorded, before.logged fun _ same => absurd same.symm apart⟩

theorem FlowFits.sessions_changed {sessions others : Keyed.Table SessionId AuthSession}
    {handoffs : List Handoff} {id : FlowId} {flow : GrantFlow} {record : FlowRecord}
    (fits : FlowFits sessions handoffs id flow record)
    (gone : ∀ issued ∈ record.sessions, sessions.find? issued.1 = none →
      others.find? issued.1 = none) : FlowFits others handoffs id flow record where
  __ := fits
  swept issued member unnamed := gone issued member (fits.swept issued member unnamed)

theorem edit_fits (sound : GrantSound config service) {id : FlowId} {flow later : GrantFlow}
    (edit : FlowEdit service id flow later) (record : FlowRecord)
    (recorded : service.records.find? id = some record)
    (fits : FlowFits service.sessions service.handoffs id flow record) :
    FlowFits service.sessions service.handoffs id later record := by
  apply fits.edit edit (sound.records id record recorded).past
  rintro worker task running rfl
  obtain ⟨held, stored, -, started⟩ := sound.tasks worker task running
  rw [recorded] at stored
  cases stored
  exact started

theorem freshSession_unused {session : SessionId} (fresh : service.freshSession session = true)
    {id : FlowId} {record : FlowRecord} (found : service.records.find? id = some record) :
    ∀ issued ∈ record.sessions, issued.1 ≠ session := by
  simp only [GrantService.freshSession, Bool.and_eq_true, List.all_eq_true, bne_iff_ne] at fresh
  exact fresh.2 (id, record) (Keyed.lookup_mem _ _ _ found)

theorem sweep_fits (sound : GrantSound config service) (ids : List FlowId) :
    FlowsFit (service.sweep ids) := by
  intro id later found
  simp only [GrantService.sweep, GrantService.updateFlows, Keyed.Table.find?_mapRows] at found
  obtain ⟨flow, held, changed⟩ := Option.map_eq_some_iff.mp found
  obtain ⟨record, recorded, fits⟩ := sound.flows id flow held
  refine ⟨record, recorded, ?_⟩
  have kept : FlowFits (service.sweep ids).sessions service.handoffs id flow record := by
    apply fits.sessions_changed
    intro issued member gone
    simp only [GrantService.sweep, Keyed.Table.find?_keep, gone, ite_self]
  split at changed
  · rename_i member
    subst changed
    refine { kept with swept := fun issued listed _ => ?_, named := by rintro session ⟨⟩ }
    cases named : flow.resultAuthSessionId with
    | none => exact kept.swept issued listed named
    | some session =>
        obtain ⟨⟨row, names⟩, -⟩ := fits.named session named
        cases (sound.records id record recorded).only listed names
        have listed' : session ∈ ids.filterMap fun id =>
            (service.flows.find? id).bind (·.resultAuthSessionId) :=
          List.mem_filterMap.mpr ⟨id, member, by rw [held]; exact named⟩
        simp only [GrantService.sweep, Keyed.Table.find?_keep]
        rw [if_neg (by simpa using listed')]
  · subst changed
    exact kept

theorem FlowsFit.step (sound : GrantSound config service)
    (move : GrantMove config service action after) : FlowsFit after := by
  cases move with
  | @inserted creation id pending found fresh unused =>
      intro other row stored
      simp only [Keyed.Table.find?_set] at stored ⊢
      split at stored
      · rename_i same
        subst same
        cases stored
        refine ⟨_, if_pos rfl, ?_⟩
        constructor
        case claimed =>
          -- The log names flows that have a record.
          intro handoff member claim flow
          have known := sound.log.known handoff member
          rw [flow, fresh] at known
          cases known
        case expires => exact Nat.le_add_right _ _
        all_goals simp [GrantService.newFlow]
      · rename_i apart
        rw [if_neg apart]
        exact sound.flows other row stored
  | acquired found edit => exact sound.flows.set found (edit_fits sound edit)
  | edited found edit from' => exact sound.flows.set found (edit_fits sound edit)
  | @completed worker approved verified session bearer token task flow record row payload running
      found recorded verifying fresh owner allowed =>
      intro other later stored
      simp only [Keyed.Table.find?_set] at stored ⊢
      split at stored
      · rename_i same
        subst same
        cases stored
        obtain ⟨record', recorded', fits⟩ := sound.flows _ flow found
        rw [recorded] at recorded'
        cases recorded'
        refine ⟨_, if_pos rfl, ?_⟩
        have past := (sound.records _ record recorded).past
        exact { fits with
          leased := by rintro time ⟨⟩
          ended := by
            rintro time ⟨⟩
            exact fits.created.le.trans past
          empty := fun other => absurd rfl other
          swept := by rintro issued member ⟨⟩
          named := by
            rintro named ⟨⟩
            exact ⟨⟨row, List.mem_cons_self⟩, service.now, rfl, rfl⟩ }
      · rename_i apart
        rw [if_neg apart]
        obtain ⟨kept, held, fits⟩ := sound.flows other later stored
        refine ⟨kept, held, fits.sessions_changed fun issued member gone => ?_⟩
        rw [Keyed.Table.find?_set_ne _ _ (freshSession_unused fresh held issued member)]
        exact gone
  | @closed reaper locked ids pass phase change running follows edits =>
      intro id later stored
      simp only [GrantService.updateFlows, Keyed.Table.find?_mapRows] at stored
      obtain ⟨flow, held, changed⟩ := Option.map_eq_some_iff.mp stored
      obtain ⟨record, recorded, fits⟩ := sound.flows id flow held
      refine ⟨record, recorded, ?_⟩
      split at changed
      · rename_i member
        subst changed
        exact edit_fits sound (edits id flow member held) record recorded fits
      · subst changed
        exact fits
  | swept running phase => exact sweep_fits sound _
  | @purged reaper locked ids pass running phase due =>
      intro id flow stored
      simp only [GrantService.purge, Keyed.Table.find?_keep] at stored
      split at stored
      · rename_i stays
        obtain ⟨record, recorded, fits⟩ := sound.flows id flow stored
        refine ⟨record, ?_, fits⟩
        have apart : id ∉ ids := by simpa using stays
        simp only [GrantService.purge, Keyed.Table.find?_mapRows, recorded, Option.map_some,
          if_neg apart]
      · cases stored
  | @ticketed request presented flow row requests found result nonce unused =>
      refine sound.flows.logged ⟨.ticket, presented.flow, presented.nonceId⟩ found ?_
      intro record fits
      refine { fits with delivered := fun _ => ?_, claimed := ?_ }
      · exact ⟨_, List.mem_cons_self, rfl, rfl⟩
      · exact (fits.logged fun claim => by cases claim).claimed
  | @claimed request presented flow row requests found result delivered nonce unused =>
      refine sound.flows.logged ⟨.claim, presented.flow, presented.nonceId⟩ found ?_
      intro record fits
      refine { fits with delivered := fun given => ?_, claimed := fun _ _ _ _ => rfl }
      obtain ⟨ticket, member, is⟩ := fits.delivered given
      exact ⟨ticket, List.mem_cons_of_mem _ member, is⟩
  | @revoked session row found =>
      intro id flow stored
      obtain ⟨record, recorded, fits⟩ := sound.flows id flow stored
      refine ⟨record, recorded, fits.sessions_changed fun issued member gone => ?_⟩
      have apart : issued.1 ≠ session := by
        rintro rfl
        rw [gone] at found
        cases found
      rw [Keyed.Table.find?_set_ne _ _ apart]
      exact gone
  | _ => exact sound.flows

theorem RecordFits.mono {now later : Time} {row other : Option GrantFlow} {record : FlowRecord}
    (fits : RecordFits config now row record) (past : now ≤ later)
    (stays : other = none → row = none) : RecordFits config later other record where
  __ := fits
  past := fits.past.trans past
  gone missing := (fits.gone (stays missing)).trans past

theorem RecordsFit.step (sound : GrantSound config service)
    (move : GrantMove config service action after) : RecordsFit config after := by
  -- Records that are as they were, over rows that are still there.
  have kept : ∀ id record, service.records.find? id = some record →
      (after.flows.find? id = none → service.flows.find? id = none) →
      RecordFits config after.now (after.flows.find? id) record := by
    intro id record recorded stays
    exact (sound.records id record recorded).mono move.now_le stays
  have set : ∀ target row id, (service.flows.set target row).find? id = none →
      service.flows.find? id = none := by
    intro target row id missing
    rw [Keyed.Table.find?_set] at missing
    split at missing
    · cases missing
    · exact missing
  cases move with
  | @inserted creation id pending found fresh unused =>
      intro other record recorded
      simp only [Keyed.Table.find?_set] at recorded
      split at recorded
      · cases recorded
        obtain ⟨accepted, past⟩ := sound.creations creation pending found
        constructor
        case accepted => exact accepted
        case past => exact past
        case gone =>
          intro missing
          subst other
          simp at missing
        all_goals simp
      · exact kept other record recorded (set _ _ other)
  | acquired found edit => exact fun id record recorded => kept id record recorded (set _ _ id)
  | edited found edit from' => exact fun id record recorded => kept id record recorded (set _ _ id)
  | @completed worker approved verified session bearer token task flow record row payload running
      found recorded verifying fresh owner allowed =>
      intro id later stored
      simp only [Keyed.Table.find?_set] at stored
      split at stored
      · cases stored
        subst id
        obtain ⟨record', recorded', fits⟩ := sound.flows _ flow found
        rw [recorded] at recorded'
        cases recorded'
        have unissued : record.sessions = [] :=
          fits.empty (by intro complete; rw [verifying] at complete; cases complete)
        have before := sound.records _ record recorded
        obtain ⟨held, stored, expected, -⟩ := sound.tasks worker task running
        rw [recorded] at stored
        cases stored
        refine { before with single := ?_, bound := ?_, gone := ?_, purged := ?_ }
        · rw [unissued]
          exact le_refl 1
        · intro issued member
          rw [unissued, List.mem_singleton] at member
          subst member
          exact ⟨owner.trans expected.symm, allowed⟩
        · intro missing
          simp at missing
        · rw [fits.standing]
          rintro status ⟨⟩
      · exact kept id later stored (set _ _ id)
  | @closed reaper locked ids pass phase change running follows edits =>
      intro id record recorded
      apply kept id record recorded
      simp only [GrantService.updateFlows, Keyed.Table.find?_mapRows]
      exact Option.map_eq_none_iff.mp
  | swept running phase =>
      intro id record recorded
      apply kept id record recorded
      simp only [GrantService.sweep, GrantService.updateFlows, Keyed.Table.find?_mapRows]
      exact Option.map_eq_none_iff.mp
  | @purged reaper locked ids pass running phase due =>
      intro id later stored
      simp only [GrantService.purge, Keyed.Table.find?_mapRows] at stored
      obtain ⟨record, recorded, changed⟩ := Option.map_eq_some_iff.mp stored
      split at changed
      · rename_i member
        subst changed
        obtain ⟨flow, found, ends⟩ := due id member
        obtain ⟨record', recorded', fits⟩ := sound.flows id flow found
        rw [recorded] at recorded'
        cases recorded'
        simp only [GrantService.purgeDue, Option.any_eq_true, decide_eq_true_eq] at ends
        obtain ⟨time, ended, passed⟩ := ends
        refine { sound.records id record recorded with gone := fun _ => ?_, purged := ?_ }
        · have early : record.checkedAt ≤ time := fits.created.symm.le.trans (fits.ended time ended)
          have now := (sound.passes reaper pass running).1
          exact (Nat.add_le_add_right early _).trans (passed.trans now)
        · rw [found]
          rintro status ⟨⟩ other
          exact fits.empty other
      · rename_i apart
        subst changed
        apply kept id record recorded
        simp only [GrantService.purge, Keyed.Table.find?_keep]
        rw [if_pos (by simpa using apart)]
        exact fun missing => missing
  | ticketed found result nonce unused =>
      exact fun id record recorded => kept id record recorded (set _ _ id)
  | claimed found result delivered nonce unused =>
      exact fun id record recorded => kept id record recorded (set _ _ id)
  | _ => exact fun id record recorded => kept id record recorded fun missing => missing

theorem GrantSound.step (sound : GrantSound config service)
    (allowed : keepsPace config service action)
    (move : GrantMove config service action after) : GrantSound config after where
  flows := FlowsFit.step sound move
  records := RecordsFit.step sound move
  creations := sound.creations.step allowed move
  tasks := sound.tasks.step sound.flows sound.records move
  passes := sound.passes.step sound.flows allowed move
  log := sound.log.step sound.flows move
  single := SingleFlows.step sound allowed move

theorem reachable_grant_sound
    (reached : Runs.Reachable (grantHandoff config) (keepsPace config) service) :
    GrantSound config service := by
  refine Runs.invariant (grantHandoff config) (keepsPace config) (GrantSound config) ?_ ?_ reached
  · rintro start rfl
    exact .empty
  · intro before action after sound allowed stepped
    exact sound.step allowed (grant_step_inverts stepped)

/-! The law. -/

theorem Chained.split {newest handoffs older : List Handoff} {claim : Handoff}
    (chained : Chained handoffs) (log : handoffs = newest ++ claim :: older)
    (claims : claim.purpose = .claim) :
    (∃ ticket ∈ older, ticket.purpose = .ticket ∧ ticket.flow = claim.flow) ∧
      ∀ other ∈ older, other.purpose = .claim → other.flow ≠ claim.flow := by
  induction newest generalizing handoffs with
  | nil =>
      subst log
      exact chained.1 claims
  | cons head rest ih =>
      subst log
      exact ih chained.2 rfl

theorem GrantMove.deleted_row (move : GrantMove config service action after) {id : FlowId}
    {flow : GrantFlow} (found : service.flows.find? id = some flow)
    (deleted : after.flows.find? id = none) :
    ∃ reaper pass, (service.reapers.find? reaper).join = some pass ∧ pass.phase = .purge ∧
      GrantService.purgeDue config pass.now flow = true := by
  have set : ∀ target row, (service.flows.set target row).find? id ≠ none := by
    intro target row missing
    rw [Keyed.Table.find?_set] at missing
    split at missing
    · cases missing
    · rw [found] at missing
      cases missing
  have mapped : ∀ change, (service.flows.mapRows change).find? id ≠ none := by
    intro change missing
    rw [Keyed.Table.find?_mapRows, found] at missing
    cases missing
  cases move with
  | inserted => exact absurd deleted (set _ _)
  | acquired => exact absurd deleted (set _ _)
  | edited => exact absurd deleted (set _ _)
  | completed => exact absurd deleted (set _ _)
  | ticketed => exact absurd deleted (set _ _)
  | claimed => exact absurd deleted (set _ _)
  | closed => exact absurd deleted (mapped _)
  | swept => exact absurd deleted (mapped _)
  | @purged reaper locked ids pass running phase due =>
      refine ⟨reaper, pass, running, phase, ?_⟩
      simp only [GrantService.purge, Keyed.Table.find?_keep, found] at deleted
      split at deleted
      · cases deleted
      · rename_i member
        obtain ⟨held, same, ends⟩ := due id (by simpa using member)
        rw [found] at same
        cases same
        exact ends
  | _ =>
      rw [found] at deleted
      cases deleted

/-- Over every run that meets the condition. -/
theorem grant_handoff_is_one_use (config : GrantConfig) (service after : GrantService)
    (action : GrantAction)
    (reached : Runs.Reachable (grantHandoff config) (keepsPace config) service)
    (stepped : (grantHandoff config).step service action = some after) :
    (∀ id record, service.records.find? id = some record → record.sessions.length ≤ 1 ∧
      ∀ issued ∈ record.sessions, issued.2.pubky = record.assertion.expectedPubky ∧
        ∀ capability ∈ issued.2.capabilities, allowlistedCapability capability = true) ∧
    ((service.handoffs.map Handoff.nonce).Nodup ∧
      ∀ newer claim older, service.handoffs = newer ++ claim :: older → claim.purpose = .claim →
        (∃ ticket ∈ older, ticket.purpose = .ticket ∧ ticket.flow = claim.flow) ∧
          ∀ other ∈ older, other.purpose = .claim → other.flow ≠ claim.flow) ∧
    (∀ id record status, service.records.find? id = some record →
      (service.flows.find? id).map (·.status) = some status ∨ record.purgedAs = some status →
      status ∈ [GrantStatus.mismatch, .expired, .cancelled, .invalid, .failed] →
      record.sessions = []) ∧
    (∀ id flow record, service.flows.find? id = some flow → after.flows.find? id = none →
      service.records.find? id = some record → flow.resultClaimedAt = none →
      ∀ issued ∈ record.sessions, ∀ row ∈ service.sessions.find? issued.1,
        row.usable service.now = false) ∧
    ∀ id other record twin, service.records.find? id = some record →
      service.records.find? other = some twin → record.assertion = twin.assertion →
      id = other := by
  have sound := reachable_grant_sound reached
  refine ⟨fun id record found => ?_, ⟨sound.log.nodup, fun newer claim older log claims => ?_⟩,
    fun id record status found ends unsettled => ?_,
    fun id flow record found deleted recorded unclaimed issued member row held => ?_, sound.single⟩
  · have fits := sound.records id record found
    exact ⟨fits.single, fits.bound⟩
  · exact sound.log.chained.split log claims
  · have incomplete : status ≠ .complete := by
      rintro rfl
      simp at unsettled
    rcases ends with standing | purged
    · obtain ⟨flow, row, same⟩ := Option.map_eq_some_iff.mp standing
      obtain ⟨record', found', fits⟩ := sound.flows id flow row
      rw [found] at found'
      cases found'
      apply fits.empty
      rw [same]
      exact incomplete
    · exact (sound.records id record found).purged status purged incomplete
  · obtain ⟨reaper, pass, running, phase, due⟩ :=
      (grant_step_inverts stepped).deleted_row found deleted
    have cleared := (sound.passes reaper pass running).2 (by rw [phase]; rfl)
    obtain ⟨record', recorded', fits⟩ := sound.flows id flow found
    rw [recorded] at recorded'
    cases recorded'
    have gone := fits.swept issued member (cleared id flow found due unclaimed)
    rw [Option.mem_def, gone] at held
    cases held

/-! Samples. -/

def sampleGrants : GrantConfig where
  flowTtlSeconds := 300
  verifyLeaseSeconds := 30
  maxLiveFlows := 8
  reaperBatchSize := 100
  terminalRetentionSeconds := 600
  sessionTtlSeconds := 3600
  covers requested granted := requested.toList.isPrefixOf granted.toList
  longRetention := by decide

/-- An assertion for `alice` that lives from `iat` to `exp`. -/
def aliceAssertion (iat exp : Int64) : Assertion := ⟨7, iat, exp, "alice", 70⟩

def privateFiles : Capability := ⟨privAppScope, [.read]⟩

def presentedAs (purpose : NonceId) : GrantService.Presented :=
  ⟨1, purpose, purpose, "client", 70, 90, true⟩

/-- A flow of `alice`, approved by her and completed by a worker. -/
def completedGrant : List GrantAction :=
  [.tick 1000, .check 1 (aliceAssertion 1000 1060), .insert 1 1, .acquire 1 11 1,
    .exchange 1 "alice" [privateFiles], .settle 1 "alice" [privateFiles] 5 80 90]

/-- The session is fetched, and the flow is purged after the retention. -/
def fetchedGrant : List GrantAction :=
  completedGrant ++
    [.nonce 1 21 1 .ticket "client" 21, .nonce 2 22 1 .claim "client" 22,
      .ticket 3 (presentedAs 21), .claim 4 (presentedAs 22)]

theorem fetched_grant_is_purged :
    ∃ service after, Runs.Reachable (grantHandoff sampleGrants) (keepsPace sampleGrants) service ∧
      (grantHandoff sampleGrants).step service (.reap 1 []) = some after ∧
      after.flows.find? 1 = none ∧
      (service.handoffs.map Handoff.nonce).Nodup ∧ service.handoffs.length = 2 := by
  obtain ⟨service, reached, after, stepped, purged, logged⟩ :=
    @Runs.exists_reachable_of_run _ _ (grantHandoff sampleGrants) (keepsPace sampleGrants) .empty
      rfl (fetchedGrant ++ [.tick 2000, .startReaper 1] ++ List.replicate 6 (.reap 1 []))
      (fun service => ∃ after ∈ (grantHandoff sampleGrants).step service (.reap 1 []),
        after.flows.find? 1 = none ∧ service.handoffs.length = 2)
      (by decide +kernel) (by decide +kernel)
  have law := grant_handoff_is_one_use sampleGrants service after (.reap 1 []) reached stepped
  exact ⟨service, after, reached, stepped, purged, law.2.1.1, logged⟩

/-- The lifetime of the assertion overflows, so it is accepted again when its
first flow has been purged. -/
theorem replayed_assertion_opens_two_flows :
    ∃ service, Runs.Reachable (grantHandoff sampleGrants) Runs.anyStep service ∧
      ∃ record ∈ service.records.find? 1, ∃ twin ∈ service.records.find? 2,
        record.assertion = twin.assertion ∧
          validateAssertionTimes (-1) Int64.maxValue service.now = true :=
  @Runs.exists_reachable_of_run _ _ (grantHandoff sampleGrants) Runs.anyStep .empty rfl
    ([.tick 1000, .check 1 (aliceAssertion (-1) Int64.maxValue), .insert 1 1, .cancel 1 1 70,
      .tick 2000, .startReaper 1] ++ List.replicate 7 (.reap 1 []) ++
      [.check 1 (aliceAssertion (-1) Int64.maxValue), .insert 1 2]) _
    (Runs.meets_anyStep _ _ _) (by decide +kernel)

end MarketplaceService
