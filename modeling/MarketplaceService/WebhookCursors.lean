import MarketplaceService.WebhookEndings

/-!
The cursors of webhooks and of the event feed. Sequences are drawn when events
are inserted, and events become visible when their transactions commit. A
reader that finds a sequence while a lower one is still in a transaction moves
its cursor past an event that it has not seen. Nothing is skipped in the runs
whose readers meet no such transaction, and whose passes find the log as their
batch left it when they ask for the highest sequence.
-/

namespace MarketplaceService

variable {config : WebhookConfig} {service after : WebhookService} {action : WebhookAction}

/-! The condition. -/

/-- No event of the seller that is still in a transaction has a sequence below
one that can be read. -/
def WebhookService.quiet (service : WebhookService) (seller : Pubky) : Prop :=
  ∀ event ∈ service.openEvents, event.sellerPubky = some seller →
    maxSequence service.events < event.sequence

instance (service : WebhookService) (seller : Pubky) : Decidable (service.quiet seller) :=
  inferInstanceAs (Decidable (∀ event ∈ service.openEvents, event.sellerPubky = some seller →
    maxSequence service.events < event.sequence))

/-- What the pass is about to read the log for. -/
inductive PendingRead where
  | batch (endpoint : EndpointId)
  | highest (endpoint : EndpointId) (cursor : ℕ) (rows : List DomainEvent)

def WebhookPhase.pendingRead : WebhookPhase → Option PendingRead
  | .room id .. => some (.batch id)
  | .batch id cursor _ rows _ => some (.highest id cursor rows)
  | _ => none

/-- A read for an endpoint is quiet, and the highest sequence is read before
another event of the seller has committed. -/
def PendingRead.undisturbed (config : WebhookConfig) (service : WebhookService) (now : Time) :
    PendingRead → Prop
  | .batch id => ∀ seller ∈ service.sellerOf id, service.quiet seller
  | .highest id cursor rows => ∀ seller ∈ service.sellerOf id,
      service.quiet seller ∧ config.sellerEvents service.events seller cursor now = rows

instance (config : WebhookConfig) (service : WebhookService) (now : Time) :
    DecidablePred (PendingRead.undisturbed config service now)
  | .batch id => inferInstanceAs (Decidable (∀ seller ∈ service.sellerOf id, service.quiet seller))
  | .highest id cursor rows =>
      inferInstanceAs (Decidable (∀ seller ∈ service.sellerOf id, service.quiet seller ∧
        config.sellerEvents service.events seller cursor now = rows))

def quietReads (config : WebhookConfig) (service : WebhookService) : WebhookAction → Prop
  | .add _ seller _ | .page seller _ _ => service.quiet seller
  | .advance worker =>
      ∀ pass ∈ service.pass worker, ∀ read ∈ pass.phase.pendingRead,
        read.undisturbed config service pass.now
  | _ => True

instance (config : WebhookConfig) (service : WebhookService) :
    DecidablePred (quietReads config service)
  | .add _ seller _ | .page seller _ _ => inferInstanceAs (Decidable (service.quiet seller))
  | .advance worker =>
      inferInstanceAs (Decidable (∀ pass ∈ service.pass worker,
        ∀ read ∈ pass.phase.pendingRead, read.undisturbed config service pass.now))
  | .tick _ | .insert .. | .finish .. | .delete .. | .start _ | .claim .. | .answer .. | .stop _ =>
      .isTrue trivial

/-! Open events. -/

def Below (service : WebhookService) (seller : Pubky) (cursor : ℕ) : Prop :=
  cursor < service.nextSequence ∧
    ∀ event ∈ service.openEvents, event.sellerPubky = some seller → cursor < event.sequence

theorem openEvents_iff {event : DomainEvent} :
    event ∈ service.openEvents ↔ ∃ transaction, service.Holds (some transaction) event := by
  constructor
  · intro member
    obtain ⟨⟨transaction, written⟩, listed, inside⟩ := List.mem_flatMap.mp member
    exact ⟨transaction, written, service.transactions.find?_of_mem listed, inside⟩
  · rintro ⟨transaction, written, found, inside⟩
    exact List.mem_flatMap.mpr ⟨(transaction, written), Keyed.lookup_mem _ _ _ found, inside⟩

structure SameLog (service after : WebhookService) : Prop where
  events : after.events = service.events
  transactions : after.transactions = service.transactions
  sequence : after.nextSequence = service.nextSequence

theorem SameLog.openEvents (same : SameLog service after) :
    after.openEvents = service.openEvents := by
  simp only [WebhookService.openEvents, same.transactions]

theorem Below.same {seller : Pubky} {cursor : ℕ} (below : Below service seller cursor)
    (same : SameLog service after) : Below after seller cursor := by
  unfold Below
  rw [same.sequence, same.openEvents]
  exact below

theorem WebhookMove.log (move : WebhookMove config service action after) :
    SameLog service after ∨ (∃ transaction event, action = .insert transaction event) ∨
      ∃ transaction commits, action = .finish transaction commits := by
  cases move with
  | @inserted transaction event fresh => exact .inr (.inl ⟨transaction, event, rfl⟩)
  | @finished transaction commits written found => exact .inr (.inr ⟨transaction, commits, rfl⟩)
  | advanced running moved =>
      obtain ⟨events, transactions, sequence, -⟩ := moved.log
      exact .inl ⟨events, transactions, sequence⟩
  | @answered worker status pass delivery rest running phase =>
      obtain ⟨deliveries, deadLetters, sent, buried, framed⟩ :=
        persistOutcome_frame config delivery pass.now status service
      rw [framed]
      exact .inl ⟨rfl, rfl, rfl⟩
  | _ => exact .inl ⟨rfl, rfl, rfl⟩

/-- New sequences are above every cursor, and a transaction that ends leaves
fewer open events. -/
theorem Below.step {seller : Pubky} {cursor : ℕ} (below : Below service seller cursor)
    (move : WebhookMove config service action after) : Below after seller cursor := by
  rcases move.log with same | ⟨transaction, event, rfl⟩ | ⟨transaction, commits, rfl⟩
  · exact below.same same
  · cases move with
    | inserted fresh =>
        refine ⟨below.1.trans (Nat.lt_succ_self _), fun other member sells => ?_⟩
        obtain ⟨owner, holds⟩ := openEvents_iff.mp member
        rcases holds_insert holds with old | ⟨-, rfl⟩
        · exact below.2 other (openEvents_iff.mpr ⟨owner, old⟩) sells
        · exact below.1
  · cases move with
    | finished found =>
        refine ⟨below.1, fun other member sells => ?_⟩
        obtain ⟨owner, holds⟩ := openEvents_iff.mp member
        rcases holds_finish holds with ⟨old, -⟩ | ⟨none, -⟩
        · exact below.2 other (openEvents_iff.mpr ⟨owner, old⟩) sells
        · cases none

theorem Below.committed {seller : Pubky} {cursor : ℕ} (below : Below service seller cursor)
    (move : WebhookMove config service action after) {event : DomainEvent}
    (logged : event ∈ after.events) (sells : event.sellerPubky = some seller) :
    event ∈ service.events ∨ cursor < event.sequence := by
  rcases move.log with same | ⟨transaction, other, rfl⟩ | ⟨transaction, commits, rfl⟩
  · exact .inl (same.events ▸ logged)
  · cases move with
    | inserted fresh => exact .inl logged
  · cases move with
    | @finished _ _ written found =>
        rcases @holds_finish service transaction commits written none event logged with
          ⟨old, -⟩ | ⟨-, -, new⟩
        · exact .inl old
        · exact .inr (below.2 event (openEvents_iff.mpr ⟨transaction, written, found, new⟩) sells)

theorem quiet_below {seller : Pubky} {cursor : ℕ} (orderly : Orderly service)
    (positive : 0 < service.nextSequence) (quiet : service.quiet seller)
    (within : cursor ≤ maxSequence service.events) : Below service seller cursor := by
  refine ⟨within.trans_lt ?_, fun event member sells =>
    within.trans_lt (quiet event member sells)⟩
  have highest : maxSequence service.events ≤ service.nextSequence - 1 :=
    maxSequence_le fun event member => Nat.le_sub_one_of_lt (orderly.drawn none event member)
  omega

/-! Frames. -/

theorem WebhookMove.now (move : WebhookMove config service action after) :
    service.now ≤ after.now := by
  cases move with
  | ticked later => exact later
  | advanced running moved => exact moved.log.2.2.2.2.1.ge
  | @answered worker status pass delivery rest running phase =>
      obtain ⟨deliveries, deadLetters, sent, buried, framed⟩ :=
        persistOutcome_frame config delivery pass.now status service
      rw [framed]
      exact Nat.le_refl _
  | _ => exact Nat.le_refl _

theorem WebhookMove.sequences (move : WebhookMove config service action after) :
    service.nextSequence ≤ after.nextSequence := by
  rcases move.log with same | ⟨transaction, event, rfl⟩ | ⟨transaction, commits, rfl⟩
  · exact same.sequence.ge
  · cases move with
    | inserted fresh => exact Nat.le_succ _
  · cases move with
    | finished found => exact Nat.le_refl _

theorem WebhookMove.new_endpoint (move : WebhookMove config service action after)
    {id : EndpointId} {later : WebhookEndpoint} (unset : service.endpoints.find? id = none)
    (found : after.endpoints.find? id = some later) :
    ∃ url, action = .add id later.sellerPubky url ∧ SameLog service after ∧
      later.enqueueSequence = maxSequence service.events ∧
      later.committedBefore = service.events.map (·.id) := by
  have other : ∀ {target : EndpointId} {stored written : WebhookEndpoint},
      service.endpoints.find? target = some stored →
      (service.endpoints.set target written).find? id = some later → False := by
    intro target stored written present set
    rw [Keyed.Table.find?_set] at set
    split at set
    · rename_i same
      subst same
      rw [unset] at present
      cases present
    · rw [unset] at set
      cases set
  cases move with
  | @added target seller url free =>
      rw [Keyed.Table.find?_set] at found
      split at found
      · rename_i same
        subst same
        cases found
        exact ⟨url, rfl, ⟨rfl, rfl, rfl⟩, rfl, rfl⟩
      · rw [unset] at found
        cases found
  | deleted present free => exact (other present found).elim
  | @advanced worker pass middle next running moved =>
      cases moved with
      | full phase free present => exact (other present found).elim
      | @stored target cursor rows rest stored phase present =>
          obtain ⟨deliveries, enqueued, framed⟩ := insertDeliveries_frame target pass.now rows
            (service.setCursor target stored cursor pass.now)
          rw [framed] at found
          exact (other present found).elim
      | _ => exact absurd (unset.symm.trans found) (by intro same; cases same)
  | @answered worker status pass delivery rest running phase =>
      obtain ⟨deliveries, deadLetters, sent, buried, framed⟩ :=
        persistOutcome_frame config delivery pass.now status service
      rw [framed] at found
      exact absurd (unset.symm.trans found) (by intro same; cases same)
  | _ => exact absurd (unset.symm.trans found) (by intro same; cases same)

theorem WebhookMove.shown_origin (move : WebhookMove config service action after)
    {seller : Pubky} {cursor : ℕ} (member : (seller, cursor) ∈ after.shown) :
    (seller, cursor) ∈ service.shown ∨ SameLog service after ∧ (∃ start limit,
      action = .page seller start limit) ∧ ∃ row ∈ service.events, row.sequence = cursor := by
  cases move with
  | @paged reader start limit rows read =>
      rcases List.mem_append.mp member with new | old
      · obtain ⟨row, listed, same⟩ := List.mem_map.mp new
        cases same
        rw [read] at listed
        have event := (mem_sellerEvents.mp (List.mem_of_mem_take listed)).1
        exact .inr ⟨⟨rfl, rfl, rfl⟩, ⟨start, limit, rfl⟩, row, event, rfl⟩
      · exact .inl old
  | advanced running moved => exact .inl (moved.log.2.2.2.2.2 ▸ member)
  | @answered worker status pass delivery rest running phase =>
      obtain ⟨deliveries, deadLetters, sent, buried, framed⟩ :=
        persistOutcome_frame config delivery pass.now status service
      rw [framed] at member
      exact .inl member
  | _ => exact .inl member

/-- The commit of a batch inserts its rows. -/
theorem stored_listed {worker : WebhookWorkerId} {pass : WebhookPass} {id : EndpointId}
    {rows : List DomainEvent} {next : ℕ} {rest : List EndpointId} (filed : Filed service)
    (move : WebhookMove config service (.advance worker) after)
    (running : service.pass worker = some pass) (phase : pass.phase = .chosen id rows next rest)
    {row : DomainEvent} (member : row ∈ rows) : (id, row.id) ∈ after.enqueued := by
  cases move with
  | advanced runs moved =>
      rw [running] at runs
      cases runs
      cases moved with
      | @stored target cursor batch others endpoint at' found =>
          rw [phase] at at'
          cases at'
          exact (insertDeliveries_inserts id pass.now rows
            (service.setCursor id endpoint next pass.now)).listed filed.stocked row member
      | _ at' =>
          rw [phase] at at'
          cases at'

theorem expired_later {now later : Time} {event : DomainEvent} (passed : now ≤ later)
    (expired : config.expired now event = true) : config.expired later event = true := by
  simp only [WebhookConfig.expired, decide_eq_true_eq] at expired ⊢
  exact expired.trans_le passed

/-! The invariant. -/

/-- Every event of the seller up to `next` is behind the cursor, in the batch or
past its retention. -/
def Covers (config : WebhookConfig) (service : WebhookService) (now : Time)
    (endpoint : WebhookEndpoint) (rows : List DomainEvent) (next : ℕ) : Prop :=
  ∀ event ∈ service.events, event.sellerPubky = some endpoint.sellerPubky →
    endpoint.enqueueSequence < event.sequence → event.sequence ≤ next →
    event ∈ rows ∨ config.expired now event = true

structure Unskipped (config : WebhookConfig) (service : WebhookService) : Prop where
  positive : 0 < service.nextSequence
  begun : ∀ worker pass, service.pass worker = some pass → pass.now ≤ service.now
  below : ∀ id endpoint, service.endpoints.find? id = some endpoint →
    Below service endpoint.sellerPubky endpoint.enqueueSequence
  listed : ∀ id endpoint event, service.endpoints.find? id = some endpoint →
    event ∈ service.events → event.sellerPubky = some endpoint.sellerPubky →
    event.id ∉ endpoint.committedBefore → event.sequence ≤ endpoint.enqueueSequence →
    (id, event.id) ∈ service.enqueued ∨ config.expired service.now event = true
  chosen : ∀ worker pass id rows next rest endpoint, service.pass worker = some pass →
    pass.phase = .chosen id rows next rest → service.endpoints.find? id = some endpoint →
    Below service endpoint.sellerPubky next ∧ Covers config service pass.now endpoint rows next
  shown : ∀ seller cursor, (seller, cursor) ∈ service.shown → Below service seller cursor

theorem Unskipped.empty : Unskipped config .empty where
  positive := Nat.one_pos
  begun worker pass running := by cases running
  below id endpoint found := by cases found
  listed id endpoint event found := by cases found
  chosen worker pass id rows next rest endpoint running := by cases running
  shown seller cursor member := by cases member

theorem full_batch_covers {now : Time} {endpoint : WebhookEndpoint} {limit : ℕ}
    {rows : List DomainEvent} (orderly : Orderly service) (positive : 0 < limit)
    (read : rows = (config.sellerEvents service.events endpoint.sellerPubky
      endpoint.enqueueSequence now).take limit)
    (length : rows.length = limit) :
    Covers config service now endpoint rows
        ((rows.getLast?.map (·.sequence)).getD endpoint.enqueueSequence) ∧
      (rows.getLast?.map (·.sequence)).getD endpoint.enqueueSequence ≤
        maxSequence service.events := by
  obtain ⟨last, ends⟩ : ∃ last, rows.getLast? = some last := by
    cases rows with
    | nil =>
        simp only [List.length_nil] at length
        omega
    | cons first others => exact ⟨_, List.getLast?_cons⟩
  have inside : last ∈ rows := List.mem_of_getLast? ends
  have committed : last ∈ service.events := by
    rw [read] at inside
    exact (mem_sellerEvents.mp (List.mem_of_mem_take inside)).1
  rw [ends, Option.map_some, Option.getD_some]
  refine ⟨fun event logged sells above within => ?_, le_maxSequence committed⟩
  cases expired : config.expired now event with
  | true => exact .inr rfl
  | false =>
      left
      have member : event ∈ config.sellerEvents service.events endpoint.sellerPubky
          endpoint.enqueueSequence now := mem_sellerEvents.mpr ⟨logged, sells, above, expired⟩
      have ordered := @sellerEvents_ordered config service.events endpoint.sellerPubky
        endpoint.enqueueSequence now
      rw [← List.take_append_drop limit (config.sellerEvents _ _ _ _), ← read] at member ordered
      rcases List.mem_append.mp member with early | late
      · exact early
      · -- It comes after the last row, so it has the same sequence and is this row.
        have after' := (List.pairwise_append.mp ordered).2.2 last inside event late
        have same := (orderly.distinct none last none event committed logged
          (.inr (le_antisymm after' within))).2
        exact same ▸ inside

theorem WebhookMove.endpoint_origin (move : WebhookMove config service action after)
    {id : EndpointId} {later : WebhookEndpoint} (found : after.endpoints.find? id = some later) :
    (∃ endpoint, service.endpoints.find? id = some endpoint ∧
      Continues service action id endpoint later) ∨
    ∃ url, action = .add id later.sellerPubky url ∧ SameLog service after ∧
      later.enqueueSequence = maxSequence service.events ∧
      later.committedBefore = service.events.map (·.id) := by
  cases before : service.endpoints.find? id with
  | none => exact .inr (move.new_endpoint before found)
  | some endpoint =>
      obtain ⟨next, present, continues⟩ := move.keeps_endpoint before
      rw [found] at present
      cases present
      exact .inl ⟨endpoint, rfl, continues⟩

theorem Unskipped.below_step (unskipped : Unskipped config service)
    (orderly : Orderly service) (allowed : quietReads config service action)
    (move : WebhookMove config service action after) {id : EndpointId}
    {later : WebhookEndpoint} (found : after.endpoints.find? id = some later) :
    Below after later.sellerPubky later.enqueueSequence := by
  rcases move.endpoint_origin found with ⟨endpoint, before, continues⟩ | ⟨url, rfl, same, start, -⟩
  · rw [continues.seller]
    rcases continues.cursor with kept | ⟨worker, pass, rows, next, rest, -, runs, phase, moved⟩
    · rw [kept]
      exact (unskipped.below id endpoint before).step move
    · rw [moved]
      exact (unskipped.chosen _ _ _ _ _ _ _ runs phase before).1.step move
  · rw [start]
    exact (quiet_below orderly unskipped.positive allowed (Nat.le_refl _)).same same

theorem Unskipped.listed_step (unskipped : Unskipped config service) (filed : Filed service)
    (move : WebhookMove config service action after) {id : EndpointId}
    {later : WebhookEndpoint} {event : DomainEvent}
    (found : after.endpoints.find? id = some later) (logged : event ∈ after.events)
    (sells : event.sellerPubky = some later.sellerPubky)
    (known : event.id ∉ later.committedBefore) (passed : event.sequence ≤ later.enqueueSequence) :
    (id, event.id) ∈ after.enqueued ∨ config.expired after.now event = true := by
  rcases move.endpoint_origin found with ⟨endpoint, before, continues⟩ | ⟨url, rfl, same, -, all⟩
  · rw [continues.seller] at sells
    rw [continues.committedBefore] at known
    -- An event that the old cursor had passed was listed or expired already.
    have old : event ∈ service.events → event.sequence ≤ endpoint.enqueueSequence →
        (id, event.id) ∈ after.enqueued ∨ config.expired after.now event = true := by
      intro present behind
      exact (unskipped.listed id endpoint event before present sells known behind).imp
        move.keeps_enqueued (expired_later move.now)
    rcases continues.cursor with kept | ⟨worker, pass, rows, next, rest, rfl, runs, phase, moved⟩
    · rw [kept] at passed
      rcases (unskipped.below id endpoint before).committed move logged sells with present | above
      · exact old present passed
      · exact absurd passed (not_le.mpr above)
    · rw [moved] at passed
      obtain ⟨below, covers⟩ := unskipped.chosen _ _ _ _ _ _ _ runs phase before
      rcases below.committed move logged sells with present | above
      · rcases Nat.lt_or_ge endpoint.enqueueSequence event.sequence with ahead | behind
        · rcases covers event present sells ahead passed with member | expired
          · exact .inl (stored_listed filed move runs phase member)
          · exact .inr (expired_later ((unskipped.begun _ _ runs).trans move.now) expired)
        · exact old present behind
      · exact absurd passed (not_le.mpr above)
  · rw [all, ← same.events] at known
    exact absurd (List.mem_map.mpr ⟨event, logged, rfl⟩) known

theorem Unskipped.shown_step (unskipped : Unskipped config service) (orderly : Orderly service)
    (allowed : quietReads config service action)
    (move : WebhookMove config service action after) {seller : Pubky} {cursor : ℕ}
    (member : (seller, cursor) ∈ after.shown) : Below after seller cursor := by
  rcases move.shown_origin member with old | ⟨same, ⟨start, limit, rfl⟩, row, logged, rfl⟩
  · exact (unskipped.shown seller cursor old).step move
  · exact (quiet_below orderly unskipped.positive allowed (le_maxSequence logged)).same same

theorem Unskipped.chosen_still {worker : WebhookWorkerId} {pass : WebhookPass} {id : EndpointId}
    {rows : List DomainEvent} {next : ℕ} {rest : List EndpointId} {later : WebhookEndpoint}
    (unskipped : Unskipped config service) (sound : WebhooksSound service)
    (move : WebhookMove config service action after) (running : service.pass worker = some pass)
    (still : action ≠ .advance worker) (phase : pass.phase = .chosen id rows next rest)
    (found : after.endpoints.find? id = some later) :
    Below after later.sellerPubky next ∧ Covers config after pass.now later rows next := by
  have reads := sound.works worker pass running
  rw [phase] at reads
  obtain ⟨endpoint, before, -⟩ := reads
  obtain ⟨other, present, continues⟩ := move.keeps_endpoint before
  rw [found] at present
  cases present
  have kept : later.enqueueSequence = endpoint.enqueueSequence := by
    rcases continues.cursor with kept | ⟨mover, moving, _, _, _, acts, runs, at', -⟩
    · exact kept
    · have same := sound.exclusive _ _ _ _ id running runs (by rw [phase]; rfl) (by rw [at']; rfl)
      subst same
      exact absurd acts still
  obtain ⟨below, covers⟩ := unskipped.chosen _ _ _ _ _ _ _ running phase before
  refine ⟨continues.seller ▸ below.step move, fun event logged sells ahead within => ?_⟩
  rw [continues.seller] at sells
  rw [kept] at ahead
  rcases below.committed move logged sells with present | above
  · exact covers event present sells ahead within
  · exact absurd within (not_le.mpr above)

theorem Unskipped.chosen_now {worker : WebhookWorkerId} {pass : WebhookPass}
    {middle : WebhookService} {id : EndpointId} {rows : List DomainEvent} {next : ℕ}
    {rest : List EndpointId} {later : WebhookEndpoint} (unskipped : Unskipped config service)
    (sound : WebhooksSound service) (allowed : quietReads config service (.advance worker))
    (running : service.pass worker = some pass)
    (moved : Advance config service pass middle (.chosen id rows next rest))
    (found : middle.endpoints.find? id = some later) :
    Below service later.sellerPubky next ∧ Covers config service pass.now later rows next := by
  have reads := sound.works worker pass running
  cases moved with
  | @whole _ cursor limit _ seller _ phase sells read length =>
      rw [phase] at reads
      obtain ⟨positive, endpoint, before, same⟩ := reads
      rw [found] at before
      cases before
      subst same
      have seller_eq : seller = later.sellerPubky := by
        simpa [WebhookService.sellerOf, found] using sells.symm
      subst seller_eq
      obtain ⟨covers, within⟩ := full_batch_covers sound.orderly positive read length
      have quiet := allowed pass running (.batch id) (by rw [phase]; rfl) _ sells
      exact ⟨quiet_below sound.orderly unskipped.positive quiet within, covers⟩
  | @highest _ cursor limit _ _ phase =>
      rw [phase] at reads
      obtain ⟨⟨endpoint, before, same⟩, -⟩ := reads
      rw [found] at before
      cases before
      subst same
      have sells : service.sellerOf id = some later.sellerPubky := by
        simp [WebhookService.sellerOf, found]
      obtain ⟨quiet, whole⟩ :=
        allowed pass running (.highest id later.enqueueSequence rows) (by rw [phase]; rfl) _ sells
      have highest := quiet_below sound.orderly unskipped.positive quiet (Nat.le_refl _)
      have stored := unskipped.below id later found
      refine ⟨⟨max_lt highest.1 stored.1, fun event member sold =>
        max_lt (highest.2 event member sold) (stored.2 event member sold)⟩, ?_⟩
      intro event logged sold ahead _
      cases expired : config.expired pass.now event with
      | true => exact .inr rfl
      | false =>
          left
          rw [← whole]
          exact mem_sellerEvents.mpr ⟨logged, sold, ahead, expired⟩

theorem Unskipped.step (unskipped : Unskipped config service) (sound : WebhooksSound service)
    (allowed : quietReads config service action)
    (move : WebhookMove config service action after) : Unskipped config after where
  positive := unskipped.positive.trans_le move.sequences
  begun worker pass running := by
    apply le_trans _ move.now
    cases move.pass_origin running with
    | kept runs still => exact unskipped.begun _ _ runs
    | started => exact Nat.le_refl _
    | @advanced old middle next acts runs moved written => exact unskipped.begun worker old runs
    | @claimed old claimed runs rows => exact unskipped.begun worker old runs
    | @answered old delivery rest runs phase => exact unskipped.begun worker old runs
  below id later found := unskipped.below_step sound.orderly allowed move found
  listed id later event found logged sells known passed :=
    unskipped.listed_step sound.filed move found logged sells known passed
  chosen worker pass id rows next rest later running phase found := by
    cases move.pass_origin running with
    | kept runs still => exact unskipped.chosen_still sound move runs still phase found
    | started => cases phase
    | @advanced old middle chosen acts runs moved written =>
        subst acts written
        simp only at phase
        subst phase
        obtain ⟨below, covers⟩ := unskipped.chosen_now sound allowed runs moved found
        obtain ⟨events, transactions, sequence, -⟩ := moved.log
        refine ⟨below.same ⟨events, transactions, sequence⟩, fun event logged => ?_⟩
        exact covers event (events ▸ logged)
    | claimed runs rows => cases phase
    | answered runs at' => cases phase
  shown seller cursor member := unskipped.shown_step sound.orderly allowed move member

/-! Progress. -/

theorem pass_of_setPhase (service : WebhookService) (worker : WebhookWorkerId)
    (pass : WebhookPass) (next : WebhookPhase) :
    (service.setPhase worker pass next).pass worker = some { pass with phase := next } := by
  rw [pass_setPhase rfl, if_pos rfl]

theorem chosen_stores {worker : WebhookWorkerId} {pass : WebhookPass} {id : EndpointId}
    {rows : List DomainEvent} {next : ℕ} {rest : List EndpointId} {endpoint : WebhookEndpoint}
    (running : service.pass worker = some pass) (phase : pass.phase = .chosen id rows next rest)
    (found : service.endpoints.find? id = some endpoint) :
    ∃ later stored, service.step config (.advance worker) = some later ∧
      later.endpoints.find? id = some stored ∧ stored.enqueueSequence = next := by
  have stepped : service.step config (.advance worker) =
      some (((service.setCursor id endpoint next pass.now).insertDeliveries id pass.now
        rows).setPhase worker pass (.endpoints rest)) := by
    rw [WebhookService.step, running]
    simp only [Option.bind_eq_bind, Option.bind_some, WebhookService.advance, phase,
      WebhookService.storeCursor, found, Option.map_some]
    rfl
  obtain ⟨deliveries, enqueued, framed⟩ := insertDeliveries_frame id pass.now rows
    (service.setCursor id endpoint next pass.now)
  refine ⟨_, { endpoint with enqueueSequence := next, enqueueCheckedAt := some pass.now },
    stepped, ?_, rfl⟩
  rw [framed]
  exact Keyed.Table.find?_set_self _ _ _

theorem room_moves_cursor {worker : WebhookWorkerId} {pass : WebhookPass} {id : EndpointId}
    {cursor limit : ℕ} {rest : List EndpointId} {event : DomainEvent}
    (sound : WebhooksSound service) (running : service.pass worker = some pass)
    (phase : pass.phase = .room id cursor limit rest) (logged : event ∈ service.events)
    (sells : service.sellerOf id = event.sellerPubky) (ahead : cursor < event.sequence)
    (fresh : config.expired pass.now event = false) :
    ∃ steps later endpoint,
      Runs.run (webhooks config) service (List.replicate steps (.advance worker)) = some later ∧
        later.endpoints.find? id = some endpoint ∧ cursor < endpoint.enqueueSequence := by
  have reads := sound.works worker pass running
  rw [phase] at reads
  obtain ⟨positive, endpoint, found, same⟩ := reads
  have seller : service.sellerOf id = some endpoint.sellerPubky := by
    simp [WebhookService.sellerOf, found]
  have member : event ∈ config.sellerEvents service.events endpoint.sellerPubky cursor pass.now :=
    mem_sellerEvents.mpr ⟨logged, sells.symm.trans seller, ahead, fresh⟩
  have first : service.step config (.advance worker) =
      service.readBatch config worker pass id cursor limit rest := by
    rw [WebhookService.step, running]
    simp only [Option.bind_eq_bind, Option.bind_some, WebhookService.advance, phase]
  rw [WebhookService.readBatch, seller, Option.map_some] at first
  generalize batch : (config.sellerEvents service.events endpoint.sellerPubky cursor
    pass.now).take limit = rows at first
  by_cases length : rows.length = limit
  · simp only [length, if_true] at first
    have moved : Advance config service pass service _ := .whole phase seller batch.symm length
    have chosen := moved.reads (sound.works worker pass running)
    obtain ⟨holder, before, -, inside⟩ := chosen
    rw [found] at before
    cases before
    obtain ⟨later, stored, second, held, reaches⟩ := @chosen_stores config _ worker _ id rows
      ((rows.getLast?.map (·.sequence)).getD cursor) rest endpoint
      (pass_of_setPhase service worker pass _) rfl found
    refine ⟨2, later, stored, Runs.run_step first (Runs.run_step second rfl), held, ?_⟩
    · rw [reaches]
      subst same
      cases rows with
      | nil =>
          simp only [List.length_nil] at length
          omega
      | cons row others =>
          obtain ⟨-, above, within⟩ := inside row List.mem_cons_self
          exact above.trans_le within
  · simp only [length, if_false] at first
    have second : (service.setPhase worker pass (.batch id cursor limit rows rest)).step config
        (.advance worker) = some (service.setPhase worker pass (.batch id cursor limit rows rest)
          |>.setPhase worker pass (.chosen id rows (max (maxSequence service.events) cursor)
            rest)) := by
      rw [WebhookService.step, pass_of_setPhase]
      rfl
    obtain ⟨later, stored, third, held, reaches⟩ := @chosen_stores config _ worker _ id rows _
      rest endpoint (pass_of_setPhase (service.setPhase worker pass
        (.batch id cursor limit rows rest)) worker pass _) rfl found
    refine ⟨3, later, stored,
      Runs.run_step first (Runs.run_step second (Runs.run_step third rfl)), held, ?_⟩
    rw [reaches]
    exact ahead.trans_le ((le_maxSequence logged).trans (le_max_left _ _))

/-- Over every run that meets the condition. -/
theorem webhook_cursors_skip_nothing (config : WebhookConfig) (service : WebhookService)
    (reached : Runs.Reachable (webhooks config) (quietReads config) service) :
    (∀ id endpoint event, service.endpoints.find? id = some endpoint →
      endpoint.deletedAt = none → event ∈ service.events →
      event.sellerPubky = some endpoint.sellerPubky → event.id ∉ endpoint.committedBefore →
      event.sequence ≤ endpoint.enqueueSequence →
      (id, event.id) ∈ service.enqueued ∨ config.expired service.now event = true) ∧
    service.enqueued.Nodup ∧
    (∀ transaction written, service.transactions.find? transaction = some written →
      ∀ event ∈ written, ∀ seller cursor, (seller, cursor) ∈ service.shown →
        event.sellerPubky = some seller → cursor < event.sequence) ∧
    ∀ worker pass id cursor limit rest, service.pass worker = some pass →
      pass.phase = .room id cursor limit rest →
      ∀ event ∈ service.events, service.sellerOf id = event.sellerPubky →
        cursor < event.sequence → config.expired pass.now event = false →
        ∃ steps later endpoint,
          Runs.run (webhooks config) service (List.replicate steps (.advance worker)) =
            some later ∧
          later.endpoints.find? id = some endpoint ∧ cursor < endpoint.enqueueSequence := by
  have sound := reachable_webhooks_sound reached
  have unskipped : Unskipped config service := by
    refine Runs.invariant_under (webhooks config) (quietReads config) WebhooksSound
      (Unskipped config) (fun state => reachable_webhooks_sound) ?_ ?_ reached
    · rintro start rfl
      exact .empty
    · intro before action after known held allowed stepped
      exact held.step known allowed (webhook_step_inverts stepped)
  refine ⟨fun id endpoint event found _ logged sells known passed => ?_, sound.filed.once,
    fun transaction written found event member seller cursor shown sells => ?_,
    fun worker pass id cursor limit rest running phase event logged sells ahead fresh => ?_⟩
  · exact unskipped.listed id endpoint event found logged sells known passed
  · exact (unskipped.shown seller cursor shown).2 event
      (openEvents_iff.mpr ⟨transaction, written, found, member⟩) sells
  · exact room_moves_cursor sound running phase logged sells ahead fresh

/-! Samples. -/

def vaseEvent (id : EventId) : DomainEvent :=
  { lampEvent id with aggregateId := "listing:alice:vase" }

/-- An event commits, and a pass enqueues it. -/
theorem enqueued_lamp_is_not_skipped :
    ∃ service endpoint, Runs.Reachable (webhooks sampleWebhooks) (quietReads sampleWebhooks)
        service ∧
      service.endpoints.find? 1 = some endpoint ∧ endpoint.enqueueSequence = 1 ∧
      ((1, 1) ∈ service.enqueued ∨
        sampleWebhooks.expired service.now { lampEvent 1 with sequence := 1 } = true) := by
  obtain ⟨service, reached, endpoint, found, active, logged, sells, new, cursor⟩ :=
    @Runs.exists_reachable_of_run _ _ (webhooks sampleWebhooks) (quietReads sampleWebhooks) .empty
      rfl ([.tick 100, .add 1 "alice" "https://alice.example/hook", .insert 1 (lampEvent 1),
        .finish 1 true, .start 1] ++ List.replicate 7 (.advance 1))
      (fun service => ∃ endpoint ∈ service.endpoints.find? 1, endpoint.deletedAt = none ∧
        { lampEvent 1 with sequence := 1 } ∈ service.events ∧
        (lampEvent 1).sellerPubky = some endpoint.sellerPubky ∧ 1 ∉ endpoint.committedBefore ∧
        endpoint.enqueueSequence = 1)
      (by decide +kernel) (by decide +kernel)
  exact ⟨service, endpoint, reached, found, cursor,
    (webhook_cursors_skip_nothing sampleWebhooks service reached).1 1 endpoint
      { lampEvent 1 with sequence := 1 } found active logged sells new (cursor ▸ Nat.le_refl 1)⟩

/-- The lamp's event draws its sequence first and commits last: the cursor has
passed it by then. -/
theorem slow_lamp_is_skipped :
    ∃ service, Runs.Reachable (webhooks sampleWebhooks) Runs.anyStep service ∧
      ∃ endpoint ∈ service.endpoints.find? 1, endpoint.deletedAt = none ∧
        { lampEvent 1 with sequence := 1 } ∈ service.events ∧ 1 ∉ endpoint.committedBefore ∧
        1 ≤ endpoint.enqueueSequence ∧ (1, 1) ∉ service.enqueued ∧
        sampleWebhooks.expired service.now { lampEvent 1 with sequence := 1 } = false :=
  @Runs.exists_reachable_of_run _ _ (webhooks sampleWebhooks) Runs.anyStep .empty rfl
    ([.tick 100, .add 1 "alice" "https://alice.example/hook", .insert 1 (lampEvent 1),
      .insert 2 (vaseEvent 2), .finish 2 true, .start 1] ++ List.replicate 7 (.advance 1) ++
      [.finish 1 true]) _
    (Runs.meets_anyStep _ _ _) (by decide +kernel)

end MarketplaceService
