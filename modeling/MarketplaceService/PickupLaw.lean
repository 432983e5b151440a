import MarketplaceService.PickupSteps

/-!
Terms changes are found exactly. The counter of a listing is the truth about
its details: while they are not cleared the current version is the counter's,
whatever the purge has deleted, so a pinned version is the current one until
the next set or clear, and never again after it. The grouped query reads the
same rows as the query for one order.
-/

namespace MarketplaceService

variable {references : References} {service after : PickupService} {action : PickupAction}

def PickupEvent.changes (listing : ListingId) : PickupEvent → Bool
  | .confirmed _ => false
  | .set changed _ => changed == listing
  | .cleared changed => changed == listing

/-! Details and counters. -/

structure TermsFit (service : PickupService) : Prop where
  stocked : ∀ listing version details, service.details.find? (listing, version) = some details →
    ∃ counter, service.counters.find? listing = some counter ∧ 0 < version ∧
      version ≤ counter.lastVersion
  current : ∀ listing counter, service.counters.find? listing = some counter →
    counter.clearedAt = none →
    0 < counter.lastVersion ∧ (service.details.find? (listing, counter.lastVersion)).isSome = true
  issued : ∀ listing version, .set listing version ∈ service.log →
    ∃ counter, service.counters.find? listing = some counter ∧ version ≤ counter.lastVersion
  rising : service.log.Pairwise fun newer older => ∀ listing version earlier,
    newer = .set listing version → older = .set listing earlier → earlier < version

theorem TermsFit.empty : TermsFit emptyPickup where
  stocked _ _ _ found := by cases found
  current _ _ found := by cases found
  issued _ _ member := by cases member
  rising := List.Pairwise.nil

theorem mem_versionsOf {listing : ListingId} {version : ℕ} :
    version ∈ service.versionsOf listing ↔
      (service.details.find? (listing, version)).isSome = true := by
  simp only [PickupService.versionsOf, List.mem_map, List.mem_filter, beq_iff_eq]
  constructor
  · rintro ⟨⟨⟨owner, number⟩, details⟩, ⟨member, rfl⟩, rfl⟩
    rw [service.details.find?_of_mem member]
    rfl
  · intro present
    obtain ⟨details, found⟩ := Option.isSome_iff_exists.mp present
    exact ⟨((listing, version), details), ⟨Keyed.lookup_mem _ _ _ found, rfl⟩, rfl⟩

theorem TermsFit.currentVersion (fit : TermsFit service) (listing : ListingId) :
    service.currentVersion listing = (service.counters.find? listing).bind fun counter =>
      if counter.clearedAt = none then some counter.lastVersion else none := by
  unfold PickupService.currentVersion PickupService.cleared
  cases counted : service.counters.find? listing with
  | none =>
      have empty : service.versionsOf listing = [] := by
        rw [List.eq_nil_iff_forall_not_mem]
        intro version member
        obtain ⟨details, found⟩ := Option.isSome_iff_exists.mp (mem_versionsOf.mp member)
        obtain ⟨counter, present, -⟩ := fit.stocked listing version details found
        rw [counted] at present
        cases present
      simp [empty]
  | some counter =>
      cases marked : counter.clearedAt with
      | some time => simp [marked]
      | none =>
          obtain ⟨-, present⟩ := fit.current listing counter counted marked
          simp only [Option.any_some, marked, Option.isSome_none, Bool.false_eq_true, if_false,
            Option.bind_some, if_true]
          apply List.max?_eq_some_iff.mpr
          refine ⟨mem_versionsOf.mpr present, fun version member => ?_⟩
          obtain ⟨details, found⟩ := Option.isSome_iff_exists.mp (mem_versionsOf.mp member)
          obtain ⟨counter', counted', -, below⟩ := fit.stocked listing version details found
          rw [counted] at counted'
          cases counted'
          exact below

theorem TermsFit.set (fit : TermsFit service) {id : ListingId} {counter : PickupCounter}
    {details : String} (current : (service.counters.find? id).getD ⟨0, none⟩ = counter) :
    TermsFit { service with
      details := service.details.set (id, counter.lastVersion + 1) details
      counters := service.counters.set id ⟨counter.lastVersion + 1, none⟩
      log := .set id (counter.lastVersion + 1) :: service.log } := by
  -- No version is above the counter, so the next one is new.
  have below : ∀ listing old, service.counters.find? listing = some old → listing = id →
      old = counter := by
    rintro listing old counted rfl
    rw [counted] at current
    exact current
  constructor
  · intro listing version text found
    simp only [Keyed.Table.find?_set] at found ⊢
    split at found
    · rename_i same
      cases same
      rw [if_pos rfl]
      exact ⟨_, rfl, Nat.succ_pos _, Nat.le_refl _⟩
    · obtain ⟨old, counted, positive, above⟩ := fit.stocked listing version text found
      split
      · rename_i same
        rw [below listing old counted same] at above
        exact ⟨_, rfl, positive, above.trans (Nat.le_succ _)⟩
      · exact ⟨old, counted, positive, above⟩
  · intro listing kept counted marked
    simp only [Keyed.Table.find?_set] at counted ⊢
    split at counted
    · rename_i same
      cases counted
      subst same
      rw [if_pos rfl]
      exact ⟨Nat.succ_pos _, rfl⟩
    · rename_i apart
      rw [if_neg fun same => apart (congrArg Prod.fst same)]
      exact fit.current listing kept counted marked
  · intro listing version member
    simp only [Keyed.Table.find?_set]
    rcases List.mem_cons.mp member with same | older
    · cases same
      rw [if_pos rfl]
      exact ⟨_, rfl, Nat.le_refl _⟩
    · obtain ⟨old, counted, above⟩ := fit.issued listing version older
      split
      · rename_i same
        rw [below listing old counted same] at above
        exact ⟨_, rfl, above.trans (Nat.le_succ _)⟩
      · exact ⟨old, counted, above⟩
  · refine List.pairwise_cons.mpr ⟨fun event member listing version earlier newest is => ?_,
      fit.rising⟩
    cases newest
    subst is
    obtain ⟨old, counted, above⟩ := fit.issued id earlier member
    rw [below id old counted rfl] at above
    exact Nat.lt_succ_of_le above

theorem TermsFit.cleared (fit : TermsFit service) {id : ListingId} {counter : PickupCounter}
    {now : Time} {kept : ListingId × ℕ → Bool}
    (current : (service.counters.find? id).getD ⟨0, none⟩ = counter)
    (others : ∀ key, key.1 ≠ id → kept key = true) :
    TermsFit { service with
      details := service.details.keep kept
      counters := service.counters.set id { counter with clearedAt := some now }
      log := .cleared id :: service.log } := by
  have moved : ∀ listing old, service.counters.find? listing = some old →
      ∃ later, (service.counters.set id { counter with clearedAt := some now }).find? listing =
        some later ∧ later.lastVersion = old.lastVersion := by
    intro listing old counted
    rw [Keyed.Table.find?_set]
    split
    · rename_i same
      subst same
      rw [counted] at current
      cases current
      exact ⟨_, rfl, rfl⟩
    · exact ⟨old, counted, rfl⟩
  constructor
  · intro listing version text found
    simp only [Keyed.Table.find?_keep] at found
    split at found
    · obtain ⟨old, counted, positive, above⟩ := fit.stocked listing version text found
      obtain ⟨later, counts, same⟩ := moved listing old counted
      exact ⟨later, counts, positive, same ▸ above⟩
    · cases found
  · intro listing later counted marked
    simp only [Keyed.Table.find?_set] at counted
    split at counted
    · cases counted
      cases marked
    · rename_i apart
      simp only [Keyed.Table.find?_keep]
      rw [if_pos (others _ apart)]
      exact fit.current listing later counted marked
  · intro listing version member
    rcases List.mem_cons.mp member with same | older
    · cases same
    · obtain ⟨old, counted, above⟩ := fit.issued listing version older
      obtain ⟨later, counts, same⟩ := moved listing old counted
      exact ⟨later, counts, same ▸ above⟩
  · refine List.pairwise_cons.mpr ⟨fun event _ listing version earlier newest _ => ?_, fit.rising⟩
    cases newest

theorem TermsFit.step (fit : TermsFit service) (move : PickupMove references service after) :
    TermsFit after := by
  cases move with
  | other advances => exact ⟨fit.stocked, fit.current, fit.issued, fit.rising⟩
  | confirmed advances found unpaid present paid pinned =>
      refine ⟨fit.stocked, fit.current, fun listing version member => ?_, ?_⟩
      · rcases List.mem_cons.mp member with same | older
        · cases same
        · exact fit.issued listing version older
      · refine List.pairwise_cons.mpr ⟨fun event _ listing version earlier newest _ => ?_,
          fit.rising⟩
        cases newest
  | set current => exact fit.set current
  | cleared current others => exact fit.cleared current others
  | @purged kept current =>
      refine ⟨fun listing version text found => ?_, fun listing counter counted marked => ?_,
        fit.issued, fit.rising⟩
      · simp only [Keyed.Table.find?_keep] at found
        split at found
        · exact fit.stocked listing version text found
        · cases found
      · obtain ⟨positive, present⟩ := fit.current listing counter counted marked
        refine ⟨positive, ?_⟩
        -- The purge spares the largest version, which is the counter's.
        have uncleared : service.cleared listing = false := by
          simp [PickupService.cleared, counted, marked]
        have largest : (service.versionsOf listing).max? = some counter.lastVersion := by
          have version := fit.currentVersion listing
          rw [PickupService.currentVersion, uncleared, counted] at version
          simpa [marked] using version
        simp only [Keyed.Table.find?_keep]
        rw [if_pos (current listing _ uncleared largest)]
        exact present

/-! Orders. -/

theorem GoesOn.keeps_cell {before later : Sys} (goes : GoesOn references before later)
    (reached : Runs.Reachable (marketplace references) Runs.anyStep before) {id : OrderId}
    {cell : Cell} (found : before.cells.find? id = some cell) :
    ∃ done, later.cells.find? id = some done ∧ done.book.order.terms = cell.book.order.terms ∧
      (cell.book.receipt.isSome = true → done.book.receipt.isSome = true) := by
  rcases goes with rfl | ⟨action, stepped⟩
  · exact ⟨cell, found, rfl, fun paid => paid⟩
  · have sound : ∀ id cell, before.cells.find? id = some cell → Sound cell :=
      fun _ _ present => reachable_sound reached present
    obtain ⟨done, present, law⟩ := (confirmationLaw sound stepped).receipts id cell found
    refine ⟨done, present, ?_, fun paid => ?_⟩
    · obtain ⟨done', present', kept⟩ := step_keeps stepped found
      rw [present] at present'
      cases present'
      rcases kept with rfl | ⟨now, step, -, ran⟩
      · rfl
      · exact ((stepCell_steps (sound id cell found) ran).steady (sound id cell found)).terms
    · rcases law with same | issued
      · have kept := congrArg Option.isSome same
        rw [Option.isSome_map, Option.isSome_map] at kept
        rw [kept]
        exact paid
      · exact issued.paid

def ConfirmedPaid (service : PickupService) : Prop :=
  ∀ id, .confirmed id ∈ service.log →
    ∃ cell, service.sys.cells.find? id = some cell ∧ cell.book.receipt.isSome = true

theorem ConfirmedPaid.step (logged : ConfirmedPaid service)
    (reached : Runs.Reachable (marketplace references) Runs.anyStep service.sys)
    (move : PickupMove references service after) : ConfirmedPaid after := by
  have kept : ∀ id, .confirmed id ∈ service.log →
      ∃ cell, after.sys.cells.find? id = some cell ∧ cell.book.receipt.isSome = true := by
    intro id member
    obtain ⟨cell, found, paid⟩ := logged id member
    obtain ⟨done, present, -, stays⟩ := move.goesOn.keeps_cell reached found
    exact ⟨done, present, stays paid⟩
  intro id member
  cases move with
  | other advances => exact kept id member
  | @confirmed sys issued before cell snapshots versions handovers advances found unpaid present
      paid pinned =>
      rcases List.mem_cons.mp member with same | older
      · cases same
        exact ⟨cell, present, paid⟩
      · exact kept id older
  | set current =>
      rcases List.mem_cons.mp member with same | older
      · cases same
      · exact kept id older
  | cleared current others =>
      rcases List.mem_cons.mp member with same | older
      · cases same
      · exact kept id older
  | purged current => exact kept id member

/-- A pinned version is behind its listing exactly when the listing was changed
since. -/
def PinFits (service : PickupService) (newer : List PickupEvent) (line : ListingId × ℕ) : Prop :=
  ∃ counter, service.counters.find? line.1 = some counter ∧ line.2 ≤ counter.lastVersion ∧
    ((∃ event ∈ newer, event.changes line.1 = true) ↔
      line.2 < counter.lastVersion ∨ counter.clearedAt.isSome = true)

def Since (log : List PickupEvent) (id : OrderId) (newer : List PickupEvent) : Prop :=
  ∃ older, log = newer ++ .confirmed id :: older ∧ .confirmed id ∉ newer ∧ .confirmed id ∉ older

def PinsFit (service : PickupService) : Prop :=
  ∀ id versions, service.versionsAtPayment.find? id = some versions →
    ∃ cell newer, service.sys.cells.find? id = some cell ∧ Since service.log id newer ∧
      ∀ line ∈ pinnedLines cell.book.order.lines versions, PinFits service newer line

theorem Since.cons {log newer : List PickupEvent} {id : OrderId} {event : PickupEvent}
    (since : Since log id newer) (other : event ≠ .confirmed id) :
    Since (event :: log) id (event :: newer) := by
  obtain ⟨older, split, first, last⟩ := since
  refine ⟨older, by rw [split]; rfl, fun member => ?_, last⟩
  rcases List.mem_cons.mp member with same | there
  · exact other same.symm
  · exact first there

theorem PinFits.cons {newer : List PickupEvent} {line : ListingId × ℕ} {event : PickupEvent}
    (fits : PinFits service newer line) (other : event.changes line.1 = false) :
    PinFits service (event :: newer) line := by
  obtain ⟨counter, counted, above, exactly⟩ := fits
  refine ⟨counter, counted, above, ?_⟩
  rw [← exactly]
  simp [other]

theorem PinFits.changed {newer : List PickupEvent} {line : ListingId × ℕ} {event : PickupEvent}
    {id : ListingId} {counter later : PickupCounter} (fits : PinFits service newer line)
    (current : (service.counters.find? id).getD ⟨0, none⟩ = counter)
    (changes : ∀ listing, event.changes listing = (id == listing))
    (grows : counter.lastVersion ≤ later.lastVersion)
    (moves : counter.lastVersion < later.lastVersion ∨ later.clearedAt.isSome = true)
    (counts : after.counters = service.counters.set id later) :
    PinFits after (event :: newer) line := by
  by_cases same : line.1 = id
  · obtain ⟨old, counted, above, -⟩ := fits
    rw [same] at counted
    rw [counted] at current
    cases current
    refine ⟨later, ?_, above.trans grows, ?_⟩
    · rw [counts, same, Keyed.Table.find?_set_self]
    · constructor
      · intro _
        exact moves.imp_left fun rises => lt_of_le_of_lt above rises
      · intro _
        exact ⟨event, List.mem_cons_self, by rw [changes, same, beq_self_eq_true]⟩
  · have untouched : event.changes line.1 = false := by
      rw [changes]
      exact beq_eq_false_iff_ne.mpr fun eq => same eq.symm
    obtain ⟨old, counted, above, exactly⟩ := fits.cons untouched
    refine ⟨old, ?_, above, exactly⟩
    rw [counts, Keyed.Table.find?_set_ne _ _ same]
    exact counted

theorem mem_pinnedLines_map {version : Line → Option ℕ} {lines : List Line}
    {line : ListingId × ℕ} (member : line ∈ pinnedLines lines (lines.map version)) :
    ∃ own ∈ lines, own.listing = line.1 ∧ version own = some line.2 := by
  induction lines with
  | nil => cases member
  | cons first rest ih =>
      simp only [pinnedLines, List.map_cons, List.zip_cons_cons, List.filterMap_cons] at member
      split at member
      · obtain ⟨own, listed, is⟩ := ih member
        exact ⟨own, List.mem_cons_of_mem _ listed, is⟩
      · rename_i pinned is
        rcases List.mem_cons.mp member with rfl | there
        · obtain ⟨number, chosen, rfl⟩ := Option.map_eq_some_iff.mp is
          exact ⟨first, List.mem_cons_self, rfl, chosen⟩
        · obtain ⟨own, listed, is⟩ := ih there
          exact ⟨own, List.mem_cons_of_mem _ listed, is⟩

theorem versionsNow_fits (fit : TermsFit service) (lines : List Line) :
    ∀ line ∈ pinnedLines lines (service.versionsNow lines), PinFits service [] line := by
  intro line member
  obtain ⟨own, -, listing, pinned⟩ := mem_pinnedLines_map member
  obtain ⟨⟨version, text⟩, read, same⟩ := Option.map_eq_some_iff.mp pinned
  obtain ⟨number, current, stored⟩ := Option.bind_eq_some_iff.mp read
  obtain ⟨details, -, eq⟩ := Option.map_eq_some_iff.mp stored
  cases eq
  rw [fit.currentVersion, listing] at current
  obtain ⟨counter, counted, chosen⟩ := Option.bind_eq_some_iff.mp current
  split at chosen
  · rename_i open'
    cases chosen
    have last : line.2 = counter.lastVersion := same.symm
    refine ⟨counter, counted, last.le, ?_⟩
    simp [last, open']
  · cases chosen

theorem PinsFit.step (pins : PinsFit service) (fit : TermsFit service)
    (logged : ConfirmedPaid service)
    (reached : Runs.Reachable (marketplace references) Runs.anyStep service.sys)
    (move : PickupMove references service after) : PinsFit after := by
  -- What a step leaves of the pins that stand, with the event it logs.
  have kept : ∀ id versions, service.versionsAtPayment.find? id = some versions →
      ∃ cell newer, after.sys.cells.find? id = some cell ∧ Since service.log id newer ∧
        ∀ line ∈ pinnedLines cell.book.order.lines versions, PinFits service newer line := by
    intro id versions pinned
    obtain ⟨cell, newer, found, since, fits⟩ := pins id versions pinned
    obtain ⟨done, present, terms, -⟩ := move.goesOn.keeps_cell reached found
    have lines : done.book.order.lines = cell.book.order.lines := congrArg Terms.lines terms
    exact ⟨done, newer, present, since, lines ▸ fits⟩
  cases move with
  | other advances => exact kept
  | purged current => exact kept
  | @set id counter details current =>
      intro order versions pinned
      obtain ⟨cell, newer, found, since, fits⟩ := kept order versions pinned
      refine ⟨cell, _, found, since.cons (by intro eq; cases eq), fun line member => ?_⟩
      exact (fits line member).changed current (fun _ => rfl) (Nat.le_succ _)
        (.inl (Nat.lt_succ_self _)) rfl
  | @cleared id counter now kept' current others =>
      intro order versions pinned
      obtain ⟨cell, newer, found, since, fits⟩ := kept order versions pinned
      refine ⟨cell, _, found, since.cons (by intro eq; cases eq), fun line member => ?_⟩
      have same : counter.lastVersion ≤
          (⟨counter.lastVersion, some now⟩ : PickupCounter).lastVersion :=
        Nat.le_refl _
      exact (fits line member).changed current (fun _ => rfl) same (.inr rfl) rfl
  | @confirmed sys issued before cell snapshots table handovers advances found unpaid present paid
      pinned =>
      have first : .confirmed issued ∉ service.log := by
        intro member
        obtain ⟨held, holds, receipt⟩ := logged issued member
        rw [found] at holds
        cases holds
        rw [unpaid] at receipt
        cases receipt
      have others : ∀ order versions, service.versionsAtPayment.find? order = some versions →
          ∃ cell newer, sys.cells.find? order = some cell ∧
            Since (.confirmed issued :: service.log) order newer ∧
            ∀ line ∈ pinnedLines cell.book.order.lines versions, PinFits service newer line := by
        intro order versions standing
        obtain ⟨held, newer, holds, since, fits⟩ := kept order versions standing
        have apart : PickupEvent.confirmed issued ≠ .confirmed order := by
          intro eq
          cases eq
          obtain ⟨older, split, -, -⟩ := since
          rw [split] at first
          exact first (List.mem_append_right _ List.mem_cons_self)
        exact ⟨held, _, holds, since.cons apart, fun line member => (fits line member).cons rfl⟩
      intro order versions standing
      rcases pinned with same | same
      · subst same
        exact others order versions standing
      · subst same
        simp only [Keyed.Table.find?_set] at standing
        split at standing
        · rename_i own
          cases standing
          subst own
          exact ⟨cell, [], present, ⟨service.log, rfl, List.not_mem_nil, first⟩,
            versionsNow_fits fit _⟩
        · exact others order versions standing

structure PickupSound (service : PickupService) : Prop where
  terms : TermsFit service
  logged : ConfirmedPaid service
  pins : PinsFit service

theorem reachable_pickup_sound {allowed : PickupService → PickupAction → Prop}
    (reached : Runs.Reachable (pickups references) allowed service) : PickupSound service := by
  refine Runs.invariant_under (pickups references) allowed
    (fun service => Runs.Reachable (marketplace references) Runs.anyStep service.sys) PickupSound
    (fun _ known => reachable_market known) ?_ ?_ reached
  · rintro start rfl
    refine ⟨.empty, fun id member => ?_, fun id versions found => ?_⟩
    · cases member
    · cases found
  · intro before action after market sound _ stepped
    have move := pickup_step_inverts stepped
    exact ⟨sound.terms.step move, sound.logged.step market move,
      sound.pins.step sound.terms sound.logged market move⟩

/-! The two queries. -/

theorem termsChanged_iff (fit : TermsFit service) {newer : List PickupEvent}
    {line : ListingId × ℕ} (fits : PinFits service newer line) :
    PickupService.termsChanged (service.currentVersion line.1) line.2 = true ↔
      ∃ event ∈ newer, event.changes line.1 = true := by
  obtain ⟨counter, counted, above, exactly⟩ := fits
  rw [exactly, fit.currentVersion, counted, Option.bind_some]
  cases marked : counter.clearedAt with
  | none => simp [PickupService.termsChanged]
  | some time => simp [PickupService.termsChanged]

theorem lookup_keyed {Key Value : Type} [DecidableEq Key] (value : Key → Option Value)
    (keys : List Key) (key : Key) :
    (keys.filterMap fun other => (value other).map fun row => (other, row)).lookup key =
      if key ∈ keys then value key else none := by
  induction keys with
  | nil => rfl
  | cons first rest ih =>
      by_cases same : key = first
      · subst same
        cases found : value key with
        | none =>
            rw [List.filterMap_cons_none (by rw [found]; rfl), ih, found]
            simp
        | some row =>
            rw [List.filterMap_cons_some (by rw [found]; rfl)]
            simp
      · cases found : value first with
        | none =>
            rw [List.filterMap_cons_none (by rw [found]; rfl), ih]
            simp [same]
        | some row =>
            have apart : (key == first) = false := beq_eq_false_iff_ne.mpr same
            rw [List.filterMap_cons_some (by rw [found]; rfl), List.lookup_cons, ih, apart]
            simp [same]

/-- The grouped query finds for a listing what the query for one order does. -/
theorem currentVersions_lookup {referenced : List ListingId} {listing : ListingId}
    (member : listing ∈ referenced) :
    (service.currentVersions referenced).lookup listing = service.currentVersion listing := by
  have grouped : ((service.details.rows.filter fun row =>
        referenced.contains row.1.1 && !service.cleared row.1.1).filter fun row =>
        row.1.1 == listing) =
      if service.cleared listing then []
      else service.details.rows.filter fun row => row.1.1 == listing := by
    rw [List.filter_filter]
    cases marked : service.cleared listing with
    | true =>
        rw [if_pos rfl]
        apply List.filter_eq_nil_iff.mpr
        intro row _ hit
        simp only [Bool.and_eq_true, beq_iff_eq] at hit
        obtain ⟨same, -, open'⟩ := hit
        rw [same, marked] at open'
        cases open'
    | false =>
        rw [if_neg Bool.false_ne_true]
        apply List.filter_congr
        intro row _
        by_cases same : row.1.1 = listing
        · simp [same, marked, member]
        · simp [same]
  unfold PickupService.currentVersions PickupService.currentVersion PickupService.versionsOf
  dsimp only
  rw [lookup_keyed, grouped]
  cases marked : service.cleared listing with
  | true => simp
  | false =>
      simp only [Bool.false_eq_true, if_false]
      split
      · rfl
      · rename_i absent
        -- No row of the listing, so no maximum.
        symm
        rw [List.max?_eq_none_iff, List.map_eq_nil_iff, List.filter_eq_nil_iff]
        intro row stored same
        rw [beq_iff_eq] at same
        apply absent
        apply List.mem_dedup.mpr
        refine List.mem_map.mpr ⟨row, List.mem_filter.mpr ⟨stored, ?_⟩, same⟩
        simp [same, marked, member]

/-- A fold of writes leaves under a key what each of its writers writes. -/
theorem foldl_flags {Row : Type} {chosen : Row → Prop} [DecidablePred chosen]
    {key : Row → OrderId} {value : Row → Bool} {id : OrderId} {flag : Bool} {rows : List Row}
    (agree : ∀ row ∈ rows, chosen row → key row = id → value row = flag) :
    ∀ flags : Keyed.Table OrderId Bool,
      flags.find? id = some flag ∨ (∃ row ∈ rows, chosen row ∧ key row = id) →
      (rows.foldl (fun flags row => if chosen row then flags.set (key row) (value row) else flags)
        flags).find? id = some flag := by
  induction rows with
  | nil =>
      rintro flags (written | ⟨row, member, -⟩)
      · exact written
      · cases member
  | cons first rest ih =>
      intro flags held
      refine ih (fun row member => agree row (List.mem_cons_of_mem _ member)) _ ?_
      by_cases writes : chosen first ∧ key first = id
      · left
        dsimp only
        rw [if_pos writes.1, writes.2, Keyed.Table.find?_set_self,
          agree first List.mem_cons_self writes.1 writes.2]
      · rcases held with written | ⟨row, member, picked, same⟩
        · left
          dsimp only
          split
          · rename_i picked
            rw [Keyed.Table.find?_set_ne _ _ fun same => writes ⟨picked, same.symm⟩]
            exact written
          · exact written
        · rcases List.mem_cons.mp member with rfl | later
          · exact absurd ⟨picked, same⟩ writes
          · exact .inr ⟨row, later, picked, same⟩

theorem foldl_flags_other {Row : Type} {chosen : Row → Prop} [DecidablePred chosen]
    {key : Row → OrderId} {value : Row → Bool} {id : OrderId} {rows : List Row}
    (none_writes : ∀ row ∈ rows, chosen row → key row ≠ id) :
    ∀ flags : Keyed.Table OrderId Bool,
      (rows.foldl (fun flags row => if chosen row then flags.set (key row) (value row) else flags)
        flags).find? id = flags.find? id := by
  induction rows with
  | nil => exact fun _ => rfl
  | cons first rest ih =>
      intro flags
      rw [List.foldl_cons, ih fun row member => none_writes row (List.mem_cons_of_mem _ member)]
      split
      · rename_i picked
        exact Keyed.Table.find?_set_ne _ _ (none_writes first List.mem_cons_self picked).symm
      · rfl

theorem reachable_order_id {sys : Sys}
    (reached : Runs.Reachable (marketplace references) Runs.anyStep sys) :
    ∀ id cell, sys.cells.find? id = some cell → cell.book.order.id = id := by
  refine Runs.invariant_under (marketplace references) Runs.anyStep
    (fun sys => ∀ id cell, sys.cells.find? id = some cell → Sound cell)
    (fun sys => ∀ id cell, sys.cells.find? id = some cell → cell.book.order.id = id)
    (fun _ known _ _ found => reachable_sound known found) ?_ ?_ reached
  · rintro start rfl id cell found
    cases found
  · intro before action after sound keyed _ stepped id cell found
    cases step_inv stepped with
    | @order other now step old done named present ran cells =>
        rw [cells, Keyed.Table.find?_set] at found
        split at found
        · rename_i same
          cases found
          subst same
          have terms := ((stepCell_steps (sound _ old present) ran).steady
              (sound _ old present)).terms
          exact (congrArg Terms.id terms).trans (keyed _ old present)
        · exact keyed id cell found
    | created foreign fresh inserted =>
        rcases insert_cells inserted found with old | ⟨-, book, -, same, rfl⟩
        · exact keyed id cell old
        · exact same
    | beside foreign cells =>
        rw [cells] at found
        exact keyed id cell found

theorem flags_agree (keyed : ∀ id cell, service.sys.cells.find? id = some cell →
      cell.book.order.id = id) {ids : List OrderId} {id : OrderId} {row : PickupOrder}
    (member : id ∈ ids) (found : service.pickupOrder id = some row)
    (paid : row.hasReceipt = true) :
    ((service.pickupTermsChangedFlags (ids.filterMap service.pickupOrder)).find? id).getD false =
      service.orderHasUnresolvedTermsChange row := by
  have named : ∀ other kept, service.pickupOrder other = some kept → kept.order.id = other := by
    intro other kept stored
    obtain ⟨cell, present, rfl⟩ := Option.map_eq_some_iff.mp stored
    exact keyed other cell present
  have listed : row ∈ ids.filterMap service.pickupOrder :=
    List.mem_filterMap.mpr ⟨id, member, found⟩
  have only : ∀ twin ∈ ids.filterMap service.pickupOrder, twin.order.id = id → twin = row := by
    intro twin among same
    obtain ⟨other, -, stored⟩ := List.mem_filterMap.mp among
    rw [← named other twin stored, same, found] at stored
    cases stored
    rfl
  by_cases pickup : row.order.fulfillment = .pickup
  · have answer : ∀ twin ∈ ids.filterMap service.pickupOrder,
        twin.order.fulfillment = .pickup ∧ twin.hasReceipt = true → twin.order.id = id →
        (twin.pinned.any fun line => PickupService.termsChanged
          ((service.currentVersions (((ids.filterMap service.pickupOrder).flatMap
            PickupService.flaggedLines).map Prod.fst).dedup).lookup line.1) line.2) =
          service.orderHasUnresolvedTermsChange row := by
      intro twin among _ same
      rw [only twin among same, PickupService.orderHasUnresolvedTermsChange, pickup,
        beq_self_eq_true, Bool.true_and, Bool.eq_iff_iff, List.any_eq_true, List.any_eq_true]
      apply exists_congr
      intro line
      rw [and_congr_right_iff]
      intro pinned
      rw [currentVersions_lookup]
      apply List.mem_dedup.mpr
      refine List.mem_map.mpr ⟨line, List.mem_flatMap.mpr ⟨row, listed, ?_⟩, rfl⟩
      rw [PickupService.flaggedLines, if_pos ⟨pickup, paid⟩]
      exact pinned
    rw [PickupService.pickupTermsChangedFlags, foldl_flags answer _
      (.inr ⟨row, listed, ⟨pickup, paid⟩, named id row found⟩)]
    rfl
  · rw [PickupService.pickupTermsChangedFlags, foldl_flags_other]
    · simp [PickupService.orderHasUnresolvedTermsChange, pickup]
    · rintro twin among ⟨chosen, -⟩ same
      rw [only twin among same] at chosen
      exact pickup chosen

/-! The commands. -/

theorem seller_confirm_refused {id : OrderId} {row : PickupOrder}
    (found : service.pickupOrder id = some row)
    (changed : service.orderHasUnresolvedTermsChange row = true) {sender : Sender}
    (seller : sender.actor ≠ row.order.buyerPubky) (now : Time) :
    ∃ failure, service.confirmPickup references id sender now = .error failure := by
  cases ran : service.confirmPickup references id sender now with
  | error failure => exact ⟨failure, rfl⟩
  | ok after =>
      exfalso
      unfold PickupService.confirmPickup at ran
      rw [found] at ran
      obtain ⟨_, -, rest⟩ := Outcome.bind_ok ran
      obtain ⟨-, rest⟩ := Outcome.guard_ok rest
      obtain ⟨-, rest⟩ := Outcome.guard_ok rest
      obtain ⟨unchanged, -⟩ := Outcome.guard_ok rest
      exact unchanged ⟨if_neg seller, changed⟩

theorem paid_lines_sold {sys : Sys}
    (reached : Runs.Reachable (marketplace references) Runs.anyStep sys) {id : OrderId}
    {cell : Cell} (found : sys.cells.find? id = some cell)
    (paid : cell.book.order.state ∉ unpaidStates) (listing : ListingId) :
    linesOn listing cell.book.order.lines ≤ sys.inventory.soldOf listing := by
  obtain ⟨receipt, nothing⟩ := (reachable_givenBack reached found).paid paid
  have splits := sys.cells.sum_add_of_rows (Cell.keptOn listing) (Cell.returnedOn listing)
    (Cell.confirmedOn listing) fun row member =>
      Nat.sub_add_cancel ((reachable_givenBack reached (sys.cells.find?_of_mem member)).within _)
  have own := sys.cells.le_sum_of_find? (Cell.keptOn listing) found
  have kept : cell.keptOn listing = linesOn listing cell.book.order.lines := by
    rw [Cell.keptOn, Cell.confirmedOn_eq, Standing.boughtOn, if_pos receipt, Cell.returnedOn,
      nothing]
    rfl
  have sold := reachable_soldByReceipts reached listing
  omega

def DropReturnable (inventory : Inventory) (order : Order) : Prop :=
  ∀ dropId ∈ order.dropAggregateId, ∃ drop ∈ inventory.drops.find? dropId,
    drop.remainingQuantity + order.units ≤ drop.totalQuantity ∧
      ∃ purchase ∈ inventory.dropPurchases.find? (dropId, order.buyerPubky),
        order.units ≤ purchase.quantity

theorem returnSold_ok_iff {inventory : Inventory} {order : Order}
    (sold : ∀ listing, linesOn listing order.lines ≤ inventory.soldOf listing) (now : Time) :
    (∃ after, returnSold inventory order now = .ok after) ↔ DropReturnable inventory order := by
  unfold returnSold
  rw [orRollback_ok_iff, andThen_ok_iff]
  constructor
  · rintro ⟨credited, -⟩
    exact (creditOrderDrop_ok_iff inventory order now).mp credited
  · intro drop
    have credited := (creditOrderDrop_ok_iff inventory order now).mpr drop
    refine ⟨credited, (forLines_completes releaseSoldMove _ _).mpr fun line member => ?_⟩
    rw [creditOrderDrop_listings inventory order now credited]
    have covered := sold line.listing
    have positive := linesOn_pos member
    cases found : inventory.listings.find? line.listing with
    | none =>
        rw [Inventory.soldOf, found] at covered
        simp at covered
        omega
    | some listing =>
        rw [Inventory.soldOf, found] at covered
        exact ⟨listing, rfl, trivial, covered⟩

/-- It only has to give the units back. -/
theorem cancelRequest_unilateral {view : View} {sender : Sender} {reason : String} {now : Time}
    (pickup : view.book.order.fulfillment = .pickup)
    (open' : view.book.order.state = .paid ∨ view.book.order.state = .readyForPickup)
    (buyer : sender.actor = view.book.order.buyerPubky)
    (current : sender.expectedRevision = view.book.order.revision) :
    cancelRequest view sender reason true now =
      (returnSold view.inventory view.book.order now).map fun inventory => {
        inventory := inventory
        book := { view.book with order := cancelOrder view.book.order .cancelled reason } } := by
  have guarded : guardOrderAction view.book.order sender = .ok () := by
    simp [guardOrderAction, buyer, current]
  have kind : cancelKind view.book.order true = .unilateral := by
    rcases open' with same | same <;> simp [cancelKind, pickup, same]
  unfold cancelRequest
  simp only [guarded, kind, pickup]
  cases returned : returnSold view.inventory view.book.order now with
  | error failure =>
      rcases open' with same | same <;> simp [same, buyer, Bind.bind, Except.bind, Except.map]
  | ok inventory =>
      rcases open' with same | same <;>
        simp [same, buyer, Bind.bind, Except.bind, pure, Except.pure, Except.map]

/-- The buyer's request cancels the order exactly when its drop can take the
units back: the listings always can. -/
theorem buyer_cancels_iff
    (reached : Runs.Reachable (marketplace references) Runs.anyStep service.sys)
    {id : OrderId} {row : PickupOrder} (found : service.pickupOrder id = some row)
    (changed : service.orderHasUnresolvedTermsChange row = true)
    (open' : row.order.state = .paid ∨ row.order.state = .readyForPickup) {sender : Sender}
    (buyer : sender.actor = row.order.buyerPubky)
    (current : sender.expectedRevision = row.order.revision) (reason : String) (now : Time) :
    (∃ after done, service.cancelRequest references id sender reason now = some after ∧
      after.sys.cells.find? id = some done ∧ done.book.order.state = .cancelled) ↔
    DropReturnable service.sys.inventory row.order := by
  obtain ⟨cell, present, same⟩ := Option.map_eq_some_iff.mp found
  have order : row.order = cell.book.order := by rw [← same]
  have pickup : row.order.fulfillment = .pickup := by
    simp only [PickupService.orderHasUnresolvedTermsChange, Bool.and_eq_true, beq_iff_eq]
      at changed
    exact changed.1
  rw [order] at open' buyer current pickup ⊢
  have paid : cell.book.order.state ∉ unpaidStates := by
    rcases open' with state | state <;> simp [state, unpaidStates]
  rw [← returnSold_ok_iff (paid_lines_sold reached present paid) now]
  let step : OrderAction := .cancel sender reason true
  have requested : service.cancelRequest references id sender reason now =
      service.advance references (.order id now step) := by
    simp only [PickupService.cancelRequest, found, changed, Bool.true_or, Option.bind_eq_bind,
      Option.bind_some, step]
  have asked := @cancelRequest_unilateral ⟨service.sys.inventory, cell.book⟩ sender reason now
    pickup open' buyer current
  rw [requested]
  constructor
  · rintro ⟨after, done, advanced, -⟩
    obtain ⟨sys, stepped, -⟩ := Option.map_eq_some_iff.mp advanced
    obtain ⟨later, -, ran⟩ := order_step present stepped
    simp only [stepCell, step, transact, asked] at ran
    cases returned : returnSold service.sys.inventory cell.book.order now with
    | error failure => simp [returned, Except.map, Effect.ofView, Except.toOption] at ran
    | ok inventory => exact ⟨inventory, rfl⟩
  · rintro ⟨inventory, returned⟩
    rw [returned] at asked
    have receipt := ((reachable_givenBack reached present).paid paid).1
    let done := cell.after step
      ⟨⟨inventory, { cell.book with order := cancelOrder cell.book.order .cancelled reason }⟩, []⟩
    have stepped : service.sys.step references (.order id now step) =
        some { service.sys with inventory, cells := service.sys.cells.set id done } := by
      simp only [Sys.step, present, Option.bind_some, stepCell]
      rw [if_pos (by rfl)]
      simp only [step, transact, asked, Except.map, Effect.ofView, Except.toOption,
        Option.map_some]
      rfl
    have unissued : cell.book.receipt ≠ none := by
      intro missing
      have some_receipt : cell.book.standing.receipt.isSome = true := receipt
      rw [show cell.book.standing.receipt = cell.book.receipt.map Receipt.charge from rfl, missing]
        at some_receipt
      cases some_receipt
    refine ⟨{ service with sys := { service.sys with
      inventory, cells := service.sys.cells.set id done } }, done, ?_,
      Keyed.Table.find?_set_self _ _ _, rfl⟩
    simp only [PickupService.advance, stepped, Option.map_some, present,
      Keyed.Table.find?_set_self, unissued, false_and, if_false]

/-! The law. -/

/-- In every run. -/
theorem pickup_terms_changes_are_found (references : References) (service : PickupService)
    (reached : Runs.Reachable (pickups references) Runs.anyStep service) :
    (∀ id row, service.pickupOrder id = some row → row.order.fulfillment = .pickup →
      row.pinned ≠ [] →
      ∃ newer older, service.log = newer ++ .confirmed id :: older ∧ .confirmed id ∉ newer ∧
        .confirmed id ∉ older ∧
        (service.orderHasUnresolvedTermsChange row = true ↔
          ∃ line ∈ row.pinned, ∃ event ∈ newer, event.changes line.1 = true)) ∧
    (∀ (ids : List OrderId) id row, id ∈ ids → service.pickupOrder id = some row →
      row.hasReceipt = true →
      ((service.pickupTermsChangedFlags (ids.filterMap service.pickupOrder)).find? id).getD false =
        service.orderHasUnresolvedTermsChange row) ∧
    (service.log.Pairwise fun newer older => ∀ listing version,
      newer = .set listing version → older ≠ .set listing version) ∧
    ∀ id row, service.pickupOrder id = some row →
      service.orderHasUnresolvedTermsChange row = true →
      (∀ sender now, sender.actor ≠ row.order.buyerPubky →
        ∃ failure, service.confirmPickup references id sender now = .error failure) ∧
      (row.order.state = .paid ∨ row.order.state = .readyForPickup →
        ∀ sender reason now, sender.actor = row.order.buyerPubky →
          sender.expectedRevision = row.order.revision →
          ((∃ after done, service.cancelRequest references id sender reason now = some after ∧
            after.sys.cells.find? id = some done ∧ done.book.order.state = .cancelled) ↔
          DropReturnable service.sys.inventory row.order)) := by
  have market := reachable_market reached
  have sound := reachable_pickup_sound reached
  refine ⟨fun id row found pickup pinned => ?_, fun ids id row member found paid => ?_, ?_,
    fun id row found changed => ⟨fun sender now seller => ?_,
      fun open' sender reason now buyer current => ?_⟩⟩
  · obtain ⟨cell, present, rfl⟩ := Option.map_eq_some_iff.mp found
    cases versions : service.versionsAtPayment.find? id with
    | none =>
        exfalso
        apply pinned
        simp [PickupOrder.pinned, pinnedLines, versions]
    | some stored =>
        obtain ⟨held, newer, holds, ⟨older, split, first, last⟩, fits⟩ :=
          sound.pins id stored versions
        rw [present] at holds
        cases holds
        refine ⟨newer, older, split, first, last, ?_⟩
        simp only [PickupService.orderHasUnresolvedTermsChange, PickupOrder.pinned,
          Option.getD_some, Bool.and_eq_true, beq_iff_eq, List.any_eq_true] at pickup ⊢
        simp only [pickup, true_and]
        apply exists_congr
        intro line
        rw [and_congr_right_iff]
        intro member
        exact termsChanged_iff sound.terms (fits line member)
  · exact flags_agree (reachable_order_id market) member found paid
  · refine sound.terms.rising.imp ?_
    intro newer older rises listing version is same
    exact absurd (rises listing version version is same) (Nat.lt_irrefl _)
  · exact seller_confirm_refused found changed seller now
  · exact buyer_cancels_iff market found changed open' buyer current reason now

/-! Samples. -/

/-- A drop of a lamp that is to be picked up. -/
def pickupLampDrop (revision : ℕ) (readAt : Time) : Action :=
  .syncDrop "drop"
    { sellerPubky := "seller"
      revision := revision
      startsAt := 100
      endsAt := none
      totalQuantity := 1
      perBuyerLimit := 1
      listingIds := ["lamp"] } readAt

def pickupLampListing : Action :=
  .registerListing "lamp" { sampleRecord 1 "USD" 2 with fulfillmentMethods := [.pickup] }
    ⟨"seller", 0⟩ false

/-- The claim of it as order 7, with a first meeting point. -/
def pickupLampClaim : List PickupAction :=
  [ .service pickupLampListing
  , .configure true false
  , .set ⟨"seller", 0⟩ "lamp" "north entrance"
  , .service (pickupLampDrop 1 0)
  , .service (.tick 100)
  , .service (.checkout
      { buyer := "buyer"
        lines := [⟨"lamp", 1, 1, .pickup, Nat.one_pos⟩]
        orderIds := [7]
        locksAuthority := false
        dropClaimWindowSeconds := 600 }) ]

def pickupLampPayment : List PickupAction :=
  (sampleBind 1 .stripe none none).map .service ++
  [ .service (.order 7 110 (.verifyStripe "buyer" (some "session")))
  , .service (.order 7 110 (.applyFiat (some "session") .processor)) ]

def movedLamp : PickupAction := .set ⟨"seller", 1⟩ "lamp" "south entrance"

/-- The meeting point moves, and the buyer may leave: the drop takes its unit
back. -/
theorem moved_lamp_is_left :
    ∃ service, Runs.Reachable (pickups sampleReferences) Runs.anyStep service ∧
      ∃ row ∈ service.pickupOrder 7, row.order.state = .paid ∧ row.pinned = [("lamp", 1)] ∧
        row.order.dropAggregateId = some "drop" ∧
        service.orderHasUnresolvedTermsChange row = true ∧
        ∃ after done, service.cancelRequest sampleReferences 7
            ⟨"buyer", row.order.revision⟩ "moved" 120 = some after ∧
          after.sys.cells.find? 7 = some done ∧ done.book.order.state = .cancelled := by
  obtain ⟨service, reached, row, found, paid, pinned, changed, buyer, stamped, returnable⟩ :=
    @Runs.exists_reachable_of_run _ _ (pickups sampleReferences) Runs.anyStep emptyPickup rfl
      (pickupLampClaim ++ pickupLampPayment ++ [movedLamp])
      (fun service => ∃ row ∈ service.pickupOrder 7, row.order.state = .paid ∧
        row.pinned = [("lamp", 1)] ∧ service.orderHasUnresolvedTermsChange row = true ∧
        row.order.buyerPubky = "buyer" ∧ row.order.dropAggregateId = some "drop" ∧
        ∃ drop ∈ service.sys.inventory.drops.find? "drop",
          drop.remainingQuantity + row.order.units ≤ drop.totalQuantity ∧
          ∃ purchase ∈ service.sys.inventory.dropPurchases.find? ("drop", row.order.buyerPubky),
            row.order.units ≤ purchase.quantity)
      (Runs.meets_anyStep _ _ _) (by decide +kernel)
  have law := (pickup_terms_changes_are_found sampleReferences service reached).2.2.2 7 row found
    changed
  have drop : DropReturnable service.sys.inventory row.order := by
    intro id known
    rw [stamped] at known
    cases known
    exact returnable
  exact ⟨service, reached, row, found, paid, pinned, stamped, changed,
    (law.2 (.inl paid) ⟨"buyer", row.order.revision⟩ "moved" 120 buyer.symm rfl).mpr drop⟩

/-- The meeting point moves, the change is found, and the order cannot be
cancelled: the buyer has picked the lamp up, or the order is still paid, but a
sync that read the clock before the drop began has started its units over. -/
theorem moved_lamp_is_kept :
    (∃ service, Runs.Reachable (pickups sampleReferences) Runs.anyStep service ∧
      ∃ row ∈ service.pickupOrder 7, row.hasReceipt = true ∧ row.pinned = [("lamp", 1)] ∧
        row.order.state = .delivered ∧ service.orderHasUnresolvedTermsChange row = true ∧
        service.cancelRequest sampleReferences 7 ⟨"buyer", row.order.revision⟩ "moved" 130 =
          none) ∧
    ∃ service, Runs.Reachable (pickups sampleReferences) Runs.anyStep service ∧
      ∃ row ∈ service.pickupOrder 7, row.hasReceipt = true ∧ row.pinned = [("lamp", 1)] ∧
        row.order.state = .paid ∧ row.order.dropAggregateId = some "drop" ∧
        service.orderHasUnresolvedTermsChange row = true ∧
        service.cancelRequest sampleReferences 7 ⟨"buyer", row.order.revision⟩ "moved" 120 =
          none := by
  constructor
  · exact @Runs.exists_reachable_of_run _ _ (pickups sampleReferences) Runs.anyStep emptyPickup rfl
      (pickupLampClaim ++ pickupLampPayment ++ [.confirmPickup 7 ⟨"buyer", 3⟩ 120, movedLamp]) _
      (Runs.meets_anyStep _ _ _) (by decide +kernel)
  · exact @Runs.exists_reachable_of_run _ _ (pickups sampleReferences) Runs.anyStep emptyPickup rfl
      (pickupLampClaim ++ [.service (pickupLampDrop 2 99)] ++ pickupLampPayment ++ [movedLamp]) _
      (Runs.meets_anyStep _ _ _) (by decide +kernel)

end MarketplaceService
