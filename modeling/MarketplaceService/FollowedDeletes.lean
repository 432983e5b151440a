import MarketplaceService.DeletionKnowledge

/-!
What the follower has passed. A delete that is a record's latest event and
that the cursor of its seller is at or past must have reached the listing's
row. It may be missed in two ways: a registration or a sync inserts a row for a
record whose delete the follower has passed already, or the events of sibling
ids fill the window in which a delete is confirmed.
-/

namespace MarketplaceService

variable {config : FollowerConfig} {store after : Storefront} {action : StorefrontAction}

/-! Paths. -/

theorem eventListingId_some {path id : String} (named : eventListingId path = some id) :
    path = listingRecordPath id := by
  simp only [eventListingId] at named
  obtain ⟨exact_, same⟩ := Option.ite_none_right_eq_some.mp named
  simp only [Bool.and_eq_true, List.isPrefixOf_iff_prefix] at exact_
  obtain ⟨rest, split⟩ := exact_.1.1
  cases same
  rw [← String.toList_inj, listingRecordPath, String.toList_append, String.toList_ofList, ← split,
    List.drop_left]

theorem eventListingId_record {id : String} (valid : isValidEntityId id = true) :
    eventListingId (listingRecordPath id) = some id := by
  simp only [isValidEntityId, Bool.and_eq_true, decide_eq_true_eq, List.all_eq_true] at valid
  obtain ⟨⟨long, -⟩, safe⟩ := valid
  have unslashed : id.toList.contains '/' = false := by
    rw [Bool.eq_false_iff]
    intro slashed
    have bad := safe '/' (List.contains_iff_mem.mp slashed)
    revert bad
    decide
  have nonempty : id.toList.isEmpty = false := by
    rw [Bool.eq_false_iff]
    intro empty
    rw [List.isEmpty_iff.mp empty] at long
    cases long
  simp only [eventListingId, listingRecordPath, String.toList_append, List.drop_left, nonempty,
    unslashed, List.isPrefixOf_iff_prefix.mpr (List.prefix_append _ _), String.ofList_toList]
  rfl

theorem listingRecordPath_injective {left right : String}
    (same : listingRecordPath left = listingRecordPath right) : left = right := by
  rw [← String.toList_inj, listingRecordPath, listingRecordPath, String.toList_append,
    String.toList_append] at same
  exact String.toList_inj.mp (List.append_cancel_left same)

theorem underPath_record (id : String) (event : HomeserverEvent)
    (path : event.path = listingRecordPath id) : underPath listingsPath event = true := by
  rw [underPath, path, listingRecordPath, String.toList_append, List.isPrefixOf_iff_prefix]
  exact List.prefix_append _ _

/-! What the follower has passed. -/

/-- How far a pass has settled the events of a seller. -/
def Job.settledThrough : Job → Option (Pubky × Cursor)
  | .batch page _ | .settling page _ _ _ _ =>
      page.settledThrough.map fun cursor => (page.seller, cursor)
  | .poll seller cursor _ _ _ => cursor.map fun cursor => (seller, cursor)
  | _ => none

def Activity.settledThrough : Activity → Option (Pubky × Cursor)
  | .pass follower => follower.job.settledThrough
  | _ => none

/-- The stored cursor of the seller, or a pass in progress, is at or past the
cursor. -/
def Storefront.passed (store : Storefront) (seller : Pubky) (cursor : Cursor) : Bool :=
  ((store.eventCursor seller).any fun stored => decide (cursor ≤ stored)) ||
    store.activities.rows.any fun row =>
      row.2.settledThrough.any fun through =>
        through.1 == seller && decide (cursor ≤ through.2)

theorem passed_cases {seller : Pubky} {cursor : Cursor}
    (passed : store.passed seller cursor = true) :
    (∃ stored, store.eventCursor seller = some stored ∧ cursor ≤ stored) ∨
      ∃ id pass through, store.activities.find? id = some (.pass pass) ∧
        pass.job.settledThrough = some (seller, through) ∧ cursor ≤ through := by
  simp only [Storefront.passed, Bool.or_eq_true, Option.any_eq_true, decide_eq_true_eq,
    List.any_eq_true, Bool.and_eq_true, beq_iff_eq] at passed
  rcases passed with stored | ⟨⟨id, activity⟩, member, ⟨named, through⟩, settled, rfl, below⟩
  · exact .inl stored
  · have found := Keyed.Table.find?_of_mem _ member
    cases activity with
    | pass pass => exact .inr ⟨id, pass, through, found, settled, below⟩
    | _ => cases settled

theorem passed_of_stored {seller : Pubky} {cursor stored : Cursor}
    (present : store.eventCursor seller = some stored) (below : cursor ≤ stored) :
    store.passed seller cursor = true := by
  simp [Storefront.passed, present, below]

theorem passed_of_pass {seller : Pubky} {cursor through : Cursor} {id : ActivityId}
    {pass : FollowerPass} (found : store.activities.find? id = some (.pass pass))
    (settled : pass.job.settledThrough = some (seller, through)) (below : cursor ≤ through) :
    store.passed seller cursor = true := by
  simp only [Storefront.passed, Bool.or_eq_true, List.any_eq_true]
  refine .inr ⟨(id, .pass pass), Keyed.lookup_mem _ _ _ found, ?_⟩
  simp [Activity.settledThrough, settled, below]

/-! Pages. -/

/-- What is left of a page: the events of the log after the cursor it was read
at and after what is settled, up to its last one. -/
structure Paged (store : Storefront) (seller : Pubky) (start through : Option Cursor)
    (events : List HomeserverEvent) : Prop where
  begun : ∀ cursor ∈ start, ∃ stored, store.eventCursor seller = some stored ∧ cursor ≤ stored
  logged : ∀ event ∈ events, event ∈ store.log.events ∧ event.user = seller
  ordered : events.Pairwise fun earlier later => earlier.cursor < later.cursor
  above : ∀ cursor ∈ through, ∀ event ∈ events, cursor < event.cursor
  complete : ∀ event ∈ store.log.events, event.user = seller →
    underPath listingsPath event = true → (∀ cursor ∈ start, cursor < event.cursor) →
    (∀ cursor ∈ through, cursor < event.cursor) →
    event ∈ events ∨ ∀ other ∈ events, other.cursor < event.cursor
  behind : ∀ cursor ∈ through, ∃ event ∈ store.log.events, cursor ≤ event.cursor

theorem step_logged {event : HomeserverEvent} (stepped : store.step config action = some after)
    (member : event ∈ store.log.events) : event ∈ after.log.events := by
  rcases step_log stepped with same | ⟨written, write⟩
  · exact same ▸ member
  · rw [(EventLog.write_events write).1]
    exact List.mem_cons_of_mem _ member

theorem Paged.step {seller : Pubky} {start through : Option Cursor}
    {events : List HomeserverEvent} (paged : Paged store seller start through events)
    (stepped : store.step config action = some after) :
    Paged after seller start through events := by
  constructor
  · intro cursor named
    obtain ⟨stored, present, below⟩ := paged.begun cursor named
    obtain ⟨later, moved, above⟩ := step_cursor_forward stepped present
    exact ⟨later, moved, below.trans above⟩
  · intro event member
    obtain ⟨listed, user⟩ := paged.logged event member
    exact ⟨step_logged stepped listed, user⟩
  · exact paged.ordered
  · exact paged.above
  · intro event member user under started settled
    rcases step_log stepped with same | ⟨written, write⟩
    · rw [same] at member
      exact paged.complete event member user under started settled
    · obtain ⟨listed, newest⟩ := EventLog.write_events write
      rw [listed] at member
      rcases List.mem_cons.mp member with rfl | known
      · exact .inr fun other member => newest other (paged.logged other member).1
      · exact paged.complete event known user under started settled
  · intro cursor named
    obtain ⟨event, member, below⟩ := paged.behind cursor named
    exact ⟨event, step_logged stepped member, below⟩

theorem Paged.settled {seller : Pubky} {start through : Option Cursor} {event : HomeserverEvent}
    {later : List HomeserverEvent} (paged : Paged store seller start through (event :: later)) :
    Paged store seller start (some event.cursor) later := by
  obtain ⟨first, ordered⟩ := List.pairwise_cons.mp paged.ordered
  constructor
  · exact paged.begun
  · exact fun other member => paged.logged other (List.mem_cons_of_mem _ member)
  · exact ordered
  · rintro _ ⟨⟩ other member
    exact first other member
  · intro other member user under started settled
    have beyond : event.cursor < other.cursor := settled event.cursor rfl
    have further : ∀ cursor ∈ through, cursor < other.cursor := by
      intro cursor named
      exact (paged.above cursor named event List.mem_cons_self).trans beyond
    rcases paged.complete other member user under started further with inside | outside
    · rcases List.mem_cons.mp inside with rfl | rest
      · exact absurd beyond (lt_irrefl _)
      · exact .inl rest
    · exact .inr fun earlier inside => outside earlier (List.mem_cons_of_mem _ inside)
  · rintro _ ⟨⟩
    exact ⟨event, (paged.logged event List.mem_cons_self).1, le_rfl⟩

/-- A latest event up to the first of the page was passed before, or it is that
event. -/
theorem Paged.reached {seller : Pubky} {start through : Option Cursor} {event : HomeserverEvent}
    {later : List HomeserverEvent} {key : RecordKey} {found : HomeserverEvent}
    (paged : Paged store seller start through (event :: later)) (user : key.1 = seller)
    (latest : store.log.latestEvent key = some found) (below : found.cursor ≤ event.cursor) :
    (∃ cursor ∈ start, found.cursor ≤ cursor) ∨ (∃ cursor ∈ through, found.cursor ≤ cursor) ∨
      found = event := by
  by_cases started : ∃ cursor ∈ start, found.cursor ≤ cursor
  · exact .inl started
  by_cases settled : ∃ cursor ∈ through, found.cursor ≤ cursor
  · exact .inr (.inl settled)
  push Not at started settled
  obtain ⟨member, writer, path⟩ := EventLog.latestEvent_mem latest
  rcases paged.complete found member (writer.trans user) (underPath_record _ _ path) started
    settled with inside | outside
  · rcases List.mem_cons.mp inside with rfl | rest
    · exact .inr (.inr rfl)
    · exact absurd ((List.pairwise_cons.mp paged.ordered).1 found rest) (not_lt.mpr below)
  · exact absurd (outside event List.mem_cons_self) (not_lt.mpr below)

theorem forward_paged (seller : Pubky) (start : Option Cursor) (limit : ℕ)
    (begun : ∀ cursor ∈ start, ∃ stored, store.eventCursor seller = some stored ∧
      cursor ≤ stored) :
    Paged store seller start none (store.log.forward seller listingsPath start limit) := by
  have sorted : (store.log.matching seller listingsPath start).reverse.Pairwise
      fun earlier later => earlier.cursor < later.cursor := by
    rw [List.pairwise_reverse]
    exact store.log.ordered.filter _
  constructor
  · exact begun
  · intro event member
    have listed := List.mem_reverse.mp (List.mem_of_mem_take member)
    obtain ⟨inside, kept⟩ := List.mem_filter.mp listed
    simp only [Bool.and_eq_true, beq_iff_eq] at kept
    exact ⟨inside, kept.1.1⟩
  · exact sorted.sublist (List.take_sublist _ _)
  · intro cursor never
    cases never
  · intro event member user under started _
    have listed : event ∈ (store.log.matching seller listingsPath start).reverse := by
      refine List.mem_reverse.mpr (List.mem_filter.mpr ⟨member, ?_⟩)
      simp only [Bool.and_eq_true, beq_iff_eq]
      refine ⟨⟨user, under⟩, ?_⟩
      cases start with
      | none => rfl
      | some cursor => simpa using started cursor rfl
    rw [← List.take_append_drop limit
      (store.log.matching seller listingsPath start).reverse] at listed sorted
    rcases List.mem_append.mp listed with taken | dropped
    · exact .inl taken
    · right
      intro other inside
      exact (List.pairwise_append.mp sorted).2.2 other inside event dropped
  · intro cursor never
    cases never

/-- The sellers a pass has still to follow. -/
def Job.due : Job → DueSellers
  | .following due | .batch _ due | .settling _ _ _ _ due | .poll _ _ _ _ due => due
  | _ => []

/-- The page a pass works on. The delete it settles is the first event of the
page, and the last of its listing there. -/
def Job.paged (store : Storefront) : Job → Prop
  | .batch page _ =>
      Paged store page.seller page.afterCursor page.settledThrough page.events
  | .settling page listingId cursor _ _ =>
      ∃ event, event.cursor = cursor ∧ eventListingId event.path = some listingId ∧
        Paged store page.seller page.afterCursor page.settledThrough (event :: page.events)
  | .poll _ cursor _ _ _ => ∀ through ∈ cursor, ∃ event ∈ store.log.events, through ≤ event.cursor
  | _ => True

def Activity.listingId : Activity → Option String
  | .register _ listingId _ _ => some listingId
  | .sync key _ => some key.2
  | _ => none

/-- The cursors the follower works with are those of events it has seen. -/
structure Reading (store : Storefront) : Prop where
  stored : ∀ seller cursor, store.eventCursor seller = some cursor →
    ∃ event ∈ store.log.events, cursor ≤ event.cursor
  pages : ∀ id pass, store.activities.find? id = some (.pass pass) → pass.job.paged store
  due : ∀ id pass, store.activities.find? id = some (.pass pass) →
    ∀ seller start, (seller, start) ∈ pass.job.due → ∀ cursor ∈ start,
      ∃ stored, store.eventCursor seller = some stored ∧ cursor ≤ stored
  valid : ∀ key row, store.rows.find? key = some row → isValidEntityId key.2 = true
  named : ∀ id activity listingId, store.activities.find? id = some activity →
    activity.listingId = some listingId → isValidEntityId listingId = true

theorem Job.paged_step {job : Job} (paged : job.paged store)
    (stepped : store.step config action = some after) : job.paged after := by
  cases job with
  | batch page due => exact Paged.step paged stepped
  | settling page listingId cursor settle due =>
      obtain ⟨event, same, named, rest⟩ := paged
      exact ⟨event, same, named, rest.step stepped⟩
  | poll seller cursor polledAt locked due =>
      intro through known
      obtain ⟨event, member, below⟩ := paged through known
      exact ⟨event, step_logged stepped member, below⟩
  | _ => trivial

theorem dueSellers_stored {now : Time} {seller : Pubky} {start : Option Cursor}
    (listed : (seller, start) ∈ store.dueSellers now) : start = store.eventCursor seller := by
  simp only [Storefront.dueSellers, List.mem_map, Prod.mk.injEq] at listed
  obtain ⟨_, -, rfl, rfl⟩ := listed
  rfl

inductive PageStep (store : Storefront) (pass : FollowerPass) (up : Bool) : Job → Prop
  | idle {job : Job} (unpaged : ∀ state, job.paged state) (unsettled : job.settledThrough = none)
      (waiting : ∀ seller start, (seller, start) ∈ job.due →
        (seller, start) ∈ pass.job.due ∨ start = store.eventCursor seller) :
      PageStep store pass up job
  | opened {seller : Pubky} {cursor : Option Cursor} {due : DueSellers}
      (was : pass.job = .following ((seller, cursor) :: due)) :
      PageStep store pass up (.batch
        { seller := seller
          afterCursor := cursor
          events := store.log.forward seller listingsPath cursor followPage
          settledThrough := none
          pageLength := (store.log.forward seller listingsPath cursor followPage).length } due)
  | polled {page : Batch} {polledAt : Time} {due : DueSellers}
      (was : pass.job = .batch page due ∨
        ∃ listingId cursor settle, pass.job = .settling page listingId cursor settle due) :
      PageStep store pass up (.poll page.seller page.settledThrough polledAt false due)
  | skipped {page : Batch} {event : HomeserverEvent} {later : List HomeserverEvent}
      {due : DueSellers} (was : pass.job = .batch page due) (first : page.events = event :: later)
      (needless : event.kind ≠ .del ∨ eventListingId event.path = none ∨
        ∃ other ∈ later, eventListingId other.path = eventListingId event.path) :
      PageStep store pass up (.batch
        { page with events := later, settledThrough := some event.cursor } due)
  | settling {page : Batch} {event : HomeserverEvent} {later : List HomeserverEvent}
      {listingId : String} {due : DueSellers} (was : pass.job = .batch page due)
      (first : page.events = event :: later) (named : eventListingId event.path = some listingId) :
      PageStep store pass up
        (.settling { page with events := later } listingId event.cursor .observe due)
  | further {page : Batch} {listingId : String} {cursor : Cursor} {settle next : SettlePhase}
      {due : DueSellers} (was : pass.job = .settling page listingId cursor settle due) :
      PageStep store pass up (.settling page listingId cursor next due)
  | settled {page : Batch} {listingId : String} {cursor : Cursor} {settle : SettlePhase}
      {outcome : SettleOutcome} {due : DueSellers}
      (was : pass.job = .settling page listingId cursor settle due)
      (ends : (store.settle pass (page.seller, listingId) up settle).2 = .settled outcome)
      (decided : outcome ≠ .unsettled) :
      PageStep store pass up (.batch { page with settledThrough := some cursor } due)
  | locked {seller : Pubky} {cursor : Option Cursor} {polledAt : Time} {due : DueSellers}
      (was : pass.job = .poll seller cursor polledAt false due) :
      PageStep store pass up (.poll seller cursor polledAt true due)
  | blank {seller : Pubky} {cursor : Option Cursor} {polledAt : Time} {due : DueSellers}
      (was : pass.job = .following ((seller, cursor) :: due)) :
      PageStep store pass up (.poll seller none polledAt false due)

/-- A job that follows no seller is idle. -/
theorem PageStep.alone {pass : FollowerPass} {up : Bool} {job : Job}
    (unpaged : ∀ state, job.paged state) (unsettled : job.settledThrough = none)
    (done : job.due = []) : PageStep store pass up job := by
  refine .idle unpaged unsettled ?_
  intro seller start listed
  rw [done] at listed
  cases listed

theorem answer_events {log : EventLog} {user : Pubky} {batch events : List HomeserverEvent}
    {up : Bool} (answered : log.answer user batch up = .events events) : events = batch := by
  unfold EventLog.answer at answered
  split at answered
  · split at answered
    · cases answered
      rfl
    · cases answered
  · cases answered

theorem batchJob_page {pass : FollowerPass} {page : Batch} {due : DueSellers} (up : Bool)
    (was : pass.job = .batch page due) :
    PageStep store pass up (batchJob pass store page due).job := by
  unfold batchJob
  split
  · exact .polled (.inl was)
  · rename_i event later first
    simp only
    split
    · rename_i listingId named deleted last
      split
      · exact .polled (.inl was)
      · exact .settling was first named
    · rename_i other
      refine .skipped was first ?_
      by_cases deleted : event.kind = .del
      · right
        cases named : eventListingId event.path with
        | none => exact .inl rfl
        | some listingId =>
            right
            by_contra last
            push Not at last
            refine other listingId named deleted ?_
            rw [Bool.eq_false_iff]
            intro superseded
            obtain ⟨later, member, same⟩ := List.any_eq_true.mp superseded
            exact last later member (named ▸ beq_iff_eq.mp same)
      · exact .inl deleted

theorem settlingJob_page {pass : FollowerPass} {page : Batch} {listingId : String}
    {cursor : Cursor} {settle : SettlePhase} {due : DueSellers} (up : Bool)
    (was : pass.job = .settling page listingId cursor settle due) :
    PageStep store pass up (settlingJob pass store page listingId cursor due
      (store.settle pass (page.seller, listingId) up settle).2) := by
  cases progress : (store.settle pass (page.seller, listingId) up settle).2 with
  | next phase => exact .further was
  | halt => exact .alone (fun _ => trivial) rfl rfl
  | settled outcome =>
      cases outcome with
      | tombstoned =>
          refine .settled was progress ?_
          intro never
          cases never
      | notDeleted observed =>
          refine .settled was progress ?_
          intro never
          cases never
      | unsettled => exact .polled (.inr ⟨listingId, cursor, settle, was⟩)

theorem revivalJob_page {pass : FollowerPass} {up : Bool} (key : RecordKey)
    (due : List RecordKey) (settling : SettleProgress) :
    PageStep store pass up (revivalJob key due settling) := by
  cases settling with
  | next phase => exact .alone (fun _ => trivial) rfl rfl
  | halt => exact .alone (fun _ => trivial) rfl rfl
  | settled outcome =>
      cases outcome with
      | tombstoned => exact .alone (fun _ => trivial) rfl rfl
      | unsettled => exact .alone (fun _ => trivial) rfl rfl
      | notDeleted observed => cases observed <;> exact .alone (fun _ => trivial) rfl rfl

theorem advancePass_page {pass next : FollowerPass} {up : Bool}
    (advanced : (store.advancePass pass up).2 = some next) : PageStep store pass up next.job := by
  unfold Storefront.advancePass at advanced
  split at advanced
  all_goals rename_i was
  · simp only at advanced
    split at advanced
    · cases advanced
      exact .alone (fun _ => trivial) rfl rfl
    · split at advanced <;> cases advanced <;> exact .alone (fun _ => trivial) rfl rfl
  · cases advanced
    exact .alone (fun _ => trivial) rfl rfl
  · split at advanced <;> cases advanced <;> exact .alone (fun _ => trivial) rfl rfl
  · cases advanced
    exact revivalJob_page _ _ _
  · cases advanced
    simp only
    split <;> exact .alone (fun _ => trivial) rfl rfl
  · split at advanced <;> cases advanced <;> exact .alone (fun _ => trivial) rfl rfl
  · cases advanced
    simp only
    split
    · refine .idle (fun _ => trivial) rfl ?_
      intro seller start listed
      exact .inr (dueSellers_stored listed)
    · exact .alone (fun _ => trivial) rfl rfl
  · cases advanced
    exact .alone (fun _ => trivial) rfl rfl
  · split at advanced
    · cases advanced
      exact .alone (fun _ => trivial) rfl rfl
    · split at advanced
      · rename_i events answered
        cases advanced
        rw [answer_events answered]
        exact .opened was
      · cases advanced
        exact .blank was
      · cases advanced
        exact .blank was
  · cases advanced
    exact batchJob_page up was
  · cases advanced
    exact settlingJob_page up was
  · cases advanced
    simp only
    split
    · exact .locked was
    · exact .alone (fun _ => trivial) rfl rfl
  · split at advanced
    · cases advanced
      refine .idle (fun _ => trivial) rfl ?_
      intro seller start listed
      rw [was]
      exact .inl listed
    · cases advanced
      exact .alone (fun _ => trivial) rfl rfl
  · cases advanced

theorem advancePass_due {pass next : FollowerPass} {up : Bool} {seller : Pubky}
    {start : Option Cursor} (advanced : (store.advancePass pass up).2 = some next)
    (listed : (seller, start) ∈ next.job.due) :
    (seller, start) ∈ pass.job.due ∨ start = store.eventCursor seller := by
  have pages := advancePass_page advanced
  generalize next.job = job at pages listed
  cases pages with
  | idle unpaged unsettled waiting => exact waiting seller start listed
  | opened was =>
      rw [was]
      exact .inl (List.mem_cons_of_mem _ listed)
  | polled was =>
      left
      rcases was with was | ⟨listingId, cursor, settle, was⟩ <;> rw [was] <;> exact listed
  | skipped was first needless =>
      rw [was]
      exact .inl listed
  | settling was first named =>
      rw [was]
      exact .inl listed
  | further was =>
      rw [was]
      exact .inl listed
  | settled was ends decided =>
      rw [was]
      exact .inl listed
  | locked was =>
      rw [was]
      exact .inl listed
  | blank was =>
      rw [was]
      exact .inl (List.mem_cons_of_mem _ listed)

theorem paged_behind {job : Job} {seller : Pubky} {through : Cursor} (paged : job.paged store)
    (settled : job.settledThrough = some (seller, through)) :
    ∃ event ∈ store.log.events, through ≤ event.cursor := by
  cases job with
  | batch page due =>
      obtain ⟨cursor, named, same⟩ := Option.map_eq_some_iff.mp settled
      cases same
      exact Paged.behind paged through named
  | settling page listingId cursor settle due =>
      obtain ⟨event, -, -, rest⟩ := paged
      obtain ⟨cursor, named, same⟩ := Option.map_eq_some_iff.mp settled
      cases same
      exact rest.behind through named
  | poll polled cursor polledAt locked due =>
      obtain ⟨named, here, same⟩ := Option.map_eq_some_iff.mp settled
      cases same
      exact paged through here
  | _ => cases settled

theorem Reading.page_next {id : ActivityId} {pass next : FollowerPass} {up : Bool}
    (reading : Reading store) (found : store.activities.find? id = some (.pass pass))
    (advanced : (store.advancePass pass up).2 = some next) : next.job.paged store := by
  have paged := reading.pages id pass found
  have pages := advancePass_page advanced
  generalize next.job = job at pages ⊢
  cases pages with
  | idle unpaged unsettled waiting => exact unpaged store
  | @opened seller cursor due was =>
      refine forward_paged seller cursor followPage ?_
      refine reading.due id pass found seller cursor ?_
      rw [was]
      exact List.mem_cons_self
  | polled was =>
      rcases was with was | ⟨listingId, cursor, settle, was⟩
      · rw [was] at paged
        exact paged.behind
      · rw [was] at paged
        obtain ⟨event, -, -, page⟩ := paged
        exact page.behind
  | skipped was first needless =>
      rw [was] at paged
      have page : Paged store _ _ _ _ := paged
      rw [first] at page
      exact page.settled
  | settling was first named =>
      rw [was] at paged
      have page : Paged store _ _ _ _ := paged
      rw [first] at page
      exact ⟨_, rfl, named, page⟩
  | further was =>
      rw [was] at paged
      exact paged
  | settled was ends decided =>
      rw [was] at paged
      obtain ⟨event, rfl, -, page⟩ := paged
      exact page.settled
  | locked was =>
      rw [was] at paged
      exact paged
  | blank was =>
      intro through never
      cases never

theorem recordWrite_named {activity : Activity} {key : RecordKey} {row : ListingRow}
    (written : store.recordWrite activity = some (key, row)) :
    activity.listingId = some key.2 := by
  unfold Storefront.recordWrite at written
  split at written
  · simp only at written
    split at written
    · obtain ⟨stored, -, same⟩ := Option.map_eq_some_iff.mp written
      cases same
      rfl
    · cases written
  · simp only at written
    split at written
    · obtain ⟨stored, -, same⟩ := Option.map_eq_some_iff.mp written
      cases same
      rfl
    · cases written
  · cases written

theorem advance_named {activity next : Activity} {up : Bool} {listingId : String}
    (advanced : store.advance up activity = some (after, next))
    (named : next.listingId = some listingId) : activity.listingId = some listingId := by
  cases activity with
  | register sender registered payload phase =>
      cases phase <;> cases advanced <;> first | cases named; rfl | cases named
  | sync synced phase =>
      simp only [Storefront.advance] at advanced
      cases phase with
      | fetch =>
          simp only at advanced
          split at advanced <;> cases advanced <;> first | exact named | cases named
      | apply record =>
          cases advanced
          cases named
      | observe =>
          simp only at advanced
          split at advanced <;> cases advanced <;> first | exact named | cases named
      | events observed =>
          simp only at advanced
          split at advanced <;> cases advanced <;> first | exact named | cases named
      | confirmed observed cursor =>
          simp only at advanced
          split at advanced <;> cases advanced <;> cases named
  | pass pass =>
      simp only [Storefront.advance, Option.some.injEq, Prod.mk.injEq] at advanced
      obtain ⟨-, rfl⟩ := advanced
      split at named <;> cases named
  | ended => cases advanced

theorem Reading.named_step (reading : Reading store)
    (stepped : store.step config action = some after) :
    ∀ id activity listingId, after.activities.find? id = some activity →
      activity.listingId = some listingId → isValidEntityId listingId = true := by
  intro id activity listingId listed named
  cases step_activity stepped listed with
  | kept found => exact reading.named id activity listingId found named
  | started begins =>
      cases begins with
      | register valid =>
          cases named
          exact valid
      | sync valid =>
          cases named
          exact valid
      | pass job => cases named
  | halted found stops => rcases stops with rfl | ⟨pass, -, rfl⟩ <;> cases named
  | @advanced up before middle found taken moved written =>
      exact reading.named id before listingId found (advance_named moved named)

theorem Reading.step (reading : Reading store)
    (stepped : store.step config action = some after) : Reading after := by
  constructor
  · intro seller cursor present
    suffices known : ∃ event ∈ store.log.events, cursor ≤ event.cursor by
      obtain ⟨event, member, below⟩ := known
      exact ⟨event, step_logged stepped member, below⟩
    rcases step_eventCursor stepped seller with
      same | ⟨id, pass, polled, polledAt, due, found, job, -, moved⟩
    · exact reading.stored seller cursor (same.symm.trans present)
    · have paged := reading.pages id pass found
      rw [job] at paged
      exact paged cursor (moved.symm.trans present)
  · intro id next listed
    suffices known : next.job.paged store from Job.paged_step known stepped
    cases step_pass stepped listed with
    | same found => exact reading.pages id next found
    | acquired job =>
        rw [job]
        trivial
    | releasing job =>
        rw [job]
        trivial
    | advanced found taken moved written => exact reading.page_next found moved
  · intro id next listed seller start due cursor named
    suffices known : ∃ stored, store.eventCursor seller = some stored ∧ cursor ≤ stored by
      obtain ⟨stored, present, below⟩ := known
      obtain ⟨later, moved, above⟩ := step_cursor_forward stepped present
      exact ⟨later, moved, below.trans above⟩
    cases step_pass stepped listed with
    | same found => exact reading.due id next found seller start due cursor named
    | acquired job =>
        rw [job] at due
        cases due
    | releasing job =>
        rw [job] at due
        cases due
    | @advanced pass up found taken moved written =>
        rcases advancePass_due moved due with before | stored
        · exact reading.due id pass found seller start before cursor named
        · exact ⟨cursor, stored ▸ named, le_rfl⟩
  · intro key row present
    have moves := step_rows stepped key
    rw [present] at moves
    generalize result : (some row : Option ListingRow) = written at moves
    cases moves with
    | kept => exact reading.valid key row result.symm
    | traded known untouched others => exact reading.valid key _ known
    | recorded taken found written =>
        exact reading.named _ _ key.2 found (recordWrite_named written)
    | buried taken found settles proof buries =>
        obtain ⟨old, known, -⟩ := buries.before
        exact reading.valid key old known
  · exact reading.named_step stepped

theorem initial_reading (init : (storefront config).initial store) : Reading store := by
  obtain ⟨rows, -, cursors, -, activities⟩ := init
  have none : ∀ id, store.activities.find? id = none := by
    intro id
    rw [activities]
    rfl
  constructor
  · intro seller cursor present
    rw [Storefront.eventCursor, cursors] at present
    cases present
  · intro id pass found
    rw [none] at found
    cases found
  · intro id pass found
    rw [none] at found
    cases found
  · intro key row present
    rw [rows] at present
    cases present
  · intro id activity listingId found
    rw [none] at found
    cases found

/-! The condition. -/

/-- The activity inserts a row for a record whose latest event is a delete that
the follower has passed. -/
def Storefront.insertsDeleted (store : Storefront) (activity : Activity) : Bool :=
  match store.recordWrite activity with
  | some (key, _) =>
      (store.rows.find? key).isNone &&
        (store.log.latestEvent key).any fun event =>
          event.kind == .del && store.passed key.1 event.cursor
  | none => false

def Storefront.missesDelete (store : Storefront) : Activity → Bool
  | .pass pass =>
      match pass.job.settle with
      | some (key, .events _) =>
          (store.log.latestEvent key).any fun event =>
            event.kind == .del &&
              !(store.log.backward key.1 (listingRecordPath key.2) confirmWindow).any fun other =>
                other.path == listingRecordPath key.2
      | _ => false
  | _ => false

def skipsNothing (store : Storefront) : StorefrontAction → Prop
  | .advance id _ =>
      ∀ activity ∈ store.activities.find? id,
        store.insertsDeleted activity = false ∧ store.missesDelete activity = false
  | _ => True

instance (store : Storefront) : DecidablePred (skipsNothing store)
  | .advance id _ =>
      inferInstanceAs (Decidable (∀ activity ∈ store.activities.find? id,
        store.insertsDeleted activity = false ∧ store.missesDelete activity = false))
  | .tick _ | .publish _ | .trade .. | .register .. | .sync .. | .acquire .. | .halt _ =>
      .isTrue trivial

/-! Settled listings. -/

/-- The row is missing or tombstoned, or it is a revival that no attempt of the
follower, recorded or about to be, has confirmed. -/
def Settled (store : Storefront) (key : RecordKey) : Prop :=
  ∀ row, store.rows.find? key = some row → row.isLive = false ∨
    revivalDue row (store.checks.find? key) = true ∧
      ∀ id pass generation locked due, store.activities.find? id = some (.pass pass) →
        pass.job = .attempt key (some generation) locked due →
        generation < row.listing.generation

theorem revivalDue_iff {row : ListingRow} {check : Option RevivalCheck} :
    revivalDue row check = true ↔ row.isLive = true ∧ row.revivedFromCursor.isSome = true ∧
      ∀ generation, check.bind RevivalCheck.checkedGeneration = some generation →
        generation < row.listing.generation := by
  unfold revivalDue
  cases check.bind RevivalCheck.checkedGeneration with
  | none => simp
  | some generation => simp [and_assoc]

theorem latestEventIsDelete_windowed {log : EventLog} {key : RecordKey} {event : HomeserverEvent}
    (latest : log.latestEvent key = some event) (deletes : event.kind = .del)
    (windowed : (log.backward key.1 (listingRecordPath key.2) confirmWindow).any
      (fun other => other.path == listingRecordPath key.2) = true) :
    latestEventIsDelete log key true = .deleted event.cursor := by
  have hosted : (log.events.any fun other => other.user == key.1) = true := by
    obtain ⟨member, user, -⟩ := EventLog.latestEvent_mem latest
    exact List.any_eq_true.mpr ⟨event, member, by simp [user]⟩
  obtain ⟨other, found⟩ : ∃ other,
      (log.backward key.1 (listingRecordPath key.2) confirmWindow).find?
        (fun other => other.path == listingRecordPath key.2) = some other := by
    rw [← Option.isSome_iff_exists, List.find?_isSome]
    simpa using windowed
  obtain rfl : other = event := Option.some.inj ((EventLog.backward_latest found).symm.trans latest)
  simp only [latestEventIsDelete, EventLog.answer, hosted, if_true, found]
  rw [show other = { other with kind := .del } by rw [← deletes]]

theorem settle_ends {id : ActivityId} {pass : FollowerPass} {key : RecordKey} {up : Bool}
    {settle : SettlePhase} {outcome : SettleOutcome} {event : HomeserverEvent}
    (chronicle : Chronicle store) (found : store.activities.find? id = some (.pass pass))
    (settles : pass.job.settle = some (key, settle))
    (windowed : store.missesDelete (.pass pass) = false)
    (ended : (store.settle pass key up settle).2 = .settled outcome)
    (decided : outcome ≠ .unsettled) (latest : store.log.latestEvent key = some event)
    (deletes : event.kind = .del) :
    ∀ row, (store.settle pass key up settle).1.rows.find? key = some row → row.isLive = false := by
  intro row present
  have phase : (Activity.pass pass).settle = some (key, settle) := settles
  cases settle with
  | observe =>
      simp only [Storefront.settle] at ended present
      split at ended
      · rename_i early
        rw [if_pos early] at present
        split at ended
        · cases ended
        · rename_i unread
          rw [unread] at present
          change store.rows.find? key = some row at present
          rw [present] at unread
          simpa [observeLive] using unread
      · cases ended
  | fetch observed =>
      simp only [Storefront.settle] at ended
      split at ended
      · cases ended
      · rename_i record fetched
        obtain ⟨newest, same, puts⟩ := EventLog.fetchListing_found fetched
        obtain rfl : newest = event := Option.some.inj (same.symm.trans latest)
        rw [deletes] at puts
        cases puts
      · cases ended
        exact absurd rfl decided
  | events observed =>
      simp only [Storefront.missesDelete, settles, latest, Option.any_some, deletes, BEq.rfl,
        Bool.true_and, Bool.not_eq_false'] at windowed
      simp only [Storefront.settle] at ended
      split at ended
      · cases ended
      · rename_i undeleted
        cases up with
        | true =>
            rw [latestEventIsDelete_windowed latest deletes windowed] at undeleted
            cases undeleted
        | false =>
            simp [latestEventIsDelete, EventLog.answer] at undeleted
      · cases ended
        exact absurd rfl decided
  | confirmed observed cursor =>
      simp only [Storefront.settle] at ended
      split at ended <;> cases ended
  | locked observed cursor =>
      obtain ⟨known, kept, -, -, seen⟩ :=
        chronicle.known id (.pass pass) key _ observed (some cursor) found phase rfl
      by_cases early : store.now < pass.leaseDeadline
      · simp only [Storefront.settle, if_pos early] at ended present
        cases result : tombstoneRow pass.authority store.lease (store.rows.find? key) cursor
            observed.recordEpoch store.now with
        | raised =>
            rw [result] at ended
            cases ended
        | written buried =>
            rw [result] at present
            simp only [Storefront.setRow, Keyed.Table.find?_set_self, Option.some.injEq] at present
            subst present
            exact (tombstoneRow_written result).dead
        | unmatched =>
            rw [result] at ended present
            simp only at ended present
            split at ended
            · rename_i live read
              obtain ⟨again, reread, alive, -, epoch⟩ := observeLive_some read
              obtain rfl : again = known := Option.some.inj (reread.symm.trans kept)
              split at ended
              · cases ended
                exact absurd rfl decided
              · rename_i same
                -- a live row at the observed epoch is fenced by its marker only
                have equal : again.recordEpoch = observed.recordEpoch := by
                  rw [← epoch]
                  simpa using same
                have ahead : markerBehind (some cursor) again.revivedFromCursor = false := by
                  cases marked : again.revivedFromCursor with
                  | none => rfl
                  | some marker =>
                      have below := (seen cursor rfl).2 equal marker marked
                      simpa [markerBehind] using below
                rw [kept, tombstoneRow, tombstoneFence, alive, equal, ahead] at result
                simp only [BEq.rfl, Bool.not_false, Bool.and_true, if_true] at result
                split at result <;> cases result
            · rename_i unread
              rw [unread] at present
              change store.rows.find? key = some row at present
              rw [present] at unread
              simpa [observeLive] using unread
      · simp only [Storefront.settle, if_neg early] at ended
        cases ended

theorem step_checked {key : RecordKey} {generation : ℕ}
    (stepped : store.step config action = some after)
    (checked : (after.checks.find? key).bind RevivalCheck.checkedGeneration = some generation) :
    (store.checks.find? key).bind RevivalCheck.checkedGeneration = some generation ∨
      ∃ id pass due, store.activities.find? id = some (.pass pass) ∧
        pass.job = .attempt key (some generation) true due := by
  rcases step_checks stepped with same | ⟨id, pass, attempted, confirmed, due, found, job, written⟩
  · exact .inl (same ▸ checked)
  · rw [written] at checked
    obtain ⟨check, listed, counted⟩ := Option.bind_eq_some_iff.mp checked
    rcases recordRevivalAttempt_checked listed counted with
      ⟨earlier, present, same⟩ | ⟨rfl, rfl⟩
    · exact .inl (Option.bind_eq_some_iff.mpr ⟨earlier, present, same⟩)
    · exact .inr ⟨id, pass, due, found, job⟩

theorem step_attempt {id : ActivityId} {next : FollowerPass} {key : RecordKey} {generation : ℕ}
    {locked : Bool} {due : List RecordKey} (stepped : store.step config action = some after)
    (listed : after.activities.find? id = some (.pass next))
    (job : next.job = .attempt key (some generation) locked due) :
    (∃ pass before, store.activities.find? id = some (.pass pass) ∧
      pass.job = .attempt key (some generation) before due) ∨
    ∃ pass up settle live seen, store.activities.find? id = some (.pass pass) ∧
      action = .advance id up ∧ pass.job = .revival key settle due ∧
      settle.proof = some (live, seen) ∧ live.generation = generation ∧
      (store.settle pass key up settle).2 = .settled (.notDeleted (some generation)) ∧
      after.rows = (store.settle pass key up settle).1.rows := by
  cases step_pass stepped listed with
  | same found => exact .inl ⟨next, locked, found, job⟩
  | acquired begun =>
      rw [begun] at job
      cases job
  | releasing ends =>
      rw [ends] at job
      cases job
  | @advanced pass up found taken moved written =>
      rcases advancePass_attempt moved job with
        ⟨before, attempted⟩ | ⟨settle, live, seen, revival, phase, same, ended⟩
      · exact .inl ⟨pass, before, found, attempted⟩
      · refine .inr ⟨pass, up, settle, live, seen, found, taken, revival, phase, same, ended, ?_⟩
        rw [written]
        simp only [Storefront.setActivity, Storefront.advancePass, revival]

theorem step_live {key : RecordKey} {row : ListingRow} {event : HomeserverEvent}
    (stepped : store.step config action = some after) (allowed : skipsNothing store action)
    (latest : store.log.latestEvent key = some event) (deletes : event.kind = .del)
    (passed : store.passed key.1 event.cursor = true)
    (present : after.rows.find? key = some row) (alive : row.isLive = true) :
    ∃ old, store.rows.find? key = some old ∧
      (old.isLive = true ∧ row.listing.generation = old.listing.generation ∧
          row.revivedFromCursor = old.revivedFromCursor ∨
        old.isLive = false ∧ row.listing.generation = old.listing.generation + 1 ∧
          row.revivedFromCursor.isSome = true) := by
  have moves := step_rows stepped key
  rw [present] at moves
  generalize result : (some row : Option ListingRow) = written at moves
  cases moves with
  | kept => exact ⟨row, result.symm, .inl ⟨alive, rfl, rfl⟩⟩
  | @traded old _ same untouched others =>
      cases result
      simp only [Listing.keepsRecord, Bool.and_eq_true, beq_iff_eq] at untouched
      refine ⟨old, same, .inl ⟨?_, untouched.1.1.2, others.2.2⟩⟩
      rw [ListingRow.isLive, ← untouched.1.2]
      exact alive
  | @recorded id up activity _ taken found written =>
      cases result
      subst taken
      have recorded := recordWrite_step written
      cases current : store.rows.find? key with
      | none =>
          -- the condition excludes the insertion
          have kept := (allowed activity found).1
          simp [Storefront.insertsDeleted, written, current, latest, deletes, passed] at kept
      | some old =>
          refine ⟨old, rfl, ?_⟩
          cases lives : old.isLive with
          | true =>
              obtain ⟨generation, marker⟩ := recorded.kept old current lives
              exact .inl ⟨rfl, generation, marker⟩
          | false =>
              obtain ⟨generation, marker, marked, -⟩ := recorded.revived old current lives
              exact .inr ⟨rfl, generation, marked ▸ rfl⟩
  | buried taken found settles proof buries =>
      cases result
      cases buries.dead.symm.trans alive

theorem Settled.step {key : RecordKey} {event : HomeserverEvent} (settled : Settled store key)
    (chronicle : Chronicle store) (stepped : store.step config action = some after)
    (allowed : skipsNothing store action)
    (latest : store.log.latestEvent key = some event) (deletes : event.kind = .del)
    (passed : store.passed key.1 event.cursor = true) : Settled after key := by
  intro row present
  cases alive : row.isLive with
  | false => exact .inl rfl
  | true =>
      obtain ⟨old, kept, same | revived⟩ :=
        step_live stepped allowed latest deletes passed present alive
      · -- the row stayed live, so it was due already
        obtain ⟨lives, generation, marker⟩ := same
        rcases settled old kept with dead | ⟨due, attempts⟩
        · cases dead.symm.trans lives
        obtain ⟨-, marked, unchecked⟩ := revivalDue_iff.mp due
        refine .inr ⟨revivalDue_iff.mpr ⟨alive, marker ▸ marked, ?_⟩, ?_⟩
        · intro checked counted
          rw [generation]
          rcases step_checked stepped counted with before | ⟨id, pass, rest, found, job⟩
          · exact unchecked checked before
          · exact attempts id pass checked true rest found job
        · intro id next named locked rest listed job
          rw [generation]
          rcases step_attempt stepped listed job with
            ⟨pass, before, found, attempted⟩ |
              ⟨pass, up, settle, live, seen, found, taken, revival, phase, equal, ended, rows⟩
          · exact attempts id pass named before rest found attempted
          · subst taken
            rw [rows] at present
            have dead := settle_ends chronicle found (by rw [revival]; rfl)
              (allowed _ found).2 ended (by intro never; cases never) latest deletes row present
            cases dead.symm.trans alive
      · obtain ⟨dead, generation, marked⟩ := revived
        refine .inr ⟨revivalDue_iff.mpr ⟨alive, marked, ?_⟩, ?_⟩
        · intro checked counted
          rw [generation]
          suffices below : checked ≤ old.listing.generation from Nat.lt_succ_of_le below
          rcases step_checked stepped counted with before | ⟨id, pass, rest, found, job⟩
          · obtain ⟨check, listed, same⟩ := Option.bind_eq_some_iff.mp before
            obtain ⟨known, here, below⟩ := chronicle.checked key check checked listed same
            obtain rfl : known = old := Option.some.inj (here.symm.trans kept)
            exact below
          · obtain ⟨known, here, below⟩ :=
              chronicle.attempts id pass key checked true rest found job
            obtain rfl : known = old := Option.some.inj (here.symm.trans kept)
            exact below
        · intro id next named locked rest listed job
          rw [generation]
          suffices below : named ≤ old.listing.generation from Nat.lt_succ_of_le below
          rcases step_attempt stepped listed job with
            ⟨pass, before, found, attempted⟩ |
              ⟨pass, up, settle, live, seen, found, taken, revival, phase, equal, ended, rows⟩
          · obtain ⟨known, here, below⟩ :=
              chronicle.attempts id pass key named before rest found attempted
            obtain rfl : known = old := Option.some.inj (here.symm.trans kept)
            exact below
          · obtain ⟨known, here, -, below, -⟩ :=
              chronicle.known id (.pass pass) key settle live seen found
                (by rw [Activity.settle, revival]; rfl) phase
            obtain rfl : known = old := Option.some.inj (here.symm.trans kept)
            exact equal ▸ below

/-! Passing an event. -/

theorem step_passed {seller : Pubky} {cursor : Cursor}
    (stepped : store.step config action = some after)
    (passed : after.passed seller cursor = true) :
    store.passed seller cursor = true ∨
      ∃ id pass next up through, store.activities.find? id = some (.pass pass) ∧
        action = .advance id up ∧ (store.advancePass pass up).2 = some next ∧
        after = (store.advancePass pass up).1.setActivity id (.pass next) ∧
        next.job.settledThrough = some (seller, through) ∧ cursor ≤ through := by
  rcases passed_cases passed with
    ⟨stored, present, below⟩ | ⟨id, next, through, listed, settled, below⟩
  · rcases step_eventCursor stepped seller with
      same | ⟨id, pass, polled, polledAt, due, found, job, -, moved⟩
    · exact .inl (passed_of_stored (same.symm.trans present) below)
    · left
      refine passed_of_pass found ?_ below
      rw [job, Job.settledThrough, moved.symm.trans present]
      rfl
  · cases step_pass stepped listed with
    | same found => exact .inl (passed_of_pass found settled below)
    | acquired job =>
        rw [job] at settled
        cases settled
    | releasing job =>
        rw [job] at settled
        cases settled
    | advanced found taken moved written =>
        exact .inr ⟨id, _, next, _, through, found, taken, moved, written, settled, below⟩

theorem newly_settled {key : RecordKey} {event : HomeserverEvent} {id : ActivityId}
    {pass next : FollowerPass} {up : Bool} {through : Cursor} (chronicle : Chronicle store)
    (reading : Reading store) (found : store.activities.find? id = some (.pass pass))
    (windowed : store.missesDelete (.pass pass) = false)
    (moved : (store.advancePass pass up).2 = some next)
    (settled : next.job.settledThrough = some (key.1, through)) (below : event.cursor ≤ through)
    (latest : store.log.latestEvent key = some event) (deletes : event.kind = .del) :
    store.passed key.1 event.cursor = true ∨
      ∀ row, (store.advancePass pass up).1.rows.find? key = some row → row.isLive = false := by
  have paged := reading.pages id pass found
  obtain ⟨member, writer, path⟩ := EventLog.latestEvent_mem latest
  -- what was settled before, or read before the page, was passed before
  have before : ∀ page : Batch, page.seller = key.1 →
      pass.job.settledThrough = page.settledThrough.map (fun cursor => (page.seller, cursor)) →
      (∀ cursor ∈ page.afterCursor, ∃ stored, store.eventCursor page.seller = some stored ∧
        cursor ≤ stored) →
      ((∃ cursor ∈ page.afterCursor, event.cursor ≤ cursor) ∨
        ∃ cursor ∈ page.settledThrough, event.cursor ≤ cursor) →
      store.passed key.1 event.cursor = true := by
    intro page seller same begun reached
    rcases reached with ⟨cursor, started, above⟩ | ⟨cursor, done, above⟩
    · obtain ⟨stored, present, beyond⟩ := begun cursor started
      exact passed_of_stored (seller ▸ present) (above.trans beyond)
    · refine passed_of_pass found ?_ above
      rw [same, show page.settledThrough = some cursor from done, ← seller]
      rfl
  have pages := advancePass_page moved
  generalize next.job = job at pages settled
  cases pages with
  | idle unpaged unsettled waiting =>
      rw [unsettled] at settled
      cases settled
  | opened was => cases settled
  | @polled page polledAt due was =>
      left
      refine passed_of_pass found ?_ below
      rcases was with was | ⟨listingId, cursor, settle, was⟩ <;> rw [was] <;> exact settled
  | @skipped page first later due was split needless =>
      rw [was] at paged before
      have rest : Paged store _ _ _ _ := paged
      rw [split] at rest
      have same : page.seller = key.1 ∧ first.cursor = through := by
        simpa [Job.settledThrough] using settled
      obtain ⟨seller, rfl⟩ := same
      rcases rest.reached seller.symm latest below with started | done | equal
      · exact .inl (before page seller rfl rest.begun (.inl started))
      · exact .inl (before page seller rfl rest.begun (.inr done))
      · right
        intro row present
        have unchanged : (store.advancePass pass up).1 = store := by
          simp only [Storefront.advancePass, was]
        rw [unchanged] at present
        have named := eventListingId_record (reading.valid key row present)
        rw [← path] at named
        rw [← equal] at needless
        rcases needless with other | unnamed | ⟨other, inside, again⟩
        · exact absurd deletes other
        · rw [named] at unnamed
          cases unnamed
        · -- a later event of the record in the page contradicts the latest
          rw [named] at again
          obtain ⟨listed, user⟩ := rest.logged other (List.mem_cons_of_mem _ inside)
          have newest := EventLog.latestEvent_latest latest listed (user.trans seller)
            (eventListingId_some again)
          have beyond := (List.pairwise_cons.mp rest.ordered).1 other inside
          exact absurd (equal ▸ beyond) (not_lt.mpr newest)
  | @settling page first later listingId due was split named =>
      left
      refine passed_of_pass found ?_ below
      rw [was]
      exact settled
  | further was =>
      left
      refine passed_of_pass found ?_ below
      rw [was]
      exact settled
  | @settled page listingId cursor settle outcome due was ends decided =>
      rw [was] at paged before
      obtain ⟨first, rfl, named, rest⟩ := paged
      have same : page.seller = key.1 ∧ first.cursor = through := by
        simpa [Job.settledThrough] using settled
      obtain ⟨seller, rfl⟩ := same
      rcases rest.reached seller.symm latest below with started | done | equal
      · exact .inl (before page seller rfl rest.begun (.inl started))
      · exact .inl (before page seller rfl rest.begun (.inr done))
      · right
        rw [← equal, path] at named
        obtain rfl := listingRecordPath_injective (eventListingId_some named)
        have written : (store.advancePass pass up).1 =
            (store.settle pass (page.seller, key.2) up settle).1 := by
          simp only [Storefront.advancePass, was]
        rw [written, seller]
        rw [seller] at ends
        refine settle_ends chronicle found ?_ windowed ends decided latest deletes
        rw [was, Job.settle, seller]
  | locked was =>
      left
      refine passed_of_pass found ?_ below
      rw [was]
      exact settled
  | blank was => cases settled

/-! The law. -/

/-- A delete that is a record's latest event and that the follower has passed
is settled. -/
def SettlesPassed (store : Storefront) : Prop :=
  ∀ key event, store.log.latestEvent key = some event → event.kind = .del →
    store.passed key.1 event.cursor = true → Settled store key

theorem SettlesPassed.step (follows : SettlesPassed store) (chronicle : Chronicle store)
    (reading : Reading store) (stepped : store.step config action = some after)
    (allowed : skipsNothing store action) : SettlesPassed after := by
  intro key event latest deletes passed
  -- an event written in this step is newer than all that is passed
  have known : store.log.latestEvent key = some event := by
    rcases step_log stepped with same | ⟨written, write⟩
    · exact same ▸ latest
    · rw [EventLog.write_latest write] at latest
      split at latest
      · cases latest
        have newest := (EventLog.write_events write).2
        exfalso
        have reached : ∃ older ∈ store.log.events, event.cursor ≤ older.cursor := by
          rcases step_passed stepped passed with
            before | ⟨id, pass, next, up, through, found, -, moved, -, settled, below⟩
          · rcases passed_cases before with
              ⟨stored, present, below⟩ | ⟨id, pass, through, found, settled, below⟩
            · obtain ⟨older, member, above⟩ := reading.stored key.1 stored present
              exact ⟨older, member, below.trans above⟩
            · obtain ⟨older, member, above⟩ :=
                paged_behind (reading.pages id pass found) settled
              exact ⟨older, member, below.trans above⟩
          · obtain ⟨older, member, above⟩ := paged_behind (reading.page_next found moved) settled
            exact ⟨older, member, below.trans above⟩
        obtain ⟨older, member, above⟩ := reached
        exact absurd (newest older member) (not_lt.mpr above)
      · exact latest
  rcases step_passed stepped passed with
    before | ⟨id, pass, next, up, through, found, rfl, moved, written, settled, below⟩
  · exact (follows key event known deletes before).step chronicle stepped allowed known deletes
      before
  · rcases newly_settled chronicle reading found (allowed _ found).2 moved settled below known
      deletes with before | dead
    · exact (follows key event known deletes before).step chronicle stepped allowed known deletes
        before
    · intro row present
      rw [written] at present
      exact .inl (dead row present)

theorem follower_skips_nothing (config : FollowerConfig) (store : Storefront)
    (reached : Runs.Reachable (storefront config) skipsNothing store) :
    ∀ key event stored row, store.log.latestEvent key = some event → event.kind = .del →
      store.eventCursor key.1 = some stored → event.cursor ≤ stored →
      store.rows.find? key = some row →
      row.isLive = false ∨ revivalDue row (store.checks.find? key) = true := by
  have invariant : Chronicle store ∧ Reading store ∧ SettlesPassed store := by
    refine Runs.invariant (storefront config) skipsNothing
      (fun store => Chronicle store ∧ Reading store ∧ SettlesPassed store) ?_ ?_ reached
    · intro start init
      refine ⟨initial_chronicle init, initial_reading init, ?_⟩
      intro key event latest deletes passed row present
      rw [init.1] at present
      cases present
    · intro before action after known allowed stepped
      obtain ⟨chronicle, reading, follows⟩ := known
      exact ⟨chronicle.step stepped, reading.step stepped,
        follows.step chronicle reading stepped allowed⟩
  intro key event stored row latest deletes present below kept
  rcases invariant.2.2 key event latest deletes (passed_of_stored present below) row kept with
    dead | ⟨due, -⟩
  · exact .inl dead
  · exact .inr due

theorem followed_lamp_is_settled :
    ∃ store row, Runs.Reachable (storefront lampFollower) skipsNothing store ∧
      store.eventCursor "alice" = some 2 ∧ store.rows.find? ("alice", "lamp") = some row ∧
      (row.isLive = false ∨
        revivalDue row (store.checks.find? ("alice", "lamp")) = true) := by
  obtain ⟨store, reached, stored, event, latest, deletes, cursor, row, present, -⟩ :=
    @Runs.exists_reachable_of_run _ _ (storefront lampFollower) skipsNothing closedStorefront
      ⟨rfl, rfl, rfl, rfl, rfl⟩ (deletedLamp ++ List.replicate 4 (.advance 2 true))
      (fun store => store.eventCursor "alice" = some 2 ∧
        ∃ event ∈ store.log.latestEvent ("alice", "lamp"), event.kind = .del ∧
          event.cursor = 2 ∧ ∃ row ∈ store.rows.find? ("alice", "lamp"), True)
      (by decide +kernel) (by decide +kernel)
  exact ⟨store, row, reached, stored, present,
    follower_skips_nothing lampFollower store reached ("alice", "lamp") event 2 row latest deletes
      stored cursor.le present⟩

/-- A sync of the lamp reads its record, the seller deletes it, the follower
passes the delete of a listing it does not know, and the sync commits. -/
def skippedLamp : List StorefrontAction :=
  [.publish { lampPut 1 with path := listingRecordPath "vase" }, .sync 1 ("alice", "vase"),
    .advance 1 true, .advance 1 true, .publish (lampPut 2), .sync 3 ("alice", "lamp"),
    .advance 3 true, .publish (lampDel 3), .acquire 2 9 0 0] ++
    List.replicate 11 (.advance 2 true) ++ [.advance 3 true]

theorem late_lamp_is_skipped :
    ∃ store, Runs.Reachable (storefront lampFollower) Runs.anyStep store ∧
      ∃ event ∈ store.log.latestEvent ("alice", "lamp"), event.kind = .del ∧
        ∃ stored ∈ store.eventCursor "alice", event.cursor ≤ stored ∧
          ∃ row ∈ store.rows.find? ("alice", "lamp"),
            ¬ (row.isLive = false ∨
              revivalDue row (store.checks.find? ("alice", "lamp")) = true) :=
  @Runs.exists_reachable_of_run _ _ (storefront lampFollower) Runs.anyStep closedStorefront
    ⟨rfl, rfl, rfl, rfl, rfl⟩ skippedLamp _ (Runs.meets_anyStep _ _ _) (by decide +kernel)

end MarketplaceService
