import MarketplaceService.ResolveDelivery

/-!
A finished resolve delivery stays finished. The CHECKs on the table already
refuse to turn a delivered row into a terminated one or the reverse, whatever
the writer knew. What they do not refuse is a second termination: a worker
whose call was in flight writes its own reason over the one the operator or
another worker recorded. The law holds in the runs without such a write.
-/

namespace MarketplaceService

variable {config : ResolveConfig} {outbox after : ResolveOutbox} {rows later : ResolveTable}

def ResolveColumns.Keeps (before after : ResolveColumns) : Prop :=
  before.deliveryState ≠ .queued →
    after.deliveryState = before.deliveryState ∧ after.terminalReason = before.terminalReason

theorem ResolveColumns.Keeps.of_same {before after : ResolveColumns}
    (state : after.deliveryState = before.deliveryState)
    (reason : after.terminalReason = before.terminalReason) : before.Keeps after :=
  fun _ => ⟨state, reason⟩

theorem ResolveColumns.Keeps.trans {first second third : ResolveColumns}
    (left : first.Keeps second) (right : second.Keeps third) : first.Keeps third := by
  intro finished
  obtain ⟨state, reason⟩ := left finished
  obtain ⟨nextState, nextReason⟩ := right (by rw [state]; exact finished)
  exact ⟨nextState.trans state, nextReason.trans reason⟩

def KeepsFinished (before after : ResolveTable) : Prop :=
  ∀ id row, before.find? id = some row →
    ∃ next, after.find? id = some next ∧ row.1.Keeps next.1

theorem KeepsFinished.refl (rows : ResolveTable) : KeepsFinished rows rows :=
  fun _ row found => ⟨row, found, .of_same rfl rfl⟩

theorem KeepsFinished.trans {first second third : ResolveTable}
    (left : KeepsFinished first second) (right : KeepsFinished second third) :
    KeepsFinished first third := by
  intro id row found
  obtain ⟨middle, present, kept⟩ := left id row found
  obtain ⟨next, last, keeps⟩ := right id middle present
  exact ⟨next, last, kept.trans keeps⟩

theorem KeepsFinished.set {id : ResolveRowId} {row next : ResolveRow}
    (found : rows.find? id = some row) (keeps : row.1.Keeps next.1) :
    KeepsFinished rows (rows.set id next) := by
  intro key stored present
  by_cases same : key = id
  · subst same
    rw [found] at present
    cases present
    exact ⟨next, rows.find?_set_self key next, keeps⟩
  · exact ⟨stored, by rw [rows.find?_set_ne next same]; exact present, .of_same rfl rfl⟩

theorem KeepsFinished.fresh {id : ResolveRowId} {next : ResolveRow}
    (free : rows.find? id = none) : KeepsFinished rows (rows.set id next) := by
  intro key stored present
  have other : key ≠ id := by
    rintro rfl
    rw [free] at present
    cases present
  exact ⟨stored, by rw [rows.find?_set_ne next other]; exact present, .of_same rfl rfl⟩

theorem updateResolveRow_keeps {id : ResolveRowId} {change : ResolveColumns → ResolveColumns}
    (updated : updateResolveRow rows id change = some later)
    (keeps : ∀ row, rows.find? id = some row → (change row.1).checks = true →
      row.1.Keeps (change row.1)) : KeepsFinished rows later := by
  unfold updateResolveRow at updated
  cases found : rows.find? id with
  | none =>
      simp only [found, Option.some.injEq] at updated
      exact updated ▸ .refl rows
  | some row =>
      simp only [found] at updated
      split at updated
      · rename_i valid
        cases updated
        exact .set found (keeps row found valid)
      · cases updated

theorem leaseResolveRows_keeps (rows : ResolveTable) (leaseUntil : Time)
    (ids : List ResolveRowId) : KeepsFinished rows (leaseResolveRows rows leaseUntil ids) := by
  intro id row found
  refine ⟨_, by rw [leaseResolveRows, rows.find?_mapRows, found, Option.map_some], ?_⟩
  split <;> exact .of_same rfl rfl

/-! The CHECKs on a finished row. -/

theorem ResolveRow.delivered_at (row : ResolveRow) :
    (row.1.deliveryState = .delivered) ↔ row.1.deliveredAt.isSome = true := by
  have checks := row.2
  simp only [ResolveColumns.checks, Bool.and_eq_true, beq_iff_eq] at checks
  rw [← checks.1.1, beq_iff_eq]

theorem ResolveRow.terminal_reason (row : ResolveRow) :
    (row.1.deliveryState = .terminalUnresolved) ↔ row.1.terminalReason.isSome = true := by
  have checks := row.2
  simp only [ResolveColumns.checks, Bool.and_eq_true, beq_iff_eq] at checks
  rw [← checks.1.2, beq_iff_eq]

theorem stampDelivered_keeps {row : ResolveRow} {id : ResolveRowId} {now : Time}
    (valid : ((ResolveStatement.stampDelivered id now).change row.1).checks = true) :
    row.1.Keeps ((ResolveStatement.stampDelivered id now).change row.1) := by
  intro finished
  cases state : row.1.deliveryState with
  | queued => exact absurd state finished
  | delivered => exact ⟨rfl, rfl⟩
  | terminalUnresolved =>
      -- The reason of the termination stays, and the CHECK refuses it on a delivered row.
      have reason := row.terminal_reason.mp state
      have stamped := (ResolveRow.terminal_reason ⟨_, valid⟩).mpr reason
      cases stamped

theorem stampTerminal_keeps {row : ResolveRow} {id : ResolveRowId} {reason : TerminalReason}
    {detail : Option String} {now : Time}
    (valid : ((ResolveStatement.stampTerminal id reason detail now).change row.1).checks = true)
    (once : row.1.deliveryState = .terminalUnresolved → row.1.terminalReason = some reason) :
    row.1.Keeps ((ResolveStatement.stampTerminal id reason detail now).change row.1) := by
  intro finished
  cases state : row.1.deliveryState with
  | queued => exact absurd state finished
  | delivered =>
      have delivered := row.delivered_at.mp state
      have stamped := (ResolveRow.delivered_at ⟨_, valid⟩).mpr delivered
      cases stamped
  | terminalUnresolved => exact ⟨rfl, (once state).symm⟩

/-! The condition. -/

def ResolveAttempt.terminates : ResolveAttempt → Option (ResolveRowId × TerminalReason)
  | .writing (.stampTerminal id reason _ _ :: _) => some (id, reason)
  | _ => none

def terminatesOnce (outbox : ResolveOutbox) : ResolveAction → Prop
  | .write worker _ =>
      ∀ pass ∈ outbox.pass worker, ∀ target ∈ pass.attempt.terminates,
        ∀ row ∈ outbox.rows.find? target.1, row.1.deliveryState = .terminalUnresolved →
          row.1.terminalReason = some target.2
  | _ => True

instance (outbox : ResolveOutbox) : DecidablePred (terminatesOnce outbox)
  | .write worker _ =>
      inferInstanceAs (Decidable (∀ pass ∈ outbox.pass worker,
        ∀ target ∈ pass.attempt.terminates, ∀ row ∈ outbox.rows.find? target.1,
          row.1.deliveryState = .terminalUnresolved → row.1.terminalReason = some target.2))
  | .enqueue .. | .claim .. | .begin _ | .identity .. | .response .. | .stop _ | .terminate ..
  | .acknowledge .. => .isTrue trivial

theorem statement_keeps {statement : ResolveStatement} {row : ResolveRow}
    (valid : (statement.change row.1).checks = true)
    (once : ∀ id reason detail now, statement = .stampTerminal id reason detail now →
      row.1.deliveryState = .terminalUnresolved → row.1.terminalReason = some reason) :
    row.1.Keeps (statement.change row.1) := by
  cases statement with
  | stampDelivered id now => exact stampDelivered_keeps valid
  | stampTerminal id reason detail now => exact stampTerminal_keeps valid (once _ _ _ _ rfl)
  | scheduleRetry id now next => exact .of_same rfl rfl
  | alertAuth id => exact .of_same rfl rfl

theorem write_keeps {worker : ResolveWorkerId} {pass : ResolvePass} {up : Bool}
    {statements : List ResolveStatement} (running : outbox.pass worker = some pass)
    (attempt : pass.attempt = .writing statements)
    (allowed : terminatesOnce outbox (.write worker up)) :
    KeepsFinished outbox.rows (outbox.write worker pass up statements).rows := by
  cases statements with
  | nil => exact .refl _
  | cons statement rest =>
      cases updated : updateResolveRow outbox.rows statement.target statement.change with
      | none =>
          simp only [ResolveOutbox.write, updated]
          exact .refl _
      | some rows =>
          simp only [ResolveOutbox.write, updated]
          cases up with
          | false => exact .refl _
          | true =>
              apply updateResolveRow_keeps updated
              intro row found valid
              apply statement_keeps valid
              intro id reason detail now stamps terminal
              subst stamps
              exact allowed pass running (id, reason) (by rw [attempt]; rfl) row found terminal

theorem resolve_step_keeps {action : ResolveAction}
    (stepped : outbox.step config action = some after)
    (allowed : terminatesOnce outbox action) : KeepsFinished outbox.rows after.rows := by
  cases action with
  | enqueue id orderId invoiceId resolution stackId stackEndpoint now =>
      simp only [ResolveOutbox.step] at stepped
      split at stepped
      · rename_i free
        cases stepped
        exact .fresh (Option.isNone_iff_eq_none.mp free.1)
      · cases stepped
  | claim worker process now locked =>
      simp only [ResolveOutbox.step] at stepped
      split at stepped
      · cases stepped
        exact leaseResolveRows_keeps _ _ _
      · cases stepped
  | begin worker =>
      obtain ⟨pass, -, begun⟩ := Option.bind_eq_some_iff.mp stepped
      obtain ⟨next, -, moved⟩ := Option.bind_eq_some_iff.mp begun
      cases moved
      exact .refl _
  | identity worker reported =>
      obtain ⟨pass, -, moved⟩ := Option.bind_eq_some_iff.mp stepped
      split at moved
      · cases moved
        cases reported <;> exact .refl _
      · cases moved
  | response worker answer =>
      obtain ⟨pass, -, moved⟩ := Option.bind_eq_some_iff.mp stepped
      split at moved
      · cases moved
        cases answer <;> exact .refl _
      · cases moved
  | write worker up =>
      obtain ⟨pass, running, moved⟩ := Option.bind_eq_some_iff.mp stepped
      split at moved
      · rename_i statements attempt
        cases moved
        exact write_keeps running attempt allowed
      · cases moved
  | stop worker =>
      cases stepped
      exact .refl _
  | terminate id operator reasonText now =>
      obtain ⟨rows, updated, moved⟩ := Option.map_eq_some_iff.mp stepped
      cases moved
      refine updateResolveRow_keeps updated fun row _ _ finished => ?_
      rw [if_neg finished]
      exact ⟨rfl, rfl⟩
  | acknowledge id operator note now =>
      obtain ⟨rows, updated, moved⟩ := Option.map_eq_some_iff.mp stepped
      cases moved
      refine updateResolveRow_keeps updated fun row _ _ => ?_
      split <;> exact .of_same rfl rfl

/-- Over every run that meets the condition. -/
theorem finished_deliveries_stay (config : ResolveConfig) (outbox later : ResolveOutbox)
    (actions : List ResolveAction)
    (reached : Runs.Reachable (resolveDelivery config) terminatesOnce outbox)
    (meets : Runs.Meets (resolveDelivery config) terminatesOnce outbox actions)
    (ran : Runs.run (resolveDelivery config) outbox actions = some later) :
    ∀ id row, outbox.rows.find? id = some row → row.1.deliveryState ≠ .queued →
      ∃ next, later.rows.find? id = some next ∧
        next.1.deliveryState = row.1.deliveryState ∧
        next.1.terminalReason = row.1.terminalReason ∧
        (row.1.deliveryState = .delivered → next.1.deliveryState ≠ .terminalUnresolved) := by
  intro id row found finished
  have kept : KeepsFinished outbox.rows later.rows := by
    refine @Runs.kept_by_run _ _ _ _ (fun next => KeepsFinished outbox.rows next.rows) ?_ _ _ _
      reached (.refl _) meets ran
    intro before action after _ held allowed stepped
    exact held.trans (resolve_step_keeps stepped allowed)
  obtain ⟨next, present, keeps⟩ := kept id row found
  obtain ⟨state, reason⟩ := keeps finished
  refine ⟨next, present, state, reason, fun delivered => ?_⟩
  rw [state, delivered]
  intro terminal
  cases terminal

/-! Samples. -/

def samplePaykit : ResolveConfig where
  leaseSeconds := 30
  httpDate _ := none

def emptyOutbox : ResolveOutbox := ⟨.empty, .empty, .empty⟩

def sentResolution : List ResolveAction :=
  [.enqueue 1 7 8 .refunded "stack" "https://paykit" 100, .claim 1 1 100 [], .begin 1,
    .identity 1 (some (some "stack"))]

def unknownInvoice : PaykitResolveResponse := ⟨404, some "unknown_invoice", none, none⟩

/-- The operator acknowledges a row that Paykit refused. -/
theorem refused_row_stays_refused :
    ∃ outbox later, Runs.Reachable (resolveDelivery samplePaykit) terminatesOnce outbox ∧
      Runs.run (resolveDelivery samplePaykit) outbox [.acknowledge 1 "ops" "noted" 200] =
        some later ∧
      ∃ row next, outbox.rows.find? 1 = some row ∧ later.rows.find? 1 = some next ∧
        row.1.terminalReason = some .unknownInvoice ∧
        next.1.terminalReason = row.1.terminalReason := by
  obtain ⟨outbox, reached, later, ran, meets, row, found, finished, reason⟩ :=
    @Runs.exists_reachable_of_run _ _ (resolveDelivery samplePaykit) terminatesOnce emptyOutbox
      ⟨rfl, rfl, rfl⟩ (sentResolution ++ [.response 1 (some unknownInvoice), .write 1 true])
      (fun outbox =>
        ∃ later ∈ Runs.run (resolveDelivery samplePaykit) outbox
          [.acknowledge 1 "ops" "noted" 200],
          Runs.Meets (resolveDelivery samplePaykit) terminatesOnce outbox
            [.acknowledge 1 "ops" "noted" 200] ∧
          ∃ row ∈ outbox.rows.find? 1, row.1.deliveryState ≠ .queued ∧
            row.1.terminalReason = some .unknownInvoice)
      (by decide +kernel) (by decide +kernel)
  obtain ⟨next, present, -, kept, -⟩ := finished_deliveries_stay samplePaykit outbox later _ reached
    meets ran 1 row found finished
  exact ⟨outbox, later, reached, ran, row, next, found, present, reason, kept⟩

/-- The operator terminates the row while the call is in flight, and the worker
writes its reason over the operator's. -/
theorem terminated_row_is_rewritten :
    ∃ outbox, Runs.Reachable (resolveDelivery samplePaykit) Runs.anyStep outbox ∧
      ∃ later ∈ Runs.run (resolveDelivery samplePaykit) outbox
        [.response 1 (some unknownInvoice), .write 1 true],
        ∃ row ∈ outbox.rows.find? 1, row.1.deliveryState = .terminalUnresolved ∧
          row.1.terminalReason = some .operatorTerminated ∧
          ∃ next ∈ later.rows.find? 1, next.1.terminalReason = some .unknownInvoice :=
  @Runs.exists_reachable_of_run _ _ (resolveDelivery samplePaykit) Runs.anyStep emptyOutbox
    ⟨rfl, rfl, rfl⟩ (sentResolution ++ [.terminate 1 "ops" "rollback" 101]) _
    (Runs.meets_anyStep _ _ _) (by decide +kernel)

end MarketplaceService
