import MarketplaceService.Confirmations
import MarketplaceService.PickupTerms

/-!
What a step does to the pickup terms. Beside the steps that leave the details,
the counters and the pins alone, a step sets or clears the details of one
listing, deletes versions that are no longer current, or confirms one order and
pins its lines.
-/

namespace MarketplaceService

variable {references : References} {service after : PickupService} {action : PickupAction}

/-- The service itself takes a step or rests. -/
def GoesOn (references : References) (before after : Sys) : Prop :=
  after = before ∨ ∃ action, before.step references action = some after

def PickupService.versionsNow (service : PickupService) (lines : List Line) :
    List (Option ℕ) :=
  lines.map fun line => (service.currentDetails line.listing).map Prod.fst

inductive PickupMove (references : References) (service : PickupService) :
    PickupService → Prop
  | other {sys : Sys} {snapshots : Keyed.Table (OrderId × ℕ) PickupSnapshot}
      {revealed : Keyed.Table OrderId Time} {handovers : Keyed.Table OrderId (HandoverRole × Time)}
      {keys sandbox : Bool} (advances : GoesOn references service.sys sys) :
      PickupMove references service
        { service with
          sys, snapshots, handovers, keys, firstRevealedAt := revealed
          sandboxPayments := sandbox }
  | confirmed {sys : Sys} {id : OrderId} {before cell : Cell}
      {snapshots : Keyed.Table (OrderId × ℕ) PickupSnapshot}
      {versions : Keyed.Table OrderId (List (Option ℕ))}
      {handovers : Keyed.Table OrderId (HandoverRole × Time)}
      (advances : GoesOn references service.sys sys)
      (found : service.sys.cells.find? id = some before) (unpaid : before.book.receipt = none)
      (present : sys.cells.find? id = some cell) (paid : cell.book.receipt.isSome = true)
      (pinned : versions = service.versionsAtPayment ∨
        versions = service.versionsAtPayment.set id (service.versionsNow cell.book.order.lines)) :
      PickupMove references service
        { service with
          sys, snapshots, handovers, versionsAtPayment := versions
          log := .confirmed id :: service.log }
  | set {id : ListingId} {counter : PickupCounter} {details : String}
      (current : (service.counters.find? id).getD ⟨0, none⟩ = counter) :
      PickupMove references service
        { service with
          details := service.details.set (id, counter.lastVersion + 1) details
          counters := service.counters.set id ⟨counter.lastVersion + 1, none⟩
          log := .set id (counter.lastVersion + 1) :: service.log }
  | cleared {id : ListingId} {counter : PickupCounter} {now : Time}
      {kept : ListingId × ℕ → Bool}
      (current : (service.counters.find? id).getD ⟨0, none⟩ = counter)
      (others : ∀ key, key.1 ≠ id → kept key = true) :
      PickupMove references service
        { service with
          details := service.details.keep kept
          counters := service.counters.set id { counter with clearedAt := some now }
          log := .cleared id :: service.log }
  | purged {kept : ListingId × ℕ → Bool}
      (current : ∀ listing version, service.cleared listing = false →
        (service.versionsOf listing).max? = some version → kept (listing, version) = true) :
      PickupMove references service { service with details := service.details.keep kept }

/-! Inversion. -/

theorem advance_moves {step : Action} (ran : service.advance references step = some after)
    (handovers : Keyed.Table OrderId (HandoverRole × Time)) :
    PickupMove references service { after with handovers } := by
  obtain ⟨sys, stepped, written⟩ := Option.map_eq_some_iff.mp ran
  have advances : GoesOn references service.sys sys := .inr ⟨step, stepped⟩
  split at written
  · rename_i id now own
    split at written
    · rename_i before cell found present
      split at written
      · rename_i issued
        subst written
        obtain ⟨unpaid, paid⟩ := issued
        dsimp only
        split
        · unfold PickupService.pinPickupLines
          split
          · exact .confirmed advances found unpaid present paid (.inr rfl)
          · exact .confirmed advances found unpaid present paid (.inl rfl)
        · exact .confirmed advances found unpaid present paid (.inl rfl)
      · subst written
        exact .other advances
    · subst written
      exact .other advances
  · subst written
    exact .other advances

theorem lockCounterCas_current {sender : Sender} {id : ListingId} {counter : PickupCounter}
    (locked : service.lockCounterCas sender id = .ok counter) :
    (service.counters.find? id).getD ⟨0, none⟩ = counter := by
  unfold PickupService.lockCounterCas at locked
  dsimp only at locked
  split at locked
  · cases locked
  · cases locked
    rfl

theorem setDetails_moves {sender : Sender} {id : ListingId} {details : String}
    (ran : service.setDetails sender id details = .ok after) :
    PickupMove references service after := by
  simp only [PickupService.setDetails] at ran
  obtain ⟨listing, guarded, rest⟩ := Outcome.bind_ok ran
  obtain ⟨publishes, rest⟩ := Outcome.guard_ok rest
  obtain ⟨counter, locked, rest⟩ := Outcome.bind_ok rest
  obtain ⟨fresh, rest⟩ := Outcome.guard_ok rest
  cases rest
  exact .set (lockCounterCas_current locked)

theorem clearDetails_moves {sender : Sender} {id : ListingId} {now : Time}
    (ran : service.clearDetails sender id now = .ok after) :
    PickupMove references service after := by
  simp only [PickupService.clearDetails] at ran
  obtain ⟨listing, guarded, rest⟩ := Outcome.bind_ok ran
  obtain ⟨counter, locked, rest⟩ := Outcome.bind_ok rest
  cases rest
  apply PickupMove.cleared (lockCounterCas_current locked)
  intro key other
  simp only [bne_iff_ne.mpr other, Bool.true_or]

theorem purgeVersions_moves : PickupMove references service service.purgeVersions := by
  apply PickupMove.purged
  intro listing version uncleared largest
  simp [uncleared, largest]

theorem confirmPickup_moves {id : OrderId} {sender : Sender} {now : Time}
    (ran : service.confirmPickup references id sender now = .ok after) :
    PickupMove references service after := by
  unfold PickupService.confirmPickup at ran
  split at ran
  · cases ran
  · obtain ⟨_, -, rest⟩ := Outcome.bind_ok ran
    obtain ⟨-, rest⟩ := Outcome.guard_ok rest
    obtain ⟨-, rest⟩ := Outcome.guard_ok rest
    obtain ⟨-, rest⟩ := Outcome.guard_ok rest
    split at rest
    · cases rest
    · rename_i middle advanced
      cases rest
      exact advance_moves advanced _

theorem pickup_step_inverts (stepped : (pickups references).step service action = some after) :
    PickupMove references service after := by
  change service.step references action = some after at stepped
  cases action with
  | service step =>
      obtain ⟨-, ran⟩ := Option.ite_none_left_eq_some.mp stepped
      exact advance_moves ran after.handovers
  | configure keys sandbox =>
      cases stepped
      exact .other (.inl rfl)
  | set sender listing details => exact setDetails_moves (Outcome.toOption_some stepped)
  | clear sender listing now => exact clearDetails_moves (Outcome.toOption_some stepped)
  | purgeSnapshots aged reversed =>
      cases stepped
      exact .other (.inl rfl)
  | purgeVersions =>
      cases stepped
      exact purgeVersions_moves
  | reveal order actor now =>
      obtain ⟨cell, -, rest⟩ := Option.bind_eq_some_iff.mp stepped
      obtain ⟨-, written⟩ := Option.ite_none_right_eq_some.mp rest
      cases written
      exact .other (.inl rfl)
  | cancelRequest order sender reason now =>
      obtain ⟨row, -, ran⟩ := Option.bind_eq_some_iff.mp stepped
      exact advance_moves ran after.handovers
  | confirmPickup order sender now => exact confirmPickup_moves (Outcome.toOption_some stepped)

/-- The service inside takes steps of its own. -/
theorem PickupMove.goesOn (move : PickupMove references service after) :
    GoesOn references service.sys after.sys := by
  cases move with
  | other advances => exact advances
  | confirmed advances => exact advances
  | _ => exact .inl rfl

theorem reachable_market {allowed : PickupService → PickupAction → Prop}
    (reached : Runs.Reachable (pickups references) allowed service) :
    Runs.Reachable (marketplace references) Runs.anyStep service.sys := by
  refine Runs.invariant (pickups references) allowed
    (fun service => Runs.Reachable (marketplace references) Runs.anyStep service.sys) ?_ ?_ reached
  · rintro start rfl
    exact .start rfl
  · intro before action after known _ stepped
    rcases (pickup_step_inverts stepped).goesOn with same | ⟨step, ran⟩
    · rw [same]
      exact known
    · exact .next known trivial ran

end MarketplaceService
