import MarketplaceService.Cells

/-!
Every prepared Paykit invoice stays covered: it is the current invoice of its
order with a request, or it has a released-attempt row. Each transaction that
overwrites the pins or clears the request records the attempt first, so a move
never uncovers an invoice.
-/

namespace MarketplaceService

/-- The invoice has a request or a row. -/
def Standing.Covers (standing : Standing) (invoice : InvoiceId) : Prop :=
  standing.invoice = some invoice ∧ standing.request.isSome = true ∨ invoice ∈ standing.watched

/-- No move from `before` to `after` lets go of an invoice: covered invoices
stay covered, and the current invoice is covered or was current before. -/
structure KeepsCover (before after : Standing) : Prop where
  covers : ∀ invoice, before.Covers invoice → after.Covers invoice
  current : ∀ invoice, after.invoice = some invoice →
    before.invoice = some invoice ∨ after.Covers invoice

namespace KeepsCover

variable {first second third : Standing}

theorem trans (left : KeepsCover first second) (right : KeepsCover second third) :
    KeepsCover first third := by
  refine ⟨fun invoice covered => right.covers invoice (left.covers invoice covered), ?_⟩
  intro invoice named
  rcases right.current invoice named with old | covered
  · exact (left.current invoice old).imp_right (right.covers invoice)
  · exact .inr covered

/-- The pins stay, no request is cleared and no attempt row is deleted. -/
theorem of_kept {before after : Standing} (pins : after.pins = before.pins)
    (request : before.request.isSome = true → after.request.isSome = true)
    (watched : before.watched ⊆ after.watched) : KeepsCover before after := by
  have invoice : after.invoice = before.invoice := by
    unfold Standing.invoice
    rw [pins]
  constructor
  · rintro number (⟨named, live⟩ | row)
    · exact .inl ⟨invoice.trans named, request live⟩
    · exact .inr (watched row)
  · exact fun _ named => .inl (invoice.symm.trans named)

theorem refl (standing : Standing) : KeepsCover standing standing := of_kept rfl id subset_rfl

theorem of_released {before after : Standing}
    (released : before.release.watched ⊆ after.watched)
    (next : after.pins = before.pins ∨ after.request.isSome = true) :
    KeepsCover before after := by
  constructor
  · rintro number (⟨named, -⟩ | row)
    · exact .inr (released (.inr named))
    · exact .inr (released (.inl row))
  · intro number named
    rcases next with same | live
    · left
      unfold Standing.invoice at named ⊢
      rw [← same]
      exact named
    · exact .inr (.inl ⟨named, live⟩)

theorem tidied {before after : Standing} (tidied : before.Tidied after) :
    KeepsCover before after := by
  refine of_kept ?_ ?_ tidied.watched <;> rw [tidied.eq]
  exact id

end KeepsCover

theorem Decided.keepsCover {before after : Standing} (decided : Decided before after) :
    KeepsCover before after := by
  obtain ⟨state, held, payment, receipt, rfl, -⟩ := decided
  exact .of_kept rfl id subset_rfl

theorem Acquire.keepsCover {inventory after : Inventory} {standing done : Standing}
    (acquired : Acquire inventory standing after done) : KeepsCover standing done := by
  obtain ⟨held, rfl, -, -⟩ := acquired.frame
  exact .of_kept rfl id subset_rfl

theorem Standing.report_keepsCover (standing : Standing) (seen : Option Observation)
    (observed : Option ℕ) : KeepsCover standing (standing.report seen observed) :=
  .of_kept rfl (fun _ => rfl) subset_rfl

theorem Standing.dropRequest_keepsCover (standing : Standing) :
    KeepsCover standing standing.dropRequest :=
  .of_released subset_rfl (.inl rfl)

theorem Standing.restore_keepsCover (standing : Standing) (pins : PaykitPins)
    (reference : Reference) (seen : Option Observation) (observed : Option ℕ) :
    KeepsCover standing (standing.restore pins reference seen observed) :=
  .of_released subset_rfl (.inr rfl)

theorem Move.keepsCover {references : References} {now : Time} {inventory after : Inventory}
    {standing done : Standing} {action : OrderAction} {returned : List Line}
    (coherent : Coherent standing)
    (move : Move references now inventory standing action returned after done) :
    KeepsCover standing done := by
  -- a write of labels beside the pins, the request and the attempt rows
  have labels {after : Standing} (pins : after.pins = standing.pins)
      (request : after.request = standing.request) (watched : after.watched = standing.watched) :
      KeepsCover standing after :=
    .of_kept pins (fun live => request ▸ live) watched.symm.subset
  cases move with
  | stay => exact .refl _
  | bindFiat known chosen unbound pending awaiting unlocked acquired =>
      exact acquired.keepsCover.trans (.of_released subset_rfl (.inl rfl))
  | bindBitcoin chosen prepared unbound pending awaiting unlocked acquired =>
      exact acquired.keepsCover.trans (.of_released subset_rfl (.inr rfl))
  | activate answer preparing => exact .of_kept rfl (fun _ => rfl) subset_rfl
  | track answer current voided settled =>
      rw [(coherent.tracked settled).1]
      exact .of_kept rfl (fun _ => rfl) subset_rfl
  | voidPrepare answer voids shows_row preparing released =>
      exact .of_released subset_rfl (.inl rfl)
  | dropRequest preparing settled => exact standing.dropRequest_keepsCover
  | expirePreparing answer shows_row preparing released =>
      have closes : KeepsCover standing ((standing.pay .expired).close .cancelled) :=
        labels rfl rfl rfl
      exact closes.trans (Standing.dropRequest_keepsCover _)
  | expireHeld shows_row pending held settled outside open_payment released =>
      obtain ⟨payment, same, -⟩ := standing.lapse_frame
      rw [same]
      exact labels rfl rfl rfl
  | expireIdle pending free unbound single unstamped awaiting => exact labels rfl rfl rfl
  | cancelPending shows_row pending outside released =>
      obtain ⟨payment, -, same | ⟨-, same⟩⟩ := standing.endRequest_cases
      · rw [same]
        exact labels rfl rfl rfl
      · rw [same]
        have pays : KeepsCover standing (standing.pay payment) := labels rfl rfl rfl
        refine (pays.trans (Standing.dropRequest_keepsCover _)).trans ?_
        exact .of_kept rfl id subset_rfl
  | cancelPaid shows_row paid returned => exact labels rfl rfl rfl
  | requestCancel paid => exact labels rfl rfl rfl
  | approveCancel shows_row requested releasable returned => exact labels rfl rfl rfl
  | fulfil command paid ended ready label recorded => exact labels rfl rfl rfl
  | settle rail awaiting settled => exact settled.decided.keepsCover
  | late rail money expired late => exact late.decided.keepsCover
  | settlePoll rail awaiting gate settled froze =>
      exact settled.decided.keepsCover.trans (Standing.report_keepsCover _ _ _)
  | latePoll rail money open_payment outside froze late =>
      exact (standing.report_keepsCover _ _).trans late.decided.keepsCover
  | fallback advanced froze => exact standing.report_keepsCover _ _
  | confirmSeller window awaiting confirmed froze first queued pinned =>
      exact confirmed.decided.keepsCover.trans (.of_kept rfl (fun _ => rfl) subset_rfl)
  | windowLapsed request awaiting opened due froze =>
      have pays : KeepsCover standing (standing.pay .manualReview) := labels rfl rfl rfl
      exact pays.trans (Standing.report_keepsCover _ _ _)
  | resolve paykit review unresolved resolved first queued pinned =>
      rcases resolved.outcome with decided | ⟨payment, state, held, refund, rfl, -⟩
      · refine decided.keepsCover.trans ?_
        exact .of_kept rfl id subset_rfl
      · exact labels rfl rfl rfl
  | @routeMismatch _ _ _ pins reference seen observed watching unbound paykit open_payment outside
      untracked unresolved froze =>
      refine (standing.restore_keepsCover pins reference seen observed).trans ?_
      exact .of_kept rfl id subset_rfl
  | routeLate watching unbound paykit open_payment outside untracked froze swapped late =>
      have restored := (standing.restore_keepsCover _ _ _ _).trans (.tidied swapped)
      exact restored.trans late.decided.keepsCover
  | detect rail pending => exact .of_kept rfl (fun _ => rfl) subset_rfl
  | refresh rail request amount => exact .of_kept rfl id subset_rfl
  | enterWindow rail entry reported awaiting froze first extended =>
      exact .of_kept rfl (fun _ => rfl) subset_rfl
  | @sandbox _ _ _ _ _ held on_sandbox target_ok unconfirmed acquired =>
      have kept : KeepsCover standing held := by
        rcases acquired with taken | ⟨-, rfl⟩
        · exact taken.keepsCover
        · exact .refl _
      exact kept.trans (.of_kept rfl id subset_rfl)
  | sandboxSettle sandbox open_payment acquired settled =>
      rcases acquired with taken | ⟨-, rfl⟩
      · exact taken.keepsCover.trans settled.decided.keepsCover
      · exact settled.decided.keepsCover
  | prepareLocks unbound unlocked pending awaiting priced acquired =>
      exact acquired.keepsCover.trans (.of_kept rfl id subset_rfl)
  | registerLocks locks => exact labels rfl rfl rfl

/-! Along a run. -/

structure Covered (cell : Cell) : Prop where
  ever : ∀ invoice ∈ cell.everPinned, cell.book.standing.Covers invoice
  current : ∀ invoice, cell.book.standing.invoice = some invoice →
    cell.book.standing.Covers invoice

theorem Fresh.covered {book : OrderBook} (fresh : Fresh book) : Covered (newCell book) := by
  obtain ⟨⟨held, start⟩, -⟩ := fresh
  constructor
  · intro invoice member
    cases member
  · intro invoice named
    change book.standing.invoice = some invoice at named
    rw [start] at named
    cases named

theorem CellStep.covered {references : References} {inventory after : Inventory}
    {cell done : Cell} {now : Time} {action : OrderAction} (sound : Sound cell)
    (covered : Covered cell)
    (step : CellStep references now inventory cell action after done) : Covered done := by
  obtain ⟨moved, move, tidied⟩ := step.moves
  have kept := (move.keepsCover sound.coherent).trans (.tidied tidied)
  have current (invoice : InvoiceId) (named : done.book.standing.invoice = some invoice) :
      done.book.standing.Covers invoice := by
    rcases kept.current invoice named with old | now_covered
    · exact kept.covers invoice (covered.current invoice old)
    · exact now_covered
  refine ⟨?_, current⟩
  intro invoice member
  rw [step.everPinned, List.mem_append] at member
  rcases member with old | new
  · exact kept.covers invoice (covered.ever invoice old)
  · exact current invoice (Option.mem_toList.mp new)

end MarketplaceService
