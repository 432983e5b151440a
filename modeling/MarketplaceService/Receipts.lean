import MarketplaceService.InFlight
import MarketplaceService.OrderPostings

/-!
Receipts over the life of an order. A step issues the order's receipt, keeps
it, or gives paid lines back at a cancellation; a receipt is issued once and no
step takes it away.
-/

namespace MarketplaceService

def unpaidStates : List OrderState := [.pendingPayment, .cancelled, .refundedExternal]

structure GivenBack (standing : Standing) (returned : List Line) : Prop where
  paid : standing.state ∉ unpaidStates → standing.receipt.isSome = true ∧ returned = []
  bought : returned ≠ [] → standing.receipt.isSome = true
  lines : returned.Sublist standing.terms.lines

/-- What a step does to the receipt and to the state of an order, and the
lines it gives back. -/
inductive Receipts (standing done : Standing) : List Line → Prop
  | issued (unpaid : standing.receipt = none) (paid : done.receipt.isSome = true) :
      Receipts standing done []
  | kept (receipt : done.receipt = standing.receipt)
      (state : done.state ∉ unpaidStates → standing.state ∉ unpaidStates) :
      Receipts standing done []
  | gaveBack {lines : List Line} (receipt : done.receipt = standing.receipt)
      (paid : standing.state ∉ unpaidStates) (cancelled : done.state = .cancelled)
      (sublist : lines.Sublist standing.terms.lines) : Receipts standing done lines

theorem GivenBack.step {standing done : Standing} {returned lines : List Line}
    (given : GivenBack standing returned) (terms : done.terms = standing.terms)
    (receipts : Receipts standing done lines) : GivenBack done (returned ++ lines) := by
  cases receipts with
  | issued unpaid paid =>
      have nothing : returned = [] := by
        by_contra some_line
        have bought := given.bought some_line
        simp [unpaid] at bought
      subst nothing
      exact ⟨fun _ => ⟨paid, rfl⟩, fun _ => paid, List.nil_sublist _⟩
  | kept receipt state =>
      rw [List.append_nil]
      refine ⟨?_, ?_, ?_⟩
      · intro label
        rw [receipt]
        exact given.paid (state label)
      · intro some_line
        rw [receipt]
        exact given.bought some_line
      · rw [terms]
        exact given.lines
  | gaveBack receipt paid cancelled sublist =>
      obtain ⟨bought, nothing⟩ := given.paid paid
      subst nothing
      refine ⟨?_, ?_, ?_⟩
      · intro label
        simp [cancelled, unpaidStates] at label
      · intro _
        rw [receipt]
        exact bought
      · rw [terms]
        exact sublist

section Receipts

variable {inventory after : Inventory} {standing done : Standing} {now : Time}

theorem Refund.receipts (routed : Refund now inventory standing after done) :
    Receipts standing done [] := by
  cases routed with
  | cancelled shows_row open_payment pending released =>
      exact .kept rfl (by simp [Standing.close, unpaidStates])
  | kept open_payment settled => exact .kept rfl id

theorem Confirm.receipts {order : Order}
    (confirmed : Confirm now order inventory standing after done) : Receipts standing done [] := by
  cases confirmed with
  | intro terms payable deliverable unpaid stocked => exact .issued unpaid rfl

theorem Retake.receipts (retaken : Retake now inventory standing after done) :
    Receipts standing done [] := by
  cases retaken with
  | intro shows_row reacquired stored confirmed => exact confirmed.receipts

theorem Late.receipts (late : Late now inventory standing after done) :
    Receipts standing done [] := by
  cases late with
  | undeliverable routed => exact routed.receipts
  | held open_payment pending held => exact .kept rfl id
  | completed unheld unresolved retaken => exact retaken.receipts
  | lost shows_row deliverable unheld failed routed => exact routed.receipts

theorem Settle.receipts (settled : Settle now inventory standing after done) :
    Receipts standing done [] := by
  cases settled with
  | confirmed shows_row confirmed => exact confirmed.receipts
  | refunded routed => exact routed.receipts
  | reviewed => exact .kept rfl id

theorem Resolve.receipts (resolved : Resolve now inventory standing after done) :
    Receipts standing done [] := by
  cases resolved with
  | intact shows_row pending present confirmed => exact confirmed.receipts
  | retaken shows_row open_order lost retaken => exact retaken.receipts
  | gaveBack shows_row pending closed released =>
      refine .kept rfl ?_
      cases closed <;> simp [Standing.close, unpaidStates]
  | closed cancelled closed =>
      refine .kept rfl ?_
      cases closed <;> simp [unpaidStates]

theorem Receipts.relabel {start last : Standing} {lines : List Line}
    (receipts : Receipts standing done lines)
    (first : standing.receipt = start.receipt ∧ standing.state = start.state ∧
      standing.terms = start.terms)
    (second : last.receipt = done.receipt ∧ last.state = done.state) :
    Receipts start last lines := by
  obtain ⟨receipt, state, terms⟩ := first
  obtain ⟨receipt', state'⟩ := second
  cases receipts with
  | issued unpaid paid =>
      exact .issued (by rw [← receipt]; exact unpaid) (by rw [receipt']; exact paid)
  | kept same label =>
      refine .kept ((receipt'.trans same).trans receipt) ?_
      rw [state', ← state]
      exact label
  | gaveBack same paid cancelled sublist =>
      refine .gaveBack ((receipt'.trans same).trans receipt) ?_ (state'.trans cancelled) ?_
      · rw [← state]
        exact paid
      · rw [← terms]
        exact sublist

theorem Move.receipts {references : References} {action : OrderAction} {returned : List Line}
    (move : Move references now inventory standing action returned after done) :
    Receipts standing done returned := by
  cases move with
  | stay => exact .kept rfl id
  | bindFiat known chosen unbound pending awaiting other acquired =>
      obtain ⟨hold, rfl, -, -⟩ := acquired.frame
      exact .kept rfl id
  | bindBitcoin chosen prepared unbound pending awaiting other acquired =>
      obtain ⟨hold, rfl, -, -⟩ := acquired.frame
      exact .kept rfl id
  | activate answer preparing => exact .kept rfl id
  | track answer current voided settled =>
      obtain ⟨payment, same, -, -⟩ := standing.activate.lapse_frame
      split
      · rw [same]
        exact .kept rfl id
      · exact .kept rfl id
  | voidPrepare answer voids shows_row preparing released => exact .kept rfl id
  | dropRequest preparing settled => exact .kept rfl id
  | expirePreparing answer shows_row preparing released =>
      exact .kept rfl
        (by simp [Standing.close, Standing.dropRequest, Standing.release, unpaidStates])
  | expireHeld shows_row pending held settled outside open_payment released =>
      obtain ⟨payment, same, -, -⟩ := standing.lapse_frame
      rw [same]
      exact .kept rfl (by simp [Standing.close, unpaidStates])
  | expireIdle pending free unbound single unstamped awaiting =>
      exact .kept rfl (by simp [Standing.close, unpaidStates])
  | cancelPending shows_row pending outside released =>
      exact .kept standing.endRequest_kept.2 (by simp [Standing.close, unpaidStates])
  | cancelPaid shows_row paid returned =>
      refine .gaveBack rfl ?_ rfl (List.Sublist.refl _)
      rcases paid with same | same <;> simp [same, unpaidStates]
  | requestCancel paid =>
      refine .kept rfl fun _ => ?_
      rcases paid with same | same | same <;> simp [same, unpaidStates]
  | approveCancel shows_row requested releasable returned =>
      exact .gaveBack rfl (by simp [requested, unpaidStates]) rfl releasable.1
  | fulfil command paid ended ready label recorded =>
      refine .kept rfl fun moved => ?_
      rw [show unpaidStates = [.pendingPayment, .cancelled, .refundedExternal] from rfl] at moved ⊢
      simp only [List.mem_cons, List.not_mem_nil, or_false, not_or] at paid moved ⊢
      exact ⟨paid.1, fun cancelled => moved.2.2 (ended cancelled), paid.2.2⟩
  | settle rail awaiting settled => exact settled.receipts
  | late rail money expired late => exact late.receipts
  | settlePoll rail awaiting gate settled froze =>
      exact settled.receipts.relabel ⟨rfl, rfl, rfl⟩ ⟨rfl, rfl⟩
  | latePoll rail money open_payment outside froze late =>
      exact late.receipts.relabel ⟨rfl, rfl, rfl⟩ ⟨rfl, rfl⟩
  | fallback advanced froze => exact .kept rfl id
  | confirmSeller window awaiting confirmed froze first queued pinned =>
      exact confirmed.receipts.relabel ⟨rfl, rfl, rfl⟩ ⟨rfl, rfl⟩
  | windowLapsed request awaiting opened due froze => exact .kept rfl id
  | resolve paykit review unresolved resolved first queued pinned =>
      exact resolved.receipts.relabel ⟨rfl, rfl, rfl⟩ ⟨rfl, rfl⟩
  | routeMismatch watching unbound paykit open_payment outside untracked unresolved froze =>
      exact .kept rfl id
  | routeLate watching unbound paykit open_payment outside untracked froze swapped late =>
      have same := swapped.eq
      refine late.receipts.relabel ⟨?_, ?_, ?_⟩ ⟨rfl, rfl⟩ <;> rw [same] <;> rfl
  | detect rail pending => exact .kept rfl id
  | refresh rail request amount => exact .kept rfl id
  | enterWindow rail entry reported awaiting froze first extended => exact .kept rfl id
  | sandbox sandbox target_ok unconfirmed acquired =>
      rcases acquired with acquired | ⟨-, rfl⟩
      · obtain ⟨hold, rfl, -, -⟩ := acquired.frame
        exact .kept rfl id
      · exact .kept rfl id
  | sandboxSettle sandbox open_payment acquired settled =>
      rcases acquired with acquired | ⟨-, rfl⟩
      · obtain ⟨hold, rfl, -, -⟩ := acquired.frame
        exact settled.receipts.relabel ⟨rfl, rfl, rfl⟩ ⟨rfl, rfl⟩
      · exact settled.receipts
  | prepareLocks unbound unlocked pending awaiting priced acquired =>
      obtain ⟨hold, rfl, -, -⟩ := acquired.frame
      exact .kept rfl id
  | registerLocks locks => exact .kept rfl id

end Receipts

end MarketplaceService
