import MarketplaceService.DropGate
import MarketplaceService.OfferDesk

/-!
Negotiations over whole runs. The participants propose in turn, the buyer first,
and only the one who did not make the standing proposal may accept or reject it.
An acceptance sells what stands, in the same transaction as the service holds the
units, and an offer that is settled is never written again.
-/

namespace MarketplaceService

structure Answers (offer : OfferRow) (actor : Pubky) (now : Time) : Prop where
  participant : actor = offer.buyerPubky ∨ actor = offer.sellerPubky
  live : offer.isActionable = true
  unexpired : now < offer.expiresAt

/-- What happens to an offer row at `now`, and the command of the service that runs in
the same transaction. Proposals and acceptances carry the time they were read at. -/
inductive OfferTurn (now : Time) (offer : OfferRow) : Option Action → OfferRow → Prop
  | countered {actor : Pubky} {terms : OfferTerms} {readAt : Time}
      {refreshed : Option (AwardListingSnapshot × String)} (answers : Answers offer actor readAt)
      (other : actor ≠ offer.offeredBy)
      (currency : terms.amount.currency = offer.amount.currency)
      (exponent : terms.amount.exponent = offer.amount.exponent) :
      OfferTurn now offer none (offer.countered actor terms refreshed readAt)
  | awarded {actor : Pubky} {snapshot : AwardListingSnapshot} {variant : AwardVariantSnapshot}
      {award : AwardId} {reservation : ReservationId} {terms : AcceptedTerms} {readAt : Time}
      (answers : Answers offer actor readAt) (other : actor ≠ offer.offeredBy)
      (written : terms = offer.acceptedTerms snapshot variant
        (offer.award snapshot award reservation) readAt)
      (fits : terms.totalMinor ≤ MachineInt.maximum) :
      OfferTurn now offer (some (.acceptOffer terms.award readAt))
        (offer.awarded actor terms readAt)
  | rejected {actor : Pubky} (answers : Answers offer actor now) (other : actor ≠ offer.offeredBy) :
      OfferTurn now offer none (offer.finished actor .rejected .rejected now)
  | withdrawn (answers : Answers offer offer.offeredBy now) :
      OfferTurn now offer none (offer.finished offer.offeredBy .withdrawn .withdrawn now)
  | lapsed (live : offer.isActionable = true) (due : offer.expiresAt ≤ now) :
      OfferTurn now offer none (offer.expired .negotiationWindow now)
  | awardLapsed {terms : AcceptedTerms} (accepted : offer.state = .accepted)
      (stored : offer.accepted = some terms) (due : terms.awardExpiresAt ≤ now) :
      OfferTurn now offer (some (.expireAward terms.award)) (offer.expired .awardWindow now)
  | converted {terms : AcceptedTerms} {order : OrderId} {fulfillment : Fulfillment} {window : ℕ}
      (accepted : offer.state = .accepted) (stored : offer.accepted = some terms)
      (unexpired : now < terms.awardExpiresAt) :
      OfferTurn now offer (some (.offerCheckout terms.award order fulfillment window))
        (offer.converted order now)

inductive DeskMove (references : References) (desk after : OfferDesk) : Prop
  | service {action : Action} (apart : action.readsOffer = false)
      (ran : desk.sys.step references action = some after.sys) (offers : after.offers = desk.offers)
  | kept (sys : after.sys = desk.sys) (offers : after.offers = desk.offers)
  | opened {id : OfferId} {listing : ListingId} {buyer seller : Pubky} {terms : OfferTerms}
      {snapshot : Option AwardListingSnapshot} {now : Time} (sys : after.sys = desk.sys)
      (fresh : desk.offers.find? id = none) (apart : buyer ≠ seller)
      (offers : after.offers = desk.offers.set id
        (newOffer id listing buyer seller terms snapshot now))
  | turned {id : OfferId} {offer row : OfferRow} {action : Option Action}
      (found : desk.offers.find? id = some offer)
      (turn : OfferTurn desk.sys.clock offer action row)
      (ran : action.elim (after.sys = desk.sys) fun action =>
        desk.sys.step references action = some after.sys)
      (offers : after.offers = desk.offers.set id row)

section Steps

variable {references : References} {desk after : OfferDesk} {id : OfferId} {now : Time}
  {aggregateId : String} {sender : Sender}

theorem actionableOffer_ok {actor : Pubky} {offer : OfferRow}
    (read : desk.actionableOffer actor id aggregateId now = .ok offer) :
    desk.offers.find? id = some offer ∧ Answers offer actor now := by
  unfold OfferDesk.actionableOffer at read
  split at read
  · cases read
  · rename_i row found
    obtain ⟨-, read⟩ := Outcome.guard_ok read
    obtain ⟨participant, read⟩ := Outcome.guard_ok read
    obtain ⟨live, read⟩ := Outcome.guard_ok read
    obtain ⟨unexpired, read⟩ := Outcome.guard_ok read
    cases read
    refine ⟨found, ?_, by simpa using live, Nat.lt_of_not_le unexpired⟩
    by_contra neither
    exact participant ⟨fun buyer => neither (.inl buyer), fun seller => neither (.inr seller)⟩

theorem create_moves {listing : ListingId} {terms : OfferTerms} {fetch : TermsFetch}
    (ran : desk.create id listing sender terms fetch now = .ok after) :
    DeskMove references desk after := by
  unfold OfferDesk.create at ran
  split at ran
  · cases ran
  · rename_i row listed
    obtain ⟨seller, ran⟩ := Outcome.guard_ok ran
    obtain ⟨-, ran⟩ := Outcome.guard_ok ran
    obtain ⟨-, ran⟩ := Outcome.guard_ok ran
    obtain ⟨-, ran⟩ := Outcome.guard_ok ran
    obtain ⟨-, ran⟩ := Outcome.guard_ok ran
    obtain ⟨snapshot, -, ran⟩ := Outcome.bind_ok ran
    obtain ⟨fresh, ran⟩ := Outcome.guard_ok ran
    cases Outcome.pure_ok ran
    exact .opened rfl (by simpa using fresh) (Ne.symm seller) rfl

theorem counter_moves {terms : OfferTerms} {fetch : TermsFetch}
    (ran : desk.counter id aggregateId sender terms fetch now = .ok after) :
    DeskMove references desk after := by
  unfold OfferDesk.counter at ran
  obtain ⟨snapshot, -, ran⟩ := Outcome.bind_ok ran
  obtain ⟨offer, read, ran⟩ := Outcome.bind_ok ran
  obtain ⟨-, ran⟩ := Outcome.guard_ok ran
  obtain ⟨other, ran⟩ := Outcome.guard_ok ran
  obtain ⟨asset, ran⟩ := Outcome.guard_ok ran
  obtain ⟨refreshed, -, ran⟩ := Outcome.bind_ok ran
  obtain ⟨found, answers⟩ := actionableOffer_ok read
  have same := Prod.mk.inj (Classical.not_not.mp asset)
  split at ran
  · cases ran
  · obtain ⟨-, ran⟩ := Outcome.guard_ok ran
    cases Outcome.pure_ok ran
    exact .turned found (.countered answers other same.1.symm same.2.symm) rfl rfl

theorem award_ok {offer : OfferRow} {actor : Pubky} {terms : AcceptedTerms}
    (ran : desk.award id offer actor terms now = .ok after) :
    ∃ inventory, acceptOffer desk.sys.inventory terms.award now = .ok inventory ∧
      terms.totalMinor ≤ MachineInt.maximum ∧
      after = { desk with
        sys := { desk.sys with inventory := inventory }
        offers := desk.offers.set id (offer.awarded actor terms now) } := by
  unfold OfferDesk.award at ran
  obtain ⟨inventory, held, ran⟩ := Outcome.bind_ok ran
  obtain ⟨-, ran⟩ := Outcome.guard_ok ran
  obtain ⟨fits, ran⟩ := Outcome.guard_ok ran
  cases Outcome.pure_ok ran
  refine ⟨inventory, ?_, by omega, rfl⟩
  cases accepted : acceptOffer desk.sys.inventory terms.award now with
  | error failure => rw [accepted] at held; cases held
  | ok written => rw [accepted] at held; cases held; rfl

theorem accept_moves {locator : OfferRow} {fetch : TermsFetch} {award : AwardId}
    {reservation : ReservationId} (past : now ≤ desk.sys.clock)
    (ran : desk.accept id aggregateId sender locator fetch award reservation now = .ok after) :
    DeskMove references desk after := by
  unfold OfferDesk.accept at ran
  obtain ⟨snapshot, -, ran⟩ := Outcome.bind_ok ran
  obtain ⟨offer, read, ran⟩ := Outcome.bind_ok ran
  obtain ⟨-, ran⟩ := Outcome.guard_ok ran
  obtain ⟨-, ran⟩ := Outcome.guard_ok ran
  obtain ⟨other, ran⟩ := Outcome.guard_ok ran
  obtain ⟨-, ran⟩ := Outcome.guard_ok ran
  obtain ⟨found, answers⟩ := actionableOffer_ok read
  split at ran
  · cases ran
  · obtain ⟨-, ran⟩ := Outcome.guard_ok ran
    obtain ⟨inventory, held, fits, rfl⟩ := award_ok ran
    refine .turned found (.awarded answers other rfl fits) ?_ rfl
    change (if desk.sys.clock < now then none
      else desk.sys.setInventory (acceptOffer desk.sys.inventory _ now)) = _
    rw [if_neg (not_lt.mpr past), held]
    rfl

theorem reject_moves (ran : desk.reject id aggregateId sender desk.sys.clock = .ok after) :
    DeskMove references desk after := by
  unfold OfferDesk.reject at ran
  obtain ⟨offer, read, ran⟩ := Outcome.bind_ok ran
  obtain ⟨-, ran⟩ := Outcome.guard_ok ran
  obtain ⟨other, ran⟩ := Outcome.guard_ok ran
  obtain ⟨found, answers⟩ := actionableOffer_ok read
  cases Outcome.pure_ok ran
  exact .turned found (.rejected answers other) rfl rfl

theorem withdraw_moves (ran : desk.withdraw id aggregateId sender desk.sys.clock = .ok after) :
    DeskMove references desk after := by
  unfold OfferDesk.withdraw at ran
  obtain ⟨offer, read, ran⟩ := Outcome.bind_ok ran
  obtain ⟨author, ran⟩ := Outcome.guard_ok ran
  obtain ⟨-, ran⟩ := Outcome.guard_ok ran
  obtain ⟨found, answers⟩ := actionableOffer_ok read
  cases Outcome.pure_ok ran
  rw [Classical.not_not.mp author] at answers ⊢
  exact .turned found (.withdrawn answers) rfl rfl

theorem expireOffer_moves (ran : desk.expireOffer id desk.sys.clock = some after) :
    DeskMove references desk after := by
  obtain ⟨offer, found, ran⟩ := Option.bind_eq_some_iff.mp ran
  obtain ⟨⟨live, due⟩, ran⟩ := Option.ite_none_right_eq_some.mp ran
  cases ran
  exact .turned found (.lapsed live due) rfl rfl

theorem expireAward_moves (ran : desk.expireAward id desk.sys.clock = .ok after) :
    DeskMove references desk after := by
  unfold OfferDesk.expireAward at ran
  split at ran
  · cases ran
    exact .kept rfl rfl
  · rename_i offer found
    split at ran
    · cases ran
      exact .kept rfl rfl
    · rename_i terms stored
      split at ran
      · rename_i due
        obtain ⟨inventory, released, ran⟩ := Outcome.bind_ok ran
        cases Outcome.pure_ok ran
        refine .turned found (.awardLapsed due.1 stored due.2) ?_ rfl
        change desk.sys.setInventory (expireDueAward desk.sys.inventory terms.award) = _
        cases given : expireDueAward desk.sys.inventory terms.award with
        | error failure => rw [given] at released; cases released
        | ok written => rw [given] at released; cases released; rfl
      · cases ran
        exact .kept rfl rfl

theorem checkedAward_ok {payload : OfferDesk.AwardCheckout} {offer : OfferRow}
    {terms : AcceptedTerms}
    (read : desk.checkedAward id aggregateId sender payload now = .ok (offer, terms)) :
    desk.offers.find? id = some offer ∧ offer.state = .accepted ∧ offer.accepted = some terms ∧
      now < terms.awardExpiresAt := by
  unfold OfferDesk.checkedAward at read
  split at read
  · cases read
  · rename_i row found
    obtain ⟨-, read⟩ := Outcome.guard_ok read
    obtain ⟨-, read⟩ := Outcome.guard_ok read
    obtain ⟨-, read⟩ := Outcome.guard_ok read
    obtain ⟨-, read⟩ := Outcome.guard_ok read
    obtain ⟨unexpired, read⟩ := Outcome.guard_ok read
    obtain ⟨accepted, read⟩ := Outcome.guard_ok read
    split at read
    · cases read
    · rename_i columns stored
      obtain ⟨-, read⟩ := Outcome.guard_ok read
      obtain ⟨-, read⟩ := Outcome.guard_ok read
      obtain ⟨-, read⟩ := Outcome.guard_ok read
      cases read
      have label := Classical.not_not.mp accepted
      refine ⟨found, label, stored, ?_⟩
      by_contra late
      exact unexpired (.inr ⟨label, by simp [stored, late]⟩)

theorem checkout_moves {payload : OfferDesk.AwardCheckout} {order : OrderId} {window : ℕ}
    (ran : desk.checkout id aggregateId sender payload order window desk.sys.clock = .ok after) :
    DeskMove references desk after := by
  unfold OfferDesk.checkout at ran
  obtain ⟨⟨offer, terms⟩, read, ran⟩ := Outcome.bind_ok ran
  obtain ⟨⟨book, inventory⟩, placed, ran⟩ := Outcome.bind_ok ran
  obtain ⟨-, ran⟩ := Outcome.guard_ok ran
  obtain ⟨-, ran⟩ := Outcome.guard_ok ran
  obtain ⟨found, accepted, stored, unexpired⟩ := checkedAward_ok read
  split at ran
  · cases ran
  · rename_i sys inserted
    cases Outcome.pure_ok ran
    have turn : OfferTurn desk.sys.clock offer (some (.offerCheckout terms.award order
        (payload.fulfillment.getD .shipping) window)) (offer.converted order desk.sys.clock) :=
      .converted accepted stored unexpired
    refine .turned found turn ?_ rfl
    change ((offerCheckout desk.sys.inventory terms.award order
      (payload.fulfillment.getD .shipping) window desk.sys.clock).toOption.bind fun created =>
        desk.sys.insert created.2 [created.1]) = _
    cases given : offerCheckout desk.sys.inventory terms.award order
      (payload.fulfillment.getD .shipping) window desk.sys.clock with
    | error failure => rw [given] at placed; cases placed
    | ok created => rw [given] at placed; cases placed; exact inserted

theorem desk_step {action : DeskAction} (stepped : desk.step references action = some after) :
    DeskMove references desk after := by
  cases action with
  | service action =>
      obtain ⟨apart, stepped⟩ := Option.ite_none_left_eq_some.mp stepped
      obtain ⟨sys, ran, rfl⟩ := Option.map_eq_some_iff.mp stepped
      exact .service (by simpa using apart) ran rfl
  | locate id =>
      obtain ⟨offer, -, rfl⟩ := Option.map_eq_some_iff.mp stepped
      exact .kept rfl rfl
  | create =>
      obtain ⟨-, stepped⟩ := Option.ite_none_right_eq_some.mp stepped
      exact create_moves (Outcome.toOption_some stepped)
  | counter =>
      obtain ⟨-, stepped⟩ := Option.ite_none_right_eq_some.mp stepped
      exact counter_moves (Outcome.toOption_some stepped)
  | accept =>
      obtain ⟨⟨past, -⟩, stepped⟩ := Option.ite_none_right_eq_some.mp stepped
      exact accept_moves past (Outcome.toOption_some stepped)
  | reject => exact reject_moves (Outcome.toOption_some stepped)
  | withdraw => exact withdraw_moves (Outcome.toOption_some stepped)
  | expireOffer => exact expireOffer_moves stepped
  | expireAward => exact expireAward_moves (Outcome.toOption_some stepped)
  | checkout => exact checkout_moves (Outcome.toOption_some stepped)

end Steps

/-! The history of an offer. -/

structure ProposalAt (offer : OfferRow) (index : ℕ) (entry : HistoryEntry) : Prop where
  revision : entry.revision = index + 1
  move : entry.move = if index = 0 then .created else .countered
  actor : entry.actor = if index % 2 = 0 then offer.buyerPubky else offer.sellerPubky
  currency : entry.amount.currency = offer.amount.currency
  exponent : entry.amount.exponent = offer.amount.exponent

/-- The accepted columns sell what stood, by the unit. -/
structure Agreed (offer : OfferRow) (terms : AcceptedTerms) : Prop where
  listing : terms.award.listing = offer.listing
  buyer : terms.award.buyerPubky = offer.buyerPubky
  seller : terms.award.sellerPubky = offer.sellerPubky
  quantity : terms.award.quantity = offer.quantity
  createdAt : terms.award.createdAt = offer.createdAt
  currency : terms.award.currency = offer.amount.currency
  exponent : terms.award.exponent = offer.amount.exponent
  unitPrice : terms.unitPriceMinor = offer.amount.amountMinor
  subtotal : terms.award.subtotalMinor = offer.amount.amountMinor * offer.quantity
  total : terms.totalMinor = terms.award.subtotalMinor + terms.award.shippingMinor
  fits : terms.totalMinor ≤ MachineInt.maximum
  inTime : terms.acceptedAt < offer.expiresAt
  window : terms.awardExpiresAt = terms.acceptedAt + acceptedOfferHoldSeconds

/-- Where the row stands, by the move that ended its negotiation after so many proposals. -/
def OfferRow.StandsAfter (offer : OfferRow) (count : ℕ) : Option OfferMove → Prop
  | none =>
      offer.accepted = none ∧ offer.convertedOrderId = none ∧
        (offer.state = (if count = 1 then .pending else .countered) ∧ offer.revision = count ∨
          offer.state = .expired ∧ offer.expiryReason = some .negotiationWindow ∧
            offer.revision = count + 1 ∧ offer.expiresAt ≤ offer.updatedAt)
  | some .accepted =>
      ∃ terms, offer.accepted = some terms ∧ Agreed offer terms ∧
        (offer.state = .accepted ∧ offer.revision = count + 1 ∧ offer.convertedOrderId = none ∨
          offer.state = .converted ∧ offer.revision = count + 2 ∧
            offer.convertedOrderId.isSome = true ∧ offer.updatedAt < terms.awardExpiresAt ∨
          offer.state = .expired ∧ offer.expiryReason = some .awardWindow ∧
            offer.revision = count + 2 ∧ offer.convertedOrderId = none ∧
            terms.awardExpiresAt ≤ offer.updatedAt)
  | some .rejected =>
      offer.accepted = none ∧ offer.convertedOrderId = none ∧ offer.state = .rejected ∧
        offer.revision = count + 1
  | some .withdrawn =>
      offer.accepted = none ∧ offer.convertedOrderId = none ∧ offer.state = .withdrawn ∧
        offer.revision = count + 1
  | some .created | some .countered => False

structure Negotiated (offer : OfferRow) (proposals : List HistoryEntry)
    (ending : Option HistoryEntry) : Prop where
  apart : offer.buyerPubky ≠ offer.sellerPubky
  history : offer.history = proposals ++ ending.toList
  turns : ∀ index entry, proposals[index]? = some entry → ProposalAt offer index entry
  stands : ∃ last, proposals.getLast? = some last ∧ last.actor = offer.offeredBy ∧
    last.amount = offer.amount ∧ last.quantity = offer.quantity ∧ last.message = offer.message
  ended : ∀ entry ∈ ending, entry.revision = proposals.length + 1 ∧
    entry.amount = offer.amount ∧ entry.quantity = offer.quantity ∧
      entry.actor = if entry.move = .withdrawn then offer.offeredBy
        else otherParticipant offer offer.offeredBy
  state : offer.StandsAfter proposals.length (ending.map HistoryEntry.move)

section Histories

variable {offer : OfferRow} {proposals : List HistoryEntry} {ending : Option HistoryEntry}
  {actor : Pubky} {now : Time}

theorem newOffer_negotiated {id : OfferId} {listing : ListingId} {buyer seller : Pubky}
    {terms : OfferTerms} {snapshot : Option AwardListingSnapshot} (apart : buyer ≠ seller) :
    Negotiated (newOffer id listing buyer seller terms snapshot now)
      [⟨1, buyer, .created, terms.amount, terms.quantity, terms.message, now⟩] none where
  apart := apart
  history := rfl
  turns := by
    intro index entry listed
    obtain ⟨inside, rfl⟩ := List.getElem?_eq_some_iff.mp listed
    obtain rfl : index = 0 := by simpa using inside
    exact ⟨rfl, rfl, rfl, rfl, rfl⟩
  stands := ⟨_, rfl, rfl, rfl, rfl, rfl⟩
  ended := nofun
  state := ⟨rfl, rfl, .inl ⟨rfl, rfl⟩⟩

theorem acceptedTerms_agreed {snapshot : AwardListingSnapshot} {variant : AwardVariantSnapshot}
    {award : AwardId} {reservation : ReservationId} {terms : AcceptedTerms}
    (written : terms = offer.acceptedTerms snapshot variant
      (offer.award snapshot award reservation) now)
    (fits : terms.totalMinor ≤ MachineInt.maximum) (inTime : now < offer.expiresAt) :
    Agreed offer terms := by
  subst written
  exact ⟨rfl, rfl, rfl, rfl, rfl, rfl, rfl, rfl, rfl, rfl, fits, inTime, rfl⟩

namespace Negotiated

theorem open_row (own : Negotiated offer proposals ending) (live : offer.isActionable = true) :
    ending = none ∧ offer.accepted = none ∧ offer.convertedOrderId = none ∧
      offer.revision = proposals.length := by
  have label : offer.state = .pending ∨ offer.state = .countered := by
    simpa [OfferRow.isActionable] using live
  have stands := own.state
  cases ending with
  | none =>
      obtain ⟨unsold, unmade, ⟨-, revision⟩ | ⟨expired, -⟩⟩ := stands
      · exact ⟨rfl, unsold, unmade, revision⟩
      · rw [expired] at label
        exact absurd label (by decide)
  | some entry =>
      rw [Option.map_some] at stands
      cases moved : entry.move with
      | created => rw [moved] at stands; exact stands.elim
      | countered => rw [moved] at stands; exact stands.elim
      | accepted =>
          rw [moved] at stands
          obtain ⟨terms, -, -, ⟨state, -⟩ | ⟨state, -⟩ | ⟨state, -⟩⟩ := stands <;>
            rw [state] at label <;> exact absurd label (by decide)
      | rejected =>
          rw [moved] at stands
          rw [stands.2.2.1] at label
          exact absurd label (by decide)
      | withdrawn =>
          rw [moved] at stands
          rw [stands.2.2.1] at label
          exact absurd label (by decide)

theorem sold_row (own : Negotiated offer proposals ending)
    (sold : offer.state = .accepted ∨ offer.state = .converted) :
    ∃ entry terms, ending = some entry ∧ entry.move = .accepted ∧ offer.accepted = some terms ∧
      Agreed offer terms ∧
      (offer.state = .accepted ∧ offer.revision = proposals.length + 1 ∧
          offer.convertedOrderId = none ∨
        offer.state = .converted ∧ offer.convertedOrderId.isSome = true) := by
  have stands := own.state
  cases ending with
  | none =>
      obtain ⟨-, -, ⟨state, -⟩ | ⟨state, -⟩⟩ := stands
      · rw [state] at sold
        split at sold <;> exact absurd sold (by decide)
      · rw [state] at sold
        exact absurd sold (by decide)
  | some entry =>
      rw [Option.map_some] at stands
      cases moved : entry.move with
      | created => rw [moved] at stands; exact stands.elim
      | countered => rw [moved] at stands; exact stands.elim
      | accepted =>
          rw [moved] at stands
          obtain ⟨terms, stored, agreed, ⟨state, revision, unmade⟩ | ⟨state, -, made, -⟩ |
            ⟨state, -⟩⟩ := stands
          · exact ⟨entry, terms, rfl, moved, stored, agreed, .inl ⟨state, revision, unmade⟩⟩
          · exact ⟨entry, terms, rfl, moved, stored, agreed, .inr ⟨state, made⟩⟩
          · rw [state] at sold
            exact absurd sold (by decide)
      | rejected =>
          rw [moved] at stands
          rw [stands.2.2.1] at sold
          exact absurd sold (by decide)
      | withdrawn =>
          rw [moved] at stands
          rw [stands.2.2.1] at sold
          exact absurd sold (by decide)

theorem accepted_row (own : Negotiated offer proposals ending) (label : offer.state = .accepted) :
    ∃ entry terms, ending = some entry ∧ entry.move = .accepted ∧ offer.accepted = some terms ∧
      Agreed offer terms ∧ offer.revision = proposals.length + 1 ∧
      offer.convertedOrderId = none := by
  obtain ⟨entry, terms, ended, moved, stored, agreed, ⟨-, rest⟩ | ⟨state, -⟩⟩ :=
    own.sold_row (.inl label)
  · exact ⟨entry, terms, ended, moved, stored, agreed, rest⟩
  · rw [label] at state
    cases state

theorem author (own : Negotiated offer proposals ending) :
    0 < proposals.length ∧ offer.offeredBy =
      if (proposals.length - 1) % 2 = 0 then offer.buyerPubky else offer.sellerPubky := by
  obtain ⟨last, listed, actor, -⟩ := own.stands
  have some_proposal : proposals ≠ [] := by
    rintro rfl
    cases listed
  have last_turn := own.turns (proposals.length - 1) last
      (by rw [← List.getLast?_eq_getElem?, listed])
  exact ⟨List.length_pos_iff.mpr some_proposal, actor.symm.trans last_turn.actor⟩

theorem respondent (own : Negotiated offer proposals ending)
    (participant : actor = offer.buyerPubky ∨ actor = offer.sellerPubky)
    (other : actor ≠ offer.offeredBy) : actor = otherParticipant offer offer.offeredBy := by
  have author := own.author.2
  unfold otherParticipant
  have apart := own.apart
  split at author <;> rcases participant with rfl | rfl <;> simp_all [Ne.symm apart]

/-- They propose in turn. -/
theorem next_author (own : Negotiated offer proposals ending)
    (participant : actor = offer.buyerPubky ∨ actor = offer.sellerPubky)
    (other : actor ≠ offer.offeredBy) :
    actor = if proposals.length % 2 = 0 then offer.buyerPubky else offer.sellerPubky := by
  obtain ⟨some_proposal, author⟩ := own.author
  rw [own.respondent participant other, otherParticipant, author]
  by_cases even : proposals.length % 2 = 0
  · have before : (proposals.length - 1) % 2 ≠ 0 := by omega
    rw [if_neg before, if_pos rfl, if_pos even]
  · have before : (proposals.length - 1) % 2 = 0 := by omega
    rw [if_pos before, if_neg own.apart, if_neg even]

theorem countered (own : Negotiated offer proposals ending) {terms : OfferTerms}
    {refreshed : Option (AwardListingSnapshot × String)}
    (answers : Answers offer actor now) (other : actor ≠ offer.offeredBy)
    (currency : terms.amount.currency = offer.amount.currency)
    (exponent : terms.amount.exponent = offer.amount.exponent) :
    Negotiated (offer.countered actor terms refreshed now)
      (proposals ++ [⟨offer.revision + 1, actor, .countered, terms.amount, terms.quantity,
        terms.message, now⟩]) none := by
  obtain ⟨rfl, unsold, unmade, revision⟩ := own.open_row answers.live
  have history : offer.history = proposals := by simpa using own.history
  have some_proposal := own.author.1
  refine ⟨own.apart, by simp [OfferRow.countered, history], ?_, ?_, nofun, ?_⟩
  · intro index entry listed
    by_cases inside : index < proposals.length
    · rw [List.getElem?_append_left inside] at listed
      have old := own.turns index entry listed
      exact ⟨old.revision, old.move, old.actor, old.currency.trans currency.symm,
        old.exponent.trans exponent.symm⟩
    · rw [List.getElem?_append_right (Nat.le_of_not_lt inside)] at listed
      obtain ⟨first, rfl⟩ := List.getElem?_eq_some_iff.mp listed
      have last : index = proposals.length := by
        rw [List.length_singleton] at first
        omega
      subst last
      have later : proposals.length ≠ 0 := some_proposal.ne'
      refine ⟨by simp [revision], by simp [later], ?_, by simp [OfferRow.countered],
        by simp [OfferRow.countered]⟩
      simp only [Nat.sub_self, List.getElem_cons_zero]
      exact own.next_author answers.participant other
  · exact ⟨_, List.getLast?_concat .., rfl, rfl, rfl, rfl⟩
  · have several : proposals.length + 1 ≠ 1 := by omega
    refine ⟨unsold, unmade, .inl ⟨?_, ?_⟩⟩
    · rw [List.length_append, List.length_singleton, if_neg several]
      rfl
    · simp [OfferRow.countered, revision]

/-- The entry that ends a negotiation. -/
theorem finished (own : Negotiated offer proposals ending)
    (answers : Answers offer actor now) (state : OfferState) (move : OfferMove)
    (accepted : Option AcceptedTerms)
    (answered : actor = if move = .withdrawn then offer.offeredBy
      else otherParticipant offer offer.offeredBy)
    (stands : OfferRow.StandsAfter
      { offer.finished actor state move now with accepted := accepted } proposals.length
        (some move)) :
    Negotiated { offer.finished actor state move now with accepted := accepted } proposals
      (some (offer.finishEntry actor move now)) := by
  obtain ⟨rfl, -, -, revision⟩ := own.open_row answers.live
  have history : offer.history = proposals := by simpa using own.history
  refine ⟨own.apart, by simp [OfferRow.finished, history], ?_, own.stands, ?_, stands⟩
  · intro index entry listed
    have old := own.turns index entry listed
    exact ⟨old.revision, old.move, old.actor, old.currency, old.exponent⟩
  · intro entry ended
    obtain rfl := Option.mem_some.mp ended
    exact ⟨by simp [OfferRow.finishEntry, revision], rfl, rfl, answered⟩

theorem moved (own : Negotiated offer proposals ending)
    {state : OfferState} {order : Option OrderId} {reason : Option ExpiryReason}
    (stands : OfferRow.StandsAfter
      { offer with
        revision := offer.revision + 1
        state := state
        convertedOrderId := order
        expiryReason := reason
        updatedAt := now } proposals.length (ending.map HistoryEntry.move)) :
    Negotiated
      { offer with
        revision := offer.revision + 1
        state := state
        convertedOrderId := order
        expiryReason := reason
        updatedAt := now } proposals ending where
  apart := own.apart
  history := own.history
  turns index entry listed :=
    have old := own.turns index entry listed
    ⟨old.revision, old.move, old.actor, old.currency, old.exponent⟩
  stands := own.stands
  ended := own.ended
  state := stands

end Negotiated

theorem turn_negotiated {action : Option Action} {row : OfferRow}
    (turn : OfferTurn now offer action row) (own : Negotiated offer proposals ending) :
    ∃ proposals ending, Negotiated row proposals ending := by
  cases turn with
  | countered answers other currency exponent =>
      exact ⟨_, _, own.countered answers other currency exponent⟩
  | @awarded actor _ _ _ _ terms _ answers other written fits =>
      obtain ⟨-, -, unmade, revision⟩ := own.open_row answers.live
      have agreed := acceptedTerms_agreed written fits answers.unexpired
      exact ⟨_, _, own.finished answers .accepted .accepted (some terms)
        (own.respondent answers.participant other)
        ⟨terms, rfl, { agreed with }, .inl ⟨rfl, congrArg (· + 1) revision, unmade⟩⟩⟩
  | rejected answers other =>
      obtain ⟨-, unsold, unmade, revision⟩ := own.open_row answers.live
      exact ⟨_, _, own.finished answers .rejected .rejected offer.accepted
        (own.respondent answers.participant other)
        ⟨unsold, unmade, rfl, congrArg (· + 1) revision⟩⟩
  | withdrawn answers =>
      obtain ⟨-, unsold, unmade, revision⟩ := own.open_row answers.live
      exact ⟨_, _, own.finished answers .withdrawn .withdrawn offer.accepted rfl
        ⟨unsold, unmade, rfl, congrArg (· + 1) revision⟩⟩
  | lapsed live due =>
      obtain ⟨rfl, unsold, unmade, revision⟩ := own.open_row live
      have stands : (offer.expired .negotiationWindow now).StandsAfter proposals.length none :=
        ⟨unsold, unmade, .inr ⟨rfl, rfl, congrArg (· + 1) revision, due⟩⟩
      exact ⟨_, _, own.moved stands⟩
  | awardLapsed accepted stored due =>
      obtain ⟨entry, terms, rfl, move, columns, agreed, revision, unmade⟩ :=
        own.accepted_row accepted
      obtain rfl := Option.some.inj (stored.symm.trans columns)
      have stands : (offer.expired .awardWindow now).StandsAfter proposals.length
          (some .accepted) :=
        ⟨_, stored, { agreed with },
          .inr (.inr ⟨rfl, rfl, congrArg (· + 1) revision, unmade, due⟩)⟩
      rw [← move] at stands
      exact ⟨_, _, own.moved stands⟩
  | @converted _ order _ _ accepted stored unexpired =>
      obtain ⟨entry, terms, rfl, move, columns, agreed, revision, -⟩ := own.accepted_row accepted
      obtain rfl := Option.some.inj (stored.symm.trans columns)
      have stands : (offer.converted order now).StandsAfter proposals.length (some .accepted) :=
        ⟨_, stored, { agreed with },
          .inr (.inl ⟨rfl, congrArg (· + 1) revision, rfl, unexpired⟩)⟩
      rw [← move] at stands
      exact ⟨_, _, own.moved stands⟩

end Histories

/-! The desks that are reached. -/

section Runs

variable {references : References} {allowed : OfferDesk → DeskAction → Prop} {desk : OfferDesk}

theorem desk_marketplace (reached : Runs.Reachable (offerDesk references) allowed desk) :
    Runs.Reachable (marketplace references) Runs.anyStep desk.sys := by
  induction reached with
  | start init =>
      rw [show _ = emptyDesk from init]
      exact .start rfl
  | next _ _ stepped prior =>
      cases desk_step stepped with
      | service _ ran => exact .next prior trivial ran
      | kept sys => exact sys ▸ prior
      | opened sys => exact sys ▸ prior
      | @turned _ _ _ action _ _ ran =>
          cases action with
          | none => exact Eq.mpr (congrArg _ ran) prior
          | some action => exact .next prior trivial ran

def DeskLaw (desk : OfferDesk) : Prop :=
  ∀ id offer, desk.offers.find? id = some offer →
    ∃ proposals ending, Negotiated offer proposals ending

theorem DeskLaw.step {after : OfferDesk} (law : DeskLaw desk)
    (move : DeskMove references desk after) : DeskLaw after := by
  intro key row present
  cases move with
  | service _ _ offers => exact law key row (offers ▸ present)
  | kept _ offers => exact law key row (offers ▸ present)
  | opened _ _ apart offers =>
      rw [offers, Keyed.Table.find?_set] at present
      split at present
      · cases present
        exact ⟨_, _, newOffer_negotiated apart⟩
      · exact law key row present
  | turned found turn _ offers =>
      rw [offers, Keyed.Table.find?_set] at present
      split at present
      · cases present
        obtain ⟨proposals, ending, own⟩ := law _ _ found
        exact turn_negotiated turn own
      · exact law key row present

theorem reachable_deskLaw (reached : Runs.Reachable (offerDesk references) allowed desk) :
    DeskLaw desk := by
  refine Runs.invariant (offerDesk references) allowed DeskLaw ?_ ?_ reached
  · intro empty init id offer found
    rw [show empty = emptyDesk from init] at found
    cases found
  · exact fun _ _ _ law _ stepped => law.step (desk_step stepped)

/-- Each offer of a reached desk was negotiated in turns. -/
theorem offer_negotiated {id : OfferId} {offer : OfferRow}
    (reached : Runs.Reachable (offerDesk references) allowed desk)
    (found : desk.offers.find? id = some offer) :
    ∃ proposals ending, Negotiated offer proposals ending :=
  reachable_deskLaw reached id offer found

theorem accepted_lamp_negotiated :
    ∃ desk, Runs.Reachable (offerDesk sampleReferences) Runs.anyStep desk ∧
      ∃ offer ∈ desk.offers.find? 1, offer.state = .accepted ∧
        ∃ proposals ending, Negotiated offer proposals ending := by
  obtain ⟨desk, reached, offer, found, accepted⟩ :=
    Runs.exists_reachable_of_run (offerDesk sampleReferences) rfl (negotiatedLamp ++ acceptedLamp)
      (fun desk => ∃ offer ∈ desk.offers.find? 1, offer.state = .accepted)
      (Runs.meets_anyStep _ _ _) (by decide +kernel)
  exact ⟨desk, reached, offer, found, accepted, offer_negotiated reached found⟩

/-! The versions of a row. -/

def OfferRow.isSettled (offer : OfferRow) : Bool :=
  !offer.isActionable && offer.state != .accepted

/-- A later version of an offer row. -/
structure Succeeds (offer row : OfferRow) : Prop where
  identity : (row.aggregateId, row.listing, row.buyerPubky, row.sellerPubky, row.createdAt) =
    (offer.aggregateId, offer.listing, offer.buyerPubky, offer.sellerPubky, offer.createdAt)
  history : offer.history <+: row.history
  revision : row = offer ∨ offer.revision < row.revision
  settled : offer.isSettled = true → row = offer
  agreed : ∀ terms, offer.accepted = some terms →
    row.accepted = some terms ∧ row.history = offer.history ∧ row.amount = offer.amount ∧
      row.quantity = offer.quantity

theorem Succeeds.refl (offer : OfferRow) : Succeeds offer offer :=
  ⟨rfl, List.prefix_rfl, .inl rfl, fun _ => rfl, fun _ stored => ⟨stored, rfl, rfl, rfl⟩⟩

theorem Succeeds.trans {offer middle row : OfferRow} (first : Succeeds offer middle)
    (second : Succeeds middle row) : Succeeds offer row where
  identity := second.identity.trans first.identity
  history := first.history.trans second.history
  revision := by
    rcases first.revision with rfl | earlier
    · exact second.revision
    · rcases second.revision with rfl | later
      · exact .inr earlier
      · exact .inr (earlier.trans later)
  settled ends := by
    have same := first.settled ends
    subst same
    exact second.settled ends
  agreed terms stored := by
    obtain ⟨kept, history, amount, quantity⟩ := first.agreed terms stored
    obtain ⟨last, histories, amounts, quantities⟩ := second.agreed terms kept
    exact ⟨last, histories.trans history, amounts.trans amount, quantities.trans quantity⟩

/-- The turns of a row that may be answered write no agreed terms. -/
theorem Succeeds.of_open {offer row : OfferRow} {proposals : List HistoryEntry}
    {ending : Option HistoryEntry} (own : Negotiated offer proposals ending)
    (live : offer.isActionable = true)
    (identity : (row.aggregateId, row.listing, row.buyerPubky, row.sellerPubky, row.createdAt) =
      (offer.aggregateId, offer.listing, offer.buyerPubky, offer.sellerPubky, offer.createdAt))
    (history : offer.history <+: row.history) (revision : row.revision = offer.revision + 1) :
    Succeeds offer row where
  identity := identity
  history := history
  revision := .inr (by omega)
  settled ends := by simp [OfferRow.isSettled, live] at ends
  agreed terms stored := by
    rw [(own.open_row live).2.1] at stored
    cases stored

theorem turn_succeeds {offer row : OfferRow} {proposals : List HistoryEntry}
    {ending : Option HistoryEntry} {now : Time} {action : Option Action}
    (own : Negotiated offer proposals ending) (turn : OfferTurn now offer action row) :
    Succeeds offer row := by
  cases turn with
  | countered answers => exact .of_open own answers.live rfl (List.prefix_append ..) rfl
  | awarded answers => exact .of_open own answers.live rfl (List.prefix_append ..) rfl
  | rejected answers => exact .of_open own answers.live rfl (List.prefix_append ..) rfl
  | withdrawn answers => exact .of_open own answers.live rfl (List.prefix_append ..) rfl
  | lapsed live => exact .of_open own live rfl List.prefix_rfl rfl
  | awardLapsed label =>
      refine ⟨rfl, List.prefix_rfl, .inr (Nat.lt_succ_self _), ?_, fun _ stored =>
        ⟨stored, rfl, rfl, rfl⟩⟩
      intro ends
      simp [OfferRow.isSettled, label] at ends
  | converted label =>
      refine ⟨rfl, List.prefix_rfl, .inr (Nat.lt_succ_self _), ?_, fun _ stored =>
        ⟨stored, rfl, rfl, rfl⟩⟩
      intro ends
      simp [OfferRow.isSettled, label] at ends

theorem DeskMove.succeeds {after : OfferDesk} {id : OfferId} {offer : OfferRow}
    (law : DeskLaw desk) (move : DeskMove references desk after)
    (found : desk.offers.find? id = some offer) :
    ∃ row, after.offers.find? id = some row ∧ Succeeds offer row := by
  cases move with
  | service _ _ offers => exact ⟨offer, offers ▸ found, .refl offer⟩
  | kept _ offers => exact ⟨offer, offers ▸ found, .refl offer⟩
  | @opened key _ _ _ _ _ _ _ fresh _ offers =>
      have other : id ≠ key := by
        rintro rfl
        rw [found] at fresh
        cases fresh
      exact ⟨offer, by rw [offers, Keyed.Table.find?_set_ne _ _ other, found], .refl offer⟩
  | @turned key before row _ stored turn _ offers =>
      by_cases same : id = key
      · subst same
        obtain rfl := Option.some.inj (found.symm.trans stored)
        obtain ⟨proposals, ending, own⟩ := law _ _ found
        exact ⟨row, by rw [offers, Keyed.Table.find?_set_self], turn_succeeds own turn⟩
      · exact ⟨offer, by rw [offers, Keyed.Table.find?_set_ne _ _ same, found], .refl offer⟩

/-- An offer keeps its identity and its agreed terms, its history only grows, its revision
tells its versions apart, and a settled offer stays as it is. -/
theorem offer_succeeds {after : OfferDesk} {labels : List DeskAction} {id : OfferId}
    {offer : OfferRow} (reached : Runs.Reachable (offerDesk references) Runs.anyStep desk)
    (ran : Runs.run (offerDesk references) desk labels = some after)
    (found : desk.offers.find? id = some offer) :
    ∃ row, after.offers.find? id = some row ∧ Succeeds offer row := by
  refine @Runs.kept_by_run _ _ (offerDesk references) Runs.anyStep
    (fun after => ∃ row, after.offers.find? id = some row ∧ Succeeds offer row) ?_ labels desk after
    reached ⟨offer, found, .refl offer⟩ (Runs.meets_anyStep ..) ran
  rintro before label next prior ⟨row, present, earlier⟩ - stepped
  obtain ⟨last, stored, later⟩ :=
    (desk_step stepped).succeeds (reachable_deskLaw prior) present
  exact ⟨last, stored, earlier.trans later⟩

theorem accepted_lamp_succeeds :
    ∃ desk, Runs.Reachable (offerDesk sampleReferences) Runs.anyStep desk ∧
      ∃ offer ∈ desk.offers.find? 1, offer.state = .countered ∧
        ∃ after ∈ Runs.run (offerDesk sampleReferences) desk acceptedLamp,
          ∃ row, after.offers.find? 1 = some row ∧ Succeeds offer row := by
  obtain ⟨desk, reached, offer, found, countered, after, ran⟩ :=
    Runs.exists_reachable_of_run (offerDesk sampleReferences) rfl negotiatedLamp
      (fun desk => ∃ offer ∈ desk.offers.find? 1, offer.state = .countered ∧
        ∃ after ∈ Runs.run (offerDesk sampleReferences) desk acceptedLamp, True)
      (Runs.meets_anyStep _ _ _) (by decide +kernel)
  exact ⟨desk, reached, offer, found, countered, after, ran.1, offer_succeeds reached ran.1 found⟩

end Runs

end MarketplaceService
