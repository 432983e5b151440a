import MarketplaceService.AuctionOrders
import MarketplaceService.OfferNegotiation

/-!
The units of an accepted offer over whole runs. An acceptance reserves them under
an id no reservation has, and while no auction order of the buyer on that listing
exists, the reservation is active as long as the award is, converted by its
checkout and expired with it. A converted offer has one order of its own, for the
agreed terms.
-/

namespace MarketplaceService

def Award.claim (award : Award) : Claim :=
  { listing := award.listing
    buyerPubky := award.buyerPubky
    quantity := award.quantity
    dropAggregateId := none
    offerAwardId := some award.id }

/-- What a step of the service does to a reservation. -/
inductive HoldTurn (sys : Sys) (id : ReservationId) (row : Reservation) :
    Action → Reservation → Prop
  | kept {action : Action} : HoldTurn sys id row action row
  | auctioned {order : OrderId} {now : Time} {step : OrderAction} {cell : Cell}
      {after : Reservation}
      (found : sys.cells.find? order = some cell) (own : cell.book.order.terms.reserves row)
      (claim : after.claim = row.claim) : HoldTurn sys id row (.order order now step) after
  | lapsed (unowned : row.offerAwardId = none) :
      HoldTurn sys id row (.expireReservation id) { row with status := .expired }
  | converted {award : Award} {order : OrderId} {fulfillment : Fulfillment} {window : ℕ}
      (named : id = award.reservationId) (owned : row.offerAwardId = some award.id)
      (live : row.status = .active) :
      HoldTurn sys id row (.offerCheckout award order fulfillment window)
        { row with status := .converted }
  | awardLapsed {award : Award} (named : id = award.reservationId)
      (owned : row.offerAwardId = some award.id) (live : row.status = .active) :
      HoldTurn sys id row (.expireAward award) { row with status := .expired }

section Holds

variable {references : References} {inventory after : Inventory} {award : Award} {now : Time}

theorem restockReservation_reservations {reservation : Reservation} {state : Listing → ListingState}
    (restocked : restockReservation inventory reservation state = .ok after) :
    after.reservations = inventory.reservations := by
  obtain ⟨listing, enough, -, rfl⟩ := restockReservation_ok restocked
  rfl

theorem expireDueAward_lapses (expired : expireDueAward inventory award = .ok after) :
    ∃ row, inventory.reservations.find? award.reservationId = some row ∧ row.status = .active ∧
      row.offerAwardId = some award.id ∧
      after.reservations = inventory.reservations.set award.reservationId
        { row with status := .expired } := by
  obtain ⟨row, found, live, owned, -, -, restocked⟩ := expireDueAward_ok expired
  exact ⟨row, found, live, owned, restockReservation_reservations restocked⟩

structure Award.Sells (award : Award) (id : OrderId) (now : Time) (sold : Terms) : Prop where
  id : sold.id = id
  auction : sold.auction = none
  drop : sold.drop = none
  buyer : sold.buyer = award.buyerPubky
  seller : sold.seller = award.sellerPubky
  lines : sold.lines.map (fun line => (line.listing, line.quantity)) =
    [(award.listing, award.quantity)]
  total : sold.totalMinor =
    award.subtotalMinor + if sold.fulfillment = .pickup then 0 else award.shippingMinor
  currency : sold.currency = award.currency
  exponent : sold.exponent = award.exponent
  fulfillment : sold.fulfillment ∈ award.fulfillmentMethods
  createdAt : sold.createdAt = now

theorem offerCheckout_sells {id : OrderId} {fulfillment : Fulfillment} {window : ℕ}
    {book : OrderBook}
    (created : offerCheckout inventory award id fulfillment window now = .ok (book, after)) :
    ∃ row, inventory.reservations.find? award.reservationId = some row ∧ row.status = .active ∧
      row.offerAwardId = some award.id ∧ award.Sells id now book.order.terms ∧
      after.reservations = inventory.reservations.set award.reservationId
        { row with status := .converted } := by
  cases offerCheckout_ok created with
  | intro found live _ _ _ _ _ quantity owned _ offered =>
      refine ⟨_, found, live, owned, ?_, rfl⟩
      constructor
      · rfl
      · rfl
      · rfl
      · rfl
      · rfl
      · exact congrArg (fun units => [(award.listing, units)]) quantity
      · change (if fulfillment = .pickup then _ else _) =
          _ + if fulfillment = .pickup then _ else _
        split <;> rfl
      · rfl
      · rfl
      · exact offered
      · rfl

theorem acceptOffer_reserves (accepted : acceptOffer inventory award now = .ok after) :
    inventory.reservations.find? award.reservationId = none ∧
      after.reservations = inventory.reservations.set award.reservationId
        { listing := award.listing
          buyerPubky := award.buyerPubky
          quantity := award.quantity
          status := .active
          expiresAt := now + acceptedOfferHoldSeconds
          dropAggregateId := none
          offerAwardId := some award.id } := by
  obtain ⟨listing, held, -, -, -, inserted⟩ := acceptOffer_ok accepted
  obtain ⟨free, rfl⟩ := insertReservation_ok inserted
  exact ⟨free, rfl⟩

theorem expireDueReservation_hold {key id : ReservationId} {row : Reservation}
    (expired : expireDueReservation inventory key now = .ok after)
    (found : inventory.reservations.find? id = some row) :
    after.reservations.find? id = some row ∨
      id = key ∧ row.offerAwardId = none ∧
        after.reservations.find? id = some { row with status := .expired } := by
  cases expireDueReservation_ok expired with
  | kept => exact .inl found
  | lapsed stored _ _ unoffered _ _ same restocked =>
      have written := (restockReservation_reservations restocked).trans same.2
      rw [written, Keyed.Table.find?_set]
      by_cases named : id = key
      · subst named
        obtain rfl := Option.some.inj (found.symm.trans stored)
        exact .inr ⟨rfl, unoffered, if_pos rfl⟩
      · exact .inl ((if_neg named).trans found)

end Holds

theorem step_hold {references : References} {sys after : Sys} {action : Action}
    {id : ReservationId} {row : Reservation}
    (sound : ∀ id cell, sys.cells.find? id = some cell → Sound cell)
    (stepped : sys.step references action = some after)
    (found : sys.inventory.reservations.find? id = some row) :
    ∃ done, after.inventory.reservations.find? id = some done ∧
      HoldTurn sys id row action done := by
  have leaves := step_leaves sound stepped
  have kept (free : ¬ action.ends sys id row) :
      ∃ done, after.inventory.reservations.find? id = some done ∧
        HoldTurn sys id row action done :=
    ⟨row, leaves.holds id row found free, .kept⟩
  cases action with
  | order key now step =>
      obtain ⟨cell, present, -⟩ := Option.bind_eq_some_iff.mp stepped
      obtain ⟨done, -, ran⟩ := order_step present stepped
      have frames := ((stepCell_steps (sound key cell present) ran).soldOn
        (sound key cell present)).frames
      by_cases own : cell.book.order.terms.reserves row
      · have claim := frames.claims id
        rw [Inventory.claim, Inventory.claim, found, Option.map_some] at claim
        obtain ⟨last, stored, same⟩ := Option.map_eq_some_iff.mp claim
        exact ⟨last, stored, .auctioned present own same⟩
      · exact ⟨row, frames.reservations id row found own, .kept⟩
  | offerCheckout award order fulfillment window =>
      obtain ⟨⟨book, inventory⟩, created, inserted⟩ := Option.bind_eq_some_iff.mp stepped
      obtain ⟨held, stored, live, owned, -, written⟩ :=
        offerCheckout_sells (Outcome.toOption_some created)
      rw [insert_inventory inserted, written, Keyed.Table.find?_set]
      by_cases named : id = award.reservationId
      · subst named
        obtain rfl := Option.some.inj (found.symm.trans stored)
        exact ⟨_, if_pos rfl, .converted rfl owned live⟩
      · exact ⟨row, (if_neg named).trans found, .kept⟩
  | expireAward award =>
      obtain ⟨inventory, expired, rfl⟩ := Option.map_eq_some_iff.mp stepped
      obtain ⟨held, stored, live, owned, written⟩ :=
        expireDueAward_lapses (Outcome.toOption_some expired)
      change ∃ done, inventory.reservations.find? id = some done ∧ _
      rw [written, Keyed.Table.find?_set]
      by_cases named : id = award.reservationId
      · subst named
        obtain rfl := Option.some.inj (found.symm.trans stored)
        exact ⟨_, if_pos rfl, .awardLapsed rfl owned live⟩
      · exact ⟨row, (if_neg named).trans found, .kept⟩
  | expireReservation key =>
      obtain ⟨-, stepped⟩ := Option.ite_none_left_eq_some.mp stepped
      obtain ⟨inventory, expired, rfl⟩ := Option.map_eq_some_iff.mp stepped
      rcases expireDueReservation_hold (Outcome.toOption_some expired) found with
        same | ⟨rfl, unowned, lapsed⟩
      · exact ⟨row, same, .kept⟩
      · exact ⟨_, lapsed, .lapsed unowned⟩
  | _ => exact kept not_false

/-! The awards of a desk. -/

/-- An auction order of the offer's buyer on its listing, whose steps write every
reservation the buyer has there. -/
def AuctionRival (sys : Sys) (offer : OfferRow) : Prop :=
  ∃ id cell, sys.cells.find? id = some cell ∧
    cell.book.order.auctionAggregateId = some offer.listing ∧
    cell.book.order.buyerPubky = offer.buyerPubky

def OfferRow.hold (offer : OfferRow) (terms : AcceptedTerms) : Reservation :=
  { listing := offer.listing
    buyerPubky := offer.buyerPubky
    quantity := offer.quantity
    status :=
      match offer.state with
      | .accepted => .active
      | .converted => .converted
      | _ => .expired
    expiresAt := terms.awardExpiresAt
    dropAggregateId := none
    offerAwardId := some terms.award.id }

structure AwardHeld (sys : Sys) (offer : OfferRow) (terms : AcceptedTerms) : Prop where
  claim : sys.inventory.claim terms.award.reservationId = some terms.award.claim
  held : ¬ AuctionRival sys offer →
    sys.inventory.reservations.find? terms.award.reservationId = some (offer.hold terms)

def OrderPlaced (sys : Sys) (terms : AcceptedTerms) (order : OrderId) : Prop :=
  ∃ cell now, sys.cells.find? order = some cell ∧ now < terms.awardExpiresAt ∧
    terms.award.Sells order now cell.book.order.terms

def Action.endsAward : Action → Option ReservationId
  | .offerCheckout award .. | .expireAward award => some award.reservationId
  | _ => none

inductive AwardTurn (now : Time) (offer row : OfferRow) : Option Action → Prop
  | unsold (accepted : row.accepted = none) (unmade : row.convertedOrderId = none) :
      AwardTurn now offer row none
  | accepted {terms : AcceptedTerms} {readAt : Time} (stored : row.accepted = some terms)
      (unmade : row.convertedOrderId = none) (claim : terms.award.claim = (row.hold terms).claim)
      (live : (row.hold terms).status = .active)
      (window : terms.awardExpiresAt = readAt + acceptedOfferHoldSeconds) :
      AwardTurn now offer row (some (.acceptOffer terms.award readAt))
  | expired {terms : AcceptedTerms} (before : offer.accepted = some terms)
      (stored : row.accepted = some terms) (unmade : row.convertedOrderId = none)
      (hold : row.hold terms = { offer.hold terms with status := .expired }) :
      AwardTurn now offer row (some (.expireAward terms.award))
  | placed {terms : AcceptedTerms} {order : OrderId} {fulfillment : Fulfillment} {window : ℕ}
      (before : offer.accepted = some terms) (stored : row.accepted = some terms)
      (made : row.convertedOrderId = some order)
      (hold : row.hold terms = { offer.hold terms with status := .converted })
      (unexpired : now < terms.awardExpiresAt) :
      AwardTurn now offer row (some (.offerCheckout terms.award order fulfillment window))

section Awards

variable {references : References} {sys after : Sys} {action : Action} {offer row : OfferRow}
  {terms : AcceptedTerms} {now : Time}

theorem turn_award {proposals : List HistoryEntry} {ending : Option HistoryEntry}
    {action : Option Action} (own : Negotiated offer proposals ending)
    (turn : OfferTurn now offer action row) :
    AwardTurn now offer row action ∧ row.listing = offer.listing ∧
      row.buyerPubky = offer.buyerPubky := by
  cases turn with
  | countered answers =>
      obtain ⟨-, unsold, unmade, -⟩ := own.open_row answers.live
      exact ⟨.unsold unsold unmade, rfl, rfl⟩
  | awarded answers _ written =>
      obtain ⟨-, -, unmade, -⟩ := own.open_row answers.live
      subst written
      exact ⟨.accepted rfl unmade rfl rfl rfl, rfl, rfl⟩
  | rejected answers =>
      obtain ⟨-, unsold, unmade, -⟩ := own.open_row answers.live
      exact ⟨.unsold unsold unmade, rfl, rfl⟩
  | withdrawn answers =>
      obtain ⟨-, unsold, unmade, -⟩ := own.open_row answers.live
      exact ⟨.unsold unsold unmade, rfl, rfl⟩
  | lapsed live =>
      obtain ⟨-, unsold, unmade, -⟩ := own.open_row live
      exact ⟨.unsold unsold unmade, rfl, rfl⟩
  | awardLapsed label stored =>
      obtain ⟨-, -, -, -, -, -, -, unmade⟩ := own.accepted_row label
      exact ⟨.expired stored stored unmade rfl, rfl, rfl⟩
  | converted _ stored unexpired =>
      exact ⟨.placed stored stored rfl rfl unexpired, rfl, rfl⟩

theorem AuctionRival.step (sound : ∀ id cell, sys.cells.find? id = some cell → Sound cell)
    (stepped : sys.step references action = some after) (rival : AuctionRival sys offer) :
    AuctionRival after offer := by
  obtain ⟨id, cell, found, auction, buyer⟩ := rival
  obtain ⟨done, present, -⟩ := step_keeps stepped found
  have same := step_terms sound stepped found present
  exact ⟨id, done, present, (congrArg Terms.auction same).trans auction,
    (congrArg Terms.buyer same).trans buyer⟩

theorem AwardHeld.beside (sound : ∀ id cell, sys.cells.find? id = some cell → Sound cell)
    (stepped : sys.step references action = some after) (award : AwardHeld sys offer terms)
    (apart : action.endsAward ≠ some terms.award.reservationId) : AwardHeld after offer terms := by
  obtain ⟨row, found, claim⟩ := Option.map_eq_some_iff.mp award.claim
  obtain ⟨done, present, turn⟩ := step_hold sound stepped found
  have same : done.claim = row.claim := by
    cases turn with
    | auctioned _ _ claim => exact claim
    | _ => rfl
  refine ⟨?_, fun alone => ?_⟩
  · rw [Inventory.claim, present, Option.map_some, same, claim]
  · have unrivalled : ¬ AuctionRival sys offer := fun rival => alone (rival.step sound stepped)
    obtain rfl := Option.some.inj (found.symm.trans (award.held unrivalled))
    rw [present]
    cases turn with
    | kept => rfl
    | auctioned stored own => exact absurd ⟨_, _, stored, own.1, own.2⟩ unrivalled
    | lapsed unowned => cases unowned
    | converted named => exact absurd (congrArg some named.symm) apart
    | awardLapsed named => exact absurd (congrArg some named.symm) apart

theorem OrderPlaced.step {order : OrderId}
    (sound : ∀ id cell, sys.cells.find? id = some cell → Sound cell)
    (stepped : sys.step references action = some after) (placed : OrderPlaced sys terms order) :
    OrderPlaced after terms order := by
  obtain ⟨cell, now, found, unexpired, sells⟩ := placed
  obtain ⟨done, present, -⟩ := step_keeps stepped found
  exact ⟨done, now, present, unexpired, (step_terms sound stepped found present).symm ▸ sells⟩

theorem AwardHeld.of_accepted
    (claim : terms.award.claim = (row.hold terms).claim) (live : (row.hold terms).status = .active)
    (window : terms.awardExpiresAt = now + acceptedOfferHoldSeconds)
    (stepped : sys.step references (.acceptOffer terms.award now) = some after) :
    sys.inventory.claim terms.award.reservationId = none ∧ AwardHeld after row terms := by
  obtain ⟨-, stepped⟩ := Option.ite_none_left_eq_some.mp stepped
  obtain ⟨inventory, accepted, rfl⟩ := Option.map_eq_some_iff.mp stepped
  obtain ⟨fresh, written⟩ := acceptOffer_reserves (Outcome.toOption_some accepted)
  have held : inventory.reservations.find? terms.award.reservationId = some (row.hold terms) := by
    rw [written, Keyed.Table.find?_set_self]
    simp only [Award.claim, OfferRow.hold, Reservation.claim, Claim.mk.injEq] at claim
    obtain ⟨listing, buyer, quantity, -⟩ := claim
    simp only [OfferRow.hold] at live ⊢
    rw [live, listing, buyer, quantity, window]
  refine ⟨?_, ?_, fun _ => held⟩
  · rw [Inventory.claim, fresh]
    rfl
  · change (inventory.reservations.find? _).map Reservation.claim = _
    rw [held, claim]
    rfl

theorem AwardHeld.of_ended {status : ReservationStatus} {held : Reservation}
    (award : AwardHeld sys offer terms) (rivals : AuctionRival sys offer → AuctionRival after row)
    (hold : row.hold terms = { offer.hold terms with status := status })
    (found : sys.inventory.reservations.find? terms.award.reservationId = some held)
    (written : after.inventory.reservations = sys.inventory.reservations.set
      terms.award.reservationId { held with status := status }) : AwardHeld after row terms := by
  refine ⟨?_, fun alone => ?_⟩
  · have claim := award.claim
    rw [Inventory.claim, found] at claim
    rw [Inventory.claim, written, Keyed.Table.find?_set_self]
    exact claim
  · have before := award.held fun rival => alone (rivals rival)
    obtain rfl := Option.some.inj (found.symm.trans before)
    rw [written, Keyed.Table.find?_set_self, hold]

theorem insert_single {inventory : Inventory} {book : OrderBook}
    (inserted : sys.insert inventory [book] = some after) :
    sys.cells.find? book.order.id = none ∧
      after.cells.find? book.order.id = some (newCell book) := by
  obtain ⟨fresh, written⟩ := Option.ite_none_left_eq_some.mp inserted
  cases written
  exact ⟨by simpa using fresh, Keyed.Table.find?_set_self ..⟩

theorem AwardHeld.expired (sound : ∀ id cell, sys.cells.find? id = some cell → Sound cell)
    (same : row.listing = offer.listing ∧ row.buyerPubky = offer.buyerPubky)
    (award : AwardHeld sys offer terms)
    (hold : row.hold terms = { offer.hold terms with status := .expired })
    (stepped : sys.step references (.expireAward terms.award) = some after) :
    AwardHeld after row terms := by
  have rivals : AuctionRival sys offer → AuctionRival after row := by
    intro rival
    obtain ⟨id, cell, found, auction, buyer⟩ := rival.step sound stepped
    exact ⟨id, cell, found, auction.trans (congrArg some same.1.symm), buyer.trans same.2.symm⟩
  obtain ⟨inventory, expired, rfl⟩ := Option.map_eq_some_iff.mp stepped
  obtain ⟨held, found, -, -, written⟩ := expireDueAward_lapses (Outcome.toOption_some expired)
  exact award.of_ended rivals hold found written

theorem AwardHeld.converted {order : OrderId} {fulfillment : Fulfillment} {window : ℕ}
    (sound : ∀ id cell, sys.cells.find? id = some cell → Sound cell)
    (same : row.listing = offer.listing ∧ row.buyerPubky = offer.buyerPubky)
    (award : AwardHeld sys offer terms)
    (hold : row.hold terms = { offer.hold terms with status := .converted })
    (unexpired : sys.clock < terms.awardExpiresAt)
    (stepped : sys.step references (.offerCheckout terms.award order fulfillment window) =
      some after) :
    AwardHeld after row terms ∧ sys.cells.find? order = none ∧ OrderPlaced after terms order := by
  have rivals : AuctionRival sys offer → AuctionRival after row := by
    intro rival
    obtain ⟨id, cell, found, auction, buyer⟩ := rival.step sound stepped
    exact ⟨id, cell, found, auction.trans (congrArg some same.1.symm), buyer.trans same.2.symm⟩
  obtain ⟨⟨book, inventory⟩, created, inserted⟩ := Option.bind_eq_some_iff.mp stepped
  obtain ⟨held, found, -, -, sells, written⟩ := offerCheckout_sells (Outcome.toOption_some created)
  obtain ⟨fresh, stored⟩ := insert_single inserted
  obtain rfl : book.order.id = order := sells.id
  refine ⟨award.of_ended rivals hold found ?_, fresh, newCell book, _, stored, unexpired, sells⟩
  rw [insert_inventory inserted, written]

end Awards

structure AwardBooks (desk : OfferDesk) : Prop where
  held : ∀ id offer terms, desk.offers.find? id = some offer → offer.accepted = some terms →
    AwardHeld desk.sys offer terms
  apart : ∀ id other offer rival terms others, desk.offers.find? id = some offer →
    desk.offers.find? other = some rival → offer.accepted = some terms →
    rival.accepted = some others → terms.award.reservationId = others.award.reservationId →
    id = other
  placed : ∀ id offer order, desk.offers.find? id = some offer →
    offer.convertedOrderId = some order →
    ∃ terms, offer.accepted = some terms ∧ OrderPlaced desk.sys terms order
  once : ∀ id other offer rival order, desk.offers.find? id = some offer →
    desk.offers.find? other = some rival → offer.convertedOrderId = some order →
    rival.convertedOrderId = some order → id = other

namespace AwardBooks

variable {references : References} {desk after : OfferDesk}

theorem empty : AwardBooks emptyDesk := by
  constructor
  · intro id offer terms found
    cases found
  · intro id other offer rival terms others found
    cases found
  · intro id offer order found
    cases found
  · intro id other offer rival order found
    cases found

theorem beside {action : Action} (books : AwardBooks desk)
    (sound : ∀ id cell, desk.sys.cells.find? id = some cell → Sound cell)
    (stepped : desk.sys.step references action = some after.sys)
    (apart : ∀ id offer terms, desk.offers.find? id = some offer → offer.accepted = some terms →
      action.endsAward ≠ some terms.award.reservationId)
    (offers : after.offers = desk.offers) : AwardBooks after := by
  constructor
  · intro id offer terms found stored
    rw [offers] at found
    exact (books.held id offer terms found stored).beside sound stepped
      (apart id offer terms found stored)
  · rw [offers]
    exact books.apart
  · intro id offer order found made
    rw [offers] at found
    obtain ⟨terms, stored, placed⟩ := books.placed id offer order found made
    exact ⟨terms, stored, placed.step sound stepped⟩
  · rw [offers]
    exact books.once

theorem unsold {id : OfferId} {row : OfferRow} (books : AwardBooks desk)
    (accepted : row.accepted = none) (unmade : row.convertedOrderId = none)
    (sys : after.sys = desk.sys) (offers : after.offers = desk.offers.set id row) :
    AwardBooks after := by
  have old {key : OfferId} {offer : OfferRow} (found : after.offers.find? key = some offer)
      (sold : offer.accepted ≠ none ∨ offer.convertedOrderId ≠ none) :
      desk.offers.find? key = some offer := by
    rw [offers, Keyed.Table.find?_set] at found
    split at found
    · cases found
      exact absurd sold (by simp [accepted, unmade])
    · exact found
  constructor
  · intro key offer terms found stored
    rw [sys]
    exact books.held key offer terms (old found (.inl (by simp [stored]))) stored
  · intro key other offer rival terms others found present stored sold
    exact books.apart key other offer rival terms others (old found (.inl (by simp [stored])))
      (old present (.inl (by simp [sold]))) stored sold
  · intro key offer order found made
    rw [sys]
    exact books.placed key offer order (old found (.inr (by simp [made]))) made
  · intro key other offer rival order found present made again
    exact books.once key other offer rival order (old found (.inr (by simp [made])))
      (old present (.inr (by simp [again]))) made again

theorem written {action : Action} {id : OfferId} {row : OfferRow} {terms : AcceptedTerms}
    (books : AwardBooks desk) (sound : ∀ id cell, desk.sys.cells.find? id = some cell → Sound cell)
    (stepped : desk.sys.step references action = some after.sys)
    (offers : after.offers = desk.offers.set id row) (stored : row.accepted = some terms)
    (held : AwardHeld after.sys row terms)
    (lone : ∀ other rival others, other ≠ id → desk.offers.find? other = some rival →
      rival.accepted = some others → others.award.reservationId ≠ terms.award.reservationId)
    (ends : ∀ key ∈ action.endsAward, key = terms.award.reservationId)
    (placed : ∀ order, row.convertedOrderId = some order → OrderPlaced after.sys terms order)
    (once : ∀ other rival order, other ≠ id → desk.offers.find? other = some rival →
      rival.convertedOrderId = some order → row.convertedOrderId ≠ some order) :
    AwardBooks after := by
  have stands {key : OfferId} {offer : OfferRow} (found : after.offers.find? key = some offer) :
      key = id ∧ offer = row ∨ key ≠ id ∧ desk.offers.find? key = some offer := by
    rw [offers, Keyed.Table.find?_set] at found
    split at found
    · cases found
      exact .inl ⟨by assumption, rfl⟩
    · exact .inr ⟨by assumption, found⟩
  constructor
  · intro key offer columns found sold
    rcases stands found with ⟨rfl, rfl⟩ | ⟨other, old⟩
    · obtain rfl := Option.some.inj (stored.symm.trans sold)
      exact held
    · refine (books.held key offer columns old sold).beside sound stepped fun ended => ?_
      exact lone key offer columns other old sold (ends _ ended)
  · intro key other offer rival columns others found present sold resold same
    rcases stands found with ⟨rfl, rfl⟩ | ⟨beside, old⟩
    · obtain rfl := Option.some.inj (stored.symm.trans sold)
      rcases stands present with ⟨rfl, -⟩ | ⟨beside, old⟩
      · rfl
      · exact absurd same.symm (lone other rival others beside old resold)
    · rcases stands present with ⟨rfl, rfl⟩ | ⟨-, known⟩
      · obtain rfl := Option.some.inj (stored.symm.trans resold)
        exact absurd same (lone key offer columns beside old sold)
      · exact books.apart key other offer rival columns others old known sold resold same
  · intro key offer order found made
    rcases stands found with ⟨rfl, rfl⟩ | ⟨-, old⟩
    · exact ⟨terms, stored, placed order made⟩
    · obtain ⟨columns, sold, before⟩ := books.placed key offer order old made
      exact ⟨columns, sold, before.step sound stepped⟩
  · intro key other offer rival order found present made again
    rcases stands found with ⟨rfl, rfl⟩ | ⟨beside, old⟩
    · rcases stands present with ⟨rfl, -⟩ | ⟨beside, old⟩
      · rfl
      · exact absurd made (once other rival order beside old again)
    · rcases stands present with ⟨rfl, rfl⟩ | ⟨-, known⟩
      · exact absurd again (once key offer order beside old made)
      · exact books.once key other offer rival order old known made again

theorem turned {id : OfferId} {offer row : OfferRow} {action : Option Action}
    (books : AwardBooks desk) (sound : ∀ id cell, desk.sys.cells.find? id = some cell → Sound cell)
    (found : desk.offers.find? id = some offer) (turn : AwardTurn desk.sys.clock offer row action)
    (same : row.listing = offer.listing ∧ row.buyerPubky = offer.buyerPubky)
    (ran : action.elim (after.sys = desk.sys) fun action =>
      desk.sys.step references action = some after.sys)
    (offers : after.offers = desk.offers.set id row) : AwardBooks after := by
  cases turn with
  | unsold accepted unmade => exact books.unsold accepted unmade ran offers
  | @accepted terms _ stored unmade claim live window =>
      obtain ⟨fresh, held⟩ := AwardHeld.of_accepted claim live window ran
      refine books.written sound ran offers stored held ?_ nofun ?_ ?_
      · intro other rival others _ known sold same
        have claimed := (books.held other rival others known sold).claim
        rw [same, fresh] at claimed
        cases claimed
      · intro order made
        rw [unmade] at made
        cases made
      · intro other rival order _ _ _ made
        rw [unmade] at made
        cases made
  | @expired terms before stored unmade hold =>
      have held := (books.held id offer terms found before).expired sound same hold ran
      refine books.written sound ran offers stored held ?_ ?_ ?_ ?_
      · intro other rival others beside known sold same
        exact beside (books.apart other id rival offer others terms known found sold before same)
      · intro key ended
        exact (Option.some.inj ended).symm
      · intro order made
        rw [unmade] at made
        cases made
      · intro other rival order _ _ _ made
        rw [unmade] at made
        cases made
  | @placed terms order fulfillment window before stored made hold unexpired =>
      obtain ⟨held, fresh, placed⟩ :=
        (books.held id offer terms found before).converted sound same hold unexpired ran
      refine books.written sound ran offers stored held ?_ ?_ ?_ ?_
      · intro other rival others beside known sold same
        exact beside (books.apart other id rival offer others terms known found sold before same)
      · intro key ended
        exact (Option.some.inj ended).symm
      · intro number numbered
        obtain rfl := Option.some.inj (made.symm.trans numbered)
        exact placed
      · intro other rival number _ known earlier numbered
        obtain rfl := Option.some.inj (made.symm.trans numbered)
        obtain ⟨-, -, cell, -, present, -⟩ := books.placed other rival order known earlier
        rw [fresh] at present
        cases present

theorem step (books : AwardBooks desk) (law : DeskLaw desk)
    (sound : ∀ id cell, desk.sys.cells.find? id = some cell → Sound cell)
    (move : DeskMove references desk after) : AwardBooks after := by
  cases move with
  | @service action apart ran offers =>
      refine books.beside sound ran (fun id offer terms _ _ => ?_) offers
      cases action with
      | offerCheckout => cases apart
      | expireAward => cases apart
      | _ => exact nofun
  | kept sys offers =>
      obtain ⟨held, separate, placed, once⟩ := books
      exact ⟨by rwa [sys, offers], by rwa [offers], by rwa [sys, offers], by rwa [offers]⟩
  | opened sys _ _ offers => exact books.unsold rfl rfl sys offers
  | turned found turn ran offers =>
      obtain ⟨proposals, ending, own⟩ := law _ _ found
      obtain ⟨award, same⟩ := turn_award own turn
      exact books.turned sound found award same ran offers

end AwardBooks

section Runs

variable {references : References} {allowed : OfferDesk → DeskAction → Prop} {desk : OfferDesk}

theorem reachable_awardBooks (reached : Runs.Reachable (offerDesk references) allowed desk) :
    AwardBooks desk := by
  refine Runs.invariant_under (offerDesk references) allowed
    (fun desk => DeskLaw desk ∧ ∀ id cell, desk.sys.cells.find? id = some cell → Sound cell)
    AwardBooks (fun _ reached => ⟨reachable_deskLaw reached,
      fun _ _ found => reachable_sound (desk_marketplace reached) found⟩) ?_ ?_ reached
  · intro empty init
    rw [show empty = emptyDesk from init]
    exact .empty
  · exact fun _ _ _ known books _ stepped => books.step known.1 known.2 (desk_step stepped)

/-- The units of an accepted offer are reserved for it alone, active while it may be
checked out, and the reservation ends with it. -/
theorem award_reservation {id : OfferId} {offer : OfferRow} {terms : AcceptedTerms}
    (reached : Runs.Reachable (offerDesk references) allowed desk)
    (found : desk.offers.find? id = some offer) (stored : offer.accepted = some terms)
    (alone : ¬ AuctionRival desk.sys offer) :
    desk.sys.inventory.reservations.find? terms.award.reservationId = some (offer.hold terms) ∧
      ∀ other rival others, desk.offers.find? other = some rival → rival.accepted = some others →
        others.award.reservationId = terms.award.reservationId → other = id := by
  have books := reachable_awardBooks reached
  refine ⟨(books.held id offer terms found stored).held alone, ?_⟩
  intro other rival others known sold same
  exact books.apart other id rival offer others terms known found sold stored same

theorem accepted_lamp_reserved :
    ∃ desk, Runs.Reachable (offerDesk sampleReferences) Runs.anyStep desk ∧
      ∃ offer ∈ desk.offers.find? 1, ∃ terms, offer.accepted = some terms ∧
        desk.sys.inventory.reservations.find? terms.award.reservationId =
          some (offer.hold terms) := by
  obtain ⟨desk, reached, offer, found, sold, empty⟩ :=
    Runs.exists_reachable_of_run (offerDesk sampleReferences) rfl (negotiatedLamp ++ acceptedLamp)
      (fun desk => ∃ offer ∈ desk.offers.find? 1, offer.accepted.isSome = true ∧
        desk.sys.cells.rows = [])
      (Runs.meets_anyStep _ _ _) (by decide +kernel)
  obtain ⟨terms, stored⟩ := Option.isSome_iff_exists.mp sold
  have alone : ¬ AuctionRival desk.sys offer := by
    rintro ⟨id, cell, present, -⟩
    have listed := Keyed.lookup_mem _ _ _ present
    rw [empty] at listed
    cases listed
  exact ⟨desk, reached, offer, found, terms, stored,
    (award_reservation reached found stored alone).1⟩

/-- A converted offer has an order of its own, which sells what was agreed. -/
theorem converted_offer_order {id : OfferId} {offer : OfferRow}
    (reached : Runs.Reachable (offerDesk references) allowed desk)
    (found : desk.offers.find? id = some offer) (converted : offer.state = .converted) :
    ∃ order terms cell, offer.convertedOrderId = some order ∧ offer.accepted = some terms ∧
      Agreed offer terms ∧ desk.sys.cells.find? order = some cell ∧
      (∃ now, now < terms.awardExpiresAt ∧
        terms.award.Sells order now cell.book.order.terms) ∧
      ∀ other rival, desk.offers.find? other = some rival →
        rival.convertedOrderId = some order → other = id := by
  have books := reachable_awardBooks reached
  obtain ⟨proposals, ending, own⟩ := reachable_deskLaw reached id offer found
  obtain ⟨-, terms, -, -, stored, agreed, ⟨accepted, -⟩ | ⟨-, made⟩⟩ :=
    own.sold_row (.inr converted)
  · rw [converted] at accepted
    cases accepted
  · obtain ⟨order, numbered⟩ := Option.isSome_iff_exists.mp made
    obtain ⟨columns, sold, cell, now, present, unexpired, sells⟩ :=
      books.placed id offer order found numbered
    obtain rfl := Option.some.inj (stored.symm.trans sold)
    refine ⟨order, terms, cell, numbered, stored, agreed, present, ⟨now, unexpired, sells⟩, ?_⟩
    intro other rival known again
    exact books.once other id rival offer order known found again numbered

theorem converted_lamp_order :
    ∃ desk, Runs.Reachable (offerDesk sampleReferences) Runs.anyStep desk ∧
      ∃ offer ∈ desk.offers.find? 1, ∃ order terms cell, offer.accepted = some terms ∧
        Agreed offer terms ∧ desk.sys.cells.find? order = some cell := by
  obtain ⟨desk, reached, offer, found, converted⟩ :=
    Runs.exists_reachable_of_run (offerDesk sampleReferences) rfl
      (negotiatedLamp ++ acceptedLamp ++ [convertedLamp])
      (fun desk => ∃ offer ∈ desk.offers.find? 1, offer.state = .converted)
      (Runs.meets_anyStep _ _ _) (by decide +kernel)
  obtain ⟨order, terms, cell, -, stored, agreed, present, -⟩ :=
    converted_offer_order reached found converted
  exact ⟨desk, reached, offer, found, order, terms, cell, stored, agreed, present⟩

end Runs

end MarketplaceService
