import MarketplaceService.RefundedOrders
import MarketplaceService.ServiceFrame

/-!
The server revision of a listing across the steps of the service. A command, a
sweep or a transaction of an order that writes a listing writes one more, or
leaves the revision alone; a deleted listing keeps its row, and a revival counts
on from it. So the listing that a later state holds under an id is the earlier
one with a revision that is the same or more.
-/

namespace MarketplaceService

/-- Every listing stays, with a server revision that is the same or more, and
only the named listings are new. -/
structure ListingsAdvance (named : ListingId → Prop) (before after : Inventory) : Prop where
  stays : ∀ id listing, before.listings.find? id = some listing →
    ∃ done, after.listings.find? id = some done ∧ listing.serverRevision ≤ done.serverRevision
  fresh : ∀ id done, after.listings.find? id = some done →
    named id ∨ ∃ listing, before.listings.find? id = some listing

namespace ListingsAdvance

variable {named : ListingId → Prop} {before middle after : Inventory}

theorem refl (inventory : Inventory) : ListingsAdvance named inventory inventory :=
  ⟨fun _ listing found => ⟨listing, found, le_rfl⟩, fun _ done found => .inr ⟨done, found⟩⟩

theorem trans (first : ListingsAdvance named before middle)
    (second : ListingsAdvance named middle after) : ListingsAdvance named before after := by
  constructor
  · intro id listing found
    obtain ⟨done, present, le⟩ := first.stays id listing found
    obtain ⟨last, ends, more⟩ := second.stays id done present
    exact ⟨last, ends, le.trans more⟩
  · intro id last found
    rcases second.fresh id last found with new | ⟨done, present⟩
    · exact .inl new
    · exact first.fresh id done present

theorem of_same (same : after.listings = before.listings) :
    ListingsAdvance named before after := by
  constructor
  · intro id listing found
    rw [same]
    exact ⟨listing, found, le_rfl⟩
  · intro id done found
    rw [same] at found
    exact .inr ⟨done, found⟩

theorem of_listing {id : ListingId} {listing : Listing}
    (listings : after.listings = before.listings.set id listing)
    (known : named id ∨ ∃ old, before.listings.find? id = some old)
    (more : ∀ old ∈ before.listings.find? id, old.serverRevision ≤ listing.serverRevision) :
    ListingsAdvance named before after := by
  constructor
  · intro key old found
    rw [listings, Keyed.Table.find?_set]
    split
    · rename_i same
      subst same
      exact ⟨listing, rfl, more old found⟩
    · exact ⟨old, found, le_rfl⟩
  · intro key done found
    rw [listings, Keyed.Table.find?_set] at found
    split at found
    · rename_i same
      subst same
      exact known
    · exact .inr ⟨done, found⟩

/-- A write of a present listing. -/
theorem relisted {id : ListingId} {old listing : Listing}
    (found : before.listings.find? id = some old)
    (more : old.serverRevision ≤ listing.serverRevision) :
    ListingsAdvance named before (before.setListing id listing) := by
  refine .of_listing rfl (.inr ⟨old, found⟩) ?_
  intro stored present
  obtain rfl : stored = old := Option.mem_unique present found
  exact more

end ListingsAdvance

/-! The loops over the lines of an order. -/

theorem forLines_advance {named : ListingId → Prop} {each : Line → Listing → Except Failure Listing}
    {missing : Failure}
    (more : ∀ line listing moved, each line listing = .ok moved →
      listing.serverRevision < moved.serverRevision)
    (lines : List Line) (inventory : Inventory) :
    ListingsAdvance named inventory (forLines each missing lines inventory).2 := by
  induction lines generalizing inventory with
  | nil => exact .refl inventory
  | cons line rest ih =>
      simp only [forLines]
      cases found : inventory.listings.find? line.listing with
      | none => exact .refl inventory
      | some listing =>
          simp only
          cases stepped : each line listing with
          | error failure => exact .refl inventory
          | ok moved =>
              refine .trans (.relisted found ?_) (ih _)
              exact (more line listing moved stepped).le

theorem Writes.advance {named : ListingId → Prop} {terms : Terms} {sold : ListingId → ℤ}
    {before after : Inventory}
    (writes : Writes terms sold before after) : ListingsAdvance named before after := by
  induction writes with
  | same same => exact .of_same same.1
  | reservations own kept => exact .of_same rfl
  | @moved each missing lines before after result move unsold plates labels revisions ran =>
      have advance := @forLines_advance named each missing revisions lines before
      rw [ran] at advance
      exact advance
  | @sold lines before after ran =>
      have advance := @forLines_advance named _ listingMissing sellLine_revision lines before
      rw [ran] at advance
      exact advance
  | @returned lines before after ran =>
      have advance :=
        @forLines_advance named (releaseLine .sold) listingMissing releaseLine_revision lines before
      rw [show forLines _ _ lines before = _ from ran] at advance
      exact advance
  | trans _ _ first second => exact first.trans second

/-! The writes of the catalog. -/

section Catalog

variable {named : ListingId → Prop} {inventory after : Inventory} {now : Time}

theorem Relisted.advance {id : ListingId} {record : ListingRecord} {listing : Listing}
    (called : named id) (relisted : Relisted record now (inventory.listings.find? id) listing) :
    ListingsAdvance named inventory (inventory.setListing id listing) := by
  refine .of_listing rfl (.inl called) ?_
  intro old found
  rw [Option.mem_def.mp found] at relisted
  cases relisted with
  | registered format applied =>
      rw [(applyRegistration_ok applied).revision]
      exact Nat.le_succ _
  | kept => exact le_rfl
  | healed => exact Nat.le_succ _

theorem insertReservation_advance {key : ReservationId} {row : Reservation}
    (inserted : inventory.insertReservation key row = .ok after) :
    ListingsAdvance named inventory after := by
  obtain ⟨-, rfl⟩ := insertReservation_ok inserted
  exact .of_same rfl

theorem tombstone_advance {id : ListingId} (deleted : tombstone inventory id now = some after) :
    ListingsAdvance named inventory after := by
  obtain ⟨listing, bindings, found, -, -, rfl⟩ := tombstone_ok deleted
  have relisted := @ListingsAdvance.relisted named inventory id listing { listing with
    deletedAt := some now
    serverRevision := listing.serverRevision + 1 } found (Nat.le_succ _)
  exact relisted.trans (.of_same rfl)

theorem adjustInventory_advance {id : ListingId} {sender : Sender} {delta : ℤ}
    (adjusted : adjustInventory inventory id sender delta = .ok after) :
    ListingsAdvance named inventory after := by
  obtain ⟨listing, balanced, found, -, -, -, -, rfl⟩ := adjustInventory_ok adjusted
  exact .relisted found (Nat.le_succ _)

theorem placeBid_advance {id : ListingId} (bid : placeBid inventory id = .ok after) :
    ListingsAdvance named inventory after := by
  obtain ⟨listing, found, -, -, -, rfl⟩ := placeBid_ok bid
  exact .relisted found (Nat.le_succ _)

theorem closeUnsold_advance {id : ListingId} (closed : closeUnsold inventory id = .ok after) :
    ListingsAdvance named inventory after := by
  obtain ⟨listing, found, -, -, rfl⟩ := closeUnsold_ok closed
  exact .relisted found (Nat.le_succ _)

theorem setDigitalVersion_advance {id : ListingId} {kind : Option DigitalDeliveryKind}
    (written : setDigitalVersion inventory id kind = some after) :
    ListingsAdvance named inventory after := by
  obtain ⟨listing, found, rfl⟩ := Option.map_eq_some_iff.mp written
  exact .relisted found le_rfl

theorem holdForReservation_advance {listing held : Listing} {quantity : ℕ} {unavailable : String}
    (ran : holdForReservation listing quantity unavailable = .ok held) :
    listing.serverRevision ≤ held.serverRevision := by
  obtain ⟨enough, rfl⟩ := holdForReservation_ok ran
  exact Nat.le_succ _

theorem newReservation_advance {gate : Inventory} {key : ReservationId} {id : ListingId}
    {listing held : Listing} {row : Reservation} (same : SameListings inventory gate)
    (found : inventory.listings.find? id = some listing)
    (more : listing.serverRevision ≤ held.serverRevision)
    (inserted : (gate.setListing id held).insertReservation key row = .ok after) :
    ListingsAdvance named inventory after := by
  have stored : gate.listings.find? id = some listing := by
    rw [same.1]
    exact found
  exact (ListingsAdvance.of_same same.1).trans
    ((ListingsAdvance.relisted stored more).trans (insertReservation_advance inserted))

theorem reserveInventory_advance {key : ReservationId} {id : ListingId} {sender : Sender}
    {quantity ttlSeconds : ℕ}
    (reserved : reserveInventory inventory key id sender quantity ttlSeconds now = .ok after) :
    ListingsAdvance named inventory after := by
  obtain ⟨found, -, -, -, same, taken, inserted⟩ := reserveInventory_ok reserved
  exact newReservation_advance same found (holdForReservation_advance taken) inserted

theorem acceptOffer_advance {award : Award}
    (accepted : acceptOffer inventory award now = .ok after) :
    ListingsAdvance named inventory after := by
  obtain ⟨listing, held, found, -, taken, inserted⟩ := acceptOffer_ok accepted
  exact newReservation_advance ⟨rfl, rfl⟩ found (holdForReservation_advance taken) inserted

theorem restockReservation_advance {gate : Inventory} {reservation : Reservation}
    {state : Listing → ListingState} (same : gate.listings = inventory.listings)
    (restocked : restockReservation gate reservation state = .ok after) :
    ListingsAdvance named inventory after := by
  refine (ListingsAdvance.of_same same).trans ?_
  obtain ⟨listing, enough, stored, rfl⟩ := restockReservation_ok restocked
  exact .relisted stored (Nat.le_succ _)

theorem expireDueReservation_advance {key : ReservationId}
    (expired : expireDueReservation inventory key now = .ok after) :
    ListingsAdvance named inventory after := by
  cases expireDueReservation_ok expired with
  | kept => exact .refl _
  | lapsed _ _ _ _ _ _ same restocked => exact restockReservation_advance same.1 restocked

theorem expireDueAward_advance {award : Award}
    (expired : expireDueAward inventory award = .ok after) :
    ListingsAdvance named inventory after := by
  obtain ⟨reservation, -, -, -, -, -, restocked⟩ := expireDueAward_ok expired
  exact restockReservation_advance (by rfl) restocked

theorem offerCheckout_advance {award : Award} {id : OrderId} {fulfillment : Fulfillment}
    {holdWindowSeconds : ℕ} {book : OrderBook}
    (created : offerCheckout inventory award id fulfillment holdWindowSeconds now =
      .ok (book, after)) : ListingsAdvance named inventory after := by
  cases offerCheckout_ok created with
  | intro => exact .of_same rfl

theorem closeAuction_advance {listingId : ListingId} {winner : Pubky} {priceMinor : ℕ}
    {reservation : ReservationId} {id : OrderId} {book : OrderBook}
    (created : closeAuction inventory listingId winner priceMinor reservation id now =
      .ok (book, after)) : ListingsAdvance named inventory after := by
  cases closeAuction_ok created with
  | intro found _ _ _ _ inserted =>
      exact .trans (.relisted found (Nat.le_succ _)) (insertReservation_advance inserted)

theorem holdClaim_advance {dropId : Option DropId} {resolved : List ResolvedLine}
    (rows : ∀ entry ∈ resolved, inventory.listings.find? entry.line.listing = some entry.row)
    (held : holdClaim dropId resolved inventory = .ok after) :
    ListingsAdvance named inventory after := by
  cases holdClaim_ok held with
  | nothing => exact .refl _
  | claim => exact .relisted (rows _ (by simp)) (Nat.le_succ _)

theorem checkoutCreate_advance {request : CheckoutRequest} {books : List OrderBook}
    (created : checkoutCreate inventory request now = .ok (books, after)) :
    ListingsAdvance named inventory after := by
  obtain ⟨dropId, gated, resolved, asset, claimed, ran, -, -, -, held⟩ := checkoutCreate_ok created
  obtain ⟨same, -⟩ := claimDrop_ok claimed
  obtain ⟨-, rows⟩ := resolveLines_ok ran
  exact (ListingsAdvance.of_same same.1).trans
    (holdClaim_advance (fun entry member => (rows entry member).1) held)

end Catalog

/-! The steps of the service. -/

def Action.registers : Action → ListingId → Prop
  | .registerListing listing _ _ _, id => id = listing
  | .syncListing listing _, id => id = listing
  | _, _ => False

def GatewayAction.registers : GatewayAction → ListingId → Prop
  | .service action, id => action.registers id
  | _, _ => False

theorem step_listings {references : References} {sys after : Sys} {action : Action}
    (sound : ∀ id cell, sys.cells.find? id = some cell → Sound cell)
    (stepped : sys.step references action = some after) :
    ListingsAdvance action.registers sys.inventory after.inventory := by
  have stocked {result : Except Failure Inventory}
      (advance : ∀ inventory, result = .ok inventory →
        ListingsAdvance action.registers sys.inventory inventory)
      (stocked : sys.setInventory result = some after) :
      ListingsAdvance action.registers sys.inventory after.inventory := by
    obtain ⟨inventory, ran, rfl⟩ := Option.map_eq_some_iff.mp stocked
    exact advance inventory (Outcome.toOption_some ran)
  cases action with
  | tick seconds =>
      cases stepped
      exact .refl _
  | order id now step =>
      obtain ⟨cell, found, -⟩ := Option.bind_eq_some_iff.mp stepped
      obtain ⟨done, -, ran⟩ := order_step found stepped
      exact ((stepCell_steps (sound id cell found) ran).soldOn (sound id cell found)).advance
  | checkout request =>
      obtain ⟨⟨books, inventory⟩, created, inserted⟩ := Option.bind_eq_some_iff.mp stepped
      rw [insert_inventory inserted]
      exact checkoutCreate_advance (Outcome.toOption_some created)
  | offerCheckout award order fulfillment holdWindowSeconds =>
      obtain ⟨⟨book, inventory⟩, created, inserted⟩ := Option.bind_eq_some_iff.mp stepped
      rw [insert_inventory inserted]
      exact offerCheckout_advance (Outcome.toOption_some created)
  | closeAuction listing winner priceMinor reservation order =>
      obtain ⟨⟨book, inventory⟩, created, inserted⟩ := Option.bind_eq_some_iff.mp stepped
      rw [insert_inventory inserted]
      exact closeAuction_advance (Outcome.toOption_some created)
  | placeBid listing => exact stocked (fun _ => placeBid_advance) stepped
  | closeUnsold listing => exact stocked (fun _ => closeUnsold_advance) stepped
  | registerListing listing record sender recordFound =>
      refine stocked (fun inventory ran => ?_) stepped
      obtain ⟨listing, rfl, relisted⟩ := registerListing_ok ran
      exact relisted.advance rfl
  | syncListing listing record =>
      refine stocked (fun inventory ran => ?_) stepped
      obtain ⟨listing, rfl, relisted⟩ := syncListing_ok ran
      exact relisted.advance rfl
  | tombstone listing =>
      obtain ⟨inventory, deleted, rfl⟩ := Option.map_eq_some_iff.mp stepped
      exact tombstone_advance deleted
  | adjustInventory listing sender delta => exact stocked (fun _ => adjustInventory_advance) stepped
  | setDigitalVersion listing kind =>
      obtain ⟨inventory, written, rfl⟩ := Option.map_eq_some_iff.mp stepped
      exact setDigitalVersion_advance written
  | reserveInventory reservation listing sender quantity ttlSeconds =>
      exact stocked (fun _ => reserveInventory_advance) stepped
  | expireReservation reservation =>
      obtain ⟨-, stepped⟩ := Option.ite_none_left_eq_some.mp stepped
      exact stocked (fun _ => expireDueReservation_advance) stepped
  | acceptOffer award readAt =>
      obtain ⟨-, stepped⟩ := Option.ite_none_left_eq_some.mp stepped
      exact stocked (fun _ => acceptOffer_advance) stepped
  | expireAward award => exact stocked (fun _ => expireDueAward_advance) stepped
  | syncDrop drop record readAt =>
      obtain ⟨-, stepped⟩ := Option.ite_none_left_eq_some.mp stepped
      exact stocked (fun _ ran => .of_same (syncDrop_same ran).1) stepped
  | cancelDrop drop sender => exact stocked (fun _ ran => .of_same (cancelDrop_same ran).1) stepped
  | releaseDropListings drop sender =>
      exact stocked (fun _ ran => .of_same (releaseDropListings_same ran).1) stepped
  | transitionDrop drop =>
      cases stepped
      exact .of_same (transitionDueDrop_same ..).1

theorem gateway_listings {references : References} {gate after : GatewaySys}
    {action : GatewayAction}
    (sound : ∀ id cell, gate.sys.cells.find? id = some cell → Sound cell)
    (stepped : gate.step references action = some after) :
    ListingsAdvance action.registers gate.sys.inventory after.sys.inventory := by
  cases gateway_step_inv stepped with
  | @service step named ran files =>
      subst named
      exact step_listings sound ran
  | settled named found paypal same files =>
      rw [same]
      exact .refl _
  | notified named found owned ran same files =>
      rw [same]
      exact .refl _
  | recorded named found ran same files =>
      rw [same]
      exact .refl _

end MarketplaceService
