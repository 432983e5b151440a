import MarketplaceService.VeiledRequests

/-!
Auction secrecy, a property of two runs. The runs make the same requests, apart
from what a veil hides of one auction; over whole runs every actor from whom it
is hidden is answered and notified the same in both, as long as the auction is
not closed on a hidden reserve and all the others stay an increment behind a
hidden leader.
-/

namespace MarketplaceService

/-! Two runs side by side. -/

inductive Veil.SameBut (veil : Veil) (id : ListingId) : FloorRequest → FloorRequest → Prop
  | same (request : FloorRequest) : veil.SameBut id request request
  | reserve {listingId : String} {one two : AuctionRegistration} {sender : Sender}
      (hidden : veil.reserve = true) (same : SameListing veil one two) :
      veil.SameBut id (.register id listingId one sender) (.register id listingId two sender)
  | maximum {one two : BidCommand} (hidden : veil.leader = some one.sender.actor)
      (same : SameRows veil one two) : veil.SameBut id (.placeBid id one) (.placeBid id two)

def FloorRequest.registers (id : ListingId) : FloorRequest → Bool
  | .register key .. => key == id
  | _ => false

def FloorRequest.closes (id : ListingId) : FloorRequest → Bool
  | .close key .. => key == id
  | _ => false

def FloorRequest.bidsOn (id : ListingId) (bidder : Pubky) : FloorRequest → Bool
  | .placeBid key command => key == id && command.sender.actor == bidder
  | _ => false

section Steps

variable (formatTimestamp : Time → String) (references : References)

/-- Two steps that differ in what is hidden from an actor. With a hidden reserve
the actor is not the seller and the auction is not closed; a hidden leader's
bids are accepted, and the others stay an increment behind. -/
structure Veil.Hides (veil : Veil) (id : ListingId) (actor : Pubky) (left right : Floor)
    (one two : FloorRequest) : Prop where
  same : veil.SameBut id one two
  outside : veil.reserve = true →
    ∀ listing ∈ left.house.sys.inventory.listings.find? id, listing.sellerPubky ≠ actor
  unclosed : veil.reserve = true → one.closes id = true →
    (left.serve formatTimestamp references one).2.isDone = false ∧
      (right.serve formatTimestamp references two).2.isDone = false
  accepted : ∀ leader ∈ veil.leader, one.bidsOn id leader = true →
    (left.serve formatTimestamp references one).2.isDone = true ∧
      (right.serve formatTimestamp references two).2.isDone = true
  leftLeads : ∀ leader ∈ veil.leader, ∀ file ∈
    (left.serve formatTimestamp references one).1.house.files.find? id, file.Leads leader
  rightLeads : ∀ leader ∈ veil.leader, ∀ file ∈
    (right.serve formatTimestamp references two).1.house.files.find? id, file.Leads leader

/-- With a hidden reserve, a registration of the auction is moreover done in both
runs or in none. -/
structure Veil.Allowed (veil : Veil) (id : ListingId) (actor : Pubky) (left right : Floor)
    (one two : FloorRequest) : Prop
    extends veil.Hides formatTimestamp references id actor left right one two where
  registered : veil.reserve = true → one.registers id = true →
    (left.serve formatTimestamp references one).2.isDone =
      (right.serve formatTimestamp references two).2.isDone

end Steps

variable {veil : Veil} {id : ListingId} {left right : Floor} {actor : Pubky}
  {formatTimestamp : Time → String} {references : References}

def Floor.Incremental (floor : Floor) : Prop :=
  ∀ key, ∀ file ∈ floor.house.files.find? key, 0 < file.auction.minimumIncrement.amountMinor

theorem Floor.Incremental.written {floor after : Floor} (incremental : floor.Incremental)
    {key : ListingId} {file : AuctionFile}
    (positive : 0 < file.auction.minimumIncrement.amountMinor)
    (files : after.house.files = floor.house.files.set key file) : after.Incremental := by
  intro other stored found
  rw [files, Option.mem_def, Keyed.Table.find?_set] at found
  split at found
  · cases found
    exact positive
  · exact incremental other stored found

theorem serve_incremental {floor : Floor} (incremental : floor.Incremental)
    (request : FloorRequest) :
    (floor.serve formatTimestamp references request).1.Incremental := by
  cases request with
  | service action =>
      unfold Floor.serve Floor.service
      dsimp only
      cases stepped : floor.house.step references (.service action) with
      | none => exact incremental
      | some house =>
          obtain ⟨-, ran⟩ := Option.ite_none_left_eq_some.mp stepped
          obtain ⟨sys, -, rfl⟩ := Option.map_eq_some_iff.mp ran
          exact incremental
  | register key listingId registration sender =>
      unfold Floor.serve Floor.register
      dsimp only
      split_ifs
      · exact incremental
      · exact incremental
      · cases registered : floor.house.register key registration sender
          floor.house.sys.clock with
        | error failure => exact incremental
        | ok house =>
            obtain ⟨-, -, files, -⟩ := register_base registered
            exact incremental.written registration.terms.increment_pos files
  | placeBid key command =>
      unfold Floor.serve
      dsimp only
      cases placeBid_moves formatTimestamp floor key command with
      | refused failed answered =>
          rw [answered]
          exact incremental
      | @taken _ listing file _ _ placed found filed bidding moved shown answered =>
          rw [answered]
          exact @Floor.Incremental.written floor _ incremental key
            (file.withBid (command.row file floor.house.sys.clock) listing.unitPriceAmountMinor
              floor.house.sys.clock) (incremental key file filed) rfl
  | close key closer reservation order =>
      cases closed : floor.house.close key closer reservation order floor.house.sys.clock with
      | error failure =>
          simp only [Floor.serve, Floor.close, closed]
          exact incremental
      | ok house =>
          have positive : Floor.Incremental { floor with house := house } := by
            cases close_ok closed with
            | @sold _ file _ _ _ _ filed _ _ _ _ files =>
                exact @Floor.Incremental.written floor _ incremental key (file.closed .sold)
                  (incremental key file filed) files
            | @unsold _ file _ _ filed _ _ _ files =>
                exact @Floor.Incremental.written floor _ incremental key (file.closed .unsold)
                  (incremental key file filed) files
          simp only [Floor.serve, Floor.close, closed]
          split
          · split
            · exact incremental
            · exact positive
          · exact incremental
  | getListing key actor => exact incremental
  | listListingBids key actor => exact incremental

theorem run_incremental (requests : List FloorRequest) {floor : Floor}
    (incremental : floor.Incremental) :
    (floor.run formatTimestamp references requests).1.Incremental := by
  induction requests generalizing floor with
  | nil => exact incremental
  | cons request rest ih => exact ih (serve_incremental incremental request)

theorem service_veiled (veiled : veil.Veiled id left right) (action : Action) :
    veil.Veiled id (left.service references action).1 (right.service references action).1 := by
  unfold Floor.service House.step
  dsimp only
  rw [veiled.sys]
  by_cases reads : action.readsFile = true
  · simp only [reads, if_true]
    exact veiled
  · simp only [reads, Bool.false_eq_true, if_false]
    cases right.house.sys.step references action with
    | none => exact veiled
    | some sys => exact ⟨rfl, veiled.history, veiled.notices, veiled.files⟩

theorem under_reserve {veil : Veil} {id key : ListingId}
    (hidden : (veil.under id key).reserve = true) : key = id ∧ veil.reserve = true := by
  unfold Veil.under at hidden
  split at hidden
  · rename_i same
    exact ⟨same, hidden⟩
  · cases hidden

theorem leader_under {veil : Veil} {id key : ListingId} {bidder : Pubky}
    (hidden : (veil.under id key).leader = some bidder) :
    key = id ∧ veil.leader = some bidder := by
  unfold Veil.under at hidden
  split at hidden
  · rename_i same
    exact ⟨same, hidden⟩
  · cases hidden

/-- What the two floors have after one request each, and what the actor is told. -/
def StepAlike (veil : Veil) (id : ListingId) (actor : Pubky) (caller : Option Pubky)
    (first second : Floor × FloorResponse) : Prop :=
  veil.Veiled id first.1 second.1 ∧ (caller = some actor → first.2 = second.2)

theorem serve_same (veiled : veil.Veiled id left right) (incremental : left.Incremental)
    (other : veil.leader ≠ some actor)
    (foreign : veil.reserve = true → ∀ name, listingAggregateId (actor, name) ≠ id)
    (request : FloorRequest)
    (allowed : veil.Allowed formatTimestamp references id actor left right request request) :
    StepAlike veil id actor request.caller (left.serve formatTimestamp references request)
      (right.serve formatTimestamp references request) := by
  cases request with
  | service action => exact ⟨service_veiled veiled action, nofun⟩
  | register key listingId registration sender =>
      cases hidden : (veil.under id key).reserve with
      | false =>
          obtain ⟨after, answers⟩ := @register_veiled veil id key left right veiled hidden listingId
            registration sender
          exact ⟨after, fun _ => answers⟩
      | true =>
          obtain ⟨rfl, sealed⟩ := under_reserve hidden
          have together := allowed.registered sealed (beq_self_eq_true key)
          obtain ⟨after, answers⟩ := hiddenRegister_veiled veiled
            (SameListing.refl registration) (foreign sealed) together
          exact ⟨after, fun named => answers (Option.some.inj named)⟩
  | placeBid key command =>
      by_cases hidden : (veil.under id key).leader = some command.sender.actor
      · obtain ⟨rfl, sealed⟩ := leader_under hidden
        obtain ⟨leftDone, rightDone⟩ := allowed.accepted _ sealed
          (by simp [FloorRequest.bidsOn])
        refine ⟨hiddenBid_veiled veiled ⟨rfl, rfl, rfl, fun _ => rfl⟩ (incremental key) leftDone
          rightDone allowed.leftLeads allowed.rightLeads, ?_⟩
        intro named
        exact absurd (sealed.trans named) other
      · obtain ⟨after, answers⟩ := placeBid_veiled veiled hidden (incremental key)
          allowed.leftLeads allowed.rightLeads
        exact ⟨after, fun _ => answers⟩
  | close key closer reservation order =>
      cases hidden : (veil.under id key).reserve with
      | false =>
          obtain ⟨after, answers⟩ := @close_veiled veil id key left right veiled hidden closer
            reservation order
          exact ⟨after, fun _ => answers⟩
      | true =>
          obtain ⟨rfl, sealed⟩ := under_reserve hidden
          obtain ⟨leftUndone, rightUndone⟩ := allowed.unclosed sealed (beq_self_eq_true key)
          refine ⟨?_, ?_⟩
          · unfold Floor.serve at leftUndone rightUndone ⊢
            dsimp only at leftUndone rightUndone ⊢
            rw [close_undone leftUndone, close_undone rightUndone]
            exact veiled
          · intro named
            cases closer with
            | worker => cases named
            | seller sender =>
                refine foreignClose_veiled veiled ?_
                rw [Option.some.inj named]
                exact allowed.outside sealed
  | getListing key viewer =>
      refine ⟨veiled, fun named => ?_⟩
      obtain rfl : viewer = actor := Option.some.inj named
      exact getListing_veiled veiled other allowed.outside
  | listListingBids key viewer => exact ⟨veiled, fun _ => listListingBids_veiled veiled⟩

theorem serve_veiled (veiled : veil.Veiled id left right) (incremental : left.Incremental)
    (other : veil.leader ≠ some actor)
    (foreign : veil.reserve = true → ∀ name, listingAggregateId (actor, name) ≠ id)
    {one two : FloorRequest}
    (allowed : veil.Allowed formatTimestamp references id actor left right one two) :
    one.caller = two.caller ∧
      StepAlike veil id actor one.caller (left.serve formatTimestamp references one)
        (right.serve formatTimestamp references two) := by
  cases allowed.same with
  | same => exact ⟨rfl, serve_same veiled incremental other foreign one allowed⟩
  | reserve hidden same =>
      have together := allowed.registered hidden (beq_self_eq_true id)
      obtain ⟨after, answers⟩ := hiddenRegister_veiled veiled same (foreign hidden) together
      exact ⟨rfl, after, fun named => answers (Option.some.inj named)⟩
  | @maximum first second hidden same =>
      obtain ⟨leftDone, rightDone⟩ := allowed.accepted _ hidden (by simp [FloorRequest.bidsOn])
      refine ⟨by simp only [FloorRequest.caller, same.sender], ?_, ?_⟩
      · exact hiddenBid_veiled veiled same (incremental id) leftDone rightDone
          allowed.leftLeads allowed.rightLeads
      · intro named
        exact absurd (hidden.trans named) other

/-- Every actor from whom something of an auction is hidden is answered and
notified the same in two runs that differ in it. -/
theorem auction_secrecy (formatTimestamp : Time → String) (references : References) (veil : Veil)
    (id : ListingId) (actor : Pubky) (other : veil.leader ≠ some actor)
    (foreign : veil.reserve = true → ∀ name, listingAggregateId (actor, name) ≠ id)
    (common : List FloorRequest) (pairs : List (FloorRequest × FloorRequest)) (start : Floor)
    (started : start = (emptyFloor.run formatTimestamp references common).1)
    (hidden : Unwinding.Meets (Floor.serve formatTimestamp references)
      (veil.Allowed formatTimestamp references id actor) start start pairs) :
    received actor (pairs.map Prod.fst)
        (start.run formatTimestamp references (pairs.map Prod.fst)).2 =
      received actor (pairs.map Prod.snd)
        (start.run formatTimestamp references (pairs.map Prod.snd)).2 ∧
    (start.run formatTimestamp references (pairs.map Prod.fst)).1.noticesFor actor =
      (start.run formatTimestamp references (pairs.map Prod.snd)).1.noticesFor actor ∧
    (start.run formatTimestamp references (pairs.map Prod.fst)).1.house.sys =
      (start.run formatTimestamp references (pairs.map Prod.snd)).1.house.sys := by
  have incremental : start.Incremental := by
    rw [started]
    exact run_incremental common (fun key file found => by cases found)
  obtain ⟨⟨final, -⟩, answers⟩ := @Unwinding.unwinding _ _ _
    (Floor.serve formatTimestamp references) (veil.Allowed formatTimestamp references id actor)
    (fun left right => veil.Veiled id left right ∧ left.Incremental)
    (fun request => request.caller == some actor) (by
      rintro left right one two ⟨veiled, positive⟩ allowed
      obtain ⟨caller, after, told⟩ := serve_veiled veiled positive other foreign allowed
      refine ⟨⟨after, serve_incremental positive one⟩, by rw [caller], fun seen => ?_⟩
      exact told (beq_iff_eq.mp seen))
    pairs start start ⟨Veil.Veiled.refl start, incremental⟩ hidden
  refine ⟨answers, ?_, final.sys⟩
  unfold Floor.noticesFor
  exact congrArg _ final.notices

/-! A lamp whose reserve is hidden. -/

def lampId : ListingId := listingAggregateId ("seller", "lamp")

def reservedLamp (startsAt revision reserveMinor : ℕ) (above : 2500 ≤ reserveMinor := by decide) :
    AuctionRegistration :=
  { record :=
      { sampleRecord 1 "USD" 2 with saleFormat := .auction, listingRevision := revision }
    terms := (lampRegistration startsAt 100 lamp_running).terms
    reserve :=
      { expectedRecordRevision := revision - 1
        recordRevision := revision
        reservePrice := some { amountMinor := reserveMinor, currency := "USD", exponent := 2 } }
    wellFormed := by
      simp [wellFormedAuction, lampRegistration, Money.sameAsset, ListingRecord.unitPrice,
        sampleRecord, above] }

def reservedBid (bidder : Pubky) (maximum revision : ℕ)
    (safe : maximum ≤ maxSafeInteger := by decide) (positive : 0 < maximum := by decide) :
    BidCommand :=
  { sender := ⟨bidder, revision⟩
    maximumAmount := { amountMinor := maximum, currency := "USD", exponent := 2 }
    safe := safe
    positive := positive }

/-- Two reserves and two maximums of the leader, and what another bidder does. -/
def hiddenLampRuns : List (FloorRequest × FloorRequest) :=
  [(.register lampId "lamp" (reservedLamp 0 1 5000) ⟨"seller", 0⟩,
      .register lampId "lamp" (reservedLamp 0 1 6000) ⟨"seller", 0⟩),
    (.placeBid lampId (reservedBid "bob" 4000 1), .placeBid lampId (reservedBid "bob" 4500 1)),
    (.placeBid lampId (reservedBid "alice" 3000 2 lampMaximum_safe lampMaximum_pos),
      .placeBid lampId (reservedBid "alice" 3000 2 lampMaximum_safe lampMaximum_pos)),
    (.getListing lampId "alice", .getListing lampId "alice"),
    (.listListingBids lampId "alice", .listListingBids lampId "alice")]

theorem alice_elsewhere (name : String) : listingAggregateId ("alice", name) ≠ lampId := by
  intro same
  have letters := congrArg (fun text => text.toList[8]?) same
  simp [listingAggregateId, lampId, String.toList_append] at letters

/-- The other bidder bids and reads both views, and cannot tell the runs apart. -/
theorem hidden_lamp_alike :
    ((received "alice" (hiddenLampRuns.map Prod.fst) (emptyFloor.run (fun _ => "") sampleReferences
        (hiddenLampRuns.map Prod.fst)).2).map FloorResponse.isDone) = [true, true, true] ∧
      received "alice" (hiddenLampRuns.map Prod.fst) (emptyFloor.run (fun _ => "")
          sampleReferences (hiddenLampRuns.map Prod.fst)).2 =
        received "alice" (hiddenLampRuns.map Prod.snd) (emptyFloor.run (fun _ => "")
          sampleReferences (hiddenLampRuns.map Prod.snd)).2 := by
  refine ⟨by decide +kernel, ?_⟩
  refine (auction_secrecy (fun _ => "") sampleReferences ⟨true, some "bob"⟩ lampId "alice"
    (by decide) (fun _ => alice_elsewhere) [] hiddenLampRuns emptyFloor rfl ?_).1
  refine ⟨⟨⟨.reserve rfl ⟨rfl, rfl, rfl, rfl, nofun⟩, ?_, ?_, ?_, ?_, ?_⟩, ?_⟩,
    ⟨⟨.maximum rfl ⟨rfl, rfl, rfl, fun shown => absurd rfl shown⟩, ?_, ?_, ?_, ?_, ?_⟩, ?_⟩,
    ⟨⟨.same _, ?_, ?_, ?_, ?_, ?_⟩, ?_⟩, ⟨⟨.same _, ?_, ?_, ?_, ?_, ?_⟩, ?_⟩,
    ⟨⟨.same _, ?_, ?_, ?_, ?_, ?_⟩, ?_⟩, trivial⟩ <;> decide +kernel

/-- A scheduled lamp with a reserve of 50 or of 30 dollars, whose seller then
sets the reserve to 40. -/
def editedLampRuns : List (FloorRequest × FloorRequest) :=
  [(.register lampId "lamp" (reservedLamp 50 1 5000) ⟨"seller", 0⟩,
      .register lampId "lamp" (reservedLamp 50 1 3000) ⟨"seller", 0⟩),
    (.register lampId "lamp" (reservedLamp 50 2 4000) ⟨"seller", 1⟩,
      .register lampId "lamp" (reservedLamp 50 2 4000) ⟨"seller", 1⟩),
    (.getListing lampId "alice", .getListing lampId "alice")]

def FloorResponse.shownRevision : FloorResponse → Option ℤ
  | .body (.obj fields) =>
      (fields.find? fun field => field.1 == "listing_revision").bind fun field =>
        match field.2 with
        | .num value => some value
        | _ => none
  | _ => none

/-- The edit is a decrease in one run only, and the listing revision tells. -/
theorem reserve_edit_is_seen :
    ¬ ∀ pairs : List (FloorRequest × FloorRequest),
      Unwinding.Meets (Floor.serve (fun _ => "") sampleReferences)
        (Veil.Hides (fun _ => "") sampleReferences ⟨true, none⟩ lampId "alice") emptyFloor
        emptyFloor pairs →
      received "alice" (pairs.map Prod.fst) (emptyFloor.run (fun _ => "") sampleReferences
          (pairs.map Prod.fst)).2 =
        received "alice" (pairs.map Prod.snd) (emptyFloor.run (fun _ => "") sampleReferences
          (pairs.map Prod.snd)).2 := by
  intro secret
  have alike := secret editedLampRuns (by
    refine ⟨⟨.reserve rfl ⟨rfl, rfl, rfl, rfl, nofun⟩, ?_, ?_, ?_, ?_, ?_⟩,
      ⟨.same _, ?_, ?_, ?_, ?_, ?_⟩, ⟨.same _, ?_, ?_, ?_, ?_, ?_⟩, trivial⟩ <;> decide +kernel)
  have shown := congrArg (List.map FloorResponse.shownRevision) alike
  revert shown
  decide +kernel

end MarketplaceService
