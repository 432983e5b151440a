import MarketplaceService.AuctionFiles

/-!
The end of an auction under its anti-sniping terms. A bid inside the window sets
the end to its own time and the extension, whatever was left: the end moves back
when the extension is shorter than the time that was left, and stays or moves on
otherwise. No other command writes the end of an auction.
-/

namespace MarketplaceService

/-- A bid at this time falls into the window, and the extension is shorter than
the time left. -/
def AuctionState.cutShort (auction : AuctionState) (now : Time) : Prop :=
  0 < auction.antiSnipingWindowSeconds ∧
    auction.endsAt - now ≤ auction.antiSnipingWindowSeconds ∧
    now + auction.antiSnipingExtensionSeconds < auction.endsAt

instance (auction : AuctionState) (now : Time) : Decidable (auction.cutShort now) :=
  inferInstanceAs (Decidable (0 < auction.antiSnipingWindowSeconds ∧
    auction.endsAt - now ≤ auction.antiSnipingWindowSeconds ∧
    now + auction.antiSnipingExtensionSeconds < auction.endsAt))

/-- No bid is placed where the extension is shorter than the time left. -/
def bidsExtend (house : House) : HouseAction → Prop
  | .placeBid id _ => ∀ file ∈ house.files.find? id, ¬ file.auction.cutShort house.sys.clock
  | _ => True

instance (house : House) (action : HouseAction) : Decidable (bidsExtend house action) :=
  match action with
  | .placeBid id _ => inferInstanceAs (Decidable (∀ file ∈ house.files.find? id,
      ¬ file.auction.cutShort house.sys.clock))
  | .service _ | .register .. | .close .. => inferInstanceAs (Decidable True)

theorem withBid_extends (auction : AuctionState) (visible : ℕ) (leader : Pubky) (now : Time) :
    auction.endsAt ≤ (auction.withBid visible leader now).endsAt ↔ ¬ auction.cutShort now := by
  unfold AuctionState.withBid AuctionState.cutShort
  dsimp only
  split
  · rename_i inside
    constructor
    · intro later cut
      exact absurd cut.2.2 (not_lt.mpr later)
    · intro longer
      by_contra shorter
      exact longer ⟨inside.1, inside.2, not_le.mp shorter⟩
  · rename_i outside
    constructor
    · intro _ cut
      exact outside ⟨cut.1, cut.2.1⟩
    · intro _
      exact le_refl _

theorem set_endsAt {files : Keyed.Table ListingId AuctionFile} {id named : ListingId}
    {file before written : AuctionFile} (filed : files.find? id = some file)
    (present : files.find? named = some before)
    (later : before.auction.endsAt ≤ written.auction.endsAt) :
    ∃ next, (files.set named written).find? id = some next ∧
      file.auction.endsAt ≤ next.auction.endsAt := by
  rw [Keyed.Table.find?_set]
  by_cases here : id = named
  · subst here
    obtain rfl := Option.some.inj (present.symm.trans filed)
    exact ⟨written, if_pos rfl, later⟩
  · exact ⟨file, (if_neg here).trans filed, le_refl _⟩

theorem house_endsAt {references : References} {house after : House} {action : HouseAction}
    (catalogued : Catalogued house) (longer : bidsExtend house action)
    (stepped : house.step references action = some after) {id : ListingId} {file : AuctionFile}
    (filed : house.files.find? id = some file) :
    ∃ next, after.files.find? id = some next ∧ file.auction.endsAt ≤ next.auction.endsAt := by
  cases action with
  | service step =>
      obtain ⟨-, stepped⟩ := Option.ite_none_left_eq_some.mp stepped
      obtain ⟨sys, -, rfl⟩ := Option.map_eq_some_iff.mp stepped
      exact ⟨file, filed, le_refl _⟩
  | register named registration sender =>
      obtain ⟨-, -, files, edits⟩ := register_base (Outcome.toOption_some stepped)
      rw [files]
      cases present : house.files.find? named with
      | none =>
          have other : id ≠ named := by
            rintro rfl
            cases present.symm.trans filed
          refine ⟨file, ?_, le_refl _⟩
          rw [Keyed.Table.find?_set_ne _ _ other]
          exact filed
      | some before =>
          -- A listed auction is edited, which keeps its auction column.
          obtain ⟨lot, listed⟩ : ∃ lot, house.lotOf named = some lot := by
            cases listed : house.lotOf named with
            | none => cases (catalogued.unlisted named listed).symm.trans present
            | some lot => exact ⟨lot, rfl⟩
          obtain ⟨listing, found, -⟩ := lotOf_listing listed
          have same := edits listing found before present
          rw [registeredFile_edit same]
          exact set_endsAt filed present (le_refl _)
  | placeBid named command =>
      obtain ⟨listing, before, -, present, -, -, -, files⟩ :=
        placeBid_base (Outcome.toOption_some stepped)
      rw [files]
      exact set_endsAt filed present ((withBid_extends _ _ _ _).mpr (longer before present))
  | close named closer reservation order =>
      cases close_ok (Outcome.toOption_some stepped) with
      | sold found present active won closed inserted files =>
          rw [files]
          exact set_endsAt filed present (le_refl _)
      | unsold found present active closed written files =>
          rw [files]
          exact set_endsAt filed present (le_refl _)

theorem run_endsAt {references : References} {labels : List HouseAction} :
    ∀ {house after : House}, Runs.Reachable (auctionHouse references) Runs.anyStep house →
      Runs.Meets (auctionHouse references) bidsExtend house labels →
      Runs.run (auctionHouse references) house labels = some after →
      ∀ {id : ListingId} {file : AuctionFile}, house.files.find? id = some file →
        ∃ next, after.files.find? id = some next ∧
          file.auction.endsAt ≤ next.auction.endsAt := by
  induction labels with
  | nil =>
      intro house after _ _ ran id file filed
      cases ran
      exact ⟨file, filed, le_refl _⟩
  | cons label rest ih =>
      intro house after reached meets ran id file filed
      obtain ⟨middle, stepped, tail⟩ := Option.bind_eq_some_iff.mp ran
      obtain ⟨next, present, first⟩ :=
        house_endsAt (reachable_catalogued reached) meets.1 stepped filed
      obtain ⟨last, kept, second⟩ :=
        ih (.next reached trivial stepped) (meets.2 middle stepped) tail present
      exact ⟨last, kept, first.trans second⟩

/-- A bid moves the end of its auction back exactly when it falls into the
window with more time left than the extension. Along every run without such a
bid no auction ends earlier. -/
theorem bids_extend_auctions (references : References) (house : House)
    (reached : Runs.Reachable (auctionHouse references) Runs.anyStep house) :
    (∀ listing file command now placed,
      placeAuctionBid (some listing) (some file) command now = .ok placed →
        (file.auction.endsAt ≤ placed.auction.endsAt ↔ ¬ file.auction.cutShort now)) ∧
    ∀ labels after, Runs.Meets (auctionHouse references) bidsExtend house labels →
      Runs.run (auctionHouse references) house labels = some after →
      ∀ id file, house.files.find? id = some file →
        ∃ next, after.files.find? id = some next ∧
          file.auction.endsAt ≤ next.auction.endsAt := by
  constructor
  · intro listing file command now placed accepted
    obtain ⟨row, before, -, same, -, rfl⟩ := placeAuctionBid_ok accepted
    cases same
    exact withBid_extends _ _ _ _
  · intro labels after meets ran id file filed
    exact run_endsAt reached meets ran filed

/-- The lamp, sold within an hour with the given window and extension. -/
def guardedLamp (window extension : ℕ) (window_le : window ≤ 3600 := by decide)
    (extension_le : extension ≤ 3600 := by decide) : HouseAction :=
  .register "lamp"
    { lampRegistration 0 1000 (by decide) with
      terms :=
        { (lampRegistration 0 1000 (by decide)).terms with
          antiSnipingWindowSeconds := window
          antiSnipingExtensionSeconds := extension
          window_le := window_le
          extension_le := extension_le }
      wellFormed := rfl } ⟨"seller", 0⟩

/-- A bid a minute before the end, with two minutes of extension, moves it on. -/
theorem late_bid_extends_lamp :
    ∃ house, Runs.Reachable (auctionHouse sampleReferences) Runs.anyStep house ∧
      ∃ file ∈ house.files.find? "lamp", file.auction.endsAt = 1000 ∧
        ∃ after next, house.step sampleReferences (lampBid "alice" 3000 1) = some after ∧
          after.files.find? "lamp" = some next ∧ next.auction.endsAt = 1060 ∧
          file.auction.endsAt ≤ next.auction.endsAt := by
  obtain ⟨house, reached, file, filed, ends, meets, after, stepped, next, placed, later⟩ :=
    Runs.exists_reachable_of_run (auctionHouse sampleReferences) rfl
      [guardedLamp 60 120, .service (.tick 940)]
      (fun house => ∃ file ∈ house.files.find? "lamp", file.auction.endsAt = 1000 ∧
        bidsExtend house (lampBid "alice" 3000 1) ∧
        ∃ after ∈ house.step sampleReferences (lampBid "alice" 3000 1),
          ∃ next ∈ after.files.find? "lamp", next.auction.endsAt = 1060)
      (Runs.meets_anyStep _ _ _) (by decide +kernel)
  obtain ⟨last, present, kept⟩ :=
    (bids_extend_auctions sampleReferences house reached).2 [lampBid "alice" 3000 1] after
      ⟨meets, fun _ _ => trivial⟩ (Option.bind_eq_some_iff.mpr ⟨after, stepped, rfl⟩) "lamp" file
      filed
  obtain rfl := Option.some.inj (present.symm.trans placed)
  exact ⟨house, reached, file, filed, ends, after, last, stepped, present, later, kept⟩

/-- With an hour of window and a minute of extension, the first bid on a lamp
that ends in 1000 seconds ends it in sixty. -/
theorem first_bid_cuts_lamp_short :
    ∃ house, Runs.Reachable (auctionHouse sampleReferences) Runs.anyStep house ∧
      ∃ file ∈ house.files.find? "lamp", ∃ after ∈ house.step sampleReferences
          (lampBid "alice" 3000 1), ∃ next ∈ after.files.find? "lamp",
        file.auction.status = .active ∧ house.sys.clock = 0 ∧ file.auction.endsAt = 1000 ∧
          next.auction.endsAt = 60 ∧ ¬ file.auction.endsAt ≤ next.auction.endsAt :=
  Runs.exists_reachable_of_run (auctionHouse sampleReferences) rfl [guardedLamp 3600 60]
    (fun house => ∃ file ∈ house.files.find? "lamp", ∃ after ∈ house.step sampleReferences
        (lampBid "alice" 3000 1), ∃ next ∈ after.files.find? "lamp",
      file.auction.status = .active ∧ house.sys.clock = 0 ∧ file.auction.endsAt = 1000 ∧
        next.auction.endsAt = 60 ∧ ¬ file.auction.endsAt ≤ next.auction.endsAt)
    (Runs.meets_anyStep _ _ _) (by decide +kernel)

end MarketplaceService
