import MarketplaceService.LineLoops

/-!
What the drop code does to a drop's counters and to its buyers' counters. A
write touches one drop and one buyer; server-time transitions touch neither.
-/

namespace MarketplaceService

/-- The columns a hold, a release and a confirmation count in. -/
structure Counts where
  remaining : ℕ
  total : ℕ
  paid : ℕ
  startsAt : Time
deriving DecidableEq, Repr

def Drop.counts (drop : Drop) : Counts :=
  { remaining := drop.remainingQuantity
    total := drop.totalQuantity
    paid := drop.paidQuantity
    startsAt := drop.startsAt }

def Inventory.countsOf (inventory : Inventory) (dropId : DropId) : Option Counts :=
  (inventory.drops.find? dropId).map Drop.counts

theorem countsOf_set (inventory : Inventory) (drops : Keyed.Table DropId Drop) (dropId id : DropId)
    (drop : Drop) (written : inventory.drops = drops.set dropId drop) :
    inventory.countsOf id =
      if id = dropId then some drop.counts else (drops.find? id).map Drop.counts := by
  unfold Inventory.countsOf
  rw [written, Keyed.Table.find?_set]
  by_cases here : id = dropId <;> simp [here]

theorem heldUnits_congr {before after : Inventory}
    (same : after.dropPurchases = before.dropPurchases) (dropId : DropId) (buyer : Pubky) :
    heldUnits after dropId buyer = heldUnits before dropId buyer := by
  unfold heldUnits
  rw [same]

theorem heldUnits_set (before inventory : Inventory) (key : DropId × Pubky)
    (purchase : DropPurchase)
    (written : inventory.dropPurchases = before.dropPurchases.set key purchase)
    (dropId : DropId) (buyer : Pubky) :
    heldUnits inventory dropId buyer =
      if (dropId, buyer) = key then purchase.quantity else heldUnits before dropId buyer := by
  unfold heldUnits
  rw [written, Keyed.Table.find?_set]
  by_cases here : (dropId, buyer) = key <;> simp [here]

/-- The part of the inventory no drop write touches. -/
def SameListings (before after : Inventory) : Prop :=
  after.listings = before.listings ∧ after.reservations = before.reservations

/-- Server-time transitions move a drop's label and its bindings only. -/
theorem applyTimeTransitions_counts (inventory : Inventory) (dropId : DropId) (drop : Drop)
    (now : Time) (found : inventory.drops.find? dropId = some drop) :
    (applyTimeTransitions inventory dropId drop now).1.counts = drop.counts ∧
      SameListings inventory (applyTimeTransitions inventory dropId drop now).2 ∧
      (applyTimeTransitions inventory dropId drop now).2.dropPurchases = inventory.dropPurchases ∧
      ∀ id, (applyTimeTransitions inventory dropId drop now).2.countsOf id =
        inventory.countsOf id := by
  unfold applyTimeTransitions
  simp only
  split
  · exact ⟨rfl, ⟨rfl, rfl⟩, rfl, fun _ => rfl⟩
  · refine ⟨rfl, ?_, ?_, ?_⟩
    · split <;> exact ⟨rfl, rfl⟩
    · split <;> rfl
    · intro id
      have written (deactivated : Inventory)
          (drops : deactivated.drops = inventory.drops.set dropId { drop with
            state := derivedState drop.startsAt drop.endsAt now
            revision := drop.revision + 1
            updatedAt := now }) : deactivated.countsOf id = inventory.countsOf id := by
        rw [countsOf_set _ _ _ _ _ drops]
        by_cases here : id = dropId
        · simp [here, Inventory.countsOf, found, Drop.counts]
        · simp [here, Inventory.countsOf]
      split
      · exact written _ rfl
      · exact written _ rfl

theorem Counts.ext_remaining {left right : Drop} (same : left.counts = right.counts) :
    left.remainingQuantity = right.remainingQuantity ∧
      left.totalQuantity = right.totalQuantity ∧
      left.paidQuantity = right.paidQuantity ∧ left.startsAt = right.startsAt := by
  simpa [Drop.counts] using same

/-! The bound drop. -/

/-- The choice among the bindings of a listing. -/
def chooseBound (best : Option (DropId × DropListing × Drop))
    (candidate : DropId × DropListing × Drop) : Option (DropId × DropListing × Drop) :=
  match best with
  | none => some candidate
  | some kept => if boundBefore candidate kept then some candidate else some kept

theorem chooseBound_some (best : Option (DropId × DropListing × Drop))
    (candidate : DropId × DropListing × Drop) :
    ∃ chosen, chooseBound best candidate = some chosen ∧
      (chosen = candidate ∨ best = some chosen) := by
  cases best with
  | none => exact ⟨candidate, rfl, .inl rfl⟩
  | some kept =>
      by_cases earlier : boundBefore candidate kept = true
      · exact ⟨candidate, by simp [chooseBound, earlier], .inl rfl⟩
      · exact ⟨kept, by simp [chooseBound, earlier], .inr rfl⟩

theorem chooseBound_foldl (candidates : List (DropId × DropListing × Drop)) :
    ∀ best, match candidates.foldl chooseBound best with
      | none => best = none ∧ candidates = []
      | some chosen => best = some chosen ∨ chosen ∈ candidates := by
  induction candidates with
  | nil =>
      intro best
      cases best <;> simp
  | cons candidate rest ih =>
      intro best
      obtain ⟨chosen, first, source⟩ := chooseBound_some best candidate
      have tail := ih (some chosen)
      rw [List.foldl_cons, first]
      revert tail
      cases rest.foldl chooseBound (some chosen) with
      | none => simp
      | some last =>
          rintro (same | member)
          · cases same
            rcases source with rfl | old
            · exact .inr List.mem_cons_self
            · exact .inl old
          · exact .inr (List.mem_cons_of_mem _ member)

theorem lockBoundDrop_cases (inventory : Inventory) (listing : ListingId) :
    match lockBoundDrop inventory listing with
    | none => boundCandidates inventory listing = []
    | some (dropId, drop) =>
        ∃ binding, (dropId, binding, drop) ∈ boundCandidates inventory listing := by
  have chosen := chooseBound_foldl (boundCandidates inventory listing) none
  have folded : lockBoundDrop inventory listing =
      ((boundCandidates inventory listing).foldl chooseBound none).map
        fun chosen => (chosen.1, chosen.2.2) := rfl
  rw [folded]
  revert chosen
  cases (boundCandidates inventory listing).foldl chooseBound none with
  | none => exact fun both => both.2
  | some pick =>
      rintro (same | member)
      · cases same
      · exact ⟨pick.2.1, member⟩

theorem mem_boundCandidates {inventory : Inventory} {listing : ListingId} {dropId : DropId}
    {binding : DropListing} {drop : Drop}
    (member : (dropId, binding, drop) ∈ boundCandidates inventory listing) :
    ∃ row, inventory.listings.find? listing = some row ∧
      ((dropId, listing), binding) ∈ inventory.dropListings.rows ∧ binding.released = false ∧
      binding.listingGeneration = row.generation ∧ inventory.drops.find? dropId = some drop := by
  unfold boundCandidates at member
  cases found : inventory.listings.find? listing with
  | none => simp [found] at member
  | some row =>
      simp only [found, List.mem_filterMap] at member
      obtain ⟨⟨⟨otherDrop, otherListing⟩, stored⟩, present, kept⟩ := member
      obtain ⟨⟨rfl, unreleased, generation⟩, joined⟩ := Option.ite_none_right_eq_some.mp kept
      obtain ⟨other, stocked, same⟩ := Option.map_eq_some_iff.mp joined
      cases same
      exact ⟨row, rfl, present, unreleased, generation, stocked⟩

theorem lockBoundDrop_found {inventory : Inventory} {listing : ListingId} {dropId : DropId}
    {drop : Drop} (bound : lockBoundDrop inventory listing = some (dropId, drop)) :
    inventory.drops.find? dropId = some drop := by
  have chosen := lockBoundDrop_cases inventory listing
  rw [bound] at chosen
  obtain ⟨binding, member⟩ := chosen
  obtain ⟨row, -, -, -, -, found⟩ := mem_boundCandidates member
  exact found

/-! The debit of a hold. -/

theorem upsertPurchase_ok {existing : Option DropPurchase} {units limit : ℕ}
    {purchase : DropPurchase} (upserted : upsertPurchase existing units limit = .ok purchase) :
    purchase.quantity = (existing.map DropPurchase.quantity).getD 0 + units := by
  unfold upsertPurchase at upserted
  cases existing with
  | none =>
      simp only at upserted
      split at upserted
      · cases upserted
        simp
      · cases upserted
  | some held =>
      simp only [DropPurchase.add] at upserted
      split at upserted
      · cases upserted
        rfl
      · cases upserted

theorem enforceDropGate_ok {inventory after : Inventory} {dropId : DropId} {drop : Drop}
    {buyer : Pubky} {units : ℕ} {now : Time} (found : inventory.drops.find? dropId = some drop)
    (gated : enforceDropGate inventory dropId drop buyer units now = .ok after) :
    units ≤ drop.remainingQuantity ∧ drop.startsAt ≤ now ∧ SameListings inventory after ∧
      (∀ id, after.countsOf id =
        if id = dropId then
          some { drop.counts with remaining := drop.remainingQuantity - units }
        else inventory.countsOf id) ∧
      (∀ id other, heldUnits after id other =
        heldUnits inventory id other + if (id, other) = (dropId, buyer) then units else 0) ∧
      ∀ key, (after.dropPurchases.find? key).isSome =
        ((inventory.dropPurchases.find? key).isSome || decide (key = (dropId, buyer))) := by
  have moved := applyTimeTransitions_counts inventory dropId drop now found
  have labelled : (applyTimeTransitions inventory dropId drop now).1.state = .live →
      drop.startsAt ≤ now ∨ drop.state = .live ∧
        derivedState drop.startsAt drop.endsAt now = .live := by
    unfold applyTimeTransitions
    simp only
    split
    · intro live
      rename_i kept
      simp only at live
      have active : isActiveState drop.state = true := by rw [live]; rfl
      simp only [active, Bool.not_true, Bool.false_eq_true, false_or, decide_eq_true_eq,
        Bool.or_eq_true] at kept
      exact .inr ⟨live, kept.trans live⟩
    · intro live
      simp only [derivedState] at live
      split at live
      · cases live
      · split at live
        · exact .inl ‹_›
        · cases live
  have started : derivedState drop.startsAt drop.endsAt now = .live → drop.startsAt ≤ now := by
    unfold derivedState
    intro live
    split at live
    · cases live
    · split at live
      · assumption
      · cases live
  revert gated moved labelled
  unfold enforceDropGate
  simp only
  generalize applyTimeTransitions inventory dropId drop now = transitioned
  rintro gated ⟨counts, listings, purchases, others⟩ labelled
  obtain ⟨remaining, total, paid, starts⟩ := Counts.ext_remaining counts
  split at gated
  · cases gated
  · split at gated
    · cases gated
    · rename_i announced live
      split at gated
      · cases gated
      · rename_i enough
        split at gated
        · cases gated
        · rw [purchases] at gated
          split at gated
          · cases gated
          · rename_i purchase upserted
            cases gated
            have counted := upsertPurchase_ok upserted
            refine ⟨by omega, ?_, ⟨listings.1, listings.2⟩, ?_, ?_, ?_⟩
            · rcases labelled (by simpa using live) with begun | ⟨-, derived⟩
              · exact begun
              · exact started derived
            · intro id
              rw [countsOf_set _ transitioned.2.drops dropId id _ rfl]
              by_cases here : id = dropId
              · simp [here, Drop.counts, Drop.debit, remaining, total, paid, starts]
              · simpa [here, Inventory.countsOf] using others id
            · intro id other
              rw [heldUnits_set inventory _ (dropId, buyer) purchase rfl]
              by_cases here : (id, other) = (dropId, buyer)
              · obtain ⟨rfl, rfl⟩ := Prod.mk.inj here
                simp [counted, heldUnits]
              · simp [here]
            · intro key
              simp only [Keyed.Table.find?_set]
              by_cases here : key = (dropId, buyer) <;> simp [here]

/-! The credit of a release. -/

theorem creditDropRelease_true {inventory after : Inventory} {dropId : DropId} {buyer : Pubky}
    {units : ℕ} {now : Time}
    (credited : creditDropRelease inventory dropId buyer units now = (true, after)) :
    ∃ drop, inventory.drops.find? dropId = some drop ∧
      drop.remainingQuantity + units ≤ drop.totalQuantity ∧
      units ≤ heldUnits inventory dropId buyer ∧ SameListings inventory after ∧
      (∀ id, after.countsOf id =
        if id = dropId then
          some { drop.counts with remaining := drop.remainingQuantity + units }
        else inventory.countsOf id) ∧
      (∀ id other, heldUnits after id other =
        heldUnits inventory id other - if (id, other) = (dropId, buyer) then units else 0) ∧
      ∀ key, (after.dropPurchases.find? key).isSome =
        (inventory.dropPurchases.find? key).isSome := by
  unfold creditDropRelease at credited
  cases found : inventory.drops.find? dropId with
  | none => simp [found] at credited
  | some drop =>
      simp only [found] at credited
      split at credited
      · rename_i fits
        cases counted : inventory.dropPurchases.find? (dropId, buyer) with
        | none => simp [counted] at credited
        | some purchase =>
            simp only [counted] at credited
            split at credited
            · rename_i enough
              simp only [Prod.mk.injEq, true_and] at credited
              subst credited
              refine ⟨drop, rfl, fits, by simpa [heldUnits, counted] using enough,
                ⟨rfl, rfl⟩, ?_, ?_, ?_⟩
              · intro id
                rw [countsOf_set _ inventory.drops dropId id _ rfl]
                by_cases here : id = dropId
                · simp [here, Drop.counts, Drop.credit]
                · simp [here, Inventory.countsOf]
              · intro id other
                rw [heldUnits_set inventory _ (dropId, buyer) _ rfl]
                by_cases here : (id, other) = (dropId, buyer)
                · obtain ⟨rfl, rfl⟩ := Prod.mk.inj here
                  simp [heldUnits, counted]
                · simp [here]
              · intro key
                simp only [Keyed.Table.find?_set]
                by_cases here : key = (dropId, buyer) <;> simp [here, counted]
            · simp at credited
      · simp at credited

/-! The paid unit of a confirmation. -/

theorem recordPaidUnit_ok {inventory after : Inventory} {dropId : DropId} {now : Time}
    {edition : ℕ} (counted : recordPaidUnit inventory dropId now = .ok (edition, after)) :
    ∃ drop, inventory.drops.find? dropId = some drop ∧
      drop.paidQuantity + 1 ≤ drop.totalQuantity ∧ SameListings inventory after ∧
      after.dropPurchases = inventory.dropPurchases ∧
      ∀ id, after.countsOf id =
        if id = dropId then some { drop.counts with paid := drop.paidQuantity + 1 }
        else inventory.countsOf id := by
  unfold recordPaidUnit at counted
  cases found : inventory.drops.find? dropId with
  | none => simp [found] at counted
  | some drop =>
      have moved := applyTimeTransitions_counts inventory dropId drop now found
      revert moved counted
      simp only [found]
      generalize applyTimeTransitions inventory dropId drop now = transitioned
      rintro counted ⟨counts, listings, purchases, others⟩
      obtain ⟨remaining, total, paid, starts⟩ := Counts.ext_remaining counts
      split at counted
      · rename_i fits
        refine ⟨drop, rfl, by omega, ?_⟩
        have writes (written : Inventory) (row : Drop)
            (drops : written.drops = transitioned.2.drops.set dropId row)
            (counted : row.counts = { drop.counts with paid := drop.paidQuantity + 1 })
            (id : DropId) : written.countsOf id =
              if id = dropId then some { drop.counts with paid := drop.paidQuantity + 1 }
              else inventory.countsOf id := by
          rw [countsOf_set _ _ _ _ _ drops, counted]
          by_cases here : id = dropId
          · simp [here]
          · simpa [here, Inventory.countsOf] using others id
        split at counted
        · cases counted
          exact ⟨listings, purchases, writes _ _ rfl (by
            simp [Drop.counts, remaining, total, paid, starts])⟩
        · cases counted
          exact ⟨listings, purchases, writes _ _ rfl (by
            simp [Drop.counts, remaining, total, paid, starts])⟩
      · cases counted

theorem recordPaidUnit_ok_iff (inventory : Inventory) (dropId : DropId) (now : Time) :
    (∃ counted, recordPaidUnit inventory dropId now = .ok counted) ↔
      ∃ drop ∈ inventory.drops.find? dropId, drop.paidQuantity + 1 ≤ drop.totalQuantity := by
  unfold recordPaidUnit
  cases found : inventory.drops.find? dropId with
  | none => simp
  | some drop =>
      have moved := applyTimeTransitions_counts inventory dropId drop now found
      revert moved
      simp only [Option.mem_def, Option.some.injEq, exists_eq_left']
      generalize applyTimeTransitions inventory dropId drop now = transitioned
      rintro ⟨counts, -⟩
      obtain ⟨-, total, paid, -⟩ := Counts.ext_remaining counts
      rw [← total, ← paid]
      by_cases fits : transitioned.1.paidQuantity + 1 ≤ transitioned.1.totalQuantity
      · simp only [fits, dif_pos, iff_true]
        split <;> exact ⟨_, rfl⟩
      · simp [fits]

/-! The debit of a late reacquisition. -/

/-- The order's drop is gone or has fewer units left than the order asks. -/
def DropLacks (inventory : Inventory) (order : Order) : Prop :=
  ∃ dropId ∈ order.dropAggregateId,
    ∀ drop ∈ inventory.drops.find? dropId, drop.remainingQuantity < order.units

instance (inventory : Inventory) (order : Order) : Decidable (DropLacks inventory order) :=
  inferInstanceAs (Decidable (∃ dropId ∈ order.dropAggregateId,
    ∀ drop ∈ inventory.drops.find? dropId, drop.remainingQuantity < order.units))

/-- The drop debit of `reacquire_hold`: nothing without a stamp; only labels
where the drop lacks the units; otherwise the drop is debited, and the buyer's
counter too unless its row is missing or full. -/
theorem reacquireDrop_cases (inventory : Inventory) (order : Order) (now : Time)
    {result : Except Failure Unit} {after : Inventory}
    (ran : reacquireDrop inventory order now = (result, after)) :
    SameListings inventory after ∧
      ((order.dropAggregateId = none ∧ result = .ok () ∧ after = inventory) ∨
        (DropLacks inventory order ∧ result = .error .stockUnavailable ∧
          after.dropPurchases = inventory.dropPurchases ∧
          ∀ id, after.countsOf id = inventory.countsOf id) ∨
        ∃ dropId drop, order.dropAggregateId = some dropId ∧
          inventory.drops.find? dropId = some drop ∧ order.units ≤ drop.remainingQuantity ∧
          result ≠ .error .stockUnavailable ∧
          (∀ id, after.countsOf id =
            if id = dropId then
              some { drop.counts with remaining := drop.remainingQuantity - order.units }
            else inventory.countsOf id) ∧
          (result = .ok () ↔ ∀ purchase ∈ inventory.dropPurchases.find? (dropId, order.buyerPubky),
            purchase.quantity + order.units ≤ purchase.perBuyerLimit) ∧
          ∀ key, (after.dropPurchases.find? key).map DropPurchase.quantity =
            (inventory.dropPurchases.find? key).map fun purchase =>
              purchase.quantity +
                if key = (dropId, order.buyerPubky) ∧ result = .ok () then order.units else 0) := by
  unfold reacquireDrop at ran
  cases stamped : order.dropAggregateId with
  | none =>
      simp only [stamped, Prod.mk.injEq] at ran
      obtain ⟨rfl, rfl⟩ := ran
      exact ⟨⟨rfl, rfl⟩, .inl ⟨rfl, rfl, rfl⟩⟩
  | some dropId =>
      cases found : inventory.drops.find? dropId with
      | none =>
          simp only [stamped, found, Prod.mk.injEq] at ran
          obtain ⟨rfl, rfl⟩ := ran
          refine ⟨⟨rfl, rfl⟩, .inr (.inl ⟨⟨dropId, stamped, ?_⟩, rfl, rfl, fun _ => rfl⟩)⟩
          intro drop present
          rw [found] at present
          cases present
      | some drop =>
          simp only [stamped, found] at ran
          have moved := applyTimeTransitions_counts inventory dropId drop now found
          revert moved ran
          generalize applyTimeTransitions inventory dropId drop now = transitioned
          rintro ran ⟨counts, listings, purchases, others⟩
          obtain ⟨remaining, total, paid, starts⟩ := Counts.ext_remaining counts
          simp only [remaining] at ran
          -- `apply_time_transitions` moves no counter: the guard reads the stored remaining units.
          by_cases lacks : drop.remainingQuantity < order.units
          · simp only [lacks, if_true, Prod.mk.injEq] at ran
            obtain ⟨rfl, rfl⟩ := ran
            refine ⟨listings, .inr (.inl ⟨⟨dropId, stamped, ?_⟩, rfl, purchases, others⟩)⟩
            intro other present
            rw [found] at present
            cases present
            exact lacks
          · have debits (written : Inventory)
                (drops : written.drops =
                  transitioned.2.drops.set dropId (transitioned.1.debit order.units now))
                (id : DropId) : written.countsOf id =
                  if id = dropId then
                    some { drop.counts with remaining := drop.remainingQuantity - order.units }
                  else inventory.countsOf id := by
              rw [countsOf_set _ _ _ _ _ drops]
              by_cases here : id = dropId
              · simp [here, Drop.counts, Drop.debit, remaining, total, paid, starts]
              · simpa [here, Inventory.countsOf] using others id
            have enough : order.units ≤ drop.remainingQuantity := by omega
            simp only [lacks, if_false, purchases] at ran
            cases counted : inventory.dropPurchases.find? (dropId, order.buyerPubky) with
            | none =>
                simp only [counted, Prod.mk.injEq] at ran
                obtain ⟨rfl, rfl⟩ := ran
                refine ⟨listings, .inr (.inr ⟨dropId, drop, rfl, found, enough, by simp,
                  debits _ rfl, by simp [counted], ?_⟩)⟩
                intro key
                by_cases here : key = (dropId, order.buyerPubky)
                · simp [here, counted]
                · simp [here]
            | some purchase =>
                simp only [counted, DropPurchase.add] at ran
                by_cases within : purchase.quantity + order.units ≤ purchase.perBuyerLimit
                · simp only [within, dif_pos, Prod.mk.injEq] at ran
                  obtain ⟨rfl, rfl⟩ := ran
                  refine ⟨listings, .inr (.inr ⟨dropId, drop, rfl, found, enough, by simp,
                    debits _ rfl, by simpa [counted] using within, ?_⟩)⟩
                  intro key
                  simp only [Keyed.Table.find?_set]
                  by_cases here : key = (dropId, order.buyerPubky)
                  · simp [here, counted]
                  · simp [here]
                · simp only [within, dif_neg, not_false_eq_true, Prod.mk.injEq] at ran
                  obtain ⟨rfl, rfl⟩ := ran
                  refine ⟨listings, .inr (.inr ⟨dropId, drop, rfl, found, enough, by simp,
                    debits _ rfl, by simpa [counted] using within, ?_⟩)⟩
                  intro key
                  simp

end MarketplaceService
