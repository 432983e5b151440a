import MarketplaceService.CheckoutSums
import Mathlib.Data.List.Induction

/-!
The orders of a checkout share its cart out: one order for each seller and
fulfillment choice, with all lines of the two in cart order.
-/

namespace MarketplaceService

/-- What decides which order a line belongs to. -/
def ResolvedLine.parcel (resolved : ResolvedLine) : Pubky × Fulfillment :=
  (resolved.row.sellerPubky, resolved.line.fulfillment)

def Order.parcel (order : Order) : Pubky × Fulfillment := (order.sellerPubky, order.fulfillment)

def CheckoutGroup.entry (group : CheckoutGroup) : (Pubky × Fulfillment) × List ResolvedLine :=
  ((group.sellerPubky, group.fulfillment), group.lines)

structure Shares (lines : List ResolvedLine) (groups : List CheckoutGroup) : Prop where
  apart : ((groups.map CheckoutGroup.entry).map Prod.fst).Nodup
  own : ∀ parcel, Keyed.lookup parcel (groups.map CheckoutGroup.entry) =
    if parcel ∈ lines.map ResolvedLine.parcel then some (lines.filter (·.parcel = parcel)) else none

theorem addToGroup_put (resolved : ResolvedLine) (groups : List CheckoutGroup) :
    (addToGroup resolved groups).map CheckoutGroup.entry =
      Keyed.put resolved.parcel
        ((Keyed.lookup resolved.parcel (groups.map CheckoutGroup.entry)).getD [] ++ [resolved])
        (groups.map CheckoutGroup.entry) := by
  induction groups with
  | nil => rfl
  | cons head rest ih =>
      by_cases same : (head.sellerPubky, head.fulfillment) = resolved.parcel
      · rw [addToGroup, if_pos (Prod.mk.inj same)]
        simp [CheckoutGroup.entry, Keyed.put, Keyed.lookup, same]
      · rw [addToGroup, if_neg fun fits => same (Prod.ext fits.1 fits.2), List.map_cons, ih]
        simp [CheckoutGroup.entry, Keyed.put, Keyed.lookup, same]

theorem Shares.step {lines : List ResolvedLine} {groups : List CheckoutGroup}
    (shares : Shares lines groups) (resolved : ResolvedLine) :
    Shares (lines ++ [resolved]) (addToGroup resolved groups) := by
  constructor
  · rw [addToGroup_put]
    exact Keyed.put_nodup _ _ _ shares.apart
  · intro parcel
    rw [addToGroup_put, Keyed.lookup_put, shares.own, shares.own]
    by_cases same : parcel = resolved.parcel
    · subst same
      have gathered : (if resolved.parcel ∈ lines.map ResolvedLine.parcel then
          some (lines.filter (·.parcel = resolved.parcel)) else none).getD [] =
            lines.filter (·.parcel = resolved.parcel) := by
        split
        · rfl
        · rename_i fresh
          refine (List.filter_eq_nil_iff.mpr fun earlier there hit => fresh ?_).symm
          exact of_decide_eq_true hit ▸ List.mem_map_of_mem there
      rw [if_pos rfl, gathered, if_pos (List.mem_map_of_mem (by simp)), List.filter_append]
      simp
    · simp [same, Ne.symm same]

theorem Shares.present {lines : List ResolvedLine} {groups : List CheckoutGroup}
    (shares : Shares lines groups) (parcel : Pubky × Fulfillment) :
    parcel ∈ (groups.map CheckoutGroup.entry).map Prod.fst ↔
      parcel ∈ lines.map ResolvedLine.parcel := by
  rw [← not_iff_not, ← Keyed.lookup_none_iff, shares.own, ite_eq_right_iff]
  exact ⟨fun fresh known => Option.some_ne_none _ (fresh known), fun fresh known =>
    absurd known fresh⟩

theorem groupLines_shares (lines : List ResolvedLine) : Shares lines (groupLines lines) := by
  induction lines using List.reverseRecOn with
  | nil => exact ⟨List.nodup_nil, fun _ => rfl⟩
  | append_singleton earlier resolved ih =>
      rw [groupLines, List.foldl_append]
      exact ih.step resolved

/-- The orders of a checkout share its cart out: no two are for the same seller and fulfillment
choice, and each has exactly the lines of its own, in cart order. -/
theorem checkout_shares_cart {inventory after : Inventory} {request : CheckoutRequest} {now : Time}
    {books : List OrderBook} (created : checkoutCreate inventory request now = .ok (books, after)) :
    ∃ resolved : List ResolvedLine, resolved.map ResolvedLine.line = request.lines ∧
      (∀ entry ∈ resolved, inventory.listings.find? entry.line.listing = some entry.row) ∧
      (books.map fun book => book.order.parcel).Nodup ∧
      (∀ parcel, parcel ∈ (books.map fun book => book.order.parcel) ↔
        parcel ∈ resolved.map ResolvedLine.parcel) ∧
      ∀ book ∈ books, book.order.lines =
        (resolved.filter (·.parcel = book.order.parcel)).map ResolvedLine.orderLine := by
  obtain ⟨dropId, gated, resolved, asset, claimed, resolves, -, ids, rfl, -⟩ :=
    checkoutCreate_ok created
  obtain ⟨lines, rows⟩ := resolveLines_ok resolves
  have shares := groupLines_shares resolved
  have parcels : (((request.orderIds.zip (groupLines resolved)).map fun drawn =>
      groupBook request dropId asset now drawn.1 drawn.2).map fun book => book.order.parcel) =
        ((groupLines resolved).map CheckoutGroup.entry).map Prod.fst := by
    rw [List.map_map, List.map_map]
    change (request.orderIds.zip _).map ((Prod.fst ∘ CheckoutGroup.entry) ∘ Prod.snd) = _
    rw [← List.map_map, List.map_snd_zip ids.ge]
  refine ⟨resolved, lines, ?_, ?_, ?_, ?_⟩
  · intro entry member
    rw [← (claimDrop_ok claimed).1.1]
    exact (rows entry member).1
  · rw [parcels]
    exact shares.apart
  · rw [parcels]
    exact shares.present
  · intro book member
    obtain ⟨drawn, paired, rfl⟩ := List.mem_map.mp member
    have own := Keyed.lookup_of_mem _ _ _ shares.apart
      (List.mem_map_of_mem (List.of_mem_zip paired).2)
    rw [shares.own] at own
    obtain ⟨-, own⟩ := Option.ite_none_right_eq_some.mp own
    exact congrArg (List.map ResolvedLine.orderLine) (Option.some.inj own).symm

/-- A shop of two sellers: a lamp and its shade, and a joiner's chair. -/
def furnishedShop : Inventory :=
  { emptyInventory with
    listings := ((Keyed.Table.set .empty "lamp" (pricedListing 12500 3)).set "shade"
      (pricedListing 900 2)).set "chair" { pricedListing 4000 5 with sellerPubky := "joiner" } }

/-- The joiner's line stands between the two of the other seller. -/
def furnishedCart : CheckoutRequest where
  buyer := "buyer"
  lines :=
    [ ⟨"lamp", 1, 1, .shipping, Nat.one_pos⟩
    , ⟨"chair", 2, 1, .shipping, Nat.two_pos⟩
    , ⟨"shade", 1, 1, .shipping, Nat.one_pos⟩ ]
  orderIds := [1, 2]
  locksAuthority := false
  dropClaimWindowSeconds := 600

theorem furnished_checkout_shared :
    ∃ books after, checkoutCreate furnishedShop furnishedCart 0 = .ok (books, after) ∧
      (books.map fun book => (book.order.sellerPubky, book.order.lines.map Line.listing)) =
        [("seller", ["lamp", "shade"]), ("joiner", ["chair"])] ∧
      (books.map fun book => book.order.parcel).Nodup ∧
      ∃ resolved : List ResolvedLine, resolved.map ResolvedLine.line = furnishedCart.lines ∧
        ∀ book ∈ books, book.order.lines =
          (resolved.filter (·.parcel = book.order.parcel)).map ResolvedLine.orderLine := by
  obtain ⟨⟨books, after⟩, created, shared⟩ :
      ∃ result ∈ (checkoutCreate furnishedShop furnishedCart 0).toOption,
        (result.1.map fun book => (book.order.sellerPubky, book.order.lines.map Line.listing)) =
          [("seller", ["lamp", "shade"]), ("joiner", ["chair"])] := by
    decide +kernel
  have written := Outcome.toOption_some created
  obtain ⟨resolved, lines, -, apart, -, own⟩ := checkout_shares_cart written
  exact ⟨books, after, written, shared, apart, resolved, lines, own⟩

end MarketplaceService
