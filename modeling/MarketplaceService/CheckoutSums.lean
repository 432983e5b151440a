import MarketplaceService.Auctions
import MarketplaceService.CatalogPostings

/-!
The money columns of a checkout on 64 bits (`handlers/checkout.rs`, with the
limits of `validate_listing_payload` and `validate_create_checkout`). The
release build wraps, and neither the limit of a price nor that of a quantity
keeps their product in range.
-/

namespace MarketplaceService

/-- `validate_create_checkout`, as far as amounts depend on it. -/
structure ValidCheckout (lines : List CheckoutLine) : Prop where
  some_line : lines ≠ []
  few_lines : lines.length ≤ 50
  quantities : ∀ line ∈ lines, 1 ≤ line.quantity ∧ line.quantity ≤ 1000000

/-- `validate_listing_payload`, as far as amounts depend on it. -/
structure AdmittedPrices (listing : Listing) : Prop where
  positive : 1 ≤ listing.unitPriceAmountMinor
  price_le : listing.unitPriceAmountMinor ≤ maxSafeInteger
  shipping_le : listing.shippingMinor ≤ maxSafeInteger

structure StoredSums where
  lineSubtotals : List Int64
  subtotalMinor : Int64
  shippingMinor : Int64
  totalMinor : Int64
deriving DecidableEq

def ResolvedLine.subtotal (resolved : ResolvedLine) : Int64 :=
  Int64.ofNat resolved.row.unitPriceAmountMinor * Int64.ofNat resolved.line.quantity

/-- `Iterator::sum` of `i64`. -/
def sumI64 (amounts : List Int64) : Int64 := amounts.foldl (· + ·) 0

def CheckoutGroup.storedSums (group : CheckoutGroup) : StoredSums :=
  let subtotalMinor := sumI64 (group.lines.map ResolvedLine.subtotal)
  let shippingMinor :=
    if group.fulfillment ≠ .shipping then 0
    else sumI64 (group.lines.map fun resolved => Int64.ofNat resolved.row.shippingMinor)
  { lineSubtotals := group.lines.map ResolvedLine.subtotal
    subtotalMinor := subtotalMinor
    shippingMinor := shippingMinor
    totalMinor := subtotalMinor + shippingMinor }

def ResolvedLine.exactSubtotal (resolved : ResolvedLine) : ℕ :=
  resolved.row.unitPriceAmountMinor * resolved.line.quantity

def CheckoutGroup.exactSubtotal (group : CheckoutGroup) : ℕ :=
  (group.lines.map ResolvedLine.exactSubtotal).sum

def CheckoutGroup.exactShipping (group : CheckoutGroup) : ℕ :=
  if group.fulfillment = .shipping then
    (group.lines.map fun resolved => resolved.row.shippingMinor).sum
  else 0

/-- Every stored amount is the integer it stands for. -/
structure CheckoutGroup.Exact (group : CheckoutGroup) : Prop where
  lines : group.storedSums.lineSubtotals.map Int64.toInt =
    group.lines.map fun resolved => (resolved.exactSubtotal : ℤ)
  subtotal : group.storedSums.subtotalMinor.toInt = group.exactSubtotal
  shipping : group.storedSums.shippingMinor.toInt = group.exactShipping
  total : group.storedSums.totalMinor.toInt = group.exactSubtotal + group.exactShipping

def checkoutGroups (inventory : Inventory) (request : CheckoutRequest) (now : Time) :
    Except Failure (List CheckoutGroup) := do
  let (_, gated) ← claimDrop inventory request now
  let resolved ← resolveLines gated request.buyer request.lines
  return groupLines resolved

/-! Sums in range. -/

theorem bmod_of_small {value : ℤ} (low : 0 ≤ value) (high : value < 2 ^ 63) :
    value.bmod (2 ^ 64) = value := by
  refine Int.bmod_eq_of_le ?_ ?_
  · omega
  · omega

theorem sumI64_exact {Entry : Type} (entries : List Entry) (amount : Entry → Int64)
    (value : Entry → ℕ) (same : ∀ entry ∈ entries, (amount entry).toInt = value entry)
    (fits : (entries.map value).sum < 2 ^ 63) :
    (sumI64 (entries.map amount)).toInt = ((entries.map value).sum : ℕ) := by
  have running : ∀ (entries : List Entry) (sum : Int64) (carried : ℕ), sum.toInt = carried →
      (∀ entry ∈ entries, (amount entry).toInt = value entry) →
      carried + (entries.map value).sum < 2 ^ 63 →
      ((entries.map amount).foldl (· + ·) sum).toInt = (carried + (entries.map value).sum : ℕ) := by
    intro entries
    induction entries with
    | nil => exact fun sum carried start _ _ => start
    | cons first rest ih =>
        intro sum carried start same fits
        rw [List.map_cons, List.sum_cons] at fits
        have step : (sum + amount first).toInt = (carried + value first : ℕ) := by
          rw [Int64.toInt_add, start, same first List.mem_cons_self, ← Nat.cast_add]
          exact bmod_of_small (Int.natCast_nonneg _) (by omega)
        rw [List.map_cons, List.foldl_cons, List.map_cons, List.sum_cons, ← Nat.add_assoc]
        exact ih _ _ step (fun entry member => same entry (List.mem_cons_of_mem _ member))
          (by omega)
  have total := running entries 0 0 rfl same (by omega)
  rwa [Nat.zero_add] at total

theorem subtotal_exact {resolved : ResolvedLine} (admitted : AdmittedPrices resolved.row)
    (quantity : resolved.line.quantity ≤ 1000000) (fits : resolved.exactSubtotal < 2 ^ 63) :
    resolved.subtotal.toInt = resolved.exactSubtotal := by
  have price := admitted.price_le
  simp only [maxSafeInteger] at price
  unfold ResolvedLine.subtotal ResolvedLine.exactSubtotal at *
  rw [Int64.toInt_mul, Int64.toInt_ofNat_of_lt (by omega), Int64.toInt_ofNat_of_lt (by omega),
    ← Nat.cast_mul]
  exact bmod_of_small (Int.natCast_nonneg _) (by exact_mod_cast fits)

theorem exactSubtotal_le {group : CheckoutGroup} {resolved : ResolvedLine}
    (member : resolved ∈ group.lines) : resolved.exactSubtotal ≤ group.exactSubtotal :=
  List.single_le_sum (fun _ _ => Nat.zero_le _) _ (List.mem_map_of_mem member)

theorem CheckoutGroup.exact_iff {group : CheckoutGroup}
    (admitted : ∀ resolved ∈ group.lines, AdmittedPrices resolved.row)
    (quantities : ∀ resolved ∈ group.lines, resolved.line.quantity ≤ 1000000) :
    group.Exact ↔ group.exactSubtotal + group.exactShipping < 2 ^ 63 := by
  constructor
  · intro exact
    have bound := group.storedSums.totalMinor.toInt_lt
    rw [exact.total] at bound
    omega
  · intro fits
    have each : ∀ resolved ∈ group.lines, resolved.subtotal.toInt = resolved.exactSubtotal := by
      intro resolved member
      have part := exactSubtotal_le member
      exact subtotal_exact (admitted resolved member) (quantities resolved member) (by omega)
    have subtotal : group.storedSums.subtotalMinor.toInt = group.exactSubtotal :=
      sumI64_exact group.lines ResolvedLine.subtotal ResolvedLine.exactSubtotal each
        ((Nat.le_add_right _ _).trans_lt fits)
    have shipping : group.storedSums.shippingMinor.toInt = group.exactShipping := by
      unfold CheckoutGroup.storedSums CheckoutGroup.exactShipping at *
      dsimp only
      by_cases shipped : group.fulfillment = .shipping
      · rw [if_neg (not_not.mpr shipped), if_pos shipped]
        rw [if_pos shipped] at fits
        refine sumI64_exact group.lines _ (fun resolved => resolved.row.shippingMinor) ?_ (by omega)
        intro resolved member
        have flat := (admitted resolved member).shipping_le
        simp only [maxSafeInteger] at flat
        exact Int64.toInt_ofNat_of_lt (by omega)
      · rw [if_pos shipped, if_neg shipped]
        rfl
    refine ⟨?_, subtotal, shipping, ?_⟩
    · show (group.lines.map ResolvedLine.subtotal).map Int64.toInt = _
      rw [List.map_map]
      exact List.map_congr_left each
    · show (group.storedSums.subtotalMinor + group.storedSums.shippingMinor).toInt = _
      rw [Int64.toInt_add, subtotal, shipping]
      exact bmod_of_small (by omega) (by omega)

theorem CheckoutGroup.totalMinor_eq (group : CheckoutGroup) :
    group.totalMinor = group.exactSubtotal + group.exactShipping := rfl

theorem checkoutGroups_ok {inventory : Inventory} {request : CheckoutRequest} {now : Time}
    {groups : List CheckoutGroup} (grouped : checkoutGroups inventory request now = .ok groups)
    {group : CheckoutGroup} (member : group ∈ groups) :
    ∀ resolved ∈ group.lines, resolved.line ∈ request.lines ∧
      ∃ id, inventory.listings.find? id = some resolved.row := by
  intro entry here
  unfold checkoutGroups at grouped
  obtain ⟨⟨dropId, gated⟩, claimed, grouped⟩ := Outcome.bind_ok grouped
  obtain ⟨resolved, resolves, grouped⟩ := Outcome.bind_ok grouped
  cases Outcome.pure_ok grouped
  obtain ⟨lines, rows⟩ := resolveLines_ok resolves
  have known := groupLines_mem member here
  have found := (rows entry known).1
  rw [← lines]
  refine ⟨List.mem_map_of_mem known, entry.line.listing, ?_⟩
  rwa [← (claimDrop_ok claimed).1.1]

/-- Every amount that a valid checkout of admitted listings stores with an order
is the integer it stands for exactly when the order's total fits 64 bits. -/
theorem checkout_sums_exact (inventory : Inventory) (request : CheckoutRequest) (now : Time)
    (groups : List CheckoutGroup) (valid : ValidCheckout request.lines)
    (admitted : ∀ id listing, inventory.listings.find? id = some listing → AdmittedPrices listing)
    (grouped : checkoutGroups inventory request now = .ok groups) :
    ∀ group ∈ groups, group.Exact ↔ group.totalMinor < 2 ^ 63 := by
  intro group member
  have lines := checkoutGroups_ok grouped member
  rw [group.totalMinor_eq]
  refine group.exact_iff ?_ ?_
  · intro resolved here
    obtain ⟨-, id, found⟩ := lines resolved here
    exact admitted id resolved.row found
  · intro resolved here
    exact (valid.quantities resolved.line (lines resolved here).1).2

def pricedListing (price quantity : ℕ) : Listing where
  sellerPubky := "seller"
  listingRevision := 1
  serverRevision := 1
  state := .available
  totalQuantity := quantity
  availableQuantity := quantity
  reservedQuantity := 0
  soldQuantity := 0
  balanced := rfl
  unitPriceAmountMinor := price
  unitPriceCurrency := "USD"
  unitPriceExponent := 2
  shippingMinor := 500
  saleFormat := .fixedPrice
  auctionActive := false
  fulfillmentMethods := [.shipping]
  generation := 0
  deletedAt := none
  recreatedAt := none
  currentVersion := none

def pricedShop (price quantity : ℕ) : Inventory :=
  { emptyInventory with
    listings := Keyed.Table.set .empty "lamp" (pricedListing price quantity) }

def pricedRequest (quantity : ℕ) (positive : 0 < quantity := by decide) : CheckoutRequest where
  buyer := "buyer"
  lines := [⟨"lamp", quantity, 1, .shipping, positive⟩]
  orderIds := [1]
  locksAuthority := false
  dropClaimWindowSeconds := 600

theorem pricedShop_admitted {price : ℕ} (quantity : ℕ) (positive : 1 ≤ price)
    (bounded : price ≤ maxSafeInteger) :
    ∀ id listing, (pricedShop price quantity).listings.find? id = some listing →
      AdmittedPrices listing := by
  intro id listing found
  obtain rfl : pricedListing price quantity = listing := by
    by_cases lamp : id = "lamp"
    · subst lamp
      exact Option.some.inj found
    · rw [show (pricedShop price quantity).listings = Keyed.Table.set .empty "lamp" _ from rfl,
        Keyed.Table.find?_set_ne _ _ lamp] at found
      cases found
  exact ⟨positive, bounded, show 500 ≤ maxSafeInteger by decide⟩

/-- Three lamps of 125 dollars and five dollars of shipping are 380 dollars. -/
theorem small_checkout_is_exact :
    ∃ groups, checkoutGroups (pricedShop 12500 3) (pricedRequest 3) 0 = .ok groups ∧
      ∃ group ∈ groups, group.totalMinor = 38000 ∧ group.Exact := by
  have grouped : checkoutGroups (pricedShop 12500 3) (pricedRequest 3) 0 =
      .ok [⟨"seller", .shipping,
        [⟨⟨"lamp", 3, 1, .shipping, by decide⟩, pricedListing 12500 3⟩]⟩] := by decide +kernel
  refine ⟨_, grouped, _, List.mem_singleton_self _, rfl, ?_⟩
  refine (checkout_sums_exact _ _ 0 _ ⟨by decide, by decide, by decide⟩
    (pricedShop_admitted 3 (by decide) (by decide)) grouped _ (List.mem_singleton_self _)).mpr ?_
  decide

/-- 2049 lamps at the highest price wrap to a positive total below the price of
two of them, which the columns accept. -/
theorem largest_price_wraps :
    ValidCheckout (pricedRequest 2049).lines ∧
    (∀ id listing, (pricedShop maxSafeInteger 2049).listings.find? id = some listing →
      AdmittedPrices listing) ∧
    ∃ groups, checkoutGroups (pricedShop maxSafeInteger 2049) (pricedRequest 2049) 0 = .ok groups ∧
      ∃ group ∈ groups, group.totalMinor = (2 ^ 53 - 1) * 2049 + 500 ∧
        group.storedSums.totalMinor.toInt = 2 ^ 53 - 2049 + 500 ∧
        0 ≤ group.storedSums.subtotalMinor.toInt ∧ ¬ group.Exact := by
  refine ⟨⟨by decide, by decide, by decide⟩, pricedShop_admitted 2049 (by decide) (le_refl _), ?_⟩
  have grouped : checkoutGroups (pricedShop maxSafeInteger 2049) (pricedRequest 2049) 0 =
      .ok [⟨"seller", .shipping,
        [⟨⟨"lamp", 2049, 1, .shipping, by decide⟩, pricedListing maxSafeInteger 2049⟩]⟩] := by
    decide +kernel
  refine ⟨_, grouped, _, List.mem_singleton_self _, by decide +kernel, by decide +kernel,
    by decide +kernel, ?_⟩
  intro exact
  exact absurd exact.total (by decide +kernel)

end MarketplaceService
