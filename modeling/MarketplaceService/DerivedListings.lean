import MarketplaceService.CommandNormalForm
import MarketplaceService.ListingRecords
import Mathlib.Order.Bounds.Defs

/-!
What the derived quantity and shipping say about a record. The quantity is the sum
of the variants while it fits 64 bits. The shipping is the least price offered in
the asset of the listing, unless a flat price in the same currency but with another
exponent undercuts it: such a price is taken as if the exponents were equal.
-/

namespace MarketplaceService.Commands

/-- The units that the variants have together. -/
def totalQuantity (variants : List RecordVariant) : ℤ :=
  (variants.map fun variant => variant.quantity.val).sum

def RecordShippingOption.flatPrice (option : RecordShippingOption) : Option RecordMoney :=
  if option.pricing = "flat" then option.price else none

def RecordShippingOption.offer (unitPrice : Money) (option : RecordShippingOption) : Option ℤ :=
  if option.pricing = "free" then some 0
  else
    (option.flatPrice.filter fun price => price.intoMoney.sameAsset unitPrice).map fun price =>
      price.amountMinor.val

def shippingOffers (unitPrice : Money) (options : List RecordShippingOption) : List ℤ :=
  options.filterMap (RecordShippingOption.offer unitPrice)

/-- A flat price in the currency of the listing with another exponent. -/
def RecordShippingOption.misread (unitPrice : Money) (option : RecordShippingOption) : Option ℤ :=
  (option.flatPrice.filter fun price =>
    price.currency == unitPrice.currency && price.exponent != unitPrice.exponent &&
      decide (0 ≤ price.amountMinor.val)).map fun price => price.amountMinor.val

def misreadPrices (unitPrice : Money) (options : List RecordShippingOption) : List ℤ :=
  options.filterMap (RecordShippingOption.misread unitPrice)

def LeastOffer (offers : List ℤ) (shipping : ℤ) : Prop :=
  offers = [] ∧ shipping = 0 ∨ IsLeast {offer | offer ∈ offers} shipping

/-- The registration says what the record does about stock and shipping. -/
structure Faithful (record : ListingRecord) (registration : RegisterListingPayload) : Prop where
  quantity : registration.quantity.val = totalQuantity record.variants
  shipping : LeastOffer (shippingOffers registration.unitPrice record.shippingOptions)
    registration.shippingMinor.val

/-- No price with another exponent is below what is offered. -/
def NotUndercut (offers misread : List ℤ) : Prop :=
  offers = [] ∧ (misread = [] ∨ 0 ∈ misread) ∨ ∃ offer ∈ offers, ∀ price ∈ misread, offer ≤ price

/-- The quantities fit, no offer is below zero, and none is undercut. -/
structure WellPriced (unitPrice : Money) (record : ListingRecord) : Prop where
  quantity : MachineInt.InRange (totalQuantity record.variants)
  nonnegative : ∀ offer ∈ shippingOffers unitPrice record.shippingOptions, 0 ≤ offer
  notUndercut : NotUndercut (shippingOffers unitPrice record.shippingOptions)
    (misreadPrices unitPrice record.shippingOptions)

/-! The quantity. -/

theorem sumQuantities_val (variants : List RecordVariant) :
    (sumQuantities variants).val = MachineInt.wrap (totalQuantity variants) := by
  have fold (total : I64) : (variants.foldl (fun total variant =>
      (⟨MachineInt.wrap (total.val + variant.quantity.val), MachineInt.wrap_inRange _⟩ : I64))
      total).val = MachineInt.wrap (total.val + totalQuantity variants) := by
    induction variants generalizing total with
    | nil => simp [totalQuantity, MachineInt.wrap_of_inRange total.property]
    | cons variant rest ih =>
        rw [List.foldl_cons, ih, MachineInt.wrap_wrap_add]
        simp only [totalQuantity, List.map_cons, List.sum_cons, Int.add_assoc]
  have start := fold ⟨0, by decide⟩
  rw [Int.zero_add] at start
  exact start

/-! The shipping. -/

theorem chargeable_eq (option : RecordShippingOption) (currency : String) :
    option.chargeable currency =
      if option.pricing = "free" then some ⟨0, by decide⟩
      else (option.flatPrice.filter fun price =>
        price.currency == currency && decide (0 ≤ price.amountMinor.val)).map
        RecordMoney.amountMinor := by
  obtain ⟨pricing, price⟩ := option
  unfold RecordShippingOption.chargeable RecordShippingOption.flatPrice
  split
  case h_1 free => rw [if_pos free]
  case h_2 flat => rw [flat, if_neg (by decide), if_pos rfl]
  case h_3 free flat => rw [if_neg free, if_neg flat]; rfl

theorem mem_chargeable_one (unitPrice : Money) (option : RecordShippingOption) (price : ℤ) :
    (∃ charged, option.chargeable unitPrice.currency = some charged ∧ charged.val = price) ↔
      option.offer unitPrice = some price ∧ 0 ≤ price ∨
        option.misread unitPrice = some price := by
  rw [chargeable_eq]
  unfold RecordShippingOption.offer RecordShippingOption.misread
  by_cases free : option.pricing = "free"
  · have flat : option.flatPrice = none := by
      unfold RecordShippingOption.flatPrice
      rw [free, if_neg (by decide)]
    simp only [if_pos free, flat, Option.filter_none, Option.map_none, Option.some.injEq,
      exists_eq_left', reduceCtorEq, or_false]
    constructor
    · intro zero
      exact ⟨zero, by rw [← zero]⟩
    · exact And.left
  · simp only [if_neg free]
    cases option.flatPrice with
    | none => simp
    | some asked =>
        have same : (asked.intoMoney.sameAsset unitPrice = true) ↔
            asked.currency = unitPrice.currency ∧ asked.exponent = unitPrice.exponent := by
          simp only [Money.sameAsset, RecordMoney.intoMoney, Bool.and_eq_true, beq_iff_eq]
        simp only [Option.filter_some, Bool.and_eq_true, beq_iff_eq, bne_iff_ne,
          decide_eq_true_eq, same]
        by_cases currency : asked.currency = unitPrice.currency
        · by_cases positive : 0 ≤ asked.amountMinor.val
          · by_cases exponent : asked.exponent = unitPrice.exponent
            · simp only [currency, positive, exponent, and_self, if_true, ne_eq, not_true_eq_false,
                and_false, false_and, if_false, Option.map_some, Option.map_none,
                Option.some.injEq, exists_eq_left', reduceCtorEq, or_false]
              constructor
              · intro equal
                exact ⟨equal, equal ▸ positive⟩
              · exact And.left
            · simp only [currency, positive, exponent, and_self, if_true, ne_eq, not_false_eq_true,
                and_false, false_and, if_false, Option.map_some, Option.map_none,
                Option.some.injEq, exists_eq_left', reduceCtorEq, false_or]
          · have below : ¬(asked.amountMinor.val = price ∧ 0 ≤ price) :=
              fun both => positive (both.1 ▸ both.2)
            by_cases exponent : asked.exponent = unitPrice.exponent
            · simpa [currency, positive, exponent] using below
            · simp [currency, positive, exponent]
        · simp [currency]

theorem mem_chargeable (unitPrice : Money) (options : List RecordShippingOption) (price : ℤ) :
    (∃ charged ∈ options.filterMap fun option => option.chargeable unitPrice.currency,
      charged.val = price) ↔
      price ∈ shippingOffers unitPrice options ∧ 0 ≤ price ∨
        price ∈ misreadPrices unitPrice options := by
  have one := fun option => mem_chargeable_one unitPrice option price
  simp only [shippingOffers, misreadPrices, List.mem_filterMap]
  constructor
  · rintro ⟨charged, ⟨option, member, chosen⟩, same⟩
    rcases (one option).mp ⟨charged, chosen, same⟩ with offered | misread
    · exact .inl ⟨⟨option, member, offered.1⟩, offered.2⟩
    · exact .inr ⟨option, member, misread⟩
  · rintro (⟨⟨option, member, offered⟩, nonnegative⟩ | ⟨option, member, misread⟩)
    · obtain ⟨charged, chosen, same⟩ := (one option).mpr (.inl ⟨offered, nonnegative⟩)
      exact ⟨charged, ⟨option, member, chosen⟩, same⟩
    · obtain ⟨charged, chosen, same⟩ := (one option).mpr (.inr misread)
      exact ⟨charged, ⟨option, member, chosen⟩, same⟩

theorem shippingMinor_least (unitPrice : Money) (options : List RecordShippingOption) :
    ((∀ price, ¬(price ∈ shippingOffers unitPrice options ∧ 0 ≤ price ∨
        price ∈ misreadPrices unitPrice options)) ∧
      (shippingMinorFromOptions options unitPrice.currency).val = 0) ∨
    IsLeast {price | price ∈ shippingOffers unitPrice options ∧ 0 ≤ price ∨
      price ∈ misreadPrices unitPrice options}
      (shippingMinorFromOptions options unitPrice.currency).val := by
  have compared := mem_chargeable unitPrice options
  unfold shippingMinorFromOptions
  cases least : (options.filterMap fun option => option.chargeable unitPrice.currency).min? with
  | none =>
      rw [List.min?_eq_none_iff] at least
      refine .inl ⟨fun price listed => ?_, rfl⟩
      obtain ⟨charged, member, -⟩ := (compared price).mpr listed
      rw [least] at member
      cases member
  | some charged =>
      obtain ⟨member, lower⟩ := List.min?_eq_some_iff.mp least
      refine .inr ⟨(compared charged.val).mp ⟨charged, member, rfl⟩, fun price listed => ?_⟩
      obtain ⟨other, among, rfl⟩ := (compared price).mpr listed
      exact lower other among

theorem misread_nonnegative {unitPrice : Money} {options : List RecordShippingOption} {price : ℤ}
    (listed : price ∈ misreadPrices unitPrice options) : 0 ≤ price := by
  obtain ⟨option, -, misread⟩ := List.mem_filterMap.mp listed
  obtain ⟨asked, kept, rfl⟩ := Option.map_eq_some_iff.mp misread
  have passed := (Option.filter_eq_some_iff.mp kept).2
  simp only [Bool.and_eq_true, decide_eq_true_eq] at passed
  exact passed.2

theorem leastOffer_iff (unitPrice : Money) (options : List RecordShippingOption) :
    LeastOffer (shippingOffers unitPrice options)
      (shippingMinorFromOptions options unitPrice.currency).val ↔
    (∀ offer ∈ shippingOffers unitPrice options, 0 ≤ offer) ∧
      NotUndercut (shippingOffers unitPrice options) (misreadPrices unitPrice options) := by
  have positive : ∀ price ∈ misreadPrices unitPrice options, 0 ≤ price :=
    fun price listed => misread_nonnegative listed
  have chosen := shippingMinor_least unitPrice options
  revert chosen positive
  generalize shippingOffers unitPrice options = offers
  generalize misreadPrices unitPrice options = misread
  generalize (shippingMinorFromOptions options unitPrice.currency).val = shipping
  intro positive chosen
  have nonnegative : 0 ≤ shipping := by
    rcases chosen with ⟨-, zero⟩ | ⟨listed | listed, -⟩
    · exact zero.ge
    · exact listed.2
    · exact positive shipping listed
  constructor
  · rintro (⟨rfl, rfl⟩ | ⟨offered, least⟩)
    · refine ⟨nofun, .inl ⟨rfl, ?_⟩⟩
      rcases chosen with ⟨none, -⟩ | ⟨listed | listed, -⟩
      · exact .inl (List.eq_nil_iff_forall_not_mem.mpr fun price among => none price (.inr among))
      · cases listed.1
      · exact .inr listed
    · refine ⟨fun offer among => nonnegative.trans (least among), .inr ⟨shipping, offered, ?_⟩⟩
      intro price among
      rcases chosen with ⟨none, -⟩ | ⟨-, lower⟩
      · exact absurd (.inr among) (none price)
      · exact lower (.inr among)
  · rintro ⟨offersPositive, ⟨rfl, zero⟩ | ⟨offer, offered, below⟩⟩
    · refine .inl ⟨rfl, ?_⟩
      rcases chosen with ⟨-, same⟩ | ⟨listed | listed, lower⟩
      · exact same
      · cases listed.1
      · rcases zero with rfl | free
        · cases listed
        · exact le_antisymm (lower (.inr free)) nonnegative
    · rcases chosen with ⟨none, -⟩ | ⟨listed, lower⟩
      · exact absurd (.inl ⟨offered, offersPositive offer offered⟩) (none offer)
      · refine .inr ⟨?_, fun other among => lower (.inl ⟨among, offersPositive other among⟩)⟩
        rcases listed with own | misreadHere
        · exact own.1
        · have upper := below shipping misreadHere
          have same := le_antisymm (lower (.inl ⟨offered, offersPositive offer offered⟩)) upper
          exact same ▸ offered

theorem accepted_fields {externals : Externals} {sellerPubky listingId : String}
    {value : Serde.Value} {record : ListingRecord} {saleFormat : SaleFormat} {unitPrice : Money}
    {terms : Option AuctionTerms} {candidate accepted : RegisterListingPayload}
    (interpreted : interpretRecord externals sellerPubky listingId value = some record)
    (priced : deriveSale record.sale = some (saleFormat, unitPrice, terms))
    (derived : registrationPayloadFromRecord externals sellerPubky listingId value =
      .ok (some candidate))
    (valid : validatePublicListingPayload candidate = .ok accepted) :
    accepted.quantity = sumQuantities record.variants ∧ accepted.unitPrice = unitPrice ∧
      accepted.shippingMinor =
        shippingMinorFromOptions record.shippingOptions unitPrice.currency := by
  have checked : (checkListing false candidate).2 = accepted := report_eq_ok valid
  unfold registrationPayloadFromRecord at derived
  simp only [interpreted, priced] at derived
  cases locked : deriveLock record.digitalLock with
  | error malformed =>
      rw [locked] at derived
      cases derived
  | ok lock =>
      rw [locked] at derived
      cases derived
      rw [← checked]
      exact ⟨rfl, rfl, rfl⟩

/-- An accepted record is registered with its own stock and its least shipping
price exactly when its quantities fit 64 bits, and no price in its asset is negative
or undercut by one with another exponent. -/
theorem derivation_faithful (externals : Externals) (sellerPubky listingId : String)
    (value : Serde.Value) (record : ListingRecord) (saleFormat : SaleFormat) (unitPrice : Money)
    (terms : Option AuctionTerms) (candidate accepted : RegisterListingPayload)
    (interpreted : interpretRecord externals sellerPubky listingId value = some record)
    (priced : deriveSale record.sale = some (saleFormat, unitPrice, terms))
    (derived : registrationPayloadFromRecord externals sellerPubky listingId value =
      .ok (some candidate))
    (valid : validatePublicListingPayload candidate = .ok accepted) :
    Faithful record accepted ↔ WellPriced unitPrice record := by
  obtain ⟨quantity, price, shipping⟩ := accepted_fields interpreted priced derived valid
  have stock := sumQuantities_val record.variants
  have least := leastOffer_iff unitPrice record.shippingOptions
  constructor
  · rintro ⟨whole, cheapest⟩
    rw [quantity, stock, MachineInt.wrap_eq_iff] at whole
    rw [price, shipping, least] at cheapest
    exact ⟨whole, cheapest.1, cheapest.2⟩
  · rintro ⟨inside, nonnegative, notUndercut⟩
    refine ⟨?_, ?_⟩
    · rw [quantity, stock, MachineInt.wrap_of_inRange inside]
    · rw [price, shipping, least]
      exact ⟨nonnegative, notUndercut⟩

/-! A lamp at 125.00 USD, with the variants and shipping options that it is given. -/

def lampSeller : String := "yyyyyyyyyyyyyyyyyyyyyyyyyyyyyyyyyyyyyyyyyyyyyyyyyyyy"

def lampRecord (quantities : List I64) (options : List RecordShippingOption) : ListingRecord where
  recordType := "listing"
  schemaVersion := ⟨1, by decide⟩
  ownerPubky := lampSeller
  listingId := "lamp_01"
  title := some "Lamp"
  revision := ⟨1, by decide⟩
  media := [⟨some "aaaaaaaaaaaaaaaaaaaaaaaaaaaaaaaaaaaaaaaaaaaaaaaaaaaaaaaaaaaaaaaa"⟩]
  variants := quantities.map RecordVariant.mk
  shippingOptions := options
  sale := ⟨"fixed_price", some ⟨⟨12500, by decide⟩, "USD", ⟨2, by decide⟩⟩, none, none, none, none,
    none, none⟩
  fulfillmentMethods := ["shipping"]
  digitalLock := none

def lampJson (quantities : List I64) (options : List RecordShippingOption) : Serde.Value :=
  (listingRecord wireExternals).encode (lampRecord quantities options)

def lampRegistration (quantities : List I64) (options : List RecordShippingOption) :
    RegisterListingPayload where
  sellerPubky := lampSeller
  listingId := "lamp_01"
  title := "Lamp"
  listingRevision := ⟨1, by decide⟩
  contentHash := "aaaaaaaaaaaaaaaaaaaaaaaaaaaaaaaaaaaaaaaaaaaaaaaaaaaaaaaaaaaaaaaa"
  quantity := sumQuantities (quantities.map RecordVariant.mk)
  unitPrice := ⟨⟨12500, by decide⟩, "USD", ⟨2, by decide⟩⟩
  shippingMinor := shippingMinorFromOptions options "USD"
  saleFormat := .fixedPrice
  auctionTerms := none
  auctionReserve := none
  fulfillmentMethods := [.shipping]
  digitalLock := none

theorem lamp_derived {quantities : List I64} {options : List RecordShippingOption}
    (free : reserveFree (lampJson quantities options) = true) :
    interpretRecord wireExternals lampSeller "lamp_01" (lampJson quantities options) =
        some (lampRecord quantities options) ∧
      registrationPayloadFromRecord wireExternals lampSeller "lamp_01"
        (lampJson quantities options) = .ok (some (lampRegistration quantities options)) := by
  have interpreted : interpretRecord wireExternals lampSeller "lamp_01"
      (lampJson quantities options) = some (lampRecord quantities options) := by
    unfold interpretRecord
    rw [if_pos free, lampJson, (listingRecord wireExternals).decode_encode]
    rfl
  refine ⟨interpreted, ?_⟩
  unfold registrationPayloadFromRecord
  rw [interpreted]
  rfl

def flatOption (amountMinor : I64) (exponent : I32) : RecordShippingOption :=
  ⟨"flat", some ⟨amountMinor, "USD", exponent⟩⟩

def plainQuantities : List I64 := [⟨2, by decide⟩, ⟨3, by decide⟩]

def plainOptions : List RecordShippingOption := [flatOption ⟨1500, by decide⟩ ⟨2, by decide⟩]

/-- Two variants and one flat price in the asset. -/
theorem lamp_derivation_faithful :
    Faithful (lampRecord plainQuantities plainOptions)
        (lampRegistration plainQuantities plainOptions) ↔
      WellPriced ⟨⟨12500, by decide⟩, "USD", ⟨2, by decide⟩⟩
        (lampRecord plainQuantities plainOptions) := by
  obtain ⟨interpreted, derived⟩ := lamp_derived
    (show reserveFree (lampJson plainQuantities plainOptions) = true by rfl)
  exact derivation_faithful wireExternals lampSeller "lamp_01" _ _ .fixedPrice _ none _ _
    interpreted rfl derived rfl

/-- One unit more than 2^64. -/
def wrappedQuantities : List I64 :=
  [⟨2 ^ 63 - 1, by decide⟩, ⟨2 ^ 63 - 1, by decide⟩, ⟨3, by decide⟩]

/-- 15.00 USD in cents, and 20 USD without them. -/
def mixedOptions : List RecordShippingOption :=
  [flatOption ⟨1500, by decide⟩ ⟨2, by decide⟩, flatOption ⟨20, by decide⟩ ⟨0, by decide⟩]

/-- One unit is registered, and 0.20 USD of shipping where 15.00 USD are offered. -/
theorem lamp_misread :
    ∃ value record candidate accepted,
      interpretRecord wireExternals lampSeller "lamp_01" value = some record ∧
      registrationPayloadFromRecord wireExternals lampSeller "lamp_01" value =
        .ok (some candidate) ∧
      validatePublicListingPayload candidate = .ok accepted ∧
      accepted.quantity.val ≠ totalQuantity record.variants ∧
      ¬LeastOffer (shippingOffers accepted.unitPrice record.shippingOptions)
        accepted.shippingMinor.val := by
  obtain ⟨interpreted, derived⟩ := lamp_derived
    (show reserveFree (lampJson wrappedQuantities mixedOptions) = true by rfl)
  refine ⟨_, _, _, lampRegistration wrappedQuantities mixedOptions, interpreted, derived, rfl,
    by decide, ?_⟩
  rintro (⟨none, -⟩ | ⟨offered, -⟩)
  · cases none
  · exact absurd offered (by decide)

end MarketplaceService.Commands
