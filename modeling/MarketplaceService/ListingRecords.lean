import MarketplaceService.AuctionFloor
import MarketplaceService.CommandValidation

/-!
Listing records of homeservers, and the registration payload that is derived from
one. A record is read leniently: fields that the service does not know are ignored.
-/

namespace MarketplaceService.Commands

open CalendarTime (DateTime)

/-! What is read of a record. -/

structure RecordMoney where
  amountMinor : I64
  currency : String
  exponent : I32

def RecordMoney.intoMoney (price : RecordMoney) : Money :=
  ⟨price.amountMinor, price.currency, price.exponent⟩

structure RecordMedia where
  contentHash : Option String

structure RecordVariant where
  quantity : I64

structure RecordSale where
  format : String
  unitPrice : Option RecordMoney
  startingPrice : Option RecordMoney
  startsAt : Option DateTime
  endsAt : Option DateTime
  minimumIncrement : Option RecordMoney
  antiSnipingWindowSeconds : Option I64
  antiSnipingExtensionSeconds : Option I64

structure RecordShippingOption where
  pricing : String
  price : Option RecordMoney

structure RecordDigitalLock where
  policyUri : String
  criterionId : String

structure ListingRecord where
  recordType : String
  schemaVersion : I64
  ownerPubky : String
  listingId : String
  title : Option String
  revision : I64
  media : List RecordMedia
  variants : List RecordVariant
  shippingOptions : List RecordShippingOption
  sale : RecordSale
  fulfillmentMethods : List String
  digitalLock : Option RecordDigitalLock

section Codecs
open Serde

theorem exponent_fresh : Fields.nil.names.contains (required "exponent" i32).name = false := rfl

theorem currency_fresh : (Fields.cons (required "exponent" i32) Fields.nil
    exponent_fresh).names.contains (required "currency" text).name = false := rfl

def recordMoney : Codec RecordMoney :=
  ((Fields.cons (required "amountMinor" i64) <|
    Fields.cons (required "currency" text)
      (Fields.cons (required "exponent" i32) Fields.nil exponent_fresh) currency_fresh).as
  (fun (amountMinor, currency, exponent, _) => ⟨amountMinor, currency, exponent⟩)
  (fun price => (price.amountMinor, price.currency, price.exponent, ()))
  (fun _ => rfl)).lenient

def recordMedia : Codec RecordMedia :=
  ((Fields.cons (optional "contentHash" (nullable text text_solid)) Fields.nil).as
  (fun (contentHash, _) => ⟨contentHash⟩) (fun media => (media.contentHash, ()))
  (fun _ => rfl)).lenient

def recordVariant : Codec RecordVariant :=
  ((Fields.cons (defaulted "quantity" i64 ⟨0, zero_fits⟩) Fields.nil).as
  (fun (quantity, _) => ⟨quantity⟩) (fun variant => (variant.quantity, ()))
  (fun _ => rfl)).lenient

def optionalMoney (name : String) : Serde.Field (Option RecordMoney) :=
  optional name (nullable recordMoney (lenient_solid _))

def optionalI64 (name : String) : Serde.Field (Option I64) :=
  optional name (nullable i64 (bounded_solid _ _))

def optionalTime (externals : Externals) (name : String) : Serde.Field (Option DateTime) :=
  optional name (nullable externals.dateTime (spelled_solid _ _ _))

def recordSale (externals : Externals) : Codec RecordSale :=
  ((Fields.cons (required "format" text) <|
    Fields.cons (optionalMoney "unitPrice") <|
    Fields.cons (optionalMoney "startingPrice") <|
    Fields.cons (optionalTime externals "startsAt") <|
    Fields.cons (optionalTime externals "endsAt") <|
    Fields.cons (optionalMoney "minimumIncrement") <|
    Fields.cons (optionalI64 "antiSnipingWindowSeconds") <|
    Fields.cons (optionalI64 "antiSnipingExtensionSeconds") Fields.nil).as
  (fun (format, unitPrice, startingPrice, startsAt, endsAt, increment, window, extension, _) =>
    ⟨format, unitPrice, startingPrice, startsAt, endsAt, increment, window, extension⟩)
  (fun sale => (sale.format, sale.unitPrice, sale.startingPrice, sale.startsAt, sale.endsAt,
    sale.minimumIncrement, sale.antiSnipingWindowSeconds, sale.antiSnipingExtensionSeconds, ()))
  (fun _ => rfl)).lenient

def recordShippingOption : Codec RecordShippingOption :=
  ((Fields.cons (required "pricing" text) <|
    Fields.cons (optionalMoney "price") Fields.nil).as
  (fun (pricing, price, _) => ⟨pricing, price⟩)
  (fun option => (option.pricing, option.price, ()))
  (fun _ => rfl)).lenient

theorem criterionId_fresh :
    Fields.nil.names.contains (required "criterionId" text).name = false := rfl

theorem policyUri_fresh : (Fields.cons (required "criterionId" text) Fields.nil
    criterionId_fresh).names.contains (required "policyUri" text).name = false := rfl

def recordDigitalLock : Codec RecordDigitalLock :=
  ((Fields.cons (required "policyUri" text)
      (Fields.cons (required "criterionId" text) Fields.nil criterionId_fresh) policyUri_fresh).as
  (fun (policyUri, criterionId, _) => ⟨policyUri, criterionId⟩)
  (fun lock => (lock.policyUri, lock.criterionId, ()))
  (fun _ => rfl)).lenient

def listingRecord (externals : Externals) : Codec ListingRecord :=
  ((Fields.cons (required "recordType" text) <|
    Fields.cons (required "schemaVersion" i64) <|
    Fields.cons (required "ownerPubky" text) <|
    Fields.cons (required "listingId" text) <|
    Fields.cons (optional "title" (nullable text text_solid)) <|
    Fields.cons (required "revision" i64) <|
    Fields.cons (defaulted "media" (list recordMedia) []) <|
    Fields.cons (defaulted "variants" (list recordVariant) []) <|
    Fields.cons (defaulted "shippingOptions" (list recordShippingOption) []) <|
    Fields.cons (required "sale" (recordSale externals)) <|
    Fields.cons (defaulted "fulfillmentMethods" (list text) []) <|
    Fields.cons (optional "digitalLock" (nullable recordDigitalLock (lenient_solid _)))
      Fields.nil).as
  (fun (recordType, schemaVersion, ownerPubky, listingId, title, revision, media, variants,
      shippingOptions, sale, fulfillmentMethods, digitalLock, _) =>
    ⟨recordType, schemaVersion, ownerPubky, listingId, title, revision, media, variants,
      shippingOptions, sale, fulfillmentMethods, digitalLock⟩)
  (fun record => (record.recordType, record.schemaVersion, record.ownerPubky, record.listingId,
    record.title, record.revision, record.media, record.variants, record.shippingOptions,
    record.sale, record.fulfillmentMethods, record.digitalLock, ()))
  (fun _ => rfl)).lenient

end Codecs

/-! The derivation. -/

mutual

/-- `ensure_reserve_free`. -/
def reserveFree : Serde.Value → Bool
  | .obj entries => entriesReserveFree entries
  | .arr items => itemsReserveFree items
  | _ => true

def entriesReserveFree : List (String × Serde.Value) → Bool
  | [] => true
  | (key, value) :: rest =>
      !isReserveAudienceKey key && reserveFree value && entriesReserveFree rest

def itemsReserveFree : List Serde.Value → Bool
  | [] => true
  | value :: rest => reserveFree value && itemsReserveFree rest

end

/-- The price of an option, where it can be charged: a flat price is taken by its
currency alone. -/
def RecordShippingOption.chargeable (option : RecordShippingOption) (listingCurrency : String) :
    Option I64 :=
  match option.pricing with
  | "free" => some ⟨0, zero_fits⟩
  | "flat" =>
      (option.price.filter fun price =>
        price.currency == listingCurrency && decide (0 ≤ price.amountMinor.val)).map
        RecordMoney.amountMinor
  | _ => none

def shippingMinorFromOptions (options : List RecordShippingOption) (listingCurrency : String) :
    I64 :=
  (options.filterMap fun option => option.chargeable listingCurrency).min?.getD ⟨0, zero_fits⟩

def sumQuantities (variants : List RecordVariant) : I64 :=
  variants.foldl (fun total variant =>
    ⟨MachineInt.wrap (total.val + variant.quantity.val), MachineInt.wrap_inRange _⟩)
    ⟨0, zero_fits⟩

/-- The methods that the service knows, each once; `digital` only without a lock. -/
def deriveMethods (record : ListingRecord) : List FulfillmentMethod :=
  let methods := (record.fulfillmentMethods.filterMap fun method =>
    match method with
    | "shipping" => some FulfillmentMethod.shipping
    | "pickup" => some .pickup
    | "digital" => if record.digitalLock.isSome then none else some .digital
    | _ => none).eraseDups
  if methods = [] then defaultFulfillmentMethods else methods

structure MalformedDigitalLock where

def deriveLock : Option RecordDigitalLock →
    Except MalformedDigitalLock (Option DigitalLockMetadata)
  | none => .ok none
  | some lock =>
      match canonicalLockResource lock.policyUri with
      | some policyUri =>
          if isEntityId lock.criterionId then .ok (some ⟨policyUri, lock.criterionId⟩)
          else .error ⟨⟩
      | none => .error ⟨⟩

def deriveTerms (sale : RecordSale) : SaleFormat → Option (Option AuctionTerms)
  | .fixedPrice => some none
  | .auction => do
      let startsAt ← sale.startsAt
      let endsAt ← sale.endsAt
      let minimumIncrement ← sale.minimumIncrement
      let window ← sale.antiSnipingWindowSeconds
      let extension ← sale.antiSnipingExtensionSeconds
      some (some ⟨startsAt, endsAt, minimumIncrement.intoMoney, window, extension⟩)

def deriveSale (sale : RecordSale) : Option (SaleFormat × Money × Option AuctionTerms) := do
  let format ← match sale.format with
    | "fixed_price" => some SaleFormat.fixedPrice
    | "auction" => some .auction
    | _ => none
  let unitPrice ← match format with
    | .fixedPrice => sale.unitPrice
    | .auction => sale.startingPrice
  let terms ← deriveTerms sale format
  some (format, unitPrice.intoMoney, terms)

def interpretRecord (externals : Externals) (sellerPubky listingId : String)
    (value : Serde.Value) : Option ListingRecord := do
  if reserveFree value then
    let record ← (listingRecord externals).decode value
    if record.recordType = "listing" ∧ record.schemaVersion.val = 1 ∧
        record.ownerPubky = sellerPubky ∧ record.listingId = listingId then some record
    else none
  else none

def registrationPayloadFromRecord (externals : Externals) (sellerPubky listingId : String)
    (value : Serde.Value) : Except MalformedDigitalLock (Option RegisterListingPayload) :=
  match interpretRecord externals sellerPubky listingId value with
  | none => .ok none
  | some record =>
      match deriveSale record.sale with
      | none => .ok none
      | some (saleFormat, unitPrice, auctionTerms) =>
          (deriveLock record.digitalLock).map fun digitalLock =>
            some {
              sellerPubky := sellerPubky
              listingId := listingId
              title := (record.title.filter fun title => Text.trim title != "").getD defaultTitle
              listingRevision := record.revision
              contentHash := (record.media.head?.bind RecordMedia.contentHash).getD ""
              quantity := sumQuantities record.variants
              unitPrice := unitPrice
              shippingMinor :=
                shippingMinorFromOptions record.shippingOptions unitPrice.currency
              saleFormat := saleFormat
              auctionTerms := auctionTerms
              auctionReserve := none
              fulfillmentMethods := deriveMethods record
              digitalLock := digitalLock }

end MarketplaceService.Commands
