import MarketplaceService.CommandParsing

/-!
Commands are read back from their canonical JSON. Every check accepts what it has
normalized and leaves it alone, so the payload comes back as it was; of the
envelope only the time is cut to milliseconds, which the hash does not see.
-/

namespace MarketplaceService.Commands

/-- What is accepted is accepted again as it is. -/
def Settled {α : Type} (validate : α → Except (List ValidationIssue) α) : Prop :=
  ∀ payload accepted, validate payload = .ok accepted → validate accepted = .ok accepted

theorem report_eq_ok {α : Type} {checked : List ValidationIssue × α} {accepted : α}
    (reported : report checked = .ok accepted) : checked.2 = accepted := by
  unfold report at reported
  split at reported
  · exact Except.ok.inj reported
  · cases reported

theorem settled_of_stable {α : Type} {validate : α → Except (List ValidationIssue) α}
    (checked : α → List ValidationIssue × α)
    (reports : ∀ payload, validate payload = report (checked payload))
    (stable : ∀ payload, checked (checked payload).2 = checked payload) : Settled validate := by
  intro payload accepted valid
  have normal : (checked payload).2 = accepted := report_eq_ok ((reports payload).symm.trans valid)
  rw [reports, ← normal, stable, ← reports, normal]
  exact valid

theorem settled_ok {α : Type} : @Settled α .ok := fun _ _ _ => rfl

@[simp]
theorem validateTrimmed_stable (path value : String) (min max : ℕ) :
    validateTrimmed path (validateTrimmed path value min max).2 min max =
      validateTrimmed path value min max := by
  simp only [validateTrimmed, Text.trim_trim]

theorem validateOptional_stable {α : Type} {validate : α → List ValidationIssue × α}
    (stable : ∀ value, validate (validate value).2 = validate value) (value : Option α) :
    validateOptional validate (validateOptional validate value).2 =
      validateOptional validate value := by
  cases value with
  | none => rfl
  | some value => simp only [validateOptional, stable]

/-- A canonical region is found again, and a refused one is refused again. -/
theorem validateDeliveryAddress_stable (path : String) (address : DeliveryAddress) :
    validateDeliveryAddress path (validateDeliveryAddress path address).2 =
      validateDeliveryAddress path address := by
  unfold validateDeliveryAddress
  cases country : isCountryCode address.countryCode with
  | false =>
      simp only [validateTrimmed_stable, Bool.false_eq_true, if_false, Text.trim_trim]
  | true =>
      cases found : canonicalizeRegion address.countryCode address.region with
      | ok region =>
          simp only [validateTrimmed_stable, if_true, canonicalizeRegion_idempotent found]
      | error message => simp only [validateTrimmed_stable, if_true, found]

/-! The payloads that are normalized. -/

theorem validateDigitalLock_stable (lock : DigitalLockMetadata) :
    validateDigitalLock (validateDigitalLock lock).2 = validateDigitalLock lock := by
  cases found : canonicalLockResource lock.policyUri with
  | none => simp only [validateDigitalLock, found]
  | some canonical =>
      simp only [validateDigitalLock, found, canonicalLockResource_idempotent found]

theorem validateListingPayload_settled (requireAuctionReserve : Bool) :
    Settled (validateListingPayload requireAuctionReserve) := by
  apply settled_of_stable (checkListing requireAuctionReserve) (fun _ => rfl)
  intro payload
  simp only [checkListing, validateTrimmed_stable,
    validateOptional_stable validateDigitalLock_stable]

theorem validateOfferTerms_stable (amount : Money) (quantity expiresInSeconds : I64)
    (message : String) :
    validateOfferTerms amount quantity expiresInSeconds
        (validateOfferTerms amount quantity expiresInSeconds message).2 =
      validateOfferTerms amount quantity expiresInSeconds message := by
  simp only [validateOfferTerms, validateTrimmed_stable]

theorem checkOfferAddress_stable (fulfillment : FulfillmentMethod)
    (address : Option DeliveryAddress) :
    checkOfferAddress fulfillment (checkOfferAddress fulfillment address).2 =
      checkOfferAddress fulfillment address := by
  cases fulfillment with
  | shipping =>
      cases address with
      | none => rfl
      | some address => simp only [checkOfferAddress, validateDeliveryAddress_stable]
  | pickup => cases address <;> rfl
  | digital => rfl

theorem validateCreateOffer_settled : Settled validateCreateOffer :=
  settled_of_stable _ (fun _ => rfl) fun _ => by
    simp only [validateOfferTerms_stable]

theorem validateCounterOffer_settled : Settled validateCounterOffer :=
  settled_of_stable _ (fun _ => rfl) fun _ => by
    simp only [validateOfferTerms_stable]

theorem validateOfferCheckout_settled : Settled validateOfferCheckout :=
  settled_of_stable _ (fun _ => rfl) fun _ => by
    simp only [checkOfferAddress_stable]

theorem validateRequestCancellation_settled : Settled validateRequestCancellation :=
  settled_of_stable _ (fun _ => rfl) fun _ => by
    simp only [validateTrimmed_stable]

theorem validateShipOrder_settled : Settled validateShipOrder :=
  settled_of_stable _ (fun _ => rfl) fun _ => by
    simp only [validateTrimmed_stable]

theorem validateRequestReturn_settled : Settled validateRequestReturn :=
  settled_of_stable _ (fun _ => rfl) fun _ => by
    simp only [validateTrimmed_stable]

theorem validateRecordExternalRefund_settled : Settled validateRecordExternalRefund :=
  settled_of_stable _ (fun _ => rfl) fun _ => by
    simp only [validateTrimmed_stable]

theorem validateReviewTerms_settled : Settled validateReviewTerms :=
  settled_of_stable _ (fun _ => rfl) fun _ => by
    simp only [validateTrimmed_stable]

theorem validateSpot_stable (spot : String) :
    validateSpot (validateSpot spot).2 = validateSpot spot := by
  simp only [validateSpot, validateTrimmed_stable]

@[simp]
theorem validateOptional_isSome {α : Type} (validate : α → List ValidationIssue × α)
    (value : Option α) : (validateOptional validate value).2.isSome = value.isSome := by
  cases value <;> rfl

theorem checkPickupPlace_stable (kind : PickupDetailsKind) (address : Option DeliveryAddress)
    (spot : Option String) :
    checkPickupPlace kind (checkPickupPlace kind address spot).2.1
        (checkPickupPlace kind address spot).2.2 = checkPickupPlace kind address spot := by
  cases kind with
  | address =>
      simp only [checkPickupPlace, validateOptional_isSome,
        validateOptional_stable (validateDeliveryAddress_stable _)]
  | spot =>
      simp only [checkPickupPlace, validateOptional_isSome,
        validateOptional_stable validateSpot_stable]

theorem validatePickupDetails_stable (details : PickupDetails) :
    validatePickupDetails (validatePickupDetails details).2 = validatePickupDetails details := by
  simp only [validatePickupDetails, checkPickupPlace_stable, validateTrimmed_stable]

theorem validateSetPickupDetails_settled : Settled validateSetPickupDetails :=
  settled_of_stable _ (fun _ => rfl) fun _ => by
    simp only [validatePickupDetails_stable]

/-! Checkouts. -/

theorem validateVariantOptions_stable (path : String) (index : ℕ)
    (options : List VariantOption) :
    validateVariantOptions path index (validateVariantOptions path index options).2 =
      validateVariantOptions path index options := by
  induction options generalizing index with
  | nil => rfl
  | cons option rest ih =>
      simp only [validateVariantOptions, validateVariantOption, validateTrimmed_stable, ih]

theorem validateVariantOptions_length (path : String) (index : ℕ)
    (options : List VariantOption) :
    (validateVariantOptions path index options).2.length = options.length := by
  induction options generalizing index with
  | nil => rfl
  | cons option rest ih => simp only [validateVariantOptions, List.length_cons, ih]

theorem checkVariantOptions_stable (path : String) (variantId : Option String)
    (options : List VariantOption) :
    checkVariantOptions path variantId (checkVariantOptions path variantId options).2 =
      checkVariantOptions path variantId options := by
  simp only [checkVariantOptions, validateVariantOptions_stable, validateVariantOptions_length]

theorem validateLine_stable (index : ℕ) (line : CheckoutLine) :
    validateLine index (validateLine index line).2 = validateLine index line := by
  simp only [validateLine, validateOptional_stable (checkVariantOptions_stable _ _)]

theorem validateLines_stable (seen : List String) (index : ℕ) (lines : List CheckoutLine) :
    validateLines seen index (validateLines seen index lines).2 =
      validateLines seen index lines := by
  induction lines generalizing seen index with
  | nil => rfl
  | cons line rest ih =>
      have listing : (validateLine index line).2.listingAggregateId = line.listingAggregateId := rfl
      simp only [validateLines, validateLine_stable, listing, ih]

theorem validateLines_length (seen : List String) (index : ℕ) (lines : List CheckoutLine) :
    (validateLines seen index lines).2.length = lines.length := by
  induction lines generalizing seen index with
  | nil => rfl
  | cons line rest ih => simp only [validateLines, List.length_cons, ih]

theorem checkCheckoutAddress_stable (anyShipping allPickup : Bool)
    (address : Option DeliveryAddress) :
    checkCheckoutAddress anyShipping allPickup
        (checkCheckoutAddress anyShipping allPickup address).2 =
      checkCheckoutAddress anyShipping allPickup address := by
  cases address with
  | none => cases anyShipping <;> rfl
  | some address =>
      cases anyShipping with
      | false => rfl
      | true => simp only [checkCheckoutAddress, validateDeliveryAddress_stable]

theorem validateCreateCheckout_settled : Settled validateCreateCheckout :=
  settled_of_stable _ (fun _ => rfl) fun _ => by
    simp only [validateLines_stable, validateLines_length, checkCheckoutAddress_stable]

/-! Parsing. -/

section Parsing
variable {externals : Externals}

theorem parsed_again {α : Type} {name kind : String} {codec : Serde.Codec α}
    {validate : α → Except (List ValidationIssue) α} {wrap : α → CommandPayload}
    {value : Serde.Value} {payload : CommandPayload}
    (parsed : parseWith externals name codec validate wrap value = .ok payload)
    (settled : Settled validate)
    (branch : ∀ value, parsePayload externals kind value =
      parseWith externals name codec validate wrap value)
    (kinds : ∀ accepted, (wrap accepted).kind = kind)
    (written : ∀ accepted, payloadJson externals (wrap accepted) = codec.encode accepted) :
    payload.kind = kind ∧
      parsePayload externals kind (payloadJson externals payload) = .ok payload := by
  unfold parseWith at parsed
  split at parsed
  case h_2 => cases parsed
  case h_1 raw _ =>
    cases valid : validate raw with
    | error issues =>
        rw [valid] at parsed
        cases parsed
    | ok accepted =>
        rw [valid] at parsed
        cases parsed
        refine ⟨kinds accepted, ?_⟩
        rw [branch, written]
        unfold parseWith
        rw [codec.decode_encode]
        change (validate accepted).map wrap = _
        rw [settled raw accepted valid]
        rfl

theorem parsePayload_again {kind : String} {value : Serde.Value} {payload : CommandPayload}
    (parsed : parsePayload externals kind value = .ok payload) :
    payload.kind = kind ∧
      parsePayload externals kind (payloadJson externals payload) = .ok payload := by
  unfold parsePayload at parsed
  split at parsed
  case h_1 =>
    exact parsed_again parsed (validateListingPayload_settled true) (fun _ => rfl)
      (fun _ => rfl) (fun _ => rfl)
  case h_2 =>
    exact parsed_again parsed (settled_of_stable _ (fun _ => rfl) fun _ => rfl) (fun _ => rfl)
      (fun _ => rfl) (fun _ => rfl)
  case h_3 =>
    exact parsed_again parsed (settled_of_stable _ (fun _ => rfl) fun _ => rfl) (fun _ => rfl)
      (fun _ => rfl) (fun _ => rfl)
  case h_4 =>
    exact parsed_again parsed settled_ok (fun _ => rfl)
      (fun _ => rfl) (fun _ => rfl)
  case h_5 =>
    exact parsed_again parsed settled_ok (fun _ => rfl)
      (fun _ => rfl) (fun _ => rfl)
  case h_6 =>
    exact parsed_again parsed (settled_of_stable _ (fun _ => rfl) fun _ => rfl) (fun _ => rfl)
      (fun _ => rfl) (fun _ => rfl)
  case h_7 =>
    exact parsed_again parsed validateCreateCheckout_settled (fun _ => rfl)
      (fun _ => rfl) (fun _ => rfl)
  case h_8 =>
    exact parsed_again parsed validateCreateOffer_settled (fun _ => rfl)
      (fun _ => rfl) (fun _ => rfl)
  case h_9 =>
    exact parsed_again parsed validateCounterOffer_settled (fun _ => rfl)
      (fun _ => rfl) (fun _ => rfl)
  case h_10 =>
    exact parsed_again parsed settled_ok (fun _ => rfl)
      (fun _ => rfl) (fun _ => rfl)
  case h_11 =>
    exact parsed_again parsed validateOfferCheckout_settled (fun _ => rfl)
      (fun _ => rfl) (fun _ => rfl)
  case h_12 =>
    exact parsed_again parsed settled_ok (fun _ => rfl)
      (fun _ => rfl) (fun _ => rfl)
  case h_13 =>
    exact parsed_again parsed settled_ok (fun _ => rfl)
      (fun _ => rfl) (fun _ => rfl)
  case h_14 =>
    exact parsed_again parsed (settled_of_stable _ (fun _ => rfl) fun _ => rfl) (fun _ => rfl)
      (fun _ => rfl) (fun _ => rfl)
  case h_15 =>
    exact parsed_again parsed settled_ok (fun _ => rfl)
      (fun _ => rfl) (fun _ => rfl)
  case h_16 =>
    exact parsed_again parsed (settled_of_stable _ (fun _ => rfl) fun _ => rfl) (fun _ => rfl)
      (fun _ => rfl) (fun _ => rfl)
  case h_17 =>
    exact parsed_again parsed settled_ok (fun _ => rfl)
      (fun _ => rfl) (fun _ => rfl)
  case h_18 =>
    exact parsed_again parsed (settled_of_stable _ (fun _ => rfl) fun _ => rfl) (fun _ => rfl)
      (fun _ => rfl) (fun _ => rfl)
  case h_19 =>
    exact parsed_again parsed validateRequestCancellation_settled (fun _ => rfl)
      (fun _ => rfl) (fun _ => rfl)
  case h_20 =>
    exact parsed_again parsed settled_ok (fun _ => rfl)
      (fun _ => rfl) (fun _ => rfl)
  case h_21 =>
    exact parsed_again parsed validateShipOrder_settled (fun _ => rfl)
      (fun _ => rfl) (fun _ => rfl)
  case h_22 =>
    exact parsed_again parsed settled_ok (fun _ => rfl)
      (fun _ => rfl) (fun _ => rfl)
  case h_23 =>
    exact parsed_again parsed validateSetPickupDetails_settled (fun _ => rfl)
      (fun _ => rfl) (fun _ => rfl)
  case h_24 =>
    exact parsed_again parsed (settled_of_stable _ (fun _ => rfl) fun _ => rfl) (fun _ => rfl)
      (fun _ => rfl) (fun _ => rfl)
  case h_25 =>
    exact parsed_again parsed (settled_of_stable _ (fun _ => rfl) fun _ => rfl) (fun _ => rfl)
      (fun _ => rfl) (fun _ => rfl)
  case h_26 =>
    exact parsed_again parsed (settled_of_stable _ (fun _ => rfl) fun _ => rfl) (fun _ => rfl)
      (fun _ => rfl) (fun _ => rfl)
  case h_27 =>
    exact parsed_again parsed settled_ok (fun _ => rfl)
      (fun _ => rfl) (fun _ => rfl)
  case h_28 =>
    exact parsed_again parsed settled_ok (fun _ => rfl)
      (fun _ => rfl) (fun _ => rfl)
  case h_29 =>
    exact parsed_again parsed settled_ok (fun _ => rfl)
      (fun _ => rfl) (fun _ => rfl)
  case h_30 =>
    exact parsed_again parsed settled_ok (fun _ => rfl)
      (fun _ => rfl) (fun _ => rfl)
  case h_31 =>
    exact parsed_again parsed validateRequestReturn_settled (fun _ => rfl)
      (fun _ => rfl) (fun _ => rfl)
  case h_32 =>
    exact parsed_again parsed settled_ok (fun _ => rfl)
      (fun _ => rfl) (fun _ => rfl)
  case h_33 =>
    exact parsed_again parsed settled_ok (fun _ => rfl)
      (fun _ => rfl) (fun _ => rfl)
  case h_34 =>
    exact parsed_again parsed validateRecordExternalRefund_settled (fun _ => rfl)
      (fun _ => rfl) (fun _ => rfl)
  case h_35 =>
    exact parsed_again parsed validateReviewTerms_settled (fun _ => rfl)
      (fun _ => rfl) (fun _ => rfl)
  case h_36 =>
    exact parsed_again parsed validateReviewTerms_settled (fun _ => rfl)
      (fun _ => rfl) (fun _ => rfl)
  case h_37 =>
    exact parsed_again parsed settled_ok (fun _ => rfl)
      (fun _ => rfl) (fun _ => rfl)
  case h_38 => cases parsed

theorem rawEnvelope_canonical (command : Command) :
    externals.rawEnvelope.decode (canonicalJson externals command) =
      some ⟨commerceContractVersion, command.commandId, command.aggregateId,
        command.expectedRevision, command.issuedAt.truncated .millis, command.payload.kind,
        payloadJson externals command.payload⟩ := by
  have issuedAt :
      externals.dateTime.decode (.str (CalendarTime.rfc3339 .millis command.issuedAt)) =
        some (command.issuedAt.truncated .millis) :=
    externals.parseTime_rfc3339 .millis command.issuedAt
  apply Serde.record_decode
  · rfl
  · exact Serde.Fields.as_decode
      (Serde.Fields.decode_named (u64.decode_encode commerceContractVersion)
      (Serde.Fields.decode_named (externals.uuid.decode_encode command.commandId)
      (Serde.Fields.decode_named rfl
      (Serde.Fields.decode_named (i64.decode_encode command.expectedRevision)
      (Serde.Fields.decode_named issuedAt
      (Serde.Fields.decode_named rfl (Serde.Fields.decode_named rfl rfl)))))))

theorem parseCommand_again {raw : Serde.Value} {command : Command}
    (parsed : parseCommand externals raw = .ok command) :
    parseCommand externals (canonicalJson externals command) =
      .ok { command with issuedAt := command.issuedAt.truncated .millis } := by
  unfold parseCommand at parsed
  split at parsed
  · cases parsed
  case h_2 envelope _ =>
    split at parsed
    case isFalse => cases parsed
    case isTrue clean =>
      cases accepted : parsePayload externals envelope.kind envelope.payload with
      | error issues =>
          rw [accepted] at parsed
          cases parsed
      | ok payload =>
          rw [accepted] at parsed
          cases parsed
          obtain ⟨kind, again⟩ := parsePayload_again accepted
          unfold parseCommand
          rw [rawEnvelope_canonical]
          have issues : envelopeIssues ⟨commerceContractVersion, envelope.commandId,
              envelope.aggregateId, envelope.expectedRevision,
              envelope.issuedAt.truncated .millis, payload.kind,
              payloadJson externals payload⟩ = [] := by
            unfold envelopeIssues at clean ⊢
            rw [List.append_eq_nil_iff, List.append_eq_nil_iff] at clean
            rw [clean.1.2, clean.2]
            rfl
          simp only [if_pos issues]
          rw [kind, again]
          rfl

theorem requestHash_truncated (command : Command) :
    requestHash externals { command with issuedAt := command.issuedAt.truncated .millis } =
      requestHash externals command := by
  unfold requestHash canonicalJson
  rw [CalendarTime.rfc3339_truncated]

end Parsing

/-- The canonical JSON of an accepted command is accepted as the same command but
for the time, which is cut to milliseconds, under the same hash; and it tells the
command apart from every other. -/
theorem commands_canonical (externals : Externals) :
    (∀ raw command, parseCommand externals raw = .ok command →
      ∃ again, parseCommand externals (canonicalJson externals command) = .ok again ∧
        again = { command with issuedAt := command.issuedAt.truncated .millis } ∧
        requestHash externals again = requestHash externals command) ∧
    ∀ rawFirst rawSecond first second,
      parseCommand externals rawFirst = .ok first →
      parseCommand externals rawSecond = .ok second →
      canonicalJson externals first = canonicalJson externals second →
      first.commandId = second.commandId ∧ first.aggregateId = second.aggregateId ∧
        first.expectedRevision = second.expectedRevision ∧
        first.payload.kind = second.payload.kind ∧ first.payload = second.payload := by
  constructor
  · intro raw command parsed
    exact ⟨_, parseCommand_again parsed, rfl, requestHash_truncated command⟩
  · intro rawFirst rawSecond first second parsedFirst parsedSecond same
    have again := parseCommand_again parsedFirst
    rw [same, parseCommand_again parsedSecond] at again
    injection again with equal
    injection equal with commandId aggregateId expectedRevision _ payload
    exact ⟨commandId.symm, aggregateId.symm, expectedRevision.symm, by rw [payload],
      payload.symm⟩

/-! A review, as two clients may write it. -/

def wireReviewBytes : List UInt8 :=
  ("\x7b\"version\":1,\"command_id\":\"018f47d2-6a27-7c23-a49d-6b21bb770120\"," ++
    "\"aggregate_id\":\"order:lamp_01\",\"expected_revision\":0," ++
    "\"issued_at\":\"2026-08-19T22:00:00.123Z\",\"kind\":\"review.create\"," ++
    "\"payload\":\x7b\"order_id\":\"018f47d2-6a27-7c23-a49d-6b21bb770121\"," ++
    "\"rating\":5,\"text\":\"Lovely lamp\",\"allow_amount_band\":false\x7d\x7d").toUTF8.toList

def wireReviewDigest : List UInt8 :=
    [0x0c, 0x42, 0xa3, 0x2b, 0x4e, 0x98, 0xed, 0x22, 0xde, 0xc7, 0xf1, 0xe0, 0xbc, 0x8b,
      0x01, 0xcb, 0xdc, 0xb1, 0x81, 0xd1, 0xd2, 0xf0, 0x30, 0x9a, 0x38, 0x71, 0x3b, 0x72,
      0x72, 0xb9, 0x9c, 0xc2]

/-- The packages as they treat one review: a plain reading of its texts, its bytes
and their digest. -/
def wireExternals : Externals where
  parseUuid text := if hyphenated : isHyphenated text = true then some ⟨text, hyphenated⟩ else none
  parseTime := CalendarTime.readUtc
  parseUrl _ := none
  serdeError _ _ := ""
  toVec _ := wireReviewBytes
  sha256 _ := wireReviewDigest
  parseUuid_text uuid := dif_pos uuid.hyphenated
  parseTime_rfc3339 := CalendarTime.readUtc_rfc3339

def wireCommandId : Uuid := ⟨"018f47d2-6a27-7c23-a49d-6b21bb770120", by decide⟩

def wireOrderId : Uuid := ⟨"018f47d2-6a27-7c23-a49d-6b21bb770121", by decide⟩

/-- A review with blanks around its text, and with its time in microseconds. -/
def wireReviewRaw (issuedAt text : String) : Serde.Value :=
  .obj [("kind", .str "review.create"), ("version", .integer 1),
    ("command_id", .str wireCommandId.text), ("aggregate_id", .str "order:lamp_01"),
    ("expected_revision", .integer 0), ("issued_at", .str issuedAt),
    ("payload", .obj [("order_id", .str wireOrderId.text), ("rating", .integer 5),
      ("text", .str text)])]

theorem wireYear_inside : -262143 ≤ (2026 : ℤ) ∧ (2026 : ℤ) ≤ 262142 := by decide

def wireReview (micros : ℕ) (short : micros < 1000000) : Command :=
  ⟨wireCommandId, "order:lamp_01", ⟨0, zero_fits⟩,
    ⟨2026, 8, 19, 22, 0, 0, micros * 1000, wireYear_inside, by decide, by decide,
      .inl (by unfold CalendarTime.nanosOfSecond; omega)⟩,
    .createReview ⟨wireOrderId, ⟨5, by decide⟩, "Lovely lamp", false⟩⟩

/-- A review with blanks around its text, sent twice under one id. -/
theorem wireReview_canonical :
    (∃ again, parseCommand wireExternals
        (canonicalJson wireExternals (wireReview 123456 (by decide))) = .ok again ∧
      again = { wireReview 123456 (by decide) with
        issuedAt := (wireReview 123456 (by decide)).issuedAt.truncated .millis } ∧
      requestHash wireExternals again =
        requestHash wireExternals (wireReview 123456 (by decide))) ∧
    (wireReview 123456 (by decide)).payload = (wireReview 123000 (by decide)).payload := by
  have first : parseCommand wireExternals
      (wireReviewRaw "2026-08-19T22:00:00.123456Z" "  Lovely lamp ") =
        .ok (wireReview 123456 (by decide)) := by rfl
  have second : parseCommand wireExternals
      (wireReviewRaw "2026-08-19T22:00:00.123Z" "Lovely lamp") =
        .ok (wireReview 123000 (by decide)) := by rfl
  have same : canonicalJson wireExternals (wireReview 123456 (by decide)) =
      canonicalJson wireExternals (wireReview 123000 (by decide)) := by rfl
  obtain ⟨again, apart⟩ := commands_canonical wireExternals
  exact ⟨again _ _ first, (apart _ _ _ _ first second same).2.2.2.2⟩

end MarketplaceService.Commands
