import MarketplaceService.Lib.Base32
import MarketplaceService.Lib.Text

/-!
Lock resources: the creator, one of two prefixes, and the lock id as a JSON file.
A canonical resource has no scheme, and its id is the encoding of 32 bytes.
-/

namespace MarketplaceService.Commands

def zBase32Alphabet : List Char := "ybndrfg8ejkmcpqxot1uwisza345h769".toList

def isValidPubky (value : List Char) : Bool :=
  value.length == 52 && value.all fun char => zBase32Alphabet.contains char

def locksContentLockPrefix : List Char := "/pub/locks.app/".toList

def upstreamLocksContentLockPrefix : List Char := "/pub/app.locks/".toList

def pubkyResourceScheme : List Char := "pubky://".toList

def splitLockResource (resource : List Char) : Option (List Char × List Char × List Char) :=
  match Text.splitOnce locksContentLockPrefix resource with
  | some (creator, path) => some (creator, locksContentLockPrefix, path)
  | none =>
      (Text.splitOnce upstreamLocksContentLockPrefix resource).map fun (creator, path) =>
        (creator, upstreamLocksContentLockPrefix, path)

/-- `crockford_id_regex_52`. -/
def isCrockfordId52 (text : List Char) : Bool :=
  text.length == 52 && text.all fun char => Base32.crockford.contains char

def jsonSuffix : List Char := ".json".toList

/-- `canonical_lock_resource`, on characters. -/
def canonicalLockChars (resource : List Char) : Option (List Char) := do
  let bare := if pubkyResourceScheme.isPrefixOf resource
    then resource.drop pubkyResourceScheme.length else resource
  let (creator, locksPrefix, path) ← splitLockResource bare
  let stem ← Text.stripSuffix jsonSuffix path
  let lockId := stem.map Text.upperChar
  if isValidPubky creator && isCrockfordId52 lockId then
    let decoded ← (Base32.decode lockId).filter fun bytes => bytes.length == 32
    some (creator ++ locksPrefix ++ Base32.encode decoded ++ jsonSuffix)
  else none

def canonicalLockResource (resource : String) : Option String :=
  (canonicalLockChars resource.toList).map String.ofList

theorem canonicalLockChars_shape {resource canonical : List Char}
    (accepted : canonicalLockChars resource = some canonical) :
    ∃ creator locksPrefix bytes,
      isValidPubky creator = true ∧ bytes.length = 32 ∧
      (locksPrefix = locksContentLockPrefix ∨ locksPrefix = upstreamLocksContentLockPrefix) ∧
      canonical = creator ++ locksPrefix ++ Base32.encode bytes ++ jsonSuffix := by
  unfold canonicalLockChars at accepted
  simp only [Option.bind_eq_bind, Option.bind_eq_some_iff] at accepted
  obtain ⟨⟨creator, locksPrefix, path⟩, splitted, stem, -, named⟩ := accepted
  split at named
  case isFalse => cases named
  case isTrue valid =>
    simp only [Option.bind_eq_some_iff, Option.filter_eq_some_iff, beq_iff_eq] at named
    obtain ⟨bytes, ⟨-, size⟩, whole⟩ := named
    rw [Bool.and_eq_true] at valid
    refine ⟨creator, locksPrefix, bytes, valid.1, size, ?_, (Option.some.inj whole).symm⟩
    unfold splitLockResource at splitted
    split at splitted
    · cases splitted
      exact .inl rfl
    · obtain ⟨pair, -, same⟩ := Option.map_eq_some_iff.mp splitted
      cases same
      exact .inr rfl

theorem not_mem_of_isValidPubky {creator : List Char} {char : Char}
    (valid : isValidPubky creator = true) (other : zBase32Alphabet.contains char = false) :
    char ∉ creator := by
  intro member
  unfold isValidPubky at valid
  rw [Bool.and_eq_true] at valid
  have listed := List.all_eq_true.mp valid.2 char member
  rw [other] at listed
  cases listed

theorem slash_not_mem_encode (bytes : Base32.Bytes) :
    '/' ∉ Base32.encode bytes ++ jsonSuffix := by
  intro member
  rcases List.mem_append.mp member with digit | suffix
  · exact absurd (Base32.encode_alphabet bytes '/' digit) (by decide)
  · exact absurd suffix (by decide)

theorem scheme_not_prefix {creator : List Char} (rest : List Char)
    (valid : isValidPubky creator = true) :
    pubkyResourceScheme.isPrefixOf (creator ++ rest) = false := by
  rw [Bool.eq_false_iff]
  intro starts
  have whole := List.isPrefixOf_iff_prefix.mp starts
  have long : creator.length = 52 := by
    unfold isValidPubky at valid
    rw [Bool.and_eq_true] at valid
    exact beq_iff_eq.mp valid.1
  have inside : pubkyResourceScheme <+: creator :=
    List.prefix_of_prefix_length_le whole (List.prefix_append _ _) (by rw [long]; decide)
  exact not_mem_of_isValidPubky valid (by decide : zBase32Alphabet.contains ':' = false)
    (inside.subset (by decide))

theorem locksContentLockPrefix_chars : locksContentLockPrefix =
    ['/', 'p', 'u', 'b', '/', 'l', 'o', 'c', 'k', 's', '.', 'a', 'p', 'p', '/'] := by
  decide

theorem upstreamLocksContentLockPrefix_chars : upstreamLocksContentLockPrefix =
    ['/', 'p', 'u', 'b', '/', 'a', 'p', 'p', '.', 'l', 'o', 'c', 'k', 's', '/'] := by
  decide

/-- The first prefix does not occur from the second on. -/
theorem splitOnce_upstream (bytes : Base32.Bytes) (size : bytes.length = 32) :
    Text.splitOnce locksContentLockPrefix
      (upstreamLocksContentLockPrefix ++ (Base32.encode bytes ++ jsonSuffix)) = none := by
  have later := Text.splitOnce_free (show locksContentLockPrefix.head? = some '/' by decide)
    (slash_not_mem_encode bytes)
  cases digits : Base32.encode bytes with
  | nil =>
      have width := Base32.encode_length bytes
      rw [digits, size] at width
      cases width
  | cons first others =>
      have listed := Base32.encode_alphabet bytes first (by rw [digits]; exact List.mem_cons_self)
      have other : 'p' ≠ first := by
        rintro rfl
        exact absurd listed (by decide)
      rw [digits, locksContentLockPrefix_chars] at later
      rw [locksContentLockPrefix_chars, upstreamLocksContentLockPrefix_chars]
      simp only [List.cons_append, List.nil_append] at later ⊢
      -- Each slash of the second prefix is followed by another character.
      simp only [Text.splitOnce, List.isPrefixOf_cons_cons, Char.reduceBEq, Bool.false_and,
        Bool.true_and, beq_false_of_ne other, Bool.false_eq_true, if_false,
        Option.map_eq_none_iff] at later ⊢
      exact later

theorem splitLockResource_canonical {creator locksPrefix : List Char} {bytes : Base32.Bytes}
    (valid : isValidPubky creator = true) (size : bytes.length = 32)
    (listed : locksPrefix = locksContentLockPrefix ∨
      locksPrefix = upstreamLocksContentLockPrefix) :
    splitLockResource (creator ++ (locksPrefix ++ (Base32.encode bytes ++ jsonSuffix))) =
      some (creator, locksPrefix, Base32.encode bytes ++ jsonSuffix) := by
  have free : '/' ∉ creator := not_mem_of_isValidPubky valid (by decide)
  have first : locksContentLockPrefix.head? = some '/' := by decide
  have second : upstreamLocksContentLockPrefix.head? = some '/' := by decide
  unfold splitLockResource
  rcases listed with rfl | rfl
  · rw [Text.splitOnce_append _ first free]
  · rw [Text.splitOnce_skip _ first free, splitOnce_upstream bytes size, Option.map_none]
    simp only [Text.splitOnce_append _ second free, Option.map_some]

theorem canonicalLockChars_idempotent {resource canonical : List Char}
    (accepted : canonicalLockChars resource = some canonical) :
    canonicalLockChars canonical = some canonical := by
  obtain ⟨creator, locksPrefix, bytes, valid, size, listed, rfl⟩ :=
    canonicalLockChars_shape accepted
  have upper : (Base32.encode bytes).map Text.upperChar = Base32.encode bytes := by
    have same : (Base32.crockford.all fun char => Text.upperChar char == char) = true := by rfl
    rw [List.all_eq_true] at same
    rw [List.map_congr_left fun char member =>
      eq_of_beq (same char (Base32.encode_alphabet bytes char member)), List.map_id']
  have id52 : isCrockfordId52 (Base32.encode bytes) = true := by
    unfold isCrockfordId52
    rw [Bool.and_eq_true, Base32.encode_length, size, List.all_eq_true]
    refine ⟨rfl, fun char member => ?_⟩
    rw [List.contains_iff_mem]
    exact Base32.encode_alphabet bytes char member
  unfold canonicalLockChars
  simp only [List.append_assoc, scheme_not_prefix _ valid, Bool.false_eq_true, if_false,
    splitLockResource_canonical valid size listed, Option.bind_eq_bind, Option.bind_some,
    Text.stripSuffix_append, upper, valid, id52, Bool.and_self, if_true,
    Base32.decode_encode, Option.filter_some, size, beq_self_eq_true]

theorem canonicalLockResource_idempotent {resource canonical : String}
    (accepted : canonicalLockResource resource = some canonical) :
    canonicalLockResource canonical = some canonical := by
  obtain ⟨chars, found, rfl⟩ := Option.map_eq_some_iff.mp accepted
  unfold canonicalLockResource
  rw [String.toList_ofList, canonicalLockChars_idempotent found, Option.map_some]

end MarketplaceService.Commands
