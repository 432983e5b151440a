import Mathlib
import MarketplaceService.DeletionFollower
import MarketplaceService.Lib.DigitText

/-!
The cursors of the seller exports. A cursor is the URL-safe text of a JSON pair,
the revision of a row and its identity; `base64` and `serde_json` are taken as
given, by what they do to the characters of the identities in use. What decoding
refuses beside broken texts, a negative revision, a long identity or a control
character, no issued cursor holds: registration admits listing ids of letters,
digits, dashes and underscores, and the identity of an order is its uuid.
-/

namespace MarketplaceService

/-! The ids that commands admit. -/

def zBase32Alphabet : String := "ybndrfg8ejkmcpqxot1uwisza345h769"

def isValidPubky (value : String) : Bool :=
  value.utf8ByteSize == 52 && value.toList.all fun char => zBase32Alphabet.toList.contains char

/-- An id under which `listing.register` and `listing.sync` can write. -/
def AdmittedListing (id : ListingId) : Prop :=
  ∃ seller listing, isValidPubky seller = true ∧ isValidEntityId listing = true ∧
    id = listingAggregateId (seller, listing)

/-- The ids drawn for orders have 128 bits. -/
def IsUuid (id : OrderId) : Prop := id < 2 ^ 128

instance (id : OrderId) : Decidable (IsUuid id) := inferInstanceAs (Decidable (id < 2 ^ 128))

def hexDigits : List Char :=
  ['0', '1', '2', '3', '4', '5', '6', '7', '8', '9', 'a', 'b', 'c', 'd', 'e', 'f']

def hexDigit (digit : ℕ) : Char := hexDigits.getD (digit % 16) '0'

/-- The last hexadecimal digits of a number, the highest first. -/
def hexGroup : ℕ → ℕ → List Char
  | 0, _ => []
  | width + 1, number => hexDigit (number / 16 ^ width) :: hexGroup width number

def hexGroups : List ℕ → ℕ → List Char
  | [], _ => []
  | [width], number => hexGroup width number
  | width :: rest, number => hexGroup width (number / 16 ^ rest.sum) ++ '-' :: hexGroups rest number

/-- The text of an order's id, as `Uuid` and `id::text` write it. -/
def uuidText (id : OrderId) : String := String.ofList (hexGroups [8, 4, 4, 4, 12] id)

/-! Encoding and decoding. -/

/-- `URL_SAFE_NO_PAD` of the `base64` crate and `serde_json` on the pair. -/
structure CursorCodec where
  encode : List UInt8 → String
  decode : String → Option (List UInt8)
  toVec : ℤ × String → List UInt8
  fromSlice : List UInt8 → Option (ℤ × String)

/-- A character that JSON writes as itself. -/
def isPlain (char : Char) : Bool :=
  char.isAlphanum || char == '_' || char == '-' || char == ':'

structure CursorCodec.Law (codec : CursorCodec) : Prop where
  base64 : ∀ bytes, codec.decode (codec.encode bytes) = some bytes
  json : ∀ (revision : ℕ) (identity : String), revision < 2 ^ 63 →
    identity.toList.all isPlain = true →
    codec.fromSlice (codec.toVec (revision, identity)) = some ((revision : ℤ), identity)

def isControl (char : Char) : Bool :=
  decide (char.toNat < 0x20) || (decide (0x7F ≤ char.toNat) && decide (char.toNat ≤ 0x9F))

def encodePageCursor (codec : CursorCodec) (revision : ℤ) (identity : String) : String :=
  codec.encode (codec.toVec (revision, identity))

def decodePageCursor (codec : CursorCodec) (cursor : String) : Option (ℤ × String) := do
  let bytes ← codec.decode cursor
  let (revision, identity) ← codec.fromSlice bytes
  if revision < 0 ∨ 256 < identity.utf8ByteSize ∨ identity.toList.any isControl = true then none
  else some (revision, identity)

/-! The identities that cursors carry. -/

/-- An identity that decoding accepts. -/
structure Carried (identity : String) : Prop where
  plain : identity.toList.all isPlain = true
  short : identity.utf8ByteSize ≤ 256
  nonempty : identity ≠ ""

theorem isAlphanum_range {char : Char} (letter : char.isAlphanum = true) :
    48 ≤ char.toNat ∧ char.toNat ≤ 122 := by
  simp only [Char.isAlphanum, Char.isAlpha, Char.isUpper, Char.isLower, Char.isDigit,
    Bool.or_eq_true,
    Bool.and_eq_true, decide_eq_true_eq, ge_iff_le, UInt32.le_iff_toNat_le] at letter
  change (65 ≤ char.toNat ∧ char.toNat ≤ 90 ∨ 97 ≤ char.toNat ∧ char.toNat ≤ 122) ∨
    48 ≤ char.toNat ∧ char.toNat ≤ 57 at letter
  omega

theorem isPlain_range {char : Char} (plain : isPlain char = true) :
    45 ≤ char.toNat ∧ char.toNat ≤ 122 := by
  unfold isPlain at plain
  rw [Bool.or_eq_true, Bool.or_eq_true, Bool.or_eq_true, beq_iff_eq, beq_iff_eq,
    beq_iff_eq] at plain
  rcases plain with ((letter | rfl) | rfl) | rfl
  · have range := isAlphanum_range letter
    omega
  · decide
  · decide
  · decide

theorem utf8ByteSize_plain {text : List Char} (plain : text.all isPlain = true) :
    (String.ofList text).utf8ByteSize = text.length := by
  induction text with
  | nil => rfl
  | cons char rest ih =>
      rw [List.all_cons, Bool.and_eq_true] at plain
      have split : String.ofList (char :: rest) = String.singleton char ++ String.ofList rest := by
        rw [← String.toList_inj]
        simp
      have small : char.utf8Size = 1 :=
        Char.utf8Size_eq_one_iff.mpr ((isPlain_range plain.1).2.trans (by decide))
      rw [split, String.utf8ByteSize_append, ih plain.2, String.utf8ByteSize_singleton, small,
        List.length_cons, Nat.add_comm]

theorem not_isControl {char : Char} (plain : isPlain char = true) : isControl char = false := by
  obtain ⟨low, high⟩ := isPlain_range plain
  unfold isControl
  rw [Bool.or_eq_false_iff, Bool.and_eq_false_iff, decide_eq_false_iff_not, decide_eq_false_iff_not]
  exact ⟨by omega, .inl (by omega)⟩

theorem decode_encode {codec : CursorCodec} (law : codec.Law) {identity : String}
    (carried : Carried identity) {revision : ℕ} (fits : revision < 2 ^ 63) :
    decodePageCursor codec (encodePageCursor codec revision identity) =
      some ((revision : ℤ), identity) := by
  have printable : identity.toList.any isControl = false := by
    rw [List.any_eq_false]
    intro char member
    rw [not_isControl (List.all_eq_true.mp carried.plain char member)]
    exact Bool.false_ne_true
  unfold decodePageCursor encodePageCursor
  rw [law.base64, Option.bind_eq_bind, Option.bind_some,
    law.json revision identity fits carried.plain, Option.bind_eq_bind, Option.bind_some]
  have short := carried.short
  refine if_neg ?_
  rw [printable]
  rintro (negative | long | control)
  · omega
  · omega
  · cases control

theorem zBase32_plain {char : Char} (member : zBase32Alphabet.toList.contains char = true) :
    isPlain char = true := by
  have all : zBase32Alphabet.toList.all isPlain = true := by decide
  exact List.all_eq_true.mp all char (List.contains_iff_mem.mp member)

theorem AdmittedListing.carried {id : ListingId} (admitted : AdmittedListing id) : Carried id := by
  obtain ⟨seller, listing, pubky, entity, rfl⟩ := admitted
  unfold isValidPubky at pubky
  unfold isValidEntityId at entity
  rw [Bool.and_eq_true, beq_iff_eq] at pubky
  rw [Bool.and_eq_true, Bool.and_eq_true, decide_eq_true_eq, decide_eq_true_eq] at entity
  have sellerPlain : seller.toList.all isPlain = true := by
    rw [List.all_eq_true] at pubky ⊢
    exact fun char member => zBase32_plain (pubky.2 char member)
  have listingPlain : listing.toList.all isPlain = true := by
    rw [List.all_eq_true] at entity ⊢
    intro char member
    have letter := entity.2 char member
    unfold isPlain
    rw [letter]
    rfl
  have listingSize : listing.utf8ByteSize = listing.toList.length := by
    have size := utf8ByteSize_plain listingPlain
    rwa [String.ofList_toList] at size
  refine ⟨?_, ?_, ?_⟩
  · unfold listingAggregateId
    rw [String.toList_append, String.toList_append, String.toList_append, List.all_append,
      List.all_append, List.all_append, sellerPlain, listingPlain]
    decide
  · unfold listingAggregateId
    rw [String.utf8ByteSize_append, String.utf8ByteSize_append, String.utf8ByteSize_append, pubky.1,
      listingSize]
    have label : "listing:".utf8ByteSize = 8 := by decide
    have mark : "_".utf8ByteSize = 1 := by decide
    omega
  · intro empty
    have length := congrArg String.utf8ByteSize empty
    unfold listingAggregateId at length
    rw [String.utf8ByteSize_append, String.utf8ByteSize_append, String.utf8ByteSize_append,
      pubky.1] at length
    have none_ : "".utf8ByteSize = 0 := rfl
    omega

theorem hexDigit_plain (digit : ℕ) : isPlain (hexDigit digit) = true := by
  have small : digit % 16 < hexDigits.length := Nat.mod_lt _ (by decide)
  unfold hexDigit
  rw [List.getD_eq_getElem?_getD, List.getElem?_eq_getElem small, Option.getD_some]
  have all : hexDigits.all isPlain = true := by decide
  exact List.all_eq_true.mp all _ (List.getElem_mem small)

theorem hexGroup_plain (width number : ℕ) : (hexGroup width number).all isPlain = true := by
  induction width with
  | zero => rfl
  | succ width ih =>
      rw [hexGroup, List.all_cons, hexDigit_plain, ih]
      rfl

@[simp]
theorem length_hexGroup (width number : ℕ) : (hexGroup width number).length = width := by
  induction width with
  | zero => rfl
  | succ width ih => rw [hexGroup, List.length_cons, ih]

theorem uuidText_carried (id : OrderId) : Carried (uuidText id) := by
  have plain : (hexGroups [8, 4, 4, 4, 12] id).all isPlain = true := by
    have dash : isPlain '-' = true := by decide
    simp only [hexGroups, List.all_append, List.all_cons, hexGroup_plain, dash, Bool.and_self]
  have length : (hexGroups [8, 4, 4, 4, 12] id).length = 36 := by
    simp [hexGroups]
  refine ⟨?_, ?_, ?_⟩
  · rw [uuidText, String.toList_ofList]
    exact plain
  · rw [uuidText, utf8ByteSize_plain plain, length]
    decide
  · intro empty
    have size := congrArg String.utf8ByteSize empty
    rw [uuidText, utf8ByteSize_plain plain, length] at size
    cases size

/-! The order of the texts of uuids. -/

theorem hexDigit_lt {first second : ℕ} (less : first < second) (small : second < 16) :
    hexDigit first < hexDigit second := by
  have all : ∀ second : Fin 16, ∀ first : Fin second, hexDigit first < hexDigit second := by decide
  exact all ⟨second, small⟩ ⟨first, less⟩

theorem hexGroup_mod (width number : ℕ) :
    ∀ above, width ≤ above → hexGroup width (number % 16 ^ above) = hexGroup width number := by
  induction width with
  | zero => exact fun _ _ => rfl
  | succ width ih =>
      intro above wide
      rw [hexGroup, hexGroup, ih above (by omega)]
      congr 1
      obtain ⟨more, rfl⟩ := Nat.exists_eq_add_of_lt wide
      have digit : number % 16 ^ (width + more + 1) / 16 ^ width % 16 =
          number / 16 ^ width % 16 := by
        rw [Nat.add_assoc, pow_add, Nat.mod_mul_right_div_self, pow_succ, Nat.mul_comm,
          Nat.mod_mul_right_mod]
      rw [hexDigit, hexDigit, digit]

theorem append_lt {first second : List Char} (width : first.length = second.length)
    (less : first < second) (left right : List Char) : first ++ left < second ++ right := by
  induction first generalizing second with
  | nil =>
      cases second with
      | nil => exact absurd less (List.not_lt_nil _)
      | cons head tail => cases width
  | cons head rest ih =>
      cases second with
      | nil => cases width
      | cons other tail =>
          rw [List.cons_append, List.cons_append, List.cons_lt_cons_iff]
          rcases List.cons_lt_cons_iff.mp less with smaller | ⟨same, below⟩
          · exact .inl smaller
          · exact .inr ⟨same, ih (Nat.succ.inj width) below⟩

/-- The higher parts decide, and the lower ones when these are equal. -/
theorem parts_lt {first second : ℕ} (unit : ℕ) (less : first < second) :
    first / unit < second / unit ∨
      first / unit = second / unit ∧ first % unit < second % unit := by
  rcases Nat.lt_or_ge (first / unit) (second / unit) with below | above
  · exact .inl below
  · have same : first / unit = second / unit :=
      Nat.le_antisymm (Nat.div_le_div_right less.le) above
    refine .inr ⟨same, ?_⟩
    have one := Nat.div_add_mod first unit
    have other := Nat.div_add_mod second unit
    rw [same] at one
    omega

/-- Digits of one width sort as the numbers they write. -/
theorem hexGroup_lt {width : ℕ} : ∀ {first second : ℕ}, first < second → second < 16 ^ width →
    hexGroup width first < hexGroup width second := by
  induction width with
  | zero =>
      intro first second less small
      rw [pow_zero] at small
      omega
  | succ width ih =>
      intro first second less small
      have positive : 0 < 16 ^ width := Nat.pow_pos (by decide)
      have high : second / 16 ^ width < 16 := by
        rw [Nat.div_lt_iff_lt_mul positive, Nat.mul_comm, ← pow_succ]
        exact small
      rw [hexGroup, hexGroup, List.cons_lt_cons_iff]
      rcases parts_lt (16 ^ width) less with below | ⟨same, rest⟩
      · exact .inl (hexDigit_lt below high)
      · rw [same, ← hexGroup_mod width first width le_rfl, ← hexGroup_mod width second width le_rfl]
        exact .inr ⟨rfl, ih rest (Nat.mod_lt _ positive)⟩

theorem hexGroups_cons (width next : ℕ) (tail : List ℕ) (number : ℕ) :
    hexGroups (width :: next :: tail) number =
      hexGroup width (number / 16 ^ (next :: tail).sum) ++ '-' :: hexGroups (next :: tail) number :=
  rfl

theorem hexGroups_mod (widths : List ℕ) (number : ℕ) : ∀ above, widths.sum ≤ above →
    hexGroups widths (number % 16 ^ above) = hexGroups widths number := by
  induction widths with
  | nil => exact fun _ _ => rfl
  | cons width rest ih =>
      intro above wide
      rw [List.sum_cons] at wide
      cases rest with
      | nil => exact hexGroup_mod width number above (by simpa using wide)
      | cons next tail =>
          obtain ⟨more, rfl⟩ := Nat.exists_eq_add_of_le wide
          have high : number % 16 ^ (width + (next :: tail).sum + more) / 16 ^ (next :: tail).sum =
              number / 16 ^ (next :: tail).sum % 16 ^ (width + more) := by
            rw [Nat.add_comm width, Nat.add_assoc, pow_add, Nat.mod_mul_right_div_self]
          rw [hexGroups_cons, hexGroups_cons, high, hexGroup_mod _ _ _ (by omega), ih _ (by omega)]

theorem hexGroups_lt {widths : List ℕ} : ∀ {first second : ℕ}, first < second →
    second < 16 ^ widths.sum → hexGroups widths first < hexGroups widths second := by
  induction widths with
  | nil =>
      intro first second less small
      rw [List.sum_nil, pow_zero] at small
      omega
  | cons width rest ih =>
      intro first second less small
      cases rest with
      | nil =>
          rw [hexGroups, hexGroups]
          exact hexGroup_lt less (by simpa using small)
      | cons next tail =>
          have positive : 0 < 16 ^ (next :: tail).sum := Nat.pow_pos (by decide)
          have high : second / 16 ^ (next :: tail).sum < 16 ^ width := by
            rw [Nat.div_lt_iff_lt_mul positive, ← pow_add]
            exact small
          rw [hexGroups_cons, hexGroups_cons]
          rcases parts_lt (16 ^ (next :: tail).sum) less with below | ⟨same, below⟩
          · exact append_lt (by simp) (hexGroup_lt below high) _ _
          · have later : '-' :: hexGroups (next :: tail) first <
                '-' :: hexGroups (next :: tail) second := by
              rw [← hexGroups_mod _ first _ le_rfl, ← hexGroups_mod _ second _ le_rfl]
              exact List.cons_lt_cons_iff.mpr (.inr ⟨rfl, ih below (Nat.mod_lt _ positive)⟩)
            rw [same]
            exact List.append_left_lt later

theorem uuidText_lt {first second : OrderId} (less : first < second) (small : IsUuid second) :
    uuidText first < uuidText second := by
  rw [String.lt_iff_toList_lt, uuidText, uuidText, String.toList_ofList, String.toList_ofList]
  refine hexGroups_lt less ?_
  unfold IsUuid at small
  norm_num at small ⊢
  exact small

/-! The texts themselves, for revisions and identities that JSON writes plainly. -/

def urlSafeAlphabet : List Char :=
  "ABCDEFGHIJKLMNOPQRSTUVWXYZabcdefghijklmnopqrstuvwxyz0123456789-_".toList

def sextetChar (sextet : ℕ) : Char := urlSafeAlphabet.getD (sextet % 64) 'A'

def sextets : List ℕ → List ℕ
  | [] => []
  | [a] => [a / 4, a % 4 * 16]
  | [a, b] => [a / 4, a % 4 * 16 + b / 16, b % 16 * 4]
  | a :: b :: c :: rest =>
      a / 4 :: (a % 4 * 16 + b / 16) :: (b % 16 * 4 + c / 64) :: c % 64 :: sextets rest

/-- Bits left over past the last byte are refused. -/
def ofSextets : List ℕ → Option (List ℕ)
  | [] => some []
  | [_] => none
  | [s, t] => if t % 16 = 0 then some [s * 4 + t / 16] else none
  | [s, t, u] => if u % 4 = 0 then some [s * 4 + t / 16, t % 16 * 16 + u / 4] else none
  | s :: t :: u :: v :: rest =>
      (ofSextets rest).map fun bytes =>
        (s * 4 + t / 16) :: (t % 16 * 16 + u / 4) :: (u % 4 * 64 + v) :: bytes

def pairText (pair : ℤ × String) : List Char :=
  '[' :: DigitText.pad 1 pair.1.toNat ++ ',' :: '"' :: pair.2.toList ++ ['"', ']']

def readPair (text : List Char) : Option (ℤ × String) :=
  match text with
  | '[' :: rest =>
      match (DigitText.parts ',' rest).2 with
      | '"' :: body =>
          if body.drop (body.length - 2) = ['"', ']'] then
            some ((DigitText.readDigits (DigitText.parts ',' rest).1 : ℤ),
              String.ofList (body.take (body.length - 2)))
          else none
      | _ => none
  | _ => none

def urlSafeCodec : CursorCodec :=
  { encode := fun bytes => String.ofList ((sextets (bytes.map UInt8.toNat)).map sextetChar)
    decode := fun text =>
      (text.toList.mapM fun char => urlSafeAlphabet.idxOf? char).bind fun values =>
        (ofSextets values).map fun bytes => bytes.map UInt8.ofNat
    toVec := fun pair => (pairText pair).map fun char => UInt8.ofNat char.toNat
    fromSlice := fun bytes => readPair (bytes.map fun byte => Char.ofNat byte.toNat) }

theorem ofSextets_sextets (bytes : List ℕ) (small : ∀ byte ∈ bytes, byte < 256) :
    ofSextets (sextets bytes) = some bytes := by
  induction bytes using sextets.induct with
  | case1 => rfl
  | case2 a =>
      have bound := small a (by simp)
      rw [sextets, ofSextets, if_pos (by omega)]
      congr 2
      omega
  | case3 a b =>
      have first := small a (by simp)
      have second := small b (by simp)
      rw [sextets, ofSextets, if_pos (by omega)]
      congr 2
      · omega
      · congr 1
        omega
  | case4 a b c rest ih =>
      have first := small a (by simp)
      have second := small b (by simp)
      have third := small c (by simp)
      rw [sextets, ofSextets, ih fun byte member => small byte (by simp [member]), Option.map_some]
      congr 2
      · omega
      · congr 1
        · omega
        · congr 1
          omega

theorem sextets_lt (bytes : List ℕ) (small : ∀ byte ∈ bytes, byte < 256) :
    ∀ sextet ∈ sextets bytes, sextet < 64 := by
  induction bytes using sextets.induct with
  | case1 => simp [sextets]
  | case2 a =>
      have bound := small a (by simp)
      simp only [sextets, List.forall_mem_cons, List.not_mem_nil, false_imp_iff, implies_true,
        and_true]
      omega
  | case3 a b =>
      have first := small a (by simp)
      have second := small b (by simp)
      simp only [sextets, List.forall_mem_cons, List.not_mem_nil, false_imp_iff, implies_true,
        and_true]
      omega
  | case4 a b c rest ih =>
      have first := small a (by simp)
      have second := small b (by simp)
      have third := small c (by simp)
      have last := ih fun byte member => small byte (by simp [member])
      simp only [sextets, List.forall_mem_cons]
      refine ⟨?_, ?_, ?_, ?_, last⟩ <;> omega

theorem idxOf_sextetChar {sextet : ℕ} (small : sextet < 64) :
    urlSafeAlphabet.idxOf? (sextetChar sextet) = some sextet := by
  have all : ∀ sextet : Fin 64, urlSafeAlphabet.idxOf? (sextetChar sextet) = some sextet.val := by
    decide +kernel
  exact all ⟨sextet, small⟩

theorem mapM_idxOf (values : List ℕ) (small : ∀ sextet ∈ values, sextet < 64) :
    (values.map sextetChar).mapM (fun char => urlSafeAlphabet.idxOf? char) = some values := by
  induction values with
  | nil => rfl
  | cons head rest ih =>
      rw [List.map_cons, List.mapM_cons, idxOf_sextetChar (small head (by simp)),
        ih fun sextet member => small sextet (by simp [member])]
      rfl

theorem bytes_of_nats (bytes : List UInt8) : (bytes.map UInt8.toNat).map UInt8.ofNat = bytes := by
  rw [List.map_map]
  conv_rhs => rw [← List.map_id bytes]
  exact List.map_congr_left fun byte _ => UInt8.ofNat_toNat

theorem chars_of_bytes {text : List Char} (ascii : ∀ char ∈ text, char.toNat < 256) :
    (text.map fun char => UInt8.ofNat char.toNat).map (fun byte => Char.ofNat byte.toNat) =
      text := by
  rw [List.map_map]
  conv_rhs => rw [← List.map_id text]
  refine List.map_congr_left fun char member => ?_
  rw [Function.comp_apply, UInt8.toNat_ofNat_of_lt' (ascii char member), Char.ofNat_toNat, id]

theorem readPair_pairText (revision : ℕ) (identity : String) :
    readPair (pairText (revision, identity)) = some ((revision : ℤ), identity) := by
  have free : ',' ∉ DigitText.pad 1 revision :=
    DigitText.mark_not_mem_of_all (DigitText.pad_all 1 revision) (by decide)
  have split := DigitText.parts_append ('"' :: identity.toList ++ ['"', ']']) free
  unfold pairText readPair
  simp only [Int.toNat_natCast, List.cons_append, List.append_assoc] at split ⊢
  rw [split]
  simp

theorem urlSafeCodec_law : urlSafeCodec.Law := by
  constructor
  · intro bytes
    have small : ∀ byte ∈ bytes.map UInt8.toNat, byte < 256 := by
      intro byte member
      obtain ⟨octet, -, rfl⟩ := List.mem_map.mp member
      exact octet.toNat_lt
    simp only [urlSafeCodec, String.toList_ofList]
    rw [mapM_idxOf _ (sextets_lt _ small), Option.bind_some, ofSextets_sextets _ small,
      Option.map_some, bytes_of_nats]
  · intro revision identity _ plain
    simp only [urlSafeCodec]
    rw [chars_of_bytes, readPair_pairText]
    intro char member
    simp only [pairText, List.cons_append, List.append_assoc, List.mem_cons, List.mem_append,
      List.not_mem_nil, or_false] at member
    rcases member with rfl | digit | rfl | rfl | named | rfl | rfl
    · decide
    · have letter : char.isAlphanum = true := by
        rw [Char.isAlphanum, List.all_eq_true.mp (DigitText.pad_all 1 _) char digit, Bool.or_true]
      exact (isAlphanum_range letter).2.trans_lt (by decide)
    · decide
    · decide
    · exact (isPlain_range (List.all_eq_true.mp plain char named)).2.trans_lt (by decide)
    · decide
    · decide

end MarketplaceService
