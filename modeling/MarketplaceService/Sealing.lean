import Mathlib.Data.List.TakeDrop

/-!
Sealed payloads (`seal.rs`, `rotating_keys.rs`): a nonce in front of an AEAD
ciphertext, and the ring of a current key and an optional previous one. Seals
take the current key; opens try the current key and then the previous one.

The cipher itself is third-party code and a parameter. What is assumed of it is
that it decrypts what it encrypted under the same key, nonce and associated data
and that a ciphertext is never empty, as its tag is part of it.
-/

namespace MarketplaceService

abbrev Bytes := List UInt8

def xnonceLen : ℕ := 24

def keyLen : ℕ := 32

/-- The random bytes in front of a ciphertext. -/
abbrev XNonce := { bytes : Bytes // bytes.length = xnonceLen }

abbrev SealKey := { bytes : Bytes // bytes.length = keyLen }

/-- The cipher: key, nonce, associated data and message. -/
structure Aead where
  encrypt : SealKey → Bytes → Bytes → Bytes → Bytes
  decrypt : SealKey → Bytes → Bytes → Bytes → Option Bytes
  decrypts : ∀ key nonce aad message,
    decrypt key nonce aad (encrypt key nonce aad message) = some message
  tagged : ∀ key nonce aad message, encrypt key nonce aad message ≠ []

namespace Aead

variable (aead : Aead)

/-- `seal`, with the nonce it drew. -/
def sealBytes (key : SealKey) (nonce : XNonce) (aad plaintext : Bytes) : Bytes :=
  nonce.1 ++ aead.encrypt key nonce.1 aad plaintext

/-- `open`. -/
def openSealed (key : SealKey) (aad sealed : Bytes) : Option Bytes :=
  if sealed.length ≤ xnonceLen then none
  else aead.decrypt key (sealed.take xnonceLen) aad (sealed.drop xnonceLen)

theorem open_seal (key : SealKey) (nonce : XNonce) (aad plaintext : Bytes) :
    aead.openSealed key aad (aead.sealBytes key nonce aad plaintext) = some plaintext := by
  have tag := List.length_pos_iff.mpr (aead.tagged key nonce.1 aad plaintext)
  have long : ¬ (aead.sealBytes key nonce aad plaintext).length ≤ xnonceLen := by
    have shape : (aead.sealBytes key nonce aad plaintext).length =
        xnonceLen + (aead.encrypt key nonce.1 aad plaintext).length := by
      rw [sealBytes, List.length_append, nonce.2]
    omega
  rw [openSealed, if_neg long, sealBytes, List.take_left' nonce.2, List.drop_left' nonce.2]
  exact aead.decrypts key nonce.1 aad plaintext

end Aead

/-- `RotatingKeys`; `from_hex` refuses equal keys. -/
structure RotatingKeys where
  current : SealKey
  previous : Option SealKey
  distinct : previous ≠ some current

namespace RotatingKeys

variable (aead : Aead) (keys : RotatingKeys)

def hasPrevious : Bool := keys.previous.isSome

def sealBytes (nonce : XNonce) (aad plaintext : Bytes) : Bytes :=
  aead.sealBytes keys.current nonce aad plaintext

/-- `RotatingKeys::open`. -/
def openSealed (aad sealed : Bytes) : Option Bytes :=
  match aead.openSealed keys.current aad sealed with
  | some plaintext => some plaintext
  | none => keys.previous.bind fun previous => aead.openSealed previous aad sealed

def opensUnderCurrent (aad sealed : Bytes) : Bool :=
  (aead.openSealed keys.current aad sealed).isSome

def openUnderPrevious (aad sealed : Bytes) : Option Bytes :=
  keys.previous.bind fun previous => aead.openSealed previous aad sealed

/-- The ring after the previous key is dropped. -/
def currentOnly : RotatingKeys where
  current := keys.current
  previous := none
  distinct := nofun

variable {aead keys} {aad sealed plaintext : Bytes}

theorem open_fresh (nonce : XNonce) :
    keys.openSealed aead aad (keys.sealBytes aead nonce aad plaintext) = some plaintext := by
  rw [openSealed, sealBytes, aead.open_seal]

theorem opensUnderCurrent_fresh (nonce : XNonce) :
    keys.opensUnderCurrent aead aad (keys.sealBytes aead nonce aad plaintext) = true := by
  rw [opensUnderCurrent, sealBytes, aead.open_seal]
  rfl

theorem open_of_previous (stale : keys.opensUnderCurrent aead aad sealed = false)
    (old : keys.openUnderPrevious aead aad sealed = some plaintext) :
    keys.openSealed aead aad sealed = some plaintext := by
  rw [opensUnderCurrent, Option.isSome_eq_false_iff, Option.isNone_iff_eq_none] at stale
  rw [openSealed, stale]
  exact old

theorem opens_of_current (fresh : keys.opensUnderCurrent aead aad sealed = true) :
    ∃ plaintext, keys.openSealed aead aad sealed = some plaintext := by
  obtain ⟨plaintext, opens⟩ := Option.isSome_iff_exists.mp fresh
  exact ⟨plaintext, by rw [openSealed, opens]⟩

theorem open_currentOnly (fresh : keys.opensUnderCurrent aead aad sealed = true) :
    keys.currentOnly.openSealed aead aad sealed = keys.openSealed aead aad sealed := by
  obtain ⟨plaintext, opens⟩ := Option.isSome_iff_exists.mp fresh
  have alone : aead.openSealed keys.currentOnly.current aad sealed = some plaintext := opens
  rw [openSealed, openSealed, opens, alone]

end RotatingKeys

end MarketplaceService
