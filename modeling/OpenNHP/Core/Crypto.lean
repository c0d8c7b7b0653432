/-
  The cryptography the packet code is written against (`nhp/core/crypto.go`, `nhp/core/kdf.go`,
  `nhp/core/scheme/{curve,gmsm}`).

  1. The primitives (hash, HMAC, AEAD, ECDH, zlib) live in Go's and third-party libraries, so they are the fields
     of `Crypto M`, a record over the type `M` of byte strings.
  2. `LawfulCrypto` states what the packet code relies on: decryption inverts encryption, the two sides of an ECDH
     agree, and the lengths are those of the algorithms.  Nothing about secrecy is in it; that is added where a
     statement needs it, by symbolic libraries.
  3. What the repository itself builds on top (the cipher suites, the key checks of `SharedSecret`, the key
     derivation of `NoiseFactory`) is defined here.
-/
import OpenNHP.Core.Packet

namespace OpenNHP.Core

/-! ## Cipher suites -/

/-- The hashes of the suites. -/
inductive HashType
  | blake2s
  | sm3
  | sha256
  deriving DecidableEq, Repr

/-- The curves; `umi` has no implementation. -/
inductive EccType
  | curve25519
  | sm2
  | umi
  deriving DecidableEq, Repr

/-- The ciphers of the suites. -/
inductive GcmType
  | aes256
  | sm4
  | chacha20poly1305
  deriving DecidableEq, Repr

/-- `CipherSuite`. -/
structure CipherSuite where
  scheme : CipherScheme
  eccType : EccType
  hashType : HashType
  gcmType : GcmType
  deriving DecidableEq, Repr

/-- `NewCipherSuite`. -/
def newCipherSuite : CipherScheme → CipherSuite
  | .curve => { scheme := .curve, hashType := .blake2s, eccType := .curve25519, gcmType := .aes256 }
  | .gmsm => { scheme := .gmsm, hashType := .sm3, eccType := .sm2, gcmType := .sm4 }

/-! ## The primitives -/

/-- What a zlib stream turns into: `NewReader` refuses it, `io.Copy` fails on it, or its content. -/
inductive Inflated (M : Type)
  | badHeader
  | corrupt
  | content (m : M)

/-- The library functions, over an arbitrary type of byte strings. -/
structure Crypto (M : Type) where
  len : M → Nat
  /-- `[]byte{b}`. -/
  byte : UInt8 → M
  initialHashString : M
  initialChainKeyString : M
  /-- `[32]byte{}`, what `SetZero` leaves. -/
  zeroKey : M
  /-- The 24 bytes of a common header. -/
  headerCommonBytes : HeaderCommon → M
  /-- `NonceBytes`: four zero bytes and the counter bytes. -/
  nonceBytes : UInt64 → M
  /-- `PutUint64` of an `int64`, and `int64(Uint64(..))` back. -/
  timestampBytes : Int64 → M
  timestampOf : M → Int64
  /-- `NewHash(t)`, one `Write` for each list element, `Sum`. -/
  hash : HashType → List M → M
  /-- `hmac.New` with a key, one `Write` for each list element, `Sum`. -/
  hmac : HashType → M → List M → M
  /-- `AeadFromKey(t, key)` and its `Seal`/`Open` on a nonce, a text and associated data. -/
  aeadSeal : GcmType → M → M → M → M → M
  aeadOpen : GcmType → M → M → M → M → Option M
  /-- The private keys `SetPrivateKey` accepts, and the public key it computes. -/
  validKey : EccType → M → Prop
  publicKey : EccType → M → M
  /-- The ECDH of a private key and a public key of the right length. -/
  ecdh : EccType → M → M → Option M
  zlibCompress : M → M
  zlibInflate : M → Inflated M

/-- `PublicKeySize` of an ECC type. -/
def eccPublicKeySize : EccType → Nat
  | .curve25519 => 32
  | .sm2 => 64
  | .umi => 0

/-- The documented behaviour of the libraries that the packet code relies on. -/
structure LawfulCrypto {M : Type} (C : Crypto M) : Prop where
  aeadOpen_aeadSeal : ∀ t key nonce text ad,
    C.aeadOpen t key nonce (C.aeadSeal t key nonce text ad) ad = some text
  ecdh_comm : ∀ e a b, C.validKey e a → C.validKey e b →
    C.ecdh e a (C.publicKey e b) = C.ecdh e b (C.publicKey e a)
  ecdh_isSome : ∀ e a b, C.validKey e a → C.validKey e b → (C.ecdh e a (C.publicKey e b)).isSome
  zlibInflate_zlibCompress : ∀ m, C.zlibInflate (C.zlibCompress m) = .content m
  timestampOf_timestampBytes : ∀ t, C.timestampOf (C.timestampBytes t) = t
  len_publicKey : ∀ e a, C.validKey e a → C.len (C.publicKey e a) = eccPublicKeySize e
  len_timestampBytes : ∀ t, C.len (C.timestampBytes t) = timestampSize
  len_aeadSeal : ∀ t key nonce text ad,
    C.len (C.aeadSeal t key nonce text ad) = C.len text + gcmTagSize
  len_hash : ∀ t ws, C.len (C.hash t ws) = hashSize

/-- The field of a public key has the size of the suite's keys. -/
theorem eccPublicKeySize_newCipherSuite (scheme : CipherScheme) :
    eccPublicKeySize (newCipherSuite scheme).eccType = publicKeySize scheme := by
  cases scheme <;> rfl

/-! ## Key pairs -/

variable {M : Type}

/-- A key pair, as `ECDHFromKey` and `NewECDH` return it: the private key is one the curve accepts. -/
structure Ecdh (C : Crypto M) where
  eccType : EccType
  privKey : M
  valid : C.validKey eccType privKey

namespace Ecdh

variable {C : Crypto M}

/-- `PublicKey`. -/
def publicKey (e : Ecdh C) : M := C.publicKey e.eccType e.privKey

/-- `SharedSecret`: `nil` for a public key of the wrong length or when the ECDH fails. -/
def sharedSecret (e : Ecdh C) (pbk : M) : Option M :=
  if C.len pbk ≠ eccPublicKeySize e.eccType then none else C.ecdh e.eccType e.privKey pbk

/-- Its length is that of the curve. -/
theorem len_publicKey (hC : LawfulCrypto C) (e : Ecdh C) :
    C.len e.publicKey = eccPublicKeySize e.eccType :=
  hC.len_publicKey _ _ e.valid

/-- Two key pairs of one curve compute the same secret from each other's public key. -/
theorem sharedSecret_agree (hC : LawfulCrypto C) {a b : Ecdh C} (h : a.eccType = b.eccType) :
    ∃ secret, a.sharedSecret b.publicKey = some secret ∧ b.sharedSecret a.publicKey = some secret := by
  have hb : C.validKey a.eccType b.privKey := h ▸ b.valid
  obtain ⟨secret, hs⟩ := Option.isSome_iff_exists.mp (hC.ecdh_isSome _ _ _ a.valid hb)
  refine ⟨secret, ?_, ?_⟩
  · rw [sharedSecret, if_neg (by rw [len_publicKey hC, h]; simp), publicKey, ← h]
    exact hs
  · rw [sharedSecret, if_neg (by rw [len_publicKey hC, h]; simp), publicKey, ← h,
      hC.ecdh_comm _ _ _ hb a.valid]
    exact hs

end Ecdh

/-- The random choices one assembly makes: the ephemeral key pair and the header preamble. -/
structure Entropy (C : Crypto M) where
  newECDH : EccType → Ecdh C
  newECDH_eccType : ∀ e, (newECDH e).eccType = e
  randomUint32 : UInt32

/-! ## `NoiseFactory` -/

namespace Noise

variable (C : Crypto M) (t : HashType)

/-- `HMAC1`. -/
def hmac1 (key in0 : M) : M := C.hmac t key [in0]

/-- `HMAC2`. -/
def hmac2 (key in0 in1 : M) : M := C.hmac t key [in0, in1]

/-- `KeyGen1`. -/
def keyGen1 (key input : M) : M := hmac1 C t (hmac1 C t key input) (C.byte 1)

/-- `KeyGen2`: the new chain key and the derived key. -/
def keyGen2 (key input : M) : M × M :=
  let prk := hmac1 C t key input
  let dst0 := hmac1 C t prk (C.byte 1)
  (dst0, hmac2 C t prk dst0 (C.byte 2))

/-- `MixKey`. -/
def mixKey (key input : M) : M := keyGen1 C t key input

end Noise

end OpenNHP.Core
