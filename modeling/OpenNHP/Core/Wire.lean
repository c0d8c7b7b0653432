/-
  Packets as bytes: the layouts of the two header structs (`nhp/core/scheme/{curve,gmsm}/header.go`) and the
  libraries as functions on byte strings.

  1. Both structs are sequences of fixed-width byte arrays without padding, so a cast of `&Content[0]` is a family
     of slices (`Packet.ofBytes`), and a header that was filled in field by field is the fields in this order
     (`Header.bytes`).
  2. What was written is what the cast reads, as long as each field has its width
     (`HeaderFields.ofBytes_append`, `MsgAssemblerData.ofBytes_content_carries`).
  3. `Libs` lists the library functions; `Libs.crypto` is what the repository computes with them, and it is lawful
     if they are.
-/
import OpenNHP.Lib.BigEndian
import OpenNHP.Core.RoundTrip

namespace OpenNHP.Core

open BigEndian

/-! ## The common header -/

namespace HeaderCommon

/-- The first 24 bytes, all big-endian. -/
def toBytes (h : HeaderCommon) : Bytes :=
  putBE 4 h.preamble.toNat ++ (putBE 4 h.tns.toNat ++ (putBE 1 h.major.toNat ++
    (putBE 1 h.minor.toNat ++ (putBE 2 h.flag.toNat ++ (putBE 4 h.unused.toNat ++
      (putBE 8 h.counter.toNat ++ []))))))

/-- What the accessors read from them. -/
def ofBytes (bs : Bytes) : HeaderCommon where
  preamble := UInt32.ofNat (getBE (slice 0 4 bs))
  tns := UInt32.ofNat (getBE (slice 4 4 bs))
  major := UInt8.ofNat (getBE (slice 8 1 bs))
  minor := UInt8.ofNat (getBE (slice 9 1 bs))
  flag := UInt16.ofNat (getBE (slice 10 2 bs))
  unused := UInt32.ofNat (getBE (slice 12 4 bs))
  counter := UInt64.ofNat (getBE (slice 16 8 bs))

@[simp] theorem length_toBytes (h : HeaderCommon) : h.toBytes.length = headerCommonSize := by
  simp [toBytes, headerCommonSize]

/-- The accessors read back what the setters wrote. -/
theorem ofBytes_toBytes (h : HeaderCommon) (post : Bytes) : ofBytes (h.toBytes ++ post) = h := by
  simp [ofBytes, toBytes, slice_skip, slice_here, getBE_putBE]

/-- The accessors read the first 24 bytes only. -/
theorem ofBytes_append {content : Bytes} (h : headerCommonSize ≤ content.length) (rest : Bytes) :
    ofBytes (content ++ rest) = ofBytes content := by
  have hlen : 24 ≤ content.length := h
  simp (disch := omega) only [ofBytes, slice_within]

end HeaderCommon

/-! ## The header structs -/

/-- The offset of each field in the struct of a scheme. -/
def identityOffset (scheme : CipherScheme) : Nat := headerCommonSize + publicKeySize scheme
/-- Where the sealed static key begins. -/
def staticOffset (scheme : CipherScheme) : Nat :=
  identityOffset scheme + (maximumIdentitySize + gcmTagSize)
/-- Where the sealed send time begins. -/
def timestampOffset (scheme : CipherScheme) : Nat :=
  staticOffset scheme + (publicKeySize scheme + gcmTagSize)
/-- Where the HMAC begins. -/
def hmacOffset (scheme : CipherScheme) : Nat := timestampOffset scheme + (timestampSize + gcmTagSize)

/-- With it the header ends. -/
theorem hmacOffset_add_hashSize (scheme : CipherScheme) :
    hmacOffset scheme + hashSize = headerSize scheme := by
  cases scheme <;> rfl

/-- The struct fields behind the common header. -/
def HeaderFields.ofBytes (scheme : CipherScheme) (bs : Bytes) : HeaderFields Bytes where
  ephermeral := slice headerCommonSize (publicKeySize scheme) bs
  identity := slice (identityOffset scheme) (maximumIdentitySize + gcmTagSize) bs
  static := slice (staticOffset scheme) (publicKeySize scheme + gcmTagSize) bs
  timestamp := slice (timestampOffset scheme) (timestampSize + gcmTagSize) bs
  hmac := slice (hmacOffset scheme) hashSize bs

/-- A packet: `buf` is the pool buffer `Buf`, and `Content` is `Buf[:n]`. -/
def Packet.ofBytes (buf : Bytes) (n : Nat) : Packet Bytes where
  common := HeaderCommon.ofBytes buf
  fields scheme := HeaderFields.ofBytes scheme buf
  payload scheme := (buf.take n).drop (headerSize scheme)
  len := n

/-- A cast reads the fields at the offsets of its struct. -/
theorem Packet.cast_ofBytes (buf : Bytes) (n : Nat) (scheme : CipherScheme) :
    (Packet.ofBytes buf n).cast scheme = { HeaderFields.ofBytes scheme buf with
      scheme := scheme, common := HeaderCommon.ofBytes buf } := rfl

/-- The payload is what comes behind the header. -/
theorem Packet.payload_ofBytes (buf : Bytes) (n : Nat) (scheme : CipherScheme) :
    (Packet.ofBytes buf n).payload scheme = (buf.take n).drop (headerSize scheme) := rfl

/-- The lengths the arrays of a header struct have. -/
structure HeaderFields.WellSized (scheme : CipherScheme) (f : HeaderFields Bytes) : Prop where
  ephermeral : f.ephermeral.length = publicKeySize scheme
  identity : f.identity.length = maximumIdentitySize + gcmTagSize
  static : f.static.length = publicKeySize scheme + gcmTagSize
  timestamp : f.timestamp.length = timestampSize + gcmTagSize
  hmac : f.hmac.length = hashSize

/-- What is read from enough bytes has its widths. -/
theorem HeaderFields.ofBytes_wellSized {scheme : CipherScheme} {bs : Bytes}
    (h : headerSize scheme ≤ bs.length) : (HeaderFields.ofBytes scheme bs).WellSized scheme := by
  constructor <;> refine length_slice (le_trans ?_ h) <;> cases scheme <;> decide

/-- A struct laid out field by field is read back field by field. -/
theorem HeaderFields.ofBytes_append {scheme : CipherScheme} {f : HeaderFields Bytes}
    (hf : f.WellSized scheme) {common : Bytes} (hc : common.length = headerCommonSize)
    (post : Bytes) :
    HeaderFields.ofBytes scheme
      (common ++ (f.ephermeral ++ (f.identity ++ (f.static ++ (f.timestamp ++ (f.hmac ++ post))))))
      = f := by
  obtain ⟨heph, hid, hstatic, hts, hhmac⟩ := hf
  cases scheme <;>
    simp_all [HeaderFields.ofBytes, slice_skip, slice_here, identityOffset, staticOffset,
      timestampOffset, hmacOffset, headerCommonSize, publicKeySize, maximumIdentitySize, gcmTagSize,
      timestampSize, hashSize]

/-- A header struct as bytes. -/
def Header.bytes (h : Header Bytes) : Bytes :=
  h.common.toBytes ++ (h.ephermeral ++ (h.identity ++ (h.static ++ (h.timestamp ++ h.hmac))))

/-- A header with fields of their widths has the size of its struct. -/
theorem Header.length_bytes {h : Header Bytes} (hsized : h.toHeaderFields.WellSized h.scheme) :
    h.bytes.length = headerSize h.scheme := by
  obtain ⟨heph, hid, hstatic, hts, hhmac⟩ := hsized
  simp only [bytes, List.length_append, HeaderCommon.length_toBytes, heph, hid, hstatic, hts, hhmac,
    headerSize]
  omega

/-- The cast reads a header back from its bytes, whatever follows. -/
theorem Header.cast_ofBytes {h : Header Bytes} (hsized : h.toHeaderFields.WellSized h.scheme)
    (post : Bytes) (n : Nat) : (Packet.ofBytes (h.bytes ++ post) n).cast h.scheme = h := by
  have hbytes : h.bytes ++ post = h.common.toBytes ++ (h.ephermeral ++ (h.identity ++ (h.static ++
      (h.timestamp ++ (h.hmac ++ post))))) := by
    simp only [bytes, List.append_assoc]
  rw [Packet.cast_ofBytes, hbytes, HeaderFields.ofBytes_append hsized (HeaderCommon.length_toBytes _),
    HeaderCommon.ofBytes_toBytes]

/-! ## The libraries -/

/-- The library functions the packet code calls, on byte strings: the hashes, `hmac`, the AEADs with
    a 12-byte nonce, the two ECDHs and zlib. -/
structure Libs where
  sum : HashType → Bytes → Bytes
  hmac : HashType → Bytes → Bytes → Bytes
  aeadSeal : GcmType → Bytes → Bytes → Bytes → Bytes → Bytes
  aeadOpen : GcmType → Bytes → Bytes → Bytes → Bytes → Option Bytes
  validKey : EccType → Bytes → Prop
  publicKey : EccType → Bytes → Bytes
  ecdh : EccType → Bytes → Bytes → Option Bytes
  zlibCompress : Bytes → Bytes
  zlibInflate : Bytes → Inflated Bytes

/-- What the libraries promise: `Open` inverts `Seal` and `Seal` appends a tag, both sides of an ECDH
    between generated key pairs succeed and agree, keys and digests have their lengths, and inflating
    inverts compressing. -/
structure LawfulLibs (L : Libs) : Prop where
  aeadOpen_aeadSeal : ∀ t key nonce text ad,
    L.aeadOpen t key nonce (L.aeadSeal t key nonce text ad) ad = some text
  length_aeadSeal : ∀ t key nonce text ad,
    (L.aeadSeal t key nonce text ad).length = text.length + gcmTagSize
  ecdh_comm : ∀ e a b, L.validKey e a → L.validKey e b →
    L.ecdh e a (L.publicKey e b) = L.ecdh e b (L.publicKey e a)
  ecdh_isSome : ∀ e a b, L.validKey e a → L.validKey e b → (L.ecdh e a (L.publicKey e b)).isSome
  length_publicKey : ∀ e a, L.validKey e a → (L.publicKey e a).length = eccPublicKeySize e
  length_sum : ∀ t text, (L.sum t text).length = hashSize
  zlibInflate_zlibCompress : ∀ text, L.zlibInflate (L.zlibCompress text) = .content text

namespace Libs

/-- `InitialHashString`. -/
def initialHashString : Bytes := "NHP hashgen v.20230421@deepcloudsdp.com".toUTF8.toList
/-- `InitialChainKeyString`. -/
def initialChainKeyString : Bytes := "NHP keygen v.20230421@clouddeep.cn".toUTF8.toList

/-- The part of a derived key `AeadFromKey` uses: SM4 takes the first 16 bytes. -/
def aeadKey : GcmType → Bytes → Bytes
  | .sm4, key => key.take 16
  | _, key => key

/-- The nonce of a seal: four zeros and the counter. -/
def nonceBytes (counter : UInt64) : Bytes := List.replicate 4 0 ++ putBE 8 counter.toNat

/-- A send time as it is sealed. -/
def timestampBytes (t : Int64) : Bytes := putBE 8 t.toUInt64.toNat
/-- And as it is read. -/
def timestampOf (bs : Bytes) : Int64 := (UInt64.ofNat (getBE bs)).toInt64

/-- The packet code's cryptography over given libraries. -/
def crypto (L : Libs) : Crypto Bytes where
  len := List.length
  byte b := [b]
  initialHashString := initialHashString
  initialChainKeyString := initialChainKeyString
  zeroKey := List.replicate 32 0
  headerCommonBytes := HeaderCommon.toBytes
  nonceBytes := nonceBytes
  timestampBytes := timestampBytes
  timestampOf := timestampOf
  hash t ws := L.sum t ws.flatten
  hmac t key ws := L.hmac t key ws.flatten
  aeadSeal t key := L.aeadSeal t (aeadKey t key)
  aeadOpen t key := L.aeadOpen t (aeadKey t key)
  validKey := L.validKey
  publicKey := L.publicKey
  ecdh := L.ecdh
  zlibCompress := L.zlibCompress
  zlibInflate := L.zlibInflate

/-- Nothing is lost on the way. -/
theorem timestampOf_timestampBytes (t : Int64) : timestampOf (timestampBytes t) = t := by
  simp [timestampOf, timestampBytes, getBE_putBE]

/-- With lawful libraries all of the packet code's cryptography is. -/
theorem lawful {L : Libs} (h : LawfulLibs L) : LawfulCrypto L.crypto where
  aeadOpen_aeadSeal t key := h.aeadOpen_aeadSeal t (aeadKey t key)
  ecdh_comm := h.ecdh_comm
  ecdh_isSome := h.ecdh_isSome
  zlibInflate_zlibCompress := h.zlibInflate_zlibCompress
  timestampOf_timestampBytes := timestampOf_timestampBytes
  len_publicKey := h.length_publicKey
  len_timestampBytes _ := length_putBE 8 _
  len_aeadSeal t key := h.length_aeadSeal t (aeadKey t key)
  len_hash t ws := h.length_sum t ws.flatten

end Libs

/-! ## The bytes of an assembled message -/

variable {L : Libs}

/-- `BasePacket.Content` of an assembled message. -/
def MsgAssemblerData.content (mad : MsgAssemblerData L.crypto) : Bytes := mad.wire.flatten

/-- They are the header's bytes and the sealed body. -/
theorem MsgAssemblerData.content_eq (mad : MsgAssemblerData L.crypto) :
    mad.content = mad.header.bytes ++ mad.body.toList.flatten := by
  simp [content, wire, Header.macInput, Header.bytes, Libs.crypto]

/-- The bytes of an assembled message, in a pool buffer with anything behind them, carry it. -/
theorem MsgAssemblerData.ofBytes_content_carries {mad : MsgAssemblerData L.crypto}
    (hsized : mad.header.toHeaderFields.WellSized mad.cipherScheme)
    (hscheme : mad.header.scheme = mad.cipherScheme) (rest : Bytes) :
    (Packet.ofBytes (mad.content ++ rest) mad.content.length).Carries mad := by
  have hbytes := mad.content_eq
  rw [← hscheme] at hsized
  refine ⟨?_, ?_, ?_⟩
  · rw [hbytes, List.append_assoc, ← hscheme]
    exact Header.cast_ofBytes hsized _ _
  · intro body hbody
    rw [Packet.payload_ofBytes, List.take_left, hbytes, ← hscheme, ← Header.length_bytes hsized,
      List.drop_left, hbody]
    simp
  · show mad.content.length = _
    rw [hbytes, List.length_append, Header.length_bytes hsized, hscheme]
    cases mad.body <;> simp [Libs.crypto]

end OpenNHP.Core
