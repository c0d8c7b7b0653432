/-
  Packets: header types, the two header layouts and the receive precheck (`nhp/core/packet.go`,
  `nhp/core/scheme/{curve,gmsm}/header.go`).

  1. The model is generic in the type `M` of byte strings.  A header is the Go struct: 24 common bytes, kept here
     as the numbers the accessors read from them, followed by the five byte-array fields.
  2. The Go code casts `&Content[0]` to one of two structs; which bytes a field covers depends on the struct, so a
     `Packet` carries one overlay for each cipher scheme.  `OpenNHP.Core.Wire` instantiates `M` with byte strings
     and defines the overlays by the offsets of the structs.
  3. The accessors shift and mask as in the source.  What they write is read back by the lemmas beside them
     (`typeAndPayloadSize_set`, `flagWord`), and what they leave alone is left alone.
  4. `recvPrecheck` is the one test before a packet gets to a worker: of its type, for the role of the device, and
     of its size (`recvPrecheck_eq_ok`).
-/
import OpenNHP.Core.Outcome
import Mathlib.Tactic.Ring

namespace OpenNHP.Core

/-! ## Constants (`nhp/core/constants.go`, `nhp/common/packet.go`) -/

/-- `PacketBufferSize`: no packet is longer than a pool buffer. -/
def packetBufferSize : Nat := 4096
/-- The bytes both structs begin with. -/
def headerCommonSize : Nat := 24
/-- The size of both hashes. -/
def hashSize : Nat := 32
/-- The size of a sealed send time, without its tag. -/
def timestampSize : Nat := 8
/-- The size of the tag behind each sealed field. -/
def gcmTagSize : Nat := 16
/-- The size of the identity field, which nothing writes. -/
def maximumIdentitySize : Nat := 64
/-- The version every assembly writes. -/
def protocolVersionMajor : UInt8 := 1
/-- Its second part. -/
def protocolVersionMinor : UInt8 := 0

/-- `NHP_FLAG_EXTENDEDLENGTH`: the header is that of GMSM. -/
def flagExtendedLength : UInt16 := 1
/-- `NHP_FLAG_COMPRESS`. -/
def flagCompress : UInt16 := 2
/-- `NHP_FLAG_CL_PKC`. -/
def flagClPkc : UInt16 := 4
/-- `NHP_FLAG_SCHEME_GMSM = 0 << 12`. -/
def flagSchemeGmsm : UInt16 := 0

/-- The cipher schemes (`CIPHER_SCHEME_GMSM = 0`, `CIPHER_SCHEME_CURVE = 1`). -/
inductive CipherScheme
  | gmsm
  | curve
  deriving DecidableEq, Repr

/-! ## Device types and header types -/

/-- `NHP_NO_DEVICE` and the roles of the repository. -/
inductive DeviceType
  | noDevice
  | agent
  | server
  | ac
  | relay
  | db
  | dhpAgent
  deriving DecidableEq, Repr

/-- The header types, in the order of the `iota` block; `other` is any number behind it. -/
inductive HeaderType
  | kpl | knk | ack | aop | art | lst | lrt | cok | rkn | rly | aol | aak | otp | reg | rak | acc | ext
  | drg | dak | dar | dag | dsa | dav | dwr | dwa | dol | dba | dhpKnk
  | other (n : Nat)
  deriving DecidableEq, Repr

namespace HeaderType

/-- The numbers of the types, in the order of `packet.go`. -/
def toNat : HeaderType → Nat
  | kpl => 0 | knk => 1 | ack => 2 | aop => 3 | art => 4 | lst => 5 | lrt => 6 | cok => 7 | rkn => 8
  | rly => 9 | aol => 10 | aak => 11 | otp => 12 | reg => 13 | rak => 14 | acc => 15 | ext => 16
  | drg => 17 | dak => 18 | dar => 19 | dag => 20 | dsa => 21 | dav => 22 | dwr => 23 | dwa => 24
  | dol => 25 | dba => 26 | dhpKnk => 27
  | other n => n

/-- The type of a number; what has no name stays a number. -/
def ofNat : Nat → HeaderType
  | 0 => kpl | 1 => knk | 2 => ack | 3 => aop | 4 => art | 5 => lst | 6 => lrt | 7 => cok | 8 => rkn
  | 9 => rly | 10 => aol | 11 => aak | 12 => otp | 13 => reg | 14 => rak | 15 => acc | 16 => ext
  | 17 => drg | 18 => dak | 19 => dar | 20 => dag | 21 => dsa | 22 => dav | 23 => dwr | 24 => dwa
  | 25 => dol | 26 => dba | 27 => dhpKnk
  | n => other n

/-- One of the 28 named types. -/
def Named : HeaderType → Prop
  | other _ => False
  | _ => True

/-- There are 28 named types, -/
theorem Named.toNat_lt {t : HeaderType} (h : t.Named) : t.toNat < 28 := by
  cases t <;> first | exact h.elim | decide

/-- and a number leads back to them. -/
theorem Named.ofNat_toNat {t : HeaderType} (h : t.Named) : ofNat t.toNat = t := by
  cases t <;> first | exact h.elim | rfl

end HeaderType

/-- `HeaderTypeToDeviceType`: the role that sends a header type. -/
def headerTypeToDeviceType : HeaderType → DeviceType
  | .knk | .lst | .rkn | .otp | .reg | .acc | .ext => .agent
  | .ack | .aop | .lrt | .cok | .aak | .rak | .dak | .dag | .dba | .dwr | .dsa => .server
  | .aol | .art => .ac
  | .rly => .relay
  | .drg | .dol | .dwa => .db
  | .dar | .dav | .dhpKnk => .dhpAgent
  | _ => .noDevice

/-- `Device.CheckRecvHeaderType`: the header types a device of the given type lets in. -/
def checkRecvHeaderType (deviceType : DeviceType) (t : HeaderType) : Bool :=
  match deviceType with
  | .agent => [.ack, .lrt, .cok, .rak, .dag, .dsa].contains t
  | .server =>
    [.reg, .knk, .dhpKnk, .lst, .rkn, .ext, .art, .rly, .aol, .otp, .drg, .dar, .dav, .dol,
      .dwa].contains t
  | .ac => [.aop, .lrt, .aak].contains t
  | .relay => [.reg, .knk, .ack, .lst, .lrt, .cok, .rkn, .ext].contains t
  | .db => [.drg, .dag, .dak, .dba, .dwr].contains t
  | _ => false

/-- Only named types pass the check. -/
theorem checkRecvHeaderType_named {dt : DeviceType} {t : HeaderType}
    (h : checkRecvHeaderType dt t = true) : t.Named := by
  cases t with
  | other n => cases dt <;> simp [checkRecvHeaderType] at h
  | _ => trivial

/-- A keep-alive never does. -/
theorem checkRecvHeaderType_ne_kpl {dt : DeviceType} {t : HeaderType}
    (h : checkRecvHeaderType dt t = true) : t ≠ .kpl := by
  rintro rfl
  cases dt <;> simp [checkRecvHeaderType] at h

/-! ## The common header -/

/-- `HeaderCommon [24]byte`, as the numbers its accessors read: `preamble` `[0:4]`, `tns` `[4:8]`,
    the version `[8]`, `[9]`, the flag word `[10:12]`, four bytes nothing reads `[12:16]`, and the
    counter `[16:24]`. -/
structure HeaderCommon where
  preamble : UInt32
  tns : UInt32
  major : UInt8
  minor : UInt8
  flag : UInt16
  unused : UInt32
  counter : UInt64
  deriving DecidableEq, Repr

namespace HeaderCommon

/-- `TypeAndPayloadSize` (also `Packet.HeaderTypeAndSize`). -/
def typeAndPayloadSize (h : HeaderCommon) : HeaderType × Nat :=
  let tns := h.preamble ^^^ h.tns
  (.ofNat ((tns &&& 0xFFFF0000) >>> 16).toNat, (tns &&& 0x0000FFFF).toNat)

/-- `SetTypeAndPayloadSize`; `preamble` is the value of `GetRandomUint32`. -/
def setTypeAndPayloadSize (h : HeaderCommon) (preamble : UInt32) (t : HeaderType) (s : Nat) :
    HeaderCommon :=
  let t32 : UInt32 := UInt32.ofNat ((t.toNat &&& 0x0000FFFF) <<< 16)
  let s32 : UInt32 := UInt32.ofNat (s &&& 0x0000FFFF)
  { h with preamble := preamble, tns := preamble ^^^ (s32 ||| t32) }

/-- `SetVersion`. -/
def setVersion (h : HeaderCommon) (major minor : UInt8) : HeaderCommon :=
  { h with major := major, minor := minor }

/-- `SetCounter`. -/
def setCounter (h : HeaderCommon) (counter : UInt64) : HeaderCommon :=
  { h with counter := counter }

/-- `SetFlag` of `HeaderCurve` (clears the extended-length bit) and of `HeaderGmsm` (sets it). -/
def setFlag (scheme : CipherScheme) (h : HeaderCommon) (flag : UInt16) : HeaderCommon :=
  match scheme with
  | .curve => { h with flag := (flag &&& ~~~flagExtendedLength) &&& (0x0FFF : UInt16) }
  | .gmsm => { h with flag := ((flag ||| flagExtendedLength) &&& (0x0FFF : UInt16)) ||| (flagSchemeGmsm <<< 12) }

@[simp] theorem setTypeAndPayloadSize_flag (h : HeaderCommon) (p : UInt32) (t : HeaderType) (s : Nat) :
    (h.setTypeAndPayloadSize p t s).flag = h.flag := rfl
@[simp] theorem setTypeAndPayloadSize_counter (h : HeaderCommon) (p : UInt32) (t : HeaderType)
    (s : Nat) : (h.setTypeAndPayloadSize p t s).counter = h.counter := rfl
@[simp] theorem setVersion_counter (h : HeaderCommon) (a b : UInt8) :
    (h.setVersion a b).counter = h.counter := rfl
@[simp] theorem setCounter_counter (h : HeaderCommon) (c : UInt64) :
    (h.setCounter c).counter = c := rfl
@[simp] theorem setFlag_counter (scheme : CipherScheme) (h : HeaderCommon) (f : UInt16) :
    (setFlag scheme h f).counter = h.counter := by
  cases scheme <;> rfl

/-- The type in the high half and the size in the low half do not overlap. -/
theorem toNat_or_shift {t s : Nat} (ht : t < 65536) (hs : s < 65536) :
    (UInt32.ofNat (s &&& 0x0000FFFF) ||| UInt32.ofNat ((t &&& 0x0000FFFF) <<< 16)).toNat
      = t * 65536 + s := by
  have hand : ∀ n, n < 65536 → n &&& 0x0000FFFF = n := by
    intro n hn
    rw [show (0x0000FFFF : Nat) = 2 ^ 16 - 1 from rfl, Nat.and_two_pow_sub_one_eq_mod]
    exact Nat.mod_eq_of_lt hn
  have hor : s ||| t * 65536 = t * 65536 + s := by
    rw [Nat.or_comm, Nat.mul_comm, ← Nat.two_pow_add_eq_or_of_lt (i := 16) hs]
  rw [UInt32.toNat_or, UInt32.toNat_ofNat', UInt32.toNat_ofNat', hand s hs, hand t ht,
    Nat.shiftLeft_eq, Nat.mod_eq_of_lt (by omega), Nat.mod_eq_of_lt (by omega), hor]

/-- What `SetTypeAndPayloadSize` hides under the preamble is what `TypeAndPayloadSize` reads. -/
theorem typeAndPayloadSize_set (h : HeaderCommon) (p : UInt32) {t : HeaderType} {s : Nat}
    (ht : t.Named) (hs : s < 65536) :
    (h.setTypeAndPayloadSize p t s).typeAndPayloadSize = (t, s) := by
  have hlt : t.toNat < 28 := ht.toNat_lt
  have hcancel : ∀ x : UInt32, p ^^^ (p ^^^ x) = x := by
    intro x
    rw [← UInt32.xor_assoc, UInt32.xor_self, UInt32.zero_xor]
  have hx := toNat_or_shift (t := t.toNat) (s := s) (by omega) hs
  have hhigh : (((UInt32.ofNat (s &&& 0x0000FFFF) ||| UInt32.ofNat ((t.toNat &&& 0x0000FFFF) <<< 16))
      &&& 0xFFFF0000) >>> 16).toNat = t.toNat := by
    rw [UInt32.toNat_shiftRight, UInt32.toNat_and, hx]
    show (t.toNat * 65536 + s &&& 0xFFFF0000) >>> 16 = t.toNat
    rw [Nat.shiftRight_and_distrib, Nat.shiftRight_eq_div_pow]
    show (t.toNat * 65536 + s) / 65536 &&& 2 ^ 16 - 1 = t.toNat
    rw [Nat.and_two_pow_sub_one_eq_mod]
    omega
  have hlow : ((UInt32.ofNat (s &&& 0x0000FFFF) ||| UInt32.ofNat ((t.toNat &&& 0x0000FFFF) <<< 16))
      &&& 0x0000FFFF).toNat = s := by
    rw [UInt32.toNat_and, hx]
    show (t.toNat * 65536 + s) &&& 2 ^ 16 - 1 = s
    rw [Nat.and_two_pow_sub_one_eq_mod]
    omega
  simp only [typeAndPayloadSize, setTypeAndPayloadSize, hcancel, hhigh, hlow, ht.ofNat_toNat]

/-- The flag word `encryptBody` builds up in `HeaderFlag`. -/
def flagWord (compress clPkc : Bool) : UInt16 :=
  (if compress then flagCompress else 0) ||| (if clPkc then flagClPkc else 0)

/-- Setting the flag word fixes the extended-length bit to the scheme's. -/
theorem setFlag_extendedLength (scheme : CipherScheme) (h : HeaderCommon) (compress clPkc : Bool) :
    ((setFlag scheme h (flagWord compress clPkc)).flag &&& flagExtendedLength = 0)
      ↔ scheme = .curve := by
  cases scheme <;> cases compress <;> cases clPkc <;>
    simp only [setFlag, flagWord, reduceCtorEq, iff_false, iff_true] <;> decide

/-- Setting the flag word keeps the compress bit. -/
theorem setFlag_compress (scheme : CipherScheme) (h : HeaderCommon) (compress clPkc : Bool) :
    ((setFlag scheme h (flagWord compress clPkc)).flag &&& flagCompress ≠ 0) ↔ compress = true := by
  cases scheme <;> cases compress <;> cases clPkc <;>
    simp only [setFlag, flagWord, reduceCtorEq, iff_false, iff_true] <;> decide

end HeaderCommon

/-! ## Headers -/

/-- The byte-array fields behind the common header. -/
structure HeaderFields (M : Type) where
  ephermeral : M
  identity : M
  static : M
  timestamp : M
  hmac : M

/-- A `Header` value: the Go type behind the interface (`HeaderCurve` or `HeaderGmsm`) and the
    struct it points to. -/
structure Header (M : Type) extends HeaderFields M where
  scheme : CipherScheme
  common : HeaderCommon

/-- `PublicKeySize` of the two scheme packages. -/
def publicKeySize : CipherScheme → Nat
  | .curve => 32
  | .gmsm => 64

/-- `HeaderSize` of the two scheme packages (`Header.Size()`). -/
def headerSize (scheme : CipherScheme) : Nat :=
  headerCommonSize + publicKeySize scheme + (maximumIdentitySize + gcmTagSize)
    + (publicKeySize scheme + gcmTagSize) + (timestampSize + gcmTagSize) + hashSize

example : headerSize .curve = 240 ∧ headerSize .gmsm = 304 := by decide

/-- `Size` of the struct. -/
def Header.size {M : Type} (h : Header M) : Nat := headerSize h.scheme

/-! ## Packets -/

/-- A received packet.  `fields s` are the struct fields the cast to scheme `s`'s header covers,
    `payload s` is `Content[headerSize s:]`, and `len` is `len(Content)`. -/
structure Packet (M : Type) where
  common : HeaderCommon
  fields : CipherScheme → HeaderFields M
  payload : CipherScheme → M
  len : Nat

namespace Packet

variable {M : Type} (pkt : Packet M)

/-- `Packet.Flag`, `Content[10:12]`. -/
def flag : Go UInt16 :=
  (Go.guardRange (12 ≤ pkt.len)).bind fun _ => .ok pkt.common.flag

/-- The header struct of a scheme, overlaid on the packet. -/
def cast (scheme : CipherScheme) : Header M :=
  { pkt.fields scheme with scheme := scheme, common := pkt.common }

/-- `Packet.HeaderWithCipherScheme`: the cast takes `&Content[0]`. -/
def headerWithCipherScheme (scheme : CipherScheme) : Go (Header M) :=
  (Go.guardRange (1 ≤ pkt.len)).bind fun _ => .ok (pkt.cast scheme)

@[simp] theorem cast_scheme (scheme : CipherScheme) : (pkt.cast scheme).scheme = scheme := rfl
@[simp] theorem cast_common (scheme : CipherScheme) : (pkt.cast scheme).common = pkt.common := rfl

/-- The scheme `Packet.Header` picks from the flag word. -/
def flagScheme (flag : UInt16) : CipherScheme :=
  if flag &&& flagExtendedLength = 0 then .curve else .gmsm

/-- `Packet.Header`. -/
def header : Go (Header M) :=
  pkt.flag.bind fun flag => pkt.headerWithCipherScheme (flagScheme flag)

/-- `Packet.HeaderTypeAndSize`, `Content[0:4]` and `Content[4:8]`. -/
def headerTypeAndSize : Go (HeaderType × Nat) :=
  (Go.guardRange (8 ≤ pkt.len)).bind fun _ => .ok pkt.common.typeAndPayloadSize

/-- `Packet.Counter`, `Content[16:24]`. -/
def counter : Go UInt64 :=
  (Go.guardRange (24 ≤ pkt.len)).bind fun _ => .ok pkt.common.counter

/-- The endpoints' test before `RecvPrecheck`: `n < pkt.MinimalLength()` is discarded. -/
def minimalLength : Nat := headerSize .curve

end Packet

/-- `Device.RecvPrecheck`. -/
def recvPrecheck {M : Type} (deviceType : DeviceType) (pkt : Packet M) : Go (HeaderType × Nat) :=
  pkt.header.bind fun header =>
  pkt.headerTypeAndSize.bind fun (t, s) =>
    if t = .kpl then
      if s = 0 then .ok (t, s) else .err .keepaliveSizeIncorrect
    else if checkRecvHeaderType deviceType t = false then .err .headerTypeDoesNotMatchDevice
    else if pkt.len ≠ header.size + s then .err .totalSizeIncorrect
    else .ok (t, s)

/-- The precheck lets in empty keepalives, and packets of an admitted type and the announced size. -/
theorem recvPrecheck_eq_ok {M : Type} {dt : DeviceType} {pkt : Packet M} {t : HeaderType} {s : Nat} :
    recvPrecheck dt pkt = .ok (t, s) ↔
      12 ≤ pkt.len ∧ pkt.common.typeAndPayloadSize = (t, s) ∧
        (t = .kpl ∧ s = 0 ∨ t ≠ .kpl ∧ checkRecvHeaderType dt t = true ∧
          pkt.len = headerSize (Packet.flagScheme pkt.common.flag) + s) := by
  by_cases h12 : 12 ≤ pkt.len
  · have h1 : 1 ≤ pkt.len := by omega
    have h8 : 8 ≤ pkt.len := by omega
    rcases hts : pkt.common.typeAndPayloadSize with ⟨t', s'⟩
    simp only [recvPrecheck, Packet.header, Packet.flag, Packet.headerWithCipherScheme,
      Packet.headerTypeAndSize, Go.guardRange, h12, h1, h8, if_true, Go.bind_ok, hts, Header.size,
      Packet.cast_scheme, true_and, Prod.mk.injEq]
    -- A keepalive is asked for an empty payload alone, any other type for its role and its size.
    by_cases hk : t' = .kpl
    · rw [if_pos hk]
      split
      · rename_i hs
        simp only [Go.ok.injEq, Prod.mk.injEq]
        constructor
        · rintro ⟨rfl, rfl⟩
          exact ⟨⟨rfl, rfl⟩, .inl ⟨hk, hs⟩⟩
        · exact fun h => h.1
      · rename_i hs
        simp only [reduceCtorEq, false_iff]
        rintro ⟨⟨rfl, rfl⟩, h | h⟩
        · exact hs h.2
        · exact h.1 hk
    · rw [if_neg hk]
      cases hcheck : checkRecvHeaderType dt t' with
      | false =>
        simp only [if_true, reduceCtorEq, false_iff]
        rintro ⟨⟨rfl, rfl⟩, h | h⟩
        · exact hk h.1
        · rw [hcheck] at h
          exact absurd h.2.1 (by decide)
      | true =>
        show (if pkt.len ≠ headerSize (Packet.flagScheme pkt.common.flag) + s' then
          (.err .totalSizeIncorrect : Go (HeaderType × Nat)) else .ok (t', s')) = .ok (t, s) ↔ _
        split
        · rename_i hlen
          simp only [reduceCtorEq, false_iff]
          rintro ⟨⟨rfl, rfl⟩, h | h⟩
          · exact hk h.1
          · exact hlen h.2.2
        · rename_i hlen
          simp only [Go.ok.injEq, Prod.mk.injEq]
          constructor
          · rintro ⟨rfl, rfl⟩
            exact ⟨⟨rfl, rfl⟩, .inr ⟨hk, hcheck, not_not.mp hlen⟩⟩
          · exact fun h => h.1
  · simp [recvPrecheck, Packet.header, Packet.flag, Go.guardRange, h12]

end OpenNHP.Core
