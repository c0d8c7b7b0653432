/-
  The key schedule both sides evolve, as one function of the handshake.

  THE PROGRAM.  `setPeerPublicKey` and `validatePeer` are two independent sequences of hash writes and key
  derivations, one over the message to send, one over the packet received.

  THE CRUX.  `Handshake` is what they have in common: the cipher scheme, the chain key they start from, the
  responder's static key, the ephemeral key and the two ECDH secrets.  Every key and every associated-data hash is
  a function of it, defined here step by step under the names the comments of the source use.

  ASSEMBLY.  The theorems `setPeerPublicKey_eq_ok` and `validatePeer_eq_ok` say exactly when each side succeeds and
  what it then holds, in those terms; nothing after this file unfolds either function.
-/
import OpenNHP.Core.Responder

namespace OpenNHP.Core

variable {M : Type}

/-- The inputs of the key schedule. -/
structure Handshake (M : Type) where
  scheme : CipherScheme
  base : M
  responder : M
  ephermeral : M
  ess : M
  ss : M

namespace Handshake

variable (C : Crypto M) (hs : Handshake M)

/-- The hash of the scheme. -/
def hashType : HashType := (newCipherSuite hs.scheme).hashType
/-- The cipher of the scheme. -/
def gcmType : GcmType := (newCipherSuite hs.scheme).gcmType

/-- `ChainKey1`: the ephemeral key is mixed in. -/
def chainKey1 : M := Noise.mixKey C hs.hashType hs.base hs.ephermeral
/-- `ChainKey2`: the secret of the ephemeral and the responder's static key. -/
def chainKey2 : M := (Noise.keyGen2 C hs.hashType (hs.chainKey1 C) hs.ess).1
/-- The key of the first seal, derived with it. -/
def staticKey : M := (Noise.keyGen2 C hs.hashType (hs.chainKey1 C) hs.ess).2
/-- `ChainKey3`: the secret of the two static keys. -/
def chainKey3 : M := (Noise.keyGen2 C hs.hashType (hs.chainKey2 C) hs.ss).1
/-- The key of the second seal. -/
def timestampKey : M := (Noise.keyGen2 C hs.hashType (hs.chainKey2 C) hs.ss).2
/-- `ChainKey4`: the sealed send time. -/
def chainKey4 (ts : M) : M := (Noise.keyGen2 C hs.hashType (hs.chainKey3 C) ts).1
/-- The key of the third seal. -/
def bodyKey (ts : M) : M := (Noise.keyGen2 C hs.hashType (hs.chainKey3 C) ts).2

/-- The chain hash after the ephemeral key, after the static field and after the timestamp field. -/
def chainHash1 : List M := [C.initialHashString, hs.responder, hs.ephermeral]
/-- What the hash has been fed with before the second seal, -/
def chainHash2 (static : M) : List M := [C.initialHashString, hs.responder, hs.ephermeral, static]
/-- and before the third. -/
def chainHash3 (static ts : M) : List M :=
  [C.initialHashString, hs.responder, hs.ephermeral, static, ts]

/-- The chain keys after each key-derivation step. -/
def chainKeys (ts : M) : List M :=
  [hs.chainKey1 C, hs.chainKey2 C, hs.chainKey3 C, hs.chainKey4 C ts]

/-- The three seals of a packet with counter `n`. -/
def sealStatic (n : UInt64) (pk : M) : M :=
  C.aeadSeal hs.gcmType (hs.staticKey C) (C.nonceBytes n) pk (C.hash hs.hashType (hs.chainHash1 C))

/-- The second seal: the send time. -/
def sealTimestamp (n : UInt64) (static tsBytes : M) : M :=
  C.aeadSeal hs.gcmType (hs.timestampKey C) (C.nonceBytes n) tsBytes
    (C.hash hs.hashType (hs.chainHash2 C static))

/-- The third: the message. -/
def sealBody (n : UInt64) (static ts text : M) : M :=
  C.aeadSeal hs.gcmType (hs.bodyKey C ts) (C.nonceBytes n) text
    (C.hash hs.hashType (hs.chainHash3 C static ts))

/-- The three openings of a packet with counter `n`. -/
def openStatic (n : UInt64) (static : M) : Option M :=
  C.aeadOpen hs.gcmType (hs.staticKey C) (C.nonceBytes n) static
    (C.hash hs.hashType (hs.chainHash1 C))

/-- The second seal opened with the keys of this handshake. -/
def openTimestamp (n : UInt64) (static ts : M) : Option M :=
  C.aeadOpen hs.gcmType (hs.timestampKey C) (C.nonceBytes n) ts
    (C.hash hs.hashType (hs.chainHash2 C static))

/-- The third. -/
def openBody (n : UInt64) (static ts body : M) : Option M :=
  C.aeadOpen hs.gcmType (hs.bodyKey C ts) (C.nonceBytes n) body
    (C.hash hs.hashType (hs.chainHash3 C static ts))

variable {C}

/-- Within one handshake each seal opens: the static key, -/
theorem openStatic_sealStatic (hC : LawfulCrypto C) (n : UInt64) (pk : M) :
    hs.openStatic C n (hs.sealStatic C n pk) = some pk :=
  hC.aeadOpen_aeadSeal _ _ _ _ _

/-- the send time, -/
theorem openTimestamp_sealTimestamp (hC : LawfulCrypto C) (n : UInt64) (static tsBytes : M) :
    hs.openTimestamp C n static (hs.sealTimestamp C n static tsBytes) = some tsBytes :=
  hC.aeadOpen_aeadSeal _ _ _ _ _

theorem openBody_sealBody (hC : LawfulCrypto C) (n : UInt64) (static ts text : M) :
    hs.openBody C n static ts (hs.sealBody C n static ts text) = some text :=
  hC.aeadOpen_aeadSeal _ _ _ _ _

end Handshake

variable {C : Crypto M}

/-! ## The initiator's side -/

namespace MsgAssemblerData

/-- The handshake an assembly to the key `pk` runs. -/
def handshake (mad : MsgAssemblerData C) (pk ess ss : M) : Handshake M where
  scheme := mad.cipherScheme
  base := mad.chainKey
  responder := pk
  ephermeral := mad.ephermeralEcdh.publicKey
  ess := ess
  ss := ss

/-- The assembly after `setPeerPublicKey` ran the handshake `hs`. -/
def afterHandshake (mad : MsgAssemblerData C) (hs : Handshake M) : MsgAssemblerData C :=
  let n := mad.header.common.counter
  let static := hs.sealStatic C n mad.deviceEcdh.publicKey
  let ts := hs.sealTimestamp C n static (C.timestampBytes mad.localInitTime)
  { mad with
    remotePubKey := some hs.responder
    hmacHash := mad.hmacHash ++ [hs.responder]
    chainHash := hs.chainHash3 C static ts
    chainKey := hs.chainKey4 C ts
    header := { mad.header with static := static, timestamp := ts }
    bodyAead := hs.bodyKey C ts
    chainKeys := mad.chainKeys ++ hs.chainKeys C ts }

/-- `setPeerPublicKey(nil)` succeeds exactly when the peer key is set, has the scheme's length and
    both ECDHs succeed; it then has run the handshake. -/
theorem setPeerPublicKey_eq_ok {mad mad' : MsgAssemblerData C}
    (hch : mad.chainHash = [C.initialHashString]) :
    mad.setPeerPublicKey none = .ok mad' ↔
      ∃ pk ess ss, mad.remotePubKey = some pk ∧ C.len pk = publicKeySize mad.cipherScheme ∧
        mad.ephermeralEcdh.sharedSecret pk = some ess ∧ mad.deviceEcdh.sharedSecret pk = some ss ∧
        mad' = mad.afterHandshake (mad.handshake pk ess ss) := by
  unfold setPeerPublicKey
  simp only [Option.none_or, Go.bind_eq_ok, Go.ofOption_eq_ok]
  constructor
  · rintro ⟨pk, hpk, h⟩
    split at h
    · cases h
    · rename_i hlen
      simp only [Go.bind_eq_ok, Go.ofOption_eq_ok] at h
      obtain ⟨ess, hess, ss, hss, h⟩ := h
      refine ⟨pk, ess, ss, hpk, not_not.mp hlen, hess, hss, ?_⟩
      cases h
      rw [hch]
      rfl
  · rintro ⟨pk, ess, ss, hpk, hlen, hess, hss, rfl⟩
    refine ⟨pk, hpk, ?_⟩
    rw [if_neg (not_not.mpr hlen)]
    simp only [Go.bind_eq_ok, Go.ofOption_eq_ok]
    refine ⟨ess, hess, ss, hss, ?_⟩
    rw [hch]
    rfl

end MsgAssemblerData

/-! ## The responder's side -/

namespace PacketParserData

/-- The handshake a parse runs, given the two ECDH secrets. -/
def handshake (ppd : PacketParserData C) (ess ss : M) : Handshake M where
  scheme := ppd.cipherScheme
  base := ppd.chainKey
  responder := ppd.deviceEcdh.publicKey
  ephermeral := ppd.header.ephermeral
  ess := ess
  ss := ss

/-- The parse after `validatePeer` accepted `peerPk`, on the device `d`, with the send time `time`. -/
def afterHandshake (ppd : PacketParserData C) (hs : Handshake M) (d : Device C) (peerPk : M)
    (time : Int64) : PacketParserData C :=
  { ppd with
    device := d
    connData := { ppd.connData with lastRemoteSendTime := time, recvThreatCount := 0 }
    remotePubKey := some peerPk
    connPeerPublicKey := ppd.connPeerPublicKey.map fun _ => peerPk
    chainHash := hs.chainHash3 C ppd.header.static ppd.header.timestamp
    chainKey := hs.chainKey4 C ppd.header.timestamp
    bodyAead := hs.bodyKey C ppd.header.timestamp
    chainKeys := ppd.chainKeys ++ hs.chainKeys C ppd.header.timestamp }

/-- The parse after the static field has been opened. -/
def afterStatic (ppd : PacketParserData C) (hs : Handshake M) : PacketParserData C :=
  { ppd with
    chainHash := hs.chainHash1 C
    chainKey := hs.chainKey2 C
    chainKeys := ppd.chainKeys ++ [hs.chainKey1 C, hs.chainKey2 C] }

/-- The static field opens before the second secret is known; any value may stand in for it. -/
theorem openStatic_eq_ok {ppd ppd' : PacketParserData C} {peerPk : M}
    (hch : ppd.chainHash = [C.initialHashString]) :
    ppd.openStatic = (ppd', .ok peerPk) ↔
      ∃ ess, ppd.deviceEcdh.sharedSecret ppd.header.ephermeral = some ess ∧
        (ppd.handshake ess ess).openStatic C ppd.header.common.counter ppd.header.static
          = some peerPk ∧
        ppd' = ppd.afterStatic (ppd.handshake ess ess) := by
  unfold openStatic
  cases hess : ppd.deviceEcdh.sharedSecret ppd.header.ephermeral with
  | none => simp
  | some ess =>
    simp only [Option.some.injEq, exists_eq_left', Handshake.openStatic, afterStatic, hch,
      handshake, Handshake.chainHash1, Handshake.staticKey, Handshake.chainKey1,
      Handshake.chainKey2, Handshake.hashType, Handshake.gcmType, ciphers, List.cons_append,
      List.nil_append]
    split
    · simp [*]
    · simp only [*, Prod.mk.injEq, Go.ok.injEq, Option.some.injEq]
      exact ⟨fun h => ⟨h.2, h.1.symm⟩, fun h => ⟨h.2.symm, h.1⟩⟩

/-- The timestamp field opens under the key mixed with the static secret. -/
theorem openTimestamp_eq_ok {ppd ppd' : PacketParserData C} {peerPk : M} {time : Int64} :
    ppd.openTimestamp peerPk = (ppd', .ok time) ↔
      ∃ ss tsBytes, ppd.deviceEcdh.sharedSecret peerPk = some ss ∧
        C.aeadOpen ppd.ciphers.gcmType (Noise.keyGen2 C ppd.ciphers.hashType ppd.chainKey ss).2
          (C.nonceBytes ppd.header.common.counter) ppd.header.timestamp
          (C.hash ppd.ciphers.hashType (ppd.chainHash ++ [ppd.header.static])) = some tsBytes ∧
        time = C.timestampOf tsBytes ∧
        ppd' = { ppd with
          remotePubKey := some peerPk
          connPeerPublicKey := ppd.connPeerPublicKey.map fun _ => peerPk
          chainHash := ppd.chainHash ++ [ppd.header.static]
          chainKey := (Noise.keyGen2 C ppd.ciphers.hashType ppd.chainKey ss).1
          chainKeys := ppd.chainKeys
            ++ [(Noise.keyGen2 C ppd.ciphers.hashType ppd.chainKey ss).1] } := by
  simp only [openTimestamp, deviceEcdh, ciphers]
  cases hss : (ppd.device.getEcdhByCipherScheme ppd.cipherScheme).sharedSecret peerPk with
  | none => simp
  | some ss =>
    simp only [Option.some.injEq, exists_and_left, exists_eq_left']
    split
    · simp [*]
    · simp only [*, Prod.mk.injEq, Go.ok.injEq, Option.some.injEq, exists_eq_left']
      exact ⟨fun h => ⟨h.2.symm, h.1.symm⟩, fun h => ⟨h.2.symm, h.1.symm⟩⟩

variable [DecidableEq M]

theorem checkPeer_eq_ok {ppd ppd' : PacketParserData C} {peerPk : M} {nowMilli : Int64}
    {u : Unit} : ppd.checkPeer peerPk nowMilli = (ppd', .ok u) ↔
      ∃ d, admitPeer ppd.device ppd.headerType peerPk ppd.localInitTime ppd.connData.remoteAddr
        nowMilli = .ok d ∧ ppd' = { ppd with device := d } := by
  unfold checkPeer
  split <;> simp [*, eq_comm]

omit [DecidableEq M] in
/-- The tests of the send time pass, and the connection keeps it. -/
theorem checkRecvTime_eq_ok {ppd ppd' : PacketParserData C} {time : Int64} {u : Unit} :
    ppd.checkRecvTime time = (ppd', .ok u) ↔
      recvTimeError ppd.device.deviceType ppd.headerType ppd.connData ppd.localInitTime time = none ∧
        ppd' = { ppd with connData := { ppd.connData with
          lastRemoteSendTime := time, recvThreatCount := 0 } } := by
  unfold checkRecvTime
  split <;> simp [*, eq_comm]

/-- A passed peer check leaves the device's keys and role as they were. -/
theorem admitPeer_ok {d d' : Device C} {t : HeaderType} {pk : M} {time : Int64} {addr : Addr}
    {nowMilli : Int64} (h : admitPeer d t pk time addr nowMilli = .ok d') :
    d'.staticEcdhCurve = d.staticEcdhCurve ∧ d'.staticEcdhGmsm = d.staticEcdhGmsm ∧
      d'.deviceType = d.deviceType ∧ d'.option = d.option ∧ d'.overload = d.overload := by
  unfold admitPeer at h
  split at h
  · simp only [Go.bind_eq_ok] at h
    obtain ⟨peer, -, h⟩ := h
    split at h
    · cases h
    · split at h
      · cases h
      · cases h
        exact ⟨rfl, rfl, rfl, rfl, rfl⟩
  · cases h
    exact ⟨rfl, rfl, rfl, rfl, rfl⟩

/-- A peer that is admitted leaves the device's keys. -/
theorem admitPeer_ecdh {d d' : Device C} {t : HeaderType} {pk : M} {time : Int64} {addr : Addr}
    {nowMilli : Int64} (h : admitPeer d t pk time addr nowMilli = .ok d') (scheme : CipherScheme) :
    d'.getEcdhByCipherScheme scheme = d.getEcdhByCipherScheme scheme := by
  obtain ⟨hc, hg, -⟩ := admitPeer_ok h
  cases scheme
  · exact hg
  · exact hc

omit [DecidableEq M] in
/-- Whether a cookie is sent depends on the role, the overload and the type. -/
theorem rejectWithCookie_congr {ppd ppd' : PacketParserData C}
    (hrole : ppd'.device.deviceType = ppd.device.deviceType)
    (hoverload : ppd'.overload = ppd.overload) (htype : ppd'.headerType = ppd.headerType) :
    ppd'.rejectWithCookie = ppd.rejectWithCookie := by
  rw [rejectWithCookie, rejectWithCookie, hrole, hoverload, htype]

/-- `validatePeer` succeeds exactly when both ECDHs succeed, the static and the timestamp field open,
    the peer is admitted, the time tests pass and no cookie is due; it then has run the handshake. -/
theorem validatePeer_eq_ok {ppd ppd' : PacketParserData C} {nowMilli now : Int64}
    (hch : ppd.chainHash = [C.initialHashString]) :
    ppd.validatePeer nowMilli now = (ppd', .ok ()) ↔
      ∃ ess peerPk d ss tsBytes,
        ppd.deviceEcdh.sharedSecret ppd.header.ephermeral = some ess ∧
        (ppd.handshake ess ss).openStatic C ppd.header.common.counter ppd.header.static
          = some peerPk ∧
        admitPeer ppd.device ppd.headerType peerPk ppd.localInitTime ppd.connData.remoteAddr nowMilli
          = .ok d ∧
        ppd.deviceEcdh.sharedSecret peerPk = some ss ∧
        (ppd.handshake ess ss).openTimestamp C ppd.header.common.counter ppd.header.static
          ppd.header.timestamp = some tsBytes ∧
        recvTimeError ppd.device.deviceType ppd.headerType ppd.connData ppd.localInitTime
          (C.timestampOf tsBytes) = none ∧
        ppd.rejectWithCookie = false ∧
        ppd' = ppd.afterHandshake (ppd.handshake ess ss) d peerPk (C.timestampOf tsBytes) := by
  simp only [validatePeer, Go.andThen_eq_ok, checkPeer_eq_ok, openTimestamp_eq_ok,
    checkRecvTime_eq_ok, openStatic_eq_ok hch]
  -- The device that admits the peer has the same role and keys, so either side may be read with the old one.
  constructor
  · rintro ⟨_, peerPk, ⟨ess, hess, hopen, rfl⟩, _, -, ⟨d, hadmits, rfl⟩, _, time,
      ⟨ss, tsBytes, hss, hts, rfl, rfl⟩, _, -, ⟨htime, rfl⟩, h⟩
    have hrole : d.deviceType = ppd.device.deviceType := (admitPeer_ok hadmits).2.2.1
    have hss' : ppd.deviceEcdh.sharedSecret peerPk = some ss := by
      rw [← hss]
      exact congrArg (fun e : Ecdh C => e.sharedSecret peerPk)
        (admitPeer_ecdh hadmits ppd.cipherScheme).symm
    split at h
    · cases h
    · rename_i hcookie
      cases h
      refine ⟨ess, peerPk, d, ss, tsBytes, hess, hopen, hadmits, hss', hts, ?_, ?_, ?_⟩
      · rw [← hrole]
        exact htime
      · rw [Bool.not_eq_true] at hcookie
        rw [← hcookie]
        symm
        apply rejectWithCookie_congr <;> first | exact hrole | rfl
      · simp only [afterHandshake, deriveBodyKey, afterStatic, List.append_assoc]
        rfl
  · rintro ⟨ess, peerPk, d, ss, tsBytes, hess, hopen, hadmits, hss, hts, htime, hcookie, rfl⟩
    obtain ⟨-, -, hrole, -⟩ := admitPeer_ok hadmits
    refine ⟨_, peerPk, ⟨ess, hess, hopen, rfl⟩, _, (), ⟨d, hadmits, rfl⟩, _, C.timestampOf tsBytes,
      ⟨ss, tsBytes, ?_, hts, rfl, rfl⟩, _, (), ⟨?_, rfl⟩, ?_⟩
    · rw [← hss]
      exact congrArg (fun e : Ecdh C => e.sharedSecret peerPk)
        (admitPeer_ecdh hadmits ppd.cipherScheme)
    · rw [← hrole] at htime
      exact htime
    · rw [if_neg]
      · simp only [afterHandshake, deriveBodyKey, afterStatic, List.append_assoc]
        rfl
      · rw [Bool.not_eq_true, ← hcookie]
        apply rejectWithCookie_congr <;> first | exact hrole | rfl

end PacketParserData

end OpenNHP.Core
