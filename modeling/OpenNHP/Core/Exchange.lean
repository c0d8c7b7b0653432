/-
  What an assembly sends and what a parse accepts.

  1. Four specification lemmas, one for each function of the two paths that the key schedule did not cover:
     `encryptBody_eq_ok`, `fresh_eq_ok`/`derivePacketParserData_eq_ok`, `checkHeader_eq_ok` and
     `decryptBody_eq_ok`.
  2. Together with `setPeerPublicKey_eq_ok` and `validatePeer_eq_ok` they describe a whole send
     (`encrypt_eq_ok`) and a whole receive (`receive_eq_ok`) without unfolding any code.
  3. A receive is taken apart into what it starts from (`PacketData.startState`), the state behind the check of the
     header (`PacketData.checked`), and what it asks of the packet beyond (`PacketData.Passes`).
-/
import OpenNHP.Core.KeySchedule

namespace OpenNHP.Core

variable {M : Type} {C : Crypto M}

/-! ## `encryptBody` -/

namespace MsgAssemblerData

/-- The sealed size of the body: nothing for an empty message, else the text and its tag. -/
def sealedSize (mad : MsgAssemblerData C) : Nat :=
  if C.len mad.bodyMessage = 0 then 0 else C.len mad.bodyText + gcmTagSize

/-- The flag word, which only a non-empty message writes. -/
def sentFlag (mad : MsgAssemblerData C) : UInt16 :=
  mad.headerFlag ||| HeaderCommon.flagWord mad.bodyCompress mad.clPkc

/-- The common header of the packet. -/
def sentCommon (mad : MsgAssemblerData C) (preamble : UInt32) : HeaderCommon :=
  (if C.len mad.bodyMessage = 0 then mad.header.common
    else HeaderCommon.setFlag mad.header.scheme mad.header.common mad.sentFlag).setTypeAndPayloadSize
      preamble mad.headerType mad.sealedSize

/-- The cookie a re-knock mixes into the HMAC field. -/
def sentCookie (mad : MsgAssemblerData C) : List M :=
  if mad.headerType = .rkn then [mad.externalCookie.getD mad.connData.cookieStore.currCookie] else []

/-- The header of the packet. -/
def sentHeader (mad : MsgAssemblerData C) (preamble : UInt32) : Header M :=
  let header := { mad.header with common := mad.sentCommon preamble }
  { header with
    hmac := C.hash mad.ciphers.hashType (mad.hmacHash ++ header.macInput C ++ mad.sentCookie) }

/-- The sealed body of the packet. -/
def sentBody (mad : MsgAssemblerData C) : Option M :=
  if C.len mad.bodyMessage = 0 then mad.body
  else some (C.aeadSeal mad.ciphers.gcmType mad.bodyAead (C.nonceBytes mad.header.common.counter)
    mad.bodyText (C.hash mad.ciphers.hashType mad.chainHash))

/-- The assembly after `encryptBody`: the packet is complete, the secrets are cleared. -/
def sent (mad : MsgAssemblerData C) (preamble : UInt32) : MsgAssemblerData C :=
  { mad with
    header := mad.sentHeader preamble
    hmacHash := []
    chainHash := []
    chainKey := C.zeroKey
    bodySize := if C.len mad.bodyMessage = 0 then mad.bodySize else mad.sealedSize
    headerFlag := if C.len mad.bodyMessage = 0 then mad.headerFlag else mad.sentFlag
    body := mad.sentBody }

/-- `encryptBody` succeeds exactly when the message is empty or its sealed text fits the buffer. -/
theorem encryptBody_eq_ok {mad mad' : MsgAssemblerData C} {preamble : UInt32} :
    mad.encryptBody preamble = .ok mad' ↔
      (C.len mad.bodyMessage = 0 ∨ mad.sealedSize ≤ packetBufferSize - mad.header.size) ∧
        mad' = mad.sent preamble := by
  unfold encryptBody
  by_cases hlen : C.len mad.bodyMessage = 0
  · simp only [hlen, if_true, true_or, true_and, Go.ok.injEq]
    rw [eq_comm]
    apply Eq.congr_right
    simp only [sent, sentHeader, sentCommon, sentBody, sentCookie, sealedSize, addHMAC,
      clearSecrets, hlen, if_true, ciphers, decide_eq_true_eq]
  · simp only [hlen, if_false, false_or]
    have hsize : C.len mad.bodyText + gcmTagSize = mad.sealedSize := by
      rw [sealedSize, if_neg hlen]
    rw [hsize]
    split
    · simp only [reduceCtorEq, false_iff, not_and]
      omega
    · rename_i hfit
      simp only [not_lt.mp hfit, true_and, Go.ok.injEq]
      rw [eq_comm]
      apply Eq.congr_right
      simp only [sent, sentHeader, sentCommon, sentBody, sentCookie, sentFlag, addHMAC,
        clearSecrets, hlen, if_false, ciphers, decide_eq_true_eq,
        HeaderCommon.setTypeAndPayloadSize_counter, HeaderCommon.setFlag_counter]

/-- A whole send: the handshake to the peer key the assembly already has, then the body. -/
theorem encrypt_eq_ok {mad mad' : MsgAssemblerData C} {preamble : UInt32}
    (hch : mad.chainHash = [C.initialHashString]) :
    mad.encrypt preamble = .ok mad' ↔
      ∃ pk ess ss, mad.remotePubKey = some pk ∧ C.len pk = publicKeySize mad.cipherScheme ∧
        mad.ephermeralEcdh.sharedSecret pk = some ess ∧ mad.deviceEcdh.sharedSecret pk = some ss ∧
        (C.len mad.bodyMessage = 0 ∨
          C.len mad.bodyText + gcmTagSize ≤ packetBufferSize - mad.header.size) ∧
        mad' = (mad.afterHandshake (mad.handshake pk ess ss)).sent preamble := by
  have hfits : ∀ hs, (C.len (mad.afterHandshake hs).bodyMessage = 0 ∨
      (mad.afterHandshake hs).sealedSize ≤ packetBufferSize - (mad.afterHandshake hs).header.size) ↔
      (C.len mad.bodyMessage = 0 ∨
        C.len mad.bodyText + gcmTagSize ≤ packetBufferSize - mad.header.size) := by
    intro hs
    have hsize : (mad.afterHandshake hs).header.size = mad.header.size := rfl
    have hsealed : (mad.afterHandshake hs).sealedSize = mad.sealedSize := rfl
    have hmessage : (mad.afterHandshake hs).bodyMessage = mad.bodyMessage := rfl
    rw [hsize, hsealed, hmessage, sealedSize]
    split <;> simp [*]
  simp only [encrypt, Go.bind_eq_ok, setPeerPublicKey_eq_ok hch, encryptBody_eq_ok]
  constructor
  · rintro ⟨_, ⟨pk, ess, ss, hpk, hlen, hess, hss, rfl⟩, hfit, rfl⟩
    exact ⟨pk, ess, ss, hpk, hlen, hess, hss, (hfits _).mp hfit, rfl⟩
  · rintro ⟨pk, ess, ss, hpk, hlen, hess, hss, hfit, rfl⟩
    exact ⟨_, ⟨pk, ess, ss, hpk, hlen, hess, hss, rfl⟩, (hfits _).mpr hfit, rfl⟩

end MsgAssemblerData

/-! ## `createPacketParserData` -/

namespace PacketParserData

/-- A parse that has read nothing but the flag word. -/
def start (d : Device C) (pd : PacketData C) (scheme : CipherScheme) (chainKey : M)
    (connPeerPublicKey : Option M) (chainKeys : List M) : PacketParserData C where
  device := d
  basePacket := pd.basePacket
  connData := pd.connData
  cipherScheme := scheme
  header := pd.basePacket.cast scheme
  hmacHash := []
  chainHash := [C.initialHashString]
  bodyAead := C.zeroKey
  chainKey := chainKey
  localInitTime := pd.initTime
  senderTrxId := 0
  headerType := .kpl
  bodySize := 0
  headerFlag := pd.basePacket.common.flag
  bodyCompress := false
  overload := false
  connPeerPublicKey := connPeerPublicKey
  remotePubKey := none
  bodyMessage := none
  sentCookie := none
  chainKeys := chainKeys

/-- The start of a parse that answers nothing: the scheme is the packet's. -/
def startFresh (d : Device C) (pd : PacketData C) : PacketParserData C :=
  let scheme := Packet.flagScheme pd.basePacket.common.flag
  start d pd scheme (chainKey0 C scheme) pd.connPeerPublicKey [chainKey0 C scheme]

/-- The start of a parse that answers `mad`: the scheme and the chain key are the request's. -/
def startDerived (d : Device C) (pd : PacketData C) (mad : MsgAssemblerData C) :
    PacketParserData C :=
  start d pd mad.cipherScheme mad.chainKey none []

/-- A parse that continues nothing starts from the device. -/
theorem fresh_eq_ok {d : Device C} {pd : PacketData C} {ppd : PacketParserData C} :
    fresh d pd = .ok ppd ↔ 12 ≤ pd.basePacket.len ∧ ppd = startFresh d pd := by
  simp only [fresh, Packet.header, Packet.flag, Packet.headerWithCipherScheme, Go.bind_eq_ok,
    Go.guardRange_eq_ok, Go.ok.injEq]
  constructor
  · rintro ⟨_, ⟨-, hlen, rfl⟩, _, ⟨_, ⟨-, -, rfl⟩, -, -, rfl⟩, rfl⟩
    exact ⟨hlen, rfl⟩
  · rintro ⟨hlen, rfl⟩
    exact ⟨_, ⟨(), hlen, rfl⟩, _, ⟨_, ⟨(), hlen, rfl⟩, (), by omega, rfl⟩, rfl⟩

/-- The parse after the four header reads, before the HMAC check. -/
def headerRead (ppd : PacketParserData C) : PacketParserData C :=
  { ppd with
    headerType := ppd.header.common.typeAndPayloadSize.1
    bodySize := ppd.header.common.typeAndPayloadSize.2
    hmacHash := [C.initialHashString, ppd.deviceEcdh.publicKey]
    overload := decide (ppd.device.deviceType = .server ∧ ppd.device.overload = true) }

/-- The parse `createPacketParserData` returns. -/
def headerChecked (ppd : PacketParserData C) : PacketParserData C :=
  { ppd.headerRead with
    hmacHash := []
    senderTrxId := ppd.header.common.counter
    bodyCompress := decide (ppd.headerFlag &&& flagCompress ≠ 0)
    bodyMessage := none }

/-- The header check passes exactly when the type may be handled now and the HMAC field is right. -/
theorem checkHeader_eq_ok [DecidableEq M] {ppd ppd' : PacketParserData C} :
    ppd.checkHeader = .ok ppd' ↔
      (ppd.headerRead.overload = true → ppd.headerRead.isAllowedAtOverload = true) ∧
        ppd.headerRead.checkHMAC
          (decide (ppd.headerRead.overload = true ∧ ppd.headerRead.headerType = .rkn)) = true ∧
        ppd' = ppd.headerChecked := by
  have heq : ppd.checkHeader =
      if ppd.headerRead.overload = true ∧ ppd.headerRead.isAllowedAtOverload = false then
        .err .serverOverload
      else if ppd.headerRead.checkHMAC
          (decide (ppd.headerRead.overload = true ∧ ppd.headerRead.headerType = .rkn)) = false then
        .err (if ppd.device.deviceType = .server then .serverHMACCheckFailed else .hmacCheckFailed)
      else .ok ppd.headerChecked := by
    simp only [checkHeader, headerRead, headerChecked, decide_eq_true_eq]
  rw [heq]
  split
  · rename_i h
    simp [h.1, h.2]
  · rename_i h
    rw [not_and, Bool.not_eq_false] at h
    split
    · rename_i hmac
      simp only [reduceCtorEq, hmac, Bool.false_eq_true, false_and, and_false]
    · rename_i hmac
      rw [Bool.not_eq_false] at hmac
      simp only [hmac, Go.ok.injEq, true_and]
      exact ⟨fun heq => ⟨h, heq.symm⟩, fun heq => heq.2.symm⟩

/-! ## `decryptBody` -/

/-- The body is absent, or it opens and its text unpacks. -/
theorem decryptBody_eq_ok {ppd ppd' : PacketParserData C} {u : Unit} :
    ppd.decryptBody = (ppd', .ok u) ↔
      (ppd.basePacket.len = ppd.header.size ∧ ppd' = ppd.clearSecrets) ∨
        (ppd.header.size < ppd.basePacket.len ∧ ∃ text m, ppd.openBody = some text ∧
          ppd.decompressBody text = .ok m ∧
          ppd' = { ppd.clearSecrets with bodyMessage := some m }) := by
  unfold decryptBody
  by_cases hempty : ppd.basePacket.len = ppd.header.size
  · simp [hempty, eq_comm]
  · simp only [hempty, if_false, false_and, false_or]
    constructor
    · intro h
      split at h
      · rename_i m hm
        simp only [Go.bind_eq_ok, Go.guardRange_eq_ok, Go.ofOption_eq_ok] at hm
        obtain ⟨-, hlen, text, htext, hm⟩ := hm
        cases h
        exact ⟨by omega, text, m, htext, hm, rfl⟩
      · cases h
      · cases h
    · rintro ⟨hlen, text, m, htext, hm, rfl⟩
      rw [htext]
      simp [Go.guardRange, hlen.le, Go.ofOption, hm]

end PacketParserData

/-- A parse that continues a request starts from its assembly. -/
theorem MsgAssemblerData.derivePacketParserData_eq_ok {mad : MsgAssemblerData C} {d : Device C}
    {pd : PacketData C} {ppd : PacketParserData C} :
    mad.derivePacketParserData d pd = .ok ppd ↔
      12 ≤ pd.basePacket.len ∧ ppd = PacketParserData.startDerived d pd mad := by
  simp only [MsgAssemblerData.derivePacketParserData, Packet.flag, Packet.headerWithCipherScheme,
    Go.bind_eq_ok, Go.guardRange_eq_ok, Go.ok.injEq]
  constructor
  · rintro ⟨_, ⟨-, hlen, rfl⟩, _, ⟨-, -, rfl⟩, rfl⟩
    exact ⟨hlen, rfl⟩
  · rintro ⟨hlen, rfl⟩
    exact ⟨_, ⟨(), hlen, rfl⟩, _, ⟨(), by omega, rfl⟩, rfl⟩

/-! ## A whole receive -/

/-- The state a parse starts in, after the flag word has been read. -/
def PacketData.startState (d : Device C) (pd : PacketData C) : PacketParserData C :=
  match pd.prevAssemblerData with
  | some mad => PacketParserData.startDerived d pd mad
  | none => PacketParserData.startFresh d pd

/-- Then the header is checked. -/
theorem createPacketParserData_eq_ok [DecidableEq M] {d : Device C} {pd : PacketData C}
    {ppd : PacketParserData C} :
    createPacketParserData d pd = .ok ppd ↔
      12 ≤ pd.basePacket.len ∧ (pd.startState d).checkHeader = .ok ppd := by
  unfold createPacketParserData PacketData.startState
  cases pd.prevAssemblerData with
  | none => simp only [Go.bind_eq_ok, PacketParserData.fresh_eq_ok, and_assoc, exists_and_left,
      exists_eq_left]
  | some mad => simp only [Go.bind_eq_ok, MsgAssemblerData.derivePacketParserData_eq_ok, and_assoc,
      exists_and_left, exists_eq_left]

/-- A receive that succeeds is a header check, a handshake and a body, in that order. -/
theorem receive_eq_ok [DecidableEq M] {d : Device C} {pd : PacketData C} {nowMilli now : Int64}
    {ppd : PacketParserData C} {u : Unit} :
    receive d pd nowMilli now = (some ppd, .ok u) ↔
      ∃ ppd₁ ppd₂, createPacketParserData d pd = .ok ppd₁ ∧
        ppd₁.validatePeer nowMilli now = (ppd₂, .ok ()) ∧ ppd₂.decryptBody = (ppd, .ok ()) := by
  unfold receive
  cases hcreate : createPacketParserData d pd with
  | err e => simp
  | panic => simp
  | ok ppd₁ =>
    have hpair : ∀ r : PacketParserData C × Go Unit,
        (some r.1, r.2) = (some ppd, Go.ok u) ↔ r = (ppd, Go.ok ()) := by
      rintro ⟨ppd', o⟩
      simp
    simp only [hpair, Go.andThen_eq_ok, Go.ok.injEq]
    constructor
    · rintro ⟨ppd₂, _, hvalid, hbody⟩
      exact ⟨ppd₁, ppd₂, rfl, hvalid, hbody⟩
    · rintro ⟨_, ppd₂, rfl, hvalid, hbody⟩
      exact ⟨ppd₂, (), hvalid, hbody⟩

/-- The parse of a packet whose header has been checked. -/
def PacketData.checked (d : Device C) (pd : PacketData C) : PacketParserData C :=
  (pd.startState d).headerChecked

/-- The scheme whose header struct a parse lays over the packet: the request's on the response path, the
    flag word's otherwise. -/
def PacketData.scheme (pd : PacketData C) : CipherScheme :=
  match pd.prevAssemblerData with
  | some mad => mad.cipherScheme
  | none => Packet.flagScheme pd.basePacket.common.flag

/-- What the check of the header leaves is read from the packet. -/
theorem PacketData.checked_eq (d : Device C) (pd : PacketData C) :
    (pd.checked d).header = pd.basePacket.cast pd.scheme ∧
      (pd.checked d).cipherScheme = pd.scheme ∧ (pd.checked d).basePacket = pd.basePacket ∧
      (pd.checked d).bodyCompress = decide (pd.basePacket.common.flag &&& flagCompress ≠ 0) := by
  unfold PacketData.checked PacketData.startState PacketData.scheme
  cases pd.prevAssemblerData <;> exact ⟨rfl, rfl, rfl, rfl⟩

/-- It leaves the device alone. -/
theorem PacketData.checked_device (d : Device C) (pd : PacketData C) : (pd.checked d).device = d := by
  unfold PacketData.checked PacketData.startState
  cases pd.prevAssemblerData <;> rfl

/-- The checks a packet passes before its body is looked at, with the handshake it runs, the sender key
    and the send time it carries, and the device after its peer's update. -/
structure PacketData.Passes [DecidableEq M] (d : Device C) (pd : PacketData C) (nowMilli : Int64)
    (hs : Handshake M) (peerPk tsBytes : M) (d' : Device C) : Prop where
  allowed : (pd.startState d).headerRead.overload = true →
    (pd.startState d).headerRead.isAllowedAtOverload = true
  hmac : (pd.startState d).headerRead.checkHMAC
    (decide ((pd.startState d).headerRead.overload = true ∧
      (pd.startState d).headerRead.headerType = .rkn)) = true
  handshake : hs = (pd.checked d).handshake hs.ess hs.ss
  ess : (pd.checked d).deviceEcdh.sharedSecret (pd.checked d).header.ephermeral = some hs.ess
  static : hs.openStatic C (pd.checked d).header.common.counter (pd.checked d).header.static
    = some peerPk
  admitted : PacketParserData.admitPeer (pd.checked d).device (pd.checked d).headerType peerPk
    (pd.checked d).localInitTime (pd.checked d).connData.remoteAddr nowMilli = .ok d'
  ss : (pd.checked d).deviceEcdh.sharedSecret peerPk = some hs.ss
  timestamp : hs.openTimestamp C (pd.checked d).header.common.counter (pd.checked d).header.static
    (pd.checked d).header.timestamp = some tsBytes
  timely : PacketParserData.recvTimeError (pd.checked d).device.deviceType (pd.checked d).headerType
    (pd.checked d).connData (pd.checked d).localInitTime (C.timestampOf tsBytes) = none
  noCookie : (pd.checked d).rejectWithCookie = false

/-- The parse after a packet has passed. -/
def PacketData.passed (d : Device C) (pd : PacketData C) (hs : Handshake M) (peerPk tsBytes : M)
    (d' : Device C) : PacketParserData C :=
  (pd.checked d).afterHandshake hs d' peerPk (C.timestampOf tsBytes)

/-- Header check and `validatePeer` succeed exactly on the packets that pass. -/
theorem validated_iff [DecidableEq M] {d : Device C} {pd : PacketData C} {nowMilli now : Int64}
    {ppd₂ : PacketParserData C} :
    (∃ ppd₁, createPacketParserData d pd = .ok ppd₁ ∧
      ppd₁.validatePeer nowMilli now = (ppd₂, .ok ())) ↔
      12 ≤ pd.basePacket.len ∧ ∃ hs peerPk tsBytes d', pd.Passes d nowMilli hs peerPk tsBytes d' ∧
        ppd₂ = pd.passed d hs peerPk tsBytes d' := by
  have hch : (pd.checked d).chainHash = [C.initialHashString] := by
    unfold PacketData.checked PacketData.startState
    cases pd.prevAssemblerData <;> rfl
  simp only [createPacketParserData_eq_ok, PacketParserData.checkHeader_eq_ok]
  constructor
  · rintro ⟨_, ⟨hlen, hallowed, hmac, rfl⟩, hvalid⟩
    obtain ⟨ess, peerPk, d', ss, tsBytes, hess, hstatic, hadmits, hss, hts, htime, hcookie, rfl⟩ :=
      (PacketParserData.validatePeer_eq_ok hch).mp hvalid
    exact ⟨hlen, _, peerPk, tsBytes, d',
      ⟨hallowed, hmac, rfl, hess, hstatic, hadmits, hss, hts, htime, hcookie⟩, rfl⟩
  · rintro ⟨hlen, hs, peerPk, tsBytes, d', h, rfl⟩
    refine ⟨_, ⟨hlen, h.allowed, h.hmac, rfl⟩, (PacketParserData.validatePeer_eq_ok hch).mpr
      ⟨hs.ess, peerPk, d', hs.ss, tsBytes, h.ess, ?_, h.admitted, h.ss, ?_, h.timely, h.noCookie, ?_⟩⟩
    · exact h.handshake ▸ h.static
    · exact h.handshake ▸ h.timestamp
    · exact congrArg (fun hs' => (pd.checked d).afterHandshake hs' d' peerPk (C.timestampOf tsBytes))
        h.handshake

/-- A receive succeeds exactly when the packet passes and its body, if any, opens and unpacks. -/
theorem receive_eq_ok_iff [DecidableEq M] {d : Device C} {pd : PacketData C} {nowMilli now : Int64}
    {ppd : PacketParserData C} {u : Unit} :
    receive d pd nowMilli now = (some ppd, .ok u) ↔
      12 ≤ pd.basePacket.len ∧ ∃ hs peerPk tsBytes d', pd.Passes d nowMilli hs peerPk tsBytes d' ∧
        (pd.passed d hs peerPk tsBytes d').decryptBody = (ppd, .ok ()) := by
  rw [receive_eq_ok]
  constructor
  · rintro ⟨ppd₁, ppd₂, hcreate, hvalid, hbody⟩
    obtain ⟨hlen, hs, peerPk, tsBytes, d', hpasses, rfl⟩ := validated_iff.mp ⟨ppd₁, hcreate, hvalid⟩
    exact ⟨hlen, hs, peerPk, tsBytes, d', hpasses, hbody⟩
  · rintro ⟨hlen, hs, peerPk, tsBytes, d', hpasses, hbody⟩
    obtain ⟨ppd₁, hcreate, hvalid⟩ := validated_iff.mpr ⟨hlen, hs, peerPk, tsBytes, d', hpasses, rfl⟩
    exact ⟨ppd₁, _, hcreate, hvalid, hbody⟩

end OpenNHP.Core
