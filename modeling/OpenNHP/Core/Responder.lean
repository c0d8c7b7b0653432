/-
  The responder: from a packet to a message (`nhp/core/responder.go`).

  `createPacketParserData`, `validatePeer` and `decryptBody` follow the source statement by statement.

  1. `validatePeer` is cut into the stages its comments name: the static key, the sender, the send time, the cookie
     of an overloaded server, and the key of the body.
  2. A stage returns its state next to its outcome, since the writes to the peer and to the connection survive a
     later error.
  3. An outcome is a value, an error or a panic (`Go`), and a stage behind one that fails is not run.
-/
import OpenNHP.Core.Initiator

namespace OpenNHP.Core

variable {M : Type} {C : Crypto M}

namespace PacketParserData

/-! ## `createPacketParserData` -/

/-- The branch of `createPacketParserData` for a packet that answers nothing. -/
def fresh (d : Device C) (pd : PacketData C) : Go (PacketParserData C) :=
  pd.basePacket.flag.bind fun flag =>
  pd.basePacket.header.bind fun header =>
  let cipherScheme := header.scheme
  .ok {
    device := d
    basePacket := pd.basePacket
    connData := pd.connData
    cipherScheme := cipherScheme
    header := header
    hmacHash := []
    chainHash := [C.initialHashString]
    bodyAead := C.zeroKey
    chainKey := chainKey0 C cipherScheme
    localInitTime := pd.initTime
    senderTrxId := 0
    headerType := .kpl
    bodySize := 0
    headerFlag := flag
    bodyCompress := false
    overload := false
    connPeerPublicKey := pd.connPeerPublicKey
    remotePubKey := none
    bodyMessage := none
    sentCookie := none
    chainKeys := [chainKey0 C cipherScheme] }

/-- `IsAllowedAtOverload`. -/
def isAllowedAtOverload (ppd : PacketParserData C) : Bool :=
  [HeaderType.knk, .dhpKnk, .rkn, .ext, .aol, .art].contains ppd.headerType

/-- The cookie `checkHMAC` adds: the previous one while the current one is too young. -/
def expectedCookie (ppd : PacketParserData C) : M :=
  let store := ppd.connData.cookieStore
  if ppd.localInitTime < store.lastCookieTime + cookieRoundTripTimeMs * millisecond then
    store.prevCookie
  else store.currCookie

/-- The HMAC field `checkHMAC` computes. -/
def calculatedHMAC (ppd : PacketParserData C) (sumCookie : Bool) : M :=
  C.hash ppd.ciphers.hashType
    (ppd.hmacHash ++ ppd.header.macInput C ++ if sumCookie then [ppd.expectedCookie] else [])

/-- `checkHMAC`. -/
def checkHMAC [DecidableEq M] (ppd : PacketParserData C) (sumCookie : Bool) : Bool :=
  ppd.calculatedHMAC sumCookie == ppd.header.hmac

/-- The header reads and the HMAC check, common to both branches of `createPacketParserData`. -/
def checkHeader [DecidableEq M] (ppd : PacketParserData C) : Go (PacketParserData C) :=
  let (headerType, bodySize) := ppd.header.common.typeAndPayloadSize
  let isServer := ppd.device.deviceType = .server
  let overload := isServer ∧ ppd.device.overload = true
  let ppd := { ppd with
    headerType := headerType
    bodySize := bodySize
    hmacHash := [C.initialHashString, ppd.deviceEcdh.publicKey]
    overload := decide overload }
  if overload ∧ ppd.isAllowedAtOverload = false then .err .serverOverload
  else
    -- for RKN, check HMAC with cookie. For remaining allowed key messages, without cookie
    let sumCookie := overload ∧ ppd.headerType = .rkn
    if ppd.checkHMAC (decide sumCookie) = false then
      .err (if isServer then .serverHMACCheckFailed else .hmacCheckFailed)
    else
      .ok { ppd with
        hmacHash := []
        senderTrxId := ppd.header.common.counter
        bodyCompress := decide (ppd.headerFlag &&& flagCompress ≠ 0)
        bodyMessage := none }

end PacketParserData

/-- `createPacketParserData`. -/
def createPacketParserData [DecidableEq M] (d : Device C) (pd : PacketData C) :
    Go (PacketParserData C) :=
  (match pd.prevAssemblerData with
    | some mad => mad.derivePacketParserData d pd
    | none => PacketParserData.fresh d pd).bind fun ppd => ppd.checkHeader

/-- `shouldCheckRecvAttack`: the two AC operation messages may come in any order. -/
def shouldCheckRecvAttack (deviceType peerType : DeviceType) (msgType : HeaderType) : Bool :=
  !((deviceType = .server && peerType = .ac && msgType = .art) ||
    (deviceType = .ac && peerType = .server && msgType = .aop))

namespace PacketParserData

/-! ## `validatePeer` -/

/-- Up to the decryption of the static key: the state after it and the peer's public key. -/
def openStatic (ppd : PacketParserData C) : PacketParserData C × Go M :=
  let t := ppd.ciphers.hashType
  let chainHash1 := ppd.chainHash ++ [ppd.deviceEcdh.publicKey, ppd.header.ephermeral]
  let chainKey1 := Noise.mixKey C t ppd.chainKey ppd.header.ephermeral
  match ppd.deviceEcdh.sharedSecret ppd.header.ephermeral with
  | none => (ppd, .err .deviceECDHEphermalFailed)
  | some ess =>
    let (chainKey2, key) := Noise.keyGen2 C t chainKey1 ess
    let ppd := { ppd with
      chainHash := chainHash1
      chainKey := chainKey2
      chainKeys := ppd.chainKeys ++ [chainKey1, chainKey2] }
    match C.aeadOpen ppd.ciphers.gcmType key (C.nonceBytes ppd.header.common.counter)
        ppd.header.static (C.hash t chainHash1) with
    | none => (ppd, .err .aeadOpenFailed)
    | some peerPk => (ppd, .ok peerPk)

/-- Whether the options ask for a registered peer behind a role. -/
def validatesRole (option : DeviceOptions) : DeviceType → Bool
  | .agent => !option.disableAgentPeerValidation
  | .server => !option.disableServerPeerValidation
  | .ac => !option.disableACPeerValidation
  | .relay => !option.disableRelayPeerValidation
  | .db => !option.disableDePeerValidation
  | .dhpAgent => !option.disableAgentPeerValidation
  | .noDevice => false

/-- `toValidate`: the switch on the role that sends the header type. -/
def toValidate (option : DeviceOptions) (t : HeaderType) : Bool :=
  validatesRole option (headerTypeToDeviceType t)

/-- The peer checks of `validatePeer` and, when they pass, the device after `UpdateRecv`. -/
def admitPeer [DecidableEq M] (d : Device C) (t : HeaderType) (peerPk : M) (localInitTime : Int64)
    (remoteAddr : Addr) (nowMilli : Int64) : Go (Device C) :=
  if toValidate d.option t then
    (Go.ofOption .peerNotFound (d.lookupPeer peerPk)).bind fun peer =>
    if peer.isExpired nowMilli then .err .peerExpired
    else if peer.checkRecvAddress localInitTime remoteAddr = false then .err .peerAddressMismatch
    else .ok (d.addPeer peerPk (peer.updateRecv localInitTime remoteAddr))
  else .ok d

/-- The sender's key is looked up, where its role asks for that; the peer it finds has been seen. -/
def checkPeer [DecidableEq M] (ppd : PacketParserData C) (peerPk : M) (nowMilli : Int64) :
    PacketParserData C × Go Unit :=
  match admitPeer ppd.device ppd.headerType peerPk ppd.localInitTime ppd.connData.remoteAddr
      nowMilli with
  | .ok d => ({ ppd with device := d }, .ok ())
  | .err e => (ppd, .err e)
  | .panic => (ppd, .panic)

/-- Record the peer's key and decrypt the timestamp under the static secret. -/
def openTimestamp (ppd : PacketParserData C) (peerPk : M) : PacketParserData C × Go Int64 :=
  let t := ppd.ciphers.hashType
  let chainHash2 := ppd.chainHash ++ [ppd.header.static]
  let ppd := { ppd with
    remotePubKey := some peerPk
    connPeerPublicKey := ppd.connPeerPublicKey.map fun _ => peerPk
    chainHash := chainHash2 }
  match ppd.deviceEcdh.sharedSecret peerPk with
  | none => (ppd, .err .deviceECDHObtainedPeerFailed)
  | some ss =>
    let (chainKey3, key) := Noise.keyGen2 C t ppd.chainKey ss
    let ppd := { ppd with chainKey := chainKey3, chainKeys := ppd.chainKeys ++ [chainKey3] }
    match C.aeadOpen ppd.ciphers.gcmType key (C.nonceBytes ppd.header.common.counter)
        ppd.header.timestamp (C.hash t chainHash2) with
    | none => (ppd, .err .aeadOpenFailed)
    | some tsBytes => (ppd, .ok (C.timestampOf tsBytes))

/-- One more threat on the connection; beyond the limit the counter is clamped and the connection
    routine is told to block the address. -/
def countThreat (conn : ConnectionData M) : ConnectionData M :=
  let threat := conn.recvThreatCount + 1
  if threat > threatCountBeforeBlock ∧ conn.closed = false then
    { conn with recvThreatCount := threatCountBeforeBlock, blockSignal := conn.blockSignal + 1 }
  else { conn with recvThreatCount := threat }

/-- The test a timestamp fails, if any, against the connection and the local clock. -/
def recvTimeError (deviceType : DeviceType) (t : HeaderType) (conn : ConnectionData M)
    (localInitTime remoteSendTime : Int64) : Option NhpError :=
  let checkAttack := shouldCheckRecvAttack deviceType (headerTypeToDeviceType t) t
  if checkAttack ∧ remoteSendTime < conn.lastRemoteSendTime then some .replayPacket
  else if checkAttack ∧
      remoteSendTime < conn.lastRemoteSendTime + minimalRecvIntervalMs * millisecond then
    some .floodPacket
  else if remoteSendTime < localInitTime - 600 * second then some .stalePacket
  else none

/-- The replay, flood and stale tests, and the time update when they pass. -/
def checkRecvTime (ppd : PacketParserData C) (remoteSendTime : Int64) :
    PacketParserData C × Go Unit :=
  match recvTimeError ppd.device.deviceType ppd.headerType ppd.connData ppd.localInitTime
      remoteSendTime with
  | some e => ({ ppd with connData := countThreat ppd.connData }, .err e)
  | none =>
    ({ ppd with connData := { ppd.connData with
        lastRemoteSendTime := remoteSendTime, recvThreatCount := 0 } }, .ok ())

/-- `generateCookie`; `now` is `time.Now().UnixNano()`. -/
def generateCookie (ppd : PacketParserData C) (now : Int64) : PacketParserData C :=
  let store := ppd.connData.cookieStore
  if now - store.lastCookieTime > cookieRegenerateTime * second then
    let cookie := Noise.keyGen1 C ppd.ciphers.hashType ppd.header.ephermeral (C.timestampBytes now)
    { ppd with connData := { ppd.connData with cookieStore :=
        { prevCookie := store.currCookie, currCookie := cookie, lastCookieTime := now } } }
  else ppd

/-- `sendCookie`: the cookie handed to the device as an `NHP_COK` message. -/
def sendCookie (ppd : PacketParserData C) : PacketParserData C :=
  { ppd with sentCookie := some ppd.connData.cookieStore.currCookie }

/-- A knock that an overloaded server answers with a cookie. -/
def rejectWithCookie (ppd : PacketParserData C) : Bool :=
  decide (ppd.device.deviceType = .server) && ppd.overload &&
    [HeaderType.knk, .dhpKnk].contains ppd.headerType

/-- The last key derivation: the body key. -/
def deriveBodyKey (ppd : PacketParserData C) : PacketParserData C :=
  let (chainKey4, bodyKey) := Noise.keyGen2 C ppd.ciphers.hashType ppd.chainKey ppd.header.timestamp
  { ppd with
    chainHash := ppd.chainHash ++ [ppd.header.timestamp]
    chainKey := chainKey4
    bodyAead := bodyKey
    chainKeys := ppd.chainKeys ++ [chainKey4] }

/-- `validatePeer`; the clock is read as `nowMilli` by `IsExpired` and as `now` by
    `generateCookie`. -/
def validatePeer [DecidableEq M] (ppd : PacketParserData C) (nowMilli now : Int64) :
    PacketParserData C × Go Unit :=
  Go.andThen ppd.openStatic fun ppd peerPk =>
  Go.andThen (ppd.checkPeer peerPk nowMilli) fun ppd _ =>
  Go.andThen (ppd.openTimestamp peerPk) fun ppd remoteSendTime =>
  Go.andThen (ppd.checkRecvTime remoteSendTime) fun ppd _ =>
  if ppd.rejectWithCookie then ((ppd.generateCookie now).sendCookie, .err .serverRejectWithCookie)
  else (ppd.deriveBodyKey, .ok ())

/-! ## `decryptBody` -/

/-- The deferred function of `decryptBody`. -/
def clearSecrets (ppd : PacketParserData C) : PacketParserData C :=
  { ppd with chainHash := [], chainKey := C.zeroKey }

/-- The body `decryptBody` opens. -/
def openBody (ppd : PacketParserData C) : Option M :=
  C.aeadOpen ppd.ciphers.gcmType ppd.bodyAead (C.nonceBytes ppd.header.common.counter)
    (ppd.basePacket.payload ppd.header.scheme) (C.hash ppd.ciphers.hashType ppd.chainHash)

/-- The message behind an opened body.  `zlib.NewReader`'s error is dropped, so that the deferred
    `r.Close()` is a call on a nil reader when there was one. -/
def decompressBody (ppd : PacketParserData C) (body : M) : Go M :=
  if ppd.bodyCompress then
    match C.zlibInflate body with
    | .badHeader => .panic
    | .corrupt => .err .dataDecompressionFailed
    | .content m => .ok m
  else .ok body

/-- `decryptBody`. -/
def decryptBody (ppd : PacketParserData C) : PacketParserData C × Go Unit :=
  -- message body is empty, skip decryption
  if ppd.basePacket.len = ppd.header.size then (ppd.clearSecrets, .ok ())
  else
    let body : Go M :=
      -- Content[Size():] with Size() beyond len(Content)
      (Go.guardRange (ppd.header.size ≤ ppd.basePacket.len)).bind fun _ =>
      (Go.ofOption .aeadDecryptionFailed ppd.openBody).bind fun body =>
      ppd.decompressBody body
    match body with
    | .ok m => ({ ppd.clearSecrets with bodyMessage := some m }, .ok ())
    | .err e => (ppd.clearSecrets, .err e)
    | .panic => (ppd.clearSecrets, .panic)

/-- Decryption leaves the device and the connection alone. -/
theorem decryptBody_frame (ppd : PacketParserData C) :
    ppd.decryptBody.1.device = ppd.device ∧ ppd.decryptBody.1.connData = ppd.connData := by
  unfold decryptBody
  split
  · exact ⟨rfl, rfl⟩
  · dsimp only
    split <;> exact ⟨rfl, rfl⟩

end PacketParserData

/-- The three steps of the receive path, as `packetToMsgRoutine` and `PacketToMsg` run them.  The
    parser data is `none` when the packet did not get past the header. -/
def receive [DecidableEq M] (d : Device C) (pd : PacketData C) (nowMilli now : Int64) :
    Option (PacketParserData C) × Go Unit :=
  match createPacketParserData d pd with
  | .err e => (none, .err e)
  | .panic => (none, .panic)
  | .ok ppd =>
    let r := Go.andThen (ppd.validatePeer nowMilli now) fun ppd _ => ppd.decryptBody
    (some r.1, r.2)

end OpenNHP.Core
