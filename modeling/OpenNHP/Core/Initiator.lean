/-
  The initiator: from a message to a packet (`nhp/core/initiator.go`).

  `createMsgAssemblerData`, `setPeerPublicKey` and `encryptBody` follow the source statement by statement.

  1. The pool buffer the packet is built in may hold anything, so its previous content is an argument (`buf`); so
     are the random choices (`Entropy`) and the clock.
  2. A message that answers a packet is assembled from the data of that packet's parse
     (`PacketParserData.deriveMsgAssemblerData`), any other from the device's (`freshMsgAssemblerData`); from
     `begin` on both go the same way.
  3. The deferred functions, which clear the chain key and the keys, are `clearSecrets`, at the end of
     `encryptBody`, on every way out of it.
-/
import OpenNHP.Core.Session

namespace OpenNHP.Core

variable {M : Type} {C : Crypto M}

/-- `deriveMsgAssemblerData` (`responder.go`): continue from a received packet. -/
def PacketParserData.deriveMsgAssemblerData (ppd : PacketParserData C) (t : HeaderType)
    (compress : Bool) (message : M) (buf : Packet M) : MsgAssemblerData C where
  device := ppd.device
  connData := ppd.connData
  -- replaced by the caller before anything reads it
  ephermeralEcdh := ppd.deviceEcdh
  -- the version bytes stay what the buffer held
  header := { buf.cast ppd.cipherScheme with common := buf.common.setCounter ppd.senderTrxId }
  hmacHash := []
  chainHash := [C.initialHashString]
  bodyAead := C.zeroKey
  -- continue with responder's chain key -> ChainKey4
  chainKey := ppd.chainKey
  localInitTime := 0
  transactionId := 0
  cipherScheme := ppd.cipherScheme
  headerType := t
  bodySize := 0
  headerFlag := 0
  bodyCompress := compress
  clPkc := false
  externalCookie := none
  remotePubKey := ppd.remotePubKey
  bodyMessage := message
  body := none
  chainKeys := []

/-- The branch of `createMsgAssemblerData` for a message without a previous packet. -/
def freshMsgAssemblerData (d : Device C) (md : MsgData C) (buf : Packet M) : MsgAssemblerData C where
  device := d
  connData := md.connData
  ephermeralEcdh := d.getEcdhByCipherScheme md.cipherScheme
  header := { buf.cast md.cipherScheme with
    common := (buf.common.setVersion protocolVersionMajor protocolVersionMinor).setCounter
      md.transactionId }
  hmacHash := []
  chainHash := [C.initialHashString]
  bodyAead := C.zeroKey
  chainKey := chainKey0 C md.cipherScheme
  localInitTime := 0
  transactionId := md.transactionId
  cipherScheme := md.cipherScheme
  headerType := md.headerType
  bodySize := 0
  headerFlag := 0
  bodyCompress := md.compress
  clPkc := md.clPkc
  externalCookie := md.externalCookie
  remotePubKey := md.peerPk
  bodyMessage := md.message
  body := none
  chainKeys := [chainKey0 C md.cipherScheme]

/-- The end of `createMsgAssemblerData`, common to both branches: the send time, the HMAC hash and a
    new ephemeral key pair. -/
def MsgAssemblerData.begin (mad : MsgAssemblerData C) (rnd : Entropy C) (now : Int64) :
    MsgAssemblerData C :=
  let ephermeralEcdh := rnd.newECDH mad.ciphers.eccType
  { mad with
    localInitTime := now
    hmacHash := [C.initialHashString]
    ephermeralEcdh := ephermeralEcdh
    header := { mad.header with ephermeral := ephermeralEcdh.publicKey } }

/-- `createMsgAssemblerData`. -/
def createMsgAssemblerData (d : Device C) (md : MsgData C) (rnd : Entropy C) (buf : Packet M)
    (now : Int64) : MsgAssemblerData C :=
  match md.prevParserData with
  | some ppd =>
    (ppd.deriveMsgAssemblerData md.headerType md.compress md.message buf).begin rnd now
  | none => (freshMsgAssemblerData d md buf).begin rnd now

/-- A message that answers nothing begins with the device's data, -/
theorem createMsgAssemblerData_of_none {d : Device C} {md : MsgData C} {rnd : Entropy C}
    {buf : Packet M} {now : Int64} (h : md.prevParserData = none) :
    createMsgAssemblerData d md rnd buf now = (freshMsgAssemblerData d md buf).begin rnd now := by
  rw [createMsgAssemblerData, h]

/-- one that answers a packet with the packet's. -/
theorem createMsgAssemblerData_of_some {d : Device C} {md : MsgData C} {rnd : Entropy C}
    {buf : Packet M} {now : Int64} {ppd : PacketParserData C} (h : md.prevParserData = some ppd) :
    createMsgAssemblerData d md rnd buf now
      = (ppd.deriveMsgAssemblerData md.headerType md.compress md.message buf).begin rnd now := by
  rw [createMsgAssemblerData, h]

namespace MsgAssemblerData

/-- `setPeerPublicKey`: mix the ephemeral and the static secret into the chain key, seal the static
    key and the timestamp, and derive the body key. -/
def setPeerPublicKey (mad : MsgAssemblerData C) (peerPk : Option M) : Go (MsgAssemblerData C) :=
  let t := mad.ciphers.hashType
  let g := mad.ciphers.gcmType
  let nonce := C.nonceBytes mad.header.common.counter
  -- override peer public key
  (Go.ofOption .emptyPeerPublicKey (peerPk.or mad.remotePubKey)).bind fun remotePubKey =>
  if C.len remotePubKey ≠ publicKeySize mad.cipherScheme then .err .deviceECDHPeerFailed
  else
    let hmacHash := mad.hmacHash ++ [remotePubKey]
    let chainHash1 := mad.chainHash ++ [remotePubKey, mad.ephermeralEcdh.publicKey]
    let chainKey1 := Noise.mixKey C t mad.chainKey mad.ephermeralEcdh.publicKey
    (Go.ofOption .ephermalECDHPeerFailed (mad.ephermeralEcdh.sharedSecret remotePubKey)).bind
      fun ess =>
    let (chainKey2, staticKey) := Noise.keyGen2 C t chainKey1 ess
    let static := C.aeadSeal g staticKey nonce mad.deviceEcdh.publicKey (C.hash t chainHash1)
    let chainHash2 := chainHash1 ++ [static]
    (Go.ofOption .deviceECDHPeerFailed (mad.deviceEcdh.sharedSecret remotePubKey)).bind fun ss =>
    let (chainKey3, timestampKey) := Noise.keyGen2 C t chainKey2 ss
    let ts := C.aeadSeal g timestampKey nonce (C.timestampBytes mad.localInitTime)
      (C.hash t chainHash2)
    let (chainKey4, bodyKey) := Noise.keyGen2 C t chainKey3 ts
    .ok { mad with
      remotePubKey := some remotePubKey
      hmacHash := hmacHash
      chainHash := chainHash2 ++ [ts]
      chainKey := chainKey4
      header := { mad.header with static := static, timestamp := ts }
      bodyAead := bodyKey
      chainKeys := mad.chainKeys ++ [chainKey1, chainKey2, chainKey3, chainKey4] }

/-- `addHMAC`: hash the header, and for a re-knock the cookie, into the HMAC field. -/
def addHMAC (mad : MsgAssemblerData C) (sumCookie : Bool) : MsgAssemblerData C :=
  let cookie := if sumCookie then
      [mad.externalCookie.getD mad.connData.cookieStore.currCookie]
    else []
  let sum := C.hash mad.ciphers.hashType (mad.hmacHash ++ mad.header.macInput C ++ cookie)
  { mad with hmacHash := [], header := { mad.header with hmac := sum } }

/-- The deferred function of `encryptBody`. -/
def clearSecrets (mad : MsgAssemblerData C) : MsgAssemblerData C :=
  { mad with chainHash := [], chainKey := C.zeroKey }

/-- The text the body AEAD seals: the message, compressed if asked for. -/
def bodyText (mad : MsgAssemblerData C) : M :=
  if mad.bodyCompress then C.zlibCompress mad.bodyMessage else mad.bodyMessage

/-- `encryptBody`; `preamble` is the random word `SetTypeAndPayloadSize` draws. -/
def encryptBody (mad : MsgAssemblerData C) (preamble : UInt32) : Go (MsgAssemblerData C) :=
  if C.len mad.bodyMessage = 0 then
    -- message body is empty, skip encryption; the flag word is not written here
    let common := mad.header.common.setTypeAndPayloadSize preamble mad.headerType 0
    .ok ((({ mad with header := { mad.header with common := common } } : MsgAssemblerData C).addHMAC
      (mad.headerType = .rkn)).clearSecrets)
  else
    let bodySize := C.len mad.bodyText + gcmTagSize
    let flag := mad.headerFlag ||| HeaderCommon.flagWord mad.bodyCompress mad.clPkc
    if bodySize > packetBufferSize - mad.header.size then .err .packetSizeExceedsBuffer
    else
      let common := (HeaderCommon.setFlag mad.header.scheme mad.header.common flag).setTypeAndPayloadSize
        preamble mad.headerType bodySize
      let mad' := ({ mad with
        bodySize := bodySize
        headerFlag := flag
        header := { mad.header with common := common } } : MsgAssemblerData C).addHMAC
          (mad.headerType = .rkn)
      let ciphertext := C.aeadSeal mad.ciphers.gcmType mad.bodyAead
        (C.nonceBytes common.counter) mad.bodyText (C.hash mad.ciphers.hashType mad.chainHash)
      .ok ({ mad' with body := some ciphertext } : MsgAssemblerData C).clearSecrets

/-- `setPeerPublicKey(nil)` and `encryptBody`, as `msgToPacketRoutine` and `MsgToPacket` run them. -/
def encrypt (mad : MsgAssemblerData C) (preamble : UInt32) : Go (MsgAssemblerData C) :=
  (mad.setPeerPublicKey none).bind fun mad => mad.encryptBody preamble

/-- What goes on the wire, field by field: `Content` is their concatenation. -/
def wire (mad : MsgAssemblerData C) : List M :=
  mad.header.macInput C ++ [mad.header.hmac] ++ mad.body.toList

/-- `derivePacketParserData`: parse the answer to an assembled packet.  `d` is the device as it is
    when the answer arrives. -/
def derivePacketParserData (mad : MsgAssemblerData C) (d : Device C) (pd : PacketData C) :
    Go (PacketParserData C) :=
  pd.basePacket.flag.bind fun flag =>
  (pd.basePacket.headerWithCipherScheme mad.cipherScheme).bind fun header =>
  .ok {
    device := d
    basePacket := pd.basePacket
    connData := pd.connData
    cipherScheme := mad.cipherScheme
    header := header
    hmacHash := []
    chainHash := [C.initialHashString]
    bodyAead := C.zeroKey
    -- continue with initiator's chain key -> ChainKey4
    chainKey := mad.chainKey
    localInitTime := pd.initTime
    senderTrxId := 0
    headerType := .kpl
    bodySize := 0
    headerFlag := flag
    bodyCompress := false
    overload := false
    connPeerPublicKey := none
    remotePubKey := none
    bodyMessage := none
    sentCookie := none
    chainKeys := [] }

end MsgAssemblerData

end OpenNHP.Core
