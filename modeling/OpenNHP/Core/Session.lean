/-
  The data of one assembly and of one parse: `MsgData`, `MsgAssemblerData` (`nhp/core/initiator.go`),
  `PacketData` and `PacketParserData` (`nhp/core/responder.go`).

  1. A running hash (`hash.Hash`) is the list of what has been written to it.
  2. The Go structs point to the device and to the connection; the records hold their current state.
  3. `chainKeys` is the one field the source does not have: it records the chain key after each key-derivation
     step, oldest first, so that the two key schedules can be compared step by step.
-/
import OpenNHP.Core.Device

namespace OpenNHP.Core

variable {M : Type}

/-- `PacketParserData`: a received packet while it is parsed, and the message it yields. -/
structure PacketParserData (C : Crypto M) where
  device : Device C
  basePacket : Packet M
  connData : ConnectionData M
  cipherScheme : CipherScheme
  header : Header M
  hmacHash : List M
  chainHash : List M
  bodyAead : M
  chainKey : M
  localInitTime : Int64
  senderTrxId : UInt64
  headerType : HeaderType
  bodySize : Nat
  headerFlag : UInt16
  bodyCompress : Bool
  overload : Bool
  connPeerPublicKey : Option M
  remotePubKey : Option M
  bodyMessage : Option M
  /-- The cookie `sendCookie` put into an `NHP_COK` message, if it ran. -/
  sentCookie : Option M
  chainKeys : List M

/-- `MsgAssemblerData`: a message while it is assembled, and the packet it yields.  `body` is
    `Buf[headerSize:packetLen]`, `none` while nothing has been sealed there. -/
structure MsgAssemblerData (C : Crypto M) where
  device : Device C
  connData : ConnectionData M
  ephermeralEcdh : Ecdh C
  header : Header M
  hmacHash : List M
  chainHash : List M
  bodyAead : M
  chainKey : M
  localInitTime : Int64
  transactionId : UInt64
  cipherScheme : CipherScheme
  headerType : HeaderType
  bodySize : Nat
  headerFlag : UInt16
  bodyCompress : Bool
  clPkc : Bool
  externalCookie : Option M
  remotePubKey : Option M
  bodyMessage : M
  body : Option M
  chainKeys : List M

/-- `MsgData`: a message handed to the device for sending. -/
structure MsgData (C : Crypto M) where
  connData : ConnectionData M
  prevParserData : Option (PacketParserData C)
  cipherScheme : CipherScheme
  transactionId : UInt64
  headerType : HeaderType
  compress : Bool
  clPkc : Bool
  externalCookie : Option M
  message : M
  peerPk : Option M

/-- `PacketData`: a packet handed to the device for receiving.  `connData` is the connection the
    parse will use: the packet's own, or the one of `prevAssemblerData` when that is set. -/
structure PacketData (C : Crypto M) where
  basePacket : Packet M
  connData : ConnectionData M
  prevAssemblerData : Option (MsgAssemblerData C)
  connPeerPublicKey : Option M
  initTime : Int64

variable {C : Crypto M}

namespace MsgAssemblerData

/-- The algorithms of the message's scheme. -/
def ciphers (mad : MsgAssemblerData C) : CipherSuite := newCipherSuite mad.cipherScheme

/-- The device's key pair of that scheme. -/
def deviceEcdh (mad : MsgAssemblerData C) : Ecdh C :=
  mad.device.getEcdhByCipherScheme mad.cipherScheme

end MsgAssemblerData

namespace PacketParserData

def ciphers (ppd : PacketParserData C) : CipherSuite := newCipherSuite ppd.cipherScheme

def deviceEcdh (ppd : PacketParserData C) : Ecdh C :=
  ppd.device.getEcdhByCipherScheme ppd.cipherScheme

end PacketParserData

/-- What the HMAC field covers of a header: `Bytes()[0 : Size()-HashSize]`, field by field. -/
def Header.macInput (C : Crypto M) (h : Header M) : List M :=
  [C.headerCommonBytes h.common, h.ephermeral, h.identity, h.static, h.timestamp]

/-- `ChainKey0` of a scheme. -/
def chainKey0 (C : Crypto M) (scheme : CipherScheme) : M :=
  let t := (newCipherSuite scheme).hashType
  Noise.mixKey C t (C.hash t [C.initialHashString]) C.initialChainKeyString

end OpenNHP.Core
