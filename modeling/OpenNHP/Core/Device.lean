/-
  Devices, registered peers and connections (`nhp/core/device.go`, `peer.go`, `udpconn.go`).

  A `Device` holds what the packet paths read: its role, its options, its two static key pairs, the peer map and
  the overload flag.

  1. The peer map is keyed by the base64 text of a public key; that text determines the key, so the model keys it
     by the key itself.
  2. The two key pairs are of the curves their fields say, which `NewDevice` sees to; the record carries it.
  3. Times are `int64` nanoseconds, as in the source, and their arithmetic wraps.
-/
import OpenNHP.Core.Crypto

namespace OpenNHP.Core

/-! ## Time constants -/

/-- `MinimalRecvIntervalMs`: packets of one connection closer than this are a flood. -/
def minimalRecvIntervalMs : Int64 := 20
/-- `CookieRegenerateTime`, in seconds. -/
def cookieRegenerateTime : Int64 := 120
/-- `CookieRoundTripTimeMs`: for so long the cookie before is good, too. -/
def cookieRoundTripTimeMs : Int64 := 20
/-- `MinimalPeerAddressHoldTime`, in seconds. -/
def minimalPeerAddressHoldTime : Int64 := 5
/-- `ThreatCountBeforeBlock`. -/
def threatCountBeforeBlock : Int32 := 1
/-- `int64(time.Second)` and `int64(time.Millisecond)`. -/
def second : Int64 := 1000000000
def millisecond : Int64 := 1000000

/-- The text of a `net.UDPAddr`. -/
abbrev Addr := String

/-! ## Peers -/

/-- The fields of `UdpPeer` the packet paths use; times are in nanoseconds, `expireTime` in
    seconds. -/
structure UdpPeer where
  deviceType : DeviceType
  expireTime : Int64
  lastRecvTime : Int64
  recvAddr : Option Addr
  deriving DecidableEq, Repr

namespace UdpPeer

/-- `IsExpired`; `nowMilli` is `time.Now().UnixMilli()`. -/
def isExpired (p : UdpPeer) (nowMilli : Int64) : Bool :=
  p.expireTime > 0 && nowMilli > p.expireTime * 1000

/-- `CheckRecvAddress`: a peer keeps one layer-4 address within its hold time.  The text of a nil
    address is `<nil>`. -/
def checkRecvAddress (p : UdpPeer) (currTime : Int64) (currAddr : Addr) : Bool :=
  if currTime > p.lastRecvTime + minimalPeerAddressHoldTime * second then true
  else p.recvAddr.getD "<nil>" == currAddr

/-- `UpdateRecv`. -/
def updateRecv (p : UdpPeer) (currTime : Int64) (currAddr : Addr) : UdpPeer :=
  { p with lastRecvTime := currTime, recvAddr := some currAddr }

end UdpPeer

/-! ## Devices -/

/-- `DeviceOptions`: which roles' senders need not be registered. -/
structure DeviceOptions where
  disableAgentPeerValidation : Bool := false
  disableServerPeerValidation : Bool := false
  disableACPeerValidation : Bool := false
  disableRelayPeerValidation : Bool := false
  disableDePeerValidation : Bool := false
  deriving DecidableEq, Repr

/-- `defaultDeviceOptions`: an AC validates no agent. -/
def defaultDeviceOptions : DeviceType → DeviceOptions
  | .ac => { disableAgentPeerValidation := true }
  | _ => {}

variable {M : Type}

/-- `Device`, as far as packets are concerned. -/
structure Device (C : Crypto M) where
  deviceType : DeviceType
  option : DeviceOptions
  staticEcdhCurve : Ecdh C
  staticEcdhGmsm : Ecdh C
  peerMap : M → Option UdpPeer
  overload : Bool
  staticEcdhCurve_eccType : staticEcdhCurve.eccType = .curve25519
  staticEcdhGmsm_eccType : staticEcdhGmsm.eccType = .sm2

namespace Device

variable {C : Crypto M}

/-- `GetEcdhByCipherScheme`. -/
def getEcdhByCipherScheme (d : Device C) : CipherScheme → Ecdh C
  | .curve => d.staticEcdhCurve
  | .gmsm => d.staticEcdhGmsm

/-- It is of the scheme's curve. -/
theorem getEcdhByCipherScheme_eccType (d : Device C) (scheme : CipherScheme) :
    (d.getEcdhByCipherScheme scheme).eccType = (newCipherSuite scheme).eccType := by
  cases scheme
  · exact d.staticEcdhGmsm_eccType
  · exact d.staticEcdhCurve_eccType

/-- `LookupPeer`. -/
def lookupPeer (d : Device C) (pk : M) : Option UdpPeer := d.peerMap pk

/-- `AddPeer`. -/
def addPeer [DecidableEq M] (d : Device C) (pk : M) (peer : UdpPeer) : Device C :=
  { d with peerMap := fun k => if k = pk then some peer else d.peerMap k }

/-- The last peer added under a key is the one that is found. -/
theorem lookupPeer_addPeer [DecidableEq M] (d : Device C) (pk k : M) (peer : UdpPeer) :
    (d.addPeer pk peer).lookupPeer k = if k = pk then some peer else d.lookupPeer k := rfl

end Device

/-! ## Connections -/

/-- `CookieStore` of a connection. -/
structure CookieStore (M : Type) where
  currCookie : M
  prevCookie : M
  lastCookieTime : Int64

/-- The fields of `ConnectionData` the packet paths use.  `blockSignal` counts the signals
    `SendBlockSignal` offered to the connection routine. -/
structure ConnectionData (M : Type) where
  remoteAddr : Addr
  lastRemoteSendTime : Int64
  cookieStore : CookieStore M
  recvThreatCount : Int32
  blockSignal : Nat
  closed : Bool

/-- A connection as the receive routines set it up: nothing received, zero cookies. -/
def ConnectionData.new (C : Crypto M) (remoteAddr : Addr) : ConnectionData M where
  remoteAddr := remoteAddr
  lastRemoteSendTime := 0
  cookieStore := { currCookie := C.zeroKey, prevCookie := C.zeroKey, lastCookieTime := 0 }
  recvThreatCount := 0
  blockSignal := 0
  closed := false

end OpenNHP.Core
