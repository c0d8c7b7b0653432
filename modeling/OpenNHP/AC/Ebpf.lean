/-
  The eBPF half of the access controller: `nhp/utils/ebpf/ebpf.go`.

  1. **The program.**  `EbpfRuleAdd` writes one entry into one of six pinned maps: for the whole flow, for a pair
     of addresses, for a pair that may ping, for a source and a port, for a source and a range of ports, for a
     protocol and a port.  The number of the map decides which parameters it reads.

  2. **Keys.**  A key is a byte string, built here exactly as userland builds it, field by field, with the order of
     bytes that each `To...Key` writes.  The XDP program looks its own keys up in the same maps; where the two
     agree and where they do not is the subject of `RuleKeys`.

  3. **Values.**  A value has the flag and the time at which the entry ends: the kernel's clock now plus the
     lifetime in nanoseconds.  The lifetime comes as a signed number of seconds and is converted to 64 bits
     without a sign, so a negative one wraps around (`uint64`).

  4. **Errors.**  An address that is none or is not IPv4, a port out of range for the maps that check it, a
     protocol that is not known and a map type that does not exist end the call before the map is written; what
     else may fail is the update itself.
-/
import OpenNHP.Lib.Fallible
import OpenNHP.AC.IPSet

namespace OpenNHP.AC

open Inet BigEndian

/-! ## Addresses and ports -/

/-- The parts of package `net` that deal with IPv6 texts. -/
structure Net6 where
  parse : String → Option Bytes
  text : Bytes → String

/-- `net.ParseIP`: an IPv4 address as its 4 bytes, an IPv6 address as 16. -/
def parseNetIP (net6 : Net6) (s : String) : Option Bytes :=
  if ':' ∈ s.toList then net6.parse s else (IPv4.parse s).map IPv4.bytes

/-- The first 12 bytes of an IPv4 address in IPv6 form. -/
def v4InV6Prefix : Bytes := [0, 0, 0, 0, 0, 0, 0, 0, 0, 0, 0xff, 0xff]

/-- `IP.To4`. -/
def to4 (ip : Bytes) : Option Bytes :=
  if ip.length = 4 then some ip
  else if ip.length = 16 ∧ ip.take 12 = v4InV6Prefix then some (ip.drop 12)
  else none

/-- What `EbpfRuleAdd` fails with. -/
inductive EbpfError
  | unsupportedProtocol (protocol : String)
  | invalidIP (ip : String)
  | onlyIPv4 (ip : String)
  | portOutOfRange (port : Int)
  | unsupportedMapType (mapType : Int)
  | updateFailed
  deriving DecidableEq, Repr

/-- The texts of the errors. -/
def EbpfError.text : EbpfError → String
  | .unsupportedProtocol protocol => "unsupported protocol: " ++ protocol
  | .invalidIP ip => "invalid IP address: " ++ ip
  | .onlyIPv4 ip => "only IPv4 addresses are supported: " ++ ip
  | .portOutOfRange port => "value " ++ toString port ++ " is out of range for uint16"
  | .unsupportedMapType mapType => "unsupported map type: " ++ toString mapType
  | .updateFailed => "update failed"

/-- `parseIP`: the address as a little-endian number. -/
def parseIP (net6 : Net6) (s : String) : Except EbpfError UInt32 :=
  match parseNetIP net6 s with
  | none => .error (.invalidIP s)
  | some ip =>
    match to4 ip with
    | none => .error (.onlyIPv4 s)
    | some ip4 => .ok (UInt32.ofNat (getLE ip4))

/-- `parsePort` of the text of a 16-bit number: its bytes swapped. -/
def parsePort (port : UInt16) : UInt16 :=
  UInt16.ofNat (getLE (putBE 2 port.toNat))

/-- `SafeIntToUint16`. -/
def safeIntToUint16 (i : Int) : Except EbpfError UInt16 :=
  if i < 0 ∨ i > 65535 then .error (.portOutOfRange i) else .ok (UInt16.ofNat i.toNat)

/-! ## Keys and values -/

/-- The pinned maps that hold rules. -/
inductive MapName
  | spp
  | sdwhitelist
  | icmpwhitelist
  | srcPort
  | portList
  | protocolPort
  deriving DecidableEq, Repr

/-- The key of a flow. -/
structure WhitelistKey where
  srcIP : UInt32
  dstIP : UInt32
  dstPort : UInt16
  protocol : UInt8

/-- The key of two addresses. -/
structure SrcDestKey where
  srcIP : UInt32
  dstIP : UInt32

/-- The key of a source and a range of ports. -/
structure PortListKey where
  srcIP : UInt32
  dstPortStart : UInt16
  dstPortEnd : UInt16

/-- The key of a source and a port. -/
structure SrcIPdstPortKey where
  srcIP : UInt32
  dstPort : UInt16

/-- The key of a protocol and a port. -/
structure ProcoPortKey where
  dstPort : UInt16
  protocol : UInt8

/-- The port goes into the key in network order. -/
def WhitelistKey.toWlKey (r : WhitelistKey) : Bytes :=
  putLE 4 r.srcIP.toNat ++ putLE 4 r.dstIP.toNat ++ putBE 2 r.dstPort.toNat ++ [r.protocol]

/-- `ToSdKey`. -/
def SrcDestKey.toSdKey (r : SrcDestKey) : Bytes :=
  putLE 4 r.srcIP.toNat ++ putLE 4 r.dstIP.toNat

/-- `ToPpKey`: here the port is written least significant byte first. -/
def ProcoPortKey.toPpKey (r : ProcoPortKey) : Bytes :=
  putLE 2 r.dstPort.toNat ++ [r.protocol]

/-- `ToPlKey`: both ends of the range least significant byte first. -/
def PortListKey.toPlKey (r : PortListKey) : Bytes :=
  putLE 4 r.srcIP.toNat ++ putLE 2 r.dstPortStart.toNat ++ putLE 2 r.dstPortEnd.toNat

/-- The port goes into the key in little-endian order. -/
def SrcIPdstPortKey.toSpKey (r : SrcIPdstPortKey) : Bytes :=
  putLE 4 r.srcIP.toNat ++ putLE 2 r.dstPort.toNat

/-- The value of an entry. -/
structure MapValue where
  allowed : UInt8
  expireTime : UInt64
  deriving DecidableEq, Repr

/-- `ToWlValue` and its four siblings. -/
def toValue (now ttlSec : UInt64) : MapValue := ⟨1, now + ttlSec * 1000000000⟩

/-- One `Map.Update`: userland writes no value but that of an allowed entry with a lifetime. -/
structure MapUpdate where
  map : MapName
  key : Bytes
  now : UInt64
  ttlSec : UInt64
  deriving DecidableEq, Repr

/-- The value that an update writes. -/
def MapUpdate.value (u : MapUpdate) : MapValue := toValue u.now u.ttlSec

@[simp] theorem MapUpdate.value_allowed (u : MapUpdate) : u.value.allowed = 1 := rfl

/-! ## Adding a rule -/

/-- The parameters of a rule; each map reads some of them. -/
structure EbpfRuleParams where
  srcIP : String := ""
  dstIP : String := ""
  dstPort : Int := 0
  dstPortStart : Int := 0
  dstPortEnd : Int := 0
  protocol : String := ""

section Add

variable (net6 : Net6) (now : UInt64)

/-- The rule for a flow. -/
def addEbpfRuleForSrcDstPortProto (srcIPStr dstIPStr : String) (protocol : UInt8)
    (dstPort : UInt16) (ttlSec : UInt64) : Except EbpfError MapUpdate := do
  let srcIP ← parseIP net6 srcIPStr
  let dstIP ← parseIP net6 dstIPStr
  let rule : WhitelistKey := ⟨srcIP, dstIP, dstPort, protocol⟩
  return ⟨.spp, rule.toWlKey, now, ttlSec⟩

/-- The rule for two addresses, whatever the protocol and the port. -/
def addEbpfRuleForSrcDst (srcIPStr dstIPStr : String) (ttlSec : UInt64) :
    Except EbpfError MapUpdate := do
  let srcIP ← parseIP net6 srcIPStr
  let dstIP ← parseIP net6 dstIPStr
  let rule : SrcDestKey := ⟨srcIP, dstIP⟩
  return ⟨.sdwhitelist, rule.toSdKey, now, ttlSec⟩

/-- The rule for echo requests between two addresses. -/
def addEbpfIcmpRuleForSrcDst (srcIPStr dstIPStr : String) (ttlSec : UInt64) :
    Except EbpfError MapUpdate := do
  let srcIP ← parseIP net6 srcIPStr
  let dstIP ← parseIP net6 dstIPStr
  let rule : SrcDestKey := ⟨srcIP, dstIP⟩
  return ⟨.icmpwhitelist, rule.toSdKey, now, ttlSec⟩

/-- The rule for a source and a port. -/
def addEbpfRuleForSrcDestPort (srcIPStr : String) (dstPort : Int) (ttlSec : UInt64) :
    Except EbpfError MapUpdate := do
  let srcIP ← parseIP net6 srcIPStr
  let dstPortu ← safeIntToUint16 dstPort
  let rule : SrcIPdstPortKey := ⟨srcIP, dstPortu⟩
  return ⟨.srcPort, rule.toSpKey, now, ttlSec⟩

/-- The rule for a source and a range of ports. -/
def addEbpfRuleForSrcDestPortList (srcIPStr : String) (dstPortStart dstPortEnd : Int)
    (ttlSec : UInt64) : Except EbpfError MapUpdate := do
  let srcIP ← parseIP net6 srcIPStr
  let portStart ← safeIntToUint16 dstPortStart
  let portEnd ← safeIntToUint16 dstPortEnd
  let rule : PortListKey := ⟨srcIP, portStart, portEnd⟩
  return ⟨.portList, rule.toPlKey, now, ttlSec⟩

/-- The rule for a protocol and a port, from any source. -/
def addEbpfRuleForProtocolPort (protocol : UInt8) (dstPort : UInt16) (ttlSec : UInt64) :
    Except EbpfError MapUpdate := do
  let rule : ProcoPortKey := ⟨parsePort dstPort, protocol⟩
  return ⟨.protocolPort, rule.toPpKey, now, ttlSec⟩

/-- The protocol number; the empty protocol is 0. -/
def protocolNumber (protocol : String) : Except EbpfError UInt8 :=
  if protocol = "" then .ok 0
  else if protocol = "tcp" then .ok 6
  else if protocol = "udp" then .ok 17
  else if protocol = "icmp" then .ok 1
  else .error (.unsupportedProtocol protocol)

/-- `uint16` of an `int`. -/
def uint16 (i : Int) : UInt16 := UInt16.ofNat (i % 65536).toNat

/-- `uint64` of an `int`. -/
def uint64 (i : Int) : UInt64 := UInt64.ofNat (i % 18446744073709551616).toNat

/-- The update that `EbpfRuleAdd` makes, or the error it returns before any. -/
def ebpfRuleAdd (mapType : Int) (params : EbpfRuleParams) (ttlSec : Int) :
    Except EbpfError MapUpdate := do
  let protocol ← protocolNumber params.protocol
  let ttlSec64 := uint64 ttlSec
  if mapType = 1 then
    addEbpfRuleForSrcDstPortProto net6 now params.srcIP params.dstIP protocol
      (uint16 params.dstPort) ttlSec64
  else if mapType = 2 then addEbpfRuleForSrcDst net6 now params.srcIP params.dstIP ttlSec64
  else if mapType = 3 then addEbpfIcmpRuleForSrcDst net6 now params.srcIP params.dstIP ttlSec64
  else if mapType = 4 then addEbpfRuleForSrcDestPort net6 now params.srcIP params.dstPort ttlSec64
  else if mapType = 5 then
    addEbpfRuleForSrcDestPortList net6 now params.srcIP params.dstPortStart params.dstPortEnd ttlSec64
  else if mapType = 6 then addEbpfRuleForProtocolPort now protocol (uint16 params.dstPort) ttlSec64
  else throw (.unsupportedMapType mapType)

end Add

section Result

variable {net6 : Net6} {now : UInt64} {u : MapUpdate}

/-- The update carries the boot time and the lifetime of the call. -/
theorem ebpfRuleAdd_times {mapType : Int} {params : EbpfRuleParams} {ttl : Int}
    (h : ebpfRuleAdd net6 now mapType params ttl = .ok u) : u.now = now ∧ u.ttlSec = uint64 ttl := by
  unfold ebpfRuleAdd at h
  obtain ⟨protocol, -, h⟩ := Fallible.bind_eq_ok h
  dsimp only at h
  -- every addition parses its addresses and ports, then returns the update
  split_ifs at h <;> (repeat obtain ⟨_, -, h⟩ := Fallible.bind_eq_ok h) <;> cases h <;> exact ⟨rfl, rfl⟩

end Result

/-! ## What the additions write for IPv4 addresses -/

section IPv4

variable {net6 : Net6} {now : UInt64} {s t : String} {x y : IPv4}

/-- An IPv4 address is parsed before the other family is tried. -/
theorem parseNetIP_v4 (h : IPv4.parse s = some x) : parseNetIP net6 s = some x.bytes := by
  rw [parseNetIP, if_neg (IPv4.no_colon h), h]
  rfl

/-- The key part of an IPv4 address is its bytes in network order. -/
theorem parseIP_v4 (net6 : Net6) (h : IPv4.parse s = some x) :
    ∃ n, parseIP net6 s = .ok n ∧ putLE 4 n.toNat = x.bytes := by
  refine ⟨UInt32.ofNat (getLE x.bytes), ?_, ?_⟩
  · rw [parseIP, parseNetIP_v4 h]
    rfl
  · have hlt : getLE x.bytes < 2 ^ 32 := by
      have h := getLE_lt x.bytes
      rwa [show x.bytes.length = 4 from rfl, show 256 ^ 4 = 2 ^ 32 from by norm_num] at h
    rw [UInt32.toNat_ofNat', Nat.mod_eq_of_lt hlt]
    exact putLE_getLE x.bytes

variable {ttl : Int}

/-- Map 1: the rule of a source, a destination, a port and a protocol. -/
theorem ebpfRuleAdd_spp (hs : IPv4.parse s = some x) (ht : IPv4.parse t = some y) {protocol : String}
    {number : UInt8} (hprotocol : protocolNumber protocol = .ok number) (port : Int) :
    ebpfRuleAdd net6 now 1 { srcIP := s, dstIP := t, dstPort := port, protocol := protocol } ttl =
      .ok ⟨.spp, x.bytes ++ y.bytes ++ putBE 2 (uint16 port).toNat ++ [number], now, uint64 ttl⟩ := by
  obtain ⟨n, hn, hnx⟩ := parseIP_v4 net6 hs
  obtain ⟨m, hm, hmy⟩ := parseIP_v4 net6 ht
  rw [ebpfRuleAdd, hprotocol, ← hnx, ← hmy]
  show addEbpfRuleForSrcDstPortProto net6 now s t number (uint16 port) (uint64 ttl) = _
  rw [addEbpfRuleForSrcDstPortProto, hn, hm]
  rfl

/-- Map 2: the rule of a source and a destination. -/
theorem ebpfRuleAdd_sdwhitelist (hs : IPv4.parse s = some x) (ht : IPv4.parse t = some y) :
    ebpfRuleAdd net6 now 2 { srcIP := s, dstIP := t } ttl =
      .ok ⟨.sdwhitelist, x.bytes ++ y.bytes, now, uint64 ttl⟩ := by
  obtain ⟨n, hn, hnx⟩ := parseIP_v4 net6 hs
  obtain ⟨m, hm, hmy⟩ := parseIP_v4 net6 ht
  rw [← hnx, ← hmy]
  show addEbpfRuleForSrcDst net6 now s t (uint64 ttl) = _
  rw [addEbpfRuleForSrcDst, hn, hm]
  rfl

/-- Map 3: the ping rule of a source and a destination. -/
theorem ebpfRuleAdd_icmpwhitelist (hs : IPv4.parse s = some x) (ht : IPv4.parse t = some y) :
    ebpfRuleAdd net6 now 3 { srcIP := s, dstIP := t } ttl =
      .ok ⟨.icmpwhitelist, x.bytes ++ y.bytes, now, uint64 ttl⟩ := by
  obtain ⟨n, hn, hnx⟩ := parseIP_v4 net6 hs
  obtain ⟨m, hm, hmy⟩ := parseIP_v4 net6 ht
  rw [← hnx, ← hmy]
  show addEbpfIcmpRuleForSrcDst net6 now s t (uint64 ttl) = _
  rw [addEbpfIcmpRuleForSrcDst, hn, hm]
  rfl

/-- Map 4: the rule of a source and a port; the port goes into the key in little-endian order. -/
theorem ebpfRuleAdd_srcPort (hs : IPv4.parse s = some x) {port : Int}
    (hport : 0 ≤ port ∧ port < 65536) :
    ebpfRuleAdd net6 now 4 { srcIP := s, dstPort := port } ttl =
      .ok ⟨.srcPort, x.bytes ++ putLE 2 port.toNat, now, uint64 ttl⟩ := by
  obtain ⟨n, hn, hnx⟩ := parseIP_v4 net6 hs
  have hsafe : safeIntToUint16 port = .ok (UInt16.ofNat port.toNat) := by
    rw [safeIntToUint16, if_neg (by omega)]
  have hval : (UInt16.ofNat port.toNat).toNat = port.toNat := by
    rw [UInt16.toNat_ofNat']
    omega
  rw [← hnx, ← hval]
  show addEbpfRuleForSrcDestPort net6 now s port (uint64 ttl) = _
  rw [addEbpfRuleForSrcDestPort, hn, hsafe]
  rfl

/-- Map 5: the rule of a source and all ports from 1. -/
theorem ebpfRuleAdd_portList (hs : IPv4.parse s = some x) :
    ebpfRuleAdd net6 now 5 { srcIP := s, dstPortStart := 1, dstPortEnd := 65535 } ttl =
      .ok ⟨.portList, x.bytes ++ [1, 0] ++ [255, 255], now, uint64 ttl⟩ := by
  obtain ⟨n, hn, hnx⟩ := parseIP_v4 net6 hs
  have hstart : safeIntToUint16 1 = .ok 1 := rfl
  have hend : safeIntToUint16 65535 = .ok 65535 := rfl
  have hbytes : putLE 2 (1 : UInt16).toNat = [1, 0] ∧ putLE 2 (65535 : UInt16).toNat = [255, 255] := by
    decide
  rw [← hnx, ← hbytes.1, ← hbytes.2]
  show addEbpfRuleForSrcDestPortList net6 now s 1 65535 (uint64 ttl) = _
  rw [addEbpfRuleForSrcDestPortList, hn, hstart, hend]
  rfl

/-- `parsePort` swaps the bytes, and the key writes them in little-endian order: network order. -/
theorem putLE_parsePort (port : UInt16) : putLE 2 (parsePort port).toNat = putBE 2 port.toNat := by
  have hlt : getLE (putBE 2 port.toNat) < 65536 := by
    have h := getLE_lt (putBE 2 port.toNat)
    rwa [length_putBE] at h
  have h := putLE_getLE (putBE 2 port.toNat)
  rw [length_putBE] at h
  rw [parsePort, UInt16.toNat_ofNat', Nat.mod_eq_of_lt hlt, h]

/-- Map 6: the rule of a protocol and a port. -/
theorem ebpfRuleAdd_protocolPort {protocol : String} {number : UInt8}
    (hprotocol : protocolNumber protocol = .ok number) (port : Int) :
    ebpfRuleAdd net6 now 6 { protocol := protocol, dstPort := port } ttl =
      .ok ⟨.protocolPort, putBE 2 (uint16 port).toNat ++ [number], now, uint64 ttl⟩ := by
  rw [ebpfRuleAdd, hprotocol, ← putLE_parsePort]
  rfl

end IPv4

end OpenNHP.AC
