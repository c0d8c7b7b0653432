/-
  The keys userland writes (`EbpfRuleAdd` of `nhp/utils/ebpf/ebpf.go`) and the keys `xdp_white_prog` looks
  up.

  1. **The two sides.**  Userland serialises a key field by field (`MapType.ruleKey`), from the parameters that the
     access controller fills in for a flow (`MapType.params`).  The program takes a packed struct from the packet
     (`MapType.packetKey`), its ports in the order of the wire.

  2. **The property.**  `RuleFound`: a rule that was added for a flow is found when a packet of that flow comes,
     and not for a packet of another (`MapType.SameFlow` says what each map distinguishes).

  3. **Where they meet.**  The six layouts agree on addresses and protocols.  Of the ports, `ToSpKey` writes
     little-endian order where network order is looked up, so a rule for a source and a port is found only if the
     two bytes of the port are equal; and the range starts at 1 where the program looks for 0, so it is never
     found.  `ruleKey_eq_packetKey` says this map by map.

  4. **The result.**  Keys of one map are equal only for one flow (`packetKey_inj`), so with the agreement of the
     layouts the rule is found exactly for its own packets: `rule_found_iff`, with the condition on map and port.
-/
import OpenNHP.AC.Traffic
import OpenNHP.AC.Egress

namespace OpenNHP.AC

open Inet BigEndian

/-! ## Map types -/

/-- The map types of `EbpfRuleAdd`. -/
inductive MapType
  | whitelist
  | sdWhitelist
  | icmpWhitelist
  | srcAndPort
  | srcPortList
  | protocolPort
  deriving DecidableEq, Repr

/-- The number of a map, as `EbpfRuleAdd` takes it. -/
def MapType.number : MapType → Int
  | .whitelist => 1
  | .sdWhitelist => 2
  | .icmpWhitelist => 3
  | .srcAndPort => 4
  | .srcPortList => 5
  | .protocolPort => 6

/-- The pinned map behind it. -/
def MapType.map : MapType → MapName
  | .whitelist => .spp
  | .sdWhitelist => .sdwhitelist
  | .icmpWhitelist => .icmpwhitelist
  | .srcAndPort => .srcPort
  | .srcPortList => .portList
  | .protocolPort => .protocolPort

/-- The parameters of a rule, as the callers fill them in: the range is always that of all ports. -/
def MapType.params (t : MapType) (src dst : String) (port : Int) (protocol : String) : EbpfRuleParams :=
  match t with
  | .whitelist => { srcIP := src, dstIP := dst, dstPort := port, protocol := protocol }
  | .sdWhitelist | .icmpWhitelist => { srcIP := src, dstIP := dst }
  | .srcAndPort => { srcIP := src, dstPort := port }
  | .srcPortList => { srcIP := src, dstPortStart := 1, dstPortEnd := 65535 }
  | .protocolPort => { protocol := protocol, dstPort := port }

/-- What the keys of a packet are made of. -/
structure PacketAddress where
  src : IPv4
  dst : IPv4
  dport : UInt16
  protocol : UInt8

/-- The key of a packet in the map of a type. -/
def MapType.packetKey (t : MapType) (p : PacketAddress) : Bytes :=
  match t with
  | .whitelist => p.src.bytes ++ p.dst.bytes ++ putBE 2 p.dport.toNat ++ [p.protocol]
  | .sdWhitelist | .icmpWhitelist => p.src.bytes ++ p.dst.bytes
  | .srcAndPort => p.src.bytes ++ putBE 2 p.dport.toNat
  | .srcPortList => p.src.bytes ++ [0, 0] ++ [255, 255]
  | .protocolPort => putBE 2 p.dport.toNat ++ [p.protocol]

/-- These are the keys that the program builds for the packet, whatever its source port. -/
theorem ownKeys_flow (p : PacketAddress) (sport : Bytes) (nexthdr : UInt8) :
    (Reading.flow ⟨p.dst.bytes, p.src.bytes, putBE 2 p.dport.toNat, sport, nexthdr, 0⟩ p.protocol).ownKeys =
      [MapType.whitelist, .sdWhitelist, .srcAndPort, .srcPortList, .protocolPort].map
        fun t => (t.map, t.packetKey p) := rfl

/-- An echo request is looked up in one map. -/
theorem ownKeys_echo (p : PacketAddress) (ct : ConnTuple) :
    (Reading.echo (p.src.bytes ++ p.dst.bytes) ct).ownKeys =
      [(MapType.icmpWhitelist.map, MapType.icmpWhitelist.packetKey p)] := rfl

/-- Two packets are of one flow, as far as a map type tells flows apart. -/
def MapType.SameFlow (t : MapType) (p p' : PacketAddress) : Prop :=
  match t with
  | .whitelist => p.src = p'.src ∧ p.dst = p'.dst ∧ p.dport = p'.dport ∧ p.protocol = p'.protocol
  | .sdWhitelist | .icmpWhitelist => p.src = p'.src ∧ p.dst = p'.dst
  | .srcAndPort => p.src = p'.src ∧ p.dport = p'.dport
  | .srcPortList => p.src = p'.src
  | .protocolPort => p.dport = p'.dport ∧ p.protocol = p'.protocol

section

variable {t : MapType} {p p' : PacketAddress}

/-- Two bytes say which port it is. -/
theorem putBE_port {port port' : UInt16} : putBE 2 port.toNat = putBE 2 port'.toNat ↔ port = port' := by
  rw [putBE_port_inj port.toNat_lt port'.toNat_lt, UInt16.toNat_inj]

/-- The keys of the program tell flows apart. -/
theorem packetKey_inj : t.packetKey p = t.packetKey p' ↔ t.SameFlow p p' := by
  have hport : ∀ u v : Bytes, putBE 2 p.dport.toNat ++ u = putBE 2 p'.dport.toNat ++ v ↔
      p.dport = p'.dport ∧ u = v := by
    intro u v
    rw [← putBE_port]
    constructor
    · exact fun h => List.append_inj h (by rw [length_putBE, length_putBE])
    · rintro ⟨hport, rfl⟩
      rw [hport]
  cases t with
  | whitelist =>
    simp only [MapType.packetKey, MapType.SameFlow, List.append_assoc, bytes_append_inj, hport,
      List.cons.injEq,
      and_true]
  | sdWhitelist | icmpWhitelist =>
    simp only [MapType.packetKey, MapType.SameFlow, bytes_append_inj, bytes_inj]
  | srcAndPort => simp only [MapType.packetKey, MapType.SameFlow, bytes_append_inj, putBE_port]
  | srcPortList =>
    simp only [MapType.packetKey, MapType.SameFlow, List.append_assoc, bytes_append_inj, and_true]
  | protocolPort => simp only [MapType.packetKey, MapType.SameFlow, hport, List.cons.injEq, and_true]

/-! ## Agreement -/

/-- A rule for the packet's flow is written under the key of the packet, and so is found by the packets of
    that flow and by no others. -/
def RuleFound (net6 : Net6) (t : MapType) (src dst protocol : String) (p : PacketAddress) : Prop :=
  ∀ now ttl, ∃ u, ebpfRuleAdd net6 now t.number (t.params src dst p.dport.toNat protocol) ttl = .ok u ∧
    u.map = t.map ∧ u.key = t.packetKey p ∧ ∀ p', u.key = t.packetKey p' ↔ t.SameFlow p p'

/-- The key that userland writes. -/
def MapType.ruleKey (t : MapType) (p : PacketAddress) : Bytes :=
  match t with
  | .srcAndPort => p.src.bytes ++ putLE 2 p.dport.toNat
  | .srcPortList => p.src.bytes ++ [1, 0] ++ [255, 255]
  | t => t.packetKey p

variable {net6 : Net6} {src dst protocol : String}

/-- A port survives its way through the parameters. -/
theorem uint16_toNat (port : UInt16) : uint16 port.toNat = port := by
  have hlt : port.toNat < 65536 := port.toNat_lt
  rw [uint16, show ((port.toNat : Int) % 65536).toNat = port.toNat by omega, UInt16.ofNat_toNat]

/-- What userland writes for a flow. -/
theorem ebpfRuleAdd_ruleKey (hsrc : IPv4.parse src = some p.src) (hdst : IPv4.parse dst = some p.dst)
    (hprotocol : protocolNumber protocol = .ok p.protocol) (now : UInt64) (ttl : Int) :
    ebpfRuleAdd net6 now t.number (t.params src dst p.dport.toNat protocol) ttl =
      .ok ⟨t.map, t.ruleKey p, now, uint64 ttl⟩ := by
  cases t with
  | whitelist =>
    have h := @ebpfRuleAdd_spp net6 now _ _ _ _ ttl hsrc hdst _ _ hprotocol p.dport.toNat
    rwa [uint16_toNat] at h
  | sdWhitelist => exact ebpfRuleAdd_sdwhitelist hsrc hdst
  | icmpWhitelist => exact ebpfRuleAdd_icmpwhitelist hsrc hdst
  | srcAndPort =>
    have hlt : p.dport.toNat < 65536 := p.dport.toNat_lt
    exact ebpfRuleAdd_srcPort hsrc ⟨by omega, by omega⟩
  | srcPortList => exact ebpfRuleAdd_portList hsrc
  | protocolPort =>
    have h := @ebpfRuleAdd_protocolPort net6 now ttl _ _ hprotocol p.dport.toNat
    rwa [uint16_toNat] at h

/-- Where the two keys are the same. -/
theorem ruleKey_eq_packetKey : t.ruleKey p = t.packetKey p ↔
    t ≠ .srcPortList ∧ (t = .srcAndPort → swapPort p.dport.toNat = p.dport.toNat) := by
  cases t with
  | whitelist | sdWhitelist | icmpWhitelist | protocolPort => simp [MapType.ruleKey]
  | srcAndPort =>
    have hlt : p.dport.toNat < 65536 := p.dport.toNat_lt
    simp only [MapType.ruleKey, MapType.packetKey, bytes_append_inj, true_and, putLE_eq_putBE hlt hlt]
    simp [eq_comm]
  | srcPortList => simp [MapType.ruleKey, MapType.packetKey]

/-- **Rule keys.** Userland and kernel agree on the key of a flow, exactly when the map is not the one for
    port ranges and, in the map for a source and a port, the two bytes of the port are the same. -/
theorem rule_found_iff (hsrc : IPv4.parse src = some p.src) (hdst : IPv4.parse dst = some p.dst)
    (hprotocol : protocolNumber protocol = .ok p.protocol) :
    RuleFound net6 t src dst protocol p ↔
      t ≠ .srcPortList ∧ (t = .srcAndPort → swapPort p.dport.toNat = p.dport.toNat) := by
  rw [← ruleKey_eq_packetKey]
  constructor
  · intro h
    obtain ⟨u, hadd, -, hkey, -⟩ := h 0 0
    rw [ebpfRuleAdd_ruleKey hsrc hdst hprotocol] at hadd
    cases hadd
    exact hkey
  · intro hkey now ttl
    refine ⟨_, ebpfRuleAdd_ruleKey hsrc hdst hprotocol now ttl, rfl, hkey, fun p' => ?_⟩
    rw [hkey, packetKey_inj]

end

/-! ## Samples -/

/-- From the agent to the service's port 443. -/
def webAddress : PacketAddress := ⟨agentIP, webIP, 443, 6⟩

/-- The two addresses of the example. -/
theorem parse_agentIP : IPv4.parse "10.0.0.1" = some agentIP := by decide
/-- The service is at its own. -/
theorem parse_webIP : IPv4.parse "10.1.0.1" = some webIP := by decide

/-- In the map for flows the rule is found. -/
theorem rule_found_sample : RuleFound noNet6 .whitelist "10.0.0.1" "10.1.0.1" "tcp" webAddress :=
  (rule_found_iff parse_agentIP parse_webIP (by decide)).mpr (by decide)

/-- In the map for a source and a port the rule for port 443 is not found. -/
theorem rule_of_port_443_not_found : ¬ ∀ t src dst protocol (p : PacketAddress), IPv4.parse src = some p.src →
    IPv4.parse dst = some p.dst → protocolNumber protocol = .ok p.protocol →
    RuleFound noNet6 t src dst protocol p := by
  intro h
  obtain ⟨u, hadd, -, hkey, -⟩ := h .srcAndPort _ _ "tcp" webAddress parse_agentIP parse_webIP (by decide) 0 0
  rw [ebpfRuleAdd_ruleKey parse_agentIP parse_webIP (by decide)] at hadd
  cases hadd
  exact absurd hkey (by decide)

end OpenNHP.AC
