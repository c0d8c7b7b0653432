/-
  The packets that a request lets through, in each of the two filter modes.

  1. **Admission.**  `admittedByIPSets ops flow`: an entry among the operations, in one of the two sets that the
     firewall rules ask, covers the flow.  `Written ops flow`: among the operations a rule was written under one
     of the keys that the XDP program looks the flow up by; at time 0, when nothing has expired, the program
     passes the flow exactly then (`admittedByMaps_iff`).

  2. **The method.**  Every operation is taken to succeed (`Undisturbed`).  A statement of `HandleAccessControl`
     then always goes on, and what it adds to the admitted packets is a proposition about the packet
     (`Statement.Stmt.Grants`).  This module has it for the single operations; `RequestTraffic` goes on to whole
     requests.

  3. **Keys and ports.**  Which of a flow's keys a rule's key is comes down to arithmetic of bytes: addresses are
     equal when their bytes are, ports in network order when they are the same port, ports in the other order when
     the two bytes are swapped (`swapPort`).  A key for echo requests or for a range of ports is no key of a flow.
-/
import OpenNHP.AC.Xdp

namespace OpenNHP.AC

open Inet BigEndian Statement

/-! ## Admission -/

/-- An entry of a set that the packet filter matches lets the packet through. -/
def admittedByIPSets (ops : List RuleOp) (flow : Flow) : Prop :=
  ∃ set entry expire, .ipset set entry expire ∈ ops ∧ (set = defaultSet ∨ set = tempSet) ∧
    entry.covers flow

/-- One of the packet's keys has been written. -/
def Written (ops : List RuleOp) (flow : Flow) : Prop :=
  ∃ k ∈ flow.keys [], ∃ u, .ebpf u ∈ ops ∧ u.map = k.1 ∧ u.key = k.2

/-- Where nothing has expired, the program passes what was written. -/
theorem admittedByMaps_iff {ops : List RuleOp} {now : UInt64} (h : Unexpired ops now) (flow : Flow) :
    admittedByMaps ops now flow ↔ Written ops flow := by
  constructor
  · intro hadmitted
    exact (checkRules_pass h rfl).mp (hadmitted [] fun _ => none)
  · intro hwritten sport connTrack
    exact (checkRules_pass h rfl).mpr hwritten

/-- Every operation of the AC succeeds. -/
structure Undisturbed (a : UdpAC) : Prop where
  ipset : a.ipset = true
  runIPSet : ∀ ops args, a.kernel.runIPSet ops args = true
  updateMap : ∀ ops u, a.kernel.updateMap ops u = true
  listenTCP : ∀ ip, ∃ port, a.listenTCP ip = some port ∧ 0 < port ∧ port < 65536
  resolveTCPAddr : ∀ port, a.resolveTCPAddr port = true
  listenUDP : ∀ ip port, a.listenUDP ip port = true
  resolveUDPAddr : ∀ port, a.resolveUDPAddr port = true

/-! ## Single operations -/

section Single

variable {a : UdpAC} {flow : Flow}

/-- What an ipset addition lets through. -/
def EntryCovers (flow : Flow) (ipType : IPType) (t : Nat) (entry : Entry) : Prop :=
  (getIpsetName ipType t = defaultSet ∨ getIpsetName ipType t = tempSet) ∧ entry.covers flow

/-- One more entry, -/
theorem admittedByIPSets_append (ops : List RuleOp) (set : String) (entry : Entry) (expire : Int)
    (flow : Flow) :
    admittedByIPSets (ops ++ [.ipset set entry expire]) flow ↔
      admittedByIPSets ops flow ∨ (set = defaultSet ∨ set = tempSet) ∧ entry.covers flow := by
  constructor
  · rintro ⟨set', entry', expire', hmem, hset, hcovers⟩
    rcases List.mem_append.mp hmem with hmem | hmem
    · exact .inl ⟨set', entry', expire', hmem, hset, hcovers⟩
    · cases List.mem_singleton.mp hmem
      exact .inr ⟨hset, hcovers⟩
  · rintro (⟨set', entry', expire', hmem, h⟩ | h)
    · exact ⟨set', entry', expire', List.mem_append_left _ hmem, h⟩
    · exact ⟨set, entry, expire, List.mem_append_right _ (List.mem_singleton.mpr rfl), h⟩

/-- and one more rule of a map. -/
theorem written_append (ops : List RuleOp) (u : MapUpdate) (flow : Flow) :
    Written (ops ++ [.ebpf u]) flow ↔ Written ops flow ∨ (u.map, u.key) ∈ flow.keys [] := by
  constructor
  · rintro ⟨k, hk, u', hmem, hmap, hkey⟩
    rcases List.mem_append.mp hmem with hmem | hmem
    · exact .inl ⟨k, hk, u', hmem, hmap, hkey⟩
    · cases List.mem_singleton.mp hmem
      exact .inr (by rw [hmap, hkey]; exact hk)
  · rintro (⟨k, hk, u', hmem, h⟩ | h)
    · exact ⟨k, hk, u', List.mem_append_left _ hmem, h⟩
    · exact ⟨_, h, u, List.mem_append_right _ (List.mem_singleton.mpr rfl), rfl, rfl⟩

section IPSet

variable (hrun : ∀ ops args, a.kernel.runIPSet ops args = true)

include hrun

/-- The operation succeeds. -/
theorem ipsetOp_eq (ipType : IPType) (t : Nat) (expire : Int) (entry : Entry) (s : AcState) :
    ipsetOp a ipType t expire entry s =
      some { s with ops := s.ops ++ [.ipset (getIpsetName ipType t) entry expire] } :=
  if_pos (hrun _ _)

/-- An entry lets in what it covers, however its error is treated: -/
theorem grants_ipsetAddOr (failed : AcState → AcState) (ipType : IPType) (t : Nat) (expire : Int)
    (entry : Entry) :
    Stmt.Grants (fun s => admittedByIPSets s.ops flow) (ipsetAddOr a failed ipType t expire entry)
      (EntryCovers flow ipType t entry) := by
  intro s
  refine ⟨_, by rw [ipsetAddOr, ipsetOp_eq hrun], ?_⟩
  exact admittedByIPSets_append _ _ _ _ _

/-- looked at or not, -/
theorem grants_ipsetAddUnchecked (ipType : IPType) (t : Nat) (expire : Int) (entry : Entry) :
    Stmt.Grants (fun s => admittedByIPSets s.ops flow) (ipsetAddUnchecked a ipType t expire entry)
      (EntryCovers flow ipType t entry) := by
  intro s
  refine ⟨_, by rw [ipsetAddUnchecked, ipsetOp_eq hrun], ?_⟩
  exact admittedByIPSets_append _ _ _ _ _

/-- or dropped. -/
theorem grants_ipsetAddDropped (ipType : IPType) (t : Nat) (expire : Int) (entry : Entry) :
    Stmt.Grants (fun s => admittedByIPSets s.ops flow) (ipsetAddDropped a ipType t expire entry)
      (EntryCovers flow ipType t entry) := by
  intro s
  refine ⟨_, by rw [ipsetAddDropped, ipsetOp_eq hrun, Option.getD_some], ?_⟩
  exact admittedByIPSets_append _ _ _ _ _

end IPSet

section Ebpf

variable (hupdate : ∀ ops u, a.kernel.updateMap ops u = true)

include hupdate

/-- The update succeeds. -/
theorem ebpfOp_eq {mapType ttl : Int} {params : EbpfRuleParams} {m : MapName} {key : Bytes}
    {ttlSec : UInt64} (h : ∀ now, ebpfRuleAdd a.net6 now mapType params ttl = .ok ⟨m, key, now, ttlSec⟩)
    (s : AcState) :
    ebpfOp a mapType params ttl s = .ok { s with ops := s.ops ++
      [.ebpf ⟨m, key, a.kernel.bootTimeNanos s.ops, ttlSec⟩] } := by
  rw [ebpfOp, h]
  exact if_pos (hupdate _ _)

/-- A rule lets in the flows that have its key, -/
theorem grants_ebpfAddChecked {mapType ttl : Int} {params : EbpfRuleParams} {m : MapName} {key : Bytes}
    {ttlSec : UInt64}
    (h : ∀ now, ebpfRuleAdd a.net6 now mapType params ttl = .ok ⟨m, key, now, ttlSec⟩) :
    Stmt.Grants (fun s => Written s.ops flow) (ebpfAddChecked a mapType params ttl)
      ((m, key) ∈ flow.keys []) := by
  intro s
  refine ⟨_, by rw [ebpfAddChecked, ebpfOp_eq hupdate h], ?_⟩
  exact written_append _ _ _

/-- also where the error is logged only. -/
theorem grants_ebpfAddLogged {mapType ttl : Int} {params : EbpfRuleParams} {m : MapName} {key : Bytes}
    {ttlSec : UInt64}
    (h : ∀ now, ebpfRuleAdd a.net6 now mapType params ttl = .ok ⟨m, key, now, ttlSec⟩) :
    Stmt.Grants (fun s => Written s.ops flow) (ebpfAddLogged a mapType params ttl)
      ((m, key) ∈ flow.keys []) := by
  intro s
  refine ⟨_, by rw [ebpfAddLogged, ebpfOp_eq hupdate h], ?_⟩
  exact written_append _ _ _

end Ebpf

end Single

/-! ## The keys of a packet -/

section Keys

variable {flow : Flow} {x y : IPv4}

/-- Bytes of a port in host order where network order is expected. -/
def swapPort (port : Nat) : Nat := port % 256 * 256 + port / 256

/-- The numbers of the protocols differ. -/
theorem Proto.number_inj {p q : Proto} : p.number = q.number ↔ p = q := by
  cases p <;> cases q <;> decide

/-- A port in network order is the port. -/
theorem putBE_dport {port : UInt16} : putBE 2 port.toNat = putBE 2 flow.dport.toNat ↔ port = flow.dport := by
  rw [putBE_port_inj port.toNat_lt flow.dport.toNat_lt, UInt16.toNat_inj]

/-- The bytes of an address are the address. -/
theorem bytes_inj : x.bytes = y.bytes ↔ x = y := ⟨IPv4.bytes_injective, congrArg _⟩

/-- Also at the front of a key. -/
theorem bytes_append_inj {u v : Bytes} : x.bytes ++ u = y.bytes ++ v ↔ x = y ∧ u = v := by
  constructor
  · intro h
    obtain ⟨hxy, huv⟩ := List.append_inj h rfl
    exact ⟨IPv4.bytes_injective hxy, huv⟩
  · rintro ⟨rfl, rfl⟩
    rfl

/-- A port in little-endian order is a port in network order with its bytes swapped. -/
theorem putLE_eq_putBE {p q : Nat} (hp : p < 65536) (hq : q < 65536) :
    putLE 2 p = putBE 2 q ↔ p = swapPort q := by
  have hbytes : ∀ n, putBE 2 n = [UInt8.ofNat (n / 256), UInt8.ofNat n] := fun n => by simp [putBE]
  rw [putLE, hbytes, hbytes, swapPort]
  simp only [List.reverse_cons, List.reverse_nil, List.nil_append, List.cons_append,
    List.cons.injEq, and_true, ← UInt8.toNat_inj, UInt8.toNat_ofNat']
  have hp' : p / 256 % 2 ^ 8 = p / 256 := Nat.mod_eq_of_lt (by omega)
  have hq' : q / 256 % 2 ^ 8 = q / 256 := Nat.mod_eq_of_lt (by omega)
  rw [hp', hq']
  constructor
  · rintro ⟨hlow, hhigh⟩
    omega
  · rintro rfl
    constructor <;> omega

/-- The key of a flow. -/
theorem spp_mem_keys {port : UInt16} {protocol : Proto} :
    (MapName.spp, x.bytes ++ y.bytes ++ putBE 2 port.toNat ++ [protocol.number]) ∈ flow.keys [] ↔
      x = flow.src ∧ y = flow.dst ∧ port = flow.dport ∧ protocol = flow.proto := by
  simp [Flow.keys, whitelistKeys, Flow.tuple, bytes_append_inj, putBE_dport, Proto.number_inj]

/-- The key of two addresses. -/
theorem sd_mem_keys :
    (MapName.sdwhitelist, x.bytes ++ y.bytes) ∈ flow.keys [] ↔ x = flow.src ∧ y = flow.dst := by
  simp [Flow.keys, whitelistKeys, Flow.tuple, bytes_append_inj, bytes_inj]

/-- No flow has a key for ping. -/
theorem icmp_not_mem_keys (key : Bytes) : (MapName.icmpwhitelist, key) ∉ flow.keys [] := by
  simp [Flow.keys, whitelistKeys]

/-- The key of a source and a port has the port in the wrong order. -/
theorem srcPort_mem_keys {port : UInt16} :
    (MapName.srcPort, x.bytes ++ putLE 2 port.toNat) ∈ flow.keys [] ↔
      x = flow.src ∧ port.toNat = swapPort flow.dport.toNat := by
  simp [Flow.keys, whitelistKeys, Flow.tuple, bytes_append_inj,
    putLE_eq_putBE port.toNat_lt flow.dport.toNat_lt]

/-- Userland writes the port range from 1, the program looks it up from 0. -/
theorem portList_not_mem_keys : (MapName.portList, x.bytes ++ [1, 0] ++ [255, 255]) ∉ flow.keys [] := by
  simp [Flow.keys, whitelistKeys, Flow.tuple, IPv4.bytes]

/-- The key of a protocol and a port. -/
theorem protocolPort_mem_keys {port : UInt16} {protocol : Proto} :
    (MapName.protocolPort, putBE 2 port.toNat ++ [protocol.number]) ∈ flow.keys [] ↔
      port = flow.dport ∧ protocol = flow.proto := by
  simp [Flow.keys, whitelistKeys, Flow.tuple, putBE_dport, Proto.number_inj]

end Keys

/-! ## What a source and a destination are about -/

/-- A protocol as a destination names it. -/
def Proto.text : Proto → String
  | .tcp => "tcp"
  | .udp => "udp"

/-- The branch of a protocol is taken for a destination. -/
def NetAddress.names (dst : NetAddress) : Proto → Prop
  | .tcp => dst.forTCP
  | .udp => dst.forUDP

/-- A destination's port in ipset mode: 0 stands for the ports from 1. -/
def PortNamed (port : Int) (dport : UInt16) : Prop :=
  if port = 0 then dport.toNat ≠ 0 else (dport.toNat : Int) = port

/-- The packet goes from the source to the destination. -/
def Between (flow : Flow) (src dst : String) : Prop :=
  IPv4.parse src = some flow.src ∧ IPv4.parse dst = some flow.dst

/-- The packet comes from the 128 addresses around the source. -/
def Around (flow : Flow) (src : String) : Prop :=
  ∃ x, IPv4.parse src = some x ∧ (IPNet.of x.bytes 25).contains flow.src.bytes = true

/-- What a pair lets through in ipset mode. -/
def PairByIPSets (flow : Flow) (src : String) (dst : NetAddress) : Prop :=
  Between flow src dst.ip ∧ dst.names flow.proto ∧ PortNamed dst.port flow.dport

/-- What a pair lets through in eBPF mode. -/
def PairByMaps (flow : Flow) (src : String) (dst : NetAddress) : Prop :=
  Between flow src dst.ip ∧
    (dst.forAny ∨ dst.protocol = flow.proto.text ∧ (flow.dport.toNat : Int) = dst.port)

/-- What the range part lets through in ipset mode. -/
def RangeByIPSets (flow : Flow) (src : String) (dst : NetAddress) : Prop :=
  Around flow src ∧ dst.names flow.proto ∧ PortNamed dst.port flow.dport

/-- What the range part lets through in eBPF mode: the key has no protocol, and its port is in the
    other byte order. -/
def RangeByMaps (flow : Flow) (src : String) (dst : NetAddress) : Prop :=
  Around flow src ∧ (dst.forTCP ∨ dst.forUDP) ∧ dst.port ≠ 0 ∧
    dst.port = swapPort flow.dport.toNat

section Described

variable {flow : Flow} {src dst : String} {x : IPv4} {port : Int}

/-- The ports that a destination names for TCP, -/
theorem tcpPorts_covers : (tcpPorts port).covers flow ↔ flow.proto = .tcp ∧ PortNamed port flow.dport := by
  unfold tcpPorts PortNamed
  split <;> rfl

/-- and for UDP. -/
theorem udpPorts_covers : (udpPorts port).covers flow ↔ flow.proto = .udp ∧ PortNamed port flow.dport := by
  unfold udpPorts PortNamed
  split <;> rfl

/-- An IPv4 address is taken for one. -/
theorem ipTypeOf_v4 (h : IPv4.parse src = some x) : ipTypeOf src = .v4 := if_neg (IPv4.no_colon h)

/-- The entry of a source and a destination. -/
theorem entryCovers_pair {ports : PortSpec} :
    EntryCovers flow .v4 1 (.srcPortDst src ports dst) ↔ Between flow src dst ∧ ports.covers flow := by
  have hset : getIpsetName .v4 1 = defaultSet := rfl
  rw [EntryCovers, hset, and_iff_right (.inl rfl), Between, and_assoc, and_comm (b := ports.covers flow)]
  rfl

/-- The range around an IPv4 address. -/
theorem sourceNet_v4 (net6 : Net6) (h : IPv4.parse src = some x) :
    sourceNet net6 src = some (IPNet.of x.bytes 25) := by
  rw [sourceNet, ipTypeOf_v4 h, h]
  rfl

/-- Its text is parsed as itself. -/
theorem reparsedNet_25 (x : IPv4) : reparsedNet (IPNet.of x.bytes 25) = IPNet.of x.bytes 25 := by
  rw [IPNet.of_25]
  rfl

/-- The network written into an entry is the network of the source. -/
theorem entryCovers_range (net6 : Net6) {ports : PortSpec} (h : IPv4.parse src = some x) :
    EntryCovers flow .v4 4 (.netPort (netSpec net6 (IPNet.of x.bytes 25)) ports) ↔
      Around flow src ∧ ports.covers flow := by
  have hset : getIpsetName .v4 4 = tempSet := rfl
  have hnet : netSpec net6 (IPNet.of x.bytes 25) = .v4 ⟨x.a, x.b, x.c, x.d &&& 128⟩ 25 := by
    rw [IPNet.of_25]
    rfl
  have hmasked : IPNet.of (IPv4.mk x.a x.b x.c (x.d &&& 128)).bytes 25 = IPNet.of x.bytes 25 := by
    have hidem : x.d &&& 128 &&& 128 = x.d &&& 128 :=
      UInt8.toNat_inj.mp (by rw [and_128, and_128]; omega)
    rw [IPNet.of_25, IPNet.of_25, hidem]
  have haround : Around flow src ↔ (IPNet.of x.bytes 25).contains flow.src.bytes = true := by
    constructor
    · rintro ⟨x', hx', hcontains⟩
      cases h.symm.trans hx'
      exact hcontains
    · intro hcontains
      exact ⟨x, h, hcontains⟩
  rw [EntryCovers, hset, and_iff_right (.inr rfl), Entry.covers, hnet, NetSpec.covers, hmasked,
    haround]

end Described

end OpenNHP.AC
