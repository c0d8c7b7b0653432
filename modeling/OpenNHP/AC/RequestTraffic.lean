/-
  The packets that whole requests let through.

  1. **What is wanted.**  A request is carried out on an AC on which nothing fails, and leaves behind a list of
     rules.  For a packet from one IPv4 address to another: do the rules let it in?  The answer is to be in terms
     of the request (`KnockByIPSets`, `KnockByMaps`, `AccessBy`), so that the two filter modes can be compared.

  2. **The method.**  `Stmt.Grants G s P`: behind the statement `s` the property `G` of the rules holds exactly if
     it did before, or if `P` does.  The rule for a sequence joins the two conditions by "or", that for a loop
     takes them over its items; so the condition of a whole body is read off along the code.  There is one lemma
     for each statement of `HandleAccessControl` and of the temporary-port handlers, in their order, first in
     ipset mode (`section IPSets`) and then in eBPF mode (`section Maps`).

  3. **The two properties.**  In ipset mode the packet is admitted by an entry (`admittedByIPSets`).  In eBPF mode
     a rule was written under one of the packet's keys (`Written`).  What the proof of a whole request needs of
     either is `OpsProperty`.

  4. **The assembly.**  `requestOps_iff` does the pass modes once for both; `admittedByIPSets_request` and
     `written_request` are its two instances.
-/
import OpenNHP.AC.Traffic

namespace OpenNHP.AC

open Inet BigEndian Statement

/-- A request over IPv4: sources and destinations with addresses that parse, and 16-bit ports. -/
structure RequestIPv4 (srcs dsts : List NetAddress) : Prop where
  src_ne : srcs ≠ []
  dst_ne : dsts ≠ []
  src : ∀ src ∈ srcs, ∃ x, IPv4.parse src.ip = some x
  dst : ∀ dst ∈ dsts, ∃ y, IPv4.parse dst.ip = some y
  port : ∀ dst ∈ dsts, 0 ≤ dst.port ∧ dst.port < 65536

/-- What the knock branch lets through in ipset mode. -/
def KnockByIPSets (ipPassMode : Int) (srcs dsts : List NetAddress) (flow : Flow) : Prop :=
  ∃ src ∈ srcs, ∃ dst ∈ dsts, PairByIPSets flow src.ip dst ∨
    ipPassMode = passKnockIPWithRange ∧ RangeByIPSets flow src.ip dst

/-- What the knock branch lets through in eBPF mode. -/
def KnockByMaps (ipPassMode : Int) (srcs dsts : List NetAddress) (flow : Flow) : Prop :=
  ∃ src ∈ srcs, ∃ dst ∈ dsts, PairByMaps flow src.ip dst ∨
    ipPassMode = passKnockIPWithRange ∧ RangeByMaps flow src.ip dst

/-- The rules for TCP and for UDP together. -/
theorem ports_or_iff {flow : Flow} {dst : NetAddress} {P : Prop} :
    dst.forTCP ∧ P ∧ flow.proto = .tcp ∧ PortNamed dst.port flow.dport ∨
      dst.forUDP ∧ P ∧ flow.proto = .udp ∧ PortNamed dst.port flow.dport ↔
    P ∧ dst.names flow.proto ∧ PortNamed dst.port flow.dport := by
  cases hproto : flow.proto with
  | tcp => simp [NetAddress.names]; tauto
  | udp => simp [NetAddress.names]; tauto

/-- The tcp and udp branches of eBPF mode together. -/
theorem maps_or_iff {flow : Flow} {dst : NetAddress} {s : String} :
    (dst.forTCP ∧ (dst.forAny ∧ Between flow s dst.ip ∨ dst.protocol = "tcp" ∧
        Between flow s dst.ip ∧ .tcp = flow.proto ∧ (flow.dport.toNat : Int) = dst.port) ∨
      dst.forUDP ∧ (dst.forAny ∧ Between flow s dst.ip ∨ dst.protocol = "udp" ∧
        Between flow s dst.ip ∧ .udp = flow.proto ∧ (flow.dport.toNat : Int) = dst.port)) ↔
    PairByMaps flow s dst := by
  unfold PairByMaps NetAddress.forTCP NetAddress.forUDP NetAddress.forAny
  cases flow.proto with
  | tcp => simp [Proto.text]; tauto
  | udp => simp [Proto.text]; tauto

/-! ## Ipset mode -/

section IPSets

variable {a : UdpAC} {flow : Flow} {t t' : Int} {src dst : NetAddress} {x y : IPv4}
  (hfilter : a.config.filterMode = filterModeIPTables)
  (hrun : ∀ ops args, a.kernel.runIPSet ops args = true)

include hfilter

/-- The branch that is taken. -/
theorem switchFilter_ipsets (iptables ebpf : Stmt AcState) : switchFilter a iptables ebpf = iptables :=
  if_pos hfilter

include hrun

/-- The rule of a destination for TCP, -/
theorem grants_passTCP_ipsets (hsrc : IPv4.parse src.ip = some x) :
    Stmt.Grants (fun s => admittedByIPSets s.ops flow) (passTCP a t src dst)
      (Between flow src.ip dst.ip ∧ flow.proto = .tcp ∧ PortNamed dst.port flow.dport) := by
  rw [passTCP, switchFilter_ipsets hfilter, ipTypeOf_v4 hsrc]
  exact (grants_ipsetAddOr hrun _ _ _ _ _).congr (by rw [entryCovers_pair, tcpPorts_covers])

/-- for UDP, -/
theorem grants_passUDP_ipsets (hsrc : IPv4.parse src.ip = some x) :
    Stmt.Grants (fun s => admittedByIPSets s.ops flow) (passUDP a t src dst)
      (Between flow src.ip dst.ip ∧ flow.proto = .udp ∧ PortNamed dst.port flow.dport) := by
  rw [passUDP, switchFilter_ipsets hfilter, ipTypeOf_v4 hsrc]
  exact (grants_ipsetAddOr hrun _ _ _ _ _).congr (by rw [entryCovers_pair, udpPorts_covers])

/-- Ping entries let no tcp or udp packet through. -/
theorem grants_passPing_ipsets (hsrc : IPv4.parse src.ip = some x) (dsts : List NetAddress) :
    Stmt.Grants (fun s => admittedByIPSets s.ops flow) (passPing a t src dsts) False := by
  have hloop : Stmt.Grants (fun s => admittedByIPSets s.ops flow) (passPing a t src dsts)
      (∃ dst ∈ dsts, Between flow src.ip dst.ip ∧ False) := by
    refine .forEach fun dst _ => ?_
    rw [switchFilter_ipsets hfilter, ipTypeOf_v4 hsrc]
    exact (grants_ipsetAddOr hrun _ _ _ _ _).congr entryCovers_pair
  exact hloop.congr (by simp)

omit hfilter in
/-- and those of the range. -/
theorem grants_rangeIPTables (hsrc : IPv4.parse src.ip = some x) :
    Stmt.Grants (fun s => admittedByIPSets s.ops flow)
      (rangeIPTables a t' src (IPNet.of x.bytes 25) dst) (RangeByIPSets flow src.ip dst) := by
  have hgrants : Stmt.Grants (fun s => admittedByIPSets s.ops flow)
      (rangeIPTables a t' src (IPNet.of x.bytes 25) dst)
      ((dst.forTCP ∧ Around flow src.ip ∧ flow.proto = .tcp ∧ PortNamed dst.port flow.dport ∨
        dst.forUDP ∧ Around flow src.ip ∧ flow.proto = .udp ∧ PortNamed dst.port flow.dport) ∨
        dst.forPing ∧ Around flow src.ip ∧ False) := by
    rw [rangeIPTables, ipTypeOf_v4 hsrc]
    refine (Stmt.Grants.seq ?_ ?_).seq ?_
    · exact .cond fun _ => (grants_ipsetAddUnchecked hrun _ _ _ _).congr
        (by rw [entryCovers_range _ hsrc, tcpPorts_covers])
    · exact .cond fun _ => (grants_ipsetAddUnchecked hrun _ _ _ _).congr
        (by rw [entryCovers_range _ hsrc, udpPorts_covers])
    · exact .cond fun _ => (grants_ipsetAddUnchecked hrun _ _ _ _).congr (entryCovers_range _ hsrc)
  refine hgrants.congr ?_
  rw [ports_or_iff, RangeByIPSets]
  simp

/-- A source and a destination. -/
theorem grants_passPair_ipsets (dsts : List NetAddress) (hsrc : IPv4.parse src.ip = some x) :
    Stmt.Grants (fun s => admittedByIPSets s.ops flow) (passPair a t t' dsts src dst)
      (PairByIPSets flow src.ip dst ∨
        a.config.ipPassMode = passKnockIPWithRange ∧ RangeByIPSets flow src.ip dst) := by
  have hrange : Stmt.Grants (fun s => admittedByIPSets s.ops flow) (passRange a t t' src dst)
      (a.config.ipPassMode = passKnockIPWithRange ∧ RangeByIPSets flow src.ip dst) := by
    rw [passRange, sourceNet_v4 _ hsrc]
    refine .cond fun _ => ?_
    rw [switchFilter_ipsets hfilter]
    exact grants_rangeIPTables hrun hsrc
  have hgrants : Stmt.Grants (fun s => admittedByIPSets s.ops flow) (passPair a t t' dsts src dst)
      (((dst.forTCP ∧ Between flow src.ip dst.ip ∧ flow.proto = .tcp ∧ PortNamed dst.port flow.dport ∨
        dst.forUDP ∧ Between flow src.ip dst.ip ∧ flow.proto = .udp ∧ PortNamed dst.port flow.dport) ∨
        dst.forPing ∧ False) ∨
        a.config.ipPassMode = passKnockIPWithRange ∧ RangeByIPSets flow src.ip dst) := by
    refine ((Stmt.Grants.seq ?_ ?_).seq ?_).seq hrange
    · exact .cond fun _ => grants_passTCP_ipsets hfilter hrun hsrc
    · exact .cond fun _ => grants_passUDP_ipsets hfilter hrun hsrc
    · exact .cond fun _ => grants_passPing_ipsets hfilter hrun hsrc dsts
  refine hgrants.congr ?_
  rw [ports_or_iff, PairByIPSets]
  simp

/-- All sources and destinations. -/
theorem grants_passKnock_ipsets {srcs dsts : List NetAddress} (h : RequestIPv4 srcs dsts) :
    Stmt.Grants (fun s => admittedByIPSets s.ops flow) (passKnock a t t' srcs dsts)
      (KnockByIPSets a.config.ipPassMode srcs dsts flow) := by
  refine .forEach fun src hsrc => .forEach fun dst _ => ?_
  obtain ⟨x, hx⟩ := h.src src hsrc
  exact grants_passPair_ipsets hfilter hrun dsts hx

end IPSets

/-! ## eBPF mode -/

section Maps

variable {a : UdpAC} {flow : Flow} {t t' : Int} {src dst : NetAddress} {x y : IPv4}

/-- A port that is one survives the conversion. -/
theorem uint16_port (hport : 0 ≤ dst.port ∧ dst.port < 65536) :
    ((uint16 dst.port).toNat : Int) = dst.port := by
  rw [uint16, UInt16.toNat_ofNat']
  omega

/-- And is compared as a number. -/
theorem port_eq_iff (hport : 0 ≤ dst.port ∧ dst.port < 65536) :
    uint16 dst.port = flow.dport ↔ (flow.dport.toNat : Int) = dst.port := by
  rw [← UInt16.toNat_inj]
  have := uint16_port hport
  omega

variable (hfilter : a.config.filterMode = filterModeEbpfXdp)
  (hupdate : ∀ ops u, a.kernel.updateMap ops u = true)

include hfilter

/-- The branch that is taken. -/
theorem switchFilter_maps (iptables ebpf : Stmt AcState) : switchFilter a iptables ebpf = ebpf := by
  rw [switchFilter, hfilter]
  rfl

include hupdate

omit hfilter in
/-- The rule of all packets between two addresses. -/
theorem grants_sdwhitelist {s d : String} (hs : IPv4.parse s = some x) (hd : IPv4.parse d = some y) :
    Stmt.Grants (fun s => Written s.ops flow) (ebpfAddChecked a 2 { srcIP := s, dstIP := d } t)
      (Between flow s d) := by
  refine (grants_ebpfAddChecked hupdate fun now => ebpfRuleAdd_sdwhitelist hs hd).congr ?_
  rw [sd_mem_keys, Between, hs, hd]
  simp

omit hfilter in
/-- The rule of one protocol and port. -/
theorem grants_spp {s : String} (proto : Proto) (hs : IPv4.parse s = some x)
    (hd : IPv4.parse dst.ip = some y) (hport : 0 ≤ dst.port ∧ dst.port < 65536)
    (hprotocol : dst.protocol = proto.text) :
    Stmt.Grants (fun s => Written s.ops flow)
      (ebpfAddChecked a 1 { srcIP := s, dstIP := dst.ip, dstPort := dst.port,
                            protocol := dst.protocol } t)
      (Between flow s dst.ip ∧ proto = flow.proto ∧ (flow.dport.toNat : Int) = dst.port) := by
  have hnumber : protocolNumber dst.protocol = .ok proto.number := by
    rw [hprotocol]
    cases proto <;> rfl
  refine (grants_ebpfAddChecked hupdate fun now => ebpfRuleAdd_spp hs hd hnumber _).congr ?_
  rw [spp_mem_keys, port_eq_iff hport, Between, hs, hd]
  simp
  tauto

/-- The rules of a destination for TCP, with or without a protocol, -/
theorem grants_passTCP_maps (hsrc : IPv4.parse src.ip = some x) (hdst : IPv4.parse dst.ip = some y)
    (hport : 0 ≤ dst.port ∧ dst.port < 65536) :
    Stmt.Grants (fun s => Written s.ops flow) (passTCP a t src dst)
      (dst.forAny ∧ Between flow src.ip dst.ip ∨ dst.protocol = "tcp" ∧ Between flow src.ip dst.ip ∧
        .tcp = flow.proto ∧ (flow.dport.toNat : Int) = dst.port) := by
  rw [passTCP, switchFilter_maps hfilter]
  refine Stmt.Grants.seq ?_ ?_
  · exact .cond fun _ => grants_sdwhitelist hupdate hsrc hdst
  · exact .cond fun hprotocol => grants_spp hupdate .tcp hsrc hdst hport hprotocol

/-- and for UDP. -/
theorem grants_passUDP_maps (hsrc : IPv4.parse src.ip = some x) (hdst : IPv4.parse dst.ip = some y)
    (hport : 0 ≤ dst.port ∧ dst.port < 65536) :
    Stmt.Grants (fun s => Written s.ops flow) (passUDP a t src dst)
      (dst.forAny ∧ Between flow src.ip dst.ip ∨ dst.protocol = "udp" ∧ Between flow src.ip dst.ip ∧
        .udp = flow.proto ∧ (flow.dport.toNat : Int) = dst.port) := by
  rw [passUDP, switchFilter_maps hfilter]
  refine Stmt.Grants.seq ?_ ?_
  · exact .cond fun _ => grants_sdwhitelist hupdate hsrc hdst
  · exact .cond fun hprotocol => grants_spp hupdate .udp hsrc hdst hport hprotocol

/-- No tcp or udp packet has the key of a ping rule. -/
theorem grants_passPing_maps {dsts : List NetAddress} (hsrc : IPv4.parse src.ip = some x)
    (hdsts : ∀ dst ∈ dsts, ∃ y, IPv4.parse dst.ip = some y) :
    Stmt.Grants (fun s => Written s.ops flow) (passPing a t src dsts) False := by
  have hloop : Stmt.Grants (fun s => Written s.ops flow) (passPing a t src dsts)
      (∃ dst ∈ dsts, False) := by
    refine .forEach fun dst hmem => ?_
    obtain ⟨y, hy⟩ := hdsts dst hmem
    rw [switchFilter_maps hfilter]
    exact (grants_ebpfAddChecked hupdate fun now => ebpfRuleAdd_icmpwhitelist hsrc hy).congr
      (iff_false_intro (icmp_not_mem_keys _))
  exact hloop.congr (by simp)

omit hfilter in
/-- One pass over the 128 addresses: the rules of a port, or entries that no packet looks up. -/
theorem grants_rangePorts (hsrc : IPv4.parse src.ip = some x)
    (hport : 0 ≤ dst.port ∧ dst.port < 65536) :
    Stmt.Grants (fun s => Written s.ops flow) (rangePorts a t' (IPNet.of x.bytes 25) dst)
      (Around flow src.ip ∧ dst.port ≠ 0 ∧ dst.port = swapPort flow.dport.toNat) := by
  have hloop : Stmt.Grants (fun s => Written s.ops flow) (rangePorts a t' (IPNet.of x.bytes 25) dst)
      (∃ ip ∈ (IPNet.of x.bytes 25).walk rangeRounds,
        ip = flow.src.bytes ∧ dst.port ≠ 0 ∧ dst.port = swapPort flow.dport.toNat) := by
    refine .forEach fun ip hip => ?_
    obtain ⟨z, rfl, -⟩ := (mem_walk (by decide)).mp hip
    have hz : IPv4.parse (ipString a.net6 z.bytes) = some z := IPv4.parse_text z
    by_cases hzero : dst.port = 0
    · rw [if_neg (not_not.mpr hzero)]
      refine (grants_ebpfAddLogged hupdate fun now => ebpfRuleAdd_portList hz).congr ?_
      exact iff_of_false portList_not_mem_keys fun h => h.2.1 hzero
    · rw [if_pos hzero]
      refine (grants_ebpfAddLogged hupdate fun now => ebpfRuleAdd_srcPort hz hport).congr ?_
      have hval : (UInt16.ofNat dst.port.toNat).toNat = dst.port.toNat := by
        rw [UInt16.toNat_ofNat']
        omega
      rw [← hval, srcPort_mem_keys, hval, bytes_inj, and_iff_right hzero]
      refine and_congr_right fun _ => ?_
      omega
  refine hloop.congr ?_
  constructor
  · rintro ⟨ip, hip, rfl, hrest⟩
    obtain ⟨z, hz, hcontains⟩ := (mem_walk (by decide)).mp hip
    exact ⟨⟨x, hsrc, hz ▸ hcontains⟩, hrest⟩
  · rintro ⟨⟨x', hx', hcontains⟩, hrest⟩
    cases hsrc.symm.trans hx'
    exact ⟨_, (mem_walk (by decide)).mpr ⟨flow.src, rfl, hcontains⟩, rfl, hrest⟩

omit hfilter in
/-- A rule for ping is none for a port. -/
theorem grants_rangePing (hdst : IPv4.parse dst.ip = some y) :
    Stmt.Grants (fun s => Written s.ops flow) (rangePing a t (IPNet.of x.bytes 25) dst) False := by
  have hloop : Stmt.Grants (fun s => Written s.ops flow) (rangePing a t (IPNet.of x.bytes 25) dst)
      (∃ ip ∈ (IPNet.of x.bytes 25).walk rangeRounds, False) := by
    refine .forEach fun ip hip => ?_
    obtain ⟨z, rfl, -⟩ := (mem_walk (by decide)).mp hip
    have hz : IPv4.parse (ipString a.net6 z.bytes) = some z := IPv4.parse_text z
    exact (grants_ebpfAddLogged hupdate fun now => ebpfRuleAdd_icmpwhitelist hz hdst).congr
      (iff_false_intro (icmp_not_mem_keys _))
  exact hloop.congr (by simp)

omit hfilter in
/-- The rules of a range. -/
theorem grants_rangeEbpf (hsrc : IPv4.parse src.ip = some x) (hdst : IPv4.parse dst.ip = some y)
    (hport : 0 ≤ dst.port ∧ dst.port < 65536) :
    Stmt.Grants (fun s => Written s.ops flow) (rangeEbpf a t t' (IPNet.of x.bytes 25) dst)
      (RangeByMaps flow src.ip dst) := by
  have hgrants : Stmt.Grants (fun s => Written s.ops flow)
      (rangeEbpf a t t' (IPNet.of x.bytes 25) dst)
      ((dst.forTCP ∧ Around flow src.ip ∧ dst.port ≠ 0 ∧ dst.port = swapPort flow.dport.toNat ∨
        dst.forUDP ∧ Around flow src.ip ∧ dst.port ≠ 0 ∧ dst.port = swapPort flow.dport.toNat) ∨
        dst.forPing ∧ False) := by
    rw [rangeEbpf, reparsedNet_25]
    refine (Stmt.Grants.seq ?_ ?_).seq ?_
    · exact .cond fun _ => grants_rangePorts hupdate hsrc hport
    · exact .cond fun _ => grants_rangePorts hupdate hsrc hport
    · exact .cond fun _ => grants_rangePing hupdate hdst
  refine hgrants.congr ?_
  rw [RangeByMaps]
  tauto

/-- A source and a destination. -/
theorem grants_passPair_maps {srcs dsts : List NetAddress} (h : RequestIPv4 srcs dsts)
    (hsrc : src ∈ srcs) (hdst : dst ∈ dsts) :
    Stmt.Grants (fun s => Written s.ops flow) (passPair a t t' dsts src dst)
      (PairByMaps flow src.ip dst ∨
        a.config.ipPassMode = passKnockIPWithRange ∧ RangeByMaps flow src.ip dst) := by
  obtain ⟨x, hx⟩ := h.src src hsrc
  obtain ⟨y, hy⟩ := h.dst dst hdst
  have hport := h.port dst hdst
  have hrange : Stmt.Grants (fun s => Written s.ops flow) (passRange a t t' src dst)
      (a.config.ipPassMode = passKnockIPWithRange ∧ RangeByMaps flow src.ip dst) := by
    rw [passRange, sourceNet_v4 _ hx]
    refine .cond fun _ => ?_
    rw [switchFilter_maps hfilter]
    exact grants_rangeEbpf hupdate hx hy hport
  have hgrants : Stmt.Grants (fun s => Written s.ops flow) (passPair a t t' dsts src dst)
      (((dst.forTCP ∧ (dst.forAny ∧ Between flow src.ip dst.ip ∨ dst.protocol = "tcp" ∧
          Between flow src.ip dst.ip ∧ .tcp = flow.proto ∧ (flow.dport.toNat : Int) = dst.port) ∨
        dst.forUDP ∧ (dst.forAny ∧ Between flow src.ip dst.ip ∨ dst.protocol = "udp" ∧
          Between flow src.ip dst.ip ∧ .udp = flow.proto ∧ (flow.dport.toNat : Int) = dst.port)) ∨
        dst.forPing ∧ False) ∨
        a.config.ipPassMode = passKnockIPWithRange ∧ RangeByMaps flow src.ip dst) := by
    refine ((Stmt.Grants.seq ?_ ?_).seq ?_).seq hrange
    · exact .cond fun _ => grants_passTCP_maps hfilter hupdate hx hy hport
    · exact .cond fun _ => grants_passUDP_maps hfilter hupdate hx hy hport
    · exact .cond fun _ => grants_passPing_maps hfilter hupdate hx h.dst
  refine hgrants.congr ?_
  rw [maps_or_iff]
  simp

/-- All sources and destinations. -/
theorem grants_passKnock_maps {srcs dsts : List NetAddress} (h : RequestIPv4 srcs dsts) :
    Stmt.Grants (fun s => Written s.ops flow) (passKnock a t t' srcs dsts)
      (KnockByMaps a.config.ipPassMode srcs dsts flow) :=
  .forEach fun _ hsrc => .forEach fun _ hdst => grants_passPair_maps hfilter hupdate h hsrc hdst

end Maps

/-! ## Temporary ports -/

/-- The packets to the temporary port that the AC has opened. -/
def ToTempPort (a : UdpAC) (dst : NetAddress) (flow : Flow) : Prop :=
  ∃ ip, parseNetIP a.net6 dst.ip = some ip ∧ a.listenTCP ip = some flow.dport.toNat

section PreAccess

variable {a : UdpAC} {G : AcState → Prop} {t' : Int} {dst : NetAddress} {y : IPv4} {flow : Flow}

/-- A test that does not fail admits nothing. -/
theorem grants_failIf {b : Prop} [Decidable b] (h : ¬ b) (e : AcError) :
    Stmt.Grants G (failIf b e) False := by
  rw [failIf, Stmt.cond, if_neg h]
  exact Stmt.grants_skip

/-- Opening a temporary port, from what its two additions let through. -/
theorem grants_preAccess (hu : Undisturbed a) (hdst : IPv4.parse dst.ip = some y)
    (hG : ∀ s s', s.ops = s'.ops → (G s ↔ G s'))
    (hadd : ∀ port : Nat, port < 65536 →
      Stmt.Grants G (passTempPort a t' .v4 (.tcp port) "tcp" port)
        (flow.proto = .tcp ∧ flow.dport.toNat = port) ∧
      Stmt.Grants G (passTempPort a t' .v4 (.udp port) "udp" port)
        (flow.proto = .udp ∧ flow.dport.toNat = port)) :
    Stmt.Grants G (preAccess a t' dst) (ToTempPort a dst flow) := by
  obtain ⟨port, hlisten, -, hlt⟩ := hu.listenTCP y.bytes
  obtain ⟨htcp, hudp⟩ := hadd port hlt
  have hip : parseNetIP a.net6 dst.ip = some y.bytes := parseNetIP_v4 hdst
  have hgrants : Stmt.Grants G (preAccess a t' dst)
      (False ∨ (flow.proto = .tcp ∧ flow.dport.toNat = port) ∨ False ∨ False ∨
        (flow.proto = .udp ∧ flow.dport.toNat = port) ∨ False) := by
    rw [preAccess, hip]
    dsimp only
    rw [hlisten]
    dsimp only
    rw [ipTypeOf_v4 hdst]
    have hno : ∀ b : Bool, b = true → ¬ b = false := by rintro b rfl; decide
    refine (grants_failIf (hno _ (hu.resolveTCPAddr port)) _).seq (htcp.seq
      ((grants_failIf (hno _ (hu.listenUDP _ _)) _).seq
        ((grants_failIf (hno _ (hu.resolveUDPAddr port)) _).seq (hudp.seq ?_))))
    exact Stmt.grants_assign fun s => hG _ _ rfl
  refine hgrants.congr ?_
  have hport : ToTempPort a dst flow ↔ flow.dport.toNat = port := by
    constructor
    · rintro ⟨ip, hip', hlisten'⟩
      rw [hip] at hip'
      cases hip'
      rw [hlisten] at hlisten'
      exact (Option.some_inj.mp hlisten').symm
    · rintro rfl
      exact ⟨y.bytes, hip, hlisten⟩
  rw [hport]
  cases flow.proto <;> simp

/-- A temporary port, open to everyone, -/
theorem grants_passTempPort_ipsets (hfilter : a.config.filterMode = filterModeIPTables)
    (hrun : ∀ ops args, a.kernel.runIPSet ops args = true) {ports : PortSpec} {protocol : String}
    {port : Nat} :
    Stmt.Grants (fun s => admittedByIPSets s.ops flow) (passTempPort a t' .v4 ports protocol port)
      (ports.covers flow) := by
  have hgrants : Stmt.Grants (fun s => admittedByIPSets s.ops flow)
      (passTempPort a t' .v4 ports protocol port)
      (EntryCovers flow .v4 4 (.netPort lowerHalf ports) ∨
        EntryCovers flow .v4 4 (.netPort upperHalf ports)) := by
    rw [passTempPort, switchFilter_ipsets hfilter]
    exact (grants_ipsetAddOr hrun _ _ _ _ _).seq (grants_ipsetAddOr hrun _ _ _ _ _)
  refine hgrants.congr ?_
  have hset : getIpsetName .v4 4 = tempSet := rfl
  rw [EntryCovers, EntryCovers, hset, and_iff_right (.inr rfl), and_iff_right (.inr rfl)]
  constructor
  · rintro (h | h)
    · exact h.2
    · exact h.2
  · intro h
    rcases contains_half flow.src with hlower | hupper
    · exact .inl ⟨hlower, h⟩
    · exact .inr ⟨hupper, h⟩

/-- in either mode. -/
theorem grants_passTempPort_maps (hfilter : a.config.filterMode = filterModeEbpfXdp)
    (hupdate : ∀ ops u, a.kernel.updateMap ops u = true) (proto : Proto) {ports : PortSpec} {port : Nat}
    (hport : port < 65536) :
    Stmt.Grants (fun s => Written s.ops flow) (passTempPort a t' .v4 ports proto.text port)
      (flow.proto = proto ∧ flow.dport.toNat = port) := by
  have hnumber : protocolNumber proto.text = .ok proto.number := by cases proto <;> rfl
  rw [passTempPort, switchFilter_maps hfilter]
  refine (grants_ebpfAddChecked hupdate fun now => ebpfRuleAdd_protocolPort hnumber _).congr ?_
  have hval : (uint16 (port : Int)).toNat = port := by
    rw [uint16, UInt16.toNat_ofNat']
    omega
  rw [protocolPort_mem_keys, ← UInt16.toNat_inj, hval]
  constructor
  · rintro ⟨h, rfl⟩
    exact ⟨rfl, h.symm⟩
  · rintro ⟨rfl, h⟩
    exact ⟨h.symm, rfl⟩

end PreAccess

/-! ## The handlers of the temporary ports -/

/-- What the tcp handler lets through in ipset mode, for an access message from `src`. -/
def TcpAccessByIPSets (src : String) (dsts : List NetAddress) (flow : Flow) : Prop :=
  ∃ dst ∈ dsts, Between flow src dst.ip ∧ flow.proto = .tcp ∧ PortNamed dst.port flow.dport

/-- What the tcp handler lets through in eBPF mode. -/
def TcpAccessByMaps (src : String) (dsts : List NetAddress) (flow : Flow) : Prop :=
  ∃ dst ∈ dsts, Between flow src dst.ip

/-- What the udp handler lets through in ipset mode. -/
def UdpAccessByIPSets (src : String) (dsts : List NetAddress) (flow : Flow) : Prop :=
  ∃ dst ∈ dsts, dst.forUDP ∧ Between flow src dst.ip ∧ flow.proto = .udp ∧
    PortNamed dst.port flow.dport

/-- What the udp handler lets through in eBPF mode. -/
def UdpAccessByMaps (src : String) (dsts : List NetAddress) (flow : Flow) : Prop :=
  ∃ dst ∈ dsts, dst.forUDP ∧ (dst.forAny ∧ Between flow src dst.ip ∨ dst.protocol = "udp" ∧
    Between flow src dst.ip ∧ .udp = flow.proto ∧ (flow.dport.toNat : Int) = dst.port)

section TempAccess

variable {a : UdpAC} {t : Int} {src : String} {x : IPv4} {dsts : List NetAddress} {flow : Flow}

section IPSets

variable (hfilter : a.config.filterMode = filterModeIPTables)
  (hrun : ∀ ops args, a.kernel.runIPSet ops args = true)

include hfilter hrun

/-- What the handlers of the temporary ports open: the one for TCP, -/
theorem grants_tcpTempAccess_ipsets :
    Stmt.Grants (fun s => admittedByIPSets s.ops flow) (tcpTempAccess a t src .v4 dsts)
      (TcpAccessByIPSets src dsts flow) := by
  refine .forEach fun dst _ => ?_
  rw [switchFilter_ipsets hfilter]
  exact (grants_ipsetAddOr hrun _ _ _ _ _).congr (by rw [entryCovers_pair, tcpPorts_covers])

/-- the one for UDP, -/
theorem grants_udpTempAccess_ipsets :
    Stmt.Grants (fun s => admittedByIPSets s.ops flow) (udpTempAccess a t src .v4 dsts)
      (UdpAccessByIPSets src dsts flow) := by
  refine .forEach fun dst _ => ?_
  rw [switchFilter_ipsets hfilter, switchFilter_ipsets hfilter]
  have hport : Stmt.Grants (fun s => admittedByIPSets s.ops flow)
      (ipsetAddReturning a .v4 1 t (.srcPortDst src (udpPorts dst.port) dst.ip))
      (Between flow src dst.ip ∧ flow.proto = .udp ∧ PortNamed dst.port flow.dport) :=
    (grants_ipsetAddOr hrun _ _ _ _ _).congr (by rw [entryCovers_pair, udpPorts_covers])
  have hping : Stmt.Grants (fun s => admittedByIPSets s.ops flow)
      (ipsetAddDropped a .v4 1 t (.srcPortDst src .icmpEcho dst.ip)) (Between flow src dst.ip ∧ False) :=
    (grants_ipsetAddDropped hrun _ _ _ _).congr entryCovers_pair
  exact (Stmt.Grants.seq (.cond fun _ => hport) (.cond fun _ => hping)).congr (by simp)

end IPSets

section Maps

variable (hfilter : a.config.filterMode = filterModeEbpfXdp)
  (hupdate : ∀ ops u, a.kernel.updateMap ops u = true) (hsrc : IPv4.parse src = some x)
  (hdsts : ∀ dst ∈ dsts, ∃ y, IPv4.parse dst.ip = some y)

include hfilter hupdate hsrc hdsts

/-- and both in the other mode. -/
theorem grants_tcpTempAccess_maps (ipType : IPType) :
    Stmt.Grants (fun s => Written s.ops flow) (tcpTempAccess a t src ipType dsts)
      (TcpAccessByMaps src dsts flow) := by
  refine .forEach fun dst hdst => ?_
  obtain ⟨y, hy⟩ := hdsts dst hdst
  rw [switchFilter_maps hfilter]
  exact grants_sdwhitelist hupdate hsrc hy

/-- Here the ports have to be ports. -/
theorem grants_udpTempAccess_maps (ipType : IPType)
    (hport : ∀ dst ∈ dsts, 0 ≤ dst.port ∧ dst.port < 65536) :
    Stmt.Grants (fun s => Written s.ops flow) (udpTempAccess a t src ipType dsts)
      (UdpAccessByMaps src dsts flow) := by
  refine .forEach fun dst hdst => ?_
  obtain ⟨y, hy⟩ := hdsts dst hdst
  rw [switchFilter_maps hfilter, switchFilter_maps hfilter]
  have hports : Stmt.Grants (fun s => Written s.ops flow)
      ((Stmt.cond dst.forAny (ebpfAddChecked a 2 { srcIP := src, dstIP := dst.ip } t)).seq
       (Stmt.cond (dst.protocol = "udp")
        (ebpfAddChecked a 1 { srcIP := src, dstIP := dst.ip, dstPort := dst.port,
                              protocol := dst.protocol } t)))
      (dst.forAny ∧ Between flow src dst.ip ∨ dst.protocol = "udp" ∧ Between flow src dst.ip ∧
        .udp = flow.proto ∧ (flow.dport.toNat : Int) = dst.port) :=
    Stmt.Grants.seq (.cond fun _ => grants_sdwhitelist hupdate hsrc hy)
      (.cond fun hprotocol => grants_spp hupdate .udp hsrc hy (hport dst hdst) hprotocol)
  have hping : Stmt.Grants (fun s => Written s.ops flow)
      (ebpfAddChecked a 3 { srcIP := src, dstIP := dst.ip } t) False :=
    (grants_ebpfAddChecked hupdate fun now => ebpfRuleAdd_icmpwhitelist hsrc hy).congr
      (iff_false_intro (icmp_not_mem_keys _))
  exact (Stmt.Grants.seq (.cond fun _ => hports) (.cond fun _ => hping)).congr (by simp)

end Maps

end TempAccess

/-! ## Whole requests -/

/-- From where the handlers of the temporary ports got an access message with a valid token. -/
structure TempAccess where
  tcp : Option IPv4
  udp : Option IPv4

/-- The operations of a request and of the handlers it has started. -/
def requestOps (a : UdpAC) (srcs dsts : List NetAddress) (openTimeSec : Int) (access : TempAccess) :
    List RuleOp :=
  (handleAccessControl a srcs dsts openTimeSec {}).ops ++
    match withDefaultIp a.config dsts with
    | [] => []
    | dst :: rest =>
      if a.config.ipPassMode = passPreAccessIP then
        (match access.tcp with
          | none => []
          | some x => tcpTempAccessHandler a openTimeSec x.text dst rest) ++
        (match access.udp with
          | none => []
          | some x => udpTempAccessHandler a openTimeSec x.text dst rest)
      else []

/-- What the handlers let through, each for the address it got its message from. -/
def AccessBy (tcpBy udpBy : String → List NetAddress → Flow → Prop) (access : TempAccess)
    (dsts : List NetAddress) (flow : Flow) : Prop :=
  (∃ x, access.tcp = some x ∧ tcpBy x.text dsts flow) ∨
    ∃ x, access.udp = some x ∧ udpBy x.text dsts flow

section Whole

variable {a : UdpAC} {t : Int} {srcs dsts : List NetAddress} {access : TempAccess} {flow : Flow}

/-- A property of the operations that holds of a concatenation where it holds of a part. -/
structure OpsProperty (P : List RuleOp → Prop) : Prop where
  nil : ¬ P []
  append : ∀ ops ops', P (ops ++ ops') ↔ P ops ∨ P ops'

/-- More entries admit more. -/
theorem opsProperty_ipsets (flow : Flow) : OpsProperty fun ops => admittedByIPSets ops flow where
  nil := by rintro ⟨set, entry, expire, hmem, -⟩; cases hmem
  append ops ops' := by simp only [admittedByIPSets, List.mem_append, or_and_right, exists_or]

/-- More rules write more. -/
theorem opsProperty_written (flow : Flow) : OpsProperty fun ops => Written ops flow where
  nil := by rintro ⟨k, -, u, hmem, -⟩; cases hmem
  append ops ops' := by
    simp only [Written, List.mem_append, or_and_right, and_or_left, exists_or]

/-- What a statement adds to an empty state is what it grants. -/
theorem OpsProperty.start {P : List RuleOp → Prop} (hP : OpsProperty P) {p : Stmt AcState} {A : Prop}
    (h : Stmt.Grants (fun s => P s.ops) p A) (artMsg : ACOpsResultMsg) :
    P (p (.start artMsg)).state.ops ↔ A := by
  obtain ⟨s', hs', hiff⟩ := h (.start artMsg)
  have hnil : ¬ P (AcState.start artMsg).ops := hP.nil
  rw [hs']
  exact hiff.trans (or_iff_right hnil)

/-- The body of a request, from what its pass mode grants. -/
theorem grants_carryOut {G : AcState → Prop} (hG : ∀ s s', s.ops = s'.ops → (G s ↔ G s'))
    (hu : Undisturbed a) (srcs dsts : List NetAddress) (dst : NetAddress) {A : Prop}
    (h : Stmt.Grants G (if a.config.ipPassMode = passPreAccessIP then preAccess a (tempOpenTime t) dst
      else passKnock a t (tempOpenTime t) srcs dsts) A) :
    Stmt.Grants G (carryOut a srcs dst dsts t) A := by
  have hfail : ¬ (a.config.filterMode = filterModeIPTables ∧ a.ipset = false) := by
    rw [hu.ipset]
    simp
  have hgrants := (grants_failIf (G := G) hfail .acIPSetNotFound).seq
    (h.seq (Stmt.grants_assign fun s => hG (AcState.succeed t s) s rfl))
  exact hgrants.congr (by simp)

/-- What a request lets through, from what its parts let through: the rules of the knock, or the
    temporary port and the handlers behind it. -/
def RequestBy (knockBy : Int → List NetAddress → List NetAddress → Flow → Prop)
    (tcpBy udpBy : String → List NetAddress → Flow → Prop) (a : UdpAC) (srcs dsts : List NetAddress)
    (access : TempAccess) (flow : Flow) : Prop :=
  if a.config.ipPassMode = passPreAccessIP then
    (∃ dst, dsts.head? = some dst ∧ ToTempPort a dst flow) ∨ AccessBy tcpBy udpBy access dsts flow
  else knockBy a.config.ipPassMode srcs dsts flow

/-- A whole request, for either property: what it needs is what each of the three pass modes grants. -/
theorem requestOps_iff {P : List RuleOp → Prop} (hP : OpsProperty P) (hu : Undisturbed a)
    (h : RequestIPv4 srcs (withDefaultIp a.config dsts))
    {knockBy : Int → List NetAddress → List NetAddress → Flow → Prop}
    {tcpBy udpBy : String → List NetAddress → Flow → Prop}
    (hknock : Stmt.Grants (fun s => P s.ops)
      (passKnock a t (tempOpenTime t) srcs (withDefaultIp a.config dsts))
      (knockBy a.config.ipPassMode srcs (withDefaultIp a.config dsts) flow))
    (hpre : ∀ dst y, IPv4.parse dst.ip = some y → Stmt.Grants (fun s => P s.ops)
      (preAccess a (tempOpenTime t) dst) (ToTempPort a dst flow))
    (htcp : ∀ x : IPv4, Stmt.Grants (fun s => P s.ops)
      (tcpTempAccess a t x.text .v4 (withDefaultIp a.config dsts))
      (tcpBy x.text (withDefaultIp a.config dsts) flow))
    (hudp : ∀ x : IPv4, Stmt.Grants (fun s => P s.ops)
      (udpTempAccess a t x.text .v4 (withDefaultIp a.config dsts))
      (udpBy x.text (withDefaultIp a.config dsts) flow)) :
    P (requestOps a srcs dsts t access) ↔
      RequestBy knockBy tcpBy udpBy a srcs (withDefaultIp a.config dsts) access flow := by
  have hops : ∀ s s' : AcState, s.ops = s'.ops → (P s.ops ↔ P s'.ops) := by
    intro s s' heq
    rw [heq]
  unfold requestOps handleAccessControl
  generalize withDefaultIp a.config dsts = dsts' at *
  obtain ⟨src, srcs, rfl⟩ := List.exists_cons_of_ne_nil h.src_ne
  obtain ⟨dst, rest, rfl⟩ := List.exists_cons_of_ne_nil h.dst_ne
  obtain ⟨y, hy⟩ := h.dst dst List.mem_cons_self
  dsimp only
  rw [hP.append, RequestBy]
  -- Pre-access makes rules in the request and in the two handlers of its ports; the other modes in the request
  -- alone.
  by_cases hmode : a.config.ipPassMode = passPreAccessIP
  · have hbody := hP.start (grants_carryOut hops hu (src :: srcs) (dst :: rest) dst
      (A := ToTempPort a dst flow) (by rw [if_pos hmode]; exact hpre dst y hy)) {}
    rw [hbody, if_pos hmode, if_pos hmode, hP.append, AccessBy]
    refine or_congr (by simp) (or_congr ?_ ?_)
    · cases access.tcp with
      | none => exact iff_of_false hP.nil (by simp)
      | some x =>
        have hhandler := hP.start (htcp x) {}
        rw [← ipTypeOf_v4 hy] at hhandler
        exact hhandler.trans (by simp)
    · cases access.udp with
      | none => exact iff_of_false hP.nil (by simp)
      | some x =>
        have hhandler := hP.start (hudp x) {}
        rw [← ipTypeOf_v4 hy] at hhandler
        exact hhandler.trans (by simp)
  · have hbody := hP.start (grants_carryOut hops hu (src :: srcs) (dst :: rest) dst
      (A := knockBy a.config.ipPassMode (src :: srcs) (dst :: rest) flow)
      (by rw [if_neg hmode]; exact hknock)) {}
    rw [hbody, if_neg hmode, if_neg hmode]
    exact or_iff_left hP.nil

/-- The packets that the ipset entries of a request let through. -/
theorem admittedByIPSets_request (hfilter : a.config.filterMode = filterModeIPTables)
    (hu : Undisturbed a) (h : RequestIPv4 srcs (withDefaultIp a.config dsts)) :
    admittedByIPSets (requestOps a srcs dsts t access) flow ↔
      RequestBy KnockByIPSets TcpAccessByIPSets UdpAccessByIPSets a srcs
        (withDefaultIp a.config dsts) access flow := by
  refine requestOps_iff (opsProperty_ipsets flow) hu h ?_ ?_ ?_ ?_
  · exact grants_passKnock_ipsets hfilter hu.runIPSet h
  · intro dst y hy
    refine grants_preAccess hu hy (fun s s' heq => by rw [heq]) fun port _ => ⟨?_, ?_⟩
    · exact (grants_passTempPort_ipsets hfilter hu.runIPSet).congr (by simp [PortSpec.covers])
    · exact (grants_passTempPort_ipsets hfilter hu.runIPSet).congr (by simp [PortSpec.covers])
  · exact fun x => grants_tcpTempAccess_ipsets hfilter hu.runIPSet
  · exact fun x => grants_udpTempAccess_ipsets hfilter hu.runIPSet

/-- The packets that have a key in the maps after a request. -/
theorem written_request (hfilter : a.config.filterMode = filterModeEbpfXdp)
    (hu : Undisturbed a) (h : RequestIPv4 srcs (withDefaultIp a.config dsts)) :
    Written (requestOps a srcs dsts t access) flow ↔
      RequestBy KnockByMaps TcpAccessByMaps UdpAccessByMaps a srcs
        (withDefaultIp a.config dsts) access flow := by
  refine requestOps_iff (opsProperty_written flow) hu h ?_ ?_ ?_ ?_
  · exact grants_passKnock_maps hfilter hu.updateMap h
  · intro dst y hy
    refine grants_preAccess hu hy (fun s s' heq => by rw [heq]) fun port hport => ⟨?_, ?_⟩
    · exact grants_passTempPort_maps hfilter hu.updateMap .tcp hport
    · exact grants_passTempPort_maps hfilter hu.updateMap .udp hport
  · exact fun x => grants_tcpTempAccess_maps hfilter hu.updateMap (IPv4.parse_text x) h.dst _
  · exact fun x => grants_udpTempAccess_maps hfilter hu.updateMap (IPv4.parse_text x) h.dst _ h.port

end Whole

end OpenNHP.AC
