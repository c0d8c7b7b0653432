/-
  Do the two filter modes admit the same traffic?

  1. **The question.**  The same request is carried out once with ipset entries and once with eBPF maps, on an AC
     on which nothing fails (`Undisturbed`).  `SameTraffic`: behind the two runs the filters pass the same
     packets, to the destinations and, in the pre-access mode, to the temporary ports.

  2. **What each side admits.**  `RequestTraffic` has reduced both to statements about addresses, protocols and
     ports: `KnockByIPSets` and `KnockByMaps` for the addresses that knocked, `AccessBy` for those that showed a
     token.  What is left here is to compare them.

  3. **Where they differ.**  A destination without a protocol opens every port in the maps; port 0 means "no port"
     in an ipset entry and the port 0 in a key; the range keys carry the port in the wrong byte order and no
     protocol; and the tcp handler of a temporary port opens everything between two addresses.

  4. **The result.**  `FiltersAgree` is the exact condition under which they agree (`same_traffic_iff`), pass mode
     by pass mode.  One direction compares the two sides packet by packet; the other picks, for a destination that
     breaks the condition, a packet that only one side admits: port 0, or a port with its bytes swapped.
-/
import OpenNHP.AC.RequestTraffic

namespace OpenNHP.AC

open Inet BigEndian

/-- The AC in another filter mode. -/
def UdpAC.withFilter (a : UdpAC) (filterMode : Int) : UdpAC :=
  { a with config := { a.config with filterMode := filterMode } }

/-- While no rule has expired, the ipset entries of a request admit the packets that its maps admit. -/
def SameTraffic (a : UdpAC) (srcs dsts : List NetAddress) (openTimeSec : Int) (access : TempAccess) :
    Prop :=
  ∀ now, Unexpired (requestOps (a.withFilter filterModeEbpfXdp) srcs dsts openTimeSec access) now →
    ∀ flow,
      admittedByIPSets (requestOps (a.withFilter filterModeIPTables) srcs dsts openTimeSec access) flow ↔
      admittedByMaps (requestOps (a.withFilter filterModeEbpfXdp) srcs dsts openTimeSec access) now flow

/-! ## The condition -/

/-- The destination is for tcp or for udp alone. -/
def NetAddress.forOne (dst : NetAddress) : Prop := dst.protocol = "tcp" ∨ dst.protocol = "udp"

/-- Every destination names a protocol, and with tcp or udp a port. -/
def PortsExact (dsts : List NetAddress) : Prop :=
  ∀ dst ∈ dsts, ¬ dst.forAny ∧ (dst.forOne → dst.port ≠ 0)

/-- Every port is also requested with its bytes swapped, for tcp and for udp. -/
def PortsSwapped (dsts : List NetAddress) : Prop :=
  ∀ dst ∈ dsts, dst.forOne → ∀ proto : Proto, ∃ dst' ∈ dsts,
    dst'.protocol = proto.text ∧ dst'.port = swapPort dst.port.toNat

/-- No destination is for any protocol, and a udp destination names a port. -/
def UdpExact (dsts : List NetAddress) : Prop :=
  ∀ dst ∈ dsts, ¬ dst.forAny ∧ (dst.protocol = "udp" → dst.port ≠ 0)

/-- The condition for each pass mode. -/
def FiltersAgree (ipPassMode : Int) (dsts : List NetAddress) (access : TempAccess) : Prop :=
  if ipPassMode = passPreAccessIP then access.tcp = none ∧ (access.udp ≠ none → UdpExact dsts)
  else PortsExact dsts ∧ (ipPassMode = passKnockIPWithRange → PortsSwapped dsts)

/-! ## Pairs -/

section Pairs

variable {flow : Flow} {src : String} {dst : NetAddress}

/-- No entry is for port 0. -/
theorem not_portNamed_zero (port : Int) : ¬ PortNamed port 0 := by
  unfold PortNamed
  split
  · exact fun h => h rfl
  · rename_i hport
    intro h
    exact hport h.symm

/-- A port other than 0 names itself. -/
theorem portNamed_iff {port : Int} (h : port ≠ 0) (dport : UInt16) :
    PortNamed port dport ↔ (dport.toNat : Int) = port := by
  rw [PortNamed, if_neg h]

/-- A destination that is not for any protocol names the one it is for. -/
theorem names_iff (h : ¬ dst.forAny) (proto : Proto) : dst.names proto ↔ dst.protocol = proto.text := by
  unfold NetAddress.forAny at h
  cases proto with
  | tcp => simp only [NetAddress.names, NetAddress.forTCP, Proto.text]; tauto
  | udp => simp only [NetAddress.names, NetAddress.forUDP, Proto.text]; tauto

/-- A protocol that is named is one of the two. -/
theorem forOne_of_text {proto : Proto} (h : dst.protocol = proto.text) : dst.forOne := by
  cases proto with
  | tcp => exact .inl h
  | udp => exact .inr h

/-- Without the names for any protocol, TCP or UDP means one of the two. -/
theorem forOne_iff (h : ¬ dst.forAny) : dst.forTCP ∨ dst.forUDP ↔ dst.forOne := by
  unfold NetAddress.forAny at h
  unfold NetAddress.forTCP NetAddress.forUDP NetAddress.forOne
  tauto

/-- For a destination with a protocol and a port both modes let the same packets of a pair through. -/
theorem pair_iff (hany : ¬ dst.forAny) (hport : dst.forOne → dst.port ≠ 0) :
    PairByIPSets flow src dst ↔ PairByMaps flow src dst := by
  unfold PairByIPSets PairByMaps
  rw [names_iff hany, or_iff_right hany]
  refine and_congr_right fun _ => and_congr_right fun hproto => ?_
  exact portNamed_iff (hport (forOne_of_text hproto)) _

/-- A packet to port 0 that the maps let through shows the difference. -/
theorem exact_of_no_port_zero {x y : IPv4} (hsrc : IPv4.parse src = some x)
    (hdst : IPv4.parse dst.ip = some y)
    (h : ∀ proto, ¬ PairByMaps ⟨x, y, proto, 0⟩ src dst) :
    ¬ dst.forAny ∧ (dst.forOne → dst.port ≠ 0) := by
  refine ⟨fun hany => h .tcp ⟨⟨hsrc, hdst⟩, .inl hany⟩, fun hone hport => ?_⟩
  have hzero : ((0 : UInt16).toNat : Int) = dst.port := hport.symm
  rcases hone with htcp | hudp
  · exact h .tcp ⟨⟨hsrc, hdst⟩, .inr ⟨htcp, hzero⟩⟩
  · exact h .udp ⟨⟨hsrc, hdst⟩, .inr ⟨hudp, hzero⟩⟩

end Pairs

/-! ## The knock branch -/

section Knock

variable {ipPassMode : Int} {srcs dsts : List NetAddress}

/-- No ipset entry of a knock is for port 0. -/
theorem not_knockByIPSets_port_zero (x y : IPv4) (proto : Proto) :
    ¬ KnockByIPSets ipPassMode srcs dsts ⟨x, y, proto, 0⟩ := by
  rintro ⟨src, -, dst, -, h | h⟩
  · exact not_portNamed_zero _ h.2.2
  · exact not_portNamed_zero _ h.2.2.2

/-- The two bytes of a port make a port in the other order. -/
theorem swapPort_lt {p : Nat} (h : p < 65536) : swapPort p < 65536 := by
  unfold swapPort
  omega

/-- And the same port in the order after that. -/
theorem swapPort_swapPort {p : Nat} (h : p < 65536) : swapPort (swapPort p) = p := by
  unfold swapPort
  omega

variable (h : RequestIPv4 srcs dsts)

include h

/-- Where the modes agree, every destination is exact. -/
theorem portsExact_of_agree
    (hagree : ∀ flow, KnockByIPSets ipPassMode srcs dsts flow ↔ KnockByMaps ipPassMode srcs dsts flow) :
    PortsExact dsts := by
  intro dst hdst
  obtain ⟨src, hsrc⟩ := List.exists_mem_of_ne_nil _ h.src_ne
  obtain ⟨x, hx⟩ := h.src src hsrc
  obtain ⟨y, hy⟩ := h.dst dst hdst
  refine exact_of_no_port_zero hx hy fun proto hpair => ?_
  exact not_knockByIPSets_port_zero x y proto ((hagree _).mpr ⟨src, hsrc, dst, hdst, .inl hpair⟩)

/-- Where the modes agree with the range, the ports come with their swapped ones. -/
theorem portsSwapped_of_agree
    (hagree : ∀ flow, KnockByIPSets passKnockIPWithRange srcs dsts flow ↔
      KnockByMaps passKnockIPWithRange srcs dsts flow) : PortsSwapped dsts := by
  have hexact := portsExact_of_agree h hagree
  intro dst hdst hone proto
  obtain ⟨src, hsrc⟩ := List.exists_mem_of_ne_nil _ h.src_ne
  obtain ⟨x, hx⟩ := h.src src hsrc
  obtain ⟨hany, hport⟩ := hexact dst hdst
  have hlt := h.port dst hdst
  -- the range key of `dst` admits the swapped port, from the source itself to anywhere
  have hswap := swapPort_lt (p := dst.port.toNat) (by omega)
  have hval : (UInt16.ofNat (swapPort dst.port.toNat)).toNat = swapPort dst.port.toNat := by
    rw [UInt16.toNat_ofNat']
    exact Nat.mod_eq_of_lt hswap
  have hcontains : (IPNet.of x.bytes 25).contains x.bytes = true :=
    (contains_25 x x).mpr ⟨rfl, rfl, rfl, rfl⟩
  have hmaps : KnockByMaps passKnockIPWithRange srcs dsts
      ⟨x, x, proto, UInt16.ofNat (swapPort dst.port.toNat)⟩ := by
    refine ⟨src, hsrc, dst, hdst, .inr ⟨rfl, ⟨x, hx, hcontains⟩, (forOne_iff hany).mpr hone,
      hport hone, ?_⟩⟩
    show dst.port = (swapPort (UInt16.ofNat (swapPort dst.port.toNat)).toNat : Int)
    rw [hval, swapPort_swapPort (by omega)]
    omega
  obtain ⟨src', -, dst', hdst', hpair⟩ := (hagree _).mpr hmaps
  have hnamed : dst'.names proto ∧
      PortNamed dst'.port (UInt16.ofNat (swapPort dst.port.toNat)) := by
    rcases hpair with hpair | hpair
    · exact hpair.2
    · exact hpair.2.2
  obtain ⟨hany', hport'⟩ := hexact dst' hdst'
  have htext := (names_iff hany' proto).mp hnamed.1
  have hnamed := (portNamed_iff (hport' (forOne_of_text htext)) _).mp hnamed.2
  rw [hval] at hnamed
  exact ⟨dst', hdst', htext, hnamed.symm⟩

omit h in
/-- Where the ports are exact the two sides agree, out of the range mode. -/
theorem knock_iff_of_exact (hmode : ipPassMode ≠ passKnockIPWithRange) (hexact : PortsExact dsts)
    (flow : Flow) :
    KnockByIPSets ipPassMode srcs dsts flow ↔ KnockByMaps ipPassMode srcs dsts flow := by
  unfold KnockByIPSets KnockByMaps
  refine exists_congr fun src => and_congr_right fun _ => exists_congr fun dst =>
    and_congr_right fun hdst => ?_
  rw [pair_iff (hexact dst hdst).1 (hexact dst hdst).2]
  simp [hmode]

omit h in
/-- With the range: exact destinations and swapped ports are enough. -/
theorem knock_iff_of_swapped (hexact : PortsExact dsts) (hswapped : PortsSwapped dsts) (flow : Flow) :
    KnockByIPSets passKnockIPWithRange srcs dsts flow ↔
      KnockByMaps passKnockIPWithRange srcs dsts flow := by
  have hdport : flow.dport.toNat < 65536 := flow.dport.toNat_lt
  constructor
  · rintro ⟨src, hsrc, dst, hdst, hpair | ⟨-, haround, hnames, hnamed⟩⟩
    · exact ⟨src, hsrc, dst, hdst, .inl ((pair_iff (hexact dst hdst).1 (hexact dst hdst).2).mp hpair)⟩
    · obtain ⟨hany, hport⟩ := hexact dst hdst
      have htext := (names_iff hany flow.proto).mp hnames
      have hone := forOne_of_text htext
      have hnamed := (portNamed_iff (hport hone) _).mp hnamed
      obtain ⟨dst', hdst', htext', hswap⟩ := hswapped dst hdst hone flow.proto
      obtain ⟨hany', hport'⟩ := hexact dst' hdst'
      have hone' := forOne_of_text htext'
      refine ⟨src, hsrc, dst', hdst', .inr ⟨rfl, haround, (forOne_iff hany').mpr hone',
        hport' hone', ?_⟩⟩
      rw [hswap, ← hnamed, Int.toNat_natCast]
  · rintro ⟨src, hsrc, dst, hdst, hpair | ⟨-, haround, hnames, hport, hswapEq⟩⟩
    · exact ⟨src, hsrc, dst, hdst, .inl ((pair_iff (hexact dst hdst).1 (hexact dst hdst).2).mpr hpair)⟩
    · obtain ⟨hany, -⟩ := hexact dst hdst
      obtain ⟨dst', hdst', htext', hswap⟩ :=
        hswapped dst hdst ((forOne_iff hany).mp hnames) flow.proto
      obtain ⟨hany', hport'⟩ := hexact dst' hdst'
      refine ⟨src, hsrc, dst', hdst', .inr ⟨rfl, haround, (names_iff hany' _).mpr htext', ?_⟩⟩
      rw [portNamed_iff (hport' (forOne_of_text htext')), hswap, hswapEq, Int.toNat_natCast,
        swapPort_swapPort hdport]

/-- When they agree about who knocked. -/
theorem knock_agree_iff :
    (∀ flow, KnockByIPSets ipPassMode srcs dsts flow ↔ KnockByMaps ipPassMode srcs dsts flow) ↔
      PortsExact dsts ∧ (ipPassMode = passKnockIPWithRange → PortsSwapped dsts) := by
  constructor
  · intro hagree
    refine ⟨portsExact_of_agree h hagree, ?_⟩
    rintro rfl
    exact portsSwapped_of_agree h hagree
  · rintro ⟨hexact, hswapped⟩ flow
    by_cases hmode : ipPassMode = passKnockIPWithRange
    · subst hmode
      exact knock_iff_of_swapped hexact (hswapped rfl) flow
    · exact knock_iff_of_exact hmode hexact flow

end Knock

/-! ## Temporary ports -/

section PreAccess

variable {a : UdpAC} {srcs dsts : List NetAddress} {access : TempAccess}

/-- In ipset mode nothing of a pre-access request is for port 0. -/
theorem not_preAccessByIPSets_port_zero (hu : Undisturbed a) (x y : IPv4) (proto : Proto) :
    ¬ ((∃ dst, dsts.head? = some dst ∧ ToTempPort a dst ⟨x, y, proto, 0⟩) ∨
      AccessBy TcpAccessByIPSets UdpAccessByIPSets access dsts ⟨x, y, proto, 0⟩) := by
  rintro (⟨dst, -, ip, -, hlisten⟩ | ⟨z, -, dst, -, h⟩ | ⟨z, -, dst, -, h⟩)
  · obtain ⟨port, hport, hpos, -⟩ := hu.listenTCP ip
    rw [hlisten] at hport
    cases hport
    exact absurd hpos (Nat.lt_irrefl 0)
  · exact not_portNamed_zero _ h.2.2
  · exact not_portNamed_zero _ h.2.2.2

/-- For exact destinations the udp handler lets the same packets through in both modes. -/
theorem udpAccess_iff (hexact : UdpExact dsts) (src : String) (flow : Flow) :
    UdpAccessByIPSets src dsts flow ↔ UdpAccessByMaps src dsts flow := by
  unfold UdpAccessByIPSets UdpAccessByMaps
  refine exists_congr fun dst => and_congr_right fun hdst => and_congr_right fun hudp => ?_
  obtain ⟨hany, hport⟩ := hexact dst hdst
  have htext : dst.protocol = "udp" := (names_iff hany .udp).mp hudp
  rw [portNamed_iff (hport htext)]
  simp only [hany, htext, false_and, false_or, true_and]
  rw [eq_comm (a := flow.proto)]

/-- When they agree about who showed a token. -/
theorem preAccess_agree_iff (hu : Undisturbed a) (h : RequestIPv4 srcs dsts) :
    (∀ flow, ((∃ dst, dsts.head? = some dst ∧ ToTempPort a dst flow) ∨
        AccessBy TcpAccessByIPSets UdpAccessByIPSets access dsts flow) ↔
      (∃ dst, dsts.head? = some dst ∧ ToTempPort a dst flow) ∨
        AccessBy TcpAccessByMaps UdpAccessByMaps access dsts flow) ↔
    access.tcp = none ∧ (access.udp ≠ none → UdpExact dsts) := by
  constructor
  · intro hagree
    have hzero : ∀ x y proto, ¬ AccessBy TcpAccessByMaps UdpAccessByMaps access dsts ⟨x, y, proto, 0⟩ :=
      fun x y proto hmaps =>
        not_preAccessByIPSets_port_zero hu x y proto ((hagree _).mpr (.inr hmaps))
    constructor
    · rw [Option.eq_none_iff_forall_ne_some]
      intro x hx
      obtain ⟨dst, hdst⟩ := List.exists_mem_of_ne_nil _ h.dst_ne
      obtain ⟨y, hy⟩ := h.dst dst hdst
      exact hzero x y .tcp (.inl ⟨x, hx, dst, hdst, IPv4.parse_text x, hy⟩)
    · intro hudp dst hdst
      obtain ⟨x, hx⟩ := Option.ne_none_iff_exists'.mp hudp
      obtain ⟨y, hy⟩ := h.dst dst hdst
      have hbetween : ∀ proto, Between ⟨x, y, proto, 0⟩ x.text dst.ip :=
        fun proto => ⟨IPv4.parse_text x, hy⟩
      refine ⟨fun hany => ?_, fun htext hport => ?_⟩
      · have hforUDP : dst.forUDP := hany.elim .inl fun h => .inr (.inr h)
        exact hzero x y .tcp (.inr ⟨x, hx, dst, hdst, hforUDP, .inl ⟨hany, hbetween _⟩⟩)
      · exact hzero x y .udp (.inr ⟨x, hx, dst, hdst, .inr (.inl htext),
          .inr ⟨htext, hbetween _, rfl, hport.symm⟩⟩)
  · rintro ⟨htcp, hudp⟩ flow
    refine or_congr_right ?_
    unfold AccessBy
    rw [htcp]
    refine or_congr (by simp) (exists_congr fun x => and_congr_right fun hx => ?_)
    exact udpAccess_iff (hudp (by rw [hx]; exact Option.some_ne_none _)) _ _

end PreAccess

/-! ## The two modes -/

/-- The mode of the filter decides nothing about failures. -/
theorem Undisturbed.withFilter {a : UdpAC} (h : Undisturbed a) (filterMode : Int) :
    Undisturbed (a.withFilter filterMode) :=
  ⟨h.ipset, h.runIPSet, h.updateMap, h.listenTCP, h.resolveTCPAddr, h.listenUDP, h.resolveUDPAddr⟩

/-- At time 0 no rule has expired. -/
theorem unexpired_zero (ops : List RuleOp) : Unexpired ops 0 := fun _ _ h => absurd h UInt64.not_lt_zero

/-- **The filter modes admit the same traffic if and only if the condition of the pass mode holds.** -/
theorem same_traffic_iff (a : UdpAC) (srcs dsts : List NetAddress) (openTimeSec : Int)
    (access : TempAccess) (hu : Undisturbed a)
    (h : RequestIPv4 srcs (withDefaultIp a.config dsts)) :
    SameTraffic a srcs dsts openTimeSec access ↔
      FiltersAgree a.config.ipPassMode (withDefaultIp a.config dsts) access := by
  have hsets : ∀ flow, admittedByIPSets
      (requestOps (a.withFilter filterModeIPTables) srcs dsts openTimeSec access) flow ↔
      RequestBy KnockByIPSets TcpAccessByIPSets UdpAccessByIPSets a srcs
        (withDefaultIp a.config dsts) access flow :=
    fun flow => admittedByIPSets_request rfl (hu.withFilter _) h
  have hmaps : ∀ flow, Written
      (requestOps (a.withFilter filterModeEbpfXdp) srcs dsts openTimeSec access) flow ↔
      RequestBy KnockByMaps TcpAccessByMaps UdpAccessByMaps a srcs
        (withDefaultIp a.config dsts) access flow :=
    fun flow => written_request rfl (hu.withFilter _) h
  have htraffic : SameTraffic a srcs dsts openTimeSec access ↔ ∀ flow,
      RequestBy KnockByIPSets TcpAccessByIPSets UdpAccessByIPSets a srcs
        (withDefaultIp a.config dsts) access flow ↔
      RequestBy KnockByMaps TcpAccessByMaps UdpAccessByMaps a srcs
        (withDefaultIp a.config dsts) access flow := by
    constructor
    · intro hsame flow
      rw [← hsets, ← hmaps, ← admittedByMaps_iff (unexpired_zero _)]
      exact hsame 0 (unexpired_zero _) flow
    · intro hagree now hunexpired flow
      rw [admittedByMaps_iff hunexpired, hsets, hmaps]
      exact hagree flow
  rw [htraffic, FiltersAgree]
  unfold RequestBy
  split
  · exact preAccess_agree_iff hu h
  · exact knock_agree_iff h

/-- On the AC of the example nothing fails. -/
theorem undisturbed_sampleAC (filterMode ipPassMode : Int) : Undisturbed (sampleAC filterMode ipPassMode) where
  ipset := rfl
  runIPSet _ _ := rfl
  updateMap _ _ := rfl
  listenTCP _ := ⟨50000, rfl, by decide, by decide⟩
  resolveTCPAddr _ := rfl
  listenUDP _ _ := rfl
  resolveUDPAddr _ := rfl

/-- A request of the agent for a destination of its network. -/
theorem requestIPv4_sample {dst : NetAddress} (hip : dst.ip = "10.1.0.2")
    (hport : 0 ≤ dst.port ∧ dst.port < 65536) : RequestIPv4 [agentAddr] [dst] where
  src_ne := List.cons_ne_nil _ _
  dst_ne := List.cons_ne_nil _ _
  src src hsrc := by
    rw [List.mem_singleton.mp hsrc]
    exact ⟨⟨10, 0, 0, 1⟩, by decide⟩
  dst dst' hdst := by
    rw [List.mem_singleton.mp hdst, hip]
    exact ⟨⟨10, 1, 0, 2⟩, by decide⟩
  port dst' hdst := by
    rw [List.mem_singleton.mp hdst]
    exact hport

/-- For a web service the two modes agree. -/
theorem same_traffic_iff_web :
    SameTraffic (sampleAC 0 0) [agentAddr] [webAddr] 60 ⟨none, none⟩ ↔
      FiltersAgree 0 [webAddr] ⟨none, none⟩ :=
  same_traffic_iff (sampleAC 0 0) [agentAddr] [webAddr] 60 ⟨none, none⟩ (undisturbed_sampleAC 0 0)
    (requestIPv4_sample rfl (by decide))

/-- Port 443 of a host, for any protocol. -/
def anyWebAddr : NetAddress := ⟨"10.1.0.2", 443, ""⟩

/-- A packet from the agent to another port of the host. -/
def otherPort : Flow := ⟨⟨10, 0, 0, 1⟩, ⟨10, 1, 0, 2⟩, .tcp, 3306⟩

/-- The request is for port 443, and in eBPF mode port 3306 is open too. -/
theorem maps_open_other_ports :
    ¬ SameTraffic (sampleAC 0 0) [agentAddr] [anyWebAddr] 60 ⟨none, none⟩ := by
  intro hsame
  have hrequest : RequestIPv4 [agentAddr] [anyWebAddr] := requestIPv4_sample rfl (by decide)
  have hsets := (admittedByIPSets_request rfl ((undisturbed_sampleAC 0 0).withFilter _) hrequest).mp
    ((hsame 0 (unexpired_zero _) otherPort).mpr ((admittedByMaps_iff (unexpired_zero _) _).mpr
      ((written_request rfl ((undisturbed_sampleAC 0 0).withFilter _) hrequest).mpr ?_)))
  · obtain ⟨src, -, dst, hdst, hpair | hrange⟩ : KnockByIPSets 0 [agentAddr] [anyWebAddr] otherPort :=
      hsets
    · have hnamed : PortNamed dst.port 3306 := hpair.2.2
      rw [List.mem_singleton.mp hdst, portNamed_iff (by decide)] at hnamed
      exact absurd hnamed (by decide)
    · exact absurd hrange.1 (by decide)
  · show KnockByMaps 0 [agentAddr] [anyWebAddr] otherPort
    refine ⟨agentAddr, List.mem_singleton.mpr rfl, anyWebAddr, List.mem_singleton.mpr rfl, .inl ?_⟩
    exact ⟨⟨by decide, by decide⟩, .inl (.inl rfl)⟩

end OpenNHP.AC
