/-
  The kernel side of the eBPF filter: `xdp_white_prog` of `nhp/ebpf/xdp/nhp_ebpf_xdp.c`.

  1. **The program.**  It reads a frame, passes a few fixed exceptions (ARP, IPv6, DHCP, DNS answers, SSH, some
     ICMP), then asks the connection table, then the five whitelist maps in their order.  What a rule lets in is
     entered into the connection table, with the end of that rule.

  2. **The model** is written branch by branch after the source (`xdpWhiteProg`, with `checkIcmp`, `checkFlow`,
     `checkConn` and `checkRules` for its parts), on the bytes of the frame.  Multi-byte fields stay byte strings
     in network order, as the program takes them over into its keys.  It returns the state of the maps besides the
     verdict: entries that have expired are deleted, connections are entered.

  3. **Time.**  The program reads the clock several times while it runs on one packet; here all readings during one
     packet are one value, and the clock moves on between packets only.

  4. **A single flow.**  For a frame that carries a flow of TCP or UDP and is no exception, the program comes down
     to the look-ups of that flow's keys (`CarriesFlow`, `xdpWhiteProg_eq`), and with the maps that userland has
     written to "a rule was written under one of the keys and has not expired" (`mapsOf`, `admittedByMaps`).
-/
import OpenNHP.AC.AccessControl
import Mathlib.Data.List.Induction

namespace OpenNHP.AC

open Inet BigEndian

/-! ## State -/

/-- `ipv4_ct_tuple`. -/
structure ConnTuple where
  daddr : Bytes
  saddr : Bytes
  dport : Bytes
  sport : Bytes
  nexthdr : UInt8
  flags : UInt8
  deriving DecidableEq

/-- `reverseTuple`. -/
def ConnTuple.reverse (t : ConnTuple) : ConnTuple :=
  { t with daddr := t.saddr, saddr := t.daddr, dport := t.sport, sport := t.dport,
           flags := if t.flags = 0 then 1 else 0 }

/-- `conn_value`. -/
structure ConnValue where
  timestamp : UInt64
  lastTimestamp : UInt64
  ttlNs : UInt64
  state : UInt8
  flags : UInt8
  rxPackets : UInt32
  txPackets : UInt32

/-- The pinned maps: the rules and the connection table. -/
structure XdpState where
  maps : MapName → Bytes → Option MapValue
  connTrack : ConnTuple → Option ConnValue

/-- `XDP_PASS` or `XDP_DROP`. -/
inductive Verdict
  | pass
  | drop
  deriving DecidableEq, Repr

/-- `bpf_map_delete_elem` on a map of rules. -/
def XdpState.deleteRule (s : XdpState) (m : MapName) (key : Bytes) : XdpState :=
  { s with maps := fun m' key' => if m' = m ∧ key' = key then none else s.maps m' key' }

/-- `bpf_map_update_elem` on the connection table. -/
def XdpState.track (s : XdpState) (t : ConnTuple) (v : ConnValue) : XdpState :=
  { s with connTrack := fun t' => if t' = t then some v else s.connTrack t' }

/-- A connection is deleted. -/
def XdpState.untrack (s : XdpState) (t : ConnTuple) : XdpState :=
  { s with connTrack := fun t' => if t' = t then none else s.connTrack t' }

/-- `check_conn_expiry`. -/
def ConnValue.expired (v : ConnValue) (now : UInt64) : Bool := now > v.timestamp + v.ttlNs

/-! ## The whitelist maps -/

/-- The keys the program builds for a packet, in the order in which their values are looked at. -/
def whitelistKeys (ct : ConnTuple) (protocol : UInt8) : List (MapName × Bytes) :=
  [(.spp, ct.saddr ++ ct.daddr ++ ct.dport ++ [protocol]),
   (.sdwhitelist, ct.saddr ++ ct.daddr),
   (.srcPort, ct.saddr ++ ct.dport),
   (.portList, ct.saddr ++ [0, 0] ++ [0xff, 0xff]),
   (.protocolPort, ct.dport ++ [protocol])]

/-- The connection entry of a packet that a rule has let through. -/
def newConn (now expireTime : UInt64) : ConnValue :=
  ⟨now, now, expireTime - now, 1, 0, 1, 0⟩

/-- The five blocks that decide by a rule: an expired one drops, an allowing one passes. -/
def checkRules (now : UInt64) (ct : ConnTuple) :
    List (MapName × Bytes) → XdpState → XdpState × Verdict
  | [], s => (s, .drop)
  | (m, key) :: rest, s =>
    match s.maps m key with
    | none => checkRules now ct rest s
    | some v =>
      if v.expireTime < now then (s.deleteRule m key, .drop)
      else if v.allowed = 1 then (s.track ct (newConn now v.expireTime), .pass)
      else checkRules now ct rest s

/-! ## The program -/

/-- The connection table's answer for a packet, if it has one. -/
def checkConn (now : UInt64) (ct : ConnTuple) (s : XdpState) : Option (XdpState × Verdict) :=
  match s.connTrack ct with
  | some v =>
    if v.expired now then some (s.untrack ct, .drop)
    else some (s.track ct { v with txPackets := v.txPackets + 1, lastTimestamp := now }, .pass)
  | none =>
    match s.connTrack ct.reverse with
    | some v =>
      if v.expired now then some (s.untrack ct.reverse, .drop)
      else
        some (s.track ct.reverse { v with rxPackets := v.rxPackets + 1, lastTimestamp := now }, .pass)
    | none => none

/-- Connection table, then whitelist maps. -/
def checkFlow (now : UInt64) (ct : ConnTuple) (protocol : UInt8) (s : XdpState) :
    XdpState × Verdict :=
  match checkConn now ct s with
  | some r => r
  | none => checkRules now ct (whitelistKeys ct protocol) s

/-- The block for ICMP: its answer for echo requests and replies, if it has one. -/
def checkIcmp (now : UInt64) (type code : UInt8) (key : Bytes) (s : XdpState) :
    Option (XdpState × Verdict) :=
  if code ≠ 0 then none
  else if type = 8 then
    match s.maps .icmpwhitelist key with
    | none => some (s, .drop)
    | some v =>
      if v.expireTime < now then some (s.deleteRule .icmpwhitelist key, .drop)
      else if v.allowed = 1 then some (s, .pass)
      else none
  else if type = 0 then some (s, .pass)
  else none

/-- `xdp_white_prog` on a frame. -/
def xdpWhiteProg (now : UInt64) (data : Bytes) (s : XdpState) : XdpState × Verdict :=
  if data.length < 14 then (s, .drop)
  else
    let proto := getBE (slice 12 2 data)
    if proto = 0x0806 then (s, .pass)
    else if proto = 0x86dd then (s, .pass)
    else if proto ≠ 0x0800 then (s, .drop)
    else if data.length < 34 then (s, .drop)
    else
      let ihl := (data.getD 14 0).toNat % 16
      let protocol := data.getD 23 0
      let saddr := slice 26 4 data
      let daddr := slice 30 4 data
      -- the transport header proper starts behind the options
      let start := 14 + ihl * 4
      if ihl < 5 then (s, .drop)
      else if protocol = 6 then
        if data.length < 54 then (s, .drop)
        else if data.length < start + 20 then (s, .drop)
        else if getBE (slice (start + 2) 2 data) = 22 then (s, .pass)
        else checkFlow now ⟨daddr, saddr, slice 36 2 data, slice 34 2 data, 6, 0⟩ protocol s
      else if protocol = 17 then
        if data.length < 42 then (s, .drop)
        else if slice 36 2 data = putBE 2 67 ∨ slice 36 2 data = putBE 2 68 ∨
            slice 34 2 data = putBE 2 53 then (s, .pass)
        else checkFlow now ⟨daddr, saddr, slice 36 2 data, slice 34 2 data, 17, 0⟩ protocol s
      else if protocol = 1 then
        if data.length < start + 8 then (s, .drop)
        else
          match checkIcmp now (data.getD start 0) (data.getD (start + 1) 0) (saddr ++ daddr) s with
          | some r => r
          | none => checkFlow now ⟨daddr, saddr, [0, 0], [0, 0], 0, 0⟩ protocol s
      else checkFlow now ⟨daddr, saddr, [0, 0], [0, 0], 0, 0⟩ protocol s

/-! ## Which packets the maps let through -/

/-- The maps after a sequence of updates: the last value of a key counts. -/
def mapsOf (ops : List RuleOp) : MapName → Bytes → Option MapValue := fun m key =>
  ops.foldl (fun v op => match op with
    | .ebpf u => if u.map = m ∧ u.key = key then some u.value else v
    | .ipset .. => v) none

/-- No rule of the maps has expired. -/
def Unexpired (ops : List RuleOp) (now : UInt64) : Prop :=
  ∀ u, .ebpf u ∈ ops → ¬ u.value.expireTime < now

/-- The value of a key comes from an update of that key. -/
theorem mapsOf_eq_some {ops : List RuleOp} {m : MapName} {key : Bytes} {v : MapValue}
    (h : mapsOf ops m key = some v) : ∃ u, .ebpf u ∈ ops ∧ u.map = m ∧ u.key = key ∧ u.value = v := by
  induction ops using List.reverseRecOn with
  | nil => cases h
  | append_singleton ops op ih =>
    rw [mapsOf, List.foldl_append] at h
    cases op with
    | ipset set entry expire =>
      obtain ⟨u, hu, hrest⟩ := ih h
      exact ⟨u, List.mem_append_left _ hu, hrest⟩
    | ebpf u =>
      simp only [List.foldl_cons, List.foldl_nil] at h
      split at h
      · rename_i hkey
        cases h
        exact ⟨u, List.mem_append_right _ (List.mem_singleton.mpr rfl), hkey.1, hkey.2, rfl⟩
      · obtain ⟨u', hu', hrest⟩ := ih h
        exact ⟨u', List.mem_append_left _ hu', hrest⟩

/-- A key has a value exactly when some update wrote it. -/
theorem mapsOf_isSome {ops : List RuleOp} {m : MapName} {key : Bytes} :
    (mapsOf ops m key).isSome ↔ ∃ u, .ebpf u ∈ ops ∧ u.map = m ∧ u.key = key := by
  constructor
  · intro h
    obtain ⟨v, hv⟩ := Option.isSome_iff_exists.mp h
    obtain ⟨u, hu, hm, hkey, -⟩ := mapsOf_eq_some hv
    exact ⟨u, hu, hm, hkey⟩
  · rintro ⟨u, hu, hm, hkey⟩
    induction ops using List.reverseRecOn with
    | nil => cases hu
    | append_singleton ops op ih =>
      rw [mapsOf, List.foldl_append]
      rcases List.mem_append.mp hu with hu | hu
      · have hold := ih hu
        cases op with
        | ipset set entry expire => exact hold
        | ebpf u' =>
          simp only [List.foldl_cons, List.foldl_nil]
          split
          · rfl
          · exact hold
      · rw [← List.mem_singleton.mp hu]
        simp only [List.foldl_cons, List.foldl_nil]
        rw [if_pos ⟨hm, hkey⟩]
        rfl

/-- Over maps without expired rules the five blocks pass exactly the packets one of whose keys has been
    written. -/
theorem checkRules_pass {ops : List RuleOp} {now : UInt64} (hunexpired : Unexpired ops now)
    {ct : ConnTuple} {keys : List (MapName × Bytes)} {s : XdpState}
    (hmaps : s.maps = mapsOf ops) :
    (checkRules now ct keys s).2 = .pass ↔
      ∃ k ∈ keys, ∃ u, .ebpf u ∈ ops ∧ u.map = k.1 ∧ u.key = k.2 := by
  induction keys with
  | nil =>
    constructor
    · intro h
      cases h
    · rintro ⟨k, hk, -⟩
      cases hk
  | cons k keys ih =>
    simp only [List.mem_cons, exists_eq_or_imp]
    rw [← ih, checkRules, hmaps, ← mapsOf_isSome]
    cases hv : mapsOf ops k.1 k.2 with
    | none => simp
    | some v =>
      obtain ⟨u, hu, -, -, rfl⟩ := mapsOf_eq_some hv
      simp [hunexpired u hu]

/-! ## Frames -/

/-- The number of a protocol in an IP header. -/
def Proto.number : Proto → UInt8
  | .tcp => 6
  | .udp => 17

/-- The tuple of a packet. -/
def Flow.tuple (flow : Flow) (sport : Bytes) : ConnTuple :=
  ⟨flow.dst.bytes, flow.src.bytes, putBE 2 flow.dport.toNat, sport, flow.proto.number, 0⟩

/-- The keys of a packet. -/
def Flow.keys (flow : Flow) (sport : Bytes) : List (MapName × Bytes) :=
  whitelistKeys (flow.tuple sport) flow.proto.number

/-- The blocks of the whitelist maps pass a packet. -/
def admittedByMaps (ops : List RuleOp) (now : UInt64) (flow : Flow) : Prop :=
  ∀ sport connTrack,
    (checkRules now (flow.tuple sport) (flow.keys sport) ⟨mapsOf ops, connTrack⟩).2 = .pass

/-- What a frame has to be to carry a packet: Ethernet, an IPv4 header without options, and the
    transport header with its ports. -/
structure CarriesFlow (data : Bytes) (flow : Flow) (sport : Bytes) : Prop where
  length : 54 ≤ data.length
  etherType : getBE (slice 12 2 data) = 0x0800
  ihl : (data.getD 14 0).toNat % 16 = 5
  protocol : data.getD 23 0 = flow.proto.number
  saddr : slice 26 4 data = flow.src.bytes
  daddr : slice 30 4 data = flow.dst.bytes
  sport : slice 34 2 data = sport
  dport : slice 36 2 data = putBE 2 flow.dport.toNat

/-- The packets that the program passes before it asks any map. -/
def Flow.Excepted (flow : Flow) (sport : Bytes) : Prop :=
  match flow.proto with
  | .tcp => flow.dport.toNat = 22
  | .udp => flow.dport.toNat = 67 ∨ flow.dport.toNat = 68 ∨ sport = putBE 2 53

/-- Two bytes write one port. -/
theorem putBE_port_inj {p q : Nat} (hp : p < 65536) (hq : q < 65536) :
    putBE 2 p = putBE 2 q ↔ p = q := by
  constructor
  · intro h
    have hget := congrArg getBE h
    rwa [getBE_putBE_of_lt (by omega), getBE_putBE_of_lt (by omega)] at hget
  · rintro rfl
    rfl

/-- **Frames and maps.**  A packet that no exception covers and the connection table does not know is
    judged by the whitelist maps alone. -/
theorem xdpWhiteProg_eq {data : Bytes} {flow : Flow} {sport : Bytes} {now : UInt64} {s : XdpState}
    (h : CarriesFlow data flow sport) (hexcepted : ¬ flow.Excepted sport)
    (hconn : checkConn now (flow.tuple sport) s = none) :
    xdpWhiteProg now data s = checkRules now (flow.tuple sport) (flow.keys sport) s := by
  have hlen := h.length
  have hport : flow.dport.toNat < 65536 := flow.dport.toNat_lt
  have hget : getBE (putBE 2 flow.dport.toNat) = flow.dport.toNat :=
    getBE_putBE_of_lt (by omega)
  unfold xdpWhiteProg
  simp only [h.etherType, h.ihl, h.protocol, h.saddr, h.daddr, h.sport, h.dport, hget]
  rw [if_neg (by omega), if_neg (by decide), if_neg (by decide), if_neg (by decide),
    if_neg (by omega), if_neg (by decide)]
  obtain ⟨src, dst, proto, dport⟩ := flow
  cases proto with
  | tcp =>
    have h22 : dport.toNat ≠ 22 := hexcepted
    rw [if_pos (by rfl), if_neg (by omega), if_neg (by omega), if_neg h22, checkFlow]
    have hconn : checkConn now ⟨dst.bytes, src.bytes, putBE 2 dport.toNat, sport, 6, 0⟩ s = none :=
      hconn
    rw [hconn]
    rfl
  | udp =>
    have hports : ¬ (dport.toNat = 67 ∨ dport.toNat = 68 ∨ sport = putBE 2 53) := hexcepted
    rw [← putBE_port_inj hport (by omega), ← putBE_port_inj hport (by omega)] at hports
    rw [if_neg (fun h => absurd h (by decide : ¬ Proto.udp.number = 6)), if_pos (by rfl),
      if_neg (by omega), if_neg hports, checkFlow]
    have hconn : checkConn now ⟨dst.bytes, src.bytes, putBE 2 dport.toNat, sport, 17, 0⟩ s = none :=
      hconn
    rw [hconn]
    rfl

end OpenNHP.AC
