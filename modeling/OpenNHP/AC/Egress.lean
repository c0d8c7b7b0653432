/-
  The eBPF filter over time: `tc_egress_prog` of `nhp/ebpf/xdp/tc_egress.c` beside `xdp_white_prog`, and
  the runs of a host on which userland adds rules, frames come and go and the clock moves on.

  1. **The programs.**  Both share the map `spp`.  A frame that leaves writes the entry that lets its answers in,
     for 180 seconds, whatever rule the map held before (`tcEgressProg`).  A frame that comes in is judged by the
     connection table first and by the rule maps behind it, and what a rule lets in is entered into the connection
     table with the end of that rule.

  2. **Readings.**  `xdp_white_prog` is first brought to a form in which what it reads of a frame is separate from
     what it does about it: `readFrame` gives the verdicts that depend on the frame alone and the keys and the
     connection tuple of the others, `Reading.judge` the rest (`xdpWhiteProg_read`).

  3. **The property.**  Once the rules that cover a flow have expired, and no frame has left towards its source for
     180 seconds, no frame of the flow is passed (`access_time_bounded`).  The second half is the program's design:
     the answers of what leaves are let in, as the iptables scripts do with established connections.

  4. **The invariant.**  `XdpState.Accounted`: every entry of a rule map and of the connection table that is still
     alive has an origin, an update of userland or a frame that left, which lasts at least as long.  Rules that
     are added, frames that come or leave and entries that are evicted keep it (`Host.step_accounted`); what has
     no live origin is judged like what has no entry.
-/
import OpenNHP.AC.Xdp
import OpenNHP.Lib.Runs

namespace OpenNHP.AC

open Inet BigEndian Runs

/-! ## tc_egress_prog -/

/-- `KEY_EXPIRE_TIME_SECONDS`, in nanoseconds. -/
def egressLifetime : UInt64 := 180 * 1000000000

/-- `spp_key` of a frame that leaves, for those the program does not skip: the frame read backwards. -/
def egressKey (data : Bytes) : Option Bytes :=
  if data.length < 14 then none
  else if getBE (slice 12 2 data) ≠ 0x0800 then none
  else if data.length < 34 then none
  else
    let ihl := (data.getD 14 0).toNat % 16
    let version := (data.getD 14 0).toNat / 16
    let protocol := data.getD 23 0
    let srcIp := slice 26 4 data
    let dstIp := slice 30 4 data
    let start := 14 + ihl * 4
    if ihl < 5 ∨ version ≠ 4 then none
    else if protocol = 6 then
      if data.length < start + 20 then none
      else some (dstIp ++ srcIp ++ slice start 2 data ++ [protocol])
    else if protocol = 17 then
      if data.length < start + 8 then none
      else some (dstIp ++ srcIp ++ slice start 2 data ++ [protocol])
    else if protocol = 1 then some (dstIp ++ srcIp ++ [0, 0] ++ [protocol])
    else none

/-- `bpf_map_update_elem` on a map of rules. -/
def XdpState.updateRule (s : XdpState) (m : MapName) (key : Bytes) (v : MapValue) : XdpState :=
  { s with maps := fun m' key' => if m' = m ∧ key' = key then some v else s.maps m' key' }

/-- `tc_egress_prog`: the frame itself always leaves. -/
def tcEgressProg (now : UInt64) (data : Bytes) (s : XdpState) : XdpState :=
  match egressKey data with
  | none => s
  | some key => s.updateRule .spp key ⟨1, now + egressLifetime⟩

/-! ## What the XDP program reads from a frame -/

/-- What `xdp_white_prog` has found out about a frame before it asks a map. -/
inductive Reading
  | fixed (v : Verdict)
  /-- An echo request, with its key for `icmpwhitelist`. -/
  | echo (key : Bytes) (ct : ConnTuple)
  | flow (ct : ConnTuple) (protocol : UInt8)
  deriving DecidableEq

/-- What the program reads of a frame: a verdict, or what it looks up. -/
def readFrame (data : Bytes) : Reading :=
  if data.length < 14 then .fixed .drop
  else
    let proto := getBE (slice 12 2 data)
    if proto = 0x0806 then .fixed .pass
    else if proto = 0x86dd then .fixed .pass
    else if proto ≠ 0x0800 then .fixed .drop
    else if data.length < 34 then .fixed .drop
    else
      let ihl := (data.getD 14 0).toNat % 16
      let protocol := data.getD 23 0
      let saddr := slice 26 4 data
      let daddr := slice 30 4 data
      let start := 14 + ihl * 4
      if ihl < 5 then .fixed .drop
      else if protocol = 6 then
        if data.length < 54 then .fixed .drop
        else if data.length < start + 20 then .fixed .drop
        else if getBE (slice (start + 2) 2 data) = 22 then .fixed .pass
        else .flow ⟨daddr, saddr, slice 36 2 data, slice 34 2 data, 6, 0⟩ protocol
      else if protocol = 17 then
        if data.length < 42 then .fixed .drop
        else if slice 36 2 data = putBE 2 67 ∨ slice 36 2 data = putBE 2 68 ∨
            slice 34 2 data = putBE 2 53 then .fixed .pass
        else .flow ⟨daddr, saddr, slice 36 2 data, slice 34 2 data, 17, 0⟩ protocol
      else if protocol = 1 then
        if data.length < start + 8 then .fixed .drop
        else if data.getD (start + 1) 0 ≠ 0 then .flow ⟨daddr, saddr, [0, 0], [0, 0], 0, 0⟩ protocol
        else if data.getD start 0 = 8 then
          .echo (saddr ++ daddr) ⟨daddr, saddr, [0, 0], [0, 0], 0, 0⟩
        else if data.getD start 0 = 0 then .fixed .pass
        else .flow ⟨daddr, saddr, [0, 0], [0, 0], 0, 0⟩ protocol
      else .flow ⟨daddr, saddr, [0, 0], [0, 0], 0, 0⟩ protocol

/-- What the maps make of a frame that has been read. -/
def Reading.judge (now : UInt64) (s : XdpState) : Reading → XdpState × Verdict
  | .fixed v => (s, v)
  | .echo key ct =>
    match checkIcmp now 8 0 key s with
    | some r => r
    | none => checkFlow now ct 1 s
  | .flow ct protocol => checkFlow now ct protocol s

/-- The two ways to write the branch for ICMP. -/
theorem judge_icmp (now : UInt64) (s : XdpState) (type code : UInt8) (key : Bytes) (ct : ConnTuple) :
    (match checkIcmp now type code key s with
      | some r => r
      | none => checkFlow now ct 1 s) =
    Reading.judge now s (if code ≠ 0 then .flow ct 1 else if type = 8 then .echo key ct
      else if type = 0 then .fixed .pass else .flow ct 1) := by
  by_cases hcode : code = 0
  · by_cases hecho : type = 8
    · rw [hcode, hecho]
      rfl
    · by_cases hreply : type = 0
      · simp [checkIcmp, Reading.judge, hcode, hreply]
      · simp [checkIcmp, Reading.judge, hcode, hecho, hreply]
  · simp [checkIcmp, Reading.judge, hcode]

/-- A branch of the program is a branch of the reading. -/
theorem judge_ite (now : UInt64) (s : XdpState) {p : Prop} [Decidable p] {r r' : Reading}
    {v v' : XdpState × Verdict} (h : p → v = r.judge now s) (h' : ¬ p → v' = r'.judge now s) :
    (if p then v else v') = (if p then r else r').judge now s := by
  split
  · rename_i hp
    exact h hp
  · rename_i hp
    exact h' hp

/-- The program is its reading of the frame, then the maps. -/
theorem xdpWhiteProg_read (now : UInt64) (data : Bytes) (s : XdpState) :
    xdpWhiteProg now data s = (readFrame data).judge now s := by
  unfold xdpWhiteProg readFrame
  refine judge_ite _ _ (fun _ => rfl) fun _ => ?_
  refine judge_ite _ _ (fun _ => rfl) fun _ => ?_
  refine judge_ite _ _ (fun _ => rfl) fun _ => ?_
  refine judge_ite _ _ (fun _ => rfl) fun _ => ?_
  refine judge_ite _ _ (fun _ => rfl) fun _ => ?_
  refine judge_ite _ _ (fun _ => rfl) fun _ => ?_
  refine judge_ite _ _ (fun _ => ?tcp) fun _ => judge_ite _ _ (fun _ => ?udp) fun _ =>
    judge_ite _ _ (fun hicmp => ?icmp) fun _ => rfl
  case tcp =>
    refine judge_ite _ _ (fun _ => rfl) fun _ => judge_ite _ _ (fun _ => rfl) fun _ => ?_
    exact judge_ite _ _ (fun _ => rfl) fun _ => rfl
  case udp =>
    exact judge_ite _ _ (fun _ => rfl) fun _ => judge_ite _ _ (fun _ => rfl) fun _ => rfl
  case icmp =>
    rw [hicmp]
    exact judge_ite _ _ (fun _ => rfl) fun _ => judge_icmp ..

/-! ## Where the entries come from -/

/-- `nexthdr` of the tuple of a frame: the connection table tells apart TCP, UDP and the rest. -/
def nexthdrOf (protocol : UInt8) : UInt8 := if protocol = 6 then 6 else if protocol = 17 then 17 else 0

/-- What is read from a frame is a tuple that flows inwards and names the frame's protocol. -/
def Reading.Inward : Reading → Prop
  | .fixed _ => True
  | .echo _ ct => ct.flags = 0 ∧ ct.nexthdr = nexthdrOf 1
  | .flow ct protocol => ct.flags = 0 ∧ ct.nexthdr = nexthdrOf protocol

/-- Only frames that come in are looked up, with the flags of their direction. -/
theorem readFrame_inward (data : Bytes) : (readFrame data).Inward := by
  unfold readFrame
  refine iteInduction (fun _ => trivial) fun _ => iteInduction (fun _ => trivial) fun _ =>
    iteInduction (fun _ => trivial) fun _ => iteInduction (fun _ => trivial) fun _ =>
    iteInduction (fun _ => trivial) fun _ => iteInduction (fun _ => trivial) fun _ =>
    iteInduction (fun htcp => ?tcp) fun hntcp => iteInduction (fun hudp => ?udp) fun hnudp =>
    iteInduction (fun hicmp => ?icmp) fun _ => ?other
  case tcp =>
    refine iteInduction (fun _ => trivial) fun _ => iteInduction (fun _ => trivial) fun _ =>
      iteInduction (fun _ => trivial) fun _ => ⟨rfl, ?_⟩
    rw [htcp]
    rfl
  case udp =>
    refine iteInduction (fun _ => trivial) fun _ => iteInduction (fun _ => trivial) fun _ => ⟨rfl, ?_⟩
    rw [hudp]
    rfl
  case icmp =>
    have hnexthdr : (0 : UInt8) = nexthdrOf (data.getD 23 0) := by
      rw [hicmp]
      rfl
    exact iteInduction (fun _ => trivial) fun _ => iteInduction (fun _ => ⟨rfl, hnexthdr⟩) fun _ =>
      iteInduction (fun _ => ⟨rfl, rfl⟩) fun _ => iteInduction (fun _ => trivial) fun _ => ⟨rfl, hnexthdr⟩
  case other =>
    refine ⟨rfl, ?_⟩
    rw [nexthdrOf, if_neg hntcp, if_neg hnudp]

/-- The keys that the program looks up for the packets of a tuple. -/
def ConnTuple.LooksUp (t : ConnTuple) (m : MapName) (key : Bytes) : Prop :=
  ∃ protocol, t.nexthdr = nexthdrOf protocol ∧ (m, key) ∈ whitelistKeys t protocol

/-- The entries that let a frame in, unless it is let in or kept out before any map is asked. -/
def Reading.CoveredBy : Reading → MapName → Bytes → Prop
  | .fixed _, _, _ => False
  | .echo key _, m, key' => m = .icmpwhitelist ∧ key' = key
  | .flow ct _, m, key => ct.LooksUp m key

section Origins

variable {O : MapName → Bytes → UInt64 → Prop}

/-- Some key of a tuple has an origin that lasts until a time. -/
def ConnTuple.Backed (O : MapName → Bytes → UInt64 → Prop) (t : ConnTuple) (expireTime : UInt64) :
    Prop :=
  ∃ m key, t.LooksUp m key ∧ O m key expireTime

/-- Every entry has an origin: `O m key e` says that something has opened a key until `e`. -/
structure XdpState.Accounted (O : MapName → Bytes → UInt64 → Prop) (s : XdpState) : Prop where
  rules : ∀ m key v, s.maps m key = some v → v.allowed = 1 ∧ O m key v.expireTime
  conns : ∀ t v, s.connTrack t = some v → t.flags = 0 ∧ t.Backed O (v.timestamp + v.ttlNs)

namespace XdpState.Accounted

variable {s : XdpState}

/-- The entries that are left have their origins still. -/
theorem deleteRule (h : s.Accounted O) (m : MapName) (key : Bytes) : (s.deleteRule m key).Accounted O := by
  refine ⟨fun m' key' v hv => ?_, h.conns⟩
  dsimp only [XdpState.deleteRule] at hv
  split at hv
  · cases hv
  · exact h.rules m' key' v hv

/-- A rule that is written has the update as its origin. -/
theorem updateRule (h : s.Accounted O) {m : MapName} {key : Bytes} {v : MapValue}
    (hallowed : v.allowed = 1) (hO : O m key v.expireTime) : (s.updateRule m key v).Accounted O := by
  refine ⟨fun m' key' v' hv => ?_, h.conns⟩
  dsimp only [XdpState.updateRule] at hv
  split at hv
  · rename_i hkey
    cases hv
    rw [hkey.1, hkey.2]
    exact ⟨hallowed, hO⟩
  · exact h.rules m' key' v' hv

/-- The connections that are left have their origins still. -/
theorem untrack (h : s.Accounted O) (t : ConnTuple) : (s.untrack t).Accounted O := by
  refine ⟨h.rules, fun t' v hv => ?_⟩
  dsimp only [XdpState.untrack] at hv
  split at hv
  · cases hv
  · exact h.conns t' v hv

/-- A connection is entered with the end of what let it in. -/
theorem track (h : s.Accounted O) {t : ConnTuple} {v : ConnValue} (hflags : t.flags = 0)
    (hbacked : t.Backed O (v.timestamp + v.ttlNs)) : (s.track t v).Accounted O := by
  refine ⟨h.rules, fun t' v' hv => ?_⟩
  dsimp only [XdpState.track] at hv
  split at hv
  · rename_i ht
    cases hv
    rw [ht]
    exact ⟨hflags, hbacked⟩
  · exact h.conns t' v' hv

/-- More origins do no harm. -/
theorem mono {O' : MapName → Bytes → UInt64 → Prop} (h : s.Accounted O)
    (hO : ∀ m key e, O m key e → O' m key e) : s.Accounted O' := by
  refine ⟨fun m key v hv => (h.rules m key v hv).imp id (hO m key _), fun t v hv => ?_⟩
  obtain ⟨hflags, m, key, hkey, hOkey⟩ := h.conns t v hv
  exact ⟨hflags, m, key, hkey, hO _ _ _ hOkey⟩

end XdpState.Accounted

/-! ## The program keeps the accounts -/

/-- The loop over the rule maps: what it passes has an origin that is alive. -/
theorem checkRules_accounted {now : UInt64} {ct : ConnTuple} {keys : List (MapName × Bytes)}
    {s : XdpState} (hs : s.Accounted O) (hflags : ct.flags = 0)
    (hkeys : ∀ k ∈ keys, ct.LooksUp k.1 k.2) :
    (checkRules now ct keys s).1.Accounted O ∧
      ((checkRules now ct keys s).2 = .pass → ∃ e, ct.Backed O e ∧ ¬ e < now) := by
  induction keys with
  | nil => exact ⟨hs, fun h => by cases h⟩
  | cons k keys ih =>
    have ih := ih fun k' hk' => hkeys k' (List.mem_cons_of_mem k hk')
    rw [checkRules]
    cases hv : s.maps k.1 k.2 with
    | none => exact ih
    | some v =>
      obtain ⟨hallowed, hO⟩ := hs.rules k.1 k.2 v hv
      have hbacked : ct.Backed O v.expireTime := ⟨k.1, k.2, hkeys k List.mem_cons_self, hO⟩
      dsimp only
      by_cases hexpired : v.expireTime < now
      · rw [if_pos hexpired]
        exact ⟨hs.deleteRule k.1 k.2, fun h => by cases h⟩
      · rw [if_neg hexpired, if_pos hallowed]
        refine ⟨hs.track hflags ?_, fun _ => ⟨v.expireTime, hbacked, hexpired⟩⟩
        -- what is left of the rule's lifetime, counted from now, ends when the rule does
        have hend : now + (v.expireTime - now) = v.expireTime := by
          rw [UInt64.add_comm, UInt64.sub_add_cancel]
        exact hend.symm ▸ hbacked

/-- The reverse of an inward tuple is in no table: only inward tuples are entered. -/
theorem connTrack_reverse {s : XdpState} (hs : s.Accounted O) {ct : ConnTuple} (hflags : ct.flags = 0) :
    s.connTrack ct.reverse = none := by
  cases hv : s.connTrack ct.reverse with
  | none => rfl
  | some v =>
    have hreverse : ct.reverse.flags = 0 := (hs.conns _ v hv).1
    rw [ConnTuple.reverse, if_pos hflags] at hreverse
    exact absurd (show (1 : UInt8) = 0 from hreverse) (by decide)

/-- And so has what the connection table passes. -/
theorem checkFlow_accounted (now : UInt64) {ct : ConnTuple} {protocol : UInt8} {s : XdpState}
    (hs : s.Accounted O) (hflags : ct.flags = 0) (hprotocol : ct.nexthdr = nexthdrOf protocol) :
    (checkFlow now ct protocol s).1.Accounted O ∧
      ((checkFlow now ct protocol s).2 = .pass → ∃ e, ct.Backed O e ∧ ¬ e < now) := by
  unfold checkFlow checkConn
  rw [connTrack_reverse hs hflags]
  cases hv : s.connTrack ct with
  | none => exact checkRules_accounted hs hflags fun k hk => ⟨protocol, hprotocol, hk⟩
  | some v =>
    obtain ⟨-, hbacked⟩ := hs.conns ct v hv
    dsimp only
    split
    · rename_i heq
      split at heq <;> cases heq
      · exact ⟨hs.untrack ct, fun h => by cases h⟩
      · rename_i hexpired
        refine ⟨hs.track hflags hbacked, fun _ => ⟨_, hbacked, ?_⟩⟩
        simpa [ConnValue.expired] using hexpired
    · rename_i heq
      split at heq <;> cases heq

/-- **Frames and origins.**  The program keeps the accounts, and the frames that the maps or the
    connection table let in are covered by an origin that has not expired. -/
theorem xdpWhiteProg_accounted {now : UInt64} {data : Bytes} {s : XdpState} (hs : s.Accounted O) :
    (xdpWhiteProg now data s).1.Accounted O ∧
      ((xdpWhiteProg now data s).2 = .pass → (∃ v, readFrame data = .fixed v) ∨
        ∃ m key e, (readFrame data).CoveredBy m key ∧ O m key e ∧ ¬ e < now) := by
  rw [xdpWhiteProg_read]
  have hinward := readFrame_inward data
  cases hread : readFrame data with
  | fixed v => exact ⟨hs, fun _ => .inl ⟨v, rfl⟩⟩
  | echo key ct =>
    rw [Reading.judge, checkIcmp, if_neg (by decide), if_pos rfl]
    cases hv : s.maps .icmpwhitelist key with
    | none => exact ⟨hs, fun h => by cases h⟩
    | some v =>
      obtain ⟨hallowed, hO⟩ := hs.rules _ _ v hv
      dsimp only
      by_cases hexpired : v.expireTime < now
      · rw [if_pos hexpired]
        exact ⟨hs.deleteRule _ _, fun h => by cases h⟩
      · rw [if_neg hexpired, if_pos hallowed]
        exact ⟨hs, fun _ => .inr ⟨_, key, v.expireTime, ⟨rfl, rfl⟩, hO, hexpired⟩⟩
  | flow ct protocol =>
    rw [hread] at hinward
    obtain ⟨hacc, hpass⟩ := checkFlow_accounted now hs hinward.1 hinward.2
    refine ⟨hacc, fun h => .inr ?_⟩
    obtain ⟨e, ⟨m, key, hkey, hO⟩, hlive⟩ := hpass h
    exact ⟨m, key, e, hkey, hO, hlive⟩

end Origins

/-! ## Runs of a host -/

/-- A host with its clock, and for the record what userland has installed and when the egress program
    has handled a frame of which key. -/
structure Host where
  clock : UInt64
  xdp : XdpState
  installed : List MapUpdate
  sent : List (Bytes × UInt64)

/-- After the pinned maps have been removed and the programs loaded. -/
def Host.boot (clock : UInt64) : Host := ⟨clock, ⟨fun _ _ => none, fun _ => none⟩, [], []⟩

/-- What happens on a host. -/
inductive HostEvent
  | addRule (mapType : Int) (params : EbpfRuleParams) (ttlSec : Int)
  | ingress (data : Bytes)
  | egress (data : Bytes)
  | tick (now : UInt64)
  /-- The maps evict their oldest entries when they are full. -/
  | evictRule (m : MapName) (key : Bytes)
  | evictConn (t : ConnTuple)

/-- Userland adds a rule. -/
def Host.install (h : Host) (u : MapUpdate) : Host :=
  { h with xdp := h.xdp.updateRule u.map u.key u.value, installed := h.installed ++ [u] }

/-- One event; time does not go back, and userland reads the clock that the programs read. -/
def Host.step (net6 : Net6) (h : Host) : HostEvent → Option Host
  | .addRule mapType params ttlSec =>
    match ebpfRuleAdd net6 h.clock mapType params ttlSec with
    | .error _ => some h
    | .ok u => some (h.install u)
  | .ingress data => some { h with xdp := (xdpWhiteProg h.clock data h.xdp).1 }
  | .egress data => some { h with
      xdp := tcEgressProg h.clock data h.xdp
      sent := h.sent ++ (egressKey data).toList.map fun key => (key, h.clock) }
  | .tick now => if h.clock ≤ now then some { h with clock := now } else none
  | .evictRule m key => some { h with xdp := h.xdp.deleteRule m key }
  | .evictConn t => some { h with xdp := h.xdp.untrack t }

/-- What has opened a key: a rule of userland, or a frame that left. -/
def Host.Origin (h : Host) (m : MapName) (key : Bytes) (expireTime : UInt64) : Prop :=
  (∃ u ∈ h.installed, u.map = m ∧ u.key = key ∧ u.value.expireTime = expireTime) ∨
    (m = .spp ∧ ∃ now, (key, now) ∈ h.sent ∧ now + egressLifetime = expireTime)

/-- Every event keeps the invariant. -/
theorem Host.step_accounted {net6 : Net6} {h h' : Host} {e : HostEvent} (hs : h.xdp.Accounted h.Origin)
    (hstep : h.step net6 e = some h') : h'.xdp.Accounted h'.Origin := by
  cases e with
  | addRule mapType params ttlSec =>
    rw [Host.step] at hstep
    cases hu : ebpfRuleAdd net6 h.clock mapType params ttlSec with
    | error _ =>
      rw [hu] at hstep
      cases hstep
      exact hs
    | ok u =>
      rw [hu] at hstep
      cases hstep
      -- What was an origin before stays one: rules and frames are only ever added.
      have hmono : ∀ m key e, h.Origin m key e → (h.install u).Origin m key e := by
        rintro m key e (⟨u', hu', hrest⟩ | hsent)
        · exact .inl ⟨u', List.mem_append_left _ hu', hrest⟩
        · exact .inr hsent
      exact (hs.mono hmono).updateRule rfl
        (.inl ⟨u, List.mem_append_right _ List.mem_cons_self, rfl, rfl, rfl⟩)
  | ingress data =>
    cases hstep
    exact (xdpWhiteProg_accounted hs).1
  | egress data =>
    cases hstep
    unfold tcEgressProg
    cases hkey : egressKey data with
    | none =>
      refine hs.mono fun m key e hO => ?_
      simpa [Host.Origin] using hO
    | some key =>
      refine (hs.mono ?_).updateRule rfl (.inr ⟨rfl, h.clock, by simp, rfl⟩)
      rintro m key e (hrule | ⟨hm, now, hsent, he⟩)
      · exact .inl hrule
      · exact .inr ⟨hm, now, List.mem_append_left _ hsent, he⟩
  | tick now =>
    rw [Host.step] at hstep
    split at hstep <;> cases hstep
    exact hs
  | evictRule m key =>
    cases hstep
    exact hs.deleteRule m key
  | evictConn t =>
    cases hstep
    exact hs.untrack t

/-- There are no entries at boot. -/
theorem Host.boot_accounted (clock : UInt64) :
    (Host.boot clock).xdp.Accounted (Host.boot clock).Origin := by
  constructor
  · intro m key v h
    cases h
  · intro t v h
    cases h

/-! ## Access ends with the rules -/

/-- The verdict depends on the frame alone. -/
def Reading.isFixed : Reading → Bool
  | .fixed _ => true
  | .echo .. => false
  | .flow .. => false

/-- The frame is one of those that the maps and the connection table decide about. -/
def Judged (data : Bytes) : Prop := (readFrame data).isFixed = false

instance (data : Bytes) : Decidable (Judged data) := inferInstanceAs (Decidable (_ = _))

/-- All rules that userland has installed for a frame have expired. -/
def Host.RulesExpired (h : Host) (data : Bytes) : Prop :=
  ∀ u ∈ h.installed, (readFrame data).CoveredBy u.map u.key → u.value.expireTime < h.clock

/-- For as long as an entry of the egress program lasts no frame has left that the frame answers. -/
def Host.EgressExpired (h : Host) (data : Bytes) : Prop :=
  ∀ key now, (key, now) ∈ h.sent → (readFrame data).CoveredBy .spp key → now + egressLifetime < h.clock

/-- **Access is bounded in time.**  Behind every run a frame whose rules have all expired is dropped,
    unless a frame that it answers has left within the lifetime of the egress program's entries. -/
theorem access_time_bounded {net6 : Net6} {clock : UInt64} {events : List HostEvent} {h : Host}
    (hrun : run (Host.step net6) (.boot clock) events = some h) {data : Bytes} (hjudged : Judged data)
    (hrules : h.RulesExpired data) (hegress : h.EgressExpired data) :
    (xdpWhiteProg h.clock data h.xdp).2 = .drop := by
  have hacc : h.xdp.Accounted h.Origin :=
    run_invariant (I := fun h => h.xdp.Accounted h.Origin) (fun _ _ _ => Host.step_accounted)
      (Host.boot_accounted clock) hrun
  cases hverdict : (xdpWhiteProg h.clock data h.xdp).2 with
  | drop => rfl
  | pass =>
    obtain ⟨v, hfixed⟩ | ⟨m, key, e, hcovered, hO, hlive⟩ := (xdpWhiteProg_accounted hacc).2 hverdict
    · rw [Judged, hfixed] at hjudged
      cases hjudged
    · obtain ⟨u, hu, rfl, rfl, rfl⟩ | ⟨rfl, now, hsent, rfl⟩ := hO
      · exact absurd (hrules u hu hcovered) hlive
      · exact absurd (hegress key now hsent hcovered) hlive

/-! ## Samples -/

/-- An IPv4 frame without options and with 20 bytes behind the header. -/
def sampleFrame (protocol : UInt8) (src dst : IPv4) (transport : Bytes) : Bytes :=
  List.replicate 12 0 ++ [8, 0] ++ [0x45, 0, 0, 40, 0, 0, 0, 0, 64, protocol, 0, 0] ++ src.bytes ++
    dst.bytes ++ transport ++ List.replicate (20 - transport.length) 0

/-- The addresses of the example. -/
def agentIP : IPv4 := ⟨10, 0, 0, 1⟩
def webIP : IPv4 := ⟨10, 1, 0, 1⟩

/-- From the agent's port 5000 to the service's port 443, and back. -/
def sampleRequest : Bytes := sampleFrame 6 agentIP webIP (putBE 2 5000 ++ putBE 2 443)
/-- A frame of the service to the agent. -/
def sampleAnswer : Bytes := sampleFrame 6 webIP agentIP (putBE 2 443 ++ putBE 2 5000)

/-- A rule for 60 seconds, an answer of the service after 50. -/
def answeredRun : List HostEvent :=
  [.addRule 1 { srcIP := "10.0.0.1", dstIP := "10.1.0.1", dstPort := 443, protocol := "tcp" } 60,
   .tick 50000000000, .egress sampleAnswer, .tick 200000000000]

/-- A rule for ICMP for 60 seconds and one for protocol 0 for a second; an ICMP message of type 13. -/
def mixedRun : List HostEvent :=
  [.addRule 1 { srcIP := "10.0.0.1", dstIP := "10.1.0.1", protocol := "icmp" } 60,
   .addRule 1 { srcIP := "10.0.0.1", dstIP := "10.1.0.1" } 1,
   .ingress (sampleFrame 1 agentIP webIP [13, 0]), .tick 30000000000]

/-- The keys of a frame's own flow. -/
def Reading.ownKeys : Reading → List (MapName × Bytes)
  | .fixed _ => []
  | .echo key _ => [(.icmpwhitelist, key)]
  | .flow ct protocol => whitelistKeys ct protocol

/-- The rules that were added for the keys of a frame have expired. -/
def Host.OwnRulesExpired (h : Host) (data : Bytes) : Prop :=
  ∀ u ∈ h.installed, (u.map, u.key) ∈ (readFrame data).ownKeys → u.value.expireTime < h.clock

instance (h : Host) (data : Bytes) : Decidable (h.OwnRulesExpired data) :=
  inferInstanceAs (Decidable (∀ u ∈ h.installed, _ → _))

/-- No addresses of the other family. -/
def noNet6 : Net6 := ⟨fun _ => none, fun _ => ""⟩

/-- After 200 seconds the rule of 60 seconds still lets the agent's frames in, since the service has
    answered; and a frame of protocol 0 is let in by the connection of an ICMP message. -/
theorem access_extended :
    (∃ h, run (Host.step noNet6) (.boot 0) answeredRun = some h ∧ Judged sampleRequest ∧
      h.installed.length = 1 ∧ h.OwnRulesExpired sampleRequest ∧
      (xdpWhiteProg h.clock sampleRequest h.xdp).2 = .pass) ∧
    ∃ h, run (Host.step noNet6) (.boot 0) mixedRun = some h ∧
      Judged (sampleFrame 0 agentIP webIP []) ∧ h.sent = [] ∧
      h.OwnRulesExpired (sampleFrame 0 agentIP webIP []) ∧
      (xdpWhiteProg h.clock (sampleFrame 0 agentIP webIP []) h.xdp).2 = .pass := by
  refine ⟨⟨_, rfl, ?_, rfl, ?_, ?_⟩, _, rfl, ?_, rfl, ?_, ?_⟩ <;> decide

/-- The key in `spp` that the rule and the answer share. -/
def egressEntry : Bytes := agentIP.bytes ++ webIP.bytes ++ putBE 2 443 ++ [6]

/-- After 300 seconds, the answer more than 180 seconds old. -/
def endedRun : List HostEvent := answeredRun ++ [.tick 300000000000]

/-- Once the answer is 180 seconds old, the agent's frames are dropped. -/
theorem access_ended : ∃ h, run (Host.step noNet6) (.boot 0) endedRun = some h ∧
    (xdpWhiteProg h.clock sampleRequest h.xdp).2 = .drop := by
  refine ⟨_, rfl, access_time_bounded
    (show run (Host.step noNet6) (.boot 0) endedRun = some _ from rfl) (by decide) ?_ ?_⟩
  · have hall : ∀ u ∈ [(⟨.spp, egressEntry, 0, 60⟩ : MapUpdate)],
        u.value.expireTime < 300000000000 := by decide
    exact fun u hu _ => hall u hu
  · have hall : ∀ p ∈ [(egressEntry, (50000000000 : UInt64))],
        p.2 + egressLifetime < 300000000000 := by decide
    exact fun key now hsent _ => hall (key, now) hsent

end OpenNHP.AC
