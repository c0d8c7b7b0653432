/-
  Which port the XDP filter judges a frame by.

  1. **The program.**  `xdp_white_prog` takes the ports of its keys from the bytes behind a header without
     options, whatever `ihl` and the fragment offset say; the exception for SSH, `tc_egress_prog` and the host
     take them from the place where the transport header really starts, in the first fragment.

  2. **The property.**  `JudgedByRealPort`: where the ground on which a frame is passed (an exception, a rule or a
     connection) depends on a port, the bytes it looks at are that port of the packet's first fragment.

  3. **Grounds.**  `ground` names what a frame is passed for, in the order of the program, and whether that looks
     at the source port or at the destination port; a frame is passed exactly when it has a ground
     (`pass_iff_ground`).

  4. **The result.**  Whatever the tables hold, a frame is judged by its real ports exactly when those are in
     place (`PortsInPlace`); and all frames of a shape are exactly when it is the shape of a first fragment
     without options (`real_port_judged`): for every other shape there are bytes that have the two readings
     differ.  `disguised_frame_passes` has some: options that read like the ports of an open flow.
-/
import OpenNHP.AC.LiveRules

namespace OpenNHP.AC

open Inet BigEndian FirstMatch

/-! ## Fragments -/

/-- The fragment offset, in units of eight bytes. -/
def fragmentOffset (data : Bytes) : Nat := getBE (slice 20 2 data) % 8192

/-- The ports as the transport header has them. -/
def realSource (data : Bytes) : Bytes := slice (transportStart data) 2 data
/-- The destination port where it really is. -/
def realDest (data : Bytes) : Bytes := slice (transportStart data + 2) 2 data

/-- Two frames are fragments of one packet. -/
structure SamePacket (data data' : Bytes) : Prop where
  identification : slice 18 2 data = slice 18 2 data'
  protocol : frameProtocol data = frameProtocol data'
  addresses : slice 26 8 data = slice 26 8 data'

/-- The frame carries TCP or UDP over IPv4, and `first` is the first fragment of its packet: the frame
    itself, if that is one. -/
structure FirstFragment (first data : Bytes) : Prop where
  etherType : getBE (slice 12 2 data) = 0x0800
  protocol : frameProtocol data = 6 ∨ frameProtocol data = 17
  packet : SamePacket first data
  offset : fragmentOffset first = 0
  length : transportStart first + 4 ≤ first.length
  self : fragmentOffset data = 0 → first = data

/-- The egress program reads the port from the transport header. -/
theorem egressKey_realSource {data key : Bytes} (h : egressKey data = some key)
    (hprotocol : frameProtocol data = 6 ∨ frameProtocol data = 17) :
    key = slice 30 4 data ++ slice 26 4 data ++ realSource data ++ [frameProtocol data] := by
  unfold egressKey at h
  dsimp only at h
  split_ifs at h with _ _ _ _ htcp _ hudp _ hicmp
  · exact (Option.some.inj h).symm
  · exact (Option.some.inj h).symm
  · rcases hprotocol with hprotocol | hprotocol
    · exact absurd hprotocol htcp
    · exact absurd hprotocol hudp

/-! ## What a frame is passed by -/

/-- What lets a frame in, other than SSH's port. -/
inductive Ground
  /-- the destination port of DHCP -/
  | dhcp
  /-- the source port of DNS -/
  | dns
  | conn
  | rule (m : MapName)
  deriving DecidableEq, Repr

/-- The destination port matters. -/
def Ground.usesDest : Ground → Bool
  | .dhcp | .conn => true
  | .rule m => m = .spp ∨ m = .srcPort ∨ m = .protocolPort
  | .dns => false

/-- The ground looks at the source port. -/
def Ground.usesSource : Ground → Bool
  | .dns | .conn => true
  | _ => false

/-- The destination port is one of DHCP's. -/
def DhcpPort (data : Bytes) : Prop := slice 36 2 data = putBE 2 67 ∨ slice 36 2 data = putBE 2 68

instance (data : Bytes) : Decidable (DhcpPort data) := inferInstanceAs (Decidable (_ ∨ _))

/-- What the tables let a tuple in by. -/
def flowGround (now : UInt64) (ct : ConnTuple) (protocol : UInt8) (s : XdpState) : Option Ground :=
  match checkConn now ct s with
  | some (_, .pass) => some .conn
  | some (_, .drop) => none
  | none => (passing (s.answer now) (whitelistKeys ct protocol)).map fun k => .rule k.1

/-- What `xdp_white_prog` lets a TCP or UDP frame in by. -/
def ground (now : UInt64) (data : Bytes) (s : XdpState) : Option Ground :=
  match readFrame data with
  | .flow ct protocol => flowGround now ct protocol s
  | .fixed .pass =>
    if frameProtocol data = 6 then none
    else if DhcpPort data then some .dhcp
    else some .dns
  | _ => none

/-- A flow is passed exactly when there is a ground. -/
theorem isSome_flowGround {now : UInt64} {ct : ConnTuple} {protocol : UInt8} {s : XdpState} :
    (flowGround now ct protocol s).isSome ↔ (checkFlow now ct protocol s).2 = .pass := by
  unfold flowGround checkFlow
  cases hconn : checkConn now ct s with
  | none =>
    show ((passing _ _).map _).isSome ↔ (checkRules now ct (whitelistKeys ct protocol) s).2 = .pass
    rw [Option.isSome_map, isSome_passing, checkRules_eq_pass]
  | some r =>
    obtain ⟨s', v⟩ := r
    cases v <;> simp

/-- The frame has not been read as an echo request. -/
def Reading.NotEcho : Reading → Prop
  | .echo _ _ => False
  | _ => True

/-- Only ICMP frames are read as echo requests. -/
theorem readFrame_notEcho {data : Bytes} (hprotocol : frameProtocol data = 6 ∨ frameProtocol data = 17) :
    (readFrame data).NotEcho := by
  unfold readFrame
  refine iteInduction (fun _ => trivial) fun _ => iteInduction (fun _ => trivial) fun _ =>
    iteInduction (fun _ => trivial) fun _ => iteInduction (fun _ => trivial) fun _ =>
    iteInduction (fun _ => trivial) fun _ => iteInduction (fun _ => trivial) fun _ =>
    iteInduction (fun _ => ?tcp) fun hntcp => iteInduction (fun _ => ?udp) fun hnudp => ?other
  case tcp =>
    exact iteInduction (fun _ => trivial) fun _ => iteInduction (fun _ => trivial) fun _ =>
      iteInduction (fun _ => trivial) fun _ => trivial
  case udp => exact iteInduction (fun _ => trivial) fun _ => iteInduction (fun _ => trivial) fun _ => trivial
  case other => exact absurd hprotocol (not_or_intro hntcp hnudp)

/-- A TCP or UDP frame is let in by something, or for SSH. -/
theorem pass_iff_ground {now : UInt64} {data : Bytes} {s : XdpState}
    (hprotocol : frameProtocol data = 6 ∨ frameProtocol data = 17) :
    (xdpWhiteProg now data s).2 = .pass ↔
      (ground now data s).isSome ∨ frameProtocol data = 6 ∧ readFrame data = .fixed .pass := by
  have hecho := readFrame_notEcho hprotocol
  rw [xdpWhiteProg_read, ground]
  cases hread : readFrame data with
  | echo key ct =>
    rw [hread] at hecho
    exact hecho.elim
  | flow ct protocol =>
    rw [isSome_flowGround]
    simp [Reading.judge]
  | fixed v =>
    cases v with
    | drop => simp [Reading.judge]
    | pass =>
      rw [Reading.judge]
      dsimp only
      split_ifs with htcp <;> simp [htcp]

/-! ## The condition -/

/-- Some contents of the tables let the frame in by its destination port. -/
def JudgedByDest (data : Bytes) : Prop :=
  (∃ ct protocol, readFrame data = .flow ct protocol) ∨
    readFrame data = .fixed .pass ∧ frameProtocol data ≠ 6 ∧ DhcpPort data

/-- The source port can decide about the frame. -/
def JudgedBySource (data : Bytes) : Prop :=
  (∃ ct protocol, readFrame data = .flow ct protocol) ∨
    readFrame data = .fixed .pass ∧ frameProtocol data ≠ 6 ∧ ¬ DhcpPort data

/-- The bytes behind a header without options are the ports of the transport header, where they matter. -/
def PortsInPlace (first data : Bytes) : Prop :=
  (JudgedByDest data → slice 36 2 data = realDest first) ∧
  (JudgedBySource data → slice 34 2 data = realSource first)

/-- What the frame is let in by has used the ports of the transport header. -/
def JudgedByRealPort (now : UInt64) (first data : Bytes) (s : XdpState) : Prop :=
  ∀ g, ground now data s = some g →
    (g.usesDest = true → slice 36 2 data = realDest first) ∧
      (g.usesSource = true → slice 34 2 data = realSource first)

/-- A connection table that knows one tuple. -/
def trackedOnly (ct : ConnTuple) : XdpState where
  maps _ _ := none
  connTrack t := if t = ct then some ⟨0, 0, 0, 1, 0, 1, 0⟩ else none

/-- Where only a connection is there, it is the ground. -/
theorem flowGround_trackedOnly (ct : ConnTuple) (protocol : UInt8) :
    flowGround 0 ct protocol (trackedOnly ct) = some .conn := by
  have hconn : (trackedOnly ct).connTrack ct = some ⟨0, 0, 0, 1, 0, 1, 0⟩ := if_pos rfl
  rw [flowGround, checkConn, hconn]
  rfl

/-- A frame whose tuple the connection table knows. -/
theorem ground_of_flow {data : Bytes} {ct : ConnTuple} {protocol : UInt8}
    (h : readFrame data = .flow ct protocol) :
    ground 0 data (trackedOnly ct) = some .conn := by
  rw [ground, h]
  exact flowGround_trackedOnly ct protocol

/-- A UDP frame that an exception lets in. -/
theorem ground_of_exception {data : Bytes} (h : readFrame data = .fixed .pass)
    (hntcp : frameProtocol data ≠ 6)
    (now : UInt64) (s : XdpState) : ground now data s = some (if DhcpPort data then .dhcp else .dns) := by
  rw [ground, h]
  dsimp only
  rw [if_neg hntcp]
  split_ifs <;> rfl

/-- In every state the real ports decide, exactly when the ports are in place. -/
theorem judgedByRealPort_iff {first data : Bytes} :
    (∀ now s, JudgedByRealPort now first data s) ↔ PortsInPlace first data := by
  constructor
  · intro h
    constructor
    · rintro (⟨ct, protocol, hread⟩ | ⟨hread, hntcp, hdhcp⟩)
      · exact (h _ _ _ (ground_of_flow hread)).1 rfl
      · have hground := ground_of_exception hread hntcp 0 (trackedOnly (frameTuple data))
        rw [if_pos hdhcp] at hground
        exact (h _ _ _ hground).1 rfl
    · rintro (⟨ct, protocol, hread⟩ | ⟨hread, hntcp, hdhcp⟩)
      · exact (h _ _ _ (ground_of_flow hread)).2 rfl
      · have hground := ground_of_exception hread hntcp 0 (trackedOnly (frameTuple data))
        rw [if_neg hdhcp] at hground
        exact (h _ _ _ hground).2 rfl
  · intro hplace now s g hg
    rw [ground] at hg
    cases hread : readFrame data with
    | echo key ct =>
      rw [hread] at hg
      cases hg
    | flow ct protocol =>
      exact ⟨fun _ => hplace.1 (.inl ⟨ct, protocol, hread⟩), fun _ => hplace.2 (.inl ⟨ct, protocol, hread⟩)⟩
    | fixed v =>
      rw [hread] at hg
      cases v with
      | drop => cases hg
      | pass =>
        dsimp only at hg
        split_ifs at hg with htcp hdhcp
        · cases hg
          exact ⟨fun _ => hplace.1 (.inr ⟨hread, htcp, hdhcp⟩), nofun⟩
        · cases hg
          exact ⟨nofun, fun _ => hplace.2 (.inr ⟨hread, htcp, hdhcp⟩)⟩

/-- A first fragment without options has its ports in place. -/
theorem portsInPlace_plain {first data : Bytes} (h : FirstFragment first data) (hihl : frameIhl data = 5)
    (hoffset : fragmentOffset data = 0) : PortsInPlace first data := by
  obtain rfl := h.self hoffset
  have hstart : transportStart first = 34 := by rw [transportStart, hihl]
  refine ⟨fun _ => ?_, fun _ => ?_⟩
  · rw [realDest, hstart]
  · rw [realSource, hstart]

/-! ## Frames of every shape -/

/-- An Ethernet header and the fixed part of an IPv4 header for TCP. -/
def ipHeader (ihl offset : Nat) : Bytes :=
  List.replicate 12 0 ++ [8, 0] ++ [UInt8.ofNat (64 + ihl), 0, 0, 0, 0, 0] ++
    putBE 2 offset ++ [64, 6, 0, 0] ++
    agentIP.bytes ++ webIP.bytes

/-- Options of zeros and twenty equal bytes behind them. -/
def shapedFrame (ihl offset : Nat) (b : UInt8) : Bytes :=
  ipHeader ihl offset ++ (List.replicate (4 * (ihl - 5)) 0 ++ List.replicate 20 b)

section Shapes

variable {ihl offset : Nat} {b : UInt8}

/-- The frames of a shape: their lengths and fields. -/
theorem length_ipHeader : (ipHeader ihl offset).length = 34 := rfl

/-- They are IPv4, -/
theorem etherType_shaped : getBE (slice 12 2 (shapedFrame ihl offset b)) = 0x0800 := by
  show getBE [8, 0] = 0x0800
  decide

/-- with the header length -/
theorem frameIhl_shaped (h : ihl < 16) : frameIhl (shapedFrame ihl offset b) = ihl := by
  show (UInt8.ofNat (64 + ihl)).toNat % 16 = ihl
  rw [UInt8.toNat_ofNat']
  omega

/-- and the offset of the shape, -/
theorem fragmentOffset_shaped (h : offset < 8192) : fragmentOffset (shapedFrame ihl offset b) = offset := by
  show getBE (putBE 2 offset) % 8192 = offset
  rw [getBE_putBE]
  omega

/-- so the transport header starts behind the options. -/
theorem transportStart_shaped (h : 5 ≤ ihl ∧ ihl < 16) :
    transportStart (shapedFrame ihl offset b) = 34 + 4 * (ihl - 5) := by
  rw [transportStart, frameIhl_shaped h.2]
  omega

/-- They are long enough for it. -/
theorem length_shaped : (shapedFrame ihl offset b).length = 54 + 4 * (ihl - 5) := by
  simp only [shapedFrame, List.length_append, length_ipHeader, List.length_replicate]
  omega

/-- The real port is filled in, -/
theorem realDest_shaped (h : 5 ≤ ihl ∧ ihl < 16) : realDest (shapedFrame ihl offset b) = [b, b] := by
  rw [realDest, transportStart_shaped h, shapedFrame, slice_skip (by rw [length_ipHeader]; omega),
    slice_skip (by rw [length_ipHeader, List.length_replicate]; omega), slice_replicate]
  · rfl
  · rw [length_ipHeader, List.length_replicate]
    omega

/-- The program finds the port, or zeros from the options. -/
theorem slice_shaped : slice 36 2 (shapedFrame ihl offset b) = if ihl ≤ 5 then [b, b] else [0, 0] := by
  rw [shapedFrame, slice_skip (by rw [length_ipHeader]; omega)]
  show slice 2 2 _ = _
  split
  · rename_i hle
    rw [Nat.sub_eq_zero_of_le hle]
    rfl
  · rw [slice_within (by rw [List.length_replicate]; omega), slice_replicate (by omega)]
    rfl

/-- the packet does not depend on it, -/
theorem samePacket_shaped (ihl' offset' : Nat) (b' : UInt8) :
    SamePacket (shapedFrame ihl offset b) (shapedFrame ihl' offset' b') := ⟨rfl, rfl, rfl⟩

/-- and the frame is judged by its port. -/
theorem judgedByDest_shaped (h : 5 ≤ ihl ∧ ihl < 16) (hb : b = 0 ∨ b = 1) :
    JudgedByDest (shapedFrame ihl offset b) := by
  have htcp : frameProtocol (shapedFrame ihl offset b) = 6 := rfl
  have hframe : TransportFrame (shapedFrame ihl offset b) := by
    refine ⟨etherType_shaped, ?_, .inl htcp, ?_⟩
    · rw [frameIhl_shaped h.2]
      exact h.1
    · rw [transportStart_shaped h, length_shaped, if_pos htcp]
      omega
  have hexcepted : ¬ Excepted (shapedFrame ihl offset b) := by
    rw [Excepted, if_pos htcp]
    have hdest :
        slice (transportStart (shapedFrame ihl offset b) + 2) 2 (shapedFrame ihl offset b) = [b, b] :=
      realDest_shaped h
    rw [hdest]
    rcases hb with rfl | rfl <;> decide
  exact .inl ⟨_, _, readFrame_transport hframe hexcepted⟩

/-- Any shape but a first fragment without options can have its ports out of place. -/
theorem exists_misplaced (h : 5 ≤ ihl ∧ ihl < 16) (hoffset : offset < 8192)
    (hshape : ¬ (ihl = 5 ∧ offset = 0)) :
    ∃ first data, FirstFragment first data ∧ frameIhl data = ihl ∧ fragmentOffset data = offset ∧
      ¬ PortsInPlace first data := by
  have hlength : ∀ {ihl' offset' b'}, 5 ≤ ihl' ∧ ihl' < 16 →
      transportStart (shapedFrame ihl' offset' b') + 4 ≤ (shapedFrame ihl' offset' b').length := by
    intro ihl' offset' b' h'
    rw [transportStart_shaped h', length_shaped]
    omega
  by_cases hfirst : offset = 0
  · -- the options come where the ports are looked for
    subst hfirst
    refine ⟨shapedFrame ihl 0 1, shapedFrame ihl 0 1, ⟨etherType_shaped, .inl rfl, samePacket_shaped _ _ _,
      fragmentOffset_shaped hoffset, hlength h, fun _ => rfl⟩, frameIhl_shaped h.2,
        fragmentOffset_shaped hoffset, ?_⟩
    intro hplace
    have hjudged : JudgedByDest (shapedFrame ihl 0 1) := judgedByDest_shaped h (.inr rfl)
    have hports := hplace.1 hjudged
    rw [realDest_shaped h, slice_shaped, if_neg (by omega)] at hports
    exact absurd hports (by decide)
  · -- the payload does
    have hplain : 5 ≤ 5 ∧ 5 < 16 := by decide
    refine ⟨shapedFrame 5 0 1, shapedFrame ihl offset 0, ⟨etherType_shaped, .inl rfl, samePacket_shaped _ _ _,
      fragmentOffset_shaped (by decide), hlength hplain, fun hzero => ?_⟩, frameIhl_shaped h.2,
      fragmentOffset_shaped hoffset, ?_⟩
    · rw [fragmentOffset_shaped hoffset] at hzero
      exact absurd hzero hfirst
    · intro hplace
      have hjudged : JudgedByDest (shapedFrame ihl offset 0) := judgedByDest_shaped h (.inl rfl)
      have hports := hplace.1 hjudged
      rw [realDest_shaped hplain, slice_shaped, ite_self] at hports
      exact absurd hports (by decide)

end Shapes

/-- **The real port.** A frame is judged by the ports of its transport header, whatever the tables hold,
    exactly when those are in place; and no choice of bytes can have a frame of a shape judged by others
    exactly when it is the shape of a first fragment without options. -/
theorem real_port_judged (first data : Bytes) {ihl offset : Nat} (hihl : 5 ≤ ihl ∧ ihl < 16)
    (hoffset : offset < 8192) :
    ((∀ now s, JudgedByRealPort now first data s) ↔ PortsInPlace first data) ∧
    ((∀ first data, FirstFragment first data → frameIhl data = ihl → fragmentOffset data = offset →
      ∀ now s, JudgedByRealPort now first data s) ↔ ihl = 5 ∧ offset = 0) := by
  refine ⟨judgedByRealPort_iff, fun hall => ?_, ?_⟩
  · by_contra hshape
    obtain ⟨first, data, hfirst, hlen, hfrag, hplace⟩ := exists_misplaced hihl hoffset hshape
    exact hplace (judgedByRealPort_iff.mp (hall first data hfirst hlen hfrag))
  · rintro ⟨rfl, rfl⟩ first data hfirst hlen hfrag
    exact judgedByRealPort_iff.mpr (portsInPlace_plain hfirst hlen hfrag)

/-- The request of the example is its own first fragment. -/
theorem sampleRequest_first : FirstFragment sampleRequest sampleRequest where
  etherType := by decide
  protocol := .inl (by decide)
  packet := ⟨rfl, rfl, rfl⟩
  offset := by decide
  length := by decide
  self _ := rfl

/-- The agent's request is judged by its port 443. -/
theorem real_port_judged_sample : JudgedByRealPort 3 sampleRequest sampleRequest mixedRules :=
  (real_port_judged sampleRequest sampleRequest (by decide : 5 ≤ 5 ∧ 5 < 16) (by decide : 0 < 8192)).2.mpr
    ⟨rfl, rfl⟩ sampleRequest sampleRequest sampleRequest_first (by decide) (by decide) 3 mixedRules

/-- A frame to port 8080 whose options read like the ports 5000 and 443. -/
def disguisedFrame : Bytes :=
  ipHeader 6 0 ++ (putBE 2 5000 ++ putBE 2 443) ++ (putBE 2 5000 ++ putBE 2 8080) ++ List.replicate 16 0

/-- With a rule for port 443 it gets in. -/
theorem disguised_frame_passes : ¬ ∀ now first data s,
    FirstFragment first data → JudgedByRealPort now first data s := by
  intro h
  have hfirst : FirstFragment disguisedFrame disguisedFrame :=
    ⟨by decide, .inl (by decide), ⟨rfl, rfl, rfl⟩, by decide, by decide, fun _ => rfl⟩
  have hground : ground 3 disguisedFrame mixedRules = some (.rule .spp) := by decide
  exact absurd ((h 3 _ _ mixedRules hfirst _ hground).1 rfl) (by decide)

end OpenNHP.AC
