/-
  Which entries of the whitelist maps decide about a frame.

  1. **The program.**  `xdp_white_prog` looks at five entries one after the other, those of the keys that it takes
     from a frame of TCP or UDP over IPv4 (`TransportFrame`, `frameKeys`).  A missing entry and one that does not
     allow leave the decision to the next; a live one passes the frame; an expired one drops it at once.

  2. **The property.**  A frame is passed when one of its entries is alive.  That is what the maps are for:
     userland adds rules to them independently of each other, with lifetimes of their own.

  3. **Where it fails.**  An expired entry hides a live entry of a later map (`expired_rule_masks`).

  4. **The result.**  Each entry answers pass, drop or next (`XdpState.answer`), and the loop over the keys is the
     search for the first answer; so a frame without a connection entry is passed exactly when the first entry that
     decides is alive.  `live_rules_pass_iff` says it in terms of the property: all frames with a live entry are
     passed if and only if no live entry stands behind an expired one (`XdpState.MaskedFor`).
-/
import OpenNHP.AC.Egress
import OpenNHP.Lib.FirstMatch

namespace OpenNHP.AC

open Inet BigEndian FirstMatch

/-! ## Frames -/

/-- `ihl`, in 32-bit words. -/
def frameIhl (data : Bytes) : Nat := (data.getD 14 0).toNat % 16

/-- Where the transport header starts: behind the options. -/
def transportStart (data : Bytes) : Nat := 14 + frameIhl data * 4

/-- The protocol of a frame. -/
def frameProtocol (data : Bytes) : UInt8 := data.getD 23 0

/-- The frame is an IPv4 packet for TCP or UDP with a complete transport header. -/
structure TransportFrame (data : Bytes) : Prop where
  etherType : getBE (slice 12 2 data) = 0x0800
  ihl : 5 ≤ frameIhl data
  protocol : frameProtocol data = 6 ∨ frameProtocol data = 17
  length : transportStart data + (if frameProtocol data = 6 then 20 else 8) ≤ data.length

/-- The fixed exceptions for TCP and UDP. -/
def Excepted (data : Bytes) : Prop :=
  if frameProtocol data = 6 then getBE (slice (transportStart data + 2) 2 data) = 22
  else slice 36 2 data = putBE 2 67 ∨ slice 36 2 data = putBE 2 68 ∨ slice 34 2 data = putBE 2 53

/-- The tuple that the program builds from a frame. -/
def frameTuple (data : Bytes) : ConnTuple :=
  ⟨slice 30 4 data, slice 26 4 data, slice 36 2 data, slice 34 2 data, frameProtocol data, 0⟩

/-- The keys of a frame in the five maps. -/
def frameKeys (data : Bytes) : List (MapName × Bytes) := whitelistKeys (frameTuple data) (frameProtocol data)

/-- What the program reads from such a frame. -/
theorem readFrame_transport {data : Bytes} (h : TransportFrame data) (hexcepted : ¬ Excepted data) :
    readFrame data = .flow (frameTuple data) (frameProtocol data) := by
  have hlen := h.length
  have hihl := h.ihl
  have hstart : transportStart data = 14 + frameIhl data * 4 := rfl
  have hlong : 42 ≤ data.length := by
    split at hlen <;> omega
  unfold readFrame
  rw [if_neg (by omega)]
  simp only [h.etherType]
  rw [if_neg (by decide), if_neg (by decide), if_neg (by decide), if_neg (by omega)]
  unfold frameIhl at hihl hstart
  rw [if_neg (by omega)]
  rcases h.protocol with hprotocol | hprotocol
  · rw [if_pos hprotocol] at hlen
    rw [Excepted, if_pos hprotocol] at hexcepted
    have htcp : data.getD 23 0 = 6 := hprotocol
    have hport : getBE (slice (14 + (data.getD 14 0).toNat % 16 * 4 + 2) 2 data) ≠ 22 := hexcepted
    rw [if_pos htcp, if_neg (by omega), if_neg (by omega), if_neg hport, htcp, frameTuple, hprotocol]
  · have hne : frameProtocol data ≠ 6 := by
      rw [hprotocol]
      decide
    rw [Excepted, if_neg hne] at hexcepted
    have hudp : data.getD 23 0 = 17 := hprotocol
    rw [hudp, if_neg (by decide), if_pos rfl, if_neg (by omega), if_neg hexcepted, frameTuple, hprotocol]

/-! ## Entries -/

/-- The map has an entry for the key that allows it and has not expired. -/
def XdpState.Live (s : XdpState) (now : UInt64) (k : MapName × Bytes) : Prop :=
  ∃ v, s.maps k.1 k.2 = some v ∧ ¬ v.expireTime < now ∧ v.allowed = 1

/-- The entry of a key has expired. -/
def XdpState.Expired (s : XdpState) (now : UInt64) (k : MapName × Bytes) : Prop :=
  ∃ v, s.maps k.1 k.2 = some v ∧ v.expireTime < now

/-- The first of the keys whose entry is expired or live is expired, and a later one is live. -/
def XdpState.MaskedFor (s : XdpState) (now : UInt64) (keys : List (MapName × Bytes)) : Prop :=
  ∃ pre k post, keys = pre ++ k :: post ∧ (∀ k' ∈ pre, ¬ s.Expired now k' ∧ ¬ s.Live now k') ∧
    s.Expired now k ∧ ∃ k' ∈ post, s.Live now k'

/-- What the block of one map says. -/
def XdpState.answer (s : XdpState) (now : UInt64) (k : MapName × Bytes) : Answer :=
  match s.maps k.1 k.2 with
  | none => .next
  | some v => if v.expireTime < now then .drop else if v.allowed = 1 then .pass else .next

section Answers

variable {s : XdpState} {now : UInt64} {k : MapName × Bytes}

/-- A live entry passes the frame, -/
theorem answer_eq_pass : s.answer now k = .pass ↔ s.Live now k := by
  unfold XdpState.answer XdpState.Live
  cases s.maps k.1 k.2 with
  | none => simp
  | some v =>
    by_cases hexpired : v.expireTime < now
    · simp [hexpired]
    · by_cases hallowed : v.allowed = 1
      · simp [hexpired, hallowed, UInt64.not_lt.mp hexpired]
      · simp [hexpired, hallowed]

/-- an expired one drops it, -/
theorem answer_eq_drop : s.answer now k = .drop ↔ s.Expired now k := by
  unfold XdpState.answer XdpState.Expired
  cases s.maps k.1 k.2 with
  | none => simp
  | some v =>
    by_cases hexpired : v.expireTime < now
    · simp [hexpired]
    · by_cases hallowed : v.allowed = 1 <;> simp [hexpired, hallowed]

/-- and any other leaves it to the next. -/
theorem answer_eq_next : s.answer now k = .next ↔ ¬ s.Expired now k ∧ ¬ s.Live now k := by
  rw [← answer_eq_pass, ← answer_eq_drop]
  cases s.answer now k <;> simp

/-- The search is hindered where an expired entry comes first. -/
theorem masked_answer {keys : List (MapName × Bytes)} :
    Masked (s.answer now) keys ↔ s.MaskedFor now keys := by
  unfold Masked XdpState.MaskedFor
  simp only [answer_eq_pass, answer_eq_drop, answer_eq_next]

/-- The five blocks are tried in order. -/
theorem checkRules_eq_pass {ct : ConnTuple} {keys : List (MapName × Bytes)} :
    (checkRules now ct keys s).2 = .pass ↔ firstMatch (s.answer now) keys = true := by
  induction keys with
  | nil => simp [checkRules, firstMatch]
  | cons k keys ih =>
    rw [checkRules, firstMatch, XdpState.answer]
    cases s.maps k.1 k.2 with
    | none => exact ih
    | some v =>
      by_cases hexpired : v.expireTime < now
      · simp [hexpired]
      · by_cases hallowed : v.allowed = 1
        · simp [hexpired, hallowed]
        · simpa [hexpired, hallowed] using ih

end Answers

/-- **Live entries.** With an empty connection table a TCP or UDP frame that no exception covers passes
    exactly when some map has a live entry for it, if and only if no expired entry comes before the first
    live one. -/
theorem live_rules_pass_iff {data : Bytes} {now : UInt64} {s : XdpState} (hframe : TransportFrame data)
    (hexcepted : ¬ Excepted data) (hconn : ∀ t, s.connTrack t = none) :
    ((xdpWhiteProg now data s).2 = .pass ↔ ∃ k ∈ frameKeys data, s.Live now k) ↔
      ¬ s.MaskedFor now (frameKeys data) := by
  have hcheck : checkConn now (frameTuple data) s = none := by
    rw [checkConn, hconn, hconn]
  rw [xdpWhiteProg_read, readFrame_transport hframe hexcepted, Reading.judge, checkFlow, hcheck,
    ← masked_answer, ← firstMatch_iff_exists]
  simp only [answer_eq_pass]
  rw [← checkRules_eq_pass]
  rfl

/-! ## Samples -/

instance (data : Bytes) : Decidable (Excepted data) := by
  unfold Excepted
  infer_instance

/-- A rule between the two hosts that lasts until 100, and one for their port 443 that lasted until 5. -/
def mixedRules : XdpState where
  maps m key :=
    if m = .spp ∧ key = agentIP.bytes ++ webIP.bytes ++ putBE 2 443 ++ [6] then some ⟨1, 5⟩
    else if m = .sdwhitelist ∧ key = agentIP.bytes ++ webIP.bytes then some ⟨1, 100⟩
    else none
  connTrack _ := none

/-- The request of the example is a frame of TCP. -/
theorem sampleRequest_transport : TransportFrame sampleRequest where
  etherType := by decide
  ihl := by decide
  protocol := .inl (by decide)
  length := by decide

/-- It has an entry that is alive. -/
theorem mixedRules_live {now : UInt64} (h : ¬ 100 < now) :
    ∃ k ∈ frameKeys sampleRequest, mixedRules.Live now k :=
  ⟨(.sdwhitelist, agentIP.bytes ++ webIP.bytes), by decide, ⟨1, 100⟩, by decide, h, rfl⟩

/-- At time 3 neither rule has expired. -/
theorem live_rules_pass_sample : (xdpWhiteProg 3 sampleRequest mixedRules).2 = .pass := by
  refine ((live_rules_pass_iff sampleRequest_transport (by decide) fun _ => rfl).mpr ?_).mpr
    (mixedRules_live (by decide))
  rintro ⟨pre, k, post, hkeys, -, ⟨v, hv, hexpired⟩, -⟩
  -- neither entry has expired
  have hvalue : v = ⟨1, 5⟩ ∨ v = ⟨1, 100⟩ := by
    dsimp only [mixedRules] at hv
    split_ifs at hv <;> cases hv
    · exact .inl rfl
    · exact .inr rfl
  rcases hvalue with rfl | rfl <;> exact absurd hexpired (by decide)

/-- At time 10 the expired rule hides the other. -/
theorem expired_rule_masks : ¬ ∀ now data s,
    TransportFrame data → ¬ Excepted data → (∀ t, s.connTrack t = none) →
    ((xdpWhiteProg now data s).2 = .pass ↔ ∃ k ∈ frameKeys data, s.Live now k) := by
  intro h
  have hpass := (h 10 sampleRequest mixedRules sampleRequest_transport (by decide) fun _ => rfl).mpr
    (mixedRules_live (by decide))
  exact absurd hpass (by decide)

end OpenNHP.AC
