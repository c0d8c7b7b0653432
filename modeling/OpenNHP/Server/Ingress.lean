/-
  The two ways packets come into the server (`endpoints/server/udpserver.go`, `webrtcserver.go`).

  1. **The program.**  `recvPacketRoutine` reads a datagram into a pool buffer, tests its length and runs
     `RecvPrecheck`, which also records the header type; the handler of a data channel copies a message into a
     pool buffer, slices it and tests its length.  Both hand the packet to `connectionRoutine`, which goes by the
     recorded type.

  2. **The property.**  `Refines`: what becomes of the bytes of a message on a data channel is what becomes of the
     same bytes in a datagram, and the handler does not panic.

  3. **Where it fails.**  Without the precheck the recorded type is the zero value, which is a keepalive's, so
     every message of a data channel is dropped as one (`onMessage_keepalive`); and the slice of a long message
     and the header of an empty one are out of range.

  4. **The result.**  The two ways agree exactly on short messages and keepalives (`ingress_iff`).  Each way has
     one lemma for each kind of message, by length and announced type, and the theorem compares them kind by kind.
-/
import OpenNHP.Core.Routines
import OpenNHP.Core.Wire

namespace OpenNHP.Server.Ingress

open OpenNHP.Core
open OpenNHP.Core.Routines (isTransactionResponse)
open BigEndian (Bytes)

/-! ## Packets in pool buffers -/

/-- `PacketBuffer`. -/
def PacketBuffer : Type := { bytes : Bytes // bytes.length = packetBufferSize }

/-- A read or a `copy` into a buffer: what does not fit is lost, what is behind stays. -/
def PacketBuffer.copy (buf : PacketBuffer) (data : Bytes) : PacketBuffer where
  val := data.take packetBufferSize ++ buf.1.drop data.length
  property := by
    rw [List.length_append, List.length_take, List.length_drop, buf.2]
    omega

/-- `Packet`: `Content` is `Buf[:len]`. -/
structure PoolPacket where
  buf : PacketBuffer
  headerType : HeaderType
  len : Nat

namespace PoolPacket

/-- `AllocatePoolPacket`, with a buffer as the pool has it. -/
def allocate (buf : PacketBuffer) : PoolPacket where
  buf := buf
  headerType := .ofNat 0
  len := packetBufferSize

/-- The bytes of a packet. -/
def content (pkt : PoolPacket) : Packet Bytes := Packet.ofBytes pkt.buf.1 pkt.len

/-- `pkt.Content = pkt.Buf[:n]`. -/
def setContent (pkt : PoolPacket) (n : Nat) : Go PoolPacket :=
  (Go.guardRange (n ≤ packetBufferSize)).bind fun _ => .ok { pkt with len := n }

/-- `MinimalLength`: the header of the content is taken first. -/
def minimalLength (pkt : PoolPacket) : Go Nat :=
  (pkt.content.headerWithCipherScheme .curve).bind fun header => .ok header.size

end PoolPacket

/-! ## Ingress -/

/-- What becomes of a message. -/
inductive Treatment
  /-- shorter than a header -/
  | discarded
  /-- an error of `RecvPrecheck` -/
  | rejected (e : NhpError)
  | keepalive
  /-- sent to a pending transaction -/
  | toTransaction (i : Nat) (pkt : PoolPacket)
  /-- `RecvPacketToMsg` -/
  | toMsg (pkt : PoolPacket)

section

-- `FindLocalTransaction`: the pending transactions of the device
variable (findLocalTransaction : UInt64 → Option Nat)

/-- The case of `RecvQueue` in `connectionRoutine`. -/
def connectionRoutine (pkt : PoolPacket) : Go Treatment :=
  if pkt.headerType = .kpl then .ok .keepalive
  else if isTransactionResponse .server pkt.headerType then
    pkt.content.counter.bind fun transactionId =>
      match findLocalTransaction transactionId with
      | some i => .ok (.toTransaction i pkt)
      | none => .ok (.toMsg pkt)
  else .ok (.toMsg pkt)

/-- A datagram of an address that has a connection and is not blocked, in `recvPacketRoutine`. -/
def recvPacketRoutine (buf : PacketBuffer) (datagram : Bytes) : Go Treatment :=
  let pkt := PoolPacket.allocate (buf.copy datagram)
  let n := min datagram.length packetBufferSize
  pkt.minimalLength.bind fun minimalLength =>
    if n < minimalLength then .ok .discarded
    else
      (pkt.setContent n).bind fun pkt =>
        match recvPrecheck .server pkt.content with
        | .ok (typ, _) => connectionRoutine findLocalTransaction { pkt with headerType := typ }
        | .err e => .ok (.rejected e)
        | .panic => .panic

/-- A binary message of an open channel, in the `OnMessage` of `setupDataChannel`. -/
def onMessage (buf : PacketBuffer) (data : Bytes) : Go Treatment :=
  let pkt := PoolPacket.allocate (buf.copy data)
  (pkt.setContent data.length).bind fun pkt =>
    pkt.minimalLength.bind fun minimalLength =>
      if pkt.len < minimalLength then .ok .discarded
      else connectionRoutine findLocalTransaction pkt

end

/-- The server treats a message of a data channel as it treats a datagram of the same bytes, and does not
    panic. -/
def Refines (findLocalTransaction : UInt64 → Option Nat) (buf buf' : PacketBuffer) (data : Bytes) : Prop :=
  onMessage findLocalTransaction buf data = recvPacketRoutine findLocalTransaction buf' data ∧
    (onMessage findLocalTransaction buf data).Returns

/-- The first bytes of a message announce an empty keepalive. -/
def AnnouncesKeepalive (data : Bytes) : Prop :=
  (HeaderCommon.ofBytes data).typeAndPayloadSize = (.kpl, 0)

instance (data : Bytes) : Decidable (AnnouncesKeepalive data) := by
  unfold AnnouncesKeepalive
  infer_instance

/-! ## What each way does -/

variable {findLocalTransaction : UInt64 → Option Nat} {buf : PacketBuffer} {data : Bytes}

/-- The minimal length of a packet that is not empty. -/
theorem minimalLength_of_pos {pkt : PoolPacket} (h : 1 ≤ pkt.len) :
    pkt.minimalLength = .ok (headerSize .curve) := by
  have hlen : 1 ≤ pkt.content.len := h
  simp [PoolPacket.minimalLength, Packet.headerWithCipherScheme, Go.guardRange, hlen, Header.size]

/-- A length that the buffer has. -/
theorem setContent_of_le {pkt : PoolPacket} {n : Nat} (h : n ≤ packetBufferSize) :
    pkt.setContent n = .ok { pkt with len := n } := by
  simp [PoolPacket.setContent, Go.guardRange, h]

/-- A datagram shorter than a header is discarded. -/
theorem recvPacketRoutine_short (h : data.length < headerSize .curve) :
    recvPacketRoutine findLocalTransaction buf data = .ok .discarded := by
  have hlen : min data.length packetBufferSize < headerSize .curve := by omega
  rw [recvPacketRoutine, minimalLength_of_pos (by decide : 1 ≤ packetBufferSize), Go.bind_ok,
    if_pos hlen]

/-- Any other datagram goes through the precheck. -/
theorem recvPacketRoutine_long (findLocalTransaction) (buf) (h : headerSize .curve ≤ data.length) :
    ∃ pkt : PoolPacket, pkt.buf = buf.copy data ∧ pkt.len = min data.length packetBufferSize ∧
      recvPacketRoutine findLocalTransaction buf data =
        match recvPrecheck .server pkt.content with
        | .ok (typ, _) => connectionRoutine findLocalTransaction { pkt with headerType := typ }
        | .err e => .ok (.rejected e)
        | .panic => .panic := by
  have hsize : headerSize .curve ≤ packetBufferSize := by decide
  have hlen : ¬min data.length packetBufferSize < headerSize .curve := by omega
  refine ⟨{ PoolPacket.allocate (buf.copy data) with len := min data.length packetBufferSize }, rfl, rfl, ?_⟩
  rw [recvPacketRoutine, minimalLength_of_pos (by decide : 1 ≤ packetBufferSize), Go.bind_ok,
    if_neg hlen, setContent_of_le (Nat.min_le_right _ _), Go.bind_ok]

/-- An empty message panics, -/
theorem onMessage_empty : onMessage findLocalTransaction buf [] = .panic := by
  rw [onMessage, setContent_of_le (show ([] : Bytes).length ≤ packetBufferSize by decide), Go.bind_ok]
  rfl

/-- The slice of a message that does not fit is out of range. -/
theorem onMessage_long (h : packetBufferSize < data.length) :
    onMessage findLocalTransaction buf data = .panic := by
  rw [onMessage, PoolPacket.setContent, Go.guardRange, if_neg (by omega), Go.bind_panic, Go.bind_panic]

/-- and a short one is discarded. -/
theorem onMessage_short (hpos : 0 < data.length) (h : data.length < headerSize .curve) :
    onMessage findLocalTransaction buf data = .ok .discarded := by
  have hsize : headerSize .curve ≤ packetBufferSize := by decide
  rw [onMessage, setContent_of_le (by omega), Go.bind_ok, minimalLength_of_pos (show 1 ≤ data.length from hpos),
    Go.bind_ok, if_pos h]

/-- Every other message is dropped as a keepalive. -/
theorem onMessage_keepalive (h : headerSize .curve ≤ data.length) (hfits : data.length ≤ packetBufferSize) :
    onMessage findLocalTransaction buf data = .ok .keepalive := by
  have hpos : 1 ≤ headerSize .curve := by decide
  rw [onMessage, setContent_of_le hfits, Go.bind_ok,
    minimalLength_of_pos (show 1 ≤ data.length from hpos.trans h), Go.bind_ok, if_neg (Nat.not_lt.mpr h)]
  rfl

/-! ## The agreement -/

/-- The header in the buffer is that of the message. -/
theorem common_copy (h : headerSize .curve ≤ data.length) (hfits : data.length ≤ packetBufferSize) (n : Nat) :
    (Packet.ofBytes (buf.copy data).1 n).common = HeaderCommon.ofBytes data := by
  have hcommon : headerCommonSize ≤ data.length := le_trans (by decide) h
  show HeaderCommon.ofBytes (data.take packetBufferSize ++ buf.1.drop data.length) = _
  rw [List.take_of_length_le hfits, HeaderCommon.ofBytes_append hcommon]

/-- A datagram is dropped as a keepalive exactly when it announces one. -/
theorem recvPacketRoutine_keepalive (h : headerSize .curve ≤ data.length)
    (hfits : data.length ≤ packetBufferSize) :
    recvPacketRoutine findLocalTransaction buf data = .ok .keepalive ↔ AnnouncesKeepalive data := by
  obtain ⟨pkt, hbuf, hlen, hroutine⟩ :=
    recvPacketRoutine_long findLocalTransaction buf h
  have hcommon : pkt.content.common = HeaderCommon.ofBytes data := by
    rw [PoolPacket.content, hbuf]
    exact common_copy h hfits pkt.len
  rw [hroutine, AnnouncesKeepalive, ← hcommon]
  constructor
  · intro hkeepalive
    cases hprecheck : recvPrecheck .server pkt.content with
    | ok ts =>
      obtain ⟨typ, size⟩ := ts
      rw [hprecheck] at hkeepalive
      obtain ⟨-, hts, hcase⟩ := recvPrecheck_eq_ok.mp hprecheck
      -- A packet of another type goes to a transaction or to a worker, and is not dropped.
      have htyp : typ = .kpl := by
        by_contra hne
        simp only [connectionRoutine, if_neg hne] at hkeepalive
        split_ifs at hkeepalive
        · rcases Go.bind_eq_ok.mp hkeepalive with ⟨transactionId, -, hfound⟩
          split at hfound <;> cases hfound
        · cases hkeepalive
      rcases hcase with ⟨-, rfl⟩ | ⟨hne, -⟩
      · rw [hts, htyp]
      · exact absurd htyp hne
    | err e =>
      rw [hprecheck] at hkeepalive
      cases hkeepalive
    | panic =>
      rw [hprecheck] at hkeepalive
      cases hkeepalive
  · intro hannounced
    have h12 : 12 ≤ headerSize .curve := by decide
    have hcontent : 12 ≤ pkt.content.len := by
      show 12 ≤ pkt.len
      rw [hlen]
      omega
    rw [recvPrecheck_eq_ok.mpr ⟨hcontent, hannounced, .inl ⟨rfl, rfl⟩⟩]
    rfl

/-- For every message, pool buffer and set of pending transactions: the two ways agree, without a panic,
    exactly on messages that are shorter than a header but not empty, and on keepalives that fit a
    buffer. -/
theorem ingress_iff (findLocalTransaction : UInt64 → Option Nat) (buf buf' : PacketBuffer) (data : Bytes) :
    Refines findLocalTransaction buf buf' data ↔
      0 < data.length ∧ data.length ≤ packetBufferSize ∧
        (data.length < headerSize .curve ∨ AnnouncesKeepalive data) := by
  rcases Nat.eq_zero_or_pos data.length with hempty | hpos
  · rw [List.length_eq_zero_iff.mp hempty, Refines, onMessage_empty]
    exact iff_of_false (fun h => h.2) fun h => absurd h.1 (Nat.lt_irrefl 0)
  by_cases hfits : data.length ≤ packetBufferSize
  · by_cases hshort : data.length < headerSize .curve
    · rw [Refines, onMessage_short hpos hshort, recvPacketRoutine_short hshort]
      exact iff_of_true ⟨rfl, trivial⟩ ⟨hpos, hfits, .inl hshort⟩
    · have hlong : headerSize .curve ≤ data.length := Nat.le_of_not_lt hshort
      rw [Refines, onMessage_keepalive hlong hfits, eq_comm, recvPacketRoutine_keepalive hlong hfits]
      constructor
      · rintro ⟨hannounced, -⟩
        exact ⟨hpos, hfits, .inr hannounced⟩
      · rintro ⟨-, -, hcase⟩
        exact ⟨hcase.resolve_left hshort, trivial⟩
  · rw [Refines, onMessage_long (Nat.lt_of_not_le hfits)]
    exact iff_of_false (fun h => h.2) fun h => hfits h.2.1

/-- A knock of the curve scheme without a body, as far as the precheck reads it. -/
def knock : Bytes := [0, 0, 0, 0, 0, 1, 0, 0] ++ List.replicate 232 0

/-- A buffer that nothing was read into yet. -/
def zeroBuffer : PacketBuffer := ⟨List.replicate packetBufferSize 0, List.length_replicate⟩

/-- The knock of the example is long enough, -/
theorem length_knock : knock.length = 240 := by
  rw [knock, List.length_append, List.length_replicate]
  rfl

/-- and says what it is. -/
theorem announced_knock : (HeaderCommon.ofBytes knock).typeAndPayloadSize = (.knk, 0) := by decide

/-- With no transaction pending, the knock goes to the device from UDP and is dropped as a keepalive from a
    data channel. -/
theorem knock_dropped :
    onMessage (fun _ => none) zeroBuffer knock = .ok .keepalive ∧
      (∃ pkt, recvPacketRoutine (fun _ => none) zeroBuffer knock = .ok (.toMsg pkt) ∧
        pkt.headerType = .knk) ∧
      ¬Refines (fun _ => none) zeroBuffer zeroBuffer knock := by
  have hlong : headerSize .curve ≤ knock.length := length_knock.symm ▸ by decide
  have hfits : knock.length ≤ packetBufferSize := length_knock.symm ▸ by decide
  obtain ⟨pkt, hbuf, hlen, hroutine⟩ :=
    recvPacketRoutine_long (fun _ => none) zeroBuffer hlong
  have hcommon : pkt.content.common = HeaderCommon.ofBytes knock := by
    rw [PoolPacket.content, hbuf]
    exact common_copy hlong hfits pkt.len
  have hcontent : pkt.content.len = 240 := by
    rw [length_knock] at hlen
    exact hlen
  have hprecheck : recvPrecheck .server pkt.content = .ok (.knk, 0) := by
    refine recvPrecheck_eq_ok.mpr ⟨by omega, hcommon ▸ announced_knock, .inr ⟨nofun, rfl, ?_⟩⟩
    rw [hcontent, hcommon]
    decide
  have hmessage : onMessage (fun _ => none) zeroBuffer knock = .ok .keepalive :=
    onMessage_keepalive hlong hfits
  have hdatagram : recvPacketRoutine (fun _ => none) zeroBuffer knock
      = .ok (.toMsg { pkt with headerType := .knk }) := by
    rw [hroutine, hprecheck]
    rfl
  refine ⟨hmessage, ⟨_, hdatagram, rfl⟩, fun hrefines => ?_⟩
  rw [Refines, hmessage, hdatagram] at hrefines
  cases hrefines.1

end OpenNHP.Server.Ingress
