/-
  The reads of a temporary TCP port, one by one: the part of `tcpTempAccessHandler` between `Accept` and
  `RecvPacketToMsg` (`endpoints/ac/msghandler.go`).

  1. **The program.**  The handler reads the common header into a pool buffer, and then as much as that announces,
     for which it slices the buffer.  The client decides how many bytes each read returns and when it closes.

  2. **The property.**  `InBounds`: every slice is within the buffer, and what is handed on is as long as announced
     and is what the client sent, byte for byte.

  3. **Where it fails.**  The announced size has 16 bits and is not compared with the buffer's, so a header that
     announces more than the buffer holds is the end of the process (`long_claim_panics`).

  4. **The result.**  With every other header the packet is what was announced and sent: `reads_inBounds_iff` says
     it of every 24 bytes that a header may be, and of every way in which the rest may arrive.  For a client whose
     bytes all arrive at once this is the reading of `TempAccess` (`tcpAccessMessage_eq`).
-/
import OpenNHP.AC.TempAccess
import OpenNHP.Server.Ingress

namespace OpenNHP.AC.TempPacket

open OpenNHP.Core
open Server.Ingress (PacketBuffer PoolPacket)
open BigEndian (Bytes)

/-! ## Reads -/

/-- A connection: what the client sends, and for each `Read` how much of it there is by then, and whether the
    read fails. -/
structure Conn where
  stream : Bytes
  reads : List (Nat × Bool)

/-- What a `Read` returns, and the connection behind it. -/
structure Result where
  got : Bytes
  failed : Bool
  conn : Conn

/-- `Read` into a slice of a length.  There is an end to the reads, the deadline. -/
def Conn.read (conn : Conn) (size : Nat) : Result :=
  match conn.reads with
  | [] => ⟨[], true, conn⟩
  | (n, failed) :: reads =>
    let got := conn.stream.take (min n size)
    ⟨got, failed, ⟨conn.stream.drop got.length, reads⟩⟩

/-- A buffer keeps its length. -/
theorem length_fill {buf : Bytes} (hbuf : buf.length = packetBufferSize) (off : Nat) (data : Bytes) :
    ((buf.take off ++ data ++ buf.drop (off + data.length)).take packetBufferSize).length = packetBufferSize := by
  rw [List.length_take, List.length_append, List.length_append, List.length_take, List.length_drop, hbuf]
  omega

/-- The buffer behind a read into it. -/
def fill (buf : PacketBuffer) (off : Nat) (data : Bytes) : PacketBuffer :=
  ⟨(buf.1.take off ++ data ++ buf.1.drop (off + data.length)).take packetBufferSize, length_fill buf.2 off data⟩

/-- The packet that `tcpTempAccessHandler` hands to `RecvPacketToMsg`; `none` where it gives up. -/
def tcpPacket (buf : PacketBuffer) (conn : Conn) : Go (Option PoolPacket) :=
  -- Buf[:HeaderCommonSize]
  (Go.guardRange (headerCommonSize ≤ packetBufferSize)).bind fun _ =>
  let r := conn.read headerCommonSize
  let n := r.got.length
  if r.failed ∨ n < headerCommonSize then .ok none
  else
    ((PoolPacket.allocate (fill buf 0 r.got)).setContent n).bind fun pkt =>
    pkt.content.headerTypeAndSize.bind fun (msgType, msgSize) =>
    if msgType ≠ .acc then .ok none
    else
      pkt.content.header.bind fun header =>
      let packetSize := header.size + msgSize
      let remainingSize := packetSize - n
      -- Buf[n:packetSize]
      (Go.guardRange (n ≤ packetSize ∧ packetSize ≤ packetBufferSize)).bind fun _ =>
      let r := r.conn.read remainingSize
      if r.failed ∨ r.got.length < remainingSize then .ok none
      else
        (PoolPacket.setContent { pkt with buf := fill pkt.buf n r.got, headerType := msgType } packetSize).bind
          fun pkt => .ok (some pkt)

/-- The bytes of `Content`. -/
def bytes (pkt : PoolPacket) : Bytes := pkt.buf.1.take pkt.len

/-! ## Bounds -/

/-- The type that a common header claims, and the size with that of the header itself. -/
def claimedType (bs : Bytes) : HeaderType := (HeaderCommon.ofBytes bs).typeAndPayloadSize.1
/-- The size that a header announces, its own bytes included. -/
def claimedSize (bs : Bytes) : Nat :=
  headerSize (Packet.flagScheme (HeaderCommon.ofBytes bs).flag) + (HeaderCommon.ofBytes bs).typeAndPayloadSize.2

/-- No index is out of range, and the packet has the size that its header claims, of bytes that were sent. -/
def InBounds (buf : PacketBuffer) (conn : Conn) : Prop :=
  tcpPacket buf conn ≠ .panic ∧
    ∀ pkt, tcpPacket buf conn = .ok (some pkt) →
      (bytes pkt).length = claimedSize (bytes pkt) ∧ bytes pkt <+: conn.stream

/-- A handler that gives up has read in bounds. -/
theorem inBounds_of_none {buf : PacketBuffer} {conn : Conn} (h : tcpPacket buf conn = .ok none) :
    InBounds buf conn := by
  rw [InBounds, h]
  constructor
  · intro hpanic
    cases hpanic
  · intro pkt hpkt
    cases hpkt

/-- The common header arrives with the first read. -/
def Conn.HasHeader (conn : Conn) : Prop :=
  (conn.read headerCommonSize).failed = false ∧ headerCommonSize ≤ (conn.read headerCommonSize).got.length

instance (conn : Conn) : Decidable conn.HasHeader := by
  unfold Conn.HasHeader
  infer_instance

/-- What is claimed of an access message fits the buffer. -/
def Fits (conn : Conn) : Prop :=
  conn.HasHeader → claimedType (conn.stream.take headerCommonSize) = .acc →
    claimedSize (conn.stream.take headerCommonSize) ≤ packetBufferSize

variable {buf : PacketBuffer} {conn : Conn}

/-- A read returns no more than was asked for. -/
theorem length_read_le (conn : Conn) (size : Nat) : (conn.read size).got.length ≤ size := by
  unfold Conn.read
  split
  · exact Nat.zero_le _
  · rw [List.length_take]
    omega

/-- What is read is the first of what is there, and the rest is left. -/
theorem read_append (conn : Conn) (size : Nat) :
    conn.stream = (conn.read size).got ++ (conn.read size).conn.stream := by
  unfold Conn.read
  split
  · rfl
  · rename_i n failed reads _
    show conn.stream = conn.stream.take (min n size) ++ conn.stream.drop (conn.stream.take (min n size)).length
    rw [List.length_take]
    rcases Nat.le_total (min n size) conn.stream.length with hle | hle
    · rw [Nat.min_eq_left hle, List.take_append_drop]
    · rw [List.take_of_length_le hle, List.drop_of_length_le (by omega), List.append_nil]

/-- A header that arrives is the first of what is sent. -/
theorem Conn.HasHeader.got (h : conn.HasHeader) :
    (conn.read headerCommonSize).got = conn.stream.take headerCommonSize ∧
      (conn.read headerCommonSize).got.length = headerCommonSize := by
  have hlen : (conn.read headerCommonSize).got.length = headerCommonSize :=
    Nat.le_antisymm (length_read_le conn headerCommonSize) h.2
  refine ⟨?_, hlen⟩
  calc (conn.read headerCommonSize).got
      = ((conn.read headerCommonSize).got ++ (conn.read headerCommonSize).conn.stream).take
          (conn.read headerCommonSize).got.length := List.take_left.symm
    _ = conn.stream.take headerCommonSize := by rw [← read_append, hlen]

/-- What was read stands at the front of the buffer. -/
theorem fill_zero_append {data : Bytes} (h : data.length ≤ packetBufferSize) :
    ∃ rest, (fill buf 0 data).1 = data ++ rest := by
  refine ⟨(buf.1.drop data.length).take (packetBufferSize - data.length), ?_⟩
  show ((buf.1.take 0 ++ data ++ buf.1.drop (0 + data.length)).take packetBufferSize) = _
  rw [List.take_zero, List.nil_append, Nat.zero_add, List.take_append, List.take_of_length_le h]

/-- A read that goes on where the last one ended. -/
theorem take_fill {buf : PacketBuffer} {first data rest : Bytes} (hbuf : buf.1 = first ++ rest)
    (h : first.length + data.length ≤ packetBufferSize) :
    (fill buf first.length data).1.take (first.length + data.length) = first ++ data := by
  show ((buf.1.take first.length ++ data ++ _).take packetBufferSize).take _ = _
  rw [List.take_take, Nat.min_eq_left h, hbuf, List.take_left, ← List.length_append, List.take_left]

/-- A header says the same about itself and about a packet that begins with it. -/
theorem claimed_append {first : Bytes} (h : headerCommonSize ≤ first.length) (rest : Bytes) :
    claimedType (first ++ rest) = claimedType first ∧ claimedSize (first ++ rest) = claimedSize first := by
  rw [claimedType, claimedSize, HeaderCommon.ofBytes_append h]
  exact ⟨rfl, rfl⟩

/-- No header announces less than itself. -/
theorem headerCommonSize_le_claimedSize (bs : Bytes) : headerCommonSize ≤ claimedSize bs := by
  refine le_trans ?_ (Nat.le_add_right _ _)
  cases Packet.flagScheme (HeaderCommon.ofBytes bs).flag <;> decide

/-! ## What the handler does -/

/-- A client that closes before the header is complete has sent nothing. -/
theorem tcpPacket_of_not_header (h : ¬ conn.HasHeader) : tcpPacket buf conn = .ok none := by
  have hgives : (conn.read headerCommonSize).failed = true ∨
      (conn.read headerCommonSize).got.length < headerCommonSize := by
    rw [Conn.HasHeader, not_and_or, Bool.not_eq_false, Nat.not_le] at h
    exact h
  rw [tcpPacket, Go.guardRange, if_pos (by decide), Go.bind_ok]
  exact if_pos hgives

/-- With a header the handler goes by what that claims. -/
theorem tcpPacket_of_header (h : conn.HasHeader) {first : Bytes} (hfirst : conn.stream.take headerCommonSize = first) :
    tcpPacket buf conn =
      if claimedType first ≠ .acc then .ok none
      else
        (Go.guardRange (claimedSize first ≤ packetBufferSize)).bind fun _ =>
          let r := (conn.read headerCommonSize).conn.read (claimedSize first - headerCommonSize)
          if r.failed ∨ r.got.length < claimedSize first - headerCommonSize then .ok none
          else .ok (some ⟨fill (fill buf 0 first) headerCommonSize r.got, .acc, claimedSize first⟩) := by
  obtain ⟨hgot, hlen⟩ := h.got
  have hgoes : ¬ ((conn.read headerCommonSize).failed = true ∨
      (conn.read headerCommonSize).got.length < headerCommonSize) := by
    rw [not_or, Bool.not_eq_true, Nat.not_lt]
    exact h
  rw [tcpPacket, Go.guardRange, if_pos (by decide), Go.bind_ok]
  dsimp only
  rw [if_neg hgoes, hlen, hgot, hfirst]
  rw [hgot, hfirst] at hlen
  obtain ⟨rest, hrest⟩ : ∃ rest, (fill buf 0 first).1 = first ++ rest :=
    fill_zero_append (by rw [hlen]; decide)
  set pkt : PoolPacket := { PoolPacket.allocate (fill buf 0 first) with len := headerCommonSize } with hpkt
  have hset : (PoolPacket.allocate (fill buf 0 first)).setContent headerCommonSize = .ok pkt := by
    rw [PoolPacket.setContent, Go.guardRange, if_pos (by decide), Go.bind_ok]
  have hcommon : pkt.content.common = HeaderCommon.ofBytes first := by
    show HeaderCommon.ofBytes (fill buf 0 first).1 = _
    rw [hrest, HeaderCommon.ofBytes_append (le_of_eq hlen.symm)]
  have hle : headerCommonSize ≤ pkt.content.len := Nat.le_refl _
  rw [hset, Go.bind_ok, headerTypeAndSize_of_common hle hcommon, Go.bind_ok]
  -- The type is read before the size: another type ends the connection without a look at it.
  by_cases hacc : claimedType first = .acc
  · have htype : (HeaderCommon.ofBytes first).typeAndPayloadSize.1 = .acc := hacc
    rw [if_neg (not_not_intro hacc)]
    rw [if_neg (not_not_intro htype), header_of_common hle hcommon, Go.bind_ok, htype]
    have hsize : (pkt.content.cast (Packet.flagScheme (HeaderCommon.ofBytes first).flag)).size +
        (HeaderCommon.ofBytes first).typeAndPayloadSize.2 = claimedSize first := rfl
    rw [hsize]
    by_cases hfits : claimedSize first ≤ packetBufferSize
    · rw [Go.guardRange, if_pos ⟨headerCommonSize_le_claimedSize first, hfits⟩, Go.guardRange, if_pos hfits,
        Go.bind_ok, Go.bind_ok, PoolPacket.setContent, Go.guardRange, if_pos hfits, Go.bind_ok, Go.bind_ok]
      rfl
    · rw [Go.guardRange, if_neg fun hboth => hfits hboth.2, Go.guardRange, if_neg hfits]
      rfl
  · rw [if_pos hacc]
    exact if_pos hacc

/-- The packet that is handed on: the header, and behind it what the second read has got. -/
theorem bytes_handed (buf : PacketBuffer) {first got : Bytes} {size : Nat} (hfirst : first.length = headerCommonSize)
    (hgot : headerCommonSize + got.length = size) (hfits : size ≤ packetBufferSize) :
    bytes ⟨fill (fill buf 0 first) headerCommonSize got, .acc, size⟩ = first ++ got := by
  obtain ⟨rest, hrest⟩ : ∃ rest, (fill buf 0 first).1 = first ++ rest :=
    fill_zero_append (by rw [hfirst]; decide)
  show (fill (fill buf 0 first) headerCommonSize got).1.take size = _
  rw [← hgot, ← hfirst]
  refine take_fill hrest ?_
  rw [hfirst, hgot]
  exact hfits

/-- The indices are in range, and the packet is as claimed and sent, just where what is claimed fits. -/
theorem reads_inBounds_iff (buf : PacketBuffer) (conn : Conn) : InBounds buf conn ↔ Fits conn := by
  by_cases hheader : conn.HasHeader
  · have hspec : tcpPacket buf conn = _ := tcpPacket_of_header hheader rfl
    obtain ⟨hgot, hlen⟩ := hheader.got
    rw [hgot] at hlen
    have hstream := read_append conn headerCommonSize
    set first := conn.stream.take headerCommonSize with hfirst
    -- How much the second read asks for, the sender has claimed: nothing else bounds it.
    by_cases hacc : claimedType first = .acc
    · rw [if_neg (not_not_intro hacc)] at hspec
      by_cases hfits : claimedSize first ≤ packetBufferSize
      · refine iff_of_true ?_ fun _ _ => hfits
        rw [Go.guardRange, if_pos hfits, Go.bind_ok] at hspec
        set r := (conn.read headerCommonSize).conn.read (claimedSize first - headerCommonSize) with hr
        dsimp only at hspec
        by_cases hgives : r.failed = true ∨ r.got.length < claimedSize first - headerCommonSize
        · rw [if_pos hgives] at hspec
          exact inBounds_of_none hspec
        · rw [if_neg hgives] at hspec
          rw [InBounds, hspec]
          constructor
          · intro hpanic
            cases hpanic
          rintro pkt ⟨⟩
          have hrlen : headerCommonSize + r.got.length = claimedSize first := by
            have hle : r.got.length ≤ claimedSize first - headerCommonSize := length_read_le _ _
            have hcommon := headerCommonSize_le_claimedSize first
            rw [not_or, Nat.not_lt] at hgives
            omega
          have hbytes := bytes_handed buf hlen hrlen hfits
          rw [hbytes, (claimed_append (le_of_eq hlen.symm) r.got).2, List.length_append]
          refine ⟨hlen.symm ▸ hrlen, r.conn.stream, ?_⟩
          rw [List.append_assoc, hr, ← read_append, ← hgot]
          exact hstream.symm
      · rw [Go.guardRange, if_neg hfits] at hspec
        exact iff_of_false (fun hin => hin.1 hspec) fun hall => hfits (hall hheader hacc)
    · rw [if_pos hacc] at hspec
      refine iff_of_true ?_ fun _ hacc' => absurd hacc' hacc
      exact inBounds_of_none hspec
  · refine iff_of_true ?_ fun hheader' => absurd hheader' hheader
    exact inBounds_of_none (tcpPacket_of_not_header hheader)

/-! ## A client whose bytes are there at once -/

/-- Each of the two reads gets what it asks for, as far as it was sent. -/
def prompt (stream : Bytes) : Conn := ⟨stream, [(packetBufferSize, false), (packetBufferSize, false)]⟩

/-- A client whose bytes are all there has sent a header if they are enough. -/
theorem prompt_hasHeader {stream : Bytes} : (prompt stream).HasHeader ↔ headerCommonSize ≤ stream.length := by
  show false = false ∧ headerCommonSize ≤ (stream.take (min packetBufferSize headerCommonSize)).length ↔ _
  rw [Nat.min_eq_right (by decide), List.length_take, le_min_iff]
  exact ⟨fun h => h.2.2, fun h => ⟨rfl, Nat.le_refl _, h⟩⟩

/-- Where no read takes longer, the handler goes by the whole stream. -/
theorem tcpAccessMessage_of_header {L : Libs} (h : AccessHandler L) (arrival : Arrival) {stream : Bytes}
    (hlen : headerCommonSize ≤ stream.length) :
    h.tcpAccessMessage arrival stream =
      if claimedType (stream.take headerCommonSize) ≠ .acc then .ok none
      else
        (Go.guardRange (claimedSize (stream.take headerCommonSize) ≤ packetBufferSize)).bind fun _ =>
          if stream.length < claimedSize (stream.take headerCommonSize) then .ok none
          else h.decrypt arrival (stream.take (claimedSize (stream.take headerCommonSize))) := by
  have hfirst : (stream.take headerCommonSize).length = headerCommonSize := List.length_take_of_le hlen
  set first := stream.take headerCommonSize with hdef
  set pkt := Packet.ofBytes (first ++ arrival.pool.drop first.length) first.length with hpkt
  have hcommon : pkt.common = HeaderCommon.ofBytes first := HeaderCommon.ofBytes_append (le_of_eq hfirst.symm) _
  have hle : headerCommonSize ≤ pkt.len := le_of_eq hfirst.symm
  rw [AccessHandler.tcpAccessMessage, ← hdef, if_neg (Nat.not_lt.mpr (le_of_eq hfirst.symm)), ← hpkt]
  dsimp only
  rw [headerTypeAndSize_of_common hle hcommon, Go.bind_ok]
  by_cases hacc : claimedType first = .acc
  · have htype : (HeaderCommon.ofBytes first).typeAndPayloadSize.1 = .acc := hacc
    rw [if_neg (not_not_intro hacc), if_neg (not_not_intro htype), header_of_common hle hcommon, Go.bind_ok]
    rfl
  · rw [if_pos hacc]
    exact if_pos hacc

/-- For such a client the handler comes to the access message of the whole stream. -/
theorem tcpAccessMessage_eq {L : Libs} (h : AccessHandler L) (arrival : Arrival) (buf : PacketBuffer)
    (stream : Bytes) :
    h.tcpAccessMessage arrival stream = (tcpPacket buf (prompt stream)).bind fun pkt =>
      match pkt with
      | none => .ok none
      | some pkt => h.decrypt arrival (bytes pkt) := by
  by_cases hlen : headerCommonSize ≤ stream.length
  · have hheader : (prompt stream).HasHeader := prompt_hasHeader.mpr hlen
    have hfirst : (stream.take headerCommonSize).length = headerCommonSize := List.length_take_of_le hlen
    have hgot : ((prompt stream).read headerCommonSize).got = stream.take headerCommonSize := hheader.got.1
    rw [tcpAccessMessage_of_header h arrival hlen,
      tcpPacket_of_header hheader (rfl : stream.take headerCommonSize = stream.take headerCommonSize)]
    set first := stream.take headerCommonSize with hdef
    by_cases hacc : claimedType first = .acc
    · rw [if_neg (not_not_intro hacc), if_neg (not_not_intro hacc)]
      by_cases hfits : claimedSize first ≤ packetBufferSize
      · have hcommon := headerCommonSize_le_claimedSize first
        set size := claimedSize first
        rw [Go.guardRange, if_pos hfits, Go.bind_ok, Go.bind_ok]
        -- the second read
        have hread : ∃ conn, ((prompt stream).read headerCommonSize).conn.read (size - headerCommonSize) =
            ⟨(stream.drop headerCommonSize).take (size - headerCommonSize), false, conn⟩ := by
          have hmin : min packetBufferSize (size - headerCommonSize) = size - headerCommonSize := by omega
          have hconn : ((prompt stream).read headerCommonSize).conn =
              ⟨stream.drop headerCommonSize, [(packetBufferSize, false)]⟩ := by
            show (⟨stream.drop ((prompt stream).read headerCommonSize).got.length, _⟩ : Conn) = _
            rw [hgot, hfirst]
          rw [hconn, Conn.read]
          dsimp only
          rw [hmin]
          exact ⟨_, rfl⟩
        obtain ⟨conn, hread⟩ := hread
        rw [hread]
        dsimp only
        by_cases hshort : stream.length < size
        · have hless : ((stream.drop headerCommonSize).take (size - headerCommonSize)).length <
              size - headerCommonSize := by
            rw [List.length_take, List.length_drop]
            omega
          rw [if_pos hshort, if_pos (.inr hless), Go.bind_ok]
        · rw [if_neg hshort, if_neg ?_, Go.bind_ok]
          · have hgotlen : headerCommonSize + ((stream.drop headerCommonSize).take (size - headerCommonSize)).length =
                size := by
              rw [List.length_take, List.length_drop]
              omega
            have hbytes := bytes_handed buf hfirst hgotlen hfits
            rw [hdef, ← List.take_add, Nat.add_sub_cancel' hcommon] at hbytes
            exact congrArg _ hbytes.symm
          · rw [not_or, List.length_take, List.length_drop]
            exact ⟨Bool.false_ne_true, by omega⟩
      · rw [Go.guardRange, if_neg hfits]
        rfl
    · rw [if_pos hacc, if_pos hacc]
      rfl
  · rw [tcpPacket_of_not_header fun hheader => hlen (prompt_hasHeader.mp hheader), Go.bind_ok,
      AccessHandler.tcpAccessMessage]
    refine if_pos ?_
    rw [List.length_take]
    omega

/-- A header that claims an access message of the largest size. -/
def longHeader : Bytes := [0, 0, 0, 0, 0, 15, 255, 255] ++ List.replicate 16 0

/-- It ends the process. -/
theorem long_claim_panics :
    tcpPacket Server.Ingress.zeroBuffer (prompt longHeader) = .panic ∧
      ¬ InBounds Server.Ingress.zeroBuffer (prompt longHeader) := by
  have hpanic : tcpPacket Server.Ingress.zeroBuffer (prompt longHeader) = .panic := by
    rw [tcpPacket_of_header (by decide +kernel) rfl, if_neg (by decide +kernel), Go.guardRange,
      if_neg (by decide +kernel)]
    rfl
  exact ⟨hpanic, fun h => h.1 hpanic⟩

end OpenNHP.AC.TempPacket
