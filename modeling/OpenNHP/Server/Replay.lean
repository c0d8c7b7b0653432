/-
  Replayed packets (`endpoints/server/udpserver.go` with `validatePeer` of `nhp/core/responder.go`).

  1. **The program.**  What the server remembers against replays is the last send time of a connection.  Several
     workers parse packets of one connection at a time, so a parse is two steps here: the tests of the send time,
     and its store with all that follows (`receive_eq_halves`).  A connection lasts as long as its routine, and
     every address has its own.

  2. **The property.**  `State.NoReplay`: no content of a tested type has been accepted twice, at whatever times
     and from whatever addresses it came.

  3. **The condition.**  `Monitored`, on each step as it is taken: the packets of a connection are tested one at a
     time, and a packet whose content has got through before comes back only where a send time that high has been
     stored on its connection, or too late, or with something else wrong with it.

  4. **The crux.**  The last send time of a connection is no lower than any that was stored for it
     (`Guarded.covers`), and two parses that have got through have different contents (`Guarded.once`).  A copy
     that is tested where a send time that high has been stored is at or below the flood bound, and refused
     (`recvTimeError_of_le`).  So the invariant is kept (`guarded_step`, by the kinds of steps) and gives the
     property (`no_replay`).

  5. **The other way.**  From another address the same bytes get through again (`replay_from_another_address`),
     and so does a copy that is tested before the first one has stored its time.  The witness re-delivers a knock
     over its own connection, behind the first: it is refused, and no run is cut short for that.
-/
import OpenNHP.Core.SendTimes
import OpenNHP.Core.InFlight

namespace OpenNHP.Core

variable {M : Type}

/-! ## Contents -/

/-- Byte-identical contents: a header struct that reaches beyond the content is not looked at. -/
structure Packet.SameContent (p q : Packet M) : Prop where
  common : p.common = q.common
  len : p.len = q.len
  covered : ∀ scheme, headerSize scheme ≤ p.len →
    p.fields scheme = q.fields scheme ∧ p.payload scheme = q.payload scheme

/-- The order does not matter. -/
theorem Packet.SameContent.symm {p q : Packet M} (h : p.SameContent q) : q.SameContent p :=
  ⟨h.common.symm, h.len.symm, fun scheme hlen =>
    ⟨((h.covered scheme (h.len ▸ hlen)).1).symm, ((h.covered scheme (h.len ▸ hlen)).2).symm⟩⟩

/-- The same bytes in two pool buffers are the same content. -/
theorem Packet.sameContent_ofBytes (content rest rest' : BigEndian.Bytes)
    (hlen : headerCommonSize ≤ content.length) :
    (Packet.ofBytes (content ++ rest) content.length).SameContent
      (Packet.ofBytes (content ++ rest') content.length) := by
  have hcommon := HeaderCommon.ofBytes_append hlen
  have hfields : ∀ scheme, headerSize scheme ≤ content.length → ∀ rest,
      HeaderFields.ofBytes scheme (content ++ rest) = HeaderFields.ofBytes scheme content := by
    intro scheme hsize rest
    rw [← hmacOffset_add_hashSize] at hsize
    cases scheme <;>
      simp (disch := simp [hmacOffset, timestampOffset, staticOffset, identityOffset] at hsize ⊢; omega) only
        [HeaderFields.ofBytes, BigEndian.slice_within]
  refine ⟨(hcommon rest).trans (hcommon rest').symm, rfl, fun scheme hsize => ⟨?_, ?_⟩⟩
  · exact (hfields scheme hsize rest).trans (hfields scheme hsize rest').symm
  · rw [Packet.payload_ofBytes, Packet.payload_ofBytes, List.take_left, List.take_left]

end OpenNHP.Core

namespace OpenNHP.Server.Replay

open OpenNHP.Core
open OpenNHP.Core.Routines (packetType isTransactionResponse)
open Tables (getElem?_set_cases getElem?_append_cases)

variable {M : Type} {C : Crypto M}

/-! ## The server -/

/-- `MaxConcurrentConnection`. -/
def maxConcurrentConnection : Nat := 20480
/-- `OverloadConnectionThreshold`. -/
def overloadConnectionThreshold : Nat := maxConcurrentConnection * 4 / 5

/-- `UdpConn`; `ended` says that its routine has left its loop. -/
structure UdpConn (M : Type) where
  connData : ConnectionData M
  lastLocalRecvTime : Int64
  ended : Bool

/-- A `PacketData` with its connection. -/
structure Received (C : Crypto M) where
  basePacket : Packet M
  connData : Nat
  prevAssemblerData : Option (MsgAssemblerData C)
  initTime : Int64

/-- The `PacketData` as a worker finds it. -/
def Received.current (pd : Received C) (conn : UdpConn M) : PacketData C where
  basePacket := pd.basePacket
  connData := conn.connData
  prevAssemblerData := pd.prevAssemblerData
  connPeerPublicKey := none
  initTime := pd.initTime

/-- A packet on its way to a worker. -/
inductive Job (C : Crypto M)
  /-- in `RecvQueue` -/
  | inbound (c : Nat) (pkt : Packet M)
  /-- with a local transaction, which belongs to a connection of its own -/
  | answering (c : Nat) (mad : MsgAssemblerData C) (pkt : Packet M)
  /-- in `packetToMsgQueue` -/
  | toMsg (pd : Received C)

/-- Where a parse stands that has passed the tests of the send time. -/
inductive ParsePhase
  /-- before the store -/
  | tested
  | accepted
  | refused
  deriving DecidableEq, Repr

/-- A parse that has passed the tests of the send time. -/
structure Parse (C : Crypto M) where
  pd : Received C
  ppd : PacketParserData C
  remoteSendTime : Int64
  phase : ParsePhase

/-- A send time that was stored, and whether its packet was tested for replays. -/
structure Stored where
  connData : Nat
  remoteSendTime : Int64
  tested : Bool
  deriving DecidableEq, Repr

/-- The server: its tables, the packets that wait for a worker, and the parses there ever were. -/
structure State (C : Crypto M) where
  device : Device C
  remoteConnectionMap : List (Addr × Nat)
  blockAddrMap : List Addr
  conns : List (UdpConn M)
  /-- The local transactions: their connections and what they have sent. -/
  localTransactionMap : UInt64 → Option (Nat × MsgAssemblerData C)
  jobs : Multiset (Job C)
  parses : List (Parse C)
  /-- The send times stored so far, the newest first. -/
  stored : List Stored

/-- The server before its first packet. -/
def State.start (d : Device C) : State C where
  device := d
  remoteConnectionMap := []
  blockAddrMap := []
  conns := []
  localTransactionMap _ := none
  jobs := 0
  parses := []
  stored := []

namespace State

/-- `s.remoteConnectionMap[addrStr]`. -/
def findConn (s : State C) (addr : Addr) : Option Nat := s.remoteConnectionMap.lookup addr

/-- A packet is put into the queue of the workers, -/
def addJob (s : State C) (job : Job C) : State C := { s with jobs := job ::ₘ s.jobs }

/-- and taken out of it. -/
def withJobs (s : State C) (jobs : Multiset (Job C)) : State C := { s with jobs := jobs }

/-- A connection is written. -/
def setConn (s : State C) (c : Nat) (conn : UdpConn M) : State C :=
  { s with conns := s.conns.set c conn }

/-- A packet of a known address. -/
def receiveFrom (s : State C) (c : Nat) (conn : UdpConn M) (pkt : Packet M) (recvTime : Int64) : State C :=
  (s.setConn c { conn with lastLocalRecvTime := recvTime }).addJob (.inbound c pkt)

/-- A packet of a new address: its connection, behind the overload check. -/
def accept (s : State C) (addr : Addr) (pkt : Packet M) (recvTime : Int64) : State C :=
  { s with
    device := { s.device with
      overload := s.device.overload || overloadConnectionThreshold < s.remoteConnectionMap.length }
    remoteConnectionMap := (addr, s.conns.length) :: s.remoteConnectionMap
    conns := s.conns ++ [{ connData := .new C addr, lastLocalRecvTime := recvTime, ended := false }]
    jobs := .inbound s.conns.length pkt ::ₘ s.jobs }

/-- The connection routine's deferred removal. -/
def removeConn (s : State C) (c : Nat) (conn : UdpConn M) : State C :=
  let map := s.remoteConnectionMap.filter (·.1 ≠ conn.connData.remoteAddr)
  { s with
    device := { s.device with
      overload := s.device.overload && overloadConnectionThreshold < map.length }
    remoteConnectionMap := map
    conns := s.conns.set c { conn with ended := true } }

/-- What a parse leaves in the peer table and in its connection. -/
def learn (s : State C) (c : Nat) (conn : UdpConn M) (r : Option (PacketParserData C)) : State C :=
  { s with
    device := (r.map (·.device)).getD s.device
    conns := s.conns.set c { conn with connData := (r.map (·.connData)).getD conn.connData } }

end State

/-! ## Steps -/

/-- What can happen next. -/
inductive Act (C : Crypto M)
  | receive (addr : Addr) (pkt : Packet M) (recvTime : Int64)
  | take (c : Nat) (pkt : Packet M)
  | handOn (c : Nat) (mad : MsgAssemblerData C) (pkt : Packet M) (initTime : Int64)
  | discard (job : Job C)
  | begin (pd : Received C) (nowMilli : Int64)
  | finish (i : Nat) (now : Int64)
  | remove (c : Nat)
  | close (c : Nat)
  | block (addr : Addr)
  | unblock (addr : Addr)
  | register (id : UInt64) (c : Nat) (mad : MsgAssemblerData C)
  | unregister (id : UInt64)
  | configure (d : Device C)

/-- The act is not the beginning of a parse. -/
def Act.quiet : Act C → Bool
  | .begin _ _ => false
  | _ => true

/-- The act does not end a parse. -/
def Act.unfinished : Act C → Bool
  | .finish _ _ => false
  | _ => true

/-- The packet's type is one for which `shouldCheckRecvAttack` is true. -/
def checksReplay (d : Device C) (pkt : Packet M) : Bool :=
  shouldCheckRecvAttack d.deviceType (headerTypeToDeviceType (packetType pkt)) (packetType pkt)

/-- Whether a packet is tested is part of its content. -/
theorem checksReplay_sameContent {d : Device C} {p q : Packet M} (h : p.SameContent q) :
    checksReplay d p = checksReplay d q := by
  rw [checksReplay, checksReplay, packetType, packetType, h.common]

/-- The parser data of a parse that goes on: device and connection are pointers. -/
def Parse.resume (t : Parse C) (s : State C) (conn : UdpConn M) : PacketParserData C :=
  { t.ppd with device := s.device, connData := conn.connData }

/-- The send time a parse stores. -/
def Parse.stores (t : Parse C) (d : Device C) : Stored where
  connData := t.pd.connData
  remoteSendTime := t.remoteSendTime
  tested := checksReplay d t.pd.basePacket

/-- How `decryptBody` leaves a parse. -/
def ParsePhase.of : Go Unit → ParsePhase
  | .ok _ => .accepted
  | _ => .refused

set_option autoImplicit true in
/-- One step of one goroutine. -/
inductive Step [DecidableEq M] : State C → Act C → State C → Prop
  -- `recvPacketRoutine`
  | receiveKnown (hlen : Packet.minimalLength ≤ pkt.len) (hblock : addr ∉ s.blockAddrMap)
      (hcheck : recvPrecheck s.device.deviceType pkt = .ok r) (hfind : s.findConn addr = some c)
      (hconn : s.conns[c]? = some conn) :
    Step s (.receive addr pkt recvTime) (s.receiveFrom c conn pkt recvTime)
  | receiveNew (hlen : Packet.minimalLength ≤ pkt.len) (hblock : addr ∉ s.blockAddrMap)
      (hcheck : recvPrecheck s.device.deviceType pkt = .ok r) (hfind : s.findConn addr = none)
      (hroom : overloadConnectionThreshold < s.remoteConnectionMap.length ∨
        s.remoteConnectionMap.length < maxConcurrentConnection) :
    Step s (.receive addr pkt recvTime) (s.accept addr pkt recvTime)
  -- `connectionRoutine`
  | takeKeepalive (hjobs : s.jobs = .inbound c pkt ::ₘ rest) (hconn : s.conns[c]? = some conn)
      (hloop : conn.ended = false) (htype : packetType pkt = .kpl) :
    Step s (.take c pkt) (s.withJobs rest)
  | takeResponse (hjobs : s.jobs = .inbound c pkt ::ₘ rest) (hconn : s.conns[c]? = some conn)
      (hloop : conn.ended = false) (htype : packetType pkt ≠ .kpl)
      (hresponse : isTransactionResponse s.device.deviceType (packetType pkt) = true)
      (hfind : s.localTransactionMap pkt.common.counter = some (c', mad)) :
    Step s (.take c pkt) ((s.withJobs rest).addJob (.answering c' mad pkt))
  | takeGeneric (hjobs : s.jobs = .inbound c pkt ::ₘ rest) (hconn : s.conns[c]? = some conn)
      (hloop : conn.ended = false) (htype : packetType pkt ≠ .kpl)
      (hnone : isTransactionResponse s.device.deviceType (packetType pkt) = true →
        s.localTransactionMap pkt.common.counter = none) :
    Step s (.take c pkt) ((s.withJobs rest).addJob (.toMsg
      { basePacket := pkt, connData := c, prevAssemblerData := none,
        initTime := conn.lastLocalRecvTime }))
  | remove (hconn : s.conns[c]? = some conn) (hloop : conn.ended = false) :
    Step s (.remove c) (s.removeConn c conn)
  | close (hconn : s.conns[c]? = some conn) (hended : conn.ended = true) :
    Step s (.close c) (s.setConn c { conn with connData := { conn.connData with closed := true } })
  -- `LocalTransaction.Run`
  | handOn (hjobs : s.jobs = .answering c mad pkt ::ₘ rest) :
    Step s (.handOn c mad pkt initTime) ((s.withJobs rest).addJob (.toMsg
      { basePacket := pkt, connData := c, prevAssemblerData := some mad, initTime := initTime }))
  -- a full queue, a closed connection or a transaction that has ended
  | discard (hjobs : s.jobs = job ::ₘ rest) : Step s (.discard job) (s.withJobs rest)
  -- `packetToMsgRoutine`; a panic ends the run
  | beginRefused (hjobs : s.jobs = .toMsg pd ::ₘ rest) (hconn : s.conns[pd.connData]? = some conn)
      (hbegin : beginParse s.device (pd.current conn) nowMilli = (r, .err e)) :
    Step s (.begin pd nowMilli) ((s.withJobs rest).learn pd.connData conn r)
  | beginTested (hjobs : s.jobs = .toMsg pd ::ₘ rest) (hconn : s.conns[pd.connData]? = some conn)
      (hbegin : beginParse s.device (pd.current conn) nowMilli = (r, .ok (ppd, ts))) :
    Step s (.begin pd nowMilli) { (s.withJobs rest).learn pd.connData conn r with
      parses := s.parses ++ [{ pd := pd, ppd := ppd, remoteSendTime := ts, phase := .tested }] }
  | finish (htrx : s.parses[i]? = some t) (hphase : t.phase = .tested)
      (hconn : s.conns[t.pd.connData]? = some conn)
      (hfinish : (t.resume s conn).finishParse t.remoteSendTime now = (ppd, o)) :
    Step s (.finish i now) { s with
      conns := s.conns.set t.pd.connData { conn with connData := ppd.connData }
      parses := s.parses.set i { t with phase := .of o }
      stored := t.stores s.device :: s.stored }
  -- the address book: `AddBlockAddr` and `RefreshBlockAddr`
  | block (hroom : s.blockAddrMap.length < maxConcurrentConnection) :
    Step s (.block addr) { s with blockAddrMap := addr :: s.blockAddrMap }
  | unblock : Step s (.unblock addr) { s with blockAddrMap := s.blockAddrMap.filter (· ≠ addr) }
  -- everything else
  | register {id : UInt64} : Step s (.register id c mad)
      { s with localTransactionMap := fun id' => if id' = id then some (c, mad) else s.localTransactionMap id' }
  | unregister {id : UInt64} : Step s (.unregister id)
      { s with localTransactionMap := fun id' => if id' = id then none else s.localTransactionMap id' }
  | configure (hrole : d.deviceType = s.device.deviceType)
      (hcurve : d.staticEcdhCurve = s.device.staticEcdhCurve)
      (hgmsm : d.staticEcdhGmsm = s.device.staticEcdhGmsm) :
    Step s (.configure d) { s with device := d }

/-- A run from the start whose steps all meet a condition. -/
abbrev Reached [DecidableEq M] (P : State C → Act C → Prop) (d : Device C) (s : State C) : Prop :=
  Runs.Reaches Step P (State.start d) s

/-! ## The property and when it holds -/

/-- A send time that high was stored for the connection, and since then nothing that is not tested for
    replays has put a lower one in its place. -/
def covers (c : Nat) (ts : Int64) : List Stored → Bool
  | [] => false
  | e :: log =>
    if e.connData = c then decide (ts ≤ e.remoteSendTime) || (e.tested && covers c ts log)
    else covers c ts log

/-- The content is that of a packet which has passed the tests and was not refused afterwards. -/
def State.gotThrough (s : State C) (pkt : Packet M) : Prop :=
  ∃ t ∈ s.parses, t.phase ≠ .refused ∧ t.pd.basePacket.SameContent pkt

/-- The packets of a connection are looked at one at a time; and one that has got through comes back stale,
    or with another check to stop it, or to a connection that has stored a send time as high as its own. -/
def Monitored [DecidableEq M] (s : State C) : Act C → Prop
  | .begin pd nowMilli =>
    (∀ t ∈ s.parses, t.phase = .tested → t.pd.connData ≠ pd.connData) ∧
      (checksReplay s.device pd.basePacket = true → s.gotThrough pd.basePacket →
        ∀ conn ts, s.conns[pd.connData]? = some conn →
          sendTime s.device (pd.current conn) nowMilli = some ts →
          ts < pd.initTime - 600 * second ∨ covers pd.connData ts s.stored = true ∧
            ts ≤ Int64.maxValue - minimalRecvIntervalMs * millisecond)
  | _ => True

/-- No content of a checked type has been accepted twice. -/
def State.NoReplay (s : State C) : Prop :=
  ∀ (i j : Nat) t u, i ≠ j → s.parses[i]? = some t → s.parses[j]? = some u → t.phase = .accepted →
    u.phase = .accepted → checksReplay s.device t.pd.basePacket = true →
    ¬ t.pd.basePacket.SameContent u.pd.basePacket

/-! ## The invariant -/

/-- What the run keeps: no stored time is above its connection's, a parse that was tested is alone on its
    connection and above its time, and no content gets through twice. -/
structure State.Guarded (s : State C) : Prop where
  covers : ∀ c ts, covers c ts s.stored = true →
    ∃ conn, s.conns[c]? = some conn ∧ ts ≤ conn.connData.lastRemoteSendTime
  tested : ∀ (i : Nat) t, s.parses[i]? = some t → t.phase = .tested →
    ∃ conn, s.conns[t.pd.connData]? = some conn ∧ (checksReplay s.device t.pd.basePacket = true →
      conn.connData.lastRemoteSendTime ≤ t.remoteSendTime)
  alone : ∀ (i j : Nat) t u, i ≠ j → s.parses[i]? = some t → s.parses[j]? = some u →
    t.phase = .tested → u.phase = .tested → t.pd.connData ≠ u.pd.connData
  once : ∀ (i j : Nat) t u, i ≠ j → s.parses[i]? = some t → s.parses[j]? = some u →
    t.phase ≠ .refused → u.phase ≠ .refused → checksReplay s.device t.pd.basePacket = true →
    ¬ t.pd.basePacket.SameContent u.pd.basePacket

section Steps

variable {s s' : State C} {a : Act C}

/-- A step that moves no send time and no parse. -/
theorem State.Guarded.of_quiet (hI : s.Guarded) (hrole : s'.device.deviceType = s.device.deviceType)
    (hstored : s'.stored = s.stored) (hparses : s'.parses = s.parses)
    (hconns : ∀ (c : Nat) conn, s.conns[c]? = some conn → ∃ conn', s'.conns[c]? = some conn' ∧
      conn'.connData.lastRemoteSendTime = conn.connData.lastRemoteSendTime) : s'.Guarded := by
  have hchecks (pkt : Packet M) : checksReplay s'.device pkt = checksReplay s.device pkt := by
    rw [checksReplay, checksReplay, hrole]
  refine ⟨fun c ts hcovers => ?_, fun i t ht hphase => ?_, ?_, ?_⟩
  · rw [hstored] at hcovers
    obtain ⟨conn, hconn, hle⟩ := hI.covers c ts hcovers
    obtain ⟨conn', hconn', hlast⟩ := hconns c conn hconn
    exact ⟨conn', hconn', hlast ▸ hle⟩
  · rw [hparses] at ht
    obtain ⟨conn, hconn, hle⟩ := hI.tested i t ht hphase
    obtain ⟨conn', hconn', hlast⟩ := hconns _ conn hconn
    refine ⟨conn', hconn', fun hcheck => ?_⟩
    rw [hchecks] at hcheck
    rw [hlast]
    exact hle hcheck
  · rw [hparses]
    exact hI.alone
  · simp only [hparses, hchecks]
    exact hI.once

/-- A connection that is written over with its send time kept. -/
theorem quiet_set {conns : List (UdpConn M)} {c : Nat} {conn conn' : UdpConn M}
    (hconn : conns[c]? = some conn)
    (hlast : conn'.connData.lastRemoteSendTime = conn.connData.lastRemoteSendTime) (c' : Nat)
    (old : UdpConn M) (hold : conns[c']? = some old) :
    ∃ new, (conns.set c conn')[c']? = some new ∧
      new.connData.lastRemoteSendTime = old.connData.lastRemoteSendTime := by
  obtain ⟨hlt, -⟩ := List.getElem?_eq_some_iff.mp hold
  by_cases hc : c = c'
  · subst hc
    rw [hconn] at hold
    cases hold
    exact ⟨conn', List.getElem?_set_self hlt, hlast⟩
  · exact ⟨old, by rw [List.getElem?_set_ne hc, hold], rfl⟩

/-- The flood bound of a send time that leaves room for it. -/
theorem lt_floodBound {ts : Int64} (hmax : ts ≤ Int64.maxValue - minimalRecvIntervalMs * millisecond) :
    ts < ts + minimalRecvIntervalMs * millisecond := by
  have hinterval : (minimalRecvIntervalMs * millisecond).toInt = 20000000 := by decide
  have hroom : (Int64.maxValue - minimalRecvIntervalMs * millisecond).toInt = 2 ^ 63 - 1 - 20000000 := by
    decide
  have hlow := ts.le_toInt
  rw [Int64.le_iff_toInt_le, hroom] at hmax
  rw [Int64.lt_iff_toInt_lt, Int64.toInt_add, hinterval, Int.bmod_eq_of_le (by omega) (by omega)]
  omega

/-- The tests refuse a send time that is not above the last one. -/
theorem recvTimeError_of_le {deviceType : DeviceType} {t : HeaderType} {conn : ConnectionData M}
    {initTime ts : Int64} (hcheck : shouldCheckRecvAttack deviceType (headerTypeToDeviceType t) t = true)
    (hle : ts ≤ conn.lastRemoteSendTime)
    (hmax : ts ≤ Int64.maxValue - minimalRecvIntervalMs * millisecond) :
    PacketParserData.recvTimeError deviceType t conn initTime ts ≠ none := by
  unfold PacketParserData.recvTimeError
  rw [hcheck]
  by_cases hlt : ts < conn.lastRemoteSendTime
  · rw [if_pos ⟨rfl, hlt⟩]
    exact nofun
  · have heq : ts = conn.lastRemoteSendTime := by
      rw [Int64.le_iff_toInt_le] at hle
      rw [Int64.lt_iff_toInt_lt] at hlt
      exact Int64.toInt_inj.mp (by omega)
    have hflood : ts < conn.lastRemoteSendTime + minimalRecvIntervalMs * millisecond := by
      rw [← heq]
      exact lt_floodBound hmax
    rw [if_neg fun h => hlt h.2, if_pos ⟨rfl, hflood⟩]
    exact nofun

variable [DecidableEq M]

/-- A parse that passes the tests takes its connection on, and its content has not got through before. -/
theorem guarded_beginTested (hI : s.Guarded) {pd : Received C} {nowMilli : Int64}
    (hcond : Monitored s (.begin pd nowMilli)) {rest : Multiset (Job C)} {conn : UdpConn M}
    {r : Option (PacketParserData C)} {ppd : PacketParserData C} {ts : Int64}
    (hconn : s.conns[pd.connData]? = some conn)
    (hbegin : beginParse s.device (pd.current conn) nowMilli = (r, .ok (ppd, ts))) :
    State.Guarded { (s.withJobs rest).learn pd.connData conn r with
      parses := s.parses ++ [{ pd := pd, ppd := ppd, remoteSendTime := ts, phase := .tested }] } := by
  obtain ⟨halone, hreplay⟩ := hcond
  obtain ⟨-, hsend, htimely⟩ := beginParse_eq_ok hbegin
  obtain ⟨hrole, hlast⟩ := beginParse_keeps hbegin
  set learnt := (s.withJobs rest).learn pd.connData conn r with hlearnt
  have hset := quiet_set hconn
    (show ({ conn with connData := (r.map (·.connData)).getD conn.connData } :
      UdpConn M).connData.lastRemoteSendTime = _ from hlast)
  have hquiet : learnt.Guarded := hI.of_quiet hrole rfl rfl hset
  have hchecks (pkt : Packet M) : checksReplay learnt.device pkt = checksReplay s.device pkt := by
    rw [checksReplay, checksReplay, hlearnt]
    exact congrArg (shouldCheckRecvAttack · _ _) hrole
  -- Had the content got through before, its send time would be stale by now, or the time kept for its connection
  -- would refuse it.
  have hnew : checksReplay s.device pd.basePacket = true → ¬ s.gotThrough pd.basePacket := by
    intro hcheck hgot
    obtain hstale | ⟨hcovers, hmax⟩ := hreplay hcheck hgot conn ts hconn hsend
    · exact (PacketParserData.recvTimeError_eq_none htimely).2 hstale
    · obtain ⟨conn', hconn', hle⟩ := hI.covers _ _ hcovers
      rw [hconn] at hconn'
      cases hconn'
      exact recvTimeError_of_le hcheck hle hmax htimely
  -- Every pair of parses is two old ones, or an old one and this one.
  refine ⟨hquiet.covers, fun i t ht hphase => ?_, fun i j t u hij ht hu hphase hphase' => ?_,
    fun i j t u hij ht hu hphase hphase' hcheck hsame => ?_⟩
  · obtain ⟨rfl, rfl⟩ | hold := getElem?_append_cases ht
    · obtain ⟨new, hnewConn, hsame⟩ := hset _ conn hconn
      refine ⟨new, hnewConn, fun hcheck => ?_⟩
      rw [hsame]
      exact ((PacketParserData.recvTimeError_eq_none htimely).1 ((hchecks _).symm.trans hcheck)).1
    · exact hquiet.tested i t hold hphase
  · obtain ⟨rfl, rfl⟩ | hold := getElem?_append_cases ht
    · obtain ⟨rfl, rfl⟩ | hold' := getElem?_append_cases hu
      · exact absurd rfl hij
      · exact (halone u (List.mem_of_getElem? hold') hphase').symm
    · obtain ⟨rfl, rfl⟩ | hold' := getElem?_append_cases hu
      · exact halone t (List.mem_of_getElem? hold) hphase
      · exact hI.alone i j t u hij hold hold' hphase hphase'
  · obtain ⟨rfl, rfl⟩ | hold := getElem?_append_cases ht
    · obtain ⟨rfl, rfl⟩ | hold' := getElem?_append_cases hu
      · exact absurd rfl hij
      · exact hnew ((hchecks _).symm.trans hcheck)
          ⟨u, List.mem_of_getElem? hold', hphase', hsame.symm⟩
    · obtain ⟨rfl, rfl⟩ | hold' := getElem?_append_cases hu
      · have hsameChecks : checksReplay s.device pd.basePacket = true := by
          rw [← checksReplay_sameContent hsame, ← hchecks]
          exact hcheck
        exact hnew hsameChecks ⟨t, List.mem_of_getElem? hold, hphase, hsame⟩
      · exact hquiet.once i j t u hij hold hold' hphase hphase' hcheck hsame

omit [DecidableEq M] in
/-- A parse that goes on stores its send time, which covers what was covered before when its packet was
    tested against it. -/
theorem guarded_finish (hI : s.Guarded) {i : Nat} {t : Parse C} {conn : UdpConn M} {now : Int64}
    {ppd : PacketParserData C} {o : Go Unit} (ht : s.parses[i]? = some t) (hphase : t.phase = .tested)
    (hconn : s.conns[t.pd.connData]? = some conn)
    (hfinish : (t.resume s conn).finishParse t.remoteSendTime now = (ppd, o)) :
    State.Guarded { s with
      conns := s.conns.set t.pd.connData { conn with connData := ppd.connData }
      parses := s.parses.set i { t with phase := .of o }
      stored := t.stores s.device :: s.stored } := by
  have hlast : ppd.connData.lastRemoteSendTime = t.remoteSendTime := by
    obtain ⟨-, hstores⟩ := (t.resume s conn).finishParse_stores t.remoteSendTime now
    rw [hfinish] at hstores
    exact hstores
  obtain ⟨hlt, -⟩ := List.getElem?_eq_some_iff.mp hconn
  have hnew := List.getElem?_set_self (l := s.conns) (i := t.pd.connData)
    (a := { conn with connData := ppd.connData }) hlt
  have hrest (c : Nat) (hc : t.pd.connData ≠ c) :
      (s.conns.set t.pd.connData { conn with connData := ppd.connData })[c]? = s.conns[c]? :=
    List.getElem?_set_ne hc
  have hnotTested : (ParsePhase.of o) ≠ .tested := by
    cases o <;> exact nofun
  have hparses (j : Nat) (u : Parse C) (hu : (s.parses.set i { t with phase := .of o })[j]? = some u) :
      j = i ∧ u = { t with phase := .of o } ∨ j ≠ i ∧ s.parses[j]? = some u := by
    by_cases hji : j = i
    · subst hji
      rw [List.getElem?_set_self (List.getElem?_eq_some_iff.mp ht).1] at hu
      cases hu
      exact .inl ⟨rfl, rfl⟩
    · rw [List.getElem?_set_ne (Ne.symm hji)] at hu
      exact .inr ⟨hji, hu⟩
  refine ⟨fun c ts hcovers => ?_, fun j u hu hphase' => ?_, fun j k u v hjk hu hv hphase' hphase'' => ?_,
    fun j k u v hjk hu hv hphase' hphase'' => ?_⟩
  · rw [Replay.covers] at hcovers
    by_cases hc : t.pd.connData = c
    · subst hc
      refine ⟨_, hnew, ?_⟩
      show ts ≤ ppd.connData.lastRemoteSendTime
      rw [hlast]
      rw [if_pos (show (t.stores s.device).connData = t.pd.connData from rfl), Bool.or_eq_true, decide_eq_true_eq,
        Bool.and_eq_true] at hcovers
      obtain hle | ⟨hcheck, hold⟩ := hcovers
      · exact hle
      · obtain ⟨conn', hconn', hle⟩ := hI.covers _ _ hold
        obtain ⟨conn'', hconn'', hle'⟩ := hI.tested i t ht hphase
        rw [hconn', Option.some.injEq] at hconn''
        subst hconn''
        exact Int64.le_trans hle (hle' hcheck)
    · rw [if_neg (show ¬ (t.stores s.device).connData = c from hc)] at hcovers
      obtain ⟨conn', hconn', hle⟩ := hI.covers _ _ hcovers
      exact ⟨conn', (hrest c hc).trans hconn', hle⟩
  · obtain ⟨-, rfl⟩ | ⟨hji, hold⟩ := hparses j u hu
    · exact absurd hphase' hnotTested
    · obtain ⟨conn', hconn', hle⟩ := hI.tested j u hold hphase'
      exact ⟨conn', (hrest _ (hI.alone i j t u hji.symm ht hold hphase hphase')).trans hconn', hle⟩
  · obtain ⟨-, rfl⟩ | ⟨-, hold⟩ := hparses j u hu
    · exact absurd hphase' hnotTested
    · obtain ⟨-, rfl⟩ | ⟨-, hold'⟩ := hparses k v hv
      · exact absurd hphase'' hnotTested
      · exact hI.alone j k u v hjk hold hold' hphase' hphase''
  · -- the phases before the step are not refused either, and the packets are the same
    have hbefore (j : Nat) (u : Parse C) (hu : (s.parses.set i { t with phase := .of o })[j]? = some u)
        (hphase' : u.phase ≠ .refused) : ∃ u', s.parses[j]? = some u' ∧ u'.phase ≠ .refused ∧ u'.pd = u.pd := by
      obtain ⟨rfl, rfl⟩ | ⟨-, hold⟩ := hparses j u hu
      · exact ⟨t, ht, by rw [hphase]; exact nofun, rfl⟩
      · exact ⟨u, hold, hphase', rfl⟩
    obtain ⟨u', hu', hphase', hpd⟩ := hbefore j u hu hphase'
    obtain ⟨v', hv', hphase'', hpd'⟩ := hbefore k v hv hphase''
    rw [← hpd, ← hpd']
    exact hI.once j k u' v' hjk hu' hv' hphase' hphase'' 

/-- Every step that meets the condition keeps it. -/
theorem guarded_step (hcond : Monitored s a) (hI : s.Guarded) (h : Step s a s') : s'.Guarded := by
  cases h with
  | beginTested hjobs hconn hbegin => exact guarded_beginTested hI hcond hconn hbegin
  | finish ht hphase hconn hfinish => exact guarded_finish hI ht hphase hconn hfinish
  | beginRefused hjobs hconn hbegin =>
    obtain ⟨hrole, hlast⟩ := beginParse_keeps hbegin
    exact hI.of_quiet hrole rfl rfl (quiet_set hconn hlast)
  | receiveKnown _ _ _ _ hconn | remove hconn | close hconn =>
    exact hI.of_quiet rfl rfl rfl (quiet_set hconn rfl)
  | receiveNew =>
    refine hI.of_quiet rfl rfl rfl fun c conn hconn => ⟨conn, ?_, rfl⟩
    obtain ⟨hlt, -⟩ := List.getElem?_eq_some_iff.mp hconn
    exact (List.getElem?_append_left hlt).trans hconn
  | configure hrole => exact hI.of_quiet hrole rfl rfl fun c conn hconn => ⟨conn, hconn, rfl⟩
  | _ => exact hI.of_quiet rfl rfl rfl fun c conn hconn => ⟨conn, hconn, rfl⟩

end Steps

/-! ## Runs -/

/-- **No replay.**  In every run whose parses are monitored, no content of a type that is checked for replays
    is accepted twice. -/
theorem no_replay [DecidableEq M] {d : Device C} {s : State C} (h : Reached Monitored d s) : s.NoReplay := by
  have hstart : (State.start d).Guarded := by
    refine ⟨fun c ts hcovers => ?_, fun i t ht => ?_, fun i j t u _ ht => ?_, fun i j t u _ ht => ?_⟩
    · cases hcovers
    · cases ht
    · cases ht
    · cases ht
  have hguarded := h.invariant (I := State.Guarded) (fun _ _ _ hC hI hstep => guarded_step hC hI hstep) hstart
  intro i j t u hij ht hu hphase hphase'
  exact hguarded.once i j t u hij ht hu (by rw [hphase]; exact nofun) (by rw [hphase']; exact nofun)

/-! ## Two acceptances -/

/-- A packet of a new connection as a worker gets it. -/
def firstPacket (addr : Addr) (pkt : Packet M) (initTime : Int64) : PacketData C where
  basePacket := pkt
  connData := .new C addr
  prevAssemblerData := none
  connPeerPublicKey := none
  initTime := initTime

/-- The server behind a packet from a new address: its parse, and what that has left in the peer table and in the
    connection it opened. -/
structure Behind (s s' : State C) (addr : Addr) (pkt : Packet M) (recvTime : Int64) (ppd : PacketParserData C)
    (u : Parse C) : Prop where
  jobs : s'.jobs = s.jobs
  device : s'.device = ppd.device
  remoteConnectionMap : s'.remoteConnectionMap = (addr, s.conns.length) :: s.remoteConnectionMap
  blockAddrMap : s'.blockAddrMap = []
  parses : s'.parses = s.parses ++ [u]
  basePacket : u.pd.basePacket = pkt
  connData : u.pd.connData = s.conns.length
  conn : s'.conns[s.conns.length]? =
    some { connData := ppd.connData, lastLocalRecvTime := recvTime, ended := false }

/-- A packet from a new address gets through the tests, on the connection it opens. -/
theorem reached_tested [DecidableEq M] {P : State C → Act C → Prop} {d : Device C} {s : State C}
    (h : Reached P d s) (addr : Addr) (pkt : Packet M) (recvTime nowMilli : Int64)
    {t : HeaderType} {size : Nat} {ppd : PacketParserData C} {ts : Int64}
    (hfind : s.findConn addr = none) (hblock : s.blockAddrMap = [])
    (hroom : s.remoteConnectionMap.length < maxConcurrentConnection) (hlen : Packet.minimalLength ≤ pkt.len)
    (hcheck : recvPrecheck s.device.deviceType pkt = .ok (t, size)) (htype : t ≠ .kpl)
    (hrequest : isTransactionResponse s.device.deviceType t = false)
    (hbegin : beginParse (s.accept addr pkt recvTime).device (firstPacket addr pkt recvTime) nowMilli =
      (some ppd, .ok (ppd, ts)))
    (hP : ∀ s' a, s'.parses = s.parses → a.unfinished = true → P s' a) :
    ∃ s' u, Reached P d s' ∧ Behind s s' addr pkt recvTime ppd u ∧ s'.stored = s.stored ∧ u.ppd = ppd ∧
      u.remoteSendTime = ts ∧ u.phase = .tested := by
  obtain ⟨-, hread, -⟩ := recvPrecheck_eq_ok.mp hcheck
  have htype' : packetType pkt = t := congrArg Prod.fst hread
  -- Three steps: the datagram opens the connection, a worker takes it, and its parse passes the tests.
  have hreceived := h.step (e := .receive addr pkt recvTime) (hP _ _ rfl rfl)
    (.receiveNew hlen (by rw [hblock]; exact List.not_mem_nil) hcheck hfind (.inr hroom))
  have hconn : (s.accept addr pkt recvTime).conns[s.conns.length]? =
      some { connData := .new C addr, lastLocalRecvTime := recvTime, ended := false } :=
    List.getElem?_concat_length
  have hnone : isTransactionResponse (s.accept addr pkt recvTime).device.deviceType (packetType pkt) = true →
      (s.accept addr pkt recvTime).localTransactionMap pkt.common.counter = none := by
    intro hresponse
    rw [htype'] at hresponse
    exact absurd (hrequest.symm.trans hresponse) nofun
  let pd : Received C :=
    { basePacket := pkt, connData := s.conns.length, prevAssemblerData := none, initTime := recvTime }
  let queued : State C := ((s.accept addr pkt recvTime).withJobs s.jobs).addJob (.toMsg pd)
  have htook : Reached P d queued := hreceived.step (e := .take s.conns.length pkt) (hP _ _ rfl rfl)
    (.takeGeneric (show (s.accept addr pkt recvTime).jobs = .inbound s.conns.length pkt ::ₘ s.jobs from rfl)
      hconn rfl (by rw [htype']; exact htype) hnone)
  let conn : UdpConn M :=
    { connData := ppd.connData, lastLocalRecvTime := recvTime, ended := false }
  let u : Parse C := { pd := pd, ppd := ppd, remoteSendTime := ts, phase := .tested }
  let tested : State C :=
    { queued with
      device := ppd.device
      jobs := s.jobs
      conns := queued.conns.set s.conns.length conn
      parses := s.parses ++ [u] }
  have hbegun : Reached P d tested := htook.step (e := .begin pd nowMilli) (hP queued _ rfl rfl)
    (.beginTested (show queued.jobs = .toMsg pd ::ₘ s.jobs from rfl) hconn hbegin)
  exact ⟨tested, u, hbegun, ⟨rfl, rfl, rfl, hblock, rfl, rfl, rfl,
    List.getElem?_set_self (List.getElem?_eq_some_iff.mp hconn).1⟩, rfl, rfl, rfl, rfl⟩

/-- A packet from a known address waits for a worker. -/
theorem reached_queued [DecidableEq M] {P : State C → Act C → Prop} {d : Device C} {s : State C}
    (h : Reached P d s) (addr : Addr) (pkt : Packet M) (recvTime : Int64) {c : Nat} {conn : UdpConn M}
    {t : HeaderType} {size : Nat} (hfind : s.findConn addr = some c) (hconn : s.conns[c]? = some conn)
    (hloop : conn.ended = false) (hblock : s.blockAddrMap = []) (hlen : Packet.minimalLength ≤ pkt.len)
    (hcheck : recvPrecheck s.device.deviceType pkt = .ok (t, size)) (htype : t ≠ .kpl)
    (hrequest : isTransactionResponse s.device.deviceType t = false)
    (hquiet : ∀ s' a, a.quiet = true → P s' a) :
    Reached P d ((s.setConn c { conn with lastLocalRecvTime := recvTime }).addJob (.toMsg
      { basePacket := pkt, connData := c, prevAssemblerData := none, initTime := recvTime })) := by
  have htype' : packetType pkt = t := congrArg Prod.fst (recvPrecheck_eq_ok.mp hcheck).2.1
  have hreceived := h.step (e := .receive addr pkt recvTime) (hquiet _ _ rfl)
    (.receiveKnown hlen (by rw [hblock]; exact List.not_mem_nil) hcheck hfind hconn)
  have hconn' : (s.receiveFrom c conn pkt recvTime).conns[c]? = some { conn with lastLocalRecvTime := recvTime } :=
    List.getElem?_set_self (List.getElem?_eq_some_iff.mp hconn).1
  have hnone : isTransactionResponse s.device.deviceType (packetType pkt) = true →
      s.localTransactionMap pkt.common.counter = none := by
    intro hresponse
    rw [htype'] at hresponse
    exact absurd (hrequest.symm.trans hresponse) nofun
  exact hreceived.step (e := .take c pkt) (hquiet _ _ rfl)
    (.takeGeneric (show (s.receiveFrom c conn pkt recvTime).jobs = .inbound c pkt ::ₘ s.jobs from rfl) hconn' hloop
      (by rw [htype']; exact htype) hnone)

/-- A packet from a new address is accepted, on the connection it opens. -/
theorem reached_accepted [DecidableEq M] {P : State C → Act C → Prop} {d : Device C} {s : State C}
    (h : Reached P d s) (addr : Addr) (pkt : Packet M) (recvTime nowMilli now : Int64)
    {t : HeaderType} {size : Nat} {ppd : PacketParserData C}
    (hfind : s.findConn addr = none) (hblock : s.blockAddrMap = [])
    (hroom : s.remoteConnectionMap.length < maxConcurrentConnection) (hlen : Packet.minimalLength ≤ pkt.len)
    (hcheck : recvPrecheck s.device.deviceType pkt = .ok (t, size)) (htype : t ≠ .kpl)
    (hrequest : isTransactionResponse s.device.deviceType t = false)
    (hreceive : receive (s.accept addr pkt recvTime).device (firstPacket addr pkt recvTime) nowMilli now =
      (some ppd, .ok ()))
    (hquiet : ∀ s' a, a.quiet = true → P s' a) (hbegin : ∀ s' a, s'.parses = s.parses → P s' a) :
    ∃ s' u ts, Reached P d s' ∧ Behind s s' addr pkt recvTime ppd u ∧ u.phase = .accepted ∧
      sendTime (s.accept addr pkt recvTime).device (firstPacket addr pkt recvTime) nowMilli = some ts ∧
      s'.stored = { connData := s.conns.length, remoteSendTime := ts,
                    tested := checksReplay ppd.device pkt } :: s.stored := by
  -- The parse is split where the send time is stored; the first half is `reached_tested`.
  rw [receive_eq_halves] at hreceive
  obtain ⟨r, ⟨ppd', ts⟩, hbegins, hfinishes⟩ := Go.andThen_eq_ok.mp hreceive
  obtain ⟨rfl, hsend, -⟩ := beginParse_eq_ok hbegins
  obtain ⟨hsome, hok⟩ := Prod.mk.inj hfinishes
  have hfinishes : ppd'.finishParse ts now = (ppd, .ok ()) := Prod.ext (Option.some.inj hsome) hok
  have hdevice : ppd'.device = ppd.device := by
    rw [← (ppd'.finishParse_stores ts now).1, hfinishes]
  obtain ⟨s', u, hreached, hbehind, hstored, hppd, hts, hphase⟩ :=
    reached_tested h addr pkt recvTime nowMilli hfind hblock hroom hlen hcheck htype hrequest hbegins
      fun s' a hsame _ => hbegin s' a hsame
  have hlast : s'.parses[s.parses.length]? = some u := by
    rw [hbehind.parses]
    exact List.getElem?_concat_length
  have hresume : (u.resume s' { connData := ppd'.connData, lastLocalRecvTime := recvTime, ended := false }).finishParse
      u.remoteSendTime now = (ppd, .ok ()) := by
    rw [Parse.resume, hppd, hbehind.device, hts]
    exact hfinishes
  have hdone := hreached.step (e := .finish s.parses.length now) (hquiet _ _ rfl)
    (.finish hlast hphase (hbehind.connData ▸ hbehind.conn) hresume)
  refine ⟨_, { u with phase := .accepted }, ts, hdone, ⟨hbehind.jobs, hbehind.device.trans hdevice,
    hbehind.remoteConnectionMap, hbehind.blockAddrMap, ?_, hbehind.basePacket, hbehind.connData, ?_⟩, rfl, hsend, ?_⟩
  · show s'.parses.set s.parses.length _ = _
    rw [hbehind.parses, List.set_append_right _ _ le_rfl, Nat.sub_self]
    rfl
  · show (s'.conns.set u.pd.connData _)[s.conns.length]? = _
    rw [hbehind.connData, List.getElem?_set_self (List.getElem?_eq_some_iff.mp hbehind.conn).1]
  · show u.stores s'.device :: s'.stored = _
    rw [Parse.stores, hbehind.connData, hts, hbehind.basePacket, hbehind.device, hdevice, hstored]

/-- A packet of a new connection, as the sample server's workers get it. -/
def sampleReceived (addr : Addr) (pkt : Packet BigEndian.Bytes) (initTime : Int64) :
    PacketData sampleLibs.crypto where
  basePacket := pkt
  connData := .new sampleLibs.crypto addr
  prevAssemblerData := none
  connPeerPublicKey := none
  initTime := initTime

/-- A packet that comes once more from the address of the sample server's first one, a second later. -/
def sampleResent (ppd : PacketParserData sampleLibs.crypto) (pkt : Packet BigEndian.Bytes) :
    PacketData sampleLibs.crypto where
  basePacket := pkt
  connData := ppd.connData
  prevAssemblerData := none
  connPeerPublicKey := none
  initTime := 1001000000000

/-- The sample agent's knock on the wire, and what the sample server makes of it when it comes from the
    agent's address and, ten seconds later, from another one. -/
def knockTwice : Go (Packet BigEndian.Bytes × PacketParserData sampleLibs.crypto ×
    PacketParserData sampleLibs.crypto) :=
  (inBlankBuffer (sampleDevice .agent 1) (sampleMessage .knk none)).bind fun mad =>
  let pkt := Packet.ofBytes mad.content mad.content.length
  match receive (sampleDevice .server 2) (sampleReceived "10.0.0.1:62206" pkt 1000000000000) 1000000
      1000000000000 with
  | (some ppd, .ok ()) =>
    match receive ppd.device (sampleReceived "10.0.0.9:4444" pkt 1010000000000) 1010000
        1010000000000 with
    | (some ppd', .ok ()) => .ok (pkt, ppd, ppd')
    | _ => .panic
  | _ => .panic

/-- What the sample server's two receives of the knock show. -/
structure KnockTwice (pkt : Packet BigEndian.Bytes) (ppd ppd' : PacketParserData sampleLibs.crypto) : Prop where
  len : Packet.minimalLength ≤ pkt.len
  precheck : recvPrecheck .server pkt = .ok (.knk, 20)
  role : ppd.device.deviceType = .server
  overload : ppd.device.overload = false
  role' : ppd'.device.deviceType = .server
  received : receive (sampleDevice .server 2) (sampleReceived "10.0.0.1:62206" pkt 1000000000000) 1000000
    1000000000000 = (some ppd, .ok ())
  again : receive ppd.device (sampleReceived "10.0.0.9:4444" pkt 1010000000000) 1010000 1010000000000 =
    (some ppd', .ok ())
  sent : sendTime (sampleDevice .server 2) (sampleReceived "10.0.0.1:62206" pkt 1000000000000) 1000000 =
    some 1000000000000
  resent : sendTime ppd.device (sampleResent ppd pkt) 1001000 = some 1000000000000
  flood : ((beginParse ppd.device (sampleResent ppd pkt) 1001000).2.bind fun _ => .ok ()) = .err .floodPacket

/-- The knock of the example, and both its parses. -/
theorem exists_knockTwice : ∃ pkt ppd ppd', KnockTwice pkt ppd ppd' := by
  have hread : (knockTwice.bind fun r => .ok (decide (Packet.minimalLength ≤ r.1.len ∧
      recvPrecheck .server r.1 = .ok (.knk, 20) ∧ r.2.1.device.deviceType = .server ∧
      r.2.1.device.overload = false ∧ r.2.2.device.deviceType = .server ∧
      sendTime (sampleDevice .server 2) (sampleReceived "10.0.0.1:62206" r.1 1000000000000) 1000000 =
        some 1000000000000 ∧
      sendTime r.2.1.device (sampleResent r.2.1 r.1) 1001000 = some 1000000000000 ∧
      ((beginParse r.2.1.device (sampleResent r.2.1 r.1) 1001000).2.bind fun _ => .ok ()) =
        .err .floodPacket))) = .ok true := by
    decide +kernel
  obtain ⟨⟨pkt, ppd, ppd'⟩, hrun, hread⟩ := Go.bind_eq_ok.mp hread
  simp only [Go.ok.injEq, decide_eq_true_eq] at hread
  obtain ⟨hlen, hcheck, hrole, hoverload, hrole', hsent, hresent, hflood⟩ := hread
  obtain ⟨mad, -, hrun⟩ := Go.bind_eq_ok.mp hrun
  dsimp only at hrun
  split at hrun
  · rename_i ppd₁ hreceive
    split at hrun
    · rename_i ppd₂ hagain
      simp only [Go.ok.injEq, Prod.mk.injEq] at hrun
      obtain ⟨rfl, rfl, rfl⟩ := hrun
      exact ⟨_, ppd₁, ppd₂, hlen, hcheck, hrole, hoverload, hrole', hreceive, hagain, hsent, hresent, hflood⟩
    · cases hrun
  · cases hrun

/-- The sample server accepts the knock. -/
theorem KnockTwice.reached {P : State sampleLibs.crypto → Act sampleLibs.crypto → Prop}
    {pkt : Packet BigEndian.Bytes} {ppd ppd' : PacketParserData sampleLibs.crypto}
    (h : KnockTwice pkt ppd ppd') (hquiet : ∀ s a, a.quiet = true → P s a)
    (hbegin : ∀ s a, s.parses = [] → P s a) :
    ∃ s u, Reached P (sampleDevice .server 2) s ∧
      Behind (State.start (sampleDevice .server 2)) s "10.0.0.1:62206" pkt 1000000000000 ppd u ∧
      u.phase = .accepted ∧ s.stored =
        [{ connData := 0, remoteSendTime := 1000000000000, tested := checksReplay ppd.device pkt }] := by
  have hstart : Reached P (sampleDevice .server 2) (State.start (sampleDevice .server 2)) := .refl
  have hknk : HeaderType.knk ≠ .kpl := nofun
  have hroom : 0 < maxConcurrentConnection := by decide
  obtain ⟨s, u, ts, hreached, hbehind, hphase, hsend, hstored⟩ :=
    reached_accepted hstart "10.0.0.1:62206" pkt 1000000000000 1000000 1000000000000 rfl rfl hroom
      h.len h.precheck hknk rfl h.received hquiet hbegin
  obtain rfl := Option.some.inj (hsend.symm.trans h.sent)
  exact ⟨s, u, hreached, hbehind, hphase, hstored⟩

/-- The type of the sample knock is one that is checked. -/
theorem KnockTwice.checks {pkt : Packet BigEndian.Bytes} {ppd ppd' : PacketParserData sampleLibs.crypto}
    (h : KnockTwice pkt ppd ppd') {d : Device sampleLibs.crypto} (hrole : d.deviceType = .server) :
    checksReplay d pkt = true := by
  obtain ⟨-, hread, -⟩ := recvPrecheck_eq_ok.mp h.precheck
  have htype : packetType pkt = .knk := congrArg Prod.fst hread
  rw [checksReplay, hrole, htype]
  rfl

/-- The steps that test nothing meet the condition. -/
theorem monitored_of_quiet (s : State sampleLibs.crypto) (a : Act sampleLibs.crypto) (ha : a.quiet = true) :
    Monitored s a := by
  cases a with
  | begin pd nowMilli => cases ha
  | _ => trivial

/-- So does the test of a first packet. -/
theorem monitored_of_first (s : State sampleLibs.crypto) (a : Act sampleLibs.crypto) (hnone : s.parses = []) :
    Monitored s a := by
  cases a with
  | begin pd nowMilli =>
    refine ⟨fun t ht => ?_, fun _ hgot => ?_⟩
    · rw [hnone] at ht
      cases ht
    · obtain ⟨t, ht, -⟩ := hgot
      rw [hnone] at ht
      cases ht
  | _ => trivial

/-- The sample server accepts the knock; a second later it comes again, from the same address, and a worker
    begins to parse it: its send time is stored, and it is refused. -/
theorem no_replay_sample : ∃ (s s' : State sampleLibs.crypto) (pd : Received sampleLibs.crypto) (nowMilli : Int64),
    s.gotThrough pd.basePacket ∧ checksReplay s.device pd.basePacket = true ∧ Step s (.begin pd nowMilli) s' ∧
      s'.NoReplay := by
  obtain ⟨pkt, ppd, ppd', hknock⟩ := exists_knockTwice
  obtain ⟨s, u, hreached, hbehind, hphase, hstored⟩ := hknock.reached monitored_of_quiet monitored_of_first
  have hparses : s.parses = [u] := hbehind.parses
  have hrole : s.device.deviceType = .server := by
    rw [hbehind.device, hknock.role]
  have hcheck : recvPrecheck s.device.deviceType pkt = .ok (.knk, 20) := by
    rw [hrole]
    exact hknock.precheck
  have hfind : s.findConn "10.0.0.1:62206" = some 0 := by
    rw [State.findConn, hbehind.remoteConnectionMap]
    decide
  have hknk : HeaderType.knk ≠ .kpl := nofun
  let conn : UdpConn BigEndian.Bytes :=
    { connData := ppd.connData, lastLocalRecvTime := 1001000000000, ended := false }
  let pd : Received sampleLibs.crypto :=
    { basePacket := pkt, connData := 0, prevAssemblerData := none, initTime := 1001000000000 }
  let queued : State sampleLibs.crypto := (s.setConn 0 conn).addJob (.toMsg pd)
  have hqueued : Reached Monitored (sampleDevice .server 2) queued :=
    reached_queued hreached "10.0.0.1:62206" pkt 1001000000000 hfind hbehind.conn rfl hbehind.blockAddrMap
      hknock.len hcheck hknk (by rw [hrole]; rfl) monitored_of_quiet
  have hconn : queued.conns[0]? = some conn :=
    List.getElem?_set_self (List.getElem?_eq_some_iff.mp hbehind.conn).1
  have hgot : queued.gotThrough pkt := by
    refine ⟨u, by rw [show queued.parses = [u] from hparses]; exact List.mem_singleton_self u, ?_, ?_⟩
    · rw [hphase]
      nofun
    · rw [hbehind.basePacket]
      exact ⟨rfl, rfl, fun _ _ => ⟨rfl, rfl⟩⟩
  have hchecks : checksReplay queued.device pkt = true := hknock.checks hrole
  have hmonitored : Monitored queued (.begin pd 1001000) := by
    refine ⟨fun t ht htested => ?_, fun _ _ conn' ts hconn' hsend => .inr ?_⟩
    · rw [show queued.parses = [u] from hparses, List.mem_singleton] at ht
      rw [ht, hphase] at htested
      cases htested
    · obtain rfl := Option.some.inj (hconn.symm.trans hconn')
      rw [show queued.device = ppd.device from hbehind.device] at hsend
      obtain rfl := Option.some.inj (hknock.resent.symm.trans hsend)
      refine ⟨?_, by decide⟩
      rw [show queued.stored = _ from hstored]
      rfl
  have hrefused : (beginParse queued.device (pd.current conn) 1001000).2 = .err .floodPacket := by
    have hflood := hknock.flood
    rw [show queued.device = ppd.device from hbehind.device]
    cases hbegin : (beginParse ppd.device (sampleResent ppd pkt) 1001000).2 with
    | ok r => rw [hbegin] at hflood; cases hflood
    | panic => rw [hbegin] at hflood; cases hflood
    | err e =>
      rw [hbegin] at hflood
      obtain rfl := Go.err.inj hflood
      exact hbegin
  have hstep := Step.beginRefused (show queued.jobs = .toMsg pd ::ₘ s.jobs from rfl) hconn (Prod.ext rfl hrefused)
  exact ⟨queued, _, pd, 1001000, hgot, hchecks, hstep, no_replay (hqueued.step hmonitored hstep)⟩

/-- **A replay from another address.**  The server accepts the agent's knock a second time when it comes from
    another address ten seconds later. -/
theorem replay_from_another_address :
    ∃ s : State sampleLibs.crypto, Reached (fun _ _ => True) (sampleDevice .server 2) s ∧ ¬ s.NoReplay := by
  obtain ⟨pkt, ppd, ppd', hknock⟩ := exists_knockTwice
  obtain ⟨s, u, hreached, hbehind, hphase, -⟩ :=
    hknock.reached (P := fun _ _ => True) (fun _ _ _ => trivial) (fun _ _ _ => trivial)
  have hdevice := hbehind.device
  have hmap := hbehind.remoteConnectionMap
  have hpacket := hbehind.basePacket
  have hfind : s.findConn "10.0.0.9:4444" = none := by
    rw [State.findConn, hmap]
    decide
  have hroom : s.remoteConnectionMap.length < maxConcurrentConnection := by
    rw [hmap]
    decide
  have hkept : (s.accept "10.0.0.9:4444" pkt 1010000000000).device = ppd.device := by
    have hunloaded : (s.device.overload || decide (overloadConnectionThreshold < s.remoteConnectionMap.length)) =
        ppd.device.overload := by
      rw [hmap, hdevice, hknock.overload]
      decide
    rw [State.accept, hunloaded, hdevice]
  have hknk : HeaderType.knk ≠ .kpl := nofun
  have hcheck : recvPrecheck s.device.deviceType pkt = .ok (.knk, 20) := by
    rw [hdevice, hknock.role]
    exact hknock.precheck
  have hrequest : isTransactionResponse s.device.deviceType .knk = false := by
    rw [hdevice, hknock.role]
    rfl
  obtain ⟨s', u', -, hreached', hbehind', hphase', -⟩ :=
    reached_accepted hreached "10.0.0.9:4444" pkt 1010000000000 1010000 1010000000000 hfind hbehind.blockAddrMap
      hroom hknock.len hcheck hknk hrequest (by rw [hkept]; exact hknock.again) (fun _ _ _ => trivial)
      (fun _ _ _ => trivial)
  refine ⟨s', hreached', fun hno => ?_⟩
  have hparses' : s'.parses = [u, u'] := by
    rw [hbehind'.parses, hbehind.parses]
    rfl
  have hu : s'.parses[0]? = some u := by rw [hparses']; rfl
  have hu' : s'.parses[1]? = some u' := by rw [hparses']; rfl
  have hchecked : checksReplay s'.device u.pd.basePacket = true := by
    rw [hpacket]
    exact hknock.checks (by rw [hbehind'.device, hknock.role'])
  refine hno 0 1 u u' Nat.zero_ne_one hu hu' hphase hphase' hchecked ?_
  rw [hpacket, hbehind'.basePacket]
  exact ⟨rfl, rfl, fun _ _ => ⟨rfl, rfl⟩⟩

end OpenNHP.Server.Replay
