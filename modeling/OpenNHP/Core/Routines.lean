/-
  The goroutines of a device and its connections (`nhp/core/device.go`, `transaction.go`, `udpconn.go` and
  the connection routines of the endpoints).

  THE PROGRAM.  Packets come in through a receive routine, wait in a connection's queue, are dispatched to a
  transaction or to the parser's queue, and are parsed by one of the device's workers; messages go the other way.
  A request opens a transaction, whose goroutine waits for the answer, the end of the connection or of the device,
  or its time.

  THE MODEL.  Everything in flight is a `Job`: a value in a queue, or a goroutine between two of its statements.
  A step takes one job, one transaction or one connection on; which one is anybody's choice, so a run covers
  every interleaving (`Step`, `Reached`).

  1. A queue is the bag of its jobs: several workers take from the device's queues and overtake one another, and
     nothing here depends on the order.
  2. Channels without a buffer are hand-overs: a job that holds a looked-up transaction sends when the
     transaction is in its select.
  3. A packet is parsed where the source parses it, by a worker, in the device and the connection as they are
     then; the clock and the random choices are those of that step.

  THE CRUX.  A goroutine holds what it has looked up across other goroutines' steps, so a job carries the index
  of its transaction and not the transaction.  And statements about runs have conditions on their steps (`P`); the
  runs at the end of this file, in which a knock is sent and its answer arrives, are there under any condition
  that asks nothing of these steps (`Undemanding`).
-/
import OpenNHP.Core.HeaderMeaning
import OpenNHP.Lib.Runs
import Mathlib.Data.Multiset.Count

namespace OpenNHP.Core.Routines

open OpenNHP.Core

variable {M : Type}

/-! ## Constants and transaction types -/

/-- `SendQueueSize`. -/
def sendQueueSize : Nat := 10240
/-- `RecvQueueSize`. -/
def recvQueueSize : Nat := 10240
/-- `MaxMemoryUsage / PacketBufferSize`. -/
def packetBufferPoolSize : UInt32 := 262144

/-- `PacketQueueSizePerConnection` of the endpoints. -/
def packetQueueSizePerConnection : DeviceType → Nat
  | .server | .ac => 256
  | _ => 64

/-- `IsTransactionRequest`. -/
def isTransactionRequest (deviceType : DeviceType) (t : HeaderType) : Bool :=
  match deviceType with
  | .agent => [.reg, .lst, .knk, .dhpKnk, .rkn, .ext, .dar, .dav].contains t
  | .server =>
    [.reg, .lst, .knk, .dhpKnk, .rkn, .ext, .aol, .aop, .dak, .dag, .dsa, .dar, .dav, .drg, .dol,
      .dwr].contains t
  | .ac => [.aol, .aop].contains t
  | .db => [.drg, .dol, .dwr].contains t
  | _ => false

/-- `IsTransactionResponse`. -/
def isTransactionResponse (deviceType : DeviceType) (t : HeaderType) : Bool :=
  match deviceType with
  | .agent => [.rak, .lrt, .ack, .dag, .dsa].contains t
  | .server => [.rak, .lrt, .ack, .aak, .art, .dak, .dwa].contains t
  | .ac => [.aak, .art].contains t
  | .db => [.dak, .dba].contains t
  | _ => false

/-! ## What is in flight -/

/-- A `MsgData` on its way to `msgToPacketRoutine`: its connection, the caller that waits on its
    `ResponseMsgCh`, and whether it has an `EncryptedPktCh`, which a derived message does not use. -/
structure OutMsg (C : Crypto M) where
  md : MsgData C
  connData : Nat
  responseMsgCh : Option Nat
  encryptedPktCh : Bool

/-- A `PacketData` on its way to `packetToMsgRoutine`.  For a response: the local transaction whose assembly
    it continues, with the caller that waits for it. -/
structure InPacket (C : Crypto M) where
  basePacket : Nat
  content : Packet M
  connData : Nat
  prevAssemblerData : Option (Nat × MsgAssemblerData C)
  feedbackMsgCh : Option Nat
  decryptedMsgCh : Bool
  initTime : Int64

/-- What a caller gets on its `ResponseMsgCh`. -/
inductive Completion (C : Crypto M)
  /-- the answer parsed for a local transaction -/
  | response (i : Nat) (ppd : PacketParserData C)
  /-- a message handed over through `ExternalMsgCh` -/
  | external (i : Nat) (ppd : PacketParserData C)
  /-- a `PacketParserData` with `Error` -/
  | error

/-- A value in a queue, or a goroutine between two statements.  `p` is a packet, `c` a connection, `i` a
    transaction; `keep` is `KeepAfterSend`. -/
inductive Job (C : Crypto M)
  /-- a receive routine in its read -/
  | reading (p : Nat)
  /-- in `RecvQueue` -/
  | inbound (c p : Nat) (pkt : Packet M)
  /-- a connection routine at `transaction.NextPacketCh <- pkt` -/
  | dispatching (c p : Nat) (pkt : Packet M) (i : Nat)
  /-- in `packetToMsgQueue` -/
  | toMsg (pd : InPacket C)
  /-- a worker behind `AddRemoteTransaction`, before it releases the packet -/
  | parsed (p : Nat)
  /-- a temporary access handler that got its message on `DecryptedMsgCh`, before its deferred release -/
  | accessed (p : Nat)
  /-- in an endpoint's `sendMsgCh` -/
  | posted (m : OutMsg C)
  /-- in `msgToPacketQueue` -/
  | toPacket (m : OutMsg C)
  /-- a worker in `ForwardOutboundPacket` -/
  | outgoing (c p : Nat) (keep : Bool)
  /-- in `SendQueue` -/
  | outbound (c p : Nat) (keep : Bool)
  /-- a connection routine in `SendPacket` -/
  | sending (c p : Nat) (keep : Bool)
  /-- handed over on `EncryptedPktCh` -/
  | exported (p : Nat)
  /-- a handler at `transaction.NextMsgCh <- md` -/
  | answering (i : Nat) (m : OutMsg C)
  /-- a cookie handler at `transaction.ExternalMsgCh <- ppd` -/
  | redirecting (i : Nat) (ppd : PacketParserData C)

/-! ## Transactions -/

/-- The case a local transaction's select took. -/
inductive Ending (M : Type)
  | packet (c : Nat) (pkt : Packet M)
  | external
  | closedConnection
  | closedDevice
  | timeout

/-- `err` in `LocalTransaction.Run`. -/
def Ending.isErr : Ending M → Bool
  | .packet _ _ | .external => false
  | _ => true

/-- Where `LocalTransaction.Run` stands.  `NextPacketCh` exists from the start, `ExternalMsgCh` from
    `waiting` on; both are closed from `closed` on.  The two closes are one step here, for nobody receives
    between them. -/
inductive LocalPhase (C : Crypto M)
  | added
  | waiting
  | gotPacket (p c : Nat) (pkt : Packet M)
  | gotExternal (ppd : PacketParserData C)
  | ended
  | destroyed
  | closed
  | removed
  | done

/-- `LocalTransaction`; `basePacket` is `mad.BasePacket`, `responseMsgCh` is `mad.ResponseMsgCh`. -/
structure LocalTransaction (C : Crypto M) where
  transactionId : UInt64
  connData : Nat
  mad : MsgAssemblerData C
  basePacket : Nat
  responseMsgCh : Option Nat
  phase : LocalPhase C
  ending : Option (Ending M)

/-- Where `RemoteTransaction.Run` stands; `NextMsgCh` is closed from `closed` on. -/
inductive RemotePhase (C : Crypto M)
  | waiting
  | gotMsg (m : OutMsg C)
  | ended
  | destroyed
  | closed
  | removed

/-- `RemoteTransaction`: a request that was parsed and waits for the endpoint's answer. -/
structure RemoteTransaction (C : Crypto M) where
  transactionId : UInt64
  connData : Nat
  parserData : PacketParserData C
  basePacket : Nat
  phase : RemotePhase C

/-- A connection: its `ConnectionData`, whether `StopSignal` is closed, and whether `Close` has found its
    queues empty. -/
structure Conn (M : Type) where
  data : ConnectionData M
  stopSignal : Bool
  flushed : Bool
  remoteTransactionMap : UInt64 → Option Nat

/-! ## The device -/

/-- A packet's pool buffer: `Buf` is set; it was put back but `Buf` is not cleared yet; `Buf` is `nil`. -/
inductive PoolBuf
  | held
  | returned
  | cleared
  deriving DecidableEq, Repr

/-- The device with all that is in flight; packets, connections, transactions and callers go by their places in
    the lists. -/
structure State (C : Crypto M) where
  device : Device C
  /-- `signals.stop` is closed. -/
  stopped : Bool
  /-- The workers have not quit. -/
  running : Bool
  /-- A goroutine has panicked. -/
  crashed : Bool
  /-- A goroutine has sent on a closed channel or on one not yet created. -/
  badSend : Bool
  /-- The `WaitPool` count. -/
  count : UInt32
  packets : List PoolBuf
  /-- The packets whose buffer was put back, once for each time. -/
  puts : List Nat
  conns : List (Conn M)
  jobs : Multiset (Job C)
  locals : List (LocalTransaction C)
  localTransactionMap : UInt64 → Option Nat
  remotes : List (RemoteTransaction C)
  /-- The callers so far; each waits on its own `ResponseMsgCh`. -/
  callers : Nat
  completions : List (Nat × Completion C)

variable {C : Crypto M}

/-- `NewDevice` and `Start`. -/
def State.start (d : Device C) : State C where
  device := d
  stopped := false
  running := true
  crashed := false
  badSend := false
  count := 0
  packets := []
  puts := []
  conns := []
  jobs := 0
  locals := []
  localTransactionMap _ := none
  remotes := []
  callers := 0
  completions := []

namespace Job

/-- Waits to be parsed. -/
def inPacketToMsgQueue : Job C → Bool
  | toMsg _ => true
  | _ => false

/-- Waits to be assembled. -/
def inMsgToPacketQueue : Job C → Bool
  | toPacket _ => true
  | _ => false

/-- Waits in the endpoint's channel. -/
def inSendMsgCh : Job C → Bool
  | posted _ => true
  | _ => false

/-- The connection routine is at work on a packet. -/
def busy (c : Nat) : Job C → Bool
  | dispatching c' _ _ _ => c' == c
  | sending c' _ _ => c' == c
  | _ => false

/-- Waits for the routine of connection `c`. -/
def inRecvQueue (c : Nat) : Job C → Bool
  | inbound c' _ _ => c' == c
  | _ => false

/-- Waits to be sent by it. -/
def inSendQueue (c : Nat) : Job C → Bool
  | outbound c' _ _ => c' == c
  | _ => false

end Job

namespace Conn

/-- A new connection has no transactions. -/
def new (data : ConnectionData M) : Conn M where
  data := data
  stopSignal := false
  flushed := false
  remoteTransactionMap _ := none

/-- `AddRemoteTransaction`, on the map. -/
def addRemoteTransaction (conn : Conn M) (id : UInt64) (i : Nat) : Conn M :=
  { conn with remoteTransactionMap := fun id' => if id' = id then some i else conn.remoteTransactionMap id' }

/-- `FindRemoteTransaction`. -/
def findRemoteTransaction (conn : Conn M) (id : UInt64) : Option Nat :=
  if conn.data.closed then none else conn.remoteTransactionMap id

/-- `delete(conn.RemoteTransactionMap, t.transactionId)`. -/
def deleteRemoteTransaction (conn : Conn M) (id : UInt64) : Conn M :=
  { conn with remoteTransactionMap := fun id' => if id' = id then none else conn.remoteTransactionMap id' }

end Conn

namespace State

/-- `AllocatePoolPacket`: the new packet is the last one. -/
def allocate (s : State C) : State C :=
  { s with count := s.count + 1, packets := s.packets ++ [.held] }

/-- `pkt.Buf != nil`. -/
def hasBuf (s : State C) (p : Nat) : Bool :=
  match s.packets[p]? with
  | some .cleared | none => false
  | some _ => true

/-- `ReleasePoolPacket` up to `pool.Put`; a packet without a buffer is left alone. -/
def release (s : State C) (p : Nat) : State C :=
  { s with
    count := if s.hasBuf p then s.count - 1 else s.count
    packets := if s.hasBuf p then s.packets.set p .returned else s.packets
    puts := if s.hasBuf p then s.puts ++ [p] else s.puts }

/-- The state with other jobs. -/
def withJobs (s : State C) (jobs : Multiset (Job C)) : State C := { s with jobs := jobs }

/-- The state with one job more. -/
def addJob (s : State C) (job : Job C) : State C := { s with jobs := job ::ₘ s.jobs }

/-- `SendMsgToPacket`: discards the message when the queue is full. -/
def sendMsgToPacket (s : State C) (m : OutMsg C) : State C :=
  { s with jobs :=
      if s.jobs.countP (·.inMsgToPacketQueue) < sendQueueSize then .toPacket m ::ₘ s.jobs else s.jobs }

/-- `RecvPacketToMsg`: discards the packet when the queue is full. -/
def recvPacketToMsg (s : State C) (pd : InPacket C) : State C :=
  { s with jobs :=
      if s.jobs.countP (·.inPacketToMsgQueue) < recvQueueSize then .toMsg pd ::ₘ s.jobs else s.jobs }

/-- The local transaction `i` goes on. -/
def setLocal (s : State C) (i : Nat) (t : LocalTransaction C) : State C :=
  { s with locals := s.locals.set i t }

/-- The remote transaction `i` goes on. -/
def setRemote (s : State C) (i : Nat) (t : RemoteTransaction C) : State C :=
  { s with remotes := s.remotes.set i t }

/-- The connection `c` has changed. -/
def setConn (s : State C) (c : Nat) (conn : Conn M) : State C :=
  { s with conns := s.conns.set c conn }

/-- `AddLocalTransaction`. -/
def addLocalTransaction (s : State C) (t : LocalTransaction C) : State C :=
  { s with
    locals := s.locals ++ [t]
    localTransactionMap := fun id =>
      if id = t.transactionId then some s.locals.length else s.localTransactionMap id }

/-- `FindLocalTransaction`. -/
def findLocalTransaction (s : State C) (id : UInt64) : Option Nat := s.localTransactionMap id

/-- `delete(device.localTransactionMap, t.transactionId)`. -/
def deleteLocalTransaction (s : State C) (id : UInt64) : State C :=
  { s with localTransactionMap := fun id' => if id' = id then none else s.localTransactionMap id' }

/-- `AddRemoteTransaction`, on a connection. -/
def addRemoteTransaction (s : State C) (conn : Conn M) (t : RemoteTransaction C) : State C :=
  { s with
    remotes := s.remotes ++ [t]
    conns := s.conns.set t.connData (conn.addRemoteTransaction t.transactionId s.remotes.length) }

/-- A value on the `ResponseMsgCh` of a caller, if there is one. -/
def complete (s : State C) (caller : Option Nat) (completion : Completion C) : State C :=
  { s with completions := s.completions ++ (caller.map fun r => (r, completion)).toList }

/-- A value on `DecryptedMsgCh`, if there is one. -/
def wakeHandler (s : State C) (pd : InPacket C) : State C :=
  { s with jobs := if pd.decryptedMsgCh then .accessed pd.basePacket ::ₘ s.jobs else s.jobs }

/-- What a parse leaves in the peer table and in its connection. -/
def learn (s : State C) (c : Nat) (conn : Conn M) (r : Option (PacketParserData C)) : State C :=
  { s with
    device := (r.map (·.device)).getD s.device
    conns := s.conns.set c { conn with data := (r.map (·.connData)).getD conn.data } }

end State

/-- The type `RecvPrecheck` records in a received packet. -/
def packetType (pkt : Packet M) : HeaderType := pkt.common.typeAndPayloadSize.1

/-- The `MsgData` as `createMsgAssemblerData` finds it: device and connection are pointers. -/
def OutMsg.current (m : OutMsg C) (d : Device C) (conn : Conn M) : MsgData C :=
  { m.md with
    connData := conn.data
    prevParserData := m.md.prevParserData.map fun ppd =>
      { ppd with device := d, connData := conn.data } }

/-- The remote transaction to which the server's `sendMessageRoutine` hands a message. -/
def OutMsg.answers (m : OutMsg C) (s : State C) : Option Nat :=
  match m.md.prevParserData, s.conns[m.connData]? with
  | some ppd, some conn =>
    if isTransactionResponse s.device.deviceType m.md.headerType then
      conn.findRemoteTransaction ppd.senderTrxId
    else none
  | _, _ => none

/-- The `PacketData` as `createPacketParserData` finds it. -/
def InPacket.current (pd : InPacket C) (conn : Conn M) : PacketData C where
  basePacket := pd.content
  connData := conn.data
  prevAssemblerData := pd.prevAssemblerData.map Prod.snd
  connPeerPublicKey := none
  initTime := pd.initTime

/-- What `msgToPacketRoutine` makes of a message, with its random choices, the clock and the content of the
    pool buffer. -/
def State.assemble (s : State C) (m : OutMsg C) (conn : Conn M) (rnd : Entropy C) (buf : Packet M)
    (preamble : UInt32) (now : Int64) : Go (MsgAssemblerData C) :=
  (createMsgAssemblerData s.device (m.current s.device conn) rnd buf now).encrypt preamble

/-! ## Steps -/

/-- What can happen next. -/
inductive Act (C : Crypto M)
  | allocate
  | readError (p : Nat)
  | deliver (p c : Nat) (pkt : Packet M)
  | refuse (p c : Nat)
  | submit (p c : Nat) (pkt : Packet M) (initTime : Int64)
  | leaveHandler (p : Nat)
  | takeInbound (c p : Nat) (pkt : Packet M) (initTime : Int64)
  | handPacket (i c p : Nat) (pkt : Packet M)
  | takeOutbound (c p : Nat) (keep : Bool)
  | transmit (c p : Nat) (keep : Bool)
  | close (c : Nat)
  | flush (c p : Nat)
  | flushed (c : Nat)
  | clear (p : Nat)
  | assemble (m : OutMsg C) (rnd : Entropy C) (buf : Packet M) (preamble : UInt32) (now : Int64)
  | forward (c p : Nat) (keep : Bool)
  | forwardStopped (c p : Nat)
  | destroyExported (p : Nat)
  | start (i : Nat)
  | handOn (i : Nat) (initTime : Int64)
  | stop (i : Nat) (ending : Ending M)
  | destroy (i : Nat)
  | closeChannels (i : Nat)
  | remove (i : Nat)
  | notify (i : Nat)
  | parse (pd : InPacket C) (nowMilli now : Int64)
  | releaseParsed (p : Nat)
  | findRemote (c : Nat) (id : UInt64) (m : OutMsg C)
  | answer (i : Nat) (m : OutMsg C)
  | findExternal (id : UInt64) (ppd : PacketParserData C)
  | redirect (i : Nat) (ppd : PacketParserData C)
  | handOnMsg (i : Nat)
  | stopRemote (i : Nat)
  | destroyRemote (i : Nat)
  | closeRemote (i : Nat)
  | removeRemote (i : Nat)
  | post (m : OutMsg C)
  | send (m : OutMsg C)
  | dropPosted (m : OutMsg C)
  | route (m : OutMsg C) (c : Nat)
  | routeAnswer (m : OutMsg C) (i : Nat)
  | connect (data : ConnectionData M)
  | configure (d : Device C)
  | stopDevice
  | quit

/-- The channels of the transaction are closed. -/
def LocalPhase.channelsClosed : LocalPhase C → Bool
  | .closed | .removed | .done => true
  | _ => false

/-- `NextMsgCh` is closed. -/
def RemotePhase.channelClosed : RemotePhase C → Bool
  | .closed | .removed => true
  | _ => false

/-- What a local transaction's select needs to take a case other than a hand-over. -/
def State.mayStop (s : State C) (t : LocalTransaction C) : Ending M → Prop
  | .closedConnection => ∃ conn, s.conns[t.connData]? = some conn ∧ conn.stopSignal = true
  | .closedDevice => s.stopped = true
  | .timeout => True
  | .packet _ _ | .external => False

set_option autoImplicit true in
/-- One step of one goroutine. -/
inductive Step [DecidableEq M] : State C → Act C → State C → Prop
  -- the receive routines: read into a new buffer, the checks, `ForwardInboundPacket`.  The `IsClosed` test
  -- may be old by the time the select runs, so that it is no guard here
  | allocate (hpool : s.count < packetBufferPoolSize) :
    Step s .allocate (s.allocate.addJob (.reading s.packets.length))
  | readError (hjobs : s.jobs = .reading p ::ₘ rest) :
    Step s (.readError p) ((s.withJobs rest).release p)
  | deliver (hjobs : s.jobs = .reading p ::ₘ rest) (hlen : Packet.minimalLength ≤ pkt.len)
      (hcheck : recvPrecheck s.device.deviceType pkt = .ok r) (hconn : s.conns[c]? = some conn)
      (hroom : s.jobs.countP (·.inRecvQueue c) < packetQueueSizePerConnection s.device.deviceType) :
    Step s (.deliver p c pkt) ((s.withJobs rest).addJob (.inbound c p pkt))
  | refuse (hjobs : s.jobs = .reading p ::ₘ rest) (hconn : s.conns[c]? = some conn)
      (hstop : conn.stopSignal = true) :
    Step s (.refuse p c) ((s.withJobs rest).release p)
  -- the temporary access handlers
  | submit (hjobs : s.jobs = .reading p ::ₘ rest) :
    Step s (.submit p c pkt initTime) ((s.withJobs rest).recvPacketToMsg
      { basePacket := p, content := pkt, connData := c, prevAssemblerData := none, feedbackMsgCh := none,
        decryptedMsgCh := true, initTime := initTime })
  | leaveHandler (hjobs : s.jobs = .accessed p ::ₘ rest) :
    Step s (.leaveHandler p) ((s.withJobs rest).release p)
  -- `connectionRoutine`
  | takeKeepalive (hjobs : s.jobs = .inbound c p pkt ::ₘ rest) (hconn : s.conns[c]? = some conn)
      (hopen : conn.flushed = false) (hidle : s.jobs.countP (·.busy c) = 0)
      (htype : packetType pkt = .kpl) :
    Step s (.takeInbound c p pkt initTime) ((s.withJobs rest).release p)
  | dispatch (hjobs : s.jobs = .inbound c p pkt ::ₘ rest) (hconn : s.conns[c]? = some conn)
      (hopen : conn.flushed = false) (hidle : s.jobs.countP (·.busy c) = 0)
      (htype : packetType pkt ≠ .kpl)
      (hresponse : isTransactionResponse s.device.deviceType (packetType pkt) = true)
      (hfind : s.findLocalTransaction pkt.common.counter = some i) :
    Step s (.takeInbound c p pkt initTime) ((s.withJobs rest).addJob (.dispatching c p pkt i))
  | takeGeneric (hjobs : s.jobs = .inbound c p pkt ::ₘ rest) (hconn : s.conns[c]? = some conn)
      (hopen : conn.flushed = false) (hidle : s.jobs.countP (·.busy c) = 0)
      (htype : packetType pkt ≠ .kpl)
      (hnone : isTransactionResponse s.device.deviceType (packetType pkt) = true →
        s.findLocalTransaction pkt.common.counter = none) :
    Step s (.takeInbound c p pkt initTime) ((s.withJobs rest).recvPacketToMsg
      { basePacket := p, content := pkt, connData := c, prevAssemblerData := none, feedbackMsgCh := none,
        decryptedMsgCh := false, initTime := initTime })
  | handPacket (hjobs : s.jobs = .dispatching c p pkt i ::ₘ rest) (htrx : s.locals[i]? = some t)
      (hphase : t.phase = .waiting) :
    Step s (.handPacket i c p pkt) ((s.withJobs rest).setLocal i
      { t with phase := .gotPacket p c pkt, ending := some (.packet c pkt) })
  | handPacketClosed (hjobs : s.jobs = .dispatching c p pkt i ::ₘ rest) (htrx : s.locals[i]? = some t)
      (hclosed : t.phase.channelsClosed = true) :
    Step s (.handPacket i c p pkt) { s with crashed := true, badSend := true }
  | takeOutbound (hjobs : s.jobs = .outbound c p keep ::ₘ rest) (hconn : s.conns[c]? = some conn)
      (hopen : conn.flushed = false) (hidle : s.jobs.countP (·.busy c) = 0) :
    Step s (.takeOutbound c p keep) ((s.withJobs rest).addJob (.sending c p keep))
  | transmit (hjobs : s.jobs = .sending c p false ::ₘ rest) :
    Step s (.transmit c p false) ((s.withJobs rest).release p)
  | transmitKept (hjobs : s.jobs = .sending c p true ::ₘ rest) :
    Step s (.transmit c p true) (s.withJobs rest)
  -- `ConnectionData.Close`
  | close (hconn : s.conns[c]? = some conn) :
    Step s (.close c) (s.setConn c
      { conn with stopSignal := true, data := { conn.data with closed := true } })
  | flushInbound (hjobs : s.jobs = .inbound c p pkt ::ₘ rest) (hconn : s.conns[c]? = some conn)
      (hstop : conn.stopSignal = true) (hopen : conn.flushed = false) :
    Step s (.flush c p) ((s.withJobs rest).release p)
  | flushOutbound (hjobs : s.jobs = .outbound c p keep ::ₘ rest) (hconn : s.conns[c]? = some conn)
      (hstop : conn.stopSignal = true) (hopen : conn.flushed = false) :
    Step s (.flush c p) ((s.withJobs rest).release p)
  | flushed (hconn : s.conns[c]? = some conn) (hstop : conn.stopSignal = true)
      (hrecv : s.jobs.countP (·.inRecvQueue c) = 0) (hsend : s.jobs.countP (·.inSendQueue c) = 0) :
    Step s (.flushed c) (s.setConn c { conn with flushed := true })
  -- the end of `ReleasePoolPacket`
  | clear (hput : s.packets[p]? = some .returned) :
    Step s (.clear p) { s with packets := s.packets.set p .cleared }
  -- `msgToPacketRoutine`
  | keepalive (hjobs : s.jobs = .toPacket m ::ₘ rest) (hrun : s.running = true)
      (hpool : s.count < packetBufferPoolSize) (hconn : s.conns[m.connData]? = some conn)
      (htype : m.md.headerType = .kpl) :
    Step s (.assemble m rnd buf preamble now)
      ((s.withJobs rest).allocate.addJob (.outgoing m.connData s.packets.length false))
  | assembleFailed (hjobs : s.jobs = .toPacket m ::ₘ rest) (hrun : s.running = true)
      (hpool : s.count < packetBufferPoolSize) (hconn : s.conns[m.connData]? = some conn)
      (htype : m.md.headerType ≠ .kpl) (hmad : s.assemble m conn rnd buf preamble now = .err e) :
    Step s (.assemble m rnd buf preamble now)
      (((s.withJobs rest).allocate.release s.packets.length).complete m.responseMsgCh .error)
  | assembleExported (hjobs : s.jobs = .toPacket m ::ₘ rest) (hrun : s.running = true)
      (hpool : s.count < packetBufferPoolSize) (hconn : s.conns[m.connData]? = some conn)
      (htype : m.md.headerType ≠ .kpl) (hmad : s.assemble m conn rnd buf preamble now = .ok mad)
      (hexport : m.encryptedPktCh = true) :
    Step s (.assemble m rnd buf preamble now)
      ((s.withJobs rest).allocate.addJob (.exported s.packets.length))
  | assembleRequest (hjobs : s.jobs = .toPacket m ::ₘ rest) (hrun : s.running = true)
      (hpool : s.count < packetBufferPoolSize) (hconn : s.conns[m.connData]? = some conn)
      (htype : m.md.headerType ≠ .kpl) (hmad : s.assemble m conn rnd buf preamble now = .ok mad)
      (hexport : m.encryptedPktCh = false)
      (hrequest : isTransactionRequest s.device.deviceType mad.headerType = true) :
    Step s (.assemble m rnd buf preamble now)
      (((s.withJobs rest).allocate.addLocalTransaction
        { transactionId := mad.header.common.counter, connData := m.connData, mad := mad,
          basePacket := s.packets.length, responseMsgCh := m.responseMsgCh, phase := .added,
          ending := none }).addJob (.outgoing m.connData s.packets.length true))
  | assembleOther (hjobs : s.jobs = .toPacket m ::ₘ rest) (hrun : s.running = true)
      (hpool : s.count < packetBufferPoolSize) (hconn : s.conns[m.connData]? = some conn)
      (htype : m.md.headerType ≠ .kpl) (hmad : s.assemble m conn rnd buf preamble now = .ok mad)
      (hexport : m.encryptedPktCh = false)
      (hrequest : isTransactionRequest s.device.deviceType mad.headerType = false) :
    Step s (.assemble m rnd buf preamble now)
      ((s.withJobs rest).allocate.addJob (.outgoing m.connData s.packets.length false))
  -- `ForwardOutboundPacket`, again without the `IsClosed` test
  | forward (hjobs : s.jobs = .outgoing c p keep ::ₘ rest) (hconn : s.conns[c]? = some conn)
      (hroom : s.jobs.countP (·.inSendQueue c) < packetQueueSizePerConnection s.device.deviceType) :
    Step s (.forward c p keep) ((s.withJobs rest).addJob (.outbound c p keep))
  | forwardStopped (hjobs : s.jobs = .outgoing c p keep ::ₘ rest) (hconn : s.conns[c]? = some conn)
      (hstop : conn.stopSignal = true) :
    Step s (.forwardStopped c p) ((s.withJobs rest).release p)
  | destroyExported (hjobs : s.jobs = .exported p ::ₘ rest) :
    Step s (.destroyExported p) ((s.withJobs rest).release p)
  -- `LocalTransaction.Run`
  | start (htrx : s.locals[i]? = some t) (hphase : t.phase = .added) :
    Step s (.start i) (s.setLocal i { t with phase := .waiting })
  | handOnPacket (htrx : s.locals[i]? = some t) (hphase : t.phase = .gotPacket p c pkt) :
    Step s (.handOn i initTime) ((s.setLocal i { t with phase := .ended }).recvPacketToMsg
      { basePacket := p, content := pkt, connData := t.connData, prevAssemblerData := some (i, t.mad),
        feedbackMsgCh := t.responseMsgCh, decryptedMsgCh := false, initTime := initTime })
  | handOnExternal (htrx : s.locals[i]? = some t) (hphase : t.phase = .gotExternal ppd) :
    Step s (.handOn i initTime) ((s.setLocal i { t with phase := .ended }).complete t.responseMsgCh
      (.external i ppd))
  | stop {ending : Ending M} (htrx : s.locals[i]? = some t) (hphase : t.phase = .waiting)
      (hstop : s.mayStop t ending) :
    Step s (.stop i ending) (s.setLocal i { t with phase := .ended, ending := some ending })
  | destroy (htrx : s.locals[i]? = some t) (hphase : t.phase = .ended) :
    Step s (.destroy i) ((s.setLocal i { t with phase := .destroyed }).release t.basePacket)
  | closeChannels (htrx : s.locals[i]? = some t) (hphase : t.phase = .destroyed) :
    Step s (.closeChannels i) (s.setLocal i { t with phase := .closed })
  | remove (htrx : s.locals[i]? = some t) (hphase : t.phase = .closed) :
    Step s (.remove i)
      ((s.setLocal i { t with phase := .removed }).deleteLocalTransaction t.transactionId)
  | notify (htrx : s.locals[i]? = some t) (hphase : t.phase = .removed) :
    Step s (.notify i) ((s.setLocal i { t with phase := .done }).complete
      (if (t.ending.any Ending.isErr) then t.responseMsgCh else none) .error)
  -- `packetToMsgRoutine`
  | parseFailed (hjobs : s.jobs = .toMsg pd ::ₘ rest) (hrun : s.running = true)
      (hconn : s.conns[pd.connData]? = some conn)
      (hreceive : receive s.device (pd.current conn) nowMilli now = (r, .err e)) :
    Step s (.parse pd nowMilli now) (((((s.withJobs rest).learn pd.connData conn r).release
      pd.basePacket).complete pd.feedbackMsgCh .error).wakeHandler pd)
  | parseAccess (hjobs : s.jobs = .toMsg pd ::ₘ rest) (hrun : s.running = true)
      (hconn : s.conns[pd.connData]? = some conn)
      (hreceive : receive s.device (pd.current conn) nowMilli now = (some ppd, .ok ()))
      (hdecrypted : pd.decryptedMsgCh = true) :
    Step s (.parse pd nowMilli now) ((((s.withJobs rest).learn pd.connData conn (some ppd)).release
      pd.basePacket).wakeHandler pd)
  | parseResponse {caller : Nat} {prev : Nat × MsgAssemblerData C}
      (hjobs : s.jobs = .toMsg pd ::ₘ rest) (hrun : s.running = true)
      (hconn : s.conns[pd.connData]? = some conn)
      (hreceive : receive s.device (pd.current conn) nowMilli now = (some ppd, .ok ()))
      (hdecrypted : pd.decryptedMsgCh = false) (hfeedback : pd.feedbackMsgCh = some caller)
      (hprev : pd.prevAssemblerData = some prev) :
    Step s (.parse pd nowMilli now) ((((s.withJobs rest).learn pd.connData conn (some ppd)).release
      pd.basePacket).complete (some caller) (.response prev.1 ppd))
  | parseRequest (hjobs : s.jobs = .toMsg pd ::ₘ rest) (hrun : s.running = true)
      (hconn : s.conns[pd.connData]? = some conn)
      (hreceive : receive s.device (pd.current conn) nowMilli now = (some ppd, .ok ()))
      (hdecrypted : pd.decryptedMsgCh = false) (hfeedback : pd.feedbackMsgCh = none)
      (hrequest : isTransactionRequest s.device.deviceType ppd.headerType = true) :
    Step s (.parse pd nowMilli now)
      ((((s.withJobs rest).learn pd.connData conn (some ppd)).addRemoteTransaction
        { conn with data := ppd.connData }
        { transactionId := ppd.senderTrxId, connData := pd.connData, parserData := ppd,
          basePacket := pd.basePacket, phase := .waiting }).addJob (.parsed pd.basePacket))
  | parseOther (hjobs : s.jobs = .toMsg pd ::ₘ rest) (hrun : s.running = true)
      (hconn : s.conns[pd.connData]? = some conn)
      (hreceive : receive s.device (pd.current conn) nowMilli now = (some ppd, .ok ()))
      (hdecrypted : pd.decryptedMsgCh = false) (hfeedback : pd.feedbackMsgCh = none)
      (hrequest : isTransactionRequest s.device.deviceType ppd.headerType = false) :
    Step s (.parse pd nowMilli now)
      (((s.withJobs rest).learn pd.connData conn (some ppd)).release pd.basePacket)
  | parsePanic (hjobs : s.jobs = .toMsg pd ::ₘ rest) (hrun : s.running = true)
      (hconn : s.conns[pd.connData]? = some conn)
      (hreceive : receive s.device (pd.current conn) nowMilli now = (r, .panic)) :
    Step s (.parse pd nowMilli now) { s with crashed := true }
  | releaseParsed (hjobs : s.jobs = .parsed p ::ₘ rest) :
    Step s (.releaseParsed p) ((s.withJobs rest).release p)
  -- the handlers: they hold a transaction id of a message they got
  | findRemote {id : UInt64} (hconn : s.conns[c]? = some conn) (hfind : conn.findRemoteTransaction id = some i)
      (hcaller : m.responseMsgCh = none) :
    Step s (.findRemote c id m) (s.addJob (.answering i m))
  | answer (hjobs : s.jobs = .answering i m ::ₘ rest) (htrx : s.remotes[i]? = some rt)
      (hphase : rt.phase = .waiting) :
    Step s (.answer i m) ((s.withJobs rest).setRemote i { rt with phase := .gotMsg m })
  | answerClosed (hjobs : s.jobs = .answering i m ::ₘ rest) (htrx : s.remotes[i]? = some rt)
      (hclosed : rt.phase.channelClosed = true) :
    Step s (.answer i m) { s with crashed := true, badSend := true }
  | findExternal {id : UInt64} (hfind : s.findLocalTransaction id = some i) :
    Step s (.findExternal id ppd) (s.addJob (.redirecting i ppd))
  | redirect (hjobs : s.jobs = .redirecting i ppd ::ₘ rest) (htrx : s.locals[i]? = some t)
      (hphase : t.phase = .waiting) :
    Step s (.redirect i ppd) ((s.withJobs rest).setLocal i
      { t with phase := .gotExternal ppd, ending := some .external })
  | redirectClosed (hjobs : s.jobs = .redirecting i ppd ::ₘ rest) (htrx : s.locals[i]? = some t)
      (hclosed : t.phase.channelsClosed = true) :
    Step s (.redirect i ppd) { s with crashed := true, badSend := true }
  -- a send on the nil channel blocks for ever
  | redirectNil (hjobs : s.jobs = .redirecting i ppd ::ₘ rest) (htrx : s.locals[i]? = some t)
      (hphase : t.phase = .added) :
    Step s (.redirect i ppd) { s.withJobs rest with badSend := true }
  -- `RemoteTransaction.Run`; its timeout is possible at any time
  | handOnMsg (htrx : s.remotes[i]? = some rt) (hphase : rt.phase = .gotMsg m) :
    Step s (.handOnMsg i) ((s.setRemote i { rt with phase := .ended }).sendMsgToPacket
      { m with
        md := { m.md with prevParserData := some rt.parserData }
        connData := rt.connData
        encryptedPktCh := false })
  | stopRemote (htrx : s.remotes[i]? = some rt) (hphase : rt.phase = .waiting) :
    Step s (.stopRemote i) (s.setRemote i { rt with phase := .ended })
  | destroyRemote (htrx : s.remotes[i]? = some rt) (hphase : rt.phase = .ended) :
    Step s (.destroyRemote i) ((s.setRemote i { rt with phase := .destroyed }).release rt.basePacket)
  | closeRemote (htrx : s.remotes[i]? = some rt) (hphase : rt.phase = .destroyed) :
    Step s (.closeRemote i) (s.setRemote i { rt with phase := .closed })
  | removeRemote (htrx : s.remotes[i]? = some rt) (hphase : rt.phase = .closed)
      (hconn : s.conns[rt.connData]? = some conn) :
    Step s (.removeRemote i) ((s.setRemote i { rt with phase := .removed }).setConn rt.connData
      (conn.deleteRemoteTransaction rt.transactionId))
  -- the callers and `sendMessageRoutine`
  | post (hcaller : m.responseMsgCh = none ∨ m.responseMsgCh = some s.callers)
      (hroom : s.jobs.countP (·.inSendMsgCh) < sendQueueSize) :
    Step s (.post m) { s.addJob (.posted m) with callers := s.callers + 1 }
  | send (hcaller : m.responseMsgCh = none ∨ m.responseMsgCh = some s.callers)
      (hconn : s.conns[m.connData]? = some conn) :
    Step s (.send m) { s.sendMsgToPacket m with callers := s.callers + 1 }
  -- no remote address, or no connection to it
  | dropPosted (hjobs : s.jobs = .posted m ::ₘ rest) :
    Step s (.dropPosted m) (s.withJobs rest)
  | route (hjobs : s.jobs = .posted m ::ₘ rest) (hconn : s.conns[c]? = some conn)
      (hserver : s.device.deviceType = .server → c = m.connData ∧ m.answers s = none) :
    Step s (.route m c) ((s.withJobs rest).sendMsgToPacket { m with connData := c })
  | routeAnswer (hjobs : s.jobs = .posted m ::ₘ rest) (hserver : s.device.deviceType = .server)
      (hanswers : m.answers s = some i) :
    Step s (.routeAnswer m i) ((s.withJobs rest).addJob (.answering i m))
  -- everything else
  | connect {data : ConnectionData M} (hopen : data.closed = false) :
    Step s (.connect data) { s with conns := s.conns ++ [Conn.new data] }
  | configure {d : Device C} (hrole : d.deviceType = s.device.deviceType)
      (hcurve : d.staticEcdhCurve = s.device.staticEcdhCurve)
      (hgmsm : d.staticEcdhGmsm = s.device.staticEcdhGmsm) :
    Step s (.configure d) { s with device := d }
  | stopDevice : Step s .stopDevice { s with stopped := true }
  | quit (hstop : s.stopped = true) : Step s .quit { s with running := false }

/-- A run from a new device whose steps all meet a condition; a panic ends it. -/
abbrev Reached [DecidableEq M] (Cond : State C → Act C → Prop) (d : Device C) (s : State C) : Prop :=
  Runs.Reaches Step (fun s a => s.crashed = false ∧ Cond s a) (State.start d) s

/-! ## An arrival and a first request -/

/-- A condition on runs that asks nothing of a knock being sent nor of an answer being delivered: what it asks of
    the look-up, the hand-on and the parse is left open. -/
structure Undemanding (P : State C → Act C → Prop) : Prop where
  connect : ∀ s data, P s (.connect data)
  send : ∀ s m, P s (.send m)
  assemble : ∀ s m rnd buf preamble now, s.locals = [] → P s (.assemble m rnd buf preamble now)
  start : ∀ s i, P s (.start i)
  forward : ∀ s c p keep, (∀ conn, s.conns[c]? = some conn → conn.flushed = false) → P s (.forward c p keep)
  takeOutbound : ∀ s c p keep, P s (.takeOutbound c p keep)
  transmit : ∀ s c p keep, P s (.transmit c p keep)
  allocate : ∀ s, P s .allocate
  deliver : ∀ s p c pkt, (∀ conn, s.conns[c]? = some conn → conn.flushed = false) → P s (.deliver p c pkt)
  handPacket : ∀ s i c p pkt, P s (.handPacket i c p pkt)

/-- No condition at all is one of them. -/
theorem undemanding_true : Undemanding (fun (_ : State C) _ => True) := by
  constructor <;> intros <;> trivial

/-- A receive routine reads a packet and puts it into the queue of a connection. -/
theorem reached_inbound [DecidableEq M] {P : State C → Act C → Prop} {d : Device C} {s : State C}
    {conn : Conn M} {r : HeaderType × Nat} (hP : Undemanding P) (h : Reached P d s) (c : Nat) (pkt : Packet M)
    (hcrashed : s.crashed = false) (hpool : s.count < packetBufferPoolSize)
    (hlen : Packet.minimalLength ≤ pkt.len) (hcheck : recvPrecheck s.device.deviceType pkt = .ok r)
    (hconn : s.conns[c]? = some conn) (hopen : conn.flushed = false)
    (hroom : s.jobs.countP (·.inRecvQueue c) < packetQueueSizePerConnection s.device.deviceType) :
    Reached P d (s.allocate.addJob (.inbound c s.packets.length pkt)) := by
  have hreading := h.step ⟨hcrashed, hP.allocate _⟩ (Step.allocate hpool)
  have hflushed : ∀ conn', s.conns[c]? = some conn' → conn'.flushed = false := by
    intro conn' hconn'
    rw [hconn, Option.some.injEq] at hconn'
    rw [← hconn', hopen]
  refine hreading.step ⟨hcrashed, hP.deliver _ _ _ _ hflushed⟩ (Step.deliver rfl hlen hcheck hconn ?_)
  show (Job.reading s.packets.length ::ₘ s.jobs).countP _ < _
  rw [Multiset.countP_cons_of_neg]
  · exact hroom
  · exact nofun

/-- A device that has been handed its first request, over its first connection. -/
def State.asked (d : Device C) (data : ConnectionData M) (m : OutMsg C) : State C :=
  { State.start d with
    conns := [Conn.new data]
    jobs := {.toPacket m}
    callers := 1 }

/-- A device that has just assembled it. -/
def State.firstRequest (d : Device C) (data : ConnectionData M) (m : OutMsg C)
    (mad : MsgAssemblerData C) : State C :=
  { State.start d with
    count := 1
    packets := [.held]
    conns := [Conn.new data]
    jobs := {.outgoing 0 0 true}
    locals := [
      { transactionId := mad.header.common.counter, connData := 0, mad := mad, basePacket := 0,
        responseMsgCh := m.responseMsgCh, phase := .added, ending := none }]
    localTransactionMap := fun id => if id = mad.header.common.counter then some 0 else none
    callers := 1 }

section FirstRequest

variable [DecidableEq M] {P : State C → Act C → Prop} {d : Device C} {data : ConnectionData M}
  {m : OutMsg C} {rnd : Entropy C} {buf : Packet M} {preamble : UInt32} {now : Int64}
  {mad : MsgAssemblerData C}

/-- A caller asks for a message to be sent. -/
theorem step_asked (hconn : m.connData = 0) (hcaller : m.responseMsgCh = none ∨ m.responseMsgCh = some 0) :
    Step { State.start d with conns := [Conn.new data] } (.send m) (State.asked d data m) :=
  .send hcaller (by rw [hconn]; rfl)

/-- A worker assembles it, and it opens the first transaction. -/
theorem step_firstRequest (hconn : m.connData = 0) (hexport : m.encryptedPktCh = false)
    (htype : m.md.headerType ≠ .kpl)
    (hmad : (State.start d).assemble m (Conn.new data) rnd buf preamble now = .ok mad)
    (hrequest : isTransactionRequest d.deviceType mad.headerType = true) :
    Step (State.asked d data m) (.assemble m rnd buf preamble now) (State.firstRequest d data m mad) := by
  have hpool : (0 : UInt32) < packetBufferPoolSize := by decide
  have hassembled := Step.assembleRequest (s := State.asked d data m) (m := m)
    (Multiset.cons_zero _).symm rfl hpool
    (by rw [hconn]; rfl) htype hmad hexport hrequest
  rw [hconn] at hassembled
  exact hassembled

/-- So such a state is reached under every undemanding condition. -/
theorem reached_firstRequest (hP : Undemanding P) (hopen : data.closed = false) (hconn : m.connData = 0)
    (hcaller : m.responseMsgCh = none ∨ m.responseMsgCh = some 0) (hexport : m.encryptedPktCh = false)
    (htype : m.md.headerType ≠ .kpl)
    (hmad : (State.start d).assemble m (Conn.new data) rnd buf preamble now = .ok mad)
    (hrequest : isTransactionRequest d.deviceType mad.headerType = true) :
    Reached P d (State.firstRequest d data m mad) := by
  have hstart : Reached P d (State.start d) := .refl
  have hconnected := hstart.step ⟨rfl, hP.connect _ _⟩ (Step.connect hopen)
  have hsent := hconnected.step ⟨rfl, hP.send _ _⟩ (step_asked hconn hcaller)
  exact hsent.step ⟨rfl, hP.assemble _ _ _ _ _ _ rfl⟩ (step_firstRequest hconn hexport htype hmad hrequest)

end FirstRequest

/-- A knock of the sample agent, for whose answer the first caller waits. -/
def firstKnock : OutMsg sampleLibs.crypto where
  md := sampleMessage .knk none
  connData := 0
  responseMsgCh := some 0
  encryptedPktCh := false

/-- A connection to an agent's address. -/
def sampleConnection : ConnectionData BigEndian.Bytes :=
  ConnectionData.new sampleLibs.crypto "10.0.0.1:62206"

/-- The sample agent sends its knock. -/
theorem reached_firstKnock {P : State sampleLibs.crypto → Act sampleLibs.crypto → Prop}
    (hP : Undemanding P) :
    ∃ mad, inBlankBuffer (sampleDevice .agent 1) (sampleMessage .knk none) = .ok mad ∧
      mad.header.common.counter = 7 ∧
      Reached P (sampleDevice .agent 1)
        (State.firstRequest (sampleDevice .agent 1) sampleConnection firstKnock mad) := by
  have hread : ((inBlankBuffer (sampleDevice .agent 1) (sampleMessage .knk none)).bind fun mad =>
      .ok (mad.header.common.counter, isTransactionRequest .agent mad.headerType)) = .ok (7, true) := by
    decide +kernel
  obtain ⟨mad, hmad, hread⟩ := Go.bind_eq_ok.mp hread
  obtain ⟨hcounter, hrequest⟩ := Prod.mk.inj (Go.ok.inj hread)
  exact ⟨mad, hmad, hcounter, reached_firstRequest hP rfl rfl (.inr rfl) rfl nofun hmad hrequest⟩

/-! ## A knock and its answer -/

/-- The sample agent with one peer, the server with key 2. -/
def pairedAgent : Device sampleLibs.crypto :=
  { sampleDevice .agent 1 with
    peerMap := fun pk =>
      if pk = (sampleEcdh .sm2 2).publicKey then (sampleDevice .agent 1).peerMap pk else none }

/-- The server's answer to the knock it parsed, before its encryption. -/
def serverAnswer (prev : PacketParserData sampleLibs.crypto) : MsgAssemblerData sampleLibs.crypto :=
  createMsgAssemblerData prev.device (sampleMessage .ack (some prev)) sampleEntropy
    (Packet.ofBytes blankBuffer packetBufferSize) 1000000000000

/-- The answer as the agent parses it, as the continuation of its knock. -/
def answerData (mad sent : MsgAssemblerData sampleLibs.crypto) : PacketData sampleLibs.crypto :=
  PacketData.ofContent sent.content [] sampleConnection (some mad) none 1000000000000

/-- The packet that goes over the wire. -/
def answerPacket (sent : MsgAssemblerData sampleLibs.crypto) : Packet BigEndian.Bytes :=
  Packet.ofBytes (sent.content ++ []) sent.content.length

/-- The agent's knock, what the server made of it, its answer, and what the agent makes of the answer. -/
def knockAnswered : Go (MsgAssemblerData sampleLibs.crypto × PacketParserData sampleLibs.crypto ×
    MsgAssemblerData sampleLibs.crypto × PacketParserData sampleLibs.crypto) :=
  (inBlankBuffer pairedAgent (sampleMessage .knk none)).bind fun mad =>
  knockParsed.bind fun prev =>
  ((serverAnswer prev).encrypt 5).bind fun sent =>
  match receive pairedAgent (answerData mad sent) 1000000 1000000000000 with
  | (some ppd, .ok ()) => .ok (mad, prev, sent, ppd)
  | _ => .panic

/-- A knock, what the server made of it, its answer, and what the agent makes of the answer. -/
structure KnockAnswered (mad : MsgAssemblerData sampleLibs.crypto) (prev : PacketParserData sampleLibs.crypto)
    (sent : MsgAssemblerData sampleLibs.crypto) (ppd : PacketParserData sampleLibs.crypto) : Prop where
  assembled : inBlankBuffer pairedAgent (sampleMessage .knk none) = .ok mad
  answered : (serverAnswer prev).encrypt 5 = .ok sent
  received : receive pairedAgent (answerData mad sent) 1000000 1000000000000 = (some ppd, .ok ())
  headerType : mad.headerType = .knk
  transactionId : mad.header.common.counter = 7
  remotePubKey : mad.remotePubKey = some (sampleEcdh .sm2 2).publicKey
  len : Packet.minimalLength ≤ (answerPacket sent).len
  precheck : recvPrecheck .agent (answerPacket sent) = .ok (.ack, 20)
  packetType : packetType (answerPacket sent) = .ack
  counter : (answerPacket sent).common.counter = mad.header.common.counter
  cipherScheme : (serverAnswer prev).cipherScheme = mad.cipherScheme
  chainKey : (serverAnswer prev).chainKey = mad.chainKey
  answersTo : (serverAnswer prev).remotePubKey =
    some (pairedAgent.getEcdhByCipherScheme mad.cipherScheme).publicKey
  author : (serverAnswer prev).deviceEcdh.publicKey = (sampleEcdh .sm2 2).publicKey

/-- There is a knock, parsed by the server, whose answer the agent's parser takes. -/
theorem knock_answered : ∃ mad prev sent ppd, KnockAnswered mad prev sent ppd := by
  have hread : (knockAnswered.bind fun r => .ok (decide (
      r.1.headerType = .knk ∧ r.1.header.common.counter = 7 ∧ r.1.remotePubKey = some (sampleEcdh .sm2 2).publicKey ∧
      Packet.minimalLength ≤ (answerPacket r.2.2.1).len ∧
      recvPrecheck .agent (answerPacket r.2.2.1) = .ok (.ack, 20) ∧
      packetType (answerPacket r.2.2.1) = .ack ∧
      (answerPacket r.2.2.1).common.counter = r.1.header.common.counter ∧
      (serverAnswer r.2.1).cipherScheme = r.1.cipherScheme ∧
      (serverAnswer r.2.1).chainKey = r.1.chainKey ∧
      (serverAnswer r.2.1).remotePubKey =
        some (pairedAgent.getEcdhByCipherScheme r.1.cipherScheme).publicKey ∧
      (serverAnswer r.2.1).deviceEcdh.publicKey = (sampleEcdh .sm2 2).publicKey))) = .ok true := by
    decide +kernel
  obtain ⟨⟨mad, prev, sent, ppd⟩, hrun, hread⟩ := Go.bind_eq_ok.mp hread
  simp only [Go.ok.injEq, decide_eq_true_eq] at hread
  obtain ⟨htype, hid, hpk, hlen, hcheck, hpacket, hcounter, hscheme, hkey, hto, hauthor⟩ := hread
  obtain ⟨mad', hmad, hrun⟩ := Go.bind_eq_ok.mp hrun
  obtain ⟨prev', -, hrun⟩ := Go.bind_eq_ok.mp hrun
  obtain ⟨sent', hsent, hrun⟩ := Go.bind_eq_ok.mp hrun
  split at hrun
  · rename_i ppd' hreceive
    simp only [Go.ok.injEq, Prod.mk.injEq] at hrun
    obtain ⟨rfl, rfl, rfl, rfl⟩ := hrun
    exact ⟨_, _, _, _, hmad, hsent, hreceive, htype, hid, hpk, hlen, hcheck, hpacket, hcounter, hscheme, hkey,
      hto, hauthor⟩
  · cases hrun

section KnockRun

variable {P : State sampleLibs.crypto → Act sampleLibs.crypto → Prop} {mad : MsgAssemblerData sampleLibs.crypto}
  {pkt : Packet BigEndian.Bytes}

/-- The knock of the paired agent, in its transaction. -/
def LocalTransaction.ofKnock (mad : MsgAssemblerData sampleLibs.crypto) (phase : LocalPhase sampleLibs.crypto)
    (ending : Option (Ending BigEndian.Bytes)) : LocalTransaction sampleLibs.crypto where
  transactionId := mad.header.common.counter
  connData := 0
  mad := mad
  basePacket := 0
  responseMsgCh := some 0
  phase := phase
  ending := ending

/-- The paired agent, once its knock is sent and `Run` waits for the answer. -/
def State.knockWaiting (mad : MsgAssemblerData sampleLibs.crypto) : State sampleLibs.crypto :=
  { State.firstRequest pairedAgent sampleConnection firstKnock mad with
    jobs := 0
    locals := [.ofKnock mad .waiting none] }

/-- A packet has arrived on the connection of the knock. -/
def State.answerArrived (mad : MsgAssemblerData sampleLibs.crypto) (pkt : Packet BigEndian.Bytes) :
    State sampleLibs.crypto :=
  (State.knockWaiting mad).allocate.addJob (.inbound 0 1 pkt)

/-- The dispatcher has handed it to `Run`. -/
def State.answerHanded (mad : MsgAssemblerData sampleLibs.crypto) (pkt : Packet BigEndian.Bytes) :
    State sampleLibs.crypto :=
  { State.knockWaiting mad with
    count := 2
    packets := [.held, .held]
    locals := [.ofKnock mad (.gotPacket 1 0 pkt) (some (.packet 0 pkt))] }

/-- What `Run` makes of it for the workers. -/
def InPacket.ofAnswer (mad : MsgAssemblerData sampleLibs.crypto) (pkt : Packet BigEndian.Bytes) :
    InPacket sampleLibs.crypto where
  basePacket := 1
  content := pkt
  connData := 0
  prevAssemblerData := some (0, mad)
  feedbackMsgCh := some 0
  decryptedMsgCh := false
  initTime := 1000000000000

/-- `Run` has handed it on to the workers. -/
def State.answerQueued (mad : MsgAssemblerData sampleLibs.crypto) (pkt : Packet BigEndian.Bytes) :
    State sampleLibs.crypto :=
  { State.answerHanded mad pkt with
    jobs := {.toMsg (.ofAnswer mad pkt)}
    locals := [.ofKnock mad .ended (some (.packet 0 pkt))] }

/-- A worker has parsed it: its buffer has gone back, and the caller has the answer. -/
def State.answerParsed (mad : MsgAssemblerData sampleLibs.crypto) (pkt : Packet BigEndian.Bytes)
    (ppd : PacketParserData sampleLibs.crypto) : State sampleLibs.crypto :=
  { State.answerQueued mad pkt with
    device := ppd.device
    count := 2 - 1
    packets := [.held, .returned]
    puts := [1]
    conns := [{ Conn.new sampleConnection with data := ppd.connData }]
    jobs := 0
    completions := [(0, .response 0 ppd)] }

/-- The knock has been sent and waits for its answer. -/
theorem reached_knockWaiting (hP : Undemanding P)
    (hmad : inBlankBuffer pairedAgent (sampleMessage .knk none) = .ok mad) (htype : mad.headerType = .knk) :
    Reached P pairedAgent (State.knockWaiting mad) := by
  have hassembled : Reached P pairedAgent (State.firstRequest pairedAgent sampleConnection firstKnock mad) :=
    reached_firstRequest hP rfl rfl (.inr rfl) rfl nofun hmad (by rw [htype]; rfl)
  have hwaiting := hassembled.step (e := .start 0) ⟨rfl, hP.start _ _⟩
    (.start (t := .ofKnock mad .added none) rfl rfl)
  have hopen : ∀ conn, [Conn.new sampleConnection][0]? = some conn → conn.flushed = false := by
    rintro conn hconn
    cases hconn
    rfl
  have hroom : ({.outgoing 0 0 true} : Multiset (Job sampleLibs.crypto)).countP (·.inSendQueue 0) <
      packetQueueSizePerConnection .agent := by
    decide
  have hforwarded := hwaiting.step (e := .forward 0 0 true) ⟨rfl, hP.forward _ _ _ _ hopen⟩
    (.forward (Multiset.cons_zero _).symm rfl hroom)
  have hidle : ({.outbound 0 0 true} : Multiset (Job sampleLibs.crypto)).countP (·.busy 0) = 0 := rfl
  have htaken := hforwarded.step (e := .takeOutbound 0 0 true) ⟨rfl, hP.takeOutbound _ _ _ _⟩
    (.takeOutbound (Multiset.cons_zero _).symm rfl rfl hidle)
  exact htaken.step (e := .transmit 0 0 true) ⟨rfl, hP.transmit _ _ _ _⟩
    (.transmitKept (Multiset.cons_zero _).symm)

/-- The transaction is found by the knock's counter. -/
theorem State.knockWaiting_find (mad : MsgAssemblerData sampleLibs.crypto) :
    (State.knockWaiting mad).findLocalTransaction mad.header.common.counter = some 0 :=
  if_pos rfl

/-- And so it is by the counter of the answer. -/
theorem State.answerArrived_find (h : pkt.common.counter = mad.header.common.counter) :
    (State.answerArrived mad pkt).findLocalTransaction pkt.common.counter = some 0 :=
  if_pos h

/-- An answer to the knock arrives, is handed to `Run`, and from there to the workers. -/
theorem reached_answerQueued (hP : Undemanding P) (h : Reached P pairedAgent (State.knockWaiting mad))
    (hlen : Packet.minimalLength ≤ pkt.len) (hcheck : recvPrecheck .agent pkt = .ok (.ack, 20))
    (htype : packetType pkt = .ack) (hcounter : pkt.common.counter = mad.header.common.counter)
    (htake : P (State.answerArrived mad pkt) (.takeInbound 0 1 pkt 0))
    (hhandOn : P (State.answerHanded mad pkt) (.handOn 0 1000000000000)) :
    Reached P pairedAgent (State.answerQueued mad pkt) := by
  have hinbound : Reached P pairedAgent (State.answerArrived mad pkt) :=
    reached_inbound hP h 0 pkt rfl (show (1 : UInt32) < packetBufferPoolSize by decide) hlen hcheck rfl rfl
      (show 0 < packetQueueSizePerConnection .agent by decide)
  have hjobs : (State.answerArrived mad pkt).jobs = .inbound 0 1 pkt ::ₘ 0 := rfl
  have hidle : (State.answerArrived mad pkt).jobs.countP (·.busy 0) = 0 := rfl
  have htaken := hinbound.step ⟨rfl, htake⟩ (.dispatch (i := 0) hjobs rfl rfl hidle (by rw [htype]; nofun)
    (by rw [htype]; rfl) (State.answerArrived_find hcounter))
  have hhanded : Reached P pairedAgent (State.answerHanded mad pkt) :=
    htaken.step (e := .handPacket 0 0 1 pkt) ⟨rfl, hP.handPacket _ _ _ _ _⟩
      (.handPacket (t := .ofKnock mad .waiting none) rfl rfl rfl)
  exact hhanded.step (e := .handOn 0 1000000000000) ⟨rfl, hhandOn⟩
    (.handOnPacket (t := .ofKnock mad (.gotPacket 1 0 pkt) (some (.packet 0 pkt))) rfl rfl)

/-- The answer is parsed. -/
theorem reached_answerParsed {sent : MsgAssemblerData sampleLibs.crypto} {ppd : PacketParserData sampleLibs.crypto}
    (h : Reached P pairedAgent (State.answerQueued mad (answerPacket sent)))
    (hreceived : receive pairedAgent (answerData mad sent) 1000000 1000000000000 = (some ppd, .ok ()))
    (hparse : P (State.answerQueued mad (answerPacket sent))
      (.parse (.ofAnswer mad (answerPacket sent)) 1000000 1000000000000)) :
    Reached P pairedAgent (State.answerParsed mad (answerPacket sent) ppd) := by
  have hjobs : (State.answerQueued mad (answerPacket sent)).jobs =
      .toMsg (.ofAnswer mad (answerPacket sent)) ::ₘ 0 := rfl
  have hparsed := Step.parseResponse hjobs rfl rfl hreceived rfl rfl rfl
  exact h.step ⟨rfl, hparse⟩ hparsed

end KnockRun

/-! ## A forged answer -/

/-- Zero bytes behind a header that says knock answer, counter 7. -/
def forgedAnswer : Packet BigEndian.Bytes :=
  Packet.ofBytes ([0, 0, 0, 0, 0, 2, 0, 0, 0, 0, 0, 0, 0, 0, 0, 0, 0, 0, 0, 0, 0, 0, 0, 7]
    ++ List.replicate 216 0) 240

/-- Nobody has sealed it, and it passes the check of the header all the same. -/
theorem forgedAnswer_checked : recvPrecheck .agent forgedAnswer = .ok (.ack, 0) := by
  decide

/-- The sample agent with its knock pending, once a packet from another connection has been found to be for
    the knock. -/
def State.answerFound (mad : MsgAssemblerData sampleLibs.crypto) (pkt : Packet BigEndian.Bytes) :
    State sampleLibs.crypto :=
  { State.firstRequest (sampleDevice .agent 1) sampleConnection firstKnock mad with
    count := 2
    packets := [.held, .held]
    conns := [Conn.new sampleConnection, Conn.new sampleConnection]
    jobs := {.dispatching 1 1 pkt 0, .outgoing 0 0 true}
    locals := [
      { transactionId := mad.header.common.counter, connData := 0, mad := mad, basePacket := 0,
        responseMsgCh := some 0, phase := .waiting, ending := none }] }

/-- Any packet that looks like an answer and has the counter finds the transaction. -/
theorem reached_answerFound (pkt : Packet BigEndian.Bytes) {r : HeaderType × Nat}
    (hlen : Packet.minimalLength ≤ pkt.len) (hcheck : recvPrecheck .agent pkt = .ok r)
    (hresponse : isTransactionResponse .agent (packetType pkt) = true) (hanswers : pkt.common.counter = 7) :
    ∃ mad, inBlankBuffer (sampleDevice .agent 1) (sampleMessage .knk none) = .ok mad ∧
      Reached (fun _ _ => True) (sampleDevice .agent 1) (State.answerFound mad pkt) := by
  obtain ⟨mad, hmad, hcounter, hsent⟩ := reached_firstKnock undemanding_true
  have hconnected := hsent.step (e := .connect sampleConnection) ⟨rfl, trivial⟩ (.connect rfl)
  have hwaiting := hconnected.step (e := .start 0) ⟨rfl, trivial⟩ (.start rfl rfl)
  have hroom : ({.outgoing 0 0 true} : Multiset (Job sampleLibs.crypto)).countP (·.inRecvQueue 1) <
      packetQueueSizePerConnection .agent := by
    decide
  have hinbound := reached_inbound undemanding_true hwaiting 1 pkt rfl
    (show (1 : UInt32) < packetBufferPoolSize by decide) hlen hcheck rfl rfl hroom
  have hidle : ({.inbound 1 1 pkt, .outgoing 0 0 true} :
      Multiset (Job sampleLibs.crypto)).countP (·.busy 1) = 0 := rfl
  have htype : packetType pkt ≠ .kpl := by
    intro hkpl
    rw [hkpl] at hresponse
    cases hresponse
  refine ⟨mad, hmad, hinbound.step (e := .takeInbound 1 1 pkt 0) ⟨rfl, trivial⟩
    (.dispatch (i := 0) rfl rfl rfl hidle htype hresponse ?_)⟩
  show (if pkt.common.counter = mad.header.common.counter then some 0 else none) = some 0
  exact if_pos (hanswers.trans hcounter.symm)

/-- The forged one does. -/
theorem reached_forgedFound :
    ∃ mad, Reached (fun _ _ => True) (sampleDevice .agent 1) (State.answerFound mad forgedAnswer) := by
  obtain ⟨mad, -, hfound⟩ := reached_answerFound forgedAnswer (by decide) forgedAnswer_checked
    (by decide) (by decide)
  exact ⟨mad, hfound⟩

end OpenNHP.Core.Routines
