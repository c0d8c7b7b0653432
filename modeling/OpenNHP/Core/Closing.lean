/-
  The calls on a connection (`nhp/core/udpconn.go`), one operation at a time.

  `Close` tests the closed flag, closes `StopSignal`, stores the flag, flushes the queues and then closes four
  channels and clears their fields, while the connection routine and any number of other calls run.

  1. Every read or write of a field and every operation on a channel is a step of its own (`Op`), and the steps of
     the calls come in any order (`Step`).
  2. A call holds what it has read of a field in the meantime, so that a `select` may still meet a channel that
     the field no longer names.
  3. A close of a closed channel or of `nil` and a send on a closed channel are faults: the process is gone, and
     the state is the last one.
-/
import Mathlib.Data.Multiset.AddSub
import Mathlib.Logic.Function.Basic

namespace OpenNHP.Core.Closing

/-! ## Calls -/

/-- The channels that `Close` closes last, in its order. -/
inductive Chan
  | send
  | recv
  | block
  | setTimeout
  deriving DecidableEq, Repr

/-- The order in which `Close` comes to the four channels. -/
def Chan.index : Chan → Nat
  | .send => 0
  | .recv => 1
  | .block => 2
  | .setTimeout => 3

/-- There are four. -/
theorem Chan.index_lt (c : Chan) : c.index < 4 := by
  cases c <;> decide

/-- And each has a place of its own. -/
theorem Chan.index_inj {c d : Chan} (h : c.index = d.index) : c = d := by
  cases c <;> cases d <;> first | rfl | cases h

/-- The direction of a queue: `SendQueue` or `RecvQueue`. -/
inductive Direction
  | outbound
  | inbound
  deriving DecidableEq, Repr

/-- The queue of a direction. -/
def Direction.chan : Direction → Chan
  | .outbound => .send
  | .inbound => .recv

/-- Where a call of `Close` is: the operation it takes next. -/
inductive ClosePoint
  /-- read the closed flag -/
  | test
  /-- close `StopSignal` -/
  | stop
  /-- store the closed flag -/
  | store
  | flush
  /-- close a channel -/
  | close (c : Chan)
  /-- set its field to nil -/
  | clear (c : Chan)
  /-- `Wait`, which touches nothing of this any more -/
  | wait
  /-- the connection was closed at the test -/
  | returned
  deriving DecidableEq, Repr

/-- How many operations of `Close` are behind it; one that has not passed its test, or is back, counts as none. -/
def ClosePoint.rank : ClosePoint → Nat
  | .test | .returned => 0
  | .stop => 1
  | .store => 2
  | .flush => 3
  | .close c => 4 + c.index
  | .clear c => 8 + c.index
  | .wait => 12

/-- Behind the `close` of a channel. -/
def Chan.afterClose : Chan → ClosePoint
  | .send => .close .recv
  | .recv => .close .block
  | .block => .close .setTimeout
  | .setTimeout => .clear .send

/-- Behind the store of a nil. -/
def Chan.afterClear : Chan → ClosePoint
  | .send => .clear .recv
  | .recv => .clear .block
  | .block => .clear .setTimeout
  | .setTimeout => .wait

/-- The next operation is one further. -/
theorem Chan.rank_afterClose (c : Chan) : c.afterClose.rank = (ClosePoint.close c).rank + 1 := by
  cases c <;> rfl

/-- It is so behind a clear as well. -/
theorem Chan.rank_afterClear (c : Chan) : c.afterClear.rank = (ClosePoint.clear c).rank + 1 := by
  cases c <;> rfl

section

variable {P : Type}

/-- What sends on a channel of the connection. -/
inductive Sender (P : Type)
  /-- `ForwardOutboundPacket` or `ForwardInboundPacket` -/
  | forward (dir : Direction) (pkt : P)
  /-- `SendBlockSignal` -/
  | blockSignal
  /-- `SetTimeout` -/
  | setTimeout (ms : Int)

/-- The channel that a call sends on. -/
def Sender.chan : Sender P → Chan
  | .forward dir _ => dir.chan
  | .blockSignal => .block
  | .setTimeout _ => .setTimeout

/-- `SetTimeout` does not look at the closed flag. -/
def Sender.checks : Sender P → Bool
  | .setTimeout _ => false
  | _ => true

/-- Where a sender is. -/
inductive SendPoint
  /-- read the closed flag; of `SetTimeout`: store the timeout -/
  | first
  /-- read the channel's field -/
  | load
  /-- send, with what the field held: the channel or nil -/
  | send (chan : Bool)
  | done
  deriving DecidableEq, Repr

/-- A running or returned call on the connection. -/
inductive Call (P : Type)
  | close (p : ClosePoint)
  | send (k : Sender P) (p : SendPoint)

/-- The connection routine: at the head of its loop, in its `select` with the channels it found in the
    fields, or behind its return. -/
inductive Routine
  | loop
  | select (chans : Chan → Bool)
  | returned

/-- What makes the process panic. -/
inductive Fault
  | closeOfClosed
  | closeOfNil
  | sendOnClosed
  deriving DecidableEq, Repr

/-- The connection, the calls on it, and what became of the packets offered to it. -/
structure State (P : Type) where
  closed : Bool
  /-- `StopSignal` is closed -/
  stopClosed : Bool
  chanClosed : Chan → Bool
  /-- the field is not nil -/
  field : Chan → Bool
  queue : Direction → List P
  timeoutMs : Int
  calls : Multiset (Call P)
  routine : Routine
  offered : Multiset P
  delivered : Multiset P
  released : Multiset P
  /-- the panic that has ended the program -/
  fault : Option Fault

/-- A new connection. -/
def State.new (timeoutMs : Int) : State P where
  closed := false
  stopClosed := false
  chanClosed _ := false
  field _ := true
  queue _ := []
  timeoutMs := timeoutMs
  calls := 0
  routine := .loop
  offered := 0
  delivered := 0
  released := 0
  fault := none

/-- The packet a sender brings. -/
def Sender.packet : Sender P → Multiset P
  | .forward _ pkt => {pkt}
  | _ => 0

/-- The packet a call still holds. -/
def Call.packet : Call P → Multiset P
  | .send k p => if p = .done then 0 else k.packet
  | .close _ => 0

/-! ## Operations -/

/-- The operations, as they are seen in a run. -/
inductive Event (P : Type)
  | callClose
  | callSender (k : Sender P)
  | test
  | closeStop
  | store
  | flush
  | flushed
  | close (c : Chan)
  | clear (c : Chan)
  | first (k : Sender P)
  | load (k : Sender P)
  | send (k : Sender P)
  | stopped (k : Sender P)
  | look
  | receive (c : Chan)
  | leave

namespace State

variable (s : State P)

/-- The routine returns and calls `Close`. -/
def leave (rest : Multiset (Call P)) : State P :=
  { s with routine := .returned, calls := .close .test ::ₘ rest }

/-- The routine behind a signal on `SetTimeoutSignal`. -/
def resume (rest : Multiset (Call P)) : State P :=
  if s.timeoutMs ≤ 0 then s.leave rest else { s with routine := .loop, calls := rest }

end State

/-- The operations, each with the choice its `select` makes. -/
inductive Op (cap : Nat) (s : State P) : Event P → State P → Prop
  | callClose : Op cap s .callClose { s with calls := .close .test ::ₘ s.calls }
  | callSender (k : Sender P) :
    Op cap s (.callSender k) { s with calls := .send k .first ::ₘ s.calls, offered := k.packet + s.offered }
  -- `Close`
  | testClosed {rest : Multiset (Call P)} (hcalls : s.calls = .close .test ::ₘ rest)
    (hclosed : s.closed = true) :
    Op cap s .test { s with calls := .close .returned ::ₘ rest }
  | testOpen {rest : Multiset (Call P)} (hcalls : s.calls = .close .test ::ₘ rest)
    (hclosed : s.closed = false) :
    Op cap s .test { s with calls := .close .stop ::ₘ rest }
  | closeStop {rest : Multiset (Call P)} (hcalls : s.calls = .close .stop ::ₘ rest)
    (hopen : s.stopClosed = false) :
    Op cap s .closeStop { s with stopClosed := true, calls := .close .store ::ₘ rest }
  | closeStopTwice {rest : Multiset (Call P)} (hcalls : s.calls = .close .stop ::ₘ rest)
    (hclosed : s.stopClosed = true) : Op cap s .closeStop { s with fault := some .closeOfClosed }
  | store {rest : Multiset (Call P)} (hcalls : s.calls = .close .store ::ₘ rest) :
    Op cap s .store { s with closed := true, calls := .close .flush ::ₘ rest }
  | flushPacket {rest : Multiset (Call P)} (hcalls : s.calls = .close .flush ::ₘ rest) (dir : Direction)
    {pkt : P}
    {pkts : List P} (hfield : s.field dir.chan = true) (hqueue : s.queue dir = pkt :: pkts) :
    Op cap s .flush { s with queue := Function.update s.queue dir pkts, released := pkt ::ₘ s.released }
  -- a receive from a closed channel gives nil, and `ReleasePoolPacket` ignores it
  | flushClosed {rest : Multiset (Call P)} (hcalls : s.calls = .close .flush ::ₘ rest) (c : Chan)
    (hc : c ≠ .setTimeout) (hfield : s.field c = true) (hclosed : s.chanClosed c = true)
    (hqueue : ∀ dir : Direction, dir.chan = c → s.queue dir = []) : Op cap s .flush s
  -- the default case: nothing to receive, for nobody waits to send on `BlockSignal`
  | flushed {rest : Multiset (Call P)} (hcalls : s.calls = .close .flush ::ₘ rest)
    (hqueue : ∀ dir : Direction, s.field dir.chan = true → s.queue dir = [])
    (hopen : ∀ c, c ≠ .setTimeout → s.field c = true → s.chanClosed c = false) :
    Op cap s .flushed { s with calls := .close (.close .send) ::ₘ rest }
  | close {rest : Multiset (Call P)} {c : Chan} (hcalls : s.calls = .close (.close c) ::ₘ rest)
    (hfield : s.field c = true) (hopen : s.chanClosed c = false) :
    Op cap s (.close c)
      { s with chanClosed := Function.update s.chanClosed c true, calls := .close c.afterClose ::ₘ rest }
  | closeTwice {rest : Multiset (Call P)} {c : Chan} (hcalls : s.calls = .close (.close c) ::ₘ rest)
    (hfield : s.field c = true) (hclosed : s.chanClosed c = true) :
    Op cap s (.close c) { s with fault := some .closeOfClosed }
  | closeNil {rest : Multiset (Call P)} {c : Chan} (hcalls : s.calls = .close (.close c) ::ₘ rest)
    (hfield : s.field c = false) : Op cap s (.close c) { s with fault := some .closeOfNil }
  | clear {rest : Multiset (Call P)} {c : Chan} (hcalls : s.calls = .close (.clear c) ::ₘ rest) :
    Op cap s (.clear c) { s with
      field := Function.update s.field c false
      calls := .close c.afterClear ::ₘ rest }
  -- senders
  | checkClosed {rest : Multiset (Call P)} {k : Sender P} (hcalls : s.calls = .send k .first ::ₘ rest)
    (hk : k.checks = true) (hclosed : s.closed = true) :
    Op cap s (.first k) { s with calls := .send k .done ::ₘ rest, released := k.packet + s.released }
  | checkOpen {rest : Multiset (Call P)} {k : Sender P} (hcalls : s.calls = .send k .first ::ₘ rest)
    (hk : k.checks = true) (hclosed : s.closed = false) :
    Op cap s (.first k) { s with calls := .send k .load ::ₘ rest }
  | storeTimeout {rest : Multiset (Call P)} {ms : Int}
    (hcalls : s.calls = .send (.setTimeout ms) .first ::ₘ rest) :
    Op cap s (.first (.setTimeout ms))
      { s with timeoutMs := ms, calls := .send (.setTimeout ms) .load ::ₘ rest }
  | load {rest : Multiset (Call P)} {k : Sender P} (hcalls : s.calls = .send k .load ::ₘ rest) :
    Op cap s (.load k) { s with calls := .send k (.send (s.field k.chan)) ::ₘ rest }
  | push {rest : Multiset (Call P)} {dir : Direction} {pkt : P}
    (hcalls : s.calls = .send (.forward dir pkt) (.send true) ::ₘ rest)
    (hopen : s.chanClosed dir.chan = false)
    (hroom : (s.queue dir).length < cap) :
    Op cap s (.send (.forward dir pkt))
      { s with queue := Function.update s.queue dir (s.queue dir ++ [pkt])
               calls := .send (.forward dir pkt) .done ::ₘ rest }
  | stopped {rest : Multiset (Call P)} {dir : Direction} {pkt : P} {chan : Bool}
    (hcalls : s.calls = .send (.forward dir pkt) (.send chan) ::ₘ rest) (hstop : s.stopClosed = true) :
    Op cap s (.stopped (.forward dir pkt))
      { s with calls := .send (.forward dir pkt) .done ::ₘ rest, released := pkt ::ₘ s.released }
  -- a signal passes when the routine waits for it
  | block {rest : Multiset (Call P)} {chans : Chan → Bool}
    (hcalls : s.calls = .send .blockSignal (.send true) ::ₘ rest) (hopen : s.chanClosed .block = false)
    (hroutine : s.routine = .select chans) (hchan : chans .block = true) :
    Op cap s (.send .blockSignal) (s.leave (.send .blockSignal .done ::ₘ rest))
  | unheard {rest : Multiset (Call P)} {chan : Bool}
    (hcalls : s.calls = .send .blockSignal (.send chan) ::ₘ rest)
    (hopen : chan = true → s.chanClosed .block = false) :
    Op cap s (.stopped .blockSignal) { s with calls := .send .blockSignal .done ::ₘ rest }
  | setTimeout {rest : Multiset (Call P)} {ms : Int} {chans : Chan → Bool}
    (hcalls : s.calls = .send (.setTimeout ms) (.send true) ::ₘ rest)
    (hopen : s.chanClosed .setTimeout = false)
    (hroutine : s.routine = .select chans) (hchan : chans .setTimeout = true) :
    Op cap s (.send (.setTimeout ms)) (s.resume (.send (.setTimeout ms) .done ::ₘ rest))
  | sendClosed {rest : Multiset (Call P)} {k : Sender P} (hcalls : s.calls = .send k (.send true) ::ₘ rest)
    (hclosed : s.chanClosed k.chan = true) : Op cap s (.send k) { s with fault := some .sendOnClosed }
  -- the connection routine
  | look (hroutine : s.routine = .loop) : Op cap s .look { s with routine := .select s.field }
  | receive {chans : Chan → Bool} {dir : Direction} {pkt : P} {pkts : List P}
    (hroutine : s.routine = .select chans)
    (hchan : chans dir.chan = true) (hqueue : s.queue dir = pkt :: pkts) :
    Op cap s (.receive dir.chan)
      { s with queue := Function.update s.queue dir pkts, routine := .loop, delivered := pkt ::ₘ s.delivered }
  | receiveEnd {chans : Chan → Bool} {dir : Direction} (hroutine : s.routine = .select chans)
    (hchan : chans dir.chan = true) (hqueue : s.queue dir = []) (hclosed : s.chanClosed dir.chan = true) :
    Op cap s (.receive dir.chan) (s.leave s.calls)
  | receiveBlock {chans : Chan → Bool} (hroutine : s.routine = .select chans) (hchan : chans .block = true)
    (hclosed : s.chanClosed .block = true) : Op cap s (.receive .block) (s.leave s.calls)
  | receiveTimeout {chans : Chan → Bool} (hroutine : s.routine = .select chans)
    (hchan : chans .setTimeout = true)
    (hclosed : s.chanClosed .setTimeout = true) : Op cap s (.receive .setTimeout) (s.resume s.calls)
  -- the endpoint stops, or nothing has come for the timeout
  | leave {chans : Chan → Bool} (hroutine : s.routine = .select chans) : Op cap s .leave (s.leave s.calls)

/-- A step: an operation of a program that has not panicked. -/
def Step (cap : Nat) (s : State P) (e : Event P) (s' : State P) : Prop := s.fault = none ∧ Op cap s e s'

end

end OpenNHP.Core.Closing
