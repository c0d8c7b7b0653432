/-
  The connection table of the server (`endpoints/server/udpserver.go`, `webrtcserver.go`).

  1. **The program.**  Entries are made by `recvPacketRoutine`, which looks an address up, tests the size of the
     table and inserts under three separate locks, and by the `OnOpen` of a data channel, which does not test it;
     they are deleted by the routine of a connection at its end and by `OnClose`.  A run is any interleaving of
     these; there is one `recvPacketRoutine`, so what it is at between its locks is part of the state
     (`Receiving`).

  2. **The property.**  `Limited`: behind every act the table has no more than `MaxConcurrentConnection` entries,
     and a packet whose connection would exceed that is discarded at the test.

  3. **Where it fails.**  The limit is tested in the `else` branch of the overload test, whose threshold is lower,
     so a full table refuses nothing (`receiving_testSize`); and `OnOpen` tests nothing at all.  `floodAddr` is an
     address for each number, and as many of them as one likes are taken in (`exists_flooded`, `limit_exceeded`).

  4. **The result.**  The limit is kept in exactly the runs in which no new address comes while the table is full
     (`limited_iff`, with `WithRoom`): an insertion makes the table larger by one exactly where its address is new
     (`size_add_le_iff`), and no other act makes it larger.

  A packet is received here once it is long enough, from an address that is not blocked, and through the
  precheck: the other packets do not reach the table.
-/
import OpenNHP.Lib.Runs
import OpenNHP.Server.Replay
import Mathlib.Data.List.AList

namespace OpenNHP.Server.Connections

open OpenNHP.Core
open OpenNHP.Server.Replay (maxConcurrentConnection overloadConnectionThreshold)

/-! ## The server -/

/-- The timeouts of connections, by the type of the first packet: an agent's, -/
def defaultAgentConnectionTimeoutMs : Nat := 30 * 1000
/-- an AC's, -/
def defaultACConnectionTimeoutMs : Nat := 300 * 1000
/-- and a broker's. -/
def defaultDBConnectionTimeoutMs : Nat := 300 * 1000

/-- `UdpConn`; `ended` says that its routine has left its loop. -/
structure UdpConn where
  remoteAddr : Addr
  isWebRTC : Bool
  isACConnection : Bool
  isDBConnection : Bool
  timeoutMs : Nat
  closed : Bool
  ended : Bool

/-- The connection `recvPacketRoutine` makes for the first packet of an address. -/
def UdpConn.udp (addr : Addr) (headerType : HeaderType) : UdpConn where
  remoteAddr := addr
  isWebRTC := false
  isACConnection := headerType = .aol
  isDBConnection := headerType = .dol
  timeoutMs :=
    if headerType = .dol then defaultDBConnectionTimeoutMs
    else if headerType = .aol then defaultACConnectionTimeoutMs
    else defaultAgentConnectionTimeoutMs
  closed := false
  ended := false

/-- `(&net.UDPAddr{IP: net.IPv4zero, Port: id}).String()`. -/
def channelAddr (id : UInt16) : Addr := "0.0.0.0:" ++ id.toNat.repr

/-- The connection of a data channel. -/
def UdpConn.webRTC (id : UInt16) : UdpConn where
  remoteAddr := channelAddr id
  isWebRTC := true
  isACConnection := false
  isDBConnection := false
  timeoutMs := defaultAgentConnectionTimeoutMs
  closed := false
  ended := false

/-- Where `recvPacketRoutine` stands: before a read, or between two of its locks with a packet of an
    address that it did not find. -/
inductive Receiving
  | reading
  | testing (addr : Addr) (headerType : HeaderType)
  | creating (addr : Addr) (headerType : HeaderType)
  deriving DecidableEq

/-- The connections made so far, and the table that leads to them. -/
structure State where
  conns : List UdpConn
  remoteConnectionMap : AList fun _ : Addr => Nat
  receiving : Receiving
  overload : Bool

namespace State

/-- No connection yet. -/
def start : State where
  conns := []
  remoteConnectionMap := ∅
  receiving := .reading
  overload := false

variable (s : State)

/-- The number of entries. -/
def size : Nat := s.remoteConnectionMap.keys.length

/-- A new connection and its entry; its routine starts. -/
def add (conn : UdpConn) : State :=
  { s with
    conns := s.conns ++ [conn]
    remoteConnectionMap := s.remoteConnectionMap.insert conn.remoteAddr s.conns.length }

/-- The size tests of `recvPacketRoutine`, under one lock. -/
def testSize (addr : Addr) (headerType : HeaderType) : State :=
  if s.size > overloadConnectionThreshold then
    { s with overload := true, receiving := .creating addr headerType }
  else if s.size ≥ maxConcurrentConnection then { s with receiving := .reading }
  else { s with receiving := .creating addr headerType }

/-- The deferred clean-up of `connectionRoutine`. -/
def remove (c : Nat) (conn : UdpConn) : State :=
  let remoteConnectionMap := s.remoteConnectionMap.erase conn.remoteAddr
  { s with
    conns := s.conns.set c { conn with closed := true, ended := true }
    remoteConnectionMap
    overload := s.overload && overloadConnectionThreshold < remoteConnectionMap.keys.length }

/-- `OnClose` of a data channel whose entry leads to the connection `c`. -/
def closeChannel (id : UInt16) (c : Nat) : State :=
  { s with
    conns := s.conns.modify c fun conn => { conn with closed := true }
    remoteConnectionMap := s.remoteConnectionMap.erase (channelAddr id) }

end State

/-! ## Steps -/

/-- What the routines do. -/
inductive Act
  | receive (addr : Addr) (headerType : HeaderType)
  | test
  | create
  | openChannel (id : UInt16)
  | closeChannel (id : UInt16)
  /-- The routine of a connection times out, is stopped, blocked or closed. -/
  | remove (c : Nat)

/-- What an act leads to, if it can happen. -/
def step (s : State) : Act → Option State
  | .receive addr headerType =>
    if s.receiving = .reading then
      match s.remoteConnectionMap.lookup addr with
      | some _ => some s
      | none => some { s with receiving := .testing addr headerType }
    else none
  | .test =>
    match s.receiving with
    | .testing addr headerType => some (s.testSize addr headerType)
    | _ => none
  | .create =>
    match s.receiving with
    | .creating addr headerType => some { s.add (.udp addr headerType) with receiving := .reading }
    | _ => none
  | .openChannel id => some (s.add (.webRTC id))
  | .closeChannel id =>
    match s.remoteConnectionMap.lookup (channelAddr id) with
    | some c => some (s.closeChannel id c)
    | none => some s
  | .remove c =>
    match s.conns[c]? with
    | some conn => if conn.ended then none else some (s.remove c conn)
    | none => none

/-! ## The size of the table -/

/-- An insertion replaces the entry of its address, if there is one. -/
theorem State.size_add (s : State) (conn : UdpConn) :
    (s.add conn).size = if conn.remoteAddr ∈ s.remoteConnectionMap then s.size else s.size + 1 := by
  rw [size, add, AList.keys_insert, List.length_cons]
  split_ifs with hmem
  · have hpos := List.length_pos_of_mem (AList.mem_keys.mp hmem)
    rw [List.length_erase_of_mem (AList.mem_keys.mp hmem), size]
    omega
  · rw [List.erase_of_not_mem (mt AList.mem_keys.mpr hmem), size]

/-- A deletion makes no table larger. -/
theorem length_keys_erase_le (m : AList fun _ : Addr => Nat) (addr : Addr) :
    (m.erase addr).keys.length ≤ m.keys.length := by
  rw [AList.keys_erase]
  exact List.length_erase_le

/-! ## The limit -/

/-- An entry for the address would not exceed the limit. -/
def State.Room (s : State) (addr : Addr) : Prop :=
  addr ∈ s.remoteConnectionMap ∨ s.size < maxConcurrentConnection

/-- An act keeps to the limit: the table is within it afterwards, and a packet whose connection would
    exceed it is discarded at the test, without a connection. -/
def Limited (s : State) (a : Act) : Prop :=
  ∀ s', step s a = some s' → s'.size ≤ maxConcurrentConnection ∧
    (a = .test → ∀ addr headerType, s.receiving = .testing addr headerType → ¬s.Room addr →
      s'.receiving = .reading ∧ s'.conns = s.conns)

/-- No new address comes while the table is full: no packet of one is tested or given a connection, and
    no data channel opens. -/
def WithRoom (s : State) : Act → Prop
  | .test => ∀ addr headerType, s.receiving = .testing addr headerType → s.Room addr
  | .create => ∀ addr headerType, s.receiving = .creating addr headerType → s.Room addr
  | .openChannel id => s.Room (channelAddr id)
  | .receive .. | .closeChannel _ | .remove _ => True

/-- A full table is an overloaded one, so no packet is refused. -/
theorem receiving_testSize (s : State) (addr : Addr) (headerType : HeaderType) :
    (s.testSize addr headerType).receiving = .creating addr headerType := by
  have hthreshold : overloadConnectionThreshold < maxConcurrentConnection := by decide
  rw [State.testSize]
  split_ifs with hover hfull
  · rfl
  · omega
  · rfl

/-- The test only decides how the routine goes on. -/
theorem remoteConnectionMap_testSize (s : State) (addr : Addr) (headerType : HeaderType) :
    (s.testSize addr headerType).remoteConnectionMap = s.remoteConnectionMap := by
  rw [State.testSize]
  split_ifs <;> rfl

/-- So it leaves the size as it is. -/
theorem size_testSize (s : State) (addr : Addr) (headerType : HeaderType) :
    (s.testSize addr headerType).size = s.size := by
  rw [State.size, remoteConnectionMap_testSize, State.size]

/-- Adding keeps to the limit exactly when there is room. -/
theorem size_add_le_iff {s : State} (hs : s.size ≤ maxConcurrentConnection) (conn : UdpConn) :
    (s.add conn).size ≤ maxConcurrentConnection ↔ s.Room conn.remoteAddr := by
  rw [State.size_add, State.Room]
  split_ifs with hmem
  · exact iff_of_true hs (.inl hmem)
  · rw [or_iff_right hmem]
    omega

/-- A step within the limit keeps to it exactly when it meets the condition. -/
theorem limited_step {s : State} (hs : s.size ≤ maxConcurrentConnection) (a : Act) :
    Limited s a ↔ WithRoom s a := by
  cases a with
  | receive addr headerType =>
    refine iff_of_true (fun s' h => ⟨?_, nofun⟩) trivial
    simp only [step] at h
    split_ifs at h
    split at h <;> obtain rfl := Option.some.inj h <;> exact hs
  | test =>
    constructor
    · intro h addr headerType hreceiving
      by_contra hfull
      have hstep : step s .test = some (s.testSize addr headerType) := by
        simp only [step, hreceiving]
      have hdiscarded := ((h _ hstep).2 rfl addr headerType hreceiving hfull).1
      rw [receiving_testSize] at hdiscarded
      exact absurd hdiscarded nofun
    · intro h s' hstep
      simp only [step] at hstep
      split at hstep
      · rename_i addr headerType hreceiving
        obtain rfl := Option.some.inj hstep
        refine ⟨(size_testSize s addr headerType).symm ▸ hs, fun _ addr' headerType' hreceiving' hfull => ?_⟩
        exact absurd (h addr' headerType' hreceiving') hfull
      · cases hstep
  -- The insertion relies on the test before it, which other insertions may have overtaken.
  | create =>
    constructor
    · intro h addr headerType hreceiving
      have hstep : step s .create = some { s.add (.udp addr headerType) with receiving := .reading } := by
        simp only [step, hreceiving]
      exact (size_add_le_iff hs (.udp addr headerType)).mp (h _ hstep).1
    · intro h s' hstep
      simp only [step] at hstep
      split at hstep
      · rename_i addr headerType hreceiving
        obtain rfl := Option.some.inj hstep
        exact ⟨(size_add_le_iff hs (.udp addr headerType)).mpr (h addr headerType hreceiving), nofun⟩
      · cases hstep
  | openChannel id =>
    constructor
    · intro h
      exact (size_add_le_iff hs (.webRTC id)).mp (h _ rfl).1
    · intro h s' hstep
      obtain rfl := Option.some.inj hstep
      exact ⟨(size_add_le_iff hs (.webRTC id)).mpr h, nofun⟩
  | closeChannel id =>
    refine iff_of_true (fun s' h => ⟨?_, nofun⟩) trivial
    simp only [step] at h
    split at h <;> obtain rfl := Option.some.inj h
    · exact (length_keys_erase_le _ _).trans hs
    · exact hs
  | remove c =>
    refine iff_of_true (fun s' h => ⟨?_, nofun⟩) trivial
    simp only [step] at h
    split at h
    · split_ifs at h
      obtain rfl := Option.some.inj h
      exact (length_keys_erase_le _ _).trans hs
    · cases h

/-- A run keeps to the limit exactly when no new address comes while the table is full. -/
theorem limited_iff (acts : List Act) :
    Runs.Steps step Limited .start acts ↔ Runs.Steps step WithRoom .start acts := by
  apply Runs.steps_congr (I := fun s : State => s.size ≤ maxConcurrentConnection)
  · exact fun s a hs => limited_step hs a
  · exact fun s a s' _ hlimited hstep => (hlimited s' hstep).1
  · exact Nat.zero_le _

/-! ### A full table -/

/-- Different ports of one host. -/
def floodAddr (n : Nat) : Addr := "10.0.0.1:" ++ (1024 + n).repr

/-- The addresses of a flood differ. -/
theorem floodAddr_injective {m n : Nat} (h : floodAddr m = floodAddr n) : m = n := by
  have hrepr := congrArg String.toList h
  rw [floodAddr, floodAddr, String.toList_append, String.toList_append] at hrepr
  have hport := congrArg (fun digits => Nat.ofDigitChars 10 digits 0) (List.append_cancel_left hrepr)
  have hport : 1024 + m = 1024 + n := by simpa [Nat.repr] using hport
  omega

/-- The first packet of an address that is not in the table, from its receipt to its connection. -/
theorem run_newPacket {s : State} (hreading : s.receiving = .reading) {addr : Addr}
    (hnew : addr ∉ s.remoteConnectionMap) (headerType : HeaderType) :
    ∃ t, Runs.run step s [.receive addr headerType, .test, .create] = some t ∧
      t.receiving = .reading ∧ t.size = s.size + 1 ∧
      ∀ addr' ∈ t.remoteConnectionMap, addr' = addr ∨ addr' ∈ s.remoteConnectionMap := by
  let received : State := { s with receiving := .testing addr headerType }
  let tested := received.testSize addr headerType
  have hreceive : step s (.receive addr headerType) = some received := by
    simp only [step, hreading, if_true, AList.lookup_eq_none.mpr hnew]
    rfl
  have htest : step received .test = some tested := rfl
  have hcreate : step tested .create
      = some { tested.add (.udp addr headerType) with receiving := .reading } := by
    simp only [step, tested, receiving_testSize]
  have hmap : tested.remoteConnectionMap = s.remoteConnectionMap :=
    remoteConnectionMap_testSize received addr headerType
  refine ⟨{ tested.add (.udp addr headerType) with receiving := .reading }, ?_, rfl, ?_, fun addr' hmem => ?_⟩
  · simp only [Runs.run, hreceive, htest, hcreate, Option.bind_some]
  · have hadd := tested.size_add (.udp addr headerType)
    rw [if_neg (hmap ▸ hnew), size_testSize received addr headerType] at hadd
    exact hadd
  · rcases (AList.mem_insert _).mp hmem with heq | hmem
    · exact .inl heq
    · exact .inr (hmap ▸ hmem)

/-- `n` packets from `n` ports make `n` entries. -/
theorem exists_flooded (n : Nat) : ∃ acts t, Runs.run step .start acts = some t ∧
    t.receiving = .reading ∧ t.size = n ∧
    ∀ addr ∈ t.remoteConnectionMap, ∃ k < n, addr = floodAddr k := by
  induction n with
  | zero => exact ⟨[], .start, rfl, rfl, rfl, fun addr hmem => absurd hmem (AList.notMem_empty addr)⟩
  | succ n ih =>
    obtain ⟨acts, s, hrun, hreading, hsize, haddrs⟩ := ih
    have hnew : floodAddr n ∉ s.remoteConnectionMap := by
      intro hmem
      obtain ⟨k, hk, heq⟩ := haddrs _ hmem
      exact absurd (floodAddr_injective heq) (by omega)
    obtain ⟨t, hpacket, hreading', hsize', hmap⟩ := run_newPacket hreading hnew .knk
    refine ⟨acts ++ [.receive (floodAddr n) .knk, .test, .create], t, ?_, hreading', ?_, fun addr hmem => ?_⟩
    · rw [Runs.run_append, hrun]
      exact hpacket
    · rw [hsize', hsize]
    · rcases hmap addr hmem with rfl | hmem
      · exact ⟨n, Nat.lt_succ_self n, rfl⟩
      · obtain ⟨k, hk, heq⟩ := haddrs addr hmem
        exact ⟨k, Nat.lt_succ_of_lt hk, heq⟩

/-- One packet from each of 20481 ports of a host: the last one is not discarded, and the table holds one
    entry more than its limit. -/
theorem limit_exceeded : ∃ acts t, Runs.run step .start acts = some t ∧
    t.size = maxConcurrentConnection + 1 ∧ ¬Runs.Steps step Limited .start acts := by
  obtain ⟨acts, t, hrun, -, hsize, -⟩ := exists_flooded (maxConcurrentConnection + 1)
  refine ⟨acts, t, hrun, hsize, fun hlimited => ?_⟩
  have hbound : t.size ≤ maxConcurrentConnection :=
    Runs.run_invariant_of (I := fun s : State => s.size ≤ maxConcurrentConnection)
      (fun s a s' hC _ hstep => (hC s' hstep).1) hlimited (Nat.zero_le _) hrun
  omega

end OpenNHP.Server.Connections
