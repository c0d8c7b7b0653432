/-
  Blocked addresses (`endpoints/server/udpserver.go`).

  THE PROGRAM.  `recvPacketRoutine` drops the datagrams of a blocked address, counts for every other address the
  datagrams that fail `RecvPrecheck`, one after the other, and asks for the address to be blocked whenever the
  count is over five.  The routine of a connection asks for it on a block signal.  Both ask through
  `AddBlockAddr`, which does nothing when the pool is full; `RefreshBlockAddr` drops what has expired.  A run is
  any interleaving of the two, of the refreshes and of the clock.

  THE SPECIFICATION.  Two functions of what has happened so far, newest first: `strikes`, how many datagrams of
  an address have failed since the last one that passed, and `expiry`, until when an address is blocked.

  1. The two tables are these functions (`kept`): the counter of an address tells how many of its datagrams have
     failed in a row, the block table who was asked for and has not expired since.
  2. So an address is blocked exactly when it was asked for, with room in the pool, at some time and no refresh
     has come later than ninety seconds after that time (`blocked_iff`).

  THE CRUX.  The counter is an `int32`, so `Over` asks of the wrapped count, and the pool may be full at the very
  request that would block, so a request carries whether there was room.

  Two things follow from how the counter is kept.  Only a datagram that passes clears it, so behind an expired
  block one more failure is enough (`blocked_until`).  And what counts is the source address of a datagram, which
  anybody writes (`spoofed_block`).
-/
import OpenNHP.Lib.Runs
import OpenNHP.Lib.Tables
import OpenNHP.Server.Replay

namespace OpenNHP.Server.BlockList

open OpenNHP.Core
open OpenNHP.Server.Replay (maxConcurrentConnection)

variable {M : Type}

/-! ## The server -/

/-- `BlockAddrExpireTime`, 90 s in nanoseconds. -/
def blockAddrExpireTime : Int := 90 * 1000000000
/-- `PreCheckThreatCountBeforeBlock`; the counter itself is an `int32`. -/
def preCheckThreatCountBeforeBlock : Int32 := 5

/-- What happened to an address or to the table.  `room` says whether the pool had room. -/
inductive Happening
  | passed (addr : Addr) (now : Int)
  | refused (addr : Addr) (room : Bool) (now : Int)
  | signalled (addr : Addr) (room : Bool) (now : Int)
  | refreshed (now : Int)
  deriving DecidableEq

/-- When it happened. -/
def Happening.now : Happening → Int
  | passed _ now => now
  | refused _ _ now => now
  | signalled _ _ now => now
  | refreshed now => now

/-- `receiving` is the datagram that `recvPacketRoutine` has let in and not yet looked at; `history` is
    what has happened, the latest first. -/
structure State (M : Type) where
  now : Int
  receiving : Option (Addr × Packet M)
  preCheckThreats : AList fun _ : Addr => Int32
  blockAddrMap : AList fun _ : Addr => Int
  history : List Happening

namespace State

/-- Nothing has been received, nobody is blocked. -/
def start (now : Int) : State M where
  now
  receiving := none
  preCheckThreats := ∅
  blockAddrMap := ∅
  history := []

variable (s : State M)

/-- `AddBlockAddr` puts no more entries into the table than there may be connections. -/
def room : Bool := s.blockAddrMap.keys.length < maxConcurrentConnection

/-- `IsBlockAddr`: an entry blocks until it is dropped, whether its time is over or not. -/
def isBlockAddr (addr : Addr) : Bool := (s.blockAddrMap.lookup addr).isSome

/-- `AddBlockAddr`: a second request moves the end of a block. -/
def addBlockAddr (addr : Addr) : State M :=
  if s.room then
    { s with blockAddrMap := s.blockAddrMap.insert addr (s.now + blockAddrExpireTime) }
  else s

/-- `RefreshBlockAddr`: what expires before now goes. -/
def refreshBlockAddr : State M :=
  { s with
    blockAddrMap := s.blockAddrMap.filterKeys fun addr =>
      (s.blockAddrMap.lookup addr).all fun expireTime => !decide (expireTime < s.now) }

/-- The history is kept for the statements only. -/
def note (happening : Happening) : State M := { s with history := happening :: s.history }

/-- The count of an address, with one more. -/
def threatsOf (addr : Addr) : Int32 := (s.preCheckThreats.lookup addr).getD 0 + 1

/-- A datagram that fails the precheck. -/
def refuse (addr : Addr) : State M :=
  let counted := { s with
    receiving := none
    preCheckThreats := s.preCheckThreats.insert addr (s.threatsOf addr) }
  (if preCheckThreatCountBeforeBlock < s.threatsOf addr then counted.addBlockAddr addr else counted).note
    (.refused addr s.room s.now)

/-- A datagram that passes; it goes on to its connection. -/
def pass (addr : Addr) : State M :=
  ({ s with receiving := none, preCheckThreats := s.preCheckThreats.erase addr } : State M).note (.passed addr s.now)

end State

/-! ## Steps -/

/-- What the routines and the clock do. -/
inductive Act (M : Type)
  | tick (now : Int)
  /-- `ReadFromUDP`, the test of the length and `IsBlockAddr` -/
  | receive (addr : Addr) (pkt : Packet M)
  /-- `RecvPrecheck` -/
  | precheck
  /-- the case of `BlockSignal` in `connectionRoutine` -/
  | blockSignal (addr : Addr)
  | refresh

/-- One act; `none` where the routine is somewhere else, or the clock would go back. -/
def step (s : State M) : Act M → Option (State M)
  | .tick now => if s.now ≤ now then some { s with now := now } else none
  | .receive addr pkt =>
    match s.receiving with
    | some _ => none
    | none =>
      if pkt.len < Packet.minimalLength then some s
      else if s.isBlockAddr addr then some s
      else some { s with receiving := some (addr, pkt) }
  | .precheck =>
    match s.receiving with
    | none => none
    | some (addr, pkt) =>
      match recvPrecheck .server pkt with
      | .ok _ => some (s.pass addr)
      | .err _ => some (s.refuse addr)
      | .panic => none
  | .blockSignal addr => some ((s.addBlockAddr addr).note (.signalled addr s.room s.now))
  | .refresh => some (s.refreshBlockAddr.note (.refreshed s.now))

/-! ## What the tables mean -/

/-- How many datagrams of an address have failed since the last one that passed. -/
def strikes (addr : Addr) : List Happening → Nat
  | [] => 0
  | .passed addr' _ :: older => if addr' = addr then 0 else strikes addr older
  | .refused addr' _ _ :: older => if addr' = addr then strikes addr older + 1 else strikes addr older
  | _ :: older => strikes addr older

/-- So many failures ask for a block: the count is kept in 32 bits. -/
def Over (n : Nat) : Prop := preCheckThreatCountBeforeBlock < Int32.ofNat n

instance (n : Nat) : Decidable (Over n) := inferInstanceAs (Decidable (_ < _))

/-- When the block expires that something asks for, if the pool has room for it. -/
def Happening.asks (addr : Addr) (older : List Happening) : Happening → Option Int
  | .refused addr' room now =>
    if addr' = addr ∧ room = true ∧ Over (strikes addr older + 1) then some (now + blockAddrExpireTime)
    else none
  | .signalled addr' room now =>
    if addr' = addr ∧ room = true then some (now + blockAddrExpireTime) else none
  | _ => none

/-- When the block of an address expires, if there is one. -/
def expiry (addr : Addr) : List Happening → Option Int
  | [] => none
  | .refreshed now :: older => (expiry addr older).filter fun expireTime => !decide (expireTime < now)
  | h :: older => (h.asks addr older).or (expiry addr older)

/-- The tables are what has happened. -/
structure Kept (s : State M) : Prop where
  threats : ∀ addr, s.preCheckThreats.lookup addr
    = if strikes addr s.history = 0 then none else some (Int32.ofNat (strikes addr s.history))
  blocked : ∀ addr, s.blockAddrMap.lookup addr = expiry addr s.history
  size : s.blockAddrMap.keys.length ≤ maxConcurrentConnection
  past : ∀ h ∈ s.history, h.now ≤ s.now
  ordered : s.history.Pairwise fun h h' => h'.now ≤ h.now
  received : ∀ addr pkt, s.receiving = some (addr, pkt) → Packet.minimalLength ≤ pkt.len

/-- At the start both functions are nothing. -/
theorem Kept.start (now : Int) : Kept (State.start now : State M) where
  threats _ := rfl
  blocked _ := rfl
  size := Nat.zero_le _
  past _ h := by cases h
  ordered := .nil
  received _ _ h := by cases h

/-! ## What a step keeps -/

variable {s s' : State M}

/-- The count that a failure reaches. -/
theorem Kept.threatsOf (h : Kept s) (addr : Addr) :
    s.threatsOf addr = Int32.ofNat (strikes addr s.history + 1) := by
  rw [State.threatsOf, h.threats, Int32.ofNat_add]
  split
  · rename_i hzero
    rw [hzero]
    rfl
  · rfl

/-- A request to block enters the address, where there is room. -/
theorem lookup_addBlockAddr (addr addr' : Addr) :
    (s.addBlockAddr addr).blockAddrMap.lookup addr' =
      if addr = addr' ∧ s.room = true then some (s.now + blockAddrExpireTime)
      else s.blockAddrMap.lookup addr' := by
  rw [State.addBlockAddr]
  cases hroom : s.room
  · simp
  · simp only [if_true, AList.lookup_insert_eq_ite, eq_comm, and_true]

/-- The table never outgrows the pool. -/
theorem size_addBlockAddr (hs : s.blockAddrMap.keys.length ≤ maxConcurrentConnection) (addr : Addr) :
    (s.addBlockAddr addr).blockAddrMap.keys.length ≤ maxConcurrentConnection := by
  rw [State.addBlockAddr]
  split
  · rename_i hroom
    have hroom' : s.blockAddrMap.keys.length < maxConcurrentConnection := of_decide_eq_true hroom
    have herase : (s.blockAddrMap.erase addr).keys.length ≤ s.blockAddrMap.keys.length := by
      rw [AList.keys_erase]
      exact List.length_erase_le
    show (s.blockAddrMap.insert addr _).keys.length ≤ _
    rw [AList.keys_insert, List.length_cons, ← AList.keys_erase]
    omega
  · exact hs

/-- A request to block changes the block table only. -/
theorem addBlockAddr_frame (s : State M) (addr : Addr) :
    (s.addBlockAddr addr).history = s.history ∧ (s.addBlockAddr addr).now = s.now ∧
      (s.addBlockAddr addr).receiving = s.receiving ∧
      (s.addBlockAddr addr).preCheckThreats = s.preCheckThreats := by
  rw [State.addBlockAddr]
  split <;> exact ⟨rfl, rfl, rfl, rfl⟩

/-- What a failed datagram leaves besides the block table. -/
theorem refuse_frame (s : State M) (addr : Addr) :
    (s.refuse addr).history = .refused addr s.room s.now :: s.history ∧ (s.refuse addr).now = s.now ∧
      (s.refuse addr).receiving = none ∧
      (s.refuse addr).preCheckThreats = s.preCheckThreats.insert addr (s.threatsOf addr) := by
  rw [State.refuse, State.addBlockAddr]
  split_ifs <;> exact ⟨rfl, rfl, rfl, rfl⟩

/-- What is noted of now comes behind everything. -/
theorem Kept.ordered_cons (h : Kept s) {happening : Happening} (hnow : happening.now = s.now) :
    (∀ h' ∈ happening :: s.history, h'.now ≤ s.now) ∧
      (happening :: s.history).Pairwise fun h h' => h'.now ≤ h.now := by
  refine ⟨List.forall_mem_cons.mpr ⟨le_of_eq hnow, h.past⟩, List.Pairwise.cons ?_ h.ordered⟩
  intro h' hmem
  rw [hnow]
  exact h.past h' hmem

/-- A failed datagram blocks its own address, and only with room and enough strikes. -/
theorem lookup_refuse (h : Kept s) (addr addr' : Addr) :
    (s.refuse addr).blockAddrMap.lookup addr' =
      if addr = addr' ∧ s.room = true ∧ Over (strikes addr s.history + 1) then
        some (s.now + blockAddrExpireTime)
      else s.blockAddrMap.lookup addr' := by
  have hover : preCheckThreatCountBeforeBlock < s.threatsOf addr ↔ Over (strikes addr s.history + 1) := by
    rw [h.threatsOf]
    exact Iff.rfl
  rw [State.refuse]
  by_cases hstrikes : Over (strikes addr s.history + 1)
  · rw [if_pos (hover.mpr hstrikes)]
    refine (lookup_addBlockAddr addr addr').trans ?_
    simp only [hstrikes, and_true]
    rfl
  · rw [if_neg (fun hlt => hstrikes (hover.mp hlt))]
    simp only [hstrikes, and_false, if_false]
    rfl

/-- A datagram that fails `RecvPrecheck`. -/
theorem Kept.refuse (h : Kept s) (addr : Addr) : Kept (s.refuse addr) := by
  obtain ⟨hpast, hordered⟩ := h.ordered_cons (rfl : (Happening.refused addr s.room s.now).now = s.now)
  obtain ⟨hhistory, hnow, hreceiving, hthreats⟩ := refuse_frame s addr
  refine ⟨fun addr' => ?_, fun addr' => ?_, ?_, ?_, ?_, ?_⟩
  · rw [hthreats, hhistory, AList.lookup_insert_eq_ite, h.threatsOf, h.threats, strikes]
    by_cases heq : addr' = addr
    · simp [heq]
    · simp [heq, Ne.symm heq]
  · rw [lookup_refuse h, hhistory, expiry, Happening.asks, h.blocked]
    · by_cases hasks : addr = addr' ∧ s.room = true ∧ Over (strikes addr s.history + 1)
      · obtain ⟨rfl, hrest⟩ := hasks
        rw [if_pos ⟨rfl, hrest⟩, if_pos ⟨rfl, hrest⟩, Option.some_or]
      · rw [if_neg hasks, if_neg, Option.none_or]
        rintro ⟨rfl, hrest⟩
        exact hasks ⟨rfl, hrest⟩
    · rintro _ ⟨⟩
  · rw [State.refuse]
    split
    · show (State.addBlockAddr _ addr).blockAddrMap.keys.length ≤ _
      apply size_addBlockAddr
      exact h.size
    · exact h.size
  · rw [hhistory, hnow]
    exact hpast
  · rw [hhistory]
    exact hordered
  · rw [hreceiving]
    rintro _ _ ⟨⟩

/-- A datagram that passes clears the counter and leaves the blocks. -/
theorem Kept.pass (h : Kept s) (addr : Addr) : Kept (s.pass addr) := by
  obtain ⟨hpast, hordered⟩ := h.ordered_cons (rfl : (Happening.passed addr s.now).now = s.now)
  refine ⟨fun addr' => ?_, fun addr' => ?_, h.size, hpast, hordered, ?_⟩
  · show (s.preCheckThreats.erase addr).lookup addr' = if strikes addr' (.passed addr s.now :: s.history) = 0
      then none else some (Int32.ofNat (strikes addr' (.passed addr s.now :: s.history)))
    rw [AList.lookup_erase_eq_ite, h.threats, strikes]
    by_cases heq : addr' = addr
    · simp [heq]
    · simp [heq, Ne.symm heq]
  · exact (h.blocked addr').trans (Option.none_or).symm
  · rintro _ _ ⟨⟩

/-- A block signal of a connection. -/
theorem Kept.signal (h : Kept s) (addr : Addr) :
    Kept ((s.addBlockAddr addr).note (.signalled addr s.room s.now)) := by
  obtain ⟨hpast, hordered⟩ := h.ordered_cons (rfl : (Happening.signalled addr s.room s.now).now = s.now)
  obtain ⟨hhistory, hnow, hreceiving, hthreats⟩ := addBlockAddr_frame s addr
  refine ⟨fun addr' => ?_, fun addr' => ?_, size_addBlockAddr h.size addr, ?_, ?_, ?_⟩
  · show (s.addBlockAddr addr).preCheckThreats.lookup addr'
      = if strikes addr' (s.addBlockAddr addr).history = 0 then none
        else some (Int32.ofNat (strikes addr' (s.addBlockAddr addr).history))
    rw [hthreats, hhistory]
    exact h.threats addr'
  · show (s.addBlockAddr addr).blockAddrMap.lookup addr'
      = expiry addr' (.signalled addr s.room s.now :: (s.addBlockAddr addr).history)
    rw [lookup_addBlockAddr, hhistory, expiry, Happening.asks, h.blocked]
    · by_cases hasks : addr = addr' ∧ s.room = true
      · rw [if_pos hasks, if_pos hasks, Option.some_or]
      · rw [if_neg hasks, if_neg hasks, Option.none_or]
    · rintro _ ⟨⟩
  · show ∀ h' ∈ _ :: (s.addBlockAddr addr).history, h'.now ≤ (s.addBlockAddr addr).now
    rw [hhistory, hnow]
    exact hpast
  · show (_ :: (s.addBlockAddr addr).history).Pairwise _
    rw [hhistory]
    exact hordered
  · show ∀ addr' pkt, (s.addBlockAddr addr).receiving = some (addr', pkt) → _
    rw [hreceiving]
    exact h.received

/-- A refresh. -/
theorem Kept.refresh (h : Kept s) : Kept (s.refreshBlockAddr.note (.refreshed s.now)) := by
  obtain ⟨hpast, hordered⟩ := h.ordered_cons (rfl : (Happening.refreshed s.now).now = s.now)
  refine ⟨h.threats, fun addr => ?_, ?_, hpast, hordered, h.received⟩
  · show (s.blockAddrMap.filterKeys _).lookup addr = expiry addr (.refreshed s.now :: s.history)
    rw [AList.lookup_filterKeys, expiry, ← h.blocked]
    cases s.blockAddrMap.lookup addr with
    | none => simp
    | some expireTime => simp only [Option.all_some, Option.filter_some]
  · refine le_trans ?_ h.size
    show ((s.blockAddrMap.entries.filter _).map Sigma.fst).length ≤ (s.blockAddrMap.entries.map Sigma.fst).length
    rw [List.length_map, List.length_map]
    exact List.length_filter_le _ _

/-- Every step keeps it. -/
theorem Kept.step (h : Kept s) {a : Act M} (hstep : step s a = some s') : Kept s' := by
  cases a with
  | tick now =>
    rw [BlockList.step] at hstep
    split at hstep
    · rename_i hnow
      cases hstep
      exact ⟨h.threats, h.blocked, h.size, fun h' hmem => (h.past h' hmem).trans hnow, h.ordered, h.received⟩
    · cases hstep
  | receive addr pkt =>
    rw [BlockList.step] at hstep
    split at hstep
    · cases hstep
    · split_ifs at hstep with hlen hblock
      · cases hstep
        exact h
      · cases hstep
        exact h
      · cases hstep
        refine ⟨h.threats, h.blocked, h.size, h.past, h.ordered, ?_⟩
        rintro _ _ ⟨⟩
        exact Nat.le_of_not_lt hlen
  | precheck =>
    rw [BlockList.step] at hstep
    split at hstep
    · cases hstep
    · split at hstep
      · cases hstep
        exact h.pass _
      · cases hstep
        exact h.refuse _
      · cases hstep
  | blockSignal addr =>
    cases hstep
    exact h.signal addr
  | refresh =>
    cases hstep
    exact h.refresh

/-- The tables of every reachable state are what has happened. -/
theorem kept {now : Int} {as : List (Act M)} (hrun : Runs.run BlockList.step (.start now) as = some s) : Kept s :=
  Runs.run_invariant (fun _ _ _ h hstep => h.step hstep) (Kept.start now) hrun

/-! ## Who is blocked -/

/-- A block of an address that is noted and has not expired at a refresh since. -/
def Standing (addr : Addr) (history : List Happening) : Prop :=
  ∃ newer h older expireTime, history = newer ++ h :: older ∧ h.asks addr older = some expireTime ∧
    ∀ now, .refreshed now ∈ newer → now ≤ expireTime

/-- What asks for a block asks for ninety seconds. -/
theorem expiry_of_asks {addr : Addr} {older : List Happening} {h : Happening} {expireTime : Int}
    (hasks : h.asks addr older = some expireTime) : expireTime = h.now + blockAddrExpireTime := by
  cases h with
  | passed addr' now => cases hasks
  | refreshed now => cases hasks
  | refused addr' room now =>
    rw [Happening.asks] at hasks
    split at hasks <;> cases hasks
    rfl
  | signalled addr' room now =>
    rw [Happening.asks] at hasks
    split at hasks <;> cases hasks
    rfl

/-- Apart from a refresh, what has just happened either asks for the block or leaves it. -/
theorem expiry_cons {addr : Addr} {older : List Happening} {h : Happening} (hne : ∀ now, h ≠ .refreshed now) :
    expiry addr (h :: older) = (h.asks addr older).or (expiry addr older) := by
  rw [expiry]
  intro now heq
  exact hne now heq

/-- The entry of an address is one that stands. -/
theorem standing_of_expiry {addr : Addr} {history : List Happening} {expireTime : Int}
    (h : expiry addr history = some expireTime) : Standing addr history := by
  suffices hstands : ∃ newer h older, history = newer ++ h :: older ∧ h.asks addr older = some expireTime ∧
      ∀ now, .refreshed now ∈ newer → now ≤ expireTime by
    obtain ⟨newer, h, older, hstands⟩ := hstands
    exact ⟨newer, h, older, expireTime, hstands⟩
  induction history with
  | nil => cases h
  | cons happening older ih =>
    by_cases hrefreshed : ∃ now, happening = .refreshed now
    · obtain ⟨now, rfl⟩ := hrefreshed
      rw [expiry, Option.filter_eq_some_iff] at h
      obtain ⟨hexpiry, hlate⟩ := h
      obtain ⟨newer, ask, older', rfl, hasks, hnewer⟩ := ih hexpiry
      refine ⟨.refreshed now :: newer, ask, older', rfl, hasks, ?_⟩
      rintro now' (_ | ⟨_, hmem⟩)
      · simpa using hlate
      · exact hnewer now' hmem
    · have hne : ∀ now, happening ≠ .refreshed now := fun now heq => hrefreshed ⟨now, heq⟩
      rw [expiry_cons hne] at h
      rcases Option.or_eq_some_iff.mp h with hasks | ⟨-, hexpiry⟩
      · refine ⟨[], happening, older, rfl, hasks, ?_⟩
        rintro now ⟨⟩
      · obtain ⟨newer, ask, older', rfl, hasks, hnewer⟩ := ih hexpiry
        refine ⟨happening :: newer, ask, older', rfl, hasks, ?_⟩
        rintro now' (_ | ⟨_, hmem⟩)
        · exact absurd rfl (hne now')
        · exact hnewer now' hmem

/-- A block that stands is entered, with its own expire time or a later one. -/
theorem expiry_of_standing {addr : Addr} {newer older : List Happening} {h : Happening} {expireTime : Int}
    (hordered : (newer ++ h :: older).Pairwise fun h h' => h'.now ≤ h.now)
    (hasks : h.asks addr older = some expireTime)
    (hnewer : ∀ now, .refreshed now ∈ newer → now ≤ expireTime) :
    ∃ expireTime', expiry addr (newer ++ h :: older) = some expireTime' ∧ expireTime ≤ expireTime' := by
  induction newer with
  | nil =>
    refine ⟨expireTime, ?_, le_refl _⟩
    have hne : ∀ now, h ≠ .refreshed now := by
      rintro now rfl
      cases hasks
    rw [List.nil_append, expiry_cons hne, hasks, Option.some_or]
  | cons happening newer ih =>
    obtain ⟨hlatest, hordered⟩ := List.pairwise_cons.mp hordered
    obtain ⟨expireTime', hexpiry, hle⟩ := ih hordered fun now hmem => hnewer now (List.mem_cons_of_mem _ hmem)
    rw [List.cons_append]
    by_cases hrefreshed : ∃ now, happening = .refreshed now
    · obtain ⟨now, rfl⟩ := hrefreshed
      refine ⟨expireTime', ?_, hle⟩
      have hnow : now ≤ expireTime := hnewer now List.mem_cons_self
      rw [expiry, hexpiry, Option.filter_some, if_pos]
      simp only [Bool.not_eq_eq_eq_not, Bool.not_true, decide_eq_false_iff_not]
      omega
    · have hne : ∀ now, happening ≠ .refreshed now := fun now heq => hrefreshed ⟨now, heq⟩
      rw [expiry_cons hne, hexpiry]
      cases hagain : happening.asks addr (newer ++ h :: older) with
      | none => exact ⟨expireTime', rfl, hle⟩
      | some again =>
        -- a later request, so it expires later
        refine ⟨again, rfl, ?_⟩
        have hlater : h.now ≤ happening.now := hlatest h (by simp)
        rw [expiry_of_asks hasks, expiry_of_asks hagain]
        omega

/-- **Who is blocked.**  In every reachable state an address is blocked exactly when something asked for it
    while the pool had room, a block signal of one of its connections or a datagram that failed with five
    failures or more before it and none that passed between, and no refresh has come since then that was
    later than ninety seconds after it. -/
theorem blocked_iff {now : Int} {as : List (Act M)} (hrun : Runs.run step (.start now) as = some s)
    (addr : Addr) : s.isBlockAddr addr = true ↔ Standing addr s.history := by
  have hkept := kept hrun
  rw [State.isBlockAddr, hkept.blocked]
  constructor
  · intro h
    obtain ⟨expireTime, hexpiry⟩ := Option.isSome_iff_exists.mp h
    exact standing_of_expiry hexpiry
  · rintro ⟨newer, h, older, expireTime, heq, hasks, hnewer⟩
    have hordered := hkept.ordered
    rw [heq] at hordered ⊢
    obtain ⟨expireTime', hexpiry, -⟩ := expiry_of_standing hordered hasks hnewer
    rw [hexpiry]
    rfl

/-- Datagrams of one source address, each looked at before the next is read. -/
def deliver (addr : Addr) (pkts : List (Packet M)) : List (Act M) :=
  pkts.flatMap fun pkt => [.receive addr pkt, .precheck]

/-- A datagram of a type that a server does not take. -/
def sampleBad : Packet Unit where
  common := { preamble := 0, tns := 0x20000, major := 1, minor := 0, flag := 0, unused := 0, counter := 0 }
  fields _ := { ephermeral := (), identity := (), static := (), timestamp := (), hmac := () }
  payload _ := ()
  len := 240

/-- Six bad datagrams block their address, and a refresh just before the block expires leaves it. -/
theorem blocked_iff_sample :
    ∃ s : State Unit, Runs.run step (.start 0)
        (deliver "192.0.2.7:5000" (List.replicate 6 sampleBad) ++ [.tick (90 * 1000000000), .refresh]) = some s ∧
      (s.isBlockAddr "192.0.2.7:5000" = true ↔ Standing "192.0.2.7:5000" s.history) ∧
      s.isBlockAddr "192.0.2.7:5000" = true := by
  have hrun : Runs.run step (.start 0 : State Unit)
      (deliver "192.0.2.7:5000" (List.replicate 6 sampleBad) ++ [.tick (90 * 1000000000), .refresh]) = some _ := rfl
  exact ⟨_, hrun, blocked_iff hrun _, by decide⟩

/-! ## Forged source addresses -/

/-- A datagram that is long enough and fails the precheck. -/
def Bad (pkt : Packet M) : Prop := Packet.minimalLength ≤ pkt.len ∧ ∃ e, recvPrecheck .server pkt = .err e

/-- A bad datagram of an address that is not blocked is a failure. -/
theorem run_deliver_cons {addr : Addr} {pkt : Packet M} {pkts : List (Packet M)} (hbad : Bad pkt)
    (hreading : s.receiving = none) (hopen : s.isBlockAddr addr = false) :
    Runs.run step s (deliver addr (pkt :: pkts)) = Runs.run step (s.refuse addr) (deliver addr pkts) := by
  obtain ⟨hlen, e, he⟩ := hbad
  have hreceive : step s (.receive addr pkt) = some { s with receiving := some (addr, pkt) } := by
    simp only [step, hreading, hopen, if_neg (Nat.not_lt.mpr hlen), Bool.false_eq_true, if_false]
  have hprecheck : step { s with receiving := some (addr, pkt) } .precheck = some (s.refuse addr) := by
    simp only [step, he]
    rfl
  show Runs.run step s (.receive addr pkt :: .precheck :: deliver addr pkts) = _
  rw [Runs.run, hreceive, Option.bind_some, Runs.run, hprecheck, Option.bind_some]

/-- What happens is added to what has happened. -/
theorem history_step {a : Act M} (hstep : step s a = some s') : ∃ newer, s'.history = newer ++ s.history := by
  cases a with
  | tick now =>
    rw [step] at hstep
    split at hstep <;> cases hstep
    exact ⟨[], rfl⟩
  | receive addr pkt =>
    rw [step] at hstep
    split at hstep
    · cases hstep
    · split_ifs at hstep <;> cases hstep <;> exact ⟨[], rfl⟩
  | precheck =>
    rw [step] at hstep
    split at hstep
    · cases hstep
    · split at hstep <;> cases hstep
      · exact ⟨[_], rfl⟩
      · exact ⟨[_], (refuse_frame s _).1⟩
  | blockSignal addr =>
    cases hstep
    exact ⟨[_], congrArg _ (addBlockAddr_frame s addr).1⟩
  | refresh =>
    cases hstep
    exact ⟨[_], rfl⟩

/-- A request for a block stands until the clock is past its expire time. -/
theorem blocked_until {now : Int} {as as' : List (Act M)} (hrun : Runs.run step (.start now) as = some s)
    {addr : Addr} {h : Happening} {older : List Happening} {expireTime : Int} (hhistory : s.history = h :: older)
    (hasks : h.asks addr older = some expireTime) (hrun' : Runs.run step s as' = some s')
    (hearly : s'.now ≤ expireTime) : s'.isBlockAddr addr = true := by
  have hwhole : Runs.run step (.start now) (as ++ as') = some s' := by
    rw [Runs.run_append, hrun, Option.bind_some, hrun']
  obtain ⟨newer, hnewer⟩ : ∃ newer, s'.history = newer ++ s.history := by
    refine Runs.run_invariant (I := fun t : State M => ∃ newer, t.history = newer ++ s.history) ?_ ⟨[], rfl⟩ hrun'
    rintro t a t' ⟨newer, heq⟩ hstep
    obtain ⟨newest, heq'⟩ := history_step hstep
    exact ⟨newest ++ newer, by rw [heq', heq, List.append_assoc]⟩
  apply (blocked_iff hwhole addr).mpr
  refine ⟨newer, h, older, expireTime, by rw [hnewer, hhistory], hasks, fun now' hmem => ?_⟩
  have hpast := (kept hwhole).past (.refreshed now') (by rw [hnewer]; exact List.mem_append_left _ hmem)
  exact le_trans hpast hearly

/-- **Forged source addresses.**  Take any reachable state with room in the pool and an address that is not
    blocked.  As many bad datagrams that name it as their source as make up six failures, from anywhere,
    block it; and for ninety seconds, whatever else happens, nothing it sends itself is looked at. -/
theorem spoofed_block {now : Int} {as : List (Act M)} (hrun : Runs.run step (.start now) as = some s)
    (hreading : s.receiving = none) (hroom : s.room = true) {addr : Addr} (hopen : s.isBlockAddr addr = false)
    {pkts : List (Packet M)} (hbad : ∀ pkt ∈ pkts, Bad pkt) (hne : pkts ≠ [])
    (hcount : strikes addr s.history + pkts.length = 6) :
    ∃ s', Runs.run step s (deliver addr pkts) = some s' ∧ ∀ as' t, Runs.run step s' as' = some t →
      t.now ≤ s.now + blockAddrExpireTime →
        t.isBlockAddr addr = true ∧ ∀ pkt, t.receiving = none → step t (.receive addr pkt) = some t := by
  induction pkts generalizing s as with
  | nil => exact absurd rfl hne
  | cons pkt pkts ih =>
    have hkept := kept hrun
    have hstep : Runs.run step s (deliver addr (pkt :: pkts)) = Runs.run step (s.refuse addr) (deliver addr pkts) :=
      run_deliver_cons (hbad pkt List.mem_cons_self) hreading hopen
    have hrun' : Runs.run step (.start now) (as ++ deliver addr [pkt]) = some (s.refuse addr) := by
      rw [Runs.run_append, hrun, Option.bind_some,
        run_deliver_cons (hbad pkt List.mem_cons_self) hreading hopen]
      rfl
    obtain ⟨hhistory, hnow, hreceiving, -⟩ := refuse_frame s addr
    rw [hstep]
    rw [List.length_cons] at hcount
    by_cases hlast : pkts = []
    · -- the sixth failure
      subst hlast
      refine ⟨s.refuse addr, rfl, fun as' t hrun'' hearly => ?_⟩
      have hstrikes : strikes addr s.history + 1 = 6 := hcount
      have hasks : (Happening.refused addr s.room s.now).asks addr s.history
          = some (s.now + blockAddrExpireTime) := by
        rw [Happening.asks, if_pos ⟨rfl, hroom, by rw [hstrikes]; decide⟩]
      have hblocked := blocked_until hrun' hhistory hasks hrun'' hearly
      refine ⟨hblocked, fun pkt' hidle => ?_⟩
      simp only [step, hidle, hblocked, if_true, ite_self]
    · -- one of the five before it
      have hpos : 0 < pkts.length := List.length_pos_iff.mpr hlast
      have hnever : ∀ n ≤ 5, ¬ Over n := by decide
      have hfew : ¬ Over (strikes addr s.history + 1) := hnever _ (by omega)
      have hmap : (s.refuse addr).blockAddrMap = s.blockAddrMap := by
        rw [State.refuse, if_neg]
        · rfl
        · rw [hkept.threatsOf]
          exact hfew
      obtain ⟨s', hs', hafter⟩ := ih hrun' hreceiving
        (by rw [State.room, hmap]; exact hroom) (by rw [State.isBlockAddr, hmap]; exact hopen)
        (fun pkt' hmem => hbad pkt' (List.mem_cons_of_mem _ hmem)) hlast
        (by rw [hhistory, strikes, if_pos rfl]; omega)
      rw [hnow] at hafter
      exact ⟨s', hs', hafter⟩

/-- Six forged datagrams keep a client out for ninety seconds. -/
theorem spoofed_block_sample :
    ∃ s', Runs.run step (.start 0) (deliver "192.0.2.7:5000" (List.replicate 6 sampleBad)) = some s' ∧
      ∀ as' t, Runs.run step s' as' = some t → t.now ≤ 0 + blockAddrExpireTime →
        t.isBlockAddr "192.0.2.7:5000" = true ∧
          ∀ pkt, t.receiving = none → step t (.receive "192.0.2.7:5000" pkt) = some t := by
  have hstart : Runs.run step (.start 0 : State Unit) [] = some (.start 0) := rfl
  refine spoofed_block hstart rfl (by decide) rfl ?_ (by decide) (by decide)
  intro pkt hmem
  rw [List.eq_of_mem_replicate hmem]
  exact ⟨by decide, .headerTypeDoesNotMatchDevice, by decide⟩

end OpenNHP.Server.BlockList
