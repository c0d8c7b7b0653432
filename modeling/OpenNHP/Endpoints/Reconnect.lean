/-
  The connections of an AC or a DB to its servers (`endpoints/ac/udpac.go`, `endpoints/db/udpdevice.go`: the two
  have the same routines).

  THE PROGRAM.  `sendMessageRoutine` dials an address that is not in the map and enters the connection; the
  connection's routine deletes the entry of its address at its end; `serverDiscovery` deletes the entry of an
  address it has failed to reach, and closes that connection.  The three share one lock, which each takes for one
  look at the map.

  THE SPECIFICATION.  The entry of a running connection stays until that connection ends (`Kept`), so that every
  running connection is found (`findable`).

  WHERE IT FAILS.  A connection that discovery has taken out comes to its own clean-up later, when a new
  connection to the address may be entered; the clean-up deletes that one (`newer_removed`).

  ASSEMBLY.  `kept_iff` says that an entry stays exactly in the runs in which no clean-up finds another
  connection's: `Inv` ties the entries to the connections, and a step that deletes an entry has one owner.
-/
import OpenNHP.Core.Device
import OpenNHP.Lib.Runs
import OpenNHP.Lib.Tables

namespace OpenNHP.Endpoints.Reconnect

open OpenNHP.Core

/-! ## Connections -/

/-- Where the routine of a connection stands: in its loop, before its clean-up, or behind it. -/
inductive Phase
  | running
  | leaving
  | cleaned
  | closed
  deriving DecidableEq

/-- `UdpConn`; `asked` says that discovery has taken it out of the map to close it. -/
structure UdpConn where
  remoteAddr : Addr
  phase : Phase
  asked : Bool

/-- A connection that was dialed runs. -/
def UdpConn.new (addr : Addr) : UdpConn where
  remoteAddr := addr
  phase := .running
  asked := false

/-- Its routine has not ended, and it has not been asked to close. -/
def UdpConn.Active (conn : UdpConn) : Prop := conn.phase = .running ∧ conn.asked = false

instance (conn : UdpConn) : Decidable conn.Active := by
  unfold UdpConn.Active
  infer_instance

/-- The connections there have been, and the map. -/
structure State where
  conns : List UdpConn
  remoteConnectionMap : AList fun _ : Addr => Nat
  /-- the address `sendMessageRoutine` did not find and is about to enter -/
  dialing : Option Addr

namespace State

/-- None yet. -/
def start : State where
  conns := []
  remoteConnectionMap := ∅
  dialing := none

variable (s : State)

/-- `newConnection`, and its entry. -/
def register (addr : Addr) : State where
  conns := s.conns ++ [.new addr]
  remoteConnectionMap := s.remoteConnectionMap.insert addr s.conns.length
  dialing := none

/-- A connection goes on. -/
def setPhase (c : Nat) (phase : Phase) : State :=
  { s with conns := s.conns.modify c fun conn => { conn with phase := phase } }

/-- The deferred `delete(a.remoteConnectionMap, addrStr)`. -/
def cleanUp (c : Nat) (addr : Addr) : State :=
  { s.setPhase c .cleaned with remoteConnectionMap := s.remoteConnectionMap.erase addr }

/-- "remove failed connection" of `serverDiscovery`. -/
def removeFailed (addr : Addr) (c : Nat) : State :=
  { s with
    conns := s.conns.modify c fun conn => { conn with asked := true }
    remoteConnectionMap := s.remoteConnectionMap.erase addr }

/-- A running connection. -/
def Active (c : Nat) : Prop := ∃ conn, s.conns[c]? = some conn ∧ conn.Active

end State

/-! ## Steps -/

/-- What the three routines do. -/
inductive Act
  /-- `sendMessageRoutine` looks an address up. -/
  | send (addr : Addr)
  | dialFailed
  | register
  /-- The routine of a connection leaves its loop: a timeout, a signal, or a closed queue. -/
  | leave (c : Nat)
  | cleanUp (c : Nat)
  | close (c : Nat)
  /-- `serverDiscovery` has failed to reach an address often enough. -/
  | removeFailed (addr : Addr)

/-- What an act leads to, if it can happen.  Where discovery finds no connection it closes a nil one, which
    ends the process. -/
def step (s : State) : Act → Option State
  | .send addr =>
    if s.dialing = none then
      match s.remoteConnectionMap.lookup addr with
      | some _ => some s
      | none => some { s with dialing := some addr }
    else none
  | .dialFailed => if s.dialing.isSome then some { s with dialing := none } else none
  | .register => s.dialing.map fun addr => s.register addr
  | .leave c =>
    match s.conns[c]? with
    | some conn => if conn.phase = .running then some (s.setPhase c .leaving) else none
    | none => none
  | .cleanUp c =>
    match s.conns[c]? with
    | some conn => if conn.phase = .leaving then some (s.cleanUp c conn.remoteAddr) else none
    | none => none
  | .close c =>
    match s.conns[c]? with
    | some conn => if conn.phase = .cleaned then some (s.setPhase c .closed) else none
    | none => none
  | .removeFailed addr =>
    match s.remoteConnectionMap.lookup addr with
    | some c => some (s.removeFailed addr c)
    | none => none

/-- What an act has led to. -/
def Led (s s' : State) : Act → Prop
  | .send addr =>
    s.dialing = none ∧ (s' = s ∧ (s.remoteConnectionMap.lookup addr).isSome ∨
      s.remoteConnectionMap.lookup addr = none ∧ s' = { s with dialing := some addr })
  | .dialFailed => s' = { s with dialing := none }
  | .register => ∃ addr, s.dialing = some addr ∧ s' = s.register addr
  | .leave c => s' = s.setPhase c .leaving
  | .cleanUp c => ∃ conn, s.conns[c]? = some conn ∧ conn.phase = .leaving ∧ s' = s.cleanUp c conn.remoteAddr
  | .close c => s' = s.setPhase c .closed
  | .removeFailed addr => ∃ c, s.remoteConnectionMap.lookup addr = some c ∧ s' = s.removeFailed addr c

/-- Each step is one of `Led`. -/
theorem led_of_step {s s' : State} {a : Act} (hstep : step s a = some s') : Led s s' a := by
  cases a with
  | send addr =>
    simp only [step] at hstep
    split_ifs at hstep with hdialing
    split at hstep
    · rename_i hfound
      obtain rfl := Option.some.inj hstep
      exact ⟨hdialing, .inl ⟨rfl, by rw [hfound]; rfl⟩⟩
    · rename_i hnone
      exact ⟨hdialing, .inr ⟨hnone, (Option.some.inj hstep).symm⟩⟩
  | dialFailed =>
    simp only [step] at hstep
    split_ifs at hstep
    exact (Option.some.inj hstep).symm
  | register =>
    obtain ⟨addr, hdialing, rfl⟩ := Option.map_eq_some_iff.mp hstep
    exact ⟨addr, hdialing, rfl⟩
  | leave c =>
    simp only [step] at hstep
    split at hstep
    · split_ifs at hstep
      exact (Option.some.inj hstep).symm
    · cases hstep
  | cleanUp c =>
    simp only [step] at hstep
    split at hstep
    · rename_i conn hconn
      split_ifs at hstep with hleaving
      exact ⟨conn, hconn, hleaving, (Option.some.inj hstep).symm⟩
    · cases hstep
  | close c =>
    simp only [step] at hstep
    split at hstep
    · split_ifs at hstep
      exact (Option.some.inj hstep).symm
    · cases hstep
  | removeFailed addr =>
    simp only [step] at hstep
    split at hstep
    · rename_i c hentry
      exact ⟨c, hentry, (Option.some.inj hstep).symm⟩
    · cases hstep

/-! ## Entries -/

/-- A running connection that is in the map stays there, unless the act ends it or asks it to close. -/
def Kept (s : State) (a : Act) : Prop :=
  ∀ s', step s a = some s' → ∀ addr c, s.remoteConnectionMap.lookup addr = some c → s'.Active c →
    s'.remoteConnectionMap.lookup addr = some c

/-- A clean-up finds no running connection under its address. -/
def OwnOrDone (s : State) : Act → Prop
  | .cleanUp c => ∀ conn, s.conns[c]? = some conn → conn.phase = .leaving →
    ∀ d, s.remoteConnectionMap.lookup conn.remoteAddr = some d → ¬s.Active d
  | _ => True

/-- An address that is being dialed is not in the map, and an entry is of a connection to its address. -/
structure Inv (s : State) : Prop where
  dialing : ∀ addr, s.dialing = some addr → s.remoteConnectionMap.lookup addr = none
  addressed : ∀ addr c, s.remoteConnectionMap.lookup addr = some c →
    ∃ conn, s.conns[c]? = some conn ∧ conn.remoteAddr = addr

/-- The invariant holds at the start, -/
theorem inv_start : Inv .start := by
  constructor
  · intro addr haddr
    cases haddr
  · intro addr c hentry
    cases hentry

/-- Connections that only change their phase or flag keep their address. -/
theorem addressed_modify {conns : List UdpConn} {f : UdpConn → UdpConn} {c d : Nat} {addr : Addr}
    (hf : ∀ conn, (f conn).remoteAddr = conn.remoteAddr)
    (h : ∃ conn, conns[d]? = some conn ∧ conn.remoteAddr = addr) :
    ∃ conn, (conns.modify c f)[d]? = some conn ∧ conn.remoteAddr = addr := by
  obtain ⟨conn, hconn, haddr⟩ := h
  rw [List.getElem?_modify, hconn, Option.map_eq_map, Option.map_some]
  split_ifs
  · exact ⟨f conn, rfl, (hf conn).trans haddr⟩
  · exact ⟨conn, rfl, haddr⟩

/-- where a connection goes on, -/
theorem Inv.setPhase {s : State} (h : Inv s) (c : Nat) (phase : Phase) : Inv (s.setPhase c phase) :=
  ⟨h.dialing, fun addr d hentry => addressed_modify (fun _ => rfl) (h.addressed addr d hentry)⟩

/-- Taking an entry out keeps the invariant. -/
theorem Inv.erase {s : State} (h : Inv s) (addr : Addr) :
    Inv { s with remoteConnectionMap := s.remoteConnectionMap.erase addr } := by
  constructor
  · intro addr' hdialing
    show (s.remoteConnectionMap.erase addr).lookup addr' = none
    rw [AList.lookup_erase_eq_ite]
    split_ifs
    · rfl
    · exact h.dialing addr' hdialing
  · intro addr' c hentry
    change (s.remoteConnectionMap.erase addr).lookup addr' = some c at hentry
    rw [AList.lookup_erase_eq_ite] at hentry
    split_ifs at hentry
    exact h.addressed addr' c hentry

/-- and behind each step. -/
theorem Inv.step {s s' : State} {a : Act} (h : Inv s) (hstep : step s a = some s') : Inv s' := by
  have hled := led_of_step hstep
  cases a with
  | send addr =>
    obtain ⟨-, ⟨rfl, -⟩ | ⟨hnone, rfl⟩⟩ := hled
    · exact h
    · refine ⟨fun addr' haddr' => ?_, h.addressed⟩
      obtain rfl := Option.some.inj haddr'
      exact hnone
  | dialFailed =>
    obtain rfl := hled
    exact ⟨nofun, h.addressed⟩
  | register =>
    obtain ⟨addr, hdialing, rfl⟩ := hled
    refine ⟨nofun, fun addr' c hentry => ?_⟩
    change (s.remoteConnectionMap.insert addr s.conns.length).lookup addr' = some c at hentry
    show ∃ conn, (s.conns ++ [UdpConn.new addr])[c]? = some conn ∧ conn.remoteAddr = addr'
    rw [AList.lookup_insert_eq_ite] at hentry
    split_ifs at hentry with haddr
    · obtain rfl := Option.some.inj hentry
      exact ⟨.new addr, List.getElem?_concat_length, haddr.symm⟩
    · obtain ⟨conn, hconn, hremote⟩ := h.addressed addr' c hentry
      exact ⟨conn, by rw [List.getElem?_append_left (List.getElem?_eq_some_iff.mp hconn).1]; exact hconn, hremote⟩
  | leave c =>
    obtain rfl := hled
    exact h.setPhase c .leaving
  | cleanUp c =>
    obtain ⟨conn, -, -, rfl⟩ := hled
    exact (h.setPhase c .cleaned).erase conn.remoteAddr
  | close c =>
    obtain rfl := hled
    exact h.setPhase c .closed
  | removeFailed addr =>
    obtain ⟨c, -, rfl⟩ := hled
    obtain ⟨hdialing, haddressed⟩ := h.erase addr
    exact ⟨hdialing, fun addr' d hentry => addressed_modify (fun _ => rfl) (haddressed addr' d hentry)⟩

/-! ## Running connections -/

/-- Changing one connection to one that is not running leaves the others. -/
theorem active_modify {conns : List UdpConn} {f : UdpConn → UdpConn} (hf : ∀ conn, ¬(f conn).Active)
    {c d : Nat} : (∃ conn, (conns.modify c f)[d]? = some conn ∧ conn.Active) ↔
      d ≠ c ∧ ∃ conn, conns[d]? = some conn ∧ conn.Active := by
  rw [List.getElem?_modify, Option.map_eq_map]
  constructor
  · rintro ⟨conn', hconn', hactive⟩
    obtain ⟨conn, hconn, rfl⟩ := Option.map_eq_some_iff.mp hconn'
    split_ifs at hactive with hcd
    · exact absurd hactive (hf conn)
    · exact ⟨fun heq => hcd heq.symm, conn, hconn, hactive⟩
  · rintro ⟨hne, conn, hconn, hactive⟩
    refine ⟨conn, ?_, hactive⟩
    rw [hconn, Option.map_some, if_neg fun heq => hne heq.symm]

/-- A connection that is ending is not active, -/
theorem not_active_phase (phase : Phase) (h : phase ≠ .running) (conn : UdpConn) :
    ¬UdpConn.Active { conn with phase := phase } := fun hactive => h hactive.1

/-- nor is one that was asked to. -/
theorem not_active_asked (conn : UdpConn) : ¬UdpConn.Active { conn with asked := true } :=
  fun hactive => absurd hactive.2 nofun

/-- A clean-up ends one connection, -/
theorem active_cleanUp (s : State) (c d : Nat) (addr : Addr) :
    (s.cleanUp c addr).Active d ↔ d ≠ c ∧ s.Active d :=
  active_modify (not_active_phase .cleaned nofun)

/-- and so does a failure to reach it. -/
theorem active_removeFailed (s : State) (c d : Nat) (addr : Addr) :
    (s.removeFailed addr c).Active d ↔ d ≠ c ∧ s.Active d :=
  active_modify not_active_asked

/-- A clean-up keeps the running connections exactly when it finds none. -/
theorem kept_cleanUp (s : State) (c : Nat) : Kept s (.cleanUp c) ↔ OwnOrDone s (.cleanUp c) := by
  constructor
  · intro h conn hconn hleaving d hentry hactive
    have hstep : step s (.cleanUp c) = some (s.cleanUp c conn.remoteAddr) := by
      simp only [step, hconn, hleaving, if_true]
    have hne : d ≠ c := by
      rintro rfl
      obtain ⟨conn', hconn', hrunning, -⟩ := hactive
      rw [← Option.some.inj (hconn.symm.trans hconn'), hleaving] at hrunning
      cases hrunning
    have hkept := h _ hstep conn.remoteAddr d hentry ((active_cleanUp s c d _).mpr ⟨hne, hactive⟩)
    change (s.remoteConnectionMap.erase conn.remoteAddr).lookup conn.remoteAddr = some d at hkept
    rw [AList.lookup_erase] at hkept
    cases hkept
  · intro h s' hstep addr d hentry hactive
    obtain ⟨conn, hconn, hleaving, rfl⟩ := led_of_step hstep
    obtain ⟨-, hactive⟩ := (active_cleanUp s c d _).mp hactive
    show (s.remoteConnectionMap.erase conn.remoteAddr).lookup addr = some d
    -- an entry under the address that is deleted would be of a running connection
    rw [AList.lookup_erase_eq_ite, if_neg]
    · exact hentry
    · rintro rfl
      exact h conn hconn hleaving d hentry hactive

/-- The other acts keep every running connection. -/
theorem kept_step {s : State} (hs : Inv s) (a : Act) : Kept s a ↔ OwnOrDone s a := by
  cases a with
  | cleanUp c => exact kept_cleanUp s c
  | send addr' =>
    refine iff_of_true (fun s' hstep addr c hentry _ => ?_) trivial
    obtain ⟨-, ⟨rfl, -⟩ | ⟨-, rfl⟩⟩ := led_of_step hstep <;> exact hentry
  | dialFailed =>
    refine iff_of_true (fun s' hstep addr c hentry _ => ?_) trivial
    obtain rfl := led_of_step hstep
    exact hentry
  | register =>
    refine iff_of_true (fun s' hstep addr c hentry _ => ?_) trivial
    obtain ⟨addr', hdialing, rfl⟩ := led_of_step hstep
    show (s.remoteConnectionMap.insert addr' s.conns.length).lookup addr = some c
    -- what is dialed was not in the map when the dialing began, and nothing else enters
    rw [AList.lookup_insert_ne]
    · exact hentry
    · rintro rfl
      exact absurd (hentry.symm.trans (hs.dialing addr hdialing)) nofun
  | leave c' =>
    refine iff_of_true (fun s' hstep addr c hentry _ => ?_) trivial
    obtain rfl := led_of_step hstep
    exact hentry
  | close c' =>
    refine iff_of_true (fun s' hstep addr c hentry _ => ?_) trivial
    obtain rfl := led_of_step hstep
    exact hentry
  | removeFailed addr' =>
    refine iff_of_true (fun s' hstep addr c hentry hactive => ?_) trivial
    obtain ⟨c', hentry', rfl⟩ := led_of_step hstep
    obtain ⟨hne, -⟩ := (active_removeFailed s c' c addr').mp hactive
    show (s.remoteConnectionMap.erase addr').lookup addr = some c
    rw [AList.lookup_erase_eq_ite, if_neg]
    · exact hentry
    · rintro rfl
      exact hne (Option.some.inj (hentry.symm.trans hentry'))

/-- Along a run, every running connection that is in the map stays there exactly when no clean-up finds one
    under its address. -/
theorem kept_iff (acts : List Act) :
    Runs.Steps step Kept .start acts ↔ Runs.Steps step OwnOrDone .start acts := by
  apply Runs.steps_congr (I := Inv)
  · exact fun s a hs => kept_step hs a
  · exact fun s a s' hs _ hstep => hs.step hstep
  · exact inv_start

/-! ## Finding a connection -/

/-- Every running connection is in the map under its address. -/
def State.Findable (s : State) : Prop :=
  ∀ (c : Nat) conn, s.conns[c]? = some conn → conn.Active →
    s.remoteConnectionMap.lookup conn.remoteAddr = some c

/-- A running connection was there before, unless it has just been entered. -/
theorem active_step {s s' : State} {a : Act} (hstep : step s a = some s') {c : Nat} {conn : UdpConn}
    (hconn : s'.conns[c]? = some conn) (hactive : conn.Active) :
    s.conns[c]? = some conn ∨ a = .register ∧ s.dialing = some conn.remoteAddr ∧ c = s.conns.length := by
  -- A step that marks a connection as over makes no connection run.
  have hmodify : ∀ {f : UdpConn → UdpConn} {d : Nat}, (∀ conn, ¬(f conn).Active) →
      (s.conns.modify d f)[c]? = some conn → s.conns[c]? = some conn := by
    intro f d hf hget
    rw [List.getElem?_modify, Option.map_eq_map] at hget
    obtain ⟨conn', hconn', rfl⟩ := Option.map_eq_some_iff.mp hget
    split_ifs at hactive ⊢ with hdc
    · exact absurd hactive (hf conn')
    · exact hconn'
  have hled := led_of_step hstep
  cases a with
  | send addr =>
    obtain ⟨-, ⟨rfl, -⟩ | ⟨-, rfl⟩⟩ := hled <;> exact .inl hconn
  | dialFailed =>
    obtain rfl := hled
    exact .inl hconn
  | register =>
    obtain ⟨addr, hdialing, rfl⟩ := hled
    change (s.conns ++ [UdpConn.new addr])[c]? = some conn at hconn
    rw [List.getElem?_append] at hconn
    split_ifs at hconn with hlt
    · exact .inl hconn
    · obtain ⟨hlast, hnew⟩ := List.getElem?_eq_some_iff.mp hconn
      rw [List.getElem_singleton] at hnew
      rw [List.length_singleton] at hlast
      refine .inr ⟨rfl, ?_, by omega⟩
      rw [← hnew]
      exact hdialing
  | leave d =>
    obtain rfl := hled
    exact .inl (hmodify (not_active_phase .leaving nofun) hconn)
  | cleanUp d =>
    obtain ⟨conn', -, -, rfl⟩ := hled
    exact .inl (hmodify (not_active_phase .cleaned nofun) hconn)
  | close d =>
    obtain rfl := hled
    exact .inl (hmodify (not_active_phase .closed nofun) hconn)
  | removeFailed addr =>
    obtain ⟨c', -, rfl⟩ := hled
    exact .inl (hmodify not_active_asked hconn)

/-- An act that keeps the entries of running connections keeps every running connection findable. -/
theorem State.Findable.step {s s' : State} {a : Act} (h : s.Findable) (ha : Kept s a)
    (hstep : step s a = some s') : s'.Findable := by
  intro c conn hconn hactive
  rcases active_step hstep hconn hactive with hold | ⟨rfl, hdialing, rfl⟩
  · exact ha s' hstep conn.remoteAddr c (h c conn hold hactive) ⟨conn, hconn, hactive⟩
  · obtain ⟨addr, hdialing', rfl⟩ := Option.map_eq_some_iff.mp hstep
    obtain rfl := Option.some.inj (hdialing.symm.trans hdialing')
    exact AList.lookup_insert s.remoteConnectionMap

/-- In the runs in which no clean-up finds a running connection, every running connection is found under its
    address. -/
theorem findable {acts : List Act} (hacts : Runs.Steps step OwnOrDone .start acts) {t : State}
    (hrun : Runs.run step .start acts = some t) : t.Findable :=
  (Runs.run_invariant_of (I := fun s => Inv s ∧ s.Findable)
    (fun _ a _ ha hs hstep => ⟨hs.1.step hstep, hs.2.step ((kept_step hs.1 a).mpr ha) hstep⟩) hacts
    ⟨inv_start, fun _ _ hget => absurd hget nofun⟩ hrun).2

/-- Discovery takes a connection out; the next message dials the address again; the routine of the first
    connection comes to its clean-up. -/
def redialed : List Act :=
  [.send "10.0.0.9:62206", .register, .removeFailed "10.0.0.9:62206", .send "10.0.0.9:62206", .register,
    .leave 0, .cleanUp 0]

/-- The second connection is running, and is not found any more. -/
theorem newer_removed : (∃ t, Runs.run step .start redialed = some t ∧ t.Active 1 ∧
    t.remoteConnectionMap.lookup "10.0.0.9:62206" = none) ∧ ¬Runs.Steps step Kept .start redialed := by
  have hremoved : ∃ t, Runs.run step .start redialed = some t ∧
      t.conns[1]? = some (.new "10.0.0.9:62206") ∧
      t.remoteConnectionMap.lookup "10.0.0.9:62206" = none := ⟨_, rfl, rfl, by decide⟩
  obtain ⟨t, hrun, hconn, hgone⟩ := hremoved
  have hactive : (UdpConn.new "10.0.0.9:62206").Active := ⟨rfl, rfl⟩
  refine ⟨⟨t, hrun, ⟨_, hconn, hactive⟩, hgone⟩, fun hkept => ?_⟩
  have hfindable : t.Findable := Runs.run_invariant_of (I := State.Findable)
    (fun _ _ _ ha hs hstep => hs.step ha hstep) hkept (fun _ _ hget => absurd hget nofun) hrun
  have hentry := hfindable 1 _ hconn hactive
  exact absurd (hgone.symm.trans hentry) nofun

end OpenNHP.Endpoints.Reconnect
