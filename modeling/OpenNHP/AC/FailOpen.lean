/-
  When the AC lets everything in (`maintainServerConnectionRoutine` and `serverDiscovery` of
  `endpoints/ac/udpac.go`, `nhp/utils/iptables.go`).

  1. **The program.**  For each server there is a routine that reports to it again and again, and shares a flag
     with a status check: up after three failures in a row, down after a success.  A check that finds all flags up
     has iptables accept all input; one that does not has it stop.  The routines and the check of one list of
     servers are a cycle; a change of the list is to end it and to begin the next.

  2. **The property.**  `FailsOpenOnly`: all input is accepted only while every server of the present list has
     failed three times in a row, in the attempts that came to an end.

  3. **Where it fails.**  A raised flag does stand for three failures in a row (`Inv.failedThrice`).  But a cycle
     without servers has no flag that is down, so its check accepts everything (`open_without_servers`); and a list
     that is read from the configuration again begins no cycle: the check goes on with the servers it had.

  4. **The result.**  `fail_open_iff` says in which runs all input is accepted only where it should be: those in
     which no check of an empty cycle comes and the list that is checked is up to date (`UpToDate`).  The invariant
     counts, for each routine, the failures at the head of its attempts (`Tallied`); every step keeps it
     (`Inv.step`).
-/
import OpenNHP.AC.AccessControl
import OpenNHP.Lib.Runs
import OpenNHP.Lib.Tables

namespace OpenNHP.AC.FailOpen

/-- `ServerDiscoveryRetryBeforeFail`. -/
def serverDiscoveryRetryBeforeFail : Nat := 3

/-! ## The state -/

/-- A server as it is configured. -/
structure UdpPeer where
  pubKeyBase64 : String
  host : String
  deriving DecidableEq, Repr

/-- Where a discovery routine stands: before its first attempt, between two, waiting for an answer, or
    returned. -/
inductive Phase
  | starting
  | idle
  | waiting
  | ended
  deriving DecidableEq, Repr

/-- A `serverDiscovery` routine; `serverFailCount` is the flag it shares with the check of its cycle. -/
structure Discovery where
  cycle : Nat
  server : UdpPeer
  phase : Phase
  failCount : Nat
  serverFailCount : Bool
  deriving DecidableEq, Repr

/-- The routine of a server, as it is started. -/
def Discovery.new (cycle : Nat) (server : UdpPeer) : Discovery where
  cycle := cycle
  server := server
  phase := .starting
  failCount := 0
  serverFailCount := false

/-- What the routines of one list share: `quit` is closed, and the check has returned. -/
structure Cycle where
  quit : Bool
  checkEnded : Bool
  deriving DecidableEq, Repr

/-- An attempt to reach a server, with what came of it. -/
structure Attempt where
  routine : Nat
  server : UdpPeer
  failed : Bool
  deriving DecidableEq, Repr

/-- The AC, its routines and its cycles; routines of a cycle that has ended may still run. -/
structure State where
  filterMode : Int
  running : Bool
  serverPeerMap : AList fun _ : String => UdpPeer
  serverMapUpdated : Bool
  routines : List Discovery
  cycles : List Cycle
  /-- the attempts that came to an end, the latest first -/
  attempts : List Attempt
  acceptInputMode : Bool
  /-- `maintainServerConnectionRoutine` has returned -/
  exited : Bool

/-- The map of a list of servers, by their public keys. -/
def peerMap (peers : List UdpPeer) : AList fun _ : String => UdpPeer :=
  peers.foldl (fun m p => m.insert p.pubKeyBase64 p) ∅

namespace State

variable (s : State)

/-- The servers of the present list. -/
def servers : List UdpPeer := s.serverPeerMap.entries.map Sigma.snd

/-- The routines of a cycle. -/
def routinesOf (c : Nat) : List Discovery := s.routines.filter (·.cycle = c)

/-- The sum over the flags of a cycle. -/
def totalFail (c : Nat) : Nat := (s.routinesOf c).countP (·.serverFailCount)

/-- `iptables.ResetAllInput`. -/
def resetAllInput : State := { s with acceptInputMode := false }

/-- `iptables.AcceptAllInput`. -/
def acceptAllInput : State := { s with acceptInputMode := true }

/-- A turn of the loop of `maintainServerConnectionRoutine`: a routine for each server, and a check. -/
def launch : State :=
  { s with
    serverMapUpdated := false
    routines := s.routines ++ s.servers.map (.new s.cycles.length)
    cycles := s.cycles.map (fun cycle => { cycle with quit := true }) ++ [⟨false, false⟩] }

/-- The AC behind `Start`, with the first turn. -/
def start (filterMode : Int) (peers : List UdpPeer) : State :=
  launch {
    filterMode := filterMode
    running := true
    serverPeerMap := peerMap peers
    serverMapUpdated := false
    routines := []
    cycles := []
    attempts := []
    acceptInputMode := false
    exited := false }

/-- The status check of a cycle. -/
def check (c : Nat) : State :=
  if s.totalFail c < (s.routinesOf c).length then
    if s.filterMode = filterModeIPTables then s.resetAllInput else s
  else
    if s.filterMode = filterModeIPTables then s.acceptAllInput else s

/-- A routine moves on. -/
def setPhase (r : Nat) (d : Discovery) (phase : Phase) : State :=
  { s with routines := s.routines.set r { d with phase := phase } }

/-- An attempt has come to its end, and the routine is now as `d` says. -/
def finish (r : Nat) (d : Discovery) (failed : Bool) : State :=
  { s with
    routines := s.routines.set r d
    attempts := ⟨r, d.server, failed⟩ :: s.attempts }

end State

/-- The routine behind a failed attempt. -/
def Discovery.failed (d : Discovery) : Discovery :=
  { d with
    phase := .idle
    failCount := d.failCount + 1
    serverFailCount :=
      if (d.failCount + 1) % serverDiscoveryRetryBeforeFail = 0 then true else d.serverFailCount }

/-- A routine whose attempt was answered. -/
def Discovery.succeeded (d : Discovery) : Discovery :=
  { d with phase := .idle, failCount := 0, serverFailCount := false }

/-! ## Steps -/

/-- What a routine or a check does next, or what comes from outside. -/
inductive Act
  /-- A configuration is loaded again. -/
  | updateServerPeers (peers : List UdpPeer)
  | addServerPeer (server : UdpPeer)
  | removeServerPeer (serverKey : String)
  /-- The routine takes `serverMapUpdated`, closes the channels of the cycle and begins the next. -/
  | launch
  /-- `SendAddr` of a routine's server is nil. -/
  | nilAddr (r : Nat)
  | send (r : Nat)
  /-- The answer to an attempt; `found` says that the connection is in the map when it is looked up then. -/
  | succeed (r : Nat) (found : Bool)
  | fail (r : Nat) (found : Bool)
  /-- A routine returns: the AC is stopped, or the cycle has ended. -/
  | leave (r : Nat)
  | check (c : Nat)
  | leaveCheck (c : Nat)
  | stop
  /-- `maintainServerConnectionRoutine` returns, behind all routines. -/
  | exit
  deriving DecidableEq

/-- The channel of a cycle is closed. -/
def State.hasQuit (s : State) (c : Nat) : Bool := (s.cycles[c]?).any (·.quit)

/-- What an act leads to, if it can happen.  Where a connection is looked up and not found, it is dereferenced
    all the same, which ends the process. -/
def step (s : State) : Act → Option State
  | .updateServerPeers peers => some { s with serverPeerMap := peerMap peers }
  | .addServerPeer server =>
    some { s with serverPeerMap := s.serverPeerMap.insert server.pubKeyBase64 server, serverMapUpdated := true }
  | .removeServerPeer serverKey =>
    match s.serverPeerMap.lookup serverKey with
    | some _ => some { s with serverPeerMap := s.serverPeerMap.erase serverKey, serverMapUpdated := true }
    | none => some s
  | .launch => if s.serverMapUpdated ∧ s.exited = false then some s.launch else none
  | .nilAddr r =>
    match s.routines[r]? with
    | some d => if d.phase = .starting then some (s.setPhase r d .ended) else none
    | none => none
  | .send r =>
    match s.routines[r]? with
    | some d =>
      if (d.phase = .starting ∨ d.phase = .idle) ∧ s.running then some (s.setPhase r d .waiting) else none
    | none => none
  | .succeed r found =>
    match s.routines[r]? with
    | some d => if d.phase = .waiting ∧ found then some (s.finish r d.succeeded false) else none
    | none => none
  | .fail r found =>
    match s.routines[r]? with
    | some d =>
      if d.phase = .waiting ∧ ((d.failCount + 1) % serverDiscoveryRetryBeforeFail = 0 → found) then
        some (s.finish r d.failed true)
      else none
    | none => none
  | .leave r =>
    match s.routines[r]? with
    | some d =>
      if (d.phase = .starting ∨ d.phase = .idle) ∧ (s.running = false ∨ s.hasQuit d.cycle) then
        some (s.setPhase r d .ended)
      else none
    | none => none
  | .check c =>
    match s.cycles[c]? with
    | some cycle => if cycle.checkEnded then none else some (s.check c)
    | none => none
  | .leaveCheck c =>
    match s.cycles[c]? with
    | some cycle =>
      if s.running = false ∨ cycle.quit then
        some { s with cycles := s.cycles.set c { cycle with checkEnded := true } }
      else none
    | none => none
  | .stop => some { s with running := false }
  | .exit =>
    if s.running = false ∧ s.routines.all (·.phase = .ended) ∧ s.cycles.all (·.checkEnded) then
      some {
        s with
        exited := true
        acceptInputMode := if s.filterMode = filterModeIPTables then false else s.acceptInputMode }
    else none

/-! ## The decision -/

namespace State

variable (s : State)

/-- The latest attempts to reach a server, as many as make it fail. -/
def latest (server : UdpPeer) : List Attempt :=
  (s.attempts.filter (·.server = server)).take serverDiscoveryRetryBeforeFail

/-- They were that many, and all failed. -/
def FailedThrice (server : UdpPeer) : Prop :=
  (s.latest server).length = serverDiscoveryRetryBeforeFail ∧ ∀ a ∈ s.latest server, a.failed = true

/-- A server is configured, and all of them have failed. -/
def AllFailed : Prop := s.servers ≠ [] ∧ ∀ server ∈ s.servers, s.FailedThrice server

/-- The check of the cycle executes `AcceptAllInput`. -/
def Accepts (c : Nat) : Prop :=
  s.filterMode = filterModeIPTables ∧ ¬ s.totalFail c < (s.routinesOf c).length

/-- The latest attempts to reach a server were those of the cycle's routine. -/
def Watched (c : Nat) (server : UdpPeer) : Prop :=
  ∃ r d, s.routines[r]? = some d ∧ d.cycle = c ∧ d.server = server ∧ ∀ a ∈ s.latest server, a.routine = r

end State

/-- A check executes `AcceptAllInput` only where all servers have failed, and otherwise leaves
    `AcceptInputMode` false. -/
def FailsOpenOnly (s : State) : Act → Prop
  | .check c => ∀ s', step s (.check c) = some s' →
    (s.Accepts c → s.AllFailed) ∧ (¬ s.AllFailed → s'.acceptInputMode = false)
  | _ => True

/-- A check that finds no flag down is for a list that is not empty, and its cycle has watched the servers of
    the list, or else these had failed as well. -/
def UpToDate (s : State) : Act → Prop
  | .check c => (step s (.check c)).isSome → s.Accepts c →
    s.servers ≠ [] ∧ ∀ server ∈ s.servers, s.Watched c server ∨ s.FailedThrice server
  | _ => True

/-! ## What the flags stand for -/

/-- What a routine has counted are its latest attempts. -/
structure Tallied (attempts : List Attempt) (r : Nat) (d : Discovery) : Prop where
  counted : d.failCount ≤ (attempts.filter (·.routine = r)).length
  failed : ∀ a ∈ (attempts.filter (·.routine = r)).take d.failCount, a.failed = true
  flag : d.serverFailCount = true → serverDiscoveryRetryBeforeFail ≤ d.failCount

/-- What holds in every state that is reached. -/
structure Inv (s : State) : Prop where
  attempts : ∀ a ∈ s.attempts, ∃ d, s.routines[a.routine]? = some d ∧ d.server = a.server
  tallied : ∀ r d, s.routines[r]? = some d → Tallied s.attempts r d
  filter : s.filterMode ≠ filterModeIPTables → s.acceptInputMode = false

/-- A new routine has tried nothing. -/
theorem Tallied.new (attempts : List Attempt) (r c : Nat) (server : UdpPeer) :
    Tallied attempts r (.new c server) where
  counted := Nat.zero_le _
  failed _ ha := absurd ha List.not_mem_nil
  flag hflag := absurd hflag Bool.false_ne_true

/-- The count does not depend on where the routine stands. -/
theorem Tallied.setPhase {attempts : List Attempt} {r : Nat} {d : Discovery} (h : Tallied attempts r d)
    (phase : Phase) : Tallied attempts r { d with phase := phase } := ⟨h.counted, h.failed, h.flag⟩

/-- An attempt of another routine. -/
theorem Tallied.cons_ne {attempts : List Attempt} {r : Nat} {d : Discovery} (h : Tallied attempts r d)
    {a : Attempt} (ha : a.routine ≠ r) : Tallied (a :: attempts) r d := by
  have hsame : (a :: attempts).filter (·.routine = r) = attempts.filter (·.routine = r) :=
    List.filter_cons_of_neg (by simpa using ha)
  constructor
  · rw [hsame]
    exact h.counted
  · rw [hsame]
    exact h.failed
  · exact h.flag

/-- A failure is one more of those counted. -/
theorem Tallied.fail {attempts : List Attempt} {r : Nat} {d : Discovery} (h : Tallied attempts r d) :
    Tallied (⟨r, d.server, true⟩ :: attempts) r d.failed := by
  have hcons : (⟨r, d.server, true⟩ :: attempts : List Attempt).filter (·.routine = r) =
      ⟨r, d.server, true⟩ :: attempts.filter (·.routine = r) := List.filter_cons_of_pos (by simp)
  constructor
  · rw [hcons]
    exact Nat.succ_le_succ h.counted
  · rw [hcons]
    intro a ha
    rcases List.mem_cons.mp ha with rfl | hold
    · rfl
    · exact h.failed a hold
  · show (if (d.failCount + 1) % serverDiscoveryRetryBeforeFail = 0 then true else d.serverFailCount) = true →
      serverDiscoveryRetryBeforeFail ≤ d.failCount + 1
    split_ifs with hthird
    · -- a multiple of three that is not zero
      intro _
      unfold serverDiscoveryRetryBeforeFail at hthird ⊢
      omega
    · intro hflag
      exact Nat.le_succ_of_le (h.flag hflag)

/-- A success puts the count back. -/
theorem Tallied.succeed (attempts : List Attempt) (r : Nat) (d : Discovery) :
    Tallied attempts r d.succeeded where
  counted := Nat.zero_le _
  failed _ ha := absurd ha List.not_mem_nil
  flag hflag := absurd hflag Bool.false_ne_true

/-- The next cycle begins. -/
theorem inv_launch {s : State} (h : Inv s) : Inv s.launch := by
  refine ⟨fun a ha => ?_, fun r d hd => ?_, h.filter⟩
  · obtain ⟨d, hd, hserver⟩ := h.attempts a ha
    exact ⟨d, (List.getElem?_append_left (List.getElem?_eq_some_iff.mp hd).1).trans hd, hserver⟩
  · change (s.routines ++ s.servers.map (.new s.cycles.length))[r]? = some d at hd
    rw [List.getElem?_append] at hd
    split_ifs at hd with hlt
    · exact h.tallied r d hd
    · -- a routine of the new cycle
      rw [List.getElem?_map] at hd
      obtain ⟨server, -, rfl⟩ := Option.map_eq_some_iff.mp hd
      exact .new _ _ _ _

/-- The AC starts with a list. -/
theorem inv_start (filterMode : Int) (peers : List UdpPeer) : Inv (.start filterMode peers) := by
  apply inv_launch
  constructor
  · intro a ha
    exact absurd ha List.not_mem_nil
  · intro r d hd
    exact absurd hd nofun
  · intro _
    rfl

/-- A routine moves on. -/
theorem Inv.setPhase {s : State} (h : Inv s) {r : Nat} {d : Discovery} (hd : s.routines[r]? = some d)
    (phase : Phase) : Inv (s.setPhase r d phase) := by
  refine ⟨fun a ha => ?_, fun r' d' hd' => ?_, h.filter⟩
  · obtain ⟨e, he, hserver⟩ := h.attempts a ha
    show ∃ e, (s.routines.set r { d with phase := phase })[a.routine]? = some e ∧ e.server = a.server
    by_cases hr : a.routine = r
    · rw [hr] at he ⊢
      obtain rfl := Option.some.inj (hd.symm.trans he)
      exact ⟨_, List.getElem?_set_self (List.getElem?_eq_some_iff.mp hd).1, hserver⟩
    · exact ⟨e, (List.getElem?_set_ne (Ne.symm hr)).trans he, hserver⟩
  · rcases Tables.getElem?_set_cases hd' with ⟨rfl, rfl⟩ | hold
    · exact (h.tallied _ d hd).setPhase phase
    · exact h.tallied r' d' hold

/-- A routine that has ended an attempt, and counts it. -/
theorem Inv.finish {s : State} (h : Inv s) {r : Nat} {d d' : Discovery} {failed : Bool}
    (hd : s.routines[r]? = some d) (hserver : d'.server = d.server)
    (htallied : Tallied (⟨r, d'.server, failed⟩ :: s.attempts) r d') : Inv (s.finish r d' failed) := by
  have hlt : r < s.routines.length := (List.getElem?_eq_some_iff.mp hd).1
  refine ⟨fun a ha => ?_, fun r' e he => ?_, h.filter⟩
  · show ∃ e, (s.routines.set r d')[a.routine]? = some e ∧ e.server = a.server
    rcases List.mem_cons.mp ha with rfl | hold
    · exact ⟨d', List.getElem?_set_self hlt, rfl⟩
    · obtain ⟨e, he, hserver'⟩ := h.attempts a hold
      by_cases hr : a.routine = r
      · rw [hr] at he ⊢
        obtain rfl := Option.some.inj (hd.symm.trans he)
        exact ⟨d', List.getElem?_set_self hlt, hserver.trans hserver'⟩
      · exact ⟨e, (List.getElem?_set_ne (Ne.symm hr)).trans he, hserver'⟩
  · change (s.routines.set r d')[r']? = some e at he
    by_cases hr : r = r'
    · subst hr
      rw [List.getElem?_set_self hlt] at he
      obtain rfl := Option.some.inj he
      exact htallied
    · rw [List.getElem?_set_ne hr] at he
      exact (h.tallied r' e he).cons_ne hr

/-- A change of the list of servers, of the check or of the cycles leaves the routines and their attempts. -/
theorem Inv.of_eq {s s' : State} (h : Inv s) (hroutines : s'.routines = s.routines)
    (hattempts : s'.attempts = s.attempts)
    (hfilter : s'.filterMode ≠ filterModeIPTables → s'.acceptInputMode = false) : Inv s' := by
  refine ⟨?_, ?_, hfilter⟩
  · rw [hroutines, hattempts]
    exact h.attempts
  · rw [hroutines, hattempts]
    exact h.tallied

/-- The status check of a cycle. -/
theorem Inv.check {s : State} (h : Inv s) (c : Nat) : Inv (s.check c) := by
  unfold State.check
  split_ifs with hfail hmode hmode
  · exact h.of_eq rfl rfl fun _ => rfl
  · exact h
  · exact h.of_eq rfl rfl fun hne => absurd hmode hne
  · exact h

/-- Every step keeps the invariant. -/
theorem Inv.step {s s' : State} {a : Act} (h : Inv s) (hstep : step s a = some s') : Inv s' := by
  -- The launch and the two reports touch the tally, and the check the filter; the other steps change what the
  -- invariant does not read.
  cases a with
  | updateServerPeers peers =>
    obtain rfl := Option.some.inj hstep
    exact h.of_eq rfl rfl h.filter
  | addServerPeer server =>
    obtain rfl := Option.some.inj hstep
    exact h.of_eq rfl rfl h.filter
  | removeServerPeer serverKey =>
    simp only [FailOpen.step] at hstep
    split at hstep <;> obtain rfl := Option.some.inj hstep
    · exact h.of_eq rfl rfl h.filter
    · exact h
  | launch =>
    simp only [FailOpen.step] at hstep
    split_ifs at hstep
    obtain rfl := Option.some.inj hstep
    exact inv_launch h
  | nilAddr r =>
    simp only [FailOpen.step] at hstep
    split at hstep
    · rename_i d hd
      split_ifs at hstep
      obtain rfl := Option.some.inj hstep
      exact h.setPhase hd .ended
    · cases hstep
  | send r =>
    simp only [FailOpen.step] at hstep
    split at hstep
    · rename_i d hd
      split_ifs at hstep
      obtain rfl := Option.some.inj hstep
      exact h.setPhase hd .waiting
    · cases hstep
  | succeed r found =>
    simp only [FailOpen.step] at hstep
    split at hstep
    · rename_i d hd
      split_ifs at hstep
      obtain rfl := Option.some.inj hstep
      exact h.finish hd rfl (.succeed _ _ _)
    · cases hstep
  | fail r found =>
    simp only [FailOpen.step] at hstep
    split at hstep
    · rename_i d hd
      split_ifs at hstep
      obtain rfl := Option.some.inj hstep
      exact h.finish hd rfl (h.tallied r d hd).fail
    · cases hstep
  | leave r =>
    simp only [FailOpen.step] at hstep
    split at hstep
    · rename_i d hd
      split_ifs at hstep
      obtain rfl := Option.some.inj hstep
      exact h.setPhase hd .ended
    · cases hstep
  | check c =>
    simp only [FailOpen.step] at hstep
    split at hstep
    · split_ifs at hstep
      obtain rfl := Option.some.inj hstep
      exact h.check c
    · cases hstep
  | leaveCheck c =>
    simp only [FailOpen.step] at hstep
    split at hstep
    · split_ifs at hstep
      obtain rfl := Option.some.inj hstep
      exact h.of_eq rfl rfl h.filter
    · cases hstep
  | stop =>
    obtain rfl := Option.some.inj hstep
    exact h.of_eq rfl rfl h.filter
  | exit =>
    simp only [FailOpen.step] at hstep
    split_ifs at hstep with _ hmode
    · obtain rfl := Option.some.inj hstep
      exact h.of_eq rfl rfl fun _ => rfl
    · obtain rfl := Option.some.inj hstep
      exact h.of_eq rfl rfl h.filter

/-! ## When all input is accepted -/

section Accepting

variable {s : State} {c : Nat}

/-- A check that accepts has found no flag of its cycle down. -/
theorem State.Accepts.flag (h : s.Accepts c) {r : Nat} {d : Discovery} (hd : s.routines[r]? = some d)
    (hcycle : d.cycle = c) : d.serverFailCount = true := by
  have hmem : d ∈ s.routinesOf c :=
    List.mem_filter.mpr ⟨List.mem_of_getElem? hd, decide_eq_true hcycle⟩
  have hcount : s.totalFail c = (s.routinesOf c).length :=
    Nat.le_antisymm List.countP_le_length (Nat.le_of_not_lt h.2)
  exact List.countP_eq_length.mp hcount d hmem

/-- A routine whose flag is up has failed three times in a row. -/
theorem Tallied.latest {attempts : List Attempt} {r : Nat} {d : Discovery} (h : Tallied attempts r d)
    (hflag : d.serverFailCount = true) :
    ((attempts.filter (·.routine = r)).take serverDiscoveryRetryBeforeFail).length =
        serverDiscoveryRetryBeforeFail ∧
      ∀ a ∈ (attempts.filter (·.routine = r)).take serverDiscoveryRetryBeforeFail, a.failed = true := by
  have hthree := h.flag hflag
  constructor
  · rw [List.length_take]
    exact Nat.min_eq_left (hthree.trans h.counted)
  · intro a ha
    exact h.failed a ((List.take_sublist_take_left hthree).subset ha)

/-- A server that the cycle has watched has failed where the check accepts. -/
theorem Inv.failedThrice (h : Inv s) (hc : s.Accepts c) {server : UdpPeer} (hwatched : s.Watched c server) :
    s.FailedThrice server := by
  obtain ⟨r, d, hd, hcycle, hserver, hlatest⟩ := hwatched
  have hsame : (s.attempts.filter (·.routine = r)).take serverDiscoveryRetryBeforeFail = s.latest server := by
    apply Tables.take_filter_of_forall
    · -- an attempt of the routine is one to its server
      intro a ha har
      obtain ⟨e, he, heserver⟩ := h.attempts a ha
      rw [of_decide_eq_true har, hd] at he
      obtain rfl := Option.some.inj he
      exact decide_eq_true (heserver.symm.trans hserver)
    · exact fun a ha => decide_eq_true (hlatest a ha)
  have hrow := (h.tallied r d hd).latest (hc.flag hd hcycle)
  rw [hsame] at hrow
  exact hrow

/-- What a check leaves behind. -/
theorem check_acceptInputMode (h : Inv s) (hc : ¬ s.Accepts c) : (s.check c).acceptInputMode = false := by
  unfold State.check
  split_ifs with hfail hmode hmode
  · rfl
  · exact h.filter hmode
  · exact absurd ⟨hmode, hfail⟩ hc
  · exact h.filter hmode

/-- A check is right exactly where it is up to date. -/
theorem failsOpenOnly_iff (h : Inv s) (a : Act) : FailsOpenOnly s a ↔ UpToDate s a := by
  cases a with
  | check c =>
    constructor
    · intro hright hstep hc
      obtain ⟨s', hs'⟩ := Option.isSome_iff_exists.mp hstep
      obtain ⟨hne, hall⟩ := (hright s' hs').1 hc
      exact ⟨hne, fun server hserver => .inr (hall server hserver)⟩
    · intro hupToDate s' hs'
      have hallFailed : s.Accepts c → s.AllFailed := by
        intro hc
        obtain ⟨hne, hall⟩ := hupToDate (Option.isSome_of_eq_some hs') hc
        refine ⟨hne, fun server hserver => ?_⟩
        rcases hall server hserver with hwatched | hfailed
        · exact h.failedThrice hc hwatched
        · exact hfailed
      refine ⟨hallFailed, fun hnot => ?_⟩
      simp only [step] at hs'
      split at hs'
      · split_ifs at hs'
        obtain rfl := Option.some.inj hs'
        exact check_acceptInputMode h fun hc => hnot (hallFailed hc)
      · cases hs'
  | _ => exact Iff.rfl

end Accepting

/-- Along a run all input is accepted only where every server has failed, exactly when each check that accepts
    is for the servers of the current list, of which there is one. -/
theorem fail_open_iff (filterMode : Int) (peers : List UdpPeer) (acts : List Act) :
    Runs.Steps step FailsOpenOnly (.start filterMode peers) acts ↔
      Runs.Steps step UpToDate (.start filterMode peers) acts := by
  apply Runs.steps_congr (I := Inv)
  · exact fun s a hs => failsOpenOnly_iff hs a
  · exact fun s a s' hs _ hstep => hs.step hstep
  · exact inv_start filterMode peers

/-- Two servers. -/
def firstServer : UdpPeer := ⟨"server1", "10.0.0.1"⟩
def secondServer : UdpPeer := ⟨"server2", "10.0.0.2"⟩

/-- The only server fails three times; the configuration that is loaded then has another. -/
def reloaded : List Act :=
  [.send 0, .fail 0 true, .send 0, .fail 0 true, .send 0, .fail 0 true, .updateServerPeers [secondServer],
    .check 0]

/-- The first check of an AC without servers accepts all input, and so does a check behind a reload, though the
    new server has not been tried. -/
theorem open_without_servers :
    (∃ t, Runs.run step (.start filterModeIPTables []) [.check 0] = some t ∧ t.acceptInputMode = true) ∧
      (State.start filterModeIPTables []).servers = [] ∧
      ¬ Runs.Steps step FailsOpenOnly (.start filterModeIPTables []) [.check 0] ∧
      ¬ Runs.Steps step FailsOpenOnly (.start filterModeIPTables [firstServer]) reloaded := by
  refine ⟨⟨_, rfl, rfl⟩, rfl, fun hsteps => ?_, fun hsteps => ?_⟩
  · have hall := (hsteps.1 _ rfl).1 ⟨rfl, Nat.lt_irrefl 0⟩
    exact hall.1 rfl
  · have hsend := hsteps.2 _ rfl |>.2 _ rfl |>.2 _ rfl |>.2 _ rfl |>.2 _ rfl |>.2 _ rfl
    have hcheck := (hsend.2 _ rfl).1
    have hall := (hcheck _ rfl).1 ⟨rfl, by decide +kernel⟩
    have hthree := (hall.2 secondServer (by decide +kernel)).1
    revert hthree
    decide +kernel

end OpenNHP.AC.FailOpen
