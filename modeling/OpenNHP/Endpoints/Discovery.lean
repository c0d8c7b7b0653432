/-
  `serverDiscovery` of an AC and of a DB (`endpoints/ac/udpac.go`, `endpoints/db/udpdevice.go`: the two differ in
  the messages they send and expect), over the connections of the module before.

  THE PROGRAM.  A routine asks its server, by way of `sendMessageRoutine`, and waits for the answer.  Behind an
  answer, and behind every third failure in a row, it looks its connection up again and uses what it has read,
  without asking whether there was one.  That the request went out says that there was a connection then.

  THE SPECIFICATION.  No routine holds a nil connection that it is about to use (`State.NonNil`).

  THE CRUX.  What matters is whether the entry has been deleted since `sendMessageRoutine` last found or entered
  it: by the clean-up of a connection, of this one or of an older one to the address, or by another routine for
  the same address.  So a history is kept of the touches of each address (`touch`), and the map agrees with the
  last of them (`Agrees`): where it was a deletion the look-up is nil, where it was another the look-up finds
  something.

  ASSEMBLY.  `nonNil_iff` says that the runs without such a deletion are those in which no routine holds a nil
  connection that it is about to use: `Inv.step` for the one direction, and for the other that a look-up behind a
  deletion is nil at once.
-/
import OpenNHP.Endpoints.Reconnect

namespace OpenNHP.Endpoints.Discovery

open OpenNHP.Core (Addr HeaderType)

/-! ## The state -/

/-- Whose discovery it is. -/
inductive Side
  | ac
  | db
  deriving DecidableEq

/-- The header type of the answer: `NHP_AAK` or `NHP_DBA`. -/
def Side.answer : Side → HeaderType
  | .ac => .aak
  | .db => .dba

/-- So many failures in a row count as one. -/
def serverDiscoveryRetryBeforeFail : Nat := 3

/-- What comes out of `ResponseMsgCh`; `parses` says that `json.Unmarshal` takes the body for an answer. -/
structure Ppd where
  error : Bool
  headerType : HeaderType
  parses : Bool
  deriving DecidableEq

/-- The three checks of the answer leave an error. -/
def Ppd.failed (ppd : Ppd) (side : Side) : Bool :=
  ppd.error || ppd.headerType != side.answer || !ppd.parses

/-- Where a routine stands. -/
inductive Phase
  | idle
  /-- The connection is not connected, or has been silent: a report is due. -/
  | reporting
  | keepingAlive
  /-- The report is in `sendMsgCh`. -/
  | asking
  /-- `sendMessageRoutine` has handed the report over to a connection. -/
  | sent
  /-- The answer is in, and the connection is to be looked up. -/
  | succeeded
  /-- `conn.connected.Store(true)` is next, the lock still held. -/
  | marking
  /-- The failure was the third in a row, and the connection is to be looked up. -/
  | failed
  /-- `conn.Close()` is next. -/
  | closing
  | ended
  deriving DecidableEq

/-- A `serverDiscovery` routine: the address of its server, and its variables `conn` and `failCount`. -/
structure Routine where
  addr : Addr
  conn : Option Nat
  failCount : Nat
  phase : Phase

/-- A routine that has not asked yet. -/
def Routine.new (addr : Addr) : Routine where
  addr := addr
  conn := none
  failCount := 0
  phase := .idle

/-- A message in `sendMsgCh`, with the routine that reads its `ResponseMsgCh`. -/
structure MsgData where
  remoteAddr : Addr
  asker : Option Nat

/-- The endpoint, with its routines. -/
structure State where
  net : Reconnect.State
  /-- the connections whose flag `connected` is set -/
  connected : List Nat
  sendMsgCh : List MsgData
  routines : List Routine

namespace State

/-- No routine, and no connection. -/
def start : State where
  net := .start
  connected := []
  sendMsgCh := []
  routines := []

variable (s : State)

/-- The look-up that may be nil. -/
def find (addr : Addr) : Option Nat := s.net.remoteConnectionMap.lookup addr

/-- A routine goes on. -/
def setRoutine (d : Nat) (r : Routine) : State := { s with routines := s.routines.set d r }

/-- The first look-up of a turn: a report is due where the connection is missing, not connected or `overdue`;
    otherwise a keepalive may be. -/
def lookUp (d : Nat) (r : Routine) (overdue silent : Bool) : State :=
  let conn := s.find r.addr
  if conn.any (· ∈ s.connected) = false ∨ overdue then
    s.setRoutine d { r with conn := conn, phase := .reporting }
  else
    s.setRoutine d { r with conn := conn, phase := if silent then .keepingAlive else .idle }

/-- `a.sendMsgCh <- md` -/
def post (md : MsgData) : State := { s with sendMsgCh := s.sendMsgCh ++ [md] }

/-- `a.device.SendMsgToPacket(md)`, with the connection it found or entered. -/
def handOver (md : MsgData) (rest : List MsgData) : State :=
  { s with
    sendMsgCh := rest
    routines :=
      match md.asker with
      | some d => s.routines.modify d fun r => { r with phase := .sent }
      | none => s.routines }

/-- The answer is read: behind a failure the connection of the first look-up counts as not connected. -/
def answered (side : Side) (d : Nat) (r : Routine) (ppd : Ppd) : State :=
  if ppd.failed side then
    { s.setRoutine d {
        r with
        failCount := r.failCount + 1
        phase := if (r.failCount + 1) % serverDiscoveryRetryBeforeFail = 0 then .failed else .idle } with
      connected := s.connected.filter fun c => r.conn ≠ some c }
  else s.setRoutine d { r with failCount := 0, phase := .succeeded }

/-- The second look-up of a success. -/
def lookUpConnected (d : Nat) (r : Routine) : State :=
  s.setRoutine d { r with conn := s.find r.addr, phase := .marking }

/-- The second look-up of a repeated failure, and the deletion of what it finds. -/
def removeFailed (d : Nat) (r : Routine) : State :=
  { s.setRoutine d { r with conn := s.find r.addr, phase := .closing } with
    net :=
      match s.find r.addr with
      | some c => s.net.removeFailed r.addr c
      | none => s.net }

end State

/-! ## Steps -/

/-- What the routines and the connections do. -/
inductive Act
  /-- `maintainServerConnectionRoutine` starts a routine for a server. -/
  | discover (addr : Addr)
  | lookUp (d : Nat) (overdue silent : Bool)
  | post (d : Nat)
  /-- A routine returns: the endpoint is stopped, or its servers have changed. -/
  | quit (d : Nat)
  /-- A message of another kind. -/
  | other (addr : Addr)
  /-- `sendMessageRoutine` looks the address of a message up. -/
  | send
  | dialFailed
  | register
  | answer (d : Nat) (ppd : Ppd)
  | lookUpAgain (d : Nat)
  /-- The connection of the second look-up is marked or closed. -/
  | use (d : Nat)
  | leave (c : Nat)
  | cleanUp (c : Nat)
  | close (c : Nat)

/-- What a connection does by itself. -/
def State.netStep (s : State) (a : Reconnect.Act) : Option State :=
  (Reconnect.step s.net a).map fun net => { s with net := net }

/-- What an act leads to, if it can happen.  The use of a nil connection ends the process. -/
def step (side : Side) (s : State) : Act → Option State
  | .discover addr => some { s with routines := s.routines ++ [.new addr] }
  | .lookUp d overdue silent =>
    match s.routines[d]? with
    | some r => if r.phase = .idle then some (s.lookUp d r overdue silent) else none
    | none => none
  | .post d =>
    match s.routines[d]? with
    | some r =>
      if r.phase = .reporting then
        some ((s.setRoutine d { r with phase := .asking }).post ⟨r.addr, some d⟩)
      else if r.phase = .keepingAlive then
        some ((s.setRoutine d { r with phase := .idle }).post ⟨r.addr, none⟩)
      else none
    | none => none
  | .quit d =>
    match s.routines[d]? with
    | some r =>
      if r.phase = .idle ∨ r.phase = .reporting then some (s.setRoutine d { r with phase := .ended }) else none
    | none => none
  | .other addr => some (s.post ⟨addr, none⟩)
  | .send =>
    match s.sendMsgCh with
    | md :: rest =>
      (s.netStep (.send md.remoteAddr)).map fun s' =>
        if (s.find md.remoteAddr).isSome then s'.handOver md rest else s'
    | [] => none
  | .dialFailed => (s.netStep .dialFailed).map fun s' => { s' with sendMsgCh := s.sendMsgCh.tail }
  | .register =>
    match s.sendMsgCh with
    | md :: rest => (s.netStep .register).map fun s' => s'.handOver md rest
    | [] => none
  | .answer d ppd =>
    match s.routines[d]? with
    | some r => if r.phase = .sent then some (s.answered side d r ppd) else none
    | none => none
  | .lookUpAgain d =>
    match s.routines[d]? with
    | some r =>
      if r.phase = .succeeded then some (s.lookUpConnected d r)
      else if r.phase = .failed then some (s.removeFailed d r)
      else none
    | none => none
  | .use d =>
    match s.routines[d]? with
    | some r =>
      match r.conn with
      | some c =>
        if r.phase = .marking then
          some { s.setRoutine d { r with phase := .idle } with connected := c :: s.connected }
        else if r.phase = .closing then some (s.setRoutine d { r with phase := .idle })
        else none
      | none => none
    | none => none
  | .leave c => s.netStep (.leave c)
  | .cleanUp c => s.netStep (.cleanUp c)
  | .close c => s.netStep (.close c)

/-- What an act has led to. -/
def Led (side : Side) (s s' : State) : Act → Prop
  | .discover addr => s' = { s with routines := s.routines ++ [.new addr] }
  | .lookUp d overdue silent =>
    ∃ r, s.routines[d]? = some r ∧ r.phase = .idle ∧ s' = s.lookUp d r overdue silent
  | .post d =>
    ∃ r, s.routines[d]? = some r ∧
      (r.phase = .reporting ∧ s' = (s.setRoutine d { r with phase := .asking }).post ⟨r.addr, some d⟩ ∨
        r.phase = .keepingAlive ∧ s' = (s.setRoutine d { r with phase := .idle }).post ⟨r.addr, none⟩)
  | .quit d => ∃ r, s.routines[d]? = some r ∧ s' = s.setRoutine d { r with phase := .ended }
  | .other addr => s' = s.post ⟨addr, none⟩
  | .send =>
    ∃ md rest net, s.sendMsgCh = md :: rest ∧ Reconnect.step s.net (.send md.remoteAddr) = some net ∧
      s' = if (s.find md.remoteAddr).isSome then { s with net := net }.handOver md rest else { s with net := net }
  | .dialFailed =>
    ∃ net, Reconnect.step s.net .dialFailed = some net ∧ s' = { s with net := net, sendMsgCh := s.sendMsgCh.tail }
  | .register =>
    ∃ md rest net, s.sendMsgCh = md :: rest ∧ Reconnect.step s.net .register = some net ∧
      s' = { s with net := net }.handOver md rest
  | .answer d ppd => ∃ r, s.routines[d]? = some r ∧ r.phase = .sent ∧ s' = s.answered side d r ppd
  | .lookUpAgain d =>
    ∃ r, s.routines[d]? = some r ∧
      (r.phase = .succeeded ∧ s' = s.lookUpConnected d r ∨ r.phase = .failed ∧ s' = s.removeFailed d r)
  | .use d =>
    ∃ r c, s.routines[d]? = some r ∧ r.conn = some c ∧
      (s' = { s.setRoutine d { r with phase := .idle } with connected := c :: s.connected } ∨
        s' = s.setRoutine d { r with phase := .idle })
  | .leave c => ∃ net, Reconnect.step s.net (.leave c) = some net ∧ s' = { s with net := net }
  | .cleanUp c => ∃ net, Reconnect.step s.net (.cleanUp c) = some net ∧ s' = { s with net := net }
  | .close c => ∃ net, Reconnect.step s.net (.close c) = some net ∧ s' = { s with net := net }

/-- What each step may do to the connections. -/
theorem led_of_step {side : Side} {s s' : State} {a : Act} (hstep : step side s a = some s') : Led side s s' a := by
  -- Each step that names a routine needs it in its phase; a step of the network is one of `Reconnect`.
  cases a with
  | discover addr => exact (Option.some.inj hstep).symm
  | lookUp d overdue silent =>
    simp only [step] at hstep
    split at hstep
    · rename_i r hr
      split_ifs at hstep with hidle
      exact ⟨r, hr, hidle, (Option.some.inj hstep).symm⟩
    · cases hstep
  | post d =>
    simp only [step] at hstep
    split at hstep
    · rename_i r hr
      split_ifs at hstep with hreporting hkeeping
      · exact ⟨r, hr, .inl ⟨hreporting, (Option.some.inj hstep).symm⟩⟩
      · exact ⟨r, hr, .inr ⟨hkeeping, (Option.some.inj hstep).symm⟩⟩
    · cases hstep
  | quit d =>
    simp only [step] at hstep
    split at hstep
    · rename_i r hr
      split_ifs at hstep
      exact ⟨r, hr, (Option.some.inj hstep).symm⟩
    · cases hstep
  | other addr => exact (Option.some.inj hstep).symm
  | send =>
    simp only [step] at hstep
    split at hstep
    · rename_i md rest hqueue
      obtain ⟨t, ht, rfl⟩ := Option.map_eq_some_iff.mp hstep
      obtain ⟨net, hnet, rfl⟩ := Option.map_eq_some_iff.mp ht
      exact ⟨md, rest, net, hqueue, hnet, rfl⟩
    · cases hstep
  | dialFailed =>
    obtain ⟨t, ht, rfl⟩ := Option.map_eq_some_iff.mp hstep
    obtain ⟨net, hnet, rfl⟩ := Option.map_eq_some_iff.mp ht
    exact ⟨net, hnet, rfl⟩
  | register =>
    simp only [step] at hstep
    split at hstep
    · rename_i md rest hqueue
      obtain ⟨t, ht, rfl⟩ := Option.map_eq_some_iff.mp hstep
      obtain ⟨net, hnet, rfl⟩ := Option.map_eq_some_iff.mp ht
      exact ⟨md, rest, net, hqueue, hnet, rfl⟩
    · cases hstep
  | answer d ppd =>
    simp only [step] at hstep
    split at hstep
    · rename_i r hr
      split_ifs at hstep with hsent
      exact ⟨r, hr, hsent, (Option.some.inj hstep).symm⟩
    · cases hstep
  | lookUpAgain d =>
    simp only [step] at hstep
    split at hstep
    · rename_i r hr
      split_ifs at hstep with hsucceeded hfailed
      · exact ⟨r, hr, .inl ⟨hsucceeded, (Option.some.inj hstep).symm⟩⟩
      · exact ⟨r, hr, .inr ⟨hfailed, (Option.some.inj hstep).symm⟩⟩
    · cases hstep
  | use d =>
    simp only [step] at hstep
    split at hstep
    · rename_i r hr
      split at hstep
      · rename_i c hc
        split_ifs at hstep
        · exact ⟨r, c, hr, hc, .inl (Option.some.inj hstep).symm⟩
        · exact ⟨r, c, hr, hc, .inr (Option.some.inj hstep).symm⟩
      · cases hstep
    · cases hstep
  | leave c | cleanUp c | close c =>
    obtain ⟨net, hnet, rfl⟩ := Option.map_eq_some_iff.mp hstep
    exact ⟨net, hnet, rfl⟩

/-! ## The connections below -/

/-- The connections stay as they are, or take one of their own steps. -/
theorem net_step {side : Side} {s s' : State} {a : Act} (hstep : step side s a = some s') :
    s'.net = s.net ∨ ∃ b, Reconnect.step s.net b = some s'.net := by
  have hled := led_of_step hstep
  cases a with
  | discover addr | other addr =>
    obtain rfl := hled
    exact .inl rfl
  | lookUp d overdue silent =>
    obtain ⟨r, -, -, rfl⟩ := hled
    rw [State.lookUp]
    split_ifs <;> exact .inl rfl
  | post d =>
    obtain ⟨r, -, ⟨-, rfl⟩ | ⟨-, rfl⟩⟩ := hled <;> exact .inl rfl
  | quit d =>
    obtain ⟨r, -, rfl⟩ := hled
    exact .inl rfl
  | send =>
    obtain ⟨md, rest, net, -, hnet, rfl⟩ := hled
    split_ifs <;> exact .inr ⟨_, hnet⟩
  | register =>
    obtain ⟨md, rest, net, -, hnet, rfl⟩ := hled
    exact .inr ⟨_, hnet⟩
  | answer d ppd =>
    obtain ⟨r, -, -, rfl⟩ := hled
    rw [State.answered]
    split_ifs <;> exact .inl rfl
  | lookUpAgain d =>
    obtain ⟨r, -, ⟨-, rfl⟩ | ⟨-, rfl⟩⟩ := hled
    · exact .inl rfl
    · rw [State.removeFailed]
      cases hfind : s.find r.addr with
      | none => exact .inl rfl
      | some c =>
        refine .inr ⟨.removeFailed r.addr, ?_⟩
        change s.net.remoteConnectionMap.lookup r.addr = some c at hfind
        simp only [Reconnect.step, hfind]
  | use d =>
    obtain ⟨r, c, -, -, rfl | rfl⟩ := hled <;> exact .inl rfl
  | dialFailed | leave c | cleanUp c | close c =>
    obtain ⟨net, hnet, rfl⟩ := hled
    exact .inr ⟨_, hnet⟩

/-- A run of discovery is a run of the connections. -/
theorem net_run {side : Side} {s t : State} {acts : List Act} (hrun : Runs.run (step side) s acts = some t) :
    ∃ bs, Runs.run Reconnect.step s.net bs = some t.net := by
  induction acts generalizing s with
  | nil =>
    cases hrun
    exact ⟨[], rfl⟩
  | cons a acts ih =>
    obtain ⟨u, hu, hrun⟩ := Runs.run_cons.mp hrun
    obtain ⟨bs, hbs⟩ := ih hrun
    rcases net_step hu with hsame | ⟨b, hb⟩
    · rw [hsame] at hbs
      exact ⟨bs, hbs⟩
    · exact ⟨b :: bs, Runs.run_cons.mpr ⟨u.net, hb, hbs⟩⟩

/-- What a routine reads is a connection to its server, if there is one. -/
theorem find_addressed {side : Side} {t : State} {acts : List Act} (hrun : Runs.run (step side) .start acts = some t)
    {addr : Addr} {c : Nat} (hfind : t.find addr = some c) :
    ∃ conn, t.net.conns[c]? = some conn ∧ conn.remoteAddr = addr := by
  obtain ⟨bs, hbs⟩ := net_run hrun
  have hinv : Reconnect.Inv t.net :=
    Runs.run_invariant (fun _ _ _ h hstep => h.step hstep) Reconnect.inv_start hbs
  exact hinv.addressed addr c hfind

/-! ## The property and the condition -/

/-- The connection is about to be used: behind the second look-up. -/
def Routine.Uses (r : Routine) : Prop := r.phase = .marking ∨ r.phase = .closing

/-- The report has gone out, and the second look-up has not been made. -/
def Routine.Waits (r : Routine) : Prop := r.phase = .sent ∨ r.phase = .succeeded ∨ r.phase = .failed

/-- The second look-up is next. -/
def Routine.LooksUp (r : Routine) : Prop := r.phase = .succeeded ∨ r.phase = .failed

instance (r : Routine) : Decidable r.Uses := by
  unfold Routine.Uses
  infer_instance

instance (r : Routine) : Decidable r.LooksUp := by
  unfold Routine.LooksUp
  infer_instance

/-- Every connection that is about to be used is there. -/
def State.NonNil (s : State) : Prop := ∀ r ∈ s.routines, r.Uses → r.conn ≠ none

instance (s : State) : Decidable s.NonNil := by
  unfold State.NonNil
  infer_instance

/-- So it is behind the step, if the step can be taken. -/
def NonNil (side : Side) (s : State) (a : Act) : Prop := ∀ s', step side s a = some s' → s'.NonNil

/-- How an address was last touched. -/
inductive Touch
  | present
  | deleted
  deriving DecidableEq

/-- What an act does with an entry: `sendMessageRoutine` finds or enters it, or the clean-up of a connection
    or a routine that has failed deletes it. -/
def touch (s : State) : Act → Option (Addr × Touch)
  | .send => s.sendMsgCh.head?.bind fun md => (s.find md.remoteAddr).map fun _ => (md.remoteAddr, .present)
  | .register => s.net.dialing.map fun addr => (addr, .present)
  | .cleanUp c => s.net.conns[c]?.map fun conn => (conn.remoteAddr, .deleted)
  | .lookUpAgain d =>
    s.routines[d]?.bind fun r => if r.phase = .failed then some (r.addr, .deleted) else none
  | _ => none

/-- At a second look-up, nothing has deleted the entry since `sendMessageRoutine` last found or entered it. -/
def Undeleted (past : List (Addr × Touch)) (s : State) : Act → Prop
  | .lookUpAgain d => ∀ r ∈ s.routines[d]?, r.LooksUp → past.lookup r.addr ≠ some .deleted
  | _ => True

instance (past : List (Addr × Touch)) (s : State) : (a : Act) → Decidable (Undeleted past s a)
  | .lookUpAgain d =>
    inferInstanceAs (Decidable (∀ r ∈ s.routines[d]?, r.LooksUp → past.lookup r.addr ≠ some .deleted))
  | .discover _ | .lookUp .. | .post _ | .quit _ | .other _ | .send | .dialFailed | .register | .answer ..
  | .use _ | .leave _ | .cleanUp _ | .close _ => inferInstanceAs (Decidable True)

/-- The system with what has been done to the entries. -/
abbrev noted (side : Side) : List (Addr × Touch) × State → Act → Option (List (Addr × Touch) × State) :=
  Runs.noting (step side) touch

/-! ## The entries -/

/-- The entries are those whose last touch was not a deletion. -/
def Agrees (past : List (Addr × Touch)) (m : AList fun _ : Addr => Nat) : Prop :=
  ∀ addr, (m.lookup addr).isSome ↔ past.lookup addr = some .present

namespace Agrees

variable {past : List (Addr × Touch)} {m : AList fun _ : Addr => Nat} (h : Agrees past m)

include h

/-- An entry that is found is there, -/
theorem found {addr : Addr} (hfound : (m.lookup addr).isSome) : Agrees ((addr, .present) :: past) m := by
  intro addr'
  rw [List.lookup_cons]
  split
  · rename_i heq
    obtain rfl := eq_of_beq heq
    exact iff_of_true hfound rfl
  · exact h addr'

/-- one that is entered is, -/
theorem insert (addr : Addr) (c : Nat) : Agrees ((addr, .present) :: past) (m.insert addr c) := by
  intro addr'
  rw [List.lookup_cons, AList.lookup_insert_eq_ite]
  by_cases heq : addr' = addr
  · subst heq
    rw [if_pos rfl, beq_self_eq_true]
    exact iff_of_true rfl rfl
  · rw [if_neg heq, beq_eq_false_iff_ne.mpr heq]
    exact h addr'

/-- and one that is deleted is not. -/
theorem erase (addr : Addr) : Agrees ((addr, .deleted) :: past) (m.erase addr) := by
  intro addr'
  rw [List.lookup_cons, AList.lookup_erase_eq_ite]
  by_cases heq : addr' = addr
  · subst heq
    rw [if_pos rfl, beq_self_eq_true]
    exact iff_of_false nofun nofun
  · rw [if_neg heq, beq_eq_false_iff_ne.mpr heq]
    exact h addr'

end Agrees

/-! ## What every run keeps -/

/-- What was touched once has been touched. -/
theorem lookup_append_ne_none {past new : List (Addr × Touch)} {addr : Addr}
    (h : past.lookup addr ≠ none) : (new ++ past).lookup addr ≠ none := by
  rw [List.lookup_append, Ne, Option.or_eq_none_iff]
  exact fun hnone => h hnone.2

/-- A report that is handed over moves its routine, and no other. -/
theorem handOver_routine (s : State) (md : MsgData) (rest : List MsgData) (d : Nat) :
    (s.handOver md rest).routines[d]? =
      s.routines[d]?.map fun r => if md.asker = some d then { r with phase := .sent } else r := by
  rw [State.handOver]
  cases hasker : md.asker with
  | none =>
    show s.routines[d]? = s.routines[d]?.map _
    simp only [reduceCtorEq, if_false, Option.map_id_fun', id]
  | some e =>
    show (s.routines.modify e _)[d]? = s.routines[d]?.map _
    rw [List.getElem?_modify, Option.map_eq_map]
    simp only [Option.some.injEq]

/-- The touches tell what is in the map; the report that is being dialed for is the next one; a report is about
    its routine's address, which has been touched once the report is out. -/
structure Inv (past : List (Addr × Touch)) (s : State) : Prop where
  entries : Agrees past s.net.remoteConnectionMap
  dialing : ∀ addr, s.net.dialing = some addr → ∃ md rest, s.sendMsgCh = md :: rest ∧ md.remoteAddr = addr
  queued : ∀ md ∈ s.sendMsgCh, ∀ d, md.asker = some d → ∃ r, s.routines[d]? = some r ∧ r.addr = md.remoteAddr
  waits : ∀ r ∈ s.routines, r.Waits → past.lookup r.addr ≠ none
  nonNil : s.NonNil

namespace Inv

variable {side : Side} {past : List (Addr × Touch)} {s : State}

theorem start : Inv [] .start := by
  refine ⟨fun addr => iff_of_false nofun nofun, nofun, nofun, nofun, nofun⟩

variable (h : Inv past s)

include h

/-- A routine moves on. -/
theorem setRoutine {d : Nat} {r : Routine} (r' : Routine) (hr : s.routines[d]? = some r) (haddr : r'.addr = r.addr)
    (hwaits : r'.Waits → r.Waits) (huses : r'.Uses → r'.conn ≠ none) : Inv past (s.setRoutine d r') := by
  have hmem : r ∈ s.routines := List.mem_of_getElem? hr
  constructor
  · exact h.entries
  · exact h.dialing
  · intro md hmd d' hasker
    obtain ⟨r₀, hr₀, haddr₀⟩ := h.queued md hmd d' hasker
    show ∃ r, (s.routines.set d r')[d']? = some r ∧ r.addr = md.remoteAddr
    by_cases hd : d = d'
    · subst hd
      obtain rfl := Option.some.inj (hr.symm.trans hr₀)
      have hlt : d < s.routines.length := (List.getElem?_eq_some_iff.mp hr).1
      exact ⟨r', List.getElem?_set_self hlt, haddr.trans haddr₀⟩
    · exact ⟨r₀, (List.getElem?_set_ne hd).trans hr₀, haddr₀⟩
  · intro r₀ hr₀ hw
    rcases List.mem_or_eq_of_mem_set hr₀ with hold | rfl
    · exact h.waits r₀ hold hw
    · rw [haddr]
      exact h.waits r hmem (hwaits hw)
  · intro r₀ hr₀ hu
    rcases List.mem_or_eq_of_mem_set hr₀ with hold | rfl
    · exact h.nonNil r₀ hold hu
    · exact huses hu

/-- The flags of the connections do not matter. -/
theorem connected (connected : List Nat) : Inv past { s with connected := connected } :=
  ⟨h.entries, h.dialing, h.queued, h.waits, h.nonNil⟩

/-- A new routine asks nothing yet. -/
theorem discover (addr : Addr) : Inv past { s with routines := s.routines ++ [.new addr] } := by
  constructor
  · exact h.entries
  · exact h.dialing
  · intro md hmd d hasker
    obtain ⟨r, hr, haddr⟩ := h.queued md hmd d hasker
    exact ⟨r, (List.getElem?_append_left (List.getElem?_eq_some_iff.mp hr).1).trans hr, haddr⟩
  · intro r hr hw
    rcases List.mem_append.mp hr with hold | hnew
    · exact h.waits r hold hw
    · obtain rfl := List.mem_singleton.mp hnew
      rcases hw with hw | hw | hw <;> cases hw
  · intro r hr hu
    rcases List.mem_append.mp hr with hold | hnew
    · exact h.nonNil r hold hu
    · obtain rfl := List.mem_singleton.mp hnew
      rcases hu with hu | hu <;> cases hu

theorem post {md : MsgData}
    (hmd : ∀ d, md.asker = some d → ∃ r, s.routines[d]? = some r ∧ r.addr = md.remoteAddr) :
    Inv past (s.post md) := by
  constructor
  · exact h.entries
  · intro addr haddr
    obtain ⟨md', rest, hqueue, hremote⟩ := h.dialing addr haddr
    refine ⟨md', rest ++ [md], ?_, hremote⟩
    show s.sendMsgCh ++ [md] = md' :: (rest ++ [md])
    rw [hqueue]
    rfl
  · intro md' hmd'
    rcases List.mem_append.mp hmd' with hold | hnew
    · exact h.queued md' hold
    · obtain rfl := List.mem_singleton.mp hnew
      exact hmd
  · exact h.waits
  · exact h.nonNil

/-- The map of connections changes as the new touches say, and no dialing begins. -/
theorem net {net : Reconnect.State} (new : List (Addr × Touch))
    (hentries : Agrees (new ++ past) net.remoteConnectionMap)
    (hdialing : ∀ addr, net.dialing = some addr → ∃ md rest, s.sendMsgCh = md :: rest ∧ md.remoteAddr = addr) :
    Inv (new ++ past) { s with net := net } := by
  refine ⟨hentries, hdialing, h.queued, ?_, h.nonNil⟩
  intro r hr hw
  exact lookup_append_ne_none (h.waits r hr hw)

/-- A report is handed over, its address touched. -/
theorem handOver {md : MsgData} {rest : List MsgData} (hqueue : s.sendMsgCh = md :: rest)
    (hdialing : s.net.dialing = none) (htouched : past.lookup md.remoteAddr ≠ none) :
    Inv past (s.handOver md rest) := by
  constructor
  · exact h.entries
  · intro addr haddr
    exact absurd (hdialing.symm.trans haddr) nofun
  · intro md' hmd' d hasker
    have hmem : md' ∈ s.sendMsgCh := by
      rw [hqueue]
      exact List.mem_cons_of_mem md hmd'
    obtain ⟨r, hr, haddr⟩ := h.queued md' hmem d hasker
    rw [handOver_routine, hr]
    refine ⟨_, rfl, ?_⟩
    split_ifs <;> exact haddr
  · intro r hr hw
    obtain ⟨d, hd⟩ := List.mem_iff_getElem?.mp hr
    rw [handOver_routine] at hd
    obtain ⟨r₀, hr₀, rfl⟩ := Option.map_eq_some_iff.mp hd
    split_ifs at hw ⊢ with hasker
    · -- the routine whose report this is
      obtain ⟨r₁, hr₁, haddr⟩ := h.queued md (hqueue ▸ List.mem_cons_self) d hasker
      obtain rfl := Option.some.inj (hr₀.symm.trans hr₁)
      show past.lookup r₀.addr ≠ none
      rw [haddr]
      exact htouched
    · exact h.waits r₀ (List.mem_of_getElem? hr₀) hw
  · intro r hr hu
    obtain ⟨d, hd⟩ := List.mem_iff_getElem?.mp hr
    rw [handOver_routine] at hd
    obtain ⟨r₀, hr₀, rfl⟩ := Option.map_eq_some_iff.mp hd
    split_ifs at hu ⊢
    · rcases hu with hu | hu <;> cases hu
    · exact h.nonNil r₀ (List.mem_of_getElem? hr₀) hu

/-- A report is found a connection, or one is dialed for it. -/
theorem send {s' : State} (hstep : step side s .send = some s') : Inv ((touch s .send).toList ++ past) s' := by
  obtain ⟨md, rest, net, hqueue, hnet, rfl⟩ := led_of_step hstep
  have htouch : touch s .send = (s.find md.remoteAddr).map fun _ => (md.remoteAddr, .present) := by
    rw [touch, hqueue]
    rfl
  obtain ⟨hdialing, ⟨rfl, hfound⟩ | ⟨hnone, rfl⟩⟩ := Reconnect.led_of_step hnet
  · change (s.find md.remoteAddr).isSome at hfound
    obtain ⟨c, hc⟩ := Option.isSome_iff_exists.mp hfound
    rw [if_pos hfound, htouch, hc]
    have hi : Inv ((md.remoteAddr, .present) :: past) s :=
      h.net [(md.remoteAddr, .present)] (h.entries.found hfound) h.dialing
    apply hi.handOver hqueue hdialing
    rw [List.lookup_cons_self]
    nofun
  · change s.find md.remoteAddr = none at hnone
    rw [htouch, hnone]
    refine h.net [] h.entries ?_
    intro addr haddr
    exact ⟨md, rest, hqueue, Option.some.inj haddr⟩

/-- The connection that was dialed is entered, for the report at the head of the channel. -/
theorem register {s' : State} (hstep : step side s .register = some s') :
    Inv ((touch s .register).toList ++ past) s' := by
  obtain ⟨md, rest, net, hqueue, hnet, rfl⟩ := led_of_step hstep
  obtain ⟨addr, hdialing, rfl⟩ := Reconnect.led_of_step hnet
  have htouch : touch s .register = some (addr, .present) := by
    rw [touch, hdialing]
    rfl
  obtain ⟨md', rest', hqueue', rfl⟩ := h.dialing addr hdialing
  obtain ⟨rfl, rfl⟩ := List.cons.inj (hqueue.symm.trans hqueue')
  rw [htouch]
  have hi : Inv ((md.remoteAddr, .present) :: past) { s with net := s.net.register md.remoteAddr } :=
    h.net [(md.remoteAddr, .present)] (h.entries.insert _ _) nofun
  apply hi.handOver hqueue rfl
  rw [List.lookup_cons_self]
  nofun

/-- What has been touched, and not deleted last, is there. -/
theorem find_ne_none {r : Routine} (hr : r ∈ s.routines) (hlooks : r.LooksUp)
    (hundeleted : past.lookup r.addr ≠ some .deleted) : s.find r.addr ≠ none := by
  have htouched := h.waits r hr (.inr hlooks)
  intro hnone
  cases hlast : past.lookup r.addr with
  | none => exact htouched hlast
  | some last =>
    cases last with
    | deleted => exact hundeleted hlast
    | present =>
      have hfound := (h.entries r.addr).mpr hlast
      change (s.find r.addr).isSome at hfound
      rw [hnone] at hfound
      cases hfound

/-- Behind the second look-up of a routine. -/
theorem lookUpAgain {d : Nat} {s' : State} (hstep : step side s (.lookUpAgain d) = some s')
    (hundeleted : Undeleted past s (.lookUpAgain d)) : Inv ((touch s (.lookUpAgain d)).toList ++ past) s' := by
  obtain ⟨r, hr, ⟨hsucceeded, rfl⟩ | ⟨hfailed, rfl⟩⟩ := led_of_step hstep
  · have hfind := h.find_ne_none (List.mem_of_getElem? hr) (.inl hsucceeded) (hundeleted r hr (.inl hsucceeded))
    have htouch : touch s (.lookUpAgain d) = none := by
      rw [touch, hr, Option.bind_some, if_neg]
      rw [hsucceeded]
      nofun
    rw [htouch]
    exact h.setRoutine _ hr rfl (fun hw => absurd hw nofun) fun _ => hfind
  · have hfind := h.find_ne_none (List.mem_of_getElem? hr) (.inr hfailed) (hundeleted r hr (.inr hfailed))
    have htouch : touch s (.lookUpAgain d) = some (r.addr, .deleted) := by
      rw [touch, hr, Option.bind_some, if_pos hfailed]
    rw [htouch]
    have hi := h.setRoutine { r with conn := s.find r.addr, phase := .closing } hr rfl
      (fun hw => absurd hw nofun) fun _ => hfind
    rw [State.removeFailed]
    obtain ⟨c, hc⟩ := Option.ne_none_iff_exists'.mp hfind
    rw [hc] at hi ⊢
    exact hi.net [(r.addr, .deleted)] (h.entries.erase r.addr) h.dialing

/-- Behind the answer. -/
theorem answered {d : Nat} {r : Routine} (hr : s.routines[d]? = some r) (hsent : r.phase = .sent) (ppd : Ppd) :
    Inv past (s.answered side d r ppd) := by
  have hwaits : r.Waits := .inl hsent
  rw [State.answered]
  split_ifs with hfailed hthird
  · have hi := h.setRoutine { r with failCount := r.failCount + 1, phase := .failed } hr rfl
      (fun _ => hwaits) fun hu => absurd hu nofun
    exact hi.connected _
  · have hi := h.setRoutine { r with failCount := r.failCount + 1, phase := .idle } hr rfl
      (fun _ => hwaits) fun hu => absurd hu nofun
    exact hi.connected _
  · exact h.setRoutine _ hr rfl (fun _ => hwaits) fun hu => absurd hu nofun

/-- A routine that is neither behind its report nor about to use a connection. -/
theorem moveOn {d : Nat} {r : Routine} (r' : Routine) (hr : s.routines[d]? = some r) (haddr : r'.addr = r.addr)
    (hwaits : ¬r'.Waits) (huses : ¬r'.Uses) : Inv past (s.setRoutine d r') :=
  h.setRoutine r' hr haddr (fun hw => absurd hw hwaits) (fun hu => absurd hu huses)

/-- The message is about the address of its routine. -/
theorem post_own {d : Nat} {r : Routine} (r' : Routine) (hr : s.routines[d]? = some r) (haddr : r'.addr = r.addr)
    (hwaits : ¬r'.Waits) (huses : ¬r'.Uses) : Inv past ((s.setRoutine d r').post ⟨r.addr, some d⟩) := by
  apply (h.moveOn r' hr haddr hwaits huses).post
  intro d' hd'
  obtain rfl := Option.some.inj hd'
  have hlt : d < s.routines.length := (List.getElem?_eq_some_iff.mp hr).1
  exact ⟨r', List.getElem?_set_self hlt, haddr⟩

theorem step {a : Act} {s' : State} (hstep : step side s a = some s') (hundeleted : Undeleted past s a) :
    Inv ((touch s a).toList ++ past) s' := by
  have hled := led_of_step hstep
  -- What a step does to the connection map it puts into `past`; the others move one routine on.
  cases a with
  | discover addr =>
    obtain rfl := hled
    exact h.discover addr
  | lookUp d overdue silent =>
    obtain ⟨r, hr, -, rfl⟩ := hled
    rw [State.lookUp]
    split_ifs
    · exact h.moveOn _ hr rfl nofun nofun
    · exact h.moveOn _ hr rfl nofun nofun
    · exact h.moveOn _ hr rfl nofun nofun
  | post d =>
    obtain ⟨r, hr, ⟨-, rfl⟩ | ⟨-, rfl⟩⟩ := hled
    · exact h.post_own _ hr rfl nofun nofun
    · have hi := h.moveOn { r with phase := .idle } hr rfl nofun nofun
      exact hi.post nofun
  | quit d =>
    obtain ⟨r, hr, rfl⟩ := hled
    exact h.moveOn _ hr rfl nofun nofun
  | other addr =>
    obtain rfl := hled
    exact h.post nofun
  | send => exact h.send hstep
  | dialFailed =>
    obtain ⟨net, hnet, rfl⟩ := hled
    obtain rfl := Reconnect.led_of_step hnet
    exact ⟨h.entries, nofun, fun md hmd => h.queued md (List.mem_of_mem_tail hmd), h.waits, h.nonNil⟩
  | register => exact h.register hstep
  | answer d ppd =>
    obtain ⟨r, hr, hsent, rfl⟩ := hled
    exact h.answered hr hsent ppd
  | lookUpAgain d => exact h.lookUpAgain hstep hundeleted
  | use d =>
    obtain ⟨r, c, hr, -, rfl | rfl⟩ := hled
    · have hi := h.moveOn { r with phase := .idle } hr rfl nofun nofun
      exact hi.connected _
    · exact h.moveOn _ hr rfl nofun nofun
  | leave c =>
    obtain ⟨net, hnet, rfl⟩ := hled
    obtain rfl := Reconnect.led_of_step hnet
    exact h.net [] h.entries h.dialing
  | cleanUp c =>
    obtain ⟨net, hnet, rfl⟩ := hled
    obtain ⟨conn, hconn, -, rfl⟩ := Reconnect.led_of_step hnet
    have htouch : touch s (.cleanUp c) = some (conn.remoteAddr, .deleted) := by
      rw [touch, hconn]
      rfl
    rw [htouch]
    exact h.net [(conn.remoteAddr, .deleted)] (h.entries.erase conn.remoteAddr) h.dialing
  | close c =>
    obtain ⟨net, hnet, rfl⟩ := hled
    obtain rfl := Reconnect.led_of_step hnet
    exact h.net [] h.entries h.dialing

end Inv

/-! ## Runs -/

/-- A step uses no nil connection exactly when it finds no deletion. -/
theorem Inv.nonNil_iff_undeleted {side : Side} {past : List (Addr × Touch)} {s : State} (h : Inv past s) (a : Act) :
    Discovery.NonNil side s a ↔ Undeleted past s a := by
  constructor
  · intro hnonNil
    cases a with
    | lookUpAgain d =>
      intro r hr hlooks hdeleted
      rw [Option.mem_def] at hr
      have hnone : s.find r.addr = none := by
        rw [← Option.not_isSome_iff_eq_none]
        intro hfound
        have hpresent := (h.entries r.addr).mp hfound
        rw [hdeleted] at hpresent
        cases hpresent
      have hlt : d < s.routines.length := (List.getElem?_eq_some_iff.mp hr).1
      rcases hlooks with hsucceeded | hfailed
      · have hstep : Discovery.step side s (.lookUpAgain d) = some (s.lookUpConnected d r) := by
          simp only [Discovery.step, hr, hsucceeded, if_true]
        exact hnonNil _ hstep _ (List.mem_set hlt _) (.inl rfl) hnone
      · have hstep : Discovery.step side s (.lookUpAgain d) = some (s.removeFailed d r) := by
          simp only [Discovery.step, hr, hfailed, reduceCtorEq, if_false, if_true]
        exact hnonNil _ hstep _ (List.mem_set hlt _) (.inr rfl) hnone
    | _ => trivial
  · intro hundeleted s' hstep
    exact (h.step hstep hundeleted).nonNil

/-- Along a run, no routine comes to use a nil connection exactly when every second look-up finds that nothing
    has deleted the entry since `sendMessageRoutine` last found or entered it. -/
theorem nonNil_iff (side : Side) (acts : List Act) :
    Runs.Steps (step side) (NonNil side) .start acts ↔
      Runs.Steps (noted side) (fun p a => Undeleted p.1 p.2 a) ([], .start) acts := by
  have hnoted : Runs.Steps (noted side) (fun p a => NonNil side p.2 a) ([], .start) acts ↔
      Runs.Steps (step side) (NonNil side) .start acts := Runs.steps_noting [] State.start acts
  rw [← hnoted]
  apply Runs.steps_congr (I := fun p => Inv p.1 p.2)
  · exact fun p a h => h.nonNil_iff_undeleted a
  · intro p a q h hnonNil hstep
    obtain ⟨s', hs', rfl⟩ := Runs.noting_eq_some.mp hstep
    exact h.step hs' ((h.nonNil_iff_undeleted a).mp hnonNil)
  · exact Inv.start

/-- A run that comes to a nil connection is none of those. -/
theorem not_steps_of_run {side : Side} {acts : List Act} {t : State} (hrun : Runs.run (step side) .start acts = some t)
    (ht : ¬t.NonNil) : ¬Runs.Steps (step side) (NonNil side) .start acts := by
  intro hsteps
  exact ht (Runs.run_invariant_of (I := State.NonNil) (fun s a s' ha _ hstep => ha s' hstep) hsteps nofun hrun)

/-- A report over a new connection, up to its answer. -/
def firstReport (ppd : Ppd) : List Act :=
  [.discover "10.0.0.9:62206", .lookUp 0 false false, .post 0, .send, .register, .answer 0 ppd]

/-- A report over the connection that is there. -/
def nextReport (ppd : Ppd) : List Act := [.lookUp 0 true false, .post 0, .send, .answer 0 ppd]

/-- A report whose connection times out before the answer. -/
def closedReport (ppd : Ppd) : List Act :=
  [.lookUp 0 true false, .post 0, .send, .leave 0, .cleanUp 0, .answer 0 ppd]

/-- The answer of an AC's server is in when the connection times out. -/
def closedBeforeMark : List Act :=
  firstReport ⟨false, .aak, true⟩ ++ [.leave 0, .cleanUp 0, .lookUpAgain 0]

/-- The connection of a DB is closed while it fails to reach its server for the third time. -/
def closedBeforeClose : List Act :=
  firstReport ⟨true, .dba, false⟩ ++ nextReport ⟨true, .dba, false⟩ ++ closedReport ⟨true, .dba, false⟩ ++
    [.lookUpAgain 0]

/-- Both use a nil connection then. -/
theorem nil_connection_used : ¬Runs.Steps (step .ac) (NonNil .ac) .start closedBeforeMark ∧
    ¬Runs.Steps (step .db) (NonNil .db) .start closedBeforeClose := by
  constructor
  · have hrun : ∃ t, Runs.run (step .ac) .start closedBeforeMark = some t ∧ ¬t.NonNil := ⟨_, rfl, by decide⟩
    obtain ⟨t, hrun, ht⟩ := hrun
    exact not_steps_of_run hrun ht
  · have hrun : ∃ t, Runs.run (step .db) .start closedBeforeClose = some t ∧ ¬t.NonNil := ⟨_, rfl, by decide⟩
    obtain ⟨t, hrun, ht⟩ := hrun
    exact not_steps_of_run hrun ht

/-- A success, and three failures behind it, with the connection in the map throughout. -/
def kept : List Act :=
  firstReport ⟨false, .aak, true⟩ ++ [.lookUpAgain 0, .use 0] ++ nextReport ⟨true, .aak, false⟩ ++
    nextReport ⟨true, .aak, false⟩ ++ nextReport ⟨true, .aak, false⟩ ++ [.lookUpAgain 0, .use 0, .leave 0, .cleanUp 0]

example : (Runs.run (step .ac) .start kept).isSome ∧
    Runs.Steps (noted .ac) (fun p a => Undeleted p.1 p.2 a) ([], .start) kept := by
  decide

end OpenNHP.Endpoints.Discovery
