/-
  The tables of the ACs and DBs that are online (`endpoints/server/udpserver.go`, `msghandler.go`,
  `nhp/core/udpconn.go`).

  1. **The program.**  `HandleACOnline` and `HandleDBOnline` enter the connection of a message under the id the
     message names, whatever the first packet of the connection was and however many ids came over it.  The
     routine of a connection deletes one entry at its end, and only from the table its first packet was for: any
     entry whose connection was made at the same time (`Equal` compares the times), or the entry of the empty id
     if there is none.  Then it takes the connection out of the connection table and closes it.

  2. **The property.**  `Sound`: every entry of a table leads to a connection that is not closed, and the end of a
     connection takes no entry that leads to another.

  3. **Where it fails.**  A connection that began with a keepalive leaves its entry behind (`stale_entry`); one
     whose first packet was an AOL without an id takes the entry of the empty id, whoever's it is
     (`empty_id_taken`).

  4. **The result.**  In runs where the ids come in the way the clean-up expects (`Expected`) every step is sound
     (`tables_live`).  The clean-up of a table is exact in one state exactly under `Clears` (`clears_iff`); the
     invariant is that an entry's connection is ahead of the clean-up of its table (`Stage.Ahead`).
-/
import OpenNHP.Lib.Tables
import OpenNHP.Server.Connections

namespace OpenNHP.Server.Online

open OpenNHP.Core
open OpenNHP.Server.Connections (UdpConn)

/-! ## The server -/

/-- The two tables: `acConnectionMap` and `dbConnectionMap`. -/
inductive Kind
  | ac
  | db
  deriving DecidableEq

/-- `conn.isACConnection` and `conn.isDBConnection`. -/
def Kind.flag : Kind → UdpConn → Bool
  | .ac, conn => conn.isACConnection
  | .db, conn => conn.isDBConnection

/-- The header type that sets the flag of a new connection. -/
def Kind.headerType : Kind → HeaderType
  | .ac => .aol
  | .db => .dol

/-- How far the deferred clean-up of a connection's routine has come; behind it the connection is closed. -/
inductive Stage
  | serving
  | acCleaned
  | dbCleaned
  deriving DecidableEq

/-- The stage in which the clean-up looks at a table. -/
def Stage.before : Kind → Stage
  | .ac => .serving
  | .db => .acCleaned

/-- Where the routine stands behind the clean-up of a table. -/
def Stage.after : Kind → Stage
  | .ac => .acCleaned
  | .db => .dbCleaned

/-- The routine has not come to a table yet. -/
def Stage.Ahead : Stage → Kind → Prop
  | .serving, _ => True
  | .acCleaned, k => k = .db
  | .dbCleaned, _ => False

instance (stage : Stage) (k : Kind) : Decidable (stage.Ahead k) := by
  cases stage <;> simp only [Stage.Ahead] <;> infer_instance

/-- An entry is the connection of an `ACConn` or a `DBConn`. -/
abbrev Table := AList fun _ : String => Nat

/-- The server, its two tables, and where the routine of each connection stands. -/
structure State where
  server : Connections.State
  acConnectionMap : Table
  dbConnectionMap : Table
  stage : Nat → Stage

namespace State

/-- No one is online. -/
def start : State where
  server := .start
  acConnectionMap := ∅
  dbConnectionMap := ∅
  stage _ := .serving

variable (s : State)

/-- One of the two tables. -/
def table : Kind → Table
  | .ac => s.acConnectionMap
  | .db => s.dbConnectionMap

/-- And a new one in its place. -/
def setTable (table : Table) : Kind → State
  | .ac => { s with acConnectionMap := table }
  | .db => { s with dbConnectionMap := table }

/-- A routine moves on. -/
def setStage (c : Nat) (stage : Stage) : State :=
  { s with stage := Function.update s.stage c stage }

/-- What these change, and what they do not. -/
@[simp] theorem table_setTable (table : Table) (k k' : Kind) :
    (s.setTable table k).table k' = if k' = k then table else s.table k' := by
  cases k <;> cases k' <;> rfl

@[simp] theorem server_setTable (table : Table) (k : Kind) : (s.setTable table k).server = s.server := by
  cases k <;> rfl

@[simp] theorem stage_setTable (table : Table) (k : Kind) : (s.setTable table k).stage = s.stage := by
  cases k <;> rfl

@[simp] theorem table_setStage (c : Nat) (stage : Stage) (k : Kind) :
    (s.setStage c stage).table k = s.table k := by
  cases k <;> rfl

@[simp] theorem server_setStage (c : Nat) (stage : Stage) : (s.setStage c stage).server = s.server := rfl

end State

/-! ## Steps -/

/-- What the handlers and the routines of connections do. -/
inductive Act
  /-- An act of the connection table that ends no routine. -/
  | serve (a : Connections.Act)
  /-- `HandleACOnline` or `HandleDBOnline` with a message that came over a connection. -/
  | online (k : Kind) (c : Nat) (id : String)
  /-- The clean-up of one table; `found` is the id at which the range over the map stops. -/
  | cleanUp (k : Kind) (c : Nat) (found : Option String)
  /-- The deletion from `remoteConnectionMap` and `Close`. -/
  | close (c : Nat)

section

-- the time a connection was made at, in nanoseconds
variable (initTime : Nat → Int)

/-- The ids whose connection equals `c`: `ConnectionData.Equal` compares the times. -/
def equalIds (table : Table) (c : Nat) : List String :=
  (table.entries.filter fun entry => initTime entry.2 = initTime c).map Sigma.fst

/-- The ids whose connections were made at the time of this one. -/
theorem mem_equalIds {table : Table} {c : Nat} {id : String} :
    id ∈ equalIds initTime table c ↔ ∃ d, table.lookup id = some d ∧ initTime d = initTime c := by
  constructor
  · intro h
    obtain ⟨⟨id', d⟩, hentry, rfl⟩ := List.mem_map.mp h
    obtain ⟨hmem, htime⟩ := List.mem_filter.mp hentry
    exact ⟨d, AList.mem_lookup_iff.mpr hmem, of_decide_eq_true htime⟩
  · rintro ⟨d, hlookup, htime⟩
    have hmem : (⟨id, d⟩ : Sigma fun _ : String => Nat) ∈ table.entries := AList.mem_lookup_iff.mp hlookup
    exact List.mem_map.mpr ⟨⟨id, d⟩, List.mem_filter.mpr ⟨hmem, decide_eq_true htime⟩, rfl⟩

/-- What the range over a map can leave in `acToDelete`: the id of an equal connection, or nothing when
    there is none. -/
def Found (table : Table) (c : Nat) : Option String → Prop
  | some id => id ∈ equalIds initTime table c
  | none => equalIds initTime table c = []

instance (table : Table) (c : Nat) (found : Option String) : Decidable (Found initTime table c found) := by
  cases found <;> simp only [Found] <;> infer_instance

/-- What an act leads to, if it can happen.  `acToDelete` is empty when nothing was found, and is deleted
    all the same. -/
def step (s : State) : Act → Option State
  | .serve (.remove _) => none
  | .serve a => (Connections.step s.server a).map fun server => { s with server }
  | .online k c id =>
    if c < s.server.conns.length then some (s.setTable ((s.table k).insert id c) k) else none
  | .cleanUp k c found =>
    match s.server.conns[c]? with
    | some conn =>
      if conn.ended = false ∧ s.stage c = .before k then
        if k.flag conn then
          if Found initTime (s.table k) c found then
            some ((s.setTable ((s.table k).erase (found.getD "")) k).setStage c (.after k))
          else none
        else some (s.setStage c (.after k))
      else none
    | none => none
  | .close c =>
    if s.stage c = .dbCleaned then
      (Connections.step s.server (.remove c)).map fun server => { s with server }
    else none

end

/-! ## Live entries -/

/-- The routine of a connection has not finished closing it. -/
def State.Open (s : State) (c : Nat) : Prop :=
  ∃ conn, s.server.conns[c]? = some conn ∧ conn.ended = false

/-- The tables hold only live connections. -/
def State.Live (s : State) : Prop := ∀ k id c, (s.table k).lookup id = some c → s.Open c

/-- The connection whose routine an act ends. -/
def Act.closes : Act → Option Nat
  | .cleanUp _ c _ | .close c => some c
  | .serve _ | .online .. => none

/-- Every entry of another connection is still there. -/
def KeepsOthers (s : State) (c : Nat) (s' : State) : Prop :=
  ∀ k id d, (s.table k).lookup id = some d → d ≠ c → (s'.table k).lookup id = some d

variable (initTime : Nat → Int)

/-- After an act every entry leads to a live connection, and the end of a connection took no entry of
    another. -/
def Sound (s : State) (a : Act) : Prop :=
  ∀ s', step initTime s a = some s' → s'.Live ∧ ∀ c, a.closes = some c → KeepsOthers s c s'

/-- What the clean-up of a table relies on: a connection has at most one id in it, and none unless its
    first packet was for it; no other connection in it was made at the same time; and where the clean-up
    finds nothing, nobody is online under the empty id. -/
structure CleanEnd (s : State) (k : Kind) (c : Nat) (conn : UdpConn) : Prop where
  flagged : ∀ id, (s.table k).lookup id = some c → k.flag conn = true
  oneId : ∀ id id', (s.table k).lookup id = some c → (s.table k).lookup id' = some c → id = id'
  ownTime : k.flag conn = true → ∀ id d, (s.table k).lookup id = some d → initTime d = initTime c → d = c
  noEmptyId : k.flag conn = true → (∀ id, (s.table k).lookup id ≠ some c) →
    (s.table k).lookup "" = none

instance decidableCleanEnd (s : State) (k : Kind) (c : Nat) (conn : UdpConn) :
    Decidable (CleanEnd initTime s k c conn) :=
  have hmem (id : String) (d : Nat) : (s.table k).lookup id = some d ↔
      (⟨id, d⟩ : Sigma fun _ : String => Nat) ∈ (s.table k).entries := AList.mem_lookup_iff
  decidable_of_iff ((∀ e ∈ (s.table k).entries, e.2 = c → k.flag conn = true) ∧
      (∀ e ∈ (s.table k).entries, ∀ e' ∈ (s.table k).entries, e.2 = c → e'.2 = c → e.1 = e'.1) ∧
      (k.flag conn = true → ∀ e ∈ (s.table k).entries, initTime e.2 = initTime c → e.2 = c) ∧
      (k.flag conn = true → (∀ e ∈ (s.table k).entries, e.2 ≠ c) → (s.table k).lookup "" = none))
    ⟨fun ⟨hflagged, honeId, hownTime, hnoEmptyId⟩ =>
      { flagged := fun id hid => hflagged ⟨id, c⟩ ((hmem id c).mp hid) rfl
        oneId := fun id id' hid hid' =>
          honeId ⟨id, c⟩ ((hmem id c).mp hid) ⟨id', c⟩ ((hmem id' c).mp hid') rfl rfl
        ownTime := fun hflag id d hid => hownTime hflag ⟨id, d⟩ ((hmem id d).mp hid)
        noEmptyId := fun hflag hnone => hnoEmptyId hflag fun e he heq =>
          hnone e.1 ((hmem e.1 c).mpr (heq ▸ he)) },
      fun h => ⟨fun e he heq => h.flagged e.1 ((hmem e.1 c).mpr (heq ▸ he)),
        fun e he e' he' heq heq' =>
          h.oneId e.1 e'.1 ((hmem e.1 c).mpr (heq ▸ he)) ((hmem e'.1 c).mpr (heq' ▸ he')),
        fun hflag e he => h.ownTime hflag e.1 e.2 ((hmem e.1 e.2).mpr he),
        fun hflag hnone => h.noEmptyId hflag fun id hid => hnone ⟨id, c⟩ ((hmem id c).mp hid) rfl⟩⟩

/-- An id comes online before the routine of its connection has come to the table, and the ids are such
    that its clean-up finds the right one. -/
def Expected (s : State) : Act → Prop
  | .serve _ | .close _ => True
  | .online k c _ => (s.stage c).Ahead k
  | .cleanUp k c _ => ∀ conn, s.server.conns[c]? = some conn → CleanEnd initTime s k c conn

instance (s : State) : (a : Act) → Decidable (Expected initTime s a)
  | .serve _ | .close _ => inferInstanceAs (Decidable True)
  | .online k c _ => inferInstanceAs (Decidable ((s.stage c).Ahead k))
  | .cleanUp k c _ =>
    inferInstanceAs (Decidable (∀ conn ∈ s.server.conns[c]?, CleanEnd initTime s k c conn))

/-! ## The clean-up of a table -/

/-- The clean-up removes every entry of its connection, and no other. -/
def Clears (s : State) (k : Kind) (c : Nat) (found : Option String) : Prop :=
  ∀ s', step initTime s (.cleanUp k c found) = some s' →
    (∀ id, (s'.table k).lookup id ≠ some c) ∧ KeepsOthers s c s'

/-- The clean-up of a table that the connection's first packet was not for. -/
theorem step_cleanUp_skip {s : State} {k : Kind} {c : Nat} {conn : UdpConn}
    (hconn : s.server.conns[c]? = some conn) (hended : conn.ended = false)
    (hstage : s.stage c = .before k) (hflag : k.flag conn = false) (found : Option String) :
    step initTime s (.cleanUp k c found) = some (s.setStage c (.after k)) := by
  simp [step, hconn, hended, hstage, hflag]

/-- A clean-up deletes the entry at which its range stops, or that of the empty id. -/
theorem step_cleanUp_erase {s : State} {k : Kind} {c : Nat} {conn : UdpConn}
    (hconn : s.server.conns[c]? = some conn) (hended : conn.ended = false)
    (hstage : s.stage c = .before k) (hflag : k.flag conn = true) {found : Option String}
    (hfound : Found initTime (s.table k) c found) :
    step initTime s (.cleanUp k c found)
      = some ((s.setTable ((s.table k).erase (found.getD "")) k).setStage c (.after k)) := by
  simp [step, hconn, hended, hstage, hflag, hfound]

/-- A clean-up is one of the two. -/
theorem step_cleanUp_cases {s s' : State} {k : Kind} {c : Nat} {found : Option String}
    (h : step initTime s (.cleanUp k c found) = some s') :
    ∃ conn, s.server.conns[c]? = some conn ∧ conn.ended = false ∧ s.stage c = .before k ∧
      (k.flag conn = false ∧ s' = s.setStage c (.after k) ∨
        k.flag conn = true ∧ Found initTime (s.table k) c found ∧
          s' = (s.setTable ((s.table k).erase (found.getD "")) k).setStage c (.after k)) := by
  simp only [step] at h
  split at h
  · rename_i conn hconn
    split_ifs at h with hserving hflag hfound
    · exact ⟨conn, hconn, hserving.1, hserving.2, .inr ⟨hflag, hfound, (Option.some.inj h).symm⟩⟩
    · exact ⟨conn, hconn, hserving.1, hserving.2,
        .inl ⟨Bool.eq_false_iff.mpr hflag, (Option.some.inj h).symm⟩⟩
  · cases h

/-- An end that is clean takes its own entry only, wherever the range stops. -/
theorem CleanEnd.clears {s : State} {k : Kind} {c : Nat} {conn : UdpConn}
    (h : CleanEnd initTime s k c conn) (hconn : s.server.conns[c]? = some conn) (found : Option String) :
    Clears initTime s k c found := by
  intro s' hstep
  obtain ⟨conn', hconn', -, -, hcase⟩ := step_cleanUp_cases initTime hstep
  obtain rfl := Option.some.inj (hconn.symm.trans hconn')
  rcases hcase with ⟨hflag, rfl⟩ | ⟨hflag, hfound, rfl⟩
  · -- the first packet was of another type: the table is left as it is, and has no entry of the connection
    refine ⟨fun id hid => ?_, fun k' id d hd _ => ?_⟩
    · rw [State.table_setStage] at hid
      exact absurd (h.flagged id hid) (by simp [hflag])
    · rw [State.table_setStage]
      exact hd
  · cases found with
    | some id =>
      -- the entry that is found has the connection's time, so it is its own
      obtain ⟨d, hd, htime⟩ := (mem_equalIds initTime).mp hfound
      obtain rfl := h.ownTime hflag id d hd htime
      refine ⟨fun id' hid' => ?_, fun k' id' d' hd' hne => ?_⟩
      · rw [State.table_setStage, State.table_setTable, if_pos rfl, AList.lookup_erase_eq_ite] at hid'
        split_ifs at hid' with hsame
        exact hsame (h.oneId id' id hid' hd)
      · rw [State.table_setStage, State.table_setTable]
        split_ifs with hk
        · subst hk
          rw [AList.lookup_erase_eq_ite, if_neg]
          · exact hd'
          · rintro rfl
            exact hne (Option.some.inj (hd'.symm.trans hd))
        · exact hd'
    | none =>
      -- nothing is found: the deletion is of the empty id, which nobody has
      have hnone : ∀ id, (s.table k).lookup id ≠ some c := by
        intro id hid
        have hmem : id ∈ equalIds initTime (s.table k) c := (mem_equalIds initTime).mpr ⟨c, hid, rfl⟩
        rw [show equalIds initTime (s.table k) c = [] from hfound] at hmem
        exact absurd hmem List.not_mem_nil
      have hempty := h.noEmptyId hflag hnone
      refine ⟨fun id hid => ?_, fun k' id d hd _ => ?_⟩
      · rw [State.table_setStage, State.table_setTable, if_pos rfl, AList.lookup_erase_eq_ite] at hid
        split_ifs at hid
        exact hnone id hid
      · rw [State.table_setStage, State.table_setTable]
        split_ifs with hk
        · subst hk
          rw [AList.lookup_erase_eq_ite, if_neg]
          · exact hd
          · rintro rfl
            exact absurd (hd.symm.trans hempty) nofun
        · exact hd

/-- Whatever the range over the map finds, the clean-up is right exactly when the ids are such. -/
theorem clears_iff {s : State} {k : Kind} {c : Nat} {conn : UdpConn}
    (hconn : s.server.conns[c]? = some conn) (hended : conn.ended = false)
    (hstage : s.stage c = .before k) :
    (∀ found, Clears initTime s k c found) ↔ CleanEnd initTime s k c conn := by
  refine ⟨fun h => ?_, fun h found => h.clears initTime hconn found⟩
  have hown : k.flag conn = true → ∀ id d, (s.table k).lookup id = some d → initTime d = initTime c →
      d = c := by
    intro hflag id d hd htime
    by_contra hne
    have hfound : Found initTime (s.table k) c (some id) := (mem_equalIds initTime).mpr ⟨d, hd, htime⟩
    have hkept := (h _ _ (step_cleanUp_erase initTime hconn hended hstage hflag hfound)).2 k id d hd hne
    rw [State.table_setStage, State.table_setTable, if_pos rfl, AList.lookup_erase_eq_ite] at hkept
    simp at hkept
  have hflagged : ∀ id, (s.table k).lookup id = some c → k.flag conn = true := by
    intro id hid
    by_contra hflag
    have hflag : k.flag conn = false := Bool.eq_false_iff.mpr hflag
    have hcleared := (h none _ (step_cleanUp_skip initTime hconn hended hstage hflag none)).1 id
    rw [State.table_setStage] at hcleared
    exact hcleared hid
  refine ⟨hflagged, fun id id' hid hid' => ?_, hown, fun hflag hnone => ?_⟩
  · have hfound : Found initTime (s.table k) c (some id) := (mem_equalIds initTime).mpr ⟨c, hid, rfl⟩
    have hcleared :=
      (h _ _ (step_cleanUp_erase initTime hconn hended hstage (hflagged id hid) hfound)).1 id'
    rw [State.table_setStage, State.table_setTable, if_pos rfl, AList.lookup_erase_eq_ite] at hcleared
    by_contra hne
    rw [Option.getD_some, if_neg (fun heq => hne heq.symm)] at hcleared
    exact hcleared hid'
  · have hfound : Found initTime (s.table k) c none := by
      refine List.eq_nil_iff_forall_not_mem.mpr fun id hmem => ?_
      obtain ⟨d, hd, htime⟩ := (mem_equalIds initTime).mp hmem
      exact hnone id (hown hflag id d hd htime ▸ hd)
    have hkept := (h _ _ (step_cleanUp_erase initTime hconn hended hstage hflag hfound)).2 k ""
    cases hlookup : (s.table k).lookup "" with
    | none => rfl
    | some d =>
      have hd := hkept d hlookup fun heq => hnone "" (heq ▸ hlookup)
      rw [State.table_setStage, State.table_setTable, if_pos rfl, AList.lookup_erase_eq_ite] at hd
      simp at hd

/-! ## Runs -/

/-- Every entry leads to a connection whose routine has not come to the table, and a closed connection
    has been to both. -/
structure Inv (s : State) : Prop where
  ahead : ∀ k id c, (s.table k).lookup id = some c →
    c < s.server.conns.length ∧ (s.stage c).Ahead k
  ended : ∀ (c : Nat) conn, s.server.conns[c]? = some conn → conn.ended = true → s.stage c = .dbCleaned

/-- Every entry leads to a connection that is not closed. -/
theorem Inv.live {s : State} (h : Inv s) : s.Live := by
  intro k id c hid
  obtain ⟨hlt, hahead⟩ := h.ahead k id c hid
  refine ⟨s.server.conns[c], List.getElem?_eq_getElem hlt, ?_⟩
  by_contra hended
  rw [h.ended c _ (List.getElem?_eq_getElem hlt) (Bool.not_eq_false _ ▸ hended)] at hahead
  exact hahead

/-- The other acts of the connection table end no routine. -/
theorem ended_of_serve {s s' : Connections.State} {a : Connections.Act}
    (ha : ∀ c, a ≠ .remove c) (h : Connections.step s a = some s') :
    s.conns.length ≤ s'.conns.length ∧ ∀ (c : Nat) conn', s'.conns[c]? = some conn' → conn'.ended = true →
      ∃ conn, s.conns[c]? = some conn ∧ conn.ended = true := by
  -- Where a connection is added, the ended ones are among the old: the new one has just begun.
  have hadd : ∀ (conn : UdpConn) (c : Nat) conn', conn.ended = false →
      (s.conns ++ [conn])[c]? = some conn' → conn'.ended = true →
        ∃ conn, s.conns[c]? = some conn ∧ conn.ended = true := by
    intro conn c conn' hnew hget hended
    rw [List.getElem?_append] at hget
    split_ifs at hget with hlt
    · exact ⟨conn', hget, hended⟩
    · obtain ⟨_, hlast⟩ := List.getElem?_eq_some_iff.mp hget
      rw [List.getElem_singleton] at hlast
      rw [← hlast, hnew] at hended
      cases hended
  cases a with
  | receive addr headerType =>
    simp only [Connections.step] at h
    split_ifs at h
    split at h <;> obtain rfl := Option.some.inj h <;>
      exact ⟨le_rfl, fun c conn hget hended => ⟨conn, hget, hended⟩⟩
  | test =>
    simp only [Connections.step] at h
    split at h
    · obtain rfl := Option.some.inj h
      have hconns : ∀ addr headerType, (s.testSize addr headerType).conns = s.conns := by
        intro addr headerType
        rw [Connections.State.testSize]
        split_ifs <;> rfl
      rw [hconns]
      exact ⟨le_rfl, fun c conn hget hended => ⟨conn, hget, hended⟩⟩
    · cases h
  | create =>
    simp only [Connections.step] at h
    split at h
    · obtain rfl := Option.some.inj h
      exact ⟨by simp [Connections.State.add], fun c conn' => hadd _ c conn' rfl⟩
    · cases h
  | openChannel id =>
    obtain rfl := Option.some.inj h
    exact ⟨by simp [Connections.State.add], fun c conn' => hadd _ c conn' rfl⟩
  | closeChannel id =>
    simp only [Connections.step] at h
    split at h
    · rename_i d _
      obtain rfl := Option.some.inj h
      refine ⟨by simp [Connections.State.closeChannel], fun c conn' hget hended => ?_⟩
      simp only [Connections.State.closeChannel, List.getElem?_modify] at hget
      obtain ⟨conn, hconn, rfl⟩ := Option.map_eq_some_iff.mp hget
      refine ⟨conn, hconn, ?_⟩
      split_ifs at hended <;> exact hended
    · obtain rfl := Option.some.inj h
      exact ⟨le_rfl, fun c conn hget hended => ⟨conn, hget, hended⟩⟩
  | remove c => exact absurd rfl (ha c)

/-- A routine moves on past a table that does not lead to its connection. -/
theorem Inv.setStage {s : State} (h : Inv s) (k : Kind) (c : Nat) (hstage : s.stage c = .before k)
    (hcleared : ∀ id, (s.table k).lookup id ≠ some c)
    (hopen : ∀ conn, s.server.conns[c]? = some conn → conn.ended = false) :
    Inv (s.setStage c (.after k)) := by
  constructor
  · intro k' id d hid
    rw [State.table_setStage] at hid
    obtain ⟨hlt, hahead⟩ := h.ahead k' id d hid
    refine ⟨hlt, ?_⟩
    simp only [State.setStage, Function.update_apply]
    split_ifs with hd
    · subst hd
      rw [hstage] at hahead
      cases k <;> cases k'
      · exact absurd hid (hcleared id)
      · rfl
      · exact absurd hahead nofun
      · exact absurd hid (hcleared id)
    · exact hahead
  · intro d conn hget hended
    simp only [State.setStage, Function.update_apply]
    split_ifs with hd
    · subst hd
      rw [hopen conn hget] at hended
      cases hended
    · exact h.ended d conn hget hended

/-- A table gets entries of routines that are ahead of its clean-up. -/
theorem Inv.setTable {s : State} (h : Inv s) (table : Table) (k : Kind)
    (htable : ∀ id c, table.lookup id = some c → (s.table k).lookup id = some c ∨
      c < s.server.conns.length ∧ (s.stage c).Ahead k) : Inv (s.setTable table k) := by
  constructor
  · intro k' id c hid
    rw [State.table_setTable] at hid
    rw [State.server_setTable, State.stage_setTable]
    split_ifs at hid with hk
    · subst hk
      rcases htable id c hid with hid | hnew
      · exact h.ahead k' id c hid
      · exact hnew
    · exact h.ahead k' id c hid
  · intro c conn hget hended
    rw [State.server_setTable] at hget
    rw [State.stage_setTable]
    exact h.ended c conn hget hended

/-- What an expected act does keeps the invariant. -/
theorem Inv.after {s s' : State} {a : Act} (h : Inv s) (ha : Expected initTime s a)
    (hstep : step initTime s a = some s') : Inv s' := by
  cases a with
  | serve a =>
    by_cases hremove : ∃ c, a = .remove c
    · obtain ⟨c, rfl⟩ := hremove
      cases hstep
    · have hne : ∀ c, a ≠ .remove c := fun c heq => hremove ⟨c, heq⟩
      have hserve : step initTime s (.serve a)
          = (Connections.step s.server a).map fun server => { s with server } := by
        cases a with
        | remove c => exact absurd rfl (hne c)
        | _ => rfl
      rw [hserve] at hstep
      obtain ⟨server, hserver, rfl⟩ := Option.map_eq_some_iff.mp hstep
      obtain ⟨hlength, hended⟩ := ended_of_serve hne hserver
      constructor
      · intro k id c hid
        obtain ⟨hlt, hahead⟩ := h.ahead k id c (by cases k <;> exact hid)
        exact ⟨lt_of_lt_of_le hlt hlength, hahead⟩
      · intro c conn hget hconn
        obtain ⟨conn', hget', hconn'⟩ := hended c conn hget hconn
        exact h.ended c conn' hget' hconn'
  | online k c id =>
    simp only [step] at hstep
    split_ifs at hstep with hlt
    obtain rfl := Option.some.inj hstep
    -- the id leads to the connection now, any other id to where it led
    refine h.setTable _ k fun id' c' hid' => ?_
    rw [AList.lookup_insert_eq_ite] at hid'
    split_ifs at hid' with hsame
    · obtain rfl := Option.some.inj hid'
      exact .inr ⟨hlt, ha⟩
    · exact .inl hid'
  | cleanUp k c found =>
    obtain ⟨conn, hconn, hended, hstage, hcase⟩ := step_cleanUp_cases initTime hstep
    have hcleared := ((ha conn hconn).clears initTime hconn found s' hstep).1
    have hopen : ∀ conn', s.server.conns[c]? = some conn' → conn'.ended = false := by
      intro conn' hconn'
      rw [← Option.some.inj (hconn.symm.trans hconn')]
      exact hended
    rcases hcase with ⟨-, rfl⟩ | ⟨-, -, rfl⟩
    · exact h.setStage k c hstage (fun id => by simpa using hcleared id) hopen
    · have hset : Inv (s.setTable ((s.table k).erase (found.getD "")) k) := by
        refine h.setTable _ k fun id d hid => .inl ?_
        rw [AList.lookup_erase_eq_ite] at hid
        split_ifs at hid
        exact hid
      refine hset.setStage k c (by simpa using hstage) (fun id => ?_) (by simpa using hopen)
      simpa using hcleared id
  | close c =>
    simp only [step] at hstep
    split_ifs at hstep with hstage
    obtain ⟨server, hserver, rfl⟩ := Option.map_eq_some_iff.mp hstep
    simp only [Connections.step] at hserver
    split at hserver
    · rename_i conn hconn
      split_ifs at hserver
      obtain rfl := Option.some.inj hserver
      constructor
      · intro k id d hid
        obtain ⟨hlt, hahead⟩ := h.ahead k id d (by cases k <;> exact hid)
        exact ⟨by simpa [Connections.State.remove] using hlt, hahead⟩
      · intro d conn' hget hended
        simp only [Connections.State.remove, List.getElem?_set] at hget
        split_ifs at hget with hd
        · subst hd
          exact hstage
        · exact h.ended d conn' hget hended
    · cases hserver

/-- Both tables are empty. -/
theorem inv_start : Inv .start := by
  constructor
  · intro k id c hid
    cases k <;> exact absurd hid nofun
  · intro c conn hget
    exact absurd hget nofun

/-- An expected act is sound. -/
theorem Inv.sound {s : State} {a : Act} (h : Inv s) (ha : Expected initTime s a) :
    Sound initTime s a := by
  intro s' hstep
  refine ⟨(h.after initTime ha hstep).live, fun c hcloses => ?_⟩
  cases a with
  | serve a => cases hcloses
  | online k c' id => cases hcloses
  | cleanUp k c' found =>
    obtain rfl := Option.some.inj hcloses
    obtain ⟨conn, hconn, -⟩ := step_cleanUp_cases initTime hstep
    exact ((ha conn hconn).clears initTime hconn found s' hstep).2
  | close c' =>
    simp only [step] at hstep
    split_ifs at hstep
    obtain ⟨server, -, rfl⟩ := Option.map_eq_some_iff.mp hstep
    intro k id d hid _
    cases k <;> exact hid

/-- In every run in which ids come online as the clean-up expects, the tables hold only live connections and
    the end of one connection never takes the entry of another. -/
theorem tables_live (acts : List Act) (h : Runs.Steps (step initTime) (Expected initTime) .start acts) :
    Runs.Steps (step initTime) (Sound initTime) .start acts := by
  refine Runs.steps_imp (I := Inv) ?_ ?_ inv_start h
  · exact fun s a hs ha => hs.sound initTime ha
  · exact fun s a s' hs ha hstep => hs.after initTime ha hstep

/-- An AC comes online with its first packet; an agent knocks from another address; the AC's connection
    times out. -/
def orderlyActs : List Act :=
  [.serve (.receive "10.0.0.1:62206" .aol), .serve .test, .serve .create, .online .ac 0 "ac-1",
    .serve (.receive "10.0.0.2:40000" .knk), .serve .test, .serve .create,
    .cleanUp .ac 0 (some "ac-1"), .cleanUp .db 0 none, .close 0]

/-- Each of these acts is sound. -/
theorem tables_live_sample :
    Runs.Steps (step fun c => c) (Sound fun c => c) .start orderlyActs :=
  tables_live _ orderlyActs (by decide)

/-- A server that was started again sees a keepalive of an AC first, and then its report; the connection
    times out. -/
def keepaliveFirst : List Act :=
  [.serve (.receive "10.0.0.1:62206" .kpl), .serve .test, .serve .create, .online .ac 0 "ac-1",
    .cleanUp .ac 0 none, .cleanUp .db 0 none, .close 0]

/-- The AC's entry stays behind and leads to the closed connection. -/
theorem stale_entry : ∃ t, Runs.run (step fun c => c) .start keepaliveFirst = some t ∧
    t.acConnectionMap.lookup "ac-1" = some 0 ∧ ¬t.Open 0 ∧
    ¬Runs.Steps (step fun c => c) (Sound fun c => c) .start keepaliveFirst := by
  obtain ⟨t, hrun⟩ := Option.isSome_iff_exists.mp
    (show (Runs.run (step fun c => c) .start keepaliveFirst).isSome from by decide)
  have hentry : ((Runs.run (step fun c => c) .start keepaliveFirst).bind
      fun t => t.acConnectionMap.lookup "ac-1") = some 0 := by decide
  have hended : ((Runs.run (step fun c => c) .start keepaliveFirst).bind
      fun t => t.server.conns[0]?.map UdpConn.ended) = some true := by decide
  rw [hrun, Option.bind_some] at hentry hended
  have hclosed : ¬t.Open 0 := by
    rintro ⟨conn, hconn, hopen⟩
    rw [hconn, Option.map_some, hopen] at hended
    exact absurd hended (by decide)
  refine ⟨t, hrun, hentry, hclosed, fun hsound => ?_⟩
  have hlive : t.Live := Runs.run_invariant_of (I := State.Live)
    (fun s a s' hC _ hstep => (hC s' hstep).1) hsound inv_start.live hrun
  exact hclosed (hlive .ac "ac-1" 0 hentry)

/-- One AC comes online under the empty id, and the report of another is not accepted. -/
def emptyId : List Act :=
  [.serve (.receive "10.0.0.1:62206" .aol), .serve .test, .serve .create, .online .ac 0 "",
    .serve (.receive "10.0.0.2:62206" .aol), .serve .test, .serve .create]

/-- The end of the second connection, which has no entry, takes the entry of the first. -/
theorem empty_id_taken : ∃ s s', Runs.run (step fun c => c) .start emptyId = some s ∧
    step (fun c => c) s (.cleanUp .ac 1 none) = some s' ∧ ¬KeepsOthers s 1 s' := by
  obtain ⟨s, hrun⟩ := Option.isSome_iff_exists.mp
    (show (Runs.run (step fun c => c) .start emptyId).isSome from by decide)
  have hcleaned : ((Runs.run (step fun c => c) .start emptyId).bind
      fun s => step (fun c => c) s (.cleanUp .ac 1 none)).isSome := by decide
  have hentries : ((Runs.run (step fun c => c) .start emptyId).bind fun s =>
      (step (fun c => c) s (.cleanUp .ac 1 none)).bind fun s' =>
        some (s.acConnectionMap.lookup "", s'.acConnectionMap.lookup "")) = some (some 0, none) := by decide
  rw [hrun, Option.bind_some] at hcleaned hentries
  obtain ⟨s', hstep⟩ := Option.isSome_iff_exists.mp hcleaned
  rw [hstep, Option.bind_some, Option.some.injEq, Prod.mk.injEq] at hentries
  refine ⟨s, s', hrun, hstep, fun hkeeps => ?_⟩
  have hkept := hkeeps .ac "" 0 hentries.1 (by decide)
  exact absurd (hentries.2.symm.trans hkept) nofun

end OpenNHP.Server.Online
