/-
  The transaction maps (`nhp/core/transaction.go`, `device.go`).

  THE PROGRAM.  A request opens a transaction under an id and puts it into a map, the device's for one that was
  sent, the connection's for one that was received.  When the transaction is done, its goroutine deletes the
  entry of its id.

  THE SPECIFICATION.  The maps are exact: each id leads to the unfinished transaction that has it, if there is
  one (`State.MapsExact`).

  THE CRUX.  `localTransactionMap` and the `RemoteTransactionMap` of each connection are registries
  (`OpenNHP.Lib.Registry`): an addition overwrites the entry of its id, and a clean-up deletes the entry of its
  id, whosever it is by then.  Both do no harm while the ids of unfinished transactions differ.

  WHERE IT FAILS.  The ids come from the device's counter, from the counters of remote peers and, for derived
  messages, from the request that is answered, so that two unfinished transactions can have one id
  (`derived_request_hides`).

  ASSEMBLY.  A step adds, removes or leaves the registries alone (`localRegistry_step`, `remoteRegistry_step`),
  and the maps are exact in every run that never adds a transaction under the id of an unfinished one
  (`transaction_maps_exact`).
-/
import OpenNHP.Lib.Registry
import OpenNHP.Core.Network
import OpenNHP.Core.Routines

namespace OpenNHP.Core.Routines

open OpenNHP.Core

variable {M : Type} {C : Crypto M}

/-! ## Exact maps -/

/-- The clean-up has not deleted the entry yet. -/
def LocalPhase.registered : LocalPhase C → Bool
  | .removed | .done => false
  | _ => true

/-- The clean-up has not come to the map yet. -/
def RemotePhase.registered : RemotePhase C → Bool
  | .removed => false
  | _ => true

/-- Each map leads from an id to the transaction that was added under it and has not finished, and to
    nothing else. -/
structure State.MapsExact (s : State C) : Prop where
  locals : ∀ (id : UInt64) (i : Nat), s.localTransactionMap id = some i ↔
    ∃ t, s.locals[i]? = some t ∧ t.transactionId = id ∧ t.phase.registered = true
  remotes : ∀ (c : Nat) conn, s.conns[c]? = some conn → ∀ (id : UInt64) (i : Nat),
    conn.remoteTransactionMap id = some i ↔
    ∃ t, s.remotes[i]? = some t ∧ t.connData = c ∧ t.transactionId = id ∧ t.phase.registered = true

/-- The id under which a message adds its local transaction: a derived message continues with the counter
    of its request. -/
def OutMsg.transactionId (m : OutMsg C) : UInt64 :=
  match m.md.prevParserData with
  | some ppd => ppd.senderTrxId
  | none => m.md.transactionId

/-- A transaction is added only under an id that no unfinished one has. -/
def AddsFresh (s : State C) : Act C → Prop
  | .assemble m _ _ _ _ =>
    isTransactionRequest s.device.deviceType m.md.headerType = true → m.encryptedPktCh = false →
      ∀ t ∈ s.locals, t.phase.registered = true → t.transactionId ≠ m.transactionId
  | .parse pd _ _ =>
    isTransactionRequest s.device.deviceType (packetType pd.content) = true → pd.feedbackMsgCh = none →
      ∀ t ∈ s.remotes, t.connData = pd.connData → t.phase.registered = true →
        t.transactionId ≠ pd.content.common.counter
  | _ => True

/-! ## The registries -/

/-- The device's map as a registry. -/
def State.localRegistry (s : State C) : Registry UInt64 where
  entries := s.locals.map fun t => (t.transactionId, t.phase.registered)
  index := s.localTransactionMap

/-- All connections' remote transactions, keyed by connection and id. -/
def State.remoteRegistry (s : State C) : Registry (Nat × UInt64) where
  entries := s.remotes.map fun t => ((t.connData, t.transactionId), t.phase.registered)
  index := fun k => (s.conns[k.1]?).bind fun conn => conn.remoteTransactionMap k.2

/-- Exact registries are exact maps. -/
theorem State.mapsExact_of {s : State C} (hlocal : s.localRegistry.Exact)
    (hremote : s.remoteRegistry.Exact) : s.MapsExact := by
  refine ⟨fun id i => ?_, fun c conn hconn id i => ?_⟩
  · refine (hlocal id i).trans ?_
    show (s.locals.map _)[i]? = _ ↔ _
    simp [List.getElem?_map, Option.map_eq_some_iff]
  · have hindex : s.remoteRegistry.index (c, id) = conn.remoteTransactionMap id := by
      show (s.conns[c]?).bind _ = _
      rw [hconn]
      rfl
    rw [← hindex]
    refine (hremote (c, id) i).trans ?_
    show (s.remotes.map _)[i]? = _ ↔ _
    simp [List.getElem?_map, Option.map_eq_some_iff, and_assoc]

/-- A step of a transaction that keeps its entry. -/
theorem State.localRegistry_setLocal {s : State C} {i : Nat} {t t' : LocalTransaction C}
    (ht : s.locals[i]? = some t) (hid : t'.transactionId = t.transactionId)
    (hphase : t'.phase.registered = t.phase.registered) :
    (s.setLocal i t').localRegistry = s.localRegistry := by
  obtain ⟨hi, ht⟩ := List.getElem?_eq_some_iff.mp ht
  have hbound : i < (s.locals.map fun t => (t.transactionId, t.phase.registered)).length := by
    simpa using hi
  have hentry : (t'.transactionId, t'.phase.registered) =
      (s.locals.map fun t => (t.transactionId, t.phase.registered))[i] := by
    rw [List.getElem_map, ht, hid, hphase]
  unfold State.localRegistry
  congr 1
  show (s.locals.set i t').map _ = s.locals.map _
  rw [List.map_set, hentry, List.set_getElem_self]

/-- A remote transaction that goes on under its id changes nothing. -/
theorem State.remoteRegistry_setRemote {s : State C} {i : Nat} {t t' : RemoteTransaction C}
    (ht : s.remotes[i]? = some t) (hconn : t'.connData = t.connData)
    (hid : t'.transactionId = t.transactionId) (hphase : t'.phase.registered = t.phase.registered) :
    (s.setRemote i t').remoteRegistry = s.remoteRegistry := by
  obtain ⟨hi, ht⟩ := List.getElem?_eq_some_iff.mp ht
  have hbound : i < (s.remotes.map fun t => ((t.connData, t.transactionId), t.phase.registered)).length := by
    simpa using hi
  have hentry : ((t'.connData, t'.transactionId), t'.phase.registered) =
      (s.remotes.map fun t => ((t.connData, t.transactionId), t.phase.registered))[i] := by
    rw [List.getElem_map, ht, hconn, hid, hphase]
  unfold State.remoteRegistry
  congr 1
  show (s.remotes.set i t').map _ = s.remotes.map _
  rw [List.map_set, hentry, List.set_getElem_self]

/-- The entries of one connection, where it is replaced. -/
theorem conns_set_map {conns : List (Conn M)} {c : Nat} {conn conn' : Conn M}
    (hc : conns[c]? = some conn) (k : Nat × UInt64) :
    (((conns.set c conn')[k.1]?).bind fun conn => conn.remoteTransactionMap k.2) =
      if k.1 = c then conn'.remoteTransactionMap k.2
      else (conns[k.1]?).bind fun conn => conn.remoteTransactionMap k.2 := by
  have hlt : c < conns.length := (List.getElem?_eq_some_iff.mp hc).1
  by_cases hk : k.1 = c
  · rw [if_pos hk, hk, List.getElem?_set_self hlt, Option.bind_some]
  · rw [if_neg hk, List.getElem?_set_ne (Ne.symm hk)]

/-- An entry replaced in one connection, as an entry of all. -/
theorem map_at_key {conns : List (Conn M)} {c : Nat} {conn : Conn M} (hc : conns[c]? = some conn)
    (k : Nat × UInt64) (id : UInt64) (entry : Option Nat) :
    (if k.1 = c then (if k.2 = id then entry else conn.remoteTransactionMap k.2)
      else (conns[k.1]?).bind fun conn => conn.remoteTransactionMap k.2) =
    if k = (c, id) then entry
      else (conns[k.1]?).bind fun conn => conn.remoteTransactionMap k.2 := by
  obtain ⟨c', id'⟩ := k
  simp only [Prod.mk.injEq]
  by_cases hk : c' = c
  · rw [if_pos hk, hk, hc, Option.bind_some]
    simp
  · simp [hk]

/-- A step of a connection that keeps its map. -/
theorem State.remoteRegistry_setConn {s : State C} {c : Nat} {conn conn' : Conn M}
    (hc : s.conns[c]? = some conn) (hmap : conn'.remoteTransactionMap = conn.remoteTransactionMap) :
    (s.setConn c conn').remoteRegistry = s.remoteRegistry := by
  unfold State.remoteRegistry
  congr 1
  funext k
  refine (conns_set_map hc k).trans ?_
  split
  · rename_i hk
    rw [hk, hc, hmap, Option.bind_some]
  · rfl

/-! ## What a step does to the registries -/

section Steps

variable {s s' : State C} {a : Act C}

/-- The request an accepted packet is: its type and its counter. -/
theorem receive_reads [DecidableEq M] {d : Device C} {pd : PacketData C} {nowMilli now : Int64}
    {ppd : PacketParserData C} (h : receive d pd nowMilli now = (some ppd, .ok ())) :
    ppd.headerType = packetType pd.basePacket ∧ ppd.senderTrxId = pd.basePacket.common.counter := by
  obtain ⟨-, hs, peerPk, tsBytes, d', -, hbody⟩ := receive_eq_ok_iff.mp h
  have hpassed : (pd.passed d hs peerPk tsBytes d').headerType = packetType pd.basePacket ∧
      (pd.passed d hs peerPk tsBytes d').senderTrxId = pd.basePacket.common.counter := by
    unfold PacketData.passed PacketData.checked PacketData.startState
    cases pd.prevAssemblerData with
    | none => exact ⟨rfl, rfl⟩
    | some mad => exact ⟨rfl, rfl⟩
  obtain ⟨-, rfl⟩ | ⟨-, text, body, -, -, rfl⟩ := PacketParserData.decryptBody_eq_ok.mp hbody
  · exact hpassed
  · exact hpassed

/-- The request an assembled message is. -/
theorem assemble_reads {m : OutMsg C} {conn : Conn M} {rnd : Entropy C} {buf : Packet M}
    {preamble : UInt32} {now : Int64} {mad : MsgAssemblerData C}
    (h : s.assemble m conn rnd buf preamble now = .ok mad) :
    mad.headerType = m.md.headerType ∧ mad.header.common.counter = m.transactionId := by
  obtain ⟨hs, -, -, hfrom⟩ := (createMsgAssemblerData_ready s.device (m.current s.device conn) rnd buf
    now).toBegun.encrypt_eq_ok h
  rw [hfrom.headerType, hfrom.counter]
  unfold createMsgAssemblerData OutMsg.current OutMsg.transactionId
  cases m.md.prevParserData with
  | none => exact ⟨rfl, rfl⟩
  | some ppd => exact ⟨rfl, rfl⟩

variable [DecidableEq M]

/-- The device's map: a request that was assembled, a clean-up, or nothing. -/
theorem localRegistry_step (h : Step s a s') :
    s'.localRegistry = s.localRegistry ∨
      (∃ m rnd buf preamble now, a = .assemble m rnd buf preamble now ∧
        isTransactionRequest s.device.deviceType m.md.headerType = true ∧ m.encryptedPktCh = false ∧
        s'.localRegistry = s.localRegistry.insert m.transactionId) ∨
      ∃ i t, s.locals[i]? = some t ∧ t.phase.registered = true ∧
        s'.localRegistry = s.localRegistry.remove i t.transactionId := by
  cases h with
  | assembleRequest _ _ _ _ _ hmad hexport hrequest =>
    obtain ⟨htype, hid⟩ := assemble_reads hmad
    rw [htype] at hrequest
    refine .inr (.inl ⟨_, _, _, _, _, rfl, hrequest, hexport, ?_⟩)
    rw [← hid]
    unfold State.localRegistry Registry.insert
    congr 1
    · exact List.map_append
    · simp only [List.length_map]
      rfl
  | handPacket _ ht hphase => exact .inl (State.localRegistry_setLocal ht rfl (by rw [hphase]; rfl))
  | start ht hphase => exact .inl (State.localRegistry_setLocal ht rfl (by rw [hphase]; rfl))
  | handOnPacket ht hphase => exact .inl (State.localRegistry_setLocal ht rfl (by rw [hphase]; rfl))
  | handOnExternal ht hphase => exact .inl (State.localRegistry_setLocal ht rfl (by rw [hphase]; rfl))
  | stop ht hphase => exact .inl (State.localRegistry_setLocal ht rfl (by rw [hphase]; rfl))
  | destroy ht hphase => exact .inl (State.localRegistry_setLocal ht rfl (by rw [hphase]; rfl))
  | closeChannels ht hphase => exact .inl (State.localRegistry_setLocal ht rfl (by rw [hphase]; rfl))
  | notify ht hphase => exact .inl (State.localRegistry_setLocal ht rfl (by rw [hphase]; rfl))
  | redirect _ ht hphase => exact .inl (State.localRegistry_setLocal ht rfl (by rw [hphase]; rfl))
  | remove ht hphase =>
    refine .inr (.inr ⟨_, _, ht, by rw [hphase]; rfl, ?_⟩)
    unfold State.localRegistry Registry.remove
    congr 1
    exact List.map_set
  | _ => exact .inl rfl

/-- The connections' maps: a request that was parsed, a clean-up, or nothing. -/
theorem remoteRegistry_step (h : Step s a s') :
    s'.remoteRegistry = s.remoteRegistry ∨
      (∃ pd nowMilli now, a = .parse pd nowMilli now ∧
        isTransactionRequest s.device.deviceType (packetType pd.content) = true ∧
        pd.feedbackMsgCh = none ∧
        s'.remoteRegistry = s.remoteRegistry.insert (pd.connData, pd.content.common.counter)) ∨
      ∃ i t, s.remotes[i]? = some t ∧ t.phase.registered = true ∧
        s'.remoteRegistry = s.remoteRegistry.remove i (t.connData, t.transactionId) := by
  cases h with
  | parseRequest hjobs hrun hconn hreceive hdecrypted hfeedback hrequest =>
    rename_i rest conn nowMilli now ppd pd
    obtain ⟨htype, hid⟩ := receive_reads hreceive
    rw [htype] at hrequest
    have hid : ppd.senderTrxId = pd.content.common.counter := hid
    refine .inr (.inl ⟨pd, _, _, rfl, hrequest, hfeedback, ?_⟩)
    -- The map is the connection's: the new entry is at its place of the list, and the others keep theirs.
    unfold State.remoteRegistry Registry.insert
    rw [← hid]
    congr 1
    · exact List.map_append
    · funext k
      show (((s.conns.set pd.connData _).set pd.connData _)[k.1]?).bind _ = _
      rw [List.set_set, conns_set_map hconn]
      rw [List.length_map]
      exact map_at_key hconn k _ _
  | parseFailed _ _ hconn => exact .inl (State.remoteRegistry_setConn hconn rfl)
  | parseAccess _ _ hconn => exact .inl (State.remoteRegistry_setConn hconn rfl)
  | parseResponse _ _ hconn => exact .inl (State.remoteRegistry_setConn hconn rfl)
  | parseOther _ _ hconn => exact .inl (State.remoteRegistry_setConn hconn rfl)
  | close hconn => exact .inl (State.remoteRegistry_setConn hconn rfl)
  | flushed hconn => exact .inl (State.remoteRegistry_setConn hconn rfl)
  -- A new connection begins with an empty map.
  | connect =>
    refine .inl ?_
    unfold State.remoteRegistry
    congr 1
    funext k
    show ((s.conns ++ [Conn.new _])[k.1]?).bind _ = _
    rw [List.getElem?_append]
    split
    · rfl
    · rename_i hlt
      rw [List.getElem?_eq_none (Nat.not_lt.mp hlt), List.getElem?_singleton]
      split <;> rfl
  | answer _ ht hphase => exact .inl (State.remoteRegistry_setRemote ht rfl rfl (by rw [hphase]; rfl))
  | handOnMsg ht hphase => exact .inl (State.remoteRegistry_setRemote ht rfl rfl (by rw [hphase]; rfl))
  | stopRemote ht hphase => exact .inl (State.remoteRegistry_setRemote ht rfl rfl (by rw [hphase]; rfl))
  | destroyRemote ht hphase => exact .inl (State.remoteRegistry_setRemote ht rfl rfl (by rw [hphase]; rfl))
  | closeRemote ht hphase => exact .inl (State.remoteRegistry_setRemote ht rfl rfl (by rw [hphase]; rfl))
  | removeRemote ht hphase hconn =>
    refine .inr (.inr ⟨_, _, ht, by rw [hphase]; rfl, ?_⟩)
    unfold State.remoteRegistry Registry.remove
    congr 1
    · exact List.map_set
    · funext k
      refine (conns_set_map hconn k).trans ?_
      exact map_at_key hconn k _ _
  | _ => exact .inl rfl

end Steps

/-! ## Runs -/

variable [DecidableEq M]

/-- The local map stays exact as long as no local transaction is added under a taken id. -/
theorem localExact_step {s s' : State C} {a : Act C}
    (hfresh : ∀ m rnd buf preamble now, a = .assemble m rnd buf preamble now → AddsFresh s a)
    (hlocal : s.localRegistry.Exact) (h : Step s a s') : s'.localRegistry.Exact := by
  obtain heq | ⟨m, rnd, buf, preamble, now, rfl, hrequest, hexport, heq⟩ | ⟨i, t, ht, hreg, heq⟩ :=
    localRegistry_step h
  · rwa [heq]
  · rw [heq]
    refine hlocal.insert ?_
    intro i hi
    obtain ⟨t, ht, hentry⟩ := List.getElem?_map ▸ hi |> Option.map_eq_some_iff.mp
    obtain ⟨hid, hreg⟩ := Prod.mk.inj hentry
    exact hfresh m rnd buf preamble now rfl hrequest hexport t (List.mem_of_getElem? ht) hreg hid
  · rw [heq]
    refine hlocal.remove ?_
    show (s.locals.map _)[i]? = _
    rw [List.getElem?_map, ht, Option.map_some, hreg]

/-- The step for the connections' maps. -/
theorem remoteExact_step {s s' : State C} {a : Act C} (hfresh : AddsFresh s a)
    (hremote : s.remoteRegistry.Exact) (h : Step s a s') : s'.remoteRegistry.Exact := by
  obtain heq | ⟨pd, nowMilli, now, rfl, hrequest, hfeedback, heq⟩ | ⟨i, t, ht, hreg, heq⟩ :=
    remoteRegistry_step h
  · rwa [heq]
  · rw [heq]
    refine hremote.insert ?_
    intro i hi
    obtain ⟨t, ht, hentry⟩ := List.getElem?_map ▸ hi |> Option.map_eq_some_iff.mp
    obtain ⟨hkey, hreg⟩ := Prod.mk.inj hentry
    obtain ⟨hconn, hid⟩ := Prod.mk.inj hkey
    exact hfresh hrequest hfeedback t (List.mem_of_getElem? ht) hconn hreg hid
  · rw [heq]
    refine hremote.remove ?_
    show (s.remotes.map _)[i]? = _
    rw [List.getElem?_map, ht, Option.map_some, hreg]

/-- **Transaction maps.**  In every run that adds no transaction under the id of an unfinished one, the maps
    are exact in every state. -/
theorem transaction_maps_exact {d : Device C} {s : State C} (h : Reached AddsFresh d s) :
    s.MapsExact := by
  have hstart : (State.start d).localRegistry.Exact ∧ (State.start d).remoteRegistry.Exact := by
    refine ⟨Registry.exact_empty, ?_⟩
    have hempty : (State.start d).remoteRegistry = Registry.empty := rfl
    rw [hempty]
    exact Registry.exact_empty
  obtain ⟨hlocal, hremote⟩ := h.invariant
    (I := fun s => s.localRegistry.Exact ∧ s.remoteRegistry.Exact) (fun _ _ _ hC hI hstep =>
    ⟨localExact_step (fun _ _ _ _ _ _ => hC.2) hI.1 hstep, remoteExact_step hC.2 hI.2 hstep⟩) hstart
  exact State.mapsExact_of hlocal hremote

/-- A first request is always under a new id. -/
theorem undemanding_addsFresh : Undemanding (C := sampleLibs.crypto) AddsFresh where
  connect _ _ := trivial
  send _ _ := trivial
  assemble s _ _ _ _ _ hnone _ _ t ht := by
    rw [hnone] at ht
    cases ht
  start _ _ := trivial
  forward _ _ _ _ _ := trivial
  takeOutbound _ _ _ _ := trivial
  transmit _ _ _ _ := trivial
  allocate _ := trivial
  deliver _ _ _ _ _ := trivial
  handPacket _ _ _ _ _ := trivial

/-- A second knock, with the next counter. -/
def secondKnock : OutMsg sampleLibs.crypto where
  md := { sampleMessage .knk none with transactionId := 8 }
  connData := 0
  responseMsgCh := some 1
  encryptedPktCh := false

/-- The paired agent waits for the answer to its knock, and has been handed the second one. -/
def State.askedAgain (mad : MsgAssemblerData sampleLibs.crypto) : State sampleLibs.crypto :=
  { State.knockWaiting mad with
    jobs := {.toPacket secondKnock}
    callers := 2 }

/-- The paired agent knocks twice; the first knock times out and is cleaned up, and the second is still found. -/
theorem transaction_maps_exact_sample :
    ∃ s, State.MapsExact (C := sampleLibs.crypto) s ∧ s.localTransactionMap 7 = none ∧
      s.localTransactionMap 8 = some 1 := by
  obtain ⟨mad, prev, sent, ppd, hk⟩ := knock_answered
  have hread : ((inBlankBuffer pairedAgent secondKnock.md).bind fun mad =>
      .ok (mad.header.common.counter, isTransactionRequest .agent mad.headerType)) = .ok (8, true) := by
    decide +kernel
  obtain ⟨mad', hmad', hread⟩ := Go.bind_eq_ok.mp hread
  obtain ⟨hcounter', hrequest'⟩ := Prod.mk.inj (Go.ok.inj hread)
  have hwaiting := reached_knockWaiting undemanding_addsFresh hk.assembled hk.headerType
  have hsent : Reached AddsFresh pairedAgent (State.askedAgain mad) :=
    hwaiting.step (e := Act.send secondKnock) ⟨rfl, trivial⟩ (.send (.inr rfl) rfl)
  have hfresh : AddsFresh (State.askedAgain mad) (.assemble secondKnock sampleEntropy
      (Packet.ofBytes blankBuffer packetBufferSize) 5 1000000000000) := by
    intro _ _ t ht _
    rw [List.mem_singleton.mp ht]
    show mad.header.common.counter ≠ 8
    rw [hk.transactionId]
    decide
  have hassembles : (State.askedAgain mad).assemble secondKnock (Conn.new sampleConnection) sampleEntropy
      (Packet.ofBytes blankBuffer packetBufferSize) 5 1000000000000 = .ok mad' := hmad'
  have hassembled := hsent.step ⟨rfl, hfresh⟩ (Step.assembleRequest (Multiset.cons_zero _).symm rfl
    (show (1 : UInt32) < packetBufferPoolSize by decide) rfl nofun hassembles rfl hrequest')
  have hended := hassembled.step (e := Act.stop 0 .timeout) ⟨rfl, trivial⟩
    (.stop (t := .ofKnock mad .waiting none) rfl rfl (by trivial))
  have hdestroyed := hended.step (e := Act.destroy 0) ⟨rfl, trivial⟩ (.destroy rfl rfl)
  have hclosed := hdestroyed.step (e := Act.closeChannels 0) ⟨rfl, trivial⟩ (.closeChannels rfl rfl)
  have hremoved := hclosed.step (e := Act.remove 0) ⟨rfl, trivial⟩ (.remove rfl rfl)
  refine ⟨_, transaction_maps_exact hremoved, ?_, ?_⟩
  · exact if_pos hk.transactionId.symm
  · show (if 8 = mad.header.common.counter then none else
      if 8 = mad'.header.common.counter then some 1 else _) = some 1
    rw [if_neg (by rw [hk.transactionId]; decide), if_pos hcounter'.symm]

/-! ## A derived request -/

/-- The first request of the sample server, to an AC: its counter is 7. -/
def firstOperation : OutMsg sampleLibs.crypto where
  md := { sampleMessage .aop none with peerPk := some (sampleEcdh .sm2 1).publicKey }
  connData := 0
  responseMsgCh := some 0
  encryptedPktCh := false

/-- The data access request of an agent, whose counter is 7 too, as the server reads it. -/
def dataAccessRequest : Go (InPacket sampleLibs.crypto) :=
  (inBlankBuffer (sampleDevice .agent 1) (sampleMessage .dar none)).bind fun mad =>
  .ok { basePacket := 1
        content := Packet.ofBytes mad.content mad.content.length
        connData := 1
        prevAssemblerData := none
        feedbackMsgCh := none
        decryptedMsgCh := false
        initTime := 1000000000000 }

/-- The server's answer to it. -/
def dataAccessAnswer : OutMsg sampleLibs.crypto where
  md := sampleMessage .dsa none
  connData := 1
  responseMsgCh := none
  encryptedPktCh := false

/-- What the server makes of the request and of its answer. -/
def dataAccessAnswered :
    Go (InPacket sampleLibs.crypto × PacketParserData sampleLibs.crypto × MsgAssemblerData sampleLibs.crypto) :=
  dataAccessRequest.bind fun pd =>
  match receive (sampleDevice .server 2) (pd.current (Conn.new sampleConnection)) 1000000 1000000000000 with
  | (some ppd, .ok ()) =>
    (inBlankBuffer ppd.device (sampleMessage .dsa (some ppd))).bind fun mad => .ok (pd, ppd, mad)
  | _ => .panic

/-- **A hidden transaction.**  The server waits for the AC's answer under its own counter 7; an agent's
    request with counter 7 arrives, and the server's answer to it, which is a request type, takes over the
    map entry. -/
theorem derived_request_hides :
    ∃ s, Reached (fun _ _ => True) (sampleDevice .server 2) s ∧ ¬ s.MapsExact := by
  -- The counters and types of the three packets are computed; all else is left symbolic.
  have hoperation : ((inBlankBuffer (sampleDevice .server 2) firstOperation.md).bind fun mad =>
      .ok (mad.header.common.counter, isTransactionRequest .server mad.headerType)) = .ok (7, true) := by
    decide +kernel
  obtain ⟨mad₁, hmad₁, hread₁⟩ := Go.bind_eq_ok.mp hoperation
  obtain ⟨hcounter₁, hrequest₁⟩ := Prod.mk.inj (Go.ok.inj hread₁)
  have hchecked : (dataAccessRequest.bind fun pd => .ok (decide (Packet.minimalLength ≤ pd.content.len),
      recvPrecheck .server pd.content)) = .ok (true, .ok (.dar, 20)) := by
    decide +kernel
  have hanswered : (dataAccessAnswered.bind fun r => .ok (packetType r.1.content, r.2.1.headerType,
      r.2.1.senderTrxId, r.2.1.connData.closed, r.2.2.header.common.counter,
      isTransactionRequest r.2.1.device.deviceType r.2.2.headerType)) =
        .ok (.dar, .dar, 7, false, 7, true) := by
    decide +kernel
  obtain ⟨⟨pd, ppd, mad₂⟩, hrun, hread₂⟩ := Go.bind_eq_ok.mp hanswered
  simp only [Go.ok.injEq, Prod.mk.injEq] at hread₂
  obtain ⟨htype, hheaderType, hsender, hopen, hcounter₂, hrequest₂⟩ := hread₂
  obtain ⟨pd', hpd, hparsed⟩ := Go.bind_eq_ok.mp hrun
  rw [hpd] at hchecked
  obtain ⟨hlen, hcheck⟩ := Prod.mk.inj (Go.ok.inj hchecked)
  have hreceive : receive (sampleDevice .server 2) (pd'.current (Conn.new sampleConnection)) 1000000
        1000000000000 = (some ppd, .ok ()) ∧ pd' = pd ∧
      inBlankBuffer ppd.device (sampleMessage .dsa (some ppd)) = .ok mad₂ := by
    split at hparsed
    · rename_i ppd' hreceive
      obtain ⟨mad', hmad', hsame⟩ := Go.bind_eq_ok.mp hparsed
      simp only [Go.ok.injEq, Prod.mk.injEq] at hsame
      obtain ⟨rfl, rfl, rfl⟩ := hsame
      exact ⟨hreceive, rfl, hmad'⟩
    · cases hparsed
  obtain ⟨hreceive, rfl, hmad₂⟩ := hreceive
  obtain ⟨madr, hmadr, hpd⟩ := Go.bind_eq_ok.mp hpd
  obtain rfl := Go.ok.inj hpd
  -- The run: the operation goes out, the agent's request comes in, is parsed and answered.
  have hfirst := reached_firstRequest undemanding_true (d := sampleDevice .server 2)
    (m := firstOperation) (show sampleConnection.closed = false from rfl) rfl (.inr rfl) rfl nofun hmad₁
    hrequest₁
  have hconnected := hfirst.step (e := .connect sampleConnection) ⟨rfl, trivial⟩ (.connect rfl)
  set content := Packet.ofBytes madr.content madr.content.length with hcontent
  have hroom : ({.outgoing 0 0 true} : Multiset (Job sampleLibs.crypto)).countP (·.inRecvQueue 1) <
      packetQueueSizePerConnection .server := by
    decide
  have hinbound := reached_inbound undemanding_true hconnected 1 content rfl
    (show (1 : UInt32) < packetBufferPoolSize by decide) (of_decide_eq_true hlen) hcheck rfl rfl hroom
  have hidle : ({.inbound 1 1 content, .outgoing 0 0 true} :
      Multiset (Job sampleLibs.crypto)).countP (·.busy 1) = 0 := rfl
  have hresponse : isTransactionResponse .server (packetType content) = false := by
    rw [htype]
    rfl
  have htoMsg := hinbound.step (e := .takeInbound 1 1 content 1000000000000) ⟨rfl, trivial⟩
    (.takeGeneric (Multiset.insert_eq_cons (Job.inbound 1 1 content) {Job.outgoing 0 0 true}) rfl rfl hidle
      (by rw [htype]; decide)
      (fun h => absurd (hresponse.symm.trans h) (by decide)))
  have hparsed := htoMsg.step ⟨rfl, trivial⟩ (.parseRequest
    (Multiset.insert_eq_cons (Job.toMsg _) {Job.outgoing 0 0 true}) rfl rfl hreceive rfl rfl
    (by rw [hheaderType]; rfl))
  have hfound := hparsed.step (e := .findRemote 1 7 dataAccessAnswer) ⟨rfl, trivial⟩ (.findRemote (i := 0) rfl
    (by
      show (if ppd.connData.closed then none else if 7 = ppd.senderTrxId then some 0 else none) = some 0
      rw [hopen, hsender]
      rfl) rfl)
  have hanswered := hfound.step (e := .answer 0 dataAccessAnswer) ⟨rfl, trivial⟩
    (.answer (Multiset.insert_eq_cons (Job.answering 0 dataAccessAnswer)
      {Job.parsed 1, Job.outgoing 0 0 true}) rfl rfl)
  have hhandedOn := hanswered.step (e := .handOnMsg 0) ⟨rfl, trivial⟩ (.handOnMsg rfl rfl)
  have hpool : (2 : UInt32) < packetBufferPoolSize := by
    decide
  have hassembled := hhandedOn.step ⟨rfl, trivial⟩ (.assembleRequest
    (m := { dataAccessAnswer with md := sampleMessage .dsa (some ppd) })
    (Multiset.insert_eq_cons (Job.toPacket _) {Job.parsed 1, Job.outgoing 0 0 true}) rfl hpool rfl nofun
    hmad₂ rfl hrequest₂)
  refine ⟨_, hassembled, ?_⟩
  intro hexact
  -- Were the maps exact, counter 7 would still find the operation.
  have hhidden := (hexact.locals 7 0).mpr ⟨_, rfl, hcounter₁, rfl⟩
  have hlast : (if 7 = mad₂.header.common.counter then some 1 else if 7 = mad₁.header.common.counter then
      some 0 else none) = some 0 := hhidden
  rw [if_pos hcounter₂.symm] at hlast
  cases hlast

end OpenNHP.Core.Routines
