/-
  The keys of a data request between its two messages (`endpoints/server/msghandler.go`, `udpserver.go`).

  1. **The program.**  An agent asks for a data object with a DAR, which has its TEE key and an ephemeral key, and
     then shows its evidence with a DAV; for that the server has the data key wrapped, with a DWR that carries the
     two keys.  In between the server keeps them in the agent's peer: one slot for each, whatever object they are
     for, that is written and read without a lock and that goes with the peer when the agents are loaded again.
     Each handler is a goroutine, so here each look-up and each access to a slot is a step of its own.

  2. **The property.**  `CarriesOwnKeys`: a DWR that goes out for an object carries the keys of the agent's latest
     accepted DAR for that object.  A DAR is accepted when its handler ends behind `ReadZdtoConfig`, also without
     a DSA: where its transaction is gone the handler returns an error, and its keys stay in the slots.

  3. **Why it fails.**  The slots have no `DoId`.  A DAR for a second object overwrites the keys of the first
     (`interleaved_keys_mixed`), two handlers mix their halves, and a reload puts a peer with empty slots in place.
     `OneAtATime` rules out just these: a handler takes to the slots of an agent while no other is at them, and a
     DAV while the agent's latest accepted DAR is the one for its object and its keys are in the present peer.

  4. **The crux.**  What a handler relies on while it is at the slots (`Handler.Ok`), that a writer is alone there
     (`Inv.one`), and that the keys of the latest accepted DAR stay where they were written until the next writer
     comes (`Inv.settled`).  Each step keeps that (`Inv.step`, one lemma for each act), and `own_keys` reads the
     property off it along a run.
-/
import OpenNHP.Lib.Runs
import OpenNHP.Lib.Tables

namespace OpenNHP.Server.KeySlots

/-! ## The server -/

/-- The keys of a DAR, in base64. -/
structure WrapKeys where
  teePublicKey : String
  consumerEphemeralPublicKey : String
  deriving DecidableEq, Repr

/-- A `UdpPeer` of an agent; `owner` is its public key. -/
structure Peer where
  owner : String
  keys : WrapKeys
  deriving DecidableEq, Repr

/-- Where `HandleDHPDARMessage` stands; `p` is the peer it has found. -/
inductive DarPhase
  | begun
  | found
  | writeTee (p : Nat)
  | writeConsumer (p : Nat)
  | reply (wrote : Option Nat)
  | done
  deriving DecidableEq, Repr

/-- Where `HandleDHPDAVMessage` stands. -/
inductive DavPhase
  | begun
  | verified
  | readTee (p : Nat)
  | readConsumer (p : Nat) (tee : String)
  | send (keys : WrapKeys)
  | done
  deriving DecidableEq, Repr

/-- A goroutine for one message: whose it is, for which object, and where it stands. -/
inductive Handler
  | dar (agent object : String) (keys : WrapKeys) (phase : DarPhase)
  | dav (agent object : String) (phase : DavPhase)
  deriving DecidableEq, Repr

namespace Handler

/-- The agent whose message it handles. -/
def agent : Handler → String
  | dar agent _ _ _ => agent
  | dav agent _ _ => agent

/-- It is about to write the agent's slots, or has and is not done. -/
def writes : Handler → Bool
  | dar _ _ _ (.writeTee _) | dar _ _ _ (.writeConsumer _) | dar _ _ _ (.reply _) => true
  | _ => false

/-- It is about to read the agent's slots, or has and is not done. -/
def reads : Handler → Bool
  | dav _ _ (.readTee _) | dav _ _ (.readConsumer _ _) | dav _ _ (.send _) => true
  | _ => false

end Handler

/-- A DAR that was accepted, with the peer its keys were written to. -/
structure Accepted where
  agent : String
  object : String
  keys : WrapKeys
  peer : Option Nat
  deriving DecidableEq, Repr

/-- The server: who has which peer now, every peer there ever was, the handlers, and the accepted DARs. -/
structure State where
  agentPeerMap : AList fun _ : String => Nat
  peers : List Peer
  handlers : List Handler
  /-- the latest first -/
  accepted : List Accepted

namespace State

/-- No agents and no messages. -/
def start : State where
  agentPeerMap := ∅
  peers := []
  handlers := []
  accepted := []

variable (s : State)

/-- A handler moves on. -/
def setHandler (h : Nat) (handler : Handler) : State := { s with handlers := s.handlers.set h handler }

/-- `SetTeePublicKeyBase64` or `SetConsumerEphemeralPublicKeyBase64`. -/
def setKeys (p : Nat) (f : WrapKeys → WrapKeys) : State :=
  { s with peers := s.peers.modify p fun peer => { peer with keys := f peer.keys } }

/-- A DAR comes to its end behind `ReadZdtoConfig`. -/
def accept (r : Accepted) : State := { s with accepted := r :: s.accepted }

/-- A new peer for an agent. -/
def addAgentPeer (agent : String) : State :=
  { s with
    agentPeerMap := s.agentPeerMap.insert agent s.peers.length
    peers := s.peers ++ [⟨agent, ⟨"", ""⟩⟩] }

/-- The latest DAR of an agent that was accepted, and the latest for an object. -/
def latestOf (agent : String) : Option Accepted := s.accepted.find? (·.agent = agent)
def latest (agent object : String) : Option Accepted :=
  s.accepted.find? fun r => r.agent = agent ∧ r.object = object

end State

/-! ## Steps -/

/-- What a handler does next, or what comes from outside. -/
inductive Act
  | recvDar (agent object : String) (keys : WrapKeys)
  | recvDav (agent object : String)
  /-- `ReadZdtoConfig`, and for a DAV the verification of the evidence. -/
  | config (h : Nat) (ok : Bool)
  /-- The handler looks its agent up in `agentPeerMap`. -/
  | lookUp (h : Nat)
  /-- The handler writes or reads the next key of the peer. -/
  | access (h : Nat)
  /-- A DAR comes to its end: it is answered, or its transaction is gone and its handler returns an error. -/
  | reply (h : Nat)
  /-- A DWR goes out to the broker of the object, or there is no connection to it. -/
  | send (h : Nat) (connected : Bool)
  /-- The agents are loaded again, or one is added: new peers. -/
  | updateAgentPeers (agents : List String)
  | addAgentPeer (agent : String)
  deriving DecidableEq

/-- One step.  A configuration that is not found, or evidence that is not verified, ends a handler; the keys of an
    agent without a peer are written nowhere, and a DAV of it goes on with empty ones. -/
def step (s : State) : Act → Option State
  | .recvDar agent object keys => some { s with handlers := s.handlers ++ [.dar agent object keys .begun] }
  | .recvDav agent object => some { s with handlers := s.handlers ++ [.dav agent object .begun] }
  | .config h ok =>
    match s.handlers[h]? with
    | some (.dar agent object keys .begun) =>
      some (s.setHandler h (.dar agent object keys (if ok then .found else .done)))
    | some (.dav agent object .begun) =>
      some (s.setHandler h (.dav agent object (if ok then .verified else .done)))
    | _ => none
  | .lookUp h =>
    match s.handlers[h]? with
    | some (.dar agent object keys .found) =>
      match s.agentPeerMap.lookup agent with
      | some p => some (s.setHandler h (.dar agent object keys (.writeTee p)))
      | none => some (s.setHandler h (.dar agent object keys (.reply none)))
    | some (.dav agent object .verified) =>
      match s.agentPeerMap.lookup agent with
      | some p => some (s.setHandler h (.dav agent object (.readTee p)))
      | none => some (s.setHandler h (.dav agent object (.send ⟨"", ""⟩)))
    | _ => none
  | .access h =>
    match s.handlers[h]? with
    | some (.dar agent object keys (.writeTee p)) =>
      some ((s.setKeys p fun slot => { slot with teePublicKey := keys.teePublicKey }).setHandler h
        (.dar agent object keys (.writeConsumer p)))
    | some (.dar agent object keys (.writeConsumer p)) =>
      some ((s.setKeys p fun slot =>
          { slot with consumerEphemeralPublicKey := keys.consumerEphemeralPublicKey }).setHandler h
        (.dar agent object keys (.reply (some p))))
    | some (.dav agent object (.readTee p)) =>
      (s.peers[p]?).map fun peer =>
        s.setHandler h (.dav agent object (.readConsumer p peer.keys.teePublicKey))
    | some (.dav agent object (.readConsumer p tee)) =>
      (s.peers[p]?).map fun peer =>
        s.setHandler h (.dav agent object (.send ⟨tee, peer.keys.consumerEphemeralPublicKey⟩))
    | _ => none
  | .reply h =>
    match s.handlers[h]? with
    | some (.dar agent object keys (.reply wrote)) =>
      some ((s.accept ⟨agent, object, keys, wrote⟩).setHandler h (.dar agent object keys .done))
    | _ => none
  | .send h _ =>
    match s.handlers[h]? with
    | some (.dav agent object (.send _)) => some (s.setHandler h (.dav agent object .done))
    | _ => none
  | .updateAgentPeers agents =>
    some (agents.foldl State.addAgentPeer { s with agentPeerMap := ∅ })
  | .addAgentPeer agent => some (s.addAgentPeer agent)

/-! ## Whose keys a DWR carries -/

/-- A DWR that goes out for an object carries the keys of the agent's latest accepted DAR for it. -/
def CarriesOwnKeys (s : State) : Act → Prop
  | .send h true =>
    match s.handlers[h]? with
    | some (.dav agent object (.send keys)) => ∀ r ∈ s.latest agent object, keys = r.keys
    | _ => True
  | _ => True

/-- A handler takes to the slots only while no other of the agent is at them (two DAVs may be); and a DAV does so
    only where the agent's latest accepted DAR is the one for its object, and its keys are in the agent's
    present peer. -/
def OneAtATime (s : State) : Act → Prop
  | .lookUp h =>
    match s.handlers[h]? with
    | some (.dar agent _ _ .found) => ∀ hd ∈ s.handlers, hd.agent = agent → hd.writes = false ∧ hd.reads = false
    | some (.dav agent object .verified) =>
      (∀ hd ∈ s.handlers, hd.agent = agent → hd.writes = false) ∧
        ∀ r ∈ s.latest agent object,
          s.latestOf agent = some r ∧ r.peer.isSome ∧ r.peer = s.agentPeerMap.lookup agent
    | _ => True
  | _ => True

instance (s : State) (a : Act) : Decidable (CarriesOwnKeys s a) := by
  unfold CarriesOwnKeys
  split
  · split <;> infer_instance
  · infer_instance

instance (s : State) (a : Act) : Decidable (OneAtATime s a) := by
  unfold OneAtATime
  split
  · split <;> infer_instance
  · infer_instance

/-! ## The invariant -/

namespace State

/-- The peer is of the agent, and its keys are as `P` says. -/
def Holds (s : State) (p : Nat) (agent : String) (P : WrapKeys → Prop) : Prop :=
  ∃ peer, s.peers[p]? = some peer ∧ peer.owner = agent ∧ P peer.keys

/-- A DAR of the agent is at its slots. -/
def Writing (s : State) (agent : String) : Prop := ∃ hd ∈ s.handlers, hd.agent = agent ∧ hd.writes = true

end State

/-- What a handler at the slots relies on. -/
def Handler.Ok (s : State) : Handler → Prop
  | dar agent _ _ (.writeTee p) => s.Holds p agent fun _ => True
  | dar agent _ keys (.writeConsumer p) => s.Holds p agent fun slot => slot.teePublicKey = keys.teePublicKey
  | dar agent _ keys (.reply (some p)) => s.Holds p agent fun slot => slot = keys
  | dav agent object (.readTee p) =>
    s.Holds p agent fun slot => ∀ r, s.latest agent object = some r → slot = r.keys
  | dav agent object (.readConsumer p tee) =>
    s.Holds p agent fun slot => ∀ r, s.latest agent object = some r → ⟨tee, slot.consumerEphemeralPublicKey⟩ = r.keys
  | dav agent object (.send keys) => ∀ r, s.latest agent object = some r → keys = r.keys
  | _ => True

/-- What holds in every state of a run in which handlers take turns. -/
structure Inv (s : State) : Prop where
  owner : ∀ agent p, s.agentPeerMap.lookup agent = some p → s.Holds p agent fun _ => True
  ok : ∀ (i : Nat) hd, s.handlers[i]? = some hd → hd.Ok s
  /-- a DAR at the slots is alone there -/
  one : ∀ (i j : Nat) hi hj, s.handlers[i]? = some hi → s.handlers[j]? = some hj → hi.agent = hj.agent →
    hi.writes = true → hj.writes = true ∨ hj.reads = true → i = j
  /-- the keys of an agent's latest DAR are where it wrote them, unless the next is about to write -/
  settled : ∀ r p, s.latestOf r.agent = some r → r.peer = some p →
    s.Holds p r.agent fun slot => ¬ s.Writing r.agent → slot = r.keys

/-- It depends on the peers only. -/
theorem State.Holds.mono {s s' : State} (hpeers : s'.peers = s.peers) {p : Nat} {agent : String}
    {P Q : WrapKeys → Prop} (h : s.Holds p agent P) (hPQ : ∀ slot, P slot → Q slot) : s'.Holds p agent Q := by
  obtain ⟨peer, hpeer, howner, hP⟩ := h
  exact ⟨peer, (congrArg (·[p]?) hpeers).trans hpeer, howner, hPQ _ hP⟩

/-- What holds of the one peer there is. -/
theorem State.Holds.get {s : State} {p : Nat} {agent : String} {P : WrapKeys → Prop} (h : s.Holds p agent P)
    {peer : Peer} (hpeer : s.peers[p]? = some peer) : P peer.keys := by
  obtain ⟨peer', hpeer', -, hP⟩ := h
  obtain rfl := Option.some.inj (hpeer.symm.trans hpeer')
  exact hP

section SetKeys

variable {s : State} {p p' : Nat} {agent agent' : String} {P Q : WrapKeys → Prop} {f : WrapKeys → WrapKeys}

/-- What a write makes of the keys. -/
theorem State.Holds.setKeys_self (h : s.Holds p agent P) (hPQ : ∀ slot, P slot → Q (f slot)) :
    (s.setKeys p f).Holds p agent Q := by
  obtain ⟨peer, hpeer, howner, hP⟩ := h
  refine ⟨{ peer with keys := f peer.keys }, ?_, howner, hPQ _ hP⟩
  show (s.peers.modify p _)[p]? = _
  rw [List.getElem?_modify_eq, hpeer]
  rfl

/-- The peers of another agent are others. -/
theorem State.Holds.setKeys_ne (h : s.Holds p' agent' P) (hp : s.Holds p agent Q) (hne : agent' ≠ agent) :
    (s.setKeys p f).Holds p' agent' P := by
  obtain ⟨peer', hpeer', howner', hP⟩ := h
  obtain ⟨peer, hpeer, howner, -⟩ := hp
  refine ⟨peer', ?_, howner', hP⟩
  have hpp : p ≠ p' := by
    rintro rfl
    obtain rfl := Option.some.inj (hpeer.symm.trans hpeer')
    exact hne (howner'.symm.trans howner)
  show (s.peers.modify p _)[p']? = _
  rw [List.getElem?_modify_ne _ _ hpp, hpeer']

/-- A peer keeps its owner. -/
theorem State.Holds.setKeys_owner (h : s.Holds p' agent' P) : (s.setKeys p f).Holds p' agent' fun _ => True := by
  by_cases hpp : p = p'
  · subst hpp
    exact h.setKeys_self fun _ _ => trivial
  · obtain ⟨peer', hpeer', howner', -⟩ := h
    refine ⟨peer', ?_, howner', trivial⟩
    show (s.peers.modify p _)[p']? = _
    rw [List.getElem?_modify_ne _ _ hpp, hpeer']

end SetKeys

/-- A handler relies on its agent's peers and accepted DARs only. -/
theorem Handler.Ok.lift {s s' : State} {hd : Handler} (h : hd.Ok s)
    (hholds : ∀ p P, s.Holds p hd.agent P → s'.Holds p hd.agent P)
    (hlatest : ∀ object, s'.latest hd.agent object = s.latest hd.agent object) : hd.Ok s' := by
  cases hd with
  | dar agent object keys phase =>
    cases phase with
    | begun | found | done => trivial
    | writeTee p => exact hholds p (fun _ => True) h
    | writeConsumer p => exact hholds p (fun slot => slot.teePublicKey = keys.teePublicKey) h
    | reply wrote =>
      cases wrote with
      | none => trivial
      | some p => exact hholds p (fun slot => slot = keys) h
  | dav agent object phase =>
    have hsame : s'.latest agent object = s.latest agent object := hlatest object
    cases phase with
    | begun | verified | done => trivial
    | readTee p | readConsumer p tee =>
      simp only [Handler.Ok] at h ⊢
      rw [hsame]
      exact hholds p _ h
    | send keys =>
      simp only [Handler.Ok] at h ⊢
      rw [hsame]
      exact h

/-- A step that touches neither peers nor accepted DARs leaves a handler as it is. -/
theorem Handler.Ok.of_eq {s s' : State} {hd : Handler} (h : hd.Ok s) (hpeers : s'.peers = s.peers)
    (haccepted : s'.accepted = s.accepted) : hd.Ok s' := by
  refine h.lift (fun p P hP => hP.mono hpeers fun _ hslot => hslot) fun object => ?_
  rw [State.latest, State.latest, haccepted]

/-- A handler that is not at the slots relies on nothing. -/
theorem Handler.Ok.of_idle {s : State} {hd : Handler} (hwrites : hd.writes = false) (hreads : hd.reads = false) :
    hd.Ok s := by
  cases hd with
  | dar agent object keys phase =>
    cases phase with
    | begun | found | done => trivial
    | writeTee p | writeConsumer p | reply wrote => cases hwrites
  | dav agent object phase =>
    cases phase with
    | begun | verified | done => trivial
    | readTee p | readConsumer p tee | send keys => cases hreads

/-! ## A handler moves on -/

section Move

variable {s s' : State} {i : Nat} {hd hd' : Handler}

/-- One handler has moved on, over other peers or accepted DARs. -/
theorem Inv.move (h : Inv s) (hi : s.handlers[i]? = some hd) (hagent : hd'.agent = hd.agent)
    (hhandlers : s'.handlers = s.handlers)
    (howner : ∀ agent p, s'.agentPeerMap.lookup agent = some p → s'.Holds p agent fun _ => True)
    (hothers : ∀ (j : Nat) hj, j ≠ i → s.handlers[j]? = some hj → hj.Ok s') (hok : hd'.Ok s')
    (halone : ∀ (j : Nat) hj, j ≠ i → s.handlers[j]? = some hj → hj.agent = hd.agent →
      (hd'.writes = true → hj.writes = false ∧ hj.reads = false) ∧ (hd'.reads = true → hj.writes = false))
    (hsettled : ∀ r p, s'.latestOf r.agent = some r → r.peer = some p →
      s'.Holds p r.agent fun slot => ¬ (s'.setHandler i hd').Writing r.agent → slot = r.keys) :
    Inv (s'.setHandler i hd') := by
  have hlt : i < s.handlers.length := (List.getElem?_eq_some_iff.mp hi).1
  have hget : ∀ (j : Nat) hj, (s'.setHandler i hd').handlers[j]? = some hj →
      j = i ∧ hj = hd' ∨ j ≠ i ∧ s.handlers[j]? = some hj := by
    intro j hj hjget
    change (s'.handlers.set i hd')[j]? = some hj at hjget
    rw [hhandlers] at hjget
    by_cases hij : j = i
    · subst hij
      rw [List.getElem?_set_self hlt] at hjget
      exact .inl ⟨rfl, (Option.some.inj hjget).symm⟩
    · rw [List.getElem?_set_ne (Ne.symm hij)] at hjget
      exact .inr ⟨hij, hjget⟩
  refine ⟨howner, ?_, ?_, hsettled⟩
  · intro j hj hjget
    rcases hget j hj hjget with ⟨-, rfl⟩ | ⟨hne, hold⟩
    · exact hok.of_eq rfl rfl
    · exact (hothers j hj hne hold).of_eq rfl rfl
  · intro j k hj hk hjget hkget hsame hwrites hbusy
    rcases hget j hj hjget with ⟨rfl, rfl⟩ | ⟨hjne, hjold⟩ <;>
      rcases hget k hk hkget with ⟨rfl, rfl⟩ | ⟨hkne, hkold⟩
    · rfl
    · -- the one that has moved writes, so the other is not at the slots
      obtain ⟨hw, hr⟩ := (halone k hk hkne hkold (hsame.symm.trans hagent)).1 hwrites
      rw [hw, hr] at hbusy
      exact absurd hbusy (by decide)
    · have halone' := halone j hj hjne hjold (hsame.trans hagent)
      rcases hbusy with hw | hr
      · rw [(halone'.1 hw).1] at hwrites
        cases hwrites
      · rw [halone'.2 hr] at hwrites
        cases hwrites
    · exact h.one j k hj hk hjold hkold hsame hwrites hbusy

/-- Another agent's handlers, or those of the agent that do not write, are at the slots as before. -/
theorem not_writing (hi : s.handlers[i]? = some hd) (hhandlers : s'.handlers = s.handlers)
    (hagent : hd'.agent = hd.agent) {agent : String} (hkeep : hd.agent = agent → hd.writes = true → hd'.writes = true)
    (hnot : ¬ (s'.setHandler i hd').Writing agent) : ¬ s.Writing agent := by
  rintro ⟨hj, hmem, hjagent, hwrites⟩
  obtain ⟨j, hjget⟩ := List.mem_iff_getElem?.mp hmem
  by_cases hij : j = i
  · subst hij
    obtain rfl := Option.some.inj (hi.symm.trans hjget)
    refine hnot ⟨hd', ?_, hagent.trans hjagent, hkeep hjagent hwrites⟩
    exact List.mem_iff_getElem?.mpr ⟨j, by
      show (s'.handlers.set j hd')[j]? = _
      rw [hhandlers, List.getElem?_set_self (List.getElem?_eq_some_iff.mp hi).1]⟩
  · refine hnot ⟨hj, ?_, hjagent, hwrites⟩
    exact List.mem_iff_getElem?.mpr ⟨j, by
      show (s'.handlers.set i hd')[j]? = _
      rw [hhandlers, List.getElem?_set_ne (Ne.symm hij), hjget]⟩

/-- A handler that moves on without a write or an answer. -/
theorem Inv.advance (h : Inv s) (hi : s.handlers[i]? = some hd) (hagent : hd'.agent = hd.agent)
    (hidle : hd.writes = false) (hok : hd'.Ok s)
    (halone : ∀ (j : Nat) hj, j ≠ i → s.handlers[j]? = some hj → hj.agent = hd.agent →
      (hd'.writes = true → hj.writes = false ∧ hj.reads = false) ∧ (hd'.reads = true → hj.writes = false)) :
    Inv (s.setHandler i hd') := by
  refine h.move hi hagent rfl h.owner (fun j hj _ hjget => h.ok j hj hjget) hok halone ?_
  intro r p hr hp
  refine (h.settled r p hr hp).mono rfl fun slot hslot hnot => hslot (not_writing hi rfl hagent ?_ hnot)
  intro _ hwrites
  rw [hidle] at hwrites
  cases hwrites

/-- A DAR at the slots is alone there. -/
theorem Inv.alone (h : Inv s) (hi : s.handlers[i]? = some hd) (hwrites : hd.writes = true) {j : Nat}
    {hj : Handler} (hne : j ≠ i) (hjget : s.handlers[j]? = some hj) (hagent : hj.agent = hd.agent) :
    hj.writes = false ∧ hj.reads = false := by
  have hnot : ¬ (hj.writes = true ∨ hj.reads = true) := by
    intro hbusy
    exact hne (h.one i j hd hj hi hjget hagent.symm hwrites hbusy).symm
  rw [not_or, Bool.not_eq_true, Bool.not_eq_true] at hnot
  exact hnot

/-- A DAR writes one of the two keys. -/
theorem Inv.write (h : Inv s) (hi : s.handlers[i]? = some hd) {p : Nat} {f : WrapKeys → WrapKeys}
    {P : WrapKeys → Prop} (hp : s.Holds p hd.agent P) (hok : hd'.Ok (s.setKeys p f))
    (hagent : hd'.agent = hd.agent) (hwrites : hd.writes = true) (hwrites' : hd'.writes = true) :
    Inv ((s.setKeys p f).setHandler i hd') := by
  refine h.move hi hagent rfl (fun agent q hq => ?_) (fun j hj hne hjget => ?_) hok (fun j hj hne hjget hsame => ?_)
    fun r q hr hq => ?_
  · exact (h.owner agent q hq).setKeys_owner
  · -- the other handlers of the agent are not at the slots
    by_cases hsame : hj.agent = hd.agent
    · obtain ⟨hw, hrd⟩ := h.alone hi hwrites hne hjget hsame
      exact .of_idle hw hrd
    · exact (h.ok j hj hjget).lift (fun q Q hQ => hQ.setKeys_ne hp hsame) fun _ => rfl
  · obtain ⟨hw, hrd⟩ := h.alone hi hwrites hne hjget hsame
    exact ⟨fun _ => ⟨hw, hrd⟩, fun _ => hw⟩
  · by_cases hsame : r.agent = hd.agent
    · obtain ⟨peer, hpeer, howner, -⟩ := (h.settled r q hr hq).setKeys_owner (p := p) (f := f)
      refine ⟨peer, hpeer, howner, fun hnot => absurd ?_ hnot⟩
      refine ⟨hd', List.mem_iff_getElem?.mpr ⟨i, ?_⟩, hagent.trans hsame.symm, hwrites'⟩
      exact List.getElem?_set_self (List.getElem?_eq_some_iff.mp hi).1
    · obtain ⟨peer, hpeer, howner, hkeys⟩ := (h.settled r q hr hq).setKeys_ne (f := f) hp hsame
      exact ⟨peer, hpeer, howner, fun hnot => hkeys (not_writing hi rfl hagent (fun _ _ => hwrites') hnot)⟩

/-- A DAR is answered: it is now the agent's latest. -/
theorem Inv.reply (h : Inv s) {agent object : String} {keys : WrapKeys} {wrote : Option Nat}
    (hi : s.handlers[i]? = some (.dar agent object keys (.reply wrote))) :
    Inv ((s.accept ⟨agent, object, keys, wrote⟩).setHandler i (.dar agent object keys .done)) := by
  have hlatest : ∀ agent' object', agent' ≠ agent →
      (s.accept ⟨agent, object, keys, wrote⟩).latest agent' object' = s.latest agent' object' := by
    intro agent' object' hne
    exact List.find?_cons_of_neg (by simp [Ne.symm hne])
  refine h.move hi rfl rfl h.owner (fun j hj hne hjget => ?_) trivial (fun j hj hne hjget hsame => ?_)
    fun r p hr hp => ?_
  · by_cases hsame : hj.agent = agent
    · obtain ⟨hw, hrd⟩ := h.alone hi rfl hne hjget hsame
      exact .of_idle hw hrd
    · exact (h.ok j hj hjget).lift (fun p P hP => hP) fun object' => hlatest hj.agent object' hsame
  · exact ⟨nofun, nofun⟩
  · by_cases hsame : r.agent = agent
    · -- it has written both keys
      rw [hsame, State.latestOf, State.accept, List.find?_cons_of_pos (by simp)] at hr
      obtain rfl := Option.some.inj hr
      obtain rfl : wrote = some p := hp
      obtain ⟨peer, hpeer, howner, hkeys⟩ := h.ok i _ hi
      exact ⟨peer, hpeer, howner, fun _ => hkeys⟩
    · rw [State.latestOf, State.accept, List.find?_cons_of_neg (by simp [Ne.symm hsame])] at hr
      obtain ⟨peer, hpeer, howner, hkeys⟩ := h.settled r p hr hp
      have hagent : (Handler.dar agent object keys .done).agent =
          (Handler.dar agent object keys (.reply wrote)).agent := rfl
      refine ⟨peer, hpeer, howner, fun hnot => hkeys ?_⟩
      exact not_writing hi rfl hagent (fun heq => absurd heq.symm hsame) hnot

end Move

/-! ## Steps keep the invariant -/

/-- Nothing is at the slots yet. -/
theorem inv_start : Inv .start where
  owner _ _ hp := absurd hp nofun
  ok _ _ hi := absurd hi nofun
  one _ _ _ _ hi := absurd hi nofun
  settled _ _ hr := absurd hr nofun

/-- A message arrives. -/
theorem Inv.receive {s : State} (h : Inv s) {hd : Handler} (hwrites : hd.writes = false)
    (hreads : hd.reads = false) : Inv { s with handlers := s.handlers ++ [hd] } := by
  refine ⟨h.owner, fun i hi higet => ?_, fun i j hi hj higet hjget hsame hiw hbusy => ?_, fun r p hr hp => ?_⟩
  · rcases Tables.getElem?_append_cases higet with ⟨-, rfl⟩ | hold
    · exact .of_idle hwrites hreads
    · exact (h.ok i hi hold).of_eq rfl rfl
  · rcases Tables.getElem?_append_cases higet with ⟨-, rfl⟩ | hiold
    · rw [hwrites] at hiw
      cases hiw
    · rcases Tables.getElem?_append_cases hjget with ⟨-, rfl⟩ | hjold
      · rw [hwrites, hreads] at hbusy
        exact absurd hbusy (by decide)
      · exact h.one i j hi hj hiold hjold hsame hiw hbusy
  · refine (h.settled r p hr hp).mono rfl fun slot hslot hnot => hslot fun ⟨hj, hmem, hj'⟩ => ?_
    exact hnot ⟨hj, List.mem_append_left _ hmem, hj'⟩

/-- An agent gets a new peer; the old ones are still there for those who have found them. -/
theorem Inv.addAgentPeer {s : State} (h : Inv s) (agent : String) : Inv (s.addAgentPeer agent) := by
  have hlift : ∀ p agent' P, s.Holds p agent' P → (s.addAgentPeer agent).Holds p agent' P := by
    rintro p agent' P ⟨peer, hpeer, howner, hP⟩
    exact ⟨peer, (List.getElem?_append_left (List.getElem?_eq_some_iff.mp hpeer).1).trans hpeer, howner, hP⟩
  refine ⟨fun agent' p hp => ?_, fun i hi higet => ?_, h.one, fun r p hr hp => hlift _ _ _ (h.settled r p hr hp)⟩
  · change (s.agentPeerMap.insert agent s.peers.length).lookup agent' = some p at hp
    rw [AList.lookup_insert_eq_ite] at hp
    split_ifs at hp with hsame
    · obtain rfl := Option.some.inj hp
      exact ⟨⟨agent, ⟨"", ""⟩⟩, List.getElem?_concat_length, hsame.symm, trivial⟩
    · exact hlift _ _ _ (h.owner agent' p hp)
  · exact (h.ok i hi higet).lift (fun p P hP => hlift _ _ _ hP) fun _ => rfl

/-- A reload: the map is emptied and filled again, agent by agent. -/
theorem Inv.updateAgentPeers {s : State} (h : Inv s) (agents : List String) :
    Inv (agents.foldl State.addAgentPeer { s with agentPeerMap := ∅ }) := by
  have hempty : Inv { s with agentPeerMap := ∅ } :=
    ⟨nofun, fun i hi higet => (h.ok i hi higet).of_eq rfl rfl, h.one, h.settled⟩
  generalize ({ s with agentPeerMap := ∅ } : State) = t at hempty
  induction agents generalizing t with
  | nil => exact hempty
  | cons agent agents ih => exact ih _ (hempty.addAgentPeer agent)

/-- A handler is given its peer. -/
theorem Inv.lookUp {s s' : State} (h : Inv s) {i : Nat} (hC : OneAtATime s (.lookUp i))
    (hstep : step s (.lookUp i) = some s') : Inv s' := by
  simp only [step] at hstep
  split at hstep
  · rename_i agent object keys hi
    have halone : ∀ (j : Nat) hj, j ≠ i → s.handlers[j]? = some hj → hj.agent = agent →
        hj.writes = false ∧ hj.reads = false := by
      intro j hj _ hjget hsame
      simp only [OneAtATime, hi] at hC
      exact hC hj (List.mem_of_getElem? hjget) hsame
    split at hstep <;> obtain rfl := Option.some.inj hstep
    · rename_i p hp
      refine h.advance hi rfl rfl (h.owner agent p hp) fun j hj hne hjget hsame => ?_
      exact ⟨fun _ => halone j hj hne hjget hsame, nofun⟩
    · refine h.advance hi rfl rfl trivial fun j hj hne hjget hsame => ?_
      exact ⟨fun _ => halone j hj hne hjget hsame, nofun⟩
  · rename_i agent object hi
    simp only [OneAtATime, hi] at hC
    obtain ⟨hnone, hown⟩ := hC
    have hnot : ¬ s.Writing agent := by
      rintro ⟨hd, hmem, hsame, hwrites⟩
      rw [hnone hd hmem hsame] at hwrites
      cases hwrites
    split at hstep <;> obtain rfl := Option.some.inj hstep
    · rename_i p hp
      refine h.advance hi rfl rfl ?_ fun j hj hne hjget hsame => ?_
      · obtain ⟨peer, hpeer, howner, -⟩ := h.owner agent p hp
        refine ⟨peer, hpeer, howner, fun r hr => ?_⟩
        -- the agent's latest DAR is the one for the object, and this is the peer it has written
        obtain ⟨hlatestOf, -, hwrote⟩ := hown r hr
        have hfound := List.find?_some hlatestOf
        have hagent : r.agent = agent := of_decide_eq_true hfound
        rw [← hagent] at hlatestOf hnot
        rw [hp] at hwrote
        exact (h.settled r p hlatestOf hwrote).get hpeer hnot
      · exact ⟨nofun, fun _ => hnone hj (List.mem_of_getElem? hjget) hsame⟩
    · rename_i hp
      refine h.advance hi rfl rfl (fun r hr => ?_) fun j hj hne hjget hsame => ?_
      · obtain ⟨-, hsome, hwrote⟩ := hown r hr
        rw [hwrote, hp] at hsome
        cases hsome
      · exact ⟨nofun, fun _ => hnone hj (List.mem_of_getElem? hjget) hsame⟩
  · cases hstep

/-- A handler writes or reads a key. -/
theorem Inv.access {s s' : State} (h : Inv s) {i : Nat} (hstep : step s (.access i) = some s') : Inv s' := by
  -- a DAV that goes on reading has no DAR of its agent beside it
  have halone : ∀ {hd : Handler}, s.handlers[i]? = some hd → hd.reads = true →
      ∀ (j : Nat) hj, j ≠ i → s.handlers[j]? = some hj → hj.agent = hd.agent → hj.writes = false := by
    intro hd hi hreads j hj hne hjget hsame
    rw [Bool.eq_false_iff]
    exact fun hwrites => hne (h.one j i hj hd hjget hi hsame hwrites (.inr hreads))
  simp only [step] at hstep
  split at hstep
  · rename_i agent object keys p hi
    obtain rfl := Option.some.inj hstep
    have hok : s.Holds p agent fun _ => True := h.ok i _ hi
    have hset : (s.setKeys p fun slot => { slot with teePublicKey := keys.teePublicKey }).Holds p agent
        fun slot => slot.teePublicKey = keys.teePublicKey := hok.setKeys_self fun _ _ => rfl
    have hok' : Handler.Ok _ (.dar agent object keys (.writeConsumer p)) := hset
    exact h.write hi hok hok' rfl rfl rfl
  · rename_i agent object keys p hi
    obtain rfl := Option.some.inj hstep
    have hok : s.Holds p agent fun slot => slot.teePublicKey = keys.teePublicKey := h.ok i _ hi
    have hset : (s.setKeys p fun slot =>
        { slot with consumerEphemeralPublicKey := keys.consumerEphemeralPublicKey }).Holds p agent
        fun slot => slot = keys := by
      refine hok.setKeys_self fun slot hslot => ?_
      rw [hslot]
    have hok' : Handler.Ok _ (.dar agent object keys (.reply (some p))) := hset
    exact h.write hi hok hok' rfl rfl rfl
  · rename_i agent object p hi
    obtain ⟨peer, hpeer, rfl⟩ := Option.map_eq_some_iff.mp hstep
    obtain ⟨peer', hpeer', howner, hkeys⟩ := h.ok i _ hi
    obtain rfl := Option.some.inj (hpeer.symm.trans hpeer')
    refine h.advance hi rfl rfl ⟨peer, hpeer, howner, hkeys⟩ fun j hj hne hjget hsame => ?_
    exact ⟨nofun, fun _ => halone hi rfl j hj hne hjget hsame⟩
  · rename_i agent object p tee hi
    obtain ⟨peer, hpeer, rfl⟩ := Option.map_eq_some_iff.mp hstep
    obtain ⟨peer', hpeer', howner, hkeys⟩ := h.ok i _ hi
    obtain rfl := Option.some.inj (hpeer.symm.trans hpeer')
    refine h.advance hi rfl rfl hkeys fun j hj hne hjget hsame => ?_
    exact ⟨nofun, fun _ => halone hi rfl j hj hne hjget hsame⟩
  · cases hstep

/-- Every step of a handler that takes its turn keeps the invariant. -/
theorem Inv.step {s s' : State} {a : Act} (h : Inv s) (hC : OneAtATime s a) (hstep : step s a = some s') :
    Inv s' := by
  -- The look-up, the access and a reload touch what other handlers rely on; every other step moves one handler on.
  cases a with
  | recvDar agent object keys =>
    obtain rfl := Option.some.inj hstep
    exact h.receive rfl rfl
  | recvDav agent object =>
    obtain rfl := Option.some.inj hstep
    exact h.receive rfl rfl
  | config i ok =>
    simp only [KeySlots.step] at hstep
    split at hstep
    · rename_i hi
      obtain rfl := Option.some.inj hstep
      cases ok <;> exact h.advance hi rfl rfl trivial fun _ _ _ _ _ => ⟨nofun, nofun⟩
    · rename_i hi
      obtain rfl := Option.some.inj hstep
      cases ok <;> exact h.advance hi rfl rfl trivial fun _ _ _ _ _ => ⟨nofun, nofun⟩
    · cases hstep
  | lookUp i => exact h.lookUp hC hstep
  | access i => exact h.access hstep
  | reply i =>
    simp only [KeySlots.step] at hstep
    split at hstep
    · rename_i hi
      obtain rfl := Option.some.inj hstep
      exact h.reply hi
    · cases hstep
  | send i connected =>
    simp only [KeySlots.step] at hstep
    split at hstep
    · rename_i hi
      obtain rfl := Option.some.inj hstep
      exact h.advance hi rfl rfl trivial fun _ _ _ _ _ => ⟨nofun, nofun⟩
    · cases hstep
  | updateAgentPeers agents =>
    obtain rfl := Option.some.inj hstep
    exact h.updateAgentPeers agents
  | addAgentPeer agent =>
    obtain rfl := Option.some.inj hstep
    exact h.addAgentPeer agent

/-- In the runs in which an agent has one exchange at a time and keeps its peer, every DWR carries the keys of
    the agent's latest accepted DAR for the object. -/
theorem own_keys {acts : List Act} (hacts : Runs.Steps step OneAtATime .start acts) :
    Runs.Steps step CarriesOwnKeys .start acts := by
  refine Runs.steps_imp (I := Inv) (fun s a h _ => ?_) (fun s a s' h hC hstep => h.step hC hstep) inv_start hacts
  cases a with
  | send i connected =>
    cases connected with
    | false => trivial
    | true =>
      simp only [CarriesOwnKeys]
      split
      · rename_i hi
        exact fun r hr => h.ok i _ hi r hr
      · trivial
  | _ => trivial

/-! ## Two requests of an agent -/

/-- The keys of two requests of one consumer. -/
def firstKeys : WrapKeys := ⟨"tee", "ephemeral1"⟩
def secondKeys : WrapKeys := ⟨"tee", "ephemeral2"⟩

/-- A DAR is taken from its arrival to its answer. -/
def darActs (h : Nat) (agent object : String) (keys : WrapKeys) : List Act :=
  [.recvDar agent object keys, .config h true, .lookUp h, .access h, .access h, .reply h]

/-- A DAV is taken from its arrival to the DWR. -/
def davActs (h : Nat) (agent object : String) : List Act :=
  [.recvDav agent object, .config h true, .lookUp h, .access h, .access h, .send h true]

/-- An agent asks for two objects one after the other. -/
def inTurn : List Act :=
  [.updateAgentPeers ["agent"]] ++ darActs 0 "agent" "object1" firstKeys ++ davActs 1 "agent" "object1" ++
    darActs 2 "agent" "object2" secondKeys ++ davActs 3 "agent" "object2"

/-- An agent asks for two objects before it shows its evidence for the first. -/
def interleaved : List Act :=
  [.updateAgentPeers ["agent"]] ++ darActs 0 "agent" "object1" firstKeys ++
    darActs 1 "agent" "object2" secondKeys ++ davActs 2 "agent" "object1"

/-- They take turns. -/
theorem inTurn_oneAtATime : Runs.Steps step OneAtATime .start inTurn := by decide +kernel

/-- And so each DWR carries the keys of its own request. -/
theorem own_keys_inTurn :
    (Runs.run step .start inTurn).isSome = true ∧ Runs.Steps step CarriesOwnKeys .start inTurn :=
  ⟨by decide +kernel, own_keys inTurn_oneAtATime⟩

/-- The DWR for the first object carries the keys of the second request. -/
theorem interleaved_keys_mixed :
    ((Runs.run step .start (interleaved.dropLast)).bind fun s => s.handlers[2]?) =
        some (.dav "agent" "object1" (.send secondKeys)) ∧
      ¬ Runs.Steps step CarriesOwnKeys .start interleaved := by
  constructor <;> decide +kernel

end OpenNHP.Server.KeySlots
