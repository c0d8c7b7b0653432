/-
  The knock loop and its targets (`endpoints/agent/udpagent.go`, `config.go`).

  THE PROGRAM.  `knockResourceRoutine` launches a routine for each target of the map and waits; who adds or
  removes a resource, or loads the resources again, changes the map and then tells the loop, which has the
  routines it launched quit and launches new ones.  A routine knocks until it is told to quit, and sends an exit
  when it does.  Calls come from any goroutine, and so each is taken apart into its changes of the map and its
  look and its send at the channel.

  THE SPECIFICATION.
  1. No change of the map is lost: once the calls that have begun have come to their end, which they do, every
     target of the map has one routine that knocks for it and there are no others (`knock_targets_settle`).
  2. A routine that is to quit knocks at most once more, and then sends one exit and nothing behind it
     (`knock_routine_requests`).  Its exit may come behind the first knock of the routine that replaces it.

  THE CRUX.  Between a change of the map and the message that tells of it there may be any number of other
  changes, and the channel has room for one message.  What matters is that the loop looks at the map behind the
  last change, and that is the renewal of a table by one loop for any number of writers (`OpenNHP.Lib.Renewal`),
  of which the agent is a view (`view_step`).

  ASSEMBLY.  The library gives the bound on the steps and the table the loop has copied; `Inv` ties the routines
  to it.  What one routine sends is followed apart (`Moves`, `Since`).

  The loop runs: it is started once, and each target has the address of its server, without which `Knock` panics.
  `LastKnockSuccessTime` is written and never read.
-/
import OpenNHP.Lib.Renewal

namespace OpenNHP.Agent.KnockTargets

/-! ## Targets -/

/-- `Host` of a peer and `ServerHost` of a resource. -/
def hostOf (ip hostname : String) (port : Int) : String :=
  let hostAddr := if hostname ≠ "" then hostname else ip
  if port = 0 then hostAddr else hostAddr ++ ":" ++ toString port

/-- What a server is found by. -/
structure UdpPeer where
  pubKeyBase64 : String
  hostname : String
  ip : String
  port : Int
  deriving DecidableEq, Repr

/-- `Host` of a server. -/
def UdpPeer.host (p : UdpPeer) : String := hostOf p.ip p.hostname p.port

/-- `KnockResource`. -/
structure KnockResource where
  authServiceId : String
  resourceId : String
  serverHostname : String
  serverIp : String
  serverPort : Int
  deriving DecidableEq, Repr

namespace KnockResource

variable (res : KnockResource)

/-- Its key in the map of targets. -/
def id : String := res.authServiceId ++ "/" ++ res.resourceId

/-- Where its server is. -/
def serverHost : String := hostOf res.serverIp res.serverHostname res.serverPort

end KnockResource

/-- `KnockTarget`: a resource and the server it is knocked at. -/
structure KnockTarget where
  resource : KnockResource
  serverPeer : UdpPeer
  deriving DecidableEq, Repr

/-- The map of targets, by their keys. -/
abbrev TargetMap := AList fun _ : String => Nat

/-! ## The loop, its routines and its callers -/

/-- Where `knockResourceRoutine` is; blocked, it has launched a routine for each of some targets. -/
inductive Loop
  | absent
  | launching
  | blocked (launched : TargetMap)
  | returned

/-- Where the routine of a target is. -/
inductive Phase
  /-- at the channels, before the next knock -/
  | testing
  | knocking
  /-- behind a knock that succeeded, until the next is due -/
  | waiting
  /-- about to send the exit -/
  | exiting
  | done
  deriving DecidableEq, Repr

/-- A call of `Knock` or of `ExitKnockRequest`. -/
inductive Request
  | knock
  | exit
  deriving DecidableEq, Repr

/-- A routine that knocks for a target. -/
structure Routine where
  knockStr : String
  target : Nat
  /-- the cycle of the loop it was launched in -/
  cycle : Nat
  /-- its channel is closed -/
  quit : Bool
  phase : Phase
  sent : List Request
  deriving DecidableEq, Repr

/-- Where a call of `AddResource`, `RemoveResource` or `updateResources` is. -/
inductive Call
  /-- before the lock -/
  | adding (res : KnockResource) (peer : UdpPeer)
  | removing (aspId resId : String)
  | replacing (targets : List KnockTarget)
  /-- before the look at `knockTargetMapUpdated` -/
  | testing
  | sending
  | done
  deriving DecidableEq, Repr

/-- The agent, as far as its targets are concerned. -/
structure State where
  serverPeerMap : List UdpPeer
  /-- every target there has been -/
  targets : List KnockTarget
  knockTargetMap : TargetMap
  /-- a message is in the channel -/
  knockTargetMapUpdated : Bool
  /-- the channel is closed -/
  knockTargetStop : Bool
  loop : Loop
  cycle : Nat
  routines : List Routine
  calls : List Call

/-- The map `updateResources` makes, with targets that come behind those there have been. -/
def targetMap (base : Nat) (targets : List KnockTarget) : TargetMap :=
  (targets.zipIdx base).foldl (fun m t => m.insert t.1.resource.id t.2) ∅

namespace State

/-- An agent that has been started, with the resources it has loaded. -/
def start (serverPeerMap : List UdpPeer) (loaded : List KnockTarget) : State where
  serverPeerMap
  targets := loaded
  knockTargetMap := targetMap 0 loaded
  knockTargetMapUpdated := false
  knockTargetStop := false
  loop := .absent
  cycle := 0
  routines := []
  calls := []

variable (s : State)

/-- A call goes on. -/
def setCall (i : Nat) (call : Call) : State := { s with calls := s.calls.set i call }
/-- A routine goes on. -/
def setRoutine (i : Nat) (r : Routine) : State := { s with routines := s.routines.set i r }

/-- What `FindServerPeerFromResource` may return: any server of the host, or `nil`. -/
def Finds (res : KnockResource) : Option UdpPeer → Prop
  | some peer => peer ∈ s.serverPeerMap ∧ peer.host = res.serverHost
  | none => ∀ peer ∈ s.serverPeerMap, peer.host ≠ res.serverHost

instance (res : KnockResource) : DecidablePred (s.Finds res)
  | some peer => inferInstanceAs (Decidable (peer ∈ s.serverPeerMap ∧ peer.host = res.serverHost))
  | none => inferInstanceAs (Decidable (∀ peer ∈ s.serverPeerMap, peer.host ≠ res.serverHost))

/-- The change of the map under its lock. -/
def update (i : Nat) : Call → Option State
  | .adding res peer =>
    match s.knockTargetMap.lookup res.id with
    | some p => some { s.setCall i .done with targets := s.targets.set p ⟨res, peer⟩ }
    | none => some { s.setCall i .testing with
        targets := s.targets ++ [⟨res, peer⟩]
        knockTargetMap := s.knockTargetMap.insert res.id s.targets.length }
  | .removing aspId resId =>
    let res : KnockResource := ⟨aspId, resId, "", "", 0⟩
    let knockTargetMap := s.knockTargetMap.erase res.id
    some { s.setCall i (if s.knockTargetMap.entries.length ≠ knockTargetMap.entries.length then .testing else .done)
      with knockTargetMap }
  | .replacing targets => some { s.setCall i .testing with
      targets := s.targets ++ targets
      knockTargetMap := targetMap s.targets.length targets }
  | .testing | .sending | .done => none

/-- The routines of one cycle, launched under the lock. -/
def launch : State :=
  { s with
    loop := .blocked s.knockTargetMap
    cycle := s.cycle + 1
    routines := s.routines ++ s.knockTargetMap.entries.map fun e => ⟨e.1, e.2, s.cycle + 1, false, .testing, []⟩ }

/-- The routine has been told to come to its end. -/
def told (r : Routine) : Bool := s.knockTargetStop || r.quit

end State

namespace State

/-- The targets that have a routine that has not been told to quit. -/
def knocking (s : State) : List (String × Nat) :=
  s.routines.filterMap fun r => if s.told r then none else some (r.knockStr, r.target)

/-- The targets of the map have a routine each, and nobody else has one. -/
structure Settled (s : State) : Prop where
  loop : s.loop = .blocked s.knockTargetMap
  updated : s.knockTargetMapUpdated = false
  calls : ∀ call ∈ s.calls, call = .done
  knocking : s.knocking = s.knockTargetMap.entries.map fun e => (e.1, e.2)
  /-- and the routine is about its knocks -/
  phase : ∀ r ∈ s.routines, s.told r = false → r.phase ≠ .exiting ∧ r.phase ≠ .done

end State

/-! ## Steps -/

/-- Calls, the loop and the routines, and the knocks they send. -/
inductive Act
  /-- Servers come and go. -/
  | setServers (peers : List UdpPeer)
  | addResource (res : KnockResource) (found : Option UdpPeer)
  | removeResource (aspId resId : String)
  | updateResources (resources : List (KnockResource × Option UdpPeer))
  | update (i : Nat)
  | test (i : Nat)
  | send (i : Nat)
  | startKnockLoop
  | launch
  /-- The loop takes the message and closes the channels of its cycle. -/
  | renew
  /-- The channel is closed; a second time is a panic. -/
  | stopKnockLoop
  /-- The loop returns at `knockTargetStop`. -/
  | leave
  /-- A routine looks at its channels. -/
  | check (i : Nat)
  | knock (i : Nat) (ok : Bool)
  /-- The next knock is due. -/
  | due (i : Nat)
  | wake (i : Nat)
  | exit (i : Nat)
  deriving DecidableEq, Repr

/-- One step; `none` for who cannot take it. -/
def step (s : State) : Act → Option State
  | .setServers peers => some { s with serverPeerMap := peers }
  | .addResource res found =>
    if s.Finds res found then
      match found with
      | some peer => some { s with calls := s.calls ++ [.adding res peer] }
      | none => some s
    else none
  | .removeResource aspId resId => some { s with calls := s.calls ++ [.removing aspId resId] }
  | .updateResources resources =>
    if ∀ r ∈ resources, s.Finds r.1 r.2 then
      some { s with calls := s.calls ++ [.replacing (resources.filterMap fun r => r.2.map fun peer => ⟨r.1, peer⟩)] }
    else none
  | .update i => (s.calls[i]?).bind (s.update i)
  | .test i =>
    match s.calls[i]? with
    | some .testing => some (s.setCall i (if s.knockTargetMapUpdated then .done else .sending))
    | _ => none
  | .send i =>
    match s.calls[i]? with
    | some .sending =>
      if s.knockTargetMapUpdated then none else some { s.setCall i .done with knockTargetMapUpdated := true }
    | _ => none
  | .startKnockLoop =>
    match s.loop with
    | .absent => some { s with loop := .launching }
    | _ => none
  | .launch =>
    match s.loop with
    | .launching => some s.launch
    | _ => none
  | .renew =>
    match s.loop with
    | .blocked _ =>
      if s.knockTargetMapUpdated then
        some { s with
          knockTargetMapUpdated := false
          loop := .launching
          routines := s.routines.map fun r => { r with quit := r.quit || r.cycle = s.cycle } }
      else none
    | _ => none
  | .stopKnockLoop => if s.knockTargetStop then none else some { s with knockTargetStop := true }
  | .leave =>
    match s.loop with
    | .blocked _ => if s.knockTargetStop then some { s with loop := .returned } else none
    | _ => none
  | .check i =>
    match s.routines[i]? with
    | some r =>
      if r.phase = .testing then
        some (s.setRoutine i { r with phase := if s.told r then .exiting else .knocking })
      else none
    | none => none
  | .knock i ok =>
    match s.routines[i]? with
    | some r =>
      if r.phase = .knocking then
        some (s.setRoutine i
          { r with phase := if ok then .waiting else .testing, sent := r.sent ++ [.knock] })
      else none
    | none => none
  | .due i =>
    match s.routines[i]? with
    | some r => if r.phase = .waiting then some (s.setRoutine i { r with phase := .testing }) else none
    | none => none
  | .wake i =>
    match s.routines[i]? with
    | some r =>
      if r.phase = .waiting ∧ s.told r then some (s.setRoutine i { r with phase := .exiting }) else none
    | none => none
  | .exit i =>
    match s.routines[i]? with
    | some r =>
      if r.phase = .exiting then
        some (s.setRoutine i { r with phase := .done, sent := r.sent ++ [.exit] })
      else none
    | none => none

namespace Act

/-- A step of a call that has begun, or of the loop on its way. -/
def inner : Act → Bool
  | update _ | test _ | send _ | launch | renew => true
  | _ => false

/-- A new call, or the end of the loop. -/
def outer : Act → Bool
  | addResource _ _ | removeResource _ _ | updateResources _ | startKnockLoop | leave => true
  | _ => false

end Act

/-! ## The map, as calls change it and the loop copies it -/

/-- A call is a writer of the table. -/
def Call.view : Call → Renewal.Writer
  | adding _ _ | removing _ _ | replacing _ => .changing
  | testing => .testing
  | sending => .sending
  | done => .done

/-- The loop is the one that renews. -/
def Loop.view : Loop → Renewal.Loop TargetMap
  | absent => .absent
  | launching => .copying
  | blocked launched => .waiting launched
  | returned => .left

namespace State

/-- The agent as a table that is renewed. -/
def view (s : State) : Renewal.State TargetMap where
  table := s.knockTargetMap
  full := s.knockTargetMapUpdated
  loop := s.loop.view
  writers := s.calls.map Call.view

/-- More than the steps that calls and the loop have left. -/
def toDo (s : State) : Nat := Renewal.effort s.view

end State

/-- Erasing what is not there changes nothing. -/
theorem erase_eq_self {m : TargetMap} {k : String} (h : m.entries.length = (m.erase k).entries.length) :
    m.erase k = m := by
  apply AList.ext
  by_contra hne
  have hmem : k ∈ m.keys := by
    by_contra hmem
    exact hne (List.kerase_of_notMem_keys hmem)
  have hkeys : (m.erase k).keys.length + 1 = m.keys.length := by
    rw [AList.keys_erase, List.length_erase_of_mem hmem]
    have hpos := List.length_pos_of_mem hmem
    omega
  have hlength : ∀ m : TargetMap, m.keys.length = m.entries.length := fun m => List.length_map _
  rw [hlength, hlength] at hkeys
  omega

/-- What a call does to the map; the target it makes comes behind those there have been. -/
def Call.change (s : State) : Call → Renewal.Change TargetMap
  | adding res _ => {
      apply := fun m => if (m.lookup res.id).isSome then m else m.insert res.id s.targets.length
      tells := fun m => !(m.lookup res.id).isSome
      silent := fun m h => if_pos (by simpa using h) }
  | removing aspId resId => {
      apply := fun m => m.erase (KnockResource.id ⟨aspId, resId, "", "", 0⟩)
      tells := fun m =>
        decide (m.entries.length ≠ (m.erase (KnockResource.id ⟨aspId, resId, "", "", 0⟩)).entries.length)
      silent := fun m h => erase_eq_self (not_not.mp (of_decide_eq_false h)) }
  | replacing targets => {
      apply := fun _ => targetMap s.targets.length targets
      tells := fun _ => true
      silent := fun _ h => Bool.noConfusion h }
  | testing | sending | done => .none

variable {s s' : State}

/-- A call that goes on is a writer that does. -/
theorem view_setCall {i : Nat} (call : Call) : (s.setCall i call).view = s.view.setWriter i call.view := by
  show Renewal.State.mk _ _ _ _ = Renewal.State.mk _ _ _ _
  dsimp only [State.setCall, State.view]
  rw [List.map_set]

/-- A change of the map is one of the table. -/
theorem view_update {i : Nat} {call : Call} (hi : s.calls[i]? = some call) (h : s.update i call = some s') :
    Renewal.step s.view (.change i (call.change s)) = some s'.view := by
  have hview : s.view.writers[i]? = some call.view := by
    show (s.calls.map Call.view)[i]? = _
    rw [List.getElem?_map, hi, Option.map_some]
  cases call with
  | adding res peer =>
    simp only [Renewal.step, hview, Call.view]
    rw [State.update] at h
    cases hfound : s.knockTargetMap.lookup res.id with
    | some p =>
      rw [hfound] at h
      obtain rfl := Option.some.inj h
      simp only [Call.change, State.view, hfound, Option.isSome_some, Bool.not_true, Bool.false_eq_true, if_false,
        if_true, Renewal.State.setWriter, State.setCall, List.map_set, Call.view]
    | none =>
      rw [hfound] at h
      obtain rfl := Option.some.inj h
      simp only [Call.change, State.view, hfound, Option.isSome_none, Bool.not_false, Bool.false_eq_true, if_false,
        if_true, Renewal.State.setWriter, State.setCall, List.map_set, Call.view]
  | removing aspId resId =>
    simp only [Renewal.step, hview, Call.view]
    obtain rfl := Option.some.inj h
    simp only [Call.change, State.view, Renewal.State.setWriter, State.setCall, List.map_set, decide_eq_true_eq]
    split <;> rfl
  | replacing targets =>
    simp only [Renewal.step, hview, Call.view]
    obtain rfl := Option.some.inj h
    simp only [Call.change, State.view, Renewal.State.setWriter, State.setCall, List.map_set, Call.view, if_true]
  | testing => cases h
  | sending => cases h
  | done => cases h

/-- A step is one of the writers or of the loop, or it leaves them where they are. -/
theorem view_step {a : Act} (h : step s a = some s') :
    (∃ b, b.inner = a.inner ∧ a.inner = !a.outer ∧ Renewal.step s.view b = some s'.view) ∨
      a.inner = false ∧ s'.view = s.view := by
  have hcall : ∀ {i : Nat} {call : Call}, s.calls[i]? = some call → s.view.writers[i]? = some call.view := by
    intro i call hi
    show (s.calls.map Call.view)[i]? = _
    rw [List.getElem?_map, hi, Option.map_some]
  have hroutine : ∀ i r, (s.setRoutine i r).view = s.view := fun _ _ => rfl
  -- A call that changes the map is a writer of the view, the loop is its reader; the routines and the stop are not
  -- in the view.
  cases a with
  | setServers peers =>
    obtain rfl := Option.some.inj h
    exact .inr ⟨rfl, rfl⟩
  | addResource res found =>
    simp only [step] at h
    split at h
    · cases found with
      | none =>
        obtain rfl := Option.some.inj h
        exact .inr ⟨rfl, rfl⟩
      | some peer =>
        obtain rfl := Option.some.inj h
        refine .inl ⟨.call, rfl, rfl, ?_⟩
        simp only [Renewal.step, State.view, List.map_append, List.map_cons, List.map_nil, Call.view]
    · cases h
  | removeResource aspId resId =>
    obtain rfl := Option.some.inj h
    refine .inl ⟨.call, rfl, rfl, ?_⟩
    simp only [Renewal.step, State.view, List.map_append, List.map_cons, List.map_nil, Call.view]
  | updateResources resources =>
    simp only [step] at h
    split at h
    · obtain rfl := Option.some.inj h
      refine .inl ⟨.call, rfl, rfl, ?_⟩
      simp only [Renewal.step, State.view, List.map_append, List.map_cons, List.map_nil, Call.view]
    · cases h
  | update i =>
    obtain ⟨call, hi, hupdate⟩ := Option.bind_eq_some_iff.mp h
    exact .inl ⟨.change i (call.change s), rfl, rfl, view_update hi hupdate⟩
  | test i =>
    simp only [step] at h
    split at h
    · rename_i hi
      obtain rfl := Option.some.inj h
      refine .inl ⟨.test i, rfl, rfl, ?_⟩
      simp only [Renewal.step, hcall hi, Call.view, view_setCall]
      show some (s.view.setWriter i (if s.knockTargetMapUpdated then .done else .sending)) = _
      split <;> rfl
    · cases h
  | send i =>
    simp only [step] at h
    split at h
    · rename_i hi
      split at h
      · cases h
      · rename_i hfull
        obtain rfl := Option.some.inj h
        refine .inl ⟨.send i, rfl, rfl, ?_⟩
        have hfull' : ¬ s.view.full = true := hfull
        simp only [Renewal.step, hcall hi, Call.view, if_neg hfull']
        have hset := view_setCall (s := s) (i := i) .done
        exact congrArg (fun v : Renewal.State TargetMap => some { v with full := true }) hset.symm
    · cases h
  | startKnockLoop =>
    simp only [step] at h
    split at h
    · rename_i hloop
      obtain rfl := Option.some.inj h
      refine .inl ⟨.start, rfl, rfl, ?_⟩
      simp only [Renewal.step, State.view, hloop, Loop.view]
    · cases h
  | launch =>
    simp only [step] at h
    split at h
    · rename_i hloop
      obtain rfl := Option.some.inj h
      refine .inl ⟨.copy, rfl, rfl, ?_⟩
      simp only [Renewal.step, State.view, hloop, Loop.view, State.launch]
    · cases h
  | renew =>
    simp only [step] at h
    split at h
    · rename_i launched hloop
      split at h
      · rename_i hfull
        obtain rfl := Option.some.inj h
        refine .inl ⟨.receive, rfl, rfl, ?_⟩
        simp only [Renewal.step, State.view, hloop, Loop.view, hfull, if_true]
      · cases h
    · cases h
  | stopKnockLoop =>
    simp only [step] at h
    split at h
    · cases h
    · obtain rfl := Option.some.inj h
      exact .inr ⟨rfl, rfl⟩
  | leave =>
    simp only [step] at h
    split at h
    · rename_i launched hloop
      split at h
      · obtain rfl := Option.some.inj h
        refine .inl ⟨.leave, rfl, rfl, ?_⟩
        simp only [Renewal.step, State.view, hloop, Loop.view]
      · cases h
    · cases h
  | check i | knock i ok | due i | wake i | exit i =>
    simp only [step] at h
    split at h
    · split at h
      · obtain rfl := Option.some.inj h
        exact .inr ⟨rfl, hroutine _ _⟩
      · cases h
    · cases h

/-! ## The routines -/

/-- What holds of the routines in every state. -/
structure Inv (s : State) : Prop where
  absent : s.loop = .absent → s.routines = []
  launching : s.loop = .launching → ∀ r ∈ s.routines, r.quit = true
  blocked : ∀ launched, s.loop = .blocked launched →
    (s.routines.filterMap fun r => if r.quit then none else some (r.knockStr, r.target))
      = launched.entries.map fun e => (e.1, e.2)
  cycle : ∀ r ∈ s.routines, r.quit = false → r.cycle = s.cycle
  told : ∀ r ∈ s.routines, r.phase = .exiting ∨ r.phase = .done → s.told r = true

/-- The invariant holds at the start. -/
theorem inv_start (serverPeerMap : List UdpPeer) (loaded : List KnockTarget) : Inv (.start serverPeerMap loaded) where
  absent _ := rfl
  launching h := by cases h
  blocked _ h := by cases h
  cycle r hr := by cases hr
  told r hr := by cases hr

/-- A routine takes a step of its own. -/
theorem Inv.setRoutine (h : Inv s) {i : Nat} {r r' : Routine} (hi : s.routines[i]? = some r)
    (hstr : r'.knockStr = r.knockStr) (htarget : r'.target = r.target) (hcycle : r'.cycle = r.cycle)
    (hquit : r'.quit = r.quit) (htold : r'.phase = .exiting ∨ r'.phase = .done → s.told r = true) :
    Inv (s.setRoutine i r') := by
  have hmem : r ∈ s.routines := List.mem_of_getElem? hi
  have hset : ∀ x ∈ (s.setRoutine i r').routines, x = r' ∨ x ∈ s.routines := fun x hx => by
    rcases List.mem_or_eq_of_mem_set hx with hx | rfl
    · exact .inr hx
    · exact .inl rfl
  refine ⟨fun hloop => ?_, fun hloop x hx => ?_, fun launched hloop => ?_, fun x hx hxq => ?_, fun x hx hphase => ?_⟩
  · rw [h.absent hloop] at hmem
    cases hmem
  · rcases hset x hx with rfl | hx
    · rw [hquit]
      exact h.launching hloop r hmem
    · exact h.launching hloop x hx
  · rw [← h.blocked launched hloop]
    apply Tables.filterMap_set hi
    rw [hquit, hstr, htarget]
  · rcases hset x hx with rfl | hx
    · rw [hcycle]
      exact h.cycle r hmem (hquit ▸ hxq)
    · exact h.cycle x hx hxq
  · rcases hset x hx with rfl | hx
    · show (s.knockTargetStop || x.quit) = true
      rw [hquit]
      exact htold hphase
    · exact h.told x hx hphase

/-- Calls see nothing of the routines. -/
theorem Inv.of_eq (h : Inv s) (hloop : s'.loop = s.loop) (hroutines : s'.routines = s.routines)
    (hcycle : s'.cycle = s.cycle) (hstop : s'.knockTargetStop = s.knockTargetStop) : Inv s' := by
  refine ⟨?_, ?_, ?_, ?_, ?_⟩
  · rw [hloop, hroutines]
    exact h.absent
  · rw [hloop, hroutines]
    exact h.launching
  · rw [hloop, hroutines]
    exact h.blocked
  · rw [hroutines, hcycle]
    exact h.cycle
  · unfold State.told
    rw [hroutines, hstop]
    exact h.told

/-- A change of the map keeps it, -/
theorem Inv.update (h : Inv s) {i : Nat} {call : Call} (hupdate : s.update i call = some s') : Inv s' := by
  cases call with
  | adding res peer =>
    rw [State.update] at hupdate
    split at hupdate
    · obtain rfl := Option.some.inj hupdate
      exact h.of_eq rfl rfl rfl rfl
    · obtain rfl := Option.some.inj hupdate
      exact h.of_eq rfl rfl rfl rfl
  | removing aspId resId | replacing targets =>
    obtain rfl := Option.some.inj hupdate
    exact h.of_eq rfl rfl rfl rfl
  | testing | sending | done => cases hupdate

/-- and so does the launch of the routines, -/
theorem Inv.launch (h : Inv s) (hloop : s.loop = .launching) : Inv s.launch := by
  have hold := h.launching hloop
  have hmem : ∀ r ∈ s.launch.routines, r ∈ s.routines ∨
      r.quit = false ∧ r.cycle = s.cycle + 1 ∧ r.phase = .testing := by
    intro r hr
    rcases List.mem_append.mp hr with hr | hr
    · exact .inl hr
    · obtain ⟨e, -, rfl⟩ := List.mem_map.mp hr
      exact .inr ⟨rfl, rfl, rfl⟩
  refine ⟨fun h => (by cases h), fun h => (by cases h), fun launched hblocked => ?_, fun r hr hquit => ?_,
    fun r hr hphase => ?_⟩
  · obtain rfl := Loop.blocked.inj hblocked
    show (s.routines ++ _).filterMap _ = _
    rw [List.filterMap_append, List.filterMap_eq_nil_iff.mpr, List.nil_append, List.filterMap_map]
    · show (s.knockTargetMap.entries.filterMap fun e => some (e.1, e.2)) = _
      exact congrFun List.filterMap_eq_map s.knockTargetMap.entries
    · intro r hr
      rw [if_pos (hold r hr)]
  · rcases hmem r hr with hr | ⟨-, hcycle, -⟩
    · rw [hold r hr] at hquit
      cases hquit
    · exact hcycle
  · rcases hmem r hr with hr | ⟨-, -, htesting⟩
    · exact h.told r hr hphase
    · rw [htesting] at hphase
      rcases hphase with hphase | hphase <;> cases hphase

/-- and every other step. -/
theorem Inv.step (h : Inv s) {a : Act} (hstep : KnockTargets.step s a = some s') : Inv s' := by
  cases a with
  | setServers peers =>
    obtain rfl := Option.some.inj hstep
    exact h.of_eq rfl rfl rfl rfl
  | addResource res found =>
    simp only [KnockTargets.step] at hstep
    split at hstep
    · cases found with
      | none =>
        obtain rfl := Option.some.inj hstep
        exact h
      | some peer =>
        obtain rfl := Option.some.inj hstep
        exact h.of_eq rfl rfl rfl rfl
    · cases hstep
  | removeResource aspId resId =>
    obtain rfl := Option.some.inj hstep
    exact h.of_eq rfl rfl rfl rfl
  | updateResources resources =>
    simp only [KnockTargets.step] at hstep
    split at hstep
    · obtain rfl := Option.some.inj hstep
      exact h.of_eq rfl rfl rfl rfl
    · cases hstep
  | update i =>
    obtain ⟨call, -, hupdate⟩ := Option.bind_eq_some_iff.mp hstep
    exact h.update hupdate
  | test i =>
    simp only [KnockTargets.step] at hstep
    split at hstep
    · obtain rfl := Option.some.inj hstep
      exact h.of_eq rfl rfl rfl rfl
    · cases hstep
  | send i =>
    simp only [KnockTargets.step] at hstep
    split at hstep
    · split at hstep
      · cases hstep
      · obtain rfl := Option.some.inj hstep
        exact h.of_eq rfl rfl rfl rfl
    · cases hstep
  | startKnockLoop =>
    simp only [KnockTargets.step] at hstep
    split at hstep
    · rename_i hloop
      obtain rfl := Option.some.inj hstep
      have hnil : s.routines = [] := h.absent hloop
      refine ⟨fun h => (by cases h), fun _ r hr => ?_, fun _ h => (by cases h), h.cycle, h.told⟩
      change r ∈ s.routines at hr
      rw [hnil] at hr
      cases hr
    · cases hstep
  | launch =>
    simp only [KnockTargets.step] at hstep
    split at hstep
    · rename_i hloop
      obtain rfl := Option.some.inj hstep
      exact h.launch hloop
    · cases hstep
  | renew =>
    simp only [KnockTargets.step] at hstep
    split at hstep
    · split at hstep
      · obtain rfl := Option.some.inj hstep
        -- the routines that had not quit are those of the cycle
        have hquit : ∀ r ∈ s.routines, (r.quit || decide (r.cycle = s.cycle)) = true := by
          intro r hr
          cases hr' : r.quit with
          | true => rfl
          | false => simp [h.cycle r hr hr']
        refine ⟨fun h => (by cases h), fun _ x hx => ?_, fun _ h => (by cases h), fun x hx hxq => ?_,
          fun x hx hphase => ?_⟩
        · obtain ⟨r, hr, rfl⟩ := List.mem_map.mp hx
          exact hquit r hr
        · obtain ⟨r, hr, rfl⟩ := List.mem_map.mp hx
          exact absurd (hquit r hr) (Bool.not_eq_true _ ▸ hxq)
        · obtain ⟨r, hr, rfl⟩ := List.mem_map.mp hx
          show (s.knockTargetStop || _) = true
          rw [hquit r hr, Bool.or_true]
      · cases hstep
    · cases hstep
  | stopKnockLoop =>
    simp only [KnockTargets.step] at hstep
    split at hstep
    · cases hstep
    · obtain rfl := Option.some.inj hstep
      exact ⟨h.absent, h.launching, h.blocked, h.cycle, fun _ _ _ => rfl⟩
  | leave =>
    simp only [KnockTargets.step] at hstep
    split at hstep
    · split at hstep
      · obtain rfl := Option.some.inj hstep
        exact ⟨fun h => (by cases h), fun h => (by cases h), fun _ h => (by cases h), h.cycle, h.told⟩
      · cases hstep
    · cases hstep
  | check i =>
    simp only [KnockTargets.step] at hstep
    split at hstep
    · rename_i r hi
      split at hstep
      · obtain rfl := Option.some.inj hstep
        refine h.setRoutine hi rfl rfl rfl rfl fun hphase => ?_
        by_contra htold
        simp only [if_neg htold, reduceCtorEq, or_self] at hphase
      · cases hstep
    · cases hstep
  | knock i ok =>
    simp only [KnockTargets.step] at hstep
    split at hstep
    · rename_i r hi
      split at hstep
      · obtain rfl := Option.some.inj hstep
        refine h.setRoutine hi rfl rfl rfl rfl fun hphase => ?_
        cases ok <;> rcases hphase with hphase | hphase <;> cases hphase
      · cases hstep
    · cases hstep
  | due i =>
    simp only [KnockTargets.step] at hstep
    split at hstep
    · rename_i r hi
      split at hstep
      · obtain rfl := Option.some.inj hstep
        refine h.setRoutine hi rfl rfl rfl rfl fun hphase => ?_
        rcases hphase with hphase | hphase <;> cases hphase
      · cases hstep
    · cases hstep
  | wake i =>
    simp only [KnockTargets.step] at hstep
    split at hstep
    · rename_i r hi
      split at hstep
      · rename_i hwaiting
        obtain rfl := Option.some.inj hstep
        exact h.setRoutine hi rfl rfl rfl rfl fun _ => hwaiting.2
      · cases hstep
    · cases hstep
  | exit i =>
    simp only [KnockTargets.step] at hstep
    split at hstep
    · rename_i r hi
      split at hstep
      · rename_i hexiting
        obtain rfl := Option.some.inj hstep
        exact h.setRoutine hi rfl rfl rfl rfl fun _ => h.told r (List.mem_of_getElem? hi) (.inl hexiting)
      · cases hstep
    · cases hstep

/-! ## Runs -/

section Runs

variable {serverPeerMap : List UdpPeer} {loaded : List KnockTarget} {acts : List Act}

/-- So it holds along a run. -/
theorem inv_run (hrun : Runs.run step (.start serverPeerMap loaded) acts = some s) : Inv s :=
  Runs.run_invariant (fun _ _ _ h hstep => h.step hstep) (inv_start serverPeerMap loaded) hrun

/-- The loop is to look again, or has seen the last change. -/
theorem fresh_run (hrun : Runs.run step (.start serverPeerMap loaded) acts = some s) : Renewal.Fresh s.view := by
  refine Runs.run_invariant (I := fun s => Renewal.Fresh s.view) (fun s a s' h hstep => ?_)
    (fun _ h => ?_) hrun
  · rcases view_step hstep with ⟨b, -, -, hb⟩ | ⟨-, hview⟩
    · exact h.step hb
    · rw [hview]
      exact h
  · cases h

/-- Steps that are no new calls leave less to do. -/
theorem toDo_run {s t : State} {acts : List Act} (hinner : ∀ a ∈ acts, a.outer = false)
    (hrun : Runs.run step s acts = some t) : (acts.filter Act.inner).length + t.toDo ≤ s.toDo := by
  induction acts generalizing s with
  | nil =>
    obtain rfl := Option.some.inj hrun
    rw [List.filter_nil, List.length_nil, Nat.zero_add]
  | cons a acts ih =>
    obtain ⟨u, hu, hrun⟩ := Runs.run_cons.mp hrun
    have hrest := ih (fun b hb => hinner b (List.mem_cons_of_mem a hb)) hrun
    have houter := hinner a List.mem_cons_self
    rcases view_step hu with ⟨b, hb, ha, hstep⟩ | ⟨ha, hview⟩
    · rw [houter, Bool.not_false] at ha
      have heffort := Renewal.effort_step (hb.trans ha) hstep
      rw [List.filter_cons_of_pos ha, List.length_cons]
      unfold State.toDo at hrest ⊢
      omega
    · rw [List.filter_cons_of_neg (Bool.eq_false_iff.mp ha)]
      unfold State.toDo at hrest ⊢
      rw [hview] at hrest
      exact hrest

/-- Where no step is left in the agent there is none in the view. -/
theorem stuck_view (hstuck : ∀ a : Act, a.inner = true → step s a = none) (b : Renewal.Act TargetMap)
    (hb : b.inner = true) : Renewal.step s.view b = none := by
  have hcall : ∀ i : Nat, s.view.writers[i]? = (s.calls[i]?).map Call.view := fun i => List.getElem?_map
  -- Step by step of the view: the step of the agent that makes it is not possible, by what `hstuck` says of it.
  cases b with
  | change i change =>
    have hupdate := hstuck (.update i) rfl
    simp only [step] at hupdate
    simp only [Renewal.step, hcall]
    cases hi : s.calls[i]? with
    | none => rfl
    | some call =>
      rw [hi, Option.bind_some] at hupdate
      cases call with
      | adding res peer =>
        rw [State.update] at hupdate
        split at hupdate <;> cases hupdate
      | removing aspId resId | replacing targets => cases hupdate
      | testing | sending | done => rfl
  | test i =>
    have htest := hstuck (.test i) rfl
    simp only [step] at htest
    simp only [Renewal.step, hcall]
    cases hi : s.calls[i]? with
    | none => rfl
    | some call =>
      rw [hi] at htest
      cases call <;> first | rfl | cases htest
  | send i =>
    have hsend := hstuck (.send i) rfl
    simp only [step] at hsend
    simp only [Renewal.step, hcall]
    cases hi : s.calls[i]? with
    | none => rfl
    | some call =>
      rw [hi] at hsend
      cases call with
      | sending =>
        dsimp only at hsend
        split at hsend
        · rename_i hfull
          exact if_pos hfull
        · cases hsend
      | adding res peer | removing aspId resId | replacing targets | testing | done => rfl
  | copy =>
    have hlaunch := hstuck .launch rfl
    simp only [step] at hlaunch
    simp only [Renewal.step, State.view]
    cases hloop : s.loop with
    | launching =>
      rw [hloop] at hlaunch
      cases hlaunch
    | absent | blocked launched | returned => rfl
  | receive =>
    have hrenew := hstuck .renew rfl
    simp only [step] at hrenew
    simp only [Renewal.step, State.view]
    cases hloop : s.loop with
    | blocked launched =>
      rw [hloop] at hrenew
      dsimp only at hrenew
      split at hrenew
      · cases hrenew
      · rename_i hempty
        exact if_neg hempty
    | absent | launching | returned => rfl
  | call | start | leave => cases hb

/-- In every run, the steps that calls and the loop take without new calls are at most as many as there were
    to do; and where none of them can take a step and the loop goes on, every target of the map has its one
    routine, which goes on knocking, and no other has one. -/
theorem knock_targets_settle (serverPeerMap : List UdpPeer) (loaded : List KnockTarget) (acts : List Act)
    (hrun : Runs.run step (.start serverPeerMap loaded) acts = some s) :
    (∀ acts' t, (∀ a ∈ acts', a.outer = false) → Runs.run step s acts' = some t →
      (acts'.filter Act.inner).length ≤ s.toDo) ∧
    ((s.loop = .launching ∨ ∃ launched, s.loop = .blocked launched) → s.knockTargetStop = false →
      (∀ a : Act, a.inner = true → step s a = none) → s.Settled) := by
  refine ⟨fun acts' t hinner hrun' => ?_, fun hloop hstop hstuck => ?_⟩
  · have htoDo := toDo_run hinner hrun'
    omega
  · have hinv := inv_run hrun
    have hview : s.view.loop = .copying ∨ ∃ copy, s.view.loop = .waiting copy := by
      rcases hloop with hloop | ⟨launched, hloop⟩
      · exact .inl (by rw [State.view, hloop]; rfl)
      · exact .inr ⟨launched, by rw [State.view, hloop]; rfl⟩
    have hsettled := Renewal.settled_of_stuck (fresh_run hrun) hview (stuck_view hstuck)
    have hblocked : s.loop = .blocked s.knockTargetMap := by
      have hwaiting := hsettled.loop
      rcases hloop with hloop | ⟨launched, hloop⟩
      · simp only [State.view, hloop, Loop.view, reduceCtorEq] at hwaiting
      · simp only [State.view, hloop, Loop.view, Renewal.Loop.waiting.injEq] at hwaiting
        rw [hloop, hwaiting]
    have htold : ∀ r, s.told r = r.quit := fun r => by rw [State.told, hstop, Bool.false_or]
    refine ⟨hblocked, hsettled.full, fun call hcall => ?_, ?_, fun r hr hquit => ?_⟩
    · have hdone : call.view = .done := hsettled.writers _ (List.mem_map_of_mem hcall)
      cases call <;> first | rfl | cases hdone
    · rw [State.knocking]
      simp only [htold]
      exact hinv.blocked s.knockTargetMap hblocked
    · constructor
      · intro hphase
        rw [hinv.told r hr (.inl hphase)] at hquit
        cases hquit
      · intro hphase
        rw [hinv.told r hr (.inr hphase)] at hquit
        cases hquit

end Runs

/-- A resource that is added while the loop launches its routines: the loop takes the message and launches again. -/
theorem knock_targets_settle_added : ∃ s : State,
    Runs.run step (.start [⟨"key", "", "10.0.0.1", 0⟩] [])
      [.startKnockLoop, .launch, .addResource ⟨"asp", "res", "", "10.0.0.1", 0⟩ (some ⟨"key", "", "10.0.0.1", 0⟩),
        .update 0, .test 0, .send 0, .renew, .launch] = some s ∧
      s.knockTargetMap.entries.length = 1 ∧ s.Settled := by
  refine ⟨_, rfl, rfl, ?_⟩
  refine (knock_targets_settle [⟨"key", "", "10.0.0.1", 0⟩] [] [.startKnockLoop, .launch,
    .addResource ⟨"asp", "res", "", "10.0.0.1", 0⟩ (some ⟨"key", "", "10.0.0.1", 0⟩),
    .update 0, .test 0, .send 0, .renew, .launch] rfl).2 (.inr ⟨_, rfl⟩) rfl fun a ha => ?_
  -- the one call has come to its end, and the channel is empty
  cases a with
  | update i | test i | send i => cases i <;> rfl
  | launch | renew => rfl
  | _ => cases ha

/-! ## What a routine sends -/

/-- What a step does to a routine. -/
inductive Moves (told : Bool) (r : Routine) : Routine → Prop
  | same (quit : Bool) (hquit : r.quit = true → quit = true) : Moves told r { r with quit }
  | check (hphase : r.phase = .testing) :
    Moves told r { r with phase := if told then .exiting else .knocking }
  | knock (ok : Bool) (hphase : r.phase = .knocking) :
    Moves told r { r with phase := if ok then .waiting else .testing, sent := r.sent ++ [.knock] }
  | due (hphase : r.phase = .waiting) : Moves told r { r with phase := .testing }
  | wake (hphase : r.phase = .waiting) (htold : told = true) : Moves told r { r with phase := .exiting }
  | exit (hphase : r.phase = .exiting) : Moves told r { r with phase := .done, sent := r.sent ++ [.exit] }

/-- A routine that nobody touches. -/
theorem Moves.refl {told : Bool} {r : Routine} : Moves told r r := .same r.quit id

/-- A change of the map touches no routine. -/
theorem update_keeps {i : Nat} {call : Call} (h : s.update i call = some s') :
    s'.routines = s.routines ∧ s'.knockTargetStop = s.knockTargetStop := by
  cases call with
  | adding res peer =>
    rw [State.update] at h
    split at h
    · obtain rfl := Option.some.inj h
      exact ⟨rfl, rfl⟩
    · obtain rfl := Option.some.inj h
      exact ⟨rfl, rfl⟩
  | removing aspId resId | replacing targets =>
    obtain rfl := Option.some.inj h
    exact ⟨rfl, rfl⟩
  | testing | sending | done => cases h

/-- What a step does to the routine at a place, and that it stays told. -/
theorem moves_step {a : Act} {j : Nat} {x : Routine} (hstep : step s a = some s') (hj : s.routines[j]? = some x) :
    ∃ x', s'.routines[j]? = some x' ∧ Moves (s.told x) x x' ∧ (s.told x = true → s'.told x' = true) := by
  -- Most steps leave the routines and the flag alone.
  have hsame : s'.routines = s.routines → s'.knockTargetStop = s.knockTargetStop →
      ∃ x', s'.routines[j]? = some x' ∧ Moves (s.told x) x x' ∧ (s.told x = true → s'.told x' = true) := by
    intro hroutines hstop
    refine ⟨x, by rw [hroutines, hj], .refl, ?_⟩
    unfold State.told
    rw [hstop]
    exact id
  -- A routine's own step changes it and no other, and never its `quit`.
  have hset : ∀ {i : Nat} {r r' : Routine}, s.routines[i]? = some r → s' = s.setRoutine i r' →
      r'.quit = r.quit → Moves (s.told r) r r' →
      ∃ x', s'.routines[j]? = some x' ∧ Moves (s.told x) x x' ∧ (s.told x = true → s'.told x' = true) := by
    rintro i r r' hi rfl hquit hmoves
    by_cases hij : j = i
    · subst hij
      obtain rfl := Option.some.inj (hi.symm.trans hj)
      refine ⟨r', List.getElem?_set_self (List.getElem?_eq_some_iff.mp hi).1, hmoves, fun htold => ?_⟩
      show (s.knockTargetStop || r'.quit) = true
      rw [hquit]
      exact htold
    · refine ⟨x, ?_, .refl, id⟩
      show (s.routines.set i r')[j]? = some x
      rw [List.getElem?_set_ne (Ne.symm hij), hj]
  cases a with
  | setServers peers | removeResource aspId resId =>
    obtain rfl := Option.some.inj hstep
    exact hsame rfl rfl
  | addResource res found =>
    simp only [step] at hstep
    split at hstep
    · cases found with
      | none | some peer =>
        obtain rfl := Option.some.inj hstep
        exact hsame rfl rfl
    · cases hstep
  | updateResources resources =>
    simp only [step] at hstep
    split at hstep
    · obtain rfl := Option.some.inj hstep
      exact hsame rfl rfl
    · cases hstep
  | update i =>
    obtain ⟨call, -, hupdate⟩ := Option.bind_eq_some_iff.mp hstep
    obtain ⟨hroutines, hstop⟩ := update_keeps hupdate
    exact hsame hroutines hstop
  | test i =>
    simp only [step] at hstep
    split at hstep
    · obtain rfl := Option.some.inj hstep
      exact hsame rfl rfl
    · cases hstep
  | send i =>
    simp only [step] at hstep
    split at hstep
    · split at hstep
      · cases hstep
      · obtain rfl := Option.some.inj hstep
        exact hsame rfl rfl
    · cases hstep
  | startKnockLoop =>
    simp only [step] at hstep
    split at hstep
    · obtain rfl := Option.some.inj hstep
      exact hsame rfl rfl
    · cases hstep
  | launch =>
    simp only [step] at hstep
    split at hstep
    · obtain rfl := Option.some.inj hstep
      refine ⟨x, ?_, .refl, id⟩
      show (s.routines ++ _)[j]? = some x
      rw [List.getElem?_append_left (List.getElem?_eq_some_iff.mp hj).1, hj]
    · cases hstep
  -- The old cycle is told to quit: every routine of it changes, and none that was told is untold.
  | renew =>
    simp only [step] at hstep
    split at hstep
    · split at hstep
      · obtain rfl := Option.some.inj hstep
        refine ⟨{ x with quit := x.quit || x.cycle = s.cycle }, ?_, .same _ fun hquit => by rw [hquit]; rfl, ?_⟩
        · show (s.routines.map _)[j]? = _
          rw [List.getElem?_map, hj, Option.map_some]
        · intro htold
          show (s.knockTargetStop || (x.quit || _)) = true
          rw [← Bool.or_assoc]
          exact Bool.or_eq_true_iff.mpr (.inl htold)
      · cases hstep
    · cases hstep
  | stopKnockLoop =>
    simp only [step] at hstep
    split at hstep
    · cases hstep
    · obtain rfl := Option.some.inj hstep
      exact ⟨x, hj, .refl, fun _ => rfl⟩
  | leave =>
    simp only [step] at hstep
    split at hstep
    · split at hstep
      · obtain rfl := Option.some.inj hstep
        exact hsame rfl rfl
      · cases hstep
    · cases hstep
  | check i =>
    simp only [step] at hstep
    split at hstep
    · rename_i r hi
      split at hstep
      · rename_i hphase
        exact hset hi (Option.some.inj hstep).symm rfl (.check hphase)
      · cases hstep
    · cases hstep
  | knock i ok =>
    simp only [step] at hstep
    split at hstep
    · rename_i r hi
      split at hstep
      · rename_i hphase
        exact hset hi (Option.some.inj hstep).symm rfl (.knock ok hphase)
      · cases hstep
    · cases hstep
  | due i =>
    simp only [step] at hstep
    split at hstep
    · rename_i r hi
      split at hstep
      · rename_i hphase
        exact hset hi (Option.some.inj hstep).symm rfl (.due hphase)
      · cases hstep
    · cases hstep
  | wake i =>
    simp only [step] at hstep
    split at hstep
    · rename_i r hi
      split at hstep
      · rename_i hphase
        exact hset hi (Option.some.inj hstep).symm rfl (.wake hphase.1 hphase.2)
      · cases hstep
    · cases hstep
  | exit i =>
    simp only [step] at hstep
    split at hstep
    · rename_i r hi
      split at hstep
      · rename_i hphase
        exact hset hi (Option.some.inj hstep).symm rfl (.exit hphase)
      · cases hstep
    · cases hstep

/-- What a routine has sent since, with the knocks it may still send once it was told to quit. -/
structure Since (told : Bool) (r r' : Routine) : Prop where
  target : r'.knockStr = r.knockStr ∧ r'.target = r.target
  sent : ∃ knocks,
    r'.sent = r.sent ++ List.replicate knocks .knock ++ (if r'.phase = .done ∧ r.phase ≠ .done then [.exit] else []) ∧
    (told = true → knocks + (if r'.phase = .knocking then 1 else 0) ≤ if r.phase = .knocking then 1 else 0)
  done : r.phase = .done → r'.phase = .done

/-- No time has passed. -/
theorem Since.refl (told : Bool) (r : Routine) : Since told r r where
  target := ⟨rfl, rfl⟩
  sent := by
    refine ⟨0, ?_, fun _ => ?_⟩
    · rw [if_neg (fun h => h.2 h.1), List.replicate_zero, List.append_nil, List.append_nil]
    · rw [Nat.zero_add]
  done := id

/-- A routine that is not done has sent knocks only. -/
theorem Since.knocks {told : Bool} {r r' : Routine} (h : Since told r r') (hphase : r'.phase ≠ .done) :
    ∃ knocks, r'.sent = r.sent ++ List.replicate knocks .knock ∧
      (told = true → knocks + (if r'.phase = .knocking then 1 else 0) ≤ if r.phase = .knocking then 1 else 0) := by
  obtain ⟨knocks, hsent, hknocks⟩ := h.sent
  refine ⟨knocks, ?_, hknocks⟩
  rw [hsent, if_neg (fun h => hphase h.1), List.append_nil]

/-- A routine that has only knocked since. -/
theorem Since.ofKnocks {told : Bool} {r r' : Routine} {n : Nat}
    (htarget : r'.knockStr = r.knockStr ∧ r'.target = r.target) (hphase : r.phase ≠ .done) (hphase' : r'.phase ≠ .done)
    (hsent : r'.sent = r.sent ++ List.replicate n .knock)
    (hknocks : told = true →
      n + (if r'.phase = .knocking then 1 else 0) ≤ if r.phase = .knocking then 1 else 0) : Since told r r' where
  target := htarget
  sent := by
    refine ⟨n, ?_, hknocks⟩
    rw [hsent, if_neg (fun h => hphase' h.1), List.append_nil]
  done hr := absurd hr hphase

/-- One step more. -/
theorem Since.moves {told told' : Bool} {r r' r'' : Routine} (h : Since told r r')
    (htold : told = true → told' = true) (hmoves : Moves told' r' r'') : Since told r r'' := by
  -- a routine that still moves was not done before
  have hbefore : r'.phase ≠ .done → r.phase ≠ .done := fun hphase hr => hphase (h.done hr)
  cases hmoves with
  | same quit => exact ⟨h.target, h.sent, h.done⟩
  | check hphase =>
    have hnot : r'.phase ≠ .done := by rw [hphase]; exact Phase.noConfusion
    obtain ⟨knocks, hsent, hknocks⟩ := h.knocks hnot
    refine .ofKnocks h.target (hbefore hnot) ?_ hsent fun ht => ?_
    · cases told' <;> exact Phase.noConfusion
    · have hk := hknocks ht
      rw [hphase] at hk
      rw [htold ht]
      exact hk
  | knock ok hphase =>
    have hnot : r'.phase ≠ .done := by rw [hphase]; exact Phase.noConfusion
    obtain ⟨knocks, hsent, hknocks⟩ := h.knocks hnot
    refine .ofKnocks (n := knocks + 1) h.target (hbefore hnot) ?_ ?_ fun ht => ?_
    · cases ok <;> exact Phase.noConfusion
    · show r'.sent ++ [.knock] = _
      rw [hsent, List.replicate_succ', List.append_assoc]
    · have hk := hknocks ht
      rw [hphase, if_pos rfl] at hk
      cases ok <;> exact hk
  | due hphase =>
    have hnot : r'.phase ≠ .done := by rw [hphase]; exact Phase.noConfusion
    obtain ⟨knocks, hsent, hknocks⟩ := h.knocks hnot
    refine .ofKnocks h.target (hbefore hnot) Phase.noConfusion hsent fun ht => ?_
    have hk := hknocks ht
    rw [hphase] at hk
    exact hk
  | wake hphase =>
    have hnot : r'.phase ≠ .done := by rw [hphase]; exact Phase.noConfusion
    obtain ⟨knocks, hsent, hknocks⟩ := h.knocks hnot
    refine .ofKnocks h.target (hbefore hnot) Phase.noConfusion hsent fun ht => ?_
    have hk := hknocks ht
    rw [hphase] at hk
    exact hk
  | exit hphase =>
    have hnot : r'.phase ≠ .done := by rw [hphase]; exact Phase.noConfusion
    obtain ⟨knocks, hsent, hknocks⟩ := h.knocks hnot
    refine ⟨h.target, ⟨knocks, ?_, fun ht => ?_⟩, fun _ => rfl⟩
    · rw [if_pos ⟨rfl, hbefore hnot⟩]
      show r'.sent ++ [.exit] = _
      rw [hsent]
    · have hk := hknocks ht
      rw [hphase] at hk
      exact hk

/-- Along every run a routine keeps its target; it sends knocks, and one exit behind them, with which it is done.
    Once it has been told to quit, it sends no knock, but for one that it is about to send. -/
theorem knock_routine_requests {s t : State} (acts : List Act) (hrun : Runs.run step s acts = some t) {i : Nat}
    {r : Routine} (hi : s.routines[i]? = some r) :
    ∃ r', t.routines[i]? = some r' ∧ Since (s.told r) r r' := by
  have hlater : ∃ r', t.routines[i]? = some r' ∧ Since (s.told r) r r' ∧ (s.told r = true → t.told r' = true) := by
    refine Runs.run_invariant (I := fun t => ∃ r', t.routines[i]? = some r' ∧ Since (s.told r) r r' ∧
      (s.told r = true → t.told r' = true)) (fun u a u' h hstep => ?_) ⟨r, hi, .refl _ r, id⟩ hrun
    obtain ⟨r', hi', hsince, htold⟩ := h
    obtain ⟨r'', hi'', hmoves, htold'⟩ := moves_step hstep hi'
    exact ⟨r'', hi'', hsince.moves htold hmoves, fun ht => htold' (htold ht)⟩
  obtain ⟨r', hi', hsince, -⟩ := hlater
  exact ⟨r', hi', hsince⟩

/-- A routine that is stopped at its first knock sends this knock and the exit. -/
theorem knock_routine_requests_stopped : ∃ s t : State, ∃ r : Routine,
    Runs.run step
        (.start [⟨"key", "", "10.0.0.1", 0⟩] [⟨⟨"asp", "res", "", "10.0.0.1", 0⟩, ⟨"key", "", "10.0.0.1", 0⟩⟩])
      [.startKnockLoop, .launch, .check 0, .stopKnockLoop] = some s ∧
    s.routines[0]? = some r ∧ s.told r = true ∧
    Runs.run step s [.knock 0 false, .check 0, .exit 0] = some t ∧
    t.routines.map Routine.sent = [[.knock, .exit]] ∧
    ∃ r', t.routines[0]? = some r' ∧ Since (s.told r) r r' := by
  refine ⟨_, _, _, rfl, rfl, rfl, rfl, rfl, ?_⟩
  exact knock_routine_requests [.knock 0 false, .check 0, .exit 0] rfl rfl

end OpenNHP.Agent.KnockTargets
