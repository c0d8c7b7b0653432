/-
  The plugin handlers of the providers (`endpoints/server/udpserver.go`, `config.go`).

  1. **The program.**  A provider that is added, and each provider of a new version of the resource file, has its
     plugin loaded: the handler that is registered under its id is closed, the new one initialised, and put into
     the map if that succeeds.  Several loads may run, and a message looks its handler up at any time.  So every
     access to the map, `Close` and `Init` is a step of its own, and a load of the resource file is a queue of
     providers.

  2. **The property.**  `Open`: a message finds a handler that is open; a load that fails leaves the map as it was;
     and until the server stops, every registered handler is open.

  3. **Where it fails.**  `Close` comes before `Init`.  So a load that fails leaves a closed handler in the map,
     and a message may find one while a load runs (`closed_handler_found`).

  4. **The result.**  The handlers are open in the runs in which every `Init` succeeds that comes after a `Close`,
     none panics, and a message comes before or after the load of its provider (`handlers_open`, with `Unfailing`).
     The invariant: an entry of the map is an initialised handler of its provider, and is closed only while that is
     being loaded (`Inv.entry`); and each load owns what it holds (`Loader.Ok`).
-/
import OpenNHP.Lib.Runs
import OpenNHP.Lib.Tables
import OpenNHP.Server.HotReload

namespace OpenNHP.Server.Plugins

open Runs
open HotReload (AuthServiceProviderData)

/-! ## The server -/

/-- What `Init` of a handler comes to; a panic is recovered, and then there is no error. -/
inductive InitOutcome
  | ok
  | fails
  | panics
  deriving DecidableEq, Repr

/-- The error that `LoadPlugin` tests. -/
def InitOutcome.err : InitOutcome → Bool
  | .fails => true
  | .ok | .panics => false

/-- A handler that has been registered. -/
structure Handler where
  pluginId : String
  initialised : Bool
  closed : Bool
  deriving DecidableEq, Repr

/-- It has been initialised and is not closed. -/
def Handler.isOpen (h : Handler) : Bool := h.initialised && !h.closed

/-- Where `LoadPlugin` stands with a new handler; `closed` says that it has closed an old one. -/
inductive LoadPhase
  | idle
  | begun (pluginId : String)
  | found (pluginId : String) (oldHandler : Nat)
  | init (pluginId : String) (closed : Bool)
  | put (pluginId : String) (closed initialised : Bool)
  deriving DecidableEq, Repr

/-- A call of `AddAuthService` or `updateResources`, with the providers whose plugins are still to be loaded. -/
structure Loader where
  queue : List String
  phase : LoadPhase
  deriving DecidableEq, Repr

/-- It has closed the handler of a provider and not replaced it. -/
def Loader.reloading (ld : Loader) (aspId : String) : Bool :=
  match ld.phase with
  | .init pluginId closed | .put pluginId closed _ => closed && decide (pluginId = aspId)
  | _ => false

/-- The server, every handler there ever was, and the loads. -/
structure State where
  pluginHandlerMap : AList fun _ : String => Nat
  handlers : List Handler
  loaders : List Loader
  stopped : Bool

namespace State

/-- No handlers. -/
def start : State where
  pluginHandlerMap := ∅
  handlers := []
  loaders := []
  stopped := false

variable (s : State)

/-- A load moves on. -/
def setLoader (l : Nat) (ld : Loader) : State := { s with loaders := s.loaders.set l ld }

/-- `Close` of a handler that is registered or was. -/
def close (h : Nat) : State := { s with handlers := s.handlers.modify h fun hd => { hd with closed := true } }

/-- A new handler is put into the map. -/
def register (pluginId : String) (initialised : Bool) : State :=
  { s with
    pluginHandlerMap := s.pluginHandlerMap.insert pluginId s.handlers.length
    handlers := s.handlers ++ [⟨pluginId, initialised, false⟩] }

/-- `ClosePlugins`. -/
def closePlugins : State :=
  { s.pluginHandlerMap.entries.foldl (fun s e => s.close e.2) s with stopped := true }

/-- `FindPluginHandler`. -/
def findPluginHandler (aspId : String) : Option Nat := s.pluginHandlerMap.lookup aspId

/-- The handler is initialised and not closed. -/
def isOpen (h : Nat) : Bool := (s.handlers[h]?).any Handler.isOpen

end State

/-! ## Steps -/

/-- What loads do next, and what comes from outside. -/
inductive Act
  | addAuthService (aspData : AuthServiceProviderData)
  /-- The providers in the order in which the map gives them. -/
  | updateResources (aspMap : List (String × AuthServiceProviderData))
  /-- `ReadPluginHandler` for the next provider: a new handler or nil. -/
  | read (l : Nat) (opened : Bool)
  | lookUp (l : Nat)
  | close (l : Nat)
  | init (l : Nat) (outcome : InitOutcome)
  | put (l : Nat)
  /-- `FindPluginHandler`, for a message. -/
  | find (aspId : String)
  /-- `ClosePlugins`, with which `Stop` ends when the messages are done. -/
  | closePlugins

/-- One step; a server that has stopped takes none. -/
def step (s : State) (a : Act) : Option State :=
  if s.stopped then none
  else match a with
  | .addAuthService aspData =>
    let queue := if aspData.authSvcId = "" ∨ aspData.pluginPath = "" then [] else [aspData.authSvcId]
    some { s with loaders := s.loaders ++ [⟨queue, .idle⟩] }
  | .updateResources aspMap =>
    let queue := (aspMap.filter (·.2.pluginPath ≠ "")).map (·.1)
    some { s with loaders := s.loaders ++ [⟨queue, .idle⟩] }
  | .read l opened =>
    match s.loaders[l]? with
    | some ⟨aspId :: queue, .idle⟩ => some (s.setLoader l ⟨queue, if opened then .begun aspId else .idle⟩)
    | _ => none
  | .lookUp l =>
    match s.loaders[l]? with
    | some ⟨queue, .begun pluginId⟩ =>
      match s.pluginHandlerMap.lookup pluginId with
      | some oldHandler => some (s.setLoader l ⟨queue, .found pluginId oldHandler⟩)
      | none => some (s.setLoader l ⟨queue, .init pluginId false⟩)
    | _ => none
  | .close l =>
    match s.loaders[l]? with
    | some ⟨queue, .found pluginId oldHandler⟩ =>
      some ((s.close oldHandler).setLoader l ⟨queue, .init pluginId true⟩)
    | _ => none
  | .init l outcome =>
    match s.loaders[l]? with
    | some ⟨queue, .init pluginId closed⟩ =>
      some (s.setLoader l
        ⟨queue, if outcome.err then .idle else .put pluginId closed (decide (outcome = .ok))⟩)
    | _ => none
  | .put l =>
    match s.loaders[l]? with
    | some ⟨queue, .put pluginId _ initialised⟩ =>
      some ((s.register pluginId initialised).setLoader l ⟨queue, .idle⟩)
    | _ => none
  | .find _ => some s
  | .closePlugins => some s.closePlugins

/-! ## Handlers that are open -/

/-- A message finds an open handler or none. -/
def FindsOpen (s : State) : Act → Prop
  | .find aspId => ∀ h ∈ s.findPluginHandler aspId, s.isOpen h = true
  | _ => True

/-- A load that fails leaves what is registered as it is. -/
def KeepsMap (s s' : State) : Act → Prop
  | .init _ .fails => s'.pluginHandlerMap.entries = s.pluginHandlerMap.entries
  | _ => True

/-- The registered handlers are open, but for one that is being replaced. -/
def RegisteredOpen (s : State) : Prop :=
  ∀ e ∈ s.pluginHandlerMap.entries, (∀ ld ∈ s.loaders, ld.reloading e.1 = false) → s.isOpen e.2 = true

/-- What each step should be. -/
def Open (s : State) (a : Act) : Prop :=
  ∀ s' ∈ step s a, FindsOpen s a ∧ KeepsMap s s' a ∧ (s'.stopped = false → RegisteredOpen s')

/-- No `Init` panics, and none fails behind a `Close`; and no message looks for a handler between a `Close` and
    the end of the load. -/
def Unfailing (s : State) : Act → Prop
  | .init l outcome =>
    match s.loaders[l]? with
    | some ⟨_, .init _ closed⟩ => outcome = .ok ∨ outcome = .fails ∧ closed = false
    | _ => True
  | .find aspId => ∀ ld ∈ s.loaders, ld.reloading aspId = false
  | _ => True

instance (s : State) (a : Act) : Decidable (Open s a) := by
  unfold Open FindsOpen KeepsMap RegisteredOpen
  cases a with
  | init l outcome => cases outcome <;> infer_instance
  | _ => infer_instance

instance (s : State) (a : Act) : Decidable (Unfailing s a) := by
  unfold Unfailing
  split
  · split <;> infer_instance
  · infer_instance
  · infer_instance

/-! ## The invariant -/

/-- The handler is registered for the provider, or was. -/
def State.Owns (s : State) (aspId : String) (h : Nat) (P : Handler → Prop) : Prop :=
  ∃ hd, s.handlers[h]? = some hd ∧ hd.pluginId = aspId ∧ P hd

/-- A load of the provider is under way. -/
def State.Reloading (s : State) (aspId : String) : Prop := ∃ ld ∈ s.loaders, ld.reloading aspId = true

/-- What a load relies on. -/
def Loader.Ok (s : State) (ld : Loader) : Prop :=
  match ld.phase with
  | .found pluginId oldHandler => s.Owns pluginId oldHandler fun _ => True
  | .put _ _ initialised => initialised = true
  | _ => True

/-- What holds in every state of a run in which no load fails. -/
structure Inv (s : State) : Prop where
  entry : ∀ aspId, ∀ h ∈ s.pluginHandlerMap.lookup aspId,
    s.Owns aspId h fun hd => hd.initialised = true ∧ (hd.closed = true → s.Reloading aspId ∨ s.stopped = true)
  loader : ∀ ld ∈ s.loaders, ld.Ok s

variable {s : State}

/-- A handler is closed. -/
theorem State.Owns.close {aspId : String} {h h' : Nat} {P Q : Handler → Prop} (howns : s.Owns aspId h P)
    (hPQ : ∀ hd, P hd → Q hd ∧ (h' = h → Q { hd with closed := true })) : (s.close h').Owns aspId h Q := by
  obtain ⟨hd, hget, hid, hP⟩ := howns
  by_cases hh : h' = h
  · subst hh
    refine ⟨{ hd with closed := true }, ?_, hid, (hPQ hd hP).2 rfl⟩
    show (s.handlers.modify h' _)[h']? = _
    rw [List.getElem?_modify_eq, hget]
    rfl
  · refine ⟨hd, ?_, hid, (hPQ hd hP).1⟩
    show (s.handlers.modify h' _)[h]? = _
    rw [List.getElem?_modify_ne _ _ hh, hget]

/-- The handlers that there were are as before. -/
theorem State.Owns.register {aspId pluginId : String} {h : Nat} {initialised : Bool} {P : Handler → Prop}
    (howns : s.Owns aspId h P) : (s.register pluginId initialised).Owns aspId h P := by
  obtain ⟨hd, hget, hid, hP⟩ := howns
  refine ⟨hd, ?_, hid, hP⟩
  show (s.handlers ++ [_])[h]? = _
  rw [List.getElem?_append_left (List.getElem?_eq_some_iff.mp hget).1, hget]

/-- It depends on the handlers only. -/
theorem State.Owns.mono {s' : State} {aspId : String} {h : Nat} {P Q : Handler → Prop} (howns : s.Owns aspId h P)
    (hhandlers : s'.handlers = s.handlers) (hPQ : ∀ hd, P hd → Q hd) : s'.Owns aspId h Q := by
  obtain ⟨hd, hget, hid, hP⟩ := howns
  exact ⟨hd, (congrArg (·[h]?) hhandlers).trans hget, hid, hPQ hd hP⟩

/-- A load relies on who the handlers are for. -/
theorem Loader.Ok.lift {s' : State} {ld : Loader} (hok : ld.Ok s)
    (howns : ∀ aspId h, s.Owns aspId h (fun _ => True) → s'.Owns aspId h fun _ => True) : ld.Ok s' := by
  obtain ⟨queue, phase⟩ := ld
  cases phase with
  | idle | begun pluginId | init pluginId closed => trivial
  | found pluginId oldHandler => exact howns pluginId oldHandler hok
  | put pluginId closed initialised => exact hok

/-! ## A load moves on -/

section Move

variable {l : Nat} {ld ld' : Loader}

/-- A provider is reloaded as before if the load that has moved on reloads what it did. -/
theorem reloading_set (hl : s.loaders[l]? = some ld) {aspId : String}
    (hkeep : ld.reloading aspId = true → ld'.reloading aspId = true) :
    s.Reloading aspId → ∃ ld ∈ s.loaders.set l ld', ld.reloading aspId = true := by
  rintro ⟨other, hmem, hrel⟩
  obtain ⟨j, hj⟩ := List.mem_iff_getElem?.mp hmem
  by_cases hjl : j = l
  · subst hjl
    obtain rfl := Option.some.inj (hl.symm.trans hj)
    have hlt : j < s.loaders.length := (List.getElem?_eq_some_iff.mp hj).1
    exact ⟨ld', List.mem_of_getElem? (List.getElem?_set_self hlt), hkeep hrel⟩
  · refine ⟨other, List.mem_of_getElem? (i := j) ?_, hrel⟩
    rw [List.getElem?_set_ne (Ne.symm hjl), hj]

/-- One load has moved on. -/
theorem loader_set {s' : State} (hothers : ∀ ld ∈ s.loaders, ld.Ok s') (hok : ld'.Ok s') :
    ∀ ld ∈ s.loaders.set l ld', ld.Ok s' := by
  intro other hmem
  rcases List.mem_or_eq_of_mem_set hmem with hmem | rfl
  · exact hothers other hmem
  · exact hok

/-- It depends on the handlers only. -/
theorem Loader.Ok.of_eq {s' : State} (hok : ld.Ok s) (hhandlers : s'.handlers = s.handlers) : ld.Ok s' :=
  hok.lift fun _ _ howns => howns.mono hhandlers fun _ h => h

/-- A load moves on with the handlers and the map as they are. -/
theorem Inv.setLoader (h : Inv s) (hl : s.loaders[l]? = some ld)
    (hkeep : ∀ aspId, ld.reloading aspId = true → ld'.reloading aspId = true) (hok : ld'.Ok s) :
    Inv (s.setLoader l ld') := by
  refine ⟨fun aspId hd hlookup => ?_, fun other hmem => ?_⟩
  · refine (h.entry aspId hd hlookup).mono rfl fun hd ⟨hini, hclosed⟩ => ⟨hini, fun hc => ?_⟩
    exact (hclosed hc).imp_left (reloading_set hl (hkeep aspId))
  · exact (loader_set h.loader hok other hmem).of_eq rfl

/-- A load closes the handler that it has found. -/
theorem Inv.close (h : Inv s) {queue : List String} {pluginId : String} {oldHandler : Nat}
    (hl : s.loaders[l]? = some ⟨queue, .found pluginId oldHandler⟩) :
    Inv ((s.close oldHandler).setLoader l ⟨queue, .init pluginId true⟩) := by
  have hold : s.Owns pluginId oldHandler fun _ => True := h.loader _ (List.mem_of_getElem? hl)
  have hothers : ∀ ld ∈ s.loaders, ld.Ok (s.close oldHandler) := fun ld hmem =>
    (h.loader ld hmem).lift fun _ _ howns => howns.close fun _ _ => ⟨trivial, fun _ => trivial⟩
  refine ⟨fun aspId hd hlookup => ?_, fun other hmem => ?_⟩
  · have hentry := h.entry aspId hd hlookup
    have hkeep : s.Reloading aspId → ((s.close oldHandler).setLoader l ⟨queue, .init pluginId true⟩).Reloading aspId :=
      reloading_set hl nofun
    set s' : State := (s.close oldHandler).setLoader l ⟨queue, .init pluginId true⟩
    have hclosed : (s.close oldHandler).Owns aspId hd fun hd' =>
        hd'.initialised = true ∧ (hd'.closed = true → s'.Reloading aspId ∨ s'.stopped = true) := by
      refine hentry.close fun hd' hd'ok => ⟨⟨hd'ok.1, fun hc => (hd'ok.2 hc).imp_left hkeep⟩, ?_⟩
      -- the handler is registered for the provider whose plugin is loaded
      rintro rfl
      refine ⟨hd'ok.1, fun _ => .inl ⟨⟨queue, .init pluginId true⟩, ?_, ?_⟩⟩
      · have hlt : l < s.loaders.length := (List.getElem?_eq_some_iff.mp hl).1
        exact List.mem_of_getElem? (List.getElem?_set_self hlt)
      · obtain ⟨hd₁, hget₁, hid₁, -⟩ := hold
        obtain ⟨hd₂, hget₂, hid₂, -⟩ := hentry
        obtain rfl := Option.some.inj (hget₁.symm.trans hget₂)
        show (true && decide (pluginId = aspId)) = true
        rw [Bool.true_and]
        exact decide_eq_true (hid₁.symm.trans hid₂)
    exact hclosed.mono rfl fun _ h => h
  · refine (loader_set hothers ?_ other hmem).of_eq rfl
    trivial

/-- A load puts its handler into the map. -/
theorem Inv.put (h : Inv s) {queue : List String} {pluginId : String} {closed initialised : Bool}
    (hl : s.loaders[l]? = some ⟨queue, .put pluginId closed initialised⟩) :
    Inv ((s.register pluginId initialised).setLoader l ⟨queue, .idle⟩) := by
  have hini : initialised = true := h.loader _ (List.mem_of_getElem? hl)
  have hothers : ∀ ld ∈ s.loaders, ld.Ok (s.register pluginId initialised) := fun ld hmem =>
    (h.loader ld hmem).lift fun _ _ howns => howns.register
  refine ⟨fun aspId hd hlookup => ?_, fun other hmem => ?_⟩
  · change hd ∈ (s.pluginHandlerMap.insert pluginId s.handlers.length).lookup aspId at hlookup
    rw [Option.mem_def, AList.lookup_insert_eq_ite] at hlookup
    split at hlookup
    · rename_i hid
      obtain rfl := Option.some.inj hlookup
      refine ⟨⟨pluginId, initialised, false⟩, ?_, hid.symm, hini, nofun⟩
      show (s.handlers ++ [_])[s.handlers.length]? = _
      rw [List.getElem?_append_right (Nat.le_refl _), Nat.sub_self]
      rfl
    · rename_i hid
      have hentry : (s.register pluginId initialised).Owns aspId hd _ := (h.entry aspId hd hlookup).register
      refine hentry.mono rfl fun hd' ⟨hini', hclosed⟩ => ⟨hini', fun hc => (hclosed hc).imp_left ?_⟩
      -- another load reloads this provider
      refine reloading_set hl fun hrel => ?_
      rw [Loader.reloading, Bool.and_eq_true] at hrel
      exact absurd (of_decide_eq_true hrel.2).symm hid
  · refine (loader_set hothers ?_ other hmem).of_eq rfl
    trivial

end Move

/-! ## Steps keep the invariant -/

/-- There are no entries and no loads. -/
theorem inv_start : Inv .start where
  entry _ _ hlookup := absurd hlookup nofun
  loader _ hmem := absurd hmem nofun

/-- A call of `AddAuthService` or `updateResources` begins. -/
theorem Inv.begin (h : Inv s) (queue : List String) : Inv { s with loaders := s.loaders ++ [⟨queue, .idle⟩] } := by
  refine ⟨fun aspId hd hlookup => ?_, fun ld hmem => ?_⟩
  · refine (h.entry aspId hd hlookup).mono rfl fun hd' ⟨hini, hclosed⟩ => ⟨hini, fun hc => ?_⟩
    refine (hclosed hc).imp_left fun ⟨ld, hmem, hrel⟩ => ⟨ld, List.mem_append_left _ hmem, hrel⟩
  · rcases List.mem_append.mp hmem with hmem | hmem
    · exact (h.loader ld hmem).of_eq rfl
    · obtain rfl := List.mem_singleton.mp hmem
      trivial

/-- Every handler is closed in turn, -/
theorem owns_foldl_close {P : Handler → Prop} (hP : ∀ hd, P hd → P { hd with closed := true })
    (es : List (Sigma fun _ : String => Nat)) {aspId : String} {h : Nat} {t : State} (howns : t.Owns aspId h P) :
    (es.foldl (fun t e => t.close e.2) t).Owns aspId h P := by
  induction es generalizing t with
  | nil => exact howns
  | cons e es ih => exact ih (howns.close fun hd hPhd => ⟨hPhd, fun _ => hP hd hPhd⟩)

/-- and nothing else is changed. -/
theorem foldl_close_eq (es : List (Sigma fun _ : String => Nat)) (t : State) :
    (es.foldl (fun t e => t.close e.2) t).pluginHandlerMap = t.pluginHandlerMap ∧
      (es.foldl (fun t e => t.close e.2) t).loaders = t.loaders := by
  induction es generalizing t with
  | nil => exact ⟨rfl, rfl⟩
  | cons e es ih => exact ih (t.close e.2)

/-- `Stop` closes the handlers and leaves their entries. -/
theorem Inv.closePlugins (h : Inv s) : Inv s.closePlugins := by
  obtain ⟨hmap, hloaders⟩ := foldl_close_eq s.pluginHandlerMap.entries s
  refine ⟨fun aspId hd hlookup => ?_, fun ld hmem => ?_⟩
  · change hd ∈ AList.lookup aspId (s.pluginHandlerMap.entries.foldl _ s).pluginHandlerMap at hlookup
    rw [hmap] at hlookup
    have hentry := (h.entry aspId hd hlookup).mono rfl fun hd' hok => hok.1
    have hclosed :=
      owns_foldl_close (P := (·.initialised = true)) (fun _ hini => hini) s.pluginHandlerMap.entries hentry
    exact hclosed.mono rfl fun hd' hini => ⟨hini, fun _ => .inr rfl⟩
  · change ld ∈ (s.pluginHandlerMap.entries.foldl _ s).loaders at hmem
    rw [hloaders] at hmem
    refine (h.loader ld hmem).lift fun aspId hd howns => ?_
    exact (owns_foldl_close (fun _ _ => trivial) s.pluginHandlerMap.entries howns).mono rfl fun _ h => h

/-- Every step of such a run keeps the invariant. -/
theorem Inv.step (h : Inv s) {a : Act} (hund : Unfailing s a) {s' : State} (hstep : step s a = some s') :
    Inv s' := by
  unfold Plugins.step at hstep
  split at hstep
  · cases hstep
  · cases a with
    | addAuthService aspData =>
      cases hstep
      exact h.begin _
    | updateResources aspMap =>
      cases hstep
      exact h.begin _
    | read l opened =>
      simp only at hstep
      split at hstep
      · rename_i aspId queue hl
        cases hstep
        refine h.setLoader hl (fun _ => nofun) ?_
        cases opened <;> trivial
      · cases hstep
    | lookUp l =>
      simp only at hstep
      split at hstep
      · rename_i queue pluginId hl
        split at hstep
        · rename_i oldHandler hlookup
          cases hstep
          refine h.setLoader hl (fun _ => nofun) ?_
          exact (h.entry pluginId oldHandler hlookup).mono rfl fun _ _ => trivial
        · cases hstep
          exact h.setLoader hl (fun _ => nofun) trivial
      · cases hstep
    | close l =>
      simp only at hstep
      split at hstep
      · rename_i queue pluginId oldHandler hl
        cases hstep
        exact h.close hl
      · cases hstep
    | init l outcome =>
      simp only at hstep
      split at hstep
      · rename_i queue pluginId closed hl
        cases hstep
        rw [Unfailing, hl] at hund
        rcases hund with rfl | ⟨rfl, rfl⟩
        · exact h.setLoader hl (fun _ hrel => hrel) rfl
        · -- nothing was closed before
          exact h.setLoader hl (fun _ => nofun) trivial
      · cases hstep
    | put l =>
      simp only at hstep
      split at hstep
      · rename_i queue pluginId closed initialised hl
        cases hstep
        exact h.put hl
      · cases hstep
    | find aspId =>
      cases hstep
      exact h
    | closePlugins =>
      cases hstep
      exact h.closePlugins

/-- Where no load is between a `Close` and its end, the registered handler is open. -/
theorem Inv.isOpen (h : Inv s) (hstopped : s.stopped = false) {aspId : String} {hd : Nat}
    (hlookup : hd ∈ s.pluginHandlerMap.lookup aspId) (hidle : ∀ ld ∈ s.loaders, ld.reloading aspId = false) :
    s.isOpen hd = true := by
  obtain ⟨hd', hget, -, hini, hclosed⟩ := h.entry aspId hd hlookup
  have hnot : hd'.closed = false := by
    rw [← Bool.not_eq_true]
    intro hc
    rcases hclosed hc with ⟨ld, hmem, hrel⟩ | hstop
    · rw [hidle ld hmem] at hrel
      cases hrel
    · rw [hstopped] at hstop
      cases hstop
  rw [State.isOpen, hget, Option.any_some, Handler.isOpen, hini, hnot]
  rfl

/-- In a run in which no `Init` fails behind a `Close`, the handlers are open. -/
theorem handlers_open (acts : List Act) (hund : Steps step Unfailing .start acts) : Steps step Open .start acts := by
  refine steps_imp (I := Inv) (fun s a h ha => ?_) (fun s a s' h ha hstep => h.step ha hstep) inv_start hund
  intro s' hstep
  have hrunning : s.stopped = false := by
    cases hstopped : s.stopped with
    | false => rfl
    | true =>
      simp [step, hstopped] at hstep
  refine ⟨?_, ?_, fun hstopped e hmem hidle => ?_⟩
  · cases a with
    | find aspId => exact fun hd hlookup => h.isOpen hrunning hlookup ha
    | _ => trivial
  · cases a with
    | init l outcome =>
      cases outcome with
      | ok | panics => trivial
      | fails =>
        replace hstep : step s (.init l .fails) = some s' := hstep
        unfold step at hstep
        rw [hrunning, if_neg (by decide)] at hstep
        simp only at hstep
        split at hstep
        · cases hstep
          rfl
        · cases hstep
    | _ => trivial
  · exact (h.step ha hstep).isOpen hstopped (AList.mem_lookup_iff.mpr hmem) hidle

/-! ## A plugin that is loaded again -/

/-- A provider with a plugin. -/
def sampleProvider : AuthServiceProviderData := { HotReload.exampleProvider with authSvcId := "example" }

/-- A provider is added and its plugin loaded. -/
def added : List Act := [.addAuthService sampleProvider, .read 0 true, .lookUp 0, .init 0 .ok, .put 0]

/-- The file has a new version with the provider, up to `Init`. -/
def updated : List Act := [.updateResources [("example", sampleProvider)], .read 1 true, .lookUp 1, .close 1]

/-- The second load goes through, and a third, of another provider, fails. -/
def reloaded : List Act :=
  added ++ updated ++ [.init 1 .ok, .put 1, .find "example",
    .addAuthService { sampleProvider with authSvcId := "other" }, .read 2 true, .lookUp 2, .init 2 .fails,
    .find "other"]

/-- It is added, reloaded and asked. -/
theorem handlers_open_reloaded :
    (run step .start reloaded).isSome = true ∧ Steps step Open .start reloaded :=
  ⟨by decide +kernel, handlers_open reloaded (by decide +kernel)⟩

/-- `Init` of the second load fails; or a message comes before it. -/
theorem closed_handler_found :
    ((run step .start (added ++ updated ++ [.init 1 .fails])).map fun s =>
        (s.findPluginHandler "example").map fun h => s.isOpen h) = some (some false) ∧
      ¬ Steps step Open .start (added ++ updated ++ [.init 1 .fails]) ∧
      ¬ Steps step Open .start (added ++ updated ++ [.find "example"]) := by
  decide +kernel

end OpenNHP.Server.Plugins
