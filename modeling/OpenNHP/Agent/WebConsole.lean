/-
  The web console of a data agent (`endpoints/agent/service.go`, `ta.go`) and the loop behind its gate
  (`dhpKnockResourceRoutine`, `KnockDHP`).

  THE PROGRAM.  The loop sends the evidence of the environment to the server, round after round, and notes in
  `safeTee` whether the server has appraised it.  The console answers requests for trusted applications only while
  it has; other requests it always answers.  An application that is registered brings its functions, which the
  console routes to `callFunction`; the application and the function are read back from the path.

  THE SPECIFICATION.  A request is let in at one moment and carried out at another, with rounds in between.
  `calls_attested` says of every call of an application in every run that its request came in while the last round
  was one whose evidence the server appraised, and for which registered function; and that no request makes two
  calls.

  THE CRUX.  The gate is looked at once, when the request comes in, so the statement is about the events before
  that moment (`Attested`, `Admitted`), and the requests are told apart by when they came (`arrivals`).  What
  `safeTee` says at a moment is what the last round or restart has left there.

  ASSEMBLY.  `Gated` is the invariant, over the run so far: the gate, the requests that wait, the calls that were
  made, and the routes.  Each event has a lemma of its own (`Gated.keep`, `Gated.arrive`, `Gated.answer`).  A path
  is read back from its pieces (`readFrom_routeName`), which it does unless a name has a slash.
-/
import OpenNHP.Agent.Knock
import OpenNHP.Lib.Pieces
import OpenNHP.Lib.Runs
import OpenNHP.Lib.Tables

namespace OpenNHP.Agent.WebConsole

open Core AC Server Server.KnockRequests Knock

/-! ## Rounds of the loop -/

/-- `common.ServerDHPKnockAckMsg`. -/
structure DhpAck where
  errCode : String := ""
  errMsg : String := ""
  openTime : UInt32 := 0

/-- What comes back for a knock with evidence. -/
inductive DhpReply
  | failed (text : String)
  | packet (headerType : HeaderType) (body : Except (String × DhpAck) (Option DhpAck))

/-- What a round meets: the peer of a server with an address, the evidence, whether the agent is running, and
    what comes back. -/
structure DhpAttempt where
  serverAssigned : Bool
  evidence : Option String
  running : Bool
  reply : String → DhpReply

/-- What `KnockDHP` returns, and what it stores in `trustedByNHPServer`. -/
structure DhpResult where
  ackMsg : Option DhpAck
  err : Option KnockError
  trusted : Option Bool

/-- `KnockDHP`: the acknowledgement, the error, and what is written to `trustedByNHPServer`. -/
def knockDHP (m : DhpAttempt) : DhpResult :=
  let fail (ackMsg : Option DhpAck) (e : AppError) (trusted : Option Bool) : DhpResult :=
    ⟨ackMsg.map fun ackMsg => { ackMsg with errCode := e.errorCode, errMsg := e.text }, some (.app (some e)), trusted⟩
  if m.serverAssigned = false then fail none .knockServerNotFound none
  else
    match m.evidence with
    | none => fail none .evidenceGetFailed none
    | some evidence =>
      if m.running = false then fail (some {}) .packetToMessageRoutineStopped none
      else
        match m.reply evidence with
        | .failed text =>
          ⟨some { errCode := AppError.packetEncryptionFailed.errorCode, errMsg := text }, some (.other text),
            some false⟩
        | .packet headerType body =>
          if headerType ≠ .ack then fail (some {}) .transactionRepliedWithWrongType (some true)
          else
            match body with
            | .error (text, ackMsg) =>
              ⟨some { ackMsg with errCode := AppError.jsonParseFailed.errorCode, errMsg := text },
                some (.other text), some true⟩
            | .ok body =>
              let ackMsg := body.getD {}
              if ackMsg.errCode ≠ AppError.success.errorCode then
                ⟨some ackMsg, some (.app (errorCodeToError ackMsg.errCode)), some true⟩
              else ⟨some ackMsg, none, some true⟩

/-- What becomes of the message of a round: it fails, is answered by something else, or is handled by the
    server. -/
inductive DhpTransit
  | failed (text : String)
  | strayed (headerType : HeaderType) (h : headerType ≠ .ack)
  | handled (remoteAddr : NetAddress) (addrStr : String)

/-- A round of the loop, as the agent finds things. -/
structure Round where
  serverAssigned : Bool
  evidence : Option String
  running : Bool
  transit : DhpTransit

section Rounds

variable (s : KnockServer)

/-- What the server answers, if the network does this with the knock. -/
def dhpAnswer (transit : DhpTransit) (evidence : String) : DhpReply :=
  match transit with
  | .failed text => .failed text
  | .strayed headerType _ => .packet headerType (.ok none)
  | .handled remoteAddr addrStr =>
    match s.handleKnockRequest .dhpKnk ⟨.error "", .ok evidence⟩ remoteAddr addrStr with
    | .knock ackMsg => .packet .ack (.ok (ackMsg.map fun ackMsg => { errCode := ackMsg.errCode }))
    | .dhp errCode openTime => .packet .ack (.ok (some { errCode, openTime }))

/-- A round as an attempt of this agent. -/
def Round.attempt (r : Round) : DhpAttempt where
  serverAssigned := r.serverAssigned
  evidence := r.evidence
  running := r.running
  reply := dhpAnswer s r.transit

/-- The server handled the message of the round and appraised the evidence in it. -/
def Round.Appraised (r : Round) : Prop :=
  r.serverAssigned = true ∧ r.running = true ∧ (∃ evidence, r.evidence = some evidence ∧
    s.appraiseEvidence evidence = true) ∧ ∃ remoteAddr addrStr, r.transit = .handled remoteAddr addrStr

/-- A round ends without an error exactly when the server appraised its evidence. -/
theorem knockDHP_err (r : Round) : (knockDHP (r.attempt s)).err = none ↔ r.Appraised s := by
  obtain ⟨serverAssigned, evidence, running, transit⟩ := r
  cases serverAssigned with
  | false => exact iff_of_false nofun fun h => Bool.false_ne_true h.1
  | true =>
    cases evidence with
    | none => exact iff_of_false nofun fun ⟨_, _, ⟨_, h, _⟩, _⟩ => by cases h
    | some evidence =>
      cases running with
      | false => exact iff_of_false nofun fun h => Bool.false_ne_true h.2.1
      | true =>
        cases transit with
        | failed text => exact iff_of_false nofun fun ⟨_, _, _, _, _, h⟩ => by cases h
        | strayed headerType hne =>
          refine iff_of_false ?_ fun ⟨_, _, _, _, _, h⟩ => by cases h
          show (if headerType ≠ .ack then _ else _ : DhpResult).err ≠ none
          rw [if_pos hne]
          nofun
        | handled remoteAddr addrStr =>
          cases hverdict : s.appraiseEvidence evidence with
          | false =>
            refine iff_of_false ?_ ?_
            · simp [knockDHP, Round.attempt, dhpAnswer, KnockServer.handleKnockRequest, hverdict,
                AppError.evidenceAppraisalFailed, AppError.success]
            · rintro ⟨-, -, ⟨e, he, happraised⟩, -⟩
              cases he
              rw [hverdict] at happraised
              cases happraised
          | true =>
            refine iff_of_true ?_ ⟨rfl, rfl, ⟨evidence, rfl, hverdict⟩, remoteAddr, addrStr, rfl⟩
            simp [knockDHP, Round.attempt, dhpAnswer, KnockServer.handleKnockRequest, hverdict]

end Rounds

/-! ## The console -/

/-- The routes of the console, -/
def serviceApiPrefix : String := "/api/v1"

/-- and those behind the gate. -/
def taApiPrefix : String := serviceApiPrefix ++ "/ta"

/-- The path of a function of an application. -/
def routeName (id tool : String) : String := taApiPrefix ++ "/" ++ id ++ "/" ++ tool

/-- What is registered of an application. -/
structure Form where
  name : String
  description : String
  language : String
  entry : String
  /-- the name and the hash of the file, if there is one -/
  file : Option (String × String)

/-- The body of a request; the `doId` of a JSON object may be missing, and may be no string. -/
inductive Body
  | unreadable
  | json (doId : Option (Option String))
  | form (form : Form)

/-- A request, as the console sees it. -/
structure Request where
  method : String
  path : String
  body : Body

/-- A call of `StartConfidentialComputing`. -/
structure Call where
  doId : String
  taId : String
  function : String

/-- A call, with the request that made it and that request's number. -/
structure Made where
  index : Nat
  req : Request
  call : Call

/-- `TrustedApplication`: the names of its functions, as the process lists them. -/
abbrev TaMap := AList fun _ : String => List String

/-- The console and its gate. -/
structure State where
  safeTee : Bool
  trustedByNHPServer : Bool
  /-- the identifiers that the description files of uploads hold, by the hash of the upload -/
  taFiles : AList fun _ : String => String
  bufferedTaMap : TaMap
  /-- methods and paths -/
  routes : List (String × String)
  /-- the requests by their numbers, without those that were turned away or have been answered -/
  requests : List (Option Request)
  /-- every call -/
  calls : List Made

/-- No round has been, and nothing is registered. -/
def State.start (taFiles : AList fun _ : String => String) : State := ⟨false, false, taFiles, ∅, [], [], []⟩

/-- What the console meets outside: the identifier it makes, and the functions of the process that it starts from
    the file of an identifier and a name, if that starts. -/
structure Outside where
  uuid : String
  launch : String → String → Option (List String)

namespace State

variable (s : State)

/-- `CheckAgentSafeOrNot`: the request goes on. -/
def letsIn (req : Request) : Bool := ¬ taApiPrefix.toList <+: req.path.toList ∨ s.safeTee = true

/-- `NewTrustApplication`. -/
def newTrustApplication (tadId fileName : String) (out : Outside) : Option (List String) × State :=
  match s.bufferedTaMap.lookup tadId with
  | some tools => (some tools, s)
  | none =>
    match out.launch tadId fileName with
    | none => (none, s)
    | some tools => (some tools, { s with bufferedTaMap := s.bufferedTaMap.insert tadId tools })

/-- `addTARoute`. -/
def addTARoute (id : String) (tools : List String) : State :=
  { s with routes := tools.foldl (fun routes tool =>
      if ("POST", routeName id tool) ∈ routes then routes else routes ++ [("POST", routeName id tool)]) s.routes }

/-- `registerTAService`; the hash of the upload finds the identifier of an earlier upload. -/
def registerTAService (form : Form) (out : Outside) : State :=
  if form.name = "" ∨ form.description = "" ∨ form.language = "" ∨ form.entry = "" then s
  else
    match form.file with
    | none => s
    | some (fileName, md5sum) =>
      let fileUuid := (s.taFiles.lookup md5sum).getD out.uuid
      let s := { s with taFiles := s.taFiles.insert md5sum fileUuid }
      match s.newTrustApplication fileUuid fileName out with
      | (none, s) => s
      | (some tools, s) => s.addTARoute fileUuid tools

/-- `callFunction`, with the identifier and the function that it reads back from the path. -/
def callFunction (i : Nat) (req : Request) : State :=
  match req.body with
  | .json (some (some doId)) =>
    match (req.path.toList.splitOn '/').reverse with
    | function :: taId :: _ =>
      { s with calls := ⟨i, req, ⟨doId, String.ofList taId, String.ofList function⟩⟩ :: s.calls }
    | _ => s
  | _ => s

/-- The handlers of the applications; the others leave the routes and the gate alone. -/
def handle (i : Nat) (req : Request) (out : Outside) : State :=
  if req.method = "POST" ∧ req.path = taApiPrefix ++ "/register" then
    match req.body with
    | .form form => s.registerTAService form out
    | _ => s
  else if (req.method, req.path) ∈ s.routes then s.callFunction i req
  else s

end State

/-- What happens at the agent: a round of the loop comes to its end, the agent starts anew, a request comes in, one
    is answered. -/
inductive Event
  | round (r : Round)
  | restart
  | arrive (req : Request)
  | answer (i : Nat) (out : Outside)

/-- One event; `none` for an answer to a request that does not wait. -/
def step (server : KnockServer) (s : State) : Event → Option State
  | .round r =>
    let result := knockDHP (r.attempt server)
    some { s with
      trustedByNHPServer := result.trusted.getD s.trustedByNHPServer
      safeTee := result.err.isNone }
  | .restart => some { s with trustedByNHPServer := false, safeTee := false }
  | .arrive req => some { s with requests := s.requests ++ [if s.letsIn req then some req else none] }
  | .answer i out =>
    match s.requests[i]? with
    | some (some req) => some { s.handle i req out with requests := s.requests.set i none }
    | _ => none

/-! ## Paths -/

/-- The last two parts of a path are the application and the function of a call. -/
def Call.ReadFrom (c : Call) (path : String) : Prop :=
  ∃ parts, (path.toList.splitOn '/').reverse = c.function.toList :: c.taId.toList :: parts

/-- The pieces of a route. -/
theorem toList_routeName (id tool : String) :
    (routeName id tool).toList =
      ['/'].intercalate [[], "api".toList, "v1".toList, "ta".toList, id.toList, tool.toList] := by
  simp [routeName, taApiPrefix, serviceApiPrefix, List.intercalate]

/-- A path is read back as it was made exactly when neither of the two names holds a separator. -/
theorem readFrom_routeName {c : Call} {id tool : String} (h : c.ReadFrom (routeName id tool)) :
    c.taId = id ∧ c.function = tool ↔ '/' ∉ id.toList ∧ '/' ∉ tool.toList := by
  obtain ⟨parts, hparts⟩ := h
  have hpieces : ∀ piece ∈ (routeName id tool).toList.splitOn '/', '/' ∉ piece :=
    fun piece => List.not_mem_of_mem_splitOn
  have hmem : ∀ piece, piece ∈ c.function.toList :: c.taId.toList :: parts → '/' ∉ piece := by
    intro piece hpiece
    rw [← hparts, List.mem_reverse] at hpiece
    exact hpieces piece hpiece
  constructor
  · rintro ⟨rfl, rfl⟩
    exact ⟨hmem _ (by simp), hmem _ (by simp)⟩
  · rintro ⟨hid, htool⟩
    have hsplit : (routeName id tool).toList.splitOn '/' =
        [[], "api".toList, "v1".toList, "ta".toList, id.toList, tool.toList] := by
      rw [toList_routeName]
      apply List.splitOn_intercalate
      · intro l hl
        simp only [List.mem_cons, List.not_mem_nil, or_false] at hl
        rcases hl with rfl | rfl | rfl | rfl | rfl | rfl
        · exact List.not_mem_nil
        · decide
        · decide
        · decide
        · exact hid
        · exact htool
      · exact List.cons_ne_nil _ _
    rw [hsplit] at hparts
    simp only [List.reverse_cons, List.reverse_nil, List.nil_append, List.cons_append, List.cons.injEq] at hparts
    obtain ⟨hfunction, htaId, -⟩ := hparts
    exact ⟨String.toList_injective htaId.symm, String.toList_injective hfunction.symm⟩

/-! ## What the handlers do -/

/-- The path is that of a function of a registered application. -/
def Serves (m : TaMap) (method path : String) : Prop :=
  ∃ id tools tool, m.lookup id = some tools ∧ tool ∈ tools ∧ method = "POST" ∧ path = routeName id tool

/-- Every route serves a registered function. -/
def Routed (s : State) : Prop := ∀ r ∈ s.routes, Serves s.bufferedTaMap r.1 r.2

/-- More applications, no fewer routes. -/
theorem Serves.mono {m m' : TaMap} (h : ∀ id tools, m.lookup id = some tools → m'.lookup id = some tools)
    {method path : String} (hs : Serves m method path) : Serves m' method path := by
  obtain ⟨id, tools, tool, hlookup, htool, hmethod, hpath⟩ := hs
  exact ⟨id, tools, tool, h id tools hlookup, htool, hmethod, hpath⟩

/-- The handlers leave the gate and the requests alone, and lose no application; a call is of a function that was
    routed, and reads the path of its request. -/
structure Handles (s s' : State) (i : Nat) (req : Request) : Prop where
  safeTee : s'.safeTee = s.safeTee
  kept : ∀ id tools, s.bufferedTaMap.lookup id = some tools → s'.bufferedTaMap.lookup id = some tools
  routed : Routed s → Routed s'
  calls : s'.calls = s.calls ∨ ∃ call : Call, s'.calls = ⟨i, req, call⟩ :: s.calls ∧
    (req.method, req.path) ∈ s.routes ∧ call.ReadFrom req.path

/-- A request that does nothing. -/
theorem Handles.refl (s : State) (i : Nat) (req : Request) : Handles s s i req where
  safeTee := rfl
  kept := fun _ _ h => h
  routed := id
  calls := .inl rfl

/-- Routes are added for functions that the application has. -/
theorem mem_addTARoute {s : State} {id : String} {tools : List String} {r : String × String}
    (h : r ∈ (s.addTARoute id tools).routes) : r ∈ s.routes ∨ ∃ tool ∈ tools, r = ("POST", routeName id tool) := by
  have hfold : ∀ (ts : List String) (routes : List (String × String)),
      r ∈ ts.foldl (fun routes tool => if ("POST", routeName id tool) ∈ routes then routes
        else routes ++ [("POST", routeName id tool)]) routes →
      r ∈ routes ∨ ∃ tool ∈ ts, r = ("POST", routeName id tool) := by
    intro ts
    induction ts with
    | nil => exact fun routes h => .inl h
    | cons tool ts ih =>
      intro routes h
      rw [List.foldl_cons] at h
      rcases ih _ h with h | ⟨tool', htool', heq⟩
      · split at h
        · exact .inl h
        · rcases List.mem_append.mp h with h | h
          · exact .inl h
          · exact .inr ⟨tool, List.mem_cons_self, List.mem_singleton.mp h⟩
      · exact .inr ⟨tool', List.mem_cons_of_mem _ htool', heq⟩
  exact hfold tools s.routes h

/-- A function that is routed is registered. -/
theorem handles_addTARoute {s : State} {id : String} {tools : List String} {i : Nat} {req : Request}
    (hlookup : s.bufferedTaMap.lookup id = some tools) : Handles s (s.addTARoute id tools) i req where
  safeTee := rfl
  kept := fun _ _ h => h
  routed := by
    intro hrouted r hr
    rcases mem_addTARoute hr with hr | ⟨tool, htool, rfl⟩
    · exact hrouted r hr
    · exact ⟨id, tools, tool, hlookup, htool, rfl, rfl⟩
  calls := .inl rfl

/-- An application that is returned is there, and none is lost. -/
theorem newTrustApplication_spec {s s' : State} {tadId fileName : String} {out : Outside}
    {found : Option (List String)} (h : s.newTrustApplication tadId fileName out = (found, s')) :
    (∀ tools, found = some tools → s'.bufferedTaMap.lookup tadId = some tools) ∧
      ∃ m, s' = { s with bufferedTaMap := m } ∧
        ∀ id tools, s.bufferedTaMap.lookup id = some tools → m.lookup id = some tools := by
  unfold State.newTrustApplication at h
  split at h
  · rename_i tools hlookup
    cases h
    exact ⟨fun _ hfound => by cases hfound; exact hlookup, s.bufferedTaMap, rfl, fun _ _ h => h⟩
  · rename_i hlookup
    split at h
    · cases h
      exact ⟨nofun, s.bufferedTaMap, rfl, fun _ _ h => h⟩
    · rename_i tools hlaunch
      cases h
      refine ⟨fun _ hfound => by cases hfound; exact AList.lookup_insert _, _, rfl, fun id tools' hid => ?_⟩
      have hne : id ≠ tadId := by
        rintro rfl
        rw [hlookup] at hid
        cases hid
      rw [AList.lookup_insert_ne hne]
      exact hid

/-- An application more makes no call. -/
theorem handles_of_map {s : State} {m : TaMap} {files : AList fun _ : String => String} {i : Nat} {req : Request}
    (hkept : ∀ id tools, s.bufferedTaMap.lookup id = some tools → m.lookup id = some tools) :
    Handles s { s with taFiles := files, bufferedTaMap := m } i req where
  safeTee := rfl
  kept := hkept
  routed := fun hrouted r hr => (hrouted r hr).mono hkept
  calls := .inl rfl

/-- One thing after another, of which neither calls. -/
theorem Handles.trans {s s' s'' : State} {i : Nat} {req : Request} (h : Handles s s' i req)
    (hcalls : s'.calls = s.calls) (h' : Handles s' s'' i req) (hroutes : s''.calls = s'.calls) :
    Handles s s'' i req where
  safeTee := h'.safeTee.trans h.safeTee
  kept := fun id tools hid => h'.kept id tools (h.kept id tools hid)
  routed := h'.routed ∘ h.routed
  calls := .inl (hroutes.trans hcalls)

/-- A registration makes no call, -/
theorem handles_registerTAService (s : State) (form : Form) (out : Outside) (i : Nat) (req : Request) :
    Handles s (s.registerTAService form out) i req := by
  unfold State.registerTAService
  split_ifs
  · exact .refl s i req
  · cases form.file with
    | none => exact .refl s i req
    | some file =>
      dsimp only
      generalize (s.taFiles.lookup file.2).getD out.uuid = fileUuid
      split
      · rename_i s' hnew
        obtain ⟨-, m, rfl, hkept⟩ := newTrustApplication_spec hnew
        exact handles_of_map hkept
      · rename_i tools s' hnew
        obtain ⟨hlookup, m, rfl, hkept⟩ := newTrustApplication_spec hnew
        have hstored : Handles s { s with taFiles := s.taFiles.insert file.2 fileUuid, bufferedTaMap := m } i req :=
          handles_of_map hkept
        exact hstored.trans rfl (handles_addTARoute (hlookup tools rfl)) rfl

/-- and a call is made where the route leads. -/
theorem handles_callFunction {s : State} {i : Nat} {req : Request} (hroute : (req.method, req.path) ∈ s.routes) :
    Handles s (s.callFunction i req) i req := by
  unfold State.callFunction
  split
  · rename_i doId hbody
    split
    · rename_i function taId parts hparts
      refine ⟨rfl, fun _ _ h => h, id, .inr ⟨_, rfl, hroute, parts, ?_⟩⟩
      rw [hparts, String.toList_ofList, String.toList_ofList]
    · exact .refl s i req
  · exact .refl s i req

/-- So is every request handled. -/
theorem handles_handle (s : State) (i : Nat) (req : Request) (out : Outside) :
    Handles s (s.handle i req out) i req := by
  unfold State.handle
  split_ifs with hregister hroute
  · split
    · exact handles_registerTAService s _ out i req
    · exact .refl s i req
  · exact handles_callFunction hroute
  · exact .refl s i req

/-! ## The gate over a run -/

section Gate

variable (server : KnockServer)

/-- The event leaves the gate as it is. -/
def Event.Quiet : Event → Prop
  | .round _ | .restart => False
  | .arrive _ | .answer _ _ => True

/-- A request comes in. -/
def Event.arrives : Event → Bool
  | .arrive _ => true
  | _ => false

/-- The last round there was since the agent started is one whose evidence the server appraised. -/
def Attested (es : List Event) : Prop :=
  ∃ pre r post, es = pre ++ .round r :: post ∧ r.Appraised server ∧ ∀ e ∈ post, e.Quiet

/-- How many requests have come in. -/
def arrivals (es : List Event) : Nat := es.countP Event.arrives

/-- The request of a number came in, and while the environment was attested where its path asks for that. -/
def Admitted (es : List Event) (i : Nat) (req : Request) : Prop :=
  ∃ pre post, es = pre ++ .arrive req :: post ∧ arrivals pre = i ∧
    (taApiPrefix.toList <+: req.path.toList → Attested server pre)

variable {server} {es : List Event}

/-- After a round it depends on this round, -/
theorem attested_round (r : Round) : Attested server (es ++ [.round r]) ↔ r.Appraised server := by
  constructor
  · rintro ⟨pre, r', post, heq, happraised, hquiet⟩
    induction post using List.reverseRecOn with
    | nil =>
      obtain ⟨-, hr⟩ := List.append_inj' heq rfl
      obtain rfl : r = r' := by
        injection hr with hr
        injection hr
      exact happraised
    | append_singleton post e _ =>
      -- the last event is no quiet one
      rw [← List.cons_append, ← List.append_assoc] at heq
      obtain ⟨-, he⟩ := List.append_inj' heq rfl
      have hlast := hquiet e (by simp)
      rw [← List.singleton_inj.mp he] at hlast
      exact hlast.elim
  · exact fun h => ⟨es, r, [], rfl, h, nofun⟩

/-- after a restart it is not so, -/
theorem not_attested_restart : ¬ Attested server (es ++ [.restart]) := by
  rintro ⟨pre, r, post, heq, -, hquiet⟩
  induction post using List.reverseRecOn with
  | nil =>
    obtain ⟨-, hr⟩ := List.append_inj' heq rfl
    injection hr with hr
    cases hr
  | append_singleton post e _ =>
    rw [← List.cons_append, ← List.append_assoc] at heq
    obtain ⟨-, he⟩ := List.append_inj' heq rfl
    have hlast := hquiet e (by simp)
    rw [← List.singleton_inj.mp he] at hlast
    exact hlast

/-- and other events leave it. -/
theorem attested_quiet {e : Event} (he : e.Quiet) : Attested server (es ++ [e]) ↔ Attested server es := by
  constructor
  · rintro ⟨pre, r, post, heq, happraised, hquiet⟩
    induction post using List.reverseRecOn with
    | nil =>
      obtain ⟨-, hr⟩ := List.append_inj' heq rfl
      rw [List.singleton_inj.mp hr] at he
      exact he.elim
    | append_singleton post e' _ =>
      rw [← List.cons_append, ← List.append_assoc] at heq
      obtain ⟨hes, -⟩ := List.append_inj' heq rfl
      exact ⟨pre, r, post, hes, happraised, fun e'' he'' => hquiet e'' (by simp [he''])⟩
  · rintro ⟨pre, r, post, rfl, happraised, hquiet⟩
    refine ⟨pre, r, post ++ [e], by simp, happraised, fun e' he' => ?_⟩
    rcases List.mem_append.mp he' with he' | he'
    · exact hquiet e' he'
    · rw [List.mem_singleton.mp he']
      exact he

/-- Who has been admitted stays so. -/
theorem Admitted.snoc {i : Nat} {req : Request} (h : Admitted server es i req) (e : Event) :
    Admitted server (es ++ [e]) i req := by
  obtain ⟨pre, post, rfl, hindex, hattested⟩ := h
  exact ⟨pre, post ++ [e], by simp, hindex, hattested⟩

/-- Arrivals are counted one by one. -/
theorem arrivals_snoc (e : Event) : arrivals (es ++ [e]) = arrivals es + if e.arrives then 1 else 0 := by
  rw [arrivals, arrivals, List.countP_append, List.countP_singleton]

variable (server)

/-- What holds of the console behind a run. -/
structure Gated (es : List Event) (s : State) : Prop where
  safeTee : s.safeTee = true ↔ Attested server es
  /-- a request's number says how many came in before it -/
  numbered : s.requests.length = arrivals es
  requests : ∀ (i : Nat) req, s.requests[i]? = some (some req) → Admitted server es i req
  routed : Routed s
  calls : ∀ p ∈ s.calls, Admitted server es p.index p.req ∧ Serves s.bufferedTaMap p.req.method p.req.path ∧
    p.call.ReadFrom p.req.path
  /-- a request that has made a call is answered -/
  answered : ∀ p ∈ s.calls, s.requests[p.index]? = some none
  once : (s.calls.map (·.index)).Nodup

variable {server}

/-- The invariant holds at the start, -/
theorem gated_start (taFiles : AList fun _ : String => String) : Gated server [] (.start taFiles) where
  safeTee := iff_of_false nofun fun ⟨pre, r, post, h, _⟩ => by simp at h
  numbered := rfl
  requests := nofun
  routed := nofun
  calls := nofun
  answered := nofun
  once := .nil

/-- An event at which no request comes in and none is answered. -/
theorem Gated.keep {s s' : State} {e : Event} (h : Gated server es s) (he : e.arrives = false)
    (hsafeTee : s'.safeTee = true ↔ Attested server (es ++ [e])) (hrequests : s'.requests = s.requests)
    (hmap : s'.bufferedTaMap = s.bufferedTaMap) (hroutes : s'.routes = s.routes) (hcalls : s'.calls = s.calls) :
    Gated server (es ++ [e]) s' where
  safeTee := hsafeTee
  numbered := by rw [hrequests, h.numbered, arrivals_snoc, he]; rfl
  requests := fun i req hi => (h.requests i req (hrequests ▸ hi)).snoc e
  routed := by rw [Routed, hroutes, hmap]; exact h.routed
  calls := by
    rw [hcalls, hmap]
    exact fun p hp => ⟨(h.calls p hp).1.snoc e, (h.calls p hp).2⟩
  answered := by rw [hcalls, hrequests]; exact h.answered
  once := by rw [hcalls]; exact h.once

/-- A request comes in. -/
theorem Gated.arrive {s : State} (h : Gated server es s) (req : Request) :
    Gated server (es ++ [.arrive req])
      { s with requests := s.requests ++ [if s.letsIn req then some req else none] } := by
  have hquiet : (Event.arrive req).Quiet := trivial
  refine ⟨h.safeTee.trans (attested_quiet hquiet).symm, ?_, fun i req' hi => ?_, h.routed,
    fun p hp => ⟨(h.calls p hp).1.snoc _, (h.calls p hp).2⟩, fun p hp => ?_, h.once⟩
  · rw [List.length_append, h.numbered, arrivals_snoc]
    rfl
  · rcases Tables.getElem?_append_cases hi with ⟨rfl, hreq⟩ | hold
    · -- the new request: its number is the count of those before it
      split at hreq
      · rename_i hin
        obtain rfl := Option.some.inj hreq
        refine ⟨es, [], rfl, h.numbered.symm, fun hprefix => h.safeTee.mp ?_⟩
        rcases of_decide_eq_true hin with hfree | hsafe
        · exact absurd hprefix hfree
        · exact hsafe
      · cases hreq
    · exact (h.requests i req' hold).snoc _
  · have hlt := (List.getElem?_eq_some_iff.mp (h.answered p hp)).1
    exact (List.getElem?_append_left hlt).trans (h.answered p hp)

/-- A request is answered. -/
theorem Gated.answer {s : State} (h : Gated server es s) {i : Nat} {req : Request} (out : Outside)
    (hi : s.requests[i]? = some (some req)) :
    Gated server (es ++ [.answer i out]) { s.handle i req out with requests := s.requests.set i none } := by
  have hlt := (List.getElem?_eq_some_iff.mp hi).1
  have hadmitted := h.requests i req hi
  have hhandles := handles_handle s i req out
  have hquiet : (Event.answer i out).Quiet := trivial
  have hkept : ∀ q ∈ s.calls, Admitted server (es ++ [.answer i out]) q.index q.req ∧
      Serves (s.handle i req out).bufferedTaMap q.req.method q.req.path ∧ q.call.ReadFrom q.req.path :=
    fun q hq => ⟨(h.calls q hq).1.snoc _, (h.calls q hq).2.1.mono hhandles.kept, (h.calls q hq).2.2⟩
  -- the request that is answered now has made no call before
  have hother : ∀ q ∈ s.calls, q.index ≠ i := by
    rintro q hq rfl
    rw [h.answered q hq] at hi
    cases hi
  have hanswered : ∀ q ∈ s.calls, (s.requests.set i none)[q.index]? = some none :=
    fun q hq => (List.getElem?_set_ne (hother q hq).symm).trans (h.answered q hq)
  refine ⟨?_, ?_, fun j req' hj => ?_, hhandles.routed h.routed, fun p hp => ?_, fun p hp => ?_, ?_⟩
  · exact (iff_of_eq (congrArg (· = true) hhandles.safeTee)).trans (h.safeTee.trans (attested_quiet hquiet).symm)
  · rw [List.length_set, h.numbered, arrivals_snoc]
    rfl
  · by_cases hij : i = j
    · subst hij
      rw [List.getElem?_set_self hlt] at hj
      cases hj
    · rw [List.getElem?_set_ne hij] at hj
      exact (h.requests j req' hj).snoc _
  · have hp : p ∈ (s.handle i req out).calls := hp
    rcases hhandles.calls with hsame | ⟨call, hnew, hroute, hread⟩
    · rw [hsame] at hp
      exact hkept p hp
    · rw [hnew] at hp
      rcases List.mem_cons.mp hp with rfl | hp
      · exact ⟨hadmitted.snoc _, (h.routed _ hroute).mono hhandles.kept, hread⟩
      · exact hkept p hp
  · have hp : p ∈ (s.handle i req out).calls := hp
    rcases hhandles.calls with hsame | ⟨call, hnew, -⟩
    · rw [hsame] at hp
      exact hanswered p hp
    · rw [hnew] at hp
      rcases List.mem_cons.mp hp with rfl | hp
      · exact List.getElem?_set_self hlt
      · exact hanswered p hp
  · show ((s.handle i req out).calls.map (·.index)).Nodup
    rcases hhandles.calls with hsame | ⟨call, hnew, -⟩
    · rw [hsame]
      exact h.once
    · rw [hnew, List.map_cons, List.nodup_cons]
      refine ⟨fun hmem => ?_, h.once⟩
      obtain ⟨q, hq, hindex⟩ := List.mem_map.mp hmem
      exact hother q hq hindex

/-- is kept by each event, -/
theorem gated_step {s s' : State} {e : Event} (h : Gated server es s) (hstep : step server s e = some s') :
    Gated server (es ++ [e]) s' := by
  cases e with
  | round r =>
    cases hstep
    refine h.keep rfl ?_ rfl rfl rfl rfl
    rw [attested_round, ← knockDHP_err, Option.isNone_iff_eq_none]
  | restart =>
    cases hstep
    exact h.keep rfl (iff_of_false nofun not_attested_restart) rfl rfl rfl rfl
  | arrive req =>
    cases hstep
    exact h.arrive req
  | answer i out =>
    rw [step] at hstep
    split at hstep
    · rename_i req hi
      cases hstep
      exact h.answer out hi
    · cases hstep

/-- and so holds of a run. -/
theorem gated_run {taFiles : AList fun _ : String => String} {s : State}
    (h : Runs.run (step server) (.start taFiles) es = some s) : Gated server es s := by
  induction es using List.reverseRecOn generalizing s with
  | nil =>
    cases h
    exact gated_start taFiles
  | append_singleton es e ih =>
    rw [Runs.run_append, Option.bind_eq_some_iff] at h
    obtain ⟨u, hu, hlast⟩ := h
    obtain ⟨v, hv, hend⟩ := Runs.run_cons.mp hlast
    cases hend
    exact gated_step (ih hu) hv

end Gate

/-- **Calls of applications are attested.**  In every run, each call of a function is made by a request of its
    own, which came in, as the one of its number, while the last round was one whose evidence the server appraised,
    on the path of a function of an application that is registered; and it calls that function of that application
    exactly when neither of their names holds a separator. -/
theorem calls_attested (server : KnockServer) (taFiles : AList fun _ : String => String) (es : List Event)
    (s : State) (h : Runs.run (step server) (.start taFiles) es = some s) :
    (s.calls.map (·.index)).Nodup ∧ ∀ p ∈ s.calls,
      (∃ pre post, es = pre ++ .arrive p.req :: post ∧ arrivals pre = p.index ∧ Attested server pre) ∧
      ∃ id tools tool, s.bufferedTaMap.lookup id = some tools ∧ tool ∈ tools ∧ p.req.path = routeName id tool ∧
        (p.call.taId = id ∧ p.call.function = tool ↔ '/' ∉ id.toList ∧ '/' ∉ tool.toList) := by
  refine ⟨(gated_run h).once, fun p hp => ?_⟩
  obtain ⟨⟨pre, post, hes, hindex, hattested⟩, ⟨id, tools, tool, hlookup, htool, -, hpath⟩, hread⟩ :=
    (gated_run h).calls p hp
  have hprefix : taApiPrefix.toList <+: p.req.path.toList := by
    rw [hpath, routeName, String.append_assoc, String.append_assoc, String.toList_append]
    exact List.prefix_append _ _
  rw [hpath] at hread
  exact ⟨⟨pre, post, hes, hindex, hattested hprefix⟩, id, tools, tool, hlookup, htool, hpath,
    readFrom_routeName hread⟩

/-! ### An application that is registered and called -/

/-- A server that appraises one evidence. -/
def appraisingServer : KnockServer where
  authServiceMap _ := false
  pluginHandlerMap _ := none
  appraiseEvidence evidence := evidence = "good"

/-- A round with it. -/
def appraisedRound : Round := ⟨true, some "good", true, .handled ⟨"10.0.0.1", 0, ""⟩ "10.0.0.1:4000"⟩

/-- An application with a function `sum`. -/
def registerRequest : Request :=
  ⟨"POST", "/api/v1/ta/register", .form ⟨"sums", "adds up", "python", "main", some ("app", "0f")⟩⟩

/-- A call of it. -/
def callRequest : Request := ⟨"POST", "/api/v1/ta/5e/sum", .json (some (some "object"))⟩

/-- The same call is asked for before the round that is appraised, and twice behind it. -/
def sampleRun : List Event :=
  let out : Outside := ⟨"5e", fun _ _ => some ["sum"]⟩
  [.arrive callRequest, .round appraisedRound, .arrive registerRequest, .answer 1 out, .arrive callRequest,
    .arrive callRequest, .answer 3 out, .answer 2 out]

/-- Two calls, both attested. -/
theorem calls_attested_sample : ∃ s, Runs.run (step appraisingServer) (.start ∅) sampleRun = some s ∧
    s.calls.map (·.index) = [2, 3] ∧ ∀ p ∈ s.calls, ∃ pre post, sampleRun = pre ++ .arrive p.req :: post ∧
      arrivals pre = p.index ∧ Attested appraisingServer pre := by
  have hrun : Runs.run (step appraisingServer) (.start ∅) sampleRun = some _ := rfl
  exact ⟨_, hrun, by decide, fun p hp => ((calls_attested appraisingServer ∅ sampleRun _ hrun).2 p hp).1⟩

end OpenNHP.Agent.WebConsole
