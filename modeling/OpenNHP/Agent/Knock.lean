/-
  Knocking: `Knock`, `knockRequest` and `ExitKnockRequest` of `endpoints/agent/knock.go`, and what comes of it at
  the server and at the access controllers.

  THE PROGRAM.  A knock is sent and its answer awaited.  One that is answered with a cookie is sent once more, as
  another type of message (`NHP_RKN`).

  THE SPECIFICATION.
  1. It returns without an error exactly when the server answered one of the two and granted some resource
     (`knock_granted`).
  2. Where the access controllers install ipset rules for the address that knocked, the acknowledgement names the
     resources whose rules are all there, and these are the ones called for (`knock_installs`).

  THE CRUX.  Three programs are put together.  What becomes of a message on the network is a `Transit`; what the
  server then answers is `handleKnockRequest`, whose acknowledgement is true of what was opened
  (`OpenNHP.Server.KnockRequests`); what an access controller did is read off its rules
  (`OpenNHP.AC.AccessControl`).  The glue are the two conversions: what the agent makes of an answer (`Returned`),
  and what the server makes of one of an access controller (`open_of_opens`).

  Without a server `knockRequest` returns no acknowledgement, and `Knock` panics on it.  A code that the agent
  does not know becomes a nil `*Error`, which is an error.
-/
import OpenNHP.Server.KnockRequests
import OpenNHP.AC.ExactRules
import OpenNHP.AC.TruthfulAnswer

namespace OpenNHP.Agent.Knock

open Core AC Server Server.OpenPaths Server.KnockRequests

/-- `ServerKnockAckMsg`. -/
abbrev Ack := OpenPaths.ServerKnockAckMsg

/-! ## Requests -/

/-- What the agent returns beside an acknowledgement. -/
inductive KnockError
  /-- an `*Error`, which may be nil -/
  | app (e : Option AppError)
  | other (text : String)
  deriving DecidableEq

/-- What comes back for a knock.  A body that cannot be read may have been read in part; the body of the JSON
    `null` has no message. -/
inductive Reply
  | failed (text : String)
  | packet (headerType : HeaderType) (body : Except (String × Ack) (Option Ack))

/-- What a request meets: whether its target has a server with an address, whether the agent is running, and what
    comes back if both hold. -/
structure Attempt where
  serverAssigned : Bool
  running : Bool
  reply : Reply

/-- An acknowledgement of the agent's own, with the error. -/
def fail (e : AppError) : Option Ack × Option KnockError := (some (refuse {} e), some (.app (some e)))

/-- What `knockRequest` returns for what comes back; it differs from `ExitKnockRequest` in the code for a
    transaction that failed. -/
def received (failure : AppError) : Reply → Option Ack × Option KnockError
  | .failed text => (some { errCode := failure.errorCode, errMsg := text }, some (.other text))
  | .packet headerType body =>
    if headerType = .cok then fail .knockTerminatedByCookie
    else if headerType ≠ .ack then fail .transactionRepliedWithWrongType
    else
      match body with
      | .error (text, ackMsg) =>
        (some { ackMsg with errCode := AppError.jsonParseFailed.errorCode, errMsg := text }, some (.other text))
      | .ok body =>
        let ackMsg := body.getD {}
        if ackMsg.errCode ≠ AppError.success.errorCode then
          (some ackMsg, some (.app (errorCodeToError ackMsg.errCode)))
        else (some ackMsg, none)

/-- `knockRequest` and `ExitKnockRequest`. -/
def request (failure : AppError) (m : Attempt) : Option Ack × Option KnockError :=
  if m.serverAssigned = false then (none, some (.app (some .knockServerNotFound)))
  else if m.running = false then fail .packetToMessageRoutineStopped
  else received failure m.reply

/-- `knockRequest`, with what a message of each type meets. -/
def knockRequest (useCookie : Bool) (attempt : HeaderType → Attempt) : Option Ack × Option KnockError :=
  request .packetEncryptionFailed (attempt (if useCookie then .rkn else .knk))

/-- `ExitKnockRequest`: one message, and its answer. -/
def exitKnockRequest (attempt : HeaderType → Attempt) : Option Ack × Option KnockError :=
  request .transactionFailedByTimeout (attempt .ext)

/-- `Knock`, up to what it sends to the access controllers behind a success; `none` for a panic. -/
def knock (attempt : HeaderType → Attempt) : Option (Ack × Option KnockError) :=
  let first := knockRequest false attempt
  let last :=
    if first.2 = some (.app (some .knockTerminatedByCookie)) then knockRequest true attempt else first
  -- the code is read before the error is
  last.1.map fun ackMsg => (ackMsg, last.2)

section Twice

variable {attempt : HeaderType → Attempt}

/-- The first message decides unless it ends with a cookie. -/
theorem knock_first (h : (request .packetEncryptionFailed (attempt .knk)).2 ≠
    some (.app (some .knockTerminatedByCookie))) :
    knock attempt = (request .packetEncryptionFailed (attempt .knk)).1.map fun ackMsg =>
      (ackMsg, (request .packetEncryptionFailed (attempt .knk)).2) := by
  have h : ¬ (knockRequest false attempt).2 = some (.app (some .knockTerminatedByCookie)) := h
  rw [knock, if_neg h]
  rfl

/-- After a cookie the answer is that of the second message. -/
theorem knock_second (h : (request .packetEncryptionFailed (attempt .knk)).2 =
    some (.app (some .knockTerminatedByCookie))) :
    knock attempt = (request .packetEncryptionFailed (attempt .rkn)).1.map fun ackMsg =>
      (ackMsg, (request .packetEncryptionFailed (attempt .rkn)).2) := by
  have h : (knockRequest false attempt).2 = some (.app (some .knockTerminatedByCookie)) := h
  rw [knock, if_pos h]
  rfl

end Twice

/-! ## The way to the server and back -/

/-- The agent and a target, as its messages are filled in. -/
structure KnockAgent where
  userId : String
  deviceId : String
  organizationId : String
  authServiceId : String
  resourceId : String
  serverAssigned : Bool
  running : Bool

/-- `knkMsg`; the type is for the server to fill in. -/
def KnockAgent.knkMsg (a : KnockAgent) : AgentKnockMsg where
  headerType := .kpl
  userId := a.userId
  deviceId := a.deviceId
  organizationId := a.organizationId
  authServiceId := a.authServiceId
  resourceId := a.resourceId

/-- The body that the server reads of it. -/
def bodyOf (a : KnockAgent) : KnockBody := ⟨.ok a.knkMsg, .error ""⟩

/-- What becomes of a message on its way: it fails, is answered with a cookie, or is handled as one of an
    address. -/
inductive Transit
  | failed (text : String)
  | cookie
  | handled (remoteAddr : NetAddress) (addrStr : String)

section Transits

variable (s : KnockServer) (a : KnockAgent)

/-- What comes back for a message, if the network does this with it. -/
def answer (headerType : HeaderType) : Transit → Reply
  | .failed text => .failed text
  | .cookie => .packet .cok (.ok none)
  | .handled remoteAddr addrStr =>
    match s.handleKnockRequest headerType (bodyOf a) remoteAddr addrStr with
    | .knock ackMsg => .packet .ack (.ok ackMsg)
    | .dhp errCode openTime => .packet .ack (.ok (some { errCode, openTime }))

/-- An attempt of this agent at this server. -/
def attempt (transit : HeaderType → Transit) (headerType : HeaderType) : Attempt where
  serverAssigned := a.serverAssigned
  running := a.running
  reply := answer s a headerType (transit headerType)

end Transits

/-- The message of a type is the one of a knock that the server handles, as that of an address. -/
def Handled (transit : HeaderType → Transit) (headerType : HeaderType) (remoteAddr : NetAddress)
    (addrStr : String) : Prop :=
  transit headerType = .handled remoteAddr addrStr ∧
    (headerType = .knk ∨ headerType = .rkn ∧ transit .knk = .cookie)

/-! ## What a knock returns -/

section Returns

variable {s : KnockServer} {ac : AcServer} {resources : String → Option (String → Option PluginResource)}
  {a : KnockAgent} {transit : HeaderType → Transit}

/-- What the agent returns for an acknowledgement of the server: it is an error unless it is a success, and it
    never asks for a cookie. -/
structure Returned (granted : String → ResourceInfo → ACOpsResultMsg → Prop) (addrStr : String)
    (ack : Ack) (err : Option KnockError) : Prop where
  agentAddr : ack.agentAddr = addrStr
  tells : Tells granted ack
  err_none : err = none ↔ ∃ name info artMsg, granted name info artMsg
  no_cookie : err ≠ some (.app (some .knockTerminatedByCookie))

/-- With a server and a running device the reply counts. -/
theorem request_sent {failure : AppError} {m : Attempt} (hassigned : m.serverAssigned = true)
    (hrunning : m.running = true) : request failure m = received failure m.reply := by
  rw [request, if_neg (by rw [hassigned]; nofun), if_neg (by rw [hrunning]; nofun)]

/-- A message that is handled comes back with an acknowledgement, and the error in it. -/
theorem request_handled (hs : RunsExamples ac s resources) (failure : AppError) {headerType : HeaderType}
    {remoteAddr : NetAddress} {addrStr : String} (hknk : headerType ≠ .dhpKnk)
    (hassigned : a.serverAssigned = true) (hrunning : a.running = true)
    (htransit : transit headerType = .handled remoteAddr addrStr) :
    ∃ ack err, request failure (attempt s a transit headerType) = (some ack, err) ∧
      Returned (Grants s ac resources headerType (bodyOf a) remoteAddr) addrStr
        ack err := by
  obtain ⟨ack, hanswer, haddr, htells⟩ := tells_handleKnockRequest s ac resources headerType
    (bodyOf a) remoteAddr addrStr hs hknk
  obtain ⟨e, hfound, hcookie⟩ := htells.known
  have hreply : answer s a headerType (transit headerType) =
      .packet .ack (.ok (some ack)) := by
    rw [htransit]
    show (match s.handleKnockRequest headerType (bodyOf a) remoteAddr addrStr with
      | .knock ackMsg => Reply.packet .ack (.ok ackMsg)
      | .dhp errCode openTime => .packet .ack (.ok (some { errCode, openTime }))) = _
    rw [hanswer]
  have hack : HeaderType.ack ≠ .cok := by decide
  rw [request_sent hassigned hrunning]
  show ∃ ack err, received failure (answer s a headerType (transit headerType)) = _ ∧ _
  rw [hreply, received, if_neg hack, if_neg (not_not.mpr rfl)]
  dsimp only [Option.getD_some]
  by_cases hcode : ack.errCode = AppError.success.errorCode
  · rw [if_neg (not_not.mpr hcode)]
    exact ⟨ack, none, rfl, haddr, htells, iff_of_true rfl (htells.code.mp hcode), nofun⟩
  · rw [if_pos hcode, hfound]
    refine ⟨ack, _, rfl, haddr, htells, iff_of_false nofun (mt htells.code.mpr hcode), fun h => hcookie ?_⟩
    injection h with h
    injection h with h
    exact Option.some.inj h

/-- A cookie has the agent knock once more, where the first message reached the server at all. -/
theorem request_cookie (failure : AppError) {headerType : HeaderType} (hassigned : a.serverAssigned = true)
    (hrunning : a.running = true) (htransit : transit headerType = .cookie) :
    (request failure (attempt s a transit headerType)).2 =
      some (.app (some .knockTerminatedByCookie)) := by
  rw [request_sent hassigned hrunning]
  show (received failure (answer s a headerType (transit headerType))).2 = _
  rw [htransit]
  rfl

/-- Without an answer of the server there is an error. -/
theorem request_unhandled (failure : AppError) {headerType : HeaderType}
    (htransit : ∀ remoteAddr addrStr, transit headerType ≠ .handled remoteAddr addrStr) :
    (request failure (attempt s a transit headerType)).2 ≠ none := by
  rw [request]
  split_ifs
  · nofun
  · nofun
  · show (received failure (answer s a headerType (transit headerType))).2 ≠ none
    cases h : transit headerType with
    | failed text => nofun
    | cookie => nofun
    | handled remoteAddr addrStr => exact absurd h (htransit remoteAddr addrStr)

/-- So does a knock of which one message is. -/
theorem knock_handled (hs : RunsExamples ac s resources) {headerType : HeaderType} {remoteAddr : NetAddress}
    {addrStr : String} (hassigned : a.serverAssigned = true) (hrunning : a.running = true)
    (h : Handled transit headerType remoteAddr addrStr) :
    ∃ ack err, knock (attempt s a transit) = some (ack, err) ∧
      Returned (Grants s ac resources headerType (bodyOf a) remoteAddr) addrStr
        ack err := by
  obtain ⟨htransit, rfl | ⟨rfl, hcookie⟩⟩ := h
  · obtain ⟨ack, err, hrequest, hreturned⟩ :=
      request_handled hs .packetEncryptionFailed (by decide) hassigned hrunning htransit
    refine ⟨ack, err, ?_, hreturned⟩
    rw [knock_first (by rw [hrequest]; exact hreturned.no_cookie), hrequest]
    rfl
  · obtain ⟨ack, err, hrequest, hreturned⟩ :=
      request_handled hs .packetEncryptionFailed (by decide) hassigned hrunning htransit
    refine ⟨ack, err, ?_, hreturned⟩
    rw [knock_second (request_cookie .packetEncryptionFailed hassigned hrunning hcookie), hrequest]
    rfl

/-- Who gets no error sent one of the two messages, and got that answered. -/
theorem of_knock {attempt : HeaderType → Attempt} {ack : Ack} (h : knock attempt = some (ack, none)) :
    ∃ headerType, request .packetEncryptionFailed (attempt headerType) = (some ack, none) ∧
      (headerType = .knk ∨ headerType = .rkn ∧
        (request .packetEncryptionFailed (attempt .knk)).2 = some (.app (some .knockTerminatedByCookie))) := by
  by_cases hcookie : (request .packetEncryptionFailed (attempt .knk)).2 =
      some (.app (some .knockTerminatedByCookie))
  · rw [knock_second hcookie] at h
    obtain ⟨ack', hack, heq⟩ := Option.map_eq_some_iff.mp h
    obtain ⟨rfl, herr⟩ := Prod.mk.inj heq
    exact ⟨.rkn, Prod.ext hack herr, .inr ⟨rfl, hcookie⟩⟩
  · rw [knock_first hcookie] at h
    obtain ⟨ack', hack, heq⟩ := Option.map_eq_some_iff.mp h
    obtain ⟨rfl, herr⟩ := Prod.mk.inj heq
    exact ⟨.knk, Prod.ext hack herr, .inl rfl⟩

/-- Without an error the message was sent, -/
theorem request_of_none {failure : AppError} {m : Attempt} (h : (request failure m).2 = none) :
    m.serverAssigned = true ∧ m.running = true := by
  rw [request] at h
  split at h
  · cases h
  · rename_i hassigned
    split at h
    · cases h
    · rename_i hrunning
      exact ⟨Bool.of_not_eq_false hassigned, Bool.of_not_eq_false hrunning⟩

/-- What returned no error was handled by the server. -/
theorem handled_of_request {failure : AppError} {headerType : HeaderType}
    (h : (request failure (attempt s a transit headerType)).2 = none) :
    ∃ remoteAddr addrStr, transit headerType = .handled remoteAddr addrStr := by
  by_contra hnone
  exact request_unhandled failure (fun remoteAddr addrStr hh => hnone ⟨remoteAddr, addrStr, hh⟩) h

/-- A request that ends with the error of a cookie was answered with one. -/
theorem cookie_of_request (hs : RunsExamples ac s resources) {failure : AppError} {headerType : HeaderType}
    (hknk : headerType ≠ .dhpKnk) (hassigned : a.serverAssigned = true) (hrunning : a.running = true)
    (h : (request failure (attempt s a transit headerType)).2 =
      some (.app (some .knockTerminatedByCookie))) : transit headerType = .cookie := by
  cases htransit : transit headerType with
  | cookie => rfl
  | failed text =>
    rw [request_sent hassigned hrunning] at h
    have h : (received failure (answer s a headerType (transit headerType))).2 = _ := h
    rw [htransit] at h
    injection h with h
    cases h
  | handled remoteAddr addrStr =>
    obtain ⟨ack, err, hrequest, hreturned⟩ := request_handled hs failure hknk hassigned hrunning htransit
    rw [hrequest] at h
    exact absurd h hreturned.no_cookie

/-- and handled. -/
theorem handled_of_knock (hs : RunsExamples ac s resources) {ack : Ack}
    (h : knock (attempt s a transit) = some (ack, none)) :
    a.serverAssigned = true ∧ a.running = true ∧ ∃ headerType remoteAddr addrStr,
      Handled transit headerType remoteAddr addrStr := by
  obtain ⟨headerType, hrequest, htype⟩ := of_knock h
  have hnone := congrArg Prod.snd hrequest
  obtain ⟨hassigned, hrunning⟩ := request_of_none hnone
  obtain ⟨remoteAddr, addrStr, htransit⟩ := handled_of_request hnone
  refine ⟨hassigned, hrunning, headerType, remoteAddr, addrStr, htransit, ?_⟩
  rcases htype with rfl | ⟨rfl, hcookie⟩
  · exact .inl rfl
  · exact .inr ⟨rfl, cookie_of_request hs (by decide) hassigned hrunning hcookie⟩

/-- `ExitKnockRequest` sends one message and takes a cookie for an error: it returns none exactly when the server
    handled that message and had some resource of the group opened, for the second that an exit is given. -/
theorem exitKnockRequest_err (hs : RunsExamples ac s resources) :
    (exitKnockRequest (attempt s a transit)).2 = none ↔ a.serverAssigned = true ∧ a.running = true ∧
      ∃ remoteAddr addrStr, transit .ext = .handled remoteAddr addrStr ∧
        ∃ name info artMsg, Grants s ac resources .ext (bodyOf a) remoteAddr name info artMsg := by
  constructor
  · intro hnone
    obtain ⟨hassigned, hrunning⟩ := request_of_none hnone
    obtain ⟨remoteAddr, addrStr, htransit⟩ := handled_of_request hnone
    obtain ⟨ack, err, hrequest, hreturned⟩ :=
      request_handled hs .transactionFailedByTimeout (by decide) hassigned hrunning htransit
    rw [exitKnockRequest, hrequest] at hnone
    exact ⟨hassigned, hrunning, remoteAddr, addrStr, htransit, hreturned.err_none.mp hnone⟩
  · rintro ⟨hassigned, hrunning, remoteAddr, addrStr, htransit, hgranted⟩
    obtain ⟨ack, err, hrequest, hreturned⟩ :=
      request_handled hs .transactionFailedByTimeout (by decide) hassigned hrunning htransit
    rw [exitKnockRequest, hrequest]
    exact hreturned.err_none.mpr hgranted

/-- A reply always comes with an acknowledgement, be it an empty one. -/
theorem received_fst (failure : AppError) (reply : Reply) : ∃ ack, (received failure reply).1 = some ack := by
  unfold received
  cases reply with
  | failed text => exact ⟨_, rfl⟩
  | packet headerType body =>
    dsimp only
    split_ifs
    · exact ⟨_, rfl⟩
    · exact ⟨_, rfl⟩
    · cases body with
      | error e => exact ⟨_, rfl⟩
      | ok body =>
        dsimp only
        split_ifs
        · exact ⟨_, rfl⟩
        · exact ⟨_, rfl⟩

/-- Only without a server there is none. -/
theorem request_fst (failure : AppError) (m : Attempt) :
    (request failure m).1 = none ↔ m.serverAssigned = false := by
  rw [request]
  split
  · rename_i hassigned
    exact iff_of_true rfl hassigned
  · rename_i hassigned
    refine iff_of_false ?_ hassigned
    split
    · nofun
    · obtain ⟨ack, hack⟩ := received_fst failure m.reply
      rw [hack]
      nofun

/-- Only a target without a server makes the agent panic. -/
theorem knock_eq_none : knock (attempt s a transit) = none ↔ a.serverAssigned = false := by
  by_cases hcookie : (request .packetEncryptionFailed (attempt s a transit .knk)).2 =
      some (.app (some .knockTerminatedByCookie))
  · rw [knock_second hcookie, Option.map_eq_none_iff]
    exact request_fst _ _
  · rw [knock_first hcookie, Option.map_eq_none_iff]
    exact request_fst _ _

end Returns

/-! ## A knock from end to end -/

/-- **A knock succeeds exactly when the server handled it and granted something.**  The agent panics without a
    server; it gets no error exactly when one of its two messages, the second behind a cookie, was handled by the
    server and had a resource opened; and then its acknowledgement tells what was opened. -/
theorem knock_granted (s : KnockServer) (ac : AcServer)
    (resources : String → Option (String → Option PluginResource)) (a : KnockAgent)
    (transit : HeaderType → Transit) (hs : RunsExamples ac s resources) :
    (knock (attempt s a transit) = none ↔ a.serverAssigned = false) ∧
      (∀ ack, knock (attempt s a transit) = some (ack, none) →
        ∃ headerType remoteAddr addrStr, Handled transit headerType remoteAddr addrStr ∧
          ack.agentAddr = addrStr ∧
          Tells (Grants s ac resources headerType (bodyOf a) remoteAddr) ack) ∧
      ((∃ ack, knock (attempt s a transit) = some (ack, none)) ↔
        a.serverAssigned = true ∧ a.running = true ∧ ∃ headerType remoteAddr addrStr,
          Handled transit headerType remoteAddr addrStr ∧ ∃ name info artMsg,
            Grants s ac resources headerType (bodyOf a) remoteAddr name info artMsg) := by
  refine ⟨knock_eq_none, ?_, ?_, ?_⟩
  · intro ack h
    obtain ⟨hassigned, hrunning, headerType, remoteAddr, addrStr, hhandled⟩ := handled_of_knock hs h
    obtain ⟨ack', err, hknock, hreturned⟩ := knock_handled hs hassigned hrunning hhandled
    rw [hknock] at h
    cases h
    exact ⟨headerType, remoteAddr, addrStr, hhandled, hreturned.agentAddr, hreturned.tells⟩
  · rintro ⟨ack, h⟩
    obtain ⟨hassigned, hrunning, headerType, remoteAddr, addrStr, hhandled⟩ := handled_of_knock hs h
    obtain ⟨ack', err, hknock, hreturned⟩ := knock_handled hs hassigned hrunning hhandled
    rw [hknock] at h
    cases h
    exact ⟨hassigned, hrunning, headerType, remoteAddr, addrStr, hhandled, hreturned.err_none.mp rfl⟩
  · rintro ⟨hassigned, hrunning, headerType, remoteAddr, addrStr, hhandled, hgranted⟩
    obtain ⟨ack, err, hknock, hreturned⟩ := knock_handled hs hassigned hrunning hhandled
    obtain rfl := hreturned.err_none.mpr hgranted
    exact ⟨ack, hknock⟩

/-! ## The rules behind an acknowledgement -/

/-- A server with its access controllers, and the transactions with them that fail. -/
structure Site where
  srcIpAssociatedAddrs : String → List NetAddress
  running : Bool
  connected : String → Bool
  acs : String → UdpAC
  lost : String → ServerACOpsMsg → Option String

namespace Site

variable (site : Site)

/-- The access controllers as the server meets them: what they answer, unless it is lost. -/
def server : AcServer where
  srcIpAssociatedAddrs := site.srcIpAssociatedAddrs
  running := site.running
  connected := site.connected
  ask acId m :=
    match site.lost acId m with
    | some text => .failed text
    | none => .art (handleUdpACOperations (site.acs acId) m).artMsg

/-- Every access controller installs ipset rules for who knocked. -/
def UsesIPSets : Prop :=
  ∀ acId, (site.acs acId).config.filterMode = filterModeIPTables ∧ (site.acs acId).config.ipPassMode = passKnockIP

/-- The message for a resource of a knock. -/
def message (knkMsg : AgentKnockMsg) (remoteAddr : NetAddress) (openTime : UInt32) (info : ResourceInfo) :
    ServerACOpsMsg :=
  aopMessage site.server knkMsg remoteAddr [info.addr] openTime

end Site

section Rules

variable {site : Site}

/-- With one destination the ping loop adds nothing that is not called for. -/
theorem addedForPair_singleton (openTimeSec : Int) (src dst : NetAddress) :
    addedForPair openTimeSec [dst] src dst = calledFor openTimeSec src dst := rfl

/-- The default address takes the place of a missing one. -/
theorem withDefaultIp_singleton (config : Config) (dst : NetAddress) :
    ∃ dst', withDefaultIp config [dst] = [dst'] := by
  unfold withDefaultIp
  split_ifs
  · exact ⟨_, rfl⟩
  · exact ⟨_, rfl⟩

/-- An access controller that answers with success has installed what the one destination calls for. -/
theorem ops_of_success {a : UdpAC} (hfilter : a.config.filterMode = filterModeIPTables)
    (hpass : a.config.ipPassMode = passKnockIP) {m : ServerACOpsMsg} {src dst : NetAddress}
    {srcs : List NetAddress} (hsrcs : m.sourceAddrs = src :: srcs) (hdsts : m.destinationAddrs = [dst])
    (hcode : (handleUdpACOperations a m).artMsg.errCode = "0") :
    (handleUdpACOperations a m).ops = m.sourceAddrs.flatMap fun src =>
      (withDefaultIp a.config m.destinationAddrs).flatMap (calledFor m.openTimeSec src) := by
  obtain ⟨dst', hdst⟩ := withDefaultIp_singleton a.config dst
  rw [← hdsts] at hdst
  have hcode : (handleAccessControl a m.sourceAddrs m.destinationAddrs m.openTimeSec {}).artMsg.errCode = "0" :=
    hcode
  show (handleAccessControl a m.sourceAddrs m.destinationAddrs m.openTimeSec {}).ops = _
  rw [handle_eq hsrcs hdst] at hcode ⊢
  obtain ⟨hipset, s', hnext, -, hfinal⟩ := carryOut_success (underway_start a) hcode
  have hrange : a.config.ipPassMode ≠ passKnockIPWithRange := by rw [hpass]; decide
  have hpre : a.config.ipPassMode ≠ passPreAccessIP := by rw [hpass]; decide
  rw [installRules, if_neg hpre] at hnext
  have hops := emits_passKnock hfilter hrange (src :: srcs) [dst'] _ _ hnext
  rw [hfinal, hsrcs, hdst]
  show s'.ops = _
  rw [hops]
  simp only [List.flatMap_singleton, addedForPair_singleton]
  rfl

/-- A resource that was granted is open, and its token is the one of its access controller. -/
structure Open (site : Site) (knkMsg : AgentKnockMsg) (remoteAddr : NetAddress) (openTime : UInt32)
    (info : ResourceInfo) (token : String) : Prop where
  connected : site.connected info.acId = true
  token : token = (site.acs info.acId).accessToken
  ops : (handleUdpACOperations (site.acs info.acId) (site.message knkMsg remoteAddr openTime info)).ops =
    (remoteAddr :: site.srcIpAssociatedAddrs remoteAddr.ip).flatMap fun src =>
      (withDefaultIp (site.acs info.acId).config [info.addr]).flatMap
        (calledFor (((if openTime = 0 then defaultIpOpenTime else openTime) + acOpenCompensationTime).toNat : Int)
          src)

/-- What the server was told to have been opened is open. -/
theorem open_of_opens {knkMsg : AgentKnockMsg} {remoteAddr : NetAddress} {res : OpenPaths.ResourceData}
    {name : String} {info : ResourceInfo} {artMsg : ACOpsResultMsg} (hsets : site.UsesIPSets)
    (hext : knkMsg.headerType ≠ .ext) (hinfo : res.resources.lookup name = some info)
    (h : Opens (acOutcome site.server knkMsg remoteAddr res name) artMsg) :
    Open site knkMsg remoteAddr res.openTime info artMsg.acToken := by
  have hgranted : grantedOpenTime knkMsg ⟨res.openTime, []⟩ = res.openTime := if_neg hext
  obtain ⟨hconnected, -, hreply, hcode⟩ := h
  rw [acOutcome, hinfo] at hconnected hreply
  dsimp only at hconnected hreply
  rw [hgranted] at hreply
  have hreply : (match site.lost info.acId (site.message knkMsg remoteAddr res.openTime info) with
      | some text => AcReply.failed text
      | none => .art (handleUdpACOperations (site.acs info.acId)
          (site.message knkMsg remoteAddr res.openTime info)).artMsg) = .art artMsg := hreply
  split at hreply
  · cases hreply
  · injection hreply with hart
    obtain ⟨hfilter, hpass⟩ := hsets info.acId
    refine ⟨hconnected, by rw [← hart]; rfl, ?_⟩
    exact ops_of_success hfilter hpass rfl rfl (by rw [hart]; exact hcode)

end Rules

/-- **What a knock that succeeds names is open.**  Where the access controllers install ipset rules for who
    knocked, the acknowledgement of a knock without an error names at least one resource; and for each that it
    names, the access controller has installed the rules that the address of the agent and those that belong to it
    call for, for as long as the server grants and five seconds more, and no others. -/
theorem knock_installs (s : KnockServer) (site : Site)
    (resources : String → Option (String → Option PluginResource)) (a : KnockAgent)
    (transit : HeaderType → Transit) (ack : Ack) (hs : RunsExamples site.server s resources)
    (hsets : site.UsesIPSets) (h : knock (attempt s a transit) = some (ack, none)) :
    ∃ headerType remoteAddr addrStr res, Handled transit headerType remoteAddr addrStr ∧
      Names s resources a.knkMsg res ∧ (∃ name, name ∈ ack.resourceHost) ∧
      ∀ name, name ∈ ack.resourceHost → ∃ info token, res.resources.lookup name = some info ∧
        ack.acTokens.lookup name = some token ∧
        Open site { a.knkMsg with headerType := headerType } remoteAddr res.openTime info token := by
  obtain ⟨hassigned, hrunning, headerType, remoteAddr, addrStr, hhandled⟩ := handled_of_knock hs h
  obtain ⟨ack', err, hknock, hreturned⟩ := knock_handled hs hassigned hrunning hhandled
  rw [hknock] at h
  cases h
  have hext : headerType ≠ .ext := by
    rcases hhandled.2 with rfl | ⟨rfl, -⟩
    · decide
    · decide
  obtain ⟨name₀, info₀, artMsg₀, hgranted₀⟩ := hreturned.err_none.mp rfl
  obtain ⟨msg, res, hmsg, hnames, hlookup₀, hopens₀⟩ := hgranted₀
  obtain rfl := Except.ok.inj hmsg
  have htells := hreturned.tells
  refine ⟨headerType, remoteAddr, addrStr, res, hhandled, hnames, ⟨name₀, ?_⟩, ?_⟩
  · rw [Finmap.mem_iff]
    exact ⟨_, (htells.resourceHost name₀ _).mpr
      ⟨info₀, artMsg₀, ⟨_, res, rfl, hnames, hlookup₀, hopens₀⟩, rfl⟩⟩
  · intro name hname
    obtain ⟨host, hhost⟩ := Finmap.mem_iff.mp hname
    obtain ⟨info, artMsg, hgranted, -⟩ := (htells.resourceHost name host).mp hhost
    have htoken := (htells.acTokens name artMsg.acToken).mpr ⟨info, artMsg, hgranted, rfl⟩
    obtain ⟨msg', res', hmsg', hnames', hlookup, hopens⟩ := hgranted
    obtain rfl := Except.ok.inj hmsg'
    -- a knock names one group only
    have hres : res' = res := hnames'.unique hnames
    subst hres
    exact ⟨info, artMsg.acToken, hlookup, htoken, open_of_opens hsets hext hlookup hopens⟩

/-! ### A knock that is answered with a cookie first -/

/-- A provider with one group. -/
def samplePlugins (name : String) : Option (String → Option PluginResource) :=
  if name = "service" then
    some fun resourceId => if resourceId = "web" then some { webGroup with skipAuth := true } else none
  else none

/-- A site with access controllers at every name. -/
def sampleSite : Site where
  srcIpAssociatedAddrs := fun _ => []
  running := true
  connected := fun _ => true
  acs := fun _ => sampleAC 0 0
  lost := fun _ _ => none

/-- A server with the plugin of the example. -/
def sampleServer : KnockServer where
  authServiceMap name := name = "service"
  pluginHandlerMap name :=
    (samplePlugins name).map fun resourceMap => ⟨some (exampleAuthWithNHP sampleSite.server resourceMap)⟩
  appraiseEvidence _ := false

/-- An agent that knocks for the group. -/
def sampleAgent : KnockAgent := ⟨"user", "device", "", "service", "web", true, true⟩

/-- The first message is answered with a cookie. -/
def cookieFirst (headerType : HeaderType) : Transit :=
  if headerType = .knk then .cookie else .handled agentAddr "10.0.0.1:4000"

/-- In the sample the first message is answered with a cookie. -/
theorem handled_cookieFirst : Handled cookieFirst .rkn agentAddr "10.0.0.1:4000" := ⟨rfl, .inr ⟨rfl, rfl⟩⟩

/-- The second is granted, -/
theorem grants_cookieFirst : ∃ name info artMsg,
    Grants sampleServer sampleSite.server samplePlugins .rkn (bodyOf sampleAgent) agentAddr name info artMsg :=
  ⟨"web", _, _, _, _, rfl, ⟨rfl, ⟨_, rfl, rfl⟩, rfl⟩, rfl, rfl, rfl, rfl, rfl⟩

/-- the knock returns without an error, -/
theorem knock_granted_sample : ∃ ack, knock (attempt sampleServer sampleAgent cookieFirst) = some (ack, none) :=
  (knock_granted sampleServer sampleSite.server samplePlugins sampleAgent cookieFirst fun _ => rfl).2.2.mpr
    ⟨rfl, rfl, .rkn, agentAddr, _, handled_cookieFirst, grants_cookieFirst⟩

/-- and with a resource. -/
theorem knock_installs_sample : ∃ ack, knock (attempt sampleServer sampleAgent cookieFirst) = some (ack, none) ∧
    ∃ name, name ∈ ack.resourceHost := by
  have hs : RunsExamples sampleSite.server sampleServer samplePlugins := fun _ => rfl
  obtain ⟨ack, err, hknock, hreturned⟩ := knock_handled (a := sampleAgent) hs rfl rfl handled_cookieFirst
  obtain rfl := hreturned.err_none.mpr grants_cookieFirst
  obtain ⟨-, -, -, -, -, -, hname, -⟩ := knock_installs sampleServer sampleSite samplePlugins sampleAgent cookieFirst
    ack hs (fun _ => ⟨rfl, rfl⟩) hknock
  exact ⟨ack, hknock, hname⟩

end OpenNHP.Agent.Knock
