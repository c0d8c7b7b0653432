/-
  Knock requests at the server: `HandleKnockRequest` of `endpoints/server/nhpauth.go`, with the handler of
  `examples/server_plugin/main.go` and the opening of resources behind it.

  THE PROGRAM.  The request names a provider and a resource.  The server looks up the provider and the plugin
  handler of its name; the handler of the example looks up the resource group, asks for `SkipAuth`, since it has
  no backend, and calls back into the server, which asks the access controllers.  Whatever happens, the agent is
  answered: with what the handler returns, which may be no acknowledgement at all, or with the error that was
  met before.  A knock of a data agent (`DHP_KNK`) carries evidence, and is answered with the verdict on it.

  THE SPECIFICATION.  Where the acknowledgement says success, the request names a resource group, and each
  resource the acknowledgement lists was opened at its access controller, with the host and the token of that
  opening (`Tells`).

  THE CRUX.  A failure has three places to be told, the error, the code and the maps, and they are filled by
  different functions.  So the statement is carried through each of them: the opening of resources
  (`tells_handleNhpOpenResource`), the handler (`tells_exampleAuthWithNHP`) and the request
  (`tells_handleKnockRequest`), and each says what its own answer tells, success or not.

  What the access controllers did is a relation `Opens` here; the agent's side of the exchange and the access
  controllers' are put next to it where a knock is followed from end to end.
-/
import OpenNHP.Server.OpenPaths
import Mathlib.Logic.Function.Basic

namespace OpenNHP.Server.KnockRequests

open Core AC OpenPaths

/-! ## Errors of the applications -/

/-- `common.Error`, with its English text. -/
structure AppError where
  errorCode : String
  text : String
  deriving DecidableEq, Repr

namespace AppError

/-- The code that every answer of success carries (`ErrSuccess`); the errors below have their numbers and texts
    from `common/errors.go`. -/
def success : AppError := ⟨"0", ""⟩
def exit : AppError := ⟨"1", "must exit"⟩
def jsonParseFailed : AppError := ⟨"50001", "json parse failed"⟩
def transactionIdNotFound : AppError := ⟨"50002", "transaction id not found"⟩
def transactionFailedByTimeout : AppError := ⟨"50003", "transaction failed due to time out"⟩
def transactionFailedByClosedConnection : AppError := ⟨"50004", "transaction failed by closed connection"⟩
def transactionFailedByClosedDevice : AppError := ⟨"50005", "transaction failed by closed device"⟩
def transactionRepliedWithWrongType : AppError := ⟨"50006", "transaction replied wrong type"⟩
def packetToMessageRoutineStopped : AppError := ⟨"50007", "packet to message routine stopped"⟩
def invalidIpAddress : AppError := ⟨"50008", "invalid ip address"⟩
def packetEncryptionFailed : AppError := ⟨"50009", "packet encryption failed"⟩
def knockUserNotSpecified : AppError := ⟨"51001", "knock user not specified"⟩
def knockServerNotFound : AppError := ⟨"51002", "failed to find knock server"⟩
def knockTerminatedByCookie : AppError := ⟨"51003", "knock terminated by cookie"⟩
def noAgentInstance : AppError := ⟨"51100", "agent instance does not exist"⟩
def invalidInput : AppError := ⟨"51101", "invalid input parameter"⟩
def knockApiRequestFailed : AppError := ⟨"52001", "knock api request failed"⟩
def authServiceProviderNotFound : AppError := ⟨"52002", "failed to find auth service provider"⟩
def acConnectionNotFound : AppError := ⟨"52003", "failed to find ac connection"⟩
def resourceNotFound : AppError := ⟨"52004", "failed to find resource"⟩
def serverACOpsFailed : AppError := ⟨"52005", "server ac operation failed"⟩
def authHandlerNotFound : AppError := ⟨"52006", "failed to find auth handler"⟩
def backendAuthRequired : AppError := ⟨"52007", "server backend auth required"⟩
def urlPathInvalid : AppError := ⟨"52008", "client request url path is invalid"⟩
def acOperationFailed : AppError := ⟨"53001", "ac operation failed"⟩
def acEmptyPassAddress : AppError := ⟨"53002", "pass address is empty"⟩
def acIPSetNotFound : AppError := ⟨"53003", "ipset not found"⟩
def acIPSetOperationFailed : AppError := ⟨"53004", "ipset operation failed"⟩
def acTempPortListenFailed : AppError := ⟨"53005", "temporary port listening failed"⟩
def acResolveTempPortFailed : AppError := ⟨"53006", "resolve temporary port failed"⟩
def httpRequestFailed : AppError := ⟨"54001", "http request failed"⟩
def httpResponseFormatError : AppError := ⟨"54002", "http response format error"⟩
def httpReturnedWithError : AppError := ⟨"54003", "http returns with error"⟩
def httpResourceAddressNotFound : AppError := ⟨"54004", "http resource address not found"⟩
def teeNotAuthorized : AppError := ⟨"55001", "TEE is  not authorized"⟩
def dataPrivateKeyStore : AppError := ⟨"55002", "data private key store error"⟩
def evidenceAppraisalFailed : AppError := ⟨"55003", "remote attestation appraisal failed"⟩
def evidenceGetFailed : AppError := ⟨"55004", "failed to get evidence"⟩
def dbOffline : AppError := ⟨"55005", "data broker offline"⟩

/-- `errorMap`. -/
def all : List AppError :=
  [success, exit, jsonParseFailed, transactionIdNotFound, transactionFailedByTimeout,
    transactionFailedByClosedConnection, transactionFailedByClosedDevice, transactionRepliedWithWrongType,
    packetToMessageRoutineStopped, invalidIpAddress, packetEncryptionFailed, knockUserNotSpecified,
    knockServerNotFound, knockTerminatedByCookie, noAgentInstance, invalidInput, knockApiRequestFailed,
    authServiceProviderNotFound, acConnectionNotFound, resourceNotFound, serverACOpsFailed,
    authHandlerNotFound, backendAuthRequired, urlPathInvalid, acOperationFailed, acEmptyPassAddress,
    acIPSetNotFound, acIPSetOperationFailed, acTempPortListenFailed, acResolveTempPortFailed,
    httpRequestFailed, httpResponseFormatError, httpReturnedWithError, httpResourceAddressNotFound,
    teeNotAuthorized, dataPrivateKeyStore, evidenceAppraisalFailed, evidenceGetFailed, dbOffline]

end AppError

/-- `ErrorCodeToError`: `nil` for a code that is none. -/
def errorCodeToError (code : String) : Option AppError := AppError.all.find? (·.errorCode = code)

/-- The errors that opening resources returns are two of them. -/
def failureError : OpenFailure → AppError
  | .resourceNotFound => .resourceNotFound
  | .serverACOpsFailed => .serverACOpsFailed

/-- The two errors of an opening are the common errors of the same code and text. -/
theorem failureError_code (e : OpenFailure) :
    (failureError e).errorCode = e.code ∧ (failureError e).text = e.text := by
  cases e <;> exact ⟨rfl, rfl⟩

/-! ## Plugin handlers -/

/-- What `AuthWithNHP` of a plugin returns; `none` for a panic. -/
abbrev AuthWithNHP := NhpAuthRequest → Option (Option OpenPaths.ServerKnockAckMsg × Option AppError)

/-- `PluginHandlerSymbol`, with the symbol that knocks call, if the plugin has it. -/
structure PluginHandlerSymbol where
  sAuthWithNHP : Option AuthWithNHP

/-- The wrapper returns zero values behind a panic that it has caught. -/
def PluginHandlerSymbol.authWithNHP (s : PluginHandlerSymbol) (req : NhpAuthRequest) :
    Option OpenPaths.ServerKnockAckMsg × Option AppError :=
  match s.sAuthWithNHP with
  | none => (none, some ⟨"", "plugin not implemented"⟩)
  | some auth => (auth req).getD (none, none)

/-! ## HandleKnockRequest -/

/-- What the server has for a knock. -/
structure KnockServer where
  authServiceMap : String → Bool
  pluginHandlerMap : String → Option PluginHandlerSymbol
  appraiseEvidence : String → Bool

/-- The body of a knock as `json.Unmarshal` reads it, in the one struct and in the other. -/
structure KnockBody where
  knkMsg : Except String AgentKnockMsg
  evidence : Except String String

/-- The body of the answer; `none` is the JSON `null`. -/
inductive AckBody
  | knock (ackMsg : Option OpenPaths.ServerKnockAckMsg)
  | dhp (errCode : String) (openTime : UInt32)

/-- An acknowledgement with the code and the text of an error. -/
def refuse (ackMsg : OpenPaths.ServerKnockAckMsg) (e : AppError) : OpenPaths.ServerKnockAckMsg :=
  { ackMsg with errCode := e.errorCode, errMsg := e.text }

/-- `HandleKnockRequest`, up to the transaction that the answer goes to. -/
def KnockServer.handleKnockRequest (s : KnockServer) (headerType : HeaderType) (body : KnockBody)
    (remoteAddr : NetAddress) (addrStr : String) : AckBody :=
  let ackMsg : OpenPaths.ServerKnockAckMsg := { agentAddr := addrStr }
  if headerType = .dhpKnk then
    .dhp (match body.evidence with
      | .error _ => ""
      | .ok evidence =>
        if s.appraiseEvidence evidence then AppError.success.errorCode
        else AppError.evidenceAppraisalFailed.errorCode) 30
  else
    .knock (match body.knkMsg with
      | .error text => some { ackMsg with errCode := AppError.jsonParseFailed.errorCode, errMsg := text }
      | .ok msg =>
        -- determine knock type
        let knkMsg := { msg with headerType := headerType }
        if s.authServiceMap knkMsg.authServiceId = false then some (refuse ackMsg .authServiceProviderNotFound)
        else
          match s.pluginHandlerMap knkMsg.authServiceId with
          | none => some (refuse ackMsg .authServiceProviderNotFound)
          | some handler => (handler.authWithNHP ⟨knkMsg, ackMsg, remoteAddr⟩).1)

/-! ## The handler of the example -/

/-- A resource group of the plugin. -/
structure PluginResource extends OpenPaths.ResourceData where
  skipAuth : Bool

section Example

variable (ac : AcServer)

/-- What the operation for a resource of a knock meets. -/
def acOutcome (knkMsg : AgentKnockMsg) (srcAddr : NetAddress) (res : OpenPaths.ResourceData) (name : String) :
    Outcome :=
  match res.resources.lookup name with
  | none => ⟨false, ac.running, .otherType⟩
  | some info =>
    { found := ac.connected info.acId
      running := ac.running
      reply := ac.ask info.acId
        (aopMessage ac knkMsg srcAddr [info.addr] (grantedOpenTime knkMsg ⟨res.openTime, []⟩)) }

/-- `AuthWithNhpCallbackFunc`, with the maps that every order of the goroutines leaves (`collected_iff`). -/
def authWithNhpCallback (req : NhpAuthRequest) (res : OpenPaths.ResourceData) :
    Option OpenPaths.ServerKnockAckMsg × Option OpenFailure :=
  OpenPaths.handleNhpOpenResource req (gathered (acOutcome ac req.msg req.srcAddr res) res)

/-- `AuthWithNHP` of the example. -/
def exampleAuthWithNHP (resourceMap : String → Option PluginResource) : AuthWithNHP := fun req =>
  match resourceMap req.msg.resourceId with
  | none => some (some (refuse req.ack .resourceNotFound), some .resourceNotFound)
  | some res =>
    if res.resources.keys.length = 0 then
      some (some (refuse req.ack .resourceNotFound), some .resourceNotFound)
    -- there is no backend auth in this plugin
    else if res.skipAuth = false then
      some (some (refuse req.ack .backendAuthRequired), some .backendAuthRequired)
    else
      let (ackMsg, err) := authWithNhpCallback ac { req with ack := { req.ack with openTime := res.openTime } }
        res.toResourceData
      some (ackMsg, err.map failureError)

/-- The server has the example for the handler of every plugin, each with its own resources. -/
def RunsExamples (s : KnockServer) (resources : String → Option (String → Option PluginResource)) : Prop :=
  ∀ name, s.pluginHandlerMap name =
    (resources name).map fun resourceMap => ⟨some (exampleAuthWithNHP ac resourceMap)⟩

end Example

/-! ## What an answer is to tell -/

/-- The operation opens the resource with this result message. -/
def Opens (o : Outcome) (artMsg : ACOpsResultMsg) : Prop :=
  o.found = true ∧ o.running = true ∧ o.reply = .art artMsg ∧ artMsg.errCode = "0"

/-- The knock names a provider of the server and a resource group of its plugin that needs no backend. -/
structure Names (s : KnockServer) (resources : String → Option (String → Option PluginResource))
    (knkMsg : AgentKnockMsg) (res : PluginResource) : Prop where
  provider : s.authServiceMap knkMsg.authServiceId = true
  group : ∃ resourceMap, resources knkMsg.authServiceId = some resourceMap ∧
    resourceMap knkMsg.resourceId = some res
  skipAuth : res.skipAuth = true

/-- A knock names at most one resource group. -/
theorem Names.unique {s : KnockServer} {resources : String → Option (String → Option PluginResource)}
    {knkMsg : AgentKnockMsg} {res res' : PluginResource} (h : Names s resources knkMsg res)
    (h' : Names s resources knkMsg res') : res = res' := by
  obtain ⟨resourceMap, hmap, hres⟩ := h.group
  obtain ⟨resourceMap', hmap', hres'⟩ := h'.group
  obtain rfl := Option.some.inj (hmap.symm.trans hmap')
  exact Option.some.inj (hres.symm.trans hres')

/-- A knock has the resource opened. -/
def Grants (s : KnockServer) (ac : AcServer) (resources : String → Option (String → Option PluginResource))
    (headerType : HeaderType) (body : KnockBody) (remoteAddr : NetAddress) (name : String) (info : ResourceInfo)
    (artMsg : ACOpsResultMsg) : Prop :=
  ∃ msg res, body.knkMsg = .ok msg ∧ Names s resources msg res ∧ res.resources.lookup name = some info ∧
    Opens (acOutcome ac { msg with headerType := headerType } remoteAddr res.toResourceData name) artMsg

/-- An acknowledgement is a success when some resource was granted, and its maps name what was; its code is one
    that the agent knows, and never that of a cookie. -/
structure Tells (granted : String → ResourceInfo → ACOpsResultMsg → Prop) (ack : OpenPaths.ServerKnockAckMsg) :
    Prop where
  code : ack.errCode = AppError.success.errorCode ↔ ∃ name info artMsg, granted name info artMsg
  resourceHost : ∀ name host, ack.resourceHost.lookup name = some host ↔
    ∃ info artMsg, granted name info artMsg ∧ host = info.destHost
  acTokens : ∀ name token, ack.acTokens.lookup name = some token ↔
    ∃ info artMsg, granted name info artMsg ∧ token = artMsg.acToken
  preAccessActions : ∀ name action, ack.preAccessActions.lookup name = some action ↔
    ∃ info artMsg, granted name info artMsg ∧ action = artMsg.preAccessAction
  known : ∃ e, errorCodeToError ack.errCode = some e ∧ e ≠ .knockTerminatedByCookie

/-! ## The maps -/

/-- What `processACOperation` returns is an answer without an error exactly where the access controller opened. -/
theorem answer_eq_iff (o : Outcome) (artMsg : ACOpsResultMsg) : o.answer = (artMsg, none) ↔ Opens o artMsg := by
  have hopens : ∀ m, Opens o m → o.answer = (m, none) := by
    rintro m ⟨hfound, hrunning, hreply, hcode⟩
    simp [Outcome.answer, hfound, hrunning, hreply, hcode]
  constructor
  · intro h
    obtain ⟨hfound, hrunning, m, hreply, hcode⟩ := o.answer_iff.1.mp (congrArg Prod.snd h)
    have hm : o.answer = (m, none) := hopens m ⟨hfound, hrunning, hreply, hcode⟩
    rw [h] at hm
    obtain rfl := congrArg Prod.fst hm
    exact ⟨hfound, hrunning, hreply, hcode⟩
  · exact hopens artMsg

/-- The map of a kind of entry has what the operations that opened their resources left. -/
theorem lookup_opened {β : Type} {outcome : String → Outcome} {res : OpenPaths.ResourceData}
    (f : ResourceInfo → ACOpsResultMsg → β) (name : String) (v : β) :
    (res.resources.keys.foldr (FanOut.put (entry outcome res (ifOpened f))) ∅).lookup name = some v ↔
      ∃ info artMsg, (res.resources.lookup name = some info ∧ Opens (outcome name) artMsg) ∧
        v = f info artMsg := by
  rw [lookup_keys, entry, Option.bind_eq_some_iff]
  constructor
  · rintro ⟨info, hinfo, hv⟩
    rcases hanswer : (outcome name).answer with ⟨artMsg, err⟩
    rw [hanswer, ifOpened] at hv
    cases err with
    | none => exact ⟨info, artMsg, ⟨hinfo, (answer_eq_iff _ _).mp hanswer⟩, (Option.some.inj hv).symm⟩
    | some e => cases hv
  · rintro ⟨info, artMsg, ⟨hinfo, hopens⟩, rfl⟩
    refine ⟨info, hinfo, ?_⟩
    rw [(answer_eq_iff _ _).mpr hopens]
    rfl

/-- Opened, as the two ways to open resources have it, is a resource of the group whose access controller
    opened. -/
theorem opened_iff {outcome : String → Outcome} {res : OpenPaths.ResourceData} (name : String) :
    Opened outcome res name ↔
      ∃ info artMsg, res.resources.lookup name = some info ∧ Opens (outcome name) artMsg := by
  constructor
  · rintro ⟨hmem, hfound, hrunning, artMsg, hreply, hcode⟩
    obtain ⟨info, hinfo⟩ := Option.isSome_iff_exists.mp (AList.lookup_isSome.mpr hmem)
    exact ⟨info, artMsg, hinfo, hfound, hrunning, hreply, hcode⟩
  · rintro ⟨info, artMsg, hinfo, hfound, hrunning, hreply, hcode⟩
    exact ⟨AList.lookup_isSome.mp (Option.isSome_of_eq_some hinfo), hfound, hrunning, artMsg, hreply, hcode⟩

/-- What the opening of a group returns tells what was opened. -/
theorem tells_handleNhpOpenResource (outcome : String → Outcome) (res : OpenPaths.ResourceData)
    (req : NhpAuthRequest) :
    ∃ ack, (OpenPaths.handleNhpOpenResource req (gathered outcome res)).1 = some ack ∧
      ack.agentAddr = req.ack.agentAddr ∧ ack.openTime = req.ack.openTime ∧
      Tells (fun name info artMsg => res.resources.lookup name = some info ∧ Opens (outcome name) artMsg) ack := by
  have hopened : (∃ name, Opened outcome res name) ↔
      ∃ name info artMsg, res.resources.lookup name = some info ∧ Opens (outcome name) artMsg :=
    exists_congr opened_iff
  rw [OpenPaths.handleNhpOpenResource]
  split_ifs with hcount
  · have hnone := mt hopened.mpr (successCount_eq_zero.mp hcount)
    have hcode : OpenFailure.serverACOpsFailed.code ≠ AppError.success.errorCode := by decide
    exact ⟨_, rfl, rfl, rfl, iff_of_false hcode hnone, lookup_opened _, lookup_opened _, lookup_opened _,
      .serverACOpsFailed, rfl, by decide⟩
  · have hsome := hopened.mp (not_not.mp (mt successCount_eq_zero.mpr hcount))
    exact ⟨_, rfl, rfl, rfl, iff_of_true rfl hsome, lookup_opened _, lookup_opened _, lookup_opened _,
      .success, rfl, by decide⟩

/-! ## The request -/

section Requests

variable {granted granted' : String → ResourceInfo → ACOpsResultMsg → Prop} {ack : OpenPaths.ServerKnockAckMsg}

/-- What an acknowledgement tells depends on the grants alone. -/
theorem Tells.congr (h : ∀ name info artMsg, granted name info artMsg ↔ granted' name info artMsg)
    (hack : Tells granted ack) : Tells granted' ack := by
  obtain rfl : granted = granted' := by
    funext name info artMsg
    exact propext (h name info artMsg)
  exact hack

/-- An acknowledgement with the code of an error and with empty maps tells that nothing was granted. -/
theorem tells_nothing {e : AppError} (hcode : ack.errCode = e.errorCode) (hhost : ack.resourceHost = ∅)
    (htokens : ack.acTokens = ∅) (hactions : ack.preAccessActions = ∅) (he : e ≠ .success)
    (hcookie : e ≠ .knockTerminatedByCookie) (hfind : errorCodeToError e.errorCode = some e)
    (hnone : ∀ name info artMsg, ¬ granted name info artMsg) : Tells granted ack := by
  refine ⟨?_, ?_, ?_, ?_, e, by rw [hcode, hfind], hcookie⟩
  · refine iff_of_false (fun hsuccess => he ?_) fun ⟨name, info, artMsg, h⟩ => hnone name info artMsg h
    have hfound : errorCodeToError AppError.success.errorCode = some e := by rw [← hsuccess, hcode, hfind]
    exact (Option.some.inj hfound).symm
  · intro name host
    rw [hhost, Finmap.lookup_empty]
    exact iff_of_false nofun fun ⟨info, artMsg, h, _⟩ => hnone name info artMsg h
  · intro name token
    rw [htokens, Finmap.lookup_empty]
    exact iff_of_false nofun fun ⟨info, artMsg, h, _⟩ => hnone name info artMsg h
  · intro name action
    rw [hactions, Finmap.lookup_empty]
    exact iff_of_false nofun fun ⟨info, artMsg, h, _⟩ => hnone name info artMsg h

/-- The handler of the example tells what was opened of a group that needs no backend. -/
theorem tells_exampleAuthWithNHP (ac : AcServer) (resourceMap : String → Option PluginResource)
    (msg : AgentKnockMsg) (addrStr : String) (srcAddr : NetAddress) :
    ∃ ack err, exampleAuthWithNHP ac resourceMap ⟨msg, { agentAddr := addrStr }, srcAddr⟩ = some (some ack, err) ∧
      ack.agentAddr = addrStr ∧
      Tells (fun name info artMsg => ∃ res, resourceMap msg.resourceId = some res ∧ res.skipAuth = true ∧
        res.resources.lookup name = some info ∧ Opens (acOutcome ac msg srcAddr res.toResourceData name) artMsg)
        ack := by
  unfold exampleAuthWithNHP
  dsimp only
  cases hres : resourceMap msg.resourceId with
  | none =>
    refine ⟨_, _, rfl, rfl, tells_nothing (e := .resourceNotFound) rfl rfl rfl rfl (by decide) (by decide) rfl ?_⟩
    rintro name info artMsg ⟨res, ⟨⟩, -⟩
  | some res =>
    dsimp only
    split_ifs with hempty hskip
    · refine ⟨_, _, rfl, rfl, tells_nothing (e := .resourceNotFound) rfl rfl rfl rfl (by decide) (by decide) rfl ?_⟩
      rintro name info artMsg ⟨res', ⟨⟩, -, hlookup, -⟩
      have hmem := AList.mem_keys.mp (AList.lookup_isSome.mp (Option.isSome_of_eq_some hlookup))
      rw [List.length_eq_zero_iff.mp hempty] at hmem
      exact absurd hmem List.not_mem_nil
    · refine ⟨_, _, rfl, rfl, tells_nothing (e := .backendAuthRequired) rfl rfl rfl rfl (by decide) (by decide)
        rfl ?_⟩
      rintro name info artMsg ⟨res', ⟨⟩, hskip', -⟩
      rw [hskip] at hskip'
      cases hskip'
    · obtain ⟨ack, hreturned, haddr, -, htells⟩ := tells_handleNhpOpenResource
        (acOutcome ac msg srcAddr res.toResourceData) res.toResourceData
        ⟨msg, { agentAddr := addrStr, openTime := res.openTime }, srcAddr⟩
      refine ⟨ack, _, congrArg some (Prod.ext hreturned rfl), haddr, htells.congr fun name info artMsg => ?_⟩
      constructor
      · rintro ⟨hlookup, hopens⟩
        exact ⟨res, rfl, Bool.of_not_eq_false hskip, hlookup, hopens⟩
      · rintro ⟨res', ⟨⟩, -, hlookup, hopens⟩
        exact ⟨hlookup, hopens⟩

/-- Whatever its body is, an agent gets an acknowledgement, and that tells what was opened. -/
theorem tells_handleKnockRequest (s : KnockServer) (ac : AcServer)
    (resources : String → Option (String → Option PluginResource)) (headerType : HeaderType) (body : KnockBody)
    (remoteAddr : NetAddress) (addrStr : String) (hs : RunsExamples ac s resources)
    (hknk : headerType ≠ .dhpKnk) :
    ∃ ack, s.handleKnockRequest headerType body remoteAddr addrStr = .knock (some ack) ∧
      ack.agentAddr = addrStr ∧ Tells (Grants s ac resources headerType body remoteAddr) ack := by
  rw [KnockServer.handleKnockRequest, if_neg hknk]
  cases hbody : body.knkMsg with
  | error text =>
    refine ⟨_, rfl, rfl, tells_nothing (e := .jsonParseFailed) rfl rfl rfl rfl (by decide) (by decide) rfl ?_⟩
    rintro name info artMsg ⟨msg, res, hmsg, -⟩
    rw [hbody] at hmsg
    cases hmsg
  | ok msg =>
    -- the message that the knock is read as is the only one
    have hgrants : ∀ name info artMsg, Grants s ac resources headerType body remoteAddr name info artMsg ↔
        ∃ res, Names s resources msg res ∧ res.resources.lookup name = some info ∧
          Opens (acOutcome ac { msg with headerType := headerType } remoteAddr res.toResourceData name)
            artMsg := by
      intro name info artMsg
      constructor
      · rintro ⟨msg', res, hmsg, h⟩
        rw [hbody] at hmsg
        obtain rfl := Except.ok.inj hmsg
        exact ⟨res, h⟩
      · rintro ⟨res, h⟩
        exact ⟨msg, res, hbody, h⟩
    dsimp only
    split_ifs with hprovider
    · refine ⟨_, rfl, rfl, tells_nothing (e := .authServiceProviderNotFound) rfl rfl rfl rfl (by decide)
        (by decide) rfl ?_⟩
      intro name info artMsg h
      obtain ⟨res, hnames, -⟩ := (hgrants name info artMsg).mp h
      rw [hnames.provider] at hprovider
      cases hprovider
    · rw [hs msg.authServiceId]
      cases hmap : resources msg.authServiceId with
      | none =>
        refine ⟨_, rfl, rfl, tells_nothing (e := .authServiceProviderNotFound) rfl rfl rfl rfl (by decide)
          (by decide) rfl ?_⟩
        intro name info artMsg h
        obtain ⟨res, hnames, -⟩ := (hgrants name info artMsg).mp h
        obtain ⟨resourceMap, hfound, -⟩ := hnames.group
        rw [hmap] at hfound
        cases hfound
      | some resourceMap =>
        obtain ⟨ack, err, hauth, haddr, htells⟩ := tells_exampleAuthWithNHP ac resourceMap
          { msg with headerType := headerType } addrStr remoteAddr
        refine ⟨ack, ?_, haddr, htells.congr fun name info artMsg => ?_⟩
        · rw [Option.map_some]
          dsimp only
          rw [PluginHandlerSymbol.authWithNHP]
          dsimp only
          rw [hauth]
          rfl
        · rw [hgrants]
          constructor
          · rintro ⟨res, hres, hskip, h⟩
            exact ⟨res, ⟨Bool.of_not_eq_false hprovider, ⟨resourceMap, hmap, hres⟩, hskip⟩, h⟩
          · rintro ⟨res, ⟨-, ⟨resourceMap', hmap', hres⟩, hskip⟩, h⟩
            rw [hmap] at hmap'
            obtain rfl := Option.some.inj hmap'
            exact ⟨res, hres, hskip, h⟩

end Requests

end OpenNHP.Server.KnockRequests
