/-
  Opening the resources of a knock: `processACOperation` and `handleNhpOpenResource` of
  `endpoints/server/udpserver.go`.

  1. **The program.**  The server asks the access controller of every resource to open it for a time
     (`aopMessage`), waits for the answer and writes what came of it into the acknowledgement: host, token,
     pre-access action, or an error for the resource.  The requests are goroutines, one for each resource; here
     they are asked in turn, and what depends on their order is the subject of `OpenPaths`.

  2. **Exits.**  An exit (`NHP_EXT`) is the same request with an open time of one second, and the access controller
     knows it by that number: "1 sec timeout means exit".  In between the server adds its compensation time of five
     seconds, in 32 bits, and replaces an open time of zero by its default.

  3. **The property.**  `ClosesAccess`: the message of a request says what the request meant: an exit closes, and
     any other request opens for its time and the compensation.

  4. **The result.**  `exit_closes_iff` says for which requests it does: for no exit, whose second arrives as six,
     and for every other request whose open time leaves room for the compensation in 32 bits.
-/
import OpenNHP.AC.Operations
import OpenNHP.Core.Packet

namespace OpenNHP.Server

open Core AC

/-! ## Messages -/

/-- `common.AgentKnockMsg`, the fields that the opening of resources reads. -/
structure AgentKnockMsg where
  headerType : HeaderType
  userId : String
  deviceId : String
  organizationId : String
  authServiceId : String
  resourceId : String

/-- `common.ResourceInfo`. -/
structure ResourceInfo where
  acId : String
  hostname : String := ""
  addr : NetAddress
  portSuffix : Bool := false
  maskHost : Bool := false

/-- The host of a resource as the agent is told it. -/
def ResourceInfo.destHost (r : ResourceInfo) : String :=
  if r.maskHost then ""
  else
    let host := if r.hostname = "" then r.addr.ip else r.hostname
    if r.portSuffix = false ∨ r.addr.port = 0 then host else host ++ ":" ++ toString r.addr.port

/-- `common.ResourceData`, the fields that the opening of resources reads. -/
structure ResourceData where
  openTime : UInt32
  resources : List (String × ResourceInfo)

/-- `common.ServerKnockAckMsg`, the fields that the opening of resources writes. -/
structure ServerKnockAckMsg where
  errCode : String := ""
  errMsg : String := ""
  resourceHost : List (String × String) := []
  acTokens : List (String × String) := []
  preAccessActions : List (String × Option PreAccessInfo) := []

/-- The errors of `processACOperation` and `handleNhpOpenResource`, and what the transaction with the
    access controller or the parser of its answer fails with. -/
inductive OpenError
  | jsonParseFailed (text : String)
  | transactionRepliedWithWrongType
  | packetToMessageRoutineStopped
  | acConnectionNotFound
  | serverACOpsFailed (text : String)
  | acEmptyPassAddress
  | acOperationFailed

/-- The codes of the errors, -/
def OpenError.code : OpenError → String
  | .jsonParseFailed _ => "50001"
  | .transactionRepliedWithWrongType => "50006"
  | .packetToMessageRoutineStopped => "50007"
  | .acConnectionNotFound => "52003"
  | .serverACOpsFailed _ => "52005"
  | .acEmptyPassAddress => "53002"
  | .acOperationFailed => "53001"

/-- and their texts. -/
def OpenError.text : OpenError → String
  | .jsonParseFailed text => text
  | .transactionRepliedWithWrongType => "transaction replied wrong type"
  | .packetToMessageRoutineStopped => "packet to message routine stopped"
  | .acConnectionNotFound => "failed to find ac connection"
  | .serverACOpsFailed text => text
  | .acEmptyPassAddress => "pass address is empty"
  | .acOperationFailed => "ac operation failed"

/-- What comes back for a request to the access controller. -/
inductive AcReply
  | failed (text : String)
  | otherType
  | unreadable (text : String)
  | art (artMsg : ACOpsResultMsg)

/-- The server around the two functions: the addresses that belong to a source, whether it is running,
    the access controllers that are connected and what they answer. -/
structure AcServer where
  srcIpAssociatedAddrs : String → List NetAddress
  running : Bool
  connected : String → Bool
  ask : String → ServerACOpsMsg → AcReply

/-! ## processACOperation -/

/-- `DefaultIpOpenTime` and `ACOpenCompensationTime`, in seconds. -/
def defaultIpOpenTime : UInt32 := 120
/-- `ACOpenCompensationTime`. -/
def acOpenCompensationTime : UInt32 := 5

section Process

variable (s : AcServer) (knkMsg : AgentKnockMsg) (srcAddr : NetAddress)

/-- `aopMsg`. -/
def aopMessage (dstAddrs : List NetAddress) (openTime : UInt32) : ServerACOpsMsg where
  userId := knkMsg.userId
  deviceId := knkMsg.deviceId
  organizationId := knkMsg.organizationId
  authServiceId := knkMsg.authServiceId
  resourceId := knkMsg.resourceId
  sourceAddrs := srcAddr :: s.srcIpAssociatedAddrs srcAddr.ip
  destinationAddrs := dstAddrs
  openTime := (if openTime = 0 then defaultIpOpenTime else openTime) + acOpenCompensationTime

/-- `processACOperation`: the message it sends, the result message and the error. -/
def processACOperation (acId : String) (dstAddrs : List NetAddress) (openTime : UInt32) :
    Option ServerACOpsMsg × ACOpsResultMsg × Option OpenError :=
  let failed (e : OpenError) : ACOpsResultMsg × Option OpenError :=
    ({ errCode := e.code, errMsg := e.text }, some e)
  if dstAddrs = [] then (none, failed .acEmptyPassAddress)
  else if s.running = false then (none, failed .packetToMessageRoutineStopped)
  else
    let aopMsg := aopMessage s knkMsg srcAddr dstAddrs openTime
    (some aopMsg,
      match s.ask acId aopMsg with
      | .failed text => failed (.serverACOpsFailed text)
      | .otherType => failed .transactionRepliedWithWrongType
      | .unreadable text => failed (.jsonParseFailed text)
      | .art artMsg =>
        if artMsg.errCode ≠ "0" then (artMsg, some .acOperationFailed) else (artMsg, none))

/-! ## handleNhpOpenResource -/

/-- The open time that is asked for: one second for an exit. -/
def grantedOpenTime (res : ResourceData) : UInt32 :=
  if knkMsg.headerType = .ext then 1 else res.openTime

/-- What is done for one resource: the message to its access controller, and the result. -/
def openResource (res : ResourceData) (info : ResourceInfo) :
    Option ServerACOpsMsg × ACOpsResultMsg × Option OpenError :=
  if s.connected info.acId then
    processACOperation s knkMsg srcAddr info.acId [info.addr] (grantedOpenTime knkMsg res)
  else
    (none, { errCode := OpenError.acConnectionNotFound.code, errMsg := OpenError.acConnectionNotFound.text },
      some .acConnectionNotFound)

/-- The messages that go out to the access controllers, by resource. -/
def aopMessages (res : ResourceData) : List (String × ServerACOpsMsg) :=
  res.resources.filterMap fun r => (openResource s knkMsg srcAddr res r.2).1.map fun m => (r.1, m)

/-- `handleNhpOpenResource`: the resources are independent of each other, and one that opens is enough. -/
def handleNhpOpenResource (res : ResourceData) : ServerKnockAckMsg × Option OpenError :=
  let results := res.resources.map fun r => (r, (openResource s knkMsg srcAddr res r.2).2)
  let opened := results.filter fun r => r.2.2.isNone
  let ackMsg : ServerKnockAckMsg :=
    { resourceHost := opened.map fun r => (r.1.1, r.1.2.destHost)
      acTokens := opened.map fun r => (r.1.1, r.2.1.acToken)
      preAccessActions := opened.map fun r => (r.1.1, r.2.1.preAccessAction) }
  let failed := OpenError.serverACOpsFailed "server ac operation failed"
  if (results.filter fun r => r.2.1.errCode = "0").length = 0 then
    ({ ackMsg with errCode := failed.code, errMsg := failed.text }, some failed)
  else ({ ackMsg with errCode := "0", errMsg := "" }, none)

end Process

/-! ## Exits and lifetimes -/

/-- The open time that the requests of a knock stand for, with the compensation, as a number. -/
def lifetime (knkMsg : AgentKnockMsg) (res : ResourceData) : Int :=
  (if grantedOpenTime knkMsg res = 0 then defaultIpOpenTime.toNat
    else (grantedOpenTime knkMsg res).toNat) + acOpenCompensationTime.toNat

/-- What a message makes the access controller do: treat an exit as one, and install rules that last as
    long as was granted. -/
structure ClosesAccess (knkMsg : AgentKnockMsg) (res : ResourceData) (m : ServerACOpsMsg) : Prop where
  exit : knkMsg.headerType = .ext → tempOpenTime m.openTimeSec = 1
  lifetime : m.openTimeSec = lifetime knkMsg res
  rules : ∀ a : UdpAC, ∀ op ∈ (handleUdpACOperations a m).ops,
    op.Lasts (Server.lifetime knkMsg res) ∨
      op.Lasts (if knkMsg.headerType = .ext then 1 else tempOpenTime m.openTimeSec)

section Messages

variable {s : AcServer} {knkMsg : AgentKnockMsg} {srcAddr : NetAddress} {res : ResourceData}
  {name : String} {m : ServerACOpsMsg}

/-- The only message that is ever sent. -/
theorem processACOperation_sends {acId : String} {dstAddrs : List NetAddress} {openTime : UInt32}
    (h : (processACOperation s knkMsg srcAddr acId dstAddrs openTime).1 = some m) :
    m = aopMessage s knkMsg srcAddr dstAddrs openTime := by
  unfold processACOperation at h
  dsimp only at h
  split at h
  · cases h
  · split at h
    · cases h
    · exact (Option.some.inj h).symm

/-- The open time that every message carries. -/
theorem aopMessages_openTime (h : (name, m) ∈ aopMessages s knkMsg srcAddr res) :
    m.openTime = (if grantedOpenTime knkMsg res = 0 then defaultIpOpenTime
      else grantedOpenTime knkMsg res) + acOpenCompensationTime := by
  obtain ⟨⟨name', info⟩, -, hm⟩ := List.mem_filterMap.mp h
  obtain ⟨m', hm', heq⟩ := Option.map_eq_some_iff.mp hm
  cases heq
  unfold openResource at hm'
  split at hm'
  · rw [processACOperation_sends hm']
    rfl
  · cases hm'

/-- The compensation wraps only where it does not fit into 32 bits. -/
theorem openTimeSec_eq_lifetime (h : (name, m) ∈ aopMessages s knkMsg srcAddr res) :
    m.openTimeSec = lifetime knkMsg res ↔ (grantedOpenTime knkMsg res).toNat + 5 < 2 ^ 32 := by
  rw [ServerACOpsMsg.openTimeSec, aopMessages_openTime h, lifetime]
  have h5 : acOpenCompensationTime.toNat = 5 := rfl
  by_cases hzero : grantedOpenTime knkMsg res = 0
  · rw [if_pos hzero, if_pos hzero, hzero]
    decide
  · rw [if_neg hzero, if_neg hzero, UInt32.toNat_add, h5]
    have hlt := (grantedOpenTime knkMsg res).toNat_lt
    omega

/-- **Exits and open times end to end.**  A message says what the request meant exactly when the request
    is no exit and the open time leaves room for the compensation. -/
theorem exit_closes_iff (h : (name, m) ∈ aopMessages s knkMsg srcAddr res) :
    ClosesAccess knkMsg res m ↔ knkMsg.headerType ≠ .ext ∧ res.openTime.toNat + 5 < 2 ^ 32 := by
  have hlifetime := openTimeSec_eq_lifetime h
  constructor
  · intro hcloses
    have hno : knkMsg.headerType ≠ .ext := by
      intro hext
      -- the second of an exit arrives as six
      have hsix : m.openTimeSec = 6 := by
        rw [hcloses.lifetime, lifetime, grantedOpenTime, if_pos hext]
        rfl
      have hone := hcloses.exit hext
      rw [hsix] at hone
      exact absurd hone (by decide)
    have hbound := hlifetime.mp hcloses.lifetime
    rw [grantedOpenTime, if_neg hno] at hbound
    exact ⟨hno, hbound⟩
  · rintro ⟨hno, hbound⟩
    have heq : m.openTimeSec = lifetime knkMsg res := by
      rw [hlifetime, grantedOpenTime, if_neg hno]
      exact hbound
    refine ⟨fun hext => absurd hext hno, heq, fun a op hop => ?_⟩
    rw [if_neg hno, ← heq]
    exact handleAccessControl_lasts a _ _ _ _ op hop

end Messages

/-! ## Samples -/

/-- A server with one connected access controller that answers with success. -/
def openingServer : AcServer where
  srcIpAssociatedAddrs := fun _ => []
  running := true
  connected := fun _ => true
  ask := fun _ _ => .art { errCode := "0" }

/-- A knock or an exit, -/
def openingKnock (headerType : HeaderType) : AgentKnockMsg :=
  ⟨headerType, "user", "device", "", "service", "web"⟩

/-- the resource it is for, -/
def openingResource (openTime : UInt32) : ResourceData :=
  ⟨openTime, [("web", { acId := "ac", addr := webAddr })]⟩

/-- and what its access controller is sent. -/
def openingMessage (headerType : HeaderType) (openTime : UInt32) : ServerACOpsMsg :=
  aopMessage openingServer (openingKnock headerType) agentAddr [webAddr]
    (grantedOpenTime (openingKnock headerType) (openingResource openTime))

/-- A knock is not taken for an exit. -/
theorem exit_closes_sample :
    ClosesAccess (openingKnock .knk) (openingResource 60) (openingMessage .knk 60) :=
  have h : ("web", openingMessage .knk 60) ∈
      aopMessages openingServer (openingKnock .knk) agentAddr (openingResource 60) := List.mem_cons_self
  (exit_closes_iff h).mpr ⟨by decide, by decide⟩

/-- An exit leaves temporary rules open for 30 seconds, and an open time of `2 ^ 32 - 5` seconds closes
    the rules at once. -/
theorem exit_stays_open :
    (aopMessages openingServer (openingKnock .ext) agentAddr (openingResource 60) =
        [("web", openingMessage .ext 60)] ∧
      tempOpenTime (openingMessage .ext 60).openTimeSec = 30 ∧
      ¬ ClosesAccess (openingKnock .ext) (openingResource 60) (openingMessage .ext 60)) ∧
    aopMessages openingServer (openingKnock .knk) agentAddr (openingResource 4294967291) =
        [("web", openingMessage .knk 4294967291)] ∧
      (openingMessage .knk 4294967291).openTimeSec = 0 ∧
      ¬ ClosesAccess (openingKnock .knk) (openingResource 4294967291) (openingMessage .knk 4294967291) :=
  ⟨⟨rfl, by decide, fun h => absurd (h.exit rfl) (by decide)⟩,
    rfl, by decide, fun h => absurd h.lifetime (by decide)⟩

end OpenNHP.Server
