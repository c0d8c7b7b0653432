/-
  The two ways to open resources: `handleHttpOpenResource` of `endpoints/server/httpserver.go` and
  `handleNhpOpenResource` of `endpoints/server/udpserver.go`.

  THE PROGRAM.  Both start a goroutine for each resource whose access controller is connected, and gather what
  these leave in maps they share (`write`).  The loop takes the resources in the order of a Go map, which is any,
  and the goroutines come to their ends in any order (`Collected`).

  THE SPECIFICATION.  Both return an acknowledgement whose maps name the resources that were opened, with the
  code of success exactly when one was, and beside an error with the error's code; and both return the same
  (`PathsAgree`).

  THE CRUX.  Whatever the order is, the same maps are left, for the writes commute (`collected_iff`).  Two things
  go wrong.  Where nothing was opened, `handleHttpOpenResource` returns its named result, which nothing has been
  assigned to (`handleHttpOpenResource_none`), and its sibling one with the code of the failure
  (`acknowledges_nhp`).  And where a connection has no `ACPeer`, which is what `HandleACOnline` stores for a key
  that is in no list of access controllers, `processACOperation` panics in a goroutine of its own, where nothing
  recovers: the process is gone, and neither path returns (`panicked_of_collected`).

  ASSEMBLY.  `open_paths_iff`: the two agree, in every order, exactly when some resource is opened and no
  connected access controller is without a peer.
-/
import OpenNHP.Server.OpenResource
import OpenNHP.Lib.FanOut
import OpenNHP.Core.Outcome

namespace OpenNHP.Server.OpenPaths

open Core AC

/-! ## The two requests -/

/-- `common.ResourceData`, with its map. -/
structure ResourceData where
  resourceId : String
  openTime : UInt32
  resources : AList fun _ : String => ResourceInfo

/-- The knock that the web server builds from a request (`common.HttpKnockRequest`). -/
structure HttpKnockRequest where
  userId : String
  deviceId : String
  organizationId : String
  authServiceId : String
  token : String
  command : String
  srcIp : String

/-- `common.ServerKnockAckMsg`, with its maps. -/
structure ServerKnockAckMsg where
  errCode : String := ""
  errMsg : String := ""
  resourceHost : Finmap fun _ : String => String := ∅
  openTime : UInt32 := 0
  authProviderToken : String := ""
  agentAddr : String := ""
  acTokens : Finmap fun _ : String => String := ∅
  preAccessActions : Finmap fun _ : String => Option PreAccessInfo := ∅

/-- The knock that `HandleKnockRequest` hands to a plugin (`common.NhpAuthRequest`). -/
structure NhpAuthRequest where
  msg : AgentKnockMsg
  ack : ServerKnockAckMsg
  srcAddr : NetAddress

/-- The errors that the two return. -/
inductive OpenFailure
  | resourceNotFound
  | serverACOpsFailed
  deriving DecidableEq

/-- The error's code. -/
def OpenFailure.code : OpenFailure → String
  | resourceNotFound => "52004"
  | serverACOpsFailed => "52005"

/-- The error's text, as the agent gets it. -/
def OpenFailure.text : OpenFailure → String
  | resourceNotFound => "failed to find resource"
  | serverACOpsFailed => "server ac operation failed"

/-! ## One resource -/

/-- What the operation for a resource meets: whether its access controller is connected and the server running
    then, and what comes back. -/
structure Outcome where
  found : Bool
  running : Bool
  reply : AcReply

/-- The server as the operation finds it. -/
def Outcome.server (o : Outcome) (s : AcServer) : AcServer :=
  { s with running := o.running, connected := fun _ => o.found, ask := fun _ _ => o.reply }

/-- The operation opens the resource. -/
def Outcome.Succeeds (o : Outcome) : Prop :=
  o.found = true ∧ o.running = true ∧ ∃ artMsg, o.reply = .art artMsg ∧ artMsg.errCode = "0"

/-- What the goroutines share, and whether one of them has panicked. -/
structure Shared where
  artMsgs : Finmap fun _ : String => ACOpsResultMsg := ∅
  resourceHost : Finmap fun _ : String => String := ∅
  acTokens : Finmap fun _ : String => String := ∅
  preAccessActions : Finmap fun _ : String => Option PreAccessInfo := ∅
  panicked : Bool := false

section Paths

variable (s : AcServer) (outcome : String → Outcome) (hasPeer : String → Bool) (knkMsg : AgentKnockMsg)
  (srcAddr : NetAddress) (res : ResourceData)

/-- The access controller of a resource is connected, and its connection has no `ACPeer`. -/
def Peerless (name : String) : Prop := (outcome name).found = true ∧ hasPeer name = false

instance : DecidablePred (Peerless outcome hasPeer) := fun _ => inferInstanceAs (Decidable (_ ∧ _))

/-- The result message and the error for a resource. -/
def result (name : String) (info : ResourceInfo) : Go (ACOpsResultMsg × Option OpenError) :=
  -- conn.ACPeer.RecvAddr() comes before the server is asked whether it is running
  if Peerless outcome hasPeer name then .panic
  else .ok (openResource ((outcome name).server s) knkMsg srcAddr ⟨res.openTime, []⟩ info).2

/-- What is left of a resource in the maps; the same in both. -/
def write (name : String) (m : Shared) : Shared :=
  match res.resources.lookup name with
  | none => m
  | some info =>
    match result s outcome hasPeer knkMsg srcAddr res name info with
    | .ok (artMsg, err) =>
      let m := { m with artMsgs := m.artMsgs.insert name artMsg }
      if err.isNone then
        { m with
          resourceHost := m.resourceHost.insert name info.destHost
          acTokens := m.acTokens.insert name artMsg.acToken
          preAccessActions := m.preAccessActions.insert name artMsg.preAccessAction }
      else m
    | _ => { m with panicked := true }

/-- The maps behind the loop and all goroutines, in some order. -/
def Collected (m : Shared) : Prop :=
  FanOut.Collects (fun name => (outcome name).found) (write s outcome hasPeer knkMsg srcAddr res)
    res.resources.keys {} m

end Paths

/-- What a path returns: behind a panic of a goroutine the process is gone. -/
def Shared.returns {α : Type} (m : Shared) (answer : α) : Go α := if m.panicked then .panic else .ok answer

/-- How many of the gathered answers have the code of success. -/
def Shared.successCount (m : Shared) : Nat := m.artMsgs.entries.countP fun r => r.2.errCode = "0"

/-! ## The two paths -/

namespace HttpKnockRequest

variable (req : HttpKnockRequest)

/-- A message without a type has the first. -/
def knkMsg (res : ResourceData) : AgentKnockMsg where
  headerType := if req.command = "exit" then .ext else .kpl
  userId := req.userId
  deviceId := req.deviceId
  organizationId := req.organizationId
  authServiceId := req.authServiceId
  resourceId := res.resourceId

/-- The address that the access controllers are to open for: the one in the web request. -/
def srcAddr : NetAddress := ⟨req.srcIp, 0, ""⟩

end HttpKnockRequest

/-- `handleHttpOpenResource`, with what its goroutines have left in the maps, where none panicked.  The failures
    return the named result `ack`, not `ackMsg`. -/
def handleHttpOpenResource (req : HttpKnockRequest) (res : ResourceData) (m : Shared) :
    Option ServerKnockAckMsg × Option OpenFailure :=
  let ack : Option ServerKnockAckMsg := none
  if res.resources.keys.length = 0 then (ack, some .resourceNotFound)
  else if m.successCount = 0 then (ack, some .serverACOpsFailed)
  else
    (some {
      authProviderToken := req.token
      agentAddr := req.srcIp
      openTime := res.openTime
      resourceHost := m.resourceHost
      acTokens := m.acTokens
      preAccessActions := m.preAccessActions
      errCode := "0"
      errMsg := "" }, none)

/-- `handleNhpOpenResource`, with what its goroutines have left in the maps, where none panicked. -/
def handleNhpOpenResource (req : NhpAuthRequest) (m : Shared) : Option ServerKnockAckMsg × Option OpenFailure :=
  let ackMsg := { req.ack with
    resourceHost := m.resourceHost
    acTokens := m.acTokens
    preAccessActions := m.preAccessActions }
  if m.successCount = 0 then
    (some { ackMsg with
      errCode := OpenFailure.serverACOpsFailed.code
      errMsg := OpenFailure.serverACOpsFailed.text }, some .serverACOpsFailed)
  else (some { ackMsg with errCode := "0", errMsg := "" }, none)

/-! ## What an answer is to be -/

section Answers

variable (outcome : String → Outcome) (res : ResourceData)

/-- The resource is one of the group, and its operation opened it. -/
def Opened (name : String) : Prop := name ∈ res.resources ∧ (outcome name).Succeeds

/-- An acknowledgement of the resources that were opened, with the code of the error beside it. -/
structure Acknowledges (answer : Option ServerKnockAckMsg × Option OpenFailure) (ack : ServerKnockAckMsg) :
    Prop where
  returned : answer.1 = some ack
  resourceHost : ∀ name, name ∈ ack.resourceHost ↔ Opened outcome res name
  acTokens : ∀ name, name ∈ ack.acTokens ↔ Opened outcome res name
  preAccessActions : ∀ name, name ∈ ack.preAccessActions ↔ Opened outcome res name
  code : ack.errCode = "0" ↔ ∃ name, Opened outcome res name
  failure : ∀ e, answer.2 = some e → ack.errCode = e.code

end Answers

/-- The two acknowledgements say the same of the operations. -/
structure SameAck (ack ack' : ServerKnockAckMsg) : Prop where
  errCode : ack.errCode = ack'.errCode
  errMsg : ack.errMsg = ack'.errMsg
  resourceHost : ack.resourceHost = ack'.resourceHost
  acTokens : ack.acTokens = ack'.acTokens
  preAccessActions : ack.preAccessActions = ack'.preAccessActions

/-- Both paths return, acknowledge what was opened, and do so alike. -/
def PathsAgree (outcome : String → Outcome) (res : ResourceData)
    (http nhp : Go (Option ServerKnockAckMsg × Option OpenFailure)) : Prop :=
  ∃ answer answer' ack ack', http = .ok answer ∧ nhp = .ok answer' ∧
    Acknowledges outcome res answer ack ∧ Acknowledges outcome res answer' ack' ∧ SameAck ack ack'

/-! ## What the goroutines leave -/

/-- An error, with the result message that goes with it. -/
def refused (e : OpenError) : ACOpsResultMsg × Option OpenError :=
  ({ errCode := e.code, errMsg := e.text }, some e)

/-- What an operation returns depends on nothing else than what it meets. -/
def Outcome.answer (o : Outcome) : ACOpsResultMsg × Option OpenError :=
  if o.found = false then refused .acConnectionNotFound
  else if o.running = false then refused .packetToMessageRoutineStopped
  else
    match o.reply with
    | .failed text => refused (.serverACOpsFailed text)
    | .otherType => refused .transactionRepliedWithWrongType
    | .unreadable text => refused (.jsonParseFailed text)
    | .art artMsg => if artMsg.errCode ≠ "0" then (artMsg, some .acOperationFailed) else (artMsg, none)

/-- No error has the code of success. -/
theorem refused_iff (e : OpenError) {P : Prop} (hP : ¬ P) :
    ((refused e).2 = none ↔ P) ∧ ((refused e).1.errCode = "0" ↔ P) := by
  have hcode : e.code ≠ "0" := by cases e <;> simp [OpenError.code]
  exact ⟨iff_of_false nofun hP, iff_of_false hcode hP⟩

/-- An operation returns without an error, and with the code of success, exactly when it opens the resource. -/
theorem Outcome.answer_iff (o : Outcome) :
    (o.answer.2 = none ↔ o.Succeeds) ∧ (o.answer.1.errCode = "0" ↔ o.Succeeds) := by
  obtain ⟨found, running, reply⟩ := o
  cases found with
  | false => exact refused_iff .acConnectionNotFound fun h => Bool.false_ne_true h.1
  | true =>
    cases running with
    | false => exact refused_iff .packetToMessageRoutineStopped fun h => Bool.false_ne_true h.2.1
    | true =>
      cases reply with
      | failed text => exact refused_iff (.serverACOpsFailed text) (by rintro ⟨-, -, artMsg, ⟨⟩, -⟩)
      | otherType => exact refused_iff .transactionRepliedWithWrongType (by rintro ⟨-, -, artMsg, ⟨⟩, -⟩)
      | unreadable text => exact refused_iff (.jsonParseFailed text) (by rintro ⟨-, -, artMsg, ⟨⟩, -⟩)
      | art artMsg =>
        have hsucceeds : Outcome.Succeeds ⟨true, true, .art artMsg⟩ ↔ artMsg.errCode = "0" := by
          constructor
          · rintro ⟨-, -, artMsg', hreply, hcode⟩
            cases hreply
            exact hcode
          · intro hcode
            exact ⟨rfl, rfl, artMsg, rfl, hcode⟩
        rw [hsucceeds]
        by_cases hcode : artMsg.errCode = "0"
        · simp [Outcome.answer, hcode]
        · simp [Outcome.answer, hcode]

section Gathering

variable (s : AcServer) (outcome : String → Outcome) {hasPeer : String → Bool} (knkMsg : AgentKnockMsg)
  (srcAddr : NetAddress) (res : ResourceData)

/-- With a peer behind the connection the goroutine returns what the access controller answered. -/
theorem result_eq {name : String} (hpeer : ¬ Peerless outcome hasPeer name) (info : ResourceInfo) :
    result s outcome hasPeer knkMsg srcAddr res name info = .ok (outcome name).answer := by
  rw [result, if_neg hpeer]
  unfold openResource Outcome.answer Outcome.server
  cases (outcome name).found with
  | false => rfl
  | true =>
    cases (outcome name).running with
    | false => rfl
    | true => rfl

/-- The entry that a resource of the group has in one of the maps. -/
def entry {β : Type} (f : ResourceInfo → ACOpsResultMsg × Option OpenError → Option β) (name : String) :
    Option β :=
  (res.resources.lookup name).bind fun info => f info (outcome name).answer

/-- An entry that only an operation without an error leaves. -/
def ifOpened {β : Type} (f : ResourceInfo → ACOpsResultMsg → β) (info : ResourceInfo)
    (r : ACOpsResultMsg × Option OpenError) : Option β :=
  if r.2.isNone then some (f info r.1) else none

/-- What a resource leaves in the map of answers: its answer, whatever it says. -/
def artMsgEntry : String → Option ACOpsResultMsg := entry outcome res fun _ r => some r.1
/-- In the map of hosts, only a resource that was opened leaves something. -/
def hostEntry : String → Option String := entry outcome res (ifOpened fun info _ => info.destHost)
/-- The same in the map of tokens. -/
def tokenEntry : String → Option String := entry outcome res (ifOpened fun _ artMsg => artMsg.acToken)
/-- The same in the map of pre-access actions. -/
def preAccessEntry : String → Option (Option PreAccessInfo) :=
  entry outcome res (ifOpened fun _ artMsg => artMsg.preAccessAction)

variable (hpeers : ∀ name ∈ res.resources, ¬ Peerless outcome hasPeer name)

include hpeers in
/-- A goroutine leaves its entry in each of the maps. -/
theorem write_eq (name : String) (m : Shared) :
    write s outcome hasPeer knkMsg srcAddr res name m = {
      artMsgs := FanOut.put (artMsgEntry outcome res) name m.artMsgs
      resourceHost := FanOut.put (hostEntry outcome res) name m.resourceHost
      acTokens := FanOut.put (tokenEntry outcome res) name m.acTokens
      preAccessActions := FanOut.put (preAccessEntry outcome res) name m.preAccessActions
      panicked := m.panicked } := by
  simp only [write, FanOut.put, artMsgEntry, hostEntry, tokenEntry, preAccessEntry, entry, ifOpened]
  cases hinfo : res.resources.lookup name with
  | none => rfl
  | some info =>
    have hmem : name ∈ res.resources := AList.lookup_isSome.mp (Option.isSome_of_eq_some hinfo)
    dsimp only
    rw [result_eq s outcome knkMsg srcAddr res (hpeers name hmem)]
    obtain ⟨artMsg, err⟩ := (outcome name).answer
    cases err <;> rfl

include hpeers in
/-- Two goroutines may end in either order: they write to different names, or the same twice. -/
theorem write_comm (name name' : String) (m : Shared) :
    write s outcome hasPeer knkMsg srcAddr res name (write s outcome hasPeer knkMsg srcAddr res name' m) =
      write s outcome hasPeer knkMsg srcAddr res name' (write s outcome hasPeer knkMsg srcAddr res name m) := by
  simp only [write_eq s outcome knkMsg srcAddr res hpeers]
  rw [FanOut.put_comm (artMsgEntry outcome res), FanOut.put_comm (hostEntry outcome res),
    FanOut.put_comm (tokenEntry outcome res), FanOut.put_comm (preAccessEntry outcome res)]

include hpeers in
/-- The four maps are filled independently of one another. -/
theorem foldr_write (names : List String) :
    names.foldr (write s outcome hasPeer knkMsg srcAddr res) {} = {
      artMsgs := names.foldr (FanOut.put (artMsgEntry outcome res)) ∅
      resourceHost := names.foldr (FanOut.put (hostEntry outcome res)) ∅
      acTokens := names.foldr (FanOut.put (tokenEntry outcome res)) ∅
      preAccessActions := names.foldr (FanOut.put (preAccessEntry outcome res)) ∅ } := by
  induction names with
  | nil => rfl
  | cons name names ih =>
    rw [List.foldr_cons, ih, write_eq s outcome knkMsg srcAddr res hpeers]
    rfl

variable {outcome res}

/-- The map of a kind of entry. -/
theorem lookup_keys {β : Type} (f : ResourceInfo → ACOpsResultMsg × Option OpenError → Option β)
    (name : String) :
    (res.resources.keys.foldr (FanOut.put (entry outcome res f)) ∅).lookup name = entry outcome res f name := by
  rw [FanOut.lookup_foldr_put]
  split_ifs with hname
  · rfl
  · rw [entry, AList.lookup_eq_none.mpr fun hmem => hname (AList.mem_keys.mp hmem)]
    rfl

/-- A resource has an entry exactly when it was opened. -/
theorem ifOpened_iff {β : Type} (f : ResourceInfo → ACOpsResultMsg → β) (name : String) :
    (entry outcome res (ifOpened f) name).isSome ↔ Opened outcome res name := by
  rw [entry, Opened, ← AList.lookup_isSome, ← (outcome name).answer_iff.1]
  cases res.resources.lookup name with
  | none => simp
  | some info =>
    obtain ⟨artMsg, err⟩ := (outcome name).answer
    cases err <;> simp [ifOpened]

end Gathering

/-! ## Both paths -/

section Agreement

variable (outcome : String → Outcome) (res : ResourceData)

/-- The maps that every order of the goroutines leaves, on both paths. -/
def gathered : Shared where
  artMsgs := res.resources.keys.foldr (FanOut.put (artMsgEntry outcome res)) ∅
  resourceHost := res.resources.keys.foldr (FanOut.put (hostEntry outcome res)) ∅
  acTokens := res.resources.keys.foldr (FanOut.put (tokenEntry outcome res)) ∅
  preAccessActions := res.resources.keys.foldr (FanOut.put (preAccessEntry outcome res)) ∅

variable {outcome res}

/-- Where nobody panics, one outcome is possible, whatever the order. -/
theorem collected_iff {hasPeer : String → Bool} (hpeers : ∀ name ∈ res.resources, ¬ Peerless outcome hasPeer name)
    {s : AcServer} {knkMsg : AgentKnockMsg} {srcAddr : NetAddress} {m : Shared} :
    Collected s outcome hasPeer knkMsg srcAddr res m ↔ m = gathered outcome res := by
  rw [Collected, FanOut.collects_iff (write_comm s outcome knkMsg srcAddr res hpeers),
    foldr_write s outcome knkMsg srcAddr res hpeers]
  rfl

/-- A connected access controller without a peer makes its goroutine panic, whatever the order is. -/
theorem panicked_of_collected {hasPeer : String → Bool} {s : AcServer} {knkMsg : AgentKnockMsg}
    {srcAddr : NetAddress} {m : Shared} (h : Collected s outcome hasPeer knkMsg srcAddr res m) {name : String}
    (hname : name ∈ res.resources) (hpeerless : Peerless outcome hasPeer name) : m.panicked = true := by
  refine h.brings (P := fun m => m.panicked = true) (AList.mem_keys.mpr hname) (fun m => ?_) fun name' m hm => ?_
  · obtain ⟨info, hinfo⟩ := Option.isSome_iff_exists.mp (AList.lookup_isSome.mpr hname)
    rw [write, hinfo]
    dsimp only
    rw [result, if_pos hpeerless]
  · unfold write
    split
    · exact hm
    · split
      · dsimp only
        split_ifs
        · exact hm
        · exact hm
      · rfl

/-- The keys of a map are the resources that were opened. -/
theorem mem_gathered {β : Type} (f : ResourceInfo → ACOpsResultMsg → β) (name : String) :
    name ∈ res.resources.keys.foldr (FanOut.put (entry outcome res (ifOpened f))) ∅ ↔
      Opened outcome res name := by
  rw [Finmap.mem_iff, ← Option.isSome_iff_exists, lookup_keys]
  exact ifOpened_iff f name

/-- Some result message has the code of success exactly when some resource was opened. -/
theorem successCount_eq_zero : (gathered outcome res).successCount = 0 ↔ ¬ ∃ name, Opened outcome res name := by
  rw [Shared.successCount, Multiset.countP_eq_zero]
  constructor
  · rintro hnone ⟨name, hname, hsucceeds⟩
    obtain ⟨info, hinfo⟩ := Option.isSome_iff_exists.mp (AList.lookup_isSome.mpr hname)
    have hentry : (gathered outcome res).artMsgs.lookup name = some (outcome name).answer.1 := by
      rw [gathered, artMsgEntry, lookup_keys, entry, hinfo]
      rfl
    have hcode := (outcome name).answer_iff.2.mpr hsucceeds
    exact hnone _ (Finmap.lookup_eq_some_iff.mp hentry) hcode
  · rintro hnone ⟨name, artMsg⟩ hmem hcode
    have hentry := Finmap.lookup_eq_some_iff.mpr hmem
    rw [gathered, artMsgEntry, lookup_keys, entry] at hentry
    obtain ⟨info, hinfo, hart⟩ := Option.bind_eq_some_iff.mp hentry
    obtain rfl := Option.some.inj hart
    refine hnone ⟨name, AList.lookup_isSome.mp (Option.isSome_of_eq_some hinfo), ?_⟩
    exact (outcome name).answer_iff.2.mp hcode

/-- The NHP path always acknowledges what was opened. -/
theorem acknowledges_nhp (req : NhpAuthRequest) :
    ∃ ack, Acknowledges outcome res (handleNhpOpenResource req (gathered outcome res)) ack := by
  rw [handleNhpOpenResource]
  split_ifs with hcount
  · have hnone := successCount_eq_zero.mp hcount
    have hcode : OpenFailure.serverACOpsFailed.code ≠ "0" := by decide
    refine ⟨_, rfl, mem_gathered _, mem_gathered _, mem_gathered _, iff_of_false hcode hnone, ?_⟩
    rintro e ⟨⟩
    rfl
  · have hsome := not_not.mp (mt successCount_eq_zero.mpr hcount)
    exact ⟨_, rfl, mem_gathered _, mem_gathered _, mem_gathered _, iff_of_true rfl hsome, nofun⟩

/-- The HTTP path returns no acknowledgement where nothing was opened. -/
theorem handleHttpOpenResource_none (req : HttpKnockRequest) (hnone : ¬ ∃ name, Opened outcome res name) :
    (handleHttpOpenResource req res (gathered outcome res)).1 = none := by
  rw [handleHttpOpenResource]
  split_ifs with hempty hcount
  · rfl
  · rfl
  · exact absurd (successCount_eq_zero.mpr hnone) hcount

/-- Where something was opened, both paths acknowledge it alike. -/
theorem pathsAgree (req : HttpKnockRequest) (nhpReq : NhpAuthRequest)
    (hsome : ∃ name, Opened outcome res name) :
    PathsAgree outcome res (.ok (handleHttpOpenResource req res (gathered outcome res)))
      (.ok (handleNhpOpenResource nhpReq (gathered outcome res))) := by
  have hcount : ¬ (gathered outcome res).successCount = 0 := fun h => successCount_eq_zero.mp h hsome
  have hkeys : ¬ res.resources.keys.length = 0 := by
    obtain ⟨name, hname, -⟩ := hsome
    intro hempty
    rw [List.length_eq_zero_iff] at hempty
    have hmem := AList.mem_keys.mp hname
    rw [hempty] at hmem
    exact absurd hmem List.not_mem_nil
  rw [handleHttpOpenResource, handleNhpOpenResource, if_neg hkeys, if_neg hcount, if_neg hcount]
  refine ⟨_, _, _, _, rfl, rfl,
    ⟨rfl, mem_gathered _, mem_gathered _, mem_gathered _, iff_of_true rfl hsome, nofun⟩,
    ⟨rfl, mem_gathered _, mem_gathered _, mem_gathered _, iff_of_true rfl hsome, nofun⟩, ?_⟩
  exact ⟨rfl, rfl, rfl, rfl, rfl⟩

/-- Where the HTTP path returns no acknowledgement, the two do not agree. -/
theorem not_pathsAgree {http : Option ServerKnockAckMsg × Option OpenFailure}
    {nhp : Go (Option ServerKnockAckMsg × Option OpenFailure)} (hnil : http.1 = none) :
    ¬ PathsAgree outcome res (.ok http) nhp := by
  rintro ⟨answer, -, ack, -, hhttp, -, ⟨hreturned, -⟩, -⟩
  obtain rfl := Go.ok.inj hhttp
  exact absurd (hnil.symm.trans hreturned) nofun

end Agreement

/-- For every order in which the goroutines of the two paths come to their ends, both acknowledge the same, and
    what was opened, exactly when a resource was opened and every connected access controller has its peer. -/
theorem open_paths_iff (s s' : AcServer) (outcome : String → Outcome) (hasPeer : String → Bool)
    (res : ResourceData) (req : HttpKnockRequest) (nhpReq : NhpAuthRequest) :
    (∀ m m', Collected s outcome hasPeer (req.knkMsg res) req.srcAddr res m →
      Collected s' outcome hasPeer nhpReq.msg nhpReq.srcAddr res m' →
      PathsAgree outcome res (m.returns (handleHttpOpenResource req res m))
        (m'.returns (handleNhpOpenResource nhpReq m'))) ↔
      (∃ name, Opened outcome res name) ∧ ∀ name ∈ res.resources, ¬ Peerless outcome hasPeer name := by
  constructor
  · intro hagree
    have hpeers : ∀ name ∈ res.resources, ¬ Peerless outcome hasPeer name := by
      -- a panic of one goroutine is enough for the path not to return
      intro name hname hpeerless
      obtain ⟨m, hm⟩ : ∃ m, Collected s outcome hasPeer (req.knkMsg res) req.srcAddr res m :=
        FanOut.exists_collects _ _
      obtain ⟨m', hm'⟩ : ∃ m', Collected s' outcome hasPeer nhpReq.msg nhpReq.srcAddr res m' :=
        FanOut.exists_collects _ _
      obtain ⟨answer, -, -, -, hhttp, -⟩ := hagree m m' hm hm'
      rw [Shared.returns, if_pos (panicked_of_collected hm hname hpeerless)] at hhttp
      cases hhttp
    refine ⟨?_, hpeers⟩
    by_contra hnone
    exact not_pathsAgree (handleHttpOpenResource_none req hnone)
      (hagree _ _ ((collected_iff hpeers).mpr rfl) ((collected_iff hpeers).mpr rfl))
  · rintro ⟨hsome, hpeers⟩ m m' hm hm'
    rw [(collected_iff hpeers).mp hm, (collected_iff hpeers).mp hm']
    exact pathsAgree req nhpReq hsome

/-- A group with one resource. -/
def webGroup : ResourceData where
  resourceId := "web"
  openTime := 60
  resources := AList.singleton "web" { acId := "ac", addr := webAddr }

/-- The access controller is not connected. -/
def unconnected : Outcome where
  found := false
  running := true
  reply := .art { errCode := "0" }

/-- A request of the web console for the group `webGroup`. -/
def webRequest : HttpKnockRequest := ⟨"user", "device", "", "service", "", "open", "10.0.0.7"⟩

/-- The same knock as an agent sends it. -/
def webNhpRequest : NhpAuthRequest := ⟨openingKnock .knk, {}, agentAddr⟩

/-- Without a connected access controller the HTTP path returns no acknowledgement, and the NHP path one with
    the code of the failure. -/
theorem http_returns_nil :
    (handleHttpOpenResource webRequest webGroup (gathered (fun _ => unconnected) webGroup)).1 = none ∧
      (handleNhpOpenResource webNhpRequest (gathered (fun _ => unconnected) webGroup)).1.map (·.errCode) =
        some "52005" ∧
      Collected openingServer (fun _ => unconnected) (fun _ => true) (webRequest.knkMsg webGroup)
        webRequest.srcAddr webGroup (gathered (fun _ => unconnected) webGroup) ∧
      ¬ PathsAgree (fun _ => unconnected) webGroup
        (.ok (handleHttpOpenResource webRequest webGroup (gathered (fun _ => unconnected) webGroup)))
        (.ok (handleNhpOpenResource webNhpRequest (gathered (fun _ => unconnected) webGroup))) := by
  have hnone : ¬ ∃ name, Opened (fun _ => unconnected) webGroup name := by
    rintro ⟨name, -, hfound, -⟩
    exact Bool.false_ne_true hfound
  have hpeers : ∀ name ∈ webGroup.resources, ¬ Peerless (fun _ => unconnected) (fun _ => true) name :=
    fun name _ hpeerless => Bool.false_ne_true hpeerless.1
  have hnil := handleHttpOpenResource_none webRequest hnone
  exact ⟨hnil, rfl, (collected_iff hpeers).mpr rfl, not_pathsAgree hnil⟩

end OpenNHP.Server.OpenPaths
