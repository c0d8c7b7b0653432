/-
  Access to data objects at the agent (`StartConfidentialComputing` and what it calls in
  `endpoints/agent/udpagent.go`; `CallFunction` in `endpoints/agent/ta.go`).

  THE PROGRAM.  A call runs a function of a trusted application on a data object.  It goes on at once if access to
  the object was granted in the last 15 seconds and the object has been decrypted; if not, it takes the mutex,
  looks again, and asks for access: with a DAR for the policy of the object, and with a DAV, which has the
  evidence that the policy collected, for its key.  Calls come from any goroutine, and only the refresh has the
  mutex.

  THE SPECIFICATION.
  1. A trusted application gets the path of a file that has the plaintext of the object the call is for, whatever
     path the caller gave, and access to this object was granted within 15 seconds of the look (`data_access`).
  2. What it returns goes through the engine of the policy that is in the table at that time, and passes as it is
     if there is none.  So the answers of an object are those of its policy where its calls follow one another and
     no other object has its policy (`data_postprocess`); where they do not, a refresh may take the engine away
     just then.

  THE CRUX.  The four tables of the agent are written one after another and read by calls that have no mutex.  For
  the first statement, what a call has in its hands was right when it took it and stays right, for grants and
  decrypted files only grow (`Grows`).  For the second, an object is at every moment stale, or armed with its own
  engine (`Consistent`), or in the hands of the call that has the mutex (`Guards`); a step for one object leaves
  the others as they were (`Same`).

  ASSEMBLY.  `Moves` says once what a step can do.  `sound` and `guarded` are the two invariants in the form for
  any number of calls; `sound_kept` and `guarded_kept` carry them through a run.

  `PreCheckDataAccess` reads its two maps in one step here.  What a failed decryption has written to its file is
  left out: no record leads to this file.
-/
import OpenNHP.DB.DataRelease
import OpenNHP.Lib.Threads

namespace OpenNHP.Agent.DataAccess

open BigEndian

/-- `SmartDataPolicyRefreshTime`, in nanoseconds. -/
def smartDataPolicyRefreshTime : Int := 15 * 1000000000

/-- `ErrTEENotAuthorized`. -/
def teeNotAuthorizedCode : Int := 55001

/-! ## Messages -/

/-- `SmartPolicy`. -/
structure SmartPolicy where
  policyId : String
  policy : String
  deriving DecidableEq, Repr

/-- The answer to a DAR: the policy of the object. -/
structure DSAMsg where
  doId : Bytes
  spoId : String
  spo : Option SmartPolicy
  errCode : Int
  errMsg : String
  deriving DecidableEq, Repr

/-- The request for its key, with the evidence. -/
structure DAVMsg where
  doId : Bytes
  spoId : String
  evidence : String
  deriving DecidableEq, Repr

/-- `kao` stands for the fields the data is opened with: the wrapped key and the access URL. -/
structure DAGMsg (K : Type) where
  doId : Bytes
  kao : K
  errCode : Int
  errMsg : String
  deriving DecidableEq, Repr

/-- What became of a request. -/
inductive Reply (M : Type)
  /-- There is no server, or it has no address: a panic. -/
  | noServer
  /-- The agent is not running: the message that is returned is `nil`. -/
  | notRunning
  /-- No answer, one of another type or one that is no JSON, with what was parsed of it. -/
  | failed (m : M)
  | message (m : M)
  deriving DecidableEq, Repr

/-- Whether the answer is a success, with the message; `none` leads to a panic. -/
def Reply.result {M : Type} (errCode : M → Int) : Reply M → Option (Bool × M)
  | noServer | notRunning => none
  | failed m => some (false, m)
  | message m => some (errCode m = 0, m)

/-! ## Calls -/

/-- A parameter of a call, as far as it matters. -/
inductive Json
  | string (s : String)
  | other (text : String)
  deriving DecidableEq, Repr

/-- The parameters by their names. -/
abbrev Params := AList fun _ : String => Json

/-- The errors of a call, with their texts. -/
inductive Error
  /-- "Failed to refresh SDP: %s" -/
  | refresh (err : String)
  /-- "Error: fail to find policyId for ztdoId %s.\n" -/
  | noPolicy (ztdoId : Bytes)
  /-- "fail to call trusted application with error: %s\n" -/
  | trustedApplication (err : String)
  /-- "fail to unmarshal confidential computing result: %s\n" -/
  | unmarshal (err : String)
  deriving DecidableEq, Repr

/-- What a call returns. -/
inductive Result
  /-- A text that went through an engine, or through none. -/
  | answer (engine : Option Nat) (text : String)
  | error (e : Error)
  | panicked
  deriving DecidableEq, Repr

/-- What `PreCheckDataAccess` found of an object. -/
structure Found where
  decrypted : Bool
  output : String
  deriving DecidableEq, Repr

/-- Where a call is, with what it has in its hands. -/
inductive Phase (K : Type)
  /-- before `PreCheckDataAccess` -/
  | check
  | lock
  /-- before the second one, with the mutex -/
  | recheck
  /-- until the DSA -/
  | dar (found : Found)
  | clear (found : Found) (dsaMsg : DSAMsg)
  | identify (found : Found) (dsaMsg : DSAMsg)
  /-- `onAttestationCollect` -/
  | collect (found : Found) (dsaMsg : DSAMsg) (spo : SmartPolicy)
  | attest (found : Found) (dsaMsg : DSAMsg)
  /-- until the DAG -/
  | dav (found : Found) (davMsg : DAVMsg)
  | temp (kao : K) (granted : Int)
  | fetch (kao : K) (granted : Int) (output : String)
  /-- behind the refresh or without one; `checked` is the time of the look, or of the grant -/
  | lookUp (output : String) (checked : Int)
  | enter (checked : Int) (policyId : String)
  | calling (policyId : String)
  | returned (policyId : String) (taRes : String)
  | processing (engine : Nat) (taRes : String)
  | unmarshal (engine : Option Nat) (text : String)
  | ended (result : Result)
  deriving DecidableEq, Repr

namespace Phase

variable {K : Type}

/-- In `RefreshDataAccess`, or about to look again. -/
def refreshes : Phase K → Bool
  | recheck | dar _ | clear _ _ | identify _ _ | collect _ _ _ | attest _ _ | dav _ _ | temp _ _ | fetch _ _ _ => true
  | _ => false

/-- The call has returned. -/
def isEnded : Phase K → Bool
  | ended _ => true
  | _ => false

end Phase

/-- A call: what it is for, and where it is. -/
structure Call (K : Type) where
  ztdoId : Bytes
  taId : String
  function : String
  params : Params
  phase : Phase K

/-! ## The agent -/

/-- The engine of a policy, which may have been closed. -/
structure Engine where
  spo : SmartPolicy
  closed : Bool
  deriving DecidableEq, Repr

/-- Access that a DAG gave. -/
structure Grant (K : Type) where
  ztdoId : Bytes
  time : Int
  kao : K

/-- A call of a trusted application. -/
structure TaCall where
  ztdoId : Bytes
  taId : String
  function : String
  params : Params
  checked : Int

/-- The agent, as far as calls share it. -/
structure UdpAgent (K : Type) where
  now : Int
  /-- every engine there has been -/
  engines : List Engine
  smartPolicyEngine : AList fun _ : String => Nat
  decryptedZtdoRecord : AList fun _ : Bytes => String
  smartPolicyIdentifier : AList fun _ : Bytes => String
  smartDataPolicyRefreshTime : AList fun _ : Bytes => Int
  /-- the call that has it -/
  dataAccessRefreshMutex : Option Nat
  trustedByNHPDB : Bool
  /-- the temporary files, empty or with a plaintext -/
  files : AList fun _ : String => Option Bytes
  /-- what was granted, what policies objects have been given, and what was called -/
  grants : List (Grant K)
  policies : AList fun _ : Bytes => SmartPolicy
  taCalls : List TaCall

namespace UdpAgent

variable {K : Type} (a : UdpAgent K)

/-- An agent that has been started. -/
def start (now : Int) : UdpAgent K where
  now
  engines := []
  smartPolicyEngine := ∅
  decryptedZtdoRecord := ∅
  smartPolicyIdentifier := ∅
  smartDataPolicyRefreshTime := ∅
  dataAccessRefreshMutex := none
  trustedByNHPDB := false
  files := ∅
  grants := []
  policies := ∅
  taCalls := []

/-- Access to an object was granted some time ago, or has not been. -/
def expired (ztdoId : Bytes) : Bool :=
  match a.smartDataPolicyRefreshTime.lookup ztdoId with
  | some sdpRefreshTime => a.now - sdpRefreshTime > DataAccess.smartDataPolicyRefreshTime
  | none => true

/-- `PreCheckDataAccess`: whether to refresh, and what is known of the object. -/
def preCheckDataAccess (ztdoId : Bytes) : Bool × Found :=
  match a.decryptedZtdoRecord.lookup ztdoId with
  | some plaintextPath => (a.expired ztdoId, ⟨true, plaintextPath⟩)
  | none => (true, ⟨false, ""⟩)

/-- The mutex is unlocked when the call that has it returns or panics. -/
def release (i : Nat) : UdpAgent K :=
  { a with dataAccessRefreshMutex := if a.dataAccessRefreshMutex = some i then none else a.dataAccessRefreshMutex }

/-- `Close` of the engine of a policy, if it has one. -/
def closeEngine (spoId : String) : List Engine :=
  match a.smartPolicyEngine.lookup spoId with
  | some n => a.engines.modify n fun engine => { engine with closed := true }
  | none => a.engines

/-- What belongs to the old policy of an object goes. -/
def clear (doId : Bytes) : UdpAgent K :=
  match a.smartPolicyIdentifier.lookup doId with
  | none => a
  | some spoId =>
    { a with
      engines := a.closeEngine spoId
      smartPolicyEngine := a.smartPolicyEngine.erase spoId
      smartPolicyIdentifier := a.smartPolicyIdentifier.erase doId }

/-- The object's policy is written down. -/
def identify (doId : Bytes) (spo : SmartPolicy) : UdpAgent K :=
  { a with
    smartPolicyIdentifier := a.smartPolicyIdentifier.insert doId spo.policyId
    policies := a.policies.insert doId spo }

/-- A new engine takes the place of the policy's last one. -/
def register (spo : SmartPolicy) : UdpAgent K :=
  { a with
    engines := a.engines ++ [⟨spo, false⟩]
    smartPolicyEngine := a.smartPolicyEngine.insert spo.policyId a.engines.length }

/-- Access is granted, from now on. -/
def grant (ztdoId : Bytes) (kao : K) : UdpAgent K :=
  { a with
    trustedByNHPDB := true
    smartDataPolicyRefreshTime := a.smartDataPolicyRefreshTime.insert ztdoId a.now
    grants := ⟨ztdoId, a.now, kao⟩ :: a.grants }

/-- A temporary file is there. -/
def createTemp (path : String) : UdpAgent K := { a with files := a.files.insert path none }

/-- It has the plaintext, and the record leads to it. -/
def decrypt (ztdoId : Bytes) (output : String) (plaintext : Bytes) : UdpAgent K :=
  { a with
    files := a.files.insert output (some plaintext)
    decryptedZtdoRecord := a.decryptedZtdoRecord.insert ztdoId output }

/-- The trusted application is called. -/
def enter (taCall : TaCall) : UdpAgent K := { a with taCalls := taCall :: a.taCalls }

/-- `Start` makes the maps anew. -/
def restart : UdpAgent K :=
  { a with
    smartPolicyEngine := ∅
    decryptedZtdoRecord := ∅
    smartPolicyIdentifier := ∅
    smartDataPolicyRefreshTime := ∅
    trustedByNHPDB := false }

end UdpAgent

/-! ## Steps -/

/-- What came of `GetPolicy` and `LoadWasm`. -/
inductive Loaded
  | failed (err : String)
  | panicked
  | engine
  deriving DecidableEq, Repr

/-- What a call meets on its way: the mutex, the answers of the server, the file, the application. -/
inductive Event (K D : Type)
  | preCheck
  | lock
  | dsa (reply : Reply DSAMsg)
  | clear
  | identify
  | collect (loaded : Loaded)
  /-- `OnAttestationCollect`; `none` is a panic. -/
  | attest (attestation : Option String)
  | dag (reply : Reply (DAGMsg K))
  | createTemp (path : Except String String)
  /-- The file is downloaded and opened, with what it takes. -/
  | fetch (d : D)
  | lookUp
  /-- `GetTrustedApplication`. -/
  | enter (found : Bool)
  | taReturns (r : Option (Except String String))
  | find
  /-- `OnDataPostprocess`; `none` is a panic. -/
  | postprocess (out : Option String)
  | unmarshal (err : Option String)
  deriving DecidableEq, Repr

/-- What goes on beside the calls. -/
inductive Outside
  | clock (now : Int)
  | restart
  deriving DecidableEq, Repr

section

variable {K D : Type}

/-- A call returns or panics. -/
def Call.ends (c : Call K) (a : UdpAgent K) (i : Nat) (result : Result) : UdpAgent K × Call K :=
  (a.release i, { c with phase := .ended result })

/-- The other branch of `RefreshDataAccess`. -/
def Call.refused (c : Call K) (a : UdpAgent K) (i : Nat) (errCode : Int) (errMsg : String) : UdpAgent K × Call K :=
  c.ends { a with trustedByNHPDB := if errCode = teeNotAuthorizedCode then false else a.trustedByNHPDB } i
    (.error (.refresh ("Error: fail to request ztdo with error: " ++ errMsg ++ ".")))

/-- A step of a call.  `opens` takes an object from the key that was granted to its plaintext; `none` is a panic. -/
def advance (opens : Bytes → K → D → Option (Except String Bytes)) (a : UdpAgent K) (i : Nat) (c : Call K) :
    Event K D → Option (UdpAgent K × Call K)
  | .preCheck =>
    let (refreshSdp, found) := a.preCheckDataAccess c.ztdoId
    match c.phase with
    | .check => some (a, { c with phase := if refreshSdp then .lock else .lookUp found.output a.now })
    | .recheck => some (a, { c with phase := if refreshSdp then .dar found else .lookUp found.output a.now })
    | _ => none
  | .lock =>
    match c.phase with
    | .lock =>
      if a.dataAccessRefreshMutex = none then
        some ({ a with dataAccessRefreshMutex := some i }, { c with phase := .recheck })
      else none
    | _ => none
  | .dsa reply =>
    match c.phase with
    | .dar found =>
      match reply.result DSAMsg.errCode with
      | none => some (c.ends a i .panicked)
      | some (true, dsaMsg) => some (a, { c with phase := .clear found dsaMsg })
      | some (false, dsaMsg) => some (c.refused a i dsaMsg.errCode dsaMsg.errMsg)
    | _ => none
  | .clear =>
    match c.phase with
    | .clear found dsaMsg => some (a.clear dsaMsg.doId, { c with phase := .identify found dsaMsg })
    | _ => none
  | .identify =>
    match c.phase with
    | .identify found dsaMsg =>
      match dsaMsg.spo with
      | none => some (c.ends a i .panicked)
      | some spo => some (a.identify dsaMsg.doId spo, { c with phase := .collect found dsaMsg spo })
    | _ => none
  | .collect loaded =>
    match c.phase with
    | .collect found dsaMsg spo =>
      if spo.policy = "" then some (a, { c with phase := .dav found ⟨c.ztdoId, dsaMsg.spoId, ""⟩ })
      else match loaded with
        | .failed err => some (c.refused a i 1 err)
        | .panicked => some (c.ends a i .panicked)
        | .engine => some (a.register spo, { c with phase := .attest found dsaMsg })
    | _ => none
  | .attest attestation =>
    match c.phase with
    | .attest found dsaMsg =>
      match attestation with
      | none => some (c.ends a i .panicked)
      | some evidence => some (a, { c with phase := .dav found ⟨c.ztdoId, dsaMsg.spoId, evidence⟩ })
    | _ => none
  | .dag reply =>
    match c.phase with
    | .dav found _ =>
      match reply.result DAGMsg.errCode with
      | none => some (c.ends a i .panicked)
      | some (true, dagMsg) =>
        some (a.grant c.ztdoId dagMsg.kao, { c with
          phase := if found.decrypted then .lookUp found.output a.now else .temp dagMsg.kao a.now })
      | some (false, dagMsg) => some (c.refused a i dagMsg.errCode dagMsg.errMsg)
    | _ => none
  | .createTemp path =>
    match c.phase with
    | .temp kao granted =>
      match path with
      | .error err => some (c.ends a i (.error (.refresh ("Error: fail to generating temporary file path: " ++ err))))
      | .ok path =>
        -- a name that no file has
        if path ∈ a.files then none else some (a.createTemp path, { c with phase := .fetch kao granted path })
    | _ => none
  | .fetch d =>
    match c.phase with
    | .fetch kao granted output =>
      match opens c.ztdoId kao d with
      | none => some (c.ends a i .panicked)
      | some (.error err) => some (c.ends a i (.error (.refresh err)))
      | some (.ok plaintext) =>
        some (a.decrypt c.ztdoId output plaintext, { c with phase := .lookUp output granted })
    | _ => none
  | .lookUp =>
    match c.phase with
    | .lookUp output checked =>
      let params := c.params.insert "path" (.string output)
      match a.smartPolicyIdentifier.lookup c.ztdoId with
      | none => some (c.ends a i (.error (.noPolicy c.ztdoId)))
      | some policyId => some (a, { c with params, phase := .enter checked policyId })
    | _ => none
  | .enter found =>
    match c.phase with
    | .enter checked policyId =>
      if found then
        some (a.enter ⟨c.ztdoId, c.taId, c.function, c.params, checked⟩, { c with phase := .calling policyId })
      else some (c.ends a i
        (.error (.trustedApplication "TrustedApplication not found, please register first")))
    | _ => none
  | .taReturns r =>
    match c.phase with
    | .calling policyId =>
      match r with
      | none => some (c.ends a i .panicked)
      | some (.error err) => some (c.ends a i (.error (.trustedApplication err)))
      | some (.ok taRes) => some (a, { c with phase := .returned policyId taRes })
    | _ => none
  | .find =>
    match c.phase with
    | .returned policyId taRes =>
      match a.smartPolicyEngine.lookup policyId with
      | some e => some (a, { c with phase := .processing e taRes })
      | none => some (a, { c with phase := .unmarshal none taRes })
    | _ => none
  | .postprocess out =>
    match c.phase with
    | .processing e _ =>
      match out, a.engines[e]? with
      | none, _ => some (c.ends a i .panicked)
      -- nothing comes out of an engine that is closed
      | some text, some ⟨_, false⟩ => some (a, { c with phase := .unmarshal (some e) text })
      | some _, _ => none
    | _ => none
  | .unmarshal err =>
    match c.phase with
    | .unmarshal engine text =>
      match err with
      | none => some (c.ends a i (.answer engine text))
      | some err => some (c.ends a i (.error (.unmarshal err)))
    | _ => none

/-- The clock is set, or the agent starts again. -/
def outside (a : UdpAgent K) : Outside → Option (UdpAgent K)
  | .clock now => some { a with now }
  | .restart => some a.restart

/-- The agent with its calls. -/
def system (opens : Bytes → K → D → Option (Except String Bytes)) :
    Threads.System (UdpAgent K) (Call K) (Event K D) Outside where
  outside := outside
  advance := advance opens

/-- The agent and its calls. -/
abbrev State (K : Type) := Threads.State (UdpAgent K) (Call K)
/-- A call begins or takes a step, or something goes on beside them. -/
abbrev Act (K D : Type) := Threads.Act (Call K) (Event K D) Outside

def start (now : Int) : State K := ⟨.start now, []⟩

/-- A call begins before its first look. -/
def Begins (_ : State K) : Act K D → Prop
  | .begin c => c.phase = .check
  | _ => True

instance [DecidableEq K] (s : State K) : DecidablePred (Begins (D := D) s)
  | .begin c => inferInstanceAs (Decidable (c.phase = .check))
  | .outside _ | .turn _ _ => inferInstanceAs (Decidable True)

/-! ## What a step of a call does -/

/-- Every case of `advance`; `ends` has the refusals and panics of all of them. -/
inductive Moves (opens : Bytes → K → D → Option (Except String Bytes)) (a : UdpAgent K) (i : Nat) (c : Call K)
    (e : Event K D) : UdpAgent K → Call K → Prop
  | fresh (output : String) (hphase : c.phase = .check ∨ c.phase = .recheck)
      (hrecord : a.decryptedZtdoRecord.lookup c.ztdoId = some output) (hfresh : a.expired c.ztdoId = false) :
    Moves opens a i c e a { c with phase := .lookUp output a.now }
  | stale (hphase : c.phase = .check) : Moves opens a i c e a { c with phase := .lock }
  | lock (hphase : c.phase = .lock) (hfree : a.dataAccessRefreshMutex = none) :
    Moves opens a i c e { a with dataAccessRefreshMutex := some i } { c with phase := .recheck }
  | refresh (found : Found) (hphase : c.phase = .recheck)
      (hfound : found.decrypted = true → a.decryptedZtdoRecord.lookup c.ztdoId = some found.output)
      (hstale : a.decryptedZtdoRecord.lookup c.ztdoId = none ∨ a.expired c.ztdoId = true) :
    Moves opens a i c e a { c with phase := .dar found }
  | ends (trusted : Bool) (result : Result) (hphase : c.phase.isEnded = false) :
    Moves opens a i c e ({ a with trustedByNHPDB := trusted }.release i) { c with phase := .ended result }
  | dsa (found : Found) (dsaMsg : DSAMsg) (hphase : c.phase = .dar found) (he : e = .dsa (.message dsaMsg)) :
    Moves opens a i c e a { c with phase := .clear found dsaMsg }
  | clear (found : Found) (dsaMsg : DSAMsg) (hphase : c.phase = .clear found dsaMsg) :
    Moves opens a i c e (a.clear dsaMsg.doId) { c with phase := .identify found dsaMsg }
  | identify (found : Found) (dsaMsg : DSAMsg) (spo : SmartPolicy) (hphase : c.phase = .identify found dsaMsg)
      (hspo : dsaMsg.spo = some spo) :
    Moves opens a i c e (a.identify dsaMsg.doId spo) { c with phase := .collect found dsaMsg spo }
  | skip (found : Found) (dsaMsg : DSAMsg) (spo : SmartPolicy) (davMsg : DAVMsg)
      (hphase : c.phase = .collect found dsaMsg spo) (hpolicy : spo.policy = "") :
    Moves opens a i c e a { c with phase := .dav found davMsg }
  | register (found : Found) (dsaMsg : DSAMsg) (spo : SmartPolicy) (hphase : c.phase = .collect found dsaMsg spo)
      (hpolicy : spo.policy ≠ "") :
    Moves opens a i c e (a.register spo) { c with phase := .attest found dsaMsg }
  | attest (found : Found) (dsaMsg : DSAMsg) (davMsg : DAVMsg) (hphase : c.phase = .attest found dsaMsg) :
    Moves opens a i c e a { c with phase := .dav found davMsg }
  | renew (found : Found) (davMsg : DAVMsg) (kao : K) (hphase : c.phase = .dav found davMsg)
      (hdecrypted : found.decrypted = true) :
    Moves opens a i c e (a.grant c.ztdoId kao) { c with phase := .lookUp found.output a.now }
  | grant (found : Found) (davMsg : DAVMsg) (kao : K) (hphase : c.phase = .dav found davMsg) :
    Moves opens a i c e (a.grant c.ztdoId kao) { c with phase := .temp kao a.now }
  | createTemp (kao : K) (granted : Int) (path : String) (hphase : c.phase = .temp kao granted)
      (hfree : path ∉ a.files) :
    Moves opens a i c e (a.createTemp path) { c with phase := .fetch kao granted path }
  | decrypt (kao : K) (granted : Int) (output : String) (d : D) (plaintext : Bytes)
      (hphase : c.phase = .fetch kao granted output) (hopens : opens c.ztdoId kao d = some (.ok plaintext)) :
    Moves opens a i c e (a.decrypt c.ztdoId output plaintext) { c with phase := .lookUp output granted }
  | lookUp (output : String) (checked : Int) (policyId : String) (hphase : c.phase = .lookUp output checked)
      (hpolicy : a.smartPolicyIdentifier.lookup c.ztdoId = some policyId) :
    Moves opens a i c e a
      { c with params := c.params.insert "path" (.string output), phase := .enter checked policyId }
  | enter (checked : Int) (policyId : String) (hphase : c.phase = .enter checked policyId) :
    Moves opens a i c e (a.enter ⟨c.ztdoId, c.taId, c.function, c.params, checked⟩)
      { c with phase := .calling policyId }
  | returned (policyId taRes : String) (hphase : c.phase = .calling policyId) :
    Moves opens a i c e a { c with phase := .returned policyId taRes }
  | found (policyId taRes : String) (n : Nat) (hphase : c.phase = .returned policyId taRes)
      (hengine : a.smartPolicyEngine.lookup policyId = some n) :
    Moves opens a i c e a { c with phase := .processing n taRes }
  | missing (policyId taRes : String) (hphase : c.phase = .returned policyId taRes)
      (hengine : a.smartPolicyEngine.lookup policyId = none) :
    Moves opens a i c e a { c with phase := .unmarshal none taRes }
  | postprocess (n : Nat) (taRes text : String) (spo : SmartPolicy) (hphase : c.phase = .processing n taRes)
      (hengine : a.engines[n]? = some ⟨spo, false⟩) :
    Moves opens a i c e a { c with phase := .unmarshal (some n) text }

variable {opens : Bytes → K → D → Option (Except String Bytes)} {a a' : UdpAgent K} {i : Nat} {c c' : Call K}
  {e : Event K D}

/-- A reply that counts as one is a message. -/
theorem message_of_result {M : Type} {errCode : M → Int} {reply : Reply M} {m : M}
    (h : reply.result errCode = some (true, m)) : reply = .message m := by
  cases reply with
  | noServer | notRunning => cases h
  | failed m' => exact absurd (congrArg Prod.fst (Option.some.inj h)) Bool.false_ne_true
  | message m' => exact congrArg Reply.message (congrArg Prod.snd (Option.some.inj h))

/-- A call that returns gives the mutex back if it has it, -/
theorem moves_ends (result : Result) (hphase : c.phase.isEnded = false) :
    Moves opens a i c e (c.ends a i result).1 (c.ends a i result).2 :=
  .ends a.trustedByNHPDB result hphase

/-- and so does one that is refused. -/
theorem moves_refused (errCode : Int) (errMsg : String) (hphase : c.phase.isEnded = false) :
    Moves opens a i c e (c.refused a i errCode errMsg).1 (c.refused a i errCode errMsg).2 :=
  .ends _ _ hphase

/-- What `PreCheckDataAccess` says. -/
theorem preCheck_cases (ztdoId : Bytes) :
    (∃ output, a.preCheckDataAccess ztdoId = (false, ⟨true, output⟩) ∧
      a.decryptedZtdoRecord.lookup ztdoId = some output ∧ a.expired ztdoId = false) ∨
    ∃ found, a.preCheckDataAccess ztdoId = (true, found) ∧
      (found.decrypted = true → a.decryptedZtdoRecord.lookup ztdoId = some found.output) ∧
      (a.decryptedZtdoRecord.lookup ztdoId = none ∨ a.expired ztdoId = true) := by
  unfold UdpAgent.preCheckDataAccess
  cases hrecord : a.decryptedZtdoRecord.lookup ztdoId with
  | none => exact .inr ⟨_, rfl, (fun h => by cases h), .inl rfl⟩
  | some output =>
    cases hexpired : a.expired ztdoId with
    | false => exact .inl ⟨output, rfl, rfl, rfl⟩
    | true => exact .inr ⟨_, rfl, fun _ => rfl, .inr rfl⟩

/-- Each step is one of `Moves`. -/
theorem moves_of_advance (h : advance opens a i c e = some (a', c')) : Moves opens a i c e a' c' := by
  have hended : ∀ {phase : Phase K}, c.phase = phase → phase.isEnded = false → c.phase.isEnded = false :=
    fun h h' => by rw [h, h']
  cases e with
  -- The pre-check is made twice, before the mutex and behind it; a record that is there and fresh ends both.
  | preCheck =>
    simp only [advance] at h
    split at h
    · rename_i hphase
      obtain ⟨rfl, rfl⟩ := Prod.mk.inj (Option.some.inj h)
      rcases preCheck_cases (a := a) c.ztdoId with ⟨output, hpre, hrecord, hfresh⟩ | ⟨found, hpre, -, -⟩
      · rw [hpre]
        exact .fresh output (.inl hphase) hrecord hfresh
      · rw [hpre]
        exact .stale hphase
    · rename_i hphase
      obtain ⟨rfl, rfl⟩ := Prod.mk.inj (Option.some.inj h)
      rcases preCheck_cases (a := a) c.ztdoId with ⟨output, hpre, hrecord, hfresh⟩ | ⟨found, hpre, hfound, hstale⟩
      · rw [hpre]
        exact .fresh output (.inr hphase) hrecord hfresh
      · rw [hpre]
        exact .refresh found hphase hfound hstale
    · cases h
  | lock =>
    simp only [advance] at h
    split at h
    · rename_i hphase
      split at h
      · rename_i hfree
        obtain ⟨rfl, rfl⟩ := Prod.mk.inj (Option.some.inj h)
        exact .lock hphase hfree
      · cases h
    · cases h
  -- From here on an error ends the call, with what it returns, and anything else is the next phase.
  | dsa reply =>
    simp only [advance] at h
    split at h
    · rename_i found hphase
      split at h
      all_goals obtain ⟨rfl, rfl⟩ := Prod.mk.inj (Option.some.inj h)
      · exact moves_ends _ (hended hphase rfl)
      · rename_i hreply
        exact .dsa found _ hphase (congrArg Event.dsa (message_of_result hreply))
      · exact moves_refused _ _ (hended hphase rfl)
    · cases h
  | clear =>
    simp only [advance] at h
    split at h
    · rename_i found dsaMsg hphase
      obtain ⟨rfl, rfl⟩ := Prod.mk.inj (Option.some.inj h)
      exact .clear found dsaMsg hphase
    · cases h
  | identify =>
    simp only [advance] at h
    split at h
    · rename_i found dsaMsg hphase
      split at h
      all_goals obtain ⟨rfl, rfl⟩ := Prod.mk.inj (Option.some.inj h)
      · exact moves_ends _ (hended hphase rfl)
      · rename_i hspo
        exact .identify found dsaMsg _ hphase hspo
    · cases h
  -- Without a policy there is no engine to load, and nothing is attested.
  | collect loaded =>
    simp only [advance] at h
    split at h
    · rename_i found dsaMsg spo hphase
      split at h
      · rename_i hpolicy
        obtain ⟨rfl, rfl⟩ := Prod.mk.inj (Option.some.inj h)
        exact .skip found dsaMsg spo _ hphase hpolicy
      · rename_i hpolicy
        split at h
        all_goals obtain ⟨rfl, rfl⟩ := Prod.mk.inj (Option.some.inj h)
        · exact moves_refused _ _ (hended hphase rfl)
        · exact moves_ends _ (hended hphase rfl)
        · exact .register found dsaMsg spo hphase hpolicy
    · cases h
  | attest attestation =>
    simp only [advance] at h
    split at h
    · rename_i found dsaMsg hphase
      split at h
      all_goals obtain ⟨rfl, rfl⟩ := Prod.mk.inj (Option.some.inj h)
      · exact moves_ends _ (hended hphase rfl)
      · exact .attest found dsaMsg _ hphase
    · cases h
  | dag reply =>
    simp only [advance] at h
    split at h
    · rename_i found davMsg hphase
      split at h
      all_goals obtain ⟨rfl, rfl⟩ := Prod.mk.inj (Option.some.inj h)
      · exact moves_ends _ (hended hphase rfl)
      -- An object that was decrypted before is not fetched again: its record alone is renewed.
      · cases hdecrypted : found.decrypted with
        | true => exact .renew found davMsg _ hphase hdecrypted
        | false => exact .grant found davMsg _ hphase
      · exact moves_refused _ _ (hended hphase rfl)
    · cases h
  | createTemp path =>
    simp only [advance] at h
    split at h
    · rename_i kao granted hphase
      split at h
      · obtain ⟨rfl, rfl⟩ := Prod.mk.inj (Option.some.inj h)
        exact moves_ends _ (hended hphase rfl)
      · split at h
        · cases h
        · rename_i hfree
          obtain ⟨rfl, rfl⟩ := Prod.mk.inj (Option.some.inj h)
          exact .createTemp kao granted _ hphase hfree
    · cases h
  | fetch d =>
    simp only [advance] at h
    split at h
    · rename_i kao granted output hphase
      split at h
      all_goals obtain ⟨rfl, rfl⟩ := Prod.mk.inj (Option.some.inj h)
      · exact moves_ends _ (hended hphase rfl)
      · exact moves_ends _ (hended hphase rfl)
      · rename_i hopens
        exact .decrypt kao granted output d _ hphase hopens
    · cases h
  | lookUp =>
    simp only [advance] at h
    split at h
    · rename_i output checked hphase
      split at h
      all_goals obtain ⟨rfl, rfl⟩ := Prod.mk.inj (Option.some.inj h)
      · exact moves_ends _ (hended hphase rfl)
      · rename_i hpolicy
        exact .lookUp output checked _ hphase hpolicy
    · cases h
  | enter found =>
    simp only [advance] at h
    split at h
    · rename_i checked policyId hphase
      split at h
      all_goals obtain ⟨rfl, rfl⟩ := Prod.mk.inj (Option.some.inj h)
      · exact .enter checked policyId hphase
      · exact moves_ends _ (hended hphase rfl)
    · cases h
  | taReturns r =>
    simp only [advance] at h
    split at h
    · rename_i policyId hphase
      split at h
      all_goals obtain ⟨rfl, rfl⟩ := Prod.mk.inj (Option.some.inj h)
      · exact moves_ends _ (hended hphase rfl)
      · exact moves_ends _ (hended hphase rfl)
      · exact .returned policyId _ hphase
    · cases h
  -- The engine is looked up a second time: a restart may have taken it in between.
  | find =>
    simp only [advance] at h
    split at h
    · rename_i policyId taRes hphase
      split at h
      all_goals obtain ⟨rfl, rfl⟩ := Prod.mk.inj (Option.some.inj h)
      · rename_i hengine
        exact .found policyId taRes _ hphase hengine
      · rename_i hengine
        exact .missing policyId taRes hphase hengine
    · cases h
  | postprocess out =>
    simp only [advance] at h
    split at h
    · rename_i n taRes hphase
      split at h
      · obtain ⟨rfl, rfl⟩ := Prod.mk.inj (Option.some.inj h)
        exact moves_ends _ (hended hphase rfl)
      · rename_i hengine
        obtain ⟨rfl, rfl⟩ := Prod.mk.inj (Option.some.inj h)
        exact .postprocess n taRes _ _ hphase hengine
      · cases h
    · cases h
  | unmarshal err =>
    simp only [advance] at h
    split at h
    · rename_i engine text hphase
      split at h
      all_goals obtain ⟨rfl, rfl⟩ := Prod.mk.inj (Option.some.inj h)
      · exact moves_ends _ (hended hphase rfl)
      · exact moves_ends _ (hended hphase rfl)
    · cases h

/-! ## What a call relies on -/

variable (opens) in
/-- The file has the plaintext of the object, opened with what a DAG for this object gave. -/
def UdpAgent.HasData (a : UdpAgent K) (ztdoId : Bytes) (path : String) : Prop :=
  ∃ g ∈ a.grants, g.ztdoId = ztdoId ∧ ∃ d plaintext,
    opens ztdoId g.kao d = some (.ok plaintext) ∧ a.files.lookup path = some (some plaintext)

/-- Access to the object was granted in the 15 seconds before. -/
def UdpAgent.Timely (a : UdpAgent K) (ztdoId : Bytes) (checked : Int) : Prop :=
  ∃ g ∈ a.grants, g.ztdoId = ztdoId ∧ checked - g.time ≤ DataAccess.smartDataPolicyRefreshTime

variable (opens) in
/-- A trusted application was given the data of the object, and access to it had been granted. -/
structure UdpAgent.Granted (a : UdpAgent K) (t : TaCall) : Prop where
  path : ∃ path, t.params.lookup "path" = some (.string path) ∧ a.HasData opens t.ztdoId path
  timely : a.Timely t.ztdoId t.checked

variable (opens) in
/-- What the tables of the agent say is so: records lead to plaintexts, times are those of grants, and the calls
    of applications had both. -/
structure UdpAgent.Recorded (a : UdpAgent K) : Prop where
  record : ∀ ztdoId path, a.decryptedZtdoRecord.lookup ztdoId = some path → a.HasData opens ztdoId path
  time : ∀ ztdoId t, a.smartDataPolicyRefreshTime.lookup ztdoId = some t →
    ∃ g ∈ a.grants, g.ztdoId = ztdoId ∧ g.time = t
  taCalls : ∀ t ∈ a.taCalls, a.Granted opens t

variable (opens) in
/-- What a call has in hand. -/
def UdpAgent.Ready (a : UdpAgent K) (c : Call K) : Prop :=
  match c.phase with
  | .dar found | .clear found _ | .identify found _ | .collect found _ _ | .attest found _ | .dav found _ =>
    found.decrypted = true → a.HasData opens c.ztdoId found.output
  | .temp kao granted => ⟨c.ztdoId, granted, kao⟩ ∈ a.grants
  | .fetch kao granted output => ⟨c.ztdoId, granted, kao⟩ ∈ a.grants ∧ a.files.lookup output = some none
  | .lookUp output checked => a.HasData opens c.ztdoId output ∧ a.Timely c.ztdoId checked
  | .enter checked _ =>
    (∃ path, c.params.lookup "path" = some (.string path) ∧ a.HasData opens c.ztdoId path) ∧
      a.Timely c.ztdoId checked
  | _ => True

variable (opens) in
/-- A refresh has the mutex, and who has ended does not. -/
def sound : Threads.Assertion (UdpAgent K) (Call K) where
  shared a := a.Recorded opens
  thread a i c :=
    ((c.phase.refreshes = true → a.dataAccessRefreshMutex = some i) ∧
      (c.phase.isEnded = true → a.dataAccessRefreshMutex ≠ some i)) ∧ a.Ready opens c

/-! ### Files and grants stay -/

/-- Grants and decrypted files stay. -/
structure Grows (a a' : UdpAgent K) : Prop where
  grants : ∀ g ∈ a.grants, g ∈ a'.grants
  files : ∀ path plaintext, a.files.lookup path = some (some plaintext) → a'.files.lookup path = some (some plaintext)

/-- They do where nothing changes. -/
theorem Grows.of_eq (hgrants : a'.grants = a.grants) (hfiles : a'.files = a.files) : Grows a a' where
  grants g hg := by rw [hgrants]; exact hg
  files path plaintext hpath := by rw [hfiles]; exact hpath

/-- A file with a plaintext stays one, -/
theorem UdpAgent.HasData.grows {ztdoId : Bytes} {path : String} (h : a.HasData opens ztdoId path)
    (hgrows : Grows a a') : a'.HasData opens ztdoId path := by
  obtain ⟨g, hg, hid, d, plaintext, hopens, hpath⟩ := h
  exact ⟨g, hgrows.grants g hg, hid, d, plaintext, hopens, hgrows.files path plaintext hpath⟩

/-- a grant stays one of this time, -/
theorem UdpAgent.Timely.grows {ztdoId : Bytes} {checked : Int} (h : a.Timely ztdoId checked)
    (hgrows : Grows a a') : a'.Timely ztdoId checked := by
  obtain ⟨g, hg, hid, htime⟩ := h
  exact ⟨g, hgrows.grants g hg, hid, htime⟩

/-- and a call that had both has had them. -/
theorem UdpAgent.Granted.grows {t : TaCall} (h : a.Granted opens t) (hgrows : Grows a a') :
    a'.Granted opens t := by
  obtain ⟨path, hpath, hdata⟩ := h.path
  exact ⟨⟨path, hpath, hdata.grows hgrows⟩, h.timely.grows hgrows⟩

/-- What a call has in hand it keeps, if a file it is about to write stays empty. -/
theorem UdpAgent.Ready.grows (h : a.Ready opens c) (hgrows : Grows a a')
    (hfiles : c.phase.refreshes = true → a'.files = a.files) : a'.Ready opens c := by
  unfold Ready at h ⊢
  split at h
  case h_7 kao granted hphase => exact hgrows.grants _ h
  case h_8 kao granted output hphase =>
    rw [hfiles (by rw [hphase]; rfl)]
    exact ⟨hgrows.grants _ h.1, h.2⟩
  case h_9 output checked hphase => exact ⟨h.1.grows hgrows, h.2.grows hgrows⟩
  case h_10 checked policyId hphase =>
    obtain ⟨⟨path, hpath, hdata⟩, htimely⟩ := h
    exact ⟨⟨path, hpath, hdata.grows hgrows⟩, htimely.grows hgrows⟩
  case h_11 => trivial
  all_goals exact fun hdecrypted => (h hdecrypted).grows hgrows

/-- Records that stay say what they said. -/
theorem UdpAgent.Recorded.grows (h : a.Recorded opens) (hgrows : Grows a a')
    (hrecord : a'.decryptedZtdoRecord = a.decryptedZtdoRecord)
    (htime : a'.smartDataPolicyRefreshTime = a.smartDataPolicyRefreshTime) (hcalls : a'.taCalls = a.taCalls) :
    a'.Recorded opens where
  record ztdoId path hlookup := by
    rw [hrecord] at hlookup
    exact (h.record ztdoId path hlookup).grows hgrows
  time ztdoId t hlookup := by
    rw [htime] at hlookup
    obtain ⟨g, hg, hid, ht⟩ := h.time ztdoId t hlookup
    exact ⟨g, hgrows.grants g hg, hid, ht⟩
  taCalls t ht := by
    rw [hcalls] at ht
    exact (h.taCalls t ht).grows hgrows

/-- Access that has not expired was granted in time. -/
theorem UdpAgent.Recorded.timely (h : a.Recorded opens) {ztdoId : Bytes} (hfresh : a.expired ztdoId = false) :
    a.Timely ztdoId a.now := by
  unfold expired at hfresh
  split at hfresh
  · rename_i t htime
    obtain ⟨g, hg, hid, rfl⟩ := h.time ztdoId t htime
    have hle := of_decide_eq_false hfresh
    exact ⟨g, hg, hid, by omega⟩
  · cases hfresh

/-- A grant is in time for itself. -/
theorem UdpAgent.timely_grant (ztdoId : Bytes) (granted : Int) (kao : K)
    (hgrant : ⟨ztdoId, granted, kao⟩ ∈ a.grants) : a.Timely ztdoId granted := by
  refine ⟨_, hgrant, rfl, ?_⟩
  rw [Int.sub_self]
  decide

/-- Clearing an object touches none of this. -/
theorem clear_keeps (a : UdpAgent K) (doId : Bytes) :
    (a.clear doId).grants = a.grants ∧ (a.clear doId).files = a.files ∧
      (a.clear doId).decryptedZtdoRecord = a.decryptedZtdoRecord ∧
      (a.clear doId).smartDataPolicyRefreshTime = a.smartDataPolicyRefreshTime ∧
      (a.clear doId).taCalls = a.taCalls ∧
      (a.clear doId).dataAccessRefreshMutex = a.dataAccessRefreshMutex := by
  unfold UdpAgent.clear
  split <;> exact ⟨rfl, rfl, rfl, rfl, rfl, rfl⟩

/-! ### A step of a call -/

/-- A step of a call makes them grow, -/
theorem Moves.grows (h : Moves opens a i c e a' c') (hready : a.Ready opens c) : Grows a a' := by
  cases h with
  | clear found dsaMsg => exact .of_eq (clear_keeps a _).1 (clear_keeps a _).2.1
  | renew | grant => exact ⟨fun g hg => List.mem_cons_of_mem _ hg, fun _ _ hpath => hpath⟩
  | createTemp kao granted path hphase hfree =>
    refine ⟨fun g hg => hg, fun path' plaintext hpath => ?_⟩
    show (a.files.insert path none).lookup path' = _
    rw [AList.lookup_insert_ne]
    · exact hpath
    · rintro rfl
      rw [AList.lookup_eq_none.mpr hfree] at hpath
      cases hpath
  | decrypt kao granted output d plaintext hphase hopens =>
    refine ⟨fun g hg => hg, fun path' plaintext' hpath => ?_⟩
    show (a.files.insert output (some plaintext)).lookup path' = _
    rw [AList.lookup_insert_ne]
    · exact hpath
    · rintro rfl
      rw [UdpAgent.Ready, hphase] at hready
      rw [hready.2] at hpath
      cases hpath
  | _ => exact .of_eq rfl rfl

/-- Files are made and written by a refresh only. -/
theorem Moves.files (h : Moves opens a i c e a' c') (hphase : c.phase.refreshes = false) : a'.files = a.files := by
  cases h with
  | clear found dsaMsg => exact (clear_keeps a _).2.1
  | createTemp kao granted path hphase' =>
    rw [hphase'] at hphase
    cases hphase
  | decrypt kao granted output d plaintext hphase' =>
    rw [hphase'] at hphase
    cases hphase
  | _ => rfl

/-- The mutex is taken when it is free, and goes with the call that has it. -/
theorem Moves.mutex (h : Moves opens a i c e a' c') :
    a'.dataAccessRefreshMutex = a.dataAccessRefreshMutex ∨
    (a.dataAccessRefreshMutex = none ∧ a'.dataAccessRefreshMutex = some i ∧ c'.phase.isEnded = false) ∨
    a.dataAccessRefreshMutex = some i ∧ a'.dataAccessRefreshMutex = none ∧ c'.phase.isEnded = true := by
  cases h with
  | lock hphase hfree => exact .inr (.inl ⟨hfree, rfl, rfl⟩)
  | clear found dsaMsg => exact .inl (clear_keeps a _).2.2.2.2.2
  | ends trusted result =>
    by_cases hmutex : a.dataAccessRefreshMutex = some i
    · exact .inr (.inr ⟨hmutex, if_pos hmutex, rfl⟩)
    · exact .inl (if_neg hmutex)
  | _ => exact .inl rfl

/-- A refresh comes behind the lock or goes on. -/
theorem Moves.refreshes (h : Moves opens a i c e a' c') (hphase : c'.phase.refreshes = true) :
    c.phase.refreshes = true ∧ a'.dataAccessRefreshMutex = a.dataAccessRefreshMutex ∨
      a'.dataAccessRefreshMutex = some i := by
  cases h with
  | lock => exact .inr rfl
  | clear found dsaMsg hphase' => exact .inl ⟨by rw [hphase']; rfl, (clear_keeps a _).2.2.2.2.2⟩
  | refresh _ hphase' | dsa _ _ hphase' | identify _ _ _ hphase' | skip _ _ _ _ hphase' | register _ _ _ hphase'
  | attest _ _ _ hphase' | grant _ _ _ hphase' | createTemp _ _ _ hphase' =>
    exact .inl ⟨by rw [hphase']; rfl, rfl⟩
  | _ => cases hphase

/-- The mutex goes away from a call only when it ends, and from nobody else. -/
theorem Moves.locked (h : Moves opens a i c e a' c')
    (hc : (c.phase.refreshes = true → a.dataAccessRefreshMutex = some i) ∧
      (c.phase.isEnded = true → a.dataAccessRefreshMutex ≠ some i)) :
    (c'.phase.refreshes = true → a'.dataAccessRefreshMutex = some i) ∧
      (c'.phase.isEnded = true → a'.dataAccessRefreshMutex ≠ some i) := by
  constructor
  · intro hphase
    rcases h.refreshes hphase with ⟨hbefore, hmutex⟩ | hmutex
    · exact hmutex.trans (hc.1 hbefore)
    · exact hmutex
  · cases h with
    | ends trusted result =>
      intro _
      show (if a.dataAccessRefreshMutex = some i then none else a.dataAccessRefreshMutex) ≠ some i
      split
      · exact (Option.some_ne_none i).symm
      · assumption
    | _ => intro hphase; cases hphase

/-- and moves the mutex for itself only. -/
theorem Moves.others (h : Moves opens a i c e a' c') {j : Nat} (hji : j ≠ i) :
    a'.dataAccessRefreshMutex = some j ↔ a.dataAccessRefreshMutex = some j := by
  rcases h.mutex with hmutex | ⟨hfree, hmutex, -⟩ | ⟨hmutex, hfree, -⟩
  · rw [hmutex]
  · rw [hfree, hmutex]
    exact iff_of_false (fun hj => hji (Option.some.inj hj).symm) (Option.some_ne_none j).symm
  · rw [hfree, hmutex]
    exact iff_of_false (Option.some_ne_none j).symm fun hj => hji (Option.some.inj hj).symm

/-- A grant keeps the tables right. -/
theorem UdpAgent.Recorded.grant (ha : a.Recorded opens) (ztdoId : Bytes) (kao : K) :
    (a.grant ztdoId kao).Recorded opens := by
  have hgrows : Grows a (a.grant ztdoId kao) := ⟨fun g hg => List.mem_cons_of_mem _ hg, fun _ _ hpath => hpath⟩
  refine ⟨fun z path hlookup => (ha.record z path hlookup).grows hgrows, fun z t hlookup => ?_,
    fun t ht => (ha.taCalls t ht).grows hgrows⟩
  replace hlookup : (a.smartDataPolicyRefreshTime.insert ztdoId a.now).lookup z = some t := hlookup
  rw [AList.lookup_insert_eq_ite] at hlookup
  split at hlookup
  · rename_i hz
    exact ⟨_, List.mem_cons_self, hz.symm, Option.some.inj hlookup⟩
  · obtain ⟨g, hg, hid, ht⟩ := ha.time z t hlookup
    exact ⟨g, hgrows.grants g hg, hid, ht⟩

/-- A call keeps its object, and none goes on behind its end. -/
theorem Moves.kept (h : Moves opens a i c e a' c') : c'.ztdoId = c.ztdoId ∧ c.phase.isEnded = false := by
  cases h with
  | fresh _ hphase => rcases hphase with hphase | hphase <;> exact ⟨rfl, by rw [hphase]; rfl⟩
  | ends _ _ hphase => exact ⟨rfl, hphase⟩
  | stale hphase | lock hphase | refresh _ hphase | dsa _ _ hphase | clear _ _ hphase | identify _ _ _ hphase
  | skip _ _ _ _ hphase | register _ _ _ hphase | attest _ _ _ hphase | renew _ _ _ hphase | grant _ _ _ hphase
  | createTemp _ _ _ hphase | decrypt _ _ _ _ _ hphase | lookUp _ _ _ hphase | enter _ _ hphase
  | returned _ _ hphase | found _ _ _ hphase | missing _ _ hphase | postprocess _ _ _ _ hphase =>
    exact ⟨rfl, by rw [hphase]; rfl⟩

/-- So does every step of a call. -/
theorem Moves.recorded (h : Moves opens a i c e a' c') (ha : a.Recorded opens) (hready : a.Ready opens c) :
    a'.Recorded opens ∧ a'.Ready opens c' := by
  have hgrows := h.grows hready
  -- A step that leaves the records and the calls of applications alone keeps what they rely on.
  have hkeeps : a'.decryptedZtdoRecord = a.decryptedZtdoRecord →
      a'.smartDataPolicyRefreshTime = a.smartDataPolicyRefreshTime → a'.taCalls = a.taCalls → a'.Recorded opens :=
    ha.grows hgrows
  cases h with
  | fresh output hphase hrecord hfresh =>
    exact ⟨ha, ha.record _ _ hrecord, ha.timely hfresh⟩
  | stale | lock => exact ⟨hkeeps rfl rfl rfl, trivial⟩
  | refresh found hphase hfound => exact ⟨ha, fun hdecrypted => ha.record _ _ (hfound hdecrypted)⟩
  | ends => exact ⟨hkeeps rfl rfl rfl, trivial⟩
  | clear found dsaMsg hphase =>
    obtain ⟨-, -, hrecord, htime, hcalls, -⟩ := clear_keeps a dsaMsg.doId
    rw [UdpAgent.Ready, hphase] at hready
    exact ⟨hkeeps hrecord htime hcalls, fun hdecrypted => (hready hdecrypted).grows hgrows⟩
  | dsa _ _ hphase | identify _ _ _ hphase | skip _ _ _ _ hphase | register _ _ _ hphase | attest _ _ _ hphase =>
    rw [UdpAgent.Ready, hphase] at hready
    exact ⟨hkeeps rfl rfl rfl, fun hdecrypted => (hready hdecrypted).grows hgrows⟩
  | renew found davMsg kao hphase hdecrypted =>
    rw [UdpAgent.Ready, hphase] at hready
    exact ⟨ha.grant c.ztdoId kao, (hready hdecrypted).grows hgrows,
      UdpAgent.timely_grant c.ztdoId a.now kao List.mem_cons_self⟩
  | grant found davMsg kao hphase => exact ⟨ha.grant c.ztdoId kao, List.mem_cons_self⟩
  | createTemp kao granted path hphase hfree =>
    rw [UdpAgent.Ready, hphase] at hready
    exact ⟨hkeeps rfl rfl rfl, hready, AList.lookup_insert a.files⟩
  -- The new record is of the file that has just been written, under the grant of this call.
  | decrypt kao granted output d plaintext hphase hopens =>
    rw [UdpAgent.Ready, hphase] at hready
    have hdata : (a.decrypt c.ztdoId output plaintext).HasData opens c.ztdoId output :=
      ⟨_, hready.1, rfl, d, plaintext, hopens, AList.lookup_insert a.files⟩
    refine ⟨⟨fun z path hlookup => ?_, ha.time, fun t ht => (ha.taCalls t ht).grows hgrows⟩, hdata,
      UdpAgent.timely_grant c.ztdoId granted kao hready.1⟩
    replace hlookup : (a.decryptedZtdoRecord.insert c.ztdoId output).lookup z = some path := hlookup
    rw [AList.lookup_insert_eq_ite] at hlookup
    split at hlookup
    · rename_i hz
      obtain rfl := Option.some.inj hlookup
      rw [hz]
      exact hdata
    · exact (ha.record z path hlookup).grows hgrows
  | lookUp output checked policyId hphase hpolicy =>
    rw [UdpAgent.Ready, hphase] at hready
    exact ⟨ha, ⟨output, AList.lookup_insert c.params, hready.1⟩, hready.2⟩
  | enter checked policyId hphase =>
    rw [UdpAgent.Ready, hphase] at hready
    refine ⟨⟨fun z path hlookup => (ha.record z path hlookup).grows hgrows, ha.time, fun t ht => ?_⟩, trivial⟩
    rcases List.mem_cons.mp ht with rfl | ht
    · exact ⟨hready.1, hready.2⟩
    · exact (ha.taCalls t ht).grows hgrows
  | returned | found | missing | postprocess => exact ⟨ha, trivial⟩

/-- And so does what goes on beside them. -/
theorem outside_grows {x : Outside} (h : outside a x = some a') :
    Grows a a' ∧ a'.files = a.files ∧ a'.dataAccessRefreshMutex = a.dataAccessRefreshMutex ∧
      (a.Recorded opens → a'.Recorded opens) := by
  cases x with
  | clock now =>
    obtain rfl := Option.some.inj h
    exact ⟨.of_eq rfl rfl, rfl, rfl, fun ha => ha.grows (.of_eq rfl rfl) rfl rfl rfl⟩
  | restart =>
    obtain rfl := Option.some.inj h
    refine ⟨.of_eq rfl rfl, rfl, rfl, fun ha => ⟨?_, ?_, fun t ht => (ha.taCalls t ht).grows (.of_eq rfl rfl)⟩⟩
    · intro z path hlookup
      cases hlookup
    · intro z t hlookup
      cases hlookup

/-- The first invariant is kept through a run. -/
theorem sound_kept : (sound opens).Kept (system opens) Begins where
  symm _ := trivial
  begin := by
    intro s c hs hphase
    have hphase : c.phase = .check := hphase
    refine ⟨⟨⟨fun h => ?_, fun h => ?_⟩, ?_⟩, fun _ _ _ => trivial⟩
    · rw [hphase] at h
      cases h
    · rw [hphase] at h
      cases h
    · rw [UdpAgent.Ready, hphase]
      trivial
  outside := by
    intro s x a' hs _ hx
    obtain ⟨hgrows, hfiles, hmutex, hrecorded⟩ := outside_grows hx
    refine ⟨hrecorded hs.shared, fun i c hc h => ?_⟩
    exact ⟨by rw [hmutex]; exact h.1, h.2.grows hgrows fun _ => hfiles⟩
  advance := by
    intro s i c e p hs _ hc hp
    obtain ⟨a', c'⟩ := p
    have hmoves := moves_of_advance hp
    obtain ⟨hlocked, hready⟩ := hs.thread i c hc
    obtain ⟨hrecorded, hready'⟩ := hmoves.recorded hs.shared hready
    refine ⟨hrecorded, ⟨hmoves.locked hlocked, hready'⟩, fun _ _ _ _ _ => trivial, fun j u hji hu _ hthread => ?_⟩
    obtain ⟨hulocked, huready⟩ := hthread
    refine ⟨⟨fun hphase => (hmoves.others hji).mpr (hulocked.1 hphase), fun hphase hmutex => ?_⟩, ?_⟩
    · exact hulocked.2 hphase ((hmoves.others hji).mp hmutex)
    · refine huready.grows (hmoves.grows hready) fun hphase => hmoves.files ?_
      -- a refresh has the mutex, so the others are none
      by_contra hrefreshes
      rw [Bool.not_eq_false] at hrefreshes
      have hmutex := hlocked.1 hrefreshes
      rw [hulocked.1 hphase] at hmutex
      exact hji (Option.some.inj hmutex)

/-- The calls of an agent that has been started, in any order of their steps: at most one is in a refresh, no call
    leaves the mutex locked behind it, and every trusted application that was called got, under "path", the name
    of a file that has the plaintext of the object, access to which had been granted 15 seconds before or less. -/
theorem data_access (opens : Bytes → K → D → Option (Except String Bytes)) (now : Int) (acts : List (Act K D))
    (hbegins : Runs.Steps (system opens).step Begins (start now) acts) {s : State K}
    (hrun : Runs.run (system opens).step (start now) acts = some s) :
    (∀ (i j : Nat) (c c' : Call K), s.threads[i]? = some c → s.threads[j]? = some c' →
      c.phase.refreshes = true → c'.phase.refreshes = true → i = j) ∧
    (∀ (i : Nat) (c : Call K), s.threads[i]? = some c → c.phase.isEnded = true →
      s.shared.dataAccessRefreshMutex ≠ some i) ∧
    ∀ t ∈ s.shared.taCalls, s.shared.Granted opens t := by
  have hstart : (sound opens).Holds (start now : State K) := by
    refine ⟨⟨?_, ?_, ?_⟩, ?_, fun _ _ _ _ _ _ _ => trivial⟩
    · intro z path hlookup
      cases hlookup
    · intro z t hlookup
      cases hlookup
    · intro t ht
      cases ht
    · intro i c hc
      cases hc
  have hholds := sound_kept.invariant hbegins hstart hrun
  refine ⟨fun i j c c' hc hc' hphase hphase' => ?_, fun i c hc => (hholds.thread i c hc).1.2, hholds.shared.taCalls⟩
  have hlocked : (Threads.locked UdpAgent.dataAccessRefreshMutex (fun c : Call K => c.phase.refreshes = true)
      (fun c : Call K => c.phase.isEnded = true)).Holds s :=
    ⟨trivial, fun i c hc => (hholds.thread i c hc).1, fun _ _ _ _ _ _ _ => trivial⟩
  exact Threads.exclusive hlocked hc hc' hphase hphase'

/-! ## Policies and their engines -/

/-- Objects have calls one after another and policies of their own; the clock does not go back, and the agent is
    restarted between calls. -/
def Orderly (owner : String → Bytes) (s : State K) : Act K D → Prop
  | .begin c => c.phase = .check ∧ ∀ c' ∈ s.threads, c'.ztdoId = c.ztdoId → c'.phase.isEnded = true
  | .outside (.clock now) => s.shared.now ≤ now
  | .outside .restart => ∀ c ∈ s.threads, c.phase.isEnded = true
  | .turn i (.dsa (.message dsaMsg)) => ∀ c, s.threads[i]? = some c →
    dsaMsg.doId = c.ztdoId ∧ ∀ spo, dsaMsg.spo = some spo → owner spo.policyId = c.ztdoId
  | .turn _ _ => True

instance [DecidableEq K] (owner : String → Bytes) (s : State K) : DecidablePred (Orderly (D := D) owner s)
  | .begin c => inferInstanceAs
    (Decidable (c.phase = .check ∧ ∀ c' ∈ s.threads, c'.ztdoId = c.ztdoId → c'.phase.isEnded = true))
  | .outside (.clock now) => inferInstanceAs (Decidable (s.shared.now ≤ now))
  | .outside .restart => inferInstanceAs (Decidable (∀ c ∈ s.threads, c.phase.isEnded = true))
  | .turn i (.dsa (.message dsaMsg)) => inferInstanceAs (Decidable (∀ c ∈ s.threads[i]?,
    dsaMsg.doId = c.ztdoId ∧ ∀ spo ∈ dsaMsg.spo, owner spo.policyId = c.ztdoId))
  | .turn _ (.dsa (.failed _)) | .turn _ (.dsa .noServer) | .turn _ (.dsa .notRunning) | .turn _ .preCheck
  | .turn _ .lock | .turn _ .clear | .turn _ .identify | .turn _ (.collect _) | .turn _ (.attest _)
  | .turn _ (.dag _) | .turn _ (.createTemp _) | .turn _ (.fetch _) | .turn _ .lookUp | .turn _ (.enter _)
  | .turn _ (.taReturns _) | .turn _ .find | .turn _ (.postprocess _) | .turn _ (.unmarshal _) =>
    inferInstanceAs (Decidable True)

namespace UdpAgent

variable (a) in
/-- A call for the object refreshes first. -/
def Stale (ztdoId : Bytes) : Prop := a.decryptedZtdoRecord.lookup ztdoId = none ∨ a.expired ztdoId = true

variable (a) in
/-- The policy of the object has its engine, if there is code in it. -/
def Armed (ztdoId : Bytes) : Prop :=
  ∀ spo, a.policies.lookup ztdoId = some spo →
    (spo.policy = "" ∧ a.smartPolicyEngine.lookup spo.policyId = none) ∨
    (spo.policy ≠ "" ∧ ∃ n, a.smartPolicyEngine.lookup spo.policyId = some n ∧ a.engines[n]? = some ⟨spo, false⟩)

variable (a) in
/-- The engine is that of the object's policy, or the policy has no code and there is none. -/
def Answers (ztdoId : Bytes) (engine : Option Nat) : Prop :=
  ∃ spo, a.policies.lookup ztdoId = some spo ∧
    ((spo.policy = "" ∧ engine = none) ∨
      (spo.policy ≠ "" ∧ ∃ n, engine = some n ∧ a.engines[n]? = some ⟨spo, false⟩))

/-- The tables of engines and policies fit together, and an object without its engine is refreshed first. -/
structure Consistent (owner : String → Bytes) (a : UdpAgent K) : Prop where
  engines : ∀ policyId n, a.smartPolicyEngine.lookup policyId = some n →
    ∃ engine, a.engines[n]? = some engine ∧ engine.spo.policyId = policyId
  tabled : ∀ policyId n, a.smartPolicyEngine.lookup policyId = some n →
    a.smartPolicyIdentifier.lookup (owner policyId) = some policyId
  identified : ∀ ztdoId policyId, a.smartPolicyIdentifier.lookup ztdoId = some policyId →
    ∃ spo, a.policies.lookup ztdoId = some spo ∧ spo.policyId = policyId
  owners : ∀ ztdoId spo, a.policies.lookup ztdoId = some spo → owner spo.policyId = ztdoId
  armed : ∀ ztdoId, a.Armed ztdoId ∨ a.Stale ztdoId

/-- What a call knows of its policy. -/
def Guards (owner : String → Bytes) (a : UdpAgent K) (c : Call K) : Prop :=
  match c.phase with
  | .dar _ => a.Stale c.ztdoId
  | .clear _ dsaMsg =>
    a.Stale c.ztdoId ∧ dsaMsg.doId = c.ztdoId ∧ ∀ spo, dsaMsg.spo = some spo → owner spo.policyId = c.ztdoId
  | .identify _ dsaMsg =>
    a.Stale c.ztdoId ∧ (dsaMsg.doId = c.ztdoId ∧ ∀ spo, dsaMsg.spo = some spo → owner spo.policyId = c.ztdoId) ∧
      a.smartPolicyIdentifier.lookup c.ztdoId = none
  | .collect _ _ spo =>
    a.Stale c.ztdoId ∧ a.policies.lookup c.ztdoId = some spo ∧ owner spo.policyId = c.ztdoId ∧
      a.smartPolicyIdentifier.lookup c.ztdoId = some spo.policyId ∧
      a.smartPolicyEngine.lookup spo.policyId = none
  | .attest _ _ | .dav _ _ | .temp _ _ | .fetch _ _ _ | .lookUp _ _ => a.Armed c.ztdoId
  | .enter _ policyId | .calling policyId | .returned policyId _ =>
    a.Armed c.ztdoId ∧ ∃ spo, a.policies.lookup c.ztdoId = some spo ∧ spo.policyId = policyId
  | .processing n _ => a.Answers c.ztdoId (some n)
  | .unmarshal engine _ => a.Answers c.ztdoId engine
  | _ => True

end UdpAgent

/-- Calls for one object are not under way together. -/
def guarded (owner : String → Bytes) : Threads.Assertion (UdpAgent K) (Call K) where
  shared a := a.Consistent owner
  thread a _ c := a.Guards owner c
  related c c' := c.ztdoId = c'.ztdoId → c.phase.isEnded = true ∨ c'.phase.isEnded = true

/-! ### What concerns one object -/

/-- Nothing that concerns the object has changed. -/
structure Same (owner : String → Bytes) (a a' : UdpAgent K) (ztdoId : Bytes) : Prop where
  now : a'.now = a.now
  record : a'.decryptedZtdoRecord.lookup ztdoId = a.decryptedZtdoRecord.lookup ztdoId
  time : a'.smartDataPolicyRefreshTime.lookup ztdoId = a.smartDataPolicyRefreshTime.lookup ztdoId
  policies : a'.policies.lookup ztdoId = a.policies.lookup ztdoId
  identifier : a'.smartPolicyIdentifier.lookup ztdoId = a.smartPolicyIdentifier.lookup ztdoId
  table : ∀ policyId, owner policyId = ztdoId →
    a'.smartPolicyEngine.lookup policyId = a.smartPolicyEngine.lookup policyId
  engines : ∀ (n : Nat) (engine : Engine), a.engines[n]? = some engine → owner engine.spo.policyId = ztdoId →
    a'.engines[n]? = some engine

section

variable {owner : String → Bytes} {ztdoId : Bytes}

/-- Nothing has changed for the object. -/
theorem Same.rfl' : Same owner a a ztdoId := ⟨rfl, rfl, rfl, rfl, rfl, fun _ _ => rfl, fun _ _ h _ => h⟩

/-- Then it has expired as before, -/
theorem Same.expired (h : Same owner a a' ztdoId) : a'.expired ztdoId = a.expired ztdoId := by
  rw [UdpAgent.expired, UdpAgent.expired, h.time, h.now]

/-- is as stale as before, -/
theorem Same.stale (h : Same owner a a' ztdoId) (hstale : a.Stale ztdoId) : a'.Stale ztdoId := by
  rw [UdpAgent.Stale, h.record, h.expired]
  exact hstale

/-- and armed as before; -/
theorem Same.armed (h : Same owner a a' ztdoId) (ha : a.Consistent owner) (harmed : a.Armed ztdoId) :
    a'.Armed ztdoId := by
  intro spo hspo
  rw [h.policies] at hspo
  have howner := ha.owners ztdoId spo hspo
  rw [h.table _ howner]
  rcases harmed spo hspo with hnone | ⟨hpolicy, n, hn, hengine⟩
  · exact .inl hnone
  · exact .inr ⟨hpolicy, n, hn, h.engines n _ hengine howner⟩

/-- its answers are as right as before, -/
theorem Same.answers (h : Same owner a a' ztdoId) (ha : a.Consistent owner) {engine : Option Nat}
    (hanswers : a.Answers ztdoId engine) : a'.Answers ztdoId engine := by
  obtain ⟨spo, hspo, hnone | ⟨hpolicy, n, hn, hengine⟩⟩ := hanswers
  · exact ⟨spo, h.policies.trans hspo, .inl hnone⟩
  · exact ⟨spo, h.policies.trans hspo, .inr ⟨hpolicy, n, hn, h.engines n _ hengine (ha.owners ztdoId spo hspo)⟩⟩

/-- and so are the calls that are for it. -/
theorem Same.guards (h : Same owner a a' c.ztdoId) (ha : a.Consistent owner) (hguards : a.Guards owner c) :
    a'.Guards owner c := by
  unfold UdpAgent.Guards at hguards ⊢
  split at hguards
  case h_1 => exact h.stale hguards
  case h_2 => exact ⟨h.stale hguards.1, hguards.2⟩
  case h_3 => exact ⟨h.stale hguards.1, hguards.2.1, h.identifier.trans hguards.2.2⟩
  case h_4 =>
    obtain ⟨hstale, hspo, howner, hid, hnone⟩ := hguards
    exact ⟨h.stale hstale, h.policies.trans hspo, howner, h.identifier.trans hid, (h.table _ howner).trans hnone⟩
  case h_13 => exact h.answers ha hguards
  case h_14 => exact h.answers ha hguards
  case h_15 => trivial
  all_goals first
    | exact h.armed ha hguards
    | exact ⟨h.armed ha hguards.1, by rw [h.policies]; exact hguards.2⟩

/-- Tables of which nothing has changed for any object still fit together. -/
theorem Same.consistent (h : ∀ ztdoId, Same owner a a' ztdoId) (ha : a.Consistent owner) : a'.Consistent owner where
  engines policyId n hn := by
    rw [(h (owner policyId)).table policyId rfl] at hn
    obtain ⟨engine, hengine, rfl⟩ := ha.engines policyId n hn
    exact ⟨engine, (h _).engines n engine hengine rfl, rfl⟩
  tabled policyId n hn := by
    rw [(h (owner policyId)).table policyId rfl] at hn
    exact (h _).identifier.trans (ha.tabled policyId n hn)
  identified z policyId hid := by
    rw [(h z).identifier] at hid
    rw [(h z).policies]
    exact ha.identified z policyId hid
  owners z spo hspo := by
    rw [(h z).policies] at hspo
    exact ha.owners z spo hspo
  armed z := (ha.armed z).imp ((h z).armed ha) (h z).stale

/-! ### What a step does to the tables -/

/-- An engine of another policy stays as it is. -/
theorem closeEngine_other (ha : a.Consistent owner) {spoId : String} {n : Nat} {engine : Engine}
    (hn : a.engines[n]? = some engine) (hne : engine.spo.policyId ≠ spoId) :
    (a.closeEngine spoId)[n]? = some engine := by
  unfold UdpAgent.closeEngine
  split
  · rename_i n' hn'
    obtain ⟨engine', hengine', hid⟩ := ha.engines _ n' hn'
    have hnn' : n' ≠ n := by
      rintro rfl
      rw [hn] at hengine'
      exact hne (by rw [Option.some.inj hengine', hid])
    rw [List.getElem?_modify_ne (h := hnn')]
    exact hn
  · exact hn

/-- The policy of an object goes with its engine, and no other does. -/
theorem clear_effect (ha : a.Consistent owner) {doId : Bytes} (hstale : a.Stale doId) :
    (∀ z, z ≠ doId → Same owner a (a.clear doId) z) ∧ (a.clear doId).Consistent owner ∧
      (a.clear doId).Stale doId ∧ (a.clear doId).smartPolicyIdentifier.lookup doId = none := by
  cases hspoId : a.smartPolicyIdentifier.lookup doId with
  | none =>
    have hclear : a.clear doId = a := by rw [UdpAgent.clear, hspoId]
    rw [hclear]
    exact ⟨fun z _ => .rfl', ha, hstale, hspoId⟩
  | some spoId =>
    obtain ⟨spo, hspo, rfl⟩ := ha.identified doId spoId hspoId
    have howner := ha.owners doId spo hspo
    have hclear : a.clear doId = { a with
        engines := a.closeEngine spo.policyId
        smartPolicyEngine := a.smartPolicyEngine.erase spo.policyId
        smartPolicyIdentifier := a.smartPolicyIdentifier.erase doId } := by
      rw [UdpAgent.clear, hspoId]
    have hsame : ∀ z, z ≠ doId → Same owner a (a.clear doId) z := by
      intro z hz
      rw [hclear]
      refine ⟨rfl, rfl, rfl, rfl, AList.lookup_erase_ne hz, fun policyId hpolicy => ?_, fun n engine hn hid => ?_⟩
      · exact AList.lookup_erase_ne fun h => hz (by rw [← hpolicy, h, howner])
      · exact closeEngine_other ha hn fun h => hz (by rw [← hid, h, howner])
    -- Of the object itself the policy and the engine are gone together, and it was to be loaded again anyway.
    have harmed : ∀ z, (a.clear doId).Armed z ∨ (a.clear doId).Stale z := by
      intro z
      by_cases hz : z = doId
      · rw [hz, hclear]
        exact .inr hstale
      · exact (ha.armed z).imp ((hsame z hz).armed ha) (hsame z hz).stale
    refine ⟨hsame, ?_⟩
    rw [hclear] at harmed ⊢
    refine ⟨⟨fun policyId n hn => ?_, fun policyId n hn => ?_, fun z policyId hid => ?_, ha.owners, harmed⟩,
      hstale, AList.lookup_erase doId a.smartPolicyIdentifier⟩
    · replace hn : (a.smartPolicyEngine.erase spo.policyId).lookup policyId = some n := hn
      rw [AList.lookup_erase_eq_ite] at hn
      split at hn
      · cases hn
      · rename_i hne
        obtain ⟨engine, hengine, rfl⟩ := ha.engines policyId n hn
        exact ⟨engine, closeEngine_other ha hengine hne, rfl⟩
    · replace hn : (a.smartPolicyEngine.erase spo.policyId).lookup policyId = some n := hn
      show (a.smartPolicyIdentifier.erase doId).lookup _ = _
      rw [AList.lookup_erase_eq_ite] at hn ⊢
      split at hn
      · cases hn
      · rename_i hne
        have hid := ha.tabled policyId n hn
        rw [if_neg]
        · exact hid
        · intro h
          rw [h, hspoId] at hid
          exact hne (Option.some.inj hid).symm
    · replace hid : (a.smartPolicyIdentifier.erase doId).lookup z = some policyId := hid
      rw [AList.lookup_erase_eq_ite] at hid
      split at hid
      · cases hid
      · exact ha.identified z policyId hid

/-- Writing a policy down changes one object, -/
theorem identify_effect (ha : a.Consistent owner) {doId : Bytes} {spo : SmartPolicy} (hstale : a.Stale doId)
    (hnone : a.smartPolicyIdentifier.lookup doId = none) (howner : owner spo.policyId = doId) :
    (∀ z, z ≠ doId → Same owner a (a.identify doId spo) z) ∧ (a.identify doId spo).Consistent owner ∧
      (a.identify doId spo).smartPolicyEngine.lookup spo.policyId = none := by
  have hsame : ∀ z, z ≠ doId → Same owner a (a.identify doId spo) z := fun z hz =>
    ⟨rfl, rfl, rfl, AList.lookup_insert_ne hz, AList.lookup_insert_ne hz, fun _ _ => rfl, fun _ _ h _ => h⟩
  -- without a policy the object has no engine
  have htable : ∀ policyId n, a.smartPolicyEngine.lookup policyId = some n → owner policyId ≠ doId := by
    intro policyId n hn h
    have hid := ha.tabled policyId n hn
    rw [h, hnone] at hid
    cases hid
  refine ⟨hsame, ⟨ha.engines, fun policyId n hn => ?_, fun z policyId hid => ?_, fun z spo' hspo => ?_,
    fun z => ?_⟩, ?_⟩
  · show (a.smartPolicyIdentifier.insert doId spo.policyId).lookup _ = _
    rw [AList.lookup_insert_ne (htable policyId n hn)]
    exact ha.tabled policyId n hn
  · replace hid : (a.smartPolicyIdentifier.insert doId spo.policyId).lookup z = some policyId := hid
    show ∃ spo', (a.policies.insert doId spo).lookup z = some spo' ∧ _
    rw [AList.lookup_insert_eq_ite] at hid ⊢
    by_cases hz : z = doId
    · rw [if_pos hz] at hid ⊢
      exact ⟨spo, rfl, Option.some.inj hid⟩
    · rw [if_neg hz] at hid ⊢
      exact ha.identified z policyId hid
  · replace hspo : (a.policies.insert doId spo).lookup z = some spo' := hspo
    rw [AList.lookup_insert_eq_ite] at hspo
    split at hspo
    · rename_i hz
      obtain rfl := Option.some.inj hspo
      exact howner.trans hz.symm
    · exact ha.owners z spo' hspo
  · by_cases hz : z = doId
    · subst hz
      exact .inr hstale
    · exact (ha.armed z).imp ((hsame z hz).armed ha) (hsame z hz).stale
  · cases hn : a.smartPolicyEngine.lookup spo.policyId with
    | none => exact hn
    | some n => exact absurd howner (htable _ n hn)

/-- and so does a new engine, which arms it. -/
theorem register_effect (ha : a.Consistent owner) {doId : Bytes} {spo : SmartPolicy}
    (hspo : a.policies.lookup doId = some spo) (hid : a.smartPolicyIdentifier.lookup doId = some spo.policyId)
    (hpolicy : spo.policy ≠ "") :
    (∀ z, z ≠ doId → Same owner a (a.register spo) z) ∧ (a.register spo).Consistent owner ∧
      (a.register spo).Armed doId := by
  have howner := ha.owners doId spo hspo
  have hengines : ∀ (n : Nat) (engine : Engine), a.engines[n]? = some engine →
      (a.register spo).engines[n]? = some engine := by
    intro n engine hn
    show (a.engines ++ _)[n]? = _
    rw [List.getElem?_append_left (List.getElem?_eq_some_iff.mp hn).1, hn]
  have hnew : (a.register spo).engines[a.engines.length]? = some ⟨spo, false⟩ := List.getElem?_concat_length
  have hsame : ∀ z, z ≠ doId → Same owner a (a.register spo) z := fun z hz => by
    refine ⟨rfl, rfl, rfl, rfl, rfl, fun policyId hz' => ?_, fun n engine hn _ => hengines n engine hn⟩
    exact AList.lookup_insert_ne fun h => hz (by rw [← hz', h, howner])
  have harmed : (a.register spo).Armed doId := by
    intro spo' hspo'
    obtain rfl : spo = spo' := Option.some.inj (hspo.symm.trans hspo')
    exact .inr ⟨hpolicy, a.engines.length, AList.lookup_insert a.smartPolicyEngine, hnew⟩
  refine ⟨hsame, ⟨fun policyId n hn => ?_, fun policyId n hn => ?_, ha.identified, ha.owners, fun z => ?_⟩, harmed⟩
  · replace hn : (a.smartPolicyEngine.insert spo.policyId a.engines.length).lookup policyId = some n := hn
    rw [AList.lookup_insert_eq_ite] at hn
    split at hn
    · rename_i h
      obtain rfl := Option.some.inj hn
      exact ⟨_, hnew, h.symm⟩
    · obtain ⟨engine, hengine, h⟩ := ha.engines policyId n hn
      exact ⟨engine, hengines n engine hengine, h⟩
  · replace hn : (a.smartPolicyEngine.insert spo.policyId a.engines.length).lookup policyId = some n := hn
    rw [AList.lookup_insert_eq_ite] at hn
    split at hn
    · rename_i h
      rw [h, howner]
      exact hid
    · exact ha.tabled policyId n hn
  · by_cases hz : z = doId
    · subst hz
      exact .inl harmed
    · exact (ha.armed z).imp ((hsame z hz).armed ha) (hsame z hz).stale

/-- Access is granted, or the object decrypted, when its policy has its engine. -/
theorem armed_effect (ha : a.Consistent owner) {doId : Bytes} (harmed : a.Armed doId)
    (hsame : ∀ z, z ≠ doId → Same owner a a' z) (hengines : a'.engines = a.engines)
    (htable : a'.smartPolicyEngine = a.smartPolicyEngine) (hid : a'.smartPolicyIdentifier = a.smartPolicyIdentifier)
    (hpolicies : a'.policies = a.policies) : a'.Consistent owner ∧ a'.Armed doId := by
  have harmed' : a'.Armed doId := by
    rw [UdpAgent.Armed, hpolicies, htable, hengines]
    exact harmed
  refine ⟨⟨?_, ?_, ?_, ?_, fun z => ?_⟩, harmed'⟩
  · rw [htable, hengines]
    exact ha.engines
  · rw [htable, hid]
    exact ha.tabled
  · rw [hid, hpolicies]
    exact ha.identified
  · rw [hpolicies]
    exact ha.owners
  · by_cases hz : z = doId
    · subst hz
      exact .inl harmed'
    · exact (ha.armed z).imp ((hsame z hz).armed ha) (hsame z hz).stale

/-- A step of a call concerns its object only, and the call knows its policy again. -/
theorem Moves.guards (h : Moves opens a i c e a' c') (ha : a.Consistent owner) (hguards : a.Guards owner c)
    (he : ∀ dsaMsg, e = .dsa (.message dsaMsg) →
      dsaMsg.doId = c.ztdoId ∧ ∀ spo, dsaMsg.spo = some spo → owner spo.policyId = c.ztdoId) :
    (∀ z, z ≠ c.ztdoId → Same owner a a' z) ∧ a'.Consistent owner ∧ a'.Guards owner c' := by
  -- the changes that concern no object
  have hsame : ∀ {b : UdpAgent K}, (∀ z, Same owner a b z) → b.Guards owner c' →
      (∀ z, z ≠ c.ztdoId → Same owner a b z) ∧ b.Consistent owner ∧ b.Guards owner c' :=
    fun h hc' => ⟨fun z _ => h z, Same.consistent h ha, hc'⟩
  have hrfl : ∀ z, Same owner a a z := fun _ => .rfl'
  have hplain : ∀ (trusted : Bool) (mutex : Option Nat) (files : AList fun _ : String => Option Bytes)
      (taCalls : List TaCall) (z : Bytes), Same owner a
        { a with trustedByNHPDB := trusted, dataAccessRefreshMutex := mutex, files, taCalls } z :=
    fun _ _ _ _ _ => ⟨rfl, rfl, rfl, rfl, rfl, fun _ _ => rfl, fun _ _ h _ => h⟩
  cases h with
  | fresh output hphase hrecord hfresh =>
    refine hsame hrfl ((ha.armed c.ztdoId).resolve_right ?_)
    rintro (hnone | hexpired)
    · rw [hrecord] at hnone
      cases hnone
    · rw [hfresh] at hexpired
      cases hexpired
  | stale | lock | ends => exact hsame (hplain _ _ _ _) trivial
  | refresh found hphase hfound hstale => exact hsame hrfl hstale
  | dsa found dsaMsg hphase he' =>
    rw [UdpAgent.Guards, hphase] at hguards
    exact hsame hrfl ⟨hguards, he dsaMsg he'⟩
  | clear found dsaMsg hphase =>
    rw [UdpAgent.Guards, hphase] at hguards
    obtain ⟨hstale, hid, hspo⟩ := hguards
    rw [← hid] at hstale
    obtain ⟨hsame', hconsistent, hstale', hnone⟩ := clear_effect ha hstale
    rw [hid] at hsame' hstale' hnone hconsistent ⊢
    exact ⟨hsame', hconsistent, hstale', ⟨hid, hspo⟩, hnone⟩
  | identify found dsaMsg spo hphase hspo =>
    rw [UdpAgent.Guards, hphase] at hguards
    obtain ⟨hstale, ⟨hid, howner⟩, hnone⟩ := hguards
    rw [hid]
    obtain ⟨hsame', hconsistent, htable⟩ := identify_effect ha hstale hnone (howner spo hspo)
    exact ⟨hsame', hconsistent, hstale, AList.lookup_insert a.policies, howner spo hspo,
      AList.lookup_insert a.smartPolicyIdentifier, htable⟩
  | skip found dsaMsg spo davMsg hphase hpolicy =>
    rw [UdpAgent.Guards, hphase] at hguards
    obtain ⟨-, hspo, -, -, htable⟩ := hguards
    refine hsame hrfl fun spo' hspo' => ?_
    obtain rfl : spo = spo' := Option.some.inj (hspo.symm.trans hspo')
    exact .inl ⟨hpolicy, htable⟩
  | register found dsaMsg spo hphase hpolicy =>
    rw [UdpAgent.Guards, hphase] at hguards
    obtain ⟨-, hspo, -, hid, -⟩ := hguards
    exact register_effect ha hspo hid hpolicy
  | attest found dsaMsg davMsg hphase =>
    rw [UdpAgent.Guards, hphase] at hguards
    exact hsame hrfl hguards
  | renew found davMsg kao hphase | grant found davMsg kao hphase =>
    rw [UdpAgent.Guards, hphase] at hguards
    have hsame' : ∀ z, z ≠ c.ztdoId → Same owner a (a.grant c.ztdoId kao) z := fun z hz =>
      ⟨rfl, rfl, AList.lookup_insert_ne hz, rfl, rfl, fun _ _ => rfl, fun _ _ h _ => h⟩
    exact ⟨hsame', armed_effect ha hguards hsame' rfl rfl rfl rfl⟩
  | createTemp kao granted path hphase =>
    rw [UdpAgent.Guards, hphase] at hguards
    exact hsame (hplain _ _ _ _) hguards
  | decrypt kao granted output d plaintext hphase =>
    rw [UdpAgent.Guards, hphase] at hguards
    have hsame' : ∀ z, z ≠ c.ztdoId → Same owner a (a.decrypt c.ztdoId output plaintext) z := fun z hz =>
      ⟨rfl, AList.lookup_insert_ne hz, rfl, rfl, rfl, fun _ _ => rfl, fun _ _ h _ => h⟩
    exact ⟨hsame', armed_effect ha hguards hsame' rfl rfl rfl rfl⟩
  | lookUp output checked policyId hphase hpolicy =>
    rw [UdpAgent.Guards, hphase] at hguards
    exact hsame hrfl ⟨hguards, ha.identified _ _ hpolicy⟩
  | enter checked policyId hphase | returned policyId taRes hphase =>
    rw [UdpAgent.Guards, hphase] at hguards
    exact hsame (hplain _ _ _ _) hguards
  | found policyId taRes n hphase hengine =>
    rw [UdpAgent.Guards, hphase] at hguards
    obtain ⟨harmed, spo, hspo, rfl⟩ := hguards
    refine hsame hrfl ⟨spo, hspo, ?_⟩
    rcases harmed spo hspo with ⟨-, hnone⟩ | ⟨hpolicy, n', hn', hopen⟩
    · rw [hengine] at hnone
      cases hnone
    · obtain rfl : n = n' := Option.some.inj (hengine.symm.trans hn')
      exact .inr ⟨hpolicy, n, rfl, hopen⟩
  | missing policyId taRes hphase hengine =>
    rw [UdpAgent.Guards, hphase] at hguards
    obtain ⟨harmed, spo, hspo, rfl⟩ := hguards
    refine hsame hrfl ⟨spo, hspo, ?_⟩
    rcases harmed spo hspo with ⟨hpolicy, -⟩ | ⟨-, n, hn, -⟩
    · exact .inl ⟨hpolicy, rfl⟩
    · rw [hengine] at hn
      cases hn
  | postprocess n taRes text spo hphase hengine =>
    rw [UdpAgent.Guards, hphase] at hguards
    exact hsame hrfl hguards

/-- A clock that goes on leaves an object stale. -/
theorem clock_consistent (ha : a.Consistent owner) {now : Int} (hnow : a.now ≤ now) :
    UdpAgent.Consistent owner { a with now } ∧ ∀ z, a.Stale z → UdpAgent.Stale { a with now } z := by
  have hstale : ∀ z, a.Stale z → UdpAgent.Stale { a with now } z := by
    rintro z (hnone | hexpired)
    · exact .inl hnone
    · refine .inr ?_
      unfold UdpAgent.expired at hexpired ⊢
      cases htime : a.smartDataPolicyRefreshTime.lookup z with
      | none => rfl
      | some t =>
        simp only [htime, decide_eq_true_eq] at hexpired ⊢
        omega
  exact ⟨⟨ha.engines, ha.tabled, ha.identified, ha.owners, fun z => (ha.armed z).imp id (hstale z)⟩, hstale⟩

/-- A clock that makes nothing fresh leaves every call right. -/
theorem clock_guards {now : Int} (hstale : ∀ z, a.Stale z → UdpAgent.Stale { a with now } z)
    (hguards : a.Guards owner c) : UdpAgent.Guards owner { a with now } c := by
  unfold UdpAgent.Guards at hguards ⊢
  split at hguards
  case h_1 => exact hstale _ hguards
  case h_2 | h_3 | h_4 => exact ⟨hstale _ hguards.1, hguards.2⟩
  all_goals exact hguards

/-- A call that has returned is. -/
theorem guards_of_isEnded (h : c.phase.isEnded = true) : a.Guards owner c := by
  unfold UdpAgent.Guards
  split
  case h_15 => trivial
  all_goals (rename_i hphase; rw [hphase] at h; cases h)

/-- The second invariant is kept through an orderly run. -/
theorem guarded_kept : (guarded owner).Kept (system opens) (Orderly owner) where
  symm := by
    intro c c' h hid
    exact (h hid.symm).symm
  begin := by
    rintro s c hs ⟨hphase, hended⟩
    refine ⟨?_, fun i c' hc' hid => .inr (hended c' (List.mem_of_getElem? hc') hid.symm)⟩
    show s.shared.Guards owner c
    rw [UdpAgent.Guards, hphase]
    trivial
  outside := by
    intro s x a' hs hC hx
    cases x with
    | clock now =>
      obtain rfl := Option.some.inj hx
      obtain ⟨hconsistent, hstale⟩ := clock_consistent hs.shared hC
      exact ⟨hconsistent, fun i c hc h => clock_guards hstale h⟩
    | restart =>
      obtain rfl := Option.some.inj hx
      refine ⟨⟨?_, ?_, ?_, hs.shared.owners, fun z => .inr (.inl rfl)⟩, fun i c hc _ => ?_⟩
      · intro policyId n hn
        cases hn
      · intro policyId n hn
        cases hn
      · intro z policyId hid
        cases hid
      -- An orderly restart finds every call ended, and an ended call relies on nothing.
      · exact guards_of_isEnded (hC c (List.mem_of_getElem? hc))
  advance := by
    intro s i c e p hs hC hc hp
    obtain ⟨a', c'⟩ := p
    have hmoves := moves_of_advance hp
    have he : ∀ dsaMsg, e = .dsa (.message dsaMsg) →
        dsaMsg.doId = c.ztdoId ∧ ∀ spo, dsaMsg.spo = some spo → owner spo.policyId = c.ztdoId := by
      rintro dsaMsg rfl
      exact hC c hc
    obtain ⟨hsame, hconsistent, hguards⟩ := hmoves.guards hs.shared (hs.thread i c hc) he
    obtain ⟨hid, hrunning⟩ := hmoves.kept
    refine ⟨hconsistent, hguards, fun j u hji hu hrelated huid => ?_, fun j u hji hu hrelated hthread => ?_⟩
    · rw [hid] at huid
      exact .inr ((hrelated huid).resolve_left (by rw [hrunning]; exact Bool.false_ne_true))
    -- Another call of the same object has ended; one of another object finds its own policy as before.
    · by_cases hz : u.ztdoId = c.ztdoId
      · exact guards_of_isEnded ((hrelated hz.symm).resolve_left (by rw [hrunning]; exact Bool.false_ne_true))
      · exact (hsame u.ztdoId hz).guards hs.shared hthread

/-- In every orderly run, a call that has a text to answer has it from the engine of the policy that its object
    has, or from its trusted application as it is because that policy has no code. -/
theorem data_postprocess (opens : Bytes → K → D → Option (Except String Bytes)) (owner : String → Bytes) (now : Int)
    (acts : List (Act K D)) (horderly : Runs.Steps (system opens).step (Orderly owner) (start now) acts) {s : State K}
    (hrun : Runs.run (system opens).step (start now) acts = some s) (i : Nat) (c : Call K)
    (hc : s.threads[i]? = some c) (engine : Option Nat) (text : String) (hphase : c.phase = .unmarshal engine text) :
    s.shared.Answers c.ztdoId engine := by
  have hstart : (guarded owner).Holds (start now : State K) := by
    refine ⟨⟨?_, ?_, ?_, ?_, fun z => .inr (.inl rfl)⟩, ?_, ?_⟩
    · intro policyId n hn
      cases hn
    · intro policyId n hn
      cases hn
    · intro z policyId hid
      cases hid
    · intro z spo hspo
      cases hspo
    · intro i c hc
      cases hc
    · intro i j c c' _ hc
      cases hc
  have hguards : s.shared.Guards owner c := (guarded_kept.invariant horderly hstart hrun).thread i c hc
  rw [UdpAgent.Guards, hphase] at hguards
  exact hguards

end

end

/-! ## Objects of a broker -/

section

open OpenNHP.Core OpenNHP.Core.Ztdo OpenNHP.DB

variable {C : Crypto Bytes} [∀ t prk, Decidable (C.validKey t prk)]

/-- `RefreshDataAccess` from the download on: what the DAG gave is the wrapping of the object's private key, and each
    refresh has a key pair of its own.  The texts of the errors are left open. -/
def openObject (F : FileCrypto UInt8) (teeEcdh : Ecdh C) (text : OpenError → String) (ztdoId : Bytes)
    (wrapping : DataPrivateKeyWrapping) (d : Ecdh C × Arr UInt8 objectIDSize × Bytes) :
    Option (Except String Bytes) :=
  (openData F ztdoId teeEcdh d.1 wrapping d.2.1 d.2.2).map (Except.mapError text)

/-- The data that a trusted application was given is what the agent's TEE opened with a wrapping that was granted. -/
theorem UdpAgent.Granted.opened {F : FileCrypto UInt8} {teeEcdh : Ecdh C} {text : OpenError → String}
    {a : UdpAgent DataPrivateKeyWrapping} {t : TaCall} (h : a.Granted (openObject F teeEcdh text) t) :
    ∃ path, t.params.lookup "path" = some (.string path) ∧ ∃ g ∈ a.grants, g.ztdoId = t.ztdoId ∧
      ∃ (consumerEphemeralEcdh : Ecdh C) (uuid : Arr UInt8 objectIDSize) (ztdoFile plaintext : Bytes),
        openData F t.ztdoId teeEcdh consumerEphemeralEcdh g.kao uuid ztdoFile = some (.ok plaintext) ∧
        a.files.lookup path = some (some plaintext) := by
  obtain ⟨path, hpath, g, hg, hid, d, plaintext, hopens, hfile⟩ := h.path
  obtain ⟨r, hr, hplaintext⟩ := Option.map_eq_some_iff.mp hopens
  cases r with
  | error e => cases hplaintext
  | ok plaintext' =>
    obtain rfl := Except.ok.inj hplaintext
    exact ⟨path, hpath, g, hg, hid, d.1, d.2.1, d.2.2, plaintext', hr, hfile⟩

end

/-! ## One call -/

/-- Keys and downloads of bytes that are put together. -/
def sampleOpens : Bytes → Bytes → Bytes → Option (Except String Bytes) := fun _ kao d => some (.ok (kao ++ d))

/-- A first call for an object, with a path of the caller's, up to the answer. -/
def sampleActs : List (Act Bytes Bytes) :=
  [.begin ⟨[1], "ta", "count", (∅ : Params).insert "path" (.string "/etc/passwd"), .check⟩,
    .turn 0 .preCheck, .turn 0 .lock, .turn 0 .preCheck,
    .turn 0 (.dsa (.message ⟨[1], "", some ⟨"policy", "code"⟩, 0, ""⟩)), .turn 0 .clear, .turn 0 .identify,
    .turn 0 (.collect .engine), .turn 0 (.attest (some "evidence")), .turn 0 (.dag (.message ⟨[1], [7], 0, ""⟩)),
    .turn 0 (.createTemp (.ok "/tmp/plaintext-1")), .turn 0 (.fetch [8]), .turn 0 .lookUp, .turn 0 (.enter true),
    .turn 0 (.taReturns (some (.ok "raw"))), .turn 0 .find, .turn 0 (.postprocess (some "filtered"))]

/-- The path of the caller does not get to the trusted application. -/
theorem data_access_first : ∃ s : State Bytes, Runs.run (system sampleOpens).step (start 100) sampleActs = some s ∧
    s.shared.taCalls.map (fun t => t.params.lookup "path") = [some (.string "/tmp/plaintext-1")] ∧
    ∀ t ∈ s.shared.taCalls, s.shared.Granted sampleOpens t := by
  refine ⟨_, rfl, rfl, ?_⟩
  exact (data_access sampleOpens 100 sampleActs (by decide) rfl).2.2

/-- Its result went through the engine. -/
theorem data_postprocess_first : ∃ s : State Bytes, Runs.run (system sampleOpens).step (start 100) sampleActs = some s ∧
    s.shared.Answers [1] (some 0) := by
  refine ⟨_, rfl, ?_⟩
  exact data_postprocess sampleOpens (fun _ => [1]) 100 sampleActs (by decide) rfl 0 _ rfl (some 0) "filtered" rfl

/-- A call for the object that outlasts its 15 seconds, next to one that refreshes: the raw result is the answer. -/
example : ((Runs.run (system sampleOpens).step (start 100) (sampleActs ++
    [.turn 0 (.unmarshal none), .begin ⟨[1], "ta", "count", ∅, .check⟩, .turn 1 .preCheck, .turn 1 .lookUp,
      .turn 1 (.enter true), .outside (.clock 16000000000), .begin ⟨[1], "ta", "count", ∅, .check⟩, .turn 2 .preCheck,
      .turn 2 .lock, .turn 2 .preCheck, .turn 2 (.dsa (.message ⟨[1], "", some ⟨"policy", "code"⟩, 0, ""⟩)),
      .turn 2 .clear, .turn 1 (.taReturns (some (.ok "raw"))), .turn 1 .find, .turn 1 (.unmarshal none)])).bind
    fun s => (s.threads[1]?).map (·.phase)) = some (.ended (.answer none "raw")) := by rfl

end OpenNHP.Agent.DataAccess
