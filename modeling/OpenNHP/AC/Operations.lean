/-
  `HandleUdpACOperations`: the answer of the access controller to a request of the server
  (`endpoints/ac/msghandler.go`).

  1. **The program.**  The handler has the rules of a request installed (`HandleAccessControl`), generates a token,
     stores it with what it is for, and sends the result message.  It goes on behind a failed
     `HandleAccessControl`, and so generates the token in any case.

  2. **What is to be said of it.**  What a request asks of the operating system is the list of its rule calls.  The
     handler installs the rules of all of them for the lifetime that the message asks for, or one of them has
     failed; which of the two the answer tells the server is the subject of `TruthfulAnswer`.

  3. **The method.**  A property of the state that no single rule operation breaks, for lifetimes that are allowed
     (`Stable`), is kept by the whole handler: `keeps_...`, one lemma for each statement of the code, from the
     operation up to `keeps_carryOut`.  The lifetimes are an instance: every rule of a request lasts for the open
     time or for that of a temporary port (`RuleOp.Lasts`, `handleAccessControl_lasts`).
-/
import OpenNHP.AC.AccessControl

namespace OpenNHP.AC

open Statement

/-! ## Messages -/

/-- `common.AgentUser`. -/
structure AgentUser where
  userId : String
  deviceId : String
  organizationId : String
  authServiceId : String
  deriving DecidableEq, Repr

/-- `common.ServerACOpsMsg`. -/
structure ServerACOpsMsg where
  userId : String
  deviceId : String
  organizationId : String
  authServiceId : String
  resourceId : String
  sourceAddrs : List NetAddress
  destinationAddrs : List NetAddress
  openTime : UInt32

/-- `int(dopMsg.OpenTime)`. -/
def ServerACOpsMsg.openTimeSec (m : ServerACOpsMsg) : Int := m.openTime.toNat

/-- `AccessEntry`, as it is put into the token store. -/
structure AccessEntry where
  user : AgentUser
  srcAddrs : List NetAddress
  dstAddrs : List NetAddress
  openTime : Int

/-- What `HandleUdpACOperations` has done: the rules it installed, the entries it generated tokens for
    and the message it sends. -/
structure ACAnswer where
  ops : List RuleOp
  tokens : List AccessEntry
  artMsg : ACOpsResultMsg

/-- The destinations as `HandleAccessControl` leaves them in the caller's list. -/
def dstAddrsAfter (a : UdpAC) (srcAddrs dstAddrs : List NetAddress) : List NetAddress :=
  if srcAddrs = [] ∨ (a.config.filterMode = filterModeIPTables ∧ a.ipset = false) then dstAddrs
  else withDefaultIp a.config dstAddrs

/-- The handler behind the parsing of the message. -/
def handleUdpACOperations (a : UdpAC) (dopMsg : ServerACOpsMsg) : ACAnswer :=
  let agentUser : AgentUser :=
    ⟨dopMsg.userId, dopMsg.deviceId, dopMsg.organizationId, dopMsg.authServiceId⟩
  let s := handleAccessControl a dopMsg.sourceAddrs dopMsg.destinationAddrs dopMsg.openTimeSec {}
  let entry : AccessEntry := ⟨agentUser, dopMsg.sourceAddrs,
    dstAddrsAfter a dopMsg.sourceAddrs dopMsg.destinationAddrs, dopMsg.openTimeSec⟩
  ⟨s.ops, [entry], { s.artMsg with acToken := a.accessToken }⟩

/-! ## What the handlers keep -/

/-- A property of the state that single operations keep, of the lifetimes that satisfy `L`. -/
structure Stable (a : UdpAC) (L : Int → Prop) (I : AcState → Prop) : Prop where
  ipset : ∀ s set entry expire, L expire → a.kernel.runIPSet s.ops (addArgs set entry expire) = true →
    I s → I { s with ops := s.ops ++ [.ipset set entry expire] }
  ebpf : ∀ s mapType params ttl u, L ttl →
    ebpfRuleAdd a.net6 (a.kernel.bootTimeNanos s.ops) mapType params ttl = .ok u →
    a.kernel.updateMap s.ops u = true → I s → I { s with ops := s.ops ++ [.ebpf u] }
  err : ∀ s e, I s → I { s with err := e }
  fail : ∀ s e, I s → I (s.fail e)
  preAccess : ∀ s info, I s → I { s with artMsg := { s.artMsg with preAccessAction := info } }

section Keeps

variable {a : UdpAC} {L : Int → Prop} {I : AcState → Prop} (h : Stable a L I)

include h

/-- One entry. -/
theorem Stable.ipsetOp {ipType : IPType} {t : Nat} {expire : Int} {entry : Entry} {s s' : AcState}
    (hL : L expire) (hs : I s) (hop : ipsetOp a ipType t expire entry s = some s') : I s' := by
  unfold AC.ipsetOp at hop
  dsimp only at hop
  split at hop
  · rename_i hrun
    cases hop
    exact h.ipset s _ entry expire hL hrun hs
  · cases hop

/-- One update of a map. -/
theorem Stable.ebpfOp {mapType : Int} {params : EbpfRuleParams} {ttl : Int} {s s' : AcState}
    (hL : L ttl) (hs : I s) (hop : ebpfOp a mapType params ttl s = .ok s') : I s' := by
  unfold AC.ebpfOp at hop
  split at hop
  · cases hop
  · rename_i u hu
    split at hop
    · rename_i hupdate
      cases hop
      exact h.ebpf s mapType params ttl u hL hu hupdate hs
    · cases hop

/-- Whatever is done about the error of the entry. -/
theorem keeps_ipsetAddOr {failed : AcState → AcState} (hfailed : ∀ s, I s → I (failed s))
    (ipType : IPType) (t : Nat) {expire : Int} (hL : L expire) (entry : Entry) :
    Stmt.Keeps I (ipsetAddOr a failed ipType t expire entry) := by
  intro s hs
  unfold ipsetAddOr
  split
  · rename_i s' hop
    exact h.err s' none (h.ipsetOp hL hs hop)
  · exact hfailed s hs

/-- The error is noted, -/
theorem keeps_ipsetAddChecked (ipType : IPType) (t : Nat) {expire : Int} (hL : L expire)
    (entry : Entry) : Stmt.Keeps I (ipsetAddChecked a ipType t expire entry) :=
  keeps_ipsetAddOr h (fun s hs => h.fail s _ hs) ipType t hL entry

/-- or is not looked at. -/
theorem keeps_ipsetAddUnchecked (ipType : IPType) (t : Nat) {expire : Int} (hL : L expire)
    (entry : Entry) : Stmt.Keeps I (ipsetAddUnchecked a ipType t expire entry) := by
  intro s hs
  unfold ipsetAddUnchecked
  split
  · rename_i s' hop
    exact h.err s' none (h.ipsetOp hL hs hop)
  · exact h.err s _ hs

/-- The same for the maps: the error is noted, -/
theorem keeps_ebpfAddChecked (mapType : Int) (params : EbpfRuleParams) {ttl : Int} (hL : L ttl) :
    Stmt.Keeps I (ebpfAddChecked a mapType params ttl) := by
  intro s hs
  unfold ebpfAddChecked
  split
  · rename_i s' hop
    exact h.err s' none (h.ebpfOp hL hs hop)
  · exact h.err s _ hs

/-- or is logged. -/
theorem keeps_ebpfAddLogged (mapType : Int) (params : EbpfRuleParams) {ttl : Int} (hL : L ttl) :
    Stmt.Keeps I (ebpfAddLogged a mapType params ttl) := by
  intro s hs
  unfold ebpfAddLogged
  split
  · rename_i s' hop
    exact h.ebpfOp hL hs hop
  · exact hs

omit h in
/-- One of the two modes is taken. -/
theorem keeps_switchFilter {iptables ebpf : Stmt AcState} (hiptables : Stmt.Keeps I iptables)
    (hebpf : Stmt.Keeps I ebpf) : Stmt.Keeps I (switchFilter a iptables ebpf) := by
  unfold switchFilter
  split
  · exact hiptables
  · split
    · exact hebpf
    · exact Stmt.keeps_returns fun s hs => hs

/-- A test leaves the rules alone. -/
theorem keeps_failIf (b : Prop) [Decidable b] (e : AcError) : Stmt.Keeps I (failIf b e) :=
  .cond fun _ => Stmt.keeps_returns fun s hs => h.fail s e hs

section Knock

variable {openTimeSec tempOpenTimeSec : Int} (hopen : L openTimeSec) (htemp : L tempOpenTimeSec)

include hopen

/-- The statements of `HandleAccessControl`, in its order: the rule for TCP, -/
theorem keeps_passTCP (src dst : NetAddress) : Stmt.Keeps I (passTCP a openTimeSec src dst) :=
  keeps_switchFilter (keeps_ipsetAddChecked h _ _ hopen _)
    ((Stmt.Keeps.cond fun _ => keeps_ebpfAddChecked h _ _ hopen).seq
      (.cond fun _ => keeps_ebpfAddChecked h _ _ hopen))

/-- that for UDP, -/
theorem keeps_passUDP (src dst : NetAddress) : Stmt.Keeps I (passUDP a openTimeSec src dst) :=
  keeps_switchFilter (keeps_ipsetAddChecked h _ _ hopen _)
    ((Stmt.Keeps.cond fun _ => keeps_ebpfAddChecked h _ _ hopen).seq
      (.cond fun _ => keeps_ebpfAddChecked h _ _ hopen))

/-- those for ping, -/
theorem keeps_passPing (src : NetAddress) (dstAddrs : List NetAddress) :
    Stmt.Keeps I (passPing a openTimeSec src dstAddrs) :=
  .forEach fun _ _ => keeps_switchFilter (keeps_ipsetAddChecked h _ _ hopen _)
    (keeps_ebpfAddChecked h _ _ hopen)

include htemp

/-- those of a range, -/
theorem keeps_passRange (src dst : NetAddress) :
    Stmt.Keeps I (passRange a openTimeSec tempOpenTimeSec src dst) := by
  unfold passRange
  split
  · exact Stmt.keeps_skip
  · rename_i n _
    have hports : Stmt.Keeps I (rangePorts a tempOpenTimeSec (reparsedNet n) dst) := by
      refine .forEach fun ip _ => ?_
      split
      · exact keeps_ebpfAddLogged h _ _ htemp
      · exact keeps_ebpfAddLogged h _ _ htemp
    refine .cond fun _ => keeps_switchFilter ((Stmt.Keeps.seq ?_ ?_).seq ?_)
      ((Stmt.Keeps.seq ?_ ?_).seq ?_)
    · exact .cond fun _ => keeps_ipsetAddUnchecked h _ _ htemp _
    · exact .cond fun _ => keeps_ipsetAddUnchecked h _ _ htemp _
    · exact .cond fun _ => keeps_ipsetAddUnchecked h _ _ htemp _
    · exact .cond fun _ => hports
    · exact .cond fun _ => hports
    · exact .cond fun _ => .forEach fun _ _ => keeps_ebpfAddLogged h _ _ hopen

/-- and the loops over them. -/
theorem keeps_passKnock (srcAddrs dstAddrs : List NetAddress) :
    Stmt.Keeps I (passKnock a openTimeSec tempOpenTimeSec srcAddrs dstAddrs) :=
  .forEach fun src _ => .forEach fun dst _ =>
    (((Stmt.Keeps.cond fun _ => keeps_passTCP h hopen src dst).seq
      (.cond fun _ => keeps_passUDP h hopen src dst)).seq
      (.cond fun _ => keeps_passPing h hopen src dstAddrs)).seq
      (keeps_passRange h hopen htemp src dst)

end Knock

/-- A temporary port, for its own lifetime. -/
theorem keeps_passTempPort {tempOpenTimeSec : Int} (htemp : L tempOpenTimeSec) (ipType : IPType)
    (ports : PortSpec) (protocol : String) (port : Nat) :
    Stmt.Keeps I (passTempPort a tempOpenTimeSec ipType ports protocol port) :=
  keeps_switchFilter ((keeps_ipsetAddChecked h _ _ htemp _).seq (keeps_ipsetAddChecked h _ _ htemp _))
    (keeps_ebpfAddChecked h _ _ htemp)

/-- Both temporary ports. -/
theorem keeps_preAccess {tempOpenTimeSec : Int} (htemp : L tempOpenTimeSec) (dst : NetAddress) :
    Stmt.Keeps I (preAccess a tempOpenTimeSec dst) := by
  unfold preAccess
  split
  · exact Stmt.keeps_returns fun s hs => h.fail s _ hs
  · split
    · exact Stmt.keeps_returns fun s hs => h.fail s _ hs
    · refine (keeps_failIf h _ _).seq <| (keeps_passTempPort h htemp _ _ _ _).seq <|
        (keeps_failIf h _ _).seq <| (keeps_failIf h _ _).seq <|
        (keeps_passTempPort h htemp _ _ _ _).seq <| Stmt.keeps_assign fun s hs => h.preAccess s _ hs

end Keeps

/-! ## The handler as a whole -/

/-- The part of the handler that installs the rules. -/
def installRules (a : UdpAC) (srcAddrs : List NetAddress) (dst₀ : NetAddress)
    (dstAddrs : List NetAddress) (openTimeSec : Int) : Stmt AcState :=
  if a.config.ipPassMode = passPreAccessIP then preAccess a (tempOpenTime openTimeSec) dst₀
  else passKnock a openTimeSec (tempOpenTime openTimeSec) srcAddrs dstAddrs

section Whole

variable {a : UdpAC} {L : Int → Prop} {I : AcState → Prop} {srcAddrs dstAddrs : List NetAddress}
  {dst₀ : NetAddress} {openTimeSec : Int}

/-- Where ipset is there when it is needed, the request is its rules and then the success. -/
theorem carryOut_eq (hipset : ¬ (a.config.filterMode = filterModeIPTables ∧ a.ipset = false)) :
    carryOut a srcAddrs dst₀ dstAddrs openTimeSec =
      (installRules a srcAddrs dst₀ dstAddrs openTimeSec).seq
        (Stmt.assign (AcState.succeed openTimeSec)) := by
  have hskip : failIf (a.config.filterMode = filterModeIPTables ∧ a.ipset = false)
      .acIPSetNotFound = Stmt.skip := if_neg hipset
  rw [carryOut, hskip]
  rfl

/-- The rules of a request last as long as the request says, or as long as temporary ones do. -/
theorem keeps_installRules (h : Stable a L I) (hopen : L openTimeSec)
    (htemp : L (tempOpenTime openTimeSec)) :
    Stmt.Keeps I (installRules a srcAddrs dst₀ dstAddrs openTimeSec) := by
  unfold installRules
  split
  · exact keeps_preAccess h htemp dst₀
  · exact keeps_passKnock h hopen htemp srcAddrs dstAddrs

/-- The handler as a whole. -/
theorem keeps_carryOut (h : Stable a L I) (hopen : L openTimeSec) (htemp : L (tempOpenTime openTimeSec))
    (hsucceed : ∀ s, I s → I (s.succeed openTimeSec)) :
    Stmt.Keeps I (carryOut a srcAddrs dst₀ dstAddrs openTimeSec) :=
  (keeps_failIf h _ _).seq ((keeps_installRules h hopen htemp).seq (Stmt.keeps_assign hsucceed))

end Whole

/-- The lifetime of a rule, in seconds. -/
def RuleOp.Lasts (sec : Int) : RuleOp → Prop
  | .ipset _ _ expire => expire = sec
  | .ebpf u => u.ttlSec = uint64 sec

/-- Every rule of a request lasts for the open time of the request or for that of temporary rules. -/
theorem handleAccessControl_lasts (a : UdpAC) (srcAddrs dstAddrs : List NetAddress) (openTimeSec : Int)
    (artMsg : ACOpsResultMsg) :
    ∀ op ∈ (handleAccessControl a srcAddrs dstAddrs openTimeSec artMsg).ops,
      op.Lasts openTimeSec ∨ op.Lasts (tempOpenTime openTimeSec) := by
  have hstable : Stable a (fun sec => sec = openTimeSec ∨ sec = tempOpenTime openTimeSec)
      (fun s => ∀ op ∈ s.ops, op.Lasts openTimeSec ∨ op.Lasts (tempOpenTime openTimeSec)) := by
    refine ⟨?_, ?_, fun s _ hs => hs, fun s _ hs => hs, fun s _ hs => hs⟩
    · intro s set entry expire hL _ hs op hop
      rcases List.mem_append.mp hop with hop | hop
      · exact hs op hop
      · rw [List.mem_singleton.mp hop]
        exact hL
    · intro s mapType params ttl u hL hu _ hs op hop
      rcases List.mem_append.mp hop with hop | hop
      · exact hs op hop
      · rw [List.mem_singleton.mp hop]
        have httl : (RuleOp.ebpf u).Lasts ttl := (ebpfRuleAdd_times hu).2
        obtain rfl | rfl := hL
        · exact .inl httl
        · exact .inr httl
  unfold handleAccessControl
  split
  · exact fun op hop => by cases hop
  · exact fun op hop => by cases hop
  · exact keeps_carryOut hstable (.inl rfl) (.inr rfl) (fun s hs => hs) (.start artMsg)
      (fun op hop => by cases hop)

end OpenNHP.AC
