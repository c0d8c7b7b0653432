/-
  The listeners of a pre-access request until their handlers have them (`HandleAccessControl` in
  `endpoints/ac/msghandler.go`).

  1. **The program.**  The branch opens a TCP listener on a port that it is given, lets everyone reach the port,
     opens a UDP listener on the same port, and does the same for that; the handlers, which close the listeners,
     are started at its end.

  2. **The property.**  `AllOrNothing`: a request that does not hand both listeners over to their handlers leaves
     none open; and one for which nothing fails hands both over and is answered with a success.

  3. **Where it fails.**  No exit in between closes anything: where a step behind the first listener fails, it
     stays open.  One of these steps fails for every IPv6 destination in the iptables mode: the second half of the
     addresses, which IPv4 needs, is an empty text, and ipset gets an entry without a network
     (`not_allOrNothing_v6`).

  4. **The result.**  The model runs the branch beside the statements of `AccessControl`, with the listeners that
     are open added to the state (`Setup`), and does the same to the rules (`handleAccessControlSetup_state`).
     Which rule operations a successful branch needs is read off along the code (`needs_...`), so that the branch
     passes exactly when all of them succeed and the addresses resolve (`preAccess_passes_iff`); and so
     `allOrNothing_iff`.
-/
import OpenNHP.AC.PreAccess
import OpenNHP.AC.TruthfulAnswer

namespace OpenNHP.AC

open Inet Statement

/-! ## The branch with its listeners -/

/-- The state of `HandleAccessControl` with the listeners that it has open, and those that it has handed to
    their handlers. -/
structure Setup where
  state : AcState
  opened : List Transport
  handed : List Transport

namespace Setup

/-- No listener is open. -/
def start (state : AcState) : Setup := ⟨state, [], []⟩

/-- A listener is opened. -/
def opens (transport : Transport) (s : Setup) : Setup := { s with opened := s.opened ++ [transport] }

/-- `go a.tcpTempAccessHandler(…)` and `go a.udpTempAccessHandler(…)`. -/
def handsOver (s : Setup) : Setup := { s with opened := [], handed := s.opened }

end Setup

/-- A statement that opens no listener. -/
def onState (p : Stmt AcState) : Stmt Setup := Stmt.onPart Setup.state (fun state s => { s with state := state }) p

section Branch

variable (a : UdpAC) (tempOpenTimeSec : Int) (dst : NetAddress)

/-- From one listener to the next. -/
def tcpSetup (dstIp : BigEndian.Bytes) (port : Nat) : Stmt AcState :=
  (failIf (a.resolveTCPAddr port = false) .acResolveTempPortFailed).seq <|
  (passTempPort a tempOpenTimeSec (ipTypeOf dst.ip) (.tcp port) "tcp" port).seq <|
  failIf (a.listenUDP dstIp port = false) .acTempPortListenFailed

/-- What the branch does for the UDP listener once that is open. -/
def udpSetup (port : Nat) : Stmt AcState :=
  (failIf (a.resolveUDPAddr port = false) .acResolveTempPortFailed).seq <|
  (passTempPort a tempOpenTimeSec (ipTypeOf dst.ip) (.udp port) "udp" port).seq <|
  Stmt.assign fun s =>
    { s with artMsg := { s.artMsg with preAccessAction := some {
        accessIp := "", accessPort := toString port, acPubKey := a.publicKeyExBase64,
        acToken := a.accessToken, acCipherScheme := a.config.defaultCipherScheme } } }

/-- `preAccess`, with its listeners. -/
def preAccessSetup : Stmt Setup :=
  match parseNetIP a.net6 dst.ip with
  | none => onState (.returns (AcState.fail .invalidIpAddress))
  | some dstIp =>
    match a.listenTCP dstIp with
    | none => onState (.returns (AcState.fail .acTempPortListenFailed))
    | some port =>
      (Stmt.assign (Setup.opens .tcp)).seq <|
      (onState (tcpSetup a tempOpenTimeSec dst dstIp port)).seq <|
      (Stmt.assign (Setup.opens .udp)).seq <|
      (onState (udpSetup a tempOpenTimeSec dst port)).seq <|
      Stmt.assign Setup.handsOver

/-- `carryOut` of a pre-access request, with its listeners. -/
def carryOutSetup (openTimeSec : Int) : Stmt Setup :=
  (onState (failIf (a.config.filterMode = filterModeIPTables ∧ a.ipset = false) .acIPSetNotFound)).seq <|
  (preAccessSetup a (tempOpenTime openTimeSec) dst).seq <|
  onState (Stmt.assign (AcState.succeed openTimeSec))

end Branch

/-- `HandleAccessControl` of an AC in pass mode `PASS_PRE_ACCESS_IP`, with its listeners. -/
def handleAccessControlSetup (a : UdpAC) (srcAddrs dstAddrs : List NetAddress) (openTimeSec : Int)
    (artMsg : ACOpsResultMsg) : Setup :=
  match srcAddrs, withDefaultIp a.config dstAddrs with
  | [], _ => .start ((AcState.start artMsg).fail .acEmptyPassAddress)
  | _, [] => .start ((AcState.start artMsg).fail .acEmptyPassAddress)
  | _ :: _, dst :: _ => (carryOutSetup a dst openTimeSec (.start (.start artMsg))).state

/-! ## The branch is that of `handleAccessControl` -/

section Agree

variable {a : UdpAC} {t : Int} {dst : NetAddress} {dstIp : BigEndian.Bytes} {port : Nat}

/-- Behind the first listener. -/
theorem preAccess_eq (hip : parseNetIP a.net6 dst.ip = some dstIp) (hport : a.listenTCP dstIp = some port) :
    preAccess a t dst = (tcpSetup a t dst dstIp port).seq (udpSetup a t dst port) := by
  rw [preAccess, hip]
  dsimp only
  rw [hport, tcpSetup, udpSetup, Stmt.seq_assoc, Stmt.seq_assoc]

/-- What becomes of the listeners behind the first. -/
theorem preAccessSetup_eq (hip : parseNetIP a.net6 dst.ip = some dstIp) (hport : a.listenTCP dstIp = some port)
    (s : AcState) :
    preAccessSetup a t dst (.start s) =
      match tcpSetup a t dst dstIp port s with
      | .ret s' => .ret ⟨s', [.tcp], []⟩
      | .next s' =>
        match udpSetup a t dst port s' with
        | .ret s'' => .ret ⟨s'', [.tcp, .udp], []⟩
        | .next s'' => .next ⟨s'', [], [.tcp, .udp]⟩ := by
  rw [preAccessSetup, hip]
  dsimp only
  rw [hport]
  dsimp only [Stmt.seq, Stmt.assign, onState, Stmt.onPart, Setup.opens, Setup.start, Setup.handsOver]
  cases tcpSetup a t dst dstIp port s with
  | ret s' => rfl
  | next s' =>
    dsimp only
    cases udpSetup a t dst port s' with
    | ret s'' => rfl
    | next s'' => rfl

/-- Without its listeners the branch is `preAccess`. -/
theorem preAccessSetup_state (a : UdpAC) (t : Int) (dst : NetAddress) (s : AcState) :
    (preAccessSetup a t dst (.start s)).state.state = (preAccess a t dst s).state ∧
      ((∃ s', preAccessSetup a t dst (.start s) = .next s') ↔ ∃ s', preAccess a t dst s = .next s') := by
  cases hip : parseNetIP a.net6 dst.ip with
  | none =>
    rw [preAccessSetup, preAccess, hip]
    exact ⟨rfl, iff_of_false ret_ne_next ret_ne_next⟩
  | some dstIp =>
    cases hport : a.listenTCP dstIp with
    | none =>
      rw [preAccessSetup, preAccess, hip]
      dsimp only
      rw [hport]
      exact ⟨rfl, iff_of_false ret_ne_next ret_ne_next⟩
    | some port =>
      rw [preAccessSetup_eq hip hport, preAccess_eq hip hport, Stmt.seq]
      cases tcpSetup a t dst dstIp port s with
      | ret s' => exact ⟨rfl, iff_of_false ret_ne_next ret_ne_next⟩
      | next s' =>
        dsimp only
        cases udpSetup a t dst port s' with
        | ret s'' => exact ⟨rfl, iff_of_false ret_ne_next ret_ne_next⟩
        | next s'' => exact ⟨rfl, iff_of_true ⟨_, rfl⟩ ⟨_, rfl⟩⟩

end Agree

/-! ## All or nothing -/

section AllOrNothing

variable (a : UdpAC) (srcAddrs dstAddrs : List NetAddress)

/-- Both listeners are handed to their handlers. -/
def Setup.Complete (s : Setup) : Prop := s.handed = [.tcp, .udp]

/-- Nothing fails for the request: the filter mode is one of the two, its tools are there, both listeners and
    their addresses are got, and every rule is added that names a network or is for a port. -/
structure NoFailingStep : Prop where
  sources : srcAddrs ≠ []
  destination : ∃ dst dsts, withDefaultIp a.config dstAddrs = dst :: dsts ∧ (parseNetIP a.net6 dst.ip).isSome
  ipset : ¬ (a.config.filterMode = filterModeIPTables ∧ a.ipset = false)
  filterMode : a.config.filterMode = filterModeIPTables ∨ a.config.filterMode = filterModeEbpfXdp
  listenTCP : ∀ ip, (a.listenTCP ip).isSome
  resolveTCPAddr : ∀ port, a.resolveTCPAddr port = true
  listenUDP : ∀ ip port, a.listenUDP ip port = true
  resolveUDPAddr : ∀ port, a.resolveUDPAddr port = true
  runIPSet : ∀ ops set net ports expire, net.text ≠ "" →
    a.kernel.runIPSet ops (addArgs set (.netPort net ports) expire) = true
  updateMap : ∀ ops update, a.kernel.updateMap ops update = true

/-- A request that is not carried out leaves no listener open, and one in which no step fails is. -/
def AllOrNothing (openTimeSec : Int) (artMsg : ACOpsResultMsg) : Prop :=
  let s := handleAccessControlSetup a srcAddrs dstAddrs openTimeSec artMsg
  (¬ s.Complete → s.opened = []) ∧
    (NoFailingStep a srcAddrs dstAddrs → s.Complete ∧ s.state.Successful)

/-- Once the TCP listener is open, no step fails: the addresses of the two listeners resolve, the UDP listener is
    got, and each rule is added behind those before it. -/
def OpensBoth (openTimeSec : Int) : Prop :=
  ∀ dst dsts, srcAddrs ≠ [] → withDefaultIp a.config dstAddrs = dst :: dsts →
    ¬ (a.config.filterMode = filterModeIPTables ∧ a.ipset = false) → (tempPort a dst).isSome →
      TempPortsOpen a dst ∧
        (Stmt.actAll (RuleCall.act a) (preAccessCalls a (tempOpenTime openTimeSec) dst) []).isSome

end AllOrNothing

/-! ## What control needs to pass the branch -/

section Needs

variable {a : UdpAC} {t : Int}

/-- An entry needs its command to succeed. -/
theorem needs_ipsetAddOr (failed : AcState → AcState) (ipType : IPType) (n : Nat) (expire : Int) (entry : Entry) :
    Stmt.Needs AcState.ops (RuleCall.act a) (ipsetAddOr a failed ipType n expire entry)
      [ipsetCall ipType n expire entry] := by
  intro s s' h
  unfold ipsetAddOr ipsetOp at h
  rw [Stmt.actAll_singleton, ipsetCall, RuleCall.act]
  dsimp only at h
  split at h
  · rename_i s₁ hop
    cases h
    split at hop
    · rename_i hrun
      cases hop
      exact if_pos hrun
    · cases hop
  · cases h

/-- A rule of a map needs its update to. -/
theorem needs_ebpfAddChecked (mapType : Int) (params : EbpfRuleParams) (ttl : Int) :
    Stmt.Needs AcState.ops (RuleCall.act a) (ebpfAddChecked a mapType params ttl) [.ebpf mapType params ttl] := by
  intro s s' h
  unfold ebpfAddChecked ebpfOp at h
  rw [Stmt.actAll_singleton, RuleCall.act]
  cases hrule : ebpfRuleAdd a.net6 (a.kernel.bootTimeNanos s.ops) mapType params ttl with
  | error e =>
    rw [hrule] at h
    cases h
  | ok update =>
    rw [hrule] at h
    dsimp only at h ⊢
    by_cases hupdate : a.kernel.updateMap s.ops update = true
    · rw [if_pos hupdate] at h ⊢
      cases h
      rfl
    · rw [if_neg hupdate] at h
      cases h

/-- One of the two modes is taken. -/
theorem needs_switchFilter {iptables ebpf : Stmt AcState} {calls calls' : List RuleCall}
    (hiptables : Stmt.Needs AcState.ops (RuleCall.act a) iptables calls)
    (hebpf : Stmt.Needs AcState.ops (RuleCall.act a) ebpf calls') :
    Stmt.Needs AcState.ops (RuleCall.act a) (switchFilter a iptables ebpf) (switchCalls a calls calls') := by
  unfold switchFilter switchCalls
  split
  · exact hiptables
  · split
    · exact hebpf
    · exact Stmt.needs_returns _ _

/-- A temporary port needs the rules of its mode. -/
theorem needs_passTempPort (ipType : IPType) (ports : PortSpec) (protocol : String) (port : Nat) :
    Stmt.Needs AcState.ops (RuleCall.act a) (passTempPort a t ipType ports protocol port)
      (tempPortCalls a t ipType ports protocol port) :=
  needs_switchFilter ((needs_ipsetAddOr _ _ _ _ _).seq (needs_ipsetAddOr _ _ _ _ _)) (needs_ebpfAddChecked _ _ _)

/-- A test needs no operation. -/
theorem needs_failIf (b : Prop) [Decidable b] (e : AcError) :
    Stmt.Needs AcState.ops (RuleCall.act a) (failIf b e) [] := by
  unfold failIf Stmt.cond
  split
  · exact Stmt.needs_returns _ _
  · exact Stmt.needs_assign (f := id) fun _ => rfl

/-- Control passes the branch exactly when the ports open and each rule is added. -/
theorem preAccess_passes_iff {dst : NetAddress} {s : AcState} :
    (∃ s', preAccess a t dst s = .next s') ↔
      TempPortsOpen a dst ∧ (Stmt.actAll (RuleCall.act a) (preAccessCalls a t dst) s.ops).isSome := by
  constructor
  · rintro ⟨s', h⟩
    have hopen : TempPortsOpen a dst := tempPortsOpen_of_next h
    refine ⟨hopen, ?_⟩
    obtain ⟨ip, port, hip, hport, -, -, -⟩ := hopen
    have htemp : tempPort a dst = some port := by rw [tempPort, hip, Option.bind_some, hport]
    have hneeds : Stmt.Needs AcState.ops (RuleCall.act a) (preAccess a t dst) (preAccessCalls a t dst) := by
      have hcalls : preAccessCalls a t dst =
          ([] ++ (tempPortCalls a t (ipTypeOf dst.ip) (.tcp port) "tcp" port ++ [])) ++
            ([] ++ (tempPortCalls a t (ipTypeOf dst.ip) (.udp port) "udp" port ++ [])) := by
        rw [preAccessCalls, htemp]
        simp only [List.nil_append, List.append_nil]
      rw [hcalls, preAccess_eq hip hport]
      refine Stmt.Needs.seq ?_ ?_
      · exact (needs_failIf _ _).seq ((needs_passTempPort _ _ _ _).seq (needs_failIf _ _))
      · exact (needs_failIf _ _).seq ((needs_passTempPort _ _ _ _).seq (Stmt.needs_assign fun _ => rfl))
    rw [hneeds s s' h]
    rfl
  · rintro ⟨hopen, hcalls⟩
    obtain ⟨ops, hops⟩ := Option.isSome_iff_exists.mp hcalls
    obtain ⟨s', hs', -⟩ := makes_preAccess hopen s ops hops
    exact ⟨s', hs'⟩

end Needs

/-! ## When it is all or nothing -/

section Decide

variable {a : UdpAC} {t : Int} {srcAddrs dstAddrs : List NetAddress} {dst : NetAddress} {openTimeSec : Int}
variable {artMsg : ACOpsResultMsg}

/-- The rules of a port are the last that set `err`, and none of them has failed. -/
theorem passTempPort_err {ipType : IPType} {ports : PortSpec} {protocol : String} {port : Nat} {s s' : AcState}
    (h : passTempPort a t ipType ports protocol port s = .next s') : s'.err = none := by
  have hipset : ∀ {failed ipType n expire entry} {s s' : AcState},
      ipsetAddOr a failed ipType n expire entry s = .next s' → s'.err = none := by
    intro failed ipType n expire entry s s' h
    unfold ipsetAddOr at h
    split at h
    · cases h
      rfl
    · cases h
  unfold passTempPort switchFilter at h
  split at h
  · obtain ⟨_, -, h⟩ := Stmt.seq_eq_next.mp h
    exact hipset h
  · split at h
    · unfold ebpfAddChecked at h
      split at h
      · cases h
        rfl
      · cases h
    · cases h

/-- Behind its success there is no error. -/
theorem udpSetup_err {port : Nat} {s s' : AcState} (h : udpSetup a t dst port s = .next s') : s'.err = none := by
  obtain ⟨_, -, h⟩ := Stmt.seq_eq_next.mp h
  obtain ⟨_, hpass, h⟩ := Stmt.seq_eq_next.mp h
  cases h
  have herr := passTempPort_err hpass
  exact herr

/-- The checks at the beginning, and the code at the end. -/
theorem carryOutSetup_of_ipset (hipset : ¬ (a.config.filterMode = filterModeIPTables ∧ a.ipset = false)) (s : Setup) :
    (carryOutSetup a dst openTimeSec s).state =
      match preAccessSetup a (tempOpenTime openTimeSec) dst s with
      | .ret s' => s'
      | .next s' => { s' with state := s'.state.succeed openTimeSec } := by
  have hpass : failIf (a.config.filterMode = filterModeIPTables ∧ a.ipset = false) .acIPSetNotFound =
      (Stmt.skip : Stmt AcState) := if_neg hipset
  rw [carryOutSetup, hpass]
  dsimp only [Stmt.seq, Stmt.skip, Stmt.assign, onState, Stmt.onPart]
  cases preAccessSetup a (tempOpenTime openTimeSec) dst s with
  | ret s' => rfl
  | next s' => rfl

/-- Without sources or destinations nothing is opened. -/
theorem handleAccessControlSetup_of_nil (h : srcAddrs = [] ∨ withDefaultIp a.config dstAddrs = []) :
    handleAccessControlSetup a srcAddrs dstAddrs openTimeSec artMsg =
      .start ((AcState.start artMsg).fail .acEmptyPassAddress) := by
  unfold handleAccessControlSetup
  rcases h with rfl | hnil
  · rfl
  · rw [hnil]
    cases srcAddrs <;> rfl

/-- With both, the request is carried out for the first destination. -/
theorem handleAccessControlSetup_of_cons {dsts : List NetAddress} (hsrcs : srcAddrs ≠ [])
    (hdsts : withDefaultIp a.config dstAddrs = dst :: dsts) :
    handleAccessControlSetup a srcAddrs dstAddrs openTimeSec artMsg =
      (carryOutSetup a dst openTimeSec (.start (.start artMsg))).state := by
  obtain ⟨src, srcs, rfl⟩ := List.exists_cons_of_ne_nil hsrcs
  unfold handleAccessControlSetup
  rw [hdsts]

/-- In this pass mode the listeners are all that is added to `HandleAccessControl`. -/
theorem handleAccessControlSetup_state (hmode : a.config.ipPassMode = passPreAccessIP) :
    (handleAccessControlSetup a srcAddrs dstAddrs openTimeSec artMsg).state =
      handleAccessControl a srcAddrs dstAddrs openTimeSec artMsg := by
  cases hsrcs : srcAddrs with
  | nil => rfl
  | cons src srcs =>
    cases hdsts : withDefaultIp a.config dstAddrs with
    | nil =>
      rw [handleAccessControlSetup_of_nil (.inr hdsts)]
      unfold handleAccessControl
      rw [hdsts]
      rfl
    | cons dst dsts =>
      rw [handleAccessControlSetup_of_cons (List.cons_ne_nil _ _) hdsts]
      unfold handleAccessControl
      rw [hdsts]
      dsimp only
      by_cases hipset : a.config.filterMode = filterModeIPTables ∧ a.ipset = false
      · have hfail : failIf (a.config.filterMode = filterModeIPTables ∧ a.ipset = false) .acIPSetNotFound =
            Stmt.returns (AcState.fail .acIPSetNotFound) := if_pos hipset
        rw [carryOutSetup, carryOut, hfail]
        rfl
      · obtain ⟨hstate, hpasses⟩ := preAccessSetup_state a (tempOpenTime openTimeSec) dst (.start artMsg)
        rw [carryOutSetup_of_ipset hipset, carryOut_eq hipset, installRules, if_pos hmode, Stmt.seq]
        cases hsetup : preAccessSetup a (tempOpenTime openTimeSec) dst (.start (.start artMsg)) with
        | ret s' =>
          rw [hsetup] at hstate hpasses
          cases hpre : preAccess a (tempOpenTime openTimeSec) dst (.start artMsg) with
          | ret s'' =>
            rw [hpre] at hstate
            exact hstate
          | next s'' =>
            obtain ⟨_, hnext⟩ := hpasses.mpr ⟨s'', hpre⟩
            cases hnext
        | next s' =>
          rw [hsetup] at hstate hpasses
          obtain ⟨s'', hpre⟩ := hpasses.mp ⟨s', rfl⟩
          rw [hpre] at hstate ⊢
          exact congrArg (AcState.succeed openTimeSec) hstate

/-- Without a port to listen on nothing is opened. -/
theorem preAccessSetup_of_none (hport : tempPort a dst = none) (s : Setup) :
    ∃ state, preAccessSetup a t dst s = .ret { s with state := state } := by
  unfold tempPort at hport
  rw [preAccessSetup]
  cases hip : parseNetIP a.net6 dst.ip with
  | none => exact ⟨_, rfl⟩
  | some dstIp =>
    rw [hip, Option.bind_some] at hport
    dsimp only
    rw [hport]
    exact ⟨_, rfl⟩

/-- A listener is open behind a failed step, and with no failed step both have been handed on. -/
theorem preAccessSetup_of_port {port : Nat} (hport : tempPort a dst = some port) (s : AcState) :
    (∃ s', preAccessSetup a t dst (.start s) = .ret s' ∧ s'.opened ≠ [] ∧ ¬ s'.Complete) ∨
      ∃ s', preAccessSetup a t dst (.start s) = .next s' ∧ s'.opened = [] ∧ s'.Complete ∧ s'.state.err = none := by
  obtain ⟨dstIp, hip, hlisten⟩ := Option.bind_eq_some_iff.mp hport
  rw [preAccessSetup_eq hip hlisten]
  cases tcpSetup a t dst dstIp port s with
  | ret s' => exact .inl ⟨_, rfl, nofun, nofun⟩
  | next s' =>
    dsimp only
    cases hudp : udpSetup a t dst port s' with
    | ret s'' => exact .inl ⟨_, rfl, nofun, nofun⟩
    | next s'' => exact .inr ⟨_, rfl, rfl, rfl, udpSetup_err hudp⟩

/-- Where the first listener is open, it is all or nothing just where control passes the branch. -/
theorem allOrNothing_of_port {dsts : List NetAddress} {port : Nat} (hsrcs : srcAddrs ≠ [])
    (hdsts : withDefaultIp a.config dstAddrs = dst :: dsts)
    (hipset : ¬ (a.config.filterMode = filterModeIPTables ∧ a.ipset = false)) (hport : tempPort a dst = some port) :
    AllOrNothing a srcAddrs dstAddrs openTimeSec artMsg ↔
      ∃ s', preAccess a (tempOpenTime openTimeSec) dst (.start artMsg) = .next s' := by
  have hrequest : handleAccessControlSetup a srcAddrs dstAddrs openTimeSec artMsg = _ :=
    handleAccessControlSetup_of_cons hsrcs hdsts
  rw [carryOutSetup_of_ipset hipset] at hrequest
  have hpasses := (preAccessSetup_state a (tempOpenTime openTimeSec) dst (.start artMsg)).2
  rcases preAccessSetup_of_port (t := tempOpenTime openTimeSec) hport (.start artMsg) with
    ⟨s', hret, hopened, hincomplete⟩ | ⟨s', hnext, hopened, hcomplete, herr⟩
  · -- the listener that is open stays so
    rw [hret] at hrequest hpasses
    refine iff_of_false (fun h => hopened ?_) fun h => ?_
    · have hclosed := h.1
      rw [hrequest] at hclosed
      exact hclosed hincomplete
    · obtain ⟨s'', hs''⟩ := hpasses.mpr h
      cases hs''
  · rw [hnext] at hrequest hpasses
    refine iff_of_true ⟨fun _ => ?_, fun _ => ?_⟩ (hpasses.mp ⟨s', rfl⟩)
    · rw [hrequest]
      exact hopened
    · rw [hrequest]
      exact ⟨hcomplete, herr, rfl⟩

/-- A request is all or nothing just where no step fails behind the first listener. -/
theorem allOrNothing_iff (a : UdpAC) (srcAddrs dstAddrs : List NetAddress) (openTimeSec : Int)
    (artMsg : ACOpsResultMsg) :
    AllOrNothing a srcAddrs dstAddrs openTimeSec artMsg ↔ OpensBoth a srcAddrs dstAddrs openTimeSec := by
  -- where nothing is opened and some step fails, there is nothing to be said
  have hnothing : (handleAccessControlSetup a srcAddrs dstAddrs openTimeSec artMsg).opened = [] →
      ¬ NoFailingStep a srcAddrs dstAddrs → AllOrNothing a srcAddrs dstAddrs openTimeSec artMsg :=
    fun hopened hfails => ⟨fun _ => hopened, fun h => absurd h hfails⟩
  by_cases hsrcs : srcAddrs = []
  · refine iff_of_true (hnothing ?_ fun h => h.sources hsrcs) fun _ _ hne => absurd hsrcs hne
    rw [handleAccessControlSetup_of_nil (.inl hsrcs)]
    rfl
  cases hdsts : withDefaultIp a.config dstAddrs with
  | nil =>
    refine iff_of_true (hnothing ?_ fun h => ?_) fun dst dsts _ hcons => ?_
    · rw [handleAccessControlSetup_of_nil (.inr hdsts)]
      rfl
    · obtain ⟨dst, dsts, hcons, -⟩ := h.destination
      cases hdsts.symm.trans hcons
    · cases hdsts.symm.trans hcons
  | cons dst dsts =>
    have hrequest : handleAccessControlSetup a srcAddrs dstAddrs openTimeSec artMsg = _ :=
      handleAccessControlSetup_of_cons hsrcs hdsts
    by_cases hipset : a.config.filterMode = filterModeIPTables ∧ a.ipset = false
    · refine iff_of_true (hnothing ?_ fun h => h.ipset hipset) fun _ _ _ _ hnot => absurd hipset hnot
      have hfail : failIf (a.config.filterMode = filterModeIPTables ∧ a.ipset = false) .acIPSetNotFound =
          Stmt.returns (AcState.fail .acIPSetNotFound) := if_pos hipset
      rw [hrequest, carryOutSetup, hfail]
      rfl
    · cases hport : tempPort a dst with
      | none =>
        obtain ⟨state, hret⟩ := preAccessSetup_of_none (t := tempOpenTime openTimeSec) hport (.start (.start artMsg))
        rw [carryOutSetup_of_ipset hipset, hret] at hrequest
        refine iff_of_true (hnothing ?_ fun h => ?_) fun dst' dsts' _ hcons _ hsome => ?_
        · rw [hrequest]
          rfl
        · obtain ⟨dst', dsts', hcons, hip⟩ := h.destination
          cases hdsts.symm.trans hcons
          obtain ⟨ip, hip⟩ := Option.isSome_iff_exists.mp hip
          have hlisten := h.listenTCP ip
          rw [tempPort, hip, Option.bind_some] at hport
          rw [hport] at hlisten
          cases hlisten
        · cases hdsts.symm.trans hcons
          rw [hport] at hsome
          cases hsome
      | some port =>
        rw [allOrNothing_of_port hsrcs hdsts hipset hport, preAccess_passes_iff]
        constructor
        · rintro hopens dst' dsts' - hcons - -
          cases hdsts.symm.trans hcons
          exact hopens
        · intro h
          exact h dst dsts hsrcs hdsts hipset (Option.isSome_of_eq_some hport)

/-- For an IPv6 destination the second entry of a port names no network.  Where ipset refuses it, the request
    fails and leaves a listener open, whatever else succeeds. -/
theorem not_allOrNothing_v6 {dsts : List NetAddress}
    (hrefused : ∀ ops set ports expire,
      a.kernel.runIPSet ops (addArgs set (.netPort (.other "") ports) expire) = false)
    (hfilter : a.config.filterMode = filterModeIPTables) (hipset : a.ipset = true) (hsrcs : srcAddrs ≠ [])
    (hdsts : withDefaultIp a.config dstAddrs = dst :: dsts) (hv6 : ipTypeOf dst.ip = .v6)
    (hport : (tempPort a dst).isSome) : ¬ AllOrNothing a srcAddrs dstAddrs openTimeSec artMsg := by
  intro h
  have hnot : ¬ (a.config.filterMode = filterModeIPTables ∧ a.ipset = false) := by
    rw [hipset]
    exact fun hboth => absurd hboth.2 (by decide)
  obtain ⟨port, hport⟩ := Option.isSome_iff_exists.mp hport
  obtain ⟨-, hcalls⟩ := preAccess_passes_iff.mp ((allOrNothing_of_port hsrcs hdsts hnot hport).mp h)
  rw [preAccessCalls, hport, hv6] at hcalls
  change (Stmt.actAll _ _ []).isSome = true at hcalls
  dsimp only at hcalls
  rw [tempPortCalls, switchCalls, if_pos hfilter, List.cons_append, Stmt.actAll_cons] at hcalls
  cases hfirst : (ipsetCall .v6 4 (tempOpenTime openTimeSec) (.netPort (preAccessNets .v6).1 (.tcp port))).act a [] with
  | none =>
    rw [hfirst] at hcalls
    cases hcalls
  | some ops =>
    have hsecond : (ipsetCall .v6 4 (tempOpenTime openTimeSec) (.netPort (preAccessNets .v6).2 (.tcp port))).act a ops =
        none := by
      rw [ipsetCall, RuleCall.act]
      exact if_neg (Bool.eq_false_iff.mp (hrefused ops _ _ _))
    rw [hfirst, Option.bind_some, List.cons_append, Stmt.actAll_cons, hsecond] at hcalls
    cases hcalls

end Decide

/-! ## Listeners that stay open -/

/-- An AC whose UDP port is taken. -/
def takenAC : UdpAC := { sampleAC filterModeIPTables passPreAccessIP with listenUDP := fun _ _ => false }

/-- An AC on which nothing fails but the addition of an entry that begins with its only comma. -/
def refusingAC : UdpAC := { sampleAC filterModeIPTables passPreAccessIP with
  net6 := ⟨fun _ => some (List.replicate 15 0 ++ [1]), fun _ => "::1"⟩
  kernel := ⟨fun _ args => (args[3]?).all fun entry =>
    decide (entry.toList.head? ≠ some ',' ∨ entry.toList.count ',' ≠ 1), fun _ _ => true, fun _ => 0⟩ }

/-- A web service on this host, over IPv6. -/
def webAddr6 : NetAddress := ⟨"::1", 443, "tcp"⟩

/-- No step fails for it, as an entry without a network is none that would have to succeed. -/
theorem refusingAC_noFailingStep : NoFailingStep refusingAC [agentAddr] [webAddr6] where
  sources := List.cons_ne_nil _ _
  destination := ⟨webAddr6, [], by decide, by decide⟩
  ipset := by decide
  filterMode := .inl rfl
  listenTCP _ := rfl
  resolveTCPAddr _ := rfl
  listenUDP _ _ := rfl
  resolveUDPAddr _ := rfl
  runIPSet ops set net ports expire hnet := by
    refine decide_eq_true ?_
    show (net.text ++ "," ++ ports.text).toList.head? ≠ _ ∨ (net.text ++ "," ++ ports.text).toList.count ',' ≠ 1
    rw [String.toList_append, String.toList_append]
    cases hchars : net.text.toList with
    | nil => exact absurd (String.toList_eq_nil_iff.mp hchars) hnet
    | cons c cs =>
      by_cases hc : c = ','
      · refine .inr ?_
        rw [hc, List.count_append, List.count_append, List.count_cons_self]
        show ¬ _ + 1 + 1 + _ = 1
        omega
      · exact .inl fun h => hc (Option.some.inj h)
  updateMap _ _ := rfl

/-- The TCP listener stays open where the UDP listener is not got, and for an IPv6 destination. -/
theorem listener_stays_open :
    (handleAccessControlSetup takenAC [agentAddr] [webAddr] 65 {}).opened = [.tcp] ∧
      ¬ AllOrNothing takenAC [agentAddr] [webAddr] 65 {} ∧
      (handleAccessControlSetup refusingAC [agentAddr] [webAddr6] 65 {}).state.err = some .acIPSetOperationFailed ∧
      ¬ AllOrNothing refusingAC [agentAddr] [webAddr6] 65 {} := by
  have htaken : (handleAccessControlSetup takenAC [agentAddr] [webAddr] 65 {}).opened = [.tcp] := by decide +kernel
  have hrefused : (handleAccessControlSetup refusingAC [agentAddr] [webAddr6] 65 {}).handed = [] := by
    decide +kernel
  refine ⟨htaken, fun h => ?_, by decide +kernel, fun h => ?_⟩
  · have hhanded : (handleAccessControlSetup takenAC [agentAddr] [webAddr] 65 {}).handed = [] := by decide +kernel
    have hopened := h.1 fun hcomplete => absurd (hhanded.symm.trans hcomplete) (by decide)
    cases htaken.symm.trans hopened
  · obtain ⟨hcomplete, -⟩ := h.2 refusingAC_noFailingStep
    cases hrefused.symm.trans hcomplete

end OpenNHP.AC
