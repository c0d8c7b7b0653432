/-
  Does the answer of the access controller tell the truth?

  1. **The property.**  `Truthful` is what an answer should satisfy: the success code exactly when the rules of all
     the calls of the request are installed, a code with every failure, a token with success only.

  2. **What a request asks for.**  `requestCalls` lists what a request asks of the operating system, in the order
     of the loops.  It is written beside the handler, not read off it, so that "all rules are installed" has a
     meaning of its own.

  3. **What the code makes of it.**  `Makes a p calls`: the statement `p` makes the calls, in order, and goes on
     when they succeed.  One lemma for each statement of the handler, up to the whole request
     (`makes_requestCalls`).  In the other direction, every operation in the state was accepted where it stands
     (`Logged`), so that calls whose rules are all installed do succeed when they are made again
     (`actAll_of_installed`).

  4. **The result.**  The handler generates a token for every request, and an error of the maps ends the request
     without a code; the additions of the range mode can fail behind a success code.  So an answer is true exactly
     when the request could be served to the last rule (`truthful_iff`, with `Serviceable`).
-/
import OpenNHP.AC.Operations
import Mathlib.Data.List.Forall2

namespace OpenNHP.AC

open Inet Statement

/-! ## Rule calls -/

/-- One attempt to install a rule; `unsupported` is the attempt in a filter mode that is none. -/
inductive RuleCall
  | ipset (set : String) (entry : Entry) (expire : Int)
  | ebpf (mapType : Int) (params : EbpfRuleParams) (ttl : Int)
  | unsupported

/-- The operation that a call comes down to. -/
def RuleCall.Installs (net6 : Net6) : RuleCall → RuleOp → Prop
  | .ipset set entry expire, op => op = .ipset set entry expire
  | .ebpf mapType params ttl, op =>
    ∃ now u, ebpfRuleAdd net6 now mapType params ttl = .ok u ∧ op = .ebpf u
  | .unsupported, _ => False

/-- A call behind the operations so far, when the operating system lets it succeed. -/
def RuleCall.act (a : UdpAC) : RuleCall → List RuleOp → Option (List RuleOp)
  | .ipset set entry expire, ops =>
    if a.kernel.runIPSet ops (addArgs set entry expire) then some (ops ++ [.ipset set entry expire])
    else none
  | .ebpf mapType params ttl, ops =>
    match ebpfRuleAdd a.net6 (a.kernel.bootTimeNanos ops) mapType params ttl with
    | .error _ => none
    | .ok u => if a.kernel.updateMap ops u then some (ops ++ [.ebpf u]) else none
  | .unsupported, _ => none

section Calls

variable (a : UdpAC) (openTimeSec tempOpenTimeSec : Int)

/-- The calls of the mode that is taken; a mode that is none has one that nothing can install. -/
def switchCalls (iptables ebpf : List RuleCall) : List RuleCall :=
  if a.config.filterMode = filterModeIPTables then iptables
  else if a.config.filterMode = filterModeEbpfXdp then ebpf
  else [.unsupported]

/-- An entry of the default set (1) or the temporary set (4) of an address family. -/
def ipsetCall (ipType : IPType) (t : Nat) (expire : Int) (entry : Entry) : RuleCall :=
  .ipset (getIpsetName ipType t) entry expire

/-- The calls of a port, for `proto` the protocol that a destination may name. -/
def portCalls (ports : PortSpec) (proto : String) (src dst : NetAddress) : List RuleCall :=
  switchCalls a
    [ipsetCall (ipTypeOf src.ip) 1 openTimeSec (.srcPortDst src.ip ports dst.ip)]
    ((if dst.forAny then [.ebpf 2 { srcIP := src.ip, dstIP := dst.ip } openTimeSec] else []) ++
      if dst.protocol = proto then
        [.ebpf 1 { srcIP := src.ip, dstIP := dst.ip, dstPort := dst.port, protocol := dst.protocol }
          openTimeSec]
      else [])

/-- The calls of the loops, in their order: ping to every destination, -/
def pingCalls (src : NetAddress) (dstAddrs : List NetAddress) : List RuleCall :=
  dstAddrs.flatMap fun dst => switchCalls a
    [ipsetCall (ipTypeOf src.ip) 1 openTimeSec (.srcPortDst src.ip .icmpEcho dst.ip)]
    [.ebpf 3 { srcIP := src.ip, dstIP := dst.ip } openTimeSec]

/-- the ports of a range, address by address, -/
def rangePortCalls (n : IPNet) (dst : NetAddress) : List RuleCall :=
  (n.walk rangeRounds).flatMap fun ip =>
    if dst.port ≠ 0 then
      [.ebpf 4 { srcIP := ipString a.net6 ip, dstPort := dst.port } tempOpenTimeSec]
    else
      [.ebpf 5 { srcIP := ipString a.net6 ip, dstPortStart := 1, dstPortEnd := 65535 } tempOpenTimeSec]

/-- ping for a range, -/
def rangePingCalls (n : IPNet) (dst : NetAddress) : List RuleCall :=
  (n.walk rangeRounds).flatMap fun ip =>
    [.ebpf 3 { srcIP := ipString a.net6 ip, dstIP := dst.ip } openTimeSec]

/-- a range as a whole, -/
def rangeCalls (src dst : NetAddress) : List RuleCall :=
  match sourceNet a.net6 src.ip with
  | none => []
  | some n =>
    if a.config.ipPassMode = passKnockIPWithRange then
      let entry (ports : PortSpec) := ipsetCall (ipTypeOf src.ip) 4 tempOpenTimeSec
        (.netPort (netSpec a.net6 n) ports)
      switchCalls a
        (((if dst.forTCP then [entry (tcpPorts dst.port)] else []) ++
          if dst.forUDP then [entry (udpPorts dst.port)] else []) ++
          if dst.forPing then [entry .icmpEcho] else [])
        (((if dst.forTCP then rangePortCalls a tempOpenTimeSec (reparsedNet n) dst else []) ++
          if dst.forUDP then rangePortCalls a tempOpenTimeSec (reparsedNet n) dst else []) ++
          if dst.forPing then rangePingCalls a openTimeSec (reparsedNet n) dst else [])
    else []

/-- a source and a destination, -/
def pairCalls (dstAddrs : List NetAddress) (src dst : NetAddress) : List RuleCall :=
  (((if dst.forTCP then portCalls a openTimeSec (tcpPorts dst.port) "tcp" src dst else []) ++
    if dst.forUDP then portCalls a openTimeSec (udpPorts dst.port) "udp" src dst else []) ++
    if dst.forPing then pingCalls a openTimeSec src dstAddrs else []) ++
    rangeCalls a openTimeSec tempOpenTimeSec src dst

/-- all of them, -/
def knockCalls (srcAddrs dstAddrs : List NetAddress) : List RuleCall :=
  srcAddrs.flatMap fun src => dstAddrs.flatMap fun dst =>
    pairCalls a openTimeSec tempOpenTimeSec dstAddrs src dst

/-- a temporary port, -/
def tempPortCalls (ipType : IPType) (ports : PortSpec) (protocol : String) (port : Nat) :
    List RuleCall :=
  switchCalls a
    [ipsetCall ipType 4 tempOpenTimeSec (.netPort (preAccessNets ipType).1 ports),
     ipsetCall ipType 4 tempOpenTimeSec (.netPort (preAccessNets ipType).2 ports)]
    [.ebpf 6 { protocol := protocol, dstPort := port } tempOpenTimeSec]

/-- The port that the listener for a destination gets. -/
def tempPort (dst : NetAddress) : Option Nat :=
  (parseNetIP a.net6 dst.ip).bind a.listenTCP

/-- and both temporary ports, on the port that the listener is given. -/
def preAccessCalls (dst : NetAddress) : List RuleCall :=
  match tempPort a dst with
  | none => []
  | some port =>
    tempPortCalls a tempOpenTimeSec (ipTypeOf dst.ip) (.tcp port) "tcp" port ++
      tempPortCalls a tempOpenTimeSec (ipTypeOf dst.ip) (.udp port) "udp" port

end Calls

/-- The calls of a request, in the order of the loops. -/
def requestCalls (a : UdpAC) (m : ServerACOpsMsg) : List RuleCall :=
  match withDefaultIp a.config m.destinationAddrs with
  | [] => []
  | dst :: dsts =>
    if a.config.ipPassMode = passPreAccessIP then
      preAccessCalls a (tempOpenTime m.openTimeSec) dst
    else knockCalls a m.openTimeSec (tempOpenTime m.openTimeSec) m.sourceAddrs (dst :: dsts)

/-! ## What a true answer is -/

/-- Every call has installed its rule, by an operation of its own. -/
def Installed (a : UdpAC) (calls : List RuleCall) (ops : List RuleOp) : Prop :=
  List.Forall₂ (RuleCall.Installs a.net6) calls ops

/-- What the answer should satisfy. -/
structure Truthful (a : UdpAC) (m : ServerACOpsMsg) : Prop where
  success_iff : (handleUdpACOperations a m).artMsg.errCode = "0" ↔
    Installed a (requestCalls a m) (handleUdpACOperations a m).ops
  failure_code : (handleUdpACOperations a m).artMsg.errCode ≠ "0" →
    (handleUdpACOperations a m).artMsg.errCode ≠ ""
  token : (handleUdpACOperations a m).tokens ≠ [] →
    (handleUdpACOperations a m).artMsg.errCode = "0"

/-- The temporary ports of a destination open. -/
def TempPortsOpen (a : UdpAC) (dst : NetAddress) : Prop :=
  ∃ ip port, parseNetIP a.net6 dst.ip = some ip ∧ a.listenTCP ip = some port ∧
    a.resolveTCPAddr port = true ∧ a.listenUDP ip port = true ∧ a.resolveUDPAddr port = true

/-- The request names sources and destinations, the AC can serve it in its modes, and no call fails. -/
structure Serviceable (a : UdpAC) (m : ServerACOpsMsg) : Prop where
  sources : m.sourceAddrs ≠ []
  destinations : m.destinationAddrs ≠ []
  ipset : ¬ (a.config.filterMode = filterModeIPTables ∧ a.ipset = false)
  ports : a.config.ipPassMode = passPreAccessIP →
    ∃ dst dsts, withDefaultIp a.config m.destinationAddrs = dst :: dsts ∧ TempPortsOpen a dst
  calls : (Stmt.actAll (RuleCall.act a) (requestCalls a m) []).isSome

/-! ## Calls and operations -/

section Act

variable {a : UdpAC}

/-- A call that succeeds appends its rule. -/
theorem RuleCall.act_installs {c : RuleCall} {ops ops' : List RuleOp} (h : c.act a ops = some ops') :
    ∃ op, ops' = ops ++ [op] ∧ c.Installs a.net6 op := by
  cases c with
  | ipset set entry expire =>
    rw [RuleCall.act] at h
    split at h <;> cases h
    exact ⟨_, rfl, rfl⟩
  | ebpf mapType params ttl =>
    rw [RuleCall.act] at h
    split at h
    · cases h
    · rename_i u hu
      split at h <;> cases h
      exact ⟨_, rfl, _, u, hu, rfl⟩
  | unsupported => cases h

/-- Calls that are accepted are installed. -/
theorem installed_of_actAll {calls : List RuleCall} {ops ops' : List RuleOp}
    (h : Stmt.actAll (RuleCall.act a) calls ops = some ops') :
    ∃ new, ops' = ops ++ new ∧ Installed a calls new := by
  induction calls generalizing ops with
  | nil =>
    cases h
    exact ⟨[], (List.append_nil _).symm, .nil⟩
  | cons c calls ih =>
    rw [Stmt.actAll_cons] at h
    obtain ⟨mid, hmid, hrest⟩ := Option.bind_eq_some_iff.mp h
    obtain ⟨op, rfl, hop⟩ := RuleCall.act_installs hmid
    obtain ⟨new, rfl, hnew⟩ := ih hrest
    exact ⟨op :: new, by simp, .cons hop hnew⟩

/-- The operating system has let an operation succeed behind others. -/
def Accepted (a : UdpAC) (ops : List RuleOp) : RuleOp → Prop
  | .ipset set entry expire => a.kernel.runIPSet ops (addArgs set entry expire) = true
  | .ebpf u => a.kernel.updateMap ops u = true ∧ u.now = a.kernel.bootTimeNanos ops

/-- Every operation of a log was let succeed behind those before it. -/
def Logged (a : UdpAC) (ops : List RuleOp) : Prop :=
  ∀ before op after, ops = before ++ op :: after → Accepted a before op

/-- One more operation that was accepted. -/
theorem Logged.snoc {ops : List RuleOp} {op : RuleOp} (h : Logged a ops) (hop : Accepted a ops op) :
    Logged a (ops ++ [op]) := by
  intro before op' after heq
  obtain rfl | ⟨after, last, rfl⟩ := List.eq_nil_or_concat after
  · obtain ⟨rfl, hop'⟩ := List.append_inj' heq rfl
    cases hop'
    exact hop
  · rw [List.concat_eq_append, ← List.cons_append, ← List.append_assoc] at heq
    obtain ⟨rfl, -⟩ := List.append_inj' heq rfl
    exact h before op' after rfl

/-- A rule in the log came from a call that succeeded. -/
theorem RuleCall.act_of_accepted {c : RuleCall} {ops : List RuleOp} {op : RuleOp}
    (hop : Accepted a ops op) (h : c.Installs a.net6 op) : c.act a ops = some (ops ++ [op]) := by
  cases c with
  | ipset set entry expire =>
    cases h
    exact if_pos hop
  | ebpf mapType params ttl =>
    obtain ⟨now, u, hu, rfl⟩ := h
    obtain ⟨hupdate, hnow⟩ := hop
    rw [(ebpfRuleAdd_times hu).1] at hnow
    rw [RuleCall.act, ← hnow, hu]
    exact if_pos hupdate
  | unsupported => exact h.elim

/-- And what is installed was accepted, each in its turn. -/
theorem actAll_of_installed {calls : List RuleCall} {ops new : List RuleOp}
    (hlogged : Logged a (ops ++ new)) (h : Installed a calls new) :
    Stmt.actAll (RuleCall.act a) calls ops = some (ops ++ new) := by
  induction h generalizing ops with
  | nil => exact (congrArg some (List.append_nil ops)).symm
  | @cons c op calls new hop hnew ih =>
    rw [Stmt.actAll_cons, RuleCall.act_of_accepted (hlogged ops op new rfl) hop, Option.bind_some,
      ih (by rwa [List.append_assoc]), List.append_assoc]
    rfl

end Act

/-! ## The handlers perform the calls -/

section Performs

variable {a : UdpAC} {openTimeSec tempOpenTimeSec : Int}

/-- A statement that makes the calls, in order, and goes on when they succeed. -/
def Makes (a : UdpAC) (p : Stmt AcState) (calls : List RuleCall) : Prop :=
  Stmt.Performs AcState.ops (RuleCall.act a) p calls

/-- What an accepted call for ipset means for the operation of the handlers. -/
theorem ipsetOp_of_act {ipType : IPType} {t : Nat} {expire : Int} {entry : Entry} {s : AcState}
    {ops : List RuleOp} (h : (ipsetCall ipType t expire entry).act a s.ops = some ops) :
    ipsetOp a ipType t expire entry s = some { s with ops := ops } := by
  rw [ipsetCall, RuleCall.act] at h
  split at h <;> cases h
  rename_i hrun
  exact if_pos hrun

/-- An update that is accepted succeeds. -/
theorem ebpfOp_of_act {mapType : Int} {params : EbpfRuleParams} {ttl : Int} {s : AcState}
    {ops : List RuleOp} (h : (RuleCall.ebpf mapType params ttl).act a s.ops = some ops) :
    ebpfOp a mapType params ttl s = .ok { s with ops := ops } := by
  rw [RuleCall.act] at h
  split at h
  · cases h
  · rename_i u hu
    split at h <;> cases h
    rename_i hupdate
    rw [ebpfOp, hu]
    exact if_pos hupdate

/-- Each operation makes its call, however its error is treated. -/
theorem makes_ipsetAddOr (failed : AcState → AcState) (ipType : IPType) (t : Nat) (expire : Int)
    (entry : Entry) :
    Makes a (ipsetAddOr a failed ipType t expire entry) [ipsetCall ipType t expire entry] := by
  intro s ops h
  rw [Stmt.actAll_singleton] at h
  refine ⟨{ s with ops := ops, err := none }, ?_, rfl⟩
  rw [ipsetAddOr, ipsetOp_of_act h]

/-- The error is overwritten, -/
theorem makes_ipsetAddUnchecked (ipType : IPType) (t : Nat) (expire : Int) (entry : Entry) :
    Makes a (ipsetAddUnchecked a ipType t expire entry) [ipsetCall ipType t expire entry] := by
  intro s ops h
  rw [Stmt.actAll_singleton] at h
  refine ⟨{ s with ops := ops, err := none }, ?_, rfl⟩
  rw [ipsetAddUnchecked, ipsetOp_of_act h]

/-- ends the request -/
theorem makes_ebpfAddChecked (mapType : Int) (params : EbpfRuleParams) (ttl : Int) :
    Makes a (ebpfAddChecked a mapType params ttl) [.ebpf mapType params ttl] := by
  intro s ops h
  rw [Stmt.actAll_singleton] at h
  refine ⟨{ s with ops := ops, err := none }, ?_, rfl⟩
  rw [ebpfAddChecked, ebpfOp_of_act h]

/-- or is logged. -/
theorem makes_ebpfAddLogged (mapType : Int) (params : EbpfRuleParams) (ttl : Int) :
    Makes a (ebpfAddLogged a mapType params ttl) [.ebpf mapType params ttl] := by
  intro s ops h
  rw [Stmt.actAll_singleton] at h
  refine ⟨{ s with ops := ops }, ?_, rfl⟩
  rw [ebpfAddLogged, ebpfOp_of_act h]

/-- One of the two modes is taken. -/
theorem makes_switchFilter {iptables ebpf : Stmt AcState} {calls calls' : List RuleCall}
    (hiptables : Makes a iptables calls) (hebpf : Makes a ebpf calls') :
    Makes a (switchFilter a iptables ebpf) (switchCalls a calls calls') := by
  unfold switchFilter switchCalls
  split
  · exact hiptables
  · split
    · exact hebpf
    · intro s ops h
      cases h

/-- The statements of `HandleAccessControl` in their order: the rule for TCP, -/
theorem makes_passTCP (src dst : NetAddress) :
    Makes a (passTCP a openTimeSec src dst)
      (portCalls a openTimeSec (tcpPorts dst.port) "tcp" src dst) :=
  makes_switchFilter (makes_ipsetAddOr _ _ _ _ _)
    ((Stmt.Performs.cond fun _ => makes_ebpfAddChecked _ _ _).seq
      (.cond fun _ => makes_ebpfAddChecked _ _ _))

/-- for UDP, -/
theorem makes_passUDP (src dst : NetAddress) :
    Makes a (passUDP a openTimeSec src dst)
      (portCalls a openTimeSec (udpPorts dst.port) "udp" src dst) :=
  makes_switchFilter (makes_ipsetAddOr _ _ _ _ _)
    ((Stmt.Performs.cond fun _ => makes_ebpfAddChecked _ _ _).seq
      (.cond fun _ => makes_ebpfAddChecked _ _ _))

/-- for ping, -/
theorem makes_passPing (src : NetAddress) (dstAddrs : List NetAddress) :
    Makes a (passPing a openTimeSec src dstAddrs) (pingCalls a openTimeSec src dstAddrs) :=
  .forEach fun _ _ => makes_switchFilter (makes_ipsetAddOr _ _ _ _ _) (makes_ebpfAddChecked _ _ _)

/-- for the ports of a range, -/
theorem makes_rangePorts (n : IPNet) (dst : NetAddress) :
    Makes a (rangePorts a tempOpenTimeSec n dst) (rangePortCalls a tempOpenTimeSec n dst) := by
  refine .forEach fun ip _ => ?_
  split
  · exact makes_ebpfAddLogged _ _ _
  · exact makes_ebpfAddLogged _ _ _

/-- for a range as a whole, -/
theorem makes_passRange (src dst : NetAddress) :
    Makes a (passRange a openTimeSec tempOpenTimeSec src dst)
      (rangeCalls a openTimeSec tempOpenTimeSec src dst) := by
  unfold passRange rangeCalls
  cases sourceNet a.net6 src.ip with
  | none => exact Stmt.performs_skip
  | some n =>
    refine .cond fun _ => makes_switchFilter ((Stmt.Performs.seq ?_ ?_).seq ?_)
      ((Stmt.Performs.seq ?_ ?_).seq ?_)
    · exact .cond fun _ => makes_ipsetAddUnchecked _ _ _ _
    · exact .cond fun _ => makes_ipsetAddUnchecked _ _ _ _
    · exact .cond fun _ => makes_ipsetAddUnchecked _ _ _ _
    · exact .cond fun _ => makes_rangePorts _ _
    · exact .cond fun _ => makes_rangePorts _ _
    · exact .cond fun _ => .forEach fun _ _ => makes_ebpfAddLogged _ _ _

/-- and the loops. -/
theorem makes_passKnock (srcAddrs dstAddrs : List NetAddress) :
    Makes a (passKnock a openTimeSec tempOpenTimeSec srcAddrs dstAddrs)
      (knockCalls a openTimeSec tempOpenTimeSec srcAddrs dstAddrs) :=
  .forEach fun src _ => .forEach fun dst _ =>
    (((Stmt.Performs.cond fun _ => makes_passTCP src dst).seq
      (.cond fun _ => makes_passUDP src dst)).seq
      (.cond fun _ => makes_passPing src dstAddrs)).seq (makes_passRange src dst)

/-- A temporary port, -/
theorem makes_passTempPort (ipType : IPType) (ports : PortSpec) (protocol : String) (port : Nat) :
    Makes a (passTempPort a tempOpenTimeSec ipType ports protocol port)
      (tempPortCalls a tempOpenTimeSec ipType ports protocol port) :=
  makes_switchFilter ((makes_ipsetAddOr _ _ _ _ _).seq (makes_ipsetAddOr _ _ _ _ _))
    (makes_ebpfAddChecked _ _ _)

/-- A condition that does not hold lets control pass. -/
theorem makes_failIf {b : Prop} [Decidable b] (hb : ¬ b) (e : AcError) : Makes a (failIf b e) [] := by
  have hskip : failIf b e = Stmt.skip := if_neg hb
  rw [hskip]
  exact Stmt.performs_skip

/-- and both, where the listeners are open. -/
theorem makes_preAccess {dst : NetAddress} (hopen : TempPortsOpen a dst) :
    Makes a (preAccess a tempOpenTimeSec dst) (preAccessCalls a tempOpenTimeSec dst) := by
  obtain ⟨ip, port, hip, hport, htcp, hlisten, hudp⟩ := hopen
  have htemp : tempPort a dst = some port := by rw [tempPort, hip, Option.bind_some, hport]
  have hcalls : preAccessCalls a tempOpenTimeSec dst =
      [] ++ (tempPortCalls a tempOpenTimeSec (ipTypeOf dst.ip) (.tcp port) "tcp" port ++
        ([] ++ ([] ++ (tempPortCalls a tempOpenTimeSec (ipTypeOf dst.ip) (.udp port) "udp" port ++ [])))) := by
    rw [preAccessCalls, htemp]
    simp only [List.nil_append, List.append_nil]
  rw [hcalls, preAccess, hip]
  dsimp only
  rw [hport]
  exact (makes_failIf (by simp [htcp]) _).seq <| (makes_passTempPort _ _ _ _).seq <|
    (makes_failIf (by simp [hlisten]) _).seq <| (makes_failIf (by simp [hudp]) _).seq <|
    (makes_passTempPort _ _ _ _).seq <| Stmt.performs_assign fun s => rfl

end Performs

/-! ## When the answer is true -/

section Answer

variable {a : UdpAC}

/-- Before the last statement of the handler: no success code yet, and a log of accepted operations. -/
def Underway (a : UdpAC) (s : AcState) : Prop := s.artMsg.errCode ≠ "0" ∧ Logged a s.ops

/-- No error has the code of success. -/
theorem AcError.code_ne (e : AcError) : e.code ≠ "0" := by
  cases e <;> simp [AcError.code]

/-- What holds between the statements of a request. -/
theorem stable_underway (a : UdpAC) : Stable a (fun _ => True) (Underway a) where
  ipset := fun _ _ _ _ _ hrun hs => ⟨hs.1, hs.2.snoc hrun⟩
  ebpf := fun _ _ _ _ _ _ hu hupdate hs => ⟨hs.1, hs.2.snoc ⟨hupdate, (ebpfRuleAdd_times hu).1⟩⟩
  err := fun _ _ hs => hs
  fail := fun _ e hs => ⟨e.code_ne, hs.2⟩
  preAccess := fun _ _ hs => hs

variable {srcAddrs dstAddrs : List NetAddress} {dst₀ : NetAddress} {openTimeSec : Int} {s : AcState}

/-- The success code comes from the last statement only. -/
theorem carryOut_success (hs : Underway a s)
    (h : (carryOut a srcAddrs dst₀ dstAddrs openTimeSec s).state.artMsg.errCode = "0") :
    ¬ (a.config.filterMode = filterModeIPTables ∧ a.ipset = false) ∧
      ∃ s', installRules a srcAddrs dst₀ dstAddrs openTimeSec s = .next s' ∧ Underway a s' ∧
        (carryOut a srcAddrs dst₀ dstAddrs openTimeSec s).state = s'.succeed openTimeSec := by
  have hrules : Underway a (installRules a srcAddrs dst₀ dstAddrs openTimeSec s).state :=
    keeps_installRules (stable_underway a) trivial trivial s hs
  by_cases hipset : a.config.filterMode = filterModeIPTables ∧ a.ipset = false
  · have hfail : failIf (a.config.filterMode = filterModeIPTables ∧ a.ipset = false)
        .acIPSetNotFound = Stmt.returns (AcState.fail .acIPSetNotFound) := if_pos hipset
    rw [carryOut, hfail] at h
    exact absurd h (AcError.code_ne .acIPSetNotFound)
  · refine ⟨hipset, ?_⟩
    rw [carryOut_eq hipset] at h ⊢
    unfold Stmt.seq at h ⊢
    cases hinstall : installRules a srcAddrs dst₀ dstAddrs openTimeSec s with
    | next s' =>
      rw [hinstall] at hrules
      exact ⟨s', rfl, hrules, rfl⟩
    | ret s' =>
      rw [hinstall] at h hrules
      exact absurd h hrules.1

/-- A request whose rules go through ends with success. -/
theorem carryOut_next {s' : AcState}
    (hipset : ¬ (a.config.filterMode = filterModeIPTables ∧ a.ipset = false))
    (h : installRules a srcAddrs dst₀ dstAddrs openTimeSec s = .next s') :
    (carryOut a srcAddrs dst₀ dstAddrs openTimeSec s).state = s'.succeed openTimeSec := by
  rw [carryOut_eq hipset]
  unfold Stmt.seq
  rw [h]
  rfl

/-- Control passes the opening of the temporary ports only if they open. -/
theorem tempPortsOpen_of_next {tempOpenTimeSec : Int} {dst : NetAddress} {s' : AcState}
    (h : preAccess a tempOpenTimeSec dst s = .next s') : TempPortsOpen a dst := by
  have hpass : ∀ {b : Prop} [Decidable b] {e : AcError} {t t' : AcState},
      failIf b e t = .next t' → ¬ b := by
    intro b _ e t t' h hb
    have hfail : failIf b e = Stmt.returns (AcState.fail e) := if_pos hb
    rw [hfail] at h
    cases h
  unfold preAccess at h
  cases hip : parseNetIP a.net6 dst.ip with
  | none =>
    rw [hip] at h
    cases h
  | some ip =>
    rw [hip] at h
    cases hport : a.listenTCP ip with
    | none =>
      simp only [hport] at h
      cases h
    | some port =>
      simp only [hport] at h
      obtain ⟨_, htcp, h⟩ := Stmt.seq_eq_next.mp h
      obtain ⟨_, -, h⟩ := Stmt.seq_eq_next.mp h
      obtain ⟨_, hlisten, h⟩ := Stmt.seq_eq_next.mp h
      obtain ⟨_, hudp, -⟩ := Stmt.seq_eq_next.mp h
      exact ⟨ip, port, hip, hport, by simpa using hpass htcp, by simpa using hpass hlisten,
        by simpa using hpass hudp⟩

/-- The default address adds no destination. -/
theorem withDefaultIp_eq_nil {config : Config} : withDefaultIp config dstAddrs = [] ↔ dstAddrs = [] := by
  unfold withDefaultIp
  split <;> simp

/-- What the handler does for a request with both kinds of addresses. -/
theorem handle_eq {m : ServerACOpsMsg} {src : NetAddress} {srcs : List NetAddress} {dst : NetAddress}
    {dsts : List NetAddress} (hsrcs : m.sourceAddrs = src :: srcs)
    (hdsts : withDefaultIp a.config m.destinationAddrs = dst :: dsts) :
    handleAccessControl a m.sourceAddrs m.destinationAddrs m.openTimeSec {} =
      (carryOut a (src :: srcs) dst (dst :: dsts) m.openTimeSec (.start {})).state := by
  unfold handleAccessControl
  rw [hsrcs, hdsts]

/-- The rules of a request are its calls. -/
theorem makes_requestCalls {m : ServerACOpsMsg} {dst : NetAddress} {dsts : List NetAddress}
    (hdsts : withDefaultIp a.config m.destinationAddrs = dst :: dsts)
    (hports : a.config.ipPassMode = passPreAccessIP → TempPortsOpen a dst) :
    Makes a (installRules a m.sourceAddrs dst (dst :: dsts) m.openTimeSec) (requestCalls a m) := by
  rw [requestCalls, hdsts]
  dsimp only
  unfold installRules
  split
  · rename_i hmode
    exact makes_preAccess (hports hmode)
  · exact makes_passKnock _ _

/-- Nothing was done yet. -/
theorem underway_start (a : UdpAC) : Underway a (.start {}) :=
  ⟨by decide, fun before op after h => by simp [AcState.start] at h⟩

/-- **The answer tells the truth exactly when the whole request could be served.** -/
theorem truthful_iff (a : UdpAC) (m : ServerACOpsMsg) : Truthful a m ↔ Serviceable a m := by
  constructor
  · intro h
    -- The answer carries its token whatever happens, so a truthful one says success and has installed every rule.
    have hcode : (handleAccessControl a m.sourceAddrs m.destinationAddrs m.openTimeSec {}).artMsg.errCode
        = "0" := h.token (List.cons_ne_nil _ _)
    have hinstalled := h.success_iff.mp hcode
    cases hsrcs : m.sourceAddrs with
    | nil =>
      unfold handleAccessControl at hcode
      rw [hsrcs] at hcode
      exact absurd hcode (AcError.code_ne .acEmptyPassAddress)
    | cons src srcs =>
      cases hdsts : withDefaultIp a.config m.destinationAddrs with
      | nil =>
        unfold handleAccessControl at hcode
        rw [hsrcs, hdsts] at hcode
        exact absurd hcode (AcError.code_ne .acEmptyPassAddress)
      | cons dst dsts =>
        rw [handle_eq hsrcs hdsts] at hcode
        obtain ⟨hipset, s', hnext, hunderway, hfinal⟩ := carryOut_success (underway_start a) hcode
        have hops : (handleUdpACOperations a m).ops = s'.ops := by
          show (handleAccessControl a m.sourceAddrs m.destinationAddrs m.openTimeSec {}).ops = _
          rw [handle_eq hsrcs hdsts, hfinal]
          rfl
        rw [hops] at hinstalled
        refine ⟨by simp [hsrcs], ?_, hipset, fun hmode => ⟨dst, dsts, hdsts, ?_⟩, ?_⟩
        · intro hnil
          rw [withDefaultIp_eq_nil.mpr hnil] at hdsts
          cases hdsts
        · rw [installRules, if_pos hmode] at hnext
          exact tempPortsOpen_of_next hnext
        · have hcalls : Stmt.actAll (RuleCall.act a) (requestCalls a m) [] = some ([] ++ s'.ops) :=
            actAll_of_installed hunderway.2 hinstalled
          rw [hcalls]
          rfl
  · intro h
    obtain ⟨src, srcs, hsrcs⟩ := List.exists_cons_of_ne_nil h.sources
    have hne : withDefaultIp a.config m.destinationAddrs ≠ [] :=
      fun hnil => h.destinations (withDefaultIp_eq_nil.mp hnil)
    obtain ⟨dst, dsts, hdsts⟩ := List.exists_cons_of_ne_nil hne
    have hports : a.config.ipPassMode = passPreAccessIP → TempPortsOpen a dst := by
      intro hmode
      obtain ⟨dst', dsts', hdsts', hopen⟩ := h.ports hmode
      cases hdsts.symm.trans hdsts'
      exact hopen
    -- Where every call of the request succeeds, no loop stops early and the last step says success.
    obtain ⟨ops, hops⟩ := Option.isSome_iff_exists.mp h.calls
    obtain ⟨new, hnew, hinstalled⟩ := installed_of_actAll hops
    obtain ⟨s', hnext, hlog⟩ := makes_requestCalls hdsts hports (.start {}) ops hops
    rw [hsrcs] at hnext
    have hfinal : handleAccessControl a m.sourceAddrs m.destinationAddrs m.openTimeSec {} =
        s'.succeed m.openTimeSec := by
      rw [handle_eq hsrcs hdsts, carryOut_next h.ipset hnext]
    have hcode : (handleUdpACOperations a m).artMsg.errCode = "0" := by
      show (handleAccessControl a m.sourceAddrs m.destinationAddrs m.openTimeSec {}).artMsg.errCode = _
      rw [hfinal]
      rfl
    have hlog : (handleUdpACOperations a m).ops = new := by
      show (handleAccessControl a m.sourceAddrs m.destinationAddrs m.openTimeSec {}).ops = _
      rw [hfinal]
      exact hlog.trans hnew
    refine ⟨⟨fun _ => ?_, fun _ => hcode⟩, fun h => absurd hcode h, fun _ => hcode⟩
    rw [hlog]
    exact hinstalled

end Answer

/-! ## Answers that are not true -/

/-- A request for a web service. -/
def webRequest : ServerACOpsMsg := ⟨"user", "device", "", "service", "web", [agentAddr], [webAddr], 65⟩

/-- An AC in the range mode on which the second operation fails, and one in eBPF mode on which all do. -/
def rangeAC : UdpAC := { sampleAC filterModeIPTables passKnockIPWithRange with
  kernel := ⟨fun ops _ => ops.length = 0, fun _ _ => true, fun _ => 0⟩ }
/-- An AC whose maps take nothing. -/
def ebpfAC : UdpAC := { sampleAC filterModeEbpfXdp passKnockIP with
  kernel := ⟨fun _ _ => true, fun _ _ => false, fun _ => 0⟩ }

/-- The rule of the range is missing behind the success code; and a failure of a map update has no code
    and a token. -/
theorem answer_untrue : ¬ Truthful rangeAC webRequest ∧ ¬ Truthful ebpfAC webRequest := by
  constructor
  · intro h
    have hlength := (h.success_iff.mp (by decide)).length_eq
    exact absurd hlength (by decide)
  · intro h
    exact absurd (h.token (List.cons_ne_nil _ _)) (by decide)

end OpenNHP.AC
