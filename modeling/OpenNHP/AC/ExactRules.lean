/-
  Are the ipset rules of a request exact?

  1. **The program.**  In pass mode `PASS_KNOCK_IP` a successful request adds, for every source and destination,
     the tcp and udp entries of that destination (`passTCP`, `passUDP`).  The ping entries come from an inner loop
     over all destinations (`passPing`), so one destination that asks for ping opens ping to every destination of
     the request.

  2. **The specification.**  `calledFor`: what a pair of a source and a destination calls for, from its protocol
     and port alone.  `RulesExact`: the rules of the request are those of its pairs, no more and no fewer.

  3. **What the code adds.**  Every statement of the handler emits a list of rules that can be said in advance, or
     returns with an error set; the lemmas `emits_...` and `returnsWith_...` follow the code from the single
     operation to the whole request (`emits_carryOut`), and `ops_of_successful` puts them together: a request
     without an error has added `addedForPair` for each pair in turn.

  4. **The comparison.**  `addedForPair` and `calledFor` differ in the ping rules only, and a rule for ping names
     its destination; so the rules are exact if and only if every destination has the address of one that asks for
     ping, where any does (`PingCovered`, `rules_exact_iff`).
-/
import OpenNHP.AC.AccessControl

namespace OpenNHP.AC

open Statement

/-! ## The rules a pair calls for -/

section Rules

variable (openTimeSec : Int)

/-- A rule of the default set of the source's address family. -/
def defaultRule (src : NetAddress) (ports : PortSpec) (dst : NetAddress) : RuleOp :=
  .ipset (getIpsetName (ipTypeOf src.ip) 1) (.srcPortDst src.ip ports dst.ip) openTimeSec

/-- The tcp and udp rules of a pair. -/
def portRules (src dst : NetAddress) : List RuleOp :=
  (if dst.forTCP then [defaultRule openTimeSec src (tcpPorts dst.port) dst] else []) ++
    if dst.forUDP then [defaultRule openTimeSec src (udpPorts dst.port) dst] else []

/-- The rules a pair calls for: ping only where this destination has port 0 and names no protocol. -/
def calledFor (src dst : NetAddress) : List RuleOp :=
  portRules openTimeSec src dst ++
    if dst.forPing then [defaultRule openTimeSec src .icmpEcho dst] else []

/-- The rules the loops of `HandleAccessControl` add for a pair. -/
def addedForPair (dstAddrs : List NetAddress) (src dst : NetAddress) : List RuleOp :=
  portRules openTimeSec src dst ++
    if dst.forPing then dstAddrs.map (defaultRule openTimeSec src .icmpEcho) else []

end Rules

/-! ## What a successful request adds -/

section Added

variable {a : UdpAC} {openTimeSec tempOpenTimeSec : Int}

/-- An entry that is added is one rule. -/
theorem emits_ipsetAddOr (failed : AcState → AcState) (ipType : IPType) (t : Nat) (expire : Int)
    (entry : Entry) :
    Stmt.Emits AcState.ops (ipsetAddOr a failed ipType t expire entry)
      [.ipset (getIpsetName ipType t) entry expire] := by
  intro s s' h
  unfold ipsetAddOr ipsetOp at h
  dsimp only at h
  split at h
  · rename_i t' ht
    split at ht
    · cases ht
      cases h
      rfl
    · cases ht
  · cases h

/-- Where it returns there is an error. -/
theorem returnsWith_ipsetAddChecked (ipType : IPType) (t : Nat) (expire : Int) (entry : Entry) :
    Stmt.ReturnsWith (fun s => s.err ≠ none) (ipsetAddChecked a ipType t expire entry) := by
  intro s s' h
  unfold ipsetAddChecked ipsetAddOr at h
  split at h
  · cases h
  · cases h
    exact Option.some_ne_none _

/-- A filter mode that is set to iptables takes the iptables branch. -/
theorem switchFilter_iptables (hfilter : a.config.filterMode = filterModeIPTables)
    (iptables ebpf : Stmt AcState) : switchFilter a iptables ebpf = iptables := if_pos hfilter

/-- Without the range mode the range part does nothing. -/
theorem passRange_skip (hpass : a.config.ipPassMode ≠ passKnockIPWithRange) (src dst : NetAddress) :
    passRange a openTimeSec tempOpenTimeSec src dst = .skip := by
  unfold passRange
  split
  · rfl
  · exact if_neg hpass

section IPTables

variable (hfilter : a.config.filterMode = filterModeIPTables)

include hfilter

/-- The rule of a destination for TCP. -/
theorem emits_passTCP (src dst : NetAddress) :
    Stmt.Emits AcState.ops (passTCP a openTimeSec src dst)
      [defaultRule openTimeSec src (tcpPorts dst.port) dst] := by
  rw [passTCP, switchFilter_iptables hfilter]
  exact emits_ipsetAddOr _ _ _ _ _

/-- And for UDP. -/
theorem emits_passUDP (src dst : NetAddress) :
    Stmt.Emits AcState.ops (passUDP a openTimeSec src dst)
      [defaultRule openTimeSec src (udpPorts dst.port) dst] := by
  rw [passUDP, switchFilter_iptables hfilter]
  exact emits_ipsetAddOr _ _ _ _ _

/-- The ping loop adds an entry for every destination. -/
theorem emits_passPing (src : NetAddress) (dstAddrs : List NetAddress) :
    Stmt.Emits AcState.ops (passPing a openTimeSec src dstAddrs)
      (dstAddrs.map (defaultRule openTimeSec src .icmpEcho)) := by
  rw [List.map_eq_flatMap]
  refine .forEach fun dst _ => ?_
  rw [switchFilter_iptables hfilter]
  exact emits_ipsetAddOr _ _ _ _ _

/-- What a source and a destination add, out of the range mode. -/
theorem emits_passPair (hpass : a.config.ipPassMode ≠ passKnockIPWithRange)
    (dstAddrs : List NetAddress) (src dst : NetAddress) :
    Stmt.Emits AcState.ops (passPair a openTimeSec tempOpenTimeSec dstAddrs src dst)
      (addedForPair openTimeSec dstAddrs src dst) := by
  rw [passPair, passRange_skip hpass, ← List.append_nil (addedForPair _ _ _ _)]
  refine ((Stmt.Emits.seq ?_ ?_).seq ?_).seq Stmt.emits_skip
  · exact .cond fun _ => emits_passTCP hfilter src dst
  · exact .cond fun _ => emits_passUDP hfilter src dst
  · exact .cond fun _ => emits_passPing hfilter src dstAddrs

/-- The two loops. -/
theorem emits_passKnock (hpass : a.config.ipPassMode ≠ passKnockIPWithRange)
    (srcAddrs dstAddrs : List NetAddress) :
    Stmt.Emits AcState.ops (passKnock a openTimeSec tempOpenTimeSec srcAddrs dstAddrs)
      (srcAddrs.flatMap fun src => dstAddrs.flatMap (addedForPair openTimeSec dstAddrs src)) :=
  Stmt.Emits.forEach fun src _ => Stmt.Emits.forEach fun dst _ =>
    emits_passPair hfilter hpass dstAddrs src dst

/-- Where the loops return early, there is an error. -/
theorem returnsWith_passKnock (hpass : a.config.ipPassMode ≠ passKnockIPWithRange)
    (srcAddrs dstAddrs : List NetAddress) :
    Stmt.ReturnsWith (fun s => s.err ≠ none)
      (passKnock a openTimeSec tempOpenTimeSec srcAddrs dstAddrs) := by
  refine .forEach fun src _ => .forEach fun dst _ => ?_
  rw [passPair, passRange_skip hpass]
  refine ((Stmt.ReturnsWith.seq ?_ ?_).seq ?_).seq Stmt.returnsWith_skip
  · refine .cond fun _ => ?_
    rw [passTCP, switchFilter_iptables hfilter]
    exact returnsWith_ipsetAddChecked _ _ _ _
  · refine .cond fun _ => ?_
    rw [passUDP, switchFilter_iptables hfilter]
    exact returnsWith_ipsetAddChecked _ _ _ _
  · refine .cond fun _ => .forEach fun dst _ => ?_
    rw [switchFilter_iptables hfilter]
    exact returnsWith_ipsetAddChecked _ _ _ _

end IPTables

/-- A test adds nothing. -/
theorem emits_failIf {ω : Type} (log : AcState → List ω) (b : Prop) [Decidable b] (e : AcError) :
    Stmt.Emits log (failIf b e) [] := by
  have hreturns : Stmt.Emits log (.returns (AcState.fail e)) [] := Stmt.emits_returns _ _
  have h := Stmt.Emits.cond (b := b) fun _ => hreturns
  rwa [ite_self] at h

/-- And returns with the error it found. -/
theorem returnsWith_failIf (b : Prop) [Decidable b] (e : AcError) :
    Stmt.ReturnsWith (fun s => s.err ≠ none) (failIf b e) :=
  .cond fun _ => Stmt.returnsWith_returns fun _ => Option.some_ne_none _

section CarryOut

variable (hfilter : a.config.filterMode = filterModeIPTables)
  (hpass : a.config.ipPassMode = passKnockIP) (srcAddrs dstAddrs : List NetAddress)
  (dst₀ : NetAddress)

include hfilter hpass

/-- The request as a whole. -/
theorem emits_carryOut :
    Stmt.Emits AcState.ops (carryOut a srcAddrs dst₀ dstAddrs openTimeSec)
      (srcAddrs.flatMap fun src => dstAddrs.flatMap (addedForPair openTimeSec dstAddrs src)) := by
  have hrange : a.config.ipPassMode ≠ passKnockIPWithRange := by rw [hpass]; decide
  have hpre : a.config.ipPassMode ≠ passPreAccessIP := by rw [hpass]; decide
  rw [carryOut, if_neg hpre, ← List.nil_append (List.flatMap _ _), ← List.append_nil (List.flatMap _ _)]
  refine Stmt.Emits.seq (emits_failIf _ _ _) (Stmt.Emits.seq ?_ (Stmt.emits_assign fun s => rfl))
  exact emits_passKnock hfilter hrange srcAddrs dstAddrs

/-- Where it returns before its end there is an error. -/
theorem returnsWith_carryOut :
    Stmt.ReturnsWith (fun s => s.err ≠ none) (carryOut a srcAddrs dst₀ dstAddrs openTimeSec) := by
  have hrange : a.config.ipPassMode ≠ passKnockIPWithRange := by rw [hpass]; decide
  have hpre : a.config.ipPassMode ≠ passPreAccessIP := by rw [hpass]; decide
  rw [carryOut, if_neg hpre]
  refine (returnsWith_failIf _ _).seq (Stmt.ReturnsWith.seq ?_ (Stmt.returnsWith_assign _))
  exact returnsWith_passKnock hfilter hrange srcAddrs dstAddrs

end CarryOut

/-- A successful request ran through its loops, and nothing else has added rules. -/
theorem ops_of_successful (hfilter : a.config.filterMode = filterModeIPTables)
    (hpass : a.config.ipPassMode = passKnockIP) {srcAddrs dstAddrs : List NetAddress}
    {artMsg : ACOpsResultMsg}
    (h : (handleAccessControl a srcAddrs dstAddrs openTimeSec artMsg).Successful) :
    srcAddrs ≠ [] ∧ (handleAccessControl a srcAddrs dstAddrs openTimeSec artMsg).ops =
      srcAddrs.flatMap fun src => (withDefaultIp a.config dstAddrs).flatMap
        (addedForPair openTimeSec (withDefaultIp a.config dstAddrs) src) := by
  unfold handleAccessControl at h ⊢
  generalize withDefaultIp a.config dstAddrs = dsts at h ⊢
  cases srcAddrs with
  | nil => exact absurd h.1 (Option.some_ne_none _)
  | cons src srcs =>
    cases dsts with
    | nil => exact absurd h.1 (Option.some_ne_none _)
    | cons dst dsts =>
      refine ⟨List.cons_ne_nil _ _, ?_⟩
      exact (emits_carryOut hfilter hpass (src :: srcs) (dst :: dsts) dst).state
        (returnsWith_carryOut hfilter hpass (src :: srcs) (dst :: dsts) dst) (not_not.mpr h.1)

end Added

/-! ## When the rules are exact -/

/-- A successful request has added exactly the rules that its pairs call for. -/
def RulesExact (a : UdpAC) (srcAddrs dstAddrs : List NetAddress) (openTimeSec : Int)
    (artMsg : ACOpsResultMsg) : Prop :=
  ∀ op, op ∈ (handleAccessControl a srcAddrs dstAddrs openTimeSec artMsg).ops ↔
    ∃ src ∈ srcAddrs, ∃ dst ∈ withDefaultIp a.config dstAddrs, op ∈ calledFor openTimeSec src dst

/-- If a destination asks for ping, every destination's address is that of one that does. -/
def PingCovered (dstAddrs : List NetAddress) : Prop :=
  (∃ dst ∈ dstAddrs, dst.forPing) → ∀ dst ∈ dstAddrs, ∃ dst' ∈ dstAddrs, dst'.forPing ∧ dst'.ip = dst.ip

section Exact

variable {openTimeSec : Int} {src src' dst dst' : NetAddress}

/-- A rule for ports is none for ping. -/
theorem defaultRule_ne_icmpEcho {ports : PortSpec} (h : ports ≠ .icmpEcho) :
    defaultRule openTimeSec src .icmpEcho dst ≠ defaultRule openTimeSec src' ports dst' := by
  intro heq
  injection heq with _ hentry
  injection hentry with _ hports
  exact h hports.symm

/-- Neither the ports of TCP -/
theorem tcpPorts_ne_icmpEcho (port : Int) : tcpPorts port ≠ .icmpEcho := by
  unfold tcpPorts
  split <;> nofun

/-- nor those of UDP are those of ping. -/
theorem udpPorts_ne_icmpEcho (port : Int) : udpPorts port ≠ .icmpEcho := by
  unfold udpPorts
  split <;> nofun

/-- No tcp or udp rule is a ping rule. -/
theorem not_mem_portRules : defaultRule openTimeSec src .icmpEcho dst ∉ portRules openTimeSec src' dst' := by
  intro h
  rcases List.mem_append.mp h with h | h
  · split at h
    · exact defaultRule_ne_icmpEcho (tcpPorts_ne_icmpEcho _) (List.mem_singleton.mp h)
    · cases h
  · split at h
    · exact defaultRule_ne_icmpEcho (udpPorts_ne_icmpEcho _) (List.mem_singleton.mp h)
    · cases h

/-- A pair calls for a ping rule exactly when it is the pair's and the destination asks for it. -/
theorem ping_mem_calledFor :
    defaultRule openTimeSec src .icmpEcho dst ∈ calledFor openTimeSec src' dst' ↔
      dst'.forPing ∧ src'.ip = src.ip ∧ dst'.ip = dst.ip := by
  rw [calledFor, List.mem_append]
  constructor
  · rintro (h | h)
    · exact absurd h not_mem_portRules
    · split at h
      · rename_i hping
        have heq := List.mem_singleton.mp h
        injection heq with _ hentry
        injection hentry with hsrc _ hdst
        exact ⟨hping, hsrc.symm, hdst.symm⟩
      · cases h
  · rintro ⟨hping, hsrc, hdst⟩
    refine .inr ?_
    rw [if_pos hping, List.mem_singleton, defaultRule, defaultRule, hsrc, hdst]

/-- Every rule that is called for is added. -/
theorem mem_addedForPair_of_calledFor {dstAddrs : List NetAddress} {op : RuleOp}
    (hdst : dst ∈ dstAddrs) (h : op ∈ calledFor openTimeSec src dst) :
    op ∈ addedForPair openTimeSec dstAddrs src dst := by
  rcases List.mem_append.mp h with h | h
  · exact List.mem_append_left _ h
  · refine List.mem_append_right _ ?_
    split at h
    · rename_i hping
      rw [if_pos hping, List.mem_singleton.mp h]
      exact List.mem_map_of_mem hdst
    · cases h

end Exact

/-- **The rules of a successful request are exact if and only if ping is covered.** -/
theorem rules_exact_iff (a : UdpAC) (srcAddrs dstAddrs : List NetAddress) (openTimeSec : Int)
    (artMsg : ACOpsResultMsg) (hfilter : a.config.filterMode = filterModeIPTables)
    (hpass : a.config.ipPassMode = passKnockIP)
    (h : (handleAccessControl a srcAddrs dstAddrs openTimeSec artMsg).Successful) :
    RulesExact a srcAddrs dstAddrs openTimeSec artMsg ↔
      PingCovered (withDefaultIp a.config dstAddrs) := by
  obtain ⟨hne, hops⟩ := ops_of_successful hfilter hpass h
  unfold RulesExact
  rw [hops]
  generalize withDefaultIp a.config dstAddrs = dsts
  constructor
  · rintro hexact ⟨ping, hmem, hping⟩ dst hdst
    obtain ⟨src, hsrc⟩ := List.exists_mem_of_ne_nil _ hne
    -- the inner loop of `ping` adds the ping rule of `dst`
    have hadded : defaultRule openTimeSec src .icmpEcho dst ∈ srcAddrs.flatMap fun src =>
        dsts.flatMap (addedForPair openTimeSec dsts src) := by
      refine List.mem_flatMap.mpr ⟨src, hsrc, List.mem_flatMap.mpr ⟨ping, hmem, ?_⟩⟩
      refine List.mem_append_right _ ?_
      rw [if_pos hping]
      exact List.mem_map_of_mem hdst
    obtain ⟨src', -, dst', hdst', hcalled⟩ := (hexact _).mp hadded
    obtain ⟨hping', -, hip⟩ := ping_mem_calledFor.mp hcalled
    exact ⟨dst', hdst', hping', hip⟩
  · intro hcovered op
    constructor
    · intro hop
      obtain ⟨src, hsrc, hop⟩ := List.mem_flatMap.mp hop
      obtain ⟨dst, hdst, hop⟩ := List.mem_flatMap.mp hop
      rcases List.mem_append.mp hop with hports | hping
      · exact ⟨src, hsrc, dst, hdst, List.mem_append_left _ hports⟩
      · split at hping
        · rename_i hdstPing
          obtain ⟨target, htarget, rfl⟩ := List.mem_map.mp hping
          obtain ⟨dst', hdst', hping', hip⟩ := hcovered ⟨dst, hdst, hdstPing⟩ target htarget
          exact ⟨src, hsrc, dst', hdst', ping_mem_calledFor.mpr ⟨hping', rfl, hip⟩⟩
        · cases hping
    · rintro ⟨src, hsrc, dst, hdst, hop⟩
      exact List.mem_flatMap.mpr ⟨src, hsrc,
        List.mem_flatMap.mpr ⟨dst, hdst, mem_addedForPair_of_calledFor hdst hop⟩⟩

/-! ### Requests with a ping destination and a web destination -/

/-- The agent's second address, and a web service on the host. -/
def agentAddr' : NetAddress := ⟨"10.0.0.2", 0, ""⟩
def hostWebAddr : NetAddress := ⟨"10.1.0.1", 443, "tcp"⟩

/-- Port 443 of the host that may be pinged, for an agent with two addresses: the rules are exact, as the ping
    destination has the address of the web destination. -/
theorem rules_exact_iff_host :
    RulesExact (sampleAC 0 0) [agentAddr, agentAddr'] [hostAddr, hostWebAddr] 60 {} := by
  have hsuccessful : (handleAccessControl (sampleAC 0 0) [agentAddr, agentAddr'] [hostAddr, hostWebAddr] 60
      {}).Successful := ⟨by decide +kernel, by decide +kernel⟩
  refine (rules_exact_iff (sampleAC 0 0) [agentAddr, agentAddr'] [hostAddr, hostWebAddr] 60 {} rfl rfl
    hsuccessful).mpr ?_
  intro _ dst hdst
  refine ⟨hostAddr, List.mem_cons_self, by decide, ?_⟩
  rcases List.mem_cons.mp hdst with rfl | hdst
  · rfl
  · rw [List.mem_singleton.mp hdst]
    rfl

/-- The request names port 443 of the web destination, and the agent may ping it. -/
theorem ping_opens_web_destination :
    (handleAccessControl (sampleAC 0 0) [agentAddr] [hostAddr, webAddr] 60 {}).Successful ∧
      ¬ RulesExact (sampleAC 0 0) [agentAddr] [hostAddr, webAddr] 60 {} := by
  refine ⟨⟨rfl, rfl⟩, fun hexact => ?_⟩
  have hadded : defaultRule 60 agentAddr .icmpEcho webAddr ∈
      (handleAccessControl (sampleAC 0 0) [agentAddr] [hostAddr, webAddr] 60 {}).ops :=
    List.mem_of_getElem? (i := 3) rfl
  obtain ⟨src, -, dst, hdst, hcalled⟩ := (hexact _).mp hadded
  obtain ⟨hping, -, hip⟩ := ping_mem_calledFor.mp hcalled
  have hdst : dst ∈ [hostAddr, webAddr] := hdst
  rcases List.mem_cons.mp hdst with rfl | hdst
  · exact absurd hip (by decide)
  · rw [List.mem_singleton.mp hdst] at hping
    exact absurd hping.1 (by decide)

end OpenNHP.AC
