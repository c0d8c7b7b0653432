/-
  `HandleAccessControl` and the handlers of the temporary ports: `endpoints/ac/msghandler.go`.

  1. **The program.**  One request is carried out over source addresses, destinations and protocols, in one of two
     filter modes (ipset entries or eBPF maps) and one of three pass modes: rules for the addresses that knocked
     (`passKnock`), the same with rules for whole ranges (`passRange`), or a temporary port where the agent has to
     show its token first (`preAccess`, and the two handlers behind the listeners).

  2. **How it is modelled.**  The body is a statement over `AcState`, written as the source is, loop for loop and
     branch for branch: a rule operation, a test of its error, a `return` in the middle.  The operations differ in
     what becomes of their errors, and each kind has its own definition: the error ends the request and sets the
     answer's code (`ipsetAddChecked`), ends it and does not (`ebpfAddChecked`), ends the handler of a temporary
     port (`ipsetAddReturning`), is overwritten by the next one (`ipsetAddUnchecked`), logged (`ebpfAddLogged`) or
     dropped (`ipsetAddDropped`).

  3. **The outside.**  The operating system decides for every operation whether it succeeds (`Kernel`), and may
     decide otherwise the next time.  `AcState.ops` are the operations that succeeded, in their order, so a failure
     in the middle leaves those before it.

  What the rules let through is the subject of `IPSet`, `Ebpf` and `Xdp`; which rules a request installs that of
  `ExactRules`, `RequestTraffic` and `FilterModes`; whether the answer is true that of `TruthfulAnswer`.
-/
import OpenNHP.AC.Ebpf
import OpenNHP.Lib.Statement

namespace OpenNHP.AC

open Inet BigEndian Statement

/-! ## Configuration, results and operations -/

/-- `PASS_KNOCK_IP`: the addresses that knocked. -/
def passKnockIP : Int := 0
/-- `PASS_KNOCKIP_WITH_RANGE`: and the range around them. -/
def passKnockIPWithRange : Int := 1
/-- `PASS_PRE_ACCESS_IP`: who shows the token at a temporary port. -/
def passPreAccessIP : Int := 2

/-- `FilterMode_IPTABLES`. -/
def filterModeIPTables : Int := 0
/-- `FilterMode_EBPFXDP`. -/
def filterModeEbpfXdp : Int := 1

/-- `TempPortOpenTime`, in seconds. -/
def tempPortOpenTime : Int := 30

/-- The fields of the AC's configuration that decide about rules. -/
structure Config where
  defaultIp : String
  ipPassMode : Int
  filterMode : Int
  defaultCipherScheme : Int

/-- The errors that `HandleAccessControl` returns. -/
inductive AcError
  | invalidIpAddress
  | acEmptyPassAddress
  | acIPSetNotFound
  | acIPSetOperationFailed
  | acTempPortListenFailed
  | acResolveTempPortFailed
  | ipset
  | ebpf (e : EbpfError)
  deriving DecidableEq, Repr

/-- Codes and texts of `common/errors.go`; the command's own error has no code. -/
def AcError.code : AcError → String
  | .invalidIpAddress => "50008"
  | .acEmptyPassAddress => "53002"
  | .acIPSetNotFound => "53003"
  | .acIPSetOperationFailed => "53004"
  | .acTempPortListenFailed => "53005"
  | .acResolveTempPortFailed => "53006"
  | .ipset => ""
  | .ebpf _ => ""

/-- The texts of the errors. -/
def AcError.text : AcError → String
  | .invalidIpAddress => "invalid ip address"
  | .acEmptyPassAddress => "pass address is empty"
  | .acIPSetNotFound => "ipset not found"
  | .acIPSetOperationFailed => "ipset operation failed"
  | .acTempPortListenFailed => "temporary port listening failed"
  | .acResolveTempPortFailed => "resolve temporary port failed"
  | .ipset => "ipset command failed"
  | .ebpf e => e.text

/-- `common.PreAccessInfo`. -/
structure PreAccessInfo where
  accessIp : String
  accessPort : String
  acPubKey : String
  acToken : String
  acCipherScheme : Int
  deriving DecidableEq, Repr

/-- `common.ACOpsResultMsg`. -/
structure ACOpsResultMsg where
  errCode : String := ""
  errMsg : String := ""
  openTime : UInt32 := 0
  acToken : String := ""
  preAccessAction : Option PreAccessInfo := none
  deriving DecidableEq, Repr

/-- An operation that the operating system has carried out. -/
inductive RuleOp
  | ipset (set : String) (entry : Entry) (expire : Int)
  | ebpf (update : MapUpdate)
  deriving DecidableEq, Repr

/-- The operating system: it decides from the operations before whether a command or a map update
    succeeds, and what the boot clock shows. -/
structure Kernel where
  runIPSet : List RuleOp → List String → Bool
  updateMap : List RuleOp → MapUpdate → Bool
  bootTimeNanos : List RuleOp → UInt64

/-- What the AC has for a request besides its configuration: the `ipset` binary if it was found, the
    listeners it gets, the key and the token it hands out. -/
structure UdpAC where
  config : Config
  ipset : Bool
  net6 : Net6
  kernel : Kernel
  /-- The ephemeral port, when listening succeeds. -/
  listenTCP : Bytes → Option Nat
  resolveTCPAddr : Nat → Bool
  listenUDP : Bytes → Nat → Bool
  resolveUDPAddr : Nat → Bool
  publicKeyExBase64 : String
  accessToken : String

/-- The state of a handler: the operations carried out so far, `err` and the result message. -/
structure AcState where
  ops : List RuleOp
  err : Option AcError
  artMsg : ACOpsResultMsg

/-- No operation yet and no error. -/
def AcState.start (artMsg : ACOpsResultMsg) : AcState := ⟨[], none, artMsg⟩

/-- `err = e; artMsg.ErrCode = …; artMsg.ErrMsg = …`. -/
def AcState.fail (e : AcError) (s : AcState) : AcState :=
  { s with err := some e, artMsg := { s.artMsg with errCode := e.code, errMsg := e.text } }

/-! ## Single operations -/

section Operations

variable (a : UdpAC)

/-- `a.ipset.Add(ipType, t, expire, entry)`: the state behind it, and whether it succeeded. -/
def ipsetOp (ipType : IPType) (t : Nat) (expire : Int) (entry : Entry) (s : AcState) :
    Option AcState :=
  let set := getIpsetName ipType t
  if a.kernel.runIPSet s.ops (addArgs set entry expire) then
    some { s with ops := s.ops ++ [.ipset set entry expire] }
  else none

/-- An addition whose failure returns. -/
def ipsetAddOr (failed : AcState → AcState) (ipType : IPType) (t : Nat) (expire : Int)
    (entry : Entry) : Stmt AcState := fun s =>
  match ipsetOp a ipType t expire entry s with
  | some s' => .next { s' with err := none }
  | none => .ret (failed s)

/-- An addition whose failure ends the request with an error. -/
def ipsetAddChecked : IPType → Nat → Int → Entry → Stmt AcState :=
  ipsetAddOr a (AcState.fail .acIPSetOperationFailed)

/-- An addition whose failure ends the handler of a temporary port. -/
def ipsetAddReturning : IPType → Nat → Int → Entry → Stmt AcState :=
  ipsetAddOr a fun s => { s with err := some .ipset }

/-- `_, err = a.ipset.Add(…)` with nothing behind it. -/
def ipsetAddUnchecked (ipType : IPType) (t : Nat) (expire : Int) (entry : Entry) : Stmt AcState :=
  fun s =>
    match ipsetOp a ipType t expire entry s with
    | some s' => .next { s' with err := none }
    | none => .next { s with err := some .ipset }

/-- `a.ipset.Add(…)` whose results are dropped. -/
def ipsetAddDropped (ipType : IPType) (t : Nat) (expire : Int) (entry : Entry) : Stmt AcState :=
  fun s => .next ((ipsetOp a ipType t expire entry s).getD s)

/-- `EbpfRuleAdd`, with the error it returns. -/
def ebpfOp (mapType : Int) (params : EbpfRuleParams) (ttl : Int) (s : AcState) :
    Except EbpfError AcState :=
  match ebpfRuleAdd a.net6 (a.kernel.bootTimeNanos s.ops) mapType params ttl with
  | .error e => .error e
  | .ok update =>
    if a.kernel.updateMap s.ops update then .ok { s with ops := s.ops ++ [.ebpf update] }
    else .error .updateFailed

/-- An addition whose failure ends the request; the result message is left as it is. -/
def ebpfAddChecked (mapType : Int) (params : EbpfRuleParams) (ttl : Int) : Stmt AcState := fun s =>
  match ebpfOp a mapType params ttl s with
  | .ok s' => .next { s' with err := none }
  | .error e => .ret { s with err := some (.ebpf e) }

/-- An addition of the range loops: they declare an `err` of their own and log it. -/
def ebpfAddLogged (mapType : Int) (params : EbpfRuleParams) (ttl : Int) : Stmt AcState := fun s =>
  match ebpfOp a mapType params ttl s with
  | .ok s' => .next s'
  | .error _ => .next s

/-- `switch a.config.FilterMode`: an unsupported mode returns. -/
def switchFilter (iptables ebpf : Stmt AcState) : Stmt AcState :=
  if a.config.filterMode = filterModeIPTables then iptables
  else if a.config.filterMode = filterModeEbpfXdp then ebpf
  else .returns id

end Operations

/-! ## Conditions on a destination -/

/-- The destination takes any protocol. -/
def NetAddress.forAny (dst : NetAddress) : Prop := dst.protocol = "" ∨ dst.protocol = "any"
/-- It takes TCP, by name or with any other. -/
def NetAddress.forTCP (dst : NetAddress) : Prop :=
  dst.protocol = "" ∨ dst.protocol = "tcp" ∨ dst.protocol = "any"
/-- It takes UDP, by name or with any other. -/
def NetAddress.forUDP (dst : NetAddress) : Prop :=
  dst.protocol = "" ∨ dst.protocol = "udp" ∨ dst.protocol = "any"
/-- It is a host as a whole: no port and any protocol. -/
def NetAddress.forPing (dst : NetAddress) : Prop := dst.port = 0 ∧ dst.forAny

instance (dst : NetAddress) : Decidable dst.forAny := inferInstanceAs (Decidable (_ ∨ _))
instance (dst : NetAddress) : Decidable dst.forTCP := inferInstanceAs (Decidable (_ ∨ _))
instance (dst : NetAddress) : Decidable dst.forUDP := inferInstanceAs (Decidable (_ ∨ _))
instance (dst : NetAddress) : Decidable dst.forPing := inferInstanceAs (Decidable (_ ∧ _))

/-! ## Passing the knock address -/

/-- The network of 128 addresses around a source: `net.ParseCIDR` with `/25` or `/121`. -/
def sourceNet (net6 : Net6) (ip : String) : Option IPNet :=
  match ipTypeOf ip with
  | .v6 => (net6.parse ip).map fun bytes => IPNet.of bytes 121
  | .v4 => (IPv4.parse ip).map fun x => IPNet.of x.bytes 25

/-- `IP.String`. -/
def ipString (net6 : Net6) (ip : Bytes) : String :=
  match to4 ip with
  | some [a, b, c, d] => (IPv4.mk a b c d).text
  | _ => net6.text ip

/-- `ipNet.String()` as part of an entry; a mapped network is written as the IPv4 network it is. -/
def netSpec (net6 : Net6) (n : IPNet) : NetSpec :=
  match to4 n.ip with
  | some [a, b, c, d] => .v4 ⟨a, b, c, d⟩ 25
  | _ => .other (net6.text n.ip ++ "/121")

/-- `net.ParseCIDR(ipNet.String())`. -/
def reparsedNet (n : IPNet) : IPNet :=
  match to4 n.ip with
  | some ip => ⟨ip, n.mask.drop (n.mask.length - 4)⟩
  | none => n

/-- More rounds than the loops over 128 addresses take. -/
def rangeRounds : Nat := 256

section Knock

variable (a : UdpAC) (openTimeSec tempOpenTimeSec : Int)

/-- The rule for TCP: an entry of the default set, or of the map that fits the protocol. -/
def passTCP (src : NetAddress) (dst : NetAddress) : Stmt AcState :=
  switchFilter a
    (ipsetAddChecked a (ipTypeOf src.ip) 1 openTimeSec (.srcPortDst src.ip (tcpPorts dst.port) dst.ip))
    ((Stmt.cond dst.forAny
      (ebpfAddChecked a 2 { srcIP := src.ip, dstIP := dst.ip } openTimeSec)).seq
     (Stmt.cond (dst.protocol = "tcp")
      (ebpfAddChecked a 1 { srcIP := src.ip, dstIP := dst.ip, dstPort := dst.port,
                            protocol := dst.protocol } openTimeSec)))

/-- The rule for UDP. -/
def passUDP (src : NetAddress) (dst : NetAddress) : Stmt AcState :=
  switchFilter a
    (ipsetAddChecked a (ipTypeOf src.ip) 1 openTimeSec (.srcPortDst src.ip (udpPorts dst.port) dst.ip))
    ((Stmt.cond dst.forAny
      (ebpfAddChecked a 2 { srcIP := src.ip, dstIP := dst.ip } openTimeSec)).seq
     (Stmt.cond (dst.protocol = "udp")
      (ebpfAddChecked a 1 { srcIP := src.ip, dstIP := dst.ip, dstPort := dst.port,
                            protocol := dst.protocol } openTimeSec)))

/-- The inner loop declares a `dstAddr` of its own and goes over all destinations again. -/
def passPing (src : NetAddress) (dstAddrs : List NetAddress) : Stmt AcState :=
  Stmt.forEach dstAddrs fun dst =>
    switchFilter a
      (ipsetAddChecked a (ipTypeOf src.ip) 1 openTimeSec (.srcPortDst src.ip .icmpEcho dst.ip))
      (ebpfAddChecked a 3 { srcIP := src.ip, dstIP := dst.ip } openTimeSec)

/-- The entries for the 128 addresses around the source; their errors are not looked at. -/
def rangeIPTables (src : NetAddress) (n : IPNet) (dst : NetAddress) : Stmt AcState :=
  let net := netSpec a.net6 n
  ((Stmt.cond dst.forTCP
    (ipsetAddUnchecked a (ipTypeOf src.ip) 4 tempOpenTimeSec (.netPort net (tcpPorts dst.port)))).seq
  (Stmt.cond dst.forUDP
    (ipsetAddUnchecked a (ipTypeOf src.ip) 4 tempOpenTimeSec (.netPort net (udpPorts dst.port))))).seq
  (Stmt.cond dst.forPing
    (ipsetAddUnchecked a (ipTypeOf src.ip) 4 tempOpenTimeSec (.netPort net .icmpEcho)))

/-- One pass over the 128 addresses for a port, or for all ports. -/
def rangePorts (n : IPNet) (dst : NetAddress) : Stmt AcState :=
  Stmt.forEach (n.walk rangeRounds) fun ip =>
    if dst.port ≠ 0 then
      ebpfAddLogged a 4 { srcIP := ipString a.net6 ip, dstPort := dst.port } tempOpenTimeSec
    else
      ebpfAddLogged a 5 { srcIP := ipString a.net6 ip, dstPortStart := 1, dstPortEnd := 65535 }
        tempOpenTimeSec

/-- The addresses of a range may ping the destination; an error of the map is logged only. -/
def rangePing (n : IPNet) (dst : NetAddress) : Stmt AcState :=
  Stmt.forEach (n.walk rangeRounds) fun ip =>
    ebpfAddLogged a 3 { srcIP := ipString a.net6 ip, dstIP := dst.ip } openTimeSec

/-- The rules of a range in the maps, one address after the other, each part for its own protocol. -/
def rangeEbpf (n : IPNet) (dst : NetAddress) : Stmt AcState :=
  ((Stmt.cond dst.forTCP (rangePorts a tempOpenTimeSec (reparsedNet n) dst)).seq
  (Stmt.cond dst.forUDP (rangePorts a tempOpenTimeSec (reparsedNet n) dst))).seq
  (Stmt.cond dst.forPing (rangePing a openTimeSec (reparsedNet n) dst))

/-- The part of pass mode `PASS_KNOCKIP_WITH_RANGE`; without a network it is skipped. -/
def passRange (src : NetAddress) (dst : NetAddress) : Stmt AcState :=
  match sourceNet a.net6 src.ip with
  | none => .skip
  | some n =>
    Stmt.cond (a.config.ipPassMode = passKnockIPWithRange)
      (switchFilter a (rangeIPTables a tempOpenTimeSec src n dst)
        (rangeEbpf a openTimeSec tempOpenTimeSec n dst))

/-- The rules for one source and one destination. -/
def passPair (dstAddrs : List NetAddress) (src dst : NetAddress) : Stmt AcState :=
  (((Stmt.cond dst.forTCP (passTCP a openTimeSec src dst)).seq
  (Stmt.cond dst.forUDP (passUDP a openTimeSec src dst))).seq
  (Stmt.cond dst.forPing (passPing a openTimeSec src dstAddrs))).seq
  (passRange a openTimeSec tempOpenTimeSec src dst)

/-- The default branch of the switch over the pass modes. -/
def passKnock (srcAddrs dstAddrs : List NetAddress) : Stmt AcState :=
  Stmt.forEach srcAddrs fun src =>
    Stmt.forEach dstAddrs fun dst => passPair a openTimeSec tempOpenTimeSec dstAddrs src dst

end Knock

/-! ## Opening temporary ports -/

section PreAccess

variable (a : UdpAC) (tempOpenTimeSec : Int)

/-- Half of the IPv4 addresses; ipset takes no network of all of them. -/
def lowerHalf : NetSpec := .v4 ⟨0, 0, 0, 0⟩ 1
/-- The other half of the address space. -/
def upperHalf : NetSpec := .v4 ⟨128, 0, 0, 0⟩ 1

/-- `netStr` and `netStr1`; the second stays empty for IPv6. -/
def preAccessNets : IPType → NetSpec × NetSpec
  | .v6 => (.other "0:0:0:0:0:0:0:0/0", .other "")
  | .v4 => (lowerHalf, upperHalf)

/-- The rules that let everyone reach the temporary port. -/
def passTempPort (ipType : IPType) (ports : PortSpec) (protocol : String) (port : Nat) :
    Stmt AcState :=
  let nets := preAccessNets ipType
  switchFilter a
    ((ipsetAddChecked a ipType 4 tempOpenTimeSec (.netPort nets.1 ports)).seq
      (ipsetAddChecked a ipType 4 tempOpenTimeSec (.netPort nets.2 ports)))
    (ebpfAddChecked a 6 { protocol := protocol, dstPort := port } tempOpenTimeSec)

/-- Return with an error under a condition. -/
def failIf (b : Prop) [Decidable b] (e : AcError) : Stmt AcState :=
  Stmt.cond b (.returns (AcState.fail e))

/-- The branch of pass mode `PASS_PRE_ACCESS_IP`. -/
def preAccess (dst : NetAddress) : Stmt AcState :=
  match parseNetIP a.net6 dst.ip with
  | none => .returns (AcState.fail .invalidIpAddress)
  | some dstIp =>
    match a.listenTCP dstIp with
    | none => .returns (AcState.fail .acTempPortListenFailed)
    | some port =>
      (failIf (a.resolveTCPAddr port = false) .acResolveTempPortFailed).seq <|
      (passTempPort a tempOpenTimeSec (ipTypeOf dst.ip) (.tcp port) "tcp" port).seq <|
      (failIf (a.listenUDP dstIp port = false) .acTempPortListenFailed).seq <|
      (failIf (a.resolveUDPAddr port = false) .acResolveTempPortFailed).seq <|
      (passTempPort a tempOpenTimeSec (ipTypeOf dst.ip) (.udp port) "udp" port).seq <|
      Stmt.assign fun s =>
        { s with artMsg := { s.artMsg with preAccessAction := some {
            accessIp := "", accessPort := toString port, acPubKey := a.publicKeyExBase64,
            acToken := a.accessToken, acCipherScheme := a.config.defaultCipherScheme } } }

end PreAccess

/-! ## HandleAccessControl -/

/-- Empty destination addresses are replaced by the AC's default address. -/
def withDefaultIp (config : Config) (dstAddrs : List NetAddress) : List NetAddress :=
  if config.defaultIp = "" then dstAddrs
  else dstAddrs.map fun dst => if dst.ip = "" then { dst with ip := config.defaultIp } else dst

/-- Temporary rules of an exit, with open time 1, close as early. -/
def tempOpenTime (openTimeSec : Int) : Int := if openTimeSec = 1 then 1 else tempPortOpenTime

/-- `artMsg.ErrCode = …; artMsg.OpenTime = uint32(openTimeSec)`. -/
def AcState.succeed (openTimeSec : Int) (s : AcState) : AcState :=
  { s with artMsg := { s.artMsg with
      errCode := "0", openTime := UInt32.ofNat (openTimeSec % 4294967296).toNat } }

/-- The body of `HandleAccessControl` for a request with both kinds of addresses. -/
def carryOut (a : UdpAC) (srcAddrs : List NetAddress) (dst₀ : NetAddress)
    (dstAddrs : List NetAddress) (openTimeSec : Int) : Stmt AcState :=
  (failIf (a.config.filterMode = filterModeIPTables ∧ a.ipset = false) .acIPSetNotFound).seq <|
  (if a.config.ipPassMode = passPreAccessIP then preAccess a (tempOpenTime openTimeSec) dst₀
    else passKnock a openTimeSec (tempOpenTime openTimeSec) srcAddrs dstAddrs).seq <|
  Stmt.assign (AcState.succeed openTimeSec)

/-- `HandleAccessControl`.  An empty list of sources or of destinations ends it before anything is done. -/
def handleAccessControl (a : UdpAC) (srcAddrs dstAddrs : List NetAddress) (openTimeSec : Int)
    (artMsg : ACOpsResultMsg) : AcState :=
  match srcAddrs, withDefaultIp a.config dstAddrs with
  | [], _ => (AcState.start artMsg).fail .acEmptyPassAddress
  | _, [] => (AcState.start artMsg).fail .acEmptyPassAddress
  | src :: srcs, dst :: dsts =>
    (carryOut a (src :: srcs) dst (dst :: dsts) openTimeSec (.start artMsg)).state

/-- The call returned no error and the success code. -/
def AcState.Successful (s : AcState) : Prop := s.err = none ∧ s.artMsg.errCode = "0"

/-! ## The handlers of the temporary ports -/

section TempAccess

variable (a : UdpAC) (openTimeSec : Int)

/-- The loop of `tcpTempAccessHandler`, once an access message with a valid token has come from
    `srcAddrIp`; the errors end the loop. -/
def tcpTempAccess (srcAddrIp : String) (ipType : IPType) (dstAddrs : List NetAddress) :
    Stmt AcState :=
  Stmt.forEach dstAddrs fun dst =>
    switchFilter a
      (ipsetAddReturning a ipType 1 openTimeSec (.srcPortDst srcAddrIp (tcpPorts dst.port) dst.ip))
      (ebpfAddChecked a 2 { srcIP := srcAddrIp, dstIP := dst.ip } openTimeSec)

/-- The rules that `tcpTempAccessHandler` adds for a valid access message from `srcAddrIp`. -/
def tcpTempAccessHandler (srcAddrIp : String) (dst₀ : NetAddress) (dsts : List NetAddress) :
    List RuleOp :=
  (tcpTempAccess a openTimeSec srcAddrIp (ipTypeOf dst₀.ip) (dst₀ :: dsts) (.start {})).state.ops

/-- The loop of `udpTempAccessHandler`; the error of the ping entry is not looked at. -/
def udpTempAccess (srcAddrIp : String) (ipType : IPType) (dstAddrs : List NetAddress) :
    Stmt AcState :=
  Stmt.forEach dstAddrs fun dst =>
    (Stmt.cond dst.forUDP <| switchFilter a
      (ipsetAddReturning a ipType 1 openTimeSec (.srcPortDst srcAddrIp (udpPorts dst.port) dst.ip))
      ((Stmt.cond dst.forAny
        (ebpfAddChecked a 2 { srcIP := srcAddrIp, dstIP := dst.ip } openTimeSec)).seq
       (Stmt.cond (dst.protocol = "udp")
        (ebpfAddChecked a 1 { srcIP := srcAddrIp, dstIP := dst.ip, dstPort := dst.port,
                              protocol := dst.protocol } openTimeSec)))).seq
    (Stmt.cond dst.forPing <| switchFilter a
      (ipsetAddDropped a ipType 1 openTimeSec (.srcPortDst srcAddrIp .icmpEcho dst.ip))
      (ebpfAddChecked a 3 { srcIP := srcAddrIp, dstIP := dst.ip } openTimeSec))

/-- The rules that `udpTempAccessHandler` adds for a valid access message from `srcAddrIp`. -/
def udpTempAccessHandler (srcAddrIp : String) (dst₀ : NetAddress) (dsts : List NetAddress) :
    List RuleOp :=
  (udpTempAccess a openTimeSec srcAddrIp (ipTypeOf dst₀.ip) (dst₀ :: dsts) (.start {})).state.ops

end TempAccess

/-! ## A sample -/

/-- An AC on which every operation succeeds. -/
def sampleAC (filterMode ipPassMode : Int) : UdpAC where
  config := ⟨"", ipPassMode, filterMode, 0⟩
  ipset := true
  net6 := ⟨fun _ => none, fun _ => ""⟩
  kernel := ⟨fun _ _ => true, fun _ _ => true, fun _ => 0⟩
  listenTCP := fun _ => some 50000
  resolveTCPAddr := fun _ => true
  listenUDP := fun _ _ => true
  resolveUDPAddr := fun _ => true
  publicKeyExBase64 := "key"
  accessToken := "token"

/-- An agent, a host that may be pinged, and a web service. -/
def agentAddr : NetAddress := ⟨"10.0.0.1", 0, ""⟩
def hostAddr : NetAddress := ⟨"10.1.0.1", 0, "any"⟩
def webAddr : NetAddress := ⟨"10.1.0.2", 443, "tcp"⟩

end OpenNHP.AC
