/-
  The pre-access handshake, from the agent's side: `preAccessRequest` and `processPreAccessAction` of
  `endpoints/agent/knock.go`.

  THE PROGRAM.  In pass mode `PASS_PRE_ACCESS_IP` an AC answers a request with a port, its key, a token and its
  cipher scheme.  The server hands that information to the agent as it is, and the agent is to send an access
  message with the token to the port.

  THE SPECIFICATION.  The message is read at the port (`HandshakeCompletes`).

  WHERE IT FAILS.  The AC leaves the address out, and the agent gives up without one
  (`handshake_never_completes`): for no agent, server, AC and network does the handshake complete.

  THE CRUX.  What the AC hands out goes through the server unchanged (`preAccess_next`, `relayed`), so the missing
  address is followed from the AC's answer to the agent's first test.  With an address the message is read exactly
  when the agent's scheme is GMSM, the scheme of the only key that the AC hands out (`completes_iff_gmsm`): under
  the other the key is of the wrong size (`encrypt_of_wrongKey`).
-/
import OpenNHP.AC.TempAccess
import OpenNHP.AC.TruthfulAnswer
import OpenNHP.Lib.Base64
import OpenNHP.Server.OpenResource

namespace OpenNHP.Agent

open Inet BigEndian OpenNHP.Core OpenNHP.AC

variable {L : Libs}

/-! ## The agent -/

/-- `strconv.Atoi`, its error dropped: zero for what is no number, and the nearest `int` to one that is
    none. -/
def atoi (s : String) : Int :=
  let digits (ds : List Char) : Int :=
    if ds ≠ [] ∧ ds.all Char.isDigit then Nat.ofDigitChars 10 ds 0 else 0
  match s.toList with
  | '-' :: ds => max (-9223372036854775808) (-digits ds)
  | '+' :: ds => min 9223372036854775807 (digits ds)
  | ds => min 9223372036854775807 (digits ds)

/-- `DecodeString` of a text, its error dropped. -/
def decodeBase64 (text : String) : Bytes := (Base64.decodeString text.toUTF8.data.toList).1

/-- What the agent fails with. -/
inductive AgentError
  | packetToMessageRoutineStopped
  | invalidIpAddress
  | knockUserNotSpecified
  /-- what the encryption fails with -/
  | core (e : NhpError)
  deriving DecidableEq

/-- The text of an error, as it is logged. -/
def AgentError.text : AgentError → String
  | .packetToMessageRoutineStopped => "packet to message routine stopped"
  | .invalidIpAddress => "invalid ip address"
  | .knockUserNotSpecified => "knock user not specified"
  | .core e => e.text

/-- What the agent works with; the text of an access message holds the data of its user too. -/
structure UdpAgent (L : Libs) where
  device : Device L.crypto
  net6 : Net6
  defaultCipherScheme : CipherScheme
  userId : String
  deviceId : String
  organizationId : String
  marshal : AgentAccessMsg → Bytes
  running : Bool
  /-- The queue of the device takes the message. -/
  queueFree : Bool

/-- What goes into a packet besides its message: random choices, the pool buffer, the counter, the time. -/
structure Sealing (L : Libs) where
  rnd : Entropy L.crypto
  buf : Bytes
  preamble : UInt32
  transactionId : UInt64
  sendTime : Int64

/-- How the processing of an action ends. -/
inductive Processed
  /-- the packet is sent to the port, over TCP and over UDP -/
  | sent (acIp : Bytes) (acPort : Int) (packet : Bytes)
  | failed (e : AgentError)
  /-- it waits for a packet that does not come -/
  | waiting
  | panicked

section Process

variable (a : UdpAgent L) (s : Sealing L) (info : PreAccessInfo)

/-- The peer that `AddPeer` registers. -/
def acPeer : UdpPeer where
  deviceType := .noDevice
  expireTime := 0
  lastRecvTime := 0
  recvAddr := none

/-- The access message, with the token. -/
def accessMsg : AgentAccessMsg where
  userId := a.userId
  deviceId := a.deviceId
  organizationId := a.organizationId
  acToken := info.acToken

/-- The device behind `AddPeer`. -/
def deviceWithPeer : Device L.crypto := a.device.addPeer (decodeBase64 info.acPubKey) acPeer

/-- The message for the device, on a connection of its own. -/
def accessMsgData : MsgData L.crypto where
  connData := noConnection L
  prevParserData := none
  cipherScheme := a.defaultCipherScheme
  transactionId := s.transactionId
  headerType := .acc
  compress := true
  clPkc := false
  externalCookie := none
  message := a.marshal (accessMsg a info)
  peerPk := some (decodeBase64 info.acPubKey)

/-- `processPreAccessAction`. -/
def processPreAccessAction : Processed :=
  match parseNetIP a.net6 info.accessIp with
  | none => .failed .invalidIpAddress
  | some acIp =>
    let acPort := atoi info.accessPort
    if acPort ≤ 0 then .failed .invalidIpAddress
    else if a.running = false then .failed .packetToMessageRoutineStopped
    else if a.queueFree = false then .waiting
    else
      match (createMsgAssemblerData (deviceWithPeer a info) (accessMsgData a s info) s.rnd
          (Packet.ofBytes s.buf packetBufferSize) s.sendTime).encrypt s.preamble with
      | .ok mad => .sent acIp acPort mad.content
      | .err e => .failed (.core e)
      | .panic => .panicked

/-- `preAccessRequest`: what becomes of every action that there is; their errors are dropped. -/
def preAccessRequest (ackMsg : Server.ServerKnockAckMsg) (sealing : PreAccessInfo → Sealing L) :
    Except AgentError (List Processed) :=
  if a.userId = "" then .error .knockUserNotSpecified
  else .ok ((ackMsg.preAccessActions.filterMap Prod.snd).map fun info =>
    processPreAccessAction a (sealing info) info)

end Process

/-! ## The handshake -/

/-- The handshake completes: the agent accepts the information and sends its packet, and the handler of the
    port reads the issued token from it. -/
def HandshakeCompletes (a : UdpAgent L) (s : Sealing L) (h : AccessHandler L) (arrival : Arrival)
    (transport : Transport) (info : PreAccessInfo) : Prop :=
  ∃ acIp acPort packet, processPreAccessAction a s info = .sent acIp acPort packet ∧
    ∃ accMsg, h.accessMessage arrival transport packet = .ok (some accMsg) ∧ accMsg.acToken = info.acToken

/-- What the AC hands out for a port. -/
def handedOut (a : UdpAC) (port : Nat) : PreAccessInfo where
  accessIp := ""
  accessPort := toString port
  acPubKey := a.publicKeyExBase64
  acToken := a.accessToken
  acCipherScheme := a.config.defaultCipherScheme

/-- Behind a success the AC listens at an address of the request, and hands out everything but that. -/
theorem preAccess_next {a : UdpAC} {tempOpenTimeSec : Int} {dst : NetAddress} {s s' : AcState}
    (h : preAccess a tempOpenTimeSec dst s = .next s') :
    ∃ ip port, parseNetIP a.net6 dst.ip = some ip ∧ a.listenTCP ip = some port ∧
      s'.artMsg.preAccessAction = some (handedOut a port) := by
  unfold preAccess at h
  cases hip : parseNetIP a.net6 dst.ip with
  | none =>
    rw [hip] at h
    cases h
  | some ip =>
    rw [hip] at h
    cases hport : a.listenTCP ip with
    | none =>
      simp only [hport] at h
      cases h
    | some port =>
      simp only [hport] at h
      obtain ⟨_, -, h⟩ := Statement.Stmt.seq_eq_next.mp h
      obtain ⟨_, -, h⟩ := Statement.Stmt.seq_eq_next.mp h
      obtain ⟨_, -, h⟩ := Statement.Stmt.seq_eq_next.mp h
      obtain ⟨_, -, h⟩ := Statement.Stmt.seq_eq_next.mp h
      obtain ⟨_, -, h⟩ := Statement.Stmt.seq_eq_next.mp h
      cases h
      exact ⟨ip, port, rfl, hport, rfl⟩

/-- An answer of success hands out a port of a listener. -/
theorem handedOut_of_code {a : UdpAC} {srcAddrs dstAddrs : List NetAddress} {openTimeSec : Int}
    (hmode : a.config.ipPassMode = passPreAccessIP)
    (hcode : (handleAccessControl a srcAddrs dstAddrs openTimeSec {}).artMsg.errCode = "0") :
    ∃ dst ip port, dst ∈ withDefaultIp a.config dstAddrs ∧ parseNetIP a.net6 dst.ip = some ip ∧
      a.listenTCP ip = some port ∧
      (handleAccessControl a srcAddrs dstAddrs openTimeSec {}).artMsg.preAccessAction
        = some (handedOut a port) := by
  unfold handleAccessControl at hcode ⊢
  split at hcode
  · exact absurd hcode (AcError.code_ne .acEmptyPassAddress)
  · exact absurd hcode (AcError.code_ne .acEmptyPassAddress)
  · rename_i dst dsts hdsts
    obtain ⟨-, s', hnext, -, hfinal⟩ := carryOut_success (underway_start a) hcode
    rw [installRules, if_pos hmode] at hnext
    obtain ⟨ip, port, hip, hport, haction⟩ := preAccess_next hnext
    refine ⟨dst, ip, port, ?_, hip, hport, ?_⟩
    · rw [hdsts]
      exact List.mem_cons_self
    · rw [hfinal]
      exact haction

/-! ## The relay -/

section Relay

variable {srv : Server.AcServer} {knkMsg : Server.AgentKnockMsg} {srcAddr : NetAddress}
  {res : Server.ResourceData}

/-- An answer of success has come from an AC. -/
theorem asked_of_opened {acId : String} {dstAddrs : List NetAddress} {openTime : UInt32}
    {artMsg : ACOpsResultMsg}
    (h : (Server.processACOperation srv knkMsg srcAddr acId dstAddrs openTime).2 = (artMsg, none)) :
    ∃ aopMsg, srv.ask acId aopMsg = .art artMsg ∧ artMsg.errCode = "0" := by
  unfold Server.processACOperation at h
  dsimp only at h
  split at h
  · cases h
  · split at h
    · cases h
    · split at h
      · cases h
      · cases h
      · cases h
      · rename_i artMsg' hask
        split at h
        · cases h
        · rename_i hcode
          cases h
          exact ⟨_, hask, not_not.mp hcode⟩

/-- The server relays what the ACs have answered. -/
theorem relayed {info : PreAccessInfo} (h : some info ∈
      (Server.handleNhpOpenResource srv knkMsg srcAddr res).1.preAccessActions.map Prod.snd) :
    ∃ acId aopMsg artMsg, srv.ask acId aopMsg = .art artMsg ∧ artMsg.errCode = "0" ∧
      artMsg.preAccessAction = some info := by
  have hactions : (Server.handleNhpOpenResource srv knkMsg srcAddr res).1.preAccessActions
      = ((res.resources.map fun r => (r, (Server.openResource srv knkMsg srcAddr res r.2).2)).filter
          fun r => r.2.2.isNone).map fun r => (r.1.1, r.2.1.preAccessAction) := by
    unfold Server.handleNhpOpenResource
    dsimp only
    split <;> rfl
  rw [hactions, List.map_map] at h
  obtain ⟨⟨r, artMsg, err⟩, hr, hinfo⟩ := List.mem_map.mp h
  obtain ⟨hmem, hnone⟩ := List.mem_filter.mp hr
  obtain ⟨r', -, heq⟩ := List.mem_map.mp hmem
  obtain ⟨rfl, hopen⟩ := Prod.mk.inj heq
  obtain rfl : err = none := Option.isNone_iff_eq_none.mp hnone
  unfold Server.openResource at hopen
  split at hopen
  · obtain ⟨aopMsg, hask, hcode⟩ := asked_of_opened hopen
    exact ⟨_, aopMsg, artMsg, hask, hcode, hinfo⟩
  · cases hopen

end Relay

/-! ## Without an address -/

section Process

variable {a : UdpAgent L} {s : Sealing L} {info : PreAccessInfo}

/-- Without an address the agent gives up, -/
theorem processPreAccessAction_of_noAddress (h : info.accessIp = "") :
    processPreAccessAction a s info = .failed .invalidIpAddress := by
  have hparse : parseNetIP a.net6 info.accessIp = none := by
    rw [h]
    rfl
  rw [processPreAccessAction, hparse]

/-- and nothing is read at the port. -/
theorem not_completes_of_noAddress {h : AccessHandler L} {arrival : Arrival} {transport : Transport}
    (hno : info.accessIp = "") : ¬ HandshakeCompletes a s h arrival transport info := by
  rintro ⟨acIp, acPort, packet, hsent, -⟩
  rw [processPreAccessAction_of_noAddress hno] at hsent
  cases hsent

/-- Whatever its ACs in pre-access mode hand out, an agent sends nothing to them. -/
theorem preAccessRequest_sends_nothing {srv : Server.AcServer} {acs : String → UdpAC}
    (hask : ∀ acId aopMsg artMsg, srv.ask acId aopMsg = .art artMsg →
      artMsg = (handleUdpACOperations (acs acId) aopMsg).artMsg)
    (hmode : ∀ acId, (acs acId).config.ipPassMode = passPreAccessIP) (knkMsg : Server.AgentKnockMsg)
    (srcAddr : NetAddress) (res : Server.ResourceData) (sealing : PreAccessInfo → Sealing L)
    {processed : List Processed}
    (h : preAccessRequest a (Server.handleNhpOpenResource srv knkMsg srcAddr res).1 sealing
      = .ok processed) : ∀ p ∈ processed, p = .failed .invalidIpAddress := by
  unfold preAccessRequest at h
  split at h
  · cases h
  · cases h
    intro p hp
    obtain ⟨info, hinfo, rfl⟩ := List.mem_map.mp hp
    obtain ⟨action, haction, hsome⟩ := List.mem_filterMap.mp hinfo
    obtain ⟨acId, aopMsg, artMsg, hart, hcode, hgranted⟩ := relayed
      (List.mem_map.mpr ⟨action, haction, hsome⟩)
    obtain rfl := hask acId aopMsg artMsg hart
    obtain ⟨-, -, port, -, -, -, hhanded⟩ := handedOut_of_code (hmode acId) hcode
    obtain rfl := Option.some.inj (hgranted.symm.trans hhanded)
    exact processPreAccessAction_of_noAddress rfl

end Process

/-- **The handshake never completes.** Whenever an AC in pre-access mode succeeds, at whatever address and
    with whatever scheme, no agent gets anywhere with what it hands out. -/
theorem handshake_never_completes {a : UdpAC} {srcAddrs dstAddrs : List NetAddress} {openTimeSec : Int}
    (hmode : a.config.ipPassMode = passPreAccessIP)
    (hok : (handleAccessControl a srcAddrs dstAddrs openTimeSec {}).Successful) :
    ∃ info, (handleAccessControl a srcAddrs dstAddrs openTimeSec {}).artMsg.preAccessAction = some info ∧
      ∀ (L : Libs) (agent : UdpAgent L) (s : Sealing L) (h : AccessHandler L) (arrival : Arrival)
        (transport : Transport), ¬ HandshakeCompletes agent s h arrival transport info := by
  obtain ⟨-, -, port, -, -, -, hhanded⟩ := handedOut_of_code hmode hok.2
  exact ⟨_, hhanded, fun _ _ _ _ _ _ => not_completes_of_noAddress rfl⟩

/-- An AC in this mode answers, and no handshake completes. -/
theorem handshake_never_completes_sample :
    ∃ info, (handleAccessControl (sampleAC 0 2) [agentAddr] [webAddr] 600 {}).artMsg.preAccessAction
        = some info ∧
      ∀ (L : Libs) (agent : UdpAgent L) (s : Sealing L) (h : AccessHandler L) (arrival : Arrival)
        (transport : Transport), ¬ HandshakeCompletes agent s h arrival transport info :=
  handshake_never_completes rfl ⟨by decide, by decide⟩

/-! ## With an address -/

/-- A port is read back. -/
theorem atoi_toString {n : Nat} (h : n < 9223372036854775808) : atoi (toString n) = n := by
  have hdigits : ∀ c ∈ Nat.toDigits 10 n, c.isDigit = true := fun c hc =>
    Nat.isDigit_of_mem_toDigits (by decide) (by decide) hc
  have hne : Nat.toDigits 10 n ≠ [] := Nat.toDigits_ne_nil
  have hminus : ∀ ds, Nat.toDigits 10 n ≠ '-' :: ds := by
    intro ds heq
    have hdigit := hdigits '-' (heq ▸ List.mem_cons_self)
    exact absurd hdigit (by decide)
  have hplus : ∀ ds, Nat.toDigits 10 n ≠ '+' :: ds := by
    intro ds heq
    have hdigit := hdigits '+' (heq ▸ List.mem_cons_self)
    exact absurd hdigit (by decide)
  have hlist : (toString n).toList = Nat.toDigits 10 n := Nat.toList_repr
  unfold atoi
  rw [hlist]
  dsimp only
  split
  · rename_i ds heq
    exact absurd heq (hminus ds)
  · rename_i ds heq
    exact absurd heq (hplus ds)
  · rw [if_pos ⟨hne, List.all_eq_true.mpr hdigits⟩, Nat.ofDigitChars_ten_toDigits]
    omega

/-- The agent and the AC are up, the AC's key is the one handed out, and access messages are parsed as they
    were written. -/
structure Cooperate (a : UdpAgent L) (s : Sealing L) (h : AccessHandler L) (arrival : Arrival)
    (info : PreAccessInfo) : Prop where
  running : a.running = true
  queueFree : a.queueFree = true
  buf : s.buf.length = packetBufferSize
  serving : h.Serving
  key : decodeBase64 info.acPubKey = h.device.staticEcdhGmsm.publicKey
  parsed : h.unmarshal (a.marshal (accessMsg a info)) = some (accessMsg a info)
  fits : Fits L .gmsm true (a.marshal (accessMsg a info))
  timely : PacketParserData.recvTimeError .ac .acc (noConnection L) arrival.initTime s.sendTime = none

/-- For an address and a port the handshake goes as far as the encryption. -/
theorem processPreAccessAction_of_address {a : UdpAgent L} {s : Sealing L} {info : PreAccessInfo}
    {acIp : Bytes} {port : Nat} (haddr : parseNetIP a.net6 info.accessIp = some acIp)
    (hport : info.accessPort = toString port) (hpos : 0 < port) (hlt : port < 65536)
    (hrunning : a.running = true) (hqueue : a.queueFree = true) :
    processPreAccessAction a s info =
      match (createMsgAssemblerData (deviceWithPeer a info) (accessMsgData a s info) s.rnd
          (Packet.ofBytes s.buf packetBufferSize) s.sendTime).encrypt s.preamble with
      | .ok mad => .sent acIp port mad.content
      | .err e => .failed (.core e)
      | .panic => .panicked := by
  have hatoi : atoi info.accessPort = port := by
    rw [hport]
    exact atoi_toString (by omega)
  rw [processPreAccessAction, haddr]
  dsimp only
  rw [hatoi, if_neg (by omega), hrunning, hqueue]
  rfl

/-- A key of the wrong length is refused. -/
theorem encrypt_of_wrongKey {d : Device L.crypto} {md : MsgData L.crypto} {rnd : Entropy L.crypto}
    {pkt : Packet Bytes} {sendTime : Int64} {pk : Bytes} (hprev : md.prevParserData = none)
    (hpeer : md.peerPk = some pk) (hlen : pk.length ≠ publicKeySize md.cipherScheme) (preamble : UInt32) :
    (createMsgAssemblerData d md rnd pkt sendTime).encrypt preamble = .err .deviceECDHPeerFailed := by
  rw [createMsgAssemblerData_of_none hprev, MsgAssemblerData.encrypt, MsgAssemblerData.setPeerPublicKey]
  have hremote : ((freshMsgAssemblerData d md pkt).begin rnd sendTime).remotePubKey = some pk := hpeer
  have hwrong : L.crypto.len pk
      ≠ publicKeySize ((freshMsgAssemblerData d md pkt).begin rnd sendTime).cipherScheme := hlen
  dsimp only
  rw [hremote, Option.none_or, Go.ofOption, Go.bind_ok, if_pos hwrong, Go.bind_err]

/-- With an address the handshake completes exactly when the agent's scheme is GMSM. -/
theorem completes_iff_gmsm (hL : LawfulLibs L) {a : UdpAgent L} {s : Sealing L} {h : AccessHandler L}
    {arrival : Arrival} {info : PreAccessInfo} {acIp : Bytes} {port : Nat}
    (hc : Cooperate a s h arrival info) (haddr : parseNetIP a.net6 info.accessIp = some acIp)
    (hport : info.accessPort = toString port) (hpos : 0 < port) (hlt : port < 65536)
    (transport : Transport) :
    HandshakeCompletes a s h arrival transport info ↔ a.defaultCipherScheme = .gmsm := by
  have hprocess := processPreAccessAction_of_address (s := s) haddr hport hpos hlt hc.running hc.queueFree
  -- The AC's key in the message is its GMSM one, of 64 bytes, whatever scheme the agent runs.
  have hkeyLen : (decodeBase64 info.acPubKey).length = 64 := by
    rw [hc.key]
    refine (Ecdh.len_publicKey (Libs.lawful hL) _).trans ?_
    rw [h.device.staticEcdhGmsm_eccType]
    rfl
  constructor
  · rintro ⟨acIp', acPort, packet, hsent, -⟩
    by_contra hscheme
    have hcurve : a.defaultCipherScheme = .curve := by
      cases h : a.defaultCipherScheme with
      | curve => rfl
      | gmsm => exact absurd h hscheme
    rw [hprocess, encrypt_of_wrongKey rfl rfl (by
      rw [hkeyLen]
      show 64 ≠ publicKeySize a.defaultCipherScheme
      rw [hcurve]
      decide)] at hsent
    cases hsent
  · intro hscheme
    have hkey : (accessMsgData a s info).peerPk
        = some (h.device.getEcdhByCipherScheme (accessMsgData a s info).cipherScheme).publicKey := by
      show some (decodeBase64 info.acPubKey)
        = some (h.device.getEcdhByCipherScheme a.defaultCipherScheme).publicKey
      rw [hscheme, hc.key]
      rfl
    have hfits : Fits L (accessMsgData a s info).cipherScheme true (a.marshal (accessMsg a info)) := by
      show Fits L a.defaultCipherScheme _ _
      rw [hscheme]
      exact hc.fits
    obtain ⟨mad, hencrypt, hread⟩ := AccessHandler.accessMessage_sent hL hc.serving
      (deviceWithPeer a info) s.rnd s.sendTime hc.buf rfl rfl hkey hfits s.preamble
    rw [hencrypt] at hprocess
    refine ⟨acIp, port, mad.content, hprocess, accessMsg a info, ?_, rfl⟩
    rw [hread arrival transport hc.timely]
    exact congrArg Go.ok hc.parsed

/-! ## A sample handshake -/

/-- An agent with this scheme. -/
def sampleAgent (scheme : CipherScheme) : UdpAgent sampleLibs where
  device := sampleDevice .agent 1
  net6 := ⟨fun _ => none, fun _ => ""⟩
  defaultCipherScheme := scheme
  userId := "user1"
  deviceId := "device"
  organizationId := "org"
  marshal := fun _ => [104, 105]
  running := true
  queueFree := true

/-- Its random choices and its clock. -/
def sampleSealing : Sealing sampleLibs where
  rnd := sampleEntropy
  buf := List.replicate packetBufferSize 0
  preamble := 5
  transactionId := 7
  sendTime := 1000000000000

/-- An AC that hands out the key of its device. -/
def keyAC : UdpAC := { sampleAC 0 2 with publicKeyExBase64 := base64 (sampleEcdh .sm2 2).publicKey }

/-- The handler at the port. -/
def sampleHandler : AccessHandler sampleLibs where
  device := sampleDevice .ac 2
  unmarshal := fun _ => some ⟨"user1", "device", "org", "token"⟩
  running := true
  queueFree := true

/-- When the message arrives. -/
def sampleArrival : Arrival := ⟨[], 1000000000000, 1000000, 1000000000000⟩

/-- What is handed out, with this address. -/
def sampleInfo (accessIp : String) : PreAccessInfo := { handedOut keyAC 50000 with accessIp := accessIp }

/-- All of them work together. -/
theorem sample_cooperate (scheme : CipherScheme) (accessIp : String) :
    Cooperate (sampleAgent scheme) sampleSealing sampleHandler sampleArrival (sampleInfo accessIp) where
  running := rfl
  queueFree := rfl
  buf := List.length_replicate
  serving := ⟨rfl, rfl, rfl, rfl, rfl⟩
  key := by
    show decodeBase64 (base64 (sampleEcdh .sm2 2).publicKey) = (sampleEcdh .sm2 2).publicKey
    decide +kernel
  parsed := rfl
  fits := by
    show Fits sampleLibs .gmsm true [104, 105]
    exact ⟨by decide, by decide⟩
  timely := by
    have hreplay : ¬ (1000000000000 : Int64) < 0 := by decide
    have hflood : ¬ (1000000000000 : Int64) < 0 + minimalRecvIntervalMs * millisecond := by decide
    show PacketParserData.recvTimeError .ac .acc (noConnection sampleLibs) 1000000000000 1000000000000
      = none
    rw [PacketParserData.recvTimeError, if_neg (fun h => hreplay h.2), if_neg (fun h => hflood h.2),
      if_neg (by decide)]

/-- The AC succeeds, but the agent refuses what it hands out.  With the address of the destination a GMSM
    agent would be let in, and an agent of the other scheme would not. -/
theorem handshake_incomplete :
    ((handleAccessControl keyAC [agentAddr] [webAddr] 600 {}).Successful ∧
      (handleAccessControl keyAC [agentAddr] [webAddr] 600 {}).artMsg.preAccessAction
        = some (sampleInfo "")) ∧
    (∀ scheme, processPreAccessAction (sampleAgent scheme) sampleSealing (sampleInfo "")
        = .failed .invalidIpAddress ∧
      ¬ HandshakeCompletes (sampleAgent scheme) sampleSealing sampleHandler sampleArrival .udp
        (sampleInfo "")) ∧
    HandshakeCompletes (sampleAgent .gmsm) sampleSealing sampleHandler sampleArrival .udp
      (sampleInfo webAddr.ip) ∧
    ¬ HandshakeCompletes (sampleAgent .curve) sampleSealing sampleHandler sampleArrival .udp
      (sampleInfo webAddr.ip) := by
  have haddr : parseNetIP ⟨fun _ => none, fun _ => ""⟩ webAddr.ip = some [10, 1, 0, 2] := by decide
  have hiff := fun scheme => completes_iff_gmsm sampleLibs_lawful (sample_cooperate scheme webAddr.ip)
    haddr rfl (by decide) (by decide) .udp
  exact ⟨⟨⟨by decide, by decide⟩, rfl⟩,
    fun _ => ⟨processPreAccessAction_of_noAddress rfl, not_completes_of_noAddress rfl⟩,
    (hiff .gmsm).mpr rfl, fun h => absurd ((hiff .curve).mp h) (by decide)⟩

end OpenNHP.Agent
