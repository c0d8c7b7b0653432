/-
  Roles of the senders.

  1. **The program.**  `validatePeer` decides by the header type whether a registered peer is needed
     (`toValidate`), and then asks whether the sender is some registered peer: the peer's own device type is never
     compared.  An overloaded server lets in only some types, by role.

  2. **The property.**  For a header type whose role is validated: the sender of every accepted packet of that role
     is registered with the role (`RoleAuthentic`), and the handlers that look the sender up among the peers of the
     role find it (`HandlerFindsPeer` for the access controllers, `DBHandlerFindsPeer` for the brokers).

  3. **Enough.**  Where every usable peer has the role (`OnlyRole`) the sender does; and by the invariant of
     `UdpServer` the handler finds it, since the device's peers of the role are in the server's map of it.

  4. **Needed.**  Any usable peer can send any type: its owner knows the secret of the two static keys, and forges
     the rest (`exists_accepted`).  So a usable peer of another role breaks the property, and the two are
     equivalent (`role_authentic_iff`); `agent_comes_online_as_ac` is the run in which the handler stores a nil
     peer.
-/
import OpenNHP.Server.Peers

namespace OpenNHP.Server

open OpenNHP.Core OpenNHP.Core.PacketParserData BigEndian

/-- DHP agents count as agents. -/
def agentRole : DeviceType → DeviceType
  | .dhpAgent => .agent
  | role => role

/-- The role that sends a header type. -/
def roleOf (t : HeaderType) : DeviceType := agentRole (headerTypeToDeviceType t)

/-- DHP agents are validated as agents are. -/
theorem validatesRole_agentRole (option : DeviceOptions) (role : DeviceType) :
    validatesRole option (agentRole role) = validatesRole option role := by
  cases role <;> rfl

/-- The options look at the role only. -/
theorem toValidate_eq (option : DeviceOptions) (t : HeaderType) :
    toValidate option t = validatesRole option (roleOf t) :=
  (validatesRole_agentRole option _).symm

section Accepts

variable {M : Type} {C : Crypto M} [DecidableEq M]

/-- Header check and `validatePeer` accept a packet. -/
def Accepts (d : Device C) (pd : PacketData C) (nowMilli now : Int64) (ppd : PacketParserData C) :
    Prop :=
  ∃ ppd₁, createPacketParserData d pd = .ok ppd₁ ∧ ppd₁.validatePeer nowMilli now = (ppd, .ok ())

/-- An admitted sender that had to be registered is. -/
theorem admitPeer_registered {d d' : Device C} {t : HeaderType} {pk : M} {time nowMilli : Int64}
    {addr : Addr} (h : admitPeer d t pk time addr nowMilli = .ok d')
    (hvalidate : toValidate d.option t = true) :
    ∃ peer, d.lookupPeer pk = some peer ∧ peer.isExpired nowMilli = false := by
  rw [admitPeer, if_pos hvalidate] at h
  simp only [Go.bind_eq_ok, Go.ofOption_eq_ok] at h
  obtain ⟨peer, hpeer, h⟩ := h
  refine ⟨peer, hpeer, ?_⟩
  split at h
  · cases h
  · rename_i hexpired
    exact Bool.not_eq_true _ ▸ hexpired

/-- What is known about the sender of an accepted packet whose role is validated. -/
theorem Accepts.sender {d : Device C} {pd : PacketData C} {nowMilli now : Int64}
    {ppd : PacketParserData C} (h : Accepts d pd nowMilli now ppd)
    (hvalidate : toValidate d.option ppd.headerType = true) :
    ∃ pk peer, ppd.remotePubKey = some pk ∧ d.lookupPeer pk = some peer ∧
      peer.isExpired nowMilli = false ∧
      ∃ scheme ss, (d.getEcdhByCipherScheme scheme).sharedSecret pk = some ss := by
  obtain ⟨-, hs, pk, tsBytes, d', hpasses, rfl⟩ := validated_iff.mp h
  have hadmitted := hpasses.admitted
  rw [PacketData.checked_device] at hadmitted
  obtain ⟨peer, hpeer, hexpired⟩ := admitPeer_registered hadmitted hvalidate
  refine ⟨pk, peer, rfl, hpeer, hexpired, (pd.checked d).cipherScheme, hs.ss, ?_⟩
  have hss := hpasses.ss
  rwa [deviceEcdh, PacketData.checked_device] at hss

/-- An accepted packet's type is allowed at overload. -/
theorem Accepts.role_at_overload {d : Device C} {pd : PacketData C} {nowMilli now : Int64}
    {ppd : PacketParserData C} (h : Accepts d pd nowMilli now ppd) (hserver : d.deviceType = .server)
    (hoverload : d.overload = true) :
    roleOf ppd.headerType = .agent ∨ roleOf ppd.headerType = .ac := by
  obtain ⟨-, hs, pk, tsBytes, d', hpasses, rfl⟩ := validated_iff.mp h
  have hdevice : (pd.startState d).device = d := PacketData.checked_device d pd
  have hread : (pd.startState d).headerRead.overload = true := by
    show decide ((pd.startState d).device.deviceType = .server ∧
      (pd.startState d).device.overload = true) = true
    rw [hdevice, hserver, hoverload]
    rfl
  have hallowed := hpasses.allowed hread
  show roleOf (pd.startState d).headerRead.headerType = .agent ∨
    roleOf (pd.startState d).headerRead.headerType = .ac
  simp only [isAllowedAtOverload, List.contains_eq_mem, List.mem_cons, List.not_mem_nil, or_false,
    decide_eq_true_eq] at hallowed
  rcases hallowed with h | h | h | h | h | h <;> rw [h] <;> decide

end Accepts

/-! ## The property and when it holds -/

variable {L : Libs}

/-- The sender of every accepted packet of a role is registered with that role. -/
def RoleAuthentic (d : Device L.crypto) (nowMilli : Int64) (role : DeviceType) : Prop :=
  ∀ content rest conn prev connPk initTime now ppd,
    Accepts d (PacketData.ofContent content rest conn prev connPk initTime) nowMilli now ppd →
    roleOf ppd.headerType = role →
    ∃ pk peer, ppd.remotePubKey = some pk ∧ d.lookupPeer pk = some peer ∧
      agentRole peer.deviceType = role

/-- `HandleACOnline` finds an AC peer behind every accepted AC-online message. -/
def HandlerFindsPeer (s : UdpServer L.crypto) (nowMilli : Int64) : Prop :=
  ∀ content rest conn prev connPk initTime now ppd msg,
    Accepts s.device (PacketData.ofContent content rest conn prev connPk initTime) nowMilli now ppd →
    ppd.headerType = .aol →
    ∃ acConn acPeer, (s.handleACOnline ppd (some msg)).acConnectionMap msg.acId = some acConn ∧
      acConn.acPeer = some acPeer ∧ acPeer.deviceType = .ac

/-- `HandleDBOnline` finds a broker behind every accepted DB-online message. -/
def DBHandlerFindsPeer (s : UdpServer L.crypto) (nowMilli : Int64) : Prop :=
  ∀ content rest conn prev connPk initTime now ppd msg,
    Accepts s.device (PacketData.ofContent content rest conn prev connPk initTime) nowMilli now ppd →
    ppd.headerType = .dol →
    ∃ dbConn dbPeer, (s.handleDBOnline ppd (some msg)).dbConnectionMap msg.dbId = some dbConn ∧
      dbConn.dbPeer = some dbPeer ∧ dbPeer.deviceType = .db

/-- Every registered, unexpired peer with whose key the device computes a secret has the role. -/
def OnlyRole (d : Device L.crypto) (nowMilli : Int64) (role : DeviceType) : Prop :=
  ∀ pk peer, d.lookupPeer pk = some peer → peer.isExpired nowMilli = false →
    (∃ scheme ss, (d.getEcdhByCipherScheme scheme).sharedSecret pk = some ss) →
    agentRole peer.deviceType = role

/-- An overloaded server handles packets of agents and ACs only. -/
def HandlesRole (d : Device L.crypto) (role : DeviceType) : Prop :=
  d.deviceType = .server → d.overload = true → role = .agent ∨ role = .ac

/-- Where every usable peer has the role, so has the sender. -/
theorem roleAuthentic_of_onlyRole {d : Device L.crypto} {nowMilli : Int64} {role : DeviceType}
    (hvalidate : validatesRole d.option role = true)
    (h : HandlesRole d role → OnlyRole d nowMilli role) : RoleAuthentic d nowMilli role := by
  intro content rest conn prev connPk initTime now ppd haccepts hrole
  have hvalidate' : toValidate d.option ppd.headerType = true := by
    rw [toValidate_eq, hrole]
    exact hvalidate
  obtain ⟨pk, peer, hpk, hpeer, hexpired, hss⟩ := haccepts.sender hvalidate'
  have hhandles : HandlesRole d role := by
    intro hserver hoverload
    rw [← hrole]
    exact haccepts.role_at_overload hserver hoverload
  exact ⟨pk, peer, hpk, hpeer, h hhandles pk peer hpeer hexpired hss⟩

/-- Behind an authentic message of an AC or a broker is a peer of the device with that device type. -/
theorem RoleAuthentic.sender {d : Device L.crypto} {nowMilli now initTime : Int64} {role : DeviceType}
    (h : RoleAuthentic d nowMilli role) (hrole : role ≠ .agent) {content rest : Bytes} {conn : ConnectionData Bytes}
    {prev : Option (MsgAssemblerData L.crypto)} {connPk : Option Bytes} {ppd : PacketParserData L.crypto}
    (haccepts : Accepts d (PacketData.ofContent content rest conn prev connPk initTime) nowMilli now ppd)
    (hof : roleOf ppd.headerType = role) :
    ∃ pk peer, ppd.remotePubKey = some pk ∧ d.lookupPeer pk = some peer ∧ peer.deviceType = role := by
  obtain ⟨pk, peer, hpk, hpeer, hagentRole⟩ := h content rest conn prev connPk initTime now ppd haccepts hof
  refine ⟨pk, peer, hpk, hpeer, ?_⟩
  -- only a DHP agent has another role than its device type
  cases hdt : peer.deviceType <;> rw [hdt] at hagentRole <;>
    first | exact hagentRole | exact absurd hagentRole.symm hrole

/-- With authentic AC messages the handler finds its peer: the device's AC peers are in the AC map. -/
theorem handlerFindsPeer_of_roleAuthentic {s : UdpServer L.crypto} {nowMilli : Int64}
    (h : RoleAuthentic s.device nowMilli .ac) : HandlerFindsPeer s nowMilli := by
  intro content rest conn prev connPk initTime now ppd msg haccepts haol
  obtain ⟨pk, peer, hpk, hpeer, hrole⟩ := h.sender (by decide) haccepts (by rw [haol]; rfl)
  obtain ⟨acPeer, hacPeer⟩ := s.acPeers_registered pk peer hpeer hrole
  obtain ⟨conn', hconn, hconnPeer⟩ := s.handleACOnline_acConnectionMap ppd msg
  refine ⟨conn', acPeer, hconn, ?_, s.acPeers_role pk acPeer hacPeer⟩
  rw [hconnPeer, hpk]
  exact hacPeer

/-- And with authentic messages of the brokers the other handler finds its peer. -/
theorem dbHandlerFindsPeer_of_roleAuthentic {s : UdpServer L.crypto} {nowMilli : Int64}
    (h : RoleAuthentic s.device nowMilli .db) : DBHandlerFindsPeer s nowMilli := by
  intro content rest conn prev connPk initTime now ppd msg haccepts hdol
  obtain ⟨pk, peer, hpk, hpeer, hrole⟩ := h.sender (by decide) haccepts (by rw [hdol]; rfl)
  obtain ⟨dbPeer, hdbPeer⟩ := s.dbPeers_registered pk peer hpeer hrole
  obtain ⟨conn', hconn, hconnPeer⟩ := s.handleDBOnline_dbConnectionMap ppd msg
  refine ⟨conn', dbPeer, hconn, ?_, s.dbPeers_role pk dbPeer hdbPeer⟩
  rw [hconnPeer, hpk]
  exact hdbPeer

/-! ## A packet from any registered key -/

/-- A common header of a type and an empty payload, with the flag word of a scheme. -/
def forgedCommon (scheme : CipherScheme) (t : HeaderType) : HeaderCommon :=
  HeaderCommon.setTypeAndPayloadSize
    { preamble := 0, tns := 0, major := protocolVersionMajor, minor := protocolVersionMinor
      flag := if scheme = .gmsm then flagExtendedLength else 0, unused := 0, counter := 0 } 0 t 0

/-- The header has the type -/
theorem forgedCommon_type (scheme : CipherScheme) {t : HeaderType} (hnamed : t.Named) :
    (forgedCommon scheme t).typeAndPayloadSize.1 = t :=
  congrArg Prod.fst (HeaderCommon.typeAndPayloadSize_set _ _ hnamed (by decide))

/-- and names the scheme. -/
theorem forgedCommon_scheme (scheme : CipherScheme) (t : HeaderType) :
    Packet.flagScheme (forgedCommon scheme t).flag = scheme := by
  rw [forgedCommon, HeaderCommon.setTypeAndPayloadSize_flag]
  cases scheme <;> decide

/-- A secret with a key exists only when the key has the curve's length. -/
theorem len_of_sharedSecret {M : Type} {C : Crypto M} {e : Ecdh C} {pk ss : M}
    (h : e.sharedSecret pk = some ss) : C.len pk = eccPublicKeySize e.eccType := by
  rw [Ecdh.sharedSecret] at h
  split at h
  · cases h
  · exact not_not.mp ‹_›

/-- The forged fields have their sizes. -/
theorem forge_wellSized (hL : LawfulLibs L) {hs : Handshake Bytes} {common : HeaderCommon}
    {identity pk : Bytes} {time : Int64} (heph : hs.ephermeral.length = publicKeySize hs.scheme)
    (hid : identity.length = maximumIdentitySize + gcmTagSize)
    (hpk : pk.length = publicKeySize hs.scheme) :
    (hs.forge L.crypto common identity pk time).toHeaderFields.WellSized hs.scheme := by
  have hC := Libs.lawful hL
  refine ⟨heph, hid, ?_, ?_, hC.len_hash _ _⟩
  · exact (hC.len_aeadSeal _ _ _ _ _).trans (congrArg (· + gcmTagSize) hpk)
  · exact (hC.len_aeadSeal _ _ _ _ _).trans (congrArg (· + gcmTagSize) (hC.len_timestampBytes _))

/-- Any usable registered key sends any type: its owner knows the second secret, and the first one is
    that of an ephemeral key of its choice. -/
theorem exists_accepted (hL : LawfulLibs L) {d : Device L.crypto} {nowMilli : Int64} {pk ss : Bytes}
    {peer : UdpPeer} {scheme : CipherScheme} {t : HeaderType}
    (hpeer : d.lookupPeer pk = some peer) (hexpired : peer.isExpired nowMilli = false)
    (hss : (d.getEcdhByCipherScheme scheme).sharedSecret pk = some ss) (hnamed : t.Named)
    (hoverload : d.deviceType = .server → d.overload = true → t ∈ [HeaderType.ext, .aol, .art]) :
    ∃ content conn ppd, Accepts d (PacketData.ofContent content [] conn none none 0) nowMilli 0 ppd ∧
      ppd.headerType = t ∧ ppd.remotePubKey = some pk := by
  have hC := Libs.lawful hL
  set e := d.getEcdhByCipherScheme scheme with he
  have hecc : eccPublicKeySize e.eccType = publicKeySize scheme := by
    rw [he, d.getEcdhByCipherScheme_eccType, eccPublicKeySize_newCipherSuite]
  -- Any ephemeral key will do, so the owner of `pk` takes one it need not make: the device's own.
  obtain ⟨ess, hess, -⟩ := Ecdh.sharedSecret_agree hC (rfl : e.eccType = e.eccType)
  let hs : Handshake Bytes :=
    { scheme := scheme, base := chainKey0 L.crypto scheme, responder := e.publicKey
      ephermeral := e.publicKey, ess := ess, ss := ss }
  let header := hs.forge L.crypto (forgedCommon scheme t)
    (List.replicate (maximumIdentitySize + gcmTagSize) 0) pk 0
  have hsized : header.toHeaderFields.WellSized scheme := by
    have heph : hs.ephermeral.length = publicKeySize scheme := (Ecdh.len_publicKey hC e).trans hecc
    have hpk : pk.length = publicKeySize scheme := (len_of_sharedSecret hss).trans hecc
    exact forge_wellSized hL heph List.length_replicate hpk
  -- A connection from the peer's own address, on which nothing was sent for long.
  let conn : ConnectionData Bytes :=
    { ConnectionData.new L.crypto (peer.recvAddr.getD "<nil>") with
      lastRemoteSendTime := -1000000000000 }
  let pd : PacketData L.crypto := PacketData.ofContent header.bytes [] conn none none 0
  have hcast : pd.basePacket.cast scheme = header := Header.cast_ofBytes hsized [] _
  have hcommon : pd.basePacket.common = forgedCommon scheme t := congrArg Header.common hcast
  have hstart : pd.startState d = start d pd scheme (chainKey0 L.crypto scheme) none
      [chainKey0 L.crypto scheme] := by
    have hscheme : Packet.flagScheme pd.basePacket.common.flag = scheme := by
      rw [hcommon, forgedCommon_scheme]
    show startFresh d pd = _
    rw [startFresh, hscheme]
    rfl
  have hadmits : ∃ d', admitPeer d t pk 0 conn.remoteAddr nowMilli = .ok d' := by
    rw [admitPeer]
    split
    · have haddr : peer.checkRecvAddress 0 conn.remoteAddr = true := by
        rw [UdpPeer.checkRecvAddress]
        split
        · rfl
        · exact beq_self_eq_true _
      refine ⟨d.addPeer pk (peer.updateRecv 0 conn.remoteAddr), ?_⟩
      simp [hpeer, Go.ofOption, hexpired, haddr]
    · exact ⟨d, rfl⟩
  obtain ⟨d', hadmits⟩ := hadmits
  have htype := forgedCommon_type scheme hnamed
  -- Both secrets are the device's own, so its handshake passes, and the times were chosen to.
  have hpasses : pd.Passes d nowMilli hs pk (L.crypto.timestampBytes 0) d' := by
    refine passes_forged hC hstart hcast rfl hess hss ?_ ?_ ?_
    · rw [htype]
      exact hoverload
    · rw [htype]
      exact hadmits
    · have hreplay : ¬ (0 : Int64) < -1000000000000 := by decide
      have hflood : ¬ (0 : Int64) < -1000000000000 + minimalRecvIntervalMs * millisecond := by decide
      have hstale : ¬ (0 : Int64) < 0 - 600 * second := by decide
      rw [recvTimeError, if_neg (fun h => hreplay h.2), if_neg (fun h => hflood h.2)]
      exact if_neg hstale
  have hlen : 12 ≤ pd.basePacket.len := by
    show 12 ≤ header.bytes.length
    rw [Header.length_bytes hsized]
    exact twelve_le_headerSize scheme
  refine ⟨header.bytes, conn, pd.passed d hs pk (L.crypto.timestampBytes 0) d',
    validated_iff.mpr ⟨hlen, hs, pk, _, d', hpasses, rfl⟩, ?_, rfl⟩
  show pd.basePacket.common.typeAndPayloadSize.1 = t
  rw [hcommon, htype]

/-- **Role authenticity.**  Take a header type whose role the device validates.  The sender of every
    accepted packet of that role is registered with the role, and on a server the AC-online handler
    finds its AC peer and the DB-online handler its broker, exactly when every usable registered peer has
    that role (an overloaded server is excused for the roles it does not handle). -/
theorem role_authentic_iff (hL : LawfulLibs L) (d : Device L.crypto) (nowMilli : Int64)
    (t : HeaderType) (hvalidate : toValidate d.option t = true) :
    (RoleAuthentic d nowMilli (roleOf t) ∧
      ∀ s : UdpServer L.crypto, s.device = d → (roleOf t = .ac → HandlerFindsPeer s nowMilli) ∧
        (roleOf t = .db → DBHandlerFindsPeer s nowMilli)) ↔
      (HandlesRole d (roleOf t) → OnlyRole d nowMilli (roleOf t)) := by
  constructor
  · rintro ⟨hauthentic, -⟩ hhandles pk peer hpeer hexpired ⟨scheme, ss, hss⟩
    -- a type of the same role that is let in at overload
    obtain ⟨t', hnamed, hrole, hoverload⟩ : ∃ t' : HeaderType, t'.Named ∧ roleOf t' = roleOf t ∧
        (d.deviceType = .server → d.overload = true → t' ∈ [HeaderType.ext, .aol, .art]) := by
      by_cases hbusy : d.deviceType = .server ∧ d.overload = true
      · rcases hhandles hbusy.1 hbusy.2 with h | h
        · exact ⟨.ext, trivial, h.symm, fun _ _ => by decide⟩
        · exact ⟨.aol, trivial, h.symm, fun _ _ => by decide⟩
      · refine ⟨t, ?_, rfl, fun hserver hover => absurd ⟨hserver, hover⟩ hbusy⟩
        cases t with
        | other n => cases hvalidate
        | _ => trivial
    obtain ⟨content, conn, ppd, haccepts, htype, hpk⟩ :=
      exists_accepted hL hpeer hexpired hss hnamed hoverload
    obtain ⟨pk', peer', hpk', hpeer', hrole'⟩ := hauthentic content [] conn none none 0 0 ppd haccepts
      (by rw [htype, hrole])
    rw [hpk, Option.some.injEq] at hpk'
    rw [← hpk', hpeer, Option.some.injEq] at hpeer'
    rw [hpeer', hrole']
  · intro h
    have hauthentic : RoleAuthentic d nowMilli (roleOf t) := by
      refine roleAuthentic_of_onlyRole ?_ h
      rw [← toValidate_eq]
      exact hvalidate
    refine ⟨hauthentic, ?_⟩
    rintro s rfl
    refine ⟨fun hac => ?_, fun hdb => ?_⟩
    · rw [hac] at hauthentic
      exact handlerFindsPeer_of_roleAuthentic hauthentic
    · rw [hdb] at hauthentic
      exact dbHandlerFindsPeer_of_roleAuthentic hauthentic

/-! ## An agent that comes online as an AC -/

/-- A server with one registered peer, the agent with key 1. -/
def sampleServer : UdpServer sampleLibs.crypto :=
  UdpServer.addAgentPeer
    { device := { sampleDevice .server 2 with peerMap := fun _ => none }
      acPeerMap := fun _ => none
      acConnectionMap := fun _ => none
      dbPeerMap := fun _ => none
      dbConnectionMap := fun _ => none
      acPeers_registered := nofun
      acPeers_role := nofun
      dbPeers_registered := nofun
      dbPeers_role := nofun }
    (sampleEcdh .sm2 1).publicKey
    { deviceType := .agent, expireTime := 0, lastRecvTime := 0, recvAddr := none }

/-- The agent is registered. -/
theorem sampleServer_lookupPeer : sampleServer.device.lookupPeer (sampleEcdh .sm2 1).publicKey =
    some { deviceType := .agent, expireTime := 0, lastRecvTime := 0, recvAddr := none } := by
  rw [sampleServer, UdpServer.addAgentPeer, dif_pos rfl, Device.lookupPeer_addPeer]
  exact if_pos rfl

/-- For that server, both sides of the equivalence. -/
theorem role_authentic_sample :
    (RoleAuthentic sampleServer.device 0 .ac ∧ ∀ s : UdpServer sampleLibs.crypto,
      s.device = sampleServer.device → ((DeviceType.ac = .ac) → HandlerFindsPeer s 0) ∧
        ((DeviceType.ac = .db) → DBHandlerFindsPeer s 0)) ↔
      (HandlesRole sampleServer.device .ac → OnlyRole sampleServer.device 0 .ac) :=
  role_authentic_iff sampleLibs_lawful sampleServer.device 0 .aol rfl

/-- The agent's AC-online message is accepted, and the handler stores a connection without a peer. -/
theorem agent_comes_online_as_ac :
    ¬ RoleAuthentic sampleServer.device 0 .ac ∧
      ∃ content conn ppd, Accepts sampleServer.device
          (PacketData.ofContent content [] conn none none 0) 0 0 ppd ∧ ppd.headerType = .aol ∧
        ∀ msg, ∃ acConn, (sampleServer.handleACOnline ppd (some msg)).acConnectionMap msg.acId
          = some acConn ∧ acConn.recvAddr = .panic := by
  have hss : (sampleServer.device.getEcdhByCipherScheme .gmsm).sharedSecret
      (sampleEcdh .sm2 1).publicKey = some (List.replicate 32 3) := by decide
  have hexpired : UdpPeer.isExpired
      { deviceType := .agent, expireTime := 0, lastRecvTime := 0, recvAddr := none } 0 = false := by
    decide
  obtain ⟨content, conn, ppd, haccepts, htype, hpk⟩ := exists_accepted sampleLibs_lawful
    sampleServer_lookupPeer hexpired hss (show HeaderType.aol.Named from trivial)
    (fun _ _ => by decide)
  refine ⟨?_, content, conn, ppd, haccepts, htype, ?_⟩
  · intro h
    obtain ⟨pk, peer, hpk', hpeer, hrole⟩ := h content [] conn none none 0 0 ppd haccepts
      (by rw [htype]; rfl)
    rw [hpk, Option.some.injEq] at hpk'
    rw [← hpk', sampleServer_lookupPeer, Option.some.injEq] at hpeer
    rw [← hpeer] at hrole
    cases hrole
  · intro msg
    obtain ⟨acConn, hconn, hpeer⟩ := sampleServer.handleACOnline_acConnectionMap ppd msg
    refine ⟨acConn, hconn, ?_⟩
    rw [ACConn.recvAddr, hpeer, hpk]
    rfl

end OpenNHP.Server
