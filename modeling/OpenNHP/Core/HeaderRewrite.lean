/-
  What an attacker can rewrite in a packet.

  THE PROGRAM.  The HMAC field is a hash of a constant, the responder's public key and the header: nothing in it is
  secret.

  THE CRUX.  So the attacker puts any type, payload size and flag word into the common header of a packet it saw,
  recomputes the hash, and drops the body if it likes (`MsgAssemblerData.rewritten`); as long as scheme and counter
  stay, every seal still opens (`SentWith.rewritten_seals`), for the common header is in no associated data.

  1. The attacker derives the rewritten packet (`SentWith.derivable_rewritten`).
  2. `rewritten_accepted` says that it is accepted wherever its new type is, with its message or with none.
  3. `header_rewritten` is a knock that a server takes for another type.
-/
import OpenNHP.Core.Network

namespace OpenNHP.Core

open Symbolic

section Rewrite

variable {M : Type}

/-- A packet with a header and, behind it, a body or nothing. -/
def Packet.ofHeader (C : Crypto M) (h : Header M) (body : Option M) : Packet M where
  common := h.common
  fields _ := h.toHeaderFields
  payload _ := body.getD h.hmac
  len := headerSize h.scheme + (body.map C.len).getD 0

/-- The receiver reads the header that was written. -/
theorem Packet.cast_ofHeader (C : Crypto M) (h : Header M) (body : Option M) :
    (Packet.ofHeader C h body).cast h.scheme = h := rfl

/-- The key pairs of a send and of a receiver compute the same two secrets. -/
theorem MsgAssemblerData.SentWith.sharedSecrets {C : Crypto M} (hC : LawfulCrypto C)
    {mad : MsgAssemblerData C} {hs : Handshake M} (hsent : mad.SentWith hs) {e : Ecdh C}
    (he : e.eccType = (newCipherSuite mad.cipherScheme).eccType) (hpk : hs.responder = e.publicKey) :
    e.sharedSecret hs.ephermeral = some hs.ess ∧
      e.sharedSecret mad.deviceEcdh.publicKey = some hs.ss := by
  have hdev : mad.deviceEcdh.eccType = e.eccType := by
    rw [he]
    exact mad.device.getEcdhByCipherScheme_eccType _
  obtain ⟨ess, hess, hess'⟩ := Ecdh.sharedSecret_agree hC (hsent.eccType.trans he.symm)
  obtain ⟨ss, hss, hss'⟩ := Ecdh.sharedSecret_agree hC hdev
  rw [← hpk, hsent.ess] at hess
  rw [← hpk, hsent.ss] at hss
  rw [hess, hss, hsent.ephermeral, hsent.ephermeralEcdh]
  exact ⟨hess', hss'⟩

end Rewrite

variable {A : Type} [DecidableEq A] {honest : Set A} {tr : List (Event A)}
  {mad : MsgAssemblerData (symbolic A)} {hs : Handshake (SymTerm A)}

/-- The packet data of a header and a body, received on a connection, outside any transaction or as the
    answer to a request. -/
def PacketData.ofHeader (h : Header (SymTerm A)) (body : Option (SymTerm A))
    (conn : ConnectionData (SymTerm A)) (prev : Option (MsgAssemblerData (symbolic A)))
    (initTime : Int64) : PacketData (symbolic A) where
  basePacket := Packet.ofHeader (symbolic A) h body
  connData := conn
  prevAssemblerData := prev
  connPeerPublicKey := none
  initTime := initTime

/-- The rewritten header of a packet `mad`. -/
def MsgAssemblerData.rewritten (mad : MsgAssemblerData (symbolic A)) (hs : Handshake (SymTerm A))
    (common : HeaderCommon) : Header (SymTerm A) :=
  hs.forge (symbolic A) common mad.header.identity mad.deviceEcdh.publicKey mad.localInitTime

/-- Its seals are those of the packet. -/
theorem MsgAssemblerData.SentWith.rewritten_seals (hsent : mad.SentWith hs) {common : HeaderCommon}
    (hcounter : common.counter = mad.header.common.counter) :
    (mad.rewritten hs common).static = mad.header.static ∧
      (mad.rewritten hs common).timestamp = mad.header.timestamp := by
  have hstatic : (mad.rewritten hs common).static = mad.header.static := by
    rw [hsent.static, ← hcounter]
    rfl
  refine ⟨hstatic, ?_⟩
  rw [hsent.timestamp, ← hstatic, ← hcounter]
  rfl

/-- The attacker writes the rewritten header, with the body of the packet or without. -/
theorem MsgAssemblerData.SentWith.derivable_rewritten (hsent : mad.SentWith hs)
    (hmem : Event.sent mad ∈ tr) {common : HeaderCommon}
    (hcounter : common.counter = mad.header.common.counter) {e : Ecdh (symbolic A)}
    (hpk : hs.responder = e.publicKey) {body : Option (SymTerm A)}
    (hbody : body = none ∨ body = mad.body) :
    (Packet.ofHeader (symbolic A) (mad.rewritten hs common) body).DerivableFrom
      (known honest tr) := by
  have hwire : ∀ t ∈ mad.wire, Derivable (known honest tr) t :=
    fun t ht => .known (.inr ⟨_, hmem, ht⟩)
  obtain ⟨hstatic, hts⟩ := hsent.rewritten_seals hcounter
  have hder_static : Derivable (known honest tr) (mad.rewritten hs common).static := by
    rw [hstatic]
    exact hwire _ (by simp [MsgAssemblerData.wire, Header.macInput])
  have hder_ts : Derivable (known honest tr) (mad.rewritten hs common).timestamp := by
    rw [hts]
    exact hwire _ (by simp [MsgAssemblerData.wire, Header.macInput])
  have hder_eph : Derivable (known honest tr) hs.ephermeral := by
    rw [hsent.ephermeral]
    exact hwire _ (by simp [MsgAssemblerData.wire, Header.macInput])
  have hder_id : Derivable (known honest tr) mad.header.identity :=
    hwire _ (by simp [MsgAssemblerData.wire, Header.macInput])
  have hder_pk : Derivable (known honest tr) hs.responder := by
    obtain ⟨a, -, ha⟩ := e.exists_atom
    rw [hpk, ha]
    exact .pub _ _
  have hder_hmac : Derivable (known honest tr) (mad.rewritten hs common).hmac :=
    .hash (.cons (.lit _) (.cons hder_pk (.cons (.lit _) (.cons hder_eph (.cons hder_id
      (.cons hder_static (.cons hder_ts .nil)))))))
  refine ⟨fun _ => hder_eph, fun _ => hder_id, fun _ => hder_static, fun _ => hder_ts,
    fun _ => hder_hmac, fun _ => ?_⟩
  show Derivable _ (body.getD (mad.rewritten hs common).hmac)
  cases hb : body with
  | none => exact hder_hmac
  | some b =>
    rcases hbody with h | h
    · rw [h] at hb
      cases hb
    · exact hwire b (by simp [MsgAssemblerData.wire, h ▸ hb])

/-- A parse that starts where the handshake of a sent packet started: outside any transaction with the
    chain key of the scheme, or as the answer to a request with the request's chain key. -/
def StartsAt (hs : Handshake (SymTerm A)) (common : HeaderCommon) (tr : List (Event A)) :
    Option (MsgAssemblerData (symbolic A)) → Prop
  | none => hs.base = chainKey0 (symbolic A) hs.scheme ∧ Packet.flagScheme common.flag = hs.scheme
  | some req => Event.sent req ∈ tr ∧ req.cipherScheme = hs.scheme ∧ req.chainKey = hs.base

/-- The parse starts where the sender's handshake did. -/
theorem StartsAt.startState {common : HeaderCommon} {prev : Option (MsgAssemblerData (symbolic A))}
    (h : StartsAt hs common tr prev) (d : Device (symbolic A)) {pd : PacketData (symbolic A)}
    (hprev : pd.prevAssemblerData = prev) (hcommon : pd.basePacket.common = common) :
    ∃ connPk keys, pd.startState d = PacketParserData.start d pd hs.scheme hs.base connPk keys := by
  rw [PacketData.startState, hprev]
  cases prev with
  | none =>
    obtain ⟨hbase, hflag⟩ := h
    refine ⟨pd.connPeerPublicKey, [chainKey0 (symbolic A) hs.scheme], ?_⟩
    show PacketParserData.startFresh d pd = _
    rw [PacketParserData.startFresh, hcommon, hflag, hbase]
  | some req =>
    obtain ⟨-, hscheme, hkey⟩ := h
    refine ⟨none, [], ?_⟩
    show PacketParserData.startDerived d pd req = _
    rw [PacketParserData.startDerived, hscheme, hkey]

/-- What a parse yields of a packet that was rewritten with a common header and a body. -/
structure PacketParserData.Rewrites (ppd : PacketParserData (symbolic A))
    (mad : MsgAssemblerData (symbolic A)) (written : HeaderCommon) (body : Option (SymTerm A)) :
    Prop where
  common : ppd.header.common = written
  senderTrxId : ppd.senderTrxId = written.counter
  headerType : ppd.headerType = written.typeAndPayloadSize.1
  headerFlag : ppd.headerFlag = written.flag
  ephermeral : ppd.header.ephermeral = mad.header.ephermeral
  remotePubKey : ppd.remotePubKey = some mad.deviceEcdh.publicKey
  cipherScheme : ppd.cipherScheme = mad.cipherScheme
  bodyMessage : ppd.bodyMessage = body.map fun _ => mad.bodyText

/-- **Rewriting.**  Take a packet that a device sent.  With any other type, payload size and flag word, and
    with or without its body, it is accepted by the responder when that one starts its parse with the
    packet's scheme and chain key, admits the sender and the send time for the new type, and the new flag
    word does not ask for decompression. -/
theorem rewritten_accepted (hrun : Run honest tr) (hmem : Event.sent mad ∈ tr) (hsent : mad.SentWith hs)
    {d d' : Device (symbolic A)}
    (hd : hs.responder = (d.getEcdhByCipherScheme mad.cipherScheme).publicKey)
    {common : HeaderCommon} (hcounter : common.counter = mad.header.common.counter)
    {prev : Option (MsgAssemblerData (symbolic A))} (hprev : StartsAt hs common tr prev)
    (hcompress : common.flag &&& flagCompress = 0) {body : Option (SymTerm A)}
    (hbody : body = none ∨ body = mad.body) {conn : ConnectionData (SymTerm A)}
    {initTime nowMilli : Int64} (hoverload : d.overload = false)
    (hadmits : PacketParserData.admitPeer d common.typeAndPayloadSize.1 mad.deviceEcdh.publicKey initTime
      conn.remoteAddr nowMilli = .ok d')
    (htime : PacketParserData.recvTimeError d.deviceType common.typeAndPayloadSize.1 conn initTime
      mad.localInitTime = none) :
    ∃ ppd₂ ppd, receive d (PacketData.ofHeader (mad.rewritten hs common) body conn prev initTime)
        nowMilli 0 = (some ppd, .ok ()) ∧
      Run honest (.accepted ppd₂ ppd :: tr) ∧
      ppd.deviceEcdh = d.getEcdhByCipherScheme mad.cipherScheme ∧ ppd.Rewrites mad common body := by
  have hC := symbolic_lawful (A := A)
  obtain ⟨hess, hss⟩ := hsent.sharedSecrets hC (d.getEcdhByCipherScheme_eccType _) hd
  set pd := PacketData.ofHeader (mad.rewritten hs common) body conn prev initTime with hpd
  have hcast : pd.basePacket.cast hs.scheme = mad.rewritten hs common := Packet.cast_ofHeader _ _ _
  obtain ⟨connPk, keys, hstart⟩ : ∃ connPk keys,
      pd.startState d = PacketParserData.start d pd hs.scheme hs.base connPk keys :=
    hprev.startState d rfl rfl
  -- The new header keeps the three seals and their counter, so the handshake passes as before.
  have hpasses : pd.Passes d nowMilli hs mad.deviceEcdh.publicKey
      ((symbolic A).timestampBytes mad.localInitTime) d' := by
    refine passes_forged hC hstart hcast ?_ ?_ ?_ ?_ hadmits htime
    · rw [hd, hsent.scheme]
    · rw [hsent.scheme]
      exact hess
    · rw [hsent.scheme]
      exact hss
    · intro _ h
      rw [hoverload] at h
      cases h
  obtain ⟨hvalid, hpacket⟩ := hpasses.validatedWith
  set ppd₂ := pd.passed d hs mad.deviceEcdh.publicKey
    ((symbolic A).timestampBytes mad.localInitTime) d' with hppd₂
  have hheader : ppd₂.header = mad.rewritten hs common := by
    rw [hvalid.header, ← hvalid.scheme, hpacket]
    exact hcast
  have hchecked : pd.checked d
      = (PacketParserData.start d pd hs.scheme hs.base connPk keys).headerChecked := by
    rw [PacketData.checked, hstart]
  have hsize : ppd₂.header.size = headerSize hs.scheme := by
    rw [hheader]
    rfl
  have hlen : ppd₂.basePacket.len = headerSize hs.scheme + (body.map (symbolic A).len).getD 0 := by
    rw [hpacket]
    rfl
  -- The body is left out, or it is the sent one under the same header seals and opens.
  have hdecrypt : ppd₂.decryptBody
      = ({ ppd₂.clearSecrets with bodyMessage := body.map fun _ => mad.bodyText }, .ok ()) := by
    refine PacketParserData.decryptBody_eq_ok.mpr ?_
    rcases hbody with rfl | rfl
    · exact .inl ⟨by rw [hsize, hlen]; rfl, rfl⟩
    · cases hb : mad.body with
      | none =>
        refine .inl ⟨?_, rfl⟩
        rw [hsize, hlen, hb]
        rfl
      | some b =>
        have hseal := hsent.body b hb
        refine .inr ⟨?_, mad.bodyText, mad.bodyText, ?_, ?_, rfl⟩
        · rw [hsize, hlen, hb, hseal]
          show _ < _ + (SymTerm.len mad.bodyText + gcmTagSize)
          have htag : gcmTagSize = 16 := rfl
          omega
        · obtain ⟨hstatic, hts⟩ := hsent.rewritten_seals hcounter
          rw [hvalid.body, hheader, hstatic, hts,
            show (mad.rewritten hs common).common.counter = mad.header.common.counter from hcounter]
          have hpayload : ppd₂.basePacket.payload ppd₂.cipherScheme = b := by
            rw [hpacket]
            show mad.body.getD _ = b
            rw [hb]
            rfl
          rw [hpayload, hseal]
          exact hs.openBody_sealBody hC _ _ _ _
        · rw [PacketParserData.decompressBody, if_neg]
          have hflag : ppd₂.bodyCompress = decide (common.flag &&& flagCompress ≠ 0) := by
            show (pd.checked d).bodyCompress = _
            rw [hchecked]
            rfl
          simp [hflag, hcompress]
  have h12 : 12 ≤ pd.basePacket.len := (twelve_le_headerSize _).trans (Nat.le_add_right _ _)
  obtain ⟨ppd₁, hcreate, hvalidate⟩ : ∃ ppd₁, createPacketParserData d pd = .ok ppd₁ ∧
      ppd₁.validatePeer nowMilli 0 = (ppd₂, .ok ()) :=
    validated_iff.mpr ⟨h12, hs, _, _, d', hpasses, rfl⟩
  -- The attacker has the packet and writes the public fields itself.
  have hder : pd.basePacket.DerivableFrom (known honest tr) :=
    hsent.derivable_rewritten hmem hcounter hd hbody
  have hreq : ∀ req, pd.prevAssemblerData = some req → Event.sent req ∈ tr := by
    intro req hreq
    rw [show prev = some req from hreq] at hprev
    exact hprev.1
  refine ⟨ppd₂, _, receive_eq_ok.mpr ⟨ppd₁, ppd₂, hcreate, hvalidate, hdecrypt⟩,
    .receive hrun hreq hder hcreate hvalidate hdecrypt, ?_, congrArg Header.common hheader, ?_, ?_,
    ?_, ?_, rfl, hvalid.scheme.symm.trans hsent.scheme, rfl⟩
  · show d'.getEcdhByCipherScheme ppd₂.cipherScheme = _
    rw [← hvalid.scheme, hsent.scheme]
    exact PacketParserData.admitPeer_ecdh hadmits _
  · exact hvalid.senderTrxId.trans (congrArg (fun h => h.common.counter) hheader)
  · exact congrArg (fun h => h.common.typeAndPayloadSize.1) hheader
  · show (pd.checked d).headerFlag = _
    rw [hchecked]
    rfl
  · exact (congrArg (fun h => h.ephermeral) hheader).trans hsent.ephermeral

/-! ## A sample run -/

/-- The private keys of the sample: two static ones and the ephemeral ones. -/
inductive Party
  | initiator
  | responder
  | session (n : Nat)
  deriving DecidableEq, Repr

namespace Party

/-- The key pair of a party. -/
def ecdh (p : Party) (e : EccType) : Ecdh (symbolic Party) where
  eccType := e
  privKey := .priv p
  valid := ⟨p, rfl⟩

/-- A device of a party, which knows every peer. -/
def device (p : Party) (t : DeviceType) : Device (symbolic Party) where
  deviceType := t
  option := defaultDeviceOptions t
  staticEcdhCurve := p.ecdh .curve25519
  staticEcdhGmsm := p.ecdh .sm2
  peerMap _ := some { deviceType := .agent, expireTime := 0, lastRecvTime := 0, recvAddr := none }
  overload := false
  staticEcdhCurve_eccType := rfl
  staticEcdhGmsm_eccType := rfl

end Party

/-- A connection of the server. -/
def sampleConn : ConnectionData (SymTerm Party) :=
  ConnectionData.new (symbolic Party) "10.0.0.1:62206"

/-- The initiator's knock: a compressed message under the GMSM scheme. -/
def sampleKnock : MsgData (symbolic Party) where
  connData := sampleConn
  prevParserData := none
  cipherScheme := .gmsm
  transactionId := 7
  headerType := .knk
  compress := true
  clPkc := false
  externalCookie := none
  message := .lit [104, 105]
  peerPk := some (Party.responder.ecdh .sm2).publicKey

/-- The ephemeral key of a session. -/
def sessionEntropy (n : Nat) : Entropy (symbolic Party) where
  newECDH e := (Party.session n).ecdh e
  newECDH_eccType _ := rfl
  randomUint32 := 0

/-- A pool buffer of zeros. -/
def zeroBuffer : Packet (SymTerm Party) where
  common := { preamble := 0, tns := 0, major := 0, minor := 0, flag := 0, unused := 0, counter := 0 }
  fields _ := { ephermeral := .lit [0], identity := .lit [0], static := .lit [0], timestamp := .lit [0]
                hmac := .lit [0] }
  payload _ := .lit [0]
  len := packetBufferSize

/-- What is needed of a sent knock: the packet, its handshake and its ephemeral key. -/
structure Knock (mad : MsgAssemblerData (symbolic Party)) (hs : Handshake (SymTerm Party)) (n : Nat) :
    Prop where
  sentWith : mad.SentWith hs
  base : hs.base = chainKey0 (symbolic Party) mad.cipherScheme
  responder : hs.responder = (Party.responder.ecdh .sm2).publicKey
  cipherScheme : mad.cipherScheme = .gmsm
  counter : mad.header.common.counter = 7
  headerType : mad.headerType = .knk
  bodyCompress : mad.bodyCompress = true
  initiator : mad.deviceEcdh.publicKey = (Party.initiator.ecdh .sm2).publicKey
  ephermeral : mad.header.ephermeral = ((Party.session n).ecdh .sm2).publicKey
  time : mad.localInitTime = 1000000000000
  body : mad.body ≠ none

/-- An empty buffer is public. -/
theorem zeroBuffer_derivable (known : Set (SymTerm Party)) : zeroBuffer.DerivableFrom known :=
  ⟨fun _ => .lit _, fun _ => .lit _, fun _ => .lit _, fun _ => .lit _, fun _ => .lit _, fun _ => .lit _⟩

/-- The initiator can send the knock at any time. -/
theorem knock_sent {honest : Set Party} {tr : List (Event Party)} (hrun : Run honest tr) (n : Nat) :
    ∃ mad hs, Run honest (.sent mad :: tr) ∧ Knock mad hs n := by
  have hready := createMsgAssemblerData_ready (Party.initiator.device .agent) sampleKnock
    (sessionEntropy n) zeroBuffer 1000000000000
  have hfit : SymTerm.len (.zip (.lit [104, 105]) : SymTerm Party) + gcmTagSize
      ≤ packetBufferSize - headerSize .gmsm := by decide
  obtain ⟨ess, ss, -, -, hencrypt⟩ := hready.toBegun.encrypt symbolic_lawful
    (e := Party.responder.ecdh .sm2) rfl rfl (.inr hfit) 5
  obtain ⟨hs, hsent, hbase, -⟩ := hready.encrypt_eq_ok hencrypt
  have hprev : ∀ ppd, sampleKnock.prevParserData = some ppd →
      ∃ ppd₂, Event.accepted ppd₂ ppd ∈ tr := by
    intro ppd h
    cases h
  refine ⟨_, hs, .send hrun hprev (.lit _) (zeroBuffer_derivable _) hencrypt, hsent, hbase, ?_,
    rfl, rfl, rfl, rfl, rfl, rfl, rfl, nofun⟩
  exact Option.some.inj (hsent.responder.symm.trans rfl)

/-- The common header the attacker writes: the counter of the knock and the scheme flag. -/
def rewrittenCommon (t : HeaderType) : HeaderCommon :=
  HeaderCommon.setTypeAndPayloadSize
    { preamble := 0, tns := 0, major := protocolVersionMajor, minor := protocolVersionMinor
      flag := flagExtendedLength, unused := 0, counter := 7 } 0 t 0

/-- A sample device admits every sender of a sample at once. -/
theorem Party.admits (p : Party) (dt : DeviceType) (t : HeaderType) (pk : SymTerm Party) :
    (∃ d', PacketParserData.admitPeer (p.device dt) t pk 1000000000000 sampleConn.remoteAddr 1000000
      = .ok d') ∧
      PacketParserData.recvTimeError (p.device dt).deviceType t sampleConn 1000000000000 1000000000000
        = none := by
  constructor
  · rw [PacketParserData.admitPeer]
    split
    · exact ⟨_, rfl⟩
    · exact ⟨_, rfl⟩
  · have hreplay : ¬ (1000000000000 : Int64) < 0 := by decide
    have hflood : ¬ (1000000000000 : Int64) < 0 + minimalRecvIntervalMs * millisecond := by decide
    rw [PacketParserData.recvTimeError, if_neg (fun h => hreplay h.2), if_neg (fun h => hflood h.2),
      if_neg (by decide)]

/-- The rewritten header has the new type. -/
theorem rewrittenCommon_typeAndPayloadSize {t : HeaderType} (ht : t.Named) :
    (rewrittenCommon t).typeAndPayloadSize.1 = t :=
  congrArg Prod.fst (HeaderCommon.typeAndPayloadSize_set _ _ ht (by decide))

/-- The responder takes the knock under any type, with or without its body. -/
theorem Knock.rewrite {honest : Set Party} {mad : MsgAssemblerData (symbolic Party)}
    {hs : Handshake (SymTerm Party)} {n : Nat} (h : Knock mad hs n) {tr : List (Event Party)}
    (hrun : Run honest tr) (hmem : Event.sent mad ∈ tr) (t : HeaderType)
    {body : Option (SymTerm Party)} (hbody : body = none ∨ body = mad.body) :
    ∃ ppd₂ ppd, Run honest (.accepted ppd₂ ppd :: tr) ∧
      ppd.deviceEcdh = Party.responder.ecdh .sm2 ∧ ppd.Rewrites mad (rewrittenCommon t) body := by
  have hkey : hs.responder
      = ((Party.responder.device .server).getEcdhByCipherScheme mad.cipherScheme).publicKey := by
    rw [h.cipherScheme]
    exact h.responder
  have hflag : (rewrittenCommon t).flag = flagExtendedLength :=
    HeaderCommon.setTypeAndPayloadSize_flag _ _ _ _
  have hcounter : (rewrittenCommon t).counter = mad.header.common.counter := by
    rw [h.counter, rewrittenCommon, HeaderCommon.setTypeAndPayloadSize_counter]
  have hstart : StartsAt hs (rewrittenCommon t) tr none := by
    refine ⟨?_, ?_⟩
    · rw [h.base, h.sentWith.scheme]
    · rw [hflag, h.sentWith.scheme, h.cipherScheme]
      decide
  have hcompress : (rewrittenCommon t).flag &&& flagCompress = 0 := by
    rw [hflag]
    decide
  obtain ⟨⟨d', hadmits⟩, htime⟩ := Party.responder.admits .server
    (rewrittenCommon t).typeAndPayloadSize.1 mad.deviceEcdh.publicKey
  have htime' : PacketParserData.recvTimeError (Party.responder.device .server).deviceType
      (rewrittenCommon t).typeAndPayloadSize.1 sampleConn 1000000000000 mad.localInitTime = none := by
    rw [h.time]
    exact htime
  obtain ⟨ppd₂, ppd, -, hrun', hecdh, hrewrites⟩ := rewritten_accepted hrun hmem h.sentWith hkey
    hcounter hstart hcompress hbody rfl hadmits htime'
  refine ⟨ppd₂, ppd, hrun', ?_, hrewrites⟩
  rw [hecdh, h.cipherScheme]
  rfl

/-- **Rewritten headers.**  An attacker that knows no private key turns the knock into a list request
    without a body, and clears the compress flag of the knock; the responder accepts both packets as
    coming from the initiator, under the counter and the ephemeral key of the knock. -/
theorem header_rewritten :
    ∃ mad ppd₂ ppd ppd₂' ppd', Run Set.univ [.accepted ppd₂' ppd', .accepted ppd₂ ppd, .sent mad] ∧
      (mad.headerType = .knk ∧ mad.bodyCompress = true ∧ mad.body ≠ none) ∧
      (∀ p ∈ [ppd, ppd'], p.remotePubKey = some (Party.initiator.ecdh .sm2).publicKey ∧
        p.header.ephermeral = mad.header.ephermeral ∧
        p.header.common.counter = mad.header.common.counter) ∧
      (ppd.headerType = .lst ∧ ppd.bodyMessage = none) ∧
      (ppd'.headerType = .knk ∧ ppd'.headerFlag &&& flagCompress = 0 ∧
        ppd'.bodyMessage = some mad.bodyText) := by
  obtain ⟨mad, hs, hsent, h⟩ := knock_sent (.nil : Run Set.univ []) 0
  obtain ⟨ppd₂, ppd, hrun, -, hcut⟩ := h.rewrite hsent List.mem_cons_self .lst (.inl rfl)
  obtain ⟨ppd₂', ppd', hrun', -, hflipped⟩ := h.rewrite hrun (by simp) .knk (.inr rfl)
  have hsender : ∀ t body (p : PacketParserData (symbolic Party)),
      p.Rewrites mad (rewrittenCommon t) body →
      p.remotePubKey = some (Party.initiator.ecdh .sm2).publicKey ∧
        p.header.ephermeral = mad.header.ephermeral ∧
        p.header.common.counter = mad.header.common.counter := by
    intro t body p hp
    refine ⟨hp.remotePubKey.trans (congrArg some h.initiator), hp.ephermeral, ?_⟩
    rw [hp.common, h.counter, rewrittenCommon, HeaderCommon.setTypeAndPayloadSize_counter]
  obtain ⟨body, hbody⟩ := Option.ne_none_iff_exists'.mp h.body
  refine ⟨mad, ppd₂, ppd, ppd₂', ppd', hrun', ⟨h.headerType, h.bodyCompress, h.body⟩, ?_,
    ⟨hcut.headerType.trans (rewrittenCommon_typeAndPayloadSize trivial), hcut.bodyMessage⟩,
    hflipped.headerType.trans (rewrittenCommon_typeAndPayloadSize trivial), ?_, ?_⟩
  · intro p hp
    simp only [List.mem_cons, List.not_mem_nil, or_false] at hp
    rcases hp with rfl | rfl
    · exact hsender _ _ _ hcut
    · exact hsender _ _ _ hflipped
  · rw [hflipped.headerFlag, rewrittenCommon, HeaderCommon.setTypeAndPayloadSize_flag]
    decide
  · rw [hflipped.bodyMessage, hbody]
    rfl

end OpenNHP.Core
