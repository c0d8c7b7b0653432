/-
  What one side assembles, the other side parses.

  THE SPECIFICATION.  A packet that carries an assembled message (`Carries`) is parsed to that message, for any
  start of the parse that has the sender's scheme and chain key.

  THE CRUX.  The two key schedules meet at `Handshake`: `encrypt_eq_ok` says which handshake the sender ran, and
  `validatePeer_eq_ok` asks the receiver's handshake to open the sealed fields.  Once the two handshakes are equal,
  every opening is an opening of a seal.

  1. What a sender puts into a packet depends on its handshake and on what it says, and may be built without it
     (`Handshake.forge`); so the argument holds for whoever has the handshake (`passes_forged`).
  2. The fields of the common header are those the sender set (`checked_*`).
  3. `passes_sent` says that the parse goes through, `receive_sent` what it returns.
-/
import OpenNHP.Core.Exchange

namespace OpenNHP.Core

variable {M : Type} {C : Crypto M}

/-! ## Assemblies ready to be encrypted -/

/-- An assembly whose hashes have just been started. -/
structure MsgAssemblerData.Begun (mad : MsgAssemblerData C) : Prop where
  chainHash : mad.chainHash = [C.initialHashString]
  hmacHash : mad.hmacHash = [C.initialHashString]
  body : mad.body = none
  scheme : mad.header.scheme = mad.cipherScheme
  ephermeral : mad.header.ephermeral = mad.ephermeralEcdh.publicKey
  eccType : mad.ephermeralEcdh.eccType = (newCipherSuite mad.cipherScheme).eccType

/-- An assembly as `createMsgAssemblerData` leaves it. -/
structure MsgAssemblerData.Ready (mad : MsgAssemblerData C) : Prop extends mad.Begun where
  headerFlag : mad.headerFlag = 0

/-- What `createMsgAssemblerData` returns is ready to be encrypted. -/
theorem createMsgAssemblerData_ready (d : Device C) (md : MsgData C) (rnd : Entropy C)
    (buf : Packet M) (now : Int64) : (createMsgAssemblerData d md rnd buf now).Ready := by
  unfold createMsgAssemblerData
  cases md.prevParserData with
  | none => exact ⟨⟨rfl, rfl, rfl, rfl, rfl, rnd.newECDH_eccType _⟩, rfl⟩
  | some ppd => exact ⟨⟨rfl, rfl, rfl, rfl, rfl, rnd.newECDH_eccType _⟩, rfl⟩

/-- A packet that carries an assembled message: the header its scheme overlays and, behind it, the
    sealed body. -/
structure Packet.Carries (pkt : Packet M) (mad : MsgAssemblerData C) : Prop where
  cast : pkt.cast mad.cipherScheme = mad.header
  payload : ∀ body, mad.body = some body → pkt.payload mad.cipherScheme = body
  len : pkt.len = headerSize mad.cipherScheme + (mad.body.map C.len).getD 0

namespace MsgAssemblerData

variable {mad : MsgAssemblerData C}

/-- The sender runs the handshake with the secrets the receiver's key pair computes too. -/
theorem Begun.encrypt (hC : LawfulCrypto C) (hr : mad.Begun) {e : Ecdh C}
    (he : e.eccType = (newCipherSuite mad.cipherScheme).eccType)
    (hpk : mad.remotePubKey = some e.publicKey)
    (hfit : C.len mad.bodyMessage = 0 ∨
      C.len mad.bodyText + gcmTagSize ≤ packetBufferSize - headerSize mad.cipherScheme)
    (preamble : UInt32) :
    ∃ ess ss, e.sharedSecret mad.ephermeralEcdh.publicKey = some ess ∧
      e.sharedSecret mad.deviceEcdh.publicKey = some ss ∧
      mad.encrypt preamble
        = .ok ((mad.afterHandshake (mad.handshake e.publicKey ess ss)).sent preamble) := by
  have hdev : mad.deviceEcdh.eccType = e.eccType := by
    rw [he]
    exact mad.device.getEcdhByCipherScheme_eccType _
  obtain ⟨ess, hess, hess'⟩ := Ecdh.sharedSecret_agree hC (hr.eccType.trans he.symm)
  obtain ⟨ss, hss, hss'⟩ := Ecdh.sharedSecret_agree hC hdev
  refine ⟨ess, ss, hess', hss', (encrypt_eq_ok hr.chainHash).mpr
    ⟨e.publicKey, ess, ss, hpk, ?_, hess, hss, ?_, rfl⟩⟩
  · rw [Ecdh.len_publicKey hC, he, eccPublicKeySize_newCipherSuite]
  · rwa [Header.size, hr.scheme]

/-- The flag word of a sent message carries the compress flag. -/
theorem Ready.sentCommon_compress (hr : mad.Ready) (hne : C.len mad.bodyMessage ≠ 0)
    (preamble : UInt32) :
    decide ((mad.sentCommon preamble).flag &&& flagCompress ≠ 0) = mad.bodyCompress := by
  rw [sentCommon, if_neg hne, HeaderCommon.setTypeAndPayloadSize_flag, sentFlag, hr.headerFlag,
    UInt16.zero_or]
  simp only [HeaderCommon.setFlag_compress, Bool.decide_eq_true]

/-- The flag word of a sent message tells its scheme. -/
theorem Ready.flagScheme_sentCommon (hr : mad.Ready) (hne : C.len mad.bodyMessage ≠ 0)
    (preamble : UInt32) :
    Packet.flagScheme (mad.sentCommon preamble).flag = mad.cipherScheme := by
  have hext := HeaderCommon.setFlag_extendedLength mad.header.scheme mad.header.common
    mad.bodyCompress mad.clPkc
  rw [sentCommon, if_neg hne, HeaderCommon.setTypeAndPayloadSize_flag, sentFlag, hr.headerFlag,
    UInt16.zero_or, Packet.flagScheme, ← hr.scheme]
  simp only [hext]
  cases mad.header.scheme <;> simp

/-- The size of the sealed body, also as the length of what is behind the header. -/
theorem len_sentBody (hC : LawfulCrypto C) (hr : mad.body = none) :
    (mad.sentBody.map C.len).getD 0 = mad.sealedSize := by
  rw [sentBody, sealedSize]
  split
  · rw [hr]
    rfl
  · simp only [Option.map_some, Option.getD_some, hC.len_aeadSeal]

end MsgAssemblerData

/-! ## Headers written under a handshake -/

/-- The header that anybody who knows a handshake can write around a sender key. -/
def Handshake.forge (C : Crypto M) (hs : Handshake M) (common : HeaderCommon) (identity pk : M)
    (time : Int64) : Header M :=
  let static := hs.sealStatic C common.counter pk
  let header : Header M :=
    { scheme := hs.scheme
      common := common
      ephermeral := hs.ephermeral
      identity := identity
      static := static
      timestamp := hs.sealTimestamp C common.counter static (C.timestampBytes time)
      hmac := identity }
  { header with
    hmac := C.hash hs.hashType ([C.initialHashString, hs.responder] ++ header.macInput C) }

/-- What an assembly sends is such a header. -/
theorem MsgAssemblerData.sentHeader_eq_forge (mad : MsgAssemblerData C) (hr : mad.Begun)
    (hrkn : mad.headerType ≠ .rkn) (hs : Handshake M) (hscheme : hs.scheme = mad.cipherScheme)
    (heph : hs.ephermeral = mad.ephermeralEcdh.publicKey) (preamble : UInt32) :
    (mad.afterHandshake hs).sentHeader preamble = hs.forge C (mad.sentCommon preamble)
      mad.header.identity mad.deviceEcdh.publicKey mad.localInitTime := by
  have hcounter : (mad.sentCommon preamble).counter = mad.header.common.counter := by
    rw [sentCommon]
    split <;> simp
  have hcookie : (mad.afterHandshake hs).sentCookie = [] := if_neg hrkn
  have hcommon : (mad.afterHandshake hs).sentCommon preamble = mad.sentCommon preamble := rfl
  simp only [sentHeader, Handshake.forge, Header.macInput, hcookie, hcommon, List.append_nil,
    hcounter]
  simp only [afterHandshake, ciphers, Handshake.hashType, hr.hmacHash, hr.scheme, hr.ephermeral,
    hscheme, heph, List.cons_append, List.nil_append]

/-- Such a header settles the sender key and the send time, for a receiver that computes the secrets of the
    handshake itself: the two fields open to one text each. -/
theorem Handshake.forge_inj (hC : LawfulCrypto C) {hs hs' : Handshake M} {common common' : HeaderCommon}
    {identity identity' pk pk' : M} {time time' : Int64}
    (h : hs.forge C common identity pk time = hs'.forge C common' identity' pk' time')
    (hscheme : hs'.scheme = hs.scheme) (hbase : hs'.base = hs.base) (hresponder : hs'.responder = hs.responder)
    (hess : hs'.ephermeral = hs.ephermeral → hs'.ess = hs.ess) (hss : pk' = pk → hs'.ss = hs.ss) :
    common' = common ∧ pk' = pk ∧ time' = time := by
  obtain ⟨scheme, base, responder, ephermeral, ess, ss⟩ := hs
  obtain ⟨scheme', base', responder', ephermeral', ess', ss'⟩ := hs'
  obtain rfl : scheme' = scheme := hscheme
  obtain rfl : base' = base := hbase
  obtain rfl : responder' = responder := hresponder
  obtain rfl : common' = common := (congrArg Header.common h).symm
  obtain rfl : ephermeral' = ephermeral := (congrArg (fun header => header.ephermeral) h).symm
  obtain rfl : ess' = ess := hess rfl
  -- the static field is sealed without the static secret
  have hstatic : Handshake.sealStatic C ⟨scheme', base', responder', ephermeral', ess', ss⟩ common'.counter pk =
      Handshake.sealStatic C ⟨scheme', base', responder', ephermeral', ess', ss⟩ common'.counter pk' :=
    congrArg (fun header => header.static) h
  have hpk : some pk = some pk' := by
    rw [← openStatic_sealStatic _ hC common'.counter pk, hstatic]
    exact openStatic_sealStatic _ hC common'.counter pk'
  obtain rfl := Option.some.inj hpk
  obtain rfl : ss' = ss := hss rfl
  have htimestamp : Handshake.sealTimestamp C ⟨scheme', base', responder', ephermeral', ess', ss'⟩ common'.counter _
      (C.timestampBytes time) = Handshake.sealTimestamp C _ common'.counter _ (C.timestampBytes time') :=
    congrArg (fun header => header.timestamp) h
  have hbytes : some (C.timestampBytes time) = some (C.timestampBytes time') := by
    rw [← openTimestamp_sealTimestamp _ hC common'.counter _ (C.timestampBytes time), htimestamp]
    exact openTimestamp_sealTimestamp _ hC common'.counter _ (C.timestampBytes time')
  have htime := congrArg C.timestampOf (Option.some.inj hbytes)
  rw [hC.timestampOf_timestampBytes, hC.timestampOf_timestampBytes] at htime
  exact ⟨rfl, rfl, htime.symm⟩

/-! ## The receiver's side -/

/-- Both headers are longer than what is read first. -/
theorem twelve_le_headerSize (scheme : CipherScheme) : 12 ≤ headerSize scheme := by
  cases scheme <;> decide

/-- The precheck lets a sent message in when the device handles its type. -/
theorem recvPrecheck_sent (hC : LawfulCrypto C) {mad : MsgAssemblerData C} (hr : mad.Begun)
    {hs : Handshake M} {preamble : UInt32} {pkt : Packet M} {dt : DeviceType}
    (hcarries : pkt.Carries ((mad.afterHandshake hs).sent preamble))
    (hscheme : Packet.flagScheme (mad.sentCommon preamble).flag = mad.cipherScheme)
    (hsize : mad.sealedSize < 65536) (hcheck : checkRecvHeaderType dt mad.headerType = true) :
    recvPrecheck dt pkt = .ok (mad.headerType, mad.sealedSize) := by
  have hcommon : pkt.common = mad.sentCommon preamble := congrArg Header.common hcarries.cast
  have htns : pkt.common.typeAndPayloadSize = (mad.headerType, mad.sealedSize) := by
    rw [hcommon]
    exact HeaderCommon.typeAndPayloadSize_set _ _ (checkRecvHeaderType_named hcheck) hsize
  have hlen : pkt.len = headerSize mad.cipherScheme + mad.sealedSize := by
    have hbody : (mad.afterHandshake hs).body = none := hr.body
    rw [hcarries.len]
    exact congrArg _ (MsgAssemblerData.len_sentBody hC hbody)
  have h12 := twelve_le_headerSize mad.cipherScheme
  refine recvPrecheck_eq_ok.mpr ⟨by omega, htns, .inr ⟨checkRecvHeaderType_ne_kpl hcheck, hcheck, ?_⟩⟩
  rw [hcommon, hscheme, hlen]

/-- The text that was sealed unpacks to the message. -/
theorem PacketParserData.decompressBody_bodyText (hC : LawfulCrypto C) {ppd : PacketParserData C}
    {mad : MsgAssemblerData C} (h : ppd.bodyCompress = mad.bodyCompress) :
    ppd.decompressBody mad.bodyText = .ok mad.bodyMessage := by
  rw [PacketParserData.decompressBody, MsgAssemblerData.bodyText, h]
  split
  · simp only [hC.zlibInflate_zlibCompress]
  · rfl

/-- What a parse yields from the packet of the assembly `mad`: its message, type, counter, sender key
    and scheme, and the chain keys of the handshake. -/
structure Yields (mad : MsgAssemblerData C) (hs : Handshake M) (keys : List M)
    (ppd : PacketParserData C) : Prop where
  message : ppd.bodyMessage =
    if C.len mad.bodyMessage = 0 then none else some mad.bodyMessage
  headerType : ppd.headerType = mad.headerType
  senderTrxId : ppd.senderTrxId = mad.header.common.counter
  remotePubKey : ppd.remotePubKey = some mad.deviceEcdh.publicKey
  cipherScheme : ppd.cipherScheme = mad.cipherScheme
  chainKeys : ppd.chainKeys = keys ++ hs.chainKeys C
    (hs.sealTimestamp C mad.header.common.counter
      (hs.sealStatic C mad.header.common.counter mad.deviceEcdh.publicKey)
      (C.timestampBytes mad.localInitTime))
  chainKey : ppd.chainKey = C.zeroKey

section Receive

/-! A receiver's parse of a packet that carries `mad`, sent under the handshake `hs`. -/

variable {mad : MsgAssemblerData C} {hs : Handshake M} {preamble : UInt32} {d : Device C}
  {pd : PacketData C} {connPk : Option M} {keys : List M}

/-- The receiver casts to the struct the sender filled in. -/
theorem checked_header
    (hstart : pd.startState d
      = PacketParserData.start d pd mad.cipherScheme mad.chainKey connPk keys)
    (hcarries : pd.basePacket.Carries ((mad.afterHandshake hs).sent preamble)) :
    (pd.checked d).header = (mad.afterHandshake hs).sentHeader preamble := by
  rw [PacketData.checked, hstart]
  exact hcarries.cast

/-- Type and size are the sender's, -/
theorem checked_typeAndPayloadSize
    (hstart : pd.startState d
      = PacketParserData.start d pd mad.cipherScheme mad.chainKey connPk keys)
    (hcarries : pd.basePacket.Carries ((mad.afterHandshake hs).sent preamble))
    (hnamed : mad.headerType.Named) (hsize : mad.sealedSize < 65536) :
    (pd.checked d).header.common.typeAndPayloadSize = (mad.headerType, mad.sealedSize) := by
  rw [checked_header hstart hcarries]
  exact HeaderCommon.typeAndPayloadSize_set _ _ hnamed hsize

/-- and so is the counter. -/
theorem checked_counter
    (hstart : pd.startState d
      = PacketParserData.start d pd mad.cipherScheme mad.chainKey connPk keys)
    (hcarries : pd.basePacket.Carries ((mad.afterHandshake hs).sent preamble)) :
    (pd.checked d).header.common.counter = mad.header.common.counter := by
  rw [checked_header hstart hcarries]
  show ((mad.afterHandshake hs).sentCommon preamble).counter = _
  rw [MsgAssemblerData.sentCommon]
  split <;> simp [MsgAssemblerData.afterHandshake]

end Receive

variable [DecidableEq M]

/-- A packet whose header was written under a handshake with the receiver passes, when the receiver
    admits the sender key in it and the send time is timely.  An overloaded server lets in only the types
    that it neither drops nor answers with a cookie. -/
theorem passes_forged (hC : LawfulCrypto C) {hs : Handshake M} {d d' : Device C} {pd : PacketData C}
    {nowMilli : Int64} {common : HeaderCommon} {identity pk : M} {time : Int64} {connPk : Option M}
    {keys : List M}
    (hstart : pd.startState d = PacketParserData.start d pd hs.scheme hs.base connPk keys)
    (hcast : pd.basePacket.cast hs.scheme = hs.forge C common identity pk time)
    (hresponder : hs.responder = (d.getEcdhByCipherScheme hs.scheme).publicKey)
    (hess : (d.getEcdhByCipherScheme hs.scheme).sharedSecret hs.ephermeral = some hs.ess)
    (hss : (d.getEcdhByCipherScheme hs.scheme).sharedSecret pk = some hs.ss)
    (hoverload : d.deviceType = .server → d.overload = true →
      common.typeAndPayloadSize.1 ∈ [HeaderType.ext, .aol, .art])
    (hadmits : PacketParserData.admitPeer d common.typeAndPayloadSize.1 pk pd.initTime
      pd.connData.remoteAddr nowMilli = .ok d')
    (htime : PacketParserData.recvTimeError d.deviceType common.typeAndPayloadSize.1 pd.connData
      pd.initTime time = none) :
    pd.Passes d nowMilli hs pk (C.timestampBytes time) d' := by
  have hchecked : pd.checked d
      = (PacketParserData.start d pd hs.scheme hs.base connPk keys).headerChecked := by
    rw [PacketData.checked, hstart]
  have hheader : (pd.checked d).header = hs.forge C common identity pk time := by
    rw [hchecked]
    exact hcast
  have htype : (pd.checked d).headerType = common.typeAndPayloadSize.1 := by
    have hread : (pd.checked d).headerType = (pd.checked d).header.common.typeAndPayloadSize.1 := by
      rw [hchecked]
      rfl
    rw [hread, hheader]
    rfl
  have hecdh : (pd.checked d).deviceEcdh = d.getEcdhByCipherScheme hs.scheme := by
    rw [hchecked]
    rfl
  have hread : (pd.startState d).headerRead.headerType = common.typeAndPayloadSize.1 := htype
  -- at overload only the three types are left
  have htypes : (pd.startState d).headerRead.overload = true →
      common.typeAndPayloadSize.1 ∈ [HeaderType.ext, .aol, .art] := by
    intro h
    rw [hstart] at h
    have h' : d.deviceType = .server ∧ d.overload = true := of_decide_eq_true h
    exact hoverload h'.1 h'.2
  refine ⟨fun h => ?_, ?_, ?_, ?_, ?_, ?_, ?_, ?_, ?_, ?_⟩
  · have hmem := htypes h
    rw [PacketParserData.isAllowedAtOverload, hread]
    simp only [List.mem_cons, List.not_mem_nil, or_false] at hmem
    rcases hmem with h | h | h <;> rw [h] <;> rfl
  · -- the HMAC field covers the same header, after the same two writes
    have hnoCookie : decide ((pd.startState d).headerRead.overload = true ∧
        (pd.startState d).headerRead.headerType = .rkn) = false := by
      rw [decide_eq_false_iff_not, hread]
      rintro ⟨h, hrkn⟩
      have hmem := htypes h
      rw [hrkn] at hmem
      exact absurd hmem (by decide)
    have hhmac : (pd.checked d).header.hmac = C.hash hs.hashType
        ([C.initialHashString, hs.responder] ++ (pd.checked d).header.macInput C) := by
      rw [hheader]
      rfl
    rw [hnoCookie, PacketParserData.checkHMAC, beq_iff_eq]
    rw [hchecked, hresponder] at hhmac
    rw [hstart]
    refine Eq.trans ?_ hhmac.symm
    show C.hash _ (([C.initialHashString, (d.getEcdhByCipherScheme hs.scheme).publicKey] ++ _) ++ _) = _
    simp only [Bool.false_eq_true, if_false, List.append_nil]
    rfl
  · show hs = Handshake.mk (pd.checked d).cipherScheme (pd.checked d).chainKey
      (pd.checked d).deviceEcdh.publicKey (pd.checked d).header.ephermeral hs.ess hs.ss
    rw [hheader, hecdh, ← hresponder, hchecked]
    rfl
  · rw [hecdh, hheader]
    exact hess
  · rw [hheader]
    exact hs.openStatic_sealStatic hC _ _
  · rw [htype, hchecked]
    exact hadmits
  · rw [hecdh]
    exact hss
  · rw [hheader]
    exact hs.openTimestamp_sealTimestamp hC _ _ _
  · rw [htype, hchecked, hC.timestampOf_timestampBytes]
    exact htime
  · show (decide _ && (pd.startState d).headerRead.overload &&
      [HeaderType.knk, .dhpKnk].contains (pd.checked d).headerType) = false
    cases h : (pd.startState d).headerRead.overload with
    | false => rw [Bool.and_false, Bool.false_and]
    | true =>
      have hmem := htypes h
      rw [htype]
      simp only [List.mem_cons, List.not_mem_nil, or_false] at hmem
      rcases hmem with h | h | h <;> rw [h] <;> exact Bool.and_false _

/-- A packet that carries `mad` passes at a device that admits its sender and its send time, when the
    parse starts with `mad`'s scheme and chain key. -/
theorem passes_sent (hC : LawfulCrypto C) {mad : MsgAssemblerData C} (hr : mad.Begun)
    {d d' : Device C} {pd : PacketData C} {nowMilli : Int64} {preamble : UInt32} {ess ss : M}
    {connPk : Option M} {keys : List M}
    (hstart : pd.startState d
      = PacketParserData.start d pd mad.cipherScheme mad.chainKey connPk keys)
    (hess : (d.getEcdhByCipherScheme mad.cipherScheme).sharedSecret mad.ephermeralEcdh.publicKey
      = some ess)
    (hss : (d.getEcdhByCipherScheme mad.cipherScheme).sharedSecret mad.deviceEcdh.publicKey = some ss)
    (hcarries : pd.basePacket.Carries ((mad.afterHandshake
      (mad.handshake (d.getEcdhByCipherScheme mad.cipherScheme).publicKey ess ss)).sent preamble))
    (hnamed : mad.headerType.Named) (hrkn : mad.headerType ≠ .rkn) (hsize : mad.sealedSize < 65536)
    (hoverload : d.deviceType = .server → d.overload = true → mad.headerType ∈ [HeaderType.ext, .aol, .art])
    (hadmits : PacketParserData.admitPeer d mad.headerType mad.deviceEcdh.publicKey pd.initTime
      pd.connData.remoteAddr nowMilli = .ok d')
    (htime : PacketParserData.recvTimeError d.deviceType mad.headerType pd.connData pd.initTime
      mad.localInitTime = none) :
    pd.Passes d nowMilli
      (mad.handshake (d.getEcdhByCipherScheme mad.cipherScheme).publicKey ess ss)
      mad.deviceEcdh.publicKey (C.timestampBytes mad.localInitTime) d' := by
  set hs := mad.handshake (d.getEcdhByCipherScheme mad.cipherScheme).publicKey ess ss with hhs
  have htype : (mad.sentCommon preamble).typeAndPayloadSize.1 = mad.headerType :=
    congrArg Prod.fst (HeaderCommon.typeAndPayloadSize_set _ _ hnamed hsize)
  have hcast := hcarries.cast.trans (mad.sentHeader_eq_forge hr hrkn hs rfl rfl preamble)
  refine passes_forged hC (by exact hstart) hcast rfl hess hss ?_ ?_ ?_
  · rw [htype]
    exact hoverload
  · rw [htype]
    exact hadmits
  · rw [htype]
    exact htime

/-- A receive of a packet that carries `mad`, started with `mad`'s scheme and chain key, succeeds when
    the peer is admitted and the send time passes the time tests. -/
theorem receive_sent (hC : LawfulCrypto C) {mad : MsgAssemblerData C} (hr : mad.Ready)
    {d d' : Device C} {pd : PacketData C} {nowMilli now : Int64} {preamble : UInt32} {ess ss : M}
    {connPk : Option M} {keys : List M}
    (hstart : pd.startState d
      = PacketParserData.start d pd mad.cipherScheme mad.chainKey connPk keys)
    (hess : (d.getEcdhByCipherScheme mad.cipherScheme).sharedSecret mad.ephermeralEcdh.publicKey
      = some ess)
    (hss : (d.getEcdhByCipherScheme mad.cipherScheme).sharedSecret mad.deviceEcdh.publicKey = some ss)
    (hcarries : pd.basePacket.Carries ((mad.afterHandshake
      (mad.handshake (d.getEcdhByCipherScheme mad.cipherScheme).publicKey ess ss)).sent preamble))
    (hnamed : mad.headerType.Named) (hrkn : mad.headerType ≠ .rkn) (hsize : mad.sealedSize < 65536)
    (hoverload : d.deviceType = .server → d.overload = true → mad.headerType ∈ [HeaderType.ext, .aol, .art])
    (hadmits : PacketParserData.admitPeer d mad.headerType mad.deviceEcdh.publicKey pd.initTime
      pd.connData.remoteAddr nowMilli = .ok d')
    (htime : PacketParserData.recvTimeError d.deviceType mad.headerType pd.connData pd.initTime
      mad.localInitTime = none) :
    ∃ ppd, receive d pd nowMilli now = (some ppd, .ok ()) ∧ ppd.device = d' ∧
      Yields mad (mad.handshake (d.getEcdhByCipherScheme mad.cipherScheme).publicKey ess ss) keys
        ppd := by
  have hpasses := passes_sent hC hr.toBegun hstart hess hss hcarries hnamed hrkn hsize hoverload hadmits
    htime
  have hheader := checked_header hstart hcarries
  have hcounter := checked_counter hstart hcarries
  have htns := checked_typeAndPayloadSize hstart hcarries hnamed hsize
  set hs := mad.handshake (d.getEcdhByCipherScheme mad.cipherScheme).publicKey ess ss with hhs
  set ppd₂ := pd.passed d hs mad.deviceEcdh.publicKey (C.timestampBytes mad.localInitTime) d'
    with hppd₂
  have hchecked : pd.checked d = (PacketParserData.start d pd mad.cipherScheme mad.chainKey connPk
      keys).headerChecked := by
    rw [PacketData.checked, hstart]
  -- What the parse holds behind the handshake: each field is the sender's, read off the header.
  have hscheme₂ : ppd₂.cipherScheme = mad.cipherScheme := by
    show (pd.checked d).cipherScheme = _
    rw [hchecked]
    rfl
  have hheaderScheme₂ : ppd₂.header.scheme = mad.cipherScheme := by
    show (pd.checked d).header.scheme = _
    rw [hchecked]
    rfl
  have hsize₂ : ppd₂.header.size = headerSize mad.cipherScheme := by
    rw [Header.size, hheaderScheme₂]
  have hpacket₂ : ppd₂.basePacket = pd.basePacket := by
    show (pd.checked d).basePacket = _
    rw [hchecked]
    rfl
  have htype₂ : ppd₂.headerType = mad.headerType := by
    show (pd.checked d).headerType = _
    rw [hchecked] at htns ⊢
    exact congrArg Prod.fst htns
  have hcounter₂ : ppd₂.senderTrxId = mad.header.common.counter := by
    rw [← hcounter]
    show (pd.checked d).senderTrxId = _
    rw [hchecked]
    rfl
  have hstatic₂ : ppd₂.header.static
      = hs.sealStatic C mad.header.common.counter mad.deviceEcdh.publicKey := by
    show (pd.checked d).header.static = _
    rw [hheader]
    rfl
  have hts₂ : ppd₂.header.timestamp = hs.sealTimestamp C mad.header.common.counter
      (hs.sealStatic C mad.header.common.counter mad.deviceEcdh.publicKey)
      (C.timestampBytes mad.localInitTime) := by
    show (pd.checked d).header.timestamp = _
    rw [hheader]
    rfl
  have hkeys₂ : ppd₂.chainKeys = keys ++ hs.chainKeys C ppd₂.header.timestamp := by
    have hkeys : (pd.checked d).chainKeys = keys := by
      rw [hchecked]
      rfl
    rw [← hkeys]
    rfl
  -- The length tells an empty body from a sealed one.
  have hlen : pd.basePacket.len = headerSize mad.cipherScheme + mad.sealedSize := by
    have hbody : (mad.afterHandshake hs).body = none := hr.body
    rw [hcarries.len]
    exact congrArg _ (MsgAssemblerData.len_sentBody hC hbody)
  have h12 := twelve_le_headerSize mad.cipherScheme
  have hreceive : ∀ ppd, ppd₂.decryptBody = (ppd, .ok ()) →
      receive d pd nowMilli now = (some ppd, .ok ()) := fun ppd hbody =>
    receive_eq_ok_iff.mpr ⟨by omega, _, _, _, _, hpasses, hbody⟩
  rw [hts₂] at hkeys₂
  -- An empty body is neither sealed nor opened; another is opened under the handshake's last key.
  by_cases hempty : C.len mad.bodyMessage = 0
  · refine ⟨ppd₂.clearSecrets, hreceive _ (PacketParserData.decryptBody_eq_ok.mpr (.inl ⟨?_, rfl⟩)),
      rfl, ⟨?_, htype₂, hcounter₂, rfl, hscheme₂, hkeys₂, rfl⟩⟩
    · rw [hpacket₂, hsize₂, hlen, MsgAssemblerData.sealedSize, if_pos hempty, Nat.add_zero]
    · rw [if_pos hempty]
      show (pd.checked d).bodyMessage = none
      rfl
  · refine ⟨{ ppd₂.clearSecrets with bodyMessage := some mad.bodyMessage },
      hreceive _ (PacketParserData.decryptBody_eq_ok.mpr (.inr ⟨?_, mad.bodyText, mad.bodyMessage,
        ?_, ?_, rfl⟩)), rfl, ⟨?_, htype₂, hcounter₂, rfl, hscheme₂, hkeys₂, rfl⟩⟩
    · rw [hpacket₂, hsize₂, hlen, MsgAssemblerData.sealedSize, if_neg hempty]
      exact Nat.lt_add_of_pos_right (Nat.add_pos_right _ (by decide))
    · have hsealed : ((mad.afterHandshake hs).sent preamble).body = some (hs.sealBody C
          mad.header.common.counter ppd₂.header.static ppd₂.header.timestamp mad.bodyText) := by
        rw [hstatic₂, hts₂]
        exact if_neg hempty
      have hpayload : pd.basePacket.payload mad.cipherScheme = _ := hcarries.payload _ hsealed
      rw [PacketParserData.openBody, hpacket₂, hheaderScheme₂, hpayload, PacketParserData.ciphers,
        hscheme₂, show ppd₂.header.common.counter = mad.header.common.counter from hcounter]
      exact hs.openBody_sealBody hC _ _ _ _
    · refine PacketParserData.decompressBody_bodyText hC ?_
      have hcompress : (pd.checked d).bodyCompress
          = decide ((pd.checked d).header.common.flag &&& flagCompress ≠ 0) := by
        rw [hchecked]
        rfl
      rw [hheader] at hcompress
      exact hcompress.trans (hr.sentCommon_compress hempty preamble)
    · rw [if_neg hempty]

end OpenNHP.Core
