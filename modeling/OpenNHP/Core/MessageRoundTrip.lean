/-
  The message round trip on the wire.

  THE PROGRAM.  A message is assembled in a pool buffer, its bytes travel, and the receiver finds them in a pool
  buffer of its own, with whatever that buffer held before behind them.

  THE SPECIFICATION.  A receiver which knows the sender gets exactly the message back, and so does the sender when
  the receiver answers through `deriveMsgAssemblerData`; at both ends the chain keys agree after every
  key-derivation step (`message_round_trip`).

  THE CRUX.  `OpenNHP.Core.RoundTrip` has it for packets that carry an assembled message.  What is left is that the
  bytes do: every field has its width (`sentHeader_wellSized`), so the receiver's cast reads what the sender's
  wrote (`content_carries`).

  ASSEMBLY.  `deliver` is one way; the answer is the same lemma once more, from the state behind the first.
-/
import OpenNHP.Core.Wire

namespace OpenNHP.Core

open BigEndian PacketParserData

/-- A message that may be sent: not empty, and its sealed text fits behind the header. -/
structure Fits (L : Libs) (scheme : CipherScheme) (compress : Bool) (message : Bytes) : Prop where
  nonempty : message ≠ []
  fits : (if compress then L.zlibCompress message else message).length + gcmTagSize
    ≤ packetBufferSize - headerSize scheme

/-- A device that is ready for a message of type `t`, sent by the key `pk` at `sendTime`. -/
structure ReadyFor {C : Crypto Bytes} (d : Device C) (t : HeaderType) (pk : Bytes)
    (sendTime : Int64) (conn : ConnectionData Bytes) (initTime nowMilli : Int64) : Prop where
  admitted : checkRecvHeaderType d.deviceType t = true
  notReknock : t ≠ .rkn
  notOverloaded : d.overload = false
  registered : ∃ peer, d.lookupPeer pk = some peer ∧ peer.isExpired nowMilli = false ∧
    peer.checkRecvAddress initTime conn.remoteAddr = true
  timely : recvTimeError d.deviceType t conn initTime sendTime = none

/-- A device that is ready is not overloaded. -/
theorem ReadyFor.atOverload {C : Crypto Bytes} {d : Device C} {t : HeaderType} {pk : Bytes}
    {sendTime initTime nowMilli : Int64} {conn : ConnectionData Bytes}
    (h : ReadyFor d t pk sendTime conn initTime nowMilli) :
    d.deviceType = .server → d.overload = true → t ∈ [HeaderType.ext, .aol, .art] := by
  intro _ hoverload
  rw [h.notOverloaded] at hoverload
  cases hoverload

/-- A registered peer is admitted. -/
theorem ReadyFor.admitPeer {C : Crypto Bytes} {d : Device C} {t : HeaderType} {pk : Bytes}
    {sendTime initTime nowMilli : Int64} {conn : ConnectionData Bytes}
    (h : ReadyFor d t pk sendTime conn initTime nowMilli) :
    ∃ d', admitPeer d t pk initTime conn.remoteAddr nowMilli = .ok d' := by
  obtain ⟨peer, hpeer, hexpired, haddr⟩ := h.registered
  unfold PacketParserData.admitPeer
  split
  · refine ⟨d.addPeer pk (peer.updateRecv initTime conn.remoteAddr), ?_⟩
    simp [hpeer, Go.ofOption, hexpired, haddr]
  · exact ⟨d, rfl⟩

variable {L : Libs}

/-- The packet data of `content` received in a pool buffer, `rest` being what the buffer held behind
    it. -/
def PacketData.ofContent (content rest : Bytes) (conn : ConnectionData Bytes)
    (prev : Option (MsgAssemblerData L.crypto)) (connPk : Option Bytes) (initTime : Int64) :
    PacketData L.crypto where
  basePacket := Packet.ofBytes (content ++ rest) content.length
  connData := conn
  prevAssemblerData := prev
  connPeerPublicKey := connPk
  initTime := initTime

/-- What a parse returns of a message that `mad` carries. -/
structure Delivered (mad : MsgAssemblerData L.crypto) (message senderPk : Bytes) (counter : UInt64)
    (t : HeaderType) (scheme : CipherScheme) (ppd : PacketParserData L.crypto) : Prop where
  message : ppd.bodyMessage = some message
  headerType : ppd.headerType = t
  senderTrxId : ppd.senderTrxId = counter
  remotePubKey : ppd.remotePubKey = some senderPk
  cipherScheme : ppd.cipherScheme = scheme
  chainKeys : ppd.chainKeys = mad.chainKeys

/-- The header fields of an encrypted assembly fill their arrays. -/
theorem sentHeader_wellSized (hL : LawfulLibs L) {mad : MsgAssemblerData L.crypto} (hr : mad.Begun)
    (hid : mad.header.identity.length = maximumIdentitySize + gcmTagSize) (hs : Handshake Bytes)
    (preamble : UInt32) :
    ((mad.afterHandshake hs).sent preamble).header.toHeaderFields.WellSized mad.cipherScheme := by
  have hC := Libs.lawful hL
  have hpk : ∀ e : Ecdh L.crypto, e.eccType = (newCipherSuite mad.cipherScheme).eccType →
      e.publicKey.length = publicKeySize mad.cipherScheme := by
    intro e he
    rw [← eccPublicKeySize_newCipherSuite, ← he]
    exact Ecdh.len_publicKey hC e
  refine ⟨?_, hid, ?_, ?_, hC.len_hash _ _⟩
  · show mad.header.ephermeral.length = _
    rw [hr.ephermeral]
    exact hpk _ hr.eccType
  · refine (hC.len_aeadSeal _ _ _ _ _).trans ?_
    exact congrArg (· + gcmTagSize) (hpk _ (mad.device.getEcdhByCipherScheme_eccType _))
  · refine (hC.len_aeadSeal _ _ _ _ _).trans ?_
    rw [hC.len_timestampBytes]

/-- What is sent of an encrypted assembly carries it, whatever is behind it in the buffer. -/
theorem content_carries (hL : LawfulLibs L) {mad₀ mad : MsgAssemblerData L.crypto} (hr : mad₀.Begun)
    (hid : mad₀.header.identity.length = maximumIdentitySize + gcmTagSize) {preamble : UInt32}
    (h : mad₀.encrypt preamble = .ok mad) (rest : Bytes) :
    (Packet.ofBytes (mad.content ++ rest) mad.content.length).Carries mad := by
  obtain ⟨pk, ess, ss, -, -, -, -, -, rfl⟩ := (MsgAssemblerData.encrypt_eq_ok hr.chainHash).mp h
  have hscheme : ((mad₀.afterHandshake (mad₀.handshake pk ess ss)).sent preamble).header.scheme = _ := hr.scheme
  exact MsgAssemblerData.ofBytes_content_carries (sentHeader_wellSized hL hr hid _ preamble) hscheme rest

/-- One leg: an assembly for the receiver's key is encrypted, and any ready receiver whose parse starts
    with the same scheme and chain key gets the message. -/
theorem deliver (hL : LawfulLibs L) {mad₀ : MsgAssemblerData L.crypto} (hr : mad₀.Ready)
    (hid : mad₀.header.identity.length = maximumIdentitySize + gcmTagSize) {e : Ecdh L.crypto}
    (he : e.eccType = (newCipherSuite mad₀.cipherScheme).eccType)
    (hpk : mad₀.remotePubKey = some e.publicKey)
    (hfits : Fits L mad₀.cipherScheme mad₀.bodyCompress mad₀.bodyMessage) (preamble : UInt32) :
    ∃ mad, mad₀.encrypt preamble = .ok mad ∧ mad.chainKey = L.crypto.zeroKey ∧
      mad.cipherScheme = mad₀.cipherScheme ∧
      ∀ (d : Device L.crypto) (rest : Bytes) (conn : ConnectionData Bytes)
        (prev : Option (MsgAssemblerData L.crypto)) (connPk connPk' : Option Bytes)
        (initTime nowMilli now : Int64),
        let pd := PacketData.ofContent mad.content rest conn prev connPk initTime
        d.getEcdhByCipherScheme mad₀.cipherScheme = e →
        (Packet.flagScheme pd.basePacket.common.flag = mad₀.cipherScheme →
          pd.startState d = start d pd mad₀.cipherScheme mad₀.chainKey connPk' mad₀.chainKeys) →
        ReadyFor d mad₀.headerType mad₀.deviceEcdh.publicKey mad₀.localInitTime conn initTime
          nowMilli →
        recvPrecheck d.deviceType pd.basePacket = .ok (mad₀.headerType, mad.bodySize) ∧
          ∃ ppd, receive d pd nowMilli now = (some ppd, .ok ()) ∧
            ppd.chainKey = L.crypto.zeroKey ∧
            ppd.deviceEcdh = e ∧
            Delivered mad mad₀.bodyMessage mad₀.deviceEcdh.publicKey mad₀.header.common.counter
              mad₀.headerType mad₀.cipherScheme ppd := by
  have hC := Libs.lawful hL
  have hne : L.crypto.len mad₀.bodyMessage ≠ 0 := fun h =>
    hfits.nonempty (List.eq_nil_of_length_eq_zero h)
  have hfit : L.crypto.len mad₀.bodyText + gcmTagSize
      ≤ packetBufferSize - headerSize mad₀.cipherScheme := hfits.fits
  have hsize : mad₀.sealedSize < 65536 := by
    rw [MsgAssemblerData.sealedSize, if_neg hne]
    have hbuf : packetBufferSize = 4096 := rfl
    omega
  obtain ⟨ess, ss, hess, hss, hencrypt⟩ := hr.toBegun.encrypt hC he hpk (.inr hfit) preamble
  set hs := mad₀.handshake e.publicKey ess ss with hhs
  set mad := (mad₀.afterHandshake hs).sent preamble with hmad
  refine ⟨mad, hencrypt, rfl, rfl, ?_⟩
  intro d rest conn prev connPk connPk' initTime nowMilli now pd hd hstart hready
  have hcarries : pd.basePacket.Carries mad := content_carries hL hr.toBegun hid hencrypt rest
  have hflag : Packet.flagScheme pd.basePacket.common.flag = mad₀.cipherScheme := by
    rw [show pd.basePacket.common = mad₀.sentCommon preamble from
      congrArg Header.common hcarries.cast]
    exact hr.flagScheme_sentCommon hne preamble
  -- From here on the receiver is any that is ready: it admits the peer and takes the send time.
  obtain ⟨d', hadmits⟩ := hready.admitPeer
  have hd' : d'.getEcdhByCipherScheme mad₀.cipherScheme = e := by
    rw [admitPeer_ecdh hadmits, hd]
  subst hd
  have hbodySize : mad.bodySize = mad₀.sealedSize := if_neg hne
  refine ⟨?_, ?_⟩
  · rw [hbodySize]
    exact recvPrecheck_sent hC hr.toBegun hcarries (hr.flagScheme_sentCommon hne preamble) hsize
      hready.admitted
  · obtain ⟨ppd, hreceive, hdevice, hyields⟩ := receive_sent hC hr (hstart hflag) hess hss hcarries
      (checkRecvHeaderType_named hready.admitted) hready.notReknock hsize hready.atOverload hadmits
      hready.timely
    refine ⟨ppd, hreceive, hyields.chainKey, ?_, ⟨?_, hyields.headerType, hyields.senderTrxId,
      hyields.remotePubKey, hyields.cipherScheme, ?_⟩⟩
    · rw [deviceEcdh, hyields.cipherScheme, hdevice, hd']
    · rw [hyields.message, if_neg hne]
    · rw [hyields.chainKeys]
      rfl

/-- **Message round trip.**  A message to the receiver's key is assembled, passes the receiver's
    precheck and is delivered as it was sent; and so is an answer that the receiver derives from the
    parsed message, in the sender's transaction.  Both parses went through the sender's chain keys. -/
theorem message_round_trip (hL : LawfulLibs L) (sender receiver : Device L.crypto)
    (md : MsgData L.crypto) (rnd : Entropy L.crypto) (buf rest : Bytes) (preamble : UInt32)
    (sendTime : Int64) (conn : ConnectionData Bytes) (connPk : Option Bytes)
    (initTime nowMilli now : Int64)
    (hbuf : buf.length = packetBufferSize)
    (hprev : md.prevParserData = none)
    (hpeer : md.peerPk = some (receiver.getEcdhByCipherScheme md.cipherScheme).publicKey)
    (hfits : Fits L md.cipherScheme md.compress md.message)
    (hready : ReadyFor receiver md.headerType (sender.getEcdhByCipherScheme md.cipherScheme).publicKey
      sendTime conn initTime nowMilli) :
    ∃ mad, (createMsgAssemblerData sender md rnd (Packet.ofBytes buf packetBufferSize)
        sendTime).encrypt preamble = .ok mad ∧
      let pd := PacketData.ofContent mad.content rest conn none connPk initTime
      recvPrecheck receiver.deviceType pd.basePacket = .ok (md.headerType, mad.bodySize) ∧
      ∃ ppd, receive receiver pd nowMilli now = (some ppd, .ok ()) ∧
        Delivered mad md.message (sender.getEcdhByCipherScheme md.cipherScheme).publicKey
          md.transactionId md.headerType md.cipherScheme ppd ∧
        ∀ (initiator : Device L.crypto) (answer : MsgData L.crypto) (rnd' : Entropy L.crypto)
          (buf' rest' : Bytes) (preamble' : UInt32) (sendTime' : Int64)
          (conn' : ConnectionData Bytes) (connPk' : Option Bytes) (initTime' nowMilli' now' : Int64),
          buf'.length = packetBufferSize →
          answer.prevParserData = some ppd →
          initiator.getEcdhByCipherScheme md.cipherScheme
            = sender.getEcdhByCipherScheme md.cipherScheme →
          Fits L md.cipherScheme answer.compress answer.message →
          ReadyFor initiator answer.headerType
            (receiver.getEcdhByCipherScheme md.cipherScheme).publicKey sendTime' conn' initTime'
            nowMilli' →
          ∃ mad', (createMsgAssemblerData ppd.device answer rnd'
              (Packet.ofBytes buf' packetBufferSize) sendTime').encrypt preamble' = .ok mad' ∧
            let pd' := PacketData.ofContent mad'.content rest' conn' (some mad) connPk' initTime'
            recvPrecheck initiator.deviceType pd'.basePacket
              = .ok (answer.headerType, mad'.bodySize) ∧
            ∃ ppd', receive initiator pd' nowMilli' now' = (some ppd', .ok ()) ∧
              Delivered mad' answer.message
                (receiver.getEcdhByCipherScheme md.cipherScheme).publicKey md.transactionId
                answer.headerType md.cipherScheme ppd' := by
  have hid : ∀ (scheme : CipherScheme) {buf : Bytes}, buf.length = packetBufferSize →
      ((Packet.ofBytes buf packetBufferSize).cast scheme).identity.length
        = maximumIdentitySize + gcmTagSize := by
    intro scheme buf hbuf
    refine (HeaderFields.ofBytes_wellSized ?_).identity
    rw [hbuf]
    cases scheme <;> decide
  -- the request
  have hr := createMsgAssemblerData_ready sender md rnd (Packet.ofBytes buf packetBufferSize) sendTime
  rw [createMsgAssemblerData_of_none hprev] at hr ⊢
  obtain ⟨mad, hencrypt, hchainKey, hscheme, hdeliver⟩ := deliver hL hr (hid md.cipherScheme hbuf)
    (receiver.getEcdhByCipherScheme_eccType md.cipherScheme) hpeer hfits preamble
  refine ⟨mad, hencrypt, ?_⟩
  intro pd
  have hstart : Packet.flagScheme pd.basePacket.common.flag = md.cipherScheme →
      pd.startState receiver = start receiver pd md.cipherScheme (chainKey0 L.crypto md.cipherScheme)
        connPk [chainKey0 L.crypto md.cipherScheme] := by
    intro h
    rw [← h]
    rfl
  obtain ⟨hprecheck, ppd, hreceive, hppdKey, hppdEcdh, hdelivered⟩ := hdeliver receiver rest conn none
    connPk connPk initTime nowMilli now rfl hstart hready
  refine ⟨hprecheck, ppd, hreceive, hdelivered, ?_⟩
  -- the answer
  intro initiator answer rnd' buf' rest' preamble' sendTime' conn' connPk' initTime' nowMilli' now'
    hbuf' hprev' hinitiator hfits' hready'
  have hr' := createMsgAssemblerData_ready ppd.device answer rnd'
    (Packet.ofBytes buf' packetBufferSize) sendTime'
  rw [createMsgAssemblerData_of_some hprev'] at hr' ⊢
  have hscheme' : ppd.cipherScheme = md.cipherScheme := hdelivered.cipherScheme
  have hcounter' : ppd.senderTrxId = md.transactionId := hdelivered.senderTrxId
  have hecdh' : ppd.deviceEcdh = receiver.getEcdhByCipherScheme md.cipherScheme := hppdEcdh
  have hpk' : ppd.remotePubKey = some (sender.getEcdhByCipherScheme ppd.cipherScheme).publicKey := by
    rw [hscheme']
    exact hdelivered.remotePubKey
  rw [← hecdh'] at hready' ⊢
  rw [← hscheme'] at hinitiator hfits' ⊢
  rw [← hcounter']
  obtain ⟨mad', hencrypt', -, -, hdeliver'⟩ := deliver hL hr' (hid ppd.cipherScheme hbuf')
    (sender.getEcdhByCipherScheme_eccType ppd.cipherScheme) hpk' hfits' preamble'
  refine ⟨mad', hencrypt', ?_⟩
  intro pd'
  have hstart' : pd'.startState initiator
      = start initiator pd' ppd.cipherScheme ppd.chainKey none [] := by
    show start initiator pd' mad.cipherScheme mad.chainKey none [] = _
    rw [hscheme, hchainKey, hppdKey, hscheme']
    rfl
  obtain ⟨hprecheck', ppd', hreceive', -, -, hdelivered'⟩ := hdeliver' initiator rest' conn'
    (some mad) connPk' none initTime' nowMilli' now' hinitiator (fun _ => hstart') hready'
  exact ⟨hprecheck', ppd', hreceive', hdelivered'⟩

/-! ## A sample exchange -/

/-- Libraries that keep the promises and nothing else: the sealed text is the text and a zero tag, the
    secret of two keys is their exclusive or, a zlib stream is a zlib header and the text. -/
def sampleLibs : Libs where
  sum _ text := (text ++ List.replicate hashSize 0).take hashSize
  hmac _ key text := (key ++ text ++ List.replicate hashSize 0).take hashSize
  aeadSeal _ _ _ text _ := text ++ List.replicate gcmTagSize 0
  aeadOpen _ _ _ sealed _ :=
    if gcmTagSize ≤ sealed.length then some (sealed.take (sealed.length - gcmTagSize)) else none
  validKey _ key := key.length = 32
  publicKey e key := (key ++ key).take (eccPublicKeySize e)
  ecdh
    | .umi, _, _ => some []
    | _, key, pk => some (List.zipWith (· ^^^ ·) key (pk.take 32))
  zlibCompress text := 0x78 :: 0x9c :: text
  zlibInflate
    | 0x78 :: 0x9c :: text => .content text
    | _ => .badHeader

/-- They keep the laws: the two sides of an ECDH have the same exclusive or. -/
theorem sampleLibs_lawful : LawfulLibs sampleLibs where
  aeadOpen_aeadSeal _ _ _ text _ := by
    simp [sampleLibs]
  length_aeadSeal _ _ _ text _ := by
    simp [sampleLibs]
  ecdh_comm e a b ha hb := by
    have ha' : a.length = 32 := ha
    have hb' : b.length = 32 := hb
    cases e <;>
      simp [sampleLibs, eccPublicKeySize, List.take_append_of_le_length, ha', hb',
        List.take_of_length_le, List.zipWith_comm_of_comm UInt8.xor_comm]
  ecdh_isSome e _ _ _ _ := by cases e <;> rfl
  length_publicKey e a ha := by
    simp only [sampleLibs] at ha ⊢
    cases e <;> simp [eccPublicKeySize, ha]
  length_sum _ text := by
    simp [sampleLibs]
  zlibInflate_zlibCompress _ := rfl

/-- A key pair of the sample devices. -/
def sampleEcdh (e : EccType) (b : UInt8) : Ecdh sampleLibs.crypto where
  eccType := e
  privKey := List.replicate 32 b
  valid := List.length_replicate

/-- Their random choices. -/
def sampleEntropy : Entropy sampleLibs.crypto where
  newECDH e := sampleEcdh e 3
  newECDH_eccType _ := rfl
  randomUint32 := 0

/-- A device that knows every peer. -/
def sampleDevice (t : DeviceType) (b : UInt8) : Device sampleLibs.crypto where
  deviceType := t
  option := defaultDeviceOptions t
  staticEcdhCurve := sampleEcdh .curve25519 b
  staticEcdhGmsm := sampleEcdh .sm2 b
  peerMap _ := some { deviceType := .noDevice, expireTime := 0, lastRecvTime := 0, recvAddr := none }
  overload := false
  staticEcdhCurve_eccType := rfl
  staticEcdhGmsm_eccType := rfl

/-- A sample device is ready for everything its role handles. -/
theorem sampleDevice_readyFor {dt : DeviceType} {b : UInt8} {t : HeaderType} {pk : Bytes} {addr : Addr}
    (hcheck : checkRecvHeaderType dt t = true) (hrkn : t ≠ .rkn) :
    ReadyFor (sampleDevice dt b) t pk 1000000000000 (ConnectionData.new sampleLibs.crypto addr)
      1000000000000 1000000 := by
  have hreplay : ¬ (1000000000000 : Int64) < 0 := by decide
  have hflood : ¬ (1000000000000 : Int64) < 0 + minimalRecvIntervalMs * millisecond := by decide
  refine ⟨hcheck, hrkn, rfl, ⟨_, rfl, by decide, if_pos (by decide)⟩, ?_⟩
  rw [recvTimeError, if_neg (fun h => hreplay h.2), if_neg (fun h => hflood h.2),
    if_neg (by decide)]

/-- A message to the server with key 2, or an answer to `prev`. -/
def sampleMessage (t : HeaderType) (prev : Option (PacketParserData sampleLibs.crypto)) :
    MsgData sampleLibs.crypto where
  connData := ConnectionData.new sampleLibs.crypto "10.0.0.1:62206"
  prevParserData := prev
  cipherScheme := .gmsm
  transactionId := 7
  headerType := t
  compress := true
  clPkc := false
  externalCookie := none
  message := [104, 105]
  peerPk := some (sampleEcdh .sm2 2).publicKey

/-- An agent's knock is delivered to the server, and the server's answer to the agent. -/
theorem message_round_trip_sample :
    ∃ mad, (createMsgAssemblerData (sampleDevice .agent 1) (sampleMessage .knk none) sampleEntropy
        (Packet.ofBytes (List.replicate packetBufferSize 0) packetBufferSize)
        1000000000000).encrypt 5 = .ok mad ∧
      ∃ ppd, receive (sampleDevice .server 2) (PacketData.ofContent mad.content []
          (ConnectionData.new sampleLibs.crypto "10.0.0.1:62206") none none 1000000000000) 1000000
          1000000000000 = (some ppd, .ok ()) ∧ ppd.bodyMessage = some [104, 105] ∧
        ∃ mad', (createMsgAssemblerData ppd.device (sampleMessage .ack (some ppd)) sampleEntropy
            (Packet.ofBytes (List.replicate packetBufferSize 0) packetBufferSize)
            1000000000000).encrypt 5 = .ok mad' ∧
          ∃ ppd', receive (sampleDevice .agent 1) (PacketData.ofContent mad'.content []
              (ConnectionData.new sampleLibs.crypto "10.0.0.2:62206") (some mad) none 1000000000000)
              1000000 1000000000000 = (some ppd', .ok ()) ∧ ppd'.bodyMessage = some [104, 105] := by
  have hfits : Fits sampleLibs .gmsm true [104, 105] := ⟨by decide, by decide⟩
  obtain ⟨mad, hencrypt, -, ppd, hreceive, hdelivered, hanswer⟩ := message_round_trip
    sampleLibs_lawful (sampleDevice .agent 1) (sampleDevice .server 2) (sampleMessage .knk none)
    sampleEntropy (List.replicate packetBufferSize 0) [] 5 1000000000000
    (ConnectionData.new sampleLibs.crypto "10.0.0.1:62206") none 1000000000000 1000000 1000000000000
    List.length_replicate rfl rfl hfits (sampleDevice_readyFor (by decide) (by decide))
  obtain ⟨mad', hencrypt', -, ppd', hreceive', hdelivered'⟩ := hanswer (sampleDevice .agent 1)
    (sampleMessage .ack (some ppd)) sampleEntropy (List.replicate packetBufferSize 0) [] 5
    1000000000000 (ConnectionData.new sampleLibs.crypto "10.0.0.2:62206") none 1000000000000 1000000
    1000000000000 List.length_replicate rfl rfl hfits
    (sampleDevice_readyFor (show checkRecvHeaderType .agent .ack = true by decide)
      (show HeaderType.ack ≠ .rkn by decide))
  exact ⟨mad, hencrypt, ppd, hreceive, hdelivered.message, mad', hencrypt', ppd', hreceive',
    hdelivered'.message⟩

end OpenNHP.Core
