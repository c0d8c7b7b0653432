/-
  How a temporary port gets at an access message: the first half of `tcpTempAccessHandler` and
  `udpTempAccessHandler` (`endpoints/ac/msghandler.go`).

  1. **The program.**  A handler reads one packet into a pool buffer, looks at its type and size on its own, since
     the device would not let an `NHP_ACC` in, and has the device decrypt it outside of any connection.  What comes
     out is the body of an access message with a token, or the handler ends.

  2. **The two sizes.**  Over UDP the packet is what one read returns.  Over TCP the handler reads the common
     header first and then as much as that announces; here all its bytes are there at once, and how they are read
     one by one is the subject of `TempPacket`.

  3. **The result.**  A message that an agent assembled for the access controller's key is decrypted by the handler
     of either port (`accessMessage_sent`), and whatever the handler hands on was decrypted from the packet it read
     (`accessMessage_eq_decrypt`).
-/
import OpenNHP.AC.PreAccess
import OpenNHP.Core.MessageRoundTrip

namespace OpenNHP.AC

open OpenNHP.Core BigEndian

variable {L : Libs}

/-- What a handler works with: the device, the parser of access messages, whether the AC is running and
    the queue of the device takes the packet. -/
structure AccessHandler (L : Libs) where
  device : Device L.crypto
  unmarshal : Bytes → Option AgentAccessMsg
  running : Bool
  queueFree : Bool

/-- What a read finds: the previous content of the pool buffer, and the clock when the packet is handed to
    the device and when it is parsed. -/
structure Arrival where
  pool : Bytes
  initTime : Int64
  nowMilli : Int64
  now : Int64

/-- The connection the packet is parsed with, `&core.ConnectionData{}`. -/
def noConnection (L : Libs) : ConnectionData Bytes := .new L.crypto "<nil>"

namespace AccessHandler

variable (h : AccessHandler L) (arrival : Arrival)

/-- Decryption and parsing of a packet that fills the first part of its buffer; `none` where the handler
    gives up. -/
def decrypt (content : Bytes) : Go (Option AgentAccessMsg) :=
  if h.running = false then .ok none
  -- the packet is dropped, and the handler waits for an answer that does not come
  else if h.queueFree = false then .ok none
  else
    let pd := PacketData.ofContent content (arrival.pool.drop content.length) (noConnection L) none none
      arrival.initTime
    match receive h.device pd arrival.nowMilli arrival.now with
    | (some ppd, .ok ()) => .ok (ppd.bodyMessage.bind h.unmarshal)
    | (_, .panic) => .panic
    | _ => .ok none

/-- A datagram is cut off at the end of the buffer. -/
def udpAccessMessage (datagram : Bytes) : Go (Option AgentAccessMsg) :=
  let content := datagram.take packetBufferSize
  if content.length < headerCommonSize then .ok none
  else
    let pkt := Packet.ofBytes (content ++ arrival.pool.drop content.length) content.length
    pkt.headerTypeAndSize.bind fun (msgType, msgSize) =>
      if msgType ≠ .acc then .ok none
      else pkt.header.bind fun header =>
        if content.length ≠ header.size + msgSize then .ok none else h.decrypt arrival content

/-- Of a stream that has arrived the common header is read first, and then as much as it announces. -/
def tcpAccessMessage (stream : Bytes) : Go (Option AgentAccessMsg) :=
  let first := stream.take headerCommonSize
  if first.length < headerCommonSize then .ok none
  else
    let pkt := Packet.ofBytes (first ++ arrival.pool.drop first.length) first.length
    pkt.headerTypeAndSize.bind fun (msgType, msgSize) =>
      if msgType ≠ .acc then .ok none
      else pkt.header.bind fun header =>
        let packetSize := header.size + msgSize
        -- Buf[n:packetSize]
        (Go.guardRange (packetSize ≤ packetBufferSize)).bind fun _ =>
        if stream.length < packetSize then .ok none else h.decrypt arrival (stream.take packetSize)

/-- The access message that a handler gets out of what is sent to its port. -/
def accessMessage : Transport → Bytes → Go (Option AgentAccessMsg)
  | .tcp => h.tcpAccessMessage arrival
  | .udp => h.udpAccessMessage arrival

end AccessHandler

/-! ## What is sent is received -/

/-- A handler that can decrypt: it is running, its queue takes the packet, and the AC validates no agent. -/
structure AccessHandler.Serving (h : AccessHandler L) : Prop where
  running : h.running = true
  queueFree : h.queueFree = true
  device : h.device.deviceType = .ac
  option : h.device.option.disableAgentPeerValidation = true
  overload : h.device.overload = false

section Header

variable {pkt : Packet Bytes} {common : HeaderCommon}

/-- The reads of a handler, on a packet that has its common header. -/
theorem headerTypeAndSize_of_common (hlen : headerCommonSize ≤ pkt.len) (hcommon : pkt.common = common) :
    pkt.headerTypeAndSize = .ok common.typeAndPayloadSize := by
  have h8 : 8 ≤ pkt.len := le_trans (by decide) hlen
  simp [Packet.headerTypeAndSize, Go.guardRange, h8, hcommon]

/-- The handler reads the header under the scheme of the packet's flags. -/
theorem header_of_common (hlen : headerCommonSize ≤ pkt.len) (hcommon : pkt.common = common) :
    pkt.header = .ok (pkt.cast (Packet.flagScheme common.flag)) := by
  have h12 : 12 ≤ pkt.len := le_trans (by decide) hlen
  have h1 : 1 ≤ pkt.len := le_trans (by decide) hlen
  simp [Packet.header, Packet.flag, Packet.headerWithCipherScheme, Go.guardRange, h12, h1, hcommon]

end Header

/-- A common header with the bytes that belong behind it, as both handlers read it. -/
theorem AccessHandler.accessMessage_eq_decrypt (h : AccessHandler L) (arrival : Arrival)
    (transport : Transport) {common : HeaderCommon} {behind : Bytes} {msgSize : Nat}
    (htns : common.typeAndPayloadSize = (.acc, msgSize))
    (hsize : (common.toBytes ++ behind).length = headerSize (Packet.flagScheme common.flag) + msgSize)
    (hfit : (common.toBytes ++ behind).length ≤ packetBufferSize) :
    h.accessMessage arrival transport (common.toBytes ++ behind)
      = h.decrypt arrival (common.toBytes ++ behind) := by
  have hlen : headerCommonSize ≤ (common.toBytes ++ behind).length := by simp
  have hpkt : ∀ (post : Bytes) (n : Nat),
      (Packet.ofBytes (common.toBytes ++ post) n).common = common :=
    fun post _ => HeaderCommon.ofBytes_toBytes common post
  cases transport with
  | udp =>
    have htake : (common.toBytes ++ behind).take packetBufferSize = common.toBytes ++ behind :=
      List.take_of_length_le hfit
    set pkt := Packet.ofBytes ((common.toBytes ++ behind)
      ++ arrival.pool.drop (common.toBytes ++ behind).length) (common.toBytes ++ behind).length with hdef
    have hcommon : pkt.common = common := by
      rw [hdef, List.append_assoc]
      exact hpkt _ _
    rw [accessMessage, udpAccessMessage, htake, if_neg (Nat.not_lt.mpr hlen), ← hdef]
    dsimp only
    rw [headerTypeAndSize_of_common hlen hcommon, htns]
    simp only [Go.bind_ok, ne_eq, not_true_eq_false, if_false, header_of_common hlen hcommon]
    exact if_neg (not_not_intro hsize)
  | tcp =>
    have htake : (common.toBytes ++ behind).take headerCommonSize = common.toBytes := by
      rw [← HeaderCommon.length_toBytes common, List.take_left]
    have hfirst : headerCommonSize ≤ common.toBytes.length := by simp
    set pkt := Packet.ofBytes (common.toBytes ++ arrival.pool.drop common.toBytes.length)
      common.toBytes.length with hdef
    have hcommon : pkt.common = common := hpkt _ _
    rw [accessMessage, tcpAccessMessage, htake, if_neg (Nat.not_lt.mpr hfirst), ← hdef]
    dsimp only
    rw [headerTypeAndSize_of_common hfirst hcommon, htns]
    simp only [Go.bind_ok, ne_eq, not_true_eq_false, if_false, header_of_common hfirst hcommon]
    have hsized : (pkt.cast (Packet.flagScheme common.flag)).size + msgSize
      = (common.toBytes ++ behind).length := hsize.symm
    rw [hsized, Go.guardRange, if_pos hfit, Go.bind_ok, if_neg (lt_irrefl _), List.take_length]

/-- An access message that was assembled for the AC's key is read at either port. -/
theorem AccessHandler.accessMessage_sent (hL : LawfulLibs L) {h : AccessHandler L} (hh : h.Serving)
    (d : Device L.crypto) {md : MsgData L.crypto} (rnd : Entropy L.crypto) {buf : Bytes}
    (sendTime : Int64) (hbuf : buf.length = packetBufferSize) (hprev : md.prevParserData = none)
    (hacc : md.headerType = .acc)
    (hpeer : md.peerPk = some (h.device.getEcdhByCipherScheme md.cipherScheme).publicKey)
    (hfits : Fits L md.cipherScheme md.compress md.message) (preamble : UInt32) :
    ∃ mad, (createMsgAssemblerData d md rnd (Packet.ofBytes buf packetBufferSize) sendTime).encrypt preamble
        = .ok mad ∧
      ∀ (arrival : Arrival) (transport : Transport),
        PacketParserData.recvTimeError .ac .acc (noConnection L) arrival.initTime sendTime = none →
        h.accessMessage arrival transport mad.content = .ok (h.unmarshal md.message) := by
  have hC := Libs.lawful hL
  have hr := createMsgAssemblerData_ready d md rnd (Packet.ofBytes buf packetBufferSize) sendTime
  rw [createMsgAssemblerData_of_none hprev] at hr ⊢
  set mad₀ := (freshMsgAssemblerData d md (Packet.ofBytes buf packetBufferSize)).begin rnd sendTime
    with hmad₀
  have hne : L.crypto.len mad₀.bodyMessage ≠ 0 := fun hzero =>
    hfits.nonempty (List.eq_nil_of_length_eq_zero hzero)
  have hfit : L.crypto.len mad₀.bodyText + gcmTagSize
      ≤ packetBufferSize - headerSize mad₀.cipherScheme := hfits.fits
  have hsealed : mad₀.sealedSize = L.crypto.len mad₀.bodyText + gcmTagSize := if_neg hne
  have hheader : headerSize mad₀.cipherScheme ≤ packetBufferSize := by
    cases mad₀.cipherScheme <;> decide
  have hsize : mad₀.sealedSize < 65536 := by
    have hbufferSize : packetBufferSize = 4096 := rfl
    omega
  have hid : mad₀.header.identity.length = maximumIdentitySize + gcmTagSize := by
    refine (HeaderFields.ofBytes_wellSized ?_).identity
    rw [hbuf]
    exact hheader
  obtain ⟨ess, ss, hess, hss, hencrypt⟩ := hr.toBegun.encrypt hC
    (h.device.getEcdhByCipherScheme_eccType md.cipherScheme) hpeer (.inr hfit) preamble
  set hs := mad₀.handshake (h.device.getEcdhByCipherScheme md.cipherScheme).publicKey ess ss with hhs
  set mad := (mad₀.afterHandshake hs).sent preamble with hmad
  refine ⟨mad, hencrypt, fun arrival transport htime => ?_⟩
  have hsized : mad.header.toHeaderFields.WellSized mad.cipherScheme :=
    sentHeader_wellSized hL hr.toBegun hid hs preamble
  have hscheme : mad.header.scheme = mad.cipherScheme := hr.scheme
  have hcarries := MsgAssemblerData.ofBytes_content_carries hsized hscheme
  have hflag : Packet.flagScheme (mad₀.sentCommon preamble).flag = mad₀.cipherScheme :=
    hr.flagScheme_sentCommon hne preamble
  -- the bytes begin with the common header
  obtain ⟨behind, hcontent⟩ : ∃ behind, mad.content = (mad₀.sentCommon preamble).toBytes ++ behind := by
    rw [mad.content_eq, Header.bytes, List.append_assoc]
    exact ⟨_, rfl⟩
  have hlen : mad.content.length = headerSize mad₀.cipherScheme + mad₀.sealedSize :=
    (hcarries []).len.trans (congrArg _ (MsgAssemblerData.len_sentBody hC (show
      (mad₀.afterHandshake hs).body = none from hr.body)))
  have hnamed : mad₀.headerType.Named := by
    show md.headerType.Named
    rw [hacc]
    trivial
  have htns : (mad₀.sentCommon preamble).typeAndPayloadSize = (.acc, mad₀.sealedSize) := by
    rw [← hacc]
    exact HeaderCommon.typeAndPayloadSize_set _ _ hnamed hsize
  have hread : h.accessMessage arrival transport mad.content = h.decrypt arrival mad.content := by
    rw [hcontent] at hlen ⊢
    refine h.accessMessage_eq_decrypt arrival transport htns ?_ ?_
    · rw [hflag]
      exact hlen
    · omega
  rw [hread, decrypt, hh.running, hh.queueFree]
  simp only [Bool.true_eq_false, if_false]
  set pd := PacketData.ofContent mad.content (arrival.pool.drop mad.content.length) (noConnection L) none
    none arrival.initTime with hpd
  have hpdCarries : pd.basePacket.Carries mad := hcarries _
  have hstart : pd.startState h.device = PacketParserData.start h.device pd mad₀.cipherScheme
      mad₀.chainKey none mad₀.chainKeys := by
    have hpdFlag : Packet.flagScheme pd.basePacket.common.flag = mad₀.cipherScheme := by
      rw [show pd.basePacket.common = mad₀.sentCommon preamble from
        congrArg Header.common hpdCarries.cast]
      exact hflag
    show PacketParserData.start h.device pd (Packet.flagScheme pd.basePacket.common.flag) _ _ _ = _
    rw [hpdFlag]
    rfl
  have hadmits : PacketParserData.admitPeer h.device mad₀.headerType mad₀.deviceEcdh.publicKey
      pd.initTime pd.connData.remoteAddr arrival.nowMilli = .ok h.device := by
    have htype : mad₀.headerType = .acc := hacc
    rw [PacketParserData.admitPeer, if_neg]
    rw [htype]
    simp [PacketParserData.toValidate, headerTypeToDeviceType, PacketParserData.validatesRole, hh.option]
  obtain ⟨ppd, hreceive, -, hyields⟩ : ∃ ppd, receive h.device pd arrival.nowMilli arrival.now
      = (some ppd, .ok ()) ∧ ppd.device = h.device ∧ Yields mad₀ hs mad₀.chainKeys ppd :=
    receive_sent hC hr hstart hess hss hpdCarries
    hnamed (by rw [show mad₀.headerType = .acc from hacc]; decide) hsize
    (fun _ hoverload => absurd (hh.overload.symm.trans hoverload) Bool.false_ne_true) hadmits (by
      rw [show mad₀.headerType = .acc from hacc, hh.device]
      exact htime)
  rw [hreceive]
  show Go.ok (ppd.bodyMessage.bind h.unmarshal) = _
  rw [hyields.message, if_neg hne]
  rfl

end OpenNHP.AC
