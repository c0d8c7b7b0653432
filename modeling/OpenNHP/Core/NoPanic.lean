/-
  When the receive path panics.

  THE PROGRAM.  A worker parses a packet: the check of the header, `validatePeer`, and `decryptBody`.  No worker
  recovers, so a panic ends the process.

  THE SPECIFICATION.  `receive` returns, with a message or an error, for whatever bytes arrive.

  THE CRUX.  Each function is taken apart into what it slices and what it calls.  Header check and `validatePeer`
  never panic: the endpoints only hand over packets of at least the minimal length, and every slice up to there
  lies within it.

  WHERE IT FAILS.  `decryptBody` slices `Content` at the size of the header it was given, and it closes the reader
  that `zlib.NewReader` returned without looking at its error.

  ASSEMBLY.  One lemma for each function, `decryptBody_eq_panic` for the two ways, and `receive_returns_iff`, which
  says that nothing else goes wrong.
-/
import OpenNHP.Core.MessageRoundTrip

namespace OpenNHP.Core

open BigEndian

variable {M : Type} {C : Crypto M}

namespace PacketParserData

/-- Opening the static key returns, -/
theorem openStatic_ne_panic (ppd : PacketParserData C) : ppd.openStatic.2 ≠ .panic := by
  unfold openStatic
  split
  · simp
  · dsimp only
    split <;> simp

/-- opening the send time returns, -/
theorem openTimestamp_ne_panic (ppd : PacketParserData C) (peerPk : M) :
    (ppd.openTimestamp peerPk).2 ≠ .panic := by
  unfold openTimestamp
  dsimp only
  split
  · simp
  · split <;> simp

/-- and so do its tests, -/
theorem checkRecvTime_ne_panic (ppd : PacketParserData C) (time : Int64) :
    (ppd.checkRecvTime time).2 ≠ .panic := by
  unfold checkRecvTime
  split <;> simp

variable [DecidableEq M]

/-- the look-up of the peer, -/
theorem admitPeer_ne_panic (d : Device C) (t : HeaderType) (pk : M) (time : Int64) (addr : Addr)
    (nowMilli : Int64) : admitPeer d t pk time addr nowMilli ≠ .panic := by
  unfold admitPeer
  split
  · rw [ne_eq, Go.bind_eq_panic, not_or]
    refine ⟨Go.ofOption_ne_panic, ?_⟩
    rintro ⟨peer, -, h⟩
    split at h
    · cases h
    · split at h <;> cases h
  · simp

/-- the look at the sender as a whole, -/
theorem checkPeer_ne_panic (ppd : PacketParserData C) (peerPk : M) (nowMilli : Int64) :
    (ppd.checkPeer peerPk nowMilli).2 ≠ .panic := by
  unfold checkPeer
  split
  · simp
  · simp
  · rename_i h
    exact absurd h (admitPeer_ne_panic _ _ _ _ _ _)

/-- `validatePeer` returns. -/
theorem validatePeer_ne_panic (ppd : PacketParserData C) (nowMilli now : Int64) :
    (ppd.validatePeer nowMilli now).2 ≠ .panic := by
  simp only [validatePeer, ne_eq, Go.andThen_snd_eq_panic, not_or, not_exists, not_and]
  refine ⟨openStatic_ne_panic ppd, fun ppd peerPk _ => ⟨checkPeer_ne_panic ppd peerPk nowMilli,
    fun ppd _ _ => ⟨openTimestamp_ne_panic ppd peerPk, fun ppd time _ =>
      ⟨checkRecvTime_ne_panic ppd time, fun ppd _ _ => ?_⟩⟩⟩⟩
  split <;> simp

/-- and the check of the header. -/
theorem checkHeader_ne_panic (ppd : PacketParserData C) : ppd.checkHeader ≠ .panic := by
  unfold checkHeader
  dsimp only
  split
  · simp
  · split <;> simp

omit [DecidableEq M] in
/-- Decompression panics on a body that is no zlib stream. -/
theorem decompressBody_eq_panic {ppd : PacketParserData C} {body : M} :
    ppd.decompressBody body = .panic ↔
      ppd.bodyCompress = true ∧ C.zlibInflate body = .badHeader := by
  unfold decompressBody
  split
  · cases h : C.zlibInflate body <;> simp [*]
  · simp [*]

omit [DecidableEq M] in
/-- The two ways `decryptBody` panics. -/
theorem decryptBody_eq_panic {ppd : PacketParserData C} :
    ppd.decryptBody.2 = .panic ↔
      ppd.basePacket.len < ppd.header.size ∨
        ppd.header.size < ppd.basePacket.len ∧ ppd.bodyCompress = true ∧
          ∃ text, ppd.openBody = some text ∧ C.zlibInflate text = .badHeader := by
  unfold decryptBody
  by_cases hempty : ppd.basePacket.len = ppd.header.size
  · simp [hempty]
  · simp only [hempty, if_false]
    have hbody : ((Go.guardRange (ppd.header.size ≤ ppd.basePacket.len)).bind fun _ =>
        (Go.ofOption .aeadDecryptionFailed ppd.openBody).bind fun body =>
          ppd.decompressBody body) = .panic ↔
        ppd.basePacket.len < ppd.header.size ∨
          ppd.header.size < ppd.basePacket.len ∧ ppd.bodyCompress = true ∧
            ∃ text, ppd.openBody = some text ∧ C.zlibInflate text = .badHeader := by
      simp only [Go.bind_eq_panic, Go.guardRange_eq_panic, Go.guardRange_eq_ok, Go.ofOption_eq_ok,
        decompressBody_eq_panic, Go.ofOption_ne_panic, false_or]
      constructor
      · rintro (h | ⟨-, hlen, text, htext, hcompress, hinflate⟩)
        · exact .inl (by omega)
        · exact .inr ⟨by omega, hcompress, text, htext, hinflate⟩
      · rintro (h | ⟨hlen, hcompress, text, htext, hinflate⟩)
        · exact .inl (by omega)
        · exact .inr ⟨(), by omega, text, htext, hcompress, hinflate⟩
    rw [← hbody]
    split <;> simp [*]

end PacketParserData

/-! ## The receive path -/

/-- A body that the receive path survives.  When the packet passes the checks before it, the packet
    is at least as long as the header struct of the scheme; and when the compress flag is set, the text
    that the body opens to starts with a zlib header. -/
def PacketData.BodyReadable [DecidableEq M] (d : Device C) (pd : PacketData C) (nowMilli : Int64) :
    Prop :=
  ∀ hs peerPk tsBytes d', pd.Passes d nowMilli hs peerPk tsBytes d' →
    headerSize pd.scheme ≤ pd.basePacket.len ∧
      (headerSize pd.scheme < pd.basePacket.len → pd.basePacket.common.flag &&& flagCompress ≠ 0 →
        ∀ text, hs.openBody C pd.basePacket.common.counter (pd.basePacket.cast pd.scheme).static
          (pd.basePacket.cast pd.scheme).timestamp (pd.basePacket.payload pd.scheme) = some text →
          C.zlibInflate text ≠ .badHeader)

/-- After the checks, `decryptBody` panics exactly on the bodies that are not readable. -/
theorem passed_decryptBody_eq_panic [DecidableEq M] {d d' : Device C} {pd : PacketData C}
    {nowMilli : Int64} {hs : Handshake M} {peerPk tsBytes : M}
    (h : pd.Passes d nowMilli hs peerPk tsBytes d') :
    (pd.passed d hs peerPk tsBytes d').decryptBody.2 = .panic ↔
      pd.basePacket.len < headerSize pd.scheme ∨
        headerSize pd.scheme < pd.basePacket.len ∧ pd.basePacket.common.flag &&& flagCompress ≠ 0 ∧
          ∃ text, hs.openBody C pd.basePacket.common.counter (pd.basePacket.cast pd.scheme).static
            (pd.basePacket.cast pd.scheme).timestamp (pd.basePacket.payload pd.scheme) = some text ∧
            C.zlibInflate text = .badHeader := by
  obtain ⟨hheader, hscheme, hpacket, hcompress⟩ := pd.checked_eq d
  have hsize : (pd.passed d hs peerPk tsBytes d').header.size = headerSize pd.scheme := by
    show (pd.checked d).header.size = _
    rw [hheader]
    rfl
  have hopen : (pd.passed d hs peerPk tsBytes d').openBody
      = hs.openBody C pd.basePacket.common.counter (pd.basePacket.cast pd.scheme).static
        (pd.basePacket.cast pd.scheme).timestamp (pd.basePacket.payload pd.scheme) := by
    have hsScheme : hs.scheme = (pd.checked d).cipherScheme := congrArg Handshake.scheme h.handshake
    show C.aeadOpen (newCipherSuite (pd.checked d).cipherScheme).gcmType
      (hs.bodyKey C (pd.checked d).header.timestamp)
      (C.nonceBytes (pd.checked d).header.common.counter)
      ((pd.checked d).basePacket.payload (pd.checked d).header.scheme)
      (C.hash (newCipherSuite (pd.checked d).cipherScheme).hashType
        (hs.chainHash3 C (pd.checked d).header.static (pd.checked d).header.timestamp)) = _
    rw [← hsScheme, hheader, hpacket]
    rfl
  rw [PacketParserData.decryptBody_eq_panic, hsize, hopen,
    show (pd.passed d hs peerPk tsBytes d').basePacket = pd.basePacket from hpacket,
    show (pd.passed d hs peerPk tsBytes d').bodyCompress = _ from hcompress, decide_eq_true_iff]

/-- The first bytes are there in every packet the endpoints hand over. -/
theorem createPacketParserData_ne_panic [DecidableEq M] {d : Device C} {pd : PacketData C}
    (hlen : 12 ≤ pd.basePacket.len) : createPacketParserData d pd ≠ .panic := by
  have hlen₁ : 1 ≤ pd.basePacket.len := by omega
  unfold createPacketParserData
  cases pd.prevAssemblerData with
  | none =>
    rw [PacketParserData.fresh_eq_ok.mpr ⟨hlen, rfl⟩]
    exact PacketParserData.checkHeader_ne_panic _
  | some mad =>
    simp only [MsgAssemblerData.derivePacketParserData_eq_ok.mpr ⟨hlen, rfl⟩]
    exact PacketParserData.checkHeader_ne_panic _

/-- A receive panics exactly in `decryptBody`, on a packet that has passed. -/
theorem receive_eq_panic [DecidableEq M] {d : Device C} {pd : PacketData C} {nowMilli now : Int64}
    (hlen : 12 ≤ pd.basePacket.len) :
    (receive d pd nowMilli now).2 = .panic ↔
      ∃ hs peerPk tsBytes d', pd.Passes d nowMilli hs peerPk tsBytes d' ∧
        (pd.passed d hs peerPk tsBytes d').decryptBody.2 = .panic := by
  have hvalidated : (receive d pd nowMilli now).2 = .panic ↔
      ∃ ppd₁ ppd₂, (createPacketParserData d pd = .ok ppd₁ ∧
        ppd₁.validatePeer nowMilli now = (ppd₂, .ok ())) ∧ ppd₂.decryptBody.2 = .panic := by
    unfold receive
    cases hcreate : createPacketParserData d pd with
    | err e => simp
    | panic => exact absurd hcreate (createPacketParserData_ne_panic hlen)
    | ok ppd₁ =>
      simp only [Go.andThen_snd_eq_panic, PacketParserData.validatePeer_ne_panic, false_or,
        Go.ok.injEq]
      constructor
      · rintro ⟨ppd₂, _, hvalid, hbody⟩
        exact ⟨ppd₁, ppd₂, ⟨rfl, hvalid⟩, hbody⟩
      · rintro ⟨_, ppd₂, ⟨rfl, hvalid⟩, hbody⟩
        exact ⟨ppd₂, (), hvalid, hbody⟩
  rw [hvalidated]
  constructor
  · rintro ⟨ppd₁, ppd₂, hboth, hbody⟩
    obtain ⟨-, hs, peerPk, tsBytes, d', hpasses, rfl⟩ := validated_iff.mp ⟨ppd₁, hboth⟩
    exact ⟨hs, peerPk, tsBytes, d', hpasses, hbody⟩
  · rintro ⟨hs, peerPk, tsBytes, d', hpasses, hbody⟩
    obtain ⟨ppd₁, hboth⟩ := validated_iff.mpr ⟨hlen, hs, peerPk, tsBytes, d', hpasses, rfl⟩
    exact ⟨ppd₁, _, hboth, hbody⟩

/-- The iff in the form with the body's own condition. -/
theorem receive_returns_iff_bodyReadable [DecidableEq M] {d : Device C} {pd : PacketData C}
    {nowMilli now : Int64} (hlen : 12 ≤ pd.basePacket.len) :
    (receive d pd nowMilli now).2.Returns ↔ pd.BodyReadable d nowMilli := by
  rw [Go.returns_iff, ne_eq, receive_eq_panic hlen]
  constructor
  · intro h hs peerPk tsBytes d' hpasses
    have hbody : ¬ _ := fun hpanic => h ⟨hs, peerPk, tsBytes, d', hpasses, hpanic⟩
    rw [passed_decryptBody_eq_panic hpasses] at hbody
    simp only [not_or, not_lt, not_and, not_exists] at hbody
    exact ⟨hbody.1, hbody.2⟩
  · rintro h ⟨hs, peerPk, tsBytes, d', hpasses, hpanic⟩
    obtain ⟨hsize, hinflate⟩ := h hs peerPk tsBytes d' hpasses
    rcases (passed_decryptBody_eq_panic hpasses).mp hpanic with hshort | ⟨hlong, hflag, text, htext, hbad⟩
    · omega
    · exact hinflate hlong hflag text htext hbad

/-- **When the receive path returns.**  On a byte string of at least the minimal length, from anybody, on
    the generic path or in a pending transaction, header check, `validatePeer` and `decryptBody` end
    with a message or an error exactly when the body is readable. -/
theorem receive_returns_iff (L : Libs) (d : Device L.crypto) (content rest : Bytes)
    (conn : ConnectionData Bytes) (prev : Option (MsgAssemblerData L.crypto)) (connPk : Option Bytes)
    (initTime nowMilli now : Int64) (hmin : Packet.minimalLength ≤ content.length) :
    (receive d (PacketData.ofContent content rest conn prev connPk initTime) nowMilli now).2.Returns ↔
      (PacketData.ofContent content rest conn prev connPk initTime).BodyReadable d nowMilli := by
  refine receive_returns_iff_bodyReadable ?_
  exact le_trans (by decide) hmin

/-- The condition on the length is the precheck's, except in a transaction of the other scheme. -/
theorem headerSize_le_of_precheck {d : Device C} {pd : PacketData C} {t : HeaderType} {s : Nat}
    (hpre : recvPrecheck d.deviceType pd.basePacket = .ok (t, s)) (ht : t ≠ .kpl)
    (hscheme : ∀ mad, pd.prevAssemblerData = some mad →
      mad.cipherScheme = Packet.flagScheme pd.basePacket.common.flag) :
    headerSize pd.scheme ≤ pd.basePacket.len := by
  have hflag : pd.scheme = Packet.flagScheme pd.basePacket.common.flag := by
    unfold PacketData.scheme
    split
    · exact hscheme _ ‹_›
    · rfl
  obtain ⟨-, -, ⟨h, -⟩ | ⟨-, -, hlen⟩⟩ := recvPrecheck_eq_ok.mp hpre
  · exact absurd h ht
  · rw [hflag, hlen]
    exact Nat.le_add_right _ _

/-! ## Crashing a receiver -/

/-- A registered peer that sets the compress flag over a text without a zlib header crashes any ready
    receiver. -/
theorem receive_panics_of_flag {L : Libs} (hL : LawfulLibs L) {mad₀ : MsgAssemblerData L.crypto}
    (hr : mad₀.Begun) (hid : mad₀.header.identity.length = maximumIdentitySize + gcmTagSize)
    {d : Device L.crypto} (hpk : mad₀.remotePubKey
      = some (d.getEcdhByCipherScheme mad₀.cipherScheme).publicKey)
    (hkey : mad₀.chainKey = chainKey0 L.crypto mad₀.cipherScheme) (preamble : UInt32)
    (hfits : Fits L mad₀.cipherScheme mad₀.bodyCompress mad₀.bodyMessage)
    (hscheme : Packet.flagScheme (mad₀.sentCommon preamble).flag = mad₀.cipherScheme)
    (hcompress : (mad₀.sentCommon preamble).flag &&& flagCompress ≠ 0)
    (hbad : L.zlibInflate mad₀.bodyText = .badHeader)
    {conn : ConnectionData Bytes} {initTime nowMilli : Int64}
    (hready : ReadyFor d mad₀.headerType mad₀.deviceEcdh.publicKey mad₀.localInitTime conn initTime
      nowMilli) :
    ∃ mad, mad₀.encrypt preamble = .ok mad ∧
      mad.content.length = headerSize mad₀.cipherScheme + mad₀.sealedSize ∧ ∀ rest connPk now,
      let pd := PacketData.ofContent mad.content rest conn none connPk initTime
      (∃ s, recvPrecheck d.deviceType pd.basePacket = .ok (mad₀.headerType, s)) ∧
        (receive d pd nowMilli now).2 = .panic := by
  have hC := Libs.lawful hL
  have hne : L.crypto.len mad₀.bodyMessage ≠ 0 := fun h =>
    hfits.nonempty (List.eq_nil_of_length_eq_zero h)
  have hfit : L.crypto.len mad₀.bodyText + gcmTagSize
      ≤ packetBufferSize - headerSize mad₀.cipherScheme := hfits.fits
  have hsize : mad₀.sealedSize < 65536 := by
    rw [MsgAssemblerData.sealedSize, if_neg hne]
    have hbuf : packetBufferSize = 4096 := rfl
    omega
  -- The packet is assembled as any other, so the receiver's handshake passes.
  obtain ⟨ess, ss, hess, hss, hencrypt⟩ :=
    hr.encrypt hC (d.getEcdhByCipherScheme_eccType _) hpk (.inr hfit) preamble
  set hs := mad₀.handshake (d.getEcdhByCipherScheme mad₀.cipherScheme).publicKey ess ss with hhs
  set mad := (mad₀.afterHandshake hs).sent preamble with hmad
  have hcarries' := content_carries hL hr hid hencrypt
  have hlen : mad.content.length = headerSize mad₀.cipherScheme + mad₀.sealedSize := by
    have hbody₀ : (mad₀.afterHandshake hs).body = none := hr.body
    refine (hcarries' []).len.trans ?_
    exact congrArg _ (MsgAssemblerData.len_sentBody hC hbody₀)
  refine ⟨mad, hencrypt, hlen, ?_⟩
  intro rest connPk now pd
  have hcarries : pd.basePacket.Carries mad := hcarries' rest
  have hpdLen : pd.basePacket.len = mad.content.length := rfl
  have hcommon : pd.basePacket.common = mad₀.sentCommon preamble :=
    congrArg Header.common hcarries.cast
  have hpdScheme : pd.scheme = mad₀.cipherScheme := by
    rw [← hscheme, ← hcommon]
    rfl
  have hstart : pd.startState d = PacketParserData.start d pd mad₀.cipherScheme mad₀.chainKey connPk
      [chainKey0 L.crypto mad₀.cipherScheme] := by
    rw [hkey, ← hscheme, ← hcommon]
    rfl
  obtain ⟨d', hadmits⟩ := hready.admitPeer
  have hpasses := passes_sent hC hr hstart hess hss hcarries
    (checkRecvHeaderType_named hready.admitted) hready.notReknock hsize hready.atOverload hadmits
    hready.timely
  have hbody : mad.body = some (hs.sealBody L.crypto mad₀.header.common.counter mad.header.static
      mad.header.timestamp mad₀.bodyText) := if_neg hne
  have hcast : pd.basePacket.cast pd.scheme = mad.header := by
    rw [hpdScheme]
    exact hcarries.cast
  have hpayload : pd.basePacket.payload pd.scheme = hs.sealBody L.crypto mad₀.header.common.counter
      mad.header.static mad.header.timestamp mad₀.bodyText := by
    rw [hpdScheme]
    exact hcarries.payload _ hbody
  have hcounter : pd.basePacket.common.counter = mad₀.header.common.counter := by
    rw [hcommon, MsgAssemblerData.sentCommon]
    split <;> simp
  -- The body is there and opens, but the flag word sends its text to zlib.
  have hpos : 0 < mad₀.sealedSize := by
    rw [MsgAssemblerData.sealedSize, if_neg hne]
    exact Nat.add_pos_right _ (by decide)
  have h12 := twelve_le_headerSize mad₀.cipherScheme
  refine ⟨⟨_, recvPrecheck_sent hC hr hcarries hscheme hsize hready.admitted⟩,
    (receive_eq_panic (by omega)).mpr ⟨hs, _, _, d', hpasses,
      (passed_decryptBody_eq_panic hpasses).mpr (.inr ⟨?_, ?_, mad₀.bodyText, ?_, hbad⟩)⟩⟩
  · rw [hpdScheme]
    omega
  · rw [hcommon]
    exact hcompress
  · rw [hcast, hpayload, hcounter]
    exact hs.openBody_sealBody hC _ _ _ _

/-- A knock of the sample agent that sets the compress flag over the plain text. -/
def flaggedKnock : MsgAssemblerData sampleLibs.crypto :=
  { createMsgAssemblerData (sampleDevice .agent 1) { sampleMessage .knk none with compress := false }
      sampleEntropy (Packet.ofBytes (List.replicate packetBufferSize 0) packetBufferSize)
      1000000000000 with headerFlag := flagCompress }

/-- Its bytes. -/
def flaggedKnockContent : Bytes :=
  match flaggedKnock.encrypt 5 with
  | .ok mad => mad.content
  | _ => []

/-- A knock with a flag in its header that its length does not bear out. -/
theorem receive_panics_sample :
    Packet.minimalLength ≤ flaggedKnockContent.length ∧
      flaggedKnockContent.length ≤ packetBufferSize ∧
      let pd := PacketData.ofContent flaggedKnockContent [] (ConnectionData.new sampleLibs.crypto
        "10.0.0.1:62206") none none 1000000000000
      (∃ s, recvPrecheck .server pd.basePacket = .ok (.knk, s)) ∧
        ¬ (receive (sampleDevice .server 2) pd 1000000 1000000000000).2.Returns := by
  have hr : flaggedKnock.Begun := ⟨rfl, rfl, rfl, rfl, rfl, rfl⟩
  have hid : flaggedKnock.header.identity.length = maximumIdentitySize + gcmTagSize := by
    refine (HeaderFields.ofBytes_wellSized ?_).identity
    exact (by decide : headerSize .gmsm ≤ packetBufferSize).trans List.length_replicate.ge
  obtain ⟨mad, hencrypt, hlen, hpanics⟩ := receive_panics_of_flag sampleLibs_lawful hr hid
    (show flaggedKnock.remotePubKey
      = some ((sampleDevice .server 2).getEcdhByCipherScheme .gmsm).publicKey from rfl) rfl 5
    ⟨by decide, by decide⟩ (by decide) (by decide) rfl
    (sampleDevice_readyFor (show checkRecvHeaderType .server .knk = true by decide) (by decide))
  have hcontent : flaggedKnockContent = mad.content := by
    rw [flaggedKnockContent, hencrypt]
  rw [hcontent, hlen]
  obtain ⟨hpre, hpanic⟩ := hpanics [] none 1000000000000
  refine ⟨by decide, by decide, hpre, ?_⟩
  rw [Go.returns_iff, not_not]
  exact hpanic

/-- An ordinary knock of the sample agent, which the server opens: its body is readable. -/
theorem receive_returns_sample :
    ∃ mad ppd, (createMsgAssemblerData (sampleDevice .agent 1) (sampleMessage .knk none) sampleEntropy
        (Packet.ofBytes (List.replicate packetBufferSize 0) packetBufferSize) 1000000000000).encrypt 5 = .ok mad ∧
      receive (sampleDevice .server 2) (PacketData.ofContent mad.content []
        (ConnectionData.new sampleLibs.crypto "10.0.0.1:62206") none none 1000000000000) 1000000
        1000000000000 = (some ppd, .ok ()) ∧
      (PacketData.ofContent mad.content [] (ConnectionData.new sampleLibs.crypto "10.0.0.1:62206") none none
        1000000000000).BodyReadable (sampleDevice .server 2) 1000000 := by
  have hr := createMsgAssemblerData_ready (sampleDevice .agent 1) (sampleMessage .knk none) sampleEntropy
    (Packet.ofBytes (List.replicate packetBufferSize 0) packetBufferSize) 1000000000000
  have hid : ((Packet.ofBytes (List.replicate packetBufferSize (0 : UInt8)) packetBufferSize).cast
      .gmsm).identity.length = maximumIdentitySize + gcmTagSize := by
    refine (HeaderFields.ofBytes_wellSized ?_).identity
    exact (by decide : headerSize .gmsm ≤ packetBufferSize).trans List.length_replicate.ge
  have hecc : (sampleEcdh .sm2 2).eccType = (newCipherSuite .gmsm).eccType := rfl
  have hfits : Fits sampleLibs .gmsm true [104, 105] := ⟨by decide, by decide⟩
  obtain ⟨mad, hencrypt, -, hscheme, hdeliver⟩ := deliver sampleLibs_lawful hr hid hecc rfl hfits 5
  have hready : ReadyFor (sampleDevice .server 2) .knk (sampleEcdh .sm2 1).publicKey 1000000000000
      (ConnectionData.new sampleLibs.crypto "10.0.0.1:62206") 1000000000000 1000000 :=
    sampleDevice_readyFor (by decide) (by decide)
  obtain ⟨-, ppd, hreceive, -⟩ := hdeliver (sampleDevice .server 2) []
    (ConnectionData.new sampleLibs.crypto "10.0.0.1:62206") none none none 1000000000000 1000000 1000000000000
    rfl (fun hflag => by rw [← hflag]; rfl) hready
  have hmin : Packet.minimalLength ≤ mad.content.length := by
    have hlen := (content_carries sampleLibs_lawful hr.toBegun hid hencrypt []).len
    have hsize : Packet.minimalLength ≤ headerSize mad.cipherScheme := by
      rw [hscheme]
      decide
    exact hsize.trans ((Nat.le_add_right _ _).trans hlen.ge)
  refine ⟨mad, ppd, hencrypt, hreceive, (receive_returns_iff sampleLibs (sampleDevice .server 2) mad.content []
    (ConnectionData.new sampleLibs.crypto "10.0.0.1:62206") none none 1000000000000 1000000 1000000000000
    hmin).mp ?_⟩
  rw [hreceive]
  trivial

end OpenNHP.Core
