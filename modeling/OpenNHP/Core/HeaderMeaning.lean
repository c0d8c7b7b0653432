/-
  What a receiver reads from the header of a sent packet.

  THE PROGRAM.  A packet is built in a recycled pool buffer, and the assembly paths do not write the same header
  bytes: `encryptBody` sets the flag word only for a message with a body, and a message derived from a received
  packet never gets a version.  What is not written is read all the same: the flag word tells the receiver the
  cipher scheme and with it the header size.

  THE SPECIFICATION.  The receiver reads the version, the flag word, and with it the scheme and the size of the
  header, and the type and the size of the packet as the sender meant them (`ReadAsMeant`).

  THE CRUX.  An assembly is followed twice, once as it is and once in another buffer, to see which fields it
  settles by itself: all but the two above (`encrypt_agrees`).  Those two are then read off the buffer.

  ASSEMBLY.  `header_meaning_iff` says for which buffers the receiver reads what the sender meant
  (`BufferFits`), and `header_reads_stale_bytes` shows a packet in a buffer that does not fit.
-/
import OpenNHP.Core.MessageRoundTrip

namespace OpenNHP.Core

open BigEndian

variable {M : Type} {C : Crypto M}

/-! ## What the sender means -/

/-- `Version`. -/
def HeaderCommon.version (h : HeaderCommon) : UInt8 × UInt8 := (h.major, h.minor)

namespace MsgData

/-- A response continues in the scheme of its request. -/
def meantScheme (md : MsgData C) : CipherScheme :=
  match md.prevParserData with
  | some ppd => ppd.cipherScheme
  | none => md.cipherScheme

/-- The flag word of the message: its compress choice, for a message of its own the CL-PKC choice, and the
    bits `SetFlag` adds for the scheme. -/
def meantFlag (md : MsgData C) (common : HeaderCommon) : UInt16 :=
  (HeaderCommon.setFlag md.meantScheme common
    (HeaderCommon.flagWord md.compress (md.prevParserData.isNone && md.clPkc))).flag

/-- The payload size of the message: nothing, or the sealed text. -/
def meantSize (md : MsgData C) : Nat :=
  if C.len md.message = 0 then 0
  else C.len (if md.compress then C.zlibCompress md.message else md.message) + gcmTagSize

end MsgData

/-- The flag word does not depend on the header it is written to. -/
theorem HeaderCommon.setFlag_flag (scheme : CipherScheme) (h h' : HeaderCommon) (flag : UInt16) :
    (setFlag scheme h flag).flag = (setFlag scheme h' flag).flag := by
  cases scheme <;> rfl

/-- The header a packet is read as begins with its first bytes. -/
theorem Packet.common_of_header {pkt : Packet M} {h : Header M} (hh : pkt.header = .ok h) :
    h.common = pkt.common := by
  obtain ⟨flag, -, hcast⟩ := Go.bind_eq_ok.mp hh
  obtain ⟨-, -, hcast⟩ := Go.bind_eq_ok.mp hcast
  cases hcast
  rfl

namespace MsgData

/-- The flag word that is meant tells the scheme that is meant. -/
theorem flagScheme_meantFlag (md : MsgData C) (common : HeaderCommon) :
    Packet.flagScheme (md.meantFlag common) = md.meantScheme := by
  have hext := HeaderCommon.setFlag_extendedLength md.meantScheme common md.compress
    (md.prevParserData.isNone && md.clPkc)
  unfold Packet.flagScheme meantFlag
  simp only [hext]
  cases md.meantScheme <;> simp

/-- The header reads of the receive path find what the sender meant. -/
structure ReadAsMeant (md : MsgData C) (pkt : Packet M) : Prop where
  header : ∃ h, pkt.header = .ok h ∧ h.scheme = md.meantScheme ∧ h.size = headerSize md.meantScheme ∧
    h.common.version = (protocolVersionMajor, protocolVersionMinor)
  flag : pkt.flag = .ok (md.meantFlag pkt.common)
  precheck : ∀ dt, checkRecvHeaderType dt md.headerType = true →
    recvPrecheck dt pkt = .ok (md.headerType, md.meantSize)

/-- The buffer holds the header bytes that the assembly of the message does not write. -/
structure BufferFits (md : MsgData C) (buf : Packet M) : Prop where
  flag : C.len md.message = 0 → buf.common.flag = md.meantFlag buf.common
  version : md.prevParserData ≠ none →
    buf.common.version = (protocolVersionMajor, protocolVersionMinor)

end MsgData

/-- The header fields that every assembly path writes. -/
structure Header.Agrees (h h' : Header M) : Prop where
  counter : h.common.counter = h'.common.counter
  typeAndPayloadSize : h.common.typeAndPayloadSize = h'.common.typeAndPayloadSize
  ephermeral : h.ephermeral = h'.ephermeral
  static : h.static = h'.static
  timestamp : h.timestamp = h'.timestamp

/-! ## The assembly paths -/

section Assembly

variable (d : Device C) (md : MsgData C) (rnd : Entropy C) (buf buf' : Packet M) (now : Int64)

/-- What an assembly starts from, apart from the header bytes it leaves. -/
theorem createMsgAssemblerData_meant :
    let mad := createMsgAssemblerData d md rnd buf now
    mad.cipherScheme = md.meantScheme ∧ mad.headerType = md.headerType ∧ mad.sealedSize = md.meantSize ∧
      mad.bodyMessage = md.message ∧ mad.bodyCompress = md.compress ∧
      mad.clPkc = (md.prevParserData.isNone && md.clPkc) := by
  unfold createMsgAssemblerData MsgData.meantScheme
  cases md.prevParserData with
  | none => exact ⟨rfl, rfl, rfl, rfl, rfl, rfl⟩
  | some ppd => exact ⟨rfl, rfl, rfl, rfl, rfl, rfl⟩

/-- No path has written the flag word yet, and only a message of its own has its version. -/
theorem createMsgAssemblerData_common :
    let common := (createMsgAssemblerData d md rnd buf now).header.common
    common.flag = buf.common.flag ∧ common.version =
      if md.prevParserData = none then (protocolVersionMajor, protocolVersionMinor)
      else buf.common.version := by
  unfold createMsgAssemblerData
  cases md.prevParserData with
  | none => exact ⟨rfl, rfl⟩
  | some ppd => exact ⟨rfl, (if_neg nofun).symm⟩

variable {d md rnd buf buf' now} {mad : MsgAssemblerData C} {preamble : UInt32}

/-- The common header of a sent packet: the flag word of a message without a body is the buffer's. -/
theorem sentCommon_reads (preamble : UInt32) (hmad : (createMsgAssemblerData d md rnd buf now) = mad) :
    (mad.sentCommon preamble).flag =
        (if C.len md.message = 0 then buf.common.flag else md.meantFlag (mad.sentCommon preamble)) ∧
      (mad.sentCommon preamble).version =
        if md.prevParserData = none then (protocolVersionMajor, protocolVersionMinor)
        else buf.common.version := by
  have hr := createMsgAssemblerData_ready d md rnd buf now
  obtain ⟨hscheme, -, -, hmessage, hcompress, hclPkc⟩ := createMsgAssemblerData_meant d md rnd buf now
  obtain ⟨hflag, hversion⟩ := createMsgAssemblerData_common d md rnd buf now
  rw [hmad] at hr hscheme hmessage hcompress hclPkc hflag hversion
  rw [← hversion]
  unfold MsgAssemblerData.sentCommon
  rw [hmessage]
  split
  · exact ⟨hflag, rfl⟩
  · refine ⟨?_, ?_⟩
    · rw [HeaderCommon.setTypeAndPayloadSize_flag, MsgAssemblerData.sentFlag, hr.headerFlag,
        UInt16.zero_or, MsgData.meantFlag, ← hscheme, hr.scheme, hcompress, hclPkc]
      exact HeaderCommon.setFlag_flag _ _ _ _
    · cases mad.header.scheme <;> rfl

/-- Another buffer changes nothing but the header, and there neither scheme, counter nor ephemeral key. -/
theorem createMsgAssemblerData_buffer (d : Device C) (md : MsgData C) (rnd : Entropy C)
    (buf buf' : Packet M) (now : Int64) :
    let mad := createMsgAssemblerData d md rnd buf now
    ∃ header, createMsgAssemblerData d md rnd buf' now = { mad with header := header } ∧
      header.scheme = mad.header.scheme ∧ header.common.counter = mad.header.common.counter ∧
      header.ephermeral = mad.header.ephermeral := by
  unfold createMsgAssemblerData
  cases md.prevParserData with
  | none => exact ⟨_, rfl, rfl, rfl, rfl⟩
  | some ppd => exact ⟨_, rfl, rfl, rfl, rfl⟩

/-- The same message with the same choices agrees in two buffers on every field all paths write. -/
theorem encrypt_agrees {mad' : MsgAssemblerData C}
    (hmad : (createMsgAssemblerData d md rnd buf now).encrypt preamble = .ok mad)
    (hmad' : (createMsgAssemblerData d md rnd buf' now).encrypt preamble = .ok mad') :
    mad.header.Agrees mad'.header := by
  have hr := createMsgAssemblerData_ready d md rnd buf now
  have hr' := createMsgAssemblerData_ready d md rnd buf' now
  obtain ⟨header, hbuf, hscheme, hcounter, heph⟩ := createMsgAssemblerData_buffer d md rnd buf buf' now
  rw [MsgAssemblerData.encrypt_eq_ok hr.chainHash] at hmad
  rw [MsgAssemblerData.encrypt_eq_ok hr'.chainHash, hbuf] at hmad'
  generalize createMsgAssemblerData d md rnd buf now = mad₀ at hmad hmad' hscheme hcounter heph
  obtain ⟨pk, ess, ss, hpk, -, hess, hss, -, rfl⟩ := hmad
  obtain ⟨pk', ess', ss', hpk', -, hess', hss', -, rfl⟩ := hmad'
  -- both ran the same handshake
  obtain rfl : pk = pk' := Option.some.inj (hpk.symm.trans hpk')
  obtain rfl : ess = ess' := Option.some.inj (hess.symm.trans hess')
  obtain rfl : ss = ss' := Option.some.inj (hss.symm.trans hss')
  have hsealed : ∀ header' : Header M, ∀ hs,
      ((({ mad₀ with header := header' } : MsgAssemblerData C).afterHandshake hs).sentCommon
        preamble).typeAndPayloadSize = ((mad₀.afterHandshake hs).sentCommon preamble).typeAndPayloadSize :=
    fun _ _ => rfl
  have hcount : ∀ (mad : MsgAssemblerData C) hs,
      ((mad.afterHandshake hs).sent preamble).header.common.counter = mad.header.common.counter := by
    intro mad hs
    show ((mad.afterHandshake hs).sentCommon preamble).counter = _
    rw [MsgAssemblerData.sentCommon]
    split <;> simp [MsgAssemblerData.afterHandshake]
  refine ⟨?_, (hsealed header _).symm, heph.symm, ?_, ?_⟩
  · exact (hcount mad₀ _).trans (hcounter.symm.trans (hcount { mad₀ with header := header } _).symm)
  · show (mad₀.handshake pk ess ss).sealStatic C mad₀.header.common.counter _ =
      (mad₀.handshake pk ess ss).sealStatic C header.common.counter _
    rw [hcounter]
    rfl
  · show (mad₀.handshake pk ess ss).sealTimestamp C mad₀.header.common.counter _ _ =
      (mad₀.handshake pk ess ss).sealTimestamp C header.common.counter _ _
    rw [hcounter]
    rfl

end Assembly

/-! ## The header as it is read -/

variable {L : Libs}

/-- The identity field of an assembly is a slice of the buffer. -/
theorem createMsgAssemblerData_identity (d : Device L.crypto) (md : MsgData L.crypto)
    (rnd : Entropy L.crypto) {buf : Bytes} (now : Int64) (hbuf : buf.length = packetBufferSize) :
    (createMsgAssemblerData d md rnd (Packet.ofBytes buf packetBufferSize) now).header.identity.length
      = maximumIdentitySize + gcmTagSize := by
  have hid : ∀ scheme, ((Packet.ofBytes buf packetBufferSize).cast scheme).identity.length
      = maximumIdentitySize + gcmTagSize := by
    intro scheme
    refine (HeaderFields.ofBytes_wellSized ?_).identity
    rw [hbuf]
    cases scheme <;> decide
  unfold createMsgAssemblerData
  cases md.prevParserData with
  | none => exact hid _
  | some ppd => exact hid _

/-- A receiver reads a message that was assembled in a buffer as it was meant exactly when the buffer holds
    what the assembly does not write. -/
theorem readAsMeant_iff (hL : LawfulLibs L) (d : Device L.crypto) (md : MsgData L.crypto)
    (rnd : Entropy L.crypto) (buf rest : Bytes) (preamble : UInt32) (now : Int64)
    (hbuf : buf.length = packetBufferSize) {mad : MsgAssemblerData L.crypto}
    (hmad : (createMsgAssemblerData d md rnd (Packet.ofBytes buf packetBufferSize) now).encrypt preamble
      = .ok mad) :
    md.ReadAsMeant (Packet.ofBytes (mad.content ++ rest) mad.content.length) ↔
      md.BufferFits (Packet.ofBytes buf packetBufferSize) := by
  have hC := Libs.lawful hL
  have hr := createMsgAssemblerData_ready d md rnd (Packet.ofBytes buf packetBufferSize) now
  obtain ⟨hscheme, htype, hsealed, hmessage, -, -⟩ :=
    createMsgAssemblerData_meant d md rnd (Packet.ofBytes buf packetBufferSize) now
  obtain ⟨hflag, hversion⟩ := sentCommon_reads preamble
    (rfl : createMsgAssemblerData d md rnd (Packet.ofBytes buf packetBufferSize) now = _)
  have hid : (createMsgAssemblerData d md rnd (Packet.ofBytes buf packetBufferSize)
      now).header.identity.length = maximumIdentitySize + gcmTagSize :=
    createMsgAssemblerData_identity d md rnd now hbuf
  have hcarries := content_carries hL hr.toBegun hid hmad rest
  rw [MsgAssemblerData.encrypt_eq_ok hr.chainHash] at hmad
  generalize createMsgAssemblerData d md rnd (Packet.ofBytes buf packetBufferSize) now = mad₀
    at hmad hr hscheme htype hsealed hmessage hflag hversion hid
  obtain ⟨pk, ess, ss, -, -, -, -, hfit, rfl⟩ := hmad
  set hs := mad₀.handshake pk ess ss
  set mad := (mad₀.afterHandshake hs).sent preamble
  generalize Packet.ofBytes (mad.content ++ rest) mad.content.length = pkt at hcarries
  have hcommon : pkt.common = mad₀.sentCommon preamble := congrArg Header.common hcarries.cast
  have h12 : 12 ≤ pkt.len := by
    have hsize := twelve_le_headerSize mad.cipherScheme
    rw [hcarries.len]
    exact Nat.le_add_right_of_le hsize
  have hflagRead : pkt.flag = .ok pkt.common.flag := by
    rw [Packet.flag, Go.guardRange, if_pos h12, Go.bind_ok]
  have hheaderRead : pkt.header = .ok (pkt.cast (Packet.flagScheme pkt.common.flag)) := by
    rw [Packet.header, hflagRead, Go.bind_ok, Packet.headerWithCipherScheme, Go.guardRange,
      if_pos (by omega), Go.bind_ok]
  rw [← hcommon] at hflag hversion
  -- Left to right: the flag word of an empty message and the version of an answer are the buffer's, and were read
  -- as meant.
  constructor
  · intro hread
    refine ⟨fun hempty => ?_, fun hprev => ?_⟩
    · have hmeant := hread.flag
      rw [hflagRead, Go.ok.injEq, hflag, if_pos hempty] at hmeant
      rw [hmeant]
      exact HeaderCommon.setFlag_flag _ _ _ _
    · obtain ⟨h, hheader, -, -, hmeant⟩ := hread.header
      rw [hheaderRead, Go.ok.injEq] at hheader
      rw [← hheader, Packet.cast_common, hversion, if_neg hprev] at hmeant
      exact hmeant
  · rintro ⟨hbufFlag, hbufVersion⟩
    have hmeant : pkt.common.flag = md.meantFlag pkt.common := by
      rw [hflag]
      split
      · rename_i hempty
        rw [hbufFlag hempty]
        exact HeaderCommon.setFlag_flag _ _ _ _
      · rfl
    have hmeantScheme : Packet.flagScheme pkt.common.flag = md.meantScheme := by
      rw [hmeant]
      exact md.flagScheme_meantFlag _
    refine ⟨⟨_, hheaderRead, hmeantScheme, congrArg headerSize hmeantScheme, ?_⟩, ?_, ?_⟩
    · rw [Packet.cast_common, hversion]
      split
      · rfl
      · rename_i hprev
        exact hbufVersion hprev
    · rw [hflagRead, hmeant]
    · intro dt hcheck
      have hsize : mad₀.sealedSize < 65536 := by
        have hbufferSize : packetBufferSize = 4096 := rfl
        rw [MsgAssemblerData.sealedSize]
        split
        · decide
        · rename_i hne
          have hfits := hfit.resolve_left hne
          omega
      rw [← htype, ← hsealed]
      rw [← htype] at hcheck
      refine recvPrecheck_sent hC hr.toBegun hcarries ?_ hsize hcheck
      rw [← hcommon, hmeantScheme, hscheme]

/-- **Header meaning.**  The receiver reads the scheme, size, flags, version and payload size that the sender
    meant, and no field that depends on the buffer, exactly when the buffer already held what the assembly
    does not write: the flag word of a message without a body, the version of a response. -/
theorem header_meaning_iff (hL : LawfulLibs L) (d : Device L.crypto) (md : MsgData L.crypto)
    (rnd : Entropy L.crypto) (buf rest : Bytes) (preamble : UInt32) (now : Int64)
    (hbuf : buf.length = packetBufferSize) {mad : MsgAssemblerData L.crypto}
    (hmad : (createMsgAssemblerData d md rnd (Packet.ofBytes buf packetBufferSize) now).encrypt preamble
      = .ok mad) :
    (md.ReadAsMeant (Packet.ofBytes (mad.content ++ rest) mad.content.length) ∧
      ∀ buf' mad', (createMsgAssemblerData d md rnd buf' now).encrypt preamble = .ok mad' →
        mad.header.Agrees mad'.header) ↔
      md.BufferFits (Packet.ofBytes buf packetBufferSize) := by
  rw [readAsMeant_iff hL d md rnd buf rest preamble now hbuf hmad, and_iff_left_iff_imp]
  intro _ buf' mad' hmad'
  exact encrypt_agrees hmad hmad'

/-! ## Two messages in a new buffer -/

/-- A buffer as the pool creates it. -/
def blankBuffer : Bytes := List.replicate packetBufferSize 0

/-- A message of the sample agent (or, as an answer, of the device that parsed its knock) in a new buffer. -/
def inBlankBuffer (d : Device sampleLibs.crypto) (md : MsgData sampleLibs.crypto) :
    Go (MsgAssemblerData sampleLibs.crypto) :=
  (createMsgAssemblerData d md sampleEntropy (Packet.ofBytes blankBuffer packetBufferSize)
    1000000000000).encrypt 5

/-- What the sample server makes of the sample agent's knock. -/
def knockParsed : Go (PacketParserData sampleLibs.crypto) :=
  (inBlankBuffer (sampleDevice .agent 1) (sampleMessage .knk none)).bind fun mad =>
  match receive (sampleDevice .server 2) (PacketData.ofContent mad.content []
      (ConnectionData.new sampleLibs.crypto "10.0.0.1:62206") none none 1000000000000) 1000000
      1000000000000 with
  | (some ppd, .ok _) => .ok ppd
  | _ => .panic

/-- A list request of the sample agent without a body. -/
def emptyList : MsgData sampleLibs.crypto := { sampleMessage .lst none with message := [] }

/-- A pool buffer as a packet that was sent in it leaves it. -/
def usedBuffer (mad : MsgAssemblerData sampleLibs.crypto) : Bytes :=
  mad.content ++ List.replicate (packetBufferSize - mad.content.length) 0

/-- An answer is read as it is meant where a knock was sent in its buffer: that has left its version there. -/
theorem header_meaning_sample :
    ∃ ppd knock mad, knockParsed = .ok ppd ∧
      inBlankBuffer (sampleDevice .agent 1) (sampleMessage .knk none) = .ok knock ∧
      (createMsgAssemblerData ppd.device (sampleMessage .ack (some ppd)) sampleEntropy
        (Packet.ofBytes (usedBuffer knock) packetBufferSize) 1000000000000).encrypt 5 = .ok mad ∧
      (sampleMessage .ack (some ppd)).ReadAsMeant (Packet.ofBytes (mad.content ++ []) mad.content.length) := by
  have hassembled : (knockParsed.bind fun ppd =>
      (inBlankBuffer (sampleDevice .agent 1) (sampleMessage .knk none)).bind fun knock =>
        ((createMsgAssemblerData ppd.device (sampleMessage .ack (some ppd)) sampleEntropy
          (Packet.ofBytes (usedBuffer knock) packetBufferSize) 1000000000000).encrypt 5).bind fun _ =>
            .ok ((usedBuffer knock).length, (Packet.ofBytes (usedBuffer knock) packetBufferSize).common.version)) =
      .ok (packetBufferSize, protocolVersionMajor, protocolVersionMinor) := by
    decide +kernel
  obtain ⟨ppd, hppd, hassembled⟩ := Go.bind_eq_ok.mp hassembled
  obtain ⟨knock, hknock, hassembled⟩ := Go.bind_eq_ok.mp hassembled
  obtain ⟨mad, hmad, hread⟩ := Go.bind_eq_ok.mp hassembled
  obtain ⟨hlength, hversion⟩ := Prod.mk.inj (Go.ok.inj hread)
  have hfits : (sampleMessage .ack (some ppd)).BufferFits (Packet.ofBytes (usedBuffer knock) packetBufferSize) :=
    ⟨nofun, fun _ => hversion⟩
  exact ⟨ppd, knock, mad, hppd, hknock, hmad,
    ((header_meaning_iff sampleLibs_lawful _ _ _ _ _ _ _ hlength hmad).mpr hfits).1⟩

/-- **Stale header bytes.**  The server's answer to a knock, built in a new buffer, is read as version 0.0; a
    GMSM request without a body, built in a new buffer, is read with the other scheme's header size and
    refused. -/
theorem header_reads_stale_bytes :
    (∃ ppd mad, knockParsed = .ok ppd ∧ inBlankBuffer ppd.device (sampleMessage .ack (some ppd)) = .ok mad ∧
      (Packet.ofBytes mad.content mad.content.length).common.version = (0, 0) ∧
      ¬ (sampleMessage .ack (some ppd)).ReadAsMeant (Packet.ofBytes mad.content mad.content.length)) ∧
    ∃ mad, inBlankBuffer (sampleDevice .agent 1) emptyList = .ok mad ∧
      recvPrecheck .server (Packet.ofBytes mad.content mad.content.length) = .err .totalSizeIncorrect ∧
      ¬ emptyList.ReadAsMeant (Packet.ofBytes mad.content mad.content.length) := by
  refine ⟨?_, ?_⟩
  · have hanswered : ((knockParsed.bind fun ppd =>
        inBlankBuffer ppd.device (sampleMessage .ack (some ppd))).bind fun mad =>
          .ok (Packet.ofBytes mad.content mad.content.length).common.version) = .ok (0, 0) := by
      decide +kernel
    obtain ⟨mad, hmad, hversion⟩ := Go.bind_eq_ok.mp hanswered
    obtain ⟨ppd, hppd, hmad⟩ := Go.bind_eq_ok.mp hmad
    refine ⟨ppd, mad, hppd, hmad, Go.ok.inj hversion, ?_⟩
    intro hread
    obtain ⟨h, hheader, -, -, hmeant⟩ := hread.header
    rw [Packet.common_of_header hheader, Go.ok.inj hversion] at hmeant
    exact absurd hmeant (by decide)
  · have hrefused : ((inBlankBuffer (sampleDevice .agent 1) emptyList).bind fun mad =>
        .ok (recvPrecheck .server (Packet.ofBytes mad.content mad.content.length))) =
          .ok (.err .totalSizeIncorrect) := by
      decide +kernel
    obtain ⟨mad, hmad, hprecheck⟩ := Go.bind_eq_ok.mp hrefused
    refine ⟨mad, hmad, Go.ok.inj hprecheck, ?_⟩
    intro hread
    have hadmitted := hread.precheck .server (by decide)
    rw [Go.ok.inj hprecheck] at hadmitted
    cases hadmitted

end OpenNHP.Core
