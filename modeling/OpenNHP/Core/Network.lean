/-
  Runs of the protocol over a network that an attacker controls.

  1. An event is a packet that some device assembled and sent, or one that some device accepted.  A run (`Run`) is
     a sequence of events, the newest first: devices, options, connections, clocks and random choices are anything
     at every step, a response continues from a packet accepted earlier, and a packet parsed as the answer to a
     request continues from a request sent earlier.
  2. The attacker hands the devices any packet it can derive, and it knows what is on the wire and every private
     key that is not honest.
  3. `Run.safe` is the invariant of all runs: nothing on the wire gives an honest secret away, and the only
     ciphertexts under guarded keys are the devices' own seals.
  4. `Run.genuine` is what a run says of each of its events, without the run: a sent packet was assembled as
     `encrypt` does it, an accepted one parsed as `receive` does it.

  The rest of the network's properties are read off these two, by the injectivity of seals.
-/
import OpenNHP.Core.SymbolicCrypto

namespace OpenNHP.Core

open Symbolic

/-! ## What a sent packet contains -/

section SentWith

variable {M : Type} {C : Crypto M}

/-- A complete packet, and the handshake whose seals it carries. -/
structure MsgAssemblerData.SentWith (mad : MsgAssemblerData C) (hs : Handshake M) : Prop where
  scheme : hs.scheme = mad.cipherScheme
  responder : mad.remotePubKey = some hs.responder
  ephermeral : hs.ephermeral = mad.header.ephermeral
  ephermeralEcdh : mad.header.ephermeral = mad.ephermeralEcdh.publicKey
  eccType : mad.ephermeralEcdh.eccType = (newCipherSuite mad.cipherScheme).eccType
  ess : mad.ephermeralEcdh.sharedSecret hs.responder = some hs.ess
  ss : mad.deviceEcdh.sharedSecret hs.responder = some hs.ss
  static : mad.header.static
    = hs.sealStatic C mad.header.common.counter mad.deviceEcdh.publicKey
  timestamp : mad.header.timestamp = hs.sealTimestamp C mad.header.common.counter mad.header.static
    (C.timestampBytes mad.localInitTime)
  body : ∀ body, mad.body = some body → body = hs.sealBody C mad.header.common.counter
    mad.header.static mad.header.timestamp mad.bodyText
  hmac : ∃ ws, mad.header.hmac = C.hash hs.hashType ws
  chainKey4 : mad.chainKeys.getLast? = some (hs.chainKey4 C mad.header.timestamp)
  cleared : mad.chainKey = C.zeroKey

/-- What a complete packet keeps of its assembly. -/
structure MsgAssemblerData.EncryptedFrom (mad' mad : MsgAssemblerData C) : Prop where
  device : mad'.device = mad.device
  cipherScheme : mad'.cipherScheme = mad.cipherScheme
  headerType : mad'.headerType = mad.headerType
  remotePubKey : mad'.remotePubKey = mad.remotePubKey
  localInitTime : mad'.localInitTime = mad.localInitTime
  counter : mad'.header.common.counter = mad.header.common.counter
  identity : mad'.header.identity = mad.header.identity
  bodyText : mad'.bodyText = mad.bodyText

/-- The counter of a packet is that of its assembly. -/
theorem MsgAssemblerData.sentCommon_counter (mad : MsgAssemblerData C) (preamble : UInt32) :
    (mad.sentCommon preamble).counter = mad.header.common.counter := by
  rw [sentCommon]
  split <;> simp

/-- A send that succeeds leaves such a packet; its handshake starts from the assembly's chain key. -/
theorem MsgAssemblerData.Begun.encrypt_eq_ok {mad mad' : MsgAssemblerData C} {preamble : UInt32}
    (hr : mad.Begun) (h : mad.encrypt preamble = .ok mad') :
    ∃ hs, mad'.SentWith hs ∧ hs.base = mad.chainKey ∧ mad'.EncryptedFrom mad := by
  obtain ⟨pk, ess, ss, hpk, -, hess, hss, -, rfl⟩ := (MsgAssemblerData.encrypt_eq_ok hr.chainHash).mp h
  set hs := mad.handshake pk ess ss with hhs
  have hcounter : ((mad.afterHandshake hs).sentCommon preamble).counter = mad.header.common.counter :=
    sentCommon_counter _ _
  refine ⟨hs, ⟨rfl, rfl, hr.ephermeral.symm, hr.ephermeral, hr.eccType, hess, hss, ?_, ?_, ?_,
    ⟨_, rfl⟩, ?_, rfl⟩, rfl, ⟨rfl, rfl, rfl, hpk.symm, rfl, hcounter, rfl, rfl⟩⟩
  · show hs.sealStatic C _ _ = hs.sealStatic C ((mad.afterHandshake hs).sentCommon preamble).counter _
    rw [hcounter]
    rfl
  · show hs.sealTimestamp C _ _ _
      = hs.sealTimestamp C ((mad.afterHandshake hs).sentCommon preamble).counter _ _
    rw [hcounter]
    rfl
  · intro body hbody
    have hsent : (mad.afterHandshake hs).sentBody = some body := hbody
    rw [sentBody] at hsent
    split at hsent
    · cases hr.body.symm.trans hsent
    · cases hsent
      show _ = hs.sealBody C ((mad.afterHandshake hs).sentCommon preamble).counter _ _ _
      rw [hcounter]
      rfl
  · show (mad.chainKeys ++ hs.chainKeys C _).getLast? = _
    rw [List.getLast?_append]
    rfl

end SentWith

/-! ## What an accepted packet contains -/

section ValidatedWith

variable {M : Type} {C : Crypto M}

/-- A parse after `validatePeer`, and the handshake, the sender key and the time bytes it went with. -/
structure PacketParserData.ValidatedWith (ppd : PacketParserData C) (hs : Handshake M)
    (peerPk tsBytes : M) : Prop where
  scheme : hs.scheme = ppd.cipherScheme
  responder : hs.responder = ppd.deviceEcdh.publicKey
  ephermeral : hs.ephermeral = ppd.header.ephermeral
  ss : ppd.deviceEcdh.sharedSecret peerPk = some hs.ss
  remotePubKey : ppd.remotePubKey = some peerPk
  timestamp : hs.openTimestamp C ppd.header.common.counter ppd.header.static ppd.header.timestamp
    = some tsBytes
  time : ppd.connData.lastRemoteSendTime = C.timestampOf tsBytes
  senderTrxId : ppd.senderTrxId = ppd.header.common.counter
  message : ppd.bodyMessage = none
  chainKey4 : ppd.chainKey = hs.chainKey4 C ppd.header.timestamp
  header : ppd.header = ppd.basePacket.cast ppd.cipherScheme
  body : ppd.openBody = hs.openBody C ppd.header.common.counter ppd.header.static
    ppd.header.timestamp (ppd.basePacket.payload ppd.cipherScheme)

variable [DecidableEq M]

/-- A packet that passes is validated with the handshake it passes with. -/
theorem PacketData.Passes.validatedWith {d d' : Device C} {pd : PacketData C} {nowMilli : Int64}
    {hs : Handshake M} {peerPk tsBytes : M} (h : pd.Passes d nowMilli hs peerPk tsBytes d') :
    (pd.passed d hs peerPk tsBytes d').ValidatedWith hs peerPk tsBytes ∧
      (pd.passed d hs peerPk tsBytes d').basePacket = pd.basePacket := by
  obtain ⟨hheader, hscheme, hpacket, -⟩ := pd.checked_eq d
  have hhs := h.handshake
  have hecdh : (pd.passed d hs peerPk tsBytes d').deviceEcdh = (pd.checked d).deviceEcdh :=
    PacketParserData.admitPeer_ecdh h.admitted _
  have htrx : (pd.checked d).senderTrxId = (pd.checked d).header.common.counter := rfl
  have hss : hs.scheme = (pd.checked d).cipherScheme := by rw [hhs]; rfl
  refine ⟨⟨hss, ?_, ?_, ?_, rfl, h.timestamp, rfl, htrx, rfl, rfl, ?_, ?_⟩, hpacket⟩
  · rw [hecdh, hhs]
    rfl
  · rw [hhs]
    rfl
  · rw [hecdh]
    exact h.ss
  · show (pd.checked d).header = (pd.checked d).basePacket.cast (pd.checked d).cipherScheme
    rw [hheader, hscheme, hpacket]
  · show C.aeadOpen _ _ _ ((pd.checked d).basePacket.payload (pd.checked d).header.scheme) _ = _
    rw [PacketParserData.ciphers]
    show C.aeadOpen (newCipherSuite (pd.checked d).cipherScheme).gcmType _ _ _
      (C.hash (newCipherSuite (pd.checked d).cipherScheme).hashType _) = _
    rw [← hss, show (pd.checked d).header.scheme = (pd.checked d).cipherScheme by
      rw [hheader, hscheme]; rfl]
    rfl

end ValidatedWith

/-! ## Events -/

variable {A : Type} [DecidableEq A]

/-- A packet sent, or a packet accepted: the parse after `validatePeer` and the one after
    `decryptBody`. -/
inductive Event (A : Type) [DecidableEq A]
  | sent (mad : MsgAssemblerData (symbolic A))
  | accepted (ppd₂ ppd : PacketParserData (symbolic A))

namespace Event

/-- What an event puts on the wire. -/
def wire : Event A → List (SymTerm A)
  | sent mad => mad.wire
  | accepted _ _ => []

/-- The ciphertexts an event's device sealed. -/
def seals : Event A → List (SymTerm A)
  | sent mad => [mad.header.static, mad.header.timestamp] ++ mad.body.toList
  | accepted _ _ => []

end Event

/-- What the attacker has after a run. -/
def known (honest : Set A) (tr : List (Event A)) : Set (SymTerm A) :=
  {t | (∃ a ∉ honest, t = .priv a) ∨ ∃ ev ∈ tr, t ∈ ev.wire}

/-- The ciphertexts the devices sealed in a run. -/
def seals (tr : List (Event A)) : Set (SymTerm A) := {t | ∃ ev ∈ tr, t ∈ ev.seals}

/-- A packet whose fields the attacker can derive. -/
structure Packet.DerivableFrom (pkt : Packet (SymTerm A)) (known : Set (SymTerm A)) : Prop where
  ephermeral : ∀ scheme, Derivable known (pkt.fields scheme).ephermeral
  identity : ∀ scheme, Derivable known (pkt.fields scheme).identity
  static : ∀ scheme, Derivable known (pkt.fields scheme).static
  timestamp : ∀ scheme, Derivable known (pkt.fields scheme).timestamp
  hmac : ∀ scheme, Derivable known (pkt.fields scheme).hmac
  payload : ∀ scheme, Derivable known (pkt.payload scheme)

/-- The runs, for a set of honest private keys.  Messages and the previous content of pool buffers are
    data the attacker may know or choose. -/
inductive Run (honest : Set A) : List (Event A) → Prop
  | nil : Run honest []
  | send {tr : List (Event A)} {d : Device (symbolic A)} {md : MsgData (symbolic A)}
      {rnd : Entropy (symbolic A)} {buf : Packet (SymTerm A)} {now : Int64} {preamble : UInt32}
      {mad : MsgAssemblerData (symbolic A)} (hrun : Run honest tr)
      (hprev : ∀ ppd, md.prevParserData = some ppd → ∃ ppd₂, Event.accepted ppd₂ ppd ∈ tr)
      (hmessage : Derivable (known honest tr) md.message)
      (hbuf : buf.DerivableFrom (known honest tr))
      (h : (createMsgAssemblerData d md rnd buf now).encrypt preamble = .ok mad) :
      Run honest (.sent mad :: tr)
  | receive {tr : List (Event A)} {d : Device (symbolic A)} {pd : PacketData (symbolic A)}
      {nowMilli now : Int64} {ppd₁ ppd₂ ppd : PacketParserData (symbolic A)} (hrun : Run honest tr)
      (hprev : ∀ mad, pd.prevAssemblerData = some mad → Event.sent mad ∈ tr)
      (hpacket : pd.basePacket.DerivableFrom (known honest tr))
      (hcreate : createPacketParserData d pd = .ok ppd₁)
      (hvalid : ppd₁.validatePeer nowMilli now = (ppd₂, .ok ()))
      (hbody : ppd₂.decryptBody = (ppd, .ok ())) : Run honest (.accepted ppd₂ ppd :: tr)

/-- Seals are never forgotten. -/
theorem seals_mono (ev : Event A) (tr : List (Event A)) : seals tr ⊆ seals (ev :: tr) :=
  fun _ ⟨ev', hmem, h⟩ => ⟨ev', List.mem_cons_of_mem _ hmem, h⟩

/-! ## The invariant -/

variable {honest : Set A} {tr : List (Event A)}

/-- What an assembly starts with: the message it is given and the identity field of its buffer. -/
theorem createMsgAssemblerData_public (d : Device (symbolic A)) (md : MsgData (symbolic A))
    (rnd : Entropy (symbolic A)) (buf : Packet (SymTerm A)) (now : Int64) :
    (createMsgAssemblerData d md rnd buf now).bodyMessage = md.message ∧
      ∃ scheme, (createMsgAssemblerData d md rnd buf now).header.identity
        = (buf.fields scheme).identity := by
  cases hprev : md.prevParserData with
  | none =>
    rw [createMsgAssemblerData_of_none hprev]
    exact ⟨rfl, _, rfl⟩
  | some ppd =>
    rw [createMsgAssemblerData_of_some hprev]
    exact ⟨rfl, _, rfl⟩

/-- A seal whose text is safe is safe, once it is recorded. -/
theorem safe_seal {g : GcmType} {key nonce text ad : SymTerm A}
    (hmem : Term.aead g key nonce text ad ∈ seals tr) (htext : Safe honest (seals tr) text) :
    Safe honest (seals tr) (.aead g key nonce text ad) :=
  ⟨fun _ => hmem, fun _ => htext⟩

/-- A public key gives nothing away. -/
theorem safe_publicKey (e : Ecdh (symbolic A)) : Safe honest (seals tr) e.publicKey := by
  obtain ⟨a, -, hpk⟩ := e.exists_atom
  rw [hpk]
  trivial

/-- What a send puts on the wire is safe when its identity field is, and its message or the body key. -/
theorem safe_wire {mad : MsgAssemblerData (symbolic A)} {hs : Handshake (SymTerm A)}
    (hsent : mad.SentWith hs) (hmem : Event.sent mad ∈ tr)
    (hid : Safe honest (seals tr) mad.header.identity)
    (htext : ¬ Guarded honest (hs.bodyKey (symbolic A) mad.header.timestamp) →
      Safe honest (seals tr) mad.bodyText) :
    ∀ t ∈ mad.wire, Safe honest (seals tr) t := by
  have hseals : ∀ t ∈ (Event.sent mad).seals, t ∈ seals tr := fun t ht => ⟨_, hmem, ht⟩
  have hstatic : Safe honest (seals tr) mad.header.static := by
    have hin := hseals mad.header.static (by simp [Event.seals])
    rw [hsent.static] at hin ⊢
    exact safe_seal hin (safe_publicKey _)
  have hts : Safe honest (seals tr) mad.header.timestamp := by
    have hin := hseals mad.header.timestamp (by simp [Event.seals])
    rw [hsent.timestamp] at hin ⊢
    exact safe_seal hin trivial
  have heph : Safe honest (seals tr) mad.header.ephermeral := by
    rw [hsent.ephermeralEcdh]
    exact safe_publicKey _
  have hhmac : Safe honest (seals tr) mad.header.hmac := by
    obtain ⟨ws, hws⟩ := hsent.hmac
    rw [hws]
    trivial
  intro t ht
  simp only [MsgAssemblerData.wire, Header.macInput, List.cons_append, List.nil_append,
    List.mem_cons, Option.mem_toList] at ht
  rcases ht with rfl | rfl | rfl | rfl | rfl | rfl | hbody
  · trivial
  · exact heph
  · exact hid
  · exact hstatic
  · exact hts
  · exact hhmac
  · have hin := hseals t (by simp [Event.seals, hbody])
    rw [hsent.body t hbody] at hin ⊢
    exact ⟨fun _ => hin, htext⟩

/-- An event whose own wire is safe keeps everything safe. -/
theorem safe_cons {ev : Event A} (ih : ∀ t ∈ known honest tr, Safe honest (seals tr) t)
    (hev : ∀ t ∈ ev.wire, Safe honest (seals (ev :: tr)) t) :
    ∀ t ∈ known honest (ev :: tr), Safe honest (seals (ev :: tr)) t := by
  rintro t (⟨a, ha, rfl⟩ | ⟨ev', hmem, ht⟩)
  · exact ha
  · rcases List.mem_cons.mp hmem with rfl | hmem
    · exact hev t ht
    · exact (ih t (.inr ⟨ev', hmem, ht⟩)).mono (seals_mono ev tr)

/-- **The invariant of runs**: whatever the attacker has is safe. -/
theorem Run.safe (hrun : Run honest tr) : ∀ t ∈ known honest tr, Safe honest (seals tr) t := by
  induction hrun with
  | nil =>
    rintro t (⟨a, ha, rfl⟩ | ⟨ev, hmem, -⟩)
    · exact ha
    · cases hmem
  | @send tr d md rnd buf now preamble mad hrun hprev hmessage hbuf h ih =>
    obtain ⟨hs, hsent, -, hfrom⟩ := (createMsgAssemblerData_ready d md rnd buf now).encrypt_eq_ok h
    obtain ⟨hmsg, scheme, hidentity⟩ := createMsgAssemblerData_public d md rnd buf now
    refine safe_cons ih (safe_wire hsent List.mem_cons_self ?_ fun _ => ?_)
    · rw [hfrom.identity, hidentity]
      exact ((hbuf.identity scheme).safe ih).mono (seals_mono _ _)
    · have hsafe := (hmessage.safe ih).mono (seals_mono (Event.sent mad) tr)
      rw [hfrom.bodyText, MsgAssemblerData.bodyText, hmsg]
      split
      · exact hsafe
      · exact hsafe
  | receive hrun hprev hpacket hcreate hvalid hbody ih => exact safe_cons ih fun _ ht => absurd ht List.not_mem_nil

/-! ## Where a seal comes from -/

/-- What an event of a run is: a complete packet with its handshake, or a validated parse and what
    `decryptBody` made of it. -/
def Event.Genuine : Event A → Prop
  | sent mad => ∃ hs, mad.SentWith hs
  | accepted ppd₂ ppd =>
    (∃ hs peerPk tsBytes, ppd₂.ValidatedWith hs peerPk tsBytes) ∧ ppd₂.decryptBody = (ppd, .ok ())

/-- Each event of a run is what the code does. -/
theorem Run.genuine (hrun : Run honest tr) : ∀ ev ∈ tr, ev.Genuine := by
  induction hrun with
  | nil =>
    intro ev hmem
    cases hmem
  | @send tr d md rnd buf now preamble mad hrun hprev hmessage hbuf h ih =>
    obtain ⟨hs, hsent, -⟩ := (createMsgAssemblerData_ready d md rnd buf now).encrypt_eq_ok h
    exact List.forall_mem_cons.mpr ⟨⟨hs, hsent⟩, ih⟩
  | receive hrun hprev hpacket hcreate hvalid hbody ih =>
    obtain ⟨-, hs, peerPk, tsBytes, d', hpasses, rfl⟩ := validated_iff.mp ⟨_, hcreate, hvalid⟩
    exact List.forall_mem_cons.mpr ⟨⟨⟨hs, peerPk, tsBytes, hpasses.validatedWith.1⟩, hbody⟩, ih⟩

/-- A seal of a run is one of the three seals of a packet sent in it. -/
theorem Run.sent_of_seal (hrun : Run honest tr) {t : SymTerm A} (h : t ∈ seals tr) :
    ∃ mad hs, Event.sent mad ∈ tr ∧ mad.SentWith hs ∧
      (t = mad.header.static ∨ t = mad.header.timestamp ∨ mad.body = some t) := by
  obtain ⟨ev, hmem, ht⟩ := h
  cases ev with
  | sent mad =>
    obtain ⟨hs, hsent⟩ := hrun.genuine _ hmem
    exact ⟨mad, hs, hmem, hsent, by simpa [Event.seals, or_assoc] using ht⟩
  | accepted ppd₂ ppd => cases ht

end OpenNHP.Core
