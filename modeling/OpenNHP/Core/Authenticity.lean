/-
  Who wrote an accepted packet.

  THE SPECIFICATION.  A device that accepts a packet as sent under an honest key, with an honest key of its own,
  accepts what a device with that key assembled for it (`MsgAssemblerData.Originates`): the whole of it for a
  packet with a body (`body_authentic`), and for any packet its handshake and its send time
  (`header_authentic`).

  THE CRUX.  The timestamp and the body are sealed under keys that the secret of the two static keys has been
  mixed into.  When both static keys are honest those keys are guarded, so a timestamp or a body that opens is
  a seal of some device (`Run.sent_of_seal`), and a seal tells the whole handshake it was made in: the packet
  continues one that a device with the initiator's key assembled for the responder.

  WHERE IT FAILS.  The rest of the header is under an HMAC of public values only; what can be done with that is in
  `OpenNHP.Core.HeaderRewrite`.
-/
import OpenNHP.Core.HeaderRewrite

namespace OpenNHP.Core

open Symbolic

/-! ## Authenticity of the seals -/

variable {A : Type} [DecidableEq A] {honest : Set A} {tr : List (Event A)}

/-- A key pair the attacker does not have. -/
def Ecdh.Honest (honest : Set A) (e : Ecdh (symbolic A)) : Prop := ∃ a ∈ honest, e.privKey = .priv a

/-- Two key pairs with the same secret with a third one are the same. -/
theorem Ecdh.eq_of_sharedSecret {e r i : Ecdh (symbolic A)} {ss : SymTerm A}
    (he : e.eccType = r.eccType) (hi : i.eccType = r.eccType)
    (hes : e.sharedSecret r.publicKey = some ss) (hri : r.sharedSecret i.publicKey = some ss) :
    e = i := by
  obtain ⟨a, ha, -⟩ := e.exists_atom
  obtain ⟨b, hb, -⟩ := r.exists_atom
  obtain ⟨c, hc, -⟩ := i.exists_atom
  have h₁ := sharedSecret_eq_dh ha hb he.symm hes
  have h₂ := sharedSecret_eq_dh hb hc hi hri
  have hac : a = c := by
    have hpair : s(a, b) = s(b, c) := (Term.dh.inj (h₁.symm.trans h₂)).2
    rw [Sym2.eq_swap] at hpair
    exact Sym2.congr_right.mp hpair
  cases e
  cases i
  simp_all

/-- The secret of two honest key pairs is guarded. -/
theorem Ecdh.Honest.guarded {r i : Ecdh (symbolic A)} (hr : r.Honest honest) (hi : i.Honest honest)
    (hecc : i.eccType = r.eccType) {ss : SymTerm A} (h : r.sharedSecret i.publicKey = some ss) :
    Guarded honest ss := by
  obtain ⟨b, hb, hrb⟩ := hr
  obtain ⟨c, hc, hic⟩ := hi
  rw [sharedSecret_eq_dh hrb hic hecc h]
  intro a ha
  rcases Sym2.mem_iff.mp ha with rfl | rfl
  · exact hb
  · exact hc

/-- The packet `mad` is what a device with the key pair `initiator` sent to the key of the parse `ppd`,
    with the scheme, counter, ephemeral key, static field, timestamp field and time that `ppd` read. -/
structure MsgAssemblerData.Originates (mad : MsgAssemblerData (symbolic A))
    (initiator : Ecdh (symbolic A)) (ppd : PacketParserData (symbolic A)) : Prop where
  initiator : mad.deviceEcdh = initiator
  responder : mad.remotePubKey = some ppd.deviceEcdh.publicKey
  cipherScheme : mad.cipherScheme = ppd.cipherScheme
  counter : mad.header.common.counter = ppd.senderTrxId
  ephermeral : mad.header.ephermeral = ppd.header.ephermeral
  static : mad.header.static = ppd.header.static
  timestamp : mad.header.timestamp = ppd.header.timestamp
  time : mad.localInitTime = ppd.connData.lastRemoteSendTime

/-- A sent packet and a validated one that ran the same handshake with the same counter, static field,
    timestamp field and time belong together. -/
theorem MsgAssemblerData.SentWith.originates {mad : MsgAssemblerData (symbolic A)}
    {hs : Handshake (SymTerm A)} {ppd : PacketParserData (symbolic A)} {tsBytes : SymTerm A}
    {initiator : Ecdh (symbolic A)} (hsent : mad.SentWith hs)
    (hvalid : ppd.ValidatedWith hs initiator.publicKey tsBytes)
    (hecc : initiator.eccType = ppd.deviceEcdh.eccType)
    (hcounter : mad.header.common.counter = ppd.header.common.counter)
    (hstatic : mad.header.static = ppd.header.static)
    (hts : mad.header.timestamp = ppd.header.timestamp)
    (htime : (symbolic A).timestampBytes mad.localInitTime = tsBytes) :
    mad.Originates initiator ppd := by
  have hscheme : mad.cipherScheme = ppd.cipherScheme := hsent.scheme.symm.trans hvalid.scheme
  refine ⟨?_, ?_, hscheme, hcounter.trans hvalid.senderTrxId.symm,
    hsent.ephermeral.symm.trans hvalid.ephermeral, hstatic, hts, ?_⟩
  · have hss := hsent.ss
    rw [hvalid.responder] at hss
    refine Ecdh.eq_of_sharedSecret ?_ hecc hss hvalid.ss
    rw [MsgAssemblerData.deviceEcdh, PacketParserData.deviceEcdh, hscheme,
      Device.getEcdhByCipherScheme_eccType, Device.getEcdhByCipherScheme_eccType]
  · rw [hsent.responder, hvalid.responder]
  · rw [hvalid.time, ← htime, symbolic_lawful.timestampOf_timestampBytes]

variable {ppd : PacketParserData (symbolic A)} {hs : Handshake (SymTerm A)} {tsBytes : SymTerm A}
  {initiator : Ecdh (symbolic A)}

/-- A derivable timestamp that opens was sealed by the initiator. -/
theorem Run.timestamp_originates (hrun : Run honest tr)
    (hvalid : ppd.ValidatedWith hs initiator.publicKey tsBytes)
    (hecc : initiator.eccType = ppd.deviceEcdh.eccType) (hss : Guarded honest hs.ss)
    (hder : Derivable (known honest tr) ppd.header.timestamp) :
    ∃ mad, Event.sent mad ∈ tr ∧ mad.Originates initiator ppd := by
  have hts : ppd.header.timestamp = hs.sealTimestamp (symbolic A) ppd.header.common.counter
      ppd.header.static tsBytes := SymTerm.aeadOpen_eq_some.mp hvalid.timestamp
  have hseal : ppd.header.timestamp ∈ seals tr := by
    rw [hts] at hder ⊢
    exact hder.sealed hrun.safe (Handshake.guarded_timestampKey hss)
  obtain ⟨mad, hs', hmem, hsent, hstatic | htimestamp | hbody⟩ := hrun.sent_of_seal hseal
  · rw [hts, hsent.static] at hstatic
    exact absurd hstatic.symm Handshake.sealStatic_ne_sealTimestamp
  · rw [hts, hsent.timestamp] at htimestamp
    obtain ⟨rfl, hcounter, hstatic, htime⟩ := Handshake.sealTimestamp_injective htimestamp
    refine ⟨mad, hmem, hsent.originates hvalid hecc hcounter.symm hstatic.symm ?_ htime.symm⟩
    rw [hts, hsent.timestamp, hcounter, hstatic, htime]
  · have hsealed := hsent.body _ hbody
    rw [hts] at hsealed
    exact absurd hsealed Handshake.sealTimestamp_ne_sealBody

/-- A derivable body that opens was sealed by the initiator, as the body of the same packet. -/
theorem Run.body_originates (hrun : Run honest tr)
    (hvalid : ppd.ValidatedWith hs initiator.publicKey tsBytes)
    (hecc : initiator.eccType = ppd.deviceEcdh.eccType) (hss : Guarded honest hs.ss) {text : SymTerm A}
    (hopen : ppd.openBody = some text)
    (hder : Derivable (known honest tr) (ppd.basePacket.payload ppd.cipherScheme)) :
    ∃ mad, Event.sent mad ∈ tr ∧ mad.Originates initiator ppd ∧ mad.bodyText = text ∧
      mad.body = some (ppd.basePacket.payload ppd.cipherScheme) := by
  have hpayload : ppd.basePacket.payload ppd.cipherScheme = hs.sealBody (symbolic A)
      ppd.header.common.counter ppd.header.static ppd.header.timestamp text := by
    rw [hvalid.body] at hopen
    exact SymTerm.aeadOpen_eq_some.mp hopen
  have hts : ppd.header.timestamp = hs.sealTimestamp (symbolic A) ppd.header.common.counter
      ppd.header.static tsBytes := SymTerm.aeadOpen_eq_some.mp hvalid.timestamp
  have hseal : ppd.basePacket.payload ppd.cipherScheme ∈ seals tr := by
    rw [hpayload] at hder ⊢
    exact hder.sealed hrun.safe (Handshake.guarded_bodyKey hss _)
  obtain ⟨mad, hs', hmem, hsent, hstatic | htimestamp | hbody⟩ := hrun.sent_of_seal hseal
  · rw [hpayload, hsent.static] at hstatic
    exact absurd hstatic.symm Handshake.sealStatic_ne_sealBody
  · rw [hpayload, hsent.timestamp] at htimestamp
    exact absurd htimestamp.symm Handshake.sealTimestamp_ne_sealBody
  · have hsealed := hsent.body _ hbody
    rw [hpayload] at hsealed
    obtain ⟨rfl, hcounter, hstatic, htimestamp, htext⟩ := Handshake.sealBody_injective hsealed
    have htime := hsent.timestamp
    rw [← htimestamp, hts] at htime
    obtain ⟨-, -, -, htime⟩ := Handshake.sealTimestamp_injective htime
    exact ⟨mad, hmem, hsent.originates hvalid hecc hcounter.symm hstatic.symm htimestamp.symm
      htime.symm, htext.symm, hbody⟩

/-! ## Authenticity of an accepted packet -/

/-- Opening the body changes nothing of where the packet came from. -/
theorem MsgAssemblerData.Originates.decryptBody {mad : MsgAssemblerData (symbolic A)}
    {ppd' : PacketParserData (symbolic A)} (h : mad.Originates initiator ppd)
    (hbody : ppd.decryptBody = (ppd', .ok ())) : mad.Originates initiator ppd' := by
  obtain ⟨-, rfl⟩ | ⟨-, text, m, -, -, rfl⟩ := PacketParserData.decryptBody_eq_ok.mp hbody
  · exact ⟨h.1, h.2, h.3, h.4, h.5, h.6, h.7, h.8⟩
  · exact ⟨h.1, h.2, h.3, h.4, h.5, h.6, h.7, h.8⟩

/-- The key pair of a device for the scheme of a parse is one of the parse's curve. -/
theorem initiator_eccType (d : Device (symbolic A)) (ppd : PacketParserData (symbolic A)) :
    (d.getEcdhByCipherScheme ppd.cipherScheme).eccType = ppd.deviceEcdh.eccType := by
  rw [PacketParserData.deviceEcdh, Device.getEcdhByCipherScheme_eccType,
    Device.getEcdhByCipherScheme_eccType]

/-- What is known of a packet accepted from an honest initiator by an honest responder before its seals are
    looked at: it was validated with a guarded secret, and the attacker derived it. -/
theorem Run.accepted {ppd₂ : PacketParserData (symbolic A)}
    (hrun : Run honest (.accepted ppd₂ ppd :: tr)) (hecc : initiator.eccType = ppd.deviceEcdh.eccType)
    (hinitiator : initiator.Honest honest) (hresponder : ppd.deviceEcdh.Honest honest)
    (hfrom : ppd.remotePubKey = some initiator.publicKey) :
    Run honest tr ∧ ppd₂.decryptBody = (ppd, .ok ()) ∧ initiator.eccType = ppd₂.deviceEcdh.eccType ∧
      ppd₂.basePacket.DerivableFrom (known honest tr) ∧
      ∃ hs tsBytes, ppd₂.ValidatedWith hs initiator.publicKey tsBytes ∧ Guarded honest hs.ss := by
  cases hrun with
  | receive hrun hprev hpacket hcreate hvalid hbody =>
    obtain ⟨-, hs, peerPk, tsBytes, d', hpasses, rfl⟩ := validated_iff.mp ⟨_, hcreate, hvalid⟩
    obtain ⟨hvalidated, hbase⟩ := hpasses.validatedWith
    refine ⟨hrun, hbody, ?_, hbase ▸ hpacket, hs, tsBytes, ?_⟩
    · obtain ⟨-, rfl⟩ | ⟨-, text, m, -, -, rfl⟩ := PacketParserData.decryptBody_eq_ok.mp hbody
      · exact hecc
      · exact hecc
    · obtain ⟨-, rfl⟩ | ⟨-, text, m, -, -, rfl⟩ := PacketParserData.decryptBody_eq_ok.mp hbody
      all_goals
        obtain rfl : peerPk = _ := Option.some.inj (hvalidated.remotePubKey.symm.trans hfrom)
        exact ⟨hvalidated, hresponder.guarded hinitiator hecc hvalidated.ss⟩

/-- **Header authenticity.**  Take any run, and a packet accepted in it at a device whose key is honest,
    with the key of an honest initiator.  A device with the initiator's key sent a packet to this device
    with the same scheme, counter, ephemeral key, static field, timestamp field and time; and the accepted
    packet has no body, or exactly the body of that packet. -/
theorem header_authentic {ppd₂ : PacketParserData (symbolic A)}
    (hrun : Run honest (.accepted ppd₂ ppd :: tr)) (initiator : Device (symbolic A))
    (hinitiator : (initiator.getEcdhByCipherScheme ppd.cipherScheme).Honest honest)
    (hresponder : ppd.deviceEcdh.Honest honest)
    (hfrom : ppd.remotePubKey = some (initiator.getEcdhByCipherScheme ppd.cipherScheme).publicKey) :
    ∃ mad, Event.sent mad ∈ tr ∧
      mad.Originates (initiator.getEcdhByCipherScheme ppd.cipherScheme) ppd ∧
      (ppd.basePacket.len = ppd.header.size ∨
        mad.body = some (ppd.basePacket.payload ppd.cipherScheme)) := by
  obtain ⟨hrun', hbody, hecc, hpacket, hs, tsBytes, hvalid, hss⟩ :=
    hrun.accepted (initiator_eccType initiator ppd) hinitiator hresponder hfrom
  obtain ⟨hempty, rfl⟩ | ⟨-, text, m, hopen, -, rfl⟩ := PacketParserData.decryptBody_eq_ok.mp hbody
  · have hder : Derivable (known honest tr) ppd₂.header.timestamp := by
      rw [hvalid.header]
      exact hpacket.timestamp _
    obtain ⟨mad, hmem, horigin⟩ := hrun'.timestamp_originates hvalid hecc hss hder
    exact ⟨mad, hmem, horigin.decryptBody hbody, .inl hempty⟩
  · obtain ⟨mad, hmem, horigin, -, hmad⟩ :=
      hrun'.body_originates hvalid hecc hss hopen (hpacket.payload _)
    exact ⟨mad, hmem, horigin.decryptBody hbody, .inr hmad⟩

/-- The knock of the sample run, rewritten to a list request without a body, still names the knock. -/
theorem header_authentic_sample :
    ∃ tr ppd₂ ppd mad, Run {Party.initiator, .responder} (.accepted ppd₂ ppd :: tr) ∧
      Event.sent mad ∈ tr ∧
      mad.Originates ((Party.initiator.device .agent).getEcdhByCipherScheme ppd.cipherScheme) ppd ∧
      (ppd.basePacket.len = ppd.header.size ∨
        mad.body = some (ppd.basePacket.payload ppd.cipherScheme)) := by
  obtain ⟨mad, hs, hsent, h⟩ := knock_sent (.nil : Run {Party.initiator, .responder} []) 0
  obtain ⟨ppd₂, ppd, hrun, hecdh, hcut⟩ := h.rewrite hsent List.mem_cons_self .lst (.inl rfl)
  have hscheme : ppd.cipherScheme = .gmsm := hcut.cipherScheme.trans h.cipherScheme
  have hfrom := hcut.remotePubKey.trans (congrArg some h.initiator)
  have hinitiator : ((Party.initiator.device .agent).getEcdhByCipherScheme ppd.cipherScheme).Honest
      {Party.initiator, .responder} := by
    rw [hscheme]
    exact ⟨.initiator, .inl rfl, rfl⟩
  have hresponder : ppd.deviceEcdh.Honest {Party.initiator, .responder} := by
    rw [hecdh]
    exact ⟨.responder, .inr rfl, rfl⟩
  obtain ⟨mad', hmem, horigin, hbody⟩ := header_authentic hrun (Party.initiator.device .agent)
    hinitiator hresponder (by rw [hfrom, hscheme]; rfl)
  exact ⟨_, ppd₂, ppd, mad', hrun, hmem, horigin, hbody⟩

/-- **Body authenticity.**  Take any run, and a packet with a body accepted in it at a device whose key is
    honest, with the key of an honest initiator.  Before, a device with the initiator's key ran
    `setPeerPublicKey` and `encryptBody` to this device's key, and sealed exactly the text the body opened
    to, under the same counter, ephemeral key and timestamp. -/
theorem body_authentic {ppd₂ : PacketParserData (symbolic A)}
    (hrun : Run honest (.accepted ppd₂ ppd :: tr)) (initiator : Device (symbolic A))
    (hinitiator : (initiator.getEcdhByCipherScheme ppd.cipherScheme).Honest honest)
    (hresponder : ppd.deviceEcdh.Honest honest)
    (hfrom : ppd.remotePubKey = some (initiator.getEcdhByCipherScheme ppd.cipherScheme).publicKey)
    (hbody : ppd.bodyMessage ≠ none) :
    ∃ mad, Event.sent mad ∈ tr ∧
      mad.Originates (initiator.getEcdhByCipherScheme ppd.cipherScheme) ppd ∧
      mad.body = some (ppd.basePacket.payload ppd.cipherScheme) ∧
      ppd₂.openBody = some mad.bodyText := by
  obtain ⟨hrun', hdecrypt, hecc, hpacket, hs, tsBytes, hvalid, hss⟩ :=
    hrun.accepted (initiator_eccType initiator ppd) hinitiator hresponder hfrom
  obtain ⟨-, rfl⟩ | ⟨-, text, m, hopen, -, rfl⟩ := PacketParserData.decryptBody_eq_ok.mp hdecrypt
  · exact absurd hvalid.message hbody
  · obtain ⟨mad, hmem, horigin, htext, hmad⟩ :=
      hrun'.body_originates hvalid hecc hss hopen (hpacket.payload _)
    exact ⟨mad, hmem, horigin.decryptBody hdecrypt, hmad, hopen.trans (congrArg some htext.symm)⟩

/-- The knock of the sample run, delivered with its body. -/
theorem body_authentic_sample :
    ∃ tr ppd₂ ppd mad, Run {Party.initiator, .responder} (.accepted ppd₂ ppd :: tr) ∧
      Event.sent mad ∈ tr ∧
      mad.Originates ((Party.initiator.device .agent).getEcdhByCipherScheme ppd.cipherScheme) ppd ∧
      mad.body = some (ppd.basePacket.payload ppd.cipherScheme) ∧
      ppd₂.openBody = some mad.bodyText := by
  obtain ⟨mad, hs, hsent, h⟩ := knock_sent (.nil : Run {Party.initiator, .responder} []) 0
  obtain ⟨ppd₂, ppd, hrun, hecdh, hknock⟩ := h.rewrite hsent List.mem_cons_self .knk (.inr rfl)
  have hscheme : ppd.cipherScheme = .gmsm := hknock.cipherScheme.trans h.cipherScheme
  have hfrom := hknock.remotePubKey.trans (congrArg some h.initiator)
  have hinitiator : ((Party.initiator.device .agent).getEcdhByCipherScheme ppd.cipherScheme).Honest
      {Party.initiator, .responder} := by
    rw [hscheme]
    exact ⟨.initiator, .inl rfl, rfl⟩
  have hresponder : ppd.deviceEcdh.Honest {Party.initiator, .responder} := by
    rw [hecdh]
    exact ⟨.responder, .inr rfl, rfl⟩
  have hbody : ppd.bodyMessage ≠ none := by
    obtain ⟨body, hmad⟩ := Option.ne_none_iff_exists'.mp h.body
    rw [hknock.bodyMessage, hmad]
    nofun
  obtain ⟨mad', hmem, horigin, hpayload, hopen⟩ := body_authentic hrun
    (Party.initiator.device .agent) hinitiator hresponder (by rw [hfrom, hscheme]; rfl) hbody
  exact ⟨_, ppd₂, ppd, mad', hrun, hmem, horigin, hpayload, hopen⟩

end OpenNHP.Core
