/-
  Requests and responses.

  THE PROGRAM.  A response continues the handshake of its request: the responder derives its assembly from the
  parse of the request, the initiator derives its parse from the assembly of the request, and both are meant to
  start from the `ChainKey4` of the request, as the comments in `responder.go` and `initiator.go` say.

  WHERE IT FAILS.  By then the deferred functions of `encryptBody` and `decryptBody` have cleared the chain key on
  both sides, so every derived state starts from the zero key (`derived_start_never`).

  THE CRUX.  That the two chain keys differ is a fact of the symbolic libraries: no key derivation gives the zero
  key (`zeroKey_ne_chainKey4`).  What is left of the binding is the counter, which is the nonce of all seals, and
  the scheme: a response that passes in the transaction of a request has these two of it.  It does pass where
  another request has them (`response_accepted_elsewhere`).
-/
import OpenNHP.Core.Authenticity

namespace OpenNHP.Core

open Symbolic

variable {A : Type} [DecidableEq A] {honest : Set A} {tr : List (Event A)}

/-! ## Where derived states start -/

/-- An opened body leaves the zero key behind. -/
theorem PacketParserData.decryptBody_chainKey {M : Type} {C : Crypto M} {ppd ppd' : PacketParserData C}
    (h : ppd.decryptBody = (ppd', .ok ())) : ppd'.chainKey = C.zeroKey := by
  obtain ⟨-, rfl⟩ | ⟨-, text, m, -, -, rfl⟩ := PacketParserData.decryptBody_eq_ok.mp h
  · rfl
  · rfl

/-- A chain key is derived, the zero key is not. -/
theorem zeroKey_ne_chainKey4 (hs : Handshake (SymTerm A)) (ts : SymTerm A) :
    (symbolic A).zeroKey ≠ hs.chainKey4 (symbolic A) ts := by
  show Term.lit _ ≠ Term.hmac _ _ _
  exact nofun

/-- A response passes in the transaction of a request: some packet with the seals of the response and the
    counter of the request is accepted as its answer, in some state of the device `d` (its peers,
    connection and clock). -/
def PassesIn (d : Device (symbolic A)) (res req : MsgAssemblerData (symbolic A)) : Prop :=
  ∃ d' pd nowMilli now ppd, d'.staticEcdhCurve = d.staticEcdhCurve ∧
    d'.staticEcdhGmsm = d.staticEcdhGmsm ∧ pd.prevAssemblerData = some req ∧
    pd.basePacket.common.counter = req.header.common.counter ∧
    (pd.basePacket.fields req.cipherScheme).static = res.header.static ∧
    (pd.basePacket.fields req.cipherScheme).timestamp = res.header.timestamp ∧
    receive d' pd nowMilli now = (some ppd, .ok ())

/-- A packet with the seals of a response opens only under the response's counter and scheme. -/
theorem MsgAssemblerData.SentWith.counter_of_passesIn {d : Device (symbolic A)}
    {res req : MsgAssemblerData (symbolic A)} {hs : Handshake (SymTerm A)} (hsent : res.SentWith hs)
    (h : PassesIn d res req) :
    res.header.common.counter = req.header.common.counter ∧ res.cipherScheme = req.cipherScheme := by
  obtain ⟨d', pd, nowMilli, now, ppd, -, -, hprev, hcounter, -, hts, hreceive⟩ := h
  obtain ⟨-, hs', peerPk, tsBytes, d'', hpasses, -⟩ := receive_eq_ok_iff.mp hreceive
  obtain ⟨hheader, hscheme, -⟩ := pd.checked_eq d'
  have hreq : pd.scheme = req.cipherScheme := by rw [PacketData.scheme, hprev]
  have hopen := SymTerm.aeadOpen_eq_some.mp hpasses.timestamp
  have hhs : hs'.scheme = req.cipherScheme := by
    rw [hpasses.handshake, ← hreq, ← hscheme]
    rfl
  rw [hheader, hreq, show (pd.basePacket.cast req.cipherScheme).timestamp = res.header.timestamp from
    hts, hsent.timestamp] at hopen
  obtain ⟨rfl, hcount, -⟩ := Handshake.sealTimestamp_injective hopen
  refine ⟨hcount.trans hcounter, ?_⟩
  rw [← hsent.scheme, hhs]

/-- **Derived states.**  In every run: no message derived from an accepted packet starts from the
    `ChainKey4` that `validatePeer` reached for it, and no parse derived from a sent packet starts from the
    `ChainKey4` that `setPeerPublicKey` reached for it.  A response is bound to the counter and the scheme
    of its request all the same. -/
theorem derived_start_never (hrun : Run honest tr) :
    (∀ ppd₂ ppd, Event.accepted ppd₂ ppd ∈ tr → ∀ t compress message buf,
      (ppd.deriveMsgAssemblerData t compress message buf).chainKey ≠ ppd₂.chainKey) ∧
    (∀ mad, Event.sent mad ∈ tr → ∀ d pd ppd, mad.derivePacketParserData d pd = .ok ppd →
      mad.chainKeys.getLast? ≠ some ppd.chainKey) ∧
    (∀ res, Event.sent res ∈ tr → ∀ d req, PassesIn d res req →
      res.header.common.counter = req.header.common.counter ∧
        res.cipherScheme = req.cipherScheme) := by
  refine ⟨?_, ?_, ?_⟩
  · intro ppd₂ ppd hmem t compress message buf
    obtain ⟨⟨hs, peerPk, tsBytes, hvalid⟩, hbody⟩ := hrun.genuine _ hmem
    show ppd.chainKey ≠ ppd₂.chainKey
    rw [PacketParserData.decryptBody_chainKey hbody, hvalid.chainKey4]
    exact zeroKey_ne_chainKey4 hs _
  · intro mad hmem d pd ppd hderive
    obtain ⟨hs, hsent⟩ := hrun.genuine _ hmem
    obtain ⟨-, rfl⟩ := MsgAssemblerData.derivePacketParserData_eq_ok.mp hderive
    rw [hsent.chainKey4]
    show some _ ≠ some mad.chainKey
    rw [hsent.cleared, ne_eq, Option.some.injEq]
    exact (zeroKey_ne_chainKey4 hs _).symm
  · intro res hmem d req hpasses
    obtain ⟨hs, hsent⟩ := hrun.genuine _ hmem
    exact hsent.counter_of_passesIn hpasses

/-- An answer to an accepted knock starts from another chain key than the one the knock left. -/
theorem derived_start_sample :
    ∃ tr ppd₂ ppd, Run {Party.initiator, .responder} tr ∧ Event.accepted ppd₂ ppd ∈ tr ∧
      (ppd.deriveMsgAssemblerData .ack false (.lit [104, 105]) zeroBuffer).chainKey
        ≠ ppd₂.chainKey := by
  obtain ⟨mad, hs, hsent, h⟩ := knock_sent (.nil : Run {Party.initiator, .responder} []) 0
  obtain ⟨ppd₂, ppd, hrun, -, -⟩ := h.rewrite hsent List.mem_cons_self .knk (.inr rfl)
  exact ⟨_, ppd₂, ppd, hrun, List.mem_cons_self,
    (derived_start_never hrun).1 _ _ List.mem_cons_self _ _ _ _⟩

/-! ## A response in another transaction -/

/-- An answer to an accepted packet, sent by the device that accepted it. -/
theorem answer_sent {honest : Set Party} {tr : List (Event Party)} (hrun : Run honest tr)
    {ppd₂ ppd : PacketParserData (symbolic Party)} (hmem : Event.accepted ppd₂ ppd ∈ tr)
    (hscheme : ppd.cipherScheme = .gmsm)
    (hfrom : ppd.remotePubKey = some (Party.initiator.ecdh .sm2).publicKey) (n : Nat) :
    ∃ res hs, Run honest (.sent res :: tr) ∧ res.SentWith hs ∧ hs.base = ppd.chainKey ∧
      res.EncryptedFrom (createMsgAssemblerData ppd.device
        { sampleKnock with prevParserData := some ppd, headerType := .ack, compress := false }
        (sessionEntropy n) zeroBuffer 1000000000000) := by
  set md : MsgData (symbolic Party) :=
    { sampleKnock with prevParserData := some ppd, headerType := .ack, compress := false } with hmd
  have hready := createMsgAssemblerData_ready ppd.device md (sessionEntropy n) zeroBuffer 1000000000000
  have hecc : EccType.sm2 = (newCipherSuite ppd.cipherScheme).eccType := by
    rw [hscheme]
    rfl
  have hfits : SymTerm.len (.lit [104, 105] : SymTerm Party) + gcmTagSize
      ≤ packetBufferSize - headerSize ppd.cipherScheme := by
    rw [hscheme]
    decide
  obtain ⟨ess, ss, -, -, hencrypt⟩ := hready.toBegun.encrypt symbolic_lawful
    (e := Party.initiator.ecdh .sm2) hecc hfrom (.inr hfits) 5
  obtain ⟨hs, hsent, hbase, hkept⟩ := hready.encrypt_eq_ok hencrypt
  refine ⟨_, hs, .send hrun ?_ (.lit _) (zeroBuffer_derivable _) hencrypt, hsent, hbase, hkept⟩
  intro ppd' h
  cases h
  exact ⟨ppd₂, hmem⟩

/-- **A misplaced response.**  The initiator knocks, the responder accepts the knock and answers it.  The
    initiator knocks again with the same counter, as after a restart, and the answer to the first knock
    passes in the transaction of the second. -/
theorem response_accepted_elsewhere :
    ∃ reqA ppd₂ ppdA res reqB, Run {Party.initiator, .responder}
        [.sent reqB, .sent res, .accepted ppd₂ ppdA, .sent reqA] ∧
      ppdA.header.ephermeral = reqA.header.ephermeral ∧
      reqA.header.ephermeral ≠ reqB.header.ephermeral ∧
      res.EncryptedFrom (createMsgAssemblerData ppdA.device
        { sampleKnock with prevParserData := some ppdA, headerType := .ack, compress := false }
        (sessionEntropy 1) zeroBuffer 1000000000000) ∧
      PassesIn (Party.initiator.device .agent) res reqB := by
  obtain ⟨reqA, hsA, hsentA, hA⟩ := knock_sent (.nil : Run {Party.initiator, .responder} []) 0
  obtain ⟨ppd₂, ppdA, haccepted, hecdh, hknock⟩ := hA.rewrite hsentA List.mem_cons_self .knk (.inr rfl)
  have hscheme : ppdA.cipherScheme = .gmsm := hknock.cipherScheme.trans hA.cipherScheme
  have hfrom := hknock.remotePubKey.trans (congrArg some hA.initiator)
  obtain ⟨res, hs, hsentR, hsent, hbase, hkept⟩ :=
    answer_sent haccepted List.mem_cons_self hscheme hfrom 1
  obtain ⟨reqB, hsB, hsentB, hB⟩ := knock_sent hsentR 2
  refine ⟨reqA, ppd₂, ppdA, res, reqB, hsentB, hknock.ephermeral, ?_, hkept, ?_⟩
  · rw [hA.ephermeral, hB.ephermeral]
    intro h
    cases (Term.pub.inj h).2
  -- The answer fits the second knock as it does the first: same counter, and a chain that starts at the zero key
  -- in both.
  · have hres : res.cipherScheme = .gmsm := hkept.cipherScheme.trans hscheme
    have hcounter : (rewrittenCommon .ack).counter = res.header.common.counter := by
      have hkeep : res.header.common.counter = ppdA.senderTrxId := hkept.counter
      rw [hkeep, hknock.senderTrxId, rewrittenCommon, rewrittenCommon,
        HeaderCommon.setTypeAndPayloadSize_counter, HeaderCommon.setTypeAndPayloadSize_counter]
    have hkey : hs.responder
        = ((Party.initiator.device .agent).getEcdhByCipherScheme res.cipherScheme).publicKey := by
      have hpk := hsent.responder
      rw [hkept.remotePubKey] at hpk
      rw [hres]
      exact (Option.some.inj (hfrom.symm.trans hpk)).symm
    have hstart : StartsAt hs (rewrittenCommon .ack)
        [.sent reqB, .sent res, .accepted ppd₂ ppdA, .sent reqA] (some reqB) := by
      refine ⟨List.mem_cons_self, ?_, ?_⟩
      · rw [hB.cipherScheme, hsent.scheme, hres]
      · obtain ⟨-, hbody⟩ := haccepted.genuine _ List.mem_cons_self
        rw [hB.sentWith.cleared, hbase, PacketParserData.decryptBody_chainKey hbody]
    have hcompress : (rewrittenCommon .ack).flag &&& flagCompress = 0 := by
      rw [rewrittenCommon, HeaderCommon.setTypeAndPayloadSize_flag]
      decide
    obtain ⟨⟨d', hadmits⟩, htime⟩ := Party.initiator.admits .agent
      (rewrittenCommon .ack).typeAndPayloadSize.1 res.deviceEcdh.publicKey
    have htime' : PacketParserData.recvTimeError (Party.initiator.device .agent).deviceType
        (rewrittenCommon .ack).typeAndPayloadSize.1 sampleConn 1000000000000 res.localInitTime
          = none := by
      rw [hkept.localInitTime]
      exact htime
    obtain ⟨ppdB₂, ppdB, hreceive, -⟩ := rewritten_accepted hsentB (by simp) hsent hkey hcounter hstart
      hcompress (.inr rfl) rfl hadmits htime'
    obtain ⟨hstatic, hts⟩ := hsent.rewritten_seals hcounter
    refine ⟨_, _, _, _, ppdB, rfl, rfl, rfl, ?_, hstatic, hts, hreceive⟩
    show (rewrittenCommon .ack).counter = _
    rw [hB.counter, rewrittenCommon, HeaderCommon.setTypeAndPayloadSize_counter]

end OpenNHP.Core
