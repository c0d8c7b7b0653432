/-
  Who a device takes for whom, once its own static key is known.

  THE CRUX.  The two secrets of a handshake are computed from the private keys of either side.  So whoever has the
  static key of a receiver computes, for any public keys in the place of the sender's two, the secrets that the
  receiver will, and with them all three seals.

  1. `Handshake.forged` is that handshake: of any sender, with an ephemeral key of the attacker.
  2. The attacker derives all of its packet (`derivable_forge`).
  3. `impersonated` is what it buys: the device accepts any message the attacker has, under any type and any
     counter, as sent by any peer it admits, as long as it is not overloaded and the send time passes.

  That both static keys are honest is therefore no more than what the authenticity of accepted packets needs.
-/
import OpenNHP.Core.Secrecy

namespace OpenNHP.Core

open Symbolic

variable {A : Type} [DecidableEq A] {honest : Set A} {tr : List (Event A)}

/-! ## The forged handshake -/

/-- The handshake with the receiver `b`, an ephemeral key `x` and a sender `c`. -/
def Handshake.forged (scheme : CipherScheme) (b x c : A) : Handshake (SymTerm A) where
  scheme := scheme
  base := chainKey0 (symbolic A) scheme
  responder := .pub (newCipherSuite scheme).eccType b
  ephermeral := .pub (newCipherSuite scheme).eccType x
  ess := .dh (newCipherSuite scheme).eccType s(b, x)
  ss := .dh (newCipherSuite scheme).eccType s(b, c)

/-- A common header of a scheme, without the compress flag. -/
def forgedCommon (scheme : CipherScheme) (counter : UInt64) (t : HeaderType) : HeaderCommon :=
  HeaderCommon.setTypeAndPayloadSize
    { preamble := 0, tns := 0, major := protocolVersionMajor, minor := protocolVersionMinor
      flag := if scheme = .gmsm then flagExtendedLength else 0, unused := 0, counter := counter } 0 t 0

/-- The forged header tells the scheme and no compression, -/
theorem forgedCommon_flag (scheme : CipherScheme) (counter : UInt64) (t : HeaderType) :
    Packet.flagScheme (forgedCommon scheme counter t).flag = scheme ∧
      (forgedCommon scheme counter t).flag &&& flagCompress = 0 := by
  rw [forgedCommon, HeaderCommon.setTypeAndPayloadSize_flag]
  show Packet.flagScheme (if scheme = .gmsm then flagExtendedLength else 0) = scheme ∧
    (if scheme = .gmsm then flagExtendedLength else 0) &&& flagCompress = 0
  cases scheme <;> decide

/-- and the type the attacker wants. -/
theorem forgedCommon_type {scheme : CipherScheme} {counter : UInt64} {t : HeaderType} (ht : t.Named) :
    (forgedCommon scheme counter t).typeAndPayloadSize.1 = t :=
  congrArg Prod.fst (HeaderCommon.typeAndPayloadSize_set _ _ ht (by decide))

namespace Handshake

variable {scheme : CipherScheme} {b x c : A} {known : Set (SymTerm A)}

/-- The receiver computes the secrets of the forged handshake. -/
theorem forged_sharedSecret {e : Ecdh (symbolic A)} (hb : e.privKey = .priv b)
    (hecc : e.eccType = (newCipherSuite scheme).eccType) (a : A) :
    e.sharedSecret (.pub (newCipherSuite scheme).eccType a)
      = some (.dh (newCipherSuite scheme).eccType s(b, a)) := by
  have hlen : (symbolic A).len (.pub (newCipherSuite scheme).eccType a) = eccPublicKeySize e.eccType := by
    rw [hecc]
    rfl
  rw [Ecdh.sharedSecret, if_neg (not_not.mpr hlen), hecc, hb]
  simp [symbolic, SymTerm.ecdh]

/-- Whoever has the receiver's private key has every key of it. -/
theorem derivable_forged (hb : Derivable known (.priv b)) :
    Derivable known ((forged scheme b x c).staticKey (symbolic A)) ∧
      Derivable known ((forged scheme b x c).timestampKey (symbolic A)) ∧
      ∀ ts, Derivable known ts → Derivable known ((forged scheme b x c).bodyKey (symbolic A) ts) := by
  have hbase : Derivable known (forged scheme b x c).base :=
    (derivable_keyGen2 (.hash (.cons (.lit _) .nil)) (.lit _)).1
  have hkey1 : Derivable known ((forged scheme b x c).chainKey1 (symbolic A)) :=
    (derivable_keyGen2 hbase (.pub _ _)).1
  have hess : Derivable known (forged scheme b x c).ess := .dh x hb
  have hss : Derivable known (forged scheme b x c).ss := .dh c hb
  have hkey2 : Derivable known ((forged scheme b x c).chainKey2 (symbolic A)) :=
    (derivable_keyGen2 hkey1 hess).1
  exact ⟨(derivable_keyGen2 hkey1 hess).2, (derivable_keyGen2 hkey2 hss).2,
    fun ts hts => derivable_bodyKey hbase (.pub _ _) hess hss hts⟩

/-- And so it writes the whole packet around a message it has. -/
theorem derivable_forge (hb : Derivable known (.priv b)) (common : HeaderCommon) (time : Int64)
    {message : SymTerm A} (hmessage : Derivable known message) :
    let header := (forged scheme b x c).forge (symbolic A) common (.lit [])
      (.pub (newCipherSuite scheme).eccType c) time
    (Packet.ofHeader (symbolic A) header (some ((forged scheme b x c).sealBody (symbolic A)
      common.counter header.static header.timestamp message))).DerivableFrom known := by
  intro header
  obtain ⟨hstaticKey, htimestampKey, hbodyKey⟩ :
      Derivable known ((forged scheme b x c).staticKey (symbolic A)) ∧
        Derivable known ((forged scheme b x c).timestampKey (symbolic A)) ∧
        ∀ ts, Derivable known ts → Derivable known ((forged scheme b x c).bodyKey (symbolic A) ts) :=
    derivable_forged hb
  have hpub : ∀ a, Derivable known (.pub (newCipherSuite scheme).eccType a) := fun a => .pub _ a
  have hstatic : Derivable known header.static :=
    .aead hstaticKey (.lit _) (hpub c) (.hash (.cons (.lit _) (.cons (hpub b) (.cons (hpub x) .nil))))
  have hts : Derivable known header.timestamp :=
    .aead htimestampKey (.lit _) (.lit _)
      (.hash (.cons (.lit _) (.cons (hpub b) (.cons (hpub x) (.cons hstatic .nil)))))
  have hhmac : Derivable known header.hmac :=
    .hash (.cons (.lit _) (.cons (hpub b) (.cons (.lit _) (.cons (hpub x) (.cons (.lit _)
      (.cons hstatic (.cons hts .nil)))))))
  refine ⟨fun _ => hpub x, fun _ => .lit _, fun _ => hstatic, fun _ => hts, fun _ => hhmac, fun _ => ?_⟩
  exact .aead (hbodyKey _ hts) (.lit _) hmessage
    (.hash (.cons (.lit _) (.cons (hpub b) (.cons (hpub x) (.cons hstatic (.cons hts .nil))))))

end Handshake

/-! ## Impersonation -/

/-- **Impersonation.**  In every run, take a device whose private key of a scheme the attacker has, a peer
    that the device admits, a type, a counter and a message the attacker derives.  The attacker writes a
    packet that the device accepts with just that type, counter and message, as sent by the peer. -/
theorem impersonated (hrun : Run honest tr) {d d' : Device (symbolic A)} {scheme : CipherScheme} {b c : A}
    (hb : (d.getEcdhByCipherScheme scheme).privKey = .priv b) (hleak : b ∉ honest) {t : HeaderType}
    (ht : t.Named) (counter : UInt64) {message : SymTerm A}
    (hmessage : Derivable (known honest tr) message) {conn : ConnectionData (SymTerm A)}
    {initTime nowMilli time : Int64} (hoverload : d.overload = false)
    (hadmits : PacketParserData.admitPeer d t (.pub (newCipherSuite scheme).eccType c) initTime
      conn.remoteAddr nowMilli = .ok d')
    (htime : PacketParserData.recvTimeError d.deviceType t conn initTime time = none) :
    ∃ pd ppd₂ ppd, pd.basePacket.DerivableFrom (known honest tr) ∧
      receive d pd nowMilli 0 = (some ppd, .ok ()) ∧ Run honest (.accepted ppd₂ ppd :: tr) ∧
      ppd.remotePubKey = some (.pub (newCipherSuite scheme).eccType c) ∧ ppd.headerType = t ∧
      ppd.senderTrxId = counter ∧ ppd.bodyMessage = some message := by
  have hC := symbolic_lawful (A := A)
  have hpriv : Derivable (known honest tr) (.priv b) := .known (.inl ⟨b, hleak, rfl⟩)
  -- The attacker uses the device's own private key as the ephemeral one: with it both shared secrets are its own.
  set hs := Handshake.forged scheme b b c with hhs
  set common := forgedCommon scheme counter t with hcommon
  have hecc := d.getEcdhByCipherScheme_eccType scheme
  have htype : common.typeAndPayloadSize.1 = t := forgedCommon_type ht
  have hcounter : common.counter = counter := HeaderCommon.setTypeAndPayloadSize_counter _ _ _ _
  obtain ⟨hflag, hcompress⟩ := forgedCommon_flag scheme counter t
  set header := hs.forge (symbolic A) common (.lit []) (.pub (newCipherSuite scheme).eccType c) time
    with hheader
  set body := hs.sealBody (symbolic A) common.counter header.static header.timestamp message with hbody
  set pd := PacketData.ofHeader header (some body) conn none initTime with hpd
  have hder : pd.basePacket.DerivableFrom (known honest tr) :=
    Handshake.derivable_forge hpriv common time hmessage
  have hstarts : StartsAt hs common tr none := ⟨rfl, hflag⟩
  obtain ⟨connPk, keys, hstart⟩ : ∃ connPk keys,
      pd.startState d = PacketParserData.start d pd hs.scheme hs.base connPk keys :=
    hstarts.startState d rfl rfl
  -- The device computes the same keys, so its handshake passes; admission and time are assumed.
  have hpasses : pd.Passes d nowMilli hs (.pub (newCipherSuite scheme).eccType c)
      ((symbolic A).timestampBytes time) d' := by
    refine passes_forged hC hstart rfl ?_ ?_ ?_ ?_ (htype ▸ hadmits) (htype ▸ htime)
    · show Term.pub _ b = (d.getEcdhByCipherScheme scheme).publicKey
      rw [Ecdh.publicKey, hb, hecc]
      rfl
    · exact Handshake.forged_sharedSecret hb hecc b
    · exact Handshake.forged_sharedSecret hb hecc c
    · intro _ h
      rw [hoverload] at h
      cases h
  obtain ⟨hvalid, hpacket⟩ := hpasses.validatedWith
  set ppd₂ := pd.passed d hs (.pub (newCipherSuite scheme).eccType c)
    ((symbolic A).timestampBytes time) d' with hppd₂
  have hread : ppd₂.header = header := by
    rw [hvalid.header, ← hvalid.scheme, hpacket]
    rfl
  have hchecked : pd.checked d
      = (PacketParserData.start d pd hs.scheme hs.base connPk keys).headerChecked := by
    rw [PacketData.checked, hstart]
  -- The body is sealed under the handshake's last key and does not ask for decompression.
  have hdecrypt : ppd₂.decryptBody
      = ({ ppd₂.clearSecrets with bodyMessage := some message }, .ok ()) := by
    refine PacketParserData.decryptBody_eq_ok.mpr (.inr ⟨?_, message, message, ?_, ?_, rfl⟩)
    · rw [hread, hpacket]
      show headerSize hs.scheme < headerSize hs.scheme + (SymTerm.len message + gcmTagSize)
      have htag : gcmTagSize = 16 := rfl
      omega
    · rw [hvalid.body, hread, hpacket]
      exact hs.openBody_sealBody hC _ _ _ _
    · rw [PacketParserData.decompressBody, if_neg]
      have hcompressed : ppd₂.bodyCompress = decide (common.flag &&& flagCompress ≠ 0) := by
        show (pd.checked d).bodyCompress = _
        rw [hchecked]
        rfl
      rw [hcompressed, hcompress]
      decide
  have h12 : 12 ≤ pd.basePacket.len := (twelve_le_headerSize _).trans (Nat.le_add_right _ _)
  obtain ⟨ppd₁, hcreate, hvalidate⟩ : ∃ ppd₁, createPacketParserData d pd = .ok ppd₁ ∧
      ppd₁.validatePeer nowMilli 0 = (ppd₂, .ok ()) :=
    validated_iff.mpr ⟨h12, hs, _, _, d', hpasses, rfl⟩
  refine ⟨pd, ppd₂, _, hder, receive_eq_ok.mpr ⟨ppd₁, ppd₂, hcreate, hvalidate, hdecrypt⟩,
    .receive hrun ?_ hder hcreate hvalidate hdecrypt, rfl, ?_, ?_, rfl⟩
  · rintro mad ⟨⟩
  · exact (congrArg (fun h => h.common.typeAndPayloadSize.1) hread).trans htype
  · exact (hvalid.senderTrxId.trans (congrArg (fun h => h.common.counter) hread)).trans hcounter

/-- A server whose key is known takes a knock that nobody sent for the initiator's. -/
theorem impersonated_sample :
    ∃ ppd₂ ppd, Run {Party.initiator} [.accepted ppd₂ ppd] ∧
      ppd.remotePubKey = some (Party.initiator.ecdh .sm2).publicKey ∧ ppd.headerType = .knk ∧
      ppd.bodyMessage = some (.lit [104, 105]) := by
  obtain ⟨⟨d', hadmits⟩, htime⟩ :=
    Party.responder.admits .server .knk (.pub .sm2 Party.initiator)
  have hleak : Party.responder ∉ ({Party.initiator} : Set Party) := by
    rintro ⟨⟩
  have hb : ((Party.responder.device .server).getEcdhByCipherScheme .gmsm).privKey
      = .priv Party.responder := rfl
  have hknk : HeaderType.Named .knk := trivial
  obtain ⟨-, ppd₂, ppd, -, -, hrun, hpk, htype, -, hmessage⟩ :=
    impersonated (.nil : Run {Party.initiator} []) hb hleak hknk 7 (.lit [104, 105]) rfl hadmits htime
  exact ⟨ppd₂, ppd, hrun, hpk, htype, hmessage⟩

end OpenNHP.Core
