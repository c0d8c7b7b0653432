/-
  Who can read a message.

  The body key of a packet mixes two secrets in: that of the sender's ephemeral key with the receiver's
  static key, and that of the two static keys.  Nothing else in it is secret, for every chain key starts
  from a constant: the initial one, or the zeros that the deferred functions leave to a response.  So the
  receiver's static key must be safe, and one of the sender's two keys (`Shielded`).

  1. `secrecy`: as long as the devices send what is secret in shielded packets only, no honest private
     key, no other honest secret sent as a message, and no key made of one is ever derived.  The sender's
     static key may be the attacker's; its ephemeral key is enough.
  2. `message_disclosed`: the message of every other packet is derived, also that of a response.  Nothing
     is forward secret against the receiver's static key.
-/
import OpenNHP.Core.Transaction

namespace OpenNHP.Core

open Symbolic

variable {A : Type} [DecidableEq A] {honest : Set A} {tr : List (Event A)}

/-! ## Runs with any messages -/

/-- The runs in which the devices send any message at all; the packets that reach them, and the previous
    content of pool buffers, are the attacker's. -/
inductive Exchange (honest : Set A) : List (Event A) → Prop
  | nil : Exchange honest []
  | send {tr : List (Event A)} {d : Device (symbolic A)} {md : MsgData (symbolic A)}
      {rnd : Entropy (symbolic A)} {buf : Packet (SymTerm A)} {now : Int64} {preamble : UInt32}
      {mad : MsgAssemblerData (symbolic A)} (hrun : Exchange honest tr)
      (hprev : ∀ ppd, md.prevParserData = some ppd → ∃ ppd₂, Event.accepted ppd₂ ppd ∈ tr)
      (hbuf : buf.DerivableFrom (known honest tr))
      (h : (createMsgAssemblerData d md rnd buf now).encrypt preamble = .ok mad) :
      Exchange honest (.sent mad :: tr)
  | receive {tr : List (Event A)} {d : Device (symbolic A)} {pd : PacketData (symbolic A)}
      {nowMilli now : Int64} {ppd₁ ppd₂ ppd : PacketParserData (symbolic A)}
      (hrun : Exchange honest tr)
      (hprev : ∀ mad, pd.prevAssemblerData = some mad → Event.sent mad ∈ tr)
      (hpacket : pd.basePacket.DerivableFrom (known honest tr))
      (hcreate : createPacketParserData d pd = .ok ppd₁)
      (hvalid : ppd₁.validatePeer nowMilli now = (ppd₂, .ok ()))
      (hbody : ppd₂.decryptBody = (ppd, .ok ())) : Exchange honest (.accepted ppd₂ ppd :: tr)

/-- The runs with public messages are among them. -/
theorem Run.exchange (hrun : Run honest tr) : Exchange honest tr := by
  induction hrun with
  | nil => exact .nil
  | send _ hprev _ hbuf h ih => exact .send ih hprev hbuf h
  | receive _ hprev hpacket hcreate hvalid hbody ih =>
    exact .receive ih hprev hpacket hcreate hvalid hbody

/-- The receiver's private key is honest, and so is the sender's static or its ephemeral one. -/
def MsgAssemblerData.Shielded (honest : Set A) (mad : MsgAssemblerData (symbolic A)) : Prop :=
  (∃ e a, mad.remotePubKey = some (.pub e a) ∧ a ∈ honest) ∧
    (mad.deviceEcdh.Honest honest ∨ mad.ephermeralEcdh.Honest honest)

/-- The devices are discreet: a message that the attacker does not have goes out in shielded packets
    only. -/
def Discreet (honest : Set A) : List (Event A) → Prop
  | [] => True
  | .sent mad :: tr =>
    (mad.Shielded honest ∨ Derivable (known honest tr) mad.bodyMessage) ∧ Discreet honest tr
  | .accepted _ _ :: tr => Discreet honest tr

/-! ## The body key -/

/-- A secret that an honest key pair computes with the public key of an honest one is guarded. -/
theorem Ecdh.Honest.guarded_pub {e : Ecdh (symbolic A)} (he : e.Honest honest) {e' : EccType} {b : A}
    (hb : b ∈ honest) {ss : SymTerm A} (h : e.sharedSecret (.pub e' b) = some ss) :
    Guarded honest ss := by
  obtain ⟨a, ha, hpriv⟩ := he
  rw [Ecdh.sharedSecret] at h
  split at h
  · cases h
  · rw [hpriv] at h
    obtain rfl := Option.some.inj h
    split
    · intro c hc
      rcases Sym2.mem_iff.mp hc with rfl | rfl
      · exact ha
      · exact hb
    · exact ha

/-- The secret of a key pair and a public key of its curve, for whoever has one of the two private
    keys. -/
theorem Ecdh.derivable_sharedSecret {known : Set (SymTerm A)}
    {e : Ecdh (symbolic A)} {b : A} {ss : SymTerm A}
    (hhas : Derivable known (.priv b) ∨ Derivable known e.privKey)
    (h : e.sharedSecret (.pub e.eccType b) = some ss) : Derivable known ss := by
  obtain ⟨a, ha, -⟩ := e.exists_atom
  rw [Ecdh.sharedSecret] at h
  split at h
  · cases h
  · rw [ha] at h hhas
    obtain rfl : Term.dh e.eccType s(a, b) = ss := by simpa [symbolic, SymTerm.ecdh] using h
    rcases hhas with hb | ha
    · rw [Sym2.eq_swap]
      exact .dh a hb
    · exact .dh b ha

namespace Handshake

variable {hs : Handshake (SymTerm A)}

/-- Either of the two secrets guards the body key. -/
theorem guarded_bodyKey_of_or (h : Guarded honest hs.ess ∨ Guarded honest hs.ss) (ts : SymTerm A) :
    Guarded honest (hs.bodyKey (symbolic A) ts) := by
  rcases h with hess | hss
  · have hkey2 : Guarded honest (hs.chainKey2 (symbolic A)) := (guarded_keyGen2 (.inr hess)).1
    have hkey3 : Guarded honest (hs.chainKey3 (symbolic A)) := (guarded_keyGen2 (.inl hkey2)).1
    exact (guarded_keyGen2 (.inl hkey3)).2
  · exact guarded_bodyKey hss ts

/-- Who has a chain key and what is mixed into it has the next chain key and the derived key. -/
theorem derivable_keyGen2 {known : Set (SymTerm A)} {t : HashType} {key input : SymTerm A}
    (hkey : Derivable known key) (hinput : Derivable known input) :
    Derivable known (Noise.keyGen2 (symbolic A) t key input).1 ∧
      Derivable known (Noise.keyGen2 (symbolic A) t key input).2 := by
  have hprk : Derivable known (Noise.hmac1 (symbolic A) t key input) := .hmac hkey (.cons hinput .nil)
  have hnext : Derivable known (Noise.keyGen2 (symbolic A) t key input).1 :=
    .hmac hprk (.cons (.lit _) .nil)
  exact ⟨hnext, .hmac hprk (.cons hnext (.cons (.lit _) .nil))⟩

/-- Who has both secrets, and what is public, has the body key. -/
theorem derivable_bodyKey {known : Set (SymTerm A)} {ts : SymTerm A} (hbase : Derivable known hs.base)
    (heph : Derivable known hs.ephermeral) (hess : Derivable known hs.ess)
    (hss : Derivable known hs.ss) (hts : Derivable known ts) :
    Derivable known (hs.bodyKey (symbolic A) ts) := by
  have hkey1 : Derivable known (hs.chainKey1 (symbolic A)) := (derivable_keyGen2 hbase heph).1
  have hkey2 : Derivable known (hs.chainKey2 (symbolic A)) := (derivable_keyGen2 hkey1 hess).1
  have hkey3 : Derivable known (hs.chainKey3 (symbolic A)) := (derivable_keyGen2 hkey2 hss).1
  exact (derivable_keyGen2 hkey3 hts).2

end Handshake

namespace MsgAssemblerData

variable {mad : MsgAssemblerData (symbolic A)} {hs : Handshake (SymTerm A)}

/-- The body key of a shielded packet is guarded. -/
theorem Shielded.guarded_bodyKey (h : mad.Shielded honest) (hsent : mad.SentWith hs) (ts : SymTerm A) :
    Guarded honest (hs.bodyKey (symbolic A) ts) := by
  obtain ⟨⟨e, b, hpk, hb⟩, hown⟩ := h
  have hresponder : hs.responder = .pub e b := Option.some.inj (hsent.responder.symm.trans hpk)
  have hess := hsent.ess
  have hss := hsent.ss
  rw [hresponder] at hess hss
  apply Handshake.guarded_bodyKey_of_or
  rcases hown with hstatic | heph
  · exact .inr (hstatic.guarded_pub hb hss)
  · exact .inl (heph.guarded_pub hb hess)

/-- What an assembly says stays in the packet, whose body is missing only when nothing is said. -/
theorem Begun.encrypt_message {mad mad' : MsgAssemblerData (symbolic A)} {preamble : UInt32}
    (hr : mad.Begun) (h : mad.encrypt preamble = .ok mad') :
    mad'.bodyMessage = mad.bodyMessage ∧ mad'.bodyCompress = mad.bodyCompress ∧
      (mad'.body = none → (symbolic A).len mad'.bodyMessage = 0) ∧
      ∀ pk, mad'.remotePubKey = some pk → (symbolic A).len pk = publicKeySize mad'.cipherScheme := by
  obtain ⟨pk, ess, ss, -, hlen, -, -, -, rfl⟩ := (MsgAssemblerData.encrypt_eq_ok hr.chainHash).mp h
  refine ⟨rfl, rfl, fun hbody => ?_, ?_⟩
  · have hsent : (mad.afterHandshake (mad.handshake pk ess ss)).sentBody = none := hbody
    rw [sentBody] at hsent
    split at hsent
    · assumption
    · cases hsent
  · rintro _ ⟨⟩
    exact hlen

end MsgAssemblerData

/-! ## What every packet of an exchange is -/

/-- The packet was sent with the handshake `hs`, which starts from a constant. -/
structure MsgAssemblerData.Plain (mad : MsgAssemblerData (symbolic A)) (hs : Handshake (SymTerm A)) :
    Prop extends mad.SentWith hs where
  base : ∀ known, Derivable known hs.base
  empty : mad.body = none → (symbolic A).len mad.bodyMessage = 0
  keySize : ∀ pk, mad.remotePubKey = some pk → (symbolic A).len pk = publicKeySize mad.cipherScheme

/-- An assembly starts from the initial chain key or from what an accepted packet left. -/
theorem createMsgAssemblerData_base {d : Device (symbolic A)} {md : MsgData (symbolic A)}
    {rnd : Entropy (symbolic A)} {buf : Packet (SymTerm A)} {now : Int64}
    (hprev : ∀ ppd, md.prevParserData = some ppd → ppd.chainKey = (symbolic A).zeroKey)
    (known : Set (SymTerm A)) :
    Derivable known (createMsgAssemblerData d md rnd buf now).chainKey := by
  cases h : md.prevParserData with
  | none =>
    rw [createMsgAssemblerData_of_none h]
    exact (Handshake.derivable_keyGen2 (.hash (.cons (.lit _) .nil)) (.lit _)).1
  | some ppd =>
    rw [createMsgAssemblerData_of_some h]
    show Derivable known ppd.chainKey
    rw [hprev ppd h]
    exact .lit _

/-- What an event of an exchange is. -/
def Event.Sound : Event A → Prop
  | sent mad => ∃ hs, mad.Plain hs
  | accepted _ ppd => ppd.chainKey = (symbolic A).zeroKey

/-- Each packet of an exchange was sent by the rules. -/
theorem Exchange.sound (hrun : Exchange honest tr) : ∀ ev ∈ tr, ev.Sound := by
  induction hrun with
  | nil =>
    intro ev hmem
    cases hmem
  | @send tr d md rnd buf now preamble mad hrun hprev hbuf h ih =>
    have hready := createMsgAssemblerData_ready d md rnd buf now
    obtain ⟨hs, hsent, hbase, -⟩ := hready.encrypt_eq_ok h
    obtain ⟨-, -, hempty, hsize⟩ := hready.toBegun.encrypt_message h
    have hzero : ∀ ppd, md.prevParserData = some ppd → ppd.chainKey = (symbolic A).zeroKey := by
      intro ppd hppd
      obtain ⟨ppd₂, hmem⟩ := hprev ppd hppd
      exact ih _ hmem
    refine List.forall_mem_cons.mpr ⟨⟨hs, ⟨hsent, fun known => ?_, hempty, hsize⟩⟩, ih⟩
    rw [hbase]
    exact createMsgAssemblerData_base hzero known
  | receive hrun hprev hpacket hcreate hvalid hbody ih =>
    exact List.forall_mem_cons.mpr ⟨PacketParserData.decryptBody_chainKey hbody, ih⟩

/-! ## Secrecy -/

/-- **The invariant of discreet exchanges**: whatever the attacker has is safe. -/
theorem Exchange.safe (hrun : Exchange honest tr) (hdiscreet : Discreet honest tr) :
    ∀ t ∈ known honest tr, Safe honest (seals tr) t := by
  induction hrun with
  | nil =>
    rintro t (⟨a, ha, rfl⟩ | ⟨ev, hmem, -⟩)
    · exact ha
    · cases hmem
  | @send tr d md rnd buf now preamble mad hrun hprev hbuf h ih =>
    obtain ⟨hsaid, hdiscreet⟩ := hdiscreet
    have hsafe := ih hdiscreet
    obtain ⟨hs, hsent, -, hfrom⟩ := (createMsgAssemblerData_ready d md rnd buf now).encrypt_eq_ok h
    obtain ⟨-, scheme, hidentity⟩ := createMsgAssemblerData_public d md rnd buf now
    refine safe_cons hsafe (safe_wire hsent List.mem_cons_self ?_ fun hopen => ?_)
    · rw [hfrom.identity, hidentity]
      exact ((hbuf.identity scheme).safe hsafe).mono (seals_mono _ _)
    · rcases hsaid with hshielded | hpublic
      · exact absurd (hshielded.guarded_bodyKey hsent _) hopen
      · have hmessage := (hpublic.safe hsafe).mono (seals_mono (Event.sent mad) tr)
        rw [MsgAssemblerData.bodyText]
        split
        · exact hmessage
        · exact hmessage
  | receive hrun hprev hpacket hcreate hvalid hbody ih =>
    exact safe_cons (ih hdiscreet) fun _ ht => absurd ht List.not_mem_nil

/-- **Secrecy.**  In an exchange of discreet devices the attacker derives no honest private key, nothing
    that was sent as a secret message, no secret of two honest keys and no key that one was mixed into. -/
theorem secrecy (hrun : Exchange honest tr) (hdiscreet : Discreet honest tr) {t : SymTerm A}
    (ht : Guarded honest t) : ¬ Derivable (known honest tr) t := by
  intro h
  exact (h.safe (hrun.safe hdiscreet)).not_guarded ht

/-- A device sends a secret to the responder, with the ephemeral key of session 0. -/
theorem secret_sent (honest : Set Party) :
    ∃ mad, Exchange honest [.sent mad] ∧ mad.bodyMessage = .priv (.session 1) ∧
      mad.remotePubKey = some (.pub .sm2 .responder) ∧ mad.deviceEcdh = Party.initiator.ecdh .sm2 ∧
      mad.ephermeralEcdh = (Party.session 0).ecdh .sm2 := by
  have hready := createMsgAssemblerData_ready (Party.initiator.device .agent)
    { sampleKnock with message := .priv (.session 1) } (sessionEntropy 0) zeroBuffer 1000000000000
  have hfit : SymTerm.len (.zip (.priv (.session 1)) : SymTerm Party) + gcmTagSize
      ≤ packetBufferSize - headerSize .gmsm := by decide
  obtain ⟨ess, ss, -, -, hencrypt⟩ := hready.toBegun.encrypt symbolic_lawful
    (e := Party.responder.ecdh .sm2) rfl rfl (.inr hfit) 5
  refine ⟨_, .send .nil ?_ (zeroBuffer_derivable _) hencrypt, rfl, rfl, rfl, rfl⟩
  rintro ppd ⟨⟩

/-- The attacker has the initiator's static key, and yet does not learn what it sends. -/
theorem secrecy_sample :
    ∃ mad, Exchange {Party.responder, .session 0, .session 1} [.sent mad] ∧
      ¬ Derivable (known {Party.responder, .session 0, .session 1} [.sent mad]) mad.bodyMessage := by
  obtain ⟨mad, hrun, hmessage, hpk, -, heph⟩ := secret_sent {Party.responder, .session 0, .session 1}
  have hshielded : mad.Shielded {Party.responder, .session 0, .session 1} :=
    ⟨⟨_, _, hpk, .inl rfl⟩, .inr ⟨.session 0, by simp, by rw [heph]; rfl⟩⟩
  refine ⟨mad, hrun, ?_⟩
  rw [hmessage]
  apply secrecy hrun ⟨.inl hshielded, trivial⟩
  show Party.session 1 ∈ _
  simp

/-! ## Disclosure -/

omit [DecidableEq A] in
/-- An empty message is no secret. -/
theorem derivable_of_len_eq_zero (known : Set (SymTerm A)) {t : SymTerm A} (h : SymTerm.len t = 0) :
    Derivable known t := by
  induction t with
  | lit b => exact .lit b
  | pub e a => exact .pub e a
  | zip t ih => exact .zip (ih h)
  | nil => exact .nil
  | cons t u iht ihu =>
    have hsum : SymTerm.len t + SymTerm.len u = 0 := h
    exact .cons (iht (by omega)) (ihu (by omega))
  | aead g key nonce text ad =>
    have hsum : SymTerm.len text + gcmTagSize = 0 := h
    have htag : gcmTagSize = 16 := rfl
    omega
  | _ => cases h

/-- The size of a public key tells its curve. -/
theorem eccType_eq_of_size {e : EccType} {scheme : CipherScheme}
    (h : eccPublicKeySize e = publicKeySize scheme) : e = (newCipherSuite scheme).eccType := by
  cases e <;> cases scheme <;> first | rfl | cases h

/-- What is on the wire of an exchange is known. -/
theorem derivable_wire {mad : MsgAssemblerData (symbolic A)} (hmem : Event.sent mad ∈ tr)
    {t : SymTerm A} (ht : t ∈ mad.wire) : Derivable (known honest tr) t :=
  .known (.inr ⟨_, hmem, ht⟩)

/-- **Disclosure.**  In every exchange the attacker derives the message of every packet that was sent to
    somebody's public key and was not shielded, requests and responses alike. -/
theorem message_disclosed (hrun : Exchange honest tr) {mad : MsgAssemblerData (symbolic A)}
    (hmem : Event.sent mad ∈ tr) {e : EccType} {b : A} (hpk : mad.remotePubKey = some (.pub e b))
    (hopen : ¬ mad.Shielded honest) : Derivable (known honest tr) mad.bodyMessage := by
  obtain ⟨hs, hplain⟩ := hrun.sound _ hmem
  have hresponder : hs.responder = .pub e b := Option.some.inj (hplain.responder.symm.trans hpk)
  have he : e = (newCipherSuite mad.cipherScheme).eccType := eccType_eq_of_size (hplain.keySize _ hpk)
  cases hbody : mad.body with
  | none => exact derivable_of_len_eq_zero _ (hplain.empty hbody)
  | some body =>
    -- one of the two private keys of each secret is the attacker's
    have hhas : ∀ own : Ecdh (symbolic A), (own = mad.deviceEcdh ∨ own = mad.ephermeralEcdh) →
        Derivable (known honest tr) (.priv b) ∨ Derivable (known honest tr) own.privKey := by
      intro own hown
      by_cases hb : b ∈ honest
      · obtain ⟨a, ha, -⟩ := own.exists_atom
        have hnot : a ∉ honest := by
          intro hmem
          apply hopen
          refine ⟨⟨e, b, hpk, hb⟩, ?_⟩
          rcases hown with rfl | rfl
          · exact .inl ⟨a, hmem, ha⟩
          · exact .inr ⟨a, hmem, ha⟩
        rw [ha]
        exact .inr (.known (.inl ⟨a, hnot, rfl⟩))
      · exact .inl (.known (.inl ⟨b, hb, rfl⟩))
    have hess : Derivable (known honest tr) hs.ess := by
      refine Ecdh.derivable_sharedSecret (hhas _ (.inr rfl)) ?_
      rw [hplain.eccType, ← he, ← hresponder]
      exact hplain.ess
    have hss : Derivable (known honest tr) hs.ss := by
      refine Ecdh.derivable_sharedSecret (hhas _ (.inl rfl)) ?_
      rw [show mad.deviceEcdh.eccType = e from he ▸ mad.device.getEcdhByCipherScheme_eccType _,
        ← hresponder]
      exact hplain.ss
    have heph : Derivable (known honest tr) hs.ephermeral := by
      rw [hplain.ephermeral]
      exact derivable_wire hmem (by simp [MsgAssemblerData.wire, Header.macInput])
    have hts : Derivable (known honest tr) mad.header.timestamp :=
      derivable_wire hmem (by simp [MsgAssemblerData.wire, Header.macInput])
    have hsealed : Derivable (known honest tr) body :=
      derivable_wire hmem (by simp [MsgAssemblerData.wire, hbody])
    rw [hplain.body body hbody] at hsealed
    have htext : Derivable (known honest tr) mad.bodyText :=
      hsealed.open (Handshake.derivable_bodyKey (hplain.base _) heph hess hss hts)
    rw [MsgAssemblerData.bodyText] at htext
    split at htext
    · exact htext.unzip
    · exact htext

/-- The responder's static key is all the attacker has, and it learns what was sent. -/
theorem message_disclosed_sample :
    ∃ mad, Exchange {Party.responder}ᶜ [.sent mad] ∧
      Derivable (known {Party.responder}ᶜ [.sent mad]) (.priv (.session 1)) := by
  obtain ⟨mad, hrun, hmessage, hpk, -⟩ := secret_sent {Party.responder}ᶜ
  refine ⟨mad, hrun, ?_⟩
  rw [← hmessage]
  apply message_disclosed hrun List.mem_cons_self hpk
  rintro ⟨⟨e, a, hpeer, ha⟩, -⟩
  obtain ⟨-, rfl⟩ := Term.pub.inj (Option.some.inj (hpk.symm.trans hpeer))
  exact ha rfl

end OpenNHP.Core
