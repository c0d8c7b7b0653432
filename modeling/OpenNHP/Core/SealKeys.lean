/-
  The keys and nonces of the AEAD seals (`setPeerPublicKey` and `encryptBody` of `nhp/core/initiator.go`,
  `NoiseFactory` of `nhp/core/kdf.go`).

  THE PROGRAM.  The three seals of a packet share its counter as their nonce, and a response shares its request's.

  THE SPECIFICATION.  No two seals have the same key and nonce (`seals_unique`).

  THE CRUX.  As nonces repeat it is the keys that must differ.  With free symbols for the key derivation they do:
  whatever an assembly's chain key is at its start, a seal's key tells the ephemeral key of the assembly and which
  of the three seals it is (`SealKeyOf.unique`).  What is mixed in at each step has a shape of its own, a public
  key, a shared secret or a sealed text, which tells the steps apart (`chainKey1_ne_chainKey2`).

  ASSEMBLY.  `sealCalls` lists the calls of an assembly with their arguments, `handshakeSeals` those of a
  handshake; `sealKeyOf_of_mem` gives each its key, and assemblies with different ephemeral keys have different
  ones.
-/
import OpenNHP.Core.SymbolicCrypto
import OpenNHP.Core.HeaderRewrite

namespace OpenNHP.Core

open Symbolic

/-! ## The calls of `Seal` -/

section Calls

variable {M : Type} {C : Crypto M}

/-- The arguments of a call of `Seal`. -/
structure SealCall (M : Type) where
  gcmType : GcmType
  key : M
  nonce : M
  text : M
  ad : M

/-- What the call returns. -/
def SealCall.sealed (C : Crypto M) (call : SealCall M) : M :=
  C.aeadSeal call.gcmType call.key call.nonce call.text call.ad

namespace MsgAssemblerData

/-- The calls `setPeerPublicKey` makes, in their order, also when it fails behind one of them. -/
def peerSeals (mad : MsgAssemblerData C) (peerPk : Option M) : List (SealCall M) :=
  let t := mad.ciphers.hashType
  let g := mad.ciphers.gcmType
  let nonce := C.nonceBytes mad.header.common.counter
  match peerPk.or mad.remotePubKey with
  | none => []
  | some remotePubKey =>
    if C.len remotePubKey ≠ publicKeySize mad.cipherScheme then []
    else
      let chainHash1 := mad.chainHash ++ [remotePubKey, mad.ephermeralEcdh.publicKey]
      let chainKey1 := Noise.mixKey C t mad.chainKey mad.ephermeralEcdh.publicKey
      match mad.ephermeralEcdh.sharedSecret remotePubKey with
      | none => []
      | some ess =>
        let (chainKey2, staticKey) := Noise.keyGen2 C t chainKey1 ess
        let static : SealCall M :=
          { gcmType := g, key := staticKey, nonce := nonce, text := mad.deviceEcdh.publicKey
            ad := C.hash t chainHash1 }
        let chainHash2 := chainHash1 ++ [static.sealed C]
        static :: match mad.deviceEcdh.sharedSecret remotePubKey with
        | none => []
        | some ss =>
          let (_, timestampKey) := Noise.keyGen2 C t chainKey2 ss
          [{ gcmType := g, key := timestampKey, nonce := nonce, text := C.timestampBytes mad.localInitTime
             ad := C.hash t chainHash2 }]

/-- The call `encryptBody` makes, if any. -/
def bodySeals (mad : MsgAssemblerData C) : List (SealCall M) :=
  if C.len mad.bodyMessage = 0 then []
  else if C.len mad.bodyText + gcmTagSize > packetBufferSize - mad.header.size then []
  else
    [{ gcmType := mad.ciphers.gcmType, key := mad.bodyAead, nonce := C.nonceBytes mad.header.common.counter
       text := mad.bodyText, ad := C.hash mad.ciphers.hashType mad.chainHash }]

/-- The calls of a whole send. -/
def sealCalls (mad : MsgAssemblerData C) : List (SealCall M) :=
  mad.peerSeals none ++
    match mad.setPeerPublicKey none with
    | .ok mad => mad.bodySeals
    | _ => []

/-- The calls on the static key and the timestamp, of a handshake. -/
def handshakeSeals (mad : MsgAssemblerData C) (hs : Handshake M) : SealCall M × SealCall M :=
  let nonce := C.nonceBytes mad.header.common.counter
  ({ gcmType := hs.gcmType, key := hs.staticKey C, nonce := nonce, text := mad.deviceEcdh.publicKey
     ad := C.hash hs.hashType (hs.chainHash1 C) },
   { gcmType := hs.gcmType, key := hs.timestampKey C, nonce := nonce,
     text := C.timestampBytes mad.localInitTime
     ad := C.hash hs.hashType (hs.chainHash2 C (hs.sealStatic C mad.header.common.counter
       mad.deviceEcdh.publicKey)) })

/-- The calls of `setPeerPublicKey` are none, the first or both of a handshake's. -/
theorem Begun.peerSeals_cases {mad : MsgAssemblerData C} (hr : mad.Begun) :
    mad.peerSeals none = [] ∨
      ∃ pk ess, mad.ephermeralEcdh.sharedSecret pk = some ess ∧
        (mad.peerSeals none = [(mad.handshakeSeals (mad.handshake pk ess ess)).1] ∨
          ∃ ss, mad.deviceEcdh.sharedSecret pk = some ss ∧
            mad.peerSeals none = [(mad.handshakeSeals (mad.handshake pk ess ss)).1,
              (mad.handshakeSeals (mad.handshake pk ess ss)).2]) := by
  unfold peerSeals
  rw [Option.none_or, hr.chainHash]
  cases mad.remotePubKey with
  | none => exact .inl rfl
  | some pk =>
    dsimp only
    split
    · exact .inl rfl
    · cases hess : mad.ephermeralEcdh.sharedSecret pk with
      | none => exact .inl rfl
      | some ess =>
        refine .inr ⟨pk, ess, hess, ?_⟩
        cases hss : mad.deviceEcdh.sharedSecret pk with
        | none => exact .inl rfl
        | some ss => exact .inr ⟨ss, rfl, rfl⟩

/-- A completed `setPeerPublicKey` has made both calls. -/
theorem Begun.peerSeals_of_secrets {mad : MsgAssemblerData C} (hr : mad.Begun) {pk ess ss : M}
    (hpk : mad.remotePubKey = some pk) (hlen : C.len pk = publicKeySize mad.cipherScheme)
    (hess : mad.ephermeralEcdh.sharedSecret pk = some ess) (hss : mad.deviceEcdh.sharedSecret pk = some ss) :
    mad.peerSeals none = [(mad.handshakeSeals (mad.handshake pk ess ss)).1,
      (mad.handshakeSeals (mad.handshake pk ess ss)).2] := by
  unfold peerSeals
  rw [Option.none_or, hr.chainHash, hpk]
  simp only [hlen, ne_eq, not_true_eq_false, if_false, hess, hss]
  rfl

/-- The calls of a send are none, or those of a handshake up to some point: the static key, the timestamp,
    the body. -/
theorem Begun.sealCalls_cases {mad : MsgAssemblerData C} (hr : mad.Begun) :
    mad.sealCalls = [] ∨
      ∃ pk ess, mad.ephermeralEcdh.sharedSecret pk = some ess ∧
        (mad.sealCalls = [(mad.handshakeSeals (mad.handshake pk ess ess)).1] ∨
          ∃ ss, mad.deviceEcdh.sharedSecret pk = some ss ∧
            let calls := mad.handshakeSeals (mad.handshake pk ess ss)
            (mad.sealCalls = [calls.1, calls.2] ∨
              ∃ body : SealCall M, body.key = (mad.handshake pk ess ss).bodyKey C (calls.2.sealed C) ∧
                mad.sealCalls = [calls.1, calls.2, body])) := by
  by_cases hok : ∃ mad', mad.setPeerPublicKey none = .ok mad'
  · obtain ⟨mad', hset⟩ := hok
    obtain ⟨pk, ess, ss, hpk, hlen, hess, hss, hafter⟩ := (setPeerPublicKey_eq_ok hr.chainHash).mp hset
    refine .inr ⟨pk, ess, hess, .inr ⟨ss, hss, ?_⟩⟩
    rw [sealCalls, hset, hr.peerSeals_of_secrets hpk hlen hess hss]
    dsimp only
    unfold bodySeals
    split
    · exact .inl rfl
    · split
      · exact .inl rfl
      · refine .inr ⟨_, ?_, rfl⟩
        rw [hafter]
        rfl
  · have hcalls : mad.sealCalls = mad.peerSeals none := by
      rw [sealCalls]
      cases hset : mad.setPeerPublicKey none with
      | ok mad' => exact absurd ⟨mad', hset⟩ hok
      | err e => exact List.append_nil _
      | panic => exact List.append_nil _
    rw [hcalls]
    obtain hnone | ⟨pk, ess, hess, hone | ⟨ss, hss, hboth⟩⟩ := hr.peerSeals_cases
    · exact .inl hnone
    · exact .inr ⟨pk, ess, hess, .inl hone⟩
    · exact .inr ⟨pk, ess, hess, .inr ⟨ss, hss, .inl hboth⟩⟩

/-- What a completed send carries is what its calls have sealed. -/
theorem Begun.sealCalls_sealed {mad mad' : MsgAssemblerData C} (hr : mad.Begun) {preamble : UInt32}
    (h : mad.encrypt preamble = .ok mad') :
    mad.sealCalls.map (·.sealed C) = [mad'.header.static, mad'.header.timestamp] ++ mad'.body.toList := by
  obtain ⟨mad₁, hset, hencrypt⟩ := Go.bind_eq_ok.mp h
  obtain ⟨hfit, rfl⟩ := encryptBody_eq_ok.mp hencrypt
  obtain ⟨pk, ess, ss, hpk, hlen, hess, hss, rfl⟩ := (setPeerPublicKey_eq_ok hr.chainHash).mp hset
  rw [sealCalls, hset, hr.peerSeals_of_secrets hpk hlen hess hss, List.map_append]
  congr 1
  set mad₁ := mad.afterHandshake (mad.handshake pk ess ss)
  show mad₁.bodySeals.map (·.sealed C) = mad₁.sentBody.toList
  rw [bodySeals, sentBody]
  split
  · have hnone : mad₁.body = none := hr.body
    rw [hnone]
    rfl
  · rename_i hne
    have hsize : ¬ C.len mad₁.bodyText + gcmTagSize > packetBufferSize - mad₁.header.size := by
      have hfits := hfit.resolve_left hne
      rw [sealedSize, if_neg hne] at hfits
      exact Nat.not_lt.mpr hfits
    rw [if_neg hsize]
    rfl

end MsgAssemblerData

end Calls

/-! ## Keys -/

section Keys

variable {A : Type} [DecidableEq A]

/-- The three seals of a packet. -/
inductive SealKind
  | static
  | timestamp
  | body
  deriving DecidableEq, Repr

/-- A secret that two keys share; no other term is one. -/
def IsSecret : SymTerm A → Prop
  | .dh _ _ | .dhx _ _ _ => True
  | _ => False

/-- The term is a public key. -/
def IsPublicKey : SymTerm A → Prop
  | .pub _ _ => True
  | _ => False

/-- It is a sealed text. -/
def IsSealed : SymTerm A → Prop
  | .aead _ _ _ _ _ => True
  | _ => False

/-- A seal returns one. -/
theorem SealCall.isSealed (call : SealCall (SymTerm A)) : IsSealed (call.sealed (symbolic A)) := trivial

/-- The key of a seal of an assembly with the given ephemeral key, from any chain key on. -/
def SealKeyOf (eph : SymTerm A) (kind : SealKind) (key : SymTerm A) : Prop :=
  ∃ hs : Handshake (SymTerm A), hs.ephermeral = eph ∧ IsSecret hs.ess ∧
    match kind with
    | .static => key = hs.staticKey (symbolic A)
    | .timestamp => IsSecret hs.ss ∧ key = hs.timestampKey (symbolic A)
    | .body => IsSecret hs.ss ∧ ∃ ts, IsSealed ts ∧ key = hs.bodyKey (symbolic A) ts

/-- An ECDH returns a shared secret. -/
theorem Ecdh.isSecret_sharedSecret {e : Ecdh (symbolic A)} {pk ss : SymTerm A}
    (h : e.sharedSecret pk = some ss) :
    IsSecret ss := by
  obtain ⟨a, ha, -⟩ := e.exists_atom
  rw [sharedSecret, ha] at h
  split at h
  · cases h
  · cases pk with
    | pub e' b =>
      simp only [symbolic, SymTerm.ecdh, Option.some.injEq] at h
      rw [← h]
      split <;> trivial
    | _ =>
      cases h
      trivial

namespace Handshake

variable {hs hs' : Handshake (SymTerm A)}

/-- Each chain key tells the ephemeral key. -/
theorem ephermeral_of_chainKey1 (h : hs.chainKey1 (symbolic A) = hs'.chainKey1 (symbolic A)) :
    hs.ephermeral = hs'.ephermeral := (Noise.keyGen1_injective h).2

/-- Each chain key tells the ephemeral key: the second, -/
theorem ephermeral_of_chainKey2 (h : hs.chainKey2 (symbolic A) = hs'.chainKey2 (symbolic A)) :
    hs.ephermeral = hs'.ephermeral := ephermeral_of_chainKey1 (Noise.keyGen2_fst_injective h).1

/-- and the third. -/
theorem ephermeral_of_chainKey3 (h : hs.chainKey3 (symbolic A) = hs'.chainKey3 (symbolic A)) :
    hs.ephermeral = hs'.ephermeral := ephermeral_of_chainKey2 (Noise.keyGen2_fst_injective h).1

/-- The first chain key ends with a public key, the second with a secret. -/
theorem chainKey1_ne_chainKey2 (heph : IsPublicKey hs.ephermeral) (hess : IsSecret hs'.ess) :
    hs.chainKey1 (symbolic A) ≠ hs'.chainKey2 (symbolic A) := by
  intro h
  have hsame : hs.ephermeral = hs'.ess := (Noise.keyGen1_injective h).2
  rw [hsame] at heph
  cases hterm : hs'.ess <;> rw [hterm] at heph hess <;> first | exact heph.elim | exact hess.elim

end Handshake

omit [DecidableEq A] in
/-- A shared secret is no sealed text. -/
theorem IsSecret.ne_sealed {ss ts : SymTerm A} (hss : IsSecret ss) (hts : IsSealed ts) : ss ≠ ts := by
  rintro rfl
  cases ss <;> first | exact hss.elim | exact hts.elim

/-- A key tells the ephemeral key and the kind of its seal. -/
theorem SealKeyOf.unique {eph eph' key : SymTerm A} {kind kind' : SealKind} (heph : IsPublicKey eph)
    (heph' : IsPublicKey eph') (h : SealKeyOf eph kind key) (h' : SealKeyOf eph' kind' key) :
    eph = eph' ∧ kind = kind' := by
  obtain ⟨hs, rfl, hess, h⟩ := h
  obtain ⟨hs', rfl, hess', h'⟩ := h'
  -- Equal keys come from equal chains: of one kind these give the ephemeral key, of two kinds two steps of a chain
  -- would be equal, or a secret would be a sealed text.
  cases kind with
  | static =>
    cases kind' with
    | static =>
      obtain ⟨hkey, -⟩ := Noise.keyGen2_snd_injective (h.symm.trans h')
      exact ⟨Handshake.ephermeral_of_chainKey1 hkey, rfl⟩
    | timestamp =>
      obtain ⟨hkey, -⟩ := Noise.keyGen2_snd_injective (h.symm.trans h'.2)
      exact absurd hkey (Handshake.chainKey1_ne_chainKey2 heph hess')
    | body =>
      obtain ⟨-, ts, hts, hbody⟩ := h'
      obtain ⟨-, hinput⟩ := Noise.keyGen2_snd_injective (h.symm.trans hbody)
      exact absurd hinput (hess.ne_sealed hts)
  | timestamp =>
    cases kind' with
    | static =>
      obtain ⟨hkey, -⟩ := Noise.keyGen2_snd_injective (h'.symm.trans h.2)
      exact absurd hkey (Handshake.chainKey1_ne_chainKey2 heph' hess)
    | timestamp =>
      obtain ⟨hkey, -⟩ := Noise.keyGen2_snd_injective (h.2.symm.trans h'.2)
      exact ⟨Handshake.ephermeral_of_chainKey2 hkey, rfl⟩
    | body =>
      obtain ⟨-, ts, hts, hbody⟩ := h'
      obtain ⟨-, hinput⟩ := Noise.keyGen2_snd_injective (h.2.symm.trans hbody)
      exact absurd hinput (h.1.ne_sealed hts)
  | body =>
    obtain ⟨-, ts, hts, hbody⟩ := h
    cases kind' with
    | static =>
      obtain ⟨-, hinput⟩ := Noise.keyGen2_snd_injective (h'.symm.trans hbody)
      exact absurd hinput (hess'.ne_sealed hts)
    | timestamp =>
      obtain ⟨-, hinput⟩ := Noise.keyGen2_snd_injective (h'.2.symm.trans hbody)
      exact absurd hinput (h'.1.ne_sealed hts)
    | body =>
      obtain ⟨-, ts', -, hbody'⟩ := h'
      obtain ⟨hkey, -⟩ := Noise.keyGen2_snd_injective (hbody.symm.trans hbody')
      exact ⟨Handshake.ephermeral_of_chainKey3 hkey, rfl⟩

/-! ## Assemblies -/

/-- A message that a device assembles, with the random choices, the buffer and the clock it finds. -/
structure Assembly (A : Type) [DecidableEq A] where
  device : Device (symbolic A)
  md : MsgData (symbolic A)
  rnd : Entropy (symbolic A)
  buf : Packet (SymTerm A)
  now : Int64

namespace Assembly

/-- The assembly that the choices make. -/
def mad (a : Assembly A) : MsgAssemblerData (symbolic A) :=
  createMsgAssemblerData a.device a.md a.rnd a.buf a.now

/-- The ephemeral key of the assembly. -/
def ephermeral (a : Assembly A) : SymTerm A := a.mad.ephermeralEcdh.publicKey

/-- The calls of `Seal` it makes. -/
def sealCalls (a : Assembly A) : List (SealCall (SymTerm A)) := a.mad.sealCalls

/-- Its ephemeral key is a public key. -/
theorem isPublicKey_ephermeral (a : Assembly A) : IsPublicKey a.ephermeral := by
  obtain ⟨p, -, hp⟩ := a.mad.ephermeralEcdh.exists_atom
  rw [ephermeral, hp]
  trivial

/-- The keys of an assembly's calls, in order, are those of the first few kinds of seal. -/
theorem sealKeys (a : Assembly A) : ∃ kinds : List SealKind, kinds.Nodup ∧
    List.Forall₂ (fun kind (call : SealCall (SymTerm A)) => SealKeyOf a.ephermeral kind call.key) kinds
      a.sealCalls := by
  have hr := (createMsgAssemblerData_ready a.device a.md a.rnd a.buf a.now).toBegun
  obtain hnone | ⟨pk, ess, hess, hcalls⟩ := hr.sealCalls_cases
  · exact ⟨[], List.nodup_nil, by rw [sealCalls, mad, hnone]; exact .nil⟩
  have hsecret : IsSecret ess := Ecdh.isSecret_sharedSecret hess
  obtain hone | ⟨ss, hss, hcalls⟩ := hcalls
  · refine ⟨[.static], List.nodup_singleton _, ?_⟩
    rw [sealCalls, mad, hone]
    exact .cons ⟨_, rfl, hsecret, rfl⟩ .nil
  have hsecret' : IsSecret ss := Ecdh.isSecret_sharedSecret hss
  obtain htwo | ⟨body, hbody, hthree⟩ := hcalls
  · refine ⟨[.static, .timestamp], by decide, ?_⟩
    rw [sealCalls, mad, htwo]
    exact .cons ⟨_, rfl, hsecret, rfl⟩ (.cons ⟨_, rfl, hsecret, hsecret', rfl⟩ .nil)
  · refine ⟨[.static, .timestamp, .body], by decide, ?_⟩
    rw [sealCalls, mad, hthree]
    have hbodyOf : SealKeyOf a.ephermeral .body body.key :=
      ⟨_, rfl, hsecret, hsecret', _, SealCall.isSealed _, hbody⟩
    exact .cons ⟨_, rfl, hsecret, rfl⟩ (.cons ⟨_, rfl, hsecret, hsecret', rfl⟩ (.cons hbodyOf .nil))

/-- Every call of an assembly is of one of the kinds. -/
theorem exists_kind {eph : SymTerm A} {kinds : List SealKind} {calls : List (SealCall (SymTerm A))}
    (h : List.Forall₂ (fun kind (call : SealCall (SymTerm A)) => SealKeyOf eph kind call.key) kinds calls)
    {call : SealCall (SymTerm A)} (hmem : call ∈ calls) : ∃ kind ∈ kinds, SealKeyOf eph kind call.key := by
  induction h with
  | nil => cases hmem
  | cons hkey hkeys ih =>
    rcases List.mem_cons.mp hmem with rfl | hmem
    · exact ⟨_, List.mem_cons_self, hkey⟩
    · obtain ⟨kind, hkind, hof⟩ := ih hmem
      exact ⟨kind, List.mem_cons_of_mem _ hkind, hof⟩

/-- Every call's key is that of some kind of seal, with the assembly's ephemeral key. -/
theorem sealKeyOf_of_mem {a : Assembly A} {call : SealCall (SymTerm A)} (h : call ∈ a.sealCalls) :
    ∃ kind, SealKeyOf a.ephermeral kind call.key := by
  obtain ⟨kinds, -, hkeys⟩ := a.sealKeys
  obtain ⟨kind, -, hkey⟩ := exists_kind hkeys h
  exact ⟨kind, hkey⟩

/-- The calls of one assembly have different keys. -/
theorem pairwise_sealKeys (a : Assembly A) : a.sealCalls.Pairwise fun c c' => c.key ≠ c'.key := by
  obtain ⟨kinds, hnodup, hkeys⟩ := a.sealKeys
  generalize a.sealCalls = calls at hkeys
  induction hkeys with
  | nil => exact .nil
  | cons hkey hkeys ih =>
    rw [List.nodup_cons] at hnodup
    refine .cons (fun call' hmem hsame => ?_) (ih hnodup.2)
    obtain ⟨kind', hkind', hkey'⟩ := exists_kind hkeys hmem
    rw [← hsame] at hkey'
    obtain ⟨-, rfl⟩ := SealKeyOf.unique a.isPublicKey_ephermeral a.isPublicKey_ephermeral hkey hkey'
    exact hnodup.1 hkind'

end Assembly

/-- **No key and nonce twice.** Whatever messages any devices assemble, fresh or as responses, with distinct
    ephemeral keys: no two calls of `Seal` have the same key and nonce. -/
theorem seals_unique {assemblies : List (Assembly A)}
    (hfresh : assemblies.Pairwise fun a b => a.ephermeral ≠ b.ephermeral) :
    (assemblies.flatMap Assembly.sealCalls).Pairwise fun c c' => (c.key, c.nonce) ≠ (c'.key, c'.nonce) := by
  rw [List.pairwise_flatMap]
  constructor
  · intro a _
    exact a.pairwise_sealKeys.imp fun hkeys hpair => hkeys (Prod.mk.inj hpair).1
  · refine hfresh.imp fun {a b} heph c hc c' hc' hpair => heph ?_
    obtain ⟨kind, hkey⟩ := Assembly.sealKeyOf_of_mem hc
    obtain ⟨kind', hkey'⟩ := Assembly.sealKeyOf_of_mem hc'
    rw [← (Prod.mk.inj hpair).1] at hkey'
    exact (SealKeyOf.unique a.isPublicKey_ephermeral b.isPublicKey_ephermeral hkey hkey').1

end Keys

/-- The initiator's knock, with the given session key. -/
def knockAssembly (n : Nat) : Assembly Party where
  device := Party.initiator.device .agent
  md := sampleKnock
  rnd := sessionEntropy n
  buf := zeroBuffer
  now := 1000000000000

/-- Each sample knock has an ephemeral key of its own. -/
theorem knockAssembly_ephermeral (n : Nat) :
    (knockAssembly n).ephermeral = ((Party.session n).ecdh .sm2).publicKey := rfl

/-- Two knocks of one agent to one server, of the same counter. -/
theorem seals_unique_sample :
    (knockAssembly 0).ephermeral ≠ (knockAssembly 1).ephermeral ∧
    ([knockAssembly 0, knockAssembly 1].flatMap Assembly.sealCalls).Pairwise
      fun c c' => (c.key, c.nonce) ≠ (c'.key, c'.nonce) := by
  have hne : (knockAssembly 0).ephermeral ≠ (knockAssembly 1).ephermeral := by
    rw [knockAssembly_ephermeral, knockAssembly_ephermeral]
    decide
  exact ⟨hne, seals_unique (.cons (by simpa using hne) (.cons (by simp) .nil))⟩

end OpenNHP.Core
