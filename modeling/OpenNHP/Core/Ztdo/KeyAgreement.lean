/-
  `AgreeSymmetricKey` (`nhp/core/ztdo/noise.go`): the key and the associated data two parties agree on.

  THE PROGRAM.  Provider and consumer go through two lists of message patterns in step, mixing keys into a running
  hash and shared secrets into a running key.

  THE SPECIFICATION.  Both come to the same key and the same associated data.

  THE CRUX.  Every pattern has a dual, the same step seen from the other side; in a Diffie-Hellman step both sides
  mix the consumer's public key.  `agreeStep_dual` is one step and its dual, `agreeSymmetricKey_dual` the
  agreement over any list and its dual, for the keys that the list needs (`Linked`); nothing is asked of the
  curves, since keys of two curves give no secret on either side.

  1. A key pair that is not set is a nil interface, a row of patterns that is missing an index out of range: both
     panic, which is `none` here.
  2. `Write` and the key derivations see a missing remote key or secret as no bytes.
-/
import OpenNHP.Core.Crypto
import OpenNHP.Core.Ztdo.Header

namespace OpenNHP.Core.Ztdo

open BigEndian

/-! ## ECC modes -/

namespace DataKeyPairECCMode

/-- The modes by their numbers: Curve25519 with SHA-256, -/
def CURVE25519 : DataKeyPairECCMode := 0
/-- and SM2 with SM3. -/
def SM2 : DataKeyPairECCMode := 1

/-- `ToHashType`. -/
def toHashType (d : DataKeyPairECCMode) : HashType :=
  if d = CURVE25519 then .sha256 else if d = SM2 then .sm3 else .sha256

end DataKeyPairECCMode

/-! ## The agreement -/

/-- `MessagePattern`: own keys and the other's are mixed in, or the secret of one of each. -/
inductive MessagePattern
  | S
  | E
  | RS
  | RE
  | DHEE
  | DHES
  | DHSE
  | DHSS
  deriving DecidableEq, Repr

variable {C : Crypto Bytes}

/-- `SymmetricAgreement`: what one party knows. -/
structure SymmetricAgreement (C : Crypto Bytes) where
  hashType : HashType
  s : Option (Ecdh C)
  e : Option (Ecdh C)
  rs : Bytes
  re : Bytes
  /-- The first row is the provider's, the second one the consumer's. -/
  messagePatterns : List (List MessagePattern)
  psk : Bytes
  isPskUsed : Bool
  provider : Bool
  eccMode : DataKeyPairECCMode

namespace SymmetricAgreement

/-- `NewSymmetricAgreement`. -/
def new (eccMode : DataKeyPairECCMode) (provider : Bool) : SymmetricAgreement C where
  hashType := eccMode.toHashType
  s := none
  e := none
  rs := []
  re := []
  messagePatterns := []
  psk := []
  isPskUsed := false
  provider
  eccMode

variable (sa : SymmetricAgreement C)

/-- `SetPsk`. -/
def setPsk (psk : Bytes) : SymmetricAgreement C := { sa with psk, isPskUsed := true }
/-- `SetStaticKeyPair`. -/
def setStaticKeyPair (s : Ecdh C) : SymmetricAgreement C := { sa with s := some s }
/-- `SetEphemeralKeyPair`. -/
def setEphemeralKeyPair (e : Ecdh C) : SymmetricAgreement C := { sa with e := some e }
/-- `SetRemoteStaticPublicKey`. -/
def setRemoteStaticPublicKey (rs : Bytes) : SymmetricAgreement C := { sa with rs }
/-- `SetRemoteEphemeralPublicKey`. -/
def setRemoteEphemeralPublicKey (re : Bytes) : SymmetricAgreement C := { sa with re }
/-- `SetMessagePatterns`. -/
def setMessagePatterns (messagePatterns : List (List MessagePattern)) : SymmetricAgreement C :=
  { sa with messagePatterns }

end SymmetricAgreement

/-- The locals of `AgreeSymmetricKey`: the chain key, what was written to the hash, and the key. -/
structure Agreeing where
  ck : Bytes
  adHash : List Bytes
  gcmKey : Bytes

namespace SymmetricAgreement

variable (sa : SymmetricAgreement C)

/-- The four Diffie-Hellman cases: our key pair with a remote key, `last` for the last pattern. -/
def mixDH (own : Ecdh C) (remote : Bytes) (last : Bool) (a : Agreeing) : Agreeing :=
  let secret := (own.sharedSecret remote).getD []
  let pbk := if sa.provider then remote else own.publicKey
  let adHash := a.adHash ++ [pbk]
  let ck := Noise.mixKey C sa.hashType a.ck pbk
  if last then
    let keys := Noise.keyGen2 C sa.hashType ck secret
    { ck := keys.1, adHash, gcmKey := keys.2 }
  else { a with ck := Noise.mixKey C sa.hashType ck secret, adHash }

/-- One turn of the loop. -/
def agreeStep (last : Bool) (a : Agreeing) : MessagePattern → Option Agreeing
  | .S => sa.s.map fun s => { a with adHash := a.adHash ++ [s.publicKey] }
  | .E => sa.e.map fun e => { a with adHash := a.adHash ++ [e.publicKey] }
  | .RS => some { a with adHash := a.adHash ++ [sa.rs] }
  | .RE => some { a with adHash := a.adHash ++ [sa.re] }
  | .DHSS => sa.s.map fun s => sa.mixDH s sa.rs last a
  | .DHSE => sa.s.map fun s => sa.mixDH s sa.re last a
  | .DHEE => sa.e.map fun e => sa.mixDH e sa.re last a
  | .DHES => sa.e.map fun e => sa.mixDH e sa.rs last a

/-- The loop over a row of patterns; the last one gives the key. -/
def agreeLoop (a : Agreeing) : List MessagePattern → Option Agreeing
  | [] => some a
  | pattern :: patterns => (sa.agreeStep patterns.isEmpty a pattern).bind fun a => agreeLoop a patterns

/-- The locals before the loop. -/
def start : Agreeing :=
  if sa.isPskUsed then
    { ck := Noise.keyGen1 C sa.hashType (C.hash sa.eccMode.toHashType [sa.psk]) sa.psk,
      adHash := [sa.psk], gcmKey := C.zeroKey }
  else { ck := C.zeroKey, adHash := [], gcmKey := C.zeroKey }

/-- `AgreeSymmetricKey`: the key and the associated data. -/
def agreeSymmetricKey : Option (Bytes × Bytes) := do
  let msgPatterns ← if sa.provider then sa.messagePatterns[0]? else sa.messagePatterns[1]?
  let a ← sa.agreeLoop sa.start msgPatterns
  return (a.gcmKey, C.hash sa.eccMode.toHashType a.adHash)

end SymmetricAgreement

/-! ## Duality -/

/-- The same step, from the other side. -/
def MessagePattern.dual : MessagePattern → MessagePattern
  | .S => .RS
  | .E => .RE
  | .RS => .S
  | .RE => .E
  | .DHEE => .DHEE
  | .DHES => .DHSE
  | .DHSE => .DHES
  | .DHSS => .DHSS

/-- Two key pairs compute the same secret, or both compute none. -/
theorem sharedSecret_comm (hC : LawfulCrypto C) (a b : Ecdh C) :
    a.sharedSecret b.publicKey = b.sharedSecret a.publicKey := by
  by_cases h : a.eccType = b.eccType
  · obtain ⟨secret, ha, hb⟩ := Ecdh.sharedSecret_agree hC h
    rw [ha, hb]
  · have hsize : eccPublicKeySize a.eccType ≠ eccPublicKeySize b.eccType := by
      revert h
      generalize a.eccType = x
      generalize b.eccType = y
      cases x <;> cases y <;> decide
    rw [Ecdh.sharedSecret, Ecdh.sharedSecret, Ecdh.len_publicKey hC, Ecdh.len_publicKey hC,
      if_pos hsize.symm, if_pos hsize]

/-- A provider and a consumer of one mode and one pre-shared key, or none. -/
structure Matched (p c : SymmetricAgreement C) : Prop where
  provider : p.provider = true
  consumer : c.provider = false
  hashType : p.hashType = c.hashType
  eccMode : p.eccMode = c.eccMode
  psk : p.psk = c.psk
  isPskUsed : p.isPskUsed = c.isPskUsed

/-- The provider's keys for a pattern, and the consumer's for its dual, are set and belong together. -/
def Linked (p c : SymmetricAgreement C) : MessagePattern → Prop
  | .S => ∃ s, p.s = some s ∧ c.rs = s.publicKey
  | .E => ∃ e, p.e = some e ∧ c.re = e.publicKey
  | .RS => ∃ s, c.s = some s ∧ p.rs = s.publicKey
  | .RE => ∃ e, c.e = some e ∧ p.re = e.publicKey
  | .DHSS => ∃ a b, p.s = some a ∧ c.rs = a.publicKey ∧ c.s = some b ∧ p.rs = b.publicKey
  | .DHSE => ∃ a b, p.s = some a ∧ c.rs = a.publicKey ∧ c.e = some b ∧ p.re = b.publicKey
  | .DHEE => ∃ a b, p.e = some a ∧ c.re = a.publicKey ∧ c.e = some b ∧ p.re = b.publicKey
  | .DHES => ∃ a b, p.e = some a ∧ c.re = a.publicKey ∧ c.s = some b ∧ p.rs = b.publicKey

section

variable {p c : SymmetricAgreement C} (h : Matched p c)

include h

/-- Both sides of a Diffie-Hellman step mix the consumer's public key and the same secret. -/
theorem mixDH_dual (hC : LawfulCrypto C) (a b : Ecdh C) (last : Bool) (st : Agreeing) :
    p.mixDH a b.publicKey last st = c.mixDH b a.publicKey last st := by
  simp only [SymmetricAgreement.mixDH, h.provider, h.consumer, if_true, Bool.false_eq_true, if_false,
    h.hashType, sharedSecret_comm hC a b]

/-- One step leaves both parties with the same. -/
theorem agreeStep_dual (hC : LawfulCrypto C) {pattern : MessagePattern} (hlinked : Linked p c pattern)
    (last : Bool) (st : Agreeing) : ∃ st', p.agreeStep last st pattern = some st' ∧
      c.agreeStep last st pattern.dual = some st' := by
  cases pattern with
  | S =>
    obtain ⟨s, hs, hrs⟩ := hlinked
    exact ⟨_, by rw [SymmetricAgreement.agreeStep, hs]; rfl,
      by rw [MessagePattern.dual, SymmetricAgreement.agreeStep, hrs]⟩
  | E =>
    obtain ⟨e, he, hre⟩ := hlinked
    exact ⟨_, by rw [SymmetricAgreement.agreeStep, he]; rfl,
      by rw [MessagePattern.dual, SymmetricAgreement.agreeStep, hre]⟩
  | RS =>
    obtain ⟨s, hs, hrs⟩ := hlinked
    exact ⟨_, rfl, by rw [MessagePattern.dual, SymmetricAgreement.agreeStep, hs, hrs]; rfl⟩
  | RE =>
    obtain ⟨e, he, hre⟩ := hlinked
    exact ⟨_, rfl, by rw [MessagePattern.dual, SymmetricAgreement.agreeStep, he, hre]; rfl⟩
  | DHSS | DHSE | DHEE | DHES =>
    obtain ⟨a, b, ha, hpa, hb, hpb⟩ := hlinked
    refine ⟨p.mixDH a b.publicKey last st, ?_, ?_⟩
    · rw [SymmetricAgreement.agreeStep, ha, hpb]
      rfl
    · rw [MessagePattern.dual, SymmetricAgreement.agreeStep, hb, hpa, mixDH_dual h hC]
      rfl

/-- And so does the loop. -/
theorem agreeLoop_dual (hC : LawfulCrypto C) {patterns : List MessagePattern}
    (hlinked : ∀ pattern ∈ patterns, Linked p c pattern) (st : Agreeing) :
    ∃ st', p.agreeLoop st patterns = some st' ∧ c.agreeLoop st (patterns.map .dual) = some st' := by
  induction patterns generalizing st with
  | nil => exact ⟨st, rfl, rfl⟩
  | cons pattern patterns ih =>
    obtain ⟨st₁, hp, hc⟩ := agreeStep_dual h hC (hlinked pattern List.mem_cons_self) patterns.isEmpty st
    obtain ⟨st₂, hp', hc'⟩ := ih (fun q hq => hlinked q (List.mem_cons_of_mem _ hq)) st₁
    refine ⟨st₂, ?_, ?_⟩
    · rw [SymmetricAgreement.agreeLoop, hp]
      exact hp'
    · rw [List.map_cons, SymmetricAgreement.agreeLoop, List.isEmpty_map, hc]
      exact hc'

/-- Over any list of patterns and its dual, both sides get one key and one associated data. -/
theorem agreeSymmetricKey_dual (hC : LawfulCrypto C) {patterns : List MessagePattern}
    (hlinked : ∀ pattern ∈ patterns, Linked p c pattern) (hp : p.messagePatterns[0]? = some patterns)
    (hc : c.messagePatterns[1]? = some (patterns.map .dual)) :
    ∃ agreed, p.agreeSymmetricKey = some agreed ∧ c.agreeSymmetricKey = some agreed := by
  have hstart : c.start = p.start := by
    rw [SymmetricAgreement.start, SymmetricAgreement.start, h.hashType, h.eccMode, h.psk, h.isPskUsed]
  obtain ⟨st, hploop, hcloop⟩ := agreeLoop_dual h hC hlinked p.start
  refine ⟨(st.gcmKey, C.hash p.eccMode.toHashType st.adHash), ?_, ?_⟩
  · rw [SymmetricAgreement.agreeSymmetricKey, h.provider, if_pos rfl, hp]
    simp only [Option.bind_eq_bind, Option.bind_some, hploop]
    rfl
  · rw [SymmetricAgreement.agreeSymmetricKey, h.consumer, if_neg Bool.false_ne_true, hc, hstart]
    simp only [Option.bind_eq_bind, Option.bind_some, hcloop, h.eccMode]
    rfl

end

end OpenNHP.Core.Ztdo
