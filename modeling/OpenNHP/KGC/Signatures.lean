/-
  Signatures with the keys of the centre (`endpoints/kgc/user/user.go`, `main/main.go`).

  THE PROGRAM.  `Sign` and `Verify` are those of ECDSA.  The sign command writes the bytes of `r` and those of `s`
  one after the other, without leading zeros, and `Verify` cuts what it is given in the middle.

  THE SPECIFICATION.  A signature that was made is accepted, for the message and under the key that goes with the
  private key.

  THE CRUX.  With that key the two multiples of `Verify` add up to the nonce's point (`nonce_point`), so the pair
  `(r, s)` is accepted (`verifyPair_sign`).  Whether the pair is seen again is a question of lengths
  (`splitSignature_iff`).

  WHERE IT FAILS.  `Verify` sees the signature that was made, and accepts it, exactly when `s` has as many bytes
  as `r` or one more (`verify_iff`); a short `s` is rejected (`short_s_rejected`).
-/
import OpenNHP.KGC.Keys

namespace OpenNHP.KGC

open BigEndian
open Fallible (bind_eq_ok)

/-! ## Signing and verifying -/

/-- Where there is no inverse, `ModInverse` returns nil and `Mul` dereferences it. -/
def inverse (x n : Nat) : Except Failure Nat :=
  match modInverse x n with
  | some xInv => .ok xInv
  | none => .error .panic

namespace UserImpl

variable (u : UserImpl)

/-- `Sign`. -/
def sign (prkBase64 message : Bytes) (draw : Draw u.curve) : Except Failure (Nat × Nat) := do
  let msgHash := u.h message
  let k ← generateRandomNumber draw
  let kG ← u.curve.scalarBaseMult (bytes k)
  let r := kG.1 % u.curve.params.N
  if r = 0 then .error (.err "invalid r value")
  else do
    let prk ← decodeBase64 prkBase64
    let kInv ← inverse k u.curve.params.N
    let s := (r * getBE prk + getBE msgHash) * kInv % u.curve.params.N
    if s = 0 then .error (.err "invalid s value") else .ok (r, s)

/-- The two numbers of a signature. -/
def splitSignature (sig : Bytes) : Nat × Nat :=
  (getBE (sig.take (sig.length / 2)), getBE (sig.drop (sig.length / 2)))

/-- `Verify` behind the decoding of the signature; the only failure is a panic. -/
def verifyPair (declaredPbkBase64 userId message : Bytes) : Nat × Nat → Except Failure Bool
  | (r, s) =>
    let n := u.curve.params.N
    if r = 0 ∨ n ≤ r then .ok false
    else if s = 0 ∨ n ≤ s then .ok false
    else do
      let msgHash := u.h message
      let w ← inverse s n
      let u1 := getBE msgHash * w % n
      let u2 := r * w % n
      match u.calculateFullPublicKey declaredPbkBase64 userId with
      | .error .panic => .error .panic
      | .error _ => .ok false
      | .ok userPub => do
        let p1 ← u.curve.scalarBaseMult (bytes u1)
        let p2 ← u.curve.scalarMult userPub (bytes u2)
        let p ← u.curve.add p1 p2
        return r = p.1 % n

/-- `Verify`. -/
def verify (declaredPbkBase64 userId message sigBase64 : Bytes) : Except Failure Bool :=
  match Base64.decodeString sigBase64 with
  | (_, false) => .ok false
  | (sig, true) => u.verifyPair declaredPbkBase64 userId message (splitSignature sig)

end UserImpl

/-- What the sign command prints. -/
def signatureText (sig : Nat × Nat) : Bytes := Base64.encodeToString (bytes sig.1 ++ bytes sig.2)

/-! ## Scalars modulo the order -/

/-- Scalars that are equal in the field of the order have the same multiple of the base point. -/
theorem GroupLaw.smul_base_congr {c : Curve} {E : Type} [AddCommGroup E] (law : GroupLaw c E) {a b : Nat}
    (h : (a : ZMod c.params.N) = b) : a • law.base = b • law.base := by
  rw [← law.mod_smul_base a, ← law.mod_smul_base b, (ZMod.natCast_eq_natCast_iff' a b c.params.N).mp h]

/-- An inverse that is found is one, -/
theorem inverse_eq_ok {x n xInv : Nat} (h : inverse x n = .ok xInv) : (xInv : ZMod n) * x = 1 := by
  rw [inverse] at h
  split at h
  · rename_i z hz
    obtain rfl := Except.ok.inj h
    exact modInverse_mul hz
  · cases h

/-- and there is one for what is coprime. -/
theorem inverse_ok {x n : Nat} (h : Nat.Coprime x n) : ∃ xInv, inverse x n = .ok xInv := by
  obtain ⟨xInv, hinv⟩ := Option.isSome_iff_exists.mp (isSome_modInverse.mpr h)
  exact ⟨xInv, by rw [inverse, hinv]⟩

/-- A number below a prime that is not zero has an inverse. -/
theorem inverse_ok_of_lt {x n : Nat} (hn : n.Prime) (hpos : 0 < x) (hlt : x < n) :
    ∃ xInv, inverse x n = .ok xInv := by
  refine inverse_ok ?_
  rw [Nat.coprime_comm, hn.coprime_iff_not_dvd]
  intro hdvd
  exact absurd (Nat.le_of_dvd hpos hdvd) (by omega)

/-! ## What the calls compute -/

/-- Everything a signature is. -/
theorem sign_eq_ok {u : UserImpl} {prkBase64 message : Bytes} {draw : Draw u.curve} {r s : Nat}
    (h : u.sign prkBase64 message draw = .ok (r, s)) :
    ∃ k kG prk kInv, generateRandomNumber draw = .ok k ∧ u.curve.scalarBaseMult (bytes k) = .ok kG ∧
      decodeBase64 prkBase64 = .ok prk ∧ inverse k u.curve.params.N = .ok kInv ∧
      r = kG.1 % u.curve.params.N ∧ r ≠ 0 ∧
      s = (r * getBE prk + getBE (u.h message)) * kInv % u.curve.params.N ∧ s ≠ 0 := by
  obtain ⟨k, hk, h⟩ := bind_eq_ok h
  obtain ⟨kG, hkG, h⟩ := bind_eq_ok h
  dsimp only at h
  split_ifs at h with hr
  obtain ⟨prk, hprk, h⟩ := bind_eq_ok h
  obtain ⟨kInv, hinv, h⟩ := bind_eq_ok h
  split_ifs at h with hs
  obtain ⟨rfl, rfl⟩ := Prod.mk.inj (Except.ok.inj h)
  exact ⟨k, kG, prk, kInv, hk, hkG, hprk, hinv, rfl, hr, rfl, hs⟩

/-- The sign command's text is decoded to the two byte strings. -/
theorem verify_signatureText (u : UserImpl) (declaredPbkBase64 userId message : Bytes) (sig : Nat × Nat) :
    u.verify declaredPbkBase64 userId message (signatureText sig) =
      u.verifyPair declaredPbkBase64 userId message (UserImpl.splitSignature (bytes sig.1 ++ bytes sig.2)) := by
  rw [UserImpl.verify, signatureText, Base64.decodeString_encodeToString]

/-- The middle is between the two where their lengths fit. -/
theorem splitSignature_iff {r s : Nat} : UserImpl.splitSignature (bytes r ++ bytes s) = (r, s) ↔
    byteLength s = byteLength r ∨ byteLength s = byteLength r + 1 := by
  rw [UserImpl.splitSignature, Prod.mk.injEq]
  exact split_middle_iff

/-! ## The algebra -/

section Algebra

variable {u : UserImpl} {E : Type} [AddCommGroup E] (law : GroupLaw u.curve E)
include law

/-- With `s = k⁻¹(e + r·d)` and `w = s⁻¹`, the multiples by `u1 = e·w` and `u2 = r·w` add up to `k`. -/
theorem nonce_point {k kInv e r d s w : Nat} (hk : (kInv : ZMod u.curve.params.N) * k = 1)
    (hs : s = (r * d + e) * kInv % u.curve.params.N) (hw : (w : ZMod u.curve.params.N) * s = 1) :
    (e * w % u.curve.params.N) • law.base + (r * w % u.curve.params.N) • (d • law.base) = k • law.base := by
  have hcast : (s : ZMod u.curve.params.N) = (r * d + e) * kInv := by
    rw [hs, ZMod.natCast_mod]
    push_cast
    rfl
  have hscalar : ((e * w % u.curve.params.N + r * w % u.curve.params.N * d : Nat) : ZMod u.curve.params.N) = k := by
    push_cast
    rw [ZMod.natCast_mod, ZMod.natCast_mod]
    push_cast
    calc (e * w + r * w * d : ZMod u.curve.params.N) = w * (r * d + e) * 1 := by ring
      _ = w * (r * d + e) * (kInv * k) := by rw [hk]
      _ = w * ((r * d + e) * kInv) * k := by ring
      _ = k := by rw [← hcast, hw, one_mul]
  -- both sides are multiples of the base point, so scalars modulo its order decide
  rw [← mul_nsmul', ← add_nsmul]
  exact law.smul_base_congr hscalar

/-- `Verify` on a pair in range and a key that is a point. -/
theorem verifyPair_point {declaredPbkBase64 userId message : Bytes} {r s w : Nat} {Q : E}
    (hpub : u.calculateFullPublicKey declaredPbkBase64 userId = .ok (law.point Q))
    (hr : r ≠ 0 ∧ r < u.curve.params.N) (hs : s ≠ 0 ∧ s < u.curve.params.N)
    (hw : inverse s u.curve.params.N = .ok w) :
    u.verifyPair declaredPbkBase64 userId message (r, s) =
      .ok (r = (law.point ((getBE (u.h message) * w % u.curve.params.N) • law.base +
        (r * w % u.curve.params.N) • Q)).1 % u.curve.params.N) := by
  rw [UserImpl.verifyPair, if_neg (by omega), if_neg (by omega), hw, hpub]
  show (u.curve.scalarBaseMult (bytes (getBE (u.h message) * w % u.curve.params.N)) >>= _) = _
  rw [law.scalarBaseMult_eq]
  show (u.curve.scalarMult (law.point Q) (bytes (r * w % u.curve.params.N)) >>= _) = _
  rw [law.scalarMult_point]
  show (u.curve.add (law.point _) (law.point _) >>= _) = _
  rw [law.add_point, getBE_bytes, getBE_bytes]
  rfl

/-- A signature that is seen as it was made is accepted, and the sum in `Verify` is the nonce's point. -/
theorem verifyPair_sign {prkBase64 declaredPbkBase64 userId message : Bytes} {draw : Draw u.curve}
    {prk : Bytes} {r s : Nat} (hprk : decodeBase64 prkBase64 = .ok prk)
    (hpub : u.calculateFullPublicKey declaredPbkBase64 userId = .ok (law.point (getBE prk • law.base)))
    (hsign : u.sign prkBase64 message draw = .ok (r, s)) :
    u.verifyPair declaredPbkBase64 userId message (r, s) = .ok true ∧
      ∃ k w, generateRandomNumber draw = .ok k ∧ inverse s u.curve.params.N = .ok w ∧
        (getBE (u.h message) * w % u.curve.params.N) • law.base +
          (r * w % u.curve.params.N) • (getBE prk • law.base) = k • law.base := by
  obtain ⟨k, kG, prk', kInv, hk, hkG, hprk', hinv, hr, hr0, hs, hs0⟩ := sign_eq_ok hsign
  obtain rfl : prk = prk' := Except.ok.inj (hprk.symm.trans hprk')
  have hN : 0 < u.curve.params.N := law.order_prime.pos
  have hrlt : r < u.curve.params.N := hr ▸ Nat.mod_lt _ hN
  have hslt : s < u.curve.params.N := hs ▸ Nat.mod_lt _ hN
  obtain ⟨w, hw⟩ := inverse_ok_of_lt law.order_prime (Nat.pos_of_ne_zero hs0) hslt
  have hnonce := nonce_point law (e := getBE (u.h message)) (inverse_eq_ok hinv) hs (inverse_eq_ok hw)
  -- `Verify` computes the first coordinate of the point that `Sign` took `r` from
  have hpoint : law.point (k • law.base) = kG := by
    rw [law.scalarBaseMult_eq, getBE_bytes] at hkG
    exact Except.ok.inj hkG
  refine ⟨?_, k, w, hk, hw, hnonce⟩
  rw [verifyPair_point law hpub ⟨hr0, hrlt⟩ ⟨hs0, hslt⟩ hw, hnonce, hpoint]
  exact congrArg Except.ok (decide_eq_true hr)

/-- For every message, key and nonce: the sum in `Verify` is the nonce's point, and the printed signature is
    read as the one that was made, and accepted, exactly when `s` has as many bytes as `r` or one more. -/
theorem verify_iff {prkBase64 declaredPbkBase64 userId message : Bytes} {draw : Draw u.curve}
    {prk : Bytes} {r s : Nat} (hprk : decodeBase64 prkBase64 = .ok prk)
    (hpub : u.calculateFullPublicKey declaredPbkBase64 userId = .ok (law.point (getBE prk • law.base)))
    (hsign : u.sign prkBase64 message draw = .ok (r, s)) :
    (∃ k w, generateRandomNumber draw = .ok k ∧ inverse s u.curve.params.N = .ok w ∧
      (getBE (u.h message) * w % u.curve.params.N) • law.base +
        (r * w % u.curve.params.N) • (getBE prk • law.base) = k • law.base) ∧
    (UserImpl.splitSignature (bytes r ++ bytes s) = (r, s) ∧
        u.verify declaredPbkBase64 userId message (signatureText (r, s)) = .ok true ↔
      byteLength s = byteLength r ∨ byteLength s = byteLength r + 1) := by
  obtain ⟨haccepted, hnonce⟩ := verifyPair_sign law hprk hpub hsign
  refine ⟨hnonce, ?_⟩
  rw [← splitSignature_iff, verify_signatureText]
  constructor
  · intro h
    exact h.1
  · intro hsplit
    refine ⟨hsplit, ?_⟩
    rw [hsplit]
    exact haccepted

end Algebra

/-! ## Signatures on a small curve -/

open CustomStandardCurve (smallLaw)

/-- The user of the small curve. -/
def smallUser : UserImpl := newUser smallCurve smallHash smallMaster

/-- The private key as the keygen command prints it. -/
def smallPrkBase64 : Bytes := Base64.encodeToString (bytes smallFullKey.privateKey)

/-- The declared point of its key. -/
def smallDeclared : Bytes := fixedDeclared smallCurve (smallFullKey.pubX, smallFullKey.pubY)

/-- `hi` -/
def smallMessage : Bytes := [104, 105]

/-- The private key is read from its text. -/
theorem smallPrk_eq : decodeBase64 smallPrkBase64 = .ok (bytes smallFullKey.privateKey) := by decide +kernel

/-- The public key goes with it. -/
theorem smallPub_eq : smallUser.calculateFullPublicKey smallDeclared smallId =
    .ok (smallLaw.point (getBE (bytes smallFullKey.privateKey) • smallLaw.base)) :=
  (show smallUser.calculateFullPublicKey smallDeclared smallId =
    smallCurve.scalarBaseMult (bytes smallFullKey.privateKey) by decide +kernel).trans
      (smallLaw.scalarBaseMult_eq _)

/-- The signature that is made of a message. -/
theorem smallSign_eq : smallUser.sign smallPrkBase64 smallMessage (.ok (2 : Fin 499)) = .ok (254, 115) := by
  decide +kernel

/-- It is accepted. -/
theorem verify_small :
    (∃ k w, generateRandomNumber (.ok (2 : Fin 499)) = .ok k ∧ inverse 115 smallUser.curve.params.N = .ok w ∧
      (getBE (smallUser.h smallMessage) * w % smallUser.curve.params.N) • smallLaw.base +
        (254 * w % smallUser.curve.params.N) • (getBE (bytes smallFullKey.privateKey) • smallLaw.base) =
        k • smallLaw.base) ∧
    (UserImpl.splitSignature (bytes 254 ++ bytes 115) = (254, 115) ∧
        smallUser.verify smallDeclared smallId smallMessage (signatureText (254, 115)) = .ok true ↔
      byteLength 115 = byteLength 254 ∨ byteLength 115 = byteLength 254 + 1) :=
  verify_iff (u := smallUser) smallLaw smallPrk_eq smallPub_eq smallSign_eq

/-- With the nonce 3, `r` has two bytes and `s` has one: the signature that is printed is rejected. -/
theorem short_s_rejected : smallUser.sign smallPrkBase64 smallMessage (.ok (3 : Fin 499)) = .ok (343, 227) ∧
    decodeBase64 smallPrkBase64 = .ok (bytes smallFullKey.privateKey) ∧
    smallUser.calculateFullPublicKey smallDeclared smallId =
      smallCurve.scalarBaseMult (bytes smallFullKey.privateKey) ∧
    smallUser.verify smallDeclared smallId smallMessage (signatureText (343, 227)) = .ok false := by
  refine ⟨?_, ?_, ?_, ?_⟩ <;> decide +kernel

end OpenNHP.KGC
