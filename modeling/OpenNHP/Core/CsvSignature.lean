/-
  SM2 signatures as the standard verifies them (`nhp/core/verifier/csv/csv.go`: `VerifySignature`).

  THE PROGRAM.  `VerifySignature` refers to the algorithm of GB/T 32918.2, 7.1, over a curve whose operations are
  those of a group, with the pair of zeros for the point at infinity (`CurveLaw`).

  THE SPECIFICATION.  It accepts what the standard accepts (`Accepts`).

  WHERE IT FAILS.  It leaves out one of the steps: `t` may be zero.  Then the public key drops out of the sum, and
  the signature is good under every key (`KeyDropsOut`).

  THE CRUX.  The source adds `[s]G` and `[t]P` with one function for equal points and another for different ones,
  and the group law has one addition; `sum_point` is the step between them.

  ASSEMBLY.  `verifySignature_iff`, for all integers, and a small curve of which everything is computed
  (`zero_t_accepted`).
-/
import OpenNHP.Core.Csv
import OpenNHP.KGC.Weierstrass

namespace OpenNHP.Core.Csv

open BigEndian

variable (crypto : Crypto)

/-- The operations of the library's curve are those of a group. -/
structure CurveLaw (E : Type) [AddCommGroup E] where
  point : E → Nat × Nat
  base : E
  point_zero : point 0 = (0, 0)
  point_injective : Function.Injective point
  scalarBaseMult_eq : ∀ k, crypto.scalarBaseMult k = point (getBE k • base)
  scalarMult_point : ∀ P k, crypto.scalarMult (point P) k = .ok (point (getBE k • P))
  add_point : ∀ P Q, crypto.add (point P) (point Q) = .ok (point (P + Q))
  double_point : ∀ P, crypto.double (point P) = .ok (point (P + P))

/-- `VerifySignature` for integers, which may be negative. -/
def verifySignatureInt (pub : Nat × Nat) (hash : Bytes) (r s : Int) : Except Failure Bool :=
  if r < 0 ∨ s < 0 then .ok false else verifySignature crypto pub hash r.toNat s.toNat

variable {crypto} {E : Type} [AddCommGroup E] (law : CurveLaw crypto E)

namespace CurveLaw

/-! ## The standard and the condition -/

/-- The verification of GB/T 32918.2, 7.1, of the integers `e`, `r` and `s` under a public key. -/
def Accepts (P : E) (e : Nat) (r s : Int) : Prop :=
  let t := ((r + s) % crypto.n).toNat
  (1 ≤ r ∧ r ≤ crypto.n - 1) ∧ (1 ≤ s ∧ s ≤ crypto.n - 1) ∧ t ≠ 0 ∧
    ((e : Int) + (law.point (s.toNat • law.base + t • P)).1) % crypto.n = r

/-- The scalar of the public key is zero, and the equation holds without it. -/
def KeyDropsOut (e : Nat) (r s : Int) : Prop :=
  (0 < r ∧ 0 < s ∧ r + s = crypto.n) ∧ ((e : Int) + (law.point (s.toNat • law.base)).1) % crypto.n = r

/-! ## The equation of the code -/

/-- The case of equal points is an addition like the others. -/
theorem sum_point (P Q : E) :
    (if law.point P = law.point Q then crypto.double (law.point P)
      else crypto.add (law.point P) (law.point Q)) = .ok (law.point (P + Q)) := by
  split_ifs with h
  · obtain rfl := law.point_injective h
    exact law.double_point P
  · exact law.add_point P Q

/-- Within the ranges the answer is that of one equation in the group. -/
theorem verifySignature_eq (P : E) (hash : Bytes) {r s : Nat} (hr : 0 < r ∧ r < crypto.n)
    (hs : 0 < s ∧ s < crypto.n) :
    verifySignature crypto (law.point P) hash r s =
      .ok (decide (r = ((law.point (s • law.base + ((r + s) % crypto.n) • P)).1 + getBE hash) % crypto.n)) := by
  have hrange : ¬(r = 0 ∨ s = 0 ∨ crypto.n ≤ r ∨ crypto.n ≤ s) := by omega
  rw [verifySignature, if_neg hrange]
  simp only [law.scalarBaseMult_eq, law.scalarMult_point, getBE_bytes, bind, Except.bind, pure, Except.pure]
  have hsum := law.sum_point (s • law.base) (((r + s) % crypto.n) • P)
  split_ifs with heq
  · rw [if_pos heq] at hsum
    rw [hsum]
  · rw [if_neg heq] at hsum
    rw [hsum]

/-- The code accepts what is in the range and satisfies the equation. -/
theorem verifySignatureInt_eq_true (P : E) (hash : Bytes) (r s : Int) :
    verifySignatureInt crypto (law.point P) hash r s = .ok true ↔
      (0 < r ∧ r < crypto.n) ∧ (0 < s ∧ s < crypto.n) ∧
        ((getBE hash : Int) + (law.point (s.toNat • law.base + ((r + s) % crypto.n).toNat • P)).1) % crypto.n = r := by
  by_cases hrange : (0 < r ∧ r < crypto.n) ∧ (0 < s ∧ s < crypto.n)
  · obtain ⟨hr, hs⟩ := hrange
    obtain ⟨r, rfl⟩ := Int.eq_ofNat_of_zero_le (Int.le_of_lt hr.1)
    obtain ⟨s, rfl⟩ := Int.eq_ofNat_of_zero_le (Int.le_of_lt hs.1)
    have ht : (((r : Int) + s) % crypto.n).toNat = (r + s) % crypto.n := by
      rw [← Int.natCast_add, ← Int.natCast_mod, Int.toNat_natCast]
    rw [verifySignatureInt, if_neg (by omega), Int.toNat_natCast, Int.toNat_natCast,
      law.verifySignature_eq P hash (by omega) (by omega), ht, Except.ok.injEq, decide_eq_true_iff, Nat.add_comm]
    constructor
    · intro h
      exact ⟨hr, hs, by exact_mod_cast h.symm⟩
    · rintro ⟨-, -, h⟩
      exact_mod_cast h.symm
  · refine iff_of_false ?_ (fun h => hrange ⟨h.1, h.2.1⟩)
    rw [verifySignatureInt]
    split_ifs with hneg
    · intro h
      cases h
    · rw [verifySignature, if_pos (by omega)]
      intro h
      cases h

end CurveLaw

/-- For every public key on the curve, digest and pair of integers, `VerifySignature` decides as the standard
    does exactly when the two do not add up to the order, or the equation fails without the key. -/
theorem verifySignature_iff (P : E) (hash : Bytes) (r s : Int) :
    (verifySignatureInt crypto (law.point P) hash r s = .ok true ↔ law.Accepts P (getBE hash) r s) ↔
      ¬law.KeyDropsOut (getBE hash) r s := by
  rw [law.verifySignatureInt_eq_true]
  constructor
  · -- a sum of the two that is the order makes `t` zero
    rintro hsame ⟨⟨hr, hs, hsum⟩, heq⟩
    have ht : ((r + s) % crypto.n).toNat = 0 := by rw [hsum, Int.emod_self, Int.toNat_zero]
    refine (hsame.mp ⟨by omega, by omega, ?_⟩).2.2.1 ht
    rw [ht, zero_nsmul, add_zero]
    exact heq
  · intro hkey
    constructor
    · rintro ⟨hr, hs, heq⟩
      refine ⟨by omega, by omega, ?_, heq⟩
      intro ht
      rw [ht, zero_nsmul, add_zero] at heq
      refine hkey ⟨⟨hr.1, hs.1, ?_⟩, heq⟩
      -- below twice the order there is one multiple of it
      have hmod : (r + s) % crypto.n = 0 := by
        have hnonneg := Int.emod_nonneg (r + s) (b := crypto.n) (by omega)
        omega
      obtain ⟨q, hq⟩ := Int.dvd_of_emod_eq_zero hmod
      have hq₁ : q = 1 := by nlinarith
      rw [hq, hq₁, mul_one]
    · rintro ⟨hr, hs, -, heq⟩
      exact ⟨by omega, by omega, heq⟩

/-! ## A small curve -/

open KGC.CustomStandardCurve (smallParams smallLaw)

/-- An operation of the curve for key generation, as one of the library's. -/
def lift {α : Type} : Except KGC.Failure α → Except Failure α
  | .ok a => .ok a
  | .error _ => .error .panic

/-- The operations of a curve with 499 points. -/
def smallCrypto : Crypto where
  n := 499
  scalarBaseMult k :=
    match KGC.CustomStandardCurve.scalarBaseMult smallParams k with
    | .ok p => p
    | .error _ => (0, 0)
  scalarMult p k := lift (KGC.CustomStandardCurve.scalarMult smallParams p k)
  add p q := lift (KGC.CustomStandardCurve.add smallParams p q)
  double p := lift (KGC.CustomStandardCurve.add smallParams p p)
  sm3 := id

/-- They are those of a group. -/
def smallCurveLaw : CurveLaw smallCrypto (KGC.CustomStandardCurve.weierstrass smallParams).Point where
  point := smallLaw.point
  base := smallLaw.base
  point_zero := smallLaw.point_zero
  point_injective := smallLaw.point_injective
  scalarBaseMult_eq k := by
    have h : KGC.CustomStandardCurve.scalarBaseMult smallParams k = _ := smallLaw.scalarBaseMult_eq k
    show (match KGC.CustomStandardCurve.scalarBaseMult smallParams k with | .ok p => p | .error _ => (0, 0)) = _
    rw [h]
  scalarMult_point P k := congrArg lift (smallLaw.scalarMult_point P k)
  add_point P Q := congrArg lift (smallLaw.add_point P Q)
  double_point P := congrArg lift (smallLaw.add_point P P)

/-- Its base point. -/
theorem smallCurveLaw_base : smallCurveLaw.point smallCurveLaw.base = (1, 32) :=
  KGC.CustomStandardCurve.basePoint_small.coordinates_point

/-- A signature under the base point as public key. -/
theorem verifySignature_small : smallCurveLaw.Accepts smallCurveLaw.base (getBE [1, 155]) 2 3 := by
  refine ((verifySignature_iff smallCurveLaw smallCurveLaw.base [1, 155] 2 3).mpr ?_).mp ?_
  · rintro ⟨⟨-, -, hsum⟩, -⟩
    exact absurd hsum (by decide)
  · rw [smallCurveLaw_base]
    decide +kernel

/-- The numbers 498 and 1 add up to the order: accepted, under a key that nobody used. -/
theorem zero_t_accepted :
    ¬(verifySignatureInt smallCrypto (smallCurveLaw.point smallCurveLaw.base) [1, 241] 498 1 = .ok true ↔
      smallCurveLaw.Accepts smallCurveLaw.base (getBE [1, 241]) 498 1) := by
  intro h
  have haccepted : verifySignatureInt smallCrypto (smallCurveLaw.point smallCurveLaw.base) [1, 241] 498 1
      = .ok true := by
    rw [smallCurveLaw_base]
    decide +kernel
  obtain ⟨-, -, ht, -⟩ := h.mp haccepted
  exact ht (by decide)

end OpenNHP.Core.Csv
