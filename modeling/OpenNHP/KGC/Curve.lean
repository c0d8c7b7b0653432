/-
  Elliptic curves as the key generation centre uses them (`endpoints/kgc/curve/curve.go`).

  1. A point is a pair of coordinates, and the pair of zeros is the point at infinity.
  2. `Curve` is the interface; the centre runs over a library's curve, and the repository has an implementation of
     its own, `CustomStandardCurve`, which follows the source here: `Add` by the formulas, with Go's `ModInverse`,
     which gives nothing for zero, and `ScalarMult` from the highest bit down.
  3. `GroupLaw` says what a curve is to compute: the operations of a group on its points, with a base point of
     prime order.  What the centre's algorithms compute is then said in the group.
  4. The loop over the bits computes the multiple wherever `Add` is the group's addition (`scalarLoop_point`).
-/
import OpenNHP.Lib.MinimalBytes
import OpenNHP.Lib.ModInverse
import Mathlib.GroupTheory.OrderOfElement
import Mathlib.Data.Nat.Prime.Basic

namespace OpenNHP.KGC

open BigEndian

/-- How a call can fail: with an error of its own, with that of the Base64 decoder, or by a run-time
    panic. -/
inductive Failure
  | err (text : String)
  | corruptInput
  | panic
  deriving DecidableEq, Repr

/-! ## The interface -/

/-- `elliptic.CurveParams`. -/
structure CurveParams where
  P : Nat
  N : Nat
  A : Nat
  B : Nat
  Gx : Nat
  Gy : Nat
  BitSize : Nat

/-- The operations the centre calls; scalars are big-endian bytes. -/
structure Curve where
  params : CurveParams
  add : Nat × Nat → Nat × Nat → Except Failure (Nat × Nat)
  scalarMult : Nat × Nat → Bytes → Except Failure (Nat × Nat)
  scalarBaseMult : Bytes → Except Failure (Nat × Nat)

/-- The bytes a coordinate takes in a key that is published. -/
def CurveParams.byteLen (c : CurveParams) : Nat := c.BitSize / 8

/-! ## `CustomStandardCurve` -/

namespace CustomStandardCurve

variable (c : CurveParams)

/-- `num · den⁻¹ mod p`; `ModInverse` returns nil where there is no inverse, and `Mul` dereferences it. -/
def quotient (num den : Int) : Except Failure Int :=
  match modInverse (den % c.P).toNat c.P with
  | some denInv => .ok (num % c.P * denInv % c.P)
  | none => .error .panic

/-- The slope of the line through two points, or of the tangent at one. -/
def slope (x1 y1 x2 y2 : Nat) : Except Failure Int :=
  if x1 = x2 ∧ y1 = y2 then quotient c (3 * (x1 : Int) ^ 2 + c.A) (2 * y1)
  else quotient c ((y2 : Int) - y1) ((x2 : Int) - x1)

/-- `Add`. -/
def add : Nat × Nat → Nat × Nat → Except Failure (Nat × Nat)
  | (x1, y1), (x2, y2) =>
    if x1 = 0 ∧ y1 = 0 then .ok (x2, y2)
    else if x2 = 0 ∧ y2 = 0 then .ok (x1, y1)
    else if x1 = x2 ∧ (y1 : Int) = c.P - y2 then .ok (0, 0)
    else do
      let lambda ← slope c x1 y1 x2 y2
      let x3 := (lambda ^ 2 - x1 - x2) % c.P
      let y3 := ((x1 - x3) * lambda - y1) % c.P
      return (x3.toNat, y3.toNat)

/-- The loop of `ScalarMult`; `fuel` bounds the bits of `kCopy`. -/
def scalarLoop : Nat → Nat × Nat → Nat × Nat → Nat → Except Failure (Nat × Nat)
  | 0, xy, _, _ => .ok xy
  | fuel + 1, xy, xy1, kCopy =>
    if kCopy = 0 then .ok xy
    else do
      let xy ← if kCopy % 2 = 1 then add c xy xy1 else .ok xy
      let xy1 ← add c xy1 xy1
      scalarLoop fuel xy xy1 (kCopy / 2)

/-- `ScalarMult`. -/
def scalarMult (xy1 : Nat × Nat) (k : Bytes) : Except Failure (Nat × Nat) :=
  scalarLoop c (Nat.log2 (getBE k) + 1) (0, 0) xy1 (getBE k)

/-- `ScalarBaseMult`. -/
def scalarBaseMult (k : Bytes) : Except Failure (Nat × Nat) := scalarMult c (c.Gx, c.Gy) k

/-- The implementation, as the interface. -/
def curve : Curve where
  params := c
  add := add c
  scalarMult := scalarMult c
  scalarBaseMult := scalarBaseMult c

/-! ## Multiples of a point -/

section Multiples

variable {c} {E : Type} [AddCommGroup E] {point : E → Nat × Nat}
  (hadd : ∀ P Q, add c (point P) (point Q) = .ok (point (P + Q)))
include hadd

/-- The loop adds the multiple of what is left of the scalar to what it has. -/
theorem scalarLoop_point {fuel k : Nat} (hk : k < 2 ^ fuel) (P Q : E) :
    scalarLoop c fuel (point P) (point Q) k = .ok (point (P + k • Q)) := by
  induction fuel generalizing k P Q with
  | zero =>
    obtain rfl : k = 0 := by omega
    rw [zero_nsmul, add_zero]
    rfl
  | succ fuel ih =>
    rw [scalarLoop]
    by_cases hzero : k = 0
    · rw [if_pos hzero, hzero, zero_nsmul, add_zero]
    rw [if_neg hzero]
    have hhalf : k / 2 < 2 ^ fuel := by omega
    by_cases hodd : k % 2 = 1
    · have hk2 : k = 2 * (k / 2) + 1 := by omega
      rw [if_pos hodd, hadd P Q]
      show (add c (point Q) (point Q) >>= _) = _
      rw [hadd Q Q]
      show scalarLoop c fuel _ _ (k / 2) = _
      rw [ih hhalf, ← two_nsmul, ← mul_nsmul, add_assoc, ← succ_nsmul', ← hk2]
    · have hk2 : k = 2 * (k / 2) := by omega
      rw [if_neg hodd]
      show (add c (point Q) (point Q) >>= _) = _
      rw [hadd Q Q]
      show scalarLoop c fuel _ _ (k / 2) = _
      rw [ih hhalf, ← two_nsmul, ← mul_nsmul, ← hk2]

/-- Where `Add` is the addition of a group, `ScalarMult` is its multiple. -/
theorem scalarMult_point (hzero : point 0 = (0, 0)) (P : E) (k : Bytes) :
    scalarMult c (point P) k = .ok (point (getBE k • P)) := by
  have hloop := scalarLoop_point hadd (Nat.lt_log2_self (n := getBE k)) 0 P
  rw [zero_add, hzero] at hloop
  exact hloop

end Multiples

end CustomStandardCurve

/-! ## The group law -/

/-- The operations of a curve are those of a group on its points, written in coordinates that fit the bytes
    of a published key; the base point has prime order `N`. -/
structure GroupLaw (c : Curve) (E : Type) [AddCommGroup E] where
  point : E → Nat × Nat
  base : E
  point_zero : point 0 = (0, 0)
  point_injective : ∀ P Q, point P = point Q → P = Q
  coordinates_lt : ∀ P, (point P).1 < 256 ^ c.params.byteLen ∧ (point P).2 < 256 ^ c.params.byteLen
  add_point : ∀ P Q, c.add (point P) (point Q) = .ok (point (P + Q))
  scalarMult_point : ∀ P k, c.scalarMult (point P) k = .ok (point (getBE k • P))
  scalarBaseMult_eq : ∀ k, c.scalarBaseMult k = .ok (point (getBE k • base))
  order : c.params.N • base = 0
  order_prime : c.params.N.Prime
  base_ne_zero : base ≠ 0

namespace GroupLaw

variable {c : Curve} {E : Type} [AddCommGroup E] (law : GroupLaw c E)

/-- Multiples of the base point depend on the scalar modulo the order only. -/
theorem mod_smul_base (k : Nat) : (k % c.params.N) • law.base = k • law.base := by
  conv_rhs => rw [← Nat.div_add_mod k c.params.N]
  rw [add_nsmul, mul_nsmul, law.order, nsmul_zero, zero_add]

end GroupLaw

end OpenNHP.KGC
