/-
  The repository's own curve computes a group law (`endpoints/kgc/curve/curve.go`).

  1. Over a prime field the points of the curve form a group (`weierstrass c`), which is the library's.
  2. Where the cubic has no root (`NoOrderTwo`), no point has zero as its second coordinate, and the pair of zeros
     is free to stand for the point at infinity (`coordinates_injective`).
  3. There `CustomStandardCurve.Add` is the group's addition, without a panic: the case of the opposite point is
     the source's third (`val_eq_sub_iff`), and in the others the slope is the library's (`slope_eq`), as its
     denominator is not zero.
  4. `ScalarMult` follows by the loop of `OpenNHP.KGC.Curve`, and all of it is `groupLaw`.
-/
import OpenNHP.KGC.Curve
import Mathlib.AlgebraicGeometry.EllipticCurve.Affine.Point
import Mathlib.Algebra.Field.ZMod
import Mathlib.Tactic.NormNum.Prime

namespace OpenNHP.KGC.CustomStandardCurve

open BigEndian
open WeierstrassCurve.Affine (Point)

variable (c : CurveParams) [hprime : Fact c.P.Prime]

/-- `y² = x³ + ax + b` -/
def weierstrass : WeierstrassCurve.Affine (ZMod c.P) where
  a₁ := 0
  a₂ := 0
  a₃ := 0
  a₄ := c.A
  a₆ := c.B

/-- The coordinates of a point, as the source writes them. -/
def coordinates : (weierstrass c).Point → Nat × Nat
  | .zero => (0, 0)
  | .some x y _ => (x.val, y.val)

/-- The pair of zeros is the point at infinity, -/
theorem coordinates_zero : coordinates c 0 = (0, 0) := rfl

/-- and the others are their coordinates. -/
theorem coordinates_some {x y : ZMod c.P} (h : (weierstrass c).Nonsingular x y) :
    coordinates c (.some x y h) = (x.val, y.val) := rfl

/-- No point has order two: the field is not that of two elements, and the cubic has no root in it. -/
structure NoOrderTwo : Prop where
  odd : (2 : ZMod c.P) ≠ 0
  noRoot : ∀ x : ZMod c.P, x ^ 3 + c.A * x + c.B ≠ 0

variable {c}

/-! ## Arithmetic modulo the prime -/

/-- A number reduced is an element of the field. -/
theorem toNat_emod (z : Int) : (z % c.P).toNat = (z : ZMod c.P).val := by
  have hval : ((z : ZMod c.P).val : Int) = z % c.P := ZMod.val_intCast z
  omega

/-- A quotient by what is not zero modulo the prime. -/
theorem quotient_eq (num : Int) {den : Int} (hden : (den : ZMod c.P) ≠ 0) :
    ∃ lambda : Int, quotient c num den = .ok lambda ∧ (lambda : ZMod c.P) = num / den := by
  have hval : (((den % c.P).toNat : Nat) : ZMod c.P) = den := by
    rw [toNat_emod]
    exact ZMod.natCast_zmod_val _
  have hcoprime : Nat.Coprime (den % c.P).toNat c.P := by
    rw [Nat.coprime_comm, hprime.out.coprime_iff_not_dvd, ← ZMod.natCast_eq_zero_iff, hval]
    exact hden
  obtain ⟨denInv, hinv⟩ := Option.isSome_iff_exists.mp (isSome_modInverse.mpr hcoprime)
  have hmul : (denInv : ZMod c.P) * den = 1 := by
    rw [← hval]
    exact modInverse_mul hinv
  refine ⟨num % c.P * denInv % c.P, by rw [quotient, hinv], ?_⟩
  rw [ZMod.intCast_mod, Int.cast_mul, ZMod.intCast_mod, Int.cast_natCast, eq_div_iff hden, mul_assoc, hmul, mul_one]

/-! ## The sum of two points -/

section Sum

variable (hcurve : NoOrderTwo c)
include hcurve

/-- No point has zero as its second coordinate, -/
theorem NoOrderTwo.ne_zero {x y : ZMod c.P} (h : (weierstrass c).Equation x y) : y ≠ 0 := by
  rintro rfl
  refine hcurve.noRoot x ?_
  have heq := (WeierstrassCurve.Affine.equation_iff x 0).mp h
  simp only [weierstrass] at heq
  linear_combination -heq

/-- also as a number. -/
theorem NoOrderTwo.val_ne_zero {x y : ZMod c.P} (h : (weierstrass c).Equation x y) : y.val ≠ 0 :=
  fun hval => hcurve.ne_zero h ((ZMod.val_eq_zero y).mp hval)

/-- The test for an inverse point. -/
theorem NoOrderTwo.val_eq_sub_iff {x₂ y₁ y₂ : ZMod c.P} (h : (weierstrass c).Equation x₂ y₂) :
    (y₁.val : Int) = c.P - y₂.val ↔ y₁ = (weierstrass c).negY x₂ y₂ := by
  have hneg : (weierstrass c).negY x₂ y₂ = -y₂ := by simp [WeierstrassCurve.Affine.negY, weierstrass]
  have : NeZero y₂ := ⟨hcurve.ne_zero h⟩
  have hval : (-y₂).val = c.P - y₂.val := ZMod.val_neg_of_ne_zero y₂
  have hlt : y₂.val < c.P := ZMod.val_lt y₂
  rw [hneg, ← (ZMod.val_injective c.P).eq_iff, hval]
  omega

/-- The slope that the source computes is that of the group law. -/
theorem NoOrderTwo.slope_eq {x₁ x₂ y₁ y₂ : ZMod c.P} (h₁ : (weierstrass c).Equation x₁ y₁)
    (h₂ : (weierstrass c).Equation x₂ y₂) (hxy : ¬(x₁ = x₂ ∧ y₁ = (weierstrass c).negY x₂ y₂)) :
    ∃ lambda : Int, slope c x₁.val y₁.val x₂.val y₂.val = .ok lambda ∧
      (lambda : ZMod c.P) = (weierstrass c).slope x₁ x₂ y₁ y₂ := by
  have hcast (z : ZMod c.P) : ((z.val : Int) : ZMod c.P) = z := by
    rw [Int.cast_natCast, ZMod.natCast_zmod_val]
  rw [slope]
  by_cases hx : x₁ = x₂
  · -- with equal first coordinates, the second are equal or the points are inverse
    have hne : y₁ ≠ (weierstrass c).negY x₂ y₂ := fun hy => hxy ⟨hx, hy⟩
    have hy : y₁ = y₂ := (WeierstrassCurve.Affine.Y_eq_of_X_eq h₁ h₂ hx).resolve_right hne
    rw [if_pos ⟨congrArg ZMod.val hx, congrArg ZMod.val hy⟩]
    have hden : (((2 * y₁.val : Int)) : ZMod c.P) ≠ 0 := by
      push_cast
      rw [ZMod.natCast_zmod_val]
      exact mul_ne_zero hcurve.odd (hcurve.ne_zero h₁)
    obtain ⟨lambda, hquotient, hlambda⟩ := quotient_eq (3 * (x₁.val : Int) ^ 2 + c.A) hden
    refine ⟨lambda, hquotient, ?_⟩
    rw [hlambda, WeierstrassCurve.Affine.slope_of_Y_ne hx hne]
    push_cast
    rw [ZMod.natCast_zmod_val, ZMod.natCast_zmod_val]
    simp only [WeierstrassCurve.Affine.negY, weierstrass]
    congr 1 <;> ring
  · rw [if_neg fun h => hx (ZMod.val_injective c.P h.1)]
    have hden : (((x₂.val : Int) - x₁.val : Int) : ZMod c.P) ≠ 0 := by
      rw [Int.cast_sub, hcast, hcast]
      exact sub_ne_zero.mpr (Ne.symm hx)
    obtain ⟨lambda, hquotient, hlambda⟩ := quotient_eq ((y₂.val : Int) - y₁.val) hden
    refine ⟨lambda, hquotient, ?_⟩
    rw [hlambda, WeierstrassCurve.Affine.slope_of_X_ne hx, Int.cast_sub, Int.cast_sub, hcast, hcast, hcast,
      hcast, ← neg_sub y₁ y₂, ← neg_sub x₁ x₂, neg_div_neg_eq]

/-- `Add` is the addition of the group. -/
theorem NoOrderTwo.add_coordinates (P Q : (weierstrass c).Point) :
    add c (coordinates c P) (coordinates c Q) = .ok (coordinates c (P + Q)) := by
  rcases P with _ | ⟨x₁, y₁, h₁⟩
  · rw [← WeierstrassCurve.Affine.Point.zero_def, zero_add]
    rw [coordinates_zero, add, if_pos ⟨rfl, rfl⟩]
  have hy₁ := hcurve.val_ne_zero h₁.1
  rcases Q with _ | ⟨x₂, y₂, h₂⟩
  · rw [← WeierstrassCurve.Affine.Point.zero_def, add_zero]
    rw [coordinates_zero, coordinates_some, add, if_neg fun h => hy₁ h.2, if_pos ⟨rfl, rfl⟩]
  have hy₂ := hcurve.val_ne_zero h₂.1
  have hinverse : x₁.val = x₂.val ∧ (y₁.val : Int) = c.P - y₂.val ↔
      x₁ = x₂ ∧ y₁ = (weierstrass c).negY x₂ y₂ :=
    and_congr (ZMod.val_injective c.P).eq_iff (hcurve.val_eq_sub_iff h₂.1)
  rw [coordinates_some, coordinates_some, add, if_neg fun h => hy₁ h.2, if_neg fun h => hy₂ h.2]
  -- the test for inverse points is the group's own; after it `slope` and the group divide alike
  by_cases hxy : x₁ = x₂ ∧ y₁ = (weierstrass c).negY x₂ y₂
  · rw [if_pos (hinverse.mpr hxy), WeierstrassCurve.Affine.Point.add_of_Y_eq hxy.1 hxy.2]
    rfl
  · obtain ⟨lambda, hquotient, hlambda⟩ := hcurve.slope_eq h₁.1 h₂.1 hxy
    rw [if_neg (mt hinverse.mp hxy), hquotient, WeierstrassCurve.Affine.Point.add_some hxy]
    show Except.ok _ = Except.ok _
    -- the reductions of the code are casts to the field
    have hx₃ : ((lambda ^ 2 - x₁.val - x₂.val : Int) : ZMod c.P) =
        (weierstrass c).addX x₁ x₂ ((weierstrass c).slope x₁ x₂ y₁ y₂) := by
      push_cast
      rw [ZMod.natCast_zmod_val, ZMod.natCast_zmod_val, hlambda]
      simp only [WeierstrassCurve.Affine.addX, weierstrass]
      ring
    have hy₃ : (((x₁.val - (lambda ^ 2 - x₁.val - x₂.val) % c.P) * lambda - y₁.val : Int) : ZMod c.P) =
        (weierstrass c).addY x₁ x₂ y₁ ((weierstrass c).slope x₁ x₂ y₁ y₂) := by
      rw [Int.cast_sub, Int.cast_mul, Int.cast_sub, ZMod.intCast_mod, hx₃, hlambda, Int.cast_natCast,
        Int.cast_natCast, ZMod.natCast_zmod_val, ZMod.natCast_zmod_val]
      simp only [WeierstrassCurve.Affine.addY, WeierstrassCurve.Affine.negAddY, WeierstrassCurve.Affine.negY,
        weierstrass]
      ring
    rw [toNat_emod, toNat_emod, hx₃, hy₃, coordinates_some]

/-- Different points have different pairs. -/
theorem NoOrderTwo.coordinates_injective (P Q : (weierstrass c).Point)
    (h : coordinates c P = coordinates c Q) : P = Q := by
  rcases P with _ | ⟨x₁, y₁, h₁⟩ <;> rcases Q with _ | ⟨x₂, y₂, h₂⟩
  · rfl
  · -- the pair of zeros is no other point's, since no second coordinate is zero
    exact absurd (congrArg Prod.snd h).symm (hcurve.val_ne_zero h₂.1)
  · exact absurd (congrArg Prod.snd h) (hcurve.val_ne_zero h₁.1)
  · obtain rfl := ZMod.val_injective c.P (congrArg Prod.fst h)
    obtain rfl := ZMod.val_injective c.P (congrArg Prod.snd h)
    rfl

end Sum

/-! ## The group -/

/-- The base point is on the curve, and has prime order by the source's own multiplication. -/
structure BasePoint (c : CurveParams) [Fact c.P.Prime] : Prop where
  onCurve : (weierstrass c).Nonsingular (c.Gx : ZMod c.P) (c.Gy : ZMod c.P)
  reduced : c.Gx < c.P ∧ c.Gy < c.P
  order : scalarMult c (c.Gx, c.Gy) (bytes c.N) = .ok (0, 0)
  order_prime : c.N.Prime

namespace BasePoint

variable (hbase : BasePoint c)

/-- The base point. -/
def point : (weierstrass c).Point := .some _ _ hbase.onCurve

/-- Its coordinates are the parameters'. -/
theorem coordinates_point : coordinates c hbase.point = (c.Gx, c.Gy) := by
  rw [point, coordinates_some, ZMod.val_cast_of_lt hbase.reduced.1, ZMod.val_cast_of_lt hbase.reduced.2]

/-- Its order is `N`. -/
theorem order_smul (hcurve : NoOrderTwo c) : c.N • hbase.point = 0 := by
  have horder := scalarMult_point hcurve.add_coordinates (coordinates_zero c) hbase.point (bytes c.N)
  rw [hbase.coordinates_point, hbase.order, getBE_bytes] at horder
  exact hcurve.coordinates_injective _ _ (Except.ok.inj horder).symm

end BasePoint

/-- The repository's curve computes a group law. -/
def groupLaw (hcurve : NoOrderTwo c) (hbase : BasePoint c) (hfits : c.P ≤ 256 ^ c.byteLen) :
    GroupLaw (curve c) (weierstrass c).Point where
  point := coordinates c
  base := hbase.point
  point_zero := coordinates_zero c
  point_injective := hcurve.coordinates_injective
  coordinates_lt := fun P => by
    rcases P with _ | ⟨x, y, h⟩
    · exact ⟨Nat.pow_pos (by decide), Nat.pow_pos (by decide)⟩
    · exact ⟨(ZMod.val_lt x).trans_le hfits, (ZMod.val_lt y).trans_le hfits⟩
  add_point := hcurve.add_coordinates
  scalarMult_point := scalarMult_point hcurve.add_coordinates (coordinates_zero c)
  scalarBaseMult_eq := fun k => by
    rw [← scalarMult_point hcurve.add_coordinates (coordinates_zero c) hbase.point k, hbase.coordinates_point]
    rfl
  order := hbase.order_smul hcurve
  order_prime := hbase.order_prime
  base_ne_zero := WeierstrassCurve.Affine.Point.some_ne_zero _

/-! ## A small curve -/

/-- `y² = x³ + 3x + 2` over the field of 509 elements: 499 points. -/
def smallParams : CurveParams where
  P := 509
  N := 499
  A := 3
  B := 2
  Gx := 1
  Gy := 32
  BitSize := 16

instance : Fact smallParams.P.Prime := ⟨show Nat.Prime 509 by norm_num⟩

/-- The small curve is one of these, -/
theorem noOrderTwo_small : NoOrderTwo smallParams where
  odd := by decide +kernel
  noRoot := by decide +kernel

/-- its base point has the order it says, -/
theorem basePoint_small : BasePoint smallParams where
  onCurve := by
    rw [WeierstrassCurve.Affine.nonsingular_iff, WeierstrassCurve.Affine.equation_iff]
    decide +kernel
  reduced := by decide
  order := by decide +kernel
  order_prime := show Nat.Prime 499 by norm_num

/-- and so it computes a group law. -/
def smallLaw : GroupLaw (curve smallParams) (weierstrass smallParams).Point :=
  groupLaw noOrderTwo_small basePoint_small (by decide)

end OpenNHP.KGC.CustomStandardCurve
