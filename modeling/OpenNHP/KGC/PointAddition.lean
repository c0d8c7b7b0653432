/-
  The points that `IsOnCurve` accepts (`endpoints/kgc/curve/curve.go`).

  THE SPECIFICATION.  `Add` and `ScalarMult` return points on the curve, and those of the group's operations, for
  all points that `IsOnCurve` accepts.

  THE CRUX.  Where no point has order two, the pairs of reduced coordinates that `IsOnCurve` accepts are exactly
  the points of the group, the pair of zeros among them (`onCurve_iff`); the curve may have singular points only
  outside the field.  So what is known of the group's points is known of all of these.

  ASSEMBLY.  `isOnCurve_iff` reads the test as the equation, `NoOrderTwo.nonsingular` makes a point of it, and
  `add_onCurve` has both operations.
-/
import OpenNHP.KGC.Weierstrass

namespace OpenNHP.KGC.CustomStandardCurve

open BigEndian
open WeierstrassCurve.Affine (Point)

section

variable (c : CurveParams)

/-- `IsOnCurve`; the pair of zeros passes. -/
def isOnCurve : Nat × Nat → Bool
  | (x, y) =>
    if x = 0 ∧ y = 0 then true
    else
      let ySquare := y ^ 2 % c.P
      let x3 := x ^ 3 % c.P
      let ax := c.A * x % c.P
      ySquare = (x3 + ax + c.B) % c.P

/-- A pair of reduced coordinates that `IsOnCurve` accepts. -/
structure OnCurve (xy : Nat × Nat) : Prop where
  isOnCurve : isOnCurve c xy = true
  reduced : xy.1 < c.P ∧ xy.2 < c.P

end

variable {c : CurveParams} [hprime : Fact c.P.Prime]

/-! ## The points of the group -/

/-- The test of `IsOnCurve` is the equation of the curve. -/
theorem isOnCurve_iff {x y : Nat} (hxy : ¬(x = 0 ∧ y = 0)) :
    isOnCurve c (x, y) = true ↔ (weierstrass c).Equation (x : ZMod c.P) (y : ZMod c.P) := by
  rw [isOnCurve, if_neg hxy, decide_eq_true_iff, ← Nat.ModEq, ← ZMod.natCast_eq_natCast_iff,
    WeierstrassCurve.Affine.equation_iff]
  simp only [weierstrass]
  push_cast [ZMod.natCast_mod]
  constructor
  · intro h
    linear_combination h
  · intro h
    linear_combination h

section Points

variable (hcurve : NoOrderTwo c)
include hcurve

/-- A point of the curve over the field is not singular: there the second coordinate would be zero. -/
theorem NoOrderTwo.nonsingular {x y : ZMod c.P} (h : (weierstrass c).Equation x y) :
    (weierstrass c).Nonsingular x y := by
  refine (WeierstrassCurve.Affine.nonsingular_iff x y).mpr ⟨h, .inr ?_⟩
  simp only [weierstrass]
  intro heq
  have htwo : (2 : ZMod c.P) * y = 0 := by linear_combination heq
  exact (mul_ne_zero hcurve.odd (hcurve.ne_zero h)) htwo

/-- The coordinates of the points are the pairs on the curve. -/
theorem NoOrderTwo.onCurve_iff {xy : Nat × Nat} :
    OnCurve c xy ↔ ∃ P : (weierstrass c).Point, coordinates c P = xy := by
  obtain ⟨x, y⟩ := xy
  constructor
  · rintro ⟨hon, hx, hy⟩
    by_cases hzero : x = 0 ∧ y = 0
    · obtain ⟨rfl, rfl⟩ := hzero
      exact ⟨0, coordinates_zero c⟩
    · have heq := (isOnCurve_iff hzero).mp hon
      refine ⟨.some _ _ (hcurve.nonsingular heq), ?_⟩
      rw [coordinates_some, ZMod.val_cast_of_lt hx, ZMod.val_cast_of_lt hy]
  · rintro ⟨P, hP⟩
    rcases P with _ | ⟨x', y', h⟩
    · obtain ⟨rfl, rfl⟩ := Prod.mk.inj hP
      exact ⟨rfl, hprime.out.pos, hprime.out.pos⟩
    · obtain ⟨rfl, rfl⟩ := Prod.mk.inj hP
      have hy := hcurve.val_ne_zero h.1
      refine ⟨(isOnCurve_iff fun hzero => hy hzero.2).mpr ?_, ZMod.val_lt x', ZMod.val_lt y'⟩
      rw [ZMod.natCast_zmod_val, ZMod.natCast_zmod_val]
      exact h.1

/-- A point of the group is on the curve. -/
theorem NoOrderTwo.onCurve_coordinates (P : (weierstrass c).Point) : OnCurve c (coordinates c P) :=
  hcurve.onCurve_iff.mpr ⟨P, rfl⟩

end Points

/-- Two pairs on the curve are points of the group; `Add` returns their sum, without a panic, and that is on
    the curve again.  `ScalarMult` returns the multiple of its scalar, and any more turns of its loop would
    change nothing. -/
theorem add_onCurve (hcurve : NoOrderTwo c) {p q : Nat × Nat} (hp : OnCurve c p) (hq : OnCurve c q) :
    ∃ P Q : (weierstrass c).Point, coordinates c P = p ∧ coordinates c Q = q ∧
      (add c p q = .ok (coordinates c (P + Q)) ∧ OnCurve c (coordinates c (P + Q))) ∧
      ∀ k : Bytes, scalarMult c p k = .ok (coordinates c (getBE k • P)) ∧
        OnCurve c (coordinates c (getBE k • P)) ∧
        ∀ fuel, getBE k < 2 ^ fuel → scalarLoop c fuel (0, 0) p (getBE k) = scalarMult c p k := by
  obtain ⟨P, rfl⟩ := hcurve.onCurve_iff.mp hp
  obtain ⟨Q, rfl⟩ := hcurve.onCurve_iff.mp hq
  refine ⟨P, Q, rfl, rfl, ⟨hcurve.add_coordinates P Q, hcurve.onCurve_coordinates _⟩, ?_⟩
  intro k
  have hmult := scalarMult_point hcurve.add_coordinates (coordinates_zero c) P k
  refine ⟨hmult, hcurve.onCurve_coordinates _, ?_⟩
  intro fuel hfuel
  have hloop := scalarLoop_point hcurve.add_coordinates hfuel 0 P
  rw [zero_add, coordinates_zero] at hloop
  rw [hmult, hloop]

/-- The base point of the small curve, doubled. -/
theorem add_onCurve_small :
    ∃ P Q : (weierstrass smallParams).Point, coordinates smallParams P = (1, 32) ∧
      coordinates smallParams Q = (1, 32) ∧
      (add smallParams (1, 32) (1, 32) = .ok (coordinates smallParams (P + Q)) ∧
        OnCurve smallParams (coordinates smallParams (P + Q))) ∧
      ∀ k : Bytes, scalarMult smallParams (1, 32) k = .ok (coordinates smallParams (getBE k • P)) ∧
        OnCurve smallParams (coordinates smallParams (getBE k • P)) ∧
        ∀ fuel, getBE k < 2 ^ fuel →
          scalarLoop smallParams fuel (0, 0) (1, 32) (getBE k) = scalarMult smallParams (1, 32) k := by
  have hbase : OnCurve smallParams (1, 32) := ⟨by decide +kernel, by decide⟩
  exact add_onCurve noOrderTwo_small hbase hbase

end OpenNHP.KGC.CustomStandardCurve
