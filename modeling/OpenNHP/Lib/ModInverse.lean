/-
  Inverses modulo a number, by the extended Euclidean algorithm.

  An inverse is found exactly for the numbers that have one (`isSome_modInverse`), and is one
  (`modInverse_mul`).
-/
import Mathlib.Data.Int.GCD
import Mathlib.Data.ZMod.Basic

/-- The inverse of `g` modulo `n`, if there is one. -/
def modInverse (g n : Nat) : Option Nat :=
  if Nat.gcd g n = 1 then some (Nat.gcdA g n % n).toNat else none

/-- There is an inverse for what is coprime. -/
theorem isSome_modInverse {g n : Nat} : (modInverse g n).isSome ↔ Nat.Coprime g n := by
  rw [modInverse]
  split_ifs with h
  · exact iff_of_true rfl h
  · exact iff_of_false nofun h

/-- In the ring of the modulus, it is an inverse. -/
theorem modInverse_mul {g n z : Nat} (h : modInverse g n = some z) : (z : ZMod n) * g = 1 := by
  rw [modInverse] at h
  split_ifs at h with hgcd
  obtain rfl := Option.some.inj h
  rcases Nat.eq_zero_or_pos n with rfl | hn
  · -- modulo zero the ring is that of the integers, and `g` is one
    rw [Nat.gcd_zero_right] at hgcd
    rw [hgcd, Nat.gcdA_zero_right (by decide)]
    rfl
  have hbezout := Nat.gcd_eq_gcd_ab g n
  rw [hgcd] at hbezout
  have hnonneg : 0 ≤ Nat.gcdA g n % n := Int.emod_nonneg _ (by omega)
  have hcast : (((Nat.gcdA g n % n).toNat : Nat) : ZMod n) = ((Nat.gcdA g n : Int) : ZMod n) := by
    rw [← Int.cast_natCast, Int.toNat_of_nonneg hnonneg]
    exact ZMod.intCast_mod _ _
  have hring : ((1 : Int) : ZMod n) = ((g * Nat.gcdA g n + n * Nat.gcdB g n : Int) : ZMod n) :=
    congrArg _ (by exact_mod_cast hbezout)
  push_cast at hring
  rw [ZMod.natCast_self, zero_mul, add_zero] at hring
  rw [hcast, mul_comm]
  exact hring.symm
