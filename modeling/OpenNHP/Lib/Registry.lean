/-
  A map from keys to objects that live for a while.

  1. Objects are numbered in the order they were added, each with its key and whether it is still live.
  2. The map is written as such tables usually are: adding an object overwrites the entry of its key, and what an
     object deletes at its end is the entry of its key, whoever that entry belongs to.
  3. The map is exact when it leads from a key to the object that lives under it and to nothing else.
  4. Adding under a key that no live object has keeps that (`Exact.insert`); while the map is exact, an end
     deletes no entry but its own (`Exact.remove`).
-/
import Mathlib.Logic.Basic

/-- The objects added so far and the map that finds them. -/
structure Registry (K : Type) where
  entries : List (K × Bool)
  index : K → Option Nat

namespace Registry

variable {K : Type} [DecidableEq K]

/-- No objects. -/
def empty : Registry K where
  entries := []
  index _ := none

/-- Add a new object under a key. -/
def insert (r : Registry K) (k : K) : Registry K where
  entries := r.entries ++ [(k, true)]
  index := fun k' => if k' = k then some r.entries.length else r.index k'

/-- The end of an object. -/
def remove (r : Registry K) (i : Nat) (k : K) : Registry K where
  entries := r.entries.set i (k, false)
  index := fun k' => if k' = k then none else r.index k'

/-- The map leads to the live object of a key, and to nothing else. -/
def Exact (r : Registry K) : Prop :=
  ∀ k i, r.index k = some i ↔ r.entries[i]? = some (k, true)

/-- The map leads to nothing but objects. -/
def Bounded (r : Registry K) : Prop := ∀ k i, r.index k = some i → i < r.entries.length

/-- No live object has the key. -/
def Fresh (r : Registry K) (k : K) : Prop := ∀ i : Nat, r.entries[i]? ≠ some (k, true)

omit [DecidableEq K] in
/-- The empty map is exact. -/
theorem exact_empty : (empty : Registry K).Exact := by
  intro k i
  simp [empty]

/-- It stays exact when a fresh key is added, -/
theorem Exact.insert {r : Registry K} (h : r.Exact) {k : K} (hfresh : r.Fresh k) :
    (r.insert k).Exact := by
  intro k' i
  show (if k' = k then some r.entries.length else r.index k') = some i ↔
    (r.entries ++ [(k, true)])[i]? = some (k', true)
  rw [List.getElem?_append]
  split
  · rename_i hk
    subst hk
    split
    · rename_i hlt
      refine iff_of_false ?_ (hfresh i)
      simp only [Option.some.injEq]
      omega
    · rename_i hlt
      rcases Nat.lt_or_eq_of_le (Nat.not_lt.mp hlt) with hgt | heq
      · rw [List.getElem?_eq_none (by simpa using by omega)]
        simp only [Option.some.injEq, reduceCtorEq, iff_false]
        omega
      · simp [heq]
  · rename_i hk
    split
    · exact h k' i
    · rename_i hlt
      refine iff_of_false ?_ ?_
      · rw [h k' i, List.getElem?_eq_none (Nat.not_lt.mp hlt)]
        exact nofun
      · intro hget
        obtain ⟨hlast, hentry⟩ := List.getElem?_eq_some_iff.mp hget
        rw [List.getElem_singleton] at hentry
        exact hk (congrArg Prod.fst hentry).symm

/-- and when an object ends. -/
theorem Exact.remove {r : Registry K} (h : r.Exact) {k : K} {i : Nat}
    (hi : r.entries[i]? = some (k, true)) : (r.remove i k).Exact := by
  have hlt : i < r.entries.length := (List.getElem?_eq_some_iff.mp hi).1
  intro k' j
  show (if k' = k then none else r.index k') = some j ↔ (r.entries.set i (k, false))[j]? = some (k', true)
  rw [List.getElem?_set]
  split
  · rename_i hk
    subst hk
    refine iff_of_false nofun ?_
    split
    · simp
    · rename_i hij
      intro hj
      -- both would be the one object of the key
      have hsame := ((h k' j).mpr hj).symm.trans ((h k' i).mpr hi)
      exact hij (Option.some.inj hsame).symm
  · rename_i hk
    split
    · rename_i hij
      subst hij
      refine iff_of_false ?_ (by simp)
      rw [h k' i, hi]
      intro hsame
      exact hk (congrArg Prod.fst (Option.some.inj hsame)).symm
    · exact h k' j

/-- An entry leads to an object there is, also behind an addition, -/
theorem Bounded.insert {r : Registry K} (h : r.Bounded) (k : K) : (r.insert k).Bounded := by
  intro k' i hi
  show i < (r.entries ++ [(k, true)]).length
  rw [List.length_append, List.length_singleton]
  change (if k' = k then some r.entries.length else r.index k') = some i at hi
  split at hi
  · cases hi
    exact Nat.lt_succ_self _
  · exact Nat.lt_succ_of_lt (h k' i hi)

/-- and behind an end. -/
theorem Bounded.remove {r : Registry K} (h : r.Bounded) (i : Nat) (k : K) : (r.remove i k).Bounded := by
  intro k' j hj
  show j < (r.entries.set i (k, false)).length
  rw [List.length_set]
  change (if k' = k then none else r.index k') = some j at hj
  split at hj
  · cases hj
  · exact h k' j hj

end Registry
