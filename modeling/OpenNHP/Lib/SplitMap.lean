/-
  A map of maps, split by a part of the key.

  1. The entries whose keys have the same head lie in one inner map, which is made with its first entry and
     dropped with its last.
  2. Seen from its keys it is one map: `find_put` and `find_sweep` say what adding an entry and dropping all
     entries of a kind do to a look-up, whatever the heads are.
-/
import OpenNHP.Lib.Tables

/-- Inner maps by the heads of their keys. -/
abbrev SplitMap (H K V : Type) := AList fun _ : H => AList fun _ : K => V

namespace SplitMap

variable {H K V : Type}

/-- The entries with a property. -/
def retain (p : V → Bool) (inner : AList fun _ : K => V) : AList fun _ : K => V where
  entries := inner.entries.filter fun e => p e.2
  nodupKeys := inner.nodupKeys.sublist List.filter_sublist

variable [DecidableEq K]

/-- What is retained is found if it was there. -/
theorem lookup_retain (p : V → Bool) (inner : AList fun _ : K => V) (k : K) :
    (retain p inner).lookup k = (inner.lookup k).filter p := by
  ext v
  rw [Option.filter_eq_some_iff, AList.lookup, ← Option.mem_def,
    List.mem_dlookup_iff (retain p inner).nodupKeys,
    AList.lookup, ← Option.mem_def, List.mem_dlookup_iff inner.nodupKeys]
  exact List.mem_filter

/-- In an inner map without entries nothing is found. -/
theorem lookup_eq_none_of_nil {inner : AList fun _ : K => V} (hnil : inner.entries = []) (k : K) :
    inner.lookup k = none := by
  rw [AList.lookup, hnil]
  rfl

variable [DecidableEq H] (head : K → H)

/-- The look-up, in two steps. -/
def find (m : SplitMap H K V) (k : K) : Option V := (m.lookup (head k)).bind fun inner => inner.lookup k

/-- The insertion, which makes the inner map if there is none. -/
def put (m : SplitMap H K V) (k : K) (v : V) : SplitMap H K V :=
  match m.lookup (head k) with
  | some inner => m.insert (head k) (inner.insert k v)
  | none => m.insert (head k) (AList.insert k v ∅)

/-- Drop what lacks a property from the map of one head, and the map if nothing is left. -/
def sweepAt (p : V → Bool) (m : SplitMap H K V) (h : H) : SplitMap H K V :=
  match m.lookup h with
  | none => m
  | some inner => if (retain p inner).entries = [] then m.erase h else m.insert h (retain p inner)

/-- Drop what lacks a property, one head after another. -/
def sweep (p : V → Bool) (m : SplitMap H K V) : SplitMap H K V := m.keys.foldl (sweepAt p) m

variable {head} {m : SplitMap H K V} {k : K}

@[simp] theorem find_empty : find head (∅ : SplitMap H K V) k = none := rfl

/-- Seen from the keys an insertion is one, -/
theorem find_put {v : V} (k' : K) :
    find head (put head m k v) k' = if k' = k then some v else find head m k' := by
  by_cases hhead : head k' = head k
  · unfold find put
    rw [hhead]
    cases hinner : m.lookup (head k) with
    | none =>
      simp only [AList.lookup_insert, Option.bind_some, Option.bind_none]
      rw [AList.lookup_insert_eq_ite]
      rfl
    | some inner =>
      simp only [AList.lookup_insert, Option.bind_some]
      exact AList.lookup_insert_eq_ite inner k k' v
  · have hk : k' ≠ k := fun h => hhead (congrArg head h)
    have hother : (put head m k v).lookup (head k') = m.lookup (head k') := by
      unfold put
      cases m.lookup (head k) with
      | none => exact AList.lookup_insert_ne hhead
      | some inner => exact AList.lookup_insert_ne hhead
    rw [if_neg hk, find, find, hother]

/-- a pass over one inner map is one over the keys with its head, -/
theorem find_sweepAt (p : V → Bool) (h : H) :
    find head (sweepAt p m h) k = if head k = h then (find head m k).filter p else find head m k := by
  by_cases hk : head k = h
  · subst hk
    rw [if_pos rfl]
    unfold sweepAt find
    cases hinner : m.lookup (head k) with
    | none => simp only [hinner, Option.bind_none, Option.filter_none]
    | some inner =>
      simp only [Option.bind_some]
      rw [← lookup_retain]
      by_cases hnil : (retain p inner).entries = []
      · rw [if_pos hnil, AList.lookup_erase, lookup_eq_none_of_nil hnil]
        rfl
      · rw [if_neg hnil, AList.lookup_insert]
        rfl
  · have hother : (sweepAt p m h).lookup (head k) = m.lookup (head k) := by
      unfold sweepAt
      cases m.lookup h with
      | none => rfl
      | some inner =>
        dsimp only
        split
        · exact AList.lookup_erase_ne hk
        · exact AList.lookup_insert_ne hk
    rw [if_neg hk, find, find, hother]

/-- Sweeping a list of heads sweeps the keys under them. -/
theorem find_foldl_sweepAt (p : V → Bool) (hs : List H) :
    find head (hs.foldl (sweepAt p) m) k =
      if head k ∈ hs then (find head m k).filter p else find head m k := by
  induction hs generalizing m with
  | nil => simp
  | cons h hs ih =>
    rw [List.foldl_cons, ih, find_sweepAt]
    by_cases hk : head k = h
    · simp [hk, Option.filter_filter]
    · simp [hk]

/-- and a pass over all of them is one over all keys. -/
theorem find_sweep (p : V → Bool) : find head (sweep p m) k = (find head m k).filter p := by
  rw [sweep, find_foldl_sweepAt]
  split
  · rfl
  · rename_i hk
    have hnone : find head m k = none := by
      rw [find, AList.lookup_eq_none.mpr (fun hmem => hk (AList.mem_keys.mpr hmem))]
      rfl
    rw [hnone]
    rfl

end SplitMap
