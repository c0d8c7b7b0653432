/-
  A loop that starts a task for each item and waits for all of them.

  1. The loop takes the items in any order, and does the work of some itself; the others come to their end in any
     order too.  Each leaves its result in what they share, under a lock.
  2. The results that may be there at the end are those of some order (`Collects`), and there always is one
     (`exists_collects`).
  3. Where the results may be left in any order, the same is shared behind every run (`collects_iff`), and an
     entry of a table is that of its own task (`lookup_foldr_put`).
-/
import OpenNHP.Lib.Runs
import Mathlib.Data.Finmap

namespace FanOut

variable {κ ρ : Type} [DecidableEq κ]

/-- The items the loop has not come to, the tasks that are running, and what they share. -/
structure State (κ ρ : Type) where
  todo : List κ
  running : List κ
  shared : ρ

/-- The loop comes to an item, or a task to its end. -/
inductive Act (κ : Type)
  | next (k : κ)
  | finish (k : κ)

section Steps

variable (spawned : κ → Bool) (write : κ → ρ → ρ)

/-- One step; the loop takes what is still to do. -/
def step (s : State κ ρ) : Act κ → Option (State κ ρ)
  | .next k =>
    if k ∈ s.todo then
      if spawned k then some { s with todo := s.todo.erase k, running := k :: s.running }
      else some { s with todo := s.todo.erase k, shared := write k s.shared }
    else none
  | .finish k =>
    if k ∈ s.running then some { s with running := s.running.erase k, shared := write k s.shared } else none

/-- What may be shared when the loop has come to its end and all tasks have. -/
def Collects (items : List κ) (init result : ρ) : Prop :=
  ∃ acts, Runs.run (step spawned write) ⟨items, [], init⟩ acts = some ⟨[], [], result⟩

variable {spawned write} (hcomm : ∀ k k' r, write k (write k' r) = write k' (write k r))

omit [DecidableEq κ] in
include hcomm in
/-- A result that is left first may be left last. -/
theorem foldr_write (items : List κ) (k : κ) (r : ρ) :
    items.foldr write (write k r) = write k (items.foldr write r) := by
  induction items with
  | nil => rfl
  | cons k' items ih => rw [List.foldr_cons, ih, hcomm, List.foldr_cons]

include hcomm in
/-- What is left to be written, on top of what has been, stays the same. -/
theorem foldr_step {s s' : State κ ρ} {a : Act κ} (h : step spawned write s a = some s') :
    (s'.todo ++ s'.running).foldr write s'.shared = (s.todo ++ s.running).foldr write s.shared := by
  have hperm : ∀ {l l' : List κ}, l.Perm l' → ∀ r, l.foldr write r = l'.foldr write r :=
    fun hl r => hl.foldr_eq' (fun k _ k' _ r => hcomm k' k r) r
  cases a with
  | next k =>
    simp only [step] at h
    split_ifs at h with hk hspawned
    · -- the item is now a running task
      obtain rfl := Option.some.inj h
      apply hperm
      exact List.perm_middle.trans ((List.perm_cons_erase hk).symm.append_right s.running)
    · obtain rfl := Option.some.inj h
      show (s.todo.erase k ++ s.running).foldr write (write k s.shared) = _
      rw [foldr_write hcomm]
      exact hperm ((List.perm_cons_erase hk).symm.append_right s.running) s.shared
  | finish k =>
    simp only [step] at h
    split_ifs at h with hk
    obtain rfl := Option.some.inj h
    show (s.todo ++ s.running.erase k).foldr write (write k s.shared) = _
    rw [foldr_write hcomm]
    exact hperm (List.perm_middle.symm.trans ((List.perm_cons_erase hk).symm.append_left s.todo)) s.shared

/-- One item after another is a run. -/
theorem collects_cons {k : κ} {items : List κ} {init result : ρ}
    (h : Collects spawned write items (write k init) result) :
    Collects spawned write (k :: items) init result := by
  obtain ⟨acts, hacts⟩ := h
  by_cases hspawned : spawned k = true
  · refine ⟨.next k :: .finish k :: acts, ?_⟩
    simp only [Runs.run, step, List.mem_cons_self, if_true, hspawned, List.erase_cons_head, Option.bind_some]
    exact hacts
  · refine ⟨.next k :: acts, ?_⟩
    simp only [Runs.run, step, List.mem_cons_self, if_true, if_neg hspawned, List.erase_cons_head,
      Option.bind_some]
    exact hacts

/-- Some run takes one item after another to its end. -/
theorem exists_collects (items : List κ) (init : ρ) : ∃ result, Collects spawned write items init result := by
  induction items generalizing init with
  | nil => exact ⟨init, [], rfl⟩
  | cons k items ih =>
    obtain ⟨result, hresult⟩ := ih (write k init)
    exact ⟨result, collects_cons hresult⟩

/-- What the work of an item brings about, and no other work undoes, holds in the end. -/
theorem Collects.brings {items : List κ} {init result : ρ} (h : Collects spawned write items init result)
    {P : ρ → Prop} {k : κ} (hk : k ∈ items) (hwrite : ∀ r, P (write k r)) (hkeep : ∀ k' r, P r → P (write k' r)) :
    P result := by
  obtain ⟨acts, hacts⟩ := h
  have hrun := Runs.run_invariant (I := fun s => k ∈ s.todo ∨ k ∈ s.running ∨ P s.shared)
    (fun s a s' hI hstep => ?_) (.inl hk) hacts
  · rcases hrun with htodo | hrunning | hP
    · cases htodo
    · cases hrunning
    · exact hP
  · -- the item is ahead of the loop, its task is running, or it has been done
    cases a with
    | next k' =>
      simp only [step] at hstep
      split_ifs at hstep with hk' hspawned
      · obtain rfl := Option.some.inj hstep
        rcases hI with htodo | hrunning | hP
        · by_cases heq : k = k'
          · exact .inr (.inl (heq ▸ List.mem_cons_self))
          · exact .inl ((List.mem_erase_of_ne heq).mpr htodo)
        · exact .inr (.inl (List.mem_cons_of_mem _ hrunning))
        · exact .inr (.inr hP)
      · obtain rfl := Option.some.inj hstep
        rcases hI with htodo | hrunning | hP
        · by_cases heq : k = k'
          · exact .inr (.inr (heq ▸ hwrite _))
          · exact .inl ((List.mem_erase_of_ne heq).mpr htodo)
        · exact .inr (.inl hrunning)
        · exact .inr (.inr (hkeep _ _ hP))
    | finish k' =>
      simp only [step] at hstep
      split_ifs at hstep with hk'
      obtain rfl := Option.some.inj hstep
      rcases hI with htodo | hrunning | hP
      · exact .inl htodo
      · by_cases heq : k = k'
        · exact .inr (.inr (heq ▸ hwrite _))
        · exact .inr (.inl ((List.mem_erase_of_ne heq).mpr hrunning))
      · exact .inr (.inr (hkeep _ _ hP))

include hcomm in
/-- Where the writes commute, all runs share the same in the end. -/
theorem collects_iff {items : List κ} {init result : ρ} :
    Collects spawned write items init result ↔ result = items.foldr write init := by
  constructor
  · rintro ⟨acts, hacts⟩
    have hrun := Runs.run_invariant
      (I := fun s => (s.todo ++ s.running).foldr write s.shared = items.foldr write init)
      (fun s a s' hI hstep => (foldr_step hcomm hstep).trans hI) (by rw [List.append_nil]) hacts
    exact hrun
  · rintro rfl
    induction items generalizing init with
    | nil => exact ⟨[], rfl⟩
    | cons k items ih =>
      apply collects_cons
      rw [List.foldr_cons, ← foldr_write hcomm]
      exact ih

end Steps

/-! ## Tables with an entry for each task -/

section Tables

variable {β : Type} (f : κ → Option β)

/-- A task leaves its entry, if it has one. -/
def put (k : κ) (m : Finmap fun _ : κ => β) : Finmap fun _ : κ => β :=
  match f k with
  | some b => m.insert k b
  | none => m

/-- Entries of a table may be put in either order. -/
theorem put_comm (k k' : κ) (m : Finmap fun _ : κ => β) : put f k (put f k' m) = put f k' (put f k m) := by
  by_cases hk : k = k'
  · rw [hk]
  · unfold put
    cases f k <;> cases f k' <;> try rfl
    exact Finmap.insert_insert_of_ne m (Ne.symm hk)

/-- The entry of an item is that of its task. -/
theorem lookup_foldr_put (items : List κ) (k : κ) :
    (items.foldr (put f) ∅).lookup k = if k ∈ items then f k else none := by
  induction items with
  | nil => exact Finmap.lookup_empty k
  | cons k' items ih =>
    rw [List.foldr_cons, put]
    by_cases hk : k = k'
    · subst hk
      rw [if_pos List.mem_cons_self]
      cases hf : f k with
      | none =>
        -- no task of this item leaves an entry
        show (items.foldr (put f) ∅).lookup k = none
        rw [ih, hf, ite_self]
      | some b => exact Finmap.lookup_insert _
    · have hmem : k ∈ k' :: items ↔ k ∈ items := by simp [hk]
      rw [if_congr hmem rfl rfl, ← ih]
      cases f k' with
      | none => rfl
      | some b => exact Finmap.lookup_insert_of_ne _ hk

end Tables

end FanOut
