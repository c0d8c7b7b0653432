/-
  A table that writers change, and a loop that works from copies of it.

  THE PROGRAM.  The loop takes a copy under the lock of the table, works from it and waits on a channel with room
  for one message.  A writer changes the table under the lock, then tests whether the channel is empty, and if so
  sends; a send blocks while the channel is full.  Tests and sends of several writers may come in any order, and
  so may the steps of the loop.

  THE SPECIFICATION.  When the writers have come to their end, which they do, the loop works from the table as it
  is.

  THE CRUX.  A message that is in the channel stands for every change made before the loop takes it, so none is
  lost: while the loop waits with an old copy, a message is there or a writer is about to look (`Fresh`).

  ASSEMBLY.  Each step of the writers and of the loop uses up some of what is left to do (`effort_step`), and
  where none of them can take a step the loop has copied the table as it is (`settled_of_stuck`).  A change that
  tells nobody changes nothing; which changes there are is the user's.
-/
import Mathlib.Algebra.Ring.Nat
import OpenNHP.Lib.Runs
import OpenNHP.Lib.Tables

namespace Renewal

variable {V : Type}

/-- What a writer does to the table, and whether it then tells the loop; it does where it changes something. -/
structure Change (V : Type) where
  apply : V → V
  tells : V → Bool
  silent : ∀ v, tells v = false → apply v = v

/-- No change. -/
def Change.none : Change V where
  apply v := v
  tells _ := false
  silent _ _ := rfl

/-- Where the loop is. -/
inductive Loop (V : Type)
  | absent
  | copying
  | waiting (copy : V)
  | left

/-- Where a writer is. -/
inductive Writer
  | changing
  | testing
  | sending
  | done

/-- The table, the channel, the loop and the writers. -/
structure State (V : Type) where
  table : V
  full : Bool
  loop : Loop V
  writers : List Writer

namespace State

/-- The writer `i` goes on. -/
def setWriter (s : State V) (i : Nat) (w : Writer) : State V := { s with writers := s.writers.set i w }

end State

/-- What a writer or the loop does. -/
inductive Act (V : Type)
  | call
  | change (i : Nat) (change : Change V)
  | test (i : Nat)
  | send (i : Nat)
  | start
  | copy
  | receive
  | leave

namespace Act

/-- A step of a writer that has been called, or of the loop on its way. -/
def inner : Act V → Bool
  | change _ _ | test _ | send _ | copy | receive => true
  | call | start | leave => false

end Act

/-- One step; `none` for who cannot take it. -/
def step (s : State V) : Act V → Option (State V)
  | .call => some { s with writers := s.writers ++ [.changing] }
  | .change i change =>
    match s.writers[i]? with
    | some .changing =>
      some { s.setWriter i (if change.tells s.table then .testing else .done) with table := change.apply s.table }
    | _ => none
  | .test i =>
    match s.writers[i]? with
    | some .testing => some (s.setWriter i (if s.full then .done else .sending))
    | _ => none
  | .send i =>
    match s.writers[i]? with
    | some .sending => if s.full then none else some { s.setWriter i .done with full := true }
    | _ => none
  | .start =>
    match s.loop with
    | .absent => some { s with loop := .copying }
    | _ => none
  | .copy =>
    match s.loop with
    | .copying => some { s with loop := .waiting s.table }
    | _ => none
  | .receive =>
    match s.loop with
    | .waiting _ => if s.full then some { s with full := false, loop := .copying } else none
    | _ => none
  | .leave =>
    match s.loop with
    | .waiting _ => some { s with loop := .left }
    | _ => none

/-! ## No change is lost -/

/-- The writer is about to look whether it has to send, or to send. -/
def Writer.pending : Writer → Prop
  | testing | sending => True
  | changing | done => False

/-- A loop that waits with an old copy will hear of it. -/
def Fresh (s : State V) : Prop :=
  ∀ copy, s.loop = .waiting copy → copy = s.table ∨ s.full = true ∨ ∃ w ∈ s.writers, w.pending

/-- The loop works from the table as it is, and nobody has anything left to do. -/
structure Settled (s : State V) : Prop where
  loop : s.loop = .waiting s.table
  full : s.full = false
  writers : ∀ w ∈ s.writers, w = .done

variable {s s' : State V}

/-- A writer that is about to look is one. -/
theorem exists_pending_set {i : Nat} {w : Writer} (hi : i < s.writers.length) (hw : w.pending) :
    ∃ w' ∈ (s.setWriter i w).writers, w'.pending :=
  ⟨w, List.mem_set hi w, hw⟩

/-- A writer that is not pending is not the one that is. -/
theorem exists_pending_set_ne {i : Nat} {w w' : Writer} (hi : s.writers[i]? = some w) (hw : ¬ w.pending)
    (h : ∃ v ∈ s.writers, v.pending) : ∃ v ∈ (s.setWriter i w').writers, v.pending := by
  obtain ⟨v, hv, hpending⟩ := h
  obtain ⟨j, hj⟩ := List.mem_iff_getElem?.mp hv
  refine ⟨v, ?_, hpending⟩
  apply List.mem_iff_getElem?.mpr
  refine ⟨j, ?_⟩
  show (s.writers.set i w')[j]? = some v
  rw [List.getElem?_set_ne, hj]
  rintro rfl
  obtain rfl := Option.some.inj (hi.symm.trans hj)
  exact hw hpending

/-- Each step keeps it that no change is lost. -/
theorem Fresh.step (h : Fresh s) {a : Act V} (hstep : Renewal.step s a = some s') : Fresh s' := by
  intro copy hloop
  cases a with
  | call =>
    obtain rfl := Option.some.inj hstep
    obtain hcopy | hfull | ⟨w, hw, hpending⟩ := h copy hloop
    · exact .inl hcopy
    · exact .inr (.inl hfull)
    · exact .inr (.inr ⟨w, List.mem_append_left _ hw, hpending⟩)
  | change i change =>
    simp only [Renewal.step] at hstep
    split at hstep
    · rename_i hi
      obtain rfl := Option.some.inj hstep
      by_cases htells : change.tells s.table = true
      · -- the writer that has changed the table is pending itself
        refine .inr (.inr ?_)
        show ∃ w ∈ (s.setWriter i _).writers, w.pending
        rw [if_pos htells]
        exact exists_pending_set (List.getElem?_eq_some_iff.mp hi).1 trivial
      · obtain hcopy | hfull | hpending := h copy hloop
        · refine .inl ?_
          show copy = change.apply s.table
          rw [change.silent s.table (Bool.not_eq_true _ ▸ htells), hcopy]
        · exact .inr (.inl hfull)
        · exact .inr (.inr (exists_pending_set_ne hi id hpending))
    · cases hstep
  | test i =>
    simp only [Renewal.step] at hstep
    split at hstep
    · rename_i hi
      obtain rfl := Option.some.inj hstep
      by_cases hfull : s.full = true
      · exact .inr (.inl hfull)
      · refine .inr (.inr ?_)
        rw [if_neg hfull]
        exact exists_pending_set (List.getElem?_eq_some_iff.mp hi).1 trivial
    · cases hstep
  | send i =>
    simp only [Renewal.step] at hstep
    split at hstep
    · split at hstep
      · cases hstep
      · obtain rfl := Option.some.inj hstep
        exact .inr (.inl rfl)
    · cases hstep
  | start =>
    simp only [Renewal.step] at hstep
    split at hstep
    · obtain rfl := Option.some.inj hstep
      cases hloop
    · cases hstep
  | copy =>
    simp only [Renewal.step] at hstep
    split at hstep
    · obtain rfl := Option.some.inj hstep
      cases hloop
      exact .inl rfl
    · cases hstep
  | receive =>
    simp only [Renewal.step] at hstep
    split at hstep
    · split at hstep
      · obtain rfl := Option.some.inj hstep
        cases hloop
      · cases hstep
    · cases hstep
  | leave =>
    simp only [Renewal.step] at hstep
    split at hstep
    · obtain rfl := Option.some.inj hstep
      cases hloop
    · cases hstep

/-- Where no writer and no loop can take a step, and the loop is there, the loop works from the table. -/
theorem settled_of_stuck (h : Fresh s) (hloop : s.loop = .copying ∨ ∃ copy, s.loop = .waiting copy)
    (hstuck : ∀ a : Act V, a.inner = true → Renewal.step s a = none) : Settled s := by
  obtain hcopying | ⟨copy, hwaiting⟩ := hloop
  · have hcopy := hstuck .copy rfl
    simp only [Renewal.step, hcopying] at hcopy
    cases hcopy
  · have hfull : s.full = false := by
      cases hfull : s.full with
      | false => rfl
      | true =>
        have hreceive := hstuck .receive rfl
        simp only [Renewal.step, hwaiting, hfull, if_true] at hreceive
        cases hreceive
    have hwriters : ∀ w ∈ s.writers, w = .done := by
      intro w hw
      obtain ⟨i, hi⟩ := List.mem_iff_getElem?.mp hw
      cases w with
      | changing =>
        have hchange := hstuck (.change i .none) rfl
        simp only [Renewal.step, hi] at hchange
        cases hchange
      | testing =>
        have htest := hstuck (.test i) rfl
        simp only [Renewal.step, hi] at htest
        cases htest
      | sending =>
        have hsend := hstuck (.send i) rfl
        simp only [Renewal.step, hi, hfull, Bool.false_eq_true, if_false] at hsend
        cases hsend
      | done => rfl
    refine ⟨?_, hfull, hwriters⟩
    obtain rfl | hfull' | ⟨w, hw, hpending⟩ := h copy hwaiting
    · exact hwaiting
    · rw [hfull] at hfull'
      cases hfull'
    · rw [hwriters w hw] at hpending
      exact hpending.elim

/-! ## What is left to do -/

/-- What is left to do for a writer, with the round of the loop it may lead to, -/
def Writer.effort : Writer → Nat
  | changing => 5
  | testing => 4
  | sending => 3
  | done => 0

/-- and for the loop. -/
def Loop.effort : Loop V → Nat
  | copying => 1
  | absent | waiting _ | left => 0

/-- More than the steps that are left when no more writers are called. -/
def effort (s : State V) : Nat :=
  (s.writers.map Writer.effort).sum + 2 * s.full.toNat + s.loop.effort

/-- A writer that goes on has less to do. -/
theorem effort_setWriter {i : Nat} {w : Writer} (hi : s.writers[i]? = some w) (w' : Writer) :
    ((s.setWriter i w').writers.map Writer.effort).sum + w.effort
      = (s.writers.map Writer.effort).sum + w'.effort := by
  obtain ⟨hlt, hget⟩ := List.getElem?_eq_some_iff.mp hi
  show ((s.writers.set i w').map Writer.effort).sum + _ = _
  rw [List.map_set]
  generalize hl : s.writers.map Writer.effort = l
  have hli : l[i]? = some w.effort := by rw [← hl, List.getElem?_map, hi, Option.map_some]
  clear hl hget hlt hi
  induction l generalizing i with
  | nil => cases hli
  | cons n l ih =>
    cases i with
    | zero =>
      obtain rfl := Option.some.inj hli
      rw [List.set_cons_zero, List.sum_cons, List.sum_cons]
      omega
    | succ i =>
      rw [List.getElem?_cons_succ] at hli
      rw [List.set_cons_succ, List.sum_cons, List.sum_cons]
      have hih := ih hli
      omega

/-- Every step of a writer or of the loop leaves less to do. -/
theorem effort_step {a : Act V} (ha : a.inner = true) (hstep : Renewal.step s a = some s') :
    effort s' + 1 ≤ effort s := by
  cases a with
  -- A writer's place weighs less with each step of its own; a send fills the channel, which weighs less than the
  -- writer did before.
  | change i change =>
    simp only [Renewal.step] at hstep
    split at hstep
    · rename_i hi
      obtain rfl := Option.some.inj hstep
      have heffort := effort_setWriter hi (if change.tells s.table then .testing else .done)
      have hle : (if change.tells s.table then Writer.testing else Writer.done : Writer).effort ≤ 4 := by
        split <;> simp [Writer.effort]
      change _ + 5 = _ at heffort
      show _ + _ + s.loop.effort + 1 ≤ _ + _ + _
      dsimp only [State.setWriter] at heffort ⊢
      omega
    · cases hstep
  | test i =>
    simp only [Renewal.step] at hstep
    split at hstep
    · rename_i hi
      obtain rfl := Option.some.inj hstep
      have heffort := effort_setWriter hi (if s.full then .done else .sending)
      have hle : (if s.full then Writer.done else Writer.sending : Writer).effort ≤ 3 := by
        split <;> simp [Writer.effort]
      change _ + 4 = _ at heffort
      show _ + _ + s.loop.effort + 1 ≤ _ + _ + _
      dsimp only [State.setWriter] at heffort ⊢
      omega
    · cases hstep
  | send i =>
    simp only [Renewal.step] at hstep
    split at hstep
    · rename_i hi
      split at hstep
      · cases hstep
      · rename_i hfull
        obtain rfl := Option.some.inj hstep
        have heffort := effort_setWriter hi .done
        change _ + 3 = _ + 0 at heffort
        unfold effort
        dsimp only [State.setWriter] at heffort ⊢
        rw [Bool.not_eq_true] at hfull
        rw [hfull, Bool.toNat_true, Bool.toNat_false]
        omega
    · cases hstep
  | copy =>
    simp only [Renewal.step] at hstep
    split at hstep
    · rename_i hloop
      obtain rfl := Option.some.inj hstep
      unfold effort
      rw [hloop]
      exact le_refl _
    · cases hstep
  | receive =>
    simp only [Renewal.step] at hstep
    split at hstep
    · rename_i hloop
      split at hstep
      · rename_i hfull
        obtain rfl := Option.some.inj hstep
        unfold effort
        rw [hloop, hfull]
        exact le_refl _
      · cases hstep
    · cases hstep
  | call => cases ha
  | start => cases ha
  | leave => cases ha

end Renewal
