/-
  Threads that run side by side over what they share.

  1. A thread begins at any time, and a step advances one of them, which may change what is shared; things outside
     change what is shared, too (`System`).
  2. What a thread may rely on is an assertion about the shared part and the thread itself (`Assertion`).  An
     assertion that the thread's own steps re-establish, and that the steps of the others leave alone, holds in
     every state of every run (`Kept.invariant`).
  3. Where the others leave it alone only if they are related to the thread in some way, the relation is carried
     along.
  4. A lock is such an assertion: who is in its section is its holder (`exclusive`).
-/
import Mathlib.Tactic.Common
import OpenNHP.Lib.Runs
import OpenNHP.Lib.Tables

namespace Threads

variable {S T E X : Type}

/-- What is shared, and the threads. -/
structure State (S T : Type) where
  shared : S
  threads : List T

/-- A thread begins or takes a step, or something goes on outside. -/
inductive Act (T E X : Type)
  | begin (t : T)
  | outside (x : X)
  | turn (i : Nat) (e : E)
  deriving DecidableEq

/-- What the world outside does, and what a thread does at its turn, with its number. -/
structure System (S T E X : Type) where
  outside : S → X → Option S
  advance : S → Nat → T → E → Option (S × T)

namespace System

variable (y : System S T E X)

/-- One of these; `none` for who cannot take it. -/
def step (s : State S T) : Act T E X → Option (State S T)
  | .begin t => some { s with threads := s.threads ++ [t] }
  | .outside x => (y.outside s.shared x).map fun shared => { s with shared }
  | .turn i e =>
    (s.threads[i]?).bind fun t => (y.advance s.shared i t e).map fun p => ⟨p.1, s.threads.set i p.2⟩

variable {y} {s s' : State S T}

/-- A step outside changes what is shared. -/
theorem step_outside {x : X} :
    y.step s (.outside x) = some s' ↔ ∃ shared, y.outside s.shared x = some shared ∧ s' = { s with shared } := by
  rw [step, Option.map_eq_some_iff]
  constructor
  · rintro ⟨shared, h, rfl⟩
    exact ⟨shared, h, rfl⟩
  · rintro ⟨shared, h, rfl⟩
    exact ⟨shared, h, rfl⟩

/-- A turn changes what is shared and one thread. -/
theorem step_turn {i : Nat} {e : E} :
    y.step s (.turn i e) = some s' ↔ ∃ t p, s.threads[i]? = some t ∧ y.advance s.shared i t e = some p ∧
      s' = ⟨p.1, s.threads.set i p.2⟩ := by
  rw [step, Option.bind_eq_some_iff]
  constructor
  · rintro ⟨t, ht, h⟩
    obtain ⟨p, hp, rfl⟩ := Option.map_eq_some_iff.mp h
    exact ⟨t, p, ht, hp, rfl⟩
  · rintro ⟨t, p, ht, hp, rfl⟩
    exact ⟨t, ht, Option.map_eq_some_iff.mpr ⟨p, hp, rfl⟩⟩

end System

/-! ## Assertions -/

/-- What holds of the shared part, what each thread relies on, and how any two threads are related. -/
structure Assertion (S T : Type) where
  shared : S → Prop
  thread : S → Nat → T → Prop
  related : T → T → Prop := fun _ _ => True

namespace Assertion

variable (A : Assertion S T)

/-- The assertion, of all threads at once. -/
structure Holds (s : State S T) : Prop where
  shared : A.shared s.shared
  thread : ∀ (i : Nat) (t : T), s.threads[i]? = some t → A.thread s.shared i t
  related : ∀ (i j : Nat) (t u : T), i ≠ j → s.threads[i]? = some t → s.threads[j]? = some u → A.related t u

/-- A thread's step re-establishes what it relies on, and leaves alone what the threads it is related to rely on. -/
structure Kept (y : System S T E X) (C : State S T → Act T E X → Prop) : Prop where
  symm : ∀ {t u}, A.related t u → A.related u t
  begin : ∀ {s t}, A.Holds s → C s (.begin t) →
    A.thread s.shared s.threads.length t ∧ ∀ (i : Nat) (u : T), s.threads[i]? = some u → A.related t u
  outside : ∀ {s x shared}, A.Holds s → C s (.outside x) → y.outside s.shared x = some shared →
    A.shared shared ∧ ∀ (i : Nat) (t : T), s.threads[i]? = some t → A.thread s.shared i t → A.thread shared i t
  advance : ∀ {s i t e p}, A.Holds s → C s (.turn i e) → s.threads[i]? = some t → y.advance s.shared i t e = some p →
    A.shared p.1 ∧ A.thread p.1 i p.2 ∧
      (∀ (j : Nat) (u : T), j ≠ i → s.threads[j]? = some u → A.related t u → A.related p.2 u) ∧
      ∀ (j : Nat) (u : T), j ≠ i → s.threads[j]? = some u → A.related t u → A.thread s.shared j u → A.thread p.1 j u

variable {A} {y : System S T E X} {C : State S T → Act T E X → Prop}

/-- A step under the condition keeps it. -/
theorem Kept.step (h : A.Kept y C) {s s' : State S T} {a : Act T E X} (hC : C s a) (hs : A.Holds s)
    (hstep : y.step s a = some s') : A.Holds s' := by
  cases a with
  -- Every pair of threads behind the step is two old ones, or the one that moved and another.
  | begin t =>
    obtain rfl := Option.some.inj hstep
    obtain ⟨ht, hrelated⟩ := h.begin hs hC
    refine ⟨hs.shared, fun i u hu => ?_, fun i j u v hij hu hv => ?_⟩
    · rcases Tables.getElem?_append_cases hu with ⟨rfl, rfl⟩ | hu
      · exact ht
      · exact hs.thread i u hu
    · rcases Tables.getElem?_append_cases hu with ⟨rfl, rfl⟩ | hu'
      · rcases Tables.getElem?_append_cases hv with ⟨rfl, rfl⟩ | hv'
        · exact absurd rfl hij
        · exact hrelated j v hv'
      · rcases Tables.getElem?_append_cases hv with ⟨rfl, rfl⟩ | hv'
        · exact h.symm (hrelated i u hu')
        · exact hs.related i j u v hij hu' hv'
  | outside x =>
    obtain ⟨shared, hshared, rfl⟩ := System.step_outside.mp hstep
    obtain ⟨hshared', hthread⟩ := h.outside hs hC hshared
    exact ⟨hshared', fun i t ht => hthread i t ht (hs.thread i t ht), hs.related⟩
  | turn i e =>
    obtain ⟨t, p, ht, hp, rfl⟩ := System.step_turn.mp hstep
    obtain ⟨hshared, hthread, hrelated, hothers⟩ := h.advance hs hC ht hp
    refine ⟨hshared, fun j u hu => ?_, fun j k u v hjk hu hv => ?_⟩
    · by_cases hji : j = i
      · subst hji
        rw [List.getElem?_set_self (List.getElem?_eq_some_iff.mp ht).1] at hu
        obtain rfl := Option.some.inj hu
        exact hthread
      · replace hu : (s.threads.set i p.2)[j]? = some u := hu
        rw [List.getElem?_set_ne (Ne.symm hji)] at hu
        exact hothers j u hji hu (hs.related i j t u (Ne.symm hji) ht hu) (hs.thread j u hu)
    · rcases Tables.getElem?_set_cases hu with ⟨rfl, rfl⟩ | hu'
      · replace hv : (s.threads.set j p.2)[k]? = some v := hv
        rw [List.getElem?_set_ne hjk] at hv
        exact hrelated k v (Ne.symm hjk) hv (hs.related j k t v hjk ht hv)
      · rcases Tables.getElem?_set_cases hv with ⟨rfl, rfl⟩ | hv'
        · exact h.symm (hrelated j u hjk hu' (hs.related k j t u (Ne.symm hjk) ht hu'))
        · exact hs.related j k u v hjk hu' hv'

/-- An assertion that is kept holds behind every run whose steps meet the condition. -/
theorem Kept.invariant (h : A.Kept y C) {s s' : State S T} {as : List (Act T E X)}
    (hsteps : Runs.Steps y.step C s as) (hs : A.Holds s) (hrun : Runs.run y.step s as = some s') : A.Holds s' :=
  Runs.run_invariant_of (fun _ _ _ hC hI hstep => h.step hC hI hstep) hsteps hs hrun

end Assertion

/-! ## Locks -/

section Locks

variable {y : System S T E X} (holder : S → Option Nat) (critical ended : T → Prop)

/-- Who is in the section holds the lock, and who has ended does not. -/
def locked : Assertion S T where
  shared _ := True
  thread s i t := (critical t → holder s = some i) ∧ (ended t → holder s ≠ some i)

variable {holder critical ended}

/-- At most one thread is in the section. -/
theorem exclusive {s : State S T} (h : (locked holder critical ended).Holds s) {i j : Nat} {t u : T}
    (ht : s.threads[i]? = some t) (hu : s.threads[j]? = some u) (hct : critical t) (hcu : critical u) : i = j := by
  have hi := (h.thread i t ht).1 hct
  rw [(h.thread j u hu).1 hcu] at hi
  exact (Option.some.inj hi).symm

end Locks

end Threads
