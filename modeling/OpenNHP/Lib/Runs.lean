/-
  Runs of a system that takes one event after another.

  1. A step is a partial function: an event that is not possible in a state has no successor.  A run is a list of
     events (`run`), or a path of a relation (`Reaches`).
  2. What holds of every state a run reaches is proved once for a step (`run_invariant_of`, `Reaches.invariant`),
     also when only some steps are looked at.
  3. A property of steps holds along a run (`Steps`); two of them that agree wherever an invariant holds, hold
     along the same runs (`steps_congr`).
  4. Where what counts is what has happened before, the state is given a history, which changes no run
     (`noting`, `steps_noting`).
-/

namespace Runs

variable {σ ε : Type} (step : σ → ε → Option σ)

/-- The state behind a sequence of events, if all of them are possible. -/
def run : σ → List ε → Option σ
  | s, [] => some s
  | s, e :: es => (step s e).bind fun s' => run s' es

@[simp] theorem run_nil (s : σ) : run step s [] = some s := rfl

variable {step}

/-- The first event, and then the others. -/
theorem run_cons {s t : σ} {e : ε} {es : List ε} :
    run step s (e :: es) = some t ↔ ∃ u, step s e = some u ∧ run step u es = some t := by
  rw [run]
  exact Option.bind_eq_some_iff

/-- One run behind another. -/
theorem run_append (s : σ) (es es' : List ε) :
    run step s (es ++ es') = (run step s es).bind fun t => run step t es' := by
  induction es generalizing s with
  | nil => rfl
  | cons e es ih =>
    rw [List.cons_append, run, run, Option.bind_assoc]
    exact congrArg _ (funext ih)

/-- Every step of a run meets a condition on the state before it. -/
def Steps (step : σ → ε → Option σ) (C : σ → ε → Prop) : σ → List ε → Prop
  | _, [] => True
  | s, e :: es => C s e ∧ ∀ s', step s e = some s' → Steps step C s' es

instance decidableSteps {C : σ → ε → Prop} [∀ s e, Decidable (C s e)] :
    (s : σ) → (es : List ε) → Decidable (Steps step C s es)
  | _, [] => inferInstanceAs (Decidable True)
  | s, e :: es =>
    have (s' : σ) : Decidable (Steps step C s' es) := decidableSteps s' es
    inferInstanceAs (Decidable (C s e ∧ ∀ s' ∈ step s e, Steps step C s' es))

/-- What the steps that meet a condition preserve holds behind a run of such steps. -/
theorem run_invariant_of {C : σ → ε → Prop} {I : σ → Prop}
    (hstep : ∀ s e s', C s e → I s → step s e = some s' → I s') {s t : σ} {es : List ε}
    (hsteps : Steps step C s es) (hs : I s) (hrun : run step s es = some t) : I t := by
  induction es generalizing s with
  | nil =>
    cases hrun
    exact hs
  | cons e es ih =>
    obtain ⟨u, hu, hrun⟩ := run_cons.mp hrun
    exact ih (hsteps.2 u hu) (hstep s e u hsteps.1 hs hu) hrun

/-- Where an invariant holds that the steps keep, a condition may follow from another along a run. -/
theorem steps_imp {C D : σ → ε → Prop} {I : σ → Prop} (himp : ∀ s e, I s → C s e → D s e)
    (hkeep : ∀ s e s', I s → C s e → step s e = some s' → I s') {s : σ} {es : List ε} (hs : I s)
    (h : Steps step C s es) : Steps step D s es := by
  induction es generalizing s with
  | nil => trivial
  | cons e es ih =>
    obtain ⟨he, hes⟩ := h
    exact ⟨himp s e hs he, fun s' hstep => ih (hkeep s e s' hs he hstep) (hes s' hstep)⟩

/-- Conditions that agree where an invariant holds agree along a run. -/
theorem steps_congr {C D : σ → ε → Prop} {I : σ → Prop} (hiff : ∀ s e, I s → (C s e ↔ D s e))
    (hkeep : ∀ s e s', I s → C s e → step s e = some s' → I s') {s : σ} (hs : I s) (es : List ε) :
    Steps step C s es ↔ Steps step D s es := by
  constructor
  · exact steps_imp (fun s e hI => (hiff s e hI).mp) hkeep hs
  · exact steps_imp (fun s e hI => (hiff s e hI).mpr)
      (fun s e s' hI hD hstep => hkeep s e s' hI ((hiff s e hI).mpr hD) hstep) hs

/-- What is always so is so along every run. -/
theorem steps_true (s : σ) (es : List ε) : Steps step (fun _ _ => True) s es := by
  induction es generalizing s with
  | nil => trivial
  | cons e es ih => exact ⟨trivial, fun s' _ => ih s'⟩

/-- What every step preserves holds behind every run. -/
theorem run_invariant {I : σ → Prop} (hstep : ∀ s e s', I s → step s e = some s' → I s') {s t : σ}
    {es : List ε} (hs : I s) (hrun : run step s es = some t) : I t :=
  run_invariant_of (fun s e s' _ hI h => hstep s e s' hI h) (steps_true s es) hs hrun

/-! ## What a run has done

  Where a condition is about what has happened before, some events are noted beside the state. -/

section Noting

variable {τ : Type} {note : σ → ε → Option τ}

/-- The step, with its note; the latest note comes first. -/
def noting (step : σ → ε → Option σ) (note : σ → ε → Option τ) (p : List τ × σ) (e : ε) :
    Option (List τ × σ) :=
  (step p.2 e).map fun s' => ((note p.2 e).toList ++ p.1, s')

/-- A step with its note. -/
theorem noting_eq_some {p q : List τ × σ} {e : ε} :
    noting step note p e = some q ↔
      ∃ s', step p.2 e = some s' ∧ ((note p.2 e).toList ++ p.1, s') = q :=
  Option.map_eq_some_iff

/-- A condition on the state sees nothing of the notes. -/
theorem steps_noting {C : σ → ε → Prop} (past : List τ) (s : σ) (es : List ε) :
    Steps (noting step note) (fun p e => C p.2 e) (past, s) es ↔ Steps step C s es := by
  induction es generalizing past s with
  | nil => exact Iff.rfl
  | cons e es ih =>
    apply and_congr_right
    intro _
    constructor
    · intro h s' hstep
      exact (ih _ s').mp (h _ (noting_eq_some.mpr ⟨s', hstep, rfl⟩))
    · intro h p' hstep
      obtain ⟨s', hs', rfl⟩ := noting_eq_some.mp hstep
      exact (ih _ s').mpr (h s' hs')

end Noting

/-! ## Systems with several successors

  Where a step also makes choices, it is a relation; a run is what its steps lead to. -/

/-- Reachable by steps that all meet a condition on the state before them. -/
inductive Reaches (Step : σ → ε → σ → Prop) (C : σ → ε → Prop) (s : σ) : σ → Prop
  | refl : Reaches Step C s s
  | step {t u : σ} {e : ε} (h : Reaches Step C s t) (hC : C t e) (hstep : Step t e u) :
    Reaches Step C s u

namespace Reaches

variable {Step : σ → ε → σ → Prop} {C : σ → ε → Prop} {s t : σ}

/-- What the steps that meet the condition preserve holds wherever they lead. -/
theorem invariant {I : σ → Prop} (hstep : ∀ t e u, C t e → I t → Step t e u → I u)
    (h : Reaches Step C s t) (hs : I s) : I t := by
  induction h with
  | refl => exact hs
  | step _ hC hstep' ih => exact hstep _ _ _ hC ih hstep'

/-- A step before a run. -/
theorem head {e : ε} {u : σ} (hC : C s e) (hstep : Step s e u)
    (h : Reaches Step C u t) : Reaches Step C s t := by
  induction h with
  | refl => exact .step .refl hC hstep
  | step _ hC' hstep' ih => exact .step ih hC' hstep'

end Reaches

end Runs
