/-
  Programs that call methods, and method bodies that call methods again.

  1. A program returns or calls a method and goes on with what that returned (`Prog`).  With answers for the
     methods it has a value, or none if a call is not answered (`eval`).
  2. A call is answered by the method's body, one level deeper; so a program finishes when some depth is enough
     for all the calls it leads to (`Finishes`).
  3. A deeper level answers no less (`answer_mono`), so the depth does not matter where there is one.
  4. A body that calls methods has to come to one that does not: methods that begin by calling one another never
     answer, at no depth (`answer_eq_none`), and a program that begins with such a call does not finish
     (`not_finishes`).
-/
import Mathlib.Tactic.Common

namespace Calls

/-- A program over the methods `M`, which return what `R` says. -/
inductive Prog {M : Type} (R : M → Type) (α : Type)
  | ret (a : α)
  | call (m : M) (next : R m → Prog R α)

variable {M : Type} {R : M → Type} {α β : Type}

namespace Prog

/-- One program behind another. -/
def bind : Prog R α → (α → Prog R β) → Prog R β
  | ret a, f => f a
  | call m next, f => call m fun r => (next r).bind f

instance : Monad (Prog R) where
  pure := ret
  bind := bind

/-- The call of one method. -/
def invoke (m : M) : Prog R (R m) := call m ret

/-- What a program returns where the methods answer as `answer` says; no answer is a call that is still
    running. -/
def eval (answer : ∀ m, Option (R m)) : Prog R α → Option α
  | ret a => some a
  | call m next =>
    match answer m with
    | some r => (next r).eval answer
    | none => none

/-- The method a program calls first. -/
def first? : Prog R α → Option M
  | ret _ => none
  | call m _ => some m

@[simp] theorem eval_pure (answer : ∀ m, Option (R m)) (a : α) : (pure a : Prog R α).eval answer = some a := rfl

@[simp] theorem eval_invoke (answer : ∀ m, Option (R m)) (m : M) : (invoke m).eval answer = answer m := by
  rw [invoke, eval]
  cases answer m <;> rfl

@[simp] theorem eval_bind (answer : ∀ m, Option (R m)) (p : Prog R α) (f : α → Prog R β) :
    (p >>= f).eval answer = (p.eval answer).bind fun a => (f a).eval answer := by
  show (p.bind f).eval answer = _
  induction p with
  | ret a => rfl
  | call m next ih =>
    rw [bind, eval, eval]
    cases answer m with
    | none => rfl
    | some r => exact ih r

/-- More answers leave what was returned. -/
theorem eval_mono {answer answer' : ∀ m, Option (R m)} (hmore : ∀ m r, answer m = some r → answer' m = some r)
    {p : Prog R α} {a : α} (h : p.eval answer = some a) : p.eval answer' = some a := by
  induction p with
  | ret b => exact h
  | call m next ih =>
    rw [eval] at h ⊢
    cases hm : answer m with
    | none =>
      rw [hm] at h
      cases h
    | some r =>
      rw [hm] at h
      rw [hmore m r hm]
      exact ih r h

/-- A program waits for the first call it makes. -/
theorem eval_eq_none {answer : ∀ m, Option (R m)} {p : Prog R α} {m : M} (hfirst : p.first? = some m)
    (hm : answer m = none) : p.eval answer = none := by
  cases p with
  | ret a => cases hfirst
  | call m' next =>
    obtain rfl := Option.some.inj hfirst
    rw [eval, hm]

end Prog

/-! ## Method tables -/

section Bodies

variable (body : ∀ m, Prog R (R m))

/-- What a method answers when its calls may go `depth` levels deep. -/
def answer : Nat → ∀ m, Option (R m)
  | 0, _ => none
  | depth + 1, m => (body m).eval (answer depth)

/-- The method answers, at some depth. -/
def Answers (m : M) : Prop := ∃ depth r, answer body depth m = some r

/-- The program finishes, at some depth. -/
def Finishes (p : Prog R α) : Prop := ∃ depth a, p.eval (answer body depth) = some a

variable {body}

/-- A depth that is enough stays enough. -/
theorem answer_succ {depth : Nat} {m : M} {r : R m} (h : answer body depth m = some r) :
    answer body (depth + 1) m = some r := by
  induction depth generalizing m r with
  | zero => cases h
  | succ depth ih =>
    rw [answer] at h ⊢
    exact Prog.eval_mono (fun m r hm => ih hm) h

/-- What is answered at some depth is so at every greater one. -/
theorem answer_mono {depth depth' : Nat} (hle : depth ≤ depth') {m : M} {r : R m}
    (h : answer body depth m = some r) : answer body depth' m = some r := by
  induction hle with
  | refl => exact h
  | step _ ih => exact answer_succ ih

/-- Methods that begin by calling one another answer at no depth. -/
theorem answer_eq_none {S : M → Prop} (hS : ∀ m, S m → ∃ m', S m' ∧ (body m).first? = some m')
    (depth : Nat) {m : M} (hm : S m) : answer body depth m = none := by
  induction depth generalizing m with
  | zero => rfl
  | succ depth ih =>
    obtain ⟨m', hm', hfirst⟩ := hS m hm
    rw [answer]
    exact Prog.eval_eq_none hfirst (ih hm')

/-- A program that begins with such a method does not finish. -/
theorem not_finishes {S : M → Prop} (hS : ∀ m, S m → ∃ m', S m' ∧ (body m).first? = some m') {p : Prog R α}
    {m : M} (hm : S m) (hfirst : p.first? = some m) : ¬ Finishes body p := by
  rintro ⟨depth, a, ha⟩
  rw [Prog.eval_eq_none hfirst (answer_eq_none hS depth hm)] at ha
  cases ha

/-- A program whose calls are all answered finishes: every call has a depth, and the largest is enough. -/
theorem finishes_of_answers (hall : ∀ m, Answers body m) (p : Prog R α) : Finishes body p := by
  induction p with
  | ret a => exact ⟨0, a, rfl⟩
  | call m next ih =>
    obtain ⟨d, r, hr⟩ := hall m
    obtain ⟨d', a, ha⟩ := ih r
    refine ⟨max d d', a, ?_⟩
    rw [Prog.eval, answer_mono (Nat.le_max_left d d') hr]
    exact Prog.eval_mono (fun m r hm => answer_mono (Nat.le_max_right d d') hm) ha

end Bodies

end Calls
