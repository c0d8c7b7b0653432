/-
  Calls that can fail, one after another.

  A sequence of calls that returned a value is taken apart call by call (`bind_eq_ok`).
-/

namespace Fallible

variable {ε α β : Type}

/-- Where the second of two calls returns, the first has. -/
theorem bind_eq_ok {x : Except ε α} {f : α → Except ε β} {b : β} (h : x >>= f = .ok b) :
    ∃ a, x = .ok a ∧ f a = .ok b := by
  cases x with
  | error e => cases h
  | ok a => exact ⟨a, rfl, h⟩

/-- What is there as an option was returned. -/
theorem eq_ok_of_toOption {x : Except ε α} {a : α} (h : x.toOption = some a) : x = .ok a := by
  cases x with
  | error e => cases h
  | ok b => exact congrArg Except.ok (Option.some.inj h)

end Fallible
