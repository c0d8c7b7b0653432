/-
  Rules tried in order.

  1. Each rule passes, drops or leaves the decision to the next one; a list of rules that all leave it drops.
  2. Such a list passes whenever one of its rules does, except where a rule that drops comes before the first that
     passes (`Masked`, `firstMatch_iff_exists`).
-/
import Mathlib.Logic.Basic

namespace FirstMatch

/-- What a rule says. -/
inductive Answer
  | pass
  | drop
  | next
  deriving DecidableEq, Repr

variable {α : Type} (judge : α → Answer)

/-- Whether the rules pass. -/
def firstMatch : List α → Bool
  | [] => false
  | a :: as =>
    match judge a with
    | .pass => true
    | .drop => false
    | .next => firstMatch as

/-- The rule that passes, if the rules do. -/
def passing : List α → Option α
  | [] => none
  | a :: as =>
    match judge a with
    | .pass => some a
    | .drop => none
    | .next => passing as

/-- A rule that drops decides before one that passes. -/
def Masked (rules : List α) : Prop :=
  ∃ pre a post, rules = pre ++ a :: post ∧ (∀ b ∈ pre, judge b = .next) ∧ judge a = .drop ∧
    ∃ b ∈ post, judge b = .pass

variable {judge}

/-- A rule that leaves it to the next may be left out. -/
theorem firstMatch_cons_next {a : α} {as : List α} (h : judge a = .next) :
    firstMatch judge (a :: as) = firstMatch judge as := by
  rw [firstMatch, h]

/-- A list passes by one of its rules. -/
theorem isSome_passing (rules : List α) : (passing judge rules).isSome = firstMatch judge rules := by
  induction rules with
  | nil => rfl
  | cons a as ih =>
    rw [passing, firstMatch]
    cases judge a with
    | pass | drop => rfl
    | next => exact ih

/-- What passes is passed by a rule. -/
theorem exists_of_firstMatch {rules : List α} (h : firstMatch judge rules = true) :
    ∃ a ∈ rules, judge a = .pass := by
  induction rules with
  | nil => cases h
  | cons a as ih =>
    cases hjudge : judge a with
    | pass => exact ⟨a, List.mem_cons_self, hjudge⟩
    | drop =>
      rw [firstMatch, hjudge] at h
      cases h
    | next =>
      rw [firstMatch_cons_next hjudge] at h
      obtain ⟨b, hb, hpass⟩ := ih h
      exact ⟨b, List.mem_cons_of_mem a hb, hpass⟩

/-- A list whose passing rule is masked drops. -/
theorem not_firstMatch_of_masked {rules : List α} (h : Masked judge rules) :
    firstMatch judge rules = false := by
  obtain ⟨pre, a, post, rfl, hpre, hdrop, -⟩ := h
  induction pre with
  | nil => rw [List.nil_append, firstMatch, hdrop]
  | cons b pre ih =>
    rw [List.cons_append, firstMatch_cons_next (hpre b List.mem_cons_self)]
    exact ih fun c hc => hpre c (List.mem_cons_of_mem b hc)

/-- A rule that leaves it masks nothing. -/
theorem Masked.cons {a : α} {rules : List α} (ha : judge a = .next) (h : Masked judge rules) :
    Masked judge (a :: rules) := by
  obtain ⟨pre, b, post, rfl, hpre, hrest⟩ := h
  refine ⟨a :: pre, b, post, rfl, ?_, hrest⟩
  intro c hc
  rcases List.mem_cons.mp hc with rfl | hc
  · exact ha
  · exact hpre c hc

/-- A rule that passes is masked or heard. -/
theorem firstMatch_or_masked {rules : List α} (h : ∃ a ∈ rules, judge a = .pass) :
    firstMatch judge rules = true ∨ Masked judge rules := by
  obtain ⟨a, ha, hpass⟩ := h
  induction rules with
  | nil => cases ha
  | cons b rules ih =>
    cases hjudge : judge b with
    | pass =>
      left
      rw [firstMatch, hjudge]
    | drop =>
      rcases List.mem_cons.mp ha with rfl | ha
      · rw [hpass] at hjudge
        cases hjudge
      · exact .inr ⟨[], b, rules, rfl, nofun, hjudge, a, ha, hpass⟩
    | next =>
      rcases List.mem_cons.mp ha with rfl | ha
      · rw [hpass] at hjudge
        cases hjudge
      · rw [firstMatch_cons_next hjudge]
        exact (ih ha).imp id (Masked.cons hjudge)

/-- **The rules are their disjunction exactly where none is masked.** -/
theorem firstMatch_iff_exists {rules : List α} :
    (firstMatch judge rules = true ↔ ∃ a ∈ rules, judge a = .pass) ↔ ¬ Masked judge rules := by
  constructor
  · intro hiff hmasked
    have hfalse := not_firstMatch_of_masked hmasked
    obtain ⟨pre, a, post, rfl, -, -, b, hb, hpass⟩ := hmasked
    have hmem : b ∈ pre ++ a :: post := List.mem_append_right pre (List.mem_cons_of_mem a hb)
    rw [hiff.mpr ⟨b, hmem, hpass⟩] at hfalse
    cases hfalse
  · intro hmasked
    exact ⟨exists_of_firstMatch, fun h => (firstMatch_or_masked h).resolve_right hmasked⟩

end FirstMatch
