/-
  Lists cut into pieces at a separator.

  No piece has the separator in it, so pieces that are replaced by others without it are found again in the
  list they are put together to.
-/
import Mathlib.Data.List.Basic

namespace List

variable {α : Type*} [DecidableEq α]

/-- A piece has no separator in it. -/
theorem not_mem_of_mem_splitOn {a : α} {l piece : List α} (h : piece ∈ l.splitOn a) : a ∉ piece := by
  induction l generalizing piece with
  | nil =>
    obtain rfl := mem_singleton.mp h
    exact not_mem_nil
  | cons b l ih =>
    rw [splitOn_cons_eq_if_modifyHead] at h
    split_ifs at h with hseparator
    · rcases mem_cons.mp h with rfl | h
      · exact not_mem_nil
      · exact ih h
    · obtain ⟨first, others, hsplit⟩ := exists_cons_of_ne_nil (splitOn_ne_nil a l)
      rw [hsplit, modifyHead_cons] at h
      rcases mem_cons.mp h with rfl | h
      · intro hmem
        rcases mem_cons.mp hmem with rfl | hmem
        · exact hseparator (beq_self_eq_true _)
        · exact ih (hsplit ▸ mem_cons_self) hmem
      · exact ih (hsplit ▸ mem_cons_of_mem _ h)

/-- The pieces once each of them was replaced. -/
theorem splitOn_intercalate_map {a : α} (l : List α) {f : List α → List α}
    (hf : ∀ piece, a ∉ piece → a ∉ f piece) :
    ([a].intercalate ((l.splitOn a).map f)).splitOn a = (l.splitOn a).map f := by
  refine splitOn_intercalate a ?_ ?_
  · intro piece hpiece
    obtain ⟨old, hold, rfl⟩ := mem_map.mp hpiece
    exact hf old (not_mem_of_mem_splitOn hold)
  · intro hnil
    exact splitOn_ne_nil a l (map_eq_nil_iff.mp hnil)

end List
