/-
  Look-ups in a table behind a change of one key or one entry.

  Each change of a map is one equation, whichever key is looked up, so that a proof splits on the keys where
  it needs to and nowhere else.  What is found in a list behind a change is the new entry or was there before.
-/
import Mathlib.Data.List.AList

namespace AList

variable {α β : Type*} [DecidableEq α] (m : AList fun _ : α => β)

/-- An entry is put in, -/
theorem lookup_insert_eq_ite (a a' : α) (b : β) :
    (m.insert a b).lookup a' = if a' = a then some b else m.lookup a' := by
  split_ifs with ha
  · rw [ha, lookup_insert]
  · exact lookup_insert_ne ha

/-- or taken out. -/
theorem lookup_erase_eq_ite (a a' : α) :
    (m.erase a).lookup a' = if a' = a then none else m.lookup a' := by
  split_ifs with ha
  · rw [ha, lookup_erase]
  · exact lookup_erase_ne ha

/-- The entries whose keys are kept. -/
def filterKeys (p : α → Bool) : AList fun _ : α => β where
  entries := m.entries.filter fun e => p e.1
  nodupKeys := m.nodupKeys.sublist List.filter_sublist

/-- Only some keys are left. -/
theorem lookup_filterKeys (p : α → Bool) (a : α) :
    (m.filterKeys p).lookup a = if p a then m.lookup a else none := by
  apply Option.ext
  intro b
  rw [← Option.mem_def, mem_lookup_iff, filterKeys, List.mem_filter, ← mem_lookup_iff, Option.mem_def]
  split_ifs with ha
  · rw [and_iff_left ha]
  · exact ⟨fun ⟨_, hp⟩ => absurd hp ha, fun h => by cases h⟩

/-- Every value is replaced by one that its key gives. -/
def mapWithKey (f : α → β → β) : AList fun _ : α => β where
  entries := m.entries.map fun e => ⟨e.1, f e.1 e.2⟩
  nodupKeys := m.nodupKeys.map₂ f

omit [DecidableEq α] in
/-- A replacement that repeats nothing is done once. -/
theorem mapWithKey_idem {f : α → β → β} (hf : ∀ a b, f a (f a b) = f a b) :
    (m.mapWithKey f).mapWithKey f = m.mapWithKey f := by
  apply AList.ext
  show (m.entries.map _).map _ = m.entries.map _
  rw [List.map_map]
  refine List.map_congr_left fun e _ => ?_
  show (⟨e.1, f e.1 (f e.1 e.2)⟩ : Sigma fun _ : α => β) = ⟨e.1, f e.1 e.2⟩
  rw [hf]

end AList

/-! ## Lists of entries -/

namespace Tables

variable {α : Type*} {l : List α} {i j : Nat} {a b : α}

/-- A list with one entry replaced. -/
theorem getElem?_set_cases (h : (l.set i a)[j]? = some b) : j = i ∧ b = a ∨ l[j]? = some b := by
  rw [List.getElem?_set] at h
  split at h
  · rename_i hij
    split at h
    · exact .inl ⟨hij.symm, (Option.some.inj h).symm⟩
    · cases h
  · exact .inr h

/-- At the end of a list there is the new entry. -/
theorem getElem?_append_cases (h : (l ++ [a])[j]? = some b) : j = l.length ∧ b = a ∨ l[j]? = some b := by
  rw [List.getElem?_append] at h
  split at h
  · exact .inr h
  · obtain ⟨hlt, hb⟩ := List.getElem?_eq_some_iff.mp h
    rw [List.length_singleton] at hlt
    rw [List.getElem_singleton] at hb
    exact .inl ⟨by omega, hb.symm⟩

/-- What is taken from the entries of a list is the same where it is of the entry replaced. -/
theorem filterMap_set {β : Type*} {g : α → Option β} (hi : l[i]? = some a) (h : g b = g a) :
    (l.set i b).filterMap g = l.filterMap g := by
  induction l generalizing i with
  | nil => rfl
  | cons c l ih =>
    cases i with
    | zero =>
      obtain rfl := Option.some.inj hi
      rw [List.set_cons_zero, List.filterMap_cons, List.filterMap_cons, h]
    | succ i =>
      rw [List.getElem?_cons_succ] at hi
      rw [List.set_cons_succ, List.filterMap_cons, List.filterMap_cons, ih hi]

/-- Where the first entries of one kind are all of a narrower kind, they are the first of that kind. -/
theorem take_filter_of_forall {p q : α → Bool} {n : Nat} (himp : ∀ a ∈ l, q a = true → p a = true)
    (hall : ∀ a ∈ (l.filter p).take n, q a = true) : (l.filter q).take n = (l.filter p).take n := by
  induction l generalizing n with
  | nil => rfl
  | cons a l ih =>
    have himp' : ∀ b ∈ l, q b = true → p b = true := fun b hb => himp b (List.mem_cons_of_mem a hb)
    by_cases hp : p a = true
    · rw [List.filter_cons_of_pos hp] at hall ⊢
      cases n with
      | zero => rfl
      | succ n =>
        rw [List.take_succ_cons] at hall ⊢
        have hq : q a = true := hall a List.mem_cons_self
        rw [List.filter_cons_of_pos hq, List.take_succ_cons]
        exact congrArg (a :: ·) (ih himp' fun b hb => hall b (List.mem_cons_of_mem a hb))
    · have hq : ¬ q a = true := fun hq => hp (himp a List.mem_cons_self hq)
      rw [List.filter_cons_of_neg hp] at hall ⊢
      rw [List.filter_cons_of_neg hq]
      exact ih himp' hall

end Tables

namespace List

variable {α β : Type*} [BEq α] [LawfulBEq α] {l : List (α × β)}

/-- In a list with each key once a look-up finds what is there. -/
theorem lookup_eq_some_iff_mem (h : (l.map Prod.fst).Nodup) {a : α} {b : β} : l.lookup a = some b ↔ (a, b) ∈ l := by
  induction l with
  | nil => simp
  | cons e l ih =>
    obtain ⟨hnot, hnodup⟩ := nodup_cons.mp h
    rw [lookup_cons, mem_cons]
    by_cases ha : a = e.1
    · subst ha
      rw [beq_self_eq_true]
      dsimp only
      constructor
      · intro hb
        exact .inl (Prod.ext rfl (Option.some.inj hb).symm)
      · rintro (heq | hmem)
        · rw [← heq]
        · exact absurd (mem_map_of_mem hmem) hnot
    · rw [beq_eq_false_iff_ne.mpr ha]
      dsimp only
      rw [ih hnodup]
      exact ⟨.inr, fun h => h.resolve_left fun heq => ha (congrArg Prod.fst heq)⟩

omit [LawfulBEq α] in
/-- A look-up among values that were replaced by one function. -/
theorem lookup_map_snd {γ : Type*} (f : β → γ) (a : α) : (l.map (Prod.map id f)).lookup a = (l.lookup a).map f := by
  induction l with
  | nil => rfl
  | cons e l ih =>
    rw [map_cons, lookup_cons, lookup_cons, Prod.map_fst, id_eq]
    split
    · rfl
    · exact ih

end List
