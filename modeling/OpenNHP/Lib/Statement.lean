/-
  Statements of a function that may return early.

  1. A statement takes the state (local variables, results and effects) and ends in one of two ways: control goes
     on to the next statement, or the function has returned.  Loops are over lists, and a return inside a loop
     leaves the function.
  2. `Emits` says which operations a statement has appended to a log where control goes on.
  3. `Grants` says what a statement that always goes on adds to a property of the state.
  4. `ReturnsWith` says what holds where it returns, and `Keeps` is an invariant of all states it ends in.
  5. `Performs` and `Needs` say that control goes on whenever, or only if, a sequence of actions on the log is
     possible, with the actions done.

  All of them compose along the structure of the statement: there is a rule for each of `skip`, `assign`,
  `returns`, `seq`, `cond` and `forEach`.
-/

namespace Statement

/-- How a statement ends. -/
inductive Step (σ : Type) where
  | next (s : σ)
  | ret (s : σ)

/-- The state in which a statement ends. -/
def Step.state {σ : Type} : Step σ → σ
  | .next s => s
  | .ret s => s

/-- A function that has returned does not go on. -/
theorem ret_ne_next {σ : Type} {s : σ} : ¬∃ s', Step.ret s = .next s' := by
  rintro ⟨s', h⟩
  cases h

/-- A statement over a state. -/
def Stmt (σ : Type) : Type := σ → Step σ

namespace Stmt

variable {σ α ω : Type}

/-- Nothing is done. -/
def skip : Stmt σ := .next

/-- Change the state and go on. -/
def assign (f : σ → σ) : Stmt σ := fun s => .next (f s)

/-- Change the state and return. -/
def returns (f : σ → σ) : Stmt σ := fun s => .ret (f s)

/-- One statement, then another. -/
def seq (p q : Stmt σ) : Stmt σ := fun s =>
  match p s with
  | .next s' => q s'
  | .ret s' => .ret s'

/-- A statement under a condition. -/
def cond (b : Prop) [Decidable b] (p : Stmt σ) : Stmt σ := if b then p else skip

/-- One round for each element of a list. -/
def forEach (xs : List α) (body : α → Stmt σ) : Stmt σ :=
  xs.foldr (fun x rest => (body x).seq rest) skip

@[simp] theorem forEach_nil (body : α → Stmt σ) : forEach [] body = skip := rfl

@[simp] theorem forEach_cons (x : α) (xs : List α) (body : α → Stmt σ) :
    forEach (x :: xs) body = (body x).seq (forEach xs body) := rfl

/-- Control passes a sequence exactly when it passes both parts. -/
theorem seq_eq_next {p q : Stmt σ} {s s' : σ} :
    p.seq q s = .next s' ↔ ∃ t, p s = .next t ∧ q t = .next s' := by
  unfold seq
  cases p s with
  | next t => simp
  | ret t => simp

/-- Three statements in a row. -/
theorem seq_assoc (p q r : Stmt σ) : (p.seq q).seq r = p.seq (q.seq r) := by
  funext s
  unfold seq
  cases p s with
  | next t => rfl
  | ret t => rfl

/-- A statement over one part of the state. -/
def onPart {τ : Type} (get : τ → σ) (set : σ → τ → τ) (p : Stmt σ) : Stmt τ := fun t =>
  match p (get t) with
  | .next s => .next (set s t)
  | .ret s => .ret (set s t)

/-! ## What a statement appends to a log -/

section Emits

variable {log : σ → List ω}

/-- Where control goes on, the statement has appended the operations. -/
def Emits (log : σ → List ω) (p : Stmt σ) (ops : List ω) : Prop :=
  ∀ s s', p s = .next s' → log s' = log s ++ ops

/-- The rules of `Emits`: nothing is appended, -/
theorem emits_skip : Emits log (skip : Stmt σ) [] := by
  rintro s s' h
  cases h
  exact (List.append_nil _).symm

/-- an assignment leaves the log, -/
theorem emits_assign {f : σ → σ} (h : ∀ s, log (f s) = log s) : Emits log (assign f) [] := by
  rintro s s' hs
  cases hs
  rw [h, List.append_nil]

/-- A statement that returns appends nothing where control goes on. -/
theorem emits_returns (f : σ → σ) (ops : List ω) : Emits log (returns f) ops := by
  rintro s s' hs
  cases hs

/-- one statement appends behind another, -/
theorem Emits.seq {p q : Stmt σ} {ops ops' : List ω} (hp : Emits log p ops)
    (hq : Emits log q ops') : Emits log (p.seq q) (ops ++ ops') := by
  intro s s' h
  obtain ⟨t, ht, hs'⟩ := seq_eq_next.mp h
  rw [hq t s' hs', hp s t ht, List.append_assoc]

/-- or under a condition. -/
theorem Emits.cond {b : Prop} [Decidable b] {p : Stmt σ} {ops : List ω} (hp : b → Emits log p ops) :
    Emits log (Stmt.cond b p) (if b then ops else []) := by
  unfold Stmt.cond
  split
  · rename_i hb
    exact hp hb
  · exact emits_skip

/-- A loop appends what its rounds append, in order. -/
theorem Emits.forEach {body : α → Stmt σ} {ops : α → List ω} {xs : List α}
    (hbody : ∀ x ∈ xs, Emits log (body x) (ops x)) :
    Emits log (Stmt.forEach xs body) (xs.flatMap ops) := by
  induction xs with
  | nil => exact emits_skip
  | cons x xs ih =>
    rw [forEach_cons, List.flatMap_cons]
    exact (hbody x List.mem_cons_self).seq (ih fun y hy => hbody y (List.mem_cons_of_mem x hy))

end Emits

/-! ## What a statement adds to a property of the state -/

/-- Control goes on from every state, and the property then holds where it held before or where `A`. -/
def Grants (G : σ → Prop) (p : Stmt σ) (A : Prop) : Prop :=
  ∀ s, ∃ s', p s = .next s' ∧ (G s' ↔ G s ∨ A)

section Grants

variable {G : σ → Prop}

/-- What is granted may be said in other words. -/
theorem Grants.congr {p : Stmt σ} {A B : Prop} (hp : Grants G p A) (h : A ↔ B) : Grants G p B :=
  propext h ▸ hp

/-- The rules of `Grants`. -/
theorem grants_skip : Grants G (skip : Stmt σ) False := fun s => ⟨s, rfl, (or_false _).symm ▸ Iff.rfl⟩

/-- An assignment that leaves the property grants nothing. -/
theorem grants_assign {f : σ → σ} (h : ∀ s, G (f s) ↔ G s) : Grants G (assign f) False :=
  fun s => ⟨f s, rfl, by rw [h, or_false]⟩

/-- Either of two statements may grant it. -/
theorem Grants.seq {p q : Stmt σ} {A B : Prop} (hp : Grants G p A) (hq : Grants G q B) :
    Grants G (p.seq q) (A ∨ B) := by
  intro s
  obtain ⟨t, ht, htG⟩ := hp s
  obtain ⟨s', hs', hsG⟩ := hq t
  refine ⟨s', seq_eq_next.mpr ⟨t, ht, hs'⟩, ?_⟩
  rw [hsG, htG, or_assoc]

/-- Under a condition both are needed. -/
theorem Grants.cond {b : Prop} [Decidable b] {p : Stmt σ} {A : Prop} (hp : b → Grants G p A) :
    Grants G (Stmt.cond b p) (b ∧ A) := by
  unfold Stmt.cond
  split
  · rename_i hb
    exact (hp hb).congr (and_iff_right hb).symm
  · rename_i hb
    exact grants_skip.congr (by simp [hb])

/-- A loop adds what one of its rounds adds. -/
theorem Grants.forEach {body : α → Stmt σ} {A : α → Prop} {xs : List α}
    (hbody : ∀ x ∈ xs, Grants G (body x) (A x)) : Grants G (Stmt.forEach xs body) (∃ x ∈ xs, A x) := by
  induction xs with
  | nil => exact grants_skip.congr (by simp)
  | cons x xs ih =>
    have htail := ih fun y hy => hbody y (List.mem_cons_of_mem x hy)
    rw [forEach_cons]
    exact ((hbody x List.mem_cons_self).seq htail).congr (by simp)

end Grants

/-! ## Where a statement returns -/

/-- Every state in which the statement returns has the property. -/
def ReturnsWith (P : σ → Prop) (p : Stmt σ) : Prop := ∀ s s', p s = .ret s' → P s'

section ReturnsWith

variable {P : σ → Prop}

/-- The rules of `ReturnsWith`: who goes on does not return, -/
theorem returnsWith_skip : ReturnsWith P (skip : Stmt σ) := by
  intro s s' h
  cases h

/-- nor does an assignment; -/
theorem returnsWith_assign (f : σ → σ) : ReturnsWith P (assign f) := by
  intro s s' h
  cases h

/-- a return has what it returns with, -/
theorem returnsWith_returns {f : σ → σ} (h : ∀ s, P (f s)) : ReturnsWith P (returns f) := by
  intro s s' hs
  cases hs
  exact h s

/-- be it in the first or the second of two, -/
theorem ReturnsWith.seq {p q : Stmt σ} (hp : ReturnsWith P p) (hq : ReturnsWith P q) :
    ReturnsWith P (p.seq q) := by
  intro s s' h
  unfold Stmt.seq at h
  cases hps : p s with
  | next t =>
    rw [hps] at h
    exact hq t s' h
  | ret t =>
    rw [hps] at h
    cases h
    exact hp s _ hps

/-- under a condition, -/
theorem ReturnsWith.cond {b : Prop} [Decidable b] {p : Stmt σ} (hp : b → ReturnsWith P p) :
    ReturnsWith P (Stmt.cond b p) := by
  unfold Stmt.cond
  split
  · rename_i hb
    exact hp hb
  · exact returnsWith_skip

/-- or in some turn of a loop. -/
theorem ReturnsWith.forEach {body : α → Stmt σ} {xs : List α}
    (hbody : ∀ x ∈ xs, ReturnsWith P (body x)) : ReturnsWith P (Stmt.forEach xs body) := by
  induction xs with
  | nil => exact returnsWith_skip
  | cons x xs ih =>
    exact (hbody x List.mem_cons_self).seq (ih fun y hy => hbody y (List.mem_cons_of_mem x hy))

/-- A run that does not end as a return does has appended the operations. -/
theorem Emits.state {log : σ → List ω} {p : Stmt σ} {ops : List ω} {s : σ} (hp : Emits log p ops)
    (hreturns : ReturnsWith P p) (h : ¬ P (p s).state) : log (p s).state = log s ++ ops := by
  cases hs : p s with
  | next s' => exact hp s s' hs
  | ret s' =>
    rw [hs] at h
    exact absurd (hreturns s s' hs) h

end ReturnsWith

/-! ## What a statement keeps -/

/-- The property holds wherever the statement ends, if it held before. -/
def Keeps (I : σ → Prop) (p : Stmt σ) : Prop := ∀ s, I s → I (p s).state

section Keeps

variable {I : σ → Prop}

/-- The rules of `Keeps`. -/
theorem keeps_skip : Keeps I (skip : Stmt σ) := fun _ hs => hs

/-- An assignment that keeps it, -/
theorem keeps_assign {f : σ → σ} (h : ∀ s, I s → I (f s)) : Keeps I (assign f) := h

/-- a return that does, -/
theorem keeps_returns {f : σ → σ} (h : ∀ s, I s → I (f s)) : Keeps I (returns f) := h

/-- two statements, -/
theorem Keeps.seq {p q : Stmt σ} (hp : Keeps I p) (hq : Keeps I q) : Keeps I (p.seq q) := by
  intro s hs
  have hps := hp s hs
  unfold Stmt.seq
  cases h : p s with
  | next t =>
    rw [h] at hps
    exact hq t hps
  | ret t =>
    rw [h] at hps
    exact hps

/-- a condition, -/
theorem Keeps.cond {b : Prop} [Decidable b] {p : Stmt σ} (hp : b → Keeps I p) :
    Keeps I (Stmt.cond b p) := by
  unfold Stmt.cond
  split
  · rename_i hb
    exact hp hb
  · exact keeps_skip

/-- and a loop. -/
theorem Keeps.forEach {body : α → Stmt σ} {xs : List α} (hbody : ∀ x ∈ xs, Keeps I (body x)) :
    Keeps I (Stmt.forEach xs body) := by
  induction xs with
  | nil => exact keeps_skip
  | cons x xs ih =>
    exact (hbody x List.mem_cons_self).seq (ih fun y hy => hbody y (List.mem_cons_of_mem x hy))

end Keeps

/-! ## What a statement performs -/

section Performs

variable {τ κ : Type} {log : σ → τ} {act : κ → τ → Option τ}

/-- A sequence of actions on the log, each of which may fail. -/
def actAll (act : κ → τ → Option τ) (ks : List κ) (t : τ) : Option τ :=
  ks.foldlM (fun t k => act k t) t

@[simp] theorem actAll_nil (t : τ) : actAll act [] t = some t := rfl

/-- One action and the others. -/
theorem actAll_cons (k : κ) (ks : List κ) (t : τ) :
    actAll act (k :: ks) t = (act k t).bind (actAll act ks) := rfl

/-- One action alone. -/
theorem actAll_singleton (k : κ) (t : τ) : actAll act [k] t = act k t := by
  rw [actAll_cons]
  cases act k t <;> rfl

/-- Some actions and then others. -/
theorem actAll_append (ks ks' : List κ) (t : τ) :
    actAll act (ks ++ ks') t = (actAll act ks t).bind (actAll act ks') :=
  List.foldlM_append

/-- Where the actions are possible, control goes on, and they are done. -/
def Performs (log : σ → τ) (act : κ → τ → Option τ) (p : Stmt σ) (ks : List κ) : Prop :=
  ∀ s t, actAll act ks (log s) = some t → ∃ s', p s = .next s' ∧ log s' = t

/-- The rules of `Performs`: no action, -/
theorem performs_skip : Performs log act (skip : Stmt σ) [] := by
  rintro s t h
  cases h
  exact ⟨s, rfl, rfl⟩

/-- none by an assignment, -/
theorem performs_assign {f : σ → σ} (h : ∀ s, log (f s) = log s) :
    Performs log act (assign f) [] := by
  rintro s t ht
  cases ht
  exact ⟨f s, rfl, h s⟩

/-- those of two statements, -/
theorem Performs.seq {p q : Stmt σ} {ks ks' : List κ} (hp : Performs log act p ks)
    (hq : Performs log act q ks') : Performs log act (p.seq q) (ks ++ ks') := by
  intro s t h
  rw [actAll_append] at h
  obtain ⟨u, hu, ht⟩ := Option.bind_eq_some_iff.mp h
  obtain ⟨s', hs', hlog⟩ := hp s u hu
  rw [← hlog] at ht
  obtain ⟨s'', hs'', hlog'⟩ := hq s' t ht
  exact ⟨s'', seq_eq_next.mpr ⟨s', hs', hs''⟩, hlog'⟩

/-- those under a condition, -/
theorem Performs.cond {b : Prop} [Decidable b] {p : Stmt σ} {ks : List κ}
    (hp : b → Performs log act p ks) : Performs log act (Stmt.cond b p) (if b then ks else []) := by
  unfold Stmt.cond
  split
  · rename_i hb
    exact hp hb
  · exact performs_skip

/-- and those of a loop. -/
theorem Performs.forEach {body : α → Stmt σ} {ks : α → List κ} {xs : List α}
    (hbody : ∀ x ∈ xs, Performs log act (body x) (ks x)) :
    Performs log act (Stmt.forEach xs body) (xs.flatMap ks) := by
  induction xs with
  | nil => exact performs_skip
  | cons x xs ih =>
    rw [forEach_cons, List.flatMap_cons]
    exact (hbody x List.mem_cons_self).seq (ih fun y hy => hbody y (List.mem_cons_of_mem x hy))

/-- Control goes on only where the actions are possible, and they are done. -/
def Needs (log : σ → τ) (act : κ → τ → Option τ) (p : Stmt σ) (ks : List κ) : Prop :=
  ∀ s s', p s = .next s' → actAll act ks (log s) = some (log s')

/-- The rules of `Needs`: an assignment needs none, -/
theorem needs_assign {f : σ → σ} (h : ∀ s, log (f s) = log s) : Needs log act (assign f) [] := by
  rintro s s' hs
  cases hs
  rw [actAll_nil, h]

/-- a return does not go on, so it may be said to need any, -/
theorem needs_returns (f : σ → σ) (ks : List κ) : Needs log act (returns f) ks := by
  rintro s s' hs
  cases hs

/-- and two statements need those of both. -/
theorem Needs.seq {p q : Stmt σ} {ks ks' : List κ} (hp : Needs log act p ks) (hq : Needs log act q ks') :
    Needs log act (p.seq q) (ks ++ ks') := by
  intro s s' h
  obtain ⟨t, ht, hs'⟩ := seq_eq_next.mp h
  rw [actAll_append, hp s t ht, Option.bind_some]
  exact hq t s' hs'

end Performs

end Stmt

end Statement
