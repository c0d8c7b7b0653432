/-
  Regular expressions of single bytes and greedy runs, in texts of several lines.

  1. An expression is tried where a line starts.  Of the matches there the first in the order of a backtracking
     search counts, which tries a greedy run at its longest first (`rests`, `find`).
  2. Every match is replaced from left to right (`replaceFrom`).
  3. What an expression leaves is said item by item, for any text that follows; a run and the end of a line leave
     the text behind the last of the spaces (`find_lineEnd_cons`).
  4. A text is replaced piece by piece: a match (`replaceAll_match`), a piece in which no line starts
     (`replaceFrom_piece`), a line without a match (`replaceFrom_line`).
-/
import Mathlib.Data.List.Basic

namespace Regexp

/-- A text is a byte string. -/
abbrev Text := List UInt8

/-- The line break. -/
def lineBreak : UInt8 := 10

/-- One byte, a greedy run, or the end of a line. -/
inductive Item
  | one (p : UInt8 → Bool)
  | many (p : UInt8 → Bool)
  | lineEnd

/-- The bytes of a text, one by one. -/
def literal (text : Text) : List Item := text.map fun b => .one (· == b)

/-- A line ends here. -/
def atLineEnd (t : Text) : Bool := t.head?.all (· == lineBreak)

/-- What a greedy run may leave of a text, the longest run first. -/
def runs (p : UInt8 → Bool) : Text → List Text
  | [] => [[]]
  | c :: t => if p c then runs p t ++ [c :: t] else [c :: t]

/-- What is left of a text after each match at its start, in the order of the search. -/
def rests : List Item → Text → List Text
  | [], t => [t]
  | .one _ :: _, [] => []
  | .one p :: e, c :: t => if p c then rests e t else []
  | .many p :: e, t => (runs p t).flatMap (rests e)
  | .lineEnd :: e, t => if atLineEnd t then rests e t else []

/-- The match at the start of a text, as what it leaves. -/
def find (e : List Item) (t : Text) : Option Text := (rests e t).head?

/-- Whether a line starts behind a text, when one starts before it or not. -/
def startsLine : Bool → Text → Bool
  | start, [] => start
  | _, c :: t => startsLine (c == lineBreak) t

/-- Every match of an expression, which is never empty, is replaced; `skip` bytes are still of the last match,
    and `start` says whether a line starts here. -/
def replaceFrom (e : List Item) (new : Text) : Nat → Bool → Text → Text
  | _, _, [] => []
  | skip + 1, _, c :: t => replaceFrom e new skip (c == lineBreak) t
  | 0, false, c :: t => c :: replaceFrom e new 0 (c == lineBreak) t
  | 0, true, c :: t =>
    match find e (c :: t) with
    | some rest => new ++ replaceFrom e new (t.length - rest.length) (c == lineBreak) t
    | none => c :: replaceFrom e new 0 (c == lineBreak) t

/-- Every match in a text is replaced. -/
def replaceAll (e : List Item) (new t : Text) : Text := replaceFrom e new 0 true t

/-! ## Matches -/

section Matches

variable {p q : UInt8 → Bool} {e : List Item} {t rest : Text}

/-- What a run may leave. -/
theorem mem_runs : rest ∈ runs p t ↔ ∃ run, t = run ++ rest ∧ ∀ c ∈ run, p c := by
  induction t with
  | nil =>
    rw [runs, List.mem_singleton]
    constructor
    · rintro rfl
      exact ⟨[], rfl, fun c hc => absurd hc List.not_mem_nil⟩
    · rintro ⟨run, happend, -⟩
      exact (List.append_eq_nil_iff.mp happend.symm).2
  | cons b t ih =>
    rw [runs]
    constructor
    · intro h
      split_ifs at h with hb
      · rcases List.mem_append.mp h with h | h
        · obtain ⟨run, rfl, hrun⟩ := ih.mp h
          exact ⟨b :: run, rfl, List.forall_mem_cons.mpr ⟨hb, hrun⟩⟩
        · exact ⟨[], (List.mem_singleton.mp h).symm, fun c hc => absurd hc List.not_mem_nil⟩
      · exact ⟨[], (List.mem_singleton.mp h).symm, fun c hc => absurd hc List.not_mem_nil⟩
    · rintro ⟨run, happend, hrun⟩
      cases run with
      | nil =>
        obtain rfl := happend
        split_ifs
        · exact List.mem_append_right _ (List.mem_singleton_self _)
        · exact List.mem_singleton_self _
      | cons c run =>
        obtain ⟨rfl, rfl⟩ := List.cons.inj happend
        rw [if_pos (hrun b List.mem_cons_self)]
        exact List.mem_append_left _ (ih.mpr ⟨run, rfl, fun c hc => hrun c (List.mem_cons_of_mem _ hc)⟩)

/-- A greedy run goes on to the first byte that is not of its class, when a byte of another class follows. -/
theorem rests_many_one (h : ∀ c, p c = true → q c = false) :
    rests (.many p :: .one q :: e) t = rests (.one q :: e) (t.dropWhile p) := by
  rw [rests]
  induction t with
  | nil => exact List.append_nil _
  | cons c t ih =>
    rw [runs, List.dropWhile_cons]
    split_ifs with hc
    · rw [List.flatMap_append, ih]
      have hnone : rests (.one q :: e) (c :: t) = [] := by
        rw [rests, h c hc]
        rfl
      rw [List.flatMap_singleton, hnone, List.append_nil]
    · exact List.flatMap_singleton _ _

/-- A fixed text matches itself. -/
theorem rests_literal (text : Text) : rests (literal text ++ e) t =
    if text <+: t then rests e (t.drop text.length) else [] := by
  induction text generalizing t with
  | nil => rfl
  | cons b text ih =>
    cases t with
    | nil => rfl
    | cons c t =>
      have hone : rests (literal (b :: text) ++ e) (c :: t) = if c == b then rests (literal text ++ e) t else [] :=
        rfl
      rw [hone, ih, List.length_cons, List.drop_succ_cons]
      by_cases hb : c = b
      · subst hb
        have hiff : c :: text <+: c :: t ↔ text <+: t := by
          rw [List.cons_prefix_cons, eq_self_iff_true, true_and]
        rw [if_pos (beq_self_eq_true c)]
        exact if_congr hiff.symm rfl rfl
      · rw [if_neg (by rwa [beq_iff_eq]), if_neg]
        intro hinitial
        exact hb (List.cons_prefix_cons.mp hinitial).1.symm

/-- Where the ways to go on that lead to a match all lead to the same one. -/
theorem head?_flatMap_eq {α β : Type} {l : List α} {f : α → List β} {b : β}
    (hall : ∀ a ∈ l, (f a).head? = none ∨ (f a).head? = some b) (hone : ∃ a ∈ l, (f a).head? = some b) :
    (l.flatMap f).head? = some b := by
  induction l with
  | nil =>
    obtain ⟨a, ha, -⟩ := hone
    cases ha
  | cons a l ih =>
    rw [List.flatMap_cons, List.head?_append]
    rcases hall a List.mem_cons_self with ha | ha
    · rw [ha, Option.none_or]
      refine ih (fun a' ha' => hall a' (List.mem_cons_of_mem _ ha')) ?_
      obtain ⟨a', ha', hb⟩ := hone
      rcases List.mem_cons.mp ha' with rfl | ha'
      · rw [ha] at hb
        cases hb
      · exact ⟨a', ha', hb⟩
    · rw [ha, Option.some_or]

/-- A greedy run of white space up to the end of a line, one byte of it at a time. -/
theorem find_lineEnd_cons (c : UInt8) (hc : p c = true) :
    find [.many p, .lineEnd] (c :: t) =
      (find [.many p, .lineEnd] t).or (if c = lineBreak then some (c :: t) else none) := by
  rw [find, find, rests, rests, runs, if_pos hc, List.flatMap_append, List.head?_append, List.flatMap_singleton]
  congr 1
  rw [rests, atLineEnd, List.head?_cons, Option.all_some]
  by_cases h : c = lineBreak
  · rw [if_pos h, if_pos (beq_iff_eq.mpr h)]
    rfl
  · rw [if_neg h, if_neg (by rwa [beq_iff_eq])]
    rfl

/-- Where a line ends nothing is left to match. -/
theorem find_lineEnd_isSome (h : atLineEnd t = true) : (find [.many p, .lineEnd] t).isSome := by
  have hmem : t ∈ rests [.many p, .lineEnd] t := by
    rw [rests, List.mem_flatMap]
    refine ⟨t, mem_runs.mpr ⟨[], rfl, fun c hc => absurd hc List.not_mem_nil⟩, ?_⟩
    rw [rests, if_pos h]
    exact List.mem_singleton_self _
  rw [find, Option.isSome_iff_ne_none, Ne, List.head?_eq_none_iff]
  exact List.ne_nil_of_mem hmem

/-- White space before the end of a line does not change where the run ends. -/
theorem find_lineEnd_append {space : Text} (hspace : ∀ c ∈ space, p c) (h : atLineEnd t = true) :
    find [.many p, .lineEnd] (space ++ t) = find [.many p, .lineEnd] t := by
  induction space with
  | nil => rfl
  | cons c space ih =>
    have hrest := ih fun c' hc' => hspace c' (List.mem_cons_of_mem _ hc')
    obtain ⟨rest, hfind⟩ := Option.isSome_iff_exists.mp (find_lineEnd_isSome (p := p) h)
    rw [List.cons_append, find_lineEnd_cons c (hspace c List.mem_cons_self), hrest, hfind, Option.some_or]

/-- In front of a byte that is no white space there is no end of a line. -/
theorem find_lineEnd_none {space : Text} {c : UInt8} (hspace : ∀ b ∈ space, p b ∧ b ≠ lineBreak)
    (hc : p c = false) (hbreak : c ≠ lineBreak) : find [.many p, .lineEnd] (space ++ c :: t) = none := by
  induction space with
  | nil =>
    rw [List.nil_append, find, rests, runs, if_neg (by rw [hc]; exact Bool.false_ne_true),
      List.flatMap_singleton, rests, if_neg]
    · rfl
    · rw [atLineEnd, List.head?_cons, Option.all_some, beq_iff_eq]
      exact hbreak
  | cons b space ih =>
    obtain ⟨hb, hne⟩ := hspace b List.mem_cons_self
    rw [List.cons_append, find_lineEnd_cons b hb, if_neg hne, Option.or_none]
    exact ih fun b' hb' => hspace b' (List.mem_cons_of_mem _ hb')

end Matches

/-! ## Replacing -/

section Replacing

variable {e : List Item} {new x y t rest : Text} {start : Bool}

/-- Whether a line starts behind two texts, -/
theorem startsLine_append (start : Bool) (x y : Text) :
    startsLine start (x ++ y) = startsLine (startsLine start x) y := by
  induction x generalizing start with
  | nil => rfl
  | cons c x ih => exact ih _

/-- and behind a byte. -/
theorem startsLine_concat (start : Bool) (x : Text) (c : UInt8) :
    startsLine start (x ++ [c]) = (c == lineBreak) := startsLine_append start x [c]

/-- No line starts in a line. -/
theorem startsLine_line (hx : lineBreak ∉ x) (hne : x ≠ []) : startsLine start x = false := by
  induction x generalizing start with
  | nil => exact absurd rfl hne
  | cons c x ih =>
    have hc : (c == lineBreak) = false := by
      rw [beq_eq_false_iff_ne]
      exact fun h => hx (h ▸ List.mem_cons_self)
    rw [startsLine, hc]
    cases x with
    | nil => rfl
    | cons b x => exact ih (fun h => hx (List.mem_cons_of_mem _ h)) (List.cons_ne_nil _ _)

/-- The bytes that a match has at least. -/
def minLength : List Item → Nat
  | [] => 0
  | .one _ :: e => minLength e + 1
  | _ :: e => minLength e

/-- One expression behind another. -/
theorem minLength_append (e e' : List Item) : minLength (e ++ e') = minLength e + minLength e' := by
  induction e with
  | nil => exact (Nat.zero_add _).symm
  | cons item e ih =>
    rw [List.cons_append]
    cases item with
    | one p =>
      rw [minLength, minLength, ih]
      omega
    | many p => exact ih
    | lineEnd => exact ih

/-- A match takes at least so much. -/
theorem length_rests (h : rest ∈ rests e t) : rest.length + minLength e ≤ t.length := by
  induction e generalizing t with
  | nil =>
    rw [rests, List.mem_singleton] at h
    exact h ▸ Nat.le_refl _
  | cons item e ih =>
    cases item with
    | one p =>
      cases t with
      | nil => cases h
      | cons c t =>
        rw [rests] at h
        split_ifs at h
        · exact Nat.succ_le_succ (ih h)
        · cases h
    | many p =>
      rw [rests, List.mem_flatMap] at h
      obtain ⟨t', hrun, hrest⟩ := h
      obtain ⟨run, rfl, -⟩ := mem_runs.mp hrun
      have hle := ih hrest
      rw [List.length_append]
      exact Nat.le_trans hle (Nat.le_add_left _ _)
    | lineEnd =>
      rw [rests] at h
      split_ifs at h
      · exact ih h
      · cases h

/-- What is left is an end of the text, -/
theorem rests_suffix (h : rest ∈ rests e t) : rest <:+ t := by
  induction e generalizing t with
  | nil =>
    rw [rests, List.mem_singleton] at h
    exact h ▸ List.suffix_refl t
  | cons item e ih =>
    cases item with
    | one p =>
      cases t with
      | nil => cases h
      | cons c t =>
        rw [rests] at h
        split_ifs at h
        · exact (ih h).trans (List.suffix_cons c t)
        · cases h
    | many p =>
      rw [rests, List.mem_flatMap] at h
      obtain ⟨t', hrun, hrest⟩ := h
      obtain ⟨run, rfl, -⟩ := mem_runs.mp hrun
      exact (ih hrest).trans (List.suffix_append run t')
    | lineEnd =>
      rw [rests] at h
      split_ifs at h
      · exact ih h
      · cases h

/-- for the match that counts, too. -/
theorem find_suffix (h : find e t = some rest) : rest <:+ t := rests_suffix (List.mem_of_head? h)

/-- The bytes of a match are passed over. -/
theorem replaceFrom_skip (x y : Text) (start : Bool) :
    replaceFrom e new x.length start (x ++ y) = replaceFrom e new 0 (startsLine start x) y := by
  induction x generalizing start with
  | nil => rfl
  | cons c x ih => exact ih _

/-- A match is replaced, and what it leaves is gone on with. -/
theorem replaceAll_match (h : find e t = some rest) (he : 0 < minLength e) :
    ∃ start, replaceAll e new t = new ++ replaceFrom e new 0 start rest := by
  have hle : rest.length + minLength e ≤ t.length := length_rests (List.mem_of_head? h)
  obtain ⟨x, rfl⟩ := find_suffix h
  cases x with
  | nil =>
    rw [List.nil_append] at hle
    omega
  | cons c x =>
    refine ⟨startsLine (c == lineBreak) x, ?_⟩
    have hskip : (x ++ rest).length - rest.length = x.length := by
      rw [List.length_append]
      omega
    rw [replaceAll, List.cons_append, replaceFrom, ← List.cons_append, h]
    dsimp only
    rw [hskip, replaceFrom_skip]

/-- A text is kept where no match starts in it. -/
theorem replaceFrom_keep (h : ∀ a b, x = a ++ b → b ≠ [] → startsLine start a = true → find e (b ++ y) = none) :
    replaceFrom e new 0 start (x ++ y) = x ++ replaceFrom e new 0 (startsLine start x) y := by
  induction x generalizing start with
  | nil => rfl
  | cons c x ih =>
    have htail : replaceFrom e new 0 (c == lineBreak) (x ++ y) =
        x ++ replaceFrom e new 0 (startsLine start (c :: x)) y := by
      apply ih
      intro a b hx hb hstart
      exact h (c :: a) b (congrArg (c :: ·) hx) hb hstart
    cases start with
    | false => rw [List.cons_append, replaceFrom, htail, List.cons_append]
    | true =>
      have hnone := h [] (c :: x) rfl (List.cons_ne_nil _ _) rfl
      rw [List.cons_append] at hnone ⊢
      rw [replaceFrom, hnone]
      dsimp only
      rw [htail, List.cons_append]

/-- What is on one line is kept when it does not match at its start. -/
theorem replaceFrom_piece (hx : lineBreak ∉ x) (h : start = true → find e (x ++ y) = none) :
    replaceFrom e new 0 start (x ++ y) = x ++ replaceFrom e new 0 (startsLine start x) y := by
  refine replaceFrom_keep fun a b hab _ hstart => ?_
  cases a with
  | nil =>
    rw [List.nil_append] at hab
    rw [← hab]
    exact h hstart
  | cons c a =>
    have hnot : lineBreak ∉ c :: a := fun hmem => hx (hab ▸ List.mem_append_left _ hmem)
    rw [startsLine_line hnot (List.cons_ne_nil _ _)] at hstart
    cases hstart

/-- A line that does not match is kept, and the next one starts behind it. -/
theorem replaceFrom_line (hx : lineBreak ∉ x) (h : start = true → find e (x ++ lineBreak :: t) = none) :
    replaceFrom e new 0 start (x ++ lineBreak :: t) = x ++ lineBreak :: replaceAll e new t := by
  have hbreak : startsLine start x = true → find e (lineBreak :: t) = none := by
    intro hstart
    cases x with
    | nil => exact h hstart
    | cons c x =>
      rw [startsLine_line hx (List.cons_ne_nil _ _)] at hstart
      cases hstart
  rw [replaceFrom_piece hx h]
  congr 1
  cases hstart : startsLine start x with
  | false => rfl
  | true =>
    rw [replaceFrom, hbreak hstart]
    rfl

end Replacing

end Regexp
