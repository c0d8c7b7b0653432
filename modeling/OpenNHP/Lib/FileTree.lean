/-
  A tree of directories and files.

  1. A place in the tree is the list of the names on the way to it from the root, which is a directory.
  2. What is done to the tree is told place by place: what is there behind each operation, in terms of what was
     there before (`node_mkdirAll`, `node_create`, `node_write_of_file`, `node_removeAll_of_outside`).
  3. An operation that fails is none; one that is cut short may leave a part, which `removeAll` has as an argument.
-/
import Mathlib.Data.List.Infix
import Mathlib.Data.List.Sort
import OpenNHP.Lib.Paths
import OpenNHP.Lib.Tables

namespace FileTree

open Paths

variable {C : Type}

/-- What may be at a place. -/
inductive Node (C : Type)
  | dir
  | file (content : C)
  deriving DecidableEq

/-- What is at each place, but for the root. -/
abbrev Files (C : Type) : Type := AList fun _ : List Bytes => Node C

/-- Where an absolute path leads. -/
def resolve (path : Bytes) : List Bytes := walk [] path

/-- The path of a directory leads to it. -/
theorem resolve_path (d : Dir) : resolve d.path = d.names := by
  have hroot : resolve d.path = walk (walk [] []) (text d.names) := walk_append [] [] (text d.names)
  rw [hroot]
  exact walk_text d

namespace Files

variable (t : Files C)

/-- What is at a place. -/
def node (p : List Bytes) : Option (Node C) := if p = [] then some .dir else t.lookup p

/-- A directory is there. -/
def isDir (p : List Bytes) : Bool :=
  match t.node p with
  | some .dir => true
  | _ => false

/-- A file is there. -/
def isFile (p : List Bytes) : Bool :=
  match t.node p with
  | some (.file _) => true
  | _ => false

/-- The directory and those on the way to it are made, unless there is a file on the way. -/
def mkdirAll (p : List Bytes) : Option (Files C) :=
  if p.inits.any t.isFile then none
  else some (p.inits.foldl (fun t q => t.insert q .dir) t)

/-- A file is made, or opened and replaced; its directory has to be there. -/
def create (p : List Bytes) (content : C) : Option (Files C) :=
  if !t.isDir p && t.isDir p.dropLast then some (t.insert p (.file content)) else none

/-- The content of an open file is replaced; once it has been removed, nothing shows of this. -/
def write (p : List Bytes) (content : C) : Files C :=
  if t.isFile p then t.insert p (.file content) else t

/-- What is at a place and below it goes, but for what could not be removed. -/
def removeAll (p : List Bytes) (left : List (List Bytes)) : Files C :=
  t.filterKeys fun q => !p.isPrefixOf q || left.contains q

/-- The names in a directory, in their order. -/
def readDir (p : List Bytes) : Option (List Bytes) :=
  if t.isDir p then
    some ((t.keys.filterMap fun q => if q.dropLast = p then q.getLast? else none).insertionSort (· ≤ ·))
  else none

/-! ## What is there afterwards -/

variable {t} {t' : Files C}

/-- As it is said of the tree, -/
theorem isDir_iff {p : List Bytes} : t.isDir p = true ↔ t.node p = some .dir := by
  unfold isDir
  split <;> simp_all

/-- and for files. -/
theorem isFile_iff {p : List Bytes} : t.isFile p = true ↔ ∃ content, t.node p = some (.file content) := by
  unfold isFile
  split <;> simp_all

/-- Below the root it is what the table has. -/
theorem node_ne_nil {p : List Bytes} (hp : p ≠ []) : t.node p = t.lookup p := if_neg hp

/-- Something is put at one place. -/
theorem node_insert {p q : List Bytes} {n : Node C} (hp : p ≠ []) :
    node (t.insert p n) q = if q = p then some n else t.node q := by
  by_cases hq : q = []
  · rw [node, if_pos hq, if_neg (by rintro rfl; exact hp hq), node, if_pos hq]
  · rw [node_ne_nil hq, AList.lookup_insert_eq_ite, node_ne_nil hq]

/-- Directories are put at several. -/
theorem lookup_foldl_insert {ps : List (List Bytes)} {q : List Bytes} :
    (ps.foldl (fun t p => t.insert p .dir) t).lookup q = if q ∈ ps then some .dir else t.lookup q := by
  induction ps generalizing t with
  | nil => rw [List.foldl_nil, if_neg List.not_mem_nil]
  | cons p ps ih =>
    rw [List.foldl_cons, ih, AList.lookup_insert_eq_ite]
    by_cases hq : q ∈ ps
    · rw [if_pos hq, if_pos (List.mem_cons_of_mem p hq)]
    · rw [if_neg hq]
      by_cases hp : q = p
      · rw [if_pos hp, if_pos (hp ▸ List.mem_cons_self)]
      · rw [if_neg hp, if_neg (by rw [List.mem_cons, not_or]; exact ⟨hp, hq⟩)]

/-- Behind `mkdirAll` all on the way are directories, and the rest is as it was. -/
theorem node_mkdirAll {p q : List Bytes} (h : t.mkdirAll p = some t') :
    t'.node q = if q <+: p then some .dir else t.node q := by
  rw [mkdirAll] at h
  split_ifs at h with hany
  obtain rfl := Option.some.inj h
  by_cases hq : q = []
  · rw [node, if_pos hq, if_pos (hq ▸ List.nil_prefix)]
  · rw [node_ne_nil hq, lookup_foldl_insert, node_ne_nil hq]
    simp only [List.mem_inits]

/-- No file is lost: a directory is not made in its place. -/
theorem node_mkdirAll_file {p q : List Bytes} {content : C} (h : t.mkdirAll p = some t') :
    t'.node q = some (.file content) ↔ t.node q = some (.file content) := by
  rw [node_mkdirAll h]
  split_ifs with hq
  · rw [mkdirAll] at h
    split_ifs at h with hany
    refine ⟨fun hd => (by cases hd), fun hf => absurd (List.any_eq_true.mpr ?_) hany⟩
    exact ⟨q, (List.mem_inits q p).mpr hq, isFile_iff.mpr ⟨content, hf⟩⟩
  · exact Iff.rfl

/-- A file is created in a directory, and not in the place of one. -/
theorem create_eq_some {p : List Bytes} {content : C} (h : t.create p content = some t') :
    p ≠ [] ∧ t.node p ≠ some .dir ∧ t.node p.dropLast = some .dir := by
  rw [create] at h
  split_ifs at h with hp
  rw [Bool.and_eq_true, Bool.not_eq_true', ← Bool.not_eq_true, isDir_iff, isDir_iff] at hp
  refine ⟨?_, hp⟩
  rintro rfl
  exact hp.1 (if_pos rfl)

/-- Then it is there, and the rest is as it was. -/
theorem node_create {p q : List Bytes} {content : C} (h : t.create p content = some t') :
    t'.node q = if q = p then some (.file content) else t.node q := by
  have hp := (create_eq_some h).1
  rw [create] at h
  split_ifs at h
  obtain rfl := Option.some.inj h
  exact node_insert hp

/-- A write changes one file. -/
theorem node_write_of_file {p q : List Bytes} {content content' : C} (h : t.node p = some (.file content)) :
    (t.write p content').node q = if q = p then some (.file content') else t.node q := by
  have hp : p ≠ [] := by
    rintro rfl
    rw [node, if_pos rfl] at h
    cases h
  rw [write, if_pos (isFile_iff.mpr ⟨content, h⟩), node_insert hp]

/-- What is there behind a write was there, or is what was written. -/
theorem node_of_write {p q : List Bytes} {c : C} {n : Node C} (h : (t.write p c).node q = some n) :
    t.node q = some n ∨ n = .file c := by
  by_cases hp : t.isFile p
  · obtain ⟨c', hc'⟩ := isFile_iff.mp hp
    rw [node_write_of_file hc'] at h
    split_ifs at h
    · exact .inr (Option.some.inj h).symm
    · exact .inl h
  · rw [write, if_neg hp] at h
    exact .inl h

/-- A removal touches nothing outside. -/
theorem node_removeAll_of_outside {p q : List Bytes} {left : List (List Bytes)} (h : ¬p <+: q) :
    (t.removeAll p left).node q = t.node q := by
  by_cases hq : q = []
  · rw [node, if_pos hq, node, if_pos hq]
  · rw [node_ne_nil hq, node_ne_nil hq, removeAll, AList.lookup_filterKeys, if_pos]
    rw [Bool.or_eq_true, Bool.not_eq_true', ← Bool.not_eq_true, List.isPrefixOf_iff_prefix]
    exact .inl h

/-- Nothing comes with a removal. -/
theorem node_of_removeAll {p q : List Bytes} {left : List (List Bytes)} {n : Node C}
    (h : (t.removeAll p left).node q = some n) : t.node q = some n := by
  by_cases hq : q = []
  · rwa [node, if_pos hq] at h ⊢
  · rw [node_ne_nil hq] at h ⊢
    rw [removeAll, AList.lookup_filterKeys] at h
    split_ifs at h
    exact h

/-- The names in a directory are those of what is there. -/
theorem mem_readDir {p names : List Bytes} {n : Bytes} (h : t.readDir p = some names) :
    n ∈ names ↔ (t.node (p ++ [n])).isSome := by
  rw [readDir] at h
  split_ifs at h
  obtain rfl := Option.some.inj h
  have hne : p ++ [n] ≠ [] := List.append_ne_nil_of_right_ne_nil _ (List.cons_ne_nil _ _)
  rw [List.mem_insertionSort, List.mem_filterMap, node_ne_nil hne, AList.lookup_isSome, AList.mem_keys]
  constructor
  · rintro ⟨q, hq, hn⟩
    split_ifs at hn with hp
    obtain ⟨q', rfl⟩ := List.getLast?_eq_some_iff.mp hn
    rw [List.dropLast_concat] at hp
    rwa [← hp]
  · intro hmem
    refine ⟨p ++ [n], hmem, ?_⟩
    rw [if_pos (List.dropLast_concat), List.getLast?_concat]

end Files

end FileTree
