/-
  A file under a name, that is opened, removed and made again.

  1. What is open is an inode, which stays what it is when the name is removed or given to another; so a reader is
     disturbed only by what happens to the inode it has opened.
  2. Each open file writes at an offset of its own (`writeAt`), so two writers of one inode write over one another.
  3. The name leads to an inode there is, which the structure carries (`named`).
-/
import OpenNHP.Lib.Tables

/-- A name, and the inodes it has had. -/
structure NamedFile where
  inodes : List (List UInt8)
  entry : Option Nat
  named : ∀ i ∈ entry, i < inodes.length

namespace NamedFile

variable (f : NamedFile)

/-- What a file has behind a write at an offset; a gap is filled with zeros. -/
def writeAt (off : Nat) (chunk content : List UInt8) : List UInt8 :=
  (content.take off ++ List.replicate (off - content.length) 0) ++ chunk ++ content.drop (off + chunk.length)

/-- A write at the end is an append. -/
theorem writeAt_length (chunk content : List UInt8) : writeAt content.length chunk content = content ++ chunk := by
  rw [writeAt, List.take_length, Nat.sub_self, List.replicate_zero, List.append_nil,
    List.drop_of_length_le (Nat.le_add_right _ _), List.append_nil]

/-! ## Operations -/

/-- The name leads to an inode still, if one is changed, -/
theorem named_set {inodes : List (List UInt8)} {i : Nat} (h : ∀ j ∈ some i, j < inodes.length)
    (content : List UInt8) : ∀ j ∈ some i, j < (inodes.set i content).length := by
  rw [List.length_set]
  exact h

/-- if one is added and named, -/
theorem named_append (inodes : List (List UInt8)) (content : List UInt8) :
    ∀ j ∈ some inodes.length, j < (inodes ++ [content]).length := by
  rintro j ⟨⟩
  rw [List.length_append]
  exact Nat.lt_succ_self _

/-- if one is written to, -/
theorem named_modify {inodes : List (List UInt8)} {entry : Option Nat} (h : ∀ j ∈ entry, j < inodes.length)
    (i : Nat) (g : List UInt8 → List UInt8) : ∀ j ∈ entry, j < (inodes.modify i g).length := by
  rw [List.length_modify]
  exact h

/-- and if nothing is named. -/
theorem named_none (inodes : List (List UInt8)) : ∀ j ∈ (none : Option Nat), j < inodes.length := by
  rintro j ⟨⟩

/-- The content under the name. -/
def content : Option (List UInt8) := f.entry.bind (f.inodes[·]?)

/-- The name is removed; who has the file open keeps it. -/
def remove : NamedFile := ⟨f.inodes, none, named_none f.inodes⟩

/-- The file is made for writing: an empty inode if there is none, and else what is there is cut off. -/
def create : NamedFile → NamedFile
  | ⟨inodes, some i, named⟩ => ⟨inodes.set i [], some i, named_set named []⟩
  | ⟨inodes, none, _⟩ => ⟨inodes ++ [[]], some inodes.length, named_append inodes []⟩

/-- A write to an open file, whether the name leads there or not. -/
def write (i off : Nat) (chunk : List UInt8) : NamedFile :=
  ⟨f.inodes.modify i (writeAt off chunk), f.entry, named_modify f.named i (writeAt off chunk)⟩

/-! ## What is left as it was -/

variable {f} {i j off : Nat} {chunk content : List UInt8}

/-- Without a name there is nothing to read. -/
theorem content_eq_none_iff : f.content = none ↔ f.entry = none := by
  constructor
  · intro h
    cases hentry : f.entry with
    | none => rfl
    | some i =>
      rw [NamedFile.content, hentry, Option.bind_some, List.getElem?_eq_none_iff] at h
      exact absurd (f.named i hentry) (Nat.not_lt.mpr h)
  · intro h
    rw [NamedFile.content, h, Option.bind_none]

/-- What is read by the name is its inode. -/
theorem content_of_entry (h : f.entry = some i) : f.content = f.inodes[i]? := by
  rw [NamedFile.content, h, Option.bind_some]

/-- A file that is made anew is empty. -/
theorem create_of_none (h : f.entry = none) :
    f.create.entry = some f.inodes.length ∧ f.create.inodes = f.inodes ++ [[]] := by
  obtain ⟨inodes, entry, named⟩ := f
  subst h
  exact ⟨rfl, rfl⟩

/-- Behind a creation where there was no file, the inodes there were are as before. -/
theorem getElem?_create (h : f.entry = none) (hi : f.inodes[i]? = some content) :
    f.create.inodes[i]? = some content := by
  rw [(create_of_none h).2, List.getElem?_append_left (List.getElem?_eq_some_iff.mp hi).1, hi]

/-- A write touches its own inode. -/
theorem getElem?_write_ne (hne : j ≠ i) : (f.write i off chunk).inodes[j]? = f.inodes[j]? :=
  List.getElem?_modify_ne _ _ hne.symm

/-- At the end it appends. -/
theorem getElem?_write_end (hi : f.inodes[i]? = some content) :
    (f.write i content.length chunk).inodes[i]? = some (content ++ chunk) := by
  show (f.inodes.modify i _)[i]? = _
  rw [List.getElem?_modify_eq, hi]
  exact congrArg some (writeAt_length chunk content)

end NamedFile
