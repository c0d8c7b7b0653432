/-
  Base64 with padding (the standard alphabet).

  1. Texts are lists of ASCII bytes.  The encoder takes three bytes at a time and writes four letters; one or two
     bytes at the end are filled up with padding.
  2. The decoder skips line breaks, ignores the unused bits before a padding, and stops at the first quantum that
     is not one: it returns what it has by then, and whether that is all.  So a text may decode to some bytes and
     be wrong.
  3. What the encoder wrote is decoded to the same bytes (`decodeString_encodeToString`), and holds no letter but
     those of the alphabet and the padding (`mem_encodeToString`).
-/
import Mathlib.Data.List.Basic

namespace Base64

/-- The letters of the digits 0 to 63. -/
def alphabet : List UInt8 :=
  ((List.range 26).map (65 + ·) ++ (List.range 26).map (97 + ·) ++ (List.range 10).map (48 + ·) ++
    [43, 47]).map UInt8.ofNat

/-- `=` -/
def padChar : UInt8 := 61

/-- The letter of six bits. -/
def digit (n : Nat) : UInt8 := alphabet.getD n padChar

/-- The six bits of a letter. -/
def sextet (c : UInt8) : Option Nat := alphabet.idxOf? c

/-- Three bytes at a time, with padding in the last quantum. -/
def encodeToString : List UInt8 → List UInt8
  | [] => []
  | [a] => [digit (a.toNat / 4), digit (a.toNat % 4 * 16), padChar, padChar]
  | [a, b] =>
    [digit (a.toNat / 4), digit (a.toNat % 4 * 16 + b.toNat / 16), digit (b.toNat % 16 * 4), padChar]
  | a :: b :: c :: rest =>
    digit (a.toNat / 4) :: digit (a.toNat % 4 * 16 + b.toNat / 16) ::
      digit (b.toNat % 16 * 4 + c.toNat / 64) :: digit (c.toNat % 64) :: encodeToString rest

/-- The bytes of a quantum with two, three and four digits. -/
def byte₁ (x y : Nat) : UInt8 := UInt8.ofNat (x * 4 + y / 16)
/-- The second byte of a quantum, from two letters, -/
def byte₂ (y z : Nat) : UInt8 := UInt8.ofNat (y % 16 * 16 + z / 4)
/-- and the third. -/
def byte₃ (z w : Nat) : UInt8 := UInt8.ofNat (z % 4 * 64 + w)

/-- The bytes decoded, and whether the text was decoded to its end. -/
def decodeQuanta : List UInt8 → List UInt8 × Bool
  | [] => ([], true)
  | a :: b :: c :: d :: rest =>
    match sextet a, sextet b, sextet c, sextet d with
    | some x, some y, some z, some w =>
      let tail := decodeQuanta rest
      (byte₁ x y :: byte₂ y z :: byte₃ z w :: tail.1, tail.2)
    | some x, some y, some z, none =>
      if d = padChar then ([byte₁ x y, byte₂ y z], rest.isEmpty) else ([], false)
    | some x, some y, none, _ =>
      if c = padChar ∧ d = padChar then ([byte₁ x y], rest.isEmpty) else ([], false)
    | _, _, _, _ => ([], false)
  | _ => ([], false)

/-- What the decoder skips. -/
def isLineBreak (c : UInt8) : Bool := c == 10 || c == 13

/-- The bytes of a text, and whether it is one. -/
def decodeString (text : List UInt8) : List UInt8 × Bool :=
  decodeQuanta (text.filter fun c => !isLineBreak c)

/-! ## The round trip -/

/-- A letter gives its bits back. -/
theorem sextet_digit {n : Nat} (h : n < 64) : sextet (digit n) = some n := by
  have hall : ∀ n < 64, sextet (digit n) = some n := by decide
  exact hall n h

/-- The padding is no letter. -/
theorem sextet_padChar : sextet padChar = none := by decide

/-- Every letter that is written is one of these. -/
theorem digit_mem (n : Nat) : digit n ∈ padChar :: alphabet := by
  rw [digit, List.getD_eq_getElem?_getD]
  cases h : alphabet[n]? with
  | none => exact List.mem_cons_self
  | some c => exact List.mem_cons_of_mem _ (List.mem_of_getElem? h)

/-- The encoder writes letters and padding only. -/
theorem mem_encodeToString {bs : List UInt8} {c : UInt8} (h : c ∈ encodeToString bs) :
    c ∈ padChar :: alphabet := by
  fun_induction encodeToString bs with
  | case1 => exact absurd h List.not_mem_nil
  | case2 a =>
    simp only [List.mem_cons, List.not_mem_nil, or_false] at h
    rcases h with rfl | rfl | rfl | rfl
    · exact digit_mem _
    · exact digit_mem _
    · exact List.mem_cons_self
    · exact List.mem_cons_self
  | case3 a b =>
    simp only [List.mem_cons, List.not_mem_nil, or_false] at h
    rcases h with rfl | rfl | rfl | rfl
    · exact digit_mem _
    · exact digit_mem _
    · exact digit_mem _
    · exact List.mem_cons_self
  | case4 a b c rest ih =>
    simp only [List.mem_cons] at h
    rcases h with rfl | rfl | rfl | rfl | h
    · exact digit_mem _
    · exact digit_mem _
    · exact digit_mem _
    · exact digit_mem _
    · exact ih h

/-- Some bytes, some letters. -/
theorem encodeToString_ne_nil {bs : List UInt8} (h : bs ≠ []) : encodeToString bs ≠ [] := by
  fun_cases encodeToString bs with
  | case1 => exact absurd rfl h
  | case2 a => exact List.cons_ne_nil _ _
  | case3 a b => exact List.cons_ne_nil _ _
  | case4 a b c rest => exact List.cons_ne_nil _ _

/-- The encoder breaks no lines. -/
theorem encodeToString_lineBreaks (bs : List UInt8) :
    ∀ c ∈ encodeToString bs, isLineBreak c = false := by
  have hall : ∀ c ∈ padChar :: alphabet, isLineBreak c = false := by decide +kernel
  exact fun c hc => hall c (mem_encodeToString hc)

/-- A byte is its number. -/
theorem ofNat_eq {n : Nat} {a : UInt8} (h : n = a.toNat) : UInt8.ofNat n = a := by
  rw [h, UInt8.ofNat_toNat]

/-- Quantum by quantum the bytes come back. -/
theorem decodeQuanta_encodeToString (bs : List UInt8) : decodeQuanta (encodeToString bs) = (bs, true) := by
  fun_induction encodeToString bs with
  | case1 => rfl
  | case2 a =>
    have ha := a.toNat_lt
    rw [decodeQuanta, sextet_digit (by omega), sextet_digit (by omega), sextet_padChar]
    have h₁ : byte₁ (a.toNat / 4) (a.toNat % 4 * 16) = a := ofNat_eq (by omega)
    simp [h₁]
  | case3 a b =>
    have ha := a.toNat_lt
    have hb := b.toNat_lt
    rw [decodeQuanta, sextet_digit (by omega), sextet_digit (by omega), sextet_digit (by omega),
      sextet_padChar]
    have h₁ : byte₁ (a.toNat / 4) (a.toNat % 4 * 16 + b.toNat / 16) = a := ofNat_eq (by omega)
    have h₂ : byte₂ (a.toNat % 4 * 16 + b.toNat / 16) (b.toNat % 16 * 4) = b := ofNat_eq (by omega)
    simp [h₁, h₂]
  | case4 a b c rest ih =>
    have ha := a.toNat_lt
    have hb := b.toNat_lt
    have hc := c.toNat_lt
    rw [decodeQuanta, sextet_digit (by omega), sextet_digit (by omega), sextet_digit (by omega),
      sextet_digit (by omega)]
    have h₁ : byte₁ (a.toNat / 4) (a.toNat % 4 * 16 + b.toNat / 16) = a := ofNat_eq (by omega)
    have h₂ : byte₂ (a.toNat % 4 * 16 + b.toNat / 16) (b.toNat % 16 * 4 + c.toNat / 64) = b :=
      ofNat_eq (by omega)
    have h₃ : byte₃ (b.toNat % 16 * 4 + c.toNat / 64) (c.toNat % 64) = c := ofNat_eq (by omega)
    simp [h₁, h₂, h₃, ih]

/-- What was encoded is decoded, to its end. -/
theorem decodeString_encodeToString (bs : List UInt8) : decodeString (encodeToString bs) = (bs, true) := by
  have hkeep : (encodeToString bs).filter (fun c => !isLineBreak c) = encodeToString bs := by
    rw [List.filter_eq_self]
    intro c hc
    rw [encodeToString_lineBreaks bs c hc]
    rfl
  rw [decodeString, hkeep, decodeQuanta_encodeToString]

example : encodeToString [77, 97, 110, 77] = [84, 87, 70, 117, 84, 81, 61, 61] := by decide

end Base64
