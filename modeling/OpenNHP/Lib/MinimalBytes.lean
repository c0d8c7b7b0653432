/-
  Numbers as their shortest big-endian byte strings, as arbitrary-precision libraries write them.

  1. Zero is the empty string and no other string starts with a zero byte, so the number of bytes depends on the
     number (`byteLength_le_iff`).
  2. Two such strings written one after the other can be told apart only by a length that is known: cutting at `n`
     gives the two numbers back exactly when the first one has `n` bytes (`split_iff`).
  3. Cutting in the middle does where their lengths are equal or the second has one byte more (`split_middle_iff`).
-/
import OpenNHP.Lib.BigEndian

namespace BigEndian

/-! ## Writing and reading -/

/-- The number of bytes of a number. -/
def byteLength (x : Nat) : Nat := if x = 0 then 0 else Nat.log2 x / 8 + 1

/-- The shortest bytes of a number. -/
def bytes (x : Nat) : Bytes := putBE (byteLength x) x

@[simp] theorem length_bytes (x : Nat) : (bytes x).length = byteLength x := length_putBE _ _

/-- So many bytes are enough, -/
theorem lt_of_byteLength (x : Nat) : x < 256 ^ byteLength x := by
  rw [byteLength]
  split_ifs with hx
  · omega
  · have hlog : x < 2 ^ (Nat.log2 x + 1) := Nat.lt_log2_self
    refine lt_of_lt_of_le hlog ?_
    rw [show (256 : Nat) = 2 ^ 8 from rfl, ← Nat.pow_mul]
    exact Nat.pow_le_pow_right (by decide) (by omega)

/-- and no fewer are. -/
theorem le_of_byteLength {x : Nat} (hx : x ≠ 0) : 256 ^ (byteLength x - 1) ≤ x := by
  have hlog : 2 ^ Nat.log2 x ≤ x := Nat.log2_self_le hx
  rw [byteLength, if_neg hx]
  refine le_trans ?_ hlog
  rw [show (256 : Nat) = 2 ^ 8 from rfl, ← Nat.pow_mul]
  exact Nat.pow_le_pow_right (by decide) (by omega)

/-- Reading the bytes of a number. -/
@[simp] theorem getBE_bytes (x : Nat) : getBE (bytes x) = x := getBE_putBE_of_lt (lt_of_byteLength x)

/-- Zero has no bytes. -/
theorem byteLength_eq_zero {x : Nat} : byteLength x = 0 ↔ x = 0 := by
  by_cases hx : x = 0
  · simp [byteLength, hx]
  · simp [byteLength, hx]

/-- A number fits into `n` bytes when it is small enough. -/
theorem byteLength_le_iff {x n : Nat} : byteLength x ≤ n ↔ x < 256 ^ n := by
  constructor
  · intro h
    exact lt_of_lt_of_le (lt_of_byteLength x) (Nat.pow_le_pow_right (by decide) h)
  · intro h
    by_contra hlong
    by_cases hx : x = 0
    · rw [byteLength_eq_zero.mpr hx] at hlong
      omega
    · have hle := le_of_byteLength hx
      have hpow : 256 ^ n ≤ 256 ^ (byteLength x - 1) := Nat.pow_le_pow_right (by decide) (by omega)
      omega

/-! ## One after the other -/

/-- The number of two strings together. -/
theorem getBE_append (bs cs : Bytes) : getBE (bs ++ cs) = getBE bs * 256 ^ cs.length + getBE cs := by
  induction bs with
  | nil =>
    show getBE cs = 0 * 256 ^ cs.length + getBE cs
    omega
  | cons b bs ih =>
    rw [List.cons_append, getBE, getBE, ih, List.length_append, Nat.pow_add]
    ring

/-- Cut at the length of the first number. -/
theorem take_bytes_append (x y : Nat) : (bytes x ++ bytes y).take (byteLength x) = bytes x :=
  List.take_left' (length_bytes x)

/-- Cut at its length the second is left. -/
theorem drop_bytes_append (x y : Nat) : (bytes x ++ bytes y).drop (byteLength x) = bytes y :=
  List.drop_left' (length_bytes x)

/-- The bytes before a cut, as a number, are the first number only at its own length. -/
theorem getBE_take_iff {x y n : Nat} (hlong : n ≤ (bytes x ++ bytes y).length) :
    getBE ((bytes x ++ bytes y).take n) = x ↔ byteLength x = n := by
  constructor
  · intro h
    have hle : byteLength x ≤ n := by
      have hlt := getBE_lt ((bytes x ++ bytes y).take n)
      rw [h, List.length_take, min_eq_left hlong] at hlt
      exact byteLength_le_iff.mpr hlt
    by_contra hne
    obtain ⟨k, hk⟩ : ∃ k, n = byteLength x + (k + 1) := ⟨n - byteLength x - 1, by omega⟩
    have hk' : k + 1 ≤ byteLength y := by
      rw [List.length_append, length_bytes, length_bytes] at hlong
      omega
    have hlen : ((bytes y).take (k + 1)).length = k + 1 := by
      rw [List.length_take, length_bytes]
      omega
    rw [hk, ← length_bytes x, List.take_length_add_append, getBE_append, getBE_bytes, hlen] at h
    have hpow : 256 ≤ 256 ^ (k + 1) := Nat.le_self_pow (by omega) 256
    have hx0 : x = 0 := by
      by_contra hx0
      have hmul : x * 256 ≤ x * 256 ^ (k + 1) := Nat.mul_le_mul_left x hpow
      omega
    -- the first byte of `y` is not zero
    have hy0 : y ≠ 0 := fun hy => by
      rw [byteLength_eq_zero.mpr hy] at hk'
      omega
    have hsplit : y = getBE ((bytes y).take (k + 1)) * 256 ^ ((bytes y).drop (k + 1)).length
        + getBE ((bytes y).drop (k + 1)) := by
      rw [← getBE_append, List.take_append_drop, getBE_bytes]
    have hrest := getBE_lt ((bytes y).drop (k + 1))
    have hy := le_of_byteLength hy0
    have hpow' : 256 ^ ((bytes y).drop (k + 1)).length ≤ 256 ^ (byteLength y - 1) := by
      refine Nat.pow_le_pow_right (by decide) ?_
      rw [List.length_drop, length_bytes]
      omega
    have hzero : getBE ((bytes y).take (k + 1)) = 0 := by omega
    rw [hzero, Nat.zero_mul, Nat.zero_add] at hsplit
    omega
  · intro h
    rw [← h, take_bytes_append, getBE_bytes]

/-- Cutting two numbers' bytes at `n` gives both back exactly when the first has `n` bytes. -/
theorem split_iff {x y n : Nat} (hlong : n ≤ (bytes x ++ bytes y).length) :
    getBE ((bytes x ++ bytes y).take n) = x ∧ getBE ((bytes x ++ bytes y).drop n) = y ↔
      byteLength x = n := by
  rw [getBE_take_iff hlong]
  constructor
  · intro h
    exact h.1
  · intro h
    exact ⟨h, by rw [← h, drop_bytes_append, getBE_bytes]⟩

/-- Cutting them in the middle gives both back when the second has as many bytes as the first, or one more. -/
theorem split_middle_iff {x y : Nat} :
    (getBE ((bytes x ++ bytes y).take ((bytes x ++ bytes y).length / 2)) = x ∧
      getBE ((bytes x ++ bytes y).drop ((bytes x ++ bytes y).length / 2)) = y) ↔
    byteLength y = byteLength x ∨ byteLength y = byteLength x + 1 := by
  rw [split_iff (Nat.div_le_self _ 2), List.length_append, length_bytes, length_bytes]
  omega

end BigEndian
