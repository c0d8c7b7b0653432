/-
  Numbers as byte strings, and fixed-width slices.

  1. A wire format built from fixed-width fields needs two facts: writing a number into `n` bytes and reading it
     back reduces it mod `256 ^ n` (`getBE_putBE`), and a slice of a concatenation is the field that was put there
     (`slice_skip`, `slice_here`).
  2. Keys that are compared byte by byte need the other way round: bytes read as a number and written again are
     the same bytes (`putBE_getBE`, `putLE_getLE`).

  Nothing here depends on a particular header.
-/
import Mathlib.Data.Nat.ModEq
import Mathlib.Tactic.Ring

namespace BigEndian

/-- A byte string. -/
abbrev Bytes := List UInt8

/-! ## Numbers as big-endian bytes -/

/-- `putBE n x` = the `n` low-order bytes of `x`, most significant first. -/
def putBE : Nat → Nat → Bytes
  | 0, _ => []
  | n + 1, x => UInt8.ofNat (x / 256 ^ n) :: putBE n x

/-- `getBE bs` = the number whose big-endian bytes are `bs`. -/
def getBE : Bytes → Nat
  | [] => 0
  | b :: bs => b.toNat * 256 ^ bs.length + getBE bs

@[simp] theorem length_putBE (n x : Nat) : (putBE n x).length = n := by
  induction n with
  | zero => rfl
  | succ n ih => rw [putBE, List.length_cons, ih]

/-- So many bytes hold no larger number. -/
theorem getBE_lt (bs : Bytes) : getBE bs < 256 ^ bs.length := by
  induction bs with
  | nil => exact Nat.one_pos
  | cons b bs ih =>
    have hb : b.toNat < 256 := b.toNat_lt
    have hmul : b.toNat * 256 ^ bs.length ≤ 255 * 256 ^ bs.length :=
      Nat.mul_le_mul_right _ (by omega)
    rw [getBE, List.length_cons, Nat.pow_succ]
    omega

/-- Writing into `n` bytes and reading back keeps the number mod `256 ^ n`. -/
theorem getBE_putBE (n x : Nat) : getBE (putBE n x) = x % 256 ^ n := by
  induction n with
  | zero => simp [putBE, getBE, Nat.mod_one]
  | succ n ih =>
    have hdiv : x % 256 ^ (n + 1) = x / 256 ^ n % 256 * 256 ^ n + x % 256 ^ n := by
      rw [Nat.pow_succ, Nat.mod_mul]
      ring
    rw [putBE, getBE, ih, length_putBE, hdiv]
    rfl

/-- A number that fits is read back. -/
theorem getBE_putBE_of_lt {n x : Nat} (h : x < 256 ^ n) : getBE (putBE n x) = x := by
  rw [getBE_putBE, Nat.mod_eq_of_lt h]

/-- Bytes above the first `n` are not written. -/
theorem putBE_add_mul (n k x : Nat) : putBE n (k * 256 ^ n + x) = putBE n x := by
  induction n generalizing k with
  | zero => rfl
  | succ n ih =>
    have hsplit : k * 256 ^ (n + 1) + x = k * 256 * 256 ^ n + x := by
      rw [Nat.pow_succ]
      ring
    have hhead : UInt8.ofNat ((k * 256 * 256 ^ n + x) / 256 ^ n) = UInt8.ofNat (x / 256 ^ n) := by
      rw [Nat.mul_comm (k * 256), Nat.mul_add_div (Nat.pow_pos (by omega))]
      apply UInt8.toNat_inj.mp
      simp only [UInt8.toNat_ofNat']
      omega
    rw [hsplit, putBE, putBE, ih, hhead]

/-- Reading bytes and writing the number back. -/
theorem putBE_getBE (bs : Bytes) : putBE bs.length (getBE bs) = bs := by
  induction bs with
  | nil => rfl
  | cons b bs ih =>
    have hhead : (b.toNat * 256 ^ bs.length + getBE bs) / 256 ^ bs.length = b.toNat := by
      rw [Nat.mul_comm, Nat.mul_add_div (Nat.pow_pos (by omega)),
        Nat.div_eq_of_lt (getBE_lt bs), Nat.add_zero]
    rw [List.length_cons, getBE, putBE, putBE_add_mul, ih, hhead, UInt8.ofNat_toNat]

/-! ## Little-endian -/

/-- `putLE n x` = the `n` low-order bytes of `x`, least significant first. -/
def putLE (n x : Nat) : Bytes := (putBE n x).reverse

/-- `getLE bs` = the number whose little-endian bytes are `bs`. -/
def getLE (bs : Bytes) : Nat := getBE bs.reverse

/-- The same with the low byte first. -/
theorem getLE_lt (bs : Bytes) : getLE bs < 256 ^ bs.length := by
  have h := getBE_lt bs.reverse
  rwa [List.length_reverse] at h

/-- And the bytes are written again. -/
theorem putLE_getLE (bs : Bytes) : putLE bs.length (getLE bs) = bs := by
  have h := putBE_getBE bs.reverse
  rw [List.length_reverse] at h
  rw [putLE, getLE, h, List.reverse_reverse]

@[simp] theorem length_putLE (n x : Nat) : (putLE n x).length = n := by
  rw [putLE, List.length_reverse, length_putBE]

/-- A number that fits is read back from them. -/
theorem getLE_putLE_of_lt {n x : Nat} (h : x < 256 ^ n) : getLE (putLE n x) = x := by
  rw [getLE, putLE, List.reverse_reverse, getBE_putBE_of_lt h]

/-! ## Slices -/

/-- `slice off len bs` = `bs[off : off+len]`, cut short at the end of `bs`. -/
def slice (off len : Nat) (bs : Bytes) : Bytes := (bs.drop off).take len

/-- A slice within the bytes has its length. -/
theorem length_slice {off len : Nat} {bs : Bytes} (h : off + len ≤ bs.length) :
    (slice off len bs).length = len := by
  rw [slice, List.length_take, List.length_drop]
  omega

/-- A slice that starts behind the first part does not see it. -/
theorem slice_skip {pre post : Bytes} {off len : Nat} (h : pre.length ≤ off) :
    slice off len (pre ++ post) = slice (off - pre.length) len post := by
  rw [slice, slice, List.drop_append, List.drop_eq_nil_of_le h, List.nil_append]

/-- A slice that ends within the first part does not see the second. -/
theorem slice_within {pre post : Bytes} {off len : Nat} (h : off + len ≤ pre.length) :
    slice off len (pre ++ post) = slice off len pre := by
  rw [slice, slice, List.drop_append_of_le_length (by omega), List.take_append_of_le_length]
  rw [List.length_drop]
  omega

/-- A slice that is exactly the first part. -/
theorem slice_here {pre post : Bytes} {len : Nat} (h : pre.length = len) :
    slice 0 len (pre ++ post) = pre := by
  subst h
  rw [slice, List.drop_zero, List.take_left]

/-- A slice of equal bytes. -/
theorem slice_replicate {off len n : Nat} {b : UInt8} (h : off + len ≤ n) :
    slice off len (List.replicate n b) = List.replicate len b := by
  rw [slice, List.drop_replicate, List.take_replicate, Nat.min_eq_left (by omega)]

end BigEndian
