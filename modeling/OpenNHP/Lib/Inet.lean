/-
  IPv4 addresses: dotted decimal text, networks, and the walk over a network.

  1. The text of an address is read by a machine over its characters (`Scan`), so that reading the text back is
     one lemma a number (`Scan.run_octet`), and a text with another character is none (`Scan.run_some`).
  2. A network is an address and a mask, both as bytes; it contains what agrees with it under the mask.
  3. `walk` is the loop that starts at the network's number and increments while the network contains the address,
     and `mem_walk` says which addresses it visits: an address behind one that is not contained is never come to.
-/
import OpenNHP.Lib.BigEndian
import Mathlib.Tactic.IntervalCases

namespace Inet

open BigEndian

/-- An IPv4 address `a.b.c.d`. -/
structure IPv4 where
  a : UInt8
  b : UInt8
  c : UInt8
  d : UInt8
  deriving DecidableEq, Repr

/-- An address as four bytes. -/
def IPv4.bytes (x : IPv4) : Bytes := [x.a, x.b, x.c, x.d]

/-- They tell the address. -/
theorem IPv4.bytes_injective {x y : IPv4} (h : x.bytes = y.bytes) : x = y := by
  obtain ⟨a, b, c, d⟩ := x
  obtain ⟨a', b', c', d'⟩ := y
  simpa [IPv4.bytes] using h

/-! ## Dotted decimal text -/

/-- The character of a decimal digit. -/
def digit (n : Nat) : Char := Char.ofNat (48 + n)

/-- The number of a digit character. -/
def digit? (c : Char) : Option Nat :=
  if '0' ≤ c ∧ c ≤ '9' then some (c.toNat - 48) else none

/-- A digit is read back. -/
theorem digit?_digit {n : Nat} (h : n < 10) : digit? (digit n) = some n := by
  interval_cases n <;> rfl

/-- A byte in decimal, without leading zeros. -/
def octet (b : UInt8) : List Char :=
  if b.toNat < 10 then [digit b.toNat]
  else if b.toNat < 100 then [digit (b.toNat / 10), digit (b.toNat % 10)]
  else [digit (b.toNat / 100), digit (b.toNat / 10 % 10), digit (b.toNat % 10)]

/-- The characters of its text. -/
def IPv4.chars (x : IPv4) : List Char :=
  octet x.a ++ '.' :: (octet x.b ++ '.' :: (octet x.c ++ '.' :: octet x.d))

/-- The text of an address. -/
def IPv4.text (x : IPv4) : String := String.ofList x.chars

/-- What the reader knows: the value and the length of the number it is in, and the numbers before. -/
structure Scan where
  val : Nat
  digLen : Nat
  fields : List UInt8

/-- One character. -/
def Scan.step (s : Scan) (c : Char) : Option Scan :=
  match digit? c with
  | some n =>
    if s.digLen = 1 ∧ s.val = 0 then none
    else if s.val * 10 + n > 255 then none
    else some { s with val := s.val * 10 + n, digLen := s.digLen + 1 }
  | none =>
    if c = '.' ∧ s.digLen ≠ 0 ∧ s.fields.length ≠ 3 then
      some ⟨0, 0, s.fields ++ [UInt8.ofNat s.val]⟩
    else none

/-- The machine reads one character after another. -/
def Scan.run (s : Scan) : List Char → Option Scan
  | [] => some s
  | c :: cs => (s.step c).bind fun s' => s'.run cs

/-- Four numbers have been read. -/
def Scan.finish (s : Scan) : Option IPv4 :=
  match s.fields with
  | [a, b, c] => if s.digLen ≠ 0 then some ⟨a, b, c, UInt8.ofNat s.val⟩ else none
  | _ => none

/-- Read the text of an address: four numbers up to 255 without leading zeros. -/
def IPv4.parse (text : String) : Option IPv4 :=
  (Scan.run ⟨0, 0, []⟩ text.toList).bind Scan.finish

/-- A digit goes on with a number that stays below 256 and has no zero before it. -/
theorem Scan.step_digit {s : Scan} {n : Nat} (hn : n < 10) (hzero : s.digLen ≠ 1 ∨ s.val ≠ 0)
    (hval : s.val * 10 + n ≤ 255) :
    s.step (digit n) = some { s with val := s.val * 10 + n, digLen := s.digLen + 1 } := by
  rw [Scan.step, digit?_digit hn]
  show (if s.digLen = 1 ∧ s.val = 0 then none else _) = _
  rw [if_neg (by omega), if_neg (by omega)]

/-- Reading the text of a byte gives the byte, whatever follows. -/
theorem Scan.run_octet (b : UInt8) (fields : List UInt8) (rest : List Char) :
    ∃ k, k ≠ 0 ∧
      (Scan.run ⟨0, 0, fields⟩ (octet b ++ rest) = Scan.run ⟨b.toNat, k, fields⟩ rest) := by
  have hb : b.toNat < 256 := b.toNat_lt
  unfold octet
  split
  · rename_i h10
    refine ⟨1, Nat.one_ne_zero, ?_⟩
    rw [List.cons_append, Scan.run, Scan.step_digit h10 (.inl (by simp)) (by simp; omega)]
    simp
  · split
    · rename_i h10 h100
      refine ⟨2, by omega, ?_⟩
      rw [List.cons_append, Scan.run, Scan.step_digit (by omega) (.inl (by simp)) (by simp; omega),
        Option.bind_some, List.cons_append, Scan.run,
        Scan.step_digit (by omega) (.inr (by simp; omega)) (by simp; omega), Option.bind_some,
        List.nil_append]
      have hval : (0 * 10 + b.toNat / 10) * 10 + b.toNat % 10 = b.toNat := by omega
      rw [hval]
    · rename_i h10 h100
      refine ⟨3, by omega, ?_⟩
      rw [List.cons_append, Scan.run, Scan.step_digit (by omega) (.inl (by simp)) (by simp; omega),
        Option.bind_some, List.cons_append, Scan.run,
        Scan.step_digit (by omega) (.inr (by simp; omega)) (by simp; omega), Option.bind_some,
        List.cons_append, Scan.run,
        Scan.step_digit (by omega) (.inr (by simp; omega)) (by simp; omega), Option.bind_some,
        List.nil_append]
      have hval : ((0 * 10 + b.toNat / 100) * 10 + b.toNat / 10 % 10) * 10 + b.toNat % 10 =
          b.toNat := by omega
      rw [hval]

/-- A dot ends a number. -/
theorem Scan.run_dot {b : UInt8} {k : Nat} {fields : List UInt8} {rest : List Char} (hk : k ≠ 0)
    (hfields : fields.length ≠ 3) :
    Scan.run ⟨b.toNat, k, fields⟩ ('.' :: rest) = Scan.run ⟨0, 0, fields ++ [b]⟩ rest := by
  have hdot : digit? '.' = none := rfl
  rw [Scan.run, Scan.step, hdot]
  show Option.bind (if '.' = '.' ∧ k ≠ 0 ∧ fields.length ≠ 3 then _ else _) _ = _
  rw [if_pos ⟨rfl, hk, hfields⟩, Option.bind_some]
  simp

/-- An address is read back from its text. -/
theorem IPv4.parse_text (x : IPv4) : IPv4.parse x.text = some x := by
  obtain ⟨a, b, c, d⟩ := x
  obtain ⟨k₁, hk₁, h₁⟩ := Scan.run_octet a [] ('.' :: (octet b ++ '.' :: (octet c ++ '.' :: octet d)))
  obtain ⟨k₂, hk₂, h₂⟩ := Scan.run_octet b [a] ('.' :: (octet c ++ '.' :: octet d))
  obtain ⟨k₃, hk₃, h₃⟩ := Scan.run_octet c [a, b] ('.' :: octet d)
  obtain ⟨k₄, hk₄, h₄⟩ := Scan.run_octet d [a, b, c] []
  rw [List.append_nil] at h₄
  have hrun : Scan.run ⟨0, 0, []⟩ (IPv4.chars ⟨a, b, c, d⟩) = some ⟨d.toNat, k₄, [a, b, c]⟩ := by
    rw [IPv4.chars, h₁, Scan.run_dot hk₁ (by simp), List.nil_append, h₂,
      Scan.run_dot hk₂ (by simp), List.singleton_append, h₃, Scan.run_dot hk₃ (by simp)]
    exact h₄
  rw [IPv4.parse, IPv4.text, String.toList_ofList, hrun, Option.bind_some]
  simp [Scan.finish, hk₄]

/-- Only digits and dots are read. -/
theorem Scan.step_some {s s' : Scan} {c : Char} (h : s.step c = some s') :
    (digit? c).isSome ∨ c = '.' := by
  unfold Scan.step at h
  split at h
  · rename_i n hn
    exact .inl (by rw [hn]; rfl)
  · split at h
    · rename_i hdot
      exact .inr hdot.1
    · cases h

/-- Nothing but digits and dots is read. -/
theorem Scan.run_some {s s' : Scan} {cs : List Char} (h : s.run cs = some s') :
    ∀ c ∈ cs, (digit? c).isSome ∨ c = '.' := by
  induction cs generalizing s with
  | nil => intro c hc; cases hc
  | cons c cs ih =>
    rw [Scan.run, Option.bind_eq_some_iff] at h
    obtain ⟨t, ht, hrun⟩ := h
    intro c' hc'
    rcases List.mem_cons.mp hc' with rfl | hmem
    · exact Scan.step_some ht
    · exact ih hrun c' hmem

/-- The text of an IPv4 address has no colon. -/
theorem IPv4.no_colon {text : String} {x : IPv4} (h : IPv4.parse text = some x) :
    ':' ∉ text.toList := by
  intro hcolon
  rw [IPv4.parse, Option.bind_eq_some_iff] at h
  obtain ⟨s, hs, -⟩ := h
  rcases Scan.run_some hs ':' hcolon with h | h
  · exact absurd h (by decide)
  · exact absurd h (by decide)

/-! ## Networks -/

/-- `net.CIDRMask(ones, 8 * len)`. -/
def cidrMask (ones len : Nat) : Bytes :=
  (List.range len).map fun i => UInt8.ofNat (256 - 2 ^ (8 - min 8 (ones - 8 * i)))

/-- Keep the bits of the mask. -/
def maskBytes (ip mask : Bytes) : Bytes := List.zipWith (· &&& ·) ip mask

/-- A network: its number and its mask. -/
structure IPNet where
  ip : Bytes
  mask : Bytes
  deriving DecidableEq, Repr

/-- The network of an address with a prefix length. -/
def IPNet.of (ip : Bytes) (ones : Nat) : IPNet :=
  ⟨maskBytes ip (cidrMask ones ip.length), cidrMask ones ip.length⟩

/-- An address is in the network if it agrees with it under the mask. -/
def IPNet.contains (n : IPNet) (ip : Bytes) : Bool :=
  ip.length = n.ip.length && maskBytes ip n.mask = maskBytes n.ip n.mask

/-- The carry runs from the last byte to the first: the bytes come in reverse. -/
def incrementRev : Bytes → Bytes
  | [] => []
  | b :: bs => if b + 1 > 0 then (b + 1) :: bs else (b + 1) :: incrementRev bs

/-- The next address; the last one wraps to the first. -/
def increment (ip : Bytes) : Bytes := (incrementRev ip.reverse).reverse

/-- The addresses visited from `ip` while the network contains them, in at most `fuel` rounds. -/
def IPNet.walkFrom (n : IPNet) : Nat → Bytes → List Bytes
  | 0, _ => []
  | fuel + 1, ip => if n.contains ip then ip :: n.walkFrom fuel (increment ip) else []

/-- The addresses of a network in the order of the loop over it. -/
def IPNet.walk (n : IPNet) (fuel : Nat) : List Bytes := n.walkFrom fuel (maskBytes n.ip n.mask)

/-! ### The walk over a /25 -/

/-- What holds of eight bits holds of every byte. -/
theorem forall_uint8 {p : UInt8 → Prop} (h : ∀ v : BitVec 8, p (UInt8.ofBitVec v)) (b : UInt8) :
    p b := h b.toBitVec

/-- The half of the last byte that a 25-bit mask keeps. -/
theorem and_128 (b : UInt8) : (b &&& 128).toNat = b.toNat / 128 * 128 := by
  revert b
  exact forall_uint8 (by decide)

/-- A full mask leaves a byte. -/
theorem and_255 (b : UInt8) : b &&& 255 = b := by
  revert b
  exact forall_uint8 (by decide)

/-- The /25 network of an address. -/
theorem IPNet.of_25 (x : IPv4) :
    IPNet.of x.bytes 25 = ⟨[x.a, x.b, x.c, x.d &&& 128], [255, 255, 255, 128]⟩ := by
  have hmask : cidrMask 25 x.bytes.length = [255, 255, 255, 128] := by
    show cidrMask 25 4 = _
    decide
  rw [IPNet.of, hmask]
  simp [IPv4.bytes, maskBytes, and_255]

/-- An address is in the /25 network of another when both have the first 25 bits. -/
theorem contains_25 (x y : IPv4) :
    (IPNet.of x.bytes 25).contains y.bytes = true ↔
      y.a = x.a ∧ y.b = x.b ∧ y.c = x.c ∧ y.d.toNat / 128 = x.d.toNat / 128 := by
  have hlast : y.d &&& 128 = x.d &&& 128 &&& 128 ↔ y.d.toNat / 128 = x.d.toNat / 128 := by
    rw [← UInt8.toNat_inj, and_128, and_128, and_128]
    omega
  rw [IPNet.of_25]
  simp [IPNet.contains, maskBytes, IPv4.bytes, and_255, hlast]

/-- Every address is in one half of the address space. -/
theorem contains_half (x : IPv4) :
    (IPNet.of (IPv4.mk 0 0 0 0).bytes 1).contains x.bytes = true ∨
      (IPNet.of (IPv4.mk 128 0 0 0).bytes 1).contains x.bytes = true := by
  have hbit : ∀ b : UInt8, b &&& 128 = 0 ∨ b &&& 128 = 128 := forall_uint8 (by decide)
  have hlower : IPNet.of (IPv4.mk 0 0 0 0).bytes 1 = ⟨[0, 0, 0, 0], [128, 0, 0, 0]⟩ := by decide
  have hupper : IPNet.of (IPv4.mk 128 0 0 0).bytes 1 = ⟨[128, 0, 0, 0], [128, 0, 0, 0]⟩ := by decide
  rw [hlower, hupper]
  simpa [IPNet.contains, maskBytes, IPv4.bytes] using hbit x.a

/-- The last byte is incremented, -/
theorem increment_last {a b c d : UInt8} (h : d.toNat + 1 < 256) :
    increment [a, b, c, d] = [a, b, c, d + 1] := by
  have hd : (d + 1).toNat = d.toNat + 1 := by
    rw [UInt8.toNat_add]
    exact Nat.mod_eq_of_lt h
  have hpos : d + 1 > 0 := by
    rw [gt_iff_lt, UInt8.lt_iff_toNat_lt, hd]
    exact Nat.succ_pos _
  simp [increment, incrementRev, hpos]

/-- and wraps with a carry. -/
theorem increment_255 (a b c : UInt8) : ∃ a' b' c', increment [a, b, c, 255] = [a', b', c', 0] := by
  have hwrap : (255 : UInt8) + 1 = 0 := rfl
  by_cases hc : c + 1 > 0
  · exact ⟨a, b, c + 1, by simp [increment, incrementRev, hwrap, hc]⟩
  · by_cases hb : b + 1 > 0
    · exact ⟨a, b + 1, c + 1, by simp [increment, incrementRev, hwrap, hc, hb]⟩
    · exact ⟨a + 1, b + 1, c + 1, by simp [increment, incrementRev, hwrap, hc, hb]⟩

/-- Past the last address of a /25 the network no longer contains the address, also at the wrap. -/
theorem not_contains_increment {x : IPv4} {e : UInt8}
    (he : e.toNat + 1 = x.d.toNat / 128 * 128 + 128) :
    (IPNet.of x.bytes 25).contains (increment [x.a, x.b, x.c, e]) = false := by
  have hx : x.d.toNat < 256 := x.d.toNat_lt
  rw [Bool.eq_false_iff]
  intro hcontains
  by_cases hlast : e.toNat + 1 < 256
  · rw [increment_last hlast] at hcontains
    have hnext := ((contains_25 x ⟨x.a, x.b, x.c, e + 1⟩).mp hcontains).2.2.2
    rw [show (e + 1).toNat = e.toNat + 1 by rw [UInt8.toNat_add]; exact Nat.mod_eq_of_lt hlast]
      at hnext
    omega
  · have h255 : e = 255 := UInt8.toNat_inj.mp (by show e.toNat = 255; have := e.toNat_lt; omega)
    subst h255
    obtain ⟨a', b', c', hinc⟩ := increment_255 x.a x.b x.c
    rw [hinc] at hcontains
    have hzero : (0 : UInt8).toNat / 128 = x.d.toNat / 128 :=
      ((contains_25 x ⟨a', b', c', 0⟩).mp hcontains).2.2.2
    have h255 : (255 : UInt8).toNat = 255 := rfl
    have h0 : (0 : UInt8).toNat = 0 := rfl
    omega

/-- The loop from the last byte `e` on visits the addresses from there to the end of the network. -/
theorem mem_walkFrom {x : IPv4} {k fuel : Nat} {e : UInt8} {z : Bytes}
    (he : e.toNat + (k + 1) = x.d.toNat / 128 * 128 + 128) (hk : k < 128) (hfuel : k + 1 < fuel) :
    z ∈ (IPNet.of x.bytes 25).walkFrom fuel [x.a, x.b, x.c, e] ↔
      ∃ d : UInt8, z = [x.a, x.b, x.c, d] ∧ e.toNat ≤ d.toNat ∧
        d.toNat / 128 = x.d.toNat / 128 := by
  induction k generalizing fuel e with
  | zero =>
    obtain ⟨fuel, rfl⟩ : ∃ f, fuel = f + 2 := ⟨fuel - 2, by omega⟩
    have hin : (IPNet.of x.bytes 25).contains [x.a, x.b, x.c, e] = true :=
      (contains_25 x ⟨x.a, x.b, x.c, e⟩).mpr ⟨rfl, rfl, rfl, by show e.toNat / 128 = _; omega⟩
    have hout := not_contains_increment (x := x) he
    rw [IPNet.walkFrom, if_pos hin, IPNet.walkFrom, hout]
    constructor
    · intro hz
      rw [List.mem_singleton.mp hz]
      exact ⟨e, rfl, Nat.le_refl _, by omega⟩
    · rintro ⟨d, rfl, hle, hd⟩
      have hed : d = e := UInt8.toNat_inj.mp (by omega)
      rw [hed]
      exact List.mem_singleton.mpr rfl
  | succ k ih =>
    obtain ⟨fuel, rfl⟩ : ∃ f, fuel = f + 1 := ⟨fuel - 1, by omega⟩
    have hx : x.d.toNat < 256 := x.d.toNat_lt
    have hin : (IPNet.of x.bytes 25).contains [x.a, x.b, x.c, e] = true :=
      (contains_25 x ⟨x.a, x.b, x.c, e⟩).mpr ⟨rfl, rfl, rfl, by show e.toNat / 128 = _; omega⟩
    have hlast : e.toNat + 1 < 256 := by omega
    have hnext : (e + 1).toNat = e.toNat + 1 := by
      rw [UInt8.toNat_add]
      exact Nat.mod_eq_of_lt hlast
    rw [IPNet.walkFrom, if_pos hin, increment_last hlast, List.mem_cons,
      ih (by omega) (by omega) (by omega), hnext]
    constructor
    · rintro (rfl | ⟨d, rfl, hle, hd⟩)
      · exact ⟨e, rfl, Nat.le_refl _, by omega⟩
      · exact ⟨d, rfl, by omega, hd⟩
    · rintro ⟨d, rfl, hle, hd⟩
      rcases Nat.eq_or_lt_of_le hle with heq | hlt
      · exact .inl (by rw [UInt8.toNat_inj.mp heq])
      · exact .inr ⟨d, rfl, hlt, hd⟩

/-- **The loop over a /25 visits exactly the addresses of the network**, for any bound on the
    rounds that its 128 addresses fit in. -/
theorem mem_walk {x : IPv4} {fuel : Nat} {z : Bytes} (hfuel : 128 < fuel) :
    z ∈ (IPNet.of x.bytes 25).walk fuel ↔
      ∃ y : IPv4, z = y.bytes ∧ (IPNet.of x.bytes 25).contains y.bytes = true := by
  have hx : x.d.toNat < 256 := x.d.toNat_lt
  have hstart : maskBytes (IPNet.of x.bytes 25).ip (IPNet.of x.bytes 25).mask =
      [x.a, x.b, x.c, x.d &&& 128] := by
    have hidem : x.d &&& 128 &&& 128 = x.d &&& 128 :=
      UInt8.toNat_inj.mp (by rw [and_128, and_128]; omega)
    rw [IPNet.of_25]
    simp [maskBytes, and_255, hidem]
  have hfirst : (x.d &&& 128).toNat = x.d.toNat / 128 * 128 := and_128 x.d
  rw [IPNet.walk, hstart, mem_walkFrom (k := 127) (by omega) (by omega) (by omega)]
  constructor
  · rintro ⟨d, rfl, -, hd⟩
    exact ⟨⟨x.a, x.b, x.c, d⟩, rfl, (contains_25 _ _).mpr ⟨rfl, rfl, rfl, hd⟩⟩
  · rintro ⟨⟨a, b, c, d⟩, rfl, hin⟩
    obtain ⟨rfl, rfl, rfl, hd⟩ := (contains_25 _ _).mp hin
    have hd : d.toNat / 128 = x.d.toNat / 128 := hd
    exact ⟨d, rfl, by rw [hfirst]; omega, hd⟩

end Inet
