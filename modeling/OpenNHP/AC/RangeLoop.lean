/-
  The loop over the addresses around a source (`endpoints/ac/msghandler.go`: `HandleAccessControl` in range mode,
  `incrementIP`).

  1. **The program.**  The source's network is parsed from its text, and the loop goes from the network's first
     address up, adding one, as long as the network contains the address.  Its end depends on what stands behind
     the last address: in the map of the addresses there is always a next one, since `incrementIP` carries over
     the first byte too.

  2. **Addresses are numbers.**  An address is its bytes and the number they write.  The masks `/25` of IPv4 and
     `/121` of IPv6 keep all but the last seven bits, so that a network is the numbers with one quotient by 128
     (`Quotient`); `incrementIP` adds one, modulo the size of the address space (`increment_eq`).

  3. **The crux.**  Behind the last address of a network the quotient is another, also where the space ends and the
     number is zero again (`not_contains_end`).  The one case to look at apart is a v6 address that maps a v4 one:
     there the network that is parsed has four bytes (`ipMask_mapped`, `netContains6`).

  4. **The result.**  For every address of both families the loop comes to its end and has visited the 128
     addresses of the network in order, each once (`rangeLoop_terminates`); so the bound on its rounds in the
     model of the handler is never reached (`walk_rangeRounds`).
-/
import OpenNHP.AC.AccessControl
import OpenNHP.Lib.MinimalBytes
import Mathlib.Data.List.Induction

namespace OpenNHP.AC

open Inet BigEndian

/-! ## Package `net` -/

/-- `IP.Mask`: an IPv4 address is masked as its four bytes; `nil` where the lengths differ. -/
def ipMask (ip mask : Bytes) : Bytes :=
  let mask := if mask.length = 16 ∧ ip.length = 4 ∧ mask.take 12 = List.replicate 12 255 then mask.drop 12 else mask
  let ip := if mask.length = 4 ∧ ip.length = 16 ∧ ip.take 12 = v4InV6Prefix then ip.drop 12 else ip
  if ip.length ≠ mask.length then [] else maskBytes ip mask

/-- `networkNumberAndMask` of Go's `net`. -/
def networkNumberAndMask (n : IPNet) : Bytes × Bytes :=
  let number := (to4 n.ip).getD n.ip
  if number.length ≠ 4 ∧ number.length ≠ 16 then ([], [])
  else if n.mask.length = 4 then if number.length = 4 then (number, n.mask) else ([], [])
  else if n.mask.length = 16 then (number, if number.length = 4 then n.mask.drop 12 else n.mask)
  else ([], [])

/-- `IPNet.Contains` -/
def netContains (n : IPNet) (ip : Bytes) : Bool :=
  let (number, mask) := networkNumberAndMask n
  let ip := (to4 ip).getD ip
  ip.length = number.length && maskBytes number mask = maskBytes ip mask

/-- `net.ParseCIDR` of an IPv4 address, given in its 16 bytes, and of an IPv6 address. -/
def parseCIDR4 (x : IPv4) (ones : Nat) : Bytes × IPNet :=
  let ip := v4InV6Prefix ++ x.bytes
  (ip, { ip := ipMask ip (cidrMask ones 4), mask := cidrMask ones 4 })

/-- `net.ParseCIDR` of an address of the other family. -/
def parseCIDR6 (ip : Vector UInt8 16) (ones : Nat) : Bytes × IPNet :=
  (ip.toList, { ip := ipMask ip.toList (cidrMask ones 16), mask := cidrMask ones 16 })

/-! ## The loop -/

/-- `for ip := …; net.Contains(ip); incrementIP(ip)`: the addresses for which the body is executed, if the loop
    ends within the rounds. -/
def rangeLoop (n : IPNet) : Nat → Bytes → Option (List Bytes)
  | 0, _ => none
  | rounds + 1, ip =>
    if netContains n ip then (rangeLoop n rounds (increment ip)).map (ip :: ·) else some []

/-- The loop behind a `ParseCIDR`. -/
def rangeAddrs (parsed : Bytes × IPNet) (rounds : Nat) : Option (List Bytes) :=
  rangeLoop parsed.2 rounds (ipMask parsed.1 parsed.2.mask)

/-! ## The next address as a number -/

/-- An address keeps its length. -/
theorem length_increment (ip : Bytes) : (increment ip).length = ip.length := by
  have hrev : ∀ bs : Bytes, (incrementRev bs).length = bs.length := by
    intro bs
    induction bs with
    | nil => rfl
    | cons b bs ih =>
      rw [incrementRev]
      split_ifs
      · rfl
      · rw [List.length_cons, List.length_cons, ih]
  rw [increment, List.length_reverse, hrev, List.length_reverse]

/-- The carry goes on to the bytes before where the last one wraps. -/
theorem increment_append (pre : Bytes) (e : UInt8) :
    increment (pre ++ [e]) = if e + 1 > 0 then pre ++ [e + 1] else increment pre ++ [e + 1] := by
  rw [increment, List.reverse_append, List.reverse_singleton, List.singleton_append, incrementRev]
  split_ifs
  · rw [List.reverse_cons, List.reverse_reverse]
  · rw [List.reverse_cons]
    rfl

/-- The number of an address, last byte first. -/
theorem getBE_concat (pre : Bytes) (e : UInt8) : getBE (pre ++ [e]) = getBE pre * 256 + e.toNat := by
  rw [getBE_append]
  simp [getBE]

/-- The next number, in the space of the addresses. -/
theorem getBE_increment (ip : Bytes) : getBE (increment ip) = (getBE ip + 1) % 256 ^ ip.length := by
  induction ip using List.reverseRecOn with
  | nil => rfl
  | append_singleton pre e ih =>
    have he := e.toNat_lt
    have hpre := getBE_lt pre
    rw [increment_append, getBE_concat, List.length_append, List.length_singleton, Nat.pow_succ]
    by_cases hlast : e.toNat = 255
    · obtain rfl : e = 255 := UInt8.toNat_inj.mp hlast
      rw [if_neg (by decide), getBE_concat, ih]
      have hcarry : getBE pre * 256 + (255 : UInt8).toNat + 1 = (getBE pre + 1) * 256 := by
        rw [hlast]
        omega
      have hzero : ((255 : UInt8) + 1).toNat = 0 := by decide
      rw [hcarry, Nat.mul_mod_mul_right, hzero, Nat.add_zero]
    · have hnext : (e + 1).toNat = e.toNat + 1 := by
        rw [UInt8.toNat_add]
        exact Nat.mod_eq_of_lt (show e.toNat + 1 < 256 by omega)
      have hpos : e + 1 > 0 := UInt8.lt_iff_toNat_lt.mpr (by rw [hnext]; exact Nat.succ_pos _)
      rw [if_pos hpos, getBE_concat, hnext, Nat.mod_eq_of_lt (by omega), Nat.add_assoc]

/-- As many bytes write a number modulo the space. -/
theorem putBE_mod (n x : Nat) : putBE n (x % 256 ^ n) = putBE n x := by
  conv_rhs => rw [← Nat.div_add_mod x (256 ^ n), Nat.mul_comm]
  exact (putBE_add_mul n _ _).symm

/-- `incrementIP` adds one in the numbers of the address space. -/
theorem increment_eq (ip : Bytes) : increment ip = putBE ip.length (getBE ip + 1) := by
  rw [← putBE_getBE (increment ip), length_increment, getBE_increment, putBE_mod]

/-! ## Networks as quotients -/

/-- A network's addresses are the numbers of one quotient. -/
structure Quotient (n : IPNet) (len first : Nat) : Prop where
  pos : 0 < len
  aligned : first % 128 = 0
  fits : first < 256 ^ len
  contains_iff : ∀ z : Bytes, z.length = len → (netContains n z = true ↔ getBE z / 128 = first / 128)

namespace Quotient

variable {n : IPNet} {len first : Nat} (h : Quotient n len first)
include h

/-- The address space is made of whole networks, and of more than one. -/
theorem space : ∃ networks, 1 < networks ∧ 256 ^ len = 128 * networks := by
  obtain ⟨len', rfl⟩ := Nat.exists_eq_add_of_lt h.pos
  have hpos : 0 < 256 ^ (0 + len') := Nat.pow_pos (by decide)
  refine ⟨2 * 256 ^ (0 + len'), by omega, ?_⟩
  rw [Nat.pow_succ]
  omega

/-- The addresses of a network, as numbers, -/
theorem getBE_addr {j : Nat} (hj : j < 128) : getBE (putBE len (first + j)) = first + j := by
  apply getBE_putBE_of_lt
  obtain ⟨networks, -, hspace⟩ := h.space
  have haligned := h.aligned
  have hfits := h.fits
  omega

/-- Behind the last address the quotient is the next one, or zero. -/
theorem not_contains_end : netContains n (putBE len (first + 128)) = false := by
  obtain ⟨networks, hmany, hspace⟩ := h.space
  have haligned := h.aligned
  have hfits := h.fits
  rw [Bool.eq_false_iff]
  intro hcontains
  have hquotient := (h.contains_iff _ (length_putBE _ _)).mp hcontains
  rw [getBE_putBE] at hquotient
  rcases Nat.lt_or_ge (first + 128) (256 ^ len) with hlt | hge
  · rw [Nat.mod_eq_of_lt hlt] at hquotient
    omega
  · -- the network is the last one of the space
    have hend : first + 128 = 256 ^ len := by omega
    rw [hend, Nat.mod_self] at hquotient
    omega

/-- The loop from the address `j` on, where `k` of 128 are left. -/
theorem rangeLoop_from {k j rounds : Nat} (hj : j + k = 128) (hrounds : k < rounds) :
    rangeLoop n rounds (putBE len (first + j)) =
      some ((List.range' j k).map fun i => putBE len (first + i)) := by
  induction k generalizing j rounds with
  | zero =>
    obtain ⟨rounds, rfl⟩ := Nat.exists_eq_add_of_lt hrounds
    obtain rfl : j = 128 := hj
    rw [rangeLoop, h.not_contains_end]
    rfl
  | succ k ih =>
    obtain ⟨rounds, rfl⟩ := Nat.exists_eq_add_of_lt (Nat.zero_lt_of_lt hrounds)
    have haddr := h.getBE_addr (show j < 128 by omega)
    have hin : netContains n (putBE len (first + j)) = true := by
      have haligned := h.aligned
      apply (h.contains_iff _ (length_putBE _ _)).mpr
      rw [haddr]
      omega
    have hnext : increment (putBE len (first + j)) = putBE len (first + (j + 1)) := by
      rw [increment_eq, length_putBE, haddr, Nat.add_assoc]
    rw [rangeLoop, if_pos hin, hnext, ih (by omega) (by omega), List.range'_succ]
    rfl

/-- The 128 addresses, by their numbers. -/
theorem mem_addrs {z : Bytes} :
    z ∈ ((List.range' 0 128).map fun i => putBE len (first + i)) ↔ z.length = len ∧ netContains n z = true := by
  have haligned := h.aligned
  constructor
  · intro hz
    obtain ⟨i, hi, rfl⟩ := List.mem_map.mp hz
    have hlt : i < 128 := by
      have hmem := List.mem_range'_1.mp hi
      omega
    refine ⟨length_putBE _ _, (h.contains_iff _ (length_putBE _ _)).mpr ?_⟩
    rw [h.getBE_addr hlt]
    omega
  · rintro ⟨hlen, hcontains⟩
    have hquotient := (h.contains_iff z hlen).mp hcontains
    refine List.mem_map.mpr ⟨getBE z - first, List.mem_range'_1.mpr (by omega), ?_⟩
    have hsum : first + (getBE z - first) = getBE z := by omega
    rw [hsum, ← hlen]
    exact putBE_getBE z

/-- go up. -/
theorem pairwise_addrs :
    ((List.range' 0 128).map fun i => putBE len (first + i)).Pairwise fun x y => getBE x < getBE y := by
  apply List.pairwise_map.mpr
  have hlt : (List.range' 0 128).Pairwise (· < ·) := List.pairwise_lt_range'
  apply List.Pairwise.imp_of_mem _ hlt
  intro i j hi hj hij
  have hi' := List.mem_range'_1.mp hi
  have hj' := List.mem_range'_1.mp hj
  rw [h.getBE_addr (by omega), h.getBE_addr (by omega)]
  omega

end Quotient

/-! ## The masks -/

/-- The mask that keeps all but the last seven bits. -/
def lastSeven (len : Nat) : Bytes := List.replicate len 255 ++ [128]

/-- The mask keeps one bit of the last byte. -/
theorem maskBytes_lastSeven (pre : Bytes) (d : UInt8) :
    maskBytes (pre ++ [d]) (lastSeven pre.length) = pre ++ [d &&& 128] := by
  have hkeep : ∀ bs : Bytes, List.zipWith (· &&& ·) bs (List.replicate bs.length 255) = bs := by
    intro bs
    induction bs with
    | nil => rfl
    | cons b bs ih =>
      rw [List.length_cons, List.replicate_succ, List.zipWith_cons_cons, ih, and_255]
  rw [maskBytes, lastSeven, List.zipWith_append (by rw [List.length_replicate]), hkeep]
  rfl

/-- And so rounds the number down to a multiple of 128. -/
theorem getBE_maskBytes {ip : Bytes} {len : Nat} (hlen : ip.length = len + 1) :
    getBE (maskBytes ip (lastSeven len)) = getBE ip / 128 * 128 ∧
      (maskBytes ip (lastSeven len)).length = len + 1 := by
  rcases List.eq_nil_or_concat ip with rfl | ⟨pre, d, rfl⟩
  · cases hlen
  · rw [List.concat_eq_append] at hlen ⊢
    rw [List.length_append, List.length_singleton] at hlen
    obtain rfl := Nat.succ.inj hlen
    rw [maskBytes_lastSeven, getBE_concat, getBE_concat, and_128]
    refine ⟨by omega, ?_⟩
    rw [List.length_append]
    rfl

/-- Two addresses are in one network when their quotients are the same. -/
theorem maskBytes_eq_iff {x y : Bytes} {len : Nat} (hx : x.length = len + 1) (hy : y.length = len + 1) :
    maskBytes x (lastSeven len) = maskBytes y (lastSeven len) ↔ getBE x / 128 = getBE y / 128 := by
  obtain ⟨hx', hxlen⟩ := getBE_maskBytes hx
  obtain ⟨hy', hylen⟩ := getBE_maskBytes hy
  constructor
  · intro heq
    rw [heq] at hx'
    omega
  · intro heq
    rw [← putBE_getBE (maskBytes x _), ← putBE_getBE (maskBytes y _), hxlen, hylen, hx', hy', heq]

/-! ## The two kinds of networks -/

/-- Both masks are of that kind. -/
theorem cidrMask_25 : cidrMask 25 4 = lastSeven 3 := by decide

/-- The other one. -/
theorem cidrMask_121 : cidrMask 121 16 = lastSeven 15 := by decide

/-- A mask of four bytes is for the last four of an IPv4 address in the long form. -/
theorem ipMask_mapped {bs mask : Bytes} (hbs : bs.length = 4) (hmask : mask.length = 4) :
    ipMask (v4InV6Prefix ++ bs) mask = maskBytes bs mask := by
  have hlong : ¬(mask.length = 16 ∧ (v4InV6Prefix ++ bs).length = 4 ∧ mask.take 12 = List.replicate 12 255) := by
    rintro ⟨h, -⟩
    omega
  have hmapped : mask.length = 4 ∧ (v4InV6Prefix ++ bs).length = 16 ∧
      (v4InV6Prefix ++ bs).take 12 = v4InV6Prefix := by
    refine ⟨hmask, ?_, List.take_left' rfl⟩
    rw [List.length_append, hbs]
    rfl
  have hdrop : (v4InV6Prefix ++ bs).drop 12 = bs := List.drop_left' rfl
  rw [ipMask, if_neg hlong, if_pos hmapped, hdrop, if_neg]
  omega

/-- An address of four bytes is one of IPv4. -/
theorem to4_of_four {ip : Bytes} (hip : ip.length = 4) : (to4 ip).getD ip = ip := by
  rw [to4, if_pos hip]
  rfl

/-- And its mask has four bytes too. -/
theorem networkNumberAndMask_of_four {ip mask : Bytes} (hip : ip.length = 4) (hmask : mask.length = 4) :
    networkNumberAndMask ⟨ip, mask⟩ = (ip, mask) := by
  simp only [networkNumberAndMask, to4_of_four hip, hip, hmask, ne_eq, not_true_eq_false, false_and, if_false, if_true]

/-- The network of an IPv4 address. -/
theorem quotient4 (x : IPv4) :
    ipMask (v4InV6Prefix ++ x.bytes) (cidrMask 25 4) = maskBytes x.bytes (lastSeven 3) ∧
      Quotient (parseCIDR4 x 25).2 4 (getBE (maskBytes x.bytes (lastSeven 3))) := by
  have hlength : x.bytes.length = 3 + 1 := rfl
  obtain ⟨hnumber, hlen⟩ := getBE_maskBytes hlength
  have hmask : ipMask (v4InV6Prefix ++ x.bytes) (cidrMask 25 4) = maskBytes x.bytes (lastSeven 3) := by
    rw [cidrMask_25]
    exact ipMask_mapped hlength rfl
  refine ⟨hmask, by decide, by omega, ?_, ?_⟩
  · have hlt := getBE_lt (maskBytes x.bytes (lastSeven 3))
    rw [hlen] at hlt
    exact hlt
  · intro z hz
    have hnet : networkNumberAndMask (parseCIDR4 x 25).2 = (maskBytes x.bytes (lastSeven 3), lastSeven 3) := by
      have hshort : (lastSeven 3).length = 4 := rfl
      rw [parseCIDR4, hmask, cidrMask_25]
      exact networkNumberAndMask_of_four hlen hshort
    rw [netContains, hnet]
    simp only [to4_of_four hz, hz, hlen, decide_true, Bool.true_and, decide_eq_true_iff]
    rw [maskBytes_eq_iff hlen hz]
    exact eq_comm

/-- The first twelve bytes are above the last seven bits. -/
theorem take_of_quotient {x y : Bytes} (hx : x.length = 16) (hy : y.length = 16)
    (h : getBE x / 128 = getBE y / 128) : x.take 12 = y.take 12 := by
  have hmask := (@maskBytes_eq_iff _ _ 15 hx hy).mpr h
  rcases List.eq_nil_or_concat x with rfl | ⟨pre, d, rfl⟩
  · cases hx
  rcases List.eq_nil_or_concat y with rfl | ⟨pre', d', rfl⟩
  · cases hy
  rw [List.concat_eq_append, List.length_append, List.length_singleton] at hx hy
  rw [List.concat_eq_append, List.concat_eq_append] at hmask ⊢
  have hpre : pre.length = 15 := by omega
  have hpre' : pre'.length = 15 := by omega
  have hleft := maskBytes_lastSeven pre d
  have hright := maskBytes_lastSeven pre' d'
  rw [hpre] at hleft
  rw [hpre'] at hright
  rw [hleft, hright] at hmask
  obtain ⟨rfl, -⟩ := List.append_inj hmask (by rw [hpre, hpre'])
  rw [List.take_append_of_le_length (by omega), List.take_append_of_le_length (by omega)]

/-- The last four bytes, behind the same twelve. -/
theorem quotient_drop_iff {x y : Bytes} (hx : x.length = 16) (hy : y.length = 16) (h : x.take 12 = y.take 12) :
    getBE x / 128 = getBE y / 128 ↔ getBE (x.drop 12) / 128 = getBE (y.drop 12) / 128 := by
  have hsplit : ∀ z : Bytes, z.length = 16 → getBE z = getBE (z.take 12) * 256 ^ 4 + getBE (z.drop 12) := by
    intro z hz
    have hdrop : (z.drop 12).length = 4 := by rw [List.length_drop, hz]
    conv_lhs => rw [← List.take_append_drop 12 z]
    rw [getBE_append, hdrop]
  rw [hsplit x hx, hsplit y hy, h]
  omega

/-- A longer address may map a short one. -/
theorem to4_of_16 {z : Bytes} (hz : z.length = 16) :
    to4 z = if z.take 12 = v4InV6Prefix then some (z.drop 12) else none := by
  rw [to4, if_neg (by omega)]
  simp only [hz, true_and]

/-- An address that maps an IPv4 address is compared by its last four bytes; no other one is in its network. -/
theorem netContains6 {number z : Bytes} (hnumber : number.length = 16) (hz : z.length = 16) :
    netContains ⟨number, lastSeven 15⟩ z = true ↔ getBE z / 128 = getBE number / 128 := by
  have hnet : networkNumberAndMask ⟨number, lastSeven 15⟩ =
      if number.take 12 = v4InV6Prefix then (number.drop 12, lastSeven 3) else (number, lastSeven 15) := by
    have hmask : (lastSeven 15).length = 16 := by decide
    have hdrop : (number.drop 12).length = 4 := by rw [List.length_drop, hnumber]
    simp only [networkNumberAndMask, to4_of_16 hnumber]
    split_ifs with hmapped
    all_goals simp_all [lastSeven]
  rw [netContains, hnet]
  simp only [to4_of_16 hz]
  by_cases hmapped : number.take 12 = v4InV6Prefix
  · by_cases hmapped' : z.take 12 = v4InV6Prefix
    · have hdrop : ∀ {x : Bytes}, x.length = 16 → (x.drop 12).length = 3 + 1 := by
        intro x hx
        rw [List.length_drop, hx]
      simp only [if_pos hmapped, if_pos hmapped', Option.getD_some, hdrop hz, hdrop hnumber, decide_true,
        Bool.true_and, decide_eq_true_iff]
      rw [maskBytes_eq_iff (hdrop hnumber) (hdrop hz), quotient_drop_iff hz hnumber (hmapped'.trans hmapped.symm)]
      exact eq_comm
    · have hne : z.length ≠ (number.drop 12).length := by rw [List.length_drop]; omega
      simp only [if_pos hmapped, if_neg hmapped', Option.getD_none, hne, decide_false, Bool.false_and]
      refine iff_of_false Bool.false_ne_true ?_
      exact fun h => hmapped' ((take_of_quotient hz hnumber h).trans hmapped)
  · by_cases hmapped' : z.take 12 = v4InV6Prefix
    · have hne : (z.drop 12).length ≠ number.length := by rw [List.length_drop]; omega
      simp only [if_neg hmapped, if_pos hmapped', Option.getD_some, hne, decide_false, Bool.false_and]
      refine iff_of_false Bool.false_ne_true ?_
      exact fun h => hmapped ((take_of_quotient hz hnumber h).symm.trans hmapped')
    · simp only [if_neg hmapped, if_neg hmapped', Option.getD_none, hz, hnumber, decide_true, Bool.true_and,
        decide_eq_true_iff]
      rw [@maskBytes_eq_iff _ _ 15 hnumber hz]
      exact eq_comm

/-- The network of an IPv6 address, of either kind. -/
theorem quotient6 (ip : Vector UInt8 16) :
    ipMask ip.toList (cidrMask 121 16) = maskBytes ip.toList (lastSeven 15) ∧
      Quotient (parseCIDR6 ip 121).2 16 (getBE (maskBytes ip.toList (lastSeven 15))) := by
  have hip : ip.toList.length = 15 + 1 := Vector.length_toList
  obtain ⟨hnumber, hlen⟩ := getBE_maskBytes hip
  have hmask : ipMask ip.toList (cidrMask 121 16) = maskBytes ip.toList (lastSeven 15) := by
    have hlong : (lastSeven 15).length = 16 := by decide
    rw [cidrMask_121, ipMask]
    simp [hip, hlong]
  refine ⟨hmask, by decide, by omega, ?_, ?_⟩
  · have hlt := getBE_lt (maskBytes ip.toList (lastSeven 15))
    rw [hlen] at hlt
    exact hlt
  · intro z hz
    have hnet : (parseCIDR6 ip 121).2 = ⟨maskBytes ip.toList (lastSeven 15), lastSeven 15⟩ := by
      rw [← hmask, ← cidrMask_121]
      rfl
    rw [hnet]
    exact netContains6 hlen hz

/-! ## The loop over a network -/

/-- The loop ends, for any rounds that are enough; its body is executed for the 128 addresses that the network
    contains, each once, in the order of their numbers. -/
def Visits (parsed : Bytes × IPNet) : Prop :=
  ∃ addrs : List Bytes, addrs.length = 128 ∧ (∀ rounds, 128 < rounds → rangeAddrs parsed rounds = some addrs) ∧
    (∀ z, z ∈ addrs ↔ z.length = parsed.2.ip.length ∧ netContains parsed.2 z = true) ∧
    addrs.Pairwise fun x y => getBE x < getBE y

/-- The loop over the numbers with one quotient. -/
theorem Quotient.visits {ip : Bytes} {n : IPNet} {number : Bytes} (h : Quotient n number.length (getBE number))
    (hstart : ipMask ip n.mask = number) (hlen : n.ip.length = number.length) : Visits (ip, n) := by
  refine ⟨_, ?_, ?_, fun z => by rw [h.mem_addrs, hlen], h.pairwise_addrs⟩
  · rw [List.length_map, List.length_range']
  · intro rounds hrounds
    have hloop := h.rangeLoop_from (j := 0) rfl hrounds
    rw [Nat.add_zero, putBE_getBE] at hloop
    rw [rangeAddrs, hstart]
    exact hloop

/-- So the loop visits the network of an IPv4 address, -/
theorem visits4 (x : IPv4) : Visits (parseCIDR4 x 25) := by
  obtain ⟨hmask, hquotient⟩ := quotient4 x
  have hlen : (maskBytes x.bytes (lastSeven 3)).length = 4 := (@getBE_maskBytes x.bytes 3 rfl).2
  have hquotient' : Quotient (parseCIDR4 x 25).2 (maskBytes x.bytes (lastSeven 3)).length
      (getBE (maskBytes x.bytes (lastSeven 3))) := by
    rw [hlen]
    exact hquotient
  exact hquotient'.visits hmask (congrArg List.length hmask)

/-- and that of an IPv6 address. -/
theorem visits6 (ip : Vector UInt8 16) : Visits (parseCIDR6 ip 121) := by
  obtain ⟨hmask, hquotient⟩ := quotient6 ip
  have hlen : (maskBytes ip.toList (lastSeven 15)).length = 16 := (@getBE_maskBytes ip.toList 15 Vector.length_toList).2
  have hquotient' : Quotient (parseCIDR6 ip 121).2 (maskBytes ip.toList (lastSeven 15)).length
      (getBE (maskBytes ip.toList (lastSeven 15))) := by
    rw [hlen]
    exact hquotient
  exact hquotient'.visits hmask (congrArg List.length hmask)

/-- For every IPv4 address with `/25` and every IPv6 address with `/121`, the loop ends and goes over the 128
    addresses of the network, also where the address space ends behind them. -/
theorem rangeLoop_terminates :
    (∀ x : IPv4, Visits (parseCIDR4 x 25)) ∧ ∀ ip : Vector UInt8 16, Visits (parseCIDR6 ip 121) :=
  ⟨visits4, visits6⟩

/-! ## The loop in `HandleAccessControl` -/

/-- Where the two tests agree on the addresses of a network's length, so do the two loops. -/
theorem walkFrom_of_rangeLoop {n : IPNet} (hcontains : ∀ z, z.length = n.ip.length → n.contains z = netContains n z)
    {rounds : Nat} {ip : Bytes} (hip : ip.length = n.ip.length) {addrs : List Bytes}
    (h : rangeLoop n rounds ip = some addrs) : n.walkFrom rounds ip = addrs := by
  induction rounds generalizing ip addrs with
  | zero => cases h
  | succ rounds ih =>
    rw [rangeLoop] at h
    rw [IPNet.walkFrom, hcontains ip hip]
    split_ifs at h ⊢ with hin
    · obtain ⟨rest, hrest, rfl⟩ := Option.map_eq_some_iff.mp h
      rw [ih ((length_increment ip).trans hip) hrest]
    · exact Option.some.inj h

/-- The walk over a source's network, as `passRange` takes it, is the loop. -/
theorem walk_of_rangeLoop {ip : Bytes} {len rounds : Nat} (hip : ip.length = len + 1) {addrs : List Bytes}
    (hquotient : Quotient ⟨maskBytes ip (lastSeven len), lastSeven len⟩ (len + 1)
      (getBE (maskBytes ip (lastSeven len))))
    (h : rangeLoop ⟨maskBytes ip (lastSeven len), lastSeven len⟩ rounds (maskBytes ip (lastSeven len)) = some addrs) :
    IPNet.walk ⟨maskBytes ip (lastSeven len), lastSeven len⟩ rounds = addrs := by
  obtain ⟨hnumber, hlen⟩ := getBE_maskBytes hip
  have hstart : maskBytes (maskBytes ip (lastSeven len)) (lastSeven len) = maskBytes ip (lastSeven len) := by
    apply (maskBytes_eq_iff hlen hip).mpr
    omega
  have hcontains : ∀ z, z.length = (maskBytes ip (lastSeven len)).length →
      IPNet.contains ⟨maskBytes ip (lastSeven len), lastSeven len⟩ z =
        netContains ⟨maskBytes ip (lastSeven len), lastSeven len⟩ z := by
    intro z hz
    rw [Bool.eq_iff_iff, hquotient.contains_iff z (hz.trans hlen), IPNet.contains]
    simp only [hz, decide_true, Bool.true_and, decide_eq_true_iff]
    exact maskBytes_eq_iff (hz.trans hlen) hlen
  rw [IPNet.walk, hstart]
  exact walkFrom_of_rangeLoop hcontains rfl h

/-- Both kinds of networks. -/
theorem walk_rangeRounds (x : IPv4) (ip : Vector UInt8 16) :
    rangeAddrs (parseCIDR4 x 25) rangeRounds = some ((IPNet.of x.bytes 25).walk rangeRounds) ∧
      rangeAddrs (parseCIDR6 ip 121) rangeRounds = some ((IPNet.of ip.toList 121).walk rangeRounds) := by
  have hmany : 128 < rangeRounds := by decide
  constructor
  · obtain ⟨hmask, hquotient⟩ := quotient4 x
    obtain ⟨addrs, -, hloop, -⟩ := visits4 x
    have hrounds := hloop rangeRounds hmany
    have hnet : (parseCIDR4 x 25).2 = ⟨maskBytes x.bytes (lastSeven 3), lastSeven 3⟩ := by
      rw [← hmask, ← cidrMask_25]
      rfl
    have hof : IPNet.of x.bytes 25 = ⟨maskBytes x.bytes (lastSeven 3), lastSeven 3⟩ := by
      rw [← cidrMask_25]
      rfl
    have hstart : ipMask (parseCIDR4 x 25).1 (parseCIDR4 x 25).2.mask = maskBytes x.bytes (lastSeven 3) := hmask
    rw [hnet] at hquotient
    rw [rangeAddrs, hstart, hnet] at hrounds ⊢
    rw [hrounds, hof, walk_of_rangeLoop rfl hquotient hrounds]
  · obtain ⟨hmask, hquotient⟩ := quotient6 ip
    obtain ⟨addrs, -, hloop, -⟩ := visits6 ip
    have hrounds := hloop rangeRounds hmany
    have hip : ip.toList.length = 16 := Vector.length_toList
    have hnet : (parseCIDR6 ip 121).2 = ⟨maskBytes ip.toList (lastSeven 15), lastSeven 15⟩ := by
      rw [← hmask, ← cidrMask_121]
      rfl
    have hof : IPNet.of ip.toList 121 = ⟨maskBytes ip.toList (lastSeven 15), lastSeven 15⟩ := by
      rw [IPNet.of, hip, cidrMask_121]
    have hstart : ipMask (parseCIDR6 ip 121).1 (parseCIDR6 ip 121).2.mask = maskBytes ip.toList (lastSeven 15) :=
      hmask
    rw [hnet] at hquotient
    rw [rangeAddrs, hstart, hnet] at hrounds ⊢
    rw [hrounds, hof, walk_of_rangeLoop hip hquotient hrounds]

end OpenNHP.AC
