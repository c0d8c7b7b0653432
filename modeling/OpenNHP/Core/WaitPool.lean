/-
  The pool that makes its callers wait (`nhp/utils/waitpool.go`; `PacketBufferPool` in `nhp/core/packet.go`).

  THE PROGRAM.  `Get` tests and counts up under the lock, and waits on the condition when the pool is at its limit;
  `Put` counts down and signals without the lock.

  THE SPECIFICATION.  The count is within the limit, and no `Get` waits while there is room for it and nobody is
  about to wake one (`Sound`).

  WHERE IT FAILS.  A `Put` that does both between the test of a `Get` and its entry on the condition's list wakes
  nobody, and the `Get` waits although there is room (`signal_lost`).

  THE CRUX.  While a waiting `Get` can count, for every free place, on a `Put` that has yet to signal or on a `Get`
  that has been woken, none waits for nothing (`Served`, `waits_le`).  The invariant is arithmetic about how many
  callers are where, so each step moves one caller and the numbers follow (`number_move`).

  Callers are told apart by their index; each makes any number of calls.  The elements themselves are in a
  `sync.Pool`, which never makes anybody wait.
-/
import OpenNHP.Lib.Runs
import Mathlib.Data.List.Basic

namespace OpenNHP.Core.WaitPool

/-! ## Callers -/

/-- Where a caller is. -/
inductive Position
  | idle
  /-- in `Get`, before `Lock` -/
  | entering
  /-- with the lock, before the test; woken before, or not -/
  | testing (woken : Bool)
  /-- with the lock, in `Wait`, not yet on the condition's list -/
  | full
  /-- with the lock, about to count up -/
  | room (woken : Bool)
  /-- on the condition's list, without the lock -/
  | parked
  /-- off the list, before `Lock` in `Wait` -/
  | woken
  /-- in `Put`, before `Signal` -/
  | decremented
  deriving DecidableEq, Repr

namespace Position

/-- The caller holds the lock. -/
def hasLock : Position → Bool
  | testing _ | full | room _ => true
  | _ => false

/-- It has found room and not counted up yet. -/
def hasRoom : Position → Bool
  | room _ => true
  | _ => false

/-- Found no room, and will not look again by itself. -/
def waits : Position → Bool
  | full | parked => true
  | _ => false

/-- Woken, and has not counted up or found no room since. -/
def pending : Position → Bool
  | woken | testing true | room true => true
  | _ => false

end Position

/-- The count and where the callers are. -/
structure State where
  count : UInt32
  callers : List Position
  deriving DecidableEq, Repr

namespace State

/-- Nobody has called. -/
def start (callers : Nat) : State where
  count := 0
  callers := List.replicate callers .idle

/-- The caller `i` is somewhere else. -/
def move (s : State) (i : Nat) (position : Position) : State := { s with callers := s.callers.set i position }

/-- How many callers are at such positions. -/
def number (s : State) (at? : Position → Bool) : Nat := s.callers.countP at?

end State

/-! ## Steps -/

/-- What a caller does next. -/
inductive Act
  | get (i : Nat)
  | lock (i : Nat)
  | test (i : Nat)
  /-- Enqueue on the condition, and unlock. -/
  | park (i : Nat)
  /-- Count up, and unlock. -/
  | take (i : Nat)
  | decrement (i : Nat)
  /-- Wake one of those on the list, if there is any. -/
  | signal (i : Nat) (wakes : Option Nat)
  deriving DecidableEq, Repr

variable (max : UInt32)

/-- Without a limit, `Get` and `Put` neither count nor wait. -/
def step (s : State) : Act → Option State
  | .get i =>
    if s.callers[i]? = some .idle then some (if max = 0 then s else s.move i .entering) else none
  | .lock i =>
    if s.number Position.hasLock ≠ 0 then none
    else match s.callers[i]? with
      | some .entering => some (s.move i (.testing false))
      | some .woken => some (s.move i (.testing true))
      | _ => none
  | .test i =>
    match s.callers[i]? with
    | some (.testing woken) => some (s.move i (if max ≤ s.count then .full else .room woken))
    | _ => none
  | .park i => if s.callers[i]? = some .full then some (s.move i .parked) else none
  | .take i =>
    match s.callers[i]? with
    | some (.room _) => some { s.move i .idle with count := s.count + 1 }
    | _ => none
  | .decrement i =>
    if s.callers[i]? = some .idle then
      some (if max = 0 then s else { s.move i .decremented with count := s.count - 1 })
    else none
  | .signal i wakes =>
    if s.callers[i]? ≠ some .decremented then none
    else match wakes with
      | some j => if s.callers[j]? = some .parked then some ((s.move i .idle).move j .woken) else none
      | none => if s.number (· = .parked) = 0 then some (s.move i .idle) else none

/-! ## The property and the condition -/

/-- The count is within the limit; and where a `Get` is parked with no `Put` yet to signal and no woken `Get`
    pending, the pool is at its limit. -/
def Sound (s : State) : Prop :=
  s.count ≤ max ∧
    (0 < s.number (· = .parked) → s.number (· = .decremented) = 0 → s.number Position.pending = 0 → max ≤ s.count)

/-- A `Put` finds something counted.  When its signal finds nobody on the list while a `Get` is on the way there,
    the free places are no more than the other `Put`s yet to signal and the woken `Get`s together. -/
def Served (s : State) : Act → Prop
  | .decrement _ => max ≠ 0 → s.count ≠ 0
  | .signal _ none => 0 < s.number (· = .full) →
      max.toNat - s.count.toNat ≤ s.number (· = .decremented) - 1 + s.number Position.pending
  | _ => True

instance (s : State) : Decidable (Sound max s) := inferInstanceAs (Decidable (_ ∧ _))

instance (s : State) : (a : Act) → Decidable (Served max s a)
  | .decrement _ => inferInstanceAs (Decidable (_ → _))
  | .signal _ none => inferInstanceAs (Decidable (_ → _))
  | .signal _ (some _) | .get _ | .lock _ | .test _ | .park _ | .take _ => inferInstanceAs (Decidable True)

/-! ## What a step changes -/

variable {max} {s s' : State}

/-- A caller that moves leaves one number and adds to another. -/
theorem number_move {i : Nat} {p : Position} (h : s.callers[i]? = some p) (p' : Position)
    (at? : Position → Bool) : (s.move i p').number at? + (at? p).toNat = s.number at? + (at? p').toNat := by
  obtain ⟨hlt, rfl⟩ := List.getElem?_eq_some_iff.mp h
  show (s.callers.set i p').countP at? + _ = s.callers.countP at? + _
  have hle := List.boole_getElem_le_countP (p := at?) hlt
  rw [List.countP_set hlt]
  cases hp : at? s.callers[i] <;> cases hp' : at? p' <;> simp_all

/-- All that the invariant counts, before and behind a move. -/
theorem numbers_move {i : Nat} {p : Position} (h : s.callers[i]? = some p) (p' : Position) :
    (s.move i p').number Position.hasLock + p.hasLock.toNat = s.number Position.hasLock + p'.hasLock.toNat ∧
    (s.move i p').number Position.hasRoom + p.hasRoom.toNat = s.number Position.hasRoom + p'.hasRoom.toNat ∧
    (s.move i p').number Position.waits + p.waits.toNat = s.number Position.waits + p'.waits.toNat ∧
    (s.move i p').number Position.pending + p.pending.toNat = s.number Position.pending + p'.pending.toNat ∧
    (s.move i p').number (· = .decremented) + (decide (p = .decremented)).toNat =
      s.number (· = .decremented) + (decide (p' = .decremented)).toNat :=
  ⟨number_move h p' _, number_move h p' _, number_move h p' _, number_move h p' _, number_move h p' _⟩

/-- Fewer places, fewer callers. -/
theorem number_le_of_imp {at? at?' : Position → Bool} (h : ∀ p, at? p = true → at?' p = true) :
    s.number at? ≤ s.number at?' := List.countP_mono_left fun p _ => h p

/-- Who has found room holds the lock. -/
theorem hasRoom_le_hasLock : s.number Position.hasRoom ≤ s.number Position.hasLock := by
  apply number_le_of_imp
  intro p h
  cases p <;> first | rfl | cases h

/-- Those that wait are on the list or on the way there. -/
theorem waits_le : s.number Position.waits ≤ s.number (· = .parked) + s.number (· = .full) := by
  show s.callers.countP _ ≤ s.callers.countP _ + s.callers.countP _
  induction s.callers with
  | nil => exact Nat.le_refl 0
  | cons p callers ih =>
    rw [List.countP_cons, List.countP_cons, List.countP_cons]
    cases p <;> simp [Position.waits] <;> omega

/-! ## What every run keeps -/

/-- One caller has the lock; the count is within the limit, and below it for who is about to count up; for every
    free place that a waiting `Get` could have, a `Put` has yet to signal or a woken `Get` is pending. -/
structure Inv (max : UInt32) (s : State) : Prop where
  one : s.number Position.hasLock ≤ 1
  bounded : s.count.toNat ≤ max.toNat
  roomLeft : 0 < s.number Position.hasRoom → s.count.toNat < max.toNat
  served : 0 < s.number Position.waits →
    max.toNat - s.count.toNat ≤ s.number (· = .decremented) + s.number Position.pending

/-- The invariant says what is asked for. -/
theorem Inv.sound (h : Inv max s) : Sound max s := by
  refine ⟨UInt32.le_iff_toNat_le.mpr h.bounded, ?_⟩
  intro hparked hsignals hpending
  have hle : s.number (· = .parked) ≤ s.number Position.waits := by
    apply number_le_of_imp
    intro p hp
    rw [of_decide_eq_true hp]
    rfl
  have hserved := h.served (Nat.lt_of_lt_of_le hparked hle)
  rw [hsignals, hpending] at hserved
  exact UInt32.le_iff_toNat_le.mpr (Nat.le_of_sub_eq_zero (Nat.le_zero.mp hserved))

/-- It holds at the start. -/
theorem inv_start (callers : Nat) : Inv max (.start callers) := by
  have hnone : ∀ at? : Position → Bool, at? .idle = false → (State.start callers).number at? = 0 := by
    intro at? hidle
    apply List.countP_eq_zero.mpr
    intro p hp
    rw [List.eq_of_mem_replicate hp, hidle]
    exact Bool.false_ne_true
  constructor
  · rw [hnone _ rfl]
    exact Nat.zero_le 1
  · exact Nat.zero_le _
  · rw [hnone _ rfl]
    exact fun h => absurd h (Nat.lt_irrefl 0)
  · rw [hnone _ rfl]
    exact fun h => absurd h (Nat.lt_irrefl 0)

/-- A move that leaves the count alone.  It may find the pool at its limit; otherwise nobody starts to wait, and
    who was counted on still is. -/
theorem Inv.move (h : Inv max s) {i : Nat} {p p' : Position} (hp : s.callers[i]? = some p)
    (hlock : p'.hasLock = true → p.hasLock = true ∨ s.number Position.hasLock = 0)
    (hroom : p'.hasRoom = true → s.count.toNat < max.toNat)
    (hserved : max.toNat ≤ s.count.toNat ∨ (p'.waits = true → p.waits = true) ∧
      (p.pending = true → p'.pending = true) ∧ p ≠ .decremented) : Inv max (s.move i p') := by
  obtain ⟨h₁, h₂, h₃, h₄, h₅⟩ := numbers_move hp p'
  have hle : ∀ {b b' : Bool}, (b = true → b' = true) → b.toNat ≤ b'.toNat := by decide
  have hone : ∀ b : Bool, b.toNat ≤ 1 := by decide
  constructor
  · have h1 := h.one
    have h1' := hone p'.hasLock
    cases hb : p'.hasLock with
    | false =>
      rw [hb, Bool.toNat_false] at h₁
      omega
    | true =>
      rcases hlock hb with hhas | hnone
      · rw [hb, hhas] at h₁
        omega
      · omega
  · exact h.bounded
  · intro hpos
    cases hb : p'.hasRoom with
    | false =>
      rw [hb, Bool.toNat_false] at h₂
      exact h.roomLeft (by omega)
    | true => exact hroom hb
  · intro hpos
    show max.toNat - s.count.toNat ≤ _
    rcases hserved with hfull | ⟨hwaits, hpending, hput⟩
    · omega
    · have h3 := hle hwaits
      have h4 := hle hpending
      have hold := h.served (by omega)
      rw [decide_eq_false hput, Bool.toNat_false] at h₅
      omega

/-- Counting up leaves nobody else about to. -/
theorem Inv.take (h : Inv max s) {i : Nat} {woken : Bool} (hp : s.callers[i]? = some (.room woken)) :
    Inv max { s.move i .idle with count := s.count + 1 } := by
  obtain ⟨h₁, h₂, h₃, h₄, h₅⟩ := numbers_move hp .idle
  have hle : (s.move i .idle).number Position.hasRoom ≤ (s.move i .idle).number Position.hasLock :=
    hasRoom_le_hasLock
  have hlt : s.count.toNat < max.toNat := by
    apply h.roomLeft
    change _ + 1 = _ + 0 at h₂
    omega
  have hcount : (s.count + 1).toNat = s.count.toNat + 1 := by
    have hmax := max.toNat_lt
    rw [UInt32.toNat_add]
    exact Nat.mod_eq_of_lt (by rw [UInt32.toNat_one]; omega)
  have hone := h.one
  change _ + 1 = _ + 0 at h₁
  change _ + 0 = _ + 0 at h₃
  change _ + 0 = _ + 0 at h₅
  have hpending : (Position.room woken).pending.toNat ≤ 1 := by cases woken <;> decide
  constructor
  · show (s.move i .idle).number Position.hasLock ≤ 1
    omega
  · show (s.count + 1).toNat ≤ _
    omega
  · intro hpos
    change 0 < (s.move i .idle).number Position.hasRoom at hpos
    omega
  · intro hpos
    change 0 < (s.move i .idle).number Position.waits at hpos
    show max.toNat - (s.count + 1).toNat ≤
      (s.move i .idle).number (· = .decremented) + (s.move i .idle).number Position.pending
    have hold := h.served (by omega)
    change _ = _ + 0 at h₄
    omega

/-- Counting down frees a place, and adds a `Put` that has yet to signal. -/
theorem Inv.decrement (h : Inv max s) {i : Nat} (hp : s.callers[i]? = some .idle) (hcount : s.count ≠ 0) :
    Inv max { s.move i .decremented with count := s.count - 1 } := by
  obtain ⟨h₁, h₂, h₃, h₄, h₅⟩ := numbers_move hp .decremented
  change _ + 0 = _ + 0 at h₁
  change _ + 0 = _ + 0 at h₂
  change _ + 0 = _ + 0 at h₃
  change _ + 0 = _ + 0 at h₄
  change _ + 0 = _ + 1 at h₅
  have hpos : 0 < s.count.toNat := Nat.pos_of_ne_zero fun hzero => hcount (UInt32.toNat_inj.mp hzero)
  have hcount' : (s.count - 1).toNat = s.count.toNat - 1 :=
    UInt32.toNat_sub_of_le _ _ (UInt32.le_iff_toNat_le.mpr hpos)
  constructor
  · show (s.move i .decremented).number Position.hasLock ≤ 1
    have hone := h.one
    omega
  · show (s.count - 1).toNat ≤ _
    have hbounded := h.bounded
    omega
  · intro hroom
    change 0 < (s.move i .decremented).number Position.hasRoom at hroom
    show (s.count - 1).toNat < _
    have hlt := h.roomLeft (by omega)
    omega
  · intro hwaits
    change 0 < (s.move i .decremented).number Position.waits at hwaits
    show max.toNat - (s.count - 1).toNat ≤
      (s.move i .decremented).number (· = .decremented) + (s.move i .decremented).number Position.pending
    have hold := h.served (by omega)
    omega

/-- A signal hands its place on to a caller that it wakes. -/
theorem Inv.wake (h : Inv max s) {i j : Nat} (hp : s.callers[i]? = some .decremented)
    (hj : s.callers[j]? = some .parked) : Inv max ((s.move i .idle).move j .woken) := by
  have hne : i ≠ j := by
    rintro rfl
    rw [hp] at hj
    cases hj
  have hj' : (s.move i .idle).callers[j]? = some .parked := by
    rw [← hj]
    exact List.getElem?_set_ne hne
  obtain ⟨h₁, h₂, h₃, h₄, h₅⟩ := numbers_move hp .idle
  obtain ⟨h₁', h₂', h₃', h₄', h₅'⟩ := numbers_move hj' .woken
  change _ + 0 = _ + 0 at h₁ h₁' h₂ h₂' h₃ h₄ h₅'
  change _ + 1 = _ + 0 at h₃' h₅
  change _ + 0 = _ + 1 at h₄'
  constructor
  · have hone := h.one
    omega
  · exact h.bounded
  · intro hroom
    exact h.roomLeft (by omega)
  · intro hwaits
    have hold := h.served (by omega)
    show max.toNat - s.count.toNat ≤ _
    omega

/-- A signal that nobody gets, with nobody on the list. -/
theorem Inv.unheard (h : Inv max s) {i : Nat} (hp : s.callers[i]? = some .decremented)
    (hnone : s.number (· = .parked) = 0) (hserved : Served max s (.signal i none)) : Inv max (s.move i .idle) := by
  obtain ⟨h₁, h₂, h₃, h₄, h₅⟩ := numbers_move hp .idle
  change _ + 0 = _ + 0 at h₁ h₂ h₃ h₄
  change _ + 1 = _ + 0 at h₅
  constructor
  · have hone := h.one
    omega
  · exact h.bounded
  · intro hroom
    exact h.roomLeft (by omega)
  · intro hwaits
    have hle := waits_le (s := s)
    have hold := hserved (by omega)
    show max.toNat - s.count.toNat ≤ _
    omega

/-- Each step keeps it, one lemma for each kind. -/
theorem Inv.step (h : Inv max s) {a : Act} (hserved : Served max s a)
    (hstep : WaitPool.step max s a = some s') : Inv max s' := by
  have hno : ∀ {P : Prop}, false = true → P := fun hfalse => absurd hfalse Bool.false_ne_true
  -- `take`, `decrement` and the two ends of a signal change the count or who is parked; every other step is a
  -- caller that moves on.
  cases a with
  | get i =>
    simp only [WaitPool.step] at hstep
    split_ifs at hstep with hidle hzero
    · obtain rfl := Option.some.inj hstep
      exact h
    · obtain rfl := Option.some.inj hstep
      exact h.move hidle hno hno (.inr ⟨hno, hno, by decide⟩)
  | lock i =>
    simp only [WaitPool.step] at hstep
    split_ifs at hstep with hlocked
    split at hstep
    · rename_i hentering
      obtain rfl := Option.some.inj hstep
      exact h.move hentering (fun _ => .inr (not_not.mp hlocked)) hno (.inr ⟨hno, hno, by decide⟩)
    · rename_i hwoken
      obtain rfl := Option.some.inj hstep
      exact h.move hwoken (fun _ => .inr (not_not.mp hlocked)) hno (.inr ⟨hno, fun _ => rfl, by decide⟩)
    · cases hstep
  | test i =>
    simp only [WaitPool.step] at hstep
    split at hstep
    · rename_i woken htesting
      obtain rfl := Option.some.inj hstep
      split_ifs with hfull
      · exact h.move htesting (fun _ => .inl rfl) hno (.inl (UInt32.le_iff_toNat_le.mp hfull))
      · have hlt := mt UInt32.le_iff_toNat_le.mpr hfull
        refine h.move htesting (fun _ => .inl rfl) (fun _ => Nat.lt_of_not_le hlt) (.inr ⟨hno, ?_, ?_⟩)
        · cases woken <;> exact id
        · intro heq
          cases heq
    · cases hstep
  | park i =>
    simp only [WaitPool.step] at hstep
    split_ifs at hstep with hfull
    obtain rfl := Option.some.inj hstep
    exact h.move hfull hno hno (.inr ⟨fun _ => rfl, hno, by decide⟩)
  | take i =>
    simp only [WaitPool.step] at hstep
    split at hstep
    · rename_i woken hroom
      obtain rfl := Option.some.inj hstep
      exact h.take hroom
    · cases hstep
  | decrement i =>
    simp only [WaitPool.step] at hstep
    split_ifs at hstep with hidle hzero
    · obtain rfl := Option.some.inj hstep
      exact h
    · obtain rfl := Option.some.inj hstep
      exact h.decrement hidle (hserved hzero)
  | signal i wakes =>
    cases wakes with
    | some j =>
      simp only [WaitPool.step] at hstep
      split_ifs at hstep with hdecremented hparked
      obtain rfl := Option.some.inj hstep
      exact h.wake (not_not.mp hdecremented) hparked
    | none =>
      simp only [WaitPool.step] at hstep
      split_ifs at hstep with hdecremented hnone
      obtain rfl := Option.some.inj hstep
      exact h.unheard (not_not.mp hdecremented) hnone hserved

/-- In every state that any number of callers reach by steps that meet the condition, the count is within the
    limit, and nobody waits for nothing. -/
theorem waitPool_sound {callers : Nat} {acts : List Act}
    (hserved : Runs.Steps (step max) (Served max) (.start callers) acts) {s : State}
    (hrun : Runs.run (step max) (.start callers) acts = some s) : Sound max s :=
  (Runs.run_invariant_of (fun _ _ _ hC hI hstep => Inv.step hI hC hstep) hserved (inv_start callers) hrun).sound

/-- With a limit of one: a second `Get` waits, and is woken. -/
def handOver : List Act :=
  [.get 0, .lock 0, .test 0, .take 0, .get 1, .lock 1, .test 1, .park 1, .decrement 0, .signal 0 (some 1)]

/-- One caller hands the only element to the other. -/
theorem waitPool_handOver : ∃ s, Runs.run (step 1) (.start 2) handOver = some s ∧ Sound 1 s :=
  by
  have hserved : Runs.Steps (step 1) (Served 1) (.start 2) handOver := by decide +kernel
  exact ⟨_, rfl, waitPool_sound hserved rfl⟩

/-- The `Put` counts down and signals while the second `Get` is between its test and the list. -/
def lostSignal : List Act :=
  [.get 0, .lock 0, .test 0, .take 0, .get 1, .lock 1, .test 1, .decrement 0, .signal 0 none, .park 1]

/-- The second `Get` waits, and there is room. -/
theorem signal_lost : ∃ s, Runs.run (step 1) (.start 2) lostSignal = some s ∧ ¬Sound 1 s := by
  refine ⟨_, rfl, ?_⟩
  decide +kernel

end OpenNHP.Core.WaitPool
