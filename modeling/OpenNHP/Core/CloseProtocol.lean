/-
  The closing of a connection under every order of operations.

  THE PROGRAM.  `Close`, the two `Forward` calls, `SendBlockSignal` and `SetTimeout` run beside one another and
  beside the connection's routine (`OpenNHP.Core.Closing`).

  THE SPECIFICATION.  Nothing panics; every packet offered is held by a call, in a queue, delivered or released;
  and behind a flush none is left in a queue (`Sound`).

  THE CRUX.  A `Close` past its test has a rank that grows by one at every operation, and what the connection's
  fields hold is a function of that rank (`FlagsAt`).  So one number tells what the other calls may still meet
  (`Call.At`), as long as no second `Close` passes the test.

  WHERE IT FAILS.  That, a sender that is past its check when the flush ends, and a `SetTimeout` that meets the
  closed `SetTimeoutSignal` are what goes wrong, and all that does (`Guarded`).

  ASSEMBLY.  The invariant is `Inv`, with a lemma for each operation (`Inv.step`); packets are counted apart
  (`State.Accounted`).  For the other direction, each step that is not guarded leads to a state from which some
  order of steps ends in a panic (`Dangerous`, `Inv.dangerous`).  `close_protocol` has both.
-/
import Mathlib.Algebra.BigOperators.Group.Multiset.Basic
import Mathlib.Algebra.Order.BigOperators.Group.Multiset
import Mathlib.Algebra.Order.Group.Nat
import OpenNHP.Lib.Runs
import OpenNHP.Core.Closing

namespace OpenNHP.Core.Closing

section

variable {P : Type}

/-! ## Ranks -/

/-- How far a `Close` has come; a sender does not count. -/
def Call.rank : Call P → Nat
  | .close p => p.rank
  | .send _ _ => 0

/-- How far the connection's closing has come, when at most one `Close` is past its test. -/
def State.closing (s : State P) : Nat := (s.calls.map Call.rank).sum

/-- The ranks of all calls, one of them picked out. -/
theorem State.closing_of_calls {s : State P} {c : Call P} {rest : Multiset (Call P)}
    (h : s.calls = c ::ₘ rest) :
    s.closing = c.rank + (rest.map Call.rank).sum := by
  rw [closing, h, Multiset.map_cons, Multiset.sum_cons]

/-- What the fields hold when the closing has come to rank `r`. -/
structure State.FlagsAt (s : State P) (r : Nat) : Prop where
  stopClosed : s.stopClosed = decide (2 ≤ r)
  closed : s.closed = decide (3 ≤ r)
  chanClosed : ∀ c, s.chanClosed c = decide (5 + c.index ≤ r)
  field : ∀ c, s.field c = decide (r ≤ 8 + c.index)
  queue : 4 ≤ r → ∀ dir, s.queue dir = []

/-- A sender that is past its check of the closed flag. -/
def Call.PastCheck : Call P → Prop
  | .send k p => k.checks = true ∧ (p = .load ∨ ∃ chan, p = .send chan)
  | .close _ => False

/-- A `SetTimeout` at its send, with the channel. -/
def Call.Waits : Call P → Prop
  | .send (.setTimeout _) p => p = .send true
  | _ => False

/-- Where a call may be when the closing has come to rank `r`. -/
def Call.At (r : Nat) (call : Call P) : Prop :=
  (call.rank = 0 ∨ call.rank = r) ∧ (call.PastCheck → r ≤ 3) ∧
    ∀ k chan, call = .send k (.send chan) → if chan = true then r ≤ 4 + k.chan.index else 9 + k.chan.index ≤ r

/-- The invariant: fields and calls are what the rank says, and nothing has gone wrong. -/
structure Inv (s : State P) : Prop where
  flags : s.FlagsAt s.closing
  calls : ∀ call ∈ s.calls, call.At s.closing
  fault : s.fault = none

/-- A new connection: nobody calls. -/
theorem Inv.new (timeoutMs : Int) : Inv (State.new timeoutMs : State P) where
  flags := ⟨rfl, rfl, fun _ => (decide_eq_false (by simp [State.new, State.closing])).symm,
    fun _ => (decide_eq_true (Nat.zero_le _)).symm, fun _ _ => rfl⟩
  calls call hmem := absurd hmem (Multiset.notMem_zero call)
  fault := rfl

/-- The `Close` past its test is the only one, and its rank is that of the closing. -/
theorem Inv.closer {s : State P} (h : Inv s) {p : ClosePoint} {rest : Multiset (Call P)}
    (hcalls : s.calls = .close p ::ₘ rest) (hp : p.rank ≠ 0) :
    s.closing = p.rank ∧ ∀ call ∈ rest, call.rank = 0 := by
  have hsum := State.closing_of_calls hcalls
  have hrank : p.rank = s.closing := by
    obtain ⟨hzero | hrank, -⟩ := h.calls (.close p) (hcalls ▸ Multiset.mem_cons_self _ _)
    · exact absurd hzero hp
    · exact hrank
  have hrest : (rest.map Call.rank).sum = 0 := by
    change s.closing = p.rank + _ at hsum
    omega
  refine ⟨hrank.symm, fun call hmem => ?_⟩
  rw [Multiset.sum_eq_zero_iff] at hrest
  exact hrest _ (Multiset.mem_map_of_mem _ hmem)

/-- The next operation of the `Close` past its test leaves the other calls where they may be, unless the
    flush ends before a sender that is past its check, or `SetTimeoutSignal` is closed before one that
    waits. -/
theorem Call.At.succ {call : Call P} {r : Nat} (h : call.At r) (hrank : call.rank = 0)
    (hpast : r = 3 → ¬ call.PastCheck) (hwaits : r = 7 → ¬ call.Waits) (hr : r < 12) : call.At (r + 1) := by
  obtain ⟨-, hcheck, hsend⟩ := h
  refine ⟨.inl hrank, fun hpc => ?_, ?_⟩
  · have hle := hcheck hpc
    have hne : r ≠ 3 := fun hr => hpast hr hpc
    omega
  · rintro k chan rfl
    have hchan := hsend k chan rfl
    have hindex := k.chan.index_lt
    cases chan with
    | false => exact Nat.le_succ_of_le hchan
    | true =>
      change r + 1 ≤ 4 + k.chan.index
      change r ≤ 4 + k.chan.index at hchan
      cases k with
      | setTimeout ms =>
        have hne : r ≠ 7 := fun hr => hwaits hr rfl
        change r ≤ 7 at hchan
        show r + 1 ≤ 7
        omega
      | forward dir pkt | blockSignal =>
        have hle : r ≤ 3 := hcheck ⟨rfl, .inr ⟨_, rfl⟩⟩
        have hne : r ≠ 3 := fun hr => hpast hr ⟨rfl, .inr ⟨_, rfl⟩⟩
        omega

/-! ## The condition -/

/-- What the order of steps must respect, as a condition on the state before a step: a `Close` finds the
    flag clear only while no other is between its test and its store; the flush ends with no sender past its
    check; no `SetTimeout` waits when its channel is closed, or reads the field between that and the store
    of nil. -/
def Guarded (s : State P) : Event P → Prop
  | .test => s.closed = false → ∀ call ∈ s.calls, call ≠ .close .stop ∧ call ≠ .close .store
  | .flushed => ∀ call ∈ s.calls, ¬ call.PastCheck
  | .close .setTimeout => ∀ call ∈ s.calls, ¬ call.Waits
  | .load (.setTimeout _) => s.chanClosed .setTimeout = true → s.field .setTimeout = false
  | _ => True

/-! ## What a step keeps -/

section Steps

variable {cap : Nat} {s s' : State P}

/-- A call picked out is where it may be, and so are the others. -/
theorem Inv.callsOf {s : State P} (h : Inv s) {call : Call P} {rest : Multiset (Call P)}
    (hcalls : s.calls = call ::ₘ rest) : call.At s.closing ∧ ∀ c ∈ rest, c.At s.closing := by
  have hall := h.calls
  rw [hcalls] at hall
  exact ⟨hall _ (Multiset.mem_cons_self _ _), fun c hc => hall _ (Multiset.mem_cons_of_mem hc)⟩

/-- A step by a call without rank, that keeps the flags and takes the call where it may be. -/
theorem Inv.ofCall (h : Inv s) {call call' : Call P} {rest : Multiset (Call P)}
    (hcalls : s.calls = call ::ₘ rest) (hcalls' : s'.calls = call' ::ₘ rest) (hrank : call.rank = 0)
    (hrank' : call'.rank = 0) (hat : call'.At s.closing) (hflags : s'.FlagsAt s.closing)
    (hfault : s'.fault = none) : Inv s' := by
  have hclosing : s'.closing = s.closing := by
    rw [State.closing_of_calls hcalls, State.closing_of_calls hcalls', hrank, hrank']
  refine ⟨hclosing ▸ hflags, fun c hc => ?_, hfault⟩
  rw [hcalls', Multiset.mem_cons] at hc
  rw [hclosing]
  obtain rfl | hc := hc
  · exact hat
  · exact (h.callsOf hcalls).2 c hc

/-- A new call. -/
theorem Inv.ofNew (h : Inv s) {call : Call P} (hcalls' : s'.calls = call ::ₘ s.calls) (hrank : call.rank = 0)
    (hat : call.At s.closing) (hflags : s'.FlagsAt s.closing) (hfault : s'.fault = none) : Inv s' := by
  have hclosing : s'.closing = s.closing := by
    rw [State.closing_of_calls hcalls', hrank, Nat.zero_add]
    rfl
  refine ⟨hclosing ▸ hflags, fun c hc => ?_, hfault⟩
  rw [hcalls', Multiset.mem_cons] at hc
  rw [hclosing]
  obtain rfl | hc := hc
  · exact hat
  · exact h.calls c hc

/-- The next operation of the `Close` past its test. -/
theorem Inv.ofCloser (h : Inv s) {p p' : ClosePoint} {rest : Multiset (Call P)}
    (hcalls : s.calls = .close p ::ₘ rest) (hcalls' : s'.calls = .close p' ::ₘ rest)
    (hzero : ∀ call ∈ rest, call.rank = 0) (hp' : p'.rank = s.closing + 1)
    (hpast : s.closing = 3 → ∀ call ∈ s.calls, ¬ call.PastCheck)
    (hwaits : s.closing = 7 → ∀ call ∈ s.calls, ¬ call.Waits) (hlt : s.closing < 12)
    (hflags : s'.FlagsAt (s.closing + 1)) (hfault : s'.fault = none) : Inv s' := by
  have hsum : (rest.map Call.rank).sum = 0 := by
    rw [Multiset.sum_eq_zero_iff]
    rintro r hr
    obtain ⟨call, hmem, rfl⟩ := Multiset.mem_map.mp hr
    exact hzero call hmem
  have hclosing' : s'.closing = s.closing + 1 := by
    rw [State.closing_of_calls hcalls', hsum]
    exact hp'
  refine ⟨hclosing' ▸ hflags, fun c hc => ?_, hfault⟩
  rw [hcalls', Multiset.mem_cons] at hc
  rw [hclosing']
  obtain rfl | hc := hc
  · exact ⟨.inr hp', fun hpc => hpc.elim, nofun⟩
  · have hmem : c ∈ s.calls := hcalls ▸ Multiset.mem_cons_of_mem hc
    exact ((h.callsOf hcalls).2 c hc).succ (hzero c hc) (fun hr => hpast hr c hmem)
      (fun hr => hwaits hr c hmem) hlt

/-- Nothing but the rank matters to where a call without one may be, if it is at no send. -/
theorem Call.At.of_rank {call : Call P} {r : Nat} (hrank : call.rank = 0) (hpast : ¬ call.PastCheck)
    (hsend : ∀ k chan, call ≠ .send k (.send chan)) : call.At r :=
  ⟨.inl hrank, fun h => absurd h hpast, fun k chan h => absurd h (hsend k chan)⟩

/-- A `Close` at its test may meet anything. -/
theorem Call.at_close_test (r : Nat) : (Call.close .test : Call P).At r :=
  .of_rank rfl (fun h => h.elim) nofun

/-- A sender that is done meets nothing. -/
theorem Call.at_done (k : Sender P) (r : Nat) : (Call.send k .done).At r :=
  .of_rank rfl (fun h => h.2.elim nofun (fun ⟨_, h⟩ => nomatch h)) (fun _ _ h => nomatch h)

/-- A step that changes none of the fields. -/
theorem State.FlagsAt.of_eq {r : Nat} (h : s.FlagsAt r) (hstop : s'.stopClosed = s.stopClosed)
    (hclosed : s'.closed = s.closed) (hchan : s'.chanClosed = s.chanClosed) (hfield : s'.field = s.field)
    (hqueue : 4 ≤ r → ∀ dir, s.queue dir = [] → s'.queue dir = []) : s'.FlagsAt r where
  stopClosed := hstop.trans h.stopClosed
  closed := hclosed.trans h.closed
  chanClosed c := hchan ▸ h.chanClosed c
  field c := hfield ▸ h.field c
  queue hr dir := hqueue hr dir (h.queue hr dir)

/-- A step that touches no flag and no queue. -/
theorem State.FlagsAt.of_same {r : Nat} (h : s.FlagsAt r)
    (hsame : (s'.stopClosed, s'.closed, s'.chanClosed, s'.field, s'.queue) =
      (s.stopClosed, s.closed, s.chanClosed, s.field, s.queue)) : s'.FlagsAt r := by
  simp only [Prod.mk.injEq] at hsame
  obtain ⟨hstop, hclosed, hchan, hfield, hqueue⟩ := hsame
  exact h.of_eq hstop hclosed hchan hfield fun _ dir hq => hqueue ▸ hq

/-- How the fields change with the rank. -/
theorem State.FlagsAt.succ {r : Nat} (h : s.FlagsAt r)
    (hstop : s'.stopClosed = (s.stopClosed || decide (r = 1)))
    (hclosed : s'.closed = (s.closed || decide (r = 2)))
    (hchan : ∀ c, s'.chanClosed c = (s.chanClosed c || decide (r = 4 + c.index)))
    (hfield : ∀ c, s'.field c = (s.field c && decide (r ≠ 8 + c.index)))
    (hqueue : 3 ≤ r → ∀ dir, s'.queue dir = []) : s'.FlagsAt (r + 1) where
  stopClosed := by
    rw [hstop, h.stopClosed, ← Bool.decide_or]
    exact decide_eq_decide.mpr (by omega)
  closed := by
    rw [hclosed, h.closed, ← Bool.decide_or]
    exact decide_eq_decide.mpr (by omega)
  chanClosed c := by
    rw [hchan, h.chanClosed, ← Bool.decide_or]
    exact decide_eq_decide.mpr (by omega)
  field c := by
    rw [hfield, h.field, ← Bool.decide_and]
    exact decide_eq_decide.mpr (by omega)
  queue hr dir := hqueue (by omega) dir

/-- The field of another channel is closed or not as before. -/
theorem or_of_ne {r n : Nat} (h : r ≠ n) (b : Bool) : b = (b || decide (r = n)) := by
  rw [decide_eq_false h, Bool.or_false]

/-- And it is cleared or not as before. -/
theorem and_of_ne {r n : Nat} (h : r ≠ n) (b : Bool) : b = (b && decide (r ≠ n)) := by
  rw [decide_eq_true h, Bool.and_true]

/-- The routine's operations leave the flags alone. -/
theorem Inv.leave (h : Inv s) : Inv (s.leave s.calls) :=
  h.ofNew rfl rfl (Call.at_close_test _) (h.flags.of_same rfl) h.fault

/-- A step that changes no call. -/
theorem Inv.ofSame (h : Inv s) (hcalls : s'.calls = s.calls) (hflags : s'.FlagsAt s.closing)
    (hfault : s'.fault = none) : Inv s' := by
  have hclosing : s'.closing = s.closing := congrArg (fun calls => (calls.map Call.rank).sum) hcalls
  refine ⟨hclosing ▸ hflags, fun c hc => ?_, hfault⟩
  rw [hclosing]
  exact h.calls c (hcalls ▸ hc)

/-- The routine goes on. -/
theorem Inv.resume (h : Inv s) : Inv (s.resume s.calls) := by
  unfold State.resume
  split
  · exact h.leave
  · exact h.ofSame rfl (h.flags.of_same rfl) h.fault

/-- A sender is done, and nothing else has changed. -/
theorem Inv.done (h : Inv s) {k : Sender P} {p : SendPoint} {rest : Multiset (Call P)}
    (hcalls : s.calls = .send k p ::ₘ rest) : Inv { s with calls := .send k .done ::ₘ rest } :=
  h.ofCall hcalls rfl rfl rfl (Call.at_done k _) (h.flags.of_same rfl) h.fault

/-- A sender that has the channel finds it open. -/
theorem Inv.open_of_send (h : Inv s) {k : Sender P} {rest : Multiset (Call P)}
    (hcalls : s.calls = .send k (.send true) ::ₘ rest) : s.chanClosed k.chan = false := by
  have hle : s.closing ≤ 4 + k.chan.index := (h.callsOf hcalls).1.2.2 k true rfl
  rw [h.flags.chanClosed]
  exact decide_eq_false (by omega)

/-- What a sender finds in the field. -/
theorem Inv.at_load (h : Inv s) {k : Sender P} {rest : Multiset (Call P)} (hg : Guarded s (.load k))
    (hcalls : s.calls = .send k .load ::ₘ rest) : (Call.send k (.send (s.field k.chan))).At s.closing := by
  have hpast : k.checks = true → s.closing ≤ 3 := fun hk => (h.callsOf hcalls).1.2.1 ⟨hk, .inl rfl⟩
  refine ⟨.inl rfl, fun hpc => hpast hpc.1, ?_⟩
  rintro _ _ ⟨rfl, rfl⟩
  cases hfield : s.field k.chan with
  | false =>
    have hlt := of_decide_eq_false ((h.flags.field _).symm.trans hfield)
    show 9 + k.chan.index ≤ s.closing
    omega
  | true =>
    show s.closing ≤ 4 + k.chan.index
    cases k with
    | setTimeout ms =>
      have hopen : s.chanClosed .setTimeout ≠ true := by
        intro hclosed
        change s.field .setTimeout = true at hfield
        rw [hg hclosed] at hfield
        cases hfield
      rw [h.flags.chanClosed, ne_eq, decide_eq_true_iff] at hopen
      change ¬ 8 ≤ s.closing at hopen
      show s.closing ≤ 7
      omega
    | forward dir pkt | blockSignal =>
      exact (hpast rfl).trans (by omega)

/-- A `Close` that finds the flag clear is the first: behind the store the flag would be set, and the
    condition excludes one before it. -/
theorem Inv.closing_eq_zero (h : Inv s) (hg : Guarded s .test) (hclosed : s.closed = false) :
    s.closing = 0 ∧ ∀ call ∈ s.calls, call.rank = 0 := by
  have hlt : ¬ 3 ≤ s.closing := of_decide_eq_false (h.flags.closed ▸ hclosed)
  have hnone : ∀ call ∈ s.calls, call.rank = 0 := by
    intro call hmem
    rcases (h.calls call hmem).1 with hzero | hrank
    · exact hzero
    obtain ⟨hstop, hstore⟩ := hg hclosed call hmem
    rcases call with ⟨p⟩ | ⟨k, p⟩
    · cases p with
      | stop => exact absurd rfl hstop
      | store => exact absurd rfl hstore
      | test | returned => rfl
      | flush | wait =>
        change _ = s.closing at hrank
        simp only [Call.rank, ClosePoint.rank] at hrank
        omega
      | close c | clear c =>
        change _ + c.index = s.closing at hrank
        omega
    · rfl
  refine ⟨Multiset.sum_eq_zero_iff.mpr fun r hr => ?_, hnone⟩
  obtain ⟨call, hmem, rfl⟩ := Multiset.mem_map.mp hr
  exact hnone call hmem

/-- A `Close` finds the field of the channel it closes. -/
theorem Inv.field_of_close (h : Inv s) {c : Chan} {rest : Multiset (Call P)}
    (hcalls : s.calls = .close (.close c) ::ₘ rest) : s.field c = true := by
  have hrank : (ClosePoint.close c).rank = 4 + c.index := rfl
  rw [h.flags.field, (h.closer hcalls (by omega)).1]
  exact decide_eq_true (by omega)

/-- A step that respects the condition keeps the invariant. -/
theorem Inv.step {e : Event P} (h : Inv s) (hg : Guarded s e) (hop : Op cap s e s') : Inv s' := by
  cases hop with
  | callClose => exact h.ofNew rfl rfl (Call.at_close_test _) (h.flags.of_same rfl) h.fault
  | callSender k =>
    refine h.ofNew rfl rfl (.of_rank rfl (fun hpc => ?_) (fun _ _ heq => nomatch heq))
      (h.flags.of_same rfl) h.fault
    obtain ⟨-, hload | ⟨_, hsend⟩⟩ := hpc
    · cases hload
    · cases hsend
  | testClosed hcalls hclosed =>
    exact h.ofCall hcalls rfl rfl rfl (.of_rank rfl (fun hpc => hpc.elim) nofun)
      (h.flags.of_same rfl) h.fault
  | @testOpen rest hcalls hclosed =>
    -- The condition leaves no other call between the test and the store, so this one is the closer.
    obtain ⟨hclosing, hnone⟩ := h.closing_eq_zero hg hclosed
    have hzero : ∀ call ∈ rest, call.rank = 0 := fun call hmem =>
      hnone call (hcalls ▸ Multiset.mem_cons_of_mem hmem)
    refine h.ofCloser hcalls rfl hzero (by rw [hclosing]; rfl) (by omega) (by omega) (by omega) ?_ h.fault
    exact h.flags.succ (or_of_ne (by omega) _) (or_of_ne (by omega) _) (fun c => or_of_ne (by omega) _)
      (fun c => and_of_ne (by omega) _) (by omega)
  | closeStop hcalls hopen =>
    obtain ⟨hclosing, hzero⟩ := h.closer hcalls (by decide)
    change s.closing = 1 at hclosing
    refine h.ofCloser hcalls rfl hzero (by rw [hclosing]; rfl) (by omega) (by omega) (by omega) ?_ h.fault
    refine h.flags.succ ?_ (or_of_ne (by omega) _) (fun c => or_of_ne (by omega) _)
      (fun c => and_of_ne (by omega) _)
      (by omega)
    rw [decide_eq_true hclosing, Bool.or_true]
  -- The closer is at its first close, so the channel is still open.
  | closeStopTwice hcalls hclosed =>
    have hopen := h.flags.stopClosed
    rw [(h.closer hcalls nofun).1, hclosed] at hopen
    cases hopen
  | store hcalls =>
    obtain ⟨hclosing, hzero⟩ := h.closer hcalls (by decide)
    change s.closing = 2 at hclosing
    refine h.ofCloser hcalls rfl hzero (by rw [hclosing]; rfl) (by omega) (by omega) (by omega) ?_ h.fault
    refine h.flags.succ (or_of_ne (by omega) _) ?_ (fun c => or_of_ne (by omega) _)
      (fun c => and_of_ne (by omega) _)
      (by omega)
    rw [decide_eq_true hclosing, Bool.or_true]
  | flushPacket hcalls dir hfield hqueue =>
    obtain ⟨hclosing, -⟩ := h.closer hcalls (by decide)
    change s.closing = 3 at hclosing
    exact h.ofSame rfl (h.flags.of_eq rfl rfl rfl rfl (by omega)) h.fault
  | flushClosed => exact h
  -- By the condition no sender is past its check, so the queues that are empty now stay empty.
  | flushed hcalls hqueue hopen =>
    obtain ⟨hclosing, hzero⟩ := h.closer hcalls (by decide)
    change s.closing = 3 at hclosing
    refine h.ofCloser hcalls rfl hzero (by rw [hclosing]; rfl) (fun _ => hg) (by omega) (by omega) ?_ h.fault
    have hfield : ∀ c, s.field c = true := by
      intro c
      rw [h.flags.field, hclosing]
      exact decide_eq_true (by omega)
    exact h.flags.succ (or_of_ne (by omega) _) (or_of_ne (by omega) _) (fun c => or_of_ne (by omega) _)
      (fun c => and_of_ne (by omega) _) (fun _ dir => hqueue dir (hfield _))
  | @close rest c hcalls hfield hopen =>
    have hlt := c.index_lt
    have hrank : (ClosePoint.close c).rank = 4 + c.index := rfl
    obtain ⟨hclosing, hzero⟩ := h.closer hcalls (by omega)
    refine h.ofCloser hcalls rfl hzero (by rw [hclosing]; exact c.rank_afterClose) (by omega) (fun h7 => ?_)
      (by omega) ?_ h.fault
    · obtain rfl : c = .setTimeout := Chan.index_inj (by change c.index = 3; omega)
      exact hg
    · refine h.flags.succ (or_of_ne (by omega) _) (or_of_ne (by omega) _) (fun d => ?_)
        (fun d => and_of_ne (by omega) _) (fun _ => h.flags.queue (by omega))
      show Function.update s.chanClosed c true d = _
      by_cases hd : d = c
      · subst hd
        rw [Function.update_self, decide_eq_true (hclosing.trans hrank), Bool.or_true]
      · rw [Function.update_of_ne hd]
        exact or_of_ne (fun heq => hd (Chan.index_inj (by omega))) _
  -- The counter is still below this channel, so it has not been closed before.
  | @closeTwice rest c hcalls hfield hclosed =>
    have hrank : (ClosePoint.close c).rank = 4 + c.index := rfl
    rw [h.flags.chanClosed, (h.closer hcalls (by omega)).1, decide_eq_true_iff] at hclosed
    omega
  | closeNil hcalls hfield =>
    rw [h.field_of_close hcalls] at hfield
    cases hfield
  | @clear rest c hcalls =>
    have hlt := c.index_lt
    have hrank : (ClosePoint.clear c).rank = 8 + c.index := rfl
    obtain ⟨hclosing, hzero⟩ := h.closer hcalls (by omega)
    refine h.ofCloser hcalls rfl hzero (by rw [hclosing]; exact c.rank_afterClear) (by omega) (by omega)
      (by omega) ?_
      h.fault
    refine h.flags.succ (or_of_ne (by omega) _) (or_of_ne (by omega) _)
      (fun d => or_of_ne (by have := d.index_lt; omega) _) (fun d => ?_) (fun _ => h.flags.queue (by omega))
    show Function.update s.field c false d = _
    by_cases hd : d = c
    · subst hd
      rw [Function.update_self, decide_eq_false (not_not.mpr (hclosing.trans hrank)), Bool.and_false]
    · rw [Function.update_of_ne hd]
      exact and_of_ne (fun heq => hd (Chan.index_inj (by omega))) _
  | checkClosed hcalls hk hclosed =>
    exact h.ofCall hcalls rfl rfl rfl (Call.at_done _ _) (h.flags.of_same rfl) h.fault
  | checkOpen hcalls hk hclosed =>
    have hlt : ¬ 3 ≤ s.closing := of_decide_eq_false (h.flags.closed ▸ hclosed)
    exact h.ofCall hcalls rfl rfl rfl ⟨.inl rfl, fun _ => by omega, fun _ _ heq => nomatch heq⟩
      (h.flags.of_same rfl) h.fault
  | storeTimeout hcalls =>
    exact h.ofCall hcalls rfl rfl rfl (.of_rank rfl (fun hpc => nomatch hpc.1) (fun _ _ heq => nomatch heq))
      (h.flags.of_same rfl) h.fault
  | load hcalls =>
    exact h.ofCall hcalls rfl rfl rfl (h.at_load hg hcalls) (h.flags.of_same rfl) h.fault
  | push hcalls hopen hroom =>
    have hle : s.closing ≤ 3 := (h.callsOf hcalls).1.2.1 ⟨rfl, .inr ⟨_, rfl⟩⟩
    exact h.ofCall hcalls rfl rfl rfl (Call.at_done _ _) (h.flags.of_eq rfl rfl rfl rfl (by omega)) h.fault
  | stopped hcalls hstop =>
    exact h.ofCall hcalls rfl rfl rfl (Call.at_done _ _) (h.flags.of_same rfl) h.fault
  | block hcalls hopen hroutine hchan => exact (h.done hcalls).leave
  | unheard hcalls hopen => exact h.done hcalls
  | setTimeout hcalls hopen hroutine hchan => exact (h.done hcalls).resume
  -- A call that is about to send holds the closer before the close of its channel.
  | sendClosed hcalls hclosed =>
    exact absurd hclosed (by rw [h.open_of_send hcalls]; exact Bool.false_ne_true)
  | look hroutine => exact h.ofSame rfl (h.flags.of_same rfl) h.fault
  | @receive chans dir pkt pkts hroutine hchan hqueue =>
    refine h.ofSame rfl (h.flags.of_eq rfl rfl rfl rfl fun hr _ _ => ?_) h.fault
    rw [h.flags.queue hr dir] at hqueue
    cases hqueue
  | receiveEnd hroutine hchan hqueue hclosed => exact h.leave
  | receiveBlock hroutine hchan hclosed => exact h.leave
  | receiveTimeout hroutine hchan hclosed => exact h.resume
  | leave hroutine => exact h.leave

/-! ## Packets -/

/-- The packets that calls still hold. -/
def State.held (s : State P) : Multiset P := (s.calls.map Call.packet).sum

/-- The packets in the two queues. -/
def State.queued (s : State P) : Multiset P := s.queue .outbound + s.queue .inbound

/-- Every packet offered is in one place. -/
def State.Accounted (s : State P) : Prop := s.offered = s.held + s.queued + s.delivered + s.released

/-- What the calls hold, one of them picked out. -/
theorem State.held_of_calls {call : Call P} {rest : Multiset (Call P)} (h : s.calls = call ::ₘ rest) :
    s.held = call.packet + (rest.map Call.packet).sum := by
  rw [held, h, Multiset.map_cons, Multiset.sum_cons]

/-- A packet is taken from a queue, -/
theorem State.queued_of_cons {dir : Direction} {pkt : P} {pkts : List P} (h : s.queue dir = pkt :: pkts)
    (h' : s'.queue = Function.update s.queue dir pkts) : s.queued = pkt ::ₘ s'.queued := by
  rw [queued, queued, h']
  cases dir with
  | outbound =>
    rw [h, Function.update_self, Function.update_of_ne (by decide), ← Multiset.cons_coe, Multiset.cons_add]
  | inbound =>
    rw [h, Function.update_self, Function.update_of_ne (by decide), ← Multiset.cons_coe, Multiset.add_cons]

/-- or put into one. -/
theorem State.queued_push {dir : Direction} {pkt : P}
    (h' : s'.queue = Function.update s.queue dir (s.queue dir ++ [pkt])) : s'.queued = pkt ::ₘ s.queued := by
  have happend : ((s.queue dir ++ [pkt] : List P) : Multiset P) = pkt ::ₘ s.queue dir := by
    rw [← Multiset.coe_add, Multiset.coe_singleton, ← Multiset.singleton_add, add_comm]
  rw [queued, queued, h']
  cases dir with
  | outbound => rw [Function.update_self, Function.update_of_ne (by decide), happend, Multiset.cons_add]
  | inbound => rw [Function.update_self, Function.update_of_ne (by decide), happend, Multiset.add_cons]

/-- A step that moves no packet. -/
theorem State.Accounted.ofSame (h : s.Accounted) (hoffered : s'.offered = s.offered)
    (hheld : s'.held = s.held) (hqueue : s'.queue = s.queue) (hdelivered : s'.delivered = s.delivered)
    (hreleased : s'.released = s.released) :
    s'.Accounted := by
  rw [Accounted, hoffered, hheld, hdelivered, hreleased, queued, hqueue]
  exact h

/-- A call that goes on with its packet. -/
theorem State.held_cons {s s' : State P} {call call' : Call P} {rest : Multiset (Call P)}
    (h : s.calls = call ::ₘ rest) (h' : s'.calls = call' ::ₘ rest) (hpacket : call'.packet = call.packet) :
    s'.held = s.held := by
  rw [held_of_calls h, held_of_calls h', hpacket]

/-- A packet leaves the call that held it. -/
theorem State.Accounted.ofDone (h : s.Accounted) {k : Sender P} {p : SendPoint} {rest : Multiset (Call P)}
    (hcalls : s.calls = .send k p ::ₘ rest) (hp : p ≠ .done) (hcalls' : s'.calls = .send k .done ::ₘ rest)
    (hoffered : s'.offered = s.offered)
    (hto : s'.queued + s'.delivered + s'.released = k.packet + (s.queued + s.delivered + s.released)) :
    s'.Accounted := by
  have hheld : s.held = k.packet + s'.held := by
    rw [State.held_of_calls hcalls, State.held_of_calls hcalls', Call.packet, Call.packet, if_neg hp,
      if_pos rfl,
      zero_add]
  calc s'.offered = s.held + s.queued + s.delivered + s.released := hoffered.trans h
    _ = s'.held + (k.packet + (s.queued + s.delivered + s.released)) := by
      rw [hheld]
      simp only [add_assoc, add_left_comm]
    _ = s'.held + s'.queued + s'.delivered + s'.released := by
      rw [← hto]
      simp only [add_assoc]

/-- A packet leaves a queue. -/
theorem State.Accounted.ofDequeued (h : s.Accounted) {dir : Direction} {pkt : P} {pkts : List P}
    (hqueue : s.queue dir = pkt :: pkts) (hqueue' : s'.queue = Function.update s.queue dir pkts)
    (hcalls : s'.calls = s.calls) (hoffered : s'.offered = s.offered)
    (hto : s'.delivered + s'.released = pkt ::ₘ (s.delivered + s.released)) : s'.Accounted := by
  have hheld : s'.held = s.held := congrArg (fun calls => (calls.map Call.packet).sum) hcalls
  calc s'.offered = s.held + s.queued + s.delivered + s.released := hoffered.trans h
    _ = s.held + s'.queued + pkt ::ₘ (s.delivered + s.released) := by
      rw [State.queued_of_cons hqueue hqueue', Multiset.add_cons, Multiset.add_cons, Multiset.cons_add,
        Multiset.cons_add]
      simp only [add_assoc]
    _ = s'.held + s'.queued + s'.delivered + s'.released := by
      rw [← hto, hheld]
      simp only [add_assoc]

/-- A `Close` holds no packet. -/
theorem State.held_new {s s' : State P} {call : Call P} (h' : s'.calls = call ::ₘ s.calls)
    (hpacket : call.packet = 0) :
    s'.held = s.held := by
  rw [held_of_calls h', hpacket, zero_add]
  rfl

/-- When the routine leaves no packet is lost, -/
theorem State.Accounted.leave (h : s.Accounted) : (s.leave s.calls).Accounted :=
  h.ofSame rfl (State.held_new rfl rfl) rfl rfl rfl

/-- nor when it goes on. -/
theorem State.Accounted.resume (h : s.Accounted) : (s.resume s.calls).Accounted := by
  unfold State.resume
  split
  · exact h.leave
  · exact h.ofSame rfl rfl rfl rfl rfl

/-- No step loses or doubles a packet. -/
theorem State.Accounted.step {e : Event P} (h : s.Accounted) (hop : Op cap s e s') : s'.Accounted := by
  cases hop with
  | callClose => exact h.ofSame rfl (State.held_new rfl rfl) rfl rfl rfl
  | callSender k =>
    rw [Accounted, State.held_of_calls rfl]
    show k.packet + s.offered = (k.packet + s.held) + s.queued + s.delivered + s.released
    rw [h]
    simp only [add_assoc]
  | testClosed hcalls | testOpen hcalls | closeStop hcalls | store hcalls | flushed hcalls | close hcalls
  | clear hcalls => exact h.ofSame rfl (State.held_cons hcalls rfl rfl) rfl rfl rfl
  | closeStopTwice | closeTwice | closeNil | sendClosed | flushClosed | look =>
    exact h.ofSame rfl rfl rfl rfl rfl
  | flushPacket hcalls dir hfield hqueue =>
    exact h.ofDequeued hqueue rfl rfl rfl (Multiset.add_cons _ _ _)
  | checkClosed hcalls =>
    refine h.ofDone hcalls (by decide) rfl rfl ?_
    exact add_left_comm _ _ _
  | checkOpen hcalls | storeTimeout hcalls | load hcalls =>
    exact h.ofSame rfl (State.held_cons hcalls rfl rfl) rfl rfl rfl
  | push hcalls =>
    refine h.ofDone hcalls (by decide) rfl rfl ?_
    rw [State.queued_push rfl, Multiset.cons_add, Multiset.cons_add]
    exact (Multiset.singleton_add _ _).symm
  | stopped hcalls =>
    refine h.ofDone hcalls nofun rfl rfl ?_
    exact (Multiset.add_cons _ _ _).trans (Multiset.singleton_add _ _).symm
  | block hcalls =>
    have hdone : State.Accounted { s with calls := .send .blockSignal .done ::ₘ _ } :=
      h.ofSame rfl (State.held_cons hcalls rfl rfl) rfl rfl rfl
    exact hdone.leave
  | unheard hcalls => exact h.ofSame rfl (State.held_cons hcalls rfl rfl) rfl rfl rfl
  | @setTimeout rest ms chans hcalls =>
    have hdone : State.Accounted { s with calls := .send (.setTimeout ms) .done ::ₘ _ } :=
      h.ofSame rfl (State.held_cons hcalls rfl rfl) rfl rfl rfl
    exact hdone.resume
  | receive hroutine hchan hqueue => exact h.ofDequeued hqueue rfl rfl rfl (Multiset.cons_add _ _ _)
  | receiveEnd | receiveBlock | leave => exact h.leave
  | receiveTimeout => exact h.resume

/-! ## The protocol -/

/-- A `Close` behind its flush. -/
def Call.Flushed : Call P → Prop
  | .close p => 4 ≤ p.rank
  | .send _ _ => False

/-- Nothing has panicked; every packet offered is held by a call, in a queue, delivered or released; and
    behind a flush none is left in a queue. -/
structure Sound (s : State P) : Prop where
  fault : s.fault = none
  accounted : s.Accounted
  flushed : (∃ call ∈ s.calls, call.Flushed) → s.queued = 0

/-- With the invariant and the packets accounted for nothing has gone wrong. -/
theorem Inv.sound (h : Inv s) (hacc : s.Accounted) : Sound s := by
  refine ⟨h.fault, hacc, ?_⟩
  rintro ⟨call, hmem, hflushed⟩
  have hle : 4 ≤ s.closing := by
    cases call with
    | send k p => exact hflushed.elim
    | close p =>
      change 4 ≤ p.rank at hflushed
      rcases (h.calls _ hmem).1 with hzero | hrank
      · change p.rank = 0 at hzero
        omega
      · exact hrank ▸ hflushed
  rw [State.queued, h.flags.queue hle, h.flags.queue hle]
  rfl

/-- When a `Close` is behind its flush and the senders have returned, every packet has been delivered or
    released once. -/
theorem Sound.settled (h : Sound s) (hflushed : ∃ call ∈ s.calls, call.Flushed)
    (hdone : ∀ k p, .send k p ∈ s.calls → p = .done) : s.offered = s.delivered + s.released := by
  have hheld : s.held = 0 := by
    refine Multiset.sum_eq_zero fun m hm => ?_
    obtain ⟨call, hmem, rfl⟩ := Multiset.mem_map.mp hm
    cases call with
    | close p => rfl
    | send k p => exact if_pos (hdone k p hmem)
  rw [h.accounted, hheld, h.flushed hflushed, zero_add, zero_add]

/-- Reachable by steps that respect the condition. -/
def Reachable (cap : Nat) (timeoutMs : Int) : State P → Prop :=
  Runs.Reaches (Step cap) Guarded (State.new timeoutMs)

/-- A guarded step of a reachable state. -/
theorem Reachable.step {timeoutMs : Int} {e : Event P} (h : Reachable cap timeoutMs s)
    (hfault : s.fault = none) (hop : Op cap s e s') (hg : Guarded s e) : Reachable cap timeoutMs s' :=
  Runs.Reaches.step h hg ⟨hfault, hop⟩

/-- Every reachable state has both. -/
theorem Reachable.inv {timeoutMs : Int} (h : Reachable cap timeoutMs s) : Inv s ∧ s.Accounted := by
  refine Runs.Reaches.invariant (I := fun s => Inv s ∧ s.Accounted) (fun t e u hC hI hstep => ?_) h
    ⟨Inv.new timeoutMs, rfl⟩
  exact ⟨hI.1.step hC hstep.2, hI.2.step hstep.2⟩

/-! ## What a step against the condition leads to -/

/-- Some order of steps from here closes a closed channel or sends on one. -/
def Dangerous (cap : Nat) (s : State P) : Prop :=
  ∃ t, Runs.Reaches (Step cap) (fun _ _ => True) s t ∧
    (t.fault = some .closeOfClosed ∨ t.fault = some .sendOnClosed)

/-- What is dangerous behind a step was so before it. -/
theorem Dangerous.step {e : Event P} (hstep : Step cap s e s') (h : Dangerous cap s') : Dangerous cap s := by
  obtain ⟨t, hreach, hfault⟩ := h
  exact ⟨t, .head trivial hstep hreach, hfault⟩

/-- A sender with a closed channel. -/
theorem dangerous_of_send {k : Sender P} {rest : Multiset (Call P)} (hfault : s.fault = none)
    (hcalls : s.calls = .send k (.send true) ::ₘ rest)
    (hclosed : s.chanClosed k.chan = true) : Dangerous cap s :=
  ⟨_, .step .refl trivial ⟨hfault, .sendClosed hcalls hclosed⟩, .inr rfl⟩

/-- A `Close` before its second close of `StopSignal`. -/
theorem dangerous_of_stop {rest : Multiset (Call P)} (hfault : s.fault = none)
    (hcalls : s.calls = .close .stop ::ₘ rest) (hclosed : s.stopClosed = true) : Dangerous cap s :=
  ⟨_, .step .refl trivial ⟨hfault, .closeStopTwice hcalls hclosed⟩, .inl rfl⟩

/-- A `Close` closes the channel that a sender has. -/
theorem dangerous_of_close {c : Chan} {k : Sender P} {rest : Multiset (Call P)} (hfault : s.fault = none)
    (hcalls : s.calls = .close (.close c) ::ₘ .send k (.send true) ::ₘ rest) (hfield : s.field c = true)
    (hk : k.chan = c) : Dangerous cap s := by
  subst hk
  cases hclosed : s.chanClosed k.chan with
  | true => exact dangerous_of_send hfault (hcalls.trans (Multiset.cons_swap _ _ _)) hclosed
  | false =>
    refine .step ⟨hfault, .close hcalls hfield hclosed⟩ ?_
    exact dangerous_of_send hfault (Multiset.cons_swap _ _ _) (Function.update_self _ _ _)

/-- A `Close` behind its flush, and a sender with its channel. -/
theorem dangerous_of_flushed {k : Sender P} {rest : Multiset (Call P)} (hfault : s.fault = none)
    (hcalls : s.calls = .close (.close .send) ::ₘ .send k (.send true) ::ₘ rest) (hk : k.checks = true)
    (hopen : ∀ c, s.chanClosed c = false) (hfield : ∀ c, s.field c = true) : Dangerous cap s := by
  cases k with
  | setTimeout ms => cases hk
  | forward dir pkt =>
    cases dir with
    | outbound => exact dangerous_of_close hfault hcalls (hfield _) rfl
    | inbound =>
      refine .step ⟨hfault, .close hcalls (hfield _) (hopen _)⟩ ?_
      exact dangerous_of_close hfault rfl (hfield _) rfl
  | blockSignal =>
    refine .step ⟨hfault, .close hcalls (hfield _) (hopen _)⟩ ?_
    refine .step ⟨hfault, .close rfl (hfield _) (hopen _)⟩ ?_
    exact dangerous_of_close hfault rfl (hfield _) rfl

/-- A second `Close` passes the test. -/
theorem Inv.dangerous_test (h : Inv s) {rest : Multiset (Call P)} (hcalls : s.calls = .close .test ::ₘ rest)
    (hfault : s'.fault = none) (hcalls' : s'.calls = .close .stop ::ₘ rest)
    (hstop' : s'.stopClosed = s.stopClosed)
    {call : Call P} (hmem : call ∈ s.calls) (hcall : call = .close .stop ∨ call = .close .store) :
    Dangerous cap s' := by
  have hrest : call ∈ rest := by
    rw [hcalls, Multiset.mem_cons] at hmem
    refine hmem.resolve_left ?_
    rintro rfl
    rcases hcall with hcall | hcall <;> cases hcall
  obtain ⟨rest', rfl⟩ := Multiset.exists_cons_of_mem hrest
  cases hstop : s'.stopClosed with
  | true => exact dangerous_of_stop hfault hcalls' hstop
  | false =>
    rcases hcall with rfl | rfl
    · refine .step ⟨hfault, .closeStop hcalls' hstop⟩ ?_
      exact dangerous_of_stop hfault (Multiset.cons_swap _ _ _) rfl
    · -- the other has closed `StopSignal`
      have hclosing := (h.closer (hcalls.trans (Multiset.cons_swap _ _ _)) (by decide)).1
      rw [hstop', h.flags.stopClosed, hclosing] at hstop
      cases hstop

/-- The flush ends before a sender that is past its check. -/
theorem Inv.dangerous_flushed (h : Inv s) {rest : Multiset (Call P)}
    (hcalls : s.calls = .close .flush ::ₘ rest)
    {call : Call P} (hmem : call ∈ s.calls) (hpast : call.PastCheck) :
    Dangerous cap { s with calls := .close (.close .send) ::ₘ rest } := by
  have hclosing : s.closing = 3 := (h.closer hcalls (by decide)).1
  have hopen : ∀ c, s.chanClosed c = false := by
    intro c
    rw [h.flags.chanClosed, hclosing]
    exact decide_eq_false (by omega)
  have hfield : ∀ c, s.field c = true := by
    intro c
    rw [h.flags.field, hclosing]
    exact decide_eq_true (by omega)
  cases call with
  | close p => exact hpast.elim
  | send k p =>
    have hrest : .send k p ∈ rest := by
      rw [hcalls, Multiset.mem_cons] at hmem
      exact hmem.resolve_left nofun
    have hat := h.calls _ hmem
    obtain ⟨rest', rfl⟩ := Multiset.exists_cons_of_mem hrest
    obtain ⟨hk, rfl | ⟨chan, rfl⟩⟩ := hpast
    · refine .step ⟨h.fault, .load (Multiset.cons_swap _ _ _)⟩ ?_
      have hcalls' : Call.send k (.send (s.field k.chan)) ::ₘ .close (.close .send) ::ₘ rest' =
          .close (.close .send) ::ₘ .send k (.send true) ::ₘ rest' := by
        rw [hfield]
        exact Multiset.cons_swap _ _ _
      exact dangerous_of_flushed h.fault hcalls' hk hopen hfield
    · cases chan with
      | true => exact dangerous_of_flushed h.fault rfl hk hopen hfield
      | false =>
        -- the field was not nil yet
        have hle : 9 + k.chan.index ≤ s.closing := hat.2.2 k false rfl
        omega

/-- `SetTimeoutSignal` is closed before a `SetTimeout` that waits. -/
theorem dangerous_of_waits {p p' : ClosePoint} {rest : Multiset (Call P)} (hfault : s'.fault = none)
    (hcalls : s.calls = .close p ::ₘ rest) (hcalls' : s'.calls = .close p' ::ₘ rest)
    (hclosed : s'.chanClosed .setTimeout = true) {call : Call P} (hmem : call ∈ s.calls)
    (hwaits : call.Waits) :
    Dangerous cap s' := by
  cases call with
  | close p => exact hwaits.elim
  | send k p =>
    cases k with
    | forward dir pkt | blockSignal => exact hwaits.elim
    | setTimeout ms =>
      cases (show p = .send true from hwaits)
      rw [hcalls, Multiset.mem_cons] at hmem
      obtain ⟨rest', rfl⟩ := Multiset.exists_cons_of_mem (hmem.resolve_left nofun)
      exact dangerous_of_send hfault (hcalls'.trans (Multiset.cons_swap _ _ _)) hclosed

/-- A step against the condition can end in a panic. -/
theorem Inv.dangerous {e : Event P} (h : Inv s) (hop : Op cap s e s')
    (hg : ¬ Guarded s e) : Dangerous cap s' := by
  -- Only four kinds of step have a condition; what breaks it is a call that can panic.
  cases hop with
  | testClosed hcalls hclosed => exact absurd (fun hopen => by rw [hclosed] at hopen; cases hopen) hg
  | testOpen hcalls hclosed =>
    obtain ⟨call, hmem, hcall⟩ : ∃ call ∈ s.calls, call = .close .stop ∨ call = .close .store := by
      by_contra hnone
      refine hg fun _ call hmem => ?_
      constructor
      · exact fun hstop => hnone ⟨call, hmem, .inl hstop⟩
      · exact fun hstore => hnone ⟨call, hmem, .inr hstore⟩
    exact h.dangerous_test hcalls h.fault rfl rfl hmem hcall
  | flushed hcalls =>
    obtain ⟨call, hmem, hpast⟩ : ∃ call ∈ s.calls, call.PastCheck := by
      by_contra hnone
      exact hg fun call hmem hpast => hnone ⟨call, hmem, hpast⟩
    exact h.dangerous_flushed hcalls hmem hpast
  | @close rest c hcalls hfield hopen =>
    cases c with
    | setTimeout =>
      obtain ⟨call, hmem, hwaits⟩ : ∃ call ∈ s.calls, call.Waits := by
        by_contra hnone
        exact hg fun call hmem hwaits => hnone ⟨call, hmem, hwaits⟩
      have hclosed : Function.update s.chanClosed .setTimeout true .setTimeout = true :=
        Function.update_self _ _ _
      exact dangerous_of_waits h.fault hcalls rfl hclosed hmem hwaits
    | send | recv | block => exact absurd trivial hg
  | closeTwice => exact ⟨_, .refl, .inl rfl⟩
  | closeNil hcalls hfield =>
    rw [h.field_of_close hcalls] at hfield
    cases hfield
  | @load rest k hcalls =>
    cases k with
    | setTimeout ms =>
      obtain ⟨hclosed, hfield⟩ := Classical.not_imp.mp hg
      rw [Bool.not_eq_false] at hfield
      have hcalls' : Call.send (.setTimeout ms) (.send (s.field .setTimeout)) ::ₘ rest =
          .send (.setTimeout ms) (.send true) ::ₘ rest := by rw [hfield]
      exact dangerous_of_send h.fault hcalls' hclosed
    | forward dir pkt | blockSignal => exact absurd trivial hg
  | _ => exact absurd trivial hg

/-- **The close protocol.** In a run whose steps respect the condition nothing panics and every packet is
    accounted for; and from a step of such a run against the condition, some order of steps ends in a panic. -/
theorem close_protocol {timeoutMs : Int} (h : Reachable cap timeoutMs s) :
    Sound s ∧ ∀ e s', Step cap s e s' → ¬ Guarded s e → Dangerous cap s' :=
  ⟨h.inv.1.sound h.inv.2, fun _ _ hstep hg => h.inv.1.dangerous hstep.2 hg⟩

end Steps

end

/-- A packet is in the queue and two calls of `Close` have come, the second past its test. -/
def twoCloses : State Nat :=
  { State.new 300000 with
    queue := Function.update (fun _ => []) .outbound [7]
    calls := .close .stop ::ₘ .close .test ::ₘ .send (.forward .outbound 7) .done ::ₘ 0
    offered := {7} }

/-- Two calls of `Close`, the second of which finds the connection closed. -/
theorem reachable_twoCloses : Reachable 256 300000 twoCloses := by
  have hnew : Reachable 256 300000 (State.new 300000 : State Nat) := .refl
  have hcalled := hnew.step rfl (.callSender (.forward .outbound 7)) trivial
  have hchecked := hcalled.step rfl (@Op.checkOpen _ _ _ 0 (.forward .outbound 7) rfl rfl rfl) trivial
  have hloaded := hchecked.step rfl (@Op.load _ _ _ 0 (.forward .outbound 7) rfl) trivial
  have hpushed := hloaded.step rfl (@Op.push _ _ _ 0 .outbound 7 rfl rfl (by decide)) trivial
  have hfirst := hpushed.step rfl .callClose trivial
  have hsecond := hfirst.step rfl .callClose trivial
  refine hsecond.step rfl (@Op.testOpen _ _ _ _ rfl rfl) fun _ call hmem => ?_
  simp only [Multiset.mem_cons] at hmem
  rcases hmem with rfl | rfl | rfl | hnone
  · exact ⟨nofun, nofun⟩
  · exact ⟨nofun, nofun⟩
  · exact ⟨nofun, nofun⟩
  · exact absurd hnone (Multiset.notMem_zero _)

/-- Up to there all is well; the other test is a step against the condition. -/
theorem close_protocol_sample :
    Sound twoCloses ∧ ∃ s', Step 256 twoCloses .test s' ∧ Dangerous 256 s' := by
  obtain ⟨hsound, hdanger⟩ := close_protocol reachable_twoCloses
  have hcalls : twoCloses.calls = .close .test ::ₘ .close .stop ::ₘ {.send (.forward .outbound 7) .done} := by
    show Call.close .stop ::ₘ .close .test ::ₘ {.send (.forward .outbound 7) .done} = _
    exact Multiset.cons_swap _ _ _
  have hmem : .close .stop ∈ twoCloses.calls := by
    rw [hcalls]
    exact Multiset.mem_cons_of_mem (Multiset.mem_cons_self _ _)
  have hstep : Step 256 twoCloses .test _ := ⟨rfl, .testOpen hcalls rfl⟩
  refine ⟨hsound, _, hstep, hdanger _ _ hstep fun hg => ?_⟩
  exact (hg rfl _ hmem).1 rfl

/-- Two calls of `Close` that both pass the test, of the connection routine and of `serverDiscovery`: the
    second closes `StopSignal` again. -/
theorem close_twice_panics : ¬ ∀ s : State Nat,
    Runs.Reaches (Step 256) (fun _ _ => True) (State.new 300000) s → Sound s := by
  intro hall
  have hdanger : Dangerous 256 (State.new 300000 : State Nat) := by
    refine .step ⟨rfl, .callClose⟩ (.step ⟨rfl, .callClose⟩ ?_)
    refine .step ⟨rfl, @Op.testOpen _ _ _ {.close .test} rfl rfl⟩ ?_
    refine .step ⟨rfl, .testOpen (Multiset.cons_swap (Call.close .stop) (Call.close .test) 0) rfl⟩ ?_
    refine .step ⟨rfl, @Op.closeStop _ _ _ {.close .stop} rfl rfl⟩ ?_
    exact dangerous_of_stop rfl (Multiset.cons_swap (Call.close .store) (Call.close .stop) 0) rfl
  obtain ⟨s, hreach, hfault⟩ := hdanger
  rw [(hall s hreach).fault] at hfault
  rcases hfault with hfault | hfault <;> cases hfault

end OpenNHP.Core.Closing
