/-
  Counting what is in flight.

  The statements about the goroutines count tokens: a packet's owners, a caller's pending answers, the senders
  that hold a transaction.  A token sits in a job or in a transaction, so that a count is a sum over the bag of
  jobs and over the two lists of transactions.

  1. What each operation of the device does to such a sum is stated here once, for any weight (`weight_*`).
  2. What every step leaves of a transaction and of a connection is stated once, too: no transaction is taken off
     its list, and each goes on as itself (`LocalTransaction.Continues`, `locals_step`); no connection opens
     again (`conns_step`).
  3. What is queued for a parse has come from the device's peers or from a transaction that has got its answer
     (`toMsg_step`).
-/
import OpenNHP.Core.Routines
import OpenNHP.Lib.Tables
import Mathlib.Algebra.Order.BigOperators.Group.Multiset

namespace OpenNHP.Core.Routines

open OpenNHP.Core

variable {M : Type} {C : Crypto M}

/-! ## Sums over a list with one entry replaced -/

/-- A sum over a list when one entry is replaced, without a subtraction. -/
theorem sum_map_set {α : Type} {l : List α} {i : Nat} {a : α} (ha : l[i]? = some a) (f : α → Nat) (b : α) :
    ((l.set i b).map f).sum + f a = (l.map f).sum + f b := by
  induction l generalizing i with
  | nil => cases ha
  | cons x l ih =>
    cases i with
    | zero =>
      cases ha
      show f b + (l.map f).sum + f a = f a + (l.map f).sum + f b
      omega
    | succ i =>
      have hset := ih (i := i) ha
      show f x + ((l.set i b).map f).sum + f a = f x + (l.map f).sum + f b
      omega

/-- And when one is added. -/
theorem sum_map_append_singleton {α : Type} (l : List α) (f : α → Nat) (a : α) :
    ((l ++ [a]).map f).sum = (l.map f).sum + f a := by
  simp

/-! ## The weight of the jobs -/

open Classical in
/-- One for the job, zero for every other. -/
noncomputable def Job.indicator (job : Job C) : Job C → Nat := fun job' => if job' = job then 1 else 0

namespace State

/-- The sum of a weight over everything in flight. -/
def weight (f : Job C → Nat) (s : State C) : Nat := (s.jobs.map f).sum

variable {f g : Job C → Nat} {s : State C}

/-- One job is picked out. -/
theorem weight_of_jobs {job : Job C} {rest : Multiset (Job C)} (h : s.jobs = job ::ₘ rest)
    (f : Job C → Nat) : s.weight f = f job + (rest.map f).sum := by
  rw [weight, h, Multiset.map_cons, Multiset.sum_cons]

@[simp] theorem weight_start (d : Device C) (f : Job C → Nat) : (State.start d).weight f = 0 := rfl

@[simp] theorem weight_withJobs (rest : Multiset (Job C)) :
    (s.withJobs rest).weight f = (rest.map f).sum := rfl

@[simp] theorem weight_addJob (job : Job C) : (s.addJob job).weight f = f job + s.weight f := by
  rw [weight, addJob, Multiset.map_cons, Multiset.sum_cons, weight]

@[simp] theorem weight_allocate : s.allocate.weight f = s.weight f := rfl

@[simp] theorem weight_release (p : Nat) : (s.release p).weight f = s.weight f := rfl

@[simp] theorem weight_setLocal (i : Nat) (t : LocalTransaction C) :
    (s.setLocal i t).weight f = s.weight f := rfl

@[simp] theorem weight_setRemote (i : Nat) (t : RemoteTransaction C) :
    (s.setRemote i t).weight f = s.weight f := rfl

@[simp] theorem weight_setConn (c : Nat) (conn : Conn M) : (s.setConn c conn).weight f = s.weight f := rfl

@[simp] theorem weight_addLocalTransaction (t : LocalTransaction C) :
    (s.addLocalTransaction t).weight f = s.weight f := rfl

@[simp] theorem weight_deleteLocalTransaction (id : UInt64) :
    (s.deleteLocalTransaction id).weight f = s.weight f := rfl

@[simp] theorem weight_addRemoteTransaction (conn : Conn M) (t : RemoteTransaction C) :
    (s.addRemoteTransaction conn t).weight f = s.weight f := rfl

@[simp] theorem weight_complete (caller : Option Nat) (completion : Completion C) :
    (s.complete caller completion).weight f = s.weight f := rfl

@[simp] theorem weight_learn (c : Nat) (conn : Conn M) (r : Option (PacketParserData C)) :
    (s.learn c conn r).weight f = s.weight f := rfl

@[simp] theorem weight_callers (n : Nat) : weight f { s with callers := n } = s.weight f := rfl

@[simp] theorem weight_badSend (b : Bool) : weight f { s with badSend := b } = s.weight f := rfl

@[simp] theorem weight_sendMsgToPacket (m : OutMsg C) : (s.sendMsgToPacket m).weight f =
    (if s.jobs.countP (·.inMsgToPacketQueue) < sendQueueSize then f (.toPacket m) else 0) + s.weight f := by
  rw [weight, sendMsgToPacket]
  split
  · rw [Multiset.map_cons, Multiset.sum_cons, weight]
  · rw [Nat.zero_add, weight]

@[simp] theorem weight_recvPacketToMsg (pd : InPacket C) : (s.recvPacketToMsg pd).weight f =
    (if s.jobs.countP (·.inPacketToMsgQueue) < recvQueueSize then f (.toMsg pd) else 0) + s.weight f := by
  rw [weight, recvPacketToMsg]
  split
  · rw [Multiset.map_cons, Multiset.sum_cons, weight]
  · rw [Nat.zero_add, weight]

@[simp] theorem weight_wakeHandler (pd : InPacket C) : (s.wakeHandler pd).weight f =
    (if pd.decryptedMsgCh then f (.accessed pd.basePacket) else 0) + s.weight f := by
  rw [weight, wakeHandler]
  split
  · rw [Multiset.map_cons, Multiset.sum_cons, weight]
  · rw [Nat.zero_add, weight]

/-- A job is in flight while its indicator weighs something. -/
theorem mem_jobs_iff {job : Job C} : job ∈ s.jobs ↔ 0 < s.weight job.indicator := by
  rw [Nat.pos_iff_ne_zero, ne_eq, weight, Multiset.sum_eq_zero_iff]
  constructor
  · intro hmem hzero
    have hone := hzero _ (Multiset.mem_map_of_mem _ hmem)
    rw [Job.indicator, if_pos rfl] at hone
    cases hone
  · intro hne
    by_contra hmem
    refine hne fun n hn => ?_
    obtain ⟨job', hmem', rfl⟩ := Multiset.mem_map.mp hn
    rw [Job.indicator, if_neg]
    rintro rfl
    exact hmem hmem'

/-- A job behind `RecvPacketToMsg`. -/
theorem mem_jobs_recvPacketToMsg {job : Job C} {pd : InPacket C} (h : job ∈ (s.recvPacketToMsg pd).jobs) :
    job = .toMsg pd ∨ job ∈ s.jobs := by
  unfold recvPacketToMsg at h
  split at h
  · exact Multiset.mem_cons.mp h
  · exact .inr h

/-- A job behind `SendMsgToPacket`. -/
theorem mem_jobs_sendMsgToPacket {job : Job C} {m : OutMsg C} (h : job ∈ (s.sendMsgToPacket m).jobs) :
    job = .toPacket m ∨ job ∈ s.jobs := by
  unfold sendMsgToPacket at h
  split at h
  · exact Multiset.mem_cons.mp h
  · exact .inr h

/-- The message is queued or, with the queue full, dropped. -/
theorem sendMsgToPacket_cases (s : State C) (m : OutMsg C) :
    s.jobs.countP (·.inMsgToPacketQueue) < sendQueueSize ∧ s.sendMsgToPacket m = s.addJob (.toPacket m) ∨
      ¬ s.jobs.countP (·.inMsgToPacketQueue) < sendQueueSize ∧ s.sendMsgToPacket m = s := by
  by_cases hroom : s.jobs.countP (·.inMsgToPacketQueue) < sendQueueSize
  · exact .inl ⟨hroom, by rw [sendMsgToPacket, if_pos hroom, addJob]⟩
  · exact .inr ⟨hroom, by rw [sendMsgToPacket, if_neg hroom]⟩

/-- The same for a packet. -/
theorem recvPacketToMsg_cases (s : State C) (pd : InPacket C) :
    s.jobs.countP (·.inPacketToMsgQueue) < recvQueueSize ∧ s.recvPacketToMsg pd = s.addJob (.toMsg pd) ∨
      ¬ s.jobs.countP (·.inPacketToMsgQueue) < recvQueueSize ∧ s.recvPacketToMsg pd = s := by
  by_cases hroom : s.jobs.countP (·.inPacketToMsgQueue) < recvQueueSize
  · exact .inl ⟨hroom, by rw [recvPacketToMsg, if_pos hroom, addJob]⟩
  · exact .inr ⟨hroom, by rw [recvPacketToMsg, if_neg hroom]⟩

/-- What a caller has got behind a completion. -/
theorem mem_completions_complete {caller : Option Nat} {completion : Completion C}
    {x : Nat × Completion C} (h : x ∈ (s.complete caller completion).completions) :
    x ∈ s.completions ∨ caller = some x.1 ∧ completion = x.2 := by
  obtain hold | hnew := List.mem_append.mp h
  · exact .inl hold
  · rw [Option.mem_toList, Option.map_eq_some_iff] at hnew
    obtain ⟨r, hr, rfl⟩ := hnew
    exact .inr ⟨hr, rfl⟩

end State

/-! ## What a step leaves -/

/-- A transaction further on: what it was added with stays. -/
structure LocalTransaction.Continues (t t' : LocalTransaction C) : Prop where
  transactionId : t'.transactionId = t.transactionId
  connData : t'.connData = t.connData
  mad : t'.mad = t.mad
  basePacket : t'.basePacket = t.basePacket
  responseMsgCh : t'.responseMsgCh = t.responseMsgCh

/-- A step that leaves it alone. -/
theorem LocalTransaction.Continues.refl (t : LocalTransaction C) : t.Continues t :=
  ⟨rfl, rfl, rfl, rfl, rfl⟩

/-- One step after another. -/
theorem LocalTransaction.Continues.trans {t t' t'' : LocalTransaction C} (h : t.Continues t')
    (h' : t'.Continues t'') : t.Continues t'' :=
  ⟨h'.1.trans h.1, h'.2.trans h.2, h'.3.trans h.3, h'.4.trans h.4, h'.5.trans h.5⟩

section Steps

variable [DecidableEq M] {s s' : State C} {a : Act C}

/-- A step adds a transaction, takes one on, or leaves them alone. -/
theorem locals_step (h : Step s a s') :
    s'.locals = s.locals ∨
      (∃ t, s'.locals = s.locals ++ [t] ∧ t.phase = .added ∧ t.ending = none ∧
        t.connData < s.conns.length) ∨
      ∃ i t t', s.locals[i]? = some t ∧ s'.locals = s.locals.set i t' ∧ t.Continues t' := by
  cases h with
  | assembleRequest _ _ _ hconn =>
    exact .inr (.inl ⟨_, rfl, rfl, rfl, (List.getElem?_eq_some_iff.mp hconn).1⟩)
  | handPacket _ ht => exact .inr (.inr ⟨_, _, _, ht, rfl, rfl, rfl, rfl, rfl, rfl⟩)
  | start ht => exact .inr (.inr ⟨_, _, _, ht, rfl, rfl, rfl, rfl, rfl, rfl⟩)
  | handOnPacket ht => exact .inr (.inr ⟨_, _, _, ht, rfl, rfl, rfl, rfl, rfl, rfl⟩)
  | handOnExternal ht => exact .inr (.inr ⟨_, _, _, ht, rfl, rfl, rfl, rfl, rfl, rfl⟩)
  | stop ht => exact .inr (.inr ⟨_, _, _, ht, rfl, rfl, rfl, rfl, rfl, rfl⟩)
  | destroy ht => exact .inr (.inr ⟨_, _, _, ht, rfl, rfl, rfl, rfl, rfl, rfl⟩)
  | closeChannels ht => exact .inr (.inr ⟨_, _, _, ht, rfl, rfl, rfl, rfl, rfl, rfl⟩)
  | remove ht => exact .inr (.inr ⟨_, _, _, ht, rfl, rfl, rfl, rfl, rfl, rfl⟩)
  | notify ht => exact .inr (.inr ⟨_, _, _, ht, rfl, rfl, rfl, rfl, rfl, rfl⟩)
  | redirect _ ht => exact .inr (.inr ⟨_, _, _, ht, rfl, rfl, rfl, rfl, rfl, rfl⟩)
  | _ => exact .inl rfl

/-- No transaction is taken off the list. -/
theorem local_continues (h : Step s a s') {i : Nat} {t : LocalTransaction C} (ht : s.locals[i]? = some t) :
    ∃ t', s'.locals[i]? = some t' ∧ t.Continues t' := by
  obtain hsame | ⟨new, hadded, -, -, -⟩ | ⟨j, tj, tj', htj, hset, hcontinues⟩ := locals_step h
  · exact ⟨t, by rw [hsame, ht], .refl t⟩
  · refine ⟨t, ?_, .refl t⟩
    rw [hadded, List.getElem?_append_left (List.getElem?_eq_some_iff.mp ht).1, ht]
  · by_cases hij : j = i
    · subst hij
      rw [ht, Option.some.injEq] at htj
      subst htj
      exact ⟨tj', by rw [hset, List.getElem?_set_self (List.getElem?_eq_some_iff.mp ht).1], hcontinues⟩
    · exact ⟨t, by rw [hset, List.getElem?_set_ne hij, ht], .refl t⟩

/-- A step adds a connection, changes one, or leaves them alone; `StopSignal` is not opened again. -/
theorem conns_step (h : Step s a s') :
    s'.conns = s.conns ∨ (∃ data, s'.conns = s.conns ++ [Conn.new data]) ∨
      ∃ c conn conn', s.conns[c]? = some conn ∧ s'.conns = s.conns.set c conn' ∧
        (conn.stopSignal = true → conn'.stopSignal = true) := by
  cases h with
  | close hconn => exact .inr (.inr ⟨_, _, _, hconn, rfl, fun _ => rfl⟩)
  | flushed hconn => exact .inr (.inr ⟨_, _, _, hconn, rfl, id⟩)
  | parseFailed _ _ hconn => exact .inr (.inr ⟨_, _, _, hconn, rfl, id⟩)
  | parseAccess _ _ hconn => exact .inr (.inr ⟨_, _, _, hconn, rfl, id⟩)
  | parseResponse _ _ hconn => exact .inr (.inr ⟨_, _, _, hconn, rfl, id⟩)
  | parseOther _ _ hconn => exact .inr (.inr ⟨_, _, _, hconn, rfl, id⟩)
  | parseRequest _ _ hconn => exact .inr (.inr ⟨_, _, _, hconn, List.set_set _, id⟩)
  | removeRemote _ _ hconn => exact .inr (.inr ⟨_, _, _, hconn, rfl, id⟩)
  | connect => exact .inr (.inl ⟨_, rfl⟩)
  | _ => exact .inl rfl

/-- A closed `StopSignal` stays closed, -/
theorem stopSignal_step (h : Step s a s') {c : Nat} (hc : ∃ conn, s.conns[c]? = some conn ∧ conn.stopSignal = true) :
    ∃ conn, s'.conns[c]? = some conn ∧ conn.stopSignal = true := by
  obtain ⟨conn, hconn, hstop⟩ := hc
  obtain hsame | ⟨data, hadded⟩ | ⟨c', old, new, hold, hset, hkeep⟩ := conns_step h
  · exact ⟨conn, by rw [hsame, hconn], hstop⟩
  · refine ⟨conn, ?_, hstop⟩
    rw [hadded, List.getElem?_append_left (List.getElem?_eq_some_iff.mp hconn).1, hconn]
  · by_cases hcc : c' = c
    · subst hcc
      rw [hconn, Option.some.injEq] at hold
      subst hold
      exact ⟨new, by rw [hset, List.getElem?_set_self (List.getElem?_eq_some_iff.mp hconn).1], hkeep hstop⟩
    · exact ⟨conn, by rw [hset, List.getElem?_set_ne hcc, hconn], hstop⟩

/-- and so does the device's. -/
theorem stopped_step (h : Step s a s') (hs : s.stopped = true) : s'.stopped = true := by
  cases h with
  | stopDevice => rfl
  | _ => exact hs

/-- What `Run` makes of the packet it received. -/
structure InPacket.Answer (pd : InPacket C) (i : Nat) (t : LocalTransaction C) : Prop where
  prevAssemblerData : pd.prevAssemblerData = some (i, t.mad)
  feedbackMsgCh : pd.feedbackMsgCh = t.responseMsgCh
  decryptedMsgCh : pd.decryptedMsgCh = false
  connData : pd.connData = t.connData

/-- What is queued for a parse comes from the device's peers, or from a transaction that has got it. -/
theorem toMsg_step (h : Step s a s') {pd : InPacket C} (hmem : .toMsg pd ∈ s'.jobs) :
    .toMsg pd ∈ s.jobs ∨ (pd.prevAssemblerData = none ∧ pd.feedbackMsgCh = none) ∨
      ∃ i t, s.locals[i]? = some t ∧ pd.Answer i t ∧ ∃ p c, t.phase = .gotPacket p c pd.content := by
  cases h with
  | submit hjobs =>
    obtain heq | hrest := State.mem_jobs_recvPacketToMsg hmem
    · cases heq
      exact .inr (.inl ⟨rfl, rfl⟩)
    · rw [hjobs]
      exact .inl (Multiset.mem_cons_of_mem hrest)
  | takeGeneric hjobs =>
    obtain heq | hrest := State.mem_jobs_recvPacketToMsg hmem
    · cases heq
      exact .inr (.inl ⟨rfl, rfl⟩)
    · rw [hjobs]
      exact .inl (Multiset.mem_cons_of_mem hrest)
  | handOnPacket ht hphase =>
    obtain heq | hold := State.mem_jobs_recvPacketToMsg hmem
    · cases heq
      exact .inr (.inr ⟨_, _, ht, ⟨rfl, rfl, rfl, rfl⟩, _, _, hphase⟩)
    · exact .inl hold
  | _ =>
    refine .inl (State.mem_jobs_iff.mpr (lt_of_lt_of_le (State.mem_jobs_iff.mp hmem) ?_))
    first
    | exact le_rfl
    | simp [State.weight_of_jobs ‹s.jobs = _ ::ₘ _›, Job.indicator]
    | simp [Job.indicator]

end Steps

end OpenNHP.Core.Routines
