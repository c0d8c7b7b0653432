/-
  Packet buffers (`nhp/core/device.go`, `pool.go` and those who release packets).

  THE PROGRAM.  A packet's pool buffer passes from hand to hand: a receive routine, a queue, a worker, a
  transaction.  `ReleasePoolPacket` puts it back, leaves a packet without a buffer alone, and is called from many
  places, by whoever is thought to be the last.

  THE SPECIFICATION.  Whoever works on a packet has its buffer, each buffer is put back once, and the count of the
  pool is that of the buffers in use (`buffers_accounted`).

  THE CRUX.  Who has a packet is written down as holdings, and a step as a transfer of holdings (`transfer_step`),
  so that what every interleaving keeps is arithmetic about a handful of transfers.  A packet with `KeepAfterSend`
  is the hard case: it is held by its transaction and on its way to the socket at one time, and which of the two
  is done first decides (`Holding`).

  WHERE IT FAILS.  The buffers are accounted for as long as `RecvPacketToMsg` never finds its queue full, nothing
  is put into the queues of a connection that has been flushed, no two goroutines are inside `ReleasePoolPacket`
  with one packet, and a transaction with `KeepAfterSend` does not end before its packet is sent (`Accounts`).
  Where it does, the buffer goes back to the pool and is sent from afterwards (`sent_after_release`).

  ASSEMBLY.  `transfer_step`, for each kind of transfer what it does to the holders of a packet
  (`Transfer.holders`) and whether the pool stays exact (`PoolExact.effect`), and the run (`kept_step`).
-/
import OpenNHP.Core.InFlight

namespace OpenNHP.Core.Routines

open OpenNHP.Core
open Tables (getElem?_set_cases getElem?_append_cases)

variable {M : Type} {C : Crypto M}

/-! ## Holdings -/

/-- A way to have to do with a packet. -/
inductive Holding
  /-- its holder alone has it, and gives it back -/
  | own
  /-- it is on its way out, with `KeepAfterSend` -/
  | send
  /-- a local transaction sent it -/
  | base
  /-- a local transaction sent it and has not destroyed it -/
  | live
  /-- a worker has made a remote transaction from it and is about to destroy it -/
  | parsed
  /-- a remote transaction was made from it -/
  | remote
  /-- a temporary access handler has got its message and is about to release it -/
  | accessed
  deriving DecidableEq, Repr

/-- What a job holds.  A message on its way to the socket holds its packet itself, or for its transaction if
    `keep` says so. -/
def Job.holdings : Job C → List (Holding × Nat)
  | .reading p | .inbound _ p _ | .dispatching _ p _ _ | .exported p => [(.own, p)]
  | .toMsg pd => [(.own, pd.basePacket)]
  | .outgoing _ p keep | .outbound _ p keep | .sending _ p keep => [(if keep then .send else .own, p)]
  | .parsed p => [(.parsed, p)]
  | .accessed p => [(.accessed, p)]
  | _ => []

/-- The transaction's `Destroy` has not run. -/
def LocalPhase.undestroyed : LocalPhase C → Bool
  | .added | .waiting | .gotPacket _ _ _ | .gotExternal _ | .ended => true
  | _ => false

/-- A transaction that has got an answer holds the answer's packet until it hands it on. -/
def LocalPhase.holdings : LocalPhase C → List (Holding × Nat)
  | .gotPacket p _ _ => [(.own, p)]
  | _ => []

/-- And its own packet: it has it (`base`), and is the one to release it (`live`) until it has. -/
def LocalTransaction.holdings (t : LocalTransaction C) : List (Holding × Nat) :=
  (.base, t.basePacket) :: ((if t.phase.undestroyed then [(.live, t.basePacket)] else []) ++ t.phase.holdings)

/-- A remote transaction refers to the packet of its request, which the worker releases. -/
def RemoteTransaction.holdings (t : RemoteTransaction C) : List (Holding × Nat) := [(.remote, t.basePacket)]

/-- How often a packet is held in one way. -/
def State.holding (s : State C) (h : Holding × Nat) : Nat :=
  s.weight (fun job => job.holdings.count h) + (s.locals.map fun t => t.holdings.count h).sum +
    (s.remotes.map fun t => t.holdings.count h).sum

/-! ## The pool -/

/-- What belongs to the pool. -/
def State.pool (s : State C) : UInt32 × List PoolBuf × List Nat := (s.count, s.packets, s.puts)

/-- What a step does to the pool. -/
inductive PoolEffect
  | none
  | allocate
  /-- allocated and released again -/
  | abort
  | free (p : Nat)
  | clear (p : Nat)

/-- What is done to the pool. -/
def PoolEffect.on (s : State C) : PoolEffect → State C
  | .none => s
  | .allocate => s.allocate
  | .abort => s.allocate.release s.packets.length
  | .free p => s.release p
  | .clear p => { s with packets := s.packets.set p .cleared }

/-! ## Transfers -/

/-- The device's queue takes a packet, and a worker will take it from there. -/
def State.accepts (s : State C) : Prop :=
  s.jobs.countP (·.inPacketToMsgQueue) < recvQueueSize ∧ s.running = true

/-- No goroutine is inside `ReleasePoolPacket` with the packet. -/
def State.undisturbed (s : State C) (p : Nat) : Prop := s.packets[p]? ≠ some .returned

/-- The buffers stay accounted for over the step: no packet is put into a full queue or into one that nobody
    reads any more, no packet is released twice at once, and a packet that is on its way out is not destroyed
    by its transaction. -/
def Accounts (s : State C) : Act C → Prop
  | .submit _ _ _ _ => s.accepts
  | .takeInbound _ _ pkt _ => packetType pkt ≠ .kpl →
      (isTransactionResponse s.device.deviceType (packetType pkt) = true →
        s.findLocalTransaction pkt.common.counter = none) → s.accepts
  | .handOn i _ => ∀ t p c pkt, s.locals[i]? = some t → t.phase = .gotPacket p c pkt → s.accepts
  | .quit => ∀ pd, .toMsg pd ∉ s.jobs
  | .deliver _ c _ | .forward c _ _ => ∀ conn, s.conns[c]? = some conn → conn.flushed = false
  | .forwardStopped _ p | .flush _ p | .releaseParsed p | .leaveHandler p => s.undisturbed p
  | .destroy i => ∀ t, s.locals[i]? = some t → s.undisturbed t.basePacket ∧
      s.holding (.send, t.basePacket) = 0
  | .destroyRemote i => ∀ t, s.remotes[i]? = some t → s.undisturbed t.basePacket
  | _ => True

/-- What a step takes from the holders of packets and gives to others. -/
inductive Transfer (s : State C) : PoolEffect → List (Holding × Nat) → List (Holding × Nat) → Prop
  | idle : Transfer s .none [] []
  | allocate (hpool : s.count < packetBufferPoolSize) : Transfer s .allocate [] [(.own, s.packets.length)]
  | request (hpool : s.count < packetBufferPoolSize) : Transfer s .allocate []
      [(.send, s.packets.length), (.base, s.packets.length), (.live, s.packets.length)]
  | abort (hpool : s.count < packetBufferPoolSize) : Transfer s .abort [] []
  | free (p : Nat) : Transfer s (.free p) [(.own, p)] []
  | sent (p : Nat) : Transfer s .none [(.send, p)] []
  | drop (p : Nat) (h : s.undisturbed p) : Transfer s (.free p) [(.send, p)] []
  | destroy (p : Nat) (h : s.undisturbed p) (hsend : s.holding (.send, p) = 0) :
    Transfer s (.free p) [(.live, p)] []
  | decrypted (p : Nat) : Transfer s (.free p) [(.own, p)] [(.accessed, p)]
  | parsed (p : Nat) : Transfer s .none [(.own, p)] [(.parsed, p), (.remote, p)]
  | releaseParsed (p : Nat) (h : s.undisturbed p) : Transfer s (.free p) [(.parsed, p)] []
  | leaveHandler (p : Nat) (h : s.undisturbed p) : Transfer s (.free p) [(.accessed, p)] []
  | destroyRemote (p : Nat) (h : s.undisturbed p) (hremote : 0 < s.holding (.remote, p)) :
    Transfer s (.free p) [] []
  | clear (p : Nat) (h : s.packets[p]? = some .returned) : Transfer s (.clear p) [] []

/-- The step is a transfer. -/
def Transfers (s s' : State C) : Prop :=
  ∃ e takes gives, Transfer s e takes gives ∧ s'.pool = (e.on s).pool ∧
    ∀ h, s'.holding h + takes.count h = s.holding h + gives.count h

section Transfers

variable {s s' : State C} {e : PoolEffect} {takes gives : List (Holding × Nat)}

/-- A step that takes on no transaction. -/
theorem Transfers.of_jobs (ht : Transfer s e takes gives) (hpool : s'.pool = (e.on s).pool)
    (hlocals : s'.locals = s.locals) (hremotes : s'.remotes = s.remotes)
    (hjobs : ∀ h, s'.weight (fun job => job.holdings.count h) + takes.count h =
      s.weight (fun job => job.holdings.count h) + gives.count h) : Transfers s s' := by
  refine ⟨e, takes, gives, ht, hpool, fun h => ?_⟩
  have hsum := hjobs h
  rw [State.holding, State.holding, hlocals, hremotes]
  omega

/-- A step that takes a local transaction on. -/
theorem Transfers.of_setLocal {i : Nat} {t t' : LocalTransaction C} (ht : Transfer s e takes gives)
    (hpool : s'.pool = (e.on s).pool) (hi : s.locals[i]? = some t) (hlocals : s'.locals = s.locals.set i t')
    (hremotes : s'.remotes = s.remotes)
    (hsum : ∀ h, s'.weight (fun job => job.holdings.count h) + t'.holdings.count h + takes.count h =
      s.weight (fun job => job.holdings.count h) + t.holdings.count h + gives.count h) : Transfers s s' := by
  refine ⟨e, takes, gives, ht, hpool, fun h => ?_⟩
  have hset := sum_map_set hi (fun t => t.holdings.count h) t'
  have hsum := hsum h
  rw [State.holding, State.holding, hlocals, hremotes]
  omega

/-- A step that takes a remote transaction on. -/
theorem Transfers.of_setRemote {i : Nat} {t t' : RemoteTransaction C} (ht : Transfer s e takes gives)
    (hpool : s'.pool = (e.on s).pool) (hi : s.remotes[i]? = some t) (hremotes : s'.remotes = s.remotes.set i t')
    (hpacket : t'.basePacket = t.basePacket) (hlocals : s'.locals = s.locals)
    (hsum : ∀ h, s'.weight (fun job => job.holdings.count h) + takes.count h =
      s.weight (fun job => job.holdings.count h) + gives.count h) : Transfers s s' := by
  refine ⟨e, takes, gives, ht, hpool, fun h => ?_⟩
  have hset := sum_map_set hi (fun t => t.holdings.count h) t'
  have hsame : t'.holdings.count h = t.holdings.count h := by
    rw [RemoteTransaction.holdings, RemoteTransaction.holdings, hpacket]
  have hsum := hsum h
  rw [State.holding, State.holding, hlocals, hremotes]
  omega

/-- The queue takes what the routine behind a job puts into it. -/
theorem State.accepts.recvPacketToMsg {job : Job C} {rest : Multiset (Job C)} (h : s.accepts)
    (hjobs : s.jobs = job ::ₘ rest) (pd : InPacket C) :
    (s.withJobs rest).recvPacketToMsg pd = (s.withJobs rest).addJob (.toMsg pd) := by
  obtain ⟨-, hqueued⟩ | ⟨hfull, -⟩ := State.recvPacketToMsg_cases (s.withJobs rest) pd
  · exact hqueued
  · refine absurd (lt_of_le_of_lt ?_ h.1) hfull
    rw [hjobs]
    exact Multiset.countP_le_of_le _ (Multiset.le_cons_self rest job)

/-- A remote transaction counts among the holdings. -/
theorem State.remote_held {i : Nat} {t : RemoteTransaction C} (ht : s.remotes[i]? = some t) :
    0 < s.holding (.remote, t.basePacket) := by
  have hone : t.holdings.count (.remote, t.basePacket) = 1 := by
    rw [RemoteTransaction.holdings, List.count_singleton_self]
  have hle : t.holdings.count (.remote, t.basePacket) ≤
      (s.remotes.map fun t' => t'.holdings.count (.remote, t.basePacket)).sum :=
    List.le_sum_of_mem (List.mem_map_of_mem (f := fun t' => t'.holdings.count (.remote, t.basePacket))
      (List.mem_of_getElem? ht))
  rw [State.holding]
  omega

end Transfers

section Steps

variable [DecidableEq M] {s s' : State C} {a : Act C}

/-- Each step of a run that accounts is a transfer. -/
theorem transfer_step (hcond : Accounts s a) (h : Step s a s') : Transfers s s' := by
  cases h with
  | allocate hpool =>
    refine .of_jobs (.allocate hpool) rfl rfl rfl fun h => ?_
    simp only [State.weight_addJob, State.weight_allocate, Job.holdings, List.count_nil]
    omega
  -- Steps that give a buffer back: the job that held it goes, and with it the one holding.
  | readError hjobs | refuse hjobs | takeKeepalive hjobs | flushInbound hjobs | destroyExported hjobs =>
    refine .of_jobs (.free _) rfl rfl rfl fun h => ?_
    rw [State.weight_of_jobs hjobs]
    simp only [State.weight_release, State.weight_withJobs, Job.holdings, List.count_nil]
    omega
  | transmit hjobs =>
    refine .of_jobs (.free _) rfl rfl rfl fun h => ?_
    rw [State.weight_of_jobs hjobs]
    simp only [State.weight_release, State.weight_withJobs, Job.holdings, List.count_nil, Bool.false_eq_true,
      if_false]
    omega
  | transmitKept hjobs =>
    rename_i rest c p
    refine .of_jobs (.sent p) rfl rfl rfl fun h => ?_
    rw [State.weight_of_jobs hjobs]
    simp only [State.weight_withJobs, Job.holdings, List.count_nil, if_true]
    omega
  -- Steps that hand a packet on: one job takes the place of another that holds the same.
  | deliver hjobs | dispatch hjobs | takeOutbound hjobs | forward hjobs =>
    refine .of_jobs .idle rfl rfl rfl fun h => ?_
    rw [State.weight_of_jobs hjobs]
    simp only [State.weight_addJob, State.weight_withJobs, Job.holdings]
  | clear hput =>
    exact .of_jobs (.clear _ hput) rfl rfl rfl fun h => rfl
  -- The condition has room in the queue, so the packet is queued and not lost.
  | submit hjobs =>
    rw [State.accepts.recvPacketToMsg hcond hjobs]
    refine .of_jobs .idle rfl rfl rfl fun h => ?_
    rw [State.weight_of_jobs hjobs]
    simp only [State.weight_addJob, State.weight_withJobs, Job.holdings]
  | takeGeneric hjobs _ _ _ htype hnone =>
    rw [State.accepts.recvPacketToMsg (hcond htype hnone) hjobs]
    refine .of_jobs .idle rfl rfl rfl fun h => ?_
    rw [State.weight_of_jobs hjobs]
    simp only [State.weight_addJob, State.weight_withJobs, Job.holdings]
  | leaveHandler hjobs =>
    refine .of_jobs (.leaveHandler _ hcond) rfl rfl rfl fun h => ?_
    rw [State.weight_of_jobs hjobs]
    simp only [State.weight_release, State.weight_withJobs, Job.holdings, List.count_nil]
    omega
  | releaseParsed hjobs =>
    refine .of_jobs (.releaseParsed _ hcond) rfl rfl rfl fun h => ?_
    rw [State.weight_of_jobs hjobs]
    simp only [State.weight_release, State.weight_withJobs, Job.holdings, List.count_nil]
    omega
  -- The clean-up destroys a packet whether it is kept or not: one that is not kept it owns, of the other it only
  -- has the place in the queue, and the condition says that nobody is releasing it.
  | flushOutbound hjobs hconn hstop hopen =>
    rename_i rest c conn p keep
    cases keep with
    | false =>
      refine .of_jobs (.free p) rfl rfl rfl fun h => ?_
      rw [State.weight_of_jobs hjobs]
      simp only [State.weight_release, State.weight_withJobs, Job.holdings, List.count_nil, Bool.false_eq_true,
        if_false]
      omega
    | true =>
      refine .of_jobs (.drop p hcond) rfl rfl rfl fun h => ?_
      rw [State.weight_of_jobs hjobs]
      simp only [State.weight_release, State.weight_withJobs, Job.holdings, List.count_nil, if_true]
      omega
  | forwardStopped hjobs hconn hstop =>
    rename_i rest c conn p keep
    cases keep with
    | false =>
      refine .of_jobs (.free p) rfl rfl rfl fun h => ?_
      rw [State.weight_of_jobs hjobs]
      simp only [State.weight_release, State.weight_withJobs, Job.holdings, List.count_nil, Bool.false_eq_true,
        if_false]
      omega
    | true =>
      refine .of_jobs (.drop p hcond) rfl rfl rfl fun h => ?_
      rw [State.weight_of_jobs hjobs]
      simp only [State.weight_release, State.weight_withJobs, Job.holdings, List.count_nil, if_true]
      omega
  | keepalive hjobs _ hpool | assembleExported hjobs _ hpool | assembleOther hjobs _ hpool =>
    refine .of_jobs (.allocate hpool) rfl rfl rfl fun h => ?_
    rw [State.weight_of_jobs hjobs]
    simp only [State.weight_addJob, State.weight_allocate, State.weight_withJobs, Job.holdings,
      List.count_nil, Bool.false_eq_true, if_false]
    show _ + _ = _ + _ + List.count h [(Holding.own, s.packets.length)]
    omega
  | assembleFailed hjobs _ hpool =>
    refine .of_jobs (.abort hpool) rfl rfl rfl fun h => ?_
    rw [State.weight_of_jobs hjobs]
    simp only [State.weight_complete, State.weight_release, State.weight_allocate, State.weight_withJobs,
      Job.holdings, List.count_nil]
    omega
  | assembleRequest hjobs _ hpool =>
    refine ⟨.allocate, [], _, .request hpool, rfl, fun h => ?_⟩
    -- One new buffer gets three holdings at once: the send queue's, the transaction's, and that it lives.
    have hgives : List.count h [(.send, s.packets.length), (.base, s.packets.length), (.live, s.packets.length)] =
        List.count h [(.send, s.packets.length)] +
          List.count h [(.base, s.packets.length), (.live, s.packets.length)] := by
      rw [← List.count_append]
      rfl
    rw [State.holding, State.holding, State.weight_of_jobs hjobs, hgives]
    show _ + (List.map _ (_ ++ [_])).sum + _ + _ = _
    rw [sum_map_append_singleton]
    simp only [State.weight_addJob, State.weight_addLocalTransaction, State.weight_allocate,
      State.weight_withJobs, List.count_nil]
    show List.count h [(.send, s.packets.length)] + _ + ((s.locals.map _).sum +
      List.count h [(.base, s.packets.length), (.live, s.packets.length)]) + (s.remotes.map _).sum + 0 =
        0 + _ + _ + _ + _
    omega
  -- The holding moves from the job to the phase of the transaction.
  | handPacket hjobs ht hphase =>
    refine .of_setLocal .idle rfl ht rfl rfl fun h => ?_
    rw [State.weight_of_jobs hjobs]
    simp [LocalTransaction.holdings, hphase, LocalPhase.undestroyed, LocalPhase.holdings, Job.holdings,
      List.count_cons]
    omega
  | redirect hjobs ht hphase =>
    refine .of_setLocal .idle rfl ht rfl rfl fun h => ?_
    rw [State.weight_of_jobs hjobs]
    simp [LocalTransaction.holdings, hphase, LocalPhase.undestroyed, LocalPhase.holdings, Job.holdings]
  | start ht hphase | stop ht hphase | handOnExternal ht hphase | closeChannels ht hphase
  | remove ht hphase | notify ht hphase =>
    refine .of_setLocal .idle rfl ht rfl rfl fun h => ?_
    simp [LocalTransaction.holdings, hphase, LocalPhase.undestroyed, LocalPhase.holdings]
  -- The packet goes with its transaction: by the condition it is neither in the send queue nor being released.
  | destroy ht hphase =>
    obtain ⟨hput, hsend⟩ := hcond _ ht
    refine .of_setLocal (.destroy _ hput hsend) rfl ht rfl rfl fun h => ?_
    simp [LocalTransaction.holdings, hphase, LocalPhase.undestroyed, LocalPhase.holdings, List.count_cons]
    omega
  | handOnPacket ht hphase =>
    obtain ⟨hroom, -⟩ := hcond _ _ _ _ ht hphase
    obtain ⟨-, hqueued⟩ | ⟨hfull, -⟩ := State.recvPacketToMsg_cases _ _
    · rw [hqueued]
      refine .of_setLocal .idle rfl ht rfl rfl fun h => ?_
      simp [LocalTransaction.holdings, hphase, LocalPhase.undestroyed, LocalPhase.holdings, Job.holdings,
        List.count_cons]
      omega
    · exact absurd hroom hfull
  | parseFailed hjobs hrun hconn hreceive =>
    rename_i rest conn nowMilli now r e pd
    cases hdecrypted : pd.decryptedMsgCh with
    | false =>
      refine .of_jobs (.free pd.basePacket) rfl rfl rfl fun h => ?_
      simp [State.weight_of_jobs hjobs, Job.holdings, hdecrypted]
      omega
    | true =>
      refine .of_jobs (.decrypted pd.basePacket) rfl rfl rfl fun h => ?_
      simp [State.weight_of_jobs hjobs, Job.holdings, hdecrypted]
      omega
  | parseAccess hjobs hrun hconn hreceive hdecrypted =>
    refine .of_jobs (.decrypted _) rfl rfl rfl fun h => ?_
    simp [State.weight_of_jobs hjobs, Job.holdings, hdecrypted]
    omega
  | parseResponse hjobs | parseOther hjobs =>
    refine .of_jobs (.free _) rfl rfl rfl fun h => ?_
    rw [State.weight_of_jobs hjobs]
    simp only [State.weight_complete, State.weight_release, State.weight_learn, State.weight_withJobs,
      Job.holdings, List.count_nil]
    omega
  | parseRequest hjobs hrun hconn hreceive =>
    rename_i rest conn nowMilli now ppd pd _ _ _
    refine ⟨.none, _, _, .parsed pd.basePacket, rfl, fun h => ?_⟩
    -- The parsed packet is now held twice, by its handler and by the transaction that waits for the answer.
    have hgives : List.count h [(.parsed, pd.basePacket), (.remote, pd.basePacket)] =
        List.count h [(.parsed, pd.basePacket)] + List.count h [(.remote, pd.basePacket)] := by
      rw [← List.count_append]
      rfl
    rw [State.holding, State.holding, State.weight_of_jobs hjobs, hgives]
    show _ + _ + (List.map _ (_ ++ [_])).sum + _ = _
    rw [sum_map_append_singleton]
    simp only [State.weight_addJob, State.weight_addRemoteTransaction, State.weight_learn,
      State.weight_withJobs]
    show List.count h [(.parsed, pd.basePacket)] + _ + (s.locals.map _).sum + ((s.remotes.map _).sum +
      List.count h [(.remote, pd.basePacket)]) + List.count h [(.own, pd.basePacket)] =
        List.count h [(.own, pd.basePacket)] + _ + _ + _ + _
    omega
  | answer hjobs ht hphase =>
    refine .of_setRemote .idle rfl ht rfl rfl rfl fun h => ?_
    simp [State.weight_of_jobs hjobs, Job.holdings]
  | handOnMsg ht hphase =>
    rename_i i rt m
    refine .of_setRemote .idle rfl ht
      (show (State.sendMsgToPacket _ _).remotes = s.remotes.set i { rt with phase := .ended } from rfl) rfl rfl
      fun h => ?_
    simp [Job.holdings]
  | destroyRemote ht =>
    refine .of_setRemote (.destroyRemote _ (hcond _ ht) (State.remote_held ht)) rfl ht rfl rfl rfl fun h => ?_
    rfl
  | stopRemote ht | closeRemote ht | removeRemote ht =>
    exact .of_setRemote .idle rfl ht rfl rfl rfl fun h => rfl
  | _ =>
    refine .of_jobs .idle rfl rfl rfl fun h => ?_
    first
    | rfl
    | simp [State.weight_of_jobs ‹s.jobs = _ ::ₘ _›, Job.holdings]
    | simp [Job.holdings]

end Steps

/-! ## What every transfer keeps -/

/-- A packet has one owner or was sent by one transaction, and its buffer is set while somebody has it. -/
structure State.Kept (s : State C) : Prop where
  one : ∀ p, s.holding (.own, p) + s.holding (.base, p) + s.holding (.remote, p) +
    s.holding (.accessed, p) ≤ 1
  send : ∀ p, s.holding (.send, p) ≤ s.holding (.base, p)
  live : ∀ p, s.holding (.live, p) ≤ s.holding (.base, p)
  parsed : ∀ p, s.holding (.parsed, p) ≤ s.holding (.remote, p)
  fresh : ∀ p, s.packets.length ≤ p → s.holding (.own, p) + s.holding (.base, p) +
    s.holding (.remote, p) + s.holding (.accessed, p) = 0
  held : ∀ p, 0 < s.holding (.own, p) + s.holding (.send, p) → s.packets[p]? = some .held
  owned : ∀ p, s.packets[p]? = some .held →
    0 < s.holding (.own, p) + s.holding (.live, p) + s.holding (.parsed, p)

section Kept

variable {s s' : State C} {e : PoolEffect} {takes gives : List (Holding × Nat)}

/-- What a transfer does to one packet's holders. -/
structure HoldersKept (s s' : State C) (e : PoolEffect) (p : Nat) : Prop where
  one : s'.holding (.own, p) + s'.holding (.base, p) + s'.holding (.remote, p) +
    s'.holding (.accessed, p) ≤ 1
  send : s'.holding (.send, p) ≤ s'.holding (.base, p)
  live : s'.holding (.live, p) ≤ s'.holding (.base, p)
  parsed : s'.holding (.parsed, p) ≤ s'.holding (.remote, p)
  fresh : s.packets.length ≤ p → (e = .allocate → p ≠ s.packets.length) → s'.holding (.own, p) +
    s'.holding (.base, p) + s'.holding (.remote, p) + s'.holding (.accessed, p) = 0
  used : 0 < s'.holding (.own, p) + s'.holding (.send, p) →
    0 < s.holding (.own, p) + s.holding (.send, p) ∧ e ≠ .free p ∨ e = .allocate ∧ p = s.packets.length
  owned : 0 < s.holding (.own, p) + s.holding (.live, p) + s.holding (.parsed, p) →
    0 < s'.holding (.own, p) + s'.holding (.live, p) + s'.holding (.parsed, p) ∨ e = .free p
  allocated : e = .allocate → p = s.packets.length → 0 < s'.holding (.own, p) + s'.holding (.live, p)

/-- A transfer keeps the holders of each packet in order, for each of its kinds. -/
theorem Transfer.holders (ht : Transfer s e takes gives)
    (hsum : ∀ h, s'.holding h + takes.count h = s.holding h + gives.count h) (hI : s.Kept) (p : Nat) :
    HoldersKept s s' e p := by
  have hown := hsum (.own, p)
  have hsend := hsum (.send, p)
  have hbase := hsum (.base, p)
  have hlive := hsum (.live, p)
  have hparsed := hsum (.parsed, p)
  have hremote := hsum (.remote, p)
  have haccessed := hsum (.accessed, p)
  have hone := hI.one p
  have hsend' := hI.send p
  have hlive' := hI.live p
  have hparsed' := hI.parsed p
  have hfresh := hI.fresh p
  clear hsum hI
  cases ht with
  | _ =>
    simp only [List.count_cons, List.count_nil, beq_iff_eq, Prod.mk.injEq, reduceCtorEq, false_and, true_and,
      if_false, Nat.add_zero, Nat.zero_add] at hown hsend hbase hlive hparsed hremote haccessed
    constructor <;> grind

end Kept

/-! ## What the pool's effects keep -/

/-- The packet's buffer has gone back to the pool. -/
def State.released (s : State C) (p : Nat) : Bool := (s.packets[p]?).any (· != .held)

/-- The count says how many packets hold a buffer, and no buffer has been put back twice. -/
structure State.PoolExact (s : State C) : Prop where
  count : s.count.toNat = s.packets.countP (· == .held)
  once : ∀ p, s.puts.count p = if s.released p then 1 else 0

/-- What an effect needs of the pool. -/
def PoolEffect.Allowed (s : State C) : PoolEffect → Prop
  | .allocate | .abort => s.count < packetBufferPoolSize
  | .free p => s.undisturbed p
  | .clear p => s.packets[p]? = some .returned
  | .none => True

section Pool

variable {s s' : State C} {e : PoolEffect} {p : Nat}

/-- A step that leaves the pool alone keeps it exact, -/
theorem State.PoolExact.of_pool (h : s'.pool = s.pool) (hs : s.PoolExact) : s'.PoolExact := by
  obtain ⟨hcount, hrest⟩ := Prod.mk.inj h
  obtain ⟨hpackets, hputs⟩ := Prod.mk.inj hrest
  refine ⟨by rw [hcount, hpackets, hs.count], fun p => ?_⟩
  rw [hputs, hs.once, State.released, State.released, hpackets]

/-- Releasing an undisturbed packet puts its buffer back, or does nothing because that has happened. -/
theorem State.release_cases (h : s.undisturbed p) :
    s.packets[p]? = some .held ∧ s.release p = { s with
      count := s.count - 1
      packets := s.packets.set p .returned
      puts := s.puts ++ [p] } ∨
    s.packets[p]? ≠ some .held ∧ s.release p = s := by
  unfold undisturbed at h
  unfold release hasBuf
  cases hp : s.packets[p]? with
  | none => exact .inr ⟨nofun, rfl⟩
  | some b =>
    cases b with
    | held => exact .inl ⟨rfl, rfl⟩
    | returned => exact absurd hp h
    | cleared => exact .inr ⟨nofun, rfl⟩

/-- and so do an allocation, -/
theorem State.PoolExact.allocate (hs : s.PoolExact) (hpool : s.count < packetBufferPoolSize) :
    s.allocate.PoolExact := by
  refine ⟨?_, fun p => ?_⟩
  · show (s.count + 1).toNat = (s.packets ++ [PoolBuf.held]).countP _
    have hlt : s.count.toNat < 262144 := UInt32.lt_iff_toNat_lt.mp hpool
    have hcount := hs.count
    rw [List.countP_append, UInt32.toNat_add]
    show (s.count.toNat + 1) % 2 ^ 32 = s.packets.countP _ + 1
    omega
  · have hsame : s.allocate.released p = s.released p := by
      show ((s.packets ++ [PoolBuf.held])[p]?).any _ = _
      rw [State.released, List.getElem?_append]
      split
      · rfl
      · rename_i hlt
        rw [List.getElem?_eq_none (Nat.not_lt.mp hlt), List.getElem?_singleton]
        split <;> rfl
    rw [hsame]
    exact hs.once p

/-- a release that nobody disturbs, -/
theorem State.PoolExact.release (hs : s.PoolExact) (h : s.undisturbed p) : (s.release p).PoolExact := by
  obtain ⟨hheld, heq⟩ | ⟨-, heq⟩ := State.release_cases h
  · rw [heq]
    obtain ⟨hlt, hget⟩ := List.getElem?_eq_some_iff.mp hheld
    refine ⟨?_, fun q => ?_⟩
    · have hcount := hs.count
      have hbound : s.count.toNat < 2 ^ 32 := s.count.toNat_lt
      have hpos : 0 < s.packets.countP (· == .held) :=
        List.countP_pos_iff.mpr ⟨_, List.getElem_mem hlt, by rw [hget]; rfl⟩
      show (s.count - 1).toNat = (s.packets.set p .returned).countP _
      rw [List.countP_set hlt, hget, UInt32.toNat_sub]
      show (2 ^ 32 - 1 + s.count.toNat) % 2 ^ 32 = s.packets.countP (· == .held) - 1 + 0
      omega
    · show (s.puts ++ [p]).count q = if ((s.packets.set p .returned)[q]?).any _ then 1 else 0
      rw [List.count_append, hs.once, State.released]
      by_cases hq : p = q
      · subst hq
        rw [hheld, List.getElem?_set_self hlt, List.count_singleton_self]
        rfl
      · rw [List.getElem?_set_ne hq, List.count_singleton, beq_false_of_ne hq]
        exact Nat.add_zero _
  · rwa [heq]

/-- and its last statement. -/
theorem State.PoolExact.clear (hs : s.PoolExact) (h : s.packets[p]? = some .returned) :
    State.PoolExact { s with packets := s.packets.set p .cleared } := by
  obtain ⟨hlt, hget⟩ := List.getElem?_eq_some_iff.mp h
  refine ⟨?_, fun q => ?_⟩
  · show s.count.toNat = (s.packets.set p .cleared).countP _
    rw [List.countP_set hlt, hget]
    exact hs.count
  · rw [hs.once q, State.released, State.released]
    show _ = if ((s.packets.set p .cleared)[q]?).any _ then 1 else 0
    by_cases hq : p = q
    · subst hq
      rw [h, List.getElem?_set_self hlt]
      rfl
    · rw [List.getElem?_set_ne hq]

/-- So every effect does that is allowed. -/
theorem State.PoolExact.effect (hs : s.PoolExact) (h : e.Allowed s) : (e.on s).PoolExact := by
  cases e with
  | none => exact hs
  | allocate => exact hs.allocate h
  | abort =>
    refine (hs.allocate h).release ?_
    show (s.packets ++ [PoolBuf.held])[s.packets.length]? ≠ _
    rw [List.getElem?_concat_length]
    exact nofun
  | free p => exact hs.release h
  | clear p => exact hs.clear h

/-- The holder of a packet finds its buffer set, so that nobody else is releasing it. -/
theorem Transfer.allowed {takes gives : List (Holding × Nat)} (ht : Transfer s e takes gives)
    (hsum : ∀ h, s'.holding h + takes.count h = s.holding h + gives.count h) (hI : s.Kept) : e.Allowed s := by
  have howner (p : Nat) (hpos : 0 < s.holding (.own, p)) : s.undisturbed p := by
    rw [State.undisturbed, hI.held p (Nat.lt_of_lt_of_le hpos (Nat.le_add_right _ _))]
    exact nofun
  cases ht with
  | idle | sent | parsed => trivial
  | allocate hpool | request hpool | abort hpool => exact hpool
  | drop p h | destroy p h | releaseParsed p h | leaveHandler p h | destroyRemote p h => exact h
  | clear p h => exact h
  | free p | decrypted p =>
    have hown := hsum (.own, p)
    simp only [List.count_cons, List.count_nil, beq_self_eq_true, beq_iff_eq, Prod.mk.injEq, reduceCtorEq,
      false_and, if_true, if_false] at hown
    exact howner p (by omega)

/-- An assembly that fails leaves a packet that has been put back. -/
theorem PoolEffect.packets_abort (s : State C) :
    (PoolEffect.abort.on s).packets = s.packets ++ [.returned] := by
  have hlast : s.allocate.packets[s.packets.length]? = some .held := List.getElem?_concat_length
  have hundisturbed : s.allocate.undisturbed s.packets.length := by
    rw [State.undisturbed, hlast]
    exact nofun
  show (s.allocate.release s.packets.length).packets = _
  obtain ⟨-, heq⟩ | ⟨hnone, -⟩ := State.release_cases hundisturbed
  · rw [heq]
    show (s.packets ++ [PoolBuf.held]).set s.packets.length .returned = _
    rw [List.set_append_right _ _ le_rfl, Nat.sub_self]
    rfl
  · exact absurd hlast hnone

/-- A packet holds its buffer until it is released. -/
theorem PoolEffect.held_on (h : e.Allowed s) (hheld : s.packets[p]? = some .held) (hfree : e ≠ .free p) :
    (e.on s).packets[p]? = some .held := by
  have hlt := (List.getElem?_eq_some_iff.mp hheld).1
  cases e with
  | none => exact hheld
  | allocate =>
    show (s.packets ++ [PoolBuf.held])[p]? = _
    rw [List.getElem?_append_left hlt, hheld]
  | abort => rw [PoolEffect.packets_abort, List.getElem?_append_left hlt, hheld]
  | free q =>
    obtain ⟨-, heq⟩ | ⟨-, heq⟩ := State.release_cases h
    · show (s.release q).packets[p]? = _
      rw [heq]
      show (s.packets.set q .returned)[p]? = _
      rw [List.getElem?_set_ne (fun hqp => hfree (by rw [hqp])), hheld]
    · show (s.release q).packets[p]? = _
      rw [heq, hheld]
  | clear q =>
    show (s.packets.set q .cleared)[p]? = _
    rw [List.getElem?_set_ne, hheld]
    rintro rfl
    rw [PoolEffect.Allowed, hheld] at h
    cases h

/-- A packet that holds a buffer behind an effect held it before, or has just been allocated. -/
theorem PoolEffect.held_of_on (h : e.Allowed s) (hheld : (e.on s).packets[p]? = some .held) :
    s.packets[p]? = some .held ∧ e ≠ .free p ∨ e = .allocate ∧ p = s.packets.length := by
  cases e with
  | none => exact .inl ⟨hheld, nofun⟩
  | allocate =>
    obtain ⟨hp, -⟩ | hold := getElem?_append_cases hheld
    · exact .inr ⟨rfl, hp⟩
    · exact .inl ⟨hold, nofun⟩
  | abort =>
    rw [PoolEffect.packets_abort] at hheld
    obtain ⟨-, hb⟩ | hold := getElem?_append_cases hheld
    · cases hb
    · exact .inl ⟨hold, nofun⟩
  | free q =>
    obtain ⟨hq, heq⟩ | ⟨hq, heq⟩ := State.release_cases h
    · change (s.release q).packets[p]? = _ at hheld
      rw [heq] at hheld
      obtain ⟨-, hb⟩ | hold := getElem?_set_cases hheld
      · cases hb
      · refine .inl ⟨hold, fun hqp => ?_⟩
        cases hqp
        change (s.packets.set p .returned)[p]? = _ at hheld
        rw [List.getElem?_set_self (List.getElem?_eq_some_iff.mp hold).1] at hheld
        cases hheld
    · change (s.release q).packets[p]? = _ at hheld
      rw [heq] at hheld
      refine .inl ⟨hheld, fun hqp => ?_⟩
      cases hqp
      exact hq hheld
  | clear q =>
    obtain ⟨-, hb⟩ | hold := getElem?_set_cases hheld
    · cases hb
    · exact .inl ⟨hold, nofun⟩

/-- Packets are never forgotten, and an allocation adds one. -/
theorem PoolEffect.length_on (e : PoolEffect) (s : State C) :
    s.packets.length ≤ (e.on s).packets.length ∧
      (e = .allocate → s.packets.length < (e.on s).packets.length) := by
  cases e with
  | none => exact ⟨le_rfl, nofun⟩
  | allocate =>
    show _ ≤ (s.packets ++ [PoolBuf.held]).length ∧ (_ → _ < (s.packets ++ [PoolBuf.held]).length)
    rw [List.length_append, List.length_singleton]
    exact ⟨Nat.le_succ _, fun _ => Nat.lt_succ_self _⟩
  | abort =>
    rw [PoolEffect.packets_abort, List.length_append]
    exact ⟨Nat.le_add_right _ _, nofun⟩
  | free p =>
    refine ⟨le_of_eq ?_, nofun⟩
    show _ = (if s.hasBuf p then s.packets.set p .returned else s.packets).length
    split
    · rw [List.length_set]
    · rfl
  | clear p => exact ⟨le_of_eq (List.length_set).symm, nofun⟩

end Pool

/-! ## Queues that are read -/

/-- The packet waits in a queue of the connection. -/
def Job.waitsAt (c : Nat) (job : Job C) : Bool := job.inRecvQueue c || job.inSendQueue c

/-- No packet waits in a queue that nobody reads any more. -/
structure State.Attended (s : State C) : Prop where
  conns : ∀ (c : Nat) job conn, job ∈ s.jobs → job.waitsAt c = true → s.conns[c]? = some conn →
    conn.flushed = false
  workers : ∀ pd, .toMsg pd ∈ s.jobs → s.running = true

section Attended

variable [DecidableEq M] {s s' : State C} {a : Act C}

/-- A connection is flushed by `Close`, which has found its queues empty. -/
theorem flushed_step (h : Step s a s') {c : Nat} {conn : Conn M} (hconn : s'.conns[c]? = some conn)
    (hflushed : conn.flushed = true) :
    (∃ old, s.conns[c]? = some old ∧ old.flushed = true) ∨
      s'.jobs = s.jobs ∧ ∀ job ∈ s.jobs, job.waitsAt c = false := by
  cases h with
  | flushed hc hstop hrecv hsend =>
    obtain ⟨rfl, -⟩ | hold := getElem?_set_cases hconn
    · refine .inr ⟨rfl, fun job hmem => ?_⟩
      have hnot := Multiset.countP_eq_zero.mp hrecv job hmem
      have hnot' := Multiset.countP_eq_zero.mp hsend job hmem
      rw [Job.waitsAt, Bool.or_eq_false_iff]
      exact ⟨by simpa using hnot, by simpa using hnot'⟩
    · exact .inl ⟨conn, hold, hflushed⟩
  | close hc | parseFailed _ _ hc | parseAccess _ _ hc | parseResponse _ _ hc | parseOther _ _ hc
  | removeRemote _ _ hc =>
    obtain ⟨rfl, rfl⟩ | hold := getElem?_set_cases hconn
    · exact .inl ⟨_, hc, hflushed⟩
    · exact .inl ⟨conn, hold, hflushed⟩
  | parseRequest _ _ hc =>
    obtain ⟨rfl, rfl⟩ | hset := getElem?_set_cases hconn
    · exact .inl ⟨_, hc, hflushed⟩
    obtain ⟨rfl, rfl⟩ | hold := getElem?_set_cases hset
    · exact .inl ⟨_, hc, hflushed⟩
    · exact .inl ⟨conn, hold, hflushed⟩
  | connect =>
    obtain ⟨-, rfl⟩ | hold := getElem?_append_cases hconn
    · cases hflushed
    · exact .inl ⟨conn, hold, hflushed⟩
  | _ => exact .inl ⟨conn, hconn, hflushed⟩

/-- A packet gets into a connection's queue by a receive routine or by a worker. -/
theorem inbound_step (h : Step s a s') {c p : Nat} {pkt : Packet M} (hmem : .inbound c p pkt ∈ s'.jobs) :
    .inbound c p pkt ∈ s.jobs ∨ a = .deliver p c pkt ∧ s'.conns = s.conns := by
  cases h with
  | deliver hjobs =>
    obtain heq | hold := Multiset.mem_cons.mp hmem
    · cases heq
      exact .inr ⟨rfl, rfl⟩
    · rw [hjobs]
      exact .inl (Multiset.mem_cons_of_mem hold)
  | _ =>
    refine .inl (State.mem_jobs_iff.mpr (lt_of_lt_of_le (State.mem_jobs_iff.mp hmem) ?_))
    first
    | exact le_rfl
    | simp [State.weight_of_jobs ‹s.jobs = _ ::ₘ _›, Job.indicator]
    | simp [Job.indicator]

/-- What waits to be sent was put there by a worker. -/
theorem outbound_step (h : Step s a s') {c p : Nat} {keep : Bool} (hmem : .outbound c p keep ∈ s'.jobs) :
    .outbound c p keep ∈ s.jobs ∨ a = .forward c p keep ∧ s'.conns = s.conns := by
  cases h with
  | forward hjobs =>
    obtain heq | hold := Multiset.mem_cons.mp hmem
    · cases heq
      exact .inr ⟨rfl, rfl⟩
    · rw [hjobs]
      exact .inl (Multiset.mem_cons_of_mem hold)
  | _ =>
    refine .inl (State.mem_jobs_iff.mpr (lt_of_lt_of_le (State.mem_jobs_iff.mp hmem) ?_))
    first
    | exact le_rfl
    | simp [State.weight_of_jobs ‹s.jobs = _ ::ₘ _›, Job.indicator]
    | simp [Job.indicator]

/-- The workers run while a packet is put into their queue, and quit when it is empty. -/
theorem running_step (hcond : Accounts s a) (hI : s.Attended) (h : Step s a s') {pd : InPacket C}
    (hmem : .toMsg pd ∈ s'.jobs) : s'.running = true := by
  cases h with
  | submit => exact hcond.2
  | takeGeneric _ _ _ _ htype hnone => exact (hcond htype hnone).2
  | handOnPacket ht hphase => exact (hcond _ _ _ _ ht hphase).2
  | quit => exact absurd hmem (hcond pd)
  | _ =>
    refine hI.workers pd (State.mem_jobs_iff.mpr (lt_of_lt_of_le (State.mem_jobs_iff.mp hmem) ?_))
    first
    | exact le_rfl
    | simp [State.weight_of_jobs ‹s.jobs = _ ::ₘ _›, Job.indicator]
    | simp [Job.indicator]

/-- The step: nothing is put where nobody reads any more. -/
theorem attended_step (hcond : Accounts s a) (hI : s.Attended) (h : Step s a s') : s'.Attended := by
  refine ⟨fun c job conn hmem hwaits hconn => ?_, fun pd hmem => running_step hcond hI h hmem⟩
  by_contra hflushed
  rw [Bool.not_eq_false] at hflushed
  have hold : job ∈ s.jobs ∨ s'.conns = s.conns ∧ ∀ conn, s.conns[c]? = some conn → conn.flushed = false := by
    cases job with
    | inbound c' p pkt =>
      obtain hold | ⟨rfl, hsame⟩ := inbound_step h hmem
      · exact .inl hold
      · obtain rfl : c' = c := by simpa [Job.waitsAt, Job.inRecvQueue, Job.inSendQueue] using hwaits
        exact .inr ⟨hsame, hcond⟩
    | outbound c' p keep =>
      obtain hold | ⟨rfl, hsame⟩ := outbound_step h hmem
      · exact .inl hold
      · obtain rfl : c' = c := by simpa [Job.waitsAt, Job.inRecvQueue, Job.inSendQueue] using hwaits
        exact .inr ⟨hsame, hcond⟩
    | _ => cases hwaits
  obtain hold | ⟨hsame, hopen⟩ := hold
  · obtain ⟨old, hconn', hold'⟩ | ⟨-, hempty⟩ := flushed_step h hconn hflushed
    · rw [hI.conns c job old hold hwaits hconn'] at hold'
      cases hold'
    · rw [hempty job hold] at hwaits
      cases hwaits
  · rw [hsame] at hconn
    rw [hopen conn hconn] at hflushed
    cases hflushed

end Attended

/-! ## Runs -/

/-- Who gives the packet's buffer back: a goroutine, the reader of a queue, or a transaction. -/
def State.Owner (s : State C) (p : Nat) : Prop :=
  (∃ job ∈ s.jobs, (.own, p) ∈ job.holdings ∨ (.parsed, p) ∈ job.holdings) ∨
    ∃ t ∈ s.locals, (.own, p) ∈ t.holdings ∨ (.live, p) ∈ t.holdings

/-- The action sends or decrypts from the packet's buffer. -/
def Act.uses (p : Nat) : Act C → Prop
  | .transmit _ q _ | .destroyExported q => q = p
  | .parse pd _ _ => pd.basePacket = p
  | _ => False

/-- The buffers are accounted for: the count is right, each buffer goes back once, somebody who will see to
    that has each one that is out, and none is sent or decrypted from once it has gone back. -/
structure State.BuffersExact [DecidableEq M] (s : State C) : Prop where
  count : s.count.toNat = s.packets.countP (· == .held)
  once : ∀ p, s.puts.count p = if s.released p then 1 else 0
  owned : ∀ p, s.packets[p]? = some .held → s.Owner p
  attended : s.Attended
  used : ∀ a s' p, Step s a s' → a.uses p → s.packets[p]? = some .held

section Runs

variable [DecidableEq M] {d : Device C} {s s' : State C} {a : Act C}

/-- The step of the invariant. -/
theorem kept_step (hcond : Accounts s a) (hI : s.Kept) (hpool : s.PoolExact) (h : Step s a s') :
    s'.Kept ∧ s'.PoolExact := by
  obtain ⟨e, takes, gives, ht, heffect, hsum⟩ := transfer_step hcond h
  have hholders := ht.holders hsum hI
  have hallowed := ht.allowed hsum hI
  have hpackets : s'.packets = (e.on s).packets := congrArg (·.2.1) heffect
  obtain ⟨hle, hlt⟩ := PoolEffect.length_on e s
  refine ⟨⟨fun p => (hholders p).one, fun p => (hholders p).send, fun p => (hholders p).live,
    fun p => (hholders p).parsed, fun p hp => ?_, fun p hp => ?_, fun p hp => ?_⟩,
    (hpool.effect hallowed).of_pool heffect⟩
  · rw [hpackets] at hp
    refine (hholders p).fresh (hle.trans hp) fun he => ?_
    have hnew := hlt he
    omega
  · rw [hpackets]
    obtain ⟨hbefore, hfree⟩ | ⟨rfl, rfl⟩ := (hholders p).used hp
    · exact PoolEffect.held_on hallowed (hI.held p hbefore) hfree
    · exact List.getElem?_concat_length
  · rw [hpackets] at hp
    obtain ⟨hbefore, hfree⟩ | ⟨he, hnew⟩ := PoolEffect.held_of_on hallowed hp
    · exact ((hholders p).owned (hI.owned p hbefore)).resolve_right hfree
    · have hpos := (hholders p).allocated he hnew
      omega

omit [DecidableEq M] in
/-- What a job holds is counted. -/
theorem holding_of_job {job : Job C} {h : Holding × Nat} (hmem : job ∈ s.jobs) (hh : h ∈ job.holdings) :
    0 < s.holding h := by
  have hle : job.holdings.count h ≤ s.weight fun job => job.holdings.count h :=
    Multiset.single_le_sum (fun _ _ => Nat.zero_le _) _
      (Multiset.mem_map_of_mem (fun job : Job C => job.holdings.count h) hmem)
  have hpos : 0 < job.holdings.count h := List.count_pos_iff.mpr hh
  rw [State.holding]
  omega

omit [DecidableEq M] in
/-- And what is counted somebody holds. -/
theorem holder_of_pos {h : Holding × Nat} (hpos : 0 < s.holding h) :
    (∃ job ∈ s.jobs, h ∈ job.holdings) ∨ (∃ t ∈ s.locals, h ∈ t.holdings) ∨
      ∃ t ∈ s.remotes, h ∈ t.holdings := by
  by_contra hnone
  simp only [not_or, not_exists, not_and] at hnone
  obtain ⟨hjobs, hlocals, hremotes⟩ := hnone
  have hjobs : s.weight (fun job => job.holdings.count h) = 0 := by
    refine Multiset.sum_eq_zero_iff.mpr fun n hn => ?_
    obtain ⟨job, hmem, rfl⟩ := Multiset.mem_map.mp hn
    exact List.count_eq_zero.mpr (hjobs job hmem)
  have hlocals : (s.locals.map fun t => t.holdings.count h).sum = 0 := by
    refine List.sum_eq_zero fun n hn => ?_
    obtain ⟨t, hmem, rfl⟩ := List.mem_map.mp hn
    exact List.count_eq_zero.mpr (hlocals t hmem)
  have hremotes : (s.remotes.map fun t => t.holdings.count h).sum = 0 := by
    refine List.sum_eq_zero fun n hn => ?_
    obtain ⟨t, hmem, rfl⟩ := List.mem_map.mp hn
    exact List.count_eq_zero.mpr (hremotes t hmem)
  rw [State.holding] at hpos
  omega

/-- What is sent or decrypted is in the hands of the goroutine that does it. -/
theorem used_held (h : Step s a s') {p : Nat} (huses : a.uses p) :
    0 < s.holding (.own, p) + s.holding (.send, p) := by
  have hjob {job : Job C} {rest : Multiset (Job C)} (hjobs : s.jobs = job ::ₘ rest)
      (hholds : (.own, p) ∈ job.holdings ∨ (.send, p) ∈ job.holdings) :
      0 < s.holding (.own, p) + s.holding (.send, p) := by
    have hmem : job ∈ s.jobs := by
      rw [hjobs]
      exact Multiset.mem_cons_self _ _
    obtain hown | hsend := hholds
    · exact Nat.add_pos_left (holding_of_job hmem hown) _
    · exact Nat.add_pos_right _ (holding_of_job hmem hsend)
  cases h with
  | transmit h | destroyExported h | parseFailed h | parseAccess h | parseResponse h | parseRequest h
  | parseOther h | parsePanic h =>
    cases huses
    exact hjob h (.inl List.mem_cons_self)
  | transmitKept h =>
    cases huses
    exact hjob h (.inr List.mem_cons_self)
  | _ => exact huses.elim

omit [DecidableEq M] in
/-- A buffer in use has an owner. -/
theorem State.Kept.owner (hI : s.Kept) {p : Nat} (hheld : s.packets[p]? = some .held) : s.Owner p := by
  have howned := hI.owned p hheld
  have hown (hpos : 0 < s.holding (.own, p)) : s.Owner p := by
    obtain ⟨job, hmem, hh⟩ | ⟨t, hmem, hh⟩ | ⟨t, -, hh⟩ := holder_of_pos hpos
    · exact .inl ⟨job, hmem, .inl hh⟩
    · exact .inr ⟨t, hmem, .inl hh⟩
    · simp [RemoteTransaction.holdings] at hh
  have hlive (hpos : 0 < s.holding (.live, p)) : s.Owner p := by
    obtain ⟨job, -, hh⟩ | ⟨t, hmem, hh⟩ | ⟨t, -, hh⟩ := holder_of_pos hpos
    · unfold Job.holdings at hh
      split at hh <;> simp at hh
      all_goals
        obtain ⟨hkind, -⟩ := hh
        split at hkind <;> cases hkind
    · exact .inr ⟨t, hmem, .inr hh⟩
    · simp [RemoteTransaction.holdings] at hh
  have hparsed (hpos : 0 < s.holding (.parsed, p)) : s.Owner p := by
    obtain ⟨job, hmem, hh⟩ | ⟨t, -, hh⟩ | ⟨t, -, hh⟩ := holder_of_pos hpos
    · exact .inl ⟨job, hmem, .inr hh⟩
    · unfold LocalTransaction.holdings LocalPhase.holdings at hh
      cases hphase : t.phase <;> simp [hphase, LocalPhase.undestroyed] at hh
    · simp [RemoteTransaction.holdings] at hh
  by_cases hown' : 0 < s.holding (.own, p)
  · exact hown hown'
  by_cases hlive' : 0 < s.holding (.live, p)
  · exact hlive hlive'
  exact hparsed (by omega)

/-- **Packet buffers.**  In every run that never finds the queue for decryption full, puts nothing into a
    queue that nobody reads any more, releases no packet twice at once and destroys no packet that is on its
    way out, the buffers are accounted for in every state. -/
theorem buffers_accounted (h : Reached Accounts d s) : s.BuffersExact := by
  have hnothing (h : Holding × Nat) : (State.start d).holding h = 0 := rfl
  have hstart : (State.start d).Kept ∧ (State.start d).PoolExact ∧ (State.start d).Attended := by
    refine ⟨⟨fun p => ?_, fun p => le_rfl, fun p => le_rfl, fun p => le_rfl, fun p _ => ?_, fun p hp => ?_,
      fun p hp => ?_⟩, ⟨rfl, fun p => rfl⟩, ⟨fun c job conn hmem => ?_, fun pd hmem => ?_⟩⟩
    · exact Nat.zero_le 1
    · rfl
    · rw [hnothing, hnothing] at hp
      exact absurd hp (Nat.lt_irrefl 0)
    · cases hp
    · exact absurd hmem (Multiset.notMem_zero _)
    · exact absurd hmem (Multiset.notMem_zero _)
  obtain ⟨hkept, hpool, hattended⟩ := h.invariant
    (I := fun s => s.Kept ∧ s.PoolExact ∧ s.Attended)
    (fun _ _ _ hC hI hstep => ⟨(kept_step hC.2 hI.1 hI.2.1 hstep).1, (kept_step hC.2 hI.1 hI.2.1 hstep).2,
      attended_step hC.2 hI.2.2 hstep⟩) hstart
  exact ⟨hpool.count, hpool.once, fun p hheld => hkept.owner hheld, hattended,
    fun a s' p hstep huses => hkept.held p (used_held hstep huses)⟩

end Runs

/-- A first request is accounted for. -/
theorem undemanding_accounts : Undemanding (C := sampleLibs.crypto) Accounts where
  connect _ _ := trivial
  send _ _ := trivial
  assemble _ _ _ _ _ _ _ := trivial
  start _ _ := trivial
  forward _ _ _ _ hopen := hopen
  takeOutbound _ _ _ _ := trivial
  transmit _ _ _ _ := trivial
  allocate _ := trivial
  deliver _ _ _ _ hopen := hopen
  handPacket _ _ _ _ _ := trivial

/-- The paired agent sends its knock and parses the answer, and both buffers have gone back once. -/
theorem buffers_accounted_sample :
    ∃ s, State.BuffersExact (C := sampleLibs.crypto) s ∧ s.puts = [1, 0] ∧ s.count = 0 := by
  obtain ⟨mad, prev, sent, ppd, hk⟩ := knock_answered
  have hwaiting := reached_knockWaiting undemanding_accounts hk.assembled hk.headerType
  have haccepts : ∀ {s : State sampleLibs.crypto}, s.jobs.countP (·.inPacketToMsgQueue) = 0 →
      s.running = true → s.accepts := by
    intro s hjobs hrun
    exact ⟨by rw [hjobs]; decide, hrun⟩
  have hqueued := reached_answerQueued undemanding_accounts hwaiting hk.len hk.precheck hk.packetType hk.counter
    (fun _ _ => haccepts rfl rfl) (fun _ _ _ _ _ _ => haccepts rfl rfl)
  have hparsed := reached_answerParsed hqueued hk.received trivial
  have hcleared := hparsed.step (e := Act.clear 1) ⟨rfl, trivial⟩ (.clear rfl)
  -- the knock is not on its way out any more
  have hdestroys : ∀ t, [LocalTransaction.ofKnock mad .ended (some (.packet 0 (answerPacket sent)))][0]? = some t →
      State.undisturbed { State.answerParsed mad (answerPacket sent) ppd with packets := [.held, .cleared] }
        t.basePacket ∧ (State.answerParsed mad (answerPacket sent) ppd).holding (.send, t.basePacket) = 0 := by
    intro t ht
    cases ht
    exact ⟨nofun, rfl⟩
  have hdestroyed := hcleared.step (e := Act.destroy 0) ⟨rfl, hdestroys⟩
    (.destroy (t := .ofKnock mad .ended (some (.packet 0 (answerPacket sent)))) rfl rfl)
  have hcleared' := hdestroyed.step (e := Act.clear 0) ⟨rfl, trivial⟩ (.clear rfl)
  exact ⟨_, buffers_accounted hcleared', rfl, show (2 - 1 - 1 : UInt32) = 0 by decide⟩

/-- **Sent from a returned buffer.**  The agent's knock times out while its packet is still on its way to the
    send queue: the transaction puts the buffer back, and the connection routine sends from it. -/
theorem sent_after_release :
    ∃ s p, Reached (fun _ _ => True) (sampleDevice .agent 1) s ∧ s.released p = true ∧
      ∃ a s', Step s a s' ∧ a.uses p := by
  obtain ⟨mad, -, -, hsent⟩ := reached_firstKnock undemanding_true
  have hwaiting := hsent.step (e := .start 0) ⟨rfl, trivial⟩ (.start rfl rfl)
  have hended := hwaiting.step (e := .stop 0 .timeout) ⟨rfl, trivial⟩ (.stop rfl rfl (by trivial))
  have hdestroyed := hended.step (e := .destroy 0) ⟨rfl, trivial⟩ (.destroy rfl rfl)
  have hroom : ({.outgoing 0 0 true} : Multiset (Job sampleLibs.crypto)).countP (·.inSendQueue 0) <
      packetQueueSizePerConnection .agent := by
    decide
  have hforwarded := hdestroyed.step (e := .forward 0 0 true) ⟨rfl, trivial⟩
    (.forward (Multiset.cons_zero _).symm rfl hroom)
  have hidle : ({.outbound 0 0 true} : Multiset (Job sampleLibs.crypto)).countP (·.busy 0) = 0 := rfl
  have htaken := hforwarded.step (e := .takeOutbound 0 0 true) ⟨rfl, trivial⟩
    (.takeOutbound (Multiset.cons_zero _).symm rfl rfl hidle)
  exact ⟨_, 0, htaken, rfl, .transmit 0 0 true, _, .transmitKept (Multiset.cons_zero _).symm, rfl⟩

end OpenNHP.Core.Routines
