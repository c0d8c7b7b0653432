/-
  The token of a request.

  A request with a caller is one token: it sits in a queue, with a worker, in a transaction or in the parse of its
  answer, until it becomes the value on the caller's `ResponseMsgCh`.

  1. Where the token is, is a sum: over the jobs, over the local transactions that still owe an answer, over the
     messages held by remote ones, and over the values received (`State.tokens`).
  2. A step moves tokens and may lose one, but never doubles one (`tokens_step`); it loses none in the steps that
     `Keeps` names.
  3. For this a state must be sound (`State.Sound`): a transaction that has got an answer has not ended by an
     error, what is in flight names connections and transactions that exist, and a parse for a caller continues
     an assembly.  `sound_step` keeps all of it.

  A message that opens no transaction, because it is no request or its packet is exported, brings its caller no
  answer; `OutMsg.spoiled` counts such messages.
-/
import OpenNHP.Core.Rejection
import OpenNHP.Core.TransactionMaps
import OpenNHP.Core.InFlight

namespace OpenNHP.Core

variable {M : Type} {C : Crypto M}

/-! ## What assembly and parse keep -/

/-- Neither half of an assembly panics. -/
theorem MsgAssemblerData.encrypt_ne_panic (mad : MsgAssemblerData C) (preamble : UInt32) :
    mad.encrypt preamble ≠ .panic := by
  intro h
  rw [encrypt, Go.bind_eq_panic] at h
  obtain h | ⟨mad', -, h⟩ := h
  · unfold setPeerPublicKey at h
    obtain h | ⟨pk, -, h⟩ := Go.bind_eq_panic.mp h
    · exact Go.ofOption_ne_panic h
    split at h
    · cases h
    obtain h | ⟨ess, -, h⟩ := Go.bind_eq_panic.mp h
    · exact Go.ofOption_ne_panic h
    obtain h | ⟨ss, -, h⟩ := Go.bind_eq_panic.mp h
    · exact Go.ofOption_ne_panic h
    cases h
  · unfold encryptBody at h
    split at h
    · cases h
    · dsimp only at h
      split at h <;> cases h

namespace PacketParserData

section Keeps

/-! What the update of a peer leaves of a device, no parse changes. -/

variable {β : Type} (g : Device C → β)

/-- Opening the static key leaves the device, -/
theorem keeps_openStatic (ppd : PacketParserData C) : g ppd.openStatic.1.device = g ppd.device := by
  unfold openStatic
  split
  · rfl
  · dsimp only
    split <;> rfl

/-- and so does opening the send time, -/
theorem keeps_openTimestamp (ppd : PacketParserData C) (peerPk : M) :
    g (ppd.openTimestamp peerPk).1.device = g ppd.device := by
  unfold openTimestamp
  dsimp only
  split
  · rfl
  · split <;> rfl

/-- testing it, -/
theorem keeps_checkRecvTime (ppd : PacketParserData C) (remoteSendTime : Int64) :
    g (ppd.checkRecvTime remoteSendTime).1.device = g ppd.device := by
  unfold checkRecvTime
  split <;> rfl

/-- making a cookie, -/
theorem keeps_generateCookie (ppd : PacketParserData C) (now : Int64) :
    g (ppd.generateCookie now).device = g ppd.device := by
  unfold generateCookie
  dsimp only
  split <;> rfl

variable [DecidableEq M] (hg : ∀ (d : Device C) pk peer, g (d.addPeer pk peer) = g d)

include hg in
/-- the look at the sender, -/
theorem keeps_checkPeer (ppd : PacketParserData C) (peerPk : M) (nowMilli : Int64) :
    g (ppd.checkPeer peerPk nowMilli).1.device = g ppd.device := by
  unfold checkPeer
  split
  · rename_i d hadmits
    unfold admitPeer at hadmits
    split at hadmits
    · obtain ⟨peer, -, hadmits⟩ := Go.bind_eq_ok.mp hadmits
      split at hadmits
      · cases hadmits
      split at hadmits
      · cases hadmits
      cases hadmits
      exact hg _ _ _
    · cases hadmits
      rfl
  · rfl
  · rfl

include hg in
/-- and thus the whole of `validatePeer`, in what `g` sees of it. -/
theorem keeps_validatePeer (ppd : PacketParserData C) (nowMilli now : Int64) :
    g (ppd.validatePeer nowMilli now).1.device = g ppd.device := by
  let f : PacketParserData C → β := fun ppd => g ppd.device
  refine (Go.andThen_keeps (g := f) fun ppd peerPk => ?_).trans (keeps_openStatic g ppd)
  refine (Go.andThen_keeps (g := f) fun ppd _ => ?_).trans (keeps_checkPeer g hg ppd peerPk nowMilli)
  refine (Go.andThen_keeps (g := f) fun ppd remoteSendTime => ?_).trans (keeps_openTimestamp g ppd peerPk)
  refine (Go.andThen_keeps (g := f) fun ppd _ => ?_).trans (keeps_checkRecvTime g ppd remoteSendTime)
  split
  · exact keeps_generateCookie g ppd now
  · rfl

end Keeps

end PacketParserData

/-- What a parse leaves of the device. -/
theorem receive_keeps [DecidableEq M] {β : Type} (g : Device C → β)
    (hg : ∀ (d : Device C) pk peer, g (d.addPeer pk peer) = g d) {d : Device C} {pd : PacketData C}
    {nowMilli now : Int64} {r : Option (PacketParserData C)} {o : Go Unit}
    (h : receive d pd nowMilli now = (r, o)) : g ((r.map (·.device)).getD d) = g d := by
  unfold receive at h
  cases hcreate : createPacketParserData d pd with
  | err e => rw [hcreate] at h; cases h; rfl
  | panic => rw [hcreate] at h; cases h; rfl
  | ok ppd =>
    rw [hcreate] at h
    obtain ⟨rfl, -⟩ := Prod.mk.inj h
    have hstart : g ppd.device = g d := by
      rw [checked_of_create hcreate, PacketData.checked_device]
    refine (Go.andThen_keeps (g := fun ppd : PacketParserData C => g ppd.device)
      fun ppd _ => congrArg g ppd.decryptBody_frame.1).trans ?_
    rw [PacketParserData.keeps_validatePeer g hg, hstart]

end OpenNHP.Core

namespace OpenNHP.Core.Routines

open OpenNHP.Core
open Tables (getElem?_set_cases getElem?_append_cases)

variable {M : Type} {C : Crypto M}

/-! ## Tokens -/

/-- The message that caller `r` waits for an answer to. -/
def OutMsg.tokens (r : Nat) (m : OutMsg C) : Nat := if m.responseMsgCh = some r then 1 else 0

/-- A weight of the messages on their way to a packet. -/
def Job.messages (w : OutMsg C → Nat) : Job C → Nat
  | .posted m | .toPacket m | .answering _ m => w m
  | _ => 0

/-- A message that a remote transaction has got and not handed on. -/
def RemoteTransaction.messages (w : OutMsg C → Nat) (t : RemoteTransaction C) : Nat :=
  match t.phase with
  | .gotMsg m => w m
  | _ => 0

/-- The parse whose outcome caller `r` waits for. -/
def InPacket.tokens (r : Nat) (pd : InPacket C) : Nat := if pd.feedbackMsgCh = some r then 1 else 0

/-- What a job has of the caller's token. -/
def Job.tokens (r : Nat) : Job C → Nat
  | .toMsg pd => pd.tokens r
  | job => job.messages (OutMsg.tokens r)

/-- `Run` has still to see to its caller's value: by handing on what it receives, or by an error. -/
def LocalTransaction.owes (t : LocalTransaction C) : Bool :=
  match t.phase with
  | .added | .waiting | .gotPacket _ _ _ | .gotExternal _ => true
  | .ended | .destroyed | .closed | .removed => t.ending.any Ending.isErr
  | .done => false

/-- `Run` is past its receive and has not handed on what it received. -/
def LocalPhase.hasReceived : LocalPhase C → Bool
  | .gotPacket _ _ _ | .gotExternal _ => true
  | _ => false

/-- What a local transaction has of it: the token, as long as it owes the answer. -/
def LocalTransaction.tokens (r : Nat) (t : LocalTransaction C) : Nat :=
  if t.responseMsgCh = some r ∧ t.owes = true then 1 else 0

namespace State

/-- The values caller `r` has got. -/
def received (s : State C) (r : Nat) : Nat := s.completions.countP (·.1 == r)

/-- The tokens of all local transactions. -/
def localTokens (s : State C) (r : Nat) : Nat := (s.locals.map (LocalTransaction.tokens r)).sum

/-- The messages of all remote ones. -/
def remoteMessages (s : State C) (w : OutMsg C → Nat) : Nat := (s.remotes.map (RemoteTransaction.messages w)).sum

/-- The messages on their way to a packet. -/
def messages (s : State C) (w : OutMsg C → Nat) : Nat := s.weight (Job.messages w) + s.remoteMessages w

/-- All that caller `r` has got or may still get. -/
def tokens (s : State C) (r : Nat) : Nat :=
  s.weight (Job.tokens r) + s.localTokens r + s.remoteMessages (OutMsg.tokens r) + s.received r

end State

/-- What a caller adds by handing in a message. -/
def Act.brings (w : OutMsg C → Nat) : Act C → Nat
  | .post m | .send m => w m
  | _ => 0

/-- The message of caller `r` is not one that the device assembles for a transaction: it is no request, or
    its packet is exported. -/
def OutMsg.spoiled (r : Nat) (deviceType : DeviceType) (m : OutMsg C) : Nat :=
  if m.responseMsgCh = some r ∧
    ¬ (isTransactionRequest deviceType m.md.headerType = true ∧ m.encryptedPktCh = false) then 1 else 0

/-- No queue is full when the message of caller `r` or its answer is put into it, and the send routine finds a
    connection for it. -/
def Keeps (r : Nat) (s : State C) : Act C → Prop
  | .send m => m.responseMsgCh = some r → s.jobs.countP (·.inMsgToPacketQueue) < sendQueueSize
  | .route m _ => m.responseMsgCh = some r → s.jobs.countP (·.inMsgToPacketQueue) < sendQueueSize
  | .handOnMsg i => ∀ t m, s.remotes[i]? = some t → t.phase = .gotMsg m → m.responseMsgCh = some r →
      s.jobs.countP (·.inMsgToPacketQueue) < sendQueueSize
  | .handOn i _ => ∀ t p c pkt, s.locals[i]? = some t → t.phase = .gotPacket p c pkt →
      t.responseMsgCh = some r → s.jobs.countP (·.inPacketToMsgQueue) < recvQueueSize
  | .dropPosted m => m.responseMsgCh ≠ some r
  | _ => True

/-! ## Sums -/

namespace State

variable {s : State C} {i r : Nat}

/-- A completion gives its caller a value. -/
theorem received_complete (caller : Option Nat) (completion : Completion C) :
    (s.complete caller completion).received r = s.received r + if caller = some r then 1 else 0 := by
  show (s.completions ++ _).countP _ = _
  rw [List.countP_append, received]
  cases caller with
  | none => rfl
  | some r' => simp [List.countP_cons, List.countP_nil]

end State

/-- What a step does to the tokens of caller `r`: it makes none but those a caller brings, and loses none
    while the queues have room for a request. -/
def TokensMove (r : Nat) (s : State C) (a : Act C) (s' : State C) : Prop :=
  ∃ lost, s'.tokens r + lost = s.tokens r + a.brings (OutMsg.tokens r) ∧
    (Keeps r s a → s.messages (OutMsg.spoiled r s.device.deviceType) = 0 → lost = 0)

section Moves

variable {r i : Nat} {s s' : State C} {a : Act C}

/-- A step that takes on no transaction. -/
theorem TokensMove.of_jobs (lost : Nat) (hlocals : s'.locals = s.locals) (hremotes : s'.remotes = s.remotes)
    (hsum : s'.weight (Job.tokens r) + s'.received r + lost =
      s.weight (Job.tokens r) + s.received r + a.brings (OutMsg.tokens r))
    (hlost : Keeps r s a → s.messages (OutMsg.spoiled r s.device.deviceType) = 0 → lost = 0) :
    TokensMove r s a s' := by
  refine ⟨lost, ?_, hlost⟩
  rw [State.tokens, State.tokens, State.localTokens, State.localTokens, State.remoteMessages,
    State.remoteMessages, hlocals, hremotes]
  omega

/-- A step that takes a local transaction on. -/
theorem TokensMove.of_setLocal (lost : Nat) {t t' : LocalTransaction C} (ht : s.locals[i]? = some t)
    (hlocals : s'.locals = s.locals.set i t') (hremotes : s'.remotes = s.remotes)
    (hbrings : a.brings (OutMsg.tokens r) = 0)
    (hsum : s'.weight (Job.tokens r) + t'.tokens r + s'.received r + lost =
      s.weight (Job.tokens r) + t.tokens r + s.received r)
    (hlost : Keeps r s a → s.messages (OutMsg.spoiled r s.device.deviceType) = 0 → lost = 0) :
    TokensMove r s a s' := by
  have hset := sum_map_set ht (LocalTransaction.tokens r) t'
  refine ⟨lost, ?_, hlost⟩
  rw [State.tokens, State.tokens, State.localTokens, State.localTokens, State.remoteMessages,
    State.remoteMessages, hlocals, hremotes, hbrings]
  omega

/-- A step that takes a remote transaction on. -/
theorem TokensMove.of_setRemote (lost : Nat) {t t' : RemoteTransaction C} (ht : s.remotes[i]? = some t)
    (hremotes : s'.remotes = s.remotes.set i t') (hlocals : s'.locals = s.locals)
    (hcompletions : s'.completions = s.completions) (hbrings : a.brings (OutMsg.tokens r) = 0)
    (hsum : s'.weight (Job.tokens r) + t'.messages (OutMsg.tokens r) + lost =
      s.weight (Job.tokens r) + t.messages (OutMsg.tokens r))
    (hlost : Keeps r s a → s.messages (OutMsg.spoiled r s.device.deviceType) = 0 → lost = 0) :
    TokensMove r s a s' := by
  have hset := sum_map_set ht (RemoteTransaction.messages (OutMsg.tokens r)) t'
  refine ⟨lost, ?_, hlost⟩
  rw [State.tokens, State.tokens, State.localTokens, State.localTokens, State.remoteMessages,
    State.remoteMessages, State.received, State.received, hlocals, hremotes, hcompletions, hbrings]
  omega

/-- Who owes has its caller's token. -/
theorem LocalTransaction.tokens_of_owes {t : LocalTransaction C} (h : t.owes = true) :
    t.tokens r = if t.responseMsgCh = some r then 1 else 0 := by
  rw [tokens, h]
  simp

/-- Who owes nothing has none. -/
theorem LocalTransaction.tokens_of_not_owes {t : LocalTransaction C} (h : t.owes = false) :
    t.tokens r = 0 := by
  rw [tokens, h]
  simp

/-- A local transaction goes on and keeps its token. -/
theorem TokensMove.of_owes {t t' : LocalTransaction C} (ht : s.locals[i]? = some t)
    (hlocals : s'.locals = s.locals.set i t') (hremotes : s'.remotes = s.remotes)
    (hbrings : a.brings (OutMsg.tokens r) = 0) (hcaller : t'.responseMsgCh = t.responseMsgCh)
    (howes : t'.owes = t.owes) (hweight : s'.weight (Job.tokens r) = s.weight (Job.tokens r))
    (hcompletions : s'.completions = s.completions) : TokensMove r s a s' := by
  refine .of_setLocal 0 ht hlocals hremotes hbrings ?_ fun _ _ => rfl
  rw [hweight, LocalTransaction.tokens, LocalTransaction.tokens, hcaller, howes, State.received,
    State.received, hcompletions]
  exact Nat.add_zero _

/-- A message that is no request of its caller, or that is exported, brings its caller nothing. -/
theorem OutMsg.tokens_of_spoiled {m : OutMsg C} {deviceType : DeviceType} (h : m.spoiled r deviceType = 0)
    (hspoiled : ¬ (isTransactionRequest deviceType m.md.headerType = true ∧ m.encryptedPktCh = false)) :
    m.tokens r = 0 := by
  unfold spoiled at h
  unfold tokens
  split
  · rename_i hr
    rw [if_pos ⟨hr, hspoiled⟩] at h
    cases h
  · rfl

/-- A message is assembled that leaves no local transaction. -/
theorem TokensMove.of_spoiled {m : OutMsg C} {rest : Multiset (Job C)} (hjobs : s.jobs = .toPacket m ::ₘ rest)
    (hspoiled : ¬ (isTransactionRequest s.device.deviceType m.md.headerType = true ∧
      m.encryptedPktCh = false))
    (hlocals : s'.locals = s.locals) (hremotes : s'.remotes = s.remotes)
    (hweight : s'.weight (Job.tokens r) = (rest.map (Job.tokens r)).sum)
    (hcompletions : s'.completions = s.completions) (hbrings : a.brings (OutMsg.tokens r) = 0) :
    TokensMove r s a s' := by
  refine .of_jobs (m.tokens r) hlocals hremotes ?_ fun _ hnone => ?_
  · have hqueued : s.weight (Job.tokens r) = m.tokens r + (rest.map (Job.tokens r)).sum :=
      State.weight_of_jobs hjobs _
    rw [hweight, hbrings, State.received, State.received, hcompletions, hqueued]
    omega
  · refine OutMsg.tokens_of_spoiled ?_ hspoiled
    have hqueued : s.weight (Job.messages (OutMsg.spoiled r s.device.deviceType)) =
        m.spoiled r s.device.deviceType + _ := State.weight_of_jobs hjobs _
    rw [State.messages] at hnone
    omega

end Moves

/-! ## What is in flight is sound -/

/-- What the tokens' ways need of a state: what is in flight names connections and transactions that exist,
    and a parse for a caller continues an assembly. -/
structure State.Sound (s : State C) : Prop where
  received : ∀ (i : Nat) t, s.locals[i]? = some t → t.phase.hasReceived = true →
    t.ending.any Ending.isErr = false
  locals : ∀ t ∈ s.locals, t.connData < s.conns.length
  remotes : ∀ t ∈ s.remotes, t.connData < s.conns.length
  index : s.remoteRegistry.Bounded
  answering : ∀ i m, .answering i m ∈ s.jobs → i < s.remotes.length
  toPacket : ∀ m, .toPacket m ∈ s.jobs → m.connData < s.conns.length
  toMsg : ∀ pd, .toMsg pd ∈ s.jobs → ∀ r, pd.feedbackMsgCh = some r →
    pd.decryptedMsgCh = false ∧ pd.prevAssemblerData.isSome ∧ pd.connData < s.conns.length

section Soundness

variable [DecidableEq M] {s s' : State C} {a : Act C}

/-- Connections stay on the list. -/
theorem conns_length_step (h : Step s a s') : s.conns.length ≤ s'.conns.length := by
  obtain hsame | ⟨data, hadded⟩ | ⟨c, old, new, -, hset, -⟩ := conns_step h
  · rw [hsame]
  · rw [hadded, List.length_append]
    exact Nat.le_add_right _ _
  · rw [hset, List.length_set]

/-- A step adds a remote transaction over a connection, takes one on, or leaves them alone. -/
theorem remotes_step (h : Step s a s') :
    s'.remotes = s.remotes ∨
      (∃ t, s'.remotes = s.remotes ++ [t] ∧ t.connData < s.conns.length) ∨
      ∃ i t t', s.remotes[i]? = some t ∧ s'.remotes = s.remotes.set i t' ∧ t'.connData = t.connData := by
  cases h with
  | parseRequest _ _ hconn => exact .inr (.inl ⟨_, rfl, (List.getElem?_eq_some_iff.mp hconn).1⟩)
  | answer _ ht => exact .inr (.inr ⟨_, _, _, ht, rfl, rfl⟩)
  | handOnMsg ht hphase =>
    rename_i i rt m
    exact .inr (.inr ⟨i, rt, { rt with phase := .ended }, ht, rfl, rfl⟩)
  | stopRemote ht => exact .inr (.inr ⟨_, _, _, ht, rfl, rfl⟩)
  | destroyRemote ht => exact .inr (.inr ⟨_, _, _, ht, rfl, rfl⟩)
  | closeRemote ht => exact .inr (.inr ⟨_, _, _, ht, rfl, rfl⟩)
  | removeRemote ht => exact .inr (.inr ⟨_, _, _, ht, rfl, rfl⟩)
  | _ => exact .inl rfl

/-- So do remote transactions. -/
theorem remotes_length_step (h : Step s a s') : s.remotes.length ≤ s'.remotes.length := by
  obtain hsame | ⟨t, hadded, -⟩ | ⟨i, t, t', -, hset, -⟩ := remotes_step h
  · rw [hsame]
  · rw [hadded, List.length_append]
    exact Nat.le_add_right _ _
  · rw [hset, List.length_set]

/-- So an index in a map stays good. -/
theorem remoteIndex_step (hI : s.remoteRegistry.Bounded) (h : Step s a s') :
    s'.remoteRegistry.Bounded := by
  obtain heq | ⟨pd, nowMilli, now, -, -, -, heq⟩ | ⟨i, t, -, -, heq⟩ := remoteRegistry_step h
  · rwa [heq]
  · rw [heq]
    exact hI.insert _
  · rw [heq]
    exact hI.remove i _

omit [DecidableEq M] in
/-- What is found is in the registry. -/
theorem State.remoteIndex_of_find {c i : Nat} {conn : Conn M} {id : UInt64} (hconn : s.conns[c]? = some conn)
    (hfind : conn.findRemoteTransaction id = some i) : ∃ k, s.remoteRegistry.index k = some i := by
  refine ⟨(c, id), ?_⟩
  show (s.conns[c]?).bind _ = _
  rw [hconn, Option.bind_some]
  unfold Conn.findRemoteTransaction at hfind
  split at hfind
  · cases hfind
  · exact hfind

/-- A handler holds a remote transaction that it found. -/
theorem answering_step (h : Step s a s') {i : Nat} {m : OutMsg C} (hmem : .answering i m ∈ s'.jobs) :
    .answering i m ∈ s.jobs ∨ ∃ k, s.remoteRegistry.index k = some i := by
  cases h with
  | findRemote hconn hfind =>
    obtain heq | hold := Multiset.mem_cons.mp hmem
    · cases heq
      exact .inr (State.remoteIndex_of_find hconn hfind)
    · exact .inl hold
  | routeAnswer hjobs _ hanswers =>
    obtain heq | hold := Multiset.mem_cons.mp hmem
    · cases heq
      unfold OutMsg.answers at hanswers
      split at hanswers
      · rename_i ppd conn _ hconn
        split at hanswers
        · exact .inr (State.remoteIndex_of_find hconn hanswers)
        · cases hanswers
      · cases hanswers
    · rw [hjobs]
      exact .inl (Multiset.mem_cons_of_mem hold)
  | _ =>
    refine .inl (State.mem_jobs_iff.mpr (lt_of_lt_of_le (State.mem_jobs_iff.mp hmem) ?_))
    first
    | exact le_rfl
    | simp [State.weight_of_jobs ‹s.jobs = _ ::ₘ _›, Job.indicator]
    | simp [Job.indicator]

/-- A message for the device comes from a handler or from `sendMessageRoutine`, with a connection, or from a
    remote transaction. -/
theorem toPacket_step (h : Step s a s') {m : OutMsg C} (hmem : .toPacket m ∈ s'.jobs) :
    .toPacket m ∈ s.jobs ∨ m.connData < s.conns.length ∨ ∃ t ∈ s.remotes, m.connData = t.connData := by
  cases h with
  | send _ hconn =>
    obtain heq | hold := State.mem_jobs_sendMsgToPacket hmem
    · cases heq
      exact .inr (.inl (List.getElem?_eq_some_iff.mp hconn).1)
    · exact .inl hold
  | route hjobs hconn =>
    obtain heq | hold := State.mem_jobs_sendMsgToPacket hmem
    · cases heq
      exact .inr (.inl (List.getElem?_eq_some_iff.mp hconn).1)
    · rw [hjobs]
      exact .inl (Multiset.mem_cons_of_mem hold)
  | handOnMsg ht =>
    obtain heq | hold := State.mem_jobs_sendMsgToPacket hmem
    · cases heq
      exact .inr (.inr ⟨_, List.mem_of_getElem? ht, rfl⟩)
    · exact .inl hold
  | _ =>
    refine .inl (State.mem_jobs_iff.mpr (lt_of_lt_of_le (State.mem_jobs_iff.mp hmem) ?_))
    first
    | exact le_rfl
    | simp [State.weight_of_jobs ‹s.jobs = _ ::ₘ _›, Job.indicator]
    | simp [Job.indicator]

/-- Who has received an answer has not ended by an error. -/
theorem received_step (hI : ∀ (i : Nat) t, s.locals[i]? = some t → t.phase.hasReceived = true →
    t.ending.any Ending.isErr = false) (h : Step s a s') (i : Nat) (t : LocalTransaction C)
    (ht : s'.locals[i]? = some t) (hreceived : t.phase.hasReceived = true) :
    t.ending.any Ending.isErr = false := by
  cases h with
  | assembleRequest =>
    obtain ⟨-, rfl⟩ | hold := getElem?_append_cases ht
    · rfl
    · exact hI i t hold hreceived
  | handPacket =>
    obtain ⟨-, rfl⟩ | hold := getElem?_set_cases ht
    · rfl
    · exact hI i t hold hreceived
  | redirect =>
    obtain ⟨-, rfl⟩ | hold := getElem?_set_cases ht
    · rfl
    · exact hI i t hold hreceived
  | start | handOnPacket | handOnExternal | stop | destroy | closeChannels | remove | notify =>
    obtain ⟨-, rfl⟩ | hold := getElem?_set_cases ht
    · cases hreceived
    · exact hI i t hold hreceived
  | _ => exact hI i t ht hreceived

/-- Each step keeps a state sound. -/
theorem sound_step (hI : s.Sound) (h : Step s a s') : s'.Sound := by
  have hconns := conns_length_step h
  have hremotes := remotes_length_step h
  -- Lists only grow, so an index in range stays so; what is new comes with an index that was looked up.
  refine ⟨received_step hI.received h, fun t ht => ?_, fun t ht => ?_, remoteIndex_step hI.index h,
    fun i m hmem => ?_, fun m hmem => ?_, fun pd hmem r hr => ?_⟩
  · obtain hsame | ⟨new, hadded, -, -, hlt⟩ | ⟨j, tj, tj', htj, hset, hcontinues⟩ := locals_step h
    · rw [hsame] at ht
      exact (hI.locals t ht).trans_le hconns
    · rw [hadded, List.mem_append, List.mem_singleton] at ht
      obtain hold | rfl := ht
      · exact (hI.locals t hold).trans_le hconns
      · exact hlt.trans_le hconns
    · rw [hset] at ht
      obtain hold | rfl := List.mem_or_eq_of_mem_set ht
      · exact (hI.locals t hold).trans_le hconns
      · rw [hcontinues.connData]
        exact (hI.locals tj (List.mem_of_getElem? htj)).trans_le hconns
  · obtain hsame | ⟨new, hadded, hlt⟩ | ⟨j, tj, tj', htj, hset, hsame⟩ := remotes_step h
    · rw [hsame] at ht
      exact (hI.remotes t ht).trans_le hconns
    · rw [hadded, List.mem_append, List.mem_singleton] at ht
      obtain hold | rfl := ht
      · exact (hI.remotes t hold).trans_le hconns
      · exact hlt.trans_le hconns
    · rw [hset] at ht
      obtain hold | rfl := List.mem_or_eq_of_mem_set ht
      · exact (hI.remotes t hold).trans_le hconns
      · rw [hsame]
        exact (hI.remotes tj (List.mem_of_getElem? htj)).trans_le hconns
  · obtain hold | ⟨k, hk⟩ := answering_step h hmem
    · exact (hI.answering i m hold).trans_le hremotes
    · have hlt := hI.index k i hk
      rw [State.remoteRegistry, List.length_map] at hlt
      exact hlt.trans_le hremotes
  · obtain hold | hlt | ⟨t, ht, hsame⟩ := toPacket_step h hmem
    · exact (hI.toPacket m hold).trans_le hconns
    · exact hlt.trans_le hconns
    · rw [hsame]
      exact (hI.remotes t ht).trans_le hconns
  · obtain hold | ⟨-, hnone⟩ | ⟨i, t, ht, hanswer, -⟩ := toMsg_step h hmem
    · obtain ⟨hdecrypted, hprev, hlt⟩ := hI.toMsg pd hold r hr
      exact ⟨hdecrypted, hprev, hlt.trans_le hconns⟩
    · rw [hnone] at hr
      cases hr
    · refine ⟨hanswer.decryptedMsgCh, by rw [hanswer.prevAssemblerData]; rfl, ?_⟩
      rw [hanswer.connData]
      exact (hI.locals t (List.mem_of_getElem? ht)).trans_le hconns

end Soundness

/-! ## The tokens' ways -/

section Steps

variable [DecidableEq M] {s s' : State C} {a : Act C} {r : Nat}

/-- What each step does to the tokens of a caller. -/
theorem tokens_step (hsound : s.Sound) (h : Step s a s') : TokensMove r s a s' := by
  cases h with
  | keepalive hjobs _ _ _ htype =>
    refine .of_spoiled hjobs ?_ rfl rfl ?_ rfl rfl
    · rintro ⟨hrequest, -⟩
      rw [htype] at hrequest
      exact absurd hrequest (by cases s.device.deviceType <;> decide)
    · simp [Job.tokens, Job.messages]
  | assembleFailed hjobs =>
    refine .of_jobs 0 rfl rfl ?_ fun _ _ => rfl
    rw [State.received_complete, State.weight_of_jobs hjobs]
    simp only [State.weight_complete, State.weight_release, State.weight_allocate, State.weight_withJobs]
    show _ + (s.received r + OutMsg.tokens r _) + 0 = OutMsg.tokens r _ + _ + s.received r + 0
    omega
  | assembleExported hjobs _ _ _ _ _ hexport =>
    refine .of_spoiled hjobs ?_ rfl rfl ?_ rfl rfl
    · rintro ⟨-, hnone⟩
      rw [hexport] at hnone
      cases hnone
    · simp [Job.tokens, Job.messages]
  | assembleOther hjobs _ _ _ _ hmad _ hother =>
    refine .of_spoiled hjobs ?_ rfl rfl ?_ rfl rfl
    · rintro ⟨hrequest, -⟩
      rw [(assemble_reads hmad).1, hrequest] at hother
      cases hother
    · simp [Job.tokens, Job.messages]
  | assembleRequest hjobs =>
    -- the token passes from the message to its transaction
    refine ⟨0, ?_, fun _ _ => rfl⟩
    rw [State.tokens, State.tokens, State.weight_of_jobs hjobs]
    show _ + (List.map _ (_ ++ [_])).sum + _ + _ + 0 = _
    rw [sum_map_append_singleton]
    simp only [State.weight_addJob, State.weight_addLocalTransaction, State.weight_allocate,
      State.weight_withJobs]
    show 0 + _ + (s.localTokens r + _) + _ + _ + 0 = OutMsg.tokens r _ + _ + _ + _ + _ + 0
    rw [LocalTransaction.tokens_of_owes rfl, OutMsg.tokens]
    simp only [State.remoteMessages, State.received, State.addJob, State.addLocalTransaction,
      State.allocate, State.withJobs]
    omega
  | handPacket hjobs ht hphase =>
    refine .of_owes ht rfl rfl rfl rfl ?_ ?_ rfl
    · rw [LocalTransaction.owes, LocalTransaction.owes, hphase]
    · rw [State.weight_of_jobs hjobs]
      simp [Job.tokens, Job.messages]
  | redirect hjobs ht hphase =>
    refine .of_owes ht rfl rfl rfl rfl ?_ ?_ rfl
    · rw [LocalTransaction.owes, LocalTransaction.owes, hphase]
    · rw [State.weight_of_jobs hjobs]
      simp [Job.tokens, Job.messages]
  | start ht hphase =>
    exact .of_owes ht rfl rfl rfl rfl (by rw [LocalTransaction.owes, LocalTransaction.owes, hphase]) rfl rfl
  | stop ht hphase hstop =>
    rename_i i t ending
    refine .of_owes ht rfl rfl rfl rfl ?_ rfl rfl
    rw [LocalTransaction.owes, LocalTransaction.owes, hphase]
    cases ending with
    | packet c pkt | external => exact hstop.elim
    | _ => rfl
  | destroy ht hphase =>
    exact .of_owes ht rfl rfl rfl rfl (by rw [LocalTransaction.owes, LocalTransaction.owes, hphase]) rfl rfl
  | closeChannels ht hphase =>
    exact .of_owes ht rfl rfl rfl rfl (by rw [LocalTransaction.owes, LocalTransaction.owes, hphase]) rfl rfl
  | remove ht hphase =>
    exact .of_owes ht rfl rfl rfl rfl (by rw [LocalTransaction.owes, LocalTransaction.owes, hphase]) rfl rfl
  | notify ht hphase =>
    rename_i i t
    refine .of_setLocal 0 ht rfl rfl rfl ?_ fun _ _ => rfl
    have howes : t.owes = t.ending.any Ending.isErr := by rw [LocalTransaction.owes, hphase]
    rw [State.received_complete, State.weight_complete, State.weight_setLocal,
      LocalTransaction.tokens_of_not_owes (t := { t with phase := .done }) rfl]
    show _ + (s.received r + _) + 0 = _
    cases herr : t.ending.any Ending.isErr with
    | true =>
      rw [LocalTransaction.tokens_of_owes (howes.trans herr)]
      simp only [if_true]
      omega
    | false =>
      rw [LocalTransaction.tokens_of_not_owes (howes.trans herr)]
      simp
  | handOnPacket ht hphase =>
    rename_i i t initTime p pkt c
    have hended : LocalTransaction.tokens r { t with phase := .ended } = 0 :=
      LocalTransaction.tokens_of_not_owes (hsound.received i t ht (by rw [hphase]; rfl))
    have hwaits : t.tokens r = if t.responseMsgCh = some r then 1 else 0 :=
      LocalTransaction.tokens_of_owes (by rw [LocalTransaction.owes, hphase])
    obtain ⟨-, hqueued⟩ | ⟨hfull, hlost⟩ := State.recvPacketToMsg_cases _ _
    · rw [hqueued]
      refine .of_setLocal 0 ht rfl rfl rfl ?_ fun _ _ => rfl
      rw [State.weight_addJob, State.weight_setLocal, hended, hwaits]
      show (if t.responseMsgCh = some r then 1 else 0) + _ + 0 + s.received r + 0 = _
      omega
    · rw [hlost]
      refine .of_setLocal (t.tokens r) ht rfl rfl rfl ?_ fun hkeeps _ => ?_
      · rw [State.weight_setLocal, hended]
        show _ + 0 + s.received r + _ = _
        omega
      · rw [hwaits]
        exact if_neg fun hr => hfull (hkeeps _ _ _ _ ht hphase hr)
  | handOnExternal ht hphase =>
    rename_i i t ppd initTime
    have hended : LocalTransaction.tokens r { t with phase := .ended } = 0 :=
      LocalTransaction.tokens_of_not_owes (hsound.received i t ht (by rw [hphase]; rfl))
    have hwaits : t.tokens r = if t.responseMsgCh = some r then 1 else 0 :=
      LocalTransaction.tokens_of_owes (by rw [LocalTransaction.owes, hphase])
    refine .of_setLocal 0 ht rfl rfl rfl ?_ fun _ _ => rfl
    rw [State.received_complete, State.weight_complete, State.weight_setLocal, hended, hwaits]
    show _ + 0 + (s.received r + _) + 0 = _
    omega
  | parseFailed hjobs =>
    refine .of_jobs 0 rfl rfl ?_ fun _ _ => rfl
    rw [State.weight_of_jobs hjobs]
    show _ + State.received (State.complete _ _ _) r + 0 = _
    rw [State.received_complete]
    simp only [State.weight_wakeHandler, State.weight_complete, State.weight_release, State.weight_learn,
      State.weight_withJobs]
    show (if _ then 0 else 0) + _ + (s.received r + InPacket.tokens r _) + 0 = InPacket.tokens r _ + _ + _ + 0
    rw [ite_self]
    omega
  | parseAccess hjobs hrun hconn hreceive hdecrypted =>
    rename_i rest conn nowMilli now ppd pd
    have hnone : pd.tokens r = 0 := by
      refine if_neg fun hr => ?_
      rw [(hsound.toMsg pd (by rw [hjobs]; exact Multiset.mem_cons_self _ _) r hr).1] at hdecrypted
      cases hdecrypted
    refine .of_jobs 0 rfl rfl ?_ fun _ _ => rfl
    rw [State.weight_of_jobs hjobs]
    simp [Job.tokens, Job.messages, hnone]
    rfl
  | parseResponse hjobs _ _ _ _ hfeedback =>
    refine .of_jobs 0 rfl rfl ?_ fun _ _ => rfl
    rw [State.weight_of_jobs hjobs, State.received_complete, Job.tokens, InPacket.tokens, hfeedback]
    simp only [State.weight_complete, State.weight_release, State.weight_learn, State.weight_withJobs]
    show _ + (s.received r + _) + 0 = _ + _ + s.received r + 0
    omega
  | parseRequest hjobs _ _ _ _ hfeedback =>
    -- the new transaction has no message yet
    refine ⟨0, ?_, fun _ _ => rfl⟩
    rw [State.tokens, State.tokens, State.weight_of_jobs hjobs]
    show _ + _ + (List.map _ (_ ++ [_])).sum + _ + 0 = _
    rw [sum_map_append_singleton, Job.tokens, InPacket.tokens, hfeedback]
    simp only [State.weight_addJob, State.weight_addRemoteTransaction, State.weight_learn,
      State.weight_withJobs]
    show 0 + _ + s.localTokens r + (s.remoteMessages _ + 0) + s.received r + 0 = 0 + _ + _ + _ + _ + 0
    omega
  | parseOther hjobs _ _ _ _ hfeedback =>
    refine .of_jobs 0 rfl rfl (congrArg (· + s.received r) ?_) fun _ _ => rfl
    rw [State.weight_of_jobs hjobs]
    simp [Job.tokens, Job.messages, InPacket.tokens, hfeedback]
  | answer hjobs ht hphase =>
    refine .of_setRemote 0 ht rfl rfl rfl rfl ?_ fun _ _ => rfl
    rw [State.weight_of_jobs hjobs, RemoteTransaction.messages, RemoteTransaction.messages, hphase]
    simp only [State.weight_setRemote, State.weight_withJobs, Job.tokens, Job.messages]
    omega
  | handOnMsg ht hphase =>
    rename_i i rt m
    have hwaits : rt.messages (OutMsg.tokens r) = m.tokens r := by rw [RemoteTransaction.messages, hphase]
    obtain ⟨-, hqueued⟩ | ⟨hfull, hlost⟩ := State.sendMsgToPacket_cases _ _
    · rw [hqueued]
      refine .of_setRemote 0 ht rfl rfl rfl rfl ?_ fun _ _ => rfl
      rw [State.weight_addJob, State.weight_setRemote, hwaits]
      show m.tokens r + _ + 0 + 0 = _
      omega
    · rw [hlost]
      refine .of_setRemote (m.tokens r) ht rfl rfl rfl rfl ?_ fun hkeeps _ => ?_
      · rw [State.weight_setRemote, hwaits]
        rfl
      · exact if_neg fun hr => hfull (hkeeps _ _ ht hphase hr)
  | stopRemote ht hphase =>
    exact .of_setRemote 0 ht rfl rfl rfl rfl
      (by rw [RemoteTransaction.messages, RemoteTransaction.messages, hphase]; rfl) fun _ _ => rfl
  | destroyRemote ht hphase =>
    exact .of_setRemote 0 ht rfl rfl rfl rfl
      (by rw [RemoteTransaction.messages, RemoteTransaction.messages, hphase]; rfl) fun _ _ => rfl
  | closeRemote ht hphase =>
    exact .of_setRemote 0 ht rfl rfl rfl rfl
      (by rw [RemoteTransaction.messages, RemoteTransaction.messages, hphase]; rfl) fun _ _ => rfl
  | removeRemote ht hphase =>
    exact .of_setRemote 0 ht rfl rfl rfl rfl
      (by rw [RemoteTransaction.messages, RemoteTransaction.messages, hphase]; rfl) fun _ _ => rfl
  | post =>
    rename_i m _ _
    refine .of_jobs 0 rfl rfl ?_ fun _ _ => rfl
    rw [State.weight_callers, State.weight_addJob]
    show m.tokens r + _ + s.received r + 0 = _ + _ + m.tokens r
    omega
  | send hcaller hconn =>
    rename_i conn m
    obtain ⟨-, hqueued⟩ | ⟨hfull, hlost⟩ := State.sendMsgToPacket_cases s m
    · rw [hqueued]
      refine .of_jobs 0 rfl rfl ?_ fun _ _ => rfl
      rw [State.weight_callers, State.weight_addJob]
      show m.tokens r + _ + s.received r + 0 = _ + _ + m.tokens r
      omega
    · rw [hlost]
      exact .of_jobs (m.tokens r) rfl rfl rfl fun hkeeps _ => if_neg fun hr => hfull (hkeeps hr)
  | dropPosted hjobs =>
    rename_i rest m
    refine .of_jobs (m.tokens r) rfl rfl ?_ fun hkeeps _ => if_neg hkeeps
    rw [State.weight_of_jobs hjobs, State.weight_withJobs]
    show _ + s.received r + m.tokens r = m.tokens r + _ + _ + 0
    omega
  | route hjobs =>
    rename_i rest c conn m _ _
    have hqueue : rest.countP (·.inMsgToPacketQueue) = s.jobs.countP (·.inMsgToPacketQueue) := by
      rw [hjobs, Multiset.countP_cons_of_neg]
      exact Bool.false_ne_true
    obtain ⟨-, hqueued⟩ | ⟨hfull, hlost⟩ := State.sendMsgToPacket_cases (s.withJobs rest)
      { m with connData := c }
    · rw [hqueued]
      refine .of_jobs 0 rfl rfl (congrArg (· + s.received r) ?_) fun _ _ => rfl
      rw [State.weight_of_jobs hjobs, State.weight_addJob]
      rfl
    · rw [hlost]
      refine .of_jobs (m.tokens r) rfl rfl ?_ fun hkeeps _ => if_neg fun hr => hfull ?_
      · rw [State.weight_of_jobs hjobs, State.weight_withJobs]
        show _ + s.received r + m.tokens r = m.tokens r + _ + _ + 0
        omega
      · show rest.countP _ < _
        rw [hqueue]
        exact hkeeps hr
  | routeAnswer hjobs =>
    refine .of_jobs 0 rfl rfl (congrArg (· + s.received r) ?_) fun _ _ => rfl
    rw [State.weight_of_jobs hjobs]
    simp [Job.tokens, Job.messages]
  | findRemote _ _ hcaller =>
    refine .of_jobs 0 rfl rfl ?_ fun _ _ => rfl
    simp [Job.tokens, Job.messages, OutMsg.tokens, hcaller]
    rfl
  | _ =>
    refine .of_jobs 0 rfl rfl (congrArg (· + s.received r) ?_) fun _ _ => rfl
    first
    | rfl
    | simp [State.weight_of_jobs ‹s.jobs = _ ::ₘ _›, Job.tokens, Job.messages, InPacket.tokens]
    | simp [Job.tokens, Job.messages]

/-- What neither a new configuration nor the update of a peer changes of the device stays. -/
theorem device_step {β : Type} (g : Device C → β) (hpeer : ∀ (d : Device C) pk peer, g (d.addPeer pk peer) = g d)
    (hconfigure : ∀ d d' : Device C, d'.deviceType = d.deviceType → d'.staticEcdhCurve = d.staticEcdhCurve →
      d'.staticEcdhGmsm = d.staticEcdhGmsm → g d' = g d) (h : Step s a s') : g s'.device = g s.device := by
  cases h with
  | configure hrole hcurve hgmsm => exact hconfigure _ _ hrole hcurve hgmsm
  | parseFailed _ _ _ hreceive => exact receive_keeps g hpeer hreceive
  | parseAccess _ _ _ hreceive => exact receive_keeps g hpeer hreceive
  | parseResponse _ _ _ hreceive => exact receive_keeps g hpeer hreceive
  | parseRequest _ _ _ hreceive => exact receive_keeps g hpeer hreceive
  | parseOther _ _ _ hreceive => exact receive_keeps g hpeer hreceive
  | _ => rfl

/-- The device keeps its role. -/
theorem deviceType_step (h : Step s a s') : s'.device.deviceType = s.device.deviceType :=
  device_step Device.deviceType (fun _ _ _ => rfl) (fun _ _ hrole _ _ => hrole) h

omit [DecidableEq M] in
/-- A remote transaction that goes on brings no new message. -/
theorem messages_setRemote {i : Nat} {rt rt' : RemoteTransaction C} {w : OutMsg C → Nat}
    (ht : s.remotes[i]? = some rt) (hremotes : s'.remotes = s.remotes.set i rt')
    (hsum : s'.weight (Job.messages w) + rt'.messages w ≤ s.weight (Job.messages w) + rt.messages w) :
    s'.messages w ≤ s.messages w := by
  have hset := sum_map_set ht (RemoteTransaction.messages w) rt'
  rw [State.messages, State.messages, State.remoteMessages, State.remoteMessages, hremotes]
  omega

/-- A message stays the request it was handed in as. -/
theorem spoiled_step (h : Step s a s') (deviceType : DeviceType) :
    s'.messages (OutMsg.spoiled r deviceType) ≤
      s.messages (OutMsg.spoiled r deviceType) + a.brings (OutMsg.spoiled r deviceType) := by
  cases h with
  | parseRequest hjobs =>
    rw [State.messages, State.messages, State.weight_of_jobs hjobs]
    show _ + (List.map _ (_ ++ [_])).sum ≤ _
    rw [sum_map_append_singleton]
    simp only [State.weight_addJob, State.weight_addRemoteTransaction, State.weight_learn,
      State.weight_withJobs]
    show 0 + _ + (s.remoteMessages _ + 0) ≤ 0 + _ + s.remoteMessages _ + 0
    omega
  | answer hjobs ht hphase =>
    refine messages_setRemote ht rfl ?_
    rw [State.weight_of_jobs hjobs, RemoteTransaction.messages, RemoteTransaction.messages, hphase]
    simp only [State.weight_setRemote, State.weight_withJobs, Job.messages]
    omega
  | handOnMsg ht hphase =>
    rename_i i rt m
    refine messages_setRemote ht
      (show (State.sendMsgToPacket _ _).remotes = s.remotes.set i { rt with phase := .ended } from rfl) ?_
    rw [State.weight_sendMsgToPacket, State.weight_setRemote, RemoteTransaction.messages,
      RemoteTransaction.messages, hphase]
    -- The transaction fills in fields of its answer; that spoils no message that was not spoiled.
    have hlater : OutMsg.spoiled r deviceType { m with
        md := { m.md with prevParserData := some rt.parserData }
        connData := rt.connData
        encryptedPktCh := false } ≤ m.spoiled r deviceType := by
      unfold OutMsg.spoiled
      split
      · rename_i hspoiled
        rw [if_pos ⟨hspoiled.1, fun hrequest => hspoiled.2 ⟨hrequest.1, rfl⟩⟩]
      · exact Nat.zero_le _
    show (if _ then OutMsg.spoiled r deviceType _ else 0) + _ + 0 ≤ _ + m.spoiled r deviceType
    split <;> omega
  | stopRemote ht hphase =>
    exact messages_setRemote ht rfl (by rw [RemoteTransaction.messages, RemoteTransaction.messages, hphase]; rfl)
  | destroyRemote ht hphase =>
    exact messages_setRemote ht rfl (by rw [RemoteTransaction.messages, RemoteTransaction.messages, hphase]; rfl)
  | closeRemote ht hphase =>
    exact messages_setRemote ht rfl (by rw [RemoteTransaction.messages, RemoteTransaction.messages, hphase]; rfl)
  | removeRemote ht hphase =>
    exact messages_setRemote ht rfl (by rw [RemoteTransaction.messages, RemoteTransaction.messages, hphase]; rfl)
  | post =>
    rw [State.messages, State.messages, State.weight_callers, State.weight_addJob]
    show OutMsg.spoiled r deviceType _ + _ + s.remoteMessages _ ≤ _ + OutMsg.spoiled r deviceType _
    omega
  | send =>
    rw [State.messages, State.messages, State.weight_callers, State.weight_sendMsgToPacket]
    show (if _ then OutMsg.spoiled r deviceType _ else 0) + _ + s.remoteMessages _ ≤
      _ + OutMsg.spoiled r deviceType _
    split <;> omega
  | route hjobs =>
    rename_i rest c conn m _ _
    rw [State.messages, State.messages, State.weight_of_jobs hjobs, State.weight_sendMsgToPacket,
      State.weight_withJobs]
    show (if _ then m.spoiled r deviceType else 0) + _ + s.remoteMessages _ ≤
      OutMsg.spoiled r deviceType _ + _ + _ + 0
    split <;> omega
  | findRemote _ _ hcaller =>
    rename_i i c conn m id _ _
    have hnone : m.spoiled r deviceType = 0 := by
      rw [OutMsg.spoiled, hcaller]
      exact if_neg nofun
    rw [State.messages, State.messages, State.weight_addJob, Job.messages, hnone]
    exact (Nat.zero_add _).symm ▸ le_rfl
  | _ =>
    refine Nat.add_le_add_right (n := _) (m := _) ?_ _
    first
    | exact le_rfl
    | simp [State.weight_of_jobs ‹s.jobs = _ ::ₘ _›, Job.messages]
    | simp [Job.messages]

end Steps

end OpenNHP.Core.Routines
