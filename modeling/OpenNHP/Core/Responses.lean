/-
  What ends a local transaction (`nhp/core/transaction.go`, `device.go` and the connection routines).

  THE PROGRAM.  A connection routine matches a packet with a transaction by its type and its counter alone.
  `Run` receives the packet, returns, and deletes its map entry; only then a worker parses the packet, as the
  continuation of the request.  Whether it came over the transaction's connection and whether it is an answer
  at all is not asked before the transaction has ended on it (`forged_answer_ends`).

  THE SPECIFICATION.  A transaction that has not ended waits in the map and can receive.  One that has ended
  did so by an external message, by a closed connection or device, by its timeout, or by a packet of its own
  connection that is on its way to its parse or has passed it, as the response to its request, in the state
  and at the time of that parse (`EndedBy`).

  THE CRUX.  What a parse asks of a packet is in two parts.  One is the same at all times: that the packet
  carries what somebody assembled as the continuation of the request and encrypted to the device's key
  (`CarriesAnswer`).  The other is asked of the peer table, the connection and the clock: that the sender's
  key is admitted and the send time passes (`Admitted`).  Where a packet has the first and, at its parse, the
  second, the parse passes (`receive_answer`); and the packet settles whose key and which send time these are
  (`CarriesAnswer.unique`).  So the condition of a run is on the packets that come and on the state they are
  parsed in (`OnlyAnswers`), and not on how a parse ends.

  ASSEMBLY.  `Tracked` follows a packet from the dispatcher to `Run`, to the queue, to its parse; every step
  keeps it (`tracked_step`), so it holds along a run (`ends_by_answer`).
-/
import OpenNHP.Core.Tokens

namespace OpenNHP.Core.Routines

open OpenNHP.Core
open Tables (getElem?_set_cases getElem?_append_cases)

variable {M : Type} {C : Crypto M}

/-! ## Answers -/

/-- An assembly that answers a request: it continues with the scheme and the chain key of the request, goes to
    the device's key, and is of a type that the device takes for a response. -/
structure Answers (d : Device C) (mad ans : MsgAssemblerData C) : Prop where
  ready : ans.Ready
  cipherScheme : ans.cipherScheme = mad.cipherScheme
  chainKey : ans.chainKey = mad.chainKey
  remotePubKey : ans.remotePubKey = some (d.getEcdhByCipherScheme mad.cipherScheme).publicKey
  response : isTransactionResponse d.deviceType ans.headerType = true

/-- A packet is what became of such an assembly: somebody encrypted it. -/
structure CarriesAnswer (d : Device C) (mad : MsgAssemblerData C) (pkt : Packet M) (ans : MsgAssemblerData C) :
    Prop where
  answers : Answers d mad ans
  carries : ∃ preamble sent, ans.encrypt preamble = .ok sent ∧ pkt.Carries sent

/-- The device lets an answer in: an overloaded server takes its type, the key of its sender is admitted, and
    its send time passes the time tests. -/
structure Admitted [DecidableEq M] (d : Device C) (ans : MsgAssemblerData C) (conn : ConnectionData M)
    (initTime nowMilli : Int64) : Prop where
  atOverload : d.deviceType = .server → d.overload = true → ans.headerType ∈ [HeaderType.ext, .aol, .art]
  peer : ∃ d', PacketParserData.admitPeer d ans.headerType ans.deviceEcdh.publicKey initTime conn.remoteAddr
    nowMilli = .ok d'
  timely : PacketParserData.recvTimeError d.deviceType ans.headerType conn initTime ans.localInitTime = none

section Answering

variable {d d' : Device C} {mad ans ans' : MsgAssemblerData C} {pkt : Packet M}

/-- Whether a packet carries an answer depends on the device's role and static keys only. -/
theorem CarriesAnswer.congr (hrole : d'.deviceType = d.deviceType)
    (hkeys : d'.getEcdhByCipherScheme = d.getEcdhByCipherScheme) (h : CarriesAnswer d mad pkt ans) :
    CarriesAnswer d' mad pkt ans := by
  refine ⟨⟨h.answers.ready, h.answers.cipherScheme, h.answers.chainKey, ?_, ?_⟩, h.carries⟩
  · rw [hkeys]
    exact h.answers.remotePubKey
  · rw [hrole]
    exact h.answers.response

/-- The types of responses are named, and a re-knock is none of them. -/
theorem named_of_response {dt : DeviceType} {t : HeaderType} (h : isTransactionResponse dt t = true) :
    t.Named ∧ t ≠ .rkn := by
  cases t with
  | rkn | other n => cases dt <;> cases h
  | _ => exact ⟨trivial, nofun⟩

/-- The handshake of the sender is one that the device computes too. -/
theorem CarriesAnswer.handshake (hC : LawfulCrypto C) (h : CarriesAnswer d mad pkt ans) :
    ∃ ess ss preamble,
      (d.getEcdhByCipherScheme ans.cipherScheme).sharedSecret ans.ephermeralEcdh.publicKey = some ess ∧
      (d.getEcdhByCipherScheme ans.cipherScheme).sharedSecret ans.deviceEcdh.publicKey = some ss ∧
      ans.sealedSize < 65536 ∧
      pkt.Carries ((ans.afterHandshake
        (ans.handshake (d.getEcdhByCipherScheme ans.cipherScheme).publicKey ess ss)).sent preamble) := by
  obtain ⟨preamble, sent, hencrypt, hcarries⟩ := h.carries
  have hr := h.answers.ready
  have hpk := h.answers.remotePubKey
  rw [← h.answers.cipherScheme] at hpk
  obtain ⟨-, -, -, -, -, -, -, hfit, -⟩ := (MsgAssemblerData.encrypt_eq_ok hr.chainHash).mp hencrypt
  rw [Header.size, hr.scheme] at hfit
  have hsize : ans.sealedSize < 65536 := by
    have hbuf : packetBufferSize = 4096 := rfl
    rw [MsgAssemblerData.sealedSize]
    split
    · decide
    · omega
  obtain ⟨ess, ss, hess, hss, hencrypt'⟩ := hr.toBegun.encrypt hC (d.getEcdhByCipherScheme_eccType _) hpk hfit
    preamble
  rw [hencrypt] at hencrypt'
  obtain rfl := Go.ok.inj hencrypt'
  exact ⟨ess, ss, preamble, hess, hss, hsize, hcarries⟩

/-- A packet tells who sent it, when, and of what type: each field opens to one text only. -/
theorem CarriesAnswer.unique (hC : LawfulCrypto C) (h : CarriesAnswer d mad pkt ans)
    (h' : CarriesAnswer d mad pkt ans') : ans'.headerType = ans.headerType ∧
      ans'.deviceEcdh.publicKey = ans.deviceEcdh.publicKey ∧ ans'.localInitTime = ans.localInitTime := by
  obtain ⟨ess, ss, preamble, hess, hss, hsize, hcarries⟩ := h.handshake hC
  obtain ⟨ess', ss', preamble', hess', hss', hsize', hcarries'⟩ := h'.handshake hC
  obtain ⟨hnamed, hrkn⟩ := named_of_response h.answers.response
  obtain ⟨hnamed', hrkn'⟩ := named_of_response h'.answers.response
  have hscheme := h'.answers.cipherScheme.trans h.answers.cipherScheme.symm
  have hcast : pkt.cast ans.cipherScheme = _ := hcarries.cast.trans
    (ans.sentHeader_eq_forge h.answers.ready.toBegun hrkn _ rfl rfl preamble)
  have hcast' : pkt.cast ans'.cipherScheme = _ := hcarries'.cast.trans
    (ans'.sentHeader_eq_forge h'.answers.ready.toBegun hrkn' _ rfl rfl preamble')
  rw [hscheme] at hess' hss' hcast'
  obtain ⟨hcommon, hpk, htime⟩ := Handshake.forge_inj hC (hcast.symm.trans hcast') hscheme
    (h'.answers.chainKey.trans h.answers.chainKey.symm) rfl
    (fun heph => by
      have heph : ans'.ephermeralEcdh.publicKey = ans.ephermeralEcdh.publicKey := heph
      rw [heph, hess] at hess'
      exact (Option.some.inj hess').symm)
    (fun hpk => by
      rw [hpk, hss] at hss'
      exact (Option.some.inj hss').symm)
  have htype := congrArg (fun common => common.typeAndPayloadSize.1) hcommon
  have hread : (ans.sentCommon preamble).typeAndPayloadSize = _ :=
    HeaderCommon.typeAndPayloadSize_set _ _ hnamed hsize
  have hread' : (ans'.sentCommon preamble').typeAndPayloadSize = _ :=
    HeaderCommon.typeAndPayloadSize_set _ _ hnamed' hsize'
  rw [hread, hread'] at htype
  exact ⟨htype, hpk, htime⟩

variable [DecidableEq M]

/-- The parse of an answer passes where the device lets the answer in. -/
theorem receive_answer (hC : LawfulCrypto C) {pd : PacketData C} {nowMilli now : Int64}
    (h : CarriesAnswer d mad pd.basePacket ans) (hprev : pd.prevAssemblerData = some mad)
    (hadmitted : Admitted d ans pd.connData pd.initTime nowMilli) :
    ∃ ppd, receive d pd nowMilli now = (some ppd, .ok ()) := by
  obtain ⟨ess, ss, preamble, hess, hss, hsize, hcarries⟩ := h.handshake hC
  obtain ⟨hnamed, hrkn⟩ := named_of_response h.answers.response
  obtain ⟨d', hpeer⟩ := hadmitted.peer
  have hstart : pd.startState d = PacketParserData.start d pd ans.cipherScheme ans.chainKey none [] := by
    rw [PacketData.startState, hprev, h.answers.cipherScheme, h.answers.chainKey]
    rfl
  obtain ⟨ppd, hreceive, -⟩ := receive_sent hC h.answers.ready hstart hess hss hcarries hnamed hrkn hsize
    hadmitted.atOverload hpeer hadmitted.timely
  exact ⟨ppd, hreceive⟩

end Answering


/-! ## The property and when it holds -/

/-- `Run` has not left its select. -/
def LocalPhase.pending : LocalPhase C → Bool
  | .added | .waiting => true
  | _ => false

variable [DecidableEq M]

/-- What comes in as a response to a pending request came over its connection and carries an answer to it; the
    queue of the workers has room for it; and when it is parsed the device lets it in.  No local transaction is
    added under the id of an unfinished one. -/
def OnlyAnswers (s : State C) : Act C → Prop
  | .takeInbound c _ pkt _ =>
    isTransactionResponse s.device.deviceType (packetType pkt) = true →
      ∀ i t, s.findLocalTransaction pkt.common.counter = some i → s.locals[i]? = some t →
        t.phase.pending = true → c = t.connData ∧ ∃ ans, CarriesAnswer s.device t.mad pkt ans
  | .handOn i _ => ∀ t p c pkt, s.locals[i]? = some t → t.phase = .gotPacket p c pkt →
      s.jobs.countP (·.inPacketToMsgQueue) < recvQueueSize
  | .parse pd nowMilli _ => ∀ i mad conn ans, pd.prevAssemblerData = some (i, mad) →
      s.conns[pd.connData]? = some conn → CarriesAnswer s.device mad pd.content ans →
        Admitted s.device ans conn.data pd.initTime nowMilli
  | .assemble m rnd buf preamble now => AddsFresh s (.assemble m rnd buf preamble now)
  | _ => True

section Ended

variable (Cond : State C → Act C → Prop) (d : Device C) (s : State C) (i : Nat) (t : LocalTransaction C)

/-- A packet is on its way to its parse as the response to the request: `Run` has it, or it is queued. -/
def Underway (pkt : Packet M) : Prop :=
  (∃ p c, t.phase = .gotPacket p c pkt) ∨ ∃ pd, .toMsg pd ∈ s.jobs ∧ pd.content = pkt ∧ pd.Answer i t

/-- A step of the run has parsed a packet as the response to the request, over its connection, and the packet
    passed `createPacketParserData`, `validatePeer` and `decryptBody`. -/
def Passed (pkt : Packet M) : Prop :=
  ∃ u u' pd nowMilli now conn ppd, Reached Cond d u ∧ (u.crashed = false ∧ Cond u (.parse pd nowMilli now)) ∧
    Step u (.parse pd nowMilli now) u' ∧ Runs.Reaches Step (fun s a => s.crashed = false ∧ Cond s a) u' s ∧
    pd.content = pkt ∧ pd.prevAssemblerData = some (i, t.mad) ∧ pd.connData = t.connData ∧
    u.conns[pd.connData]? = some conn ∧ receive u.device (pd.current conn) nowMilli now = (some ppd, .ok ())

/-- A transaction ended rightly: by a packet of its own connection that is on its way to its parse or has
    passed it, by an external message, by a closed connection or device, or by its timeout. -/
def EndedBy : Ending M → Prop
  | .packet c pkt => c = t.connData ∧ (Underway s i t pkt ∨ Passed Cond d s i t pkt)
  | .external => True
  | .closedConnection => ∃ conn, s.conns[t.connData]? = some conn ∧ conn.stopSignal = true
  | .closedDevice => s.stopped = true
  | .timeout => True

end Ended

/-! ## Steps -/

section Steps

variable {Cond : State C → Act C → Prop} {d : Device C} {s s' : State C} {a : Act C} {i c : Nat} {pkt : Packet M}

/-- What a dispatcher holds has been matched. -/
theorem dispatching_step (h : Step s a s') {p : Nat} (hmem : .dispatching c p pkt i ∈ s'.jobs) :
    .dispatching c p pkt i ∈ s.jobs ∨ ∃ initTime, a = .takeInbound c p pkt initTime ∧
      isTransactionResponse s.device.deviceType (packetType pkt) = true ∧
      s.findLocalTransaction pkt.common.counter = some i := by
  cases h with
  | dispatch hjobs hconn hopen hidle htype hresponse hfind =>
    obtain heq | hrest := Multiset.mem_cons.mp hmem
    · cases heq
      exact .inr ⟨_, rfl, hresponse, hfind⟩
    · rw [hjobs]
      exact .inl (Multiset.mem_cons_of_mem hrest)
  | handPacket hjobs =>
    rw [hjobs]
    exact .inl (Multiset.mem_cons_of_mem hmem)
  | _ =>
    refine .inl (State.mem_jobs_iff.mpr (lt_of_lt_of_eq (State.mem_jobs_iff.mp hmem) ?_))
    first
    | rfl
    | simp [State.weight_of_jobs ‹s.jobs = _ ::ₘ _›, Job.indicator]
    | simp [Job.indicator]

/-- How the ending of a transaction comes about. -/
def Ends (s : State C) (i : Nat) (t : LocalTransaction C) (ending : Ending M) : Prop :=
  s.mayStop t ending ∨ ending = .external ∨
    ∃ c p pkt, ending = .packet c pkt ∧ .dispatching c p pkt i ∈ s.jobs

/-- What a transaction behind a step was before it: not there yet, not ended by the step, or ended by it. -/
inductive Before (s : State C) (i : Nat) (t' : LocalTransaction C) : Prop
  | added (hnone : s.locals[i]? = none) (hending : t'.ending = none) (hpending : t'.phase.pending = true)
  | kept {t} (ht : s.locals[i]? = some t) (hcontinues : t.Continues t') (hending : t'.ending = t.ending)
    (hpending : t'.phase.pending = t.phase.pending)
  | ended {t} {ending : Ending M} (ht : s.locals[i]? = some t) (hcontinues : t.Continues t')
    (hpending : t.phase.pending = true) (hover : t'.phase.pending = false)
    (hending : t'.ending = some ending) (hends : Ends s i t ending)
    (hgot : ∀ c pkt, ending = .packet c pkt → ∃ p, t'.phase = .gotPacket p c pkt)

/-- What a transaction was before the step, by what it is now. -/
theorem ending_step (h : Step s a s') {t' : LocalTransaction C} (ht' : s'.locals[i]? = some t') :
    Before s i t' := by
  -- the other transactions of a step that takes one on
  have hother : s.locals[i]? = some t' → Before s i t' := fun ht => .kept ht (.refl t') rfl rfl
  cases h with
  | assembleRequest =>
    obtain ⟨rfl, rfl⟩ | hold := getElem?_append_cases ht'
    · exact .added (List.getElem?_eq_none le_rfl) rfl rfl
    · exact hother hold
  | handPacket hjobs ht hphase =>
    obtain ⟨rfl, rfl⟩ | hold := getElem?_set_cases ht'
    · refine .ended ht ⟨rfl, rfl, rfl, rfl, rfl⟩ (by rw [hphase]; rfl) rfl rfl (.inr (.inr ?_)) ?_
      · rw [hjobs]
        exact ⟨_, _, _, rfl, Multiset.mem_cons_self _ _⟩
      · rintro c pkt heq
        cases heq
        exact ⟨_, rfl⟩
    · exact hother hold
  | redirect _ ht hphase =>
    obtain ⟨rfl, rfl⟩ | hold := getElem?_set_cases ht'
    · exact .ended ht ⟨rfl, rfl, rfl, rfl, rfl⟩ (by rw [hphase]; rfl) rfl rfl (.inr (.inl rfl)) nofun
    · exact hother hold
  | stop ht hphase hstop =>
    obtain ⟨rfl, rfl⟩ | hold := getElem?_set_cases ht'
    · refine .ended ht ⟨rfl, rfl, rfl, rfl, rfl⟩ (by rw [hphase]; rfl) rfl rfl (.inl hstop) ?_
      rintro c pkt rfl
      exact hstop.elim
    · exact hother hold
  | start ht hphase | handOnPacket ht hphase | handOnExternal ht hphase | destroy ht hphase
  | closeChannels ht hphase | remove ht hphase | notify ht hphase =>
    obtain ⟨rfl, rfl⟩ | hold := getElem?_set_cases ht'
    · exact .kept ht ⟨rfl, rfl, rfl, rfl, rfl⟩ rfl (by rw [hphase]; rfl)
    · exact hother hold
  | _ => exact hother ht'

/-- `Run` has a packet from a dispatcher, or from before. -/
theorem gotPacket_source (h : Step s a s') {t' : LocalTransaction C} {p : Nat} (ht' : s'.locals[i]? = some t')
    (hphase : t'.phase = .gotPacket p c pkt) :
    s.locals[i]? = some t' ∨
      ∃ t, s.locals[i]? = some t ∧ t.Continues t' ∧ t.phase.pending = true ∧ .dispatching c p pkt i ∈ s.jobs := by
  cases h with
  | assembleRequest =>
    obtain ⟨rfl, rfl⟩ | hold := getElem?_append_cases ht'
    · cases hphase
    · exact .inl hold
  | handPacket hjobs ht hwaiting =>
    obtain ⟨rfl, rfl⟩ | hold := getElem?_set_cases ht'
    · cases hphase
      refine .inr ⟨_, ht, ⟨rfl, rfl, rfl, rfl, rfl⟩, by rw [hwaiting]; rfl, ?_⟩
      rw [hjobs]
      exact Multiset.mem_cons_self _ _
    · exact .inl hold
  | start | redirect | stop | handOnPacket | handOnExternal | destroy | closeChannels | remove | notify =>
    obtain ⟨rfl, rfl⟩ | hold := getElem?_set_cases ht'
    · cases hphase
    · exact .inl hold
  | _ => exact .inl ht'

/-- `Run` keeps its packet until it hands it on. -/
theorem gotPacket_leaves (h : Step s a s') {t : LocalTransaction C} {p : Nat} (ht : s.locals[i]? = some t)
    (hphase : t.phase = .gotPacket p c pkt) :
    s'.locals[i]? = some t ∨ ∃ initTime pd, a = .handOn i initTime ∧ pd.content = pkt ∧ pd.Answer i t ∧
      s'.jobs = (s.recvPacketToMsg pd).jobs := by
  -- a step of another transaction, or one that finds this one elsewhere
  have hother : ∀ {j : Nat} {tj tj' : LocalTransaction C}, s.locals[j]? = some tj → tj.phase ≠ t.phase →
      (s.locals.set j tj')[i]? = some t := by
    intro j tj tj' htj hne
    rw [List.getElem?_set_ne, ht]
    rintro rfl
    rw [ht, Option.some.injEq] at htj
    exact hne (congrArg LocalTransaction.phase htj.symm)
  cases h with
  | assembleRequest =>
    refine .inl ?_
    show (s.locals ++ [_])[i]? = some t
    rw [List.getElem?_append_left (List.getElem?_eq_some_iff.mp ht).1, ht]
  | handOnPacket htj hgot =>
    rename_i j tj initTime p' pkt' c'
    by_cases hij : j = i
    · subst hij
      rw [ht, Option.some.injEq] at htj
      subst htj
      rw [hphase] at hgot
      cases hgot
      exact .inr ⟨_, _, rfl, rfl, ⟨rfl, rfl, rfl, rfl⟩, rfl⟩
    · refine .inl ?_
      show (s.locals.set j _)[i]? = some t
      rw [List.getElem?_set_ne hij, ht]
  | start htj hj | handPacket _ htj hj | redirect _ htj hj | stop htj hj | handOnExternal htj hj
  | destroy htj hj | closeChannels htj hj | remove htj hj | notify htj hj =>
    exact .inl (hother htj (by rw [hj, hphase]; nofun))
  | _ => exact .inl ht

/-- What is queued for a parse stays queued until it is parsed. -/
theorem toMsg_leaves (h : Step s a s') {pd : InPacket C} (hmem : .toMsg pd ∈ s.jobs) :
    .toMsg pd ∈ s'.jobs ∨ ∃ nowMilli now, a = .parse pd nowMilli now := by
  have hkeep : ∀ {pd' : InPacket C} {rest}, s.jobs = .toMsg pd' ::ₘ rest → pd' ≠ pd →
      s.weight (Job.indicator (.toMsg pd)) ≤ (rest.map (Job.indicator (.toMsg pd))).sum := by
    intro pd' rest hjobs hne
    rw [State.weight_of_jobs hjobs, Job.indicator, if_neg fun heq => hne (Job.toMsg.inj heq), Nat.zero_add]
  by_cases hparse : ∃ nowMilli now, a = .parse pd nowMilli now
  · exact .inr hparse
  refine .inl (State.mem_jobs_iff.mpr (lt_of_lt_of_le (State.mem_jobs_iff.mp hmem) ?_))
  cases h with
  | parseFailed hjobs | parseAccess hjobs | parseResponse hjobs | parseRequest hjobs | parseOther hjobs =>
    -- a packet is parsed, but not this one
    refine (hkeep hjobs fun heq => hparse ⟨_, _, congrArg (fun pd => Act.parse pd _ _) heq⟩).trans ?_
    simp [Job.indicator]
  | _ =>
    first
    | exact le_rfl
    | simp [State.weight_of_jobs ‹s.jobs = _ ::ₘ _›, Job.indicator]
    | simp [Job.indicator]

end Steps

/-! ## Runs -/

/-- What a run keeps: the role and the static keys of the device, an exact map, and an answer to its request in
    every packet that a dispatcher holds for a pending transaction, that `Run` has, or that is queued as a
    response. -/
structure Tracked (d : Device C) (s : State C) : Prop where
  reached : Reached OnlyAnswers d s
  role : s.device.deviceType = d.deviceType
  keys : s.device.getEcdhByCipherScheme = d.getEcdhByCipherScheme
  exact : s.localRegistry.Exact
  matched : ∀ c p pkt i, .dispatching c p pkt i ∈ s.jobs → ∃ t, s.locals[i]? = some t ∧
    (t.phase.pending = true → c = t.connData ∧ ∃ ans, CarriesAnswer d t.mad pkt ans)
  got : ∀ (i : Nat) t p c pkt, s.locals[i]? = some t → t.phase = .gotPacket p c pkt →
    c = t.connData ∧ ∃ ans, CarriesAnswer d t.mad pkt ans
  queued : ∀ pd i mad, .toMsg pd ∈ s.jobs → pd.prevAssemblerData = some (i, mad) →
    ∃ ans, CarriesAnswer d mad pd.content ans
  pending : ∀ (i : Nat) t, s.locals[i]? = some t → t.ending = none → t.phase.pending = true
  ended : ∀ (i : Nat) t, s.locals[i]? = some t → ∀ ending, t.ending = some ending →
    EndedBy OnlyAnswers d s i t ending

section Run

variable {d : Device C} {s s' : State C} {a : Act C} {i : Nat} {t t' : LocalTransaction C}

omit [DecidableEq M] in
/-- A queued answer stays the answer of its transaction. -/
theorem InPacket.Answer.continues {pd : InPacket C} (h : pd.Answer i t) (hcontinues : t.Continues t') :
    pd.Answer i t' := by
  refine ⟨?_, ?_, h.decryptedMsgCh, ?_⟩
  · rw [hcontinues.mad]
    exact h.prevAssemblerData
  · rw [hcontinues.responseMsgCh]
    exact h.feedbackMsgCh
  · rw [hcontinues.connData]
    exact h.connData

/-- What has passed its parse stays so. -/
theorem Passed.step {Cond : State C → Act C → Prop} {pkt : Packet M} (h : Passed Cond d s i t pkt)
    (hcontinues : t.Continues t') (hcond : s.crashed = false ∧ Cond s a) (hstep : Step s a s') :
    Passed Cond d s' i t' pkt := by
  obtain ⟨u, u', pd, nowMilli, now, conn, ppd, hu, hparse, hstep', hus, hpkt, hprev, hconnData, hrest⟩ := h
  refine ⟨u, u', pd, nowMilli, now, conn, ppd, hu, hparse, hstep', hus.step hcond hstep, hpkt, ?_, ?_, hrest⟩
  · rw [hcontinues.mad]
    exact hprev
  · rw [hcontinues.connData]
    exact hconnData

/-- The parse of a queued answer passes. -/
theorem Tracked.passed (hC : LawfulCrypto C) (hI : Tracked d s) {pd : InPacket C} {nowMilli now : Int64}
    (hcond : s.crashed = false ∧ OnlyAnswers s (.parse pd nowMilli now)) (hstep : Step s (.parse pd nowMilli now) s')
    (hmem : .toMsg pd ∈ s.jobs) (hanswer : pd.Answer i t) : Passed OnlyAnswers d s' i t pd.content := by
  obtain ⟨conn, hconn⟩ : ∃ conn, s.conns[pd.connData]? = some conn := by
    cases hstep with
    | parseFailed _ _ hconn | parseAccess _ _ hconn | parseResponse _ _ hconn | parseRequest _ _ hconn
    | parseOther _ _ hconn | parsePanic _ _ hconn => exact ⟨_, hconn⟩
  obtain ⟨ans, hans⟩ := hI.queued pd i t.mad hmem hanswer.prevAssemblerData
  have hans := hans.congr hI.role hI.keys
  have hadmitted := hcond.2 i t.mad conn ans hanswer.prevAssemblerData hconn hans
  have hprev : (pd.current conn).prevAssemblerData = some t.mad := by
    show pd.prevAssemblerData.map Prod.snd = _
    rw [hanswer.prevAssemblerData]
    rfl
  have hans : CarriesAnswer s.device t.mad (pd.current conn).basePacket ans := hans
  obtain ⟨ppd, hreceive⟩ : ∃ ppd, receive s.device (pd.current conn) nowMilli now = (some ppd, .ok ()) :=
    receive_answer hC hans hprev hadmitted
  exact ⟨s, s', pd, nowMilli, now, conn, ppd, hI.reached, hcond, hstep, .refl, rfl, hanswer.prevAssemblerData,
    hanswer.connData, hconn, hreceive⟩

/-- A packet goes from `Run` into the queue, and from the queue to its parse. -/
theorem Tracked.underway_step (hC : LawfulCrypto C) (hI : Tracked d s)
    (hcond : s.crashed = false ∧ OnlyAnswers s a) (hstep : Step s a s') (ht : s.locals[i]? = some t)
    (ht' : s'.locals[i]? = some t') (hcontinues : t.Continues t') {pkt : Packet M} (h : Underway s i t pkt) :
    Underway s' i t' pkt ∨ Passed OnlyAnswers d s' i t' pkt := by
  obtain ⟨p, c, hphase⟩ | ⟨pd, hmem, rfl, hanswer⟩ := h
  · obtain hsame | ⟨initTime, pd, rfl, hpkt, hanswer, hjobs⟩ := gotPacket_leaves hstep ht hphase
    · rw [ht', Option.some.injEq] at hsame
      exact .inl (.inl ⟨p, c, by rw [hsame, hphase]⟩)
    · refine .inl (.inr ⟨pd, ?_, hpkt, hanswer.continues hcontinues⟩)
      rw [hjobs, State.recvPacketToMsg, if_pos (hcond.2 t p c pkt ht hphase)]
      exact Multiset.mem_cons_self _ _
  · obtain hkeep | ⟨nowMilli, now, rfl⟩ := toMsg_leaves hstep hmem
    · exact .inl (.inr ⟨pd, hkeep, rfl, hanswer.continues hcontinues⟩)
    · exact .inr (hI.passed hC hcond hstep hmem (hanswer.continues hcontinues))

/-- How a transaction has ended is right in the next state, too. -/
theorem Tracked.endedBy_step (hC : LawfulCrypto C) (hI : Tracked d s)
    (hcond : s.crashed = false ∧ OnlyAnswers s a) (hstep : Step s a s') (ht : s.locals[i]? = some t)
    (ht' : s'.locals[i]? = some t') (hcontinues : t.Continues t') {ending : Ending M}
    (h : EndedBy OnlyAnswers d s i t ending) : EndedBy OnlyAnswers d s' i t' ending := by
  cases ending with
  | packet c pkt =>
    refine ⟨h.1.trans hcontinues.connData.symm, ?_⟩
    obtain hunderway | hpassed := h.2
    · exact hI.underway_step hC hcond hstep ht ht' hcontinues hunderway
    · exact .inr (hpassed.step hcontinues hcond hstep)
  | closedConnection =>
    show ∃ conn, s'.conns[t'.connData]? = some conn ∧ _
    rw [hcontinues.connData]
    exact stopSignal_step hstep h
  | closedDevice => exact stopped_step hstep h
  | external | timeout => trivial

/-- A packet that is being matched carries an answer. -/
theorem Tracked.matched_of_found (hI : Tracked d s) {c p : Nat} {pkt : Packet M} {initTime : Int64}
    (hcond : OnlyAnswers s (.takeInbound c p pkt initTime))
    (hresponse : isTransactionResponse s.device.deviceType (packetType pkt) = true)
    (hfind : s.findLocalTransaction pkt.common.counter = some i) :
    ∃ t, s.locals[i]? = some t ∧
      (t.phase.pending = true → c = t.connData ∧ ∃ ans, CarriesAnswer d t.mad pkt ans) := by
  have hentry : (s.locals.map _)[i]? = _ := (hI.exact pkt.common.counter i).mp hfind
  rw [List.getElem?_map, Option.map_eq_some_iff] at hentry
  obtain ⟨t, ht, -⟩ := hentry
  refine ⟨t, ht, fun hpending => ?_⟩
  obtain ⟨hconn, ans, hans⟩ := hcond hresponse i t hfind ht hpending
  exact ⟨hconn, ans, hans.congr hI.role.symm hI.keys.symm⟩

/-- A packet is matched only with a transaction whose answer it carries, or whose time is over. -/
theorem Tracked.matched_step (hI : Tracked d s) (hcond : OnlyAnswers s a) (hstep : Step s a s') {c p : Nat}
    {pkt : Packet M} (hmem : .dispatching c p pkt i ∈ s'.jobs) : ∃ t', s'.locals[i]? = some t' ∧
      (t'.phase.pending = true → c = t'.connData ∧ ∃ ans, CarriesAnswer d t'.mad pkt ans) := by
  have hmatched : ∃ t, s.locals[i]? = some t ∧
      (t.phase.pending = true → c = t.connData ∧ ∃ ans, CarriesAnswer d t.mad pkt ans) := by
    obtain hold | ⟨initTime, rfl, hresponse, hfind⟩ := dispatching_step hstep hmem
    · exact hI.matched c p pkt i hold
    · exact hI.matched_of_found hcond hresponse hfind
  obtain ⟨t, ht, hanswer⟩ := hmatched
  obtain ⟨t', ht', hcontinues⟩ := local_continues hstep ht
  refine ⟨t', ht', fun hpending' => ?_⟩
  -- a transaction that is still pending was pending before
  have hpending : t.phase.pending = true := by
    cases ending_step hstep ht' with
    | added hnone => rw [ht] at hnone; cases hnone
    | kept ht₀ _ _ hsame =>
      rw [ht, Option.some.injEq] at ht₀
      rw [ht₀, ← hsame, hpending']
    | ended _ _ _ hover => rw [hpending'] at hover; cases hover
  rw [hcontinues.connData, hcontinues.mad]
  exact hanswer hpending

/-- `Run` gets what was matched, -/
theorem Tracked.got_step (hI : Tracked d s) (hstep : Step s a s') {p c : Nat} {pkt : Packet M}
    (ht' : s'.locals[i]? = some t') (hphase : t'.phase = .gotPacket p c pkt) :
    c = t'.connData ∧ ∃ ans, CarriesAnswer d t'.mad pkt ans := by
  obtain hsame | ⟨t, ht, hcontinues, hpending, hmem⟩ := gotPacket_source hstep ht' hphase
  · exact hI.got i t' p c pkt hsame hphase
  · obtain ⟨t₀, ht₀, hanswer⟩ := hI.matched c p pkt i hmem
    rw [ht, Option.some.injEq] at ht₀
    subst ht₀
    rw [hcontinues.connData, hcontinues.mad]
    exact hanswer hpending

/-- and hands it on to be parsed. -/
theorem Tracked.queued_step (hI : Tracked d s) (hstep : Step s a s') {pd : InPacket C} {mad : MsgAssemblerData C}
    (hmem : .toMsg pd ∈ s'.jobs) (hprev : pd.prevAssemblerData = some (i, mad)) :
    ∃ ans, CarriesAnswer d mad pd.content ans := by
  obtain hold | ⟨hnone, -⟩ | ⟨j, t, ht, hanswer, p, c, hphase⟩ := toMsg_step hstep hmem
  · exact hI.queued pd i mad hold hprev
  · rw [hnone] at hprev
    cases hprev
  · rw [hanswer.prevAssemblerData, Option.some.injEq, Prod.mk.injEq] at hprev
    obtain ⟨rfl, rfl⟩ := hprev
    exact (hI.got j t p c pd.content ht hphase).2

/-- Each step of a run keeps all of it. -/
theorem tracked_step (hC : LawfulCrypto C) (hcond : s.crashed = false ∧ OnlyAnswers s a) (hI : Tracked d s)
    (hstep : Step s a s') : Tracked d s' where
  reached := hI.reached.step hcond hstep
  role := (deviceType_step hstep).trans hI.role
  keys := by
    refine (device_step Device.getEcdhByCipherScheme (fun _ _ _ => ?_) (fun d d' _ hcurve hgmsm => ?_) hstep).trans
      hI.keys
    · funext scheme
      cases scheme <;> rfl
    · funext scheme
      cases scheme
      · exact hgmsm
      · exact hcurve
  exact := by
    refine localExact_step ?_ hI.exact hstep
    rintro m rnd buf preamble now rfl
    exact hcond.2
  matched c p pkt i hmem := hI.matched_step hcond.2 hstep hmem
  got i t' p c pkt ht' hphase := hI.got_step hstep ht' hphase
  queued pd i mad hmem hprev := hI.queued_step hstep hmem hprev
  pending := by
    intro i t' ht' hnone
    cases ending_step hstep ht' with
    | added _ _ hpending => exact hpending
    | kept ht _ hsame hpending =>
      rw [hpending]
      exact hI.pending i _ ht (hsame ▸ hnone)
    | ended _ _ _ _ hending => rw [hnone] at hending; cases hending
  ended := by
    intro i t' ht' ending hending
    cases ending_step hstep ht' with
    | added _ hnone => rw [hnone] at hending; cases hending
    | kept ht hcontinues hsame =>
      exact hI.endedBy_step hC hcond hstep ht ht' hcontinues (hI.ended i _ ht ending (hsame ▸ hending))
    -- It has ended with this step: by its time or a closing, by the external message, or by a packet.
    | ended ht hcontinues hpending _ hending' hends hgot =>
      rw [hending, Option.some.injEq] at hending'
      subst hending'
      obtain hstop | rfl | ⟨c, p, pkt, rfl, hmem⟩ := hends
      · cases ending with
        | packet c pkt | external => exact hstop.elim
        | timeout => trivial
        | closedDevice => exact stopped_step hstep hstop
        | closedConnection =>
          show ∃ conn, s'.conns[t'.connData]? = some conn ∧ _
          rw [hcontinues.connData]
          exact stopSignal_step hstep hstop
      · trivial
      · obtain ⟨p', hphase⟩ := hgot c pkt rfl
        exact ⟨(hI.got_step hstep ht' hphase).1, .inl (.inl ⟨p', c, hphase⟩)⟩

end Run

/-- **What ends a transaction.**  In every run in which what comes in as a response to a pending request is an
    answer to it, over its connection, which the device lets in when it is parsed, a transaction that has not
    ended waits in the map and can receive; and one that has ended did so by an external message, by a closed
    connection or device, by its timeout, or by a packet of its own connection that is on its way to its parse
    or has passed it. -/
theorem ends_by_answer (hC : LawfulCrypto C) {d : Device C} {s : State C} (h : Reached OnlyAnswers d s) {i : Nat}
    {t : LocalTransaction C} (ht : s.locals[i]? = some t) :
    (t.ending = none ∧ t.phase.pending = true ∧ s.localTransactionMap t.transactionId = some i) ∨
      ∃ ending, t.ending = some ending ∧ EndedBy OnlyAnswers d s i t ending := by
  have hstart : Tracked d (State.start d) := by
    refine ⟨.refl, rfl, rfl, Registry.exact_empty, ?_, ?_, ?_, ?_, ?_⟩
    · intro c p pkt i hmem
      cases Multiset.notMem_zero _ hmem
    · intro i t p c pkt ht
      cases ht
    · intro pd i mad hmem
      cases Multiset.notMem_zero _ hmem
    · intro i t ht
      cases ht
    · intro i t ht
      cases ht
  have htracked := h.invariant (fun _ _ _ hcond hI hstep => tracked_step hC hcond hI hstep) hstart
  cases hending : t.ending with
  | none =>
    have hpending := htracked.pending i t ht hending
    refine .inl ⟨rfl, hpending, (htracked.exact t.transactionId i).mpr ?_⟩
    show (s.locals.map _)[i]? = _
    have hregistered : t.phase.registered = true := by
      cases hphase : t.phase with
      | removed | done => rw [hphase] at hpending; cases hpending
      | _ => rfl
    rw [List.getElem?_map, ht, Option.map_some, hregistered]
  | some ending => exact .inr ⟨ending, rfl, htracked.ended i t ht ending hending⟩

/-- The server's answer is one to the knock of the paired agent. -/
theorem KnockAnswered.carriesAnswer {mad sent : MsgAssemblerData sampleLibs.crypto}
    {prev ppd : PacketParserData sampleLibs.crypto} (hk : KnockAnswered mad prev sent ppd) :
    CarriesAnswer pairedAgent mad (answerPacket sent) (serverAnswer prev) := by
  have hr : (serverAnswer prev).Ready := createMsgAssemblerData_ready _ _ _ _ _
  have hbuf : blankBuffer.length = packetBufferSize := List.length_replicate
  have hid := createMsgAssemblerData_identity prev.device (sampleMessage .ack (some prev)) sampleEntropy
    1000000000000 hbuf
  exact ⟨⟨hr, hk.cipherScheme, hk.chainKey, hk.answersTo, rfl⟩, 5, sent, hk.answered,
    content_carries sampleLibs_lawful hr.toBegun hid hk.answered []⟩

/-- The paired agent lets it in, and so whatever else the packet may carry. -/
theorem KnockAnswered.admitted {mad sent : MsgAssemblerData sampleLibs.crypto}
    {prev ppd : PacketParserData sampleLibs.crypto} (hk : KnockAnswered mad prev sent ppd)
    {ans : MsgAssemblerData sampleLibs.crypto} (h : CarriesAnswer pairedAgent mad (answerPacket sent) ans) :
    Admitted pairedAgent ans sampleConnection 1000000000000 1000000 := by
  obtain ⟨htype, hpk, htime⟩ := hk.carriesAnswer.unique (Libs.lawful sampleLibs_lawful) h
  have htype' : ans.headerType = .ack := htype
  have htime' : ans.localInitTime = 1000000000000 := htime
  refine ⟨nofun, ?_, ?_⟩
  · rw [htype', hpk, hk.author]
    exact ⟨_, rfl⟩
  · rw [htype', htime']
    rfl

section KnockAnswered

variable {mad sent : MsgAssemblerData sampleLibs.crypto} {prev ppd : PacketParserData sampleLibs.crypto}

/-- In the run of the knock its answer is matched, -/
theorem KnockAnswered.taken (hk : KnockAnswered mad prev sent ppd) :
    OnlyAnswers (State.answerArrived mad (answerPacket sent)) (.takeInbound 0 1 (answerPacket sent) 0) := by
  intro _ i t hfind ht _
  rw [State.answerArrived_find hk.counter, Option.some.injEq] at hfind
  subst hfind
  cases ht
  exact ⟨rfl, serverAnswer prev, hk.carriesAnswer⟩

/-- handed on, -/
theorem onlyAnswers_handOn (mad : MsgAssemblerData sampleLibs.crypto) (pkt : Packet BigEndian.Bytes) :
    OnlyAnswers (State.answerHanded mad pkt) (.handOn 0 1000000000000) := by
  intro _ _ _ _ _ _
  show 0 < recvQueueSize
  decide

/-- and parsed, and each step meets the condition. -/
theorem KnockAnswered.parsed (hk : KnockAnswered mad prev sent ppd) :
    OnlyAnswers (State.answerQueued mad (answerPacket sent))
      (.parse (.ofAnswer mad (answerPacket sent)) 1000000 1000000000000) := by
  intro i mad' conn ans hprev hconn hans
  cases hprev
  cases hconn
  exact hk.admitted hans

end KnockAnswered

/-- The sending of the knock meets it as well. -/
theorem undemanding_onlyAnswers : Undemanding (C := sampleLibs.crypto) OnlyAnswers where
  connect _ _ := trivial
  send _ _ := trivial
  assemble s _ _ _ _ _ hnone _ _ t ht := by
    rw [hnone] at ht
    cases ht
  start _ _ := trivial
  forward _ _ _ _ _ := trivial
  takeOutbound _ _ _ _ := trivial
  transmit _ _ _ _ := trivial
  allocate _ := trivial
  deliver _ _ _ _ _ := trivial
  handPacket _ _ _ _ _ := trivial

/-- The paired agent knocks, its server's answer comes and is parsed: the transaction has ended by it. -/
theorem ends_by_answer_sample :
    ∃ s t pkt, s.locals[0]? = some t ∧ t.ending = some (.packet 0 pkt) ∧
      Passed (C := sampleLibs.crypto) OnlyAnswers pairedAgent s 0 t pkt := by
  obtain ⟨mad, prev, sent, ppd, hk⟩ := knock_answered
  have hwaiting := reached_knockWaiting undemanding_onlyAnswers hk.assembled hk.headerType
  have hqueued := reached_answerQueued undemanding_onlyAnswers hwaiting hk.len hk.precheck hk.packetType
    hk.counter hk.taken (onlyAnswers_handOn _ _)
  have hparsed := reached_answerParsed hqueued hk.received hk.parsed
  obtain ⟨hnone, -⟩ | ⟨ending, hending, hby⟩ :=
    ends_by_answer (Libs.lawful sampleLibs_lawful) hparsed (i := 0) rfl
  · cases hnone
  · cases hending
    refine ⟨_, _, _, rfl, rfl, hby.2.resolve_left ?_⟩
    -- the queue of the workers is empty again
    rintro (⟨p, c, hphase⟩ | ⟨pd, hmem, -⟩)
    · cases hphase
    · exact absurd hmem (Multiset.notMem_zero _)

/-- **A forged answer.**  Zero bytes with the right type and counter, received on another connection, end the
    agent's transaction and take it from the map. -/
theorem forged_answer_ends :
    ∃ s t, Reached (fun _ _ => True) (sampleDevice .agent 1) s ∧ s.locals[0]? = some t ∧
      s.localTransactionMap t.transactionId = none ∧ t.connData = 0 ∧
      t.ending = some (.packet 1 forgedAnswer) ∧
      ¬ ∃ ending, t.ending = some ending ∧ EndedBy (fun _ _ => True) (sampleDevice .agent 1) s 0 t ending := by
  obtain ⟨mad, hfound⟩ := reached_forgedFound
  have hhanded := hfound.step (e := .handPacket 0 1 1 forgedAnswer) ⟨rfl, trivial⟩
    (.handPacket (Multiset.insert_eq_cons _ _) rfl rfl)
  have hended := hhanded.step (e := .handOn 0 0) ⟨rfl, trivial⟩ (.handOnPacket rfl rfl)
  have hdestroyed := hended.step (e := .destroy 0) ⟨rfl, trivial⟩ (.destroy rfl rfl)
  have hclosed := hdestroyed.step (e := .closeChannels 0) ⟨rfl, trivial⟩ (.closeChannels rfl rfl)
  have hremoved := hclosed.step (e := .remove 0) ⟨rfl, trivial⟩ (.remove rfl rfl)
  refine ⟨_, _, hremoved, rfl, if_pos rfl, rfl, rfl, ?_⟩
  rintro ⟨ending, hending, hby⟩
  cases hending
  exact Nat.one_ne_zero hby.1

end OpenNHP.Core.Routines
