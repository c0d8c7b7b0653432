/-
  One completion for each request.

  THE PROGRAM.  A caller hands in a request and waits on its `ResponseMsgCh`; it is meant to get one value, the
  answer or an error, whatever becomes of the request.

  THE SPECIFICATION.  Never two values (`received_le_one`), and one where no goroutine can take a step for the
  request any more (`one_completion`).

  THE CRUX.  A request is one token (`OpenNHP.Core.Tokens`), and no step doubles it, which is the first half.  For
  the second, wherever the token is there is a step that concerns it (`job_enabled`, `pending_enabled`), so in a
  settled state it can only have become the value.

  WHERE IT FAILS.  The steps that lose the token are the drops at a full queue and the `continue` of a send
  routine that has no connection for a message (`dropped_request_silent`); a run without them, and without the
  device's workers gone or its pool exhausted while the request or its answer is queued (`State.Served`), gives
  the caller its value.
-/
import OpenNHP.Core.Tokens

namespace OpenNHP.Core.Routines

open OpenNHP.Core

variable {M : Type} {C : Crypto M}

/-! ## A pending request is not stuck -/

/-- The step is one of a goroutine that has the request of caller `r`, or of one that a handler with the
    request waits for. -/
def Act.concerns (r : Nat) (s : State C) : Act C → Prop
  | .route m _ | .dropPosted m | .routeAnswer m _ | .answer _ m | .assemble m _ _ _ _ =>
    m.responseMsgCh = some r
  | .parse pd _ _ => pd.feedbackMsgCh = some r
  | .start i | .handOn i _ | .stop i _ | .destroy i | .closeChannels i | .remove i | .notify i =>
    ∃ t, s.locals[i]? = some t ∧ t.responseMsgCh = some r
  | .handOnMsg i | .destroyRemote i | .closeRemote i =>
    ∃ m, m.responseMsgCh = some r ∧
      (.answering i m ∈ s.jobs ∨ ∃ t, s.remotes[i]? = some t ∧ t.phase = .gotMsg m)
  | _ => False

/-- No goroutine can take a step for the request of caller `r`; after a panic none takes any. -/
def Settled [DecidableEq M] (r : Nat) (s : State C) : Prop :=
  s.crashed = false → ∀ a s', Step s a s' → ¬ a.concerns r s

/-- While the request of caller `r` or its answer is in a queue of the device, the device's workers run and
    find a free buffer. -/
structure State.Served (s : State C) (r : Nat) : Prop where
  toPacket : ∀ m, .toPacket m ∈ s.jobs → m.responseMsgCh = some r →
    s.running = true ∧ s.count < packetBufferPoolSize
  toMsg : ∀ pd, .toMsg pd ∈ s.jobs → pd.feedbackMsgCh = some r → s.running = true

section Progress

variable [DecidableEq M] {s : State C} {r i : Nat}

/-- A worker can assemble a queued message, whatever keys it draws. -/
theorem toPacket_enabled (rnd : Entropy C) {m : OutMsg C} (hmem : .toPacket m ∈ s.jobs) (hrun : s.running = true)
    (hpool : s.count < packetBufferPoolSize) (hlt : m.connData < s.conns.length) :
    ∃ buf preamble now s', Step s (.assemble m rnd buf preamble now) s' := by
  obtain ⟨rest, hjobs⟩ := Multiset.exists_cons_of_mem hmem
  have hconn := List.getElem?_eq_getElem hlt
  let empty : HeaderFields M := ⟨C.zeroKey, C.zeroKey, C.zeroKey, C.zeroKey, C.zeroKey⟩
  let buf : Packet M := ⟨⟨0, 0, 0, 0, 0, 0, 0⟩, fun _ => empty, fun _ => C.zeroKey, 0⟩
  by_cases htype : m.md.headerType = .kpl
  · exact ⟨buf, 0, 0, _, .keepalive hjobs hrun hpool hconn htype⟩
  cases hmad : s.assemble m (s.conns[m.connData]) rnd buf 0 0 with
  | panic => exact absurd hmad (MsgAssemblerData.encrypt_ne_panic _ _)
  | err e => exact ⟨_, _, _, _, .assembleFailed hjobs hrun hpool hconn htype hmad⟩
  | ok mad =>
    cases hexport : m.encryptedPktCh with
    | true => exact ⟨_, _, _, _, .assembleExported hjobs hrun hpool hconn htype hmad hexport⟩
    | false =>
      cases hrequest : isTransactionRequest s.device.deviceType mad.headerType with
      | true => exact ⟨_, _, _, _, .assembleRequest hjobs hrun hpool hconn htype hmad hexport hrequest⟩
      | false => exact ⟨_, _, _, _, .assembleOther hjobs hrun hpool hconn htype hmad hexport hrequest⟩

/-- A worker can parse a queued answer. -/
theorem toMsg_enabled {pd : InPacket C} {caller : Nat} (hmem : .toMsg pd ∈ s.jobs) (hrun : s.running = true)
    (hfeedback : pd.feedbackMsgCh = some caller) (hsound : s.Sound) :
    ∃ nowMilli now s', Step s (.parse pd nowMilli now) s' := by
  obtain ⟨rest, hjobs⟩ := Multiset.exists_cons_of_mem hmem
  obtain ⟨hdecrypted, hprev, hlt⟩ := hsound.toMsg pd hmem caller hfeedback
  obtain ⟨prev, hprev⟩ := Option.isSome_iff_exists.mp hprev
  have hconn := List.getElem?_eq_getElem hlt
  cases hreceive : receive s.device (pd.current s.conns[pd.connData]) 0 0 with
  | mk p o =>
    cases o with
    | panic => exact ⟨0, 0, _, .parsePanic hjobs hrun hconn hreceive⟩
    | err e => exact ⟨0, 0, _, .parseFailed hjobs hrun hconn hreceive⟩
    | ok u =>
      cases p with
      | none =>
        unfold receive at hreceive
        split at hreceive <;> cases hreceive
      | some ppd => exact ⟨0, 0, _, .parseResponse hjobs hrun hconn hreceive hdecrypted hfeedback hprev⟩

/-- A local transaction that owes its caller a value can go on. -/
theorem owing_enabled {t : LocalTransaction C} (ht : s.locals[i]? = some t) (howes : t.owes = true)
    (hcaller : t.responseMsgCh = some r) : ∃ a s', Step s a s' ∧ a.concerns r s := by
  have hconcerns : ∃ t, s.locals[i]? = some t ∧ t.responseMsgCh = some r := ⟨t, ht, hcaller⟩
  cases hphase : t.phase with
  | added => exact ⟨.start i, _, .start ht hphase, hconcerns⟩
  | waiting => exact ⟨.stop i .timeout, _, .stop ht hphase trivial, hconcerns⟩
  | gotPacket p c pkt => exact ⟨.handOn i 0, _, .handOnPacket ht hphase, hconcerns⟩
  | gotExternal ppd => exact ⟨.handOn i 0, _, .handOnExternal ht hphase, hconcerns⟩
  | ended => exact ⟨.destroy i, _, .destroy ht hphase, hconcerns⟩
  | destroyed => exact ⟨.closeChannels i, _, .closeChannels ht hphase, hconcerns⟩
  | closed => exact ⟨.remove i, _, .remove ht hphase, hconcerns⟩
  | removed => exact ⟨.notify i, _, .notify ht hphase, hconcerns⟩
  | done =>
    rw [LocalTransaction.owes, hphase] at howes
    cases howes

/-- A handler with a request is let go by the remote transaction it waits for. -/
theorem answering_enabled {m : OutMsg C} (hmem : .answering i m ∈ s.jobs) (hcaller : m.responseMsgCh = some r)
    (hlt : i < s.remotes.length) : ∃ a s', Step s a s' ∧ a.concerns r s := by
  obtain ⟨rest, hjobs⟩ := Multiset.exists_cons_of_mem hmem
  have ht := List.getElem?_eq_getElem hlt
  cases hphase : (s.remotes[i]).phase with
  | waiting => exact ⟨.answer i m, _, .answer hjobs ht hphase, hcaller⟩
  | gotMsg m' => exact ⟨.handOnMsg i, _, .handOnMsg ht hphase, m, hcaller, .inl hmem⟩
  | ended => exact ⟨.destroyRemote i, _, .destroyRemote ht hphase, m, hcaller, .inl hmem⟩
  | destroyed => exact ⟨.closeRemote i, _, .closeRemote ht hphase, m, hcaller, .inl hmem⟩
  | closed => exact ⟨.answer i m, _, .answerClosed hjobs ht (by rw [hphase]; rfl), hcaller⟩
  | removed => exact ⟨.answer i m, _, .answerClosed hjobs ht (by rw [hphase]; rfl), hcaller⟩

omit [DecidableEq M] in
/-- A message with the token has the caller. -/
theorem OutMsg.caller_of_tokens {m : OutMsg C} (h : 0 < m.tokens r) : m.responseMsgCh = some r := by
  unfold tokens at h
  split at h
  · assumption
  · cases h

/-- A job with the token can go on. -/
theorem job_enabled (rnd : Entropy C) {job : Job C} (hmem : job ∈ s.jobs) (htoken : 0 < job.tokens r)
    (hsound : s.Sound) (hserved : s.Served r) : ∃ a s', Step s a s' ∧ a.concerns r s := by
  cases job with
  | posted m =>
    obtain ⟨rest, hjobs⟩ := Multiset.exists_cons_of_mem hmem
    exact ⟨.dropPosted m, _, .dropPosted hjobs, OutMsg.caller_of_tokens htoken⟩
  | toPacket m =>
    have hcaller := OutMsg.caller_of_tokens htoken
    obtain ⟨hrun, hpool⟩ := hserved.toPacket m hmem hcaller
    obtain ⟨buf, preamble, now, s', hstep⟩ :=
      toPacket_enabled rnd hmem hrun hpool (hsound.toPacket m hmem)
    exact ⟨_, s', hstep, hcaller⟩
  | answering i m =>
    exact answering_enabled hmem (OutMsg.caller_of_tokens htoken) (hsound.answering i m hmem)
  | toMsg pd =>
    have hcaller : pd.feedbackMsgCh = some r := by
      change 0 < pd.tokens r at htoken
      unfold InPacket.tokens at htoken
      split at htoken
      · assumption
      · cases htoken
    obtain ⟨nowMilli, now, s', hstep⟩ :=
      toMsg_enabled hmem (hserved.toMsg pd hmem hcaller) hcaller hsound
    exact ⟨_, s', hstep, hcaller⟩
  | _ => cases htoken

/-- A caller that may still get a value is not stuck. -/
theorem pending_enabled (rnd : Entropy C) (hpending : 0 < s.tokens r) (hnone : s.received r = 0)
    (hsound : s.Sound) (hserved : s.Served r) : ∃ a s', Step s a s' ∧ a.concerns r s := by
  by_contra hstuck
  have hjobs : s.weight (Job.tokens r) = 0 := by
    refine Multiset.sum_eq_zero fun n hn => ?_
    obtain ⟨job, hmem, rfl⟩ := Multiset.mem_map.mp hn
    refine Nat.eq_zero_of_not_pos fun htoken => hstuck (job_enabled rnd hmem htoken hsound hserved)
  have hlocals : s.localTokens r = 0 := by
    refine List.sum_eq_zero fun n hn => ?_
    obtain ⟨t, hmem, rfl⟩ := List.mem_map.mp hn
    obtain ⟨i, ht⟩ := List.getElem?_of_mem hmem
    refine if_neg fun howes => hstuck (owing_enabled ht howes.2 howes.1)
  have hremotes : s.remoteMessages (OutMsg.tokens r) = 0 := by
    refine List.sum_eq_zero fun n hn => ?_
    obtain ⟨t, hmem, rfl⟩ := List.mem_map.mp hn
    obtain ⟨i, ht⟩ := List.getElem?_of_mem hmem
    cases hphase : t.phase with
    | gotMsg m =>
      rw [RemoteTransaction.messages, hphase]
      refine if_neg fun hcaller => hstuck ?_
      exact ⟨.handOnMsg i, _, .handOnMsg ht hphase, m, hcaller, .inr ⟨t, ht, hphase⟩⟩
    | _ => rw [RemoteTransaction.messages, hphase]
  rw [State.tokens] at hpending
  omega

end Progress

/-! ## Runs -/

section Runs

variable [DecidableEq M] {d : Device C} {u u' s s' : State C} {a : Act C} {r : Nat}

omit [DecidableEq M] in
/-- Nothing is in flight at the start. -/
theorem sound_start (d : Device C) : (State.start d).Sound where
  received _ _ ht := by cases ht
  locals _ ht := by cases ht
  remotes _ ht := by cases ht
  index _ _ hi := by cases hi
  answering _ _ hmem := by cases hmem
  toPacket _ hmem := by cases hmem
  toMsg _ hmem := by cases hmem

/-- What every state of a run has: what is in flight is sound, a caller may get one value at most, and one
    that has not handed in its message none. -/
structure State.Accounted (d : Device C) (s : State C) : Prop where
  sound : s.Sound
  role : s.device.deviceType = d.deviceType
  atMostOne : ∀ r, s.tokens r ≤ 1
  fresh : ∀ r, s.callers ≤ r → s.tokens r = 0
  unspoiled : ∀ r, s.callers ≤ r → s.messages (OutMsg.spoiled r d.deviceType) = 0

/-- A message is handed in for the next caller, if for one. -/
theorem caller_step (h : Step s a s') :
    s'.callers = s.callers ∧ (∀ w, a.brings w = 0) ∨
      s'.callers = s.callers + 1 ∧ ∃ m, (∀ w, a.brings w = w m) ∧
        (m.responseMsgCh = none ∨ m.responseMsgCh = some s.callers) := by
  cases h with
  | post hcaller => exact .inr ⟨rfl, _, fun _ => rfl, hcaller⟩
  | send hcaller => exact .inr ⟨rfl, _, fun _ => rfl, hcaller⟩
  | _ => exact .inl ⟨rfl, fun _ => rfl⟩

/-- A caller that has not handed in its message gets nothing brought by a step that is not its own. -/
theorem brings_nothing (h : Step s a s') (hr : s'.callers ≤ r) :
    a.brings (OutMsg.tokens r) = 0 ∧ ∀ deviceType, a.brings (OutMsg.spoiled r deviceType) = 0 := by
  obtain ⟨-, hnone⟩ | ⟨hnew, m, hm, hcaller⟩ := caller_step h
  · exact ⟨hnone _, fun _ => hnone _⟩
  · have hne : m.responseMsgCh ≠ some r := by
      intro hsome
      rw [hsome, Option.some.injEq] at hcaller
      have heq : r = s.callers := hcaller.resolve_left nofun
      omega
    simp only [hm]
    exact ⟨if_neg hne, fun _ => if_neg fun hspoiled => hne hspoiled.1⟩

/-- Each step keeps the accounts, -/
theorem accounted_step (hI : s.Accounted d) (h : Step s a s') : s'.Accounted d := by
  have hcallers : s.callers ≤ s'.callers := by
    obtain ⟨hsame, -⟩ | ⟨hnew, -⟩ := caller_step h
    · rw [hsame]
    · omega
  have htokens (r : Nat) : s'.tokens r ≤ s.tokens r + a.brings (OutMsg.tokens r) := by
    obtain ⟨lost, hsum, -⟩ := tokens_step (r := r) hI.sound h
    omega
  have hnew (r : Nat) (hr : s'.callers ≤ r) : s'.tokens r = 0 := by
    have hle := htokens r
    rw [(brings_nothing h hr).1, hI.fresh r (hcallers.trans hr)] at hle
    omega
  refine ⟨sound_step hI.sound h, (deviceType_step h).trans hI.role, fun r => ?_, hnew, fun r hr => ?_⟩
  · have hle := htokens r
    obtain ⟨-, hnone⟩ | ⟨-, m, hm, hcaller⟩ := caller_step h
    · have hone := hI.atMostOne r
      rw [hnone] at hle
      omega
    · rw [hm] at hle
      by_cases hr : m.responseMsgCh = some r
      · -- the caller's own message: it had no token before
        rw [hr, Option.some.injEq] at hcaller
        have hfresh := hI.fresh r (hcaller.resolve_left nofun).ge
        have hone : m.tokens r = 1 := if_pos hr
        omega
      · have hone := hI.atMostOne r
        have hnone : m.tokens r = 0 := if_neg hr
        omega
  · have hle := spoiled_step (r := r) h d.deviceType
    rw [(brings_nothing h hr).2, hI.unspoiled r (hcallers.trans hr)] at hle
    omega

/-- so every reached state has them. -/
theorem accounted (h : Reached (fun _ _ => True) d s) : s.Accounted d :=
  h.invariant (fun _ _ _ _ hI hstep => accounted_step hI hstep)
    ⟨sound_start d, rfl, fun _ => Nat.zero_le 1, fun _ _ => rfl, fun _ _ => rfl⟩

/-- What a run keeps of a request that was handed in, as long as the queues have room for it. -/
structure State.Pending (d : Device C) (r : Nat) (s : State C) : Prop where
  accounted : s.Accounted d
  asked : r < s.callers
  one : s.tokens r = 1
  unspoiled : s.messages (OutMsg.spoiled r d.deviceType) = 0

/-- A request that was handed in stays pending through the steps that do not lose it. -/
theorem pending_step (hkeeps : Keeps r s a) (hI : s.Pending d r) (h : Step s a s') : s'.Pending d r := by
  have hcallers : r < s'.callers ∧ a.brings (OutMsg.tokens r) = 0 ∧
      a.brings (OutMsg.spoiled r d.deviceType) = 0 := by
    have hasked := hI.asked
    obtain ⟨hsame, hnone⟩ | ⟨hnew, m, hm, hcaller⟩ := caller_step h
    · exact ⟨by omega, hnone _, hnone _⟩
    · have hne : m.responseMsgCh ≠ some r := by
        intro hsome
        rw [hsome, Option.some.injEq] at hcaller
        have heq : r = s.callers := hcaller.resolve_left nofun
        omega
      rw [hm, hm]
      exact ⟨by omega, if_neg hne, if_neg fun hspoiled => hne hspoiled.1⟩
  obtain ⟨hasked, hbrings, hclean⟩ := hcallers
  obtain ⟨lost, hsum, hlost⟩ := tokens_step (r := r) hI.accounted.sound h
  rw [hI.accounted.role] at hlost
  refine ⟨accounted_step hI.accounted h, hasked, ?_, ?_⟩
  · have hone := hI.one
    have hnone := hlost hkeeps hI.unspoiled
    omega
  · have hle := spoiled_step (r := r) h d.deviceType
    rw [hclean, hI.unspoiled] at hle
    omega

/-- **At most one completion**, in every run. -/
theorem received_le_one (h : Reached (fun _ _ => True) d s) (r : Nat) : s.received r ≤ 1 := by
  have hone := (accounted h).atMostOne r
  rw [State.tokens] at hone
  omega

/-- **One completion.**  A caller hands in a request.  In every run behind it in which no queue is full for the
    request or its answer and a connection is found for it, the caller gets at most one value; and when no
    goroutine can take a step for the request any more, it has got one, unless the process has panicked or
    the device's workers no longer serve the request. -/
theorem one_completion (rnd : Entropy C) {m : OutMsg C} (hu : Reached (fun _ _ => True) d u)
    (hasks : Step u a u') (ha : a = .post m ∨ a = .send m) (hcaller : m.responseMsgCh = some r)
    (hrequest : isTransactionRequest d.deviceType m.md.headerType = true)
    (hexport : m.encryptedPktCh = false) (hkeeps : Keeps r u a)
    (hrun : Runs.Reaches Step (fun s a => s.crashed = false ∧ Keeps r s a) u' s) :
    s.received r ≤ 1 ∧ (s.crashed = false → s.Served r → Settled r s → s.received r = 1) := by
  have hbefore := accounted hu
  have hbrings (w : OutMsg C → Nat) : a.brings w = w m := by
    obtain rfl | rfl := ha
    · rfl
    · rfl
  -- Behind the hand-in the run has exactly one token of the caller, and it is not spoiled.
  have hpending : u'.Pending d r := by
    have hnew : r = u.callers ∧ u'.callers = u.callers + 1 := by
      obtain ⟨-, hnone⟩ | ⟨hnew, m', hm', hcaller'⟩ := caller_step hasks
      · have hone := (hnone (OutMsg.tokens r)).symm.trans (hbrings _)
        rw [OutMsg.tokens, if_pos hcaller] at hone
        cases hone
      · have hsame : m'.tokens r = 1 := ((hm' _).symm.trans (hbrings _)).trans (if_pos hcaller)
        have hr : m'.responseMsgCh = some r := OutMsg.caller_of_tokens (by omega)
        rw [hr, Option.some.injEq] at hcaller'
        exact ⟨hcaller'.resolve_left (Option.some_ne_none r), hnew⟩
    have hclean : m.spoiled r d.deviceType = 0 := if_neg fun hspoiled => hspoiled.2 ⟨hrequest, hexport⟩
    have hfresh := hbefore.fresh r hnew.1.ge
    have hunspoiled := hbefore.unspoiled r hnew.1.ge
    obtain ⟨lost, hsum, hlost⟩ := tokens_step (r := r) hbefore.sound hasks
    rw [hbefore.role] at hlost
    refine ⟨accounted_step hbefore hasks, by omega, ?_, ?_⟩
    · have hnone := hlost hkeeps hunspoiled
      have hone : m.tokens r = 1 := if_pos hcaller
      rw [hbrings] at hsum
      omega
    · have hle := spoiled_step (r := r) hasks d.deviceType
      rw [hbrings, hclean, hunspoiled] at hle
      omega
  have hafter := hrun.invariant (I := State.Pending d r) (fun _ _ _ hC hI hstep => pending_step hC.2 hI hstep)
    hpending
  have hone := hafter.one
  rw [State.tokens] at hone
  refine ⟨by omega, fun hcrashed hserved hsettled => ?_⟩
  -- The token is not yet the caller's, so somebody has it and can take a step: nothing is settled.
  by_contra hne
  obtain ⟨b, t, hstep, hconcerns⟩ := pending_enabled rnd (r := r) (by rw [hafter.one]; exact Nat.one_pos)
    (by omega) hafter.accounted.sound hserved
  exact hsettled hcrashed b t hstep hconcerns

end Runs

/-! ## A knock that times out, and one that is dropped -/

/-- Nothing of the request of caller `r` is left. -/
theorem settled_of_done [DecidableEq M] {s : State C} {r : Nat} (hjobs : ∀ job ∈ s.jobs, job.tokens r = 0)
    (hlocals : ∀ t ∈ s.locals, t.phase = .done) (hremotes : s.remotes = []) : Settled r s := by
  have hjob {job : Job C} {rest : Multiset (Job C)} (h : s.jobs = job ::ₘ rest) : job.tokens r = 0 :=
    hjobs job (by rw [h]; exact Multiset.mem_cons_self _ _)
  have hlocal {i : Nat} {t : LocalTransaction C} (ht : s.locals[i]? = some t) : t.phase = .done :=
    hlocals t (List.mem_of_getElem? ht)
  intro _ a s' h hconcerns
  cases h with
  | start ht hphase | handOnPacket ht hphase | handOnExternal ht hphase | stop ht hphase
  | destroy ht hphase | closeChannels ht hphase | remove ht hphase | notify ht hphase =>
    rw [hlocal ht] at hphase
    cases hphase
  | handOnMsg ht | destroyRemote ht | closeRemote ht =>
    rw [hremotes] at ht
    cases ht
  | keepalive h | assembleFailed h | assembleExported h | assembleRequest h | assembleOther h
  | parseFailed h | parseAccess h | parseResponse h | parseRequest h | parseOther h | parsePanic h
  | answer h | answerClosed h | dropPosted h | route h | routeAnswer h =>
    have hnone := (if_pos hconcerns).symm.trans (hjob h)
    cases hnone
  | _ => exact hconcerns

/-- The sample agent's knock is assembled, sent and times out: its caller gets an error. -/
theorem one_completion_sample :
    ∃ u u' s : State sampleLibs.crypto, Step u (.send firstKnock) u' ∧
      Runs.Reaches Step (fun s a => s.crashed = false ∧ Keeps 0 s a) u' s ∧ Settled 0 s ∧
      s.received 0 = 1 := by
  obtain ⟨mad, hmad, -, -⟩ := reached_firstKnock undemanding_true
  have hstart : Reached (fun _ _ => True) (sampleDevice .agent 1) (State.start (sampleDevice .agent 1)) := .refl
  have hconnected := hstart.step (e := .connect sampleConnection) ⟨rfl, trivial⟩ (.connect rfl)
  have hasks : Step _ (.send firstKnock) (State.asked (sampleDevice .agent 1) sampleConnection firstKnock) :=
    step_asked rfl (.inr rfl)
  have hasked : Runs.Reaches Step (fun s a => s.crashed = false ∧ Keeps 0 s a)
    (State.asked (sampleDevice .agent 1) sampleConnection firstKnock) _ := .refl
  have hmad : (State.start (sampleDevice .agent 1)).assemble firstKnock (Conn.new sampleConnection)
      sampleEntropy (Packet.ofBytes blankBuffer packetBufferSize) 5 1000000000000 = .ok mad := hmad
  have hassembled := hasked.step ⟨rfl, by trivial⟩
    (step_firstRequest rfl rfl nofun hmad (by rw [(assemble_reads hmad).1]; rfl))
  have hwaiting := hassembled.step (e := Act.start 0) ⟨rfl, trivial⟩ (.start rfl rfl)
  have hended := hwaiting.step (e := Act.stop 0 .timeout) ⟨rfl, trivial⟩ (.stop rfl rfl (by trivial))
  have hdestroyed := hended.step (e := Act.destroy 0) ⟨rfl, trivial⟩ (.destroy rfl rfl)
  have hclosed := hdestroyed.step (e := Act.closeChannels 0) ⟨rfl, trivial⟩ (.closeChannels rfl rfl)
  have hremoved := hclosed.step (e := Act.remove 0) ⟨rfl, trivial⟩ (.remove rfl rfl)
  have hnotified := hremoved.step (e := Act.notify 0) ⟨rfl, trivial⟩ (.notify rfl rfl)
  obtain ⟨s, hrun, hjobs, hlocals, hremotes, hcrashed⟩ : ∃ s : State sampleLibs.crypto,
      Runs.Reaches Step (fun s a => s.crashed = false ∧ Keeps 0 s a) _ s ∧ s.jobs = {.outgoing 0 0 true} ∧
        (∀ t ∈ s.locals, t.phase = .done) ∧ s.remotes = [] ∧ s.crashed = false := by
    refine ⟨_, hnotified, rfl, fun t ht => ?_, rfl, rfl⟩
    rw [List.mem_singleton.mp ht]
  have hsent (job : Job sampleLibs.crypto) (hmem : job ∈ s.jobs) : job = .outgoing 0 0 true := by
    rw [hjobs] at hmem
    exact Multiset.mem_singleton.mp hmem
  have hdone : Settled 0 s := settled_of_done (fun job hmem => by rw [hsent job hmem]; rfl) hlocals hremotes
  have hserved : s.Served 0 := by
    refine ⟨fun m hmem => ?_, fun pd hmem => ?_⟩
    · cases hsent _ hmem
    · cases hsent _ hmem
  have hroom : (0 : Nat) < sendQueueSize := by
    show 0 < 10240
    decide
  exact ⟨_, _, s, hasks, hrun, hdone, (one_completion sampleEntropy hconnected hasks (.inr rfl) rfl rfl rfl
    (fun _ => hroom) hrun).2 hcrashed hserved hdone⟩

/-- **The counterexample.**  The agent's `sendMessageRoutine` gets a knock and cannot dial its server: it
    drops the message, nothing is left of the request, and its caller has got nothing. -/
theorem dropped_request_silent :
    ∃ u u' s : State sampleLibs.crypto, u = State.start (sampleDevice .agent 1) ∧
      firstKnock.responseMsgCh = some 0 ∧ isTransactionRequest .agent firstKnock.md.headerType = true ∧
      Step u (.post firstKnock) u' ∧ Runs.Reaches Step (fun s _ => s.crashed = false) u' s ∧
      s.crashed = false ∧ s.Served 0 ∧ Settled 0 s ∧ s.received 0 = 0 := by
  have hroom : (State.start (sampleDevice .agent 1)).jobs.countP (·.inSendMsgCh) < sendQueueSize := by
    show 0 < 10240
    decide
  let posted : State sampleLibs.crypto :=
    { (State.start (sampleDevice .agent 1)).addJob (.posted firstKnock) with callers := 1 }
  have hasks : Step (State.start (sampleDevice .agent 1)) (.post firstKnock) posted := .post (.inr rfl) hroom
  have hasked : Runs.Reaches Step (fun s _ => s.crashed = false) posted posted := .refl
  have hdropped := hasked.step (e := Act.dropPosted firstKnock) rfl
    (.dropPosted (show posted.jobs = .posted firstKnock ::ₘ 0 from rfl))
  obtain ⟨s, hrun, hjobs, hlocals, hremotes, hcrashed, hcompletions⟩ : ∃ s : State sampleLibs.crypto,
      Runs.Reaches Step (fun s _ => s.crashed = false) posted s ∧ s.jobs = 0 ∧ s.locals = [] ∧
        s.remotes = [] ∧ s.crashed = false ∧ s.completions = [] :=
    ⟨_, hdropped, rfl, rfl, rfl, rfl, rfl⟩
  have hnothing (job : Job sampleLibs.crypto) : job ∉ s.jobs := by
    rw [hjobs]
    exact Multiset.notMem_zero job
  refine ⟨_, posted, s, rfl, rfl, rfl, hasks, hrun, hcrashed, ⟨fun m hmem => ?_, fun pd hmem => ?_⟩,
    settled_of_done (fun job hmem => ?_) (fun t ht => ?_) hremotes, ?_⟩
  · exact absurd hmem (hnothing _)
  · exact absurd hmem (hnothing _)
  · exact absurd hmem (hnothing _)
  · rw [hlocals] at ht
    cases ht
  · rw [State.received, hcompletions]
    rfl

end OpenNHP.Core.Routines
