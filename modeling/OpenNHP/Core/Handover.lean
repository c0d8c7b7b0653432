/-
  Hand-overs to transactions (`nhp/core/transaction.go`, the connection routines and the handlers).

  THE PROGRAM.  A dispatcher or a handler looks a transaction up by its id and then sends on one of its
  channels; look-up and send are two steps.  The channels have no buffer and `Run` receives once, so that a
  transaction takes one sender.  Every other sender stands at its send until the clean-up closes the channel
  under it, and then it panics.  `ExternalMsgCh` is created by `Run`, and the transaction is in the map before
  `Run` has started: a cookie handler may find one whose channel is still nil.

  THE SPECIFICATION.  No goroutine ever sends on a channel that the clean-up has closed, or on one that is not
  yet created (`State.badSend`).

  THE CRUX.  Count senders against receives: a transaction has room for one sender until its select has taken a
  case, and for none afterwards (`room`).  What keeps the senders within the room is asked where they come from,
  at the look-up, and where a transaction gives up without a receive (`HandsOver`).  Nothing is asked of a send.

  ASSEMBLY.  Each step keeps the senders within the room (`handsTo_step`, `answersTo_step`), and each cookie
  handler at a transaction whose `Run` has started (`redirecting_step`, `started_step`); so no send of such a
  state is bad (`badSend_step`).
-/
import OpenNHP.Core.InFlight

namespace OpenNHP.Core.Routines

open OpenNHP.Core

variable {M : Type} {C : Crypto M}

/-! ## Senders and room -/

/-- Stands at a send to local transaction `i`. -/
def Job.handsTo (i : Nat) : Job C → Nat
  | .dispatching _ _ _ j => if j = i then 1 else 0
  | .redirecting j _ => if j = i then 1 else 0
  | _ => 0

/-- Stands at a send to remote transaction `i`. -/
def Job.answersTo (i : Nat) : Job C → Nat
  | .answering j _ => if j = i then 1 else 0
  | _ => 0

/-- How many senders `Run` will still receive from. -/
def LocalPhase.room : LocalPhase C → Nat
  | .added | .waiting => 1
  | _ => 0

/-- A remote transaction takes one message. -/
def RemotePhase.room : RemotePhase C → Nat
  | .waiting => 1
  | _ => 0

/-- How many sends a local transaction still takes. -/
def State.localRoom (s : State C) (i : Nat) : Nat :=
  ((s.locals[i]?).map (·.phase.room)).getD 0

/-- How many a remote one takes. -/
def State.remoteRoom (s : State C) (i : Nat) : Nat :=
  ((s.remotes[i]?).map (·.phase.room)).getD 0

/-- `Run` has started, and with it `ExternalMsgCh` is there. -/
def State.Started (s : State C) (i : Nat) : Prop :=
  ∃ t, s.locals[i]? = some t ∧ t.phase ≠ .added

/-- Nobody has sent on a wrong channel, every sender's transaction will receive from it, and the `Run` that a
    cookie handler sends to has started. -/
structure State.HandOversSafe (s : State C) : Prop where
  noBadSend : s.badSend = false
  locals : ∀ i, s.weight (Job.handsTo i) ≤ s.localRoom i
  remotes : ∀ i, s.weight (Job.answersTo i) ≤ s.remoteRoom i
  started : ∀ i ppd, .redirecting i ppd ∈ s.jobs → s.Started i

/-- A transaction that is looked up has room for another sender, and for a cookie handler its `Run` has
    started; one that gives up has no sender. -/
def HandsOver (s : State C) : Act C → Prop
  | .takeInbound _ _ pkt _ =>
    isTransactionResponse s.device.deviceType (packetType pkt) = true →
      ∀ i, s.findLocalTransaction pkt.common.counter = some i →
        s.weight (Job.handsTo i) < s.localRoom i
  | .findExternal id _ => ∀ i, s.findLocalTransaction id = some i →
      s.weight (Job.handsTo i) < s.localRoom i ∧ s.Started i
  | .stop i _ => s.weight (Job.handsTo i) = 0
  | .findRemote c id _ => ∀ conn i, s.conns[c]? = some conn → conn.findRemoteTransaction id = some i →
      s.weight (Job.answersTo i) < s.remoteRoom i
  | .routeAnswer _ i => s.weight (Job.answersTo i) < s.remoteRoom i
  | .stopRemote i => s.weight (Job.answersTo i) = 0
  | _ => True

/-! ## Rooms -/

namespace State

variable {s : State C} {i j : Nat}

/-- The room of a transaction is that of its phase. -/
theorem localRoom_of {t : LocalTransaction C} (ht : s.locals[i]? = some t) :
    s.localRoom i = t.phase.room := by
  rw [localRoom, ht]
  rfl

/-- The same for a remote one. -/
theorem remoteRoom_of {t : RemoteTransaction C} (ht : s.remotes[i]? = some t) :
    s.remoteRoom i = t.phase.room := by
  rw [remoteRoom, ht]
  rfl

/-- Another's room is not changed. -/
theorem localRoom_setLocal {t t' : LocalTransaction C} (ht : s.locals[i]? = some t) :
    (s.setLocal i t').localRoom j = if j = i then t'.phase.room else s.localRoom j := by
  have hlt : i < s.locals.length := (List.getElem?_eq_some_iff.mp ht).1
  show (((s.locals.set i t')[j]?).map _).getD 0 = _
  split
  · rename_i hj
    rw [hj, List.getElem?_set_self hlt]
    rfl
  · rename_i hj
    rw [List.getElem?_set_ne (Ne.symm hj), localRoom]

/-- Nor is another remote one's. -/
theorem remoteRoom_setRemote {t t' : RemoteTransaction C} (ht : s.remotes[i]? = some t) :
    (s.setRemote i t').remoteRoom j = if j = i then t'.phase.room else s.remoteRoom j := by
  have hlt : i < s.remotes.length := (List.getElem?_eq_some_iff.mp ht).1
  show (((s.remotes.set i t')[j]?).map _).getD 0 = _
  split
  · rename_i hj
    rw [hj, List.getElem?_set_self hlt]
    rfl
  · rename_i hj
    rw [List.getElem?_set_ne (Ne.symm hj), remoteRoom]

/-- A phase with no less room leaves none with less. -/
theorem localRoom_le_setLocal {t t' : LocalTransaction C} (ht : s.locals[i]? = some t)
    (hroom : t.phase.room ≤ t'.phase.room) : s.localRoom j ≤ (s.setLocal i t').localRoom j := by
  rw [localRoom_setLocal ht]
  split
  · rename_i hj
    rw [hj, localRoom_of ht]
    exact hroom
  · exact le_rfl

/-- The same for the remote ones. -/
theorem remoteRoom_le_setRemote {t t' : RemoteTransaction C} (ht : s.remotes[i]? = some t)
    (hroom : t.phase.room ≤ t'.phase.room) : s.remoteRoom j ≤ (s.setRemote i t').remoteRoom j := by
  rw [remoteRoom_setRemote ht]
  split
  · rename_i hj
    rw [hj, remoteRoom_of ht]
    exact hroom
  · exact le_rfl

/-- A new transaction has room for any sender that was there before. -/
theorem localRoom_addLocalTransaction (t : LocalTransaction C) :
    s.localRoom i ≤ (s.addLocalTransaction t).localRoom i := by
  show _ ≤ (((s.locals ++ [t])[i]?).map _).getD 0
  rw [List.getElem?_append, localRoom]
  split
  · exact le_rfl
  · rename_i hlt
    rw [List.getElem?_eq_none (Nat.not_lt.mp hlt)]
    exact Nat.zero_le _

/-- A new transaction takes nobody's room. -/
theorem remoteRoom_addRemoteTransaction (conn : Conn M) (t : RemoteTransaction C) :
    s.remoteRoom i ≤ (s.addRemoteTransaction conn t).remoteRoom i := by
  show _ ≤ (((s.remotes ++ [t])[i]?).map _).getD 0
  rw [List.getElem?_append, remoteRoom]
  split
  · exact le_rfl
  · rename_i hlt
    rw [List.getElem?_eq_none (Nat.not_lt.mp hlt)]
    exact Nat.zero_le _

end State

/-! ## Steps -/

section Steps

variable {s s' : State C} {a : Act C}

/-- A transaction receives from one of its senders. -/
theorem State.HandOversSafe.le_localRoom_setLocal (hsafe : s.HandOversSafe) {i j w : Nat}
    {t t' : LocalTransaction C} (ht : s.locals[i]? = some t) (hroom : t.phase.room = 1)
    (hw : (if i = j then 1 else 0) + w = s.weight (Job.handsTo j)) :
    w ≤ (s.setLocal i t').localRoom j := by
  have hle := hsafe.locals j
  rw [← hw] at hle
  rw [State.localRoom_setLocal ht]
  split
  · rename_i hj
    subst hj
    rw [State.localRoom_of ht, hroom, if_pos rfl] at hle
    omega
  · rename_i hj
    rwa [if_neg (Ne.symm hj), Nat.zero_add] at hle

/-- One sender gone is one room less. -/
theorem State.HandOversSafe.le_remoteRoom_setRemote (hsafe : s.HandOversSafe) {i j w : Nat}
    {t t' : RemoteTransaction C} (ht : s.remotes[i]? = some t) (hroom : t.phase.room = 1)
    (hw : (if i = j then 1 else 0) + w = s.weight (Job.answersTo j)) :
    w ≤ (s.setRemote i t').remoteRoom j := by
  have hle := hsafe.remotes j
  rw [← hw] at hle
  rw [State.remoteRoom_setRemote ht]
  split
  · rename_i hj
    subst hj
    rw [State.remoteRoom_of ht, hroom, if_pos rfl] at hle
    omega
  · rename_i hj
    rwa [if_neg (Ne.symm hj), Nat.zero_add] at hle

/-- Closed channels take nothing. -/
theorem LocalPhase.room_of_closed {phase : LocalPhase C} (h : phase.channelsClosed = true) :
    phase.room = 0 := by
  cases phase with
  | closed | removed | done => rfl
  | _ => cases h

/-- The same for `NextMsgCh`. -/
theorem RemotePhase.room_of_closed {phase : RemotePhase C} (h : phase.channelClosed = true) :
    phase.room = 0 := by
  cases phase with
  | closed | removed => rfl
  | _ => cases h

variable [DecidableEq M]

/-- Nobody stands at a send to a local transaction beyond its room, -/
theorem handsTo_step (hsafe : s.HandOversSafe) (hcond : HandsOver s a) (h : Step s a s') (i : Nat) :
    s'.weight (Job.handsTo i) ≤ s'.localRoom i := by
  have hle := hsafe.locals i
  cases h with
  -- The look-ups bring somebody to the send: the condition has room for it.
  | dispatch hjobs hconn hopen hidle htype hresponse hfind =>
    rename_i rest c conn pkt j p initTime
    have hroom := hcond hresponse j hfind
    rw [State.weight_of_jobs hjobs] at hroom hle
    show State.weight _ ((s.withJobs rest).addJob _) ≤ s.localRoom i
    rw [State.weight_addJob, State.weight_withJobs]
    simp only [Job.handsTo] at hroom hle ⊢
    split
    · rename_i hj
      subst hj
      omega
    · exact hle
  | findExternal hfind =>
    rename_i j ppd id
    have hroom := (hcond j hfind).1
    show State.weight _ (s.addJob _) ≤ s.localRoom i
    rw [State.weight_addJob]
    simp only [Job.handsTo]
    split
    · rename_i hj
      subst hj
      omega
    · omega
  -- A send takes the room and the one who stood at it.
  | handPacket hjobs ht hphase =>
    exact hsafe.le_localRoom_setLocal ht (by rw [hphase]; rfl)
      (State.weight_of_jobs hjobs (Job.handsTo i)).symm
  | redirect hjobs ht hphase =>
    exact hsafe.le_localRoom_setLocal ht (by rw [hphase]; rfl)
      (State.weight_of_jobs hjobs (Job.handsTo i)).symm
  | redirectNil hjobs =>
    refine le_trans ?_ hle
    rw [State.weight_of_jobs hjobs]
    exact Nat.le_add_left _ _
  -- The transaction leaves its loop and its room goes: by the condition nobody stands at a send to it.
  | stop ht hphase hstop =>
    rename_i j t ending
    have hnone : s.weight (Job.handsTo j) = 0 := hcond
    rw [State.localRoom_setLocal ht]
    split
    · rename_i hj
      subst hj
      exact hnone.le.trans (Nat.zero_le _)
    · exact hle
  | assembleRequest hjobs =>
    refine le_trans (le_of_eq ?_) (hle.trans (State.localRoom_addLocalTransaction _))
    rw [State.weight_of_jobs hjobs]
    simp [Job.handsTo]
  | start ht hphase => exact hle.trans (State.localRoom_le_setLocal ht (by rw [hphase]; exact le_rfl))
  | handOnPacket ht hphase =>
    refine le_trans (le_of_eq ?_) (hle.trans (State.localRoom_le_setLocal ht (by rw [hphase]; exact le_rfl)))
    simp [Job.handsTo]
  | handOnExternal ht hphase => exact hle.trans (State.localRoom_le_setLocal ht (by rw [hphase]; exact le_rfl))
  | destroy ht hphase => exact hle.trans (State.localRoom_le_setLocal ht (by rw [hphase]; exact le_rfl))
  | closeChannels ht hphase => exact hle.trans (State.localRoom_le_setLocal ht (by rw [hphase]; exact le_rfl))
  | remove ht hphase => exact hle.trans (State.localRoom_le_setLocal ht (by rw [hphase]; exact le_rfl))
  | notify ht hphase => exact hle.trans (State.localRoom_le_setLocal ht (by rw [hphase]; exact le_rfl))
  | _ =>
    refine le_trans (le_of_eq ?_) hle
    first
    | rfl
    | simp [State.weight_of_jobs ‹s.jobs = _ ::ₘ _›, Job.handsTo]
    | simp [Job.handsTo]

/-- nor to a remote one. -/
theorem answersTo_step (hsafe : s.HandOversSafe) (hcond : HandsOver s a) (h : Step s a s') (i : Nat) :
    s'.weight (Job.answersTo i) ≤ s'.remoteRoom i := by
  have hle := hsafe.remotes i
  cases h with
  | findRemote hconn hfind hcaller =>
    rename_i c conn j m id
    have hroom := hcond _ j hconn hfind
    show State.weight _ (s.addJob _) ≤ s.remoteRoom i
    rw [State.weight_addJob]
    simp only [Job.answersTo]
    split
    · rename_i hj
      subst hj
      omega
    · omega
  | routeAnswer hjobs hserver hanswers =>
    rename_i rest j m
    have hroom : s.weight (Job.answersTo j) < s.remoteRoom j := hcond
    rw [State.weight_of_jobs hjobs] at hroom hle
    show State.weight _ ((s.withJobs rest).addJob _) ≤ s.remoteRoom i
    rw [State.weight_addJob, State.weight_withJobs]
    simp only [Job.answersTo] at hroom hle ⊢
    split
    · rename_i hj
      subst hj
      omega
    · omega
  | answer hjobs ht hphase =>
    exact hsafe.le_remoteRoom_setRemote ht (by rw [hphase]; rfl)
      (State.weight_of_jobs hjobs (Job.answersTo i)).symm
  | stopRemote ht hphase =>
    rename_i j t
    have hnone : s.weight (Job.answersTo j) = 0 := hcond
    rw [State.remoteRoom_setRemote ht]
    split
    · rename_i hj
      subst hj
      exact hnone.le.trans (Nat.zero_le _)
    · exact hle
  | parseRequest hjobs hrun hconn hreceive hdecrypted hfeedback hrequest =>
    rename_i rest conn nowMilli now ppd pd
    refine le_trans (le_of_eq ?_) (hle.trans (State.remoteRoom_addRemoteTransaction (s := s) conn _))
    rw [State.weight_of_jobs hjobs]
    simp [Job.answersTo]
  | handOnMsg ht hphase =>
    refine le_trans (le_of_eq ?_) (hle.trans (State.remoteRoom_le_setRemote ht (by rw [hphase]; exact le_rfl)))
    simp [Job.answersTo]
  | destroyRemote ht hphase => exact hle.trans (State.remoteRoom_le_setRemote ht (by rw [hphase]; exact le_rfl))
  | closeRemote ht hphase => exact hle.trans (State.remoteRoom_le_setRemote ht (by rw [hphase]; exact le_rfl))
  | removeRemote ht hphase => exact hle.trans (State.remoteRoom_le_setRemote ht (by rw [hphase]; exact le_rfl))
  | _ =>
    refine le_trans (le_of_eq ?_) hle
    first
    | rfl
    | simp [State.weight_of_jobs ‹s.jobs = _ ::ₘ _›, Job.answersTo]
    | simp [Job.answersTo]

/-- A cookie handler stands at its send from its look-up on. -/
theorem redirecting_step (h : Step s a s') {i : Nat} {ppd : PacketParserData C}
    (hmem : .redirecting i ppd ∈ s'.jobs) : .redirecting i ppd ∈ s.jobs ∨
      ∃ id, a = .findExternal id ppd ∧ s.findLocalTransaction id = some i := by
  cases h with
  | findExternal hfind =>
    obtain heq | hold := Multiset.mem_cons.mp hmem
    · cases heq
      exact .inr ⟨_, rfl, hfind⟩
    · exact .inl hold
  | redirect hjobs | redirectNil hjobs =>
    rw [hjobs]
    exact .inl (Multiset.mem_cons_of_mem hmem)
  | _ =>
    refine .inl (State.mem_jobs_iff.mpr (lt_of_lt_of_eq (State.mem_jobs_iff.mp hmem) ?_))
    first
    | rfl
    | simp [State.weight_of_jobs ‹s.jobs = _ ::ₘ _›, Job.indicator]
    | simp [Job.indicator]

/-- `Run` does not start over. -/
theorem started_step (h : Step s a s') {i : Nat} (hstarted : s.Started i) : s'.Started i := by
  obtain ⟨t, ht, hphase⟩ := hstarted
  -- a step that moves one transaction moves it to a later phase
  have hset : ∀ {j : Nat} {tj tj' : LocalTransaction C}, s.locals[j]? = some tj → tj'.phase ≠ .added →
      ∃ t', (s.locals.set j tj')[i]? = some t' ∧ t'.phase ≠ .added := by
    intro j tj tj' htj hne
    by_cases hij : j = i
    · subst hij
      exact ⟨tj', List.getElem?_set_self (List.getElem?_eq_some_iff.mp htj).1, hne⟩
    · exact ⟨t, by rw [List.getElem?_set_ne hij, ht], hphase⟩
  cases h with
  | assembleRequest =>
    refine ⟨t, ?_, hphase⟩
    show (s.locals ++ [_])[i]? = some t
    rw [List.getElem?_append_left (List.getElem?_eq_some_iff.mp ht).1, ht]
  | handPacket _ htj | start htj | redirect _ htj | stop htj | handOnPacket htj | handOnExternal htj
  | destroy htj | closeChannels htj | remove htj | notify htj => exact hset htj nofun
  | _ => exact ⟨t, ht, hphase⟩

/-- A sender's transaction has not closed the channel. -/
theorem badSend_step (hsafe : s.HandOversSafe) (h : Step s a s') :
    s'.badSend = false := by
  cases h with
  | handPacketClosed hjobs ht hclosed =>
    rename_i rest i t c p pkt
    have hle := hsafe.locals i
    rw [State.localRoom_of ht, LocalPhase.room_of_closed hclosed, State.weight_of_jobs hjobs,
      Job.handsTo, if_pos rfl] at hle
    omega
  | redirectClosed hjobs ht hclosed =>
    rename_i rest i t ppd
    have hle := hsafe.locals i
    rw [State.localRoom_of ht, LocalPhase.room_of_closed hclosed, State.weight_of_jobs hjobs,
      Job.handsTo, if_pos rfl] at hle
    omega
  | redirectNil hjobs ht hphase =>
    rename_i rest i t ppd
    obtain ⟨t', ht', hstarted⟩ := hsafe.started i ppd (by rw [hjobs]; exact Multiset.mem_cons_self _ _)
    rw [ht, Option.some.injEq] at ht'
    exact absurd hphase (ht' ▸ hstarted)
  | answerClosed hjobs ht hclosed =>
    rename_i rest i m rt
    have hle := hsafe.remotes i
    rw [State.remoteRoom_of ht, RemotePhase.room_of_closed hclosed, State.weight_of_jobs hjobs,
      Job.answersTo, if_pos rfl] at hle
    omega
  | _ => exact hsafe.noBadSend

/-- Each step of a run keeps the hand-overs safe. -/
theorem handOversSafe_step (hcond : HandsOver s a) (hsafe : s.HandOversSafe) (h : Step s a s') :
    s'.HandOversSafe where
  noBadSend := badSend_step hsafe h
  locals := handsTo_step hsafe hcond h
  remotes := answersTo_step hsafe hcond h
  started i ppd hmem := by
    obtain hold | ⟨id, rfl, hfind⟩ := redirecting_step h hmem
    · exact started_step h (hsafe.started i ppd hold)
    · exact started_step h (hcond i hfind).2

end Steps

/-! ## Runs -/

/-- **Hand-overs.**  In every run in which a look-up finds only a transaction that will receive from one more
    sender (for a cookie, one whose `Run` has started), and a transaction gives up only without a sender, no
    goroutine sends on a closed channel or on one not yet created. -/
theorem hand_overs_safe [DecidableEq M] {d : Device C} {s : State C} (h : Reached HandsOver d s) :
    s.badSend = false := by
  have hstart : (State.start d).HandOversSafe :=
    ⟨rfl, fun i => le_rfl, fun i => le_rfl, fun i ppd hmem => absurd hmem (Multiset.notMem_zero _)⟩
  have hsafe := h.invariant (fun _ _ _ hC hI hstep => handOversSafe_step hC.2 hI hstep) hstart
  exact hsafe.noBadSend

/-- A first request asks nothing: its look-ups come later. -/
theorem undemanding_handsOver : Undemanding (C := sampleLibs.crypto) HandsOver := by
  constructor <;> intros <;> trivial

/-- The paired agent knocks, and a cookie handler finds the waiting transaction and hands its message over; and
    it knocks, and the dispatcher finds the transaction for an answer and hands it over. -/
theorem hand_overs_safe_sample :
    (∃ s t ppd, s.locals[0]? = some t ∧ t.phase = .gotExternal ppd ∧
      State.badSend (C := sampleLibs.crypto) s = false) ∧
    ∃ s t pkt, s.locals[0]? = some t ∧ t.ending = some (.packet 0 pkt) ∧
      State.badSend (C := sampleLibs.crypto) s = false := by
  obtain ⟨mad, prev, sent, ppd, hk⟩ := knock_answered
  have hwaiting := reached_knockWaiting undemanding_handsOver hk.assembled hk.headerType
  have htaken : HandsOver (State.answerArrived mad (answerPacket sent))
      (.takeInbound 0 1 (answerPacket sent) 0) := by
    intro _ i hfind
    rw [State.answerArrived_find hk.counter, Option.some.injEq] at hfind
    subst hfind
    exact Nat.zero_lt_one
  have hfound : HandsOver (State.knockWaiting mad) (.findExternal mad.header.common.counter ppd) := by
    intro i hfind
    rw [State.knockWaiting_find, Option.some.injEq] at hfind
    subst hfind
    exact ⟨Nat.zero_lt_one, _, rfl, nofun⟩
  have hqueued := reached_answerQueued undemanding_handsOver hwaiting hk.len hk.precheck hk.packetType
    hk.counter htaken trivial
  have hredirecting := hwaiting.step ⟨rfl, hfound⟩ (.findExternal (State.knockWaiting_find mad))
  have hjobs : ((State.knockWaiting mad).addJob (.redirecting 0 ppd)).jobs =
      .redirecting 0 ppd ::ₘ 0 := rfl
  have hredirect := Step.redirect (t := .ofKnock mad .waiting none) hjobs rfl rfl
  have hredirected := hredirecting.step (e := Act.redirect 0 ppd) ⟨rfl, trivial⟩ hredirect
  exact ⟨⟨_, _, ppd, rfl, rfl, hand_overs_safe hredirected⟩, _, _, _, rfl, rfl, hand_overs_safe hqueued⟩

/-- **A late answer.**  The agent's dispatcher finds the transaction of an answer; the transaction times out
    before the dispatcher sends, and the send meets the closed channel. -/
theorem late_answer_fatal :
    ∃ s, Reached (fun _ _ => True) (sampleDevice .agent 1) s ∧ s.badSend = true := by
  obtain ⟨mad, hfound⟩ := reached_forgedFound
  have hended := hfound.step (e := .stop 0 .timeout) ⟨rfl, trivial⟩ (.stop rfl rfl (by trivial))
  have hdestroyed := hended.step (e := .destroy 0) ⟨rfl, trivial⟩ (.destroy rfl rfl)
  have hclosed := hdestroyed.step (e := .closeChannels 0) ⟨rfl, trivial⟩ (.closeChannels rfl rfl)
  exact ⟨_, hclosed.step (e := .handPacket 0 1 1 forgedAnswer) ⟨rfl, trivial⟩
    (.handPacketClosed (Multiset.insert_eq_cons _ _) rfl rfl), rfl⟩

end OpenNHP.Core.Routines
