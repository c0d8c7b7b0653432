/-
  Who answers a request.

  THE PROGRAM.  The answer to a request is parsed as the continuation of its assembly, but the key the request was
  encrypted to is not looked at again: the look-up only asks whether the sender is some registered peer.

  THE SPECIFICATION.  The key that an answer carries is the one the request went to (`State.Authored`).

  THE CRUX.  The request's key is in its assembly and the answer's key in its parse, and between the two the packet
  goes through the dispatcher, the transaction and a queue.  `State.Continued` keeps the assembly by the packet's
  side until the parse.

  WHERE IT FAILS.  Any other registered peer that knows the counter can answer (`other_peer_answers`).

  ASSEMBLY.  The answers are authored in every run in which, at each answer, no other registered peer passes the
  look-up (`responses_authored`): one step for what is under way (`continued_step`), one for what has been parsed
  (`authored_step`).
-/
import OpenNHP.Core.TransactionMaps
import OpenNHP.Core.InFlight

namespace OpenNHP.Core.Routines

open OpenNHP.Core

variable {M : Type} {C : Crypto M} [DecidableEq M]

/-! ## The sender of an accepted packet -/

/-- An accepted packet carries a key that the look-up admitted and with which the device has a secret. -/
theorem receive_author {d : Device C} {pd : PacketData C} {nowMilli now : Int64}
    {ppd : PacketParserData C} (h : receive d pd nowMilli now = (some ppd, .ok ())) :
    ∃ pk d' ss, ppd.remotePubKey = some pk ∧
      PacketParserData.admitPeer d (packetType pd.basePacket) pk pd.initTime pd.connData.remoteAddr nowMilli
        = .ok d' ∧
      (d.getEcdhByCipherScheme pd.scheme).sharedSecret pk = some ss := by
  obtain ⟨-, hs, pk, tsBytes, d', hpasses, hbody⟩ := receive_eq_ok_iff.mp h
  have hkey : ppd.remotePubKey = some pk := by
    obtain ⟨-, rfl⟩ | ⟨-, text, body, -, -, rfl⟩ := PacketParserData.decryptBody_eq_ok.mp hbody
    · rfl
    · rfl
  have hadmitted := hpasses.admitted
  have hss := hpasses.ss
  unfold PacketData.checked PacketData.startState at hadmitted hss
  cases hprev : pd.prevAssemblerData with
  | none =>
    rw [hprev] at hadmitted hss
    rw [PacketData.scheme, hprev]
    exact ⟨pk, d', hs.ss, hkey, hadmitted, hss⟩
  | some mad =>
    rw [hprev] at hadmitted hss
    rw [PacketData.scheme, hprev]
    exact ⟨pk, d', hs.ss, hkey, hadmitted, hss⟩

/-! ## The property and when it holds -/

/-- No peer but the one the request went to passes the look-up for its answer. -/
def OnlyPeer (s : State C) : Act C → Prop
  | .parse pd nowMilli _ => ∀ i mad conn, pd.prevAssemblerData = some (i, mad) →
      s.conns[pd.connData]? = some conn → ∀ pk d' ss,
        PacketParserData.admitPeer s.device (packetType pd.content) pk pd.initTime conn.data.remoteAddr
          nowMilli = .ok d' →
        (s.device.getEcdhByCipherScheme mad.cipherScheme).sharedSecret pk = some ss →
        mad.remotePubKey = some pk
  | _ => True

/-- The answers handed to callers carry the key their request was encrypted to. -/
def State.Authored (s : State C) : Prop :=
  ∀ r i ppd, (r, .response i ppd) ∈ s.completions →
    ∃ t, s.locals[i]? = some t ∧ ppd.remotePubKey = t.mad.remotePubKey

/-- What is parsed as an answer continues the request of its transaction. -/
def State.Continued (s : State C) : Prop :=
  ∀ pd i mad, .toMsg pd ∈ s.jobs → pd.prevAssemblerData = some (i, mad) →
    ∃ t, s.locals[i]? = some t ∧ t.mad = mad

/-! ## Steps -/

section Steps

variable {s s' : State C} {a : Act C}

/-- A caller gets an answer only from a parse. -/
theorem response_step (h : Step s a s') {r i : Nat} {ppd : PacketParserData C}
    (hmem : (r, .response i ppd) ∈ s'.completions) :
    (r, .response i ppd) ∈ s.completions ∨ ∃ pd nowMilli now conn mad, a = .parse pd nowMilli now ∧
      .toMsg pd ∈ s.jobs ∧ pd.prevAssemblerData = some (i, mad) ∧ s.conns[pd.connData]? = some conn ∧
      receive s.device (pd.current conn) nowMilli now = (some ppd, .ok ()) := by
  cases h with
  | parseResponse hjobs hrun hconn hreceive hdecrypted hfeedback hprev =>
    obtain hold | ⟨-, heq⟩ := State.mem_completions_complete hmem
    · exact .inl hold
    · cases heq
      rw [hjobs]
      exact .inr ⟨_, _, _, _, _, rfl, Multiset.mem_cons_self _ _, hprev, hconn, hreceive⟩
  | assembleFailed =>
    obtain hold | ⟨-, heq⟩ := State.mem_completions_complete hmem
    · exact .inl hold
    · cases heq
  | handOnExternal =>
    obtain hold | ⟨-, heq⟩ := State.mem_completions_complete hmem
    · exact .inl hold
    · cases heq
  | notify =>
    obtain hold | ⟨-, heq⟩ := State.mem_completions_complete hmem
    · exact .inl hold
    · cases heq
  | parseFailed =>
    obtain hold | ⟨-, heq⟩ := State.mem_completions_complete hmem
    · exact .inl hold
    · cases heq
  | _ => exact .inl hmem

/-- A packet that is queued as an answer keeps the assembly it continues. -/
theorem continued_step (hI : s.Continued) (h : Step s a s') : s'.Continued := by
  intro pd i mad hmem hprev
  have hcontinued : ∃ t, s.locals[i]? = some t ∧ t.mad = mad := by
    obtain hold | ⟨hnone, -⟩ | ⟨j, t, ht, hanswer, -⟩ := toMsg_step h hmem
    · exact hI pd i mad hold hprev
    · rw [hnone] at hprev
      cases hprev
    · rw [hanswer.prevAssemblerData, Option.some.injEq, Prod.mk.injEq] at hprev
      obtain ⟨rfl, rfl⟩ := hprev
      exact ⟨t, ht, rfl⟩
  obtain ⟨t, ht, hmad⟩ := hcontinued
  obtain ⟨t', ht', hcontinues⟩ := local_continues h ht
  exact ⟨t', ht', hcontinues.mad.trans hmad⟩

/-- The step of the specification: an answer is written down where it is parsed. -/
theorem authored_step (hcond : OnlyPeer s a) (hcontinued : s.Continued) (hI : s.Authored)
    (h : Step s a s') : s'.Authored := by
  intro r i ppd hmem
  have hauthored : ∃ t, s.locals[i]? = some t ∧ ppd.remotePubKey = t.mad.remotePubKey := by
    obtain hold | ⟨pd, nowMilli, now, conn, mad, rfl, hjob, hprev, hconn, hreceive⟩ := response_step h hmem
    · exact hI r i ppd hold
    · obtain ⟨t, ht, rfl⟩ := hcontinued pd i mad hjob hprev
      obtain ⟨pk, d', ss, hkey, hadmitted, hss⟩ := receive_author hreceive
      have hscheme : (pd.current conn).scheme = t.mad.cipherScheme := by
        rw [PacketData.scheme, InPacket.current, hprev]
        rfl
      rw [hscheme] at hss
      exact ⟨t, ht, hkey.trans (hcond i t.mad conn hprev hconn pk d' ss hadmitted hss).symm⟩
  obtain ⟨t, ht, hkey⟩ := hauthored
  obtain ⟨t', ht', hcontinues⟩ := local_continues h ht
  exact ⟨t', ht', by rw [hkey, hcontinues.mad]⟩

end Steps

/-! ## Runs -/

/-- **Response authorship.**  In every run in which no other peer passes the look-up at an answer, every
    answer that reaches a caller carries the key its request was encrypted to. -/
theorem responses_authored {d : Device C} {s : State C} (h : Reached OnlyPeer d s) : s.Authored := by
  have hstart : (State.start d).Continued ∧ (State.start d).Authored := by
    refine ⟨?_, ?_⟩
    · intro pd i mad hmem
      cases Multiset.notMem_zero _ hmem
    · intro r i ppd hmem
      cases hmem
  obtain ⟨-, hauthored⟩ := h.invariant (I := fun s => s.Continued ∧ s.Authored)
    (fun _ _ _ hC hI hstep => ⟨continued_step hI.1 hstep, authored_step hC.2 hI.1 hI.2 hstep⟩) hstart
  exact hauthored

/-- The paired agent admits an answer of its server only. -/
theorem pairedAgent_admits {pk : BigEndian.Bytes} {initTime nowMilli : Int64} {addr : Addr}
    {d' : Device sampleLibs.crypto}
    (h : PacketParserData.admitPeer pairedAgent .ack pk initTime addr nowMilli = .ok d') :
    pk = (sampleEcdh .sm2 2).publicKey := by
  have hvalidates : PacketParserData.toValidate pairedAgent.option .ack = true := rfl
  rw [PacketParserData.admitPeer, if_pos hvalidates] at h
  obtain ⟨peer, hpeer, -⟩ := Go.bind_eq_ok.mp h
  by_contra hpk
  rw [show pairedAgent.lookupPeer pk = none from if_neg hpk] at hpeer
  cases hpeer

/-- A first request parses no answer. -/
theorem undemanding_onlyPeer : Undemanding (C := sampleLibs.crypto) OnlyPeer := by
  constructor <;> intros <;> trivial

/-- The paired agent knocks, and the answer of its server reaches the caller. -/
theorem responses_authored_sample :
    ∃ s ppd, State.Authored (C := sampleLibs.crypto) s ∧ (0, .response 0 ppd) ∈ s.completions ∧
      ppd.remotePubKey = some (sampleEcdh .sm2 2).publicKey := by
  obtain ⟨mad, prev, sent, ppd, hk⟩ := knock_answered
  have hwaiting := reached_knockWaiting undemanding_onlyPeer hk.assembled hk.headerType
  have hqueued := reached_answerQueued undemanding_onlyPeer hwaiting hk.len hk.precheck hk.packetType hk.counter
    trivial trivial
  have honly : OnlyPeer (State.answerQueued mad (answerPacket sent))
      (.parse (.ofAnswer mad (answerPacket sent)) 1000000 1000000000000) := by
    rintro i mad' conn hprev - pk d' ss hadmitted -
    cases hprev
    rw [show packetType (InPacket.ofAnswer mad (answerPacket sent)).content = .ack from hk.packetType]
      at hadmitted
    rw [hk.remotePubKey, pairedAgent_admits hadmitted]
  have hauthored := responses_authored (reached_answerParsed hqueued hk.received honly)
  obtain ⟨t, ht, hkey⟩ := hauthored 0 0 ppd List.mem_cons_self
  cases ht
  exact ⟨_, ppd, hauthored, List.mem_cons_self, hkey.trans hk.remotePubKey⟩

/-! ## An answer of another peer -/

/-- The knock answer of the server with key 9, which has not got the knock: of the parse it continues it
    needs the agent's key, the counter and the scheme. -/
def otherAnswer : Go (Packet BigEndian.Bytes) :=
  knockParsed.bind fun ppd =>
  (inBlankBuffer (sampleDevice .server 9)
    (sampleMessage .ack (some { ppd with device := sampleDevice .server 9 }))).bind fun mad =>
  .ok (Packet.ofBytes mad.content mad.content.length)

/-- What the agent makes of it, as the answer to its knock. -/
def otherAnswered :
    Go (MsgAssemblerData sampleLibs.crypto × Packet BigEndian.Bytes × PacketParserData sampleLibs.crypto) :=
  (inBlankBuffer (sampleDevice .agent 1) (sampleMessage .knk none)).bind fun mad =>
  otherAnswer.bind fun pkt =>
  let pd : PacketData sampleLibs.crypto :=
    { basePacket := pkt
      connData := sampleConnection
      prevAssemblerData := some mad
      connPeerPublicKey := none
      initTime := 1000000000000 }
  match receive (sampleDevice .agent 1) pd 1000000 1000000000000 with
  | (some ppd, .ok ()) => .ok (mad, pkt, ppd)
  | _ => .panic

/-- **Another peer's answer.**  The agent knocks at the server with key 2; an answer of the server with key 9,
    with the knock's counter, completes the transaction. -/
theorem other_peer_answers :
    ∃ s, Reached (fun _ _ => True) (sampleDevice .agent 1) s ∧ ¬ s.Authored := by
  have hanswered : (otherAnswered.bind fun r => .ok (decide (Packet.minimalLength ≤ r.2.1.len),
      recvPrecheck .agent r.2.1, isTransactionResponse .agent (packetType r.2.1), r.2.1.common.counter,
      decide (r.2.2.remotePubKey = r.1.remotePubKey))) = .ok (true, .ok (.ack, 20), true, 7, false) := by
    decide +kernel
  obtain ⟨⟨mad, pkt, ppd⟩, hrun, hread⟩ := Go.bind_eq_ok.mp hanswered
  simp only [Go.ok.injEq, Prod.mk.injEq, decide_eq_true_eq, decide_eq_false_iff_not] at hread
  obtain ⟨hlen, hcheck, hresponse, hcounter, hauthor⟩ := hread
  obtain ⟨mad', hmad', hrun⟩ := Go.bind_eq_ok.mp hrun
  obtain ⟨pkt', -, hrun⟩ := Go.bind_eq_ok.mp hrun
  dsimp only at hrun
  split at hrun
  · rename_i ppd' hreceive
    simp only [Go.ok.injEq, Prod.mk.injEq] at hrun
    obtain ⟨rfl, rfl, rfl⟩ := hrun
    obtain ⟨mad₀, hmad₀, hfound⟩ := reached_answerFound _ hlen hcheck hresponse hcounter
    rw [hmad', Go.ok.injEq] at hmad₀
    subst hmad₀
    have hhanded := hfound.step (e := .handPacket 0 1 1 pkt') ⟨rfl, trivial⟩
      (.handPacket (Multiset.insert_eq_cons _ _) rfl rfl)
    have htoMsg := hhanded.step (e := .handOn 0 1000000000000) ⟨rfl, trivial⟩
      (.handOnPacket rfl rfl)
    let pd : InPacket sampleLibs.crypto :=
      { basePacket := 1
        content := pkt'
        connData := 0
        prevAssemblerData := some (0, mad')
        feedbackMsgCh := some 0
        decryptedMsgCh := false
        initTime := 1000000000000 }
    have hparsed := htoMsg.step (e := .parse pd 1000000 1000000000000) ⟨rfl, trivial⟩
      (.parseResponse (Multiset.insert_eq_cons (Job.toMsg pd) {Job.outgoing 0 0 true}) rfl rfl hreceive rfl rfl rfl)
    refine ⟨_, hparsed, ?_⟩
    intro hauthored
    obtain ⟨t, ht, hkey⟩ := hauthored 0 0 ppd' List.mem_cons_self
    cases ht
    exact hauthor hkey
  · cases hrun

end OpenNHP.Core.Routines
