/-
  Pre-access grants: temporary listeners and the tokens issued with them (`endpoints/ac/msghandler.go`).

  1. **The program.**  In pass mode `PASS_PRE_ACCESS_IP` a request is answered with a port and a token; the port's
     handlers hold the destinations, the token store holds the token, and nothing holds both.  A handler lets an
     access message in if the store has its token, whichever request that was issued for.

  2. **Steps.**  The requests, the handlers and the routine of the store run side by side; every access to the
     store is one step, and so is whatever a handler does between two of them.  A listener is taken from its start
     through the message it receives to its end, and any number of them may be open.

  3. **The property.**  `Bound`: every admission at a port was with the token that was issued with that port's
     request, and was for the destinations of that request.

  4. **The result.**  A grant is bound to its token exactly as far as the agents present no token of the store at a
     port other than its own (`OwnToken`): in every run whose steps meet this, `Bound` holds, and a step that does
     not breaks it (`grant_bound`).  The invariant `Accounted` follows the tokens from their issue to the store and
     the ports; `cross_use` is a run in which an agent takes its own token to the port of another.
-/
import OpenNHP.AC.TokenStore
import OpenNHP.Lib.Runs

namespace OpenNHP.AC

open Inet BigEndian Runs

/-! ## Listeners -/

/-- `common.AgentAccessMsg`, without the data of the user. -/
structure AgentAccessMsg where
  userId : String
  deviceId : String
  organizationId : String
  acToken : String
  deriving DecidableEq, Repr

/-- The protocol of a temporary port. -/
inductive Transport
  | tcp
  | udp
  deriving DecidableEq, Repr

/-- What a request in pre-access mode hands out, and what its handlers are started with; the destinations
    are never empty. -/
structure Grant where
  info : PreAccessInfo
  dst₀ : NetAddress
  dsts : List NetAddress
  timeoutSec : Int
  openTimeSec : Int

/-- How far a handler has come: it has been started, it waits until its deadline, or it has read, decrypted
    and parsed an access message. -/
inductive Phase
  | begun
  | accepting (deadline : Int)
  | received (srcAddrIp : String) (accMsg : AgentAccessMsg)
  deriving DecidableEq, Repr

/-- A temporary port with its handler. -/
structure TempListener where
  transport : Transport
  grant : Grant
  phase : Phase

/-- The message a listener has received and not yet looked at, with its source. -/
def TempListener.received (l : TempListener) : Option (String × AgentAccessMsg) :=
  match l.phase with
  | .received srcAddrIp accMsg => some (srcAddrIp, accMsg)
  | _ => none

/-- The rules that the handler installs for an access message it lets in. -/
def TempListener.install (a : UdpAC) (l : TempListener) (srcAddrIp : String) : List RuleOp :=
  match l.transport with
  | .tcp => tcpTempAccessHandler a l.grant.openTimeSec srcAddrIp l.grant.dst₀ l.grant.dsts
  | .udp => udpTempAccessHandler a l.grant.openTimeSec srcAddrIp l.grant.dst₀ l.grant.dsts

/-- An access message that a handler has let in, and the rules it has installed for it. -/
structure Admission where
  grant : Grant
  accMsg : AgentAccessMsg
  rules : List RuleOp

/-! ## The access controller -/

/-- The access controller: its clock, its token store, the requests that have yet to generate their token,
    the temporary ports that are not closed; all tokens generated and all messages let in so far; whether a
    handler has panicked, which ends the process. -/
structure Grants where
  clock : Int
  tokenStore : TokenStore
  pending : List AccessEntry
  listeners : List TempListener
  issued : List String
  admissions : List Admission
  panicked : Bool

/-- No requests yet. -/
def Grants.boot (clock : Int) : Grants := ⟨clock, ∅, [], [], [], [], false⟩

/-- What happens: time passes; a request of the server is carried out; a request generates its token; a
    token is refreshed over HTTP; a handler begins to wait, receives an access message, asks the store for
    its token, or gives up; the routine of the store makes a pass. A call finds the configuration and the
    operating system as they are then. -/
inductive GrantEvent
  | tick (now : Int)
  | operations (a : UdpAC) (dopMsg : ServerACOpsMsg)
  | issue (i : Nat)
  | refresh (a : UdpAC) (token srcIp : String)
  | listen (i : Nat)
  | receive (i : Nat) (srcAddrIp : String) (accMsg : AgentAccessMsg)
  | verify (i : Nat) (a : UdpAC)
  | close (i : Nat)
  | refreshStore

namespace Grants

/-- A token is generated for an entry. -/
def generate (s : Grants) (token : String) (entry : AccessEntry) : Grants :=
  { s with tokenStore := s.tokenStore.add token entry s.clock, issued := s.issued ++ [token] }

/-- The end of `HandleAccessControl`: behind a result with pre-access information its token is in the store
    and the handlers of the two ports are started. -/
def handOut (s : Grants) (user : AgentUser) (srcAddrs dstAddrs : List NetAddress) (openTimeSec : Int)
    (info : Option PreAccessInfo) : Grants :=
  match info, dstAddrs with
  | some info, dst₀ :: dsts =>
    let grant : Grant := ⟨info, dst₀, dsts, tempOpenTime openTimeSec, openTimeSec⟩
    let s := s.generate info.acToken ⟨user, srcAddrs, dstAddrs, tempOpenTime openTimeSec⟩
    { s with listeners := s.listeners ++ [⟨.tcp, grant, .begun⟩, ⟨.udp, grant, .begun⟩] }
  | _, _ => s

/-- A handler goes on. -/
def setPhase (s : Grants) (i : Nat) (l : TempListener) (phase : Phase) : Grants :=
  { s with listeners := s.listeners.set i { l with phase := phase } }

section Calls

variable (sm3 : Bytes → Bytes) (acId : String)

/-- The environment of a call, with the token it would generate for a user now. -/
def withToken (s : Grants) (a : UdpAC) (user : AgentUser) : UdpAC :=
  { a with accessToken := accessToken sm3 acId user s.clock }

/-- `HandleUdpACOperations` up to its own token. -/
def operations (s : Grants) (a : UdpAC) (dopMsg : ServerACOpsMsg) : Grants :=
  let user : AgentUser := ⟨dopMsg.userId, dopMsg.deviceId, dopMsg.organizationId, dopMsg.authServiceId⟩
  let answer := handleUdpACOperations (s.withToken sm3 acId a user) dopMsg
  let s := s.handOut user dopMsg.sourceAddrs (dstAddrsAfter a dopMsg.sourceAddrs dopMsg.destinationAddrs)
    dopMsg.openTimeSec answer.artMsg.preAccessAction
  { s with pending := s.pending ++ answer.tokens }

/-- The sources that a refresh passes: the one it asks for is added with the port and the protocol of the
    first, and without a first the handler panics. -/
def refreshedSources (srcAddrs : List NetAddress) (srcIp : String) : Option (List NetAddress) :=
  if srcAddrs.any fun addr => addr.ip = srcIp then some srcAddrs
  else srcAddrs.head?.map fun src => srcAddrs ++ [{ src with ip := srcIp }]

/-- `HandleHttpRefreshOperations` behind the checks on the form of the request; its panic is recovered from. -/
def refresh (s : Grants) (a : UdpAC) (token srcIp : String) : Grants :=
  match s.tokenStore.found token with
  | none => s
  | some entry =>
    match refreshedSources entry.srcAddrs srcIp with
    | none => { s with tokenStore := s.tokenStore.write token (TokenStore.prolong entry) }
    | some srcAddrs =>
      let dstAddrs := dstAddrsAfter a srcAddrs entry.dstAddrs
      let answer := handleAccessControl (s.withToken sm3 acId a entry.user) srcAddrs entry.dstAddrs
        entry.openTime {}
      let entry' := { TokenStore.prolong entry with srcAddrs := srcAddrs, dstAddrs := dstAddrs }
      let s := { s with tokenStore := s.tokenStore.write token entry' }
      s.handOut entry.user srcAddrs dstAddrs entry.openTime answer.artMsg.preAccessAction

/-- A handler asks the store for the token of its message, installs its rules if there is an entry, and
    closes its port. `VerifyAccessToken` panics on an empty token. -/
def verify (s : Grants) (a : UdpAC) (i : Nat) (l : TempListener) (srcAddrIp : String)
    (accMsg : AgentAccessMsg) : Grants :=
  if accMsg.acToken = "" then { s with panicked := true }
  else
    let s := { s with listeners := s.listeners.eraseIdx i }
    match s.tokenStore.found accMsg.acToken with
    | none => s
    | some entry =>
      { s with
        tokenStore := s.tokenStore.write accMsg.acToken (TokenStore.prolong entry)
        admissions := s.admissions ++ [⟨l.grant, accMsg, l.install a srcAddrIp⟩] }

/-- One event, if it is possible. -/
def step (s : Grants) : GrantEvent → Option Grants
  | .tick now => if s.panicked = false ∧ s.clock ≤ now then some { s with clock := now } else none
  | .operations a dopMsg => if s.panicked then none else some (s.operations sm3 acId a dopMsg)
  | .issue i =>
    match s.pending[i]? with
    | some entry =>
      if s.panicked then none
      else
        let s' := s.generate (accessToken sm3 acId entry.user s.clock) entry
        some { s' with pending := s.pending.eraseIdx i }
    | none => none
  | .refresh a token srcIp => if s.panicked then none else some (s.refresh sm3 acId a token srcIp)
  | .listen i =>
    match s.listeners[i]? with
    | some l =>
      if s.panicked = false ∧ l.phase = .begun then
        some (s.setPhase i l (.accepting (s.clock + l.grant.timeoutSec * second)))
      else none
    | none => none
  | .receive i srcAddrIp accMsg =>
    match s.listeners[i]? with
    | some l =>
      match l.phase with
      | .accepting deadline =>
        if s.panicked = false ∧ s.clock ≤ deadline then
          some (s.setPhase i l (.received srcAddrIp accMsg))
        else none
      | _ => none
    | none => none
  | .verify i a =>
    match s.listeners[i]? with
    | some l =>
      match l.received with
      | some (srcAddrIp, accMsg) => if s.panicked then none else some (s.verify a i l srcAddrIp accMsg)
      | none => none
    | none => none
  | .close i => if s.panicked then none else some { s with listeners := s.listeners.eraseIdx i }
  | .refreshStore =>
    if s.panicked then none else some { s with tokenStore := s.tokenStore.dropExpired s.clock }

end Calls

/-- Rules have been installed for the destinations of a listener only on its own token. -/
def Bound (s : Grants) : Prop :=
  ∀ adm ∈ s.admissions, adm.rules ≠ [] → adm.accMsg.acToken = adm.grant.info.acToken

/-- A handler that asks the store has been sent the token issued with its port, or one the store does not
    hold. -/
def OwnToken (s : Grants) : GrantEvent → Prop
  | .verify i _ => ∀ l ∈ s.listeners[i]?, ∀ r ∈ l.received,
      (s.tokenStore.found r.2.acToken).isSome = true → r.2.acToken = l.grant.info.acToken
  | _ => True

instance (s : Grants) : Decidable s.Bound :=
  inferInstanceAs (Decidable (∀ adm ∈ s.admissions, adm.rules ≠ [] →
    adm.accMsg.acToken = adm.grant.info.acToken))

instance (s : Grants) : DecidablePred s.OwnToken
  | .verify i _ => inferInstanceAs (Decidable (∀ l ∈ s.listeners[i]?, ∀ r ∈ l.received,
      (s.tokenStore.found r.2.acToken).isSome = true → r.2.acToken = l.grant.info.acToken))
  | .tick _ | .operations _ _ | .issue _ | .refresh _ _ _ | .listen _ | .receive _ _ _ | .close _
  | .refreshStore =>
    inferInstanceAs (Decidable True)

/-! ## What is let in -/

section Runs

variable {sm3 : Bytes → Bytes} {acId : String} {s s' : Grants} {e : GrantEvent}

/-- A request admits nobody, -/
theorem handOut_admissions (user : AgentUser) (srcAddrs dstAddrs : List NetAddress) (openTimeSec : Int)
    (info : Option PreAccessInfo) :
    (s.handOut user srcAddrs dstAddrs openTimeSec info).admissions = s.admissions := by
  unfold handOut
  split <;> rfl

/-- nor do the operations of the server, -/
theorem operations_admissions (a : UdpAC) (dopMsg : ServerACOpsMsg) :
    (s.operations sm3 acId a dopMsg).admissions = s.admissions :=
  handOut_admissions _ _ _ _ _

/-- nor does a refresh. -/
theorem refresh_admissions (a : UdpAC) (token srcIp : String) :
    (s.refresh sm3 acId a token srcIp).admissions = s.admissions := by
  unfold refresh
  split
  · rfl
  · split
    · rfl
    · exact handOut_admissions _ _ _ _ _

/-- A handler lets a message in when the store has its token, and only then. -/
theorem verify_admissions (a : UdpAC) (i : Nat) (l : TempListener) (srcAddrIp : String)
    (accMsg : AgentAccessMsg) :
    (s.verify a i l srcAddrIp accMsg).admissions = s.admissions ++
      if accMsg.acToken ≠ "" ∧ (s.tokenStore.found accMsg.acToken).isSome = true then
        [⟨l.grant, accMsg, l.install a srcAddrIp⟩] else [] := by
  unfold verify
  by_cases hempty : accMsg.acToken = ""
  · simp [hempty]
  · dsimp only
    cases hfound : s.tokenStore.found accMsg.acToken with
    | none => simp [hempty]
    | some entry => simp [hempty]

/-- What a step can do. -/
inductive Took (sm3 : Bytes → Bytes) (acId : String) (s : Grants) : GrantEvent → Grants → Prop
  | tick {now : Int} (hle : s.clock ≤ now) : Took sm3 acId s (.tick now) { s with clock := now }
  | operations {a : UdpAC} {dopMsg : ServerACOpsMsg} :
    Took sm3 acId s (.operations a dopMsg) (s.operations sm3 acId a dopMsg)
  | issue {i : Nat} {entry : AccessEntry} (hentry : s.pending[i]? = some entry) :
    Took sm3 acId s (.issue i)
      { s.generate (accessToken sm3 acId entry.user s.clock) entry with pending := s.pending.eraseIdx i }
  | refresh {a : UdpAC} {token srcIp : String} :
    Took sm3 acId s (.refresh a token srcIp) (s.refresh sm3 acId a token srcIp)
  | listen {i : Nat} {l : TempListener} (hl : s.listeners[i]? = some l) (hphase : l.phase = .begun) :
    Took sm3 acId s (.listen i) (s.setPhase i l (.accepting (s.clock + l.grant.timeoutSec * second)))
  | receive {i : Nat} {l : TempListener} {deadline : Int} {srcAddrIp : String} {accMsg : AgentAccessMsg}
    (hl : s.listeners[i]? = some l) (hphase : l.phase = .accepting deadline) (hle : s.clock ≤ deadline) :
    Took sm3 acId s (.receive i srcAddrIp accMsg) (s.setPhase i l (.received srcAddrIp accMsg))
  | verify {i : Nat} {a : UdpAC} {l : TempListener} {srcAddrIp : String} {accMsg : AgentAccessMsg}
    (hl : s.listeners[i]? = some l) (hreceived : l.received = some (srcAddrIp, accMsg)) :
    Took sm3 acId s (.verify i a) (s.verify a i l srcAddrIp accMsg)
  | close {i : Nat} : Took sm3 acId s (.close i) { s with listeners := s.listeners.eraseIdx i }
  | refreshStore : Took sm3 acId s .refreshStore { s with tokenStore := s.tokenStore.dropExpired s.clock }

/-- What a step does to the admissions. -/
theorem step_cases (hstep : step sm3 acId s e = some s') : Took sm3 acId s e s' := by
  cases e with
  | tick now =>
    obtain ⟨⟨-, hle⟩, ⟨⟩⟩ := Option.ite_none_right_eq_some.mp hstep
    exact .tick hle
  | operations a dopMsg =>
    obtain ⟨-, ⟨⟩⟩ := Option.ite_none_left_eq_some.mp hstep
    exact .operations
  | issue i =>
    rw [step] at hstep
    cases hentry : s.pending[i]? with
    | none =>
      rw [hentry] at hstep
      cases hstep
    | some entry =>
      rw [hentry] at hstep
      obtain ⟨-, ⟨⟩⟩ := Option.ite_none_left_eq_some.mp hstep
      exact .issue hentry
  | refresh a token srcIp =>
    obtain ⟨-, ⟨⟩⟩ := Option.ite_none_left_eq_some.mp hstep
    exact .refresh
  | listen i =>
    rw [step] at hstep
    cases hl : s.listeners[i]? with
    | none =>
      rw [hl] at hstep
      cases hstep
    | some l =>
      rw [hl] at hstep
      obtain ⟨⟨-, hphase⟩, ⟨⟩⟩ := Option.ite_none_right_eq_some.mp hstep
      exact .listen hl hphase
  | receive i srcAddrIp accMsg =>
    rw [step] at hstep
    cases hl : s.listeners[i]? with
    | none =>
      rw [hl] at hstep
      cases hstep
    | some l =>
      rw [hl] at hstep
      -- Only a listener that accepts takes a message in, and only before its deadline.
      cases hphase : l.phase with
      | begun | received =>
        simp only [hphase] at hstep
        cases hstep
      | accepting deadline =>
        simp only [hphase] at hstep
        obtain ⟨⟨-, hle⟩, ⟨⟩⟩ := Option.ite_none_right_eq_some.mp hstep
        exact .receive hl hphase hle
  | verify i a =>
    rw [step] at hstep
    cases hl : s.listeners[i]? with
    | none =>
      rw [hl] at hstep
      cases hstep
    | some l =>
      rw [hl] at hstep
      cases hreceived : l.received with
      | none =>
        simp only [hreceived] at hstep
        cases hstep
      | some r =>
        simp only [hreceived] at hstep
        obtain ⟨-, ⟨⟩⟩ := Option.ite_none_left_eq_some.mp hstep
        exact .verify hl hreceived
  | close i =>
    obtain ⟨-, ⟨⟩⟩ := Option.ite_none_left_eq_some.mp hstep
    exact .close
  | refreshStore =>
    obtain ⟨-, ⟨⟩⟩ := Option.ite_none_left_eq_some.mp hstep
    exact .refreshStore

/-- Only a handler that asks the store lets anything in, and it has been sent the token of its port. -/
theorem Bound.step (hbound : s.Bound) (hown : s.OwnToken e) (hstep : Grants.step sm3 acId s e = some s') :
    s'.Bound := by
  have hsame : ∀ {t : Grants}, t.admissions = s.admissions → t.Bound := by
    intro t ht adm hadm
    rw [ht] at hadm
    exact hbound adm hadm
  cases step_cases hstep with
  | operations => exact hsame (operations_admissions _ _)
  | refresh => exact hsame (refresh_admissions _ _ _)
  | tick | issue | listen | receive | close | refreshStore => exact hsame rfl
  | verify hl hreceived =>
    intro adm hadm hrules
    rw [verify_admissions] at hadm
    rcases List.mem_append.mp hadm with hold | hnew
    · exact hbound adm hold hrules
    · split at hnew
      · rename_i hfound
        cases List.mem_singleton.mp hnew
        exact hown _ hl _ hreceived hfound.2
      · cases hnew

/-- A token of the store that is presented at another port opens that port's destinations. -/
theorem not_bound_of_other {a : UdpAC} {i : Nat} {l : TempListener} {srcAddrIp : String}
    {accMsg : AgentAccessMsg} (hl : s.listeners[i]? = some l) (hreceived : l.received = some (srcAddrIp, accMsg))
    (hempty : accMsg.acToken ≠ "") (hfound : (s.tokenStore.found accMsg.acToken).isSome = true)
    (hother : accMsg.acToken ≠ l.grant.info.acToken) (hrules : l.install a srcAddrIp ≠ [])
    (hstep : step sm3 acId s (.verify i a) = some s') : ¬ s'.Bound := by
  intro hbound
  cases step_cases hstep with
  | verify hl' hreceived' =>
    rw [hl] at hl'
    cases hl'
    rw [hreceived] at hreceived'
    cases hreceived'
    refine hother (hbound ⟨l.grant, accMsg, l.install a srcAddrIp⟩ ?_ hrules)
    rw [verify_admissions, if_pos ⟨hempty, hfound⟩]
    exact List.mem_append_right _ (List.mem_singleton_self _)

/-! ## Where the tokens come from -/

/-- The store, the ports and the messages let in know only tokens that have been issued. -/
structure Accounted (s : Grants) : Prop where
  store : ∀ token, (s.tokenStore.found token).isSome = true → token ∈ s.issued
  listeners : ∀ l ∈ s.listeners, l.grant.info.acToken ∈ s.issued
  admissions : ∀ adm ∈ s.admissions, adm.accMsg.acToken ∈ s.issued ∧ adm.grant.info.acToken ∈ s.issued

/-- There is nothing to account for. -/
theorem Accounted.boot (clock : Int) : (Grants.boot clock).Accounted where
  store _ h := by cases h
  listeners _ h := by cases h
  admissions _ h := by cases h

/-- A token is issued and stored. -/
theorem Accounted.generate (h : s.Accounted) (token : String) (entry : AccessEntry) :
    (s.generate token entry).Accounted where
  store token' hfound := by
    change ((s.tokenStore.add token entry s.clock).found token').isSome = true at hfound
    rw [TokenStore.found_add] at hfound
    split at hfound
    · rename_i htoken
      exact List.mem_append_right _ (List.mem_singleton.mpr htoken)
    · exact List.mem_append_left _ (h.store token' hfound)
  listeners l hl := List.mem_append_left _ (h.listeners l hl)
  admissions adm hadm := (h.admissions adm hadm).imp (List.mem_append_left _) (List.mem_append_left _)

/-- A token that is in the store is written again. -/
theorem Accounted.write (h : s.Accounted) {token : String} (hfound : (s.tokenStore.found token).isSome = true)
    (entry : TokenEntry) : Accounted { s with tokenStore := s.tokenStore.write token entry } where
  store token' hfound' := by
    rw [TokenStore.found_write] at hfound'
    split at hfound'
    · rename_i htoken
      rw [htoken]
      exact h.store token hfound
    · exact h.store token' hfound'
  listeners := h.listeners
  admissions := h.admissions

/-- A request opens its ports, with its token. -/
theorem Accounted.handOut (h : s.Accounted) (user : AgentUser) (srcAddrs dstAddrs : List NetAddress)
    (openTimeSec : Int) (info : Option PreAccessInfo) :
    (s.handOut user srcAddrs dstAddrs openTimeSec info).Accounted := by
  unfold Grants.handOut
  split
  · rename_i info dst₀ dsts
    have hgenerate := h.generate info.acToken ⟨user, srcAddrs, dst₀ :: dsts, tempOpenTime openTimeSec⟩
    refine ⟨hgenerate.store, fun l hl => ?_, hgenerate.admissions⟩
    rcases List.mem_append.mp hl with hold | hnew
    · exact hgenerate.listeners l hold
    · have hissued : info.acToken ∈ s.issued ++ [info.acToken] :=
        List.mem_append_right _ (List.mem_singleton_self _)
      obtain rfl | rfl : l = _ ∨ l = _ := by simpa using hnew
      · exact hissued
      · exact hissued
  · exact h

/-- A message of the server is carried out. -/
theorem Accounted.operations (h : s.Accounted) (a : UdpAC) (dopMsg : ServerACOpsMsg) :
    (s.operations sm3 acId a dopMsg).Accounted :=
  have hhandOut := h.handOut _ _ _ _ _
  ⟨hhandOut.store, hhandOut.listeners, hhandOut.admissions⟩

/-- A token is refreshed. -/
theorem Accounted.refresh (h : s.Accounted) (a : UdpAC) (token srcIp : String) :
    (s.refresh sm3 acId a token srcIp).Accounted := by
  unfold Grants.refresh
  cases hfound : s.tokenStore.found token with
  | none => exact h
  | some entry =>
    have hsome : (s.tokenStore.found token).isSome = true := by
      rw [hfound]
      rfl
    dsimp only
    split
    · exact h.write hsome _
    · exact (h.write hsome _).handOut _ _ _ _ _

/-- A handler that is closed or has gone on holds the same grant. -/
theorem Accounted.sublist (h : s.Accounted) {listeners : List TempListener}
    (hsub : ∀ l ∈ listeners, ∃ l' ∈ s.listeners, l.grant = l'.grant) :
    Accounted { s with listeners := listeners } where
  store := h.store
  listeners l hl := by
    obtain ⟨l', hl', hgrant⟩ := hsub l hl
    rw [hgrant]
    exact h.listeners l' hl'
  admissions := h.admissions

/-- A listener comes to its end. -/
theorem Accounted.eraseIdx (h : s.Accounted) (i : Nat) :
    Accounted { s with listeners := s.listeners.eraseIdx i } :=
  h.sublist fun l hl => ⟨l, List.mem_of_mem_eraseIdx hl, rfl⟩

/-- A listener moves on. -/
theorem Accounted.setPhase (h : s.Accounted) {i : Nat} {l : TempListener} (hl : s.listeners[i]? = some l)
    (phase : Phase) : (s.setPhase i l phase).Accounted := by
  refine h.sublist fun l' hl' => ?_
  rcases List.mem_or_eq_of_mem_set hl' with hold | rfl
  · exact ⟨l', hold, rfl⟩
  · exact ⟨l, List.mem_of_getElem? hl, rfl⟩

/-- A listener looks at the token of its message. -/
theorem Accounted.verify (h : s.Accounted) (a : UdpAC) {i : Nat} {l : TempListener}
    (hl : s.listeners[i]? = some l) (srcAddrIp : String) (accMsg : AgentAccessMsg) :
    (s.verify a i l srcAddrIp accMsg).Accounted := by
  unfold Grants.verify
  split
  · exact ⟨h.store, h.listeners, h.admissions⟩
  · dsimp only
    cases hfound : s.tokenStore.found accMsg.acToken with
    | none => exact h.eraseIdx i
    | some entry =>
      have hsome : (s.tokenStore.found accMsg.acToken).isSome = true := by
        rw [hfound]
        rfl
      have hwrite := (h.eraseIdx i).write hsome (TokenStore.prolong entry)
      refine ⟨hwrite.store, hwrite.listeners, fun adm hadm => ?_⟩
      rcases List.mem_append.mp hadm with hold | hnew
      · exact h.admissions adm hold
      · cases List.mem_singleton.mp hnew
        exact ⟨h.store _ hsome, h.listeners l (List.mem_of_getElem? hl)⟩

/-- Every step keeps the accounts. -/
theorem Accounted.step (h : s.Accounted) (hstep : Grants.step sm3 acId s e = some s') : s'.Accounted := by
  cases step_cases hstep with
  | tick hle => exact ⟨h.store, h.listeners, h.admissions⟩
  | operations => exact h.operations _ _
  | @issue i entry hentry =>
    have hgenerate := h.generate (accessToken sm3 acId entry.user s.clock) entry
    exact ⟨hgenerate.store, hgenerate.listeners, hgenerate.admissions⟩
  | refresh => exact h.refresh _ _ _
  | listen hl hphase => exact h.setPhase hl _
  | receive hl hphase hle => exact h.setPhase hl _
  | verify hl hreceived => exact h.verify _ hl _ _
  | close => exact h.eraseIdx _
  | refreshStore =>
    refine ⟨fun token hfound => ?_, h.listeners, h.admissions⟩
    obtain ⟨entry, hentry⟩ := Option.isSome_iff_exists.mp hfound
    exact h.store token (Option.isSome_iff_exists.mpr ⟨entry, (TokenStore.found_dropExpired.mp hentry).1⟩)

end Runs

end Grants

/-- In every run, whatever the agents present, a message is let in only with a token that has been issued. -/
theorem admitted_issued {sm3 : Bytes → Bytes} {acId : String} {clock : Int} {events : List GrantEvent}
    {s : Grants}
    (hrun : run (Grants.step sm3 acId) (.boot clock) events = some s) :
    ∀ adm ∈ s.admissions, adm.accMsg.acToken ∈ s.issued ∧ adm.grant.info.acToken ∈ s.issued :=
  have haccounted : s.Accounted :=
    run_invariant (fun _ _ _ hI hstep => Grants.Accounted.step hI hstep) (Grants.Accounted.boot clock) hrun
  haccounted.admissions

/-- **Pre-access grants.** In every run in which no handler asks the store for a token of the store that is
    not its own, rules are installed for the destinations of a port only on the token issued with it; and a
    handler that asks the store for another of its tokens, and installs anything, installs it on that token. -/
theorem grant_bound {sm3 : Bytes → Bytes} {acId : String} {clock : Int} {events : List GrantEvent}
    {s : Grants}
    (hsteps : Steps (Grants.step sm3 acId) Grants.OwnToken (.boot clock) events)
    (hrun : run (Grants.step sm3 acId) (.boot clock) events = some s) :
    s.Bound ∧ ∀ a i l srcAddrIp (accMsg : AgentAccessMsg) s',
      s.listeners[i]? = some l → l.received = some (srcAddrIp, accMsg) → accMsg.acToken ≠ "" →
      (s.tokenStore.found accMsg.acToken).isSome = true → accMsg.acToken ≠ l.grant.info.acToken →
      l.install a srcAddrIp ≠ [] → Grants.step sm3 acId s (.verify i a) = some s' → ¬ s'.Bound := by
  have hbound : s.Bound :=
    run_invariant_of (fun _ _ _ hC hI hstep => Grants.Bound.step hI hC hstep) hsteps
      (fun _ h => by cases h) hrun
  exact ⟨hbound, fun _ _ _ _ _ _ hl hreceived hempty hfound hother hrules hstep =>
    Grants.not_bound_of_other hl hreceived hempty hfound hother hrules hstep⟩

/-! ## Samples -/

/-- A digest of the right length that keeps the end of its input. -/
def sampleSm3 (data : Bytes) : Bytes := (List.replicate 32 0 ++ data).drop data.length

/-- Two requests, of two users, and the tokens they are answered with. -/
def sampleRequest₁ : ServerACOpsMsg :=
  ⟨"user1", "device", "org", "service", "web", [agentAddr], [webAddr], 600⟩

def sampleRequest₂ : ServerACOpsMsg :=
  ⟨"user2", "device", "org", "service", "shell", [⟨"10.0.0.2", 0, ""⟩], [⟨"10.1.0.3", 22, "tcp"⟩], 600⟩

/-- The token that the second user is given with the port for the second resource, 2 µs after the first. -/
def sampleToken₂ : String := accessToken sampleSm3 "ac" ⟨"user2", "device", "org", "service"⟩ 2000

def sampleToken₁ : String := accessToken sampleSm3 "ac" ⟨"user1", "device", "org", "service"⟩ 0

/-- Both users are given a port and a token; then the first port receives an access message of a user. -/
def sampleGrants (accMsg : AgentAccessMsg) (srcAddrIp : String) : List GrantEvent :=
  [.operations (sampleAC 0 2) sampleRequest₁, .listen 0, .tick 1000, .issue 0, .tick 2000,
    .operations (sampleAC 0 2) sampleRequest₂, .tick 3000, .issue 0, .receive 0 srcAddrIp accMsg,
    .verify 0 (sampleAC 0 2)]

/-- The first user presents its own token. -/
def ownRun : List GrantEvent := sampleGrants ⟨"user1", "device", "org", sampleToken₁⟩ "10.0.0.1"

/-- The second user presents its token at the port of the first. -/
def crossRun : List GrantEvent := sampleGrants ⟨"user2", "device", "org", sampleToken₂⟩ "10.0.0.2"

/-- An agent that shows its token at its own port. -/
theorem grant_bound_sample :
    ∃ s, run (Grants.step sampleSm3 "ac") (.boot 0) ownRun = some s ∧ s.admissions.length = 1 ∧ s.Bound := by
  have hrun : run (Grants.step sampleSm3 "ac") (.boot 0) ownRun = some _ := rfl
  exact ⟨_, hrun, rfl, (grant_bound (by decide) hrun).1⟩

/-- The second user is let in to the resource of the first. -/
theorem cross_use : ¬ ∀ clock events s,
    run (Grants.step sampleSm3 "ac") (.boot clock) events = some s → s.Bound := by
  intro hall
  have hrun : run (Grants.step sampleSm3 "ac") (.boot 0) crossRun = some _ := rfl
  exact absurd (hall 0 crossRun _ hrun) (by decide)

end OpenNHP.AC
