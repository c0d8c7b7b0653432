/-
  What a rejected packet leaves behind.

  THE PROGRAM.  `validatePeer` writes while it checks: the peer's receive address and time as soon as the peer
  checks pass, the connection's peer key, the send time and the threat counter before the body is looked at.  An
  error of a later step leaves these writes.

  THE SPECIFICATION.  A packet that is rejected leaves the peer table, the peer key and the send time of the
  connection as they were, and the threat counter no lower (`AuthState.Unmoved`).

  WHERE IT FAILS.  A packet of a registered peer that falls behind the peer checks has moved the peer
  (`stale_packet_moves_peer`).

  THE CRUX.  Every stage gets a lemma about the state it touches.  A write moves nothing where it finds what it
  would write, so the condition is of two kinds: the packet fell before the peer was stored, or found everything
  already as it would have written it (`PacketData.Harmless`).

  ASSEMBLY.  `PacketData.Admitted` names the state behind the peer checks, which is one at most
  (`Admitted.unique`), and `rejection_unmoved_iff` puts the stages behind it together.
-/
import OpenNHP.Core.NoPanic

namespace OpenNHP.Core

variable {M : Type} {C : Crypto M}

/-! ## The authentication state -/

/-- What the device and the connection remember of accepted packets: the last send time, the peer key,
    when and from where each peer was heard, and the threats counted since. -/
structure AuthState (M : Type) where
  lastRemoteSendTime : Int64
  connPeerPublicKey : Option M
  recv : M → Option (Int64 × Option Addr)
  recvThreatCount : Int32

/-- When and from where a peer was last heard. -/
def Device.recv (d : Device C) (pk : M) : Option (Int64 × Option Addr) :=
  (d.lookupPeer pk).map fun peer => (peer.lastRecvTime, peer.recvAddr)

/-- The state of a parse; the response path has no pointer to a connection's peer key. -/
def PacketParserData.authState (ppd : PacketParserData C) : AuthState M where
  lastRemoteSendTime := ppd.connData.lastRemoteSendTime
  connPeerPublicKey := ppd.connPeerPublicKey
  recv := ppd.device.recv
  recvThreatCount := ppd.connData.recvThreatCount

/-- Nothing has moved, and no threat was forgotten. -/
structure AuthState.Unmoved (before after : AuthState M) : Prop where
  lastRemoteSendTime : after.lastRemoteSendTime = before.lastRemoteSendTime
  connPeerPublicKey : after.connPeerPublicKey = before.connPeerPublicKey
  recv : after.recv = before.recv
  recvThreatCount : before.recvThreatCount ≤ after.recvThreatCount

/-- What nobody touches has not moved. -/
theorem AuthState.Unmoved.refl (s : AuthState M) : s.Unmoved s := ⟨rfl, rfl, rfl, Int32.le_refl _⟩

/-! ## What the stages touch -/

namespace PacketParserData

/-- Opening the static key writes nothing of it. -/
theorem authState_openStatic (ppd : PacketParserData C) : ppd.openStatic.1.authState = ppd.authState := by
  unfold openStatic
  split
  · rfl
  · dsimp only
    split <;> rfl

/-- Opening the send time writes the connection's peer key, if it has a place for one. -/
theorem authState_openTimestamp (ppd : PacketParserData C) (peerPk : M) :
    (ppd.openTimestamp peerPk).1.authState =
      { ppd.authState with connPeerPublicKey := ppd.connPeerPublicKey.map fun _ => peerPk } := by
  unfold openTimestamp
  dsimp only
  split
  · rfl
  · split <;> rfl

/-- Opening the body writes nothing. -/
theorem authState_decryptBody (ppd : PacketParserData C) : ppd.decryptBody.1.authState = ppd.authState := by
  unfold decryptBody
  split
  · rfl
  · dsimp only
    split <;> rfl

/-- The tests of the send time write the time or count a threat. -/
theorem authState_checkRecvTime (ppd : PacketParserData C) (remoteSendTime : Int64) :
    (ppd.checkRecvTime remoteSendTime).1.authState =
      match recvTimeError ppd.device.deviceType ppd.headerType ppd.connData ppd.localInitTime
          remoteSendTime with
      | some _ => { ppd.authState with recvThreatCount := (countThreat ppd.connData).recvThreatCount }
      | none => { ppd.authState with lastRemoteSendTime := remoteSendTime, recvThreatCount := 0 } := by
  unfold checkRecvTime
  cases recvTimeError ppd.device.deviceType ppd.headerType ppd.connData ppd.localInitTime
      remoteSendTime with
  | none => rfl
  | some e =>
    have hlast : (countThreat ppd.connData).lastRemoteSendTime = ppd.connData.lastRemoteSendTime := by
      unfold countThreat
      dsimp only
      split <;> rfl
    simp only [authState, hlast]

/-- The timestamp stage leaves what the time tests read. -/
theorem openTimestamp_times (ppd : PacketParserData C) (peerPk : M) :
    (ppd.openTimestamp peerPk).1.device = ppd.device ∧
      (ppd.openTimestamp peerPk).1.headerType = ppd.headerType ∧
      (ppd.openTimestamp peerPk).1.connData = ppd.connData ∧
      (ppd.openTimestamp peerPk).1.localInitTime = ppd.localInitTime := by
  unfold openTimestamp
  dsimp only
  split
  · exact ⟨rfl, rfl, rfl, rfl⟩
  · split <;> exact ⟨rfl, rfl, rfl, rfl⟩

/-! ## What would be stored is stored already -/

/-- The peer was heard at this very time from this very address, or its role is not looked at. -/
def KeepsPeer (ppd : PacketParserData C) (peerPk : M) : Prop :=
  toValidate ppd.device.option ppd.headerType = true →
    ppd.device.recv peerPk = some (ppd.localInitTime, some ppd.connData.remoteAddr)

/-- The connection has this peer's key already, or none is kept for it. -/
def KeepsKey (ppd : PacketParserData C) (peerPk : M) : Prop :=
  ppd.connPeerPublicKey = none ∨ ppd.connPeerPublicKey = some peerPk

/-- There is room for one more threat: the counter neither wraps nor stands above the limit that an open
    connection clamps it to. -/
def RoomForThreat (conn : ConnectionData M) : Prop :=
  conn.recvThreatCount ≠ Int32.maxValue ∧
    (conn.recvThreatCount ≤ threatCountBeforeBlock ∨ conn.closed = true)

/-- The counter goes up unless it wraps. -/
theorem le_countThreat_iff (conn : ConnectionData M) :
    conn.recvThreatCount ≤ (countThreat conn).recvThreatCount ↔ RoomForThreat conn := by
  unfold countThreat RoomForThreat threatCountBeforeBlock
  dsimp only
  have hlow := conn.recvThreatCount.le_toInt
  have hhigh := conn.recvThreatCount.toInt_lt
  have hmax : conn.recvThreatCount = Int32.maxValue ↔ conn.recvThreatCount.toInt = 2 ^ 31 - 1 := by
    rw [← Int32.toInt_inj]
    exact Iff.rfl
  have hsucc : (conn.recvThreatCount + 1).toInt = (conn.recvThreatCount.toInt + 1).bmod (2 ^ 32) :=
    Int32.toInt_add _ _
  have hone : (1 : Int32).toInt = 1 := rfl
  rw [Ne, hmax]
  split
  · rename_i hover
    obtain ⟨hover, hopen⟩ := hover
    rw [gt_iff_lt, Int32.lt_iff_toInt_lt, hsucc, Int.bmod_def, hone] at hover
    simp only [hopen, Bool.false_eq_true, or_false, Int32.le_iff_toInt_le, hone]
    split at hover <;> omega
  · rename_i hunder
    rw [gt_iff_lt, Int32.lt_iff_toInt_lt, hsucc, Int.bmod_def, hone] at hunder
    simp only [Int32.le_iff_toInt_le, hsucc, Int.bmod_def, hone]
    cases hclosed : conn.closed with
    | true =>
      simp only [or_true, and_true]
      split <;> omega
    | false =>
      simp only [hclosed, and_true, Bool.false_eq_true, or_false] at hunder ⊢
      split at hunder <;> split <;> omega

/-- A send time that fails its tests finds room for one more threat; one that passes is the time the
    connection has, with no threat to forget. -/
def KeepsTime (ppd : PacketParserData C) (remoteSendTime : Int64) : Prop :=
  match recvTimeError ppd.device.deviceType ppd.headerType ppd.connData ppd.localInitTime
      remoteSendTime with
  | some _ => RoomForThreat ppd.connData
  | none => remoteSendTime = ppd.connData.lastRemoteSendTime ∧ ppd.connData.recvThreatCount ≤ 0

/-- Admitting a peer writes what is there already, or moves it. -/
theorem admitPeer_recv [DecidableEq M] {ppd : PacketParserData C} {peerPk : M} {nowMilli : Int64}
    {d' : Device C} (h : admitPeer ppd.device ppd.headerType peerPk ppd.localInitTime
      ppd.connData.remoteAddr nowMilli = .ok d') :
    d'.recv = ppd.device.recv ↔ ppd.KeepsPeer peerPk := by
  unfold admitPeer at h
  unfold KeepsPeer
  split at h
  · rename_i hvalidate
    obtain ⟨peer, hpeer, h⟩ := Go.bind_eq_ok.mp h
    rw [Go.ofOption_eq_ok] at hpeer
    split at h
    · cases h
    split at h
    · cases h
    cases h
    have hnew : (ppd.device.addPeer peerPk
        (peer.updateRecv ppd.localInitTime ppd.connData.remoteAddr)).recv =
        fun k => if k = peerPk then some (ppd.localInitTime, some ppd.connData.remoteAddr)
          else ppd.device.recv k := by
      funext k
      rw [Device.recv, Device.lookupPeer_addPeer]
      split <;> rfl
    rw [hnew]
    constructor
    · intro heq _
      rw [← congrFun heq peerPk, if_pos rfl]
    · intro hkeeps
      funext k
      split
      · rename_i hk
        rw [hk, hkeeps hvalidate]
      · rfl
  · rename_i hvalidate
    cases h
    simp [hvalidate]

end PacketParserData

/-! ## Where a packet is admitted -/

/-- The packet has passed the header check, the static key and the peer checks: the parse and the key
    behind the static field, and the device with the peer's update. -/
structure PacketData.Admitted [DecidableEq M] (d : Device C) (pd : PacketData C) (nowMilli : Int64)
    (ppd : PacketParserData C) (peerPk : M) (d' : Device C) : Prop where
  header : createPacketParserData d pd = .ok (pd.checked d)
  static : (pd.checked d).openStatic = (ppd, .ok peerPk)
  peer : PacketParserData.admitPeer ppd.device ppd.headerType peerPk ppd.localInitTime
    ppd.connData.remoteAddr nowMilli = .ok d'

/-- The packet falls before it is admitted, or finds everything as it would store it. -/
def PacketData.Harmless [DecidableEq M] (d : Device C) (pd : PacketData C) (nowMilli : Int64) : Prop :=
  ∀ ppd peerPk d', pd.Admitted d nowMilli ppd peerPk d' →
    ppd.KeepsPeer peerPk ∧ ppd.KeepsKey peerPk ∧
      ∀ remoteSendTime, ({ ppd with device := d' }.openTimestamp peerPk).2 = .ok remoteSendTime →
        { ppd with device := d' }.KeepsTime remoteSendTime

section Rejection

variable [DecidableEq M] {d : Device C} {pd : PacketData C} {nowMilli now : Int64} {e : NhpError}

/-- The state behind the peer checks is one at most. -/
theorem PacketData.Admitted.unique {ppd ppd' : PacketParserData C} {pk pk' : M} {d₁ d₂ : Device C}
    (h : pd.Admitted d nowMilli ppd pk d₁) (h' : pd.Admitted d nowMilli ppd' pk' d₂) :
    ppd = ppd' ∧ pk = pk' ∧ d₁ = d₂ := by
  have hstatic := h.static.symm.trans h'.static
  cases hstatic
  have hpeer := h.peer.symm.trans h'.peer
  cases hpeer
  exact ⟨rfl, rfl, rfl⟩

/-- For an admitted packet the condition is about what it carries. -/
theorem PacketData.Admitted.harmless_iff {ppd : PacketParserData C} {peerPk : M} {d' : Device C}
    (h : pd.Admitted d nowMilli ppd peerPk d') :
    pd.Harmless d nowMilli ↔ ppd.KeepsPeer peerPk ∧ ppd.KeepsKey peerPk ∧
      ∀ remoteSendTime, ({ ppd with device := d' }.openTimestamp peerPk).2 = .ok remoteSendTime →
        { ppd with device := d' }.KeepsTime remoteSendTime := by
  constructor
  · exact fun hharmless => hharmless ppd peerPk d' h
  · intro hkeeps ppd' pk' d'' h'
    obtain ⟨rfl, rfl, rfl⟩ := h.unique h'
    exact hkeeps

/-- The state after an admitted packet, with what the time tests left, against the state before. -/
theorem PacketData.Admitted.unmoved_iff {ppd : PacketParserData C} {peerPk : M} {d' : Device C}
    (h : pd.Admitted d nowMilli ppd peerPk d') {after : AuthState M}
    (hrecv : after.recv = d'.recv)
    (hkey : after.connPeerPublicKey = ppd.connPeerPublicKey.map fun _ => peerPk) :
    (pd.startState d).authState.Unmoved after ↔ ppd.KeepsPeer peerPk ∧ ppd.KeepsKey peerPk ∧
      after.lastRemoteSendTime = ppd.connData.lastRemoteSendTime ∧
        ppd.connData.recvThreatCount ≤ after.recvThreatCount := by
  have hbefore : (pd.startState d).authState = ppd.authState := by
    have hopen := PacketParserData.authState_openStatic (pd.checked d)
    rw [h.static] at hopen
    exact hopen.symm
  have hkeepsKey : after.connPeerPublicKey = ppd.connPeerPublicKey ↔ ppd.KeepsKey peerPk := by
    rw [hkey, PacketParserData.KeepsKey]
    cases ppd.connPeerPublicKey with
    | none => simp
    | some k => simp [eq_comm]
  have hkeepsPeer := PacketParserData.admitPeer_recv h.peer
  rw [← hrecv] at hkeepsPeer
  rw [hbefore, ← hkeepsPeer, ← hkeepsKey]
  constructor
  · rintro ⟨hlast, hkey, hrecv, hcount⟩
    exact ⟨hrecv, hkey, hlast, hcount⟩
  · rintro ⟨hrecv, hkey, hlast, hcount⟩
    exact ⟨hlast, hkey, hrecv, hcount⟩

/-- A parse that has been created has passed the check of the header. -/
theorem checked_of_create {ppd : PacketParserData C} (h : createPacketParserData d pd = .ok ppd) :
    ppd = pd.checked d := by
  rw [createPacketParserData_eq_ok, PacketParserData.checkHeader_eq_ok] at h
  exact h.2.2.2

/-- The steps of an admitted packet that follow the peer's update. -/
theorem PacketData.Admitted.rest_unmoved_iff {ppd : PacketParserData C} {peerPk : M} {d' : Device C}
    (h : pd.Admitted d nowMilli ppd peerPk d') {final : PacketParserData C}
    (hrest : (Go.andThen (Go.andThen (({ ppd with device := d' } : PacketParserData C).openTimestamp peerPk)
        fun ppd remoteSendTime =>
      Go.andThen (ppd.checkRecvTime remoteSendTime) fun ppd _ =>
      if ppd.rejectWithCookie then ((ppd.generateCookie now).sendCookie, .err .serverRejectWithCookie)
      else (ppd.deriveBodyKey, .ok ())) fun ppd _ => ppd.decryptBody) = (final, .err e))
    (hcookie : e ≠ .serverRejectWithCookie) :
    (pd.startState d).authState.Unmoved final.authState ↔ pd.Harmless d nowMilli := by
  rw [h.harmless_iff]
  have hauth := PacketParserData.authState_openTimestamp { ppd with device := d' } peerPk
  obtain ⟨hdevice, htype, hconn, hinit⟩ :=
    PacketParserData.openTimestamp_times { ppd with device := d' } peerPk
  rcases hopen : ({ ppd with device := d' } : PacketParserData C).openTimestamp peerPk with ⟨opened, o⟩
  rw [hopen] at hrest hauth hdevice htype hconn hinit
  dsimp only at hauth hdevice htype hconn hinit
  have hrecv : opened.authState.recv = d'.recv := by rw [hauth]; rfl
  have hkey : opened.authState.connPeerPublicKey = ppd.connPeerPublicKey.map fun _ => peerPk := by
    rw [hauth]
  -- Behind the peer's update the parse can still end at the timestamp, at the times, or at the body.
  cases o with
  | panic => cases hrest
  | err e' =>
    cases hrest
    rw [h.unmoved_iff hrecv hkey, hauth]
    simp [PacketParserData.authState]
  | ok remoteSendTime =>
    have htimed := PacketParserData.authState_checkRecvTime opened remoteSendTime
    rcases hcheck : opened.checkRecvTime remoteSendTime with ⟨timed, o⟩
    rw [hcheck, hdevice, htype, hconn, hinit] at htimed
    simp only [Go.andThen, hcheck] at hrest
    -- What comes behind the time tests changes nothing of the state.
    have hfinal : final.authState = timed.authState := by
      cases o with
      | panic => cases hrest
      | err e' => cases hrest; rfl
      | ok _ =>
        cases hreject : timed.rejectWithCookie with
        | true =>
          simp only [hreject, if_true] at hrest
          cases hrest
          exact absurd rfl hcookie
        | false =>
          simp only [hreject, Bool.false_eq_true, if_false] at hrest
          have hbody := PacketParserData.authState_decryptBody timed.deriveBodyKey
          rw [hrest] at hbody
          exact hbody
    rw [hfinal, htimed]
    simp only [Go.ok.injEq, forall_eq', PacketParserData.KeepsTime]
    cases PacketParserData.recvTimeError d'.deviceType ppd.headerType ppd.connData ppd.localInitTime
        remoteSendTime with
    | some e' =>
      have hlast : opened.authState.lastRemoteSendTime = ppd.connData.lastRemoteSendTime := by
        rw [hauth]
        rfl
      refine (h.unmoved_iff ?_ ?_).trans ?_
      · exact hrecv
      · exact hkey
      · simp only [hlast, PacketParserData.le_countThreat_iff, true_and]
    | none => exact h.unmoved_iff hrecv hkey

/-- A rejected packet has moved no part of the authentication state exactly when it was not admitted, or
    found everything there as it would have stored it. -/
theorem rejection_unmoved_iff {r : Option (PacketParserData C)}
    (hreceive : receive d pd nowMilli now = (r, .err e)) (hcookie : e ≠ .serverRejectWithCookie) :
    (∀ ppd, r = some ppd → (pd.startState d).authState.Unmoved ppd.authState) ↔
      pd.Harmless d nowMilli := by
  unfold receive at hreceive
  -- The stages in their order: a parse that ends before the peer is admitted has changed nothing.
  cases hcreate : createPacketParserData d pd with
  | panic => rw [hcreate] at hreceive; cases hreceive
  | err e' =>
    rw [hcreate] at hreceive
    cases hreceive
    constructor
    · intro _ _ _ _ hadmitted
      rw [hadmitted.header] at hcreate
      cases hcreate
    · intro _ _ hnone
      cases hnone
  | ok ppd =>
    obtain rfl := checked_of_create hcreate
    rw [hcreate] at hreceive
    dsimp only at hreceive
    obtain ⟨hr, herr⟩ := Prod.mk.inj hreceive
    rw [← hr]
    simp only [Option.some.injEq, forall_eq']
    rcases hopen : (pd.checked d).openStatic with ⟨opened, o⟩
    have hauth := PacketParserData.authState_openStatic (pd.checked d)
    rw [hopen] at hauth
    have hunmoved : (pd.startState d).authState.Unmoved opened.authState := by
      rw [hauth]
      exact .refl _
    unfold PacketParserData.validatePeer at herr ⊢
    rw [hopen] at herr ⊢
    cases o with
    | panic => cases herr
    | err e' =>
      refine iff_of_true hunmoved ?_
      intro _ _ _ hadmitted
      have hstatic := hadmitted.static
      rw [hopen] at hstatic
      cases hstatic
    | ok peerPk =>
      simp only [Go.andThen, PacketParserData.checkPeer] at herr ⊢
      cases hpeer : PacketParserData.admitPeer opened.device opened.headerType peerPk
          opened.localInitTime opened.connData.remoteAddr nowMilli with
      | panic => rw [hpeer] at herr; cases herr
      | err e' =>
        refine iff_of_true hunmoved ?_
        intro _ _ _ hadmitted
        have hstatic := hadmitted.static
        rw [hopen] at hstatic
        cases hstatic
        have hadmits := hadmitted.peer
        rw [hpeer] at hadmits
        cases hadmits
      | ok d' =>
        rw [hpeer] at herr
        exact PacketData.Admitted.rest_unmoved_iff ⟨hcreate, hopen, hpeer⟩ (Prod.ext rfl herr) hcookie

end Rejection

/-! ## A replayed knock -/

/-- The sample agent's knock, delivered once more from another address 700 seconds later. -/
def staleKnock : PacketData sampleLibs.crypto :=
  PacketData.ofContent flaggedKnockContent [] (ConnectionData.new sampleLibs.crypto "10.9.9.9:1") none none
    1700000000000

/-- What the server returns for it. -/
def staleKnockReceived : Option (PacketParserData sampleLibs.crypto) × Go Unit :=
  receive (sampleDevice .server 2) staleKnock 1000000 1700000000000

/-- The sample knock is too old. -/
theorem staleKnock_rejected : staleKnockReceived.2 = .err .stalePacket := by
  decide +kernel

/-- The stale knock is harmless only if it moves nothing. -/
theorem rejection_unmoved_sample :
    (∀ ppd, staleKnockReceived.1 = some ppd →
      (staleKnock.startState (sampleDevice .server 2)).authState.Unmoved ppd.authState) ↔
      staleKnock.Harmless (sampleDevice .server 2) 1000000 := by
  have hreceive : receive (sampleDevice .server 2) staleKnock 1000000 1700000000000 =
      (staleKnockReceived.1, .err .stalePacket) := by
    rw [← staleKnock_rejected, staleKnockReceived]
  exact rejection_unmoved_iff hreceive (by decide)

/-- **A stale packet moves the peer.**  The replayed knock is refused as stale, but the agent is from then on
    known at the address the replay came from. -/
theorem stale_packet_moves_peer :
    staleKnockReceived.2 = .err .stalePacket ∧
      (sampleDevice .server 2).recv (sampleEcdh .sm2 1).publicKey = some (0, none) ∧
      ∃ ppd, staleKnockReceived.1 = some ppd ∧
        ppd.device.recv (sampleEcdh .sm2 1).publicKey = some (1700000000000, some "10.9.9.9:1") ∧
        ¬ (staleKnock.startState (sampleDevice .server 2)).authState.Unmoved ppd.authState := by
  have hmoved : staleKnockReceived.1.map (fun ppd => ppd.device.recv (sampleEcdh .sm2 1).publicKey) =
      some (some (1700000000000, some "10.9.9.9:1")) := by
    decide +kernel
  obtain ⟨ppd, hppd, hrecv⟩ := Option.map_eq_some_iff.mp hmoved
  have hbefore : (staleKnock.startState (sampleDevice .server 2)).authState.recv
      (sampleEcdh .sm2 1).publicKey = some (0, none) := by
    decide +kernel
  refine ⟨staleKnock_rejected, hbefore, ppd, hppd, hrecv, ?_⟩
  intro hunmoved
  have hsame := congrFun hunmoved.recv (sampleEcdh .sm2 1).publicKey
  rw [hbefore] at hsame
  rw [show ppd.authState.recv = ppd.device.recv from rfl, hrecv] at hsame
  exact absurd hsame (by decide)

end OpenNHP.Core
