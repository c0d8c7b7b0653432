/-
  The send times of a connection (`validatePeer` of `nhp/core/responder.go`).

  THE PROGRAM.  A connection remembers the send time of the last packet that was accepted.  A packet of most types
  must not be older, nor come too soon after it.

  THE SPECIFICATION.  The send times of the packets that a connection accepts, one after another, never go back
  (`Line.Ordered`).

  THE CRUX.  A parse has two halves: the tests of the send time, and its store with all that follows
  (`receive_eq_halves`).  The first half leaves the connection's send time (`beginParse_keeps`), the second one
  overwrites it (`finishParse_stores`), and between the two another packet may be parsed.

  WHERE IT FAILS.  Some types are not tested and are stored all the same, and the bound of the flood test wraps: a
  packet sent at the end of time is accepted as often as it comes (`send_times_out_of_order`).

  ASSEMBLY.  A connection whose packets are parsed one after another keeps its send times in order as long as no
  packet of an untested type brings an earlier one and the flood bound does not wrap (`send_times_in_order`); one
  packet is `Ordered.parsed`, one event `Ordered.step`.
-/
import OpenNHP.Core.HeaderMeaning
import OpenNHP.Lib.Runs

namespace OpenNHP.Core

variable {M : Type} {C : Crypto M}

/-! ## A parse in two halves -/

namespace PacketParserData

/-- `validatePeer` up to the decrypted timestamp. -/
def readSendTime [DecidableEq M] (ppd : PacketParserData C) (nowMilli : Int64) :
    PacketParserData C × Go Int64 :=
  Go.andThen ppd.openStatic fun ppd peerPk =>
  Go.andThen (ppd.checkPeer peerPk nowMilli) fun ppd _ => ppd.openTimestamp peerPk

/-- The replay, flood and stale tests of `validatePeer`. -/
def testSendTime (ppd : PacketParserData C) (remoteSendTime : Int64) : PacketParserData C × Go Int64 :=
  match recvTimeError ppd.device.deviceType ppd.headerType ppd.connData ppd.localInitTime
      remoteSendTime with
  | some e => ({ ppd with connData := countThreat ppd.connData }, .err e)
  | none => (ppd, .ok remoteSendTime)

/-- The connection remembers the send time and forgets the threats. -/
def storeSendTime (ppd : PacketParserData C) (remoteSendTime : Int64) : PacketParserData C :=
  { ppd with connData := { ppd.connData with lastRemoteSendTime := remoteSendTime, recvThreatCount := 0 } }

/-- `validatePeer` from the store of the send time on, and `decryptBody`. -/
def finishParse (ppd : PacketParserData C) (remoteSendTime now : Int64) : PacketParserData C × Go Unit :=
  let ppd := ppd.storeSendTime remoteSendTime
  if ppd.rejectWithCookie then ((ppd.generateCookie now).sendCookie, .err .serverRejectWithCookie)
  else ppd.deriveBodyKey.decryptBody

end PacketParserData

/-- A parse up to the tests of the send time. -/
def beginParse [DecidableEq M] (d : Device C) (pd : PacketData C) (nowMilli : Int64) :
    Option (PacketParserData C) × Go (PacketParserData C × Int64) :=
  match createPacketParserData d pd with
  | .err e => (none, .err e)
  | .panic => (none, .panic)
  | .ok ppd =>
    let r := Go.andThen (ppd.readSendTime nowMilli) fun ppd remoteSendTime =>
      ppd.testSendTime remoteSendTime
    (some r.1, r.2.bind fun remoteSendTime => .ok (r.1, remoteSendTime))

/-- The send time of a packet whose header, peer and timestamp are all right. -/
def sendTime [DecidableEq M] (d : Device C) (pd : PacketData C) (nowMilli : Int64) : Option Int64 :=
  match createPacketParserData d pd with
  | .ok ppd =>
    match (ppd.readSendTime nowMilli).2 with
    | .ok remoteSendTime => some remoteSendTime
    | _ => none
  | _ => none

section Halves

variable [DecidableEq M] {d : Device C} {pd : PacketData C} {nowMilli now : Int64}

/-- The two halves are `validatePeer` and `decryptBody`. -/
theorem PacketParserData.validatePeer_eq_halves (ppd : PacketParserData C) :
    (Go.andThen (ppd.validatePeer nowMilli now) fun ppd _ => ppd.decryptBody) =
      Go.andThen (Go.andThen (ppd.readSendTime nowMilli) fun ppd remoteSendTime =>
        ppd.testSendTime remoteSendTime) fun ppd remoteSendTime => ppd.finishParse remoteSendTime now := by
  simp only [validatePeer, readSendTime, Go.andThen_assoc]
  congr 1
  funext ppd peerPk
  congr 1
  funext ppd _
  congr 1
  funext ppd remoteSendTime
  unfold checkRecvTime testSendTime
  cases recvTimeError ppd.device.deviceType ppd.headerType ppd.connData ppd.localInitTime
      remoteSendTime with
  | some e => rfl
  | none =>
    show Go.andThen (if (ppd.storeSendTime remoteSendTime).rejectWithCookie then _ else _) _ =
      if (ppd.storeSendTime remoteSendTime).rejectWithCookie then _ else _
    split <;> rfl

/-- A receive is its two halves, one right after the other. -/
theorem receive_eq_halves : receive d pd nowMilli now =
    Go.andThen (beginParse d pd nowMilli) fun _ parsed =>
      let r := parsed.1.finishParse parsed.2 now
      (some r.1, r.2) := by
  unfold receive beginParse
  cases createPacketParserData d pd with
  | err e => rfl
  | panic => rfl
  | ok ppd =>
    simp only [PacketParserData.validatePeer_eq_halves]
    cases Go.andThen (ppd.readSendTime nowMilli) fun ppd remoteSendTime =>
        ppd.testSendTime remoteSendTime with
    | mk ppd o => cases o <;> rfl

/-- What the tests of the send time read. -/
def PacketParserData.timeInputs (ppd : PacketParserData C) :
    DeviceType × HeaderType × ConnectionData M × Int64 :=
  (ppd.device.deviceType, ppd.headerType, ppd.connData, ppd.localInitTime)

omit [DecidableEq M] in
/-- What the tests look at is not touched by the opening of the static key, -/
theorem PacketParserData.timeInputs_openStatic (ppd : PacketParserData C) :
    ppd.openStatic.1.timeInputs = ppd.timeInputs := by
  unfold openStatic
  split
  · rfl
  · dsimp only
    split <;> rfl

/-- by the look at the sender, -/
theorem PacketParserData.timeInputs_checkPeer (ppd : PacketParserData C) (peerPk : M) :
    (ppd.checkPeer peerPk nowMilli).1.timeInputs = ppd.timeInputs := by
  unfold checkPeer admitPeer
  split
  · rename_i d' hadmits
    refine Prod.ext ?_ rfl
    split at hadmits
    · obtain ⟨peer, -, hadmits⟩ := Go.bind_eq_ok.mp hadmits
      split at hadmits
      · cases hadmits
      split at hadmits
      · cases hadmits
      cases hadmits
      rfl
    · cases hadmits
      rfl
  · rfl
  · rfl

omit [DecidableEq M] in
/-- or by the opening of the send time itself. -/
theorem PacketParserData.timeInputs_openTimestamp (ppd : PacketParserData C) (peerPk : M) :
    (ppd.openTimestamp peerPk).1.timeInputs = ppd.timeInputs := by
  unfold openTimestamp
  dsimp only
  split
  · rfl
  · split <;> rfl

/-- Reading the send time leaves what its tests read. -/
theorem PacketParserData.timeInputs_readSendTime (ppd : PacketParserData C) (nowMilli : Int64) :
    (ppd.readSendTime nowMilli).1.timeInputs = ppd.timeInputs := by
  refine (Go.andThen_keeps fun ppd peerPk => ?_).trans ppd.timeInputs_openStatic
  refine (Go.andThen_keeps fun ppd _ => ?_).trans (ppd.timeInputs_checkPeer peerPk)
  exact ppd.timeInputs_openTimestamp peerPk

/-- The checked header has the packet's type. -/
theorem timeInputs_of_create {ppd : PacketParserData C} (h : createPacketParserData d pd = .ok ppd) :
    ppd.timeInputs =
      (d.deviceType, pd.basePacket.common.typeAndPayloadSize.1, pd.connData, pd.initTime) := by
  obtain ⟨-, hcheck⟩ := createPacketParserData_eq_ok.mp h
  obtain ⟨-, -, rfl⟩ := PacketParserData.checkHeader_eq_ok.mp hcheck
  unfold PacketData.startState
  cases pd.prevAssemblerData <;> rfl

omit [DecidableEq M] in
/-- The tests leave the device's role and what a threat leaves of the connection. -/
theorem PacketParserData.testSendTime_keeps {γ : Type} {g : ConnectionData M → γ}
    (hg : ∀ conn, g (countThreat conn) = g conn) (ppd : PacketParserData C) (ts : Int64) :
    ((ppd.testSendTime ts).1.device.deviceType, g (ppd.testSendTime ts).1.connData) =
      (ppd.device.deviceType, g ppd.connData) := by
  unfold testSendTime
  split
  · exact Prod.ext rfl (hg _)
  · rfl

/-- The first half leaves the device's role and what a threat leaves of the connection. -/
theorem beginParse_keeps_conn {γ : Type} {g : ConnectionData M → γ}
    (hg : ∀ conn, g (PacketParserData.countThreat conn) = g conn) {r : Option (PacketParserData C)}
    {o : Go (PacketParserData C × Int64)} (h : beginParse d pd nowMilli = (r, o)) :
    ((r.map (·.device)).getD d).deviceType = d.deviceType ∧
      g ((r.map (·.connData)).getD pd.connData) = g pd.connData := by
  unfold beginParse at h
  cases hcreate : createPacketParserData d pd with
  | err e => rw [hcreate] at h; cases h; exact ⟨rfl, rfl⟩
  | panic => rw [hcreate] at h; cases h; exact ⟨rfl, rfl⟩
  | ok ppd =>
    rw [hcreate] at h
    obtain ⟨rfl, -⟩ := Prod.mk.inj h
    have htimes := (ppd.timeInputs_readSendTime nowMilli).trans (timeInputs_of_create hcreate)
    obtain ⟨htype, hrest⟩ := Prod.mk.inj htimes
    obtain ⟨-, hrest⟩ := Prod.mk.inj hrest
    obtain ⟨hconn, -⟩ := Prod.mk.inj hrest
    have hkeeps := (Go.andThen_keeps (x := ppd.readSendTime nowMilli)
      (g := fun ppd : PacketParserData C => (ppd.device.deviceType, g ppd.connData))
      fun ppd ts => ppd.testSendTime_keeps hg ts)
    rw [htype, hconn] at hkeeps
    exact Prod.mk.inj hkeeps

omit [DecidableEq M] in
/-- A threat touches neither the send time nor the cookies of a connection. -/
theorem PacketParserData.countThreat_keeps (conn : ConnectionData M) :
    (countThreat conn).lastRemoteSendTime = conn.lastRemoteSendTime ∧
      (countThreat conn).cookieStore = conn.cookieStore := by
  unfold countThreat
  dsimp only
  split <;> exact ⟨rfl, rfl⟩

/-- The first half leaves the device's role and the connection's send time. -/
theorem beginParse_keeps {r : Option (PacketParserData C)} {o : Go (PacketParserData C × Int64)}
    (h : beginParse d pd nowMilli = (r, o)) :
    ((r.map (·.device)).getD d).deviceType = d.deviceType ∧
      ((r.map (·.connData)).getD pd.connData).lastRemoteSendTime = pd.connData.lastRemoteSendTime :=
  beginParse_keeps_conn (fun conn => (PacketParserData.countThreat_keeps conn).1) h

/-- A packet that passes the tests has a send time, and passes them with the connection as it is. -/
theorem beginParse_eq_ok {r : Option (PacketParserData C)} {ppd : PacketParserData C} {ts : Int64}
    (h : beginParse d pd nowMilli = (r, .ok (ppd, ts))) :
    r = some ppd ∧ sendTime d pd nowMilli = some ts ∧
      PacketParserData.recvTimeError d.deviceType pd.basePacket.common.typeAndPayloadSize.1 pd.connData
        pd.initTime ts = none := by
  unfold beginParse at h
  unfold sendTime
  cases hcreate : createPacketParserData d pd with
  | err e => rw [hcreate] at h; cases h
  | panic => rw [hcreate] at h; cases h
  | ok ppd₁ =>
    have htimes := (ppd₁.timeInputs_readSendTime nowMilli).trans (timeInputs_of_create hcreate)
    rw [hcreate] at h
    dsimp only at h ⊢
    cases hread : ppd₁.readSendTime nowMilli with
    | mk ppd₂ o =>
      rw [hread] at h htimes
      cases o with
      | err e => cases h
      | panic => cases h
      | ok ts' =>
        obtain ⟨htype, hrest⟩ := Prod.mk.inj htimes
        obtain ⟨hheader, hrest⟩ := Prod.mk.inj hrest
        obtain ⟨hconn, hinit⟩ := Prod.mk.inj hrest
        dsimp only [Go.andThen] at h htype hheader hconn hinit
        unfold PacketParserData.testSendTime at h
        rw [htype, hheader, hconn, hinit] at h
        cases htest : PacketParserData.recvTimeError d.deviceType
            pd.basePacket.common.typeAndPayloadSize.1 pd.connData pd.initTime ts' with
        | some e => rw [htest] at h; cases h
        | none =>
          rw [htest] at h
          obtain ⟨rfl, hparsed⟩ := Prod.mk.inj h
          cases hparsed
          exact ⟨rfl, rfl, htest⟩

omit [DecidableEq M] in
/-- The second half leaves the device and stores the send time. -/
theorem PacketParserData.finishParse_stores (ppd : PacketParserData C) (ts now : Int64) :
    (ppd.finishParse ts now).1.device = ppd.device ∧
      (ppd.finishParse ts now).1.connData.lastRemoteSendTime = ts := by
  unfold finishParse
  dsimp only
  split
  · unfold sendCookie generateCookie
    dsimp only
    split <;> exact ⟨rfl, rfl⟩
  · rw [(decryptBody_frame _).1, (decryptBody_frame _).2]
    exact ⟨rfl, rfl⟩

omit [DecidableEq M] in
/-- A packet that passes the tests is not too old and, if its type is tested, not below the flood bound. -/
theorem PacketParserData.recvTimeError_eq_none {deviceType : DeviceType} {t : HeaderType}
    {conn : ConnectionData M} {initTime ts : Int64} (h : recvTimeError deviceType t conn initTime ts = none) :
    (shouldCheckRecvAttack deviceType (headerTypeToDeviceType t) t = true → conn.lastRemoteSendTime ≤ ts ∧
      conn.lastRemoteSendTime + minimalRecvIntervalMs * millisecond ≤ ts) ∧
      ¬ ts < initTime - 600 * second := by
  unfold recvTimeError at h
  dsimp only at h
  split at h
  · cases h
  · rename_i hreplay
    split at h
    · cases h
    · rename_i hflood
      split at h
      · cases h
      · rename_i hstale
        refine ⟨fun hcheck => ⟨?_, ?_⟩, hstale⟩
        · exact Int64.not_lt.mp fun hlt => hreplay ⟨hcheck, hlt⟩
        · exact Int64.not_lt.mp fun hlt => hflood ⟨hcheck, hlt⟩

/-- A receive keeps the connection's send time, or replaces it by that of a packet which has passed the
    tests; an accepted packet has. -/
theorem receive_sendTime {r : Option (PacketParserData C)} {o : Go Unit}
    (h : receive d pd nowMilli now = (r, o)) :
    ((r.map (·.connData)).getD pd.connData).lastRemoteSendTime = pd.connData.lastRemoteSendTime ∧
        (∀ u, o ≠ .ok u) ∨
      ∃ ts, sendTime d pd nowMilli = some ts ∧
        PacketParserData.recvTimeError d.deviceType pd.basePacket.common.typeAndPayloadSize.1 pd.connData
          pd.initTime ts = none ∧
        ((r.map (·.connData)).getD pd.connData).lastRemoteSendTime = ts := by
  rw [receive_eq_halves] at h
  cases hbegin : beginParse d pd nowMilli with
  | mk r' o' =>
    rw [hbegin] at h
    cases o' with
    | err e =>
      cases h
      exact .inl ⟨(beginParse_keeps hbegin).2, nofun⟩
    | panic =>
      cases h
      exact .inl ⟨(beginParse_keeps hbegin).2, nofun⟩
    | ok parsed =>
      obtain ⟨ppd, ts⟩ := parsed
      obtain ⟨-, hsend, htests⟩ := beginParse_eq_ok hbegin
      cases h
      exact .inr ⟨ts, hsend, htests, (ppd.finishParse_stores ts now).2⟩

end Halves

/-! ## A connection, one packet after another -/

/-- A connection, with every value its send time has had and the send times of the tested packets it has
    accepted; both the newest first. -/
structure Line (M : Type) where
  connData : ConnectionData M
  times : List Int64
  accepted : List Int64

/-- What happens to a connection. -/
inductive LineEvent (C : Crypto M)
  /-- a packet is parsed, on the device as it is by then -/
  | packet (d : Device C) (pd : PacketData C) (nowMilli now : Int64)
  /-- the agent's handler takes a cookie -/
  | cookie (cookie : M)
  | close

/-- `HandleCookieMessage`: the agent keeps the cookie as the connection's current one. -/
def ConnectionData.handleCookieMessage (conn : ConnectionData M) (cookie : M) : ConnectionData M :=
  { conn with cookieStore := { conn.cookieStore with currCookie := cookie } }

/-- A packet as it is parsed on a connection. -/
def PacketData.on (pd : PacketData C) (conn : ConnectionData M) : PacketData C := { pd with connData := conn }

namespace Line

/-- A new connection. -/
def start (C : Crypto M) (addr : Addr) : Line M where
  connData := .new C addr
  times := [0]
  accepted := []

/-- Whether the packet's type is tested for replays. -/
def tested (role : DeviceType) (pd : PacketData C) : Bool :=
  let t := pd.basePacket.common.typeAndPayloadSize.1
  shouldCheckRecvAttack role (headerTypeToDeviceType t) t

/-- The connection after a parse with an outcome. -/
def parsed (l : Line M) (r : Option (PacketParserData C)) (accepted : List Int64) : Line M :=
  let conn := (r.map (·.connData)).getD l.connData
  { connData := conn, times := conn.lastRemoteSendTime :: l.times, accepted := accepted ++ l.accepted }

/-- One event on a connection of a device of the given role; a panic ends the run. -/
def step [DecidableEq M] (role : DeviceType) (l : Line M) : LineEvent C → Option (Line M)
  | .packet d pd nowMilli now =>
    if d.deviceType = role then
      match receive d (pd.on l.connData) nowMilli now with
      | (_, .panic) => none
      | (r, .err _) => some (l.parsed r [])
      | (r, .ok _) =>
        some (l.parsed r (if tested role pd then (sendTime d (pd.on l.connData) nowMilli).toList else []))
    else none
  | .cookie cookie => some { l with connData := l.connData.handleCookieMessage cookie }
  | .close => some { l with connData := { l.connData with closed := true } }

/-- The send time has never decreased, and the accepted packets that are tested for replays were sent at
    least the minimal interval apart, in exact arithmetic. -/
structure InOrder (l : Line M) : Prop where
  times : l.times.Pairwise fun later earlier => earlier ≤ later
  accepted : l.accepted.Pairwise fun later earlier =>
    (minimalRecvIntervalMs * millisecond).toInt ≤ |later.toInt - earlier.toInt|

/-- A packet that is not too old has no earlier send time than the connection when its type is not tested;
    when it is, it has an earlier one or the flood bound does not wrap. -/
def Timely [DecidableEq M] (role : DeviceType) (l : Line M) : LineEvent C → Prop
  | .packet d pd nowMilli _ =>
    ∀ ts, sendTime d (pd.on l.connData) nowMilli = some ts → ¬ ts < pd.initTime - 600 * second →
      if tested role pd then
        ts < l.connData.lastRemoteSendTime ∨
          l.connData.lastRemoteSendTime ≤ Int64.maxValue - minimalRecvIntervalMs * millisecond
      else l.connData.lastRemoteSendTime ≤ ts
  | _ => True

/-- In order, and no time is above the connection's. -/
structure Ordered (l : Line M) : Prop extends l.InOrder where
  newest : ∀ ts ∈ l.times, ts ≤ l.connData.lastRemoteSendTime
  newestAccepted : ∀ ts ∈ l.accepted, ts ≤ l.connData.lastRemoteSendTime

/-- A new connection has accepted nothing. -/
theorem ordered_start (addr : Addr) : (start C addr).Ordered := by
  refine ⟨⟨List.pairwise_singleton _ _, List.Pairwise.nil⟩, fun ts hts => ?_, nofun⟩
  rw [List.mem_singleton.mp hts]
  exact Int64.le_refl 0

/-- A tested packet that passes where the flood bound does not wrap was sent the interval later. -/
theorem interval_le {last ts : Int64} (hroom : last ≤ Int64.maxValue - minimalRecvIntervalMs * millisecond)
    (hflood : last + minimalRecvIntervalMs * millisecond ≤ ts) :
    last.toInt + (minimalRecvIntervalMs * millisecond).toInt ≤ ts.toInt := by
  have hinterval : (minimalRecvIntervalMs * millisecond).toInt = 20000000 := by decide
  have hmax : (Int64.maxValue - minimalRecvIntervalMs * millisecond).toInt = 2 ^ 63 - 1 - 20000000 := by
    decide
  have hlow := last.le_toInt
  rw [Int64.le_iff_toInt_le, hmax] at hroom
  rw [Int64.le_iff_toInt_le, Int64.toInt_add, hinterval, Int.bmod_eq_of_le (by omega) (by omega)] at hflood
  omega

section Steps

variable [DecidableEq M] {role : DeviceType} {l l' : Line M}

omit [DecidableEq M] in
/-- A parse that raises the send time, or keeps it and accepts nothing, keeps the order. -/
theorem Ordered.parsed (hl : l.Ordered) {r : Option (PacketParserData C)} {accepted : List Int64}
    (hle : l.connData.lastRemoteSendTime ≤ ((r.map (·.connData)).getD l.connData).lastRemoteSendTime)
    (haccepted : accepted = [] ∨ accepted = [((r.map (·.connData)).getD l.connData).lastRemoteSendTime] ∧
      l.connData.lastRemoteSendTime.toInt + (minimalRecvIntervalMs * millisecond).toInt ≤
        ((r.map (·.connData)).getD l.connData).lastRemoteSendTime.toInt) :
    (l.parsed r accepted).Ordered := by
  have hnewest : ∀ ts ∈ (l.parsed r accepted).times, ts ≤ (l.parsed r accepted).connData.lastRemoteSendTime := by
    refine List.forall_mem_cons.mpr ⟨Int64.le_refl _, fun ts hts => ?_⟩
    exact Int64.le_trans (hl.newest ts hts) hle
  have hold : ∀ ts ∈ l.accepted, ts ≤ (l.parsed r accepted).connData.lastRemoteSendTime :=
    fun ts hts => Int64.le_trans (hl.newestAccepted ts hts) hle
  have htimes : (l.parsed r accepted).times.Pairwise fun later earlier => earlier ≤ later :=
    List.pairwise_cons.mpr ⟨fun ts hts => Int64.le_trans (hl.newest ts hts) hle, hl.times⟩
  obtain rfl | ⟨rfl, hfar⟩ := haccepted
  · exact ⟨⟨htimes, hl.accepted⟩, hnewest, hold⟩
  · refine ⟨⟨htimes, List.pairwise_cons.mpr ⟨fun ts hts => ?_, hl.accepted⟩⟩, hnewest,
      List.forall_mem_cons.mpr ⟨Int64.le_refl _, hold⟩⟩
    have hearlier := Int64.le_iff_toInt_le.mp (hl.newestAccepted ts hts)
    rw [le_abs]
    omega

/-- What a packet does to a connection: its send time stays and nothing is accepted, or the packet has passed
    the tests and its send time is the connection's. -/
theorem step_packet {d : Device C} {pd : PacketData C} {nowMilli now : Int64}
    (h : l.step role (.packet d pd nowMilli now) = some l') :
    ∃ (r : Option (PacketParserData C)) (accepted : List Int64), l' = l.parsed r accepted ∧
      (l'.connData.lastRemoteSendTime = l.connData.lastRemoteSendTime ∧ accepted = [] ∨
        sendTime d (pd.on l.connData) nowMilli = some l'.connData.lastRemoteSendTime ∧
          PacketParserData.recvTimeError role pd.basePacket.common.typeAndPayloadSize.1 l.connData pd.initTime
            l'.connData.lastRemoteSendTime = none ∧
          (accepted = [] ∨ tested role pd = true ∧ accepted = [l'.connData.lastRemoteSendTime])) := by
  rw [step] at h
  split at h
  · rename_i hrole
    cases hreceive : receive d (pd.on l.connData) nowMilli now with
    | mk r o =>
      rw [hreceive] at h
      have hsend := receive_sendTime hreceive
      rw [hrole] at hsend
      cases o with
      | panic => cases h
      | err e =>
        cases h
        refine ⟨r, [], rfl, ?_⟩
        obtain ⟨hkept, -⟩ | ⟨ts, hts, htests, hstored⟩ := hsend
        · exact .inl ⟨hkept, rfl⟩
        · subst hstored
          exact .inr ⟨hts, htests, .inl rfl⟩
      | ok u =>
        cases h
        refine ⟨r, _, rfl, ?_⟩
        obtain ⟨-, hno⟩ | ⟨ts, hts, htests, hstored⟩ := hsend
        · exact absurd rfl (hno u)
        · subst hstored
          refine .inr ⟨hts, htests, ?_⟩
          rw [hts]
          split
          · rename_i htested
            exact .inr ⟨htested, rfl⟩
          · exact .inl rfl
  · cases h

/-- An event keeps the order: a packet, a cookie or the close. -/
theorem Ordered.step {e : LineEvent C} (htimely : l.Timely role e) (hl : l.Ordered)
    (h : l.step role e = some l') : l'.Ordered := by
  cases e with
  | cookie cookie =>
    cases h
    exact ⟨⟨hl.times, hl.accepted⟩, hl.newest, hl.newestAccepted⟩
  | close =>
    cases h
    exact ⟨⟨hl.times, hl.accepted⟩, hl.newest, hl.newestAccepted⟩
  | packet d pd nowMilli now =>
    obtain ⟨r, accepted, rfl, ⟨hkept, rfl⟩ | ⟨hts, htests, haccepted⟩⟩ := step_packet h
    · exact hl.parsed (Int64.le_of_eq hkept.symm) (.inl rfl)
    · obtain ⟨hpassed, hfresh⟩ := PacketParserData.recvTimeError_eq_none htests
      have hcond := htimely _ hts hfresh
      by_cases htested : tested role pd = true
      · obtain ⟨hle, hflood⟩ := hpassed htested
        rw [if_pos htested] at hcond
        have hroom := hcond.resolve_left (Int64.not_lt.mpr hle)
        exact hl.parsed hle (haccepted.imp_right fun h => ⟨h.2, interval_le hroom hflood⟩)
      · rw [if_neg htested] at hcond
        exact hl.parsed hcond (haccepted.imp_right fun h => absurd h.1 htested)

end Steps

/-- **Send times in order.**  In every run of a connection whose packets are timely, its send time never
    decreases and the tested packets it accepts were sent at least the minimal interval apart. -/
theorem send_times_in_order [DecidableEq M] {role : DeviceType} {addr : Addr} {l : Line M}
    {events : List (LineEvent C)} (htimely : Runs.Steps (step role) (Timely role) (start C addr) events)
    (hrun : Runs.run (step role) (start C addr) events = some l) : l.InOrder :=
  (Runs.run_invariant_of (I := Ordered) (fun _ _ _ hC hI h => hI.step hC h) htimely (ordered_start addr)
    hrun).toInOrder

end Line

/-- A packet from the sample agent. -/
def sampleIncoming (pkt : Packet BigEndian.Bytes) : PacketData sampleLibs.crypto where
  basePacket := pkt
  connData := .new sampleLibs.crypto "10.0.0.1:62206"
  prevAssemblerData := none
  connPeerPublicKey := none
  initTime := 1000000000000

/-- The sample agent's knock, as its clock stands at some time. -/
def knockAt (now : Int64) : Go (Packet BigEndian.Bytes) :=
  ((createMsgAssemblerData (sampleDevice .agent 1) (sampleMessage .knk none) sampleEntropy
    (Packet.ofBytes blankBuffer packetBufferSize) now).encrypt 5).bind fun mad =>
  .ok (Packet.ofBytes mad.content mad.content.length)

/-- The sample server's connection after some of the agent's packets. -/
def Line.sampleRun (pkts : List (Packet BigEndian.Bytes)) : Option (Line BigEndian.Bytes) :=
  Runs.run (step .server) (start sampleLibs.crypto "10.0.0.1:62206") (pkts.map fun pkt =>
    .packet (sampleDevice .server 2) (sampleIncoming pkt) 1000000 1000000000000)

/-- Two knocks a second apart are in order. -/
theorem send_times_in_order_sample :
    ∃ pkt pkt' l, Line.sampleRun [pkt, pkt'] = some l ∧ l.accepted = [1001000000000, 1000000000000] ∧ l.InOrder := by
  have hread : ((knockAt 1000000000000).bind fun pkt => (knockAt 1001000000000).bind fun pkt' =>
      .ok (Line.tested .server (sampleIncoming pkt) && Line.tested .server (sampleIncoming pkt'),
        (Line.sampleRun [pkt]).map (·.connData.lastRemoteSendTime),
        (Line.sampleRun [pkt, pkt']).map (·.accepted))) =
      .ok (true, some 1000000000000, some [1001000000000, 1000000000000]) := by
    decide +kernel
  obtain ⟨pkt, -, hread⟩ := Go.bind_eq_ok.mp hread
  obtain ⟨pkt', -, hread⟩ := Go.bind_eq_ok.mp hread
  obtain ⟨htested, hrest⟩ := Prod.mk.inj (Go.ok.inj hread)
  obtain ⟨hfirst, hboth⟩ := Prod.mk.inj hrest
  obtain ⟨htested, htested'⟩ := Bool.and_eq_true_iff.mp htested
  obtain ⟨l, hrun, haccepted⟩ := Option.map_eq_some_iff.mp hboth
  obtain ⟨l₁, hrun₁, hsendTime⟩ := Option.map_eq_some_iff.mp hfirst
  -- neither send time is near the end of time
  have hroom : (0 : Int64) ≤ Int64.maxValue - minimalRecvIntervalMs * millisecond := by decide
  have hroom' : (1000000000000 : Int64) ≤ Int64.maxValue - minimalRecvIntervalMs * millisecond := by decide
  have htimely : Runs.Steps (Line.step .server) (Line.Timely .server)
      (Line.start sampleLibs.crypto "10.0.0.1:62206")
      [.packet (sampleDevice .server 2) (sampleIncoming pkt) 1000000 1000000000000,
        .packet (sampleDevice .server 2) (sampleIncoming pkt') 1000000 1000000000000] := by
    refine ⟨fun ts _ _ => ?_, fun l' hstep => ⟨fun ts _ _ => ?_, fun _ _ => trivial⟩⟩
    · rw [htested]
      exact .inr hroom
    · have hstep₁ : Runs.run (Line.step .server) (Line.start sampleLibs.crypto "10.0.0.1:62206")
          [.packet (sampleDevice .server 2) (sampleIncoming pkt) 1000000 1000000000000] = some l' := by
        rw [Runs.run, hstep]
        rfl
      obtain rfl := Option.some.inj (hrun₁.symm.trans hstep₁)
      rw [htested', hsendTime]
      exact .inr hroom'
  exact ⟨pkt, pkt', l, hrun, haccepted, Line.send_times_in_order htimely hrun⟩

/-- **Send times out of order.**  A knock sent at the end of time is accepted as often as it comes. -/
theorem send_times_out_of_order :
    ∃ pkts l, Line.sampleRun pkts = some l ∧ ¬ l.InOrder := by
  have hread : ((knockAt Int64.maxValue).bind fun pkt =>
      .ok ((Line.sampleRun [pkt, pkt]).map (·.accepted))) =
      .ok (some [Int64.maxValue, Int64.maxValue]) := by
    decide +kernel
  obtain ⟨pkt, -, hrun⟩ := Go.bind_eq_ok.mp hread
  obtain ⟨l, hrun, haccepted⟩ := Option.map_eq_some_iff.mp (Go.ok.inj hrun)
  refine ⟨[pkt, pkt], l, hrun, fun horder => ?_⟩
  have hapart := horder.accepted
  rw [haccepted] at hapart
  have hzero := List.rel_of_pairwise_cons hapart List.mem_cons_self
  rw [Int.sub_self] at hzero
  exact absurd hzero (by decide)

end OpenNHP.Core
