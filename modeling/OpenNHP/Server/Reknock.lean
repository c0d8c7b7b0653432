/-
  Re-knocks at an overloaded server (`checkHMAC` of `nhp/core/responder.go`).

  1. **Soundness.**  A server that is overloaded is to let a re-knock in only with a cookie that it has made for
     the connection.  Whether the check does that depends on how many cookies the connection has had: before the
     first one, and for the round-trip time after it, the slot that is looked at still holds zeros, and anyone
     computes an HMAC over zeros (`cookies_sound_iff`, `zero_cookie_admitted`).

  2. **Completeness.**  An agent that answers the cookie it was sent is to be let in.  Whether it is depends on
     when the re-knock arrives: the agent always mixes its cookie in, the server looks for one only while it is
     overloaded, and for the round-trip time it looks for the one before (`reknock_admitted_iff`,
     `reknock_refused`).

  3. **What both rest on.**  `Cookies`: the slots of a connection hold the last two cookies made for it, and an
     HMAC names the cookie it was computed over.  For soundness a packet over each value that a slot may hold is
     shown to exist (`exists_admitted`); for completeness the agent's own re-knock is followed to the check.

  4. **The examples** use libraries whose hash is its input's end (`endLibs`), so that a cookie can be followed by
     evaluation, and a server with as many connections as make it overloaded (`Flooded`).
-/
import OpenNHP.Server.Cookies

namespace OpenNHP.Server.Cookies

open OpenNHP.Core OpenNHP.Server.Replay
open OpenNHP.Core.Routines (packetType isTransactionResponse)

variable {M : Type} {C : Crypto M}

/-! ## An overloaded server and its agent -/

/-- The sample libraries, with digests that keep the end of what they digest. -/
def endLibs : Libs :=
  let last (text : BigEndian.Bytes) := (List.replicate hashSize 0 ++ text).drop text.length
  { sampleLibs with
    sum := fun _ text => last text
    hmac := fun _ key text => last (key ++ text) }

/-- Keys of the example: any byte, repeated. -/
theorem endKey_valid (e : EccType) (b : UInt8) : endLibs.crypto.validKey e (List.replicate 32 b) :=
  List.length_replicate

/-- A key pair, -/
def endEcdh (e : EccType) (b : UInt8) : Ecdh endLibs.crypto where
  eccType := e
  privKey := List.replicate 32 b
  valid := endKey_valid e b

/-- what a device draws, -/
def endEntropy : Entropy endLibs.crypto where
  newECDH e := endEcdh e 3
  newECDH_eccType _ := rfl
  randomUint32 := 0

/-- and a device that knows every peer. -/
def endDevice (t : DeviceType) (b : UInt8) (overload : Bool) : Device endLibs.crypto where
  deviceType := t
  option := defaultDeviceOptions t
  staticEcdhCurve := endEcdh .curve25519 b
  staticEcdhGmsm := endEcdh .sm2 b
  peerMap _ := some { deviceType := .noDevice, expireTime := 0, lastRecvTime := 0, recvAddr := none }
  overload := overload
  staticEcdhCurve_eccType := rfl
  staticEcdhGmsm_eccType := rfl

/-- The agent's connection. -/
def endConn : ConnectionData BigEndian.Bytes := .new endLibs.crypto "10.0.0.1:62206"

/-- A request of the sample agent on the wire. -/
def endSent (md : MsgData endLibs.crypto) : Go (MsgAssemblerData endLibs.crypto) :=
  (createMsgAssemblerData (endDevice .agent 1 false) md endEntropy
    (Packet.ofBytes blankBuffer packetBufferSize) 1000000000000).encrypt 5

/-- The knock, or, with a cookie, the re-knock of the sample agent. -/
def endKnock : MsgData endLibs.crypto :=
  { knockRequest endConn .gmsm 7 [104, 105] (endEcdh .sm2 2).publicKey with headerType := .knk }

/-- Its re-knock with a cookie. -/
def endReknock (cookie : BigEndian.Bytes) : MsgData endLibs.crypto :=
  knockRequest (endConn.handleCookieMessage cookie) .gmsm 8 [104, 105] (endEcdh .sm2 2).publicKey

/-- What the overloaded server makes of the knock. -/
def knockAnswered (pkt : Packet BigEndian.Bytes) :
    Go (PacketParserData endLibs.crypto × Int64 × PacketParserData endLibs.crypto) :=
  match beginParse (endDevice .server 2 true) (firstPacket "10.0.0.1:62206" pkt 1000000000000) 1000000 with
  | (_, .ok (ppd, ts)) => .ok (ppd, ts, (ppd.finishParse ts 1000000000000).1)
  | _ => .panic

/-- The overloaded server's answer to the knock, and the agent's re-knock. -/
structure CookieExchange (pkt : Packet BigEndian.Bytes) (ppd : PacketParserData endLibs.crypto) (ts : Int64)
    (cookie : BigEndian.Bytes) (mad : MsgAssemblerData endLibs.crypto) : Prop where
  len : Packet.minimalLength ≤ pkt.len
  precheck : recvPrecheck .server pkt = .ok (.knk, 20)
  begun : beginParse (endDevice .server 2 true) (firstPacket "10.0.0.1:62206" pkt 1000000000000) 1000000
    = (some ppd, .ok (ppd, ts))
  role : ppd.device.deviceType = .server
  overload : ppd.device.overload = true
  key : ppd.device.staticEcdhGmsm.publicKey = (endEcdh .sm2 2).publicKey
  rejects : ppd.rejectWithCookie = true
  neverMade : ppd.connData.cookieStore.lastCookieTime = 0
  sentCookie : (ppd.finishParse ts 1000000000000).1.sentCookie = some cookie
  store : (ppd.finishParse ts 1000000000000).1.connData.cookieStore =
    { currCookie := cookie, prevCookie := endLibs.crypto.zeroKey, lastCookieTime := 1000000000000 }
  length : cookie.length = hashSize
  ne : cookie ≠ endLibs.crypto.zeroKey
  reknock : endSent (endReknock cookie) = .ok mad
  carries : (Packet.ofBytes mad.content mad.content.length).Carries mad

/-- A knock at the overloaded server, the cookie and the re-knock can all be assembled. -/
theorem exists_cookieExchange : ∃ pkt ppd ts cookie mad, CookieExchange pkt ppd ts cookie mad := by
  -- One evaluation gives all that is read off the packets; the packets themselves stay unevaluated below.
  have hread : ((endSent endKnock).bind fun knock =>
      let pkt := Packet.ofBytes knock.content knock.content.length
      (recvPrecheck .server pkt).bind fun read =>
      (knockAnswered pkt).bind fun (ppd, _, answered) =>
      (Go.ofOption .serverRejectWithCookie answered.sentCookie).bind fun cookie =>
      (endSent (endReknock cookie)).bind fun mad =>
      .ok (decide ((Packet.minimalLength ≤ pkt.len ∧ read = (.knk, 20)) ∧
        (ppd.device.deviceType = .server ∧ ppd.device.overload = true ∧
          ppd.device.staticEcdhGmsm.publicKey = (endEcdh .sm2 2).publicKey ∧ ppd.rejectWithCookie = true ∧
          ppd.connData.cookieStore.lastCookieTime = 0) ∧
        (answered.connData.cookieStore.currCookie = cookie ∧
          answered.connData.cookieStore.prevCookie = endLibs.crypto.zeroKey ∧
          answered.connData.cookieStore.lastCookieTime = 1000000000000) ∧
        (cookie.length = hashSize ∧ cookie ≠ endLibs.crypto.zeroKey) ∧
        mad.header.scheme = .gmsm ∧ mad.cipherScheme = .gmsm ∧
        [mad.header.ephermeral.length, mad.header.identity.length, mad.header.static.length,
          mad.header.timestamp.length, mad.header.hmac.length] = [64, 80, 80, 24, 32]))) =
      .ok true := by
    decide +kernel
  obtain ⟨knock, -, hread⟩ := Go.bind_eq_ok.mp hread
  obtain ⟨read, hcheck, hread⟩ := Go.bind_eq_ok.mp hread
  obtain ⟨⟨ppd, ts, answered⟩, hanswered, hread⟩ := Go.bind_eq_ok.mp hread
  obtain ⟨cookie, hcookie, hread⟩ := Go.bind_eq_ok.mp hread
  obtain ⟨mad, hmad, hread⟩ := Go.bind_eq_ok.mp hread
  obtain ⟨⟨hlen, rfl⟩, ⟨hrole, hoverload, hkey, hrejects, hnever⟩, ⟨hcurr, hprev, htime⟩,
      ⟨hlength, hne⟩, hscheme, hscheme', hsizes⟩ :=
    of_decide_eq_true (Go.ok.inj hread)
  simp only [List.cons.injEq, and_true] at hsizes
  obtain ⟨heph, hid, hstatic, hts, hhmac⟩ := hsizes
  have hsized : mad.header.toHeaderFields.WellSized mad.cipherScheme := by
    rw [hscheme']
    exact ⟨heph, hid, hstatic, hts, hhmac⟩
  have hcarries := MsgAssemblerData.ofBytes_content_carries hsized (hscheme.trans hscheme'.symm) []
  rw [List.append_nil] at hcarries
  rw [knockAnswered] at hanswered
  cases hbegin : beginParse (endDevice .server 2 true)
      (firstPacket "10.0.0.1:62206" (Packet.ofBytes knock.content knock.content.length) 1000000000000) 1000000 with
  | mk r o =>
    rw [hbegin] at hanswered
    cases o with
    | err e => cases hanswered
    | panic => cases hanswered
    | ok parsed =>
      obtain ⟨ppd', ts'⟩ := parsed
      obtain ⟨rfl, -, -⟩ := beginParse_eq_ok hbegin
      cases hanswered
      refine ⟨_, ppd, ts, cookie, mad, hlen, hcheck, hbegin, hrole, hoverload, hkey, hrejects, hnever,
        Go.ofOption_eq_ok.mp hcookie, ?_, hlength, hne, hmad, hcarries⟩
      cases hstore : (ppd.finishParse ts 1000000000000).1.connData.cookieStore with
      | mk curr prev last =>
        rw [hstore] at hcurr hprev htime
        subst hcurr hprev htime
        rfl

/-- The text of a made-up address. -/
def floodAddr (n : Nat) : Addr := String.ofList (List.replicate n 'a')

/-- A server that has received one packet from each of so many addresses. -/
structure Flooded [DecidableEq M] (d : Device C) (n : Nat) (s : State C) : Prop where
  reached : Reached (fun _ a => a.unfinished = true) d s
  device : s.device = { d with overload := d.overload || decide (overloadConnectionThreshold + 1 < n) }
  addrs : ∀ e ∈ s.remoteConnectionMap, ∃ k < n, e.1 = floodAddr k
  length : s.remoteConnectionMap.length = n
  conns : s.conns.length = n
  unblocked : s.blockAddrMap = []
  parses : s.parses = []

/-- A new address has no connection in the flood. -/
theorem Flooded.findConn [DecidableEq M] {d : Device C} {n : Nat} {s : State C} (h : Flooded d n s) {addr : Addr}
    (hnew : ∀ k < n, addr ≠ floodAddr k) : s.findConn addr = none := by
  rw [State.findConn, List.lookup_eq_none_iff]
  intro e he
  obtain ⟨k, hk, haddr⟩ := h.addrs e he
  rw [haddr]
  exact bne_iff_ne.mpr (hnew k hk)

/-- Any number of connections below the limit can be opened. -/
theorem exists_flooded [DecidableEq M] {d : Device C} {pkt : Packet M} {r : HeaderType × Nat}
    (hlen : Packet.minimalLength ≤ pkt.len) (hcheck : recvPrecheck d.deviceType pkt = .ok r) (n : Nat)
    (hn : n ≤ maxConcurrentConnection) : ∃ s, Flooded d n s := by
  induction n with
  | zero =>
    refine ⟨.start d, .refl, ?_, nofun, rfl, rfl, rfl, rfl⟩
    show d = { d with overload := d.overload || false }
    rw [Bool.or_false]
  | succ n ih =>
    obtain ⟨s, h⟩ := ih (by omega)
    have hnew : ∀ k < n, floodAddr n ≠ floodAddr k := by
      intro k hk heq
      have hlength := congrArg (fun a : Addr => a.toList.length) heq
      simp only [floodAddr, String.toList_ofList, List.length_replicate] at hlength
      omega
    have hstep : Step s (.receive (floodAddr n) pkt 0) (s.accept (floodAddr n) pkt 0) := by
      refine .receiveNew hlen ?_ (by rw [h.device]; exact hcheck) (h.findConn hnew) (.inr ?_)
      · rw [h.unblocked]
        exact List.not_mem_nil
      · rw [h.length]
        omega
    have hloaded : (s.device.overload || decide (overloadConnectionThreshold < s.remoteConnectionMap.length)) =
        (d.overload || decide (overloadConnectionThreshold + 1 < n + 1)) := by
      rw [h.device, h.length, Bool.or_assoc, ← Bool.decide_or]
      congr 1
      exact decide_eq_decide.mpr (by omega)
    refine ⟨_, h.reached.step (e := .receive (floodAddr n) pkt 0) rfl hstep, ?_, ?_, ?_, ?_, h.unblocked, h.parses⟩
    · rw [State.accept, hloaded, h.device]
    · refine List.forall_mem_cons.mpr ⟨⟨n, Nat.lt_succ_self n, rfl⟩, fun e he => ?_⟩
      obtain ⟨k, hk, haddr⟩ := h.addrs e he
      exact ⟨k, Nat.lt_succ_of_lt hk, haddr⟩
    · exact congrArg Nat.succ h.length
    · rw [State.accept, List.length_append, h.conns]
      rfl

/-- The overloaded server right after its answer. -/
structure JustAnswered (w w₁ : Watched endLibs.crypto) (c : Nat) (conn : UdpConn BigEndian.Bytes)
    (cookie : BigEndian.Bytes) : Prop where
  reached : Watched.Reached (endDevice .server 2 false) w
  answers : w.Answers 0 1000000000000 c cookie w₁
  found : w₁.server.conns[c]? = some conn
  store : conn.connData.cookieStore =
    { currCookie := cookie, prevCookie := endLibs.crypto.zeroKey, lastCookieTime := 1000000000000 }
  role : w₁.server.device.deviceType = .server
  overload : w₁.server.device.overload = true
  key : w₁.server.device.staticEcdhGmsm.publicKey = (endEcdh .sm2 2).publicKey
  cookies : w₁.cookies c = [cookie]

/-- So there is a state in which the agent was just answered. -/
theorem CookieExchange.justAnswered {pkt : Packet BigEndian.Bytes} {ppd : PacketParserData endLibs.crypto}
    {ts : Int64} {cookie : BigEndian.Bytes} {mad : MsgAssemblerData endLibs.crypto}
    (h : CookieExchange pkt ppd ts cookie mad) : ∃ w w₁ c conn, JustAnswered w w₁ c conn cookie := by
  have hn : overloadConnectionThreshold + 2 ≤ maxConcurrentConnection := by decide
  obtain ⟨s, hs⟩ := exists_flooded (d := endDevice .server 2 false) h.len h.precheck
    (overloadConnectionThreshold + 2) hn
  have hdevice : s.device = endDevice .server 2 true := hs.device
  have hloaded : (s.accept "10.0.0.1:62206" pkt 1000000000000).device = endDevice .server 2 true := by
    rw [State.accept, hdevice]
    rfl
  have hnew : ∀ k < overloadConnectionThreshold + 2, "10.0.0.1:62206" ≠ floodAddr k := by
    intro k _ heq
    have hmem : '1' ∈ (floodAddr k).toList := by
      rw [← heq]
      decide
    rw [floodAddr, String.toList_ofList] at hmem
    exact absurd (List.eq_of_mem_replicate hmem) (by decide)
  have hroom : s.remoteConnectionMap.length < maxConcurrentConnection := by
    rw [hs.length]
    decide
  have hknk : HeaderType.knk ≠ .kpl := by decide
  have hcheck : recvPrecheck s.device.deviceType pkt = .ok (.knk, 20) := by
    rw [hdevice]
    exact h.precheck
  have hrequest : isTransactionResponse s.device.deviceType .knk = false := by
    rw [hdevice]
    rfl
  obtain ⟨s', u, hreached, ⟨-, hdevice', -, -, hparses, -, hc, hconn⟩, -, hppd, hts, hphase⟩ :=
    reached_tested hs.reached "10.0.0.1:62206" pkt 1000000000000 1000000 (hs.findConn hnew) hs.unblocked hroom
      h.len hcheck hknk hrequest (by rw [hloaded]; exact h.begun)
      fun _ _ _ ha => ha
  set conn : UdpConn BigEndian.Bytes :=
    { connData := ppd.connData, lastLocalRecvTime := 1000000000000, ended := false }
  rw [hs.parses] at hparses
  have hu : s'.parses[0]? = some u := by
    rw [hparses]
    rfl
  have hresume : u.resume s' conn = ppd := by
    rw [Parse.resume, hppd, hdevice']
  -- the end of the parse
  cases hfinish : ppd.finishParse ts 1000000000000 with
  | mk answered o =>
    have hsent := h.sentCookie
    have hstore := h.store
    rw [hfinish] at hsent hstore
    let conn₁ : UdpConn BigEndian.Bytes := { conn with connData := answered.connData }
    let server : State endLibs.crypto :=
      { s' with
        conns := s'.conns.set u.pd.connData conn₁
        parses := s'.parses.set 0 { u with phase := .of o }
        stored := u.stores s'.device :: s'.stored }
    rw [← hc] at hconn
    have hstep : Step s' (.finish 0 1000000000000) server :=
      .finish hu hphase hconn (by rw [hresume, hts]; exact hfinish)
    have hold : storeOf s' u.pd.connData = some ppd.connData.cookieStore := by
      rw [storeOf, hconn]
      rfl
    have hnew : storeOf server u.pd.connData = some answered.connData.cookieStore := by
      rw [storeOf_set hconn rfl, if_pos rfl]
    refine ⟨⟨s', fun _ => []⟩, ⟨server, fun c => made s' server c ++ []⟩, u.pd.connData, conn₁,
      watched_of_unfinished hreached, ⟨⟨hstep, fun _ => rfl⟩, u, conn, hu, rfl, hconn, ?_, ?_⟩, ?_, hstore, ?_, ?_,
      ?_, ?_⟩
    · rw [hresume]
      exact h.rejects
    · rw [hresume, hts, hfinish]
      exact hsent
    · exact List.getElem?_set_self (List.getElem?_eq_some_iff.mp hconn).1
    · exact (congrArg Device.deviceType hdevice').trans h.role
    · exact (congrArg Device.overload hdevice').trans h.overload
    · exact (congrArg (fun d => d.staticEcdhGmsm.publicKey) hdevice').trans h.key
    · show made s' server u.pd.connData ++ [] = [cookie]
      have hdiffers : (1000000000000 : Int64) ≠ ppd.connData.cookieStore.lastCookieTime := by
        rw [h.neverMade]
        decide
      rw [List.append_nil, made, hold, hnew, hstore]
      exact if_neg hdiffers

/-! ## Soundness -/

/-- A re-knock that arrives now on the connection is let in only if it was computed over a cookie that was made
    for the connection. -/
def Watched.Sound [DecidableEq M] (w : Watched C) (c : Nat) (conn : UdpConn M) (initTime : Int64) : Prop :=
  ∀ pd : Received C, pd.initTime = initTime → packetType pd.basePacket = .rkn →
    (∃ ppd, createPacketParserData w.server.device (pd.current conn) = .ok ppd) →
    ∃ cookie ∈ w.cookies c, (pd.current conn).ComputedOver w.server.device cookie

/-- Two cookies have been made for the connection; or one, and the round-trip time is over. -/
def Watched.SlotFilled (w : Watched C) (c : Nat) (conn : UdpConn M) (initTime : Int64) : Prop :=
  2 ≤ (w.cookies c).length ∨ (w.cookies c).length = 1 ∧
    ¬ initTime < conn.connData.cookieStore.lastCookieTime + cookieRoundTripTimeMs * millisecond

/-- A re-knock over a cookie, in a packet of the curve scheme. -/
def rknOver (d : Device C) (conn : UdpConn M) (initTime : Int64) (cookie : M) : Received C :=
  let unsigned : Packet M :=
    { common := HeaderCommon.setTypeAndPayloadSize
        { preamble := 0, tns := 0, major := 1, minor := 0, flag := 0, unused := 0, counter := 0 } 0 .rkn 0
      fields := fun _ =>
        { ephermeral := C.zeroKey, identity := C.zeroKey, static := C.zeroKey, timestamp := C.zeroKey
          hmac := C.zeroKey }
      payload := fun _ => C.zeroKey
      len := headerSize .curve }
  let received (pkt : Packet M) : Received C :=
    { basePacket := pkt, connData := 0, prevAssemblerData := none, initTime := initTime }
  let hmac := (((received unsigned).current conn).startState d).hmacOver cookie
  received { unsigned with fields := fun scheme => { unsigned.fields scheme with hmac := hmac } }

/-- The re-knock over a cookie. -/
theorem rknOver_spec (d : Device C) (conn : UdpConn M) (initTime : Int64) (cookie : M) :
    (rknOver d conn initTime cookie).initTime = initTime ∧
      packetType (rknOver d conn initTime cookie).basePacket = .rkn ∧
      12 ≤ (rknOver d conn initTime cookie).basePacket.len ∧
      ((rknOver d conn initTime cookie).current conn).ComputedOver d cookie := by
  have hlen : 12 ≤ headerSize .curve := by decide
  refine ⟨rfl, ?_, hlen, rfl⟩
  exact congrArg Prod.fst (HeaderCommon.typeAndPayloadSize_set (t := .rkn) (s := 0) _ _ trivial (by decide))

section Soundness

variable [DecidableEq M] {w : Watched C} {c : Nat} {conn : UdpConn M} {initTime : Int64}

omit [DecidableEq M] in
/-- The expected cookie is one that was made, where a slot is filled. -/
theorem Watched.Kept.expected_mem (hkept : w.Kept) (hconn : w.server.conns[c]? = some conn)
    (hfilled : w.SlotFilled c conn initTime) : conn.connData.cookieStore.expected initTime ∈ w.cookies c := by
  obtain ⟨hcurr, hprev⟩ := hkept.slots_of_conn hconn
  unfold Watched.SlotFilled at hfilled
  rw [CookieStore.expected, hcurr, hprev]
  cases hcookies : w.cookies c with
  | nil =>
    rw [hcookies] at hfilled
    obtain htwo | ⟨hone, -⟩ := hfilled
    · exact absurd htwo (by decide : ¬ 2 ≤ 0)
    · cases hone
  | cons cookie older =>
    cases older with
    | nil =>
      rw [hcookies] at hfilled
      obtain htwo | ⟨-, hold⟩ := hfilled
      · exact absurd htwo (by decide : ¬ 2 ≤ 1)
      · rw [if_neg hold]
        exact List.mem_cons_self
    | cons cookie' oldest =>
      split
      · exact List.mem_cons_of_mem _ List.mem_cons_self
      · exact List.mem_cons_self

omit [DecidableEq M] in
/-- Where no slot is filled, the expected cookie was not made. -/
theorem Watched.Kept.expected_not_mem (hkept : w.Kept) (hC : HashesApart C)
    (hconn : w.server.conns[c]? = some conn) (hunfilled : ¬ w.SlotFilled c conn initTime) :
    conn.connData.cookieStore.expected initTime ∉ w.cookies c := by
  obtain ⟨hcurr, hprev⟩ := hkept.slots_of_conn hconn
  intro hmem
  have hcookie := hkept.made c _ hmem
  unfold Watched.SlotFilled at hunfilled
  rw [CookieStore.expected, hcurr, hprev] at hmem hcookie
  cases hcookies : w.cookies c with
  | nil =>
    rw [hcookies] at hmem
    cases hmem
  | cons newest older =>
    rw [hcookies] at hunfilled hcookie
    cases older with
    | nil =>
      have hyoung : initTime < conn.connData.cookieStore.lastCookieTime +
          cookieRoundTripTimeMs * millisecond := by
        by_contra hold
        exact hunfilled (.inr ⟨rfl, hold⟩)
      rw [if_pos hyoung] at hcookie
      exact hcookie.ne_zeroKey hC rfl
    | cons cookie' oldest => exact hunfilled (.inl (Nat.le_add_left 2 _))

/-- An overloaded server lets in a re-knock over the expected cookie. -/
theorem exists_admitted {d : Device C} (hrole : d.deviceType = .server) (hoverload : d.overload = true)
    (conn : UdpConn M) (initTime : Int64) :
    ∃ pd : Received C, pd.initTime = initTime ∧ packetType pd.basePacket = .rkn ∧
      (∃ ppd, createPacketParserData d (pd.current conn) = .ok ppd) ∧
      (pd.current conn).ComputedOver d (conn.connData.cookieStore.expected initTime) := by
  obtain ⟨htime, htype, hlen, hover⟩ := rknOver_spec d conn initTime (conn.connData.cookieStore.expected initTime)
  set pd := rknOver d conn initTime (conn.connData.cookieStore.expected initTime)
  exact ⟨pd, htime, htype, (rknAdmitted_iff (pd.current conn) hrole hoverload htype).mpr ⟨hlen, hover⟩, hover⟩

/-- **Cookie soundness.**  Whatever the run of the server: at overload a connection lets in only re-knocks over
    cookies made for it when two have been made, or one that is old enough; and when not, and hashes do not
    collide, it lets in others, such as the one over the all-zero cookie. -/
theorem cookies_sound_iff {d : Device C} (hreached : Watched.Reached d w)
    (hconn : w.server.conns[c]? = some conn) (hrole : w.server.device.deviceType = .server)
    (hoverload : w.server.device.overload = true) (initTime : Int64) :
    (w.SlotFilled c conn initTime → w.Sound c conn initTime) ∧
      (HashesApart C → w.Sound c conn initTime → w.SlotFilled c conn initTime) := by
  have hkept := kept_of_reached hreached
  constructor
  · rintro hfilled pd rfl htype hadmitted
    obtain ⟨-, hover⟩ := (rknAdmitted_iff (pd.current conn) hrole hoverload htype).mp hadmitted
    exact ⟨conn.connData.cookieStore.expected pd.initTime, hkept.expected_mem hconn hfilled, hover⟩
  · intro hC hsound
    by_contra hunfilled
    obtain ⟨pd, htime, htype, hadmitted, hover⟩ := exists_admitted hrole hoverload conn initTime
    obtain ⟨cookie, hmem, hover'⟩ := hsound pd htime htype hadmitted
    have heq : cookie = conn.connData.cookieStore.expected initTime :=
      PacketParserData.hmacOver_injective hC (hover'.symm.trans hover)
    exact hkept.expected_not_mem hC hconn hunfilled (heq ▸ hmem)

/-- A re-knock over a cookie that was made. -/
theorem cookies_sound_sample : ∃ (w : Watched endLibs.crypto) (c : Nat) (conn : UdpConn BigEndian.Bytes)
    (cookie : BigEndian.Bytes), w.cookies c = [cookie] ∧ w.server.conns[c]? = some conn ∧
      w.server.device.overload = true ∧ w.Sound c conn 1000020000000 := by
  obtain ⟨pkt, ppd, ts, cookie, mad, hexchange⟩ := exists_cookieExchange
  obtain ⟨w, w₁, c, conn, h⟩ := hexchange.justAnswered
  have hreached := h.reached.step trivial h.answers.1
  have hold : ¬ (1000020000000 : Int64) < 1000000000000 + cookieRoundTripTimeMs * millisecond := by decide
  have hfilled : w₁.SlotFilled c conn 1000020000000 := by
    rw [Watched.SlotFilled, h.cookies, h.store]
    exact .inr ⟨rfl, hold⟩
  exact ⟨w₁, c, conn, cookie, h.cookies, h.found, h.overload,
    (cookies_sound_iff hreached h.found h.role h.overload 1000020000000).1 hfilled⟩

/-- **The all-zero cookie.**  An overloaded server lets in a re-knock on a connection for which it has made no
    cookie. -/
theorem zero_cookie_admitted : ∃ (w : Watched endLibs.crypto) (c : Nat) (conn : UdpConn BigEndian.Bytes),
    Watched.Reached (endDevice .server 2 false) w ∧ w.cookies c = [] ∧ w.server.conns[c]? = some conn ∧
      w.server.device.deviceType = .server ∧ w.server.device.overload = true ∧ ¬ w.Sound c conn 0 := by
  obtain ⟨pkt, ppd, ts, cookie, mad, hexchange⟩ := exists_cookieExchange
  have hn : overloadConnectionThreshold + 2 ≤ maxConcurrentConnection := by decide
  obtain ⟨s, hs⟩ := exists_flooded (d := endDevice .server 2 false) hexchange.len hexchange.precheck
    (overloadConnectionThreshold + 2) hn
  have hdevice : s.device = endDevice .server 2 true := hs.device
  have hrole : s.device.deviceType = .server := by rw [hdevice]; rfl
  have hoverload : s.device.overload = true := by rw [hdevice]; rfl
  have hopen : 0 < s.conns.length := by
    rw [hs.conns]
    exact Nat.succ_pos _
  obtain ⟨conn, hconn⟩ : ∃ conn, s.conns[0]? = some conn := ⟨_, List.getElem?_eq_getElem hopen⟩
  obtain ⟨pd, htime, htype, hadmitted, -⟩ := exists_admitted hrole hoverload conn 0
  refine ⟨⟨s, fun _ => []⟩, 0, conn, watched_of_unfinished hs.reached, rfl, hconn, hrole, hoverload,
    fun hsound => ?_⟩
  obtain ⟨cookie, hmem, -⟩ := hsound pd htime htype hadmitted
  cases hmem

end Soundness

/-! ## Completeness -/

/-- The server is overloaded when the packet arrives, and the round-trip time of the last cookie is over (or the
    previous slot holds the same cookie). -/
def AtTheRightTime (d : Device C) (conn : UdpConn M) (initTime : Int64) (cookie : M) : Prop :=
  d.overload = true ∧
    (¬ initTime < conn.connData.cookieStore.lastCookieTime + cookieRoundTripTimeMs * millisecond ∨
      conn.connData.cookieStore.prevCookie = cookie)

/-- **Cookie completeness.**  A server answers a knock with a cookie; the agent takes it and sends a re-knock on
    the same connection, which arrives before another cookie is made.  It passes the HMAC check when the server
    is still overloaded and the round-trip time is over; and, if hashes do not collide, only then. -/
theorem reknock_admitted_iff [DecidableEq M] {d agent : Device C} {w w₁ w₂ : Watched C} {i c : Nat} {now : Int64}
    {conn : UdpConn M} {pd : Received C} {agentConn : ConnectionData M} {scheme : CipherScheme} {cookie : M}
    {mad : MsgAssemblerData C}
    (hreached : Watched.Reached d w) (hanswers : w.Answers i now c cookie w₁)
    (hlater : Runs.Reaches Watched.Step (fun _ _ => True) w₁ w₂) (hsame : w₂.cookies c = w₁.cookies c)
    (hconn : w₂.server.conns[c]? = some conn) (hrole : w₂.server.device.deviceType = .server)
    (harrives : ReknockArrives w₂.server.device agent pd agentConn scheme cookie mad) :
    (AtTheRightTime w₂.server.device conn pd.initTime cookie →
      ∃ ppd, createPacketParserData w₂.server.device (pd.current conn) = .ok ppd) ∧
    (HashesApart C → (∃ ppd, createPacketParserData w₂.server.device (pd.current conn) = .ok ppd) →
      AtTheRightTime w₂.server.device conn pd.initTime cookie) := by
  have hcurrent := hanswers.current_later hreached hlater hsame hconn
  obtain ⟨htype, hlen, hover⟩ := harrives.read conn
  constructor
  · rintro ⟨hoverload, hslot⟩
    refine (rknAdmitted_iff (pd.current conn) hrole hoverload htype).mpr ⟨hlen, ?_⟩
    have hexpected : conn.connData.cookieStore.expected pd.initTime = cookie := by
      rw [CookieStore.expected, hcurrent]
      split
      · rename_i hyoung
        exact hslot.resolve_left (not_not_intro hyoung)
      · rfl
    show (pd.current conn).ComputedOver _ (conn.connData.cookieStore.expected pd.initTime)
    rw [hexpected]
    exact hover
  · intro hC hadmitted
    have hoverload : w₂.server.device.overload = true := by
      by_contra hno
      exact not_admitted_unloaded hC (Bool.eq_false_iff.mpr hno) hover hadmitted
    refine ⟨hoverload, ?_⟩
    obtain ⟨-, hover'⟩ := (rknAdmitted_iff (pd.current conn) hrole hoverload htype).mp hadmitted
    have hexpected : conn.connData.cookieStore.expected pd.initTime = cookie :=
      PacketParserData.hmacOver_injective hC (hover'.symm.trans hover)
    rw [CookieStore.expected] at hexpected
    split at hexpected
    · exact .inr hexpected
    · rename_i hold
      exact .inl hold


/-- The sample agent's re-knock as the server gets it. -/
def reknockReceived (mad : MsgAssemblerData endLibs.crypto) (initTime : Int64) : Received endLibs.crypto where
  basePacket := Packet.ofBytes mad.content mad.content.length
  connData := 0
  prevAssemblerData := none
  initTime := initTime

/-- The agent's re-knock, as the server receives it. -/
theorem CookieExchange.reknockArrives {pkt : Packet BigEndian.Bytes} {ppd : PacketParserData endLibs.crypto}
    {ts : Int64} {cookie : BigEndian.Bytes} {mad : MsgAssemblerData endLibs.crypto}
    (h : CookieExchange pkt ppd ts cookie mad) {d : Device endLibs.crypto}
    (hkey : d.staticEcdhGmsm.publicKey = (endEcdh .sm2 2).publicKey) (initTime : Int64) :
    ReknockArrives d (endDevice .agent 1 false) (reknockReceived mad initTime) endConn .gmsm cookie mad := by
  have hbody : endLibs.crypto.len [104, 105] ≠ 0 := by decide
  refine ⟨⟨8, [104, 105], endEntropy, Packet.ofBytes blankBuffer packetBufferSize, 1000000000000, 5, hbody, ?_⟩,
    h.carries, rfl⟩
  rw [Device.getEcdhByCipherScheme, hkey]
  exact h.reknock

/-- A re-knock that arrives when the round-trip time is over. -/
theorem reknock_admitted_sample : ∃ (w : Watched endLibs.crypto) (conn : UdpConn BigEndian.Bytes)
    (mad : MsgAssemblerData endLibs.crypto) (ppd : PacketParserData endLibs.crypto),
    createPacketParserData w.server.device ((reknockReceived mad 1000020000000).current conn) = .ok ppd := by
  obtain ⟨pkt, ppd, ts, cookie, mad, hexchange⟩ := exists_cookieExchange
  obtain ⟨w, w₁, c, conn, h⟩ := hexchange.justAnswered
  have hold : ¬ (1000020000000 : Int64) < 1000000000000 + cookieRoundTripTimeMs * millisecond := by decide
  have htimed : AtTheRightTime w₁.server.device conn 1000020000000 cookie := by
    rw [AtTheRightTime, h.store]
    exact ⟨h.overload, .inl hold⟩
  obtain ⟨ppd', hadmitted⟩ := (reknock_admitted_iff h.reached h.answers .refl rfl h.found h.role
    (hexchange.reknockArrives h.key 1000020000000)).1 htimed
  exact ⟨w₁, conn, mad, ppd', hadmitted⟩

/-- A digest of the sample libraries that ends with a whole digest is that digest. -/
theorem endLibs_hash (t : HashType) (ws : List BigEndian.Bytes) {digest : BigEndian.Bytes}
    (hlen : digest.length = hashSize) : endLibs.crypto.hash t (ws ++ [digest]) = digest := by
  show (List.replicate hashSize 0 ++ (ws ++ [digest]).flatten).drop (ws ++ [digest]).flatten.length = digest
  rw [List.flatten_append, List.flatten_singleton, ← List.append_assoc]
  refine List.drop_left' ?_
  rw [List.length_append, List.length_append, List.length_replicate, hlen, Nat.add_comm]

/-- The HMAC of a cookie shows it. -/
theorem endLibs_hmacOver (ppd : PacketParserData endLibs.crypto) {cookie : BigEndian.Bytes}
    (hlen : cookie.length = hashSize) : ppd.hmacOver cookie = cookie := endLibs_hash _ _ hlen

/-- **A re-knock too soon.**  The agent's re-knock with the cookie it has just got is refused by the overloaded
    server when it arrives within the round-trip time. -/
theorem reknock_refused : ∃ (w w₁ : Watched endLibs.crypto) (c : Nat) (conn : UdpConn BigEndian.Bytes)
    (cookie : BigEndian.Bytes) (mad : MsgAssemblerData endLibs.crypto),
    Watched.Reached (endDevice .server 2 false) w ∧ w.Answers 0 1000000000000 c cookie w₁ ∧
      w₁.server.conns[c]? = some conn ∧ w₁.server.device.deviceType = .server ∧
      ReknockArrives w₁.server.device (endDevice .agent 1 false) (reknockReceived mad 1000010000000) endConn .gmsm
        cookie mad ∧
      ¬ ∃ ppd, createPacketParserData w₁.server.device ((reknockReceived mad 1000010000000).current conn) =
        .ok ppd := by
  obtain ⟨pkt, ppd, ts, cookie, mad, hexchange⟩ := exists_cookieExchange
  obtain ⟨w, w₁, c, conn, h⟩ := hexchange.justAnswered
  have harrives := hexchange.reknockArrives h.key 1000010000000
  refine ⟨w, w₁, c, conn, cookie, mad, h.reached, h.answers, h.found, h.role, harrives, fun hadmitted => ?_⟩
  set pd := (reknockReceived mad 1000010000000).current conn
  obtain ⟨htype, -, hover⟩ := harrives.read conn
  obtain ⟨-, hover'⟩ := (rknAdmitted_iff pd h.role h.overload htype).mp hadmitted
  have hyoung : (1000010000000 : Int64) < 1000000000000 + cookieRoundTripTimeMs * millisecond := by decide
  have hexpected : pd.connData.cookieStore.expected pd.initTime = endLibs.crypto.zeroKey := by
    show conn.connData.cookieStore.expected 1000010000000 = _
    rw [CookieStore.expected, h.store]
    exact if_pos hyoung
  have hzero : endLibs.crypto.zeroKey.length = hashSize := by decide
  rw [PacketData.ComputedOver, endLibs_hmacOver _ hexchange.length] at hover
  rw [PacketData.ComputedOver, hexpected, endLibs_hmacOver _ hzero] at hover'
  exact hexchange.ne (hover.symm.trans hover')

end OpenNHP.Server.Cookies
