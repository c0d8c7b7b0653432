/-
  Cookies (`generateCookie` and `checkHMAC` of `nhp/core/responder.go`, `addHMAC` of `nhp/core/initiator.go`,
  `HandleCookieMessage` of `endpoints/agent/msghandler.go`).

  1. **The program.**  An overloaded server answers a knock with a cookie of its connection and looks for one in
     the HMAC field of a re-knock.  A connection has two slots for cookies, the current one and the one before,
     with zeros where there are none; a cookie is renewed when it is older than its time, and both count.

  2. **Watching a run.**  The cookies a server makes are not part of its state once they have been replaced.  So a
     run is watched: `Watched` is the server with, for each of its connections, every cookie that was made for it,
     the latest first.  Watching changes nothing (`exists_watched`).

  3. **The invariant.**  The two slots of a connection hold the last two cookies that were made for it, or zeros
     (`Watched.Kept`, `kept_of_reached`).  It is kept by every step, since the only one that writes the slots is
     the one that makes a cookie (`step_stores`).

  4. **What is admitted.**  With hashes that have no collisions (`HashesApart`), the HMAC field of a re-knock
     names the cookie it was computed over; so a server that is overloaded lets it in exactly when that is in one
     of the two slots, as they are read at that time (`rknAdmitted_iff`).  Zeros are in a slot that was never
     filled: what an agent computes over zeros is let in there.  `Reknock` and `Replay` go on from here.
-/
import OpenNHP.Server.Replay
import OpenNHP.Core.HeaderRewrite

namespace OpenNHP.Core

variable {M : Type} {C : Crypto M}

/-! ## The cookie store -/

/-- The store of a new connection. -/
def CookieStore.empty (C : Crypto M) : CookieStore M where
  currCookie := C.zeroKey
  prevCookie := C.zeroKey
  lastCookieTime := 0

/-- The store with a new cookie. -/
def CookieStore.renew (store : CookieStore M) (cookie : M) (now : Int64) : CookieStore M where
  currCookie := cookie
  prevCookie := store.currCookie
  lastCookieTime := now

/-- A cookie as `generateCookie` makes it. -/
def IsCookie (C : Crypto M) (cookie : M) : Prop :=
  ∃ t ephermeral now, cookie = Noise.keyGen1 C t ephermeral (C.timestampBytes now)

/-- A parse keeps the cookies of its connection, or makes a new one at another time than the last. -/
theorem PacketParserData.finishParse_cookies (ppd : PacketParserData C) (ts now : Int64) :
    (ppd.finishParse ts now).1.connData.cookieStore = ppd.connData.cookieStore ∨
      ∃ cookie, IsCookie C cookie ∧ now ≠ ppd.connData.cookieStore.lastCookieTime ∧
        (ppd.finishParse ts now).1.connData.cookieStore = ppd.connData.cookieStore.renew cookie now := by
  unfold finishParse
  dsimp only
  split
  · show ((ppd.storeSendTime ts).generateCookie now).connData.cookieStore = _ ∨ _
    unfold generateCookie
    dsimp only
    split
    · rename_i hdue
      refine .inr ⟨_, ⟨_, _, _, rfl⟩, ?_, rfl⟩
      rintro rfl
      rw [gt_iff_lt, show (ppd.storeSendTime ts).connData.cookieStore = ppd.connData.cookieStore from rfl,
        Int64.sub_self] at hdue
      exact absurd hdue (by decide)
    · exact .inl rfl
  · rw [(decryptBody_frame _).2]
    exact .inl rfl

/-- The cookie an overloaded server sends is the current one of the connection. -/
theorem PacketParserData.finishParse_sentCookie {ppd : PacketParserData C} {ts now : Int64} {cookie : M}
    (hreject : ppd.rejectWithCookie = true) (h : (ppd.finishParse ts now).1.sentCookie = some cookie) :
    (ppd.finishParse ts now).1.connData.cookieStore.currCookie = cookie := by
  have hreject' : (ppd.storeSendTime ts).rejectWithCookie = true := hreject
  rw [finishParse, if_pos hreject'] at h ⊢
  exact Option.some.inj h

/-! ## The HMAC field of a re-knock -/

/-- Hashes do not collide, and no HMAC is the zero key. -/
structure HashesApart (C : Crypto M) : Prop where
  hash_injective : ∀ t ws ws', C.hash t ws = C.hash t ws' → ws = ws'
  hmac_ne_zeroKey : ∀ t key ws, C.hmac t key ws ≠ C.zeroKey

/-- Symbolic hashes have no collisions. -/
theorem symbolic_hashesApart {A : Type} [DecidableEq A] : HashesApart (symbolic A) where
  hash_injective _ _ _ h := Symbolic.Term.tuple_injective (Symbolic.Term.hash.inj h).2
  hmac_ne_zeroKey _ _ _ := nofun

/-- A cookie is no zeros. -/
theorem IsCookie.ne_zeroKey (hC : HashesApart C) {cookie : M} (h : IsCookie C cookie) : cookie ≠ C.zeroKey := by
  obtain ⟨t, ephermeral, now, rfl⟩ := h
  exact hC.hmac_ne_zeroKey _ _ _

/-- The HMAC field of a packet to this device over a cookie. -/
def PacketParserData.hmacOver (ppd : PacketParserData C) (cookie : M) : M :=
  C.hash ppd.ciphers.hashType
    ([C.initialHashString, ppd.deviceEcdh.publicKey] ++ ppd.header.macInput C ++ [cookie])

/-- The HMAC names the cookie. -/
theorem PacketParserData.hmacOver_injective (hC : HashesApart C) {ppd : PacketParserData C} {cookie cookie' : M}
    (h : ppd.hmacOver cookie = ppd.hmacOver cookie') : cookie = cookie' :=
  List.singleton_inj.mp (List.append_cancel_left (hC.hash_injective _ _ _ h))

/-- The packet's HMAC field was computed over the cookie. -/
def PacketData.ComputedOver (d : Device C) (pd : PacketData C) (cookie : M) : Prop :=
  (pd.startState d).header.hmac = (pd.startState d).hmacOver cookie

/-- The cookie `checkHMAC` looks for at an arrival time. -/
def CookieStore.expected (store : CookieStore M) (initTime : Int64) : M :=
  if initTime < store.lastCookieTime + cookieRoundTripTimeMs * millisecond then store.prevCookie
  else store.currCookie

/-- What a parse starts with. -/
theorem PacketData.startState_reads (d : Device C) (pd : PacketData C) :
    (pd.startState d).header.common = pd.basePacket.common ∧ (pd.startState d).device = d ∧
      (pd.startState d).connData = pd.connData ∧ (pd.startState d).localInitTime = pd.initTime := by
  unfold PacketData.startState
  cases pd.prevAssemblerData <;> exact ⟨rfl, rfl, rfl, rfl⟩

/-- An overloaded server lets a re-knock in exactly when it was computed over the expected cookie. -/
theorem rknAdmitted_iff [DecidableEq M] {d : Device C} (pd : PacketData C) (hrole : d.deviceType = .server)
    (hoverload : d.overload = true) (htype : pd.basePacket.common.typeAndPayloadSize.1 = .rkn) :
    (∃ ppd, createPacketParserData d pd = .ok ppd) ↔
      12 ≤ pd.basePacket.len ∧ pd.ComputedOver d (pd.connData.cookieStore.expected pd.initTime) := by
  obtain ⟨hcommon, hdevice, hconn, htime⟩ := pd.startState_reads d
  have hread : (pd.startState d).headerRead.headerType = .rkn := by
    show (pd.startState d).header.common.typeAndPayloadSize.1 = .rkn
    rw [hcommon, htype]
  have hloaded : (pd.startState d).headerRead.overload = true := by
    show decide _ = true
    rw [hdevice, decide_eq_true_eq]
    exact ⟨hrole, hoverload⟩
  have hallowed : (pd.startState d).headerRead.isAllowedAtOverload = true := by
    rw [PacketParserData.isAllowedAtOverload, hread]
    rfl
  have hexpected : (pd.startState d).headerRead.expectedCookie =
      pd.connData.cookieStore.expected pd.initTime := by
    rw [← hconn, ← htime]
    rfl
  have hcheck : (pd.startState d).headerRead.checkHMAC true = true ↔
      pd.ComputedOver d (pd.connData.cookieStore.expected pd.initTime) := by
    rw [PacketParserData.checkHMAC, beq_iff_eq, ← hexpected, eq_comm]
    rfl
  simp only [createPacketParserData_eq_ok, PacketParserData.checkHeader_eq_ok, hallowed, hread, hloaded, hcheck,
    implies_true, true_and, and_true, decide_true, exists_and_left, exists_eq]

/-- A server that is not overloaded lets nothing in that was computed over a cookie. -/
theorem not_admitted_unloaded [DecidableEq M] (hC : HashesApart C) {d : Device C} {pd : PacketData C} {cookie : M}
    (hoverload : d.overload = false) (hover : pd.ComputedOver d cookie) :
    ¬ ∃ ppd, createPacketParserData d pd = .ok ppd := by
  rintro ⟨ppd, hcreate⟩
  obtain ⟨-, hcheck⟩ := createPacketParserData_eq_ok.mp hcreate
  obtain ⟨-, hhmac, -⟩ := PacketParserData.checkHeader_eq_ok.mp hcheck
  have hunloaded : (pd.startState d).headerRead.overload = false := by
    show decide ((pd.startState d).device.deviceType = .server ∧ (pd.startState d).device.overload = true) = false
    rw [(pd.startState_reads d).2.1, hoverload]
    simp
  rw [hunloaded, decide_eq_false (by simp), PacketParserData.checkHMAC, beq_iff_eq] at hhmac
  have hplain : C.hash (pd.startState d).ciphers.hashType ([C.initialHashString,
      (pd.startState d).deviceEcdh.publicKey] ++ (pd.startState d).header.macInput C ++ []) =
        (pd.startState d).hmacOver cookie := hhmac.trans hover
  cases List.append_cancel_left (hC.hash_injective _ _ _ hplain)

end OpenNHP.Core

namespace OpenNHP.Server.Cookies

open OpenNHP.Core OpenNHP.Server.Replay
open OpenNHP.Core.Routines (packetType)

variable {M : Type} {C : Crypto M}

/-! ## Watching the cookies of a run -/

/-- The cookie store of a connection. -/
def storeOf (s : State C) (c : Nat) : Option (CookieStore M) := (s.conns[c]?).map (·.connData.cookieStore)

/-- The cookie a step makes for a connection: `generateCookie` writes its time with every new one. -/
def made (s s' : State C) (c : Nat) : List M :=
  match storeOf s c, storeOf s' c with
  | some store, some store' =>
    if store'.lastCookieTime = store.lastCookieTime then [] else [store'.currCookie]
  | _, _ => []

/-- A server, with the cookies it has made for each connection, the newest first. -/
structure Watched (C : Crypto M) where
  server : State C
  cookies : Nat → List M

/-- No cookie was made. -/
def Watched.start (d : Device C) : Watched C := { server := .start d, cookies := fun _ => [] }

/-- A step of the server, watched. -/
def Watched.Step [DecidableEq M] (w : Watched C) (a : Act C) (w' : Watched C) : Prop :=
  Replay.Step w.server a w'.server ∧ ∀ c, w'.cookies c = made w.server w'.server c ++ w.cookies c

/-- A watched run from the start. -/
abbrev Watched.Reached [DecidableEq M] (d : Device C) (w : Watched C) : Prop :=
  Runs.Reaches Watched.Step (fun _ _ => True) (Watched.start d) w

/-- Every run can be watched. -/
theorem exists_watched [DecidableEq M] {P : State C → Act C → Prop} {d : Device C} {s : State C}
    (h : Reached P d s) : ∃ cookies, Watched.Reached d ⟨s, cookies⟩ := by
  induction h with
  | refl => exact ⟨_, .refl⟩
  | @step t u a _ _ hstep ih =>
    obtain ⟨cookies, hreached⟩ := ih
    exact ⟨fun c => made t u c ++ cookies c, hreached.step trivial ⟨hstep, fun _ => rfl⟩⟩

section Steps

variable [DecidableEq M] {s s' : State C} {a : Act C} {c : Nat}

omit [DecidableEq M] in
/-- The cookie stores after a connection has been written over. -/
theorem storeOf_set {i : Nat} {conn conn' : UdpConn M} (hconn : s.conns[i]? = some conn)
    (hset : s'.conns = s.conns.set i conn') (c : Nat) :
    storeOf s' c = if i = c then some conn'.connData.cookieStore else storeOf s c := by
  obtain ⟨hlt, -⟩ := List.getElem?_eq_some_iff.mp hconn
  rw [storeOf, hset]
  by_cases hc : i = c
  · subst hc
    rw [List.getElem?_set_self hlt, if_pos rfl]
    rfl
  · rw [List.getElem?_set_ne hc, if_neg hc, storeOf]

omit [DecidableEq M] in
/-- A connection that is written over with its cookies kept. -/
theorem storeOf_set_same {i : Nat} {conn conn' : UdpConn M} (hconn : s.conns[i]? = some conn)
    (hset : s'.conns = s.conns.set i conn') (hsame : conn'.connData.cookieStore = conn.connData.cookieStore)
    (c : Nat) : storeOf s' c = storeOf s c := by
  rw [storeOf_set hconn hset]
  split
  · rename_i hc
    rw [← hc, hsame, storeOf, hconn]
    rfl
  · rfl

/-- What a step does to the cookies of a connection: it keeps them, opens the connection without any, or makes
    one. -/
theorem step_stores (h : Step s a s') (c : Nat) :
    storeOf s' c = storeOf s c ∨ storeOf s c = none ∧ storeOf s' c = some (.empty C) ∨
      ∃ i store cookie now, a = .finish i now ∧ storeOf s c = some store ∧ IsCookie C cookie ∧
        now ≠ store.lastCookieTime ∧ storeOf s' c = some (store.renew cookie now) := by
  cases h with
  | finish ht hphase hconn hfinish =>
    rename_i i t conn ppd o now
    have hstore : storeOf s t.pd.connData = some conn.connData.cookieStore := by
      rw [storeOf, hconn]
      rfl
    have hparse := (t.resume s conn).finishParse_cookies t.remoteSendTime now
    rw [hfinish] at hparse
    rw [storeOf_set hconn rfl]
    -- A parse writes to its own connection alone.
    by_cases hc : t.pd.connData = c
    · subst hc
      rw [if_pos rfl]
      obtain hkept | ⟨cookie, hcookie, hnow, hrenewed⟩ := hparse
      · exact .inl ((congrArg some hkept).trans hstore.symm)
      · exact .inr (.inr ⟨i, _, cookie, now, rfl, hstore, hcookie, hnow, congrArg some hrenewed⟩)
    · rw [if_neg hc]
      exact .inl rfl
  | receiveNew =>
    rename_i addr pkt r recvTime _ _ _ _ _
    -- Only the place behind the last connection is new.
    obtain hlt | heq | hgt := Nat.lt_trichotomy c s.conns.length
    · left
      rw [storeOf, storeOf]
      exact congrArg _ (List.getElem?_append_left hlt)
    · subst heq
      refine .inr (.inl ⟨?_, ?_⟩)
      · rw [storeOf, List.getElem?_eq_none le_rfl]
        rfl
      · exact congrArg (Option.map _) List.getElem?_concat_length
    · left
      have hnone : (s.accept addr pkt recvTime).conns[c]? = none := by
        refine List.getElem?_eq_none ?_
        rw [State.accept, List.length_append]
        exact hgt
      rw [storeOf, storeOf, hnone, List.getElem?_eq_none hgt.le]
  | beginTested hjobs hconn hbegin | beginRefused hjobs hconn hbegin =>
    obtain ⟨-, hkept⟩ := beginParse_keeps_conn (fun conn => (PacketParserData.countThreat_keeps conn).2) hbegin
    exact .inl (storeOf_set_same hconn rfl hkept c)
  | receiveKnown _ _ _ _ hconn | remove hconn | close hconn =>
    left
    apply storeOf_set_same hconn
    · rfl
    · rfl
  | _ => exact .inl rfl

/-- Only the end of a parse makes a cookie. -/
theorem made_eq_nil (h : Step s a s') (ha : a.unfinished = true) (c : Nat) : made s s' c = [] := by
  rw [made]
  obtain hkept | ⟨hnone, -⟩ | ⟨i, -, -, now, rfl, -⟩ := step_stores h c
  · rw [hkept]
    cases storeOf s c with
    | none => rfl
    | some store => exact if_pos rfl
  · rw [hnone]
  · cases ha

/-- A run in which no parse ends makes no cookies. -/
theorem watched_of_unfinished {d : Device C} (h : Reached (fun _ a => a.unfinished = true) d s) :
    Watched.Reached d ⟨s, fun _ => []⟩ := by
  induction h with
  | refl => exact .refl
  | step _ ha hstep ih =>
    exact ih.step trivial ⟨hstep, fun c => (List.append_eq_nil_iff.mpr ⟨made_eq_nil hstep ha c, rfl⟩).symm⟩

/-! ## What the slots hold -/

/-- The slots of every connection hold the last two cookies that were made for it, with zeros where there are
    none. -/
structure Watched.Kept (w : Watched C) : Prop where
  slots : ∀ c store, storeOf w.server c = some store →
    store.currCookie = (w.cookies c).headD C.zeroKey ∧ store.prevCookie = (w.cookies c).tail.headD C.zeroKey
  unopened : ∀ c, storeOf w.server c = none → w.cookies c = []
  made : ∀ c, ∀ cookie ∈ w.cookies c, IsCookie C cookie

omit [DecidableEq M] in
/-- What the slots of a connection hold. -/
theorem Watched.Kept.slots_of_conn {w : Watched C} (hw : w.Kept) {conn : UdpConn M}
    (hconn : w.server.conns[c]? = some conn) :
    conn.connData.cookieStore.currCookie = (w.cookies c).headD C.zeroKey ∧
      conn.connData.cookieStore.prevCookie = (w.cookies c).tail.headD C.zeroKey := by
  refine hw.slots c _ ?_
  rw [storeOf, hconn]
  rfl

omit [DecidableEq M] in
/-- The slots are zeros at first. -/
theorem kept_start (d : Device C) : (Watched.start d).Kept := by
  refine ⟨fun c store hstore => ?_, fun _ _ => rfl, fun _ _ hmem => ?_⟩
  · cases hstore
  · cases hmem

/-- Every step keeps the slots. -/
theorem Watched.Kept.step {w w' : Watched C} (hw : w.Kept) (h : w.Step a w') : w'.Kept := by
  obtain ⟨hstep, hcookies⟩ := h
  -- each connection: kept, opened or renewed
  have hone (c : Nat) : (∀ store, storeOf w'.server c = some store →
      store.currCookie = (w'.cookies c).headD C.zeroKey ∧
        store.prevCookie = (w'.cookies c).tail.headD C.zeroKey) ∧
      (storeOf w'.server c = none → w'.cookies c = []) ∧ ∀ cookie ∈ w'.cookies c, IsCookie C cookie := by
    rw [hcookies c, Cookies.made]
    obtain hkept | ⟨hnone, hopened⟩ | ⟨-, store, cookie, now, -, hstore, hcookie, hnow, hrenewed⟩ :=
      step_stores hstep c
    · rw [hkept]
      cases hstore : storeOf w.server c with
      | none => exact ⟨nofun, fun _ => hw.unopened c hstore, hw.made c⟩
      | some store =>
        simp only [if_true, List.nil_append, Option.some.injEq, forall_eq', reduceCtorEq, false_implies,
          true_and]
        exact ⟨hw.slots c store hstore, hw.made c⟩
    · rw [hnone, hopened, hw.unopened c hnone]
      refine ⟨fun store hstore => ?_, nofun, nofun⟩
      cases hstore
      exact ⟨rfl, rfl⟩
    · rw [hstore, hrenewed]
      have hdiffers : (store.renew cookie now).lastCookieTime ≠ store.lastCookieTime := hnow
      simp only [if_neg hdiffers]
      refine ⟨fun store' hstore' => ?_, nofun, ?_⟩
      · cases hstore'
        exact ⟨rfl, (hw.slots c store hstore).1⟩
      · rintro cookie' (_ | ⟨_, hmem⟩)
        · exact hcookie
        · exact hw.made c cookie' hmem
  exact ⟨fun c => (hone c).1, fun c => (hone c).2.1, fun c => (hone c).2.2⟩

/-- In every watched run the slots hold what was made. -/
theorem kept_of_reached {d : Device C} {w : Watched C} (h : Watched.Reached d w) : w.Kept :=
  h.invariant (I := Watched.Kept) (fun _ _ _ _ hI hstep => hI.step hstep) (kept_start d)

end Steps

/-! ## Answers and re-knocks -/

/-- `knockRequest` with `useCookie`: the re-knock of an agent. -/
def knockRequest (conn : ConnectionData M) (scheme : CipherScheme) (transactionId : UInt64) (knkBytes peerPk : M) :
    MsgData C where
  connData := conn
  prevParserData := none
  cipherScheme := scheme
  transactionId := transactionId
  headerType := .rkn
  compress := true
  clPkc := false
  externalCookie := none
  message := knkBytes
  peerPk := some peerPk

/-- The step answers a knock on the connection with the cookie. -/
def Watched.Answers [DecidableEq M] (w : Watched C) (i : Nat) (now : Int64) (c : Nat) (cookie : M)
    (w' : Watched C) : Prop :=
  w.Step (.finish i now) w' ∧ ∃ t conn, w.server.parses[i]? = some t ∧ t.pd.connData = c ∧
    w.server.conns[c]? = some conn ∧ (t.resume w.server conn).rejectWithCookie = true ∧
    ((t.resume w.server conn).finishParse t.remoteSendTime now).1.sentCookie = some cookie

section Answered

variable [DecidableEq M] {d : Device C} {w w₁ w₂ : Watched C} {i c : Nat} {now : Int64} {cookie : M}

/-- The cookie of an answer is the current one. -/
theorem Watched.Answers.current (h : w.Answers i now c cookie w₁) :
    ∃ store, storeOf w₁.server c = some store ∧ store.currCookie = cookie := by
  obtain ⟨⟨hstep, -⟩, t, conn, ht, hc, hconn, hreject, hsent⟩ := h
  obtain ⟨server, cookies⟩ := w₁
  subst hc
  cases hstep with
  | finish ht' hphase hconn' hfinish =>
    cases ht.symm.trans ht'
    cases hconn.symm.trans hconn'
    rename_i ppd o
    have hcurrent := PacketParserData.finishParse_sentCookie hreject hsent
    rw [hfinish] at hcurrent
    refine ⟨ppd.connData.cookieStore, ?_, hcurrent⟩
    rw [storeOf_set hconn rfl, if_pos rfl]

/-- Until another cookie is made the answer's cookie is the current one. -/
theorem Watched.Answers.current_later (hreached : Watched.Reached d w) (h : w.Answers i now c cookie w₁)
    (hlater : Runs.Reaches Watched.Step (fun _ _ => True) w₁ w₂) (hsame : w₂.cookies c = w₁.cookies c)
    {conn : UdpConn M} (hconn : w₂.server.conns[c]? = some conn) :
    conn.connData.cookieStore.currCookie = cookie := by
  have hkept := (kept_of_reached hreached).step h.1
  have hkept' := hlater.invariant (I := Watched.Kept) (fun _ _ _ _ hI hstep => hI.step hstep) hkept
  obtain ⟨store, hstore, hcurrent⟩ := h.current
  rw [(hkept'.slots_of_conn hconn).1, hsame, ← (hkept.slots c store hstore).1, hcurrent]

end Answered

/-- What a re-knock carries: the cookie of its connection, under the receiver's key. -/
theorem knockRequest_sent {d : Device C} {agentConn : ConnectionData M} {scheme : CipherScheme} {trx : UInt64}
    {knkBytes peerPk : M} {rnd : Entropy C} {buf : Packet M} {now : Int64} {preamble : UInt32}
    {mad : MsgAssemblerData C} (hbody : C.len knkBytes ≠ 0)
    (h : (createMsgAssemblerData d (knockRequest agentConn scheme trx knkBytes peerPk) rnd buf now).encrypt
      preamble = .ok mad) :
    mad.cipherScheme = scheme ∧ Packet.flagScheme mad.header.common.flag = scheme ∧
      mad.header.common.typeAndPayloadSize.1 = .rkn ∧
      mad.header.hmac = C.hash (newCipherSuite scheme).hashType
        ([C.initialHashString, peerPk] ++ mad.header.macInput C ++ [agentConn.cookieStore.currCookie]) := by
  have hr := createMsgAssemblerData_ready d (knockRequest agentConn scheme trx knkBytes peerPk) rnd buf now
  set mad₀ := createMsgAssemblerData d (knockRequest agentConn scheme trx knkBytes peerPk) rnd buf now with hmad₀
  obtain ⟨pk, ess, ss, hpk, -, -, -, hfit, rfl⟩ := (MsgAssemblerData.encrypt_eq_ok hr.chainHash).mp h
  have hpeer : peerPk = pk := Option.some.inj hpk
  subst hpeer
  have hbody : C.len mad₀.bodyMessage ≠ 0 := hbody
  have hsize : mad₀.sealedSize < 65536 := by
    have hbuffer : packetBufferSize = 4096 := rfl
    have hfits := hfit.resolve_left hbody
    rw [MsgAssemblerData.sealedSize, if_neg hbody]
    omega
  have hread := HeaderCommon.typeAndPayloadSize_set (t := .rkn)
    (HeaderCommon.setFlag mad₀.header.scheme mad₀.header.common mad₀.sentFlag) preamble trivial hsize
  have hcommon : mad₀.sentCommon preamble =
      (HeaderCommon.setFlag mad₀.header.scheme mad₀.header.common mad₀.sentFlag).setTypeAndPayloadSize
        preamble .rkn mad₀.sealedSize := by
    rw [MsgAssemblerData.sentCommon, if_neg hbody]
    rfl
  refine ⟨rfl, hr.flagScheme_sentCommon hbody preamble, ?_, rfl⟩
  show (mad₀.sentCommon preamble).typeAndPayloadSize.1 = .rkn
  rw [hcommon, hread]

section Reknock

variable [DecidableEq M] {d agent : Device C} {pd : Received C} {conn : UdpConn M} {agentConn : ConnectionData M}
  {scheme : CipherScheme} {trx : UInt64} {knkBytes cookie : M} {rnd : Entropy C} {buf : Packet M} {now : Int64}
  {preamble : UInt32} {mad : MsgAssemblerData C}

/-- A re-knock as it reaches a server: the packet of an agent that has taken the cookie. -/
structure ReknockArrives (d agent : Device C) (pd : Received C) (agentConn : ConnectionData M)
    (scheme : CipherScheme) (cookie : M) (mad : MsgAssemblerData C) : Prop where
  sent : ∃ trx knkBytes rnd buf now preamble, C.len knkBytes ≠ 0 ∧
    (createMsgAssemblerData agent (knockRequest (agentConn.handleCookieMessage cookie) scheme trx knkBytes
      (d.getEcdhByCipherScheme scheme).publicKey) rnd buf now).encrypt preamble = .ok mad
  carries : pd.basePacket.Carries mad
  answersNothing : pd.prevAssemblerData = none

omit [DecidableEq M] in
/-- The parse of the re-knock reads what the agent sent. -/
theorem ReknockArrives.read (h : ReknockArrives d agent pd agentConn scheme cookie mad) (conn : UdpConn M) :
    packetType pd.basePacket = .rkn ∧ 12 ≤ pd.basePacket.len ∧ (pd.current conn).ComputedOver d cookie := by
  obtain ⟨trx, knkBytes, rnd, buf, now, preamble, hbody, hencrypt⟩ := h.sent
  obtain ⟨hscheme, hflag, htype, hhmac⟩ := knockRequest_sent hbody hencrypt
  have hcast := h.carries.cast
  have hcommon : pd.basePacket.common = mad.header.common := congrArg Header.common hcast
  refine ⟨?_, ?_, ?_⟩
  · rw [packetType, hcommon, htype]
  · exact (twelve_le_headerSize mad.cipherScheme).trans (h.carries.len ▸ Nat.le_add_right _ _)
  · have hstart : (pd.current conn).startState d = PacketParserData.startFresh d (pd.current conn) := by
      rw [PacketData.startState, Received.current, h.answersNothing]
    have hread : Packet.flagScheme (pd.current conn).basePacket.common.flag = scheme := by
      show Packet.flagScheme pd.basePacket.common.flag = scheme
      rw [hcommon, hflag]
    have hheader : ((pd.current conn).startState d).header = mad.header := by
      rw [hstart, ← hcast, hscheme, ← hread]
      rfl
    have hkey : ((pd.current conn).startState d).ciphers = newCipherSuite scheme ∧
        ((pd.current conn).startState d).deviceEcdh = d.getEcdhByCipherScheme scheme := by
      rw [hstart, ← hread]
      exact ⟨rfl, rfl⟩
    rw [PacketData.ComputedOver, PacketParserData.hmacOver, hheader, hkey.1, hkey.2]
    exact hhmac

end Reknock

end OpenNHP.Server.Cookies
