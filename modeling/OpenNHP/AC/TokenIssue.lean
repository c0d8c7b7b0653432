/-
  Which entry a token is for (`endpoints/ac/tokenstore.go`).

  1. **The program.**  The text of a token is made of the identifiers of its user, one behind the other without
     anything in between, and of the clock; the token is the digest of that text.  The store keeps a pointer under
     it.

  2. **The property.**  `Issues`: a new token is none that another entry in the store has, and a look-up returns
     the entry for which the token was issued, to every holder whose entry has not been dropped.

  3. **Where it fails.**  Two calls whose identifiers run together to the same text at the same reading of the
     clock make the same token (`SameInput`, `accessToken_eq_iff`: with an injective digest these are the only
     ones), and the later entry takes the place of the earlier one (`token_reassigned`).

  4. **The result.**  `issue_iff`: along a run every step is as it should be exactly when no call has the input of
     an entry that is in the store (`Apart`).  The invariant `Own` says that a token in the store is the one its
     entry was issued with; `entryOf` follows one entry through the sweeps of the routine.
-/
import OpenNHP.AC.TokenStore
import OpenNHP.Lib.Base64
import OpenNHP.Lib.Runs

namespace OpenNHP.AC

open BigEndian

/-! ## Tokens -/

/-- The identifiers of a user as they are written to the hash. -/
def AgentUser.text (au : AgentUser) : String := au.userId ++ au.deviceId ++ au.organizationId ++ au.authServiceId

/-- The identifiers run together to the same text, and the clocks are the same in 64 bits. -/
def SameInput (au : AgentUser) (t : Int) (au' : AgentUser) (t' : Int) : Prop :=
  au.text = au'.text ∧ t % 18446744073709551616 = t' % 18446744073709551616

instance (au : AgentUser) (t : Int) (au' : AgentUser) (t' : Int) : Decidable (SameInput au t au' t') :=
  inferInstanceAs (Decidable (_ ∧ _))

/-- A digit of the source is one of the library. -/
theorem base64Digit_eq {n : Nat} (h : n < 64) : base64Digit n = Char.ofNat (Base64.digit n).toNat := by
  have hall : ∀ n < 64, base64Digit n = Char.ofNat (Base64.digit n).toNat := by decide +kernel
  exact hall n h

/-- So is the padding. -/
theorem ofNat_padChar : Char.ofNat Base64.padChar.toNat = '=' := by decide

/-- The digits are the letters of the encoding, as characters. -/
theorem base64Digits_eq (data : Bytes) :
    base64Digits data = (Base64.encodeToString data).map fun c => Char.ofNat c.toNat := by
  fun_induction Base64.encodeToString data with
  | case1 => rfl
  | case2 a =>
    have ha := a.toNat_lt
    have h₁ : a.toNat * 65536 / 262144 = a.toNat / 4 := by omega
    have h₂ : a.toNat * 65536 / 4096 % 64 = a.toNat % 4 * 16 := by omega
    rw [base64Digits, h₁, h₂, base64Digit_eq (by omega), base64Digit_eq (by omega)]
    simp only [List.map_cons, List.map_nil, ofNat_padChar]
  | case3 a b =>
    have ha := a.toNat_lt
    have hb := b.toNat_lt
    have h₁ : (a.toNat * 65536 + b.toNat * 256) / 262144 = a.toNat / 4 := by omega
    have h₂ : (a.toNat * 65536 + b.toNat * 256) / 4096 % 64 = a.toNat % 4 * 16 + b.toNat / 16 := by omega
    have h₃ : (a.toNat * 65536 + b.toNat * 256) / 64 % 64 = b.toNat % 16 * 4 := by omega
    rw [base64Digits, h₁, h₂, h₃, base64Digit_eq (by omega), base64Digit_eq (by omega), base64Digit_eq (by omega)]
    simp only [List.map_cons, List.map_nil, ofNat_padChar]
  | case4 a b c rest ih =>
    have ha := a.toNat_lt
    have hb := b.toNat_lt
    have hc := c.toNat_lt
    have h₁ : (a.toNat * 65536 + b.toNat * 256 + c.toNat) / 262144 = a.toNat / 4 := by omega
    have h₂ : (a.toNat * 65536 + b.toNat * 256 + c.toNat) / 4096 % 64 = a.toNat % 4 * 16 + b.toNat / 16 := by omega
    have h₃ : (a.toNat * 65536 + b.toNat * 256 + c.toNat) / 64 % 64 = b.toNat % 16 * 4 + c.toNat / 64 := by omega
    have h₄ : (a.toNat * 65536 + b.toNat * 256 + c.toNat) % 64 = c.toNat % 64 := by omega
    rw [base64Digits, h₁, h₂, h₃, h₄, base64Digit_eq (by omega), base64Digit_eq (by omega),
      base64Digit_eq (by omega), base64Digit_eq (by omega), ih]
    simp only [List.map_cons]

/-- A byte has its own character, -/
theorem charOfByte_injective : Function.Injective fun c : UInt8 => Char.ofNat c.toNat := by
  intro c c' h
  have hvalid : ∀ c : UInt8, (Char.ofNat c.toNat).toNat = c.toNat := Inet.forall_uint8 (by decide +kernel)
  have hnat := congrArg Char.toNat h
  dsimp only at hnat
  rw [hvalid, hvalid] at hnat
  exact UInt8.toNat_inj.mp hnat

/-- so a text has its own encoding. -/
theorem base64_injective : Function.Injective base64 := by
  intro data data' h
  have hdigits := String.ofList_injective h
  rw [base64Digits_eq, base64Digits_eq] at hdigits
  have hencoded := charOfByte_injective.list_map hdigits
  have hdecoded := congrArg Base64.decodeQuanta hencoded
  rw [Base64.decodeQuanta_encodeToString, Base64.decodeQuanta_encodeToString] at hdecoded
  exact congrArg Prod.fst hdecoded

/-- Under a hash without collisions two tokens are the same exactly when they are made of the same input. -/
theorem accessToken_eq_iff {sm3 : Bytes → Bytes} (hinj : Function.Injective sm3) {acId : String}
    {au au' : AgentUser} {t t' : Int} :
    accessToken sm3 acId au t = accessToken sm3 acId au' t' ↔ SameInput au t au' t' := by
  have htext : ∀ au : AgentUser, acId ++ au.userId ++ au.deviceId ++ au.organizationId ++ au.authServiceId =
      acId ++ au.text := by
    intro au
    rw [AgentUser.text]
    simp only [String.append_assoc]
  rw [accessToken, accessToken, htext, htext]
  constructor
  · intro h
    have hbytes := hinj (base64_injective h)
    obtain ⟨hid, htime⟩ := List.append_inj' hbytes (by rw [length_putBE, length_putBE])
    constructor
    · have hid' := String.toByteArray_inj.mp (ByteArray.ext (Array.toList_inj.mp hid))
      exact (String.append_right_inj acId).mp hid'
    · have hpos : ∀ t : Int, 0 ≤ t % 18446744073709551616 ∧ t % 18446744073709551616 < 18446744073709551616 := by
        intro t
        constructor
        · exact Int.emod_nonneg t (by decide)
        · exact Int.emod_lt_of_pos t (by decide)
      have ht := hpos t
      have ht' := hpos t'
      have hnat := congrArg getBE htime
      rw [getBE_putBE_of_lt (by omega), getBE_putBE_of_lt (by omega)] at hnat
      omega
  · rintro ⟨hid, htime⟩
    rw [hid, htime]

/-! ## The store of pointers -/

namespace TokenIssue

/-- The entries, in the order in which they were made, with the input of each one's token; the store points to
    them. -/
structure State where
  entries : List TokenEntry
  inputs : List (AgentUser × Int)
  tokenStore : SplitMap (Option UInt8) String Nat
  /-- the entries that the routine has dropped -/
  dropped : List Nat

/-- A token is issued or shown, or the routine passes. -/
inductive Act
  /-- `GenerateAccessToken`, with its two readings of the clock. -/
  | generate (entry : AccessEntry) (currTime now : Int)
  | verify (token : String)
  /-- A pass of `tokenStoreRefreshRoutine`. -/
  | refresh (now : Int)

namespace State

/-- No entries. -/
def start : State where
  entries := []
  inputs := []
  tokenStore := ∅
  dropped := []

variable (s : State)

/-- The entry that a token is for. -/
def found (token : String) : Option Nat := SplitMap.find tokenHead s.tokenStore token

/-- An entry that the routine leaves at a time. -/
def live (now : Int) (id : Nat) : Bool := (s.entries[id]?).all fun entry => now ≤ entry.expireTime

end State

variable (sm3 : Bytes → Bytes) (acId : String)

/-- The token of an input. -/
def tokenOf (input : AgentUser × Int) : String := accessToken sm3 acId input.1 input.2

/-- The entry is in the store under its token. -/
def State.holds (s : State) (id : Nat) : Bool :=
  (s.inputs[id]?).any fun input => s.found (tokenOf sm3 acId input) = some id

/-- `VerifyAccessToken` of the empty token panics. -/
def step (s : State) : Act → Option State
  | .generate entry currTime now => some {
      entries := s.entries ++ [{ entry with expireTime := now + (entry.openTime + 5) * second }]
      inputs := s.inputs ++ [(entry.user, currTime)]
      tokenStore := SplitMap.put tokenHead s.tokenStore (accessToken sm3 acId entry.user currTime) s.entries.length
      dropped := s.dropped }
  | .verify token =>
    if token = "" then none
    else match s.found token with
      | none => some s
      | some id => some { s with entries := s.entries.modify id TokenStore.prolong }
  | .refresh now => some { s with
      tokenStore := SplitMap.sweep (s.live now) s.tokenStore
      dropped := s.dropped ++
        (List.range s.entries.length).filter fun id => s.holds sm3 acId id && !s.live now id }

/-! ## The property and the condition -/

/-- A new token differs from every token in the store that is another entry's; and the entry that a look-up
    returns is that for which the token was issued, to every holder whose entry has not been dropped. -/
def Issues (s : State) : Act → Prop
  | .generate entry currTime _ =>
    ∀ token id, s.found token = some id → id ≠ s.entries.length → token ≠ accessToken sm3 acId entry.user currTime
  | .verify token =>
    ∀ id, s.found token = some id → (s.inputs[id]?).map (tokenOf sm3 acId) = some token ∧
      ∀ id', (s.inputs[id']?).map (tokenOf sm3 acId) = some token → id' ∉ s.dropped → id' = id
  | .refresh _ => True

/-- No entry that is in the store has a token of the same input. -/
def Apart (s : State) : Act → Prop
  | .generate entry currTime _ =>
    ∀ id < s.entries.length, s.holds sm3 acId id = true → ∀ input ∈ s.inputs[id]?,
      ¬SameInput input.1 input.2 entry.user currTime
  | _ => True

instance (s : State) : (a : Act) → Decidable (Apart sm3 acId s a)
  | .generate entry currTime _ =>
    inferInstanceAs (Decidable (∀ id < s.entries.length, s.holds sm3 acId id = true → ∀ input ∈ s.inputs[id]?,
      ¬SameInput input.1 input.2 entry.user currTime))
  | .verify _ | .refresh _ => inferInstanceAs (Decidable True)

/-! ## What every run keeps -/

/-- An entry in the store is under its own token. -/
structure Own (s : State) : Prop where
  length : s.inputs.length = s.entries.length
  stored : ∀ token id, s.found token = some id → (s.inputs[id]?).map (tokenOf sm3 acId) = some token

/-- And an entry that is not in the store has been dropped. -/
structure Inv (s : State) : Prop extends Own sm3 acId s where
  kept : ∀ id token, (s.inputs[id]?).map (tokenOf sm3 acId) = some token → id ∉ s.dropped →
    s.found token = some id

/-- There is nothing in the store. -/
theorem own_start : Own sm3 acId .start := by
  refine ⟨rfl, ?_⟩
  intro token id hfound
  cases hfound

/-- And nothing was issued. -/
theorem inv_start : Inv sm3 acId .start := by
  refine ⟨own_start sm3 acId, ?_⟩
  intro id token htoken
  cases htoken

variable {sm3 acId} {s s' : State}

/-- What is found was issued. -/
theorem Own.lt (h : Own sm3 acId s) {token : String} {id : Nat} (hfound : s.found token = some id) :
    id < s.entries.length := by
  obtain ⟨input, hinput, -⟩ := Option.map_eq_some_iff.mp (h.stored token id hfound)
  rw [← h.length]
  exact (List.getElem?_eq_some_iff.mp hinput).1

/-- The entries in the store are those that are there under their tokens. -/
theorem Own.holds_iff (h : Own sm3 acId s) {id : Nat} :
    s.holds sm3 acId id = true ↔ ∃ token, s.found token = some id := by
  constructor
  · intro hholds
    obtain ⟨input, -, hfound⟩ := (Option.any_eq_true _ _).mp hholds
    exact ⟨_, of_decide_eq_true hfound⟩
  · rintro ⟨token, hfound⟩
    obtain ⟨input, hinput, rfl⟩ := Option.map_eq_some_iff.mp (h.stored token id hfound)
    rw [State.holds, hinput, Option.any_some, hfound]
    exact decide_eq_true rfl

/-- An issue is sound exactly when the input is not that of an entry in the store. -/
theorem Inv.issues_iff (h : Inv sm3 acId s) (hinj : Function.Injective sm3) (a : Act) :
    Issues sm3 acId s a ↔ Apart sm3 acId s a := by
  cases a with
  | generate entry currTime now =>
    constructor
    · intro hissues id _ hholds input hinput hsame
      obtain ⟨token, hfound⟩ := h.holds_iff.mp hholds
      have htoken := h.stored token id hfound
      rw [Option.mem_def.mp hinput, Option.map_some] at htoken
      have heq : tokenOf sm3 acId input = accessToken sm3 acId entry.user currTime :=
        (accessToken_eq_iff hinj).mpr hsame
      exact hissues token id hfound (Nat.ne_of_lt (h.lt hfound)) ((Option.some.inj htoken).symm.trans heq)
    · intro hapart token id hfound _ heq
      obtain ⟨input, hinput, rfl⟩ := Option.map_eq_some_iff.mp (h.stored token id hfound)
      exact hapart id (h.lt hfound) (h.holds_iff.mpr ⟨_, hfound⟩) input hinput ((accessToken_eq_iff hinj).mp heq)
  | verify token =>
    refine iff_of_true ?_ trivial
    intro id hfound
    refine ⟨h.stored token id hfound, ?_⟩
    intro id' hissued hkept
    exact Option.some.inj ((h.kept id' token hissued hkept).symm.trans hfound)
  | refresh now => exact Iff.rfl

/-- Every step keeps a token with its entry. -/
theorem Own.step (h : Own sm3 acId s) {a : Act} (hstep : TokenIssue.step sm3 acId s a = some s') :
    Own sm3 acId s' := by
  cases a with
  | generate entry currTime now =>
    obtain rfl := Option.some.inj hstep
    constructor
    · show (s.inputs ++ [_]).length = (s.entries ++ [_]).length
      rw [List.length_append, List.length_append, h.length]
      rfl
    · intro token id hfound
      change SplitMap.find tokenHead (SplitMap.put tokenHead s.tokenStore _ _) token = some id at hfound
      show ((s.inputs ++ [(entry.user, currTime)])[id]?).map _ = some token
      rw [SplitMap.find_put] at hfound
      split_ifs at hfound with htoken
      · obtain rfl := Option.some.inj hfound
        rw [← h.length, List.getElem?_concat_length, htoken]
        rfl
      · have hlt := h.lt hfound
        rw [List.getElem?_append_left (by rw [h.length]; exact hlt)]
        exact h.stored token id hfound
  | verify token =>
    simp only [TokenIssue.step] at hstep
    split_ifs at hstep
    split at hstep
    · obtain rfl := Option.some.inj hstep
      exact h
    · obtain rfl := Option.some.inj hstep
      exact ⟨h.length.trans (List.length_modify _ _ _).symm, h.stored⟩
  | refresh now =>
    obtain rfl := Option.some.inj hstep
    refine ⟨h.length, ?_⟩
    intro token id hfound
    change SplitMap.find tokenHead (SplitMap.sweep (s.live now) s.tokenStore) token = some id at hfound
    rw [SplitMap.find_sweep] at hfound
    exact h.stored token id (Option.filter_eq_some_iff.mp hfound).1

/-- Sound issues keep every entry under its token until it is dropped. -/
theorem Inv.step (h : Inv sm3 acId s) {a : Act} (hissues : Issues sm3 acId s a)
    (hstep : TokenIssue.step sm3 acId s a = some s') : Inv sm3 acId s' := by
  refine ⟨h.toOwn.step hstep, ?_⟩
  intro id token hissued hkept
  cases a with
  | generate entry currTime now =>
    obtain rfl := Option.some.inj hstep
    change ((s.inputs ++ [(entry.user, currTime)])[id]?).map _ = some token at hissued
    show SplitMap.find tokenHead (SplitMap.put tokenHead s.tokenStore (tokenOf sm3 acId (entry.user, currTime)) _)
      token = some id
    rw [SplitMap.find_put]
    obtain ⟨input, hinput, htoken⟩ := Option.map_eq_some_iff.mp hissued
    rcases Tables.getElem?_append_cases hinput with ⟨rfl, rfl⟩ | hold
    · rw [if_pos htoken.symm, h.length]
    · have hold' : (s.inputs[id]?).map (tokenOf sm3 acId) = some token := by
        rw [hold, Option.map_some, htoken]
      have hfound := h.kept id token hold' hkept
      have hne : token ≠ tokenOf sm3 acId (entry.user, currTime) :=
        hissues token id hfound (Nat.ne_of_lt (h.lt hfound))
      rw [if_neg hne]
      exact hfound
  | verify token' =>
    simp only [TokenIssue.step] at hstep
    split_ifs at hstep
    split at hstep
    · obtain rfl := Option.some.inj hstep
      exact h.kept id token hissued hkept
    · obtain rfl := Option.some.inj hstep
      exact h.kept id token hissued hkept
  | refresh now =>
    obtain rfl := Option.some.inj hstep
    change id ∉ s.dropped ++ _ at hkept
    obtain ⟨hold, hnew⟩ := not_or.mp (mt List.mem_append.mpr hkept)
    have hfound := h.kept id token hissued hold
    show SplitMap.find tokenHead (SplitMap.sweep (s.live now) s.tokenStore) token = some id
    rw [SplitMap.find_sweep]
    refine Option.filter_eq_some_iff.mpr ⟨hfound, ?_⟩
    -- it was in the store, and was not dropped
    by_contra hexpired
    refine hnew (List.mem_filter.mpr ⟨List.mem_range.mpr (h.lt hfound), ?_⟩)
    obtain ⟨input, hinput, rfl⟩ := Option.map_eq_some_iff.mp hissued
    rw [State.holds, hinput]
    simp only [Option.any_some, hfound, decide_true, Bool.true_and]
    exact Bool.eq_false_iff.mpr hexpired ▸ rfl

/-- Along a run, every token is new and every look-up returns the entry of its token exactly when no call has
    the input of an entry that is in the store. -/
theorem issue_iff (hinj : Function.Injective sm3) (acts : List Act) :
    Runs.Steps (TokenIssue.step sm3 acId) (Issues sm3 acId) .start acts ↔
      Runs.Steps (TokenIssue.step sm3 acId) (Apart sm3 acId) .start acts := by
  apply Runs.steps_congr (I := Inv sm3 acId)
  · exact fun s a h => h.issues_iff hinj a
  · exact fun s a s' h hissues hstep => h.step hissues hstep
  · exact inv_start sm3 acId

/-! ## Entries by their tokens -/

/-- The entry that a look-up comes to. -/
def State.entryOf (s : State) (token : String) : Option TokenEntry := (s.found token).bind (s.entries[·]?)

/-- The store of pointers stands for a store of entries. -/
def StandsFor (s : State) (store : TokenStore) : Prop := ∀ token, s.entryOf token = store.found token

/-- The store behind an act, where it keeps the entries themselves. -/
def after (sm3 : Bytes → Bytes) (acId : String) (store : TokenStore) : Act → TokenStore
  | .generate entry currTime now => store.add (accessToken sm3 acId entry.user currTime) entry now
  | .verify token =>
    match store.found token with
    | none => store
    | some entry => store.write token (TokenStore.prolong entry)
  | .refresh now => store.dropExpired now

/-- The routine leaves the entries that have not expired. -/
theorem entryOf_sweep (h : Own sm3 acId s) (now : Int) (token : String) (entry : TokenEntry) :
    (SplitMap.find tokenHead (SplitMap.sweep (s.live now) s.tokenStore) token).bind (s.entries[·]?) = some entry ↔
      s.entryOf token = some entry ∧ now ≤ entry.expireTime := by
  rw [State.entryOf, SplitMap.find_sweep]
  cases hfound : SplitMap.find tokenHead s.tokenStore token with
  | none =>
    have hnone : s.found token = none := hfound
    rw [hnone]
    refine iff_of_false (fun heq => Option.some_ne_none entry heq.symm) ?_
    rintro ⟨heq, -⟩
    cases heq
  | some id =>
    have hsome : s.found token = some id := hfound
    obtain ⟨found, hentry⟩ : ∃ found, s.entries[id]? = some found := ⟨_, List.getElem?_eq_getElem (h.lt hsome)⟩
    rw [hsome, Option.bind_some, Option.filter_some, State.live, hentry, Option.all_some]
    by_cases hlive : now ≤ found.expireTime
    · rw [if_pos (decide_eq_true hlive), Option.bind_some, hentry]
      refine ⟨fun heq => ⟨heq, ?_⟩, And.left⟩
      rw [← Option.some.inj heq]
      exact hlive
    · rw [if_neg (by rw [decide_eq_true_iff]; exact hlive), Option.bind_none]
      refine iff_of_false (fun heq => Option.some_ne_none entry heq.symm) ?_
      rintro ⟨heq, hlive'⟩
      rw [← Option.some.inj heq] at hlive'
      exact hlive hlive'

/-- The pointers are used as the entries would be: each entry is under one token. -/
theorem StandsFor.step {store : TokenStore} (hstands : StandsFor s store) (h : Own sm3 acId s) {a : Act}
    (hstep : TokenIssue.step sm3 acId s a = some s') : StandsFor s' (after sm3 acId store a) := by
  intro token'
  have hold := hstands token'
  cases a with
  | generate entry currTime now =>
    obtain rfl := Option.some.inj hstep
    rw [after, TokenStore.found_add, State.entryOf]
    show (SplitMap.find tokenHead (SplitMap.put tokenHead s.tokenStore _ _) token').bind _ = _
    rw [SplitMap.find_put]
    split_ifs with htoken
    · exact List.getElem?_concat_length
    · rw [← hold, State.entryOf]
      apply Option.bind_congr
      intro id hfound
      exact List.getElem?_append_left (h.lt hfound)
  | verify token =>
    simp only [TokenIssue.step] at hstep
    split_ifs at hstep
    have hentry := hstands token
    rw [State.entryOf] at hentry
    split at hstep
    · rename_i hnone
      obtain rfl := Option.some.inj hstep
      rw [hnone, Option.bind_none] at hentry
      rw [after, ← hentry]
      exact hold
    · rename_i id hfound
      obtain rfl := Option.some.inj hstep
      have hlt := h.lt hfound
      rw [hfound, Option.bind_some, List.getElem?_eq_getElem hlt] at hentry
      rw [after, ← hentry]
      dsimp only
      rw [TokenStore.found_write, State.entryOf]
      show (s.found token').bind _ = _
      split_ifs with htoken
      · rw [htoken, hfound, Option.bind_some, List.getElem?_modify_eq, List.getElem?_eq_getElem hlt]
        rfl
      · rw [← hold, State.entryOf]
        apply Option.bind_congr
        intro id' hfound'
        rw [List.getElem?_modify_ne]
        -- one entry is not under two tokens
        rintro rfl
        have hissued := h.stored token _ hfound
        rw [h.stored token' _ hfound'] at hissued
        exact htoken (Option.some.inj hissued)
  | refresh now =>
    obtain rfl := Option.some.inj hstep
    rw [after]
    ext entry
    rw [TokenStore.found_dropExpired, ← hold]
    exact entryOf_sweep h now token' entry

/-- Along every run the look-ups are those in the store of entries. -/
theorem standsFor_run {acts : List Act} {store : TokenStore} (hstands : StandsFor s store) (h : Own sm3 acId s)
    {t : State} (hrun : Runs.run (TokenIssue.step sm3 acId) s acts = some t) :
    StandsFor t (acts.foldl (after sm3 acId) store) := by
  induction acts generalizing s store with
  | nil =>
    cases hrun
    exact hstands
  | cons a acts ih =>
    obtain ⟨u, hu, hrun⟩ := Runs.run_cons.mp hrun
    exact ih (hstands.step h hu) (h.step hu) hrun

/-! ## Samples -/

/-- Two users whose identifiers run together to one text. -/
def ann : AgentUser := ⟨"ann", "1phone", "org", "web"⟩
def ann1 : AgentUser := ⟨"ann1", "phone", "org", "web"⟩

/-- What both ask for. -/
def entryFor (au : AgentUser) : AccessEntry := ⟨au, [agentAddr], [webAddr], 15⟩

/-- The entries of two users at different times, and at the same time behind the end of the first. -/
def apart : List Act :=
  [.generate (entryFor ann) 0 0, .generate (entryFor ann1) 1 1, .verify (accessToken id "ac" ann 0),
    .refresh (40 * second), .generate (entryFor ann1) 0 0]

/-- At different times their tokens differ. -/
theorem issue_apart : Runs.Steps (step id "ac") (Issues id "ac") .start apart :=
  (issue_iff Function.injective_id apart).mpr (by decide +kernel)

/-- Two users whose identifiers run together, at the same time. -/
def runTogether : List Act := [.generate (entryFor ann) 0 0, .generate (entryFor ann1) 0 0]

/-- The token of the first becomes that of the second, under a hash without collisions. -/
theorem token_reassigned : ¬Runs.Steps (step id "ac") (Issues id "ac") .start runTogether ∧
    (Runs.run (step id "ac") .start runTogether).bind (·.found (accessToken id "ac" ann 0)) = some 1 := by
  constructor
  · rintro ⟨-, hthen⟩
    obtain ⟨hissues, -⟩ := hthen _ rfl
    have hfound : SplitMap.find tokenHead (SplitMap.put tokenHead ∅ (accessToken id "ac" ann 0) 0)
        (accessToken id "ac" ann 0) = some 0 := by
      rw [SplitMap.find_put, if_pos rfl]
    have hsame : SameInput ann 0 ann1 0 := by decide
    exact hissues _ 0 hfound Nat.zero_ne_one ((accessToken_eq_iff Function.injective_id).mpr hsame)
  · decide +kernel

end TokenIssue

end OpenNHP.AC
