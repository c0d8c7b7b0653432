/-
  The token store of the server (`endpoints/server/tokenstore.go`), and when the tokens of the AC and of the
  server are sound.

  THE PROGRAM.  The server's store differs from the AC's in what its entries carry, in that they are kept exactly
  as long as they open for, and in that a look-up does not prolong them.  Both index their tokens by the first
  character, panic on the empty token, and hand out an entry after its expire time until the refresh routine has
  dropped it; the AC's look-up adds the open time to an expire time that lies ahead.

  THE SPECIFICATION.  Every look-up is defined and hands out only live entries of tokens that were issued, and no
  entry lives longer than its open time, on the AC five seconds more, from its last use.

  THE CRUX.  Both stores are maps of maps, whose look-up and insertion behave as those of one map
  (`Lib.SplitMap`).  What a history of operations leaves there is then a question about one token at a time,
  which `Lib.ExpiringStore` answers for any store with these operations (`serverTokens` is the one of the server).

  ASSEMBLY.  `tokens_sound_iff` says for both stores which operations keep a history sound, and `tokens_unsound`
  shows one of each kind that does not.
-/
import OpenNHP.AC.TokenExpiry
import OpenNHP.AC.PreAccess

namespace OpenNHP.Server

open BigEndian ExpiringStore Runs
open OpenNHP.AC (AgentUser TokenEntry second tokenHead accessToken acTokens sampleSm3)

/-! ## The store -/

/-- `ACTokenEntry`: for whom and what a token was issued, and the tokens of the ACs behind it. -/
structure ACTokenEntry where
  user : AgentUser
  resourceId : String
  acTokens : List (String × String)
  openTime : Int
  expireTime : Int

/-- The two-level map, by the first character and the token. -/
abbrev TokenStore := SplitMap (Option UInt8) String ACTokenEntry

/-- `GenerateAccessToken`, once the token is made. -/
def generateAccessToken (store : TokenStore) (token : String) (entry : ACTokenEntry) (now : Int) :
    TokenStore :=
  SplitMap.put tokenHead store token { entry with expireTime := now + entry.openTime * second }

/-- `VerifyAccessToken`; `none` is the panic of `token[0:1]`. -/
def verifyAccessToken (store : TokenStore) (token : String) : Option (Option ACTokenEntry) :=
  if token = "" then none else some (SplitMap.find tokenHead store token)

/-- A pass of `tokenStoreRefreshRoutine`. -/
def refreshTokenStore (store : TokenStore) (now : Int) : TokenStore :=
  SplitMap.sweep (fun entry => decide (now ≤ entry.expireTime)) store

/-! ## Its tokens -/

instance : Expiring ACTokenEntry where
  openTime entry := entry.openTime * second
  expireTime entry := entry.expireTime
  setExpireTime entry t := { entry with expireTime := t }
  expireTime_set _ _ := rfl
  openTime_set _ _ := rfl

/-- The server's tokens. -/
def serverTokens (sm3 : Bytes → Bytes) (hostname : String) : Kind (Option UInt8) String ACTokenEntry where
  head := tokenHead
  crashes token := token = ""
  tokenOf entry currTime := accessToken sm3 hostname entry.user currTime
  late := 0
  prolongs := false

section

variable {sm3 : Bytes → Bytes} {hostname : String}

/-- The operations of the library's store at this instance are those of the source: the insertion, -/
theorem serverTokens_put (store : TokenStore) (token : String) (entry : ACTokenEntry) (now : Int) :
    (serverTokens sm3 hostname).put store token entry now = generateAccessToken store token entry now := by
  have hlate : (serverTokens sm3 hostname).late = 0 := rfl
  rw [Kind.put, hlate, Int.add_zero]
  rfl

/-- the look-up, -/
theorem serverTokens_verify (store : TokenStore) (token : String) :
    ((serverTokens sm3 hostname).verify store token).map (·.1) = verifyAccessToken store token := by
  by_cases hempty : token = ""
  · simp [Kind.verify, verifyAccessToken, serverTokens, hempty]
  · simp only [Kind.verify, verifyAccessToken, serverTokens, hempty, decide_false, Bool.false_eq_true,
      if_false, Kind.find]
    cases SplitMap.find tokenHead store token with
    | none => rfl
    | some entry => rfl

/-- and the refresh. -/
theorem refreshTokenStore_eq (store : TokenStore) (now : Int) :
    dropExpired store now = refreshTokenStore store now := rfl

end

/-! ## Sound stores -/

/-- In any run of tokens made and looked up, passes and times, on the AC and on the server: every look-up
    is defined and hands out only live entries of issued tokens, and no entry lives longer than its open
    time (and five seconds, on the AC) from its last use, exactly when no empty token is looked up, no
    entry after its expire time and, on the AC, none more than five seconds before it. -/
theorem tokens_sound_iff (sm3 : Bytes → Bytes) (acId hostname : String) (clock : Int) :
    (∀ events, Steps (step (acTokens sm3 acId)) (Sound (acTokens sm3 acId)) (.boot clock) events ↔
      Steps (step (acTokens sm3 acId)) (Timely (acTokens sm3 acId)) (.boot clock) events) ∧
    ∀ events, Steps (step (serverTokens sm3 hostname)) (Sound (serverTokens sm3 hostname)) (.boot clock)
        events ↔
      Steps (step (serverTokens sm3 hostname)) (Timely (serverTokens sm3 hostname)) (.boot clock) events :=
  ⟨sound_iff _ clock, sound_iff _ clock⟩

/-- An agent's user. -/
def sampleUser : AgentUser := ⟨"user1", "device", "org", "service"⟩

/-- An entry of the AC that opens for so long. -/
def sampleEntry (openTime : Int) : TokenEntry := ⟨⟨sampleUser, [], [], openTime⟩, 0⟩

/-- One of the server. -/
def sampleACTokenEntry (openTime : Int) : ACTokenEntry := ⟨sampleUser, "web", [], openTime, 0⟩

/-- The empty token on the AC and on the server; a token of one second, looked up after eight, on both; and
    a token of ten minutes that the AC is asked for after a second: it is kept for twenty. -/
theorem tokens_unsound :
    let ac := acTokens sampleSm3 "ac"
    let server := serverTokens sampleSm3 "host"
    let acToken := accessToken sampleSm3 "ac" sampleUser 0
    let serverToken := accessToken sampleSm3 "host" sampleUser 0
    ¬Steps (step ac) (Sound ac) (.boot 0) [.verify ""] ∧
    ¬Steps (step server) (Sound server) (.boot 0) [.verify ""] ∧
    ¬Steps (step ac) (Sound ac) (.boot 0)
      [.generate (sampleEntry 1) 0, .tick (8 * second), .verify acToken] ∧
    ¬Steps (step server) (Sound server) (.boot 0)
      [.generate (sampleACTokenEntry 1) 0, .tick (8 * second), .verify serverToken] ∧
    ¬Steps (step ac) (Sound ac) (.boot 0)
      [.generate (sampleEntry 600) 0, .tick second, .verify acToken] := by
  intro ac server acToken serverToken
  refine ⟨fun h => ?_, fun h => ?_, fun h => ?_, fun h => ?_, fun h => ?_⟩
  all_goals exact absurd ((sound_iff _ _ _).mp h) (by decide)

end OpenNHP.Server
