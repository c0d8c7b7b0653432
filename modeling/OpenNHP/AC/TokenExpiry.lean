/-
  The life of the AC's tokens (`endpoints/ac/tokenstore.go`).

  1. **The store** is one of `ExpiringStore`: an entry is kept for five seconds longer than it opens for, every
     look-up that finds it prolongs it by its open time, and `token[0:1]` panics on the empty token.  `acTokens` is
     that store with the access controller's own hash and clock.

  2. **The connection.**  `TokenStore` has the three functions as the source writes them.  Here each is shown to be
     what the library's store does, so that the results about expiring stores, which the server's store of tokens
     shares, hold of both.
-/
import OpenNHP.AC.TokenStore
import OpenNHP.Lib.ExpiringStore

namespace OpenNHP.AC

open BigEndian ExpiringStore

/-- `VerifyAccessToken`: the entry and the store it leaves; `none` is the panic of `token[0:1]`. -/
def verifyAccessToken (store : TokenStore) (token : String) : Option (Option TokenEntry × TokenStore) :=
  if token = "" then none
  else match store.found token with
    | none => some (none, store)
    | some entry => some (some (TokenStore.prolong entry), store.write token (TokenStore.prolong entry))

instance : Expiring TokenEntry where
  openTime entry := entry.openTime * second
  expireTime entry := entry.expireTime
  setExpireTime entry t := { entry with expireTime := t }
  expireTime_set _ _ := rfl
  openTime_set _ _ := rfl

/-- The AC's tokens. -/
def acTokens (sm3 : Bytes → Bytes) (acId : String) : Kind (Option UInt8) String TokenEntry where
  head := tokenHead
  crashes token := token = ""
  tokenOf entry currTime := accessToken sm3 acId entry.user currTime
  late := 5 * second
  prolongs := true

variable {sm3 : Bytes → Bytes} {acId : String}

/-- `GenerateAccessToken` puts an entry into the library's store, -/
theorem acTokens_put (store : TokenStore) (token : String) (entry : TokenEntry) (now : Int) :
    (acTokens sm3 acId).put store token entry now = store.add token entry.toAccessEntry now := by
  rw [TokenStore.add, Kind.put, Int.add_mul]
  rfl

/-- `VerifyAccessToken` looks one up in it, -/
theorem acTokens_verify (store : TokenStore) (token : String) :
    (acTokens sm3 acId).verify store token = verifyAccessToken store token := by
  by_cases hempty : token = ""
  · simp [Kind.verify, verifyAccessToken, acTokens, hempty]
  · simp only [Kind.verify, verifyAccessToken, acTokens, hempty, decide_false, Bool.false_eq_true, if_false,
      Kind.find, TokenStore.found]
    cases SplitMap.find tokenHead store token with
    | none => rfl
    | some entry => rfl

/-- and the routine's pass is the library's. -/
theorem dropExpired_eq (store : TokenStore) (now : Int) :
    dropExpired store now = store.dropExpired now := rfl

end OpenNHP.AC
