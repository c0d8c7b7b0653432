/-
  The tokens of the access controller: `endpoints/ac/tokenstore.go`.

  1. **Tokens.**  A token is the digest of who it is for and of the time it is made, as text in base64
     (`accessToken`).  The digest is a parameter: nothing here depends on what it is.

  2. **The store** keeps tokens in maps by their first byte, one map for each; an entry is found until the refresh
     routine drops it, and being found prolongs it by its open time.  The empty token has no first byte, and the
     code panics on it (`tokenHead`).

  3. **What the code uses of it** is a look-up (`found`), an addition (`add`), a write of an entry that is there
     (`write`, for the refresh of an agent) and the routine's pass (`dropExpired`).  The lemmas say what each does
     to every look-up; nothing else is used of the maps.
-/
import OpenNHP.AC.Operations
import OpenNHP.Lib.SplitMap

namespace OpenNHP.AC

open Inet BigEndian

/-! ## base64 -/

/-- The digit of the standard alphabet. -/
def base64Digit (n : Nat) : Char :=
  if n < 26 then Char.ofNat (65 + n)
  else if n < 52 then Char.ofNat (97 + (n - 26))
  else if n < 62 then Char.ofNat (48 + (n - 52))
  else if n = 62 then '+'
  else '/'

/-- Three bytes give four digits; what is left over is padded. -/
def base64Digits : Bytes → List Char
  | [] => []
  | [a] =>
    let n := a.toNat * 65536
    [base64Digit (n / 262144), base64Digit (n / 4096 % 64), '=', '=']
  | [a, b] =>
    let n := a.toNat * 65536 + b.toNat * 256
    [base64Digit (n / 262144), base64Digit (n / 4096 % 64), base64Digit (n / 64 % 64), '=']
  | a :: b :: c :: rest =>
    let n := a.toNat * 65536 + b.toNat * 256 + c.toNat
    base64Digit (n / 262144) :: base64Digit (n / 4096 % 64) :: base64Digit (n / 64 % 64) ::
      base64Digit (n % 64) :: base64Digits rest

/-- `base64.StdEncoding.EncodeToString`. -/
def base64 (data : Bytes) : String := String.ofList (base64Digits data)

example : base64 [77, 97, 110, 77, 97] = "TWFuTWE=" := by decide

/-! ## Tokens and entries -/

/-- A second in nanoseconds. -/
def second : Int := 1000000000

/-- The token made for a user at a time, in nanoseconds; the hash is SM3. -/
def accessToken (sm3 : Bytes → Bytes) (acId : String) (au : AgentUser) (currTime : Int) : String :=
  let id := acId ++ au.userId ++ au.deviceId ++ au.organizationId ++ au.authServiceId
  base64 (sm3 (id.toUTF8.data.toList ++ putBE 8 (currTime % 18446744073709551616).toNat))

/-- `AccessEntry` with its `ExpireTime`. -/
structure TokenEntry extends AccessEntry where
  expireTime : Int

/-- `token[0:1]`: the first byte, if there is one. -/
def tokenHead (token : String) : Option UInt8 := token.toUTF8.data.toList.head?

/-- Maps of tokens, by the first byte of the token. -/
abbrev TokenStore := SplitMap (Option UInt8) String TokenEntry

namespace TokenStore

/-- The entry under a token. -/
def found (store : TokenStore) (token : String) : Option TokenEntry := SplitMap.find tokenHead store token

/-- `GenerateAccessToken`, once the token is made: the entry is kept for five seconds longer than it opens
    for. -/
def add (store : TokenStore) (token : String) (entry : AccessEntry) (now : Int) : TokenStore :=
  SplitMap.put tokenHead store token { entry with expireTime := now + (entry.openTime + 5) * second }

/-- What `VerifyAccessToken` writes to the entry it has found. -/
def prolong (entry : TokenEntry) : TokenEntry :=
  { entry with expireTime := entry.expireTime + entry.openTime * second }

/-- An entry is a pointer: what is written to it is in the store. -/
def write (store : TokenStore) (token : String) (entry : TokenEntry) : TokenStore :=
  SplitMap.put tokenHead store token entry

/-- A pass of `tokenStoreRefreshRoutine`. -/
def dropExpired (store : TokenStore) (now : Int) : TokenStore :=
  SplitMap.sweep (fun entry => decide (now ≤ entry.expireTime)) store

variable {store : TokenStore} {token : String}

/-- Nothing is found in an empty store. -/
@[simp] theorem found_empty : found ∅ token = none := rfl

/-- A write is found under its own token. -/
theorem found_write {entry : TokenEntry} (token' : String) :
    (store.write token entry).found token' = if token' = token then some entry else store.found token' :=
  SplitMap.find_put token'

/-- An addition too, with its end: five seconds behind the open time. -/
theorem found_add {entry : AccessEntry} {now : Int} (token' : String) :
    (store.add token entry now).found token' =
      if token' = token then some { entry with expireTime := now + (entry.openTime + 5) * second }
      else store.found token' :=
  SplitMap.find_put token'

/-- What is still found behind a pass was found before it. -/
theorem found_dropExpired {now : Int} {entry : TokenEntry} :
    (store.dropExpired now).found token = some entry ↔
      store.found token = some entry ∧ now ≤ entry.expireTime := by
  rw [found, dropExpired, SplitMap.find_sweep, Option.filter_eq_some_iff, decide_eq_true_iff]
  rfl

end TokenStore

end OpenNHP.AC
