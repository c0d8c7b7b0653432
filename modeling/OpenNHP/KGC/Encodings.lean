/-
  How the keys of the centre are stored and printed (`endpoints/kgc/kgc.go`, `user/user.go`, `main/main.go`).

  THE PROGRAM.  A point is written as the bytes of its first coordinate and those of its second, without leading
  zeros and with nothing between them, and is read by cutting at the length of a full coordinate.  A private key
  is written as its bytes.

  THE SPECIFICATION.  A key that is stored or printed is the key that is loaded again.

  WHERE IT FAILS.  A first coordinate with a leading zero is cut in the wrong place (`leading_zero_rejected`), and
  a configuration file without a place for the master key loses it.

  ASSEMBLY.  A point comes back exactly when its first coordinate has the full length (`decodeDeclared_iff`); for
  a user's key that is all (`userKeyKept_iff`), and the master key comes back when besides the configuration file
  has a place for it (`masterKey_reload_iff`, `encodings_iff`).
-/
import OpenNHP.KGC.Keys
import OpenNHP.KGC.ConfigFile

namespace OpenNHP.KGC

open BigEndian
open Fallible (bind_eq_ok eq_ok_of_toOption)
open ConfigFile (Config savedFile ReadsPlain Plain TakesKeys)

/-! ## The master key -/

/-- `GenerateMasterKey` with what the reading and the writing of the file return: the key, and the file as it
    is now. -/
def generateMasterKey (c : Curve) (draw : Draw c) (readFile : Except Failure Bytes)
    (writeFile : Except Failure Unit) : Except Failure (MasterKey × Bytes) := do
  let masterKey ← newMasterKey c draw
  let content ← readFile
  let content := ConfigFile.updateValueWithKey content ConfigFile.masterPrivateName
    (Base64.encodeToString (bytes masterKey.ms))
  let pubKeyBytes := bytes masterKey.ppubX ++ bytes masterKey.ppubY
  let content := ConfigFile.updateValueWithKey content ConfigFile.masterPublicName
    (Base64.encodeToString pubKeyBytes)
  writeFile
  return (masterKey, content)

/-- `NewKGCImplFromConfig`, over the SM2 curve and the SM3 hash, with the library that reads TOML. -/
def newKGCImplFromConfig (sm2 : Curve) (sm3 : Bytes → Bytes) (unmarshal : Bytes → Except Failure Config)
    (readFile : Except Failure Bytes) : Except Failure KGCImpl := do
  let content ← readFile
  let config ← unmarshal content
  if config.masterPrivateKeyBase64 = [] ∨ config.masterPublicKeyBase64 = [] then
    .error (.err "master key is not set, please execuute setup command first")
  else do
    let masterPrivateKey ← decodeBase64 config.masterPrivateKeyBase64
    let masterPublicKey ← decodeBase64 config.masterPublicKeyBase64
    if config.defaultCipherScheme = 0 then
      if masterPublicKey.length < 32 then .error .panic
      else
        .ok {
          curve := sm2
          h := sm3
          masterKey := {
            ms := getBE masterPrivateKey
            ppubX := getBE (masterPublicKey.take 32)
            ppubY := getBE (masterPublicKey.drop 32) } }
    else .error (.err s!"not support default cipher scheme {config.defaultCipherScheme}")

/-! ## The user's key -/

/-- The declared public key, as it is printed. -/
def UserFullKey.declaredText (full : UserFullKey) : Bytes :=
  Base64.encodeToString (bytes full.pubX ++ bytes full.pubY)

/-- The private key, as it is printed. -/
def UserFullKey.privateText (full : UserFullKey) : Bytes := Base64.encodeToString (bytes full.privateKey)

/-- The private key that a text stands for. -/
def newUserFullKeyWithPrivateKey (prkBase64 : Bytes) : Except Failure Nat := do
  let prk ← decodeBase64 prkBase64
  return getBE prk

/-- The check of the `verify` command: the public key is computed in two ways. -/
def UserImpl.verifyFullKey (u : UserImpl) (fullKey : UserFullKey) (userId : Bytes) : Except Failure Unit := do
  let userPub ← u.calculateFullPublicKey fullKey.declaredText userId
  let userPubFromPrk ← u.curve.scalarBaseMult (bytes fullKey.privateKey)
  if userPub.1 ≠ userPubFromPrk.1 ∨ userPub.2 ≠ userPubFromPrk.2 then
    .error (.err "full key verification failed")
  else .ok ()

/-- What is printed of a user's key stands for the key, and the key passes its verification. -/
structure UserKeyKept (u : UserImpl) (full : UserFullKey) (userId : Bytes) : Prop where
  privateKey : newUserFullKeyWithPrivateKey full.privateText = .ok full.privateKey
  declared : u.decodeDeclared full.declaredText = .ok (full.pubX, full.pubY)
  accepted : u.verifyFullKey full userId = .ok ()

/-! ## Cutting a declared key -/

/-- A declared key is read as it was printed exactly when its first coordinate has full length. -/
theorem decodeDeclared_iff {u : UserImpl} {full : UserFullKey} :
    u.decodeDeclared full.declaredText = .ok (full.pubX, full.pubY) ↔
      byteLength full.pubX = u.curve.params.byteLen := by
  by_cases hlong : u.curve.params.byteLen ≤ (bytes full.pubX ++ bytes full.pubY).length
  · rw [UserFullKey.declaredText, decodeDeclared_encode hlong, Except.ok.injEq, Prod.mk.injEq]
    exact split_iff hlong
  · have hpanic : u.decodeDeclared full.declaredText = .error .panic := by
      rw [UserImpl.decodeDeclared, UserFullKey.declaredText, decodeBase64_encode]
      exact if_pos (Nat.lt_of_not_le hlong)
    rw [List.length_append, length_bytes, length_bytes] at hlong
    refine iff_of_false ?_ (by omega)
    rw [hpanic]
    intro hpanicked
    cases hpanicked

/-- A private key is read back. -/
theorem privateKey_kept (full : UserFullKey) :
    newUserFullKeyWithPrivateKey full.privateText = .ok full.privateKey := by
  rw [newUserFullKeyWithPrivateKey, UserFullKey.privateText, decodeBase64_encode]
  exact congrArg Except.ok (getBE_bytes _)

section UserKey

variable {c : Curve} {E : Type} [AddCommGroup E] (law : GroupLaw c E) {h : Bytes → Bytes} {masterKey : MasterKey}
include law

/-- A key that fits the key equation passes its verification where its point is read as it was printed. -/
theorem verifyFullKey_ok (hmaster : masterKey.Matched c) {userId : Bytes} {full : UserFullKey} {W : E}
    (hW : law.point W = (full.pubX, full.pubY))
    (hkey : full.privateKey • law.base =
      W + lamda c h masterKey (law.point W) userId • (masterKey.ms • law.base))
    (hdeclared : (newUser c h masterKey).decodeDeclared full.declaredText = .ok (full.pubX, full.pubY)) :
    (newUser c h masterKey).verifyFullKey full userId = .ok () := by
  rw [← hW] at hdeclared
  have hpublic := calculateFullPublicKey_point law hmaster userId hdeclared
  rw [UserImpl.verifyFullKey, hpublic, ← hkey]
  show (c.scalarBaseMult (bytes full.privateKey) >>= _) = _
  rw [law.scalarBaseMult_eq, getBE_bytes]
  exact if_neg fun hne => hne.elim (fun h => h rfl) fun h => h rfl

/-- A generated key is kept exactly when the first coordinate of its declared point has full length. -/
theorem userKeyKept_iff (hmaster : masterKey.Matched c) {userId : Bytes} {drawUser drawW : Draw c}
    {userKey : UserPartialKey} {kgcKey : KGCUserPartialKey} {full : UserFullKey}
    (huser : (newUser c h masterKey).generateUserPartialKey drawUser = .ok userKey)
    (hkgc : (KGCImpl.mk c h masterKey).generateKGCUserPartialKey userId (userKey.pubX, userKey.pubY) drawW =
      .ok kgcKey)
    (hfull : (newUser c h masterKey).generateUserFullKey kgcKey userKey = .ok full) :
    UserKeyKept (newUser c h masterKey) full userId ↔ byteLength full.pubX = c.params.byteLen := by
  obtain ⟨W, hW, hkey⟩ := fullKey_point law huser hkgc hfull
  constructor
  · intro hkept
    exact decodeDeclared_iff.mp hkept.declared
  · intro hlength
    have hdeclared := decodeDeclared_iff (u := newUser c h masterKey).mpr hlength
    exact {
      privateKey := privateKey_kept full
      declared := hdeclared
      accepted := verifyFullKey_ok law hmaster hW hkey hdeclared }

end UserKey

/-! ## Reading the master key back -/

/-- Everything a master key that was reported as saved is. -/
theorem generateMasterKey_eq_ok {c : Curve} {draw : Draw c} {content : Bytes} {writeFile : Except Failure Unit}
    {masterKey : MasterKey} {saved : Bytes}
    (h : generateMasterKey c draw (.ok content) writeFile = .ok (masterKey, saved)) :
    masterKey.ms ≠ 0 ∧ masterKey.Matched c ∧ saved = savedFile content
      (Base64.encodeToString (bytes masterKey.ms))
      (Base64.encodeToString (bytes masterKey.ppubX ++ bytes masterKey.ppubY)) := by
  obtain ⟨key, hkey, h⟩ := bind_eq_ok h
  obtain ⟨content', hcontent, h⟩ := bind_eq_ok h
  obtain ⟨-, -, h⟩ := bind_eq_ok h
  obtain rfl := Except.ok.inj hcontent
  obtain ⟨rfl, rfl⟩ := Prod.mk.inj (Except.ok.inj h)
  refine ⟨?_, newMasterKey_matched hkey, rfl⟩
  obtain ⟨ms, hms, hkey⟩ := bind_eq_ok hkey
  obtain ⟨ppub, -, hkey⟩ := bind_eq_ok hkey
  obtain rfl := Except.ok.inj hkey
  exact (generateRandomNumber_eq_ok hms).1.ne'

/-- Reading a file in which the library finds two Base64 texts and the scheme 0. -/
theorem newKGCImplFromConfig_encode {sm2 : Curve} {sm3 : Bytes → Bytes}
    {unmarshal : Bytes → Except Failure Config} {saved masterPrivateKey masterPublicKey : Bytes}
    (hread : unmarshal saved = .ok ⟨Base64.encodeToString masterPrivateKey,
      Base64.encodeToString masterPublicKey, 0⟩)
    (hprivate : masterPrivateKey ≠ []) (hlong : 32 ≤ masterPublicKey.length) :
    newKGCImplFromConfig sm2 sm3 unmarshal (.ok saved) = .ok {
      curve := sm2
      h := sm3
      masterKey := {
        ms := getBE masterPrivateKey
        ppubX := getBE (masterPublicKey.take 32)
        ppubY := getBE (masterPublicKey.drop 32) } } := by
  have hpublic : masterPublicKey ≠ [] := by
    rintro rfl
    exact absurd hlong (by decide)
  have hset : ¬(Base64.encodeToString masterPrivateKey = [] ∨ Base64.encodeToString masterPublicKey = []) := by
    rintro (hempty | hempty)
    · exact Base64.encodeToString_ne_nil hprivate hempty
    · exact Base64.encodeToString_ne_nil hpublic hempty
  rw [newKGCImplFromConfig]
  show (unmarshal saved >>= _) = _
  rw [hread]
  show (if _ then _ else _) = _
  rw [if_neg hset, decodeBase64_encode]
  show (decodeBase64 (Base64.encodeToString masterPublicKey) >>= _) = _
  rw [decodeBase64_encode]
  show (if _ then _ else _) = _
  exact if_neg (Nat.not_lt.mpr hlong)

/-- What a successful reading has found. -/
theorem newKGCImplFromConfig_eq_ok {sm2 : Curve} {sm3 : Bytes → Bytes}
    {unmarshal : Bytes → Except Failure Config} {saved : Bytes} {k : KGCImpl}
    (h : newKGCImplFromConfig sm2 sm3 unmarshal (.ok saved) = .ok k) :
    ∃ config masterPublicKey, unmarshal saved = .ok config ∧ config.masterPrivateKeyBase64 ≠ [] ∧
      config.masterPublicKeyBase64 ≠ [] ∧ config.defaultCipherScheme = 0 ∧
      decodeBase64 config.masterPublicKeyBase64 = .ok masterPublicKey ∧ 32 ≤ masterPublicKey.length ∧
      k.masterKey.ppubX = getBE (masterPublicKey.take 32) := by
  obtain ⟨content, hcontent, h⟩ := bind_eq_ok h
  obtain rfl := Except.ok.inj hcontent
  obtain ⟨config, hconfig, h⟩ := bind_eq_ok h
  by_cases hset : config.masterPrivateKeyBase64 = [] ∨ config.masterPublicKeyBase64 = []
  · rw [if_pos hset] at h
    cases h
  rw [if_neg hset] at h
  obtain ⟨masterPrivateKey, -, h⟩ := bind_eq_ok h
  obtain ⟨masterPublicKey, hpublic, h⟩ := bind_eq_ok h
  split_ifs at h with hscheme hshort
  obtain rfl := Except.ok.inj h
  exact ⟨config, masterPublicKey, hconfig, fun hempty => hset (.inl hempty), fun hempty => hset (.inr hempty),
    hscheme, hpublic, Nat.le_of_not_lt hshort, rfl⟩

/-- A master key that was reported as saved is read back exactly when the first coordinate of its point has 32
    bytes and the file had a place for it. -/
theorem masterKey_reload_iff {c : Curve} {sm3 : Bytes → Bytes} {unmarshal : Bytes → Except Failure Config}
    (htoml : ReadsPlain unmarshal) {draw : Draw c} {content : Bytes} (hplain : Plain content)
    {writeFile : Except Failure Unit} {masterKey : MasterKey} {saved : Bytes}
    (hsaved : generateMasterKey c draw (.ok content) writeFile = .ok (masterKey, saved)) :
    newKGCImplFromConfig c sm3 unmarshal (.ok saved) = .ok ⟨c, sm3, masterKey⟩ ↔
      byteLength masterKey.ppubX = 32 ∧ TakesKeys content := by
  obtain ⟨hms, -, rfl⟩ := generateMasterKey_eq_ok hsaved
  have hprivate := ConfigFile.isText_encodeToString (bytes masterKey.ms)
  have hpublic := ConfigFile.isText_encodeToString (bytes masterKey.ppubX ++ bytes masterKey.ppubY)
  have hread := htoml _ (ConfigFile.plain_saved hprivate hpublic hplain)
  rw [ConfigFile.entries_saved hprivate hpublic] at hread
  constructor
  · intro hreload
    obtain ⟨config, masterPublicKey, hconfig, hsetPrivate, hsetPublic, hscheme, hdecode, hlong, hx⟩ :=
      newKGCImplFromConfig_eq_ok hreload
    -- what was read is not empty, so the file had a line for each key
    rw [hconfig] at hread
    have htakes : TakesKeys content :=
      ConfigFile.takesKeys_of_read hread.symm hsetPrivate hsetPublic hscheme
    rw [ConfigFile.readEntries_saved htakes] at hread
    obtain rfl := Option.some.inj hread
    rw [decodeBase64_encode] at hdecode
    obtain rfl := Except.ok.inj hdecode
    exact ⟨(getBE_take_iff hlong).mp hx.symm, htakes⟩
  · rintro ⟨hlength, htakes⟩
    rw [ConfigFile.readEntries_saved htakes] at hread
    have hconfig := eq_ok_of_toOption hread
    have hlong : 32 ≤ (bytes masterKey.ppubX ++ bytes masterKey.ppubY).length := by
      rw [List.length_append, length_bytes]
      omega
    have hnonempty : bytes masterKey.ms ≠ [] := by
      intro hempty
      have hlen := congrArg List.length hempty
      rw [length_bytes] at hlen
      exact hms (byteLength_eq_zero.mp hlen)
    -- the cut at 32 bytes is where the first coordinate ends
    obtain ⟨hx, hy⟩ := (split_iff hlong).mpr hlength
    rw [newKGCImplFromConfig_encode hconfig hnonempty hlong, hx, hy, getBE_bytes]

/-- For every master key that was reported as saved and every user's key: the master key is read back exactly
    when the first coordinate of its point has 32 bytes and the file had a place for it; and what is printed of
    the user's key stands for it, and passes its verification, exactly when the first coordinate of the
    declared point has full length. -/
theorem encodings_iff {c : Curve} {E : Type} [AddCommGroup E] (law : GroupLaw c E) {h : Bytes → Bytes}
    {unmarshal : Bytes → Except Failure Config} (htoml : ReadsPlain unmarshal) {draw : Draw c} {content : Bytes}
    (hplain : Plain content) {writeFile : Except Failure Unit} {masterKey : MasterKey} {saved : Bytes}
    (hsaved : generateMasterKey c draw (.ok content) writeFile = .ok (masterKey, saved)) {userId : Bytes}
    {drawUser drawW : Draw c} {userKey : UserPartialKey} {kgcKey : KGCUserPartialKey} {full : UserFullKey}
    (huser : (newUser c h masterKey).generateUserPartialKey drawUser = .ok userKey)
    (hkgc : (KGCImpl.mk c h masterKey).generateKGCUserPartialKey userId (userKey.pubX, userKey.pubY) drawW =
      .ok kgcKey)
    (hfull : (newUser c h masterKey).generateUserFullKey kgcKey userKey = .ok full) :
    (newKGCImplFromConfig c h unmarshal (.ok saved) = .ok ⟨c, h, masterKey⟩ ↔
      byteLength masterKey.ppubX = 32 ∧ TakesKeys content) ∧
    (UserKeyKept (newUser c h masterKey) full userId ↔ byteLength full.pubX = c.params.byteLen) :=
  ⟨masterKey_reload_iff htoml hplain hsaved,
    userKeyKept_iff law (generateMasterKey_eq_ok hsaved).2.1 huser hkgc hfull⟩

/-! ## A key of full length, and one with a leading zero -/

/-- A curve over the field of SM2 with a base point of order three. -/
def threeParams : CurveParams where
  P := 0xFFFFFFFEFFFFFFFFFFFFFFFFFFFFFFFFFFFFFFFF00000000FFFFFFFFFFFFFFFF
  N := 3
  A := 0x4efd94ae9d5a5afc9b53ea80e6b480239303d66b3c16eb01be630fb325fefd1d
  B := 0x458fde06631bf3e6a48676ce1ada3f0bba0d2cc3fe4161a68561e24313be7817
  Gx := 0xe029964a24a3caf6ac717b2af5365181270c6caed934bbe0eaf3b3417c7d5fed
  Gy := 0x8000000000000000000000000000000000000000000000000000000000003039
  BitSize := 256

/-- A curve with three points, of which everything is computed. -/
def threeCurve : Curve := CustomStandardCurve.curve threeParams

/-- The multiples of the base point. -/
def threePoint (P : ZMod 3) : Nat × Nat :=
  if P = 0 then (0, 0)
  else if P = 1 then (threeParams.Gx, threeParams.Gy)
  else (threeParams.Gx, threeParams.P - threeParams.Gy)

/-- Its addition, -/
theorem add_threePoint : ∀ P Q : ZMod 3,
    CustomStandardCurve.add threeParams (threePoint P) (threePoint Q) = .ok (threePoint (P + Q)) := by
  decide +kernel

/-- which is that of the numbers modulo three. -/
def threeLaw : GroupLaw threeCurve (ZMod 3) where
  point := threePoint
  base := 1
  point_zero := rfl
  point_injective := by decide +kernel
  coordinates_lt := by decide +kernel
  add_point := add_threePoint
  scalarMult_point := CustomStandardCurve.scalarMult_point add_threePoint rfl
  scalarBaseMult_eq := CustomStandardCurve.scalarMult_point add_threePoint rfl 1
  order := by decide
  order_prime := Nat.prime_three
  base_ne_zero := by decide

/-- A master key on it, -/
def threeMaster : MasterKey where
  ms := 1
  ppubX := threeParams.Gx
  ppubY := threeParams.Gy

/-- a user's part, -/
def threeUserKey : UserPartialKey where
  privateKey := 1
  pubX := threeParams.Gx
  pubY := threeParams.Gy

/-- the centre's part, -/
def threeKgcKey : KGCUserPartialKey where
  id := smallId
  t := 1
  wx := threeParams.Gx
  wy := threeParams.P - threeParams.Gy

/-- and the key of both. -/
def threeFullKey : UserFullKey where
  privateKey := 2
  pubX := threeParams.Gx
  pubY := threeParams.P - threeParams.Gy

/-- A configuration file in which no keys are set yet. -/
def freshConfig : Bytes :=
  "# KGC base config\n\nMasterPrivateKeyBase64 = \"\"\nMasterPublicKeyBase64 = \"\"\nDefaultCipherScheme = 0\n".toUTF8.data.toList

/-- The configuration file with the master key in it. -/
def threeSaved : Bytes := savedFile freshConfig (Base64.encodeToString (bytes threeMaster.ms))
  (Base64.encodeToString (bytes threeMaster.ppubX ++ bytes threeMaster.ppubY))

/-- A library that reads plain files. -/
def plainToml (content : Bytes) : Except Failure Config :=
  match ConfigFile.readEntries (ConfigFile.entries (content.splitOn 10)) with
  | some config => .ok config
  | none => .error (.err "toml")

/-- The sample reader reads plain files. -/
theorem readsPlain_plainToml : ReadsPlain plainToml := by
  intro content _
  rw [plainToml]
  cases ConfigFile.readEntries _ with
  | none => rfl
  | some config => rfl

/-- The sample file is one, and has a place for the keys. -/
theorem freshConfig_plain_takesKeys : Plain freshConfig ∧ TakesKeys freshConfig := by
  have hentries : ConfigFile.entries (ConfigFile.otherLines freshConfig) =
      [(ConfigFile.schemeName, .int 0)] := by decide +kernel
  have hlines : Plain freshConfig ∧
      (freshConfig.splitOn 10).countP (ConfigFile.masterPrivateName <+: ·) = 1 ∧
      (freshConfig.splitOn 10).countP (ConfigFile.masterPublicName <+: ·) = 1 := by decide +kernel
  obtain ⟨hplain, hprivate, hpublic⟩ := hlines
  refine ⟨hplain, hprivate, hpublic, ?_, ?_⟩
  · rw [hentries]
    exact List.nodup_singleton _
  · intro value hmem
    rw [hentries] at hmem
    exact congrArg Prod.snd (List.mem_singleton.mp hmem)

/-- The master key is made and saved, and a user's keys are made with it. -/
theorem threeKeys_eq :
    generateMasterKey threeCurve (.ok (1 : Fin 3)) (.ok freshConfig) (.ok ()) = .ok (threeMaster, threeSaved) ∧
    (newUser threeCurve smallHash threeMaster).generateUserPartialKey (.ok (1 : Fin 3)) = .ok threeUserKey ∧
    (KGCImpl.mk threeCurve smallHash threeMaster).generateKGCUserPartialKey smallId
      (threeUserKey.pubX, threeUserKey.pubY) (.ok (1 : Fin 3)) = .ok threeKgcKey ∧
    (newUser threeCurve smallHash threeMaster).generateUserFullKey threeKgcKey threeUserKey =
      .ok threeFullKey := by
  decide +kernel

/-- Both keys come back. -/
theorem encodings_three :
    newKGCImplFromConfig threeCurve smallHash plainToml (.ok threeSaved) =
      .ok ⟨threeCurve, smallHash, threeMaster⟩ ∧
    UserKeyKept (newUser threeCurve smallHash threeMaster) threeFullKey smallId := by
  obtain ⟨hsaved, huser, hkgc, hfull⟩ := threeKeys_eq
  obtain ⟨hplain, htakes⟩ := freshConfig_plain_takesKeys
  have hiff := encodings_iff threeLaw readsPlain_plainToml hplain hsaved huser hkgc hfull
  exact ⟨hiff.1.mpr ⟨by decide +kernel, htakes⟩, hiff.2.mpr (by decide +kernel)⟩

/-- On the small curve a coordinate has two bytes, and the `x` of this key is 51: the centre generates the
    key, and it does not pass its own verification. -/
theorem leading_zero_rejected :
    (KGCImpl.mk smallCurve smallHash smallMaster).generateKGCUserPartialKey smallId
      (smallUserKey.pubX, smallUserKey.pubY) (.ok (11 : Fin 499)) = .ok smallKgcKey ∧
    (newUser smallCurve smallHash smallMaster).generateUserFullKey smallKgcKey smallUserKey =
      .ok smallFullKey ∧
    byteLength smallFullKey.pubX = 1 ∧ smallCurve.params.byteLen = 2 ∧
    (newUser smallCurve smallHash smallMaster).verifyFullKey smallFullKey smallId ≠ .ok () :=
  ⟨smallKgcKey_eq, smallFullKey_eq, by decide +kernel⟩

end OpenNHP.KGC
