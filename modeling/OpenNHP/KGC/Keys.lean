/-
  Keys without certificates (`endpoints/kgc/kgc.go`, `utils.go`, `user/user.go`).

  THE PROGRAM.  A user and the centre make a key together: the user draws a secret, the centre adds a point of its
  own to the user's and signs the sum `W` with the master secret, and the user adds the two scalars.  Anyone who
  has `W`, the user's id and the master's public key can compute the user's public key.

  THE SPECIFICATION.  The public key that is computed is that of the private key (`key_equation`).

  THE CRUX.  Both sides hash the same bytes, in programs of their own, so there is one `lamda`.  The rest is one
  equation in the group, `(t + d) G = W + lamda Ppub`, of which each function computes a part; what is reduced
  modulo the order in between is a multiple of the base point and does not show.

  ASSEMBLY.  One lemma says what each function returns where it does not fail (`*_eq_ok`), one that none of them
  fails but by its draw (`keys_total`), and `fullKey_point` and `calculateFullPublicKey_point` are the two sides.
-/
import OpenNHP.KGC.Weierstrass
import OpenNHP.Lib.Base64
import OpenNHP.Lib.Fallible

namespace OpenNHP.KGC

open BigEndian
open Fallible (bind_eq_ok)

/-! ## Random numbers -/

/-- What `rand.Int` returns: a number below the order, or the reader's error. -/
abbrev Draw (c : Curve) : Type := Except Failure (Fin c.params.N)

/-- A number that is drawn; zero is an error. -/
def generateRandomNumber {N : Nat} : Except Failure (Fin N) → Except Failure Nat
  | .error e => .error e
  | .ok r => if r.val = 0 then .error (.err "random number is zero") else .ok r.val

/-! ## The key generation centre -/

/-- `MasterKey`. -/
structure MasterKey where
  ms : Nat
  ppubX : Nat
  ppubY : Nat
  deriving DecidableEq

/-- What the centre gives a user. -/
structure KGCUserPartialKey where
  id : Bytes
  t : Nat
  wx : Nat
  wy : Nat
  deriving DecidableEq

/-- `KGCImpl`: `Params` is that of the embedded curve, and the hash is `Write`, `Sum` and `Reset`. -/
structure KGCImpl where
  curve : Curve
  h : Bytes → Bytes
  masterKey : MasterKey

/-- The master key that `GenerateMasterKey` makes. -/
def newMasterKey (c : Curve) (draw : Draw c) : Except Failure MasterKey := do
  let ms ← generateRandomNumber draw
  let ppub ← c.scalarBaseMult (bytes ms)
  return { ms := ms, ppubX := ppub.1, ppubY := ppub.2 }

/-- The bytes that are hashed first, on both sides: the id behind its length in two bytes, the curve and the
    master's public key. -/
def info (c : Curve) (masterKey : MasterKey) (userId : Bytes) : Bytes :=
  UInt8.ofNat (userId.length / 256) :: UInt8.ofNat userId.length :: userId ++ bytes c.params.A ++
    bytes c.params.B ++ bytes c.params.Gx ++ bytes c.params.Gy ++ bytes masterKey.ppubX ++
    bytes masterKey.ppubY

/-- The scalar of a declared public key, computed alike on both sides. -/
def lamda (c : Curve) (h : Bytes → Bytes) (masterKey : MasterKey) (declaredPub : Nat × Nat)
    (userId : Bytes) : Nat :=
  let infoHash := h (info c masterKey userId)
  getBE (h (bytes declaredPub.1 ++ bytes declaredPub.2 ++ infoHash)) % c.params.N

/-- `GenerateKGCUserPartialKey`. -/
def KGCImpl.generateKGCUserPartialKey (k : KGCImpl) (userId : Bytes) (userPartialPub : Nat × Nat)
    (draw : Draw k.curve) : Except Failure KGCUserPartialKey := do
  let w ← generateRandomNumber draw
  let wxy ← k.curve.scalarBaseMult (bytes w)
  let declaredUserPub ← k.curve.add wxy userPartialPub
  let t := (w + lamda k.curve k.h k.masterKey declaredUserPub userId * k.masterKey.ms) % k.curve.params.N
  return { id := userId, t := t, wx := declaredUserPub.1, wy := declaredUserPub.2 }

/-! ## The user -/

/-- What a user has drawn. -/
structure UserPartialKey where
  privateKey : Nat
  pubX : Nat
  pubY : Nat
  deriving DecidableEq

/-- The key of both. -/
structure UserFullKey where
  privateKey : Nat
  pubX : Nat
  pubY : Nat
  deriving DecidableEq

/-- The bytes of a Base64 text, or the decoder's error. -/
def decodeBase64 (text : Bytes) : Except Failure Bytes :=
  match Base64.decodeString text with
  | (decoded, true) => .ok decoded
  | (_, false) => .error .corruptInput

/-- A user, with what is public of the centre. -/
structure UserImpl where
  curve : Curve
  h : Bytes → Bytes
  masterKey : MasterKey

/-- `NewUser`. -/
def newUser (curve : Curve) (h : Bytes → Bytes) (masterKey : MasterKey) : UserImpl where
  curve := curve
  h := h
  masterKey := masterKey

/-- The user of a centre, as the commands make it. -/
def KGCImpl.user (k : KGCImpl) : UserImpl := newUser k.curve k.h k.masterKey

namespace UserImpl

variable (u : UserImpl)

/-- `GenerateUserPartialKey`. -/
def generateUserPartialKey (draw : Draw u.curve) : Except Failure UserPartialKey := do
  let partialPrivateKey ← generateRandomNumber draw
  let partialPub ← u.curve.scalarBaseMult (bytes partialPrivateKey)
  return { privateKey := partialPrivateKey, pubX := partialPub.1, pubY := partialPub.2 }

/-- `GenerateUserFullKey`. -/
def generateUserFullKey (kgcUserPartialKey : KGCUserPartialKey) (userPartialKey : UserPartialKey) :
    Except Failure UserFullKey :=
  let fullPrivateKey := (kgcUserPartialKey.t + userPartialKey.privateKey) % u.curve.params.N
  if fullPrivateKey = 0 then
    .error (.err "full key generation failed, please regenerate user partial key")
  else
    .ok { privateKey := fullPrivateKey, pubX := kgcUserPartialKey.wx, pubY := kgcUserPartialKey.wy }

/-- The two coordinates in a declared public key; cutting a short one is out of range. -/
def decodeDeclared (declaredPbkBase64 : Bytes) : Except Failure (Nat × Nat) := do
  let declaredPbk ← decodeBase64 declaredPbkBase64
  if declaredPbk.length < u.curve.params.byteLen then .error .panic
  else .ok (getBE (declaredPbk.take u.curve.params.byteLen), getBE (declaredPbk.drop u.curve.params.byteLen))

/-- `CalculateFullPublicKey`. -/
def calculateFullPublicKey (declaredPbkBase64 userId : Bytes) : Except Failure (Nat × Nat) := do
  let declaredPbk ← u.decodeDeclared declaredPbkBase64
  let lamda := lamda u.curve u.h u.masterKey declaredPbk userId
  let scaleMasterPub ← u.curve.scalarMult (u.masterKey.ppubX, u.masterKey.ppubY) (bytes lamda)
  u.curve.add declaredPbk scaleMasterPub

end UserImpl

/-- The public key goes with the secret. -/
def MasterKey.Matched (masterKey : MasterKey) (c : Curve) : Prop :=
  c.scalarBaseMult (bytes masterKey.ms) = .ok (masterKey.ppubX, masterKey.ppubY)

instance (masterKey : MasterKey) (c : Curve) : Decidable (masterKey.Matched c) :=
  inferInstanceAs (Decidable (_ = _))

/-- A declared public key as two coordinates of full length. -/
def fixedDeclared (c : Curve) (pub : Nat × Nat) : Bytes :=
  Base64.encodeToString (putBE c.params.byteLen pub.1 ++ putBE c.params.byteLen pub.2)

/-! ## What the calls compute -/

/-- A number that was drawn is in the range. -/
theorem generateRandomNumber_eq_ok {N r : Nat} {draw : Except Failure (Fin N)}
    (h : generateRandomNumber draw = .ok r) : 0 < r ∧ r < N := by
  rcases draw with e | r'
  · cases h
  · rw [generateRandomNumber] at h
    split_ifs at h with hzero
    obtain rfl := Except.ok.inj h
    exact ⟨Nat.pos_of_ne_zero hzero, r'.isLt⟩

/-- The two master keys belong together, -/
theorem newMasterKey_matched {c : Curve} {draw : Draw c} {masterKey : MasterKey}
    (h : newMasterKey c draw = .ok masterKey) : masterKey.Matched c := by
  obtain ⟨ms, -, h⟩ := bind_eq_ok h
  obtain ⟨ppub, hppub, h⟩ := bind_eq_ok h
  obtain rfl := Except.ok.inj h
  exact hppub

/-- and so do the user's. -/
theorem generateUserPartialKey_eq_ok {u : UserImpl} {draw : Draw u.curve} {key : UserPartialKey}
    (h : u.generateUserPartialKey draw = .ok key) :
    u.curve.scalarBaseMult (bytes key.privateKey) = .ok (key.pubX, key.pubY) := by
  obtain ⟨partialPrivateKey, -, h⟩ := bind_eq_ok h
  obtain ⟨partialPub, hpub, h⟩ := bind_eq_ok h
  obtain rfl := Except.ok.inj h
  exact hpub

/-- Everything a partial key of the centre is. -/
theorem generateKGCUserPartialKey_eq_ok {k : KGCImpl} {userId : Bytes} {userPartialPub : Nat × Nat}
    {draw : Draw k.curve} {key : KGCUserPartialKey}
    (h : k.generateKGCUserPartialKey userId userPartialPub draw = .ok key) :
    ∃ w wxy, k.curve.scalarBaseMult (bytes w) = .ok wxy ∧ k.curve.add wxy userPartialPub = .ok (key.wx, key.wy) ∧
      key.t = (w + lamda k.curve k.h k.masterKey (key.wx, key.wy) userId * k.masterKey.ms) %
        k.curve.params.N := by
  obtain ⟨w, -, h⟩ := bind_eq_ok h
  obtain ⟨wxy, hwxy, h⟩ := bind_eq_ok h
  obtain ⟨declaredUserPub, hadd, h⟩ := bind_eq_ok h
  obtain rfl := Except.ok.inj h
  exact ⟨w, wxy, hwxy, hadd, rfl⟩

/-- The scalars are added, and the point is the centre's. -/
theorem generateUserFullKey_eq_ok {u : UserImpl} {kgcKey : KGCUserPartialKey} {userKey : UserPartialKey}
    {full : UserFullKey} (h : u.generateUserFullKey kgcKey userKey = .ok full) :
    full.privateKey = (kgcKey.t + userKey.privateKey) % u.curve.params.N ∧ full.privateKey ≠ 0 ∧
      full.pubX = kgcKey.wx ∧ full.pubY = kgcKey.wy := by
  rw [UserImpl.generateUserFullKey] at h
  split_ifs at h with hzero
  obtain rfl := Except.ok.inj h
  exact ⟨rfl, hzero, rfl, rfl⟩

/-- A text is read back. -/
theorem decodeBase64_encode (bs : Bytes) : decodeBase64 (Base64.encodeToString bs) = .ok bs := by
  rw [decodeBase64, Base64.decodeString_encodeToString]

/-- What is long enough is cut into two coordinates. -/
theorem decodeDeclared_encode {u : UserImpl} {declaredPbk : Bytes}
    (hlong : u.curve.params.byteLen ≤ declaredPbk.length) :
    u.decodeDeclared (Base64.encodeToString declaredPbk) =
      .ok (getBE (declaredPbk.take u.curve.params.byteLen), getBE (declaredPbk.drop u.curve.params.byteLen)) := by
  rw [UserImpl.decodeDeclared, decodeBase64_encode]
  exact if_neg (Nat.not_lt.mpr hlong)

/-- Coordinates of full length are read back. -/
theorem decodeDeclared_fixed {u : UserImpl} {pub : Nat × Nat} (hx : pub.1 < 256 ^ u.curve.params.byteLen)
    (hy : pub.2 < 256 ^ u.curve.params.byteLen) :
    u.decodeDeclared (fixedDeclared u.curve pub) = .ok pub := by
  have hlen : (putBE u.curve.params.byteLen pub.1).length = u.curve.params.byteLen := length_putBE _ _
  have hlong : u.curve.params.byteLen ≤
      (putBE u.curve.params.byteLen pub.1 ++ putBE u.curve.params.byteLen pub.2).length := by
    rw [List.length_append, hlen]
    omega
  rw [fixedDeclared, decodeDeclared_encode hlong, List.take_left' hlen, List.drop_left' hlen,
    getBE_putBE_of_lt hx, getBE_putBE_of_lt hy]

/-! ## Making keys -/

section Generation

variable {E : Type} [AddCommGroup E]

/-- Any draw but zero makes a user's partial key, which is a point. -/
theorem generateUserPartialKey_ok {u : UserImpl} (law : GroupLaw u.curve E) {r : Fin u.curve.params.N}
    (hr : r.val ≠ 0) : ∃ key, u.generateUserPartialKey (.ok r) = .ok key ∧
      (key.pubX, key.pubY) = law.point (r.val • law.base) := by
  have hdraw : generateRandomNumber (.ok r) = .ok r.val := if_neg hr
  rw [UserImpl.generateUserPartialKey, hdraw]
  show ∃ key, (u.curve.scalarBaseMult (bytes r.val) >>= _) = _ ∧ _
  rw [law.scalarBaseMult_eq, getBE_bytes]
  exact ⟨_, rfl, rfl⟩

/-- Any draw but zero makes a partial key of the centre, for every point. -/
theorem generateKGCUserPartialKey_ok {k : KGCImpl} (law : GroupLaw k.curve E) {r : Fin k.curve.params.N}
    (hr : r.val ≠ 0) (userId : Bytes) (P : E) :
    ∃ key, k.generateKGCUserPartialKey userId (law.point P) (.ok r) = .ok key := by
  have hdraw : generateRandomNumber (.ok r) = .ok r.val := if_neg hr
  rw [KGCImpl.generateKGCUserPartialKey, hdraw]
  show ∃ key, (k.curve.scalarBaseMult (bytes r.val) >>= fun wxy => k.curve.add wxy (law.point P) >>= _) = _
  rw [law.scalarBaseMult_eq]
  show ∃ key, (k.curve.add _ (law.point P) >>= _) = _
  rw [law.add_point]
  exact ⟨_, rfl⟩

variable {c : Curve} (law : GroupLaw c E) {h : Bytes → Bytes} {masterKey : MasterKey}

include law

/-- Any two draws but zero make the partial keys, and these a full key unless the scalars cancel. -/
theorem keys_total (userId : Bytes) {r r' : Fin c.params.N} (hr : r.val ≠ 0) (hr' : r'.val ≠ 0) :
    ∃ userKey kgcKey, (newUser c h masterKey).generateUserPartialKey (.ok r) = .ok userKey ∧
      (KGCImpl.mk c h masterKey).generateKGCUserPartialKey userId (userKey.pubX, userKey.pubY) (.ok r') =
        .ok kgcKey ∧
      ((kgcKey.t + userKey.privateKey) % c.params.N ≠ 0 →
        ∃ full, (newUser c h masterKey).generateUserFullKey kgcKey userKey = .ok full) := by
  obtain ⟨userKey, huser, hpoint⟩ := generateUserPartialKey_ok (u := newUser c h masterKey) law hr
  obtain ⟨kgcKey, hkgc⟩ := generateKGCUserPartialKey_ok (k := KGCImpl.mk c h masterKey) law hr' userId
    (r.val • law.base)
  rw [← hpoint] at hkgc
  exact ⟨userKey, kgcKey, huser, hkgc, fun hsum => ⟨_, if_neg hsum⟩⟩

/-- The private key of a full key goes with the declared point. -/
theorem fullKey_point {userId : Bytes} {drawUser drawW : Draw c} {userKey : UserPartialKey}
    {kgcKey : KGCUserPartialKey} {full : UserFullKey}
    (huser : (newUser c h masterKey).generateUserPartialKey drawUser = .ok userKey)
    (hkgc : (KGCImpl.mk c h masterKey).generateKGCUserPartialKey userId (userKey.pubX, userKey.pubY) drawW =
      .ok kgcKey)
    (hfull : (newUser c h masterKey).generateUserFullKey kgcKey userKey = .ok full) :
    ∃ W : E, law.point W = (full.pubX, full.pubY) ∧ full.privateKey • law.base =
      W + lamda c h masterKey (law.point W) userId • (masterKey.ms • law.base) := by
  obtain ⟨w, wxy, hwxy, hadd, ht⟩ := generateKGCUserPartialKey_eq_ok hkgc
  obtain ⟨hprivate, -, hx, hy⟩ := generateUserFullKey_eq_ok hfull
  have hw : wxy = law.point (w • law.base) := by
    rw [law.scalarBaseMult_eq, getBE_bytes] at hwxy
    exact (Except.ok.inj hwxy).symm
  have hpartial : (userKey.pubX, userKey.pubY) = law.point (userKey.privateKey • law.base) := by
    have hpub := generateUserPartialKey_eq_ok huser
    rw [newUser, law.scalarBaseMult_eq, getBE_bytes] at hpub
    exact (Except.ok.inj hpub).symm
  have hdeclared : law.point (w • law.base + userKey.privateKey • law.base) = (full.pubX, full.pubY) := by
    rw [hw, hpartial, law.add_point] at hadd
    rw [hx, hy]
    exact Except.ok.inj hadd
  refine ⟨w • law.base + userKey.privateKey • law.base, hdeclared, ?_⟩
  rw [hdeclared, hx, hy]
  -- the order of the base point takes the reductions away
  have hsum : full.privateKey • law.base = (kgcKey.t + userKey.privateKey) • law.base := by
    rw [hprivate]
    exact law.mod_smul_base _
  have hpart : kgcKey.t • law.base =
      w • law.base + lamda c h masterKey (kgcKey.wx, kgcKey.wy) userId • (masterKey.ms • law.base) := by
    rw [ht, law.mod_smul_base, add_nsmul, mul_nsmul']
  calc full.privateKey • law.base = kgcKey.t • law.base + userKey.privateKey • law.base := by
        rw [hsum, add_nsmul]
    _ = _ := by rw [hpart, add_right_comm]

end Generation

/-! ## The key equation -/

section KeyEquation

variable {c : Curve} {E : Type} [AddCommGroup E] (law : GroupLaw c E) {h : Bytes → Bytes} {masterKey : MasterKey}
  (hmaster : masterKey.Matched c)
include hmaster

/-- The master's public key is a point. -/
theorem MasterKey.Matched.point : law.point (masterKey.ms • law.base) = (masterKey.ppubX, masterKey.ppubY) := by
  have hbase := law.scalarBaseMult_eq (bytes masterKey.ms)
  rw [getBE_bytes] at hbase
  exact Except.ok.inj (hbase.symm.trans hmaster)

/-- The public key that is computed from a declared key that is read as a point. -/
theorem calculateFullPublicKey_point {W : E} {declaredPbkBase64 : Bytes} (userId : Bytes)
    (hdeclared : (newUser c h masterKey).decodeDeclared declaredPbkBase64 = .ok (law.point W)) :
    (newUser c h masterKey).calculateFullPublicKey declaredPbkBase64 userId =
      .ok (law.point (W + lamda c h masterKey (law.point W) userId • (masterKey.ms • law.base))) := by
  rw [UserImpl.calculateFullPublicKey, hdeclared]
  show (c.scalarMult (masterKey.ppubX, masterKey.ppubY)
    (bytes (lamda c h masterKey (law.point W) userId)) >>= _) = _
  rw [← hmaster.point law, law.scalarMult_point, getBE_bytes]
  exact law.add_point W _

/-- Certificateless keys: the private key of a full key goes with `W + λ·Ppub`, and that is the public key
    which `CalculateFullPublicKey` computes from the declared key and the user's id. -/
theorem key_equation {userId : Bytes} {drawUser drawW : Draw c} {userKey : UserPartialKey}
    {kgcKey : KGCUserPartialKey} {full : UserFullKey}
    (huser : (newUser c h masterKey).generateUserPartialKey drawUser = .ok userKey)
    (hkgc : (KGCImpl.mk c h masterKey).generateKGCUserPartialKey userId (userKey.pubX, userKey.pubY) drawW =
      .ok kgcKey)
    (hfull : (newUser c h masterKey).generateUserFullKey kgcKey userKey = .ok full) :
    ∃ W Ppub : E, law.point W = (full.pubX, full.pubY) ∧
      law.point Ppub = (masterKey.ppubX, masterKey.ppubY) ∧
      full.privateKey • law.base = W + lamda c h masterKey (full.pubX, full.pubY) userId • Ppub ∧
      (newUser c h masterKey).calculateFullPublicKey (fixedDeclared c (full.pubX, full.pubY)) userId =
        .ok (law.point (full.privateKey • law.base)) ∧
      c.scalarBaseMult (bytes full.privateKey) = .ok (law.point (full.privateKey • law.base)) := by
  obtain ⟨W, hW, hkey⟩ := fullKey_point law huser hkgc hfull
  have hcoordinates := law.coordinates_lt W
  rw [hW] at hcoordinates
  have hdeclared : (newUser c h masterKey).decodeDeclared (fixedDeclared c (full.pubX, full.pubY)) =
      .ok (law.point W) := by
    rw [hW]
    exact decodeDeclared_fixed (u := newUser c h masterKey) hcoordinates.1 hcoordinates.2
  have hpublic := calculateFullPublicKey_point law hmaster userId hdeclared
  rw [← hkey] at hpublic
  rw [hW] at hkey
  refine ⟨W, masterKey.ms • law.base, hW, hmaster.point law, hkey, hpublic, ?_⟩
  rw [law.scalarBaseMult_eq, getBE_bytes]

end KeyEquation

/-! ## A key on a small curve -/

open CustomStandardCurve (smallParams smallLaw)

/-- A curve with 499 points. -/
def smallCurve : Curve := CustomStandardCurve.curve smallParams

/-- A hash of one byte. -/
def smallHash (bs : Bytes) : Bytes := [bs.foldl (· + ·) 1]

/-- Keys on it: the master's, -/
def smallMaster : MasterKey where
  ms := 5
  ppubX := 504
  ppubY := 455

/-- which belong together, -/
theorem smallMaster_matched : smallMaster.Matched smallCurve := by decide +kernel

/-- `u1` -/
def smallId : Bytes := [117, 49]

/-- a user's part, -/
def smallUserKey : UserPartialKey where
  privateKey := 7
  pubX := 88
  pubY := 291

/-- the centre's, -/
def smallKgcKey : KGCUserPartialKey where
  id := smallId
  t := 441
  wx := 51
  wy := 401

/-- and the key of both. -/
def smallFullKey : UserFullKey where
  privateKey := 448
  pubX := 51
  pubY := 401

/-- They are what the functions return: the user's part, -/
theorem smallUserKey_eq :
    (newUser smallCurve smallHash smallMaster).generateUserPartialKey (.ok (7 : Fin 499)) = .ok smallUserKey := by
  decide +kernel

/-- the centre's, -/
theorem smallKgcKey_eq :
    (KGCImpl.mk smallCurve smallHash smallMaster).generateKGCUserPartialKey smallId
      (smallUserKey.pubX, smallUserKey.pubY) (.ok (11 : Fin 499)) = .ok smallKgcKey := by
  decide +kernel

/-- and the key. -/
theorem smallFullKey_eq :
    (newUser smallCurve smallHash smallMaster).generateUserFullKey smallKgcKey smallUserKey =
      .ok smallFullKey := by
  decide +kernel

/-- The equation, for these keys. -/
theorem key_equation_small : ∃ W Ppub : (CustomStandardCurve.weierstrass smallParams).Point,
    smallLaw.point W = (51, 401) ∧ smallLaw.point Ppub = (504, 455) ∧
      448 • smallLaw.base = W + lamda smallCurve smallHash smallMaster (51, 401) smallId • Ppub ∧
      (newUser smallCurve smallHash smallMaster).calculateFullPublicKey (fixedDeclared smallCurve (51, 401))
        smallId = .ok (smallLaw.point (448 • smallLaw.base)) ∧
      smallCurve.scalarBaseMult (bytes 448) = .ok (smallLaw.point (448 • smallLaw.base)) :=
  key_equation smallLaw smallMaster_matched smallUserKey_eq smallKgcKey_eq smallFullKey_eq

end OpenNHP.KGC
