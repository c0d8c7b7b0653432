/-
  The wrapping of a data private key, from the data broker (`endpoints/db`) to the agent (`endpoints/agent`).

  THE PROGRAM.  The agent's request carries its TEE key and an ephemeral key; the broker agrees on a key with
  them, seals the stored data private key under it and answers with the wrapping, and the agent agrees from its
  side and unwraps.  The ECC mode of the broker is that of its cipher scheme, the agent takes it from the ztdo
  header, which the broker wrote.

  THE SPECIFICATION.  Both get one key, over these patterns and over any others, and the wrapping opens to the
  stored key (`data_key_agreement`).

  THE CRUX.  The agreement itself is that of two lists of patterns, one the dual of the other
  (`OpenNHP.Core.Ztdo.KeyAgreement`).  What is left is that the two programs build such lists and know the same
  keys: the broker its own and what the request brought, the agent what came with the wrapping.  So the key that
  is stored with an object must be the broker's own.

  Messages are structures of their fields; the server and JSON pass them on as they are.
-/
import OpenNHP.Lib.Base64
import OpenNHP.Core.Ztdo.KeyAgreement
import OpenNHP.Core.Ztdo.Written
import OpenNHP.Core.MessageRoundTrip

namespace OpenNHP.DB

open BigEndian Base64 OpenNHP.Core OpenNHP.Core.Ztdo

/-! ## The wrapping -/

/-- `DataPrivateKeyWrapping`: the sealed key, its nonce, and who sealed it. -/
structure DataPrivateKeyWrapping where
  providerPublicKeyBase64 : Bytes
  ivBase64 : Bytes
  prkWrapping : Bytes

/-- Why `Unwrap` failed. -/
inductive UnwrapError
  /-- "illegal base64 data at input byte …" -/
  | base64
  | decrypt (e : ZtdoError)
  deriving DecidableEq, Repr

namespace DataPrivateKeyWrapping

/-- `NewDataPrivateKeyWrapping` with the IV it draws; the error of `Encrypt` is dropped, with a `nil`
    ciphertext. -/
def new (F : FileCrypto UInt8) (iv : Arr UInt8 ivSize)
    (providerPublicKeyBase64 dataPrivateKeyBase64 key ad : Bytes) : DataPrivateKeyWrapping :=
  let cipherText := match SymmetricCipherMode.AES256GCM128Tag.encrypt F key iv.1 dataPrivateKeyBase64 ad with
    | .ok cipherText => cipherText
    | .error _ => []
  { providerPublicKeyBase64, ivBase64 := encodeToString iv.1, prkWrapping := encodeToString cipherText }

/-- `Unwrap`; `none` is the panic of `Open` on a nonce that is not 12 bytes long. -/
def unwrap (F : FileCrypto UInt8) (d : DataPrivateKeyWrapping) (key ad : Bytes) :
    Option (Except UnwrapError Bytes) :=
  let iv := decodeString d.ivBase64
  let cipherText := decodeString d.prkWrapping
  if iv.2 = false ∨ cipherText.2 = false then some (.error .base64)
  else match SymmetricCipherMode.AES256GCM128Tag.aead key with
    | .error e => some (.error (.decrypt e))
    | .ok _ =>
      if iv.1.length ≠ ivSize then none
      else match SymmetricCipherMode.AES256GCM128Tag.decrypt F key iv.1 cipherText.1 ad with
        | .error e => some (.error (.decrypt e))
        | .ok dataPrk => some (.ok dataPrk)

/-- What was wrapped under a key of 32 bytes is unwrapped. -/
theorem unwrap_new {F : FileCrypto UInt8} (hF : LawfulFileCrypto F) (iv : Arr UInt8 ivSize)
    (providerPublicKeyBase64 dataPrivateKeyBase64 : Bytes) {key : Bytes} (hkey : key.length = 32)
    (ad : Bytes) :
    (new F iv providerPublicKeyBase64 dataPrivateKeyBase64 key ad).unwrap F key ad
      = some (.ok dataPrivateKeyBase64) := by
  have haead : SymmetricCipherMode.AES256GCM128Tag.aead key = .ok { cipher := .aes, key } := by
    refine SymmetricCipherMode.aead_eq_ok_iff.mpr ⟨?_, by decide⟩
    rw [SymmetricCipherMode.newCipherBlock, if_pos (by decide), if_neg (by rw [hkey]; simp)]
  have hencrypt : SymmetricCipherMode.AES256GCM128Tag.encrypt F key iv.1 dataPrivateKeyBase64 ad
      = .ok (F.gcmSeal { cipher := .aes, key } 16 iv.1 dataPrivateKeyBase64 ad) := by
    rw [SymmetricCipherMode.encrypt, haead]
    rfl
  have hdecrypt := (SymmetricCipherMode.decrypt_encrypt hF hencrypt).1
  simp only [unwrap, new, hencrypt, decodeString_encodeToString, haead, iv.2, hdecrypt, Bool.true_eq_false,
    or_self, if_false, ne_eq, not_true_eq_false]

end DataPrivateKeyWrapping

/-! ## The broker -/

/-- `DataPrivateKeyStore`: the key that was saved of an object. -/
structure DataPrivateKeyStore where
  dataPrivateKeyBase64 : Bytes
  providerPublicKeyBase64 : Bytes

/-- The request for a wrapping. -/
structure DWRMsg where
  doId : Bytes
  teePublicKey : Bytes
  consumerEphemeralPublicKey : Bytes

/-- The answer. -/
structure DWAMsg where
  doId : Bytes := []
  kao : Option DataPrivateKeyWrapping := none
  errCode : Int := 0
  errMsg : String := ""

variable {C : Crypto Bytes}

/-- The broker: its configuration, the TEEs it knows with their expire times, and the key files. -/
structure UdpDevice (C : Crypto Bytes) where
  defaultCipherScheme : CipherScheme
  /-- `GetOwnEcdh`. -/
  ownEcdh : Ecdh C
  ownEcdh_eccType : ownEcdh.eccType = (newCipherSuite defaultCipherScheme).eccType
  teeMap : Bytes → Option Int64
  stores : Bytes → Option DataPrivateKeyStore

/-- The pre-shared key of all wrappings. -/
def initialDHPKeyWrappingString : Bytes := "DHP Data Private Key Wrapping".toUTF8.toList

/-- `DataPrivateKeyWrappingPatterns`. -/
def dataPrivateKeyWrappingPatterns : List (List MessagePattern) :=
  [[.DHSS, .S, .DHSE], [.DHSS, .RS, .DHES]]

/-- The ECC mode of a cipher scheme, as the broker takes it. -/
def dataKeyPairEccMode : CipherScheme → DataKeyPairECCMode
  | .curve => .CURVE25519
  | .gmsm => .SM2

namespace UdpDevice

variable (a : UdpDevice C)

/-- `IsTEEAuthorized`. -/
def isTEEAuthorized (teePbkBase64 : Bytes) (nowMilli : Int64) : Bool :=
  match a.teeMap teePbkBase64 with
  | some expireTime => expireTime > 0 && nowMilli < expireTime * 1000
  | none => false

/-- The provider's side of the agreement for a request. -/
def wrappingAgreement (dwrMsg : DWRMsg) : SymmetricAgreement C :=
  let teePbk := (decodeString dwrMsg.teePublicKey).1
  let consumerEPbk := (decodeString dwrMsg.consumerEphemeralPublicKey).1
  let sa := SymmetricAgreement.new (dataKeyPairEccMode a.defaultCipherScheme) true
  let sa := sa.setMessagePatterns dataPrivateKeyWrappingPatterns
  let sa := sa.setPsk initialDHPKeyWrappingString
  let sa := sa.setStaticKeyPair a.ownEcdh
  let sa := sa.setRemoteStaticPublicKey teePbk
  sa.setRemoteEphemeralPublicKey consumerEPbk

/-- The answer of `HandleUdpDataKeyWrappingOperations` to a body: its message or the JSON error. -/
def handleUdpDataKeyWrappingOperations (F : FileCrypto UInt8) (iv : Arr UInt8 ivSize) (nowMilli : Int64) :
    Except String DWRMsg → Option DWAMsg
  | .error err => some { errCode := 50001, errMsg := err }
  | .ok dwrMsg =>
    if !a.isTEEAuthorized dwrMsg.teePublicKey nowMilli then
      some { errCode := 55001, errMsg := "TEE is  not authorized" }
    else match a.stores dwrMsg.doId with
      | none => some { errCode := 55002, errMsg := "data private key store error" }
      | some dataPrkStore => do
        let agreed ← (a.wrappingAgreement dwrMsg).agreeSymmetricKey
        return { doId := dwrMsg.doId,
                 kao := some (.new F iv dataPrkStore.providerPublicKeyBase64
                  dataPrkStore.dataPrivateKeyBase64 agreed.1 agreed.2) }

end UdpDevice

/-! ## The agent -/

/-- The request of `RefreshDataAccess`, as the server forwards it to the broker. -/
def dataAccessRequest (doId : Bytes) (teeEcdh consumerEphemeralEcdh : Ecdh C) : DWRMsg where
  doId
  teePublicKey := encodeToString teeEcdh.publicKey
  consumerEphemeralPublicKey := encodeToString consumerEphemeralEcdh.publicKey

/-- The consumer's side of the agreement, under the ECC mode of the ztdo header. -/
def unwrappingAgreement (teeEcdh consumerEphemeralEcdh : Ecdh C) (header : ZtdoHeader UInt8)
    (dataPrkWrapping : DataPrivateKeyWrapping) : SymmetricAgreement C :=
  let providerPbk := (decodeString dataPrkWrapping.providerPublicKeyBase64).1
  let sa := SymmetricAgreement.new header.getECCMode false
  let sa := sa.setMessagePatterns dataPrivateKeyWrappingPatterns
  let sa := sa.setPsk initialDHPKeyWrappingString
  let sa := sa.setStaticKeyPair teeEcdh
  let sa := sa.setEphemeralKeyPair consumerEphemeralEcdh
  sa.setRemoteStaticPublicKey providerPbk

/-- The step of `RefreshDataAccess` from the wrapping to the data private key. -/
def unwrapDataPrivateKey (F : FileCrypto UInt8) (teeEcdh consumerEphemeralEcdh : Ecdh C)
    (header : ZtdoHeader UInt8) (dataPrkWrapping : DataPrivateKeyWrapping) :
    Option (Except UnwrapError Bytes) := do
  let agreed ← (unwrappingAgreement teeEcdh consumerEphemeralEcdh header dataPrkWrapping).agreeSymmetricKey
  dataPrkWrapping.unwrap F agreed.1 agreed.2

/-! ## Agreement -/

/-- A party with all its keys and the other party's public keys. -/
def party (eccMode : DataKeyPairECCMode) (provider : Bool) (psk : Option Bytes)
    (rows : List (List MessagePattern)) (s e : Ecdh C) (rs re : Bytes) : SymmetricAgreement C :=
  let sa := (SymmetricAgreement.new eccMode provider).setMessagePatterns rows
  let sa := psk.elim sa sa.setPsk
  let sa := (sa.setStaticKeyPair s).setEphemeralKeyPair e
  (sa.setRemoteStaticPublicKey rs).setRemoteEphemeralPublicKey re

/-- Two parties with dual patterns agree. -/
theorem party_agree (hC : LawfulCrypto C) (eccMode : DataKeyPairECCMode) (psk : Option Bytes)
    {patterns : List MessagePattern} {rows rows' : List (List MessagePattern)}
    (hrow : rows[0]? = some patterns) (hrow' : rows'[1]? = some (patterns.map .dual))
    (sp ep sc ec : Ecdh C) :
    ∃ agreed,
      (party eccMode true psk rows sp ep sc.publicKey ec.publicKey).agreeSymmetricKey = some agreed ∧
      (party eccMode false psk rows' sc ec sp.publicKey ep.publicKey).agreeSymmetricKey
        = some agreed := by
  cases psk <;>
    refine agreeSymmetricKey_dual ⟨rfl, rfl, rfl, rfl, rfl, rfl⟩ hC (fun pattern _ => ?_) hrow hrow'
  all_goals cases pattern with
  | S => exact ⟨sp, rfl, rfl⟩
  | E => exact ⟨ep, rfl, rfl⟩
  | RS => exact ⟨sc, rfl, rfl⟩
  | RE => exact ⟨ec, rfl, rfl⟩
  | DHSS => exact ⟨sp, sc, rfl, rfl, rfl, rfl⟩
  | DHSE => exact ⟨sp, ec, rfl, rfl, rfl, rfl⟩
  | DHEE => exact ⟨ep, ec, rfl, rfl, rfl, rfl⟩
  | DHES => exact ⟨ep, sc, rfl, rfl, rfl, rfl⟩

/-- The broker and the agent agree, with the ephemeral key on one side only. -/
theorem wrapping_agree (hC : LawfulCrypto C) {a : UdpDevice C} {header : ZtdoHeader UInt8}
    (hmode : header.getECCMode = dataKeyPairEccMode a.defaultCipherScheme) (doId : Bytes)
    (teeEcdh consumerEphemeralEcdh : Ecdh C) {d : DataPrivateKeyWrapping}
    (hprovider : d.providerPublicKeyBase64 = encodeToString a.ownEcdh.publicKey) :
    ∃ agreed,
      (a.wrappingAgreement (dataAccessRequest doId teeEcdh consumerEphemeralEcdh)).agreeSymmetricKey
        = some agreed ∧
      (unwrappingAgreement teeEcdh consumerEphemeralEcdh header d).agreeSymmetricKey = some agreed := by
  have htee : (decodeString (encodeToString teeEcdh.publicKey)).1 = teeEcdh.publicKey := by
    rw [decodeString_encodeToString]
  have heph : (decodeString (encodeToString consumerEphemeralEcdh.publicKey)).1
      = consumerEphemeralEcdh.publicKey := by
    rw [decodeString_encodeToString]
  have hown : (decodeString d.providerPublicKeyBase64).1 = a.ownEcdh.publicKey := by
    rw [hprovider, decodeString_encodeToString]
  refine agreeSymmetricKey_dual ⟨rfl, rfl, ?_, hmode.symm, rfl, rfl⟩ hC (fun pattern hpattern => ?_) rfl rfl
  · exact congrArg DataKeyPairECCMode.toHashType hmode.symm
  · have hall : pattern = .DHSS ∨ pattern = .S ∨ pattern = .DHSE := by
      simpa [dataPrivateKeyWrappingPatterns] using hpattern
    rcases hall with rfl | rfl | rfl
    · exact ⟨a.ownEcdh, teeEcdh, rfl, hown, rfl, htee⟩
    · exact ⟨a.ownEcdh, rfl, hown⟩
    · exact ⟨a.ownEcdh, consumerEphemeralEcdh, rfl, hown, rfl, heph⟩

/-- The key of the wrapping comes out of the HMAC, so it has its length. -/
theorem wrapping_key_length {L : Libs} (hhmac : ∀ t key text, (L.hmac t key text).length = hashSize)
    {a : UdpDevice L.crypto} {dwrMsg : DWRMsg} {agreed : Bytes × Bytes}
    (h : (a.wrappingAgreement dwrMsg).agreeSymmetricKey = some agreed) : agreed.1.length = hashSize := by
  rw [← Option.some.inj h]
  exact hhmac _ _ _

/-- Over any list of patterns and its dual, with a pre-shared key or without, provider and consumer get
    one key and one associated data.  So a broker answers the request of an authorized TEE for an object, whose
    stored provider key is the broker's own, with a wrapping that the agent, given the header of a ztdo file
    configured by that broker, unwraps to the stored data private key. -/
theorem data_key_agreement {L : Libs} (hL : LawfulLibs L)
    (hhmac : ∀ t key text, (L.hmac t key text).length = hashSize) {F : FileCrypto UInt8}
    (hF : LawfulFileCrypto F) :
    (∀ (eccMode : DataKeyPairECCMode) (psk : Option Bytes) (patterns : List MessagePattern)
        (rows rows' : List (List MessagePattern)), rows[0]? = some patterns →
        rows'[1]? = some (patterns.map .dual) → ∀ sp ep sc ec : Ecdh L.crypto,
      ∃ agreed,
        (party eccMode true psk rows sp ep sc.publicKey ec.publicKey).agreeSymmetricKey
          = some agreed ∧
        (party eccMode false psk rows' sc ec sp.publicKey ep.publicKey).agreeSymmetricKey
          = some agreed) ∧
    ∀ (a : UdpDevice L.crypto) (teeEcdh consumerEphemeralEcdh : Ecdh L.crypto) (doId : Bytes)
        (store : DataPrivateKeyStore), a.stores doId = some store →
        store.providerPublicKeyBase64 = encodeToString a.ownEcdh.publicKey →
      ∀ nowMilli, a.isTEEAuthorized (encodeToString teeEcdh.publicKey) nowMilli = true →
      ∀ (uuid : Arr UInt8 objectIDSize) (server metadata : Option Bytes) (mode : SymmetricCipherMode)
        (z : Ztdo UInt8), mode.toNat < 16 →
        Configured uuid server metadata true mode (dataKeyPairEccMode a.defaultCipherScheme) z →
      ∀ iv, ∃ dwaMsg wrapping,
        a.handleUdpDataKeyWrappingOperations F iv nowMilli
          (.ok (dataAccessRequest doId teeEcdh consumerEphemeralEcdh)) = some dwaMsg ∧
        dwaMsg.errCode = 0 ∧ dwaMsg.kao = some wrapping ∧
        unwrapDataPrivateKey F teeEcdh consumerEphemeralEcdh z.header.forFile wrapping
          = some (.ok store.dataPrivateKeyBase64) := by
  have hC := Libs.lawful hL
  refine ⟨fun eccMode psk patterns rows rows' hrow hrow' sp ep sc ec =>
    party_agree hC eccMode psk hrow hrow' sp ep sc ec, ?_⟩
  intro a teeEcdh consumerEphemeralEcdh doId store hstore hprovider nowMilli htee uuid server metadata mode z
    hmode hz iv
  have hecc : (dataKeyPairEccMode a.defaultCipherScheme).toNat < 8 := by
    cases a.defaultCipherScheme <;> decide
  -- The header that the agent reads names the broker's ECC mode, so both sides run the same patterns.
  have hheader : z.header.forFile.getECCMode = dataKeyPairEccMode a.defaultCipherScheme :=
    z.header.getECCMode_forFile.trans (hz.getECCMode hmode hecc)
  have hagree := fun d hd => wrapping_agree (a := a) (d := d) hC hheader doId teeEcdh consumerEphemeralEcdh hd
  obtain ⟨agreed, hprovided, -⟩ := hagree ⟨store.providerPublicKeyBase64, [], []⟩ hprovider
  let wrapping : DataPrivateKeyWrapping := .new F iv store.providerPublicKeyBase64
    store.dataPrivateKeyBase64 agreed.1 agreed.2
  -- The agreement does not read the sealed key, so it is the same with the wrapping as it was before it.
  obtain ⟨agreed', hprovided', hconsumed⟩ := hagree wrapping hprovider
  obtain rfl : agreed = agreed' := Option.some.inj (hprovided.symm.trans hprovided')
  refine ⟨{ doId, kao := some wrapping }, wrapping, ?_, rfl, rfl, ?_⟩
  · have hauthorized : a.isTEEAuthorized (dataAccessRequest doId teeEcdh consumerEphemeralEcdh).teePublicKey
        nowMilli = true := htee
    have hstore' : a.stores (dataAccessRequest doId teeEcdh consumerEphemeralEcdh).doId = some store := hstore
    simp only [UdpDevice.handleUdpDataKeyWrappingOperations, hauthorized, hstore', hprovided]
    rfl
  · rw [unwrapDataPrivateKey, hconsumed]
    exact DataPrivateKeyWrapping.unwrap_new hF iv _ _ (wrapping_key_length hhmac hprovided) _

/-! ### One broker and one agent -/

/-- A broker with one object. -/
def sampleDevice : UdpDevice sampleLibs.crypto where
  defaultCipherScheme := .curve
  ownEcdh := sampleEcdh .curve25519 1
  ownEcdh_eccType := rfl
  teeMap _ := some 100
  stores _ := some
    { dataPrivateKeyBase64 := encodeToString [7, 7],
      providerPublicKeyBase64 := encodeToString (sampleEcdh .curve25519 1).publicKey }

/-- Two patterns, and the wrapping of a data private key of two bytes. -/
theorem data_key_agreement_sample :
    (∃ agreed,
      (party .SM2 true none [[.S, .DHSE], []] (sampleEcdh .sm2 1) (sampleEcdh .sm2 2)
        (sampleEcdh .sm2 3).publicKey (sampleEcdh .sm2 4).publicKey).agreeSymmetricKey = some agreed ∧
      (party .SM2 false none [[], [.RS, .DHES]] (sampleEcdh .sm2 3) (sampleEcdh .sm2 4)
        (sampleEcdh .sm2 1).publicKey (sampleEcdh .sm2 2).publicKey).agreeSymmetricKey = some agreed) ∧
    ∃ z, Configured (Arr.zero objectIDSize) (some []) (some []) true .AES256GCM96Tag .CURVE25519 z ∧
      ∃ dwaMsg wrapping,
        sampleDevice.handleUdpDataKeyWrappingOperations sampleCrypto (Arr.zero ivSize) 5
          (.ok (dataAccessRequest [1] (sampleEcdh .curve25519 8) (sampleEcdh .curve25519 9))) = some dwaMsg ∧
        dwaMsg.errCode = 0 ∧ dwaMsg.kao = some wrapping ∧
        unwrapDataPrivateKey sampleCrypto (sampleEcdh .curve25519 8) (sampleEcdh .curve25519 9)
          z.header.forFile wrapping = some (.ok (encodeToString [7, 7])) := by
  have hhmac : ∀ t key text, (sampleLibs.hmac t key text).length = hashSize := by
    intro t key text
    simp only [sampleLibs, List.length_take, List.length_append, List.length_replicate]
    omega
  obtain ⟨hagree, hwrap⟩ := data_key_agreement sampleLibs_lawful hhmac sampleCrypto_lawful
  obtain ⟨z, hz⟩ := Configured.exists_configured (Arr.zero (β := UInt8) objectIDSize) []
    (by decide) [] true .AES256GCM96Tag .CURVE25519
  exact ⟨hagree .SM2 none [.S, .DHSE] _ _ rfl rfl _ _ _ _, z, hz,
    hwrap sampleDevice _ _ [1] _ rfl rfl 5 (by decide) _ _ _ _ z (by decide) hz (Arr.zero ivSize)⟩

end OpenNHP.DB
