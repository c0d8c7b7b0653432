/-
  A data object, from the broker that publishes it to the agent that opens it (`endpoints/db/main/main.go`,
  `endpoints/db/utils.go`; `RefreshDataAccess` in `endpoints/agent/udpagent.go`).

  THE PROGRAM.  The broker makes a key pair for the object, encrypts the data under a key that its own key pair
  and the object's agree on, and keeps the private key.  An agent that is given the file and the wrapping of the
  private key unwraps it, agrees on the key from the object's side and decrypts.  Which curve and which mode that
  takes is in the header of the file.

  THE SPECIFICATION.  Every object with data that a broker publishes is opened to its data, by every agent whose
  TEE the broker authorizes, but for brokers that are configured with a tag of 64 bits: their objects are opened
  by nobody (`published_data_opens`).

  ASSEMBLY.  Three results are put together: the agreement on the key of the file (`dataAgreement_agree`) and the
  one on the key of the wrapping (`release_wrapping`), and the round trip of the file (`openData_written`).  In
  between is what is saved and read back: the private key by its Base64 text, the object by its name.
-/
import OpenNHP.Core.Csv
import OpenNHP.DB.KeyWrapping

namespace OpenNHP.Core.Ztdo

open BigEndian

/-! ## What the header names -/

namespace DataKeyPairECCMode

/-- `ToEccType`. -/
def toEccType (d : DataKeyPairECCMode) : EccType :=
  if d = CURVE25519 then .curve25519 else if d = SM2 then .sm2 else .umi

end DataKeyPairECCMode

/-- `NewSymmetricCipherMode`; `none` is the error "unknown symmetric mode name: %s". -/
def newSymmetricCipherMode (mode : String) : Option SymmetricCipherMode :=
  if mode = "AES-256-GCM-64" then some .AES256GCM64Tag
  else if mode = "AES-256-GCM-96" then some .AES256GCM96Tag
  else if mode = "AES-256-GCM-104" then some .AES256GCM104Tag
  else if mode = "AES-256-GCM-112" then some .AES256GCM112Tag
  else if mode = "AES-256-GCM-120" then some .AES256GCM120Tag
  else if mode = "AES-256-GCM-128" then some .AES256GCM128Tag
  else if mode = "SM4-GCM-64" then some .SM4GCM64Tag
  else if mode = "SM4-GCM-128" then some .SM4GCM128Tag
  else none

/-- `String` of a UUID. -/
def uuidString (uuid : Bytes) : Bytes :=
  let group (i n : Nat) := Csv.hexString ((uuid.drop i).take n)
  group 0 4 ++ [45] ++ group 4 2 ++ [45] ++ group 6 2 ++ [45] ++ group 8 2 ++ [45] ++ group 10 6

/-- `GetObjectID`, as a text. -/
def ZtdoHeader.getObjectID (h : ZtdoHeader UInt8) : Bytes := uuidString h.objectID.1

/-! ### Names and modes -/

/-- A mode that is configured by name is one of the eight. -/
theorem newSymmetricCipherMode_lt {name : String} {mode : SymmetricCipherMode}
    (h : newSymmetricCipherMode name = some mode) : mode.toNat < 8 := by
  unfold newSymmetricCipherMode at h
  split_ifs at h <;> (obtain rfl := Option.some.inj h; decide)

/-- A tag that GCM takes is one of 96 bits or more. -/
theorem newSymmetricCipherMode_tagSize {name : String} {mode : SymmetricCipherMode}
    (h : newSymmetricCipherMode name = some mode) :
    12 ≤ mode.tagSize ↔ name ≠ "AES-256-GCM-64" ∧ name ≠ "SM4-GCM-64" := by
  unfold newSymmetricCipherMode at h
  split_ifs at h <;> obtain rfl := Option.some.inj h
  all_goals first
    | exact iff_of_true (by decide) ⟨by assumption, by subst_vars; decide⟩
    | (subst_vars; decide)

/-- A key of 32 bytes is one for every mode there is a name for. -/
theorem newSymmetricCipherMode_accepts {name : String} {mode : SymmetricCipherMode}
    (h : newSymmetricCipherMode name = some mode) {key : Bytes} (hkey : key.length = 32) : mode.Accepts key := by
  have hall : mode ∈ SymmetricCipherMode.aesModes ∨
      mode ∉ SymmetricCipherMode.aesModes ∧ mode ∈ SymmetricCipherMode.sm4Modes := by
    unfold newSymmetricCipherMode at h
    split_ifs at h <;> (obtain rfl := Option.some.inj h; decide)
  rcases hall with haes | ⟨hnot, hsm4⟩
  · refine ⟨{ cipher := .aes, key }, ?_⟩
    rw [SymmetricCipherMode.newCipherBlock, if_pos haes, if_neg (not_not.mpr hkey)]
  · refine ⟨{ cipher := .sm4, key := key.take 16 }, ?_⟩
    rw [SymmetricCipherMode.newCipherBlock, if_neg hnot, if_pos hsm4, if_neg (by omega)]

namespace ZtdoHeader

/-- What metadata are cut into does not depend on the header they are for. -/
theorem setMetadata_eq (metadata : Bytes) :
    ∃ chunks, ∀ h : ZtdoHeader UInt8, h.setMetadata metadata = some { h with metadata := chunks } := by
  obtain ⟨h', hset, -⟩ := (ZtdoHeader.new (Arr.zero (β := UInt8) objectIDSize)).setMetadata_eq_some metadata
  obtain ⟨chunks, hchunks, hh'⟩ := Option.map_eq_some_iff.mp hset
  refine ⟨h'.metadata, fun h => ?_⟩
  rw [setMetadata, hchunks, Option.map_some, ← hh']

/-- The file has the object's name. -/
theorem objectID_forFile (h : ZtdoHeader UInt8) : h.forFile.objectID = h.objectID := by
  unfold forFile
  split
  · obtain ⟨chunks, hset⟩ := setMetadata_eq []
    rw [hset, Option.getD_some]
  · rfl

end ZtdoHeader

end OpenNHP.Core.Ztdo

namespace OpenNHP.DB

open BigEndian Base64 OpenNHP.Core OpenNHP.Core.Ztdo

variable {C : Crypto Bytes}

/-! ## The broker -/

/-- `dataMsgPattern`. -/
def dataMsgPattern : List (List MessagePattern) := [[.S, .DHSS], [.RS, .DHSS]]

namespace UdpDevice

variable (a : UdpDevice C)

/-- The provider's side of the agreement on the key of an object. -/
def dataAgreement (dataPbk : Bytes) : SymmetricAgreement C :=
  let sa := SymmetricAgreement.new (dataKeyPairEccMode a.defaultCipherScheme) true
  let sa := sa.setMessagePatterns dataMsgPattern
  let sa := sa.setStaticKeyPair a.ownEcdh
  sa.setRemoteStaticPublicKey dataPbk

/-- `Save`: a key that is there already stays. -/
def save (doId : Bytes) (dataPrkStore : DataPrivateKeyStore) : UdpDevice C :=
  match a.stores doId with
  | some _ => a
  | none => { a with stores := fun id => if id = doId then some dataPrkStore else a.stores id }

end UdpDevice

/-- What is made of a new object: its name, its file and its private key. -/
structure Published where
  ztdoId : Bytes
  file : Bytes
  dataPrkStore : DataPrivateKeyStore

/-- The ztdo of a new object, as it goes into `EncryptZtdoFile`; metadata or a server that are too long are not
    set. -/
def newZtdo (uuid : Arr UInt8 objectIDSize) (metadata server : Bytes) (mode : SymmetricCipherMode)
    (eccMode : DataKeyPairECCMode) : Ztdo UInt8 :=
  let z := Ztdo.new uuid
  let z := (z.setMetadata metadata).getD z
  let z := (z.setNhpServer server).getD z
  z.setCipherConfig true mode eccMode

/-- The mode "encrypt" of `runApp`, for an object that is new and no stream; `none` is an error or a panic. -/
def publish (F : FileCrypto UInt8) (a : UdpDevice C) (uuid : Arr UInt8 objectIDSize) (metadata server : Bytes)
    (dataKey : Ecdh C) (symmetricCipherMode : String) (draws : Draws UInt8) (plaintext : Bytes) :
    Option Published := do
  let agreed ← (a.dataAgreement dataKey.publicKey).agreeSymmetricKey
  let mode ← newSymmetricCipherMode symmetricCipherMode
  let ztdo := newZtdo uuid metadata server mode (dataKeyPairEccMode a.defaultCipherScheme)
  return {
    ztdoId := ztdo.header.getObjectID
    file := (encryptZtdoFile F ztdo draws plaintext agreed.1 agreed.2).file
    dataPrkStore :=
      { dataPrivateKeyBase64 := encodeToString dataKey.privKey,
        providerPublicKeyBase64 := encodeToString a.ownEcdh.publicKey } }

/-! ## The agent -/

section

variable [∀ t prk, Decidable (C.validKey t prk)]

/-- `ECDHFromKey`; `none` is `nil`. -/
def ecdhFromKey (C : Crypto Bytes) [∀ t prk, Decidable (C.validKey t prk)] (t : EccType) (prk : Bytes) :
    Option (Ecdh C) :=
  match t with
  | .curve25519 | .sm2 => if valid : C.validKey t prk then some { eccType := t, privKey := prk, valid } else none
  | .umi => none

/-- The consumer's side of the agreement on the key of an object. -/
def consumerAgreement (dataKey : Option (Ecdh C)) (header : ZtdoHeader UInt8) (providerPublicKey : Bytes) :
    SymmetricAgreement C :=
  let sa := SymmetricAgreement.new header.getECCMode false
  let sa := sa.setMessagePatterns dataMsgPattern
  let sa := { sa with s := dataKey }
  sa.setRemoteStaticPublicKey providerPublicKey

/-- Why `RefreshDataAccess` does not open a file. -/
inductive OpenError
  /-- "failed to parse ztdo header:%s" -/
  | header (e : ReadError)
  /-- "ztdo id mismatch, please check with data provider" -/
  | idMismatch
  /-- "failed to unwrap data private key: %s" -/
  | unwrap (e : UnwrapError)
  /-- "Failed to decrypt ztdo file: %v" -/
  | decrypt (e : ZtdoError)
  deriving DecidableEq, Repr

/-- `RefreshDataAccess` from the download to the plaintext; `none` is a panic. -/
def openData (F : FileCrypto UInt8) (ztdoId : Bytes) (teeEcdh consumerEphemeralEcdh : Ecdh C)
    (dataPrkWrapping : DataPrivateKeyWrapping) (uuid : Arr UInt8 objectIDSize) (ztdoFile : Bytes) :
    Option (Except OpenError Bytes) :=
  let parsed := (Ztdo.new uuid).parseHeader uuid (Reader.ofFile ztdoFile)
  let header := parsed.value.header
  match parsed.err with
  | some e => some (.error (.header e))
  | none =>
    if ztdoId ≠ header.getObjectID then some (.error .idMismatch)
    else match unwrapDataPrivateKey F teeEcdh consumerEphemeralEcdh header dataPrkWrapping with
      | none => none
      | some (.error e) => some (.error (.unwrap e))
      | some (.ok dataPrkBase64) =>
        let dataPrk := (decodeString dataPrkBase64).1
        let dataKey := ecdhFromKey C header.getECCMode.toEccType dataPrk
        let providerPublicKey := (decodeString dataPrkWrapping.providerPublicKeyBase64).1
        match (consumerAgreement dataKey header providerPublicKey).agreeSymmetricKey with
        | none => none
        | some agreed =>
          let decryption := decryptZtdoFile F parsed.value uuid (Reader.ofFile ztdoFile) agreed.1 agreed.2
          match decryption.err with
          | some e => some (.error (.decrypt e))
          | none => some (.ok decryption.plaintext)

end

/-! ## The ztdo of a new object -/

/-- It is one with its configuration set, with its server string if that is not too long. -/
theorem newZtdo_configured (uuid : Arr UInt8 objectIDSize) (metadata server : Bytes) (mode : SymmetricCipherMode)
    (eccMode : DataKeyPairECCMode) :
    Configured uuid (if server.length > nhpServerMaxSize then none else some server) (some metadata) true mode
      eccMode (newZtdo uuid metadata server mode eccMode) := by
  obtain ⟨chunks, hset⟩ := ZtdoHeader.setMetadata_eq metadata
  have hmeta : ∀ z : Ztdo UInt8,
      z.setMetadata metadata = some { z with header := { z.header with metadata := chunks } } :=
    fun z => by rw [Ztdo.setMetadata, hset, Option.map_some]
  by_cases hlong : server.length > nhpServerMaxSize
  · refine ⟨Ztdo.new uuid, _, ?_, hmeta _, ?_⟩
    · rw [if_pos hlong]
      rfl
    · rw [newZtdo, hmeta, Option.getD_some, Ztdo.setNhpServer, ZtdoHeader.setNhpServer, if_pos hlong]
      rfl
  · let h₁ : ZtdoHeader UInt8 :=
      { ZtdoHeader.new uuid with nhpServerLen := Arr.ofBytes [UInt8.ofNat server.length] rfl, nhpServer := server }
    refine ⟨{ Ztdo.new uuid with header := h₁ }, _, ?_, hmeta _, ?_⟩
    · rw [if_neg hlong]
      show (Ztdo.new uuid).setNhpServer server = some _
      rw [Ztdo.setNhpServer, ZtdoHeader.setNhpServer, if_neg hlong]
      rfl
    · rw [newZtdo, hmeta, Option.getD_some, Ztdo.setNhpServer, ZtdoHeader.setNhpServer, if_neg hlong]
      rfl

/-! ## The agreement on the key -/

/-- Broker and agent agree on the key of the file. -/
theorem dataAgreement_agree (hC : LawfulCrypto C) (a : UdpDevice C) (dataKey : Ecdh C) {header : ZtdoHeader UInt8}
    (hmode : header.getECCMode = dataKeyPairEccMode a.defaultCipherScheme) :
    ∃ agreed, (a.dataAgreement dataKey.publicKey).agreeSymmetricKey = some agreed ∧
      (consumerAgreement (some dataKey) header a.ownEcdh.publicKey).agreeSymmetricKey = some agreed := by
  refine agreeSymmetricKey_dual ⟨rfl, rfl, ?_, hmode.symm, rfl, rfl⟩ hC (fun pattern hpattern => ?_) rfl rfl
  · exact congrArg DataKeyPairECCMode.toHashType hmode.symm
  · have hall : pattern = .S ∨ pattern = .DHSS := by
      simpa [dataMsgPattern] using hpattern
    rcases hall with rfl | rfl
    · exact ⟨a.ownEcdh, rfl, rfl⟩
    · exact ⟨a.ownEcdh, dataKey, rfl, rfl, rfl, rfl⟩

/-- It comes out of the HMAC, so it has its length. -/
theorem dataAgreement_length {L : Libs} (hhmac : ∀ t key text, (L.hmac t key text).length = hashSize)
    {a : UdpDevice L.crypto} {dataPbk : Bytes} {agreed : Bytes × Bytes}
    (h : (a.dataAgreement dataPbk).agreeSymmetricKey = some agreed) : agreed.1.length = hashSize := by
  rw [← Option.some.inj h]
  exact hhmac _ _ _

/-- The private key of an object is the one its public key was for. -/
theorem ecdhFromKey_privKey [∀ t prk, Decidable (C.validKey t prk)] (dataKey : Ecdh C) {t : EccType}
    (ht : dataKey.eccType = t) (humi : t ≠ .umi) : ecdhFromKey C t dataKey.privKey = some dataKey := by
  subst ht
  obtain ⟨t, prk, valid⟩ := dataKey
  cases t with
  | curve25519 | sm2 => rw [ecdhFromKey, dif_pos valid]
  | umi => exact absurd rfl humi

/-! ## The release -/

/-- A private key that was not there is kept. -/
theorem UdpDevice.save_eq {a : UdpDevice C} {doId : Bytes} {dataPrkStore : DataPrivateKeyStore}
    (h : a.stores doId = none) :
    a.save doId dataPrkStore =
      { a with stores := fun id => if id = doId then some dataPrkStore else a.stores id } := by
  rw [save, h]

/-- What is published: the file, and what is saved of the key. -/
theorem publish_eq {F : FileCrypto UInt8} {a : UdpDevice C} (uuid : Arr UInt8 objectIDSize)
    (metadata server : Bytes) {dataKey : Ecdh C} {name : String} {mode : SymmetricCipherMode} (draws : Draws UInt8)
    (plaintext : Bytes) {agreed : Bytes × Bytes}
    (hagreed : (a.dataAgreement dataKey.publicKey).agreeSymmetricKey = some agreed)
    (hmode : newSymmetricCipherMode name = some mode) {z : Ztdo UInt8}
    (hz : newZtdo uuid metadata server mode (dataKeyPairEccMode a.defaultCipherScheme) = z) :
    publish F a uuid metadata server dataKey name draws plaintext =
      some {
        ztdoId := z.header.getObjectID
        file := (encryptZtdoFile F z draws plaintext agreed.1 agreed.2).file
        dataPrkStore :=
          { dataPrivateKeyBase64 := encodeToString dataKey.privKey,
            providerPublicKeyBase64 := encodeToString a.ownEcdh.publicKey } } := by
  subst hz
  rw [publish, hagreed, hmode]
  rfl

/-- The answer of a broker to an agent whose TEE it authorizes, and what the agent unwraps under the ECC mode of
    the broker. -/
theorem release_wrapping {L : Libs} (hL : LawfulLibs L)
    (hhmac : ∀ t key text, (L.hmac t key text).length = hashSize) {F : FileCrypto UInt8} (hF : LawfulFileCrypto F)
    {a : UdpDevice L.crypto} {header : ZtdoHeader UInt8}
    (hheader : header.getECCMode = dataKeyPairEccMode a.defaultCipherScheme) {doId : Bytes}
    {store : DataPrivateKeyStore} (hstore : a.stores doId = some store)
    (hprovider : store.providerPublicKeyBase64 = encodeToString a.ownEcdh.publicKey)
    (teeEcdh consumerEphemeralEcdh : Ecdh L.crypto) {nowMilli : Int64}
    (htee : a.isTEEAuthorized (encodeToString teeEcdh.publicKey) nowMilli = true) (iv : Arr UInt8 ivSize) :
    ∃ dwaMsg wrapping,
      a.handleUdpDataKeyWrappingOperations F iv nowMilli
        (.ok (dataAccessRequest doId teeEcdh consumerEphemeralEcdh)) = some dwaMsg ∧
      dwaMsg.errCode = 0 ∧ dwaMsg.kao = some wrapping ∧
      wrapping.providerPublicKeyBase64 = store.providerPublicKeyBase64 ∧
      unwrapDataPrivateKey F teeEcdh consumerEphemeralEcdh header wrapping
        = some (.ok store.dataPrivateKeyBase64) := by
  have hagree := fun d hd => wrapping_agree (a := a) (d := d) (Libs.lawful hL) hheader doId teeEcdh
    consumerEphemeralEcdh hd
  obtain ⟨agreed, hprovided, -⟩ := hagree ⟨store.providerPublicKeyBase64, [], []⟩ hprovider
  let wrapping : DataPrivateKeyWrapping := .new F iv store.providerPublicKeyBase64
    store.dataPrivateKeyBase64 agreed.1 agreed.2
  obtain ⟨agreed', hprovided', hconsumed⟩ := hagree wrapping hprovider
  obtain rfl : agreed = agreed' := Option.some.inj (hprovided.symm.trans hprovided')
  refine ⟨{ doId, kao := some wrapping }, wrapping, ?_, rfl, rfl, rfl, ?_⟩
  · have hauthorized : a.isTEEAuthorized (dataAccessRequest doId teeEcdh consumerEphemeralEcdh).teePublicKey
        nowMilli = true := htee
    have hstore' : a.stores (dataAccessRequest doId teeEcdh consumerEphemeralEcdh).doId = some store := hstore
    simp only [UdpDevice.handleUdpDataKeyWrappingOperations, hauthorized, hstore', hprovided]
    rfl
  · rw [unwrapDataPrivateKey, hconsumed]
    exact DataPrivateKeyWrapping.unwrap_new hF iv _ _ (wrapping_key_length hhmac hprovided) _

section

variable [∀ t prk, Decidable (C.validKey t prk)]

/-- The file of a ztdo that names the broker's ECC mode, with its own id and a wrapping that opens to the private
    key of the object: it is decrypted under the key that the broker encrypted it under. -/
theorem openData_written (hC : LawfulCrypto C) {F : FileCrypto UInt8} {a : UdpDevice C} {z : Ztdo UInt8}
    (hcomplete : z.header.Complete)
    (hheader : z.header.forFile.getECCMode = dataKeyPairEccMode a.defaultCipherScheme) {dataKey : Ecdh C}
    (hdataKey : dataKey.eccType = (dataKeyPairEccMode a.defaultCipherScheme).toEccType) (draws : Draws UInt8)
    (plaintext : Bytes) {agreed : Bytes × Bytes}
    (hagreed : (a.dataAgreement dataKey.publicKey).agreeSymmetricKey = some agreed)
    {teeEcdh consumerEphemeralEcdh : Ecdh C} {wrapping : DataPrivateKeyWrapping}
    (hprovider : wrapping.providerPublicKeyBase64 = encodeToString a.ownEcdh.publicKey)
    (hunwrap : unwrapDataPrivateKey F teeEcdh consumerEphemeralEcdh z.header.forFile wrapping
      = some (.ok (encodeToString dataKey.privKey))) (fresh : Arr UInt8 objectIDSize) :
    ∃ z', ∀ file, file = (encryptZtdoFile F z draws plaintext agreed.1 agreed.2).file →
      ∀ d, decryptZtdoFile F z' fresh (Reader.ofFile file) agreed.1 agreed.2 = d →
      openData F z.header.getObjectID teeEcdh consumerEphemeralEcdh wrapping fresh file =
        match d.err with
        | some e => some (.error (.decrypt e))
        | none => some (.ok d.plaintext) := by
  refine ⟨{ Ztdo.new fresh with header := z.header.forFile }, ?_⟩
  rintro file rfl d rfl
  have humi : (dataKeyPairEccMode a.defaultCipherScheme).toEccType ≠ .umi := by
    cases a.defaultCipherScheme <;> decide
  obtain ⟨agreed', hprovided, hconsumed⟩ := dataAgreement_agree hC a dataKey hheader
  obtain rfl : agreed = agreed' := Option.some.inj (hagreed.symm.trans hprovided)
  obtain ⟨s', hread⟩ := toStructure_encryptZtdoFile F hcomplete draws plaintext agreed.1 agreed.2
    (Reader.ofFile []) fresh
  have hparsed : (Ztdo.new fresh).parseHeader fresh
      (Reader.ofFile (encryptZtdoFile F z draws plaintext agreed.1 agreed.2).file) =
        ⟨{ Ztdo.new fresh with header := z.header.forFile }, s', none⟩ := by
    rw [Ztdo.parseHeader]
    exact congrArg (fun r : Outcome UInt8 (ZtdoHeader UInt8) =>
      (⟨{ Ztdo.new fresh with header := r.value }, r.reader, r.err⟩ : Outcome UInt8 (Ztdo UInt8))) hread
  have hid : z.header.getObjectID = z.header.forFile.getObjectID := by
    rw [ZtdoHeader.getObjectID, ZtdoHeader.getObjectID, ZtdoHeader.objectID_forFile]
  have hprk : ecdhFromKey C z.header.forFile.getECCMode.toEccType
      (decodeString (encodeToString dataKey.privKey)).1 = some dataKey := by
    rw [decodeString_encodeToString, hheader]
    exact ecdhFromKey_privKey dataKey hdataKey humi
  have hown : (decodeString wrapping.providerPublicKeyBase64).1 = a.ownEcdh.publicKey := by
    rw [hprovider, decodeString_encodeToString]
  simp only [openData, hparsed, hid, ne_eq, not_true_eq_false, if_false, hunwrap, hprk, hown, hconsumed]

end

/-- An object that is published under a configured mode, and whose private key is saved under its name, is opened
    by every agent whose TEE the broker authorizes: the broker answers its request with a wrapping, and the agent
    gets the data out of the file where the mode has a tag of 96 bits or more, and an error where it has not. -/
theorem published_data_opens {L : Libs} [∀ t prk, Decidable (L.crypto.validKey t prk)] (hL : LawfulLibs L)
    (hhmac : ∀ t key text, (L.hmac t key text).length = hashSize) {F : FileCrypto UInt8} (hF : LawfulFileCrypto F)
    (a : UdpDevice L.crypto) (uuid : Arr UInt8 objectIDSize) (metadata server : Bytes) (dataKey : Ecdh L.crypto)
    (hdataKey : dataKey.eccType = (dataKeyPairEccMode a.defaultCipherScheme).toEccType) (name : String)
    (hname : newSymmetricCipherMode name ≠ none) (draws : Draws UInt8) (plaintext : Bytes)
    (hplaintext : plaintext ≠ []) :
    ∃ p, publish F a uuid metadata server dataKey name draws plaintext = some p ∧
      (a.stores p.ztdoId = none →
        ∀ (teeEcdh consumerEphemeralEcdh : Ecdh L.crypto) (nowMilli : Int64) (iv : Arr UInt8 ivSize)
          (fresh : Arr UInt8 objectIDSize),
          a.isTEEAuthorized (encodeToString teeEcdh.publicKey) nowMilli = true →
        ∃ dwaMsg wrapping r,
          (a.save p.ztdoId p.dataPrkStore).handleUdpDataKeyWrappingOperations F iv nowMilli
            (.ok (dataAccessRequest p.ztdoId teeEcdh consumerEphemeralEcdh)) = some dwaMsg ∧
          dwaMsg.errCode = 0 ∧ dwaMsg.kao = some wrapping ∧
          openData F p.ztdoId teeEcdh consumerEphemeralEcdh wrapping fresh p.file = some r ∧
          if name = "AES-256-GCM-64" ∨ name = "SM4-GCM-64" then ∃ e, r = .error (.decrypt e)
          else r = .ok plaintext) := by
  have hC := Libs.lawful hL
  obtain ⟨mode, hmode⟩ := Option.ne_none_iff_exists'.mp hname
  have hlt : mode.toNat < 16 := Nat.lt_trans (newSymmetricCipherMode_lt hmode) (by decide)
  have hecc : (dataKeyPairEccMode a.defaultCipherScheme).toNat < 8 := by
    cases a.defaultCipherScheme <;> decide
  have hz := newZtdo_configured uuid metadata server mode (dataKeyPairEccMode a.defaultCipherScheme)
  generalize hnew : newZtdo uuid metadata server mode (dataKeyPairEccMode a.defaultCipherScheme) = z at hz
  have hheader : z.header.forFile.getECCMode = dataKeyPairEccMode a.defaultCipherScheme :=
    z.header.getECCMode_forFile.trans (hz.getECCMode hlt hecc)
  obtain ⟨agreed, hagreed, -⟩ := dataAgreement_agree hC a dataKey hheader
  refine ⟨_, publish_eq uuid metadata server draws plaintext hagreed hmode hnew, ?_⟩
  intro hunsaved teeEcdh consumerEphemeralEcdh nowMilli iv fresh htee
  rw [UdpDevice.save_eq hunsaved]
  let store : DataPrivateKeyStore :=
    { dataPrivateKeyBase64 := encodeToString dataKey.privKey,
      providerPublicKeyBase64 := encodeToString a.ownEcdh.publicKey }
  let keeper : UdpDevice L.crypto :=
    { a with stores := fun id => if id = z.header.getObjectID then some store else a.stores id }
  have hkept : keeper.stores z.header.getObjectID = some store := if_pos rfl
  obtain ⟨dwaMsg, wrapping, hanswer, herr, hkao, hprovider, hunwrap⟩ :=
    release_wrapping hL hhmac hF (a := keeper) hheader hkept rfl teeEcdh consumerEphemeralEcdh htee iv
  obtain ⟨z', hopen⟩ :=
    openData_written hC hz.complete hheader hdataKey draws plaintext hagreed hprovider hunwrap fresh
  have hopen := hopen _ rfl _ rfl
  have hmode' : z.header.getCipherMode = mode := hz.getCipherMode hlt
  have hsig : z.header.hasSignature = true := by
    rw [← Bool.not_eq_false]
    exact fun hfalse => absurd (hz.hasSignature_eq_false.mp hfalse).1 (by decide)
  have htag := newSymmetricCipherMode_tagSize hmode
  by_cases hshort : name = "AES-256-GCM-64" ∨ name = "SM4-GCM-64"
  · -- the file is written, with payloads that hold nothing
    cases herr' : (decryptZtdoFile F z' fresh
        (Reader.ofFile (encryptZtdoFile F z draws plaintext agreed.1 agreed.2).file) agreed.1 agreed.2).err with
    | some e =>
      rw [herr'] at hopen
      exact ⟨dwaMsg, wrapping, _, hanswer, herr, hkao, hopen, by rw [if_pos hshort]; exact ⟨e, rfl⟩⟩
    | none =>
      have hlarge := htag.mp (tagSize_of_decrypt F hz hlt (s := Reader.ofFile []) herr')
      rcases hshort with hname | hname
      · exact absurd hname hlarge.1
      · exact absurd hname hlarge.2
  · obtain ⟨block, hblock⟩ := newSymmetricCipherMode_accepts hmode (dataAgreement_length hhmac hagreed)
    have haead : SymmetricCipherMode.aead z.header.getCipherMode agreed.1 = .ok block := by
      rw [hmode']
      exact SymmetricCipherMode.aead_eq_ok_iff.mpr ⟨hblock, htag.mpr (not_or.mp hshort)⟩
    have hdecrypt : decryptZtdoFile F z' fresh
        (Reader.ofFile (encryptZtdoFile F z draws plaintext agreed.1 agreed.2).file) agreed.1 agreed.2 = _ :=
      decrypt_encryptZtdoFile_unused F hF hz.complete hsig hz.signature haead draws hplaintext agreed.2 z' fresh
        (Reader.ofFile [])
    rw [hdecrypt] at hopen
    exact ⟨dwaMsg, wrapping, _, hanswer, herr, hkao, hopen, by rw [if_neg hshort]⟩

instance (t : EccType) (prk : Bytes) : Decidable (sampleLibs.crypto.validKey t prk) :=
  inferInstanceAs (Decidable (prk.length = 32))

/-- An object of three bytes, from a broker without private keys. -/
theorem published_data_opens_sample :
    let a : UdpDevice sampleLibs.crypto := { sampleDevice with stores := fun _ => none }
    ∃ p, publish sampleCrypto a (Arr.zero objectIDSize) [123, 125] [110] (sampleEcdh .curve25519 5) "AES-256-GCM-128"
        sampleDraws [1, 2, 3] = some p ∧
      ∃ dwaMsg wrapping,
        (a.save p.ztdoId p.dataPrkStore).handleUdpDataKeyWrappingOperations sampleCrypto (Arr.zero ivSize) 5
          (.ok (dataAccessRequest p.ztdoId (sampleEcdh .curve25519 8) (sampleEcdh .curve25519 9))) = some dwaMsg ∧
        dwaMsg.kao = some wrapping ∧
        openData sampleCrypto p.ztdoId (sampleEcdh .curve25519 8) (sampleEcdh .curve25519 9) wrapping
          (Arr.zero objectIDSize) p.file = some (.ok [1, 2, 3]) := by
  intro a
  have hhmac : ∀ t key text, (sampleLibs.hmac t key text).length = hashSize := by
    intro t key text
    simp only [sampleLibs, List.length_take, List.length_append, List.length_replicate]
    omega
  obtain ⟨p, hpublish, hopens⟩ := published_data_opens sampleLibs_lawful hhmac sampleCrypto_lawful a
    (Arr.zero objectIDSize) [123, 125] [110] (sampleEcdh .curve25519 5) rfl "AES-256-GCM-128" (by decide) sampleDraws
    [1, 2, 3] (List.cons_ne_nil _ _)
  obtain ⟨dwaMsg, wrapping, r, hanswer, -, hkao, hopen, hr⟩ := hopens rfl (sampleEcdh .curve25519 8)
    (sampleEcdh .curve25519 9) 5 (Arr.zero ivSize) (Arr.zero objectIDSize) (by decide)
  rw [if_neg (by decide)] at hr
  exact ⟨p, hpublish, dwaMsg, wrapping, hanswer, hkao, hopen.trans (congrArg some hr)⟩

end OpenNHP.DB
