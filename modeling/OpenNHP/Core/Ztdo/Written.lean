/-
  Files that were just written.

  THE SPECIFICATION.  The file that a fresh `Ztdo`, configured with a signature, writes for a plaintext that is not
  empty decrypts to that plaintext.

  WHERE IT FAILS.  It does exactly when the tag of the cipher mode is one GCM takes (`roundTrip_iff`).  The two
  modes with a tag of 8 bytes have no AEAD; the writer drops that error and puts payloads without ciphertext into
  the file, the reader returns it.

  ASSEMBLY.
  1. What the setters make of a new value is said once (`Configured`), with what its header then says.
  2. Such a header is complete, and what is written of it is read back (`toStructure_encryptZtdoFile`).
  3. The payloads open and the signature is the one that is recalculated, so the reader's path of
     `OpenNHP.Core.Ztdo.File` applies (`decrypt_encryptZtdoFile`).
-/
import OpenNHP.Core.Ztdo.File

namespace OpenNHP.Core.Ztdo

variable {β : Type} [Letter β]

/-! ## Configured values -/

/-- A header without metadata gets an empty chunk before it is written. -/
theorem ZtdoHeader.forFile_cases (h : ZtdoHeader β) :
    h.forFile = h ∨ ∃ h', h.setMetadata [] = some h' ∧ h.forFile = h' := by
  rw [forFile]
  split_ifs
  · obtain ⟨h', hset, -⟩ := h.setMetadata_eq_some []
    exact .inr ⟨h', hset, by rw [hset, Option.getD_some]⟩
  · exact .inl rfl

/-- The metadata `EncryptZtdoFile` sets itself leaves the configuration alone. -/
theorem ZtdoHeader.config_forFile (h : ZtdoHeader β) : h.forFile.config = h.config := by
  rcases h.forFile_cases with heq | ⟨h', hset, heq⟩
  · rw [heq]
  · rw [heq, setMetadata_config hset]

/-- This changes nothing of the configuration: not the mode, -/
theorem ZtdoHeader.getCipherMode_forFile (h : ZtdoHeader β) :
    h.forFile.getCipherMode = h.getCipherMode := by
  rw [getCipherMode, config_forFile, getCipherMode]

/-- not the curve, -/
theorem ZtdoHeader.getECCMode_forFile (h : ZtdoHeader β) :
    h.forFile.getECCMode = h.getECCMode := by
  rw [getECCMode, config_forFile, getECCMode]

/-- and not the flag. -/
theorem ZtdoHeader.hasSignature_forFile (h : ZtdoHeader β) :
    h.forFile.hasSignature = h.hasSignature := by
  rw [hasSignature, config_forFile, hasSignature]

/-- A header the writer can put into a file: the server string is as long as its length field says, and
    so are the metadata chunks, unless there is no metadata and the writer sets it anew. -/
def ZtdoHeader.Complete (h : ZtdoHeader β) : Prop :=
  h.ServerFits ∧ (h.getMetadata = [] ∨ Chained h.metadata)

/-- A complete header is well formed in the file. -/
theorem ZtdoHeader.Complete.forFile {h : ZtdoHeader β} (hc : h.Complete) : h.forFile.WellFormed := by
  obtain ⟨hserver, hmeta⟩ := hc
  rw [ZtdoHeader.forFile]
  split_ifs with hnil
  · obtain ⟨h', hset, -⟩ := h.setMetadata_eq_some []
    rw [hset, Option.getD_some]
    exact setMetadata_wellFormed hserver hset
  · refine ⟨hserver, hmeta.resolve_left fun h => hnil ?_⟩
    rw [h, List.length_nil]

/-- A fresh `Ztdo` with a cipher configuration and, when they are set, a server string and metadata. -/
structure Configured (uuid : Arr β objectIDSize) (server metadata : Option (List β))
    (hasSignature : Bool) (mode : SymmetricCipherMode) (eccMode : DataKeyPairECCMode) (z : Ztdo β) :
    Prop where
  setters : ∃ z₁ z₂,
    server.elim (some (Ztdo.new uuid)) (Ztdo.new uuid).setNhpServer = some z₁ ∧
    metadata.elim (some z₁) z₁.setMetadata = some z₂ ∧
    z = z₂.setCipherConfig hasSignature mode eccMode

namespace Configured

variable {uuid : Arr β objectIDSize} {server metadata : Option (List β)} {hasSignature : Bool}
  {mode : SymmetricCipherMode} {eccMode : DataKeyPairECCMode} {z : Ztdo β}

/-- There is such a value for every server string that is not too long. -/
theorem exists_configured (uuid : Arr β objectIDSize) (server : List β)
    (hserver : server.length ≤ nhpServerMaxSize) (metadata : List β) (hasSignature : Bool)
    (mode : SymmetricCipherMode) (eccMode : DataKeyPairECCMode) :
    ∃ z, Configured uuid (some server) (some metadata) hasSignature mode eccMode z := by
  have hset₁ : ∃ h₁, (ZtdoHeader.new uuid).setNhpServer server = some h₁ :=
    ⟨_, if_neg (Nat.not_lt.mpr hserver)⟩
  obtain ⟨h₁, hset₁⟩ := hset₁
  obtain ⟨h₂, hset₂, -⟩ := h₁.setMetadata_eq_some metadata
  exact ⟨_, ⟨h₁, .new⟩, ⟨h₂, .new⟩, Option.map_eq_some_iff.mpr ⟨h₁, hset₁, rfl⟩,
    Option.map_eq_some_iff.mpr ⟨h₂, hset₂, rfl⟩, rfl⟩

/-- A configured value is a new one with its configuration set once. -/
theorem eq (hz : Configured uuid server metadata hasSignature mode eccMode z) :
    ∃ h : ZtdoHeader β, h.Complete ∧ h.config = 0 ∧
      z = { header := h.setCipherConfig hasSignature mode eccMode, signature := .new } := by
  obtain ⟨z₁, z₂, hserver, hmeta, rfl⟩ := hz.setters
  have h₁ : z₁.header.ServerFits ∧ z₁.header.config = 0 ∧ z₁.header.metadata = [] ∧
      z₁.signature = .new := by
    cases server with
    | none =>
      obtain rfl := Option.some.inj hserver
      exact ⟨ZtdoHeader.new_serverFits uuid, byteOf_ofByte _, rfl, rfl⟩
    | some server =>
      obtain ⟨h, hset, rfl⟩ := Option.map_eq_some_iff.mp hserver
      exact ⟨ZtdoHeader.setNhpServer_serverFits hset,
        (ZtdoHeader.setNhpServer_config hset).trans (byteOf_ofByte _),
        ZtdoHeader.setNhpServer_metadata hset, rfl⟩
  obtain ⟨hfits, hconfig, hnil, hsig⟩ := h₁
  refine ⟨z₂.header, ?_⟩
  cases metadata with
  | none =>
    obtain rfl := Option.some.inj hmeta
    refine ⟨⟨hfits, .inl ?_⟩, hconfig, ?_⟩
    · rw [ZtdoHeader.getMetadata, hnil, List.flatMap_nil]
    · rw [Ztdo.setCipherConfig, hsig]
  | some metadata =>
    obtain ⟨h, hset, rfl⟩ := Option.map_eq_some_iff.mp hmeta
    have hwf := ZtdoHeader.setMetadata_wellFormed hfits hset
    refine ⟨⟨hwf.server, .inr hwf.metadata⟩, (ZtdoHeader.setMetadata_config hset).trans hconfig, ?_⟩
    rw [Ztdo.setCipherConfig, hsig]

/-- Its header is complete, -/
theorem complete (hz : Configured uuid server metadata hasSignature mode eccMode z) :
    z.header.Complete := by
  obtain ⟨h, hc, -, rfl⟩ := hz.eq
  exact hc

/-- its signature new, -/
theorem signature (hz : Configured uuid server metadata hasSignature mode eccMode z) :
    z.signature = .new := by
  obtain ⟨h, -, -, rfl⟩ := hz.eq
  rfl

/-- its mode the one that was set, -/
theorem getCipherMode (hz : Configured uuid server metadata hasSignature mode eccMode z)
    (hmode : mode.toNat < 16) : z.header.getCipherMode = mode := by
  obtain ⟨h, -, hconfig, rfl⟩ := hz.eq
  rw [ZtdoHeader.getCipherMode_setCipherConfig _ _ _ _ hmode, hconfig]
  exact UInt8.zero_or

/-- its curve too, -/
theorem getECCMode (hz : Configured uuid server metadata hasSignature mode eccMode z)
    (hmode : mode.toNat < 16) (hecc : eccMode.toNat < 8) : z.header.getECCMode = eccMode := by
  obtain ⟨h, -, hconfig, rfl⟩ := hz.eq
  have hbits : ∀ flag : Bool, ∀ m < 16, ∀ e < 8,
      (((if flag then (0x80 : UInt8) else 0) ||| UInt8.ofNat m ||| (UInt8.ofNat e <<< 4)) &&& 0x7F) >>> 4
        = UInt8.ofNat e := by decide +kernel
  have h := hbits hasSignature mode.toNat hmode eccMode.toNat hecc
  rw [UInt8.ofNat_toNat, UInt8.ofNat_toNat] at h
  rw [ZtdoHeader.getECCMode, ZtdoHeader.config_setCipherConfig, hconfig, UInt8.zero_or, h]

/-- and so is its flag, unless the other two spill into it. -/
theorem hasSignature_eq_false (hz : Configured uuid server metadata hasSignature mode eccMode z) :
    z.header.hasSignature = false ↔
      hasSignature = false ∧ mode &&& 0x80 = 0 ∧ (eccMode <<< 4) &&& 0x80 = 0 := by
  obtain ⟨h, -, hconfig, rfl⟩ := hz.eq
  rw [ZtdoHeader.hasSignature_setCipherConfig, ZtdoHeader.hasSignature_eq_false, hconfig]
  exact and_iff_right rfl

end Configured

/-! ## The round trip -/

section

variable (C : FileCrypto β) [DecidableEq β]

/-- `DecryptZtdoFile` succeeds only when the mode in the header has an AEAD for the key. -/
theorem decrypt_ok_aead {z : Ztdo β} {uuid : Arr β objectIDSize} {s : Reader β} {key ad : List β}
    (hok : (decryptZtdoFile C z uuid s key ad).err = none) :
    ∃ block, SymmetricCipherMode.aead
      (toStructure ZtdoHeader.fields s (ZtdoHeader.new uuid)).value.getCipherMode key = .ok block := by
  obtain ⟨h, s₁, s₂, sig, hread, hloop, -, -⟩ := decrypt_ok C hok
  rw [hread]
  exact readPayloads_ok_aead C hloop

/-- What decrypting a file just written gives, for a `Ztdo` with any signature left from before. -/
theorem decrypt_encryptZtdoFile (hC : LawfulFileCrypto C) {z : Ztdo β} (hc : z.header.Complete)
    (hsig : z.header.hasSignature = true) {key : List β} {block : CipherBlock β}
    (haead : SymmetricCipherMode.aead z.header.getCipherMode key = .ok block) (draws : Draws β)
    {plaintext : List β} (hne : plaintext ≠ []) (ad : List β) (z' : Ztdo β)
    (uuid : Arr β objectIDSize) (s : Reader β) :
    let e := encryptZtdoFile C z draws plaintext key ad
    let h := z.header.forFile
    let ps := payloads C h.getCipherMode key ad draws plaintext
    decryptZtdoFile C z' uuid { s with rest := e.file } key ad
      = { ztdo := e.ztdo, plaintext,
          err := if e.ztdo.signature.signature = (recalcSignature C h ps key).signature then none
            else some .signature } := by
  intro e h ps
  have hmode : h.getCipherMode = z.header.getCipherMode := z.header.getCipherMode_forFile
  have hsig' : h.hasSignature = true := z.header.hasSignature_forFile.trans hsig
  have hps : ps ≠ [] := fun h => chunks_ne_nil draws hne (List.map_eq_nil_iff.mp h)
  have hopen := payloads_open C hC h ad (hmode ▸ haead) draws plaintext
  have he : e = _ := encryptZtdoFile_file C z draws plaintext key ad
  have hfile : e.file
      = marshal ZtdoHeader.fields h ++ (payloadLetters ps ++ e.ztdo.signature.signature.1) := by
    rw [he]
  have hheader : e.ztdo.header = h := by rw [he]
  have hz : e.ztdo = { header := h, signature := e.ztdo.signature } := by rw [← hheader]
  rw [decrypt_signed C hc.forFile hsig' hopen hps e.ztdo.signature hfile,
    ← hz, ← List.flatMap_def, chunks_flatten]

omit [DecidableEq β] in
/-- The header of a file just written, as a reader sees it. -/
theorem toStructure_encryptZtdoFile {z : Ztdo β} (hc : z.header.Complete) (draws : Draws β)
    (plaintext key ad : List β) (s : Reader β) (uuid : Arr β objectIDSize) :
    ∃ s', toStructure ZtdoHeader.fields
        { s with rest := (encryptZtdoFile C z draws plaintext key ad).file } (ZtdoHeader.new uuid)
      = ⟨z.header.forFile, s', none⟩ := by
  have he := encryptZtdoFile_file C z draws plaintext key ad
  have hfile := congrArg Encryption.file he
  obtain ⟨s', hread, -⟩ := toStructure_header hc.forFile
    (s := { s with rest := (encryptZtdoFile C z draws plaintext key ad).file }) hfile
    (v := ZtdoHeader.new uuid) rfl
  exact ⟨s', hread⟩

omit [DecidableEq β] in
/-- A `Ztdo` that has not been used leaves the signature the reader recomputes. -/
theorem signature_encryptZtdoFile (z : Ztdo β) (hsig : z.signature = .new) (draws : Draws β)
    (plaintext key ad : List β) :
    let h := z.header.forFile
    (encryptZtdoFile C z draws plaintext key ad).ztdo.signature
      = recalcSignature C h (payloads C h.getCipherMode key ad draws plaintext) key := by
  intro h
  rw [encryptZtdoFile_file, hsig]
  rfl

/-- What decrypting a file just written gives, for a `Ztdo` whose signature was not used before. -/
theorem decrypt_encryptZtdoFile_unused (hC : LawfulFileCrypto C) {z : Ztdo β}
    (hc : z.header.Complete) (hsig : z.header.hasSignature = true) (hunused : z.signature = .new)
    {key : List β} {block : CipherBlock β}
    (haead : SymmetricCipherMode.aead z.header.getCipherMode key = .ok block) (draws : Draws β)
    {plaintext : List β} (hne : plaintext ≠ []) (ad : List β) (z' : Ztdo β)
    (uuid : Arr β objectIDSize) (s : Reader β) :
    decryptZtdoFile C z' uuid
        { s with rest := (encryptZtdoFile C z draws plaintext key ad).file } key ad
      = { ztdo := (encryptZtdoFile C z draws plaintext key ad).ztdo, plaintext, err := none } := by
  refine (decrypt_encryptZtdoFile C hC hc hsig haead draws hne ad z' uuid s).trans ?_
  rw [if_pos (congrArg _ (signature_encryptZtdoFile C z hunused draws plaintext key ad))]

/-- Decrypting the file of a fresh `Ztdo` succeeds only with a tag that GCM takes. -/
theorem tagSize_of_decrypt {uuid : Arr β objectIDSize} {server metadata : Option (List β)}
    {hasSignature : Bool} {mode : SymmetricCipherMode} {eccMode : DataKeyPairECCMode} {z : Ztdo β}
    (hz : Configured uuid server metadata hasSignature mode eccMode z) (hmode : mode.toNat < 16)
    {draws : Draws β} {plaintext key ad : List β} {z' : Ztdo β} {uuid' : Arr β objectIDSize}
    {s : Reader β}
    (hok : (decryptZtdoFile C z' uuid'
      { s with rest := (encryptZtdoFile C z draws plaintext key ad).file } key ad).err = none) :
    12 ≤ mode.tagSize := by
  obtain ⟨block, haead⟩ := decrypt_ok_aead C hok
  obtain ⟨s', hread⟩ := toStructure_encryptZtdoFile C hz.complete draws plaintext key ad s uuid'
  rw [hread] at haead
  simp only [ZtdoHeader.getCipherMode_forFile, hz.getCipherMode hmode] at haead
  exact (SymmetricCipherMode.aead_eq_ok_iff.mp haead).2

/-- The file a fresh, signed `Ztdo` writes is decrypted to its plaintext, with its signature verified,
    exactly when the tag size of the mode is one that GCM takes. -/
theorem roundTrip_iff (hC : LawfulFileCrypto C) {uuid : Arr β objectIDSize}
    {server metadata : Option (List β)} {mode : SymmetricCipherMode} {eccMode : DataKeyPairECCMode}
    {z : Ztdo β} (hz : Configured uuid server metadata true mode eccMode z) {key : List β}
    (hkey : mode.Accepts key) (draws : Draws β) {plaintext : List β} (hne : plaintext ≠ [])
    (ad : List β) (fresh uuid' : Arr β objectIDSize) (s : Reader β) :
    let e := encryptZtdoFile C z draws plaintext key ad
    let d := decryptZtdoFile C (Ztdo.new fresh) uuid' { s with rest := e.file } key ad
    (e.err = none ∧ d.err = none ∧ d.plaintext = plaintext ∧ d.ztdo.header.hasSignature = true) ↔
      12 ≤ mode.tagSize := by
  intro e d
  have hlt : mode.toNat < 16 := Nat.lt_trans hkey.mode_le (by decide)
  have hmode : z.header.getCipherMode = mode := hz.getCipherMode hlt
  obtain ⟨block, hblock⟩ := hkey
  have hsig : z.header.hasSignature = true := by
    rw [← Bool.not_eq_false]
    exact fun hfalse => absurd (hz.hasSignature_eq_false.mp hfalse).1 (by decide)
  constructor
  · rintro ⟨-, hok, -, -⟩
    exact tagSize_of_decrypt C hz hlt hok
  · intro htag
    have haead : SymmetricCipherMode.aead mode key = .ok block :=
      SymmetricCipherMode.aead_eq_ok_iff.mpr ⟨hblock, htag⟩
    have hd : d = _ := decrypt_encryptZtdoFile_unused C hC hz.complete hsig hz.signature
      (hmode ▸ haead) draws hne ad (Ztdo.new fresh) uuid' s
    rw [hd]
    refine ⟨rfl, rfl, rfl, ?_⟩
    rw [encryptZtdoFile_file]
    exact (ZtdoHeader.hasSignature_forFile z.header).trans hsig

end

/-! ### A small library to run the code with -/

/-- 32 bytes that depend on all bytes of the input. -/
def checksum (ls : List UInt8) : Arr UInt8 signatureLenSize :=
  ⟨ls.foldl (fun acc b => 31 * acc + b) 7 :: List.replicate 31 0, rfl⟩

/-- The text in the clear with a tag of zero bytes, and checksums for hashes. -/
def sampleCrypto : FileCrypto UInt8 where
  sha256 := checksum
  hmacSha256 key ls := checksum (key ++ ls)
  gcmSeal _ tagSize _ text _ := text ++ List.replicate tagSize 0
  gcmOpen _ tagSize _ cipherText _ :=
    if tagSize ≤ cipherText.length ∧
        cipherText.drop (cipherText.length - tagSize) = List.replicate tagSize 0 then
      some (cipherText.take (cipherText.length - tagSize))
    else none

/-- The sample libraries keep the laws. -/
theorem sampleCrypto_lawful : LawfulFileCrypto sampleCrypto where
  gcmOpen_gcmSeal block tagSize nonce text ad := by
    have hlen : (text ++ List.replicate tagSize (0 : UInt8)).length - tagSize = text.length := by
      rw [List.length_append, List.length_replicate]
      omega
    have htag : tagSize ≤ (text ++ List.replicate tagSize (0 : UInt8)).length := by
      rw [List.length_append, List.length_replicate]
      omega
    simp only [sampleCrypto, hlen, List.drop_left, List.take_left, htag, and_self, if_true]
  length_gcmSeal block tagSize nonce text ad := by
    simp only [sampleCrypto, List.length_append, List.length_replicate]
  length_of_gcmOpen block tagSize nonce cipherText ad text h := by
    simp only [sampleCrypto, Option.ite_none_right_eq_some] at h
    obtain ⟨⟨hle, -⟩, htext⟩ := h
    rw [← Option.some.inj htext, List.length_take]
    omega

/-- Chunks of full size, and zeros for IVs. -/
def sampleDraws : Draws UInt8 where
  size _ := ⟨dataChunkSize, dataChunkSize_lower, Nat.le_refl _⟩
  iv _ := Arr.zero ivSize

/-- AES with 16 bytes of tag takes a key of 32 bytes. -/
theorem aes128Tag_accepts : SymmetricCipherMode.AES256GCM128Tag.Accepts (List.replicate 32 (5 : UInt8)) :=
  ⟨_, rfl⟩

/-- Three bytes under AES-256-GCM-128. -/
theorem roundTrip_aes128Tag :
    ∃ z, Configured (Arr.zero objectIDSize) (some [110]) (some [109, 100]) true .AES256GCM128Tag 1 z ∧
      let e := encryptZtdoFile sampleCrypto z sampleDraws [1, 2, 3] (List.replicate 32 5) [9]
      let d := decryptZtdoFile sampleCrypto (Ztdo.new (Arr.zero objectIDSize)) (Arr.zero objectIDSize)
        (Reader.ofFile e.file) (List.replicate 32 5) [9]
      e.err = none ∧ d.err = none ∧ d.plaintext = [1, 2, 3] ∧ d.ztdo.header.hasSignature = true := by
  obtain ⟨z, hz⟩ := Configured.exists_configured (Arr.zero (β := UInt8) objectIDSize) [110]
    (by decide) [109, 100] true .AES256GCM128Tag 1
  exact ⟨z, hz, (roundTrip_iff sampleCrypto sampleCrypto_lawful hz aes128Tag_accepts sampleDraws
    (List.cons_ne_nil _ _) [9] (Arr.zero objectIDSize) (Arr.zero objectIDSize) (Reader.ofFile [])).mpr
    (by decide)⟩

/-- One byte under AES-256-GCM-64: the key is accepted, the file is written without an error, and it
    does not decrypt. -/
theorem aes64Tag_broken :
    SymmetricCipherMode.AES256GCM64Tag.Accepts (List.replicate 32 (5 : UInt8)) ∧
    ∃ z, Configured (Arr.zero objectIDSize) (some [110]) (some []) true .AES256GCM64Tag 0 z ∧
      let e := encryptZtdoFile sampleCrypto z sampleDraws [1] (List.replicate 32 5) []
      let d := decryptZtdoFile sampleCrypto (Ztdo.new (Arr.zero objectIDSize)) (Arr.zero objectIDSize)
        (Reader.ofFile e.file) (List.replicate 32 5) []
      e.err = none ∧ d.err ≠ none := by
  refine ⟨⟨_, rfl⟩, ?_⟩
  obtain ⟨z, hz⟩ := Configured.exists_configured (Arr.zero (β := UInt8) objectIDSize) [110]
    (by decide) [] true .AES256GCM64Tag 0
  refine ⟨z, hz, rfl, fun hok => ?_⟩
  exact absurd (tagSize_of_decrypt sampleCrypto hz (by decide) (s := Reader.ofFile []) hok) (by decide)

end OpenNHP.Core.Ztdo
