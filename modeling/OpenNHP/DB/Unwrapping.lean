/-
  What `Open` is called with (`nhp/core/ztdo/noise.go`: `Decrypt`, `Unwrap`; `nhp/core/ztdo/ztdo.go`:
  `GetPlainText`).

  THE PROGRAM.  The `Open` of a GCM panics on a nonce that is not 12 bytes long.  The nonce of a payload is an
  array of 12 bytes, whatever file it comes from; that of a wrapping is what a text decodes to, and its length is
  not looked at.

  THE SPECIFICATION.  Unwrapping and decryption return a text or an error for all strings and modes.

  THE CRUX.  The functions are taken once more with the nonce's length looked at (`aeadOpen`, `none` for the
  panic), and each agrees with the one of the module it is from wherever it does not panic
  (`decryptNonce_eq_some`, `unwrap_eq`).

  ASSEMBLY.  `unwrap_iff` says for which wrappings nothing panics, and `unwrap_panics` is one that does.
-/
import OpenNHP.DB.KeyWrapping

namespace OpenNHP.Core.Ztdo

variable {β : Type} (C : FileCrypto β)

/-- `aead.Open`; `none` is the panic on the length of the nonce. -/
def aeadOpen (block : CipherBlock β) (tagSize : Nat) (nonce cipherText ad : List β) :
    Option (Except ZtdoError (List β)) :=
  if nonce.length ≠ ivSize then none
  else match C.gcmOpen block tagSize nonce cipherText ad with
    | some plaintext => some (.ok plaintext)
    | none => some (.error .authentication)

namespace SymmetricCipherMode

/-- `Decrypt` with a nonce of any length. -/
def decryptNonce (mode : SymmetricCipherMode) (key nonce cipherText ad : List β) :
    Option (Except ZtdoError (List β)) :=
  match aead mode key with
  | .error e => some (.error e)
  | .ok block => aeadOpen C block (tagSize mode) nonce cipherText ad

variable {C}

/-- A nonce of the right size is the only one that `decrypt` is about. -/
theorem decryptNonce_eq_some {nonce : List β} (h : nonce.length = ivSize) (mode : SymmetricCipherMode)
    (key cipherText ad : List β) :
    decryptNonce C mode key nonce cipherText ad = some (decrypt C mode key nonce cipherText ad) := by
  cases haead : aead mode key with
  | error e => simp only [decryptNonce, decrypt, haead, bind, Except.bind]
  | ok block =>
    cases hopen : C.gcmOpen block (tagSize mode) nonce cipherText ad with
    | none => simp only [decryptNonce, decrypt, haead, aeadOpen, h, hopen, bind, Except.bind, ne_eq,
        not_true_eq_false, if_false]
    | some plaintext => simp only [decryptNonce, decrypt, haead, aeadOpen, h, hopen, bind, Except.bind, ne_eq,
        not_true_eq_false, if_false, pure, Except.pure]

/-- `Decrypt` panics exactly when it gets an AEAD and no nonce for it. -/
theorem decryptNonce_eq_none_iff {mode : SymmetricCipherMode} {key nonce cipherText ad : List β} :
    decryptNonce C mode key nonce cipherText ad = none ↔
      (∃ block, aead mode key = .ok block) ∧ nonce.length ≠ ivSize := by
  constructor
  · intro h
    have hnonce : nonce.length ≠ ivSize := by
      intro hlen
      rw [decryptNonce_eq_some hlen] at h
      exact Option.some_ne_none _ h
    refine ⟨?_, hnonce⟩
    cases haead : aead mode key with
    | error e =>
      rw [decryptNonce, haead] at h
      exact absurd h (Option.some_ne_none _)
    | ok block => exact ⟨block, rfl⟩
  · rintro ⟨⟨block, haead⟩, hnonce⟩
    simp only [decryptNonce, haead, aeadOpen, ne_eq, hnonce, not_false_eq_true, if_true]

end SymmetricCipherMode

/-- `GetPlainText`, with what `Open` may do. -/
def ZtdoPayload.getPlainTextNonce (mode : SymmetricCipherMode) (key ad : List β) (p : ZtdoPayload β) :
    Option (Except ZtdoError (List β)) :=
  mode.decryptNonce C key p.content.iv.1 p.content.cipherText ad

end OpenNHP.Core.Ztdo

namespace OpenNHP.DB

open BigEndian Base64 OpenNHP.Core OpenNHP.Core.Ztdo

namespace DataPrivateKeyWrapping

variable (F : FileCrypto UInt8) (d : DataPrivateKeyWrapping) (key ad : Bytes)

/-- `Unwrap`, step by step. -/
theorem unwrap_eq : d.unwrap F key ad =
    if (decodeString d.ivBase64).2 = false ∨ (decodeString d.prkWrapping).2 = false then some (.error .base64)
    else (SymmetricCipherMode.AES256GCM128Tag.decryptNonce F key (decodeString d.ivBase64).1
      (decodeString d.prkWrapping).1 ad).map (Except.mapError UnwrapError.decrypt) := by
  simp only [unwrap]
  split_ifs with hbase64 hnonce
  · rfl
  · -- the nonce has the wrong length, which is no matter without an AEAD
    cases haead : SymmetricCipherMode.AES256GCM128Tag.aead key with
    | error e => simp only [SymmetricCipherMode.decryptNonce, haead, Option.map_some, Except.mapError]
    | ok block =>
      rw [SymmetricCipherMode.decryptNonce_eq_none_iff.mpr ⟨⟨block, haead⟩, hnonce⟩]
      rfl
  · rw [SymmetricCipherMode.decryptNonce_eq_some (not_not.mp hnonce), Option.map_some]
    cases haead : SymmetricCipherMode.AES256GCM128Tag.aead key with
    | error e => simp only [SymmetricCipherMode.decrypt, haead, bind, Except.bind, Except.mapError]
    | ok block =>
      cases SymmetricCipherMode.AES256GCM128Tag.decrypt F key (decodeString d.ivBase64).1
        (decodeString d.prkWrapping).1 ad with
      | error e => rfl
      | ok dataPrk => rfl

/-- An unwrapping returns, with an error or the data private key that was sealed. -/
def Unwraps : Prop :=
  ∃ r, d.unwrap F key ad = some r ∧ ∀ dataPrk, r = .ok dataPrk →
    ∀ dataPrivateKeyBase64, (decodeString d.prkWrapping).1 = F.gcmSeal { cipher := .aes, key } 16
      (decodeString d.ivBase64).1 dataPrivateKeyBase64 ad → dataPrk = dataPrivateKeyBase64

/-- One of the texts is no base64, the key is not that of the cipher, or the IV has its 12 bytes. -/
def NonceChecked : Prop :=
  (decodeString d.ivBase64).2 = false ∨ (decodeString d.prkWrapping).2 = false ∨ key.length ≠ 32 ∨
    (decodeString d.ivBase64).1.length = ivSize

instance : Decidable (NonceChecked d key) := inferInstanceAs (Decidable (_ ∨ _))

variable {F d key ad}

/-- AES-256 takes keys of 32 bytes. -/
theorem aead_aes256_iff : (∃ block, SymmetricCipherMode.AES256GCM128Tag.aead key = .ok block) ↔
    key.length = 32 := by
  constructor
  · rintro ⟨block, h⟩
    have hblock := (SymmetricCipherMode.aead_eq_ok_iff.mp h).1
    rw [SymmetricCipherMode.newCipherBlock, if_pos (by decide)] at hblock
    by_contra hlen
    rw [if_pos hlen] at hblock
    cases hblock
  · intro hlen
    refine ⟨{ cipher := .aes, key }, SymmetricCipherMode.aead_eq_ok_iff.mpr ⟨?_, by decide⟩⟩
    rw [SymmetricCipherMode.newCipherBlock, if_pos (by decide), if_neg (not_not.mpr hlen)]

/-- `Unwrap` panics exactly on a decoded nonce of the wrong length. -/
theorem unwrap_eq_none_iff : d.unwrap F key ad = none ↔ ¬NonceChecked d key := by
  rw [unwrap_eq, NonceChecked]
  split_ifs with hbase64
  · refine iff_of_false not_false (not_not.mpr ?_)
    rcases hbase64 with hiv | htext
    · exact .inl hiv
    · exact .inr (.inl htext)
  · obtain ⟨hiv, htext⟩ := not_or.mp hbase64
    rw [Option.map_eq_none_iff, SymmetricCipherMode.decryptNonce_eq_none_iff, aead_aes256_iff]
    constructor
    · rintro ⟨hkey, hnonce⟩ (h | h | h | h)
      · exact hiv h
      · exact htext h
      · exact h hkey
      · exact hnonce h
    · intro h
      constructor
      · by_contra hkey
        exact h (.inr (.inr (.inl hkey)))
      · intro hnonce
        exact h (.inr (.inr (.inr hnonce)))

/-- What is unwrapped has been opened under the key. -/
theorem unwrap_ok {dataPrk : Bytes} (h : d.unwrap F key ad = some (.ok dataPrk)) :
    F.gcmOpen { cipher := .aes, key } 16 (decodeString d.ivBase64).1 (decodeString d.prkWrapping).1 ad
      = some dataPrk := by
  have hchecked : NonceChecked d key := by
    by_contra hnone
    rw [unwrap_eq_none_iff.mpr hnone] at h
    cases h
  rw [unwrap_eq] at h
  split_ifs at h with hbase64
  · cases h
  obtain ⟨r, hr, hmap⟩ := Option.map_eq_some_iff.mp h
  cases r with
  | error e => cases hmap
  | ok text =>
    obtain rfl := Except.ok.inj hmap
    rw [SymmetricCipherMode.decryptNonce] at hr
    cases haead : SymmetricCipherMode.AES256GCM128Tag.aead key with
    | error e =>
      rw [haead] at hr
      cases hr
    | ok block =>
      have hblock := (SymmetricCipherMode.aead_eq_ok_iff.mp haead).1
      have hkey := aead_aes256_iff.mp ⟨block, haead⟩
      rw [SymmetricCipherMode.newCipherBlock, if_pos (by decide), if_neg (not_not.mpr hkey)] at hblock
      obtain rfl := Except.ok.inj hblock
      simp only [haead, aeadOpen] at hr
      split_ifs at hr
      split at hr
      · rename_i hopen
        rw [← Except.ok.inj (Option.some.inj hr)]
        exact hopen
      · cases hr

/-- An unwrapping returns exactly when the nonce has been checked on the way, or has its length. -/
theorem unwraps_iff (hF : LawfulFileCrypto F) : Unwraps F d key ad ↔ NonceChecked d key := by
  constructor
  · rintro ⟨r, hr, -⟩
    by_contra hnone
    rw [unwrap_eq_none_iff.mpr hnone] at hr
    cases hr
  · intro hchecked
    obtain ⟨r, hr⟩ := Option.ne_none_iff_exists'.mp (mt unwrap_eq_none_iff.mp (not_not.mpr hchecked))
    refine ⟨r, hr, ?_⟩
    rintro dataPrk rfl dataPrivateKeyBase64 hsealed
    have hopen := unwrap_ok hr
    rw [hsealed, hF.gcmOpen_gcmSeal] at hopen
    exact (Option.some.inj hopen).symm

end DataPrivateKeyWrapping

/-- An unwrapping never panics exactly when the nonce is checked on the way or has its length; taking the text
    of a payload never does, whatever the file it was read from and whatever its mode. -/
theorem unwrap_iff {F : FileCrypto UInt8} (hF : LawfulFileCrypto F) (d : DataPrivateKeyWrapping) (key ad : Bytes) :
    (d.Unwraps F key ad ↔ d.NonceChecked key) ∧
    ∀ (p : ZtdoPayload UInt8) (mode : SymmetricCipherMode),
      p.getPlainTextNonce F mode key ad = some (p.getPlainText F mode key ad) := by
  constructor
  · exact DataPrivateKeyWrapping.unwraps_iff hF
  · intro p mode
    exact SymmetricCipherMode.decryptNonce_eq_some p.content.iv.2 mode key p.content.cipherText ad

/-- A wrapping of one byte under an IV of twelve. -/
theorem unwrap_sample :
    (DataPrivateKeyWrapping.new sampleCrypto (Arr.zero ivSize) [] [7] (List.replicate 32 0) []).Unwraps
      sampleCrypto (List.replicate 32 0) [] :=
  (unwrap_iff sampleCrypto_lawful _ _ _).1.mpr (by decide +kernel)

/-- The empty texts are base64 of no bytes. -/
theorem unwrap_panics : ¬DataPrivateKeyWrapping.Unwraps sampleCrypto
    { providerPublicKeyBase64 := [], ivBase64 := [], prkWrapping := [] } (List.replicate 32 0) [] := by
  rw [DataPrivateKeyWrapping.unwraps_iff sampleCrypto_lawful]
  decide +kernel

end OpenNHP.DB
