/-
  The cipher modes of ztdo files (`nhp/core/ztdo/noise.go`) and the payload and signature steps built on them
  (`nhp/core/ztdo/ztdo.go`).

  1. SHA-256, HMAC and GCM are Go's and gmsm's, the fields of `FileCrypto β`; `LawfulFileCrypto` says what is
     documented of them: `Open` undoes `Seal`, and a ciphertext is its plaintext and a tag long.
  2. A mode is the number in the configuration byte.  Eight have names, with a cipher and a tag size each.
  3. `cipher.NewGCMWithTagSize` takes tags of 12 to 16 bytes only, so the two modes with a tag of 8 bytes have a
     key check that passes and no AEAD behind it (`aead_eq_ok_iff`).
  4. Within a mode that has one, decryption undoes encryption (`decrypt_encrypt`).
-/
import OpenNHP.Core.Ztdo.Parsing

namespace OpenNHP.Core.Ztdo

open BigEndian

/-! ## The primitives -/

/-- The two block ciphers. -/
inductive BlockCipher
  | aes
  | sm4
  deriving DecidableEq, Repr

/-- A `cipher.Block`: the algorithm and its key. -/
structure CipherBlock (β : Type) where
  cipher : BlockCipher
  key : List β

/-- The libraries. -/
structure FileCrypto (β : Type) where
  /-- `core.NewHash(core.HASH_SHA256)`, `Write`, `Sum`. -/
  sha256 : List β → Arr β signatureLenSize
  /-- `hmac.New` over SHA-256 with a key, `Write`, `Sum`. -/
  hmacSha256 : List β → List β → Arr β signatureLenSize
  /-- `Seal` and `Open` of a GCM: its block and tag size, then nonce, text and associated data. -/
  gcmSeal : CipherBlock β → Nat → List β → List β → List β → List β
  gcmOpen : CipherBlock β → Nat → List β → List β → List β → Option (List β)

/-- What is documented of them. -/
structure LawfulFileCrypto {β : Type} (C : FileCrypto β) : Prop where
  gcmOpen_gcmSeal : ∀ block tagSize nonce text ad,
    C.gcmOpen block tagSize nonce (C.gcmSeal block tagSize nonce text ad) ad = some text
  length_gcmSeal : ∀ block tagSize nonce text ad,
    (C.gcmSeal block tagSize nonce text ad).length = text.length + tagSize
  length_of_gcmOpen : ∀ block tagSize nonce cipherText ad text,
    C.gcmOpen block tagSize nonce cipherText ad = some text →
      cipherText.length = text.length + tagSize

/-- Why an operation on a ztdo file failed. -/
inductive ZtdoError
  | read (e : ReadError)
  /-- "unsupported mode: %v" -/
  | unsupportedMode
  /-- "invalid key length for AES-256-GCM" -/
  | aesKeyLength
  /-- "invalid key length for SM4-GCM" -/
  | sm4KeyLength
  /-- "cipher: incorrect tag size given to GCM" -/
  | tagSize
  /-- "cipher: message authentication failed" -/
  | authentication
  /-- "invalid ztdo file" -/
  | invalidFile
  /-- "signature verification failed" -/
  | signature
  deriving DecidableEq, Repr

/-! ## `SymmetricCipherMode` -/

namespace SymmetricCipherMode

/-- The modes, by their numbers. -/
def AES256GCM64Tag : SymmetricCipherMode := 0
/-- 12 bytes, -/
def AES256GCM96Tag : SymmetricCipherMode := 1
/-- 13 bytes, -/
def AES256GCM104Tag : SymmetricCipherMode := 2
/-- 14 bytes, -/
def AES256GCM112Tag : SymmetricCipherMode := 3
/-- 15 bytes, -/
def AES256GCM120Tag : SymmetricCipherMode := 4
/-- and 16 bytes of tag with AES. -/
def AES256GCM128Tag : SymmetricCipherMode := 5
/-- 8 bytes, -/
def SM4GCM64Tag : SymmetricCipherMode := 6
/-- and 16 bytes with SM4. -/
def SM4GCM128Tag : SymmetricCipherMode := 7

/-- `TagSize`; a number without a name has no tag. -/
def tagSize (mode : SymmetricCipherMode) : Nat :=
  if mode = AES256GCM64Tag ∨ mode = SM4GCM64Tag then 8
  else if mode = AES256GCM96Tag then 12
  else if mode = AES256GCM104Tag then 13
  else if mode = AES256GCM112Tag then 14
  else if mode = AES256GCM120Tag then 15
  else if mode = AES256GCM128Tag ∨ mode = SM4GCM128Tag then 16
  else 0

variable {β : Type}

/-- The modes with AES, -/
def aesModes : List SymmetricCipherMode :=
  [AES256GCM64Tag, AES256GCM96Tag, AES256GCM104Tag, AES256GCM112Tag, AES256GCM120Tag, AES256GCM128Tag]

/-- and with SM4. -/
def sm4Modes : List SymmetricCipherMode := [SM4GCM64Tag, SM4GCM128Tag]

/-- `newCipherBlock`; SM4 takes the first 16 bytes of the key. -/
def newCipherBlock (mode : SymmetricCipherMode) (key : List β) : Except ZtdoError (CipherBlock β) :=
  if mode ∈ aesModes then
    if key.length ≠ 32 then .error .aesKeyLength else .ok { cipher := .aes, key }
  else if mode ∈ sm4Modes then
    if key.length < 16 then .error .sm4KeyLength else .ok { cipher := .sm4, key := key.take 16 }
  else .error .unsupportedMode

/-- The check of `cipher.NewGCMWithTagSize`. -/
def newGCMWithTagSize (block : CipherBlock β) (tagSize : Nat) : Except ZtdoError (CipherBlock β) :=
  if tagSize < 12 ∨ 16 < tagSize then .error .tagSize else .ok block

/-- The AEAD of a mode and a key, as `Encrypt` and `Decrypt` both make it. -/
def aead (mode : SymmetricCipherMode) (key : List β) : Except ZtdoError (CipherBlock β) := do
  let block ← newCipherBlock mode key
  newGCMWithTagSize block (tagSize mode)

/-- `Encrypt`. -/
def encrypt (C : FileCrypto β) (mode : SymmetricCipherMode) (key nonce plaintext ad : List β) :
    Except ZtdoError (List β) := do
  let block ← aead mode key
  return C.gcmSeal block (tagSize mode) nonce plaintext ad

/-- `Decrypt`. -/
def decrypt (C : FileCrypto β) (mode : SymmetricCipherMode) (key nonce cipherText ad : List β) :
    Except ZtdoError (List β) := do
  let block ← aead mode key
  match C.gcmOpen block (tagSize mode) nonce cipherText ad with
  | some plaintext => return plaintext
  | none => .error .authentication

/-! ### Modes that work -/

/-- `newCipherBlock` accepts the key. -/
def Accepts (mode : SymmetricCipherMode) (key : List β) : Prop :=
  ∃ block, newCipherBlock mode key = .ok block

/-- No tag is longer than a block. -/
theorem tagSize_le (mode : SymmetricCipherMode) : tagSize mode ≤ 16 := by
  unfold tagSize
  split_ifs <;> decide

/-- A mode has an AEAD if the key fits and its tag is one that GCM takes. -/
theorem aead_eq_ok_iff {mode : SymmetricCipherMode} {key : List β} {block : CipherBlock β} :
    aead mode key = .ok block ↔ newCipherBlock mode key = .ok block ∧ 12 ≤ tagSize mode := by
  have hle := tagSize_le mode
  rw [aead]
  cases hblock : newCipherBlock mode key with
  | error e => simp [bind, Except.bind]
  | ok block' =>
    by_cases htag : tagSize mode < 12
    · simp [bind, Except.bind, newGCMWithTagSize, htag]
    · simp [bind, Except.bind, newGCMWithTagSize, htag, Nat.not_lt.mpr hle, Nat.le_of_not_lt htag]

/-- Without an AEAD nothing is decrypted. -/
theorem decrypt_eq_ok {C : FileCrypto β} {mode : SymmetricCipherMode}
    {key nonce cipherText ad plaintext : List β}
    (h : decrypt C mode key nonce cipherText ad = .ok plaintext) :
    ∃ block, aead mode key = .ok block ∧
      C.gcmOpen block (tagSize mode) nonce cipherText ad = some plaintext := by
  rw [decrypt] at h
  cases haead : aead mode key with
  | error e => simp [haead, bind, Except.bind] at h
  | ok block =>
    refine ⟨block, rfl, ?_⟩
    cases hopen : C.gcmOpen block (tagSize mode) nonce cipherText ad with
    | none => simp [haead, hopen, bind, Except.bind] at h
    | some text =>
      simp only [haead, hopen, bind, Except.bind, pure, Except.pure, Except.ok.injEq] at h
      rw [h]

/-- What was encrypted decrypts, and is a tag longer. -/
theorem decrypt_encrypt {C : FileCrypto β} (hC : LawfulFileCrypto C) {mode : SymmetricCipherMode}
    {key nonce plaintext ad cipherText : List β}
    (h : encrypt C mode key nonce plaintext ad = .ok cipherText) :
    decrypt C mode key nonce cipherText ad = .ok plaintext ∧
      cipherText.length = plaintext.length + tagSize mode := by
  rw [encrypt] at h
  cases haead : aead mode key with
  | error e => simp [haead, bind, Except.bind] at h
  | ok block =>
    simp only [haead, bind, Except.bind, pure, Except.pure, Except.ok.injEq] at h
    rw [decrypt, haead, ← h]
    simp only [bind, Except.bind, hC.gcmOpen_gcmSeal, hC.length_gcmSeal, pure, Except.pure, and_self]

/-- A key is accepted by one of the eight modes only. -/
theorem Accepts.mode_le {mode : SymmetricCipherMode} {key : List β} (h : Accepts mode key) :
    mode.toNat < 8 := by
  obtain ⟨block, h⟩ := h
  have haes : ∀ m ∈ aesModes, m.toNat < 8 := by decide +kernel
  have hsm4 : ∀ m ∈ sm4Modes, m.toNat < 8 := by decide +kernel
  unfold newCipherBlock at h
  split_ifs at h with h₁ _ h₂
  · exact haes mode h₁
  · exact hsm4 mode h₂

/-- A cipher and a tag size belong to one mode. -/
theorem mode_eq_of_aead {mode mode' : SymmetricCipherMode} {key : List β}
    {block block' : CipherBlock β} (h : aead mode key = .ok block)
    (h' : aead mode' key = .ok block') (hcipher : block.cipher = block'.cipher)
    (htag : mode.tagSize = mode'.tagSize) : mode = mode' := by
  obtain ⟨hblock, -⟩ := aead_eq_ok_iff.mp h
  obtain ⟨hblock', -⟩ := aead_eq_ok_iff.mp h'
  have haes : ∀ m ∈ aesModes, ∀ m' ∈ aesModes, m.tagSize = m'.tagSize → m = m' := by decide +kernel
  have hsm4 : ∀ m ∈ sm4Modes, ∀ m' ∈ sm4Modes, m.tagSize = m'.tagSize → m = m' := by decide +kernel
  unfold newCipherBlock at hblock hblock'
  split_ifs at hblock hblock' with haes₁ _ haes₂
  all_goals obtain rfl := Except.ok.inj hblock
  all_goals obtain rfl := Except.ok.inj hblock'
  · exact haes _ haes₁ _ haes₂ htag
  · exact absurd hcipher (by simp)
  · exact absurd hcipher (by simp)
  · exact hsm4 _ (by assumption) _ (by assumption) htag

end SymmetricCipherMode

/-! ## Payloads and signatures -/

section

variable {β : Type} [Letter β]

namespace ZtdoPayload

variable (C : FileCrypto β) (mode : SymmetricCipherMode) (key ad : List β)

/-- `SetCipherText`: the error of `Encrypt` comes with a `nil` ciphertext. -/
def setCipherText (p : ZtdoPayload β) (plaintext : List β) : ZtdoPayload β × Option ZtdoError :=
  match SymmetricCipherMode.encrypt C mode key p.content.iv.1 plaintext ad with
  | .ok cipherText => ({ p with content := { p.content with cipherText } }, none)
  | .error e => ({ p with content := { p.content with cipherText := [] } }, some e)

/-- `GetPlainText`. -/
def getPlainText (p : ZtdoPayload β) : Except ZtdoError (List β) :=
  SymmetricCipherMode.decrypt C mode key p.content.iv.1 p.content.cipherText ad

/-- `SetLength`: the three low bytes of the length of IV and ciphertext. -/
def setLength (p : ZtdoPayload β) : ZtdoPayload β :=
  let payloadLen := ivSize + p.content.cipherText.length
  { p with length := Arr.ofBytes (putLE payloadLengthSize payloadLen) (length_putLE _ _) }

end ZtdoPayload

namespace ZtdoSignature

variable (C : FileCrypto β)

/-- A signature begins with zeros, -/
def new : ZtdoSignature β := { signature := Arr.zero signatureLenSize }

/-- takes in one structure after another, -/
def mixHash (sig : ZtdoSignature β) (buf : List β) : ZtdoSignature β :=
  { signature := C.sha256 (sig.signature.1 ++ buf) }

/-- and is keyed at the end. -/
def sign (sig : ZtdoSignature β) (key : List β) : ZtdoSignature β :=
  { signature := C.hmacSha256 key sig.signature.1 }

end ZtdoSignature

/-- Three bytes hold a length of 24 bits. -/
theorem ZtdoPayload.setLength_exact {p : ZtdoPayload β}
    (h : ivSize + p.content.cipherText.length < 2 ^ 24) :
    getLE (bytesOf p.setLength.length.1) = ivSize + p.content.cipherText.length ∧
      (uint32Of (bytesOf p.setLength.length.1)).toNat = ivSize + p.content.cipherText.length := by
  have hle : getLE (putLE payloadLengthSize (ivSize + p.content.cipherText.length))
      = ivSize + p.content.cipherText.length := getLE_putLE_of_lt h
  rw [setLength, bytesOf_ofBytes]
  constructor
  · exact hle
  · rw [uint32Of, List.take_of_length_le (by rw [length_putLE]; decide), hle]
    exact UInt32.toNat_ofNat_of_lt' (by simp only [UInt32.size]; omega)

/-- A payload of 24 bits of length reads back. -/
theorem ZtdoPayload.setLength_wellFormed {p : ZtdoPayload β}
    (h : ivSize + p.content.cipherText.length < 2 ^ 24) : p.setLength.WellFormed := by
  have hiv : ivSize = 12 := rfl
  have hlength := (setLength_exact h).2
  rw [WellFormed, contentLength, UInt32.toNat_sub_of_le]
  · rw [hlength]
    show ivSize + p.content.cipherText.length - ivSize = p.content.cipherText.length
    omega
  · rw [UInt32.le_iff_toNat_le, hlength]
    show ivSize ≤ _
    omega

end

end OpenNHP.Core.Ztdo
