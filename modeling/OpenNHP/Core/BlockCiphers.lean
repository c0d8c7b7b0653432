/-
  The block cipher helpers (`nhp/core/crypto.go`: `CBCEncryption`, `CBCDecryption`, `AESEncrypt`, `AESDecrypt`).

  THE PROGRAM.  Two pairs of functions that encrypt and decrypt in CBC mode, one with the padding of a library, the
  other with its own.  The block ciphers and the PKCS #7 padding are Go's and gmsm's, the fields of `BlockModes`.

  THE SPECIFICATION.  What was encrypted is decrypted again, and no call panics.

  WHERE IT FAILS.  `CryptBlocks` works on whole blocks, with an output that is long enough, or panics.
  1. What `CBCEncryption` has padded, `CBCDecryption` does not unpad, for it asks whether the text is of whole
     blocks.
  2. Unless it works in place `CBCEncryption` has no room for its output.
  3. `AESDecrypt` looks for a padding length where there may be none.

  ASSEMBLY.  Each function is read off `cryptBlocks`, first where it is defined and then where it panics;
  `blockCiphers_iff` says for both pairs when there is a round trip and when a call returns.
-/
import OpenNHP.Core.Crypto
import OpenNHP.Core.Ztdo.Cipher
import OpenNHP.Lib.Fallible

namespace OpenNHP.Core

open BigEndian
open Ztdo (BlockCipher CipherBlock)
open Fallible (bind_eq_ok)

/-! ## The primitives -/

/-- The block size of AES and SM4. -/
def blockSize : Nat := 16

/-- The libraries: CBC mode and PKCS #7. -/
structure BlockModes where
  /-- What `CryptBlocks` of `cipher.NewCBCEncrypter` and `cipher.NewCBCDecrypter` makes of whole blocks, by
      block cipher and IV. -/
  encryptBlocks : CipherBlock UInt8 → Bytes → Bytes → Bytes
  decryptBlocks : CipherBlock UInt8 → Bytes → Bytes → Bytes
  /-- `padding.NewPKCS7Padding`, by block size. -/
  pkcs7Pad : Nat → Bytes → Bytes
  pkcs7Unpad : Nat → Bytes → Option Bytes

/-- The errors of the four functions. -/
inductive CipherError
  /-- `ErrNotApplicable` -/
  | notApplicable
  /-- of `aes.NewCipher` -/
  | keySize
  /-- of `rand.Reader` -/
  | entropy
  /-- "ciphertext too short" -/
  | tooShort
  /-- of `Unpad` -/
  | padding
  deriving DecidableEq, Repr

/-- An error, or a run-time panic. -/
inductive CipherFailure
  | err (e : CipherError)
  | panic
  deriving DecidableEq, Repr

/-- `CryptBlocks(dst, src)`: what it leaves in `dst`. -/
def cryptBlocks (crypt : Bytes → Bytes) (dst src : Bytes) : Except CipherFailure Bytes :=
  if src.length % blockSize ≠ 0 then .error .panic
  else if dst.length < src.length then .error .panic
  else .ok (crypt src ++ dst.drop src.length)

/-! ## `CBCEncryption` and `CBCDecryption` -/

variable (lib : BlockModes)

/-- The cipher and the IV that a key of 32 bytes is used for. -/
def cbcBlock (t : GcmType) (key : Vector UInt8 32) : Option (CipherBlock UInt8 × Bytes) :=
  match t with
  | .aes256 => some ({ cipher := .aes, key := key.toList }, (key.toList.take 24).drop 8)
  | .sm4 => some ({ cipher := .sm4, key := key.toList.take 16 }, key.toList.drop 16)
  | .chacha20poly1305 => none

/-- `CBCEncryption`, with the lengths of its slices. -/
def cbcEncryption (t : GcmType) (key : Vector UInt8 32) (plaintext : Bytes) (inPlace : Bool) :
    Except CipherFailure Bytes :=
  match cbcBlock t key with
  | none => .error (.err .notApplicable)
  | some (block, iv) =>
    let paddedPlainText := if plaintext.length % blockSize = 0 then plaintext else lib.pkcs7Pad blockSize plaintext
    -- otherwise `make([]byte, 0, len(plaintext))`
    let ciphertext := if inPlace then paddedPlainText else []
    cryptBlocks (lib.encryptBlocks block iv) ciphertext paddedPlainText

/-- `CBCDecryption`. -/
def cbcDecryption (t : GcmType) (key : Vector UInt8 32) (ciphertext : Bytes) (inPlace : Bool) :
    Except CipherFailure Bytes :=
  match cbcBlock t key with
  | none => .error (.err .notApplicable)
  | some (block, iv) =>
    if ciphertext.length < blockSize then .error (.err .tooShort)
    else do
      let dst := if inPlace then ciphertext else List.replicate ciphertext.length 0
      let plaintext ← cryptBlocks (lib.decryptBlocks block iv) dst ciphertext
      if plaintext.length % blockSize = 0 then .ok plaintext
      else match lib.pkcs7Unpad blockSize plaintext with
        | some plaintext => .ok plaintext
        | none => .error (.err .padding)

/-! ## `AESEncrypt` and `AESDecrypt` -/

/-- `pad`: one to sixteen bytes that say how many they are. -/
def pad (data : Bytes) (blockSize : Nat) : Bytes :=
  let padding := blockSize - data.length % blockSize
  data ++ List.replicate padding (UInt8.ofNat padding)

/-- A padding length that cannot be one gives `nil`; without a byte to read it from, `unpad` panics. -/
def unpad (padded : Bytes) (blockSize : Nat) : Except CipherFailure Bytes :=
  match padded.getLast? with
  | none => .error .panic
  | some last =>
    if last.toNat > blockSize ∨ last.toNat > padded.length then .ok []
    else .ok (padded.take (padded.length - last.toNat))

/-- The key lengths of `aes.NewCipher`. -/
def AesKey (key : Bytes) : Prop := key.length = 16 ∨ key.length = 24 ∨ key.length = 32

instance (key : Bytes) : Decidable (AesKey key) := inferInstanceAs (Decidable (_ ∨ _))

/-- `AESEncrypt`, with the IV that the random source gives, if it does. -/
def aesEncrypt (iv : Option (Vector UInt8 16)) (plainText key : Bytes) : Except CipherFailure Bytes :=
  if ¬AesKey key then .error (.err .keySize)
  else match iv with
    | none => .error (.err .entropy)
    | some iv => do
      let padded := pad plainText blockSize
      let cipherText ← cryptBlocks (lib.encryptBlocks { cipher := .aes, key } iv.toList)
        (List.replicate padded.length 0) padded
      return iv.toList ++ cipherText

/-- `AESDecrypt`: the first block is the IV. -/
def aesDecrypt (cipherText key : Bytes) : Except CipherFailure Bytes :=
  if ¬AesKey key then .error (.err .keySize)
  else if cipherText.length < blockSize then .error (.err .tooShort)
  else do
    let iv := cipherText.take blockSize
    let blocks := cipherText.drop blockSize
    let decrypted ← cryptBlocks (lib.decryptBlocks { cipher := .aes, key } iv)
      (List.replicate blocks.length 0) blocks
    unpad decrypted blockSize

/-! ## What the library does -/

/-- Decryption undoes encryption, block by block; PKCS #7 fills up the last block, or adds one, with bytes that
    say how many they are. -/
structure LawfulBlockModes : Prop where
  length_encryptBlocks : ∀ block iv src, (lib.encryptBlocks block iv src).length = src.length
  length_decryptBlocks : ∀ block iv src, (lib.decryptBlocks block iv src).length = src.length
  decrypt_encrypt : ∀ block iv src, src.length % blockSize = 0 →
    lib.decryptBlocks block iv (lib.encryptBlocks block iv src) = src
  pkcs7Pad_eq : ∀ data, lib.pkcs7Pad blockSize data =
    data ++ List.replicate (blockSize - data.length % blockSize) (UInt8.ofNat (blockSize - data.length % blockSize))

variable {lib}

/-- Whole blocks with room for the output go through, -/
theorem cryptBlocks_eq_ok {crypt : Bytes → Bytes} {dst src : Bytes} (hsrc : src.length % blockSize = 0)
    (hdst : dst.length = src.length) : cryptBlocks crypt dst src = .ok (crypt src) := by
  rw [cryptBlocks, if_neg (not_not.mpr hsrc), if_neg (by omega), List.drop_of_length_le (by omega), List.append_nil]

/-- and nothing else does. -/
theorem cryptBlocks_eq_panic {crypt : Bytes → Bytes} {dst src : Bytes}
    (h : src.length % blockSize ≠ 0 ∨ dst.length < src.length) : cryptBlocks crypt dst src = .error .panic := by
  rw [cryptBlocks]
  split_ifs with hsrc hdst
  · rfl
  · rfl
  · rcases h with h | h
    · exact absurd h hsrc
    · exact absurd h hdst

/-! ## Padding -/

/-- What is padded is of whole blocks, and longer. -/
theorem length_pad (data : Bytes) :
    (pad data blockSize).length % blockSize = 0 ∧ data.length < (pad data blockSize).length := by
  rw [pad, List.length_append, List.length_replicate]
  simp only [blockSize]
  omega

/-- And it is unpadded to what it was. -/
theorem unpad_pad (data : Bytes) : unpad (pad data blockSize) blockSize = .ok data := by
  let padding := blockSize - data.length % blockSize
  have hpos : 0 < padding ∧ padding ≤ blockSize := by
    simp only [padding, blockSize]
    omega
  have hlast : (UInt8.ofNat padding).toNat = padding := by
    rw [UInt8.toNat_ofNat']
    simp only [blockSize] at hpos
    exact Nat.mod_eq_of_lt (by omega)
  have hlen : (data ++ List.replicate padding (UInt8.ofNat padding)).length = data.length + padding := by
    rw [List.length_append, List.length_replicate]
  have hget : (data ++ List.replicate padding (UInt8.ofNat padding)).getLast? = some (UInt8.ofNat padding) := by
    rw [List.getLast?_append, List.getLast?_replicate, if_neg (by omega)]
    rfl
  show unpad (data ++ List.replicate padding (UInt8.ofNat padding)) blockSize = .ok data
  simp only [unpad, hget, hlast, hlen]
  rw [if_neg (by omega), Nat.add_sub_cancel, List.take_left]

/-- Of anything but nothing, something or nothing is left. -/
theorem unpad_eq_panic_iff {padded : Bytes} : unpad padded blockSize = .error .panic ↔ padded = [] := by
  rw [unpad]
  constructor
  · intro h
    split at h
    · rename_i hnone
      exact List.getLast?_eq_none_iff.mp hnone
    · split_ifs at h
  · rintro rfl
    rfl

/-! ## CBC -/

section Cbc

variable {t : GcmType} {key : Vector UInt8 32} {block : CipherBlock UInt8} {iv : Bytes}

/-- Of the three ciphers two are block ciphers. -/
theorem cbcBlock_eq_some (ht : t ≠ .chacha20poly1305) (key : Vector UInt8 32) :
    ∃ block iv, cbcBlock t key = some (block, iv) := by
  cases t with
  | aes256 => exact ⟨_, _, rfl⟩
  | sm4 => exact ⟨_, _, rfl⟩
  | chacha20poly1305 => exact absurd rfl ht

/-- What is encrypted is the plaintext, padded if it has to be. -/
theorem exists_padded (hlib : LawfulBlockModes lib) (plaintext : Bytes) :
    ∃ padded, (if plaintext.length % blockSize = 0 then plaintext else lib.pkcs7Pad blockSize plaintext) = padded ∧
      padded.length % blockSize = 0 ∧ (padded = plaintext ↔ plaintext.length % blockSize = 0) := by
  refine ⟨_, rfl, ?_⟩
  split_ifs with hblocks
  · exact ⟨hblocks, iff_of_true rfl hblocks⟩
  · obtain ⟨hwhole, hlonger⟩ := length_pad plaintext
    rw [hlib.pkcs7Pad_eq]
    refine ⟨hwhole, iff_of_false ?_ hblocks⟩
    intro hsame
    have hlen := congrArg List.length hsame
    rw [pad] at hlonger
    omega

/-- Out of place, there is only room for nothing. -/
theorem cbcEncryption_outOfPlace (hblock : cbcBlock t key = some (block, iv)) (hlib : LawfulBlockModes lib)
    {plaintext ciphertext : Bytes} (h : cbcEncryption lib t key plaintext false = .ok ciphertext) :
    ciphertext = [] := by
  obtain ⟨padded, hpadded, -, -⟩ := exists_padded hlib plaintext
  simp only [cbcEncryption, hblock, hpadded, Bool.false_eq_true, if_false, cryptBlocks] at h
  split_ifs at h with hwhole hroom
  rw [← Except.ok.inj h, List.drop_nil, List.append_nil]
  apply List.length_eq_zero_iff.mp
  rw [hlib.length_encryptBlocks]
  exact Nat.le_zero.mp (Nat.le_of_not_lt hroom)

/-- In place the padded text is encrypted. -/
theorem cbcEncryption_inPlace (hblock : cbcBlock t key = some (block, iv)) {plaintext padded : Bytes}
    (hpadded : (if plaintext.length % blockSize = 0 then plaintext else lib.pkcs7Pad blockSize plaintext) = padded)
    (hwhole : padded.length % blockSize = 0) :
    cbcEncryption lib t key plaintext true = .ok (lib.encryptBlocks block iv padded) := by
  simp only [cbcEncryption, hblock, hpadded, if_true]
  exact cryptBlocks_eq_ok hwhole rfl

/-- Less than a block is refused, -/
theorem cbcDecryption_eq_tooShort (hblock : cbcBlock t key = some (block, iv)) {ciphertext : Bytes}
    (hshort : ciphertext.length < blockSize) (inPlace : Bool) :
    cbcDecryption lib t key ciphertext inPlace = .error (.err .tooShort) := by
  simp only [cbcDecryption, hblock, hshort, if_true]

/-- and more than one that is not of whole blocks panics. -/
theorem cbcDecryption_eq_panic (hblock : cbcBlock t key = some (block, iv)) {ciphertext : Bytes}
    (hlong : ¬ciphertext.length < blockSize) (hpart : ciphertext.length % blockSize ≠ 0) (inPlace : Bool) :
    cbcDecryption lib t key ciphertext inPlace = .error .panic := by
  simp only [cbcDecryption, hblock, hlong, if_false, cryptBlocks_eq_panic (Or.inl hpart), bind, Except.bind]

/-- Whole blocks are never unpadded. -/
theorem cbcDecryption_eq_ok (hblock : cbcBlock t key = some (block, iv)) (hlib : LawfulBlockModes lib)
    {ciphertext : Bytes} (hlong : ¬ciphertext.length < blockSize) (hwhole : ciphertext.length % blockSize = 0)
    (inPlace : Bool) :
    cbcDecryption lib t key ciphertext inPlace = .ok (lib.decryptBlocks block iv ciphertext) := by
  have hcrypt : cryptBlocks (lib.decryptBlocks block iv)
      (if inPlace = true then ciphertext else List.replicate ciphertext.length 0) ciphertext
      = .ok (lib.decryptBlocks block iv ciphertext) := by
    apply cryptBlocks_eq_ok hwhole
    split_ifs
    · rfl
    · exact List.length_replicate
  simp only [cbcDecryption, hblock, hlong, if_false, hcrypt, bind, Except.bind, hlib.length_decryptBlocks, hwhole,
    if_true]

/-- Encrypted in place and of whole blocks, a plaintext comes back. -/
theorem cbc_roundTrip_iff (hlib : LawfulBlockModes lib) (ht : t ≠ .chacha20poly1305) (key : Vector UInt8 32)
    (plaintext : Bytes) (inPlace inPlace' : Bool) :
    (cbcEncryption lib t key plaintext inPlace >>= (cbcDecryption lib t key · inPlace')) = .ok plaintext ↔
      inPlace = true ∧ blockSize ≤ plaintext.length ∧ plaintext.length % blockSize = 0 := by
  obtain ⟨block, iv, hblock⟩ := cbcBlock_eq_some ht key
  obtain ⟨padded, hpadded, hwhole, hsame⟩ := exists_padded hlib plaintext
  have hlen := hlib.length_encryptBlocks block iv padded
  constructor
  · intro h
    obtain ⟨ciphertext, hencrypted, hdecrypted⟩ := bind_eq_ok h
    have hlong : ¬ciphertext.length < blockSize := by
      intro hshort
      rw [cbcDecryption_eq_tooShort hblock hshort] at hdecrypted
      cases hdecrypted
    cases inPlace with
    | false =>
      obtain rfl := cbcEncryption_outOfPlace hblock hlib hencrypted
      exact absurd (by decide) hlong
    | true =>
      rw [cbcEncryption_inPlace hblock hpadded hwhole] at hencrypted
      obtain rfl := Except.ok.inj hencrypted
      rw [cbcDecryption_eq_ok hblock hlib hlong (by rw [hlen]; exact hwhole),
        hlib.decrypt_encrypt _ _ _ hwhole] at hdecrypted
      obtain rfl := Except.ok.inj hdecrypted
      rw [hlen] at hlong
      exact ⟨rfl, Nat.le_of_not_lt hlong, hwhole⟩
  · rintro ⟨rfl, hlong, hblocks⟩
    obtain rfl := hsame.mpr hblocks
    rw [cbcEncryption_inPlace hblock hpadded hwhole]
    show cbcDecryption lib t key _ inPlace' = _
    rw [cbcDecryption_eq_ok hblock hlib (by rw [hlen]; exact Nat.not_lt.mpr hlong) (by rw [hlen]; exact hwhole),
      hlib.decrypt_encrypt _ _ _ hwhole]

/-- Nothing else does. -/
theorem cbcDecryption_returns_iff (hlib : LawfulBlockModes lib) (ht : t ≠ .chacha20poly1305)
    (key : Vector UInt8 32) (ciphertext : Bytes) (inPlace : Bool) :
    cbcDecryption lib t key ciphertext inPlace ≠ .error .panic ↔
      ciphertext.length < blockSize ∨ ciphertext.length % blockSize = 0 := by
  obtain ⟨block, iv, hblock⟩ := cbcBlock_eq_some ht key
  by_cases hshort : ciphertext.length < blockSize
  · rw [cbcDecryption_eq_tooShort hblock hshort]
    exact iff_of_true (by decide) (.inl hshort)
  by_cases hwhole : ciphertext.length % blockSize = 0
  · rw [cbcDecryption_eq_ok hblock hlib hshort hwhole]
    exact iff_of_true (fun h => by cases h) (.inr hwhole)
  · rw [cbcDecryption_eq_panic hblock hshort hwhole]
    exact iff_of_false (fun h => h rfl) (not_or.mpr ⟨hshort, hwhole⟩)

end Cbc

/-! ## AES with a drawn IV -/

/-- `AESEncrypt` puts the IV before the padded text. -/
theorem aesEncrypt_eq_ok {key : Bytes} (hkey : AesKey key) (iv : Vector UInt8 16) (plainText : Bytes) :
    aesEncrypt lib (some iv) plainText key =
      .ok (iv.toList ++ lib.encryptBlocks { cipher := .aes, key } iv.toList (pad plainText blockSize)) := by
  simp only [aesEncrypt, hkey, not_true_eq_false, if_false,
    cryptBlocks_eq_ok (length_pad plainText).1 List.length_replicate, bind, Except.bind, pure, Except.pure]

variable (lib) in
/-- An encryption has its key and its IV, or is an error. -/
theorem aesEncrypt_cases (iv : Option (Vector UInt8 16)) (plainText key : Bytes) :
    (∃ e, aesEncrypt lib iv plainText key = .error (.err e)) ∨ AesKey key ∧ iv.isSome = true := by
  by_cases hkey : AesKey key
  · cases iv with
    | none => exact .inl ⟨.entropy, by simp only [aesEncrypt, hkey, not_true_eq_false, if_false]⟩
    | some iv => exact .inr ⟨hkey, rfl⟩
  · exact .inl ⟨.keySize, by simp only [aesEncrypt, hkey, not_false_eq_true, if_true]⟩

/-- Padding is always there, so every plaintext comes back. -/
theorem aesDecrypt_aesEncrypt (hlib : LawfulBlockModes lib) {iv : Option (Vector UInt8 16)}
    {plainText key cipherText : Bytes} (h : aesEncrypt lib iv plainText key = .ok cipherText) :
    aesDecrypt lib cipherText key = .ok plainText := by
  rcases aesEncrypt_cases lib iv plainText key with ⟨e, herr⟩ | ⟨hkey, hiv⟩
  · rw [herr] at h
    cases h
  · obtain ⟨iv, rfl⟩ := Option.isSome_iff_exists.mp hiv
    rw [aesEncrypt_eq_ok hkey] at h
    obtain rfl := Except.ok.inj h
    have hiv : iv.toList.length = blockSize := Vector.length_toList
    have hwhole := (length_pad plainText).1
    rw [aesDecrypt, if_neg (not_not.mpr hkey), if_neg (by rw [List.length_append]; omega)]
    simp only [List.take_left' hiv, List.drop_left' hiv]
    rw [cryptBlocks_eq_ok (by rw [hlib.length_encryptBlocks]; exact hwhole) List.length_replicate,
      hlib.decrypt_encrypt _ _ _ hwhole]
    exact unpad_pad plainText

/-- It always returns. -/
theorem aesEncrypt_returns (iv : Option (Vector UInt8 16)) (plainText key : Bytes) :
    aesEncrypt lib iv plainText key ≠ .error .panic := by
  intro h
  rcases aesEncrypt_cases lib iv plainText key with ⟨e, herr⟩ | ⟨hkey, hiv⟩
  · rw [herr] at h
    cases h
  · obtain ⟨iv, rfl⟩ := Option.isSome_iff_exists.mp hiv
    rw [aesEncrypt_eq_ok hkey] at h
    cases h

/-- A ciphertext panics that is the IV alone, or has a part of a block. -/
theorem aesDecrypt_returns_iff (hlib : LawfulBlockModes lib) (cipherText key : Bytes) :
    aesDecrypt lib cipherText key ≠ .error .panic ↔
      ¬AesKey key ∨ cipherText.length < blockSize ∨
        cipherText.length % blockSize = 0 ∧ cipherText.length ≠ blockSize := by
  by_cases hkey : AesKey key
  · by_cases hshort : cipherText.length < blockSize
    · rw [aesDecrypt, if_neg (not_not.mpr hkey), if_pos hshort]
      exact iff_of_true (by decide) (.inr (.inl hshort))
    · have hdrop : (cipherText.drop blockSize).length = cipherText.length - blockSize := List.length_drop
      have hblocks : (cipherText.length - blockSize) % blockSize = cipherText.length % blockSize := by
        simp only [blockSize] at hshort ⊢
        omega
      have hright : (¬AesKey key ∨ cipherText.length < blockSize ∨
          cipherText.length % blockSize = 0 ∧ cipherText.length ≠ blockSize) ↔
          cipherText.length % blockSize = 0 ∧ cipherText.length ≠ blockSize := by
        constructor
        · rintro (h | h | h)
          · exact absurd hkey h
          · exact absurd h hshort
          · exact h
        · exact fun h => .inr (.inr h)
      rw [hright, aesDecrypt, if_neg (not_not.mpr hkey), if_neg hshort]
      by_cases hwhole : cipherText.length % blockSize = 0
      · -- the blocks are decrypted, and unpadded if there are any
        simp only [cryptBlocks_eq_ok (show (cipherText.drop blockSize).length % blockSize = 0 by
          rw [hdrop, hblocks, hwhole]) List.length_replicate, bind, Except.bind]
        rw [ne_eq, unpad_eq_panic_iff, ← List.length_eq_zero_iff, hlib.length_decryptBlocks, hdrop]
        omega
      · simp only [cryptBlocks_eq_panic (Or.inl (show (cipherText.drop blockSize).length % blockSize ≠ 0 by
          rw [hdrop, hblocks]
          exact hwhole)), bind, Except.bind]
        exact iff_of_false (fun h => h rfl) (fun h => hwhole h.1)
  · rw [aesDecrypt, if_pos hkey]
    exact iff_of_true (by decide) (.inl hkey)

/-- The helpers invert each other, and return on what is no ciphertext of theirs, exactly under these
    conditions. -/
theorem blockCiphers_iff (hlib : LawfulBlockModes lib) :
    (∀ t, t ≠ .chacha20poly1305 → ∀ (key : Vector UInt8 32) (plaintext : Bytes) (inPlace inPlace' : Bool),
      (cbcEncryption lib t key plaintext inPlace >>= (cbcDecryption lib t key · inPlace')) = .ok plaintext ↔
        inPlace = true ∧ blockSize ≤ plaintext.length ∧ plaintext.length % blockSize = 0) ∧
    (∀ t, t ≠ .chacha20poly1305 → ∀ (key : Vector UInt8 32) (ciphertext : Bytes) (inPlace : Bool),
      cbcDecryption lib t key ciphertext inPlace ≠ .error .panic ↔
        ciphertext.length < blockSize ∨ ciphertext.length % blockSize = 0) ∧
    (∀ (iv : Option (Vector UInt8 16)) (plainText key : Bytes),
      aesEncrypt lib iv plainText key ≠ .error .panic ∧ ∀ cipherText,
        aesEncrypt lib iv plainText key = .ok cipherText → aesDecrypt lib cipherText key = .ok plainText) ∧
    ∀ cipherText key : Bytes, aesDecrypt lib cipherText key ≠ .error .panic ↔
      ¬AesKey key ∨ cipherText.length < blockSize ∨
        cipherText.length % blockSize = 0 ∧ cipherText.length ≠ blockSize := by
  refine ⟨?_, ?_, ?_, ?_⟩
  · exact fun t ht key plaintext inPlace inPlace' => cbc_roundTrip_iff hlib ht key plaintext inPlace inPlace'
  · exact fun t ht key ciphertext inPlace => cbcDecryption_returns_iff hlib ht key ciphertext inPlace
  · exact fun iv plainText key => ⟨aesEncrypt_returns iv plainText key, fun _ h => aesDecrypt_aesEncrypt hlib h⟩
  · exact aesDecrypt_returns_iff hlib

/-! ### A cipher that adds one to every byte -/

/-- A mode that adds one to each byte. -/
def sampleModes : BlockModes where
  encryptBlocks _ _ src := src.map (· + 1)
  decryptBlocks _ _ src := src.map (· - 1)
  pkcs7Pad size data := pad data size
  pkcs7Unpad size padded := (unpad padded size).toOption

/-- It decrypts what it has encrypted. -/
theorem sampleModes_lawful : LawfulBlockModes sampleModes where
  length_encryptBlocks _ _ _ := List.length_map _
  length_decryptBlocks _ _ _ := List.length_map _
  decrypt_encrypt _ _ src _ := by
    show (src.map (· + 1)).map (· - 1) = src
    rw [List.map_map]
    have hid : ((· - 1) ∘ (· + 1) : UInt8 → UInt8) = id := by
      funext b
      exact UInt8.add_sub_cancel b 1
    rw [hid, List.map_id]
  pkcs7Pad_eq _ := rfl

/-- One block, in place. -/
theorem blockCiphers_sample :
    (cbcEncryption sampleModes .aes256 (.replicate 32 0) (List.replicate 16 7) true >>=
      (cbcDecryption sampleModes .aes256 (.replicate 32 0) · false)) = .ok (List.replicate 16 7) :=
  ((blockCiphers_iff sampleModes_lawful).1 .aes256 (by decide) (.replicate 32 0) (List.replicate 16 7) true
    false).mpr (by decide)

/-- One byte: out of place there is no room for it, in place its padding stays; and an IV alone is no
    ciphertext. -/
theorem blockCiphers_fail :
    cbcEncryption sampleModes .sm4 (.replicate 32 0) [7] false = .error .panic ∧
    (cbcEncryption sampleModes .sm4 (.replicate 32 0) [7] true >>=
      (cbcDecryption sampleModes .sm4 (.replicate 32 0) · true)) ≠ .ok [7] ∧
    aesDecrypt sampleModes (List.replicate 16 0) (List.replicate 32 0) = .error .panic := by
  decide +kernel

end OpenNHP.Core
