/-
  What the reader makes of the signature the writer always appends.

  THE PROGRAM.  `EncryptZtdoFile` writes the 32 bytes of the signature whatever the header says, and no payload
  for an empty plaintext; `DecryptZtdoFile` reads a payload before it looks at what remains, and without the
  signature flag goes on until nothing does.

  THE CRUX.  A successful payload loop accounts for every byte (`readPayloads_length`): what remained is the stop
  size, 15 bytes and a tag for each payload, and the plaintext.  No tag size makes the 32 bytes of a signature a
  payload without plaintext (`no_payloads_in_trailer`).

  ASSEMBLY.  So the file of an unsigned configuration, or of an empty plaintext, is not read back, unless the
  plaintext is not empty and the signature bit has got into the header by another setting (`layout_iff`).
-/
import OpenNHP.Core.Ztdo.Written

namespace OpenNHP.Core.Ztdo

variable {β : Type} [Letter β] {C : FileCrypto β}

/-! ## Counting bytes -/

/-- The bytes of a payload besides its plaintext: length, IV and tag. -/
def payloadOverhead (mode : SymmetricCipherMode) : Nat := payloadLengthSize + ivSize + mode.tagSize

/-- A payload that opens is 15 bytes and a tag longer than its text, -/
theorem length_marshal_of_getPlainText (hC : LawfulFileCrypto C) {mode : SymmetricCipherMode}
    {key ad text : List β} {p : ZtdoPayload β} (h : p.getPlainText C mode key ad = .ok text) :
    (marshal ZtdoPayload.fields p).length = payloadOverhead mode + text.length := by
  obtain ⟨block, -, hopen⟩ := SymmetricCipherMode.decrypt_eq_ok h
  have hlen := hC.length_of_gcmOpen _ _ _ _ _ _ hopen
  rw [marshal_payload, payloadOverhead, List.length_append, List.length_append, p.length.2,
    p.content.iv.2]
  omega

/-- and so are all of them together. -/
theorem length_payloadLetters (hC : LawfulFileCrypto C) {h : ZtdoHeader β} {key ad : List β}
    {ps : List (ZtdoPayload β)} {texts : List (List β)}
    (hps : List.Forall₂ (Opens C h key ad) ps texts) :
    (payloadLetters ps).length
      = ps.length * payloadOverhead h.getCipherMode + texts.flatten.length := by
  induction hps with
  | nil => simp [payloadLetters]
  | cons hp _ ih =>
    rw [payloadLetters] at ih
    rw [payloadLetters, List.flatMap_cons, List.length_append, ih,
      length_marshal_of_getPlainText hC hp.2, List.length_cons, Nat.succ_mul, List.flatten_cons,
      List.length_append]
    omega

/-- A payload loop that gets through has read at least one payload, and every byte that remained is
    one of a payload or is left to the stop size. -/
theorem readPayloads_length (hC : LawfulFileCrypto C) {h : ZtdoHeader β} {key ad : List β}
    {fuel : Nat} {s : Reader β} {remaining : Int} {sig : ZtdoSignature β} {plaintext out : List β}
    {r : Reader β × ZtdoSignature β}
    (hr : readPayloads C h key ad fuel s remaining sig plaintext = (out, .ok r)) :
    ∃ k : Nat, 0 < k ∧
      remaining + plaintext.length
        = h.stopSize + (k * payloadOverhead h.getCipherMode : Nat) + out.length := by
  induction fuel generalizing s remaining sig plaintext with
  | zero =>
    obtain ⟨_, _, _, _, hfuel, -⟩ := readPayloads_ok C hr
    exact absurd hfuel (by omega)
  | succ fuel ih =>
    obtain ⟨fuel', p, s', text, hfuel, -, hopen, hturn⟩ := readPayloads_ok C hr
    obtain rfl := Nat.succ.inj hfuel
    have hlen := length_marshal_of_getPlainText hC hopen
    rcases hturn with ⟨hstop, rfl, -⟩ | hnext
    · refine ⟨1, Nat.one_pos, ?_⟩
      rw [List.length_append, Nat.one_mul]
      omega
    · obtain ⟨k, -, hk⟩ := ih hnext
      refine ⟨k + 1, Nat.succ_pos k, ?_⟩
      rw [List.length_append] at hk
      rw [Nat.succ_mul]
      omega

/-- A decryption that succeeds accounts for every byte of the file. -/
theorem decrypt_length (hC : LawfulFileCrypto C) [DecidableEq β] {z : Ztdo β}
    {uuid : Arr β objectIDSize} {s : Reader β} {key ad : List β} {h : ZtdoHeader β} {s₁ : Reader β}
    (hread : toStructure ZtdoHeader.fields s (ZtdoHeader.new uuid) = ⟨h, s₁, none⟩)
    (hok : (decryptZtdoFile C z uuid s key ad).err = none) :
    ∃ k : Nat, 0 < k ∧ s.rest.length = (marshal ZtdoHeader.fields h).length + h.stopSize
      + k * payloadOverhead h.getCipherMode + (decryptZtdoFile C z uuid s key ad).plaintext.length := by
  obtain ⟨h', s₁', s₂, sig, hread', hloop, -, -⟩ := decrypt_ok C hok
  obtain rfl : h = h' := congrArg Outcome.value (hread.symm.trans hread')
  obtain ⟨k, hpos, hk⟩ := readPayloads_length hC hloop
  refine ⟨k, hpos, ?_⟩
  rw [List.length_nil] at hk
  omega

/-! ## The sections that are written and the sections that are read -/

variable [DecidableEq β]

/-- These are 27 to 31 bytes. -/
theorem payloadOverhead_of_aead {mode : SymmetricCipherMode} {key : List β} {block : CipherBlock β}
    (h : SymmetricCipherMode.aead mode key = .ok block) :
    27 ≤ payloadOverhead mode ∧ payloadOverhead mode ≤ 31 := by
  have htag := (SymmetricCipherMode.aead_eq_ok_iff.mp h).2
  have hle := mode.tagSize_le
  rw [payloadOverhead, payloadLengthSize, ivSize]
  omega

/-- No number of payloads makes up for the 32 bytes of a signature. -/
theorem no_payloads_in_trailer {overhead k n : Nat} (hlow : 27 ≤ overhead) (hhigh : overhead ≤ 31) :
    k * overhead ≠ n * overhead + 32 := by
  intro h
  rcases Nat.lt_or_ge n k with hlt | hge
  · obtain ⟨d, rfl⟩ : ∃ d, k = n + d := ⟨k - n, by omega⟩
    rw [Nat.add_mul] at h
    have hd : d * overhead = 32 := by omega
    rcases d with _ | _ | d
    · omega
    · omega
    · have hmul : 2 * 27 ≤ (d + 1 + 1) * overhead := Nat.mul_le_mul (by omega) hlow
      omega
  · have hmul := Nat.mul_le_mul_right overhead hge
    omega

/-- A file just written is read back to its plaintext only if the plaintext is not empty and the header
    has the signature bit. -/
theorem signature_bit_of_decrypt (hC : LawfulFileCrypto C) {z : Ztdo β} (hc : z.header.Complete)
    {draws : Draws β} {plaintext key ad : List β} {z' : Ztdo β} {uuid : Arr β objectIDSize}
    {s : Reader β}
    (hok : (decryptZtdoFile C z' uuid
      { s with rest := (encryptZtdoFile C z draws plaintext key ad).file } key ad).err = none)
    (hplain : (decryptZtdoFile C z' uuid
      { s with rest := (encryptZtdoFile C z draws plaintext key ad).file } key ad).plaintext
        = plaintext) :
    plaintext ≠ [] ∧ z.header.hasSignature = true := by
  obtain ⟨s', hread⟩ := toStructure_encryptZtdoFile C hc draws plaintext key ad s uuid
  obtain ⟨block, haead⟩ := decrypt_ok_aead C hok
  obtain ⟨k, hpos, hk⟩ := decrypt_length hC hread hok
  rw [hread] at haead
  change SymmetricCipherMode.aead z.header.forFile.getCipherMode key = .ok block at haead
  obtain ⟨hlow, hhigh⟩ := payloadOverhead_of_aead haead
  have hletters := length_payloadLetters hC (payloads_open C hC _ ad haead draws plaintext)
  rw [← List.flatMap_def, chunks_flatten] at hletters
  have hfile := congrArg (fun e => e.file.length) (encryptZtdoFile_file C z draws plaintext key ad)
  simp only [List.length_append, hletters, Arr.length_eq] at hfile
  have hcount : z.header.forFile.stopSize + k * payloadOverhead z.header.forFile.getCipherMode
      = (payloads C z.header.forFile.getCipherMode key ad draws plaintext).length
        * payloadOverhead z.header.forFile.getCipherMode + 32 := by
    change (encryptZtdoFile C z draws plaintext key ad).file.length = _ at hk
    rw [hplain] at hk
    have h32 : signatureLenSize = 32 := rfl
    omega
  have hsig : z.header.hasSignature = true := by
    by_contra hfalse
    rw [ZtdoHeader.stopSize, z.header.hasSignature_forFile, if_neg hfalse, Nat.zero_add] at hcount
    exact no_payloads_in_trailer hlow hhigh hcount
  refine ⟨?_, hsig⟩
  rintro rfl
  have hnone : payloads C z.header.forFile.getCipherMode key ad draws [] = [] := by
    rw [payloads, chunks, if_pos List.length_nil, List.map_nil]
  rw [ZtdoHeader.stopSize, z.header.hasSignature_forFile, if_pos hsig, hnone, List.length_nil,
    Nat.zero_mul, Nat.zero_add] at hcount
  have hmul := Nat.mul_le_mul hpos hlow
  have h32 : signatureLenSize = 32 := rfl
  omega

/-- None of the modes of the package sets the signature bit by itself. -/
theorem no_stray_bit {mode : SymmetricCipherMode} {eccMode : DataKeyPairECCMode}
    (hmode : mode.toNat < 128) (hecc : eccMode.toNat < 8) :
    ¬(mode &&& 0x80 ≠ 0 ∨ (eccMode <<< 4) &&& 0x80 ≠ 0) := by
  rintro (hbit | hbit)
  · exact hbit (and_80_of_lt hmode)
  · exact hbit (shiftLeft_four_and_80 hecc)

/-- The file of a configuration without signature, or of an empty plaintext, decrypts to the plaintext
    exactly when the plaintext is not empty, the signature bit has got into the header all the same and
    the mode has an AEAD for the key. -/
theorem layout_iff (hC : LawfulFileCrypto C) {uuid : Arr β objectIDSize} {server metadata : Option (List β)}
    {hasSignature : Bool} {mode : SymmetricCipherMode} {eccMode : DataKeyPairECCMode} {z : Ztdo β}
    (hz : Configured uuid server metadata hasSignature mode eccMode z) {plaintext : List β}
    (hcase : hasSignature = false ∨ plaintext = []) (draws : Draws β) (key ad : List β)
    (fresh uuid' : Arr β objectIDSize) (s : Reader β) :
    let e := encryptZtdoFile C z draws plaintext key ad
    let d := decryptZtdoFile C (Ztdo.new fresh) uuid' { s with rest := e.file } key ad
    (e.err = none ∧ d.err = none ∧ d.plaintext = plaintext) ↔
      plaintext ≠ [] ∧ (mode &&& 0x80 ≠ 0 ∨ (eccMode <<< 4) &&& 0x80 ≠ 0) ∧
        ∃ block, SymmetricCipherMode.aead z.header.getCipherMode key = .ok block := by
  intro e d
  constructor
  · rintro ⟨-, hok, hplain⟩
    obtain ⟨hne, hsig⟩ := signature_bit_of_decrypt hC hz.complete hok hplain
    obtain ⟨s', hread⟩ := toStructure_encryptZtdoFile C hz.complete draws plaintext key ad s uuid'
    obtain ⟨block, haead⟩ := decrypt_ok_aead C hok
    rw [hread] at haead
    refine ⟨hne, ?_, block, z.header.getCipherMode_forFile ▸ haead⟩
    by_contra hbits
    rw [not_or, not_not, not_not] at hbits
    rw [hz.hasSignature_eq_false.mpr ⟨hcase.resolve_right hne, hbits⟩] at hsig
    exact Bool.false_ne_true hsig
  · rintro ⟨hne, hbit, block, haead⟩
    have hsig : z.header.hasSignature = true := by
      rw [← Bool.not_eq_false]
      intro hfalse
      obtain ⟨-, hmode, hecc⟩ := hz.hasSignature_eq_false.mp hfalse
      rcases hbit with hbit | hbit
      · exact hbit hmode
      · exact hbit hecc
    have hd : d = _ := decrypt_encryptZtdoFile_unused C hC hz.complete hsig hz.signature haead draws
      hne ad (Ztdo.new fresh) uuid' s
    rw [hd]
    exact ⟨rfl, rfl, rfl⟩

/-- One byte, unsigned. -/
theorem layout_unsigned :
    ∃ z, Configured (Arr.zero objectIDSize) (some [110]) (some []) false .AES256GCM128Tag 1 z ∧
      let e := encryptZtdoFile sampleCrypto z sampleDraws [1] (List.replicate 32 5) [9]
      let d := decryptZtdoFile sampleCrypto (Ztdo.new (Arr.zero objectIDSize)) (Arr.zero objectIDSize)
        (Reader.ofFile e.file) (List.replicate 32 5) [9]
      ¬(e.err = none ∧ d.err = none ∧ d.plaintext = [1]) := by
  obtain ⟨z, hz⟩ := Configured.exists_configured (Arr.zero (β := UInt8) objectIDSize) [110]
    (by decide) [] false .AES256GCM128Tag 1
  refine ⟨z, hz, fun h => ?_⟩
  have hiff := (layout_iff sampleCrypto_lawful hz (.inl rfl) sampleDraws (List.replicate 32 5) [9]
    (Arr.zero objectIDSize) (Arr.zero objectIDSize) (Reader.ofFile [])).mp h
  exact absurd hiff.2.1 (by decide)

/-- A byte under a configuration without signature, and an empty plaintext under one with a signature:
    both files are written without an error and are not read back. -/
theorem layout_broken :
    (∃ z, Configured (Arr.zero objectIDSize) (some [110]) (some []) false .AES256GCM128Tag 1 z ∧
      let e := encryptZtdoFile sampleCrypto z sampleDraws [1] (List.replicate 32 5) []
      let d := decryptZtdoFile sampleCrypto (Ztdo.new (Arr.zero objectIDSize)) (Arr.zero objectIDSize)
        (Reader.ofFile e.file) (List.replicate 32 5) []
      e.err = none ∧ ¬(d.err = none ∧ d.plaintext = [1])) ∧
    ∃ z, Configured (Arr.zero objectIDSize) (some [110]) (some []) true .AES256GCM128Tag 1 z ∧
      let e := encryptZtdoFile sampleCrypto z sampleDraws [] (List.replicate 32 5) []
      let d := decryptZtdoFile sampleCrypto (Ztdo.new (Arr.zero objectIDSize)) (Arr.zero objectIDSize)
        (Reader.ofFile e.file) (List.replicate 32 5) []
      e.err = none ∧ ¬(d.err = none ∧ d.plaintext = []) := by
  constructor
  · obtain ⟨z, hz⟩ := Configured.exists_configured (Arr.zero (β := UInt8) objectIDSize)
      [110] (by decide) [] false .AES256GCM128Tag 1
    refine ⟨z, hz, rfl, fun ⟨hok, hplain⟩ => ?_⟩
    have hbit := (signature_bit_of_decrypt sampleCrypto_lawful hz.complete (s := Reader.ofFile [])
      hok hplain).2
    rw [hz.hasSignature_eq_false.mpr (by decide)] at hbit
    exact Bool.false_ne_true hbit
  · obtain ⟨z, hz⟩ := Configured.exists_configured (Arr.zero (β := UInt8) objectIDSize)
      [110] (by decide) [] true .AES256GCM128Tag 1
    refine ⟨z, hz, rfl, fun ⟨hok, hplain⟩ => ?_⟩
    exact (signature_bit_of_decrypt sampleCrypto_lawful hz.complete (s := Reader.ofFile [])
      hok hplain).1 rfl

end OpenNHP.Core.Ztdo
