/-
  A `Ztdo` that has been used before.

  THE PROGRAM.  Three things survive in a `Ztdo` from one call to the next.
  1. The configuration byte, whose bits `SetCipherConfig` only adds to.
  2. The signature, from which the next `EncryptZtdoFile` goes on hashing and which `DecryptZtdoFile` overwrites
     with the trailer it read.
  3. The header of the last parse, in the state in which a failed one left it.

  THE SPECIFICATION.  `EncryptZtdoFile` writes a file that decrypts to the plaintext under the configuration that
  was set last, or returns an error (`SoundEncryption`).  It returns none for any of the three, nor for a key its
  mode has no AEAD for, so `encryption_sound` says when its file is good after any history.

  THE CRUX.  The signature of a reused value misleads a reader unless two different signature states meet again
  under the hash; `Collision` names the step at which they would (`collision_of_sign_eq`), so that the statement
  is about the code and not about the hash.
-/
import OpenNHP.Core.Ztdo.Written
import Mathlib.Data.List.Induction

namespace OpenNHP.Core.Ztdo

variable {β : Type} [Letter β] [DecidableEq β]

/-! ## Histories -/

/-- The calls that change a `Ztdo`, with the random choices and the files they see. -/
inductive ZtdoCall (β : Type)
  | setNhpServer (nhpServer : List β)
  | setMetadata (metadata : List β)
  | setCipherConfig (hasSignature : Bool) (mode : SymmetricCipherMode) (eccMode : DataKeyPairECCMode)
  | encryptZtdoFile (draws : Draws β) (plaintext key ad : List β)
  | parseHeader (uuid : Arr β objectIDSize) (s : Reader β)
  | decryptZtdoFile (uuid : Arr β objectIDSize) (s : Reader β) (key ad : List β)

/-- What a call, successful or not, leaves of the `Ztdo`. -/
def Ztdo.call (C : FileCrypto β) (z : Ztdo β) : ZtdoCall β → Ztdo β
  | .setNhpServer nhpServer => (z.setNhpServer nhpServer).getD z
  | .setMetadata metadata => (z.setMetadata metadata).getD z
  | .setCipherConfig hasSignature mode eccMode => z.setCipherConfig hasSignature mode eccMode
  | .encryptZtdoFile draws plaintext key ad => (encryptZtdoFile C z draws plaintext key ad).ztdo
  | .parseHeader uuid s => (z.parseHeader uuid s).value
  | .decryptZtdoFile uuid s key ad => (decryptZtdoFile C z uuid s key ad).ztdo

/-- The arguments of the last `SetCipherConfig`. -/
def lastConfig (calls : List (ZtdoCall β)) :
    Option (Bool × SymmetricCipherMode × DataKeyPairECCMode) :=
  calls.foldl (fun last call => match call with
    | .setCipherConfig hasSignature mode eccMode => some (hasSignature, mode, eccMode)
    | _ => last) none

/-! ## Good files -/

/-- `EncryptZtdoFile` returns an error, or it wrote a file in which any fresh `Ztdo` finds this
    configuration and which it decrypts to the plaintext. -/
def SoundEncryption (C : FileCrypto β) (z : Ztdo β) (draws : Draws β) (plaintext key ad : List β)
    (mode : SymmetricCipherMode) (eccMode : DataKeyPairECCMode) : Prop :=
  let e := encryptZtdoFile C z draws plaintext key ad
  e.err ≠ none ∨ ∀ (fresh uuid : Arr β objectIDSize) (s : Reader β),
    let d := decryptZtdoFile C (Ztdo.new fresh) uuid { s with rest := e.file } key ad
    (d.ztdo.header.hasSignature = true ∧ d.ztdo.header.getCipherMode = mode ∧
      d.ztdo.header.getECCMode = eccMode) ∧ d.err = none ∧ d.plaintext = plaintext

/-- A value whose next signed file is good: the header is complete and carries exactly this
    configuration, the mode has an AEAD for the key, and nothing was signed or verified with it. -/
structure Clean (z : Ztdo β) (key : List β) (mode : SymmetricCipherMode)
    (eccMode : DataKeyPairECCMode) : Prop where
  complete : z.header.Complete
  hasSignature : z.header.hasSignature = true
  getCipherMode : z.header.getCipherMode = mode
  getECCMode : z.header.getECCMode = eccMode
  aead : ∃ block, mode.aead key = .ok block
  unused : z.signature = .new

/-! ## Signatures that meet again -/

variable (C : FileCrypto β)

/-- The signature after a list of sections. -/
def mixSections (sig : ZtdoSignature β) (sections : List (List β)) : ZtdoSignature β :=
  sections.foldl (ZtdoSignature.mixHash C) sig

/-- Two different signature states that a section, or the final HMAC, makes equal. -/
inductive Collision (key : List β) : ZtdoSignature β → ZtdoSignature β → List (List β) → Prop
  | hash {a b : ZtdoSignature β} {buf : List β} {sections : List (List β)} (hne : a ≠ b)
      (heq : C.sha256 (a.signature.1 ++ buf) = C.sha256 (b.signature.1 ++ buf)) :
      Collision key a b (buf :: sections)
  | hmac {a b : ZtdoSignature β} (hne : a ≠ b)
      (heq : C.hmacSha256 key a.signature.1 = C.hmacSha256 key b.signature.1) : Collision key a b []
  | next {a b : ZtdoSignature β} {buf : List β} {sections : List (List β)}
      (h : Collision key (a.mixHash C buf) (b.mixHash C buf) sections) :
      Collision key a b (buf :: sections)

omit [Letter β] [DecidableEq β] in
/-- Two states that end in one signature have met on the way. -/
theorem collision_of_sign_eq {key : List β} {a b : ZtdoSignature β} {sections : List (List β)}
    (hne : a ≠ b)
    (heq : (mixSections C a sections).sign C key = (mixSections C b sections).sign C key) :
    Collision C key a b sections := by
  induction sections generalizing a b with
  | nil => exact .hmac hne (ZtdoSignature.mk.inj heq)
  | cons buf sections ih =>
    by_cases hmeet : a.mixHash C buf = b.mixHash C buf
    · exact .hash hne (ZtdoSignature.mk.inj hmeet)
    · exact .next (ih hmeet heq)

/-- The sections of the file a value writes. -/
def sectionsOf (z : Ztdo β) (draws : Draws β) (plaintext key ad : List β) : List (List β) :=
  let h := z.header.forFile
  marshal ZtdoHeader.fields h ::
    (payloads C h.getCipherMode key ad draws plaintext).map (marshal ZtdoPayload.fields)

omit [DecidableEq β] in
/-- The payloads are mixed in one by one. -/
theorem mixSections_map (sig : ZtdoSignature β) (ps : List (ZtdoPayload β)) :
    mixSections C sig (ps.map (marshal ZtdoPayload.fields)) = mixPayloads C sig ps := by
  rw [mixSections, List.foldl_map, mixPayloads]

/-! ## After any history -/

/-- What a good file needs, when the header is complete. -/
theorem sound_needs (hC : LawfulFileCrypto C) {z : Ztdo β} (hc : z.header.Complete) {draws : Draws β}
    {plaintext key ad : List β} (hne : plaintext ≠ []) {mode : SymmetricCipherMode}
    {eccMode : DataKeyPairECCMode} (h : SoundEncryption C z draws plaintext key ad mode eccMode) :
    (z.header.hasSignature = true ∧ z.header.getCipherMode = mode ∧ z.header.getECCMode = eccMode) ∧
      (∃ block, mode.aead key = .ok block) ∧
      (mixSections C z.signature (sectionsOf C z draws plaintext key ad)).sign C key
        = (mixSections C .new (sectionsOf C z draws plaintext key ad)).sign C key := by
  rcases h with herr | h
  · exact absurd rfl herr
  obtain ⟨hconfig, hok, -⟩ := h (Arr.zero _) (Arr.zero _) (Reader.ofFile [])
  obtain ⟨s', hread⟩ := toStructure_encryptZtdoFile C hc draws plaintext key ad (Reader.ofFile [])
    (Arr.zero _)
  obtain ⟨h', s₁, s₂, sig, hread', -, hheader, -⟩ := decrypt_ok C hok
  obtain rfl : z.header.forFile = h' := congrArg Outcome.value (hread.symm.trans hread')
  rw [hheader, z.header.hasSignature_forFile, z.header.getCipherMode_forFile,
    z.header.getECCMode_forFile] at hconfig
  obtain ⟨block, haead⟩ := decrypt_ok_aead C hok
  rw [hread] at haead
  change SymmetricCipherMode.aead z.header.forFile.getCipherMode key = .ok block at haead
  rw [z.header.getCipherMode_forFile] at haead
  refine ⟨hconfig, ⟨block, hconfig.2.1 ▸ haead⟩, ?_⟩
  have hd := decrypt_encryptZtdoFile C hC hc hconfig.1 haead draws hne ad (Ztdo.new (Arr.zero _))
    (Arr.zero _) (Reader.ofFile [])
  have hverify : (encryptZtdoFile C z draws plaintext key ad).ztdo.signature.signature
      = (recalcSignature C z.header.forFile
          (payloads C z.header.forFile.getCipherMode key ad draws plaintext) key).signature := by
    by_contra hdiffer
    have herr := congrArg Decryption.err hd
    rw [if_neg hdiffer] at herr
    exact absurd (hok.symm.trans herr) (by simp)
  rw [encryptZtdoFile_file] at hverify
  have hsections : ∀ sig : ZtdoSignature β,
      mixSections C sig (sectionsOf C z draws plaintext key ad)
        = mixPayloads C (sig.mixHash C (marshal ZtdoHeader.fields z.header.forFile))
          (payloads C z.header.forFile.getCipherMode key ad draws plaintext) :=
    fun sig => mixSections_map C _ _
  rw [hsections, hsections]
  exact congrArg ZtdoSignature.mk hverify

/-- A clean value writes a good file. -/
theorem sound_of_clean (hC : LawfulFileCrypto C) {z : Ztdo β} {key : List β}
    {mode : SymmetricCipherMode} {eccMode : DataKeyPairECCMode} (hz : Clean z key mode eccMode)
    (draws : Draws β) {plaintext : List β} (hne : plaintext ≠ []) (ad : List β) :
    SoundEncryption C z draws plaintext key ad mode eccMode := by
  refine .inr fun fresh uuid s => ?_
  obtain ⟨block, haead⟩ := hz.aead
  have hd := decrypt_encryptZtdoFile_unused C hC hz.complete hz.hasSignature hz.unused
    (hz.getCipherMode.symm ▸ haead) draws hne ad (Ztdo.new fresh) uuid s
  rw [hd]
  refine ⟨?_, rfl, rfl⟩
  rw [encryptZtdoFile_file]
  exact ⟨z.header.hasSignature_forFile.trans hz.hasSignature,
    z.header.getCipherMode_forFile.trans hz.getCipherMode,
    z.header.getECCMode_forFile.trans hz.getECCMode⟩

/-- After any history whose last configuration asked for a signature: a clean value writes a good
    file, and a value with a complete header that writes a good file is clean, or its signature and a
    fresh one meet in an explicit collision of the hash or the HMAC. -/
theorem encryption_sound (hC : LawfulFileCrypto C) (uuid : Arr β objectIDSize)
    (calls : List (ZtdoCall β)) (draws : Draws β) {plaintext : List β} (hne : plaintext ≠ [])
    (key ad : List β) :
    let z := calls.foldl (Ztdo.call C) (Ztdo.new uuid)
    ∀ mode eccMode, lastConfig calls = some (true, mode, eccMode) →
      (Clean z key mode eccMode → SoundEncryption C z draws plaintext key ad mode eccMode) ∧
      (SoundEncryption C z draws plaintext key ad mode eccMode → z.header.Complete →
        Clean z key mode eccMode ∨
          Collision C key z.signature .new (sectionsOf C z draws plaintext key ad)) := by
  intro z mode eccMode _
  refine ⟨fun hz => sound_of_clean C hC hz draws hne ad, fun hsound hc => ?_⟩
  obtain ⟨⟨hflag, hmode, hecc⟩, haead, hverify⟩ := sound_needs C hC hc hne hsound
  by_cases hunused : z.signature = .new
  · exact .inl ⟨hc, hflag, hmode, hecc, haead, hunused⟩
  · exact .inr (collision_of_sign_eq C hunused hverify)

/-- Calls that only configure. -/
def ZtdoCall.Configures : ZtdoCall β → Prop
  | .setNhpServer _ | .setMetadata _ | .setCipherConfig .. => True
  | .encryptZtdoFile .. | .parseHeader .. | .decryptZtdoFile .. => False

/-- A setter leaves a complete header and the signature. -/
theorem call_configures {z : Ztdo β} (hc : z.header.Complete) (call : ZtdoCall β)
    (hcall : call.Configures) :
    (z.call C call).header.Complete ∧ (z.call C call).signature = z.signature := by
  cases call with
  | setNhpServer server =>
    rw [Ztdo.call, Ztdo.setNhpServer]
    cases hset : z.header.setNhpServer server with
    | none => exact ⟨hc, rfl⟩
    | some h =>
      refine ⟨⟨ZtdoHeader.setNhpServer_serverFits hset, ?_⟩, rfl⟩
      rw [Option.map_some, Option.getD_some, ZtdoHeader.getMetadata,
        ZtdoHeader.setNhpServer_metadata hset]
      exact hc.2
  | setMetadata metadata =>
    obtain ⟨h, hset, hchained, -⟩ := z.header.setMetadata_eq_some metadata
    rw [Ztdo.call, Ztdo.setMetadata, hset]
    exact ⟨⟨(ZtdoHeader.setMetadata_wellFormed hc.1 hset).server, .inr hchained⟩, rfl⟩
  | setCipherConfig => exact ⟨hc, rfl⟩
  | encryptZtdoFile => exact absurd hcall id
  | parseHeader => exact absurd hcall id
  | decryptZtdoFile => exact absurd hcall id

/-- A value that was only configured has a complete header and an unused signature. -/
theorem configured_unused {calls : List (ZtdoCall β)} (hcalls : ∀ call ∈ calls, call.Configures)
    (uuid : Arr β objectIDSize) :
    (calls.foldl (Ztdo.call C) (Ztdo.new uuid)).header.Complete ∧
      (calls.foldl (Ztdo.call C) (Ztdo.new uuid)).signature = .new := by
  induction calls using List.reverseRecOn with
  | nil => exact ⟨⟨ZtdoHeader.new_serverFits uuid, .inl rfl⟩, rfl⟩
  | append_singleton calls call ih =>
    obtain ⟨hc, hsig⟩ := ih fun c hmem => hcalls c (List.mem_append_left _ hmem)
    rw [List.foldl_append, List.foldl_cons, List.foldl_nil]
    obtain ⟨hc', hsig'⟩ := call_configures C hc _
      (hcalls call (List.mem_append_right _ List.mem_cons_self))
    exact ⟨hc', hsig'.trans hsig⟩

/-- One configuration of a fresh value, and one file. -/
theorem encryption_sound_once :
    let calls : List (ZtdoCall UInt8) := [.setCipherConfig true .AES256GCM128Tag 1]
    SoundEncryption sampleCrypto (calls.foldl (Ztdo.call sampleCrypto) (Ztdo.new (Arr.zero _)))
      sampleDraws [1, 2, 3] (List.replicate 32 5) [9] .AES256GCM128Tag 1 := by
  intro calls
  have hcalls : ∀ call ∈ calls, call.Configures := fun call hmem =>
    List.mem_singleton.mp hmem ▸ trivial
  obtain ⟨hc, hsig⟩ := configured_unused sampleCrypto hcalls (Arr.zero _)
  exact (encryption_sound sampleCrypto sampleCrypto_lawful (Arr.zero _) calls sampleDraws
    (List.cons_ne_nil _ _) _ [9] .AES256GCM128Tag 1 rfl).1
    ⟨hc, by decide, by decide, by decide, ⟨_, rfl⟩, hsig⟩

/-- A key one byte short, and a second configuration whose mode is or-ed into the first one: both files
    are written without an error, and neither is what was asked for. -/
theorem encryption_unsound :
    let short : List (ZtdoCall UInt8) := [.setCipherConfig true .AES256GCM128Tag 1]
    let twice : List (ZtdoCall UInt8) :=
      [.setCipherConfig true .AES256GCM96Tag 1, .setCipherConfig true .AES256GCM104Tag 1]
    (lastConfig short = some (true, .AES256GCM128Tag, 1) ∧
      ¬SoundEncryption sampleCrypto (short.foldl (Ztdo.call sampleCrypto) (Ztdo.new (Arr.zero _)))
        sampleDraws [1] (List.replicate 31 5) [] .AES256GCM128Tag 1) ∧
    lastConfig twice = some (true, .AES256GCM104Tag, 1) ∧
      ¬SoundEncryption sampleCrypto (twice.foldl (Ztdo.call sampleCrypto) (Ztdo.new (Arr.zero _)))
        sampleDraws [1] (List.replicate 32 5) [] .AES256GCM104Tag 1 := by
  intro short twice
  have hshort : ∀ call ∈ short, call.Configures := by simp [short, ZtdoCall.Configures]
  have htwice : ∀ call ∈ twice, call.Configures := by simp [twice, ZtdoCall.Configures]
  refine ⟨⟨rfl, fun h => ?_⟩, rfl, fun h => ?_⟩
  · obtain ⟨-, ⟨block, haead⟩, -⟩ := sound_needs sampleCrypto sampleCrypto_lawful
      (configured_unused sampleCrypto hshort _).1 (List.cons_ne_nil _ _) h
    have hkey : SymmetricCipherMode.newCipherBlock .AES256GCM128Tag (List.replicate 31 (5 : UInt8))
        = .error .aesKeyLength := rfl
    exact absurd (hkey.symm.trans (SymmetricCipherMode.aead_eq_ok_iff.mp haead).1) (by simp)
  · obtain ⟨⟨-, hmode, -⟩, -, -⟩ := sound_needs sampleCrypto sampleCrypto_lawful
      (configured_unused sampleCrypto htwice _).1 (List.cons_ne_nil _ _) h
    exact absurd hmode (by decide)

end OpenNHP.Core.Ztdo
