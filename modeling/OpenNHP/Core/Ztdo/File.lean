/-
  `EncryptZtdoFile` and `DecryptZtdoFile` (`nhp/core/ztdo/ztdo.go`).

  THE PROGRAM.  The writer puts the header, one payload for each chunk of the plaintext and the signature; the
  reader takes a header, payloads until the bytes that remain are those of the signature (or none, when the header
  has no signature flag), and the signature.

  THE CRUX.  Both loop over the same list, the writer over its chunks, the reader over the payloads in the file,
  and both mix what they pass into a running signature.  `writePayloads_eq` and `readPayloads_payloads` say what
  the two loops do on a whole list of payloads; `readPayloads_step` is one turn.

  1. A chunk has at least one byte and at most `dataChunkSize`, and the chunks are the plaintext
     (`chunks_flatten`).
  2. A payload opens to its chunk (`sealChunk_opens`).
  3. `decrypt_signed` and `decrypt_unsigned` say what the reader makes of a file of sections.

  Files are read and written completely; the errors left are those of the code itself.
-/
import OpenNHP.Core.Ztdo.Cipher
import Mathlib.Data.List.Forall2

namespace OpenNHP.Core.Ztdo

variable {β : Type} [Letter β]

/-! ## The writer -/

/-- `DATACHUNKSIZE`: with IV and tag the length of a payload fits into three bytes. -/
def dataChunkSize : Nat := 16777187

/-- What `getSecureRandomChunkSize` returns. -/
structure ChunkSize where
  size : Nat
  lower : dataChunkSize * 8 / 10 ≤ size
  upper : size ≤ dataChunkSize

/-- The greatest size is one of them. -/
theorem dataChunkSize_lower : dataChunkSize * 8 / 10 ≤ dataChunkSize := by decide

/-- A chunk is never empty. -/
theorem ChunkSize.pos (n : ChunkSize) : 0 < n.size := by
  have hlower := n.lower
  have hsize : dataChunkSize * 8 / 10 = 13421749 := by decide
  omega

/-- The random choices of one encryption: the chunk sizes and the IVs, turn by turn. -/
structure Draws (β : Type) where
  size : Nat → ChunkSize
  iv : Nat → Arr β ivSize

namespace Ztdo

/-- `NewZtdo`. -/
def new (uuid : Arr β objectIDSize) : Ztdo β := { header := .new uuid, signature := .new }

/-- `SetNhpServer` on the file's header, -/
def setNhpServer (z : Ztdo β) (nhpServer : List β) : Option (Ztdo β) :=
  (z.header.setNhpServer nhpServer).map fun header => { z with header }

/-- `SetMetadata`, -/
def setMetadata (z : Ztdo β) (metadata : List β) : Option (Ztdo β) :=
  (z.header.setMetadata metadata).map fun header => { z with header }

/-- and `SetCipherConfig`. -/
def setCipherConfig (z : Ztdo β) (hasSignature : Bool) (mode : SymmetricCipherMode)
    (eccMode : DataKeyPairECCMode) : Ztdo β :=
  { z with header := z.header.setCipherConfig hasSignature mode eccMode }

end Ztdo

section

variable (C : FileCrypto β) (mode : SymmetricCipherMode) (key ad : List β) (draws : Draws β)

/-- The payload of one chunk; the error of `SetCipherText` is dropped. -/
def sealChunk (chunk : List β) (iv : Arr β ivSize) : ZtdoPayload β :=
  ((ZtdoPayload.new iv).setCipherText C mode key ad chunk).1.setLength

/-- The payload loop, from turn `i` on, with `rest` of the plaintext file left. -/
def writePayloads (i : Nat) (rest : List β) (sig : ZtdoSignature β) (file : List β) :
    ZtdoSignature β × List β :=
  if rest.length = 0 then (sig, file)
  else
    let buf := rest.take (draws.size i).size
    let payloadBuf := marshal ZtdoPayload.fields (sealChunk C mode key ad buf (draws.iv i))
    writePayloads (i + 1) (rest.drop (draws.size i).size) (sig.mixHash C payloadBuf)
      (file ++ payloadBuf)
termination_by rest.length
decreasing_by
  have hpos := (draws.size i).pos
  rw [List.length_drop]
  omega

end

/-- What `EncryptZtdoFile` leaves: the `Ztdo`, the ciphertext file and the returned error. -/
structure Encryption (β : Type) where
  ztdo : Ztdo β
  file : List β
  err : Option ZtdoError

/-- The header `EncryptZtdoFile` writes: without metadata it sets an empty string first. -/
def ZtdoHeader.forFile (h : ZtdoHeader β) : ZtdoHeader β :=
  if h.getMetadata.length = 0 then (h.setMetadata []).getD h else h

/-- `EncryptZtdoFile`: the header is mixed into the signature, then the payloads are, and then it is keyed. -/
def encryptZtdoFile (C : FileCrypto β) (z : Ztdo β) (draws : Draws β) (plaintext key ad : List β) :
    Encryption β :=
  let header := z.header.forFile
  let headerBuf := marshal ZtdoHeader.fields header
  let (sig, file) := writePayloads C header.getCipherMode key ad draws 0 plaintext
    (z.signature.mixHash C headerBuf) headerBuf
  let sig := sig.sign C key
  { ztdo := { header, signature := sig }, file := file ++ marshal ZtdoSignature.fields sig,
    err := none }

/-! ## The reader -/

section

variable (C : FileCrypto β) (h : ZtdoHeader β) (key ad : List β)

/-- The payload loop: the plaintext written, and the error it returns or the file and the signature it
    goes on with.  The IV that `NewZtdoPayload` draws is overwritten by the read. -/
def readPayloads : Nat → Reader β → Int → ZtdoSignature β → List β →
    List β × Except ZtdoError (Reader β × ZtdoSignature β)
  | 0, _, _, _, plaintext => (plaintext, .error (.read .endless))
  | fuel + 1, s, remaining, sig, plaintext =>
    let r := toStructure ZtdoPayload.fields s (ZtdoPayload.new (Arr.zero ivSize))
    match r.err with
    | some e => (plaintext, .error (.read e))
    | none =>
      let payloadBuf := marshal ZtdoPayload.fields r.value
      let sig := sig.mixHash C payloadBuf
      let remaining := remaining - payloadBuf.length
      match r.value.getPlainText C h.getCipherMode key ad with
      | .error e => (plaintext, .error e)
      | .ok text =>
        let plaintext := plaintext ++ text
        if h.hasSignature then
          if remaining = signatureLenSize then (plaintext, .ok (r.reader, sig))
          else if remaining = 0 then (plaintext, .error .invalidFile)
          else readPayloads fuel r.reader remaining sig plaintext
        else if remaining = 0 then (plaintext, .ok (r.reader, sig))
        else readPayloads fuel r.reader remaining sig plaintext

end

/-- What `DecryptZtdoFile` leaves: the `Ztdo`, the plaintext file and the returned error. -/
structure Decryption (β : Type) where
  ztdo : Ztdo β
  plaintext : List β
  err : Option ZtdoError

/-- `DecryptZtdoFile` of the file `s` is at the start of. -/
def decryptZtdoFile [DecidableEq β] (C : FileCrypto β) (z : Ztdo β) (uuid : Arr β objectIDSize)
    (s : Reader β) (key ad : List β) : Decryption β :=
  let r := toStructure ZtdoHeader.fields s (ZtdoHeader.new uuid)
  let z := { z with header := r.value }
  match r.err with
  | some e => { ztdo := z, plaintext := [], err := some (.read e) }
  | none =>
    let headerBuf := marshal ZtdoHeader.fields r.value
    match readPayloads C r.value key ad (s.rest.length + 1) r.reader
        ((s.rest.length : Int) - headerBuf.length) (ZtdoSignature.new.mixHash C headerBuf) [] with
    | (plaintext, .error e) => { ztdo := z, plaintext, err := some e }
    | (plaintext, .ok (s', sig)) =>
      let recalcSig := sig.sign C key
      if r.value.hasSignature then
        let trailer := toStructure ZtdoSignature.fields s' z.signature
        let z := { z with signature := trailer.value }
        match trailer.err with
        | some e => { ztdo := z, plaintext, err := some (.read e) }
        | none =>
          if z.signature.signature = recalcSig.signature then { ztdo := z, plaintext, err := none }
          else { ztdo := z, plaintext, err := some .signature }
      else { ztdo := z, plaintext, err := none }

/-! ## The writer, as lists of payloads -/

section

variable (C : FileCrypto β)

/-- The chunks of a plaintext, with their IVs. -/
def chunks (draws : Draws β) (i : Nat) (rest : List β) : List (List β × Arr β ivSize) :=
  if rest.length = 0 then []
  else (rest.take (draws.size i).size, draws.iv i) ::
    chunks draws (i + 1) (rest.drop (draws.size i).size)
termination_by rest.length
decreasing_by
  have hpos := (draws.size i).pos
  rw [List.length_drop]
  omega

/-- The payloads of a file. -/
def payloads (mode : SymmetricCipherMode) (key ad : List β) (draws : Draws β) (plaintext : List β) :
    List (ZtdoPayload β) :=
  (chunks draws 0 plaintext).map fun chunk => sealChunk C mode key ad chunk.1 chunk.2

/-- The letters of a list of payloads. -/
def payloadLetters (ps : List (ZtdoPayload β)) : List β := ps.flatMap (marshal ZtdoPayload.fields)

/-- The signature after a list of payloads. -/
def mixPayloads (sig : ZtdoSignature β) (ps : List (ZtdoPayload β)) : ZtdoSignature β :=
  ps.foldl (fun sig p => sig.mixHash C (marshal ZtdoPayload.fields p)) sig

/-- What the writer's loop does on all chunks at once. -/
theorem writePayloads_eq (mode : SymmetricCipherMode) (key ad : List β) (draws : Draws β) (i : Nat)
    (rest : List β) (sig : ZtdoSignature β) (file : List β) :
    let ps := (chunks draws i rest).map fun chunk => sealChunk C mode key ad chunk.1 chunk.2
    writePayloads C mode key ad draws i rest sig file
      = (mixPayloads C sig ps, file ++ payloadLetters ps) := by
  fun_induction chunks draws i rest generalizing sig file with
  | case1 i rest hnil =>
    rw [writePayloads, if_pos hnil]
    simp [mixPayloads, payloadLetters]
  | case2 i rest hne ih =>
    rw [writePayloads, if_neg hne]
    refine (ih _ _).trans ?_
    simp [mixPayloads, payloadLetters]

omit [Letter β] in
/-- The chunks are the plaintext. -/
theorem chunks_flatten (draws : Draws β) (i : Nat) (rest : List β) :
    (chunks draws i rest).flatMap (·.1) = rest := by
  fun_induction chunks draws i rest with
  | case1 i rest hnil => exact (List.length_eq_zero_iff.mp hnil).symm
  | case2 i rest hne ih => rw [List.flatMap_cons, ih, List.take_append_drop]

omit [Letter β] in
/-- No chunk is longer than `dataChunkSize`. -/
theorem chunks_length_le (draws : Draws β) (i : Nat) (rest : List β) :
    ∀ chunk ∈ chunks draws i rest, chunk.1.length ≤ dataChunkSize := by
  fun_induction chunks draws i rest with
  | case1 i rest hnil => exact fun chunk h => absurd h List.not_mem_nil
  | case2 i rest hne ih =>
    intro chunk hchunk
    rcases List.mem_cons.mp hchunk with rfl | hchunk
    · exact (List.length_take_le _ _).trans (draws.size i).upper
    · exact ih chunk hchunk

omit [Letter β] in
/-- Each has one of the IVs that are drawn. -/
theorem chunks_iv {draws : Draws β} {i : Nat} {rest : List β} {chunk : List β × Arr β ivSize}
    (h : chunk ∈ chunks draws i rest) : ∃ j, chunk.2 = draws.iv j := by
  fun_induction chunks draws i rest with
  | case1 i rest hnil => exact absurd h List.not_mem_nil
  | case2 i rest hne ih =>
    rcases List.mem_cons.mp h with rfl | h
    · exact ⟨i, rfl⟩
    · exact ih h

omit [Letter β] in
/-- A plaintext that is not empty has chunks. -/
theorem chunks_ne_nil (draws : Draws β) {plaintext : List β} (h : plaintext ≠ []) :
    chunks draws 0 plaintext ≠ [] := by
  rw [chunks, if_neg (mt List.length_eq_zero_iff.mp h)]
  exact List.cons_ne_nil _ _

/-- The letters of a file: header, payloads, signature. -/
theorem encryptZtdoFile_file (z : Ztdo β) (draws : Draws β) (plaintext key ad : List β) :
    let h := z.header.forFile
    let ps := payloads C h.getCipherMode key ad draws plaintext
    let sig := (mixPayloads C (z.signature.mixHash C (marshal ZtdoHeader.fields h)) ps).sign C key
    encryptZtdoFile C z draws plaintext key ad
      = { ztdo := { header := h, signature := sig },
          file := marshal ZtdoHeader.fields h ++ (payloadLetters ps ++ sig.signature.1), err := none } := by
  intro h ps sig
  rw [encryptZtdoFile]
  simp only [writePayloads_eq, List.append_assoc]
  simp [marshal, ZtdoSignature.fields, arrayField, sig, ps, h, payloads]

/-! ## The reader, on lists of payloads -/

/-- A payload that reads back and decrypts to a text. -/
def Opens (h : ZtdoHeader β) (key ad : List β) (p : ZtdoPayload β) (text : List β) : Prop :=
  p.WellFormed ∧ p.getPlainText C h.getCipherMode key ad = .ok text

/-- How many bytes remain when the payload loop stops. -/
def ZtdoHeader.stopSize (h : ZtdoHeader β) : Nat := if h.hasSignature then signatureLenSize else 0

/-- One turn of the payload loop. -/
theorem readPayloads_step {h : ZtdoHeader β} {key ad text : List β} {p : ZtdoPayload β}
    (hp : Opens C h key ad p text) {s : Reader β} {tail : List β}
    (hs : s.rest = marshal ZtdoPayload.fields p ++ tail) {remaining : Int}
    (hrem : remaining = s.rest.length) (fuel : Nat) (sig : ZtdoSignature β) (plaintext : List β) :
    let sig' := sig.mixHash C (marshal ZtdoPayload.fields p)
    ∃ s' : Reader β, s'.rest = tail ∧
      (h.stopSize < tail.length →
        readPayloads C h key ad (fuel + 1) s remaining sig plaintext
          = readPayloads C h key ad fuel s' tail.length sig' (plaintext ++ text)) ∧
      (tail.length = h.stopSize →
        readPayloads C h key ad (fuel + 1) s remaining sig plaintext
          = (plaintext ++ text, .ok (s', sig'))) := by
  intro sig'
  obtain ⟨hwf, hopen⟩ := hp
  obtain ⟨s', hread, hrest⟩ := toStructure_payload hwf hs (ZtdoPayload.new (Arr.zero ivSize))
  have hleft : remaining - (marshal ZtdoPayload.fields p).length = (tail.length : Int) := by
    rw [hrem, hs, List.length_append]
    omega
  refine ⟨s', hrest, fun hlt => ?_, fun heq => ?_⟩
  · rw [readPayloads]
    simp only [hread, hopen, hleft]
    rw [ZtdoHeader.stopSize] at hlt
    cases hsig : h.hasSignature with
    | true =>
      rw [hsig, if_pos rfl] at hlt
      rw [if_pos rfl, if_neg (by omega), if_neg (by omega)]
    | false => rw [if_neg Bool.false_ne_true, if_neg (by omega)]
  · rw [readPayloads]
    simp only [hread, hopen, hleft]
    rw [ZtdoHeader.stopSize] at heq
    cases hsig : h.hasSignature with
    | true =>
      rw [hsig, if_pos rfl] at heq
      rw [if_pos rfl, if_pos (by omega)]
    | false =>
      rw [hsig, if_neg Bool.false_ne_true] at heq
      rw [if_neg Bool.false_ne_true, if_pos (by omega)]

/-- A payload has at least its length and its IV. -/
theorem marshal_payload_pos (p : ZtdoPayload β) : 15 ≤ (marshal ZtdoPayload.fields p).length := by
  rw [marshal_payload]
  simp only [List.length_append, p.length.2, p.content.iv.2, payloadLengthSize, ivSize]
  omega

/-- With exactly the stop size behind them, the loop takes all the payloads and stops. -/
theorem readPayloads_payloads {h : ZtdoHeader β} {key ad : List β} {ps : List (ZtdoPayload β)}
    {texts : List (List β)} (hps : List.Forall₂ (Opens C h key ad) ps texts) (hne : ps ≠ [])
    {tail : List β} (htail : tail.length = h.stopSize) {s : Reader β}
    (hs : s.rest = payloadLetters ps ++ tail) {remaining : Int} (hrem : remaining = s.rest.length)
    {fuel : Nat} (hfuel : ps.length ≤ fuel) (sig : ZtdoSignature β) (plaintext : List β) :
    ∃ s' : Reader β, s'.rest = tail ∧
      readPayloads C h key ad fuel s remaining sig plaintext
        = (plaintext ++ texts.flatten, .ok (s', mixPayloads C sig ps)) := by
  induction hps generalizing s remaining fuel sig plaintext with
  | nil => exact absurd rfl hne
  | @cons p text ps texts hp hps ih =>
    rw [payloadLetters, List.flatMap_cons, List.append_assoc] at hs
    obtain ⟨fuel, rfl⟩ : ∃ n, fuel = n + 1 := ⟨fuel - 1, by rw [List.length_cons] at hfuel; omega⟩
    obtain ⟨s₁, hrest, hnext, hstop⟩ := readPayloads_step C hp hs hrem fuel sig plaintext
    cases hps with
    | nil =>
      refine ⟨s₁, hrest, ?_⟩
      rw [hstop htail, List.flatten_cons, List.flatten_nil, List.append_nil]
      rfl
    | @cons p' text' ps texts hp' hps =>
      have hlen : h.stopSize < (payloadLetters (p' :: ps) ++ tail).length := by
        have hpos := marshal_payload_pos p'
        rw [payloadLetters, List.flatMap_cons, List.length_append, List.length_append]
        omega
      obtain ⟨s', hrest', hloop⟩ := ih (List.cons_ne_nil _ _) hrest (by rw [hrest])
        (Nat.le_of_succ_le_succ hfuel) (sig.mixHash C (marshal ZtdoPayload.fields p))
        (plaintext ++ text)
      refine ⟨s', hrest', ?_⟩
      rw [hnext hlen]
      refine hloop.trans ?_
      rw [List.flatten_cons, List.flatten_cons, List.flatten_cons, List.append_assoc]
      rfl

/-- The signature of a header and a list of payloads, as the reader recomputes it. -/
def recalcSignature (h : ZtdoHeader β) (ps : List (ZtdoPayload β)) (key : List β) : ZtdoSignature β :=
  (mixPayloads C (ZtdoSignature.new.mixHash C (marshal ZtdoHeader.fields h)) ps).sign C key

/-- So the loop needs no more turns than there are bytes. -/
theorem length_le_payloadLetters (ps : List (ZtdoPayload β)) :
    ps.length ≤ (payloadLetters ps).length := by
  induction ps with
  | nil => exact Nat.le_refl _
  | cons p ps ih =>
    have hpos := marshal_payload_pos p
    rw [payloadLetters, List.flatMap_cons, List.length_append, List.length_cons]
    rw [payloadLetters] at ih
    omega

/-- The signature is read back, -/
theorem toStructure_signature (sig zero : ZtdoSignature β) {s : Reader β} {tail : List β}
    (hs : s.rest = sig.signature.1 ++ tail) :
    ∃ s', toStructure ZtdoSignature.fields s zero = ⟨sig, s', none⟩ ∧ s'.rest = tail := by
  have hs' : ({ s with lengthMap := fun _ => 0 } : Reader β).rest = _ := hs
  rw [toStructure, ZtdoSignature.fields, unmarshal_cons (arrayField_read sig.signature hs')]
  exact ⟨_, rfl, rfl⟩

/-- The payload loop of `DecryptZtdoFile`, on a file of a header, payloads and a trailer as long as the
    header asks for. -/
theorem decrypt_payloads {h : ZtdoHeader β} (hwf : h.WellFormed) {key ad : List β}
    {ps : List (ZtdoPayload β)} {texts : List (List β)}
    (hps : List.Forall₂ (Opens C h key ad) ps texts) (hne : ps ≠ []) {trailer : List β}
    (htrailer : trailer.length = h.stopSize) {s : Reader β}
    (hs : s.rest = marshal ZtdoHeader.fields h ++ (payloadLetters ps ++ trailer))
    (uuid : Arr β objectIDSize) :
    ∃ s₁ s₂, toStructure ZtdoHeader.fields s (ZtdoHeader.new uuid) = ⟨h, s₁, none⟩ ∧
      s₂.rest = trailer ∧
      readPayloads C h key ad (s.rest.length + 1) s₁
          ((s.rest.length : Int) - (marshal ZtdoHeader.fields h).length)
          (ZtdoSignature.new.mixHash C (marshal ZtdoHeader.fields h)) []
        = (texts.flatten,
          .ok (s₂, mixPayloads C (ZtdoSignature.new.mixHash C (marshal ZtdoHeader.fields h)) ps)) := by
  obtain ⟨s₁, hread, hrest⟩ := toStructure_header hwf hs (v := ZtdoHeader.new uuid) rfl
  have hrem : (s.rest.length : Int) - (marshal ZtdoHeader.fields h).length = s₁.rest.length := by
    rw [hs, hrest, List.length_append]
    omega
  have hfuel : ps.length ≤ s.rest.length + 1 := by
    have hle := length_le_payloadLetters ps
    rw [hs, List.length_append, List.length_append]
    omega
  obtain ⟨s₂, hrest₂, hloop⟩ := readPayloads_payloads C hps hne htrailer hrest hrem hfuel
    (ZtdoSignature.new.mixHash C (marshal ZtdoHeader.fields h)) []
  exact ⟨s₁, s₂, hread, hrest₂, hloop⟩

/-! ## What the writer wrote opens -/

/-- and so is the content of a payload. -/
theorem sealChunk_content {mode : SymmetricCipherMode} {key ad chunk cipherText : List β}
    {iv : Arr β ivSize}
    (h : SymmetricCipherMode.encrypt C mode key iv.1 chunk ad = .ok cipherText) :
    (sealChunk C mode key ad chunk iv).content = { iv, cipherText } := by
  have hset : (ZtdoPayload.new iv).setCipherText C mode key ad chunk
      = ({ ZtdoPayload.new iv with content := { iv, cipherText } }, none) := by
    rw [ZtdoPayload.setCipherText]
    simp only [ZtdoPayload.new, h]
  rw [sealChunk, hset]
  rfl

/-- With a mode that has an AEAD, the payload of a chunk decrypts to the chunk. -/
theorem sealChunk_opens (hC : LawfulFileCrypto C) {h : ZtdoHeader β} {key ad chunk : List β}
    {block : CipherBlock β} (haead : SymmetricCipherMode.aead h.getCipherMode key = .ok block)
    (hlen : chunk.length ≤ dataChunkSize) (iv : Arr β ivSize) :
    Opens C h key ad (sealChunk C h.getCipherMode key ad chunk iv) chunk := by
  have hencrypt : SymmetricCipherMode.encrypt C h.getCipherMode key iv.1 chunk ad
      = .ok (C.gcmSeal block (SymmetricCipherMode.tagSize h.getCipherMode) iv.1 chunk ad) := by
    rw [SymmetricCipherMode.encrypt, haead]
    rfl
  have hcontent := sealChunk_content C hencrypt
  obtain ⟨hdecrypt, hlength⟩ := SymmetricCipherMode.decrypt_encrypt hC hencrypt
  constructor
  · refine ZtdoPayload.setLength_wellFormed ?_
    have htag := SymmetricCipherMode.tagSize_le h.getCipherMode
    have hmax : dataChunkSize + ivSize + 16 < 2 ^ 24 := by decide
    have hct : ((ZtdoPayload.new iv).setCipherText C h.getCipherMode key ad chunk).1.content.cipherText
        = (sealChunk C h.getCipherMode key ad chunk iv).content.cipherText := rfl
    rw [hct, hcontent]
    simp only [hlength]
    omega
  · rw [ZtdoPayload.getPlainText, hcontent]
    exact hdecrypt

/-- Each payload of a file opens to its chunk. -/
theorem payloads_open (hC : LawfulFileCrypto C) (h : ZtdoHeader β) {key : List β} (ad : List β)
    {block : CipherBlock β} (haead : SymmetricCipherMode.aead h.getCipherMode key = .ok block)
    (draws : Draws β) (plaintext : List β) :
    List.Forall₂ (Opens C h key ad) (payloads C h.getCipherMode key ad draws plaintext)
      ((chunks draws 0 plaintext).map (·.1)) := by
  have hlen := chunks_length_le draws 0 plaintext
  rw [payloads, List.forall₂_map_left_iff, List.forall₂_map_right_iff, List.forall₂_same]
  exact fun chunk hchunk => sealChunk_opens C hC haead (hlen chunk hchunk) chunk.2

/-- What one turn of a payload loop that gets through has done. -/
theorem readPayloads_ok {h : ZtdoHeader β} {key ad : List β} {fuel : Nat} {s : Reader β}
    {remaining : Int} {sig : ZtdoSignature β} {plaintext out : List β}
    {r : Reader β × ZtdoSignature β}
    (hr : readPayloads C h key ad fuel s remaining sig plaintext = (out, .ok r)) :
    ∃ fuel' p s' text, fuel = fuel' + 1 ∧
      toStructure ZtdoPayload.fields s (ZtdoPayload.new (Arr.zero ivSize)) = ⟨p, s', none⟩ ∧
      p.getPlainText C h.getCipherMode key ad = .ok text ∧
      let remaining' := remaining - (marshal ZtdoPayload.fields p).length
      let sig' := sig.mixHash C (marshal ZtdoPayload.fields p)
      ((remaining' = h.stopSize ∧ out = plaintext ++ text ∧ r = (s', sig')) ∨
        readPayloads C h key ad fuel' s' remaining' sig' (plaintext ++ text) = (out, .ok r)) := by
  cases fuel with
  | zero => simp [readPayloads] at hr
  | succ fuel =>
    rw [readPayloads] at hr
    rcases hread : toStructure ZtdoPayload.fields s (ZtdoPayload.new (Arr.zero ivSize)) with
      ⟨p, s', _ | e⟩
    · cases hopen : p.getPlainText C h.getCipherMode key ad with
      | error e => simp [hread, hopen] at hr
      | ok text =>
        refine ⟨fuel, p, s', text, rfl, rfl, hopen, ?_⟩
        simp only [hread, hopen] at hr
        rw [ZtdoHeader.stopSize]
        cases hsig : h.hasSignature with
        | true =>
          rw [hsig, if_pos rfl] at hr
          split_ifs at hr with hstop hzero
          · obtain ⟨rfl, hend⟩ := Prod.mk.inj hr
            exact .inl ⟨hstop, rfl, (Except.ok.inj hend).symm⟩
          · exact absurd (Prod.mk.inj hr).2 (by simp)
          · exact .inr hr
        | false =>
          rw [hsig, if_neg Bool.false_ne_true] at hr
          split_ifs at hr with hstop
          · obtain ⟨rfl, hend⟩ := Prod.mk.inj hr
            exact .inl ⟨hstop, rfl, (Except.ok.inj hend).symm⟩
          · exact .inr hr
    · simp [hread] at hr

/-- The payload loop gets through only with an AEAD. -/
theorem readPayloads_ok_aead {h : ZtdoHeader β} {key ad : List β} {fuel : Nat} {s : Reader β}
    {remaining : Int} {sig : ZtdoSignature β} {plaintext out : List β}
    {r : Reader β × ZtdoSignature β}
    (hr : readPayloads C h key ad fuel s remaining sig plaintext = (out, .ok r)) :
    ∃ block, SymmetricCipherMode.aead h.getCipherMode key = .ok block := by
  obtain ⟨_, p, _, _, -, -, hopen, -⟩ := readPayloads_ok C hr
  obtain ⟨block, haead, -⟩ := SymmetricCipherMode.decrypt_eq_ok hopen
  exact ⟨block, haead⟩

/-! ## Decrypting a file of sections -/

variable [DecidableEq β]

/-- A signed file is decrypted, and accepted when its signature is the one recomputed. -/
theorem decrypt_signed {h : ZtdoHeader β} (hwf : h.WellFormed) (hsig : h.hasSignature = true)
    {key ad : List β} {ps : List (ZtdoPayload β)} {texts : List (List β)}
    (hps : List.Forall₂ (Opens C h key ad) ps texts) (hne : ps ≠ []) (sig : ZtdoSignature β)
    {s : Reader β}
    (hs : s.rest = marshal ZtdoHeader.fields h ++ (payloadLetters ps ++ sig.signature.1))
    (z : Ztdo β) (uuid : Arr β objectIDSize) :
    decryptZtdoFile C z uuid s key ad
      = { ztdo := { header := h, signature := sig }, plaintext := texts.flatten,
          err := if sig.signature = (recalcSignature C h ps key).signature then none
            else some .signature } := by
  have htrailer : sig.signature.1.length = h.stopSize := by
    rw [sig.signature.2, ZtdoHeader.stopSize, if_pos hsig]
  obtain ⟨s₁, s₂, hread, hrest, hloop⟩ := decrypt_payloads C hwf hps hne htrailer hs uuid
  have hrest' : s₂.rest = sig.signature.1 ++ [] := by rw [hrest, List.append_nil]
  obtain ⟨s₃, htrail, -⟩ := toStructure_signature sig z.signature hrest'
  rw [decryptZtdoFile]
  simp only [hread, hloop, hsig, if_true, htrail]
  rw [recalcSignature]
  split_ifs <;> rfl

/-- A file without the signature flag is accepted as soon as its payloads decrypt. -/
theorem decrypt_unsigned {h : ZtdoHeader β} (hwf : h.WellFormed) (hsig : h.hasSignature = false)
    {key ad : List β} {ps : List (ZtdoPayload β)} {texts : List (List β)}
    (hps : List.Forall₂ (Opens C h key ad) ps texts) (hne : ps ≠ []) {s : Reader β}
    (hs : s.rest = marshal ZtdoHeader.fields h ++ payloadLetters ps)
    (z : Ztdo β) (uuid : Arr β objectIDSize) :
    decryptZtdoFile C z uuid s key ad
      = { ztdo := { z with header := h }, plaintext := texts.flatten, err := none } := by
  have htrailer : ([] : List β).length = h.stopSize := by
    rw [ZtdoHeader.stopSize, hsig, if_neg Bool.false_ne_true]
    rfl
  obtain ⟨s₁, s₂, hread, -, hloop⟩ := decrypt_payloads C hwf hps hne htrailer
    (by rw [List.append_nil]; exact hs) uuid
  rw [decryptZtdoFile]
  simp only [hread, hloop, hsig, Bool.false_eq_true, if_false]

/-- What a decryption that succeeds has seen: a header, payloads that all decrypt, and under the
    signature flag a trailer with the signature recomputed from them. -/
theorem decrypt_ok {z : Ztdo β} {uuid : Arr β objectIDSize} {s : Reader β} {key ad : List β}
    (hok : (decryptZtdoFile C z uuid s key ad).err = none) :
    ∃ h s₁ s₂ sig,
      toStructure ZtdoHeader.fields s (ZtdoHeader.new uuid) = ⟨h, s₁, none⟩ ∧
      readPayloads C h key ad (s.rest.length + 1) s₁
          ((s.rest.length : Int) - (marshal ZtdoHeader.fields h).length)
          (ZtdoSignature.new.mixHash C (marshal ZtdoHeader.fields h)) []
        = ((decryptZtdoFile C z uuid s key ad).plaintext, .ok (s₂, sig)) ∧
      (decryptZtdoFile C z uuid s key ad).ztdo.header = h ∧
      (h.hasSignature = true → ∃ trailer s₃,
        toStructure ZtdoSignature.fields s₂ z.signature = ⟨trailer, s₃, none⟩ ∧
        trailer.signature = (sig.sign C key).signature) := by
  rcases hread : toStructure ZtdoHeader.fields s (ZtdoHeader.new uuid) with ⟨h, s₁, _ | e⟩
  · rcases hloop : readPayloads C h key ad (s.rest.length + 1) s₁
        ((s.rest.length : Int) - (marshal ZtdoHeader.fields h).length)
        (ZtdoSignature.new.mixHash C (marshal ZtdoHeader.fields h)) [] with ⟨out, e | ⟨s₂, sig⟩⟩
    · simp [decryptZtdoFile, hread, hloop] at hok
    · refine ⟨h, s₁, s₂, sig, rfl, ?_⟩
      rw [decryptZtdoFile] at hok ⊢
      simp only [hread, hloop] at hok ⊢
      cases hsig : h.hasSignature with
      | false => simp
      | true =>
        rcases htrail : toStructure ZtdoSignature.fields s₂ z.signature with ⟨trailer, s₃, _ | e⟩
        · simp only [hsig, htrail, if_true] at hok ⊢
          split_ifs at hok with hverify
          rw [if_pos hverify]
          exact ⟨rfl, rfl, fun _ => ⟨trailer, s₃, rfl, hverify⟩⟩
        · simp [hsig, htrail] at hok
  · simp [decryptZtdoFile, hread] at hok

end

end OpenNHP.Core.Ztdo
