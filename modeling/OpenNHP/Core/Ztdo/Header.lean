/-
  The structures of a ztdo file and their setters (`nhp/core/ztdo/ztdo.go`), and the metadata codec.

  THE PROGRAM.  The metadata of a header is a list of chunks of at most `metadataChunkMaxSize` bytes; all but the
  last carry the continuation bit in their length.

  THE SPECIFICATION.  `metadata_codec` is the round trip through `SetMetadata`, `marshal`, `toStructure` and
  `GetMetadata`, for every metadata string, whatever follows the header in the file and whatever an earlier parse
  left in the package variables.

  THE CRUX.  The reader's loop over the chunks is driven by the continuation bit that the last length had, in a
  variable.  A list of chunks that all say so but the last is `Chained`, which is what `SetMetadata` makes
  (`setMetadata_eq_some`) and what the loop reads back (`sliceLoop_chained`).

  1. A header that the setters have made is well formed (`ZtdoHeader.WellFormed`), and a well formed one is read
     back (`toStructure_header`).
  2. The configuration byte is ORed, so a setter that is called twice leaves bits of the first call
     (`config_setCipherConfig`).
-/
import OpenNHP.Core.Ztdo.Codec

namespace OpenNHP.Core.Ztdo

open BigEndian

/-! ## The structures -/

/-- The widths of the fields: a UUID, -/
def objectIDSize : Nat := 16
/-- what a length of one byte can say, -/
def nhpServerMaxSize : Nat := 255
/-- the length of a payload, -/
def payloadLengthSize : Nat := 3
/-- a nonce of GCM, -/
def ivSize : Nat := 12
/-- and a SHA-256. -/
def signatureLenSize : Nat := 32

/-- `SymmetricCipherMode`, the low bits of the configuration byte. -/
abbrev SymmetricCipherMode : Type := UInt8
/-- `DataKeyPairECCMode`, three bits above them. -/
abbrev DataKeyPairECCMode : Type := UInt8

/-- `ZtdoMetadata`: one chunk. -/
structure ZtdoMetadata (β : Type) where
  metadataLen : Arr β 2
  metadata : List β
  deriving DecidableEq

/-- `ZtdoHeader`. -/
structure ZtdoHeader (β : Type) where
  magicNumber : Arr β 4
  objectID : Arr β objectIDSize
  version : Arr β 2
  nhpServerLen : Arr β 1
  nhpServer : List β
  cipherConfig : Arr β 1
  metadata : List (ZtdoMetadata β)
  deriving DecidableEq

/-- `ZtdoContent`. -/
structure ZtdoContent (β : Type) where
  iv : Arr β ivSize
  cipherText : List β
  deriving DecidableEq

/-- `ZtdoPayload`: one chunk of the plaintext. -/
structure ZtdoPayload (β : Type) where
  length : Arr β payloadLengthSize
  content : ZtdoContent β
  deriving DecidableEq

/-- `ZtdoSignature`. -/
structure ZtdoSignature (β : Type) where
  signature : Arr β signatureLenSize
  deriving DecidableEq

/-- `Ztdo`: what a file is made with and what is left of it behind a read. -/
structure Ztdo (β : Type) where
  header : ZtdoHeader β
  signature : ZtdoSignature β
  deriving DecidableEq

/-! ## Their fields and tags -/

section

variable {β : Type} [Letter β]

/-- The fields of each structure in their order, with their tags. -/
def ZtdoMetadata.fields : List (Field β (ZtdoMetadata β)) :=
  [ arrayField 2 { lengthFor := some .metadata, lengthContinue := true } (·.metadataLen)
      (fun bytes m => { m with metadataLen := bytes }),
    bytesField .metadata (·.metadata) (fun bytes m => { m with metadata := bytes }) ]

/-- `reflect.New` of a chunk. -/
def ZtdoMetadata.new : ZtdoMetadata β := { metadataLen := Arr.zero 2, metadata := [] }

/-- Those of the header, -/
def ZtdoHeader.fields : List (Field β (ZtdoHeader β)) :=
  [ arrayField 4 {} (·.magicNumber) (fun bytes h => { h with magicNumber := bytes }),
    arrayField objectIDSize {} (·.objectID) (fun bytes h => { h with objectID := bytes }),
    arrayField 2 {} (·.version) (fun bytes h => { h with version := bytes }),
    arrayField 1 { lengthFor := some .nhpServer } (·.nhpServerLen)
      (fun bytes h => { h with nhpServerLen := bytes }),
    bytesField .nhpServer (·.nhpServer) (fun bytes h => { h with nhpServer := bytes }),
    arrayField 1 {} (·.cipherConfig) (fun bytes h => { h with cipherConfig := bytes }),
    sliceField ZtdoMetadata.fields ZtdoMetadata.new (·.metadata)
      (fun chunks h => { h with metadata := chunks }) ]

/-- of the content of a payload, -/
def ZtdoContent.fields : List (Field β (ZtdoContent β)) :=
  [ arrayField ivSize { subtractFrom := some .cipherText } (·.iv)
      (fun bytes c => { c with iv := bytes }),
    bytesField .cipherText (·.cipherText) (fun bytes c => { c with cipherText := bytes }) ]

/-- of a payload, -/
def ZtdoPayload.fields : List (Field β (ZtdoPayload β)) :=
  [ arrayField payloadLengthSize { lengthFor := some .cipherText } (·.length)
      (fun bytes p => { p with length := bytes }),
    structField ZtdoContent.fields (·.content) (fun content p => { p with content := content }) ]

/-- and of the signature. -/
def ZtdoSignature.fields : List (Field β (ZtdoSignature β)) :=
  [ arrayField signatureLenSize {} (·.signature) (fun bytes s => { s with signature := bytes }) ]

/-! ## Setters and getters -/

namespace ZtdoHeader

/-- `NewZtdoHeader` with the 16 letters `uuid.New` draws. -/
def new (uuid : Arr β objectIDSize) : ZtdoHeader β where
  magicNumber := ⟨uuid.1.take 4, by rw [List.length_take, uuid.2]; rfl⟩
  objectID := uuid
  version := Arr.ofBytes [0x00, 0x01] rfl
  nhpServerLen := Arr.zero 1
  nhpServer := []
  cipherConfig := Arr.zero 1
  metadata := []

/-- `SetNhpServer`; `none` is the error "nhp server length is too long". -/
def setNhpServer (h : ZtdoHeader β) (nhpServer : List β) : Option (ZtdoHeader β) :=
  if nhpServer.length > nhpServerMaxSize then none
  else some { h with nhpServerLen := Arr.ofBytes [UInt8.ofNat nhpServer.length] rfl, nhpServer }

/-- A chunk with its length; `none` is the error of `encodeMetadataLength`. -/
def chunkOf (chunk : List β) (continuation : Bool) : Option (ZtdoMetadata β) :=
  (encodeMetadataLength chunk.length continuation).map fun encoded =>
    { metadataLen := Arr.ofBytes [encoded.1, encoded.2] rfl, metadata := chunk }

/-- `SetMetadata`.  The error of the last `encodeMetadataLength` is dropped there, with the zero length
    it comes with. -/
def setMetadata (h : ZtdoHeader β) (metadata : List β) : Option (ZtdoHeader β) :=
  let chunkNum := metadata.length / metadataChunkMaxSize
  let full := (List.range chunkNum).mapM fun i =>
    chunkOf ((metadata.drop (i * metadataChunkMaxSize)).take metadataChunkMaxSize) true
  let chunk := metadata.drop (chunkNum * metadataChunkMaxSize)
  let last := (chunkOf chunk false).getD { metadataLen := Arr.zero 2, metadata := chunk }
  full.map fun chunks => { h with metadata := chunks ++ [last] }

/-- `GetMetadata`: the chunks one after another. -/
def getMetadata (h : ZtdoHeader β) : List β := h.metadata.flatMap (·.metadata)

/-- `CipherConfig[0]`. -/
def config (h : ZtdoHeader β) : UInt8 := byteOf (h.cipherConfig.1.headD (ofByte 0))

/-- `SetCipherConfig`: every bit is or-ed into what is there. -/
def setCipherConfig (h : ZtdoHeader β) (hasSignature : Bool) (mode : SymmetricCipherMode)
    (eccMode : DataKeyPairECCMode) : ZtdoHeader β :=
  let flag : UInt8 := if hasSignature then 0x80 else 0
  { h with cipherConfig := Arr.ofBytes [h.config ||| flag ||| mode ||| (eccMode <<< 4)] rfl }

/-- `HasSignature`: the highest bit. -/
def hasSignature (h : ZtdoHeader β) : Bool := h.config &&& 0x80 != 0

/-- `GetCipherMode`. -/
def getCipherMode (h : ZtdoHeader β) : SymmetricCipherMode := h.config &&& 0x0F

/-- `GetECCMode`. -/
def getECCMode (h : ZtdoHeader β) : DataKeyPairECCMode := (h.config &&& 0x7F) >>> 4

end ZtdoHeader

/-- `ParseHeader` of the file `s` is at the start of: the header is made anew and filled. -/
def Ztdo.parseHeader (z : Ztdo β) (uuid : Arr β objectIDSize) (s : Reader β) : Outcome β (Ztdo β) :=
  let r := toStructure ZtdoHeader.fields s (ZtdoHeader.new uuid)
  ⟨{ z with header := r.value }, r.reader, r.err⟩

/-! ## The configuration bits -/

/-- Masks of a byte, one bit field at a time. -/
theorem uint8_or_and (a b c : UInt8) : (a ||| b) &&& c = (a &&& c) ||| (b &&& c) := by
  apply UInt8.toBitVec_inj.mp
  ext i hi
  simp only [UInt8.toBitVec_and, UInt8.toBitVec_or, BitVec.getElem_and, BitVec.getElem_or,
    Bool.and_or_distrib_right]

/-- What holds of the numbers below 256 holds of every byte. -/
theorem forall_uint8 {P : UInt8 → Prop} (h : ∀ n < 256, P (UInt8.ofNat n)) (b : UInt8) : P b := by
  have hb := h b.toNat b.toNat_lt
  rwa [UInt8.ofNat_toNat] at hb

/-- The upper field leaves the lower one, -/
theorem shiftLeft_four_and (b : UInt8) : (b <<< 4) &&& 0x0F = 0 :=
  forall_uint8 (P := fun b => (b <<< 4) &&& 0x0F = 0) (by decide +kernel) b

/-- a small number is in the lower one, -/
theorem and_0F_of_lt {b : UInt8} (h : b.toNat < 16) : b &&& 0x0F = b :=
  forall_uint8 (P := fun b => b.toNat < 16 → b &&& 0x0F = b) (by decide +kernel) b h

/-- and leaves the flag, -/
theorem and_80_of_lt {b : UInt8} (h : b.toNat < 128) : b &&& 0x80 = 0 :=
  forall_uint8 (P := fun b => b.toNat < 128 → b &&& 0x80 = 0) (by decide +kernel) b h

/-- as does a small number in the upper one. -/
theorem shiftLeft_four_and_80 {b : UInt8} (h : b.toNat < 8) : (b <<< 4) &&& 0x80 = 0 :=
  forall_uint8 (P := fun b => b.toNat < 8 → (b <<< 4) &&& 0x80 = 0) (by decide +kernel) b h

namespace ZtdoHeader

variable (h : ZtdoHeader β) (hasSignature : Bool) (mode : SymmetricCipherMode)
  (eccMode : DataKeyPairECCMode)

/-- `SetCipherConfig` ORs into what was there. -/
theorem config_setCipherConfig : (h.setCipherConfig hasSignature mode eccMode).config
    = h.config ||| (if hasSignature then (0x80 : UInt8) else 0) ||| mode ||| (eccMode <<< 4) :=
  byteOf_ofByte _

/-- The flag is read off the byte. -/
theorem hasSignature_eq_false : h.hasSignature = false ↔ h.config &&& 0x80 = 0 := by
  simp [ZtdoHeader.hasSignature]

/-- The signature bit is clear when no part of the configuration sets it. -/
theorem hasSignature_setCipherConfig :
    (h.setCipherConfig hasSignature mode eccMode).hasSignature = false ↔
      h.hasSignature = false ∧ hasSignature = false ∧ mode &&& 0x80 = 0 ∧
        (eccMode <<< 4) &&& 0x80 = 0 := by
  rw [hasSignature_eq_false, hasSignature_eq_false, config_setCipherConfig, uint8_or_and,
    uint8_or_and, uint8_or_and, UInt8.or_eq_zero_iff, UInt8.or_eq_zero_iff, UInt8.or_eq_zero_iff]
  cases hasSignature <;> simp [and_assoc]

/-- A mode that was set is read back if nothing was there before. -/
theorem getCipherMode_setCipherConfig (hmode : mode.toNat < 16) :
    (h.setCipherConfig hasSignature mode eccMode).getCipherMode
      = (h.config &&& 0x0F) ||| mode := by
  have hflag : (if hasSignature then (0x80 : UInt8) else 0) &&& 0x0F = 0 := by
    cases hasSignature <;> decide
  rw [getCipherMode, config_setCipherConfig, uint8_or_and, uint8_or_and, uint8_or_and,
    shiftLeft_four_and, and_0F_of_lt hmode, hflag, UInt8.or_zero, UInt8.or_zero]

end ZtdoHeader

/-! ## Headers that read back -/

/-- The length field of a chunk says how long the chunk is, and whether another one follows. -/
def ZtdoMetadata.Encodes (m : ZtdoMetadata β) (continuation : Bool) : Prop :=
  let decoded := preprocessContinuation (bytesOf m.metadataLen.1)
  decoded.1 = continuation ∧ (uint32Of decoded.2).toNat = m.metadata.length

/-- A list of chunks as `SetMetadata` makes it: every chunk but the last announces the next one. -/
def Chained : List (ZtdoMetadata β) → Prop
  | [] => False
  | [m] => m.Encodes false
  | m :: ms => m.Encodes true ∧ Chained ms

/-- The server length field says how long the server string is. -/
def ZtdoHeader.ServerFits (h : ZtdoHeader β) : Prop :=
  (uint32Of (bytesOf h.nhpServerLen.1)).toNat = h.nhpServer.length

/-- Every length in the header is the length of what it announces. -/
structure ZtdoHeader.WellFormed (h : ZtdoHeader β) : Prop where
  server : h.ServerFits
  metadata : Chained h.metadata

/-- Chunks that go on and one that does not. -/
theorem chained_append {ms : List (ZtdoMetadata β)} {last : ZtdoMetadata β}
    (hms : ∀ m ∈ ms, m.Encodes true) (hlast : last.Encodes false) : Chained (ms ++ [last]) := by
  induction ms with
  | nil => exact hlast
  | cons m ms ih =>
    have hm := hms m List.mem_cons_self
    have ih := ih fun m' hm' => hms m' (List.mem_cons_of_mem _ hm')
    cases ms with
    | nil => exact ⟨hm, ih⟩
    | cons m' ms => exact ⟨hm, ih⟩

/-- A length of one byte. -/
theorem uint32Of_single (b : UInt8) : (uint32Of [b]).toNat = b.toNat := by
  have hb := b.toNat_lt
  have hle : getLE [b] = b.toNat := by simp [getLE, getBE]
  rw [uint32Of, List.take_of_length_le (by simp), hle]
  exact UInt32.toNat_ofNat_of_lt' (by simp only [UInt32.size]; omega)

namespace ZtdoHeader

/-- A new header has no server, -/
theorem new_serverFits (uuid : Arr β objectIDSize) : (new uuid).ServerFits := by
  show (uint32Of (bytesOf [ofByte 0])).toNat = 0
  rw [bytesOf, List.map_singleton, byteOf_ofByte, uint32Of_single]
  rfl

/-- a server that is set has its length, -/
theorem setNhpServer_serverFits {h h' : ZtdoHeader β} {nhpServer : List β}
    (hset : h.setNhpServer nhpServer = some h') : h'.ServerFits := by
  rw [setNhpServer, Option.ite_none_left_eq_some] at hset
  obtain ⟨hmax, hset⟩ := hset
  obtain rfl := Option.some.inj hset
  have hlt : nhpServer.length < 256 := by
    have : nhpServerMaxSize = 255 := rfl
    omega
  rw [ServerFits, bytesOf_ofBytes, uint32Of_single, UInt8.toNat_ofNat']
  exact Nat.mod_eq_of_lt hlt

/-- and nothing else is touched: not the configuration, -/
theorem setNhpServer_config {h h' : ZtdoHeader β} {nhpServer : List β}
    (hset : h.setNhpServer nhpServer = some h') : h'.config = h.config := by
  rw [setNhpServer, Option.ite_none_left_eq_some] at hset
  obtain rfl := Option.some.inj hset.2
  rfl

/-- nor the metadata. -/
theorem setNhpServer_metadata {h h' : ZtdoHeader β} {nhpServer : List β}
    (hset : h.setNhpServer nhpServer = some h') : h'.metadata = h.metadata := by
  rw [setNhpServer, Option.ite_none_left_eq_some] at hset
  obtain rfl := Option.some.inj hset.2
  rfl

/-- A chunk that is not too long says what it has and whether it goes on. -/
theorem chunkOf_eq_some {chunk : List β} (h : chunk.length ≤ metadataChunkMaxSize)
    (continuation : Bool) :
    ∃ m, chunkOf chunk continuation = some m ∧ m.metadata = chunk ∧ m.Encodes continuation := by
  obtain ⟨low, high, hencode, hcont, hlength⟩ := encodeMetadataLength_recovered h continuation
  refine ⟨{ metadataLen := Arr.ofBytes [low, high] rfl, metadata := chunk }, ?_, rfl, ?_, ?_⟩
  · rw [chunkOf, hencode, Option.map_some]
  · rw [bytesOf_ofBytes, hcont]
  · rw [bytesOf_ofBytes, hlength]

/-- The full chunks of a metadata string: `n` of them hold its first `n * metadataChunkMaxSize`
    letters. -/
theorem fullChunks_eq_some (metadata : List β) (n : Nat)
    (hn : n * metadataChunkMaxSize ≤ metadata.length) :
    ∃ chunks, ((List.range n).mapM fun i =>
        chunkOf ((metadata.drop (i * metadataChunkMaxSize)).take metadataChunkMaxSize) true)
          = some chunks ∧
      (∀ m ∈ chunks, m.Encodes true) ∧
      chunks.flatMap (·.metadata) = metadata.take (n * metadataChunkMaxSize) := by
  induction n with
  | zero => exact ⟨[], rfl, fun m hm => absurd hm List.not_mem_nil, by simp⟩
  | succ n ih =>
    rw [Nat.succ_mul] at hn
    obtain ⟨chunks, hchunks, hencodes, hflat⟩ := ih (by omega)
    have hlen : ((metadata.drop (n * metadataChunkMaxSize)).take metadataChunkMaxSize).length
        ≤ metadataChunkMaxSize := List.length_take_le _ _
    obtain ⟨m, hm, hmeta, hmencodes⟩ := chunkOf_eq_some hlen true
    refine ⟨chunks ++ [m], ?_, ?_, ?_⟩
    · rw [List.range_succ, List.mapM_append, hchunks]
      simp [hm]
    · intro m' hm'
      rcases List.mem_append.mp hm' with h | h
      · exact hencodes m' h
      · exact List.mem_singleton.mp h ▸ hmencodes
    · rw [List.flatMap_append, hflat, List.flatMap_singleton, hmeta, Nat.succ_mul, List.take_add]

/-- `SetMetadata` accepts every string, and cuts it into chunks that read back. -/
theorem setMetadata_eq_some (h : ZtdoHeader β) (metadata : List β) :
    ∃ h', h.setMetadata metadata = some h' ∧ Chained h'.metadata ∧ h'.getMetadata = metadata ∧
      h' = { h with metadata := h'.metadata } := by
  have hmod := Nat.mod_lt metadata.length (show 0 < metadataChunkMaxSize by decide)
  have hdiv := Nat.div_add_mod' metadata.length metadataChunkMaxSize
  have hlast : (metadata.drop (metadata.length / metadataChunkMaxSize * metadataChunkMaxSize)).length
      ≤ metadataChunkMaxSize := by
    rw [List.length_drop]
    omega
  obtain ⟨chunks, hchunks, hencodes, hflat⟩ :=
    fullChunks_eq_some metadata (metadata.length / metadataChunkMaxSize) (Nat.div_mul_le_self _ _)
  obtain ⟨last, hl, hmeta, hlencodes⟩ := chunkOf_eq_some hlast false
  refine ⟨{ h with metadata := chunks ++ [last] }, ?_, chained_append hencodes hlencodes, ?_, rfl⟩
  · simp only [setMetadata, hchunks, hl, Option.map_some, Option.getD_some]
  · simp only [getMetadata, List.flatMap_append, hflat, List.flatMap_singleton, hmeta,
      List.take_append_drop]

/-- Setting the metadata leaves the configuration. -/
theorem setMetadata_config {h h' : ZtdoHeader β} {metadata : List β}
    (hset : h.setMetadata metadata = some h') : h'.config = h.config := by
  obtain ⟨h'', hset', -, -, heq⟩ := h.setMetadata_eq_some metadata
  obtain rfl := Option.some.inj (hset'.symm.trans hset)
  rw [heq]
  rfl

end ZtdoHeader

/-! ## `toStructure` undoes `marshal` -/

/-- One chunk is read back, with its bit. -/
theorem unmarshal_metadata {m : ZtdoMetadata β} {continuation : Bool} (hm : m.Encodes continuation)
    {s : Reader β} {tail : List β} (hs : s.rest = marshal ZtdoMetadata.fields m ++ tail)
    (zero : ZtdoMetadata β) :
    ∃ s', unmarshal ZtdoMetadata.fields s zero = ⟨m, s', none⟩ ∧ s'.rest = tail ∧
      s'.lengthContinueIndicator = continuation := by
  have hrest : s.rest = m.metadataLen.1 ++ (m.metadata ++ tail) := by
    rw [hs]
    simp [marshal, ZtdoMetadata.fields, arrayField, bytesField]
  rw [ZtdoMetadata.fields, unmarshal_cons (arrayField_read m.metadataLen hrest),
    Reader.note_lengthContinue,
    unmarshal_cons (bytesField_read m.metadata rfl (by rw [Reader.setLength_same]; exact hm.2.symm))]
  exact ⟨_, rfl, rfl, hm.1⟩

/-- The slice loop reads a chain of chunks and stops behind it. -/
theorem sliceLoop_chained {chunks : List (ZtdoMetadata β)} (hchained : Chained chunks) (fuel : Nat)
    (hfuel : chunks.length ≤ fuel + 1) {s : Reader β} {tail : List β}
    (hs : s.rest = chunks.flatMap (marshal ZtdoMetadata.fields) ++ tail)
    (elements : List (ZtdoMetadata β)) :
    ∃ s', sliceLoop ZtdoMetadata.fields ZtdoMetadata.new fuel s elements
      = ⟨elements ++ chunks, s', none⟩ ∧ s'.rest = tail := by
  induction chunks generalizing fuel s elements with
  | nil => exact absurd hchained id
  | cons m ms ih =>
    rw [List.flatMap_cons, List.append_assoc] at hs
    cases ms with
    | nil =>
      obtain ⟨s', hread, hrest, hind⟩ := unmarshal_metadata hchained hs ZtdoMetadata.new
      exact ⟨s', sliceLoop_stop hread hind, hrest⟩
    | cons m' ms =>
      obtain ⟨hm, hms⟩ := hchained
      obtain ⟨s₁, hread, hrest, hind⟩ := unmarshal_metadata hm hs ZtdoMetadata.new
      cases fuel with
      | zero => simp at hfuel
      | succ fuel =>
        obtain ⟨s', hloop, hrest'⟩ := ih hms fuel (by simpa using hfuel) hrest (elements ++ [m])
        refine ⟨s', ?_, hrest'⟩
        rw [sliceLoop_next hread hind, hloop, List.append_assoc, List.singleton_append]

/-- The loop needs no more turns than there are bytes. -/
theorem length_le_marshal_chunks (chunks : List (ZtdoMetadata β)) (tail : List β) :
    chunks.length ≤ (chunks.flatMap (marshal ZtdoMetadata.fields) ++ tail).length + 1 := by
  induction chunks with
  | nil => exact Nat.zero_le _
  | cons m ms ih =>
    have hm : 2 ≤ (marshal ZtdoMetadata.fields m).length := by
      simp only [marshal, ZtdoMetadata.fields, arrayField, bytesField, List.flatMap_cons,
        List.flatMap_nil, List.length_append, m.metadataLen.2]
      omega
    simp only [List.flatMap_cons, List.length_append, List.length_cons] at *
    omega

/-- What `marshal` writes for a header, field by field. -/
theorem marshal_header (h : ZtdoHeader β) :
    marshal ZtdoHeader.fields h = h.magicNumber.1 ++ (h.objectID.1 ++ (h.version.1 ++
      (h.nhpServerLen.1 ++ (h.nhpServer ++ (h.cipherConfig.1 ++
        h.metadata.flatMap (marshal ZtdoMetadata.fields)))))) := by
  simp only [marshal, ZtdoHeader.fields, arrayField, bytesField, sliceField, List.flatMap_cons,
    List.flatMap_nil, List.append_nil]

/-- All chunks are read back. -/
theorem unmarshal_chunks {chunks : List (ZtdoMetadata β)} (hchained : Chained chunks) {s : Reader β}
    {tail : List β} (hs : s.rest = chunks.flatMap (marshal ZtdoMetadata.fields) ++ tail)
    {v : ZtdoHeader β} (hv : v.metadata = []) :
    ∃ s', unmarshal [sliceField ZtdoMetadata.fields ZtdoMetadata.new (·.metadata)
        (fun chunks h => { h with metadata := chunks })] s v
      = ⟨{ v with metadata := chunks }, s', none⟩ ∧ s'.rest = tail := by
  have hfuel := length_le_marshal_chunks chunks tail
  obtain ⟨s', hloop, hrest⟩ := sliceLoop_chained hchained _ hfuel hs []
  refine ⟨s', ?_, hrest⟩
  rw [unmarshal_cons (sliceField_read (by rw [hs, hv]; exact hloop))]
  rfl

/-- A well-formed header is read back from the file, and the file stands right behind it, whatever the
    package variables were and whatever follows. -/
theorem toStructure_header {h : ZtdoHeader β} (hwf : h.WellFormed) {s : Reader β} {tail : List β}
    (hs : s.rest = marshal ZtdoHeader.fields h ++ tail) {v : ZtdoHeader β} (hv : v.metadata = []) :
    ∃ s', toStructure ZtdoHeader.fields s v = ⟨h, s', none⟩ ∧ s'.rest = tail := by
  rw [marshal_header] at hs
  simp only [List.append_assoc] at hs
  have hs' : ({ s with lengthMap := fun _ => 0 } : Reader β).rest = _ := hs
  have hserver : h.nhpServer.length = (uint32Of (bytesOf h.nhpServerLen.1)).toNat := hwf.server.symm
  rw [toStructure, ZtdoHeader.fields, unmarshal_cons (arrayField_read h.magicNumber hs'),
    unmarshal_cons (arrayField_read h.objectID rfl), unmarshal_cons (arrayField_read h.version rfl),
    unmarshal_cons (arrayField_read h.nhpServerLen rfl), Reader.note_lengthFor,
    unmarshal_cons (bytesField_read h.nhpServer rfl (by rw [Reader.setLength_same]; exact hserver)),
    unmarshal_cons (arrayField_read h.cipherConfig rfl)]
  exact unmarshal_chunks hwf.metadata rfl hv

/-- A header with metadata set is well formed. -/
theorem ZtdoHeader.setMetadata_wellFormed {h h' : ZtdoHeader β} (hserver : h.ServerFits) {metadata : List β}
    (hset : h.setMetadata metadata = some h') : h'.WellFormed := by
  obtain ⟨h'', hset', hchained, -, heq⟩ := h.setMetadata_eq_some metadata
  obtain rfl := Option.some.inj (hset'.symm.trans hset)
  refine ⟨?_, hchained⟩
  rw [heq]
  exact hserver

/-- The metadata of a header survives the file: for every metadata string and everything behind the
    header, `SetMetadata` succeeds, and reading the marshalled header gives that header, its metadata and
    a file that stands right behind it.  Every length a chunk can have comes back out of its two bytes
    together with the continuation flag.  The package variables `s` may hold anything. -/
theorem metadata_codec (h : ZtdoHeader β) (hserver : h.ServerFits) (metadata tail : List β)
    (s : Reader β) (uuid : Arr β objectIDSize) :
    (∃ h', h.setMetadata metadata = some h' ∧
      ∃ s', toStructure ZtdoHeader.fields { s with rest := marshal ZtdoHeader.fields h' ++ tail }
          (ZtdoHeader.new uuid) = ⟨h', s', none⟩ ∧
        h'.getMetadata = metadata ∧ s'.rest = tail) ∧
    ∀ length ≤ metadataChunkMaxSize, ∀ continuation, ∃ low high,
      encodeMetadataLength length continuation = some (low, high) ∧
      let noted := s.note { lengthFor := some .metadata, lengthContinue := true } 2 [low, high]
      noted.lengthContinueIndicator = continuation ∧ (noted.lengthMap .metadata).toNat = length := by
  constructor
  · obtain ⟨h', hset, -, hget, -⟩ := h.setMetadata_eq_some metadata
    have hwf := ZtdoHeader.setMetadata_wellFormed hserver hset
    obtain ⟨s', hread, hrest⟩ := toStructure_header hwf
      (s := { s with rest := marshal ZtdoHeader.fields h' ++ tail }) rfl
      (v := ZtdoHeader.new uuid) rfl
    exact ⟨h', hset, s', hread, hget, hrest⟩
  · intro length hlength continuation
    obtain ⟨low, high, hencode, hcont, hlen⟩ := encodeMetadataLength_recovered hlength continuation
    refine ⟨low, high, hencode, ?_⟩
    rw [Reader.note_lengthContinue]
    exact ⟨hcont, by rw [Reader.setLength_same]; exact hlen⟩

/-- The codec at a fresh header, three bytes of metadata and two more behind the header. -/
theorem metadata_codec_fresh :
    let h : ZtdoHeader UInt8 := ZtdoHeader.new (Arr.zero objectIDSize)
    ∃ h', h.setMetadata [1, 2, 3] = some h' ∧
      ∃ s', toStructure ZtdoHeader.fields
          { rest := marshal ZtdoHeader.fields h' ++ [8, 9], lengthMap := fun _ => 5,
            lengthContinueIndicator := true } (ZtdoHeader.new (Arr.zero objectIDSize))
          = ⟨h', s', none⟩ ∧ h'.getMetadata = [1, 2, 3] ∧ s'.rest = [8, 9] :=
  (metadata_codec _ (ZtdoHeader.new_serverFits _) [1, 2, 3] [8, 9]
    { rest := [], lengthMap := fun _ => 5, lengthContinueIndicator := true } _).1

end

end OpenNHP.Core.Ztdo
