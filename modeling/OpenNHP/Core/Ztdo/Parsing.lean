/-
  What `toStructure` accepts.

  THE PROGRAM.  `unmarshal` takes every field with one `Read` and drops the count, so that a field at the end of
  the file may be read short and filled up with zero bytes.

  THE SPECIFICATION.  A structure that is accepted marshals to exactly the bytes taken from the file
  (`ReadsExactly`).

  WHERE IT FAILS.  Behind a short read the next field that is not empty finds `io.EOF`, so a short read goes
  through unnoticed exactly when it is the last one: inside the last chunk of the metadata or its length
  (`CutInMetadata`), inside the ciphertext of a payload, or inside the IV of a payload without ciphertext
  (`PayloadCut`).

  THE CRUX.  Each field is read in one of two ways, in full or short at the end, and two short reads do not come
  one after the other.  So a structure is followed field by field with one case at a time left open: what was read
  so far was read in full (`payload_ok`, `metadata_ok`, `header_ok`).  For the other direction a file that is cut
  there is accepted, and marshals to more than it has (`payload_cut`, `sliceLoop_cut`, `header_cut`).

  ASSEMBLY.  `readsExactly_iff`, for headers and payloads.
-/
import OpenNHP.Core.Ztdo.Header
import Mathlib.Data.List.Basic

namespace OpenNHP.Core.Ztdo

open BigEndian

variable {β : Type} [Letter β] {σ : Type}

/-! ## Payloads -/

omit [Letter β] in
/-- A field that is not empty leaves something to read. -/
theorem Arr.ne_nil {n : Nat} (a : Arr β n) (hn : 0 < n) (rest : List β) : a.1 ++ rest ≠ [] := by
  intro h
  have hlen := congrArg List.length h
  rw [List.length_append, a.2, List.length_nil] at hlen
  omega

/-- The ciphertext length a payload announces: its length field less the IV. -/
def ZtdoPayload.contentLength (length : Arr β payloadLengthSize) : UInt32 :=
  uint32Of (bytesOf length.1) - UInt32.ofNat ivSize

/-- The length field says how long the IV and the ciphertext are together. -/
def ZtdoPayload.WellFormed (p : ZtdoPayload β) : Prop :=
  (contentLength p.length).toNat = p.content.cipherText.length

/-- `NewZtdoPayload` with the IV `SetIV` draws. -/
def ZtdoPayload.new (iv : Arr β ivSize) : ZtdoPayload β :=
  { length := Arr.zero payloadLengthSize, content := { iv, cipherText := [] } }

/-- A payload is its length, its IV and its ciphertext. -/
theorem marshal_payload (p : ZtdoPayload β) :
    marshal ZtdoPayload.fields p = p.length.1 ++ (p.content.iv.1 ++ p.content.cipherText) := by
  simp only [marshal, ZtdoPayload.fields, ZtdoContent.fields, arrayField, bytesField, structField,
    List.flatMap_cons, List.flatMap_nil, List.append_nil]

/-- A content of the announced length is read in full. -/
theorem unmarshal_content {c : ZtdoContent β} {s : Reader β} {tail : List β}
    (hs : s.rest = c.iv.1 ++ (c.cipherText ++ tail))
    (hlen : c.cipherText.length = (s.lengthMap .cipherText - UInt32.ofNat ivSize).toNat)
    (v : ZtdoContent β) :
    ∃ s', unmarshal ZtdoContent.fields s v = ⟨c, s', none⟩ ∧ s'.rest = tail := by
  rw [ZtdoContent.fields, unmarshal_cons (arrayField_read c.iv hs), Reader.note_subtractFrom,
    unmarshal_cons (bytesField_read c.cipherText rfl (by rw [Reader.setLength_same]; exact hlen))]
  exact ⟨_, rfl, rfl⟩

/-- It is read as a field of the payload, -/
theorem contentField_read {s s' : Reader β} {p : ZtdoPayload β} {c : ZtdoContent β}
    (h : unmarshal ZtdoContent.fields s p.content = ⟨c, s', none⟩) :
    (structField ZtdoContent.fields (·.content) (fun content p => { p with content := content })
      : Field β (ZtdoPayload β)).read s p = ⟨{ p with content := c }, s', none⟩ :=
  structField_read h

/-- behind the length. -/
theorem payload_of_content {s s' : Reader β} {length : Arr β payloadLengthSize} {rest : List β}
    (hs : s.rest = length.1 ++ rest) {v : ZtdoPayload β} {c : ZtdoContent β}
    (h : unmarshal ZtdoContent.fields
      ({ s with lengthMap := fun _ => 0, rest }.setLength .cipherText (uint32Of (bytesOf length.1)))
      v.content = ⟨c, s', none⟩) :
    toStructure ZtdoPayload.fields s v = ⟨{ length, content := c }, s', none⟩ := by
  have hs' : ({ s with lengthMap := fun _ => 0 } : Reader β).rest = _ := hs
  rw [toStructure, ZtdoPayload.fields, unmarshal_cons (arrayField_read length hs'),
    Reader.note_lengthFor]
  exact (unmarshal_cons (contentField_read (p := { v with length := length }) h)).trans rfl

/-- A well-formed payload is read back from the file. -/
theorem toStructure_payload {p : ZtdoPayload β} (hwf : p.WellFormed) {s : Reader β} {tail : List β}
    (hs : s.rest = marshal ZtdoPayload.fields p ++ tail) (v : ZtdoPayload β) :
    ∃ s', toStructure ZtdoPayload.fields s v = ⟨p, s', none⟩ ∧ s'.rest = tail := by
  rw [marshal_payload] at hs
  simp only [List.append_assoc] at hs
  obtain ⟨s', hread, hrest⟩ := unmarshal_content (c := p.content)
    (s := { s with lengthMap := fun _ => 0, rest := p.content.iv.1 ++ (p.content.cipherText ++ tail)
      }.setLength .cipherText (uint32Of (bytesOf p.length.1))) rfl
    (by rw [Reader.setLength_same]; exact hwf.symm) v.content
  exact ⟨s', payload_of_content hs hread, hrest⟩

/-! ## Where a file may end -/

/-- The length and the continuation flag in the two bytes of a chunk. -/
def chunkHead (low high : β) : Bool × Nat :=
  let decoded := preprocessContinuation [byteOf low, byteOf high]
  (decoded.1, (uint32Of decoded.2).toNat)

/-- From the first metadata chunk on, the file ends inside the last chunk: in its data, or after the
    first byte of the length of an empty one. -/
inductive CutInMetadata : List β → Prop
  | length {low : β} (hlow : byteOf low = 0) : CutInMetadata [low]
  | data {low high : β} {rest : List β} (hlast : (chunkHead low high).1 = false) (hne : rest ≠ [])
      (hlt : rest.length < (chunkHead low high).2) : CutInMetadata (low :: high :: rest)
  | next {low high : β} {chunk rest : List β} (hmore : (chunkHead low high).1 = true)
      (hlen : chunk.length = (chunkHead low high).2) (hrest : CutInMetadata rest) :
      CutInMetadata (low :: high :: (chunk ++ rest))

/-- The file ends inside the last field its header announces. -/
def HeaderCut (file : List β) : Prop :=
  ∃ (magicNumber : Arr β 4) (objectID : Arr β objectIDSize) (version : Arr β 2)
    (nhpServerLen : Arr β 1) (nhpServer : List β) (cipherConfig : Arr β 1) (rest : List β),
    file = magicNumber.1 ++ (objectID.1 ++ (version.1 ++ (nhpServerLen.1 ++
      (nhpServer ++ (cipherConfig.1 ++ rest))))) ∧
    (uint32Of (bytesOf nhpServerLen.1)).toNat = nhpServer.length ∧ CutInMetadata rest

/-- The file ends inside the last field its payload announces: the ciphertext, or the IV when there is
    no ciphertext. -/
def PayloadCut (file : List β) : Prop :=
  (∃ (length : Arr β payloadLengthSize) (iv : Arr β ivSize) (text : List β),
    file = length.1 ++ (iv.1 ++ text) ∧ text ≠ [] ∧
      text.length < (ZtdoPayload.contentLength length).toNat) ∨
  ∃ (length : Arr β payloadLengthSize) (iv : List β),
    file = length.1 ++ iv ∧ iv ≠ [] ∧ iv.length < ivSize ∧
      ZtdoPayload.contentLength length = 0

/-- The law of a reader and its writer on one file: what is accepted is written as the letters that
    were taken, and a file that lacks the end of a complete encoding is an error. -/
def ReadsExactly (read : Reader β → Outcome β σ) (write : σ → List β) (file : List β) : Prop :=
  (∀ s, s.rest = file → (read s).err = none →
    write (read s).value ++ (read s).reader.rest = file) ∧
  ∀ s whole missing, s.rest = file → whole.rest = file ++ missing → missing ≠ [] →
    (read whole).err = none → write (read whole).value = file ++ missing → (read s).err ≠ none

/-! ## Payloads that are accepted -/

/-- What a good read of a content says of the file, -/
theorem content_ok {s s' : Reader β} {v c : ZtdoContent β}
    (h : unmarshal ZtdoContent.fields s v = ⟨c, s', none⟩) :
    let announced := s.lengthMap .cipherText - UInt32.ofNat ivSize
    (announced.toNat = c.cipherText.length ∧ s.rest = c.iv.1 ++ (c.cipherText ++ s'.rest)) ∨
    (∃ (iv : Arr β ivSize) (text : List β), s.rest = iv.1 ++ text ∧ text ≠ [] ∧
      text.length < announced.toNat) ∨
    s.rest ≠ [] ∧ s.rest.length < ivSize ∧ announced = 0 := by
  intro announced
  obtain ⟨c₁, s₁, hiv, h⟩ := unmarshal_cons_ok h
  obtain ⟨iv, rest₁, htook₁, rfl, rfl⟩ := arrayField_ok hiv
  obtain ⟨c₂, s₂, htext, h⟩ := unmarshal_cons_ok h
  obtain ⟨text, rest₂, htook₂, rfl, rfl⟩ := bytesField_ok htext
  obtain ⟨rfl, rfl⟩ := Outcome.mk.inj h |>.imp_right And.left
  rw [Reader.note_subtractFrom, Reader.setLength_same, Reader.setLength_rest] at htook₂
  change Took announced.toNat rest₁ text rest₂ at htook₂
  rcases htook₁ with ⟨-, hfile⟩ | ⟨hne, hlt, rfl, -⟩
  · rcases htook₂ with ⟨hlen, rfl⟩ | ⟨hne, hlt, -⟩
    · exact .inl ⟨hlen.symm, hfile⟩
    · exact .inr (.inl ⟨iv, rest₁, hfile, hne, hlt⟩)
  · -- the IV was read short, so there is nothing left for a ciphertext
    refine .inr (.inr ⟨hne, hlt, ?_⟩)
    by_contra hzero
    exact htook₂.file_ne_nil (Nat.pos_of_ne_zero fun h => hzero (UInt32.toNat_inj.mp h)) rfl

/-- and of a payload: all of it was there, or the file ends in it. -/
theorem payload_ok {s s' : Reader β} {v p : ZtdoPayload β}
    (h : toStructure ZtdoPayload.fields s v = ⟨p, s', none⟩) :
    (p.WellFormed ∧ s.rest = marshal ZtdoPayload.fields p ++ s'.rest) ∨ PayloadCut s.rest := by
  obtain ⟨p₁, s₁, hlength, h⟩ := unmarshal_cons_ok h
  obtain ⟨length, rest₁, htook₁, rfl, rfl⟩ := arrayField_ok hlength
  rw [Reader.note_lengthFor] at h
  obtain ⟨p₂, s₂, hcontent, h⟩ := unmarshal_cons_ok h
  obtain ⟨c, hc, rfl⟩ := structField_ok hcontent
  obtain ⟨rfl, rfl⟩ := Outcome.mk.inj h |>.imp_right And.left
  have hcases := content_ok hc
  rw [Reader.setLength_same, Reader.setLength_rest] at hcases
  rcases hcases with ⟨hlen, hrest⟩ | ⟨iv, text, hrest, hne, hlt⟩ | ⟨hne, hlt, hzero⟩
  · have hrest₁ : rest₁ ≠ [] := fun h => by
      have := congrArg List.length (hrest.symm.trans h)
      rw [List.length_append, c.iv.2] at this
      exact absurd this (by simp [ivSize])
    refine .inl ⟨hlen, ?_⟩
    rw [(htook₁.complete_of_rest hrest₁).2, marshal_payload, List.append_assoc, List.append_assoc]
    exact congrArg _ hrest
  · have hrest₁ : rest₁ ≠ [] := fun h => hne (List.append_eq_nil_iff.mp (hrest.symm.trans h)).2
    refine .inr (.inl ⟨length, iv, text, ?_, hne, hlt⟩)
    rw [(htook₁.complete_of_rest hrest₁).2]
    exact congrArg _ hrest
  · exact .inr (.inr ⟨length, rest₁, (htook₁.complete_of_rest hne).2, hne, hlt, hzero⟩)

/-! ## Headers that are accepted -/

omit [Letter β] in
/-- Two bytes. -/
theorem Arr.eq_pair (a : Arr β 2) : ∃ low high, a.1 = [low, high] := List.length_eq_two.mp a.2

/-- A chunk is its length and its bytes. -/
theorem marshal_metadata (m : ZtdoMetadata β) :
    marshal ZtdoMetadata.fields m = m.metadataLen.1 ++ m.metadata := by
  simp only [marshal, ZtdoMetadata.fields, arrayField, bytesField, List.flatMap_cons,
    List.flatMap_nil, List.append_nil]

/-- A length cut in half reads as its low byte, with no bit set. -/
theorem padded_chunkHead (b : β) :
    (uint32Of (preprocessContinuation (bytesOf ([b] ++ List.replicate (2 - [b].length)
      (ofByte 0)))).2).toNat = (byteOf b).toNat := by
  have hbytes : bytesOf ([b] ++ List.replicate (2 - [b].length) (ofByte 0)) = [byteOf b, 0] := by
    simp [bytesOf]
  rw [hbytes]
  simp [preprocessContinuation, uint32Of_pair]

/-- What a good read of a chunk says of the file. -/
theorem metadata_ok {s s' : Reader β} {v m : ZtdoMetadata β}
    (h : unmarshal ZtdoMetadata.fields s v = ⟨m, s', none⟩) :
    (m.Encodes s'.lengthContinueIndicator ∧ s.rest = marshal ZtdoMetadata.fields m ++ s'.rest) ∨
    s'.rest = [] ∧ (s'.lengthContinueIndicator = false → CutInMetadata s.rest) := by
  obtain ⟨m₁, s₁, hlen, h⟩ := unmarshal_cons_ok h
  obtain ⟨len, rest₁, htook₁, rfl, rfl⟩ := arrayField_ok hlen
  rw [Reader.note_lengthContinue] at h
  obtain ⟨m₂, s₂, hdata, h⟩ := unmarshal_cons_ok h
  obtain ⟨data, rest₂, htook₂, rfl, rfl⟩ := bytesField_ok hdata
  obtain ⟨rfl, rfl⟩ := Outcome.mk.inj h |>.imp_right And.left
  rw [Reader.setLength_same, Reader.setLength_rest] at htook₂
  obtain ⟨low, high, hpair⟩ := len.eq_pair
  rcases htook₁ with ⟨-, hfile⟩ | ⟨hne, hlt, rfl, hpad⟩
  · rcases htook₂ with ⟨hdlen, hrest⟩ | ⟨hne, hlt, rfl, -⟩
    · refine .inl ⟨⟨rfl, hdlen.symm⟩, ?_⟩
      rw [marshal_metadata, hfile, List.append_assoc]
      exact congrArg _ hrest
    · refine .inr ⟨rfl, fun hind => ?_⟩
      rw [hpair] at hfile
      rw [hpair] at hlt
      rw [hfile]
      refine .data ?_ hne hlt
      rw [← hind, Reader.setLength_lengthContinueIndicator, hpair]
      rfl
  · -- one byte of the length is there; the other one is taken to be zero
    obtain ⟨b, hb⟩ : ∃ b, s.rest = [b] := by
      have hpos := List.length_pos_iff.mpr hne
      exact List.length_eq_one_iff.mp (by omega)
    obtain ⟨hzero, rfl⟩ := htook₂.rest_eq_nil
    refine .inr ⟨rfl, fun _ => ?_⟩
    rw [hb] at hpad ⊢
    refine .length (UInt8.toNat_inj.mp ?_)
    rw [hpad, padded_chunkHead] at hzero
    exact hzero

/-- A chunk that goes on before chunks that end. -/
theorem Chained.cons {m : ZtdoMetadata β} {ms : List (ZtdoMetadata β)} (hms : Chained ms)
    (hm : m.Encodes true) : Chained (m :: ms) := by
  cases ms with
  | nil => exact absurd hms id
  | cons => exact ⟨hm, hms⟩

/-- Some bytes are there. -/
theorem Chained.marshal_ne_nil {ms : List (ZtdoMetadata β)} (hms : Chained ms) :
    ms.flatMap (marshal ZtdoMetadata.fields) ≠ [] := by
  cases ms with
  | nil => exact absurd hms id
  | cons m ms =>
    obtain ⟨low, high, hpair⟩ := m.metadataLen.eq_pair
    rw [List.flatMap_cons, marshal_metadata, hpair]
    exact List.cons_ne_nil _ _

/-- A file that is cut has bytes. -/
theorem CutInMetadata.ne_nil {file : List β} (h : CutInMetadata file) : file ≠ [] := by
  cases h <;> exact List.cons_ne_nil _ _

/-- The cut is in the chunk or behind it. -/
theorem CutInMetadata.of_chunk {rest : List β} (hrest : CutInMetadata rest) {m : ZtdoMetadata β}
    (hm : m.Encodes true) : CutInMetadata (marshal ZtdoMetadata.fields m ++ rest) := by
  obtain ⟨low, high, hpair⟩ := m.metadataLen.eq_pair
  obtain ⟨hmore, hlen⟩ := hm
  rw [hpair] at hmore hlen
  rw [marshal_metadata, hpair]
  exact .next hmore hlen.symm hrest

/-- The chunks a slice loop reads are a chain and are all there, unless the file ends inside them. -/
theorem sliceLoop_chunks {fuel : Nat} {s s' : Reader β} {chunks chunks' : List (ZtdoMetadata β)}
    (h : sliceLoop ZtdoMetadata.fields ZtdoMetadata.new fuel s chunks = ⟨chunks', s', none⟩) :
    (∃ more, chunks' = chunks ++ more ∧ Chained more ∧
      s.rest = more.flatMap (marshal ZtdoMetadata.fields) ++ s'.rest) ∨ CutInMetadata s.rest := by
  induction fuel using Nat.strong_induction_on generalizing s chunks with
  | _ fuel ih =>
    obtain ⟨m, s₁, hread, ⟨hind, rfl, rfl⟩ | ⟨hind, fuel', rfl, hloop⟩⟩ := sliceLoop_ok h
    · -- the last chunk
      rcases metadata_ok hread with ⟨hm, hrest⟩ | ⟨-, hcut⟩
      · rw [hind] at hm
        refine .inl ⟨[m], rfl, hm, ?_⟩
        rw [List.flatMap_singleton, hrest]
      · exact .inr (hcut hind)
    · -- a chunk that announces another one: what is read next is there, so the chunk was whole
      have hnext := ih fuel' (Nat.lt_succ_self _) hloop
      rcases metadata_ok hread with ⟨hm, hrest⟩ | ⟨hnil, -⟩
      · rw [hind] at hm
        rcases hnext with ⟨more, rfl, hmore, hrest'⟩ | hcut
        · refine .inl ⟨m :: more, by simp, hmore.cons hm, ?_⟩
          rw [hrest, hrest', List.flatMap_cons, List.append_assoc]
        · rw [hrest]
          exact .inr (hcut.of_chunk hm)
      · rcases hnext with ⟨more, rfl, hmore, hrest'⟩ | hcut
        · rw [hnil] at hrest'
          exact absurd (List.append_eq_nil_iff.mp hrest'.symm).1 hmore.marshal_ne_nil
        · rw [hnil] at hcut
          exact absurd rfl hcut.ne_nil

/-- What a good read of a header says of the file. -/
theorem header_ok {s s' : Reader β} {v h : ZtdoHeader β} (hv : v.metadata = [])
    (hread : toStructure ZtdoHeader.fields s v = ⟨h, s', none⟩) :
    (h.WellFormed ∧ s.rest = marshal ZtdoHeader.fields h ++ s'.rest) ∨ HeaderCut s.rest := by
  obtain ⟨_, _, hf, hread⟩ := unmarshal_cons_ok hread
  obtain ⟨magicNumber, r₁, htook₁, rfl, rfl⟩ := arrayField_ok hf
  obtain ⟨_, _, hf, hread⟩ := unmarshal_cons_ok hread
  obtain ⟨objectID, r₂, htook₂, rfl, rfl⟩ := arrayField_ok hf
  obtain ⟨_, _, hf, hread⟩ := unmarshal_cons_ok hread
  obtain ⟨version, r₃, htook₃, rfl, rfl⟩ := arrayField_ok hf
  obtain ⟨_, _, hf, hread⟩ := unmarshal_cons_ok hread
  obtain ⟨nhpServerLen, r₄, htook₄, rfl, rfl⟩ := arrayField_ok hf
  rw [Reader.note_lengthFor] at hread
  obtain ⟨_, _, hf, hread⟩ := unmarshal_cons_ok hread
  obtain ⟨nhpServer, r₅, htook₅, rfl, rfl⟩ := bytesField_ok hf
  obtain ⟨_, _, hf, hread⟩ := unmarshal_cons_ok hread
  obtain ⟨cipherConfig, r₆, htook₆, rfl, rfl⟩ := arrayField_ok hf
  obtain ⟨_, _, hf, hread⟩ := unmarshal_cons_ok hread
  obtain ⟨chunks, hloop, rfl⟩ := sliceField_ok hf
  obtain ⟨rfl, rfl⟩ := Outcome.mk.inj hread |>.imp_right And.left
  have hchunks := sliceLoop_chunks hloop
  simp only [Reader.note_untagged, Reader.setLength_rest, Reader.setLength_same, hv,
    List.nil_append] at htook₁ htook₂ htook₃ htook₄ htook₅ htook₆ hchunks
  -- the chunks begin behind the rest, so every field before them was read in full
  have hr₆ : r₆ ≠ [] := by
    rcases hchunks with ⟨more, -, hmore, rfl⟩ | hcut
    · exact fun h => hmore.marshal_ne_nil (List.append_eq_nil_iff.mp h).1
    · exact hcut.ne_nil
  obtain ⟨-, rfl⟩ := htook₆.complete_of_rest hr₆
  obtain ⟨hserver, rfl⟩ := htook₅.complete_of_rest (cipherConfig.ne_nil (by decide) _)
  have hr₄ : nhpServer ++ (cipherConfig.1 ++ r₆) ≠ [] := fun h =>
    cipherConfig.ne_nil (by decide) _ (List.append_eq_nil_iff.mp h).2
  obtain ⟨-, rfl⟩ := htook₄.complete_of_rest hr₄
  obtain ⟨-, rfl⟩ := htook₃.complete_of_rest (nhpServerLen.ne_nil (by decide) _)
  obtain ⟨-, rfl⟩ := htook₂.complete_of_rest (version.ne_nil (by decide) _)
  obtain ⟨-, hfile⟩ := htook₁.complete_of_rest (objectID.ne_nil (by decide) _)
  rcases hchunks with ⟨more, rfl, hmore, rfl⟩ | hcut
  · refine .inl ⟨⟨hserver.symm, hmore⟩, ?_⟩
    rw [hfile, marshal_header]
    simp only [List.append_assoc]
  · exact .inr ⟨magicNumber, objectID, version, nhpServerLen, nhpServer, cipherConfig, r₆, hfile,
      hserver.symm, hcut⟩

/-- The slice loop of a header ends: every chunk takes letters from the file. -/
theorem toStructure_header_not_endless (s : Reader β) (v : ZtdoHeader β) :
    (toStructure ZtdoHeader.fields s v).err ≠ some .endless := by
  have hchunk : ∀ (s : Reader β) (m : ZtdoMetadata β),
      (unmarshal ZtdoMetadata.fields s m).err ≠ some .endless :=
    unmarshal_not_endless (by
      simp only [ZtdoMetadata.fields, List.forall_mem_cons]
      exact ⟨arrayField_not_endless _ _ _ _, bytesField_not_endless _ _ _,
        fun field h => absurd h List.not_mem_nil⟩)
  have htakes : ∀ (s : Reader β) (v m : ZtdoMetadata β) (s' : Reader β),
      unmarshal ZtdoMetadata.fields s v = ⟨m, s', none⟩ → s'.rest.length < s.rest.length := by
    intro s v m s' h
    rcases metadata_ok h with ⟨-, hrest⟩ | ⟨hnil, -⟩
    · rw [hrest, marshal_metadata]
      simp only [List.length_append, m.metadataLen.2]
      omega
    · obtain ⟨_, _, hf, -⟩ := unmarshal_cons_ok h
      obtain ⟨_, _, htook, -, -⟩ := arrayField_ok hf
      rw [hnil]
      exact List.length_pos_iff.mpr (htook.file_ne_nil (by decide))
  refine unmarshal_not_endless ?_ _ _
  simp only [ZtdoHeader.fields, List.forall_mem_cons]
  exact ⟨arrayField_not_endless _ _ _ _, arrayField_not_endless _ _ _ _,
    arrayField_not_endless _ _ _ _, arrayField_not_endless _ _ _ _, bytesField_not_endless _ _ _,
    arrayField_not_endless _ _ _ _,
    fun s v => sliceLoop_not_endless hchunk htakes (Nat.le_refl _) _,
    fun field h => absurd h List.not_mem_nil⟩

/-! ## Files that end inside their last field are accepted -/

/-- A ciphertext that is cut is filled up, -/
theorem content_short {s : Reader β} (iv : Arr β ivSize) {text : List β}
    (hs : s.rest = iv.1 ++ text) (hne : text ≠ [])
    (hlt : text.length < (s.lengthMap .cipherText - UInt32.ofNat ivSize).toNat) (v : ZtdoContent β) :
    ∃ c s', unmarshal ZtdoContent.fields s v = ⟨c, s', none⟩ ∧
      text.length < c.cipherText.length := by
  obtain ⟨bs, hlen, hread⟩ := bytesField_short ZtdoContent.cipherText
    (fun bytes c => { c with cipherText := bytes })
    (s := { s with rest := text }.setLength .cipherText
      (s.lengthMap .cipherText - UInt32.ofNat ivSize))
    hne (by rw [Reader.setLength_same]; exact hlt) { v with iv := iv }
  rw [Reader.setLength_same] at hlen
  refine ⟨{ iv, cipherText := bs }, { s with rest := [] }.setLength .cipherText
    (s.lengthMap .cipherText - UInt32.ofNat ivSize), ?_, hlen ▸ hlt⟩
  rw [ZtdoContent.fields, unmarshal_cons (arrayField_read iv hs), Reader.note_subtractFrom,
    unmarshal_cons hread]
  rfl

/-- and so is an IV with nothing behind it. -/
theorem content_shortIv {s : Reader β} (hne : s.rest ≠ []) (hlt : s.rest.length < ivSize)
    (hzero : s.lengthMap .cipherText - UInt32.ofNat ivSize = 0) (v : ZtdoContent β) :
    ∃ c s', unmarshal ZtdoContent.fields s v = ⟨c, s', none⟩ := by
  obtain ⟨iv, -, hread⟩ := arrayField_short { subtractFrom := some .cipherText } ZtdoContent.iv
    (fun bytes c => { c with iv := bytes }) hne hlt v
  refine ⟨{ iv, cipherText := [] }, { s with rest := [] }.setLength .cipherText
    (s.lengthMap .cipherText - UInt32.ofNat ivSize), ?_⟩
  rw [ZtdoContent.fields, unmarshal_cons hread, Reader.note_subtractFrom,
    unmarshal_cons (bytesField_read [] (show _ = [] ++ [] from rfl)
      (by rw [Reader.setLength_same, hzero]; rfl))]
  rfl

/-- A payload that is cut is accepted, and is longer than what was there. -/
theorem payload_cut {s : Reader β} (h : PayloadCut s.rest) (v : ZtdoPayload β) :
    ∃ p s', toStructure ZtdoPayload.fields s v = ⟨p, s', none⟩ ∧
      s.rest.length < (marshal ZtdoPayload.fields p).length := by
  obtain ⟨length, iv, text, hfile, hne, hlt⟩ | ⟨length, iv, hfile, hne, hlt, hzero⟩ := h
  · obtain ⟨c, s', hread, hlen⟩ := content_short
      (s := { s with lengthMap := fun _ => 0, rest := iv.1 ++ text }.setLength .cipherText
        (uint32Of (bytesOf length.1))) iv rfl hne (by rw [Reader.setLength_same]; exact hlt) v.content
    refine ⟨{ length, content := c }, s', payload_of_content hfile hread, ?_⟩
    rw [hfile, marshal_payload]
    simp only [List.length_append, iv.2, c.iv.2]
    omega
  · obtain ⟨c, s', hread⟩ := content_shortIv
      (s := { s with lengthMap := fun _ => 0, rest := iv }.setLength .cipherText
        (uint32Of (bytesOf length.1))) hne hlt (by rw [Reader.setLength_same]; exact hzero) v.content
    refine ⟨{ length, content := c }, s', payload_of_content hfile hread, ?_⟩
    rw [hfile, marshal_payload]
    simp only [List.length_append, c.iv.2]
    omega

/-- The length of a chunk whose second byte the file does not have any more. -/
theorem metadata_shortLength {s : Reader β} {low : β} (hs : s.rest = [low]) (hlow : byteOf low = 0)
    (v : ZtdoMetadata β) :
    ∃ m s', unmarshal ZtdoMetadata.fields s v = ⟨m, s', none⟩ ∧
      s'.lengthContinueIndicator = false := by
  obtain ⟨len, hlen, hread⟩ := arrayField_short (n := 2)
    { lengthFor := some .metadata, lengthContinue := true } ZtdoMetadata.metadataLen
    (fun bytes m => { m with metadataLen := bytes }) (s := s)
    (by rw [hs]; exact List.cons_ne_nil _ _) (by rw [hs]; exact Nat.lt_succ_self _) v
  have hbytes : bytesOf len.1 = [0, 0] := by
    rw [hlen, hs]
    simp [bytesOf, hlow]
  rw [hbytes, Reader.note_lengthContinue] at hread
  refine ⟨{ metadataLen := len, metadata := [] },
    { s with rest := [], lengthContinueIndicator := false }.setLength .metadata 0, ?_, rfl⟩
  rw [ZtdoMetadata.fields, unmarshal_cons hread,
    unmarshal_cons (bytesField_read [] (show _ = [] ++ [] from rfl) rfl)]
  rfl

/-- A last chunk of which the file has only a part. -/
theorem metadata_shortData {s : Reader β} {low high : β} {rest : List β}
    (hs : s.rest = low :: high :: rest) (hlast : (chunkHead low high).1 = false) (hne : rest ≠ [])
    (hlt : rest.length < (chunkHead low high).2) (v : ZtdoMetadata β) :
    ∃ m s', unmarshal ZtdoMetadata.fields s v = ⟨m, s', none⟩ ∧
      s'.lengthContinueIndicator = false ∧ rest.length < m.metadata.length := by
  let len : Arr β 2 := ⟨[low, high], rfl⟩
  let noted := ({ s with rest, lengthContinueIndicator := false } : Reader β).setLength .metadata
    (uint32Of (preprocessContinuation (bytesOf len.1)).2)
  obtain ⟨bs, hlen, hread⟩ := bytesField_short ZtdoMetadata.metadata
    (fun bytes m => { m with metadata := bytes }) (s := noted) hne
    (by rw [Reader.setLength_same]; exact hlt) { v with metadataLen := len }
  rw [Reader.setLength_same] at hlen
  refine ⟨{ metadataLen := len, metadata := bs }, { noted with rest := [] }, ?_, rfl, hlen ▸ hlt⟩
  have hind : (preprocessContinuation (bytesOf len.1)).1 = false := hlast
  rw [ZtdoMetadata.fields, unmarshal_cons (arrayField_read len hs), Reader.note_lengthContinue, hind]
  exact (unmarshal_cons hread).trans rfl

/-- So are chunks. -/
theorem sliceLoop_cut {file : List β} (hcut : CutInMetadata file) {fuel : Nat}
    (hfuel : file.length ≤ fuel) {s : Reader β} (hs : s.rest = file) (chunks : List (ZtdoMetadata β)) :
    ∃ more s', sliceLoop ZtdoMetadata.fields ZtdoMetadata.new fuel s chunks
      = ⟨chunks ++ more, s', none⟩ ∧
      file.length < (more.flatMap (marshal ZtdoMetadata.fields)).length := by
  induction hcut generalizing fuel s chunks with
  | length hlow =>
    obtain ⟨m, s', hread, hind⟩ := metadata_shortLength hs hlow ZtdoMetadata.new
    refine ⟨[m], s', sliceLoop_stop hread hind, ?_⟩
    rw [List.flatMap_singleton, marshal_metadata, List.length_append, m.metadataLen.2]
    simp only [List.length_singleton]
    omega
  | data hlast hne hlt =>
    obtain ⟨m, s', hread, hind, hlen⟩ := metadata_shortData hs hlast hne hlt ZtdoMetadata.new
    refine ⟨[m], s', sliceLoop_stop hread hind, ?_⟩
    rw [List.flatMap_singleton, marshal_metadata, List.length_append, m.metadataLen.2]
    simp only [List.length_cons]
    omega
  | @next low high chunk rest hmore hlen hrest ih =>
    let m : ZtdoMetadata β := { metadataLen := ⟨[low, high], rfl⟩, metadata := chunk }
    have hm : m.Encodes true := ⟨hmore, hlen.symm⟩
    have hs' : s.rest = marshal ZtdoMetadata.fields m ++ rest := by
      rw [hs, marshal_metadata, List.append_assoc]
      rfl
    obtain ⟨s₁, hread, hrest₁, hind⟩ := unmarshal_metadata hm hs' ZtdoMetadata.new
    cases fuel with
    | zero => exact absurd hfuel (by simp)
    | succ fuel =>
      simp only [List.length_cons, List.length_append] at hfuel
      have hfuel' : rest.length ≤ fuel := by omega
      obtain ⟨more, s', hloop, hlong⟩ := ih hfuel' hrest₁ (chunks ++ [m])
      refine ⟨m :: more, s', ?_, ?_⟩
      · rw [sliceLoop_next hread hind, hloop, List.append_assoc, List.singleton_append]
      · have hlong' : (marshal ZtdoMetadata.fields m).length = 2 + chunk.length := by
          rw [marshal_metadata, List.length_append, m.metadataLen.2]
        rw [List.flatMap_cons, List.length_append, hlong']
        simp only [List.length_cons, List.length_append]
        omega

/-- A header whose last field is cut short is accepted, as a longer one than the file holds. -/
theorem header_cut {s : Reader β} (h : HeaderCut s.rest) {v : ZtdoHeader β} (hv : v.metadata = []) :
    ∃ h s', toStructure ZtdoHeader.fields s v = ⟨h, s', none⟩ ∧
      s.rest.length < (marshal ZtdoHeader.fields h).length := by
  obtain ⟨magicNumber, objectID, version, nhpServerLen, nhpServer, cipherConfig, rest, hfile, hserver,
    hcut⟩ := h
  let last := ({ s with lengthMap := fun _ => 0, rest } : Reader β).setLength .nhpServer
    (uint32Of (bytesOf nhpServerLen.1))
  obtain ⟨chunks, s', hloop, hlong⟩ := sliceLoop_cut hcut (Nat.le_refl _) (s := last) rfl []
  have hs : ({ s with lengthMap := fun _ => 0 } : Reader β).rest = _ := hfile
  let h : ZtdoHeader β := ⟨magicNumber, objectID, version, nhpServerLen, nhpServer, cipherConfig, chunks⟩
  refine ⟨h, s', ?_, ?_⟩
  · rw [toStructure, ZtdoHeader.fields, unmarshal_cons (arrayField_read magicNumber hs),
      unmarshal_cons (arrayField_read objectID rfl), unmarshal_cons (arrayField_read version rfl),
      unmarshal_cons (arrayField_read nhpServerLen rfl), Reader.note_lengthFor,
      unmarshal_cons (bytesField_read nhpServer rfl
        (by rw [Reader.setLength_same]; exact hserver.symm)),
      unmarshal_cons (arrayField_read cipherConfig rfl)]
    exact (unmarshal_cons (sliceField_read (by simp only [hv]; exact hloop))).trans rfl
  · rw [hfile, marshal_header]
    simp only [h, List.length_append]
    omega

/-! ## Exactly the whole encodings -/

/-- A reader that gives back what its writer wrote, and accepts beyond that only files that end inside
    their last field, obeys the law on exactly the other files. -/
theorem readsExactly_iff_not_cut {read : Reader β → Outcome β σ} {write : σ → List β}
    (WellFormed : σ → Prop) {Cut : List β → Prop}
    (hok : ∀ s, (read s).err = none →
      (WellFormed (read s).value ∧ s.rest = write (read s).value ++ (read s).reader.rest) ∨ Cut s.rest)
    (hcut : ∀ s, Cut s.rest →
      (read s).err = none ∧ s.rest.length < (write (read s).value).length)
    (hback : ∀ v s tail, WellFormed v → s.rest = write v ++ tail → (read s).value = v)
    (file : List β) : ReadsExactly read write file ↔ ¬Cut file := by
  constructor
  · rintro ⟨hexact, -⟩ hfile
    obtain ⟨herr, hlong⟩ := hcut (Reader.ofFile file) hfile
    have hlen := congrArg List.length (hexact _ rfl herr)
    have hrest : (Reader.ofFile file).rest.length = file.length := rfl
    rw [List.length_append] at hlen
    omega
  · intro hfile
    refine ⟨fun s hs herr => ?_, fun s whole missing hs hwhole hmissing _ hwrite herr => ?_⟩
    · rcases hok s herr with ⟨-, hrest⟩ | hcut
      · rw [← hrest, hs]
      · exact absurd (hs ▸ hcut) hfile
    · rcases hok s herr with ⟨hwf, hrest⟩ | hcut
      · -- the longer file begins with the same encoding, so it is read as the same structure
        have hsame := hback (read s).value whole ((read s).reader.rest ++ missing) hwf
          (by rw [hwhole, ← hs, ← List.append_assoc, ← hrest])
        rw [hsame] at hwrite
        have hlen := congrArg List.length hrest
        have hlen' := congrArg List.length hwrite
        rw [hs, List.length_append] at hlen
        rw [List.length_append] at hlen'
        exact hmissing (List.length_eq_zero_iff.mp (by omega))
      · exact absurd (hs ▸ hcut) hfile

/-- The iff for headers, -/
theorem header_readsExactly (uuid : Arr β objectIDSize) (file : List β) :
    ReadsExactly (fun s => toStructure ZtdoHeader.fields s (ZtdoHeader.new uuid))
      (marshal ZtdoHeader.fields) file ↔ ¬HeaderCut file := by
  refine readsExactly_iff_not_cut ZtdoHeader.WellFormed ?_ ?_ ?_ file
  · intro s herr
    exact header_ok rfl (by rw [← herr])
  · intro s hcut
    obtain ⟨h, s', hread, hlong⟩ := header_cut hcut (v := ZtdoHeader.new uuid) rfl
    rw [hread]
    exact ⟨rfl, hlong⟩
  · intro h s tail hwf hs
    obtain ⟨s', hread, -⟩ := toStructure_header hwf hs (v := ZtdoHeader.new uuid) rfl
    rw [hread]

/-- and for payloads. -/
theorem payload_readsExactly (iv : Arr β ivSize) (file : List β) :
    ReadsExactly (fun s => toStructure ZtdoPayload.fields s (ZtdoPayload.new iv))
      (marshal ZtdoPayload.fields) file ↔ ¬PayloadCut file := by
  refine readsExactly_iff_not_cut ZtdoPayload.WellFormed ?_ ?_ ?_ file
  · intro s herr
    exact payload_ok (by rw [← herr])
  · intro s hcut
    obtain ⟨p, s', hread, hlong⟩ := payload_cut hcut (ZtdoPayload.new iv)
    rw [hread]
    exact ⟨rfl, hlong⟩
  · intro p s tail hwf hs
    obtain ⟨s', hread, -⟩ := toStructure_payload hwf hs (ZtdoPayload.new iv)
    rw [hread]

/-- Headers and payloads are accepted exactly as they were written, and cut ones refused, on exactly
    the files that do not end inside the last field they announce; so does `ParseHeader`. -/
theorem readsExactly_iff (z : Ztdo β) (uuid : Arr β objectIDSize) (iv : Arr β ivSize)
    (file : List β) :
    (ReadsExactly (fun s => toStructure ZtdoHeader.fields s (ZtdoHeader.new uuid))
      (marshal ZtdoHeader.fields) file ↔ ¬HeaderCut file) ∧
    (ReadsExactly (z.parseHeader uuid) (fun z' => marshal ZtdoHeader.fields z'.header) file
      ↔ ¬HeaderCut file) ∧
    (ReadsExactly (fun s => toStructure ZtdoPayload.fields s (ZtdoPayload.new iv))
      (marshal ZtdoPayload.fields) file ↔ ¬PayloadCut file) :=
  ⟨header_readsExactly uuid file, header_readsExactly uuid file, payload_readsExactly iv file⟩

/-- A header whose metadata length has lost its second byte, and a payload that has two of the eight
    ciphertext bytes it announces, are both accepted, with zero bytes for what is missing. -/
theorem cut_files_accepted :
    ¬ReadsExactly ((⟨ZtdoHeader.new (Arr.zero objectIDSize), ⟨Arr.zero signatureLenSize⟩⟩ :
        Ztdo UInt8).parseHeader (Arr.zero objectIDSize))
      (fun z => marshal ZtdoHeader.fields z.header) (List.replicate 25 0) ∧
    ¬ReadsExactly (fun s => toStructure ZtdoPayload.fields s (ZtdoPayload.new (Arr.zero ivSize)))
      (marshal ZtdoPayload.fields) ([20, 0, 0] ++ List.replicate 12 (0 : UInt8) ++ [1, 2]) := by
  constructor
  · rintro ⟨hexact, -⟩
    have hread := hexact (Reader.ofFile _) rfl (by decide +kernel)
    exact absurd (congrArg List.length hread) (by decide +kernel)
  · rintro ⟨hexact, -⟩
    have hread := hexact (Reader.ofFile _) rfl (by decide +kernel)
    exact absurd (congrArg List.length hread) (by decide +kernel)

end OpenNHP.Core.Ztdo
