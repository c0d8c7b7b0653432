/-
  The length a payload announces (`nhp/core/ztdo/ztdo.go`: the tags of `ZtdoPayload` and `ZtdoContent`,
  `SetLength`, `GetLength`).

  THE PROGRAM.  Three bytes say how long the IV and the ciphertext are together.  `unmarshal` keeps them in a
  `uint32` and takes the IV off before it makes room for the ciphertext.

  THE SPECIFICATION.  What the writer puts there comes back, and the reader makes room for what was announced,
  less the IV, or returns an error (`LengthExact`).

  WHERE IT FAILS.  A length below that of the IV wraps around: where an error is due, room for almost 4 GiB is made
  (`payload_length_wraps`).

  ASSEMBLY.  `toStructure_length` says how much room a read makes, for any file; `payload_length_iff` compares.
-/
import OpenNHP.Core.Ztdo.File

namespace OpenNHP.Core.Ztdo

open BigEndian

variable {β : Type} [Letter β]

/-- `GetLength`. -/
def ZtdoPayload.getLength (p : ZtdoPayload β) : UInt32 := uint32Of (bytesOf p.length.1)

/-- The size with which `unmarshal` makes the ciphertext, when it gets as far: the fields before it are read
    without an error. -/
def cipherTextSize (s : Reader β) (v : ZtdoPayload β) : Option UInt32 :=
  let r := unmarshal (ZtdoPayload.fields.take 1) { s with lengthMap := fun _ => 0 } v
  match r.err with
  | some _ => none
  | none =>
    let r := unmarshal (ZtdoContent.fields.take 1) r.reader r.value.content
    match r.err with
    | some _ => none
    | none => some (r.reader.lengthMap .cipherText)

/-! ## The property and the condition -/

/-- The size is the announced length without the IV, and a length below that of the IV is an error before any
    ciphertext is made. -/
def LengthExact (s : Reader β) (v : ZtdoPayload β) : Prop :=
  let r := toStructure ZtdoPayload.fields s v
  (∀ size, cipherTextSize s v = some size →
    (size.toNat : Int) = r.value.getLength.toNat - ivSize ∧ size.toNat ≤ 2 ^ 24 - 1 - ivSize) ∧
  (r.value.getLength.toNat < ivSize → r.err ≠ none ∧ cipherTextSize s v = none)

/-- The file ends with the length, or the length has room for the IV. -/
def RoomForIv (s : Reader β) : Prop :=
  s.rest.length ≤ payloadLengthSize ∨ ivSize ≤ getLE (bytesOf (s.rest.take payloadLengthSize))

/-! ## The fields before the ciphertext -/

/-- A `Read` that has anything left to read is no error. -/
theorem Reader.read_of_ne_nil {s : Reader β} (h : s.rest ≠ []) (n : Nat) :
    ∃ bs : Arr β n, s.read n = some (bs, { s with rest := s.rest.drop n }) := by
  have hpos := List.length_pos_iff.mpr h
  rw [Reader.read, if_neg (by omega)]
  exact ⟨_, rfl⟩

/-- Behind the end nothing is read. -/
theorem Reader.read_of_nil {s : Reader β} (h : s.rest = []) {n : Nat} (hn : n ≠ 0) : s.read n = none := by
  rw [Reader.read, if_pos ⟨hn, by rw [h]; rfl⟩]

/-- Behind the length something is left: the IV is read, and taken off. -/
theorem cipherTextSize_of_append {s : Reader β} {length : Arr β payloadLengthSize} {rest : List β}
    (hs : s.rest = length.1 ++ rest) (hrest : rest ≠ []) (v : ZtdoPayload β) :
    cipherTextSize s v = some (ZtdoPayload.contentLength length) := by
  have hs' : ({ s with lengthMap := fun _ => 0 } : Reader β).rest = _ := hs
  let noted := ({ s with lengthMap := fun _ => 0, rest := rest } : Reader β).setLength .cipherText
    (uint32Of (bytesOf length.1))
  have hlength : unmarshal (ZtdoPayload.fields.take 1) { s with lengthMap := fun _ => 0 } v
      = ⟨{ v with length := length }, noted, none⟩ := unmarshal_cons (arrayField_read length hs')
  obtain ⟨iv, hread⟩ := noted.read_of_ne_nil hrest ivSize
  have hiv : unmarshal (ZtdoContent.fields.take 1) noted v.content
      = ⟨{ v.content with iv := iv }, ({ noted with rest := noted.rest.drop ivSize } : Reader β).note
          { subtractFrom := some .cipherText } ivSize (bytesOf iv.1), none⟩ := by
    apply unmarshal_cons
    simp only [arrayField, hread]
  simp only [cipherTextSize, hlength, hiv, Reader.note_subtractFrom, Reader.setLength_same]
  rfl

/-- The length stays in the payload, whatever comes behind it. -/
theorem toStructure_length {s : Reader β} {length : Arr β payloadLengthSize} {rest : List β}
    (hs : s.rest = length.1 ++ rest) (v : ZtdoPayload β) :
    (toStructure ZtdoPayload.fields s v).value.length = length := by
  have hs' : ({ s with lengthMap := fun _ => 0 } : Reader β).rest = _ := hs
  rw [toStructure, ZtdoPayload.fields, unmarshal_cons (arrayField_read length hs'), unmarshal]
  cases h : ((structField ZtdoContent.fields (fun p : ZtdoPayload β => p.content)
    (fun content p => { p with content := content })).read _ _).err with
  | none => rfl
  | some e => rfl

/-- A file that ends with the length, or in it, is an error at the length or at the IV. -/
theorem cipherTextSize_of_le {s : Reader β} (h : s.rest.length ≤ payloadLengthSize) (v : ZtdoPayload β) :
    cipherTextSize s v = none ∧ (toStructure ZtdoPayload.fields s v).err ≠ none := by
  let opened : Reader β := { s with lengthMap := fun _ => 0 }
  rcases Decidable.em (s.rest = []) with hnil | hne
  · have hread : opened.read payloadLengthSize = none := Reader.read_of_nil (s := opened) hnil (by decide)
    constructor
    · simp only [cipherTextSize, ZtdoPayload.fields, List.take_succ_cons, unmarshal, arrayField, opened, hread]
    · simp only [toStructure, ZtdoPayload.fields, unmarshal, arrayField, opened, hread]
      exact Option.some_ne_none _
  · obtain ⟨length, hread⟩ := opened.read_of_ne_nil hne payloadLengthSize
    have hdrop : opened.rest.drop payloadLengthSize = [] := List.drop_of_length_le h
    rw [hdrop] at hread
    -- nothing is left for the IV
    have hiv : ∀ lengthMap indicator, (⟨[], lengthMap, indicator⟩ : Reader β).read ivSize = none :=
      fun _ _ => Reader.read_of_nil rfl (by decide)
    constructor
    · simp only [cipherTextSize, ZtdoPayload.fields, ZtdoContent.fields, List.take_succ_cons, List.take_zero,
        unmarshal, arrayField, opened, hread, Reader.note_lengthFor, Reader.setLength, hiv]
    · simp only [toStructure, ZtdoPayload.fields, ZtdoContent.fields, unmarshal, structField, arrayField, opened,
        hread, Reader.note_lengthFor, Reader.setLength, hiv]
      exact Option.some_ne_none _

/-- A read returns what was asked for, filled up. -/
theorem Took.length_eq {n : Nat} {file bs rest : List β} (h : Took n file bs rest) : bs.length = n := by
  rcases h with ⟨hlen, -⟩ | ⟨-, hlt, -, rfl⟩
  · exact hlen
  · rw [List.length_append, List.length_replicate]
    omega

/-- A payload that is accepted has a ciphertext of that size. -/
theorem length_cipherText {s s' : Reader β} {v p : ZtdoPayload β}
    (h : toStructure ZtdoPayload.fields s v = ⟨p, s', none⟩) :
    ∃ size, cipherTextSize s v = some size ∧ p.content.cipherText.length = size.toNat := by
  obtain ⟨_, _, hlength, h⟩ := unmarshal_cons_ok h
  obtain ⟨length, rest, htook, rfl, rfl⟩ := arrayField_ok hlength
  rw [Reader.note_lengthFor] at h
  obtain ⟨_, _, hcontent, h⟩ := unmarshal_cons_ok h
  obtain ⟨c, hc, rfl⟩ := structField_ok hcontent
  obtain ⟨rfl, rfl⟩ := Outcome.mk.inj h |>.imp_right And.left
  obtain ⟨_, _, hiv, hc⟩ := unmarshal_cons_ok hc
  obtain ⟨iv, rest', htook', rfl, rfl⟩ := arrayField_ok hiv
  rw [Reader.note_subtractFrom] at hc
  obtain ⟨_, _, htext, hc⟩ := unmarshal_cons_ok hc
  obtain ⟨text, rest'', htook'', rfl, rfl⟩ := bytesField_ok htext
  obtain ⟨rfl, rfl⟩ := Outcome.mk.inj hc |>.imp_right And.left
  rw [Reader.setLength_same, Reader.setLength_same] at htook''
  have hrest : rest ≠ [] := htook'.file_ne_nil (by decide)
  refine ⟨_, cipherTextSize_of_append (htook.complete_of_rest hrest).2 hrest v, ?_⟩
  exact htook''.length_eq

/-! ## Exact lengths -/

/-- Three bytes are a number below 2 ^ 24. -/
theorem getLE_lt_of_length {bs : Bytes} (h : bs.length = payloadLengthSize) : getLE bs < 2 ^ 24 := by
  have hlt := getLE_lt bs
  rw [h] at hlt
  exact hlt

/-- The `uint32` of the three bytes is their value. -/
theorem toNat_uint32Of {bs : Bytes} (h : bs.length = payloadLengthSize) : (uint32Of bs).toNat = getLE bs := by
  have hlt := getLE_lt_of_length h
  rw [uint32Of, List.take_of_length_le (by rw [h]; decide)]
  exact UInt32.toNat_ofNat_of_lt' (by simp only [UInt32.size]; omega)

/-- Less the IV, a length is exact if it has room for one, and otherwise wraps around. -/
theorem toNat_contentLength (length : Arr β payloadLengthSize) :
    (ZtdoPayload.contentLength length).toNat =
      if ivSize ≤ getLE (bytesOf length.1) then getLE (bytesOf length.1) - ivSize
      else getLE (bytesOf length.1) + (2 ^ 32 - ivSize) := by
  have hlen : (bytesOf length.1).length = payloadLengthSize := (length_bytesOf _).trans length.2
  have hlt := getLE_lt_of_length hlen
  have hiv : ivSize = 12 := rfl
  have hiv' : (UInt32.ofNat ivSize).toNat = 12 := by decide
  rw [ZtdoPayload.contentLength, UInt32.toNat_sub, toNat_uint32Of hlen, hiv']
  split_ifs with h
  · omega
  · omega

/-- The room is exact where there is some for the IV. -/
theorem lengthExact_iff (s : Reader β) (v : ZtdoPayload β) : LengthExact s v ↔ RoomForIv s := by
  have hiv : ivSize = 12 := rfl
  rcases Nat.lt_or_ge payloadLengthSize s.rest.length with hlong | hshort
  · -- the length is all there, with something behind it
    have htake : (s.rest.take payloadLengthSize).length = payloadLengthSize :=
      List.length_take_of_le (Nat.le_of_lt hlong)
    let length : Arr β payloadLengthSize := ⟨s.rest.take payloadLengthSize, htake⟩
    have hs : s.rest = length.1 ++ s.rest.drop payloadLengthSize := (List.take_append_drop _ _).symm
    have hrest : s.rest.drop payloadLengthSize ≠ [] := by
      apply List.length_pos_iff.mp
      rw [List.length_drop]
      omega
    have hsize := cipherTextSize_of_append hs hrest v
    have hlength : (toStructure ZtdoPayload.fields s v).value.getLength.toNat = getLE (bytesOf length.1) := by
      rw [ZtdoPayload.getLength, toStructure_length hs v]
      exact toNat_uint32Of ((length_bytesOf _).trans htake)
    have hlt := getLE_lt_of_length ((length_bytesOf _).trans htake : (bytesOf length.1).length = _)
    have hcontent := toNat_contentLength length
    constructor
    · rintro ⟨-, herror⟩
      right
      by_contra hroom
      rw [hlength] at herror
      have hnone := (herror (Nat.lt_of_not_le hroom)).2
      rw [hsize] at hnone
      exact Option.some_ne_none _ hnone
    · intro hroom
      have hle : ivSize ≤ getLE (bytesOf length.1) := by
        rcases hroom with hend | hle
        · exact absurd hend (Nat.not_le.mpr hlong)
        · exact hle
      rw [if_pos hle] at hcontent
      constructor
      · intro size heq
        rw [hsize] at heq
        obtain rfl := Option.some.inj heq
        rw [hlength, hcontent]
        omega
      · intro hsmall
        rw [hlength] at hsmall
        omega
  · obtain ⟨hnone, herr⟩ := cipherTextSize_of_le hshort v
    refine iff_of_true ⟨?_, ?_⟩ (.inl hshort)
    · intro size hsize
      rw [hnone] at hsize
      exact absurd hsize.symm (Option.some_ne_none _)
    · exact fun _ => ⟨herr, hnone⟩

/-- What the writer makes of a chunk, under a tag of any size, has its length in the three bytes. -/
theorem setLength_getLength {mode : SymmetricCipherMode} {p : ZtdoPayload β}
    (h : p.content.cipherText.length ≤ dataChunkSize + mode.tagSize) :
    getLE (bytesOf p.setLength.length.1) = ivSize + p.content.cipherText.length ∧
      p.setLength.getLength.toNat = ivSize + p.content.cipherText.length := by
  have htag := mode.tagSize_le
  have hmax : dataChunkSize + ivSize + 16 < 2 ^ 24 := by decide
  exact ZtdoPayload.setLength_exact (by omega)

/-- The size a payload's ciphertext is made with is exact, and a length without room for the IV an error,
    exactly when the file ends with the length or the length has room for the IV.  The lengths that are
    written are always exact. -/
theorem payload_length_iff (s : Reader β) (v : ZtdoPayload β) :
    (LengthExact s v ↔ RoomForIv s) ∧
    ∀ (mode : SymmetricCipherMode) (p : ZtdoPayload β),
      p.content.cipherText.length ≤ dataChunkSize + mode.tagSize →
      getLE (bytesOf p.setLength.length.1) = ivSize + p.content.cipherText.length ∧
        p.setLength.getLength.toNat = ivSize + p.content.cipherText.length :=
  ⟨lengthExact_iff s v, fun _ _ h => setLength_getLength h⟩

/-- A length of zero before an IV and one more byte: room for 4294967284 bytes is made. -/
theorem payload_length_wraps :
    ¬LengthExact (Reader.ofFile (List.replicate 16 (0 : UInt8))) (.new (Arr.zero ivSize)) ∧
      cipherTextSize (Reader.ofFile (List.replicate 16 (0 : UInt8))) (.new (Arr.zero ivSize))
        = some 4294967284 := by
  constructor
  · rw [lengthExact_iff]
    rintro (hend | hroom)
    · exact absurd hend (by decide)
    · exact absurd hroom (by decide)
  · have hfile : (Reader.ofFile (List.replicate 16 (0 : UInt8))).rest =
        (Arr.zero payloadLengthSize).1 ++ List.replicate 13 0 := rfl
    have hmore : List.replicate 13 (0 : UInt8) ≠ [] := List.cons_ne_nil _ _
    exact cipherTextSize_of_append hfile hmore _

end OpenNHP.Core.Ztdo
