/-
  The reflection-driven codec of ztdo files (`nhp/core/ztdo/ztdo.go`: `marshal`, `unmarshal`,
  `toBuffer`, `toStructure`, `encodeMetadataLength`, `preprocessContinuation`).

  A Go structure type is here the list of its fields: a `Field β σ` says how one field of `σ` is put
  into the buffer and how it is read from the file, by the kind of the field (array of bytes, slice of
  bytes, nested structure, slice of structures) and its tags.  `marshal` and `unmarshal` walk that list
  as the loops over `NumField` do.

  Files are lists over an alphabet `β` of letters.  A letter stands for a byte (`byteOf`); for plain
  files `β` is `UInt8` itself, and an alphabet whose letters remember which hash or ciphertext they
  belong to gives the same reader over symbolic files.

  `os.File.Read` gives what is asked for or, at the end of the file, what is left; `unmarshal` drops the
  count, so that a short read leaves zero bytes behind (`Reader.read`).
-/
import OpenNHP.Lib.BigEndian

namespace OpenNHP.Core.Ztdo

open BigEndian

/-! ## Letters -/

/-- What a file is made of: every byte is a letter, every letter has a byte value. -/
class Letter (β : Type) where
  ofByte : UInt8 → β
  byteOf : β → UInt8
  byteOf_ofByte : ∀ b, byteOf (ofByte b) = b

export Letter (ofByte byteOf byteOf_ofByte)

attribute [simp] byteOf_ofByte

instance : Letter UInt8 := ⟨id, id, fun _ => rfl⟩

/-- A `[n]byte`. -/
abbrev Arr (β : Type) (n : Nat) : Type := { bs : List β // bs.length = n }

/-- The `[n]byte` that holds `bs`, for a byte string of that length. -/
def Arr.ofBytes {β : Type} [Letter β] {n : Nat} (bs : Bytes) (h : bs.length = n) : Arr β n :=
  ⟨bs.map ofByte, by rw [List.length_map, h]⟩

@[simp] theorem Arr.length_eq {β : Type} {n : Nat} (a : Arr β n) : a.1.length = n := a.2

/-- `[n]byte{}`. -/
def Arr.zero {β : Type} [Letter β] (n : Nat) : Arr β n :=
  ⟨List.replicate n (ofByte 0), List.length_replicate⟩

/-- The bytes that letters stand for. -/
def bytesOf {β : Type} [Letter β] (ls : List β) : Bytes := ls.map byteOf

section

variable {β : Type} [Letter β]

@[simp] theorem length_bytesOf (ls : List β) : (bytesOf ls).length = ls.length :=
  List.length_map _

@[simp] theorem bytesOf_ofBytes {n : Nat} (bs : Bytes) (h : bs.length = n) :
    bytesOf (Arr.ofBytes (β := β) bs h).1 = bs := by
  rw [bytesOf, Arr.ofBytes, List.map_map]
  have hid : (byteOf ∘ ofByte : UInt8 → UInt8) = id := funext (byteOf_ofByte (β := β))
  rw [hid, List.map_id]

end

/-! ## The package state of a parse -/

/-- The names the `lengthFor` and `subtractFrom` tags use. -/
inductive FieldName
  | nhpServer
  | metadata
  | cipherText
  deriving DecidableEq, Repr

/-- `endianness.Uint32` of up to four bytes, copied into a zeroed `[4]byte`.  `littleEndian` keeps its
    initial value `true`. -/
def uint32Of (bytes : Bytes) : UInt32 := UInt32.ofNat (getLE (bytes.take 4))

/-- The open file from its current position on, and the package variables `lengthMap` and
    `lengthContinueIndicator`. -/
structure Reader (β : Type) where
  rest : List β
  lengthMap : FieldName → UInt32
  lengthContinueIndicator : Bool

/-- Why a structure could not be read: `io.EOF`.  `endless` stands for a slice loop that would never
    end; no structure of the package has one (`toStructure_header_not_endless`). -/
inductive ReadError
  | eof
  | endless
  deriving DecidableEq, Repr

/-- What `unmarshal` leaves: the structure with every field set so far, the file and the package
    variables, and the error it returned. -/
structure Outcome (β σ : Type) where
  value : σ
  reader : Reader β
  err : Option ReadError

/-! ## The continuation bit -/

/-- What a length of 15 bits can say. -/
def metadataChunkMaxSize : Nat := 32767

/-- `encodeMetadataLength`: the length in 15 bits, the continuation flag in the top bit, the low byte
    first; `none` for a length that is too large or negative. -/
def encodeMetadataLength (length : Int) (continuation : Bool) : Option (UInt8 × UInt8) :=
  if length > metadataChunkMaxSize then none
  else if length < 0 then none
  else
    let high := UInt8.ofNat (length.toNat / 256) &&& 0x7F
    some (UInt8.ofNat length.toNat, if continuation then high ||| 0x80 else high)

/-- `preprocessContinuation`: the top bit of the last byte, and the bytes with that bit cleared.  The
    fields that carry the `lengthContinue` tag have two bytes. -/
def preprocessContinuation (encoded : Bytes) : Bool × Bytes :=
  match encoded.reverse with
  | [] => (false, [])
  | last :: front => (last &&& 0x80 != 0, ((last &&& 0x7F) :: front).reverse)

/-! ## Reading one field -/

/-- The tags of an array field. -/
structure Tags where
  lengthFor : Option FieldName := none
  lengthContinue : Bool := false
  subtractFrom : Option FieldName := none

namespace Reader

variable {β : Type} [Letter β]

/-- `bytes := make([]byte, n); _, err := f.Read(bytes)`: nothing to do for `n = 0`, `io.EOF` at the end
    of the file, and otherwise what the file still has, up to `n`, with zero bytes behind it. -/
def read (s : Reader β) (n : Nat) : Option (Arr β n × Reader β) :=
  if n ≠ 0 ∧ s.rest.length = 0 then none
  else some (⟨s.rest.take n ++ List.replicate (n - s.rest.length) (ofByte 0), by
    rw [List.length_append, List.length_take, List.length_replicate]; omega⟩,
    { s with rest := s.rest.drop n })

/-- A file just opened, before anything was parsed. -/
def ofFile (file : List β) : Reader β :=
  { rest := file, lengthMap := fun _ => 0, lengthContinueIndicator := false }

/-- The length of a later field, as this one has given it. -/
def setLength (s : Reader β) (name : FieldName) (length : UInt32) : Reader β :=
  { s with lengthMap := fun other => if other = name then length else s.lengthMap other }

/-- What the tags of an array field of `n` bytes do to the package variables, once it holds `bytes`. -/
def note (s : Reader β) (tags : Tags) (n : Nat) (bytes : Bytes) : Reader β :=
  let (continuation, masked) := preprocessContinuation bytes
  let s := if tags.lengthContinue then { s with lengthContinueIndicator := continuation } else s
  let bytes := if tags.lengthContinue then masked else bytes
  let s := match tags.lengthFor with
    | some name => s.setLength name (uint32Of bytes)
    | none => s
  match tags.subtractFrom with
  | some name => s.setLength name (s.lengthMap name - UInt32.ofNat n)
  | none => s

end Reader

/-! ## Fields, `marshal` and `unmarshal` -/

/-- One field of a structure type: what `marshal` writes for it and what `unmarshal` does at it. -/
structure Field (β σ : Type) where
  put : σ → List β
  read : Reader β → σ → Outcome β σ

variable {β σ τ : Type}

/-- `marshal`, whose error no structure of the package can cause. -/
def marshal (fields : List (Field β σ)) (v : σ) : List β := fields.flatMap (·.put v)

/-- `unmarshal`: field by field, until one returns an error. -/
def unmarshal : List (Field β σ) → Reader β → σ → Outcome β σ
  | [], s, v => ⟨v, s, none⟩
  | field :: fields, s, v =>
    let r := field.read s v
    match r.err with
    | some _ => r
    | none => unmarshal fields r.reader r.value

section

variable [Letter β]

/-- A field of type `[n]byte`. -/
def arrayField (n : Nat) (tags : Tags) (get : σ → Arr β n) (set : Arr β n → σ → σ) : Field β σ where
  put v := (get v).1
  read s v :=
    match s.read n with
    | none => ⟨v, s, some .eof⟩
    | some (bytes, s') => ⟨set bytes v, s'.note tags n (bytesOf bytes.1), none⟩

/-- A field of type `[]byte`, as long as `lengthMap` says under its name. -/
def bytesField (name : FieldName) (get : σ → List β) (set : List β → σ → σ) : Field β σ where
  put := get
  read s v :=
    match s.read (s.lengthMap name).toNat with
    | none => ⟨v, s, some .eof⟩
    | some (bytes, s') => ⟨set bytes.1 v, s', none⟩

end

/-- A field whose type is a structure. -/
def structField (fields : List (Field β τ)) (get : σ → τ) (set : τ → σ → σ) : Field β σ where
  put v := marshal fields (get v)
  read s v :=
    let r := unmarshal fields s (get v)
    ⟨set r.value v, r.reader, r.err⟩

/-- The loop over a slice of structures: an element is appended and read in place, until one is read
    that does not set `lengthContinueIndicator`. -/
def sliceLoop (fields : List (Field β τ)) (zero : τ) : Nat → Reader β → List τ → Outcome β (List τ)
  | fuel, s, elements =>
    let r := unmarshal fields s zero
    let elements' := elements ++ [r.value]
    match r.err with
    | some e => ⟨elements', r.reader, some e⟩
    | none =>
      if r.reader.lengthContinueIndicator = false then ⟨elements', r.reader, none⟩
      else
        match fuel with
        | 0 => ⟨elements', r.reader, some .endless⟩
        | fuel + 1 => sliceLoop fields zero fuel r.reader elements'

/-- A field whose type is a slice of structures. -/
def sliceField (fields : List (Field β τ)) (zero : τ) (get : σ → List τ) (set : List τ → σ → σ) :
    Field β σ where
  put v := (get v).flatMap (marshal fields)
  read s v :=
    let r := sliceLoop fields zero s.rest.length s (get v)
    ⟨set r.value v, r.reader, r.err⟩

/-- `toStructure`: `lengthMap` is made anew, `lengthContinueIndicator` keeps what the parse before
    left. -/
def toStructure (fields : List (Field β σ)) (s : Reader β) (v : σ) : Outcome β σ :=
  unmarshal fields { s with lengthMap := fun _ => 0 } v

/-! ## The continuation bit is recovered -/

/-- A length of two bytes, the low one first. -/
theorem uint32Of_pair (low high : UInt8) :
    (uint32Of [low, high]).toNat = low.toNat + 256 * high.toNat := by
  have hlow := low.toNat_lt
  have hhigh := high.toNat_lt
  have hle : getLE [low, high] = low.toNat + 256 * high.toNat := by
    simp only [getLE, getBE, List.reverse_cons, List.reverse_nil, List.nil_append,
      List.singleton_append, List.length_cons, List.length_nil]
    omega
  rw [uint32Of, List.take_of_length_le (by simp), hle]
  exact UInt32.toNat_ofNat_of_lt' (by simp only [UInt32.size]; omega)

/-- The high byte of an encoded length, as `preprocessContinuation` sees it. -/
theorem highByte_cases : ∀ q < 128,
    (UInt8.ofNat q &&& 0x7F) &&& 0x80 = 0 ∧ ((UInt8.ofNat q &&& 0x7F) ||| 0x80) &&& 0x80 ≠ 0 ∧
    ((UInt8.ofNat q &&& 0x7F) &&& 0x7F).toNat = q ∧
    (((UInt8.ofNat q &&& 0x7F) ||| 0x80) &&& 0x7F).toNat = q := by
  decide +kernel

/-- Both the length and the continuation flag come back out of the two bytes. -/
theorem encodeMetadataLength_recovered {length : Nat} (h : length ≤ metadataChunkMaxSize)
    (continuation : Bool) :
    ∃ low high, encodeMetadataLength length continuation = some (low, high) ∧
      (preprocessContinuation [low, high]).1 = continuation ∧
      (uint32Of (preprocessContinuation [low, high]).2).toNat = length := by
  have hmax : metadataChunkMaxSize = 32767 := rfl
  obtain ⟨hclear, hset, hplain, hmasked⟩ := highByte_cases (length / 256) (by omega)
  have hlow : (UInt8.ofNat length).toNat = length % 256 := UInt8.toNat_ofNat'
  have hpair : length = length % 256 + 256 * (length / 256) := by omega
  have hbig : ¬((length : Int) > metadataChunkMaxSize) := by omega
  refine ⟨UInt8.ofNat length, if continuation then (UInt8.ofNat (length / 256) &&& 0x7F) ||| 0x80
    else UInt8.ofNat (length / 256) &&& 0x7F, ?_, ?_, ?_⟩
  · rw [encodeMetadataLength, if_neg hbig, if_neg (by omega)]
    rfl
  · cases continuation
    · simp [preprocessContinuation, hclear]
    · simp [preprocessContinuation, hset]
  · cases continuation
    · simp only [preprocessContinuation, List.reverse_cons, List.reverse_nil, List.nil_append,
        List.singleton_append, uint32Of_pair, Bool.false_eq_true, if_false, hplain, hlow]
      exact hpair.symm
    · simp only [preprocessContinuation, List.reverse_cons, List.reverse_nil, List.nil_append,
        List.singleton_append, uint32Of_pair, if_true, hmasked, hlow]
      exact hpair.symm

/-! ## Walking the fields -/

/-- One field is read, and then the others. -/
theorem unmarshal_cons {field : Field β σ} {fields : List (Field β σ)} {s s' : Reader β} {v v' : σ}
    (h : field.read s v = ⟨v', s', none⟩) :
    unmarshal (field :: fields) s v = unmarshal fields s' v' := by
  rw [unmarshal, h]

/-- What was read without an error was so field by field. -/
theorem unmarshal_cons_ok {field : Field β σ} {fields : List (Field β σ)} {s s' : Reader β}
    {v v' : σ} (h : unmarshal (field :: fields) s v = ⟨v', s', none⟩) :
    ∃ v₁ s₁, field.read s v = ⟨v₁, s₁, none⟩ ∧ unmarshal fields s₁ v₁ = ⟨v', s', none⟩ := by
  rw [unmarshal] at h
  cases herr : (field.read s v).err with
  | some e =>
    simp only [herr] at h
    rw [h] at herr
    exact absurd herr (by simp)
  | none =>
    simp only [herr] at h
    exact ⟨_, _, by rw [← herr], h⟩

/-- A nested structure is read by its own fields. -/
theorem structField_read {fields : List (Field β τ)} {get : σ → τ} {set : τ → σ → σ}
    {s s' : Reader β} {v : σ} {inner : τ} (h : unmarshal fields s (get v) = ⟨inner, s', none⟩) :
    (structField fields get set).read s v = ⟨set inner v, s', none⟩ := by
  simp only [structField, h]

/-- A slice of structures is read by its loop. -/
theorem sliceField_read {fields : List (Field β τ)} {zero : τ} {get : σ → List τ}
    {set : List τ → σ → σ} {s s' : Reader β} {v : σ} {elements : List τ}
    (h : sliceLoop fields zero s.rest.length s (get v) = ⟨elements, s', none⟩) :
    (sliceField fields zero get set).read s v = ⟨set elements v, s', none⟩ := by
  simp only [sliceField, h]

/-- The same from a read that went well, -/
theorem structField_ok {fields : List (Field β τ)} {get : σ → τ} {set : τ → σ → σ} {s s' : Reader β}
    {v v' : σ} (h : (structField fields get set).read s v = ⟨v', s', none⟩) :
    ∃ inner, unmarshal fields s (get v) = ⟨inner, s', none⟩ ∧ v' = set inner v := by
  obtain ⟨hv, hs, herr⟩ := Outcome.mk.inj h
  exact ⟨_, by rw [← hs, ← herr], hv.symm⟩

/-! ## The slice loop, one turn at a time -/

/-- The loop ends at a structure without a continuation bit -/
theorem sliceLoop_stop {fields : List (Field β τ)} {zero v : τ} {fuel : Nat} {s s' : Reader β}
    {elements : List τ} (h : unmarshal fields s zero = ⟨v, s', none⟩)
    (hind : s'.lengthContinueIndicator = false) :
    sliceLoop fields zero fuel s elements = ⟨elements ++ [v], s', none⟩ := by
  cases fuel <;> simp only [sliceLoop, h, hind, if_true]

/-- and goes on at one with it. -/
theorem sliceLoop_next {fields : List (Field β τ)} {zero v : τ} {fuel : Nat} {s s' : Reader β}
    {elements : List τ} (h : unmarshal fields s zero = ⟨v, s', none⟩)
    (hind : s'.lengthContinueIndicator = true) :
    sliceLoop fields zero (fuel + 1) s elements
      = sliceLoop fields zero fuel s' (elements ++ [v]) := by
  rw [sliceLoop]
  simp only [h, hind, Bool.true_eq_false, if_false]

/-- and that of a slice. -/
theorem sliceField_ok {fields : List (Field β τ)} {zero : τ} {get : σ → List τ}
    {set : List τ → σ → σ} {s s' : Reader β} {v v' : σ}
    (h : (sliceField fields zero get set).read s v = ⟨v', s', none⟩) :
    ∃ elements, sliceLoop fields zero s.rest.length s (get v) = ⟨elements, s', none⟩ ∧
      v' = set elements v := by
  obtain ⟨hv, hs, herr⟩ := Outcome.mk.inj h
  exact ⟨_, by rw [← hs, ← herr], hv.symm⟩

/-- One turn of a slice loop that succeeds. -/
theorem sliceLoop_ok {fields : List (Field β τ)} {zero : τ} {fuel : Nat} {s s' : Reader β}
    {elements elements' : List τ}
    (h : sliceLoop fields zero fuel s elements = ⟨elements', s', none⟩) :
    ∃ v s₁, unmarshal fields s zero = ⟨v, s₁, none⟩ ∧
      ((s₁.lengthContinueIndicator = false ∧ elements' = elements ++ [v] ∧ s' = s₁) ∨
        s₁.lengthContinueIndicator = true ∧ ∃ fuel', fuel = fuel' + 1 ∧
          sliceLoop fields zero fuel' s₁ (elements ++ [v]) = ⟨elements', s', none⟩) := by
  rcases hr : unmarshal fields s zero with ⟨v, s₁, err⟩
  cases err with
  | some e =>
    cases fuel <;> simp [sliceLoop, hr] at h
  | none =>
    refine ⟨v, s₁, rfl, ?_⟩
    cases hind : s₁.lengthContinueIndicator with
    | false =>
      rw [sliceLoop_stop hr hind] at h
      obtain ⟨rfl, rfl⟩ := Outcome.mk.inj h |>.imp_right And.left
      exact .inl ⟨rfl, rfl, rfl⟩
    | true =>
      cases fuel with
      | zero => simp [sliceLoop, hr, hind] at h
      | succ fuel =>
        rw [sliceLoop_next hr hind] at h
        exact .inr ⟨rfl, fuel, rfl, h⟩

/-! ## Reading what is there -/

section

variable [Letter β]

@[simp] theorem Reader.note_rest (s : Reader β) (tags : Tags) (n : Nat) (bytes : Bytes) :
    (s.note tags n bytes).rest = s.rest := by
  obtain ⟨lengthFor, lengthContinue, subtractFrom⟩ := tags
  cases lengthFor <;> cases lengthContinue <;> cases subtractFrom <;> rfl

/-! The tags of the package's fields, one by one. -/

@[simp] theorem Reader.note_untagged (s : Reader β) (n : Nat) (bytes : Bytes) :
    s.note {} n bytes = s := rfl

/-- The tag `lengthFor` keeps a length, -/
theorem Reader.note_lengthFor (s : Reader β) (name : FieldName) (n : Nat) (bytes : Bytes) :
    s.note { lengthFor := some name } n bytes = s.setLength name (uint32Of bytes) := rfl

/-- with the continuation bit taken off, -/
theorem Reader.note_lengthContinue (s : Reader β) (name : FieldName) (n : Nat) (bytes : Bytes) :
    s.note { lengthFor := some name, lengthContinue := true } n bytes
      = { s with lengthContinueIndicator := (preprocessContinuation bytes).1 }.setLength name
          (uint32Of (preprocessContinuation bytes).2) := rfl

/-- and `subtractFrom` takes the width of the field from one. -/
theorem Reader.note_subtractFrom (s : Reader β) (name : FieldName) (n : Nat) (bytes : Bytes) :
    s.note { subtractFrom := some name } n bytes
      = s.setLength name (s.lengthMap name - UInt32.ofNat n) := rfl

@[simp] theorem Reader.setLength_rest (s : Reader β) (name : FieldName) (length : UInt32) :
    (s.setLength name length).rest = s.rest := rfl

@[simp] theorem Reader.setLength_same (s : Reader β) (name : FieldName) (length : UInt32) :
    (s.setLength name length).lengthMap name = length := if_pos rfl

@[simp] theorem Reader.setLength_lengthContinueIndicator (s : Reader β) (name : FieldName)
    (length : UInt32) :
    (s.setLength name length).lengthContinueIndicator = s.lengthContinueIndicator := rfl

/-- A `Read` that finds all its bytes. -/
theorem Reader.read_append {s : Reader β} {n : Nat} {bs tail : List β} (h : s.rest = bs ++ tail)
    (hlen : bs.length = n) : s.read n = some (⟨bs, hlen⟩, { s with rest := tail }) := by
  subst hlen
  have hne : ¬(bs.length ≠ 0 ∧ s.rest.length = 0) := by
    rw [h, List.length_append]
    omega
  have hpad : s.rest.take bs.length ++ List.replicate (bs.length - s.rest.length) (ofByte 0) = bs := by
    rw [h, List.take_left, List.length_append, Nat.sub_eq_zero_of_le (Nat.le_add_right _ _),
      List.replicate_zero, List.append_nil]
  have hdrop : s.rest.drop bs.length = tail := by rw [h, List.drop_left]
  rw [Reader.read, if_neg hne]
  simp only [hpad, hdrop]

/-- An array is read from enough bytes, -/
theorem arrayField_read {n : Nat} {tags : Tags} {get : σ → Arr β n} {set : Arr β n → σ → σ}
    {s : Reader β} {v : σ} {tail : List β} (bs : Arr β n) (h : s.rest = bs.1 ++ tail) :
    (arrayField n tags get set).read s v
      = ⟨set bs v, { s with rest := tail }.note tags n (bytesOf bs.1), none⟩ := by
  simp only [arrayField, Reader.read_append h bs.2]

/-- and so is a slice of bytes whose length was kept. -/
theorem bytesField_read {name : FieldName} {get : σ → List β} {set : List β → σ → σ}
    {s : Reader β} {v : σ} {tail : List β} (bs : List β) (h : s.rest = bs ++ tail)
    (hlen : bs.length = (s.lengthMap name).toNat) :
    (bytesField name get set).read s v = ⟨set bs v, { s with rest := tail }, none⟩ := by
  simp only [bytesField, Reader.read_append h hlen]

/-! ## What a successful read has seen -/

/-- A `Read` of `n` letters at `file` left `rest`: it took all of `bs`, or only the last letters of the
    file and zero bytes behind them. -/
def Took (n : Nat) (file bs rest : List β) : Prop :=
  (bs.length = n ∧ file = bs ++ rest) ∨
  (file ≠ [] ∧ file.length < n ∧ rest = [] ∧
    bs = file ++ List.replicate (n - file.length) (ofByte 0))

/-- A read takes what is asked for or what is left. -/
theorem Reader.took_of_read {s s' : Reader β} {n : Nat} {bs : Arr β n}
    (h : s.read n = some (bs, s')) :
    Took n s.rest bs.1 s'.rest ∧ s' = { s with rest := s'.rest } := by
  rw [Reader.read, Option.ite_none_left_eq_some] at h
  obtain ⟨hcond, h⟩ := h
  obtain ⟨rfl, rfl⟩ := Prod.mk.inj (Option.some.inj h)
  refine ⟨?_, rfl⟩
  by_cases hn : n ≤ s.rest.length
  · have hzero : n - s.rest.length = 0 := by omega
    refine .inl ⟨?_, ?_⟩
    · simp only [hzero, List.replicate_zero, List.append_nil]
      exact List.length_take_of_le hn
    · simp only [hzero, List.replicate_zero, List.append_nil]
      exact (List.take_append_drop n s.rest).symm
  · have hne : s.rest ≠ [] := by
      intro h
      exact hcond ⟨by omega, by rw [h]; rfl⟩
    have hle := Nat.le_of_not_le hn
    refine .inr ⟨hne, Nat.lt_of_not_le hn, List.drop_of_length_le hle, ?_⟩
    simp only [List.take_of_length_le hle]

/-- A `Read` that finds only a part of its bytes. -/
theorem Reader.read_short {s : Reader β} {n : Nat} (hne : s.rest ≠ []) (hlt : s.rest.length < n) :
    ∃ bs, s.read n = some (bs, { s with rest := [] }) ∧
      bs.1 = s.rest ++ List.replicate (n - s.rest.length) (ofByte 0) := by
  have hpos := List.length_pos_iff.mpr hne
  have hdrop : s.rest.drop n = [] := List.drop_of_length_le (Nat.le_of_lt hlt)
  have htake : s.rest.take n = s.rest := List.take_of_length_le (Nat.le_of_lt hlt)
  rw [Reader.read, if_neg (by omega)]
  refine ⟨_, by rw [hdrop], ?_⟩
  simp only [htake]

/-- If something is left behind it, it took all it asked for. -/
theorem Took.complete_of_rest {n : Nat} {file bs rest : List β} (h : Took n file bs rest)
    (hrest : rest ≠ []) : bs.length = n ∧ file = bs ++ rest := by
  rcases h with hcomplete | ⟨-, -, hnil, -⟩
  · exact hcomplete
  · exact absurd hnil hrest

/-- Who reads some bytes is not at the end. -/
theorem Took.file_ne_nil {n : Nat} {file bs rest : List β} (h : Took n file bs rest) (hn : 0 < n) :
    file ≠ [] := by
  rcases h with ⟨hlen, rfl⟩ | ⟨hne, -⟩
  · intro hnil
    have hzero := congrArg List.length hnil
    rw [List.length_append, List.length_nil] at hzero
    omega
  · exact hne

/-- At the end only fields of no width are read. -/
theorem Took.rest_eq_nil {n : Nat} {bs rest : List β} (h : Took n [] bs rest) : n = 0 ∧ rest = [] := by
  rcases h with ⟨hlen, hnil⟩ | ⟨hne, -⟩
  · obtain ⟨rfl, rfl⟩ := List.append_eq_nil_iff.mp hnil.symm
    exact ⟨hlen.symm, rfl⟩
  · exact absurd rfl hne

/-- What a good read of an array says of the file, -/
theorem arrayField_ok {n : Nat} {tags : Tags} {get : σ → Arr β n} {set : Arr β n → σ → σ}
    {s s' : Reader β} {v v' : σ} (h : (arrayField n tags get set).read s v = ⟨v', s', none⟩) :
    ∃ (bs : Arr β n) (rest : List β), Took n s.rest bs.1 rest ∧ v' = set bs v ∧
      s' = { s with rest := rest }.note tags n (bytesOf bs.1) := by
  simp only [arrayField] at h
  cases hread : s.read n with
  | none => simp [hread] at h
  | some p =>
    obtain ⟨bs, s₁⟩ := p
    obtain ⟨htook, heq⟩ := Reader.took_of_read hread
    simp only [hread, Outcome.mk.injEq, and_true] at h
    refine ⟨bs, s₁.rest, htook, h.1.symm, ?_⟩
    rw [← heq]
    exact h.2.symm

/-- and of a slice of bytes. -/
theorem bytesField_ok {name : FieldName} {get : σ → List β} {set : List β → σ → σ}
    {s s' : Reader β} {v v' : σ} (h : (bytesField name get set).read s v = ⟨v', s', none⟩) :
    ∃ bs rest, Took (s.lengthMap name).toNat s.rest bs rest ∧ v' = set bs v ∧
      s' = { s with rest := rest } := by
  simp only [bytesField] at h
  cases hread : s.read (s.lengthMap name).toNat with
  | none => simp [hread] at h
  | some p =>
    obtain ⟨bs, s₁⟩ := p
    obtain ⟨htook, heq⟩ := Reader.took_of_read hread
    simp only [hread, Outcome.mk.injEq, and_true] at h
    exact ⟨bs.1, s₁.rest, htook, h.1.symm, h.2 ▸ heq⟩

/-- A short read of an array leaves zeros at its end, -/
theorem arrayField_short {n : Nat} (tags : Tags) (get : σ → Arr β n) (set : Arr β n → σ → σ)
    {s : Reader β} (hne : s.rest ≠ []) (hlt : s.rest.length < n) (v : σ) :
    ∃ bs : Arr β n, bs.1 = s.rest ++ List.replicate (n - s.rest.length) (ofByte 0) ∧
      (arrayField n tags get set).read s v
        = ⟨set bs v, { s with rest := [] }.note tags n (bytesOf bs.1), none⟩ := by
  obtain ⟨bs, hread, hbs⟩ := Reader.read_short hne hlt
  exact ⟨bs, hbs, by simp only [arrayField, hread]⟩

/-- and so does one of a slice. -/
theorem bytesField_short {name : FieldName} (get : σ → List β) (set : List β → σ → σ)
    {s : Reader β} (hne : s.rest ≠ []) (hlt : s.rest.length < (s.lengthMap name).toNat) (v : σ) :
    ∃ bs : List β, bs.length = (s.lengthMap name).toNat ∧
      (bytesField name get set).read s v = ⟨set bs v, { s with rest := [] }, none⟩ := by
  obtain ⟨bs, hread, -⟩ := Reader.read_short hne hlt
  exact ⟨bs.1, bs.2, by simp only [bytesField, hread]⟩

/-! ## Loops that end -/

/-- A field of bytes is one read, -/
theorem arrayField_not_endless (n : Nat) (tags : Tags) (get : σ → Arr β n) (set : Arr β n → σ → σ)
    (s : Reader β) (v : σ) : ((arrayField n tags get set).read s v).err ≠ some .endless := by
  simp only [arrayField]
  cases s.read n <;> simp

/-- of either kind, -/
theorem bytesField_not_endless (name : FieldName) (get : σ → List β) (set : List β → σ → σ)
    (s : Reader β) (v : σ) : ((bytesField name get set).read s v).err ≠ some .endless := by
  simp only [bytesField]
  cases s.read (s.lengthMap name).toNat <;> simp

omit [Letter β] in
/-- so a structure of such fields is read in as many. -/
theorem unmarshal_not_endless {fields : List (Field β σ)}
    (h : ∀ field ∈ fields, ∀ s v, (field.read s v).err ≠ some .endless) (s : Reader β) (v : σ) :
    (unmarshal fields s v).err ≠ some .endless := by
  induction fields generalizing s v with
  | nil => simp [unmarshal]
  | cons field fields ih =>
    have hfield := h field List.mem_cons_self s v
    rw [unmarshal]
    cases herr : (field.read s v).err with
    | some e => simpa only [herr] using hfield
    | none => exact ih (fun f hf => h f (List.mem_cons_of_mem _ hf)) _ _

omit [Letter β] in
/-- A loop whose turns all take letters ends before its fuel does. -/
theorem sliceLoop_not_endless {fields : List (Field β τ)} {zero : τ}
    (hfields : ∀ s v, (unmarshal fields s v).err ≠ some .endless)
    (htakes : ∀ s v v' s', unmarshal fields s v = ⟨v', s', none⟩ → s'.rest.length < s.rest.length)
    {fuel : Nat} {s : Reader β} (hfuel : s.rest.length ≤ fuel) (elements : List τ) :
    (sliceLoop fields zero fuel s elements).err ≠ some .endless := by
  induction fuel generalizing s elements with
  | zero =>
    rcases hr : unmarshal fields s zero with ⟨v, s', _ | e⟩
    · have := htakes s zero v s' hr
      omega
    · have herr := hfields s zero
      simp only [hr] at herr
      simpa only [sliceLoop, hr] using herr
  | succ fuel ih =>
    rcases hr : unmarshal fields s zero with ⟨v, s', _ | e⟩
    · have hlt := htakes s zero v s' hr
      cases hind : s'.lengthContinueIndicator with
      | false => simp [sliceLoop, hr, hind]
      | true =>
        rw [sliceLoop_next hr hind]
        exact ih (by omega) _
    · have herr := hfields s zero
      simp only [hr] at herr
      simpa only [sliceLoop, hr] using herr

end

end OpenNHP.Core.Ztdo
