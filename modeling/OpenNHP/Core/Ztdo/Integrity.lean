/-
  What a ztdo file proves about its origin, with the hash, the HMAC and the AEAD as free symbols.

  THE PROGRAM.  A file is signed with an HMAC under the data key, and its payloads are sealed with it.  The reader
  checks the signature only under the flag in the header, which it takes from the file itself, and no ciphertext
  depends on the flag.

  THE SPECIFICATION.  A file accepted under the signature flag is the file of a run.  Without the flag the
  payloads are authentic one by one (`integrity`), and any of them are accepted in any order and number under any
  header (`rearranged_accepted`).

  THE CRUX.  Files are lists of symbolic letters (`SymbolicBytes`): bytes, and the bytes of hashes, tags and
  ciphertexts, which carry the term they belong to.  The byte value of such a letter, which the reader needs for
  lengths and flags, is arbitrary (`Reading`).  So a file that has a letter of a signature is a file in which
  somebody with the key has put it, and a signature tells the sections it is over (`mixSections_injective`).

  1. A `World` is a list of encryptions under one data key, each with a header and IVs that were public before; the
     attacker writes files from what was published.
  2. `World.safe` is its invariant: the key stays secret, and what carries it is a run's.
  3. `World.signed` and `World.sealed` read off it who made a signature and who a ciphertext.
-/
import OpenNHP.Core.Ztdo.Accepted
import OpenNHP.Core.Ztdo.Reuse
import OpenNHP.Lib.SymbolicBytes

namespace OpenNHP.Core.Ztdo

open SymbolicBytes

/-! ## Symbolic files -/

/-- Letters of ztdo files: a ciphertext is made by a block cipher with a tag size. -/
abbrev Sym : Type := Symbol (BlockCipher × Nat)

/-- The byte values of the letters that are not plain bytes. -/
class Reading where
  value : Sym → UInt8

instance [Reading] : Letter Sym where
  ofByte := .byte
  byteOf
    | .byte b => b
    | s => Reading.value s
  byteOf_ofByte _ := rfl

noncomputable instance : DecidableEq Sym := Classical.decEq Sym

/-- The ciphertext of a text, letter by letter. -/
def sealedLetters (block : CipherBlock Sym) (tagSize : Nat) (nonce text ad : List Sym) : List Sym :=
  (List.range (text.length + tagSize)).map (.sealed (block.cipher, tagSize) block.key nonce text ad)

open Classical in
/-- Hash, HMAC and AEAD as free symbols. -/
noncomputable def symbolicCrypto : FileCrypto Sym where
  sha256 input := ⟨(List.range signatureLenSize).map (.hash input), by simp⟩
  hmacSha256 key input := ⟨(List.range signatureLenSize).map (.mac key input), by simp⟩
  gcmSeal := sealedLetters
  gcmOpen block tagSize nonce cipherText ad :=
    if h : ∃ text, cipherText = sealedLetters block tagSize nonce text ad then some h.choose else none

/-- A ciphertext tells its plaintext. -/
theorem sealedLetters_injective {block : CipherBlock Sym} {tagSize : Nat} {nonce text text' ad : List Sym}
    (h : sealedLetters block tagSize nonce text ad = sealedLetters block tagSize nonce text' ad) :
    text = text' := by
  have hlen := congrArg List.length h
  simp only [sealedLetters, List.length_map, List.length_range] at hlen
  cases htext : text with
  | nil =>
    have hnil : text'.length = 0 := by
      rw [htext, List.length_nil] at hlen
      omega
    exact (List.length_eq_zero_iff.mp hnil).symm
  | cons x xs =>
    have hhead := congrArg List.head? h
    simp only [sealedLetters, ← hlen] at hhead
    rw [htext, List.length_cons, Nat.add_right_comm, List.range_succ_eq_map] at hhead
    simp only [List.map_cons, List.head?_cons, Option.some.injEq, Symbol.sealed.injEq] at hhead
    exact hhead.2.2.2.1

/-- The symbols keep the laws. -/
theorem symbolicCrypto_lawful : LawfulFileCrypto symbolicCrypto where
  gcmOpen_gcmSeal block tagSize nonce text ad := by
    have hex : ∃ text', sealedLetters block tagSize nonce text ad
        = sealedLetters block tagSize nonce text' ad := ⟨text, rfl⟩
    rw [symbolicCrypto]
    simp only [dif_pos hex, Option.some.injEq]
    exact (sealedLetters_injective hex.choose_spec).symm
  length_gcmSeal block tagSize nonce text ad := by
    simp [symbolicCrypto, sealedLetters]
  length_of_gcmOpen block tagSize nonce cipherText ad text h := by
    simp only [symbolicCrypto] at h
    split_ifs at h with hex
    have hlen := congrArg List.length hex.choose_spec
    rw [Option.some.inj h] at hlen
    rw [hlen, sealedLetters, List.length_map, List.length_range]

/-! ## Letters that carry a term -/

/-- Every ciphertext has a letter that names what it is. -/
theorem sealedLetters_head (block : CipherBlock Sym) {tagSize : Nat} (htag : 0 < tagSize)
    (nonce text ad : List Sym) :
    .sealed (block.cipher, tagSize) block.key nonce text ad 0
      ∈ sealedLetters block tagSize nonce text ad :=
  List.mem_map.mpr ⟨0, List.mem_range.mpr (by omega), rfl⟩

/-- Only a ciphertext of the AEAD opens. -/
theorem gcmOpen_symbolic {block : CipherBlock Sym} {tagSize : Nat} {nonce cipherText ad text : List Sym}
    (h : symbolicCrypto.gcmOpen block tagSize nonce cipherText ad = some text) :
    ∃ text', cipherText = sealedLetters block tagSize nonce text' ad := by
  simp only [symbolicCrypto] at h
  split_ifs at h with hex
  exact hex

/-- A hash tells its input, -/
theorem sha256_injective {a b : List Sym} (h : symbolicCrypto.sha256 a = symbolicCrypto.sha256 b) :
    a = b := by
  have hhead := congrArg (fun l : Arr Sym signatureLenSize => l.1.head?) h
  simpa [symbolicCrypto, signatureLenSize, List.range_succ_eq_map] using hhead

/-- and a signature names its key. -/
theorem hmacSha256_head (key input : List Sym) :
    .mac key input 0 ∈ (symbolicCrypto.hmacSha256 key input).1 :=
  List.mem_map.mpr ⟨0, List.mem_range.mpr (by decide), rfl⟩

/-- Every AEAD of an unknown data key has an unknown key. -/
theorem secretKey_of_aead {mode : SymmetricCipherMode} {key : List Sym} (hkey : SecretKey (key.take 16))
    {block : CipherBlock Sym} (h : SymmetricCipherMode.aead mode key = .ok block) :
    SecretKey block.key := by
  have hblock := (SymmetricCipherMode.aead_eq_ok_iff.mp h).1
  unfold SymmetricCipherMode.newCipherBlock at hblock
  split_ifs at hblock
  · obtain rfl := Except.ok.inj hblock
    exact hkey.of_take
  · obtain rfl := Except.ok.inj hblock
    exact hkey

/-! ## Signature states -/

/-- A running signature tells what it took in last and what it was before. -/
theorem mixHash_injective {sig sig' : ZtdoSignature Sym} {buf buf' : List Sym}
    (h : sig.mixHash symbolicCrypto buf = sig'.mixHash symbolicCrypto buf') :
    sig = sig' ∧ buf = buf' := by
  have hinput := sha256_injective (ZtdoSignature.mk.inj h)
  obtain ⟨hsig, hbuf⟩ := List.append_inj hinput (by rw [sig.signature.2, sig'.signature.2])
  exact ⟨congrArg ZtdoSignature.mk (Subtype.ext hsig), hbuf⟩

section

variable [Reading]

/-- The signature of a value that took no part of a file: fresh, or the tag of its last file. -/
def Unread (sig : ZtdoSignature Sym) : Prop :=
  sig = .new ∨ ∃ key input, sig.signature = symbolicCrypto.hmacSha256 key input

/-- A hash is not a signature to start from. -/
theorem Unread.ne_mixHash {sig : ZtdoSignature Sym} (h : Unread sig) (sig' : ZtdoSignature Sym)
    (buf : List Sym) : sig'.mixHash symbolicCrypto buf ≠ sig := by
  intro heq
  have hhead := congrArg (fun sig : ZtdoSignature Sym => sig.signature.1.head?) heq
  rcases h with rfl | ⟨key, input, hsig⟩
  · simp [ZtdoSignature.mixHash, symbolicCrypto, ZtdoSignature.new, Arr.zero, signatureLenSize, ofByte,
      List.range_succ_eq_map] at hhead
  · simp [ZtdoSignature.mixHash, hsig, symbolicCrypto, signatureLenSize, List.range_succ_eq_map] at hhead

/-- The running hash from a fresh signature says where a value began and what it went over. -/
theorem mixSections_injective {sig : ZtdoSignature Sym} (hsig : Unread sig) {a b : List (List Sym)}
    (h : mixSections symbolicCrypto .new a = mixSections symbolicCrypto sig b) :
    sig = .new ∧ a = b := by
  have hnew : Unread (.new : ZtdoSignature Sym) := .inl rfl
  induction a using List.reverseRecOn generalizing b with
  | nil =>
    induction b using List.reverseRecOn with
    | nil => exact ⟨h.symm, rfl⟩
    | append_singleton b y =>
      rw [mixSections, mixSections, List.foldl_append] at h
      exact absurd h.symm (hnew.ne_mixHash _ y)
  | append_singleton a x ih =>
    rw [mixSections, List.foldl_append] at h
    induction b using List.reverseRecOn with
    | nil => exact absurd h (hsig.ne_mixHash _ x)
    | append_singleton b y =>
      rw [mixSections, List.foldl_append] at h
      obtain ⟨hinit, rfl⟩ := mixHash_injective h
      obtain ⟨hstart, rfl⟩ := ih hinit
      exact ⟨hstart, rfl⟩

/-! ## The world -/

/-- Calls that take something from a file. -/
def ZtdoCall.Reads {β : Type} : ZtdoCall β → Prop
  | .parseHeader .. | .decryptZtdoFile .. => True
  | .setNhpServer _ | .setMetadata _ | .setCipherConfig .. | .encryptZtdoFile .. => False

/-- A `Ztdo` as a data owner has it: made anew, configured and used to write files, in any order. -/
def Unparsed (z : Ztdo Sym) : Prop :=
  ∃ uuid, ∃ calls : List (ZtdoCall Sym), (∀ call ∈ calls, ¬call.Reads) ∧
    z = calls.foldl (Ztdo.call symbolicCrypto) (Ztdo.new uuid)

/-- Such a value has a complete header and a signature it made itself. -/
theorem Unparsed.complete_unread {z : Ztdo Sym} (hz : Unparsed z) :
    z.header.Complete ∧ Unread z.signature := by
  obtain ⟨uuid, calls, hcalls, rfl⟩ := hz
  induction calls using List.reverseRecOn with
  | nil => exact ⟨⟨ZtdoHeader.new_serverFits uuid, .inl rfl⟩, .inl rfl⟩
  | append_singleton calls call ih =>
    obtain ⟨hc, hsig⟩ := ih fun c hmem => hcalls c (List.mem_append_left _ hmem)
    have hcall := hcalls call (List.mem_append_right _ List.mem_cons_self)
    rw [List.foldl_append, List.foldl_cons, List.foldl_nil]
    cases call with
    | setNhpServer server =>
      obtain ⟨hc', hsig'⟩ := call_configures symbolicCrypto hc (.setNhpServer server) trivial
      exact ⟨hc', hsig'.symm ▸ hsig⟩
    | setMetadata metadata =>
      obtain ⟨hc', hsig'⟩ := call_configures symbolicCrypto hc (.setMetadata metadata) trivial
      exact ⟨hc', hsig'.symm ▸ hsig⟩
    | setCipherConfig => exact ⟨hc, hsig⟩
    | encryptZtdoFile draws plaintext key ad =>
      rw [Ztdo.call, encryptZtdoFile_file]
      exact ⟨⟨hc.forFile.server, .inr hc.forFile.metadata⟩, .inr ⟨key, _, rfl⟩⟩
    | parseHeader | decryptZtdoFile => exact absurd trivial hcall

/-- A run of `EncryptZtdoFile` under the data key. -/
structure EncryptRun where
  z : Ztdo Sym
  draws : Draws Sym
  plaintext : List Sym
  ad : List Sym

namespace EncryptRun

variable (r : EncryptRun) (key : List Sym)

/-- The header that a run writes. -/
def header : ZtdoHeader Sym := r.z.header.forFile

/-- Its payloads. -/
noncomputable def payloads : List (ZtdoPayload Sym) :=
  Ztdo.payloads symbolicCrypto r.header.getCipherMode key r.ad r.draws r.plaintext

/-- The file. -/
noncomputable def file : List Sym :=
  (encryptZtdoFile symbolicCrypto r.z r.draws r.plaintext key r.ad).file

/-- The hash that the signature of the file is the HMAC of. -/
noncomputable def digest : ZtdoSignature Sym :=
  mixSections symbolicCrypto r.z.signature
    (marshal ZtdoHeader.fields r.header :: (r.payloads key).map (marshal ZtdoPayload.fields))

/-- It is these, with the signature behind them. -/
theorem file_eq : r.file key = marshal ZtdoHeader.fields r.header ++
    (payloadLetters (r.payloads key) ++ ((r.digest key).sign symbolicCrypto key).signature.1) := by
  have hfile := congrArg Encryption.file
    (encryptZtdoFile_file symbolicCrypto r.z r.draws r.plaintext key r.ad)
  have hdigest : r.digest key
      = mixPayloads symbolicCrypto (r.z.signature.mixHash symbolicCrypto
          (marshal ZtdoHeader.fields r.header)) (r.payloads key) :=
    mixSections_map symbolicCrypto _ _
  rw [hdigest]
  exact hfile

end EncryptRun

/-- What the files of the runs show. -/
def published (key : List Sym) (runs : List EncryptRun) : Set Sym := {s | ∃ r ∈ runs, s ∈ r.file key}

/-- Runs under a data key, the last one first.  Headers and IVs may be chosen by an attacker that has
    seen the files before, the plaintexts and the associated data are any. -/
inductive World (key : List Sym) : List EncryptRun → Prop
  | nil : World key []
  | cons {runs : List EncryptRun} {r : EncryptRun} (h : World key runs) (hz : Unparsed r.z)
      (hheader : ∀ s ∈ marshal ZtdoHeader.fields r.header, Known (published key runs) s)
      (hiv : ∀ i, ∀ s ∈ (r.draws.iv i).1, Known (published key runs) s) : World key (r :: runs)

/-- The MACs and the ciphertexts of the runs. -/
def honest (key : List Sym) (runs : List EncryptRun) : Honest (BlockCipher × Nat) where
  mac k input := k = key ∧ ∃ r ∈ runs, input = (r.digest key).signature.1
  sealed g k nonce text ad := ∃ r ∈ runs, ad = r.ad ∧ ∃ block,
    SymmetricCipherMode.aead r.header.getCipherMode key = .ok block ∧
    g = (block.cipher, SymmetricCipherMode.tagSize r.header.getCipherMode) ∧ k = block.key ∧
    ∃ chunk ∈ chunks r.draws 0 r.plaintext, nonce = chunk.2.1 ∧ text = chunk.1

/-- The letters of a payload just made: bytes of its length, its IV, and a ciphertext if there is one. -/
theorem sealChunk_letters {mode : SymmetricCipherMode} {key ad chunk : List Sym} {iv : Arr Sym ivSize}
    {s : Sym}
    (hs : s ∈ marshal ZtdoPayload.fields (sealChunk symbolicCrypto mode key ad chunk iv)) :
    (∃ b, s = .byte b) ∨ s ∈ iv.1 ∨ ∃ block, SymmetricCipherMode.aead mode key = .ok block ∧
      ∃ i, s = .sealed (block.cipher, SymmetricCipherMode.tagSize mode) block.key iv.1 chunk ad i := by
  rw [marshal_payload, List.mem_append, List.mem_append] at hs
  have hlength : ∀ s ∈ (sealChunk symbolicCrypto mode key ad chunk iv).length.1, ∃ b, s = .byte b := by
    intro s hs
    obtain ⟨b, -, rfl⟩ := List.mem_map.mp hs
    exact ⟨b, rfl⟩
  have hcontent : (sealChunk symbolicCrypto mode key ad chunk iv).content
      = ((ZtdoPayload.new iv).setCipherText symbolicCrypto mode key ad chunk).1.content := rfl
  rw [hcontent, ZtdoPayload.setCipherText, ZtdoPayload.new, SymmetricCipherMode.encrypt] at hs
  cases haead : SymmetricCipherMode.aead mode key with
  | error e =>
    simp only [haead, bind, Except.bind, List.not_mem_nil, or_false] at hs
    rcases hs with hs | hs
    · exact .inl (hlength s hs)
    · exact .inr (.inl hs)
  | ok block =>
    simp only [haead, bind, Except.bind, pure, Except.pure] at hs
    rcases hs with hs | hs | hs
    · exact .inl (hlength s hs)
    · exact .inr (.inl hs)
    · obtain ⟨i, -, rfl⟩ := List.mem_map.mp hs
      exact .inr (.inr ⟨block, rfl, i, rfl⟩)

/-- More runs, more that is honest. -/
theorem safe_cons {key : List Sym} {runs : List EncryptRun} (r : EncryptRun) {s : Sym}
    (h : Safe (honest key runs) s) : Safe (honest key (r :: runs)) s := by
  refine h.mono ?_ ?_
  · rintro k input ⟨rfl, r', hr', rfl⟩
    exact ⟨rfl, r', List.mem_cons_of_mem _ hr', rfl⟩
  · rintro g k nonce text ad ⟨r', hr', hseal⟩
    exact ⟨r', List.mem_cons_of_mem _ hr', hseal⟩

/-- The files of a world are safe to show. -/
theorem World.safe {key : List Sym} (hkey : SecretKey (key.take 16)) {runs : List EncryptRun}
    (hw : World key runs) : ∀ s ∈ published key runs, Safe (honest key runs) s := by
  induction hw with
  | nil => exact fun s ⟨r, hr, _⟩ => absurd hr List.not_mem_nil
  | @cons runs r _ hz hheader hiv ih =>
    rintro s ⟨r', hr', hs⟩
    rcases List.mem_cons.mp hr' with rfl | hr'
    · rw [EncryptRun.file_eq, List.mem_append, List.mem_append] at hs
      rcases hs with hs | hs | hs
      · exact safe_cons _ ((hheader s hs).safe ih)
      · obtain ⟨p, hp, hs⟩ := List.mem_flatMap.mp hs
        obtain ⟨chunk, hchunk, rfl⟩ := List.mem_map.mp hp
        rcases sealChunk_letters hs with ⟨b, rfl⟩ | hs | ⟨block, haead, i, rfl⟩
        · exact .byte b
        · obtain ⟨j, hj⟩ := chunks_iv hchunk
          exact safe_cons _ ((hiv j s (hj ▸ hs)).safe ih)
        · have hsealed : (honest key (r' :: runs)).sealed
              (block.cipher, SymmetricCipherMode.tagSize r'.header.getCipherMode) block.key chunk.2.1
              chunk.1 r'.ad :=
            ⟨r', List.mem_cons_self, rfl, block, haead, rfl, rfl, chunk, hchunk, rfl, rfl⟩
          exact .guarded (secretKey_of_aead hkey haead) hsealed i
      · obtain ⟨i, -, rfl⟩ := List.mem_map.mp hs
        have hmac : (honest key (r' :: runs)).mac key (r'.digest key).signature.1 :=
          ⟨rfl, r', List.mem_cons_self, rfl⟩
        exact .mac (fun _ => hmac) i
    · exact safe_cons _ (ih s ⟨r', hr', hs⟩)

/-! ## Accepted files -/

/-- The values of a world have not been used to parse. -/
theorem World.unparsed {key : List Sym} {runs : List EncryptRun} (hw : World key runs) :
    ∀ r ∈ runs, Unparsed r.z := by
  induction hw with
  | nil => exact fun r hr => absurd hr List.not_mem_nil
  | cons _ hz _ _ ih => exact fun r hr => (List.mem_cons.mp hr).elim (fun heq => heq ▸ hz) (ih r)

/-- Payloads that open are well formed. -/
theorem wellFormed_of_forall₂ {h : ZtdoHeader Sym} {key ad : List Sym} {ps : List (ZtdoPayload Sym)}
    {texts : List (List Sym)} (hps : List.Forall₂ (Opens symbolicCrypto h key ad) ps texts) :
    ∀ p ∈ ps, p.WellFormed ∧ ∃ text, Opens symbolicCrypto h key ad p text := by
  induction hps with
  | nil => exact fun p hp => absurd hp List.not_mem_nil
  | @cons p text _ _ hopen _ ih =>
    intro p' hp'
    rcases List.mem_cons.mp hp' with rfl | hp'
    · exact ⟨hopen.1, text, hopen⟩
    · exact ih p' hp'

/-- A signature that the attacker can write is that of a run, over this header and these payloads. -/
theorem World.signed {key : List Sym} (hkey : SecretKey (key.take 16)) {runs : List EncryptRun}
    (hw : World key runs) {h : ZtdoHeader Sym} (hwf : h.WellFormed) {ad : List Sym}
    {ps : List (ZtdoPayload Sym)} {texts : List (List Sym)}
    (hps : List.Forall₂ (Opens symbolicCrypto h key ad) ps texts) (hne : ps ≠ [])
    (hknown : ∀ s ∈ (recalcSignature symbolicCrypto h ps key).signature.1,
      Known (published key runs) s) :
    ∃ r ∈ runs, r.header = h ∧ r.payloads key = ps ∧
      r.file key = marshal ZtdoHeader.fields h ++
        (payloadLetters ps ++ (recalcSignature symbolicCrypto h ps key).signature.1) := by
  have hdigest : recalcSignature symbolicCrypto h ps key
      = (mixSections symbolicCrypto .new
          (marshal ZtdoHeader.fields h :: ps.map (marshal ZtdoPayload.fields))).sign symbolicCrypto key :=
    congrArg (ZtdoSignature.sign symbolicCrypto · key) (mixSections_map symbolicCrypto _ ps).symm
  rw [hdigest] at hknown
  obtain ⟨-, r, hr, heq⟩ := (hknown _ (hmacSha256_head key _)).mac_honest (hw.safe hkey)
    (hkey.of_take)
  obtain ⟨hc, hunread⟩ := (hw.unparsed r hr).complete_unread
  have hmix : mixSections symbolicCrypto .new
      (marshal ZtdoHeader.fields h :: ps.map (marshal ZtdoPayload.fields)) = r.digest key :=
    congrArg ZtdoSignature.mk (Subtype.ext heq)
  obtain ⟨hnew, hsections⟩ := mixSections_injective hunread hmix
  obtain ⟨hletters, hmap⟩ := List.cons.inj hsections
  obtain rfl : h = r.header := header_unique hwf hc.forFile (congrArg (· ++ []) hletters)
  -- the mode has an AEAD, so the payloads of the run read back
  obtain ⟨p, hp⟩ := List.exists_mem_of_ne_nil ps hne
  obtain ⟨-, text, -, hopen⟩ := wellFormed_of_forall₂ hps p hp
  obtain ⟨block, haead, -⟩ := SymmetricCipherMode.decrypt_eq_ok hopen
  have hrun := payloads_open symbolicCrypto symbolicCrypto_lawful r.header r.ad haead
    r.draws r.plaintext
  obtain rfl : ps = r.payloads key := payloads_unique (fun p hp => (wellFormed_of_forall₂ hps p hp).1)
    (fun p hp => (wellFormed_of_forall₂ hrun p hp).1) hmap
  refine ⟨r, hr, rfl, rfl, ?_⟩
  rw [EncryptRun.file_eq, hdigest, hmix]

/-- A payload that opens and that the attacker can write has IV and ciphertext from a run. -/
theorem World.sealed {key : List Sym} (hkey : SecretKey (key.take 16)) {runs : List EncryptRun}
    (hw : World key runs) {h : ZtdoHeader Sym} {ad text : List Sym} {p : ZtdoPayload Sym}
    (hp : Opens symbolicCrypto h key ad p text)
    (hknown : ∀ s ∈ marshal ZtdoPayload.fields p, Known (published key runs) s) :
    ∃ r ∈ runs, r.header.getCipherMode = h.getCipherMode ∧ r.ad = ad ∧
      ∃ q ∈ r.payloads key, q.content = p.content := by
  obtain ⟨block, haead, hopen⟩ := SymmetricCipherMode.decrypt_eq_ok hp.2
  obtain ⟨text', hct⟩ := gcmOpen_symbolic hopen
  obtain ⟨-, htag⟩ := SymmetricCipherMode.aead_eq_ok_iff.mp haead
  have hhead := sealedLetters_head block (Nat.lt_of_lt_of_le (by decide) htag) p.content.iv.1
    text' ad
  rw [← hct] at hhead
  have hletter := hknown _ (by
    rw [marshal_payload]
    exact List.mem_append_right _ (List.mem_append_right _ hhead))
  obtain ⟨r, hr, had, block', haead', hg, hblockkey, chunk, hchunk, hiv, htext⟩ :=
    hletter.sealed_honest (hw.safe hkey) (secretKey_of_aead hkey haead)
  obtain ⟨hcipher, hsize⟩ := Prod.mk.inj hg
  have hmode : h.getCipherMode = r.header.getCipherMode :=
    SymmetricCipherMode.mode_eq_of_aead haead haead' hcipher hsize
  refine ⟨r, hr, hmode.symm, had.symm, _, List.mem_map_of_mem hchunk, ?_⟩
  have hencrypt : SymmetricCipherMode.encrypt symbolicCrypto r.header.getCipherMode key chunk.2.1
      chunk.1 r.ad = .ok p.content.cipherText := by
    rw [SymmetricCipherMode.encrypt, ← hmode, haead, ← had, ← htext, ← hiv, hct]
    rfl
  rw [sealChunk_content symbolicCrypto hencrypt]
  have hiv' : p.content.iv = chunk.2 := Subtype.ext hiv
  rw [← hiv']

/-- With the data key unknown to the attacker: a file it can write that is accepted under the signature
    flag is the file of a run, header, payloads and signature.  One accepted without the flag is made of
    payloads of the runs, each under its own cipher mode and associated data; nothing binds them to the
    header or to each other. -/
theorem integrity {key : List Sym} (hkey : SecretKey (key.take 16)) {runs : List EncryptRun}
    (hw : World key runs) {s : Reader Sym} (hknown : ∀ x ∈ s.rest, Known (published key runs) x)
    (z : Ztdo Sym) (uuid : Arr Sym objectIDSize) (ad : List Sym)
    (hok : (decryptZtdoFile symbolicCrypto z uuid s key ad).err = none) :
    ∃ h ps trailer, h.WellFormed ∧ (∀ p ∈ ps, p.WellFormed) ∧
      s.rest = marshal ZtdoHeader.fields h ++ (payloadLetters ps ++ trailer) ∧
      trailer.length = h.stopSize ∧
      (h.hasSignature = true →
        ∃ r ∈ runs, r.header = h ∧ r.payloads key = ps ∧ r.file key = s.rest) ∧
      (h.hasSignature = false → ∀ p ∈ ps, ∃ r ∈ runs,
        r.header.getCipherMode = h.getCipherMode ∧ r.ad = ad ∧
          ∃ q ∈ r.payloads key, q.content = p.content) := by
  obtain ⟨h, ps, texts, trailer, hwf, hps, hne, hrest, hstop, hverify⟩ := sections_of_decrypt hok
  refine ⟨h, ps, trailer, hwf, fun p hp => (wellFormed_of_forall₂ hps p hp).1, hrest, hstop,
    fun hsig => ?_, fun _ p hp => ?_⟩
  · obtain rfl := hverify hsig
    rw [hrest]
    refine hw.signed hkey hwf hps hne fun x hx => hknown x ?_
    rw [hrest]
    exact List.mem_append_right _ (List.mem_append_right _ hx)
  · obtain ⟨-, text, hopen⟩ := wellFormed_of_forall₂ hps p hp
    refine hw.sealed hkey hopen fun x hx => hknown x ?_
    rw [hrest]
    exact List.mem_append_right _ (List.mem_append_left _ (List.mem_flatMap.mpr ⟨p, hp, hx⟩))

/-! ## Files without the flag -/

/-- A run's header is well formed. -/
theorem EncryptRun.header_wellFormed {r : EncryptRun} (hz : Unparsed r.z) : r.header.WellFormed :=
  hz.complete_unread.1.forFile

/-- Under a header without the flag any payloads of the runs are accepted, in any order and number. -/
theorem rearranged_accepted {key ad : List Sym} (runs : List EncryptRun) {h : ZtdoHeader Sym}
    (hwf : h.WellFormed) (hsig : h.hasSignature = false) {block : CipherBlock Sym}
    (haead : SymmetricCipherMode.aead h.getCipherMode key = .ok block) {ps : List (ZtdoPayload Sym)}
    (hne : ps ≠ []) (hps : ∀ p ∈ ps, ∃ r ∈ runs, r.header.getCipherMode = h.getCipherMode ∧
      r.ad = ad ∧ p ∈ r.payloads key) {s : Reader Sym}
    (hs : s.rest = marshal ZtdoHeader.fields h ++ payloadLetters ps) (z : Ztdo Sym)
    (uuid : Arr Sym objectIDSize) :
    (decryptZtdoFile symbolicCrypto z uuid s key ad).err = none := by
  have hopens : ∀ p ∈ ps, ∃ text, Opens symbolicCrypto h key ad p text := by
    intro p hp
    obtain ⟨r, -, hmode, rfl, hp⟩ := hps p hp
    have hrun := payloads_open symbolicCrypto symbolicCrypto_lawful h r.ad haead r.draws
      r.plaintext
    rw [← hmode] at hrun
    exact (wellFormed_of_forall₂ hrun p hp).2
  choose! text htext using hopens
  have hall : List.Forall₂ (Opens symbolicCrypto h key ad) ps (ps.map text) := by
    rw [List.forall₂_map_right_iff, List.forall₂_same]
    exact htext
  rw [decrypt_unsigned symbolicCrypto hwf hsig hall hne hs]

/-- A header with the signature bit cleared. -/
def ZtdoHeader.cleared (h : ZtdoHeader Sym) : ZtdoHeader Sym :=
  { h with cipherConfig := Arr.ofBytes [h.config &&& 0x7F] rfl }

/-- Clearing the flag touches one bit. -/
theorem ZtdoHeader.config_cleared (h : ZtdoHeader Sym) : h.cleared.config = h.config &&& 0x7F :=
  byteOf_ofByte _

/-- The flag is gone, -/
theorem ZtdoHeader.hasSignature_cleared (h : ZtdoHeader Sym) : h.cleared.hasSignature = false := by
  rw [hasSignature_eq_false, config_cleared, UInt8.and_assoc]
  exact UInt8.and_zero

/-- the mode is not. -/
theorem ZtdoHeader.getCipherMode_cleared (h : ZtdoHeader Sym) :
    h.cleared.getCipherMode = h.getCipherMode := by
  rw [getCipherMode, config_cleared, UInt8.and_assoc]
  rfl

/-- The header is as well formed as before, -/
theorem ZtdoHeader.WellFormed.cleared {h : ZtdoHeader Sym} (hwf : h.WellFormed) : h.cleared.WellFormed :=
  ⟨hwf.server, hwf.metadata⟩

/-- and nothing but a byte is new in it. -/
theorem ZtdoHeader.mem_cleared {h : ZtdoHeader Sym} {s : Sym}
    (hs : s ∈ marshal ZtdoHeader.fields h.cleared) :
    s ∈ marshal ZtdoHeader.fields h ∨ ∃ b, s = .byte b := by
  simp only [marshal_header, cleared, Arr.ofBytes, List.map_singleton, List.mem_append,
    List.mem_singleton] at hs ⊢
  rcases hs with hs | hs | hs | hs | hs | hs | hs
  · exact .inl (.inl hs)
  · exact .inl (.inr (.inl hs))
  · exact .inl (.inr (.inr (.inl hs)))
  · exact .inl (.inr (.inr (.inr (.inl hs))))
  · exact .inl (.inr (.inr (.inr (.inr (.inl hs)))))
  · exact .inr ⟨_, hs⟩
  · exact .inl (.inr (.inr (.inr (.inr (.inr (.inr hs))))))

/-! ### One signed file -/

/-- A key of secret letters. -/
def sampleKey : List Sym := (List.range 32).map .secret

omit [Reading] in
/-- It has one among its first sixteen. -/
theorem sampleKey_secret : SecretKey (sampleKey.take 16) := ⟨0, by simp [sampleKey, List.range_succ_eq_map]⟩

/-- One byte, encrypted with a signature. -/
def sampleRun : EncryptRun where
  z := (Ztdo.new (Arr.zero objectIDSize)).setCipherConfig true .AES256GCM128Tag 1
  draws := { size := fun _ => ⟨dataChunkSize, dataChunkSize_lower, Nat.le_refl _⟩, iv := fun _ => Arr.zero ivSize }
  plaintext := [.byte 1]
  ad := []

/-- The value has been configured and not used. -/
theorem sampleRun_configured :
    Configured (Arr.zero objectIDSize) none none true .AES256GCM128Tag 1 sampleRun.z :=
  ⟨_, _, rfl, rfl, rfl⟩

/-- Its header has the flag. -/
theorem sampleRun_hasSignature : sampleRun.header.hasSignature = true := by
  rw [EncryptRun.header, ZtdoHeader.hasSignature_forFile, ← Bool.not_eq_false]
  exact fun hfalse => absurd (sampleRun_configured.hasSignature_eq_false.mp hfalse).1 (by decide)

/-- Its mode has an AEAD. -/
theorem sampleRun_aead : SymmetricCipherMode.aead sampleRun.header.getCipherMode sampleKey
    = .ok { cipher := .aes, key := sampleKey } := by
  rw [EncryptRun.header, ZtdoHeader.getCipherMode_forFile, sampleRun_configured.getCipherMode (by decide)]
  rfl

/-- It has not been used to parse. -/
theorem sampleRun_unparsed : Unparsed sampleRun.z :=
  ⟨Arr.zero objectIDSize, [.setCipherConfig true .AES256GCM128Tag 1],
    fun _ hcall => List.mem_singleton.mp hcall ▸ id, rfl⟩

/-- Its file has a payload. -/
theorem sampleRun_payloads_ne_nil : sampleRun.payloads sampleKey ≠ [] := fun h =>
  chunks_ne_nil sampleRun.draws (List.cons_ne_nil _ _) (List.map_eq_nil_iff.mp h)

/-- By itself it is a world. -/
theorem sample_world : World sampleKey [sampleRun] := by
  refine .cons .nil sampleRun_unparsed (fun s hs => ?_) fun i s hs => ?_
  · have hletters : marshal ZtdoHeader.fields sampleRun.header = (List.map Symbol.byte
        ([0, 0, 0, 0] ++ List.replicate 16 0 ++ [0, 1] ++ [0] ++ [sampleRun.header.config] ++ [0, 0]))
        := rfl
    rw [hletters] at hs
    obtain ⟨b, -, rfl⟩ := List.mem_map.mp hs
    exact .byte b
  · have hletters : (sampleRun.draws.iv i).1 = (List.replicate ivSize 0).map Symbol.byte := rfl
    rw [hletters] at hs
    obtain ⟨b, -, rfl⟩ := List.mem_map.mp hs
    exact .byte b

end

/-- The file of a signed run is accepted, and it is that run's. -/
theorem integrity_sample : ∃ _ : Reading,
    ∃ h ps trailer, h.WellFormed ∧ (∀ p ∈ ps, p.WellFormed) ∧
      sampleRun.file sampleKey = marshal ZtdoHeader.fields h ++ (payloadLetters ps ++ trailer) ∧
      trailer.length = h.stopSize ∧
      (h.hasSignature = true → ∃ r ∈ [sampleRun], r.header = h ∧ r.payloads sampleKey = ps ∧
        r.file sampleKey = sampleRun.file sampleKey) ∧
      (h.hasSignature = false → ∀ p ∈ ps, ∃ r ∈ [sampleRun],
        r.header.getCipherMode = h.getCipherMode ∧ r.ad = [] ∧
          ∃ q ∈ r.payloads sampleKey, q.content = p.content) := by
  let reading : Reading := ⟨fun _ => 0⟩
  refine ⟨reading, integrity sampleKey_secret sample_world
    (s := Reader.ofFile (sampleRun.file sampleKey))
    (fun x hx => .published ⟨sampleRun, List.mem_cons_self, hx⟩) (Ztdo.new (Arr.zero objectIDSize))
    (Arr.zero objectIDSize) [] ?_⟩
  have haead := sampleRun_aead
  rw [EncryptRun.header, ZtdoHeader.getCipherMode_forFile] at haead
  exact congrArg Decryption.err (decrypt_encryptZtdoFile_unused symbolicCrypto symbolicCrypto_lawful
    sampleRun_configured.complete ((ZtdoHeader.hasSignature_forFile _).symm.trans sampleRun_hasSignature)
    sampleRun_configured.signature haead sampleRun.draws (List.cons_ne_nil _ _) [] _ _
    (Reader.ofFile []))

/-- The same file with its signature bit cleared, its payloads twice and its signature cut off: an
    attacker without the key writes it, it is accepted, and no run has its header. -/
theorem cleared_flag_accepted : ∃ _ : Reading, ∃ key runs, ∃ s : Reader Sym,
    SecretKey (key.take 16) ∧ World key runs ∧ (∀ r ∈ runs, r.header.hasSignature = true) ∧
      (∀ x ∈ s.rest, Known (published key runs) x) ∧
      (decryptZtdoFile symbolicCrypto (Ztdo.new (Arr.zero objectIDSize)) (Arr.zero objectIDSize) s key
        []).err = none ∧
      ∀ h rest, h.WellFormed → s.rest = marshal ZtdoHeader.fields h ++ rest →
        ¬∃ r ∈ runs, r.header = h := by
  let reading : Reading := ⟨fun _ => 0⟩
  let ps := sampleRun.payloads sampleKey
  let h := sampleRun.header.cleared
  have hwf : h.WellFormed := (EncryptRun.header_wellFormed sampleRun_unparsed).cleared
  have hmem : sampleRun ∈ [sampleRun] := List.mem_cons_self
  refine ⟨reading, sampleKey, [sampleRun],
    Reader.ofFile (marshal ZtdoHeader.fields h ++ payloadLetters (ps ++ ps)), sampleKey_secret,
    sample_world, ?_, ?_, ?_, ?_⟩
  · exact fun r hr => List.mem_singleton.mp hr ▸ sampleRun_hasSignature
  · intro x hx
    rcases List.mem_append.mp hx with hx | hx
    · rcases ZtdoHeader.mem_cleared hx with hx | ⟨b, rfl⟩
      · refine .published ⟨sampleRun, hmem, ?_⟩
        rw [EncryptRun.file_eq]
        exact List.mem_append_left _ hx
      · exact .byte b
    · rw [payloadLetters, List.flatMap_append, List.mem_append, or_self] at hx
      refine .published ⟨sampleRun, hmem, ?_⟩
      rw [EncryptRun.file_eq]
      exact List.mem_append_right _ (List.mem_append_left _ hx)
  · refine rearranged_accepted [sampleRun] hwf (ZtdoHeader.hasSignature_cleared _)
      ((ZtdoHeader.getCipherMode_cleared _).symm ▸ sampleRun_aead)
      (List.append_ne_nil_of_left_ne_nil sampleRun_payloads_ne_nil _) (fun p hp => ?_) rfl _ _
    exact ⟨sampleRun, hmem, (ZtdoHeader.getCipherMode_cleared _).symm, rfl,
      (List.mem_append.mp hp).elim id id⟩
  · rintro h' rest hwf' hrest ⟨r, hr, rfl⟩
    obtain rfl := List.mem_singleton.mp hr
    have hsame : h = sampleRun.header := header_unique hwf hwf' hrest
    have hflag : h.hasSignature = true := hsame ▸ sampleRun_hasSignature
    rw [ZtdoHeader.hasSignature_cleared] at hflag
    exact absurd hflag (by decide)

end OpenNHP.Core.Ztdo
