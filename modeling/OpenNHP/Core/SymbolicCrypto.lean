/-
  The packet code over symbolic cryptography.

  `symbolic A` reads every library function as a free symbol on terms with private atoms `A`; byte constants,
  header bytes, counters and times are public data.

  1. It keeps all that `LawfulCrypto` asks for (`symbolic_lawful`), so whatever was proved for lawful cryptography
     holds of it too.
  2. What it adds is injectivity: equal seals come from equal handshakes (`sealTimestamp_injective`,
     `sealBody_injective`), a seal of one field is none of another, and a key leads back to the keys it was derived
     from (`keyGen2_fst_injective`).
  3. A key derived from a secret is one that nobody else can derive (`guarded_keyGen2`), which is where secrecy and
     authenticity begin.
-/
import OpenNHP.Lib.Symbolic
import OpenNHP.Core.Wire

namespace OpenNHP.Core

open Symbolic BigEndian

/-- Terms over the algorithms of the repository, with byte strings as what is public. -/
abbrev SymTerm (A : Type) := Term A EccType HashType GcmType Bytes

namespace SymTerm

variable {A : Type}

/-- The number of bytes a term stands for. -/
def len : SymTerm A → Nat
  | .lit b => b.length
  | .priv _ => 32
  | .pub e _ => eccPublicKeySize e
  | .dh _ _ => 32
  | .dhx _ _ _ => 32
  | .hash _ _ => hashSize
  | .hmac _ _ _ => hashSize
  | .aead _ _ _ text _ => len text + gcmTagSize
  | .zip t => len t
  | .nil => 0
  | .cons t u => len t + len u

/-- The public key of a private atom; no other term is a private key. -/
def publicKey (e : EccType) : SymTerm A → SymTerm A
  | .priv a => .pub e a
  | t => t

/-- A send time is read from public bytes only. -/
def timestampOf : SymTerm A → Int64
  | .lit b => Libs.timestampOf b
  | _ => 0

/-- Inflation takes back a deflation; nothing else is a zlib stream. -/
def zlibInflate : SymTerm A → Inflated (SymTerm A)
  | .zip t => .content t
  | _ => .badHeader

variable [DecidableEq A]

/-- The secret of a private atom and any term: with a public key of the curve, that of the two atoms. -/
def ecdh (e : EccType) : SymTerm A → SymTerm A → Option (SymTerm A)
  | .priv a, .pub e' b => some (if e' = e then .dh e s(a, b) else .dhx e a (.pub e' b))
  | .priv a, t => some (.dhx e a t)
  | _, _ => none

/-- A seal is opened with the key, the nonce and the data it was made with. -/
def aeadOpen (g : GcmType) (key nonce : SymTerm A) : SymTerm A → SymTerm A → Option (SymTerm A)
  | .aead g' key' nonce' text ad', ad =>
    if g' = g ∧ key' = key ∧ nonce' = nonce ∧ ad' = ad then some text else none
  | _, _ => none

/-- So what opens was sealed so. -/
theorem aeadOpen_eq_some {g : GcmType} {key nonce sealed ad text : SymTerm A} :
    aeadOpen g key nonce sealed ad = some text ↔ sealed = .aead g key nonce text ad := by
  cases sealed with
  | aead g' key' nonce' text' ad' =>
    rw [aeadOpen, Term.aead.injEq]
    split
    · rename_i h
      simp [h]
    · rename_i h
      simp only [reduceCtorEq, false_iff]
      rintro ⟨rfl, rfl, rfl, -, rfl⟩
      exact h ⟨rfl, rfl, rfl, rfl⟩
  | _ => simp [aeadOpen]

end SymTerm

/-- Free symbols for the libraries. -/
def symbolic (A : Type) [DecidableEq A] : Crypto (SymTerm A) where
  len := SymTerm.len
  byte b := .lit [b]
  initialHashString := .lit Libs.initialHashString
  initialChainKeyString := .lit Libs.initialChainKeyString
  zeroKey := .lit (List.replicate 32 0)
  headerCommonBytes common := .lit common.toBytes
  nonceBytes n := .lit (Libs.nonceBytes n)
  timestampBytes t := .lit (Libs.timestampBytes t)
  timestampOf := SymTerm.timestampOf
  hash t ws := .hash t (.tuple ws)
  hmac t key ws := .hmac t key (.tuple ws)
  aeadSeal := .aead
  aeadOpen := SymTerm.aeadOpen
  validKey _ key := ∃ a, key = .priv a
  publicKey := SymTerm.publicKey
  ecdh := SymTerm.ecdh
  zlibCompress := .zip
  zlibInflate := SymTerm.zlibInflate

variable {A : Type} [DecidableEq A]

/-- The symbols keep the laws. -/
theorem symbolic_lawful : LawfulCrypto (symbolic A) where
  aeadOpen_aeadSeal _ _ _ _ _ := SymTerm.aeadOpen_eq_some.mpr rfl
  ecdh_comm := by
    rintro e _ _ ⟨a, rfl⟩ ⟨b, rfl⟩
    simp [symbolic, SymTerm.ecdh, SymTerm.publicKey, Sym2.eq_swap]
  ecdh_isSome := by
    rintro e _ _ ⟨a, rfl⟩ ⟨b, rfl⟩
    rfl
  zlibInflate_zlibCompress _ := rfl
  timestampOf_timestampBytes := Libs.timestampOf_timestampBytes
  len_publicKey := by
    rintro e _ ⟨a, rfl⟩
    rfl
  len_timestampBytes _ := length_putBE 8 _
  len_aeadSeal _ _ _ _ _ := rfl
  len_hash _ _ := rfl

/-! ## Public data -/

/-- A nonce tells its counter. -/
theorem nonceBytes_injective : Function.Injective Libs.nonceBytes := by
  intro n n' h
  have hbytes : putBE 8 n.toNat = putBE 8 n'.toNat := List.append_cancel_left h
  have hvalue := congrArg getBE hbytes
  rw [getBE_putBE_of_lt n.toNat_lt, getBE_putBE_of_lt n'.toNat_lt] at hvalue
  exact UInt64.toNat.inj hvalue

/-! ## Key pairs -/

namespace Ecdh

/-- Every key pair is an atom's. -/
theorem exists_atom (e : Ecdh (symbolic A)) :
    ∃ a, e.privKey = .priv a ∧ e.publicKey = .pub e.eccType a := by
  obtain ⟨a, ha⟩ := e.valid
  refine ⟨a, ha, ?_⟩
  rw [publicKey, ha]
  rfl

/-- The secret of two key pairs of a curve is that of their atoms. -/
theorem sharedSecret_eq_dh {e e' : Ecdh (symbolic A)} {a b : A} {ss : SymTerm A}
    (ha : e.privKey = .priv a) (hb : e'.privKey = .priv b) (hecc : e'.eccType = e.eccType)
    (h : e.sharedSecret e'.publicKey = some ss) : ss = .dh e.eccType s(a, b) := by
  rw [sharedSecret] at h
  split at h
  · cases h
  · rw [publicKey, ha, hb, hecc] at h
    simpa [symbolic, SymTerm.ecdh, SymTerm.publicKey, eq_comm] using h

end Ecdh

/-! ## Equal seals -/

/-- The cipher tells the scheme. -/
theorem scheme_eq_of_gcmType {scheme scheme' : CipherScheme}
    (h : (newCipherSuite scheme).gcmType = (newCipherSuite scheme').gcmType) : scheme = scheme' := by
  cases scheme <;> cases scheme' <;> first | rfl | cases h

namespace Noise

variable {t t' : HashType} {key key' input input' : SymTerm A}

/-- A derived key tells the key and the input, -/
theorem keyGen1_injective
    (h : keyGen1 (symbolic A) t key input = keyGen1 (symbolic A) t' key' input') :
    key = key' ∧ input = input' := by
  simp only [keyGen1, hmac1, symbolic, Term.tuple_cons, Term.tuple_nil, Term.hmac.injEq,
    Term.cons.injEq, and_true] at h
  exact h.2.2

/-- and so does the first of two, -/
theorem keyGen2_fst_injective
    (h : (keyGen2 (symbolic A) t key input).1 = (keyGen2 (symbolic A) t' key' input').1) :
    key = key' ∧ input = input' := keyGen1_injective h

/-- and the second. -/
theorem keyGen2_snd_injective
    (h : (keyGen2 (symbolic A) t key input).2 = (keyGen2 (symbolic A) t' key' input').2) :
    key = key' ∧ input = input' := by
  simp only [keyGen2, hmac1, hmac2, symbolic, Term.tuple_cons, Term.tuple_nil, Term.hmac.injEq,
    Term.cons.injEq, and_true] at h
  exact h.2.1.2

end Noise

namespace Handshake

variable {hs hs' : Handshake (SymTerm A)}

/-- The second chain key and the first chain hash tell the handshake up to its second secret. -/
theorem eq_of_chainKey2 (hscheme : hs.scheme = hs'.scheme)
    (hkey : hs.chainKey2 (symbolic A) = hs'.chainKey2 (symbolic A))
    (hresponder : hs.responder = hs'.responder) (hss : hs.ss = hs'.ss) : hs = hs' := by
  obtain ⟨hkey1, hess⟩ := Noise.keyGen2_fst_injective hkey
  obtain ⟨hbase, heph⟩ := Noise.keyGen1_injective hkey1
  cases hs
  cases hs'
  simp_all

/-- A timestamp seal tells the handshake it was made in, and what it seals. -/
theorem sealTimestamp_injective {n n' : UInt64} {static static' tsBytes tsBytes' : SymTerm A}
    (h : hs.sealTimestamp (symbolic A) n static tsBytes
      = hs'.sealTimestamp (symbolic A) n' static' tsBytes') :
    hs = hs' ∧ n = n' ∧ static = static' ∧ tsBytes = tsBytes' := by
  obtain ⟨hcipher, hkey, hnonce, htext, had⟩ := Term.aead.inj h
  obtain ⟨hkey2, hss⟩ := Noise.keyGen2_snd_injective hkey
  obtain ⟨-, had⟩ := Term.hash.inj had
  simp only [chainHash2, Term.tuple_injective.eq_iff, List.cons.injEq, true_and, and_true] at had
  obtain ⟨hresponder, -, hstatic⟩ := had
  exact ⟨eq_of_chainKey2 (scheme_eq_of_gcmType hcipher) hkey2 hresponder hss,
    nonceBytes_injective (Term.lit.inj hnonce), hstatic, htext⟩

/-- So does a body seal. -/
theorem sealBody_injective {n n' : UInt64} {static static' ts ts' text text' : SymTerm A}
    (h : hs.sealBody (symbolic A) n static ts text
      = hs'.sealBody (symbolic A) n' static' ts' text') :
    hs = hs' ∧ n = n' ∧ static = static' ∧ ts = ts' ∧ text = text' := by
  obtain ⟨hcipher, hkey, hnonce, htext, had⟩ := Term.aead.inj h
  obtain ⟨hkey3, -⟩ := Noise.keyGen2_snd_injective hkey
  obtain ⟨hkey2, hss⟩ := Noise.keyGen2_fst_injective hkey3
  obtain ⟨-, had⟩ := Term.hash.inj had
  simp only [chainHash3, Term.tuple_injective.eq_iff, List.cons.injEq, true_and, and_true] at had
  obtain ⟨hresponder, -, hstatic, hts⟩ := had
  exact ⟨eq_of_chainKey2 (scheme_eq_of_gcmType hcipher) hkey2 hresponder hss,
    nonceBytes_injective (Term.lit.inj hnonce), hstatic, hts, htext⟩

/-! The three seals of a packet bind different numbers of fields. -/

/-- Of the three seals of a packet no two are equal: the static key's and the time's, -/
theorem sealStatic_ne_sealTimestamp {n n' : UInt64} {pk static tsBytes : SymTerm A} :
    hs.sealStatic (symbolic A) n pk ≠ hs'.sealTimestamp (symbolic A) n' static tsBytes := by
  intro h
  obtain ⟨-, had⟩ := Term.hash.inj (Term.aead.inj h).2.2.2.2
  simp [chainHash1, chainHash2] at had

/-- the static key's and the body's, -/
theorem sealStatic_ne_sealBody {n n' : UInt64} {pk static ts text : SymTerm A} :
    hs.sealStatic (symbolic A) n pk ≠ hs'.sealBody (symbolic A) n' static ts text := by
  intro h
  obtain ⟨-, had⟩ := Term.hash.inj (Term.aead.inj h).2.2.2.2
  simp [chainHash1, chainHash3] at had

/-- the time's and the body's. -/
theorem sealTimestamp_ne_sealBody {n n' : UInt64} {static tsBytes static' ts text : SymTerm A} :
    hs.sealTimestamp (symbolic A) n static tsBytes
      ≠ hs'.sealBody (symbolic A) n' static' ts text := by
  intro h
  obtain ⟨-, had⟩ := Term.hash.inj (Term.aead.inj h).2.2.2.2
  simp [chainHash2, chainHash3] at had

/-! ## Guarded keys -/

variable {honest : Set A}

/-- Mixing a guarded secret in guards the chain key and the derived key. -/
theorem guarded_keyGen2 {t : HashType} {key input : SymTerm A}
    (h : Guarded honest key ∨ Guarded honest input) :
    Guarded honest (Noise.keyGen2 (symbolic A) t key input).1 ∧
      Guarded honest (Noise.keyGen2 (symbolic A) t key input).2 := by
  have hprk : Guarded honest (Noise.hmac1 (symbolic A) t key input) := h.imp id .inl
  exact ⟨.inl hprk, .inl hprk⟩

/-- With a secret of honest key pairs, the keys of the timestamp and the body are guarded. -/
theorem guarded_timestampKey (h : Guarded honest hs.ss) :
    Guarded honest (hs.timestampKey (symbolic A)) := (guarded_keyGen2 (.inr h)).2

/-- The key of the body is guarded by the shared secret. -/
theorem guarded_bodyKey (h : Guarded honest hs.ss) (ts : SymTerm A) :
    Guarded honest (hs.bodyKey (symbolic A) ts) :=
  (guarded_keyGen2 (.inl (guarded_keyGen2 (.inr h)).1)).2

end Handshake

end OpenNHP.Core
