/-
  Symbolic byte strings.

  1. Strings are lists of letters.  A letter is a plain byte, a byte of a secret, or the `i`-th byte of a hash, of
     a MAC or of a ciphertext, which are free symbols: the letter carries the whole term it is a byte of.
  2. Cutting and splicing strings at any position is then list surgery, and what an attacker can write is a set of
     letters (`Known`).
  3. A key is secret when it has a letter of a secret in it.  A letter is `Safe` when showing it gives no secret
     away, and no MAC and no ciphertext under a secret key but the honest ones.
  4. The attacker gets from safe letters to safe letters only (`Known.safe`), so what it can write under a secret
     key is honest (`Known.mac_honest`, `Known.sealed_honest`).
-/
import Mathlib.Data.Set.Basic

namespace SymbolicBytes

/-- Letters, over the ciphers `G`. -/
inductive Symbol (G : Type)
  | byte (b : UInt8)
  | secret (n : Nat)
  | hash (input : List (Symbol G)) (i : Nat)
  | mac (key input : List (Symbol G)) (i : Nat)
  | sealed (g : G) (key nonce text ad : List (Symbol G)) (i : Nat)

variable {G : Type}

/-- What an attacker can write that has seen the letters of `published`. -/
inductive Known (published : Set (Symbol G)) : Symbol G → Prop
  | published {s : Symbol G} (h : s ∈ published) : Known published s
  | byte (b : UInt8) : Known published (.byte b)
  | hash {input : List (Symbol G)} (h : ∀ s ∈ input, Known published s) (i : Nat) :
      Known published (.hash input i)
  | mac {key input : List (Symbol G)} (hk : ∀ s ∈ key, Known published s)
      (h : ∀ s ∈ input, Known published s) (i : Nat) : Known published (.mac key input i)
  | sealed (g : G) {key nonce text ad : List (Symbol G)} (hk : ∀ s ∈ key, Known published s)
      (hn : ∀ s ∈ nonce, Known published s) (ht : ∀ s ∈ text, Known published s)
      (had : ∀ s ∈ ad, Known published s) (i : Nat) :
      Known published (.sealed g key nonce text ad i)
  | open {g : G} {key nonce text ad : List (Symbol G)} {i : Nat} {s : Symbol G}
      (h : Known published (.sealed g key nonce text ad i)) (hk : ∀ s ∈ key, Known published s)
      (hs : s ∈ text) : Known published s

/-- A key with a letter of a secret in it. -/
def SecretKey (key : List (Symbol G)) : Prop := ∃ n, .secret n ∈ key

/-- A key with a secret among its first letters is secret. -/
theorem SecretKey.of_take {key : List (Symbol G)} {n : Nat} (h : SecretKey (key.take n)) :
    SecretKey key := by
  obtain ⟨i, hi⟩ := h
  exact ⟨i, List.mem_of_mem_take hi⟩

/-- The MACs (key, input) and the ciphertexts (key, nonce, text, associated data) of the honest parties. -/
structure Honest (G : Type) where
  mac : List (Symbol G) → List (Symbol G) → Prop
  sealed : G → List (Symbol G) → List (Symbol G) → List (Symbol G) → List (Symbol G) → Prop

/-- Letters that give no secret away, and nothing under a secret key that is not honest. -/
inductive Safe (honest : Honest G) : Symbol G → Prop
  | byte (b : UInt8) : Safe honest (.byte b)
  | hash (input : List (Symbol G)) (i : Nat) : Safe honest (.hash input i)
  | mac {key input : List (Symbol G)} (h : SecretKey key → honest.mac key input) (i : Nat) :
      Safe honest (.mac key input i)
  | guarded {g : G} {key nonce text ad : List (Symbol G)} (hkey : SecretKey key)
      (h : honest.sealed g key nonce text ad) (i : Nat) : Safe honest (.sealed g key nonce text ad i)
  | sealed {key text : List (Symbol G)} (hkey : ¬SecretKey key) (htext : ∀ s ∈ text, Safe honest s)
      (g : G) (nonce ad : List (Symbol G)) (i : Nat) : Safe honest (.sealed g key nonce text ad i)

variable {honest : Honest G}

/-- No letter of a secret is safe, so a key of safe letters is not secret. -/
theorem not_secretKey_of_safe {key : List (Symbol G)} (h : ∀ s ∈ key, Safe honest s) :
    ¬SecretKey key := by
  rintro ⟨n, hn⟩
  cases h _ hn

/-- The more is honest, the more letters are safe. -/
theorem Safe.mono {honest' : Honest G} (hmac : ∀ key input, honest.mac key input → honest'.mac key input)
    (hsealed : ∀ g key nonce text ad, honest.sealed g key nonce text ad →
      honest'.sealed g key nonce text ad) {s : Symbol G} (h : Safe honest s) : Safe honest' s := by
  induction h with
  | byte b => exact .byte b
  | hash input i => exact .hash input i
  | mac h i => exact .mac (fun hk => hmac _ _ (h hk)) i
  | guarded hkey h i => exact .guarded hkey (hsealed _ _ _ _ _ h) i
  | sealed hkey _ g nonce ad i ih => exact .sealed hkey ih g nonce ad i

section

variable {published : Set (Symbol G)} (hpublished : ∀ s ∈ published, Safe honest s)

include hpublished

/-- From safe letters the attacker gets to safe letters only. -/
theorem Known.safe {s : Symbol G} (h : Known published s) : Safe honest s := by
  induction h with
  | published h => exact hpublished _ h
  | byte b => exact .byte b
  | hash _ i => exact .hash _ i
  | mac _ _ i ihk _ => exact .mac (fun hk => absurd hk (not_secretKey_of_safe ihk)) i
  | sealed g _ _ _ _ i ihk _ iht _ => exact .sealed (not_secretKey_of_safe ihk) iht g _ _ i
  | «open» _ _ hs ih ihk =>
    cases ih with
    | guarded hkey => exact absurd hkey (not_secretKey_of_safe ihk)
    | sealed _ htext => exact htext _ hs

/-- A MAC under a secret key that the attacker can write is an honest one. -/
theorem Known.mac_honest {key input : List (Symbol G)} {i : Nat}
    (h : Known published (.mac key input i)) (hkey : SecretKey key) : honest.mac key input := by
  cases h.safe hpublished with
  | mac hmac => exact hmac hkey

/-- So is a ciphertext. -/
theorem Known.sealed_honest {g : G} {key nonce text ad : List (Symbol G)} {i : Nat}
    (h : Known published (.sealed g key nonce text ad i)) (hkey : SecretKey key) :
    honest.sealed g key nonce text ad := by
  cases h.safe hpublished with
  | guarded _ hsealed => exact hsealed
  | sealed hnot => exact absurd hkey hnot

end

/-- Having seen more, the attacker can write more. -/
theorem Known.mono {published published' : Set (Symbol G)} (hsub : published ⊆ published')
    {s : Symbol G} (h : Known published s) : Known published' s := by
  induction h with
  | published h => exact .published (hsub h)
  | byte b => exact .byte b
  | hash _ i ih => exact .hash ih i
  | mac _ _ i ihk ih => exact .mac ihk ih i
  | sealed g _ _ _ _ i ihk ihn iht ihad => exact .sealed g ihk ihn iht ihad i
  | «open» _ _ hs ih ihk => exact .open ih ihk hs

end SymbolicBytes
