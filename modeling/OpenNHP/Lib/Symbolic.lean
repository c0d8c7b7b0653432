/-
  Symbolic cryptography: terms, an attacker, and what it cannot forge.

  1. Hashes, MACs, AEADs and Diffie-Hellman are free symbols; only the commutativity of Diffie-Hellman is built
     in, by keying a shared secret with the unordered pair of its two private keys.  Everything is over arbitrary
     kinds of curves `E`, hashes `H` and ciphers `G`, arbitrary public data `B` and arbitrary private atoms `A`.
  2. The attacker (`Derivable`) knows all public data and public keys, builds any term, and opens a ciphertext
     when it has the key.
  3. Fix a set of honest private atoms.  A term is `Guarded` when a secret of two honest atoms has been mixed into
     it, and `Safe` for a set of honest seals when showing it gives no guarded term away and no ciphertext under a
     guarded key but the honest ones.
  4. The attacker turns safe terms into safe terms only (`Derivable.safe`, by induction on the derivation), so a
     ciphertext under a guarded key that it derives is an honest one (`Derivable.sealed`).
-/
import Mathlib.Data.Sym.Sym2

namespace Symbolic

/-- Terms.  `dh e s(a, b)` is the secret of the atoms `a` and `b`; `dhx e a t` is what the atom `a` makes
    of a term `t` that is no public key of the curve. -/
inductive Term (A E H G B : Type)
  | lit (b : B)
  | priv (a : A)
  | pub (e : E) (a : A)
  | dh (e : E) (p : Sym2 A)
  | dhx (e : E) (a : A) (t : Term A E H G B)
  | hash (h : H) (t : Term A E H G B)
  | hmac (h : H) (key t : Term A E H G B)
  | aead (g : G) (key nonce text ad : Term A E H G B)
  | zip (t : Term A E H G B)
  | nil
  | cons (t u : Term A E H G B)
  deriving DecidableEq

variable {A E H G B : Type}

namespace Term

/-- A sequence of terms. -/
def tuple : List (Term A E H G B) → Term A E H G B
  | [] => nil
  | t :: ts => cons t (tuple ts)

@[simp] theorem tuple_nil : tuple ([] : List (Term A E H G B)) = nil := rfl

@[simp] theorem tuple_cons (t : Term A E H G B) (ts : List (Term A E H G B)) :
    tuple (t :: ts) = cons t (tuple ts) := rfl

/-- A tuple tells its terms. -/
theorem tuple_injective : Function.Injective (tuple (A := A) (E := E) (H := H) (G := G) (B := B)) := by
  intro ts
  induction ts with
  | nil =>
    intro us h
    cases us with
    | nil => rfl
    | cons u us => cases h
  | cons t ts ih =>
    intro us h
    cases us with
    | nil => cases h
    | cons u us =>
      rw [tuple_cons, tuple_cons, cons.injEq] at h
      rw [h.1, ih h.2]

end Term

open Term

/-! ## The attacker -/

/-- What can be derived from a set of known terms. -/
inductive Derivable (known : Set (Term A E H G B)) : Term A E H G B → Prop
  | known {t : Term A E H G B} (h : t ∈ known) : Derivable known t
  | lit (b : B) : Derivable known (.lit b)
  | pub (e : E) (a : A) : Derivable known (.pub e a)
  | dh {e : E} {a : A} (b : A) (ha : Derivable known (.priv a)) : Derivable known (.dh e s(a, b))
  | dhx {e : E} {a : A} {t : Term A E H G B} (ha : Derivable known (.priv a))
      (ht : Derivable known t) : Derivable known (.dhx e a t)
  | hash {h : H} {t : Term A E H G B} (ht : Derivable known t) : Derivable known (.hash h t)
  | hmac {h : H} {key t : Term A E H G B} (hk : Derivable known key) (ht : Derivable known t) :
      Derivable known (.hmac h key t)
  | aead {g : G} {key nonce text ad : Term A E H G B} (hk : Derivable known key)
      (hn : Derivable known nonce) (ht : Derivable known text) (had : Derivable known ad) :
      Derivable known (.aead g key nonce text ad)
  | open {g : G} {key nonce text ad : Term A E H G B}
      (hc : Derivable known (.aead g key nonce text ad)) (hk : Derivable known key) :
      Derivable known text
  | zip {t : Term A E H G B} (ht : Derivable known t) : Derivable known (.zip t)
  | unzip {t : Term A E H G B} (ht : Derivable known (.zip t)) : Derivable known t
  | nil : Derivable known .nil
  | cons {t u : Term A E H G B} (ht : Derivable known t) (hu : Derivable known u) :
      Derivable known (.cons t u)
  | head {t u : Term A E H G B} (h : Derivable known (.cons t u)) : Derivable known t
  | tail {t u : Term A E H G B} (h : Derivable known (.cons t u)) : Derivable known u

/-- Knowing more, the attacker derives more. -/
theorem Derivable.mono {known known' : Set (Term A E H G B)} (hsub : known ⊆ known')
    {t : Term A E H G B} (h : Derivable known t) : Derivable known' t := by
  induction h with
  | known h => exact .known (hsub h)
  | lit b => exact .lit b
  | pub e a => exact .pub e a
  | dh b _ ih => exact .dh b ih
  | dhx _ _ iha iht => exact .dhx iha iht
  | hash _ ih => exact .hash ih
  | hmac _ _ ihk iht => exact .hmac ihk iht
  | aead _ _ _ _ ihk ihn iht ihad => exact .aead ihk ihn iht ihad
  | «open» _ _ ihc ihk => exact .open ihc ihk
  | zip _ ih => exact .zip ih
  | unzip _ ih => exact .unzip ih
  | nil => exact .nil
  | cons _ _ iht ihu => exact .cons iht ihu
  | head _ ih => exact .head ih
  | tail _ ih => exact .tail ih

/-! ## Secrets and honest seals -/

variable (honest : Set A) (seals : Set (Term A E H G B))

/-- A secret of honest atoms has been mixed into the term. -/
def Guarded : Term A E H G B → Prop
  | .priv a => a ∈ honest
  | .dh _ p => ∀ a ∈ p, a ∈ honest
  | .dhx _ a _ => a ∈ honest
  | .hmac _ key t => Guarded key ∨ Guarded t
  | .cons t u => Guarded t ∨ Guarded u
  | _ => False

/-- The attacker may see the term: it gives no guarded term away, and its ciphertexts under guarded keys
    are honest seals. -/
def Safe : Term A E H G B → Prop
  | .priv a => a ∉ honest
  | .dh _ p => ¬ ∀ a ∈ p, a ∈ honest
  | .dhx _ a _ => a ∉ honest
  | .hmac _ key t => ¬ (Guarded honest key ∨ Guarded honest t)
  | .aead g key nonce text ad =>
    (Guarded honest key → Term.aead g key nonce text ad ∈ seals) ∧
      (¬ Guarded honest key → Safe text)
  | .zip t => Safe t
  | .cons t u => Safe t ∧ Safe u
  | _ => True

variable {honest seals}

/-- A safe term is no secret. -/
theorem Safe.not_guarded {t : Term A E H G B} (h : Safe honest seals t) : ¬ Guarded honest t := by
  induction t with
  | priv a => exact h
  | dh e p => exact h
  | dhx e a t _ => exact h
  | hmac _ key t _ _ => exact h
  | cons t u iht ihu =>
    rintro (hg | hg)
    · exact iht h.1 hg
    · exact ihu h.2 hg
  | _ => exact id

/-- More honest seals, more safe terms. -/
theorem Safe.mono {seals' : Set (Term A E H G B)} (hsub : seals ⊆ seals') {t : Term A E H G B}
    (h : Safe honest seals t) : Safe honest seals' t := by
  induction t with
  | aead g key nonce text ad _ _ ih _ => exact ⟨fun hk => hsub (h.1 hk), fun hk => ih (h.2 hk)⟩
  | zip t ih => exact ih h
  | cons t u iht ihu => exact ⟨iht h.1, ihu h.2⟩
  | _ => exact h

/-- From safe terms the attacker derives safe terms only. -/
theorem Derivable.safe {known : Set (Term A E H G B)} (hsafe : ∀ t ∈ known, Safe honest seals t)
    {t : Term A E H G B} (h : Derivable known t) : Safe honest seals t := by
  induction h with
  | known h => exact hsafe _ h
  | @dh e a b _ ih => exact fun hall => ih (hall a (Sym2.mem_mk_left a b))
  | dhx _ _ iha _ => exact iha
  | hmac _ _ ihk iht =>
    rintro (hg | hg)
    · exact ihk.not_guarded hg
    · exact iht.not_guarded hg
  | aead _ _ _ _ ihk _ iht _ => exact ⟨fun hg => absurd hg ihk.not_guarded, fun _ => iht⟩
  | «open» _ _ ihc ihk => exact ihc.2 ihk.not_guarded
  | zip _ ih => exact ih
  | unzip _ ih => exact ih
  | cons _ _ iht ihu => exact ⟨iht, ihu⟩
  | head _ ih => exact ih.1
  | tail _ ih => exact ih.2
  | _ => trivial

/-- **No forgery.**  A ciphertext under a guarded key that the attacker derives is an honest seal. -/
theorem Derivable.sealed {known : Set (Term A E H G B)} (hsafe : ∀ t ∈ known, Safe honest seals t)
    {g : G} {key nonce text ad : Term A E H G B}
    (h : Derivable known (.aead g key nonce text ad)) (hkey : Guarded honest key) :
    Term.aead g key nonce text ad ∈ seals :=
  (h.safe hsafe).1 hkey

end Symbolic
