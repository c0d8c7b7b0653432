/-
  What a Go call can end with.

  A function of `nhp/core` returns a value, returns an `error`, or panics (an index out of range, a nil
  dereference).  `Go` keeps the three apart, so that "ends with a message or with an error" is a statement about
  the constructor, and a panic cannot be mistaken for an error.

  1. `bind` is a call behind another one: an error is returned at once, a panic goes on.
  2. `andThen` is the same for functions that write to a state: what was written before an error stays written.
  3. The lemmas say for each what it ends with, so that the functions of the source are taken apart one call at a
     time.
-/

namespace OpenNHP.Core

/-- The errors of `nhp/core/errors.go` and of the `fmt.Errorf` calls on the packet paths. -/
inductive NhpError
  | emptyPeerPublicKey
  | ephermalECDHPeerFailed
  | deviceECDHPeerFailed
  | packetSizeExceedsBuffer
  | hmacCheckFailed
  | serverHMACCheckFailed
  | serverOverload
  | deviceECDHEphermalFailed
  | deviceECDHObtainedPeerFailed
  | aeadDecryptionFailed
  | aeadOpenFailed
  | dataDecompressionFailed
  | serverRejectWithCookie
  | peerNotFound
  | peerExpired
  | peerAddressMismatch
  | replayPacket
  | floodPacket
  | stalePacket
  | keepaliveSizeIncorrect
  | headerTypeDoesNotMatchDevice
  | totalSizeIncorrect
  deriving DecidableEq, Repr

/-- The text each error carries. -/
def NhpError.text : NhpError → String
  | .emptyPeerPublicKey => "remote peer public key is not set"
  | .ephermalECDHPeerFailed => "ephermal ECDH failed with peer"
  | .deviceECDHPeerFailed => "device ECDH failed with peer"
  | .packetSizeExceedsBuffer => "packet size longer than send buffer"
  | .hmacCheckFailed => "HMAC validation failed"
  | .serverHMACCheckFailed => "server HMAC validation failed"
  | .serverOverload => "the packet is dropped due to server overload"
  | .deviceECDHEphermalFailed => "device ECDH failed with ephermal"
  | .deviceECDHObtainedPeerFailed => "device ECDH failed with obtained peer"
  | .aeadDecryptionFailed => "aead decryption failed"
  | .aeadOpenFailed => "cipher: message authentication failed"
  | .dataDecompressionFailed => "data decompression failed"
  | .serverRejectWithCookie => "server overload, stop processing packet and return cookie"
  | .peerNotFound => "peer not found in peer pool"
  | .peerExpired => "peer expired"
  | .peerAddressMismatch => "peer does not match its previous address"
  | .replayPacket => "received replay packet"
  | .floodPacket => "received flood packet"
  | .stalePacket => "received stale packet"
  | .keepaliveSizeIncorrect => "keepalive packet size is incorrect"
  | .headerTypeDoesNotMatchDevice => "packet header type does not match device"
  | .totalSizeIncorrect => "packet total size is incorrect"

/-- The outcome of a Go call: a result, an error, or a run-time panic. -/
inductive Go (α : Type) where
  | ok (a : α)
  | err (e : NhpError)
  | panic
  deriving Repr

deriving instance DecidableEq for Go

namespace Go

variable {α β : Type}

/-- Run the next statement only after a normal result. -/
def bind : Go α → (α → Go β) → Go β
  | ok a, f => f a
  | err e, _ => err e
  | panic, _ => panic

/-- An `Option`-valued step whose `none` is the given error. -/
def ofOption (e : NhpError) : Option α → Go α
  | some a => ok a
  | none => err e

/-- A bounds check: out of range panics. -/
def guardRange (p : Prop) [Decidable p] : Go Unit := if p then ok () else panic

/-- The call ended with a value or an error. -/
def Returns : Go α → Prop
  | panic => False
  | _ => True

@[simp] theorem bind_ok (a : α) (f : α → Go β) : (ok a).bind f = f a := rfl
@[simp] theorem bind_err (e : NhpError) (f : α → Go β) : (err e : Go α).bind f = err e := rfl
@[simp] theorem bind_panic (f : α → Go β) : (panic : Go α).bind f = panic := rfl

@[simp] theorem returns_ok (a : α) : (ok a).Returns := trivial
@[simp] theorem returns_err (e : NhpError) : (err e : Go α).Returns := trivial
@[simp] theorem not_returns_panic : ¬ (panic : Go α).Returns := id

/-- A sequence yields a result exactly when both parts do. -/
theorem bind_eq_ok {x : Go α} {f : α → Go β} {b : β} :
    x.bind f = ok b ↔ ∃ a, x = ok a ∧ f a = ok b := by
  cases x with
  | ok a => simp
  | err e => simp
  | panic => simp

/-- A sequence panics exactly when its first part does, or the second on the first's result. -/
theorem bind_eq_panic {x : Go α} {f : α → Go β} :
    x.bind f = panic ↔ x = panic ∨ ∃ a, x = ok a ∧ f a = panic := by
  cases x with
  | ok a => simp
  | err e => simp
  | panic => simp

/-- A call that does not panic returns. -/
theorem returns_iff {x : Go α} : x.Returns ↔ x ≠ panic := by
  cases x with
  | ok a => simp
  | err e => simp
  | panic => simp

/-- A look-up gives what is there. -/
theorem ofOption_eq_ok {e : NhpError} {o : Option α} {a : α} :
    ofOption e o = ok a ↔ o = some a := by
  cases o with
  | none => simp [ofOption]
  | some b => simp [ofOption]

/-- It never panics. -/
theorem ofOption_ne_panic {e : NhpError} {o : Option α} : ofOption e o ≠ panic := by
  cases o <;> simp [ofOption]

/-- An index within the range is no more to say. -/
theorem guardRange_eq_ok {p : Prop} [Decidable p] {u : Unit} : guardRange p = ok u ↔ p := by
  unfold guardRange
  split <;> simp [*]

/-- One out of it panics. -/
theorem guardRange_eq_panic {p : Prop} [Decidable p] : guardRange p = panic ↔ ¬ p := by
  unfold guardRange
  split <;> simp [*]

/-! ## Calls that keep their state on an error

  `validatePeer` and `decryptBody` write to the parser data, the connection and the peer before they
  can fail, and those writes stay.  Such a call returns its state next to its outcome. -/

/-- Go on with the state and result of a call that returned normally; otherwise keep its state. -/
def andThen {σ : Type} (x : σ × Go α) (f : σ → α → σ × Go β) : σ × Go β :=
  match x with
  | (s, ok a) => f s a
  | (s, err e) => (s, err e)
  | (s, panic) => (s, panic)

/-- Both calls succeed, the second in the state of the first. -/
theorem andThen_eq_ok {σ : Type} {x : σ × Go α} {f : σ → α → σ × Go β} {s' : σ} {b : β} :
    andThen x f = (s', ok b) ↔ ∃ s a, x = (s, ok a) ∧ f s a = (s', ok b) := by
  obtain ⟨s, o⟩ := x
  cases o with
  | ok a => exact ⟨fun h => ⟨s, a, rfl, h⟩, by rintro ⟨_, _, ⟨⟩, h⟩; exact h⟩
  | err e => simp [andThen]
  | panic => simp [andThen]

/-- One of the two panics. -/
theorem andThen_snd_eq_panic {σ : Type} {x : σ × Go α} {f : σ → α → σ × Go β} :
    (andThen x f).2 = panic ↔ x.2 = panic ∨ ∃ s a, x = (s, ok a) ∧ (f s a).2 = panic := by
  obtain ⟨s, o⟩ := x
  cases o with
  | ok a =>
    refine ⟨fun h => .inr ⟨s, a, rfl, h⟩, ?_⟩
    rintro (h | ⟨_, _, ⟨⟩, h⟩)
    · cases h
    · exact h
  | err e => simp [andThen]
  | panic => simp [andThen]

/-- Three calls may be grouped either way. -/
theorem andThen_assoc {σ γ : Type} (x : σ × Go α) (f : σ → α → σ × Go β) (g : σ → β → σ × Go γ) :
    andThen (andThen x f) g = andThen x fun s a => andThen (f s a) g := by
  obtain ⟨s, o⟩ := x
  cases o <;> rfl

/-- What the next call keeps of the state is behind both what it was behind the first. -/
theorem andThen_keeps {σ γ : Type} {g : σ → γ} {x : σ × Go α} {f : σ → α → σ × Go β}
    (hf : ∀ s a, g (f s a).1 = g s) : g (andThen x f).1 = g x.1 := by
  obtain ⟨s, o⟩ := x
  cases o with
  | ok a => exact hf s a
  | err e => rfl
  | panic => rfl

end Go

end OpenNHP.Core
