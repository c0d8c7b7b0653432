/-
  Tokens that expire.

  THE PROGRAM.  A store keeps entries under tokens; it hands an entry out whenever it finds one, and a pass drops
  the entries that have expired.  A kind of store (`Kind`) fixes how the tokens are made, for how much longer than
  their open time new entries are kept, whether being handed out prolongs an entry by its open time, and on which
  tokens a look-up crashes.

  THE SPECIFICATION.  `Sound` is what one wants of every step: look-ups do not crash and hand out live entries of
  issued tokens only, and no entry lives longer than a new one would from its last use.

  THE CRUX.  Nothing but the passes looks at expire times, so an entry is handed out as long as it is there.  What
  is kept along a run is that every entry is one that was issued, with an expire time that its last use accounts
  for (`Kept`); so a look-up is sound or not by the time it comes at.

  ASSEMBLY.  The steps are sound in exactly the runs in which every look-up comes at the right time (`sound_iff`):
  not after the expiry, and where it prolongs, not much before it.
-/
import OpenNHP.Lib.SplitMap
import OpenNHP.Lib.Runs
import Mathlib.Algebra.Order.Group.Int

/-- Entries with an expire time and an open time, which is a duration. -/
class Expiring (V : Type) where
  openTime : V → Int
  expireTime : V → Int
  setExpireTime : V → Int → V
  expireTime_set : ∀ v t, expireTime (setExpireTime v t) = t
  openTime_set : ∀ v t, openTime (setExpireTime v t) = openTime v

namespace ExpiringStore

open Expiring Runs

attribute [simp] expireTime_set openTime_set

/-- A kind of store: of maps by the heads of the tokens. -/
structure Kind (H K V : Type) where
  head : K → H
  /-- A look-up of this token crashes. -/
  crashes : K → Bool
  /-- The token of an entry and a time. -/
  tokenOf : V → Int → K
  late : Int
  prolongs : Bool

variable {H K V : Type} [DecidableEq H] [DecidableEq K] [Expiring V]

namespace Kind

variable (p : Kind H K V)

/-- The entry of a token. -/
def find (store : SplitMap H K V) (token : K) : Option V := SplitMap.find p.head store token

/-- A new entry under its token. -/
def put (store : SplitMap H K V) (token : K) (v : V) (now : Int) : SplitMap H K V :=
  SplitMap.put p.head store token (setExpireTime v (now + (openTime v + p.late)))

/-- What is handed out of an entry, and stays in the store. -/
def used (v : V) : V := if p.prolongs then setExpireTime v (expireTime v + openTime v) else v

/-- A look-up: the entry it hands out and the store it leaves, unless it crashes. -/
def verify (store : SplitMap H K V) (token : K) : Option (Option V × SplitMap H K V) :=
  if p.crashes token then none
  else match p.find store token with
    | none => some (none, store)
    | some v => some (some (p.used v), SplitMap.put p.head store token (p.used v))

end Kind

/-- A pass over the store. -/
def dropExpired (store : SplitMap H K V) (now : Int) : SplitMap H K V :=
  SplitMap.sweep (fun v => decide (now ≤ expireTime v)) store

/-! ## Runs -/

/-- The clock and the store; the tokens issued so far, and when each was last used, or else issued. -/
structure State (H K V : Type) where
  clock : Int
  store : SplitMap H K V
  issued : List K
  last : K → Int

/-- An empty store. -/
def State.boot (clock : Int) : State H K V where
  clock
  store := ∅
  issued := []
  last _ := clock

/-- Tokens are made and looked up, passes come, and time goes on. -/
inductive Event (K V : Type)
  | tick (now : Int)
  /-- An entry is put under the token of a time, which is read on its own. -/
  | generate (v : V) (currTime : Int)
  | verify (token : K)
  | sweep

variable (p : Kind H K V)

/-- One event; `none` where the look-up crashes or the clock would go back. -/
def step (s : State H K V) : Event K V → Option (State H K V)
  | .tick now => if s.clock ≤ now then some { s with clock := now } else none
  | .generate v currTime =>
    let token := p.tokenOf v currTime
    some { s with
      store := p.put s.store token v s.clock
      issued := token :: s.issued
      last := Function.update s.last token s.clock }
  | .verify token =>
    match p.verify s.store token with
    | none => none
    | some (none, _) => some s
    | some (some _, store) => some { s with store, last := Function.update s.last token s.clock }
  | .sweep => some { s with store := dropExpired s.store s.clock }

/-! ## Sound steps -/

/-- No entry lives longer than a new one would from its last use. -/
def State.Within (s : State H K V) : Prop :=
  ∀ token v, p.find s.store token = some v → expireTime v ≤ s.last token + (openTime v + p.late)

/-- A look-up does not crash, it hands out only entries of issued tokens that are live when it is made;
    and no entry lives too long afterwards. -/
def Sound (s : State H K V) (e : Event K V) : Prop :=
  (∀ token, e = .verify token → ∃ r, p.verify s.store token = some r ∧
    (r.1.isSome → token ∈ s.issued ∧ ∃ v, p.find s.store token = some v ∧ s.clock ≤ expireTime v)) ∧
  ∀ s', step p s e = some s' → s'.Within p

/-- A look-up comes at the right time. -/
def Timely (s : State H K V) : Event K V → Prop
  | .verify token => p.crashes token = false ∧ ∀ v ∈ p.find s.store token,
      s.clock ≤ expireTime v ∧ (p.prolongs = true → expireTime v ≤ s.clock + p.late)
  | _ => True

instance (s : State H K V) : DecidablePred (Timely p s)
  | .verify token => inferInstanceAs (Decidable (p.crashes token = false ∧ ∀ v ∈ p.find s.store token,
      s.clock ≤ expireTime v ∧ (p.prolongs = true → expireTime v ≤ s.clock + p.late)))
  | .tick _ | .generate _ _ | .sweep => inferInstanceAs (Decidable True)

/-- What holds behind sound steps. -/
structure Kept (s : State H K V) : Prop where
  issued : ∀ token v, p.find s.store token = some v → token ∈ s.issued
  last : ∀ token, s.last token ≤ s.clock
  within : s.Within p

/-- The invariant holds at the start. -/
theorem Kept.boot (clock : Int) : Kept p (.boot clock : State H K V) where
  issued _ _ h := by cases h
  last _ := le_refl clock
  within _ _ h := by cases h

variable {p} {s s' : State H K V}

/-- An entry that is put is found, with its time. -/
theorem find_put (store : SplitMap H K V) (token : K) (v : V) (now : Int) (token' : K) :
    p.find (p.put store token v now) token'
      = if token' = token then some (setExpireTime v (now + (openTime v + p.late)))
        else p.find store token' :=
  SplitMap.find_put token'

/-- A pass leaves what is not over. -/
theorem find_dropExpired (store : SplitMap H K V) (now : Int) (token : K) :
    p.find (dropExpired store now) token
      = (p.find store token).filter fun v => decide (now ≤ expireTime v) :=
  SplitMap.find_sweep _

/-- Making an entry, and dropping some, keeps what holds. -/
theorem Kept.generate (h : Kept p s) (v : V) (currTime : Int)
    (hstep : step p s (.generate v currTime) = some s') : Kept p s' := by
  obtain rfl := Option.some.inj hstep
  refine ⟨fun token v' hfound => ?_, fun token => ?_, fun token v' hfound => ?_⟩
  · rw [find_put] at hfound
    split_ifs at hfound with htoken
    · exact List.mem_cons.mpr (.inl htoken)
    · exact List.mem_cons_of_mem _ (h.issued token v' hfound)
  · show Function.update s.last (p.tokenOf v currTime) s.clock token ≤ s.clock
    rw [Function.update_apply]
    split_ifs
    · exact le_refl _
    · exact h.last token
  · rw [find_put] at hfound
    show expireTime v' ≤ Function.update s.last (p.tokenOf v currTime) s.clock token + _
    rw [Function.update_apply]
    split_ifs at hfound ⊢ with htoken
    · obtain rfl := Option.some.inj hfound
      simp
    · exact h.within token v' hfound

/-- A pass keeps the invariant, -/
theorem Kept.sweep (h : Kept p s) (hstep : step p s .sweep = some s') : Kept p s' := by
  obtain rfl := Option.some.inj hstep
  have hsub : ∀ token v, p.find (dropExpired s.store s.clock) token = some v →
      p.find s.store token = some v := by
    intro token v hfound
    rw [find_dropExpired] at hfound
    exact (Option.filter_eq_some_iff.mp hfound).1
  exact ⟨fun token v hfound => h.issued token v (hsub token v hfound), h.last,
    fun token v hfound => h.within token v (hsub token v hfound)⟩

/-- and so does time. -/
theorem Kept.tick (h : Kept p s) {now : Int} (hstep : step p s (.tick now) = some s') : Kept p s' := by
  obtain ⟨hle, ⟨⟩⟩ := Option.ite_none_right_eq_some.mp hstep
  exact ⟨h.issued, fun token => (h.last token).trans hle, h.within⟩

/-- What a look-up of a token that is found does. -/
theorem step_verify_found {token : K} {v : V} (hcrash : p.crashes token = false)
    (hfound : p.find s.store token = some v) :
    p.verify s.store token = some (some (p.used v), SplitMap.put p.head s.store token (p.used v)) ∧
    step p s (.verify token) = some { s with
      store := SplitMap.put p.head s.store token (p.used v)
      last := Function.update s.last token s.clock } := by
  have hverify : p.verify s.store token
      = some (some (p.used v), SplitMap.put p.head s.store token (p.used v)) := by
    simp only [Kind.verify, hcrash, Bool.false_eq_true, if_false, hfound]
  exact ⟨hverify, by simp only [step, hverify]⟩

/-- A look-up that finds nothing changes nothing. -/
theorem step_verify_none {token : K} (hcrash : p.crashes token = false)
    (hfound : p.find s.store token = none) :
    p.verify s.store token = some (none, s.store) ∧ step p s (.verify token) = some s := by
  have hverify : p.verify s.store token = some (none, s.store) := by
    simp only [Kind.verify, hcrash, Bool.false_eq_true, if_false, hfound]
  exact ⟨hverify, by simp only [step, hverify]⟩

/-- The entry used lives too long exactly when it was prolonged early. -/
theorem used_within_iff (h : Kept p s) {token : K} {v : V} (hfound : p.find s.store token = some v) :
    expireTime (p.used v) ≤ s.clock + (openTime (p.used v) + p.late) ↔
      (p.prolongs = true → expireTime v ≤ s.clock + p.late) := by
  have hlast := h.last token
  have hwithin := h.within token v hfound
  rw [Kind.used]
  split_ifs with hprolongs
  · simp only [expireTime_set, openTime_set, hprolongs, true_imp_iff]
    omega
  · refine iff_of_true ?_ fun hp => absurd hp hprolongs
    omega

/-- Behind sound steps, a step is sound exactly when it is timely. -/
theorem sound_step (h : Kept p s) (e : Event K V) : Sound p s e ↔ Timely p s e := by
  -- Only a verification can be unsound: it answers a value, and it may prolong one.
  cases e with
  | tick now => exact iff_of_true ⟨nofun, fun s' hstep => (h.tick hstep).within⟩ trivial
  | generate v currTime =>
    exact iff_of_true ⟨nofun, fun s' hstep => (h.generate v currTime hstep).within⟩ trivial
  | sweep => exact iff_of_true ⟨nofun, fun s' hstep => (h.sweep hstep).within⟩ trivial
  | verify token =>
    constructor
    · rintro ⟨hlookup, hwithin⟩
      obtain ⟨r, hr, hlive⟩ := hlookup token rfl
      have hcrash : p.crashes token = false := by
        by_contra hcrash
        rw [Bool.not_eq_false] at hcrash
        simp [Kind.verify, hcrash] at hr
      refine ⟨hcrash, fun v hfound => ?_⟩
      obtain ⟨hverify, hstep⟩ := step_verify_found hcrash hfound
      obtain rfl := Option.some.inj (hverify.symm.trans hr)
      obtain ⟨-, v', hfound', hclock⟩ := hlive rfl
      obtain rfl := Option.some.inj (hfound'.symm.trans hfound)
      refine ⟨hclock, (used_within_iff h hfound).mp ?_⟩
      have hused := hwithin _ hstep token (p.used v') (by
        rw [Kind.find, SplitMap.find_put, if_pos rfl])
      simpa using hused
    · rintro ⟨hcrash, htimely⟩
      cases hfound : p.find s.store token with
      | none =>
        obtain ⟨hverify, hstep⟩ := step_verify_none hcrash hfound
        refine ⟨fun token' htoken => ?_, fun s' hstep' => ?_⟩
        · obtain rfl := Event.verify.inj htoken
          exact ⟨_, hverify, nofun⟩
        · obtain rfl := Option.some.inj (hstep.symm.trans hstep')
          exact h.within
      | some v =>
        obtain ⟨hverify, hstep⟩ := step_verify_found hcrash hfound
        obtain ⟨hclock, hearly⟩ := htimely v hfound
        refine ⟨fun token' htoken => ?_, fun s' hstep' => ?_⟩
        · obtain rfl := Event.verify.inj htoken
          exact ⟨_, hverify, fun _ => ⟨h.issued token v hfound, v, hfound, hclock⟩⟩
        · obtain rfl := Option.some.inj (hstep.symm.trans hstep')
          intro token' v' hfound'
          rw [Kind.find, SplitMap.find_put] at hfound'
          show expireTime v' ≤ Function.update s.last token s.clock token' + _
          rw [Function.update_apply]
          split_ifs at hfound' ⊢ with htoken
          · obtain rfl := Option.some.inj hfound'
            exact (used_within_iff h hfound).mpr hearly
          · exact h.within token' v' hfound'

/-- A sound step keeps what holds. -/
theorem Kept.step (h : Kept p s) {e : Event K V} (hsound : Sound p s e)
    (hstep : ExpiringStore.step p s e = some s') : Kept p s' := by
  cases e with
  | tick now => exact h.tick hstep
  | generate v currTime => exact h.generate v currTime hstep
  | sweep => exact h.sweep hstep
  | verify token =>
    obtain ⟨hcrash, -⟩ := (sound_step h _).mp hsound
    cases hfound : p.find s.store token with
    | none =>
      obtain rfl := Option.some.inj ((step_verify_none hcrash hfound).2.symm.trans hstep)
      exact h
    | some v =>
      have hwithin := hsound.2 s' hstep
      obtain rfl := Option.some.inj ((step_verify_found hcrash hfound).2.symm.trans hstep)
      refine ⟨fun token' v' hfound' => ?_, fun token' => ?_, hwithin⟩
      · rw [Kind.find, SplitMap.find_put] at hfound'
        split_ifs at hfound' with htoken
        · exact htoken ▸ h.issued token v hfound
        · exact h.issued token' v' hfound'
      · show Function.update s.last token s.clock token' ≤ s.clock
        rw [Function.update_apply]
        split_ifs
        · exact le_refl _
        · exact h.last token'

variable (p)

/-- The steps of a run are sound exactly when its look-ups are timely. -/
theorem sound_iff (clock : Int) (events : List (Event K V)) :
    Steps (step p) (Sound p) (.boot clock) events ↔ Steps (step p) (Timely p) (.boot clock) events := by
  apply steps_congr (I := Kept p)
  · exact fun s e h => sound_step h e
  · exact fun s e s' h hsound hstep => h.step hsound hstep
  · exact Kept.boot p clock

end ExpiringStore
