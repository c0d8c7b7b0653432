/-
  Appraisals that run at the same time.

  1. **The program.**  Each knock is handled in a goroutine of its own, and the attestation object that keeps a
     report between `NewVerifier` and the look-up in the table of TEEs is one for all of them.  A call takes five
     steps (`advance`): it reads the evidence and stores the report, verifies what is stored, reads the measure
     and the serial number of it, and compares and marks.  Calls take their steps in any order.

  2. **The property.**  `Alone`: every verdict is the one that the call gives alone, and what a call compares is
     the measure and the serial number of its own report, whose signatures lead to the vendor's root.

  3. **Where it fails.**  A call that stores another report while one that is under way has still to read its own
     has that one verify, or compare, what it did not bring (`verdict_borrowed`).

  4. **The result.**  Each call's verdict is its own in every run in which that does not happen, and in which the
     certificates that were fetched for other calls are those that a call would be answered itself
     (`verdict_alone`, under `Undisturbed`); the latter always holds of a server that answers every call the same
     (`upToDate_of_same`).  Marking entries of the table does no harm, since only their serial numbers are compared
     (`SameSerials`).

  5. **The invariant.**  `Stage.Follows`: what a call has read, and what it has still to read, is what it would
     have read alone.  A step of the call keeps that by `advance_follows`; a step of another leaves the object as
     it is, or is ruled out (`Stage.Keeps`).
-/
import Mathlib.Data.Fintype.Basic
import OpenNHP.Lib.Runs
import OpenNHP.Server.Appraisal

namespace OpenNHP.Server.Appraisal

open BigEndian Runs
open OpenNHP.Core.Csv

variable (out : Outside)

/-! ## A call, step by step -/

/-- Where a call stands: behind which of its steps, with what it has. -/
inductive Stage
  | start
  | made (v : Verifier)
  | verified (v : Verifier)
  | measured (v : Verifier) (measure : Bytes)
  | read (measure sn : Bytes)
  | done (verdict : Option Bool)
  deriving DecidableEq

/-- One step of a call: `NewVerifier`, `Verify`, `GetMeasure`, `GetSerialNumber`, the look-up. -/
def advance (x : Bytes) : Stage → State → Stage × State
  | .start, s =>
    match newVerifier out x s.attestation with
    | (none, a) => (.done (some false), { s with attestation := a })
    | (some v, a) => (.made v, { s with attestation := a })
  | .made v, s =>
    match v.verify out s.attestation with
    | (.error (.err _), a) => (.done (some false), { s with attestation := a })
    | (.error .panic, a) => (.done none, { s with attestation := a })
    | (.ok (), a) => (.verified v, { s with attestation := a })
  | .verified v, s =>
    match v.getMeasure s.attestation with
    | .error _ => (.done none, s)
    | .ok measure => (.measured v measure, s)
  | .measured v measure, s =>
    match v.getSerialNumber s.attestation with
    | .error _ => (.done none, s)
    | .ok sn => (.read measure sn, s)
  | .read measure sn, s =>
    let updated := update s.teeMap measure sn
    (.done (some updated.1), { s with teeMap := updated.2 })
  | .done verdict, s => (.done verdict, s)

/-- The five steps one after the other are `AppraiseEvidence`. -/
theorem advance_alone (x : Bytes) (s : State) :
    (fun p : Stage × State => advance out x p.1 p.2)^[5] (.start, s) =
      (.done (appraiseEvidence out x s).1, (appraiseEvidence out x s).2) := by
  simp only [Function.iterate_succ, Function.iterate_zero, Function.comp_apply, id, appraiseEvidence]
  rcases hnew : newVerifier out x s.attestation with ⟨_ | v, a⟩
  · simp [advance, hnew]
  · rcases hverify : v.verify out a with ⟨(err | _) | ⟨⟨⟩⟩, a₁⟩
    · simp [advance, hnew, hverify]
    · simp [advance, hnew, hverify]
    · rcases hmeasure : v.getMeasure a₁ with err | measure
      · simp [advance, hnew, hverify, hmeasure]
      · rcases hsn : v.getSerialNumber a₁ with err | sn
        · simp [advance, hnew, hverify, hmeasure, hsn]
        · simp [advance, hnew, hverify, hmeasure, hsn]

/-! ## Calls at the same time -/

namespace Stage

/-- The call has come to its end, -/
def returned : Stage → Bool
  | .done _ => true
  | _ => false

/-- and in a panic. -/
def panicked : Stage → Bool
  | .done none => true
  | _ => false

end Stage

-- each call has what it finds outside: the libraries are the same, but the vendor's server may answer
-- each call in another way
variable {ι : Type} [DecidableEq ι] (outside : ι → Outside) (evidence : ι → Bytes)

/-- The calls, each with an evidence of its own; a panic is the end of the server. -/
structure Calls (ι : Type) where
  state : State
  stage : ι → Stage
  crashed : Bool

/-- No call has begun. -/
def begin (teeMap : TeeMap) : Calls ι where
  state := { attestation := .empty, teeMap := teeMap }
  stage _ := .start
  crashed := false

/-- A call takes its next step. -/
def step (c : Calls ι) (i : ι) : Option (Calls ι) :=
  if c.crashed ∨ (c.stage i).returned then none
  else
    let next := advance (outside i) (evidence i) (c.stage i) c.state
    some { state := next.2, stage := Function.update c.stage i next.1, crashed := next.1.panicked }

/-- What a step does: the call advances, over the shared object. -/
theorem step_cases {c c' : Calls ι} {i : ι} (h : step outside evidence c i = some c') :
    c'.state = (advance (outside i) (evidence i) (c.stage i) c.state).2 ∧
      c'.stage = Function.update c.stage i (advance (outside i) (evidence i) (c.stage i) c.state).1 := by
  rw [step] at h
  split at h
  · cases h
  · cases h
    exact ⟨rfl, rfl⟩

/-- What a call still reads of the attestation object is the same in another one. -/
def Stage.Keeps (object object' : Option CsvEvidence) : Stage → Prop
  | .made .csv => object' = object
  | .verified .csv =>
    object'.map CsvEvidence.getMeasure = object.map CsvEvidence.getMeasure ∧
      object'.map CsvEvidence.getSerialNumber = object.map CsvEvidence.getSerialNumber
  | .measured .csv _ => object'.map CsvEvidence.getSerialNumber = object.map CsvEvidence.getSerialNumber
  | _ => True

instance (object object' : Option CsvEvidence) : (stage : Stage) → Decidable (stage.Keeps object object')
  | .made .csv => inferInstanceAs (Decidable (object' = object))
  | .verified .csv =>
    inferInstanceAs (Decidable (object'.map CsvEvidence.getMeasure = object.map CsvEvidence.getMeasure ∧
      object'.map CsvEvidence.getSerialNumber = object.map CsvEvidence.getSerialNumber))
  | .measured .csv _ => inferInstanceAs
    (Decidable (object'.map CsvEvidence.getSerialNumber = object.map CsvEvidence.getSerialNumber))
  | .start => inferInstanceAs (Decidable True)
  | .made (.fallback _) => inferInstanceAs (Decidable True)
  | .verified (.fallback _) => inferInstanceAs (Decidable True)
  | .measured (.fallback _) _ => inferInstanceAs (Decidable True)
  | .read _ _ => inferInstanceAs (Decidable True)
  | .done _ => inferInstanceAs (Decidable True)

/-- Where a call's `NewVerifier` stores a report, no call that is under way has to read anything from the
    attestation object that the report changes; and the certificates that a `Verify` finds there are those that
    it would be answered. -/
def Undisturbed (c : Calls ι) (i : ι) : Prop :=
  (c.stage i = .start → ∀ stored ∈ (kindOf (outside i) (evidence i)).report,
    ∀ j, (c.stage j).Keeps c.state.attestation.evidence stored) ∧
  (c.stage i = .made .csv → ∀ e ∈ c.state.attestation.evidence,
    c.state.attestation.UpToDate (outside i).web e.getSerialNumber)

instance [Fintype ι] (c : Calls ι) (i : ι) : Decidable (Undisturbed outside evidence c i) :=
  inferInstanceAs (Decidable (_ ∧ _))

/-- Every verdict is the one that the call gives alone, and what a call compares is the measure and the serial
    number of its own report, whose signatures lead to the vendor's root. -/
structure Alone (teeMap : TeeMap) (c : Calls ι) : Prop where
  verdict : ∀ i o, c.stage i = .done o →
    o = (appraiseEvidence (outside i) (evidence i) { attestation := .empty, teeMap := teeMap }).1
  compared : ∀ i measure sn e, c.stage i = .read measure sn → kindOf (outside i) (evidence i) = .csv (some e) →
    (∃ hrk hskCek, Chain (outside i).crypto hrk hskCek e) ∧
      measure = e.getMeasure ∧ sn = e.getSerialNumber

/-! ## Verdicts -/

section

variable {x : Bytes} {s : State}

/-- The verdict that a call gives alone: what cannot be read is refused, -/
theorem verdict_bad (h : kindOf out x = .bad) : (appraiseEvidence out x s).1 = some false := by
  rw [appraiseEvidence, newVerifier_eq, h]

/-- test evidence is compared, -/
theorem verdict_test {f : FallbackVerifier} (h : kindOf out x = .test f) :
    (appraiseEvidence out x s).1 = some (update s.teeMap f.serialNumber f.measure).1 := by
  rw [appraiseEvidence, newVerifier_eq, h]
  rfl

/-- and the JSON `null` panics. -/
theorem verdict_null (h : kindOf out x = .csv none) : (appraiseEvidence out x s).1 = none := by
  rw [appraiseEvidence, newVerifier_eq, h]
  rfl

/-- The verdict on a report, where certificates kept from before are up to date. -/
theorem verdict_csv {e : CsvEvidence} (h : kindOf out x = .csv (some e))
    (hupToDate : (s.attestation.takeEvidence (some e)).UpToDate out.web e.getSerialNumber) :
    (appraiseEvidence out x s).1 =
      match Attestation.judge out.crypto out.web e with
      | .error (.err _) => some false
      | .error .panic => none
      | .ok () => some (update s.teeMap e.getMeasure e.getSerialNumber).1 := by
  have hjudge := Attestation.verify_upToDate out.crypto rfl hupToDate
  have hkept := (s.attestation.takeEvidence (some e)).verify_evidence out.crypto out.web
  rw [appraiseEvidence, newVerifier_eq, h, ← hjudge]
  simp only [Verifier.verify]
  rcases hverify : (s.attestation.takeEvidence (some e)).verify out.crypto out.web with ⟨(err | _) | ⟨⟨⟩⟩, a⟩
  · rfl
  · rfl
  · have hobject : a.evidence = some e := by rwa [hverify] at hkept
    simp only [Verifier.getMeasure, Verifier.getSerialNumber, Attestation.getMeasure_eq hobject,
      Attestation.getSerialNumber_eq hobject]

end

/-! ## The table of TEEs -/

/-- Marking entries leaves their serial numbers. -/
def SameSerials (teeMap teeMap' : TeeMap) : Prop :=
  ∀ id, (teeMap'.lookup id).map (·.serialNumber) = (teeMap.lookup id).map (·.serialNumber)

/-- Marks do not change serial numbers, -/
theorem SameSerials.update {teeMap teeMap' : TeeMap} (h : SameSerials teeMap teeMap') (measure sn : Bytes) :
    SameSerials teeMap (update teeMap' measure sn).2 := by
  intro id
  by_cases hsame : (Appraisal.update teeMap' measure sn).2.lookup id = teeMap'.lookup id
  · rw [hsame, h id]
  · obtain ⟨-, tee, hlookup, hmarked⟩ := update_snd hsame
    rw [hmarked, ← h id, hlookup]
    rfl

/-- nor what is compared. -/
theorem SameSerials.update_fst {teeMap teeMap' : TeeMap} (h : SameSerials teeMap teeMap') (measure sn : Bytes) :
    (Appraisal.update teeMap' measure sn).1 = (Appraisal.update teeMap measure sn).1 := by
  rw [Appraisal.update_fst, Appraisal.update_fst, h measure]

/-! ## What a call under way has to do with the object -/

variable (teeMap : TeeMap)

/-- What the measure and the serial number that a call compares are. -/
def Compares (x measure sn : Bytes) : Prop :=
  (∃ f, kindOf out x = .test f ∧ measure = f.serialNumber ∧ sn = f.measure) ∨
    ∃ e, kindOf out x = .csv (some e) ∧ Attestation.judge out.crypto out.web e = .ok () ∧
      measure = e.getMeasure ∧ sn = e.getSerialNumber

/-- A call on its own way: as far as the call still reads it, the object has the call's report. -/
def Stage.Follows (x : Bytes) (object : Option CsvEvidence) : Stage → Prop
  | .start => True
  | .made (.fallback f) => kindOf out x = .test f
  | .made .csv => kindOf out x = .csv object
  | .verified (.fallback f) => kindOf out x = .test f
  | .verified .csv => ∃ e, kindOf out x = .csv (some e) ∧ Attestation.judge out.crypto out.web e = .ok () ∧
      object.map CsvEvidence.getMeasure = some e.getMeasure ∧
      object.map CsvEvidence.getSerialNumber = some e.getSerialNumber
  | .measured (.fallback f) measure => kindOf out x = .test f ∧ measure = f.serialNumber
  | .measured .csv measure => ∃ e, kindOf out x = .csv (some e) ∧
      Attestation.judge out.crypto out.web e = .ok () ∧ measure = e.getMeasure ∧
      object.map CsvEvidence.getSerialNumber = some e.getSerialNumber
  | .read measure sn => Compares out x measure sn
  | .done o => o = (appraiseEvidence out x { attestation := .empty, teeMap := teeMap }).1

variable {out} {teeMap}

/-- The object is as it was where the call looks. -/
theorem Stage.Follows.keep {x : Bytes} {object object' : Option CsvEvidence} {stage : Stage}
    (h : stage.Follows out teeMap x object) (hkeeps : stage.Keeps object object') :
    stage.Follows out teeMap x object' := by
  cases stage with
  | start => trivial
  | made v =>
    cases v with
    | fallback f => exact h
    | csv =>
      obtain rfl : object' = object := hkeeps
      exact h
  | verified v =>
    cases v with
    | fallback f => exact h
    | csv =>
      obtain ⟨e, hkind, hjudge, hmeasure, hsn⟩ := h
      exact ⟨e, hkind, hjudge, hkeeps.1.trans hmeasure, hkeeps.2.trans hsn⟩
  | measured v measure =>
    cases v with
    | fallback f => exact h
    | csv =>
      obtain ⟨e, hkind, hjudge, hmeasure, hsn⟩ := h
      exact ⟨e, hkind, hjudge, hmeasure, Eq.trans hkeeps hsn⟩
  | read measure sn => exact h
  | done o => exact h

/-- What is compared decides the verdict. -/
theorem Compares.verdict {x measure sn : Bytes} (h : Compares out x measure sn) {teeMap' : TeeMap}
    (hsame : SameSerials teeMap teeMap') :
    some (update teeMap' measure sn).1 =
      (appraiseEvidence out x { attestation := .empty, teeMap := teeMap }).1 := by
  rw [hsame.update_fst]
  rcases h with ⟨f, hkind, rfl, rfl⟩ | ⟨e, hkind, hjudge, rfl, rfl⟩
  · rw [verdict_test out hkind]
  · rw [verdict_csv out hkind (Attestation.current_empty.takeEvidence _ _), hjudge]

/-! ## What one step does -/

section

variable {x : Bytes} {s : State}

/-- A step stores a report in the object only as `NewVerifier`. -/
theorem advance_evidence (out : Outside) (x : Bytes) (stage : Stage) (s : State) :
    (advance out x stage s).2.attestation.evidence = s.attestation.evidence ∨
      ∃ stored, stage = .start ∧ kindOf out x = .csv stored ∧
        (advance out x stage s).2.attestation.evidence = stored := by
  cases stage with
  | start =>
    rw [advance, newVerifier_eq]
    cases hkind : kindOf out x with
    | bad => exact .inl rfl
    | test f => exact .inl rfl
    | csv stored => exact .inr ⟨stored, rfl, rfl, rfl⟩
  | made v =>
    left
    cases v with
    | fallback f => rfl
    | csv =>
      have hkept := s.attestation.verify_evidence out.crypto out.web
      simp only [advance, Verifier.verify]
      rcases hverify : s.attestation.verify out.crypto out.web with ⟨(err | _) | ⟨⟨⟩⟩, a⟩
      all_goals rwa [hverify] at hkept
  | verified v =>
    left
    simp only [advance]
    split <;> rfl
  | measured v measure =>
    left
    simp only [advance]
    split <;> rfl
  | read measure sn => exact .inl rfl
  | done o => exact .inl rfl

/-- No step changes a serial number. -/
theorem advance_sameSerials (h : SameSerials teeMap s.teeMap) (stage : Stage) :
    SameSerials teeMap (advance out x stage s).2.teeMap := by
  cases stage with
  | read measure sn => exact h.update measure sn
  | _ =>
    simp only [advance]
    repeat' split
    all_goals exact h

/-- A call stays on its own way. -/
theorem advance_follows {stage : Stage}
    (hupToDate : stage = .made .csv → ∀ e ∈ s.attestation.evidence,
      s.attestation.UpToDate out.web e.getSerialNumber)
    (hsame : SameSerials teeMap s.teeMap) (h : stage.Follows out teeMap x s.attestation.evidence) :
    (advance out x stage s).1.Follows out teeMap x (advance out x stage s).2.attestation.evidence := by
  cases stage with
  | start =>
    rw [advance, newVerifier_eq]
    cases hkind : kindOf out x with
    | bad => exact (verdict_bad out hkind).symm
    | test f => exact hkind
    | csv stored => exact hkind
  | made v =>
    cases v with
    | fallback f => exact h
    | csv =>
      -- the object has the call's own evidence, so `Verify` judges that
      rcases he : s.attestation.evidence with _ | e
      · rw [Stage.Follows, he] at h
        simp only [advance, Verifier.verify, Attestation.verify, he]
        exact (verdict_null out h).symm
      · rw [Stage.Follows, he] at h
        have hobject := s.attestation.verify_evidence out.crypto out.web
        have hjudge := Attestation.verify_upToDate out.crypto he (hupToDate rfl e he)
        have hverdict := verdict_csv (s := { attestation := .empty, teeMap := teeMap }) out h
          (Attestation.current_empty.takeEvidence _ _)
        simp only [advance, Verifier.verify]
        rcases hresult : s.attestation.verify out.crypto out.web with ⟨(err | _) | ⟨⟨⟩⟩, a⟩
        all_goals
          rw [hresult] at hjudge
          rw [← hjudge] at hverdict
        · exact hverdict.symm
        · exact hverdict.symm
        · rw [hresult, he] at hobject
          have ha : a.evidence = some e := hobject
          refine ⟨e, h, hjudge.symm, ?_, ?_⟩
          · rw [ha]
            rfl
          · rw [ha]
            rfl
  | verified v =>
    cases v with
    | fallback f => exact ⟨h, rfl⟩
    | csv =>
      -- the report in the object may be another one, with the same measure and serial number
      obtain ⟨e, hkind, hjudge, hmeasure, hsn⟩ := h
      obtain ⟨e', he', hmeasure⟩ := Option.map_eq_some_iff.mp hmeasure
      simp only [advance, Verifier.getMeasure, Attestation.getMeasure_eq he']
      exact ⟨e, hkind, hjudge, hmeasure, hsn⟩
  | measured v measure =>
    cases v with
    | fallback f => exact .inl ⟨f, h.1, h.2, rfl⟩
    | csv =>
      obtain ⟨e, hkind, hjudge, hmeasure, hsn⟩ := h
      obtain ⟨e', he', hsn⟩ := Option.map_eq_some_iff.mp hsn
      simp only [advance, Verifier.getSerialNumber, Attestation.getSerialNumber_eq he']
      exact .inr ⟨e, hkind, hjudge, hmeasure, hsn⟩
  | read measure sn => exact Compares.verdict h hsame
  | done o => exact h

end

/-! ## Runs -/

variable (teeMap) in
/-- Serial numbers are as ever, and each call is on its own way. -/
structure Going (c : Calls ι) : Prop where
  serials : SameSerials teeMap c.state.teeMap
  follows : ∀ i, (c.stage i).Follows (outside i) teeMap (evidence i) c.state.attestation.evidence

variable {outside} {evidence}

omit [DecidableEq ι] in
/-- Nothing was read yet. -/
theorem going_begin : Going outside evidence teeMap (begin teeMap) where
  serials _ := rfl
  follows _ := trivial

/-- Every step that disturbs no call keeps every call on its way. -/
theorem Going.step {c c' : Calls ι} {i : ι} (hcalm : Undisturbed outside evidence c i)
    (h : Going outside evidence teeMap c) (hstep : step outside evidence c i = some c') :
    Going outside evidence teeMap c' := by
  obtain ⟨hstate, hstage⟩ := step_cases outside evidence hstep
  refine ⟨hstate ▸ advance_sameSerials h.serials _, fun j => ?_⟩
  rw [hstate, hstage, Function.update_apply]
  split
  · rename_i hj
    subst hj
    exact advance_follows hcalm.2 h.serials (h.follows j)
  · -- another call: the object is what it was, or has a report that keeps what the call reads
    rcases advance_evidence (outside i) (evidence i) (c.stage i) c.state with
      hsame | ⟨stored, hstart, hkind, hstored⟩
    · rw [hsame]
      exact h.follows j
    · rw [hstored]
      exact (h.follows j).keep (hcalm.1 hstart stored (by rw [hkind]; rfl) j)

/-- In every run of calls in which no report is stored over one that is still read, and no `Verify` finds
    certificates that it would not be answered, every verdict is the one that the call gives alone, on the
    report that it verified. -/
theorem verdict_alone {c : Calls ι} {calls : List ι}
    (hcalm : Steps (step outside evidence) (Undisturbed outside evidence) (begin teeMap) calls)
    (hrun : run (step outside evidence) (begin teeMap) calls = some c) : Alone outside evidence teeMap c := by
  have hgoing : Going outside evidence teeMap c :=
    run_invariant_of (fun _ _ _ hcalm hgoing hstep => hgoing.step hcalm hstep) hcalm going_begin hrun
  refine ⟨fun i o hdone => ?_, fun i measure sn e hread hkind => ?_⟩
  · have hfollows := hgoing.follows i
    rwa [hdone] at hfollows
  · have hfollows := hgoing.follows i
    rw [hread] at hfollows
    rcases hfollows with ⟨f, htest, -⟩ | ⟨e', hkind', hjudge, hmeasure, hsn⟩
    · rw [hkind] at htest
      cases htest
    · rw [hkind] at hkind'
      cases hkind'
      exact ⟨Attestation.judge_eq_ok hjudge, hmeasure, hsn⟩

/-! ## A server that always answers the same -/

/-- What was fetched stays what the server answers. -/
theorem advance_current {x : Bytes} {s : State} (h : s.attestation.Current out.web) (stage : Stage) :
    (advance out x stage s).2.attestation.Current out.web := by
  cases stage with
  | start =>
    rw [advance, newVerifier_eq]
    cases kindOf out x with
    | bad => exact h
    | test f => exact h
    | csv stored => exact h.takeEvidence stored
  | made v =>
    cases v with
    | fallback f => exact h
    | csv =>
      have hverify : (s.attestation.verify out.crypto out.web).2.Current out.web := h.verify
      simp only [advance, Verifier.verify]
      rcases hresult : s.attestation.verify out.crypto out.web with ⟨(err | _) | ⟨⟨⟩⟩, a⟩
      all_goals rwa [hresult] at hverify
  | verified v =>
    simp only [advance]
    split <;> exact h
  | measured v measure =>
    simp only [advance]
    split <;> exact h
  | read measure sn => exact h
  | done o => exact h

/-- There every certificate that a `Verify` finds is up to date. -/
theorem upToDate_of_same {web : Web} (hweb : ∀ i, (outside i).web = web) {c : Calls ι} {calls : List ι}
    (hrun : run (step outside evidence) (begin teeMap) calls = some c) : c.state.attestation.Current web := by
  refine run_invariant (I := fun c : Calls ι => c.state.attestation.Current web) ?_ Attestation.current_empty hrun
  intro c i c' hcurrent hstep
  obtain ⟨hstate, -⟩ := step_cases outside evidence hstep
  rw [hstate, ← hweb i]
  exact advance_current ((hweb i).symm ▸ hcurrent) _

/-! ## Two machines -/

/-- A certificate from an offset on, zero but for some bytes at offsets in order. -/
def image (off len : Nat) : List (Nat × UInt8) → Bytes
  | [] => List.replicate (len - off) 0
  | (i, b) :: fields => List.replicate (i - off) 0 ++ b :: image (i + 1) len fields

/-- The root certificate of the example. -/
def sampleHrk : Bytes := image 0 0x2a8 [(0x40, 3), (0x240, 1), (0x288, 1)]

/-- The certificates of a chip: the HSK's and, from `0x340` on, the CEK's. -/
def sampleHskCek : Bytes :=
  image 0 0x340 [(0x24, 0x13), (0x40, 3), (0x240, 1), (0x288, 1)] ++
    image 0 0x484 [(0x08, 0x04), (0x09, 0x10), (0x414, 0x13), (0x418, 4), (0x41c, 1), (0x464, 1)]

/-- A vector that starts with a byte and is zero behind it. -/
theorem size_lead (n : Nat) (b : UInt8) : (b :: List.replicate n 0).toArray.size = n + 1 := by simp

/-- That vector. -/
def lead {n : Nat} (b : UInt8) : Vector UInt8 (n + 1) := ⟨(b :: List.replicate n 0).toArray, size_lead n b⟩

/-- A signature that passes, -/
def sampleSignature : Signature := { r := lead 1, s := lead 1 }

/-- and one that is not looked at. -/
def noSignature : CsvSignature := { usage := 0, algo := 0, signature := ⟨lead 0, lead 0⟩, reserved := lead 0 }

/-- A report with a measure. -/
def sampleReport (b : UInt8) : CsvEvidence where
  attestationReport :=
    { attestationBody :=
        { userPubKeyDigest := lead 0, vmId := lead 0, vmVersion := lead 0, reportData := lead 0,
          mnonce := lead 0, measure := lead b, policy := 0 },
      anonce := 0, sig := sampleSignature }
  pek :=
    { body :=
        { version := 0,
          data :=
            { firmwareMajor := 0, firmwareMinor := 0, reserved1 := 0,
              pubKey := { usage := 0x1002, algo := 0, key := ⟨0, lead 0, lead 0⟩ }, uidSize := 0,
              userId := lead 0, sid := lead 0, reserved2 := lead 0 } },
      signature1 := { usage := 0x1004, algo := 4, signature := sampleSignature, reserved := lead 0 },
      signature2 := noSignature }
  serialNumber := [b]

/-- The JSON of `sampleReport`. -/
def sampleJson (measure sn : String) : Bytes :=
  text "\x7b\"attestation_report\":\x7b\"body\":\x7b\"measure\":[" ++ text measure ++
    text "]\x7d,\"sig\":\x7b\"r\":[1],\"s\":[1]\x7d\x7d,\"cert_chain\":\x7b\"pek\":\x7b\"body\":\x7b\"data\":" ++
    text "\x7b\"pubkey\":\x7b\"usage\":4098\x7d\x7d\x7d,\"sigs\":[\x7b\"usage\":4100,\"algo\":4,\"signature\":" ++
    text "\x7b\"r\":[1],\"s\":[1]\x7d\x7d]\x7d\x7d,\"serial_number\":\"" ++ text sn ++ text "\"\x7d"

/-- The evidences of two machines. -/
def sampleEvidence : Bool → Bytes
  | false => text <|
    "eNpljrEKwzAMRP9FcwYH2tIG8hGZSzByIlyTxA62PITgf6/tDi10OulOvNMJyEyBkY2z" ++
    "0tPuPEN3gnLzUXQjDNETdM/bdUwNBKOL7bPRjnmtmnIwkWc5vdDYku+0/FJmZKx2VAtV" ++
    "JwbUmXoRj3tKH25hfYNWiAZw1S7PNbbI9ZH/8tofyBtcpY2bonwAw9D3kN64zUlN"
  | true => text <|
    "eNpljrEKwzAMRP9Fc4YESmgD+YjOJRg5Ea5JYgdZHkrwv9d2hxY6nXQn3ukEFKEgKNY7" ++
    "xXR4FhhO0H55Fd0JQ2SC4dH3U2ogWFNszkY35bVqysFMLGp+onUlP2j9pSwoWO2oV6pO" ++
    "DGgy9dLeril9uIX1Dbq2bQA34/NcY4dSH/kvr/2B2OKmXNw15QO4m3GE9Aa570lk"

/-- A vendor whose signatures are `(1, 1)`, with two machines. -/
def sampleOutside : Outside where
  crypto :=
    { n := 2, scalarBaseMult := fun _ => (1, 0), scalarMult := fun p _ => .ok p, add := fun _ _ => .ok (1, 0),
      double := fun _ => .ok (1, 0), sm3 := fun _ => expectedDigest }
  web url :=
    if url = hrkUrl then some (200, some { bytes := sampleHrk, behind := [] })
    else if url = hskCekUrl [65] ∨ url = hskCekUrl [66] then
      some (200, some { bytes := sampleHskCek, behind := [] })
    else none
  inflate z :=
    if z = (Base64.decodeString (sampleEvidence false)).1 then some (sampleJson "65" "QQ==")
    else if z = (Base64.decodeString (sampleEvidence true)).1 then some (sampleJson "66" "Qg==")
    else none
  objectKeys json :=
    if json = sampleJson "65" "QQ==" ∨ json = sampleJson "66" "Qg==" then
      some [text "attestation_report", text "cert_chain", text "serial_number"]
    else none
  fallbackVerifier json :=
    if json = sampleJson "65" "QQ==" then some { measure := [], serialNumber := text "QQ==" }
    else if json = sampleJson "66" "Qg==" then some { measure := [], serialNumber := text "Qg==" }
    else none
  csvEvidence json :=
    if json = sampleJson "65" "QQ==" then some (some (sampleReport 65))
    else if json = sampleJson "66" "Qg==" then some (some (sampleReport 66))
    else none

/-- The second machine is registered. -/
def sampleTees : TeeMap :=
  AList.insert (sampleReport 66).getMeasure { serialNumber := [66], verified := false } ∅

/-- The second call's report comes after the first call has read its own. -/
theorem sample_alone :
    ∃ c, run (step (fun _ => sampleOutside) sampleEvidence) (begin sampleTees)
        [false, false, false, false, true, false] = some c ∧
      Alone (fun _ => sampleOutside) sampleEvidence sampleTees c := by
  obtain ⟨hcalm, hrun⟩ : Steps (step (fun _ => sampleOutside) sampleEvidence)
      (Undisturbed (fun _ => sampleOutside) sampleEvidence)
        (begin sampleTees) [false, false, false, false, true, false] ∧
      (run (step (fun _ => sampleOutside) sampleEvidence) (begin sampleTees)
        [false, false, false, false, true, false]).isSome = true := by
    decide +kernel
  obtain ⟨c, hc⟩ := Option.isSome_iff_exists.mp hrun
  exact ⟨c, hc, verdict_alone hcalm hc⟩

/-- The first machine is not registered.  Where the second call's report is stored between the first call's
    `Verify` and its `GetMeasure`, the first call accepts. -/
theorem verdict_borrowed :
    ∃ c, run (step (fun _ => sampleOutside) sampleEvidence) (begin sampleTees)
        [false, false, true, false, false, false] = some c ∧
      c.stage false = .done (some true) ∧
      (appraiseEvidence sampleOutside (sampleEvidence false) { attestation := .empty, teeMap := sampleTees }).1 =
        some false := by
  obtain ⟨hstage, halone⟩ :
      (run (step (fun _ => sampleOutside) sampleEvidence) (begin sampleTees)
        [false, false, true, false, false, false]).map (·.stage false) = some (.done (some true)) ∧
      (appraiseEvidence sampleOutside (sampleEvidence false) { attestation := .empty, teeMap := sampleTees }).1 =
        some false := by
    decide +kernel
  obtain ⟨c, hc, hdone⟩ := Option.map_eq_some_iff.mp hstage
  exact ⟨c, hc, hdone, halone⟩

end OpenNHP.Server.Appraisal
