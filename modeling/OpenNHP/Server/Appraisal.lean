/-
  How the server appraises the evidence of a knock (`AppraiseEvidence` in `endpoints/server/config.go`, with
  the verifiers of `nhp/core/verifier/verifier.go`).

  1. **The program.**  An evidence is base64 of compressed JSON.  JSON with the key `test_purpose` is test
     evidence: the agent makes it on machines without a trusted environment, and it is taken without a report.
     Any other JSON is read as a report of a CSV machine.  The verifier is made (`newVerifier`), verifies
     (`verify`), and its measure and serial number are compared with the table of TEEs, whose entry is then marked
     (`update`).

  2. **The shared object.**  What an evidence is depends on its bytes alone (`kindOf`), but a report is kept in an
     attestation object that all calls share: the verifier of a CSV report has no fields of its own.  Here one call
     runs alone; calls at the same time are the subject of `Appraisals`.

  3. **The property.**  `Sound`: an appraisal accepts, and marks entries of the table of TEEs, only where
     signatures lead from the vendor's root to the report and the measure and serial number are those of an entry.

  4. **The result.**  Apart from test evidence, which is accepted by design, every appraisal is sound, whatever
     the shared object held before and whatever the vendor's server answers (`appraisal_sound`).  That signatures
     do lead to the root is `Csv`'s theorem on the verification; what is added here is that the report which was
     verified is the one that is compared.
-/
import OpenNHP.Core.Csv
import OpenNHP.Lib.Base64

namespace OpenNHP.Server.Appraisal

open BigEndian
open OpenNHP.Core.Csv

/-! ## Verifiers -/

/-- `FallbackVerifier` -/
structure FallbackVerifier where
  measure : Bytes
  serialNumber : Bytes
  deriving DecidableEq

/-- A verifier: test evidence, or the attestation object, which lies in the package. -/
inductive Verifier
  | fallback (f : FallbackVerifier)
  | csv
  deriving DecidableEq

/-- What is called outside: the curve and hash, the vendor's server, decompression and JSON. -/
structure Outside where
  crypto : Crypto
  web : Web
  inflate : Bytes → Option Bytes
  /-- The keys of a JSON object. -/
  objectKeys : Bytes → Option (List Bytes)
  fallbackVerifier : Bytes → Option FallbackVerifier
  /-- JSON's `null` is read as no evidence. -/
  csvEvidence : Bytes → Option (Option CsvEvidence)

variable (out : Outside)

/-- The bytes of a text. -/
def text (s : String) : Bytes := s.toUTF8.data.toList

/-- The key by which test evidence is told. -/
def testPurpose : Bytes := text "test_purpose"

/-- The JSON of an evidence and its keys. -/
def unpack (evidenceBase64 : Bytes) : Option (Bytes × List Bytes) :=
  match Base64.decodeString evidenceBase64 with
  | (_, false) => none
  | (compressedEvidence, true) => do
    let evidenceBytes ← out.inflate compressedEvidence
    let keys ← out.objectKeys evidenceBytes
    return (evidenceBytes, keys)

/-- Where the JSON is no evidence, the object keeps what it has. -/
def newAttestation (json : Bytes) (a : Attestation) : Option Attestation :=
  (out.csvEvidence json).map a.takeEvidence

/-- `NewVerifier`.  A report is written into the shared object. -/
def newVerifier (evidenceBase64 : Bytes) (a : Attestation) : Option Verifier × Attestation :=
  match unpack out evidenceBase64 with
  | none => (none, a)
  | some (evidenceBytes, keys) =>
    if testPurpose ∈ keys then ((out.fallbackVerifier evidenceBytes).map .fallback, a)
    else match newAttestation out evidenceBytes a with
      | none => (none, a)
      | some a => (some .csv, a)

namespace Verifier

/-- `Verify`. -/
def verify (v : Verifier) (a : Attestation) : Except Failure Unit × Attestation :=
  match v with
  | .fallback _ => (.ok (), a)
  | .csv => a.verify out.crypto out.web

/-- Of test evidence, the serial number. -/
def getMeasure (v : Verifier) (a : Attestation) : Except Failure Bytes :=
  match v with
  | .fallback f => .ok f.serialNumber
  | .csv => a.getMeasure

/-- Of test evidence, the measure. -/
def getSerialNumber (v : Verifier) (a : Attestation) : Except Failure Bytes :=
  match v with
  | .fallback f => .ok f.measure
  | .csv => a.getSerialNumber

end Verifier

/-! ## Appraisal -/

/-- An entry of the table of TEEs, which is indexed by the measure. -/
structure TeeAttestationReport where
  serialNumber : Bytes
  verified : Bool
  deriving DecidableEq

/-- Entries by their measures. -/
abbrev TeeMap := AList fun _ : Bytes => TeeAttestationReport

/-- The look-up at the end of an appraisal: the entry is marked before its serial number is compared. -/
def update (teeMap : TeeMap) (measure sn : Bytes) : Bool × TeeMap :=
  match teeMap.lookup measure with
  | none => (false, teeMap)
  | some tee => (tee.serialNumber = sn, teeMap.insert measure { tee with verified := true })

/-- The attestation object and the table of TEEs. -/
structure State where
  attestation : Attestation
  teeMap : TeeMap

/-- The verdict; `none` is a panic. -/
def appraiseEvidence (evidenceBase64 : Bytes) (s : State) : Option Bool × State :=
  match newVerifier out evidenceBase64 s.attestation with
  | (none, a) => (some false, { s with attestation := a })
  | (some v, a) =>
    match v.verify out a with
    | (.error (.err _), a) => (some false, { s with attestation := a })
    | (.error .panic, a) => (none, { s with attestation := a })
    | (.ok (), a) =>
      match v.getMeasure a, v.getSerialNumber a with
      | .ok measure, .ok sn =>
        let updated := update s.teeMap measure sn
        (some updated.1, { attestation := a, teeMap := updated.2 })
      | _, _ => (none, { s with attestation := a })

/-! ## What an evidence is -/

/-- An evidence that cannot be read, test evidence, or a report. -/
inductive Kind
  | bad
  | test (f : FallbackVerifier)
  | csv (evidence : Option CsvEvidence)
  deriving DecidableEq

/-- What an evidence has for the attestation object, if anything. -/
def Kind.report : Kind → Option (Option CsvEvidence)
  | .csv evidence => some evidence
  | _ => none

/-- What an evidence is, from its bytes alone. -/
def kindOf (evidenceBase64 : Bytes) : Kind :=
  match unpack out evidenceBase64 with
  | none => .bad
  | some (evidenceBytes, keys) =>
    if testPurpose ∈ keys then
      match out.fallbackVerifier evidenceBytes with
      | none => .bad
      | some f => .test f
    else
      match out.csvEvidence evidenceBytes with
      | none => .bad
      | some evidence => .csv evidence

/-- What `NewVerifier` returns and stores depends on the evidence alone. -/
theorem newVerifier_eq (x : Bytes) (a : Attestation) :
    newVerifier out x a =
      match kindOf out x with
      | .bad => (none, a)
      | .test f => (some (.fallback f), a)
      | .csv evidence => (some .csv, a.takeEvidence evidence) := by
  rw [newVerifier, kindOf]
  rcases unpack out x with _ | ⟨evidenceBytes, keys⟩
  · rfl
  · by_cases htest : testPurpose ∈ keys
    · simp only [htest, if_true]
      cases out.fallbackVerifier evidenceBytes <;> rfl
    · simp only [htest, if_false, newAttestation]
      cases out.csvEvidence evidenceBytes <;> rfl

/-! ## Sound appraisals -/

/-- What an appraisal may do: accept and mark only for test evidence or a report that was verified, and accept
    only what is registered. -/
structure Sound (x : Bytes) (s : State) (r : Option Bool × State) : Prop where
  accepted : r.1 = some true →
    (∃ f id sn tee, kindOf out x = .test f ∧
      (id, sn) ∈ [(f.measure, f.serialNumber), (f.serialNumber, f.measure)] ∧
      s.teeMap.lookup id = some tee ∧ tee.serialNumber = sn) ∨
    ∃ e hrk hskCek tee, kindOf out x = .csv (some e) ∧ Chain out.crypto hrk hskCek e ∧
      s.teeMap.lookup e.getMeasure = some tee ∧ tee.serialNumber = e.getSerialNumber
  changed : ∀ id, r.2.teeMap.lookup id ≠ s.teeMap.lookup id →
    (∃ tee, s.teeMap.lookup id = some tee ∧ r.2.teeMap.lookup id = some { tee with verified := true }) ∧
    ((∃ f, kindOf out x = .test f ∧ id ∈ [f.measure, f.serialNumber]) ∨
      ∃ e hrk hskCek, kindOf out x = .csv (some e) ∧ Chain out.crypto hrk hskCek e ∧ id = e.getMeasure)

variable {out}

/-- The verdict of a look-up depends on the serial numbers of the table only. -/
theorem update_fst (teeMap : TeeMap) (measure sn : Bytes) :
    (update teeMap measure sn).1 = decide ((teeMap.lookup measure).map (·.serialNumber) = some sn) := by
  rw [update]
  cases teeMap.lookup measure with
  | none => rfl
  | some tee => simp

/-- What is accepted is in the table, with its serial number. -/
theorem update_accepts {teeMap : TeeMap} {measure sn : Bytes} (h : (update teeMap measure sn).1 = true) :
    ∃ tee, teeMap.lookup measure = some tee ∧ tee.serialNumber = sn := by
  rw [update_fst, decide_eq_true_iff] at h
  exact Option.map_eq_some_iff.mp h

/-- Only the entry of the measure changes, by being marked. -/
theorem update_snd {teeMap : TeeMap} {measure sn id : Bytes}
    (h : (update teeMap measure sn).2.lookup id ≠ teeMap.lookup id) :
    id = measure ∧ ∃ tee, teeMap.lookup id = some tee ∧
      (update teeMap measure sn).2.lookup id = some { tee with verified := true } := by
  rw [update] at h ⊢
  split at h
  · exact absurd rfl h
  · rename_i tee hlookup
    by_cases hid : id = measure
    · subst hid
      refine ⟨rfl, tee, hlookup, ?_⟩
      simp only [AList.lookup_insert]
    · rw [AList.lookup_insert_ne hid] at h
      exact absurd rfl h

/-- An appraisal that leaves the table as it is and does not accept. -/
theorem Sound.refused {x : Bytes} {s : State} {r : Option Bool × State} (hverdict : r.1 ≠ some true)
    (hteeMap : r.2.teeMap = s.teeMap) : Sound out x s r where
  accepted h := absurd h hverdict
  changed := by
    intro id h
    rw [hteeMap] at h
    exact absurd rfl h

/-- For every evidence and every state of the server. -/
theorem appraisal_sound (out : Outside) (x : Bytes) (s : State) : Sound out x s (appraiseEvidence out x s) := by
  rw [appraiseEvidence, newVerifier_eq]
  cases hkind : kindOf out x with
  | bad => exact .refused (by simp) rfl
  | test f =>
    refine ⟨fun h => ?_, fun id h => ?_⟩
    · obtain ⟨tee, hlookup, hsn⟩ := update_accepts (Option.some.inj h)
      exact .inl ⟨f, f.serialNumber, f.measure, tee, hkind, by simp, hlookup, hsn⟩
    · obtain ⟨hid, hmarked⟩ := update_snd h
      exact ⟨hmarked, .inl ⟨f, hkind, by simp [hid]⟩⟩
  | csv evidence =>
    simp only [Verifier.verify]
    -- the getters read the object that `Verify` leaves, which has the same evidence
    rcases hverify : (s.attestation.takeEvidence evidence).verify out.crypto out.web with ⟨(err | _) | ⟨⟨⟩⟩, a⟩
    · exact .refused (by simp) rfl
    · exact .refused (by simp) rfl
    · obtain ⟨e, hrk, hskCek, he, hchain⟩ := Attestation.verify_eq_ok hverify
      have hobject : a.evidence = some e := by
        have hkept := (s.attestation.takeEvidence evidence).verify_evidence out.crypto out.web
        rwa [hverify, he] at hkept
      obtain rfl : evidence = some e := he
      simp only [Verifier.getMeasure, Verifier.getSerialNumber, Attestation.getMeasure_eq hobject,
        Attestation.getSerialNumber_eq hobject]
      refine ⟨fun h => ?_, fun id h => ?_⟩
      · obtain ⟨tee, hlookup, hsn⟩ := update_accepts (Option.some.inj h)
        exact .inr ⟨e, hrk, hskCek, tee, hkind, hchain, hlookup, hsn⟩
      · obtain ⟨hid, hmarked⟩ := update_snd h
        exact ⟨hmarked, .inr ⟨e, hrk, hskCek, hkind, hchain, hid⟩⟩

/-! ## Test evidence -/

/-- What an agent without a trusted environment sends: base64 of its compressed evidence. -/
def testEvidence : Bytes :=
  text <| "eJw1yksKgDAMRdGthIydOHUzxc9TC21aklYQce9a0Nnlci6OGK0qeODYc8cG9WNwUuME" ++
    "/WeBFZer5mQNlt0b4fALZAa9vSalZrxs9DGjJOHk+wFi2yJ5"

/-- Test evidence. -/
def testJson : Bytes :=
  text <| "\x7b\"measure\":\"m1\",\"serial_number\":\"m1\"," ++
    "\"test_purpose\":\"this evidence is for testing purposes only\"\x7d"

/-- Its measure, and its serial number. -/
def m1 : Bytes := text "m1"

/-- Nothing but the JSON is needed; `m1` is no base64, so it is no serial number of a report. -/
def testOutside : Outside where
  crypto :=
    { n := 1, scalarBaseMult := fun _ => (0, 0), scalarMult := fun p _ => .ok p, add := fun p _ => .ok p,
      double := fun p => .ok p, sm3 := fun _ => [] }
  web _ := none
  inflate z := if z = (Base64.decodeString testEvidence).1 then some testJson else none
  objectKeys json :=
    if json = testJson then some [text "measure", text "serial_number", testPurpose] else none
  fallbackVerifier json := if json = testJson then some { measure := m1, serialNumber := m1 } else none
  csvEvidence _ := none

/-- A server where the agent is registered. -/
def testState : State where
  attestation := .empty
  teeMap := AList.insert m1 { serialNumber := m1, verified := false } ∅

/-- It is accepted and its entry marked, without a report. -/
theorem testEvidence_accepted :
    let r := appraiseEvidence testOutside testEvidence testState
    r.1 = some true ∧ r.2.teeMap.lookup m1 = some { serialNumber := m1, verified := true } ∧
      ¬∃ e, kindOf testOutside testEvidence = .csv (some e) := by
  have hkind : kindOf testOutside testEvidence = .test { measure := m1, serialNumber := m1 } := by
    decide +kernel
  refine ⟨by decide +kernel, by decide +kernel, ?_⟩
  rintro ⟨e, he⟩
  rw [hkind] at he
  cases he

end OpenNHP.Server.Appraisal
