/-
  Attestation reports of CSV machines (`nhp/core/verifier/csv/csv.go`).

  THE PROGRAM.  A report comes with the certificate of the key that signed it (PEK).  The certificates above it are
  fetched from the vendor: the root's (HRK), whose digest is pinned, and the chip's (HSK and CEK), by the serial
  number that the evidence gives.  Certificates are byte strings read at fixed offsets.

  THE SPECIFICATION.  `Verify` accepts only where signatures lead from the pinned root down to the report (`Chain`,
  `verify_eq_ok`).

  THE CRUX.  What was fetched for one evidence is kept for the next, in fields of the attestation object.  It
  makes no difference as long as it is what would be fetched again (`verify_upToDate`), and an object that has
  only been used against one vendor has nothing else (`Current`).

  1. The structures of Go lie in memory as the source casts them, without padding (`memory`).
  2. `verifySignature` follows the source over any curve with the operations of `Crypto`; what it means for SM2 is
     said in `OpenNHP.Core.CsvSignature`.
-/
import Mathlib.Data.List.DropRight
import OpenNHP.Lib.Fallible
import OpenNHP.Lib.MinimalBytes
import OpenNHP.Lib.Tables

namespace OpenNHP.Core.Csv

open BigEndian
open Fallible (bind_eq_ok)

/-! ## Failures -/

/-- What `Verify` finds wrong. -/
inductive VerifyError
  | download
  | statusCode (code : Nat)
  | hrkDigest
  | keyUsage
  | curveId
  | certifyingId
  | sigUsage
  | sigAlgo
  | publicKeyLength
  | signatureLength
  | signature
  deriving DecidableEq, Repr

/-- An error, or a run-time panic. -/
inductive Failure
  | err (e : VerifyError)
  | panic
  deriving DecidableEq, Repr

/-! ## Slices -/

/-- A slice: bytes, and what is behind them in the same allocation, up to the capacity. -/
structure Slice where
  bytes : Bytes
  behind : Bytes
  deriving DecidableEq

namespace Slice

/-- `s[low:high]`, which may reach into the capacity. -/
def slice (s : Slice) (low high : Nat) : Except Failure Slice :=
  let all := s.bytes ++ s.behind
  if low ≤ high ∧ high ≤ all.length then
    .ok { bytes := (all.take high).drop low, behind := all.drop high }
  else .error .panic

/-- `s[low:]` -/
def sliceFrom (s : Slice) (low : Nat) : Except Failure Slice :=
  if low ≤ s.bytes.length then .ok { bytes := s.bytes.drop low, behind := s.behind } else .error .panic

/-- A field of a certificate. -/
def field (s : Slice) (low high : Nat) : Except Failure Bytes := do
  let part ← s.slice low high
  return part.bytes

end Slice

/-! ## Evidence -/

/-- `PubKey`: the curve and the two coordinates. -/
structure PubKey where
  g : UInt32
  x : Vector UInt8 72
  y : Vector UInt8 72
  deriving DecidableEq

/-- `Signature`. -/
structure Signature where
  r : Vector UInt8 72
  s : Vector UInt8 72
  deriving DecidableEq

/-- `AttestationBody`: what the report is about. -/
structure AttestationBody where
  userPubKeyDigest : Vector UInt8 32
  vmId : Vector UInt8 16
  vmVersion : Vector UInt8 16
  reportData : Vector UInt8 64
  mnonce : Vector UInt8 16
  measure : Vector UInt8 32
  policy : UInt32
  deriving DecidableEq

/-- `AttestationReport`; the fields of the body are masked with `anonce`. -/
structure AttestationReport where
  attestationBody : AttestationBody
  anonce : UInt32
  sig : Signature
  deriving DecidableEq

/-- `CsvPubkey`. -/
structure CsvPubkey where
  usage : UInt32
  algo : UInt32
  key : PubKey
  deriving DecidableEq

/-- `CsvCertificateData`. -/
structure CsvCertificateData where
  firmwareMajor : UInt8
  firmwareMinor : UInt8
  reserved1 : UInt16
  pubKey : CsvPubkey
  uidSize : UInt16
  userId : Vector UInt8 254
  sid : Vector UInt8 16
  reserved2 : Vector UInt8 608
  deriving DecidableEq

/-- `CsvCertificateBody`: what a certificate's signature is over. -/
structure CsvCertificateBody where
  version : UInt32
  data : CsvCertificateData
  deriving DecidableEq

/-- `CsvSignature`. -/
structure CsvSignature where
  usage : UInt32
  algo : UInt32
  signature : Signature
  reserved : Vector UInt8 368
  deriving DecidableEq

/-- `CsvCertificate`, in the evidence for the PEK. -/
structure CsvCertificate where
  body : CsvCertificateBody
  signature1 : CsvSignature
  signature2 : CsvSignature
  deriving DecidableEq

/-- `CsvEvidence`; of its certificates only the PEK's is read. -/
structure CsvEvidence where
  attestationReport : AttestationReport
  pek : CsvCertificate
  serialNumber : Bytes
  deriving DecidableEq

/-! ## Structures in memory -/

/-- Numbers lie in memory with their low byte first. -/
def le16 (x : UInt16) : Bytes := putLE 2 x.toNat

/-- Four bytes. -/
def le32 (x : UInt32) : Bytes := putLE 4 x.toNat

/-- The bytes of a structure, field by field. -/
def PubKey.memory (k : PubKey) : Bytes := le32 k.g ++ k.x.toList ++ k.y.toList

/-- Those of a signature, -/
def Signature.memory (sig : Signature) : Bytes := sig.r.toList ++ sig.s.toList

/-- of the body of a report, -/
def AttestationBody.memory (b : AttestationBody) : Bytes :=
  b.userPubKeyDigest.toList ++ b.vmId.toList ++ b.vmVersion.toList ++ b.reportData.toList ++ b.mnonce.toList ++
    b.measure.toList ++ le32 b.policy

/-- of a key, -/
def CsvPubkey.memory (k : CsvPubkey) : Bytes := le32 k.usage ++ le32 k.algo ++ k.key.memory

/-- of the body of a certificate, -/
def CsvCertificateBody.memory (b : CsvCertificateBody) : Bytes :=
  le32 b.version ++ [b.data.firmwareMajor, b.data.firmwareMinor] ++ le16 b.data.reserved1 ++
    b.data.pubKey.memory ++ le16 b.data.uidSize ++ b.data.userId.toList ++ b.data.sid.toList ++
    b.data.reserved2.toList

/-- of its signature, -/
def CsvSignature.memory (sig : CsvSignature) : Bytes :=
  le32 sig.usage ++ le32 sig.algo ++ sig.signature.memory ++ sig.reserved.toList

/-- and of a certificate. -/
def CsvCertificate.memory (c : CsvCertificate) : Bytes :=
  c.body.memory ++ c.signature1.memory ++ c.signature2.memory

/-! ## Signatures -/

/-- The library's curve (`sm2.P256`) and hash (`sm3`); operations on what is no point panic. -/
structure Crypto where
  n : Nat
  scalarBaseMult : Bytes → Nat × Nat
  scalarMult : Nat × Nat → Bytes → Except Failure (Nat × Nat)
  add : Nat × Nat → Nat × Nat → Except Failure (Nat × Nat)
  double : Nat × Nat → Except Failure (Nat × Nat)
  sm3 : Bytes → Bytes

/-- The parameters of SM2 in hashed form: `SM2A`, `SM2B`, `SM2GX` and `SM2GY`. -/
def ecKey : Bytes :=
  putBE 32 0xfffffffeffffffffffffffffffffffffffffffff00000000fffffffffffffffc ++
    putBE 32 0x28e9fa9e9d9f5e344d5a9e4bcf6509a7f39789f515ab8f92ddbcbd414d940e93 ++
    putBE 32 0x32c4ae2c1f1981195f9904466a39c9948fe30bbff2660be1715a4589334c74c7 ++
    putBE 32 0xbc3736a2f4f6779c59bdcee36b692153d0a9877cc62a474002df32e52139f0a0

/-- `buildIDMsg`: the bytes whose digest goes before a signed message. -/
def buildIDMsg (id pubkey : Bytes) : Bytes :=
  UInt8.ofNat (id.length * 8 / 256) :: UInt8.ofNat (id.length * 8) :: id ++ ecKey ++ pubkey

variable (crypto : Crypto)

/-- `VerifySignature`. -/
def verifySignature (pub : Nat × Nat) (hash : Bytes) (r s : Nat) : Except Failure Bool :=
  if r = 0 ∨ s = 0 ∨ crypto.n ≤ r ∨ crypto.n ≤ s then .ok false
  else do
    let t := (r + s) % crypto.n
    let e := getBE hash
    -- `[s]G` and `[t]PubKey`
    let p1 := crypto.scalarBaseMult (bytes s)
    let p2 ← crypto.scalarMult pub (bytes t)
    let p ← if p1 = p2 then crypto.double p1 else crypto.add p1 p2
    return r = (p.1 + e) % crypto.n

/-- Key and signature come least significant byte first. -/
def verifySm2SignatureWithId (qx qy r s id msg : Bytes) : Except Failure Unit :=
  if qx.length ≠ 32 ∨ qy.length ≠ 32 then .error (.err .publicKeyLength)
  else if r.length ≠ 32 ∨ s.length ≠ 32 then .error (.err .signatureLength)
  else do
    let za := crypto.sm3 (buildIDMsg id (qx.reverse ++ qy.reverse))
    let msgAllDigest := crypto.sm3 (za ++ msg)
    let valid ← verifySignature crypto (getBE qx.reverse, getBE qy.reverse) msgAllDigest (getBE r.reverse)
      (getBE s.reverse)
    if valid then .ok () else .error (.err .signature)

/-! ## Certificates -/

/-- The checks of a CA certificate's fields. -/
def verifyHygonCertInfo (cert : Slice) (curveId keyUsage : Nat) (keyId : Bytes) : Except Failure Unit := do
  let hygonKeyUsage ← cert.field 0x24 0x28
  if getLE hygonKeyUsage ≠ keyUsage then .error (.err .keyUsage)
  else do
    let hygonCurveId ← cert.field 0x40 0x44
    if getLE hygonCurveId ≠ curveId then .error (.err .curveId)
    else do
      let hygonCertifyingId ← cert.field 0x14 0x24
      if hygonCertifyingId ≠ keyId then .error (.err .certifyingId) else .ok ()

/-- The checks of a CSV certificate's fields. -/
def verifyCSVCertInfo (csvCert : Slice) (sigUsage sigAlgo keyUsage : Nat) (keyId : Bytes) :
    Except Failure Unit := do
  let csvKeyUsage ← csvCert.field 0x08 0x0C
  if getLE csvKeyUsage ≠ keyUsage then .error (.err .keyUsage)
  else do
    let csvSigUsage ← csvCert.field 0x414 0x418
    if getLE csvSigUsage ≠ sigUsage then .error (.err .sigUsage)
    else do
      let csvSigAlgo ← csvCert.field 0x418 0x41C
      if getLE csvSigAlgo ≠ sigAlgo then .error (.err .sigAlgo)
      else do
        let csvCertifyingId ← csvCert.field 0x1a4 0x1b4
        if csvCertifyingId ≠ keyId then .error (.err .certifyingId) else .ok ()

/-- Where a certificate has its key and the length of its id, which follows. -/
structure KeyLayout where
  x : Nat
  y : Nat
  idLen : Nat

/-- Where a certificate has its signature, and the length of what is signed. -/
structure SigLayout where
  r : Nat
  s : Nat
  body : Nat

/-- Where HRK and HSK have their keys, -/
def caKey : KeyLayout := { x := 0x44, y := 0x8c, idLen := 0xd4 }

/-- and their signatures. -/
def caSig : SigLayout := { r := 0x240, s := 0x288, body := 0x240 }

/-- Where CEK and PEK have their keys, -/
def csvKey : KeyLayout := { x := 0x14, y := 0x5c, idLen := 0xa4 }

/-- and their signatures. -/
def csvSig : SigLayout := { r := 0x41c, s := 0x464, body := 0x414 }

/-- The check of a certificate's signature under the key of another certificate. -/
def verifyCert (signer : Slice) (key : KeyLayout) (cert : Slice) (sig : SigLayout) : Except Failure Unit := do
  let idLen ← signer.field key.idLen (key.idLen + 2)
  let qx ← signer.field key.x (key.x + 32)
  let qy ← signer.field key.y (key.y + 32)
  let r ← cert.field sig.r (sig.r + 32)
  let s ← cert.field sig.s (sig.s + 32)
  let id ← signer.field (key.idLen + 2) (key.idLen + 2 + getLE idLen)
  let body ← cert.field 0 sig.body
  verifySm2SignatureWithId crypto qx qy r s id body

/-- `f5a46663…`: the digest of the root's certificate. -/
def expectedDigest : Bytes := putBE 32 0xf5a46663059fdb4cdd06d097ed21782142923bb3430b3b938f23d54292094e3a

/-- What the vendor's server answers: nothing, or a status and the body if it can be read. -/
abbrev Web : Type := Bytes → Option (Nat × Option Slice)

/-- `download`, with the answers of the web as an argument. -/
def download (web : Web) (url : Bytes) : Except Failure Slice :=
  match web url with
  | none => .error (.err .download)
  | some (code, body) =>
    if code ≠ 200 then .error (.err (.statusCode code))
    else match body with
      | none => .error (.err .download)
      | some data => .ok data

/-- Where the root is fetched. -/
def hrkUrl : Bytes := "https://cert.hygon.cn/hrk".toUTF8.data.toList

/-- Where the certificates of a chip are. -/
def hskCekUrl (chipId : Bytes) : Bytes :=
  "https://cert.hygon.cn/hsk_cek?snumber=".toUTF8.data.toList ++ chipId

/-- `verifyCertChain`, the root's certificate: its digest is pinned, and it is signed by itself. -/
def verifyHrk (hrk : Slice) : Except Failure Unit :=
  if crypto.sm3 hrk.bytes ≠ expectedDigest then .error (.err .hrkDigest)
  else do
    let keyId ← hrk.field 0x04 0x14
    verifyHygonCertInfo hrk 0x03 0 keyId
    verifyCert crypto hrk caKey hrk caSig

/-- `verifyHsk`: its key's name and its signature by the root. -/
def verifyHsk (hrk hskCek hskData : Slice) : Except Failure Unit := do
  let keyId ← hrk.field 0x04 0x14
  verifyHygonCertInfo hskData 0x03 0x13 keyId
  verifyCert crypto hrk caKey hskCek caSig

/-- `verifyCek`: the same by the HSK. -/
def verifyCek (hskData cekData : Slice) : Except Failure Unit := do
  let keyId ← hskData.field 0x04 0x14
  verifyCSVCertInfo cekData 0x13 0x04 0x1004 keyId
  verifyCert crypto hskData caKey cekData csvSig

/-- The id that the PEK's certificate names is compared with bytes of the HSK's certificate. -/
def verifyPek (hskData cekData : Slice) (pek : CsvCertificate) : Except Failure Unit := do
  let pekData : Slice := { bytes := pek.memory, behind := [] }
  let keyId ← hskData.field 0x1a4 0x1b4
  verifyCSVCertInfo pekData 0x1004 0x04 0x1002 keyId
  verifyCert crypto cekData csvKey pekData csvSig

/-- The certificates below the root's. -/
def verifyBelow (hrk hskCek : Slice) (pek : CsvCertificate) : Except Failure Unit := do
  let hskData ← hskCek.slice 0 0x340
  let cekData ← hskCek.sliceFrom 0x340
  verifyHsk crypto hrk hskCek hskData
  verifyCek crypto hskData cekData
  verifyPek crypto hskData cekData pek

/-! ## Reports -/

/-- The report's signature under the PEK. -/
def verifyReport (e : CsvEvidence) : Except Failure Unit :=
  let data := e.pek.body.data
  let report := e.attestationReport
  -- `UserId[:UidSize]`
  if 254 < data.uidSize.toNat then .error .panic
  else
    verifySm2SignatureWithId crypto (data.pubKey.key.x.toList.take 32) (data.pubKey.key.y.toList.take 32)
      (report.sig.r.toList.take 32) (report.sig.s.toList.take 32) (data.userId.toList.take data.uidSize.toNat)
      report.attestationBody.memory

/-- `GetSerialNumber`, without the zeros at its end. -/
def CsvEvidence.getSerialNumber (e : CsvEvidence) : Bytes := e.serialNumber.rdropWhile (· == 0)

/-- Four bytes under the mask. -/
def xorGroup (group : Bytes) (anonce : UInt32) : Bytes := putLE 4 (getLE group ^^^ anonce.toNat)

/-- `performXORBy4BytesGroup`. -/
def performXORBy4BytesGroup (anonce : UInt32) : Bytes → Bytes
  | a :: b :: c :: d :: data => xorGroup [a, b, c, d] anonce ++ performXORBy4BytesGroup anonce data
  -- a partial group is read as if zeros followed
  | part => (xorGroup part anonce).take part.length

/-- A letter of `hex.EncodeToString`. -/
def hexDigit (n : Nat) : UInt8 := UInt8.ofNat (if n < 10 then 48 + n else 87 + n)

/-- `hex.EncodeToString` -/
def hexString (bs : Bytes) : Bytes := bs.flatMap fun b => [hexDigit (b.toNat / 16), hexDigit (b.toNat % 16)]

/-- `GetMeasure`: the measure without its mask. -/
def CsvEvidence.getMeasure (e : CsvEvidence) : Bytes :=
  let report := e.attestationReport
  hexString (performXORBy4BytesGroup report.anonce report.attestationBody.measure.toList)

/-! ## The attestation object -/

/-- `Attestation`: the evidence to look at, and the certificates fetched so far. -/
structure Attestation where
  evidence : Option CsvEvidence
  hrk : Option Slice
  hskCek : AList fun _ : Bytes => Slice

namespace Attestation

/-- The object that the first `NewAttestation` makes. -/
def empty : Attestation := { evidence := none, hrk := none, hskCek := ∅ }

/-- Asked of the attestation object, which panics without evidence, -/
def getSerialNumber (a : Attestation) : Except Failure Bytes :=
  match a.evidence with
  | none => .error .panic
  | some e => .ok e.getSerialNumber

/-- as it does for the measure. -/
def getMeasure (a : Attestation) : Except Failure Bytes :=
  match a.evidence with
  | none => .error .panic
  | some e => .ok e.getMeasure

/-- With evidence it is that of the evidence. -/
theorem getSerialNumber_eq {a : Attestation} {e : CsvEvidence} (h : a.evidence = some e) :
    a.getSerialNumber = .ok e.getSerialNumber := by
  rw [getSerialNumber, h]

/-- And so is the measure. -/
theorem getMeasure_eq {a : Attestation} {e : CsvEvidence} (h : a.evidence = some e) :
    a.getMeasure = .ok e.getMeasure := by
  rw [getMeasure, h]

/-- What `NewAttestation` does to the object once the evidence is read; JSON's `null` is read as none. -/
def takeEvidence (a : Attestation) (evidence : Option CsvEvidence) : Attestation :=
  { a with evidence := evidence, hskCek := ∅ }

variable (web : Web)

/-- The root's certificate is fetched once. -/
def loadHrk (a : Attestation) : Except Failure Slice × Attestation :=
  match a.hrk with
  | some hrk => (.ok hrk, a)
  | none =>
    match download web hrkUrl with
    | .error err => (.error err, a)
    | .ok hrk => (.ok hrk, { a with hrk := some hrk })

/-- The certificates of a chip are fetched once for an evidence. -/
def loadHskCek (a : Attestation) (chipId : Bytes) : Except Failure Slice × Attestation :=
  match a.hskCek.lookup chipId with
  | some hskCek => (.ok hskCek, a)
  | none =>
    match download web (hskCekUrl chipId) with
    | .error err => (.error err, a)
    | .ok hskCek => (.ok hskCek, { a with hskCek := a.hskCek.insert chipId hskCek })

/-- What has been fetched stays fetched when a check fails. -/
def verifyCertChain (a : Attestation) (chipId : Bytes) (pek : CsvCertificate) :
    Except Failure Unit × Attestation :=
  match a.loadHrk web with
  | (.error err, a) => (.error err, a)
  | (.ok hrk, a) =>
    match verifyHrk crypto hrk with
    | .error err => (.error err, a)
    | .ok () =>
      match a.loadHskCek web chipId with
      | (.error err, a) => (.error err, a)
      | (.ok hskCek, a) => (verifyBelow crypto hrk hskCek pek, a)

/-- `Verify`: the chain of certificates, and then the report. -/
def verify (a : Attestation) : Except Failure Unit × Attestation :=
  match a.evidence with
  | none => (.error .panic, a)
  | some e =>
    match a.verifyCertChain crypto web e.getSerialNumber e.pek with
    | (.error err, a) => (.error err, a)
    | (.ok (), a) => (verifyReport crypto e, a)

end Attestation

/-! ## What acceptance takes -/

/-- Signatures lead from the pinned root down to the report. -/
structure Chain (hrk hskCek : Slice) (e : CsvEvidence) : Prop where
  pinned : crypto.sm3 hrk.bytes = expectedDigest
  signed : ∃ hskData cekData, hskCek.slice 0 0x340 = .ok hskData ∧ hskCek.sliceFrom 0x340 = .ok cekData ∧
    verifyCert crypto hrk caKey hskCek caSig = .ok () ∧
    verifyCert crypto hskData caKey cekData csvSig = .ok () ∧
    verifyCert crypto cekData csvKey { bytes := e.pek.memory, behind := [] } csvSig = .ok ()
  report : verifyReport crypto e = .ok ()

variable {crypto} {web : Web}

/-- An accepted root has the pinned digest. -/
theorem verifyHrk_eq_ok {hrk : Slice} (h : verifyHrk crypto hrk = .ok ()) :
    crypto.sm3 hrk.bytes = expectedDigest := by
  by_contra hdigest
  rw [verifyHrk, if_pos hdigest] at h
  cases h

/-- An accepted HSK is signed by the root, -/
theorem verifyHsk_eq_ok {hrk hskCek hskData : Slice} (h : verifyHsk crypto hrk hskCek hskData = .ok ()) :
    verifyCert crypto hrk caKey hskCek caSig = .ok () := by
  obtain ⟨keyId, -, h⟩ := bind_eq_ok h
  obtain ⟨⟨⟩, -, h⟩ := bind_eq_ok h
  exact h

/-- an accepted CEK by the HSK, -/
theorem verifyCek_eq_ok {hskData cekData : Slice} (h : verifyCek crypto hskData cekData = .ok ()) :
    verifyCert crypto hskData caKey cekData csvSig = .ok () := by
  obtain ⟨keyId, -, h⟩ := bind_eq_ok h
  obtain ⟨⟨⟩, -, h⟩ := bind_eq_ok h
  exact h

/-- and an accepted PEK by the CEK. -/
theorem verifyPek_eq_ok {hskData cekData : Slice} {pek : CsvCertificate}
    (h : verifyPek crypto hskData cekData pek = .ok ()) :
    verifyCert crypto cekData csvKey { bytes := pek.memory, behind := [] } csvSig = .ok () := by
  obtain ⟨keyId, -, h⟩ := bind_eq_ok h
  obtain ⟨⟨⟩, -, h⟩ := bind_eq_ok h
  exact h

/-- The checks together are the chain. -/
theorem Chain.of_eq_ok {hrk hskCek : Slice} {e : CsvEvidence} (hhrk : verifyHrk crypto hrk = .ok ())
    (hbelow : verifyBelow crypto hrk hskCek e.pek = .ok ()) (hreport : verifyReport crypto e = .ok ()) :
    Chain crypto hrk hskCek e := by
  obtain ⟨hskData, hhsk, hbelow⟩ := bind_eq_ok hbelow
  obtain ⟨cekData, hcek, hbelow⟩ := bind_eq_ok hbelow
  obtain ⟨⟨⟩, hsigned, hbelow⟩ := bind_eq_ok hbelow
  obtain ⟨⟨⟩, hsigned', hpek⟩ := bind_eq_ok hbelow
  exact ⟨verifyHrk_eq_ok hhrk, ⟨hskData, cekData, hhsk, hcek, verifyHsk_eq_ok hsigned,
    verifyCek_eq_ok hsigned', verifyPek_eq_ok hpek⟩, hreport⟩

namespace Attestation

section

variable (crypto web)

/-- Fetching leaves the evidence, -/
theorem loadHrk_evidence (a : Attestation) : (a.loadHrk web).2.evidence = a.evidence := by
  rw [loadHrk]
  split
  · rfl
  · split <;> rfl

/-- of the chip's certificates too, -/
theorem loadHskCek_evidence (a : Attestation) (chipId : Bytes) :
    (a.loadHskCek web chipId).2.evidence = a.evidence := by
  rw [loadHskCek]
  split
  · rfl
  · split <;> rfl

/-- `Verify` touches the object only by fetching certificates. -/
theorem verify_keeps {P : Attestation → Prop} (hhrk : ∀ a, P a → P (a.loadHrk web).2)
    (hhskCek : ∀ a chipId, P a → P (a.loadHskCek web chipId).2) {a : Attestation} (h : P a) :
    P (a.verify crypto web).2 := by
  have hchain : ∀ chipId pek, P (a.verifyCertChain crypto web chipId pek).2 := by
    intro chipId pek
    have hloaded := hhrk a h
    rw [verifyCertChain]
    split
    · rename_i hload
      rwa [hload] at hloaded
    · rename_i hrk a₁ hload
      rw [hload] at hloaded
      have hloaded' := hhskCek a₁ chipId hloaded
      split
      · exact hloaded
      · split
        all_goals
          rename_i hload'
          rwa [hload'] at hloaded'
  rw [verify]
  split
  · exact h
  · rename_i e he
    have hchecked := hchain e.getSerialNumber e.pek
    split
    all_goals
      rename_i hresult
      rwa [hresult] at hchecked

/-- and so does the whole of `Verify`. -/
theorem verify_evidence (a : Attestation) : (a.verify crypto web).2.evidence = a.evidence :=
  verify_keeps crypto web (P := fun a' => a'.evidence = a.evidence)
    (fun a' h => (a'.loadHrk_evidence web).trans h)
    (fun a' chipId h => (a'.loadHskCek_evidence web chipId).trans h) rfl

end

/-- `Verify` accepts only where signatures lead from the pinned root to the report. -/
theorem verify_eq_ok {a a' : Attestation} (h : a.verify crypto web = (.ok (), a')) :
    ∃ e hrk hskCek, a.evidence = some e ∧ Chain crypto hrk hskCek e := by
  rw [verify] at h
  split at h
  · cases h
  · rename_i e he
    split at h
    · cases h
    · rename_i a₁ hchain
      rw [verifyCertChain] at hchain
      split at hchain
      · cases hchain
      · rename_i hrk a₂ hload
        split at hchain
        · cases hchain
        · rename_i hhrk
          split at hchain
          · cases hchain
          · rename_i hskCek a₃ hload'
            exact ⟨e, hrk, hskCek, he, .of_eq_ok hhrk (congrArg Prod.fst hchain) (congrArg Prod.fst h)⟩

/-! ## The certificates fetched so far -/

section

variable (web) in
/-- Those that a look at a chip's report takes are what the vendor's server answers. -/
def UpToDate (a : Attestation) (chipId : Bytes) : Prop :=
  (∀ x ∈ a.hrk, download web hrkUrl = .ok x) ∧
    ∀ x ∈ a.hskCek.lookup chipId, download web (hskCekUrl chipId) = .ok x

instance (a : Attestation) (chipId : Bytes) : Decidable (a.UpToDate web chipId) :=
  inferInstanceAs (Decidable (_ ∧ _))

/-- A root that is kept is the one that would be fetched. -/
theorem loadHrk_upToDate {a : Attestation} (h : ∀ x ∈ a.hrk, download web hrkUrl = .ok x) :
    (a.loadHrk web).1 = download web hrkUrl ∧ (a.loadHrk web).2.hskCek = a.hskCek := by
  rw [loadHrk]
  split
  · rename_i hrk hfetched
    exact ⟨(h hrk hfetched).symm, rfl⟩
  · split
    · rename_i err herr
      exact ⟨herr.symm, rfl⟩
    · rename_i hrk hok
      exact ⟨hok.symm, rfl⟩

/-- So are the certificates of a chip. -/
theorem loadHskCek_upToDate {a : Attestation} {chipId : Bytes}
    (h : ∀ x ∈ a.hskCek.lookup chipId, download web (hskCekUrl chipId) = .ok x) :
    (a.loadHskCek web chipId).1 = download web (hskCekUrl chipId) := by
  rw [loadHskCek]
  split
  · rename_i hskCek hfetched
    exact (h hskCek hfetched).symm
  · split
    · rename_i err herr
      exact herr.symm
    · rename_i hskCek hok
      exact hok.symm

variable (crypto web) in
/-- The verdict on an evidence, with every certificate fetched anew. -/
def judge (e : CsvEvidence) : Except Failure Unit := do
  let hrk ← download web hrkUrl
  verifyHrk crypto hrk
  let hskCek ← download web (hskCekUrl e.getSerialNumber)
  verifyBelow crypto hrk hskCek e.pek
  verifyReport crypto e

/-- A good verdict has a chain. -/
theorem judge_eq_ok {e : CsvEvidence} (h : judge crypto web e = .ok ()) :
    ∃ hrk hskCek, Chain crypto hrk hskCek e := by
  obtain ⟨hrk, -, h⟩ := bind_eq_ok h
  obtain ⟨⟨⟩, hhrk, h⟩ := bind_eq_ok h
  obtain ⟨hskCek, -, h⟩ := bind_eq_ok h
  obtain ⟨⟨⟩, hbelow, hreport⟩ := bind_eq_ok h
  exact ⟨hrk, hskCek, .of_eq_ok hhrk hbelow hreport⟩

variable (crypto) in
/-- What was fetched before makes no difference where the vendor's server would still answer it. -/
theorem verify_upToDate {a : Attestation} {e : CsvEvidence} (he : a.evidence = some e)
    (h : a.UpToDate web e.getSerialNumber) : (a.verify crypto web).1 = judge crypto web e := by
  -- both go through the same fetches and checks, and stop at the same one
  obtain ⟨hhrk, hsame⟩ := loadHrk_upToDate h.1
  rw [verify, he, judge, ← hhrk]
  simp only [verifyCertChain]
  rcases hload : a.loadHrk web with ⟨err | hrk, a₁⟩
  · rfl
  · rw [hload] at hsame
    have hsame : a₁.hskCek = a.hskCek := hsame
    rw [← loadHskCek_upToDate (a := a₁) (by rw [hsame]; exact h.2)]
    rcases hcheck : verifyHrk crypto hrk with err | ⟨⟨⟩⟩
    · simp only [hcheck]
      simp [hcheck, bind, Except.bind]
    · rcases hload' : a₁.loadHskCek web e.getSerialNumber with ⟨err | hskCek, a₂⟩
      · simp only [hcheck, hload']
        simp [hcheck, bind, Except.bind]
      · rcases hbelow : verifyBelow crypto hrk hskCek e.pek with err | ⟨⟨⟩⟩
        · simp only [hcheck, hload', hbelow]
          simp [hcheck, hbelow, bind, Except.bind]
        · simp only [hcheck, hload', hbelow]
          simp [hcheck, hbelow, bind, Except.bind]

/-! ### A server that always answers the same -/

variable (web) in
/-- What is kept is up to date for every chip. -/
def Current (a : Attestation) : Prop := ∀ chipId, a.UpToDate web chipId

/-- A new object has nothing, -/
theorem current_empty : empty.Current web := by
  intro chipId
  refine ⟨fun x h => ?_, fun x h => ?_⟩
  · cases h
  · cases h

/-- takes evidence, -/
theorem Current.takeEvidence {a : Attestation} (h : a.Current web) (evidence : Option CsvEvidence) :
    (a.takeEvidence evidence).Current web :=
  fun chipId => ⟨(h chipId).1, (current_empty chipId).2⟩

/-- and keeps what it fetches: the root -/
theorem Current.loadHrk {a : Attestation} (h : a.Current web) : (a.loadHrk web).2.Current web := by
  rw [Attestation.loadHrk]
  split
  · exact h
  · split
    · exact h
    · rename_i hrk hok
      intro chipId
      refine ⟨fun x hx => ?_, (h chipId).2⟩
      cases hx
      exact hok

/-- and the certificates of chips. -/
theorem Current.loadHskCek {a : Attestation} (h : a.Current web) (chipId : Bytes) :
    (a.loadHskCek web chipId).2.Current web := by
  rw [Attestation.loadHskCek]
  split
  · exact h
  · split
    · exact h
    · rename_i hskCek hok
      intro chipId'
      refine ⟨(h chipId).1, fun x hx => ?_⟩
      rw [AList.lookup_insert_eq_ite] at hx
      split_ifs at hx with hsame
      · subst hsame
        cases hx
        exact hok
      · exact (h chipId').2 x hx

/-- What `Verify` fetches is up to date. -/
theorem Current.verify {a : Attestation} (h : a.Current web) : (a.verify crypto web).2.Current web :=
  verify_keeps crypto web (fun _ h => h.loadHrk) (fun _ chipId h => h.loadHskCek chipId) h

end

end Attestation

end OpenNHP.Core.Csv
