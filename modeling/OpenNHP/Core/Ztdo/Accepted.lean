/-
  The files `DecryptZtdoFile` accepts.

  THE PROGRAM.  The reader goes on with payloads while the remaining size is above that of the trailer; what it
  subtracts each time is the size that the structure just read would marshal to.

  THE CRUX.  The remaining size counts marshalled bytes and not bytes read, so a structure that was read short
  drives it below zero and the payload loop on to `io.EOF`.  A file that is accepted has been read to its last
  byte.

  1. An accepted file is a header, payloads that all decrypt, and a trailer of the size the header asks for,
     without a byte more or less (`sections_of_decrypt`).
  2. The sections of a file are its own: two headers of one file are equal (`header_unique`), and so are the
     payloads that fill what lies between (`payloads_unique`).
-/
import OpenNHP.Core.Ztdo.File

namespace OpenNHP.Core.Ztdo

variable {β : Type} [Letter β] {C : FileCrypto β}

/-- A payload loop that gets through had bytes remaining. -/
theorem readPayloads_pos {h : ZtdoHeader β} {key ad : List β} {fuel : Nat} {s : Reader β}
    {remaining : Int} {sig : ZtdoSignature β} {plaintext out : List β}
    {r : Reader β × ZtdoSignature β}
    (hr : readPayloads C h key ad fuel s remaining sig plaintext = (out, .ok r)) : 0 < remaining := by
  induction fuel generalizing s remaining sig plaintext with
  | zero =>
    obtain ⟨_, _, _, _, hfuel, -⟩ := readPayloads_ok C hr
    exact absurd hfuel (by omega)
  | succ fuel ih =>
    obtain ⟨fuel', p, s', text, hfuel, -, -, hturn⟩ := readPayloads_ok C hr
    obtain rfl := Nat.succ.inj hfuel
    have hpos := marshal_payload_pos p
    rcases hturn with ⟨hstop, -⟩ | hnext
    · omega
    · have hrest := ih hnext
      omega

/-- What a payload loop that gets through has taken from the file. -/
theorem readPayloads_sections {h : ZtdoHeader β} {key ad : List β} {fuel : Nat} {s s' : Reader β}
    {remaining : Int} (hrem : remaining = s.rest.length) {sig sig' : ZtdoSignature β}
    {plaintext out : List β}
    (hr : readPayloads C h key ad fuel s remaining sig plaintext = (out, .ok (s', sig'))) :
    ∃ ps texts, List.Forall₂ (Opens C h key ad) ps texts ∧ ps ≠ [] ∧
      s.rest = payloadLetters ps ++ s'.rest ∧ s'.rest.length = h.stopSize ∧
      sig' = mixPayloads C sig ps ∧ out = plaintext ++ texts.flatten := by
  induction fuel generalizing s remaining sig plaintext with
  | zero =>
    obtain ⟨_, _, _, _, hfuel, -⟩ := readPayloads_ok C hr
    exact absurd hfuel (by omega)
  | succ fuel ih =>
    obtain ⟨fuel', p, s₁, text, hfuel, hread, hopen, hturn⟩ := readPayloads_ok C hr
    obtain rfl := Nat.succ.inj hfuel
    rcases payload_ok hread with ⟨hwf, hrest⟩ | hcut
    · have hlen := congrArg List.length hrest
      rw [List.length_append] at hlen
      have hrem' : remaining - (marshal ZtdoPayload.fields p).length = s₁.rest.length := by omega
      rcases hturn with ⟨hstop, rfl, hend⟩ | hnext
      · obtain ⟨rfl, rfl⟩ := Prod.mk.inj hend
        refine ⟨[p], [text], .cons ⟨hwf, hopen⟩ .nil, List.cons_ne_nil _ _, ?_, by omega, rfl, ?_⟩
        · rw [payloadLetters, List.flatMap_singleton, hrest]
        · rw [List.flatten_cons, List.flatten_nil, List.append_nil]
      · obtain ⟨ps, texts, hps, -, hrest', hstop, rfl, rfl⟩ := ih hrem' hnext
        refine ⟨p :: ps, text :: texts, .cons ⟨hwf, hopen⟩ hps, List.cons_ne_nil _ _, ?_, hstop, rfl,
          ?_⟩
        · rw [hrest, hrest', payloadLetters, payloadLetters, List.flatMap_cons, List.append_assoc]
        · rw [List.flatten_cons, List.append_assoc]
    · -- a payload read short leaves less than nothing
      obtain ⟨p', s₁', hread', hlong⟩ := payload_cut hcut (ZtdoPayload.new (Arr.zero ivSize))
      obtain rfl : p = p' := congrArg Outcome.value (hread.symm.trans hread')
      rcases hturn with ⟨hstop, -⟩ | hnext
      · omega
      · have hpos := readPayloads_pos hnext
        omega

/-- An accepted file is made of sections, and under the signature flag its trailer is the signature
    recomputed from them. -/
theorem sections_of_decrypt [DecidableEq β] {z : Ztdo β} {uuid : Arr β objectIDSize} {s : Reader β}
    {key ad : List β} (hok : (decryptZtdoFile C z uuid s key ad).err = none) :
    ∃ h ps texts trailer, h.WellFormed ∧ List.Forall₂ (Opens C h key ad) ps texts ∧ ps ≠ [] ∧
      s.rest = marshal ZtdoHeader.fields h ++ (payloadLetters ps ++ trailer) ∧
      trailer.length = h.stopSize ∧
      (h.hasSignature = true → trailer = (recalcSignature C h ps key).signature.1) := by
  obtain ⟨h, s₁, s₂, sig, hread, hloop, -, hverify⟩ := decrypt_ok C hok
  rcases header_ok rfl hread with ⟨hwf, hrest⟩ | hcut
  · have hrem : (s.rest.length : Int) - (marshal ZtdoHeader.fields h).length = s₁.rest.length := by
      rw [hrest, List.length_append]
      omega
    obtain ⟨ps, texts, hps, hne, hrest', hstop, rfl, -⟩ := readPayloads_sections hrem hloop
    refine ⟨h, ps, texts, s₂.rest, hwf, hps, hne, by rw [hrest, hrest'], hstop, fun hsig => ?_⟩
    obtain ⟨trailer, s₃, htrail, heq⟩ := hverify hsig
    rw [ZtdoHeader.stopSize, if_pos hsig] at hstop
    obtain ⟨s₄, htrail', -⟩ := toStructure_signature ⟨⟨s₂.rest, hstop⟩⟩ z.signature
      (show s₂.rest = s₂.rest ++ [] from (List.append_nil _).symm)
    obtain rfl : trailer = ⟨⟨s₂.rest, hstop⟩⟩ := congrArg Outcome.value (htrail.symm.trans htrail')
    exact congrArg Subtype.val heq
  · -- a header read short leaves less than nothing
    obtain ⟨h', s₁', hread', hlong⟩ := header_cut hcut (v := ZtdoHeader.new uuid) rfl
    obtain rfl : h = h' := congrArg Outcome.value (hread.symm.trans hread')
    have hpos := readPayloads_pos hloop
    omega

/-- A file begins with one header at most. -/
theorem header_unique {h h' : ZtdoHeader β} (hwf : h.WellFormed) (hwf' : h'.WellFormed)
    {rest rest' : List β}
    (heq : marshal ZtdoHeader.fields h ++ rest = marshal ZtdoHeader.fields h' ++ rest') : h = h' := by
  obtain ⟨s, hread, -⟩ := toStructure_header hwf (s := Reader.ofFile _) rfl
    (v := ZtdoHeader.new (Arr.zero _)) rfl
  obtain ⟨s', hread', -⟩ := toStructure_header hwf' (s := Reader.ofFile _) heq
    (v := ZtdoHeader.new (Arr.zero _)) rfl
  exact congrArg Outcome.value (hread.symm.trans hread')

/-- Payloads that read back are told apart by their letters. -/
theorem payloads_unique {ps qs : List (ZtdoPayload β)} (hps : ∀ p ∈ ps, p.WellFormed)
    (hqs : ∀ q ∈ qs, q.WellFormed)
    (heq : ps.map (marshal ZtdoPayload.fields) = qs.map (marshal ZtdoPayload.fields)) : ps = qs := by
  induction ps generalizing qs with
  | nil => exact (List.map_eq_nil_iff.mp heq.symm).symm
  | cons p ps ih =>
    cases qs with
    | nil => exact absurd heq (by simp)
    | cons q qs =>
      obtain ⟨hletters, htail⟩ := List.cons.inj heq
      obtain ⟨s, hread, -⟩ := toStructure_payload (hps p List.mem_cons_self)
        (s := Reader.ofFile (marshal ZtdoPayload.fields p)) (List.append_nil _).symm
        (ZtdoPayload.new (Arr.zero ivSize))
      obtain ⟨s', hread', -⟩ := toStructure_payload (hqs q List.mem_cons_self)
        (s := Reader.ofFile (marshal ZtdoPayload.fields p))
        (hletters.trans (List.append_nil _).symm) (ZtdoPayload.new (Arr.zero ivSize))
      obtain rfl : p = q := congrArg Outcome.value (hread.symm.trans hread')
      rw [ih (fun p' hp' => hps p' (List.mem_cons_of_mem _ hp'))
        (fun q' hq' => hqs q' (List.mem_cons_of_mem _ hq')) htail]

end OpenNHP.Core.Ztdo
