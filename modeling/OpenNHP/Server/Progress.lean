/-
  The progress of uploads (`ProgressWriter` and `/progress/:uuid` in `endpoints/server/httpstorage.go`).

  THE PROGRAM.  Behind each write to its file, an upload puts the bytes so far and its total into a table, under
  its UUID and under the UUID with `_total` behind it; when it is stored, the first of the two entries goes.

  THE SPECIFICATION.  An upload that is copied shows what is on the disk: all of it once the last write is
  reported, nothing before the first one is, and an earlier count between a write and its report.  One that is
  stored shows nothing.  One whose content was there already shows that it is complete for good, though there is
  nothing under its UUID; and the totals stay, so that `<uuid>_total` passes for an upload of which they are the
  bytes so far (`progress_kept`).

  THE CRUX.  The table has keys of two kinds under one type.  They differ in length (`Form.totalKey_length`), and
  so no total is ever in the place of a count, and no upload in that of another.

  ASSEMBLY.  `Tracked` says for each phase which two entries an upload has; `Moves.tracked` is the step of the
  upload itself, `tracked_kept` adds the steps of the others.
-/
import OpenNHP.Server.Storage

namespace OpenNHP.Server.Storage

open Paths FileTree FileTree.Files Endpoints

/-! ## Progress -/

section

/-- The entries of an upload in the table. -/
def entries (progressMap : AList fun _ : Bytes => Nat) (f : Form) : Option Nat × Option Nat :=
  (progressMap.lookup f.progressKey, progressMap.lookup f.totalKey)

/-- What they are once so many bytes have been reported; an empty file is not. -/
def Form.reported (f : Form) (written : Nat) : Option Nat × Option Nat :=
  if written = 0 then (none, none) else (some written, some f.totalSize)

/-- What the table has of an upload, where it is. -/
def Tracked (s : Store) (u : Upload) : Prop :=
  match u.phase with
  | .mkdir | .create => entries s.progressMap u.form = u.form.reported 0
  | .copy written => written ≤ u.form.totalSize ∧ entries s.progressMap u.form = u.form.reported written
  | .progress written => 0 < written ∧ written ≤ u.form.totalSize ∧
      ∃ written' < written, entries s.progressMap u.form = u.form.reported written'
  | .ended (.success _) => entries s.progressMap u.form = (none, (u.form.reported u.form.totalSize).2)
  | .ended (.error _) => ∃ written ≤ u.form.totalSize, entries s.progressMap u.form = u.form.reported written
  | _ => entries s.progressMap u.form = u.form.reported u.form.totalSize

/-- Every key is one of an upload. -/
def Keyed (s : Store) : Prop :=
  ∀ k n, s.progressMap.lookup k = some n → ∃ f ∈ s.uploads, k = f.progressKey ∨ k = f.totalKey

/-- The invariant: every key is an upload's, each upload at work has the entries of its phase, and no two have
    one UUID. -/
def tracked : Threads.Assertion Store Upload where
  shared := Keyed
  thread s _ u := Tracked s u
  related u v := u.form.fileUUID ≠ v.form.fileUUID

variable {cwd : Bytes} {exeDir : Dir} {md5 : Bytes → Bytes} {s s' : Store} {u u' v : Upload} {e : Event} {f g : Form}

/-- 42 letters, where a UUID has 36. -/
theorem Form.totalKey_length (f : Form) : f.totalKey.length = 42 := by
  rw [Form.totalKey, List.length_append, f.fileUUID.length]
  rfl

/-- So the two kinds of keys differ, -/
theorem progressKey_ne_totalKey (f g : Form) : f.progressKey ≠ g.totalKey := by
  intro h
  have hlength := congrArg List.length h
  rw [g.totalKey_length, Form.progressKey, f.fileUUID.length] at hlength
  cases hlength

/-- and of each kind every upload has its own. -/
theorem progressKey_inj (h : f.progressKey = g.progressKey) : f.fileUUID = g.fileUUID := UUID.ext_text h

/-- The same for the totals. -/
theorem totalKey_inj (h : f.totalKey = g.totalKey) : f.fileUUID = g.fileUUID :=
  UUID.ext_text (List.append_cancel_right h)

/-- A new UUID has no entries. -/
theorem entries_of_fresh (h : Keyed s) (hfresh : ∀ g ∈ s.uploads, g.fileUUID ≠ f.fileUUID) :
    entries s.progressMap f = (none, none) := by
  have hnone : ∀ k, k = f.progressKey ∨ k = f.totalKey → s.progressMap.lookup k = none := by
    intro k hk
    rw [Option.eq_none_iff_forall_ne_some]
    intro n hn
    obtain ⟨g, hg, hkg⟩ := h k n hn
    rcases hk with rfl | rfl
    · rcases hkg with hkg | hkg
      · exact hfresh g hg (progressKey_inj hkg).symm
      · exact progressKey_ne_totalKey f g hkg
    · rcases hkg with hkg | hkg
      · exact progressKey_ne_totalKey g f hkg.symm
      · exact hfresh g hg (totalKey_inj hkg).symm
  rw [entries, hnone _ (.inl rfl), hnone _ (.inr rfl)]

/-- What a report puts there. -/
theorem entries_insert (progressMap : AList fun _ : Bytes => Nat) (f : Form) (n m : Nat) :
    entries ((progressMap.insert f.progressKey n).insert f.totalKey m) f = (some n, some m) := by
  rw [entries, AList.lookup_insert, AList.lookup_insert_ne (progressKey_ne_totalKey f f), AList.lookup_insert]

/-- It leaves the entries of the others. -/
theorem entries_insert_ne (progressMap : AList fun _ : Bytes => Nat) (n m : Nat) (h : f.fileUUID ≠ g.fileUUID) :
    entries ((progressMap.insert f.progressKey n).insert f.totalKey m) g = entries progressMap g := by
  have hkey : g.progressKey ≠ f.progressKey := fun heq => h (progressKey_inj heq).symm
  have htotal : g.totalKey ≠ f.totalKey := fun heq => h (totalKey_inj heq).symm
  rw [entries, AList.lookup_insert_ne (progressKey_ne_totalKey g f), AList.lookup_insert_ne hkey,
    AList.lookup_insert_ne htotal, AList.lookup_insert_ne fun heq => progressKey_ne_totalKey f g heq.symm, entries]

/-- At the end the count goes and the total stays. -/
theorem entries_erase (progressMap : AList fun _ : Bytes => Nat) (f : Form) :
    entries (progressMap.erase f.progressKey) f = (none, (entries progressMap f).2) := by
  rw [entries, AList.lookup_erase, AList.lookup_erase_ne fun heq => progressKey_ne_totalKey f f heq.symm, entries]

/-- That too leaves the others. -/
theorem entries_erase_ne (progressMap : AList fun _ : Bytes => Nat) (h : f.fileUUID ≠ g.fileUUID) :
    entries (progressMap.erase f.progressKey) g = entries progressMap g := by
  rw [entries, AList.lookup_erase_ne fun heq => h (progressKey_inj heq).symm,
    AList.lookup_erase_ne fun heq => progressKey_ne_totalKey f g heq.symm, entries]

/-- A step leaves the entries of the others. -/
theorem Moves.entries (h : Moves cwd exeDir md5 s u e s' u') (hne : u.form.fileUUID ≠ g.fileUUID) :
    Storage.entries s'.progressMap g = Storage.entries s.progressMap g := by
  cases h with
  | progress written hphase => exact entries_insert_ne _ _ _ hne
  | forget hphase => exact entries_erase_ne _ hne
  | _ => rfl

/-- Only uploads get into the table. -/
theorem Moves.keyed (h : Moves cwd exeDir md5 s u e s' u') (hready : Ready exeDir md5 s u) (hs : Keyed s) :
    Keyed s' := by
  intro k n hn
  cases h with
  | mkdir tree hphase htree =>
    obtain ⟨f, hf, hk⟩ := hs k n hn
    exact ⟨f, List.mem_cons_of_mem _ hf, hk⟩
  | progress written hphase =>
    rw [Ready, hphase] at hready
    replace hn : ((s.progressMap.insert u.form.progressKey written).insert u.form.totalKey
      u.form.totalSize).lookup k = some n := hn
    rw [AList.lookup_insert_eq_ite, AList.lookup_insert_eq_ite] at hn
    split_ifs at hn with htotal hkey
    · exact ⟨u.form, hready.begun, .inr htotal⟩
    · exact ⟨u.form, hready.begun, .inl hkey⟩
    · exact hs k n hn
  | forget hphase =>
    replace hn : (s.progressMap.erase u.form.progressKey).lookup k = some n := hn
    rw [AList.lookup_erase_eq_ite] at hn
    split_ifs at hn
    exact hs k n hn
  | _ => exact hs k n hn

/-- An upload that goes on has reported some of its file. -/
theorem Tracked.reported (h : Tracked s u) (hphase : ∀ r, u.phase ≠ .ended r) :
    ∃ written ≤ u.form.totalSize, entries s.progressMap u.form = u.form.reported written := by
  rw [Tracked] at h
  cases hu : u.phase with
  | mkdir | create =>
    rw [hu] at h
    exact ⟨0, Nat.zero_le _, h⟩
  | copy written =>
    rw [hu] at h
    exact ⟨written, h⟩
  | progress written =>
    rw [hu] at h
    obtain ⟨-, hle, written', hlt, hentries⟩ := h
    exact ⟨written', hlt.le.trans hle, hentries⟩
  | ended r => exact absurd hu (hphase r)
  | readDir | load _ | removeAll _ | saveDir | saveCreate | saveWrite | forget =>
    rw [hu] at h
    exact ⟨_, le_rfl, h⟩

/-- A step takes an upload to the entries of its next phase. -/
theorem Moves.tracked (h : Moves cwd exeDir md5 s u e s' u') (htracked : Tracked s u) : Tracked s' u' := by
  have hreported := htracked.reported
  rw [Tracked] at htracked
  cases h with
  | fails text hphase => exact hreported hphase
  | mkdir tree hphase htree =>
    rw [hphase] at htracked
    exact htracked
  | create tree hphase htree =>
    rw [hphase] at htracked
    exact ⟨Nat.zero_le _, htracked⟩
  | write written written' phase hphase hwritten hnext =>
    rw [hphase] at htracked
    rcases hnext with ⟨rfl, hlt⟩ | rfl
    · exact ⟨Nat.zero_lt_of_lt hlt, hwritten, written, hlt, htracked.2⟩
    · exact ⟨written, htracked⟩
  | progress written hphase =>
    rw [hphase] at htracked
    refine ⟨htracked.2.1, (entries_insert _ _ _ _).trans ?_⟩
    rw [Form.reported, if_neg htracked.1.ne']
  | eof hphase =>
    rw [hphase] at htracked
    exact htracked.2
  | saveWrite phase hphase hnext =>
    rw [hphase] at htracked
    rcases hnext with rfl | rfl
    · exact htracked
    · exact ⟨_, le_rfl, htracked⟩
  | forget hphase =>
    rw [hphase] at htracked
    refine (entries_erase _ _).trans ?_
    rw [htracked]
    rfl
  | listed _ _ hphase _ | unlisted _ _ hphase _ | unmatched hphase | panics _ _ hphase _ | skip _ _ _ _ hphase _
  | found _ _ _ hphase _ _ | removeAll _ _ hphase | hasDir hphase | saveDir _ hphase _ | saveCreate _ hphase _ =>
    rw [hphase] at htracked
    exact htracked

/-- Nothing but its entries matters. -/
theorem Tracked.congr (h : Tracked s v)
    (hentries : entries s'.progressMap v.form = entries s.progressMap v.form) : Tracked s' v := by
  rw [Tracked] at h ⊢
  rw [hentries]
  exact h

/-- Each step keeps it, for the upload and for the others. -/
theorem tracked_kept : tracked.Kept (system cwd exeDir md5)
    fun s a => Begins s a ∧ (consistent exeDir md5).Holds s where
  symm h := Ne.symm h
  begin := by
    rintro s u hs ⟨⟨hphase, -, -, hfresh, hothers⟩, -⟩
    refine ⟨?_, fun i v hv => (hothers v (List.mem_of_getElem? hv)).symm⟩
    show Tracked s.shared u
    rw [Tracked, hphase]
    exact entries_of_fresh hs.shared hfresh
  outside := by
    intro s x store _ _ hx
    cases hx
  advance := by
    rintro s i u e p hs ⟨-, hholds⟩ hu hp
    obtain ⟨store, u'⟩ := p
    have hp : advance cwd exeDir md5 s.shared u e = some (store, u') := hp
    have hmoves := moves_of_advance hp
    refine ⟨hmoves.keyed (hholds.thread i u hu) hs.shared, hmoves.tracked (hs.thread i u hu),
      fun j v hji hv hne => ?_, fun j v hji hv hne hthread => hthread.congr (hmoves.entries hne)⟩
    show u'.form.fileUUID ≠ _
    rw [hmoves.form]
    exact hne

end

/-- It holds where uploads are only about to begin. -/
theorem Begun.tracked {exeDir : Dir} {s : State} (h : Begun exeDir s) : tracked.Holds s where
  shared := by
    intro k n hn
    rw [h.progressMap] at hn
    cases hn
  thread i t ht := by
    rw [h.threads] at ht
    cases ht
  related i j t u _ ht := by
    rw [h.threads] at ht
    cases ht

/-- What the client is shown are the two entries, and 404 without the first. -/
theorem progress_eq (progressMap : AList fun _ : Bytes => Nat) (f : Form) :
    progress progressMap f.fileUUID.text =
      (entries progressMap f).1.map fun bytesCopied => (bytesCopied, (entries progressMap f).2) := rfl

/-- What the progress of an upload is, in every state: while it is copied, what has been written of it, and behind
    a write until its report an earlier count; nothing once it is stored, and all of it for good if it was there
    already.  Its total stays in any case, and passes for an upload itself. -/
theorem progress_kept {cwd : Bytes} {exeDir : Dir} {md5 : Bytes → Bytes} {s₀ s : State} {acts : List Act}
    (hbegun : Begun exeDir s₀) (hsteps : Runs.Steps (system cwd exeDir md5).step Begins s₀ acts)
    (hrun : Runs.run (system cwd exeDir md5).step s₀ acts = some s) {i : Nat} {u : Upload}
    (hu : s.threads[i]? = some u) :
    (∀ written, u.phase = .copy written →
      s.shared.tree.node (resolve (u.form.filePath exeDir)) = some (.file (.data (u.form.file.take written))) ∧
      progress s.shared.progressMap u.form.fileUUID.text =
        if written = 0 then none else some (written, some u.form.totalSize)) ∧
    (∀ written, u.phase = .progress written →
      s.shared.tree.node (resolve (u.form.filePath exeDir)) = some (.file (.data (u.form.file.take written))) ∧
      ∃ written' < written, progress s.shared.progressMap u.form.fileUUID.text =
        if written' = 0 then none else some (written', some u.form.totalSize)) ∧
    (∀ a, u.phase = .ended (.success a) → progress s.shared.progressMap u.form.fileUUID.text = none) ∧
    (∀ a, u.phase = .ended (.duplicate a) → progress s.shared.progressMap u.form.fileUUID.text =
      if u.form.file = [] then none else some (u.form.totalSize, some u.form.totalSize)) ∧
    ∀ a, u.phase = .ended (.success a) ∨ u.phase = .ended (.duplicate a) → u.form.file ≠ [] →
      progress s.shared.progressMap u.form.totalKey = some (u.form.totalSize, none) := by
  have hkeep : ∀ s a s', (consistent exeDir md5).Holds s → Begins s a →
      (system cwd exeDir md5).step s a = some s' → (consistent exeDir md5).Holds s' :=
    fun s a s' hI hC hstep => consistent_kept.step hC hI hstep
  -- Two invariants carry it: the storage's, for the file, and that of the table, for the two entries.
  have hboth : Runs.Steps (system cwd exeDir md5).step
      (fun s a => Begins s a ∧ (consistent exeDir md5).Holds s) s₀ acts :=
    Runs.steps_imp (fun _ _ hI hC => ⟨hC, hI⟩) hkeep hbegun.holds hsteps
  have hready : Ready exeDir md5 s.shared u := (consistent_kept.invariant hsteps hbegun.holds hrun).thread i u hu
  have hholds := tracked_kept.invariant hboth hbegun.tracked hrun
  have hkeyed : Keyed s.shared := hholds.shared
  have htracked : Tracked s.shared u := hholds.thread i u hu
  have htotal : u.form.totalSize = 0 ↔ u.form.file = [] := List.length_eq_zero_iff
  have hprogress : ∀ written, entries s.shared.progressMap u.form = u.form.reported written →
      progress s.shared.progressMap u.form.fileUUID.text =
        if written = 0 then none else some (written, some u.form.totalSize) := by
    intro written hentries
    rw [progress_eq, hentries, Form.reported]
    split_ifs <;> rfl
  refine ⟨fun written hphase => ?_, fun written hphase => ?_, fun a hphase => ?_, fun a hphase => ?_,
    fun a hphase hne => ?_⟩
  · rw [Ready, hphase] at hready
    rw [Tracked, hphase] at htracked
    rw [u.form.resolve_filePath_of_isName hready.isName]
    exact ⟨hready.file, hprogress _ htracked.2⟩
  · rw [Ready, hphase] at hready
    rw [Tracked, hphase] at htracked
    obtain ⟨-, -, written', hlt, hentries⟩ := htracked
    rw [u.form.resolve_filePath_of_isName hready.isName]
    exact ⟨hready.file, written', hlt, hprogress _ hentries⟩
  · rw [Tracked, hphase] at htracked
    rw [progress_eq, htracked]
    rfl
  · rw [Tracked, hphase] at htracked
    rw [hprogress _ htracked]
    simp only [htotal]
  · have hentry : s.shared.progressMap.lookup u.form.totalKey = some u.form.totalSize := by
      show (entries s.shared.progressMap u.form).2 = _
      rw [Tracked] at htracked
      rcases hphase with hphase | hphase
      · rw [hphase] at htracked
        rw [htracked, Form.reported, if_neg (mt htotal.mp hne)]
      · rw [hphase] at htracked
        rw [htracked, Form.reported, if_neg (mt htotal.mp hne)]
    -- A key of the table has 36 or 42 bytes, so no total is kept for a total.
    have hnone : s.shared.progressMap.lookup (u.form.totalKey ++ "_total".toUTF8.data.toList) = none := by
      rw [Option.eq_none_iff_forall_ne_some]
      intro n hn
      obtain ⟨f, -, hk⟩ := hkeyed _ n hn
      have hlength : (u.form.totalKey ++ "_total".toUTF8.data.toList).length = 48 := by
        rw [List.length_append, u.form.totalKey_length]
        rfl
      rcases hk with hk | hk
      · rw [hk, Form.progressKey, f.fileUUID.length] at hlength
        cases hlength
      · rw [hk, f.totalKey_length] at hlength
        cases hlength
    rw [progress, hentry, hnone]
    rfl

/-- The second upload of a content shows that it is complete. -/
theorem progress_kept_second : ∃ s, Runs.run (system [] sampleDir sampleMD5).step start sampleActs = some s ∧
    progress s.shared.progressMap sampleForm'.fileUUID.text = some (1, some 1) := by
  obtain ⟨s, hrun, hthread⟩ := Option.bind_eq_some_iff.mp sample_run
  exact ⟨s, hrun, (progress_kept (begun_start sampleDir) sample_steps hrun hthread).2.2.2.1 _ rfl⟩

end OpenNHP.Server.Storage
