/-
  Uploads of one content (`checkFileExists` in `endpoints/server/httpstorage.go`).

  THE PROGRAM.  An upload goes through the metadata of the others and then, if it has not found its MD5, saves its
  own.  Nothing keeps two uploads from doing so side by side, and then both are stored; and where the look fails,
  the upload is stored as if nothing had been found.

  THE SPECIFICATION.  One at a time between the look and the metadata, and looks that succeed, are enough
  (`Alone`): no MD5 is stored twice then (`Once`), whatever else the uploads do at a time.

  THE CRUX.  What an upload knows of the others grows with its look: `Checked` says of whose metadata it has been
  through that their MD5 is another one.  While it is alone nobody else is stored (`Moves.stored_cases`), so at
  the end of the look that is everybody.

  ASSEMBLY.  `Moves.checked` is the step, `unrepeated_kept` the invariant beside `consistent`, and `stored_once`
  the result.
-/
import OpenNHP.Server.Storage

namespace OpenNHP.Server.Storage

open Paths FileTree FileTree.Files Endpoints

/-! ## One at a time -/

/-- From its look at the metadata, an upload is on its way to its own. -/
def Phase.saves : Phase → Bool
  | load _ | saveDir | saveCreate | saveWrite => true
  | _ => false

/-- An upload looks at the metadata only while no other one is between its look and its own; and the look fails at
    no file. -/
def Alone (s : State) (a : Act) : Prop :=
  Begins s a ∧ match a with
    | .turn i (.readDir ok) => ok = true ∧ ∀ j < s.threads.length, j ≠ i → ∀ v ∈ s.threads[j]?, v.phase.saves = false
    | .turn _ (.load ok) => ok = true
    | _ => True

instance (s : State) : DecidablePred (Alone s)
  | .begin u => inferInstanceAs (Decidable (Begins s (.begin u) ∧ True))
  | .outside x => inferInstanceAs (Decidable (Begins s (.outside x) ∧ True))
  | .turn i e =>
    match e with
    | .readDir ok => inferInstanceAs (Decidable (Begins s (.turn i (.readDir ok)) ∧ ok = true ∧
        ∀ j < s.threads.length, j ≠ i → ∀ v ∈ s.threads[j]?, v.phase.saves = false))
    | .load ok => inferInstanceAs (Decidable (Begins s (.turn i (.load ok)) ∧ ok = true))
    | .mkdir _ | .create _ | .write _ _ | .progress | .eof | .removeAll _ | .saveDir _ | .saveCreate _
    | .saveWrite _ _ | .forget => inferInstanceAs (Decidable (_ ∧ True))

/-! ## What is stored -/

section

variable (exeDir : Dir) (md5 : Bytes → Bytes)

/-- No MD5 is stored twice. -/
structure Once (s : Store) : Prop where
  dir : ∀ n, s.tree.node ((FileAccess.storageDir exeDir).names ++ [n]) ≠ none →
    s.tree.node (FileAccess.storageDir exeDir).names = some .dir
  once : ∀ f g, Stored exeDir md5 s f → Stored exeDir md5 s g → f.fileMD5 md5 = g.fileMD5 md5 → f = g

/-- What an upload that is on its way to its metadata knows of those that are stored. -/
def Checked (s : Store) (u : Upload) : Prop :=
  match u.phase with
  | .load files => ∀ g, Stored exeDir md5 s g → g.fileMD5 md5 = u.form.fileMD5 md5 → g.metadataName ∈ files
  | .saveDir | .saveCreate | .saveWrite => ∀ g, Stored exeDir md5 s g → g.fileMD5 md5 ≠ u.form.fileMD5 md5
  | _ => True

/-- The invariant: no MD5 is stored twice, each upload has checked what it has been through, and no two are
    between the look and the metadata. -/
def unrepeated : Threads.Assertion Store Upload where
  shared := Once exeDir md5
  thread s _ u := Checked exeDir md5 s u
  related u v := ¬(u.phase.saves = true ∧ v.phase.saves = true)

variable {cwd : Bytes} {exeDir md5} {s s' : Store} {u u' v : Upload} {e : Event} {f g : Form}

/-- A look stays good while nothing new is stored. -/
theorem Checked.imp (h : Checked exeDir md5 s v) (himp : ∀ g, Stored exeDir md5 s' g → Stored exeDir md5 s g) :
    Checked exeDir md5 s' v := by
  rw [Checked] at h ⊢
  cases hphase : v.phase with
  | load files =>
    rw [hphase] at h
    exact fun g hg => h g (himp g hg)
  | saveDir | saveCreate | saveWrite =>
    rw [hphase] at h
    exact fun g hg => h g (himp g hg)
  | _ => trivial

/-- Only one step writes a metadata. -/
theorem Moves.metadata (h : Moves cwd exeDir md5 s u e s' u') (hphase : u.phase ≠ .saveWrite) {q : List Bytes}
    {m : FileMetadata} (hm : s'.tree.node q = some (.file (.metadata m))) :
    s.tree.node q = some (.file (.metadata m)) := by
  cases h with
  | mkdir tree _ htree | saveDir tree _ htree => exact (node_mkdirAll_file htree).mp hm
  | create tree _ htree | saveCreate tree _ htree =>
    replace hm : tree.node q = _ := hm
    rw [node_create htree] at hm
    split_ifs at hm
    · cases hm
    · exact hm
  | write written written' phase _ _ _ =>
    dsimp only at hm
    rcases node_of_write hm with hm | hm
    · exact hm
    · cases hm
  | removeAll existing left _ => exact node_of_removeAll hm
  | saveWrite phase hphase' _ => exact absurd hphase' hphase
  | _ => exact hm

/-- What is stored was, or has just got its metadata. -/
theorem Moves.stored_cases (h : Moves cwd exeDir md5 s u e s' u') (hs : Sound exeDir md5 s)
    (hready : Ready exeDir md5 s u) (hg : Stored exeDir md5 s' g) :
    Stored exeDir md5 s g ∨ u.phase = .saveWrite ∧ g = u.form := by
  rcases (h.step hs hready).1 with ⟨htree, huploads⟩ | hactive
  · exact .inl (hg.congr htree.symm huploads.symm)
  · have hcame := hactive.came g hg.begun
    by_cases huuid : u.form.fileUUID = g.fileUUID
    · have hgu : g = u.form := (hactive.sound hs).unique g hg.begun _ hactive.begun huuid.symm
      subst hgu
      by_cases hphase : u.phase = .saveWrite
      · exact .inr ⟨hphase, rfl⟩
      · exact absurd (h.metadata hphase hg.metadata) (hactive.unsaved _)
    · refine .inl ⟨hcame.resolve_left fun hgu => huuid (by rw [hgu]), hg.isName, ?_, ?_⟩
      · exact (hactive.frame.file _ _ (not_prefix_fileAt huuid) (fileAt_ne_metadataAt _ _)).mp hg.file
      · exact (hactive.frame.file _ _ (not_prefix_metadataAt _ _)
          fun heq => huuid (metadataAt_inj heq).symm).mp hg.metadata

/-- The directory of the metadata is there if anything is in it. -/
theorem Moves.dir (h : Moves cwd exeDir md5 s u e s' u') (hs : Sound exeDir md5 s) (hready : Ready exeDir md5 s u)
    (hdir : ∀ n, s.tree.node ((FileAccess.storageDir exeDir).names ++ [n]) ≠ none →
      s.tree.node (FileAccess.storageDir exeDir).names = some .dir)
    {n : Bytes} (hn : s'.tree.node ((FileAccess.storageDir exeDir).names ++ [n]) ≠ none) :
    s'.tree.node (FileAccess.storageDir exeDir).names = some .dir := by
  rcases (h.step hs hready).1 with ⟨htree, -⟩ | hactive
  · rw [htree] at hn ⊢
    exact hdir n hn
  · refine hactive.frame.dir _ (fun hprefix => ?_) ?_
    · have hlength := hprefix.length_le
      rw [Form.dirAt, uploadsDir_names, storageDir_names] at hlength
      simp at hlength
    · exact (hactive.frame.names n hn).elim (fun h => h.2) (hdir n)

/-- What an upload knows of the others is so behind its own step, if it was alone at its look. -/
theorem Moves.checked (h : Moves cwd exeDir md5 s u e s' u') (hs : Sound exeDir md5 s) (hready : Ready exeDir md5 s u)
    (hdir : ∀ n, s.tree.node ((FileAccess.storageDir exeDir).names ++ [n]) ≠ none →
      s.tree.node (FileAccess.storageDir exeDir).names = some .dir)
    (hchecked : Checked exeDir md5 s u) (he : ∀ ok, e = .readDir ok ∨ e = .load ok → ok = true) :
    Checked exeDir md5 s' u' := by
  have hstored : u.phase ≠ .saveWrite → ∀ g, Stored exeDir md5 s' g → Stored exeDir md5 s g :=
    fun hphase g hg => (h.stored_cases hs hready hg).resolve_right fun hw => hphase hw.1
  rw [Checked] at hchecked
  cases h with
  | listed files _ hphase hfiles =>
    intro g hg _
    refine (mem_readDir hfiles).mpr ?_
    rw [show _ ++ [_] = g.metadataAt exeDir from rfl, hg.metadata]
    rfl
  | unlisted ok heq hphase hfiles =>
    -- the directory is not there, and nothing in it
    intro g hg _
    have hnone := hfiles (he ok (.inl heq))
    have hnode := hdir g.metadataName (by rw [show _ ++ [_] = g.metadataAt exeDir from rfl, hg.metadata]; simp)
    rw [readDir, if_pos (isDir_iff.mpr hnode)] at hnone
    cases hnone
  | unmatched hphase =>
    rw [hphase] at hchecked
    exact fun g hg hmd5 => List.not_mem_nil (hchecked g hg hmd5)
  | skip ok heq file files hphase hload =>
    rw [hphase] at hchecked
    intro g hg hmd5
    rcases List.mem_cons.mp (hchecked g hg hmd5) with rfl | hmem
    · have hne : g.fileMD5 md5 ≠ u.form.fileMD5 md5 := hload (he ok (.inr heq)) (g.metadata md5) ?_
      · exact absurd hmd5 hne
      rw [g.take_metadataName]
      exact hg.loadMetadata
    · exact hmem
  | hasDir hphase | saveDir tree hphase htree =>
    have hold := hstored (by rw [hphase]; intro heq; cases heq)
    rw [hphase] at hchecked
    exact fun g hg => hchecked g (hold g hg)
  | saveCreate tree hphase htree =>
    have hold := hstored (by rw [hphase]; intro heq; cases heq)
    rw [hphase] at hchecked
    exact fun g hg => hchecked g (hold g hg)
  | write written written' phase hphase hwritten hnext =>
    rcases hnext with ⟨rfl, -⟩ | rfl
    · trivial
    · trivial
  | saveWrite phase hphase hnext =>
    rcases hnext with rfl | rfl
    · trivial
    · trivial
  | _ => trivial

/-- Only through the look does an upload come to save. -/
theorem Moves.saves (h : Moves cwd exeDir md5 s u e s' u') (hsaves : u'.phase.saves = true) :
    u.phase.saves = true ∨ ∃ ok, e = .readDir ok := by
  cases h with
  | listed files he hphase hfiles => exact .inr ⟨_, he⟩
  | unlisted ok he hphase hfiles => exact .inr ⟨_, he⟩
  | unmatched hphase | skip _ _ _ _ hphase _ | hasDir hphase | saveDir _ hphase _ | saveCreate _ hphase _ =>
    rw [hphase]
    exact .inl rfl
  | write written written' phase hphase hwritten hnext =>
    rcases hnext with ⟨rfl, -⟩ | rfl <;> cases hsaves
  | saveWrite phase hphase hnext =>
    rcases hnext with rfl | rfl <;> cases hsaves
  | _ => cases hsaves

/-- Each step of a run whose looks are alone keeps it. -/
theorem unrepeated_kept : (unrepeated exeDir md5).Kept (system cwd exeDir md5)
    fun s a => Alone s a ∧ (consistent exeDir md5).Holds s where
  symm h := fun hboth => h hboth.symm
  begin := by
    rintro s u - ⟨⟨⟨hphase, -⟩, -⟩, -⟩
    constructor
    · show Checked exeDir md5 s.shared u
      rw [Checked, hphase]
      trivial
    · intro i v _ hboth
      rw [hphase] at hboth
      cases hboth.1
  outside := by
    intro s x store _ _ hx
    cases hx
  advance := by
    rintro s i u e p hs ⟨⟨-, halone⟩, hholds⟩ hu hp
    obtain ⟨store, u'⟩ := p
    have hp : advance cwd exeDir md5 s.shared u e = some (store, u') := hp
    have hmoves := moves_of_advance hp
    have hsound : Sound exeDir md5 s.shared := hholds.shared
    have hready : Ready exeDir md5 s.shared u := hholds.thread i u hu
    have hchecked : Checked exeDir md5 s.shared u := hs.thread i u hu
    have hshared : Once exeDir md5 s.shared := hs.shared
    refine ⟨⟨fun n hn => hmoves.dir hsound hready hshared.dir hn, fun f g hf hg hmd5 => ?_⟩, ?_,
      fun j v hji hv hrelated hboth => ?_, fun j v hji hv hrelated hthread => ?_⟩
    · rcases hmoves.stored_cases hsound hready hf with hf | ⟨hphase, rfl⟩
      · rcases hmoves.stored_cases hsound hready hg with hg | ⟨hphase, rfl⟩
        · exact hshared.once f g hf hg hmd5
        · rw [Checked, hphase] at hchecked
          exact absurd hmd5 (hchecked f hf)
      · rcases hmoves.stored_cases hsound hready hg with hg | ⟨-, rfl⟩
        · rw [Checked, hphase] at hchecked
          exact absurd hmd5.symm (hchecked g hg)
        · rfl
    · refine hmoves.checked hsound hready hshared.dir hchecked ?_
      rintro ok (rfl | rfl)
      · exact halone.1
      · exact halone
    · rcases hmoves.saves hboth.1 with hsaves | ⟨ok, rfl⟩
      · exact hrelated ⟨hsaves, hboth.2⟩
      · have hidle := halone.2 j (List.getElem?_eq_some_iff.mp hv).1 hji v hv
        rw [hidle] at hboth
        cases hboth.2
    · by_cases hsaves : u.phase = .saveWrite
      · -- the other one is not on its way to its metadata
        have hv : v.phase.saves = false := by
          rw [← Bool.not_eq_true]
          exact fun hv => hrelated ⟨by rw [hsaves]; rfl, hv⟩
        show Checked exeDir md5 store v
        rw [Checked]
        cases hphase : v.phase with
        | load _ | saveDir | saveCreate | saveWrite =>
          rw [hphase] at hv
          cases hv
        | _ => trivial
      · exact hthread.imp fun g hg =>
          (hmoves.stored_cases hsound hready hg).resolve_right fun hw => hsaves hw.1

end

/-- It holds where uploads are only about to begin. -/
theorem Begun.unrepeated {exeDir : Dir} {md5 : Bytes → Bytes} {s : State} (h : Begun exeDir s) :
    (unrepeated exeDir md5).Holds s where
  shared := by
    refine ⟨fun n hn => absurd (h.metadata n) hn, fun f g hf => ?_⟩
    have hmem := hf.begun
    rw [h.uploads] at hmem
    exact absurd hmem List.not_mem_nil
  thread i t ht := by
    rw [h.threads] at ht
    cases ht
  related i j t u _ ht := by
    rw [h.threads] at ht
    cases ht

/-! ## Once -/

/-- If each upload looks for its MD5 while no other one is between its look and its own metadata, and fails to read
    none of what is there, no MD5 is stored twice, and uploads of one MD5 have one answer. -/
theorem stored_once {cwd : Bytes} {exeDir : Dir} {md5 : Bytes → Bytes} {s₀ s : State} {acts : List Act}
    (hbegun : Begun exeDir s₀) (hsteps : Runs.Steps (system cwd exeDir md5).step Alone s₀ acts)
    (hrun : Runs.run (system cwd exeDir md5).step s₀ acts = some s) :
    (∀ f ∈ s.shared.uploads, ∀ g ∈ s.shared.uploads, ∀ m m',
      loadMetadata cwd exeDir s.shared.tree f.fileUUID.text = some m →
      loadMetadata cwd exeDir s.shared.tree g.fileUUID.text = some m' → m.md5 = m'.md5 → f = g) ∧
    ∀ (i j : Nat) (u v : Upload) (a b : Answer), s.threads[i]? = some u → s.threads[j]? = some v →
      u.phase = .ended (.success a) ∨ u.phase = .ended (.duplicate a) →
      v.phase = .ended (.success b) ∨ v.phase = .ended (.duplicate b) →
      u.form.fileMD5 md5 = v.form.fileMD5 md5 → a = b := by
  have hkeep : ∀ s a s', (consistent exeDir md5).Holds s → Alone s a →
      (system cwd exeDir md5).step s a = some s' → (consistent exeDir md5).Holds s' :=
    fun s a s' hI hC hstep => consistent_kept.step hC.1 hI hstep
  have hbegins := Runs.steps_imp (fun _ _ _ hC => hC.1) hkeep hbegun.holds hsteps
  have halone : Runs.Steps (system cwd exeDir md5).step
      (fun s a => Alone s a ∧ (consistent exeDir md5).Holds s) s₀ acts :=
    Runs.steps_imp (fun _ _ hI hC => ⟨hC, hI⟩) hkeep hbegun.holds hsteps
  have hholds := consistent_kept.invariant hbegins hbegun.holds hrun
  have hsound : Sound exeDir md5 s.shared := hholds.shared
  have honce : Once exeDir md5 s.shared := (unrepeated_kept.invariant halone hbegun.unrepeated hrun).shared
  constructor
  · intro f hf g hg m m' hm hm' hmd5
    obtain ⟨hf, rfl⟩ := stored_of_loadMetadata hsound hf hm
    obtain ⟨hg, rfl⟩ := stored_of_loadMetadata hsound hg hm'
    exact honce.once f g hf hg hmd5
  · intro i j u v a b hu hv ha hb hmd5
    obtain ⟨f, hf, rfl, hfu⟩ := found_of_answered (hholds.thread i u hu) ha
    obtain ⟨g, hg, rfl, hgv⟩ := found_of_answered (hholds.thread j v hv) hb
    rw [honce.once f g hf hg (hfu.trans (hmd5.trans hgv.symm))]

/-- In the run of two uploads one comes after the other. -/
theorem sampleActs_alone : Runs.Steps (system [] sampleDir sampleMD5).step Alone start sampleActs := by decide +kernel

theorem stored_once_second : ∃ s, Runs.run (system [] sampleDir sampleMD5).step start sampleActs = some s ∧
    ∀ f ∈ s.shared.uploads, ∀ g ∈ s.shared.uploads, ∀ m m',
      loadMetadata [] sampleDir s.shared.tree f.fileUUID.text = some m →
      loadMetadata [] sampleDir s.shared.tree g.fileUUID.text = some m' → m.md5 = m'.md5 → f = g := by
  obtain ⟨s, hrun, -⟩ := Option.bind_eq_some_iff.mp sample_run
  exact ⟨s, hrun, (stored_once (begun_start sampleDir) sampleActs_alone hrun).1⟩

/-- Two uploads of one content that look for it side by side are both stored. -/
example : (Runs.run (system [] sampleDir sampleMD5).step start (sampleCopy 0 sampleForm ++
    sampleCopy 1 sampleForm' ++ sampleSave 0 ++ sampleSave 1)).map (fun s => s.threads.map (·.phase)) =
      some [.ended (.success (sampleForm.metadata sampleMD5).answer),
        .ended (.success (sampleForm'.metadata sampleMD5).answer)] := by decide +kernel

end OpenNHP.Server.Storage
