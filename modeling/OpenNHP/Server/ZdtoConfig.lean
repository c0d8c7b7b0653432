/-
  The configuration of a data object, in a file of its own (`endpoints/server/msghandler.go`).

  THE PROGRAM.  A DB registers a data object, or changes it, with a DRG; the server writes it to a file that is
  named after the object, and reads it there for every request.  Each message has a goroutine of its own.  A save
  reads the file first, and removes it where it could be read; then it makes the directory, looks whether there
  is a file, makes it and writes to it.  A step of these may fail, and another save or a read may come in
  between.

  THE SPECIFICATION.  A save that returns an error leaves the stored configuration to be read, and a read returns
  one that was stored in the meantime, never a part of it (`Atomic`).

  THE CRUX.  A save that fails may have lost what was stored, and a read may find no file or a part of one.
  Neither is so in the runs in which the saves change the file one at a time, it is opened only while it is
  whole, and where it has been removed no step fails before the new one is written (`Undisturbed`).  What keeps a
  read whole there is the file system: a file that is removed stays readable for who has it open, so each
  version is an inode of its own, and `Inv` says of each inode who still writes to it.

  ASSEMBLY.  `Inv.step` has one lemma for each kind of step, and `saves_atomic` says that the undisturbed runs
  are those that keep the specification.
-/
import OpenNHP.Lib.NamedFile
import OpenNHP.Lib.Runs
import Mathlib.Logic.Equiv.List

namespace OpenNHP.Server.ZdtoConfig

open Runs

/-! ## Configurations -/

/-- `SmartPolicy`: the policy that an agent's request is judged by. -/
structure SmartPolicy where
  policyId : String
  policy : String
  embedded : Bool
  deriving DecidableEq, Repr

/-- `DRGMsg`, the body of a DRG: what is registered of a data object. -/
structure DRGMsg where
  doType : String
  doId : String
  dbId : String
  dataSourceType : String
  accessUrl : String
  accessByNHP : Bool
  spo : SmartPolicy
  deriving DecidableEq, Repr

/-- What is saved where there is a configuration: the source type is kept, and the URL if there is no new one. -/
def DRGMsg.over (drgMsg existingDrgMsg : DRGMsg) : DRGMsg :=
  { drgMsg with
    dataSourceType := existingDrgMsg.dataSourceType
    accessUrl := if drgMsg.accessUrl = "" then existingDrgMsg.accessUrl else drgMsg.accessUrl }

/-- `encoding/json`, for a configuration. -/
structure Json where
  encode : DRGMsg → List UInt8
  unmarshal : List UInt8 → Option DRGMsg

/-! ## The server -/

/-- Why `ReadZdtoConfig` fails. -/
inductive ReadError
  | notExist
  | io
  | parse
  deriving DecidableEq, Repr

/-- Where `ReadZdtoConfig` stands. -/
inductive ReadPhase
  | reading (inode : Nat) (got : List UInt8)
  | done (result : Except ReadError DRGMsg)

/-- A call of `ReadZdtoConfig`; `seen` is what has been stored since it opened the file. -/
structure Reader where
  phase : ReadPhase
  seen : List (Option DRGMsg)

/-- Where `SaveZdtoConfig` stands; `r` is its own call of `ReadZdtoConfig`, and `file` the inode it has made. -/
inductive SavePhase
  | begun
  | reading (r : Nat)
  | mkdirAll
  | stat
  | create
  | writing (file off : Nat) (left : List UInt8)
  | done (failed : Bool)
  deriving DecidableEq, Repr

/-- A DRG with its call of `SaveZdtoConfig`. -/
structure Writer where
  drgMsg : DRGMsg
  phase : SavePhase
  deriving DecidableEq, Repr

namespace Writer

/-- It has read the file, and removed it or not, and is not done. -/
def changing (wr : Writer) : Bool :=
  match wr.phase with
  | .mkdirAll | .stat | .create | .writing .. => true
  | _ => false

/-- The inode it writes to. -/
def inode (wr : Writer) : Option Nat :=
  match wr.phase with
  | .writing i _ _ => some i
  | _ => none

end Writer

/-- One data object; `stored` is the configuration that was there at first or was saved last. -/
structure State where
  file : NamedFile
  stored : Option DRGMsg
  writers : List Writer
  readers : List Reader

variable (js : Json)

/-- What `ReadZdtoConfig` returns where nothing comes in between. -/
def readZdtoConfig (file : NamedFile) : Option DRGMsg := file.content.bind js.unmarshal

namespace State

/-- The file as the server finds it. -/
def start (file : NamedFile) : State where
  file := file
  stored := readZdtoConfig js file
  writers := []
  readers := []

variable (s : State)

/-- The save `w` is where `wr` says. -/
def setWriter (w : Nat) (wr : Writer) : State := { s with writers := s.writers.set w wr }
/-- The read `r` is where `reader` says. -/
def setReader (r : Nat) (reader : Reader) : State := { s with readers := s.readers.set r reader }

/-- `os.Open`, which may fail though the file is there. -/
def openFile (ok : Bool) : Reader where
  phase :=
    match s.file.entry with
    | none => .done (.error .notExist)
    | some i => if ok then .reading i [] else .done (.error .io)
  seen := [s.stored]

end State

/-- A read that is not done will have seen a new configuration. -/
def Reader.store (drgMsg : DRGMsg) (reader : Reader) : Reader :=
  match reader.phase with
  | .reading .. => { reader with seen := some drgMsg :: reader.seen }
  | .done _ => reader

/-! ## Steps -/

/-- A message arrives, or a save or a read takes a step. -/
inductive Act
  /-- A DRG arrives. -/
  | register (drgMsg : DRGMsg)
  /-- A call of `ReadZdtoConfig`, or that of a save, opens the file. -/
  | open (ok : Bool)
  | saveOpen (w : Nat) (ok : Bool)
  /-- It reads some bytes more, or there are none; or it cannot read. -/
  | readSome (r n : Nat)
  | readEnd (r : Nat)
  | readFail (r : Nat)
  /-- A save goes on with what has been read: `os.Remove`, whose error is ignored. -/
  | existing (w : Nat) (removed : Bool)
  | mkdirAll (w : Nat) (ok : Bool)
  | stat (w : Nat) (ok : Bool)
  | create (w : Nat) (ok : Bool)
  | write (w n : Nat)
  | writeFail (w : Nat)
  | writeEnd (w : Nat)
  deriving DecidableEq

/-- One step; `none` for a routine that is somewhere else. -/
def step (s : State) : Act → Option State
  | .register drgMsg => some { s with writers := s.writers ++ [⟨drgMsg, .begun⟩] }
  | .open ok => some { s with readers := s.readers ++ [s.openFile ok] }
  | .saveOpen w ok =>
    match s.writers[w]? with
    | some ⟨drgMsg, .begun⟩ =>
      some { s with
        writers := s.writers.set w ⟨drgMsg, .reading s.readers.length⟩
        readers := s.readers ++ [s.openFile ok] }
    | _ => none
  | .readSome r n =>
    match s.readers[r]? with
    | some ⟨.reading i got, seen⟩ =>
      (s.file.inodes[i]?).map fun content =>
        s.setReader r ⟨.reading i (got ++ (content.drop got.length).take n), seen⟩
    | _ => none
  | .readEnd r =>
    match s.readers[r]? with
    | some ⟨.reading i got, seen⟩ =>
      (s.file.inodes[i]?).bind fun content =>
        if content.length ≤ got.length then
          match js.unmarshal got with
          | some config => some (s.setReader r ⟨.done (.ok config), seen⟩)
          | none => some (s.setReader r ⟨.done (.error .parse), seen⟩)
        else none
    | _ => none
  | .readFail r =>
    match s.readers[r]? with
    | some ⟨.reading _ _, seen⟩ => some (s.setReader r ⟨.done (.error .io), seen⟩)
    | _ => none
  | .existing w removed =>
    match s.writers[w]? with
    | some ⟨drgMsg, .reading r⟩ =>
      match s.readers[r]? with
      | some ⟨.done (.ok existingDrgMsg), _⟩ =>
        some { s with
          file := if removed then s.file.remove else s.file
          writers := s.writers.set w ⟨drgMsg.over existingDrgMsg, .mkdirAll⟩ }
      | some ⟨.done (.error _), _⟩ => some (s.setWriter w ⟨drgMsg, .mkdirAll⟩)
      | _ => none
    | _ => none
  | .mkdirAll w ok =>
    match s.writers[w]? with
    | some ⟨drgMsg, .mkdirAll⟩ => some (s.setWriter w ⟨drgMsg, if ok then .stat else .done true⟩)
    | _ => none
  | .stat w ok =>
    match s.writers[w]? with
    | some ⟨drgMsg, .stat⟩ =>
      -- any error of `os.Stat` is taken for a file that is not there
      some (s.setWriter w ⟨drgMsg, if ok ∧ s.file.entry.isSome then .done true else .create⟩)
    | _ => none
  | .create w ok =>
    match s.writers[w]? with
    | some ⟨drgMsg, .create⟩ =>
      if ok then
        (s.file.create.entry).map fun i =>
          { s with
            file := s.file.create
            writers := s.writers.set w ⟨drgMsg, .writing i 0 (js.encode drgMsg)⟩ }
      else some (s.setWriter w ⟨drgMsg, .done true⟩)
    | _ => none
  | .write w n =>
    match s.writers[w]? with
    | some ⟨drgMsg, .writing i off left⟩ =>
      some { s with
        file := s.file.write i off (left.take n)
        writers := s.writers.set w ⟨drgMsg, .writing i (off + (left.take n).length) (left.drop n)⟩ }
    | _ => none
  | .writeFail w =>
    match s.writers[w]? with
    | some ⟨drgMsg, .writing _ _ _⟩ => some (s.setWriter w ⟨drgMsg, .done true⟩)
    | _ => none
  | .writeEnd w =>
    match s.writers[w]? with
    | some ⟨drgMsg, .writing _ _ []⟩ =>
      some { s with
        stored := some drgMsg
        writers := s.writers.set w ⟨drgMsg, .done false⟩
        readers := s.readers.map (Reader.store drgMsg) }
    | _ => none

/-! ## Saves that are atomic -/

/-- With this step a save returns an error. -/
def State.fails (s : State) : Act → Bool
  | .mkdirAll _ ok | .create _ ok => !ok
  | .stat _ ok => ok && s.file.entry.isSome
  | .writeFail _ => true
  | _ => false

/-- A read that is done, and could read, has found a configuration that was stored while it ran, or none. -/
def Reader.Found (reader : Reader) : Prop :=
  match reader.phase with
  | .reading .. | .done (.error .io) => True
  | .done (.ok config) => some config ∈ reader.seen
  | .done (.error _) => none ∈ reader.seen

/-- A save that returns an error leaves the stored configuration to be read, and so do the reads find it. -/
def Atomic (s : State) (a : Act) : Prop :=
  ∀ s' ∈ step js s a,
    (s.fails a = true → readZdtoConfig js s'.file = s.stored) ∧ ∀ reader ∈ s'.readers, reader.Found

/-- No save changes the file. -/
def State.Quiet (s : State) : Prop := ∀ wr ∈ s.writers, wr.changing = false

/-- No save writes to the file, and it is there if a configuration is stored. -/
def State.Whole (s : State) : Prop :=
  (∀ wr ∈ s.writers, wr.inode = none) ∧ (s.file.entry.isSome ∨ s.stored = none)

/-- A save goes on to change the file only while no other does, and the file is opened only while it is whole;
    where it has been removed no step fails but for the first registration, and what that has then written
    does not parse; and `os.Stat` fails on no file that is there. -/
def Undisturbed (s : State) : Act → Prop
  | .open _ | .saveOpen _ _ => s.Whole
  | .existing _ _ => s.Quiet
  | .mkdirAll _ false | .create _ false => s.file.entry.isSome ∨ s.stored = none
  | .stat _ false => s.file.entry = none
  | .writeFail _ => s.stored = none ∧ readZdtoConfig js s.file = none
  | _ => True

instance (reader : Reader) : Decidable reader.Found := by
  unfold Reader.Found
  split <;> infer_instance

instance (s : State) (a : Act) : Decidable (Atomic js s a) := by
  unfold Atomic
  infer_instance

instance (s : State) (a : Act) : Decidable (Undisturbed js s a) := by
  unfold Undisturbed State.Quiet State.Whole
  split <;> infer_instance

/-! ## The invariant -/

/-- What a save that changes the file relies on. -/
def Writer.Ok (s : State) (wr : Writer) : Prop :=
  match wr.phase with
  | .mkdirAll | .stat => s.file.entry = none ∨ readZdtoConfig js s.file = s.stored
  | .create => s.file.entry = none
  | .writing i off left =>
    ∃ content, s.file.entry = some i ∧ s.file.inodes[i]? = some content ∧ off = content.length ∧
      content ++ left = js.encode wr.drgMsg
  | _ => True

/-- A read has an inode that is written no more, and a configuration that was stored is in it. -/
def Reader.Ok (s : State) (reader : Reader) : Prop :=
  match reader.phase with
  | .reading i got =>
    ∃ content, s.file.inodes[i]? = some content ∧ got <+: content ∧ js.unmarshal content ∈ reader.seen ∧
      ∀ wr ∈ s.writers, wr.inode ≠ some i
  | .done _ => reader.Found

/-- The invariant: one save at a time changes the file, between the saves it has what is stored, and each save
    and read is right about the inode it works on. -/
structure Inv (s : State) : Prop where
  one : ∀ (i j : Nat) wi wj, s.writers[i]? = some wi → s.writers[j]? = some wj → wi.changing = true →
    wj.changing = true → i = j
  settled : s.Quiet → readZdtoConfig js s.file = s.stored
  writer : ∀ wr ∈ s.writers, wr.Ok js s
  reader : ∀ reader ∈ s.readers, reader.Ok js s

variable {js} {s : State}

/-- A save that does not change the file relies on nothing. -/
theorem Writer.Ok.of_idle {wr : Writer} (h : wr.changing = false) : wr.Ok js s := by
  obtain ⟨drgMsg, phase⟩ := wr
  cases phase with
  | begun | reading r | done failed => trivial
  | mkdirAll | stat | create | writing i off left => cases h

/-- What a save relies on are the file and what is stored. -/
theorem Writer.Ok.of_eq {s' : State} {wr : Writer} (h : wr.Ok js s) (hfile : s'.file = s.file)
    (hstored : s'.stored = s.stored) : wr.Ok js s' := by
  rw [Writer.Ok, hfile, hstored]
  exact h

/-- What is read of a file that is not there. -/
theorem readZdtoConfig_of_none {file : NamedFile} (h : file.entry = none) : readZdtoConfig js file = none := by
  rw [readZdtoConfig, NamedFile.content_eq_none_iff.mpr h, Option.bind_none]

/-- A read of the file, which has this content, decodes it. -/
theorem readZdtoConfig_of_entry {file : NamedFile} {i : Nat} {content : List UInt8} (hi : file.entry = some i)
    (hcontent : file.inodes[i]? = some content) : readZdtoConfig js file = js.unmarshal content := by
  rw [readZdtoConfig, NamedFile.content_of_entry hi, hcontent, Option.bind_some]

/-- A read that is done has found what it is said to have. -/
theorem Reader.Ok.found {reader : Reader} (h : reader.Ok js s) : reader.Found := by
  obtain ⟨phase, seen⟩ := reader
  cases phase with
  | reading i got => trivial
  | done result => exact h

/-- A whole file has the stored configuration. -/
theorem Inv.whole (h : Inv js s) (hwhole : s.Whole) : readZdtoConfig js s.file = s.stored := by
  obtain ⟨hidle, hthere⟩ := hwhole
  cases hentry : s.file.entry with
  | none =>
    rw [hentry, Option.isSome_none] at hthere
    rw [readZdtoConfig_of_none hentry]
    exact (hthere.resolve_left (by decide)).symm
  | some i =>
    by_cases hquiet : s.Quiet
    · exact h.settled hquiet
    · -- the save that changes the file has not removed it
      obtain ⟨⟨drgMsg, phase⟩, hmem, hchanging⟩ : ∃ wr ∈ s.writers, wr.changing = true := by
        simpa [State.Quiet] using hquiet
      have hok := h.writer _ hmem
      cases phase with
      | begun | reading r | done failed => cases hchanging
      | mkdirAll | stat =>
        rcases hok with hnone | hread
        · rw [hentry] at hnone
          cases hnone
        · exact hread
      | create =>
        rw [Writer.Ok, hentry] at hok
        cases hok
      | writing file off left => cases hidle _ hmem

/-! ## A save moves on -/

section Move

variable {w i : Nat} {wr wr' : Writer}

/-- No other save changes the file. -/
def State.Alone (s : State) (w : Nat) : Prop :=
  ∀ (j : Nat) wj, j ≠ w → s.writers[j]? = some wj → wj.changing = false

/-- While nobody changes the file, whoever begins to is alone. -/
theorem State.Quiet.alone (h : s.Quiet) : s.Alone w :=
  fun _ wj _ hj => h wj (List.mem_of_getElem? hj)

/-- Who changes the file is the only one. -/
theorem Inv.alone (h : Inv js s) (hw : s.writers[w]? = some wr) (hchanging : wr.changing = true) : s.Alone w := by
  intro j wj hne hj
  rw [← Bool.not_eq_true]
  intro hwj
  exact hne (h.one j w wj wr hj hw hwj hchanging)

/-- An inode that no save writes to, and this one does not. -/
theorem inode_ne_set (hold : ∀ wr ∈ s.writers, wr.inode ≠ some i) (hnew : wr'.inode ≠ some i) :
    ∀ wr ∈ s.writers.set w wr', wr.inode ≠ some i := by
  intro wr hmem
  rcases List.mem_or_eq_of_mem_set hmem with hmem | rfl
  · exact hold wr hmem
  · exact hnew

/-- A read goes on where the inodes that are written no more stay as they are. -/
theorem Reader.Ok.lift {s' : State} {reader : Reader} (h : reader.Ok js s)
    (hkeep : ∀ i content, s.file.inodes[i]? = some content → (∀ wr ∈ s.writers, wr.inode ≠ some i) →
      s'.file.inodes[i]? = some content ∧ ∀ wr ∈ s'.writers, wr.inode ≠ some i) : reader.Ok js s' := by
  obtain ⟨phase, seen⟩ := reader
  cases phase with
  | reading i got =>
    obtain ⟨content, hcontent, hgot, hseen, hidle⟩ := h
    obtain ⟨hcontent', hidle'⟩ := hkeep i content hcontent hidle
    exact ⟨content, hcontent', hgot, hseen, hidle'⟩
  | done result => exact h

/-- One save has moved on, and no other changes the file. -/
theorem inv_of_alone (hw : s.writers[w]? = some wr) (halone : s.Alone w) {file : NamedFile}
    {stored : Option DRGMsg} {readers : List Reader}
    (hok : wr'.Ok js ⟨file, stored, s.writers.set w wr', readers⟩)
    (hsettled : wr'.changing = false → readZdtoConfig js file = stored)
    (hreader : ∀ reader ∈ readers, reader.Ok js ⟨file, stored, s.writers.set w wr', readers⟩) :
    Inv js ⟨file, stored, s.writers.set w wr', readers⟩ := by
  have hlt : w < s.writers.length := (List.getElem?_eq_some_iff.mp hw).1
  have hothers : ∀ (j : Nat) wj, (s.writers.set w wr')[j]? = some wj → wj.changing = true → j = w := by
    intro j wj hj hchanging
    by_contra hne
    rw [List.getElem?_set_ne (Ne.symm hne)] at hj
    rw [halone j wj hne hj] at hchanging
    cases hchanging
  refine ⟨fun j k wj wk hj hk hwj hwk => ?_, fun hquiet => ?_, fun wj hmem => ?_, hreader⟩
  · exact (hothers j wj hj hwj).trans (hothers k wk hk hwk).symm
  · exact hsettled (hquiet wr' (List.mem_of_getElem? (List.getElem?_set_self hlt)))
  · obtain ⟨j, hj⟩ := List.mem_iff_getElem?.mp hmem
    by_cases hne : j = w
    · subst hne
      rw [List.getElem?_set_self hlt] at hj
      obtain rfl := Option.some.inj hj
      exact hok
    · rw [List.getElem?_set_ne (Ne.symm hne)] at hj
      exact .of_idle (halone j wj hne hj)

/-- The file is left as it is. -/
theorem Inv.setWriter (h : Inv js s) (hw : s.writers[w]? = some wr) (halone : s.Alone w)
    (hok : wr'.Ok js s) (hinode : wr'.inode = none)
    (hsettled : wr'.changing = false → readZdtoConfig js s.file = s.stored) : Inv js (s.setWriter w wr') := by
  refine inv_of_alone hw halone (hok.of_eq rfl rfl) hsettled fun reader hmem => ?_
  refine (h.reader reader hmem).lift fun i content hcontent hold => ⟨hcontent, inode_ne_set hold ?_⟩
  rw [hinode]
  exact nofun

/-- A save that does not change the file moves on. -/
theorem Inv.idle (h : Inv js s) (hw : s.writers[w]? = some wr) (hold : wr.changing = false)
    (hnew : wr'.changing = false) {readers : List Reader}
    (hreader : ∀ reader ∈ readers, reader.Ok js ⟨s.file, s.stored, s.writers.set w wr', readers⟩) :
    Inv js ⟨s.file, s.stored, s.writers.set w wr', readers⟩ := by
  have hchanging : ∀ (j : Nat) wj, (s.writers.set w wr')[j]? = some wj → wj.changing = true →
      s.writers[j]? = some wj := by
    intro j wj hj hwj
    rcases Tables.getElem?_set_cases hj with ⟨-, rfl⟩ | hj
    · rw [hnew] at hwj
      cases hwj
    · exact hj
  refine ⟨fun j k wj wk hj hk hwj hwk => ?_, fun hquiet => h.settled fun wj hmem => ?_, fun wj hmem => ?_, hreader⟩
  · exact h.one j k wj wk (hchanging j wj hj hwj) (hchanging k wk hk hwk) hwj hwk
  · obtain ⟨j, hj⟩ := List.mem_iff_getElem?.mp hmem
    by_cases hne : j = w
    · subst hne
      obtain rfl := Option.some.inj (hw.symm.trans hj)
      exact hold
    · refine hquiet wj (List.mem_of_getElem? (i := j) ?_)
      show (s.writers.set w wr')[j]? = some wj
      rw [List.getElem?_set_ne (Ne.symm hne), hj]
  · rcases List.mem_or_eq_of_mem_set hmem with hmem | rfl
    · exact (h.writer wj hmem).of_eq rfl rfl
    · exact .of_idle hnew

end Move

/-! ## Steps keep the invariant -/

/-- It holds at the start, whatever the file has. -/
theorem inv_start (file : NamedFile) : Inv js (.start js file) where
  one _ _ _ _ hi := absurd hi nofun
  settled _ := rfl
  writer _ hmem := absurd hmem nofun
  reader _ hmem := absurd hmem nofun

/-- A read begins. -/
theorem Inv.openFile (h : Inv js s) (hwhole : s.Whole) (ok : Bool) : (s.openFile ok).Ok js s := by
  have hread := h.whole hwhole
  rw [State.openFile]
  cases hentry : s.file.entry with
  | none =>
    rw [readZdtoConfig_of_none hentry] at hread
    exact List.mem_singleton.mpr hread
  | some i =>
    cases ok with
    | false => trivial
    | true =>
      obtain ⟨content, hcontent⟩ : ∃ content, s.file.inodes[i]? = some content :=
        ⟨_, List.getElem?_eq_getElem (s.file.named i hentry)⟩
      rw [readZdtoConfig_of_entry hentry hcontent] at hread
      refine ⟨content, hcontent, List.nil_prefix, List.mem_singleton.mpr hread, fun wr hmem => ?_⟩
      rw [hwhole.1 wr hmem]
      exact nofun

/-- A save begins. -/
theorem Inv.register (h : Inv js s) (drgMsg : DRGMsg) :
    Inv js { s with writers := s.writers ++ [⟨drgMsg, .begun⟩] } := by
  have hold : ∀ {j : Nat} {wj : Writer}, (s.writers ++ [⟨drgMsg, .begun⟩])[j]? = some wj → wj.changing = true →
      s.writers[j]? = some wj := by
    intro j wj hj hwj
    rcases Tables.getElem?_append_cases hj with ⟨-, rfl⟩ | hj
    · cases hwj
    · exact hj
  refine ⟨fun j k wj wk hj hk hwj hwk => ?_, fun hquiet => ?_, fun wr hmem => ?_, fun reader hmem => ?_⟩
  · exact h.one j k wj wk (hold hj hwj) (hold hk hwk) hwj hwk
  · exact h.settled fun wr hmem => hquiet wr (List.mem_append_left _ hmem)
  · rcases List.mem_append.mp hmem with hmem | hmem
    · exact (h.writer wr hmem).of_eq rfl rfl
    · obtain rfl := List.mem_singleton.mp hmem
      trivial
  · refine (h.reader reader hmem).lift fun i content hcontent hidle => ⟨hcontent, fun wr hwr => ?_⟩
    rcases List.mem_append.mp hwr with hwr | hwr
    · exact hidle wr hwr
    · obtain rfl := List.mem_singleton.mp hwr
      exact nofun

/-- The reads are as they should be, and so is one that begins. -/
theorem Inv.opened (h : Inv js s) (hwhole : s.Whole) (ok : Bool) :
    ∀ reader ∈ s.readers ++ [s.openFile ok], reader.Ok js s := by
  intro reader hmem
  rcases List.mem_append.mp hmem with hold | hnew
  · exact h.reader reader hold
  · obtain rfl := List.mem_singleton.mp hnew
    exact h.openFile hwhole ok

/-- A read moves on. -/
theorem Inv.setReader (h : Inv js s) {r : Nat} {reader : Reader} (hok : reader.Ok js s) :
    Inv js (s.setReader r reader) := by
  refine ⟨h.one, h.settled, fun wr hmem => (h.writer wr hmem).of_eq rfl rfl, fun reader' hmem => ?_⟩
  rcases List.mem_or_eq_of_mem_set hmem with hmem | rfl
  · exact (h.reader reader' hmem).lift fun i content hcontent hidle => ⟨hcontent, hidle⟩
  · exact hok.lift fun i content hcontent hidle => ⟨hcontent, hidle⟩

/-- A read has come to the end of what it has opened. -/
theorem Inv.readEnd (h : Inv js s) {r : Nat} {s' : State} (hstep : step js s (.readEnd r) = some s') :
    Inv js s' := by
  simp only [step] at hstep
  split at hstep
  · rename_i i got seen hr
    obtain ⟨content, hcontent, hstep⟩ := Option.bind_eq_some_iff.mp hstep
    obtain ⟨content', hcontent', hgot, hseen, -⟩ := h.reader _ (List.mem_of_getElem? hr)
    obtain rfl := Option.some.inj (hcontent.symm.trans hcontent')
    split at hstep
    · rename_i hlength
      -- it has read all there is
      obtain rfl := hgot.eq_of_length_le hlength
      cases hparse : js.unmarshal got with
      | none =>
        rw [hparse] at hstep hseen
        cases hstep
        exact h.setReader hseen
      | some config =>
        rw [hparse] at hstep hseen
        cases hstep
        exact h.setReader hseen
    · cases hstep
  · cases hstep

/-- A save has read the file, and goes on to change it. -/
theorem Inv.existing (h : Inv js s) {w : Nat} {removed : Bool} (hquiet : s.Quiet) {s' : State}
    (hstep : step js s (.existing w removed) = some s') : Inv js s' := by
  have hread := h.settled hquiet
  have halone : s.Alone w := State.Quiet.alone hquiet
  simp only [step] at hstep
  split at hstep
  · rename_i drgMsg r hw
    split at hstep
    · rename_i existingDrgMsg seen hr
      cases hstep
      cases removed with
      | true =>
        refine inv_of_alone hw halone (.inl rfl) nofun fun reader hmem => ?_
        exact (h.reader reader hmem).lift fun i content hcontent hidle => ⟨hcontent, inode_ne_set hidle nofun⟩
      | false => exact h.setWriter hw halone (.inr hread) rfl nofun
    · cases hstep
      exact h.setWriter hw halone (.inr hread) rfl nofun
    · cases hstep
  · cases hstep

/-- A save has made the file anew; nothing has it open. -/
theorem Inv.create (h : Inv js s) {w i : Nat} {drgMsg : DRGMsg} (hw : s.writers[w]? = some ⟨drgMsg, .create⟩)
    (hi : s.file.create.entry = some i) :
    Inv js { s with
      file := s.file.create
      writers := s.writers.set w ⟨drgMsg, .writing i 0 (js.encode drgMsg)⟩ } := by
  have hnone : s.file.entry = none := h.writer _ (List.mem_of_getElem? hw)
  obtain ⟨hentry, hinodes⟩ := NamedFile.create_of_none hnone
  obtain rfl : s.file.inodes.length = i := Option.some.inj (hentry.symm.trans hi)
  refine inv_of_alone hw (h.alone hw rfl) ⟨[], hi, ?_, rfl, List.nil_append _⟩ nofun fun reader hmem => ?_
  · rw [hinodes, List.getElem?_append_right (Nat.le_refl _), Nat.sub_self]
    rfl
  · refine (h.reader reader hmem).lift fun j content hcontent hold => ⟨NamedFile.getElem?_create hnone hcontent, ?_⟩
    refine inode_ne_set hold fun heq => ?_
    have hlt : j < s.file.inodes.length := (List.getElem?_eq_some_iff.mp hcontent).1
    exact absurd (Option.some.inj heq) (Nat.ne_of_gt hlt)

/-- A save writes some bytes. -/
theorem Inv.write (h : Inv js s) {w i off : Nat} {drgMsg : DRGMsg} {left : List UInt8}
    (hw : s.writers[w]? = some ⟨drgMsg, .writing i off left⟩) (n : Nat) :
    Inv js { s with
      file := s.file.write i off (left.take n)
      writers := s.writers.set w ⟨drgMsg, .writing i (off + (left.take n).length) (left.drop n)⟩ } := by
  have hmem := List.mem_of_getElem? hw
  obtain ⟨content, hentry, hcontent, rfl, htext⟩ := h.writer _ hmem
  refine inv_of_alone hw (h.alone hw rfl) ?_ nofun fun reader hreader => ?_
  · refine ⟨content ++ left.take n, hentry, NamedFile.getElem?_write_end hcontent, ?_, ?_⟩
    · rw [List.length_append]
    · rw [List.append_assoc, List.take_append_drop]
      exact htext
  · refine (h.reader reader hreader).lift fun j content' hcontent' hold => ?_
    have hne : i ≠ j := fun heq => hold _ hmem (congrArg some heq)
    refine ⟨(NamedFile.getElem?_write_ne hne.symm).trans hcontent', inode_ne_set hold fun heq => ?_⟩
    exact hne (Option.some.inj heq)

/-- A save is complete. -/
theorem Inv.writeEnd (h : Inv js s) (hjson : ∀ drgMsg, js.unmarshal (js.encode drgMsg) = some drgMsg)
    {w i off : Nat} {drgMsg : DRGMsg} (hw : s.writers[w]? = some ⟨drgMsg, .writing i off []⟩) :
    Inv js { s with
      stored := some drgMsg
      writers := s.writers.set w ⟨drgMsg, .done false⟩
      readers := s.readers.map (Reader.store drgMsg) } := by
  obtain ⟨content, hentry, hcontent, -, htext⟩ := h.writer _ (List.mem_of_getElem? hw)
  rw [List.append_nil] at htext
  refine inv_of_alone hw (h.alone hw rfl) trivial (fun _ => ?_) fun reader' hmem => ?_
  · rw [readZdtoConfig_of_entry hentry hcontent, htext]
    exact hjson drgMsg
  · obtain ⟨⟨phase, seen⟩, hreader, rfl⟩ := List.mem_map.mp hmem
    have hok := h.reader _ hreader
    cases phase with
    | reading j got =>
      obtain ⟨content', hcontent', hgot, hseen, hold⟩ := hok
      exact ⟨content', hcontent', hgot, List.mem_cons_of_mem _ hseen, inode_ne_set hold nofun⟩
    | done result => exact hok

/-- A step with which a save fails leaves the stored configuration in the file. -/
theorem Inv.of_fails (h : Inv js s) {a : Act} (hund : Undisturbed js s a) {s' : State}
    (hstep : step js s a = some s') (hfails : s.fails a = true) :
    readZdtoConfig js s.file = s.stored ∧ s'.file = s.file := by
  -- The failing step itself leaves the file alone; that the stored configuration is in it the save relied on
  -- already, or the condition says so.
  cases a with
  | mkdirAll w ok =>
    cases ok with
    | true => cases hfails
    | false =>
      simp only [step] at hstep
      split at hstep
      · rename_i drgMsg hw
        cases hstep
        refine ⟨?_, rfl⟩
        rcases h.writer _ (List.mem_of_getElem? hw) with hnone | hread
        · have hstored : s.stored = none := by
            rcases hund with hthere | hstored
            · rw [hnone] at hthere
              cases hthere
            · exact hstored
          rw [hstored]
          exact readZdtoConfig_of_none hnone
        · exact hread
      · cases hstep
  | stat w ok =>
    simp only [step] at hstep
    split at hstep
    · rename_i drgMsg hw
      cases hstep
      refine ⟨?_, rfl⟩
      rcases h.writer _ (List.mem_of_getElem? hw) with hnone | hread
      · rw [State.fails, hnone, Option.isSome_none, Bool.and_false] at hfails
        cases hfails
      · exact hread
    · cases hstep
  | create w ok =>
    cases ok with
    | true => cases hfails
    | false =>
      simp only [step] at hstep
      split at hstep
      · rename_i drgMsg hw
        cases hstep
        refine ⟨?_, rfl⟩
        have hnone : s.file.entry = none := h.writer _ (List.mem_of_getElem? hw)
        rcases hund with hthere | hstored
        · rw [hnone] at hthere
          cases hthere
        · rw [hstored]
          exact readZdtoConfig_of_none hnone
      · cases hstep
  | writeFail w =>
    simp only [step] at hstep
    split at hstep
    · cases hstep
      exact ⟨hund.2.trans hund.1.symm, rfl⟩
    · cases hstep
  | _ => cases hfails

/-- Each step of an undisturbed run keeps it. -/
theorem Inv.step (h : Inv js s) (hjson : ∀ drgMsg, js.unmarshal (js.encode drgMsg) = some drgMsg) {a : Act}
    (hund : Undisturbed js s a) {s' : State} (hstep : step js s a = some s') : Inv js s' := by
  have hfailed := h.of_fails hund hstep
  cases a with
  | register drgMsg =>
    cases hstep
    exact h.register drgMsg
  | «open» ok =>
    cases hstep
    refine ⟨h.one, h.settled, fun wr hmem => (h.writer wr hmem).of_eq rfl rfl, fun reader hmem => ?_⟩
    exact (h.opened hund ok reader hmem).lift fun i content hcontent hidle => ⟨hcontent, hidle⟩
  | saveOpen w ok =>
    simp only [ZdtoConfig.step] at hstep
    split at hstep
    · rename_i drgMsg hw
      cases hstep
      refine h.idle hw rfl rfl fun reader hmem => ?_
      exact (h.opened hund ok reader hmem).lift fun i content hcontent hidle => ⟨hcontent, inode_ne_set hidle nofun⟩
    · cases hstep
  | readSome r n =>
    simp only [ZdtoConfig.step] at hstep
    split at hstep
    · rename_i i got seen hr
      obtain ⟨content, hcontent, rfl⟩ := Option.map_eq_some_iff.mp hstep
      -- A reader's inode is written no more, so what it has read stays a prefix of a configuration.
      obtain ⟨content', hcontent', ⟨rest, rfl⟩, hseen, hidle⟩ := h.reader _ (List.mem_of_getElem? hr)
      obtain rfl := Option.some.inj (hcontent.symm.trans hcontent')
      refine h.setReader ⟨got ++ rest, hcontent, ?_, hseen, hidle⟩
      rw [List.drop_left]
      exact (List.prefix_append_right_inj got).mpr (List.take_prefix n rest)
    · cases hstep
  | readEnd r => exact h.readEnd hstep
  | readFail r =>
    simp only [ZdtoConfig.step] at hstep
    split at hstep
    · cases hstep
      exact h.setReader trivial
    · cases hstep
  | existing w removed => exact h.existing hund hstep
  | mkdirAll w ok =>
    simp only [ZdtoConfig.step] at hstep
    split at hstep
    · rename_i drgMsg hw
      cases hstep
      have hok := h.writer _ (List.mem_of_getElem? hw)
      cases ok with
      | true => exact h.setWriter hw (h.alone hw rfl) hok rfl nofun
      | false => exact h.setWriter hw (h.alone hw rfl) trivial rfl fun _ => (hfailed rfl).1
    · cases hstep
  | stat w ok =>
    simp only [ZdtoConfig.step] at hstep
    split at hstep
    · rename_i drgMsg hw
      cases hstep
      -- An entry that is there although it was to be removed makes the save fail.
      by_cases hthere : ok = true ∧ s.file.entry.isSome = true
      · rw [if_pos hthere]
        refine h.setWriter hw (h.alone hw rfl) trivial rfl fun _ => (hfailed ?_).1
        rw [State.fails, hthere.1, hthere.2]
        rfl
      · rw [if_neg hthere]
        refine h.setWriter hw (h.alone hw rfl) ?_ rfl nofun
        cases ok with
        | true => exact Option.not_isSome_iff_eq_none.mp fun hsome => hthere ⟨rfl, hsome⟩
        | false => exact hund
    · cases hstep
  | create w ok =>
    simp only [ZdtoConfig.step] at hstep
    split at hstep
    · rename_i drgMsg hw
      cases ok with
      | true =>
        obtain ⟨i, hi, rfl⟩ := Option.map_eq_some_iff.mp hstep
        exact h.create hw hi
      | false =>
        cases hstep
        exact h.setWriter hw (h.alone hw rfl) trivial rfl fun _ => (hfailed rfl).1
    · cases hstep
  | write w n =>
    simp only [ZdtoConfig.step] at hstep
    split at hstep
    · rename_i drgMsg i off left hw
      cases hstep
      exact h.write hw n
    · cases hstep
  | writeFail w =>
    simp only [ZdtoConfig.step] at hstep
    split at hstep
    · rename_i drgMsg i off left hw
      cases hstep
      exact h.setWriter hw (h.alone hw rfl) trivial rfl fun _ => (hfailed rfl).1
    · cases hstep
  | writeEnd w =>
    simp only [ZdtoConfig.step] at hstep
    split at hstep
    · rename_i drgMsg i off hw
      cases hstep
      exact h.writeEnd hjson hw
    · cases hstep

/-- In a run whose saves are undisturbed, a save that returns an error has changed nothing, and every read finds
    a configuration as it was saved. -/
theorem saves_atomic (hjson : ∀ drgMsg, js.unmarshal (js.encode drgMsg) = some drgMsg) (file : NamedFile)
    (acts : List Act) (hund : Steps (step js) (Undisturbed js) (.start js file) acts) :
    Steps (step js) (Atomic js) (.start js file) acts := by
  refine steps_imp (I := Inv js) (fun s a h ha => ?_) (fun s a s' h ha hstep => h.step hjson ha hstep)
    (inv_start file) hund
  intro s' hstep
  refine ⟨fun hfails => ?_, fun reader hmem => ((h.step hjson ha hstep).reader reader hmem).found⟩
  obtain ⟨hread, hfile⟩ := h.of_fails ha hstep hfails
  rw [hfile]
  exact hread

/-! ## Two configurations of an object -/

/-- The fields of a configuration. -/
abbrev Fields := List (List Nat) × Bool × Bool

/-- A registration as numbers, to write it to a file and read it back by evaluation. -/
def DRGMsg.fields (m : DRGMsg) : Fields :=
  ([m.doType, m.doId, m.dbId, m.dataSourceType, m.accessUrl, m.spo.policyId, m.spo.policy].map
    fun s => s.toList.map Char.toNat, m.accessByNHP, m.spo.embedded)

/-- The registration with these fields. -/
def DRGMsg.ofFields : Fields → Option DRGMsg
  | ([a, b, c, d, e, f, g], p, q) =>
    let str (s : List Nat) : String := .ofList (s.map Char.ofNat)
    some ⟨str a, str b, str c, str d, str e, p, str f, str g, q⟩
  | _ => none

/-- Nothing is lost on the way. -/
theorem DRGMsg.ofFields_fields (m : DRGMsg) : DRGMsg.ofFields m.fields = some m := by
  have hchars : ∀ s : String, String.ofList ((s.toList.map Char.toNat).map Char.ofNat) = s := by
    intro s
    rw [List.map_map, show Char.ofNat ∘ Char.toNat = id from funext Char.ofNat_toNat, List.map_id,
      String.ofList_toList]
  simp only [DRGMsg.ofFields, DRGMsg.fields, List.map_cons, List.map_nil, hchars]

/-- A registration of one object at this URL. -/
def sampleMsg (accessUrl : String) : DRGMsg where
  doType := "ZTDO"
  doId := "object"
  dbId := "db1"
  dataSourceType := "file"
  accessUrl := accessUrl
  accessByNHP := true
  spo := ⟨"policy", "", true⟩

/-- The text that `json.MarshalIndent` makes of it. -/
def sampleText (accessUrl : String) : List UInt8 :=
  ("\x7b\n  \"doType\": \"ZTDO\",\n  \"doId\": \"object\",\n  \"dbId\": \"db1\",\n" ++
    "  \"dataSourceType\": \"file\",\n  \"accessUrl\": \"" ++ accessUrl ++ "\",\n  \"accessByNHP\": true,\n" ++
    "  \"spo\": \x7b\n    \"policyId\": \"policy\",\n    \"policy\": \"\",\n    \"embedded\": true\n  \x7d\n\x7d\n"
    ).toUTF8.data.toList

/-- The texts of two configurations as they are; the others are numbered. -/
def sampleJson : Json where
  encode m :=
    if m = sampleMsg "https://a/1" then sampleText "https://a/1"
    else if m = sampleMsg "https://a/2" then sampleText "https://a/2"
    else 0 :: List.replicate (Encodable.encode m.fields) 0
  unmarshal text :=
    if text = sampleText "https://a/1" then some (sampleMsg "https://a/1")
    else if text = sampleText "https://a/2" then some (sampleMsg "https://a/2")
    else if text.head? = some 0 then (Encodable.decode text.tail.length).bind DRGMsg.ofFields
    else none

/-- The sample codec reads back what it wrote. -/
theorem sampleJson_unmarshal_encode (m : DRGMsg) : sampleJson.unmarshal (sampleJson.encode m) = some m := by
  simp only [sampleJson]
  split
  · rename_i h
    rw [if_pos rfl, h]
  · split
    · rename_i h
      rw [if_neg (by decide +kernel), if_pos rfl, h]
    · -- the numbers start otherwise than the texts
      have hne : ∀ accessUrl ∈ ["https://a/1", "https://a/2"],
          0 :: List.replicate (Encodable.encode m.fields) 0 ≠ sampleText accessUrl := by
        intro accessUrl hmem h
        have hhead : ∀ accessUrl ∈ ["https://a/1", "https://a/2"], (sampleText accessUrl).head? ≠ some 0 := by
          decide +kernel
        exact hhead accessUrl hmem (congrArg List.head? h).symm
      rw [if_neg (hne _ (by simp)), if_neg (hne _ (by simp)), List.head?_cons, if_pos rfl, List.tail_cons,
        List.length_replicate, Encodable.encodek]
      exact m.ofFields_fields

/-- The file of a configuration that has been saved. -/
def sampleFile : NamedFile :=
  .write (.create ⟨[], none, NamedFile.named_none []⟩) 0 0 (sampleText "https://a/1")

/-- The URL is changed while a request reads the file, and another request reads it afterwards. -/
def changed : List Act :=
  [.open true, .register (sampleMsg "https://a/2"), .saveOpen 0 true, .readSome 1 400, .readEnd 1, .existing 0 true,
    .readSome 0 20, .mkdirAll 0 true, .stat 0 true, .create 0 true, .write 0 100, .write 0 400, .readSome 0 400,
    .writeEnd 0, .readEnd 0, .open true, .readSome 2 400, .readEnd 2]

/-- A change of the URL, undisturbed. -/
theorem saves_atomic_changed :
    (run (step sampleJson) (.start sampleJson sampleFile) changed).isSome = true ∧
      Steps (step sampleJson) (Atomic sampleJson) (.start sampleJson sampleFile) changed :=
  ⟨by decide +kernel, saves_atomic sampleJson_unmarshal_encode sampleFile changed (by decide +kernel)⟩

/-- The new file cannot be made; or a request comes before it is written. -/
def failedCreate : List Act :=
  [.register (sampleMsg "https://a/2"), .saveOpen 0 true, .readSome 0 400, .readEnd 0, .existing 0 true,
    .mkdirAll 0 true, .stat 0 true, .create 0 false]

/-- A read that opens the file while the new version is half written. -/
def readBetween : List Act :=
  [.register (sampleMsg "https://a/2"), .saveOpen 0 true, .readSome 0 400, .readEnd 0, .existing 0 true,
    .mkdirAll 0 true, .stat 0 true, .create 0 true, .write 0 100, .open true, .readSome 1 400, .readEnd 1]

/-- A save that fails at the creation loses what was stored, and a read beside a save gets a part of the text. -/
theorem config_lost_or_torn :
    ¬ Steps (step sampleJson) (Atomic sampleJson) (.start sampleJson sampleFile) failedCreate ∧
      ¬ Steps (step sampleJson) (Atomic sampleJson) (.start sampleJson sampleFile) readBetween := by
  decide +kernel

end OpenNHP.Server.ZdtoConfig
