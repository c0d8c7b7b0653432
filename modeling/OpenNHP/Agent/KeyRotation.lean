/-
  New keys for an agent (`endpoints/agent/config.go`): `RotateAgentKey` and `RotateTeeKey` write a new private key
  into `config.toml` and `dhp.toml`, and `InitializeSecret` does both once and records that.

  THE SPECIFICATION.  Where a rotation returns no error the new file is read as the old one with the new key in
  place of the old, and the rest as it was (`Replaced`).

  WHERE IT FAILS.  `UpdateTomlConfig` returns no error when nothing was matched, and what it matches need not be
  the whole value.  An empty key stays empty, and is recorded as created (`empty_key_kept`).

  THE CRUX.  Which definitions it changes is seen in the file before, line by line (`TakesKey`).  Reading TOML is a
  library's work, so the reader is a parameter that knows what a line defines (`Reader`), and the new file has the
  old one's lines but for the value that was replaced (`unmarshal_new`).

  ASSEMBLY.  `replaced_iff_takesKey` is the iff for one file and one key, `rotation_iff` that for both rotations
  and for the first start.  The reader of the sample reads keys and strings of plain letters, and no other value.
-/
import OpenNHP.Agent.UpdateToml
import OpenNHP.Core.Crypto

namespace OpenNHP.Agent

open BigEndian TomlFile Regexp OpenNHP.Core OpenNHP.KGC.ConfigFile

/-! ## Updating a file -/

/-- The errors of the operating system that are told apart. -/
inductive OsError
  | notExist
  | other
  deriving DecidableEq

/-- Why a rotation fails. -/
inductive RotateError
  | os (e : OsError)
  | unmarshal
  /-- "unsupported type: …" -/
  | unsupportedType
  /-- The random numbers failed; the method of the `nil` key panics. -/
  | nilKey
  deriving DecidableEq

/-- What the system does in one rotation; a write that fails leaves anything in the file. -/
structure Attempt where
  readScheme : Option OsError
  newECDH : EccType → Option Bytes
  read : Option OsError
  write : Option (OsError × Option Bytes)

/-- `os.ReadFile`, with what the system does and what is there. -/
def readFile (fault : Option OsError) (file : Option Bytes) : Except RotateError Bytes :=
  match fault, file with
  | some e, _ => .error (.os e)
  | none, none => .error (.os .notExist)
  | none, some content => .ok content

/-- The value of an update. -/
inductive AnyValue
  | text (value : Base64Text)
  | other

/-- `UpdateTomlConfig`, with what it leaves of the file. -/
def updateTomlConfig (a : Attempt) (file : Option Bytes) (key : BareKey) (value : AnyValue) :
    Except RotateError Unit × Option Bytes :=
  match readFile a.read file with
  | .error e => (.error e, file)
  | .ok content =>
    match value with
    | .other => (.error .unsupportedType, file)
    | .text value =>
      match a.write with
      | some (e, left) => (.error (.os e), left)
      | none => (.ok (), some (newContent key value content))

/-! ## Rotation -/

/-- The key in `config.toml`, -/
def privateKeyName : BareKey where
  name := "PrivateKeyBase64".toUTF8.data.toList
  nonempty := List.cons_ne_nil _ _
  bare := List.all_eq_true.mp rfl

/-- and the one in `dhp.toml`. -/
def teePrivateKeyName : BareKey where
  name := "TEEPrivateKeyBase64".toUTF8.data.toList
  nonempty := List.cons_ne_nil _ _
  bare := List.all_eq_true.mp rfl

/-- `GetEccType`; one is `CIPHER_SCHEME_CURVE`. -/
def getEccType (defaultCipherScheme : Int) : EccType := if defaultCipherScheme = 1 then .curve25519 else .sm2

/-- `PrivateKeyBase64` of `NewEcdhFromConfigFile`; `scheme` is the cipher scheme of the `Config` that the library
    reads in a file. -/
def newEcdhFromConfigFile (scheme : Bytes → Option Int) (a : Attempt) (config : Option Bytes) :
    Except RotateError Base64Text :=
  match readFile a.readScheme config with
  | .error e => .error e
  | .ok content =>
    match scheme content with
    | none => .error .unmarshal
    | some defaultCipherScheme =>
      match a.newECDH (getEccType defaultCipherScheme) with
      | none => .error .nilKey
      | some key => .ok (.encode key)

/-- The files of the agent. -/
structure Disk where
  config : Option Bytes
  dhp : Option Bytes
  secretCreated : Bool
  deriving DecidableEq

/-- `RotateAgentKey`. -/
def rotateAgentKey (scheme : Bytes → Option Int) (a : Attempt) (disk : Disk) : Except RotateError Unit × Disk :=
  match newEcdhFromConfigFile scheme a disk.config with
  | .error e => (.error e, disk)
  | .ok key =>
    let update := updateTomlConfig a disk.config privateKeyName (.text key)
    (update.1, { disk with config := update.2 })

/-- `RotateTeeKey`: the scheme is that of `config.toml`. -/
def rotateTeeKey (scheme : Bytes → Option Int) (a : Attempt) (disk : Disk) : Except RotateError Unit × Disk :=
  match newEcdhFromConfigFile scheme a disk.config with
  | .error e => (.error e, disk)
  | .ok key =>
    let update := updateTomlConfig a disk.dhp teePrivateKeyName (.text key)
    (update.1, { disk with dhp := update.2 })

/-- What the system does at a start. -/
structure Startup where
  stat : Option OsError
  agent : Attempt
  tee : Attempt
  create : Option OsError

/-- `os.IsNotExist` of the error of `os.Stat` -/
def Startup.notExist (s : Startup) (disk : Disk) : Bool :=
  match s.stat with
  | some e => e == .notExist
  | none => !disk.secretCreated

/-- `InitializeSecret`: both rotations, and the mark that they were done. -/
def initializeSecret (scheme : Bytes → Option Int) (s : Startup) (disk : Disk) : Except RotateError Unit × Disk :=
  if s.notExist disk then
    match rotateAgentKey scheme s.agent disk with
    | (.error e, disk) => (.error e, disk)
    | (.ok _, disk) =>
      match rotateTeeKey scheme s.tee disk with
      | (.error e, disk) => (.error e, disk)
      | (.ok _, disk) =>
        match s.create with
        | some e => (.error (.os e), disk)
        | none => (.ok (), { disk with secretCreated := true })
  else (.ok (), disk)

/-! ## What an update is for -/

variable {α : Type} {G : Grammar α}

/-- The new file gives the value for the key, and what the old one gave for every other. -/
def Replaced (R : Reader G) (key : BareKey) (value : Base64Text) (old new : Bytes) : Prop :=
  ∃ es es', R.unmarshal old = some es ∧ R.unmarshal new = some es' ∧
    es'.lookup (topLevel key.name) = some (.str value.text) ∧
    ∀ place, place ≠ topLevel key.name → es'.lookup place = es.lookup place

/-- In the file before: the key is defined, where it is matched if it is not the value already; what else is
    matched is the value already. -/
structure TakesKey (f : File G) (key : BareKey) (value : Base64Text) : Prop where
  defined : ∃ d, (topLevel key.name, d) ∈ entries .top f.parts
  matched : ∀ d, (topLevel key.name, d) ∈ entries .top f.parts → d.isTaken key = true ∨ d.value = .str value.text
  others : ∀ place d, (place, d) ∈ entries .top f.parts → place ≠ topLevel key.name → d.isTaken key = true →
    d.value = .str value.text

/-! ## The definitions of a file in order -/

section InOrder

variable {f : File G} {key : BareKey} {value : Base64Text}

/-- A definition is at its own path. -/
theorem parts_path {f : File G} {path : Path} {d : Definition G} (h : .define path d ∈ f.parts) : path = d.path := by
  have hexpression : ∀ e : Expression G, .define path d ∈ e.parts → path = d.path := by
    intro e he
    cases e with
    | note text ends => cases he
    | header indent text tail h' _ _ _ => cases List.mem_singleton.mp he
    | definition d' =>
      cases List.mem_singleton.mp he
      rfl
  induction f with
  | last e => exact hexpression e h
  | line e crlf rest ih =>
    rcases List.mem_append.mp h with h | h
    · exact hexpression e h
    · exact ih h

/-- Two definitions of the key next to each other would be of one place. -/
theorem apart_of_nodup {parts : List (Statement (Definition G))} {c : Cursor}
    (hpath : ∀ path d, .define path d ∈ parts → path = d.path)
    (h : ((entries c parts).map Prod.fst).Nodup) : Apart key parts := by
  induction parts generalizing c with
  | nil => exact List.IsChain.nil
  | cons s parts ih =>
    have htail : Apart key parts := by
      have hpath' := fun path d hd => hpath path d (List.mem_cons_of_mem _ hd)
      cases s with
      | header header => exact ih (c := c.move header) hpath' h
      | define path d => exact ih (c := c) hpath' (List.nodup_cons.mp h).2
    cases parts with
    | nil => exact List.IsChain.singleton s
    | cons s' parts =>
      refine List.IsChain.cons_cons ?_ htail
      rintro ⟨hs, hs'⟩
      cases s with
      | header header => cases hs
      | define path d =>
        cases s' with
        | header header => cases hs'
        | define path' d' =>
          have hsame : path = path' := by
            have hd := Definition.key_of_isTaken hs
            have hd' := Definition.key_of_isTaken hs'
            rw [hpath path d List.mem_cons_self, hpath path' d' (List.mem_cons_of_mem _ List.mem_cons_self)]
            have hkey := d.key_path.symm.trans ((congrArg G.key (hd.trans hd'.symm)).trans d'.key_path)
            exact Option.some.inj hkey
          rw [hsame] at h
          exact (List.nodup_cons.mp h).1 List.mem_cons_self

/-- What is matched is a string, and stays one. -/
theorem shape_valueAfter (d : Definition G) (key : BareKey) (value : Base64Text) :
    (d.valueAfter key value).shape = d.value.shape := by
  rw [Definition.valueAfter]
  split_ifs with htaken
  · rw [Definition.isTaken, Bool.and_eq_true] at htaken
    obtain ⟨m, s, -, hline, -⟩ := isQuoted_iff.mp htaken.2
    obtain ⟨c, hhead, -⟩ := G.value_head _ _ d.text_value
    obtain ⟨text, htext⟩ := List.head?_eq_some_iff.mp hhead
    rw [htext, List.cons_append] at hline
    have hquote : d.text.head? = some 34 := by
      rw [htext, (List.cons.inj hline).1]
      rfl
    obtain ⟨old, hold⟩ := G.value_quote _ _ d.text_value hquote
    rw [hold]
    rfl
  · rfl

/-- One map after another. -/
theorem statement_map_map {β γ δ : Type} (g : γ → δ) (h : β → γ) (ss : List (Statement β)) :
    (ss.map (Statement.map h)).map (Statement.map g) = ss.map (Statement.map fun b => g (h b)) := by
  rw [List.map_map]
  refine List.map_congr_left fun s _ => ?_
  cases s with
  | header header => rfl
  | define path b => rfl

/-- The file after an update is in order too. -/
theorem inOrder_updated (R : Reader G) (horder : R.inOrder f.statements) (key : BareKey) (value : Base64Text) :
    R.inOrder (f.parts.map (Statement.map fun d => d.valueAfter key value)) := by
  refine R.inOrder_shape _ _ ?_ horder
  rw [File.statements, statement_map_map, statement_map_map]
  simp only [shape_valueAfter]

/-- What is defined twice is no TOML. -/
theorem nodup_parts (R : Reader G) (horder : R.inOrder f.statements) :
    ((entries .top f.parts).map Prod.fst).Nodup := by
  have hnodup := R.inOrder_nodup _ horder
  rw [File.statements, places_map] at hnodup
  exact hnodup

/-- What the library reads in the new file: the old definitions, with the new value where they were matched. -/
theorem unmarshal_new (R : Reader G) (horder : R.inOrder f.statements) (huncut : f.Uncut key)
    (value : Base64Text) :
    R.unmarshal (newContent key value f.text) =
      some ((entries .top f.parts).map (Prod.map id fun d => d.valueAfter key value)) := by
  have hapart : Apart key f.parts := apart_of_nodup (fun _ _ => parts_path) (nodup_parts R horder)
  have hupdated : Updated key value f := (updated_file f huncut hapart).1
  obtain ⟨f', htext, hstatements⟩ := hupdated
  have hread := R.reads f' (hstatements ▸ inOrder_updated R horder key value)
  rw [htext, hstatements, entries_map] at hread
  exact hread

/-- The old file is read as what its lines define. -/
theorem unmarshal_old (R : Reader G) (horder : R.inOrder f.statements) :
    R.unmarshal f.text = some ((entries .top f.parts).map (Prod.map id Definition.value)) := by
  rw [R.reads f horder, File.statements, entries_map]

/-- What an update does, seen in the file before it. -/
theorem replaced_iff_takesKey (R : Reader G) (horder : R.inOrder f.statements) (huncut : f.Uncut key) :
    Replaced R key value f.text (newContent key value f.text) ↔ TakesKey f key value := by
  have hnodup := nodup_parts R horder
  have hold := unmarshal_old R horder
  have hnew := unmarshal_new R horder huncut value
  -- An update replaces the value of every definition that is taken, whatever key it belongs to.
  constructor
  · rintro ⟨es, es', hes, hes', hkey, hothers⟩
    obtain rfl := Option.some.inj (hold.symm.trans hes)
    obtain rfl := Option.some.inj (hnew.symm.trans hes')
    rw [List.lookup_map_snd, Option.map_eq_some_iff] at hkey
    obtain ⟨d, hd, hvalue⟩ := hkey
    have hmem := (List.lookup_eq_some_iff_mem hnodup).mp hd
    refine ⟨⟨d, hmem⟩, ?_, ?_⟩
    · intro d' hd'
      obtain rfl : d = d' := by
        rw [← List.lookup_eq_some_iff_mem hnodup, hd] at hd'
        exact Option.some.inj hd'
      rw [Definition.valueAfter] at hvalue
      split_ifs at hvalue with htaken
      · exact .inl htaken
      · exact .inr hvalue
    · intro place d' hd' hplace htaken
      have hsame := hothers place hplace
      rw [List.lookup_map_snd, List.lookup_map_snd, (List.lookup_eq_some_iff_mem hnodup).mpr hd'] at hsame
      have hvalue' : d'.valueAfter key value = d'.value := Option.some.inj hsame
      rw [← hvalue', Definition.valueAfter, if_pos htaken]
  · rintro ⟨⟨d, hd⟩, hmatched, hothers⟩
    refine ⟨_, _, hold, hnew, ?_, ?_⟩
    · rw [List.lookup_map_snd, (List.lookup_eq_some_iff_mem hnodup).mpr hd, Option.map_some,
        Definition.valueAfter]
      split_ifs with htaken
      · rfl
      · rw [(hmatched d hd).resolve_left htaken]
    · intro place hplace
      rw [List.lookup_map_snd, List.lookup_map_snd]
      cases hlookup : (entries .top f.parts).lookup place with
      | none => rfl
      | some d' =>
        have hmem := (List.lookup_eq_some_iff_mem hnodup).mp hlookup
        rw [Option.map_some, Option.map_some, Definition.valueAfter]
        split_ifs with htaken
        · rw [hothers place d' hmem hplace htaken]
        · rfl

end InOrder

/-! ## The rotations -/

/-- An update that returns no error writes the new content, whether anything was matched or not. -/
theorem updateTomlConfig_ok {a : Attempt} {file after : Option Bytes} {key : BareKey} {value : Base64Text}
    (h : updateTomlConfig a file key (.text value) = (.ok (), after)) :
    ∃ content, file = some content ∧ after = some (newContent key value content) := by
  rw [updateTomlConfig] at h
  cases hread : readFile a.read file with
  | error e =>
    rw [hread] at h
    cases h
  | ok content =>
    rw [hread] at h
    have hfile : file = some content := by
      rw [readFile.eq_def] at hread
      split at hread
      · cases hread
      · cases hread
      · exact congrArg some (Except.ok.inj hread)
    cases hwrite : a.write with
    | some failed =>
      rw [hwrite] at h
      cases h
    | none =>
      rw [hwrite] at h
      exact ⟨content, hfile, (congrArg Prod.snd h).symm⟩

/-- A rotation that returns no error has written what the update made of its file. -/
theorem rotate_ok {scheme : Bytes → Option Int} {a : Attempt} {config file : Option Bytes} {name : BareKey}
    {disk disk' : Disk} {put : Option Bytes → Disk}
    (h : (match newEcdhFromConfigFile scheme a config with
      | .error e => (.error e, disk)
      | .ok key => ((updateTomlConfig a file name (.text key)).1, put (updateTomlConfig a file name (.text key)).2)) =
      ((.ok (), disk') : Except RotateError Unit × Disk)) :
    ∃ key content, newEcdhFromConfigFile scheme a config = .ok key ∧ file = some content ∧
      disk' = put (some (newContent name key content)) := by
  cases hkey : newEcdhFromConfigFile scheme a config with
  | error e =>
    rw [hkey] at h
    cases h
  | ok key =>
    rw [hkey] at h
    obtain ⟨hresult, rfl⟩ := Prod.mk.inj h
    obtain ⟨content, hcontent, hafter⟩ := updateTomlConfig_ok (Prod.ext hresult rfl)
    exact ⟨key, content, rfl, hcontent, congrArg put hafter⟩

/-- A rotation without an error writes the new content, -/
theorem rotateAgentKey_ok {scheme : Bytes → Option Int} {a : Attempt} {disk disk' : Disk}
    (h : rotateAgentKey scheme a disk = (.ok (), disk')) : ∃ key content,
      newEcdhFromConfigFile scheme a disk.config = .ok key ∧ disk.config = some content ∧
      disk' = { disk with config := some (newContent privateKeyName key content) } :=
  @rotate_ok _ _ _ _ _ disk disk' (fun config => { disk with config }) h

/-- in either file. -/
theorem rotateTeeKey_ok {scheme : Bytes → Option Int} {a : Attempt} {disk disk' : Disk}
    (h : rotateTeeKey scheme a disk = (.ok (), disk')) : ∃ key content,
      newEcdhFromConfigFile scheme a disk.config = .ok key ∧ disk.dhp = some content ∧
      disk' = { disk with dhp := some (newContent teePrivateKeyName key content) } :=
  @rotate_ok _ _ _ _ _ disk disk' (fun dhp => { disk with dhp }) h

/-- The secrets are recorded after two updates without an error. -/
theorem initializeSecret_recorded {scheme : Bytes → Option Int} {s : Startup} {disk disk' : Disk}
    {result : Except RotateError Unit} (h : initializeSecret scheme s disk = (result, disk'))
    (hbefore : disk.secretCreated = false) (hafter : disk'.secretCreated = true) :
    ∃ between, rotateAgentKey scheme s.agent disk = (.ok (), between) ∧
      ∃ both, rotateTeeKey scheme s.tee between = (.ok (), both) ∧ disk' = { both with secretCreated := true } := by
  -- no update touches the record
  have hagent : (rotateAgentKey scheme s.agent disk).2.secretCreated = disk.secretCreated := by
    rw [rotateAgentKey]
    split <;> rfl
  have htee : ∀ disk, (rotateTeeKey scheme s.tee disk).2.secretCreated = disk.secretCreated := by
    intro disk
    rw [rotateTeeKey]
    split <;> rfl
  have hnot : ∀ {d : Disk}, d.secretCreated = disk.secretCreated → d ≠ disk' := by
    rintro d hd rfl
    rw [hd, hbefore] at hafter
    cases hafter
  rw [initializeSecret] at h
  split_ifs at h
  · split at h
    · next e between hrotate =>
      rw [hrotate] at hagent
      exact absurd (congrArg Prod.snd h) (hnot hagent)
    · next between hrotate =>
      rw [hrotate] at hagent
      have hboth := htee between
      split at h
      · next e both hrotate' =>
        rw [hrotate'] at hboth
        exact absurd (congrArg Prod.snd h) (hnot (hboth.trans hagent))
      · next both hrotate' =>
        rw [hrotate'] at hboth
        split at h
        · exact absurd (congrArg Prod.snd h) (hnot (hboth.trans hagent))
        · exact ⟨between, hrotate, both, hrotate', (congrArg Prod.snd h).symm⟩
  · exact absurd (congrArg Prod.snd h) (hnot rfl)

/-- An update without an error reaches the file, and the record of new secrets is true, exactly when the files
    before were such that the keys are matched, or have their value, and no other definition changes. -/
theorem rotation_iff (R : Reader G) (scheme : Bytes → Option Int) :
    (∀ (f : File G) (key : BareKey) (value : Base64Text) (a : Attempt) (after : Option Bytes),
      R.inOrder f.statements → f.Uncut key →
      updateTomlConfig a (some f.text) key (.text value) = (.ok (), after) →
      ∃ new, after = some new ∧ (Replaced R key value f.text new ↔ TakesKey f key value)) ∧
    ∀ (config dhp : File G) (s : Startup) (result : Except RotateError Unit) (disk : Disk),
      R.inOrder config.statements → R.inOrder dhp.statements →
      config.Uncut privateKeyName → dhp.Uncut teePrivateKeyName →
      initializeSecret scheme s ⟨some config.text, some dhp.text, false⟩ = (result, disk) →
      disk.secretCreated = true →
      ∃ key teeKey config' dhp', disk = ⟨some config', some dhp', true⟩ ∧
        newEcdhFromConfigFile scheme s.agent (some config.text) = .ok key ∧
        newEcdhFromConfigFile scheme s.tee (some config') = .ok teeKey ∧
        (Replaced R privateKeyName key config.text config' ∧ Replaced R teePrivateKeyName teeKey dhp.text dhp' ↔
          TakesKey config privateKeyName key ∧ TakesKey dhp teePrivateKeyName teeKey) := by
  constructor
  · intro f key value a after horder huncut hupdate
    obtain ⟨content, hcontent, rfl⟩ := updateTomlConfig_ok hupdate
    obtain rfl := Option.some.inj hcontent
    exact ⟨_, rfl, replaced_iff_takesKey R horder huncut⟩
  · intro config dhp s result disk hconfig hdhp huncut huncut' hrun hrecorded
    obtain ⟨between, hagent, both, htee, rfl⟩ := initializeSecret_recorded hrun rfl hrecorded
    obtain ⟨key, content, hkey, hcontent, rfl⟩ := rotateAgentKey_ok hagent
    obtain rfl := Option.some.inj hcontent
    obtain ⟨teeKey, content', hteeKey, hcontent', rfl⟩ := rotateTeeKey_ok htee
    obtain rfl := Option.some.inj hcontent'
    exact ⟨key, teeKey, _, _, rfl, hkey, hteeKey,
      and_congr (replaced_iff_takesKey R hconfig huncut) (replaced_iff_takesKey R hdhp huncut')⟩

/-! ## A library for plain files -/

/-- A key of bare letters. -/
def plainKey (text : Bytes) : Option Path := if text ≠ [] ∧ text.all isBareKey then some [text] else none

/-- `[name]` -/
def plainHeader (text : Bytes) : Option Header :=
  if text = text.dropLast ++ [93] ∧ text.dropLast.all isBareKey then some (.table [text.dropLast]) else none

/-- A string without escapes. -/
def plainString (text : Bytes) : Option (Value Unit) :=
  if text = 34 :: text.tail.dropLast ++ [34] ∧ text.tail.dropLast.all isText then some (.str text.tail.dropLast)
  else none

/-- It is read as itself. -/
theorem plainKey_some {text : Bytes} {path : Path} (h : plainKey text = some path) :
    text ≠ [] ∧ (∀ c ∈ text, isBareKey c = true) ∧ path = [text] := by
  rw [plainKey] at h
  split_ifs at h with hbare
  exact ⟨hbare.1, List.all_eq_true.mp hbare.2, (Option.some.inj h).symm⟩

/-- So is the header of a table, -/
theorem plainHeader_some {text : Bytes} {h : Header} (hheader : plainHeader text = some h) :
    ∃ name, text = name ++ [93] ∧ (∀ c ∈ name, isBareKey c = true) ∧ h = .table [name] := by
  rw [plainHeader] at hheader
  split_ifs at hheader with hname
  exact ⟨_, hname.1, List.all_eq_true.mp hname.2, (Option.some.inj hheader).symm⟩

/-- and so is a string without escapes. -/
theorem plainString_some {text : Bytes} {v : Value Unit} (h : plainString text = some v) :
    ∃ s, text = 34 :: s ++ [34] ∧ IsText s ∧ v = .str s := by
  rw [plainString] at h
  split_ifs at h with hstring
  exact ⟨_, hstring.1, List.all_eq_true.mp hstring.2, (Option.some.inj h).symm⟩

/-- A grammar that knows these and nothing else. -/
def plainGrammar : Grammar Unit where
  key := plainKey
  header := plainHeader
  value := plainString
  comment text := text.all isText
  key_bare name := if_pos ⟨name.nonempty, List.all_eq_true.mpr name.bare⟩
  key_line text path h hmem := by cases (plainKey_some h).2.1 10 hmem
  key_head text path h := by
    obtain ⟨hne, hbare, -⟩ := plainKey_some h
    obtain ⟨c, rest, rfl⟩ := List.exists_cons_of_ne_nil hne
    exact ⟨c, rfl, not_isSpace_of_isBareKey (hbare c List.mem_cons_self)⟩
  key_dot name text rest path h happend := by
    obtain ⟨-, hbare, -⟩ := plainKey_some h
    cases rest with
    | nil => exact .inl rfl
    | cons c rest => exact .inr (.inl ⟨c, rfl, hbare c (happend ▸ List.mem_append_right _ List.mem_cons_self)⟩)
  header_line text h hheader := by
    obtain ⟨name, rfl, hbare, -⟩ := plainHeader_some hheader
    intro hmem
    rcases List.mem_append.mp hmem with hmem | hmem
    · cases hbare 10 hmem
    · cases List.mem_singleton.mp hmem
  comment_line text h hmem := by cases List.all_eq_true.mp h 10 hmem
  value_head text v h := by
    obtain ⟨s, rfl, -, -⟩ := plainString_some h
    exact ⟨34, rfl, rfl⟩
  value_last text v h := by
    obtain ⟨s, rfl, -, -⟩ := plainString_some h
    exact ⟨34, List.getLast?_concat, rfl⟩
  value_quote text v h _ := by
    obtain ⟨s, -, -, rfl⟩ := plainString_some h
    exact ⟨s, rfl⟩
  value_plain s hs := by
    have hdrop : (34 :: s ++ [34]).tail.dropLast = s := List.dropLast_concat
    rw [plainString, hdrop]
    exact if_pos ⟨rfl, List.all_eq_true.mpr hs⟩

/-- What a line says behind its indentation. -/
def readText : Bytes → Option (Statement (Value Unit))
  | [] => none
  | c :: rest =>
    if c = 35 then none
    else if c = 91 then some (.header (.table [rest.takeWhile isBareKey]))
    else
      let value := (((c :: rest).dropWhile isBareKey).dropWhile isSpace).tail.dropWhile isSpace
      some (.define [(c :: rest).takeWhile isBareKey] (.str (value.tail.takeWhile isText)))

/-- A line is read without its indent. -/
def readLine (line : Bytes) : Option (Statement (Value Unit)) := readText (line.dropWhile isSpace)

/-- A file is read line by line, and a name that is defined twice is an error. -/
def readPlain (content : Bytes) : Option (List (Place × Value Unit)) :=
  let es := entries .top ((content.splitOn 10).filterMap readLine)
  if (es.map Prod.fst).Nodup then some es else none

/-- A run of characters of a class stops at another. -/
theorem takeWhile_stop {p : UInt8 → Bool} {l : Bytes} (hl : ∀ c ∈ l, p c = true) {c : UInt8} (hc : p c = false)
    (t : Bytes) : (l ++ c :: t).takeWhile p = l ∧ (l ++ c :: t).dropWhile p = c :: t := by
  have hneg : ¬p c = true := by
    rw [hc]
    exact Bool.false_ne_true
  rw [List.takeWhile_append_of_pos hl, List.takeWhile_cons_of_neg hneg, List.append_nil,
    List.dropWhile_append_of_pos hl, List.dropWhile_cons_of_neg hneg]
  exact ⟨rfl, rfl⟩

/-- A definition is read back. -/
theorem readLine_definition (d : Definition plainGrammar) (cr : Bytes) :
    readLine (d.line ++ cr) = some (.define d.path d.value) := by
  obtain ⟨hne, hbare, hpath⟩ := plainKey_some d.key_path
  obtain ⟨s, htext, hs, hvalue⟩ := plainString_some d.text_value
  obtain ⟨c, key, hkey⟩ := List.exists_cons_of_ne_nil hne
  have hindent := fun b hb => (blank_spaces d.indent_blank b hb).1
  have hgap := fun b hb => (blank_spaces d.gap_blank b hb).1
  have hspace := fun b hb => (blank_spaces d.space_blank b hb).1
  have hc : isBareKey c = true := hbare c (hkey ▸ List.mem_cons_self)
  rw [Definition.line_append, readLine, hkey, List.cons_append, dropWhile_space hindent
    (not_isSpace_of_isBareKey hc), ← List.cons_append, ← hkey]
  -- the key ends at the gap or at the equals sign
  obtain ⟨b, rest, hrest, hb⟩ : ∃ b rest, d.gap ++ 61 :: (d.space ++ (d.text ++ (d.tail ++ cr))) = b :: rest ∧
      isBareKey b = false := by
    cases hd : d.gap with
    | nil => exact ⟨61, _, rfl, rfl⟩
    | cons b gap =>
      refine ⟨b, _, rfl, ?_⟩
      rw [← Bool.not_eq_true]
      intro hbare'
      have hblank := hgap b (hd ▸ List.mem_cons_self)
      rw [not_isSpace_of_isBareKey hbare'] at hblank
      cases hblank
  obtain ⟨htake, hdrop⟩ := takeWhile_stop hbare hb rest
  have htail : ((d.gap ++ 61 :: (d.space ++ (d.text ++ (d.tail ++ cr)))).dropWhile isSpace).tail.dropWhile isSpace =
      34 :: (s ++ 34 :: (d.tail ++ cr)) := by
    rw [dropWhile_space hgap (by decide), List.tail_cons, htext]
    simp only [List.cons_append, List.append_assoc, List.nil_append]
    exact dropWhile_space hspace (by decide) _
  obtain ⟨hstring, -⟩ := takeWhile_stop hs (by decide : isText 34 = false) (d.tail ++ cr)
  have hread : ∀ line, line = c :: (key ++ (b :: rest)) → readText line = some (.define [line.takeWhile isBareKey]
      (.str ((((line.dropWhile isBareKey).dropWhile isSpace).tail.dropWhile isSpace).tail.takeWhile isText))) := by
    rintro line rfl
    rw [readText, if_neg, if_neg]
    · rintro rfl
      cases hc
    · rintro rfl
      cases hc
  rw [hread _ (by rw [hrest, hkey, List.cons_append]), hrest, htake, hdrop, ← hrest, htail, List.tail_cons, hstring,
    hpath, hvalue]

/-- A line says what its expression does. -/
theorem readLine_expression (e : Expression plainGrammar) {cr : Bytes} (hcr : ∀ c ∈ cr, isSpace c = true) :
    (readLine (e.text ++ cr)).toList = e.parts.map (Statement.map Definition.value) := by
  cases e with
  | note text ends =>
    rw [Expression.text, readLine]
    cases hdrop : text.dropWhile isBlank with
    | nil =>
      have hspaces : ∀ c ∈ text ++ cr, isSpace c = true := by
        intro c hc
        rcases List.mem_append.mp hc with hc | hc
        · exact isSpace_of_isBlank (List.dropWhile_eq_nil_iff.mp hdrop c hc)
        · exact hcr c hc
      rw [List.dropWhile_eq_nil_iff.mpr hspaces]
      rfl
    | cons c rest =>
      rw [Grammar.isTail, hdrop, Bool.and_eq_true, beq_iff_eq] at ends
      have hspaces : ∀ c ∈ text.takeWhile isBlank, isSpace c = true :=
        fun b hb => isSpace_of_isBlank (List.mem_takeWhile_imp hb)
      have hline : text ++ cr = text.takeWhile isBlank ++ 35 :: (rest ++ cr) := by
        have hsplit := (dropWhile_eq_cons hdrop).1
        rw [ends.1] at hsplit
        exact (congrArg (· ++ cr) hsplit).trans (List.append_assoc _ _ _)
      rw [hline, dropWhile_space hspaces (by decide)]
      rfl
  | header indent text tail h hblank hheader ends =>
    obtain ⟨name, rfl, hbare, rfl⟩ := plainHeader_some hheader
    have hindent := fun b hb => (blank_spaces hblank b hb).1
    have hline : indent ++ 91 :: (name ++ [93]) ++ tail ++ cr = indent ++ 91 :: (name ++ 93 :: (tail ++ cr)) := by
      simp only [List.append_assoc, List.cons_append, List.nil_append]
    obtain ⟨htake, -⟩ := takeWhile_stop hbare (by decide : isBareKey 93 = false) (tail ++ cr)
    rw [Expression.text, hline, readLine, dropWhile_space hindent (by decide), readText, if_neg (by decide),
      if_pos rfl, htake]
    rfl
  | definition d =>
    rw [Expression.text, readLine_definition]
    rfl

/-- The lines of a file without values over several lines. -/
theorem filterMap_readLine (f : File plainGrammar) : (f.text.splitOn 10).filterMap readLine = f.statements := by
  have hline : ∀ e : Expression plainGrammar, 10 ∉ e.text := by
    intro e hmem
    obtain ⟨d, -, hd⟩ := Expression.lineBreak_mem hmem
    obtain ⟨s, htext, hs, -⟩ := plainString_some d.text_value
    rw [htext, List.cons_append, List.mem_cons, List.mem_append, List.mem_singleton] at hd
    rcases hd with hd | hd | hd
    · cases hd
    · cases hs 10 hd
    · cases hd
  induction f with
  | last e =>
    have hread := readLine_expression e (fun c hc => absurd hc List.not_mem_nil : ∀ c ∈ [], isSpace c = true)
    rw [List.append_nil] at hread
    rw [File.text, List.splitOn_eq_singleton (hline e), File.statements, File.parts, ← hread]
    cases hlast : readLine e.text with
    | none => rw [List.filterMap_cons_none hlast]; rfl
    | some s => rw [List.filterMap_cons_some hlast]; rfl
  | line e crlf rest ih =>
    have hread := readLine_expression e fun c hc => (carriageReturn_spaces crlf c hc).1
    have hnot : 10 ∉ e.text ++ carriageReturn crlf := by
      intro hmem
      rcases List.mem_append.mp hmem with hmem | hmem
      · exact hline e hmem
      · exact (carriageReturn_spaces crlf 10 hmem).2 rfl
    rw [File.text, List.splitOn_append_cons_self_of_not_mem hnot, File.statements, File.parts, List.map_append,
      ← hread, ← File.statements, ← ih]
    cases hfirst : readLine (e.text ++ carriageReturn crlf) with
    | none => rw [List.filterMap_cons_none hfirst]; rfl
    | some s => rw [List.filterMap_cons_some hfirst]; rfl

/-- The reader of that grammar. -/
def plainReader : Reader plainGrammar where
  unmarshal := readPlain
  inOrder ss := ((entries .top ss).map Prod.fst).Nodup
  reads f h := by
    rw [readPlain, filterMap_readLine]
    exact if_pos h
  inOrder_shape ss ss' hshape h := by
    rw [← places_map Value.shape, ← hshape, places_map]
    exact h
  inOrder_nodup _ h := h

/-! ## Runs -/

/-- An attempt in which nothing fails, and the random bytes are sevens. -/
def quiet : Attempt := ⟨none, fun _ => some (List.replicate 32 7), none, none⟩

/-- A definition of a key as a string. -/
def plainDefinition (key : BareKey) (text : Bytes) (htext : IsText text) : Definition plainGrammar where
  indent := []
  key := key.name
  gap := [32]
  space := [32]
  text := 34 :: text ++ [34]
  tail := []
  path := [key.name]
  value := .str text
  indent_blank := blank_nil
  key_path := plainGrammar.key_bare key
  gap_blank := blank_space
  space_blank := blank_space
  text_value := plainGrammar.value_plain text htext
  tail_ends := isTail_nil plainGrammar

/-- `PrivateKeyBase64 = ""` -/
def emptyConfig : File plainGrammar :=
  .last (.definition (plainDefinition privateKeyName [] fun _ hc => absurd hc List.not_mem_nil))

/-- `"old"` -/
def oldText : Bytes := [111, 108, 100]

/-- The old text is plain, -/
theorem isText_old : IsText oldText := List.all_eq_true.mp rfl

/-- also as the name of a table. -/
theorem plainHeader_old : plainGrammar.header (oldText ++ [93]) = some (.table [oldText]) := rfl

/-- `TEEPrivateKeyBase64 = "old"` -/
def oldDhp : File plainGrammar := .last (.definition (plainDefinition teePrivateKeyName oldText isText_old))

/-- `PrivateKeyBase64 = "old"`, and a table `[old]` in which `TEEPrivateKeyBase64` is `"old"` -/
def oldConfig : File plainGrammar :=
  .line (.definition (plainDefinition privateKeyName oldText isText_old)) false
    (.line
      (.header [] (oldText ++ [93]) [] (.table [oldText]) blank_nil plainHeader_old (isTail_nil plainGrammar)) true
      (.last (.definition (plainDefinition teePrivateKeyName oldText isText_old))))

/-- The key that is made of the sevens. -/
def newKey : Base64Text := .encode (List.replicate 32 7)

/-- A start in which nothing fails. -/
def start : Startup := ⟨none, quiet, quiet, none⟩

/-- A definition by a string of plain letters has nothing behind it to be cut. -/
theorem uncut_plain (d : Definition plainGrammar) (key : BareKey) (after : Bytes) : d.Uncut key after := by
  intro hmem
  obtain ⟨s, htext, hs, -⟩ := plainString_some d.text_value
  rw [htext, List.cons_append, List.mem_cons, List.mem_append, List.mem_singleton] at hmem
  rcases hmem with hmem | hmem | hmem
  · cases hmem
  · cases hs 10 hmem
  · cases hmem

/-- The sample's `dhp.toml` takes a new key, -/
theorem takesKey_oldDhp : TakesKey oldDhp teePrivateKeyName newKey := by
  refine ⟨⟨_, List.mem_cons_self⟩, ?_, ?_⟩
  · intro d hd
    cases List.mem_singleton.mp hd
    exact .inl (by decide)
  · intro place d hd hplace
    cases List.mem_singleton.mp hd
    exact absurd rfl hplace

/-- and so does its `config.toml`. -/
theorem takesKey_oldConfig : TakesKey oldConfig privateKeyName newKey := by
  refine ⟨⟨_, List.mem_cons_self⟩, ?_, ?_⟩
  · intro d hd
    rcases List.mem_cons.mp hd with hd | hd
    · cases hd
      exact .inl (by decide)
    · have hplace : topLevel privateKeyName.name = [(oldText, 0), (teePrivateKeyName.name, 0)] :=
        congrArg Prod.fst (List.mem_singleton.mp hd)
      exact absurd hplace (by decide)
  · intro place d hd hplace htaken
    rcases List.mem_cons.mp hd with hd | hd
    · cases hd
      exact absurd rfl hplace
    · cases List.mem_singleton.mp hd
      exact absurd htaken (by decide)

/-- Both keys are replaced, and that is recorded. -/
theorem rotation_iff_sample : ∃ config' dhp',
    initializeSecret (fun _ => some 0) start ⟨some oldConfig.text, some oldDhp.text, false⟩ =
      (.ok (), ⟨some config', some dhp', true⟩) ∧
    Replaced plainReader privateKeyName newKey oldConfig.text config' ∧
    Replaced plainReader teePrivateKeyName newKey oldDhp.text dhp' := by
  have hnodup : plainReader.inOrder oldConfig.statements := by
    show ((entries .top oldConfig.statements).map Prod.fst).Nodup
    decide
  have hnodup' : plainReader.inOrder oldDhp.statements := List.nodup_singleton _
  obtain ⟨key, teeKey, config', dhp', hdisk, hkey, hteeKey, hiff⟩ :=
    (rotation_iff plainReader fun _ => some 0).2 oldConfig oldDhp start _ _ hnodup hnodup'
      ⟨uncut_plain _ _ _, trivial, uncut_plain _ _ _⟩ (uncut_plain _ _ _) rfl rfl
  obtain rfl : newKey = key := Except.ok.inj hkey
  obtain rfl : newKey = teeKey := Except.ok.inj hteeKey
  exact ⟨config', dhp', congrArg (Prod.mk _) hdisk, hiff.mpr ⟨takesKey_oldConfig, takesKey_oldDhp⟩⟩

/-- An empty key is not matched: the file is written as it was, without an error, and the secrets are recorded
    as created. -/
theorem empty_key_kept :
    updateTomlConfig quiet (some emptyConfig.text) privateKeyName (.text newKey) = (.ok (), some emptyConfig.text) ∧
    initializeSecret (fun _ => some 0) start ⟨some emptyConfig.text, some oldDhp.text, false⟩ =
      (.ok (), ⟨some emptyConfig.text, some (newContent teePrivateKeyName newKey oldDhp.text), true⟩) ∧
    ¬Replaced plainReader privateKeyName newKey emptyConfig.text emptyConfig.text := by
  refine ⟨rfl, rfl, ?_⟩
  rintro ⟨es, es', -, hes', hkey, -⟩
  have hread : plainReader.unmarshal emptyConfig.text = some [(topLevel privateKeyName.name, .str [])] := rfl
  obtain rfl := Option.some.inj (hread.symm.trans hes')
  rw [List.lookup_cons_self] at hkey
  have hvalue := Value.str.inj (Option.some.inj hkey)
  exact absurd hvalue (by decide)

end OpenNHP.Agent
