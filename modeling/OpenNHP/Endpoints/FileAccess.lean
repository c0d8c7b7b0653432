/-
  Files whose paths come from identifiers (`endpoints/server/msghandler.go`, `httpstorage.go`,
  `kbs/resource/resource.go`, `endpoints/db/utils.go`).

  THE PROGRAM.  Two calls of the server and one of the DB put a data object's id into a file name and join it to
  their directory; the key broker and the storage join what they are asked for to theirs and test whether the
  result starts with the directory's path, as text.

  THE SPECIFICATION.  Every operation on a file is on one below the directory (`AllConfined`).

  WHERE IT FAILS.  The first three leave the directory with every id that climbs out of it; the test of the others
  lets the directory itself through, and its siblings whose names start with its name (`Beside`).

  THE CRUX.  A path is cleaned before it is used, so the question is where a walk along the pieces of an id ends
  (`OpenNHP.Lib.Paths`): it stays in the directory, or is beside it under a longer name, or elsewhere.

  ASSEMBLY.  One iff for each of the five functions, and `files_confined_iff` for all of them.
-/
import OpenNHP.Lib.Paths

namespace OpenNHP.Endpoints.FileAccess

open Paths

/-! ## Files -/

/-- An operation on a file, with its path. -/
inductive FileOp
  | open (path : Bytes)
  | remove (path : Bytes)
  | stat (path : Bytes)
  | create (path : Bytes)
  | mkdirAll (dir : Bytes)
  deriving DecidableEq

/-- The file that a call is on; a directory that is made beforehand is none. -/
def FileOp.file : FileOp → Option Bytes
  | .open path | .remove path | .stat path | .create path => some path
  | .mkdirAll _ => none

/-- Every file that the calls are on is below the directory. -/
def AllConfined (d : Dir) (ops : List FileOp) : Prop := ∀ op ∈ ops, ∀ path ∈ op.file, Confined d path

/-- The names of the directories, -/
def etc : Bytes := "etc".toUTF8.data.toList
/-- of the DB's files, -/
def ztdo : Bytes := "ztdo".toUTF8.data.toList
/-- and the ending of the server's. -/
def json : Bytes := ".json".toUTF8.data.toList

/-! ## The server's data objects -/

/-- `"data-" + objectId + ".json"` -/
def configFileName (objectId : Bytes) : Bytes := "data-".toUTF8.data.toList ++ objectId ++ json

/-- `ExeDirPath` is the directory of the executable, which is absolute. -/
def etcDir (exeDir : Dir) : Bytes := join [exeDir.path, etc, ztdo]

/-- Where the configuration of an object is. -/
def configPath (exeDir : Dir) (objectId : Bytes) : Bytes := join [etcDir exeDir, configFileName objectId]

/-- `ReadZdtoConfig` opens it. -/
def readZdtoConfig (exeDir : Dir) (doId : Bytes) : List FileOp := [.open (configPath exeDir doId)]

/-- `SaveZdtoConfig`; `existing` says whether the file was read, and `there` whether it is there afterwards. -/
def saveZdtoConfig (exeDir : Dir) (objectId : Bytes) (existing there : Bool) : List FileOp :=
  readZdtoConfig exeDir objectId ++
    (if existing then [.remove (configPath exeDir objectId)] else []) ++
    [.mkdirAll (etcDir exeDir), .stat (configPath exeDir objectId)] ++
    if there then [] else [.create (configPath exeDir objectId)]

/-! ## The DB's private keys -/

/-- `"data-key-" + doId + ".json"` -/
def keyFileName (doId : Bytes) : Bytes := "data-key-".toUTF8.data.toList ++ doId ++ json

/-- `"etc/ztdo"` -/
def etcZtdo : Bytes := etc ++ separator :: ztdo

/-- `NewDataPrivateKeyStoreWith` opens the key of an object. -/
def newDataPrivateKeyStoreWith (exeDir : Dir) (doId : Bytes) : List FileOp :=
  [.open (join [exeDir.path, etcZtdo, keyFileName doId])]

/-! ## The key broker's resources -/

/-- `/opt/confidential-containers/kbs/repository` -/
def repository : Dir where
  names := ["opt".toUTF8.data.toList, "confidential-containers".toUTF8.data.toList,
    "kbs".toUTF8.data.toList, "repository".toUTF8.data.toList]
  isName := by decide

/-- `loadResource`; `found` says whether the file is there. -/
def loadResource (cwd resourceID : Bytes) (found : Bool) : List FileOp :=
  let absBaseDir := abs cwd repository.path
  let fullPath := join [absBaseDir, resourceID]
  let absFullPath := abs cwd fullPath
  if absBaseDir <+: absFullPath then .stat absFullPath :: if found then [.open absFullPath] else []
  else []

/-! ## The storage's metadata -/

/-- `"etc/metadata"` -/
def metadataDir : Bytes := etc ++ separator :: "metadata".toUTF8.data.toList

/-- `loadMetadata`, with its test. -/
def loadMetadata (cwd : Bytes) (exeDir : Dir) (uuid : Bytes) : List FileOp :=
  let metadataPath := join [exeDir.path, metadataDir, uuid ++ json]
  let absPath := abs cwd metadataPath
  let safeDir := join [exeDir.path, metadataDir]
  let safeDirAbs := abs cwd safeDir
  if safeDirAbs <+: absPath then [.open absPath] else []

/-! ## The directories -/

/-- `etc/ztdo` beside the executable. -/
def ztdoDir (exeDir : Dir) : Dir := (exeDir.walk etc).walk ztdo

/-- `etc/metadata` beside the executable. -/
def storageDir (exeDir : Dir) : Dir := exeDir.walk metadataDir

/-- The server's directory, -/
theorem etcDir_eq (exeDir : Dir) : etcDir exeDir = (ztdoDir exeDir).path := join_two exeDir etc ztdo

/-- and the way from it to a file; -/
theorem configPath_eq (exeDir : Dir) (objectId : Bytes) :
    configPath exeDir objectId = ((ztdoDir exeDir).walk (configFileName objectId)).path := by
  rw [configPath, etcDir_eq, join_path]

/-- the DB's is the same. -/
theorem walk_etcZtdo (exeDir : Dir) : exeDir.walk etcZtdo = ztdoDir exeDir := by
  rw [ztdoDir, Dir.walk, Dir.walk, Dir.mk.injEq]
  exact walk_append exeDir.names etc ztdo

/-- The storage is not at the root. -/
theorem storageDir_names (exeDir : Dir) : (storageDir exeDir).names ≠ [] := by
  have hnames : (storageDir exeDir).names = exeDir.names ++ [etc] ++ ["metadata".toUTF8.data.toList] := rfl
  rw [hnames]
  exact List.append_ne_nil_of_right_ne_nil _ (List.cons_ne_nil _ _)

/-! ## Where the files are -/

/-- Reading a configuration stays in the directory if the id does, -/
theorem readZdtoConfig_iff (exeDir : Dir) (doId : Bytes) :
    AllConfined (ztdoDir exeDir) (readZdtoConfig exeDir doId) ↔ Stays (ztdoDir exeDir) (configFileName doId) := by
  rw [← confined_iff, ← configPath_eq]
  constructor
  · intro h
    exact h _ List.mem_cons_self _ rfl
  · intro h op hop path hpath
    obtain rfl := List.mem_singleton.mp hop
    obtain rfl := Option.some.inj hpath
    exact h

/-- Whatever the file system says, the calls are on one file. -/
theorem saveZdtoConfig_file {exeDir : Dir} {objectId : Bytes} {existing there : Bool} {op : FileOp} {path : Bytes}
    (hop : op ∈ saveZdtoConfig exeDir objectId existing there) (hpath : path ∈ op.file) :
    path = configPath exeDir objectId := by
  have hfiles : ∀ op ∈ saveZdtoConfig exeDir objectId existing there,
      op.file = none ∨ op.file = some (configPath exeDir objectId) := by
    intro op hop
    simp only [saveZdtoConfig, readZdtoConfig, List.mem_append, List.mem_cons, List.not_mem_nil, or_false] at hop
    rcases hop with ((rfl | hop) | rfl | rfl) | hop
    · exact .inr rfl
    · split_ifs at hop
      · obtain rfl := List.mem_singleton.mp hop
        exact .inr rfl
      · exact absurd hop List.not_mem_nil
    · exact .inl rfl
    · exact .inr rfl
    · split_ifs at hop
      · exact absurd hop List.not_mem_nil
      · obtain rfl := List.mem_singleton.mp hop
        exact .inr rfl
  rcases hfiles op hop with hnone | hsome
  · rw [hnone] at hpath
    cases hpath
  · rw [hsome] at hpath
    exact (Option.some.inj hpath).symm

/-- and so does saving one, -/
theorem saveZdtoConfig_iff (exeDir : Dir) (objectId : Bytes) :
    (∀ existing there, AllConfined (ztdoDir exeDir) (saveZdtoConfig exeDir objectId existing there)) ↔
      Stays (ztdoDir exeDir) (configFileName objectId) := by
  rw [← confined_iff, ← configPath_eq]
  constructor
  · intro h
    exact h false false (.open _) (by simp [saveZdtoConfig, readZdtoConfig]) _ rfl
  · intro h existing there op hop path hpath
    rw [saveZdtoConfig_file hop hpath]
    exact h

/-- and reading a key. -/
theorem newDataPrivateKeyStoreWith_iff (exeDir : Dir) (doId : Bytes) :
    AllConfined (ztdoDir exeDir) (newDataPrivateKeyStoreWith exeDir doId) ↔
      Stays (ztdoDir exeDir) (keyFileName doId) := by
  have hpath : join [exeDir.path, etcZtdo, keyFileName doId] =
      ((ztdoDir exeDir).walk (keyFileName doId)).path := by
    rw [join_two, walk_etcZtdo]
  rw [← confined_iff, ← hpath]
  constructor
  · intro h
    exact h _ List.mem_cons_self _ rfl
  · intro h op hop path hfile
    obtain rfl := List.mem_singleton.mp hop
    obtain rfl := Option.some.inj hfile
    exact h

/-- The key broker's test, on the walk. -/
theorem loadResource_eq (cwd resourceID : Bytes) (found : Bool) : loadResource cwd resourceID found =
    if repository.path <+: (repository.walk resourceID).path then
      .stat (repository.walk resourceID).path ::
        if found then [.open (repository.walk resourceID).path] else []
    else [] := by
  rw [loadResource, abs_path, join_path, abs_path]

/-- What it lets through stays, unless it is beside the directory. -/
theorem loadResource_iff (cwd resourceID : Bytes) :
    (∀ found, AllConfined repository (loadResource cwd resourceID found)) ↔ ¬Beside repository resourceID := by
  rw [← guarded_iff (d := repository) (List.cons_ne_nil _ _)]
  simp only [loadResource_eq]
  constructor
  · intro h hguard
    have hstat := h false
    rw [if_pos hguard] at hstat
    exact hstat _ List.mem_cons_self _ rfl
  · intro h found op hop path hpath
    split_ifs at hop with hguard hfound
    · simp only [List.mem_cons, List.not_mem_nil, or_false] at hop
      rcases hop with rfl | rfl
      · exact Option.some.inj hpath ▸ h hguard
      · exact Option.some.inj hpath ▸ h hguard
    · obtain rfl := List.mem_singleton.mp hop
      exact Option.some.inj hpath ▸ h hguard
    · exact absurd hop List.not_mem_nil

/-- The storage's test, -/
theorem loadMetadata_eq (cwd : Bytes) (exeDir : Dir) (uuid : Bytes) : loadMetadata cwd exeDir uuid =
    if (storageDir exeDir).path <+: ((storageDir exeDir).walk (uuid ++ json)).path then
      [.open ((storageDir exeDir).walk (uuid ++ json)).path]
    else [] := by
  rw [loadMetadata, join_two, join_path, abs_path, abs_path, storageDir]

/-- and what it lets through. -/
theorem loadMetadata_iff (cwd : Bytes) (exeDir : Dir) (uuid : Bytes) :
    AllConfined (storageDir exeDir) (loadMetadata cwd exeDir uuid) ↔
      ¬Beside (storageDir exeDir) (uuid ++ json) := by
  rw [← guarded_iff (storageDir_names exeDir), loadMetadata_eq]
  constructor
  · intro h hguard
    rw [if_pos hguard] at h
    exact h _ List.mem_cons_self _ rfl
  · intro h op hop path hpath
    split_ifs at hop with hguard
    · obtain rfl := List.mem_singleton.mp hop
      exact Option.some.inj hpath ▸ h hguard
    · exact absurd hop List.not_mem_nil

/-! ## Identifiers without separators -/

/-- An id without a slash is a file name with its ending. -/
theorem isName_json {id : Bytes} (h : separator ∉ id) : IsName (id ++ json) := by
  have hlen : 5 ≤ (id ++ json).length := by
    rw [List.length_append]
    exact Nat.le_add_left 5 _
  have hother : ∀ name : Bytes, name.length < 5 → id ++ json ≠ name := by
    intro name hshort heq
    rw [heq] at hlen
    omega
  refine ⟨hother [] (by decide), hother dot (by decide), hother dotdot (by decide), ?_⟩
  intro hmem
  rcases List.mem_append.mp hmem with hmem | hmem
  · exact h hmem
  · exact absurd hmem (by decide)

/-- A file name that is made of an identifier without separators stays. -/
theorem configFileName_stays (d : Dir) {id : Bytes} (h : separator ∉ id) : Stays d (configFileName id) := by
  refine stays_of_isName (isName_json ?_)
  intro hmem
  rcases List.mem_append.mp hmem with hmem | hmem
  · exact absurd hmem (by decide)
  · exact h hmem

/-- The storage's route takes no separators, so the metadata it asks for are in their directory. -/
theorem metadata_confined (cwd : Bytes) (exeDir : Dir) {uuid : Bytes} (h : separator ∉ uuid) :
    AllConfined (storageDir exeDir) (loadMetadata cwd exeDir uuid) :=
  (loadMetadata_iff cwd exeDir uuid).mpr (not_beside_of_isName (isName_json h))

/-! ## All five calls -/

/-- For every identifier, the files of the five calls are below their directories exactly: for the two calls
    with a data object's configuration and for the private key's store, when the file name that is made of the
    identifier stays in the directory; for resources and metadata, when it does not lead beside the
    directory. -/
theorem files_confined_iff (cwd : Bytes) (exeDir : Dir) (id : Bytes) :
    ((∀ existing there, AllConfined (ztdoDir exeDir) (saveZdtoConfig exeDir id existing there)) ↔
      Stays (ztdoDir exeDir) (configFileName id)) ∧
    (AllConfined (ztdoDir exeDir) (readZdtoConfig exeDir id) ↔ Stays (ztdoDir exeDir) (configFileName id)) ∧
    (AllConfined (ztdoDir exeDir) (newDataPrivateKeyStoreWith exeDir id) ↔
      Stays (ztdoDir exeDir) (keyFileName id)) ∧
    ((∀ found, AllConfined repository (loadResource cwd id found)) ↔ ¬Beside repository id) ∧
    (AllConfined (storageDir exeDir) (loadMetadata cwd exeDir id) ↔
      ¬Beside (storageDir exeDir) (id ++ json)) :=
  ⟨saveZdtoConfig_iff exeDir id, readZdtoConfig_iff exeDir id, newDataPrivateKeyStoreWith_iff exeDir id,
    loadResource_iff cwd id, loadMetadata_iff cwd exeDir id⟩

/-- A server in `/opt/nhp`. -/
def sampleDir : Dir where
  names := ["opt".toUTF8.data.toList, "nhp".toUTF8.data.toList]
  isName := by decide

/-- `x/../../../evil` -/
def climbingId : Bytes := "x/../../../evil".toUTF8.data.toList

/-- `/../repository-backup/key` -/
def siblingId : Bytes := "/../repository-backup/key".toUTF8.data.toList

/-- A data object's id makes the server write beside its own executable, and a resource path reads from
    another directory whose name starts like the repository's. -/
theorem ids_escape :
    FileOp.create "/opt/nhp/evil.json".toUTF8.data.toList ∈ saveZdtoConfig sampleDir climbingId false false ∧
    ¬AllConfined (ztdoDir sampleDir) (readZdtoConfig sampleDir climbingId) ∧
    FileOp.open "/opt/confidential-containers/kbs/repository-backup/key".toUTF8.data.toList ∈
      loadResource [] siblingId true ∧
    ¬∀ found, AllConfined repository (loadResource [] siblingId found) := by
  refine ⟨by decide +kernel, ?_, by decide +kernel, ?_⟩
  · rw [readZdtoConfig_iff]
    decide +kernel
  · rw [loadResource_iff, not_not]
    refine .inr ⟨by decide +kernel, "-backup".toUTF8.data.toList, ["key".toUTF8.data.toList], ?_, ?_⟩
    · decide
    · decide +kernel

end OpenNHP.Endpoints.FileAccess
