/-
  The storage of the server (`endpoints/server/httpstorage.go`).

  THE PROGRAM.  Uploads come from any number of clients at a time.  Each has a directory of its own, under a new
  UUID, and a metadata file once its content is there; before that it goes through the metadata of all others for
  the MD5 of its content, and if it finds it, its directory goes again and the answer is that of the upload it
  found.  Every operation on a file or on the progress table is a step (`advance`), so that the steps of uploads
  interleave, and any of them may fail, where it leaves what the operation had done so far.

  THE SPECIFICATION.
  1. An answer of an upload is kept in every state that follows: a download by its UUID and file name gives the
     content that was uploaded, or, if another one was found, one of the same MD5 (`answers_kept`).
  2. Nothing else is downloaded than what has been written of an upload (`download_uploaded`).

  THE CRUX.  The uploads work on one tree of files, and a step of one must not touch what another relies on.
  Everything an upload writes is below its own directory or is its own metadata file (`Frame`), and as the UUIDs
  differ these places do (`not_prefix_dirAt`, `metadataAt_inj`); what an upload that has ended left behind is
  `Stored`, what one at work relies on is `Ready`, and the one argument for both is that a step by `f` which
  keeps to `f`'s places keeps the others' (`Active`).  The storage takes file names that its own download
  refuses, so a name is part of what an answer promises.

  ASSEMBLY.  `Moves` says once what a step can do, `consistent` is the invariant in the form for any number of
  threads, `consistent_kept` carries it through a run, and `Sound.download` reads the result off.

  A request that is too large or has no file is left out, as is the percentage of the progress, which is computed
  with floating point numbers; uploads whose names are not UTF-8, which JSON changes, do not begin.
-/
import OpenNHP.Core.Csv
import OpenNHP.Endpoints.FileAccess
import OpenNHP.Lib.FileTree
import OpenNHP.Lib.Threads

namespace OpenNHP.Server.Storage

open Paths FileTree FileTree.Files Endpoints

/-! ## Names -/

/-- `-`. -/
def hyphen : UInt8 := 45

/-- The letters of `uuid.New().String()` besides the hyphen: digits and `a` to `f`. -/
def isHexDigit (b : UInt8) : Bool := (48 ≤ b && b ≤ 57) || (97 ≤ b && b ≤ 102)

/-- The text of a UUID. -/
structure UUID where
  text : Bytes
  length : text.length = 36
  digits : ∀ b ∈ text, b = hyphen ∨ isHexDigit b = true
  deriving DecidableEq

/-- `etc/uploads` -/
def uploadDir : Bytes := FileAccess.etc ++ separator :: "uploads".toUTF8.data.toList

/-- A form with its file, and the UUID that the server gave it. -/
structure Form where
  fileUUID : UUID
  /-- What `FileName` of the part is: the base of the name that the client sent. -/
  filename : Bytes
  file : Bytes
  deriving DecidableEq

/-- `FileMetadata`, as it is written to the metadata file of an upload. -/
structure FileMetadata where
  uuid : Bytes
  original : Bytes
  md5 : Bytes
  path : Bytes
  size : Nat
  uploadURI : Bytes
  deriving DecidableEq, Repr

/-- The content of a file: bytes, or the JSON text of a metadata, which is kept as the metadata. -/
inductive Content
  | data (bytes : Bytes)
  | metadata (m : FileMetadata)
  deriving DecidableEq

/-- `json.Decode` of a metadata file: the content of an upload is none, so nothing comes of it. -/
def Content.decode : Content → Option FileMetadata
  | data _ => none
  | metadata m => some m

namespace Form

variable (f : Form) (exeDir : Dir) (md5 : Bytes → Bytes)

/-- The directory of the upload. -/
def fileDir : Bytes := join [exeDir.path, uploadDir, f.fileUUID.text]

/-- The file in it, under the name the client gave. -/
def filePath : Bytes := join [f.fileDir exeDir, f.filename]

/-- `header.Size` -/
def totalSize : Nat := f.file.length

/-- The MD5 of the content in hexadecimal letters; which function it is, is a parameter. -/
def fileMD5 : Bytes := Core.Csv.hexString (md5 f.file)

/-- `storage/download/%s/%s` -/
def fileURI : Bytes := "storage/download/".toUTF8.data.toList ++ f.fileUUID.text ++ separator :: f.filename

/-- What is saved of the upload. -/
def metadata : FileMetadata where
  uuid := f.fileUUID.text
  original := f.filename
  md5 := f.fileMD5 md5
  path := join [f.fileUUID.text, f.filename]
  size := f.totalSize
  uploadURI := f.fileURI

/-- The path of its metadata file. -/
def metadataPath : Bytes := join [exeDir.path, FileAccess.metadataDir, f.fileUUID.text ++ FileAccess.json]

/-- Its key in the progress table. -/
def progressKey : Bytes := f.fileUUID.text

/-- `pw.Key+"_total"` -/
def totalKey : Bytes := f.fileUUID.text ++ "_total".toUTF8.data.toList

end Form

/-! ## Uploads -/

/-- What the client learns of a stored upload. -/
structure Answer where
  fileURI : Bytes
  uuid : Bytes
  md5 : Bytes
  deriving DecidableEq, Repr

/-- The answer of an upload, from its metadata. -/
def FileMetadata.answer (m : FileMetadata) : Answer := ⟨m.uploadURI, m.uuid, m.md5⟩

/-- How a request ends. -/
inductive Response
  /-- "file upload success" -/
  | success (a : Answer)
  /-- "file already exists, skip storage" -/
  | duplicate (a : Answer)
  | error (text : String)
  | panicked
  deriving DecidableEq, Repr

/-- Where in `handleUpload` a request is, with what it has in its hands. -/
inductive Phase
  | mkdir
  | create
  | copy (written : Nat)
  /-- behind the write to the file -/
  | progress (written : Nat)
  /-- `checkFileExists` -/
  | readDir
  | load (files : List Bytes)
  | removeAll (existing : FileMetadata)
  /-- `saveMetadata` -/
  | saveDir
  | saveCreate
  | saveWrite
  | forget
  | ended (r : Response)
  deriving DecidableEq, Repr

/-- A request at work. -/
structure Upload where
  form : Form
  phase : Phase
  deriving DecidableEq

/-! ## The storage -/

/-- What the requests share. -/
structure Store where
  tree : Files Content
  progressMap : AList fun _ : Bytes => Nat
  /-- the forms whose directories have been made -/
  uploads : List Form

/-- `loadMetadata`. -/
def loadMetadata (cwd : Bytes) (exeDir : Dir) (tree : Files Content) (uuid : Bytes) : Option FileMetadata :=
  match FileAccess.loadMetadata cwd exeDir uuid with
  | [.open absPath] =>
    match tree.node (resolve absPath) with
    | some (.file content) => content.decode
    | _ => none
  | _ => none

/-- The operations on the file system, with whether they succeed. -/
inductive Event
  | mkdir (ok : Bool)
  | create (ok : Bool)
  /-- So many bytes are written, and then it goes on or fails. -/
  | write (n : Nat) (ok : Bool)
  | progress
  | eof
  | readDir (ok : Bool)
  /-- The file is opened and decoded, or it is passed over because one of the two fails. -/
  | load (ok : Bool)
  /-- Some things below could not be removed. -/
  | removeAll (left : List (List Bytes))
  | saveDir (ok : Bool)
  | saveCreate (ok : Bool)
  /-- A write that fails may have written the whole text, but for its line break. -/
  | saveWrite (whole ok : Bool)
  | forget
  deriving DecidableEq, Repr

section

variable (cwd : Bytes) (exeDir : Dir) (md5 : Bytes → Bytes)

/-- The request is answered. -/
def Upload.ends (u : Upload) (r : Response) : Upload := { u with phase := .ended r }

/-- A step of an upload. -/
def advance (s : Store) (u : Upload) : Event → Option (Store × Upload)
  | .mkdir ok =>
    match u.phase with
    | .mkdir =>
      match if ok then s.tree.mkdirAll (resolve (u.form.fileDir exeDir)) else none with
      | some tree => some ({ s with tree, uploads := u.form :: s.uploads }, { u with phase := .create })
      | none => some (s, u.ends (.error "create storage directory failed"))
    | _ => none
  | .create ok =>
    match u.phase with
    | .create =>
      match if ok then s.tree.create (resolve (u.form.filePath exeDir)) (.data []) else none with
      | some tree => some ({ s with tree }, { u with phase := .copy 0 })
      | none => some (s, u.ends (.error "create file failed"))
    | _ => none
  | .write n ok =>
    match u.phase with
    | .copy written =>
      if written + n ≤ u.form.totalSize ∧ (ok = true → 0 < n) then
        let tree := s.tree.write (resolve (u.form.filePath exeDir)) (.data (u.form.file.take (written + n)))
        some ({ s with tree },
          if ok then { u with phase := .progress (written + n) } else u.ends (.error "file copy failed"))
      else none
    | _ => none
  | .progress =>
    match u.phase with
    | .progress written =>
      let progressMap := (s.progressMap.insert u.form.progressKey written).insert u.form.totalKey u.form.totalSize
      some ({ s with progressMap }, { u with phase := .copy written })
    | _ => none
  | .eof =>
    match u.phase with
    | .copy written => if written = u.form.totalSize then some (s, { u with phase := .readDir }) else none
    | _ => none
  | .readDir ok =>
    match u.phase with
    | .readDir =>
      match if ok then s.tree.readDir (resolve (join [exeDir.path, FileAccess.metadataDir])) else none with
      | some files => some (s, { u with phase := .load files })
      | none => some (s, { u with phase := .saveDir })
    | _ => none
  | .load ok =>
    match u.phase with
    | .load [] => some (s, { u with phase := .saveDir })
    | .load (file :: files) =>
      -- `file.Name()[:len(file.Name())-5]`
      if file.length < 5 then some (s, u.ends .panicked)
      else match if ok then loadMetadata cwd exeDir s.tree (file.take (file.length - 5)) else none with
        | some m =>
          some (s, { u with phase := if m.md5 = u.form.fileMD5 md5 then .removeAll m else .load files })
        | none => some (s, { u with phase := .load files })
    | _ => none
  | .removeAll left =>
    match u.phase with
    | .removeAll existing =>
      some ({ s with tree := s.tree.removeAll (resolve (u.form.fileDir exeDir)) left },
        u.ends (.duplicate existing.answer))
    | _ => none
  | .saveDir ok =>
    match u.phase with
    | .saveDir =>
      let metadataDir := resolve (join [exeDir.path, FileAccess.metadataDir])
      match (s.tree.node metadataDir).isSome, if ok then s.tree.mkdirAll metadataDir else none with
      | true, _ => some (s, { u with phase := .saveCreate })
      | false, some tree => some ({ s with tree }, { u with phase := .saveCreate })
      | false, none => some (s, u.ends (.error "save metadata failed"))
    | _ => none
  | .saveCreate ok =>
    match u.phase with
    | .saveCreate =>
      match if ok then s.tree.create (resolve (u.form.metadataPath exeDir)) (.data []) else none with
      | some tree => some ({ s with tree }, { u with phase := .saveWrite })
      | none => some (s, u.ends (.error "save metadata failed"))
    | _ => none
  | .saveWrite whole ok =>
    match u.phase with
    | .saveWrite =>
      let tree :=
        if whole || ok then s.tree.write (resolve (u.form.metadataPath exeDir)) (.metadata (u.form.metadata md5))
        else s.tree
      some ({ s with tree },
        if ok then { u with phase := .forget } else u.ends (.error "save metadata failed"))
    | _ => none
  | .forget =>
    match u.phase with
    | .forget =>
      some ({ s with progressMap := s.progressMap.erase u.form.progressKey },
        u.ends (.success (u.form.metadata md5).answer))
    | _ => none

/-! ## Requests -/

/-- The separator that the download refuses besides the slash. -/
def backslash : UInt8 := 92

/-- What a part of the path of a download is refused for. -/
def Refused (param : Bytes) : Prop :=
  param = [] ∨ separator ∈ param ∨ backslash ∈ param ∨ dotdot <:+: param

instance (param : Bytes) : Decidable (Refused param) := inferInstanceAs (Decidable (_ ∨ _))

/-- `http.ServeFile` redirects requests for it. -/
def indexPage : Bytes := "index.html".toUTF8.data.toList

/-- What a client gets that asks for a file. -/
inductive Download
  /-- "invalid file name" -/
  | badRequest
  /-- "file not exists" -/
  | notFound
  /-- A directory, or a path that ends in `/index.html`. -/
  | redirect
  | file (content : Content)
  deriving DecidableEq

/-- `/download/:uuid/:filename`; the file is served by `http.ServeFile`. -/
def download (tree : Files Content) (uuid filename : Bytes) : Download :=
  if Refused uuid ∨ Refused filename then .badRequest
  else
    let filePath := join [exeDir.path, uploadDir, uuid, filename]
    let safeDirAbs := abs cwd (join [exeDir.path, uploadDir])
    let absPath := abs cwd filePath
    if safeDirAbs ++ [separator] <+: absPath then
      match tree.node (resolve absPath) with
      | none => .notFound
      | some node =>
        if filename = indexPage then .redirect
        else match node with
          | .dir => .redirect
          | .file content => .file content
    else .badRequest

/-- `/progress/:uuid`: the bytes that were copied, and the total if it is known. -/
def progress (progressMap : AList fun _ : Bytes => Nat) (uuid : Bytes) : Option (Nat × Option Nat) :=
  (progressMap.lookup uuid).map fun bytesCopied =>
    (bytesCopied, progressMap.lookup (uuid ++ "_total".toUTF8.data.toList))

/-! ## Runs -/

/-- The storage with its uploads. -/
def system : Threads.System Store Upload Event Unit where
  outside _ _ := none
  advance s _ := advance cwd exeDir md5 s

/-- The storage and the requests at work. -/
abbrev State := Threads.State Store Upload
/-- A request begins, or one takes a step. -/
abbrev Act := Threads.Act Upload Event Unit

/-- Nothing at all is there. -/
def start : State := ⟨⟨∅, ∅, []⟩, []⟩

/-- Nothing has been stored yet; what else there is in the file system is not below the two directories. -/
structure Begun (s : State) : Prop where
  threads : s.threads = []
  uploads : s.shared.uploads = []
  files : ∀ p content, s.shared.tree.node ((exeDir.walk uploadDir).names ++ p) ≠ some (.file content)
  metadata : ∀ n, s.shared.tree.node ((FileAccess.storageDir exeDir).names ++ [n]) = none
  progressMap : s.shared.progressMap = ∅

/-- A text that is the same behind JSON. -/
def isUTF8 (text : Bytes) : Bool := (ByteArray.mk text.toArray).validateUTF8

/-- An upload begins with a UUID that is new. -/
def Begins (s : State) : Act → Prop
  | .begin u =>
    u.phase = .mkdir ∧ IsBase u.form.filename ∧ isUTF8 u.form.filename = true ∧
      (∀ f ∈ s.shared.uploads, f.fileUUID ≠ u.form.fileUUID) ∧ ∀ v ∈ s.threads, v.form.fileUUID ≠ u.form.fileUUID
  | _ => True

/-- The client may send any name: `FormFile` hands on the base of it. -/
theorem begins_base {s : State} {u : Upload} {sent : Bytes} (hname : u.form.filename = base sent) :
    Begins s (.begin u) ↔ u.phase = .mkdir ∧ isUTF8 u.form.filename = true ∧
      (∀ f ∈ s.shared.uploads, f.fileUUID ≠ u.form.fileUUID) ∧
      ∀ v ∈ s.threads, v.form.fileUUID ≠ u.form.fileUUID := by
  have hbase : IsBase u.form.filename := by
    rw [hname]
    exact isBase_base sent
  exact ⟨fun ⟨hphase, _, hrest⟩ => ⟨hphase, hrest⟩, fun ⟨hphase, hrest⟩ => ⟨hphase, hbase, hrest⟩⟩

instance (s : State) : DecidablePred (Begins s)
  | .begin u => inferInstanceAs (Decidable (u.phase = .mkdir ∧ IsBase u.form.filename ∧
      isUTF8 u.form.filename = true ∧ (∀ f ∈ s.shared.uploads, f.fileUUID ≠ u.form.fileUUID) ∧
      ∀ v ∈ s.threads, v.form.fileUUID ≠ u.form.fileUUID))
  | .outside _ | .turn _ _ => inferInstanceAs (Decidable True)

end

/-! ## Where the files are -/

section

variable {exeDir : Dir} {f g : Form}

/-- A UUID is the name of a directory and not a path. -/
theorem UUID.isName (uuid : UUID) : IsName uuid.text := by
  have hlength := uuid.length
  refine ⟨?_, ?_, ?_, fun hsep => ?_⟩
  · intro h
    rw [h] at hlength
    cases hlength
  · intro h
    rw [h] at hlength
    cases hlength
  · intro h
    rw [h] at hlength
    cases hlength
  · exact absurd (uuid.digits _ hsep) (by decide)

/-- Different UUIDs have different texts. -/
theorem UUID.ext_text {uuid uuid' : UUID} (h : uuid.text = uuid'.text) : uuid = uuid' := by
  cases uuid
  cases uuid'
  obtain rfl : _ = _ := h
  rfl

/-- The name of the metadata file of an upload. -/
def Form.metadataName (f : Form) : Bytes := f.fileUUID.text ++ FileAccess.json

/-- The name of a metadata file is a UUID with `.json` behind it. -/
theorem Form.metadataName_length (f : Form) : f.metadataName.length = 41 := by
  rw [Form.metadataName, List.length_append, f.fileUUID.length]
  rfl

/-- It stays in its directory. -/
theorem Form.isName_metadataName (f : Form) : IsName f.metadataName := by
  have hlength := f.metadataName_length
  refine ⟨?_, ?_, ?_, fun hsep => ?_⟩
  · intro h
    rw [h] at hlength
    cases hlength
  · intro h
    rw [h] at hlength
    cases hlength
  · intro h
    rw [h] at hlength
    cases hlength
  · rcases List.mem_append.mp hsep with hsep | hsep
    · exact f.fileUUID.isName.noSeparator hsep
    · exact absurd hsep (by decide)

/-- It tells whose it is. -/
theorem Form.metadataName_inj (h : f.metadataName = g.metadataName) : f.fileUUID = g.fileUUID :=
  UUID.ext_text (List.append_cancel_right h)

variable (exeDir)

/-- The directory of the uploads. -/
def uploadsDir : Dir := exeDir.walk uploadDir

/-- Where the directory of an upload is, its file, and its metadata. -/
def Form.dirAt (f : Form) : List Bytes := (uploadsDir exeDir).names ++ [f.fileUUID.text]

/-- Where the file is, if its name is one. -/
def Form.fileAt (f : Form) : List Bytes := f.dirAt exeDir ++ [f.filename]

/-- Where the metadata file is. -/
def Form.metadataAt (f : Form) : List Bytes := (FileAccess.storageDir exeDir).names ++ [f.metadataName]

variable {exeDir}

theorem Form.walk_dir (f : Form) : ((uploadsDir exeDir).walk f.fileUUID.text).names = f.dirAt exeDir :=
  walk_of_isName f.fileUUID.isName

theorem Form.fileDir_eq (f : Form) : f.fileDir exeDir = ((uploadsDir exeDir).walk f.fileUUID.text).path :=
  join_two exeDir uploadDir f.fileUUID.text

theorem Form.resolve_fileDir (f : Form) : resolve (f.fileDir exeDir) = f.dirAt exeDir := by
  rw [f.fileDir_eq, resolve_path, f.walk_dir]

/-- A path with a name that is none leads out of the directory; that is seen in the walk. -/
theorem Form.resolve_filePath (f : Form) :
    resolve (f.filePath exeDir) = Paths.walk (f.dirAt exeDir) f.filename := by
  rw [Form.filePath, f.fileDir_eq, join_path, resolve_path]
  show Paths.walk ((uploadsDir exeDir).walk f.fileUUID.text).names f.filename = _
  rw [f.walk_dir]

/-- With a name that is one the file is in the directory. -/
theorem Form.resolve_filePath_of_isName (h : IsName f.filename) :
    resolve (f.filePath exeDir) = f.fileAt exeDir := by
  rw [f.resolve_filePath, walk_of_isName h]
  rfl

theorem Form.resolve_metadataPath (f : Form) : resolve (f.metadataPath exeDir) = f.metadataAt exeDir := by
  rw [Form.metadataPath, join_two, resolve_path]
  exact walk_of_isName f.isName_metadataName

/-- The directory of all metadata. -/
theorem resolve_metadataDir (exeDir : Dir) :
    resolve (join [exeDir.path, FileAccess.metadataDir]) = (FileAccess.storageDir exeDir).names := by
  rw [join_path, resolve_path]
  rfl

/-- A name that is none leads from the directory of an upload to a directory above its place. -/
theorem walk_of_not_isName {names : List Bytes} {name n : Bytes} (hbase : IsBase n) (hn : ¬IsName n) :
    Paths.walk (names ++ [name]) n <+: names ++ [name] := by
  rcases hbase.cases with rfl | rfl | rfl | hn'
  · exact List.prefix_refl _
  · exact List.prefix_refl _
  · show (names ++ [name]).dropLast <+: _
    rw [List.dropLast_concat]
    exact List.prefix_append _ _
  · exact absurd hn' hn

theorem uploadsDir_names (exeDir : Dir) : (uploadsDir exeDir).names =
    exeDir.names ++ [FileAccess.etc, "uploads".toUTF8.data.toList] := by
  show exeDir.names ++ [_] ++ [_] = _
  rw [List.append_assoc]
  rfl

theorem storageDir_names (exeDir : Dir) : (FileAccess.storageDir exeDir).names =
    exeDir.names ++ [FileAccess.etc, "metadata".toUTF8.data.toList] := by
  show exeDir.names ++ [_] ++ [_] = _
  rw [List.append_assoc]
  rfl

/-- The two directories are apart. -/
theorem not_prefix_metadataAt (f g : Form) : ¬f.dirAt exeDir <+: g.metadataAt exeDir := by
  rw [Form.dirAt, Form.metadataAt, uploadsDir_names, storageDir_names, List.append_assoc, List.append_assoc,
    List.prefix_append_right_inj]
  intro h
  simp only [List.cons_append, List.cons_prefix_cons] at h
  exact absurd h.2.1 (by decide)

/-- Uploads and metadata lie in different directories. -/
theorem fileAt_ne_metadataAt (f g : Form) : f.fileAt exeDir ≠ g.metadataAt exeDir := by
  intro h
  have hprefix : f.dirAt exeDir <+: f.fileAt exeDir := List.prefix_append _ _
  rw [h] at hprefix
  exact not_prefix_metadataAt f g hprefix

/-- The directories of two uploads are apart. -/
theorem not_prefix_fileAt (h : f.fileUUID ≠ g.fileUUID) : ¬f.dirAt exeDir <+: g.fileAt exeDir := by
  rw [Form.fileAt, Form.dirAt, Form.dirAt, List.append_assoc, List.prefix_append_right_inj]
  intro hprefix
  exact h (UUID.ext_text (List.cons_prefix_cons.mp hprefix).1)

/-- No two uploads share a metadata file. -/
theorem metadataAt_inj (h : f.metadataAt exeDir = g.metadataAt exeDir) : f.fileUUID = g.fileUUID :=
  Form.metadataName_inj (List.cons.inj (List.append_cancel_left h)).1

/-- A file has its place among the uploads by its UUID and its name. -/
theorem names_fileAt (f : Form) :
    f.fileAt exeDir = (uploadsDir exeDir).names ++ [f.fileUUID.text, f.filename] := by
  rw [Form.fileAt, Form.dirAt, List.append_assoc]
  rfl

/-- What is below the directory of an upload is not on the way to another's. -/
theorem not_prefix_dirAt (h : f.fileUUID ≠ g.fileUUID) {q : List Bytes} (hq : q <+: g.dirAt exeDir) :
    ¬f.dirAt exeDir <+: q := by
  intro hdir
  have heq := List.IsPrefix.eq_of_length (hdir.trans hq) (by simp [Form.dirAt])
  exact h (UUID.ext_text (List.cons.inj (List.append_cancel_left heq)).1)

end

/-! ## What a step does -/

section

variable (cwd : Bytes) (exeDir : Dir) (md5 : Bytes → Bytes)

/-- Every case of `advance`; `fails` has the failures that leave the tree as it is. -/
inductive Moves (s : Store) (u : Upload) (e : Event) : Store → Upload → Prop
  | fails (text : String) (hphase : ∀ r, u.phase ≠ .ended r) : Moves s u e s (u.ends (.error text))
  | mkdir (tree : Files Content) (hphase : u.phase = .mkdir)
      (htree : s.tree.mkdirAll (u.form.dirAt exeDir) = some tree) :
    Moves s u e { s with tree, uploads := u.form :: s.uploads } { u with phase := .create }
  | create (tree : Files Content) (hphase : u.phase = .create)
      (htree : s.tree.create (resolve (u.form.filePath exeDir)) (.data []) = some tree) :
    Moves s u e { s with tree } { u with phase := .copy 0 }
  | write (written written' : Nat) (phase : Phase) (hphase : u.phase = .copy written)
      (hwritten : written' ≤ u.form.totalSize)
      (hnext : phase = .progress written' ∧ written < written' ∨ phase = .ended (.error "file copy failed")) :
    Moves s u e
      { s with tree := s.tree.write (resolve (u.form.filePath exeDir)) (.data (u.form.file.take written')) }
      { u with phase }
  | progress (written : Nat) (hphase : u.phase = .progress written) :
    Moves s u e
      { s with progressMap :=
          (s.progressMap.insert u.form.progressKey written).insert u.form.totalKey u.form.totalSize }
      { u with phase := .copy written }
  | eof (hphase : u.phase = .copy u.form.totalSize) : Moves s u e s { u with phase := .readDir }
  | listed (files : List Bytes) (he : e = .readDir true) (hphase : u.phase = .readDir)
      (hfiles : s.tree.readDir (FileAccess.storageDir exeDir).names = some files) :
    Moves s u e s { u with phase := .load files }
  | unlisted (ok : Bool) (he : e = .readDir ok) (hphase : u.phase = .readDir)
      (hfiles : ok = true → s.tree.readDir (FileAccess.storageDir exeDir).names = none) :
    Moves s u e s { u with phase := .saveDir }
  | unmatched (hphase : u.phase = .load []) : Moves s u e s { u with phase := .saveDir }
  | panics (file : Bytes) (files : List Bytes) (hphase : u.phase = .load (file :: files)) (hshort : file.length < 5) :
    Moves s u e s (u.ends .panicked)
  | skip (ok : Bool) (he : e = .load ok) (file : Bytes) (files : List Bytes)
      (hphase : u.phase = .load (file :: files))
      (hload : ok = true → ∀ m, loadMetadata cwd exeDir s.tree (file.take (file.length - 5)) = some m →
        m.md5 ≠ u.form.fileMD5 md5) :
    Moves s u e s { u with phase := .load files }
  | found (file : Bytes) (files : List Bytes) (m : FileMetadata) (hphase : u.phase = .load (file :: files))
      (hload : loadMetadata cwd exeDir s.tree (file.take (file.length - 5)) = some m)
      (hmd5 : m.md5 = u.form.fileMD5 md5) :
    Moves s u e s { u with phase := .removeAll m }
  | removeAll (existing : FileMetadata) (left : List (List Bytes)) (hphase : u.phase = .removeAll existing) :
    Moves s u e { s with tree := s.tree.removeAll (u.form.dirAt exeDir) left } (u.ends (.duplicate existing.answer))
  | hasDir (hphase : u.phase = .saveDir) : Moves s u e s { u with phase := .saveCreate }
  | saveDir (tree : Files Content) (hphase : u.phase = .saveDir)
      (htree : s.tree.mkdirAll (FileAccess.storageDir exeDir).names = some tree) :
    Moves s u e { s with tree } { u with phase := .saveCreate }
  | saveCreate (tree : Files Content) (hphase : u.phase = .saveCreate)
      (htree : s.tree.create (u.form.metadataAt exeDir) (.data []) = some tree) :
    Moves s u e { s with tree } { u with phase := .saveWrite }
  | saveWrite (phase : Phase) (hphase : u.phase = .saveWrite)
      (hnext : phase = .forget ∨ phase = .ended (.error "save metadata failed")) :
    Moves s u e { s with tree := s.tree.write (u.form.metadataAt exeDir) (.metadata (u.form.metadata md5)) }
      { u with phase }
  | forget (hphase : u.phase = .forget) :
    Moves s u e { s with progressMap := s.progressMap.erase u.form.progressKey }
      (u.ends (.success (u.form.metadata md5).answer))

variable {cwd exeDir md5} {s s' : Store} {u u' : Upload} {e : Event}

/-- Each step is one of `Moves`. -/
theorem moves_of_advance (h : advance cwd exeDir md5 s u e = some (s', u')) :
    Moves cwd exeDir md5 s u e s' u' := by
  cases e with
  -- Each operation of the file system may fail and then ends the upload with its text.
  | mkdir ok =>
    rw [advance] at h
    split at h
    · next hphase =>
      rw [Form.resolve_fileDir] at h
      split at h
      · next tree htree =>
        obtain ⟨rfl, rfl⟩ := Prod.mk.inj (Option.some.inj h)
        split_ifs at htree
        exact .mkdir tree hphase htree
      · obtain ⟨rfl, rfl⟩ := Prod.mk.inj (Option.some.inj h)
        exact .fails _ fun r => by rw [hphase]; exact Phase.noConfusion
    · cases h
  | create ok =>
    rw [advance] at h
    split at h
    · next hphase =>
      split at h
      · next tree htree =>
        obtain ⟨rfl, rfl⟩ := Prod.mk.inj (Option.some.inj h)
        split_ifs at htree
        exact .create tree hphase htree
      · obtain ⟨rfl, rfl⟩ := Prod.mk.inj (Option.some.inj h)
        exact .fails _ fun r => by rw [hphase]; exact Phase.noConfusion
    · cases h
  | write n ok =>
    rw [advance] at h
    split at h
    · next written hphase =>
      -- A write that fails may have written a part all the same.
      split_ifs at h with hn hok
      · obtain ⟨rfl, rfl⟩ := Prod.mk.inj (Option.some.inj h)
        exact .write written (written + n) _ hphase hn.1 (.inl ⟨rfl, Nat.lt_add_of_pos_right (hn.2 hok)⟩)
      · obtain ⟨rfl, rfl⟩ := Prod.mk.inj (Option.some.inj h)
        exact .write written (written + n) _ hphase hn.1 (.inr rfl)
    · cases h
  | progress =>
    rw [advance] at h
    split at h
    · next written hphase =>
      obtain ⟨rfl, rfl⟩ := Prod.mk.inj (Option.some.inj h)
      exact .progress written hphase
    · cases h
  | eof =>
    rw [advance] at h
    split at h
    · next written hphase =>
      split_ifs at h with hwritten
      obtain ⟨rfl, rfl⟩ := Prod.mk.inj (Option.some.inj h)
      exact .eof (hwritten ▸ hphase)
    · cases h
  | readDir ok =>
    rw [advance] at h
    split at h
    · next hphase =>
      rw [resolve_metadataDir] at h
      split at h
      · next files hfiles =>
        obtain ⟨rfl, rfl⟩ := Prod.mk.inj (Option.some.inj h)
        split_ifs at hfiles with hok
        exact .listed files (by rw [hok]) hphase hfiles
      · next hfiles =>
        obtain ⟨rfl, rfl⟩ := Prod.mk.inj (Option.some.inj h)
        refine .unlisted ok rfl hphase fun hok => ?_
        rwa [if_pos hok] at hfiles
    · cases h
  -- A metadata file that does not open or decode is passed over, as one of another content is.
  | load ok =>
    rw [advance] at h
    split at h
    · next hphase =>
      obtain ⟨rfl, rfl⟩ := Prod.mk.inj (Option.some.inj h)
      exact .unmatched hphase
    · next file files hphase =>
      split_ifs at h with hshort hok
      · obtain ⟨rfl, rfl⟩ := Prod.mk.inj (Option.some.inj h)
        exact .panics file files hphase hshort
      · split at h
        · next m hload =>
          obtain ⟨rfl, rfl⟩ := Prod.mk.inj (Option.some.inj h)
          split_ifs with hmd5
          · exact .found file files m hphase hload hmd5
          · refine .skip ok rfl file files hphase fun _ m' hm' => ?_
            obtain rfl := Option.some.inj (hload.symm.trans hm')
            exact hmd5
        · next hload =>
          obtain ⟨rfl, rfl⟩ := Prod.mk.inj (Option.some.inj h)
          refine .skip ok rfl file files hphase fun _ m' hm' => ?_
          rw [hload] at hm'
          cases hm'
      · obtain ⟨rfl, rfl⟩ := Prod.mk.inj (Option.some.inj h)
        exact .skip ok rfl file files hphase fun hok' => absurd hok' hok
    · cases h
  | removeAll left =>
    rw [advance] at h
    split at h
    · next existing hphase =>
      rw [Form.resolve_fileDir] at h
      obtain ⟨rfl, rfl⟩ := Prod.mk.inj (Option.some.inj h)
      exact .removeAll existing left hphase
    · cases h
  | saveDir ok =>
    rw [advance] at h
    split at h
    · next hphase =>
      rw [resolve_metadataDir] at h
      dsimp only at h
      split at h
      · obtain ⟨rfl, rfl⟩ := Prod.mk.inj (Option.some.inj h)
        exact .hasDir hphase
      · next tree _ htree =>
        obtain ⟨rfl, rfl⟩ := Prod.mk.inj (Option.some.inj h)
        split_ifs at htree
        exact .saveDir tree hphase htree
      · obtain ⟨rfl, rfl⟩ := Prod.mk.inj (Option.some.inj h)
        exact .fails _ fun r => by rw [hphase]; exact Phase.noConfusion
    · cases h
  | saveCreate ok =>
    rw [advance] at h
    split at h
    · next hphase =>
      rw [Form.resolve_metadataPath] at h
      split at h
      · next tree htree =>
        obtain ⟨rfl, rfl⟩ := Prod.mk.inj (Option.some.inj h)
        split_ifs at htree
        exact .saveCreate tree hphase htree
      · obtain ⟨rfl, rfl⟩ := Prod.mk.inj (Option.some.inj h)
        exact .fails _ fun r => by rw [hphase]; exact Phase.noConfusion
    · cases h
  | saveWrite whole ok =>
    rw [advance] at h
    split at h
    · next hphase =>
      rw [Form.resolve_metadataPath] at h
      obtain ⟨rfl, rfl⟩ := Prod.mk.inj (Option.some.inj h)
      -- What is written decides, not the error: the file is complete where all of it is there.
      cases ok with
      | true =>
        rw [Bool.or_true, if_pos rfl, if_pos rfl]
        exact .saveWrite _ hphase (.inl rfl)
      | false =>
        cases whole with
        | true => exact .saveWrite _ hphase (.inr rfl)
        | false => exact .fails _ fun r => by rw [hphase]; exact Phase.noConfusion
    · cases h
  | forget =>
    rw [advance] at h
    split at h
    · next hphase =>
      obtain ⟨rfl, rfl⟩ := Prod.mk.inj (Option.some.inj h)
      exact .forget hphase
    · cases h

end

/-! ## What a step leaves of the tree -/

section

variable (exeDir : Dir)

/-- Behind a step of an upload, what is not its own is as it was, but for directories that were made. -/
structure Frame (f : Form) (t t' : Files Content) : Prop where
  dir : ∀ q, ¬f.dirAt exeDir <+: q → t.node q = some .dir → t'.node q = some .dir
  file : ∀ q c, ¬f.dirAt exeDir <+: q → q ≠ f.metadataAt exeDir →
    (t'.node q = some (.file c) ↔ t.node q = some (.file c))
  names : ∀ n, t'.node ((FileAccess.storageDir exeDir).names ++ [n]) ≠ none →
    n = f.metadataName ∧ t.node (FileAccess.storageDir exeDir).names = some .dir ∨
      t.node ((FileAccess.storageDir exeDir).names ++ [n]) ≠ none

variable {exeDir} {f : Form} {t t' : Files Content}

/-- A step without a change to the tree. -/
theorem Frame.refl (f : Form) (t : Files Content) : Frame exeDir f t t :=
  ⟨fun _ _ h => h, fun _ _ _ _ => Iff.rfl, fun _ h => .inr h⟩

/-- Making directories touches no metadata file, if none is on the way. -/
theorem Frame.mkdirAll {p : List Bytes} (h : t.mkdirAll p = some t')
    (hp : ∀ n, ¬(FileAccess.storageDir exeDir).names ++ [n] <+: p) : Frame exeDir f t t' := by
  refine ⟨fun q _ hdir => ?_, fun q c _ _ => node_mkdirAll_file h, fun n hn => .inr ?_⟩
  · rw [node_mkdirAll h]
    split_ifs
    · rfl
    · exact hdir
  · rwa [node_mkdirAll h, if_neg (hp n)] at hn

/-- Making the directory of the upload. -/
theorem Frame.mkdirAll_dirAt (h : t.mkdirAll (f.dirAt exeDir) = some t') : Frame exeDir f t t' := by
  refine .mkdirAll h fun n hprefix => ?_
  rw [Form.dirAt, uploadsDir_names, storageDir_names, List.append_assoc, List.append_assoc,
    List.prefix_append_right_inj] at hprefix
  simp only [List.cons_append, List.cons_prefix_cons] at hprefix
  exact absurd hprefix.2.1 (by decide)

/-- Making the directory of the metadata. -/
theorem Frame.mkdirAll_storageDir (h : t.mkdirAll (FileAccess.storageDir exeDir).names = some t') :
    Frame exeDir f t t' := by
  refine .mkdirAll h fun n hprefix => ?_
  have hlength := hprefix.length_le
  rw [List.length_append] at hlength
  exact absurd hlength (Nat.not_le.mpr (Nat.lt_succ_self _))

/-- A file of its own is made or written. -/
theorem Frame.of_node {p : List Bytes} {c : Content} (hp : p = f.fileAt exeDir ∨ p = f.metadataAt exeDir)
    (hdir : t.node p ≠ some .dir) (hparent : t.node p ≠ none ∨ t.node p.dropLast = some .dir)
    (hnode : ∀ q, t'.node q = if q = p then some (.file c) else t.node q) : Frame exeDir f t t' := by
  refine ⟨fun q _ hq => ?_, fun q c' hq hne => ?_, fun n hn => ?_⟩
  · rw [hnode, if_neg]
    · exact hq
    · rintro rfl
      exact hdir hq
  · rw [hnode, if_neg]
    rintro rfl
    rcases hp with rfl | rfl
    · exact hq (List.prefix_append _ _)
    · exact hne rfl
  · rw [hnode] at hn
    split_ifs at hn with hq
    · rcases hp with rfl | rfl
      · have hprefix : f.dirAt exeDir <+: f.fileAt exeDir := List.prefix_append _ _
        rw [← hq, Form.dirAt, uploadsDir_names, storageDir_names, List.append_assoc, List.append_assoc,
          List.prefix_append_right_inj] at hprefix
        simp only [List.cons_append, List.cons_prefix_cons] at hprefix
        exact absurd hprefix.2.1 (by decide)
      · rw [hq]
        refine hparent.symm.imp_left fun hdir' => ⟨(List.cons.inj (List.append_cancel_left hq)).1, ?_⟩
        rwa [Form.metadataAt, List.dropLast_concat] at hdir'
    · exact .inr hn

/-- Removing the directory of the upload, be it in part. -/
theorem Frame.removeAll (left : List (List Bytes)) : Frame exeDir f t (t.removeAll (f.dirAt exeDir) left) := by
  refine ⟨fun q hq hdir => ?_, fun q c hq _ => ?_, fun n hn => .inr fun hnone => hn ?_⟩
  · rwa [node_removeAll_of_outside hq]
  · rw [node_removeAll_of_outside hq]
  · rw [Option.eq_none_iff_forall_ne_some] at hnone ⊢
    exact fun node hnode => hnone node (node_of_removeAll hnode)

end

/-! ## What holds of the storage -/

section

variable (exeDir : Dir) (md5 : Bytes → Bytes)

/-- An upload has its whole file and its metadata. -/
structure Stored (s : Store) (f : Form) : Prop where
  begun : f ∈ s.uploads
  isName : IsName f.filename
  file : s.tree.node (f.fileAt exeDir) = some (.file (.data f.file))
  metadata : s.tree.node (f.metadataAt exeDir) = some (.file (.metadata (f.metadata md5)))

/-- Every file is that of an upload, and a metadata is there once the file is whole. -/
structure Sound (s : Store) : Prop where
  unique : ∀ f ∈ s.uploads, ∀ g ∈ s.uploads, f.fileUUID = g.fileUUID → f = g
  files : ∀ p c, s.tree.node ((uploadsDir exeDir).names ++ p) = some (.file c) → ∃ f ∈ s.uploads, ∃ written,
    (uploadsDir exeDir).names ++ p = f.fileAt exeDir ∧ IsName f.filename ∧ c = .data (f.file.take written)
  names : ∀ n, s.tree.node ((FileAccess.storageDir exeDir).names ++ [n]) ≠ none →
    ∃ f ∈ s.uploads, n = f.metadataName
  metadata : ∀ f ∈ s.uploads, ∀ m, s.tree.node (f.metadataAt exeDir) = some (.file (.metadata m)) →
    m = f.metadata md5 ∧ Stored exeDir md5 s f

/-- There is no metadata of an upload. -/
def Unsaved (s : Store) (f : Form) : Prop := ∀ m, s.tree.node (f.metadataAt exeDir) ≠ some (.file (.metadata m))

/-- The file of an upload has been written so far. -/
structure Written (s : Store) (f : Form) (written : Nat) : Prop where
  begun : f ∈ s.uploads
  unsaved : Unsaved exeDir s f
  isName : IsName f.filename
  file : s.tree.node (f.fileAt exeDir) = some (.file (.data (f.file.take written)))

/-- The answer of an upload is that of one that is stored and has the same content, as far as MD5 tells. -/
def Found (s : Store) (f : Form) (a : Answer) : Prop :=
  ∃ g, Stored exeDir md5 s g ∧ a = (g.metadata md5).answer ∧ g.fileMD5 md5 = f.fileMD5 md5

/-- What an upload has done, where it is. -/
def Ready (s : Store) (u : Upload) : Prop :=
  match u.phase with
  | .mkdir => (∀ f ∈ s.uploads, f.fileUUID ≠ u.form.fileUUID) ∧ IsBase u.form.filename
  | .create => u.form ∈ s.uploads ∧ Unsaved exeDir s u.form ∧ IsBase u.form.filename ∧
      ∀ q, q <+: u.form.dirAt exeDir → s.tree.node q = some .dir
  | .copy written | .progress written => Written exeDir s u.form written
  | .readDir | .saveDir | .saveCreate => Written exeDir s u.form u.form.totalSize
  | .load files => Written exeDir s u.form u.form.totalSize ∧ ∀ n ∈ files, ∃ g ∈ s.uploads, n = g.metadataName
  | .removeAll existing => u.form ∈ s.uploads ∧ Unsaved exeDir s u.form ∧
      Found exeDir md5 s u.form existing.answer
  | .saveWrite => Written exeDir s u.form u.form.totalSize ∧
      s.tree.node (u.form.metadataAt exeDir) = some (.file (.data []))
  | .forget => Stored exeDir md5 s u.form
  | .ended (.success a) => Stored exeDir md5 s u.form ∧ a = (u.form.metadata md5).answer
  | .ended (.duplicate a) => Found exeDir md5 s u.form a
  | .ended _ => True

/-! ## What a step does to the storage -/

/-- A step that changes the tree, of an upload whose metadata is not there yet. -/
structure Active (s s' : Store) (f : Form) : Prop where
  frame : Frame exeDir f s.tree s'.tree
  fresh : f ∈ s.uploads ∨ ∀ g ∈ s.uploads, g.fileUUID ≠ f.fileUUID
  kept : ∀ g ∈ s.uploads, g ∈ s'.uploads
  came : ∀ g ∈ s'.uploads, g = f ∨ g ∈ s.uploads
  begun : f ∈ s'.uploads
  unsaved : Unsaved exeDir s f
  files : ∀ q c, f.dirAt exeDir <+: q → s'.tree.node q = some (.file c) → s.tree.node q = some (.file c) ∨
    ∃ written, q = f.fileAt exeDir ∧ IsName f.filename ∧ c = .data (f.file.take written)
  metadata : ∀ m, s'.tree.node (f.metadataAt exeDir) = some (.file (.metadata m)) →
    m = f.metadata md5 ∧ Stored exeDir md5 s' f

variable {cwd : Bytes} {exeDir md5} {s s' : Store} {u u' v : Upload} {e : Event} {f g : Form}

/-- A step by one upload keeps what another has stored. -/
theorem Stored.frame (hg : Stored exeDir md5 s g) (hframe : Frame exeDir f s.tree s'.tree)
    (hkept : ∀ h ∈ s.uploads, h ∈ s'.uploads) (hne : f.fileUUID ≠ g.fileUUID) : Stored exeDir md5 s' g where
  begun := hkept g hg.begun
  isName := hg.isName
  file := (hframe.file _ _ (not_prefix_fileAt hne) (fileAt_ne_metadataAt g f)).mpr hg.file
  metadata := (hframe.file _ _ (not_prefix_metadataAt f g) fun h => hne (metadataAt_inj h).symm).mpr hg.metadata

/-- An upload that is at work has not stored, so it is another one. -/
theorem Active.ne_of_stored (h : Active exeDir md5 s s' f) (hs : Sound exeDir md5 s) (hg : Stored exeDir md5 s g) :
    f.fileUUID ≠ g.fileUUID := by
  intro huuid
  rcases h.fresh with hf | hfresh
  · obtain rfl := hs.unique f hf g hg.begun huuid
    exact h.unsaved _ hg.metadata
  · exact hfresh g hg.begun huuid.symm

/-- What is stored stays stored in its steps. -/
theorem Active.stored (h : Active exeDir md5 s s' f) (hs : Sound exeDir md5 s) (hg : Stored exeDir md5 s g) :
    Stored exeDir md5 s' g :=
  hg.frame h.frame h.kept (h.ne_of_stored hs hg)

/-- And what holds of the storage as a whole stays. -/
theorem Active.sound (h : Active exeDir md5 s s' f) (hs : Sound exeDir md5 s) : Sound exeDir md5 s' := by
  refine ⟨fun a ha b hb hab => ?_, fun p c hc => ?_, fun n hn => ?_, fun g hg m hm => ?_⟩
  · -- only the form of this upload may be new
    rcases h.came a ha with rfl | ha
    · rcases h.came b hb with rfl | hb
      · rfl
      · rcases h.fresh with hf | hfresh
        · exact hs.unique _ hf _ hb hab
        · exact absurd hab.symm (hfresh b hb)
    · rcases h.came b hb with rfl | hb
      · rcases h.fresh with hf | hfresh
        · exact hs.unique _ ha _ hf hab
        · exact absurd hab (hfresh a ha)
      · exact hs.unique a ha b hb hab
  · have hold : s.tree.node ((uploadsDir exeDir).names ++ p) = some (.file c) ∨ ∃ written,
        (uploadsDir exeDir).names ++ p = f.fileAt exeDir ∧ IsName f.filename ∧
          c = .data (f.file.take written) := by
      by_cases hq : f.dirAt exeDir <+: (uploadsDir exeDir).names ++ p
      · exact h.files _ c hq hc
      · refine .inl ((h.frame.file _ c hq fun heq => ?_).mp hc)
        rw [Form.metadataAt, uploadsDir_names, storageDir_names, List.append_assoc, List.append_assoc,
          List.append_cancel_left_eq] at heq
        exact absurd (List.cons.inj (List.cons.inj heq).2).1 (by decide)
    rcases hold with hold | ⟨written, hq, hname, hc⟩
    · obtain ⟨g, hg, hfile⟩ := hs.files p c hold
      exact ⟨g, h.kept g hg, hfile⟩
    · exact ⟨f, h.begun, written, hq, hname, hc⟩
  · rcases h.frame.names n hn with ⟨rfl, -⟩ | hn
    · exact ⟨f, h.begun, rfl⟩
    · obtain ⟨g, hg, hname⟩ := hs.names n hn
      exact ⟨g, h.kept g hg, hname⟩
  · by_cases huuid : f.fileUUID = g.fileUUID
    · have hgf : g = f := by
        rcases h.came g hg with hgf | hg
        · exact hgf
        · rcases h.fresh with hf | hfresh
          · exact (hs.unique f hf g hg huuid).symm
          · exact absurd huuid.symm (hfresh g hg)
      subst hgf
      exact h.metadata m hm
    · have hg : g ∈ s.uploads := (h.came g hg).resolve_left fun hgf => huuid (by rw [hgf])
      have hold := (h.frame.file _ _ (not_prefix_metadataAt f g) fun heq => huuid (metadataAt_inj heq).symm).mp hm
      obtain ⟨hmeta, hstored⟩ := hs.metadata g hg m hold
      exact ⟨hmeta, h.stored hs hstored⟩

/-- What is stored is in the tree and the list of uploads, and nowhere else. -/
theorem Stored.congr (hg : Stored exeDir md5 s g) (htree : s'.tree = s.tree) (huploads : s'.uploads = s.uploads) :
    Stored exeDir md5 s' g :=
  ⟨huploads ▸ hg.begun, hg.isName, htree ▸ hg.file, htree ▸ hg.metadata⟩

/-- The same of the storage as a whole. -/
theorem Sound.congr (hs : Sound exeDir md5 s) (htree : s'.tree = s.tree) (huploads : s'.uploads = s.uploads) :
    Sound exeDir md5 s' where
  unique := huploads ▸ hs.unique
  files := by
    rw [htree, huploads]
    exact hs.files
  names := by
    rw [htree, huploads]
    exact hs.names
  metadata := by
    rw [htree, huploads]
    intro g hg m hm
    obtain ⟨hmeta, hstored⟩ := hs.metadata g hg m hm
    exact ⟨hmeta, hstored.congr htree huploads⟩

/-! ### Of the steps, these change the tree -/

/-- The file is made only under a name, since what is no name leads to a directory. -/
theorem isName_of_create {tree : Files Content} {content : Content}
    (hdirs : ∀ q, q <+: f.dirAt exeDir → s.tree.node q = some .dir) (hbase : IsBase f.filename)
    (h : s.tree.create (resolve (f.filePath exeDir)) content = some tree) : IsName f.filename := by
  by_contra hname
  refine (create_eq_some h).2.1 (hdirs _ ?_)
  rw [f.resolve_filePath]
  exact walk_of_not_isName hbase hname

/-- A new UUID has no metadata file yet. -/
theorem unsaved_of_fresh (hs : Sound exeDir md5 s) (hfresh : ∀ g ∈ s.uploads, g.fileUUID ≠ f.fileUUID) :
    Unsaved exeDir s f := by
  intro m hm
  obtain ⟨g, hg, hname⟩ := hs.names f.metadataName (by rw [show _ ++ [_] = f.metadataAt exeDir from rfl, hm]; simp)
  exact hfresh g hg (Form.metadataName_inj hname).symm

/-- The first step of an upload: its directory is made and it is on the list. -/
theorem active_mkdir (hs : Sound exeDir md5 s) (hready : Ready exeDir md5 s u) (hphase : u.phase = .mkdir)
    {tree : Files Content} (htree : s.tree.mkdirAll (u.form.dirAt exeDir) = some tree) :
    Active exeDir md5 s { s with tree, uploads := u.form :: s.uploads } u.form := by
  rw [Ready, hphase] at hready
  have hunsaved := unsaved_of_fresh hs hready.1
  exact {
    frame := .mkdirAll_dirAt htree
    fresh := .inr hready.1
    kept := fun g hg => List.mem_cons_of_mem _ hg
    came := fun g hg => List.mem_cons.mp hg
    begun := List.mem_cons_self
    unsaved := hunsaved
    files := fun q c _ hq => .inl ((node_mkdirAll_file htree).mp hq)
    metadata := fun m hm => absurd ((node_mkdirAll_file htree).mp hm) (hunsaved m) }

/-- A step of an upload that has begun. -/
theorem active_of_begun (hf : f ∈ s.uploads) (hunsaved : Unsaved exeDir s f) {tree : Files Content}
    (hframe : Frame exeDir f s.tree tree)
    (hfiles : ∀ q c, f.dirAt exeDir <+: q → tree.node q = some (.file c) → s.tree.node q = some (.file c) ∨
      ∃ written, q = f.fileAt exeDir ∧ IsName f.filename ∧ c = .data (f.file.take written))
    (hmetadata : ∀ m, tree.node (f.metadataAt exeDir) = some (.file (.metadata m)) →
      m = f.metadata md5 ∧ Stored exeDir md5 { s with tree } f) : Active exeDir md5 s { s with tree } f where
  frame := hframe
  fresh := .inl hf
  kept := fun _ hg => hg
  came := fun _ hg => .inr hg
  begun := hf
  unsaved := hunsaved
  files := hfiles
  metadata := hmetadata

/-- The file of an upload is made or written. -/
theorem active_file (hf : f ∈ s.uploads) (hunsaved : Unsaved exeDir s f) (hname : IsName f.filename)
    {tree : Files Content} {written : Nat} (hdir : s.tree.node (f.fileAt exeDir) ≠ some .dir)
    (hparent : s.tree.node (f.fileAt exeDir) ≠ none ∨ s.tree.node (f.fileAt exeDir).dropLast = some .dir)
    (hnode : ∀ q, tree.node q =
      if q = f.fileAt exeDir then some (.file (.data (f.file.take written))) else s.tree.node q) :
    Active exeDir md5 s { s with tree } f ∧ Written exeDir { s with tree } f written := by
  have hmetadata : tree.node (f.metadataAt exeDir) = s.tree.node (f.metadataAt exeDir) := by
    rw [hnode, if_neg (fun h => fileAt_ne_metadataAt f f h.symm)]
  refine ⟨active_of_begun hf hunsaved (.of_node (.inl rfl) hdir hparent hnode) (fun q c _ hq => ?_) fun m hm => ?_, ?_⟩
  · rw [hnode] at hq
    split_ifs at hq with heq
    · obtain rfl := Node.file.inj (Option.some.inj hq)
      exact .inr ⟨written, heq, hname, rfl⟩
    · exact .inl hq
  · exact absurd (hmetadata ▸ hm) (hunsaved m)
  · refine ⟨hf, fun m hm => hunsaved m (hmetadata ▸ hm), hname, ?_⟩
    show tree.node _ = _
    rw [hnode, if_pos rfl]

/-- Writing to its file, as far as the write comes. -/
theorem active_write {written written' : Nat} (h : Written exeDir s f written) :
    Active exeDir md5 s
        { s with tree := s.tree.write (resolve (f.filePath exeDir)) (.data (f.file.take written')) } f ∧
      Written exeDir { s with tree := s.tree.write (resolve (f.filePath exeDir)) (.data (f.file.take written')) } f
        written' := by
  rw [f.resolve_filePath_of_isName h.isName]
  refine active_file h.begun h.unsaved h.isName ?_ (.inl ?_) fun q => node_write_of_file h.file
  · rw [h.file]
    intro hdir
    cases hdir
  · rw [h.file]
    exact Option.some_ne_none _

/-- Creating its file. -/
theorem active_create (hready : Ready exeDir md5 s u) (hphase : u.phase = .create) {tree : Files Content}
    (htree : s.tree.create (resolve (u.form.filePath exeDir)) (.data []) = some tree) :
    Active exeDir md5 s { s with tree } u.form ∧ Written exeDir { s with tree } u.form 0 := by
  rw [Ready, hphase] at hready
  obtain ⟨hf, hunsaved, hbase, hdirs⟩ := hready
  have hname := isName_of_create hdirs hbase htree
  rw [u.form.resolve_filePath_of_isName hname] at htree
  obtain ⟨-, hdir, hparent⟩ := create_eq_some htree
  exact active_file hf hunsaved hname hdir (.inr hparent) fun q => node_create htree

/-- Removing its directory. -/
theorem active_removeAll (hf : f ∈ s.uploads) (hunsaved : Unsaved exeDir s f) (left : List (List Bytes)) :
    Active exeDir md5 s { s with tree := s.tree.removeAll (f.dirAt exeDir) left } f :=
  active_of_begun hf hunsaved (.removeAll left) (fun _ _ _ hq => .inl (node_of_removeAll hq))
    fun m hm => absurd (node_of_removeAll hm) (hunsaved m)

/-- Making the directory of the metadata. -/
theorem active_saveDir (h : Written exeDir s f f.totalSize) {tree : Files Content}
    (htree : s.tree.mkdirAll (FileAccess.storageDir exeDir).names = some tree) :
    Active exeDir md5 s { s with tree } f ∧ Written exeDir { s with tree } f f.totalSize := by
  have hunsaved : Unsaved exeDir { s with tree } f := fun m hm => h.unsaved m ((node_mkdirAll_file htree).mp hm)
  refine ⟨active_of_begun h.begun h.unsaved (.mkdirAll_storageDir htree)
    (fun _ _ _ hq => .inl ((node_mkdirAll_file htree).mp hq)) fun m hm => absurd hm (hunsaved m), ?_⟩
  exact ⟨h.begun, hunsaved, h.isName, (node_mkdirAll_file htree).mpr h.file⟩

/-- The metadata of an upload is made or written. -/
theorem active_metadata (h : Written exeDir s f f.totalSize) {tree : Files Content} {c : Content}
    (hdir : s.tree.node (f.metadataAt exeDir) ≠ some .dir)
    (hparent : s.tree.node (f.metadataAt exeDir) ≠ none ∨ s.tree.node (f.metadataAt exeDir).dropLast = some .dir)
    (hnode : ∀ q, tree.node q = if q = f.metadataAt exeDir then some (.file c) else s.tree.node q)
    (hc : c = .data [] ∨ c = .metadata (f.metadata md5)) :
    Active exeDir md5 s { s with tree } f ∧
      tree.node (f.fileAt exeDir) = some (.file (.data (f.file.take f.totalSize))) := by
  have hfile : tree.node (f.fileAt exeDir) = some (.file (.data (f.file.take f.totalSize))) := by
    rw [hnode, if_neg (fileAt_ne_metadataAt f f), h.file]
  refine ⟨active_of_begun h.begun h.unsaved (.of_node (.inr rfl) hdir hparent hnode) (fun q c' hq hqc => ?_)
    fun m hm => ?_, hfile⟩
  · rw [hnode, if_neg] at hqc
    · exact .inl hqc
    · rintro rfl
      exact not_prefix_metadataAt f f hq
  · have hat : tree.node (f.metadataAt exeDir) = some (.file c) := by rw [hnode, if_pos rfl]
    rw [hat] at hm
    obtain rfl := Node.file.inj (Option.some.inj hm)
    rcases hc with hc | hc
    · cases hc
    · obtain rfl := Content.metadata.inj hc
      refine ⟨rfl, h.begun, h.isName, ?_, hat⟩
      show tree.node _ = _
      rw [hfile, Form.totalSize, List.take_length]

/-- Creating its metadata file, which is empty and decodes to nothing. -/
theorem active_saveCreate (h : Written exeDir s f f.totalSize) {tree : Files Content}
    (htree : s.tree.create (f.metadataAt exeDir) (.data []) = some tree) :
    Active exeDir md5 s { s with tree } f ∧ Written exeDir { s with tree } f f.totalSize ∧
      tree.node (f.metadataAt exeDir) = some (.file (.data [])) := by
  obtain ⟨-, hdir, hparent⟩ := create_eq_some htree
  obtain ⟨hactive, hfile⟩ :=
    active_metadata h hdir (.inr hparent) (fun q => node_create htree) (.inl (rfl : Content.data [] = _))
  have hat : tree.node (f.metadataAt exeDir) = some (.file (.data [])) := by rw [node_create htree, if_pos rfl]
  refine ⟨hactive, ⟨h.begun, fun m hm => ?_, h.isName, hfile⟩, hat⟩
  have hm' : tree.node (f.metadataAt exeDir) = some (.file (.metadata m)) := hm
  rw [hat] at hm'
  cases hm'

/-- Writing it: with this step the upload is stored. -/
theorem active_saveWrite (h : Written exeDir s f f.totalSize)
    (hat : s.tree.node (f.metadataAt exeDir) = some (.file (.data []))) :
    Active exeDir md5 s { s with tree := s.tree.write (f.metadataAt exeDir) (.metadata (f.metadata md5)) } f ∧
      Stored exeDir md5 { s with tree := s.tree.write (f.metadataAt exeDir) (.metadata (f.metadata md5)) } f := by
  have hdir : s.tree.node (f.metadataAt exeDir) ≠ some .dir := by
    rw [hat]
    intro hdir
    cases hdir
  obtain ⟨hactive, hfile⟩ := active_metadata h hdir (.inl (by rw [hat]; exact Option.some_ne_none _))
    (fun q => node_write_of_file hat) (.inr (rfl : Content.metadata (f.metadata md5) = _))
  rw [Form.totalSize, List.take_length] at hfile
  refine ⟨hactive, h.begun, h.isName, hfile, ?_⟩
  show Files.node _ _ = _
  rw [node_write_of_file hat, if_pos rfl]

/-! ### What an upload finds -/

/-- `loadMetadata` of a UUID reads the metadata file of that upload. -/
theorem loadMetadata_uuid (tree : Files Content) (g : Form) :
    loadMetadata cwd exeDir tree g.fileUUID.text =
      match tree.node (g.metadataAt exeDir) with
      | some (.file content) => content.decode
      | _ => none := by
  have hwalk : ((FileAccess.storageDir exeDir).walk g.metadataName).names = g.metadataAt exeDir :=
    walk_of_isName g.isName_metadataName
  have hpath := walk_path (FileAccess.storageDir_names exeDir) g.isName_metadataName
  have hload : FileAccess.loadMetadata cwd exeDir g.fileUUID.text =
      [.open ((FileAccess.storageDir exeDir).walk g.metadataName).path] := by
    rw [FileAccess.loadMetadata_eq]
    exact if_pos (hpath ▸ List.prefix_append _ _)
  rw [loadMetadata, hload]
  dsimp only
  rw [resolve_path, hwalk]

/-- The look for duplicates cuts `.json` from the names it reads. -/
theorem Form.take_metadataName (g : Form) :
    g.metadataName.take (g.metadataName.length - 5) = g.fileUUID.text := by
  rw [g.metadataName_length, Form.metadataName]
  exact List.take_left' g.fileUUID.length

/-- What a metadata file is read as is that of an upload that is stored. -/
theorem stored_of_loadMetadata (hs : Sound exeDir md5 s) (hg : g ∈ s.uploads) {m : FileMetadata}
    (h : loadMetadata cwd exeDir s.tree g.fileUUID.text = some m) :
    Stored exeDir md5 s g ∧ m = g.metadata md5 := by
  rw [loadMetadata_uuid] at h
  split at h
  · next content hnode =>
    cases content with
    | data bytes => cases h
    | metadata m' =>
      obtain rfl := Option.some.inj h
      exact (hs.metadata g hg m' hnode).symm
  · cases h

/-- What an upload has found stays, if what is stored does. -/
theorem Found.imp {f : Form} {a : Answer} (h : Found exeDir md5 s f a)
    (himp : ∀ g, Stored exeDir md5 s g → Stored exeDir md5 s' g) : Found exeDir md5 s' f a := by
  obtain ⟨g, hg, ha⟩ := h
  exact ⟨g, himp g hg, ha⟩

/-- What the upload itself relies on is there behind its step, and the storage is sound again. -/
theorem Moves.step (h : Moves cwd exeDir md5 s u e s' u') (hs : Sound exeDir md5 s) (hready : Ready exeDir md5 s u) :
    (s'.tree = s.tree ∧ s'.uploads = s.uploads ∨ Active exeDir md5 s s' u.form) ∧ Ready exeDir md5 s' u' := by
  -- What the step changes is the upload's own directory and metadata file (`Active`), or nothing.
  cases h with
  | fails text hphase => exact ⟨.inl ⟨rfl, rfl⟩, trivial⟩
  | mkdir tree hphase htree =>
    have hactive := active_mkdir hs hready hphase htree
    rw [Ready, hphase] at hready
    refine ⟨.inr hactive, List.mem_cons_self, ?_, hready.2, fun q hq => ?_⟩
    · exact fun m hm => hactive.unsaved m ((node_mkdirAll_file htree).mp hm)
    · show tree.node q = _
      rw [node_mkdirAll htree, if_pos hq]
  | create tree hphase htree =>
    obtain ⟨hactive, hwritten⟩ := active_create hready hphase htree
    exact ⟨.inr hactive, hwritten⟩
  | write written written' phase hphase hwritten hnext =>
    rw [Ready, hphase] at hready
    obtain ⟨hactive, hwritten'⟩ : Active exeDir md5 _ _ _ ∧ Written exeDir _ _ written' := active_write hready
    refine ⟨.inr hactive, ?_⟩
    rcases hnext with ⟨rfl, -⟩ | rfl
    · exact hwritten'
    · trivial
  | progress written hphase =>
    rw [Ready, hphase] at hready
    exact ⟨.inl ⟨rfl, rfl⟩, hready.begun, hready.unsaved, hready.isName, hready.file⟩
  | eof hphase =>
    rw [Ready, hphase] at hready
    exact ⟨.inl ⟨rfl, rfl⟩, hready⟩
  | listed files he hphase hfiles =>
    rw [Ready, hphase] at hready
    refine ⟨.inl ⟨rfl, rfl⟩, hready, fun n hn => hs.names n ?_⟩
    exact Option.isSome_iff_ne_none.mp ((mem_readDir hfiles).mp hn)
  | unlisted ok he hphase hfiles =>
    rw [Ready, hphase] at hready
    exact ⟨.inl ⟨rfl, rfl⟩, hready⟩
  | unmatched hphase =>
    rw [Ready, hphase] at hready
    exact ⟨.inl ⟨rfl, rfl⟩, hready.1⟩
  | panics file files hphase hshort => exact ⟨.inl ⟨rfl, rfl⟩, trivial⟩
  | skip _ _ file files hphase hload =>
    rw [Ready, hphase] at hready
    exact ⟨.inl ⟨rfl, rfl⟩, hready.1, fun n hn => hready.2 n (List.mem_cons_of_mem _ hn)⟩
  | found file files m hphase hload hmd5 =>
    rw [Ready, hphase] at hready
    obtain ⟨g, hg, rfl⟩ := hready.2 file List.mem_cons_self
    rw [g.take_metadataName] at hload
    obtain ⟨hstored, rfl⟩ := stored_of_loadMetadata hs hg hload
    exact ⟨.inl ⟨rfl, rfl⟩, hready.1.begun, hready.1.unsaved, g, hstored, rfl, hmd5⟩
  | removeAll existing left hphase =>
    rw [Ready, hphase] at hready
    have hactive : Active exeDir md5 _ _ _ := active_removeAll hready.1 hready.2.1 left
    exact ⟨.inr hactive, hready.2.2.imp fun g hg => hactive.stored hs hg⟩
  | hasDir hphase =>
    rw [Ready, hphase] at hready
    exact ⟨.inl ⟨rfl, rfl⟩, hready⟩
  | saveDir tree hphase htree =>
    rw [Ready, hphase] at hready
    obtain ⟨hactive, hwritten⟩ : Active exeDir md5 _ _ _ ∧ Written exeDir _ _ _ := active_saveDir hready htree
    exact ⟨.inr hactive, hwritten⟩
  | saveCreate tree hphase htree =>
    rw [Ready, hphase] at hready
    obtain ⟨hactive, hwritten⟩ : Active exeDir md5 _ _ _ ∧ _ := active_saveCreate hready htree
    exact ⟨.inr hactive, hwritten⟩
  | saveWrite phase hphase hnext =>
    rw [Ready, hphase] at hready
    obtain ⟨hactive, hstored⟩ := active_saveWrite hready.1 hready.2
    refine ⟨.inr hactive, ?_⟩
    rcases hnext with rfl | rfl
    · exact hstored
    · trivial
  | forget hphase =>
    rw [Ready, hphase] at hready
    exact ⟨.inl ⟨rfl, rfl⟩, hready.congr rfl rfl, rfl⟩

/-- A step changes no form. -/
theorem Moves.form (h : Moves cwd exeDir md5 s u e s' u') : u'.form = u.form := by
  cases h <;> rfl

/-! ### What it leaves to the others -/

/-- What an upload at work relies on: that the others stay stored, its UUID stays new until its directory is
    made, and its directory, file and metadata file stay as they are. -/
theorem Ready.imp (hready : Ready exeDir md5 s v) (hstored : ∀ g, Stored exeDir md5 s g → Stored exeDir md5 s' g)
    (hkept : ∀ g ∈ s.uploads, g ∈ s'.uploads)
    (hfresh : (∀ g ∈ s.uploads, g.fileUUID ≠ v.form.fileUUID) → ∀ g ∈ s'.uploads, g.fileUUID ≠ v.form.fileUUID)
    (hdir : ∀ q, q <+: v.form.dirAt exeDir → s.tree.node q = some .dir → s'.tree.node q = some .dir)
    (hfile : ∀ c, s.tree.node (v.form.fileAt exeDir) = some (.file c) →
      s'.tree.node (v.form.fileAt exeDir) = some (.file c))
    (hmetadata : ∀ c, s'.tree.node (v.form.metadataAt exeDir) = some (.file c) ↔
      s.tree.node (v.form.metadataAt exeDir) = some (.file c)) : Ready exeDir md5 s' v := by
  have hunsaved : Unsaved exeDir s v.form → Unsaved exeDir s' v.form := fun h m hm => h m ((hmetadata _).mp hm)
  have hwritten : ∀ written, Written exeDir s v.form written → Written exeDir s' v.form written :=
    fun written h => ⟨hkept _ h.begun, hunsaved h.unsaved, h.isName, hfile _ h.file⟩
  -- Each phase relies on some of the hypotheses; an upload that has ended, on what is stored alone.
  rw [Ready] at hready ⊢
  cases hphase : v.phase with
  | mkdir =>
    rw [hphase] at hready
    exact ⟨hfresh hready.1, hready.2⟩
  | create =>
    rw [hphase] at hready
    exact ⟨hkept _ hready.1, hunsaved hready.2.1, hready.2.2.1, fun q hq => hdir q hq (hready.2.2.2 q hq)⟩
  | copy written | progress written =>
    rw [hphase] at hready
    exact hwritten _ hready
  | readDir | saveDir | saveCreate =>
    rw [hphase] at hready
    exact hwritten _ hready
  | load files =>
    rw [hphase] at hready
    refine ⟨hwritten _ hready.1, fun n hn => ?_⟩
    obtain ⟨g, hg, hname⟩ := hready.2 n hn
    exact ⟨g, hkept g hg, hname⟩
  | removeAll existing =>
    rw [hphase] at hready
    exact ⟨hkept _ hready.1, hunsaved hready.2.1, hready.2.2.imp hstored⟩
  | saveWrite =>
    rw [hphase] at hready
    exact ⟨hwritten _ hready.1, (hmetadata _).mpr hready.2⟩
  | forget =>
    rw [hphase] at hready
    exact hstored _ hready
  | ended r =>
    rw [hphase] at hready
    cases r with
    | success a => exact ⟨hstored _ hready.1, hready.2⟩
    | duplicate a => exact Found.imp hready hstored
    | error text => trivial
    | panicked => trivial

/-- Nothing of it is in the progress table. -/
theorem Ready.congr (hready : Ready exeDir md5 s v) (htree : s'.tree = s.tree) (huploads : s'.uploads = s.uploads) :
    Ready exeDir md5 s' v := by
  refine hready.imp (fun g hg => hg.congr htree huploads) ?_ ?_ ?_ ?_ ?_
  · rw [huploads]
    exact fun g hg => hg
  · rw [huploads]
    exact fun h => h
  · rw [htree]
    exact fun q _ h => h
  · rw [htree]
    exact fun c h => h
  · rw [htree]
    exact fun c => Iff.rfl

/-- A step by one upload keeps what another at work relies on. -/
theorem Active.ready (h : Active exeDir md5 s s' f) (hs : Sound exeDir md5 s) (hne : f.fileUUID ≠ v.form.fileUUID)
    (hready : Ready exeDir md5 s v) : Ready exeDir md5 s' v := by
  refine hready.imp (fun g hg => h.stored hs hg) h.kept (fun hfresh g hg => ?_)
    (fun q hq hdir => h.frame.dir q (not_prefix_dirAt hne hq) hdir) (fun c hc => ?_) fun c => ?_
  · rcases h.came g hg with rfl | hg
    · exact hne
    · exact hfresh g hg
  · exact (h.frame.file _ c (not_prefix_fileAt hne) (fileAt_ne_metadataAt _ _)).mpr hc
  · exact h.frame.file _ c (not_prefix_metadataAt _ _) fun heq => hne (metadataAt_inj heq).symm

/-! ## Every run -/

variable (exeDir md5) in
/-- What holds in every state: the uploads have different UUIDs. -/
def consistent : Threads.Assertion Store Upload where
  shared := Sound exeDir md5
  thread s _ u := Ready exeDir md5 s u
  related u v := u.form.fileUUID ≠ v.form.fileUUID

/-- The invariant of a run: each kind of step keeps it, for itself and for the others. -/
theorem consistent_kept : (consistent exeDir md5).Kept (system cwd exeDir md5) Begins where
  symm h := Ne.symm h
  begin := by
    rintro s u - ⟨hphase, hbase, -, hfresh, hothers⟩
    refine ⟨?_, fun i v hv => (hothers v (List.mem_of_getElem? hv)).symm⟩
    show Ready exeDir md5 s.shared u
    rw [Ready, hphase]
    exact ⟨hfresh, hbase⟩
  outside := by
    intro s x store _ _ hx
    cases hx
  advance := by
    intro s i u e p hs _ hu hp
    obtain ⟨store, u'⟩ := p
    have hp : advance cwd exeDir md5 s.shared u e = some (store, u') := hp
    have hmoves := moves_of_advance hp
    obtain ⟨heffect, hready⟩ := hmoves.step hs.shared (hs.thread i u hu)
    refine ⟨?_, hready, fun j v hji hv hne => ?_, fun j v hji hv hne hthread => ?_⟩
    · rcases heffect with ⟨htree, huploads⟩ | hactive
      · exact hs.shared.congr htree huploads
      · exact hactive.sound hs.shared
    · show u'.form.fileUUID ≠ _
      rw [hmoves.form]
      exact hne
    · rcases heffect with ⟨htree, huploads⟩ | hactive
      · exact hthread.congr htree huploads
      · exact hactive.ready hs.shared hne hthread

/-- It holds where uploads are only about to begin. -/
theorem Begun.holds {s : State} (h : Begun exeDir s) : (consistent exeDir md5).Holds s where
  shared := by
    refine ⟨?_, fun p c hc => absurd hc (h.files p c), fun n hn => absurd (h.metadata n) hn, ?_⟩
    · rw [h.uploads]
      exact fun f hf => absurd hf List.not_mem_nil
    · rw [h.uploads]
      exact fun f hf => absurd hf List.not_mem_nil
  thread i t ht := by
    rw [h.threads] at ht
    cases ht
  related i j t u _ ht := by
    rw [h.threads] at ht
    cases ht

/-! ## Downloads -/

theorem uploadsDir_ne_nil (exeDir : Dir) : (uploadsDir exeDir).names ≠ [] := by
  rw [uploadsDir_names]
  exact List.append_ne_nil_of_right_ne_nil _ (List.cons_ne_nil _ _)

/-- A download walks from the directory of the uploads. -/
theorem download_eq (tree : Files Content) (uuid filename : Bytes) : download cwd exeDir tree uuid filename =
    if Refused uuid ∨ Refused filename then .badRequest
    else if (uploadsDir exeDir).path ++ [separator] <+: (((uploadsDir exeDir).walk uuid).walk filename).path then
      match tree.node (((uploadsDir exeDir).walk uuid).walk filename).names with
      | none => .notFound
      | some node =>
        if filename = indexPage then .redirect
        else match node with
          | .dir => .redirect
          | .file content => .file content
    else .badRequest := by
  have hsafe : join [exeDir.path, uploadDir] = (uploadsDir exeDir).path := join_path exeDir uploadDir
  have hpath : join [exeDir.path, uploadDir, uuid, filename] =
      (((uploadsDir exeDir).walk uuid).walk filename).path := join_three exeDir uploadDir uuid filename
  rw [download, hsafe, hpath]
  simp only [abs_path, resolve_path]

/-- A name that the download takes is one, or is a dot, which leads nowhere new. -/
theorem cases_of_not_refused {n : Bytes} (h : ¬Refused n) : n = dot ∨ IsName n := by
  rw [Refused, not_or, not_or, not_or] at h
  obtain ⟨hne, hsep, -, hdots⟩ := h
  by_cases hdot : n = dot
  · exact .inl hdot
  · refine .inr ⟨hne, hdot, ?_, hsep⟩
    rintro rfl
    exact hdots (List.infix_refl _)

/-- A UUID is never refused. -/
theorem UUID.not_refused (uuid : UUID) : ¬Refused uuid.text := by
  rintro (hnil | hsep | hslash | hdots)
  · exact uuid.isName.nonempty hnil
  · exact uuid.isName.noSeparator hsep
  · exact absurd (uuid.digits _ hslash) (by decide)
  · have hdot : (46 : UInt8) ∈ uuid.text := hdots.subset List.mem_cons_self
    exact absurd (uuid.digits _ hdot) (by decide)

/-- The names that a component of a request comes to. -/
theorem walk_of_not_refused {names : List Bytes} {n : Bytes} (h : ¬Refused n) :
    Paths.walk names n = names ++ if n = dot then [] else [n] := by
  rcases cases_of_not_refused h with rfl | hn
  · rw [if_pos rfl, List.append_nil]
    rfl
  · rw [if_neg hn.notDot, walk_of_isName hn]

/-- Only the file of an upload is downloaded, under its UUID and its name. -/
theorem Sound.download (hs : Sound exeDir md5 s) {uuid filename : Bytes} {c : Content}
    (h : Storage.download cwd exeDir s.tree uuid filename = .file c) :
    ∃ f ∈ s.uploads, f.fileUUID.text = uuid ∧ f.filename = filename ∧
      s.tree.node (f.fileAt exeDir) = some (.file c) ∧ ∃ written, c = .data (f.file.take written) := by
  rw [download_eq] at h
  split_ifs at h with hrefused hconfined hindex
  · split at h <;> cases h
  rw [not_or] at hrefused
  have hwalk : (((uploadsDir exeDir).walk uuid).walk filename).names = (uploadsDir exeDir).names ++
      ((if uuid = dot then [] else [uuid]) ++ if filename = dot then [] else [filename]) := by
    show Paths.walk (Paths.walk _ _) _ = _
    rw [walk_of_not_refused hrefused.1, walk_of_not_refused hrefused.2, List.append_assoc]
  rw [hwalk] at h
  split at h
  · cases h
  · next node hnode =>
    split at h
    · cases h
    · next content =>
      obtain rfl := Download.file.inj h
      obtain ⟨f, hf, written, hat, -, hc⟩ := hs.files _ _ hnode
      rw [hat] at hnode
      rw [names_fileAt] at hat
      have hnames := List.append_cancel_left hat
      have huuid : uuid ≠ dot := by
        rintro rfl
        rw [if_pos rfl] at hnames
        split_ifs at hnames <;> cases hnames
      have hname : filename ≠ dot := by
        rintro rfl
        rw [if_pos rfl, if_neg huuid] at hnames
        cases hnames
      rw [if_neg huuid, if_neg hname] at hnames
      obtain ⟨huuid', hname'⟩ := List.cons.inj hnames
      exact ⟨f, hf, huuid'.symm, (List.cons.inj hname').1.symm, hnode, written, hc⟩

/-- An upload that is stored is downloaded, unless its name is one that is refused or redirected. -/
theorem Stored.download (h : Stored exeDir md5 s f) :
    Storage.download cwd exeDir s.tree f.fileUUID.text f.filename =
      if Refused f.filename then .badRequest
      else if f.filename = indexPage then .redirect
      else .file (.data f.file) := by
  have hnames : (((uploadsDir exeDir).walk f.fileUUID.text).walk f.filename).names = f.fileAt exeDir := by
    show Paths.walk ((uploadsDir exeDir).walk f.fileUUID.text).names f.filename = _
    rw [f.walk_dir, walk_of_isName h.isName]
    rfl
  have hpath : (uploadsDir exeDir).path ++ [separator] <+:
      (((uploadsDir exeDir).walk f.fileUUID.text).walk f.filename).path := by
    have hne : ((uploadsDir exeDir).walk f.fileUUID.text).names ≠ [] := by
      rw [f.walk_dir, Form.dirAt]
      exact List.append_ne_nil_of_right_ne_nil _ (List.cons_ne_nil _ _)
    rw [walk_path hne h.isName, walk_path (uploadsDir_ne_nil exeDir) f.fileUUID.isName]
    exact ⟨f.fileUUID.text ++ separator :: f.filename, by simp⟩
  rw [download_eq, hnames, if_pos hpath, h.file]
  by_cases hrefused : Refused f.filename
  · rw [if_pos (.inr hrefused), if_pos hrefused]
  · rw [if_neg (not_or.mpr ⟨f.fileUUID.not_refused, hrefused⟩), if_neg hrefused]

/-- What is stored is found. -/
theorem Stored.loadMetadata (h : Stored exeDir md5 s f) :
    Storage.loadMetadata cwd exeDir s.tree f.fileUUID.text = some (f.metadata md5) := by
  rw [loadMetadata_uuid, h.metadata]
  rfl

end

/-! ## Answers -/

/-- An upload that has been answered knows its content to be stored. -/
theorem found_of_answered {exeDir : Dir} {md5 : Bytes → Bytes} {s : Store} {u : Upload} {a : Answer}
    (h : Ready exeDir md5 s u) (ha : u.phase = .ended (.success a) ∨ u.phase = .ended (.duplicate a)) :
    Found exeDir md5 s u.form a := by
  rw [Ready] at h
  rcases ha with ha | ha
  · rw [ha] at h
    exact ⟨u.form, h.1, h.2, rfl⟩
  · rw [ha] at h
    exact h

/-- What an upload was answered holds in every state from then on: under the UUID there is the metadata of an upload
    with the same MD5, of this one if it is stored, and the URI leads to its content, but for a file name that a
    download refuses or redirects. -/
theorem answers_kept {cwd : Bytes} {exeDir : Dir} {md5 : Bytes → Bytes} {s₀ s : State} {acts : List Act}
    (hbegun : Begun exeDir s₀) (hsteps : Runs.Steps (system cwd exeDir md5).step Begins s₀ acts)
    (hrun : Runs.run (system cwd exeDir md5).step s₀ acts = some s) {i : Nat} {u : Upload} {a : Answer}
    (hu : s.threads[i]? = some u) (ha : u.phase = .ended (.success a) ∨ u.phase = .ended (.duplicate a)) :
    ∃ f ∈ s.shared.uploads, a = ⟨f.fileURI, f.fileUUID.text, f.fileMD5 md5⟩ ∧
      f.fileMD5 md5 = u.form.fileMD5 md5 ∧ (u.phase = .ended (.success a) → f = u.form) ∧
      loadMetadata cwd exeDir s.shared.tree f.fileUUID.text = some (f.metadata md5) ∧
      download cwd exeDir s.shared.tree f.fileUUID.text f.filename =
        if Refused f.filename then .badRequest
        else if f.filename = indexPage then .redirect
        else .file (.data f.file) := by
  have hs := consistent_kept.invariant hsteps hbegun.holds hrun
  have hready : Ready exeDir md5 s.shared u := hs.thread i u hu
  by_cases hsuccess : u.phase = .ended (.success a)
  · rw [Ready, hsuccess] at hready
    obtain ⟨hstored, rfl⟩ := hready
    exact ⟨u.form, hstored.begun, rfl, rfl, fun _ => rfl, hstored.loadMetadata, hstored.download⟩
  · obtain ⟨f, hstored, rfl, hmd5⟩ := found_of_answered hready ha
    exact ⟨f, hstored.begun, rfl, hmd5, fun h => absurd h hsuccess, hstored.loadMetadata, hstored.download⟩

/-- Whatever is asked for, at any time, only what has been written of an upload is downloaded, under its UUID and
    its name. -/
theorem download_uploaded {cwd : Bytes} {exeDir : Dir} {md5 : Bytes → Bytes} {s₀ s : State} {acts : List Act}
    (hbegun : Begun exeDir s₀) (hsteps : Runs.Steps (system cwd exeDir md5).step Begins s₀ acts)
    (hrun : Runs.run (system cwd exeDir md5).step s₀ acts = some s) {uuid filename : Bytes} {c : Content}
    (h : download cwd exeDir s.shared.tree uuid filename = .file c) :
    ∃ f ∈ s.shared.uploads, f.fileUUID.text = uuid ∧ f.filename = filename ∧
      ∃ written, c = .data (f.file.take written) := by
  have hs : Sound exeDir md5 s.shared := (consistent_kept.invariant hsteps hbegun.holds hrun).shared
  obtain ⟨f, hf, huuid, hname, -, hc⟩ := hs.download h
  exact ⟨f, hf, huuid, hname, hc⟩

/-! ## One upload after another -/

/-- Nothing has been uploaded. -/
theorem begun_start (exeDir : Dir) : Begun exeDir start := by
  refine ⟨rfl, rfl, fun p content h => ?_, fun n => ?_, rfl⟩
  · rw [node] at h
    split_ifs at h
    · cases h
    · cases h
  · exact node_ne_nil (List.append_ne_nil_of_right_ne_nil _ (List.cons_ne_nil _ _))

theorem sample_isName : ∀ n ∈ ["opt".toUTF8.data.toList], IsName n := by decide

/-- The server is in `/opt`. -/
def sampleDir : Dir := ⟨["opt".toUTF8.data.toList], sample_isName⟩

theorem sample_digits {d : UInt8} (hd : isHexDigit d = true) :
    ∀ b ∈ List.replicate 36 d, b = hyphen ∨ isHexDigit b = true := by
  intro b hb
  rw [List.eq_of_mem_replicate hb]
  exact .inr hd

/-- `a.txt` with the content `a`. -/
def sampleForm : Form :=
  ⟨⟨List.replicate 36 97, List.length_replicate, sample_digits (by decide)⟩, "a.txt".toUTF8.data.toList, [97]⟩

/-- The same content under another name. -/
def sampleForm' : Form :=
  ⟨⟨List.replicate 36 98, List.length_replicate, sample_digits (by decide)⟩, "b..txt".toUTF8.data.toList, [97]⟩

/-- The MD5 of `a`. -/
def sampleMD5 (_ : Bytes) : Bytes :=
  [0x0c, 0xc1, 0x75, 0xb9, 0xc0, 0xf1, 0xb6, 0xa8, 0x31, 0xc3, 0x99, 0xe2, 0x69, 0x77, 0x26, 0x61]

/-- An upload up to its look at the metadata. -/
def sampleCopy (i : Nat) (f : Form) : List Act :=
  [.begin ⟨f, .mkdir⟩, .turn i (.mkdir true), .turn i (.create true), .turn i (.write 1 true), .turn i .progress,
    .turn i .eof, .turn i (.readDir true)]

/-- The steps from the last look to the end of an upload. -/
def sampleSave (i : Nat) : List Act :=
  [.turn i (.saveDir true), .turn i (.saveCreate true), .turn i (.saveWrite true true), .turn i .forget]

/-- One upload and then another of the same content, which is answered with the first. -/
def sampleActs : List Act :=
  sampleCopy 0 sampleForm ++ sampleSave 0 ++ sampleCopy 1 sampleForm' ++ [.turn 1 (.load true), .turn 1 (.removeAll [])]

/-- The run is one of `Begins`. -/
theorem sample_steps : Runs.Steps (system [] sampleDir sampleMD5).step Begins start sampleActs := by decide +kernel

/-- The second upload is a duplicate, -/
theorem sample_run : ((Runs.run (system [] sampleDir sampleMD5).step start sampleActs).bind (·.threads[1]?)) =
    some ⟨sampleForm', .ended (.duplicate (sampleForm.metadata sampleMD5).answer)⟩ := by decide +kernel

/-- The second upload is answered with the first. -/
theorem answers_kept_second : ∃ s, Runs.run (system [] sampleDir sampleMD5).step start sampleActs = some s ∧
    ∃ f ∈ s.shared.uploads, (sampleForm.metadata sampleMD5).answer =
      ⟨f.fileURI, f.fileUUID.text, f.fileMD5 sampleMD5⟩ := by
  obtain ⟨s, hrun, hthread⟩ := Option.bind_eq_some_iff.mp sample_run
  obtain ⟨f, hf, ha, -⟩ := answers_kept (begun_start sampleDir) sample_steps hrun hthread (.inr rfl)
  exact ⟨s, hrun, f, hf, ha⟩

/-- and the first is downloaded. -/
theorem sample_download : (Runs.run (system [] sampleDir sampleMD5).step start sampleActs).map
    (fun s => download [] sampleDir s.shared.tree sampleForm.fileUUID.text sampleForm.filename) =
      some (.file (.data [97])) := by decide +kernel

theorem download_uploaded_first : ∃ s, Runs.run (system [] sampleDir sampleMD5).step start sampleActs = some s ∧
    ∃ f ∈ s.shared.uploads, f.filename = sampleForm.filename ∧ ∃ written, [97] = f.file.take written := by
  obtain ⟨s, hrun, hdownload⟩ := Option.map_eq_some_iff.mp sample_download
  obtain ⟨f, hf, -, hname, written, hc⟩ := download_uploaded (begun_start sampleDir) sample_steps hrun hdownload
  exact ⟨s, hrun, f, hf, hname, written, Content.data.inj hc⟩

end OpenNHP.Server.Storage
