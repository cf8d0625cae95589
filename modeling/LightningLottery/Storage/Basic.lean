/-
  Where the identity is kept between sessions.

  * `RecordFile`: the directory of a record on disk; `RecordFile.openAt` makes it where it is
    missing.
  * `RecordFile.load`, `RecordFile.save`: a save writes a second file and moves it over the record.
  * `Storage`: a record on disk, one in memory, or one that cannot be changed.
  * `Storage.loadOrGenerate`: the stored identity, or a fresh one that is stored first.
-/
import LightningLottery.Storage.FileSystem
import LightningLottery.Wire.Event

namespace LightningLottery

/-- The directory of a record: its path as it was given, and the way there. -/
structure RecordFile where
  directoryText : String
  directory : Route
  deriving DecidableEq, Repr

namespace RecordFile

/-- The name of the record. -/
def recordName : String := "auth.json"

/-- The name of the file that is written before it takes the record's place. -/
def draftName : String := "auth.json.tmp"

/-- The record's directory below the root of a file system; `root` is the text for that root. -/
def below (root text : String) : RecordFile := ⟨root ++ "/" ++ text, .ofText root text⟩

/-- The way to the record. -/
def record (file : RecordFile) : Route := file.directory.child recordName

/-- The way to the file that is written first. -/
def draft (file : RecordFile) : Route := file.directory.child draftName

/-- The path of the record as text. -/
def pathText (file : RecordFile) : String :=
  if file.directoryText.endsWith "/" then file.directoryText ++ recordName
  else file.directoryText ++ "/" ++ recordName

/-- Makes the directory where it is missing, open to its owner only. -/
def openAt (file : RecordFile) (fs : FileSystem) : FileSystem × Except Error Unit :=
  if fs.leadsSomewhere file.directory then (fs, .ok ())
  else match fs.makeDirectories file.directory with
    | (made, .ok ()) => (made.makePrivate file.directory, .ok ())
    | (made, .error fault) => (made, .error (.storage (.createDirectory fault)))

/-- The bytes of the record. -/
def read (file : RecordFile) (fs : FileSystem) : Except FileFault Bytes := do
  fs.read (← fs.resolve file.record)

/-- The stored identity; a missing or empty record is none. -/
def load (file : RecordFile) (fs : FileSystem) : Except Error (Option Identity) :=
  match file.read fs with
  | .error .notFound => .ok none
  | .error fault => .error (.storage (.read file.pathText fault))
  | .ok content =>
    match (Wire.decode content : Except Json.Fault Identity) with
    | .error fault => .error (.json fault)
    | .ok identity => .ok (if identity.isEmpty then none else some identity)

/-- The bytes of a record. -/
def content (identity : Identity) : Bytes := utf8 (Wire.toJson identity).indented

/-- The steps of a save to a record by way of a draft, whose content is written in pieces. -/
def saveOps (draft record : Path) (pieces : List Bytes) : List FileOp :=
  .create draft :: pieces.map (.append draft) ++ [.sync draft, .rename draft record]

/-- Stores an identity in the place of the record. -/
def save (file : RecordFile) (fs : FileSystem) (identity : Identity) :
    FileSystem × Except Error Unit :=
  match fs.resolve file.draft, fs.resolve file.record with
  | .error fault, _ | .ok _, .error fault => (fs, .error (.file fault))
  | .ok draft, .ok record =>
    let (after, outcome) := fs.run FileSystem.reliable 0 (saveOps draft record [content identity])
    (after, outcome.mapError .file)

end RecordFile

/-- A place for one identity. -/
inductive Storage where
  | memory (slot : Option Identity)
  | disk (fs : FileSystem) (file : RecordFile)
  /-- A place that refuses every save. -/
  | full (slot : Option Identity) (fault : StorageFault)
  deriving DecidableEq, Repr

namespace Storage

/-- An identity, unless it is the empty one. -/
def filled (slot : Option Identity) : Option Identity :=
  slot.filter fun identity => !identity.isEmpty

/-- The stored identity; the empty one is none. -/
def load : Storage → Except Error (Option Identity)
  | .memory slot => .ok (filled slot)
  | .disk fs file => file.load fs
  | .full slot _ => .ok (filled slot)

/-- Stores an identity in the place of the one before. -/
def save (storage : Storage) (identity : Identity) : Storage × Except Error Unit :=
  match storage with
  | .memory _ => (.memory (some identity), .ok ())
  | .disk fs file => let (after, outcome) := file.save fs identity; (.disk after file, outcome)
  | .full slot fault => (.full slot fault, .error (.storage fault))

/-- The stored identity, whose parts must belong together; where none is stored, the fresh one,
    which is stored first. -/
def loadOrGenerate (storage : Storage) (fresh : Identity) : Storage × Except Error Identity :=
  match storage.load with
  | .error e => (storage, .error e)
  | .ok (some identity) => (storage, identity.check.map fun _ => identity)
  | .ok none =>
    match storage.save fresh with
    | (after, .ok ()) => (after, .ok fresh)
    | (after, .error e) => (after, .error e)

end Storage

end LightningLottery
