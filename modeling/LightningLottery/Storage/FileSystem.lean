/-
  A file system, as far as storing a record depends on it.

  * `FileSystem`: what stands at each path.
  * `FileSystem.resolve`: the path at which a written way ends.
  * `FileOp`, `FileSystem.apply`: the single steps of writing a file.
  * `FileSystem.run`: steps one after the other, any of which may be made to fail.
  * `FileSystem.makeDirectories`, `FileSystem.remove`, `FileSystem.names`: directories.
-/
import LightningLottery.Error
import LightningLottery.Storage.Route

namespace LightningLottery

/-- The names on the way from the root; the directories above the root are reached by double
    dots. -/
abbrev Path := List String

/-- The path of the directory above. -/
def Path.parent (path : Path) : Path :=
  if path.all (· == "..") then path ++ [".."] else path.dropLast

/-- What stands at a path. Links are left out, hard ones and symbolic ones: every path leads to an
    entry of its own. -/
inductive Entry where
  | file (content : Bytes)
  /-- A directory; a private one is open to its owner only. -/
  | directory (isPrivate : Bool)
  deriving DecidableEq, Repr

/-- What stands at the root and at the paths below it. -/
structure FileSystem where
  entries : List (Path × Entry)
  deriving DecidableEq, Repr

/-- A single step of writing a file. -/
inductive FileOp where
  /-- Makes an empty file, or empties the file that is there. -/
  | create (path : Path)
  | append (path : Path) (piece : Bytes)
  /-- Makes sure that the file is on disk. -/
  | sync (path : Path)
  /-- Moves a file, over another one if one is there. -/
  | rename (source target : Path)
  deriving DecidableEq, Repr

namespace FileSystem

/-- Nothing but the root. -/
def empty : FileSystem := ⟨[([], .directory false)]⟩

/-- What stands at a path, whatever stands above it. -/
def entry? (fs : FileSystem) (path : Path) : Option Entry :=
  if !path.isEmpty && path.all (· == "..") then some (.directory false)
  else fs.entries.lookup path

/-- Whether a directory stands at a path. -/
def isDirectory (fs : FileSystem) (path : Path) : Bool :=
  match fs.entry? path with
  | some (.directory _) => true
  | _ => false

/-- The first problem on the way to a path: a name that is missing, or one that is a file. -/
def obstacle? (fs : FileSystem) (path : Path) : Option FileFault :=
  ((List.range path.length).map path.take).findSome? fun above =>
    match fs.entry? above with
    | none => some .notFound
    | some (.file _) => some .notDirectory
    | some (.directory _) => none

/-- What stands at a path. -/
def find (fs : FileSystem) (path : Path) : Except FileFault Entry :=
  match fs.obstacle? path, fs.entry? path with
  | some fault, _ => .error fault
  | none, none => .error .notFound
  | none, some entry => .ok entry

/-- Puts something at a path. -/
def put (fs : FileSystem) (path : Path) (entry : Entry) : FileSystem :=
  ⟨(path, entry) :: fs.entries.filter (·.1 != path)⟩

/-- Takes away what stands at a path. -/
def erase (fs : FileSystem) (path : Path) : FileSystem := ⟨fs.entries.filter (·.1 != path)⟩

/-! ## Ways -/

/-- No name has more bytes. -/
def maxName : Nat := 255

/-- No way has this many bytes. -/
def maxRoute : Nat := 4096

/-- The path at which steps from a path end. Each step is taken in a directory; the last one need
    not lead to anything. -/
def walk (fs : FileSystem) (here : Path) : List Step → Except FileFault Path
  | [] => .ok here
  | step :: rest =>
    match fs.entry? here with
    | none => .error .notFound
    | some (.file _) => .error .notDirectory
    | some (.directory _) =>
      match step with
      | .here => fs.walk here rest
      | .above => fs.walk here.parent rest
      | .name text =>
        if maxName < text.utf8ByteSize then .error .nameTooLong else fs.walk (here ++ [text]) rest

/-- What is wrong with the text of a way, whatever it leads to. -/
def textFault? (route : Route) : Option FileFault :=
  if route.hasNul then some .nulInName
  else if maxRoute ≤ route.size then some .nameTooLong
  else none

/-- The path at which a way ends. -/
def resolve (fs : FileSystem) (route : Route) : Except FileFault Path := do
  if let some fault := textFault? route then throw fault
  let path ← fs.walk [] route.steps
  match fs.entry? path with
  | some (.file _) => if route.isFolder then throw .notDirectory else return path
  | _ => return path

/-- Whether a way leads to something. -/
def leadsSomewhere (fs : FileSystem) (route : Route) : Bool :=
  match fs.resolve route with
  | .ok path => (fs.entry? path).isSome
  | .error _ => false

/-! ## Files -/

/-- The content of the file at a path. -/
def read (fs : FileSystem) (path : Path) : Except FileFault Bytes :=
  match fs.find path with
  | .error fault => .error fault
  | .ok (.directory _) => .error .isDirectory
  | .ok (.file content) => .ok content

/-- The file system after a step, or why the step cannot be taken. -/
def apply (fs : FileSystem) : FileOp → Except FileFault FileSystem
  | .create path =>
    match fs.find path with
    | .ok (.directory _) => .error .isDirectory
    | .ok (.file _) => .ok (fs.put path (.file []))
    | .error fault =>
      if (fs.obstacle? path).isNone then .ok (fs.put path (.file [])) else .error fault
  | .append path piece =>
    match fs.read path with
    | .ok content => .ok (fs.put path (.file (content ++ piece)))
    | .error fault => .error fault
  | .sync path => (fs.read path).map fun _ => fs
  | .rename source target =>
    match fs.read source, fs.obstacle? target, fs.entry? target with
    | .error fault, _, _ => .error fault
    | .ok _, some fault, _ => .error fault
    | .ok _, none, some (.directory _) => .error .isDirectory
    | .ok content, none, _ => .ok ((fs.erase source).put target (.file content))

/-- Takes steps one after the other and stops at the first that fails; `fails i` makes the step `i`
    fail without effect. -/
def run (fs : FileSystem) (fails : Nat → Option FileFault) (i : Nat) :
    List FileOp → FileSystem × Except FileFault Unit
  | [] => (fs, .ok ())
  | op :: ops =>
    match fails i, fs.apply op with
    | some fault, _ => (fs, .error fault)
    | none, .error fault => (fs, .error fault)
    | none, .ok next => next.run fails (i + 1) ops

/-- No step is made to fail. -/
def reliable : Nat → Option FileFault := fun _ => none

/-- Writes the file at a way in place; tells whether that worked. -/
def write (fs : FileSystem) (route : Route) (content : Bytes) :
    FileSystem × Except FileFault Unit :=
  match fs.resolve route with
  | .error fault => (fs, .error fault)
  | .ok path =>
    if route.isFolder then (fs, .error .isDirectory)
    else fs.run reliable 0 [.create path, .append path content]

/-! ## Directories -/

/-- Makes the directory at the end of steps. -/
def makeDirectory (fs : FileSystem) (steps : List Step) : Except FileFault FileSystem := do
  let path ← fs.walk [] steps
  if (fs.entry? path).isSome then throw .alreadyExists
  return fs.put path (.directory false)

/-- Whether steps lead to a directory. -/
def leadsToDirectory (fs : FileSystem) (steps : List Step) : Bool :=
  match fs.walk [] steps with
  | .ok path => fs.isDirectory path
  | .error _ => false

/-- Makes the directory at the end of steps, unless it is there. -/
def ensureDirectory (fs : FileSystem) (steps : List Step) : Except FileFault FileSystem :=
  match fs.makeDirectory steps with
  | .error .alreadyExists => if fs.leadsToDirectory steps then .ok fs else .error .alreadyExists
  | outcome => outcome

/-- Makes the directory at the first of several ways; where a directory on that way is missing, it
    makes those at the others first, which lead to the directories above. -/
def makeOutward (fs : FileSystem) : List (List Step) → FileSystem × Except FileFault Unit
  | [] => (fs, .ok ())
  | steps :: outer =>
    match fs.ensureDirectory steps with
    | .ok made => (made, .ok ())
    | .error .notFound =>
      match fs.makeOutward outer with
      | (above, .error fault) => (above, .error fault)
      | (above, .ok ()) =>
        match above.ensureDirectory steps with
        | .ok made => (made, .ok ())
        | .error fault => (above, .error fault)
    | .error fault => (fs, .error fault)

/-- Makes the directory at a way and those on it, where they are missing. -/
def makeDirectories (fs : FileSystem) (route : Route) : FileSystem × Except FileFault Unit :=
  match textFault? route with
  | some fault => (fs, .error fault)
  | none => fs.makeOutward route.outward

/-- Lets nobody but its owner into the directory at a way. -/
def makePrivate (fs : FileSystem) (route : Route) : FileSystem :=
  match fs.resolve route with
  | .ok path => if fs.isDirectory path then fs.put path (.directory true) else fs
  | .error _ => fs

/-- Takes away what stands at a path and below it. -/
def eraseAll (fs : FileSystem) (path : Path) : FileSystem :=
  ⟨fs.entries.filter fun e => !path.isPrefixOf e.1⟩

/-- Takes away what a way leads to, which must end in a name; tells whether anything was there. -/
def remove (fs : FileSystem) (route : Route) : FileSystem × Bool :=
  match fs.resolve route, route.steps.getLast? with
  | .ok _, some .here | .ok _, some .above | .error _, _ => (fs, false)
  | .ok path, _ => if (fs.entry? path).isSome then (fs.eraseAll path, true) else (fs, false)

/-- The names in the directory at a way, in order. -/
def names (fs : FileSystem) (route : Route) : List String :=
  match fs.resolve route with
  | .error _ => []
  | .ok path =>
    if fs.isDirectory path then
      let below := fs.entries.filter fun e => e.1.length == path.length + 1 && path.isPrefixOf e.1
      ((below.filterMap (·.1.getLast?)).filter (· != "..")).mergeSort fun a b => !(b < a)
    else []

end FileSystem

end LightningLottery
