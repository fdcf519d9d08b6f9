import Stencil.Files.Path
import Stencil.Text.Quoted

/-!
# File trees

A file tree knows, for absolute locations, whether a file or a directory stands
there, and a file's bytes; a location it does not list holds nothing. The tree
also has a working directory, against which relative paths are resolved.

`Tree.ofFiles` builds a tree from files alone: every directory above a file, and
the working directory with those above it, are directories.

Opening a location that holds no file fails in the words of the system:
`[Errno 2] No such file or directory: 'c.json'` or `[Errno 21] Is a directory: 'v'`,
the path quoted as it was written.

The system walks a written path part by part (`Tree.follow`): every part before
the last must name a directory that exists, else the walk fails with
`[Errno 2] No such file or directory` or `[Errno 20] Not a directory`; `..` steps
back to the parent and `.` stays. So `nodir/../a.html` does not reach `a.html`
when `nodir` does not exist, though the two name the same location when read as
text (`Tree.locate`, which is how partial roots and candidates are resolved). A
path written with a final `/` must lead to a directory.
-/

namespace Stencil.Files

/-- What stands at a location. -/
inductive Entry where
  | file (bytes : ByteArray)
  | directory
  deriving Inhabited

/-- A file tree with a working directory. -/
structure Tree where
  cwd : List String
  entries : List (List String × Entry)
  deriving Inhabited

/-- Why a location cannot be opened as a file. -/
inductive OpenFailure where
  | missing
  | directory
  | notDirectory
  deriving DecidableEq, Repr

namespace OpenFailure

/-- The system's words for a failure to open a path as written. -/
def message (f : OpenFailure) (written : String) : String :=
  match f with
  | .missing => "[Errno 2] No such file or directory: " ++ Text.quote written
  | .directory => "[Errno 21] Is a directory: " ++ Text.quote written
  | .notDirectory => "[Errno 20] Not a directory: " ++ Text.quote written

end OpenFailure

namespace Tree

/-- The locations above a location, the top first, without the location itself. -/
def above (location : List String) : List (List String) :=
  (List.range location.length).map fun n => location.take n

/-- A tree holding files at locations, with the directories around them. -/
def ofFiles (cwd : List String) (files : List (List String × ByteArray)) : Tree :=
  let dirs := (cwd :: above cwd ++ files.flatMap fun (loc, _) => above loc).eraseDups
  { cwd := cwd, entries := files.map (fun (loc, b) => (loc, Entry.file b)) ++
      dirs.map fun loc => (loc, Entry.directory) }

/-- What stands at a location. -/
def entry? (t : Tree) (location : List String) : Option Entry :=
  (t.entries.find? (·.1 = location)).map (·.2)

/-- The location a path names. -/
def locate (t : Tree) (p : Path) : List String := Path.resolve t.cwd p

/-- Whether a file stands at a location. -/
def isFile (t : Tree) (location : List String) : Bool :=
  match t.entry? location with
  | some (.file _) => true
  | _ => false

/-- The bytes of the file at a location, or why it cannot be opened. -/
def open? (t : Tree) (location : List String) : Except OpenFailure ByteArray :=
  match t.entry? location with
  | some (.file b) => .ok b
  | some .directory => .error .directory
  | none => .error .missing

/-- The location one step from a directory: `..` its parent, `.` itself, any other
part the entry of that name in it. -/
def step (location : List String) (part : String) : List String :=
  if part = ".." then location.dropLast else if part = "." then location else location ++ [part]

/-- Walk parts from a directory as the system does: each part but the last must
lead to a directory. The location the last part leads to, or why the walk stops. -/
def follow (t : Tree) (location : List String) : List String → Except OpenFailure (List String)
  | [] => .ok location
  | [part] => .ok (step location part)
  | part :: rest =>
    let next := step location part
    match t.entry? next with
    | some .directory => t.follow next rest
    | some (.file _) => .error .notDirectory
    | none => .error .missing

/-- The parts of a path as written, as the system walks them: empty parts are
skipped, and a final `/` asks for a directory, as a final `.` does. -/
def writtenParts (written : String) : List String :=
  let parts := (written.splitOn "/").filter (· ≠ "")
  if written.endsWith "/" && !parts.isEmpty then parts ++ ["."] else parts

/-- Where the system's walk of a path as written leads. -/
def find (t : Tree) (written : String) : Except OpenFailure (List String) :=
  t.follow (if written.startsWith "/" then [] else t.cwd) (writtenParts written)

/-- Where the system's walk of a path leads. -/
def findPath (t : Tree) (p : Path) : Except OpenFailure (List String) :=
  t.follow (if p.isAbsolute then [] else t.cwd) p.parts

/-- Whether the system's walk of a path ends at a file. -/
def isFileAt (t : Tree) (p : Path) : Bool :=
  match t.findPath p with
  | .ok location => t.isFile location
  | .error _ => false

/-- The bytes of the file a walk leads to, or why it cannot be opened. -/
def openFound (t : Tree) : Except OpenFailure (List String) → Except OpenFailure ByteArray
  | .ok location => t.open? location
  | .error f => .error f

/-- Where a file can be written at the end of a walk: not over a directory. -/
def writableFound (t : Tree) : Except OpenFailure (List String) → Except OpenFailure (List String)
  | .ok location =>
    match t.entry? location with
    | some .directory => .error .directory
    | _ => .ok location
  | .error f => .error f

/-- Write a file at a location, replacing what was there. -/
def write (t : Tree) (location : List String) (bytes : ByteArray) : Tree :=
  { t with entries := (location, .file bytes) :: t.entries.filter (·.1 ≠ location) }

/-- Record what stands at a location. -/
def add (t : Tree) (location : List String) (e : Entry) : Tree :=
  { t with entries := (location, e) :: t.entries }

/-- Where a file can be written: not over a directory, and only in a directory. -/
def writable (t : Tree) (location : List String) : Except OpenFailure Unit :=
  match t.entry? location with
  | some .directory => .error .directory
  | _ =>
    match t.entry? location.dropLast with
    | some .directory => .ok ()
    | _ => .error .missing

end Tree

end Stencil.Files
