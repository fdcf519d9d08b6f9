/-!
# Paths

A path as a user writes it: a root of zero, one or two slashes, and its parts.
Reading a path drops empty parts and `.` parts, so `./a//b/` is `a/b`; exactly two
leading slashes are kept as written, any other number of them means one. The
empty path reads as `.`.

A path is resolved against a working directory to the parts of an absolute
location: a relative path is joined to the directory, then each `..` takes back
the part before it (at the top it stays at the top).
-/

namespace Stencil.Files

/-- A path as written: its root (`""`, `"/"` or `"//"`) and its parts. -/
structure Path where
  root : String
  parts : List String
  deriving Inhabited, DecidableEq, Repr

namespace Path

/-- The root of a written path. -/
def rootOf (s : String) : String :=
  if s.startsWith "//" && !s.startsWith "///" then "//"
  else if s.startsWith "/" then "/"
  else ""

/-- Read a written path. -/
def ofString (s : String) : Path :=
  { root := rootOf s, parts := (s.splitOn "/").filter fun p => p ≠ "" ∧ p ≠ "." }

/-- The path as text; `.` for the empty relative path. -/
def toText (p : Path) : String :=
  if p.root.isEmpty && p.parts.isEmpty then "." else p.root ++ "/".intercalate p.parts

/-- Whether the path starts at the root. -/
def isAbsolute (p : Path) : Bool := !p.root.isEmpty

/-- The last part, or the empty text when there is none. -/
def name (p : Path) : String := p.parts.getLastD ""

/-- The path without its last part; a path without parts is its own parent. -/
def parent (p : Path) : Path := { p with parts := p.parts.dropLast }

/-- Follow a path from another: an absolute path stands alone, a relative one is
appended. -/
def join (base p : Path) : Path :=
  if p.isAbsolute then p else { base with parts := base.parts ++ p.parts }

/-- Apply the parts of a path to an absolute location, `..` going up one level. -/
def walk (location : List String) : List String → List String
  | [] => location
  | ".." :: rest => walk location.dropLast rest
  | part :: rest => walk (location ++ [part]) rest

/-- The absolute location a path names from a working directory. -/
def resolve (cwd : List String) (p : Path) : List String :=
  if p.isAbsolute then walk [] p.parts else walk cwd p.parts

/-- Walking two paths one after the other is walking them joined. -/
theorem walk_append (loc a b : List String) : walk loc (a ++ b) = walk (walk loc a) b := by
  induction a generalizing loc with
  | nil => rfl
  | cons x rest ih =>
    by_cases h : x = ".."
    · subst h; simp [walk, ih]
    · simp [walk, ih]

/-- An absolute path names the same location from every working directory. -/
theorem resolve_of_isAbsolute {p : Path} (h : p.isAbsolute = true) (cwd : List String) :
    resolve cwd p = walk [] p.parts := by
  simp [resolve, h]

/-- Whether a written path holds a NUL character, which no path the system knows
can hold. -/
def hasNul (s : String) : Bool := s.contains (Char.ofNat 0)

/-- An absolute location as text. -/
def locationText (location : List String) : String :=
  "/" ++ "/".intercalate location

end Path

end Stencil.Files
