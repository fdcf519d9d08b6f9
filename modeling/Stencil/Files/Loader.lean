import Stencil.Files.Tree
import Stencil.Files.Codec
import Stencil.Partial.Store

/-!
# Partials from files

A file loader finds a partial under a root directory: the path as written, then
the path with each suffix added (`.html` by default), joined to the root and
resolved. The first candidate that leaves the root ends the search empty-handed;
the first that names a file is read in the loader's encoding and parsed with the
path as the template's name.

A partial that is not found is reported with the root's absolute location; a
path holding a NUL character, which the system refuses to look up, and a file
that cannot be decoded are `LoadError`s; an encoding that is not known, a codec
that refuses the file as a whole and a codec that fails in itself are failures of
the loader, which the renderer reports as `LoadError`s too.
-/

namespace Stencil.Files

/-- A loader of partials from files under a root directory of a tree. -/
structure FileLoader where
  tree : Tree
  root : List String
  encoding : String
  suffixes : List String := [".html"]
  deriving Inhabited

namespace FileLoader

/-- A loader whose root is a path, resolved against the tree's working directory. -/
def ofRoot (tree : Tree) (root : Path) (encoding : String) : FileLoader :=
  { tree := tree, root := tree.locate root, encoding := encoding }

/-- Whether a location is the root or lies under it. -/
def within (l : FileLoader) (location : List String) : Bool :=
  l.root.isPrefixOf location

/-- The locations tried for a partial path: the path as written, then with each
suffix, up to the first that leaves the root. -/
def candidates (l : FileLoader) (path : String) : List (List String) :=
  ((path :: l.suffixes.map (path ++ ·)).map fun c =>
    Path.resolve l.root (Path.ofString c)).takeWhile l.within

/-- The location of the file for a partial path. -/
def resolve? (l : FileLoader) (path : String) : Option (List String) :=
  (l.candidates path).find? l.tree.isFile

/-- What the loader answers for a partial path. -/
def reply (l : FileLoader) (path : String) : LoadReply :=
  if Path.hasNul path then .failure "embedded null byte"
  else
    match l.resolve? path with
    | none => .error (.ofFault (.partialNotFoundUnder path (Path.locationText l.root)))
    | some location =>
      match l.tree.open? location with
      | .error f => .error (.ofFault (.unreadablePartial path (f.message (Path.locationText location))))
      | .ok bytes =>
        match Codec.lookup l.encoding with
        | .error m => .failure m
        | .ok codec =>
          match readText codec bytes with
          | .error (.span m) => .error (.ofFault (.unreadablePartial path m))
          | .error (.whole m) => .failure m
          | .error .internal => .failure CodecError.internal.message
          | .ok source => LoadReply.ofResult (PartialStore.parsePartial path source)

end FileLoader

end Stencil.Files
