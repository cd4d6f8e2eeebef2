import TaggedConfig.Host

/-! A tree of files and directories, and paths walked through it.
Each part of a path is looked up in a directory, so two dots lead back from where the walk
has come to and not from what the path says. There are no links and no devices in a tree, and
everything in it may be read and written.
-/

namespace TaggedConfig

/-- A place in a tree: the names that lead to it from the root. -/
abbrev Location := List String

/-- What is at a place. -/
inductive FileTree.Item where
  | file (content : Bytes)
  | directory
  deriving DecidableEq, Repr

/-- The places of a tree other than its root. -/
structure FileTree where
  items : List (Location × FileTree.Item) := []
  deriving DecidableEq, Repr

namespace FileTree

def item? (tree : FileTree) : Location → Option Item
  | [] => some .directory
  | location => tree.items.lookup location

/-- Puts an item at a location, in the place of what was there. -/
def put (tree : FileTree) (location : Location) (item : Item) : FileTree where
  items := (location, item) :: tree.items.filter (·.1 ≠ location)

/-- Puts a directory at a location that has nothing yet. -/
def putDirectory (tree : FileTree) (location : Location) : FileTree :=
  match tree.item? location with
  | some _ => tree
  | none => tree.put location .directory

/-- Puts directories at a location and above it. -/
def makeDirectories (tree : FileTree) (location : Location) : FileTree :=
  ((List.range (location.length + 1)).map location.take).foldl putDirectory tree

/-- The greatest number of bytes of a name. -/
def nameLimit : Nat := 255

/-- The greatest number of bytes of a path. -/
def pathLimit : Nat := 4095

/-- The parts of a path between its slashes. -/
def parts (path : String) : List String :=
  ((path.splitOn "/").filter (! ·.isEmpty))

/-- Walks from a location along the parts of a path. -/
def walk (tree : FileTree) : Location → List String → Except FileFault Location
  | location, [] => pure location
  | location, name :: rest =>
      match tree.item? location with
      | some .directory =>
          if name = "." then walk tree location rest
          else if name = ".." then walk tree location.dropLast rest
          else if nameLimit < name.utf8ByteSize then throw .nameTooLong
          else
            match tree.item? (location ++ [name]) with
            | some _ => walk tree (location ++ [name]) rest
            | none => throw .notFound
      | _ => throw .notDirectory

/-- Refuses paths that name no place at all. -/
def checkPath (path : String) : Except FileFault Unit :=
  if path.toList.any (· = '\x00') then throw .nulInPath
  else if path.isEmpty then throw .notFound
  else if pathLimit < path.utf8ByteSize then throw .nameTooLong
  else pure ()

/-- The place from which a path is walked. -/
def origin (directory path : String) : Location :=
  if path.startsWith "/" then [] else parts directory

/-- The location that a path states, whether or not anything is there. -/
def destination (directory path : String) : Location :=
  (parts path).foldl
    (fun location name =>
      if name = "." then location
      else if name = ".." then location.dropLast
      else location ++ [name])
    (origin directory path)

/-- The content of the file at a path. -/
def read (tree : FileTree) (directory path : String) : Except FileFault Bytes := do
  checkPath path
  let location ← tree.walk (origin directory path) (parts path)
  match tree.item? location with
  | some (.file content) => if path.endsWith "/" then throw .notDirectory else pure content
  | _ => throw .isDirectory

/-- Writes a file at a path whose directory exists. -/
def write (tree : FileTree) (directory path : String) (content : Bytes)
    : Except FileFault FileTree := do
  checkPath path
  let names := parts path
  let parent ← tree.walk (origin directory path) names.dropLast
  match tree.item? parent with
  | some .directory =>
      match names.getLast? with
      | none => throw .isDirectory
      | some name =>
          if path.endsWith "/" ∨ name = "." ∨ name = ".." then throw .isDirectory
          else if nameLimit < name.utf8ByteSize then throw .nameTooLong
          else if tree.item? (parent ++ [name]) = some .directory then throw .isDirectory
          else pure (tree.put (parent ++ [name]) (.file content))
  | _ => throw .notDirectory

end FileTree

end TaggedConfig
