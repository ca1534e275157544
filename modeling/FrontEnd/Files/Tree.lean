/-
FrontEnd/Files/Tree.lean

A tree of files in a working directory, and what reading a path in it gives.  The
path is walked part by part, as a POSIX system walks it: every part but the last
has to be a directory, and a slash after the last part asks for one too.
-/
import FrontEnd.Files.Basic
import FrontEnd.Files.Path

namespace FrontEnd

/-- What stands at a place of a file tree. -/
inductive FileEntry
  | file (bytes : ByteArray)
  | directory

/-- Files and directories by their path from the working directory.  The directories on the way
to an entry exist with it. -/
abbrev FileTree := List (String × FileEntry)

/-- The longest name of a directory entry, in bytes. -/
def maxNameBytes : Nat := 255

/-- The longest path, in bytes. -/
def maxPathBytes : Nat := 4095

namespace FileTree

/-- What stands at a place that is given by its parts. -/
def entryAt? (tree : FileTree) (place : List (List Char)) : Option FileEntry :=
  let placeOf (name : String) := (pathParts name).filter (!isIdlePart ·)
  match tree.find? (fun item => placeOf item.1 == place) with
  | some item => some item.2
  | none =>
    if place.isEmpty || tree.any (fun item => place.isPrefixOf (placeOf item.1)) then
      some .directory
    else none

/-- A point of a walk: below the working directory, or some levels above it. -/
inductive Place
  | inside (parts : List (List Char))
  | above (levels : Nat)

/-- What stands at a point of a walk. -/
def entryAtPlace? (tree : FileTree) : Place → Option FileEntry
  | .inside parts => tree.entryAt? parts
  | .above _ => some .directory

/-- One part further.  Nothing is known above the working directory except that there are
directories. -/
def step (tree : FileTree) (place : Place) (part : List Char) : Except ReadFailure Place :=
  match tree.entryAtPlace? place with
  | none => .error .notFound
  | some (.file _) => .error .notDirectory
  | some .directory =>
    if isIdlePart part then .ok place
    else if part = ['.', '.'] then
      match place with
      | .inside [] => .ok (.above 1)
      | .inside parts => .ok (.inside parts.dropLast)
      | .above levels => .ok (.above (levels + 1))
    else if maxNameBytes < (String.ofList part).utf8ByteSize then .error .nameTooLong
    else
      match place with
      | .above _ => .error .notFound
      | .inside parts =>
        if (tree.entryAt? (parts ++ [part])).isSome then .ok (.inside (parts ++ [part]))
        else .error .notFound

/-- The bytes of the file at a path. -/
def readBytes (tree : FileTree) (path : String) : Except ReadFailure ByteArray := do
  if path.toList.contains '\x00' then throw .nulInPath
  if path.isEmpty || path.startsWith "/" then throw .notFound
  if maxPathBytes < path.utf8ByteSize then throw .nameTooLong
  let place ← (pathParts path).foldlM tree.step (.inside [])
  match tree.entryAtPlace? place with
  | none => throw .notFound
  | some .directory => throw .isDirectory
  | some (.file bytes) => return bytes

/-- The files of the tree, as text. -/
def files (tree : FileTree) : Files where
  read path := do
    let bytes ← tree.readBytes path
    match String.fromUTF8? bytes with
    | some text => return text
    | none => throw .invalidUtf8

end FileTree

end FrontEnd
