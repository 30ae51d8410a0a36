/-
This file defines the access to files that programs and snapshots need, and a tree of files that
provides it.
-/

import Chip8.Error

namespace Chip8

/-- This is the access to files by name. -/
structure Storage where
  read : String → Except AccessError (List UInt8)
  /-- This is the reason for which a file of a name cannot be created, if there is one. -/
  obstacle : String → Option AccessError

/-- This is a working directory; an entry without content is a directory. -/
structure FileTree where
  entries : List (String × Option (List UInt8))

namespace FileTree

/-- This is what stands at the end of a path. -/
inductive Node where
  | directory
  | file (content : List UInt8)
  | nothing
deriving DecidableEq

/-- This is where a path leads. -/
inductive Place where
  | inside (parts : List String)
  /-- This is a directory above the working directory, of which nothing else is known. -/
  | above
  /-- This is a name in a directory above the working directory. -/
  | outside
deriving DecidableEq

/-- This is the last part of a path. -/
def baseName (path : String) : String :=
  (path.splitOn "/").getLastD ""

/-- These are the parts of a path that lead somewhere else. -/
def parts (path : String) : List String :=
  (path.splitOn "/").filter fun part => part ≠ "" && part ≠ "."

/-- This is what the parts of a path name. -/
def nodeInside (tree : FileTree) (path : List String) : Node :=
  match tree.entries.find? fun entry => parts entry.1 = path with
  | some (_, some content) => .file content
  | some (_, none) => .directory
  | none =>
    if path.isEmpty || tree.entries.any fun entry => path.isPrefixOf (parts entry.1) then .directory
    else .nothing

def node (tree : FileTree) : Place → Node
  | .inside path => tree.nodeInside path
  | .above => .directory
  | .outside => .nothing

/-- This is the place that a name has in a directory. -/
def Place.child (name : String) : Place → Place
  | .inside path => .inside (path ++ [name])
  | .above => .outside
  | .outside => .outside

/-- This is the directory that holds a place. -/
def Place.parent : Place → Place
  | .inside [] => .above
  | .inside path => .inside path.dropLast
  | .above => .above
  | .outside => .above

/-- No part of a path may have more bytes. -/
def longestPart : Nat := 255

/-- No path may have more bytes. -/
def longestPath : Nat := 4095

/--
This follows the parts of a path from a directory. Every part but the last has to be a directory;
the last one may be missing.
-/
def walk (tree : FileTree) : Place → List String → Except AccessError Place
  | current, [] => .ok current
  | current, part :: rest =>
    if tree.node current ≠ .directory then
      .error (if tree.node current = .nothing then .missing else .notDirectory)
    else if longestPart < part.utf8ByteSize then .error .nameTooLong
    else if part = "" || part = "." then walk tree current rest
    else if part = ".." then walk tree current.parent rest
    else walk tree (current.child part) rest

/-- This is the place of a path, which is absolute if it starts with `/`. -/
def locate (tree : FileTree) (path : String) : Except AccessError Place :=
  if path = "" then .error .missing
  else if longestPath < path.utf8ByteSize then .error .nameTooLong
  else tree.walk (if path.front = '/' then .above else .inside []) (path.splitOn "/")

def read (tree : FileTree) (path : String) : Except AccessError (List UInt8) := do
  match tree.node (← tree.locate path) with
  | .file content => return content
  | .directory => throw .isDirectory
  | .nothing => throw .missing

def obstacle (tree : FileTree) (path : String) : Option AccessError :=
  match tree.locate path with
  | .error reason => some reason
  | .ok place => if tree.node place = .directory then some .isDirectory else none

/-- This is the name in the working directory that a path creates, if it creates one there. -/
def created? (tree : FileTree) (path : String) : Option String :=
  match tree.locate path with
  | .ok (.inside parts) =>
    if tree.nodeInside parts = .nothing then some ("/".intercalate parts) else none
  | _ => none

/-- This is the access to the files of a tree. -/
def storage (tree : FileTree) : Storage where
  read := tree.read
  obstacle := tree.obstacle

end FileTree

end Chip8
