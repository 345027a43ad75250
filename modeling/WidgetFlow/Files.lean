/-!
# Files

The files that a run can see, by their full path, and where a path leads. A path is followed name by
name from the working directory or the root; every name on the way has to be that of a directory.
-/

namespace WidgetFlow

/-- A full path, as the names from the root on. -/
abbrev FullPath := List String

/-- Follows the parts of a path from a place, whatever there is; an empty part or a dot stays, two
dots go back. -/
def follow (place : FullPath) : List String → FullPath
  | [] => place
  | part :: rest =>
    if part = "" ∨ part = "." then follow place rest
    else if part = ".." then follow place.dropLast rest
    else follow (place ++ [part]) rest

/-- Where a path begins: at the root, or else in `directory`. -/
def origin (directory : FullPath) (path : String) : FullPath :=
  if path.toList.head? = some '/' then [] else directory

/-- The full path of a path, which is relative to `directory` unless it begins at the root. -/
def fullPath (directory : FullPath) (path : String) : FullPath :=
  follow (origin directory path) (path.splitOn "/")

/-- Why a path leads nowhere. -/
inductive PathFault where
  | missing
  | notDirectory
  | nameTooLong
  | badCharacter
  deriving DecidableEq, Inhabited

/-- The wording of a fault. -/
def PathFault.reason : PathFault → String
  | missing => "no such file or directory"
  | notDirectory => "not a directory"
  | nameTooLong => "file name too long"
  | badCharacter => "invalid argument"

/-- How many bytes a name may have. -/
def greatestName : Nat := 255

/-- How many bytes a path may have. -/
def greatestPath : Nat := 4095

/-- How many digits are put into the name of a file while it is written. -/
def draftDigits : Nat := 10

/-- What a path names. -/
inductive Named where
  | directory
  | file (text : String)
  deriving DecidableEq, Inhabited

/-- The files that can be seen from a working directory. -/
structure Files where
  directory : FullPath := []
  texts : List (FullPath × String) := []
  /-- Directories that exist besides those with a file in them. -/
  directories : List FullPath := []
  deriving DecidableEq, Inhabited

namespace Files

/-- The files of a directory, by their relative paths. -/
def ofList (directory : FullPath) (texts : List (String × String)) : Files :=
  { directory, texts := texts.map fun (path, text) => (fullPath directory path, text) }

/-- There is a directory at a full path: the working directory, one that holds it, or one that holds
something else. -/
def hasDirectory (f : Files) (place : FullPath) : Bool :=
  place.isPrefixOf f.directory || f.directories.any (place.isPrefixOf ·)
    || f.texts.any fun (path, _) => place.isPrefixOf path && place.length < path.length

/-- There is a file or a directory at a full path. -/
def has (f : Files) (place : FullPath) : Bool :=
  f.hasDirectory place || (f.texts.lookup place).isSome

/-- Follows the parts of a path from a place. -/
def walk (f : Files) (place : FullPath) : List String → Except PathFault FullPath
  | [] => .ok place
  | part :: rest =>
    if !f.hasDirectory place then .error .notDirectory
    else if part = "" ∨ part = "." then f.walk place rest
    else if part = ".." then f.walk place.dropLast rest
    else if greatestName < part.utf8ByteSize then .error .nameTooLong
    else if f.has (place ++ [part]) then f.walk (place ++ [part]) rest
    else .error .missing

/-- Why no path like this is followed at all. -/
def refusal? (path : String) : Option PathFault :=
  if path.toList.contains (Char.ofNat 0) then some .badCharacter
  else if greatestPath < path.utf8ByteSize then some .nameTooLong
  else if path = "" then some .missing
  else none

/-- What a path names. -/
def named (f : Files) (path : String) : Except PathFault Named :=
  match refusal? path with
  | some fault => .error fault
  | none =>
    match f.walk (origin f.directory path) (path.splitOn "/") with
    | .error fault => .error fault
    | .ok place =>
      match f.texts.lookup place with
      | some text => .ok (.file text)
      | none => .ok .directory

/-- The text of a file, if the path names one. -/
def text? (f : Files) (path : String) : Option String :=
  match f.named path with
  | .ok (.file text) => some text
  | _ => none

/-- The files with a file written, replacing the one that was there. -/
def put (f : Files) (path text : String) : Files :=
  let place := fullPath f.directory path
  { f with texts := (place, text) :: f.texts.filter fun (p, _) => p ≠ place }

/-- How long the name of a file is while it is written: digits are added to it, or put where its last
star is. -/
def draftLength (name : String) : Nat :=
  name.utf8ByteSize + draftDigits - (if name.toList.contains '*' then 1 else 0)

/-- A file can be written at a path. It is first written under another name, in the directory that the
path says without regard to what there is on the way; then the path itself is followed to put it in
place. -/
def canPut (f : Files) (path : String) : Bool :=
  let parts := path.splitOn "/"
  let name := parts.getLastD ""
  let start := origin f.directory path
  (refusal? path).isNone && name ≠ "" && name ≠ "." && name ≠ ".."
    && f.hasDirectory (follow start parts.dropLast) && draftLength name ≤ greatestName
    && match f.walk start parts.dropLast with
      | .error _ => false
      | .ok place => f.hasDirectory place && !f.hasDirectory (place ++ [name])

end Files

end WidgetFlow
