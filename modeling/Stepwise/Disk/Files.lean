import Stepwise.Disk.Path
import Stepwise.Fault.Named
import Stepwise.Text.Utf8

/-!
# Files

A tree of directories and files with their content, kept as a list of places in the order in
which they came to be. A directory is listed from the latest name to the earliest. A path is
followed name by name, and every name but the last must be a directory's; names that lead up are
followed too.
-/

namespace Stepwise

inductive Entry where
  | directory
  | file (content : List UInt8)
  deriving Inhabited

/-- A place is the list of names that lead to it from the root, none of which leads up. -/
abbrev Place := List String

/-- The places that exist, besides the root, and the one that paths without root start from. -/
structure Files where
  entries : List (Place × Entry)
  here : Place
  deriving Inhabited

/-- Why a path cannot be used. -/
inductive Trouble where
  | missing
  | taken
  | notDirectory
  | isDirectory
  | nameTooLong
  | nullCharacter
  deriving DecidableEq, Repr

namespace Trouble

/-- The number and the reason that the system gives. -/
def system : Trouble → Int × String
  | missing => (2, "No such file or directory")
  | taken => (17, "File exists")
  | notDirectory => (20, "Not a directory")
  | isDirectory => (21, "Is a directory")
  | nameTooLong => (36, "File name too long")
  | nullCharacter => (0, "embedded null byte")

/-- The fault about the paths concerned. -/
def fault (trouble : Trouble) (paths : List Path) : Fault :=
  match trouble with
  | nullCharacter => .valueError "embedded null byte"
  | trouble =>
    let (number, reason) := trouble.system
    let named := (paths.map fun path => Value.str path.text).intersperse .null
    .other ((Fault.systemKind number).getD "OSError") (.int number :: .str reason :: named)

end Trouble

namespace Files

def empty : Files := ⟨[], []⟩

def find? (files : Files) (place : Place) : Option Entry :=
  if place = [] then some .directory else files.entries.lookup place

def isDirectoryAt (files : Files) (place : Place) : Bool :=
  match files.find? place with
  | some .directory => true
  | _ => false

/-- Names of more bytes than this do not exist. -/
def longestName : Nat := 255

/-- Paths of this many bytes or more are not followed. -/
def pathLimit : Nat := 4096

/-- Follows names from a place. -/
def walk (files : Files) (place : Place) : List String → Except Trouble Place
  | [] => .ok place
  | name :: rest =>
    match files.find? place with
    | none => .error .missing
    | some (.file _) => .error .notDirectory
    | some .directory =>
      if name = ".." then walk files place.dropLast rest
      else if longestName < name.utf8ByteSize then .error .nameTooLong
      else walk files (place ++ [name]) rest

/-- The place that a path leads to, which need not exist. -/
def locate (files : Files) (path : Path) : Except Trouble Place :=
  if path.text.toList.contains '\x00' then .error .nullCharacter
  else if pathLimit ≤ path.text.utf8ByteSize then .error .nameTooLong
  else files.walk (if path.isAbsolute then [] else files.here) path.names

/-- What a path leads to. -/
def entry (files : Files) (path : Path) : Except Trouble Entry := do
  let place ← files.locate path
  match files.find? place with
  | some found => return found
  | none => throw .missing

/-- What a path leads to, or nothing. A name that is too long is a fault even so. -/
def status (files : Files) (path : Path) : Except Fault (Option Entry) :=
  match files.entry path with
  | .ok found => .ok (some found)
  | .error .nameTooLong => .error (Trouble.nameTooLong.fault [path])
  | .error _ => .ok none

def present (files : Files) (path : Path) : Except Fault Bool := do
  let found ← files.status path
  return found.isSome

def isDirectory (files : Files) (path : Path) : Except Fault Bool := do
  match ← files.status path with
  | some .directory => return true
  | _ => return false

def isFile (files : Files) (path : Path) : Except Fault Bool := do
  match ← files.status path with
  | some (.file _) => return true
  | _ => return false

/-- The content of a file. -/
def read (files : Files) (path : Path) : Except Fault (List UInt8) :=
  match files.entry path with
  | .ok (.file content) => .ok content
  | .ok .directory => .error (Trouble.isDirectory.fault [path])
  | .error trouble => .error (trouble.fault [path])

/-- The characters of a text file, with uniform line ends. -/
def readText (files : Files) (path : Path) : Except Fault (List Char) := do
  let content ← files.read path
  match Utf8.decode content with
  | .ok chars => return Text.uniformLines chars
  | .error malformed => throw (.machinery "UnicodeDecodeError" malformed.text)

/-- Puts an entry at a place. One that was there keeps its turn in the order. -/
def put (files : Files) (place : Place) (entry : Entry) : Files :=
  if (files.entries.lookup place).isSome then
    { files with
      entries := files.entries.map fun (other, old) =>
        if other = place then (other, entry) else (other, old) }
  else { files with entries := files.entries ++ [(place, entry)] }

def remove (files : Files) (place : Place) : Files :=
  { files with entries := files.entries.filter fun (other, _) => other ≠ place }

/-- The place of a path at which something can be put: its parent has to be a directory. -/
def target (files : Files) (path : Path) : Except Trouble Place := do
  let place ← files.locate path
  match files.find? place.dropLast with
  | some .directory => return place
  | some (.file _) => throw .notDirectory
  | none => throw .missing

/-- Writes a file anew. -/
def write (files : Files) (path : Path) (content : List UInt8) : Except Fault Files :=
  match files.target path with
  | .error trouble => .error (trouble.fault [path])
  | .ok place =>
    if files.isDirectoryAt place then .error (Trouble.isDirectory.fault [path])
    else .ok (files.put place (.file content))

/-- Adds to the end of a file, which is made if there is none. -/
def append (files : Files) (path : Path) (content : List UInt8) : Except Fault Files :=
  match files.entry path with
  | .ok (.file old) => files.write path (old ++ content)
  | _ => files.write path content

/-- Moves a file to another path, in place of what is there. The name is the latest one then. -/
def replace (files : Files) (source destination : Path) : Except Fault Files :=
  let moved : Except Trouble Files := do
    let origin ← files.locate source
    let goal ← files.target destination
    match files.find? origin with
    | some (.file content) =>
      if files.isDirectoryAt goal then throw .isDirectory
      else return ((files.remove origin).remove goal).put goal (.file content)
    | some .directory => throw .isDirectory
    | none => throw .missing
  match moved with
  | .ok files => .ok files
  | .error trouble => .error (trouble.fault [source, destination])

/-- Removes a file. -/
def unlink (files : Files) (path : Path) : Except Fault Files :=
  match files.locate path, files.entry path with
  | .ok place, .ok (.file _) => .ok (files.remove place)
  | _, .ok .directory => .error (Trouble.isDirectory.fault [path])
  | .error trouble, _ => .error (trouble.fault [path])
  | _, .error trouble => .error (trouble.fault [path])

/-- Removes a file if there is one. -/
def unlinkIfPresent (files : Files) (path : Path) : Except Fault Files :=
  match files.locate path, files.entry path with
  | .error .missing, _ => .ok files
  | _, .error .missing => .ok files
  | _, _ => files.unlink path

/-- Makes one directory. -/
def makeDirectory (files : Files) (path : Path) : Except Trouble Files := do
  let place ← files.locate path
  match files.find? place with
  | some _ => throw .taken
  | none =>
    let place ← files.target path
    return files.put place .directory

/-- Makes one directory, or finds that it is there already; none if it has nowhere to be. -/
def ensureDirectory? (files : Files) (path : Path) : Except Fault (Option Files) :=
  match files.makeDirectory path with
  | .ok files => .ok (some files)
  | .error .missing => .ok none
  | .error trouble => do
    if ← files.isDirectory path then return some files else throw (trouble.fault [path])

/-- Makes a directory and the ones above it; one that is there already will do. -/
def makeDirectories (files : Files) (path : Path) : Except Fault Files :=
  make path.names.length files path
where
  make : Nat → Files → Path → Except Fault Files
    | count, files, path => do
      match ← files.ensureDirectory? path, count with
      | some files, _ => return files
      | none, 0 => throw (Trouble.missing.fault [path])
      | none, count + 1 =>
        let files ← make count files path.parent
        match ← files.ensureDirectory? path with
        | some files => return files
        | none => throw (Trouble.missing.fault [path])

/-- A file with the directories that lead to it, if they can be had. -/
def provide (files : Files) (path : Path) (content : List UInt8) : Files :=
  let provided := do
    let files ← files.makeDirectories path.parent
    files.write path content
  provided.toOption.getD files

/-- The names in a directory, the latest first. -/
def names (files : Files) (path : Path) : List String :=
  match files.locate path with
  | .error _ => []
  | .ok place =>
    files.entries.reverse.filterMap fun (other, _) =>
      if other.dropLast = place && other ≠ [] then other.getLast? else none

/-- The files and directories of a directory whose names have an ending. -/
def withEnding (files : Files) (directory : Path) (ending : String) : List Path :=
  ((files.names directory).filter fun name => ending.toList.isSuffixOf name.toList).map fun name =>
    { directory with names := directory.names ++ [name] }

end Files

end Stepwise
