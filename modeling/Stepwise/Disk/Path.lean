import Stepwise.Text.Blank

/-!
# Paths

A path is a sequence of names below a root or below the place where it is used. Its text has
single slashes and no names that stay where they are; names that lead up are kept, since what
they lead to depends on the files.
-/

namespace Stepwise

/-- The root is empty for a path below the place where it is used. -/
structure Path where
  root : String
  names : List String
  deriving DecidableEq, Repr, Inhabited

namespace Path

/-- The names in a text. -/
def namesOf (text : List Char) : List String :=
  ((Text.splitAt '/' text).map String.ofList).filter fun name => name ≠ "" && name ≠ "."

/-- The root of a text; exactly two slashes at its start are kept as they are. -/
def rootOf (text : List Char) : String :=
  match text with
  | '/' :: '/' :: '/' :: _ => "/"
  | '/' :: '/' :: _ => "//"
  | '/' :: _ => "/"
  | _ => ""

def ofText (text : String) : Path := ⟨rootOf text.toList, namesOf text.toList⟩

def isAbsolute (path : Path) : Bool := path.root ≠ ""

def text (path : Path) : String :=
  let joined := path.root ++ "/".intercalate path.names
  if joined = "" then "." else joined

/-- The path a text means below a path; an absolute one stands for itself. -/
def join (base : Path) (below : String) : Path :=
  let path := ofText below
  if path.isAbsolute then path else { base with names := base.names ++ path.names }

/-- The last name. -/
def name (path : Path) : String := path.names.getLast?.getD ""

def parent (path : Path) : Path := { path with names := path.names.dropLast }

/-- Splits a name before its last point, unless that is its first or last character. -/
def splitName (name : List Char) : List Char × List Char :=
  let ending := (name.reverse.takeWhile (· ≠ '.')).length
  if ending = 0 || name.length ≤ ending + 1 then (name, [])
  else (name.take (name.length - ending - 1), name.drop (name.length - ending - 1))

/-- The last name without its ending. -/
def stem (path : Path) : String := String.ofList (splitName path.name.toList).1

/-- The path with another ending of its last name. -/
def withEnding (ending : String) (path : Path) : Path :=
  { path with names := path.names.dropLast ++ [path.stem ++ ending] }

end Path

end Stepwise
