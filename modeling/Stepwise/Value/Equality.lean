import Stepwise.Value.Basic

/-!
# Equality of values

Numbers are equal by value across their kinds, and so are truth values as one and zero; moments
with offsets are equal when they name the same instant; maps and sets disregard order. Objects of
the host and faulty values are equal to themselves alone. Not-a-number is not even that; but as a
part of something, as a key or as a member it counts as the same as itself.
-/

namespace Stepwise

/-- What a value without parts is compared by. -/
inductive Leaf where
  | null
  | number (n : Int)
  | fraction (x : Binary64)
  | text (s : String)
  | bytes (content : List UInt8)
  | date (d : Date)
  | wall (count : Nat)
  | instant (count : Int)
  | callable
  | host (identity : Identity)
  deriving DecidableEq, Repr

namespace Value

/-- The leaf of a value without parts. -/
def leaf? : Value → Option Leaf
  | null => some .null
  | bool b => some (.number (if b then 1 else 0))
  | int n => some (.number n)
  | float x =>
    match x.toInt? with
    | some n => some (.number n)
    | none => some (.fraction x)
  | str text => some (.text text)
  | bytes content => some (.bytes content)
  | date d => some (.date d)
  | moment m => some (if m.isZoned then .instant m.instant else .wall m.localCount)
  | object identity _ _ => some (.host identity)
  | callable => some .callable
  | faulty identity _ => some (.host identity)
  | _ => none

/-- The same leaf. -/
def leafSame (v w : Value) : Bool :=
  match v.leaf?, w.leaf? with
  | some x, some y => x = y
  | _, _ => false

mutual

/-- Whether one value can stand for the other: they are equal, or they are one. Values without an
end are one when they have one text. -/
def same : Value → Value → Bool
  | list xs, list ys => itemsSame xs ys
  | tuple xs, tuple ys => itemsSame xs ys
  | map es, map fs => es.length = fs.length && entriesWithin es fs
  | set xs, set ys => xs.length = ys.length && itemsWithin xs ys
  | endless text _, endless text' _ => text.get = text'.get
  | v, w => leafSame v w

/-- The same item by item. -/
def itemsSame : List Value → List Value → Bool
  | [], [] => true
  | x :: xs, y :: ys => same x y && itemsSame xs ys
  | _, _ => false

/-- Every item is the same as one of the others. -/
def itemsWithin : List Value → List Value → Bool
  | [], _ => true
  | x :: xs, ys => ys.any (fun y => same x y) && itemsWithin xs ys

/-- Every entry is found, key and value, among the others. -/
def entriesWithin : List (Value × Value) → List (Value × Value) → Bool
  | [], _ => true
  | (k, v) :: rest, fs => fs.any (fun f => same k f.1 && same v f.2) && entriesWithin rest fs

end

def isNaN : Value → Bool
  | float x => x.isNaN
  | _ => false

/-- Equality. Not-a-number is not equal to itself. -/
def equal (v w : Value) : Bool := !v.isNaN && v.same w

/-- Equality with a text. -/
def isStr (v : Value) (text : String) : Bool :=
  match v with
  | str s => s = text
  | _ => false

mutual

/-- The kind of the first part that cannot be part of a key: lists, maps and sets change. -/
def unhashable? : Value → Option String
  | list _ => some "list"
  | map _ => some "dict"
  | set _ => some "set"
  | tuple items => firstUnhashable? items
  | endless _ once => unhashable? once
  | _ => none

def firstUnhashable? : List Value → Option String
  | [] => none
  | item :: rest => (unhashable? item).or (firstUnhashable? rest)

end

end Value

/-- A map from values to anything, in the order in which its keys first came. -/
abbrev Table (α : Type) := List (Value × α)

namespace Table

variable {α : Type}

def find? (key : Value) : Table α → Option α
  | [] => none
  | (k, a) :: rest => if k.same key then some a else find? key rest

def contains (key : Value) (table : Table α) : Bool := (table.find? key).isSome

/-- The same key keeps its place and its form and takes the new content; a new key comes last. -/
def insert (key : Value) (a : α) : Table α → Table α
  | [] => [(key, a)]
  | (k, b) :: rest => if k.same key then (k, a) :: rest else (k, b) :: insert key a rest

def erase (key : Value) : Table α → Table α
  | [] => []
  | (k, b) :: rest => if k.same key then rest else (k, b) :: erase key rest

def keys (table : Table α) : List Value := table.map Prod.fst

/-- The table of a list of entries: of equal keys the first is kept, with the last content. -/
def ofEntries (entries : List (Value × α)) : Table α :=
  entries.foldl (fun table entry => table.insert entry.1 entry.2) []

end Table

namespace Value

/-- The content at a text key of a map. -/
def get? (key : String) (entries : List (Value × Value)) : Option Value :=
  Table.find? (.str key) entries

/-- Whether a list has a member that a value can stand for. -/
def isAmong (v : Value) (items : List Value) : Bool := items.any (·.same v)

/-- The first members of a list, without those that an earlier one can stand for. -/
def distinct (items : List Value) : List Value :=
  items.foldl (fun seen v => if v.isAmong seen then seen else seen ++ [v]) []

end Value

end Stepwise
