import Stepwise.Time.Moment

/-!
# Values

Inputs, outputs and definition documents are made of dynamic values: the data of documents, a few
richer kinds that a host program may put in, two kinds that only the host can make, objects of its
own and values that cannot be shown, and what a document can only give by referring to itself.
-/

namespace Stepwise

/-- Which object of the host one is: the one with a mark, or the copy of its copy so many times
over. -/
structure Identity where
  mark : Mark
  copies : Nat
  deriving DecidableEq, Repr, Inhabited

/-- A dynamic value. Entries of a `map` keep the order in which their keys first came. An
`object` shows a fixed text and has named attributes; a `faulty` value fails, with its message,
whenever its text is asked for. An `endless` value is a list, tuple or map that contains itself or
another such value: it has a text, but it is unrolled for a few levels only. -/
inductive Value where
  | null
  | bool (b : Bool)
  | int (n : Int)
  | float (x : Binary64)
  | str (text : String)
  | bytes (content : List UInt8)
  | list (items : List Value)
  | tuple (items : List Value)
  | map (entries : List (Value × Value))
  | set (items : List Value)
  | date (d : Date)
  | moment (m : Moment)
  | object (identity : Identity) (text : String) (attributes : List (String × Value))
  | callable
  | faulty (identity : Identity) (message : String)
  | endless (text : Thunk String) (once : Value)

instance : Inhabited Value := ⟨.null⟩

namespace Value

/-- Attributes as they are given one after the other. Of those with one name the last counts, in
the place of the first. -/
def attributesOf (given : List (String × Value)) : List (String × Value) :=
  given.foldl (fun kept (name, v) =>
    if kept.any fun (other, _) => other = name then
      kept.map fun (other, held) => (other, if other = name then v else held)
    else kept ++ [(name, v)]) []

/-- The name of a value's kind, as messages give it. -/
def kind : Value → String
  | null => "NoneType"
  | bool _ => "bool"
  | int _ => "int"
  | float _ => "float"
  | str _ => "str"
  | bytes _ => "bytes"
  | list _ => "list"
  | tuple _ => "tuple"
  | map _ => "dict"
  | set _ => "set"
  | date _ => "date"
  | moment _ => "datetime"
  | object .. => "Obj"
  | callable => "function"
  | faulty .. => "Bad"
  | endless _ once => once.kind

/-- The name of a value's kind in full; only times have a longer one. -/
def fullKind : Value → String
  | date _ => "datetime.date"
  | moment _ => "datetime.datetime"
  | v => v.kind

/-- Null, false, zero and everything empty count as absent; all else is truthy. -/
def truthy : Value → Bool
  | null => false
  | bool b => b
  | int n => n ≠ 0
  | float x => !x.isZero
  | str text => text ≠ ""
  | bytes content => !content.isEmpty
  | list items => !items.isEmpty
  | tuple items => !items.isEmpty
  | map entries => !entries.isEmpty
  | set items => !items.isEmpty
  | _ => true

/-- The first level of a value. -/
def opened : Value → Value
  | endless _ once => once
  | v => v

def isNull : Value → Bool
  | null => true
  | _ => false

def isText : Value → Bool
  | str _ => true
  | _ => false

def isMap (v : Value) : Bool :=
  match v.opened with
  | map _ => true
  | _ => false

def isBool : Value → Bool
  | bool _ => true
  | _ => false

mutual

/-- Whether a value is endless or has an endless part. -/
def isEndless : Value → Bool
  | endless _ _ => true
  | list items => anyEndless items
  | tuple items => anyEndless items
  | set items => anyEndless items
  | map entries => anyEntryEndless entries
  | _ => false

def anyEndless : List Value → Bool
  | [] => false
  | item :: rest => isEndless item || anyEndless rest

def anyEntryEndless : List (Value × Value) → Bool
  | [] => false
  | (_, content) :: rest => isEndless content || anyEntryEndless rest

end

/-- The first value when it is truthy, the second otherwise. -/
def orElse (first second : Value) : Value := if first.truthy then first else second

/-- The optional value, with null for none. -/
def ofOption : Option Value → Value
  | some v => v
  | none => null

end Value

end Stepwise
