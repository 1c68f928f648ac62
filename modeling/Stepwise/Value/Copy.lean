import Stepwise.Fault.Basic

/-!
# Deep copies

What is kept is a copy, so that later changes of what the host holds do not reach it. Objects of
the host are copied too, with their attributes. Some names of attributes are for saying how an
object is copied: what an object has under them is called, and since no value answers a call, an
object with such an attribute cannot be copied.
-/

namespace Stepwise

namespace Fault

/-- A value was called. -/
def notCallable (v : Value) : Fault := typeError s!"'{v.fullKind}' object is not callable"

/-- An object has nothing by which it could be copied. -/
def notCopied (v : Value) : Fault := machinery "Error" s!"un(deep)copyable object of type {v.kind}"

/-- What was made, unless something stood in the way. -/
def barring {α : Type} (obstacle : Option Fault) (made : α) : Except Fault α :=
  match obstacle with
  | some f => .error f
  | none => .ok made

end Fault

namespace Value

/-- An object with this attribute makes its copy itself; null leaves it to the others. -/
def copyHook : String := "__deepcopy__"

/-- An object with this attribute tells what it is made of; null leaves that to the plain one. -/
def partsHook : String := "__reduce_ex__"

/-- The plain one, which nothing is left to. -/
def plainPartsHook : String := "__reduce__"

/-- The names of places for attributes, without which an object is taken apart in the plain way. -/
def placesName : String := "__slots__"

/-- An object with this attribute tells the state that its copy starts from. -/
def stateHook : String := "__getstate__"

/-- What keeps an object with these attributes from being taken apart. -/
def partsFault? (owner : Value) (attributes : List (String × Value)) : Option Fault :=
  let stateFault := (attributes.lookup stateHook).map Fault.notCallable
  match attributes.lookup partsHook with
  | none => stateFault
  | some null =>
    match attributes.lookup plainPartsHook with
    | none =>
      if (attributes.lookup placesName).any truthy then
        some (.typeError ("a class that defines __slots__ without defining __getstate__ " ++
          "cannot be pickled"))
      else stateFault
    | some hook => some (if hook.truthy then .notCallable hook else .notCopied owner)
  | some hook => some (.notCallable hook)

/-- What keeps an object with these attributes from being copied, whatever they hold. -/
def hookFault? (owner : Value) (attributes : List (String × Value)) : Option Fault :=
  match attributes.lookup copyHook with
  | none => partsFault? owner attributes
  | some null => partsFault? owner attributes
  | some hook => some (.notCallable hook)

mutual

/-- What keeps a value from being copied, which is the first object in it that cannot be. -/
def obstacle? : Value → Option Fault
  | list items => itemObstacle? items
  | tuple items => itemObstacle? items
  | map entries => entryObstacle? entries
  | set items => itemObstacle? items
  | object identity text attributes =>
    (hookFault? (object identity text []) attributes).or (attributeObstacle? attributes)
  | _ => none

def itemObstacle? : List Value → Option Fault
  | [] => none
  | item :: rest => (obstacle? item).or (itemObstacle? rest)

def entryObstacle? : List (Value × Value) → Option Fault
  | [] => none
  | (key, content) :: rest =>
    ((obstacle? content).or (obstacle? key)).or (entryObstacle? rest)

def attributeObstacle? : List (String × Value) → Option Fault
  | [] => none
  | (_, content) :: rest => (obstacle? content).or (attributeObstacle? rest)

end

mutual

/-- The deep copy of a value that nothing keeps from being copied. Objects of the host are copied
too, all else is what it was. -/
def copied : Value → Value
  | list items => list (copiedItems items)
  | tuple items => tuple (copiedItems items)
  | map entries => map (copiedEntries entries)
  | set items => set (copiedItems items)
  | object identity text attributes =>
    object { identity with copies := identity.copies + 1 } text (copiedAttributes attributes)
  | faulty identity message => faulty { identity with copies := identity.copies + 1 } message
  | v => v

def copiedItems : List Value → List Value
  | [] => []
  | item :: rest => copied item :: copiedItems rest

def copiedEntries : List (Value × Value) → List (Value × Value)
  | [] => []
  | (key, content) :: rest => (copied key, copied content) :: copiedEntries rest

def copiedAttributes : List (String × Value) → List (String × Value)
  | [] => []
  | (name, content) :: rest => (name, copied content) :: copiedAttributes rest

end

/-- A deep copy. -/
def copy (v : Value) : Except Fault Value := Fault.barring v.obstacle? v.copied

end Value

end Stepwise
