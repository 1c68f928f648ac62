import Stepwise.Effect
import Stepwise.Store.Folder
import Stepwise.Store.Order

/-!
# Stores

A store keeps executions by id, in memory or in a folder of files. Its calls may be planned to
fail, by the kind of call and its number among the calls of that kind, counting those the store
makes of itself; a planned fault comes before anything else happens.
-/

namespace Stepwise

/-- The calls that may be planned to fail. -/
inductive StoreCall where
  | save
  | load
  | list
  | delete
  deriving DecidableEq, Repr

def StoreCall.name : StoreCall → String
  | save => "save"
  | load => "load"
  | list => "list"
  | delete => "delete"

inductive Backing where
  | memory (kept : Table Execution)
  | folder (path : Path)
  deriving Inhabited

/-- `plan` gives the fault planned for the call of a kind with a number, from one on; `made` counts
the calls of each kind so far. The files belong to the machine that the store is on, and a store
in memory does not touch them. -/
structure Store where
  backing : Backing
  files : Files
  plan : StoreCall → Nat → Option Fault
  made : StoreCall → Nat

/-- Which executions a listing is about; null stands for any workflow. -/
structure Filter where
  workflow : Value
  status : Option Status
  deriving Inhabited

def Filter.all : Filter := ⟨.null, none⟩

def Filter.accepts (filter : Filter) (execution : Execution) : Bool :=
  (filter.workflow.isNull || execution.workflow.equal filter.workflow) &&
    filter.status.all fun status => execution.status = status

namespace Store

def create (backing : Backing) (files : Files) : Store :=
  ⟨backing, files, fun _ _ => none, fun _ => 0⟩

/-- The store of a folder, which is made if need be. -/
def inFolder (files : Files) (path : Path) : Except Fault Store := do
  let files ← files.makeDirectories path
  return create (.folder path) files

/-- Counts a call and lets a planned fault happen. -/
def enter (call : StoreCall) : Effect Store Unit := do
  let store ← get
  let number := store.made call + 1
  set { store with made := fun other => if other = call then number else store.made other }
  match store.plan call number with
  | some f => throw f
  | none => return

/-- Keeps a snapshot of an execution, in place of an earlier one with its id. -/
def save (execution : Execution) : Effect Store Unit := do
  enter .save
  let store ← get
  match store.backing with
  | .memory kept =>
    let snapshot ← lift execution.snapshot
    lift execution.id.hashable
    set { store with backing := .memory (kept.insert execution.id snapshot) }
  | .folder path =>
    let (result, files) := Folder.save store.files path execution
    set { store with files }
    lift result

/-- The execution of an id, if there is one; a store in memory gives a copy. -/
def load (id : Value) : Effect Store (Option Execution) := do
  enter .load
  let store ← get
  match store.backing with
  | .memory kept =>
    lift id.hashable
    match kept.find? id with
    | some execution => return some (← lift execution.snapshot)
    | none => return none
  | .folder path => lift (Folder.load store.files path id)

/-- The executions of the documents that can be read; others are passed over. -/
def loadEach : List Path → Effect Store (List Execution)
  | [] => return []
  | document :: rest => do
    let found ← tryCatch (load (.str document.stem)) fun f =>
      if f.isPersistence then return none else throw f
    let others ← loadEach rest
    return found.toList ++ others

/-- The executions that a filter accepts, newest first, up to a limit; a store in memory gives
copies. -/
def list (filter : Filter) (limit : Value) : Effect Store (List Execution) := do
  enter .list
  let store ← get
  match store.backing with
  | .memory kept =>
    let found ← lift (Listing.newest ((kept.map Prod.snd).filter filter.accepts) limit)
    found.mapM fun execution => lift execution.snapshot
  | .folder path =>
    let found ← loadEach (Folder.documents store.files path)
    lift (Listing.newest (found.filter filter.accepts) limit)

def contains (id : Value) : Effect Store Bool := do
  let store ← get
  match store.backing with
  | .memory kept =>
    lift id.hashable
    return kept.contains id
  | .folder path => lift (Folder.contains store.files path id)

/-- Removes the execution of an id, if there is one. Nothing is asked of the id when there is none
at all. -/
def delete (id : Value) : Effect Store Unit := do
  enter .delete
  let store ← get
  match store.backing with
  | .memory [] => return
  | .memory kept =>
    lift id.hashable
    set { store with backing := .memory (kept.erase id) }
  | .folder path =>
    let files ← lift (Folder.erase store.files path id)
    set { store with files }

/-- The number of executions or, in a folder, of documents. -/
def size (store : Store) : Nat :=
  match store.backing with
  | .memory kept => kept.length
  | .folder path => (Folder.documents store.files path).length

/-- Whether an execution finished before a moment. Times with and without offset cannot be
compared. -/
def expired (cutoff : Moment) (execution : Execution) : Except Fault Bool :=
  match execution.isTerminal, execution.finishedAt with
  | true, some finished =>
    if finished.comparable cutoff then .ok (finished.instant < cutoff.instant)
    else .error (.typeError "can't compare offset-naive and offset-aware datetimes")
  | _, _ => .ok false

/-- The executions that finished before a moment. -/
def expiredOf (cutoff : Moment) : List Execution → Except Fault (List Execution)
  | [] => .ok []
  | execution :: rest => do
    let gone ← expired cutoff execution
    let others ← expiredOf cutoff rest
    return if gone then execution :: others else others

/-- Removes the executions that finished before a moment and counts them. -/
def cleanup (cutoff : Moment) : Effect Store Nat := do
  let store ← get
  let found ← list .all (.int store.size)
  let gone ← lift (expiredOf cutoff found)
  gone.forM fun execution => delete execution.id
  return gone.length

end Store

end Stepwise
