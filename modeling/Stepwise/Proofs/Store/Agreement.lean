import Stepwise.Proofs.Store.Keeping

/-!
# Stores that cannot be told apart

Two stores agree when they represent the same executions, in whatever order. Agreeing stores give
the same answer to a request, and agree after it. So a store in memory and a store in a folder that
are empty at first answer every sequence of requests alike, provided that the ids can name files,
that what is saved has a form in JSON, and that start times differ whenever a request goes by them.
-/

namespace Stepwise

/-- What can be asked of a store. -/
inductive StoreRequest where
  | save (execution : Execution)
  | load (id : String)
  | contains (id : String)
  | delete (id : String)
  | cleanup (cutoff : Moment)
  | size
  | list (filter : Filter) (limit : Value)

/-- What a store answers. -/
inductive StoreAnswer where
  | done
  | found (execution : Option Execution)
  | present (known : Bool)
  | count (number : Nat)
  | listed (executions : List Execution)

namespace StoreRequest

/-- What a store does on a request. -/
def answer : StoreRequest → Effect Store StoreAnswer
  | save execution => do
    Store.save execution
    return .done
  | load id => do
    let execution ← Store.load (.str id)
    return .found execution
  | contains id => do
    let known ← Store.contains (.str id)
    return .present known
  | delete id => do
    Store.delete (.str id)
    return .done
  | cleanup cutoff => do
    let number ← Store.cleanup cutoff
    return .count number
  | size => do
    let store ← get
    return .count store.size
  | list filter limit => do
    let executions ← Store.list filter limit
    return .listed executions

/-- An id of a request can name a file, and an execution to save can be kept. -/
def IsProper : StoreRequest → Prop
  | save execution => execution.IsStorable
  | load id | contains id | delete id => Folder.IsId id
  | cleanup _ | size | list _ _ => True

/-- Whether the answer depends on the order of start times. -/
def goesByTime : StoreRequest → Bool
  | cleanup _ | list _ _ => true
  | _ => false

end StoreRequest

namespace Store

/-- The answers to requests that come one after the other. -/
def answers (store : Store) : List StoreRequest → List (Except Fault StoreAnswer)
  | [] => []
  | request :: rest =>
    (request.answer.runOn store).1 :: answers (request.answer.runOn store).2 rest

/-- Whenever a request goes by the start times, the executions in the store have different ones. -/
def TellsApart (store : Store) : List StoreRequest → Prop
  | [] => True
  | request :: rest =>
    (request.goesByTime = true → Listing.StartApart store.executions) ∧
      TellsApart (request.answer.runOn store).2 rest

/-- The stores represent the same executions. -/
def Agrees (store other : Store) : Prop :=
  ∃ held held' : List (String × Execution),
    store.Represents held ∧ other.Represents held' ∧ held.Perm held'

variable {store other : Store} {held held' : List (String × Execution)}

/-- What a cleanup finds to be over does not depend on the order either. -/
theorem overBy_of_perm (represents : store.Represents held) (same : held.Perm held')
    (apart : Listing.StartApart (held.map Prod.snd)) (cutoff : Moment) :
    overBy cutoff held = overBy cutoff held' := by
  rw [overBy, overBy, same.length_eq, Listing.newest_of_perm
    ((same.map Prod.snd).filter Filter.all.accepts)
    (fun execution member => (represents.storable .all execution member).contemporary)
    (apart.filter _)]

/-- An answer that two agreeing stores give alike, and after which they agree. -/
theorem agrees_step {α : Type} {effect : Effect Store α} {after : α → StoreAnswer}
    {result result' : Except Fault α} {left left' : Store}
    (first : effect.runOn store = (result, left)) (second : effect.runOn other = (result', left'))
    (same : result = result') (agrees : left.Agrees left') :
    ((effect >>= fun a => pure (after a)).runOn store).1 =
        ((effect >>= fun a => pure (after a)).runOn other).1 ∧
      Agrees ((effect >>= fun a => pure (after a)).runOn store).2
        ((effect >>= fun a => pure (after a)).runOn other).2 := by
  subst same
  rw [Effect.runOn_bind, Effect.runOn_bind, first, second]
  cases result with
  | error f => exact ⟨rfl, agrees⟩
  | ok a => exact ⟨rfl, agrees⟩

/-- Agreeing stores answer a request alike, and they agree afterwards. -/
theorem Agrees.answer (agrees : store.Agrees other) {request : StoreRequest}
    (proper : request.IsProper)
    (apart : request.goesByTime = true → Listing.StartApart store.executions) :
    (request.answer.runOn store).1 = (request.answer.runOn other).1 ∧
      Agrees (request.answer.runOn store).2 (request.answer.runOn other).2 := by
  obtain ⟨held, held', represents, represents', same⟩ := agrees
  have names := represents.orderly.apart
  have sameFilter (keep : String × Execution → Bool) := same.filter keep
  cases request with
  | save execution =>
    obtain ⟨id, known, named⟩ := proper.fit.named
    obtain ⟨left, changed, saved, keeps, arranged⟩ := represents.save_eq named known proper
    obtain ⟨left', changed', saved', keeps', arranged'⟩ := represents'.save_eq named known proper
    refine agrees_step saved saved' rfl ⟨changed, changed', keeps, keeps', ?_⟩
    exact arranged.trans (((sameFilter _).append_right _).trans arranged'.symm)
  | load id =>
    refine agrees_step (represents.load_eq proper) (represents'.load_eq proper)
      (congrArg Except.ok (Table.lookup_of_perm same names)) ?_
    exact ⟨held, held', represents.called .load, represents'.called .load, same⟩
  | contains id =>
    refine agrees_step (represents.contains_eq proper) (represents'.contains_eq proper) ?_
      ⟨held, held', represents, represents', same⟩
    rw [Table.lookup_of_perm same names]
  | delete id =>
    obtain ⟨left, deleted, keeps⟩ := represents.delete_eq proper
    obtain ⟨left', deleted', keeps'⟩ := represents'.delete_eq proper
    exact agrees_step deleted deleted' rfl ⟨_, _, keeps, keeps', sameFilter _⟩
  | cleanup cutoff =>
    have different := (apart rfl).of_perm represents.executions_perm
    obtain ⟨left, cleaned, keeps⟩ := represents.cleanup_eq different cutoff
    obtain ⟨left', cleaned', keeps'⟩ :=
      represents'.cleanup_eq (different.of_perm (same.map Prod.snd)) cutoff
    have expired := overBy_of_perm represents same different cutoff
    rw [← expired] at cleaned' keeps'
    exact agrees_step cleaned cleaned' rfl ⟨_, _, keeps, keeps', sameFilter _⟩
  | size =>
    refine ⟨?_, held, held', represents, represents', same⟩
    change Except.ok (StoreAnswer.count store.size) = .ok (.count other.size)
    rw [represents.size_eq, represents'.size_eq, same.length_eq]
  | list filter limit =>
    have different := (apart rfl).of_perm represents.executions_perm
    obtain ⟨left, listed, keeps⟩ := represents.list_eq different filter limit
    obtain ⟨left', listed', keeps'⟩ :=
      represents'.list_eq (different.of_perm (same.map Prod.snd)) filter limit
    refine agrees_step listed listed' ?_ ⟨_, _, keeps, keeps', same⟩
    exact Listing.newest_of_perm ((same.map Prod.snd).filter filter.accepts)
      (fun execution member => (represents.storable filter execution member).contemporary)
      (different.filter _) limit

/-- Agreeing stores answer all requests alike. -/
theorem Agrees.answers (agrees : store.Agrees other) {requests : List StoreRequest}
    (proper : ∀ request ∈ requests, request.IsProper) (apart : store.TellsApart requests) :
    store.answers requests = other.answers requests := by
  induction requests generalizing store other with
  | nil => rfl
  | cons request rest inductionHypothesis =>
    obtain ⟨same, agrees'⟩ := agrees.answer (proper request List.mem_cons_self) apart.1
    rw [Store.answers, Store.answers, same, inductionHypothesis agrees'
      (fun later member => proper later (List.mem_cons_of_mem _ member)) apart.2]

namespace Sample

/-- A machine with one directory that is empty. -/
def files : Files := ⟨[(["data"], .directory)], []⟩

def path : Path := ⟨"/", ["data"]⟩

/-- An id of so many letters. -/
def letters (count : Nat) : String := String.ofList (List.replicate count 'a')

def noon (year : Nat) : Moment := ⟨⟨year, 1, 1⟩, 12, 0, 0, 0, some 0⟩

/-- A record of one step, at noon of the first day of a year. -/
def record (id : String) (year : Nat) : Execution where
  id := .str id
  workflow := .str "letters"
  status := .succeeded
  input := .map [(.str "name", .str "Ada")]
  outputs := .map []
  results := [⟨.str "note", .succeeded, .list [.null, .bool true], none, some (noon year), none⟩]
  startedAt := some (noon year)
  finishedAt := some (noon year)
  error := .null

def requests : List StoreRequest :=
  [.save (record "b-1" 2024), .save (record "a-1" 2025), .load "a-1", .list .all (.int 1),
    .contains "b-1", .delete "a-1", .size]

theorem hasDirectory : files.HasDirectory path ["data"] where
  located := by decide +kernel
  found := rfl
  room := by decide +kernel

end Sample

end Store

end Stepwise
