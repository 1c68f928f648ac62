import Mathlib.Data.List.Induction
import Stepwise.Definition.Basic
import Stepwise.Execution.Basic
import Stepwise.Proofs.Value.Copy
import Stepwise.Proofs.Value.Table

/-!
# The replay of recorded results

What a record binds can be told from its results alone: the output of every success goes under the
variable of its step, one after the other. A variable that is bound again keeps its place and takes
the later output. Said for names and not for arbitrary keys, this is a list of names with what they
stand for, and the map of a record is read off from it.
-/

namespace Stepwise

/-- Names with what they stand for, in the order in which they were first bound. -/
abbrev Bindings := List (String × Value)

namespace Bindings

/-- Binds a name. A name that is bound already keeps its place. -/
def bind (name : String) (v : Value) : Bindings → Bindings
  | [] => [(name, v)]
  | (bound, held) :: rest =>
    if bound = name then (bound, v) :: rest else (bound, held) :: bind name v rest

/-- Binds one name after the other, to begin with nothing. -/
def ofList (given : List (String × Value)) : Bindings :=
  given.foldl (fun bindings entry => bindings.bind entry.1 entry.2) []

/-- The map with these names for its keys. -/
def asMap (bindings : Bindings) : Value :=
  .map (bindings.map fun entry => (.str entry.1, entry.2))

def names (bindings : Bindings) : List String := bindings.map Prod.fst

/-- The bindings of copies. -/
def copied (bindings : Bindings) : Bindings :=
  bindings.map fun entry => (entry.1, entry.2.copied)

variable {name other : String} {v : Value} {bindings : Bindings}

/-! ## Last write wins, first position is kept -/

theorem lookup_bind_self (name : String) (v : Value) (bindings : Bindings) :
    (bindings.bind name v).lookup name = some v := by
  induction bindings with
  | nil => simp [bind]
  | cons entry rest inductionHypothesis =>
    obtain ⟨bound, held⟩ := entry
    by_cases same : bound = name
    · simp [bind, same]
    · have apart : (name == bound) = false := by simpa using Ne.symm same
      simp [bind, same, List.lookup_cons, apart, inductionHypothesis]

theorem lookup_bind_of_ne (apart : other ≠ name) (v : Value) (bindings : Bindings) :
    (bindings.bind name v).lookup other = bindings.lookup other := by
  have unlike : (other == name) = false := by simpa using apart
  induction bindings with
  | nil => simp [bind, List.lookup_cons, unlike]
  | cons entry rest inductionHypothesis =>
    obtain ⟨bound, held⟩ := entry
    by_cases same : bound = name
    · simp [bind, same, List.lookup_cons, unlike]
    · simp only [bind, if_neg same, List.lookup_cons, inductionHypothesis]

theorem names_bind (name : String) (v : Value) (bindings : Bindings) :
    (bindings.bind name v).names =
      if name ∈ bindings.names then bindings.names else bindings.names ++ [name] := by
  induction bindings with
  | nil => rfl
  | cons entry rest inductionHypothesis =>
    obtain ⟨bound, held⟩ := entry
    by_cases same : bound = name
    · simp [bind, names, same]
    · have apart : name ≠ bound := Ne.symm same
      have listed : names ((bound, held) :: rest) = bound :: names rest := rfl
      have later : names (bind name v ((bound, held) :: rest)) =
          bound :: names (bind name v rest) := by
        rw [bind, if_neg same]
        rfl
      rw [later, listed, inductionHypothesis]
      by_cases present : name ∈ names rest
      · simp [present]
      · simp [present, apart]

theorem ofList_append (given : List (String × Value)) (name : String) (v : Value) :
    ofList (given ++ [(name, v)]) = (ofList given).bind name v := by
  simp [ofList]

/-- A name stands for what it was bound to last. -/
theorem lookup_ofList (given : List (String × Value)) (name : String) :
    (ofList given).lookup name = ((given.filter (·.1 = name)).map Prod.snd).getLast? := by
  induction given using List.reverseRecOn with
  | nil => rfl
  | append_singleton given entry inductionHypothesis =>
    obtain ⟨bound, v⟩ := entry
    rw [ofList_append]
    by_cases same : bound = name
    · subst same
      simp [lookup_bind_self]
    · rw [lookup_bind_of_ne (Ne.symm same), inductionHypothesis]
      simp [same]

/-- The names are in the order in which they were first bound. -/
theorem names_ofList (given : List (String × Value)) :
    (ofList given).names = (given.map Prod.fst).eraseDups := by
  induction given using List.reverseRecOn with
  | nil => rfl
  | append_singleton given entry inductionHypothesis =>
    obtain ⟨bound, v⟩ := entry
    rw [ofList_append, names_bind, inductionHypothesis, List.map_append, List.eraseDups_append]
    by_cases present : bound ∈ given.map Prod.fst
    · simp [List.removeAll, present]
    · simp [List.removeAll, present, List.eraseDups_cons]

/-! ## Bindings and maps -/

/-- Putting a value into the map under a text is binding the text. -/
theorem asMap_bind (name : String) (v : Value) (bindings : Bindings) :
    bindings.asMap.assign (.str name) v = .ok (bindings.bind name v).asMap := by
  have inserted : Table.insert (.str name) v
      (bindings.map fun entry => (Value.str entry.1, entry.2)) =
        (bindings.bind name v).map fun entry => (Value.str entry.1, entry.2) := by
    induction bindings with
    | nil => rfl
    | cons entry rest inductionHypothesis =>
      obtain ⟨bound, held⟩ := entry
      by_cases same : bound = name
      · simp [Table.insert, bind, same]
      · simp [Table.insert, bind, same, inductionHypothesis]
  simp only [asMap, Value.assign, inserted]
  rfl

theorem asMap_copied (bindings : Bindings) : bindings.asMap.copied = bindings.copied.asMap := by
  rw [asMap, Value.copied, asMap, Value.copiedEntries_eq_relabel, Value.relabelEntries_eq_map,
    copied, List.map_map, List.map_map]
  congr 1
  refine List.map_congr_left fun entry _ => ?_
  simp [Value.copied_eq_relabel, Value.relabel]

theorem copied_bind (name : String) (v : Value) (bindings : Bindings) :
    (bindings.bind name v).copied = bindings.copied.bind name v.copied := by
  induction bindings with
  | nil => rfl
  | cons entry rest inductionHypothesis =>
    obtain ⟨bound, held⟩ := entry
    by_cases same : bound = name
    · simp [bind, copied, same]
    · simp only [bind, copied, if_neg same, List.map_cons] at inductionHypothesis ⊢
      rw [inductionHypothesis]

end Bindings

/-! ## Replaying results -/

/-- The output variable of a step, if it has one. -/
def Step.variable? (step : Step) : Option String :=
  match step.output with
  | .str name => if name = "" then none else some name
  | _ => none

/-- What a result binds: the output of a success, under the variable of its step. -/
def Step.binds? (step : Step) (result : StepResult) : Option (String × Value) :=
  if result.status = .succeeded then step.variable?.map fun name => (name, result.output)
  else none

/-- What the results of the first steps bind, one after the other. -/
def replay (steps : List Step) (results : List StepResult) : Bindings :=
  .ofList ((steps.zip results).filterMap fun entry => entry.1.binds? entry.2)

/-- The variable of every step is a text, or it has none. -/
def NamesOutputs (steps : List Step) : Prop :=
  ∀ step ∈ steps, step.output.truthy = true → step.output.isText = true

/-- Copied results bind copies. -/
theorem replay_copied (steps : List Step) (results : List StepResult) :
    replay steps (results.map StepResult.copied) = (replay steps results).copied := by
  have binding (entry : Step × StepResult) : entry.1.binds? entry.2.copied =
      (entry.1.binds? entry.2).map fun entry => (entry.1, entry.2.copied) := by
    obtain ⟨step, result⟩ := entry
    unfold Step.binds?
    by_cases succeeded : result.status = .succeeded
    · simp [StepResult.copied, succeeded, Function.comp_def]
    · simp [StepResult.copied, succeeded]
  have folding (given : List (String × Value)) :
      Bindings.ofList (given.map fun entry => (entry.1, entry.2.copied)) =
        (Bindings.ofList given).copied := by
    induction given using List.reverseRecOn with
    | nil => rfl
    | append_singleton given entry inductionHypothesis =>
      rw [List.map_append, List.map_singleton, Bindings.ofList_append, inductionHypothesis,
        Bindings.ofList_append, Bindings.copied_bind]
  rw [replay, replay, ← folding, List.zip_map_right, List.filterMap_map, List.map_filterMap]
  congr 1
  exact congrArg (List.filterMap · (steps.zip results)) (funext binding)

end Stepwise
