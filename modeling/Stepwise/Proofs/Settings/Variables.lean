import Stepwise.Proofs.Effect
import Stepwise.Settings.Environment

/-!
# The table of variables

Variables are kept in the order in which each was first set, with the value it was last set to.
What a list of variables leaves of a table is told place by place: a variable that was there stays
where it was, and its value is the last one that the list has for it. So setting the same variables
again leaves the table as it is.
-/

namespace Stepwise

namespace Variables

variable {name : String} {pairs table : List (String × String)}

theorem lookup_cons (name : String) (pair : String × String) (table : List (String × String)) :
    (pair :: table).lookup name = if name = pair.1 then some pair.2 else table.lookup name := by
  rw [List.lookup_cons]
  by_cases same : name = pair.1
  · rw [if_pos same, beq_iff_eq.mpr same]
  · rw [if_neg same, beq_false_of_ne same]

theorem lookup_insert (name value other : String) (table : List (String × String)) :
    (insert name value table).lookup other =
      if other = name then some value else table.lookup other := by
  induction table with
  | nil => exact lookup_cons other (name, value) []
  | cons entry rest inductionHypothesis =>
    obtain ⟨first, old⟩ := entry
    rw [insert, lookup_cons]
    by_cases found : first = name
    · rw [if_pos found, lookup_cons, found]
      split <;> rfl
    · rw [if_neg found, lookup_cons, inductionHypothesis]
      by_cases same : other = first
      · rw [if_pos same, if_neg (same ▸ found), if_pos same]
      · rw [if_neg same, if_neg same]

/-- Sets variables one after the other. -/
def insertAll (pairs table : List (String × String)) : List (String × String) :=
  pairs.foldl (fun table pair => insert pair.1 pair.2 table) table

theorem insertAll_append (pairs more table : List (String × String)) :
    insertAll (pairs ++ more) table = insertAll more (insertAll pairs table) := List.foldl_append

/-- The last value in a list of variables is that of the last one, or else that of those before. -/
theorem lookup_reverse_cons (name : String) (pair : String × String)
    (pairs : List (String × String)) :
    (pair :: pairs).reverse.lookup name =
      (pairs.reverse.lookup name).or (if name = pair.1 then some pair.2 else none) := by
  rw [List.reverse_cons, List.lookup_append, lookup_cons, List.lookup_nil]

/-- A variable has the value that was last given for it, if one was given. -/
theorem lookup_insertAll (pairs table : List (String × String)) (name : String) :
    (insertAll pairs table).lookup name = (pairs.reverse.lookup name).or (table.lookup name) := by
  induction pairs generalizing table with
  | nil => rfl
  | cons pair rest inductionHypothesis =>
    rw [insertAll, List.foldl_cons, ← insertAll, inductionHypothesis, lookup_insert,
      lookup_reverse_cons, Option.or_assoc]
    split <;> rfl

/-- The first variable of a table stays where it is, and what else is set goes below it. -/
theorem insertAll_cons (pairs : List (String × String)) (name old : String)
    (rest : List (String × String)) :
    insertAll pairs ((name, old) :: rest) =
      (name, (pairs.reverse.lookup name).getD old) ::
        insertAll (pairs.filter fun pair => pair.1 ≠ name) rest := by
  induction pairs generalizing old rest with
  | nil => rfl
  | cons pair pairs inductionHypothesis =>
    obtain ⟨other, value⟩ := pair
    rw [insertAll, List.foldl_cons, ← insertAll, insert, lookup_reverse_cons]
    dsimp only
    by_cases same : name = other
    · rw [if_pos same, if_pos same, ← same, inductionHypothesis,
        List.filter_cons_of_neg (by simp)]
      cases pairs.reverse.lookup name <;> rfl
    · rw [if_neg same, if_neg same, inductionHypothesis,
        List.filter_cons_of_pos (by simpa using Ne.symm same), insertAll, insertAll,
        List.foldl_cons, Option.or_none]

/-- Leaving out a variable leaves the values of the others and none of its own. -/
theorem lookup_reverse_filter (pairs : List (String × String)) (name other : String) :
    (pairs.filter fun pair => pair.1 ≠ name).reverse.lookup other =
      if other = name then none else pairs.reverse.lookup other := by
  induction pairs with
  | nil => exact (ite_self _).symm
  | cons pair pairs inductionHypothesis =>
    rw [lookup_reverse_cons]
    by_cases same : pair.1 = name
    · rw [List.filter_cons_of_neg (by simpa using same), inductionHypothesis, same]
      split
      · rfl
      · exact (Option.or_none).symm
    · rw [List.filter_cons_of_pos (by simpa using same), lookup_reverse_cons, inductionHypothesis]
      by_cases there : other = name
      · rw [if_pos there, if_pos there, if_neg fun found => same (found.symm.trans there)]
        rfl
      · rw [if_neg there, if_neg there]

/-- Variables that have their last values already change nothing. -/
theorem insertAll_of_settled
    (settled : ∀ name value, pairs.reverse.lookup name = some value →
      table.lookup name = some value) : insertAll pairs table = table := by
  induction table generalizing pairs with
  | nil =>
    cases pairs with
    | nil => rfl
    | cons pair pairs =>
      have given := lookup_reverse_cons pair.1 pair pairs
      rw [if_pos rfl] at given
      cases last : pairs.reverse.lookup pair.1 with
      | none => cases settled pair.1 pair.2 (given.trans (by rw [last]; rfl))
      | some value => cases settled pair.1 value (given.trans (by rw [last]; rfl))
  | cons entry rest inductionHypothesis =>
    obtain ⟨first, old⟩ := entry
    rw [insertAll_cons, inductionHypothesis]
    · cases found : pairs.reverse.lookup first with
      | none => rfl
      | some value =>
        have same := settled first value found
        rw [lookup_cons, if_pos rfl] at same
        exact congrArg (fun value => (first, value) :: rest) (Option.some.inj same).symm
    · intro name value found
      rw [lookup_reverse_filter] at found
      split at found
      · cases found
      · rename_i apart
        have there := settled name value found
        rwa [lookup_cons, if_neg apart] at there

/-- Setting the same variables again changes nothing. -/
theorem insertAll_insertAll (pairs table : List (String × String)) :
    insertAll pairs (insertAll pairs table) = insertAll pairs table :=
  insertAll_of_settled fun name value found => by rw [lookup_insertAll, found, Option.some_or]

/-- In a table that was empty the variables stand in the order of their first occurrences. -/
theorem names_insertAll (pairs : List (String × String)) :
    (insertAll pairs []).map Prod.fst = (pairs.map Prod.fst).eraseDups := by
  match pairs with
  | [] => rfl
  | (name, value) :: rest =>
    rw [insertAll, List.foldl_cons, ← insertAll, insert, insertAll_cons, List.map_cons,
      names_insertAll (rest.filter _), List.map_cons, List.eraseDups_cons, List.filter_map]
    congr 4
    funext pair
    exact decide_not
termination_by pairs.length
decreasing_by exact Nat.lt_succ_of_le (List.length_filter_le _ _)

end Variables

namespace Environment

/-! ## Setting variables -/

theorem bindings_apply (source name value : String) (environment : Environment) :
    (environment.apply source name value).bindings =
      Variables.insert name value environment.bindings := by
  unfold apply
  split
  · rfl
  · split <;> rfl

/-- Keeps each of some variables and sets what it sets. -/
def applyAll (source : String) (pairs : List (String × String)) (environment : Environment) :
    Environment :=
  pairs.foldl (fun environment pair => environment.apply source pair.1 pair.2) environment

/-- The variables are kept whether or not they set anything. -/
theorem bindings_applyAll (source : String) (pairs : List (String × String))
    (environment : Environment) :
    (environment.applyAll source pairs).bindings =
      Variables.insertAll pairs environment.bindings :=
  (List.foldl_hom Environment.bindings fun environment pair =>
    (bindings_apply source pair.1 pair.2 environment).symm).symm

/-- The file of variables is looked for and read before any variable is set. -/
theorem runOn_loadFile (surroundings : Surroundings) (environment : Environment) :
    (loadFile surroundings).runOn environment =
      match firstFile surroundings.files (environment.candidates surroundings) with
      | .error f => (.error f, environment)
      | .ok none => (.ok (), environment)
      | .ok (some path) =>
        match surroundings.files.readText path with
        | .error f => (.error f, environment)
        | .ok text => (.ok (), environment.applyAll path.text (Variables.ofText text)) := by
  rw [loadFile, Effect.runOn_get_bind, Effect.runOn_lift_bind]
  rcases firstFile surroundings.files (environment.candidates surroundings) with _ | _ | path
  · rfl
  · rfl
  · dsimp only
    rw [Effect.runOn_lift_bind]
    cases surroundings.files.readText path <;> rfl

end Environment

end Stepwise
