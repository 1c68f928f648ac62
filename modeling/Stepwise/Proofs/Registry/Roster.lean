import Mathlib.Data.Nat.Find
import Stepwise.Proofs.Value.Key

/-!
# Rosters

A history of deeds makes names come and go: after each part of it some names are present. A roster
lists those that are present at the end, each in the place that it got when it last came, so that a
name that is absent for a time comes last again. A table whose keys are texts stands for a roster:
inserting under a name that is there keeps its place, inserting under another puts it last, and
erasing takes it out.
-/

namespace Stepwise

namespace Roster

variable {δ α : Type}

/-- How many deeds of a history were done when something was absent for the last time. -/
def since (present : List δ → Bool) (history : List δ) : Nat :=
  Nat.findGreatest (fun count => present (history.take count) = false) history.length

/-- Names in the order in which they came, of those that are present and of no others. -/
structure Lists (present : String → List δ → Bool) (history : List δ) (names : List String) :
    Prop where
  listed : ∀ name, name ∈ names ↔ present name history = true
  ordered : names.Pairwise fun name other =>
    since (present name) history < since (present other) history

/-- The keys of a table are the names that are present, in the order in which they came. -/
def Stands (present : String → List δ → Bool) (history : List δ) (table : Table α) : Prop :=
  ∃ names, table.keys = names.map .str ∧ Lists present history names

/-! ## Coming and going -/

section Since

variable {present : List δ → Bool} {history : List δ} {deed : δ}

/-- When something was absent among the first deeds does not depend on those that follow. -/
theorem findGreatest_concat (present : List δ → Bool) (history : List δ) (deed : δ) {count : Nat}
    (within : count ≤ history.length) :
    Nat.findGreatest (fun count => present ((history ++ [deed]).take count) = false) count =
      Nat.findGreatest (fun count => present (history.take count) = false) count := by
  induction count with
  | zero => rfl
  | succ count inductionHypothesis =>
    rw [Nat.findGreatest_succ, Nat.findGreatest_succ, inductionHypothesis (by omega),
      List.take_append_of_le_length within]

/-- What is present after a deed came before it or with it, and what is absent comes later. -/
theorem since_concat : since present (history ++ [deed]) =
    if present (history ++ [deed]) then since present history else history.length + 1 := by
  have whole : (history ++ [deed]).take (history.length + 1) = history ++ [deed] :=
    List.take_of_length_le (by simp)
  rw [since, List.length_append, List.length_singleton, Nat.findGreatest_succ, whole]
  cases known : present (history ++ [deed]) with
  | false => simp
  | true =>
    rw [if_neg (by simp), if_pos rfl, since, findGreatest_concat present history deed le_rfl]

theorem since_of_absent (absent : present history = false) :
    since present history = history.length := by
  rw [since, Nat.findGreatest_eq]
  rw [List.take_length]
  exact absent

/-- What is present now, but was not at first, came at some time before. -/
theorem since_lt (first : present [] = false) (here : present history = true) :
    since present history < history.length := by
  refine lt_of_le_of_ne (Nat.findGreatest_le _) fun last => ?_
  have absent : present (history.take (since present history)) = false :=
    Nat.findGreatest_spec (P := fun count => present (history.take count) = false)
      (Nat.zero_le _) (by simpa using first)
  rw [last, List.take_length, here] at absent
  cases absent

end Since

/-! ## Rosters -/

variable {present : String → List δ → Bool} {history : List δ} {deed : δ} {names : List String}
  {name : String} {table : Table α}

theorem Lists.nodup (roster : Lists present history names) : names.Nodup :=
  roster.ordered.imp fun before same => by
    subst same
    exact lt_irrefl _ before

/-- A deed takes out what is absent afterwards, and what comes with it is put last. -/
theorem Lists.concat (roster : Lists present history names) (deed : δ) (new : Option String)
    (first : ∀ name, present name [] = false)
    (came : ∀ name, new = some name ↔
      present name history = false ∧ present name (history ++ [deed]) = true) :
    Lists present (history ++ [deed])
      ((names.filter fun name => present name (history ++ [deed])) ++ new.toList) where
  listed name := by
    rw [List.mem_append, List.mem_filter, roster.listed, Option.mem_toList, came]
    cases present name history <;> simp
  ordered := by
    have kept : ∀ name ∈ names.filter fun name => present name (history ++ [deed]),
        since (present name) (history ++ [deed]) = since (present name) history ∧
          present name history = true := by
      intro name member
      obtain ⟨listed, here⟩ := List.mem_filter.mp member
      exact ⟨by rw [since_concat, if_pos here], (roster.listed name).mp listed⟩
    refine List.pairwise_append.mpr ⟨?_, ?_, ?_⟩
    · refine (roster.ordered.filter _).imp_of_mem fun member member' before => ?_
      rw [(kept _ member).1, (kept _ member').1]
      exact before
    · cases new <;> simp
    · intro name member other last
      obtain ⟨absent, here⟩ := (came other).mp (Option.mem_toList.mp last)
      obtain ⟨same, there⟩ := kept name member
      rw [same, since_concat, if_pos here, since_of_absent absent]
      exact since_lt (first name) there

/-- A deed that makes nothing come or go leaves the roster. -/
theorem Lists.unchanged (roster : Lists present history names)
    (first : ∀ name, present name [] = false)
    (still : ∀ name, present name (history ++ [deed]) = present name history) :
    Lists present (history ++ [deed]) names := by
  have later := roster.concat deed none first fun name => by simp [still]
  have all : (names.filter fun name => present name (history ++ [deed])) = names :=
    List.filter_eq_self.mpr fun name member => by rw [still, (roster.listed name).mp member]
  rw [all] at later
  simpa using later

/-! ## Tables that stand for rosters -/

namespace Stands

theorem areKeys (stands : Stands present history table) : Table.AreKeys table.keys := by
  obtain ⟨names, keys, roster⟩ := stands
  rw [keys]
  exact .of_nodup roster.nodup

/-- Something is found under a name when it is present. -/
theorem isSome_find? (stands : Stands present history table) (name : String) :
    (table.find? (.str name)).isSome = present name history := by
  obtain ⟨names, keys, roster⟩ := stands
  rw [Bool.eq_iff_iff, ← roster.listed, Option.isSome_iff_ne_none, ne_eq,
    Table.find?_eq_none_iff_keys, keys]
  simp

/-- A table has no entries when no name is present. -/
theorem isEmpty_iff (stands : Stands present history table) :
    table.isEmpty = true ↔ ∀ name, present name history = false := by
  constructor
  · intro empty name
    rw [← stands.isSome_find? name, List.isEmpty_iff.mp empty]
    rfl
  · intro absent
    obtain ⟨names, keys, roster⟩ := stands
    cases table with
    | nil => rfl
    | cons entry rest =>
      cases names with
      | nil => cases keys
      | cons name others =>
        have here := (roster.listed name).mp List.mem_cons_self
        rw [absent] at here
        cases here

/-- A table without entries stands for a roster without names. -/
theorem nil (absent : ∀ name, present name history = false) :
    Stands present history ([] : Table α) :=
  ⟨[], rfl, fun name => by simp [absent], .nil⟩

theorem unchanged (stands : Stands present history table)
    (first : ∀ name, present name [] = false)
    (still : ∀ name, present name (history ++ [deed]) = present name history) :
    Stands present (history ++ [deed]) table := by
  obtain ⟨names, keys, roster⟩ := stands
  exact ⟨names, keys, roster.unchanged first still⟩

/-- What is inserted under a name makes the name come, unless it is there. -/
theorem insert (stands : Stands present history table) (first : ∀ name, present name [] = false)
    (a : α) (changed : ∀ other, present other (history ++ [deed]) =
      (decide (other = name) || present other history)) :
    Stands present (history ++ [deed]) (table.insert (.str name) a) := by
  have found := stands.isSome_find? name
  obtain ⟨names, keys, roster⟩ := stands
  have all : (names.filter fun other => present other (history ++ [deed])) = names := by
    refine List.filter_eq_self.mpr fun other member => ?_
    rw [changed, (roster.listed other).mp member, Bool.or_true]
  rw [Stands, Table.keys_insert, found, keys]
  cases here : present name history with
  | true =>
    refine ⟨names, rfl, roster.unchanged first fun other => ?_⟩
    rw [changed]
    by_cases same : other = name
    · rw [same, here, Bool.or_true]
    · rw [decide_eq_false same, Bool.false_or]
  | false =>
    have later := roster.concat deed (some name) first fun other => by
      rw [changed]
      by_cases same : other = name
      · simp [same, here]
      · simp [same, Ne.symm same]
    rw [all] at later
    exact ⟨names ++ [name], by simp, later⟩

/-- What is erased makes its name go. -/
theorem erase (stands : Stands present history table) (first : ∀ name, present name [] = false)
    (changed : ∀ other, present other (history ++ [deed]) =
      (decide (other ≠ name) && present other history)) :
    Stands present (history ++ [deed]) (table.erase (.str name)) := by
  have sound := stands.areKeys
  obtain ⟨names, keys, roster⟩ := stands
  have later := roster.concat deed none first fun other => by
    rw [changed]
    cases present other history <;> simp
  have left : (names.filter fun other => present other (history ++ [deed])) =
      names.filter fun other => decide (other ≠ name) := by
    refine List.filter_congr fun other member => ?_
    rw [changed, (roster.listed other).mp member, Bool.and_true]
  rw [left] at later
  refine ⟨_, ?_, later⟩
  rw [Table.keys_erase sound, keys, List.filter_map, Option.toList_none, List.append_nil]
  congr 1
  exact List.filter_congr fun other _ => by simp

end Stands

end Roster

end Stepwise
