import Stepwise.Proofs.Execution.Copy
import Stepwise.Proofs.Store.Holding

/-!
# What a store gives back

Stores are alike when they have the same content, however often they were called. A store lacks an
execution when it says that it does not contain it, and it reads back when everything it holds is
loaded as a copy of what was saved and nothing else is loaded, which a store in memory does. A
folder reads back what its documents can tell; whether they tell all of a record is a matter of its
values.
-/

namespace Stepwise

namespace Store

/-- The stores have the same content. Files count when the records are in a folder. -/
def Alike (store other : Store) : Prop :=
  store.backing = other.backing ∧ ∀ path, store.backing = .folder path → store.files = other.files

/-- The store says that it has no execution of the id. -/
def Lacks (store : Store) (id : Value) : Prop := ((contains id).runOn store).1 = .ok false

/-- From one store to the other the record of an id stays what it is. -/
structure Keeps (id : Value) (store other : Store) : Prop where
  held : ∀ record, record.id = id → store.Holds record → other.Holds record
  lacked : store.Lacks id → other.Lacks id

/-- Whenever a load is answered, what the store holds is loaded as a copy, and what it lacks is not
loaded at all. -/
structure ReadsBack (store : Store) : Prop where
  held : ∀ (record : Execution) (answer : Option Execution) (left : Store), store.Holds record →
    (load record.id).runOn store = (.ok answer, left) →
    ∃ loaded, answer = some loaded ∧ loaded.original = record.original
  lacked : ∀ (id : Value) (answer : Option Execution) (left : Store), store.Lacks id →
    (load id).runOn store = (.ok answer, left) → answer = none

theorem alike_refl (store : Store) : store.Alike store := ⟨rfl, fun _ _ => rfl⟩

theorem alike_counting (store : Store) (call : StoreCall) :
    (store.counting call).Alike store := ⟨rfl, fun _ _ => rfl⟩

namespace Alike

variable {store other : Store}

theorem holds (alike : store.Alike other) {record : Execution} :
    store.Holds record ↔ other.Holds record := by
  obtain ⟨same, files⟩ := alike
  unfold Holds
  rw [← same]
  cases backing : store.backing with
  | memory kept => rfl
  | folder path => rw [files path backing]

theorem lacks (alike : store.Alike other) {id : Value} : store.Lacks id ↔ other.Lacks id := by
  obtain ⟨same, files⟩ := alike
  unfold Lacks contains
  simp only [Effect.runOn_get_bind, ← same]
  cases backing : store.backing with
  | memory kept =>
    simp only [Effect.runOn_lift_bind]
    cases id.hashable <;> exact Iff.rfl
  | folder path =>
    simp only [Effect.runOn_lift, files path backing]

/-- Stores with the same content have the same record of every id. -/
theorem keeps (alike : store.Alike other) (id : Value) : other.Keeps id store where
  held _ _ := alike.holds.mpr
  lacked := alike.lacks.mpr

end Alike

namespace Keeps

variable {id : Value} {store other last : Store}

theorem refl (id : Value) (store : Store) : store.Keeps id store := (alike_refl store).keeps id

theorem trans (first : store.Keeps id other) (second : other.Keeps id last) :
    store.Keeps id last where
  held record named := second.held record named ∘ first.held record named
  lacked := second.lacked ∘ first.lacked

end Keeps

/-! ## In memory -/

/-- A store in memory keeps copies and gives copies of them. -/
theorem readsBack_of_memory {store : Store} {kept : Table Execution}
    (backing : store.backing = .memory kept) : store.ReadsBack where
  held record answer left holds loaded := by
    have listed : kept.find? record.id = some record.copied := by
      simpa [Holds, backing] using holds
    have given := load_memory backing loaded
    rw [listed, Option.map_some] at given
    exact ⟨_, given, by rw [Execution.original_copied, Execution.original_copied]⟩
  lacked id answer left lacks loaded := by
    have given := load_memory backing loaded
    unfold Lacks contains at lacks
    simp only [Effect.runOn_get_bind, backing, Effect.runOn_lift_bind] at lacks
    cases key : id.hashable with
    | error f => simp [key] at lacks
    | ok _ =>
      rw [key] at lacks
      have absent : kept.contains id = false := Except.ok.inj lacks
      rw [Table.contains, Option.isSome_eq_false_iff, Option.isNone_iff_eq_none] at absent
      rw [given, absent]
      rfl

end Store

end Stepwise
